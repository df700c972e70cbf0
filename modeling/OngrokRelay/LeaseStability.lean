import OngrokRelay.Ingress
import OngrokRelay.Restart
import OngrokRelay.TokenHistory

/-
  A node publishes its TCP service again.

  `register_service` finds the node's entry of that name, takes over its id and its
  port, and finds its listener running. That no check is in the way rests on the
  directory being well formed, which it is under every interleaving; a restart reads it
  from the services table, and leaves it so when the rows make a well-formed directory:
  those of the running one do (`Server.tableInOrder_of_rowsMatch`), and so may those that
  a failed store call or a kill in the middle of an operation has left behind.

  1. `Server.WellKept.next`: no event breaks a well-kept directory, a restart on such a
     table included.
  2. `admitService_renewed`, `registerService_renewed`: what is admitted, and the state
     that the registration leaves.
  3. `lease_stable`: a service keeps its id, its port and its listener, and a second
     registration changes nothing but the event log.
  4. `lease_unstable`: it does change that; and a table that a lost race has left with an
     entry of its own makes, after a restart, another service of the name come first.
-/

namespace OngrokRelay

open Interleaving Transition ControlPlane

/-! ## Directories of a server over its life -/

namespace Server

/-- The state in which the server serves. -/
def state : Server → Option AppState
  | stopped _ => none
  | running p => some p.shared

/-- A server is started again only on a table whose services are together well formed. -/
def TableInOrder (cfg : RelayConfig) : Server → ServerEvent → Prop
  | running p, .restart _ _ _ => WellFormed cfg p.shared.store.loadServices
  | _, _ => True

/-- The directory is well formed, or the one a start would read is. -/
def WellKept (cfg : RelayConfig) : Server → Prop
  | stopped store => WellFormed cfg store.loadServices
  | running p => WellFormed cfg p.shared.services

theorem loadServices_initialized (initialAdminHash initialUserHash : TokenHash) (outcome : Outcome)
    (store : ServiceStore) :
    (store.loadOrInitializeTokens initialAdminHash initialUserHash outcome).1.loadServices =
      store.loadServices := by
  unfold ServiceStore.loadOrInitializeTokens
  split
  · rfl
  · cases outcome <;> rfl

theorem loadServices_empty {store : ServiceStore} (hempty : store.services = ∅) :
    store.loadServices = ∅ :=
  loadServices_eq (fun id s => by simp) (by rw [hempty]; intro key s; simp)

/-- The table of a well-kept directory is in order. -/
theorem tableInOrder_of_rowsMatch {cfg : RelayConfig} {p : ControlPlane}
    (h : (running p).WellKept cfg) (hrows : RowsMatch p.shared.services p.shared.store.services)
    (e : ServerEvent) : TableInOrder cfg (running p) e := by
  cases e with
  | control e => trivial
  | restart env initialAdminHash initialUserHash =>
    simp only [TableInOrder]
    rw [loadServices_eq h.key hrows]
    exact h

/-- **No event** breaks a well-kept directory. -/
theorem WellKept.next {cfg : RelayConfig} {s : Server} (h : s.WellKept cfg) {e : ServerEvent}
    (he : s.TableInOrder cfg e) : (s.next cfg e).WellKept cfg := by
  cases e with
  | control e =>
    cases s with
    | stopped store => exact h
    | running p => exact run_wellFormed cfg h [e]
  | restart env initialAdminHash initialUserHash =>
    have hload : WellFormed cfg s.store.loadServices := by
      cases s with
      | stopped store => exact h
      | running p => exact he
    simp only [Server.next]
    split
    · rename_i st hstart
      obtain ⟨hservices, -, -⟩ := start_ok hstart
      simp only [WellKept, hservices]
      exact hload
    · simp only [WellKept, loadServices_initialized]
      exact hload

/-- **Every directory** of a server that began with none is well formed, as long as its
restarts find the table in order. -/
theorem wellFormed_of_run {cfg : RelayConfig} {store : ServiceStore} (hempty : store.services = ∅)
    {events : List ServerEvent}
    (htables : EveryStep (Server.next cfg) (TableInOrder cfg) (stopped store) events) {st : AppState}
    (hst : (run (Server.next cfg) (stopped store) events).state = some st) :
    WellFormed cfg st.services := by
  have hbegin : (stopped store).WellKept cfg := by
    simp only [WellKept, loadServices_empty hempty]
    exact WellFormed.empty cfg
  have hkept := (everyState_of_everyStep
    (fun s e (h : WellKept cfg s) he => h.next he) hbegin htables).last
  cases hserver : run (Server.next cfg) (stopped store) events with
  | stopped store' =>
    rw [hserver] at hst
    cases hst
  | running p =>
    rw [hserver] at hst hkept
    cases hst
    exact hkept

end Server

/-! ## Registering a service that is there -/

/-- The entry that replaces that of `previous`. -/
def renewed (cfg : RelayConfig) (previous service : ServiceDefinition) : ServiceDefinition :=
  { service with
    serviceId := previous.serviceId
    publicPort := previous.publicPort
    publicHost := some cfg.publicHost }

section
variable {cfg : RelayConfig} {services : Services} {id : ServiceId}
  {previous service : ServiceDefinition}

/-- The entry of a name is the one that a registration of the name finds. -/
theorem WellFormed.previousService_eq (h : WellFormed cfg services)
    (hprevious : services[id]? = some previous)
    (hname : service.serviceName = previous.serviceName) :
    previousService services service previous.nodeId = some previous := by
  cases hfound : previousService services service previous.nodeId with
  | none => exact absurd hname.symm (previousService_none hfound hprevious rfl)
  | some found =>
    obtain ⟨⟨id', hid'⟩, -, hsame⟩ := previousService_some hfound
    obtain rfl := h.nameUnique id' id found previous hid' hprevious (hsame.trans hname)
    exact hid'.symm.trans hprevious

theorem WellFormed.name_own (h : WellFormed cfg services)
    (hprevious : services[id]? = some previous)
    (hname : service.serviceName = previous.serviceName) :
    nameTaken services service previous.nodeId = false := by
  refine Bool.eq_false_iff.mpr fun htaken => ?_
  obtain ⟨id', other, hother, hsame, hnode⟩ := nameTaken_iff.mp htaken
  obtain rfl := h.nameUnique id' id other previous hother hprevious (hsame.trans hname)
  rw [hprevious] at hother
  cases hother
  exact hnode rfl

/-- No other entry leases the port of an entry. -/
theorem WellFormed.port_own (h : WellFormed cfg services)
    (hprevious : services[id]? = some previous) {port : UInt16} (hleases : leases port previous) :
    portLeased services previous.serviceId port = false := by
  refine Bool.eq_false_iff.mpr fun hleased => ?_
  obtain ⟨id', other, hother, hne, hport⟩ := portLeased_iff.mp hleased
  obtain rfl := h.portUnique id' id other previous port hother hprevious hport hleases
  rw [hprevious] at hother
  cases hother
  exact hne rfl

/-- **The definition is admitted** under the id and the port of the entry it renews. -/
theorem admitService_renewed (h : WellFormed cfg services)
    (hprevious : services[id]? = some previous) (htcp : previous.protocol = .tcp)
    (hname : service.serviceName = previous.serviceName) (hproto : service.protocol = .tcp)
    (hmetadata : service.metadata.validate = .ok ()) :
    admitService cfg services service previous.nodeId = .ok (renewed cfg previous service) := by
  have hvalid : validateServiceName service.serviceName = .ok () :=
    hname ▸ h.name id previous hprevious
  have haddress := h.address id previous hprevious
  simp only [WellAddressed, htcp] at haddress
  obtain ⟨-, port, hport, hlow, hhigh⟩ := haddress
  have hrange : ¬(port < cfg.tcpPortStart ∨ port > cfg.tcpPortEnd) := by
    simp only [not_or, gt_iff_lt, UInt16.not_lt]
    exact ⟨hlow, hhigh⟩
  have hleased := h.port_own hprevious (leases_iff.mpr ⟨htcp, hport⟩)
  have hreused : reusePrevious services previous.nodeId service =
      { service with serviceId := previous.serviceId, publicPort := previous.publicPort } := by
    simp only [reusePrevious, h.previousService_eq hprevious hname, htcp, hproto, beq_self_eq_true,
      Bool.and_self, if_true]
  simp only [admitService, hvalid, hmetadata, h.name_own hprevious hname, Bool.false_eq_true,
    if_false, hreused, assignAddress, hproto, wantedPort, hport, if_neg hrange, hleased]
  simp only [renewed, hport, hproto]

variable {env : Env} {st : AppState}

/-- **The listener is found running**, so the entry and its row are all that changes,
and an event is recorded. -/
theorem registerService_renewed (h : WellFormed cfg st.services)
    (hprevious : st.services[id]? = some previous) (htcp : previous.protocol = .tcp)
    (hlistener : previous.serviceId ∈ st.tcpIngressTasks)
    (hname : service.serviceName = previous.serviceName) (hproto : service.protocol = .tcp)
    (hmetadata : service.metadata.validate = .ok ()) (hput : env.put = .ok ()) :
    registerService cfg env service previous.nodeId st =
      (recordEvent env .serviceRegistered (some previous.nodeId) (some previous.serviceId) none
        (putService env (renewed cfg previous service)
          (insertService (renewed cfg previous service) st)),
        .ok (renewed cfg previous service)) := by
  have hadmitted := admitService_renewed h hprevious htcp hname hproto hmetadata
  have hcases := registerService_cases cfg env service previous.nodeId st
  generalize registerService cfg env service previous.nodeId st = result at hcases ⊢
  cases hcases with
  | refused hrefused =>
    rw [hadmitted] at hrefused
    cases hrefused
  | notStored _ hput' =>
    rw [hput] at hput'
    cases hput'
  | stored hadmitted' =>
    rw [hadmitted] at hadmitted'
    cases hadmitted'
    rfl
  | listening hadmitted' _ _ _ hserved | rolledBack hadmitted' _ _ _ hserved =>
    rw [hadmitted] at hadmitted'
    cases hadmitted'
    exact absurd hlistener hserved

/-- An entry that is there with its row is put there again. -/
theorem putService_insertService_self (hentry : st.services[service.serviceId]? = some service)
    (hrow : st.store.services[service.serviceId.text]? = some service) (hput : env.put = .ok ()) :
    putService env service (insertService service st) = st := by
  have hservices : st.services.insert service.serviceId service = st.services :=
    BTreeMap.insert_eq_self_iff.mpr hentry
  have hrows : st.store.services.insert service.serviceId.text service = st.store.services :=
    BTreeMap.insert_eq_self_iff.mpr hrow
  simp only [putService, insertService, hput, commit_ok, ServiceStore.put, hservices, hrows]

end

/-- The two states differ in their event logs at most. -/
def SameButEvents (st st' : AppState) : Prop :=
  ∃ events, st' = { st with store := { st.store with events } }

/-- **A lease is stable.** A node that registers its TCP service again, whatever id and
port it asks for, gets the id and the port it has, in every directory that a server
reaches whose restarts find well-formed tables; no other entry changes, and no listener is
opened. Once more, and all that is new is an event. -/
theorem lease_stable (cfg : RelayConfig) {store : ServiceStore} (hempty : store.services = ∅)
    {events : List ServerEvent}
    (htables : EveryStep (Server.next cfg) (Server.TableInOrder cfg) (.stopped store) events)
    {st : AppState} (hst : (run (Server.next cfg) (.stopped store) events).state = some st)
    {id : ServiceId} {previous : ServiceDefinition} (hprevious : st.services[id]? = some previous)
    (htcp : previous.protocol = .tcp) (hlistener : id ∈ st.tcpIngressTasks)
    {service : ServiceDefinition} (hname : service.serviceName = previous.serviceName)
    (hnode : service.nodeId = previous.nodeId) (hproto : service.protocol = .tcp)
    (hmetadata : service.metadata.validate = .ok ()) {env env' : Env} (hput : env.put = .ok ())
    (hput' : env'.put = .ok ()) :
    let first := registerService cfg env service previous.nodeId st
    let second := registerService cfg env' service previous.nodeId first.1
    ∃ registered, first.2 = .ok registered ∧ registered.serviceId = previous.serviceId ∧
      registered.publicPort = previous.publicPort ∧
      (∀ id' : ServiceId, id' ≠ id → first.1.services[id']? = st.services[id']?) ∧
      first.1.tcpIngressTasks = st.tcpIngressTasks ∧
      second.2 = .ok registered ∧ SameButEvents first.1 second.1 := by
  have hwf := Server.wellFormed_of_run hempty htables hst
  obtain rfl : previous.serviceId = id := hwf.key id previous hprevious
  intro first second
  have hfirst : first = _ :=
    registerService_renewed hwf hprevious htcp hlistener hname hproto hmetadata hput
  -- the second call finds the entry that the first has made, with its row
  have hentry : first.1.services[previous.serviceId]? = some (renewed cfg previous service) := by
    rw [hfirst]
    exact BTreeMap.get_insert_self ..
  have hrow : first.1.store.services[previous.serviceId.text]? =
      some (renewed cfg previous service) := by
    rw [hfirst]
    simp only [recordEvent_store_services, putService, hput, commit_ok, ServiceStore.put,
      insertService, renewed, BTreeMap.get_insert_self]
  have htasks : first.1.tcpIngressTasks = st.tcpIngressTasks := by
    rw [hfirst]
    rfl
  have hwf' : WellFormed cfg first.1.services :=
    registerService_wellFormed hwf service previous.nodeId
  have hsecond : second = (recordEvent env' .serviceRegistered (some previous.nodeId)
      (some previous.serviceId) none first.1, .ok (renewed cfg previous service)) := by
    have hagain : registerService cfg env' service (renewed cfg previous service).nodeId first.1 = _ :=
      registerService_renewed hwf' hentry hproto (htasks ▸ hlistener) rfl hproto hmetadata hput'
    have hsame : putService env' (renewed cfg (renewed cfg previous service) service)
        (insertService (renewed cfg (renewed cfg previous service) service) first.1) = first.1 :=
      putService_insertService_self hentry hrow hput'
    rw [hsame, show (renewed cfg previous service).nodeId = previous.nodeId from hnode] at hagain
    exact hagain
  refine ⟨renewed cfg previous service, by rw [hfirst], rfl, rfl, fun id' hid' => ?_, htasks, ?_, ?_⟩
  · rw [hfirst]
    exact BTreeMap.get_insert_ne _ _ (Ne.symm hid')
  · rw [hsecond]
  · rw [hsecond]
    exact recordEvent_eq ..

theorem Server.tableInOrder_control (cfg : RelayConfig) (s : Server)
    (events : List (Event Env ControlTask)) :
    EveryStep (Server.next cfg) (TableInOrder cfg) s (events.map ServerEvent.control) := by
  induction events generalizing s with
  | nil => trivial
  | cons e events ih => exact ⟨by cases s <;> trivial, ih _⟩

/-- An empty table is in order, whatever the directory has. -/
theorem Server.tableInOrder_empty {cfg : RelayConfig} {s : Server}
    (hempty : s.store.services.isEmpty) (e : ServerEvent) : s.TableInOrder cfg e := by
  cases s with
  | stopped store => trivial
  | running p =>
    cases e with
    | control e => trivial
    | restart env initialAdminHash initialUserHash =>
      have hnone : p.shared.store.loadServices = ∅ :=
        loadServices_empty (Std.ExtTreeMap.isEmpty_iff.mp hempty)
      simp only [TableInOrder, hnone]
      exact WellFormed.empty cfg

namespace Sample

/-- A start, the first of a database or a later one. -/
def boots : ServerEvent := .restart {} (hashToken "admin") (hashToken "user")

def life (events : List ServerEvent) : Server := run (Server.next config) (.stopped {}) events

def leased (id : BitVec 128) (port : UInt16) : ServiceDefinition :=
  { service id "web" 7 .tcp (some port) with publicHost := some "relay.test" }

/-- Node 7 publishes a TCP service, which is given the first port. -/
def takesLease : List (Event Env ControlTask) :=
  connects 0 11 7 ++ registers 0 ++
    .run 0 { input := .ok (.registerService (service 1 "web" 7 .tcp none)) } ::
      List.replicate 6 (.run 0 {})

/-- The same, but that the service is not stored. -/
def losesRow : List (Event Env ControlTask) :=
  connects 0 11 7 ++ registers 0 ++
    .run 0 { input := .ok (.registerService (service 1 "web" 7 .tcp none)) } ::
      List.replicate 6 (.run 0 { put := .error "disk full" })

/-- A service is deleted while its registration is about to store it, and another one of
its name is published. -/
def strandsRow : List (Event Env ControlTask) :=
  connects 0 11 7 ++ registers 0 ++
    .spawn (.service (.register ⟨7⟩ (.lock (service 1 "web" 7 .tcp none)))) :: .run 1 {} ::
    .spawn (.service (.delete ⟨1⟩ .remove)) :: List.replicate 4 (.run 2 {}) ++
    List.replicate 5 (.run 1 {}) ++
    .spawn (.service (.register ⟨7⟩ (.lock (service 2 "web" 7 .tcp (some 20001))))) ::
      List.replicate 6 (.run 3 {})

/-- The server is started again when a service has not been stored. -/
def leasing : List ServerEvent :=
  (boots :: losesRow.map .control) ++ boots :: takesLease.map .control

def stranded : List ServerEvent := boots :: strandsRow.map .control ++ [boots]

theorem leasing_runs : (life leasing).state.isSome := by decide +kernel

theorem stranded_runs : (life stranded).state.isSome := by decide +kernel

end Sample

/-- Node 7 asks for the port 20001, under a new id, on a server that was started again
after it had failed to store the service. -/
theorem lease_stable_web :
    ∃ st registered, (Sample.life Sample.leasing).state = some st ∧
      st.services[(⟨1⟩ : ServiceId)]? = some (Sample.leased 1 20000) ∧
      (registerService Sample.config {} (Sample.service 2 "web" 7 .tcp (some 20001)) ⟨7⟩ st).2 =
        .ok registered ∧
      registered.serviceId = ⟨1⟩ ∧ registered.publicPort = some 20000 := by
  have htables : EveryStep (Server.next Sample.config) (Server.TableInOrder Sample.config)
      (.stopped {}) Sample.leasing :=
    everyStep_append.mpr ⟨⟨trivial, Server.tableInOrder_control ..⟩,
      Server.tableInOrder_empty (by decide +kernel) _, Server.tableInOrder_control ..⟩
  let st := (Sample.life Sample.leasing).state.get Sample.leasing_runs
  have hprevious : st.services[(⟨1⟩ : ServiceId)]? = some (Sample.leased 1 20000) := by decide +kernel
  have hlistener : (⟨1⟩ : ServiceId) ∈ st.tcpIngressTasks := by decide +kernel
  have hput : ({} : Env).put = .ok () := rfl
  obtain ⟨registered, hok, hid, hport, -⟩ := lease_stable Sample.config rfl htables
    (Option.some_get Sample.leasing_runs).symm hprevious rfl hlistener
    (rfl : (Sample.service 2 "web" 7 .tcp (some 20001)).serviceName = _) rfl rfl rfl hput hput
  exact ⟨_, registered, (Option.some_get Sample.leasing_runs).symm, hprevious, hok, hid, hport⟩

/-- **Registering once more** records one more event; and where a row was stored after its
entry had been deleted, the next start has two entries of one name, of which a
registration finds the first. -/
theorem lease_unstable :
    (∃ st, (Sample.life Sample.leasing).state = some st ∧
      st.services[(⟨1⟩ : ServiceId)]? = some (Sample.leased 1 20000) ∧
      (⟨1⟩ : ServiceId) ∈ st.tcpIngressTasks ∧
      let first := registerService Sample.config {} (Sample.service 2 "web" 7 .tcp none) ⟨7⟩ st
      let env : Env := { event := fun _ => ⟨⟨1⟩, 0, .ok ()⟩ }
      let second := registerService Sample.config env (Sample.service 2 "web" 7 .tcp none) ⟨7⟩ first.1
      second.1 ≠ first.1) ∧
    ∃ st, (Sample.life Sample.stranded).state = some st ∧
      st.services[(⟨2⟩ : ServiceId)]? = some (Sample.leased 2 20001) ∧
      (⟨2⟩ : ServiceId) ∈ st.tcpIngressTasks ∧
      (registerService Sample.config {} (Sample.service 3 "web" 7 .tcp none) ⟨7⟩ st).2 =
        .ok (Sample.leased 1 20000) := by
  refine ⟨⟨_, (Option.some_get Sample.leasing_runs).symm, ?_, ?_, ?_⟩,
    _, (Option.some_get Sample.stranded_runs).symm, ?_, ?_, ?_⟩
  all_goals decide +kernel

end OngrokRelay
