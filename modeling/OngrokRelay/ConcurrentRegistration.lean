import OngrokRelay.Listeners

/-
  Concurrent registrations of one TCP name by one node.

  `ensure_tcp_ingress` looks for a listener, binds one and enters it into the
  task map in three separate steps, and a call whose bind fails withdraws by
  service id. The calls of one node for one name share that id, so the id a
  loser withdraws may be the winner's.

  1. `registerStep_standing`: one section of a call keeps entry, row and listener
     under every id but the one it withdraws, and leaves the call with what its
     new control point promises.
  2. `acknowledged_kept`: in every run in which no call withdraws an id that
     another call was admitted under and has not failed, entry, row and
     listener of every call that has returned Ok are there.
  3. `loser_withdraws_winner`: without the condition the call that loses the race
     for the port withdraws the service of the call that won it.
-/

namespace OngrokRelay

open Interleaving Transition

/-- A definition of this name, as TCP, of this node. -/
structure IsFor (nodeId : NodeId) (name : String) (service : ServiceDefinition) : Prop where
  node : service.nodeId = nodeId
  name : service.serviceName = name
  protocol : service.protocol = .tcp

/-! ## What a control point promises -/

namespace RegisterPc

/-- The definition of a call that has found or entered its listener. -/
def served : RegisterPc → Option ServiceDefinition
  | .event service => some service
  | .done (.ok service) => some service
  | _ => none

/-- The definition of a call that has written its row and has not failed. -/
def stored : RegisterPc → Option ServiceDefinition
  | .lookUp service => some service
  | .bind service _ => some service
  | .insertTask service _ => some service
  | pc => pc.served

/-- The definition of a call that was admitted and has not failed. -/
def claims : RegisterPc → Option ServiceDefinition
  | .put service => some service
  | pc => pc.stored

/-- The definition a call withdraws in its next section. -/
def withdraws : RegisterPc → Option ServiceDefinition
  | .rollBack service => some service
  | .deleteRow service => some service
  | _ => none

/-- The definition a call asks for. -/
def requests : RegisterPc → Option ServiceDefinition
  | .lock service => some service
  | _ => none

end RegisterPc

namespace ServiceTask

def claims : ServiceTask → Option ServiceDefinition
  | register _ pc => pc.claims
  | _ => none

def withdraws : ServiceTask → Option ServiceDefinition
  | register _ pc => pc.withdraws
  | _ => none

end ServiceTask

section
variable (nodeId : NodeId) (name : String)

/-- The directory holds the service under the id. -/
def HasEntry (st : AppState) (id : ServiceId) : Prop :=
  ∃ s, st.services[id]? = some s ∧ IsFor nodeId name s

/-- The services table holds it. -/
def HasRow (st : AppState) (id : ServiceId) : Prop :=
  ∃ s, st.store.services[id.text]? = some s ∧ IsFor nodeId name s

/-- What an acknowledged registration is entitled to. -/
structure Acknowledged (st : AppState) (id : ServiceId) : Prop where
  entry : HasEntry nodeId name st id
  row : HasRow nodeId name st id
  listener : id ∈ st.tcpIngressTasks

/-- Every call that has returned Ok has what it is entitled to. -/
def KeepsAcknowledged (p : Pool AppState ServiceTask) : Prop :=
  ∀ service : ServiceDefinition, .register nodeId (.done (.ok service)) ∈ p.tasks →
    Acknowledged nodeId name p.shared service.serviceId

/-- A task that joins is a call of the node for the name, as TCP. -/
def Joins : Event Env ServiceTask → Prop
  | .run _ _ => True
  | .spawn task => ∃ service, task = .register nodeId (.lock service) ∧ IsFor nodeId name service

/-- A call that withdraws an id is the only one that was admitted under it and
has not failed. -/
def SafeWithdrawal (p : Pool AppState ServiceTask) : Event Env ServiceTask → Bool
  | .run i _ =>
    match p.tasks[i]?.bind ServiceTask.withdraws with
    | some service => p.tasks.all fun other =>
        other.claims.all fun claimed => claimed.serviceId != service.serviceId
    | none => true
  | .spawn _ => true

/-- What a call has at its control point. -/
structure Standing (st : AppState) (pc : RegisterPc) : Prop where
  requests : ∀ s, pc.requests = some s → IsFor nodeId name s
  claims : ∀ s, pc.claims = some s → IsFor nodeId name s ∧ HasEntry nodeId name st s.serviceId
  stored : ∀ s, pc.stored = some s → HasRow nodeId name st s.serviceId
  served : ∀ s, pc.served = some s → s.serviceId ∈ st.tcpIngressTasks

/-- What one section leaves of the services it does not withdraw. -/
structure LeavesStanding (pc : RegisterPc) (st st' : AppState) : Prop where
  entry : ∀ id, (∀ s, pc.withdraws = some s → s.serviceId ≠ id) →
    HasEntry nodeId name st id → HasEntry nodeId name st' id
  row : ∀ id, (∀ s, pc.withdraws = some s → s.serviceId ≠ id) →
    HasRow nodeId name st id → HasRow nodeId name st' id
  listener : ∀ id, id ∈ st.tcpIngressTasks → id ∈ st'.tcpIngressTasks

end

section
variable {nodeId : NodeId} {name : String} {st : AppState}

theorem HasEntry.insert {id : ServiceId} (h : HasEntry nodeId name st id) {s : ServiceDefinition}
    (hs : IsFor nodeId name s) : HasEntry nodeId name (insertService s st) id := by
  obtain ⟨old, hold, hfor⟩ := h
  by_cases hid : s.serviceId = id
  · subst hid
    exact ⟨s, BTreeMap.get_insert_self _ _ _, hs⟩
  · exact ⟨old, (BTreeMap.get_insert_ne _ _ hid).trans hold, hfor⟩

theorem HasEntry.removeService {id : ServiceId} (h : HasEntry nodeId name st id) {other : ServiceId}
    (hne : other ≠ id) : HasEntry nodeId name (removeService other st) id := by
  obtain ⟨s, hs, hfor⟩ := h
  exact ⟨s, (BTreeMap.get_erase_ne _ hne).trans hs, hfor⟩

theorem hasRow_putService {env : Env} {u : Unit} (hput : env.put = .ok u) {s : ServiceDefinition}
    (hs : IsFor nodeId name s) : HasRow nodeId name (putService env s st) s.serviceId := by
  refine ⟨s, ?_, hs⟩
  simp only [putService, hput, commit_ok, ServiceStore.put, BTreeMap.get_insert_self]

theorem HasRow.putService {id : ServiceId} (h : HasRow nodeId name st id) (env : Env)
    {s : ServiceDefinition} (hs : IsFor nodeId name s) :
    HasRow nodeId name (putService env s st) id := by
  cases hput : env.put with
  | error e =>
    have hst : OngrokRelay.putService env s st = st := by
      simp only [OngrokRelay.putService, hput, commit_error]
    rwa [hst]
  | ok u =>
    by_cases heq : s.serviceId = id
    · exact heq ▸ hasRow_putService hput hs
    · obtain ⟨row, hrow, hfor⟩ := h
      refine ⟨row, ?_, hfor⟩
      simp only [OngrokRelay.putService, hput, commit_ok, ServiceStore.put]
      rw [BTreeMap.get_insert_ne _ _ fun htext => heq (UuidId.text_injective htext), hrow]

theorem HasRow.deleteRow {id : ServiceId} (h : HasRow nodeId name st id) (env : Env)
    {other : ServiceId} (hne : other ≠ id) : HasRow nodeId name (deleteRow env other st) id := by
  obtain ⟨row, hrow, hfor⟩ := h
  refine ⟨row, ?_, hfor⟩
  unfold OngrokRelay.deleteRow
  cases env.delete with
  | error e => exact hrow
  | ok _ =>
    exact (BTreeMap.get_erase_ne _ fun htext => hne (UuidId.text_injective htext)).trans hrow

theorem HasRow.recordEvent {id : ServiceId} (h : HasRow nodeId name st id) (env : Env)
    (kind : EventKind) (eventNode : Option NodeId) (eventService : Option ServiceId)
    (eventToken : Option TokenKind) :
    HasRow nodeId name (recordEvent env kind eventNode eventService eventToken st) id := by
  have hrows := recordEvent_store_services env kind eventNode eventService eventToken st
  obtain ⟨row, hrow, hfor⟩ := h
  exact ⟨row, (congrArg (·[id.text]?) hrows).trans hrow, hfor⟩

theorem RegisterPc.stored_of_served {pc : RegisterPc} {s : ServiceDefinition}
    (h : pc.served = some s) : pc.stored = some s := by
  cases pc with
  | event service | done result => exact h
  | _ => cases h

theorem RegisterPc.claims_of_stored {pc : RegisterPc} {s : ServiceDefinition}
    (h : pc.stored = some s) : pc.claims = some s := by
  cases pc with
  | put service => cases h
  | _ => exact h

/-- A call that has failed is promised nothing. -/
theorem standing_failed {pc : RegisterPc} (hclaims : pc.claims = none)
    (hrequests : pc.requests = none) : Standing nodeId name st pc := by
  have hno {s : ServiceDefinition} (hs : pc.claims = some s) : False := by
    rw [hclaims] at hs
    cases hs
  refine ⟨fun s hs => ?_, fun s hs => (hno hs).elim,
    fun s hs => (hno (RegisterPc.claims_of_stored hs)).elim,
    fun s hs => (hno (RegisterPc.claims_of_stored (RegisterPc.stored_of_served hs))).elim⟩
  rw [hrequests] at hs
  cases hs

theorem leavesStanding_refl (pc : RegisterPc) : LeavesStanding nodeId name pc st st :=
  ⟨fun _ _ h => h, fun _ _ h => h, fun _ h => h⟩

/-- **One section of a call.** -/
theorem registerStep_standing (cfg : RelayConfig) (env : Env) {pc : RegisterPc}
    (h : Standing nodeId name st pc) :
    LeavesStanding nodeId name pc st (registerStep cfg nodeId env st pc).1 ∧
      Standing nodeId name (registerStep cfg nodeId env st pc).1
        (registerStep cfg nodeId env st pc).2 := by
  cases pc with
  | lock service =>
    simp only [registerStep, registerLocked]
    cases hadmitted : admitService cfg st.services service nodeId with
    | error e => exact ⟨leavesStanding_refl _, standing_failed rfl rfl⟩
    | ok admitted =>
      -- the admitted definition is the requested one, under some id and port
      have hspec := admitService_spec hadmitted
      have hrequest := h.requests service rfl
      have hfor : IsFor nodeId name admitted := ⟨hspec.serviceNode.trans hrequest.node,
        hspec.serviceName.trans hrequest.name, hspec.protocol.trans hrequest.protocol⟩
      refine ⟨⟨fun id _ hid => hid.insert hfor, fun _ _ hid => hid, fun _ hid => hid⟩,
        fun s hs => (by cases hs), fun s hs => ?_, fun s hs => (by cases hs),
        fun s hs => (by cases hs)⟩
      cases hs
      exact ⟨hfor, admitted, BTreeMap.get_insert_self _ _ _, hfor⟩
  | put service =>
    obtain ⟨hfor, hentry⟩ := h.claims service rfl
    have hleaves : LeavesStanding nodeId name (.put service) st (putService env service st) :=
      ⟨fun _ _ hid => hid, fun _ _ hid => hid.putService env hfor, fun _ hid => hid⟩
    simp only [registerStep]
    cases hput : env.put with
    | error e => exact ⟨hleaves, standing_failed rfl rfl⟩
    | ok _ =>
      simp only [hfor.protocol, if_true]
      refine ⟨hleaves, fun s hs => (by cases hs), fun s hs => ?_, fun s hs => ?_,
        fun s hs => (by cases hs)⟩
      · cases hs
        exact ⟨hfor, hentry⟩
      · cases hs
        exact hasRow_putService hput hfor
  | lookUp service =>
    simp only [registerStep]
    split
    · exact ⟨leavesStanding_refl _, standing_failed rfl rfl⟩
    · refine ⟨?_, ?_⟩
      · split <;> exact leavesStanding_refl _
      · split
        · rename_i hserved
          refine ⟨fun s hs => (by cases hs), h.claims, h.stored, fun s hs => ?_⟩
          cases hs
          exact Std.ExtTreeMap.mem_iff_contains.mpr hserved
        · exact ⟨fun s hs => (by cases hs), h.claims, h.stored, fun s hs => (by cases hs)⟩
  | bind service port =>
    simp only [registerStep]
    cases env.bind port with
    | error e => exact ⟨leavesStanding_refl _, standing_failed rfl rfl⟩
    | ok _ =>
      exact ⟨leavesStanding_refl _, fun s hs => (by cases hs), h.claims, h.stored,
        fun s hs => (by cases hs)⟩
  | insertTask service port =>
    refine ⟨⟨fun _ _ hid => hid, fun _ _ hid => hid, fun id hid => ?_⟩, fun s hs => (by cases hs),
      h.claims, h.stored, fun s hs => ?_⟩
    · exact Std.ExtTreeMap.mem_insert.mpr (.inr hid)
    · cases hs
      exact Std.ExtTreeMap.mem_insert_self
  | rollBack service =>
    exact ⟨⟨fun _ hid hentry => hentry.removeService (hid service rfl), fun _ _ hrow => hrow,
      fun _ htask => htask⟩, standing_failed rfl rfl⟩
  | deleteRow service =>
    have hleaves : LeavesStanding nodeId name (.deleteRow service) st
        (deleteRow env service.serviceId st) :=
      ⟨fun _ _ hentry => hentry, fun _ hid hrow => hrow.deleteRow env (hid service rfl),
        fun _ htask => htask⟩
    simp only [registerStep]
    cases env.delete with
    | error e => exact ⟨hleaves, standing_failed rfl rfl⟩
    | ok _ => exact ⟨hleaves, standing_failed rfl rfl⟩
  | event service =>
    exact ⟨⟨fun _ _ hentry => hentry,
      fun _ _ hrow => hrow.recordEvent env .serviceRegistered (some nodeId) (some service.serviceId)
        none, fun _ htask => htask⟩,
      fun s hs => (by cases hs), h.claims, fun s hs => (h.stored s hs).recordEvent env
        .serviceRegistered (some nodeId) (some service.serviceId) none, h.served⟩
  | done result => exact ⟨leavesStanding_refl _, h⟩

/-- What others leave standing stays standing. -/
theorem Standing.mono {pc other : RegisterPc} {st' : AppState} (h : Standing nodeId name st pc)
    (hleaves : LeavesStanding nodeId name other st st')
    (hsafe : ∀ s w, pc.claims = some s → other.withdraws = some w → w.serviceId ≠ s.serviceId) :
    Standing nodeId name st' pc := by
  refine ⟨h.requests, fun s hs => ?_, fun s hs => ?_, fun s hs => ?_⟩
  · obtain ⟨hfor, hentry⟩ := h.claims s hs
    exact ⟨hfor, hleaves.entry s.serviceId (fun w hw => hsafe s w hs hw) hentry⟩
  · exact hleaves.row s.serviceId
      (fun w hw => hsafe s w (RegisterPc.claims_of_stored hs) hw) (h.stored s hs)
  · exact hleaves.listener s.serviceId (h.served s hs)

end

/-! ## Any run -/

/-- Every task is a call of the node, and has what its control point promises. -/
def AllStanding (nodeId : NodeId) (name : String) (p : Pool AppState ServiceTask) : Prop :=
  ∀ task ∈ p.tasks, ∃ pc, task = .register nodeId pc ∧ Standing nodeId name p.shared pc

namespace AllStanding

variable {nodeId : NodeId} {name : String} {p : Pool AppState ServiceTask}

theorem next (h : AllStanding nodeId name p) (cfg : RelayConfig) {e : Event Env ServiceTask}
    (hjoins : Joins nodeId name e) (hsafe : SafeWithdrawal p e) :
    AllStanding nodeId name (p.next (ServiceTask.step cfg) e) := by
  cases e with
  | spawn task =>
    obtain ⟨service, rfl, hfor⟩ := hjoins
    intro u hu
    rcases List.mem_append.mp hu with hu | hu
    · exact h u hu
    · obtain rfl := List.mem_singleton.mp hu
      refine ⟨.lock service, rfl, fun s hs => ?_, fun s hs => (by cases hs),
        fun s hs => (by cases hs), fun s hs => (by cases hs)⟩
      cases hs
      exact hfor
  | run i env =>
    rcases p.advance_cases (ServiceTask.step cfg) i env with ⟨-, he⟩ | ⟨task, htask, he⟩
    · simp only [Pool.next, he]
      exact h
    · obtain ⟨pc, rfl, hstanding⟩ := h task (List.mem_of_getElem? htask)
      obtain ⟨hleaves, hnew⟩ := registerStep_standing cfg env hstanding
      simp only [Pool.next, he]
      intro u hu
      rcases List.mem_or_eq_of_mem_set hu with hu | rfl
      · obtain ⟨other, rfl, hother⟩ := h u hu
        refine ⟨other, rfl, hother.mono hleaves fun s w hs hw => ?_⟩
        -- the condition, at the section that withdraws `w`
        have hbind : p.tasks[i]?.bind ServiceTask.withdraws = some w := by rw [htask]; exact hw
        simp only [SafeWithdrawal, hbind] at hsafe
        have hall := List.all_eq_true.mp hsafe _ hu
        simp only [ServiceTask.claims, hs, Option.all_some, bne_iff_ne] at hall
        exact fun heq => hall heq.symm
      · exact ⟨_, rfl, hnew⟩

theorem keeps (h : AllStanding nodeId name p) : KeepsAcknowledged nodeId name p := by
  intro service hmem
  obtain ⟨pc, hpc, hstanding⟩ := h _ hmem
  cases hpc
  exact ⟨(hstanding.claims service rfl).2, hstanding.stored service rfl, hstanding.served service rfl⟩

end AllStanding

/-- **No acknowledged registration is lost** in a run of calls of one node for one
TCP name in which no call withdraws an id that another one holds: in every state
the service of a call that has returned Ok has its entry, its row and its
listener, whatever the store calls and the binds come to. -/
theorem acknowledged_kept (cfg : RelayConfig) (nodeId : NodeId) (name : String) (st : AppState)
    (events : List (Event Env ServiceTask)) (hjoins : ∀ e ∈ events, Joins nodeId name e)
    (hsafe : EveryStep (Pool.next (ServiceTask.step cfg)) (fun p e => SafeWithdrawal p e)
      ⟨st, []⟩ events) :
    EveryState (Pool.next (ServiceTask.step cfg)) (KeepsAcknowledged nodeId name) ⟨st, []⟩ events := by
  have hrun := everyState_of_everyStep (P := AllStanding nodeId name)
    (C := fun p e => Joins nodeId name e ∧ SafeWithdrawal p e)
    (fun p e hp he => hp.next cfg he.1 he.2) (fun u hu => by cases hu) (hsafe.and_labels hjoins)
  exact hrun.mono fun p hp => hp.keeps

/-! ## The loser withdraws the winner -/

/-- A listener holds the port: one of the task map, or one that a call has bound
and has yet to enter there. -/
def heldPort (p : Pool AppState ServiceTask) (port : UInt16) : Bool :=
  listening p.shared port || p.tasks.any fun task =>
    match task with
    | .register _ (.insertTask _ bound) => bound == port
    | _ => false

/-- Store calls succeed, and a bind fails exactly when a listener holds the port. -/
def HonestBind (p : Pool AppState ServiceTask) : Event Env ServiceTask → Bool
  | .run i env => env.put.isOk && env.delete.isOk &&
    match p.tasks[i]? with
    | some (.register _ (.bind _ port)) => (env.bind port).isOk != heldPort p port
    | _ => true
  | .spawn _ => true

namespace Race

def service : ServiceDefinition := Sample.service 1 "api" 7 .tcp none

def taken : Env := { bind := fun _ => .error "address in use" }

/-- Both calls are admitted and look for a listener. The first binds the port,
the second fails to, and the first returns before the second withdraws. -/
def events : List (Event Env ServiceTask) :=
  [.spawn (.register ⟨7⟩ (.lock service)), .spawn (.register ⟨7⟩ (.lock service)),
    .run 0 {}, .run 0 {}, .run 0 {}, .run 1 {}, .run 1 {}, .run 1 {}, .run 0 {}, .run 1 taken,
    .run 0 {}, .run 0 {}, .run 1 {}, .run 1 {}]

/-- The second call looks for a listener once the first has entered its own. -/
def orderly : List (Event Env ServiceTask) :=
  [.spawn (.register ⟨7⟩ (.lock service)), .spawn (.register ⟨7⟩ (.lock service)),
    .run 0 {}, .run 0 {}, .run 0 {}, .run 1 {}, .run 1 {}, .run 0 {}, .run 0 {}, .run 1 {},
    .run 0 {}, .run 1 {}]

theorem joins (e : Event Env ServiceTask) (h : e ∈ events ∨ e ∈ orderly) : Joins ⟨7⟩ "api" e := by
  have hspawn : Joins ⟨7⟩ "api" (.spawn (.register ⟨7⟩ (.lock service))) :=
    ⟨service, rfl, rfl, rfl, rfl⟩
  simp only [events, orderly, List.mem_cons, List.not_mem_nil, or_false] at h
  cases e with
  | run i env => trivial
  | spawn task =>
    simp only [Event.spawn.injEq, reduceCtorEq, or_false, or_self] at h
    rw [h]
    exact hspawn

end Race

open Race in
/-- **The loser of the race withdraws the winner's service.** -/
theorem loser_withdraws_winner :
    ¬∀ (cfg : RelayConfig) (nodeId : NodeId) (name : String) (st : AppState)
      (events : List (Event Env ServiceTask)), (∀ e ∈ events, Joins nodeId name e) →
      EveryStep (Pool.next (ServiceTask.step cfg)) (fun p e => HonestBind p e) ⟨st, []⟩ events →
      (∀ task ∈ (run (Pool.next (ServiceTask.step cfg)) ⟨st, []⟩ events).tasks, task.returned) →
      KeepsAcknowledged nodeId name (run (Pool.next (ServiceTask.step cfg)) ⟨st, []⟩ events) := by
  intro h
  have hkept := h Sample.config ⟨7⟩ "api" { tokens := ⟨none, none⟩ } events
    (fun e he => joins e (.inl he)) (by decide +kernel) (by decide +kernel)
  have hok : ∃ returned : ServiceDefinition, .register ⟨7⟩ (.done (.ok returned)) ∈
      (run (Pool.next (ServiceTask.step Sample.config)) ⟨{ tokens := ⟨none, none⟩ }, []⟩
        events).tasks :=
    ⟨{ service with publicHost := some "relay.test", publicPort := some 20000 }, by decide +kernel⟩
  have hempty : (run (Pool.next (ServiceTask.step Sample.config)) ⟨{ tokens := ⟨none, none⟩ }, []⟩
      events).shared.services = ∅ := by decide +kernel
  obtain ⟨returned, hmem⟩ := hok
  obtain ⟨s, hs, -⟩ := (hkept returned hmem).entry
  rw [hempty, BTreeMap.get_empty] at hs
  cases hs

open Race in
theorem acknowledged_kept_orderly :
    EveryState (Pool.next (ServiceTask.step Sample.config)) (KeepsAcknowledged ⟨7⟩ "api")
      ⟨{ tokens := ⟨none, none⟩ }, []⟩ orderly :=
  acknowledged_kept Sample.config ⟨7⟩ "api" _ orderly (fun e he => joins e (.inr he))
    (by decide +kernel)

end OngrokRelay
