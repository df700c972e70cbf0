import OngrokRelay.Admission
import OngrokRelay.Interleaving

/-
  The directory operations as tasks that other tasks interrupt.

  A task's control point names its next atomic section: what it does under one
  lock of the state, or one call into the store or the network. The sections
  are those of `Directory`.

  1. `registerStep_solo` and its siblings: a task that nothing interrupts does
     what the operation does.
  2. `ServiceTask.step_change`: all that one section of any operation can do to
     the services map.
-/

namespace OngrokRelay

open Interleaving

inductive RegisterPc
  | lock (service : ServiceDefinition)
  | put (service : ServiceDefinition)
  | lookUp (service : ServiceDefinition)
  | bind (service : ServiceDefinition) (port : UInt16)
  | insertTask (service : ServiceDefinition) (port : UInt16)
  | rollBack (service : ServiceDefinition)
  | deleteRow (service : ServiceDefinition)
  | event (service : ServiceDefinition)
  | done (result : Except String ServiceDefinition)
  deriving DecidableEq

def RegisterPc.returned : RegisterPc → Bool
  | .done _ => true
  | _ => false

def registerStep (cfg : RelayConfig) (nodeId : NodeId) (env : Env) (st : AppState) :
    RegisterPc → AppState × RegisterPc
  | .lock service =>
    match registerLocked cfg service nodeId st with
    | (st, .error e) => (st, .done (.error e))
    | (st, .ok service) => (st, .put service)
  | .put service =>
    match env.put with
    | .error e => (putService env service st, .done (.error e))
    | .ok _ =>
      (putService env service st, if service.protocol = .tcp then .lookUp service else .event service)
  | .lookUp service =>
    match service.publicPort with
    | none => (st, .rollBack service)
    | some port =>
      if st.tcpIngressTasks.contains service.serviceId then (st, .event service)
      else (st, .bind service port)
  | .bind service port =>
    match env.bind port with
    | .error _ => (st, .rollBack service)
    | .ok _ => (st, .insertTask service port)
  | .insertTask service port => (insertTask service.serviceId port st, .event service)
  | .rollBack service => (removeService service.serviceId st, .deleteRow service)
  | .deleteRow service =>
    match env.delete with
    | .error e => (deleteRow env service.serviceId st, .done (.error e))
    | .ok _ =>
      (deleteRow env service.serviceId st, .done (.error "failed to activate TCP relay port"))
  | .event service =>
    (recordEvent env .serviceRegistered (some nodeId) (some service.serviceId) none st,
      .done (.ok service))
  | .done result => (st, .done result)

inductive UnregisterPc
  | lock
  | deleteRow
  | event
  | abort
  | done (result : Outcome)
  deriving DecidableEq

def UnregisterPc.returned : UnregisterPc → Bool
  | .done _ => true
  | _ => false

def unregisterStep (serviceId : ServiceId) (nodeId : NodeId) (env : Env) (st : AppState) :
    UnregisterPc → AppState × UnregisterPc
  | .lock =>
    if ownedBy st.services serviceId nodeId then (removeService serviceId st, .deleteRow)
    else (st, .done (.ok ()))
  | .deleteRow =>
    match env.delete with
    | .error e => (deleteRow env serviceId st, .done (.error e))
    | .ok _ => (deleteRow env serviceId st, .event)
  | .event => (recordEvent env .serviceDeleted (some nodeId) (some serviceId) none st, .abort)
  | .abort => (abortTask serviceId st, .done (.ok ()))
  | .done result => (st, .done result)

inductive DeletePc
  | remove
  | abort (nodeId : NodeId)
  | deleteRow (nodeId : NodeId)
  | event (nodeId : NodeId)
  | done (response : ApiResponse)
  deriving DecidableEq

def deleteStep (serviceId : ServiceId) (env : Env) (st : AppState) :
    DeletePc → AppState × DeletePc
  | .remove =>
    match st.services[serviceId]? with
    | none => (st, .done ⟨404, .error "service not found"⟩)
    | some service => (removeService serviceId st, .abort service.nodeId)
  | .abort nodeId => (abortTask serviceId st, .deleteRow nodeId)
  | .deleteRow nodeId =>
    match env.delete with
    | .error _ => (deleteRow env serviceId st, .done ⟨500, .error "failed to delete service"⟩)
    | .ok _ => (deleteRow env serviceId st, .event nodeId)
  | .event nodeId =>
    (recordEvent env .serviceDeleted (some nodeId) (some serviceId) none st,
      .done ⟨200, .deleted serviceId⟩)
  | .done response => (st, .done response)

inductive PatchPc
  | lock (metadata : Option Metadata)
  | put (updated : ServiceDefinition)
  | view (updated : ServiceDefinition)
  | done (response : ApiResponse)
  deriving DecidableEq

def patchStep (serviceId : ServiceId) (env : Env) (st : AppState) :
    PatchPc → AppState × PatchPc
  | .lock none => (st, .done ⟨400, .error "metadata is required"⟩)
  | .lock (some metadata) =>
    match metadata.validate with
    | .error _ => (st, .done ⟨400, .error "invalid service metadata"⟩)
    | .ok _ =>
      match patchLocked serviceId metadata st with
      | (st, none) => (st, .done ⟨404, .error "service not found"⟩)
      | (st, some updated) => (st, .put updated)
  | .put updated =>
    match env.put with
    | .error _ => (putService env updated st, .done ⟨500, .error "failed to update service"⟩)
    | .ok _ => (putService env updated st, .view updated)
  | .view updated => (st, .done ⟨200, .view (serviceView st.nodes updated)⟩)
  | .done response => (st, .done response)

/-! ## A task alone does what its operation does -/

theorem registerStep_solo (cfg : RelayConfig) (nodeId : NodeId) (env : Env) (st : AppState)
    (service : ServiceDefinition) :
    solo (registerStep cfg nodeId) env 6 (st, .lock service) =
      ((registerService cfg env service nodeId st).1,
        .done (registerService cfg env service nodeId st).2) := by
  unfold registerService
  cases h : registerLocked cfg service nodeId st with
  | mk st₁ result =>
    cases result with
    | error e => simp only [solo_succ, solo_zero, registerStep, h]
    | ok admitted =>
      cases hput : env.put with
      | error e => simp only [solo_succ, solo_zero, registerStep, h, hput]
      | ok _ =>
        by_cases htcp : admitted.protocol = .tcp
        · simp only [solo_succ, registerStep, h, hput, if_pos htcp, ensureTcpIngress]
          cases hport : admitted.publicPort with
          | none =>
            simp only
            cases hdel : env.delete <;> simp only [solo_succ, solo_zero, registerStep, hdel]
          | some port =>
            by_cases hc : (putService env admitted st₁).tcpIngressTasks.contains admitted.serviceId
            · simp only [if_pos hc, solo_succ, solo_zero, registerStep]
            · simp only [if_neg hc]
              cases hbind : env.bind port with
              | ok _ => simp only [solo_succ, solo_zero, registerStep, hbind]
              | error e =>
                simp only
                cases hdel : env.delete <;>
                  simp only [solo_succ, solo_zero, registerStep, hbind, hdel]
        · simp only [solo_succ, solo_zero, registerStep, h, hput, if_neg htcp]

theorem unregisterStep_solo (serviceId : ServiceId) (nodeId : NodeId) (env : Env)
    (st : AppState) :
    solo (unregisterStep serviceId nodeId) env 4 (st, .lock) =
      ((unregisterService env serviceId nodeId st).1,
        .done (unregisterService env serviceId nodeId st).2) := by
  unfold unregisterService
  by_cases howned : ownedBy st.services serviceId nodeId
  · simp only [if_pos howned]
    cases hdel : env.delete <;>
      simp only [solo_succ, solo_zero, unregisterStep, if_pos howned, hdel]
  · simp only [solo_succ, solo_zero, unregisterStep, if_neg howned]

theorem deleteStep_solo (serviceId : ServiceId) (env : Env) (st : AppState) :
    solo (deleteStep serviceId) env 4 (st, .remove) =
      ((deleteService env serviceId st).1, .done (deleteService env serviceId st).2) := by
  unfold deleteService
  cases hget : st.services[serviceId]? with
  | none => simp only [solo_succ, solo_zero, deleteStep, hget]
  | some service =>
    simp only
    cases hdel : env.delete <;> simp only [solo_succ, solo_zero, deleteStep, hget, hdel]

theorem patchStep_solo (serviceId : ServiceId) (metadata : Option Metadata) (env : Env)
    (st : AppState) :
    solo (patchStep serviceId) env 3 (st, .lock metadata) =
      ((patchService env serviceId metadata st).1,
        .done (patchService env serviceId metadata st).2) := by
  unfold patchService
  cases metadata with
  | none => simp only [solo_succ, solo_zero, patchStep]
  | some metadata =>
    cases hvalid : metadata.validate with
    | error e => simp only [solo_succ, solo_zero, patchStep, hvalid]
    | ok _ =>
      cases hlocked : patchLocked serviceId metadata st with
      | mk st₁ updated =>
        cases updated with
        | none => simp only [solo_succ, solo_zero, patchStep, hvalid, hlocked]
        | some updated =>
          simp only
          cases hput : env.put <;>
            simp only [solo_succ, solo_zero, patchStep, hvalid, hlocked, hput]

/-! ## Any operation -/

/-- An operation on the directory, with its control point. -/
inductive ServiceTask
  | register (nodeId : NodeId) (pc : RegisterPc)
  | unregister (serviceId : ServiceId) (nodeId : NodeId) (pc : UnregisterPc)
  | delete (serviceId : ServiceId) (pc : DeletePc)
  | patch (serviceId : ServiceId) (pc : PatchPc)
  deriving DecidableEq

namespace ServiceTask

def step (cfg : RelayConfig) (env : Env) (st : AppState) : ServiceTask → AppState × ServiceTask
  | register nodeId pc => (registerStep cfg nodeId env st pc).map id (register nodeId)
  | unregister serviceId nodeId pc =>
    (unregisterStep serviceId nodeId env st pc).map id (unregister serviceId nodeId)
  | delete serviceId pc => (deleteStep serviceId env st pc).map id (delete serviceId)
  | patch serviceId pc => (patchStep serviceId env st pc).map id (patch serviceId)

/-- The operation is about to take its first lock. -/
def fresh : ServiceTask → Bool
  | register _ (.lock _) => true
  | unregister _ _ .lock => true
  | delete _ .remove => true
  | patch _ (.lock _) => true
  | _ => false

/-- The operation has returned. -/
def returned : ServiceTask → Bool
  | register _ pc => pc.returned
  | unregister _ _ pc => pc.returned
  | delete _ (.done _) => true
  | patch _ (.done _) => true
  | _ => false

end ServiceTask

/-- What one section can do to the services map. -/
inductive DirectoryChange (cfg : RelayConfig) (services : Services) : Services → Prop
  | kept : DirectoryChange cfg services services
  | registered {service admitted : ServiceDefinition} {nodeId : NodeId}
      (h : admitService cfg services service nodeId = .ok admitted) :
    DirectoryChange cfg services (services.insert admitted.serviceId admitted)
  | removed (serviceId : ServiceId) : DirectoryChange cfg services (services.erase serviceId)
  | patched {serviceId : ServiceId} {service : ServiceDefinition} {metadata : Metadata}
      (h : services[serviceId]? = some service) (hvalid : metadata.validate = .ok ()) :
    DirectoryChange cfg services (services.insert serviceId { service with metadata })

/-- Every service is filed under its own id. -/
def KeysMatch (services : Services) : Prop :=
  ∀ (id : ServiceId) (s : ServiceDefinition), services[id]? = some s → s.serviceId = id

theorem KeysMatch.insert {services : Services} (h : KeysMatch services) {id : ServiceId}
    {service : ServiceDefinition} (hid : service.serviceId = id) :
    KeysMatch (services.insert id service) := by
  intro id' s hs
  rcases BTreeMap.get_insert_some.mp hs with ⟨rfl, rfl⟩ | ⟨_, hs⟩
  · exact hid
  · exact h id' s hs

theorem KeysMatch.change {cfg : RelayConfig} {services services' : Services}
    (h : KeysMatch services) (hc : DirectoryChange cfg services services') :
    KeysMatch services' := by
  cases hc with
  | kept => exact h
  | registered hok => exact h.insert rfl
  | removed serviceId => exact fun id s hs => h id s (BTreeMap.get_erase_some.mp hs).2
  | @patched id service metadata hs hvalid => exact h.insert (h id service hs)

theorem registerLocked_change (cfg : RelayConfig) (service : ServiceDefinition)
    (nodeId : NodeId) (st : AppState) :
    DirectoryChange cfg st.services (registerLocked cfg service nodeId st).1.services := by
  unfold registerLocked
  split
  · exact .kept
  · rename_i h
    exact .registered h

theorem patchLocked_change (cfg : RelayConfig) (serviceId : ServiceId) {metadata : Metadata}
    (hvalid : metadata.validate = .ok ()) (st : AppState) :
    DirectoryChange cfg st.services (patchLocked serviceId metadata st).1.services := by
  unfold patchLocked
  split
  · exact .kept
  · rename_i h
    exact .patched h hvalid

theorem registerStep_change (cfg : RelayConfig) (nodeId : NodeId) (env : Env) (st : AppState)
    (pc : RegisterPc) :
    DirectoryChange cfg st.services (registerStep cfg nodeId env st pc).1.services := by
  cases pc with
  | lock service =>
    have h := registerLocked_change cfg service nodeId st
    simp only [registerStep]
    split <;> (rename_i heq; rw [heq] at h; exact h)
  | rollBack service => exact .removed service.serviceId
  | put service | deleteRow service | bind service port =>
    simp only [registerStep]
    split <;> exact .kept
  | lookUp service =>
    simp only [registerStep]
    split
    · exact .kept
    · split <;> exact .kept
  | insertTask service port | event service | done result => exact .kept

theorem unregisterStep_change (cfg : RelayConfig) (serviceId : ServiceId) (nodeId : NodeId)
    (env : Env) (st : AppState) (pc : UnregisterPc) :
    DirectoryChange cfg st.services (unregisterStep serviceId nodeId env st pc).1.services := by
  cases pc with
  | lock =>
    simp only [unregisterStep]
    split
    · exact .removed serviceId
    · exact .kept
  | deleteRow =>
    simp only [unregisterStep]
    split <;> exact .kept
  | event | abort | done result => exact .kept

theorem ServiceTask.step_change (cfg : RelayConfig) (env : Env) (st : AppState)
    (task : ServiceTask) : DirectoryChange cfg st.services (task.step cfg env st).1.services := by
  cases task with
  | register nodeId pc => exact registerStep_change cfg nodeId env st pc
  | unregister serviceId nodeId pc => exact unregisterStep_change cfg serviceId nodeId env st pc
  | delete serviceId pc =>
    cases pc with
    | remove =>
      simp only [step, deleteStep]
      split
      · exact .kept
      · exact .removed serviceId
    | deleteRow nodeId =>
      simp only [step, deleteStep]
      split <;> exact .kept
    | abort nodeId | event nodeId | done response => exact .kept
  | patch serviceId pc =>
    cases pc with
    | lock metadata =>
      cases metadata with
      | none => exact .kept
      | some metadata =>
        simp only [step, patchStep]
        cases hvalid : metadata.validate with
        | error e => exact .kept
        | ok _ =>
          have h := patchLocked_change cfg serviceId hvalid st
          simp only
          split <;> (rename_i heq; rw [heq] at h; exact h)
    | put updated =>
      simp only [step, patchStep]
      split <;> exact .kept
    | view updated | done response => exact .kept

end OngrokRelay
