import OngrokRelay.ControlPlane

/-
  The node of every service.

  A service names its node, and nothing in the directory says that there is such a node: a
  control session may publish once it has registered its own, and `POST /v1/services` looks
  for a record before it takes the lock of the directory. Between the look and the lock, and
  after it, nodes come and go.

  1. `ControlTask.step_owners`: of which nodes a section leaves services.
  2. `ControlTask.step_nodesKept`: no section forgets a node.
  3. `ControlTask.CountsOn`: what the tasks count on between two sections.
     `ControlTask.step_countsOn`: one section leaves its task with nodes that have a record.
  4. `services_known`: so the node of every service has a record in every run.
-/

namespace OngrokRelay

open Interleaving Transition

/-! ## The nodes of the services -/

/-- Every service that one directory has is of a node that some service of the other has. -/
def SameOwners (services services' : Services) : Prop :=
  ∀ (id : ServiceId) (service : ServiceDefinition), services'[id]? = some service →
    ∃ (id' : ServiceId) (old : ServiceDefinition),
      services[id']? = some old ∧ old.nodeId = service.nodeId

theorem SameOwners.of_eq {services services' : Services} (h : services' = services) :
    SameOwners services services' := by
  intro id service hservice
  rw [h] at hservice
  exact ⟨id, service, hservice, rfl⟩

theorem SameOwners.erase (services : Services) (id : ServiceId) :
    SameOwners services (services.erase id) :=
  fun id' service hservice => ⟨id', service, (BTreeMap.get_erase_some.mp hservice).2, rfl⟩

/-- The service that the task is about to put into the directory. -/
def ControlTask.asks : ControlTask → Option ServiceDefinition
  | session (.live s) =>
    match s.pc with
    | .registerService (.lock asked) => some asked
    | _ => none
  | service (.register _ (.lock asked)) => some asked
  | _ => none

theorem registerStep_owners (cfg : RelayConfig) (nodeId : NodeId) (env : Env) (st : AppState)
    (pc : RegisterPc) (hpc : ∀ service, pc ≠ .lock service) :
    SameOwners st.services (registerStep cfg nodeId env st pc).1.services := by
  cases pc with
  | lock service => exact absurd rfl (hpc service)
  | put service | deleteRow service =>
    simp only [registerStep]
    split <;> exact .of_eq rfl
  | lookUp service =>
    simp only [registerStep]
    split
    · exact .of_eq rfl
    · split <;> exact .of_eq rfl
  | bind service port =>
    simp only [registerStep]
    split <;> exact .of_eq rfl
  | rollBack service => exact .erase st.services service.serviceId
  | insertTask service port | event service | done result => exact .of_eq rfl

theorem registerLocked_owners {cfg : RelayConfig} {nodeId : NodeId} (env : Env) {st : AppState}
    {asked service : ServiceDefinition} {id : ServiceId}
    (h : (registerStep cfg nodeId env st (.lock asked)).1.services[id]? = some service) :
    st.services[id]? = some service ∨ service.nodeId = asked.nodeId := by
  simp only [registerStep, registerLocked] at h
  cases hadmitted : admitService cfg st.services asked nodeId with
  | error e =>
    simp only [hadmitted] at h
    exact .inl h
  | ok admitted =>
    simp only [hadmitted] at h
    rcases BTreeMap.get_insert_some.mp h with ⟨-, rfl⟩ | ⟨-, hservice⟩
    · exact .inr (admitService_spec hadmitted).serviceNode
    · exact .inl hservice

theorem unregisterStep_owners (serviceId : ServiceId) (nodeId : NodeId) (env : Env)
    (st : AppState) (pc : UnregisterPc) :
    SameOwners st.services (unregisterStep serviceId nodeId env st pc).1.services := by
  cases pc with
  | lock =>
    simp only [unregisterStep]
    split
    · exact .erase st.services serviceId
    · exact .of_eq rfl
  | deleteRow =>
    simp only [unregisterStep]
    split <;> exact .of_eq rfl
  | event | abort | done result => exact .of_eq rfl

theorem deleteStep_owners (serviceId : ServiceId) (env : Env) (st : AppState) (pc : DeletePc) :
    SameOwners st.services (deleteStep serviceId env st pc).1.services := by
  cases pc with
  | remove =>
    simp only [deleteStep]
    split
    · exact .of_eq rfl
    · exact .erase st.services serviceId
  | deleteRow nodeId =>
    simp only [deleteStep]
    split <;> exact .of_eq rfl
  | abort nodeId | event nodeId | done response => exact .of_eq rfl

theorem patchStep_owners (serviceId : ServiceId) (env : Env) (st : AppState) (pc : PatchPc) :
    SameOwners st.services (patchStep serviceId env st pc).1.services := by
  cases pc with
  | lock metadata =>
    cases metadata with
    | none => exact .of_eq rfl
    | some metadata =>
      simp only [patchStep]
      cases metadata.validate with
      | error e => exact .of_eq rfl
      | ok _ =>
        simp only [patchLocked]
        cases hold : st.services[serviceId]? with
        | none => exact .of_eq rfl
        | some old =>
          -- a patched service stays with its node
          intro id service hservice
          rcases BTreeMap.get_insert_some.mp hservice with ⟨-, rfl⟩ | ⟨-, hservice⟩
          · exact ⟨serviceId, old, hold, rfl⟩
          · exact ⟨id, service, hservice, rfl⟩
  | put updated =>
    simp only [patchStep]
    split <;> exact .of_eq rfl
  | view updated | done response => exact .of_eq rfl

theorem ServiceTask.step_owners {cfg : RelayConfig} {env : Env} {st : AppState}
    {task : ServiceTask} {id : ServiceId} {service : ServiceDefinition}
    (h : (task.step cfg env st).1.services[id]? = some service) :
    (∃ (id' : ServiceId) (old : ServiceDefinition), st.services[id']? = some old ∧
      old.nodeId = service.nodeId) ∨
    ∃ asked, (ControlTask.service task).asks = some asked ∧ service.nodeId = asked.nodeId := by
  cases task with
  | register nodeId pc =>
    by_cases hlock : ∃ asked, pc = .lock asked
    · obtain ⟨asked, rfl⟩ := hlock
      exact (registerLocked_owners env h).imp (fun hold => ⟨id, service, hold, rfl⟩)
        fun hasked => ⟨asked, rfl, hasked⟩
    · exact .inl (registerStep_owners cfg nodeId env st pc (fun asked hpc => hlock ⟨asked, hpc⟩) id
        service h)
  | unregister serviceId nodeId pc =>
    exact .inl (unregisterStep_owners serviceId nodeId env st pc id service h)
  | delete serviceId pc => exact .inl (deleteStep_owners serviceId env st pc id service h)
  | patch serviceId pc => exact .inl (patchStep_owners serviceId env st pc id service h)

theorem LiveSession.step_owners {cfg : RelayConfig} {env : Env} {st : AppState} {s : LiveSession}
    {id : ServiceId} {service : ServiceDefinition}
    (h : (s.step cfg env st).1.services[id]? = some service) :
    (∃ (id' : ServiceId) (old : ServiceDefinition), st.services[id']? = some old ∧
      old.nodeId = service.nodeId) ∨
    ∃ asked, s.pc = .registerService (.lock asked) ∧ service.nodeId = asked.nodeId := by
  unfold step at h
  split at h
  · exact .inl ⟨id, service, h, rfl⟩
  · rename_i pc hpc
    simp only [Prod.map_fst, id_eq, (registerNodeStep_maps s.peer s.transport
      (s.transport.session s.peer.connection) s.kind s.nodeId env st pc).1] at h
    exact .inl ⟨id, service, h, rfl⟩
  · rename_i pc hpc
    by_cases hlock : ∃ asked, pc = .lock asked
    · obtain ⟨asked, rfl⟩ := hlock
      exact (registerLocked_owners env h).imp (fun hold => ⟨id, service, hold, rfl⟩)
        fun hasked => ⟨asked, hpc, hasked⟩
    · exact .inl (registerStep_owners cfg s.nodeId env st pc (fun asked hpc => hlock ⟨asked, hpc⟩) id
        service h)
  · rename_i serviceId pc hpc
    exact .inl (unregisterStep_owners serviceId s.nodeId env st pc id service h)
  · rename_i sequence pc hpc
    simp only [Prod.map_fst, id_eq, (heartbeatStep_maps s.nodeId env st pc).1] at h
    exact .inl ⟨id, service, h, rfl⟩
  · rename_i pc result hpc
    simp only [Prod.map_fst, id_eq,
      (cleanUpStep_maps s.transport s.nodeId s.peer.sessionId env st pc).1] at h
    exact .inl ⟨id, service, h, rfl⟩
  · exact .inl ⟨id, service, h, rfl⟩

/-- **Whose services a section leaves**: those of the nodes that had some, and what its task
has asked for. -/
theorem ControlTask.step_owners {cfg : RelayConfig} {env : Env} {st : AppState}
    {task : ControlTask} {id : ServiceId} {service : ServiceDefinition}
    (h : (task.step cfg env st).1.services[id]? = some service) :
    (∃ (id' : ServiceId) (old : ServiceDefinition), st.services[id']? = some old ∧
      old.nodeId = service.nodeId) ∨
    ∃ asked, task.asks = some asked ∧ service.nodeId = asked.nodeId := by
  cases task with
  | session task =>
    cases task with
    | live s =>
      rcases LiveSession.step_owners h with hold | ⟨asked, hpc, hasked⟩
      · exact .inl hold
      · exact .inr ⟨asked, by simp only [asks, hpc], hasked⟩
    | hello peer transport | auth peer transport | refused peer reason =>
      exact .inl ⟨id, service, h, rfl⟩
  | service task => exact ServiceTask.step_owners h
  | replace kind hash pc =>
    simp only [step, Prod.map_fst, id_eq, (replaceStep_maps kind hash env st pc).1] at h
    exact .inl ⟨id, service, h, rfl⟩

/-- No node of the one map is missing in the other. -/
def NodesKept (nodes nodes' : BTreeMap NodeId NodeRecord) : Prop :=
  ∀ nodeId ∈ nodes, nodeId ∈ nodes'

theorem NodesKept.of_eq {nodes nodes' : BTreeMap NodeId NodeRecord} (h : nodes' = nodes) :
    NodesKept nodes nodes' := by
  intro nodeId hnode
  rw [h]
  exact hnode

theorem NodesKept.insert (nodes : BTreeMap NodeId NodeRecord) (nodeId : NodeId)
    (node : NodeRecord) : NodesKept nodes (nodes.insert nodeId node) :=
  fun _ hnode => Std.ExtTreeMap.mem_insert.mpr (.inr hnode)

theorem markOffline_kept (nodeId : NodeId) (st : AppState) :
    NodesKept st.nodes (markOffline nodeId st).1.nodes := by
  unfold markOffline
  split
  · exact .of_eq rfl
  · exact .insert st.nodes nodeId _

theorem markAllOffline_kept (nodeIds : List NodeId) (st : AppState) :
    NodesKept st.nodes (markAllOffline nodeIds st).1.nodes := by
  induction nodeIds generalizing st with
  | nil => exact .of_eq rfl
  | cons nodeId rest ih =>
    exact fun other hother =>
      ih (markOffline nodeId st).1 other (markOffline_kept nodeId st other hother)

theorem heartbeatStep_kept (nodeId : NodeId) (env : Env) (st : AppState) (pc : HeartbeatPc) :
    NodesKept st.nodes (heartbeatStep nodeId env st pc).1.nodes := by
  cases pc with
  | nodes snapshot =>
    simp only [heartbeatStep]
    split
    · exact .of_eq rfl
    · exact .insert st.nodes nodeId _
  | putNode node metric =>
    simp only [heartbeatStep]
    split <;> exact .of_eq rfl
  | putMetric metric | done result => exact .of_eq rfl

theorem replaceStep_kept (kind : TokenKind) (hash : Option TokenHash) (env : Env) (st : AppState)
    (pc : ReplacePc) : NodesKept st.nodes (replaceStep kind hash env st pc).1.nodes := by
  cases pc with
  | write =>
    simp only [replaceStep, writeToken]
    cases env.putTokens <;> exact .of_eq rfl
  | close disconnected =>
    simp only [replaceStep]
    rw [close_eq]
    exact .of_eq rfl
  | markOffline nodeIds => exact markAllOffline_kept nodeIds st
  | put nodes =>
    cases nodes with
    | nil => exact .of_eq rfl
    | cons node rest =>
      simp only [replaceStep]
      split <;> exact .of_eq rfl
  | sweep | event node rest | done result => exact .of_eq rfl

theorem LiveSession.step_nodesKept (cfg : RelayConfig) (env : Env) (st : AppState)
    (s : LiveSession) : NodesKept st.nodes (s.step cfg env st).1.nodes := by
  unfold step
  split
  · exact .of_eq rfl
  · rename_i pc hpc
    obtain ⟨-, -, hsame, hinsert⟩ := registerNodeStep_maps s.peer s.transport
      (s.transport.session s.peer.connection) s.kind s.nodeId env st pc
    simp only [Prod.map_fst, id_eq]
    cases hpc' : pc.isInsert with
    | false => exact .of_eq (hsame hpc')
    | true =>
      cases pc with
      | insertNode node =>
        rw [hinsert node rfl]
        exact .insert st.nodes s.nodeId node
      | identity metadata publicKey | activate metadata publicKey | close replaced metadata publicKey
      | put node | event | done result => cases hpc'
  · rename_i pc hpc
    exact .of_eq (registerStep_off cfg s.nodeId env st pc).nodes
  · rename_i serviceId pc hpc
    exact .of_eq (unregisterStep_off serviceId s.nodeId env st pc).nodes
  · rename_i sequence pc hpc
    exact heartbeatStep_kept s.nodeId env st pc
  · rename_i pc result hpc
    simp only [Prod.map_fst, id_eq,
      (cleanUpStep_maps s.transport s.nodeId s.peer.sessionId env st pc).2.2]
    split
    · exact markOffline_kept s.nodeId st
    · exact .of_eq rfl
  · exact .of_eq rfl

/-- **No node is forgotten** in any section. -/
theorem ControlTask.step_nodesKept (cfg : RelayConfig) (env : Env) (st : AppState)
    (task : ControlTask) : NodesKept st.nodes (task.step cfg env st).1.nodes := by
  cases task with
  | session task =>
    cases task with
    | live s => exact s.step_nodesKept cfg env st
    | hello peer transport | auth peer transport | refused peer reason => exact .of_eq rfl
  | service task => exact .of_eq (task.step_off cfg env st).nodes
  | replace kind hash pc => exact replaceStep_kept kind hash env st pc

/-- Past the section of RegisterNode that files the record. -/
def RegisterNodePc.filed : RegisterNodePc → Bool
  | .put _ | .event | .done (.ok _) => true
  | _ => false

/-- What the task counts on: that the node has a record. -/
def SessionPc.CountsOn (nodes : BTreeMap NodeId NodeRecord) (nodeId : NodeId) : SessionPc → Prop
  | .registerNode pc => pc.filed → nodeId ∈ nodes
  | .registerService (.lock asked) => nodeId ∈ nodes ∧ asked.nodeId = nodeId
  | _ => True

structure LiveSession.CountsOn (nodes : BTreeMap NodeId NodeRecord) (s : LiveSession) : Prop where
  registered : s.registeredNode → s.nodeId ∈ nodes
  pc : s.pc.CountsOn nodes s.nodeId

def ControlTask.CountsOn (nodes : BTreeMap NodeId NodeRecord) : ControlTask → Prop
  | session (.live s) => s.CountsOn nodes
  | service (.register _ (.lock asked)) => asked.nodeId ∈ nodes
  | _ => True

theorem ControlTask.CountsOn.kept {nodes nodes' : BTreeMap NodeId NodeRecord} {task : ControlTask}
    (h : task.CountsOn nodes) (hkept : NodesKept nodes nodes') : task.CountsOn nodes' := by
  cases task with
  | session task =>
    cases task with
    | live s =>
      refine ⟨fun hregistered => hkept _ (h.registered hregistered), ?_⟩
      have hpc := h.pc
      cases hs : s.pc with
      | registerNode pc =>
        rw [hs] at hpc
        exact fun hfiled => hkept _ (hpc hfiled)
      | registerService pc =>
        rw [hs] at hpc
        cases pc with
        | lock asked => exact ⟨hkept _ hpc.1, hpc.2⟩
        | put asked | lookUp asked | bind asked port | insertTask asked port | rollBack asked
        | deleteRow asked | event asked | done result => trivial
      | loop | unregisterService serviceId pc | heartbeat sequence pc | ending pc result
      | finished result => trivial
    | hello peer transport | auth peer transport | refused peer reason => trivial
  | service task =>
    cases task with
    | register nodeId pc =>
      cases pc with
      | lock asked => exact hkept _ h
      | put asked | lookUp asked | bind asked port | insertTask asked port | rollBack asked
      | deleteRow asked | event asked | done result => trivial
    | unregister serviceId nodeId pc | delete serviceId pc | patch serviceId pc => trivial
  | replace kind hash pc => trivial

section
variable {cfg : RelayConfig} {env : Env} {st : AppState} {s : LiveSession}
  {nodes : BTreeMap NodeId NodeRecord}

theorem LiveSession.fail_countsOn (h : s.registeredNode → s.nodeId ∈ nodes) (e : String) :
    (s.fail e).CountsOn nodes := by
  unfold fail
  split <;> exact ⟨h, trivial⟩

theorem LiveSession.replied_countsOn (h : s.registeredNode → s.nodeId ∈ nodes) (env : Env) :
    (s.replied env).CountsOn nodes := by
  unfold replied
  split
  · exact fail_countsOn h _
  · exact ⟨h, trivial⟩

theorem LiveSession.read_countsOn (h : s.registeredNode → s.nodeId ∈ nodes) (env : Env) :
    (s.read env).CountsOn nodes := by
  unfold read
  split
  · exact fail_countsOn h _
  · split
    · exact fail_countsOn h _
    · refine ⟨h, fun hfiled => ?_⟩
      cases hfiled
  · split
    · exact replied_countsOn h env
    · -- the arm that asks: a registered session, and its own service
      rename_i hasks
      simp only [Bool.or_eq_true, Bool.not_eq_true', bne_iff_ne, ne_eq, not_or, not_not,
        Bool.not_eq_false] at hasks
      exact ⟨h, h hasks.1, hasks.2⟩
  · exact ⟨h, trivial⟩
  · exact ⟨h, trivial⟩
  · exact ⟨h, trivial⟩
  · exact replied_countsOn h env

/-- The directory lock is taken once, and first. -/
theorem registerStep_unlocked (nodeId : NodeId) (pc : RegisterPc) (asked : ServiceDefinition) :
    (registerStep cfg nodeId env st pc).2 ≠ .lock asked := by
  intro h
  cases pc with
  | lock service =>
    simp only [registerStep] at h
    split at h <;> cases h
  | put service =>
    simp only [registerStep] at h
    split at h
    · cases h
    · simp only at h
      split at h <;> cases h
  | lookUp service =>
    simp only [registerStep] at h
    split at h
    · cases h
    · split at h <;> cases h
  | bind service port | deleteRow service =>
    simp only [registerStep] at h
    split at h <;> cases h
  | insertTask service port | rollBack service | event service | done result => cases h

/-- What RegisterNode counts on from the section that files the record on. -/
theorem registerNodeStep_filed {peer : Peer} {transport : TransportKind}
    {clientSession : ClientSession} {kind : TokenKind} {nodeId : NodeId} {pc : RegisterNodePc}
    (hpc : pc.filed → nodeId ∈ st.nodes)
    (h : (registerNodeStep peer transport clientSession kind nodeId env st pc).2.filed) :
    nodeId ∈ (registerNodeStep peer transport clientSession kind nodeId env st pc).1.nodes := by
  cases pc with
  | insertNode node => exact Std.ExtTreeMap.mem_insert_self
  | put node =>
    have hnode := hpc rfl
    simp only [registerNodeStep]
    split <;> exact hnode
  | event => exact hpc rfl
  | done result =>
    cases result with
    | ok _ => exact hpc rfl
    | error e => cases h
  | identity metadata publicKey =>
    simp only [registerNodeStep] at h
    split at h <;> cases h
  | activate metadata publicKey | close replaced metadata publicKey => cases h

theorem LiveSession.step_countsOn (h : s.CountsOn st.nodes) :
    (s.step cfg env st).2.CountsOn (s.step cfg env st).1.nodes := by
  have hkept := s.step_nodesKept cfg env st
  have hregistered (hr : s.registeredNode) : s.nodeId ∈ (s.step cfg env st).1.nodes :=
    hkept _ (h.registered hr)
  unfold step at hregistered ⊢
  split at hregistered
  · exact read_countsOn hregistered env
  · rename_i pc hpc
    have hcounts := h.pc
    rw [hpc] at hcounts
    have hnext := @registerNodeStep_filed env st s.peer s.transport
      (s.transport.session s.peer.connection) s.kind s.nodeId pc hcounts
    simp only [Prod.map_fst, Prod.map_snd, id_eq, afterRegisterNode] at hregistered ⊢
    generalize registerNodeStep s.peer s.transport (s.transport.session s.peer.connection) s.kind
      s.nodeId env st pc = next at hregistered hnext
    obtain ⟨st', pc'⟩ := next
    simp only at hregistered hnext ⊢
    split
    · exact ⟨fun _ => hnext rfl, trivial⟩
    · exact fail_countsOn hregistered _
    · exact ⟨hregistered, fun hfiled => by cases hfiled⟩
    · exact ⟨hregistered, hnext⟩
  · rename_i pc hpc
    simp only [Prod.map_fst, Prod.map_snd, id_eq, afterRegisterService] at hregistered ⊢
    split
    · exact replied_countsOn hregistered env
    · refine ⟨hregistered, ?_⟩
      have hunlocked := @registerStep_unlocked cfg env st s.nodeId pc
      generalize (registerStep cfg s.nodeId env st pc).2 = next at hunlocked
      cases next with
      | lock asked => exact absurd rfl (hunlocked asked)
      | put asked | lookUp asked | bind asked port | insertTask asked port | rollBack asked
      | deleteRow asked | event asked | done result => trivial
  · rename_i serviceId pc hpc
    simp only [Prod.map_fst, Prod.map_snd, id_eq, afterUnregisterService] at hregistered ⊢
    split
    · exact ⟨hregistered, trivial⟩
    · exact fail_countsOn hregistered _
    · exact ⟨hregistered, trivial⟩
  · rename_i sequence pc hpc
    simp only [Prod.map_fst, Prod.map_snd, id_eq, afterHeartbeat] at hregistered ⊢
    split
    · exact replied_countsOn hregistered env
    · exact fail_countsOn hregistered _
    · exact ⟨hregistered, trivial⟩
  · rename_i pc result hpc
    simp only [Prod.map_fst, Prod.map_snd, id_eq, afterCleanUp] at hregistered ⊢
    split <;> exact ⟨hregistered, trivial⟩
  · exact ⟨hregistered, h.pc⟩

end

/-- **One section** leaves its task with nodes that have a record. -/
theorem ControlTask.step_countsOn {cfg : RelayConfig} {env : Env} {st : AppState}
    {task : ControlTask} (h : task.CountsOn st.nodes) :
    (task.step cfg env st).2.CountsOn (task.step cfg env st).1.nodes := by
  cases task with
  | session task =>
    cases task with
    | live s => exact LiveSession.step_countsOn h
    | hello peer transport =>
      rcases SessionTask.hello_cases cfg env st peer transport with hstep | ⟨reason, hstep⟩ <;>
        rw [step, hstep] <;> trivial
    | auth peer transport =>
      rcases SessionTask.auth_cases cfg env st peer transport with
        ⟨reason, hstep⟩ | ⟨token, nodeId, kind, -, hstep⟩
      · rw [step, hstep]
        trivial
      · rw [step, hstep]
        exact ⟨fun hregistered => (by cases hregistered), trivial⟩
    | refused peer reason => trivial
  | service task =>
    cases task with
    | register nodeId pc =>
      have hunlocked := @registerStep_unlocked cfg env st nodeId pc
      simp only [step, ServiceTask.step, Prod.map_snd]
      generalize (registerStep cfg nodeId env st pc).2 = next at hunlocked
      cases next with
      | lock asked => exact absurd rfl (hunlocked asked)
      | put asked | lookUp asked | bind asked port | insertTask asked port | rollBack asked
      | deleteRow asked | event asked | done result => trivial
    | unregister serviceId nodeId pc | delete serviceId pc | patch serviceId pc => trivial
  | replace kind hash pc => trivial

/-- The service that a task asks for is of a node with a record. -/
theorem ControlTask.CountsOn.asked {nodes : BTreeMap NodeId NodeRecord} {task : ControlTask}
    (h : task.CountsOn nodes) {asked : ServiceDefinition} (hasks : task.asks = some asked) :
    asked.nodeId ∈ nodes := by
  cases task with
  | session task =>
    cases task with
    | live s =>
      simp only [asks] at hasks
      split at hasks
      · rename_i service hpc
        cases hasks
        have hcounts := h.pc
        rw [hpc] at hcounts
        rw [hcounts.2]
        exact hcounts.1
      · cases hasks
    | hello peer transport | auth peer transport | refused peer reason => cases hasks
  | service task =>
    cases task with
    | register nodeId pc =>
      cases pc with
      | lock service =>
        cases hasks
        exact h
      | put service | lookUp service | bind service port | insertTask service port
      | rollBack service | deleteRow service | event service | done result => cases hasks
    | unregister serviceId nodeId pc | delete serviceId pc | patch serviceId pc => cases hasks
  | replace kind hash pc => cases hasks

/-- The node of every service has a record, and so has every node that a task counts on. -/
structure ServicesKnown (p : ControlPlane) : Prop where
  services : ∀ (id : ServiceId) (service : ServiceDefinition),
    p.shared.services[id]? = some service → service.nodeId ∈ p.shared.nodes
  tasks : ∀ task ∈ p.tasks, task.CountsOn p.shared.nodes

theorem ControlPlane.opens_countsOn {p : ControlPlane} {task : ControlTask} (h : p.opens task) :
    task.CountsOn p.shared.nodes := by
  cases task with
  | session task =>
    cases task with
    | hello peer transport => trivial
    | auth peer transport | live s | refused peer reason => cases h
  | service task =>
    cases task with
    | register nodeId pc =>
      cases pc with
      | lock asked =>
        -- `POST /v1/services` has found a record of the node
        simp only [opens, Bool.and_eq_true, beq_iff_eq] at h
        obtain ⟨hid, hnode⟩ := h
        show asked.nodeId ∈ p.shared.nodes
        rw [hid, Std.ExtTreeMap.mem_iff_isSome_getElem?]
        cases hget : p.shared.nodes[nodeId]? with
        | none =>
          rw [hget] at hnode
          cases hnode
        | some node => rfl
      | put asked | lookUp asked | bind asked port | insertTask asked port | rollBack asked
      | deleteRow asked | event asked | done result => trivial
    | unregister serviceId nodeId pc | delete serviceId pc | patch serviceId pc => trivial
  | replace kind hash pc => trivial

theorem ServicesKnown.next {p : ControlPlane} (h : ServicesKnown p) (cfg : RelayConfig)
    (e : Event Env ControlTask) :
    ServicesKnown (p.next cfg e) ∧ NodesKept p.shared.nodes (p.next cfg e).shared.nodes := by
  rcases p.next_cases cfg e with he | ⟨i, env, task, -, htask, he⟩ | ⟨task, -, hopens, he⟩
  · rw [he]
    exact ⟨h, .of_eq rfl⟩
  · have hcounts := h.tasks task (List.mem_of_getElem? htask)
    have hkept := task.step_nodesKept cfg env p.shared
    rw [he]
    refine ⟨⟨fun id service hservice => ?_, fun u hu => ?_⟩, hkept⟩
    · rcases ControlTask.step_owners hservice with ⟨id', old, hold, howner⟩ | ⟨asked, hasks, hasked⟩
      · rw [← howner]
        exact hkept _ (h.services id' old hold)
      · rw [hasked]
        exact hkept _ (hcounts.asked hasks)
    · rcases List.mem_or_eq_of_mem_set hu with hu | rfl
      · exact (h.tasks u hu).kept hkept
      · exact ControlTask.step_countsOn hcounts
  · rw [he]
    refine ⟨⟨h.services, fun u hu => ?_⟩, .of_eq rfl⟩
    rcases List.mem_append.mp hu with hu | hu
    · exact h.tasks u hu
    · rw [List.mem_singleton.mp hu]
      exact p.opens_countsOn hopens

/-- **Every service has a node**: from a start whose services all have one, whatever tasks
interleave and whatever store calls fail, the node of every service in the directory has a
record, and no node that has one at one moment is forgotten at a later one. -/
theorem services_known (cfg : RelayConfig) (env : Env) (adminHash userHash : TokenHash)
    (store : ServiceStore) (st : AppState) (hstart : start env adminHash userHash store = .ok st)
    (hstore : ∀ service ∈ BTreeMap.values store.services,
      ∃ node ∈ BTreeMap.values store.nodes, node.nodeId = service.nodeId)
    (events : List (Event Env ControlTask)) :
    EveryState (ControlPlane.next cfg)
      (fun p => ∀ (id : ServiceId) (service : ServiceDefinition),
        p.shared.services[id]? = some service → service.nodeId ∈ p.shared.nodes) ⟨st, []⟩ events ∧
    EveryPair (ControlPlane.next cfg) (fun p p' => NodesKept p.shared.nodes p'.shared.nodes)
      ⟨st, []⟩ events := by
  have hfirst : ServicesKnown ⟨st, []⟩ := by
    obtain ⟨hservices, hnodes, -⟩ := start_ok hstart
    refine ⟨fun id service hservice => ?_, fun task htask => by cases htask⟩
    simp only [hservices, hnodes] at hservice ⊢
    obtain ⟨node, hnode, hid⟩ := hstore service (BTreeMap.ofValues_some hservice).1
    rw [← hid]
    exact BTreeMap.mem_ofValues hnode
  have hstep (p : ControlPlane) (e : Event Env ControlTask) (h : ServicesKnown p) :=
    h.next cfg e
  constructor
  · exact (everyState_of_step (fun p e h => (hstep p e h).1) hfirst events).mono
      fun p h => h.services
  · exact everyPair_of_step (fun p => .of_eq rfl)
      (fun p q r hpq hqr nodeId hnode => hqr nodeId (hpq nodeId hnode)) hstep hfirst events

namespace Sample

/-- A node connects, registers and publishes an HTTP service. -/
def offers (i : Nat) (sessionId node id : BitVec 128) (name : String) :
    List (Event Env ControlTask) :=
  connects i sessionId node ++ registers i ++
    .run i { input := .ok (.registerService (service id name node .http none)) } ::
      List.replicate 7 (.run i {})

/-- The database of a server on which the node 7 has published a service. -/
def offered : ServiceStore := (reached (offers 0 1 7 9 "web")).shared.store

def reopens : Except String AppState := start {} (hashToken "admin") (hashToken "user") offered

/-- The server that is started on it. -/
def reopened : AppState :=
  match reopens with
  | .ok st => st
  | .error _ => started

theorem reopens_ok : reopens = .ok reopened := by
  have hok : reopens.isOk := by decide +kernel
  unfold reopened
  cases hstart : reopens with
  | ok st => rfl
  | error e =>
    rw [hstart] at hok
    cases hok

end Sample

/-- The node 8 publishes a service beside the one that the node 7 has there. -/
theorem services_known_offers :
    let events := Sample.offers 0 2 8 5 "api"
    EveryState (ControlPlane.next Sample.config)
      (fun p => ∀ (id : ServiceId) (service : ServiceDefinition),
        p.shared.services[id]? = some service → service.nodeId ∈ p.shared.nodes)
      ⟨Sample.reopened, []⟩ events ∧
    EveryPair (ControlPlane.next Sample.config)
      (fun p p' => NodesKept p.shared.nodes p'.shared.nodes) ⟨Sample.reopened, []⟩ events ∧
    (run (ControlPlane.next Sample.config) ⟨Sample.reopened, []⟩ events).shared.services.keys =
      [⟨5⟩, ⟨9⟩] := by
  intro events
  have hknown := services_known Sample.config {} _ _ Sample.offered Sample.reopened
    Sample.reopens_ok (by decide +kernel) events
  exact ⟨hknown.1, hknown.2, by decide +kernel⟩

end OngrokRelay
