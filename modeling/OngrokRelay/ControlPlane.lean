import OngrokRelay.SessionTasks

/-
  The whole control plane: any number of control sessions, API requests and
  revocations, interleaved section by section from a start of the server.

  A task may join at its first section only, and a session with an id that no
  task of the pool has, as a fresh `TunnelId` is.

  1. `next_cases`: all that one event can do.
  2. `LiveSession.step_kept`: what a session never changes of itself.
  3. `ControlTask.step_services`, `ControlTask.step_sessions`: all that one
     section can do to the services map and to the sessions map.
  4. `SessionsOwned`: every entry of the sessions map is that of one task, whose
     RegisterNode has passed its checks.
-/

namespace OngrokRelay

open Interleaving Transition

inductive ControlTask
  | session (task : SessionTask)
  | service (task : ServiceTask)
  | replace (kind : TokenKind) (hash : Option TokenHash) (pc : ReplacePc)
  deriving DecidableEq

def SessionTask.peer : SessionTask → Peer
  | hello peer _ => peer
  | auth peer _ => peer
  | live session => session.peer
  | refused peer _ => peer

namespace ControlTask

def step (cfg : RelayConfig) (env : Env) (st : AppState) : ControlTask → AppState × ControlTask
  | session task => (task.step cfg env st).map id session
  | service task => (task.step cfg env st).map id service
  | replace kind hash pc => (replaceStep kind hash env st pc).map id (replace kind hash)

def sessionId : ControlTask → Option TunnelId
  | session task => some task.peer.sessionId
  | _ => none

end ControlTask

abbrev ControlPlane := Pool AppState ControlTask

namespace ControlPlane

/-- The task may join: a connection with a fresh session id, an API request on
the directory, or a revocation. -/
def opens (p : ControlPlane) : ControlTask → Bool
  | .session (.hello peer _) => p.tasks.all fun task => task.sessionId != some peer.sessionId
  | .service (.register nodeId (.lock service)) =>
    -- `POST /v1/services` has found the node online
    service.nodeId == nodeId && p.shared.nodes[nodeId]?.any fun node => node.status == .online
  | .service (.delete _ .remove) => true
  | .service (.patch _ (.lock _)) => true
  | .replace _ _ .write => true
  | _ => false

def next (cfg : RelayConfig) (p : ControlPlane) : Event Env ControlTask → ControlPlane
  | .run i env => p.advance (ControlTask.step cfg) i env
  | .spawn task => if p.opens task then ⟨p.shared, p.tasks ++ [task]⟩ else p

/-- What some run from some start of the server comes to. -/
def Reached (cfg : RelayConfig) (p : ControlPlane) : Prop :=
  ∃ (env : Env) (adminHash userHash : TokenHash) (store : ServiceStore) (st : AppState)
    (events : List (Event Env ControlTask)),
    start env adminHash userHash store = .ok st ∧ p = run (next cfg) ⟨st, []⟩ events

/-- **Inversion of one event.** -/
theorem next_cases (cfg : RelayConfig) (p : ControlPlane) (e : Event Env ControlTask) :
    p.next cfg e = p ∨
    (∃ i env task, e = .run i env ∧ p.tasks[i]? = some task ∧
      p.next cfg e = ⟨(task.step cfg env p.shared).1,
        p.tasks.set i (task.step cfg env p.shared).2⟩) ∨
    ∃ task, e = .spawn task ∧ p.opens task ∧ p.next cfg e = ⟨p.shared, p.tasks ++ [task]⟩ := by
  cases e with
  | run i env =>
    rcases p.advance_cases (ControlTask.step cfg) i env with ⟨-, he⟩ | ⟨task, htask, he⟩
    · exact .inl he
    · exact .inr (.inl ⟨i, env, task, rfl, htask, he⟩)
  | spawn task =>
    simp only [next]
    cases hopens : p.opens task with
    | false => exact .inl rfl
    | true => exact .inr (.inr ⟨task, rfl, hopens, rfl⟩)

/-- What holds after every start and is kept by every event holds of every
control plane reached. -/
theorem Reached.invariant {cfg : RelayConfig} {p : ControlPlane} {I : ControlPlane → Prop}
    (hreached : Reached cfg p)
    (hstart : ∀ env adminHash userHash store st,
      start env adminHash userHash store = .ok st → I ⟨st, []⟩)
    (hstep : ∀ p e, I p → I (next cfg p e)) : I p := by
  obtain ⟨env, adminHash, userHash, store, st, events, hst, rfl⟩ := hreached
  exact run_of_step hstep (hstart env adminHash userHash store st hst) events

end ControlPlane

/-! ## A session keeps its identity -/

namespace LiveSession

/-- What a session is given at its handshake and what it has once passed. -/
structure Keeps (s s' : LiveSession) : Prop where
  peer : s'.peer = s.peer
  transport : s'.transport = s.transport
  kind : s'.kind = s.kind
  hash : s'.hash = s.hash
  nodeId : s'.nodeId = s.nodeId
  accepted : s.accepted = true → s'.accepted = true

theorem keeps_pc (s : LiveSession) (pc : SessionPc) : Keeps s { s with pc := pc } :=
  ⟨rfl, rfl, rfl, rfl, rfl, fun h => h⟩

theorem keeps_fail (s : LiveSession) (e : String) : Keeps s (s.fail e) := by
  unfold fail
  split <;> exact s.keeps_pc _

theorem keeps_replied (s : LiveSession) (env : Env) : Keeps s (s.replied env) := by
  unfold replied
  cases env.write with
  | error e => exact s.keeps_fail e
  | ok _ => exact s.keeps_pc _

theorem keeps_read (s : LiveSession) (env : Env) : Keeps s (s.read env) := by
  unfold read
  split
  · exact s.keeps_fail _
  · split
    · exact s.keeps_fail _
    · exact s.keeps_pc _
  · split
    · exact s.keeps_replied env
    · exact s.keeps_pc _
  · exact s.keeps_pc _
  · exact s.keeps_pc _
  · exact s.keeps_pc _
  · exact s.keeps_replied env

theorem step_keeps (cfg : RelayConfig) (env : Env) (st : AppState) (s : LiveSession) :
    Keeps s (s.step cfg env st).2 := by
  unfold step
  split
  · exact s.keeps_read env
  · simp only [Prod.map_snd]
    unfold afterRegisterNode
    split
    · exact ⟨rfl, rfl, rfl, rfl, rfl, fun h => h⟩
    · exact s.keeps_fail _
    · exact ⟨rfl, rfl, rfl, rfl, rfl, fun _ => rfl⟩
    · exact s.keeps_pc _
  · simp only [Prod.map_snd]
    unfold afterRegisterService
    split
    · exact s.keeps_replied env
    · exact s.keeps_pc _
  · simp only [Prod.map_snd]
    unfold afterUnregisterService
    split
    · exact s.keeps_pc _
    · exact s.keeps_fail _
    · exact s.keeps_pc _
  · simp only [Prod.map_snd]
    unfold afterHeartbeat
    split
    · exact s.keeps_replied env
    · exact s.keeps_fail _
    · exact s.keeps_pc _
  · simp only [Prod.map_snd]
    unfold afterCleanUp
    split <;> exact s.keeps_pc _
  · exact s.keeps_pc _

end LiveSession

/-! ## What one section does to the services map and the sessions map -/

/-- What no directory operation touches: sessions, nodes and tokens, in memory
and in the store, and the connections. -/
structure OffDirectory (st st' : AppState) : Prop where
  sessions : st'.sessions = st.sessions
  nodes : st'.nodes = st.nodes
  tokens : st'.tokens = st.tokens
  storedNodes : st'.store.nodes = st.store.nodes
  storedTokens : st'.store.tokens = st.store.tokens
  closed : st'.closed = st.closed

namespace OffDirectory

theorem refl (st : AppState) : OffDirectory st st := ⟨rfl, rfl, rfl, rfl, rfl, rfl⟩

theorem trans {a b c : AppState} (h : OffDirectory a b) (h' : OffDirectory b c) :
    OffDirectory a c :=
  ⟨h'.sessions.trans h.sessions, h'.nodes.trans h.nodes, h'.tokens.trans h.tokens,
    h'.storedNodes.trans h.storedNodes, h'.storedTokens.trans h.storedTokens,
    h'.closed.trans h.closed⟩

theorem putService (env : Env) (service : ServiceDefinition) (st : AppState) :
    OffDirectory st (putService env service st) := by
  unfold OngrokRelay.putService
  cases env.put <;> exact ⟨rfl, rfl, rfl, rfl, rfl, rfl⟩

theorem deleteRow (env : Env) (serviceId : ServiceId) (st : AppState) :
    OffDirectory st (deleteRow env serviceId st) := by
  unfold OngrokRelay.deleteRow
  cases env.delete <;> exact ⟨rfl, rfl, rfl, rfl, rfl, rfl⟩

theorem recordEvent (env : Env) (kind : EventKind) (nodeId : Option NodeId)
    (serviceId : Option ServiceId) (tokenKind : Option TokenKind) (st : AppState) :
    OffDirectory st (recordEvent env kind nodeId serviceId tokenKind st) :=
  ⟨rfl, rfl, rfl, recordEvent_store_nodes .., recordEvent_store_tokens .., rfl⟩

end OffDirectory

theorem registerStep_off (cfg : RelayConfig) (nodeId : NodeId) (env : Env) (st : AppState)
    (pc : RegisterPc) : OffDirectory st (registerStep cfg nodeId env st pc).1 := by
  cases pc with
  | lock service =>
    simp only [registerStep, registerLocked]
    cases admitService cfg st.services service nodeId <;> exact ⟨rfl, rfl, rfl, rfl, rfl, rfl⟩
  | put service =>
    simp only [registerStep]
    split <;> exact .putService env service st
  | lookUp service =>
    simp only [registerStep]
    split
    · exact .refl st
    · split <;> exact .refl st
  | bind service port =>
    simp only [registerStep]
    split <;> exact .refl st
  | deleteRow service =>
    simp only [registerStep]
    split <;> exact .deleteRow env service.serviceId st
  | event service => exact .recordEvent env _ _ _ _ st
  | insertTask service port | rollBack service | done result => exact ⟨rfl, rfl, rfl, rfl, rfl, rfl⟩

theorem unregisterStep_off (serviceId : ServiceId) (nodeId : NodeId) (env : Env)
    (st : AppState) (pc : UnregisterPc) :
    OffDirectory st (unregisterStep serviceId nodeId env st pc).1 := by
  cases pc with
  | lock =>
    simp only [unregisterStep]
    split <;> exact ⟨rfl, rfl, rfl, rfl, rfl, rfl⟩
  | deleteRow =>
    simp only [unregisterStep]
    split <;> exact .deleteRow env serviceId st
  | event => exact .recordEvent env _ _ _ _ st
  | abort | done result => exact ⟨rfl, rfl, rfl, rfl, rfl, rfl⟩

/-- **What no directory operation touches.** -/
theorem ServiceTask.step_off (cfg : RelayConfig) (env : Env) (st : AppState)
    (task : ServiceTask) : OffDirectory st (task.step cfg env st).1 := by
  cases task with
  | register nodeId pc => exact registerStep_off cfg nodeId env st pc
  | unregister serviceId nodeId pc => exact unregisterStep_off serviceId nodeId env st pc
  | delete serviceId pc =>
    cases pc with
    | remove =>
      simp only [step, deleteStep]
      cases st.services[serviceId]? <;> exact ⟨rfl, rfl, rfl, rfl, rfl, rfl⟩
    | deleteRow nodeId =>
      simp only [step, deleteStep]
      split <;> exact .deleteRow env serviceId st
    | event nodeId => exact .recordEvent env _ _ _ _ st
    | abort nodeId | done response => exact ⟨rfl, rfl, rfl, rfl, rfl, rfl⟩
  | patch serviceId pc =>
    cases pc with
    | lock metadata =>
      cases metadata with
      | none => exact .refl st
      | some metadata =>
        simp only [step, patchStep]
        cases metadata.validate with
        | error e => exact .refl st
        | ok _ =>
          simp only [patchLocked]
          cases st.services[serviceId]? <;> exact ⟨rfl, rfl, rfl, rfl, rfl, rfl⟩
    | put updated =>
      simp only [step, patchStep]
      split <;> exact .putService env updated st
    | view updated | done response => exact .refl st

/-- What no heartbeat and no clean-up touches: the tokens, in memory and in the
store, and the connections. -/
structure OffNodes (st st' : AppState) : Prop where
  tokens : st'.tokens = st.tokens
  storedTokens : st'.store.tokens = st.store.tokens
  closed : st'.closed = st.closed

namespace OffNodes

theorem refl (st : AppState) : OffNodes st st := ⟨rfl, rfl, rfl⟩

theorem trans {a b c : AppState} (h : OffNodes a b) (h' : OffNodes b c) : OffNodes a c :=
  ⟨h'.tokens.trans h.tokens, h'.storedTokens.trans h.storedTokens, h'.closed.trans h.closed⟩

theorem putNode (env : Env) (node : NodeRecord) (st : AppState) :
    OffNodes st (putNode env node st) := by
  unfold OngrokRelay.putNode
  cases env.putNode node.nodeId <;> exact ⟨rfl, rfl, rfl⟩

theorem recordEvent (env : Env) (kind : EventKind) (nodeId : Option NodeId)
    (serviceId : Option ServiceId) (tokenKind : Option TokenKind) (st : AppState) :
    OffNodes st (recordEvent env kind nodeId serviceId tokenKind st) :=
  ⟨rfl, recordEvent_store_tokens .., rfl⟩

theorem markOffline (nodeId : NodeId) (st : AppState) : OffNodes st (markOffline nodeId st).1 := by
  rw [markOffline_eq]
  exact ⟨rfl, rfl, rfl⟩

theorem markAllOffline (nodeIds : List NodeId) (st : AppState) :
    OffNodes st (markAllOffline nodeIds st).1 := by
  rw [markAllOffline_eq]
  exact ⟨rfl, rfl, rfl⟩

end OffNodes

theorem heartbeatStep_off (nodeId : NodeId) (env : Env) (st : AppState) (pc : HeartbeatPc) :
    OffNodes st (heartbeatStep nodeId env st pc).1 := by
  cases pc with
  | nodes snapshot =>
    simp only [heartbeatStep]
    split <;> exact ⟨rfl, rfl, rfl⟩
  | putNode node metric =>
    simp only [heartbeatStep]
    split <;> exact .putNode env node st
  | putMetric metric =>
    simp only [heartbeatStep, putMetric]
    cases env.putMetric <;> exact ⟨rfl, rfl, rfl⟩
  | done result => exact .refl st

theorem cleanUpStep_off (transport : TransportKind) (nodeId : NodeId) (sessionId : TunnelId)
    (env : Env) (st : AppState) (pc : CleanUpPc) :
    OffNodes st (cleanUpStep transport nodeId sessionId env st pc).1 := by
  cases pc with
  | markOffline =>
    have hmark := OffNodes.markOffline nodeId st
    simp only [cleanUpStep]
    generalize markOffline nodeId st = marked at hmark
    obtain ⟨st', _ | node⟩ := marked
    · cases transport <;> exact hmark
    · cases transport with
      | quic => exact hmark
      | tcpTlsYamux =>
        have hput := hmark.trans (.putNode env node st')
        simp only
        split
        · exact hput
        · exact hput.trans (.recordEvent ..)
  | put node =>
    simp only [cleanUpStep]
    split <;> exact .putNode env node st
  | event => exact .recordEvent ..
  | check | remove | done result => exact ⟨rfl, rfl, rfl⟩

def SessionPc.isActivate : SessionPc → Bool
  | .registerNode pc => pc.isActivate
  | _ => false

/-- The session's entry in the sessions map, when it has one. -/
def LiveSession.entry (s : LiveSession) : ActiveSession :=
  ⟨s.peer.sessionId, s.kind, s.transport.session s.peer.connection⟩

/-- What one section of a task can do to the sessions map. -/
inductive SessionsChange (sessions : BTreeMap NodeId ActiveSession) :
    ControlTask → BTreeMap NodeId ActiveSession → Prop
  | kept {task : ControlTask} : SessionsChange sessions task sessions
  | activated {s : LiveSession} (h : s.pc.isActivate) :
    SessionsChange sessions (.session (.live s)) (sessions.insert s.nodeId s.entry)
  | removed {task : ControlTask} (nodeId : NodeId) :
    SessionsChange sessions task (sessions.erase nodeId)
  | swept {kind : TokenKind} {hash : Option TokenHash} :
    SessionsChange sessions (.replace kind hash .sweep)
      (sessions.filter fun _ session => session.tokenKind != kind)

/-- An entry of the sessions map was there before, or its session activates. -/
theorem SessionsChange.entry {sessions sessions' : BTreeMap NodeId ActiveSession}
    {task : ControlTask} (h : SessionsChange sessions task sessions') {nodeId : NodeId}
    {entry : ActiveSession} (hentry : sessions'[nodeId]? = some entry) :
    sessions[nodeId]? = some entry ∨
    ∃ s, task = .session (.live s) ∧ s.pc.isActivate ∧ s.nodeId = nodeId ∧ s.entry = entry := by
  cases h with
  | kept => exact .inl hentry
  | @activated s hactivate =>
    rcases BTreeMap.get_insert_some.mp hentry with ⟨hid, hs⟩ | ⟨-, hentry⟩
    · exact .inr ⟨s, rfl, hactivate, hid, hs⟩
    · exact .inl hentry
  | removed removedId => exact .inl (BTreeMap.get_erase_some.mp hentry).2
  | swept =>
    rw [Std.ExtTreeMap.getElem?_filter'] at hentry
    exact .inl (Option.filter_eq_some_iff.mp hentry).1

theorem LiveSession.step_maps (cfg : RelayConfig) (env : Env) (st : AppState) (s : LiveSession) :
    DirectoryChange cfg st.services (s.step cfg env st).1.services ∧
    SessionsChange st.sessions (.session (.live s)) (s.step cfg env st).1.sessions := by
  unfold step
  split
  · exact ⟨.kept, .kept⟩
  · rename_i pc hpc
    obtain ⟨hservices, hsessions, -⟩ := registerNodeStep_maps s.peer s.transport
      (s.transport.session s.peer.connection) s.kind s.nodeId env st pc
    simp only [Prod.map_fst, id, hservices, hsessions]
    refine ⟨.kept, ?_⟩
    split
    · rename_i hactivate
      exact .activated (by rw [hpc]; exact hactivate)
    · exact .kept
  · rename_i pc _
    simp only [Prod.map_fst, id, (registerStep_off cfg s.nodeId env st pc).sessions]
    exact ⟨registerStep_change cfg s.nodeId env st pc, .kept⟩
  · rename_i serviceId pc _
    simp only [Prod.map_fst, id, (unregisterStep_off serviceId s.nodeId env st pc).sessions]
    exact ⟨unregisterStep_change cfg serviceId s.nodeId env st pc, .kept⟩
  · rename_i pc _
    obtain ⟨hservices, hsessions⟩ := heartbeatStep_maps s.nodeId env st pc
    simp only [Prod.map_fst, id, hservices, hsessions]
    exact ⟨.kept, .kept⟩
  · rename_i pc _ _
    obtain ⟨hservices, hsessions, -⟩ :=
      cleanUpStep_maps s.transport s.nodeId s.peer.sessionId env st pc
    simp only [Prod.map_fst, id, hservices, hsessions]
    refine ⟨.kept, ?_⟩
    split
    · exact .removed s.nodeId
    · exact .kept
  · exact ⟨.kept, .kept⟩

/-- **What one section can do to the services map.** -/
theorem ControlTask.step_services (cfg : RelayConfig) (env : Env) (st : AppState)
    (task : ControlTask) : DirectoryChange cfg st.services (task.step cfg env st).1.services := by
  cases task with
  | session task =>
    cases task with
    | live s => exact (s.step_maps cfg env st).1
    | hello peer transport | auth peer transport | refused peer reason => exact .kept
  | service task => exact task.step_change cfg env st
  | replace kind hash pc =>
    simp only [step, Prod.map_fst, id, (replaceStep_maps kind hash env st pc).1]
    exact .kept

/-- **What one section can do to the sessions map.** -/
theorem ControlTask.step_sessions (cfg : RelayConfig) (env : Env) (st : AppState)
    (task : ControlTask) : SessionsChange st.sessions task (task.step cfg env st).1.sessions := by
  cases task with
  | session task =>
    cases task with
    | live s => exact (s.step_maps cfg env st).2
    | hello peer transport | auth peer transport | refused peer reason => exact .kept
  | service task =>
    simp only [step, Prod.map_fst, id, (task.step_off cfg env st).sessions]
    exact .kept
  | replace kind hash pc =>
    simp only [step, Prod.map_fst, id, (replaceStep_maps kind hash env st pc).2]
    cases pc with
    | sweep => exact .swept
    | write | close disconnected | markOffline nodeIds | put nodes | event node rest
    | done result => exact .kept

/-! ## Activation -/

/-- A session that has nothing in hand: it awaits a frame, is about to enter the
first section of an arm, or is leaving. -/
inductive SessionPc.Outset : SessionPc → Prop
  | loop : Outset .loop
  | registerNode (metadata : NodeMetadata) (publicKey : PublicKey) :
    Outset (.registerNode (.identity metadata publicKey))
  | registerService (service : ServiceDefinition) : Outset (.registerService (.lock service))
  | unregisterService (serviceId : ServiceId) : Outset (.unregisterService serviceId .lock)
  | heartbeat (sequence : UInt64) (snapshot : HeartbeatSnapshot) :
    Outset (.heartbeat sequence (.nodes snapshot))
  | ending (result : Outcome) : Outset (.ending .check result)
  | finished (result : Outcome) : Outset (.finished result)

theorem SessionPc.Outset.isActivate {pc : SessionPc} (h : pc.Outset) : pc.isActivate = false := by
  cases h <;> rfl

namespace LiveSession

theorem fail_outset (s : LiveSession) (e : String) : (s.fail e).pc.Outset := by
  unfold fail
  split
  · exact .finished _
  · exact .ending _

theorem replied_outset (s : LiveSession) (env : Env) : (s.replied env).pc.Outset := by
  unfold replied
  split
  · exact s.fail_outset _
  · exact .loop

/-- **Where a frame leads.** -/
theorem read_outset (s : LiveSession) (env : Env) : (s.read env).pc.Outset := by
  unfold read
  split
  · exact s.fail_outset _
  · split
    · exact s.fail_outset _
    · exact .registerNode _ _
  · split
    · exact s.replied_outset env
    · exact .registerService _
  · exact .unregisterService _
  · exact .heartbeat _ _
  · exact .ending _
  · exact s.replied_outset env

/-- A session comes to its activation from a RegisterNode that has just passed
its identity check. -/
theorem step_isActivate {cfg : RelayConfig} {env : Env} {st : AppState} {s : LiveSession}
    (h : (s.step cfg env st).2.pc.isActivate) : (s.step cfg env st).2.accepted = true ∧
      ∃ metadata publicKey, s.pc = .registerNode (.identity metadata publicKey) ∧
        validateNodeIdentity st.nodes s.nodeId publicKey = .ok () := by
  unfold step at h ⊢
  split at h
  · rw [(s.read_outset env).isActivate] at h
    cases h
  · rename_i pc hpc
    cases pc with
    | identity metadata publicKey =>
      -- the one section that leads there
      simp only [registerNodeStep] at h ⊢
      cases hidentity : validateNodeIdentity st.nodes s.nodeId publicKey with
      | error e =>
        simp only [hidentity, Prod.map_snd, afterRegisterNode, (s.fail_outset e).isActivate] at h
        cases h
      | ok _ => exact ⟨rfl, metadata, publicKey, hpc, hidentity⟩
    | put node =>
      simp only [registerNodeStep] at h
      cases hput : env.putNode node.nodeId with
      | error e =>
        simp only [hput, Prod.map_snd, afterRegisterNode, (s.fail_outset e).isActivate] at h
        cases h
      | ok _ =>
        simp only [hput] at h
        cases h
    | done result =>
      cases result with
      | ok _ => cases h
      | error e =>
        simp only [registerNodeStep, Prod.map_snd, afterRegisterNode, (s.fail_outset e).isActivate] at h
        cases h
    | activate metadata publicKey | close replaced metadata publicKey | insertNode node
    | event => cases h
  · simp only [Prod.map_snd] at h
    unfold afterRegisterService at h
    split at h
    · rw [(s.replied_outset env).isActivate] at h
      cases h
    · cases h
  · simp only [Prod.map_snd] at h
    unfold afterUnregisterService at h
    split at h
    · cases h
    · rw [(s.fail_outset _).isActivate] at h
      cases h
    · cases h
  · simp only [Prod.map_snd] at h
    unfold afterHeartbeat at h
    split at h
    · rw [(s.replied_outset env).isActivate] at h
      cases h
    · rw [(s.fail_outset _).isActivate] at h
      cases h
    · cases h
  · simp only [Prod.map_snd] at h
    unfold afterCleanUp at h
    split at h <;> cases h
  · rename_i hpc
    rw [hpc] at h
    cases h

end LiveSession

theorem SessionTask.step_peer (cfg : RelayConfig) (env : Env) (st : AppState)
    (task : SessionTask) : (task.step cfg env st).2.peer = task.peer := by
  cases task with
  | hello peer transport =>
    rcases hello_cases cfg env st peer transport with hstep | ⟨reason, hstep⟩ <;> rw [hstep] <;> rfl
  | auth peer transport =>
    rcases auth_cases cfg env st peer transport with ⟨reason, hstep⟩ | ⟨_, _, _, _, hstep⟩ <;>
      rw [hstep] <;> rfl
  | live s => exact (s.step_keeps cfg env st).peer
  | refused peer reason => rfl

theorem ControlTask.step_sessionId (cfg : RelayConfig) (env : Env) (st : AppState)
    (task : ControlTask) : (task.step cfg env st).2.sessionId = task.sessionId := by
  cases task with
  | session task => exact congrArg (fun peer => some peer.sessionId) (task.step_peer cfg env st)
  | service task | replace kind hash pc => rfl

theorem ControlTask.step_live {cfg : RelayConfig} {env : Env} {st : AppState} {s s' : LiveSession}
    (h : (ControlTask.step cfg env st (.session (.live s))).2 = .session (.live s')) :
    (s.step cfg env st).2 = s' := SessionTask.live.inj (ControlTask.session.inj h)

theorem ControlTask.step_checked {cfg : RelayConfig} {env : Env} {st : AppState}
    {task : ControlTask} {s : LiveSession} (h : (task.step cfg env st).2 = .session (.live s))
    (hactivate : s.pc.isActivate) : s.accepted = true := by
  cases task with
  | session task =>
    cases task with
    | live session =>
      obtain rfl := step_live h
      exact (LiveSession.step_isActivate hactivate).1
    | hello peer transport =>
      rcases SessionTask.hello_cases cfg env st peer transport with hstep | ⟨reason, hstep⟩ <;>
        rw [step, hstep] at h <;> cases h
    | auth peer transport =>
      rcases SessionTask.auth_cases cfg env st peer transport with
        ⟨reason, hstep⟩ | ⟨token, nodeId, kind, -, hstep⟩
      · rw [step, hstep] at h
        cases h
      · -- a session that has just authenticated awaits its first frame
        rw [step, hstep] at h
        cases h
        cases hactivate
    | refused peer reason => cases h
  | service task | replace kind hash pc => cases h

/-! ## Who owns an entry of the sessions map -/

/-- The task is the session whose entry this is, and its RegisterNode has passed
its checks. -/
def ControlTask.Owns (task : ControlTask) (nodeId : NodeId) (entry : ActiveSession) : Prop :=
  ∃ s, task = .session (.live s) ∧ s.accepted = true ∧ s.nodeId = nodeId ∧ s.entry = entry

theorem ControlTask.Owns.step {task : ControlTask} {nodeId : NodeId} {entry : ActiveSession}
    (h : task.Owns nodeId entry) (cfg : RelayConfig) (env : Env) (st : AppState) :
    (task.step cfg env st).2.Owns nodeId entry := by
  obtain ⟨s, rfl, haccepted, rfl, rfl⟩ := h
  have hkeeps := s.step_keeps cfg env st
  refine ⟨(s.step cfg env st).2, rfl, hkeeps.accepted haccepted, hkeeps.nodeId, ?_⟩
  unfold LiveSession.entry
  rw [hkeeps.peer, hkeeps.kind, hkeeps.transport]

/-- Session ids are distinct, every entry of the sessions map is some task's,
and a session about to enter the map has passed the checks of RegisterNode. -/
structure SessionsOwned (p : ControlPlane) : Prop where
  distinct : ∀ (i j : Nat) (t u : ControlTask) (sessionId : TunnelId),
    p.tasks[i]? = some t → p.tasks[j]? = some u →
    t.sessionId = some sessionId → u.sessionId = some sessionId → i = j
  owned : ∀ (nodeId : NodeId) (entry : ActiveSession), p.shared.sessions[nodeId]? = some entry →
    ∃ (i : Nat) (task : ControlTask), p.tasks[i]? = some task ∧ task.Owns nodeId entry
  checked : ∀ (i : Nat) (s : LiveSession), p.tasks[i]? = some (.session (.live s)) →
    s.pc.isActivate → s.accepted = true

namespace SessionsOwned

variable {cfg : RelayConfig} {p : ControlPlane}

/-- A task that moves on is still at its place, and the others are at theirs. -/
theorem set_owner {i : Nat} {task : ControlTask} (htask : p.tasks[i]? = some task) (env : Env)
    {nodeId : NodeId} {entry : ActiveSession}
    (h : ∃ (j : Nat) (u : ControlTask), p.tasks[j]? = some u ∧ u.Owns nodeId entry) :
    ∃ (j : Nat) (u : ControlTask), (p.tasks.set i (task.step cfg env p.shared).2)[j]? = some u ∧
      u.Owns nodeId entry := by
  obtain ⟨j, u, hu, howns⟩ := h
  have hlt : i < p.tasks.length := (List.getElem?_eq_some_iff.mp htask).1
  by_cases hij : i = j
  · subst hij
    rw [htask] at hu
    cases hu
    exact ⟨i, _, List.getElem?_set_self hlt, howns.step cfg env p.shared⟩
  · exact ⟨j, u, by rw [List.getElem?_set_ne hij, hu], howns⟩

/-- The id of a task that has moved on is the id it had. -/
theorem set_sessionId {i : Nat} {task : ControlTask} (htask : p.tasks[i]? = some task) (env : Env)
    {j : Nat} {u : ControlTask}
    (hu : (p.tasks.set i (task.step cfg env p.shared).2)[j]? = some u) :
    ∃ t, p.tasks[j]? = some t ∧ u.sessionId = t.sessionId := by
  rcases getElem?_set_some hu with ⟨rfl, rfl⟩ | ⟨-, hu⟩
  · exact ⟨task, htask, task.step_sessionId cfg env p.shared⟩
  · exact ⟨u, hu, rfl⟩

theorem run (h : SessionsOwned p) {i : Nat} {task : ControlTask}
    (htask : p.tasks[i]? = some task) (env : Env) :
    SessionsOwned ⟨(task.step cfg env p.shared).1, p.tasks.set i (task.step cfg env p.shared).2⟩ where
  distinct j k t u sessionId ht hu hts hus := by
    obtain ⟨t', ht', htid⟩ := set_sessionId htask env ht
    obtain ⟨u', hu', huid⟩ := set_sessionId htask env hu
    exact h.distinct j k t' u' sessionId ht' hu' (htid ▸ hts) (huid ▸ hus)
  owned nodeId entry hentry := by
    -- a new entry is that of the task that has just activated
    rcases (task.step_sessions cfg env p.shared).entry hentry with hentry | ⟨s, rfl, hs, rfl, rfl⟩
    · exact set_owner htask env (h.owned nodeId entry hentry)
    · exact set_owner htask env ⟨i, _, htask, s, rfl, h.checked i s htask hs, rfl, rfl⟩
  checked j s hs hactivate := by
    rcases getElem?_set_some hs with ⟨-, hs⟩ | ⟨-, hs⟩
    · exact task.step_checked hs.symm hactivate
    · exact h.checked j s hs hactivate

theorem opens_sessionId {task old : ControlTask} (hopens : p.opens task) (hold : old ∈ p.tasks)
    {sessionId : TunnelId} (hid : old.sessionId = some sessionId) :
    task.sessionId ≠ some sessionId := by
  intro htask
  cases task with
  | session task =>
    cases task with
    | hello peer transport =>
      have hne := List.all_eq_true.mp hopens old hold
      rw [hid, ← htask] at hne
      simp [ControlTask.sessionId, SessionTask.peer] at hne
    | auth peer transport | live s | refused peer reason => cases hopens
  | service task | replace kind hash pc => cases htask

theorem spawn (h : SessionsOwned p) {task : ControlTask} (hopens : p.opens task) :
    SessionsOwned ⟨p.shared, p.tasks ++ [task]⟩ where
  distinct i j t u sessionId ht hu hts hus := by
    -- a session that joins has an id that no task has
    have hfresh {k : Nat} {old : ControlTask} (hold : p.tasks[k]? = some old)
        (hids : old.sessionId = some sessionId) : task.sessionId ≠ some sessionId :=
      opens_sessionId hopens (List.mem_of_getElem? hold) hids
    rcases getElem?_append_some ht with hold | ⟨hi, rfl⟩
    · rcases getElem?_append_some hu with hold' | ⟨-, rfl⟩
      · exact h.distinct i j t u sessionId hold hold' hts hus
      · exact absurd hus (hfresh hold hts)
    · rcases getElem?_append_some hu with hold | ⟨hj, -⟩
      · exact absurd hts (hfresh hold hus)
      · rw [hi, hj]
  owned nodeId entry hentry := by
    obtain ⟨i, t, ht, howns⟩ := h.owned nodeId entry hentry
    have hlt : i < p.tasks.length := (List.getElem?_eq_some_iff.mp ht).1
    exact ⟨i, t, by rw [List.getElem?_append_left hlt, ht], howns⟩
  checked i s hs hactivate := by
    rcases getElem?_append_some hs with hs | ⟨-, rfl⟩
    · exact h.checked i s hs hactivate
    · cases hopens

theorem next (h : SessionsOwned p) (e : Event Env ControlTask) : SessionsOwned (p.next cfg e) := by
  rcases p.next_cases cfg e with he | ⟨i, env, task, -, htask, he⟩ | ⟨task, -, hopens, he⟩
  · rw [he]
    exact h
  · rw [he]
    exact h.run htask env
  · rw [he]
    exact h.spawn hopens

end SessionsOwned

theorem ControlPlane.Reached.sessionsOwned {cfg : RelayConfig} {p : ControlPlane}
    (h : Reached cfg p) : SessionsOwned p := by
  refine h.invariant (I := SessionsOwned) ?_ fun p e hp => hp.next e
  intro env adminHash userHash store st hstart
  obtain ⟨-, -, hsessions⟩ := start_ok hstart
  refine ⟨fun i j t u sessionId ht => ?_, fun nodeId entry hentry => ?_, fun i s hs => ?_⟩
  · cases ht
  · rw [hsessions, BTreeMap.get_empty] at hentry
    cases hentry
  · cases hs

/-- Every service of a control plane reached is filed under its own id. -/
theorem ControlPlane.Reached.keysMatch {cfg : RelayConfig} {p : ControlPlane}
    (h : Reached cfg p) : KeysMatch p.shared.services := by
  refine h.invariant (I := fun p => KeysMatch p.shared.services) ?_ fun p e hp => ?_
  · intro env adminHash userHash store st hstart id s hs
    obtain ⟨hservices, -, -⟩ := start_ok hstart
    rw [hservices] at hs
    exact (ServiceStore.loadServices_some hs).2
  · rcases p.next_cases cfg e with he | ⟨i, env, task, -, -, he⟩ | ⟨task, -, -, he⟩
    · rw [he]
      exact hp
    · rw [he]
      exact hp.change (task.step_services cfg env p.shared)
    · rw [he]
      exact hp

/-! ## Sample runs -/

namespace Sample

def metadata : NodeMetadata := ⟨"host", "linux", "x86_64", "0.1.0", {}⟩

/-- A first start, with the tokens "admin" and "user". -/
def started : AppState :=
  let tokens : TokenState := ⟨some (hashToken "admin"), some (hashToken "user")⟩
  { tokens, store := { tokens := some tokens } }

theorem started_ok : start {} (hashToken "admin") (hashToken "user") {} = .ok started := rfl

/-- The `i`-th task is a session that authenticates with the user token and
claims the node. -/
def connects (i : Nat) (sessionId node : BitVec 128) : List (Event Env ControlTask) :=
  [.spawn (.session (.hello ⟨i, ⟨sessionId⟩, "203.0.113.7", 40000⟩ .quic)),
    .run i { input := .ok (.hello protocolVersion) }, .run i { input := .ok (.auth "user" ⟨node⟩) }]

/-- Its next frame is a RegisterNode, which is handled to its end. -/
def registers (i : Nat) : List (Event Env ControlTask) :=
  .run i { input := .ok (.registerNode metadata 5) } :: List.replicate 6 (.run i {})

/-- What a run comes to from that start. -/
def reached (events : List (Event Env ControlTask)) : ControlPlane :=
  run (ControlPlane.next config) ⟨started, []⟩ events

theorem reached_ok (events : List (Event Env ControlTask)) :
    ControlPlane.Reached config (reached events) :=
  ⟨{}, _, _, {}, started, events, started_ok, rfl⟩

end Sample

end OngrokRelay
