import OngrokRelay.ServiceTasks
import OngrokRelay.Sessions

/-
  Control sessions and revocations as tasks that other tasks interrupt.

  As in `ServiceTasks`, a control point names the next atomic section. The
  sections are those of `Sessions`; reading a frame and writing a reply touch
  nothing shared and belong to the section before or after them. A live session
  also carries what its statements need and the code has dropped: the token
  hash it authenticated with, and whether a RegisterNode of it has passed its
  checks.

  `registerNodeStep_solo` and its siblings: a task that nothing interrupts does
  what its function does. `SessionTurns` proves the same of a whole session.
-/

namespace OngrokRelay

open Interleaving

/-! ## RegisterNode -/

inductive RegisterNodePc
  | identity (metadata : NodeMetadata) (publicKey : PublicKey)
  | activate (metadata : NodeMetadata) (publicKey : PublicKey)
  | close (replaced : Option ActiveSession) (metadata : NodeMetadata) (publicKey : PublicKey)
  | insertNode (node : NodeRecord)
  | put (node : NodeRecord)
  | event
  | done (result : Outcome)
  deriving DecidableEq

def registerNodeStep (peer : Peer) (transport : TransportKind) (clientSession : ClientSession)
    (kind : TokenKind) (nodeId : NodeId) (env : Env) (st : AppState) :
    RegisterNodePc → AppState × RegisterNodePc
  | .identity metadata publicKey =>
    match validateNodeIdentity st.nodes nodeId publicKey with
    | .error e => (st, .done (.error e))
    | .ok _ => (st, .activate metadata publicKey)
  | .activate metadata publicKey =>
    let (st, replaced) := insertSession nodeId ⟨peer.sessionId, kind, clientSession⟩ st
    (st, .close replaced metadata publicKey)
  | .close replaced metadata publicKey =>
    (closeReplaced replaced st,
      .insertNode (connectedNode env peer transport nodeId metadata publicKey))
  | .insertNode node => (insertNode nodeId node st, .put node)
  | .put node =>
    match env.putNode node.nodeId with
    | .error e => (putNode env node st, .done (.error e))
    | .ok _ => (putNode env node st, .event)
  | .event => (recordEvent env .nodeOnline (some nodeId) none none st, .done (.ok ()))
  | .done result => (st, .done result)

/-! ## Heartbeat -/

inductive HeartbeatPc
  | nodes (snapshot : HeartbeatSnapshot)
  | putNode (node : NodeRecord) (metric : NodeMetric)
  | putMetric (metric : NodeMetric)
  | done (result : Outcome)
  deriving DecidableEq

def HeartbeatPc.returned : HeartbeatPc → Bool
  | .done _ => true
  | _ => false

def heartbeatStep (nodeId : NodeId) (env : Env) (st : AppState) :
    HeartbeatPc → AppState × HeartbeatPc
  | .nodes snapshot =>
    let rttMs := roundTrip env.now snapshot
    match st.nodes[nodeId]? with
    | none => (st, .done (.ok ()))
    | some node =>
      let node := node.heard env.now rttMs
      (insertNode nodeId node st, .putNode node ⟨nodeId, env.now, some rttMs, snapshot⟩)
  | .putNode node metric =>
    match env.putNode node.nodeId with
    | .error e => (OngrokRelay.putNode env node st, .done (.error e))
    | .ok _ => (OngrokRelay.putNode env node st, .putMetric metric)
  | .putMetric metric => (OngrokRelay.putMetric env metric st, .done env.putMetric)
  | .done result => (st, .done result)

/-! ## Clean-up -/

inductive CleanUpPc
  | check
  | remove
  | markOffline
  | put (node : NodeRecord)
  | event
  | done (result : Outcome)
  deriving DecidableEq

def CleanUpPc.returned : CleanUpPc → Bool
  | .done _ => true
  | _ => false

/-- The Yamux handler holds the nodes lock from the mark to the event; the QUIC
handler lets it go after the mark. -/
def cleanUpStep (transport : TransportKind) (nodeId : NodeId) (sessionId : TunnelId) (env : Env)
    (st : AppState) : CleanUpPc → AppState × CleanUpPc
  | .check => (st, if sessionActive st nodeId sessionId then .remove else .done (.ok ()))
  | .remove => (removeSession nodeId st, .markOffline)
  | .markOffline =>
    match markOffline nodeId st, transport with
    | (st, none), _ => (st, .done (.ok ()))
    | (st, some node), .quic => (st, .put node)
    | (st, some node), .tcpTlsYamux =>
      -- still the same section: store call and event come before the lock is released
      match env.putNode node.nodeId with
      | .error e => (putNode env node st, .done (.error e))
      | .ok _ =>
        (recordEvent env .nodeOffline (some nodeId) none none (putNode env node st),
          .done (.ok ()))
  | .put node =>
    match env.putNode node.nodeId with
    | .error e => (putNode env node st, .done (.error e))
    | .ok _ => (putNode env node st, .event)
  | .event => (recordEvent env .nodeOffline (some nodeId) none none st, .done (.ok ()))
  | .done result => (st, .done result)

/-! ## Revocation -/

inductive ReplacePc
  | write
  | sweep
  | close (disconnected : List (NodeId × ActiveSession))
  | markOffline (nodeIds : List NodeId)
  | put (nodes : List NodeRecord)
  | event (node : NodeRecord) (rest : List NodeRecord)
  | done (result : Outcome)
  deriving DecidableEq

def replaceStep (kind : TokenKind) (hash : Option TokenHash) (env : Env) (st : AppState) :
    ReplacePc → AppState × ReplacePc
  | .write =>
    match writeToken env kind hash st with
    | (st, .error e) => (st, .done (.error e))
    | (st, .ok _) => (st, .sweep)
  | .sweep =>
    let (st, disconnected) := disconnectKind kind st
    (st, .close disconnected)
  | .close disconnected =>
    (disconnected.foldl (fun st entry => entry.2.connection.close st) st,
      .markOffline (disconnected.map Prod.fst))
  | .markOffline nodeIds =>
    let (st, nodes) := markAllOffline nodeIds st
    (st, .put nodes)
  | .put [] => (st, .done (.ok ()))
  | .put (node :: rest) =>
    match env.putNode node.nodeId with
    | .error e => (putNode env node st, .done (.error e))
    | .ok _ => (putNode env node st, .event node rest)
  | .event node rest =>
    (recordEvent env .nodeOffline (some node.nodeId) none none st, .put rest)
  | .done result => (st, .done result)

/-! ## A task alone does what its function does -/

theorem registerNodeStep_solo (env : Env) (peer : Peer) (transport : TransportKind)
    (clientSession : ClientSession) (kind : TokenKind) (nodeId : NodeId) {metadata : NodeMetadata}
    (hvalid : metadata.metadata.validate = .ok ()) (publicKey : PublicKey) (st : AppState) :
    solo (registerNodeStep peer transport clientSession kind nodeId) env 6
        (st, .identity metadata publicKey) =
      ((registerNode env peer transport clientSession kind nodeId metadata publicKey st).1,
        .done (registerNode env peer transport clientSession kind nodeId metadata publicKey
          st).2) := by
  unfold registerNode
  rw [hvalid]
  cases hidentity : validateNodeIdentity st.nodes nodeId publicKey with
  | error e => simp only [solo_succ, solo_zero, registerNodeStep, hidentity]
  | ok _ =>
    have hnode : (connectedNode env peer transport nodeId metadata publicKey).nodeId = nodeId :=
      rfl
    simp only
    cases hput : env.putNode nodeId <;>
      simp only [solo_succ, solo_zero, registerNodeStep, hidentity, activateSession, hnode, hput]

theorem heartbeatStep_solo (env : Env) (nodeId : NodeId) (snapshot : HeartbeatSnapshot)
    (st : AppState) :
    solo (heartbeatStep nodeId) env 3 (st, .nodes snapshot) =
      ((recordHeartbeat env nodeId snapshot st).1,
        .done (recordHeartbeat env nodeId snapshot st).2) := by
  unfold recordHeartbeat
  cases hget : st.nodes[nodeId]? with
  | none => simp only [solo_succ, solo_zero, heartbeatStep, hget]
  | some node =>
    simp only
    cases hput : env.putNode (node.heard env.now (roundTrip env.now snapshot)).nodeId <;>
      simp only [solo_succ, solo_zero, heartbeatStep, hget, hput]

theorem cleanUpStep_solo (env : Env) (transport : TransportKind) (nodeId : NodeId)
    (sessionId : TunnelId) (st : AppState) :
    solo (cleanUpStep transport nodeId sessionId) env 5 (st, .check) =
      ((cleanUp env nodeId sessionId st).1, .done (cleanUp env nodeId sessionId st).2) := by
  unfold cleanUp
  by_cases hactive : sessionActive st nodeId sessionId
  · simp only [if_pos hactive, solo_succ, cleanUpStep]
    obtain ⟨st', _ | node⟩ := markOffline nodeId (removeSession nodeId st)
    · cases transport <;> simp only [solo_succ, solo_zero, cleanUpStep]
    · simp only
      cases hput : env.putNode node.nodeId <;> cases transport <;>
        simp only [solo_succ, solo_zero, cleanUpStep, hput]
  · simp only [if_neg hactive, solo_succ, solo_zero, cleanUpStep]

theorem replaceStep_put_solo (env : Env) (kind : TokenKind) (hash : Option TokenHash)
    (nodes : List NodeRecord) (st : AppState) :
    solo (replaceStep kind hash) env (2 * nodes.length + 1) (st, .put nodes) =
      ((putOffline env nodes st).1, .done (putOffline env nodes st).2) := by
  induction nodes generalizing st with
  | nil => rfl
  | cons node rest ih =>
    have hdone (n : Nat) (st : AppState) (result : Outcome) :
        solo (replaceStep kind hash) env n (st, .done result) = (st, .done result) := by
      induction n with
      | zero => rfl
      | succ n ihn => exact ihn
    -- two sections for each record, its store call and its event
    rw [List.length_cons, show 2 * (rest.length + 1) + 1 = 2 * rest.length + 1 + 1 + 1 by omega]
    unfold putOffline
    cases hput : env.putNode node.nodeId with
    | error e => simp only [solo_succ, replaceStep, hput, hdone]
    | ok _ =>
      simp only [solo_succ, replaceStep, hput]
      exact ih _

theorem replaceStep_solo (env : Env) (kind : TokenKind) (hash : Option TokenHash)
    (st : AppState) : ∃ n, solo (replaceStep kind hash) env n (st, .write) =
      ((replaceToken env kind hash st).1, .done (replaceToken env kind hash st).2) := by
  unfold replaceToken
  cases hwrite : writeToken env kind hash st with
  | mk st₁ result =>
    cases result with
    | error e => exact ⟨1, by simp only [solo_succ, solo_zero, replaceStep, hwrite]⟩
    | ok _ =>
      refine ⟨4 + (2 * (markAllOffline ((disconnectKind kind st₁).2.map Prod.fst)
        ((disconnectKind kind st₁).2.foldl (fun st entry => entry.2.connection.close st)
          (disconnectKind kind st₁).1)).2.length + 1), ?_⟩
      rw [solo_add]
      simp only [solo_succ, solo_zero, replaceStep, hwrite]
      exact replaceStep_put_solo env kind hash _ _

/-! ## What the sections do to the maps -/

@[simp] def CleanUpPc.isRemove : CleanUpPc → Bool
  | .remove => true
  | _ => false

@[simp] def CleanUpPc.isMark : CleanUpPc → Bool
  | .markOffline => true
  | _ => false

@[simp] def RegisterNodePc.isActivate : RegisterNodePc → Bool
  | .activate _ _ => true
  | _ => false

@[simp] def RegisterNodePc.isInsert : RegisterNodePc → Bool
  | .insertNode _ => true
  | _ => false

/-- What one section of the clean-up does to the maps. -/
theorem cleanUpStep_maps (transport : TransportKind) (nodeId : NodeId) (sessionId : TunnelId)
    (env : Env) (st : AppState) (pc : CleanUpPc) :
    (cleanUpStep transport nodeId sessionId env st pc).1.services = st.services ∧
    (cleanUpStep transport nodeId sessionId env st pc).1.sessions =
      (if pc.isRemove then st.sessions.erase nodeId else st.sessions) ∧
    (cleanUpStep transport nodeId sessionId env st pc).1.nodes =
      (if pc.isMark then (markOffline nodeId st).1.nodes else st.nodes) := by
  cases pc with
  | check | remove | event | done result => exact ⟨rfl, rfl, rfl⟩
  | put node =>
    simp only [cleanUpStep]
    cases env.putNode node.nodeId <;> exact ⟨rfl, rfl, rfl⟩
  | markOffline =>
    have hservices := markOffline_services nodeId st
    have hsessions := markOffline_sessions nodeId st
    simp only [cleanUpStep]
    generalize markOffline nodeId st = marked at hservices hsessions
    obtain ⟨st', _ | node⟩ := marked
    · cases transport <;> exact ⟨hservices, hsessions, rfl⟩
    · cases transport with
      | quic => exact ⟨hservices, hsessions, rfl⟩
      | tcpTlsYamux =>
        simp only
        cases env.putNode node.nodeId <;> exact ⟨hservices, hsessions, rfl⟩

section
variable (peer : Peer) (transport : TransportKind) (clientSession : ClientSession)
  (kind : TokenKind) (nodeId : NodeId) (env : Env) (st : AppState) (pc : RegisterNodePc)

/-- What one section of RegisterNode does to the maps. -/
theorem registerNodeStep_maps :
    (registerNodeStep peer transport clientSession kind nodeId env st pc).1.services =
      st.services ∧
    (registerNodeStep peer transport clientSession kind nodeId env st pc).1.sessions =
      (if pc.isActivate then st.sessions.insert nodeId ⟨peer.sessionId, kind, clientSession⟩
        else st.sessions) ∧
    (pc.isInsert = false →
      (registerNodeStep peer transport clientSession kind nodeId env st pc).1.nodes = st.nodes) ∧
    ∀ node, pc = .insertNode node →
      (registerNodeStep peer transport clientSession kind nodeId env st pc).1.nodes =
        st.nodes.insert nodeId node := by
  cases pc with
  | identity metadata publicKey =>
    simp only [registerNodeStep]
    cases validateNodeIdentity st.nodes nodeId publicKey <;>
      exact ⟨rfl, rfl, fun _ => rfl, fun node h => by cases h⟩
  | close replaced metadata publicKey =>
    exact ⟨closeReplaced_services replaced st, closeReplaced_sessions replaced st,
      fun _ => closeReplaced_nodes replaced st, fun node h => by cases h⟩
  | insertNode node =>
    refine ⟨rfl, rfl, fun h => (by cases h), fun node' h => ?_⟩
    cases h
    rfl
  | put node =>
    simp only [registerNodeStep]
    cases env.putNode node.nodeId <;>
      exact ⟨rfl, rfl, fun _ => rfl, fun node h => by cases h⟩
  | activate metadata publicKey | event | done result =>
    exact ⟨rfl, rfl, fun _ => rfl, fun node h => by cases h⟩

end

theorem heartbeatStep_maps (nodeId : NodeId) (env : Env) (st : AppState) (pc : HeartbeatPc) :
    (heartbeatStep nodeId env st pc).1.services = st.services ∧
    (heartbeatStep nodeId env st pc).1.sessions = st.sessions := by
  cases pc with
  | nodes snapshot =>
    simp only [heartbeatStep]
    cases st.nodes[nodeId]? <;> exact ⟨rfl, rfl⟩
  | putNode node metric =>
    simp only [heartbeatStep]
    cases env.putNode node.nodeId <;> exact ⟨rfl, rfl⟩
  | putMetric metric | done result => exact ⟨rfl, rfl⟩

def ReplacePc.isSweep : ReplacePc → Bool
  | .sweep => true
  | _ => false

/-- What one section of a revocation does to the maps. -/
theorem replaceStep_maps (kind : TokenKind) (hash : Option TokenHash) (env : Env) (st : AppState)
    (pc : ReplacePc) :
    (replaceStep kind hash env st pc).1.services = st.services ∧
    (replaceStep kind hash env st pc).1.sessions =
      (if pc.isSweep then (disconnectKind kind st).1.sessions else st.sessions) := by
  cases pc with
  | write =>
    simp only [replaceStep, writeToken]
    cases env.putTokens <;> exact ⟨rfl, rfl⟩
  | close disconnected =>
    obtain ⟨hservices, hsessions, -⟩ := close_frame disconnected st
    exact ⟨hservices, hsessions⟩
  | markOffline nodeIds => exact ⟨markAllOffline_services nodeIds st, (markAllOffline_spec nodeIds st).1⟩
  | put nodes =>
    cases nodes with
    | nil => exact ⟨rfl, rfl⟩
    | cons node rest =>
      simp only [replaceStep]
      cases env.putNode node.nodeId <;> exact ⟨rfl, rfl⟩
  | sweep | event node rest | done result => exact ⟨rfl, rfl⟩

/-! ## A session from its handshake to its end -/

inductive SessionPc
  | loop
  | registerNode (pc : RegisterNodePc)
  | registerService (pc : RegisterPc)
  | unregisterService (serviceId : ServiceId) (pc : UnregisterPc)
  | heartbeat (sequence : UInt64) (pc : HeartbeatPc)
  | ending (pc : CleanUpPc) (result : Outcome)
  | finished (result : Outcome)
  deriving DecidableEq

/-- A session past its handshake. -/
structure LiveSession where
  peer : Peer
  transport : TransportKind
  kind : TokenKind
  hash : TokenHash
  nodeId : NodeId
  registeredNode : Bool := false
  accepted : Bool := false
  pc : SessionPc := .loop
  deriving DecidableEq

namespace LiveSession

/-- An error leaves the QUIC handler at once and the Yamux loop for its clean-up. -/
def fail (s : LiveSession) (e : String) : LiveSession :=
  match s.transport with
  | .quic => { s with pc := .finished (.error e) }
  | .tcpTlsYamux => { s with pc := .ending .check (.error e) }

/-- A reply is written, and the next frame is awaited. -/
def replied (s : LiveSession) (env : Env) : LiveSession :=
  match env.write with
  | .error e => s.fail e
  | .ok _ => { s with pc := .loop }

/-- A frame is read. -/
def read (s : LiveSession) (env : Env) : LiveSession :=
  match env.input with
  | .error e => s.fail e
  | .ok (.registerNode metadata publicKey) =>
    -- the metadata is checked before the first lock is taken
    match metadata.metadata.validate with
    | .error e => s.fail e.message
    | .ok _ => { s with pc := .registerNode (.identity metadata publicKey) }
  | .ok (.registerService service) =>
    -- of the arms, the only one that asks
    if !s.registeredNode || service.nodeId != s.nodeId then s.replied env
    else { s with pc := .registerService (.lock service) }
  | .ok (.unregisterService serviceId) => { s with pc := .unregisterService serviceId .lock }
  | .ok (.heartbeat snapshot) => { s with pc := .heartbeat snapshot.sequence (.nodes snapshot) }
  | .ok .goodbye => { s with pc := .ending .check (.ok ()) }
  | .ok _ => s.replied env

def afterRegisterNode (s : LiveSession) : RegisterNodePc → LiveSession
  | .done (.ok _) => { s with registeredNode := true, pc := .loop }
  | .done (.error e) => s.fail e
  | .activate metadata publicKey =>
    -- the identity check has passed
    { s with accepted := true, pc := .registerNode (.activate metadata publicKey) }
  | pc => { s with pc := .registerNode pc }

def afterRegisterService (s : LiveSession) (env : Env) : RegisterPc → LiveSession
  | .done _ => s.replied env
  | pc => { s with pc := .registerService pc }

def afterUnregisterService (s : LiveSession) (serviceId : ServiceId) : UnregisterPc → LiveSession
  | .done (.ok _) => { s with pc := .loop }
  | .done (.error e) => s.fail e
  | pc => { s with pc := .unregisterService serviceId pc }

def afterHeartbeat (s : LiveSession) (env : Env) (sequence : UInt64) : HeartbeatPc → LiveSession
  | .done (.ok _) => s.replied env
  | .done (.error e) => s.fail e
  | pc => { s with pc := .heartbeat sequence pc }

/-- An error of the clean-up is the handler's own result. -/
def afterCleanUp (s : LiveSession) (result : Outcome) : CleanUpPc → LiveSession
  | .done (.ok _) => { s with pc := .finished result }
  | .done (.error e) => { s with pc := .finished (.error e) }
  | pc => { s with pc := .ending pc result }

def step (cfg : RelayConfig) (env : Env) (st : AppState) (s : LiveSession) :
    AppState × LiveSession :=
  match s.pc with
  | .loop => (st, s.read env)
  | .registerNode pc =>
    (registerNodeStep s.peer s.transport (s.transport.session s.peer.connection) s.kind s.nodeId
      env st pc).map id s.afterRegisterNode
  | .registerService pc => (registerStep cfg s.nodeId env st pc).map id (s.afterRegisterService env)
  | .unregisterService serviceId pc =>
    (unregisterStep serviceId s.nodeId env st pc).map id (s.afterUnregisterService serviceId)
  | .heartbeat sequence pc => (heartbeatStep s.nodeId env st pc).map id (s.afterHeartbeat env sequence)
  | .ending pc result =>
    (cleanUpStep s.transport s.nodeId s.peer.sessionId env st pc).map id (s.afterCleanUp result)
  | .finished _ => (st, s)

end LiveSession

/-- A control session: before Hello, before Auth, live, or refused. -/
inductive SessionTask
  | hello (peer : Peer) (transport : TransportKind)
  | auth (peer : Peer) (transport : TransportKind)
  | live (session : LiveSession)
  | refused (peer : Peer) (reason : String)
  deriving DecidableEq

namespace SessionTask

def step (cfg : RelayConfig) (env : Env) (st : AppState) : SessionTask → AppState × SessionTask
  | hello peer transport =>
    (st, match env.input, env.write with
      | .error e, _ => .refused peer e
      | .ok (.hello _), .error e => .refused peer e
      | .ok (.hello version), .ok _ =>
        if version = protocolVersion then .auth peer transport
        else .refused peer "unsupported protocol version"
      | .ok _, _ => .refused peer "expected Hello as first control frame")
  | auth peer transport =>
    (st, match env.input, env.write with
      | .error e, _ => .refused peer e
      | .ok (.auth _ _), .error e => .refused peer e
      | .ok (.auth token nodeId), .ok _ =>
        match authenticateToken cfg st token with
        | some kind =>
          .live { peer, transport, kind, hash := cfg.hashToken token, nodeId }
        | none => .refused peer "client authentication rejected"
      | .ok _, _ => .refused peer "expected Auth after Hello")
  | live session => (session.step cfg env st).map id live
  | refused peer reason => (st, .refused peer reason)

section
variable (cfg : RelayConfig) (env : Env) (st : AppState) (peer : Peer) (transport : TransportKind)

/-- Where Hello leads. -/
theorem hello_cases : step cfg env st (.hello peer transport) = (st, .auth peer transport) ∨
    ∃ reason, step cfg env st (.hello peer transport) = (st, .refused peer reason) := by
  simp only [step]
  split
  · exact .inr ⟨_, rfl⟩
  · exact .inr ⟨_, rfl⟩
  · split
    · exact .inl rfl
    · exact .inr ⟨_, rfl⟩
  · exact .inr ⟨_, rfl⟩

/-- Where Auth leads. -/
theorem auth_cases : (∃ reason, step cfg env st (.auth peer transport) = (st, .refused peer reason)) ∨
    ∃ token nodeId kind, authenticateToken cfg st token = some kind ∧
      step cfg env st (.auth peer transport) =
        (st, .live { peer, transport, kind, hash := cfg.hashToken token, nodeId }) := by
  simp only [step]
  split
  · exact .inl ⟨_, rfl⟩
  · exact .inl ⟨_, rfl⟩
  · rename_i token nodeId _ _ _
    cases hkind : authenticateToken cfg st token with
    | none => exact .inl ⟨_, rfl⟩
    | some kind => exact .inr ⟨token, nodeId, kind, hkind, rfl⟩
  · exact .inl ⟨_, rfl⟩

end

end SessionTask

end OngrokRelay
