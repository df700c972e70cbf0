import OngrokRelay.Directory

/-
  Control sessions: the two handlers, the revocation of a token and the start of
  the server (`server.rs`).

  A handler reads one frame after another from its control stream; each turn of
  its loop has an `Env` of its own, which carries the frame or the read error
  and decides what the turn's writes and store calls come to. A stream whose
  inputs are used up is at its end, which is a read error.

  Correspondence (Rust ↔ Lean):
    the Hello and Auth exchange of both handlers   ↔ `handshake`
    the RegisterNode arm of both handlers          ↔ `registerNode`
    the RegisterService arm of both handlers       ↔ `publish`
    `record_heartbeat`                             ↔ `recordHeartbeat`
    `handle_yamux_session`                         ↔ `handleYamuxSession`
    `handle_quic_connection`                       ↔ `handleQuicConnection`
    `replace_token`                                ↔ `replaceToken`
    `run_cli`, the start of `run`                  ↔ `start`
-/

namespace OngrokRelay

/-- What a handler knows of its connection before it reads a frame, with the
session id it draws once the client is authenticated. -/
structure Peer where
  connection : Nat
  sessionId : TunnelId
  publicIp : String
  sourcePort : UInt16
  deriving DecidableEq

/-- The handle of a connection of that transport. -/
def TransportKind.session (transport : TransportKind) (connection : Nat) : ClientSession :=
  match transport with
  | .quic => .quic connection
  | .tcpTlsYamux => .yamux connection

/-! ## The arms of the frame loop -/

def insertNode (nodeId : NodeId) (node : NodeRecord) (st : AppState) : AppState :=
  { st with nodes := st.nodes.insert nodeId node }

def putNode (env : Env) (node : NodeRecord) (st : AppState) : AppState :=
  { st with store := commit (env.putNode node.nodeId) (ServiceStore.putNode node) st.store }

def putMetric (env : Env) (metric : NodeMetric) (st : AppState) : AppState :=
  { st with store := commit env.putMetric (ServiceStore.putMetric metric) st.store }

/-- The record of a node that has just registered. -/
def connectedNode (env : Env) (peer : Peer) (transport : TransportKind) (nodeId : NodeId)
    (metadata : NodeMetadata) (publicKey : PublicKey) : NodeRecord where
  nodeId := nodeId
  publicKey := some publicKey
  metadata := metadata
  publicIp := peer.publicIp
  sourcePort := peer.sourcePort
  transport := transport
  status := .online
  connectedAtUnixMs := env.now
  lastHeartbeatAtUnixMs := none
  rttMs := none

def registerNode (env : Env) (peer : Peer) (transport : TransportKind)
    (clientSession : ClientSession) (kind : TokenKind) (nodeId : NodeId)
    (metadata : NodeMetadata) (publicKey : PublicKey) (st : AppState) : AppState × Outcome :=
  match metadata.metadata.validate with
  | .error e => (st, .error e.message)
  | .ok _ =>
    match validateNodeIdentity st.nodes nodeId publicKey with
    | .error e => (st, .error e)
    | .ok _ =>
      let st := activateSession nodeId peer.sessionId kind clientSession st
      let node := connectedNode env peer transport nodeId metadata publicKey
      let st := putNode env node (insertNode nodeId node st)
      match env.putNode nodeId with
      -- session and record stay in memory
      | .error e => (st, .error e)
      | .ok _ => (recordEvent env .nodeOnline (some nodeId) none none st, .ok ())

/-- The reply to a RegisterService frame. -/
def publish (cfg : RelayConfig) (env : Env) (registeredNode : Bool) (nodeId : NodeId)
    (service : ServiceDefinition) (st : AppState) : AppState × Frame :=
  if !registeredNode || service.nodeId != nodeId then
    (st, .error "node must be registered before publishing services")
  else
    match registerService cfg env service nodeId st with
    | (st, .ok service) => (st, .registerServiceAccepted service)
    | (st, .error message) => (st, .error message)

/-- The round trip a heartbeat shows, clamped to one hour. -/
def roundTrip (now : Int64) (snapshot : HeartbeatSnapshot) : UInt32 :=
  UInt32.ofNat (max 0 (min 3600000 (saturatingSub now snapshot.sentAtUnixMs).toInt)).toNat

/-- A node's record after a heartbeat at `now`. -/
def NodeRecord.heard (node : NodeRecord) (now : Int64) (rttMs : UInt32) : NodeRecord :=
  { node with status := .online, lastHeartbeatAtUnixMs := some now, rttMs := some rttMs }

def recordHeartbeat (env : Env) (nodeId : NodeId) (snapshot : HeartbeatSnapshot) (st : AppState) :
    AppState × Outcome :=
  let rttMs := roundTrip env.now snapshot
  match st.nodes[nodeId]? with
  | none => (st, .ok ())
  | some node =>
    let node := node.heard env.now rttMs
    let st := putNode env node (insertNode nodeId node st)
    match env.putNode node.nodeId with
    | .error e => (st, .error e)
    | .ok _ => (putMetric env ⟨nodeId, env.now, some rttMs, snapshot⟩ st, env.putMetric)

def NodeRecord.offline (node : NodeRecord) : NodeRecord := { node with status := .offline }

/-- The node's record, marked offline. -/
def markOffline (nodeId : NodeId) (st : AppState) : AppState × Option NodeRecord :=
  match st.nodes[nodeId]? with
  | none => (st, none)
  | some node => (insertNode nodeId node.offline st, some node.offline)

def removeSession (nodeId : NodeId) (st : AppState) : AppState :=
  { st with sessions := st.sessions.erase nodeId }

/-- The sessions map holds this session for the node. -/
def sessionActive (st : AppState) (nodeId : NodeId) (sessionId : TunnelId) : Bool :=
  st.sessions[nodeId]?.any fun current => current.id == sessionId

/-- What both handlers do when their session has ended. -/
def cleanUp (env : Env) (nodeId : NodeId) (sessionId : TunnelId) (st : AppState) :
    AppState × Outcome :=
  if sessionActive st nodeId sessionId then
    match markOffline nodeId (removeSession nodeId st) with
    | (st, none) => (st, .ok ())
    | (st, some node) =>
      let st := putNode env node st
      match env.putNode node.nodeId with
      | .error e => (st, .error e)
      | .ok _ => (recordEvent env .nodeOffline (some nodeId) none none st, .ok ())
  else (st, .ok ())

/-! ## The handlers -/

/-- The server after a session, the frames it sent and how its handler returned. -/
structure Served where
  server : AppState
  replies : List Frame := []
  result : Outcome
  deriving DecidableEq

/-- The same, after the frames sent before. -/
def Served.after (replies : List Frame) (served : Served) : Served :=
  { served with replies := replies ++ served.replies }

/-- The frame goes out and the handler goes on, or the write fails and it leaves. -/
def reply (env : Env) (frame : Frame) (st : AppState) (next : AppState → Served) : Served :=
  match env.write with
  | .error e => { server := st, result := .error e }
  | .ok _ => (next st).after [frame]

/-- Hello and Auth, the same in both handlers: the token kind and the claimed
node, or the error the handler returns. -/
def handshake (cfg : RelayConfig) (st : AppState) (hello auth : Env) :
    List Frame × Except String (TokenKind × NodeId) :=
  match hello.input with
  | .error e => ([], .error e)
  | .ok (.hello version) =>
    if version = protocolVersion then
      match hello.write with
      | .error e => ([], .error e)
      | .ok _ =>
        match auth.input with
        | .error e => ([.hello protocolVersion], .error e)
        | .ok (.auth token nodeId) =>
          match authenticateToken cfg st token with
          | some kind =>
            match auth.write with
            | .error e => ([.hello protocolVersion], .error e)
            | .ok _ => ([.hello protocolVersion, .authAccepted kind], .ok (kind, nodeId))
          | none =>
            match auth.write with
            | .error e => ([.hello protocolVersion], .error e)
            | .ok _ =>
              ([.hello protocolVersion, .authRejected], .error "client authentication rejected")
        | .ok _ => ([.hello protocolVersion], .error "expected Auth after Hello")
    else
      match hello.write with
      | .error e => ([], .error e)
      | .ok _ =>
        ([.error "unsupported protocol version"], .error "unsupported protocol version")
  | .ok _ => ([], .error "expected Hello as first control frame")

section
variable (cfg : RelayConfig) (peer : Peer) (kind : TokenKind) (nodeId : NodeId)

/-- The frame loop of `handle_yamux_session`, up to the value of its inner block. -/
def yamuxLoop (registeredNode : Bool) (st : AppState) : List Env → Served
  | [] => { server := st, result := .error "failed to read control frame length" }
  | env :: rest =>
    match env.input with
    | .error e => { server := st, result := .error e }
    | .ok (.registerNode metadata publicKey) =>
      match registerNode env peer .tcpTlsYamux (.yamux peer.connection) kind nodeId metadata
          publicKey st with
      | (st, .error e) => { server := st, result := .error e }
      | (st, .ok _) => yamuxLoop true st rest
    | .ok (.registerService service) =>
      let (st, response) := publish cfg env registeredNode nodeId service st
      reply env response st fun st => yamuxLoop registeredNode st rest
    | .ok (.unregisterService serviceId) =>
      match unregisterService env serviceId nodeId st with
      | (st, .error e) => { server := st, result := .error e }
      | (st, .ok _) => yamuxLoop registeredNode st rest
    | .ok (.heartbeat snapshot) =>
      match recordHeartbeat env nodeId snapshot st with
      | (st, .error e) => { server := st, result := .error e }
      | (st, .ok _) =>
        reply env (.heartbeatAck snapshot.sequence env.replyTime) st fun st =>
          yamuxLoop registeredNode st rest
    | .ok .goodbye => { server := st, result := .ok () }
    | .ok _ =>
      reply env (.error "unsupported control frame") st fun st => yamuxLoop registeredNode st rest

/-- The frame loop of `handle_quic_connection` and the clean-up after it. An
error leaves the handler from inside the loop. -/
def quicLoop (ending : Env) (registeredNode : Bool) (st : AppState) : List Env → Served
  | [] => { server := st, result := .error "failed to read control frame length" }
  | env :: rest =>
    match env.input with
    | .error e => { server := st, result := .error e }
    | .ok (.registerNode metadata publicKey) =>
      match registerNode env peer .quic (.quic peer.connection) kind nodeId metadata publicKey
          st with
      | (st, .error e) => { server := st, result := .error e }
      | (st, .ok _) => quicLoop ending true st rest
    | .ok (.registerService service) =>
      let (st, response) := publish cfg env registeredNode nodeId service st
      reply env response st fun st => quicLoop ending registeredNode st rest
    | .ok (.unregisterService serviceId) =>
      match unregisterService env serviceId nodeId st with
      | (st, .error e) => { server := st, result := .error e }
      | (st, .ok _) => quicLoop ending registeredNode st rest
    | .ok (.heartbeat snapshot) =>
      -- `record_heartbeat`, written out in this handler
      let rttMs := roundTrip env.now snapshot
      let acknowledge (st : AppState) : Served :=
        reply env (.heartbeatAck snapshot.sequence env.replyTime) st fun st =>
          quicLoop ending registeredNode st rest
      match st.nodes[nodeId]? with
      | none => acknowledge st
      | some node =>
        let node := node.heard env.now rttMs
        let st := putNode env node (insertNode nodeId node st)
        match env.putNode node.nodeId with
        | .error e => { server := st, result := .error e }
        | .ok _ =>
          let st := putMetric env ⟨nodeId, env.now, some rttMs, snapshot⟩ st
          match env.putMetric with
          | .error e => { server := st, result := .error e }
          | .ok _ => acknowledge st
    | .ok .goodbye =>
      let (st, result) := cleanUp ending nodeId peer.sessionId st
      { server := st, result }
    | .ok _ =>
      reply env (.error "unsupported control frame") st fun st =>
        quicLoop ending registeredNode st rest

/-- The heartbeat arm that `handle_quic_connection` writes out is `record_heartbeat`. -/
theorem quicLoop_heartbeat (ending env : Env) (registeredNode : Bool) (st : AppState)
    (rest : List Env) {snapshot : HeartbeatSnapshot} (hin : env.input = .ok (.heartbeat snapshot)) :
    quicLoop cfg peer kind nodeId ending registeredNode st (env :: rest) =
      match recordHeartbeat env nodeId snapshot st with
      | (st, .error e) => { server := st, result := .error e }
      | (st, .ok _) =>
        reply env (.heartbeatAck snapshot.sequence env.replyTime) st fun st =>
          quicLoop cfg peer kind nodeId ending registeredNode st rest := by
  rw [quicLoop, hin]
  unfold recordHeartbeat
  cases st.nodes[nodeId]? with
  | none => rfl
  | some node =>
    simp only
    cases env.putNode (node.heard env.now (roundTrip env.now snapshot)).nodeId with
    | error e => rfl
    | ok _ =>
      simp only
      cases env.putMetric <;> rfl

end

/-- The inputs of one control stream, with what its clean-up's calls come to. -/
structure ControlStream where
  hello : Env
  auth : Env
  frames : List Env
  ending : Env

def handleYamuxSession (cfg : RelayConfig) (peer : Peer) (stream : ControlStream)
    (st : AppState) : Served :=
  match handshake cfg st stream.hello stream.auth with
  | (replies, .error e) => { server := st, replies, result := .error e }
  | (replies, .ok (kind, nodeId)) =>
    -- the clean-up runs however the loop ends, and its error hides the loop's result
    let session := (yamuxLoop cfg peer kind nodeId false st stream.frames).after replies
    match cleanUp stream.ending nodeId peer.sessionId session.server with
    | (server, .error e) => { session with server, result := .error e }
    | (server, .ok _) => { session with server }

def handleQuicConnection (cfg : RelayConfig) (peer : Peer) (stream : ControlStream)
    (st : AppState) : Served :=
  match handshake cfg st stream.hello stream.auth with
  | (replies, .error e) => { server := st, replies, result := .error e }
  | (replies, .ok (kind, nodeId)) =>
    (quicLoop cfg peer kind nodeId stream.ending false st stream.frames).after replies

/-! ## Revocation -/

/-- Write the new hash, to the store first. -/
def writeToken (env : Env) (kind : TokenKind) (hash : Option TokenHash) (st : AppState) :
    AppState × Outcome :=
  let updated := st.tokens.set kind hash
  match env.putTokens with
  | .error e => (st, .error e)
  | .ok _ => ({ st with tokens := updated, store := st.store.putTokens updated }, .ok ())

/-- The sessions of the kind leave the map, in the order of their nodes. -/
def disconnectKind (kind : TokenKind) (st : AppState) :
    AppState × List (NodeId × ActiveSession) :=
  ({ st with sessions := st.sessions.filter fun _ session => session.tokenKind != kind },
    st.sessions.toList.filter fun entry => entry.2.tokenKind == kind)

/-- Their nodes are marked offline, those that have a record. -/
def markAllOffline : List NodeId → AppState → AppState × List NodeRecord
  | [], st => (st, [])
  | nodeId :: rest, st =>
    let (st, node) := markOffline nodeId st
    let (st, nodes) := markAllOffline rest st
    (st, node.toList ++ nodes)

/-- Each record is stored and its event recorded; the first failure ends it. -/
def putOffline (env : Env) : List NodeRecord → AppState → AppState × Outcome
  | [], st => (st, .ok ())
  | node :: rest, st =>
    let st := putNode env node st
    match env.putNode node.nodeId with
    | .error e => (st, .error e)
    | .ok _ => putOffline env rest (recordEvent env .nodeOffline (some node.nodeId) none none st)

def replaceToken (env : Env) (kind : TokenKind) (hash : Option TokenHash) (st : AppState) :
    AppState × Outcome :=
  match writeToken env kind hash st with
  | (st, .error e) => (st, .error e)
  | (st, .ok _) =>
    let (st, disconnected) := disconnectKind kind st
    let st := disconnected.foldl (fun st entry => entry.2.connection.close st) st
    let (st, offlineNodes) := markAllOffline (disconnected.map Prod.fst) st
    putOffline env offlineNodes st

/-! ## Start -/

/-- The listeners of the persisted TCP services, restored one after another. -/
def restoreIngress (env : Env) : List ServiceDefinition → AppState → AppState × Outcome
  | [], st => (st, .ok ())
  | service :: rest, st =>
    match ensureTcpIngress env service st with
    | (st, .error _) =>
      (st, .error s!"failed to restore TCP ingress for persisted service {service.serviceId.text}")
    | (st, .ok _) => restoreIngress env rest st

/-- The state the server starts to serve in, from what its store holds. -/
def start (env : Env) (initialAdminHash initialUserHash : TokenHash) (store : ServiceStore) :
    Except String AppState :=
  let services := store.loadServices
  let nodes := store.loadNodes
  match store.loadOrInitializeTokens initialAdminHash initialUserHash env.putTokens with
  | (_, .error e) => .error e
  | (store, .ok tokens) =>
    let persisted := (BTreeMap.values services).filter fun service => service.protocol == .tcp
    -- the sessions map starts out empty
    match restoreIngress env persisted { tokens, services, nodes, store } with
    | (_, .error e) => .error e
    | (st, .ok _) => .ok st

/-! ## What a start leaves -/

/-- The restore loop changes nothing but the task map. -/
theorem restoreIngress_tasks (env : Env) (services : List ServiceDefinition) (st : AppState) :
    ∃ tasks, (restoreIngress env services st).1 = { st with tcpIngressTasks := tasks } := by
  induction services generalizing st with
  | nil => exact ⟨st.tcpIngressTasks, rfl⟩
  | cons service rest ih =>
    have hensure : ∃ tasks, (ensureTcpIngress env service st).1 =
        { st with tcpIngressTasks := tasks } := by
      unfold ensureTcpIngress
      cases service.publicPort with
      | none => exact ⟨_, rfl⟩
      | some port =>
        simp only
        split
        · exact ⟨_, rfl⟩
        · cases env.bind port <;> exact ⟨_, rfl⟩
    unfold restoreIngress
    generalize ensureTcpIngress env service st = ensured at hensure
    obtain ⟨st', _ | _⟩ := ensured
    · exact hensure
    · obtain ⟨tasks, rfl⟩ := hensure
      exact ih _

/-- **What a start leads to**: the stored services and nodes, the tokens loaded or
written, and no sessions. -/
theorem start_spec {env : Env} {adminHash userHash : TokenHash} {store : ServiceStore}
    {st : AppState} (h : start env adminHash userHash store = .ok st) :
    ∃ (store' : ServiceStore) (tokens : TokenState) (tasks : BTreeMap ServiceId UInt16),
      store.loadOrInitializeTokens adminHash userHash env.putTokens = (store', .ok tokens) ∧
      st =
        { tokens
          services := store.loadServices
          nodes := store.loadNodes
          tcpIngressTasks := tasks
          store := store' } := by
  unfold start at h
  generalize store.loadOrInitializeTokens adminHash userHash env.putTokens = loaded at h
  obtain ⟨store', e | tokens⟩ := loaded
  · cases h
  · simp only at h
    obtain ⟨tasks, hrestored⟩ := restoreIngress_tasks env
      ((BTreeMap.values store.loadServices).filter fun service => service.protocol == .tcp)
      { tokens, services := store.loadServices, nodes := store.loadNodes, store := store' }
    generalize restoreIngress env
      ((BTreeMap.values store.loadServices).filter fun service => service.protocol == .tcp)
      { tokens, services := store.loadServices, nodes := store.loadNodes, store := store' } = restored
      at h hrestored
    obtain ⟨st', _ | _⟩ := restored
    · cases h
    · cases h
      exact ⟨store', tokens, tasks, rfl, hrestored⟩

theorem start_ok {env : Env} {adminHash userHash : TokenHash} {store : ServiceStore}
    {st : AppState} (h : start env adminHash userHash store = .ok st) :
    st.services = store.loadServices ∧ st.nodes = store.loadNodes ∧ st.sessions = ∅ := by
  obtain ⟨_, _, _, -, rfl⟩ := start_spec h
  exact ⟨rfl, rfl, rfl⟩

/-! ## What the sections of a revocation do -/

/-- A session is disconnected exactly when it is of the kind. -/
theorem disconnectKind_get (kind : TokenKind) (st : AppState) (nodeId : NodeId) :
    (disconnectKind kind st).1.sessions[nodeId]? =
      st.sessions[nodeId]?.filter fun session => session.tokenKind != kind := by
  simp only [disconnectKind, Std.ExtTreeMap.getElem?_filter']

theorem mem_disconnectKind {kind : TokenKind} {st : AppState} {nodeId : NodeId}
    {session : ActiveSession} : (nodeId, session) ∈ (disconnectKind kind st).2 ↔
      st.sessions[nodeId]? = some session ∧ session.tokenKind = kind := by
  simp only [disconnectKind, List.mem_filter, Std.ExtTreeMap.mem_toList_iff_getElem?_eq_some,
    beq_iff_eq]

theorem markOffline_get (nodeId other : NodeId) (st : AppState) :
    (markOffline nodeId st).1.nodes[other]? =
      if nodeId = other then st.nodes[other]?.map NodeRecord.offline else st.nodes[other]? := by
  unfold markOffline
  by_cases h : nodeId = other
  · subst h
    cases hget : st.nodes[nodeId]? with
    | none => simp [hget]
    | some node => simp [insertNode]
  · cases hget : st.nodes[nodeId]? with
    | none => simp [h]
    | some node => simp [insertNode, BTreeMap.get_insert, h]

/-- A mark changes nothing but the nodes map. -/
theorem markOffline_eq (nodeId : NodeId) (st : AppState) :
    (markOffline nodeId st).1 = { st with nodes := (markOffline nodeId st).1.nodes } := by
  unfold markOffline
  split <;> rfl

theorem markAllOffline_eq (nodeIds : List NodeId) (st : AppState) :
    (markAllOffline nodeIds st).1 = { st with nodes := (markAllOffline nodeIds st).1.nodes } := by
  induction nodeIds generalizing st with
  | nil => rfl
  | cons nodeId rest ih =>
    have hmark (nodes : BTreeMap NodeId NodeRecord) :
        ({ (markOffline nodeId st).1 with nodes } : AppState) = { st with nodes } := by
      rw [markOffline_eq]
    exact (ih _).trans (hmark _)

theorem markOffline_sessions (nodeId : NodeId) (st : AppState) :
    (markOffline nodeId st).1.sessions = st.sessions := by rw [markOffline_eq]

theorem markOffline_services (nodeId : NodeId) (st : AppState) :
    (markOffline nodeId st).1.services = st.services := by rw [markOffline_eq]

theorem markAllOffline_services (nodeIds : List NodeId) (st : AppState) :
    (markAllOffline nodeIds st).1.services = st.services := by rw [markAllOffline_eq]

/-- Marking a list of nodes offline marks those and no others. -/
theorem markAllOffline_spec (nodeIds : List NodeId) (st : AppState) :
    (markAllOffline nodeIds st).1.sessions = st.sessions ∧
    ∀ other, (markAllOffline nodeIds st).1.nodes[other]? =
      if other ∈ nodeIds then st.nodes[other]?.map NodeRecord.offline else st.nodes[other]? := by
  refine ⟨by rw [markAllOffline_eq], ?_⟩
  induction nodeIds generalizing st with
  | nil => intro other; simp [markAllOffline]
  | cons nodeId rest ih =>
    intro other
    simp only [markAllOffline]
    rw [ih (markOffline nodeId st).1 other, markOffline_get nodeId other st]
    by_cases hid : nodeId = other
    · -- a record marked twice is marked once
      subst hid
      cases st.nodes[nodeId]? <;> by_cases hmem : nodeId ∈ rest <;>
        simp [hmem, NodeRecord.offline]
    · have hid' : other ≠ nodeId := fun h => hid h.symm
      simp [hid, hid']

theorem putOffline_frame (env : Env) (nodes : List NodeRecord) (st : AppState) :
    (putOffline env nodes st).1.sessions = st.sessions ∧
    (putOffline env nodes st).1.nodes = st.nodes := by
  induction nodes generalizing st with
  | nil => exact ⟨rfl, rfl⟩
  | cons node rest ih =>
    simp only [putOffline]
    cases env.putNode node.nodeId with
    | error e => exact ⟨rfl, rfl⟩
    | ok _ => exact ih _

/-- Closing connections changes nothing but what is closed. -/
theorem close_eq (disconnected : List (NodeId × ActiveSession)) (st : AppState) :
    disconnected.foldl (fun st entry => entry.2.connection.close st) st =
      { st with
        closed := (disconnected.foldl (fun st entry => entry.2.connection.close st) st).closed } := by
  induction disconnected generalizing st with
  | nil => rfl
  | cons entry rest ih => exact ih _

theorem close_frame (disconnected : List (NodeId × ActiveSession)) (st : AppState) :
    (disconnected.foldl (fun st entry => entry.2.connection.close st) st).services =
      st.services ∧
    (disconnected.foldl (fun st entry => entry.2.connection.close st) st).sessions =
      st.sessions ∧
    (disconnected.foldl (fun st entry => entry.2.connection.close st) st).nodes = st.nodes := by
  rw [close_eq]
  exact ⟨rfl, rfl, rfl⟩

end OngrokRelay
