import OngrokRelay.Admission
import OngrokRelay.Sessions

/-
  One session protocol over two transports.

  The two handlers are compared on the same inputs from the same state. They
  differ in what they record of the transport and the connection, and in how
  they leave their frame loop: an error leaves `handle_quic_connection` at once,
  while `handle_yamux_session` always cleans up.

  1. `SameUpToTransport`: equal states but for the recorded transport of a node
     and the connection of a session. Every arm of the loop preserves it.
  2. `quicLoop_agrees`: turn by turn the handlers send the same frames and keep
     their states the same.
  3. `handlers_agree_iff`: they finish with the same frames and the same state
     exactly when the stream does not break off while its session is the
     active one of its node.
  4. `broken_stream_differs`: a QUIC node whose stream breaks off stays online.
-/

namespace OngrokRelay

/-- The record without its transport. -/
def NodeRecord.anyTransport (node : NodeRecord) : NodeRecord := { node with transport := .quic }

/-- The session without its connection. -/
def ActiveSession.anyConnection (session : ActiveSession) : TunnelId × TokenKind :=
  (session.id, session.tokenKind)

/-- The states differ in the transport of node records and the connection of
sessions at most. -/
structure SameUpToTransport (q y : AppState) : Prop where
  tokens : q.tokens = y.tokens
  services : q.services = y.services
  nodes : ∀ nodeId : NodeId,
    q.nodes[nodeId]?.map NodeRecord.anyTransport = y.nodes[nodeId]?.map NodeRecord.anyTransport
  sessions : ∀ nodeId : NodeId, q.sessions[nodeId]?.map ActiveSession.anyConnection =
    y.sessions[nodeId]?.map ActiveSession.anyConnection
  tasks : q.tcpIngressTasks = y.tcpIngressTasks
  storedServices : q.store.services = y.store.services
  storedNodes : ∀ key : String, q.store.nodes[key]?.map NodeRecord.anyTransport =
    y.store.nodes[key]?.map NodeRecord.anyTransport
  storedMetrics : q.store.metrics = y.store.metrics
  storedTokens : q.store.tokens = y.store.tokens
  storedEvents : q.store.events = y.store.events

namespace SameUpToTransport

variable {q y : AppState}

theorem refl (st : AppState) : SameUpToTransport st st :=
  ⟨rfl, rfl, fun _ => rfl, fun _ => rfl, rfl, rfl, fun _ => rfl, rfl, rfl, rfl⟩

/-! ### Sections -/

theorem insertService (h : SameUpToTransport q y) (service : ServiceDefinition) :
    SameUpToTransport (insertService service q) (insertService service y) :=
  { h with services := by simp only [OngrokRelay.insertService, h.services] }

theorem removeService (h : SameUpToTransport q y) (serviceId : ServiceId) :
    SameUpToTransport (removeService serviceId q) (removeService serviceId y) :=
  { h with services := by simp only [OngrokRelay.removeService, h.services] }

theorem insertTask (h : SameUpToTransport q y) (serviceId : ServiceId) (port : UInt16) :
    SameUpToTransport (insertTask serviceId port q) (insertTask serviceId port y) :=
  { h with tasks := by simp only [OngrokRelay.insertTask, h.tasks] }

theorem abortTask (h : SameUpToTransport q y) (serviceId : ServiceId) :
    SameUpToTransport (abortTask serviceId q) (abortTask serviceId y) :=
  { h with tasks := by simp only [OngrokRelay.abortTask, h.tasks] }

theorem putService (h : SameUpToTransport q y) (env : Env) (service : ServiceDefinition) :
    SameUpToTransport (putService env service q) (putService env service y) := by
  unfold OngrokRelay.putService
  cases env.put with
  | error e => exact h
  | ok _ => exact { h with storedServices := by simp [ServiceStore.put, h.storedServices] }

theorem deleteRow (h : SameUpToTransport q y) (env : Env) (serviceId : ServiceId) :
    SameUpToTransport (deleteRow env serviceId q) (deleteRow env serviceId y) := by
  unfold OngrokRelay.deleteRow
  cases env.delete with
  | error e => exact h
  | ok _ => exact { h with storedServices := by simp [ServiceStore.delete, h.storedServices] }

theorem recordEvent (h : SameUpToTransport q y) (env : Env) (kind : EventKind)
    (nodeId : Option NodeId) (serviceId : Option ServiceId) (tokenKind : Option TokenKind) :
    SameUpToTransport (recordEvent env kind nodeId serviceId tokenKind q)
      (recordEvent env kind nodeId serviceId tokenKind y) := by
  simp only [OngrokRelay.recordEvent]
  cases (env.event nodeId).put with
  | error e => exact h
  | ok _ => exact { h with storedEvents := by simp [ServiceStore.putEvent, h.storedEvents] }

theorem putMetric (h : SameUpToTransport q y) (env : Env) (metric : NodeMetric) :
    SameUpToTransport (putMetric env metric q) (putMetric env metric y) := by
  unfold OngrokRelay.putMetric
  cases env.putMetric with
  | error e => exact h
  | ok _ => exact { h with storedMetrics := by simp [ServiceStore.putMetric, h.storedMetrics] }

theorem insertNode (h : SameUpToTransport q y) (nodeId : NodeId) {a b : NodeRecord}
    (hab : a.anyTransport = b.anyTransport) :
    SameUpToTransport (insertNode nodeId a q) (insertNode nodeId b y) where
  __ := h
  nodes id := by
    simp only [OngrokRelay.insertNode, BTreeMap.get_insert]
    split
    · simp only [Option.map_some, hab]
    · exact h.nodes id

theorem anyTransport_nodeId {a b : NodeRecord} (hab : a.anyTransport = b.anyTransport) :
    a.nodeId = b.nodeId := by
  have h := congrArg NodeRecord.nodeId hab
  exact h

theorem putNode (h : SameUpToTransport q y) (env : Env) {a b : NodeRecord}
    (hab : a.anyTransport = b.anyTransport) :
    SameUpToTransport (putNode env a q) (putNode env b y) := by
  unfold OngrokRelay.putNode
  rw [anyTransport_nodeId hab]
  cases env.putNode b.nodeId with
  | error e => exact h
  | ok _ =>
    refine { h with storedNodes := fun key => ?_ }
    simp only [commit_ok, ServiceStore.putNode, anyTransport_nodeId hab, BTreeMap.get_insert]
    split
    · simp only [Option.map_some, hab]
    · exact h.storedNodes key

theorem activateSession (h : SameUpToTransport q y) (nodeId : NodeId) (sessionId : TunnelId)
    (kind : TokenKind) (a b : ClientSession) :
    SameUpToTransport (activateSession nodeId sessionId kind a q)
      (activateSession nodeId sessionId kind b y) where
  tokens := by simp [OngrokRelay.activateSession, insertSession, h.tokens]
  services := by simp [OngrokRelay.activateSession, insertSession, h.services]
  nodes id := by simpa [OngrokRelay.activateSession, insertSession] using h.nodes id
  sessions id := by
    simp only [OngrokRelay.activateSession, insertSession, closeReplaced_sessions,
      BTreeMap.get_insert]
    split
    · rfl
    · exact h.sessions id
  tasks := by simp [OngrokRelay.activateSession, insertSession, h.tasks]
  storedServices := by simp [OngrokRelay.activateSession, insertSession, h.storedServices]
  storedNodes key := by simpa [OngrokRelay.activateSession, insertSession] using h.storedNodes key
  storedMetrics := by simp [OngrokRelay.activateSession, insertSession, h.storedMetrics]
  storedTokens := by simp [OngrokRelay.activateSession, insertSession, h.storedTokens]
  storedEvents := by simp [OngrokRelay.activateSession, insertSession, h.storedEvents]

theorem removeSession (h : SameUpToTransport q y) (nodeId : NodeId) :
    SameUpToTransport (removeSession nodeId q) (removeSession nodeId y) where
  __ := h
  sessions id := by
    simp only [OngrokRelay.removeSession, BTreeMap.get_erase]
    split
    · rfl
    · exact h.sessions id

/-- Records found under one node on both sides agree but for the transport. -/
theorem node_cases (h : SameUpToTransport q y) (nodeId : NodeId) :
    (q.nodes[nodeId]? = none ∧ y.nodes[nodeId]? = none) ∨
    ∃ a b, q.nodes[nodeId]? = some a ∧ y.nodes[nodeId]? = some b ∧
      a.anyTransport = b.anyTransport := by
  have hn := h.nodes nodeId
  cases hy : y.nodes[nodeId]? with
  | none =>
    rw [hy, Option.map_none, Option.map_eq_none_iff] at hn
    exact .inl ⟨hn, rfl⟩
  | some b =>
    rw [hy, Option.map_some, Option.map_eq_some_iff] at hn
    obtain ⟨a, ha, hab⟩ := hn
    exact .inr ⟨a, b, ha, rfl, hab⟩

theorem sessionActive_eq (h : SameUpToTransport q y) (nodeId : NodeId) (sessionId : TunnelId) :
    sessionActive q nodeId sessionId = sessionActive y nodeId sessionId := by
  -- the test looks at a session's id only
  have hany (session : Option ActiveSession) :
      (session.any fun current => current.id == sessionId) =
        (session.map ActiveSession.anyConnection).any fun current => current.1 == sessionId := by
    cases session <;> rfl
  rw [sessionActive, sessionActive, hany, hany, h.sessions nodeId]

theorem identity_eq (h : SameUpToTransport q y) (nodeId : NodeId) (publicKey : PublicKey) :
    validateNodeIdentity q.nodes nodeId publicKey =
      validateNodeIdentity y.nodes nodeId publicKey := by
  unfold validateNodeIdentity
  rcases h.node_cases nodeId with ⟨hq, hy⟩ | ⟨a, b, hq, hy, hab⟩
  · rw [hq, hy]
  · have hkey : a.publicKey = b.publicKey := by
      have hkeys := congrArg NodeRecord.publicKey hab
      exact hkeys
    rw [hq, hy, Option.bind_some, Option.bind_some, hkey]

/-! ### Arms -/

theorem ensureTcpIngress (h : SameUpToTransport q y) (env : Env) (service : ServiceDefinition) :
    (ensureTcpIngress env service q).2 = (ensureTcpIngress env service y).2 ∧
    SameUpToTransport (ensureTcpIngress env service q).1 (ensureTcpIngress env service y).1 := by
  unfold OngrokRelay.ensureTcpIngress
  rw [h.tasks]
  cases service.publicPort with
  | none => exact ⟨rfl, h⟩
  | some port =>
    by_cases hserved : y.tcpIngressTasks.contains service.serviceId
    · simp only [if_pos hserved]
      exact ⟨trivial, h⟩
    · simp only [if_neg hserved]
      cases env.bind port with
      | ok _ => exact ⟨rfl, h.insertTask _ port⟩
      | error e => exact ⟨rfl, h⟩

theorem registerService (h : SameUpToTransport q y) (cfg : RelayConfig) (env : Env)
    (service : ServiceDefinition) (nodeId : NodeId) :
    (registerService cfg env service nodeId q).2 = (registerService cfg env service nodeId y).2 ∧
    SameUpToTransport (registerService cfg env service nodeId q).1
      (registerService cfg env service nodeId y).1 := by
  unfold OngrokRelay.registerService registerLocked
  rw [h.services]
  cases admitService cfg y.services service nodeId with
  | error e => exact ⟨rfl, h⟩
  | ok admitted =>
    have hput := (h.insertService admitted).putService env admitted
    cases henv : env.put with
    | error e => exact ⟨rfl, hput⟩
    | ok _ =>
      simp only
      split
      · obtain ⟨hresult, hst⟩ := hput.ensureTcpIngress env admitted
        generalize OngrokRelay.ensureTcpIngress env admitted
          (OngrokRelay.putService env admitted (OngrokRelay.insertService admitted q)) = rq
          at hresult hst
        generalize OngrokRelay.ensureTcpIngress env admitted
          (OngrokRelay.putService env admitted (OngrokRelay.insertService admitted y)) = ry
          at hresult hst
        obtain ⟨q', rq⟩ := rq
        obtain ⟨y', ry⟩ := ry
        cases hresult
        cases rq with
        | ok _ => exact ⟨rfl, hst.recordEvent env _ _ _ _⟩
        | error e =>
          have hback := (hst.removeService admitted.serviceId).deleteRow env admitted.serviceId
          simp only
          cases env.delete <;> exact ⟨rfl, hback⟩
      · exact ⟨rfl, hput.recordEvent env _ _ _ _⟩

theorem publish (h : SameUpToTransport q y) (cfg : RelayConfig) (env : Env) (registered : Bool)
    (nodeId : NodeId) (service : ServiceDefinition) :
    (publish cfg env registered nodeId service q).2 =
      (publish cfg env registered nodeId service y).2 ∧
    SameUpToTransport (publish cfg env registered nodeId service q).1
      (publish cfg env registered nodeId service y).1 := by
  unfold OngrokRelay.publish
  split
  · exact ⟨rfl, h⟩
  · obtain ⟨hresult, hst⟩ := h.registerService cfg env service nodeId
    generalize OngrokRelay.registerService cfg env service nodeId q = rq at hresult hst
    generalize OngrokRelay.registerService cfg env service nodeId y = ry at hresult hst
    obtain ⟨q', rq⟩ := rq
    obtain ⟨y', ry⟩ := ry
    cases hresult
    cases rq <;> exact ⟨rfl, hst⟩

theorem unregisterService (h : SameUpToTransport q y) (env : Env) (serviceId : ServiceId)
    (nodeId : NodeId) :
    (unregisterService env serviceId nodeId q).2 = (unregisterService env serviceId nodeId y).2 ∧
    SameUpToTransport (unregisterService env serviceId nodeId q).1
      (unregisterService env serviceId nodeId y).1 := by
  unfold OngrokRelay.unregisterService
  rw [h.services]
  split
  · have hdel := (h.removeService serviceId).deleteRow env serviceId
    simp only
    cases env.delete with
    | error e => exact ⟨rfl, hdel⟩
    | ok _ => exact ⟨rfl, (hdel.recordEvent env _ _ _ _).abortTask serviceId⟩
  · exact ⟨rfl, h⟩

theorem registerNode (h : SameUpToTransport q y) (env : Env) (peer : Peer) (a b : ClientSession)
    (ta tb : TransportKind) (kind : TokenKind) (nodeId : NodeId) (metadata : NodeMetadata)
    (publicKey : PublicKey) :
    (registerNode env peer ta a kind nodeId metadata publicKey q).2 =
      (registerNode env peer tb b kind nodeId metadata publicKey y).2 ∧
    SameUpToTransport (registerNode env peer ta a kind nodeId metadata publicKey q).1
      (registerNode env peer tb b kind nodeId metadata publicKey y).1 := by
  unfold OngrokRelay.registerNode
  rw [h.identity_eq]
  cases metadata.metadata.validate with
  | error e => exact ⟨rfl, h⟩
  | ok _ =>
    cases validateNodeIdentity y.nodes nodeId publicKey with
    | error e => exact ⟨rfl, h⟩
    | ok _ =>
      have hnode : (connectedNode env peer ta nodeId metadata publicKey).anyTransport =
          (connectedNode env peer tb nodeId metadata publicKey).anyTransport := rfl
      have hst := ((h.activateSession nodeId peer.sessionId kind a b).insertNode nodeId
        hnode).putNode env hnode
      simp only
      cases env.putNode nodeId with
      | error e => exact ⟨rfl, hst⟩
      | ok _ => exact ⟨rfl, hst.recordEvent env _ _ _ _⟩

theorem recordHeartbeat (h : SameUpToTransport q y) (env : Env) (nodeId : NodeId)
    (snapshot : HeartbeatSnapshot) :
    (recordHeartbeat env nodeId snapshot q).2 = (recordHeartbeat env nodeId snapshot y).2 ∧
    SameUpToTransport (recordHeartbeat env nodeId snapshot q).1
      (recordHeartbeat env nodeId snapshot y).1 := by
  unfold OngrokRelay.recordHeartbeat
  rcases h.node_cases nodeId with ⟨hq, hy⟩ | ⟨a, b, hq, hy, hab⟩
  · simp only [hq, hy]
    exact ⟨trivial, h⟩
  · have hheard : (a.heard env.now (roundTrip env.now snapshot)).anyTransport =
        (b.heard env.now (roundTrip env.now snapshot)).anyTransport := by
      have h₁ := congrArg (fun n => n.heard env.now (roundTrip env.now snapshot)) hab
      exact h₁
    have hst := (h.insertNode nodeId hheard).putNode env hheard
    simp only [hq, hy, anyTransport_nodeId hheard]
    cases env.putNode _ with
    | error e => exact ⟨rfl, hst⟩
    | ok _ => exact ⟨rfl, hst.putMetric env _⟩

theorem cleanUp (h : SameUpToTransport q y) (env : Env) (nodeId : NodeId) (sessionId : TunnelId) :
    SameUpToTransport (cleanUp env nodeId sessionId q).1 (cleanUp env nodeId sessionId y).1 := by
  unfold OngrokRelay.cleanUp
  rw [h.sessionActive_eq]
  split
  · have hrem := h.removeSession nodeId
    unfold markOffline
    rcases hrem.node_cases nodeId with ⟨hq, hy⟩ | ⟨a, b, hq, hy, hab⟩
    · simp only [hq, hy]
      exact hrem
    · have hoff : a.offline.anyTransport = b.offline.anyTransport := by
        have hboth := congrArg NodeRecord.offline hab
        exact hboth
      have hst := (hrem.insertNode nodeId hoff).putNode env hoff
      simp only [hq, hy, anyTransport_nodeId hoff]
      cases env.putNode b.offline.nodeId with
      | error e => exact hst
      | ok _ => exact hst.recordEvent env _ _ _ _
  · exact h

end SameUpToTransport

/-! ## Which session is active -/

theorem registerService_sessions (cfg : RelayConfig) (env : Env) (service : ServiceDefinition)
    (nodeId : NodeId) (st : AppState) :
    (registerService cfg env service nodeId st).1.sessions = st.sessions := by
  have h := registerService_cases cfg env service nodeId st
  generalize registerService cfg env service nodeId st = result at h
  cases h <;> rfl

theorem publish_sessions (cfg : RelayConfig) (env : Env) (registered : Bool) (nodeId : NodeId)
    (service : ServiceDefinition) (st : AppState) :
    (publish cfg env registered nodeId service st).1.sessions = st.sessions := by
  unfold publish
  split
  · rfl
  · have h := registerService_sessions cfg env service nodeId st
    generalize registerService cfg env service nodeId st = result at h
    obtain ⟨st', _ | _⟩ := result <;> exact h

theorem unregisterService_sessions (env : Env) (serviceId : ServiceId) (nodeId : NodeId)
    (st : AppState) : (unregisterService env serviceId nodeId st).1.sessions = st.sessions := by
  unfold unregisterService
  split
  · simp only
    split <;> rfl
  · rfl

theorem recordHeartbeat_sessions (env : Env) (nodeId : NodeId) (snapshot : HeartbeatSnapshot)
    (st : AppState) : (recordHeartbeat env nodeId snapshot st).1.sessions = st.sessions := by
  unfold recordHeartbeat
  cases st.nodes[nodeId]? with
  | none => rfl
  | some node =>
    simp only
    split <;> rfl

/-- A RegisterNode frame is accepted when its metadata is valid and its key is
that of the node's record. -/
def acceptsNode (nodeId : NodeId) (metadata : NodeMetadata) (publicKey : PublicKey)
    (st : AppState) : Bool :=
  decide (metadata.metadata.validate = .ok ()) &&
    decide (validateNodeIdentity st.nodes nodeId publicKey = .ok ())

/-- Accepting a RegisterNode is what makes a session the active one. -/
theorem registerNode_active (env : Env) (peer : Peer) (transport : TransportKind)
    (clientSession : ClientSession) (kind : TokenKind) (nodeId : NodeId) (metadata : NodeMetadata)
    (publicKey : PublicKey) (st : AppState) :
    sessionActive (registerNode env peer transport clientSession kind nodeId metadata publicKey
        st).1 nodeId peer.sessionId =
      (sessionActive st nodeId peer.sessionId || acceptsNode nodeId metadata publicKey st) := by
  unfold registerNode acceptsNode
  cases metadata.metadata.validate with
  | error e => simp
  | ok _ =>
    cases validateNodeIdentity st.nodes nodeId publicKey with
    | error e => simp
    | ok _ =>
      -- from the activation on the entry is the session's own, whatever the store says
      have hsessions : (activateSession nodeId peer.sessionId kind clientSession
          st).sessions[nodeId]? = some ⟨peer.sessionId, kind, clientSession⟩ := by
        simp [activateSession, insertSession]
      simp only
      split <;> simp [sessionActive, putNode, insertNode, hsessions]

section
variable (cfg : RelayConfig) (peer : Peer) (kind : TokenKind) (nodeId : NodeId)

/-- The stream breaks off, by a read error, a failing write or store call or a
RegisterNode that is not accepted, while its session is the active one of its
node: `active` says that it was before these frames. -/
def breaksOff (registeredNode active : Bool) (st : AppState) : List Env → Bool
  | [] => active
  | env :: rest =>
    match env.input with
    | .error _ => active
    | .ok (.registerNode metadata publicKey) =>
      let active := active || acceptsNode nodeId metadata publicKey st
      match registerNode env peer .tcpTlsYamux (.yamux peer.connection) kind nodeId metadata
          publicKey st with
      | (_, .error _) => active
      | (st, .ok _) => breaksOff true active st rest
    | .ok (.registerService service) =>
      match env.write with
      | .error _ => active
      | .ok _ =>
        breaksOff registeredNode active (publish cfg env registeredNode nodeId service st).1 rest
    | .ok (.unregisterService serviceId) =>
      match unregisterService env serviceId nodeId st with
      | (_, .error _) => active
      | (st, .ok _) => breaksOff registeredNode active st rest
    | .ok (.heartbeat snapshot) =>
      match recordHeartbeat env nodeId snapshot st with
      | (_, .error _) => active
      | (st, .ok _) =>
        match env.write with
        | .error _ => active
        | .ok _ => breaksOff registeredNode active st rest
    | .ok .goodbye => false
    | .ok _ =>
      match env.write with
      | .error _ => active
      | .ok _ => breaksOff registeredNode active st rest

/-- The QUIC loop, which cleans up after a Goodbye only, against the Yamux loop,
after which the clean-up is still to come. -/
structure LoopsAgree (ending : Env) (quic yamux : Served) (broken : Bool) : Prop where
  replies : quic.replies = yamux.replies
  server : (broken = false ∧
      SameUpToTransport quic.server (cleanUp ending nodeId peer.sessionId yamux.server).1) ∨
    (broken = sessionActive yamux.server nodeId peer.sessionId ∧
      SameUpToTransport quic.server yamux.server)

variable {cfg peer kind nodeId}

theorem LoopsAgree.broken {ending : Env} {q y : AppState} (h : SameUpToTransport q y)
    (result : Outcome) :
    LoopsAgree peer nodeId ending { server := q, result } { server := y, result }
      (sessionActive y nodeId peer.sessionId) := ⟨rfl, .inr ⟨rfl, h⟩⟩

/-- A frame both handlers send, or the write that fails for both. -/
theorem LoopsAgree.reply {ending env : Env} {q y : AppState} (h : SameUpToTransport q y)
    (frame : Frame) {quic yamux : AppState → Served} {broken : Bool}
    (hnext : LoopsAgree peer nodeId ending (quic q) (yamux y) broken) :
    LoopsAgree peer nodeId ending (reply env frame q quic) (reply env frame y yamux)
      (match env.write with
        | .error _ => sessionActive y nodeId peer.sessionId
        | .ok _ => broken) := by
  unfold OngrokRelay.reply
  cases env.write with
  | error e => exact .broken h _
  | ok _ => exact ⟨by simp only [Served.after, hnext.replies], hnext.server⟩

variable (cfg peer kind nodeId)

/-- **Turn by turn** the two loops send the same frames and keep their states
the same. -/
theorem quicLoop_agrees (ending : Env) (frames : List Env) :
    ∀ (registered : Bool) {q y : AppState}, SameUpToTransport q y →
      LoopsAgree peer nodeId ending (quicLoop cfg peer kind nodeId ending registered q frames)
        (yamuxLoop cfg peer kind nodeId registered y frames)
        (breaksOff cfg peer kind nodeId registered (sessionActive y nodeId peer.sessionId) y
          frames) := by
  induction frames with
  | nil => intro registered q y h; exact .broken h _
  | cons env rest ih =>
    intro registered q y h
    cases hin : env.input with
    | error e =>
      simp only [quicLoop, yamuxLoop, breaksOff, hin]
      exact .broken h _
    | ok frame =>
      cases frame with
      | registerNode metadata publicKey =>
        simp only [quicLoop, yamuxLoop, breaksOff, hin]
        obtain ⟨hresult, hst⟩ := h.registerNode env peer (.quic peer.connection)
          (.yamux peer.connection) .quic .tcpTlsYamux kind nodeId metadata publicKey
        have hactive := registerNode_active env peer .tcpTlsYamux (.yamux peer.connection) kind
          nodeId metadata publicKey y
        generalize registerNode env peer .quic (.quic peer.connection) kind nodeId metadata
          publicKey q = rq at hresult hst
        generalize registerNode env peer .tcpTlsYamux (.yamux peer.connection) kind nodeId
          metadata publicKey y = ry at hresult hst hactive
        obtain ⟨q', rq⟩ := rq
        obtain ⟨y', ry⟩ := ry
        cases hresult
        rw [← hactive]
        cases rq with
        -- the QUIC handler returns here, the Yamux handler goes to its clean-up
        | error e => exact .broken hst _
        | ok _ => exact ih true hst
      | registerService service =>
        simp only [quicLoop, yamuxLoop, breaksOff, hin]
        obtain ⟨hframe, hst⟩ := h.publish cfg env registered nodeId service
        have hsessions := publish_sessions cfg env registered nodeId service y
        have hactive : sessionActive (publish cfg env registered nodeId service y).1 nodeId
            peer.sessionId = sessionActive y nodeId peer.sessionId := by
          simp only [sessionActive, hsessions]
        rw [← hactive, hframe]
        exact .reply hst _ (ih registered hst)
      | unregisterService serviceId =>
        simp only [quicLoop, yamuxLoop, breaksOff, hin]
        obtain ⟨hresult, hst⟩ := h.unregisterService env serviceId nodeId
        have hsessions := unregisterService_sessions env serviceId nodeId y
        have hactive : sessionActive (unregisterService env serviceId nodeId y).1 nodeId
            peer.sessionId = sessionActive y nodeId peer.sessionId := by
          simp only [sessionActive, hsessions]
        rw [← hactive]
        generalize unregisterService env serviceId nodeId q = rq at hresult hst
        generalize unregisterService env serviceId nodeId y = ry at hresult hst
        obtain ⟨q', rq⟩ := rq
        obtain ⟨y', ry⟩ := ry
        cases hresult
        cases rq with
        | error e => exact .broken hst _
        | ok _ => exact ih registered hst
      | heartbeat snapshot =>
        rw [quicLoop_heartbeat cfg peer kind nodeId ending env registered q rest hin]
        simp only [yamuxLoop, breaksOff, hin]
        obtain ⟨hresult, hst⟩ := h.recordHeartbeat env nodeId snapshot
        have hsessions := recordHeartbeat_sessions env nodeId snapshot y
        have hactive : sessionActive (recordHeartbeat env nodeId snapshot y).1 nodeId
            peer.sessionId = sessionActive y nodeId peer.sessionId := by
          simp only [sessionActive, hsessions]
        rw [← hactive]
        generalize recordHeartbeat env nodeId snapshot q = rq at hresult hst
        generalize recordHeartbeat env nodeId snapshot y = ry at hresult hst
        obtain ⟨q', rq⟩ := rq
        obtain ⟨y', ry⟩ := ry
        cases hresult
        cases rq with
        | error e => exact .broken hst _
        | ok _ => exact .reply hst _ (ih registered hst)
      | goodbye =>
        -- the one frame after which both clean up
        simp only [quicLoop, yamuxLoop, breaksOff, hin]
        exact ⟨rfl, .inl ⟨rfl, h.cleanUp ending nodeId peer.sessionId⟩⟩
      | hello | auth | authAccepted | authRejected | registerServiceAccepted | serviceList
      | heartbeatAck | openStream | openStreamAck | streamData | closeStream | error =>
        simp only [quicLoop, yamuxLoop, breaksOff, hin]
        exact .reply h _ (ih registered h)

end

theorem cleanUp_inactive (env : Env) {nodeId : NodeId} {sessionId : TunnelId} {st : AppState}
    (h : sessionActive st nodeId sessionId = false) :
    cleanUp env nodeId sessionId st = (st, .ok ()) := by
  simp only [cleanUp, h, Bool.false_eq_true, if_false]

theorem cleanUp_active (env : Env) {nodeId : NodeId} {sessionId : TunnelId} {st : AppState}
    (h : sessionActive st nodeId sessionId = true) :
    (cleanUp env nodeId sessionId st).1.sessions = st.sessions.erase nodeId := by
  have hsessions := markOffline_sessions nodeId (removeSession nodeId st)
  unfold cleanUp
  rw [if_pos h]
  generalize markOffline nodeId (removeSession nodeId st) = marked at hsessions
  obtain ⟨st', _ | node⟩ := marked
  · exact hsessions
  · simp only
    split <;> exact hsessions

/-- The stream breaks off while its session is the active one of its node. -/
def ControlStream.breaksOff (stream : ControlStream) (cfg : RelayConfig) (peer : Peer)
    (st : AppState) : Bool :=
  match handshake cfg st stream.hello stream.auth with
  | (_, .error _) => false
  | (_, .ok (kind, nodeId)) =>
    OngrokRelay.breaksOff cfg peer kind nodeId false (sessionActive st nodeId peer.sessionId) st
      stream.frames

/-- The same frames sent, and the same state left but for the transport. -/
def HandlersAgree (quic yamux : Served) : Prop :=
  quic.replies = yamux.replies ∧ SameUpToTransport quic.server yamux.server

/-- Past the handshake, `handle_yamux_session` is its loop and then its clean-up. -/
theorem handleYamuxSession_ok {cfg : RelayConfig} (peer : Peer) {stream : ControlStream}
    {st : AppState} {replies : List Frame} {kind : TokenKind} {nodeId : NodeId}
    (h : handshake cfg st stream.hello stream.auth = (replies, .ok (kind, nodeId))) :
    (handleYamuxSession cfg peer stream st).replies =
      replies ++ (yamuxLoop cfg peer kind nodeId false st stream.frames).replies ∧
    (handleYamuxSession cfg peer stream st).server =
      (cleanUp stream.ending nodeId peer.sessionId
        (yamuxLoop cfg peer kind nodeId false st stream.frames).server).1 := by
  simp only [handleYamuxSession, h, Served.after]
  generalize cleanUp stream.ending nodeId peer.sessionId
    (yamuxLoop cfg peer kind nodeId false st stream.frames).server = cleaned
  obtain ⟨server, _ | _⟩ := cleaned <;> exact ⟨rfl, rfl⟩

/-- **The two transports implement one session protocol** on a stream exactly when
it does not break off while its session is the active one of its node. -/
theorem handlers_agree_iff (cfg : RelayConfig) (peer : Peer) (stream : ControlStream)
    (st : AppState) :
    HandlersAgree (handleQuicConnection cfg peer stream st) (handleYamuxSession cfg peer stream st) ↔
      stream.breaksOff cfg peer st = false := by
  unfold HandlersAgree ControlStream.breaksOff
  cases hshake : handshake cfg st stream.hello stream.auth with
  | mk replies result =>
  cases result with
  | error e =>
    simp only [handleQuicConnection, handleYamuxSession, hshake]
    exact iff_of_true ⟨trivial, .refl st⟩ trivial
  | ok client =>
    obtain ⟨kind, nodeId⟩ := client
    obtain ⟨hreplies, hserver⟩ := quicLoop_agrees cfg peer kind nodeId stream.ending
      stream.frames false (.refl st)
    obtain ⟨hyreplies, hyserver⟩ := handleYamuxSession_ok peer hshake
    rw [hyreplies, hyserver]
    simp only [handleQuicConnection, hshake, Served.after, hreplies, true_and]
    generalize quicLoop cfg peer kind nodeId stream.ending false st stream.frames = q
      at hserver
    generalize yamuxLoop cfg peer kind nodeId false st stream.frames = y at hserver
    generalize OngrokRelay.breaksOff cfg peer kind nodeId false
      (sessionActive st nodeId peer.sessionId) st stream.frames = broken at hserver
    rcases hserver with ⟨rfl, hsame⟩ | ⟨rfl, hsame⟩
    · exact iff_of_true hsame rfl
    · cases hactive : sessionActive y.server nodeId peer.sessionId with
      | false =>
        rw [cleanUp_inactive stream.ending hactive]
        exact iff_of_true hsame rfl
      | true =>
        -- the Yamux handler has removed the session that the QUIC handler leaves
        refine iff_of_false (fun hclean => ?_) (by decide)
        have hgone := hclean.sessions nodeId
        rw [cleanUp_active stream.ending hactive, BTreeMap.get_erase_self, Option.map_none,
          Option.map_eq_none_iff] at hgone
        rw [← hsame.sessionActive_eq, sessionActive, hgone] at hactive
        cases hactive

/-! ## A stream that breaks off -/

namespace BrokenStream

def peer : Peer := ⟨1, ⟨11⟩, "203.0.113.7", 40000⟩

def metadata : NodeMetadata := ⟨"host", "linux", "x86_64", "0.1.0", {}⟩

/-- The client authenticates, registers its node and is then cut off. -/
def stream : ControlStream where
  hello := { input := .ok (.hello protocolVersion) }
  auth := { input := .ok (.auth "user" ⟨7⟩) }
  frames := [{ input := .ok (.registerNode metadata 5) }]
  ending := {}

def server : AppState := { tokens := ⟨none, some (Sample.hashToken "user")⟩ }

end BrokenStream

open BrokenStream in
/-- **A QUIC node whose stream breaks off stays in the sessions map.** -/
theorem broken_stream_differs :
    ¬∀ (cfg : RelayConfig) (peer : Peer) (stream : ControlStream) (st : AppState),
      HandlersAgree (handleQuicConnection cfg peer stream st)
        (handleYamuxSession cfg peer stream st) := by
  intro h
  have hsessions := (h Sample.config peer stream server).2.sessions ⟨7⟩
  have hquic : ((handleQuicConnection Sample.config peer stream
      server).server.sessions[(⟨7⟩ : NodeId)]?.map ActiveSession.anyConnection).isSome := by
    decide +kernel
  have hyamux : ((handleYamuxSession Sample.config peer stream
      server).server.sessions[(⟨7⟩ : NodeId)]?.map ActiveSession.anyConnection).isSome = false := by
    decide +kernel
  rw [hsessions, hyamux] at hquic
  cases hquic

end OngrokRelay
