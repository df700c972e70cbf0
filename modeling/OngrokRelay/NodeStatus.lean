import OngrokRelay.Sessions
import OngrokRelay.Transition

/-
  Node status against sessions, over completed steps of the control plane.

  Six pieces of code write a node's status or its session entry. Registering, a
  session's end on either transport and the replacement of a token keep the two
  together from any state in which they are; two do so only sometimes.

  1. `registers_status`, `ends_status`, `replaceToken_status`: these three always
     keep status and session together.
  2. `heartbeat_status_iff`: a heartbeat does exactly when the node has a
     session or no record, since it is not asked whether its own session is
     still the node's.
  3. `restart_status_iff`: a restart does exactly when no record was stored
     online, since records are loaded as they were stored and sessions are not.
  4. `status_reflects_iff`: the runs in which the status is right in every state.
  5. `restart_leaves_online`: a node online at a restart stays online.
-/

namespace OngrokRelay

open Transition

/-- How a session's control stream ends. -/
inductive SessionEnd
  | goodbye
  | lost
  deriving DecidableEq

inductive LifeStep
  | registers (env : Env) (peer : Peer) (transport : TransportKind) (kind : TokenKind)
      (nodeId : NodeId) (metadata : NodeMetadata) (publicKey : PublicKey)
  | heartbeat (env : Env) (nodeId : NodeId) (snapshot : HeartbeatSnapshot)
  | ends (env : Env) (transport : TransportKind) (ending : SessionEnd) (nodeId : NodeId)
      (sessionId : TunnelId)
  | tokenReplaced (env : Env) (kind : TokenKind) (hash : Option TokenHash)
  | restarted (env : Env) (adminHash userHash : TokenHash)

/-- The end of a session: a QUIC stream that is lost leaves its handler at once. -/
def endSession (env : Env) (transport : TransportKind) (ending : SessionEnd) (nodeId : NodeId)
    (sessionId : TunnelId) (st : AppState) : AppState :=
  match transport, ending with
  | .quic, .lost => st
  | _, _ => (cleanUp env nodeId sessionId st).1

/-- One completed step. A start that fails leaves no server to look at, so the
step stands for the start that succeeds. -/
def LifeStep.apply (st : AppState) : LifeStep → AppState
  | registers env peer transport kind nodeId metadata publicKey =>
    (registerNode env peer transport (transport.session peer.connection) kind nodeId metadata
      publicKey st).1
  | heartbeat env nodeId snapshot => (recordHeartbeat env nodeId snapshot st).1
  | ends env transport ending nodeId sessionId => endSession env transport ending nodeId sessionId st
  | tokenReplaced env kind hash => (replaceToken env kind hash st).1
  | restarted env adminHash userHash =>
    match start env adminHash userHash st.store with
    | .ok started => started
    | .error _ => st

/-- A record is online exactly when its node has a session. -/
def StatusReflects (st : AppState) : Prop :=
  ∀ (nodeId : NodeId) (node : NodeRecord), st.nodes[nodeId]? = some node →
    (node.status = .online ↔ st.sessions[nodeId]?.isSome)

/-- A heartbeat comes for a node that has a session, or has no record; a restart
finds no record stored online. -/
def KeepsStatus (st : AppState) : LifeStep → Prop
  | .heartbeat _ nodeId _ => st.nodes[nodeId]?.isSome → st.sessions[nodeId]?.isSome
  | .restarted env adminHash userHash =>
    (start env adminHash userHash st.store).isOk →
      ∀ (nodeId : NodeId) (node : NodeRecord), st.store.loadNodes[nodeId]? = some node →
        node.status ≠ .online
  | _ => True

theorem StatusReflects.congr {st st' : AppState} (h : StatusReflects st)
    (hnodes : st'.nodes = st.nodes) (hsessions : st'.sessions = st.sessions) :
    StatusReflects st' := by
  intro nodeId node hnode
  rw [hnodes] at hnode
  rw [hsessions]
  exact h nodeId node hnode

/-- One node's record and session change together; the others stay. -/
theorem StatusReflects.of_node {st st' : AppState} (h : StatusReflects st) (nodeId : NodeId)
    (hnodes : ∀ other, other ≠ nodeId → st'.nodes[other]? = st.nodes[other]?)
    (hsessions : ∀ other, other ≠ nodeId → st'.sessions[other]? = st.sessions[other]?) :
    StatusReflects st' ↔ ∀ node, st'.nodes[nodeId]? = some node →
      (node.status = .online ↔ st'.sessions[nodeId]?.isSome) := by
  constructor
  · intro h' node hnode
    exact h' nodeId node hnode
  · intro hown other node hnode
    by_cases hid : other = nodeId
    · subst hid
      exact hown node hnode
    · rw [hnodes other hid] at hnode
      rw [hsessions other hid]
      exact h other node hnode

theorem registers_status {st : AppState} (h : StatusReflects st) (env : Env) (peer : Peer)
    (transport : TransportKind) (clientSession : ClientSession) (kind : TokenKind)
    (nodeId : NodeId) (metadata : NodeMetadata) (publicKey : PublicKey) :
    StatusReflects (registerNode env peer transport clientSession kind nodeId metadata publicKey
      st).1 := by
  unfold registerNode
  cases metadata.metadata.validate with
  | error e => exact h
  | ok _ =>
    cases validateNodeIdentity st.nodes nodeId publicKey with
    | error e => exact h
    | ok _ =>
      have hinserted : StatusReflects (insertNode nodeId
          (connectedNode env peer transport nodeId metadata publicKey)
          (activateSession nodeId peer.sessionId kind clientSession st)) := by
        refine (h.of_node nodeId (fun other hid => ?_) (fun other hid => ?_)).mpr fun node hnode => ?_
        · simp [insertNode, activateSession, insertSession, BTreeMap.get_insert_ne _ _ hid.symm]
        · simp [insertNode, activateSession, insertSession, BTreeMap.get_insert_ne _ _ hid.symm]
        · have hnode' : connectedNode env peer transport nodeId metadata publicKey = node := by
            simpa [insertNode] using hnode
          subst hnode'
          simp [insertNode, activateSession, insertSession, connectedNode]
      simp only
      cases env.putNode nodeId <;> exact hinserted.congr rfl rfl

theorem cleanUp_status {st : AppState} (h : StatusReflects st) (env : Env) (nodeId : NodeId)
    (sessionId : TunnelId) : StatusReflects (cleanUp env nodeId sessionId st).1 := by
  unfold cleanUp
  split
  · have hmarked : StatusReflects (markOffline nodeId (removeSession nodeId st)).1 := by
      refine (h.of_node nodeId (fun other hid => ?_) (fun other hid => ?_)).mpr fun node hnode => ?_
      · rw [markOffline_get, if_neg hid.symm]
        rfl
      · rw [markOffline_sessions]
        exact BTreeMap.get_erase_ne _ hid.symm
      · -- what is found at the node is a record marked offline, and no session
        rw [markOffline_get, if_pos rfl] at hnode
        obtain ⟨old, -, rfl⟩ := Option.map_eq_some_iff.mp hnode
        rw [markOffline_sessions]
        simp [removeSession, NodeRecord.offline]
    generalize markOffline nodeId (removeSession nodeId st) = marked at hmarked
    obtain ⟨st', _ | node⟩ := marked
    · exact hmarked
    · simp only
      cases env.putNode node.nodeId <;> exact hmarked.congr rfl rfl
  · exact h

theorem ends_status {st : AppState} (h : StatusReflects st) (env : Env)
    (transport : TransportKind) (ending : SessionEnd) (nodeId : NodeId) (sessionId : TunnelId) :
    StatusReflects (endSession env transport ending nodeId sessionId st) := by
  unfold endSession
  split
  · exact h
  · exact cleanUp_status h env nodeId sessionId

theorem replaceToken_status {st : AppState} (h : StatusReflects st) (env : Env)
    (kind : TokenKind) (hash : Option TokenHash) :
    StatusReflects (replaceToken env kind hash st).1 := by
  have hwrite : (writeToken env kind hash st).1.nodes = st.nodes ∧
      (writeToken env kind hash st).1.sessions = st.sessions := by
    unfold writeToken
    cases env.putTokens <;> exact ⟨rfl, rfl⟩
  have h₁ : StatusReflects (writeToken env kind hash st).1 := h.congr hwrite.1 hwrite.2
  unfold replaceToken
  generalize writeToken env kind hash st = written at h₁
  obtain ⟨st₁, _ | _⟩ := written
  · exact h₁
  · -- a node keeps its session and its status, or loses both
    simp only
    apply StatusReflects.congr ?_ (putOffline_frame env _ _).2 (putOffline_frame env _ _).1
    obtain ⟨hsessions, hnodes⟩ := markAllOffline_spec ((disconnectKind kind st₁).2.map Prod.fst)
      ((disconnectKind kind st₁).2.foldl (fun st entry => entry.2.connection.close st)
        (disconnectKind kind st₁).1)
    obtain ⟨-, hclose, hcloseNodes⟩ := close_frame (disconnectKind kind st₁).2
      (disconnectKind kind st₁).1
    intro nodeId node hnode
    rw [hnodes, hcloseNodes] at hnode
    rw [hsessions, hclose, disconnectKind_get]
    have hmem : nodeId ∈ (disconnectKind kind st₁).2.map Prod.fst ↔
        ∃ session, st₁.sessions[nodeId]? = some session ∧ session.tokenKind = kind := by
      simp only [List.mem_map, Prod.exists, exists_and_right, exists_eq_right,
        mem_disconnectKind]
    by_cases hlost : ∃ session, st₁.sessions[nodeId]? = some session ∧ session.tokenKind = kind
    · rw [if_pos (hmem.mpr hlost)] at hnode
      obtain ⟨old, -, rfl⟩ := Option.map_eq_some_iff.mp hnode
      obtain ⟨session, hsession, hkind⟩ := hlost
      simp [hsession, hkind, NodeRecord.offline, Option.filter]
    · rw [if_neg fun hin => hlost (hmem.mp hin)] at hnode
      have hfilter : st₁.sessions[nodeId]?.filter (fun session => session.tokenKind != kind) =
          st₁.sessions[nodeId]? := by
        cases hsession : st₁.sessions[nodeId]? with
        | none => rfl
        | some session =>
          have hkind : session.tokenKind ≠ kind := fun hk => hlost ⟨session, hsession, hk⟩
          simp [Option.filter, hkind]
      rw [hfilter]
      exact h₁ nodeId node hnode

theorem heartbeat_status_iff {st : AppState} (h : StatusReflects st) (env : Env)
    (nodeId : NodeId) (snapshot : HeartbeatSnapshot) :
    StatusReflects (recordHeartbeat env nodeId snapshot st).1 ↔
      (st.nodes[nodeId]?.isSome → st.sessions[nodeId]?.isSome) := by
  unfold recordHeartbeat
  cases hnode : st.nodes[nodeId]? with
  | none => exact iff_of_true h fun hsome => by cases hsome
  | some node =>
    -- the store calls after the insertion change neither map
    have hinserted : StatusReflects
        (insertNode nodeId (node.heard env.now (roundTrip env.now snapshot)) st) ↔
        st.sessions[nodeId]?.isSome := by
      refine Iff.trans (h.of_node nodeId ?_ ?_) ?_
      · intro other hid
        exact BTreeMap.get_insert_ne _ _ hid.symm
      · intro other _
        rfl
      · simp [insertNode, NodeRecord.heard]
    have hcongr {st' : AppState} (hn : st'.nodes =
          (insertNode nodeId (node.heard env.now (roundTrip env.now snapshot)) st).nodes)
        (hs : st'.sessions = st.sessions) :
        StatusReflects st' ↔ StatusReflects
          (insertNode nodeId (node.heard env.now (roundTrip env.now snapshot)) st) :=
      ⟨fun h' => h'.congr hn.symm hs.symm, fun h' => h'.congr hn hs⟩
    simp only [Option.isSome_some, true_implies]
    split
    · exact (hcongr rfl rfl).trans hinserted
    · exact (hcongr rfl rfl).trans hinserted

theorem restart_status_iff {st : AppState} (h : StatusReflects st) (env : Env)
    (adminHash userHash : TokenHash) :
    StatusReflects ((LifeStep.restarted env adminHash userHash).apply st) ↔
      KeepsStatus st (.restarted env adminHash userHash) := by
  simp only [LifeStep.apply, KeepsStatus]
  cases hstart : start env adminHash userHash st.store with
  | error e => exact iff_of_true h fun hok => by cases hok
  | ok restarted =>
    -- no node has a session, so none may be online
    obtain ⟨-, hnodes, hsessions⟩ := start_ok hstart
    simp only [StatusReflects, hnodes, hsessions]
    simp [Except.isOk, Except.toBool]

/-- **The status of a node reflects its sessions** in every state of a run from a
server without nodes exactly when every heartbeat of the run comes for a node
that has a session or no record, and every restart finds no record stored
online. -/
theorem status_reflects_iff (st : AppState) (steps : List LifeStep) :
    EveryState LifeStep.apply StatusReflects { st with nodes := ∅, sessions := ∅ } steps ↔
      EveryStep LifeStep.apply KeepsStatus { st with nodes := ∅, sessions := ∅ } steps := by
  apply everyState_iff_everyStep (J := fun _ => True) (fun _ _ h => h) ?_ trivial ?_
  · intro st step _ h
    cases step with
    | registers env peer transport kind nodeId metadata publicKey =>
      exact iff_of_true (registers_status h env peer transport _ kind nodeId metadata publicKey)
        trivial
    | heartbeat env nodeId snapshot => exact heartbeat_status_iff h env nodeId snapshot
    | ends env transport ending nodeId sessionId =>
      exact iff_of_true (ends_status h env transport ending nodeId sessionId) trivial
    | tokenReplaced env kind hash => exact iff_of_true (replaceToken_status h env kind hash) trivial
    | restarted env adminHash userHash => exact restart_status_iff h env adminHash userHash
  · intro nodeId node hnode
    rw [BTreeMap.get_empty] at hnode
    cases hnode

/-- A node registers over QUIC and the server is restarted. -/
def restartedOnline : List LifeStep :=
  [.registers {} ⟨1, ⟨11⟩, "203.0.113.7", 40000⟩ .quic .user ⟨7⟩
      ⟨"host", "linux", "x86_64", "0.1.0", {}⟩ 5,
    .restarted {} 1 2]

/-- **A node online at a restart stays online**, with no session. -/
theorem restart_leaves_online :
    ¬∀ (st : AppState) (steps : List LifeStep),
      EveryState LifeStep.apply StatusReflects { st with nodes := ∅, sessions := ∅ } steps := by
  intro h
  have hlast := (h { tokens := ⟨none, none⟩ } restartedOnline).last
  have hnode : (run LifeStep.apply { tokens := ⟨none, none⟩ }
      restartedOnline).nodes[(⟨7⟩ : NodeId)]?.map NodeRecord.status = some .online := by
    decide +kernel
  have hsession : (run LifeStep.apply { tokens := ⟨none, none⟩ }
      restartedOnline).sessions[(⟨7⟩ : NodeId)]?.isSome = false := by decide +kernel
  obtain ⟨node, hget, hstatus⟩ := Option.map_eq_some_iff.mp hnode
  have honline := (hlast ⟨7⟩ node hget).mp hstatus
  rw [hsession] at honline
  cases honline

end OngrokRelay
