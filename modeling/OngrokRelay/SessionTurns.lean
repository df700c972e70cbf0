import OngrokRelay.SessionTasks

/-
  A session that nothing interrupts, against the handlers.

  1. `yamuxLoop_turn`, `quicLoop_turn`: a handler's loop is its turns, one after
     another.
  2. `turn_solo`: a live session that nothing interrupts does, from one frame to
     the next, what one turn does.
  3. `session_alone`: so a session that nothing interrupts, from Hello to its end,
     leaves the server and returns as its handler does.
-/

namespace OngrokRelay

open Interleaving

/-- What one turn of a handler's loop comes to. -/
inductive Turn
  | goes (replies : List Frame) (registeredNode : Bool) (st : AppState)
  | leaves (result : Outcome) (st : AppState)

/-- The reply goes out, or the write fails. -/
def Turn.replies (env : Env) (frame : Frame) (registeredNode : Bool) (st : AppState) : Turn :=
  match env.write with
  | .error e => .leaves (.error e) st
  | .ok _ => .goes [frame] registeredNode st

section
variable (cfg : RelayConfig) (peer : Peer) (kind : TokenKind) (nodeId : NodeId)

/-- One turn of the loop, in the arms of `Sessions`. -/
def turn (transport : TransportKind) (registeredNode : Bool) (env : Env) (st : AppState) : Turn :=
  match env.input with
  | .error e => .leaves (.error e) st
  | .ok (.registerNode metadata publicKey) =>
    match registerNode env peer transport (transport.session peer.connection) kind nodeId metadata
        publicKey st with
    | (st, .error e) => .leaves (.error e) st
    | (st, .ok _) => .goes [] true st
  | .ok (.registerService service) =>
    let (st, response) := publish cfg env registeredNode nodeId service st
    .replies env response registeredNode st
  | .ok (.unregisterService serviceId) =>
    match unregisterService env serviceId nodeId st with
    | (st, .error e) => .leaves (.error e) st
    | (st, .ok _) => .goes [] registeredNode st
  | .ok (.heartbeat snapshot) =>
    match recordHeartbeat env nodeId snapshot st with
    | (st, .error e) => .leaves (.error e) st
    | (st, .ok _) =>
      .replies env (.heartbeatAck snapshot.sequence env.replyTime) registeredNode st
  | .ok .goodbye => .leaves (.ok ()) st
  | .ok _ => .replies env (.error "unsupported control frame") registeredNode st

theorem reply_turn (env : Env) (frame : Frame) (registeredNode : Bool) (st : AppState)
    (next : Bool → AppState → Served) :
    reply env frame st (next registeredNode) =
      match Turn.replies env frame registeredNode st with
      | .goes replies registeredNode st => (next registeredNode st).after replies
      | .leaves result st => { server := st, result } := by
  unfold reply Turn.replies
  cases env.write <;> rfl

/-- **The Yamux loop is its turns.** -/
theorem yamuxLoop_turn (registeredNode : Bool) (env : Env) (rest : List Env) (st : AppState) :
    yamuxLoop cfg peer kind nodeId registeredNode st (env :: rest) =
      match turn cfg peer kind nodeId .tcpTlsYamux registeredNode env st with
      | .goes replies registeredNode st =>
        (yamuxLoop cfg peer kind nodeId registeredNode st rest).after replies
      | .leaves result st => { server := st, result } := by
  unfold turn
  rw [yamuxLoop]
  cases env.input with
  | error e => rfl
  | ok frame =>
    cases frame with
    | registerNode metadata publicKey =>
      simp only [TransportKind.session]
      generalize registerNode env peer .tcpTlsYamux (.yamux peer.connection) kind nodeId metadata
        publicKey st = registered
      obtain ⟨st', _ | _⟩ := registered <;> rfl
    | registerService service =>
      exact reply_turn env _ registeredNode _ fun registeredNode st =>
        yamuxLoop cfg peer kind nodeId registeredNode st rest
    | unregisterService serviceId =>
      simp only
      generalize unregisterService env serviceId nodeId st = unregistered
      obtain ⟨st', _ | _⟩ := unregistered <;> rfl
    | heartbeat snapshot =>
      simp only
      generalize recordHeartbeat env nodeId snapshot st = recorded
      obtain ⟨st', _ | _⟩ := recorded
      · rfl
      · exact reply_turn env _ registeredNode _ fun registeredNode st =>
          yamuxLoop cfg peer kind nodeId registeredNode st rest
    | goodbye => rfl
    | hello | auth | authAccepted | authRejected | registerServiceAccepted | serviceList
    | heartbeatAck | openStream | openStreamAck | streamData | closeStream | error =>
      exact reply_turn env _ registeredNode st fun registeredNode st =>
        yamuxLoop cfg peer kind nodeId registeredNode st rest

/-- **The QUIC loop is its turns**, with the clean-up after the turn that reads
Goodbye. -/
theorem quicLoop_turn (ending : Env) (registeredNode : Bool) (env : Env) (rest : List Env)
    (st : AppState) :
    quicLoop cfg peer kind nodeId ending registeredNode st (env :: rest) =
      match turn cfg peer kind nodeId .quic registeredNode env st with
      | .goes replies registeredNode st =>
        (quicLoop cfg peer kind nodeId ending registeredNode st rest).after replies
      | .leaves (.error e) st => { server := st, result := .error e }
      | .leaves (.ok _) st =>
        let (st, result) := cleanUp ending nodeId peer.sessionId st
        { server := st, result } := by
  have hreply (frame : Frame) (st : AppState) :
      (reply env frame st fun st => quicLoop cfg peer kind nodeId ending registeredNode st rest) =
        match Turn.replies env frame registeredNode st with
        | .goes replies registeredNode st =>
          (quicLoop cfg peer kind nodeId ending registeredNode st rest).after replies
        | .leaves (.error e) st => { server := st, result := .error e }
        | .leaves (.ok _) st =>
          let (st, result) := cleanUp ending nodeId peer.sessionId st
          { server := st, result } := by
    unfold reply Turn.replies
    cases env.write <;> rfl
  cases hin : env.input with
  | error e =>
    rw [quicLoop, turn, hin]
  | ok frame =>
    cases frame with
    | registerNode metadata publicKey =>
      rw [quicLoop, turn, hin]
      simp only [TransportKind.session]
      generalize registerNode env peer .quic (.quic peer.connection) kind nodeId metadata
        publicKey st = registered
      obtain ⟨st', _ | _⟩ := registered <;> rfl
    | registerService service =>
      rw [quicLoop, turn, hin]
      exact hreply _ _
    | unregisterService serviceId =>
      rw [quicLoop, turn, hin]
      simp only
      generalize unregisterService env serviceId nodeId st = unregistered
      obtain ⟨st', _ | _⟩ := unregistered <;> rfl
    | heartbeat snapshot =>
      rw [quicLoop_heartbeat cfg peer kind nodeId ending env registeredNode st rest hin, turn, hin]
      simp only
      generalize recordHeartbeat env nodeId snapshot st = recorded
      obtain ⟨st', _ | _⟩ := recorded
      · rfl
      · exact hreply _ _
    | goodbye => rw [quicLoop, turn, hin]
    | hello | auth | authAccepted | authRejected | registerServiceAccepted | serviceList
    | heartbeatAck | openStream | openStreamAck | streamData | closeStream | error =>
      rw [quicLoop, turn, hin]
      exact hreply _ _

end

namespace LiveSession

/-- The session after its loop: a Goodbye leads to the clean-up on both transports. -/
def leave (s : LiveSession) : Outcome → LiveSession
  | .ok _ => { s with pc := .ending .check (.ok ()) }
  | .error e => s.fail e

/-- The session after a turn. -/
def turned (s : LiveSession) (accepted : Bool) : Turn → AppState × LiveSession
  | .goes _ registeredNode st => (st, { s with registeredNode, accepted, pc := .loop })
  | .leaves result st => (st, { s.leave result with accepted })

/-! The control point of a session says nothing about how it ends. -/

theorem fail_pc (s : LiveSession) (pc : SessionPc) (e : String) :
    { s with pc }.fail e = s.fail e := by
  unfold fail
  cases s.transport <;> rfl

theorem replied_pc (s : LiveSession) (pc : SessionPc) (env : Env) :
    { s with pc }.replied env = s.replied env := by
  unfold replied
  cases env.write with
  | error e => exact s.fail_pc pc e
  | ok _ => rfl

theorem fail_accepted (s : LiveSession) (accepted : Bool) (e : String) :
    { s with accepted }.fail e = { s.fail e with accepted } := by
  unfold fail
  cases s.transport <;> rfl

/-- A reply ends a turn as `Turn.replies` says. -/
theorem replied_turned (s : LiveSession) (env : Env) (frame : Frame) (st : AppState) :
    (st, s.replied env) = s.turned s.accepted (.replies env frame s.registeredNode st) := by
  unfold replied Turn.replies
  cases env.write with
  | error e =>
    simp only [turned, leave]
    rw [← s.fail_accepted s.accepted]
  | ok _ => rfl

/-- A registration inside a session ends with its reply. -/
theorem register_solo (cfg : RelayConfig) (env : Env) (st : AppState) (s : LiveSession)
    (service : ServiceDefinition) :
    ∃ m, solo (LiveSession.step cfg) env m
        (st, { s with pc := .registerService (.lock service) }) =
      ((registerService cfg env service s.nodeId st).1, s.replied env) := by
  have hexits := solo_exits (registerStep cfg s.nodeId) (LiveSession.step cfg)
    (fun pc => { s with pc := .registerService pc }) (fun _ => s.replied env) RegisterPc.returned
    env ?_ ?_ 6 st (.lock service) rfl ?_
  · rw [registerStep_solo] at hexits
    exact hexits
  · intro st pc _
    simp only [LiveSession.step]
    generalize registerStep cfg s.nodeId env st pc = next
    obtain ⟨st', pc'⟩ := next
    cases pc' with
    | done result => exact congrArg (st', ·) (s.replied_pc _ env)
    | _ => rfl
  · intro st pc hpc
    cases pc with
    | done result => rfl
    | _ => cases hpc
  · rw [registerStep_solo]
    rfl

/-- A withdrawal inside a session ends without a reply, or ends the loop. -/
theorem unregister_solo (cfg : RelayConfig) (env : Env) (st : AppState) (s : LiveSession)
    (serviceId : ServiceId) :
    ∃ m, solo (LiveSession.step cfg) env m
        (st, { s with pc := .unregisterService serviceId .lock }) =
      ((unregisterService env serviceId s.nodeId st).1,
        match (unregisterService env serviceId s.nodeId st).2 with
        | .ok _ => { s with pc := .loop }
        | .error e => s.fail e) := by
  have hexits := solo_exits (unregisterStep serviceId s.nodeId) (LiveSession.step cfg)
    (fun pc => { s with pc := .unregisterService serviceId pc }) (s.afterUnregisterService serviceId)
    UnregisterPc.returned env ?_ ?_ 4 st .lock rfl ?_
  · rw [unregisterStep_solo] at hexits
    obtain ⟨m, hm⟩ := hexits
    refine ⟨m, hm.trans ?_⟩
    cases (unregisterService env serviceId s.nodeId st).2 <;> rfl
  · intro st pc _
    simp only [LiveSession.step]
    generalize unregisterStep serviceId s.nodeId env st pc = next
    obtain ⟨st', pc'⟩ := next
    cases pc' with
    | done result =>
      cases result with
      | ok _ => rfl
      | error e => exact congrArg (st', ·) (s.fail_pc _ e)
    | _ => rfl
  · intro st pc hpc
    cases pc with
    | done result => rfl
    | _ => cases hpc
  · rw [unregisterStep_solo]
    rfl

/-- A heartbeat inside a session ends with its acknowledgement, or ends the loop. -/
theorem heartbeat_solo (cfg : RelayConfig) (env : Env) (st : AppState) (s : LiveSession)
    (snapshot : HeartbeatSnapshot) :
    ∃ m, solo (LiveSession.step cfg) env m
        (st, { s with pc := .heartbeat snapshot.sequence (.nodes snapshot) }) =
      ((recordHeartbeat env s.nodeId snapshot st).1,
        match (recordHeartbeat env s.nodeId snapshot st).2 with
        | .ok _ => s.replied env
        | .error e => s.fail e) := by
  have hexits := solo_exits (heartbeatStep s.nodeId) (LiveSession.step cfg)
    (fun pc => { s with pc := .heartbeat snapshot.sequence pc })
    (s.afterHeartbeat env snapshot.sequence) HeartbeatPc.returned env
    ?_ ?_ 3 st (.nodes snapshot) rfl ?_
  · rw [heartbeatStep_solo] at hexits
    obtain ⟨m, hm⟩ := hexits
    refine ⟨m, hm.trans ?_⟩
    cases (recordHeartbeat env s.nodeId snapshot st).2 <;> rfl
  · intro st pc _
    simp only [LiveSession.step]
    generalize heartbeatStep s.nodeId env st pc = next
    obtain ⟨st', pc'⟩ := next
    cases pc' with
    | done result =>
      cases result with
      | ok _ => exact congrArg (st', ·) (s.replied_pc _ env)
      | error e => exact congrArg (st', ·) (s.fail_pc _ e)
    | _ => rfl
  · intro st pc hpc
    cases pc with
    | done result => rfl
    | _ => cases hpc
  · rw [heartbeatStep_solo]
    rfl

/-- A RegisterNode inside a session registers its node, or ends the loop. -/
theorem registerNode_solo (cfg : RelayConfig) (env : Env) (st : AppState) (s : LiveSession)
    {metadata : NodeMetadata} (hvalid : metadata.metadata.validate = .ok ())
    (publicKey : PublicKey) :
    ∃ m accepted, solo (LiveSession.step cfg) env m
        (st, { s with pc := .registerNode (.identity metadata publicKey) }) =
      ((registerNode env s.peer s.transport (s.transport.session s.peer.connection) s.kind s.nodeId
          metadata publicKey st).1,
        match (registerNode env s.peer s.transport (s.transport.session s.peer.connection) s.kind
            s.nodeId metadata publicKey st).2 with
        | .ok _ => { s with registeredNode := true, accepted, pc := .loop }
        | .error e => { s.fail e with accepted }) := by
  unfold registerNode
  rw [hvalid]
  cases hidentity : validateNodeIdentity st.nodes s.nodeId publicKey with
  | error e =>
    refine ⟨1, s.accepted, ?_⟩
    simp only [solo_succ, solo_zero, LiveSession.step, registerNodeStep, hidentity, Prod.map,
      afterRegisterNode, id]
    rw [s.fail_pc, ← s.fail_accepted s.accepted]
  | ok _ =>
    have hnode : (connectedNode env s.peer s.transport s.nodeId metadata publicKey).nodeId =
        s.nodeId := rfl
    simp only
    cases hput : env.putNode s.nodeId with
    | error e =>
      refine ⟨5, true, ?_⟩
      simp only [solo_succ, solo_zero, LiveSession.step, registerNodeStep, hidentity, Prod.map,
        afterRegisterNode, id, hnode, hput, activateSession]
      unfold fail
      cases s.transport <;> rfl
    | ok _ =>
      refine ⟨6, true, ?_⟩
      simp only [solo_succ, solo_zero, LiveSession.step, registerNodeStep, hidentity, Prod.map,
        afterRegisterNode, id, hnode, hput, activateSession]

/-- **A live session alone takes the turns of its handler.** -/
theorem turn_solo (cfg : RelayConfig) (env : Env) (st : AppState) (s : LiveSession)
    (hs : s.pc = .loop) :
    ∃ m accepted, solo (LiveSession.step cfg) env m (st, s) =
      s.turned accepted
        (turn cfg s.peer s.kind s.nodeId s.transport s.registeredNode env st) := by
  -- reading the frame is the first section
  have hread (m : Nat) : solo (LiveSession.step cfg) env (m + 1) (st, s) =
      solo (LiveSession.step cfg) env m (st, s.read env) := by
    rw [solo_succ]
    simp only [LiveSession.step, hs]
  have hfail (e : String) : s.fail e = { s.fail e with accepted := s.accepted } := by
    rw [← s.fail_accepted s.accepted]
  cases hin : env.input with
  | error e =>
    refine ⟨1, s.accepted, ?_⟩
    rw [hread, solo_zero]
    simp only [read, turn, hin, turned, leave]
    rw [← hfail]
  | ok frame =>
    cases frame with
    | registerNode metadata publicKey =>
      cases hvalid : metadata.metadata.validate with
      | error e =>
        refine ⟨1, s.accepted, ?_⟩
        rw [hread, solo_zero]
        simp only [read, turn, hin, hvalid, registerNode, turned, leave]
        rw [← hfail]
      | ok _ =>
        obtain ⟨m, accepted, hm⟩ := s.registerNode_solo cfg env st hvalid publicKey
        refine ⟨m + 1, accepted, ?_⟩
        rw [hread]
        simp only [read, turn, hin, hvalid]
        rw [hm]
        generalize registerNode env s.peer s.transport (s.transport.session s.peer.connection)
          s.kind s.nodeId metadata publicKey st = registered
        obtain ⟨st', _ | _⟩ := registered <;> rfl
    | registerService service =>
      by_cases hrefused : (!s.registeredNode || service.nodeId != s.nodeId) = true
      · refine ⟨1, s.accepted, ?_⟩
        rw [hread, solo_zero]
        simp only [read, turn, hin, publish, if_pos hrefused]
        exact s.replied_turned env _ st
      · obtain ⟨m, hm⟩ := s.register_solo cfg env st service
        refine ⟨m + 1, s.accepted, ?_⟩
        rw [hread]
        simp only [read, turn, hin, publish, if_neg hrefused]
        rw [hm]
        generalize registerService cfg env service s.nodeId st = registered
        obtain ⟨st', _ | _⟩ := registered <;> exact s.replied_turned env _ st'
    | unregisterService serviceId =>
      obtain ⟨m, hm⟩ := s.unregister_solo cfg env st serviceId
      refine ⟨m + 1, s.accepted, ?_⟩
      rw [hread]
      simp only [read, turn, hin]
      rw [hm]
      generalize unregisterService env serviceId s.nodeId st = unregistered
      obtain ⟨st', e | _⟩ := unregistered
      · exact congrArg (st', ·) (hfail e)
      · rfl
    | heartbeat snapshot =>
      obtain ⟨m, hm⟩ := s.heartbeat_solo cfg env st snapshot
      refine ⟨m + 1, s.accepted, ?_⟩
      rw [hread]
      simp only [read, turn, hin]
      rw [hm]
      generalize recordHeartbeat env s.nodeId snapshot st = recorded
      obtain ⟨st', e | _⟩ := recorded
      · exact congrArg (st', ·) (hfail e)
      · exact s.replied_turned env _ st'
    | goodbye =>
      refine ⟨1, s.accepted, ?_⟩
      rw [hread, solo_zero]
      simp only [read, turn, hin, turned, leave]
    | hello | auth | authAccepted | authRejected | registerServiceAccepted | serviceList
    | heartbeatAck | openStream | openStreamAck | streamData | closeStream | error =>
      refine ⟨1, s.accepted, ?_⟩
      rw [hread, solo_zero]
      simp only [read, turn, hin]
      exact s.replied_turned env _ st

/-- A clean-up inside a session ends it, with the clean-up's error if it has one. -/
theorem cleanUp_solo (cfg : RelayConfig) (env : Env) (st : AppState) (s : LiveSession)
    (result : Outcome) :
    ∃ m, solo (LiveSession.step cfg) env m (st, { s with pc := .ending .check result }) =
      ((cleanUp env s.nodeId s.peer.sessionId st).1,
        match (cleanUp env s.nodeId s.peer.sessionId st).2 with
        | .ok _ => { s with pc := .finished result }
        | .error e => { s with pc := .finished (.error e) }) := by
  have hexits := solo_exits (cleanUpStep s.transport s.nodeId s.peer.sessionId)
    (LiveSession.step cfg) (fun pc => { s with pc := .ending pc result }) (s.afterCleanUp result)
    CleanUpPc.returned env ?_ ?_ 5 st .check rfl ?_
  · rw [cleanUpStep_solo] at hexits
    obtain ⟨m, hm⟩ := hexits
    refine ⟨m, hm.trans ?_⟩
    cases (cleanUp env s.nodeId s.peer.sessionId st).2 <;> rfl
  · intro st pc _
    simp only [LiveSession.step]
    generalize cleanUpStep s.transport s.nodeId s.peer.sessionId env st pc = next
    obtain ⟨st', pc'⟩ := next
    cases pc' with
    | done result => cases result <;> rfl
    | _ => rfl
  · intro st pc hpc
    cases pc with
    | done result => rfl
    | _ => cases hpc
  · rw [cleanUpStep_solo]
    rfl

/-- A Yamux session alone runs its loop and stands before its clean-up. -/
theorem yamux_alone (cfg : RelayConfig) (frames : List Env) :
    ∀ (st : AppState) (s : LiveSession), s.transport = .tcpTlsYamux → s.pc = .loop →
      ∃ envs registeredNode accepted, alone (LiveSession.step cfg) (st, s) envs =
        ((yamuxLoop cfg s.peer s.kind s.nodeId s.registeredNode st frames).server,
          { s with
            registeredNode, accepted
            pc := .ending .check
              (yamuxLoop cfg s.peer s.kind s.nodeId s.registeredNode st frames).result }) := by
  induction frames with
  | nil =>
    intro st s htransport hpc
    refine ⟨[{}], s.registeredNode, s.accepted, ?_⟩
    simp only [alone_cons, alone_nil, step, hpc, read, fail, htransport, yamuxLoop]
  | cons env rest ih =>
    intro st s htransport hpc
    obtain ⟨m, accepted, hm⟩ := s.turn_solo cfg env st hpc
    rw [htransport, ← alone_replicate] at hm
    rw [yamuxLoop_turn]
    generalize turn cfg s.peer s.kind s.nodeId .tcpTlsYamux s.registeredNode env st = taken at hm
    cases taken with
    | goes replies registeredNode st' =>
      obtain ⟨envs, registered', accepted', hrest⟩ :=
        ih st' { s with registeredNode, accepted, pc := .loop } htransport rfl
      refine ⟨List.replicate m env ++ envs, registered', accepted', ?_⟩
      rw [alone_append, hm]
      exact hrest
    | leaves result st' =>
      refine ⟨List.replicate m env, s.registeredNode, accepted, ?_⟩
      rw [hm]
      cases result <;> simp only [turned, leave, fail, htransport]

/-- A QUIC session alone runs its loop to its end. -/
theorem quic_alone (cfg : RelayConfig) (ending : Env) (frames : List Env) :
    ∀ (st : AppState) (s : LiveSession), s.transport = .quic → s.pc = .loop →
      ∃ envs registeredNode accepted, alone (LiveSession.step cfg) (st, s) envs =
        ((quicLoop cfg s.peer s.kind s.nodeId ending s.registeredNode st frames).server,
          { s with
            registeredNode, accepted
            pc := .finished
              (quicLoop cfg s.peer s.kind s.nodeId ending s.registeredNode st frames).result }) := by
  induction frames with
  | nil =>
    intro st s htransport hpc
    refine ⟨[{}], s.registeredNode, s.accepted, ?_⟩
    simp only [alone_cons, alone_nil, step, hpc, read, fail, htransport, quicLoop]
  | cons env rest ih =>
    intro st s htransport hpc
    obtain ⟨m, accepted, hm⟩ := s.turn_solo cfg env st hpc
    rw [htransport, ← alone_replicate] at hm
    rw [quicLoop_turn]
    generalize turn cfg s.peer s.kind s.nodeId .quic s.registeredNode env st = taken at hm
    cases taken with
    | goes replies registeredNode st' =>
      obtain ⟨envs, registered', accepted', hrest⟩ :=
        ih st' { s with registeredNode, accepted, pc := .loop } htransport rfl
      refine ⟨List.replicate m env ++ envs, registered', accepted', ?_⟩
      rw [alone_append, hm]
      exact hrest
    | leaves result st' =>
      cases result with
      | error e =>
        refine ⟨List.replicate m env, s.registeredNode, accepted, ?_⟩
        rw [hm]
        simp only [turned, leave, fail, htransport]
      | ok _ =>
        -- Goodbye, the one way to the clean-up
        obtain ⟨n, hn⟩ := cleanUp_solo cfg ending st' { s with accepted } (.ok ())
        refine ⟨List.replicate m env ++ List.replicate n ending, s.registeredNode, accepted, ?_⟩
        rw [alone_append, hm, alone_replicate]
        simp only [turned, leave]
        refine hn.trans ?_
        simp only
        generalize cleanUp ending s.nodeId s.peer.sessionId st' = cleaned
        obtain ⟨server, _ | _⟩ := cleaned <;> rfl

end LiveSession

/-! ## Whole sessions -/

/-- How the task has returned, once it has. -/
def SessionTask.result : SessionTask → Option Outcome
  | live s =>
    match s.pc with
    | .finished result => some result
    | _ => none
  | refused _ reason => some (.error reason)
  | hello _ _ | auth _ _ => none

/-- **The handshake alone.** Hello and Auth lead a session to life as `handshake`
says, or to the refusal with its error, and leave the server as it was. -/
theorem handshake_sections (cfg : RelayConfig) (hello auth : Env) (st : AppState) (peer : Peer)
    (transport : TransportKind) :
    (∃ token kind nodeId, auth.input = .ok (.auth token nodeId) ∧
      (handshake cfg st hello auth).2 = .ok (kind, nodeId) ∧
      SessionTask.step cfg auth st (SessionTask.step cfg hello st (.hello peer transport)).2 =
        (st, .live { peer, transport, kind, hash := cfg.hashToken token, nodeId })) ∨
    ∃ e, (handshake cfg st hello auth).2 = .error e ∧
      SessionTask.step cfg auth st (SessionTask.step cfg hello st (.hello peer transport)).2 =
        (st, .refused peer e) := by
  unfold handshake
  cases hhello : hello.input with
  | error e =>
    right
    exact ⟨e, rfl, by simp only [SessionTask.step, hhello]⟩
  | ok frame =>
    cases frame with
    | hello version =>
      cases hwrite : hello.write with
      | error e =>
        right
        refine ⟨e, ?_, by simp only [SessionTask.step, hhello, hwrite]⟩
        simp only
        split <;> rfl
      | ok _ =>
        by_cases hversion : version = protocolVersion
        · simp only [SessionTask.step, hhello, hwrite, if_pos hversion]
          cases hauth : auth.input with
          | error e =>
            right
            exact ⟨e, rfl, rfl⟩
          | ok frame =>
            cases frame with
            | auth token nodeId =>
              cases hkind : authenticateToken cfg st token with
              | none =>
                right
                cases auth.write with
                | error e => exact ⟨e, by simp only [hkind], rfl⟩
                | ok _ =>
                  exact ⟨"client authentication rejected", by simp only [hkind],
                    by simp only [hkind]⟩
              | some kind =>
                cases auth.write with
                | error e =>
                  right
                  exact ⟨e, by simp only [hkind], rfl⟩
                | ok _ =>
                  left
                  exact ⟨token, kind, nodeId, rfl, by simp only [hkind], by simp only [hkind]⟩
            | _ =>
              right
              cases auth.write <;> exact ⟨_, rfl, rfl⟩
        · right
          simp only [SessionTask.step, hhello, hwrite, if_neg hversion]
          exact ⟨_, rfl, rfl⟩
    | _ =>
      right
      simp only [SessionTask.step, hhello]
      cases hello.write <;> exact ⟨_, rfl, rfl⟩

/-- The handler of a transport. -/
def handleConnection (transport : TransportKind) : RelayConfig → Peer → ControlStream → AppState →
    Served :=
  match transport with
  | .quic => handleQuicConnection
  | .tcpTlsYamux => handleYamuxSession

theorem SessionTask.alone_live (cfg : RelayConfig) (envs : List Env) (st : AppState)
    (s : LiveSession) :
    alone (SessionTask.step cfg) (st, .live s) envs =
      (alone (LiveSession.step cfg) (st, s) envs).map id .live := by
  induction envs generalizing st s with
  | nil => rfl
  | cons env rest ih => exact ih (s.step cfg env st).1 (s.step cfg env st).2

/-- **A session alone does what its handler does.** -/
theorem session_alone (cfg : RelayConfig) (transport : TransportKind) (peer : Peer)
    (stream : ControlStream) (st : AppState) :
    ∃ envs, (alone (SessionTask.step cfg) (st, .hello peer transport) envs).1 =
        (handleConnection transport cfg peer stream st).server ∧
      (alone (SessionTask.step cfg) (st, .hello peer transport) envs).2.result =
        some (handleConnection transport cfg peer stream st).result := by
  have hshaken (envs : List Env) :
      alone (SessionTask.step cfg) (st, .hello peer transport)
          (stream.hello :: stream.auth :: envs) =
        alone (SessionTask.step cfg) (SessionTask.step cfg stream.auth st
          (SessionTask.step cfg stream.hello st (.hello peer transport)).2) envs := rfl
  have hcases := handshake_sections cfg stream.hello stream.auth st peer transport
  generalize hshake : handshake cfg st stream.hello stream.auth = shaken at hcases
  obtain ⟨replies, result⟩ := shaken
  rcases hcases with ⟨token, kind, nodeId, -, hresult, hlive⟩ | ⟨e, hresult, hrefused⟩
  · cases hresult
    let s : LiveSession := { peer, transport, kind, hash := cfg.hashToken token, nodeId }
    cases transport with
    | quic =>
      obtain ⟨envs, registeredNode, accepted, hloop⟩ :=
        LiveSession.quic_alone cfg stream.ending stream.frames st s rfl rfl
      refine ⟨stream.hello :: stream.auth :: envs, ?_⟩
      rw [hshaken, hlive, SessionTask.alone_live, hloop]
      simp only [handleConnection, handleQuicConnection, hshake]
      exact ⟨rfl, rfl⟩
    | tcpTlsYamux =>
      obtain ⟨envs, registeredNode, accepted, hloop⟩ :=
        LiveSession.yamux_alone cfg stream.frames st s rfl rfl
      obtain ⟨n, hclean⟩ := LiveSession.cleanUp_solo cfg stream.ending
        (yamuxLoop cfg peer kind nodeId false st stream.frames).server
        { s with registeredNode, accepted }
        (yamuxLoop cfg peer kind nodeId false st stream.frames).result
      have hsession := alone_append (LiveSession.step cfg) (st, s) envs
        (List.replicate n stream.ending)
      rw [hloop, alone_replicate] at hsession
      refine ⟨stream.hello :: stream.auth :: (envs ++ List.replicate n stream.ending), ?_⟩
      rw [hshaken, hlive, SessionTask.alone_live, hsession.trans hclean]
      simp only [handleConnection, handleYamuxSession, hshake, Served.after]
      generalize cleanUp stream.ending nodeId peer.sessionId
        (yamuxLoop cfg peer kind nodeId false st stream.frames).server = cleaned
      obtain ⟨server, _ | _⟩ := cleaned <;> exact ⟨rfl, rfl⟩
  · cases hresult
    refine ⟨[stream.hello, stream.auth], ?_⟩
    rw [hshaken, hrefused]
    cases transport with
    | quic =>
      simp only [handleConnection, handleQuicConnection, hshake]
      exact ⟨rfl, rfl⟩
    | tcpTlsYamux =>
      simp only [handleConnection, handleYamuxSession, hshake]
      exact ⟨rfl, rfl⟩

end OngrokRelay
