import OngrokRelay.ClientRetry
import OngrokRelay.ControlPlane
import OngrokRelay.DataStream

/-
  The client's session program against the server's handler.

  The two are joined by a queue of frames for each direction. A read takes the head
  of its queue, or fails as a read of a broken stream does. The server's sections may
  run in any state of the server, whatever its other tasks have made of it.

  Replies carry no request id. A frame is paired with the request it answers by
  counting: what the client awaits is what has been answered and not read, what the
  handler is at work on, or what a frame still in the queue asks for.

  1. `SessionTask.writes`: the frame that a section of the handler writes.
  2. `Aligned.serve`, `Aligned.act`: a section of the handler and an await of the
     client keep the pairing.
  3. `lockstep`: the next frame the client reads is one it expects, in every state of
     every run, and no data stream is acknowledged by a frame the server calls invalid.

  Correspondence (Rust ↔ Lean):
    `run_quic`, `run_yamux` over their streams   ↔ `SessionClient.act`
    `handle_quic_connection`, `handle_yamux_session` over theirs   ↔ `SessionTask.step`,
      `SessionTask.writes`
-/

namespace OngrokRelay

open Interleaving Transition

/-! ## What the handler reads and writes -/

/-- The frame that the section writes, when there is one. -/
def LiveSession.writes (cfg : RelayConfig) (env : Env) (st : AppState) (s : LiveSession) :
    Option Frame :=
  match s.pc with
  | .loop =>
    match env.input with
    | .error _ => none
    | .ok (.registerNode _ _) | .ok (.unregisterService _) | .ok (.heartbeat _) | .ok .goodbye => none
    | .ok (.registerService service) =>
      if !s.registeredNode || service.nodeId != s.nodeId then
        some (.error "node must be registered before publishing services")
      else none
    | .ok _ => some (.error "unsupported control frame")
  | .registerService pc =>
    match (registerStep cfg s.nodeId env st pc).2 with
    | .done (.ok service) => some (.registerServiceAccepted service)
    | .done (.error message) => some (.error message)
    | _ => none
  | .heartbeat sequence pc =>
    match (heartbeatStep s.nodeId env st pc).2 with
    | .done (.ok _) => some (.heartbeatAck sequence env.replyTime)
    | _ => none
  | .registerNode _ | .unregisterService _ _ | .ending _ _ | .finished _ => none

namespace SessionTask

def writes (cfg : RelayConfig) (env : Env) (st : AppState) : SessionTask → Option Frame
  | hello _ _ =>
    match env.input with
    | .ok (.hello version) =>
      if version = protocolVersion then some (.hello protocolVersion)
      else some (.error "unsupported protocol version")
    | _ => none
  | auth _ _ =>
    match env.input with
    | .ok (.auth token _) =>
      match authenticateToken cfg st token with
      | some kind => some (.authAccepted kind)
      | none => some .authRejected
    | _ => none
  | live s => s.writes cfg env st
  | refused _ _ => none

/-- The frames that go out: none when the write fails. -/
def sends (cfg : RelayConfig) (env : Env) (st : AppState) (task : SessionTask) : List Frame :=
  match env.write with
  | .ok _ => (task.writes cfg env st).toList
  | .error _ => []

/-- The section reads a frame. -/
def reads : SessionTask → Bool
  | hello _ _ | auth _ _ => true
  | live s => s.pc == .loop
  | refused _ _ => false

end SessionTask

/-! ## The client over its streams -/

/-- What happens to the client: an await other than a read completes, the next frame
is read, or the read fails. -/
inductive ClientAct
  | completes (result : Except String Unit)
  | delivers
  | fails (e : String)

/-- The session program with its `local_services` and the two directions of its
control stream. -/
structure SessionClient where
  program : Poll := .pending { pc := .connect }
  localServices : BTreeMap ServiceId String := ∅
  /-- The service of the reply that is being stored. -/
  accepted : Option ServiceDefinition := none
  toServer : List Frame := []
  toClient : List Frame := []
  deriving DecidableEq

/-- The frames a program has written. -/
def Poll.sent : Poll → List Frame
  | .pending session => session.sent
  | .ready _ => []

namespace SessionClient

/-- `local_services` once the program has stored what was accepted. -/
def stored (cfg : ClientConfig) (c : SessionClient) (session : QuicSession) :
    BTreeMap ServiceId String :=
  match session.pc, c.accepted, cfg.service with
  | .storeService, some service, some published =>
    c.localServices.insert service.serviceId published.localAddress
  | _, _, _ => c.localServices

/-- The service of the reply, in the reply to RegisterService. -/
def accepts (c : SessionClient) (session : QuicSession) (frame : Frame) : Option ServiceDefinition :=
  match session.pc, frame with
  | .readService, .registerServiceAccepted service => some service
  | _, _ => c.accepted

def act (cfg : ClientConfig) (c : SessionClient) (act : ClientAct) : SessionClient :=
  match c.program, act with
  | .ready _, _ => c
  | .pending session, .completes result =>
    let program := session.completes cfg result
    { c with
      program
      localServices := c.stored cfg session
      toServer := c.toServer ++ program.sent.drop session.sent.length }
  | .pending session, .delivers =>
    if session.pc.reading then
      match c.toClient with
      | [] => c
      | frame :: rest =>
        { c with
          program := session.received cfg frame
          accepted := c.accepts session frame
          toClient := rest }
    else c
  | .pending session, .fails e => { c with program := session.reads cfg (.error e) }

end SessionClient

/-! ## One session -/

/-- The handler of a connection and the client at its other end. -/
structure ControlLink where
  server : SessionTask
  client : SessionClient := {}

/-- The environment of a section that reads takes its frame from the queue. -/
def SessionClient.input (c : SessionClient) (task : SessionTask) (env : Env) :
    Option (Env × List Frame) :=
  if task.reads then
    match env.input, c.toServer with
    | .error _, _ => some (env, c.toServer)
    | .ok _, [] => none
    | .ok _, frame :: rest => some ({ env with input := .ok frame }, rest)
  else some (env, c.toServer)

/-- A connection is made over the transport. `run_yamux` has its connection before its
session begins. -/
def ControlLink.begin (peer : Peer) (transport : TransportKind) : ControlLink where
  server := .hello peer transport
  client := { program := .pending { pc := match transport with
    | .quic => .connect
    | .tcpTlsYamux => .openStream } }

inductive LinkEvent
  | server (env : Env) (st : AppState)
  | client (act : ClientAct)

def ControlLink.next (cfg : RelayConfig) (client : ClientConfig) (l : ControlLink) :
    LinkEvent → ControlLink
  | .client act => { l with client := l.client.act client act }
  | .server env st =>
    match l.client.input l.server env with
    | none => l
    | some (env, toServer) =>
      { server := (l.server.step cfg env st).2
        client := { l.client with
          toServer
          toClient := l.client.toClient ++ l.server.sends cfg env st } }

/-! ## What the two wait for -/

/-- The reply is one that the await knows what to do with. -/
def QuicPc.expects (pc : QuicPc) (frame : Frame) : Bool :=
  match pc with
  | .readHello =>
    match frame with
    | .hello version => version == protocolVersion
    | .error _ => true
    | _ => false
  | .readAuth =>
    match frame with
    | .authAccepted _ | .authRejected => true
    | _ => false
  | .readService =>
    match frame with
    | .registerServiceAccepted _ | .error _ => true
    | _ => false
  | .readAck sequence =>
    match frame with
    | .heartbeatAck ack _ => ack == sequence
    | _ => false
  | _ => false

/-- What a frame of a session asks for, past the handshake. -/
inductive Request
  | service
  | ack (sequence : UInt64)
  deriving DecidableEq

def Request.answeredBy : Request → Frame → Bool
  | .service, .registerServiceAccepted _ | .service, .error _ => true
  | .ack sequence, .heartbeatAck answered _ => answered == sequence
  | _, _ => false

def Frame.request : Frame → Option Request
  | .registerService _ => some .service
  | .heartbeat snapshot => some (.ack snapshot.sequence)
  | _ => none

/-- The request the handler is at work on. -/
def SessionPc.owes : SessionPc → Option Request
  | .registerService _ => some .service
  | .heartbeat sequence _ => some (.ack sequence)
  | _ => none

def QuicPc.awaits : QuicPc → Option Request
  | .readService => some .service
  | .readAck sequence => some (.ack sequence)
  | _ => none

/-- The frames a client sends once it is authenticated. -/
def Frame.inSession : Frame → Bool
  | .registerNode _ _ | .registerService _ | .heartbeat _ | .goodbye => true
  | _ => false

/-- The handler is in its loop, at one of the frames of a client. -/
def SessionPc.serving : SessionPc → Bool
  | .loop | .registerNode _ | .registerService _ | .heartbeat _ _ => true
  | _ => false

/-- The handler has left its loop. -/
def SessionPc.left : SessionPc → Bool
  | .ending _ _ | .finished _ => true
  | _ => false

def SessionTask.ended : SessionTask → Bool
  | refused _ _ => true
  | live s => s.pc.left
  | _ => false

def QuicPc.greeting : QuicPc → Bool
  | .connect | .openStream | .sendHello => true
  | _ => false

def QuicPc.inSession : QuicPc → Bool
  | .connect | .openStream | .sendHello | .readHello | .sendAuth | .readAuth => false
  | _ => true

theorem QuicPc.expects_iff {pc : QuicPc} (h : pc.inSession) (frame : Frame) :
    pc.expects frame = true ↔ ∃ request, pc.awaits = some request ∧ request.answeredBy frame := by
  cases pc with
  | readService => cases frame <;> simp [expects, awaits, Request.answeredBy]
  | readAck sequence => cases frame <;> simp [expects, awaits, Request.answeredBy]
  | connect | openStream | sendHello | readHello | sendAuth | readAuth => cases h
  | sendNode | sendService service | storeService | sendHeartbeat sequence | sendGoodbye
  | sleep sequence | join => cases frame <;> simp [expects, awaits]

theorem QuicPc.awaits_none {pc : QuicPc} (h : pc.reading = false) : pc.awaits = none := by
  cases pc with
  | readHello | readAuth | readService | readAck sequence => cases h
  | _ => rfl

theorem QuicPc.reading_of_expects {pc : QuicPc} {frame : Frame} (h : pc.expects frame) :
    pc.reading = true := by
  cases pc with
  | readHello | readAuth | readService | readAck sequence => rfl
  | _ => cases frame <;> cases h

/-! ## The handler's sections -/

/-- The request that the section is about: that of the frame it reads, or the one it
is at work on. -/
def LiveSession.due (env : Env) (s : LiveSession) : Option Request :=
  match s.pc, env.input with
  | .loop, .ok frame => frame.request
  | pc, _ => pc.owes

/-- What a section of a serving session comes to. -/
inductive SectionResult (s' : LiveSession) (sends : List Frame) (due : Option Request) : Prop
  | working (serving : s'.pc.serving) (sends : sends = []) (owes : s'.pc.owes = due)
  | replied (loop : s'.pc = .loop) (frame : Frame) (request : Request) (sends : sends = [frame])
      (due : due = some request) (answered : request.answeredBy frame)
  | left (left : s'.pc.left) (sends : sends = [])

namespace LiveSession

variable {cfg : RelayConfig} {env : Env} {st : AppState} {s : LiveSession}

theorem fail_left (s : LiveSession) (e : String) : (s.fail e).pc.left := by
  unfold fail
  split <;> rfl

/-- A reply goes out and the loop goes on, or the session is left. -/
theorem replied_result (s : LiveSession) (env : Env) {frame : Frame} {request : Request}
    (h : request.answeredBy frame) : SectionResult (s.replied env)
      (match env.write with
        | .ok _ => [frame]
        | .error _ => []) (some request) := by
  unfold replied
  cases env.write with
  | error e => exact .left (s.fail_left e) rfl
  | ok _ => exact .replied rfl frame request rfl rfl h

theorem sends_none {task : SessionTask} (h : task.writes cfg env st = none) :
    task.sends cfg env st = [] := by
  unfold SessionTask.sends
  rw [h]
  split <;> rfl

theorem sends_some {task : SessionTask} (frame : Frame) (h : task.writes cfg env st = some frame) :
    task.sends cfg env st = match env.write with
      | .ok _ => [frame]
      | .error _ => [] := by
  unfold SessionTask.sends
  rw [h]
  rfl

/-- A read that fails is the end of the loop. -/
theorem failed_read (cfg : RelayConfig) (st : AppState) {e : String} (hpc : s.pc = .loop)
    (hin : env.input = .error e) :
    (s.step cfg env st).2.pc.left ∧ SessionTask.sends cfg env st (.live s) = [] := by
  refine ⟨?_, sends_none ?_⟩
  · simp only [step, hpc, read, hin]
    exact s.fail_left e
  · simp only [SessionTask.writes, writes, hpc, hin]

/-- **One section of a serving session** pays what it owes, owes it still, or the
session is left. -/
theorem section_result (cfg : RelayConfig) (st : AppState) (hserving : s.pc.serving)
    (hinput : s.pc = .loop → (∃ e, env.input = .error e) ∨
      ∃ frame, env.input = .ok frame ∧ frame.inSession) :
    SectionResult (s.step cfg env st).2 (SessionTask.sends cfg env st (.live s)) (s.due env) := by
  cases hpc : s.pc with
  | loop =>
    have hstep : (s.step cfg env st).2 = s.read env := by simp only [step, hpc]
    rw [hstep]
    rcases hinput hpc with ⟨e, hin⟩ | ⟨frame, hin, hframe⟩
    · obtain ⟨hleft, hsends⟩ := failed_read cfg st hpc hin
      exact .left (hstep ▸ hleft) hsends
    · simp only [due, hpc, hin]
      cases frame with
      | registerNode metadata publicKey =>
        have hsends : SessionTask.sends cfg env st (.live s) = [] :=
          sends_none (by simp only [SessionTask.writes, writes, hpc, hin])
        simp only [read, hin]
        split
        · exact .left (s.fail_left _) hsends
        · exact .working rfl hsends rfl
      | registerService service =>
        simp only [read, hin]
        by_cases hrefused : (!s.registeredNode || service.nodeId != s.nodeId) = true
        · rw [if_pos hrefused, sends_some
            (.error "node must be registered before publishing services")
            (by simp only [SessionTask.writes, writes, hpc, hin, if_pos hrefused])]
          exact s.replied_result env rfl
        · rw [if_neg hrefused]
          refine .working rfl (sends_none ?_) rfl
          simp only [SessionTask.writes, writes, hpc, hin, if_neg hrefused]
      | heartbeat snapshot =>
        simp only [read, hin]
        exact .working rfl (sends_none (by simp only [SessionTask.writes, writes, hpc, hin])) rfl
      | goodbye =>
        simp only [read, hin]
        exact .left rfl (sends_none (by simp only [SessionTask.writes, writes, hpc, hin]))
      | _ => cases hframe
  | registerNode pc =>
    have hsends : SessionTask.sends cfg env st (.live s) = [] :=
      sends_none (by simp only [SessionTask.writes, writes, hpc])
    simp only [step, hpc, Prod.map_snd, due]
    unfold afterRegisterNode
    split
    · exact .working rfl hsends rfl
    · exact .left (s.fail_left _) hsends
    · exact .working rfl hsends rfl
    · exact .working rfl hsends rfl
  | registerService pc =>
    simp only [step, hpc, Prod.map_snd, due]
    unfold afterRegisterService
    split
    · rename_i result hdone
      cases result with
      | ok service =>
        rw [sends_some (.registerServiceAccepted service)
          (by simp only [SessionTask.writes, writes, hpc, hdone])]
        exact s.replied_result env rfl
      | error message =>
        rw [sends_some (.error message)
          (by simp only [SessionTask.writes, writes, hpc, hdone])]
        exact s.replied_result env rfl
    · rename_i hworking
      refine .working rfl (sends_none ?_) rfl
      simp only [SessionTask.writes, writes, hpc]
      split
      · rename_i hdone
        exact absurd hdone (hworking _)
      · rename_i hdone
        exact absurd hdone (hworking _)
      · rfl
  | heartbeat sequence pc =>
    simp only [step, hpc, Prod.map_snd, due]
    unfold afterHeartbeat
    split
    · rename_i hdone
      rw [sends_some (.heartbeatAck sequence env.replyTime)
        (by simp only [SessionTask.writes, writes, hpc, hdone])]
      exact s.replied_result env (beq_self_eq_true sequence)
    · rename_i hdone
      refine .left (s.fail_left _) (sends_none ?_)
      simp only [SessionTask.writes, writes, hpc, hdone]
    · refine .working rfl (sends_none ?_) rfl
      simp only [SessionTask.writes, writes, hpc]
  | unregisterService serviceId pc | ending pc result | finished result =>
    rw [hpc] at hserving
    cases hserving

/-- A session that has left its loop does not come back, and writes nothing. -/
theorem left_result (hleft : s.pc.left) : (s.step cfg env st).2.pc.left ∧
    SessionTask.sends cfg env st (.live s) = [] := by
  cases hpc : s.pc with
  | ending pc result =>
    refine ⟨?_, sends_none (by simp only [SessionTask.writes, writes, hpc])⟩
    simp only [step, hpc, Prod.map_snd, afterCleanUp]
    split <;> rfl
  | finished result =>
    refine ⟨?_, sends_none (by simp only [SessionTask.writes, writes, hpc])⟩
    rw [step, hpc]
    exact hleft
  | loop | registerNode pc | registerService pc | unregisterService serviceId pc
  | heartbeat sequence pc =>
    rw [hpc] at hleft
    cases hleft

end LiveSession

/-! ## The pairing -/

/-- Where the handler is, where the client is, and the frames between them. -/
inductive Aligned : SessionTask → QuicPc → List Frame → List Frame → Prop
  | greeting {peer : Peer} {transport : TransportKind} {pc : QuicPc} (greeting : pc.greeting) :
    Aligned (.hello peer transport) pc [] []
  | helloSent {peer : Peer} {transport : TransportKind} :
    Aligned (.hello peer transport) .readHello [.hello protocolVersion] []
  | helloAnswered {peer : Peer} {transport : TransportKind} :
    Aligned (.auth peer transport) .readHello [] [.hello protocolVersion]
  | welcomed {peer : Peer} {transport : TransportKind} :
    Aligned (.auth peer transport) .sendAuth [] []
  | authSent {peer : Peer} {transport : TransportKind} {token : String} {nodeId : NodeId} :
    Aligned (.auth peer transport) .readAuth [.auth token nodeId] []
  | authAnswered {s : LiveSession} {kind : TokenKind} (loop : s.pc = .loop) :
    Aligned (.live s) .readAuth [] [.authAccepted kind]
  /-- What the client awaits is what the handler is at work on, or what a frame it has
  still to read asks for. -/
  | running {s : LiveSession} {pc : QuicPc} {queue : List Frame} (serving : s.pc.serving)
      (session : pc.inSession) (frames : ∀ frame ∈ queue, frame.inSession)
      (owed : s.pc.owes.toList ++ queue.filterMap Frame.request = pc.awaits.toList) :
    Aligned (.live s) pc queue []
  | answered {s : LiveSession} {pc : QuicPc} {queue : List Frame} {frame : Frame}
      (serving : s.pc.serving) (session : pc.inSession) (frames : ∀ frame ∈ queue, frame.inSession)
      (owed : s.pc.owes.toList ++ queue.filterMap Frame.request = [])
      (expected : pc.expects frame) : Aligned (.live s) pc queue [frame]
  | ended {task : SessionTask} {pc : QuicPc} {queue : List Frame} (ended : task.ended) :
    Aligned task pc queue []
  | endedAnswered {task : SessionTask} {pc : QuicPc} {queue : List Frame} {frame : Frame}
      (ended : task.ended) (expected : pc.expects frame) : Aligned task pc queue [frame]

/-- **Every frame the client reads is expected.** -/
theorem Aligned.expected {task : SessionTask} {pc : QuicPc} {queue : List Frame} {frame : Frame}
    {rest : List Frame} (h : Aligned task pc queue (frame :: rest)) :
    pc.expects frame = true ∧ rest = [] := by
  cases h with
  | helloAnswered | authAnswered _ => exact ⟨rfl, rfl⟩
  | answered _ _ _ _ expected | endedAnswered _ expected => exact ⟨expected, rfl⟩

/-- A section that reads has a frame from the queue or an error; the others leave the
queue alone. -/
inductive Fed (task : SessionTask) (env : Env) (queue : List Frame) : List Frame → Prop
  | failed (e : String) (input : env.input = .error e) : Fed task env queue queue
  | quiet (reads : task.reads = false) : Fed task env queue queue
  | frame (reads : task.reads = true) (frame : Frame) (rest : List Frame)
      (input : env.input = .ok frame) (queued : queue = frame :: rest) : Fed task env queue rest

theorem SessionClient.input_fed {c : SessionClient} {task : SessionTask} {env env' : Env}
    {rest : List Frame} (h : c.input task env = some (env', rest)) : Fed task env' c.toServer rest := by
  unfold input at h
  split at h
  · rename_i hreads
    split at h
    · rename_i e hin
      cases h
      exact .failed e hin
    · cases h
    · rename_i _ frame rest _ hqueue
      cases h
      exact .frame hreads frame rest rfl hqueue
  · rename_i hreads
    cases h
    exact .quiet (Bool.eq_false_iff.mpr hreads)

section
variable {cfg : RelayConfig} {env : Env} {st : AppState} {task : SessionTask} {pc : QuicPc}
  {queue rest sent : List Frame}

/-- A session that is over stays over, and writes nothing. -/
theorem SessionTask.ended_step (cfg : RelayConfig) (env : Env) (st : AppState)
    {task : SessionTask} (h : task.ended) :
    (task.step cfg env st).2.ended ∧ task.sends cfg env st = [] := by
  cases task with
  | hello peer transport | auth peer transport => cases h
  | live s => exact LiveSession.left_result h
  | refused peer reason => exact ⟨rfl, LiveSession.sends_none rfl⟩

/-- What a serving session has to do with what it reads. -/
theorem LiveSession.due_fed {s : LiveSession} (hframes : ∀ frame ∈ queue, frame.inSession)
    (hfed : Fed (.live s) env queue rest) :
    (s.pc = .loop → (∃ e, env.input = .error e) ∨ ∃ frame, env.input = .ok frame ∧ frame.inSession) ∧
    (∀ frame ∈ rest, frame.inSession) ∧
    (s.due env).toList ++ rest.filterMap Frame.request =
      s.pc.owes.toList ++ queue.filterMap Frame.request := by
  cases hfed with
  | failed e input =>
    refine ⟨fun _ => .inl ⟨e, input⟩, hframes, ?_⟩
    unfold due
    split
    · rename_i hin
      rw [input] at hin
      cases hin
    · rfl
  | quiet reads =>
    have hloop : s.pc ≠ .loop := by
      intro hpc
      simp [SessionTask.reads, hpc] at reads
    refine ⟨fun hpc => absurd hpc hloop, hframes, ?_⟩
    unfold due
    split
    · rename_i hpc _
      exact absurd hpc hloop
    · rfl
  | frame reads frame _ input queued =>
    subst queued
    have hpc : s.pc = .loop := by
      simpa [SessionTask.reads] using reads
    have hframe := hframes frame List.mem_cons_self
    refine ⟨fun _ => .inr ⟨frame, input, hframe⟩,
      fun other hmem => hframes other (List.mem_cons_of_mem _ hmem), ?_⟩
    simp only [due, hpc, input, List.filterMap_cons]
    cases frame.request <;> rfl

/-- A section of the handshake takes a frame, or ends the session and writes nothing. -/
theorem Fed.handshake (h : Fed task env queue rest) (hreads : task.reads)
    (hlive : ∀ s, task ≠ .live s) :
    ((task.step cfg env st).2.ended ∧ task.sends cfg env st = []) ∨
      ∃ frame, env.input = .ok frame ∧ queue = frame :: rest := by
  cases h with
  | failed e input =>
    left
    cases task with
    | hello peer transport | auth peer transport =>
      refine ⟨?_, LiveSession.sends_none ?_⟩
      · simp only [SessionTask.step, input]
        rfl
      · simp only [SessionTask.writes, input]
    | live s => exact absurd rfl (hlive s)
    | refused peer reason => cases hreads
  | quiet reads =>
    rw [hreads] at reads
    cases reads
  | frame _ frame _ input queued => exact .inr ⟨frame, input, queued⟩

/-- **A section of the handler keeps the pairing.** -/
theorem Aligned.serve (h : Aligned task pc queue sent) (hfed : Fed task env queue rest) :
    Aligned (task.step cfg env st).2 pc rest (sent ++ task.sends cfg env st) := by
  cases h with
  | greeting greeting | welcomed =>
    rcases hfed.handshake rfl (by simp) with ⟨hended, hsends⟩ | ⟨frame, input, queued⟩
    · rw [hsends]
      exact .ended hended
    · cases queued
  | helloAnswered =>
    rcases hfed.handshake rfl (by simp) with ⟨hended, hsends⟩ | ⟨frame, input, queued⟩
    · rw [hsends]
      exact .endedAnswered hended rfl
    · cases queued
  | helloSent =>
    rcases hfed.handshake rfl (by simp) with ⟨hended, hsends⟩ | ⟨frame, input, queued⟩
    · rw [hsends]
      exact .ended hended
    · cases queued
      simp only [SessionTask.step, SessionTask.sends, SessionTask.writes, input, if_true]
      cases env.write with
      | error e => exact .ended rfl
      | ok _ => exact .helloAnswered
  | authSent =>
    rename_i token nodeId
    rcases hfed.handshake rfl (by simp) with ⟨hended, hsends⟩ | ⟨frame, input, queued⟩
    · rw [hsends]
      exact .ended hended
    · cases queued
      simp only [SessionTask.step, SessionTask.sends, SessionTask.writes, input]
      cases env.write with
      | error e => exact .ended rfl
      | ok _ =>
        cases hkind : authenticateToken cfg st token with
        | none =>
          simp only [hkind]
          exact .endedAnswered rfl rfl
        | some kind =>
          simp only [hkind]
          exact .authAnswered rfl
  | authAnswered loop =>
    rename_i s kind
    cases hfed with
    | failed e input =>
      obtain ⟨hleft, hsends⟩ := LiveSession.failed_read cfg st loop input
      rw [hsends]
      exact .endedAnswered hleft rfl
    | quiet reads => simp [SessionTask.reads, loop] at reads
    | frame _ frame _ input queued => cases queued
  | running serving session frames owed =>
    rename_i s
    show Aligned (.live (s.step cfg env st).2) _ _ _
    obtain ⟨hinput, hframes, howed⟩ := LiveSession.due_fed frames hfed
    rw [owed] at howed
    cases LiveSession.section_result cfg st serving hinput with
    | working serving sends owes =>
      rw [sends]
      exact .running serving session hframes (owes ▸ howed)
    | replied loop frame request sends due answered =>
      rw [due] at howed
      rw [sends]
      have hpair : pc.awaits = some request ∧ rest.filterMap Frame.request = [] := by
        cases hawaits : pc.awaits with
        | none => simp [hawaits] at howed
        | some other => simpa [hawaits, eq_comm] using howed
      refine .answered (by rw [loop]; rfl) session hframes ?_
        ((QuicPc.expects_iff session frame).mpr ⟨request, hpair.1, answered⟩)
      rw [loop, hpair.2]
      rfl
    | left left sends =>
      rw [sends]
      exact .ended left
  | answered serving session frames owed expected =>
    rename_i s frame
    show Aligned (.live (s.step cfg env st).2) _ _ _
    obtain ⟨hinput, hframes, howed⟩ := LiveSession.due_fed frames hfed
    rw [owed] at howed
    have hnone := List.append_eq_nil_iff.mp howed
    cases LiveSession.section_result cfg st serving hinput with
    | working serving sends owes =>
      rw [sends]
      exact .answered serving session hframes (owes ▸ howed) expected
    | replied loop frame request sends due answered =>
      rw [due] at hnone
      cases hnone.1
    | left left sends =>
      rw [sends]
      exact .endedAnswered left expected
  | ended hend =>
    obtain ⟨hended, hsends⟩ := SessionTask.ended_step cfg env st hend
    rw [hsends]
    exact .ended hended
  | endedAnswered hend expected =>
    obtain ⟨hended, hsends⟩ := SessionTask.ended_step cfg env st hend
    rw [hsends]
    exact .endedAnswered hended expected

end

/-! ## The client's awaits -/

/-- The texts of the branches that take no expected reply. -/
def invalidReplies : List String :=
  ["server sent an invalid Hello response", "server sent an invalid auth response",
    "server sent an invalid service registration response",
    "server sent an invalid heartbeat acknowledgement"]

namespace QuicSession

variable {cfg : ClientConfig} {s s' : QuicSession} {frame : Frame}

/-- The text of a rejection is none of those of an invalid reply. -/
theorem rejected_text (message : String) {text : String} (htext : text ∈ invalidReplies) :
    s!"server rejected protocol: {message}" ≠ text ∧
      s!"server rejected service: {message}" ≠ text := by
  have htexts : text.toList.take 8 = "server s".toList := by
    simp only [invalidReplies, List.mem_cons, List.not_mem_nil, or_false] at htext
    rcases htext with rfl | rfl | rfl | rfl <;> rfl
  constructor
  · intro heq
    rw [← heq, show s!"server rejected protocol: {message}" =
      "server rejected protocol: " ++ message from rfl] at htexts
    simp [String.toList_append] at htexts
  · intro heq
    rw [← heq, show s!"server rejected service: {message}" =
      "server rejected service: " ++ message from rfl] at htexts
    simp [String.toList_append] at htexts

/-- **The branches not taken.** A frame read is one the await does not expect exactly
when it takes the program into one of them. -/
theorem received_invalid_iff (hreading : s.pc.reading) :
    (∃ text ∈ invalidReplies, s.received cfg frame = .ready (.error text)) ↔
      s.pc.expects frame = false := by
  unfold received
  cases hpc : s.pc with
  | readHello =>
    cases frame with
    | hello version =>
      by_cases hversion : version = protocolVersion
      · refine iff_of_false ?_ (by simp [QuicPc.expects, hversion])
        simp [hversion, goto]
      · refine iff_of_true ⟨_, List.mem_cons_self, ?_⟩ (beq_eq_false_iff_ne.mpr hversion)
        simp only [if_neg hversion]
    | error message =>
      refine iff_of_false ?_ (by simp [QuicPc.expects])
      rintro ⟨text, htext, heq⟩
      simp only [Poll.ready.injEq, Except.error.injEq] at heq
      exact (rejected_text message htext).1 heq
    | _ => exact iff_of_true ⟨_, by simp [invalidReplies], rfl⟩ rfl
  | readAuth =>
    cases frame with
    | authAccepted kind => exact iff_of_false (by simp [goto]) (by simp [QuicPc.expects])
    | authRejected => exact iff_of_false (by simp [invalidReplies]) (by simp [QuicPc.expects])
    | _ => exact iff_of_true ⟨_, by simp [invalidReplies], rfl⟩ rfl
  | readService =>
    cases frame with
    | registerServiceAccepted service =>
      exact iff_of_false (by simp [goto]) (by simp [QuicPc.expects])
    | error message =>
      refine iff_of_false ?_ (by simp [QuicPc.expects])
      rintro ⟨text, htext, heq⟩
      simp only [Poll.ready.injEq, Except.error.injEq] at heq
      exact (rejected_text message htext).2 heq
    | _ => exact iff_of_true ⟨_, by simp [invalidReplies], rfl⟩ rfl
  | readAck sequence =>
    cases frame with
    | heartbeatAck ack serverTime =>
      by_cases hack : ack = sequence
      · refine iff_of_false ?_ (by simp [QuicPc.expects, hack])
        simp [hack]
      · refine iff_of_true ⟨"server sent an invalid heartbeat acknowledgement", ?_, ?_⟩
          (beq_eq_false_iff_ne.mpr hack)
        · simp [invalidReplies]
        · simp only [if_neg hack]
    | _ => exact iff_of_true ⟨_, by simp [invalidReplies], rfl⟩ rfl
  | _ =>
    rw [hpc] at hreading
    cases hreading

theorem completed_reading (h : s.pc.reading) : s.completed cfg = .pending s := by
  unfold completed
  cases hpc : s.pc with
  | readHello | readAuth | readService | readAck sequence => rfl
  | _ =>
    rw [hpc] at h
    cases h

theorem completed_of_completes {result : Except String Unit}
    (h : s.completes cfg result = .pending s') : s.completed cfg = .pending s' := by
  unfold completes at h
  cases result with
  | ok _ => exact h
  | error e =>
    cases hpc : s.pc with
    | storeService | sleep sequence | join =>
      simp only [hpc] at h
      exact h
    | readHello | readAuth | readService | readAck sequence =>
      simp only [hpc] at h
      rw [← h]
      exact completed_reading (by rw [hpc]; rfl)
    | connect | openStream | sendHello | sendAuth | sendNode | sendService service
    | sendHeartbeat sequence | sendGoodbye =>
      simp only [hpc] at h
      cases h

/-- Between two replies a session writes its frames, and awaits the reply to the last. -/
theorem completed_session (hpc : s.pc.inSession)
    (hreading : s.pc.reading = false) (h : s.completed cfg = .pending s') :
    ∃ frames, s'.sent = s.sent ++ frames ∧ s'.pc.inSession ∧ (∀ frame ∈ frames, frame.inSession) ∧
      frames.filterMap Frame.request = s'.pc.awaits.toList := by
  unfold completed at h
  cases hat : s.pc with
  | sendNode =>
    simp only [hat] at h
    cases h
    refine ⟨[_], rfl, ?_, by simp [Frame.inSession], ?_⟩ <;> cases cfg.service <;> rfl
  | sendService service =>
    simp only [hat] at h
    cases h
    exact ⟨[_], rfl, rfl, by simp [Frame.inSession], rfl⟩
  | storeService | sleep sequence =>
    simp only [hat] at h
    cases h
    exact ⟨[], (List.append_nil _).symm, rfl, by simp, rfl⟩
  | sendHeartbeat sequence =>
    simp only [hat] at h
    cases h
    refine ⟨[_], rfl, rfl, by simp [Frame.inSession], ?_⟩
    simp [Frame.request, QuicPc.awaits]
  | sendGoodbye =>
    simp only [hat] at h
    cases h
    exact ⟨[_], rfl, rfl, by simp [Frame.inSession], rfl⟩
  | join =>
    simp only [hat] at h
    cases h
  | readHello | readAuth | readService | readAck sequence =>
    rw [hat] at hreading
    cases hreading
  | connect | openStream | sendHello | sendAuth =>
    rw [hat] at hpc
    cases hpc

/-- A read that fails is the end of a program that reads, and nothing to another. -/
theorem reads_error {e : String} (h : s.reads cfg (.error e) = .pending s') : s' = s := by
  unfold reads at h
  cases hpc : s.pc <;> simp only [hpc] at h <;> cases h <;> rfl

/-- After the expected reply a session awaits nothing. -/
theorem received_session (hpc : s.pc.inSession) (hexpects : s.pc.expects frame)
    (h : s.received cfg frame = .pending s') : s'.pc.inSession ∧ s'.pc.awaits = none := by
  unfold received at h
  cases hat : s.pc with
  | readService =>
    rw [hat] at hexpects
    cases frame with
    | registerServiceAccepted service =>
      simp only [hat] at h
      cases h
      exact ⟨rfl, rfl⟩
    | error message =>
      simp only [hat] at h
      cases h
    | _ => cases hexpects
  | readAck sequence =>
    rw [hat] at hexpects
    cases frame with
    | heartbeatAck ack serverTime =>
      obtain rfl : ack = sequence := beq_iff_eq.mp hexpects
      simp only [hat, if_true] at h
      cases h
      cases cfg.once <;> exact ⟨rfl, rfl⟩
    | _ => cases hexpects
  | connect | openStream | sendHello | readHello | sendAuth | readAuth =>
    rw [hat] at hpc
    cases hpc
  | sendNode | sendService service | storeService | sendHeartbeat sequence | sendGoodbye
  | sleep sequence | join =>
    rw [hat] at hexpects
    cases frame <;> cases hexpects

end QuicSession

/-! ## An await of the client keeps the pairing -/

section
variable {cfg : ClientConfig} {task : SessionTask} {s s' : QuicSession} {queue sent : List Frame}

/-- **An await other than a read** keeps the pairing. -/
theorem Aligned.completes (h : Aligned task s.pc queue sent)
    (hnext : s.completed cfg = .pending s') :
    Aligned task s'.pc (queue ++ s'.sent.drop s.sent.length) sent := by
  -- a program that awaits a frame stays where it is
  have hstays (hreading : s.pc.reading) : s' = s ∧ queue ++ s'.sent.drop s.sent.length = queue := by
    rw [QuicSession.completed_reading hreading] at hnext
    cases hnext
    exact ⟨rfl, by simp⟩
  generalize hpc : s.pc = pc at h
  cases h with
  | greeting greeting =>
    unfold QuicSession.completed at hnext
    cases hat : pc with
    | connect | openStream =>
      simp only [hpc, hat] at hnext
      cases hnext
      simpa [hat] using Aligned.greeting rfl
    | sendHello =>
      simp only [hpc, hat] at hnext
      cases hnext
      simpa using Aligned.helloSent
    | _ =>
      rw [hat] at greeting
      cases greeting
  | welcomed =>
    unfold QuicSession.completed at hnext
    simp only [hpc] at hnext
    cases hnext
    simpa using Aligned.authSent
  | running serving session frames owed =>
    cases hreading : s.pc.reading with
    | true =>
      obtain ⟨rfl, hqueue⟩ := hstays hreading
      rw [hqueue, hpc]
      exact .running serving session frames owed
    | false =>
      obtain ⟨written, hsent, hsession, hframes, hrequest⟩ :=
        QuicSession.completed_session (by rw [hpc]; exact session) hreading hnext
      rw [hsent, List.drop_left]
      refine .running serving hsession (fun frame hmem => ?_) ?_
      · rcases List.mem_append.mp hmem with hmem | hmem
        · exact frames frame hmem
        · exact hframes frame hmem
      · have hnone : pc.awaits = none := QuicPc.awaits_none (hpc ▸ hreading)
        rw [hnone] at owed
        rw [List.filterMap_append, ← List.append_assoc, owed, hrequest]
        rfl
  | ended hend => exact .ended hend
  | helloSent | helloAnswered | authSent =>
    obtain ⟨rfl, hqueue⟩ := hstays (by rw [hpc]; rfl)
    rw [hqueue, hpc]
    constructor
  | authAnswered loop =>
    obtain ⟨rfl, hqueue⟩ := hstays (by rw [hpc]; rfl)
    rw [hqueue, hpc]
    exact .authAnswered loop
  | answered serving session frames owed expected =>
    obtain ⟨rfl, hqueue⟩ := hstays (by rw [hpc]; exact QuicPc.reading_of_expects expected)
    rw [hqueue, hpc]
    exact .answered serving session frames owed expected
  | endedAnswered hend expected =>
    obtain ⟨rfl, hqueue⟩ := hstays (by rw [hpc]; exact QuicPc.reading_of_expects expected)
    rw [hqueue, hpc]
    exact .endedAnswered hend expected

/-- **A read** keeps the pairing. -/
theorem Aligned.received {frame : Frame} {rest : List Frame}
    (h : Aligned task s.pc queue (frame :: rest)) (hnext : s.received cfg frame = .pending s') :
    Aligned task s'.pc queue rest := by
  generalize hpc : s.pc = pc at h
  cases h with
  | helloAnswered =>
    unfold QuicSession.received at hnext
    simp only [hpc, if_true] at hnext
    cases hnext
    exact .welcomed
  | authAnswered loop =>
    unfold QuicSession.received at hnext
    simp only [hpc] at hnext
    cases hnext
    exact .running (by rw [loop]; rfl) rfl (by simp) (by rw [loop]; rfl)
  | answered serving session frames owed expected =>
    obtain ⟨hsession, hawaits⟩ := QuicSession.received_session (by rw [hpc]; exact session)
      (by rw [hpc]; exact expected) hnext
    refine .running serving hsession frames ?_
    rw [owed, hawaits]
    rfl
  | endedAnswered hend expected => exact .ended hend

end

/-! ## Any run -/

namespace ControlLink

/-- The next frame the client reads is one it expects, and takes it into none of the
branches for invalid replies. -/
def InLockstep (client : ClientConfig) (l : ControlLink) : Prop :=
  ∀ (session : QuicSession) (frame : Frame) (rest : List Frame),
    l.client.program = .pending session → session.pc.reading → l.client.toClient = frame :: rest →
    session.pc.expects frame ∧
      ∀ text ∈ invalidReplies, session.received client frame ≠ .ready (.error text)

def Paired (l : ControlLink) : Prop :=
  ∀ session, l.client.program = .pending session →
    Aligned l.server session.pc l.client.toServer l.client.toClient

theorem Paired.serve {l : ControlLink} (h : l.Paired) (cfg : RelayConfig) (client : ClientConfig)
    (env : Env) (st : AppState) : (l.next cfg client (.server env st)).Paired := by
  cases hinput : l.client.input l.server env with
  | none =>
    have hstays : l.next cfg client (.server env st) = l := by simp only [next, hinput]
    rw [hstays]
    exact h
  | some fed =>
    intro session hsession
    simp only [next, hinput] at hsession ⊢
    exact (h session hsession).serve (SessionClient.input_fed hinput)

theorem Paired.act {client : ClientConfig} {l : ControlLink}
    (h : l.Paired) (cfg : RelayConfig) (act : ClientAct) :
    (l.next cfg client (.client act)).Paired := by
  intro session' hsession'
  cases hprogram : l.client.program with
  | ready result =>
    simp only [next, SessionClient.act, hprogram] at hsession'
    cases hsession'
  | pending session =>
    have haligned := h session hprogram
    cases act with
    | completes result =>
      simp only [next, SessionClient.act, hprogram] at hsession' ⊢
      rw [hsession']
      exact haligned.completes (QuicSession.completed_of_completes hsession')
    | delivers =>
      simp only [next, SessionClient.act, hprogram] at hsession' ⊢
      split at hsession'
      · rename_i hreading
        rw [if_pos hreading]
        cases hqueue : l.client.toClient with
        | nil =>
          rw [hqueue] at hsession'
          simp only [hprogram] at hsession' ⊢
          cases hsession'
          exact hqueue ▸ haligned
        | cons frame rest =>
          simp only [hqueue] at hsession' ⊢
          exact (hqueue ▸ haligned).received hsession'
      · rename_i hreading
        rw [if_neg hreading]
        rw [hprogram] at hsession'
        cases hsession'
        exact haligned
    | fails e =>
      simp only [next, SessionClient.act, hprogram] at hsession' ⊢
      obtain rfl := QuicSession.reads_error hsession'
      exact haligned

theorem begin_paired (peer : Peer) (transport : TransportKind) : (begin peer transport).Paired := by
  intro session hsession
  cases transport <;> cases hsession <;> exact .greeting rfl

theorem Paired.inLockstep {l : ControlLink} (h : l.Paired) (client : ClientConfig) :
    l.InLockstep client := by
  intro session frame rest hsession hreading hqueue
  have haligned := h session hsession
  rw [hqueue] at haligned
  have hexpected := haligned.expected.1
  refine ⟨hexpected, fun text htext hinvalid => ?_⟩
  rw [(QuicSession.received_invalid_iff hreading).mp ⟨text, htext, hinvalid⟩] at hexpected
  cases hexpected

end ControlLink

/-- **Client and server stay in lockstep.** Over either transport and from every state of
the server, in every run of a session the next frame the client reads is one it
expects; and in every run of a data stream the next frame the server reads is the
acknowledgement of that stream or an error. -/
theorem lockstep (cfg : RelayConfig) (client : ClientConfig) :
    (∀ (peer : Peer) (transport : TransportKind) (events : List LinkEvent),
      EveryState (ControlLink.next cfg client) (ControlLink.InLockstep client)
        (.begin peer transport) events) ∧
    ∀ (tunnelId : TunnelId) (serviceId : ServiceId) (events : List DataEvent),
      EveryState DataStream.next DataStream.InStep { tunnelId, serviceId } events := by
  refine ⟨fun peer transport events => ?_, DataStream.inStep_run⟩
  have hnext : ∀ (l : ControlLink) (event : LinkEvent), l.Paired → (l.next cfg client event).Paired := by
    intro l event h
    cases event with
    | server env st => exact h.serve cfg client env st
    | client act => exact h.act cfg act
  exact (everyState_of_step hnext (ControlLink.begin_paired peer transport) events).mono
    fun l h => h.inLockstep client

/-- A session from its first await to the acknowledgement of its first heartbeat. -/
def Sample.exchange : List LinkEvent :=
  let completes (n : Nat) : List LinkEvent := List.replicate n (.client (.completes (.ok ())))
  let serves (n : Nat) : List LinkEvent :=
    List.replicate n (.server { input := .ok .goodbye } Sample.started)
  completes 3 ++ serves 1 ++ [.client .delivers] ++ completes 1 ++ serves 1 ++
    [.client .delivers] ++ completes 2 ++ serves 9 ++ [.client .delivers]

/-- The client has written four frames and read every reply. -/
theorem lockstep_served :
    let l := ControlLink.begin ⟨0, ⟨1⟩, "203.0.113.7", 40000⟩ .quic
    let next := ControlLink.next Sample.config LongSession.config
    EveryState next (ControlLink.InLockstep LongSession.config) l Sample.exchange ∧
      (run next l Sample.exchange).client.program.sent.length = 4 ∧
      (run next l Sample.exchange).client.toClient = [] := by
  intro l next
  refine ⟨(lockstep Sample.config LongSession.config).1 _ _ _, ?_, ?_⟩
  · decide +kernel
  · decide +kernel

end OngrokRelay
