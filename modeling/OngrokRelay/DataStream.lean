import OngrokRelay.BTreeMap
import OngrokRelay.Domain
import OngrokRelay.Store
import OngrokRelay.Transition

/-
  One data stream: the server opens it for a visitor, the client connects it to the
  local target (`open_client_stream` of the server, `handle_data_stream` of the client).

  Each of the two sides is at one of its awaits. The frames written and not yet read
  are in a queue for each direction; a read fails, or takes the head of its queue.

  1. `Agrees.openerStep`, `Agrees.handlerStep`: what the queues hold fits what the two
     sides wait for.
  2. `inStep_run`: so the server never reads an acknowledgement it calls invalid, in
     any run.

  Correspondence (Rust ↔ Lean):
    the frames of `open_client_stream`   ↔ `OpenerPc`, `DataStream.openerStep`
    `handle_data_stream`                 ↔ `HandlerPc`, `DataStream.handlerStep`
-/

namespace OngrokRelay

open Transition

/-- The await `open_client_stream` is suspended at once it has a stream. -/
inductive OpenerPc
  | send
  | await
  | opened
  | failed (reason : String)
  deriving DecidableEq

/-- The await `handle_data_stream` is suspended at. After the acknowledgement both
sides copy bytes. -/
inductive HandlerPc
  | accept
  | lookUp (tunnelId : TunnelId) (serviceId : ServiceId)
  | connect (tunnelId : TunnelId) (localAddress : String)
  | reject (message : String)
  | acknowledge (tunnelId : TunnelId)
  | relay
  | ended (result : Outcome)
  deriving DecidableEq

/-- What the connection to the local target comes to. -/
inductive ConnectResult
  | connected
  | failed (error : String)
  | timedOut

structure DataEnv where
  read : Outcome := .ok ()
  write : Outcome := .ok ()
  localServices : BTreeMap ServiceId String := ∅
  connect : ConnectResult := .connected

structure DataStream where
  tunnelId : TunnelId
  serviceId : ServiceId
  opener : OpenerPc := .send
  handler : HandlerPc := .accept
  toClient : List Frame := []
  toServer : List Frame := []
  deriving DecidableEq

namespace DataStream

/-- The reply to OpenStream. A timeout is a read error. -/
def acknowledged (d : DataStream) : Frame → OpenerPc
  | .openStreamAck ack =>
    if ack = d.tunnelId then .opened
    else .failed "client returned an invalid data stream acknowledgement"
  | .error message => .failed s!"client rejected local target: {message}"
  | _ => .failed "client returned an invalid data stream acknowledgement"

def openerStep (env : DataEnv) (d : DataStream) : DataStream :=
  match d.opener with
  | .send =>
    match env.write with
    | .error e => { d with opener := .failed e }
    | .ok _ =>
      { d with
        opener := .await
        toClient := d.toClient ++ [.openStream d.tunnelId d.serviceId] }
  | .await =>
    match env.read, d.toServer with
    | .error e, _ => { d with opener := .failed e }
    | .ok _, [] => d
    | .ok _, frame :: rest => { d with opener := d.acknowledged frame, toServer := rest }
  | .opened | .failed _ => d

def lookedUp (localServices : BTreeMap ServiceId String) (tunnelId : TunnelId)
    (serviceId : ServiceId) : HandlerPc :=
  match localServices[serviceId]? with
  | some localAddress => .connect tunnelId localAddress
  | none => .ended (.error "server requested an unknown service")

def handlerStep (env : DataEnv) (d : DataStream) : DataStream :=
  match d.handler with
  | .accept =>
    match env.read, d.toClient with
    | .error e, _ => { d with handler := .ended (.error e) }
    | .ok _, [] => d
    | .ok _, .openStream tunnelId serviceId :: rest =>
      { d with
        handler := .lookUp tunnelId serviceId
        toClient := rest }
    | .ok _, _ :: rest =>
      { d with
        handler := .ended (.error "expected OpenStream as first data stream frame")
        toClient := rest }
  | .lookUp tunnelId serviceId =>
    { d with handler := lookedUp env.localServices tunnelId serviceId }
  | .connect tunnelId localAddress =>
    match env.connect with
    | .connected => { d with handler := .acknowledge tunnelId }
    | .failed e => { d with handler := .reject s!"failed to connect to {localAddress}: {e}" }
    | .timedOut => { d with handler := .reject s!"timed out connecting to {localAddress}" }
  | .reject message =>
    match env.write with
    | .error e => { d with handler := .ended (.error e) }
    | .ok _ =>
      { d with
        handler := .ended (.ok ())
        toServer := d.toServer ++ [.error message] }
  | .acknowledge tunnelId =>
    match env.write with
    | .error e => { d with handler := .ended (.error e) }
    | .ok _ =>
      { d with
        handler := .relay
        toServer := d.toServer ++ [.openStreamAck tunnelId] }
  | .relay | .ended _ => d

end DataStream

/-- One of the sides goes on. -/
inductive DataEvent
  | opener (env : DataEnv)
  | handler (env : DataEnv)

def DataStream.next (d : DataStream) : DataEvent → DataStream
  | .opener env => d.openerStep env
  | .handler env => d.handlerStep env

namespace DataStream

/-- The next frame the server reads is an acknowledgement of this stream or an error. -/
def InStep (d : DataStream) : Prop :=
  d.opener = .await → ∀ frame rest, d.toServer = frame :: rest →
    frame = .openStreamAck d.tunnelId ∨ ∃ message, frame = .error message

/-! ## The invariant -/

/-- The handler has OpenStream and owes its reply. -/
def HandlerPc.Answers (tunnelId : TunnelId) : HandlerPc → Prop
  | .lookUp asked _ | .connect asked _ | .acknowledge asked => asked = tunnelId
  | .reject _ => True
  | .accept | .relay | .ended _ => False

/-- The handler will write no frame any more. -/
def HandlerPc.Quiet : HandlerPc → Prop
  | .relay | .ended _ => True
  | _ => False

/-- The two sides and the frames between them. -/
inductive Agrees (d : DataStream) : Prop
  | idle (opener : d.opener = .send) (handler : d.handler = .accept) (toClient : d.toClient = [])
      (toServer : d.toServer = [])
  | asked (opener : d.opener = .await) (handler : d.handler = .accept)
      (toClient : d.toClient = [.openStream d.tunnelId d.serviceId]) (toServer : d.toServer = [])
  | taken (opener : d.opener = .await) (handler : HandlerPc.Answers d.tunnelId d.handler)
      (toServer : d.toServer = [])
  | answered (handler : HandlerPc.Quiet d.handler) (frame : Frame) (toServer : d.toServer = [frame])
      (reply : frame = .openStreamAck d.tunnelId ∨ ∃ message, frame = .error message)
  | silent (handler : HandlerPc.Quiet d.handler) (toServer : d.toServer = [])
  | returned (opener : d.opener ≠ .send ∧ d.opener ≠ .await)

variable {d : DataStream}

/-- A reply, whatever it is, is the end of `open_client_stream`. -/
theorem acknowledged_returned (d : DataStream) (frame : Frame) :
    d.acknowledged frame ≠ .send ∧ d.acknowledged frame ≠ .await := by
  unfold acknowledged
  split
  · split <;> exact ⟨by simp, by simp⟩
  · exact ⟨by simp, by simp⟩
  · exact ⟨by simp, by simp⟩

theorem Agrees.openerStep (h : Agrees d) (env : DataEnv) : Agrees (d.openerStep env) := by
  unfold DataStream.openerStep
  split
  · rename_i hsend
    split
    · exact .returned ⟨by simp, by simp⟩
    · cases h with
      | idle _ handler toClient toServer =>
        refine .asked rfl handler ?_ toServer
        rw [toClient]
        rfl
      | answered handler frame toServer reply => exact .answered handler frame toServer reply
      | silent handler toServer => exact .silent handler toServer
      | asked opener _ _ _ | taken opener _ _ =>
        rw [hsend] at opener
        cases opener
      | returned opener => exact absurd hsend opener.1
  · split
    · exact .returned ⟨by simp, by simp⟩
    · exact h
    · exact .returned (d.acknowledged_returned _)
  · exact h
  · exact h

theorem lookedUp_cases (localServices : BTreeMap ServiceId String) (tunnelId : TunnelId)
    (serviceId : ServiceId) : HandlerPc.Answers tunnelId (lookedUp localServices tunnelId serviceId) ∨
      HandlerPc.Quiet (lookedUp localServices tunnelId serviceId) := by
  unfold lookedUp
  split
  · exact .inl rfl
  · exact .inr trivial

theorem handlerStep_quiet (h : HandlerPc.Quiet d.handler) (env : DataEnv) :
    d.handlerStep env = d := by
  unfold handlerStep
  split <;> rename_i hpc <;> rw [hpc] at h <;> first | rfl | cases h

theorem Agrees.handlerStep (h : Agrees d) (env : DataEnv) : Agrees (d.handlerStep env) := by
  cases h with
  | returned opener =>
    have hopener : (d.handlerStep env).opener = d.opener := by
      unfold DataStream.handlerStep
      split
      · split <;> rfl
      · rfl
      · split <;> rfl
      · split <;> rfl
      · split <;> rfl
      · rfl
      · rfl
    exact .returned (by rwa [hopener])
  | idle opener handler toClient toServer =>
    unfold DataStream.handlerStep
    rw [handler, toClient]
    cases env.read with
    | error e => exact .silent trivial toServer
    | ok _ => exact .idle opener handler toClient toServer
  | asked opener handler toClient toServer =>
    unfold DataStream.handlerStep
    rw [handler, toClient]
    cases env.read with
    | error e => exact .silent trivial toServer
    | ok _ => exact .taken opener rfl toServer
  | taken opener handler toServer =>
    unfold DataStream.handlerStep
    split
    · rename_i hpc
      rw [hpc] at handler
      cases handler
    · rename_i tunnelId serviceId hpc
      rw [hpc] at handler
      obtain rfl : tunnelId = d.tunnelId := handler
      rcases lookedUp_cases env.localServices d.tunnelId serviceId with hanswers | hquiet
      · exact .taken opener hanswers toServer
      · exact .silent hquiet toServer
    · rename_i tunnelId localAddress hpc
      rw [hpc] at handler
      split
      · exact .taken opener handler toServer
      · exact .taken opener trivial toServer
      · exact .taken opener trivial toServer
    · rename_i message hpc
      split
      · exact .silent trivial toServer
      · refine .answered trivial (.error message) ?_ (.inr ⟨message, rfl⟩)
        rw [toServer]
        rfl
    · rename_i tunnelId hpc
      rw [hpc] at handler
      obtain rfl : tunnelId = d.tunnelId := handler
      split
      · exact .silent trivial toServer
      · refine .answered trivial (.openStreamAck d.tunnelId) ?_ (.inl rfl)
        rw [toServer]
        rfl
    · exact .taken opener handler toServer
    · exact .taken opener handler toServer
  | answered handler frame toServer reply =>
    rw [handlerStep_quiet handler env]
    exact .answered handler frame toServer reply
  | silent handler toServer =>
    rw [handlerStep_quiet handler env]
    exact .silent handler toServer

theorem Agrees.inStep (h : Agrees d) : d.InStep := by
  intro hawait frame rest hframe
  cases h with
  | idle opener _ _ toServer | asked opener _ _ toServer | taken opener _ toServer
  | silent _ toServer =>
    rw [toServer] at hframe
    cases hframe
  | answered _ answer toServer reply =>
    rw [toServer] at hframe
    cases hframe
    exact reply
  | returned opener => exact absurd hawait opener.2

/-- **No acknowledgement is invalid.** In every run of a data stream, from the moment
the server has it, the next frame the server reads is one it expects. -/
theorem inStep_run (tunnelId : TunnelId) (serviceId : ServiceId) (events : List DataEvent) :
    EveryState next InStep { tunnelId, serviceId } events := by
  have hnext : ∀ d e, Agrees d → Agrees (next d e) := by
    intro d e h
    cases e with
    | opener env => exact h.openerStep env
    | handler env => exact h.handlerStep env
  exact (everyState_of_step hnext (.idle rfl rfl rfl rfl) events).mono fun d h => h.inStep

end DataStream
end OngrokRelay
