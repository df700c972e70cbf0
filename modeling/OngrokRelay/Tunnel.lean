import OngrokRelay.DataStream
import OngrokRelay.Relaying
import OngrokRelay.Wire

/-
  One tunnel, byte for byte: a visitor's connection, the data stream the server opens for
  it, and the client's connection to the local target (`open_client_stream`,
  `forward_tcp_connection`, `handle_data_stream`).

  The frames that open the stream and the bytes relayed after them go through the same two
  pipes. Each of the two sides is at one of its awaits, until the opening is over and both
  relay; the visitor and the target send and receive as they like.

  1. `openerStep_effect`, `handlerStep_effect`: all that one await of the opening can do.
  2. `readControlFrame_part`: a frame read from what was written of one leaves nothing
     behind.

  Correspondence (Rust ↔ Lean):
    `open_client_stream`, once it has a stream   ↔ `Tunnel.openerStep`
    `forward_tcp_connection`                     ↔ `Tunnel.serverStep`
    `handle_data_stream`                         ↔ `Tunnel.handlerStep`, `Tunnel.clientStep`
-/

namespace OngrokRelay

open Conveyor Transition

/-- The program at the far end of a socket: all that it has sent and received, and whether
it has come to the end. -/
structure Program where
  sent : List UInt8 := []
  received : List UInt8 := []
  sawEnd : Bool := false
  deriving DecidableEq

inductive ProgramAction
  | send (bytes : List UInt8)
  | close
  | receive (n : Nat)

/-- What a peer does with the pipe it writes and the one it reads. -/
def Program.act (action : ProgramAction) (out input : Pipe) (p : Program) : Pipe × Pipe × Program :=
  match action with
  | .send bytes =>
    if out.closed then (out, input, p)
    else ({ out with bytes := out.bytes ++ bytes }, input, { p with sent := p.sent ++ bytes })
  | .close => ({ out with closed := true }, input, p)
  | .receive n =>
    if p.sawEnd then (out, input, p)
    else if input.bytes = [] then (out, input, { p with sawEnd := input.closed })
    else (out, { input with bytes := input.bytes.drop n },
      { p with received := p.received ++ input.bytes.take n })

structure Tunnel where
  tunnelId : TunnelId
  serviceId : ServiceId
  opener : OpenerPc := .send
  handler : HandlerPc := .accept
  /-- The client has a connection to the target. -/
  connected : Bool := false
  server : Relay := {}
  client : Relay := {}
  visitor : Program := {}
  target : Program := {}
  fromVisitor : Pipe := {}
  toVisitor : Pipe := {}
  toClient : Pipe := {}
  toServer : Pipe := {}
  toTarget : Pipe := {}
  fromTarget : Pipe := {}
  deriving DecidableEq

/-- What the opening of a stream asks of its surroundings: how the next read comes out,
after how many bytes the next write fails, if it does, and which dropped halves tell
their peer of the end. -/
structure TunnelEnv where
  read : Outcome := .ok ()
  failed : Option Nat := none
  localServices : BTreeMap ServiceId String := ∅
  connect : ConnectResult := .connected
  dropSocket : Bool := false
  dropTunnel : Bool := false

inductive TunnelEvent
  | opener (env : TunnelEnv)
  | handler (env : TunnelEnv)
  | server (env : RelayEnv)
  | client (env : RelayEnv)
  | visitor (action : ProgramAction)
  | target (action : ProgramAction)

/-- A frame can be read, or will never be. -/
def Pipe.readable (format : FrameFormat) (p : Pipe) : Bool :=
  match format.frames.front p.bytes with
  | .incomplete => p.closed
  | _ => true

namespace Tunnel

variable (format : FrameFormat)

/-- `open_client_stream` fails, and its caller drops the visitor with it. -/
def openFailed (env : TunnelEnv) (e : String) (t : Tunnel) : Tunnel :=
  { t with
    opener := .failed e
    toVisitor := { t.toVisitor with closed := t.toVisitor.closed || env.dropSocket }
    toClient := { t.toClient with closed := t.toClient.closed || env.dropTunnel } }

/-- `handle_data_stream` returns before it relays. -/
def handlerEnded (env : TunnelEnv) (result : Outcome) (t : Tunnel) : Tunnel :=
  { t with
    handler := .ended result
    toTarget := { t.toTarget with closed := t.toTarget.closed || env.dropSocket }
    toServer := { t.toServer with closed := t.toServer.closed || env.dropTunnel } }

/-- What the reply makes of `open_client_stream`. -/
def acknowledged (t : Tunnel) (frame : Frame) : OpenerPc :=
  DataStream.acknowledged { tunnelId := t.tunnelId, serviceId := t.serviceId } frame

def openerStep (env : TunnelEnv) (t : Tunnel) : Tunnel :=
  match t.opener with
  | .send =>
    match format.writeControlFrame (.openStream t.tunnelId t.serviceId) env.failed
        t.toClient.bytes with
    | (.error e, bytes) =>
      { t with toClient := { t.toClient with bytes } }.openFailed env e
    | (.ok _, bytes) => { t with opener := .await, toClient := { t.toClient with bytes } }
  | .await =>
    match env.read with
    | .error e => t.openFailed env e
    | .ok _ =>
      if t.toServer.readable format then
        match format.readControlFrame t.toServer.bytes with
        | (.error e, bytes) => { t with toServer := { t.toServer with bytes } }.openFailed env e
        | (.ok frame, bytes) =>
          match t.acknowledged frame with
          | .failed e => { t with toServer := { t.toServer with bytes } }.openFailed env e
          | opener => { t with opener, toServer := { t.toServer with bytes } }
      else t
  | .opened | .failed _ => t

def handlerStep (env : TunnelEnv) (t : Tunnel) : Tunnel :=
  match t.handler with
  | .accept =>
    match env.read with
    | .error e => t.handlerEnded env (.error e)
    | .ok _ =>
      if t.toClient.readable format then
        match format.readControlFrame t.toClient.bytes with
        | (.ok (.openStream tunnelId serviceId), bytes) =>
          { t with
            handler := .lookUp tunnelId serviceId
            toClient := { t.toClient with bytes } }
        | (.ok _, bytes) =>
          { t with toClient := { t.toClient with bytes } }.handlerEnded env
            (.error "expected OpenStream as first data stream frame")
        | (.error e, bytes) =>
          { t with toClient := { t.toClient with bytes } }.handlerEnded env (.error e)
      else t
  | .lookUp tunnelId serviceId =>
    match DataStream.lookedUp env.localServices tunnelId serviceId with
    | .ended result => t.handlerEnded env result
    | handler => { t with handler }
  | .connect tunnelId localAddress =>
    match env.connect with
    | .connected => { t with handler := .acknowledge tunnelId, connected := true }
    | .failed e => { t with handler := .reject s!"failed to connect to {localAddress}: {e}" }
    | .timedOut => { t with handler := .reject s!"timed out connecting to {localAddress}" }
  | .reject message =>
    match format.writeControlFrame (.error message) env.failed t.toServer.bytes with
    | (result, bytes) => { t with toServer := { t.toServer with bytes } }.handlerEnded env result
  | .acknowledge tunnelId =>
    match format.writeControlFrame (.openStreamAck tunnelId) env.failed t.toServer.bytes with
    | (.error e, bytes) =>
      { t with toServer := { t.toServer with bytes } }.handlerEnded env (.error e)
    | (.ok _, bytes) => { t with handler := .relay, toServer := { t.toServer with bytes } }
  | .relay | .ended _ => t

/-- The server's relay, once the stream is open. -/
def serverStep (env : RelayEnv) (t : Tunnel) : Tunnel :=
  match t.opener with
  | .opened =>
    let (ends, server) := t.server.step "TCP relay copy failed" env
      ⟨t.fromVisitor, t.toVisitor, t.toServer, t.toClient⟩
    { t with
      server
      fromVisitor := ends.socketIn
      toVisitor := ends.socketOut
      toServer := ends.tunnelIn
      toClient := ends.tunnelOut }
  | _ => t

/-- The client's relay, once it has acknowledged the stream. -/
def clientStep (env : RelayEnv) (t : Tunnel) : Tunnel :=
  match t.handler with
  | .relay =>
    let (ends, client) := t.client.step "local TCP relay copy failed" env
      ⟨t.fromTarget, t.toTarget, t.toClient, t.toServer⟩
    { t with
      client
      fromTarget := ends.socketIn
      toTarget := ends.socketOut
      toClient := ends.tunnelIn
      toServer := ends.tunnelOut }
  | _ => t

def visitorStep (action : ProgramAction) (t : Tunnel) : Tunnel :=
  let (fromVisitor, toVisitor, visitor) := t.visitor.act action t.fromVisitor t.toVisitor
  { t with visitor, fromVisitor, toVisitor }

def targetStep (action : ProgramAction) (t : Tunnel) : Tunnel :=
  if t.connected then
    let (fromTarget, toTarget, target) := t.target.act action t.fromTarget t.toTarget
    { t with target, fromTarget, toTarget }
  else t

def next (t : Tunnel) : TunnelEvent → Tunnel
  | .opener env => t.openerStep format env
  | .handler env => t.handlerStep format env
  | .server env => t.serverStep env
  | .client env => t.clientStep env
  | .visitor action => t.visitorStep action
  | .target action => t.targetStep action

/-! ## What one await of the opening can do -/

/-- Nothing, or a frame written as far as a write goes. -/
def Part (bytes : List UInt8) : Prop :=
  bytes = [] ∨ ∃ frame encoded, format.encodeFrame frame = .ok encoded ∧ bytes <+: encoded

/-- All that an await of `open_client_stream` can do. -/
inductive OpenerEffect (t : Tunnel) : Tunnel → Prop
  | none : OpenerEffect t t
  | sent (pc : t.opener = .send) {frame : Frame} {encoded : List UInt8}
      (encodes : format.encodeFrame frame = .ok encoded) :
    OpenerEffect t { t with
      opener := .await
      toClient := { t.toClient with bytes := t.toClient.bytes ++ encoded } }
  | unsent (pc : t.opener = .send) (env : TunnelEnv) (e : String) {part : List UInt8}
      (hpart : Part format part) :
    OpenerEffect t
      ({ t with toClient := { t.toClient with bytes := t.toClient.bytes ++ part } }.openFailed env e)
  | failed (pc : t.opener = .await) (env : TunnelEnv) (e : String) :
    OpenerEffect t (t.openFailed env e)
  | refused (pc : t.opener = .await) (env : TunnelEnv) (e : String) :
    OpenerEffect t ({ t with toServer := { t.toServer with
      bytes := (format.readControlFrame t.toServer.bytes).2 } }.openFailed env e)
  | opened (pc : t.opener = .await) {frame : Frame} {bytes : List UInt8}
      (reads : format.readControlFrame t.toServer.bytes = (.ok frame, bytes)) :
    OpenerEffect t { t with opener := .opened, toServer := { t.toServer with bytes } }

/-- The handler has its OpenStream and has not replied. -/
def Answering : HandlerPc → Prop
  | .lookUp _ _ | .connect _ _ | .reject _ | .acknowledge _ => True
  | .accept | .relay | .ended _ => False

/-- All that an await of `handle_data_stream` can do. -/
inductive HandlerEffect (t : Tunnel) : Tunnel → Prop
  | none : HandlerEffect t t
  | failed (pc : t.handler = .accept ∨ Answering t.handler) (env : TunnelEnv) (result : Outcome) :
    HandlerEffect t (t.handlerEnded env result)
  | refused (pc : t.handler = .accept) (env : TunnelEnv) (result : Outcome) :
    HandlerEffect t ({ t with toClient := { t.toClient with
      bytes := (format.readControlFrame t.toClient.bytes).2 } }.handlerEnded env result)
  | asked (pc : t.handler = .accept) {frame : Frame} {bytes : List UInt8}
      (reads : format.readControlFrame t.toClient.bytes = (.ok frame, bytes)) {handler : HandlerPc}
      (answering : Answering handler) :
    HandlerEffect t { t with handler, toClient := { t.toClient with bytes } }
  | moved (pc : Answering t.handler) (handler : HandlerPc) (answering : Answering handler)
      (connected : Bool) : HandlerEffect t { t with handler, connected }
  | answered (pc : Answering t.handler) (env : TunnelEnv) (result : Outcome) {part : List UInt8}
      (hpart : Part format part) :
    HandlerEffect t ({ t with toServer :=
      { t.toServer with bytes := t.toServer.bytes ++ part } }.handlerEnded env result)
  | relays (pc : Answering t.handler) {frame : Frame} {encoded : List UInt8}
      (encodes : format.encodeFrame frame = .ok encoded) :
    HandlerEffect t { t with
      handler := .relay
      toServer := { t.toServer with bytes := t.toServer.bytes ++ encoded } }

variable {format}

theorem part_of_encodes {frame : Frame} {encoded : List UInt8}
    (h : format.encodeFrame frame = .ok encoded) : Part format encoded :=
  .inr ⟨frame, encoded, h, List.prefix_rfl⟩

theorem writeControlFrame_cases (frame : Frame) (failed : Option Nat) (stream : List UInt8) :
    (∃ encoded, format.encodeFrame frame = .ok encoded ∧
      format.writeControlFrame frame failed stream = (.ok (), stream ++ encoded)) ∨
    ∃ e part, Part format part ∧
      format.writeControlFrame frame failed stream = (.error e, stream ++ part) := by
  unfold FrameFormat.writeControlFrame
  cases hencoded : format.encodeFrame frame with
  | error e => exact .inr ⟨e.message, [], .inl rfl, by rw [List.append_nil]⟩
  | ok encoded =>
    cases failed with
    | none => exact .inl ⟨encoded, rfl, rfl⟩
    | some taken =>
      exact .inr ⟨_, _, .inr ⟨frame, encoded, hencoded, List.take_prefix taken encoded⟩, rfl⟩

/-- Of the replies, an acknowledgement of this stream alone is not a failure. -/
theorem acknowledged_cases (t : Tunnel) (frame : Frame) :
    t.acknowledged frame = .opened ∨ ∃ e, t.acknowledged frame = .failed e := by
  unfold acknowledged DataStream.acknowledged
  split
  · split
    · exact .inl rfl
    · exact .inr ⟨_, rfl⟩
  · exact .inr ⟨_, rfl⟩
  · exact .inr ⟨_, rfl⟩

theorem openerStep_effect (format : FrameFormat) (env : TunnelEnv) (t : Tunnel) :
    OpenerEffect format t (t.openerStep format env) := by
  unfold openerStep
  split
  · rename_i hpc
    rcases writeControlFrame_cases (.openStream t.tunnelId t.serviceId) env.failed
        t.toClient.bytes with ⟨encoded, hencoded, hwrite⟩ | ⟨e, part, hpart, hwrite⟩
    · rw [hwrite]
      exact .sent hpc hencoded
    · rw [hwrite]
      exact .unsent hpc env e hpart
  · rename_i hpc
    split
    · exact .failed hpc env _
    · split
      · cases hread : format.readControlFrame t.toServer.bytes with
        | mk result bytes =>
          have hbytes : bytes = (format.readControlFrame t.toServer.bytes).2 := by rw [hread]
          cases result with
          | error e =>
            rw [hbytes]
            exact .refused hpc env e
          | ok frame =>
            rcases acknowledged_cases t frame with hack | ⟨e, hack⟩
            · simp only [hack]
              exact .opened hpc hread
            · simp only [hack]
              rw [hbytes]
              exact .refused hpc env e
      · exact .none
  · exact .none
  · exact .none

theorem handlerStep_effect (format : FrameFormat) (env : TunnelEnv) (t : Tunnel) :
    HandlerEffect format t (t.handlerStep format env) := by
  unfold handlerStep
  split
  · rename_i hpc
    split
    · exact .failed (.inl hpc) env _
    · split
      · cases hread : format.readControlFrame t.toClient.bytes with
        | mk result bytes =>
          have hbytes : bytes = (format.readControlFrame t.toClient.bytes).2 := by rw [hread]
          split
          · rename_i heq
            cases heq
            exact .asked hpc hread trivial
          · rename_i heq
            cases heq
            rw [hbytes]
            exact .refused hpc env _
          · rename_i heq
            cases heq
            rw [hbytes]
            exact .refused hpc env _
      · exact .none
  · rename_i tunnelId serviceId hpc
    have hanswering : Answering t.handler := by rw [hpc]; trivial
    unfold DataStream.lookedUp
    cases env.localServices[serviceId]? with
    | none => exact .failed (.inr hanswering) env _
    | some localAddress => exact .moved hanswering (.connect tunnelId localAddress) trivial _
  · rename_i tunnelId localAddress hpc
    have hanswering : Answering t.handler := by rw [hpc]; trivial
    split
    · exact .moved hanswering (.acknowledge tunnelId) trivial true
    · exact .moved hanswering (.reject _) trivial _
    · exact .moved hanswering (.reject _) trivial _
  · rename_i message hpc
    have hanswering : Answering t.handler := by rw [hpc]; trivial
    rcases writeControlFrame_cases (.error message) env.failed
        t.toServer.bytes with ⟨encoded, hencoded, hwrite⟩ | ⟨e, part, hpart, hwrite⟩
    · rw [hwrite]
      exact .answered hanswering env _ (part_of_encodes hencoded)
    · rw [hwrite]
      exact .answered hanswering env _ hpart
  · rename_i tunnelId hpc
    have hanswering : Answering t.handler := by rw [hpc]; trivial
    rcases writeControlFrame_cases (.openStreamAck tunnelId) env.failed
        t.toServer.bytes with ⟨encoded, hencoded, hwrite⟩ | ⟨e, part, hpart, hwrite⟩
    · rw [hwrite]
      exact .relays hanswering hencoded
    · rw [hwrite]
      exact .answered hanswering env _ hpart
  · exact .none
  · exact .none

/-! ## Reading a frame that was written -/

theorem readControlFrame_nil : format.readControlFrame [] =
    (.error "failed to read control frame length", []) := rfl

/-- A frame read is a whole one at the front of the bytes. -/
theorem front_of_readControlFrame {stream rest : List UInt8} {frame : Frame}
    (h : format.readControlFrame stream = (.ok frame, rest)) :
    format.frames.front stream = .item frame rest := by
  unfold FrameFormat.readControlFrame at h
  by_cases hshort : stream.length < 4
  · rw [FrameFormat.readExact, if_neg (by omega)] at h
    cases h
  · rw [FrameFormat.readExact, if_pos (by omega)] at h
    rw [FrameFormat.front_header hshort, FrameFormat.payloadFront]
    simp only at h
    split at h
    · cases h
    · rename_i hlength
      rw [not_or] at hlength
      rw [if_neg hlength.2, if_neg hlength.1]
      split at h
      · cases h
      · rename_i payload rest' hread
        rw [FrameFormat.readExact] at hread
        split at hread
        · rename_i hbody
          cases hread
          rw [if_neg (Nat.not_lt.mpr hbody)]
          cases hdecoded : format.decodeFramePayload _ with
          | error e =>
            rw [hdecoded] at h
            cases h
          | ok decoded =>
            rw [hdecoded] at h
            cases h
            rfl
        · cases hread

/-- A frame read from what was written of one leaves nothing behind. -/
theorem readControlFrame_part (hformat : format.Lawful) {bytes rest : List UInt8} {frame : Frame}
    (hpart : Part format bytes) (h : format.readControlFrame bytes = (.ok frame, rest)) :
    rest = [] := by
  rcases hpart with rfl | ⟨sent, encoded, hencoded, more, rfl⟩
  · rw [readControlFrame_nil] at h
    cases h
  · have hitem := Framing.Splitter.item_append (front_of_readControlFrame h) more
    have hwritten := FrameFormat.encodeFrame_written hformat hencoded []
    rw [List.append_nil, hitem] at hwritten
    cases hrest : rest with
    | nil => rfl
    | cons b bs =>
      rw [hrest] at hwritten
      cases hwritten

end Tunnel
end OngrokRelay
