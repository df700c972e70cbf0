import OngrokRelay.Encoding
import OngrokRelay.Framing

/-
  Frames on a byte stream (`libongrok`, `wire.rs` and the client's copy of it).

  A frame is the length of its payload, four bytes in big-endian order, and its
  payload. One decoder takes the whole frames off a buffer that grows, the other
  reads exactly one frame from a stream. What postcard makes of a frame is a
  parameter: all the results ask of it is that it reads what it has written and
  never writes an empty payload.

  Correspondence (Rust ↔ Lean):
    `MAX_FRAME_SIZE`                             ↔ `maxFrameSize`
    `postcard::to_allocvec`, `from_bytes`        ↔ `FrameFormat`
    `encode_frame`, `decode_frame_payload`       ↔ `encodeFrame`, `decodeFramePayload`
    `decode_frames`                              ↔ `decodeFrames`
    `AsyncReadExt::read_exact`                   ↔ `readExact`
    `read_control_frame`, `write_control_frame`  ↔ `readControlFrame`, `writeControlFrame`

  1. `decodeFrames_eq_drain`: the loop is the receiver of the splitter `frames`.
  2. `encodeFrame_written`: an encoded frame is whole at the front of any stream.
  3. `framing_round_trip`: frames come out as they went in, however the bytes are cut.
-/

namespace OngrokRelay

open Framing

def maxFrameSize : Nat := 1024 * 1024

inductive CodecError
  | frameTooLarge
  | invalidLength
  | malformed (reason : String)
  deriving DecidableEq

def CodecError.message : CodecError → String
  | .frameTooLarge => "frame exceeds maximum size"
  | .invalidLength => "invalid frame length"
  | .malformed reason => s!"malformed frame: {reason}"

structure FrameFormat where
  toAllocvec : Frame → Except String (List UInt8)
  fromBytes : List UInt8 → Except String Frame

namespace FrameFormat

structure Lawful (format : FrameFormat) : Prop where
  fromBytes_toAllocvec : ∀ {frame payload}, format.toAllocvec frame = .ok payload →
    format.fromBytes payload = .ok frame
  payload_ne_nil : ∀ {frame payload}, format.toAllocvec frame = .ok payload → payload ≠ []

variable (format : FrameFormat)

/-! ## Encoding and decoding -/

def encodeFrame (frame : Frame) : Except CodecError (List UInt8) :=
  match format.toAllocvec frame with
  | .error e => .error (.malformed e)
  | .ok payload =>
    if maxFrameSize < payload.length then .error .frameTooLarge
    else .ok (Bytes.bigEndian 4 payload.length ++ payload)

def decodeFramePayload (payload : List UInt8) : Except CodecError Frame :=
  (format.fromBytes payload).mapError .malformed

/-- The loop of `decode_frames`: the frames so far and the buffer. -/
def decodeLoop (frames : List Frame) (buffer : List UInt8) :
    Except CodecError (List Frame) × List UInt8 :=
  if buffer.length < 4 then (.ok frames, buffer)
  else
    let len := Bytes.ofBigEndian (buffer.take 4)
    if maxFrameSize < len then (.error .frameTooLarge, buffer)
    else if len = 0 then (.error .invalidLength, buffer)
    else if buffer.length < 4 + len then (.ok frames, buffer)
    else
      let rest := (buffer.drop 4).drop len
      match format.decodeFramePayload ((buffer.drop 4).take len) with
      | .error e => (.error e, rest)
      | .ok frame => decodeLoop (frames ++ [frame]) rest
termination_by buffer.length
decreasing_by
  simp only [List.length_drop]
  omega

def decodeFrames (buffer : List UInt8) : Except CodecError (List Frame) × List UInt8 :=
  format.decodeLoop [] buffer

/-- Appending chunks to a buffer, with a call of `decode_frames` after each: the
frames of all calls, up to the first that fails. -/
def decodeChunks (buffer : List UInt8) :
    List (List UInt8) → Except CodecError (List Frame) × List UInt8
  | [] => (.ok [], buffer)
  | chunk :: chunks =>
    match format.decodeFrames (buffer ++ chunk) with
    | (.error e, rest) => (.error e, rest)
    | (.ok frames, rest) =>
      ((decodeChunks rest chunks).1.map (frames ++ ·), (decodeChunks rest chunks).2)

/-- The next `n` bytes of a stream and what follows, if the stream does not end before. -/
def readExact (n : Nat) (stream : List UInt8) : Option (List UInt8 × List UInt8) :=
  if n ≤ stream.length then some (stream.take n, stream.drop n) else none

/-- The frame, and what of the stream is unread. -/
def readControlFrame (stream : List UInt8) : Except String Frame × List UInt8 :=
  match readExact 4 stream with
  | none => (.error "failed to read control frame length", [])
  | some (header, stream) =>
    let length := Bytes.ofBigEndian header
    if length = 0 ∨ maxFrameSize < length then
      (.error s!"invalid control frame length {length}", stream)
    else match readExact length stream with
      | none => (.error "failed to read control frame payload", [])
      | some (payload, stream) =>
        ((format.decodeFramePayload payload).mapError CodecError.message, stream)

/-- The outcome, and the stream after it: one that fails has taken the first bytes
of the frame. -/
def writeControlFrame (frame : Frame) (failed : Option Nat) (stream : List UInt8) :
    Except String Unit × List UInt8 :=
  match format.encodeFrame frame with
  | .error e => (.error e.message, stream)
  | .ok encoded =>
    match failed with
    | none => (.ok (), stream ++ encoded)
    | some taken => (.error "failed to write control frame", stream ++ encoded.take taken)

/-! ## The front of a buffer -/

/-- What a buffer with this length in its header, and this body behind it, begins
with. -/
def payloadFront (len : Nat) (buffer body : List UInt8) : Front UInt8 Frame CodecError :=
  if maxFrameSize < len then .fault .frameTooLarge buffer
  else if len = 0 then .fault .invalidLength buffer
  else if body.length < len then .incomplete
  else match format.decodeFramePayload (body.take len) with
    | .error e => .fault e (body.drop len)
    | .ok frame => .item frame (body.drop len)

def frameFront (buffer : List UInt8) : Front UInt8 Frame CodecError :=
  if buffer.length < 4 then .incomplete
  else format.payloadFront (Bytes.ofBigEndian (buffer.take 4)) buffer (buffer.drop 4)

variable {format}

theorem payloadFront_shorter {len : Nat} {buffer body rest : List UInt8} {frame : Frame}
    (h : format.payloadFront len buffer body = .item frame rest) :
    rest.length ≤ body.length := by
  unfold payloadFront at h
  split at h
  · cases h
  · split at h
    · cases h
    · split at h
      · cases h
      · split at h
        · cases h
        · cases h
          rw [List.length_drop]
          exact Nat.sub_le ..

/-- Behind a payload that is there, or a length that is refused, more changes nothing. -/
theorem payloadFront_append {len : Nat} {buffer body : List UInt8}
    (h : format.payloadFront len buffer body ≠ .incomplete) (more : List UInt8) :
    format.payloadFront len (buffer ++ more) (body ++ more) =
      (format.payloadFront len buffer body).append more := by
  unfold payloadFront at h ⊢
  split
  · rfl
  · split
    · rfl
    · rename_i hmax hzero
      rw [if_neg hmax, if_neg hzero] at h
      by_cases hbody : body.length < len
      · rw [if_pos hbody] at h
        exact absurd rfl h
      · have hle := Nat.le_of_not_lt hbody
        rw [if_neg hbody, if_neg (by rw [List.length_append]; omega),
          List.take_append_of_le_length hle, List.drop_append_of_le_length hle]
        cases format.decodeFramePayload (body.take len) <;> rfl

theorem frameFront_append {buffer : List UInt8} (h : format.frameFront buffer ≠ .incomplete)
    (more : List UInt8) :
    format.frameFront (buffer ++ more) = (format.frameFront buffer).append more := by
  unfold frameFront at h ⊢
  by_cases hshort : buffer.length < 4
  · rw [if_pos hshort] at h
    exact absurd rfl h
  · have hle := Nat.le_of_not_lt hshort
    rw [if_neg hshort] at h
    rw [if_neg hshort, if_neg (by rw [List.length_append]; omega),
      List.take_append_of_le_length hle, List.drop_append_of_le_length hle,
      payloadFront_append h]

variable (format) in
/-- Frames are cut out of the bytes that come in. -/
def frames : Splitter UInt8 Frame CodecError where
  front := format.frameFront
  front_nil := rfl
  item_shorter {buffer frame rest} h := by
    unfold frameFront at h
    split at h
    · cases h
    · have hle := payloadFront_shorter h
      rw [List.length_drop] at hle
      omega
  front_append h more := frameFront_append h more

theorem front_short {buffer : List UInt8} (h : buffer.length < 4) :
    format.frames.front buffer = .incomplete := if_pos h

theorem front_header {buffer : List UInt8} (h : ¬buffer.length < 4) :
    format.frames.front buffer =
      format.payloadFront (Bytes.ofBigEndian (buffer.take 4)) buffer (buffer.drop 4) := if_neg h

/-! ## The two decoders -/

/-- **The loop takes off what is at the front of the buffer** until nothing whole is. -/
theorem decodeLoop_eq (sofar : List Frame) (buffer : List UInt8) :
    format.decodeLoop sofar buffer =
      ((format.frames.drain buffer).1.map (sofar ++ ·), (format.frames.drain buffer).2) := by
  fun_induction decodeLoop format sofar buffer with
  | case1 sofar buffer hshort =>
    rw [Splitter.drain_eq, front_short hshort]
    simp only [Except.map, List.append_nil]
  | case2 sofar buffer hshort len hmax =>
    rw [Splitter.drain_eq, front_header hshort, payloadFront, if_pos hmax]
    rfl
  | case3 sofar buffer hshort len hmax hzero =>
    rw [Splitter.drain_eq, front_header hshort, payloadFront, if_neg hmax, if_pos hzero]
    rfl
  | case4 sofar buffer hshort len hmax hzero hpart =>
    rw [Splitter.drain_eq, front_header hshort, payloadFront, if_neg hmax, if_neg hzero,
      if_pos (by rw [List.length_drop]; omega)]
    simp only [Except.map, List.append_nil]
  | case5 sofar buffer hshort len hmax hzero hpart rest e hread =>
    rw [Splitter.drain_eq, front_header hshort, payloadFront, if_neg hmax, if_neg hzero,
      if_neg (by rw [List.length_drop]; omega), hread]
    rfl
  | case6 sofar buffer hshort len hmax hzero hpart rest frame hread ih =>
    rw [Splitter.drain_eq, front_header hshort, payloadFront, if_neg hmax, if_neg hzero,
      if_neg (by rw [List.length_drop]; omega), hread, ih]
    show _ = (((format.frames.drain rest).1.map (frame :: ·)).map (sofar ++ ·),
      (format.frames.drain rest).2)
    rcases format.frames.drain rest with ⟨_ | items, rest'⟩
    · rfl
    · simp only [Except.map, List.append_assoc, List.singleton_append]

theorem decodeFrames_eq_drain (buffer : List UInt8) :
    format.decodeFrames buffer = format.frames.drain buffer := by
  rw [decodeFrames, decodeLoop_eq]
  rcases format.frames.drain buffer with ⟨_ | items, rest⟩
  · rfl
  · rfl

theorem decodeChunks_eq_feed (buffer : List UInt8) (chunks : List (List UInt8)) :
    format.decodeChunks buffer chunks = format.frames.feed buffer chunks := by
  induction chunks generalizing buffer with
  | nil => rfl
  | cons chunk chunks ih =>
    rw [decodeChunks, Splitter.feed, decodeFrames_eq_drain]
    rcases format.frames.drain (buffer ++ chunk) with ⟨_ | items, rest⟩
    · rfl
    · simp only [ih]

theorem readControlFrame_of_item {stream rest : List UInt8} {frame : Frame}
    (h : format.frames.front stream = .item frame rest) :
    format.readControlFrame stream = (.ok frame, rest) := by
  by_cases hshort : stream.length < 4
  · rw [front_short hshort] at h
    cases h
  · rw [front_header hshort, payloadFront] at h
    rw [readControlFrame, readExact, if_pos (Nat.le_of_not_lt hshort)]
    simp only
    split at h
    · cases h
    · split at h
      · cases h
      · split at h
        · cases h
        · rename_i hmax hzero hbody
          rw [if_neg (by omega), readExact, if_pos (Nat.le_of_not_lt hbody)]
          split at h
          · cases h
          · rename_i hread
            cases h
            simp only [hread]
            rfl

theorem encodeFrame_written (hformat : format.Lawful) {frame : Frame} {encoded : List UInt8}
    (h : format.encodeFrame frame = .ok encoded) : format.frames.Written frame encoded := by
  unfold encodeFrame at h
  split at h
  · cases h
  · rename_i payload hpayload
    split at h
    · cases h
    · rename_i hmax
      cases h
      intro rest
      have hlen : Bytes.ofBigEndian (Bytes.bigEndian 4 payload.length) = payload.length :=
        Bytes.ofBigEndian_bigEndian (Nat.lt_of_le_of_lt (Nat.le_of_not_lt hmax) (by decide))
      have hpos : payload.length ≠ 0 := fun hzero =>
        hformat.payload_ne_nil hpayload (List.length_eq_zero_iff.mp hzero)
      have hread : format.decodeFramePayload payload = .ok frame := by
        rw [decodeFramePayload, hformat.fromBytes_toAllocvec hpayload]
        rfl
      have hheader := Bytes.bigEndian_length 4 payload.length
      rw [List.append_assoc, front_header (by rw [List.length_append, hheader]; omega),
        List.take_left' hheader, List.drop_left' hheader, hlen, payloadFront, if_neg hmax,
        if_neg hpos, if_neg (by rw [List.length_append]; omega), List.take_left, List.drop_left,
        hread]

/-- **What one end writes the other reads**, and not a byte more. -/
theorem readControlFrame_writeControlFrame (hformat : format.Lawful) {frame : Frame}
    {failed : Option Nat} {stream : List UInt8}
    (h : (format.writeControlFrame frame failed stream).1 = .ok ()) :
    ∃ encoded, (format.writeControlFrame frame failed stream).2 = stream ++ encoded ∧
      ∀ rest, format.readControlFrame (encoded ++ rest) = (.ok frame, rest) := by
  unfold writeControlFrame at h ⊢
  cases hencoded : format.encodeFrame frame with
  | error e =>
    rw [hencoded] at h
    cases h
  | ok encoded =>
    rw [hencoded] at h
    cases failed with
    | some taken => cases h
    | none =>
      exact ⟨encoded, rfl, fun rest =>
        readControlFrame_of_item (encodeFrame_written hformat hencoded rest)⟩

end FrameFormat

/-- **Frames come out as they went in**, however the bytes are cut: after any chunks
the frames that are in whole have been decoded, the bytes of the next one are kept
as they came, and at the end nothing is left. One read takes one frame and leaves
what follows it. -/
theorem framing_round_trip {format : FrameFormat} (hformat : format.Lawful) {sent : List Frame}
    {encoded : List (List UInt8)}
    (hencoded : List.Forall₂ (fun frame bytes => format.encodeFrame frame = .ok bytes)
      sent encoded) :
    (∀ before after : List (List UInt8), (before ++ after).flatten = encoded.flatten →
      ∃ n buffer, format.decodeChunks [] before = (.ok (sent.take n), buffer) ∧
        before.flatten = (encoded.take n).flatten ++ buffer ∧
        (∀ bytes, encoded[n]? = some bytes → buffer.length < bytes.length) ∧
        (after.flatten = [] → sent.take n = sent ∧ buffer = [])) ∧
      ∀ frame bytes, format.encodeFrame frame = .ok bytes →
        ∀ rest, format.readControlFrame (bytes ++ rest) = (.ok frame, rest) := by
  have hwritten : List.Forall₂ format.frames.Written sent encoded :=
    hencoded.imp fun frame bytes h => FrameFormat.encodeFrame_written hformat h
  refine ⟨fun before after h => ?_, fun frame bytes h rest =>
    FrameFormat.readControlFrame_of_item (FrameFormat.encodeFrame_written hformat h rest)⟩
  rw [List.flatten_append] at h
  obtain ⟨n, hprogress⟩ := Splitter.feed_written hwritten format.frames.front_nil h
  rw [← FrameFormat.decodeChunks_eq_feed, List.nil_append] at hprogress
  refine ⟨n, (format.decodeChunks [] before).2, Prod.ext hprogress.items rfl, hprogress.kept,
    fun bytes => hprogress.kept_lt hwritten h, fun hafter => ?_⟩
  rw [hafter, List.append_nil] at h
  have hall := hprogress.complete hwritten h
  have hitems := hprogress.items
  rw [hall] at hitems
  exact ⟨(Except.ok.inj hitems).symm, by rw [hall]⟩

/-! ## Postcard -/

/-- What postcard does with frames. One that no memory holds is not written. -/
def postcardFormat : FrameFormat where
  toAllocvec frame :=
    if (Encoding.frame.encode frame).length < Postcard.addressSpace then
      .ok (Encoding.frame.encode frame)
    else .error "The serialize buffer is full"
  fromBytes payload := (Encoding.frame.fromBytes payload).mapError Postcard.Error.message

theorem postcardFormat_toAllocvec {frame : Frame} {payload : List UInt8}
    (h : postcardFormat.toAllocvec frame = .ok payload) :
    payload = Encoding.frame.encode frame ∧ payload.length < Postcard.addressSpace := by
  unfold postcardFormat at h
  simp only at h
  split at h
  · rename_i hlen
    cases h
    exact ⟨rfl, hlen⟩
  · cases h

/-- **Postcard reads the frames that it writes.** -/
theorem postcardFormat_lawful : postcardFormat.Lawful where
  fromBytes_toAllocvec {frame payload} h := by
    obtain ⟨rfl, hlen⟩ := postcardFormat_toAllocvec h
    show (Encoding.frame.fromBytes (Encoding.frame.encode frame)).mapError _ = _
    rw [Encoding.frame.fromBytes_encode hlen]
    rfl
  payload_ne_nil {frame payload} h hnil := by
    obtain ⟨rfl, -⟩ := postcardFormat_toAllocvec h
    have hpos := Encoding.frame_pos frame
    rw [hnil] at hpos
    exact Nat.lt_irrefl 0 hpos

/-- Two frames, the first cut inside its header. -/
theorem framing_round_trip_hello_goodbye :
    postcardFormat.decodeChunks [] [[0, 0], [], [0, 2, 0, 1, 0, 0, 0, 1, 16]] =
        (.ok [.hello 1, .goodbye], []) ∧
      postcardFormat.readControlFrame [0, 0, 0, 1, 16, 71, 69, 84] =
        (.ok .goodbye, [71, 69, 84]) := by
  have hgoodbye : postcardFormat.encodeFrame .goodbye = .ok [0, 0, 0, 1, 16] := by decide +kernel
  obtain ⟨hchunks, hread⟩ := framing_round_trip postcardFormat_lawful
    (.cons (by decide +kernel : postcardFormat.encodeFrame (.hello 1) = .ok [0, 0, 0, 2, 0, 1])
      (.cons hgoodbye .nil))
  refine ⟨?_, hread _ _ hgoodbye [71, 69, 84]⟩
  obtain ⟨n, buffer, hdecoded, -, -, hend⟩ :=
    hchunks [[0, 0], [], [0, 2, 0, 1, 0, 0, 0, 1, 16]] [] rfl
  obtain ⟨hall, hbuffer⟩ := hend rfl
  rw [hdecoded, hall, hbuffer]

end OngrokRelay
