import OngrokRelay.Wire

/-
  The two decoders of one byte stream.

  `read_control_frame` takes one frame at a time and fails at the first that is
  malformed or at the end of the stream. `decode_frames` is called after each chunk and
  gives the frames of that call, or the error of the first that is malformed: the
  frames that it has taken off the buffer before are gone with it.

  1. `readAll_of_cut`, `decodeAll_eq_receive`: what each decoder makes of a stream of
     frames that ends anyhow.
  2. `decoders_agree_iff`: they stop on a fault alike, and have the same frames exactly
     when some chunk ends between the frames and the fault.
  3. `frame_lost`: a frame and a fault in one chunk.
-/

namespace OngrokRelay

open Framing

namespace FrameFormat

variable (format : FrameFormat)

/-- Frames are decoded after each chunk, until a call fails. -/
def decodeAll (buffer : List UInt8) : List (List UInt8) → List Frame × Option CodecError
  | [] => ([], none)
  | chunk :: chunks =>
    match format.decodeFrames (buffer ++ chunk) with
    | (.error e, _) => ([], some e)
    | (.ok frames, rest) => (frames ++ (decodeAll rest chunks).1, (decodeAll rest chunks).2)

theorem decodeAll_eq_receive (buffer : List UInt8) (chunks : List (List UInt8)) :
    format.decodeAll buffer chunks = format.frames.receive buffer chunks := by
  induction chunks generalizing buffer with
  | nil => rfl
  | cons chunk chunks ih =>
    rw [decodeAll, Splitter.receive, decodeFrames_eq_drain]
    rcases format.frames.drain (buffer ++ chunk) with ⟨_ | items, rest⟩
    · rfl
    · simp only [ih]

variable {format}

/-- A frame that has been read has taken its bytes. -/
theorem readControlFrame_shorter {stream rest : List UInt8} {frame : Frame}
    (h : format.readControlFrame stream = (.ok frame, rest)) : rest.length < stream.length := by
  unfold readControlFrame readExact at h
  split at h
  · cases h
  · rename_i header body hheader
    split at hheader
    · rename_i hshort
      cases hheader
      simp only at h
      split at h
      · cases h
      · split at h
        · cases h
        · rename_i payload unread hpayload
          split at hpayload
          · cases hpayload
            obtain rfl := (Prod.mk.inj h).2
            simp only [List.length_drop]
            omega
          · cases hpayload
    · cases hheader

variable (format) in
/-- Frames are read until a read fails; the error of that read. -/
def readAll (stream : List UInt8) : List Frame × String :=
  match _ : format.readControlFrame stream with
  | (.error e, _) => ([], e)
  | (.ok frame, rest) => (frame :: (readAll rest).1, (readAll rest).2)
termination_by stream.length
decreasing_by all_goals exact readControlFrame_shorter ‹_›

theorem readAll_eq (stream : List UInt8) : format.readAll stream =
    match format.readControlFrame stream with
    | (.error e, _) => ([], e)
    | (.ok frame, rest) => (frame :: (format.readAll rest).1, (format.readAll rest).2) := by
  rw [readAll]
  split
  all_goals
    rename_i hread
    rw [hread]

end FrameFormat

/-- The stream has ended, inside a frame or between two. -/
def endOfStream (message : String) : Bool :=
  message == "failed to read control frame length" ||
    message == "failed to read control frame payload"

namespace FrameFormat

variable {format : FrameFormat}

theorem readControlFrame_incomplete {stream : List UInt8}
    (h : format.frames.front stream = .incomplete) :
    ∃ e, format.readControlFrame stream = (.error e, []) ∧ endOfStream e := by
  by_cases hshort : stream.length < 4
  · exact ⟨_, by rw [readControlFrame, readExact, if_neg (by omega)], rfl⟩
  · rw [front_header hshort, payloadFront] at h
    rw [readControlFrame, readExact, if_pos (Nat.le_of_not_lt hshort)]
    simp only
    split at h
    · cases h
    · split at h
      · cases h
      · rename_i hmax hzero
        split at h
        · rename_i hbody
          rw [if_neg (by omega), readExact, if_neg (by omega)]
          exact ⟨_, rfl, rfl⟩
        · split at h <;> cases h

/-- The errors of a frame that is there begin otherwise than those of a stream that ends. -/
theorem endOfStream_append (pre : String) {first : Char} {message : String}
    (hfirst : pre.toList.head? = some first) (hother : first ≠ 'f') :
    endOfStream (pre ++ message) = false := by
  have hne : ∀ text : String, text.toList.head? = some 'f' → ¬(pre ++ message) = text := by
    intro text htext heq
    rw [← heq, String.toList_append, List.head?_append, hfirst] at htext
    exact hother (Option.some.inj htext)
  simp only [endOfStream, Bool.or_eq_false_iff, beq_eq_false_iff_ne]
  exact ⟨hne _ rfl, hne _ rfl⟩

theorem endOfStream_invalid (length : Nat) :
    endOfStream s!"invalid control frame length {length}" = false :=
  endOfStream_append "invalid control frame length " rfl (by decide)

theorem endOfStream_malformed (reason : String) :
    endOfStream (CodecError.malformed reason).message = false :=
  endOfStream_append "malformed frame: " rfl (by decide)

theorem readControlFrame_fault {stream rest : List UInt8} {e : CodecError}
    (h : format.frames.front stream = .fault e rest) :
    ∃ message unread, format.readControlFrame stream = (.error message, unread) ∧
      endOfStream message = false := by
  by_cases hshort : stream.length < 4
  · rw [front_short hshort] at h
    cases h
  · rw [front_header hshort, payloadFront] at h
    rw [readControlFrame, readExact, if_pos (Nat.le_of_not_lt hshort)]
    simp only
    split at h
    · rename_i hmax
      rw [if_pos (.inr hmax)]
      exact ⟨_, _, rfl, endOfStream_invalid _⟩
    · split at h
      · rename_i hzero
        rw [if_pos (.inl hzero)]
        exact ⟨_, _, rfl, endOfStream_invalid _⟩
      · rename_i hmax hzero
        split at h
        · cases h
        · rename_i hbody
          rw [if_neg (by omega), readExact, if_pos (Nat.le_of_not_lt hbody)]
          simp only [decodeFramePayload] at h ⊢
          cases hread : format.fromBytes
              ((stream.drop 4).take (Bytes.ofBigEndian (stream.take 4))) with
          | ok frame =>
            simp only [hread, Except.mapError] at h
            cases h
          | error reason => exact ⟨_, _, rfl, endOfStream_malformed reason⟩

/-- **Reading takes the frames one by one**, and then fails. -/
theorem readAll_of_cut {stream tail : List UInt8} {frames : List Frame}
    (hcut : format.frames.Cut stream frames tail) (hends : format.frames.Ends tail) :
    (format.readAll stream).1 = frames ∧
      (endOfStream (format.readAll stream).2 = true ↔ format.frames.front tail = .incomplete) := by
  induction hcut with
  | nil stream =>
    rw [readAll_eq]
    cases hfront : format.frames.front stream with
    | item frame rest => exact absurd hfront (hends frame rest)
    | incomplete =>
      obtain ⟨message, hread, hend⟩ := readControlFrame_incomplete hfront
      rw [hread]
      exact ⟨rfl, iff_of_true hend rfl⟩
    | fault e rest =>
      obtain ⟨message, unread, hread, hend⟩ := readControlFrame_fault hfront
      rw [hread]
      refine ⟨rfl, iff_of_false (fun h => ?_) fun h => ?_⟩
      · rw [hend] at h
        cases h
      · cases h
  | cons hfront _ ih =>
    rw [readAll_eq, readControlFrame_of_item hfront]
    obtain ⟨hframes, hend⟩ := ih hends
    exact ⟨congrArg _ hframes, hend⟩

/-- The two decoders make the same of the bytes in these chunks: the frames they give,
and whether a malformed frame or a bad length has stopped them. -/
def Agree (format : FrameFormat) (chunks : List (List UInt8)) : Prop :=
  (format.decodeAll [] chunks).1 = (format.readAll chunks.flatten).1 ∧
    ((format.decodeAll [] chunks).2.isSome ↔
      endOfStream (format.readAll chunks.flatten).2 = false)

end FrameFormat

/-- **When the decoders agree**: on any stream without a malformed frame or a bad length,
and on one where some chunk ends when the frames before the first of these are in and
it is not yet. -/
theorem decoders_agree_iff (format : FrameFormat) (chunks : List (List UInt8)) :
    format.Agree chunks ↔ ∀ frames tail e rest, format.frames.Cut chunks.flatten frames tail →
      format.frames.front tail = .fault e rest → format.frames.Boundary [] chunks frames := by
  obtain ⟨frames, tail, hcut, hends⟩ := format.frames.exists_cut chunks.flatten
  obtain ⟨hread, hend⟩ := FrameFormat.readAll_of_cut hcut hends
  unfold FrameFormat.Agree
  rw [FrameFormat.decodeAll_eq_receive, hread]
  cases hfront : format.frames.front tail with
  | item frame rest => exact absurd hfront (hends frame rest)
  | incomplete =>
    rw [Splitter.receive_incomplete format.frames.front_nil hcut hfront]
    refine iff_of_true ⟨rfl, ?_⟩ fun frames' tail' e rest hcut' hfault => ?_
    · rw [hend.mpr hfront]
      exact iff_of_false Bool.false_ne_true Bool.noConfusion
    · obtain ⟨-, rfl⟩ := hcut.unique hends hcut' (Splitter.ends_fault hfault)
      rw [hfront] at hfault
      cases hfault
  | fault e rest =>
    obtain ⟨hstopped, hiff⟩ := Splitter.receive_fault format.frames.front_nil hcut hfront
    have hnot : endOfStream (format.readAll chunks.flatten).2 = false := by
      rw [Bool.eq_false_iff]
      intro hall
      rw [hend.mp hall] at hfront
      cases hfront
    rw [hstopped, hnot, hiff]
    constructor
    · rintro ⟨hboundary, -⟩ frames' tail' e' rest' hcut' hfault'
      obtain ⟨rfl, -⟩ := hcut.unique hends hcut' (Splitter.ends_fault hfault')
      exact hboundary
    · intro hall
      exact ⟨hall frames tail e rest hcut hfront, iff_of_true rfl rfl⟩

/-- **A frame and a bad length in one chunk**: one decoder gives the frame. -/
theorem frame_lost :
    let chunk : List UInt8 := [0, 0, 0, 1, 16, 0, 0, 0, 0]
    postcardFormat.readAll chunk = ([.goodbye], "invalid control frame length 0") ∧
      postcardFormat.decodeAll [] [chunk] = ([], some .invalidLength) ∧
      ¬postcardFormat.Agree [chunk] := by
  intro chunk
  have hread : postcardFormat.readAll chunk = ([.goodbye], "invalid control frame length 0") := by
    have hframe : postcardFormat.readControlFrame chunk = (.ok .goodbye, [0, 0, 0, 0]) := by
      decide +kernel
    have hbad : postcardFormat.readControlFrame [0, 0, 0, 0] =
        (.error "invalid control frame length 0", []) := by decide +kernel
    rw [FrameFormat.readAll_eq, hframe]
    simp only
    rw [FrameFormat.readAll_eq, hbad]
  have hdecoded : postcardFormat.decodeAll [] [chunk] = ([], some .invalidLength) := by
    have hgoodbye : postcardFormat.encodeFrame .goodbye = .ok [0, 0, 0, 1, 16] := by decide +kernel
    have hfront := FrameFormat.encodeFrame_written postcardFormat_lawful hgoodbye [0, 0, 0, 0]
    have hcut : postcardFormat.frames.Cut chunk [.goodbye] [0, 0, 0, 0] := .cons hfront (.nil _)
    have hfault : postcardFormat.frames.front [0, 0, 0, 0] = .fault .invalidLength [0, 0, 0, 0] := by
      rw [FrameFormat.front_header (by decide), FrameFormat.payloadFront, if_neg (by decide),
        if_pos (by decide)]
    rw [FrameFormat.decodeAll_eq_receive, Splitter.receive, List.nil_append,
      hcut.drain_fault hfault]
  refine ⟨hread, hdecoded, fun hagree => ?_⟩
  obtain ⟨hframes, -⟩ := hagree
  rw [hdecoded, List.flatten_singleton, hread] at hframes
  cases hframes

end OngrokRelay
