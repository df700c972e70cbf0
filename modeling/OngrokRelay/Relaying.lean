import OngrokRelay.Conveyor

/-
  Bytes relayed between a socket and a tunnel, in both directions at once.

  `forward_tcp_connection` of the server and `handle_data_stream` of the client end alike:
  two futures, each a `copy` and the shutdown of its writer, under one `try_join!`. The
  first error ends them both and drops the four halves. A future's I/O call completes as
  the environment says, and not before there is something to complete it.

  1. `Copying.step_effect`: all that one I/O call of a direction can do.
  2. `Copying.sound_step`: it is a move of the row source, buffer, sink.
  3. `Copying.progress`: a direction goes on unless it has returned or there is nothing to
     read.

  Correspondence (Rust ↔ Lean):
    a byte stream one way                       ↔ `Pipe`
    `tokio::io::copy`, then `shutdown`          ↔ `Copying.step`
    `tokio::try_join!` of the two directions    ↔ `Relay.step`
-/

namespace OngrokRelay

open Conveyor

/-- One way of a byte connection: what is under way, and whether its writer has shut it
down. -/
structure Pipe where
  bytes : List UInt8 := []
  closed : Bool := false
  deriving DecidableEq

/-- The call a direction is in. -/
inductive CopyPc
  | copying
  | shutdown
  | returned
  deriving DecidableEq

/-- A pipe as a cell, cut off when the task that writes it has ended otherwise than by
shutting it down. -/
def Pipe.cell (p : Pipe) (cut : Bool) : Cell UInt8 := ⟨p.bytes, p.closed, cut⟩

structure Copying where
  pc : CopyPc := .copying
  buffer : List UInt8 := []
  readDone : Bool := false
  copied : Nat := 0
  deriving DecidableEq

def copyBufferSize : Nat := 8 * 1024

/-- What the I/O call of a direction comes to: a read or a write of up to `n` bytes, the
flush at the end of `copy`, the shutdown, or an error of any of them. -/
inductive CopyIo
  | read (n : Nat)
  | write (n : Nat)
  | flush
  | shutdown
  | error (e : String)
  deriving DecidableEq

def Copying.step (io : CopyIo) (source sink : Pipe) (c : Copying) :
    Except String (Pipe × Pipe × Copying) :=
  match c.pc, io with
  | .returned, _ => .ok (source, sink, c)
  | _, .error e => .error e
  | .copying, .read n =>
    if c.readDone ∨ copyBufferSize ≤ c.buffer.length then .ok (source, sink, c)
    else if source.bytes = [] then
      -- a read of no bytes is the end of the stream
      .ok (source, sink, if source.closed then { c with readDone := true } else c)
    else
      let n := min n (copyBufferSize - c.buffer.length)
      .ok ({ source with bytes := source.bytes.drop n }, sink,
        { c with buffer := c.buffer ++ source.bytes.take n })
  | .copying, .write n =>
    if c.buffer = [] then .ok (source, sink, c)
    else if n = 0 then .error "write zero byte into writer"
    else
      .ok (source, { sink with bytes := sink.bytes ++ c.buffer.take n },
        { c with
          buffer := c.buffer.drop n
          copied := c.copied + (c.buffer.take n).length })
  | .copying, .flush =>
    if c.readDone ∧ c.buffer = [] then .ok (source, sink, { c with pc := .shutdown })
    else .ok (source, sink, c)
  | .shutdown, .shutdown => .ok (source, { sink with closed := true }, { c with pc := .returned })
  | _, _ => .ok (source, sink, c)

/-- The streams of a relay. -/
structure Ends where
  socketIn : Pipe
  socketOut : Pipe
  tunnelIn : Pipe
  tunnelOut : Pipe

/-- From the socket into the tunnel, or from the tunnel to the socket. -/
inductive Direction
  | outward
  | inward
  deriving DecidableEq

/-- Which direction's I/O call completes, and how. Should it fail, the streams are dropped;
whether a dropped half tells its peer that it has ended is up to the transport. -/
structure RelayEnv where
  direction : Direction
  io : CopyIo
  dropSocket : Bool := false
  dropTunnel : Bool := false

structure Relay where
  outward : Copying := {}
  inward : Copying := {}
  result : Option (Except String (Nat × Nat)) := none
  deriving DecidableEq

/-- The four halves are dropped. -/
def Ends.dropped (dropSocket dropTunnel : Bool) (ends : Ends) : Ends :=
  { ends with
    socketOut := { ends.socketOut with closed := ends.socketOut.closed || dropSocket }
    tunnelOut := { ends.tunnelOut with closed := ends.tunnelOut.closed || dropTunnel } }

/-- `try_join!` is ready once both of its futures are. -/
def Relay.joined (r : Relay) : Relay :=
  if r.outward.pc = .returned ∧ r.inward.pc = .returned then
    { r with result := some (.ok (r.outward.copied, r.inward.copied)) }
  else r

def Relay.step (context : String) (env : RelayEnv) (ends : Ends) (r : Relay) : Ends × Relay :=
  match r.result with
  | some _ => (ends, r)
  | none =>
    match env.direction with
    | .outward =>
      match r.outward.step env.io ends.socketIn ends.tunnelOut with
      | .error _ =>
        (ends.dropped env.dropSocket env.dropTunnel, { r with result := some (.error context) })
      | .ok (source, sink, c) =>
        ({ ends with socketIn := source, tunnelOut := sink }, { r with outward := c }.joined)
    | .inward =>
      match r.inward.step env.io ends.tunnelIn ends.socketOut with
      | .error _ =>
        (ends.dropped env.dropSocket env.dropTunnel, { r with result := some (.error context) })
      | .ok (source, sink, c) =>
        ({ ends with tunnelIn := source, socketOut := sink }, { r with inward := c }.joined)

/-! ## One I/O call -/

/-- All that a completed I/O call of a direction can do. -/
inductive CopyEffect (source sink : Pipe) (c : Copying) : Pipe → Pipe → Copying → Prop
  | none : CopyEffect source sink c source sink c
  | read (n : Nat) (pc : c.pc = .copying) (more : c.readDone = false) :
    CopyEffect source sink c { source with bytes := source.bytes.drop n } sink
      { c with buffer := c.buffer ++ source.bytes.take n }
  | eof (pc : c.pc = .copying) (empty : source.bytes = []) (closed : source.closed = true) :
    CopyEffect source sink c source sink { c with readDone := true }
  | write (n : Nat) (pc : c.pc = .copying) :
    CopyEffect source sink c source { sink with bytes := sink.bytes ++ c.buffer.take n }
      { c with buffer := c.buffer.drop n, copied := c.copied + (c.buffer.take n).length }
  | flush (pc : c.pc = .copying) (done : c.readDone = true) (empty : c.buffer = []) :
    CopyEffect source sink c source sink { c with pc := .shutdown }
  | shutdown (pc : c.pc = .shutdown) :
    CopyEffect source sink c source { sink with closed := true } { c with pc := .returned }

/-- Nothing is added to the source. -/
theorem CopyEffect.source_nil {source source' sink sink' : Pipe} {c c' : Copying}
    (h : CopyEffect source sink c source' sink' c') (hnil : source.bytes = []) :
    source'.bytes = [] := by
  cases h with
  | none | eof | write | flush | shutdown => exact hnil
  | read n => simp only [hnil, List.drop_nil]

namespace Copying

variable {io : CopyIo} {source source' sink sink' : Pipe} {c c' : Copying}

/-- **Inversion of one I/O call.** -/
theorem step_effect (h : c.step io source sink = .ok (source', sink', c')) :
    CopyEffect source sink c source' sink' c' := by
  unfold step at h
  split at h
  · cases h
    exact .none
  · cases h
  · rename_i n hpc
    split at h
    · cases h
      exact .none
    · rename_i hmore
      split at h
      · rename_i hempty
        cases h
        split
        · rename_i hclosed
          exact .eof hpc hempty hclosed
        · exact .none
      · cases h
        exact .read _ hpc (by simpa using fun hd => hmore (.inl hd))
  · rename_i n hpc
    split at h
    · cases h
      exact .none
    · split at h
      · cases h
      · cases h
        exact .write n hpc
  · rename_i hpc
    split at h
    · rename_i hdone
      cases h
      exact .flush hpc hdone.1 hdone.2
    · cases h
      exact .none
  · rename_i hpc
    cases h
    exact .shutdown hpc
  · cases h
    exact .none

/-- A direction that is past `copy` has written everything it has read, and has shut its
writer down exactly when it has returned. -/
structure Fits (c : Copying) (sink : Pipe) : Prop where
  drained : c.pc ≠ .copying → c.readDone = true ∧ c.buffer = []
  shut : sink.closed = true ↔ c.pc = .returned

theorem Fits.step (h : c.Fits sink) (hstep : CopyEffect source sink c source' sink' c') :
    c'.Fits sink' := by
  cases hstep with
  | none => exact h
  | read n pc more => exact ⟨fun hne => absurd pc hne, h.shut⟩
  | eof pc empty closed => exact ⟨fun hne => absurd pc hne, h.shut⟩
  | write n pc => exact ⟨fun hne => absurd pc hne, h.shut⟩
  | flush pc done empty =>
    exact ⟨fun _ => ⟨done, empty⟩, h.shut.trans (by simp [pc])⟩
  | shutdown pc => exact ⟨fun _ => h.drained (by rw [pc]; simp), by simp⟩

/-- The buffer of `copy` as a cell. -/
def cell (c : Copying) : Cell UInt8 := ⟨c.buffer, c.readDone, false⟩

/-! ## A move of the row -/

variable {sent : List UInt8} {back : List (Cell UInt8)} {cutSink cutSource : Bool}

/-- **An I/O call is a move** of the row in which the buffer stands between its source and
its sink. -/
theorem sound_step (front back : List (Cell UInt8))
    (h : Sound sent (front ++ sink.cell cutSink :: c.cell ::
      source.cell cutSource :: back))
    (hfits : c.Fits sink) (hstep : CopyEffect source sink c source' sink' c') :
    Sound sent (front ++ sink'.cell cutSink :: c'.cell :: source'.cell cutSource :: back) := by
  cases hstep with
  | none => exact h
  | read n pc more =>
    rw [List.append_cons] at h ⊢
    exact h.hand _ more n
  | eof pc empty closed =>
    rw [List.append_cons] at h ⊢
    exact h.finish _ ⟨closed, empty⟩
  | write n pc =>
    refine h.hand _ ?_ n
    cases hclosed : sink.closed with
    | false => exact hclosed
    | true =>
      rw [hfits.shut.mp hclosed] at pc
      cases pc
  | flush pc done empty => exact h
  | shutdown pc => exact h.finish _ (hfits.drained (by rw [pc]; simp))

/-- What a direction has copied is what has come past its buffer. -/
theorem copied_step {n : Nat} (hcopied : c.copied = n + sink.bytes.length)
    (hstep : CopyEffect source sink c source' sink' c') :
    c'.copied = n + sink'.bytes.length := by
  cases hstep with
  | none | read | eof | flush | shutdown => exact hcopied
  | write k pc => simp only [hcopied, List.length_append, Nat.add_assoc]

/-- What stands at the front of the sink does not matter. -/
theorem step_behind {before bytes : List UInt8} (hsink : sink.bytes = before ++ bytes)
    (hstep : CopyEffect source sink c source' sink' c') :
    ∃ bytes', sink'.bytes = before ++ bytes' ∧
      CopyEffect source { sink with bytes } c source' { sink' with bytes := bytes' } c' := by
  cases hstep with
  | none => exact ⟨bytes, hsink, .none⟩
  | read n pc more => exact ⟨bytes, hsink, .read n pc more⟩
  | eof pc empty closed => exact ⟨bytes, hsink, .eof pc empty closed⟩
  | write n pc =>
    exact ⟨bytes ++ c.buffer.take n, by simp only [hsink, List.append_assoc], .write n pc⟩
  | flush pc done empty => exact ⟨bytes, hsink, .flush pc done empty⟩
  | shutdown pc => exact ⟨bytes, hsink, .shutdown pc⟩

/-! ## Going on -/

/-- The calls between `copy` and the return. -/
def ahead : CopyPc → Nat
  | .copying => 2
  | .shutdown => 1
  | .returned => 0

/-- A direction that waits for its source, or has returned. -/
def Idle (source : Pipe) (c : Copying) : Prop :=
  c.pc = .returned ∨
    c.pc = .copying ∧ c.buffer = [] ∧ c.readDone = false ∧ source.bytes = [] ∧
      source.closed = false

/-- **A direction goes on** unless it waits for its source or has returned. -/
theorem progress (hfits : c.Fits sink) (hidle : ¬c.Idle source) :
    ∃ io source' sink' c', c.step io source sink = .ok (source', sink', c') ∧
      ∀ front back cutSink cutSource,
        potential (front ++ sink'.cell cutSink :: c'.cell :: source'.cell cutSource :: back) +
            ahead c'.pc <
          potential (front ++ sink.cell cutSink :: c.cell :: source.cell cutSource :: back) +
            ahead c.pc := by
  cases hpc : c.pc with
  | returned => exact absurd (.inl hpc) hidle
  | shutdown =>
    have hopen : sink.closed = false := by
      cases hclosed : sink.closed with
      | false => rfl
      | true =>
        rw [hfits.shut.mp hclosed] at hpc
        cases hpc
    refine ⟨.shutdown, source, { sink with closed := true }, { c with pc := .returned },
      by simp [step, hpc], fun front back cutSink cutSource => ?_⟩
    simp only [ahead]
    exact Nat.lt_add_right 1 (potential_finish front _ (sink.cell cutSink) hopen)
  | copying =>
    by_cases hbuffer : c.buffer = []
    · cases hdone : c.readDone with
      | true =>
        refine ⟨.flush, source, sink, { c with pc := .shutdown }, by simp [step, hpc, hdone, hbuffer],
          fun front back cutSink cutSource => ?_⟩
        simp only [ahead]
        exact Nat.lt_succ_self _
      | false =>
        have hroom : ¬(c.readDone ∨ copyBufferSize ≤ c.buffer.length) := by
          simp [hdone, hbuffer, copyBufferSize]
        by_cases hbytes : source.bytes = []
        · cases hclosed : source.closed with
          | false => exact absurd (.inr ⟨hpc, hbuffer, hdone, hbytes, hclosed⟩) hidle
          | true =>
            refine ⟨.read 1, source, sink, { c with readDone := true },
              by simp only [step, hpc, if_neg hroom, if_pos hbytes, hclosed, if_true],
              fun front back cutSink cutSource => ?_⟩
            rw [hpc, List.append_cons, List.append_cons front _ (c.cell :: _)]
            exact Nat.add_lt_add_right
              (potential_finish (front ++ [sink.cell cutSink]) _ c.cell hdone) 2
        · refine ⟨.read 1, { source with bytes := source.bytes.drop 1 }, sink,
            { c with buffer := c.buffer ++ source.bytes.take 1 }, ?_,
            fun front back cutSink cutSource => ?_⟩
          · have hmin : min 1 (copyBufferSize - c.buffer.length) = 1 := by
              simp [hbuffer, copyBufferSize]
            simp only [step, hpc, if_neg hroom, if_neg hbytes, hmin]
          · rw [hpc, List.append_cons, List.append_cons front _ (c.cell :: _)]
            exact Nat.add_lt_add_right
              (potential_hand (front ++ [sink.cell cutSink]) _ c.cell (source.cell cutSource)
                Nat.one_ne_zero hbytes) 2
    · refine ⟨.write 1, source, { sink with bytes := sink.bytes ++ c.buffer.take 1 },
        { c with
          buffer := c.buffer.drop 1
          copied := c.copied + (c.buffer.take 1).length },
        by simp only [step, hpc, if_neg hbuffer, if_neg Nat.one_ne_zero],
        fun front back cutSink cutSource => ?_⟩
      rw [hpc]
      exact Nat.add_lt_add_right
        (potential_hand front _ (sink.cell cutSink) c.cell Nat.one_ne_zero hbuffer) 2

end Copying

/-! ## One way through two relays -/

/-- What is on its way from one peer to the other: the pipe the sender writes, the buffer of
the first relay, the pipe between the two, the buffer of the second, the pipe the receiver
reads. -/
structure Way where
  sent : List UInt8
  entry : Pipe
  first : Copying
  middle : Pipe
  second : Copying
  exit : Pipe
  received : List UInt8
  sawEnd : Bool
  firstFailed : Bool
  secondFailed : Bool

namespace Way

def row (w : Way) : List (Cell UInt8) :=
  [⟨w.received, w.sawEnd, false⟩, w.exit.cell w.secondFailed, w.second.cell,
    w.middle.cell w.firstFailed, w.first.cell, w.entry.cell false]

/-- The row is sound, each relay that has not failed fits its sink, and has copied what has
come past it. -/
structure Flows (w : Way) : Prop where
  sound : Sound w.sent w.row
  firstFits : w.firstFailed = false → w.first.Fits w.middle
  secondFits : w.secondFailed = false → w.second.Fits w.exit
  firstCopied : w.first.copied =
    (w.received.length + w.exit.bytes.length + w.second.buffer.length) + w.middle.bytes.length
  secondCopied : w.second.copied = w.received.length + w.exit.bytes.length

variable {w : Way}

theorem Flows.firstStep (h : w.Flows) (hok : w.firstFailed = false) {entry middle : Pipe}
    {first : Copying} (heffect : CopyEffect w.entry w.middle w.first entry middle first) :
    { w with entry, middle, first }.Flows where
  sound := Copying.sound_step [⟨w.received, w.sawEnd, false⟩,
    w.exit.cell w.secondFailed, w.second.cell] [] h.sound (h.firstFits hok) heffect
  firstFits _ := (h.firstFits hok).step heffect
  secondFits := h.secondFits
  firstCopied := Copying.copied_step h.firstCopied heffect
  secondCopied := h.secondCopied

/-- A read of the second relay takes from the pipe between the two what it adds to its
buffer. -/
theorem read_length {source source' sink sink' : Pipe} {c c' : Copying}
    (heffect : CopyEffect source sink c source' sink' c') :
    sink'.bytes.length + c'.buffer.length + source'.bytes.length =
      sink.bytes.length + c.buffer.length + source.bytes.length := by
  cases heffect with
  | none | eof | flush | shutdown => rfl
  | read n => simp only [List.length_append, List.length_take, List.length_drop]; omega
  | write n => simp only [List.length_append, List.length_take, List.length_drop]; omega

theorem Flows.secondStep (h : w.Flows) (hok : w.secondFailed = false) {middle exit : Pipe}
    {second : Copying} (heffect : CopyEffect w.middle w.exit w.second middle exit second) :
    { w with middle, exit, second }.Flows where
  sound := Copying.sound_step [⟨w.received, w.sawEnd, false⟩] _ h.sound (h.secondFits hok) heffect
  firstFits hfirst := by
    have hclosed : middle.closed = w.middle.closed := by cases heffect <;> rfl
    exact ⟨(h.firstFits hfirst).drained, by rw [hclosed]; exact (h.firstFits hfirst).shut⟩
  secondFits _ := (h.secondFits hok).step heffect
  firstCopied := by
    have hlength := read_length heffect
    have hcopied := h.firstCopied
    simp only
    omega
  secondCopied := Copying.copied_step h.secondCopied heffect

/-- The first relay fails. -/
theorem Flows.firstCut (h : w.Flows) (dropped : Bool) :
    { w with
      firstFailed := true
      middle := { w.middle with closed := w.middle.closed || dropped } }.Flows where
  sound := h.sound.cut [⟨w.received, w.sawEnd, false⟩, w.exit.cell w.secondFailed,
    w.second.cell] (w.middle.closed || dropped) fun hclosed => Bool.or_eq_true _ _ ▸ .inl hclosed
  firstFits hfirst := by cases hfirst
  secondFits := h.secondFits
  firstCopied := h.firstCopied
  secondCopied := h.secondCopied

/-- The second relay fails. -/
theorem Flows.secondCut (h : w.Flows) (dropped : Bool) :
    { w with
      secondFailed := true
      exit := { w.exit with closed := w.exit.closed || dropped } }.Flows where
  sound := h.sound.cut [⟨w.received, w.sawEnd, false⟩] (w.exit.closed || dropped)
    fun hclosed => Bool.or_eq_true _ _ ▸ .inl hclosed
  firstFits := h.firstFits
  secondFits hsecond := by cases hsecond
  firstCopied := h.firstCopied
  secondCopied := h.secondCopied

/-- The sender sends. -/
theorem Flows.send (h : w.Flows) (hopen : w.entry.closed = false) (bytes : List UInt8) :
    { w with
      sent := w.sent ++ bytes
      entry := { w.entry with bytes := w.entry.bytes ++ bytes } }.Flows where
  sound := h.sound.put [⟨w.received, w.sawEnd, false⟩, w.exit.cell w.secondFailed,
    w.second.cell, w.middle.cell w.firstFailed, w.first.cell] hopen bytes
  firstFits := h.firstFits
  secondFits := h.secondFits
  firstCopied := h.firstCopied
  secondCopied := h.secondCopied

/-- The sender shuts its pipe down. -/
theorem Flows.close (h : w.Flows) : { w with entry := { w.entry with closed := true } }.Flows where
  sound := h.sound.close [⟨w.received, w.sawEnd, false⟩, w.exit.cell w.secondFailed,
    w.second.cell, w.middle.cell w.firstFailed, w.first.cell]
  firstFits := h.firstFits
  secondFits := h.secondFits
  firstCopied := h.firstCopied
  secondCopied := h.secondCopied

/-- The receiver receives. -/
theorem Flows.receive (h : w.Flows) (hopen : w.sawEnd = false) (n : Nat) :
    { w with
      received := w.received ++ w.exit.bytes.take n
      exit := { w.exit with bytes := w.exit.bytes.drop n } }.Flows where
  sound := h.sound.hand [] hopen n
  firstFits := h.firstFits
  secondFits hsecond := ⟨(h.secondFits hsecond).drained, (h.secondFits hsecond).shut⟩
  firstCopied := by
    have hcopied := h.firstCopied
    simp only [List.length_append, List.length_take, List.length_drop]
    omega
  secondCopied := by
    have hcopied := h.secondCopied
    simp only [List.length_append, List.length_take, List.length_drop]
    omega

/-- The receiver comes to the end. -/
theorem Flows.sawEnd (h : w.Flows) (hempty : w.exit.bytes = []) (hclosed : w.exit.closed = true) :
    { w with sawEnd := true }.Flows where
  sound := h.sound.finish [] ⟨hclosed, hempty⟩
  firstFits := h.firstFits
  secondFits := h.secondFits
  firstCopied := h.firstCopied
  secondCopied := h.secondCopied

/-! ## What a relay has copied once it has returned -/

/-- A direction that is past `copy` has come to the end of its source. -/
theorem ended_of_past {c d : Cell UInt8} (h : Follows c d) (hcut : c.cut = false)
    (hended : c.ended = true) : d.ended = true ∧ d.items = [] := by
  rcases h hended with h | h
  · rw [hcut] at h
    cases h
  · exact h

theorem Flows.first_returned (h : w.Flows) (hok : w.firstFailed = false)
    (hpc : w.first.pc = .returned) : w.first.copied = w.sent.length ∧ w.entry.closed = true := by
  obtain ⟨hdone, hbuffer⟩ := (h.firstFits hok).drained (by rw [hpc]; simp)
  have hfollows := h.sound.follows
  simp only [row, List.isChain_cons_cons] at hfollows
  obtain ⟨hclosed, hentry⟩ := ended_of_past hfollows.2.2.2.2.1 rfl hdone
  refine ⟨?_, hclosed⟩
  have hheld := congrArg List.length h.sound.held
  simp only [Pipe.cell] at hentry
  simp only [row, held_cons, held_nil, Pipe.cell, Copying.cell, hbuffer, hentry,
    List.length_append, List.length_nil] at hheld
  rw [h.firstCopied, ← hheld]
  omega

theorem Flows.second_returned (h : w.Flows) (hfirst : w.firstFailed = false)
    (hok : w.secondFailed = false) (hpc : w.second.pc = .returned) :
    w.second.copied = w.sent.length ∧ w.first.copied = w.sent.length := by
  obtain ⟨hdone, hbuffer⟩ := (h.secondFits hok).drained (by rw [hpc]; simp)
  have hfollows := h.sound.follows
  simp only [row, List.isChain_cons_cons] at hfollows
  obtain ⟨hclosed, hmiddle⟩ := ended_of_past hfollows.2.2.1 rfl hdone
  obtain ⟨hcopied, -⟩ := h.first_returned hfirst ((h.firstFits hfirst).shut.mp hclosed)
  refine ⟨?_, hcopied⟩
  have hpast := h.firstCopied
  simp only [Pipe.cell] at hmiddle
  rw [hbuffer, hmiddle, hcopied] at hpast
  rw [h.secondCopied, hpast]
  rfl

/-! ## Arriving -/

/-- Everything is received, and the end as well if there is one. -/
structure Settled (w : Way) : Prop where
  received : w.received = w.sent
  ended : w.entry.closed = true →
    w.sawEnd = true ∧ w.first.pc = .returned ∧ w.second.pc = .returned

/-- An I/O call of one of the relays, or a read of the receiver. -/
inductive Move (w : Way) : Way → Prop
  | first (io : CopyIo) {entry middle : Pipe} {first : Copying}
      (step : w.first.step io w.entry w.middle = .ok (entry, middle, first)) :
    Move w { w with entry, middle, first }
  | second (io : CopyIo) {middle exit : Pipe} {second : Copying}
      (step : w.second.step io w.middle w.exit = .ok (middle, exit, second)) :
    Move w { w with middle, exit, second }
  | receive (more : w.sawEnd = false) (bytes : w.exit.bytes ≠ []) :
    Move w { w with
      received := w.received ++ w.exit.bytes.take 1
      exit := { w.exit with bytes := w.exit.bytes.drop 1 } }
  | finished (more : w.sawEnd = false) (empty : w.exit.bytes = []) (closed : w.exit.closed = true) :
    Move w { w with sawEnd := true }

/-- What is left to do when nothing more is sent. -/
def left (w : Way) : Nat := potential w.row + Copying.ahead w.first.pc + Copying.ahead w.second.pc

theorem Flows.settled_of_sawEnd (h : w.Flows) (hfirst : w.firstFailed = false)
    (hsecond : w.secondFailed = false) (hend : w.sawEnd = true) : w.Settled := by
  have hcut : ∀ c ∈ w.row, c.cut = false := by
    simp [row, Pipe.cell, Copying.cell, hfirst, hsecond]
  obtain ⟨hreceived, hall⟩ := h.sound.complete hend hcut
  refine ⟨hreceived, fun _ => ⟨hend, ?_, ?_⟩⟩
  · exact (h.firstFits hfirst).shut.mp (hall (w.middle.cell w.firstFailed) (by simp))
  · exact (h.secondFits hsecond).shut.mp (hall (w.exit.cell w.secondFailed) (by simp))

/-- **Bytes under way go on**: as long as neither relay has failed, either everything has
arrived, or one of the two, or the receiver, can take it further. -/
theorem Flows.progress (h : w.Flows) (hfirst : w.firstFailed = false)
    (hsecond : w.secondFailed = false) :
    w.Settled ∨ ∃ w', w.Move w' ∧ w'.left < w.left := by
  by_cases hidle : w.first.Idle w.entry
  · by_cases hidle' : w.second.Idle w.middle
    · cases hend : w.sawEnd with
      | true => exact .inl (h.settled_of_sawEnd hfirst hsecond hend)
      | false =>
        by_cases hbytes : w.exit.bytes = []
        · cases hclosed : w.exit.closed with
          | true =>
            refine .inr ⟨_, .finished hend hbytes hclosed, ?_⟩
            have hlt := potential_finish [] w.row.tail ⟨w.received, w.sawEnd, false⟩ hend
            exact Nat.add_lt_add_right (Nat.add_lt_add_right hlt _) _
          | false =>
            -- both relays wait for their sources, so nothing is under way
            left
            have hreturned : w.second.pc ≠ .returned := by
              rw [Ne, ← (h.secondFits hsecond).shut, hclosed]
              simp
            obtain hpc | ⟨-, hbuffer, -, hmiddle, hopen⟩ := hidle'
            · exact absurd hpc hreturned
            · have hreturned' : w.first.pc ≠ .returned := by
                rw [Ne, ← (h.firstFits hfirst).shut, hopen]
                simp
              obtain hpc | ⟨-, hbuffer', -, hentry, hopen'⟩ := hidle
              · exact absurd hpc hreturned'
              · refine ⟨?_, fun hclosed' => by rw [hopen'] at hclosed'; cases hclosed'⟩
                have hheld := h.sound.held
                simpa [row, Pipe.cell, Copying.cell, hbytes, hbuffer, hmiddle, hbuffer', hentry]
                  using hheld
        · refine .inr ⟨_, .receive hend hbytes, ?_⟩
          have hlt := potential_hand [] w.row.tail.tail ⟨w.received, w.sawEnd, false⟩
            (w.exit.cell w.secondFailed) Nat.one_ne_zero hbytes
          exact Nat.add_lt_add_right (Nat.add_lt_add_right hlt _) _
    · obtain ⟨io, middle, exit, second, hstep, hlt⟩ :=
        Copying.progress (h.secondFits hsecond) hidle'
      refine .inr ⟨_, .second io hstep, ?_⟩
      have hlt' := hlt [⟨w.received, w.sawEnd, false⟩] [w.first.cell, w.entry.cell false]
        w.secondFailed w.firstFailed
      show potential _ + Copying.ahead w.first.pc + Copying.ahead second.pc <
        potential _ + Copying.ahead w.first.pc + Copying.ahead w.second.pc
      rw [Nat.add_right_comm, Nat.add_right_comm _ (Copying.ahead w.first.pc)]
      exact Nat.add_lt_add_right hlt' _
  · obtain ⟨io, entry, middle, first, hstep, hlt⟩ := Copying.progress (h.firstFits hfirst) hidle
    refine .inr ⟨_, .first io hstep, ?_⟩
    exact Nat.add_lt_add_right (hlt [⟨w.received, w.sawEnd, false⟩, w.exit.cell w.secondFailed,
      w.second.cell] [] w.firstFailed false) _

end Way
end OngrokRelay
