import OngrokRelay.YamuxDriver

/-
  What the callers of a Yamux session see of it (`YamuxSession::open_stream` and
  `next_inbound`).

  Any number of tasks hold a handle. What the peer opens goes through the connection, the
  driver and the inbound channel to whichever of them asks for the next stream; what they
  ask for goes through the outbound channel to the driver, and its reply to the one that
  has asked. The lists of what has been opened, taken and asked for are kept beside the
  session.

  1. `InOrder.next`: until the driver leaves nothing is lost, and nothing is ever taken or
     answered twice or out of turn; when it leaves, all that waits is answered.
  2. `streams_in_order`: so it is in every run.
  3. `late_requests_refused`: what is asked after that fails at once.
  4. `streams_settle`: as long as the driver has not left, everything opened can be taken
     and everything asked for answered.

  Correspondence (Rust ↔ Lean):
    `next_inbound`   ↔ `YamuxCall.take`
    `open_stream`    ↔ `YamuxEvent.request`, with the replies in `YamuxSession.responses`
-/

namespace OngrokRelay

open Transition

namespace YamuxSession

/-- The stream that the driver has in its hands. -/
def delivering (s : YamuxSession) : List Nat :=
  match s.pc with
  | .delivering stream => [stream]
  | _ => []

/-- The request that the driver is at. -/
def answering (s : YamuxSession) : List Nat :=
  match s.pc with
  | .opening request => [request]
  | _ => []

/-- The stream that the event takes, when it is that of the server's accept loop. -/
def controls (s : YamuxSession) : YamuxEvent → List Nat
  | .control =>
    match s.dropped, s.control, s.inbound with
    | false, none, stream :: _ => [stream]
    | _, _, _ => []
  | _ => []

/-- The request that the event makes. -/
def asks (s : YamuxSession) : YamuxEvent → List Nat
  | .request request => if s.dropped then [] else [request]
  | _ => []

end YamuxSession

def YamuxEvent.streams : YamuxEvent → List Nat
  | .opens stream => [stream]
  | _ => []

structure YamuxCalls where
  session : YamuxSession := {}
  opened : List Nat := []
  taken : List Nat := []
  asked : List Nat := []

inductive YamuxCall
  | session (e : YamuxEvent)
  /-- A call of `next_inbound` has a stream. -/
  | take

namespace YamuxCalls

def next (c : YamuxCalls) : YamuxCall → YamuxCalls
  | .session e =>
    { session := c.session.next e
      opened := c.opened ++ e.streams
      taken := c.taken ++ c.session.controls e
      asked := c.asked ++ c.session.asks e }
  | .take =>
    match c.session.dropped, c.session.inbound with
    | false, stream :: rest =>
      { c with
        session := { c.session with inbound := rest }
        taken := c.taken ++ [stream] }
    | _, _ => c

/-- Where every stream and every request is. `lost` is the stream that the driver had in its
hands when the last handle went. No request waits for a driver that has left. -/
structure InOrder (c : YamuxCalls) : Prop where
  streams : ∃ lost, c.taken ++ c.session.inbound ++ c.session.delivering ++ lost ++
      c.session.connection.arrived = c.opened ∧
    (lost ≠ [] → c.session.pc = .exited ∧ c.session.dropped = true)
  requests : c.session.responses.map Prod.fst ++ c.session.answering ++ c.session.requests = c.asked
  exited : c.session.pc = .exited → c.session.requests = []

/-! ## One event -/

/-- The driver leaves from its `select!`, or with a stream that nobody can take. -/
theorem exits_from {s s' : YamuxSession} {branch : DriverBranch}
    (h : s.driverStep branch = some s') (hexited : s'.pc = .exited) :
    s.pc = .select ∨ ∃ stream, s.pc = .delivering stream ∧ s.dropped = true := by
  unfold YamuxSession.driverStep at h
  cases hpc : s.pc with
  | select => exact .inl rfl
  | opening request =>
    simp only [hpc] at h
    split at h
    · cases h
    · cases h
      cases hexited
  | delivering stream =>
    simp only [hpc] at h
    split at h
    · rename_i hdropped
      exact .inr ⟨stream, rfl, hdropped⟩
    · split at h
      · cases h
        cases hexited
      · cases h
  | exited =>
    simp only [hpc] at h
    cases h

theorem InOrder.driver {c : YamuxCalls} (h : c.InOrder) {branch : DriverBranch} {s' : YamuxSession}
    (hstep : c.session.driverStep branch = some s') : InOrder { c with session := s' } := by
  obtain ⟨lost, hstreams, hlost⟩ := h.streams
  have hrequests := h.requests
  have hexits := exits_from hstep
  -- nothing is lost before the driver leaves
  have hnone (hpc : c.session.pc ≠ .exited) : lost = [] :=
    Classical.byContradiction fun hne => hpc (hlost hne).1
  simp only [YamuxSession.delivering, YamuxSession.answering] at hstreams hrequests
  cases YamuxSession.driverStep_cases hstep with
  | requested request rest hpc hwaiting =>
    obtain rfl := hnone (by rw [hpc]; decide)
    simp only [hpc, hwaiting] at hstreams hrequests
    exact ⟨⟨[], hstreams, fun hne => absurd rfl hne⟩,
      by simpa [YamuxSession.answering] using hrequests, fun hexited => by cases hexited⟩
  | yielded stream rest hpc harrived =>
    obtain rfl := hnone (by rw [hpc]; decide)
    simp only [hpc, harrived] at hstreams hrequests
    exact ⟨⟨[], by simpa [YamuxSession.delivering] using hstreams, fun hne => absurd rfl hne⟩,
      hrequests, fun hexited => by cases hexited⟩
  | responded request result hpc hready =>
    obtain rfl := hnone (by rw [hpc]; simp)
    simp only [hpc] at hstreams hrequests
    exact ⟨⟨[], hstreams, fun hne => absurd rfl hne⟩,
      by simpa [YamuxSession.answering] using hrequests, fun hexited => by cases hexited⟩
  | delivered stream hpc hroom =>
    obtain rfl := hnone (by rw [hpc]; simp)
    simp only [hpc] at hstreams hrequests
    exact ⟨⟨[], by simpa [YamuxSession.delivering] using hstreams, fun hne => absurd rfl hne⟩,
      hrequests, fun hexited => by cases hexited⟩
  | left =>
    rcases hexits rfl with hpc | ⟨stream, hpc, hdropped⟩
    · obtain rfl := hnone (by rw [hpc]; decide)
      simp only [hpc] at hstreams hrequests
      exact ⟨⟨[], hstreams, fun hne => absurd rfl hne⟩,
        by simpa [YamuxSession.answering] using hrequests, fun _ => rfl⟩
    · obtain rfl := hnone (by rw [hpc]; simp)
      simp only [hpc] at hstreams hrequests
      exact ⟨⟨[stream], by simpa [YamuxSession.delivering] using hstreams, fun _ => ⟨rfl, hdropped⟩⟩,
        by simpa [YamuxSession.answering] using hrequests, fun _ => rfl⟩

theorem InOrder.take {c : YamuxCalls} (h : c.InOrder) : (c.next .take).InOrder := by
  simp only [next]
  split
  · rename_i stream rest _ hinbound
    obtain ⟨lost, hstreams, hlost⟩ := h.streams
    refine ⟨⟨lost, ?_, hlost⟩, h.requests, h.exited⟩
    rw [hinbound] at hstreams
    simpa [YamuxSession.delivering] using hstreams
  · exact h

/-- What moves neither a stream nor a request. -/
theorem InOrder.same {c : YamuxCalls} (h : c.InOrder) {s' : YamuxSession}
    (hpc : s'.pc = c.session.pc) (hinbound : s'.inbound = c.session.inbound)
    (harrived : s'.connection.arrived = c.session.connection.arrived)
    (hresponses : s'.responses = c.session.responses) (hrequests : s'.requests = c.session.requests)
    (hdropped : c.session.dropped = true → s'.dropped = true) :
    InOrder { c with session := s' } := by
  obtain ⟨lost, hstreams, hlost⟩ := h.streams
  refine ⟨⟨lost, ?_, fun hne => ⟨hpc.trans (hlost hne).1, hdropped (hlost hne).2⟩⟩, ?_,
    fun hexited => hrequests.trans (h.exited (hpc.symm.trans hexited))⟩
  · simp only [YamuxSession.delivering, hpc, hinbound, harrived]
    exact hstreams
  · simp only [YamuxSession.answering, hpc, hresponses, hrequests]
    exact h.requests

theorem next_quiet (c : YamuxCalls) {e : YamuxEvent} (hstreams : e.streams = [])
    (hcontrols : c.session.controls e = []) (hasks : c.session.asks e = []) :
    c.next (.session e) = { c with session := c.session.next e } := by
  simp only [next, hstreams, hcontrols, hasks, List.append_nil]

/-- **One event** loses nothing and repeats nothing. -/
theorem InOrder.next {c : YamuxCalls} (h : c.InOrder) (call : YamuxCall) : (c.next call).InOrder := by
  cases call with
  | take => exact h.take
  | session e =>
    cases e with
    | opens stream =>
      obtain ⟨lost, hstreams, hlost⟩ := h.streams
      refine ⟨⟨lost, ?_, hlost⟩, ?_, h.exited⟩
      · simp only [YamuxCalls.next, YamuxEvent.streams, YamuxSession.controls, ← hstreams,
          List.append_nil, List.append_assoc]
        rfl
      · simp only [YamuxCalls.next, YamuxSession.asks, List.append_nil]
        exact h.requests
    | request request =>
      obtain ⟨lost, hstreams, hlost⟩ := h.streams
      cases hdropped : c.session.dropped with
      | true =>
        rw [c.next_quiet rfl rfl (by simp only [YamuxSession.asks, hdropped, if_true])]
        exact h.same (by simp [YamuxSession.next, hdropped]) (by simp [YamuxSession.next, hdropped])
          (by simp [YamuxSession.next, hdropped]) (by simp [YamuxSession.next, hdropped])
          (by simp [YamuxSession.next, hdropped]) (by simp [YamuxSession.next, hdropped])
      | false =>
        have hlost : lost = [] := Classical.byContradiction fun hne => by
          rw [hdropped] at hlost
          exact absurd (hlost hne).2 (by decide)
        have hrequests := h.requests
        by_cases hexited : c.session.pc = .exited
        · have hwaiting := h.exited hexited
          simp only [YamuxSession.answering, hexited, hwaiting, List.append_nil] at hrequests
          refine ⟨⟨[], ?_, fun hne => absurd rfl hne⟩, ?_, fun _ => ?_⟩
          · simpa [YamuxCalls.next, YamuxSession.next, hdropped, hexited, YamuxEvent.streams,
              YamuxSession.controls, YamuxSession.delivering, hlost] using hstreams
          · simp [YamuxCalls.next, YamuxSession.next, hdropped, hexited, hwaiting, hrequests,
              YamuxSession.answering, YamuxSession.asks]
          · simp [YamuxCalls.next, YamuxSession.next, hdropped, hexited, hwaiting]
        · refine ⟨⟨[], ?_, fun hne => absurd rfl hne⟩, ?_, fun hpc => ?_⟩
          · simpa [YamuxCalls.next, YamuxSession.next, hdropped, hexited, YamuxEvent.streams,
              YamuxSession.controls, YamuxSession.delivering, hlost] using hstreams
          · simp only [YamuxCalls.next, YamuxSession.next, hdropped, hexited, YamuxSession.asks,
              ← hrequests, Bool.false_eq_true, if_false, List.append_assoc]
            rfl
          · simp [YamuxCalls.next, YamuxSession.next, hdropped, hexited] at hpc
    | control =>
      have hquiet (hnone : c.session.controls .control = [])
          (hsame : c.session.next .control = c.session) : (c.next (.session .control)).InOrder := by
        rw [c.next_quiet rfl hnone rfl, hsame]
        exact h
      cases hdropped : c.session.dropped with
      | true =>
        exact hquiet (by simp only [YamuxSession.controls, hdropped])
          (by simp only [YamuxSession.next, hdropped])
      | false =>
        cases hcontrol : c.session.control with
        | some taken =>
          exact hquiet (by simp only [YamuxSession.controls, hdropped, hcontrol])
            (by simp only [YamuxSession.next, hdropped, hcontrol])
        | none =>
          cases hinbound : c.session.inbound with
          | nil =>
            exact hquiet (by simp only [YamuxSession.controls, hdropped, hcontrol, hinbound])
              (by simp only [YamuxSession.next, hdropped, hcontrol, hinbound])
          | cons stream rest =>
            obtain ⟨lost, hstreams, hlost⟩ := h.streams
            simp only [YamuxCalls.next, YamuxSession.next, YamuxSession.controls,
              YamuxEvent.streams, YamuxSession.asks, hdropped, hcontrol, hinbound, List.append_nil]
            rw [hinbound] at hstreams
            refine ⟨⟨lost, ?_, fun hne => ?_⟩, h.requests, h.exited⟩
            · simpa [YamuxSession.delivering] using hstreams
            · rw [← hdropped]
              exact hlost hne
    | ends result | backlog outbound =>
      rw [c.next_quiet rfl rfl rfl]
      exact h.same rfl rfl rfl rfl rfl id
    | close =>
      rw [c.next_quiet rfl rfl rfl]
      simp only [YamuxSession.next]
      split
      · exact h
      · exact h.same rfl rfl rfl rfl rfl id
    | drop =>
      rw [c.next_quiet rfl rfl rfl]
      exact h.same rfl rfl rfl rfl rfl fun _ => rfl
    | driver branch =>
      rw [c.next_quiet rfl rfl rfl]
      simp only [YamuxSession.next]
      cases hstep : c.session.driverStep branch with
      | none => exact h
      | some s' => exact h.driver hstep

theorem everyState_inOrder (calls : List YamuxCall) : EveryState next InOrder {} calls :=
  everyState_of_step (fun _ call h => h.next call)
    ⟨⟨[], rfl, fun hne => absurd rfl hne⟩, rfl, fun hexited => by cases hexited⟩ calls

/-- **Streams and requests keep their order.** In every run, what the callers of `next_inbound`
have taken is what the peer has opened, up to some point; the replies of the driver are to
what the callers of `open_stream` have asked, up to some point; and until the driver leaves,
every stream is taken, in the channel, with the driver or still to be yielded. A request is
answered, with the driver or waiting; once the driver has left, all are answered. -/
theorem streams_in_order (calls : List YamuxCall) :
    EveryState next (fun c => c.taken <+: c.opened ∧ c.session.responses.map Prod.fst <+: c.asked ∧
      c.session.responses.map Prod.fst ++ c.session.answering ++ c.session.requests = c.asked ∧
      (c.session.pc = .exited → c.session.responses.map Prod.fst = c.asked) ∧
      (c.session.pc ≠ .exited → c.taken ++ c.session.inbound ++ c.session.delivering ++
        c.session.connection.arrived = c.opened)) {} calls := by
  refine (everyState_inOrder calls).mono fun c h => ?_
  obtain ⟨lost, hstreams, hlost⟩ := h.streams
  refine ⟨?_, ?_, h.requests, fun hexited => ?_, fun hpc => ?_⟩
  · rw [← hstreams]
    simp only [List.append_assoc]
    exact List.prefix_append _ _
  · rw [← h.requests, List.append_assoc]
    exact List.prefix_append _ _
  · have hasked := h.requests
    simp only [YamuxSession.answering, hexited, h.exited hexited, List.append_nil] at hasked
    exact hasked
  · have hnone : lost = [] := Classical.byContradiction fun hne => hpc (hlost hne).1
    rw [hnone, List.append_nil] at hstreams
    exact hstreams

/-! ## A session whose driver has left -/

/-- It has answered what it was asked for from `c` on with a `BrokenPipe`. -/
structure Refuses (c c' : YamuxCalls) (late : List Nat) : Prop where
  exited : c'.session.pc = .exited
  asked : c'.asked = c.asked ++ late
  refused : c'.session.responses =
    c.session.responses ++ late.map fun request => (request, YamuxSession.sessionClosed)

theorem Refuses.trans {c c' c'' : YamuxCalls} {late later : List Nat} (h : Refuses c c' late)
    (h' : Refuses c' c'' later) : Refuses c c'' (late ++ later) where
  exited := h'.exited
  asked := by rw [h'.asked, h.asked, List.append_assoc]
  refused := by rw [h'.refused, h.refused, List.map_append, List.append_assoc]

theorem refuses_next {c : YamuxCalls} (hexited : c.session.pc = .exited) (call : YamuxCall) :
    ∃ late, Refuses c (c.next call) late := by
  have hsame (s' : YamuxSession) (taken : List Nat) (hpc : s'.pc = c.session.pc)
      (hresponses : s'.responses = c.session.responses) :
      Refuses c { c with session := s', taken } [] :=
    ⟨hpc.trans hexited, (List.append_nil _).symm, by simpa using hresponses⟩
  cases call with
  | take =>
    refine ⟨[], ?_⟩
    simp only [next]
    split <;> exact hsame _ _ rfl rfl
  | session e =>
    cases e with
    | request request =>
      refine ⟨c.session.asks (.request request), ?_⟩
      cases hdropped : c.session.dropped <;>
      · constructor <;>
          simp [YamuxCalls.next, YamuxSession.next, YamuxSession.asks, hdropped, hexited]
    | driver branch =>
      have hstays : c.session.driverStep branch = none := by
        simp only [YamuxSession.driverStep, hexited]
      refine ⟨[], ?_⟩
      rw [c.next_quiet rfl rfl rfl]
      simp only [YamuxSession.next, hstays, Option.getD_none]
      exact hsame _ _ rfl rfl
    | opens stream | ends result | backlog outbound | control | close | drop =>
      refine ⟨[], ?_, ?_, ?_⟩
      all_goals
        simp only [YamuxCalls.next, YamuxSession.next, YamuxSession.asks, List.append_nil,
          List.map_nil]
        try split
      all_goals first | exact hexited | rfl

/-- **What is asked of it fails at once**, and nothing else is answered any more. -/
theorem late_requests_refused {c : YamuxCalls} (hexited : c.session.pc = .exited)
    (calls : List YamuxCall) : ∃ late, Refuses c (run next c calls) late := by
  induction calls generalizing c with
  | nil => exact ⟨[], hexited, (List.append_nil _).symm, by simp⟩
  | cons call calls ih =>
    obtain ⟨late, hfirst⟩ := refuses_next hexited call
    obtain ⟨later, hrest⟩ := ih hfirst.exited
    exact ⟨late ++ later, hfirst.trans hrest⟩

/-! ## Everything under way arrives -/

/-- A call of `next_inbound`, or a step of the driver. -/
def Serving : YamuxCall → Prop
  | .take | .session (.driver _) => True
  | _ => False

/-- The driver is there, it has a handle to serve and streams to be had. -/
structure Live (c : YamuxCalls) : Prop where
  inOrder : c.InOrder
  running : c.session.pc ≠ .exited
  held : c.session.dropped = false
  outbound : c.session.connection.outbound.isSome

/-- What has been opened and asked is as it was. -/
structure SameAsked (c c' : YamuxCalls) : Prop where
  opened : c'.opened = c.opened
  asked : c'.asked = c.asked

/-- The steps that are left for what is under way: a stream has three to go before it is
taken, a request two before it is answered. -/
def left (c : YamuxCalls) : Nat :=
  3 * c.session.connection.arrived.length + 2 * c.session.delivering.length +
    c.session.inbound.length + 2 * c.session.requests.length + c.session.answering.length

/-- Nothing is under way. -/
structure Settled (c : YamuxCalls) : Prop where
  taken : c.taken = c.opened
  answered : c.session.responses.map Prod.fst = c.asked

/-- A call that goes on lessens what is left. -/
structure Served (c c' : YamuxCalls) : Prop where
  live : Live c'
  same : SameAsked c c'
  less : c'.left < c.left

/-- A step of the driver goes on when the driver stays and what is left is less. -/
theorem Live.driverServed {c : YamuxCalls} (h : Live c) {branch : DriverBranch} {s' : YamuxSession}
    (hstep : c.session.driverStep branch = some s') (hrunning : s'.pc ≠ .exited)
    (hheld : s'.dropped = c.session.dropped)
    (houtbound : s'.connection.outbound = c.session.connection.outbound)
    (hless : left { c with session := s' } < c.left) :
    Served c (c.next (.session (.driver branch))) := by
  have hnext : c.next (.session (.driver branch)) = { c with session := s' } := by
    rw [c.next_quiet rfl rfl rfl]
    simp only [YamuxSession.next, hstep, Option.getD_some]
  rw [hnext]
  exact ⟨⟨h.inOrder.driver hstep, hrunning, hheld.trans h.held, houtbound ▸ h.outbound⟩,
    ⟨rfl, rfl⟩, hless⟩

theorem Live.takeServed {c : YamuxCalls} (h : Live c) {stream : Nat} {rest : List Nat}
    (hinbound : c.session.inbound = stream :: rest) : Served c (c.next .take) := by
  have hnext : c.next .take =
      { c with
        session := { c.session with inbound := rest }
        taken := c.taken ++ [stream] } := by
    simp only [next, h.held, hinbound]
  refine ⟨⟨h.inOrder.next .take, ?_, ?_, ?_⟩, ?_, ?_⟩ <;> rw [hnext]
  · exact h.running
  · exact h.held
  · exact h.outbound
  · exact ⟨rfl, rfl⟩
  · simp only [left, YamuxSession.delivering, YamuxSession.answering, hinbound, List.length_cons]
    omega

/-- **Something goes on** while something is under way. -/
theorem Live.advance {c : YamuxCalls} (h : Live c) :
    c.Settled ∨ ∃ call, Serving call ∧ Served c (c.next call) := by
  cases hinbound : c.session.inbound with
  | cons stream rest => exact .inr ⟨.take, trivial, h.takeServed hinbound⟩
  | nil =>
    cases hpc : c.session.pc with
    | exited => exact absurd hpc h.running
    | opening request =>
      obtain ⟨result, hready⟩ := Option.isSome_iff_exists.mp h.outbound
      have hstep : c.session.driverStep .outbound = some { c.session with
          pc := .select
          responses := c.session.responses ++ [(request, result)] } := by
        simp only [YamuxSession.driverStep, hpc, hready]
      refine .inr ⟨.session (.driver .outbound), trivial,
        h.driverServed hstep (by simp) rfl rfl ?_⟩
      simp [left, YamuxSession.delivering, YamuxSession.answering, hpc]
    | delivering stream =>
      -- the channel is empty, so there is room
      have hstep : c.session.driverStep .inbound = some { c.session with
          pc := .select
          inbound := c.session.inbound ++ [stream] } := by
        simp [YamuxSession.driverStep, hpc, h.held, hinbound, channelCapacity]
      refine .inr ⟨.session (.driver .inbound), trivial,
        h.driverServed hstep (by simp) rfl rfl ?_⟩
      simp only [left, YamuxSession.delivering, YamuxSession.answering, hpc, hinbound,
        List.nil_append, List.length_cons, List.length_nil]
      omega
    | select =>
      cases hrequests : c.session.requests with
      | cons request rest =>
        have hstep : c.session.driverStep .outbound = some { c.session with
            pc := .opening request
            requests := rest } := by
          simp only [YamuxSession.driverStep, hpc, hrequests]
        refine .inr ⟨.session (.driver .outbound), trivial,
          h.driverServed hstep (by simp) rfl rfl ?_⟩
        simp only [left, YamuxSession.delivering, YamuxSession.answering, hpc, hrequests,
          List.length_cons, List.length_nil]
        omega
      | nil =>
        cases harrived : c.session.connection.arrived with
        | cons stream rest =>
          have hstep : c.session.driverStep .inbound = some { c.session with
              pc := .delivering stream
              connection := { c.session.connection with arrived := rest } } := by
            simp only [YamuxSession.driverStep, hpc, YamuxConnection.pollNextInbound, harrived]
          refine .inr ⟨.session (.driver .inbound), trivial,
            h.driverServed hstep (by simp) rfl rfl ?_⟩
          simp only [left, YamuxSession.delivering, YamuxSession.answering, hpc, harrived,
            List.length_cons, List.length_nil]
          omega
        | nil =>
          obtain ⟨lost, hstreams, hlost⟩ := h.inOrder.streams
          have hnone : lost = [] := Classical.byContradiction fun hne => h.running (hlost hne).1
          have hasked := h.inOrder.requests
          simp only [YamuxSession.delivering, hpc, hinbound, harrived, hnone, List.append_nil]
            at hstreams
          simp only [YamuxSession.answering, hpc, hrequests, List.append_nil] at hasked
          exact .inl ⟨hstreams, hasked⟩

/-- **Everything under way arrives.** Wherever a run has come to, as long as the driver is
there, a handle is held and the connection gives out streams, calls of `next_inbound` and
steps of the driver can go on until all that the peer has opened is taken, and all that has
been asked for answered. -/
theorem streams_settle (calls : List YamuxCall) :
    EveryState next (fun c =>
      c.session.pc ≠ .exited → c.session.dropped = false →
      c.session.connection.outbound.isSome →
        ∃ more, (∀ call ∈ more, Serving call) ∧
          (run next c more).taken = c.opened ∧
          (run next c more).session.responses.map Prod.fst = c.asked) {} calls := by
  refine (everyState_inOrder calls).mono fun c hinOrder hrunning hheld houtbound => ?_
  have hstep (d : YamuxCalls) (hd : Live d ∧ SameAsked c d) :
      Settled d ∨ ∃ call, Serving call ∧ (Live (d.next call) ∧ SameAsked c (d.next call)) ∧
        (d.next call).left < d.left := by
    refine hd.1.advance.imp id fun hadvance => ?_
    obtain ⟨call, hcall, hserved⟩ := hadvance
    exact ⟨call, hcall, ⟨hserved.live, hserved.same.opened.trans hd.2.opened,
      hserved.same.asked.trans hd.2.asked⟩, hserved.less⟩
  obtain ⟨more, hmore, ⟨-, hsame⟩, hsettled⟩ := exists_run_of_progress left hstep
    ⟨⟨hinOrder, hrunning, hheld, houtbound⟩, rfl, rfl⟩
  exact ⟨more, hmore, hsettled.taken.trans hsame.opened, hsettled.answered.trans hsame.asked⟩

end YamuxCalls

end OngrokRelay
