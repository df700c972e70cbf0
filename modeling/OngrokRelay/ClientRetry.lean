import OngrokRelay.ClientFallback
import Mathlib.Data.List.Infix

/-
  The client's retry loop (`run_with_fallback`) over both of its transports.

  A rejection reaches the loop as the text of an error. `run_once_with_fallback`
  takes any error of `run_quic` for a reason to try the other transport, so
  what the loop sees of a rejection over QUIC is how the attempt after it ended.

  From its control stream on, `run_yamux` is `run_quic` word for word: its session
  is a `QuicSession` that begins at `openStream`. The attempts made so far are
  recorded.

  1. `received_rejected`: what a session makes of a rejection, and when the text of
     it is that of an authentication error.
  2. `returned_final`: nothing happens after the return.
  3. `rejection_stops_iff`: a rejection is final in a run exactly when it comes over
     Yamux, in reply to Auth or to a client that runs once.
  4. `rejected_quic_retries`: over QUIC it is followed by an attempt on each
     transport.

  Correspondence (Rust ↔ Lean):
    `run_with_fallback`        ↔ `RetryClient.step`, `RetryClient.finished`
    `run_once_with_fallback`   ↔ `Client.step`, started anew by `RetryClient.connect`
    `run_yamux`                ↔ `RetryPhase.tcpConnect` to `RetryPhase.yamux`
    `is_authentication_error`  ↔ `isAuthenticationError`
-/

namespace OngrokRelay

open Transition

/-- `str::contains`. -/
def containsText (text part : String) : Bool := decide (part.toList <:+: text.toList)

def isAuthenticationError (message : String) : Bool :=
  containsText message "rejected token" || containsText message "authentication rejected"

/-- Where the loop is: in one of the two attempts, asleep before the next pair, or
returned. -/
inductive RetryPhase
  | quic (session : QuicSession)
  | tcpConnect
  | tlsConnect
  | yamux (session : QuicSession)
  | sleeping (baseDelay : Nat)
  | returned (result : Except String Unit)
  deriving DecidableEq

structure RetryClient where
  phase : RetryPhase
  retryAttempt : Nat
  attempts : List TransportKind
  deriving DecidableEq

namespace RetryClient

/-- An attempt on QUIC begins. -/
def connect (c : RetryClient) : RetryClient :=
  { c with
    phase := .quic { pc := .connect }
    attempts := c.attempts ++ [.quic] }

/-- The fallback begins. -/
def fallBack (c : RetryClient) : RetryClient :=
  { c with
    phase := .tcpConnect
    attempts := c.attempts ++ [.tcpTlsYamux] }

def start : RetryClient := connect ⟨.sleeping 0, 0, []⟩

/-- What the loop does with the result of `run_once_with_fallback`. To the delay in
seconds a jitter of up to a third is added. -/
def finished (cfg : ClientConfig) (c : RetryClient) : Except String Unit → RetryClient
  | .ok _ => { c with phase := .returned (.ok ()) }
  | .error e =>
    if cfg.once || isAuthenticationError e then { c with phase := .returned (.error e) }
    else
      let retryAttempt := min (c.retryAttempt + 1) (2 ^ 32 - 1)
      { c with
        retryAttempt
        phase := .sleeping (2 ^ min retryAttempt 5) }

/-- `run_yamux` after an await of its session. -/
def polled (cfg : ClientConfig) (c : RetryClient) : Poll → RetryClient
  | .pending session => { c with phase := .yamux session }
  | .ready result => c.finished cfg result

def step (cfg : ClientConfig) (c : RetryClient) (event : ClientEvent) : RetryClient :=
  match c.phase with
  | .quic session =>
    match (Client.quic session).step cfg event with
    | .quic session => { c with phase := .quic session }
    | .yamux => c.fallBack
    | .returned result => c.finished cfg result
  | .tcpConnect =>
    match event with
    | .completes (.ok _) => { c with phase := .tlsConnect }
    | .completes (.error e) => c.finished cfg (.error e)
    | _ => c
  | .tlsConnect =>
    match event with
    | .completes (.ok _) => { c with phase := .yamux { pc := .openStream } }
    | .completes (.error e) => c.finished cfg (.error e)
    | _ => c
  | .yamux session =>
    match event with
    | .completes result => c.polled cfg (session.completes cfg result)
    | .reads input => c.polled cfg (session.reads cfg input)
    | .timer => c
  | .sleeping _ =>
    match event with
    | .completes _ => c.connect
    | _ => c
  | .returned _ => c

end RetryClient

/-! ## A rejection -/

/-- The await is that of a frame. -/
def QuicPc.reading : QuicPc → Bool
  | .readHello | .readAuth | .readService | .readAck _ => true
  | _ => false

namespace RetryClient

/-- The session of the attempt that is under way. -/
def session? (c : RetryClient) : Option QuicSession :=
  match c.phase with
  | .quic session | .yamux session => some session
  | _ => none

/-- The attempt that is under way receives AuthRejected. -/
def Rejected (c : RetryClient) (event : ClientEvent) : Prop :=
  event = .reads (.ok .authRejected) ∧ c.session?.any fun session => session.pc.reading

/-- If the event is a rejection, the loop has returned an error, has made no further
attempt, and never will. -/
def StopsIfRejected (cfg : ClientConfig) (c : RetryClient) (event : ClientEvent) : Prop :=
  c.Rejected event → ∀ events : List ClientEvent,
    (∃ e, (run (step cfg) (c.step cfg event) events).phase = .returned (.error e)) ∧
    (run (step cfg) (c.step cfg event) events).attempts = c.attempts

/-- If the event is a rejection, it comes over Yamux, in reply to Auth unless the
client runs once. -/
def RejectedOnYamux (cfg : ClientConfig) (c : RetryClient) (event : ClientEvent) : Prop :=
  c.Rejected event →
    ∃ session, c.phase = .yamux session ∧ (cfg.once = true ∨ session.pc = .readAuth)

end RetryClient

/-- **What a session makes of a rejection**: an error, whose text says so only when
the await is that of the reply to Auth. -/
theorem QuicSession.received_rejected (cfg : ClientConfig) {s : QuicSession}
    (h : s.pc.reading = true) : ∃ e, s.received cfg .authRejected = .ready (.error e) ∧
      (isAuthenticationError e = true ↔ s.pc = .readAuth) := by
  unfold QuicSession.received
  cases hpc : s.pc with
  | readAuth => exact ⟨_, rfl, by decide +kernel⟩
  | readHello | readService | readAck sequence =>
    refine ⟨_, rfl, iff_of_false (by decide +kernel) ?_⟩
    intro heq
    cases heq
  | _ =>
    rw [hpc] at h
    cases h

namespace RetryClient

/-- Nothing happens after the return. -/
theorem returned_final {cfg : ClientConfig} {c : RetryClient} {result : Except String Unit}
    (h : c.phase = .returned result) (events : List ClientEvent) : run (step cfg) c events = c := by
  induction events with
  | nil => rfl
  | cons event events ih =>
    have hstep : c.step cfg event = c := by
      unfold step
      rw [h]
    show run (step cfg) (c.step cfg event) events = c
    rw [hstep, ih]

/-- A rejection over QUIC is a reason to fall back. -/
theorem step_quic_rejected {cfg : ClientConfig} {c : RetryClient} {session : QuicSession}
    (hphase : c.phase = .quic session) (hreading : session.pc.reading = true) :
    c.step cfg (.reads (.ok .authRejected)) = c.fallBack := by
  obtain ⟨e, hreceived, -⟩ := QuicSession.received_rejected cfg hreading
  unfold step
  rw [hphase]
  simp only [Client.step, QuicSession.reads, hreceived, Poll.resolve]

/-- A rejection over Yamux is an error that the loop looks at. -/
theorem step_yamux_rejected (cfg : ClientConfig) {c : RetryClient} {session : QuicSession}
    (hphase : c.phase = .yamux session) (hreading : session.pc.reading = true) :
    ∃ e, c.step cfg (.reads (.ok .authRejected)) = c.finished cfg (.error e) ∧
      (isAuthenticationError e = true ↔ session.pc = .readAuth) := by
  obtain ⟨e, hreceived, htext⟩ := QuicSession.received_rejected cfg hreading
  refine ⟨e, ?_, htext⟩
  unfold step
  rw [hphase]
  simp only [QuicSession.reads, hreceived, polled]

theorem finished_stop {cfg : ClientConfig} {c : RetryClient} {e : String}
    (h : cfg.once = true ∨ isAuthenticationError e = true) :
    c.finished cfg (.error e) = { c with phase := .returned (.error e) } :=
  if_pos ((Bool.or_eq_true _ _).mpr h)

theorem stopsIfRejected_iff (cfg : ClientConfig) (c : RetryClient) (event : ClientEvent) :
    StopsIfRejected cfg c event ↔ RejectedOnYamux cfg c event := by
  refine forall_congr' fun hrejected => ?_
  obtain ⟨rfl, hsession⟩ := hrejected
  unfold session? at hsession
  cases hphase : c.phase with
  | quic session =>
    rw [hphase] at hsession
    -- the fallback is the further attempt
    refine iff_of_false (fun hstops => ?_) fun hyamux => ?_
    · have hattempts := (hstops []).2
      rw [run_nil, step_quic_rejected hphase hsession] at hattempts
      have hlength := congrArg List.length hattempts
      rw [fallBack, List.length_append, List.length_singleton] at hlength
      omega
    · obtain ⟨session, hyamux, -⟩ := hyamux
      cases hyamux
  | yamux session =>
    rw [hphase] at hsession
    obtain ⟨e, hstep, htext⟩ := step_yamux_rejected cfg hphase hsession
    rw [hstep]
    by_cases hstop : cfg.once = true ∨ session.pc = .readAuth
    · refine iff_of_true (fun events => ?_) ⟨session, rfl, hstop⟩
      rw [finished_stop (hstop.imp_right htext.mpr), returned_final rfl]
      exact ⟨⟨e, rfl⟩, rfl⟩
    · refine iff_of_false (fun hstops => ?_) fun hyamux => ?_
      · obtain ⟨⟨e', hreturned⟩, -⟩ := hstops []
        have hretry : ¬(cfg.once = true ∨ isAuthenticationError e = true) :=
          fun h => hstop (h.imp_right htext.mp)
        rw [run_nil, finished, if_neg (by rwa [Bool.or_eq_true])] at hreturned
        cases hreturned
      · obtain ⟨session', heq, h⟩ := hyamux
        cases heq
        exact hstop h
  | tcpConnect | tlsConnect | sleeping baseDelay | returned result =>
    rw [hphase] at hsession
    cases hsession

end RetryClient

/-- **A rejection is final** in a run of the retry loop exactly when every rejection
of the run comes over Yamux, in reply to Auth or to a client that runs once. -/
theorem rejection_stops_iff (cfg : ClientConfig) (events : List ClientEvent) :
    EveryStep (RetryClient.step cfg) (RetryClient.StopsIfRejected cfg) RetryClient.start events ↔
      EveryStep (RetryClient.step cfg) (RetryClient.RejectedOnYamux cfg) RetryClient.start events :=
  everyStep_congr (J := fun _ => True) (fun _ _ h => h)
    (fun c event _ => RetryClient.stopsIfRejected_iff cfg c event) trivial events

/-! ## A rejection over QUIC -/

namespace RejectedClient

/-- The token is rejected over QUIC, the fallback finds its port closed, the loop
sleeps and connects again. -/
def events : List ClientEvent :=
  [.completes (.ok ()), .completes (.ok ()), .completes (.ok ()),
    .reads (.ok (.hello protocolVersion)), .completes (.ok ()), .reads (.ok .authRejected),
    .completes (.error "Connection refused"), .completes (.ok ())]

end RejectedClient

open RejectedClient in
/-- **A client whose token is rejected over QUIC** tries the other transport, and
then begins anew. -/
theorem rejected_quic_retries :
    let client := run (RetryClient.step LongSession.config) RetryClient.start (events.take 5)
    client.Rejected (.reads (.ok .authRejected)) ∧
      client.attempts = [.quic] ∧
      (run (RetryClient.step LongSession.config) RetryClient.start events).phase =
        .quic { pc := .connect } ∧
      (run (RetryClient.step LongSession.config) RetryClient.start events).attempts =
        [.quic, .tcpTlsYamux, .quic] ∧
      ¬∀ (cfg : ClientConfig) (events : List ClientEvent), EveryStep (RetryClient.step cfg)
        (RetryClient.StopsIfRejected cfg) RetryClient.start events := by
  intro client
  have hrejected : client.Rejected (.reads (.ok .authRejected)) := ⟨rfl, by decide⟩
  refine ⟨hrejected, by decide, by decide +kernel, by decide +kernel, fun h => ?_⟩
  obtain ⟨-, -, -, -, -, hstops, -⟩ := h LongSession.config events
  have hattempts := (hstops hrejected []).2
  revert hattempts
  decide

end OngrokRelay
