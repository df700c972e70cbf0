import Mathlib.Logic.Relation
import OngrokRelay.Store
import OngrokRelay.Transition

/-
  The task that drives a Yamux session (`YamuxSession::spawn`).

  The connection is polled by this task alone. Its loop selects among a request for an
  outbound stream, a stream that the peer has opened, and the shutdown signal; it then
  awaits the new stream, or room in the inbound channel, and selects again. `select!`
  picks any branch that is ready.

  1. `closable_iff_not_blocked`: once `close` has been called the driver can leave its
     loop, unless it awaits room in a full channel or a stream that is not to be had.
  2. `closable_iff`: the runs in which a session can always be closed.
  3. `few_streams_unhindered`: they include those in which the peer opens no more streams
     than the channel holds.
  4. `close_ignored`: a peer that opens two more than that, and of these streams the
     server takes the first.

  Correspondence (Rust ↔ Lean):
    the task of `YamuxSession::spawn`   ↔ `YamuxSession.driverStep`, `YamuxSession.leave`
    `open_stream`, `close`              ↔ `YamuxEvent.request`, `YamuxEvent.close`
    `next_inbound` in `run_tcp_tls`     ↔ `YamuxEvent.control`
-/

namespace OngrokRelay

open Transition

/-! ## The driver -/

/-- A connection as its driver polls it. -/
structure YamuxConnection where
  /-- The streams that the peer has opened and that have not been yielded. -/
  arrived : List Nat := []
  /-- What comes after them once the connection has ended: an error, or the end. -/
  ended : Option Outcome := none
  /-- What `poll_new_outbound` is ready with, when it is not pending. -/
  outbound : Option Outcome := some (.ok ())

/-- What `poll_next_inbound` yields: `none` while it is pending. -/
inductive Inbound
  | stream (stream : Nat)
  | error (e : String)
  | none

def YamuxConnection.pollNextInbound (c : YamuxConnection) : Option (Inbound × YamuxConnection) :=
  match c.arrived, c.ended with
  | stream :: rest, _ => some (.stream stream, { c with arrived := rest })
  | [], some (.error e) => some (.error e, c)
  | [], some (.ok _) => some (.none, c)
  | [], none => none

/-- The await the driver is suspended at. -/
inductive DriverPc
  | select
  | opening (request : Nat)
  | delivering (stream : Nat)
  | exited
  deriving DecidableEq

/-- A branch of the `select!`. -/
inductive DriverBranch
  | outbound
  | inbound
  | shutdown
  deriving DecidableEq

/-- The capacity of both channels. -/
def channelCapacity : Nat := 128

structure YamuxSession where
  connection : YamuxConnection := {}
  pc : DriverPc := .select
  /-- The requests in the outbound channel, and those that wait to enter it. -/
  requests : List Nat := []
  responses : List (Nat × Outcome) := []
  inbound : List Nat := []
  /-- The stream that `run_tcp_tls` has taken. -/
  control : Option Nat := none
  /-- The shutdown signal has been sent. -/
  closed : Bool := false
  /-- Every handle of the session is gone. -/
  dropped : Bool := false

namespace YamuxSession

/-- What `open_stream` comes to without the driver: a `BrokenPipe`. -/
def sessionClosed : Outcome := .error "Yamux session is closed"

/-- The driver leaves its loop. With its end of the outbound channel go the requests that
are in it or wait to enter it. -/
def leave (s : YamuxSession) : YamuxSession :=
  { s with
    pc := .exited
    requests := []
    responses := s.responses ++ s.requests.map fun request => (request, sessionClosed) }

@[simp] theorem leave_pc (s : YamuxSession) : s.leave.pc = .exited := rfl

@[simp] theorem leave_requests (s : YamuxSession) : s.leave.requests = [] := rfl

@[simp] theorem leave_connection (s : YamuxSession) : s.leave.connection = s.connection := rfl

@[simp] theorem leave_inbound (s : YamuxSession) : s.leave.inbound = s.inbound := rfl

/-- Every request that waited is answered. -/
@[simp] theorem leave_answered (s : YamuxSession) :
    s.leave.responses.map Prod.fst = s.responses.map Prod.fst ++ s.requests := by
  simp [leave, Function.comp_def]

/-- One step of the driver: the branch that the `select!` takes, or the end of the await
inside it. `none`: it is suspended. -/
def driverStep (s : YamuxSession) (branch : DriverBranch) : Option YamuxSession :=
  match s.pc with
  | .select =>
    match branch with
    | .outbound =>
      match s.requests with
      | request :: rest => some { s with pc := .opening request, requests := rest }
      | [] => if s.dropped then some s.leave else none
    | .inbound =>
      match s.connection.pollNextInbound with
      | none => none
      | some (.stream stream, connection) => some { s with pc := .delivering stream, connection }
      | some (.error _, connection) | some (.none, connection) =>
        some { s with connection }.leave
    | .shutdown => if s.closed || s.dropped then some s.leave else none
  | .opening request =>
    match s.connection.outbound with
    | none => none
    | some result =>
      some { s with
        pc := .select
        responses := s.responses ++ [(request, result)] }
  | .delivering stream =>
    if s.dropped then some s.leave
    else if s.inbound.length < channelCapacity then
      some { s with
        pc := .select
        inbound := s.inbound ++ [stream] }
    else none
  | .exited => none

end YamuxSession

/-- What happens to a session. -/
inductive YamuxEvent
  /-- The peer opens a stream. -/
  | opens (stream : Nat)
  /-- The connection ends. -/
  | ends (result : Outcome)
  /-- What a poll for an outbound stream comes to from now on. -/
  | backlog (outbound : Option Outcome)
  /-- `open_stream` is called. -/
  | request (request : Nat)
  /-- `run_tcp_tls` takes the first inbound stream. -/
  | control
  | close
  | drop
  | driver (branch : DriverBranch)
  deriving DecidableEq

namespace YamuxSession

def next (s : YamuxSession) : YamuxEvent → YamuxSession
  | .opens stream =>
    { s with connection := { s.connection with arrived := s.connection.arrived ++ [stream] } }
  | .ends result => { s with connection := { s.connection with ended := some result } }
  | .backlog outbound => { s with connection := { s.connection with outbound } }
  | .request request =>
    if s.dropped then s
    else if s.pc = .exited then { s with responses := s.responses ++ [(request, sessionClosed)] }
    else { s with requests := s.requests ++ [request] }
  | .control =>
    match s.dropped, s.control, s.inbound with
    | false, none, stream :: rest =>
      { s with
        control := some stream
        inbound := rest }
    | _, _, _ => s
  | .close => if s.dropped then s else { s with closed := true }
  | .drop => { s with dropped := true }
  | .driver branch => (s.driverStep branch).getD s

/-- Steps of the driver alone lead out of its loop. -/
def Closable (s : YamuxSession) : Prop :=
  ∃ s', Relation.ReflTransGen (fun a b => ∃ branch, driverStep a branch = some b) s s' ∧
    s'.pc = .exited

/-- The driver awaits what no step of its own brings. -/
def blocked (s : YamuxSession) : Bool :=
  match s.pc with
  | .opening _ => s.connection.outbound.isNone
  | .delivering _ => !s.dropped && decide (channelCapacity ≤ s.inbound.length)
  | .select | .exited => false

/-- The event does not make the driver await a stream that is not to be had, or room in
a full channel. -/
def Unhindered (s : YamuxSession) : YamuxEvent → Prop
  | .driver .outbound =>
    s.pc = .select → s.requests ≠ [] → s.connection.outbound.isSome
  | .driver .inbound =>
    s.pc = .select → s.connection.arrived ≠ [] →
      s.dropped ∨ s.inbound.length < channelCapacity
  | .backlog none => ∀ request, s.pc ≠ .opening request
  | _ => True

/-! ## When the driver can leave its loop -/

theorem blocked_step {s : YamuxSession} (h : s.blocked) (branch : DriverBranch) :
    s.driverStep branch = none ∧ s.pc ≠ .exited := by
  unfold blocked at h
  cases hpc : s.pc with
  | select | exited =>
    rw [hpc] at h
    cases h
  | opening request =>
    simp only [hpc, Option.isNone_iff_eq_none] at h
    refine ⟨by simp only [driverStep, hpc, h], fun hexited => ?_⟩
    cases hexited
  | delivering stream =>
    simp only [hpc, Bool.and_eq_true, Bool.not_eq_true', decide_eq_true_eq] at h
    obtain ⟨hdropped, hfull⟩ := h
    refine ⟨?_, fun hexited => ?_⟩
    · simp only [driverStep, hpc, hdropped, Bool.false_eq_true, if_false,
        if_neg (Nat.not_lt.mpr hfull)]
    · cases hexited

/-- A closed session at its `select!` takes the shutdown branch. -/
theorem closable_select {s : YamuxSession} (hclosed : s.closed || s.dropped) (hpc : s.pc = .select) :
    s.Closable := by
  refine ⟨s.leave, .single ⟨.shutdown, ?_⟩, rfl⟩
  simp only [driverStep, hpc, if_pos hclosed]

/-- **Once it has been closed** a session ends, unless its driver is blocked. -/
theorem closable_iff_not_blocked {s : YamuxSession} (hclosed : s.closed || s.dropped) :
    s.Closable ↔ s.blocked = false := by
  constructor
  · rintro ⟨s', hsteps, hexited⟩
    cases hblocked : s.blocked with
    | false => rfl
    | true =>
      rcases hsteps.cases_head with rfl | ⟨t, ⟨branch, hstep⟩, -⟩
      · exact absurd hexited (blocked_step hblocked .shutdown).2
      · rw [(blocked_step hblocked branch).1] at hstep
        cases hstep
  · intro hfree
    cases hpc : s.pc with
    | exited => exact ⟨s, .refl, hpc⟩
    | select => exact closable_select hclosed hpc
    | opening request =>
      simp only [blocked, hpc] at hfree
      obtain ⟨result, hready⟩ := Option.isSome_iff_exists.mp
        (Option.isNone_eq_false_iff.mp hfree)
      have hstep : s.driverStep .outbound = some { s with
          pc := .select
          responses := s.responses ++ [(request, result)] } := by
        simp only [driverStep, hpc, hready]
      obtain ⟨s', hsteps, hexited⟩ := closable_select (s := { s with
          pc := .select
          responses := s.responses ++ [(request, result)] }) hclosed rfl
      exact ⟨s', .head ⟨_, hstep⟩ hsteps, hexited⟩
    | delivering stream =>
      by_cases hdropped : s.dropped
      · refine ⟨s.leave, .single ⟨.inbound, ?_⟩, rfl⟩
        simp only [driverStep, hpc, if_pos hdropped]
      · have hroom : s.inbound.length < channelCapacity := by
          simpa [blocked, hpc, hdropped] using hfree
        have hstep : s.driverStep .inbound = some { s with
            pc := .select
            inbound := s.inbound ++ [stream] } := by
          simp only [driverStep, hpc, if_neg hdropped, if_pos hroom]
        obtain ⟨s', hsteps, hexited⟩ := closable_select (s := { s with
            pc := .select
            inbound := s.inbound ++ [stream] }) hclosed rfl
        exact ⟨s', .head ⟨_, hstep⟩ hsteps, hexited⟩

/-! ## The runs in which it always can -/

theorem blocked_control {s : YamuxSession} (hfree : s.blocked = false) :
    (s.next .control).blocked = false := by
  simp only [next]
  split
  · rename_i stream rest _ _ hinbound
    unfold blocked at hfree ⊢
    cases hpc : s.pc with
    | delivering delivered =>
      simp only [hpc, hinbound, List.length_cons, Bool.and_eq_false_iff, decide_eq_false_iff_not,
        not_le] at hfree ⊢
      exact hfree.imp id fun hroom => by omega
    | opening request =>
      simp only [hpc] at hfree
      exact hfree
    | select | exited => rfl
  · exact hfree

theorem blocked_drop {s : YamuxSession} (hfree : s.blocked = false) :
    (s.next .drop).blocked = false := by
  unfold blocked at hfree ⊢
  simp only [next]
  cases hpc : s.pc with
  | delivering stream | select | exited => rfl
  | opening request =>
    simp only [hpc] at hfree
    exact hfree

theorem blocked_backlog {s : YamuxSession} (hfree : s.blocked = false) (outbound : Option Outcome) :
    (s.next (.backlog outbound)).blocked = false ↔ s.Unhindered (.backlog outbound) := by
  unfold blocked at hfree ⊢
  simp only [next]
  cases hpc : s.pc with
  | opening request => cases outbound <;> simp [Unhindered, hpc]
  | delivering stream =>
    simp only [hpc] at hfree
    cases outbound <;> exact iff_of_true hfree (by simp [Unhindered, hpc])
  | select | exited => cases outbound <;> simp [Unhindered, hpc]

/-- A step of the driver leaves it blocked when it takes up what it cannot go on with. -/
theorem blocked_driver {s : YamuxSession} (hfree : s.blocked = false) (branch : DriverBranch) :
    (s.next (.driver branch)).blocked = false ↔ s.Unhindered (.driver branch) := by
  simp only [next]
  cases hpc : s.pc with
  | select =>
    cases branch with
    | outbound =>
      cases hrequests : s.requests with
      | nil =>
        refine iff_of_true ?_ fun _ hne => absurd hrequests hne
        cases hdropped : s.dropped <;>
          simp [driverStep, blocked, hpc, hrequests, hdropped]
      | cons request rest =>
        simp only [driverStep, hpc, hrequests, Option.getD_some, blocked,
          Option.isNone_eq_false_iff, Unhindered]
        exact ⟨fun hready _ _ => hready, fun h => h trivial (List.cons_ne_nil _ _)⟩
    | inbound =>
      cases harrived : s.connection.arrived with
      | nil =>
        refine iff_of_true ?_ fun _ hne => absurd harrived hne
        cases hended : s.connection.ended with
        | none =>
          simp [driverStep, blocked, hpc, YamuxConnection.pollNextInbound, harrived, hended]
        | some result =>
          cases result <;>
            simp [driverStep, blocked, hpc, YamuxConnection.pollNextInbound, harrived, hended]
      | cons stream rest =>
        simp only [driverStep, hpc, YamuxConnection.pollNextInbound, harrived, Option.getD_some,
          blocked, Unhindered, Bool.and_eq_false_iff, Bool.not_eq_false', decide_eq_false_iff_not,
          not_le]
        exact ⟨fun h _ _ => h, fun h => h trivial (List.cons_ne_nil _ _)⟩
    | shutdown =>
      refine iff_of_true ?_ trivial
      cases hclosed : s.closed || s.dropped <;> simp [driverStep, blocked, hpc, hclosed]
  | opening request =>
    have hother : s.Unhindered (.driver branch) := by
      cases branch <;> simp [Unhindered, hpc]
    refine iff_of_true ?_ hother
    obtain ⟨result, hready⟩ := Option.isSome_iff_exists.mp
      (Option.isNone_eq_false_iff.mp (by simpa only [blocked, hpc] using hfree))
    simp [driverStep, blocked, hpc, hready]
  | delivering stream =>
    have hother : s.Unhindered (.driver branch) := by
      cases branch <;> simp [Unhindered, hpc]
    refine iff_of_true ?_ hother
    by_cases hdropped : s.dropped
    · simp [driverStep, blocked, hpc, hdropped]
    · have hroom : s.inbound.length < channelCapacity := by
        simpa [blocked, hpc, hdropped] using hfree
      simp [driverStep, blocked, hpc, hdropped, hroom]
  | exited =>
    have hother : s.Unhindered (.driver branch) := by
      cases branch <;> simp [Unhindered, hpc]
    refine iff_of_true ?_ hother
    simp [driverStep, blocked, hpc]

/-- **One event** leaves a free driver free exactly when it does not hinder it. -/
theorem blocked_next {s : YamuxSession} (hfree : s.blocked = false) (e : YamuxEvent) :
    (s.next e).blocked = false ↔ s.Unhindered e := by
  cases e with
  | opens stream | ends result => exact iff_of_true hfree trivial
  | request request =>
    refine iff_of_true ?_ trivial
    simp only [next]
    split
    · exact hfree
    · split <;> exact hfree
  | close =>
    refine iff_of_true ?_ trivial
    simp only [next]
    split <;> exact hfree
  | control => exact iff_of_true (blocked_control hfree) trivial
  | drop => exact iff_of_true (blocked_drop hfree) trivial
  | backlog outbound => exact blocked_backlog hfree outbound
  | driver branch => exact blocked_driver hfree branch

theorem closable_close (s : YamuxSession) : (s.next .close).Closable ↔ s.blocked = false := by
  have hclosed : (s.next .close).closed || (s.next .close).dropped := by
    simp only [next]
    split
    · rename_i hdropped
      rw [hdropped, Bool.or_true]
    · rfl
  rw [closable_iff_not_blocked hclosed]
  simp only [next]
  split <;> rfl

/-- **The runs in which a session can always be closed**: whichever state they reach, if
it is closed there, its driver can leave the loop. -/
theorem closable_iff (events : List YamuxEvent) :
    (EveryStep next Unhindered {} events → EveryState next (fun s => s.closed → s.Closable) {} events) ∧
    (EveryState next (fun s => (s.next .close).Closable) {} events ↔
      EveryStep next Unhindered {} events) := by
  have hiff : EveryState next (fun s => s.blocked = false) {} events ↔
      EveryStep next Unhindered {} events :=
    everyState_iff_everyStep (J := fun _ => True) (fun _ _ _ => trivial)
      (fun s e _ hfree => blocked_next hfree e) trivial rfl events
  refine ⟨fun hsteps => (hiff.mpr hsteps).mono fun s hfree hclosed => ?_, ?_⟩
  · exact (closable_iff_not_blocked (by rw [hclosed]; rfl)).mpr hfree
  · rw [← hiff]
    exact ⟨fun h => h.mono fun s => (closable_close s).mp,
      fun h => h.mono fun s => (closable_close s).mpr⟩

/-! ## How many streams the peer may open -/

/-- The streams that the peer has opened and nobody has taken. -/
def inHand (s : YamuxSession) : Nat :=
  s.connection.arrived.length + s.inbound.length + match s.pc with
    | .delivering _ => 1
    | _ => 0

/-- The streams that the event opens. -/
def opened : YamuxEvent → Nat
  | .opens _ => 1
  | _ => 0

/-- What a step of the driver does to the session. -/
inductive DriverMove (s : YamuxSession) : YamuxSession → Prop
  | requested (request : Nat) (rest : List Nat) (hpc : s.pc = .select)
      (hrequests : s.requests = request :: rest) :
      DriverMove s { s with pc := .opening request, requests := rest }
  | yielded (stream : Nat) (rest : List Nat) (hpc : s.pc = .select)
      (harrived : s.connection.arrived = stream :: rest) :
      DriverMove s { s with
        pc := .delivering stream
        connection := { s.connection with arrived := rest } }
  | responded (request : Nat) (result : Outcome) (hpc : s.pc = .opening request)
      (hready : s.connection.outbound = some result) :
      DriverMove s { s with pc := .select, responses := s.responses ++ [(request, result)] }
  | delivered (stream : Nat) (hpc : s.pc = .delivering stream)
      (hroom : s.inbound.length < channelCapacity) :
      DriverMove s { s with pc := .select, inbound := s.inbound ++ [stream] }
  | left : DriverMove s s.leave

theorem driverStep_cases {s s' : YamuxSession} {branch : DriverBranch}
    (h : s.driverStep branch = some s') : DriverMove s s' := by
  unfold driverStep at h
  cases hpc : s.pc with
  | select =>
    simp only [hpc] at h
    cases branch with
    | outbound =>
      simp only at h
      split at h
      · rename_i hrequests
        cases h
        exact .requested _ _ hpc hrequests
      · split at h
        · cases h
          exact .left
        · cases h
    | inbound =>
      simp only [YamuxConnection.pollNextInbound] at h
      cases harrived : s.connection.arrived with
      | nil =>
        cases hended : s.connection.ended with
        | none =>
          simp only [harrived, hended] at h
          cases h
        | some result =>
          cases result <;>
          · simp only [harrived, hended] at h
            cases h
            exact .left
      | cons stream rest =>
        simp only [harrived] at h
        cases h
        exact .yielded stream rest hpc harrived
    | shutdown =>
      simp only at h
      split at h
      · cases h
        exact .left
      · cases h
  | opening request =>
    simp only [hpc] at h
    split at h
    · cases h
    · rename_i hready
      cases h
      exact .responded request _ hpc hready
  | delivering stream =>
    simp only [hpc] at h
    split at h
    · cases h
      exact .left
    · split at h
      · rename_i hroom
        cases h
        exact .delivered stream hpc hroom
      · cases h
  | exited =>
    simp only [hpc] at h
    cases h

theorem DriverMove.inHand {s s' : YamuxSession} (h : DriverMove s s') : s'.inHand ≤ s.inHand := by
  unfold YamuxSession.inHand
  cases h with
  | requested request rest hpc hrequests | responded request result hpc hready =>
    simp only [hpc]
    exact le_rfl
  | yielded stream rest hpc harrived =>
    simp only [hpc, harrived, List.length_cons]
    omega
  | delivered stream hpc hroom =>
    simp only [hpc, List.length_append, List.length_singleton]
    omega
  | left =>
    simp only [leave_connection, leave_inbound, leave_pc]
    omega

/-- Streams come from the peer alone. -/
theorem inHand_next (s : YamuxSession) (e : YamuxEvent) :
    (s.next e).inHand ≤ s.inHand + opened e := by
  cases e with
  | opens stream =>
    simp only [next, inHand, opened, List.length_append, List.length_singleton]
    omega
  | ends result | backlog outbound | drop => exact le_rfl
  | request request =>
    simp only [next]
    split
    · exact le_rfl
    · split <;> exact le_rfl
  | close =>
    simp only [next]
    split <;> exact le_rfl
  | control =>
    simp only [next]
    split
    · rename_i hinbound
      simp only [inHand, opened, hinbound, List.length_cons]
      omega
    · exact le_rfl
  | driver branch =>
    simp only [next, opened]
    cases hstep : s.driverStep branch with
    | none => exact le_rfl
    | some s' => exact (driverStep_cases hstep).inHand

theorem outbound_next {s : YamuxSession} {e : YamuxEvent} (h : s.connection.outbound.isSome)
    (hready : e ≠ .backlog none) : (s.next e).connection.outbound.isSome := by
  cases e with
  | opens stream | ends result | drop => exact h
  | request request =>
    simp only [next]
    split
    · exact h
    · split <;> exact h
  | close | control =>
    simp only [next]
    split <;> exact h
  | backlog outbound =>
    cases outbound with
    | none => exact absurd rfl hready
    | some result => rfl
  | driver branch =>
    simp only [next]
    cases hstep : s.driverStep branch with
    | none => exact h
    | some s' => cases driverStep_cases hstep <;> exact h

/-- **A peer that opens no more streams than the channel holds** never blocks the driver,
as long as an outbound stream is to be had. -/
theorem few_streams_unhindered (events : List YamuxEvent)
    (hfew : (events.map opened).sum ≤ channelCapacity) (hready : ∀ e ∈ events, e ≠ .backlog none) :
    EveryStep next Unhindered {} events := by
  -- what is in hand and what is still to be opened fit the channel
  have hrun : ∀ (events : List YamuxEvent) (s : YamuxSession),
      s.inHand + (events.map opened).sum ≤ channelCapacity → s.connection.outbound.isSome →
      (∀ e ∈ events, e ≠ .backlog none) → EveryStep next Unhindered s events := by
    intro events
    induction events with
    | nil => exact fun _ _ _ _ => trivial
    | cons e events ih =>
      intro s hfits houtbound hready
      rw [List.map_cons, List.sum_cons] at hfits
      obtain ⟨he, hevents⟩ := List.forall_mem_cons.mp hready
      have hinHand := inHand_next s e
      refine ⟨?_, ih (s.next e) (by omega) (outbound_next houtbound he) hevents⟩
      cases e with
      | driver branch =>
        cases branch with
        | outbound => exact fun _ _ => houtbound
        | inbound =>
          intro _ harrived
          have hsome := List.length_pos_iff.mpr harrived
          unfold inHand at hfits
          exact .inr (by omega)
        | shutdown => trivial
      | backlog outbound =>
        cases outbound with
        | none => exact absurd rfl he
        | some result => trivial
      | opens stream | ends result | request request | control | close | drop => trivial
  exact hrun events {} (by simpa [inHand] using hfew) rfl hready

end YamuxSession

namespace Sample

/-- The peer opens streams, the first of which is taken; the driver yields and delivers
each as long as it can. -/
def crowds (n : Nat) : List YamuxEvent :=
  (List.range n).flatMap fun stream =>
    [.opens stream, .driver .inbound, .driver .inbound, .control]

end Sample

/-- A session with three streams, closed while two of them wait in the channel. -/
theorem closable_crowd :
    let events := Sample.crowds 3 ++ [.close]
    (run YamuxSession.next {} events).closed = true ∧
      EveryState YamuxSession.next (fun s => s.closed → s.Closable) {} events := by
  intro events
  have hunhindered : EveryStep YamuxSession.next YamuxSession.Unhindered {} events :=
    YamuxSession.few_streams_unhindered events (by decide) (by decide)
  exact ⟨by decide +kernel, (YamuxSession.closable_iff events).1 hunhindered⟩

/-- **One stream more than the channel holds**, besides the control stream: the driver
awaits room for it, and awaits it still when the session is closed. -/
theorem close_ignored :
    let events := Sample.crowds (channelCapacity + 2) ++ [.close]
    (run YamuxSession.next {} events).closed = true ∧
      ¬(run YamuxSession.next {} events).Closable ∧
      ¬EveryState YamuxSession.next (fun s => s.closed → s.Closable) {} events := by
  intro events
  have hclosed : (run YamuxSession.next {} events).closed = true := by decide +kernel
  have hstuck : ¬(run YamuxSession.next {} events).Closable := by
    rw [YamuxSession.closable_iff_not_blocked (by rw [hclosed]; rfl)]
    decide +kernel
  exact ⟨hclosed, hstuck, fun h => hstuck (h.last hclosed)⟩

end OngrokRelay
