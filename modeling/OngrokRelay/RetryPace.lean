import Mathlib.Data.List.Induction
import OngrokRelay.ClientRetry

/-
  The pace of the client's retries (`run_with_fallback`).

  `retry_attempt` counts the pairs of attempts that have failed and is never set back, not
  even by a session that has lasted. The seconds slept are recorded, sleep by sleep.

  1. `Phased.finished`: an error lengthens the next sleep, unless it is the last.
  2. `Pacing.step`: one event keeps the count, the attempts and the sleeps in step.
  3. `retry_paced`: so in every run the client makes its attempts in pairs, QUIC first; the
     sleep after the k-th pair takes 2^k seconds, from the fifth on 32, and up to a third
     more, whatever became of the sessions between; and it gives up only when it runs once
     or its token has been rejected.

  Correspondence (Rust ↔ Lean):
    `base_delay`, `jitter`   ↔ `backoff`, `jitter`
    `sleep(delay)`           ↔ the entries of `PacedClient.slept`
-/

namespace OngrokRelay

open Transition

/-- The base delay of the k-th retry. -/
def backoff (k : Nat) : Nat := 2 ^ min k 5

/-- `random_range(0..=base_delay / 3)`, of what the generator draws. -/
def jitter (baseDelay draw : Nat) : Nat := draw % (baseDelay / 3 + 1)

/-- `retry_attempt` after so many retries. -/
def saturated (retries : Nat) : Nat := min retries (2 ^ 32 - 1)

/-- The attempts of so many pairs. -/
def pairs : Nat → List TransportKind
  | 0 => []
  | k + 1 => pairs k ++ [.quic, .tcpTlsYamux]

structure PacedClient where
  client : RetryClient := .start
  /-- The seconds of the sleeps that are over. -/
  slept : List Nat := []

/-- An event, with what is drawn for the jitter if it is the end of a sleep. -/
def PacedClient.step (cfg : ClientConfig) (p : PacedClient) (event : ClientEvent × Nat) :
    PacedClient where
  client := p.client.step cfg event.1
  slept :=
    match p.client.phase, event.1 with
    | .sleeping baseDelay, .completes _ => p.slept ++ [baseDelay + jitter baseDelay event.2]
    | _, _ => p.slept

/-! ## The numbers -/

theorem backoff_le (k : Nat) : backoff k ≤ 32 :=
  Nat.pow_le_pow_right (by decide) (Nat.min_le_right k 5)

theorem backoff_full {k : Nat} (h : 5 ≤ k) : backoff k = 32 := by
  rw [backoff, Nat.min_eq_right h]
  rfl

theorem jitter_le (baseDelay draw : Nat) : jitter baseDelay draw ≤ baseDelay / 3 :=
  Nat.le_of_lt_succ (Nat.mod_lt draw (Nat.succ_pos (baseDelay / 3)))

theorem saturated_succ (n : Nat) : min (saturated n + 1) (2 ^ 32 - 1) = saturated (n + 1) := by
  unfold saturated
  omega

/-- The count is exact as far as the delay goes. -/
theorem backoff_saturated (n : Nat) : 2 ^ min (saturated n) 5 = backoff n := by
  unfold saturated backoff
  congr 1
  omega

theorem length_pairs (k : Nat) : (pairs k).length = 2 * k := by
  induction k with
  | zero => rfl
  | succ k ih =>
    rw [pairs, List.length_append, ih]
    rfl

/-- The i-th sleep is that of the i-th retry. -/
def Delays (slept : List Nat) : Prop :=
  ∀ i (h : i < slept.length),
    backoff (i + 1) ≤ slept[i] ∧ slept[i] ≤ backoff (i + 1) + backoff (i + 1) / 3

theorem delays_append {slept : List Nat} {delay : Nat} :
    Delays (slept ++ [delay]) ↔ Delays slept ∧ backoff (slept.length + 1) ≤ delay ∧
      delay ≤ backoff (slept.length + 1) + backoff (slept.length + 1) / 3 := by
  constructor
  · intro h
    refine ⟨fun i hi => ?_, ?_⟩
    · have hat := h i (by rw [List.length_append]; omega)
      rwa [List.getElem_append_left hi] at hat
    · have hat := h slept.length (by rw [List.length_append]; exact Nat.lt_succ_self _)
      rwa [List.getElem_append_right (Nat.le_refl _), List.getElem_singleton] at hat
  · rintro ⟨h, hdelay⟩ i hi
    rw [List.length_append, List.length_singleton] at hi
    rcases Nat.lt_succ_iff_lt_or_eq.mp hi with hlt | rfl
    · rw [List.getElem_append_left hlt]
      exact h i hlt
    · rw [List.getElem_append_right (Nat.le_refl _), List.getElem_singleton]
      exact hdelay

/-- All the sleeps but the first four are full. -/
theorem Delays.least {slept : List Nat} (h : Delays slept) :
    32 * slept.length ≤ slept.sum + 98 ∧
      (slept.length ≤ 4 → 2 ^ (slept.length + 1) ≤ slept.sum + 2) := by
  induction slept using List.reverseRecOn with
  | nil => exact ⟨by decide, fun _ => by decide⟩
  | append_singleton slept delay ih =>
    obtain ⟨hslept, hdelay, -⟩ := delays_append.mp h
    obtain ⟨hlong, hshort⟩ := ih hslept
    rw [List.length_append, List.sum_append, List.length_singleton, List.sum_singleton]
    by_cases hfew : slept.length < 4
    · -- the sum of the first powers of two
      have hpow : backoff (slept.length + 1) = 2 ^ (slept.length + 1) := by
        rw [backoff, Nat.min_eq_left (by omega)]
      have htwo : 2 ^ (slept.length + 1 + 1) = 2 * 2 ^ (slept.length + 1) := Nat.pow_succ'
      have hsum := hshort (by omega)
      have hleast : 2 ^ (slept.length + 1 + 1) ≤ slept.sum + delay + 2 := by omega
      refine ⟨?_, fun _ => hleast⟩
      by_cases hthree : slept.length = 3
      · rw [hthree] at hleast ⊢
        omega
      · omega
    · refine ⟨?_, fun hle => absurd hle (by omega)⟩
      have hfull := backoff_full (k := slept.length + 1) (by omega)
      omega

theorem Delays.most {slept : List Nat} (h : Delays slept) : slept.sum ≤ 42 * slept.length := by
  induction slept using List.reverseRecOn with
  | nil => exact Nat.le_refl 0
  | append_singleton slept delay ih =>
    obtain ⟨hslept, -, hdelay⟩ := delays_append.mp h
    have hmost := ih hslept
    have hbackoff := backoff_le (slept.length + 1)
    rw [List.length_append, List.sum_append, List.length_singleton, List.sum_singleton]
    omega

/-! ## The loop -/

/-- Where the loop is after so many sleeps. -/
def Phased (cfg : ClientConfig) (n : Nat) (c : RetryClient) : Prop :=
  match c.phase with
  | .quic _ => c.retryAttempt = saturated n ∧ c.attempts = pairs n ++ [.quic]
  | .tcpConnect | .tlsConnect | .yamux _ =>
    c.retryAttempt = saturated n ∧ c.attempts = pairs (n + 1)
  | .sleeping baseDelay =>
    c.retryAttempt = saturated (n + 1) ∧ c.attempts = pairs (n + 1) ∧ baseDelay = backoff (n + 1)
  | .returned (.ok _) => c.attempts = pairs n ++ [.quic] ∨ c.attempts = pairs (n + 1)
  | .returned (.error e) =>
    c.attempts = pairs (n + 1) ∧ (cfg.once = true ∨ isAuthenticationError e = true)

/-- The second attempt of a pair has come to its end. -/
theorem Phased.finished {cfg : ClientConfig} {n : Nat} {c : RetryClient}
    (hretry : c.retryAttempt = saturated n) (hattempts : c.attempts = pairs (n + 1))
    (result : Except String Unit) : Phased cfg n (c.finished cfg result) := by
  cases result with
  | ok _ => exact .inr hattempts
  | error e =>
    simp only [RetryClient.finished]
    split
    · rename_i hstop
      exact ⟨hattempts, (Bool.or_eq_true _ _).mp hstop⟩
    · refine ⟨?_, hattempts, ?_⟩
      · show min (c.retryAttempt + 1) (2 ^ 32 - 1) = saturated (n + 1)
        rw [hretry, saturated_succ]
      · show 2 ^ min (min (c.retryAttempt + 1) (2 ^ 32 - 1)) 5 = backoff (n + 1)
        rw [hretry, saturated_succ, backoff_saturated]

theorem Phased.polled {cfg : ClientConfig} {n : Nat} {c : RetryClient}
    (hretry : c.retryAttempt = saturated n) (hattempts : c.attempts = pairs (n + 1))
    (poll : Poll) : Phased cfg n (c.polled cfg poll) := by
  cases poll with
  | pending session => exact ⟨hretry, hattempts⟩
  | ready result => exact finished hretry hattempts result

/-- The first attempt of a pair goes on, makes way for the second, or succeeds. -/
theorem quic_step (cfg : ClientConfig) (session : QuicSession) (event : ClientEvent) :
    (∃ next, (Client.quic session).step cfg event = .quic next) ∨
      (Client.quic session).step cfg event = .yamux ∨
      (Client.quic session).step cfg event = .returned (.ok ()) := by
  have hresolve (poll : Poll) : (∃ next, poll.resolve = .quic next) ∨
      poll.resolve = .yamux ∨ poll.resolve = .returned (.ok ()) := by
    cases poll with
    | pending next => exact .inl ⟨next, rfl⟩
    | ready result =>
      cases result with
      | ok _ => exact .inr (.inr rfl)
      | error e => exact .inr (.inl rfl)
  cases event with
  | timer => exact .inr (.inl rfl)
  | completes result => exact hresolve _
  | reads input => exact hresolve _

/-- An event that ends no sleep. -/
theorem Phased.step {cfg : ClientConfig} {n : Nat} {c : RetryClient} (h : Phased cfg n c)
    {event : ClientEvent} (hawake : ∀ baseDelay, c.phase ≠ .sleeping baseDelay) :
    Phased cfg n (c.step cfg event) := by
  have hc := h
  unfold Phased at h
  unfold RetryClient.step
  cases hphase : c.phase with
  | quic session =>
    simp only [hphase] at h
    obtain ⟨hretry, hattempts⟩ := h
    rcases quic_step cfg session event with ⟨next, hstep⟩ | hstep | hstep
    · simp only [hstep]
      exact ⟨hretry, hattempts⟩
    · simp only [hstep]
      refine ⟨hretry, ?_⟩
      show c.attempts ++ [.tcpTlsYamux] = pairs (n + 1)
      rw [hattempts, pairs, List.append_assoc]
      rfl
    · simp only [hstep]
      exact .inl hattempts
  | tcpConnect =>
    simp only [hphase] at h
    obtain ⟨hretry, hattempts⟩ := h
    rcases event with (e | _) | _ | _
    · exact finished hretry hattempts _
    · exact ⟨hretry, hattempts⟩
    · exact hc
    · exact hc
  | tlsConnect =>
    simp only [hphase] at h
    obtain ⟨hretry, hattempts⟩ := h
    rcases event with (e | _) | _ | _
    · exact finished hretry hattempts _
    · exact ⟨hretry, hattempts⟩
    · exact hc
    · exact hc
  | yamux session =>
    simp only [hphase] at h
    obtain ⟨hretry, hattempts⟩ := h
    cases event with
    | completes result => exact polled hretry hattempts _
    | reads input => exact polled hretry hattempts _
    | timer => exact hc
  | sleeping baseDelay => exact absurd hphase (hawake baseDelay)
  | returned result => exact hc

namespace PacedClient

/-- The count, the attempts and the sleeps are in step. -/
structure Pacing (cfg : ClientConfig) (p : PacedClient) : Prop where
  phased : Phased cfg p.slept.length p.client
  delays : Delays p.slept

theorem Pacing.step {cfg : ClientConfig} {p : PacedClient} (h : Pacing cfg p)
    (event : ClientEvent × Nat) : Pacing cfg (p.step cfg event) := by
  obtain ⟨event, draw⟩ := event
  by_cases hsleeping : ∃ baseDelay, p.client.phase = .sleeping baseDelay
  · obtain ⟨baseDelay, hphase⟩ := hsleeping
    have hphased := h.phased
    simp only [Phased, hphase] at hphased
    obtain ⟨hretry, hattempts, rfl⟩ := hphased
    cases event with
    | completes result =>
      simp only [PacedClient.step, RetryClient.step, hphase]
      refine ⟨?_, delays_append.mpr ⟨h.delays, Nat.le_add_right _ _, ?_⟩⟩
      · rw [List.length_append, List.length_singleton]
        refine ⟨hretry, ?_⟩
        show p.client.attempts ++ [.quic] = pairs (p.slept.length + 1) ++ [.quic]
        rw [hattempts]
      · exact Nat.add_le_add_left (jitter_le _ draw) _
    | reads input | timer =>
      simp only [PacedClient.step, RetryClient.step, hphase]
      exact h
  · have hslept : (p.step cfg (event, draw)).slept = p.slept := by
      simp only [PacedClient.step]
      split
      · rename_i hphase
        exact absurd ⟨_, hphase⟩ hsleeping
      · rfl
    refine ⟨?_, by rw [hslept]; exact h.delays⟩
    rw [hslept]
    exact h.phased.step fun baseDelay hphase => hsleeping ⟨baseDelay, hphase⟩

/-- What that comes to. -/
structure Paced (cfg : ClientConfig) (p : PacedClient) : Prop where
  /-- A pair for each sleep, and the one under way. -/
  attempts : p.client.attempts = pairs p.slept.length ++ [.quic] ∨
    p.client.attempts = pairs (p.slept.length + 1)
  delays : Delays p.slept
  /-- In `t` seconds of sleep there are not many more than `t / 16` attempts. -/
  rate : 16 * p.client.attempts.length ≤ p.slept.sum + 130
  /-- No pair is put off by more than 42 seconds. -/
  keepsTrying : p.slept.sum ≤ 42 * p.slept.length
  gaveUp : ∀ e, p.client.phase = .returned (.error e) →
    p.client.attempts = pairs (p.slept.length + 1) ∧
      (cfg.once = true ∨ isAuthenticationError e = true)

theorem Pacing.paced {cfg : ClientConfig} {p : PacedClient} (h : Pacing cfg p) : Paced cfg p := by
  have hphased := h.phased
  unfold Phased at hphased
  have hattempts : p.client.attempts = pairs p.slept.length ++ [.quic] ∨
      p.client.attempts = pairs (p.slept.length + 1) := by
    split at hphased
    · exact .inl hphased.2
    · exact .inr hphased.2
    · exact .inr hphased.2
    · exact .inr hphased.2
    · exact .inr hphased.2.1
    · exact hphased
    · exact .inr hphased.1
  refine ⟨hattempts, h.delays, ?_, h.delays.most, fun e hreturned => ?_⟩
  · have hleast := h.delays.least.1
    have hlength : p.client.attempts.length ≤ 2 * (p.slept.length + 1) := by
      rcases hattempts with heq | heq
      · rw [heq, List.length_append, length_pairs, List.length_singleton]
        omega
      · rw [heq, length_pairs]
    omega
  · rw [hreturned] at hphased
    exact hphased

end PacedClient

/-- **The pace of the retries** in every run of the client: its attempts come in pairs, the
k-th sleep is that of the k-th retry, and it returns an error only after a pair of which the
second attempt has failed for good. -/
theorem retry_paced (cfg : ClientConfig) (events : List (ClientEvent × Nat)) :
    EveryState (PacedClient.step cfg) (PacedClient.Paced cfg) {} events := by
  have hstart : PacedClient.Pacing cfg {} := ⟨⟨rfl, rfl⟩, fun _ hi => absurd hi (Nat.not_lt_zero _)⟩
  have hall : EveryState (PacedClient.step cfg) (PacedClient.Pacing cfg) {} events :=
    everyState_of_step (fun _ event h => h.step event) hstart events
  exact hall.mono fun _ h => h.paced

end OngrokRelay
