import Mathlib.Tactic.Common

/-
  Finite runs of a machine with a total step function, and the rules by which
  a fact about one step becomes a fact about every run.

  A label a state does not enable leaves the state unchanged, so a run is a
  fold and every prefix of a run is a run.

  1. `EveryState P` and `EveryStep Q`: a property of every state a run visits,
     the first and the last included, and of every step it takes.
  2. `everyState_of_everyStep`: what one step preserves when it meets a
     condition, every run whose steps all meet the condition preserves.
  3. `everyState_iff_everyStep`: when a step keeps a property exactly if it
     meets a condition, the runs that keep the property in every state are
     exactly the runs whose steps all meet the condition.
  4. `Once P` and `OnceStep Q`: a property that some state of a run has had, or
     some step of it. `run_history`: what one step preserves of a state and of
     the run that has led to it.
  5. `EveryPair R`: a relation between any two states of a run.
     `everyPair_of_step`: a preorder that every step respects.
  6. `exists_run_of_progress`: a run that settles, when every state that has not
     settled has a step that comes closer.
-/

namespace Transition

variable {σ ι : Type*} (step : σ → ι → σ)

/-- The state a run ends in. -/
def run (s : σ) (ls : List ι) : σ := ls.foldl step s

/-- `P` holds in every state of the run, the first and the last included. -/
def EveryState (P : σ → Prop) : σ → List ι → Prop
  | s, [] => P s
  | s, l :: ls => P s ∧ EveryState P (step s l) ls

/-- `Q` holds of every step of the run: of the state before it and its label. -/
def EveryStep (Q : σ → ι → Prop) : σ → List ι → Prop
  | _, [] => True
  | s, l :: ls => Q s l ∧ EveryStep Q (step s l) ls

instance decidableEveryState (P : σ → Prop) [DecidablePred P] :
    ∀ s ls, Decidable (EveryState step P s ls)
  | s, [] => inferInstanceAs (Decidable (P s))
  | s, l :: ls =>
    have := decidableEveryState P (step s l) ls
    inferInstanceAs (Decidable (P s ∧ EveryState step P (step s l) ls))

instance decidableEveryStep (Q : σ → ι → Prop) [∀ s l, Decidable (Q s l)] :
    ∀ s ls, Decidable (EveryStep step Q s ls)
  | _, [] => inferInstanceAs (Decidable True)
  | s, l :: ls =>
    have := decidableEveryStep Q (step s l) ls
    inferInstanceAs (Decidable (Q s l ∧ EveryStep step Q (step s l) ls))

@[simp] theorem run_nil (s : σ) : run step s [] = s := rfl

@[simp] theorem run_cons (s : σ) (l : ι) (ls : List ι) :
    run step s (l :: ls) = run step (step s l) ls := rfl

theorem run_append (s : σ) (ls ms : List ι) :
    run step s (ls ++ ms) = run step (run step s ls) ms := List.foldl_append

variable {step}

theorem EveryState.head {P : σ → Prop} {s : σ} {ls : List ι} (h : EveryState step P s ls) :
    P s := by
  cases ls with
  | nil => exact h
  | cons l ls => exact h.1

theorem EveryState.last {P : σ → Prop} {s : σ} {ls : List ι} (h : EveryState step P s ls) :
    P (run step s ls) := by
  induction ls generalizing s with
  | nil => exact h
  | cons l ls ih => exact ih h.2

theorem EveryState.mono {P Q : σ → Prop} (hPQ : ∀ s, P s → Q s) {s : σ} {ls : List ι}
    (h : EveryState step P s ls) : EveryState step Q s ls := by
  induction ls generalizing s with
  | nil => exact hPQ s h
  | cons l ls ih => exact ⟨hPQ s h.1, ih h.2⟩

theorem EveryState.and {P Q : σ → Prop} {s : σ} {ls : List ι} (hP : EveryState step P s ls)
    (hQ : EveryState step Q s ls) : EveryState step (fun s => P s ∧ Q s) s ls := by
  induction ls generalizing s with
  | nil => exact ⟨hP, hQ⟩
  | cons l ls ih => exact ⟨⟨hP.1, hQ.1⟩, ih hP.2 hQ.2⟩

/-- **A conditional invariant.** What every step that meets `C` preserves holds
in every state of a run whose steps all meet `C`. -/
theorem everyState_of_everyStep {P : σ → Prop} {C : σ → ι → Prop}
    (hstep : ∀ s l, P s → C s l → P (step s l)) {s : σ} {ls : List ι}
    (hs : P s) (hC : EveryStep step C s ls) : EveryState step P s ls := by
  induction ls generalizing s with
  | nil => exact hs
  | cons l ls ih => exact ⟨hs, ih (hstep s l hs hC.1) hC.2⟩

/-- What every step preserves holds in every state of every run. -/
theorem everyState_of_step {P : σ → Prop} (hstep : ∀ s l, P s → P (step s l)) {s : σ}
    (hs : P s) (ls : List ι) : EveryState step P s ls := by
  induction ls generalizing s with
  | nil => exact hs
  | cons l ls ih => exact ⟨hs, ih (hstep s l hs)⟩

theorem run_of_step {P : σ → Prop} (hstep : ∀ s l, P s → P (step s l)) {s : σ}
    (hs : P s) (ls : List ι) : P (run step s ls) :=
  (everyState_of_step hstep hs ls).last

theorem everyStep_append {Q : σ → ι → Prop} {s : σ} {ls ms : List ι} :
    EveryStep step Q s (ls ++ ms) ↔ EveryStep step Q s ls ∧ EveryStep step Q (run step s ls) ms := by
  induction ls generalizing s with
  | nil => exact (iff_of_eq (true_and _)).symm
  | cons l ls ih => exact (and_congr_right fun _ => ih).trans and_assoc.symm

/-- A condition on the labels is a condition on the steps. -/
theorem everyStep_of_labels {R : ι → Prop} {s : σ} {ls : List ι} (hR : ∀ l ∈ ls, R l) :
    EveryStep step (fun _ l => R l) s ls := by
  induction ls generalizing s with
  | nil => trivial
  | cons l ls ih =>
    exact ⟨hR l List.mem_cons_self, ih fun l' hl' => hR l' (List.mem_cons_of_mem l hl')⟩

/-- What every label of the run satisfies, every step of it satisfies too. -/
theorem EveryStep.and_labels {Q : σ → ι → Prop} {R : ι → Prop} {s : σ} {ls : List ι}
    (h : EveryStep step Q s ls) (hR : ∀ l ∈ ls, R l) :
    EveryStep step (fun s l => R l ∧ Q s l) s ls := by
  induction ls generalizing s with
  | nil => trivial
  | cons l ls ih =>
    exact ⟨⟨hR l List.mem_cons_self, h.1⟩,
      ih h.2 fun l' hl' => hR l' (List.mem_cons_of_mem l hl')⟩

theorem EveryStep.and {Q R : σ → ι → Prop} {s : σ} {ls : List ι} (hQ : EveryStep step Q s ls)
    (hR : EveryStep step R s ls) : EveryStep step (fun s l => Q s l ∧ R s l) s ls := by
  induction ls generalizing s with
  | nil => trivial
  | cons l ls ih => exact ⟨⟨hQ.1, hR.1⟩, ih hQ.2 hR.2⟩

/-- Under an invariant that the condition preserves, the condition may be
weakened step by step to anything it implies there. -/
theorem everyStep_of_invariant {P : σ → Prop} {C Q : σ → ι → Prop}
    (hstep : ∀ s l, P s → C s l → P (step s l)) (hQ : ∀ s l, P s → C s l → Q s l)
    {s : σ} {ls : List ι} (hs : P s) (hC : EveryStep step C s ls) : EveryStep step Q s ls := by
  induction ls generalizing s with
  | nil => trivial
  | cons l ls ih => exact ⟨hQ s l hs hC.1, ih (hstep s l hs hC.1) hC.2⟩

/-- Two step conditions that agree under an invariant of every step agree over
whole runs. -/
theorem everyStep_congr {J : σ → Prop} {C Q : σ → ι → Prop} (hJ : ∀ s l, J s → J (step s l))
    (h : ∀ s l, J s → (C s l ↔ Q s l)) {s : σ} (hs : J s) (ls : List ι) :
    EveryStep step C s ls ↔ EveryStep step Q s ls := by
  induction ls generalizing s with
  | nil => exact Iff.rfl
  | cons l ls ih => exact and_congr (h s l hs) (ih (hJ s l hs))

/-- **The exact condition.** Under an invariant `J` of every step, if a step from
a state with `P` keeps `P` exactly when it meets `C`, then the runs that keep
`P` in every state are exactly those whose steps all meet `C`. -/
theorem everyState_iff_everyStep {J P : σ → Prop} {C : σ → ι → Prop}
    (hJ : ∀ s l, J s → J (step s l))
    (hC : ∀ s l, J s → P s → (P (step s l) ↔ C s l)) {s : σ} (hJs : J s) (hPs : P s)
    (ls : List ι) : EveryState step P s ls ↔ EveryStep step C s ls := by
  induction ls generalizing s with
  | nil => exact iff_of_true hPs trivial
  | cons l ls ih =>
    -- `P` after `l` is the condition on `l` and the hypothesis of the rest
    constructor
    · intro hall
      obtain ⟨-, h⟩ := hall
      exact ⟨(hC s l hJs hPs).mp h.head, (ih (hJ s l hJs) h.head).mp h⟩
    · intro hall
      obtain ⟨hc, h⟩ := hall
      have hP := (hC s l hJs hPs).mpr hc
      exact ⟨hPs, (ih (hJ s l hJs) hP).mpr h⟩

/-- **Progress.** When every state with `J` either has settled or has an allowed step that
keeps `J` and decreases the measure, some run of allowed steps settles. -/
theorem exists_run_of_progress {J Settled : σ → Prop} {allowed : ι → Prop} (measure : σ → Nat)
    (hstep : ∀ s, J s →
      Settled s ∨ ∃ l, allowed l ∧ J (step s l) ∧ measure (step s l) < measure s)
    {s : σ} (hs : J s) :
    ∃ ls, (∀ l ∈ ls, allowed l) ∧ J (run step s ls) ∧ Settled (run step s ls) := by
  induction hleft : measure s using Nat.strongRecOn generalizing s with
  | _ n ih =>
    rcases hstep s hs with hsettled | ⟨l, hl, hJ, hlt⟩
    · exact ⟨[], fun _ hmem => absurd hmem List.not_mem_nil, hs, hsettled⟩
    · obtain ⟨ls, hls, hend⟩ := ih _ (hleft ▸ hlt) hJ rfl
      refine ⟨l :: ls, fun l' hmem => ?_, hend⟩
      rcases List.mem_cons.mp hmem with rfl | hmem
      · exact hl
      · exact hls l' hmem

/-! ## Between two states of a run -/

variable (step) in
/-- `R` relates any two states that the run has been in, the earlier to the later. -/
def EveryPair (R : σ → σ → Prop) (s : σ) (ls : List ι) : Prop :=
  ∀ past more, past ++ more <+: ls → R (run step s past) (run step s (past ++ more))

/-- **What every step keeps, any two states of a run keep**: a preorder that every step
from a state of the invariant respects. -/
theorem everyPair_of_step {P : σ → Prop} {R : σ → σ → Prop} (hrefl : ∀ s, R s s)
    (htrans : ∀ s t u, R s t → R t u → R s u) (hstep : ∀ s l, P s → P (step s l) ∧ R s (step s l))
    {s : σ} (hs : P s) (ls : List ι) : EveryPair step R s ls := by
  rintro past more -
  have hfrom (t : σ) (ht : P t) : R t (run step t more) := by
    induction more generalizing t with
    | nil => exact hrefl t
    | cons l more ih => exact htrans _ _ _ (hstep t l ht).2 (ih (step t l) (hstep t l ht).1)
  rw [run_append]
  exact hfrom _ (run_of_step (fun t l ht => (hstep t l ht).1) hs past)

/-! ## What has held before -/

variable (step) in
/-- `P` holds in some state that the run has been in. -/
def Once (P : σ → Prop) (s : σ) (ls : List ι) : Prop := ∃ past, past <+: ls ∧ P (run step s past)

theorem Once.now {P : σ → Prop} {s : σ} {ls : List ι} (h : P (run step s ls)) :
    Once step P s ls := ⟨ls, List.prefix_rfl, h⟩

theorem Once.later {P : σ → Prop} {s : σ} {ls : List ι} (h : Once step P s ls) (l : ι) :
    Once step P s (ls ++ [l]) := by
  obtain ⟨past, hpast, hP⟩ := h
  exact ⟨past, hpast.trans (List.prefix_append ls [l]), hP⟩

theorem Once.mono {P Q : σ → Prop} (hPQ : ∀ s, P s → Q s) {s : σ} {ls : List ι}
    (h : Once step P s ls) : Once step Q s ls := by
  obtain ⟨past, hpast, hP⟩ := h
  exact ⟨past, hpast, hPQ _ hP⟩

variable (step) in
/-- `Q` held of some step that the run has taken: of the state before it and its label. -/
def OnceStep (Q : σ → ι → Prop) (s : σ) (ls : List ι) : Prop :=
  ∃ past l, past ++ [l] <+: ls ∧ Q (run step s past) l

theorem OnceStep.now {Q : σ → ι → Prop} {s : σ} {ls : List ι} {l : ι} (h : Q (run step s ls) l) :
    OnceStep step Q s (ls ++ [l]) := ⟨ls, l, List.prefix_rfl, h⟩

theorem OnceStep.later {Q : σ → ι → Prop} {s : σ} {ls : List ι} (h : OnceStep step Q s ls) (l : ι) :
    OnceStep step Q s (ls ++ [l]) := by
  obtain ⟨past, l', hpast, hQ⟩ := h
  exact ⟨past, l', hpast.trans (List.prefix_append ls [l]), hQ⟩

theorem OnceStep.mono {Q R : σ → ι → Prop} (hQR : ∀ s l, Q s l → R s l) {s : σ} {ls : List ι}
    (h : OnceStep step Q s ls) : OnceStep step R s ls := by
  obtain ⟨past, l, hpast, hQ⟩ := h
  exact ⟨past, l, hpast, hQR _ _ hQ⟩

/-- **Induction along a history**: what holds of the first state, and what every step
preserves of the state it comes to and the labels that have led there. -/
theorem run_history {I : List ι → σ → Prop} {s : σ} (hs : I [] s)
    (hstep : ∀ ls l, I ls (run step s ls) → I (ls ++ [l]) (step (run step s ls) l))
    (ls : List ι) : I ls (run step s ls) := by
  -- the labels still to come move one by one into the past
  have hmove : ∀ ls past, I past (run step s past) → I (past ++ ls) (run step s (past ++ ls)) := by
    intro ls
    induction ls with
    | nil =>
      intro past h
      rwa [List.append_nil]
    | cons l ls ih =>
      intro past h
      have hnext := ih (past ++ [l]) (by rw [run_append]; exact hstep past l h)
      rwa [List.append_assoc] at hnext
  exact hmove ls [] hs

end Transition
