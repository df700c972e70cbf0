import Mathlib.Order.Lattice
import Mathlib.Data.List.Basic

/-
  The first few of a list that is sorted by a rank alone, highest first, with a
  stable sort.

  1. `byRank_pairwise`: elements of one rank stay in the order they had.
  2. `countP_above_le`, `exists_take_of_countP_lt`: the elements above a rank are
     what stands before its first one.
  3. `take_untied_iff`: no element among the first `n` shares its rank exactly
     when every shared rank has at least `n` elements above it.
-/

namespace Ranking

variable {α β : Type} [LinearOrder β] (rank : α → β)

/-- Highest first. -/
def Ranked (l : List α) : Prop := l.Pairwise fun a b => rank b ≤ rank a

def byRank (l : List α) : List α := l.mergeSort fun a b => decide (rank b ≤ rank a)

theorem byRank_perm (l : List α) : (byRank rank l).Perm l := List.mergeSort_perm l _

section
variable (l : List α)

theorem byRank_trans (a b c : α) (hab : decide (rank b ≤ rank a) = true)
    (hbc : decide (rank c ≤ rank b) = true) : decide (rank c ≤ rank a) = true :=
  decide_eq_true (le_trans (of_decide_eq_true hbc) (of_decide_eq_true hab))

theorem byRank_total (a b : α) : (decide (rank b ≤ rank a) || decide (rank a ≤ rank b)) = true := by
  rw [Bool.or_eq_true, decide_eq_true_eq, decide_eq_true_eq]
  exact le_total _ _

theorem byRank_ranked : Ranked rank (byRank rank l) :=
  (List.pairwise_mergeSort (byRank_trans rank) (byRank_total rank) l).imp of_decide_eq_true

/-- The elements of one rank are those of the list, in its order. -/
theorem byRank_filter (r : β) :
    (byRank rank l).filter (fun a => rank a = r) = l.filter fun a => rank a = r := by
  have hties : (l.filter fun a => rank a = r).Pairwise fun a b =>
      decide (rank b ≤ rank a) = true := by
    refine List.pairwise_of_forall_mem_list fun a ha b hb => decide_eq_true (le_of_eq ?_)
    rw [of_decide_eq_true (List.mem_filter.mp ha).2, of_decide_eq_true (List.mem_filter.mp hb).2]
  have hsublist := (List.sublist_mergeSort (byRank_trans rank) (byRank_total rank) hties
    List.filter_sublist).filter fun a => decide (rank a = r)
  rw [List.filter_filter] at hsublist
  simp only [Bool.and_self] at hsublist
  exact (hsublist.eq_of_length ((byRank_perm rank l).filter _).length_eq.symm).symm

/-- **The sort is stable**: elements of one rank stay in the order they had. -/
theorem byRank_pairwise {tie : α → α → Prop} (h : l.Pairwise tie) :
    (byRank rank l).Pairwise fun a b => rank b < rank a ∨ rank a = rank b ∧ tie a b := by
  rw [List.pairwise_iff_forall_sublist]
  intro a b hab
  rcases lt_or_eq_of_le (List.pairwise_iff_forall_sublist.mp (byRank_ranked rank l) hab) with
    hlt | heq
  · exact .inl hlt
  · have hties := hab.filter fun c => decide (rank c = rank a)
    rw [byRank_filter, List.filter_cons_of_pos (by simp), List.filter_cons_of_pos (by simp [heq])]
      at hties
    exact .inr ⟨heq.symm, List.pairwise_iff_forall_sublist.mp h (hties.trans List.filter_sublist)⟩

end

/-! ## The first of a ranked list -/

variable {l : List α} {rank}

theorem countP_above_le {before after : List α} {a : α}
    (h : Ranked rank (before ++ a :: after)) :
    (before ++ a :: after).countP (fun b => rank a < rank b) ≤ before.length := by
  have hafter : (a :: after).countP (fun b => rank a < rank b) = 0 := by
    rw [List.countP_eq_zero]
    intro b hb
    rw [decide_eq_true_eq, not_lt]
    rcases List.mem_cons.mp hb with rfl | hb
    · exact le_refl _
    · exact (List.pairwise_cons.mp (List.pairwise_append.mp h).2.1).1 b hb
  rw [List.countP_append, hafter]
  exact List.countP_le_length

theorem exists_take_of_countP_lt {a : α} {n : Nat} (h : Ranked rank l) (ha : a ∈ l)
    (hn : l.countP (fun b => rank a < rank b) < n) : ∃ c ∈ l.take n, rank c = rank a := by
  induction l generalizing n with
  | nil => cases ha
  | cons x l ih =>
    obtain ⟨hx, hl⟩ := List.pairwise_cons.mp h
    cases n with
    | zero => cases hn
    | succ n =>
      rcases lt_trichotomy (rank x) (rank a) with hlt | heq | hgt
      · -- nothing after `x` is above it
        rcases List.mem_cons.mp ha with rfl | ha
        · exact absurd hlt (lt_irrefl _)
        · exact absurd (hx a ha) (not_le_of_gt hlt)
      · exact ⟨x, List.mem_cons_self, heq⟩
      · rw [List.countP_cons_of_pos (by simpa using hgt)] at hn
        have hmem := (List.mem_cons.mp ha).resolve_left fun heq => (ne_of_gt hgt) (heq ▸ rfl)
        obtain ⟨c, hc, hrank⟩ := ih hl hmem (Nat.lt_of_succ_lt_succ hn)
        exact ⟨c, List.mem_cons_of_mem x hc, hrank⟩

/-- **No element among the first `n` shares its rank** exactly when every shared
rank has at least `n` elements above it. -/
theorem take_untied_iff {n : Nat} (h : Ranked rank l) :
    (∀ c ∈ l.take n, ∀ e ∈ l, c ≠ e → rank c ≠ rank e) ↔
      ∀ a ∈ l, ∀ b ∈ l, a ≠ b → rank a = rank b → n ≤ l.countP fun e => rank a < rank e := by
  constructor
  · intro huntied a ha b hb hne htie
    refine Nat.le_of_not_lt fun hlt => ?_
    obtain ⟨c, hc, hrank⟩ := exists_take_of_countP_lt h ha hlt
    by_cases hca : c = a
    · rw [hca] at hc
      exact huntied a hc b hb hne htie
    · exact huntied c hc a ha hca hrank
  · intro habove c hc e he hne htie
    obtain ⟨before, after, htake⟩ := List.append_of_mem hc
    have hlength := congrArg List.length htake
    rw [List.length_append, List.length_cons, List.length_take] at hlength
    have hl := (List.take_append_drop n l).symm
    rw [htake, List.append_assoc, List.cons_append] at hl
    have hn := habove c (List.mem_of_mem_take hc) e he hne htie
    rw [hl] at h hn
    have hle := countP_above_le h
    omega

end Ranking
