import Mathlib.Algebra.Ring.Int.Defs
import Mathlib.Algebra.Ring.Nat
import Mathlib.Tactic.Common

/-
  Numerals of a fixed number of digits, most significant digit first, in a base
  of at most sixteen.

  1. `fixedDigits_injective`: below `base ^ count` the numeral determines the number.
  2. `fixedDigits_ne`: a numeral holds digits only, so a character that is no
     digit separates numerals.
  3. `fixedDigits_lt_iff`: numerals of one length are ordered as the numbers are,
     and `field_lt_iff` compares a text of several such fields.
-/

namespace Numerals

/-- The `count` low digits of `n` in `base`, most significant first. -/
def fixedDigits (base : Nat) : Nat → Nat → List Char
  | 0, _ => []
  | count + 1, n => fixedDigits base count (n / base) ++ [Nat.digitChar (n % base)]

theorem digitChar_injective {a b : Nat} (ha : a < 16) (hb : b < 16)
    (h : Nat.digitChar a = Nat.digitChar b) : a = b := by
  have hall : ∀ a b : Fin 16, Nat.digitChar a = Nat.digitChar b → a = b := by decide
  exact congrArg Fin.val (hall ⟨a, ha⟩ ⟨b, hb⟩ h)

@[simp] theorem fixedDigits_length (base count n : Nat) :
    (fixedDigits base count n).length = count := by
  induction count generalizing n with
  | zero => rfl
  | succ count ih => simp only [fixedDigits, List.length_append, ih, List.length_singleton]

/-- Below `base ^ count` the numeral determines the number. -/
theorem fixedDigits_injective {base : Nat} (hpos : 0 < base) (hbase : base ≤ 16) :
    ∀ {count a b : Nat}, a < base ^ count → b < base ^ count →
      fixedDigits base count a = fixedDigits base count b → a = b
  | 0, a, b, ha, hb, _ => by
    rw [Nat.pow_zero] at ha hb; omega
  | count + 1, a, b, ha, hb, h => by
    simp only [fixedDigits] at h
    obtain ⟨hhigh, hlow⟩ := List.append_inj h (by simp)
    have hq : a / base = b / base :=
      fixedDigits_injective hpos hbase (Nat.div_lt_of_lt_mul (by rwa [Nat.pow_succ'] at ha))
        (Nat.div_lt_of_lt_mul (by rwa [Nat.pow_succ'] at hb)) hhigh
    have hr : a % base = b % base :=
      digitChar_injective (Nat.lt_of_lt_of_le (Nat.mod_lt a hpos) hbase)
        (Nat.lt_of_lt_of_le (Nat.mod_lt b hpos) hbase) (List.singleton_inj.mp hlow)
    calc a = base * (a / base) + a % base := (Nat.div_add_mod a base).symm
      _ = base * (b / base) + b % base := by rw [hq, hr]
      _ = b := Nat.div_add_mod b base

/-- A character that is no digit does not occur in a numeral. -/
theorem fixedDigits_ne {base : Nat} (hpos : 0 < base) (hbase : base ≤ 16) {c : Char}
    (hc : ∀ d, d < 16 → Nat.digitChar d ≠ c) {count n : Nat} :
    ∀ x ∈ fixedDigits base count n, x ≠ c := by
  induction count generalizing n with
  | zero => intro x hx; cases hx
  | succ count ih =>
    intro x hx
    rcases List.mem_append.mp hx with hx | hx
    · exact ih x hx
    · rw [List.mem_singleton.mp hx]
      exact hc _ (Nat.lt_of_lt_of_le (Nat.mod_lt n hpos) hbase)

/-- Fields of one length are compared one after the other. -/
theorem append_lt_append_iff {α : Type} [LT α] {a b : List α} (h : a.length = b.length)
    {x y : List α} : a ++ x < b ++ y ↔ a < b ∨ a = b ∧ x < y := by
  induction a generalizing b with
  | nil =>
    obtain rfl := List.length_eq_zero_iff.mp h.symm
    simp only [List.nil_append, List.not_lt_nil, false_or, true_and]
  | cons c a ih =>
    cases b with
    | nil => cases h
    | cons d b =>
      have htail := ih (Nat.succ.inj h)
      simp only [List.cons_append, List.cons_lt_cons_iff, htail, List.cons.injEq]
      tauto

/-- A separator after both fields decides nothing. -/
theorem field_lt_iff {a b : List Char} (h : a.length = b.length) {c : Char} {x y : List Char} :
    a ++ c :: x < b ++ c :: y ↔ a < b ∨ a = b ∧ x < y := by
  rw [append_lt_append_iff h, List.cons_lt_cons_iff]
  simp only [Char.lt_irrefl, false_or, true_and]

theorem digitChar_lt_iff {a b : Nat} (ha : a < 16) (hb : b < 16) :
    Nat.digitChar a < Nat.digitChar b ↔ a < b := by
  have hall : ∀ a b : Fin 16, Nat.digitChar a < Nat.digitChar b ↔ a < b := by decide
  exact hall ⟨a, ha⟩ ⟨b, hb⟩

/-- Numerals of one length are ordered as the numbers are. -/
theorem fixedDigits_lt_iff {base : Nat} (hpos : 0 < base) (hbase : base ≤ 16) :
    ∀ {count a b : Nat}, a < base ^ count → b < base ^ count →
      (fixedDigits base count a < fixedDigits base count b ↔ a < b)
  | 0, a, b, ha, hb => by
    rw [Nat.pow_zero] at ha hb
    exact iff_of_false (List.not_lt_nil _) (by omega)
  | count + 1, a, b, ha, hb => by
    have hqa : a / base < base ^ count := Nat.div_lt_of_lt_mul (by rwa [Nat.pow_succ'] at ha)
    have hqb : b / base < base ^ count := Nat.div_lt_of_lt_mul (by rwa [Nat.pow_succ'] at hb)
    have hra := Nat.lt_of_lt_of_le (Nat.mod_lt a hpos) hbase
    have hrb := Nat.lt_of_lt_of_le (Nat.mod_lt b hpos) hbase
    have hhigh : fixedDigits base count (a / base) = fixedDigits base count (b / base) ↔
        a / base = b / base :=
      ⟨fixedDigits_injective hpos hbase hqa hqb, congrArg _⟩
    simp only [fixedDigits]
    rw [append_lt_append_iff (by simp), fixedDigits_lt_iff hpos hbase hqa hqb, hhigh,
      List.cons_lt_cons_iff, digitChar_lt_iff hra hrb]
    simp only [List.not_lt_nil, and_false, or_false]
    -- the number is its higher digits, and among equal ones its last
    have hdivmod_a := Nat.div_add_mod a base
    have hdivmod_b := Nat.div_add_mod b base
    constructor
    · rintro (hlt | ⟨heq, hlt⟩)
      · exact Nat.lt_of_not_le fun hle => absurd (Nat.div_le_div_right hle) (Nat.not_le_of_lt hlt)
      · rw [heq] at hdivmod_a
        omega
    · intro hlt
      rcases Nat.lt_or_eq_of_le (Nat.div_le_div_right (c := base) (Nat.le_of_lt hlt)) with h | h
      · exact .inl h
      · rw [h] at hdivmod_a
        exact .inr ⟨h, by omega⟩

end Numerals
