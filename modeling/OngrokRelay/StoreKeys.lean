import OngrokRelay.Store

/-
  The printed keys of metrics and events (`put_metric` and `put_event` of
  `store.rs`).

  A key is made of fields of fixed width, each printed so that texts compare as
  the values do. So the order of a table is the order of what its keys print.

  1. `text_lt_iff`: identifiers are printed in their order.
  2. `metricKey_inj`, `metricKey_lt_iff`: a metric's key is its node, time and
     sequence number, and is ordered by them.
  3. `metricKey_node`: the keys of a node are those that begin with it.
  4. `eventKey_injective`, `eventKey_lt_iff`: an event's key tells events apart and
     is ordered by time, then by identifier.

  The numbers of a key must not be negative: a sign takes the place of a digit
  and comes before all of them, so the least number would come last of these.
-/

namespace OngrokRelay

/-! ## Identifiers -/

namespace UuidId

variable {kind : IdKind}

theorem text_length (id : UuidId kind) : id.text.toList.length = 36 := by
  simp [text, hyphenate]

/-- The hyphens stand at the same places, so they decide nothing. -/
theorem hyphenate_lt_iff {a b : List Char} (ha : a.length = 32) (hb : b.length = 32) :
    hyphenate a < hyphenate b ↔ a < b := by
  have hsplit (n m : Nat) (hm : n + m ≤ 32) : a.drop n < b.drop n ↔
      (a.drop n).take m < (b.drop n).take m ∨
        (a.drop n).take m = (b.drop n).take m ∧ a.drop (n + m) < b.drop (n + m) := by
    rw [← List.drop_drop, ← List.drop_drop, ← Numerals.append_lt_append_iff (by simp [ha, hb]),
      List.take_append_drop, List.take_append_drop]
  have hfirst := hsplit 0 8 (by decide)
  simp only [List.drop_zero, Nat.zero_add] at hfirst
  simp only [hyphenate, List.append_assoc, List.cons_append]
  rw [Numerals.field_lt_iff (by simp [ha, hb]), Numerals.field_lt_iff (by simp [ha, hb]),
    Numerals.field_lt_iff (by simp [ha, hb]), Numerals.field_lt_iff (by simp [ha, hb]), hfirst,
    hsplit 8 4 (by decide), hsplit 12 4 (by decide), hsplit 16 4 (by decide)]

/-- Identifiers are printed in their order. -/
theorem text_lt_iff {a b : UuidId kind} : a.text.toList < b.text.toList ↔ a.bits < b.bits := by
  rw [text, text, String.toList_ofList, String.toList_ofList,
    hyphenate_lt_iff (Numerals.fixedDigits_length 16 32 _) (Numerals.fixedDigits_length 16 32 _),
    Numerals.fixedDigits_lt_iff (by decide) (by decide) (bits_lt a) (bits_lt b), BitVec.lt_def]

end UuidId

namespace ServiceStore

/-- A table is ordered by the text of its keys. -/
theorem compare_lt_iff {a b : String} : compare a b = .lt ↔ a < b := compareOfLessAndEq_eq_lt

/-! ## Numbers -/

/-- A number of 64 bits that is not negative is printed as twenty digits. -/
theorem padded_natCast (n : Nat) : padded n = Numerals.fixedDigits 10 20 n := by
  rw [padded, if_neg (Int.not_lt.mpr (Int.natCast_nonneg n)), Int.natAbs_natCast]

theorem digits_inj {a b : Nat} (ha : a < 2 ^ 64) (hb : b < 2 ^ 64) :
    Numerals.fixedDigits 10 20 a = Numerals.fixedDigits 10 20 b ↔ a = b :=
  ⟨Numerals.fixedDigits_injective (by decide) (by decide) (by omega) (by omega), congrArg _⟩

theorem digits_lt_iff {a b : Nat} (ha : a < 2 ^ 64) (hb : b < 2 ^ 64) :
    Numerals.fixedDigits 10 20 a < Numerals.fixedDigits 10 20 b ↔ a < b :=
  Numerals.fixedDigits_lt_iff (by decide) (by decide) (by omega) (by omega)

/-- The milliseconds of a time that is not before the epoch. -/
theorem millis {t : Int64} (h : 0 ≤ t.toInt) : ((t.toInt.toNat : Nat) : Int) = t.toInt ∧
    t.toInt.toNat < 2 ^ 64 := by
  have := t.toInt_lt
  omega

theorem digits_millis {t u : Int64} (ht : 0 ≤ t.toInt) (hu : 0 ≤ u.toInt) :
    (Numerals.fixedDigits 10 20 t.toInt.toNat < Numerals.fixedDigits 10 20 u.toInt.toNat ↔ t < u) ∧
      (Numerals.fixedDigits 10 20 t.toInt.toNat = Numerals.fixedDigits 10 20 u.toInt.toNat ↔
        t = u) := by
  rw [digits_lt_iff (millis ht).2 (millis hu).2, digits_inj (millis ht).2 (millis hu).2,
    Int64.lt_iff_toInt_lt, ← Int64.toInt_inj]
  omega

/-! ## Metrics -/

section
variable {a b : NodeMetric}

theorem metricKey_toList (h : 0 ≤ a.recordedAtUnixMs.toInt) : (metricKey a).toList =
    a.nodeId.text.toList ++ ':' :: (Numerals.fixedDigits 10 20 a.recordedAtUnixMs.toInt.toNat ++
      ':' :: Numerals.fixedDigits 10 20 a.snapshot.sequence.toNat) := by
  rw [metricKey, String.toList_ofList, padded_natCast, ← (millis h).1, padded_natCast,
    Int.toNat_natCast, List.append_assoc, List.cons_append]

/-- The keys of a node are those that begin with it. -/
theorem metricKey_node (h : 0 ≤ a.recordedAtUnixMs.toInt) (nodeId : NodeId) :
    (nodeId.text.toList ++ [':']).isPrefixOf (metricKey a).toList = true ↔ a.nodeId = nodeId := by
  rw [List.isPrefixOf_iff_prefix, metricKey_toList h]
  constructor
  · rintro ⟨rest, hkey⟩
    rw [List.append_assoc] at hkey
    have htext := List.append_inj_left hkey (by simp [UuidId.text_length])
    exact (UuidId.text_injective (String.toList_inj.mp htext)).symm
  · rintro rfl
    exact (List.prefix_append_right_inj _).mpr ⟨_, List.singleton_append⟩

variable (ha : 0 ≤ a.recordedAtUnixMs.toInt) (hb : 0 ≤ b.recordedAtUnixMs.toInt)
include ha hb

theorem metricKey_inj : metricKey a = metricKey b ↔ a.nodeId = b.nodeId ∧
    a.recordedAtUnixMs = b.recordedAtUnixMs ∧ a.snapshot.sequence = b.snapshot.sequence := by
  rw [← String.toList_inj, metricKey_toList ha, metricKey_toList hb]
  constructor
  · intro h
    obtain ⟨hnode, h⟩ := List.append_inj h (by simp [UuidId.text_length])
    obtain ⟨htime, h⟩ := List.append_inj (List.cons.inj h).2 (by simp)
    have hsequence := (digits_inj (UInt64.toNat_lt _) (UInt64.toNat_lt _)).mp (List.cons.inj h).2
    exact ⟨UuidId.text_injective (String.toList_inj.mp hnode), (digits_millis ha hb).2.mp htime,
      UInt64.toNat_inj.mp hsequence⟩
  · rintro ⟨hnode, htime, hsequence⟩
    rw [hnode, htime, hsequence]

theorem metricKey_lt_iff : metricKey a < metricKey b ↔ a.nodeId.bits < b.nodeId.bits ∨
    a.nodeId = b.nodeId ∧ (a.recordedAtUnixMs < b.recordedAtUnixMs ∨
      a.recordedAtUnixMs = b.recordedAtUnixMs ∧
        a.snapshot.sequence < b.snapshot.sequence) := by
  rw [String.lt_iff, metricKey_toList ha, metricKey_toList hb,
    Numerals.field_lt_iff (by simp [UuidId.text_length]), Numerals.field_lt_iff (by simp),
    UuidId.text_lt_iff, String.toList_inj, UuidId.text_inj, (digits_millis ha hb).1,
    (digits_millis ha hb).2, digits_lt_iff (UInt64.toNat_lt _) (UInt64.toNat_lt _),
    UInt64.lt_iff_toNat_lt]

end

/-! ## Events -/

theorem eventKey_toList (e : ControlEvent) : (eventKey e).toList =
    Numerals.fixedDigits 10 20 e.occurredAtUnixMs.toInt.toNat ++ ':' :: e.eventId.text.toList := by
  rw [eventKey, String.toList_ofList, ← padded_natCast]
  congr 2
  omega

theorem eventKey_injective {a b : ControlEvent} (h : eventKey a = eventKey b) :
    a.eventId = b.eventId := by
  rw [← String.toList_inj, eventKey_toList, eventKey_toList] at h
  have htext := (List.cons.inj (List.append_inj_right h (by simp))).2
  exact UuidId.text_injective (String.toList_inj.mp htext)

theorem eventKey_lt_iff {a b : ControlEvent} (ha : 0 ≤ a.occurredAtUnixMs.toInt)
    (hb : 0 ≤ b.occurredAtUnixMs.toInt) : eventKey a < eventKey b ↔
      a.occurredAtUnixMs < b.occurredAtUnixMs ∨
        a.occurredAtUnixMs = b.occurredAtUnixMs ∧ a.eventId.bits < b.eventId.bits := by
  rw [String.lt_iff, eventKey_toList, eventKey_toList, Numerals.field_lt_iff (by simp),
    (digits_millis ha hb).1, (digits_millis ha hb).2, UuidId.text_lt_iff]

end ServiceStore
end OngrokRelay
