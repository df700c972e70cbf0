import Mathlib.Algebra.Ring.Int.Defs
import Mathlib.Algebra.Ring.Nat
import Mathlib.Data.List.Induction
import Mathlib.Tactic.Common

/-
  Texts and numbers as lists of bytes: UTF-8, and a number in big-endian order on a
  fixed number of bytes.

  1. `ofUtf8_utf8`, `utf8_ofUtf8`: a text and its bytes determine each other.
  2. `ofBigEndian_bigEndian`, `bigEndian_ofBigEndian`: so do a number and its.
-/

namespace Bytes

/-! ## UTF-8 -/

/-- The bytes of a text. -/
def utf8 (text : String) : List UInt8 := text.toList.flatMap String.utf8EncodeChar

/-- The text with these bytes, if they are those of a text. -/
def ofUtf8 (bytes : List UInt8) : Option String := String.fromUTF8? bytes.toByteArray

theorem utf8_toByteArray (text : String) : (utf8 text).toByteArray = text.toByteArray := by
  conv_rhs => rw [← String.ofList_toList (s := text), String.toByteArray_ofList]
  rfl

theorem ofUtf8_utf8 (text : String) : ofUtf8 (utf8 text) = some text := by
  unfold ofUtf8
  rw [utf8_toByteArray]
  exact dif_pos text.isValidUTF8

theorem utf8_ofUtf8 {bytes : List UInt8} {text : String} (h : ofUtf8 bytes = some text) :
    utf8 text = bytes := by
  unfold ofUtf8 String.fromUTF8? at h
  split at h
  · cases h
    have hsame := (utf8_toByteArray (String.fromUTF8 bytes.toByteArray ‹_›)).trans rfl
    exact (List.toList_data_toByteArray.symm.trans
      (congrArg (fun array => array.data.toList) hsame)).trans List.toList_data_toByteArray
  · cases h

theorem utf8_length (text : String) : (utf8 text).length = text.utf8ByteSize := by
  rw [← List.size_toByteArray, utf8_toByteArray]
  rfl

/-! ## Big-endian numbers -/

/-- The lowest `n` bytes of a number, the highest of them first. -/
def bigEndian : Nat → Nat → List UInt8
  | 0, _ => []
  | n + 1, v => bigEndian n (v / 256) ++ [UInt8.ofNat (v % 256)]

def ofBigEndian (bytes : List UInt8) : Nat := bytes.foldl (fun v b => v * 256 + b.toNat) 0

@[simp] theorem bigEndian_length (n v : Nat) : (bigEndian n v).length = n := by
  induction n generalizing v with
  | zero => rfl
  | succ n ih => rw [bigEndian, List.length_append, ih, List.length_singleton]

theorem ofBigEndian_append (bytes : List UInt8) (b : UInt8) :
    ofBigEndian (bytes ++ [b]) = ofBigEndian bytes * 256 + b.toNat := by
  rw [ofBigEndian, List.foldl_append]
  rfl

theorem ofBigEndian_bigEndian {n v : Nat} (h : v < 256 ^ n) : ofBigEndian (bigEndian n v) = v := by
  induction n generalizing v with
  | zero =>
    rw [Nat.pow_zero] at h
    have hzero : v = 0 := by omega
    rw [hzero]
    rfl
  | succ n ih =>
    have hdiv : v / 256 < 256 ^ n := by
      rw [Nat.pow_succ] at h
      exact Nat.div_lt_of_lt_mul (Nat.mul_comm _ _ ▸ h)
    rw [bigEndian, ofBigEndian_append, ih hdiv, UInt8.toNat_ofNat']
    omega

theorem ofBigEndian_lt {n : Nat} {bytes : List UInt8} (h : bytes.length = n) :
    ofBigEndian bytes < 256 ^ n := by
  rw [← h]
  clear h
  induction bytes using List.reverseRecOn with
  | nil => decide
  | append_singleton bytes b ih =>
    have hb := b.toNat_lt
    rw [ofBigEndian_append, List.length_append, List.length_singleton, Nat.pow_succ]
    omega

theorem bigEndian_ofBigEndian {n : Nat} {bytes : List UInt8} (h : bytes.length = n) :
    bigEndian n (ofBigEndian bytes) = bytes := by
  rw [← h]
  clear h
  induction bytes using List.reverseRecOn with
  | nil => rfl
  | append_singleton bytes b ih =>
    have hb := b.toNat_lt
    have hdiv : (ofBigEndian bytes * 256 + b.toNat) / 256 = ofBigEndian bytes := by omega
    have hmod : (ofBigEndian bytes * 256 + b.toNat) % 256 = b.toNat := by omega
    rw [ofBigEndian_append, List.length_append, List.length_singleton, bigEndian, hdiv, hmod, ih,
      UInt8.ofNat_toNat]

end Bytes
