import OngrokRelay.BTreeMap
import OngrokRelay.Bytes
import Mathlib.Data.List.Flatten
import Mathlib.Data.List.NodupEquivFin
import Mathlib.Data.List.Perm.Subperm
import Mathlib.Logic.Equiv.Basic

/-
  Postcard, a binary format that does not describe itself: a value is written as
  its parts one after another, and only its type says how to read it back.

  A `Codec` carries its two laws. What it writes it reads back, whatever follows,
  as long as it fits into an address space of 64 bits, where every buffer lives;
  and no bytes read as a value are fewer than those written for it. Texts,
  sequences and maps are written after their length.

  1. `takeVarint_pushVarint`, `takeVarint_shortest`: numbers of seven bits a byte.
  2. `Codec.fromBytes_encode`, `Codec.length_le_of_fromBytes`: what a codec reads.
  3. `Codec.refine`, `Codec.equiv`, `Codec.pair`: codecs made of others.
  4. `varint`, `byte`, `option`, `seq`, `array`, `text`, `map`, `enumeration`,
     `tagged`: those of the types of the format.
-/

namespace Postcard

inductive Error
  | unexpectedEnd
  | badVarint
  | badOption
  | badUtf8
  /-- A visitor has refused the value. -/
  | custom
  deriving DecidableEq

def Error.message : Error → String
  | .unexpectedEnd => "Hit the end of buffer, expected more data"
  | .badVarint =>
    "Found a varint that didn't terminate. Is the usize too big for this platform?"
  | .badOption => "Found an Option discriminant that wasn't 0 or 1"
  | .badUtf8 => "Tried to parse invalid utf-8"
  | .custom => "Serde Deserialization Error"

/-- How many bytes a buffer can have. -/
abbrev addressSpace : Nat := 2 ^ 64

structure Codec (α : Type) where
  encode : α → List UInt8
  decode : List UInt8 → Except Error (α × List UInt8)
  decode_encode : ∀ v, (encode v).length < addressSpace → ∀ rest,
    decode (encode v ++ rest) = .ok (v, rest)
  shortest : ∀ bytes v rest, decode bytes = .ok (v, rest) →
    (encode v).length + rest.length ≤ bytes.length

theorem bind_ok {α β : Type} {x : Except Error α} {f : α → Except Error β} {b : β}
    (h : x.bind f = .ok b) : ∃ a, x = .ok a ∧ f a = .ok b := by
  cases x with
  | error e => cases h
  | ok a => exact ⟨a, rfl, h⟩

theorem map_ok {α β : Type} {x : Except Error α} {f : α → β} {b : β} (h : x.map f = .ok b) :
    ∃ a, x = .ok a ∧ f a = b := by
  cases x with
  | error e => cases h
  | ok a => exact ⟨a, rfl, Except.ok.inj h⟩

/-! ## Numbers -/

/-- A number of at most `7 * k + extra` bits, lowest first, seven a byte; every byte
but the last has its high bit set. -/
def pushVarint : Nat → Nat → List UInt8
  | 0, n => [UInt8.ofNat n]
  | k + 1, n =>
    if n < 128 then [UInt8.ofNat n] else UInt8.ofNat (n % 128 + 128) :: pushVarint k (n / 128)

/-- The last of the bytes there may be has `extra` bits. -/
def takeVarint (extra : Nat) : Nat → List UInt8 → Except Error (Nat × List UInt8)
  | _, [] => .error .unexpectedEnd
  | 0, b :: rest => if b.toNat < 2 ^ extra then .ok (b.toNat, rest) else .error .badVarint
  | k + 1, b :: rest =>
    if b.toNat < 128 then .ok (b.toNat, rest)
    else (takeVarint extra k rest).map fun read => (b.toNat - 128 + 128 * read.1, read.2)

theorem pushVarint_pos (k n : Nat) : 0 < (pushVarint k n).length := by
  cases k with
  | zero => exact Nat.one_pos
  | succ k =>
    rw [pushVarint]
    split
    · exact Nat.one_pos
    · exact Nat.succ_pos _

theorem pushVarint_mono (k : Nat) {m n : Nat} (h : m ≤ n) :
    (pushVarint k m).length ≤ (pushVarint k n).length := by
  induction k generalizing m n with
  | zero => exact Nat.le_refl _
  | succ k ih =>
    rw [pushVarint]
    split
    · exact pushVarint_pos _ _
    · rename_i hm
      rw [pushVarint, if_neg (by omega)]
      exact Nat.succ_le_succ (ih (Nat.div_le_div_right h))

/-- The first byte of a number that is none of the tags of an option is no such tag. -/
theorem pushVarint_head (k : Nat) {n : Nat} (h : 2 ≤ n) :
    ∃ b tail, pushVarint (k + 1) n = b :: tail ∧ 2 ≤ b.toNat := by
  rw [pushVarint]
  split
  · rename_i hn
    refine ⟨_, _, rfl, ?_⟩
    rw [UInt8.toNat_ofNat']
    omega
  · refine ⟨_, _, rfl, ?_⟩
    rw [UInt8.toNat_ofNat']
    omega

section
variable {extra : Nat}

theorem varint_bound (k : Nat) : 2 ^ (7 * (k + 1) + extra) = 128 * 2 ^ (7 * k + extra) := by
  rw [show 7 * (k + 1) + extra = 7 + (7 * k + extra) by omega, Nat.pow_add]

/-- **A number is read back.** -/
theorem takeVarint_pushVarint (hextra : extra ≤ 7) {k n : Nat} (h : n < 2 ^ (7 * k + extra))
    (rest : List UInt8) : takeVarint extra k (pushVarint k n ++ rest) = .ok (n, rest) := by
  induction k generalizing n with
  | zero =>
    rw [Nat.mul_zero, Nat.zero_add] at h
    have hsmall : n < 128 := Nat.lt_of_lt_of_le h (Nat.pow_le_pow_right (by decide) hextra)
    have hbyte : (UInt8.ofNat n).toNat = n := by
      rw [UInt8.toNat_ofNat']
      omega
    rw [pushVarint, List.singleton_append, takeVarint, hbyte, if_pos h]
  | succ k ih =>
    rw [varint_bound] at h
    rw [pushVarint]
    split
    · rename_i hsmall
      have hbyte : (UInt8.ofNat n).toNat = n := by
        rw [UInt8.toNat_ofNat']
        omega
      rw [List.singleton_append, takeVarint, hbyte, if_pos hsmall]
    · have hbyte : (UInt8.ofNat (n % 128 + 128)).toNat = n % 128 + 128 := by
        rw [UInt8.toNat_ofNat']
        omega
      rw [List.cons_append, takeVarint, hbyte, if_neg (by omega),
        ih (Nat.div_lt_of_lt_mul h)]
      simp only [Except.map, Nat.add_sub_cancel, Nat.mod_add_div]

/-- How a number is read: from the last byte there may be, from one that says it
is the last, or from one that more follow. -/
theorem takeVarint_cases {k : Nat} {bytes rest : List UInt8} {n : Nat}
    (h : takeVarint extra k bytes = .ok (n, rest)) :
    ∃ b, (k = 0 ∧ bytes = b :: rest ∧ n = b.toNat ∧ n < 2 ^ extra) ∨
      ∃ k', k = k' + 1 ∧ ((bytes = b :: rest ∧ n = b.toNat ∧ n < 128) ∨
        ∃ m tail, bytes = b :: tail ∧ takeVarint extra k' tail = .ok (m, rest) ∧
          n = b.toNat - 128 + 128 * m) := by
  cases bytes with
  | nil => cases k <;> cases h
  | cons b tail =>
    refine ⟨b, ?_⟩
    cases k with
    | zero =>
      rw [takeVarint] at h
      split at h
      · rename_i hb
        cases h
        exact .inl ⟨rfl, rfl, rfl, hb⟩
      · cases h
    | succ k =>
      refine .inr ⟨k, rfl, ?_⟩
      rw [takeVarint] at h
      split at h
      · rename_i hb
        cases h
        exact .inl ⟨rfl, rfl, hb⟩
      · obtain ⟨read, hread, hvalue⟩ := map_ok h
        cases hvalue
        exact .inr ⟨read.1, tail, rfl, hread, rfl⟩

theorem takeVarint_lt {k : Nat} {bytes rest : List UInt8} {n : Nat}
    (h : takeVarint extra k bytes = .ok (n, rest)) : n < 2 ^ (7 * k + extra) := by
  induction k generalizing bytes n with
  | zero =>
    obtain ⟨b, ⟨-, -, -, hn⟩ | ⟨k', hk, -⟩⟩ := takeVarint_cases h
    · rwa [Nat.mul_zero, Nat.zero_add]
    · cases hk
  | succ k ih =>
    rw [varint_bound]
    obtain ⟨b, ⟨hk, -⟩ | ⟨k', hk, ⟨-, -, hn⟩ | ⟨m, tail, -, hread, hn⟩⟩⟩ := takeVarint_cases h
    · cases hk
    · exact Nat.lt_of_lt_of_le hn (Nat.le_mul_of_pos_right _ (Nat.two_pow_pos _))
    · cases hk
      have hm := ih hread
      have hb := b.toNat_lt
      omega

/-- **No number is written on more bytes** than some it is read from. -/
theorem takeVarint_shortest {k : Nat} {bytes rest : List UInt8} {n : Nat}
    (h : takeVarint extra k bytes = .ok (n, rest)) :
    (pushVarint k n).length + rest.length ≤ bytes.length := by
  induction k generalizing bytes n with
  | zero =>
    obtain ⟨b, ⟨-, rfl, -, -⟩ | ⟨k', hk, -⟩⟩ := takeVarint_cases h
    · exact Nat.le_of_eq (Nat.add_comm ..)
    · cases hk
  | succ k ih =>
    obtain ⟨b, ⟨hk, -⟩ | ⟨k', hk, ⟨rfl, -, hn⟩ | ⟨m, tail, rfl, hread, hn⟩⟩⟩ := takeVarint_cases h
    · cases hk
    · rw [pushVarint, if_pos hn]
      exact Nat.le_of_eq (Nat.add_comm ..)
    · cases hk
      have hrest := ih hread
      have hb := b.toNat_lt
      rw [pushVarint]
      split
      · -- a number that fits into one byte has been read from several
        have hpos := pushVarint_pos k m
        simp only [List.length_cons, List.length_nil]
        omega
      · have hmono := pushVarint_mono k (show n / 128 ≤ m by omega)
        simp only [List.length_cons]
        omega

end

/-! ## Codecs -/

namespace Codec

variable {α β : Type}

/-- `postcard::from_bytes`: what follows the value is not looked at. -/
def fromBytes (c : Codec α) (bytes : List UInt8) : Except Error α :=
  (c.decode bytes).map Prod.fst

/-- **What is written is read.** -/
theorem fromBytes_encode (c : Codec α) {v : α} (h : (c.encode v).length < addressSpace) :
    c.fromBytes (c.encode v) = .ok v := by
  have hread := c.decode_encode v h []
  rw [List.append_nil] at hread
  rw [fromBytes, hread]
  rfl

/-- A value takes no fewer bytes than are written for it. -/
theorem length_le_of_fromBytes (c : Codec α) {bytes : List UInt8} {v : α}
    (h : c.fromBytes bytes = .ok v) : (c.encode v).length ≤ bytes.length := by
  obtain ⟨read, hread, rfl⟩ := map_ok h
  exact Nat.le_of_add_right_le (c.shortest bytes read.1 read.2 hread)

/-- The values of a codec that a visitor makes into others, of which none is written
on more bytes than one it is made of. -/
def refine (c : Codec α) (f : α → Option β) (g : β → α) (e : Error) (hfg : ∀ b, f (g b) = some b)
    (hgf : ∀ a b, f a = some b → (c.encode (g b)).length ≤ (c.encode a).length) : Codec β where
  encode b := c.encode (g b)
  decode bytes := (c.decode bytes).bind fun read =>
    match f read.1 with
    | some b => .ok (b, read.2)
    | none => .error e
  decode_encode b h rest := by
    rw [c.decode_encode (g b) h rest]
    simp only [Except.bind, hfg]
  shortest bytes b rest h := by
    obtain ⟨read, hread, h⟩ := bind_ok h
    have hshort := c.shortest bytes read.1 read.2 hread
    cases hf : f read.1 with
    | none =>
      rw [hf] at h
      cases h
    | some b' =>
      rw [hf] at h
      cases h
      exact Nat.le_trans (Nat.add_le_add_right (hgf _ _ hf) _) hshort

/-- The same values under another type. -/
def equiv (c : Codec α) (e : α ≃ β) : Codec β :=
  c.refine (fun a => some (e a)) e.symm .custom (fun b => by rw [e.apply_symm_apply])
    fun a b h => Nat.le_of_eq (by rw [← Option.some.inj h, e.symm_apply_apply])

/-- Two values, one after the other. -/
def pair (c : Codec α) (d : Codec β) : Codec (α × β) where
  encode v := c.encode v.1 ++ d.encode v.2
  decode bytes := (c.decode bytes).bind fun read =>
    (d.decode read.2).map fun read' => ((read.1, read'.1), read'.2)
  decode_encode v h rest := by
    rw [List.length_append] at h
    rw [List.append_assoc, c.decode_encode v.1 (by omega)]
    simp only [Except.bind]
    rw [d.decode_encode v.2 (by omega)]
    rfl
  shortest bytes v rest h := by
    obtain ⟨read, hread, h⟩ := bind_ok h
    obtain ⟨read', hread', hvalue⟩ := map_ok h
    cases hvalue
    have hfirst := c.shortest bytes read.1 read.2 hread
    have hsecond := d.shortest read.2 read'.1 read'.2 hread'
    show (c.encode read.1 ++ d.encode read'.1).length + read'.2.length ≤ bytes.length
    rw [List.length_append]
    omega

theorem equiv_fromBytes (c : Codec α) (e : α ≃ β) (bytes : List UInt8) :
    (c.equiv e).fromBytes bytes = (c.fromBytes bytes).map e := by
  show Except.map Prod.fst ((c.decode bytes).bind _) = ((c.decode bytes).map Prod.fst).map e
  cases c.decode bytes <;> rfl

theorem pair_fromBytes (c : Codec α) (d : Codec β) {a : α}
    (h : (c.encode a).length < addressSpace) (rest : List UInt8) :
    (c.pair d).fromBytes (c.encode a ++ rest) = (d.fromBytes rest).map fun b => (a, b) := by
  show Except.map Prod.fst ((c.decode (c.encode a ++ rest)).bind _) = _
  rw [c.decode_encode a h rest]
  show Except.map Prod.fst ((d.decode rest).map _) = ((d.decode rest).map Prod.fst).map _
  cases d.decode rest <;> rfl

theorem pair_error (c : Codec α) (d : Codec β) {bytes : List UInt8} {e : Error}
    (h : c.decode bytes = .error e) : (c.pair d).fromBytes bytes = .error e := by
  show Except.map Prod.fst ((c.decode bytes).bind _) = _
  rw [h]
  rfl

end Codec

/-! ## The types of the format -/

/-- An unsigned integer. -/
def varint (k extra : Nat) (hextra : extra ≤ 7) : Codec (Fin (2 ^ (7 * k + extra))) where
  encode n := pushVarint k n
  decode bytes :=
    match h : takeVarint extra k bytes with
    | .error e => .error e
    | .ok (n, rest) => .ok (⟨n, takeVarint_lt h⟩, rest)
  decode_encode n _ rest := by
    have hread := takeVarint_pushVarint hextra n.isLt rest
    split
    · rename_i e h
      rw [hread] at h
      cases h
    · rename_i m tail h
      rw [hread] at h
      cases h
      rfl
  shortest bytes n rest h := by
    split at h
    · cases h
    · rename_i m tail hread
      cases h
      exact takeVarint_shortest hread

/-- A byte. -/
def byte : Codec UInt8 where
  encode b := [b]
  decode
    | [] => .error .unexpectedEnd
    | b :: rest => .ok (b, rest)
  decode_encode b _ rest := rfl
  shortest bytes b rest h := by
    cases bytes with
    | nil => cases h
    | cons b' tail =>
      cases h
      exact Nat.le_of_eq (Nat.add_comm ..)

/-! An option is a byte and, after a one, the value. -/

def encodeOption {α : Type} (c : Codec α) : Option α → List UInt8
  | none => [0]
  | some v => 1 :: c.encode v

def decodeOption {α : Type} (c : Codec α) : List UInt8 → Except Error (Option α × List UInt8)
  | [] => .error .unexpectedEnd
  | b :: rest =>
    if b = 0 then .ok (none, rest)
    else if b = 1 then (c.decode rest).map fun read => (some read.1, read.2)
    else .error .badOption

theorem decodeOption_badOption {α : Type} (c : Codec α) {b : UInt8} (h : 2 ≤ b.toNat)
    (rest : List UInt8) : decodeOption c (b :: rest) = .error .badOption := by
  have hne (d : UInt8) (hd : d.toNat < 2) : b ≠ d := by
    intro heq
    rw [heq] at h
    omega
  rw [decodeOption, if_neg (hne 0 (by decide)), if_neg (hne 1 (by decide))]

def option {α : Type} (c : Codec α) : Codec (Option α) where
  encode := encodeOption c
  decode := decodeOption c
  decode_encode v h rest := by
    cases v with
    | none => rfl
    | some v =>
      have hread := c.decode_encode v (Nat.lt_of_succ_lt h) rest
      simp only [encodeOption, List.cons_append, decodeOption, hread]
      rfl
  shortest bytes v rest h := by
    cases bytes with
    | nil => cases h
    | cons b tail =>
      simp only [decodeOption] at h
      split at h
      · cases h
        exact Nat.le_of_eq (Nat.add_comm ..)
      · split at h
        · obtain ⟨read, hread, hvalue⟩ := map_ok h
          cases hvalue
          have hshort := c.shortest tail read.1 read.2 hread
          simp only [encodeOption, List.length_cons]
          omega
        · cases h

/-! A sequence is its length and its elements. -/

def takeMany {α : Type} (c : Codec α) : Nat → List UInt8 → Except Error (List α × List UInt8)
  | 0, bytes => .ok ([], bytes)
  | n + 1, bytes => (c.decode bytes).bind fun read =>
    (takeMany c n read.2).map fun read' => (read.1 :: read'.1, read'.2)

theorem takeMany_flatMap {α : Type} (c : Codec α) {vs : List α}
    (h : (vs.flatMap c.encode).length < addressSpace) (rest : List UInt8) :
    takeMany c vs.length (vs.flatMap c.encode ++ rest) = .ok (vs, rest) := by
  induction vs with
  | nil => rfl
  | cons v vs ih =>
    rw [List.flatMap_cons, List.length_append] at h
    rw [List.flatMap_cons, List.length_cons, takeMany, List.append_assoc,
      c.decode_encode v (by omega)]
    simp only [Except.bind]
    rw [ih (by omega)]
    rfl

theorem takeMany_shortest {α : Type} (c : Codec α) {n : Nat} {bytes rest : List UInt8}
    {vs : List α} (h : takeMany c n bytes = .ok (vs, rest)) :
    vs.length = n ∧ (vs.flatMap c.encode).length + rest.length ≤ bytes.length := by
  induction n generalizing bytes vs with
  | zero =>
    cases h
    exact ⟨rfl, Nat.le_of_eq (Nat.zero_add _)⟩
  | succ n ih =>
    obtain ⟨read, hread, h⟩ := bind_ok h
    obtain ⟨read', hmany, hvalue⟩ := map_ok h
    cases hvalue
    obtain ⟨hlen, hshort⟩ := ih hmany
    have hfirst := c.shortest bytes read.1 read.2 hread
    refine ⟨congrArg Nat.succ hlen, ?_⟩
    rw [List.flatMap_cons, List.length_append]
    omega

theorem length_le_flatMap {α : Type} {f : α → List UInt8} (hf : ∀ v, 0 < (f v).length)
    (vs : List α) : vs.length ≤ (vs.flatMap f).length := by
  induction vs with
  | nil => exact Nat.le_refl _
  | cons v vs ih =>
    have hv := hf v
    rw [List.flatMap_cons, List.length_append, List.length_cons]
    omega

/-- Elements that are written on no bytes at all could be more than their length
says. -/
def seq {α : Type} (c : Codec α) (hpos : ∀ v, 0 < (c.encode v).length) : Codec (List α) where
  encode vs := pushVarint 9 vs.length ++ vs.flatMap c.encode
  decode bytes := (takeVarint 1 9 bytes).bind fun read => takeMany c read.1 read.2
  decode_encode vs h rest := by
    rw [List.length_append] at h
    have hbytes := Nat.lt_of_add_left_lt h
    have hlen : vs.length < 2 ^ (7 * 9 + 1) :=
      Nat.lt_of_le_of_lt (length_le_flatMap hpos vs) hbytes
    rw [List.append_assoc, takeVarint_pushVarint (by decide) hlen]
    exact takeMany_flatMap c hbytes rest
  shortest bytes vs rest h := by
    obtain ⟨read, hread, h⟩ := bind_ok h
    have hcount := takeVarint_shortest hread
    obtain ⟨hlen, hshort⟩ := takeMany_shortest c h
    rw [List.length_append, hlen]
    omega

/-- An array is its elements alone. -/
def array {α : Type} (c : Codec α) (n : Nat) : Codec { vs : List α // vs.length = n } where
  encode vs := vs.1.flatMap c.encode
  decode bytes :=
    match h : takeMany c n bytes with
    | .error e => .error e
    | .ok (vs, rest) => .ok (⟨vs, (takeMany_shortest c h).1⟩, rest)
  decode_encode vs h rest := by
    have hread := takeMany_flatMap c h rest
    rw [vs.2] at hread
    split
    · rename_i e h
      rw [hread] at h
      cases h
    · rename_i read tail h
      rw [hread] at h
      cases h
      rfl
  shortest bytes vs rest h := by
    split at h
    · cases h
    · rename_i read tail hread
      cases h
      exact (takeMany_shortest c hread).2

/-! Byte strings are sequences of bytes, and texts those that are UTF-8. -/

def bytes : Codec (List UInt8) := seq byte fun _ => Nat.one_pos

def text : Codec String :=
  bytes.refine Bytes.ofUtf8 Bytes.utf8 .badUtf8 Bytes.ofUtf8_utf8 fun a b h =>
    Nat.le_of_eq (by rw [Bytes.utf8_ofUtf8 h])

theorem bytes_encode (v : List UInt8) : bytes.encode v = pushVarint 9 v.length ++ v :=
  congrArg (pushVarint 9 v.length ++ ·) (List.flatMap_singleton' v)

theorem text_encode (s : String) :
    text.encode s = pushVarint 9 s.utf8ByteSize ++ Bytes.utf8 s := by
  show bytes.encode (Bytes.utf8 s) = _
  rw [bytes_encode, Bytes.utf8_length]

theorem text_pos (s : String) : 0 < (text.encode s).length := by
  rw [text_encode, List.length_append]
  exact Nat.add_pos_left (pushVarint_pos ..) _

/-! ## Maps -/

section
variable {κ α : Type} [Ord κ] [Std.TransOrd κ]

theorem mem_of_mem_ofList [Std.LawfulEqOrd κ] [DecidableEq κ] {entries : List (κ × α)} {e : κ × α}
    (h : e ∈ (Std.ExtTreeMap.ofList entries compare).toList) : e ∈ entries := by
  have hall (m : BTreeMap κ α) (l : List (κ × α)) (hl : l ⊆ entries) (hm : m.toList ⊆ entries) :
      (l.foldl (fun m p => m.insert p.1 p.2) m).toList ⊆ entries := by
    induction l generalizing m with
    | nil => exact hm
    | cons p l ih =>
      refine ih _ (List.subset_of_cons_subset hl) fun e he => ?_
      obtain ⟨hk, hv⟩ | ⟨-, hget⟩ := BTreeMap.get_insert_some.mp
        (Std.ExtTreeMap.mem_toList_iff_getElem?_eq_some.mp he)
      · exact (Prod.ext hk hv : p = e) ▸ hl List.mem_cons_self
      · exact hm (Std.ExtTreeMap.mem_toList_iff_getElem?_eq_some.mpr hget)
  rw [Std.ExtTreeMap.ofList_eq_foldl] at h
  exact hall ∅ entries (List.Subset.refl _) (List.nil_subset _) h

theorem ofList_toList [Std.LawfulEqOrd κ] [DecidableEq κ] (m : BTreeMap κ α) :
    Std.ExtTreeMap.ofList m.toList compare = m := by
  apply Std.ExtTreeMap.ext_getElem?
  intro k
  cases hget : m[k]? with
  | some v =>
    exact Std.ExtTreeMap.getElem?_ofList_of_mem Std.compare_self
      Std.ExtTreeMap.distinct_keys_toList (Std.ExtTreeMap.mem_toList_iff_getElem?_eq_some.mpr hget)
  | none =>
    cases hread : (Std.ExtTreeMap.ofList m.toList compare)[k]? with
    | none => rfl
    | some v =>
      have hmem := mem_of_mem_ofList (Std.ExtTreeMap.mem_toList_iff_getElem?_eq_some.mpr hread)
      rw [Std.ExtTreeMap.mem_toList_iff_getElem?_eq_some.mp hmem] at hget
      cases hget

theorem toList_nodup (m : BTreeMap κ α) : m.toList.Nodup :=
  (Std.ExtTreeMap.distinct_keys_toList (t := m)).imp fun {a b} hne heq =>
    hne (by rw [heq]; exact Std.compare_self)

/-- Entries with the key of a later one take room and are lost. -/
theorem length_flatMap_ofList [Std.LawfulEqOrd κ] [DecidableEq κ] (f : κ × α → List UInt8)
    (entries : List (κ × α)) :
    ((Std.ExtTreeMap.ofList entries compare).toList.flatMap f).length ≤
      (entries.flatMap f).length := by
  obtain ⟨kept, hperm, hsub⟩ :=
    List.subperm_of_subset (toList_nodup (Std.ExtTreeMap.ofList entries compare))
      fun e he => mem_of_mem_ofList he
  rw [← (hperm.flatMap_right f).length_eq]
  exact (hsub.flatMap f).length_le

/-- A map is the sequence of its entries. -/
def map [Std.LawfulEqOrd κ] [DecidableEq κ] (c : Codec (κ × α))
    (hpos : ∀ v, 0 < (c.encode v).length) : Codec (BTreeMap κ α) :=
  (seq c hpos).refine (fun entries => some (Std.ExtTreeMap.ofList entries compare))
    (fun m => m.toList) .custom (fun m => congrArg some (ofList_toList m)) fun entries m h => by
      cases h
      show (pushVarint _ _ ++ _).length ≤ (pushVarint _ _ ++ _).length
      rw [List.length_append, List.length_append, Std.ExtTreeMap.length_toList]
      exact Nat.add_le_add (pushVarint_mono 9 Std.ExtTreeMap.size_ofList_le)
        (length_flatMap_ofList c.encode entries)

end

/-! ## Integers and enumerations -/

/-- Signed numbers in the order 0, -1, 1, -2, 2. -/
def zigzag (n : Int) : Nat := if 0 ≤ n then (2 * n).toNat else (-2 * n - 1).toNat

def unzigzag (n : Nat) : Int := if n % 2 = 0 then n / 2 else -(n / 2) - 1

theorem unzigzag_zigzag (n : Int) : unzigzag (zigzag n) = n := by
  unfold zigzag unzigzag
  split <;> split <;> omega

theorem zigzag_unzigzag (n : Nat) : zigzag (unzigzag n) = n := by
  unfold zigzag unzigzag
  split <;> split <;> omega

def u16 : Codec UInt16 :=
  (varint 2 2 (by decide)).equiv
    { toFun n := UInt16.ofFin n
      invFun n := n.toFin
      left_inv n := rfl
      right_inv n := rfl }

def u32 : Codec UInt32 :=
  (varint 4 4 (by decide)).equiv
    { toFun n := UInt32.ofFin n
      invFun n := n.toFin
      left_inv n := rfl
      right_inv n := rfl }

def u64 : Codec UInt64 :=
  (varint 9 1 (by decide)).equiv
    { toFun n := UInt64.ofFin n
      invFun n := n.toFin
      left_inv n := rfl
      right_inv n := rfl }

theorem zigzag_lt (n : Int64) : zigzag n.toInt < 2 ^ (7 * 9 + 1) := by
  have hlow := n.le_toInt
  have hhigh := n.toInt_lt
  unfold zigzag
  split <;> omega

def i64 : Codec Int64 :=
  (varint 9 1 (by decide)).equiv
    { toFun n := Int64.ofInt (unzigzag n)
      invFun n := ⟨zigzag n.toInt, zigzag_lt n⟩
      left_inv n := by
        have hn := n.isLt
        apply Fin.ext
        show zigzag (Int64.ofInt (unzigzag n)).toInt = n
        have hbounds : -2 ^ 63 ≤ unzigzag n ∧ unzigzag n < 2 ^ 63 := by
          unfold unzigzag
          split <;> omega
        rw [Int64.toInt_ofInt_of_le hbounds.1 hbounds.2, zigzag_unzigzag]
      right_inv n := by
        show Int64.ofInt (unzigzag (zigzag n.toInt)) = n
        rw [unzigzag_zigzag, Int64.ofInt_toInt] }

/-- One of `n` variants without fields, by its index, a `u32`. -/
def variant (n : Nat) (hn : n ≤ 2 ^ (7 * 4 + 4)) : Codec (Fin n) :=
  (varint 4 4 (by decide)).refine (fun i => if h : i.1 < n then some ⟨i.1, h⟩ else none)
    (fun i => ⟨i.1, Nat.lt_of_lt_of_le i.2 hn⟩) .custom (fun i => dif_pos i.2)
    fun i j h => by
      split at h
      · cases h
        exact Nat.le_refl _
      · cases h

/-- One of these values, in this order. -/
def enumeration {α : Type} [DecidableEq α] (variants : List α)
    (hn : variants.length ≤ 2 ^ (7 * 4 + 4)) (distinct : variants.Nodup)
    (complete : ∀ v, v ∈ variants) : Codec α :=
  (variant variants.length hn).equiv (distinct.getEquivOfForallMemList variants complete)

/-- A tag and a value of its type. -/
def tagged {τ : Type} (tag : Codec τ) {β : τ → Type} (c : ∀ t, Codec (β t)) : Codec (Σ t, β t) where
  encode v := tag.encode v.1 ++ (c v.1).encode v.2
  decode bytes := (tag.decode bytes).bind fun read =>
    ((c read.1).decode read.2).map fun read' => (⟨read.1, read'.1⟩, read'.2)
  decode_encode v h rest := by
    rw [List.length_append] at h
    rw [List.append_assoc, tag.decode_encode v.1 (by omega)]
    simp only [Except.bind]
    rw [(c v.1).decode_encode v.2 (by omega)]
    rfl
  shortest bytes v rest h := by
    obtain ⟨read, hread, h⟩ := bind_ok h
    obtain ⟨read', hread', hvalue⟩ := map_ok h
    cases hvalue
    have hfirst := tag.shortest bytes read.1 read.2 hread
    have hsecond := (c read.1).shortest read.2 read'.1 read'.2 hread'
    show (tag.encode read.1 ++ (c read.1).encode read'.1).length + read'.2.length ≤ bytes.length
    rw [List.length_append]
    omega

/-- A variant without fields. -/
def unit : Codec Unit where
  encode _ := []
  decode bytes := .ok ((), bytes)
  decode_encode _ _ _ := rfl
  shortest bytes v rest h := by
    cases h
    exact Nat.le_of_eq (Nat.zero_add _)

end Postcard
