import OngrokRelay.FieldMap
import OngrokRelay.Ingress

/-
  The headers that end at a hop (`strip_hop_by_hop_headers` of `ingress.rs`).

  Eight fields always do, and so does every field that a `Connection` header
  names. A name is read from the text of the value, and a value with a byte
  beyond ASCII, which a header may have, is no text: all the names in it are
  passed over, also those that are plain.

  Correspondence (Rust ↔ Lean):
    `str::split(',')`, `str::trim`  ↔ `splitComma`, `trim`
    `str::parse::<HeaderName>`      ↔ `parseFieldName`
    `connection_names`              ↔ `connectionNames`
    `strip_hop_by_hop_headers`      ↔ `stripHopByHopHeaders`

  Which texts are field names is the library's affair, a parameter.

  1. `mem_connectionNames`: the names that are read are those of the values that
     are text.
  2. `getAll_strip`: what is left of a field.
  3. `strip_exact_iff`: the stripping is exact when the other values name nothing
     that would be left.
-/

namespace OngrokRelay

open Bytes (utf8)

/-! ## The function -/

abbrev HeaderMap := List (String × List UInt8)

/-- `str::split(',')`. -/
def splitComma (text : String) : List String := (text.toList.splitOn ',').map String.ofList

/-- `str::trim`. -/
def trim (text : String) : String :=
  String.ofList ((text.toList.dropWhile isWhitespace).rdropWhile isWhitespace)

def hopByHopHeaders : List String :=
  ["connection", "keep-alive", "proxy-authenticate", "proxy-authorization", "te", "trailer",
    "transfer-encoding", "upgrade"]

section
variable (fieldName : String → Bool)

/-- A field name, kept in lower case. -/
def parseFieldName (text : String) : Option String :=
  if fieldName text then some (toAsciiLowercase text) else none

def connectionNames (headers : HeaderMap) : List String :=
  (((FieldMap.getAll headers "connection").filterMap headerText).flatMap splitComma).filterMap
    fun name => parseFieldName fieldName (trim name)

def stripHopByHopHeaders (headers : HeaderMap) : HeaderMap :=
  FieldMap.removeAll (FieldMap.removeAll headers (connectionNames fieldName headers))
    hopByHopHeaders

end

/-! ## What a value names -/

/-- A blank or a tab, which may stand around an element of a list. -/
def blank (b : UInt8) : Bool := b == 32 || b == 9

def trimBlanks (bytes : List UInt8) : List UInt8 := (bytes.dropWhile blank).rdropWhile blank

/-- An element of the comma-separated list, byte by byte, is the name of the
field, in any letter case. -/
def Names (fieldName : String → Bool) (value : List UInt8) (field : String) : Prop :=
  ∃ element ∈ value.splitOn 44, ∃ name, headerText (trimBlanks element) = some name ∧
    parseFieldName fieldName name = some field

/-- A `Connection` header names the field. -/
def Nominated (fieldName : String → Bool) (headers : HeaderMap) (field : String) : Prop :=
  ∃ value ∈ FieldMap.getAll headers "connection", Names fieldName value field

/-- One of them that is text does. -/
def ReadablyNominated (fieldName : String → Bool) (headers : HeaderMap) (field : String) : Prop :=
  ∃ value ∈ FieldMap.getAll headers "connection", headerText value ≠ none ∧
    Names fieldName value field

/-- What stripping is to make of these headers. -/
structure StripsExactly (fieldName : String → Bool) (headers result : HeaderMap) : Prop where
  removed : ∀ field, field ∈ hopByHopHeaders ∨ Nominated fieldName headers field →
    FieldMap.getAll result field = []
  kept : ∀ field, field ∉ hopByHopHeaders → ¬Nominated fieldName headers field →
    FieldMap.getAll result field = FieldMap.getAll headers field
  idempotent : stripHopByHopHeaders fieldName result = result

/-! ## Text and bytes -/

section
variable {α β : Type}

theorem splitOnP_map (f : α → β) (p : β → Bool) (l : List α) :
    (l.map f).splitOnP p = (l.splitOnP (p ∘ f)).map (List.map f) := by
  induction l with
  | nil => rfl
  | cons a l ih =>
    rw [List.map_cons, List.splitOnP_cons_eq_if_modifyHead, List.splitOnP_cons_eq_if_modifyHead, ih,
      Function.comp_apply]
    by_cases h : p (f a) = true
    · rw [if_pos h, if_pos h, List.map_cons, List.map_nil]
    · rw [if_neg h, if_neg h]
      cases l.splitOnP (p ∘ f) <;> rfl

theorem mem_of_splitOnP {p : α → Bool} {l element : List α} (h : element ∈ l.splitOnP p) {x : α}
    (hx : x ∈ element) : x ∈ l := by
  induction l generalizing element with
  | nil =>
    rw [List.splitOnP_nil, List.mem_singleton] at h
    rw [h] at hx
    cases hx
  | cons a l ih =>
    rw [List.splitOnP_cons_eq_if_modifyHead] at h
    split at h
    · rcases List.mem_cons.mp h with rfl | h
      · cases hx
      · exact List.mem_cons_of_mem a (ih h hx)
    · cases hsplit : l.splitOnP p with
      | nil => exact absurd hsplit (List.splitOnP_ne_nil p l)
      | cons first rest =>
        rw [hsplit] at h ih
        rcases List.mem_cons.mp h with rfl | h
        · rcases List.mem_cons.mp hx with rfl | hx
          · exact List.mem_cons_self
          · exact List.mem_cons_of_mem a (ih List.mem_cons_self hx)
        · exact List.mem_cons_of_mem a (ih (List.mem_cons_of_mem first h) hx)

/-- A byte that text may have. -/
def textByte (b : UInt8) : Bool := 32 ≤ b && b < 127 || b == 9

def textChar (b : UInt8) : Char := Char.ofNat b.toNat

theorem headerText_eq (value : List UInt8) : headerText value =
    if value.all textByte then some (String.ofList (value.map textChar)) else none := rfl

theorem byte_cases {P : UInt8 → Prop} (h : ∀ n : Fin 256, P (UInt8.ofNat n)) (b : UInt8) : P b := by
  have hb := h ⟨b.toNat, b.toNat_lt⟩
  rwa [UInt8.ofNat_toNat] at hb

theorem textChar_comma : ((fun c => c == ',') ∘ textChar) = fun b => b == 44 :=
  funext (byte_cases (by decide +kernel))

theorem textChar_whitespace : ∀ b : UInt8, textByte b = true →
    isWhitespace (textChar b) = blank b :=
  byte_cases (by decide +kernel)

theorem dropWhile_congr {p q : α → Bool} {l : List α} (h : ∀ x ∈ l, p x = q x) :
    l.dropWhile p = l.dropWhile q := by
  induction l with
  | nil => rfl
  | cons a l ih =>
    have htail := ih fun x hx => h x (List.mem_cons_of_mem a hx)
    simp only [List.dropWhile_cons, h a List.mem_cons_self, htail]

/-- Of text both trim the same. -/
theorem trim_text {bytes : List UInt8} (h : ∀ b ∈ bytes, textByte b = true) :
    trim (String.ofList (bytes.map textChar)) =
      String.ofList ((trimBlanks bytes).map textChar) := by
  have hleft : bytes.dropWhile (isWhitespace ∘ textChar) = bytes.dropWhile blank :=
    dropWhile_congr fun b hb => textChar_whitespace b (h b hb)
  have hright : (bytes.dropWhile blank).reverse.dropWhile (isWhitespace ∘ textChar) =
      (bytes.dropWhile blank).reverse.dropWhile blank := by
    refine dropWhile_congr fun b hb => textChar_whitespace b (h b ?_)
    exact (List.dropWhile_suffix blank).subset (List.mem_reverse.mp hb)
  unfold trim trimBlanks List.rdropWhile
  rw [String.toList_ofList, List.dropWhile_map, hleft, ← List.map_reverse, List.dropWhile_map,
    hright, List.map_reverse]

/-- **A value that is text** names the fields that are read from the text. -/
theorem names_text {value : List UInt8} {text : String} (h : headerText value = some text)
    {fieldName : String → Bool} {field : String} :
    (∃ name ∈ splitComma text, parseFieldName fieldName (trim name) = some field) ↔
      Names fieldName value field := by
  rw [headerText_eq] at h
  split at h
  · rename_i hall
    cases h
    rw [List.all_eq_true] at hall
    have hsplit : splitComma (String.ofList (value.map textChar)) =
        (value.splitOn 44).map fun element => String.ofList (element.map textChar) := by
      rw [splitComma, String.toList_ofList, List.splitOn, splitOnP_map, textChar_comma,
        List.map_map]
      rfl
    have hread : ∀ element ∈ value.splitOn 44, headerText (trimBlanks element) =
        some (trim (String.ofList (element.map textChar))) := by
      intro element helement
      have htext : ∀ b ∈ element, textByte b = true :=
        fun b hb => hall b (mem_of_splitOnP helement hb)
      rw [trim_text htext, headerText_eq, if_pos]
      rw [List.all_eq_true]
      intro b hb
      exact htext b ((List.dropWhile_suffix blank).subset ((List.rdropWhile_prefix _ _).subset hb))
    unfold Names
    simp only [hsplit, List.mem_map, exists_exists_and_eq_and]
    constructor
    · rintro ⟨element, helement, hname⟩
      exact ⟨element, helement, _, hread element helement, hname⟩
    · rintro ⟨element, helement, name, hname, hfield⟩
      rw [hread element helement] at hname
      cases hname
      exact ⟨element, helement, hfield⟩
  · cases h

end

/-! ## What is left -/

section
variable {fieldName : String → Bool} {headers : HeaderMap} {field : String}

/-- **The names that are read** are those of the values that are text. -/
theorem mem_connectionNames : field ∈ connectionNames fieldName headers ↔
    ReadablyNominated fieldName headers field := by
  simp only [connectionNames, ReadablyNominated, List.mem_filterMap, List.mem_flatMap]
  constructor
  · rintro ⟨name, ⟨text, ⟨value, hvalue, htext⟩, hname⟩, hfield⟩
    exact ⟨value, hvalue, by simp [htext], (names_text htext).mp ⟨name, hname, hfield⟩⟩
  · rintro ⟨value, hvalue, hreadable, hnames⟩
    obtain ⟨text, htext⟩ := Option.ne_none_iff_exists'.mp hreadable
    obtain ⟨name, hname, hfield⟩ := (names_text htext).mpr hnames
    exact ⟨name, ⟨text, ⟨value, hvalue, htext⟩, hname⟩, hfield⟩

/-- **What is left of a field**: nothing of a hop-by-hop field and of one whose
name is read, and all of any other. -/
theorem getAll_strip : FieldMap.getAll (stripHopByHopHeaders fieldName headers) field =
    if field ∈ hopByHopHeaders ∨ field ∈ connectionNames fieldName headers then []
    else FieldMap.getAll headers field := by
  rw [stripHopByHopHeaders, FieldMap.getAll_removeAll, FieldMap.getAll_removeAll]
  by_cases hfixed : field ∈ hopByHopHeaders <;>
    by_cases hnamed : field ∈ connectionNames fieldName headers <;> simp [hfixed, hnamed]

/-- Where none of the eight fields is there, `Connection` included, nothing goes. -/
theorem strip_eq_self (h : ∀ name ∈ hopByHopHeaders, FieldMap.getAll headers name = []) :
    stripHopByHopHeaders fieldName headers = headers := by
  have hnames : connectionNames fieldName headers = [] := by
    rw [connectionNames, h "connection" (by decide), List.filterMap_nil, List.flatMap_nil,
      List.filterMap_nil]
  have hnone : FieldMap.removeAll headers [] = headers := rfl
  rw [stripHopByHopHeaders, hnames, hnone, FieldMap.removeAll_eq_self h]

end

/-- **Stripping is exact** when every field that a `Connection` value names which
is no text would go anyway: it is hop-by-hop, is not there, or is also named by a
value that is text. -/
theorem strip_exact_iff (fieldName : String → Bool) (headers : HeaderMap) :
    StripsExactly fieldName headers (stripHopByHopHeaders fieldName headers) ↔
      ∀ value ∈ FieldMap.getAll headers "connection", headerText value = none →
        ∀ field, Names fieldName value field → field ∈ hopByHopHeaders ∨
          FieldMap.getAll headers field = [] ∨ ReadablyNominated fieldName headers field := by
  constructor
  · intro h value hvalue _ field hnames
    have hgone := h.removed field (.inr ⟨value, hvalue, hnames⟩)
    rw [getAll_strip] at hgone
    split at hgone
    · rename_i hread
      exact hread.imp_right fun hmem => .inr (mem_connectionNames.mp hmem)
    · exact .inr (.inl hgone)
  · intro h
    refine ⟨fun field hfield => ?_, fun field hfixed hnominated => ?_, strip_eq_self ?_⟩
    · rw [getAll_strip]
      split
      · rfl
      · rename_i hread
        rw [not_or, mem_connectionNames] at hread
        obtain ⟨value, hvalue, hnames⟩ := hfield.resolve_left hread.1
        have hunreadable : headerText value = none :=
          not_not.mp fun htext => hread.2 ⟨value, hvalue, htext, hnames⟩
        have hgoes := h value hvalue hunreadable field hnames
        exact (hgoes.resolve_left hread.1).resolve_right hread.2
    · rw [getAll_strip, if_neg]
      rintro (hmem | hmem)
      · exact hfixed hmem
      · obtain ⟨value, hvalue, -, hnames⟩ := mem_connectionNames.mp hmem
        exact hnominated ⟨value, hvalue, hnames⟩
    · intro name hname
      rw [getAll_strip, if_pos (.inl hname)]

namespace Sample

/-- A token: letters, digits and some marks. -/
def fieldName (text : String) : Bool :=
  !text.isEmpty && text.toList.all fun c => c.isAlphanum || "!#$%&'*+-.^_`|~".toList.contains c

/-- A field named by the first element of a list, after which comes a byte that is
no text. -/
def hopHeaders : HeaderMap :=
  [("connection", utf8 "x-tunnel-hop, " ++ [0xff]), ("x-tunnel-hop", utf8 "secret")]

end Sample

example : stripHopByHopHeaders Sample.fieldName
    [("connection", utf8 "X-Tunnel-Hop, , keep-alive"), ("x-tunnel-hop", utf8 "secret"),
      ("keep-alive", utf8 "timeout=5"), ("x-end-to-end", utf8 "kept")] =
    [("x-end-to-end", utf8 "kept")] := by decide +kernel

/-- The field that the value names is left. -/
theorem strip_skips_value :
    FieldMap.getAll (stripHopByHopHeaders Sample.fieldName Sample.hopHeaders) "x-tunnel-hop" =
        [utf8 "secret"] ∧
      ¬StripsExactly Sample.fieldName Sample.hopHeaders
        (stripHopByHopHeaders Sample.fieldName Sample.hopHeaders) := by
  have hleft : FieldMap.getAll (stripHopByHopHeaders Sample.fieldName Sample.hopHeaders)
      "x-tunnel-hop" = [utf8 "secret"] := by decide +kernel
  refine ⟨hleft, fun h => ?_⟩
  have hnamed : Names Sample.fieldName (utf8 "x-tunnel-hop, " ++ [0xff]) "x-tunnel-hop" :=
    ⟨utf8 "x-tunnel-hop", by decide +kernel, "x-tunnel-hop", by decide +kernel, by decide +kernel⟩
  have hgone := h.removed "x-tunnel-hop" (.inr ⟨_, by decide +kernel, hnamed⟩)
  rw [hleft] at hgone
  cases hgone

end OngrokRelay
