import OngrokRelay.BTreeMap
import OngrokRelay.Numerals

/-
  The protocol and domain types shared by the relay's components (`libongrok`).

  Correspondence (Rust ↔ Lean):
    `uuid_id!`                ↔ `UuidId` at the kinds of `IdKind`
    `Uuid`'s `Display`        ↔ `UuidId.text`
    `Metadata::validate`      ↔ `Metadata.validate`
    `validate_service_name`   ↔ `validateServiceName`
    `Frame`                   ↔ `Frame`

  A 32-byte hash or key is a `BitVec 256`, a float of a heartbeat snapshot is
  carried as its 32 bits: the server compares the former and only stores the
  latter. Rust's `str::len` is the number of UTF-8 bytes, and a test on every
  byte that admits ASCII only is the same test on every character.
-/

namespace OngrokRelay

/-- The kinds of identifier the protocol keeps apart. -/
inductive IdKind
  | node
  | service
  | tunnel
  | event
  deriving DecidableEq

/-- An identifier of one kind: the 128 bits of a UUID, compared as a number. -/
structure UuidId (kind : IdKind) where
  bits : BitVec 128
  deriving DecidableEq

abbrev NodeId := UuidId .node
abbrev ServiceId := UuidId .service
abbrev TunnelId := UuidId .tunnel
abbrev EventId := UuidId .event

namespace UuidId

variable {kind : IdKind}

instance : Ord (UuidId kind) := ⟨compareOn UuidId.bits⟩

instance : Std.TransOrd (UuidId kind) :=
  inferInstanceAs (Std.TransCmp (compareOn (@UuidId.bits kind)))

theorem bits_injective {a b : UuidId kind} (h : a.bits = b.bits) : a = b := by
  cases a; cases b; simpa using h

instance : Std.LawfulEqOrd (UuidId kind) where
  eq_of_compare h := bits_injective (Std.LawfulEqOrd.eq_of_compare (α := BitVec 128) h)

/-- Five groups of digits, of 8, 4, 4, 4 and 12, joined by hyphens. -/
def hyphenate (digits : List Char) : List Char :=
  digits.take 8 ++ '-' :: (digits.drop 8).take 4 ++ '-' :: (digits.drop 12).take 4 ++
    '-' :: (digits.drop 16).take 4 ++ '-' :: digits.drop 20

/-- The printed identifier: lower-case hexadecimal, hyphenated. -/
def text (id : UuidId kind) : String :=
  String.ofList (hyphenate (Numerals.fixedDigits 16 32 id.bits.toNat))

theorem hyphenate_filter {digits : List Char} (h : ∀ c ∈ digits, c ≠ '-') :
    (hyphenate digits).filter (· != '-') = digits := by
  have keep : ∀ l : List Char, (∀ c ∈ l, c ∈ digits) → l.filter (· != '-') = l :=
    fun l hl => List.filter_eq_self.mpr fun c hc => bne_iff_ne.mpr (h c (hl c hc))
  have drop (n : Nat) : ∀ c ∈ digits.drop n, c ∈ digits := fun _ => List.mem_of_mem_drop
  have take (n m : Nat) : ∀ c ∈ (digits.drop n).take m, c ∈ digits :=
    fun c hc => drop n c (List.mem_of_mem_take hc)
  have glue (n m : Nat) : (digits.drop n).take m ++ digits.drop (n + m) = digits.drop n := by
    rw [← List.drop_drop, List.take_append_drop]
  simp only [hyphenate, List.filter_append, List.filter_cons, bne_self_eq_false,
    Bool.false_eq_true, if_false, keep _ (take 8 4), keep _ (take 12 4), keep _ (take 16 4),
    keep _ (drop 20), keep _ (fun c (hc : c ∈ digits.take 8) => List.mem_of_mem_take hc)]
  calc digits.take 8 ++ (digits.drop 8).take 4 ++ (digits.drop 12).take 4 ++
        (digits.drop 16).take 4 ++ digits.drop 20
      = digits.take 8 ++ ((digits.drop 8).take 4 ++ ((digits.drop 12).take 4 ++
          ((digits.drop 16).take 4 ++ digits.drop 20))) := by simp only [List.append_assoc]
    _ = digits := by
      rw [glue 16 4, glue 12 4, glue 8 4, List.take_append_drop]

theorem bits_lt (id : UuidId kind) : id.bits.toNat < 16 ^ 32 :=
  Nat.lt_of_lt_of_eq id.bits.isLt (by decide)

/-- **The printed identifier determines the identifier.** -/
theorem text_injective {a b : UuidId kind} (h : a.text = b.text) : a = b := by
  have hno : ∀ n, ∀ c ∈ Numerals.fixedDigits 16 32 n, c ≠ '-' :=
    fun n => Numerals.fixedDigits_ne (by decide) (by decide) (by decide)
  have hdigits := congrArg (List.filter (· != '-')) (String.ofList_injective h)
  rw [hyphenate_filter (hno _), hyphenate_filter (hno _)] at hdigits
  have hval := Numerals.fixedDigits_injective (by decide) (by decide) (bits_lt a) (bits_lt b)
    hdigits
  exact bits_injective (BitVec.eq_of_toNat_eq hval)

theorem text_inj {a b : UuidId kind} : a.text = b.text ↔ a = b :=
  ⟨text_injective, congrArg text⟩

end UuidId

inductive TokenKind
  | admin
  | user
  deriving DecidableEq

inductive Protocol
  | http
  | https
  | tcp
  deriving DecidableEq

inductive TransportKind
  | quic
  | tcpTlsYamux
  deriving DecidableEq

inductive ServiceStatus
  | online
  | offline
  deriving DecidableEq

inductive NodeStatus
  | online
  | offline
  deriving DecidableEq

inductive EventKind
  | nodeOnline
  | nodeOffline
  | serviceRegistered
  | serviceDeleted
  | tokenRotated
  | tokenRevoked
  deriving DecidableEq

/-- A token hash, `[u8; 32]`. -/
abbrev TokenHash := BitVec 256

/-- An Ed25519 public key, `[u8; 32]`. -/
abbrev PublicKey := BitVec 256

/-! ## Metadata and names -/

inductive ValidationError
  | tooManyMetadataEntries
  | invalidMetadataKey (key : String)
  | metadataValueTooLong (key : String)
  | metadataTooLarge
  | invalidServiceName
  deriving DecidableEq

def ValidationError.message : ValidationError → String
  | .tooManyMetadataEntries => "too many metadata entries"
  | .invalidMetadataKey key => s!"invalid metadata key: {key}"
  | .metadataValueTooLong key => s!"metadata value too long for key: {key}"
  | .metadataTooLarge => "metadata exceeds total size limit"
  | .invalidServiceName => "service name is invalid"

structure Metadata where
  entries : BTreeMap String String := ∅
  deriving DecidableEq

namespace Metadata

def maxEntries : Nat := 32
def maxKeyLen : Nat := 64
def maxValueLen : Nat := 256
def maxTotalBytes : Nat := 4096

def validKeyChar (c : Char) : Bool :=
  c.isLower || c.isDigit || c == '-' || c == '_' || c == '.'

def validKey (key : String) : Bool :=
  !key.isEmpty && key.utf8ByteSize ≤ maxKeyLen && key.toList.all validKeyChar

/-- The loop over the entries in key order: the bytes seen so far, or the first
fault. At most 32 entries of 320 bytes pass through it, far from saturation. -/
def totalBytes : Nat → List (String × String) → Except ValidationError Nat
  | total, [] => .ok total
  | total, (key, value) :: rest =>
    if !validKey key then .error (.invalidMetadataKey key)
    else if maxValueLen < value.utf8ByteSize then .error (.metadataValueTooLong key)
    else totalBytes (total + key.utf8ByteSize + value.utf8ByteSize) rest

def validate (m : Metadata) : Except ValidationError Unit :=
  if maxEntries < m.entries.size then .error .tooManyMetadataEntries
  else match totalBytes 0 m.entries.toList with
    | .error e => .error e
    | .ok total => if maxTotalBytes < total then .error .metadataTooLarge else .ok ()

end Metadata

def validServiceNameChar (c : Char) : Bool := c.isLower || c.isDigit || c == '-'

def validateServiceName (name : String) : Except ValidationError Unit :=
  if !name.isEmpty && name.utf8ByteSize ≤ 63 && name.toList.all validServiceNameChar
      && name.toList.head? != some '-' && name.toList.getLast? != some '-' then .ok ()
  else .error .invalidServiceName

/-! ## Records -/

structure NodeMetadata where
  hostname : String
  os : String
  arch : String
  clientVersion : String
  metadata : Metadata
  deriving DecidableEq

structure NodeRecord where
  nodeId : NodeId
  publicKey : Option PublicKey
  metadata : NodeMetadata
  publicIp : String
  sourcePort : UInt16
  transport : TransportKind
  status : NodeStatus
  connectedAtUnixMs : Int64
  lastHeartbeatAtUnixMs : Option Int64
  rttMs : Option UInt32
  deriving DecidableEq

structure ServiceDefinition where
  serviceId : ServiceId
  serviceName : String
  nodeId : NodeId
  protocol : Protocol
  localAddress : String
  publicHost : Option String
  publicPort : Option UInt16
  metadata : Metadata
  deriving DecidableEq

structure HeartbeatSnapshot where
  sequence : UInt64
  sentAtUnixMs : Int64
  cpuPercent : Option UInt32
  memoryPercent : Option UInt32
  loadAverage : Option UInt32
  networkRxBytes : Option UInt64
  networkTxBytes : Option UInt64
  deriving DecidableEq

structure NodeMetric where
  nodeId : NodeId
  recordedAtUnixMs : Int64
  rttMs : Option UInt32
  snapshot : HeartbeatSnapshot
  deriving DecidableEq

structure ControlEvent where
  eventId : EventId
  occurredAtUnixMs : Int64
  kind : EventKind
  nodeId : Option NodeId
  serviceId : Option ServiceId
  tokenKind : Option TokenKind
  deriving DecidableEq

def protocolVersion : UInt16 := 1

inductive Frame
  | hello (version : UInt16)
  | auth (token : String) (nodeId : NodeId)
  | authAccepted (kind : TokenKind)
  | authRejected
  | registerNode (metadata : NodeMetadata) (publicKey : PublicKey)
  | registerService (service : ServiceDefinition)
  | registerServiceAccepted (service : ServiceDefinition)
  | unregisterService (serviceId : ServiceId)
  | serviceList (services : List ServiceDefinition)
  | heartbeat (snapshot : HeartbeatSnapshot)
  | heartbeatAck (sequence : UInt64) (serverTimeUnixMs : Int64)
  | openStream (tunnelId : TunnelId) (serviceId : ServiceId)
  | openStreamAck (tunnelId : TunnelId)
  | streamData (tunnelId : TunnelId) (data : List UInt8)
  | closeStream (tunnelId : TunnelId)
  | error (message : String)
  | goodbye
  deriving DecidableEq

end OngrokRelay
