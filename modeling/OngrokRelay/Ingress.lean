import OngrokRelay.Api
import OngrokRelay.Bytes
import OngrokRelay.Config
import OngrokRelay.ControlPlane
import OngrokRelay.WellFormed
import Mathlib.Data.List.DropRight

/-
  The public HTTP and HTTPS ingress (`ingress.rs`) up to where a tunnel to the
  client is asked for, and which announced hosts lead there.

  Three places treat a host as text: registration joins name and domain, the
  test for the control API ignores case, and the lookup of a service lowers the
  case of what the request says and of nothing else.

  Correspondence (Rust ↔ Lean):
    `http_ingress_handler`   ↔ `httpIngressHandler`
    `is_api_host`            ↔ `isApiHost`
    `forward_http_request`   ↔ `forwardHttpRequest`

  1. `Carries.requestHost`: what the handler takes for the host of a request.
  2. `normalized_eq_self_iff`: the hosts that the lookup leaves as they are.
  3. `announced_host_iff`: an announced host leads to its service exactly when it
     is one of them and not the name of the control API.
-/

namespace OngrokRelay

open ControlPlane
open Bytes (utf8)

/-! ## The handler -/

/-- A byte that a header value may have. -/
def headerByte (b : UInt8) : Bool := 32 ≤ b && b != 127 || b == 9

/-- A request as it arrives on an ingress. The authority is that of the URI, which
an HTTP/1 request in origin form does not have. -/
structure IngressRequest where
  request : ApiRequest
  authority : Option String := none
  valid : ∀ header ∈ request.headers, header.2.all headerByte
  ascii : ∀ host ∈ authority, ∀ c ∈ host.toList, c.toNat < 128

inductive Dispatched
  | preflight
  | api (reply : ApiReply)
  /-- `open_client_stream` is called. -/
  | tunnel (serviceId : ServiceId)
  /-- "service is unavailable", with the error that is logged. -/
  | unavailable (error : String)
  deriving DecidableEq

/-- The `Host` header when it is text, else the authority. -/
def requestHost (request : IngressRequest) : Option String :=
  ((headerValue request.request.headers "host").bind headerText).or request.authority

/-- `trim_end_matches('.')`, then what comes before the first `:`. -/
def hostname (host : String) : String :=
  String.ofList ((host.toList.rdropWhile fun c => c == '.').takeWhile fun c => c != ':')

/-- `str::to_ascii_lowercase`. -/
def toAsciiLowercase (text : String) : String := String.ofList (text.toList.map Char.toLower)

/-- `str::eq_ignore_ascii_case`. -/
def eqIgnoreAsciiCase (a b : String) : Bool := toAsciiLowercase a == toAsciiLowercase b

def isApiHost (cfg : RelayConfig) (request : IngressRequest) : Bool :=
  match cfg.httpDomain, requestHost request with
  | some domain, some host => eqIgnoreAsciiCase (hostname host) ("api." ++ domain)
  | _, _ => false

/-- The entry of the directory that the host names on this ingress. -/
def hostedService (services : Services) (protocol : Protocol) (host : String) :
    Option ServiceDefinition :=
  (BTreeMap.values services).find? fun service =>
    service.protocol == protocol && service.publicHost == some host

/-- The service whose client is asked for a stream. -/
def forwardHttpRequest (request : IngressRequest) (protocol : Protocol) (st : AppState) :
    Except String ServiceId :=
  match requestHost request with
  | none => .error "HTTP request is missing a Host header"
  | some forwardedHost =>
    match hostedService st.services protocol (toAsciiLowercase (hostname forwardedHost)) with
    | none => .error "no HTTP service is registered for host"
    | some service => .ok service.serviceId

def httpIngressHandler (cfg : RelayConfig) (decoders : Decoders) (env : ApiEnv)
    (request : IngressRequest) (protocol : Protocol) (st : AppState) : AppState × Dispatched :=
  if isApiHost cfg request then
    if request.request.method = .other "OPTIONS" then (st, .preflight)
    else (apiHandler cfg decoders env request.request st).map id .api
  else
    match forwardHttpRequest request protocol st with
    | .ok serviceId => (st, .tunnel serviceId)
    | .error e => (st, .unavailable e)

/-! ## The host of a request -/

def Ascii (text : String) : Prop := ∀ c ∈ text.toList, c.toNat < 128

/-- The request says this host: in its `Host` header, or in its authority when it
has no such header. -/
def IngressRequest.Carries (request : IngressRequest) (host : String) : Prop :=
  headerValue request.request.headers "host" = some (utf8 host) ∨
    headerValue request.request.headers "host" = none ∧ request.authority = some host

theorem ascii_byte {c : Char} (h : c.toNat < 128) : (UInt8.ofNat c.toNat).toNat = c.toNat := by
  rw [UInt8.toNat_ofNat', Nat.mod_eq_of_lt (Nat.lt_trans h (by decide))]

theorem utf8EncodeChar_ascii {c : Char} (h : c.toNat < 128) :
    String.utf8EncodeChar c = [UInt8.ofNat c.toNat] := if_pos (Nat.le_of_lt_succ h)

/-- A character beyond ASCII is written with a byte beyond it. -/
theorem utf8EncodeChar_big {c : Char} (h : 128 ≤ c.toNat) :
    ∃ b ∈ String.utf8EncodeChar c, 128 ≤ b.toNat := by
  have hfirst (n : Nat) (rest : List UInt8) (hlow : 128 ≤ n) (hhigh : n < 256) :
      ∃ b ∈ UInt8.ofNat n :: rest, 128 ≤ b.toNat := by
    refine ⟨UInt8.ofNat n, List.mem_cons_self, ?_⟩
    rwa [UInt8.toNat_ofNat', Nat.mod_eq_of_lt hhigh]
  -- the first byte of the two, three or four says how many they are
  have hlarge : ¬c.val.toNat ≤ 127 := Nat.not_le_of_lt h
  simp only [String.utf8EncodeChar, if_neg hlarge]
  split
  · exact hfirst _ _ (by omega) (by omega)
  · split
    · exact hfirst _ _ (by omega) (by omega)
    · exact hfirst _ _ (by omega) (by omega)

theorem utf8_of_ascii {text : String} (h : Ascii text) :
    utf8 text = text.toList.map fun c => UInt8.ofNat c.toNat := by
  rw [List.map_eq_flatMap]
  exact List.flatMap_congr fun c hc => utf8EncodeChar_ascii (h c hc)

/-- A header value that is a host is read as that host when it is ASCII, and as
nothing else when it is not. -/
theorem headerText_utf8 {text : String} (hvalid : (utf8 text).all headerByte) :
    (Ascii text → headerText (utf8 text) = some text) ∧
      (¬Ascii text → headerText (utf8 text) = none) := by
  constructor
  · intro h
    have hbytes : (utf8 text).all fun b => 32 ≤ b && b < 127 || b == 9 := by
      refine List.all_eq_true.mpr fun b hb => ?_
      have hheader := List.all_eq_true.mp hvalid b hb
      rw [utf8_of_ascii h] at hb
      obtain ⟨c, hc, rfl⟩ := List.mem_map.mp hb
      simp only [headerByte, Bool.or_eq_true, Bool.and_eq_true, decide_eq_true_eq, bne_iff_ne,
        beq_iff_eq] at hheader ⊢
      refine hheader.imp_left fun hvisible => ⟨hvisible.1, ?_⟩
      have hdelete : (UInt8.ofNat c.toNat).toNat ≠ 127 :=
        fun heq => hvisible.2 (UInt8.toNat_inj.mp heq)
      rw [ascii_byte (h c hc)] at hdelete
      rw [UInt8.lt_iff_toNat_lt, ascii_byte (h c hc)]
      exact Nat.lt_of_le_of_ne (Nat.le_of_lt_succ (h c hc)) hdelete
    unfold headerText
    rw [if_pos hbytes, utf8_of_ascii h, List.map_map]
    have hread : text.toList.map ((fun b : UInt8 => Char.ofNat b.toNat) ∘
        fun c => UInt8.ofNat c.toNat) = text.toList := by
      refine (List.map_congr_left fun c hc => ?_).trans (List.map_id _)
      rw [Function.comp, ascii_byte (h c hc), Char.ofNat_toNat, id]
    rw [hread, String.ofList_toList]
  · intro h
    simp only [Ascii, not_forall] at h
    obtain ⟨c, hc, hbig⟩ := h
    obtain ⟨b, hb, hle⟩ := utf8EncodeChar_big (Nat.le_of_not_lt hbig)
    have hmem : b ∈ utf8 text := List.mem_flatMap.mpr ⟨c, hc, hb⟩
    unfold headerText
    rw [if_neg]
    intro hall
    have htext := List.all_eq_true.mp hall b hmem
    simp only [Bool.or_eq_true, Bool.and_eq_true, decide_eq_true_eq, beq_iff_eq] at htext
    rcases htext with ⟨-, hlt⟩ | rfl
    · exact absurd (UInt8.lt_iff_toNat_lt.mp hlt) (Nat.not_lt_of_le (Nat.le_trans (by decide) hle))
    · exact absurd hle (by decide)

namespace IngressRequest

variable {request : IngressRequest} {host : String}

theorem valid_value {value : List UInt8}
    (h : headerValue request.request.headers "host" = some value) : value.all headerByte := by
  unfold headerValue at h
  obtain ⟨header, hfind, rfl⟩ := Option.map_eq_some_iff.mp h
  exact request.valid header (List.mem_of_find?_eq_some hfind)

/-- **The host of a request** that says one is that host, if it is ASCII. -/
theorem Carries.requestHost (h : request.Carries host) (hascii : Ascii host) :
    requestHost request = some host := by
  unfold OngrokRelay.requestHost
  rcases h with hheader | ⟨hheader, hauthority⟩
  · rw [hheader, Option.bind_some, (headerText_utf8 (valid_value hheader)).1 hascii]
    rfl
  · rw [hheader, Option.bind_none, Option.none_or, hauthority]

/-- A host that is not ASCII is not read: what counts is the authority, which is. -/
theorem Carries.requestHost_ascii (h : request.Carries host) (hascii : ¬Ascii host)
    {forwarded : String} (hforwarded : OngrokRelay.requestHost request = some forwarded) :
    Ascii forwarded := by
  unfold OngrokRelay.requestHost at hforwarded
  rcases h with hheader | ⟨-, hauthority⟩
  · rw [hheader, Option.bind_some, (headerText_utf8 (valid_value hheader)).2 hascii,
      Option.none_or] at hforwarded
    exact request.ascii forwarded hforwarded
  · exact absurd (request.ascii host hauthority) hascii

end IngressRequest

/-! ## The hosts that the lookup leaves as they are -/

/-- ASCII in lower case, without a port and without a dot at its end. -/
structure PlainHost (host : String) : Prop where
  ascii : Ascii host
  lower : ∀ c ∈ host.toList, c.isUpper = false
  noPort : ':' ∉ host.toList
  noDot : host.toList.getLast? ≠ some '.'

theorem plainHost_iff {host : String} : PlainHost host ↔
    host.toList.all (fun c => decide (c.toNat < 128) && !c.isUpper && c != ':') = true ∧
      host.toList.getLast? ≠ some '.' := by
  simp only [List.all_eq_true, Bool.and_eq_true, decide_eq_true_eq, Bool.not_eq_true', bne_iff_ne]
  constructor
  · intro h
    exact ⟨fun c hc => ⟨⟨h.ascii c hc, h.lower c hc⟩, fun heq => h.noPort (heq ▸ hc)⟩, h.noDot⟩
  · intro h
    exact ⟨fun c hc => (h.1 c hc).1.1, fun c hc => (h.1 c hc).1.2, fun hc => (h.1 _ hc).2 rfl, h.2⟩

instance (host : String) : Decidable (PlainHost host) := decidable_of_iff' _ plainHost_iff

theorem isUpper_iff {c : Char} : c.isUpper = true ↔ 65 ≤ c.toNat ∧ c.toNat ≤ 90 :=
  decide_eq_true_iff.trans (and_congr UInt32.le_iff_toNat_le UInt32.le_iff_toNat_le)

theorem isLower_iff {c : Char} : c.isLower = true ↔ 97 ≤ c.toNat ∧ c.toNat ≤ 122 :=
  Bool.and_eq_true_iff.trans (and_congr (decide_eq_true_iff.trans UInt32.le_iff_toNat_le)
    (decide_eq_true_iff.trans UInt32.le_iff_toNat_le))

theorem toLower_cases (c : Char) : c.isUpper = false ∧ c.toLower = c ∨
    c.isUpper = true ∧ c.toLower.toNat = c.toNat + 32 := by
  by_cases h : c.isUpper = true
  · right
    refine ⟨h, ?_⟩
    have hlower : c.toLower.val = c.val + 32 := congrArg Char.val (dif_pos (decide_eq_true_iff.mp h))
    have hlt : c.val.toNat + 32 < 2 ^ 32 :=
      Nat.lt_of_le_of_lt (Nat.add_le_add_right (isUpper_iff.mp h).2 32) (by decide)
    calc c.toLower.toNat = (c.val + 32).toNat := congrArg UInt32.toNat hlower
      _ = (c.val.toNat + 32) % 2 ^ 32 := UInt32.toNat_add c.val 32
      _ = c.toNat + 32 := Nat.mod_eq_of_lt hlt
  · exact .inl ⟨Bool.eq_false_iff.mpr h, dif_neg fun hc => h (decide_eq_true_iff.mpr hc)⟩

theorem toLower_eq_self_iff {c : Char} : c.toLower = c ↔ c.isUpper = false := by
  rcases toLower_cases c with ⟨hlower, hfixed⟩ | ⟨hupper, hnat⟩
  · exact iff_of_true hfixed hlower
  · refine iff_of_false (fun hfixed => ?_) (by rw [hupper]; decide)
    rw [hfixed] at hnat
    omega

theorem toAsciiLowercase_eq_self_iff {text : String} :
    toAsciiLowercase text = text ↔ ∀ c ∈ text.toList, c.isUpper = false := by
  rw [← String.toList_inj, toAsciiLowercase, String.toList_ofList]
  conv_lhs => rw [← List.map_id text.toList, List.map_map, Function.comp_id]
  rw [List.map_inj_left]
  exact forall₂_congr fun c _ => toLower_eq_self_iff

theorem hostname_begins (host : String) : (hostname host).toList <+: host.toList := by
  rw [hostname, String.toList_ofList]
  exact (List.takeWhile_prefix _).trans (List.rdropWhile_prefix _ _)

/-- Text without a dot at its end is all that is left of it by trimming dots. -/
theorem trimDots_eq_self_iff {chars : List Char} :
    (chars.rdropWhile fun c => c == '.') = chars ↔ chars.getLast? ≠ some '.' := by
  rw [List.rdropWhile_eq_self_iff]
  constructor
  · intro h hdot
    have hne : chars ≠ [] := by
      intro hempty
      rw [hempty] at hdot
      cases hdot
    exact h hne (beq_iff_eq.mpr ((List.getLast_eq_iff_getLast?_eq_some hne).mpr hdot))
  · intro h hne hdot
    exact h ((List.getLast_eq_iff_getLast?_eq_some hne).mp (beq_iff_eq.mp hdot))

/-- Text without a colon is all that comes before the first one. -/
theorem beforePort_eq_self_iff {chars : List Char} :
    (chars.takeWhile fun c => c != ':') = chars ↔ ':' ∉ chars := by
  rw [List.takeWhile_eq_self_iff]
  exact ⟨fun h hmem => bne_iff_ne.mp (h _ hmem) rfl,
    fun h c hc => bne_iff_ne.mpr fun heq => h (heq ▸ hc)⟩

theorem hostname_eq_self_iff {host : String} :
    hostname host = host ↔ ':' ∉ host.toList ∧ host.toList.getLast? ≠ some '.' := by
  rw [← String.toList_inj, hostname, String.toList_ofList, ← trimDots_eq_self_iff,
    ← beforePort_eq_self_iff]
  constructor
  · intro h
    -- neither of the two steps has dropped anything
    have hall : (host.toList.rdropWhile fun c => c == '.') = host.toList := by
      refine (List.rdropWhile_prefix _ _).eq_of_length_le ?_
      conv_lhs => rw [← h]
      exact (List.takeWhile_prefix _).length_le
    rw [hall] at h
    exact ⟨h, hall⟩
  · intro h
    rw [h.2, h.1]

/-- Cutting out the name drops nothing when it keeps the length. -/
theorem hostname_of_length {host : String}
    (h : (hostname host).toList.length = host.toList.length) : hostname host = host :=
  String.toList_inj.mp ((hostname_begins host).eq_of_length h)

theorem toAsciiLowercase_length (text : String) :
    (toAsciiLowercase text).toList.length = text.toList.length := by
  rw [toAsciiLowercase, String.toList_ofList, List.length_map]

theorem lookup_eq_self_iff {host : String} : toAsciiLowercase (hostname host) = host ↔
    (∀ c ∈ host.toList, c.isUpper = false) ∧ ':' ∉ host.toList ∧
      host.toList.getLast? ≠ some '.' := by
  rw [← hostname_eq_self_iff, ← toAsciiLowercase_eq_self_iff]
  constructor
  · intro h
    have hlength : (hostname host).toList.length = host.toList.length := by
      conv_rhs => rw [← h, toAsciiLowercase_length]
    have hself := hostname_of_length hlength
    rw [hself] at h
    exact ⟨h, hself⟩
  · intro h
    rw [h.2, h.1]

theorem toAsciiLowercase_ascii {text : String} (h : Ascii text) :
    Ascii (toAsciiLowercase text) := by
  intro c hc
  rw [toAsciiLowercase, String.toList_ofList] at hc
  obtain ⟨d, hd, rfl⟩ := List.mem_map.mp hc
  have hsmall := h d hd
  rcases toLower_cases d with ⟨-, hfixed⟩ | ⟨hupper, hnat⟩
  · rw [hfixed]
    exact hsmall
  · rw [isUpper_iff] at hupper
    omega

theorem hostname_ascii {host : String} (h : Ascii host) : Ascii (hostname host) :=
  fun c hc => h c ((hostname_begins host).subset hc)

/-! ## The service of a host -/

/-- No entry that fits before this one: of the same protocol, under the same host. -/
def FirstOfHost (services : Services) (id : ServiceId) (s : ServiceDefinition) : Prop :=
  ∀ (id' : ServiceId) (s' : ServiceDefinition), services[id']? = some s' →
    s'.protocol = s.protocol → s'.publicHost = s.publicHost → compare id' id ≠ .lt

/-- **The lookup of a host** comes to a service that is announced under it,
when that is the first one. -/
theorem hostedService_iff {services : Services} (hkeys : KeysMatch services) {id : ServiceId}
    {s : ServiceDefinition} (hs : services[id]? = some s) (host : String) :
    (∃ found, hostedService services s.protocol host = some found ∧
        found.serviceId = s.serviceId) ↔
      s.publicHost = some host ∧ FirstOfHost services id s := by
  constructor
  · intro h
    obtain ⟨found, hfound, hid⟩ := h
    obtain ⟨key, hkey, hfits, hleast⟩ := BTreeMap.find_values_least hfound
    -- the entry found is the entry of the id
    obtain rfl : key = id := by rw [← hkeys key found hkey, hid, hkeys id s hs]
    rw [hs] at hkey
    cases hkey
    simp only [Bool.and_eq_true, beq_iff_eq] at hfits hleast
    refine ⟨hfits.2, fun id' s' hs' hproto hhost => hleast id' s' hs' ⟨hproto, ?_⟩⟩
    rw [hhost, hfits.2]
  · intro h
    obtain ⟨hhost, hfirst⟩ := h
    cases hfound : hostedService services s.protocol host with
    | none =>
      have hno := BTreeMap.find_values_none.mp hfound id s hs
      simp [hhost] at hno
    | some found =>
      obtain ⟨key, hkey, hfits, hleast⟩ := BTreeMap.find_values_least hfound
      simp only [Bool.and_eq_true, beq_iff_eq] at hfits hleast
      have hbefore := hfirst key found hkey hfits.1 (hfits.2.trans hhost.symm)
      have hafter := hleast id s hs ⟨rfl, hhost⟩
      -- of two entries that fit, both the least
      have hkeyId : key = id := by
        cases hcompare : compare key id with
        | lt => exact absurd hcompare hbefore
        | eq => exact Std.LawfulEqOrd.eq_of_compare hcompare
        | gt => exact absurd (Std.OrientedCmp.gt_iff_lt.mp hcompare) hafter
      exact ⟨found, rfl, by rw [hkeys key found hkey, hkeys id s hs, hkeyId]⟩

section
variable {cfg : RelayConfig} {decoders : Decoders} {env : ApiEnv} {request : IngressRequest}
  {protocol : Protocol} {st : AppState}

theorem httpIngressHandler_tunnel_iff {serviceId : ServiceId} :
    (httpIngressHandler cfg decoders env request protocol st).2 = .tunnel serviceId ↔
      isApiHost cfg request = false ∧ ∃ forwarded, requestHost request = some forwarded ∧
        ∃ found, hostedService st.services protocol (toAsciiLowercase (hostname forwarded)) =
          some found ∧ found.serviceId = serviceId := by
  unfold httpIngressHandler
  cases hapi : isApiHost cfg request with
  | true =>
    refine iff_of_false ?_ fun h => by cases h.1
    rw [if_pos rfl]
    split <;> intro h <;> cases h
  | false =>
    rw [if_neg (by decide)]
    unfold forwardHttpRequest
    cases requestHost request with
    | none => simp
    | some forwarded =>
      cases hfound : hostedService st.services protocol (toAsciiLowercase (hostname forwarded)) with
      | none => simp [hfound]
      | some found => simp [hfound]

end

/-- The host is another spelling of the name of the control API. -/
def NamesApi (cfg : RelayConfig) (host : String) : Prop :=
  ∃ domain, cfg.httpDomain = some domain ∧ eqIgnoreAsciiCase host ("api." ++ domain)

section
variable {cfg : RelayConfig} {decoders : Decoders} {env : ApiEnv} {request : IngressRequest}
  {st : AppState} {id : ServiceId} {s : ServiceDefinition} {host : String}

theorem isApiHost_iff (hhost : requestHost request = some host) (hself : hostname host = host) :
    isApiHost cfg request = true ↔ NamesApi cfg host := by
  unfold isApiHost NamesApi
  rw [hhost]
  cases cfg.httpDomain with
  | none => simp
  | some domain => simp [hself]

/-- **A request for an announced host**, in any directory filed by ids. -/
theorem dispatched_iff (hkeys : KeysMatch st.services) (hs : st.services[id]? = some s)
    (hhost : s.publicHost = some host) (hcarries : request.Carries host) :
    (httpIngressHandler cfg decoders env request s.protocol st).2 = .tunnel s.serviceId ↔
      PlainHost host ∧ ¬NamesApi cfg host ∧ FirstOfHost st.services id s := by
  rw [httpIngressHandler_tunnel_iff]
  by_cases hascii : Ascii host
  · have hread := hcarries.requestHost hascii
    constructor
    · intro h
      obtain ⟨hapi, forwarded, hforwarded, hfound⟩ := h
      rw [hread] at hforwarded
      cases hforwarded
      obtain ⟨hlookup, hfirst⟩ := (hostedService_iff hkeys hs _).mp hfound
      have hsame : host = toAsciiLowercase (hostname host) :=
        Option.some.inj (hhost.symm.trans hlookup)
      obtain ⟨hlower, hnoPort, hnoDot⟩ := lookup_eq_self_iff.mp hsame.symm
      refine ⟨⟨hascii, hlower, hnoPort, hnoDot⟩, fun hnames => ?_, hfirst⟩
      rw [(isApiHost_iff hread (hostname_eq_self_iff.mpr ⟨hnoPort, hnoDot⟩)).mpr hnames] at hapi
      cases hapi
    · intro h
      obtain ⟨hplain, hnames, hfirst⟩ := h
      have hself := hostname_eq_self_iff.mpr ⟨hplain.noPort, hplain.noDot⟩
      refine ⟨Bool.eq_false_iff.mpr fun hapi => hnames ((isApiHost_iff hread hself).mp hapi),
        host, hread, (hostedService_iff hkeys hs _).mpr ⟨?_, hfirst⟩⟩
      rw [lookup_eq_self_iff.mpr ⟨hplain.lower, hplain.noPort, hplain.noDot⟩, hhost]
  · -- what the handler reads in its place is ASCII
    refine iff_of_false (fun h => ?_) fun h => hascii h.1.ascii
    obtain ⟨-, forwarded, hforwarded, hfound⟩ := h
    have hlookup := ((hostedService_iff hkeys hs _).mp hfound).1
    refine hascii ?_
    rw [Option.some.inj (hhost.symm.trans hlookup)]
    exact toAsciiLowercase_ascii
      (hostname_ascii (hcarries.requestHost_ascii hascii hforwarded))

end

/-! ## The hosts of a well-formed directory -/

theorem validServiceNameChar_plain {c : Char} (h : validServiceNameChar c) :
    c.toNat < 128 ∧ c.isUpper = false ∧ c ≠ ':' := by
  have hrange : c.toNat = 45 ∨ (48 ≤ c.toNat ∧ c.toNat ≤ 57) ∨ (97 ≤ c.toNat ∧ c.toNat ≤ 122) := by
    simp only [validServiceNameChar, Bool.or_eq_true, isLower_iff, Char.isDigit_iff_toNat,
      beq_iff_eq] at h
    rcases h with (h | h) | rfl
    · exact .inr (.inr h)
    · exact .inr (.inl h)
    · exact .inl rfl
  refine ⟨by omega, Bool.eq_false_iff.mpr fun hupper => ?_, fun hport => ?_⟩
  · have hletter := isUpper_iff.mp hupper
    omega
  · rw [hport] at hrange
    revert hrange
    decide

theorem validateServiceName_chars {name : String} (h : validateServiceName name = .ok ()) :
    ∀ c ∈ name.toList, c.toNat < 128 ∧ c.isUpper = false ∧ c ≠ ':' := by
  unfold validateServiceName at h
  split at h
  · rename_i hvalid
    simp only [Bool.and_eq_true, List.all_eq_true] at hvalid
    exact fun c hc => validServiceNameChar_plain (hvalid.1.1.2 c hc)
  · cases h

section
variable {name domain : String}

theorem join_toList : (name ++ "." ++ domain).toList = name.toList ++ '.' :: domain.toList := by
  simp

theorem join_getLast (hdomain : domain ≠ "") :
    (name ++ "." ++ domain).toList.getLast? = domain.toList.getLast? := by
  rw [join_toList]
  cases hchars : domain.toList with
  | nil => exact absurd (String.toList_eq_nil_iff.mp hchars) hdomain
  | cons c rest =>
    rw [List.getLast?_append, List.getLast?_cons_cons, List.getLast?_cons]
    rfl

theorem join_lower (hname : ∀ c ∈ name.toList, c.isUpper = false)
    (hdomain : ∀ c ∈ domain.toList, c.isUpper = false) :
    toAsciiLowercase (name ++ "." ++ domain) = name ++ "." ++ domain := by
  rw [toAsciiLowercase_eq_self_iff, join_toList]
  intro c hc
  rcases List.mem_append.mp hc with hc | hc
  · exact hname c hc
  · rcases List.mem_cons.mp hc with rfl | hc
    · rfl
    · exact hdomain c hc

/-- A host built from a valid name is plain when its domain is. -/
theorem plainHost_join_iff (hname : validateServiceName name = .ok ()) (hdomain : domain ≠ "") :
    PlainHost (name ++ "." ++ domain) ↔ PlainHost domain := by
  have hchars := validateServiceName_chars hname
  constructor
  · intro h
    have hmem (c : Char) (hc : c ∈ domain.toList) : c ∈ (name ++ "." ++ domain).toList := by
      rw [join_toList]
      exact List.mem_append_right _ (List.mem_cons_of_mem _ hc)
    exact ⟨fun c hc => h.ascii c (hmem c hc), fun c hc => h.lower c (hmem c hc),
      fun hc => h.noPort (hmem ':' hc), join_getLast hdomain ▸ h.noDot⟩
  · intro h
    refine ⟨fun c hc => ?_, ?_, fun hport => ?_, (join_getLast hdomain).symm ▸ h.noDot⟩
    · rw [join_toList] at hc
      rcases List.mem_append.mp hc with hc | hc
      · exact (hchars c hc).1
      · rcases List.mem_cons.mp hc with rfl | hc
        · decide
        · exact h.ascii c hc
    · exact toAsciiLowercase_eq_self_iff.mp (join_lower (fun c hc => (hchars c hc).2.1) h.lower)
    · rw [join_toList] at hport
      rcases List.mem_append.mp hport with hport | hport
      · exact (hchars ':' hport).2.2 rfl
      · rcases List.mem_cons.mp hport with heq | hport
        · cases heq
        · exact h.noPort hport

/-- A host built from a valid name is that of the API when the name is. -/
theorem namesApi_join_iff {cfg : RelayConfig} (hcfg : cfg.httpDomain = some domain)
    (hname : validateServiceName name = .ok ()) (hdomain : PlainHost domain) :
    NamesApi cfg (name ++ "." ++ domain) ↔ name = "api" := by
  have hjoined : toAsciiLowercase (name ++ "." ++ domain) = name ++ "." ++ domain :=
    join_lower (fun c hc => (validateServiceName_chars hname c hc).2.1) hdomain.lower
  have hapi : toAsciiLowercase ("api" ++ "." ++ domain) = "api" ++ "." ++ domain :=
    join_lower (fun c hc => (validateServiceName_chars (by decide +kernel) c hc).2.1) hdomain.lower
  have hsame : eqIgnoreAsciiCase (name ++ "." ++ domain) ("api." ++ domain) ↔ name = "api" := by
    show (toAsciiLowercase (name ++ "." ++ domain) == toAsciiLowercase ("api" ++ "." ++ domain)) =
      true ↔ _
    rw [hjoined, hapi, beq_iff_eq, ← String.toList_inj, join_toList, join_toList,
      List.append_left_inj, String.toList_inj]
  unfold NamesApi
  rw [hcfg]
  constructor
  · intro h
    obtain ⟨domain', hdomain', hnames⟩ := h
    cases hdomain'
    exact hsame.mp hnames
  · intro h
    exact ⟨domain, rfl, hsame.mpr h⟩

end

/-- A run from a well-formed directory stays among the well-formed ones. -/
theorem run_wellFormed (cfg : RelayConfig) {p : ControlPlane} (h : WellFormed cfg p.shared.services)
    (events : List (Interleaving.Event Env ControlTask)) :
    WellFormed cfg (Transition.run (ControlPlane.next cfg) p events).shared.services := by
  refine Transition.run_of_step (P := fun p : ControlPlane => WellFormed cfg p.shared.services) ?_ h events
  intro p e hp
  rcases p.next_cases cfg e with he | ⟨i, env, task, -, -, he⟩ | ⟨task, -, -, he⟩
  · rw [he]
    exact hp
  · rw [he]
    exact hp.change (task.step_services cfg env p.shared)
  · rw [he]
    exact hp

/-- **An announced host** leads to its service, in every directory reached under
accepted options, exactly when it is plain, is not that of the control API and
is that of no earlier entry. In a well-formed directory that is to say that the
service is not called "api" and the domain is plain. -/
theorem announced_host_iff {options : RunOptions} (haccepted : validateRunOptions options = .ok ())
    (hashToken : String → TokenHash) {p : ControlPlane}
    (hreached : Reached (options.relayConfig hashToken) p) {id : ServiceId}
    {s : ServiceDefinition} (hs : p.shared.services[id]? = some s) (hproto : s.protocol ≠ .tcp)
    {host : String} (hhost : s.publicHost = some host) {request : IngressRequest}
    (hcarries : request.Carries host) (decoders : Decoders) (env : ApiEnv) :
    let cfg := options.relayConfig hashToken
    let result := httpIngressHandler cfg decoders env request s.protocol p.shared
    (result.2 = .tunnel s.serviceId ↔
      PlainHost host ∧ ¬NamesApi cfg host ∧ FirstOfHost p.shared.services id s) ∧
    ∀ domain, options.httpDomain = some domain → WellFormed cfg p.shared.services →
      (result.2 = .tunnel s.serviceId ↔ PlainHost domain ∧ s.serviceName ≠ "api") := by
  intro cfg result
  have hiff : result.2 = .tunnel s.serviceId ↔
      PlainHost host ∧ ¬NamesApi cfg host ∧ FirstOfHost p.shared.services id s :=
    dispatched_iff hreached.keysMatch hs hhost hcarries
  refine ⟨hiff, fun domain hdomain hwf => ?_⟩
  have hname := hwf.name id s hs
  have hempty : domain ≠ "" := validateRunOptions_domain haccepted hdomain
  have hjoin : host = s.serviceName ++ "." ++ domain := by
    obtain ⟨domain', hdomain', hhost'⟩ := hwf.hosted hs hproto
    obtain rfl : domain = domain' := Option.some.inj (hdomain.symm.trans hdomain')
    exact Option.some.inj (hhost.symm.trans hhost')
  have hfirst : FirstOfHost p.shared.services id s := by
    intro id' s' hs' hproto' hhost' hlt
    rw [hwf.hostUnique hs' hs (hproto' ▸ hproto) hproto hhost', Std.ReflOrd.compare_self] at hlt
    cases hlt
  rw [hiff, hjoin, plainHost_join_iff hname hempty]
  constructor
  · intro h
    obtain ⟨hplain, hnames, -⟩ := h
    exact ⟨hplain, fun hapi => hnames ((namesApi_join_iff hdomain hname hplain).mpr hapi)⟩
  · intro h
    obtain ⟨hplain, hapi⟩ := h
    exact ⟨hplain, fun hnames => hapi ((namesApi_join_iff hdomain hname hplain).mp hnames), hfirst⟩

/-! ## A service that can be reached, and one that cannot -/

namespace Sample

/-- The options under which the samples run. -/
def options : RunOptions where
  httpListen := some (.v4 0 80)
  httpDomain := some "apps.test"
  publicHost := "relay.test"
  tcpPortStart := 20000
  tcpPortEnd := 20001

/-- Node 7 connects, registers and publishes an HTTP service. -/
def publishes (name : String) : List (Interleaving.Event Env ControlTask) :=
  connects 0 1 7 ++ registers 0 ++
    .run 0 { input := .ok (.registerService (service 1 name 7 .http none)) } ::
      List.replicate 6 (.run 0 {})

/-- A request for the root of a host. -/
def visits (host : String) (valid : (utf8 host).all headerByte) : IngressRequest where
  request :=
    { method := .get
      path := "/"
      headers := [("host", utf8 host)] }
  valid header h := by
    rw [List.mem_singleton] at h
    rw [h]
    exact valid
  ascii host h := by cases h

/-- The entry that the sample services have. -/
def published (name : String) : ServiceDefinition :=
  { service 1 name 7 .http none with publicHost := some (name ++ ".apps.test") }

end Sample

/-- A service called "web" is reached at its address. -/
theorem announced_host_web :
    (httpIngressHandler Sample.config Sample.decoders {}
      (Sample.visits "web.apps.test" (by decide +kernel)) .http
      (Sample.reached (Sample.publishes "web")).shared).2 = .tunnel ⟨1⟩ := by
  have hwf : WellFormed Sample.config (Sample.reached (Sample.publishes "web")).shared.services :=
    run_wellFormed Sample.config (WellFormed.empty Sample.config) (Sample.publishes "web")
  have hs : (Sample.reached (Sample.publishes "web")).shared.services[(⟨1⟩ : ServiceId)]? =
      some (Sample.published "web") := by decide +kernel
  have hhost : (Sample.published "web").publicHost = some "web.apps.test" := rfl
  have hcarries : (Sample.visits "web.apps.test" (by decide +kernel)).Carries "web.apps.test" :=
    .inl rfl
  have hiff := announced_host_iff (by decide : validateRunOptions Sample.options = .ok ())
    Sample.hashToken (Sample.reached_ok (Sample.publishes "web")) hs (by decide) hhost hcarries
    Sample.decoders {}
  exact (hiff.2 "apps.test" rfl hwf).mpr ⟨by decide +kernel, by decide⟩

/-- A service called "api" is announced as api.apps.test, where the control API
answers in its place. -/
theorem announced_host_api :
    let p := Sample.reached (Sample.publishes "api")
    let request := Sample.visits "api.apps.test" (by decide +kernel)
    validateRunOptions Sample.options = .ok () ∧
      Reached (Sample.options.relayConfig Sample.hashToken) p ∧
      p.shared.services[(⟨1⟩ : ServiceId)]? = some (Sample.published "api") ∧
      (Sample.published "api").protocol = .http ∧
      (Sample.published "api").publicHost = some "api.apps.test" ∧
      request.Carries "api.apps.test" ∧
      (httpIngressHandler (Sample.options.relayConfig Sample.hashToken) Sample.decoders {} request
        .http p.shared).2 = .api (errorReply 404 "route not found") :=
  ⟨by decide, Sample.reached_ok _, by decide +kernel, rfl, rfl, .inl rfl, by decide +kernel⟩

end OngrokRelay
