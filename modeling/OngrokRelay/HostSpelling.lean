import OngrokRelay.Ingress

/-
  The spellings of a host name (`is_api_host` and `forward_http_request` of
  `ingress.rs`).

  A host may be followed by a dot and by a port and be written in either case.
  Where a request goes depends on its host only through the name that both
  functions cut out of it, up to case. They trim dots from the end of the whole
  value and only then cut off the port, so a dot before a port is left.

  1. `route_eq`: a request is routed by the lower-case name cut out of its host.
  2. `hostname_lower`: cutting out the name commutes with the change of case.
  3. `hostname_spelled`: the name that is cut out of a spelling.
  4. `spelling_invariant_iff`: a spelling is routed as the host itself and gives
     the same name exactly when there is no dot before a port.
-/

namespace OngrokRelay

open Bytes (utf8)

/-! ## Where a request goes -/

inductive Route
  | controlApi
  | service (serviceId : ServiceId)
  | noService
  deriving DecidableEq

/-- The decision that `http_ingress_handler` makes for a request. -/
def route (cfg : RelayConfig) (request : IngressRequest) (protocol : Protocol) (st : AppState) :
    Route :=
  if isApiHost cfg request then .controlApi
  else
    match forwardHttpRequest request protocol st with
    | .ok serviceId => .service serviceId
    | .error _ => .noService

/-- What the handler comes to, as a decision. -/
def Dispatched.route : Dispatched → Route
  | .preflight => .controlApi
  | .api _ => .controlApi
  | .tunnel serviceId => .service serviceId
  | .unavailable _ => .noService

theorem httpIngressHandler_route (cfg : RelayConfig) (decoders : Decoders) (env : ApiEnv)
    (request : IngressRequest) (protocol : Protocol) (st : AppState) :
    (httpIngressHandler cfg decoders env request protocol st).2.route =
      route cfg request protocol st := by
  unfold httpIngressHandler route
  split
  · split <;> rfl
  · cases forwardHttpRequest request protocol st <;> rfl

/-- **A request is routed by its host** through the lower-case name cut out of it. -/
theorem route_eq {request request' : IngressRequest} {host host' : String}
    (hhost : requestHost request = some host) (hhost' : requestHost request' = some host')
    (hname : toAsciiLowercase (hostname host) = toAsciiLowercase (hostname host'))
    (cfg : RelayConfig) (protocol : Protocol) (st : AppState) :
    route cfg request protocol st = route cfg request' protocol st := by
  have hapi : isApiHost cfg request = isApiHost cfg request' := by
    unfold isApiHost eqIgnoreAsciiCase
    rw [hhost, hhost']
    cases cfg.httpDomain with
    | none => rfl
    | some domain => simp only [hname]
  unfold route forwardHttpRequest
  rw [hapi, hhost, hhost']
  simp only [hname]

/-! ## Cutting out the name -/

/-- Lower case makes no dot and no colon, and leaves those there are. -/
theorem toLower_eq_iff {c d : Char} (hd : d.toNat < 65) : c.toLower = d ↔ c = d := by
  rcases toLower_cases c with ⟨-, hfixed⟩ | ⟨hupper, hnat⟩
  · rw [hfixed]
  · rw [isUpper_iff] at hupper
    refine iff_of_false (fun h => ?_) (fun h => ?_)
    · rw [h] at hnat
      omega
    · rw [h] at hupper
      omega

theorem hostname_lower (host : String) :
    toAsciiLowercase (hostname host) = hostname (toAsciiLowercase host) := by
  have hdot : ((fun c => c == '.') ∘ Char.toLower) = fun c => c == '.' := by
    funext c
    rw [Function.comp_apply, Bool.eq_iff_iff, beq_iff_eq, beq_iff_eq, toLower_eq_iff (by decide)]
  have hcolon : ((fun c => c != ':') ∘ Char.toLower) = fun c => c != ':' := by
    funext c
    rw [Function.comp_apply, Bool.eq_iff_iff, bne_iff_ne, bne_iff_ne, Ne, Ne,
      toLower_eq_iff (by decide)]
  unfold toAsciiLowercase hostname List.rdropWhile
  simp only [String.toList_ofList]
  rw [← List.map_reverse, List.dropWhile_map, ← List.map_reverse, List.takeWhile_map, hdot, hcolon]

theorem ascii_of_lower_eq {text text' : String} (h : toAsciiLowercase text = toAsciiLowercase text')
    (hascii : Ascii text') : Ascii text := by
  intro c hc
  have hlower : c.toLower.toNat < 128 := by
    refine toAsciiLowercase_ascii hascii c.toLower ?_
    rw [← h, toAsciiLowercase, String.toList_ofList]
    exact List.mem_map_of_mem hc
  rcases toLower_cases c with ⟨-, hfixed⟩ | ⟨-, hnat⟩
  · rwa [hfixed] at hlower
  · omega

/-! ## Spellings -/

/-- A host, perhaps with a dot after it, and perhaps with a port. -/
def spelled (host : String) (dot : Bool) (port : Option String) : String :=
  host ++ (if dot then "." else "") ++ port.elim "" fun p => ":" ++ p

theorem spelled_ascii {host : String} (hascii : Ascii host) {dot : Bool} {port : Option String}
    (hport : ∀ p ∈ port, ∀ c ∈ p.toList, c.isDigit) : Ascii (spelled host dot port) := by
  intro c hc
  simp only [spelled, String.toList_append, List.mem_append] at hc
  rcases hc with (hc | hc) | hc
  · exact hascii c hc
  · cases dot with
    | false => exact absurd hc (by simp)
    | true =>
      obtain rfl : c = '.' := by simpa using hc
      decide
  · cases port with
    | none => exact absurd hc (by simp)
    | some p =>
      rw [Option.elim_some, String.toList_append, List.mem_append] at hc
      rcases hc with hc | hc
      · obtain rfl : c = ':' := by simpa using hc
        decide
      · exact Nat.lt_of_le_of_lt (Char.isDigit_iff_toNat.mp (hport p rfl c hc)).2 (by decide)

section
variable {host : String} (hhost : ':' ∉ host.toList)
include hhost

/-- Without a port every dot at the end is trimmed. -/
theorem hostname_noPort : (hostname host).toList = host.toList.rdropWhile fun c => c == '.' := by
  rw [hostname, String.toList_ofList, beforePort_eq_self_iff]
  intro hmem
  exact hhost ((List.rdropWhile_prefix _ _).subset hmem)

/-- With a port none is. -/
theorem hostname_port {port : String} (hport : ∀ c ∈ port.toList, c.isDigit) :
    hostname (host ++ (":" ++ port)) = host := by
  have hchars : (host ++ (":" ++ port)).toList = host.toList ++ ':' :: port.toList := by simp
  have hlast : (host.toList ++ ':' :: port.toList).getLast? ≠ some '.' := by
    intro hdot
    rw [List.getLast?_append_of_ne_nil _ (List.cons_ne_nil _ _)] at hdot
    rcases List.mem_cons.mp (List.mem_of_getLast? hdot) with heq | hmem
    · exact absurd heq (by decide)
    · exact absurd (hport '.' hmem) (by decide)
  have hbefore := beforePort_eq_self_iff.mpr hhost
  rw [← String.toList_inj, hostname, String.toList_ofList, hchars,
    trimDots_eq_self_iff.mpr hlast,
    List.takeWhile_append_of_pos (List.takeWhile_eq_self_iff.mp hbefore),
    List.takeWhile_cons_of_neg (by decide), List.append_nil]

/-- The host with or without its dot has no colon either. -/
theorem dotted_noPort (dot : Bool) : ':' ∉ (host ++ if dot then "." else "").toList := by
  rw [String.toList_append, List.mem_append]
  rintro (hmem | hmem)
  · exact hhost hmem
  · cases dot <;> exact absurd hmem (by decide)

/-- The dot after a host is not part of the name, where no port follows. -/
theorem hostname_dotted (dot : Bool) :
    hostname (host ++ if dot then "." else "") = hostname host := by
  rw [← String.toList_inj, hostname_noPort (dotted_noPort hhost dot), hostname_noPort hhost]
  cases dot with
  | false => simp
  | true =>
    rw [if_pos rfl, String.toList_append]
    exact List.rdropWhile_concat_pos _ _ _ rfl

/-- **The name of a spelling**: that of the host without a port, and with a port
the host and its dot as they stand. -/
theorem hostname_spelled (dot : Bool) {port : Option String}
    (hport : ∀ p ∈ port, ∀ c ∈ p.toList, c.isDigit) :
    hostname (spelled host dot port) =
      if port.isNone then hostname host else host ++ if dot then "." else "" := by
  unfold spelled
  cases port with
  | none =>
    rw [Option.elim_none, String.append_empty, hostname_dotted hhost]
    rfl
  | some p => exact hostname_port (dotted_noPort hhost dot) (hport p rfl)

end

/-- Cutting out the name leaves a text as it is when it keeps its length. -/
theorem lower_hostname_eq_iff {text : String} :
    toAsciiLowercase text = toAsciiLowercase (hostname text) ↔ hostname text = text := by
  constructor
  · intro h
    have hlength := toAsciiLowercase_length text
    rw [h, toAsciiLowercase_length] at hlength
    exact hostname_of_length hlength
  · intro h
    rw [h]

theorem dotted_getLast (host : String) (dot : Bool) :
    (host ++ if dot then "." else "").toList.getLast? ≠ some '.' ↔
      dot = false ∧ host.toList.getLast? ≠ some '.' := by
  cases dot with
  | false => simp
  | true => simp

/-- **A spelling is as good as the host**, in either case, with or without a dot
after it, with or without a port, exactly when there is no dot before a port:
it is routed alike and the same name is cut out of it, up to case. -/
theorem spelling_invariant_iff {host value : String} {dot : Bool} {port : Option String}
    (hhost : ':' ∉ host.toList) (hascii : Ascii host)
    (hport : ∀ p ∈ port, ∀ c ∈ p.toList, c.isDigit)
    (hvalue : toAsciiLowercase value = toAsciiLowercase (spelled host dot port))
    {request request' : IngressRequest} (hcarries : request.Carries host)
    (hcarries' : request'.Carries value) (cfg : RelayConfig) (protocol : Protocol) (st : AppState) :
    route cfg request protocol st = route cfg request' protocol st ∧
        toAsciiLowercase (hostname value) = toAsciiLowercase (hostname host) ↔
      port = none ∨ dot = false ∧ host.toList.getLast? ≠ some '.' := by
  have hname : toAsciiLowercase (hostname value) =
      toAsciiLowercase (hostname (spelled host dot port)) := by
    rw [hostname_lower, hvalue, ← hostname_lower]
  have hsame : toAsciiLowercase (hostname value) = toAsciiLowercase (hostname host) ↔
      port = none ∨ dot = false ∧ host.toList.getLast? ≠ some '.' := by
    rw [hname, hostname_spelled hhost dot hport]
    cases port with
    | none => simp
    | some p =>
      have hself : hostname (host ++ if dot then "." else "") = (host ++ if dot then "." else "") ↔
          (host ++ if dot then "." else "").toList.getLast? ≠ some '.' :=
        hostname_eq_self_iff.trans (and_iff_right (dotted_noPort hhost dot))
      rw [Option.isNone_some, if_neg (by decide), ← hostname_dotted hhost dot,
        lower_hostname_eq_iff, hself, dotted_getLast]
      simp
  rw [hsame]
  refine and_iff_right_of_imp fun hgood => ?_
  have hascii' : Ascii value := ascii_of_lower_eq hvalue (spelled_ascii hascii hport)
  exact route_eq (hcarries.requestHost hascii) (hcarries'.requestHost hascii')
    (hsame.mpr hgood).symm cfg protocol st

theorem Sample.web_valid : (utf8 "web.apps.test").all headerByte = true := by decide +kernel

/-- In upper case, with a dot after it or with a port, the host leads where it does. -/
theorem spelling_invariant_iff_sample :
    let p := Sample.reached (Sample.publishes "web")
    route Sample.config (Sample.visits "web.apps.test" Sample.web_valid) .http p.shared =
        route Sample.config (Sample.visits "WEB.Apps.test." (by decide +kernel)) .http p.shared ∧
      route Sample.config (Sample.visits "web.apps.test" Sample.web_valid) .http p.shared =
        route Sample.config (Sample.visits "web.APPS.test:443" (by decide +kernel)) .http
          p.shared := by
  have hplain : PlainHost "web.apps.test" := by decide +kernel
  have hdot : toAsciiLowercase "WEB.Apps.test." =
      toAsciiLowercase (spelled "web.apps.test" true none) := by decide +kernel
  have hport : toAsciiLowercase "web.APPS.test:443" =
      toAsciiLowercase (spelled "web.apps.test" false (some "443")) := by decide +kernel
  have hdigits : ∀ p ∈ some "443", ∀ c ∈ p.toList, c.isDigit := by
    rintro _ ⟨⟩
    exact List.all_eq_true.mp (by decide +kernel)
  constructor
  · have hnone : ∀ p ∈ (none : Option String), ∀ c ∈ p.toList, c.isDigit := by
      rintro _ ⟨⟩
    exact ((spelling_invariant_iff hplain.noPort hplain.ascii hnone hdot (.inl rfl) (.inl rfl)
      _ _ _).mpr (.inl rfl)).1
  · exact ((spelling_invariant_iff hplain.noPort hplain.ascii hdigits hport (.inl rfl) (.inl rfl)
      _ _ _).mpr (.inr ⟨rfl, hplain.noDot⟩)).1

/-- With a dot before the port it leads nowhere. -/
theorem spelling_dot_before_port :
    let p := Sample.reached (Sample.publishes "web")
    spelled "web.apps.test" true (some "443") = "web.apps.test.:443" ∧
      route Sample.config (Sample.visits "web.apps.test" Sample.web_valid) .http p.shared =
        .service ⟨1⟩ ∧
      route Sample.config (Sample.visits "web.apps.test.:443" (by decide +kernel)) .http p.shared =
        .noService := by
  decide +kernel

end OngrokRelay
