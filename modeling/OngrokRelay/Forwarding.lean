import OngrokRelay.HopByHop

/-
  The request that goes through the tunnel (`forward_http_request` of
  `ingress.rs` from where it has found the service to `send_request`).

  The host is put into the headers first and the headers are stripped after it,
  of the fields that the visitor's `Connection` headers name. `Host` may be one of
  these, and then the request goes out without any.

  Correspondence (Rust ↔ Lean):
    `forward_http_request`  ↔ `forwardedRequest`
    `str::parse::<Uri>`     ↔ `HttpText.parseUri`
    `uri().path_and_query`  ↔ `ForwardRequest.pathAndQuery`

  1. `forwardedRequest_ok_iff`: when a request goes out, and which.
  2. `forwardHttpRequest_of_forwarded`: it goes to the service that is looked up.
  3. `forwarded_keeps_iff`: it keeps host, target and end-to-end headers exactly
     when no `Connection` header that is text names `Host` and the target is a
     path.
-/

namespace OngrokRelay

open Bytes (utf8)

/-! ## The function -/

/-- A request target by its parts: one without scheme and authority is a path with
its query alone. -/
structure Uri where
  scheme : Option String
  authority : Option String
  pathAndQuery : Option String
  deriving DecidableEq

/-- What the HTTP library makes of text: which texts are field names, and how a
request target is read. -/
structure HttpText where
  fieldName : String → Bool
  parseUri : String → Except String Uri

/-- A path is read as it stands, and so is the asterisk; what begins otherwise has
an authority, if it can be read at all. -/
structure HttpText.ReadsTargets (http : HttpText) : Prop where
  path : ∀ {target uri}, target.toList.head? = some '/' → '#' ∉ target.toList →
    http.parseUri target = .ok uri → uri = ⟨none, none, some target⟩
  asterisk : ∀ {uri}, http.parseUri "*" = .ok uri → uri = ⟨none, none, some "*"⟩
  authority : ∀ {target uri}, target.toList.head? ≠ some '/' → target ≠ "*" →
    http.parseUri target = .ok uri → uri.authority.isSome

/-- A request with the path and query of its URI, which a fragment is not part of. -/
structure ForwardRequest extends IngressRequest where
  pathAndQuery : Option String := some "/"
  noFragment : ∀ target ∈ pathAndQuery, '#' ∉ target.toList

/-- What is handed to `send_request`. -/
structure HandedRequest where
  method : Method
  uri : Uri
  headers : HeaderMap
  body : Except String (List UInt8)

section
variable (http : HttpText) (openClientStream handshake : Outcome)

/-- The service whose client gets the request, with the request. -/
def forwardedRequest (request : ForwardRequest) (protocol : Protocol) (st : AppState) :
    Except String (ServiceId × HandedRequest) :=
  match requestHost request.toIngressRequest with
  | none => .error "HTTP request is missing a Host header"
  | some forwardedHost =>
    match hostedService st.services protocol (toAsciiLowercase (hostname forwardedHost)) with
    | none => .error "no HTTP service is registered for host"
    | some service =>
      match openClientStream with
      | .error e => .error e
      | .ok _ =>
        if (utf8 forwardedHost).all headerByte then
          match http.parseUri (request.pathAndQuery.getD "/") with
          | .error _ => .error "invalid HTTP request target"
          | .ok target =>
            match handshake with
            | .error _ => .error "failed to establish HTTP tunnel connection"
            | .ok _ =>
              .ok (service.serviceId,
                { method := request.request.method
                  uri := target
                  headers := stripHopByHopHeaders http.fieldName
                    (FieldMap.insert request.request.headers "host" (utf8 forwardedHost))
                  body := request.request.body })
        else .error "invalid HTTP host"

end

/-! ## When a request goes out -/

section
variable {http : HttpText} {openClientStream handshake : Outcome} {request : ForwardRequest}
  {protocol : Protocol} {st : AppState} {serviceId : ServiceId} {handed : HandedRequest}

theorem forwardedRequest_ok_iff :
    forwardedRequest http openClientStream handshake request protocol st = .ok (serviceId, handed) ↔
      openClientStream = .ok () ∧ handshake = .ok () ∧
      ∃ forwardedHost service target,
        requestHost request.toIngressRequest = some forwardedHost ∧
        hostedService st.services protocol (toAsciiLowercase (hostname forwardedHost)) =
          some service ∧
        (utf8 forwardedHost).all headerByte = true ∧
        http.parseUri (request.pathAndQuery.getD "/") = .ok target ∧
        serviceId = service.serviceId ∧
        handed = ⟨request.request.method, target, stripHopByHopHeaders http.fieldName
          (FieldMap.insert request.request.headers "host" (utf8 forwardedHost)),
          request.request.body⟩ := by
  constructor
  · intro h
    unfold forwardedRequest at h
    split at h
    · cases h
    · rename_i forwardedHost hhost
      split at h
      · cases h
      · rename_i service hservice
        split at h
        · cases h
        · split at h
          · rename_i hvalid
            split at h
            · cases h
            · rename_i target htarget
              split at h
              · cases h
              · cases h
                exact ⟨rfl, rfl, forwardedHost, service, target, hhost, hservice, hvalid, htarget,
                  rfl, rfl⟩
          · cases h
  · rintro ⟨rfl, rfl, forwardedHost, service, target, hhost, hservice, hvalid, htarget, rfl, rfl⟩
    simp only [forwardedRequest, hhost, hservice, if_pos hvalid, htarget]

/-- The request goes to the service that is looked up for it. -/
theorem forwardHttpRequest_of_forwarded
    (h : forwardedRequest http openClientStream handshake request protocol st =
      .ok (serviceId, handed)) :
    forwardHttpRequest request.toIngressRequest protocol st = .ok serviceId := by
  obtain ⟨-, -, forwardedHost, service, target, hhost, hservice, -, -, rfl, -⟩ :=
    forwardedRequest_ok_iff.mp h
  simp only [forwardHttpRequest, hhost, hservice]

end

/-! ## What it keeps -/

/-- A request target without scheme and authority. -/
def Uri.OriginForm (uri : Uri) (target : String) : Prop := uri = ⟨none, none, some target⟩

/-- One `Host`, which is the forwarded one, the path and query alone as the target,
and all end-to-end headers that no `Connection` header names. -/
structure KeepsRequest (fieldName : String → Bool) (request : ForwardRequest)
    (handed : HandedRequest) : Prop where
  host : ∃ forwardedHost, requestHost request.toIngressRequest = some forwardedHost ∧
    FieldMap.getAll handed.headers "host" = [utf8 forwardedHost]
  target : handed.uri.OriginForm (request.pathAndQuery.getD "/")
  endToEnd : ∀ field, field ∉ hopByHopHeaders → field ≠ "host" →
    ¬Nominated fieldName request.request.headers field →
      FieldMap.getAll handed.headers field = FieldMap.getAll request.request.headers field

section
variable {http : HttpText} {openClientStream handshake : Outcome} {request : ForwardRequest}
  {protocol : Protocol} {st : AppState} {serviceId : ServiceId} {handed : HandedRequest}

/-- The host that is put in does not change what the `Connection` headers name, but
it is subject to it. -/
theorem getAll_stripped (fieldName : String → Bool) (headers : HeaderMap) (host : List UInt8)
    (field : String) :
    FieldMap.getAll (stripHopByHopHeaders fieldName (FieldMap.insert headers "host" host)) field =
      if field ∈ hopByHopHeaders ∨ field ∈ connectionNames fieldName headers then []
      else if field = "host" then [host] else FieldMap.getAll headers field := by
  have hnames : connectionNames fieldName (FieldMap.insert headers "host" host) =
      connectionNames fieldName headers := by
    rw [connectionNames, FieldMap.getAll_insert, if_neg (by decide), connectionNames]
  rw [getAll_strip, hnames, FieldMap.getAll_insert]

/-- Which targets are passed on as they are. -/
theorem originForm_iff (hhttp : http.ReadsTargets) {uri : Uri}
    (h : http.parseUri (request.pathAndQuery.getD "/") = .ok uri) :
    uri.OriginForm (request.pathAndQuery.getD "/") ↔
      ∀ target ∈ request.pathAndQuery, target = "*" ∨ target.toList.head? = some '/' := by
  unfold Uri.OriginForm
  cases htarget : request.pathAndQuery with
  | none =>
    rw [htarget] at h
    refine iff_of_true (hhttp.path (by decide) (by decide) h) ?_
    intro target hmem
    cases hmem
  | some target =>
    rw [htarget, Option.getD_some] at h
    rw [Option.getD_some]
    constructor
    · intro huri other hother
      obtain rfl := Option.some.inj hother
      by_contra hno
      rw [not_or] at hno
      have hauthority := hhttp.authority hno.2 hno.1 h
      rw [huri] at hauthority
      cases hauthority
    · intro hform
      rcases hform target rfl with rfl | hslash
      · exact hhttp.asterisk h
      · exact hhttp.path hslash (request.noFragment target htarget) h

/-- **The request keeps its host**, its target and its end-to-end headers exactly
when no `Connection` header that is text names `Host` and its path and query is a
path, as it is in every request that HTTP allows, or the asterisk. -/
theorem forwarded_keeps_iff (hhttp : http.ReadsTargets)
    (h : forwardedRequest http openClientStream handshake request protocol st =
      .ok (serviceId, handed)) :
    KeepsRequest http.fieldName request handed ↔
      ¬ReadablyNominated http.fieldName request.request.headers "host" ∧
        ∀ target ∈ request.pathAndQuery, target = "*" ∨ target.toList.head? = some '/' := by
  obtain ⟨-, -, forwardedHost, service, target, hhost, -, -, htarget, -, hhanded⟩ :=
    forwardedRequest_ok_iff.mp h
  have hfield (field : String) : FieldMap.getAll handed.headers field =
      if field ∈ hopByHopHeaders ∨ field ∈ connectionNames http.fieldName request.request.headers
      then []
      else if field = "host" then [utf8 forwardedHost]
      else FieldMap.getAll request.request.headers field := by
    have hheaders : handed.headers = stripHopByHopHeaders http.fieldName
        (FieldMap.insert request.request.headers "host" (utf8 forwardedHost)) := by rw [hhanded]
    rw [hheaders, getAll_stripped]
  have huri : handed.uri = target := by rw [hhanded]
  rw [← originForm_iff hhttp htarget, ← huri, ← mem_connectionNames]
  constructor
  · intro hkeeps
    refine ⟨fun hnamed => ?_, hkeeps.target⟩
    obtain ⟨host, -, hget⟩ := hkeeps.host
    rw [hfield, if_pos (.inr hnamed)] at hget
    exact List.cons_ne_nil _ _ hget.symm
  · rintro ⟨hnamed, hform⟩
    refine ⟨⟨forwardedHost, hhost, ?_⟩, hform, fun field hfixed hother hnominated => ?_⟩
    · rw [hfield, if_neg, if_pos rfl]
      rintro (hfixed | hnamed')
      · exact absurd hfixed (by decide)
      · exact hnamed hnamed'
    · rw [hfield, if_neg, if_neg hother]
      rintro (hfixed' | hnamed')
      · exact hfixed hfixed'
      · obtain ⟨value, hvalue, -, hnames⟩ := mem_connectionNames.mp hnamed'
        exact hnominated ⟨value, hvalue, hnames⟩

end

namespace Sample

/-- A fragment is cut off; what is neither a path nor the asterisk is not read. -/
def http : HttpText where
  fieldName := fieldName
  parseUri target :=
    if target = "*" then .ok ⟨none, none, some "*"⟩
    else if target.toList.head? = some '/' then
      .ok ⟨none, none, some (String.ofList (target.toList.takeWhile fun c => c != '#'))⟩
    else .error "invalid uri"

theorem http_readsTargets : http.ReadsTargets where
  path hslash hfragment h := by
    have hstar : ∀ target : String, target.toList.head? = some '/' → target ≠ "*" := by
      rintro _ hslash rfl
      exact absurd hslash (by decide)
    simp only [http, if_neg (hstar _ hslash), if_pos hslash] at h
    rw [← Except.ok.inj h, List.takeWhile_eq_self_iff.mpr, String.ofList_toList]
    intro c hc
    rw [bne_iff_ne]
    rintro rfl
    exact hfragment hc
  asterisk h := (Except.ok.inj h).symm
  authority hslash hstar h := by
    simp only [http, if_neg hstar, if_neg hslash] at h
    cases h

theorem noAuthority_ascii : ∀ host ∈ (none : Option String), ∀ c ∈ host.toList, c.toNat < 128 := by
  rintro _ ⟨⟩

/-- A request for the service called "web" with a `Connection` header. -/
def forwards (connection : String) (valid : (utf8 connection).all headerByte) :
    ForwardRequest where
  request :=
    { method := .get
      path := "/"
      headers := [("host", utf8 "web.apps.test"), ("connection", utf8 connection),
        ("x-end-to-end", utf8 "kept")] }
  valid header h := by
    have hhost : (utf8 "web.apps.test").all headerByte ∧ (utf8 "kept").all headerByte := by
      decide +kernel
    simp only [List.mem_cons, List.not_mem_nil, or_false] at h
    rcases h with rfl | rfl | rfl
    · exact hhost.1
    · exact valid
    · exact hhost.2
  ascii := noAuthority_ascii
  noFragment target h := by
    cases h
    decide

/-- What goes out of it. -/
def handed (connection : String) (valid : (utf8 connection).all headerByte) : HandedRequest where
  method := .get
  uri := ⟨none, none, some "/"⟩
  headers := stripHopByHopHeaders fieldName
    (FieldMap.insert (forwards connection valid).request.headers "host" (utf8 "web.apps.test"))
  body := .ok []

theorem forwards_ok (connection : String) (valid : (utf8 connection).all headerByte) :
    forwardedRequest http (.ok ()) (.ok ()) (forwards connection valid) .http
      (reached (publishes "web")).shared = .ok (⟨1⟩, handed connection valid) := by
  have hhost : headerText (utf8 "web.apps.test") = some "web.apps.test" := by decide +kernel
  have hservice : hostedService (reached (publishes "web")).shared.services .http
      (toAsciiLowercase (hostname "web.apps.test")) = some (published "web") := by decide +kernel
  have htarget : http.parseUri "/" = .ok ⟨none, none, some "/"⟩ := by decide +kernel
  refine forwardedRequest_ok_iff.mpr ⟨rfl, rfl, "web.apps.test", published "web",
    ⟨none, none, some "/"⟩, ?_, hservice, by decide +kernel, htarget, rfl, rfl⟩
  exact congrArg (fun host : Option String => host.or none) hhost

end Sample

theorem forwarded_keeps_iff_sample :
    ∃ handed, forwardedRequest Sample.http (.ok ()) (.ok ())
        (Sample.forwards "keep-alive" (by decide +kernel)) .http
        (Sample.reached (Sample.publishes "web")).shared = .ok (⟨1⟩, handed) ∧
      KeepsRequest Sample.http.fieldName (Sample.forwards "keep-alive" (by decide +kernel))
        handed := by
  refine ⟨_, Sample.forwards_ok "keep-alive" (by decide +kernel), ?_⟩
  refine (forwarded_keeps_iff Sample.http_readsTargets
    (Sample.forwards_ok "keep-alive" (by decide +kernel))).mpr ⟨?_, ?_⟩
  · rw [← mem_connectionNames]
    decide +kernel
  · intro target htarget
    cases htarget
    exact .inr (by decide)

/-- A visitor who names `Host` has the request go out without one. -/
theorem forwarded_without_host :
    ∃ handed, forwardedRequest Sample.http (.ok ()) (.ok ())
        (Sample.forwards "Host" (by decide +kernel)) .http
        (Sample.reached (Sample.publishes "web")).shared = .ok (⟨1⟩, handed) ∧
      FieldMap.getAll handed.headers "host" = [] ∧
      ¬KeepsRequest Sample.http.fieldName (Sample.forwards "Host" (by decide +kernel)) handed := by
  have hgone : FieldMap.getAll (Sample.handed "Host" (by decide +kernel)).headers "host" = [] := by
    decide +kernel
  refine ⟨_, Sample.forwards_ok "Host" (by decide +kernel), hgone, fun hkeeps => ?_⟩
  obtain ⟨host, -, hget⟩ := hkeeps.host
  rw [hgone] at hget
  exact List.cons_ne_nil _ _ hget.symm

end OngrokRelay
