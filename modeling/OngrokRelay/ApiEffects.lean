import OngrokRelay.ApiAccess

/-
  What a request to the control API leaves behind, and what a later one sees of it.

  The routes place their tests in different orders, and a refusal may come after a
  part of the work is done. A request is handled here from its first section to its
  last, as `apiHandler` is.

  1. `apiHandler_get`, `apiHandler_refuses`: a read leaves nothing, and a refusal
     leaves nothing unless a registration was under way.
  2. `api_traceless`: so such requests can be left out of any run.
  3. `api_no_escalation`: requests without the admin token, however many, leave the
     tokens, so that they stay what they are.
  4. `api_reads_writes`: a read after a request that has been accepted shows what
     its reply has shown.
-/

namespace OngrokRelay

open Transition

/-- The state after a request. -/
def apiServe (cfg : RelayConfig) (decoders : Decoders) (st : AppState)
    (call : ApiEnv × ApiRequest) : AppState := (apiHandler cfg decoders call.1 call.2 st).1

/-- The request asks for a new service. -/
def ApiRequest.creates (request : ApiRequest) : Bool :=
  request.method = .post && request.path = "/v1/services"

/-- The service that the reply presents as new. -/
def ReplyBody.created : ReplyBody → Option ServiceDefinition
  | .service entry => some entry
  | _ => none

/-- The reply says that the request is at fault. -/
def ApiReply.refuses (reply : ApiReply) : Bool := 400 ≤ reply.status && reply.status < 500

section
variable {cfg : RelayConfig} {decoders : Decoders} {env : ApiEnv} {request : ApiRequest}
  {st : AppState}

/-! ## Requests that leave nothing -/

theorem serviceRoutes_get (h : request.method = .get) (serviceKey : String) :
    (serviceRoutes cfg decoders env request st serviceKey).1 = st := by
  unfold serviceRoutes
  split
  · rfl
  · split
    · rfl
    · rw [h]

/-- **A read** leaves the state as it is, whatever its path. -/
theorem apiHandler_get (h : request.method = .get) :
    (apiHandler cfg decoders env request st).1 = st := by
  have hpost : request.method ≠ .post := by
    rw [h]
    decide
  unfold apiHandler
  rw [if_neg fun hroute => hpost hroute.1]
  split
  · rfl
  · split
    · rfl
    · split
      · rfl
      · rw [if_neg fun hroute => hpost hroute.1]
        split
        · exact serviceRoutes_get h _
        · rfl

theorem mutateToken_refuses (h : (mutateToken cfg decoders env request st).2.refuses) :
    (mutateToken cfg decoders env request st).1 = st := by
  unfold mutateToken at h ⊢
  split
  · rename_i hadmin
    simp only [if_pos hadmin] at h
    split
    · rfl
    · -- what comes after the body is a 200 or a 500
      rename_i kind hkind
      simp only [hkind, rotateToken, revokeToken] at h
      split at h <;> split at h <;> simp [ApiReply.refuses, errorReply] at h
  · rfl

theorem deleteService_refuses {serviceId : ServiceId}
    (h : (deleteService env.toEnv serviceId st).2.reply.refuses) :
    (deleteService env.toEnv serviceId st).1 = st := by
  unfold deleteService at h ⊢
  split
  · rfl
  · rename_i service hservice
    simp only [hservice] at h
    split at h <;> simp [ApiReply.refuses, ApiResponse.reply] at h

theorem patchService_refuses {serviceId : ServiceId} {metadata : Option Metadata}
    (h : (patchService env.toEnv serviceId metadata st).2.reply.refuses) :
    (patchService env.toEnv serviceId metadata st).1 = st := by
  unfold patchService at h ⊢
  split
  · rfl
  · split
    · rfl
    · rename_i metadata _ _ hvalid
      simp only [hvalid] at h
      cases hlocked : patchLocked serviceId metadata st with
      | mk st' updated =>
        cases updated with
        | none =>
          simp only [patchLocked] at hlocked
          split at hlocked <;> cases hlocked
          rfl
        | some updated =>
          simp only [hlocked] at h
          split at h <;> simp [ApiReply.refuses, ApiResponse.reply] at h

theorem serviceRoutes_refuses {serviceKey : String}
    (h : (serviceRoutes cfg decoders env request st serviceKey).2.refuses) :
    (serviceRoutes cfg decoders env request st serviceKey).1 = st := by
  unfold serviceRoutes at h ⊢
  split
  · rfl
  · rename_i serviceId hid
    simp only [hid] at h
    split
    · rfl
    · rename_i hauth
      simp only [hauth] at h
      split
      · rfl
      · rename_i hmethod
        simp only [hmethod] at h
        exact deleteService_refuses h
      · rename_i hmethod
        simp only [hmethod, patchRequest] at h ⊢
        split
        · rfl
        · split
          · rfl
          · rename_i bytes hbody hlength
            simp only [hbody, if_neg hlength] at h
            split
            · rfl
            · rename_i metadata hdecoded
              simp only [hdecoded] at h
              exact patchService_refuses h
      · rfl

/-- **A refusal** leaves the state as it is, unless the request asks for a service: a
registration that fails has taken its place in the directory first. -/
theorem apiHandler_refuses (hcreates : request.creates = false)
    (h : (apiHandler cfg decoders env request st).2.refuses) :
    (apiHandler cfg decoders env request st).1 = st := by
  unfold apiHandler at h ⊢
  split
  · rename_i hroute
    rw [if_pos hroute] at h
    exact mutateToken_refuses h
  · rename_i hmutate
    split
    · rfl
    · rename_i hevents
      split
      · rfl
      · rename_i hnodes
        rw [if_neg hmutate, if_neg hevents, if_neg hnodes] at h
        split
        · rfl
        · rename_i hnode
          simp only [hnode] at h
          split
          · rename_i hcreate
            simp [ApiRequest.creates, hcreate] at hcreates
          · rename_i hcreate
            rw [if_neg hcreate] at h
            split
            · rename_i serviceKey hkey
              simp only [hkey] at h
              exact serviceRoutes_refuses h
            · rfl

end

/-- The request neither reads nor is refused. -/
def apiWrites (cfg : RelayConfig) (decoders : Decoders) (st : AppState)
    (call : ApiEnv × ApiRequest) : Bool :=
  call.2.method ≠ .get &&
    (call.2.creates || !(apiHandler cfg decoders call.1 call.2 st).2.refuses)

/-- The requests of a run that write, each judged in the state it comes to. -/
def apiWritten (cfg : RelayConfig) (decoders : Decoders) :
    AppState → List (ApiEnv × ApiRequest) → List (ApiEnv × ApiRequest)
  | _, [] => []
  | st, call :: calls =>
    if apiWrites cfg decoders st call then
      call :: apiWritten cfg decoders (apiServe cfg decoders st call) calls
    else apiWritten cfg decoders st calls

/-- The replies to the requests of a run that write. -/
def apiReplies (cfg : RelayConfig) (decoders : Decoders) :
    AppState → List (ApiEnv × ApiRequest) → List ApiReply
  | _, [] => []
  | st, call :: calls =>
    let rest := apiReplies cfg decoders (apiServe cfg decoders st call) calls
    if apiWrites cfg decoders st call then (apiHandler cfg decoders call.1 call.2 st).2 :: rest
    else rest

theorem apiServe_of_not_writes {cfg : RelayConfig} {decoders : Decoders} {st : AppState}
    {call : ApiEnv × ApiRequest} (h : apiWrites cfg decoders st call = false) :
    apiServe cfg decoders st call = st := by
  simp only [apiWrites, Bool.and_eq_false_iff, Bool.or_eq_false_iff, Bool.not_eq_false',
    decide_eq_false_iff_not, ne_eq, not_not] at h
  rcases h with hget | ⟨hcreates, hrefuses⟩
  · exact apiHandler_get hget
  · exact apiHandler_refuses hcreates hrefuses

/-- **Reads and refusals leave no trace**: without them a run of requests comes to the
same state, and has the same replies to what it has left. -/
theorem api_traceless (cfg : RelayConfig) (decoders : Decoders) (st : AppState)
    (calls : List (ApiEnv × ApiRequest)) :
    run (apiServe cfg decoders) st (apiWritten cfg decoders st calls) =
      run (apiServe cfg decoders) st calls ∧
    apiReplies cfg decoders st (apiWritten cfg decoders st calls) =
      apiReplies cfg decoders st calls := by
  -- along the requests, each of which is kept or changes nothing
  induction calls generalizing st with
  | nil => exact ⟨rfl, rfl⟩
  | cons call calls ih =>
    cases hwrites : apiWrites cfg decoders st call with
    | true =>
      obtain ⟨hrun, hreplies⟩ := ih (apiServe cfg decoders st call)
      simp only [apiWritten, apiReplies, hwrites, if_true, run_cons, hrun, hreplies, and_self]
    | false =>
      obtain ⟨hrun, hreplies⟩ := ih st
      have hserve : apiServe cfg decoders st call = st := apiServe_of_not_writes hwrites
      simp only [apiWritten, apiReplies, hwrites, Bool.false_eq_true, if_false, run_cons, hserve,
        hrun, hreplies, and_self]

/-! ## What a user cannot become -/

theorem authenticate_tokens {cfg : RelayConfig} {headers : List (String × List UInt8)}
    {st st' : AppState} (h : st'.tokens = st.tokens) :
    authenticate cfg headers st' = authenticate cfg headers st := by
  unfold authenticate authenticateToken
  rw [h]

/-- A request that does not authenticate as an administrator leaves what no directory
operation touches. -/
theorem serve_off {cfg : RelayConfig} {decoders : Decoders} {st : AppState}
    {call : ApiEnv × ApiRequest} (h : authenticate cfg call.2.headers st ≠ some .admin) :
    OffDirectory st (apiServe cfg decoders st call) := by
  unfold apiServe
  cases hauth : authenticate cfg call.2.headers st with
  | none =>
    rw [apiHandler_refused hauth]
    exact .refl st
  | some kind =>
    cases kind with
    | admin => exact absurd hauth h
    | user => exact apiHandler_user hauth

/-- **No escalation.** Whatever requests come without the admin token, and whatever they
are replied, the tokens, the sessions and the node records stay, and so does what each
request authenticates as. -/
theorem api_no_escalation (cfg : RelayConfig) (decoders : Decoders) (st : AppState)
    (calls : List (ApiEnv × ApiRequest))
    (hcalls : ∀ call ∈ calls, authenticate cfg call.2.headers st ≠ some .admin) :
    EveryState (apiServe cfg decoders)
      (fun st' => st'.tokens = st.tokens ∧ st'.store.tokens = st.store.tokens ∧
        st'.sessions = st.sessions ∧ st'.nodes = st.nodes ∧ st'.closed = st.closed ∧
        ∀ headers, authenticate cfg headers st' = authenticate cfg headers st) st calls := by
  have hstep (s : AppState) (call : ApiEnv × ApiRequest) (h : OffDirectory st s)
      (hcall : authenticate cfg call.2.headers st ≠ some .admin) :
      OffDirectory st (apiServe cfg decoders s call) := by
    refine h.trans (serve_off ?_)
    rw [authenticate_tokens h.tokens]
    exact hcall
  refine (everyState_of_everyStep hstep (.refl st) (everyStep_of_labels hcalls)).mono
    fun st' h => ?_
  exact ⟨h.tokens, h.storedTokens, h.sessions, h.nodes, h.closed,
    fun headers => authenticate_tokens h.tokens⟩

namespace Sample

/-- A directory with one service, and a request for it. -/
def oneService : AppState :=
  { started with services := (∅ : Services).insert ⟨9⟩ (service 9 "api" 7 .tcp (some 20000)) }

def serviceKey : String := (⟨9⟩ : ServiceId).text

def keyed : Decoders :=
  { decoders with uuid := fun key => if key = serviceKey then some ⟨9⟩ else none }

def bearer (token : String) : List (String × List UInt8) :=
  [("authorization", ("Bearer " ++ token).toUTF8.toList)]

def deletes : ApiRequest where
  method := .delete
  path := "/v1/services/" ++ serviceKey
  headers := bearer "user"

end Sample

/-- A user who asks to revoke the user token and to rotate it, and deletes a service in
between. -/
theorem api_no_escalation_user :
    let calls : List (ApiEnv × ApiRequest) := [({}, Sample.mutates "revoke" "user"),
      ({}, Sample.deletes), ({}, Sample.mutates "rotate" "user")]
    EveryState (apiServe Sample.config Sample.keyed)
      (fun st' => st'.tokens = Sample.oneService.tokens ∧
        st'.store.tokens = Sample.oneService.store.tokens ∧
        st'.sessions = Sample.oneService.sessions ∧ st'.nodes = Sample.oneService.nodes ∧
        st'.closed = Sample.oneService.closed ∧ ∀ headers,
          authenticate Sample.config headers st' =
            authenticate Sample.config headers Sample.oneService)
      Sample.oneService calls ∧
    Sample.oneService.services.size = 1 ∧
    (run (apiServe Sample.config Sample.keyed) Sample.oneService calls).services.size = 0 := by
  intro calls
  have hstays := api_no_escalation Sample.config Sample.keyed Sample.oneService calls
    fun call hcall => ?_
  · exact ⟨hstays, by decide +kernel, by decide +kernel⟩
  · simp only [calls, List.mem_cons, List.not_mem_nil, or_false] at hcall
    rcases hcall with rfl | rfl | rfl <;> decide +kernel

/-! ## What a read shows of a request before it -/

/-- `GET /v1/services/{key}`. -/
def readService (headers : List (String × List UInt8)) (serviceKey : String) : ApiRequest where
  method := .get
  path := "/v1/services/" ++ serviceKey
  headers := headers

theorem stripPrefix_append (lead text : String) : stripPrefix lead (lead ++ text) = some text := by
  have hprefix : lead.toList.isPrefixOf (lead ++ text).toList = true := by
    rw [String.toList_append]
    exact List.isPrefixOf_iff_prefix.mpr (List.prefix_append _ _)
  rw [stripPrefix, if_pos hprefix, String.toList_append, List.drop_left, String.ofList_toList]

/-- A path under `/v1/services/` has no other route. -/
theorem servicePath_ne (serviceKey : String) :
    "/v1/services/" ++ serviceKey ≠ "/v1/events" ∧ "/v1/services/" ++ serviceKey ≠ "/v1/nodes" ∧
    "/v1/services/" ++ serviceKey ≠ "/v1/services" ∧
    "/v1/services/" ++ serviceKey ≠ "/v1/admin/tokens/rotate" ∧
    "/v1/services/" ++ serviceKey ≠ "/v1/admin/tokens/revoke" ∧
    stripPrefix "/v1/nodes/" ("/v1/services/" ++ serviceKey) = none := by
  refine ⟨?_, ?_, ?_, ?_, ?_, ?_⟩
  all_goals first
    | intro h
      have hlist := congrArg String.toList h
      rw [String.toList_append] at hlist
      simp at hlist
    | rw [stripPrefix, String.toList_append, if_neg]
      simp [List.isPrefixOf]

section
variable {cfg : RelayConfig} {decoders : Decoders} {env : ApiEnv} {request : ApiRequest}
  {st : AppState} {serviceKey : String} {serviceId : ServiceId} {kind : TokenKind}

theorem apiHandler_serviceRoutes (hpath : request.path = "/v1/services/" ++ serviceKey) :
    apiHandler cfg decoders env request st =
      serviceRoutes cfg decoders env request st serviceKey := by
  obtain ⟨hevents, hnodes, hservices, hrotate, hrevoke, hnode⟩ := servicePath_ne serviceKey
  have hnodeRoute : nodeRoute request = none := by
    unfold nodeRoute
    rw [hpath, hnode, ite_self]
  unfold apiHandler
  simp only [hpath, hevents, hnodes, hservices, hrotate, hrevoke, hnodeRoute, or_self, and_false,
    if_false, stripPrefix_append]

/-- What a read of a service shows. -/
theorem apiHandler_readService {headers : List (String × List UInt8)}
    (hkey : decoders.uuid serviceKey = some serviceId)
    (hauth : authenticate cfg headers st = some kind) :
    apiHandler cfg decoders env (readService headers serviceKey) st =
      (st, getService st serviceId) := by
  rw [apiHandler_serviceRoutes rfl, serviceRoutes, hkey]
  simp only [readService, hauth]

/-- A service that has been registered is in the directory. -/
theorem registerService_ok {env : Env} {definition service : ServiceDefinition} {nodeId : NodeId}
    (h : (registerService cfg env definition nodeId st).2 = .ok service) :
    (registerService cfg env definition nodeId st).1.services[service.serviceId]? =
      some service := by
  have hcases := registerService_cases cfg env definition nodeId st
  generalize registerService cfg env definition nodeId st = result at h hcases
  cases hcases with
  | refused _ | notStored _ _ | rolledBack _ _ _ _ _ _ => cases h
  | stored _ _ _ | listening _ _ _ _ _ _ =>
    cases h
    simp [putService, insertTask, insertService]

theorem mutateToken_created : (mutateToken cfg decoders env request st).2.body.created = none := by
  unfold mutateToken
  split
  · split
    · rfl
    · split
      · unfold rotateToken
        simp only
        split <;> rfl
      · unfold revokeToken
        split <;> rfl
  · rfl

theorem getNode_created (rest : String) : (getNode cfg env request st rest).body.created = none := by
  unfold getNode
  simp only
  split
  · rfl
  · split
    · rfl
    · split
      · cases env.readMetrics <;> rfl
      · rfl

theorem remainingRoutes_created : (remainingRoutes cfg request st).body.created = none := by
  unfold remainingRoutes validateToken getServices
  split
  · rfl
  · split
    · split <;> rfl
    · split
      · split <;> rfl
      · rfl

theorem serviceRoutes_created :
    (serviceRoutes cfg decoders env request st serviceKey).2.body.created = none := by
  unfold serviceRoutes
  split
  · rfl
  · split
    · rfl
    · split
      · simp only [getService]
        split <;> rfl
      · rfl
      · unfold patchRequest
        split
        · rfl
        · split
          · rfl
          · split <;> rfl
      · exact remainingRoutes_created

/-- Only a request for a new service is replied to with one. -/
theorem apiHandler_created {service : ServiceDefinition}
    (h : (apiHandler cfg decoders env request st).2.body = .service service) :
    apiHandler cfg decoders env request st = createService cfg decoders env request st := by
  have hcreated : (apiHandler cfg decoders env request st).2.body.created = some service := by
    rw [h]
    rfl
  unfold apiHandler at hcreated ⊢
  split
  · rename_i hroute
    rw [if_pos hroute, mutateToken_created] at hcreated
    cases hcreated
  · rename_i hmutate
    rw [if_neg hmutate] at hcreated
    split
    · rename_i hroute
      rw [if_pos hroute] at hcreated
      simp only [getEvents] at hcreated
      split at hcreated
      · cases hcreated
      · split at hcreated <;> cases hcreated
    · rename_i hevents
      rw [if_neg hevents] at hcreated
      split
      · rename_i hroute
        rw [if_pos hroute] at hcreated
        simp only [getNodes] at hcreated
        split at hcreated <;> cases hcreated
      · rename_i hnodes
        rw [if_neg hnodes] at hcreated
        split
        · rename_i rest hrest
          simp only [hrest, getNode_created, reduceCtorEq] at hcreated
        · rename_i hrest
          simp only [hrest] at hcreated
          split
          · rfl
          · rename_i hcreate
            rw [if_neg hcreate] at hcreated
            split at hcreated
            · rw [serviceRoutes_created] at hcreated
              cases hcreated
            · rw [remainingRoutes_created] at hcreated
              cases hcreated

theorem createService_ok {service : ServiceDefinition}
    (h : (createService cfg decoders env request st).2.body = .service service) :
    (createService cfg decoders env request st).1.services[service.serviceId]? = some service := by
  unfold createService at h ⊢
  split
  · rename_i hauth
    simp only [hauth] at h
    cases h
  · rename_i kind hauth
    simp only [hauth] at h
    split
    · rename_i e hbody
      simp only [hbody] at h
      cases h
    · rename_i bytes hbody
      simp only [hbody] at h
      split
      · rename_i hlength
        rw [if_pos hlength] at h
        cases h
      · rename_i hlength
        rw [if_neg hlength] at h
        split
        · rename_i hdecoded
          simp only [hdecoded] at h
          cases h
        · rename_i create hdecoded
          simp only [hdecoded] at h
          split
          · rename_i hnode
            simp only [hnode] at h
            cases h
          · rename_i node hnode
            simp only [hnode] at h
            split
            · rename_i hstatus
              rw [if_pos hstatus] at h
              cases h
            · rename_i hstatus
              rw [if_neg hstatus] at h
              split
              · rename_i st' registered hregister
                simp only [hregister] at h
                cases h
                have hok := congrArg Prod.snd hregister
                have hservice := registerService_ok hok
                rwa [hregister] at hservice
              · rename_i st' e hregister
                simp only [hregister] at h
                cases h

theorem deleteService_deleted {d : ServiceId}
    (h : (deleteService env.toEnv serviceId st).2 = ⟨200, .deleted d⟩) :
    (deleteService env.toEnv serviceId st).1.services[serviceId]? = none := by
  unfold deleteService at h ⊢
  split
  · rename_i hservice
    exact hservice
  · rename_i service hservice
    simp only [hservice] at h
    split
    · rename_i e hdelete
      simp only [hdelete] at h
      cases h
    · simp [deleteRow, abortTask, removeService]

theorem patchService_view {metadata : Option Metadata} {v : ServiceView}
    (h : (patchService env.toEnv serviceId metadata st).2 = ⟨200, .view v⟩) :
    getService (patchService env.toEnv serviceId metadata st).1 serviceId =
      ⟨200, .plain (.view v)⟩ := by
  unfold patchService at h ⊢
  split
  · cases h
  · rename_i metadata
    simp only at h
    split
    · rename_i e hvalid
      simp only [hvalid] at h
      cases h
    · rename_i hvalid
      simp only [hvalid] at h
      cases hservice : st.services[serviceId]? with
      | none =>
        simp only [patchLocked, hservice] at h
        cases h
      | some service =>
        simp only [patchLocked, hservice] at h ⊢
        split
        · rename_i e hput
          simp only [hput] at h
          cases h
        · rename_i hput
          simp only [hput] at h
          cases h
          simp [getService, putService]

/-- What an accepted deletion leaves of the service. -/
theorem serviceRoutes_deleted (hkey : decoders.uuid serviceKey = some serviceId)
    (hmethod : request.method = .delete) {deleted : ServiceId}
    (h : (serviceRoutes cfg decoders env request st serviceKey).2 =
      ⟨200, .plain (.deleted deleted)⟩) :
    (serviceRoutes cfg decoders env request st serviceKey).1.services[serviceId]? = none := by
  unfold serviceRoutes at h ⊢
  simp only [hkey, hmethod] at h ⊢
  split
  · rename_i hauth
    simp only [hauth] at h
    cases h
  · rename_i kind hauth
    simp only [hauth] at h
    refine deleteService_deleted (d := deleted) ?_
    cases hresponse : (deleteService env.toEnv serviceId st).2
    simp only [ApiResponse.reply, Prod.map_snd, hresponse, ApiReply.mk.injEq,
      ReplyBody.plain.injEq] at h
    rw [h.1, h.2]

/-- What an accepted patch leaves of the service. -/
theorem serviceRoutes_patched (hkey : decoders.uuid serviceKey = some serviceId)
    (hmethod : request.method = .patch) {view : ServiceView}
    (h : (serviceRoutes cfg decoders env request st serviceKey).2 = ⟨200, .plain (.view view)⟩) :
    getService (serviceRoutes cfg decoders env request st serviceKey).1 serviceId =
      ⟨200, .plain (.view view)⟩ := by
  unfold serviceRoutes at h ⊢
  simp only [hkey, hmethod] at h ⊢
  split
  · rename_i hauth
    simp only [hauth] at h
    cases h
  · rename_i kind hauth
    simp only [hauth, patchRequest] at h ⊢
    split
    · rename_i e hbody
      simp only [hbody] at h
      cases h
    · rename_i bytes hbody
      simp only [hbody] at h
      split
      · rename_i hlength
        rw [if_pos hlength] at h
        cases h
      · rename_i hlength
        rw [if_neg hlength] at h
        split
        · rename_i hdecoded
          simp only [hdecoded] at h
          cases h
        · rename_i metadata hdecoded
          simp only [hdecoded] at h
          refine patchService_view (v := view) ?_
          cases hresponse : (patchService env.toEnv serviceId metadata st).2
          simp only [ApiResponse.reply, Prod.map_snd, hresponse, ApiReply.mk.injEq,
            ReplyBody.plain.injEq] at h
          rw [h.1, h.2]

end

/-- **A read shows what was acknowledged.** After a request that has been replied to with a
new service, with a patched one, or with a deletion, a read of the service by anyone with
a token shows that service, that view, and no service. -/
theorem api_reads_writes (cfg : RelayConfig) (decoders : Decoders) (st : AppState)
    (env env' : ApiEnv) (request : ApiRequest) (headers : List (String × List UInt8))
    (serviceKey : String) (serviceId : ServiceId)
    (hkey : decoders.uuid serviceKey = some serviceId)
    (hauth : authenticate cfg headers st ≠ none) :
    let served := apiHandler cfg decoders env request st
    let shown := (apiHandler cfg decoders env' (readService headers serviceKey) served.1).2
    (∀ service, served.2.body = .service service → service.serviceId = serviceId →
      shown = ⟨200, .plain (.view (serviceView st.nodes service))⟩) ∧
    (request.path = "/v1/services/" ++ serviceKey → request.method = .patch → ∀ view,
      served.2 = ⟨200, .plain (.view view)⟩ → shown = ⟨200, .plain (.view view)⟩) ∧
    (request.path = "/v1/services/" ++ serviceKey → request.method = .delete → ∀ deleted,
      served.2 = ⟨200, .plain (.deleted deleted)⟩ → shown = errorReply 404 "service not found") := by
  intro served shown
  obtain ⟨kind, hkind⟩ := Option.ne_none_iff_exists'.mp hauth
  have hshown (h : OffDirectory st served.1) : shown = getService served.1 serviceId := by
    have hsame : authenticate cfg headers served.1 = some kind := by
      rw [authenticate_tokens h.tokens, hkind]
    exact congrArg Prod.snd (apiHandler_readService hkey hsame)
  refine ⟨fun service hservice hid => ?_, fun hpath hmethod view hview => ?_,
    fun hpath hmethod deleted hdeleted => ?_⟩
  · have hroute : served = createService cfg decoders env request st := apiHandler_created hservice
    have hoff : OffDirectory st served.1 := hroute ▸ createService_off
    rw [hroute] at hservice
    have hstored : served.1.services[serviceId]? = some service := by
      rw [hroute, ← hid]
      exact createService_ok hservice
    rw [hshown hoff, getService, hstored, hoff.nodes]
  · have hroute : served = serviceRoutes cfg decoders env request st serviceKey :=
      apiHandler_serviceRoutes hpath
    have hoff : OffDirectory st served.1 := hroute ▸ serviceRoutes_off serviceKey
    rw [hshown hoff, hroute]
    exact serviceRoutes_patched hkey hmethod (hroute ▸ hview)
  · have hroute : served = serviceRoutes cfg decoders env request st serviceKey :=
      apiHandler_serviceRoutes hpath
    have hoff : OffDirectory st served.1 := hroute ▸ serviceRoutes_off serviceKey
    rw [hshown hoff, hroute, getService, serviceRoutes_deleted hkey hmethod (hroute ▸ hdeleted)]

/-- A service that a user deletes, and that an administrator then asks for. -/
theorem api_reads_writes_deleted :
    (apiHandler Sample.config Sample.keyed {} Sample.deletes Sample.oneService).2 =
        ⟨200, .plain (.deleted ⟨9⟩)⟩ ∧
      (apiHandler Sample.config Sample.keyed {}
        (readService (Sample.bearer "admin") Sample.serviceKey)
        (apiHandler Sample.config Sample.keyed {} Sample.deletes Sample.oneService).1).2 =
        errorReply 404 "service not found" := by
  have hdeleted : (apiHandler Sample.config Sample.keyed {} Sample.deletes Sample.oneService).2 =
      ⟨200, .plain (.deleted ⟨9⟩)⟩ := by decide +kernel
  have hreads := api_reads_writes Sample.config Sample.keyed Sample.oneService {} {} Sample.deletes
    (Sample.bearer "admin") Sample.serviceKey ⟨9⟩ (by decide +kernel) (by decide +kernel)
  exact ⟨hdeleted, hreads.2.2 rfl rfl ⟨9⟩ hdeleted⟩

end OngrokRelay
