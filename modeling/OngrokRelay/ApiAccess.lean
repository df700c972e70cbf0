import OngrokRelay.Api
import OngrokRelay.ControlPlane

/-
  What the control API gives away and what it lets through.

  Each route places its own authentication test, some after a part of the path
  has been parsed, none after a look at the state.

  1. `apiHandler_refused`: without a token the reply is a function of the request
     alone, and the state is as it was.
  2. `apiHandler_user`: a request that authenticates as a user touches neither
     tokens nor sessions nor connections.
  3. `api_access`: both, with two servers compared.
-/

namespace OngrokRelay

open Interleaving

/-- What is left of the routes without a token. -/
def remainingRefusals (request : ApiRequest) : ApiReply :=
  if request.method = .get ∧ (request.path = "/healthz" ∨ request.path = "/readyz") then
    ⟨200, .health "ok"⟩
  else if request.method = .post ∧ request.path = "/v1/auth/validate" then
    errorReply 401 "invalid bearer token"
  else if request.method = .get ∧ request.path = "/v1/services" then
    errorReply 401 "invalid bearer token"
  else errorReply 404 "route not found"

/-- The reply to a request without a token. -/
def refusal (decoders : Decoders) (request : ApiRequest) : ApiReply :=
  if request.method = .post ∧ (request.path = "/v1/admin/tokens/rotate" ∨
      request.path = "/v1/admin/tokens/revoke") then errorReply 401 "admin bearer token required"
  else if request.method = .get ∧ request.path = "/v1/events" then
    errorReply 401 "invalid bearer token"
  else if request.method = .get ∧ request.path = "/v1/nodes" then
    errorReply 401 "invalid bearer token"
  else
    match nodeRoute request with
    | some _ => errorReply 401 "invalid bearer token"
    | none =>
      if request.method = .post ∧ request.path = "/v1/services" then
        errorReply 401 "invalid bearer token"
      else
        match stripPrefix "/v1/services/" request.path with
        | some serviceKey =>
          match decoders.uuid serviceKey with
          | none => errorReply 400 "invalid service id"
          | some _ => errorReply 401 "invalid bearer token"
        | none => remainingRefusals request

section
variable {cfg : RelayConfig} {decoders : Decoders} {env : ApiEnv} {request : ApiRequest}
  {st : AppState}

theorem remainingRoutes_refused (h : authenticate cfg request.headers st = none) :
    remainingRoutes cfg request st = remainingRefusals request := by
  simp only [remainingRoutes, remainingRefusals, validateToken, getServices, h]

/-- **Without a token** the reply is that of the request, and nothing changes. -/
theorem apiHandler_refused (h : authenticate cfg request.headers st = none) :
    apiHandler cfg decoders env request st = (st, refusal decoders request) := by
  unfold apiHandler refusal
  split
  · simp only [mutateToken, h, reduceCtorEq, if_false]
  · split
    · simp only [getEvents, h]
    · split
      · simp only [getNodes, h]
      · cases nodeRoute request with
        | some rest => simp only [getNode, h]
        | none =>
          simp only
          split
          · simp only [createService, h]
          · cases stripPrefix "/v1/services/" request.path with
            | none => simp only [remainingRoutes_refused h]
            | some serviceKey =>
              -- the id is parsed first, which does not look at the state
              simp only [serviceRoutes]
              cases decoders.uuid serviceKey with
              | none => simp only
              | some serviceId => simp only [h]

end

/-! ## A user's request -/

/-- Withdrawing, creating and annotating services is all a user can do. -/
theorem registerService_off (cfg : RelayConfig) (env : Env) (service : ServiceDefinition)
    (nodeId : NodeId) (st : AppState) :
    OffDirectory st (registerService cfg env service nodeId st).1 := by
  have h := solo_rel (registerStep cfg nodeId) OffDirectory.refl
    (fun _ _ _ => OffDirectory.trans) env (registerStep_off cfg nodeId env) 6 st (.lock service)
  rwa [registerStep_solo] at h

theorem deleteService_off (cfg : RelayConfig) (env : Env) (serviceId : ServiceId) (st : AppState) :
    OffDirectory st (deleteService env serviceId st).1 := by
  have h := solo_rel (deleteStep serviceId) OffDirectory.refl
    (fun _ _ _ => OffDirectory.trans) env
    (fun st pc => ServiceTask.step_off cfg env st (.delete serviceId pc)) 4 st .remove
  rwa [deleteStep_solo] at h

theorem patchService_off (cfg : RelayConfig) (env : Env) (serviceId : ServiceId)
    (metadata : Option Metadata) (st : AppState) :
    OffDirectory st (patchService env serviceId metadata st).1 := by
  have h := solo_rel (patchStep serviceId) OffDirectory.refl
    (fun _ _ _ => OffDirectory.trans) env
    (fun st pc => ServiceTask.step_off cfg env st (.patch serviceId pc)) 3 st (.lock metadata)
  rwa [patchStep_solo] at h

section
variable {cfg : RelayConfig} {decoders : Decoders} {env : ApiEnv} {request : ApiRequest}
  {st : AppState}

theorem createService_off : OffDirectory st (createService cfg decoders env request st).1 := by
  unfold createService
  split
  · exact .refl st
  · split
    · exact .refl st
    · split
      · exact .refl st
      · split
        · exact .refl st
        · rename_i create _
          split
          · exact .refl st
          · split
            · exact .refl st
            · have h := registerService_off cfg env.toEnv (create.intoDefinition env.serviceId)
                create.nodeId st
              split <;> (rename_i heq; rw [heq] at h; exact h)

theorem patchRequest_off (cfg : RelayConfig) (serviceId : ServiceId) :
    OffDirectory st (patchRequest decoders env request st serviceId).1 := by
  unfold patchRequest
  split
  · exact .refl st
  · split
    · exact .refl st
    · split
      · exact .refl st
      · exact patchService_off cfg env.toEnv serviceId _ st

theorem serviceRoutes_off (serviceKey : String) :
    OffDirectory st (serviceRoutes cfg decoders env request st serviceKey).1 := by
  unfold serviceRoutes
  split
  · exact .refl st
  · split
    · exact .refl st
    · split
      · exact .refl st
      · exact deleteService_off cfg env.toEnv _ st
      · exact patchRequest_off cfg _
      · exact .refl st

/-- **A user's request** touches neither tokens nor sessions nor connections. -/
theorem apiHandler_user (h : authenticate cfg request.headers st = some .user) :
    OffDirectory st (apiHandler cfg decoders env request st).1 := by
  unfold apiHandler
  split
  · -- the token routes ask for an administrator
    simp only [mutateToken, h, Option.some.injEq, reduceCtorEq, if_false]
    exact .refl st
  · split
    · exact .refl st
    · split
      · exact .refl st
      · split
        · exact .refl st
        · split
          · exact createService_off
          · split
            · exact serviceRoutes_off _
            · exact .refl st

end

/-- **The API without a token, and with a user's.** Two servers that both refuse
a request reply alike and stay as they are; a request that authenticates as a
user leaves the tokens, in memory and on disk, and every session. -/
theorem api_access (cfg cfg' : RelayConfig) (decoders : Decoders) (request : ApiRequest)
    (env env' : ApiEnv) (st st' : AppState) :
    (authenticate cfg request.headers st = none → authenticate cfg' request.headers st' = none →
      (apiHandler cfg decoders env request st).2 = (apiHandler cfg' decoders env' request st').2 ∧
      (apiHandler cfg decoders env request st).1 = st ∧
      (apiHandler cfg' decoders env' request st').1 = st') ∧
    (authenticate cfg request.headers st = some .user →
      (apiHandler cfg decoders env request st).1.tokens = st.tokens ∧
      (apiHandler cfg decoders env request st).1.store.tokens = st.store.tokens ∧
      (apiHandler cfg decoders env request st).1.sessions = st.sessions ∧
      (apiHandler cfg decoders env request st).1.closed = st.closed) := by
  constructor
  · intro h h'
    rw [apiHandler_refused h, apiHandler_refused h']
    exact ⟨rfl, rfl, rfl⟩
  · intro h
    have hoff : OffDirectory st (apiHandler cfg decoders env request st).1 := apiHandler_user h
    exact ⟨hoff.tokens, hoff.storedTokens, hoff.sessions, hoff.closed⟩

/-- A guest who asks two servers to revoke the user token, and a user who does. -/
theorem api_access_revoke :
    (apiHandler Sample.config Sample.decoders {} (Sample.mutates "revoke" "guest") Sample.started).2 =
        (apiHandler Sample.config Sample.decoders {} (Sample.mutates "revoke" "guest")
          { tokens := ⟨none, none⟩ }).2 ∧
      (apiHandler Sample.config Sample.decoders {} (Sample.mutates "revoke" "user")
        Sample.started).1.tokens = Sample.started.tokens := by
  have hguest := api_access Sample.config Sample.config Sample.decoders
    (Sample.mutates "revoke" "guest") {} {} Sample.started { tokens := ⟨none, none⟩ }
  have huser := api_access Sample.config Sample.config Sample.decoders
    (Sample.mutates "revoke" "user") {} {} Sample.started Sample.started
  exact ⟨(hguest.1 (by decide +kernel) (by decide +kernel)).1, (huser.2 (by decide +kernel)).1⟩

end OngrokRelay
