import OngrokRelay.Sessions

/-
  The control API (`api_handler` of `server.rs`).

  A request is what the handler reads of it: method, path, headers and body. A
  reply is its status with the value that is encoded into its JSON body. What
  `serde_json` and `uuid` make of text is a parameter, `Decoders`; randomness
  and the outcomes of reads are in `ApiEnv`.

  Correspondence (Rust ↔ Lean):
    `api_handler`              ↔ `apiHandler`, a definition for each route
    `authenticate`             ↔ `authenticate`
    `token_mutation_request`   ↔ `tokenMutationRequest`
    `generate_token`           ↔ `generateToken`
    `into_definition`          ↔ `ServiceCreateRequest.intoDefinition`
    `recent_events`            ↔ `ServiceStore.recentEvents`
    `metrics_for_node`         ↔ `ServiceStore.metricsForNode`
-/

namespace OngrokRelay

/-! ## Requests and replies -/

inductive Method
  | get
  | post
  | delete
  | patch
  | other (name : String)
  deriving DecidableEq

/-- Header names are in lower case; a body may fail to arrive. -/
structure ApiRequest where
  method : Method
  path : String
  headers : List (String × List UInt8) := []
  body : Except String (List UInt8) := .ok []

inductive ReplyBody
  | plain (body : ApiBody)
  | rotated (kind token : String)
  | revoked (kind : String)
  | events (events : List ControlEvent)
  | nodes (nodes : List NodeRecord)
  | node (node : NodeRecord)
  | metrics (metrics : List NodeMetric)
  | service (service : ServiceDefinition)
  | views (views : List ServiceView)
  | health (status : String)
  | auth (kind : String) (capabilities : List String) (server : String)
  deriving DecidableEq

structure ApiReply where
  status : Nat
  body : ReplyBody
  deriving DecidableEq

def ApiResponse.reply (response : ApiResponse) : ApiReply := ⟨response.status, .plain response.body⟩

/-- An `ErrorResponse`. -/
def errorReply (status : Nat) (error : String) : ApiReply := ⟨status, .plain (.error error)⟩

structure ServiceCreateRequest where
  serviceName : String
  nodeId : NodeId
  protocol : Protocol
  localAddress : String
  publicPort : Option UInt16
  metadata : Metadata

def ServiceCreateRequest.intoDefinition (request : ServiceCreateRequest) (serviceId : ServiceId) :
    ServiceDefinition where
  serviceId := serviceId
  serviceName := request.serviceName
  nodeId := request.nodeId
  protocol := request.protocol
  localAddress := request.localAddress
  publicHost := none
  publicPort := request.publicPort
  metadata := request.metadata

/-- What the handler has decoded for it. -/
structure Decoders where
  tokenMutation : List UInt8 → Option TokenKind
  serviceCreate : List UInt8 → Option ServiceCreateRequest
  servicePatch : List UInt8 → Option (Option Metadata)
  uuid : String → Option ServiceId

/-- The surroundings of one request. -/
structure ApiEnv extends Env where
  rawToken : BitVec 256 := 0
  serviceId : ServiceId := ⟨0⟩
  readEvents : Outcome := .ok ()
  readMetrics : Outcome := .ok ()

def maxApiBodyBytes : Nat := 16 * 1024

/-! ## Tokens -/

/-- `HeaderValue::to_str`: visible ASCII, blanks and tabs. -/
def headerText (value : List UInt8) : Option String :=
  if value.all fun b => 32 ≤ b && b < 127 || b == 9 then
    some (String.ofList (value.map fun b => Char.ofNat b.toNat))
  else none

/-- `str::strip_prefix`. -/
def stripPrefix (lead text : String) : Option String :=
  if lead.toList.isPrefixOf text.toList then
    some (String.ofList (text.toList.drop lead.toList.length))
  else none

/-- `str::strip_suffix`. -/
def stripSuffix (trail text : String) : Option String :=
  if trail.toList.isSuffixOf text.toList then
    some (String.ofList (text.toList.take (text.toList.length - trail.toList.length)))
  else none

/-- The first value of a header. -/
def headerValue (headers : List (String × List UInt8)) (name : String) : Option (List UInt8) :=
  (headers.find? fun header => header.1 == name).map Prod.snd

def authenticate (cfg : RelayConfig) (headers : List (String × List UInt8)) (st : AppState) :
    Option TokenKind :=
  match (headerValue headers "authorization").bind headerText with
  | none => none
  | some raw =>
    match stripPrefix "Bearer " raw with
    | none => none
    | some token => authenticateToken cfg st token

def tokenKindName : TokenKind → String
  | .admin => "admin"
  | .user => "user"

/-- A fresh token, from its random bytes, with its hash. -/
def generateToken (cfg : RelayConfig) (raw : BitVec 256) (kind : TokenKind) : String × TokenHash :=
  let token := "ongrok_" ++ tokenKindName kind ++ "_" ++
    String.ofList (Numerals.fixedDigits 16 64 raw.toNat)
  (token, cfg.hashToken token)

def tokenMutationRequest (decoders : Decoders) (request : ApiRequest) : Except String TokenKind :=
  match request.body with
  | .error _ => .error "failed to read token mutation request"
  | .ok bytes =>
    if maxApiBodyBytes < bytes.length then .error "token mutation request is too large"
    else match decoders.tokenMutation bytes with
      | none => .error "failed to decode token mutation request"
      | some kind => .ok kind

/-- What follows `/v1/nodes/` in a request for a node. -/
def nodeRoute (request : ApiRequest) : Option String :=
  if request.method = .get then stripPrefix "/v1/nodes/" request.path else none

section
variable (cfg : RelayConfig) (decoders : Decoders) (env : ApiEnv) (request : ApiRequest)
  (st : AppState)

/-- `POST /v1/admin/tokens/rotate`, once the request is decoded. -/
def rotateToken (kind : TokenKind) : AppState × ApiReply :=
  let (token, hash) := generateToken cfg env.rawToken kind
  match replaceToken env.toEnv kind (some hash) st with
  | (st, .error _) => (st, errorReply 500 "failed to rotate token")
  | (st, .ok _) =>
    (recordEvent env.toEnv .tokenRotated none none (some kind) st,
      ⟨200, .rotated (tokenKindName kind) token⟩)

/-- `POST /v1/admin/tokens/revoke`, once the request is decoded. -/
def revokeToken (kind : TokenKind) : AppState × ApiReply :=
  match replaceToken env.toEnv kind none st with
  | (st, .error _) => (st, errorReply 500 "failed to revoke token")
  | (st, .ok _) =>
    (recordEvent env.toEnv .tokenRevoked none none (some kind) st,
      ⟨200, .revoked (tokenKindName kind)⟩)

def mutateToken : AppState × ApiReply :=
  if authenticate cfg request.headers st = some .admin then
    match tokenMutationRequest decoders request with
    | .error _ => (st, errorReply 400 "invalid token mutation request")
    | .ok kind =>
      if request.path = "/v1/admin/tokens/rotate" then rotateToken cfg env st kind
      else revokeToken env st kind
  else (st, errorReply 401 "admin bearer token required")

/-! ## Events, nodes and services -/

/-- The newest events first; events of one millisecond stay in key order. -/
def ServiceStore.recentEvents (store : ServiceStore) (limit : Nat) : List ControlEvent :=
  ((BTreeMap.values store.events).mergeSort fun a b =>
    decide (b.occurredAtUnixMs ≤ a.occurredAtUnixMs)).take limit

def ServiceStore.metricsForNode (store : ServiceStore) (nodeId : NodeId) : List NodeMetric :=
  (store.metrics.toList.filter fun entry =>
    (nodeId.text.toList ++ [':']).isPrefixOf entry.1.toList).map Prod.snd

def getEvents : ApiReply :=
  match authenticate cfg request.headers st with
  | none => errorReply 401 "invalid bearer token"
  | some _ =>
    match env.readEvents with
    | .error _ => errorReply 500 "failed to load events"
    | .ok _ => ⟨200, .events (st.store.recentEvents 200)⟩

def getNodes : ApiReply :=
  match authenticate cfg request.headers st with
  | none => errorReply 401 "invalid bearer token"
  | some _ => ⟨200, .nodes (BTreeMap.values st.nodes)⟩

/-- A node, or its metrics when the rest of the path ends in `/metrics`. -/
def getNode (rest : String) : ApiReply :=
  let (nodeKey, metrics) :=
    match stripSuffix "/metrics" rest with
    | some nodeKey => (nodeKey, true)
    | none => (rest, false)
  match authenticate cfg request.headers st with
  | none => errorReply 401 "invalid bearer token"
  | some _ =>
    match (BTreeMap.values st.nodes).find? fun node => node.nodeId.text == nodeKey with
    | none => errorReply 404 "node not found"
    | some node =>
      if metrics then
        match env.readMetrics with
        | .error _ => errorReply 500 "failed to load node metrics"
        | .ok _ => ⟨200, .metrics (st.store.metricsForNode node.nodeId)⟩
      else ⟨200, .node node⟩

def createService : AppState × ApiReply :=
  match authenticate cfg request.headers st with
  | none => (st, errorReply 401 "invalid bearer token")
  | some _ =>
    match request.body with
    | .error _ => (st, errorReply 400 "invalid service request")
    | .ok bytes =>
      if maxApiBodyBytes < bytes.length then (st, errorReply 413 "service request is too large")
      else match decoders.serviceCreate bytes with
        | none => (st, errorReply 400 "invalid service request")
        | some create =>
          match st.nodes[create.nodeId]? with
          | none => (st, errorReply 404 "node not found")
          | some node =>
            if node.status ≠ .online then (st, errorReply 409 "node is offline")
            else
              match registerService cfg env.toEnv (create.intoDefinition env.serviceId)
                  create.nodeId st with
              | (st, .ok service) => (st, ⟨201, .service service⟩)
              | (st, .error _) => (st, errorReply 400 "service could not be created")

def getService (serviceId : ServiceId) : ApiReply :=
  match st.services[serviceId]? with
  | none => errorReply 404 "service not found"
  | some service => ⟨200, .plain (.view (serviceView st.nodes service))⟩

/-- The metadata is decoded and then patched. -/
def patchRequest (serviceId : ServiceId) : AppState × ApiReply :=
  match request.body with
  | .error _ => (st, errorReply 400 "invalid service patch request")
  | .ok bytes =>
    if maxApiBodyBytes < bytes.length then (st, errorReply 413 "service patch request is too large")
    else match decoders.servicePatch bytes with
      | none => (st, errorReply 400 "invalid service patch request")
      | some metadata => (patchService env.toEnv serviceId metadata st).map id ApiResponse.reply

def validateToken : ApiReply :=
  match authenticate cfg request.headers st with
  | some .admin =>
    ⟨200, .auth "admin" ["services:read", "services:write", "nodes:read", "tokens:write"] "ongrok"⟩
  | some .user => ⟨200, .auth "user" ["services:read", "services:write", "nodes:read"] "ongrok"⟩
  | none => errorReply 401 "invalid bearer token"

def getServices : ApiReply :=
  match authenticate cfg request.headers st with
  | none => errorReply 401 "invalid bearer token"
  | some _ => ⟨200, .views ((BTreeMap.values st.services).map (serviceView st.nodes))⟩

/-- What is left once no route above has replied. -/
def remainingRoutes : ApiReply :=
  if request.method = .get ∧ (request.path = "/healthz" ∨ request.path = "/readyz") then
    ⟨200, .health "ok"⟩
  else if request.method = .post ∧ request.path = "/v1/auth/validate" then
    validateToken cfg request st
  else if request.method = .get ∧ request.path = "/v1/services" then getServices cfg request st
  else errorReply 404 "route not found"

/-- The routes under `/v1/services/`; the id is parsed before anyone is
authenticated, and a method that has no route falls through. -/
def serviceRoutes (serviceKey : String) : AppState × ApiReply :=
  match decoders.uuid serviceKey with
  | none => (st, errorReply 400 "invalid service id")
  | some serviceId =>
    match authenticate cfg request.headers st with
    | none => (st, errorReply 401 "invalid bearer token")
    | some _ =>
      match request.method with
      | .get => (st, getService st serviceId)
      | .delete => (deleteService env.toEnv serviceId st).map id ApiResponse.reply
      | .patch => patchRequest decoders env request st serviceId
      | _ => (st, remainingRoutes cfg request st)

def apiHandler : AppState × ApiReply :=
  if request.method = .post ∧ (request.path = "/v1/admin/tokens/rotate" ∨
      request.path = "/v1/admin/tokens/revoke") then mutateToken cfg decoders env request st
  else if request.method = .get ∧ request.path = "/v1/events" then
    (st, getEvents cfg env request st)
  else if request.method = .get ∧ request.path = "/v1/nodes" then (st, getNodes cfg request st)
  else
    match nodeRoute request with
    | some rest => (st, getNode cfg env request st rest)
    | none =>
      if request.method = .post ∧ request.path = "/v1/services" then
        createService cfg decoders env request st
      else
        match stripPrefix "/v1/services/" request.path with
        | some serviceKey => serviceRoutes cfg decoders env request st serviceKey
        | none => (st, remainingRoutes cfg request st)

end

/-! ## Sample requests -/

namespace Sample

def userKind : List UInt8 := "\x7b\"kind\":\"User\"\x7d".toUTF8.toList

/-- The one body that these requests have. -/
def decoders : Decoders where
  tokenMutation bytes := if bytes = userKind then some .user else none
  serviceCreate _ := none
  servicePatch _ := none
  uuid _ := none

/-- A request to rotate or to revoke the user token. -/
def mutates (action token : String) : ApiRequest where
  method := .post
  path := "/v1/admin/tokens/" ++ action
  headers := [("authorization", ("Bearer " ++ token).toUTF8.toList)]
  body := .ok userKind

end Sample

end OngrokRelay
