import OngrokRelay.Domain

/-
  The durable store of control-plane records (`store.rs`).

  A table is a map from printed keys to records: the bytes a record is encoded
  to are taken to be the record. A call into the store either commits its
  transaction or fails and writes nothing; which of the two is the
  environment's choice, an `Outcome` carrying the error's text.

  Correspondence (Rust ↔ Lean):
    `ServiceStore::put`, `delete`, `load_services`  ↔ `put`, `delete`, `loadServices`
    `ServiceStore::put_node`, `load_nodes`          ↔ `putNode`, `loadNodes`
    `ServiceStore::put_metric`                      ↔ `putMetric`
    `ServiceStore::put_event`                       ↔ `putEvent`
    `ServiceStore::put_tokens`                      ↔ `putTokens`
    `load_or_initialize_tokens`                     ↔ `loadOrInitializeTokens`
-/

namespace OngrokRelay

/-- What a fallible call outside the model comes to: done, or an error's text. -/
abbrev Outcome := Except String Unit

/-- A write that takes effect when the call succeeds and not otherwise. -/
def commit {σ : Type} (outcome : Outcome) (write : σ → σ) (s : σ) : σ :=
  match outcome with
  | .ok _ => write s
  | .error _ => s

@[simp] theorem commit_ok {σ : Type} (u : Unit) (write : σ → σ) (s : σ) :
    commit (.ok u) write s = write s := rfl

@[simp] theorem commit_error {σ : Type} (e : String) (write : σ → σ) (s : σ) :
    commit (.error e) write s = s := rfl

/-- `i64::saturating_sub`. -/
def saturatingSub (a b : Int64) : Int64 :=
  Int64.ofInt (max (-2 ^ 63) (min (2 ^ 63 - 1) (a.toInt - b.toInt)))

structure TokenState where
  adminHash : Option TokenHash
  userHash : Option TokenHash
  deriving DecidableEq

namespace TokenState

def authenticate (tokens : TokenState) (tokenHash : TokenHash) : Option TokenKind :=
  if tokens.adminHash = some tokenHash then some .admin
  else if tokens.userHash = some tokenHash then some .user
  else none

def set (tokens : TokenState) (kind : TokenKind) (tokenHash : Option TokenHash) : TokenState :=
  match kind with
  | .admin => { tokens with adminHash := tokenHash }
  | .user => { tokens with userHash := tokenHash }

/-- The hash of one kind. -/
def hashOf (tokens : TokenState) : TokenKind → Option TokenHash
  | .admin => tokens.adminHash
  | .user => tokens.userHash

/-- Only the current hash of a kind authenticates as that kind. -/
theorem hashOf_of_authenticate {tokens : TokenState} {tokenHash : TokenHash} {kind : TokenKind}
    (h : tokens.authenticate tokenHash = some kind) : tokens.hashOf kind = some tokenHash := by
  unfold authenticate at h
  split at h
  · cases h; assumption
  · split at h
    · cases h; assumption
    · cases h

end TokenState

/-- The tables: services, nodes, metrics and events under printed keys, and the
one row of the token table. -/
structure ServiceStore where
  services : BTreeMap String ServiceDefinition := ∅
  nodes : BTreeMap String NodeRecord := ∅
  metrics : BTreeMap String NodeMetric := ∅
  tokens : Option TokenState := none
  events : BTreeMap String ControlEvent := ∅
  deriving DecidableEq

namespace ServiceStore

def metricRetentionMs : Int64 := 3 * 24 * 60 * 60 * 1000

/-- A number printed by `{:020}`: twenty characters, a sign counted among them. -/
def padded (n : Int) : List Char :=
  if n < 0 then '-' :: Numerals.fixedDigits 10 19 n.natAbs
  else Numerals.fixedDigits 10 20 n.natAbs

def metricKey (metric : NodeMetric) : String :=
  String.ofList (metric.nodeId.text.toList ++ ':' :: padded metric.recordedAtUnixMs.toInt ++
    ':' :: padded metric.snapshot.sequence.toNat)

def eventKey (event : ControlEvent) : String :=
  String.ofList (padded (max event.occurredAtUnixMs.toInt 0) ++ ':' :: event.eventId.text.toList)

def loadServices (store : ServiceStore) : BTreeMap ServiceId ServiceDefinition :=
  BTreeMap.ofValues ServiceDefinition.serviceId (BTreeMap.values store.services)

def put (service : ServiceDefinition) (store : ServiceStore) : ServiceStore :=
  { store with services := store.services.insert service.serviceId.text service }

def delete (serviceId : ServiceId) (store : ServiceStore) : ServiceStore :=
  { store with services := store.services.erase serviceId.text }

def loadNodes (store : ServiceStore) : BTreeMap NodeId NodeRecord :=
  BTreeMap.ofValues NodeRecord.nodeId (BTreeMap.values store.nodes)

def putNode (node : NodeRecord) (store : ServiceStore) : ServiceStore :=
  { store with nodes := store.nodes.insert node.nodeId.text node }

/-- The new metric, and in the same transaction the removal of every metric, of
any node, older than the retention before it. -/
def putMetric (metric : NodeMetric) (store : ServiceStore) : ServiceStore :=
  let cutoff := saturatingSub metric.recordedAtUnixMs metricRetentionMs
  { store with
    metrics := (store.metrics.insert (metricKey metric) metric).filter
      fun _ stored => !decide (stored.recordedAtUnixMs < cutoff) }

def putEvent (event : ControlEvent) (store : ServiceStore) : ServiceStore :=
  { store with events := store.events.insert (eventKey event) event }

def putTokens (tokens : TokenState) (store : ServiceStore) : ServiceStore :=
  { store with tokens := some tokens }

/-- The stored tokens, or the configured ones, stored on the first start. -/
def loadOrInitializeTokens (initialAdminHash initialUserHash : TokenHash) (outcome : Outcome)
    (store : ServiceStore) : ServiceStore × Except String TokenState :=
  match store.tokens with
  | some tokens => (store, .ok tokens)
  | none =>
    let tokens : TokenState := ⟨some initialAdminHash, some initialUserHash⟩
    match outcome with
    | .ok _ => (store.putTokens tokens, .ok tokens)
    | .error e => (store, .error e)

/-! A record read back carries the key it is found under. -/

theorem loadServices_some {store : ServiceStore} {serviceId : ServiceId}
    {service : ServiceDefinition} (h : store.loadServices[serviceId]? = some service) :
    service ∈ BTreeMap.values store.services ∧ service.serviceId = serviceId :=
  BTreeMap.ofValues_some h

end ServiceStore
end OngrokRelay
