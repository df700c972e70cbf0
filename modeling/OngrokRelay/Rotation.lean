import OngrokRelay.Api
import OngrokRelay.ControlPlane

/-
  What a rotation that fails leaves of the token it was to replace.

  `replace_token` writes the new hash first and then one record for each node
  whose session it has disconnected. A record that the store refuses fails the
  call, whose new token nobody gets to see.

  1. `Reached.tokensStored`: the durable token record is the one in memory.
  2. `putOffline_ok_iff`, `markAllOffline_ids`: when the writes after the first
     one succeed.
  3. `failed_rotation_iff`: a rotation that fails keeps the old token and its
     sessions exactly when it is not one of these writes that has failed.
  4. `failed_rotation_lockout`: one that has.
-/

namespace OngrokRelay

open Interleaving ControlPlane

/-! ## The durable token record -/

/-- The durable token record is the one in memory. -/
def TokensStored (st : AppState) : Prop := st.store.tokens = some st.tokens

/-- The token record is as it was, in memory and in the store. -/
structure TokensKept (st st' : AppState) : Prop where
  memory : st'.tokens = st.tokens
  stored : st'.store.tokens = st.store.tokens

theorem TokensKept.refl (st : AppState) : TokensKept st st := ⟨rfl, rfl⟩

theorem TokensKept.trans {a b c : AppState} (h : TokensKept a b) (h' : TokensKept b c) :
    TokensKept a c := ⟨h'.memory.trans h.memory, h'.stored.trans h.stored⟩

theorem TokensStored.kept {st st' : AppState} (h : TokensStored st) (hkept : TokensKept st st') :
    TokensStored st' := by
  unfold TokensStored
  rw [hkept.stored, hkept.memory]
  exact h

theorem OffDirectory.tokensKept {st st' : AppState} (h : OffDirectory st st') : TokensKept st st' :=
  ⟨h.tokens, h.storedTokens⟩

theorem OffNodes.tokensKept {st st' : AppState} (h : OffNodes st st') : TokensKept st st' :=
  ⟨h.tokens, h.storedTokens⟩

theorem close_tokens (disconnected : List (NodeId × ActiveSession)) (st : AppState) :
    TokensKept st (disconnected.foldl (fun st entry => entry.2.connection.close st) st) := by
  rw [close_eq]
  exact ⟨rfl, rfl⟩

theorem registerNodeStep_tokens (peer : Peer) (transport : TransportKind)
    (clientSession : ClientSession) (kind : TokenKind) (nodeId : NodeId) (env : Env) (st : AppState)
    (pc : RegisterNodePc) :
    TokensKept st (registerNodeStep peer transport clientSession kind nodeId env st pc).1 := by
  cases pc with
  | identity metadata publicKey =>
    simp only [registerNodeStep]
    cases validateNodeIdentity st.nodes nodeId publicKey <;> exact .refl st
  | close replaced metadata publicKey =>
    exact ⟨closeReplaced_tokens replaced st, congrArg _ (closeReplaced_store replaced st)⟩
  | put node =>
    simp only [registerNodeStep]
    split <;> exact (OffNodes.putNode env node st).tokensKept
  | event => exact (OffNodes.recordEvent ..).tokensKept
  | activate metadata publicKey | insertNode node | done result => exact ⟨rfl, rfl⟩

theorem LiveSession.step_tokens (cfg : RelayConfig) (env : Env) (st : AppState) (s : LiveSession) :
    TokensKept st (s.step cfg env st).1 := by
  unfold step
  split
  · exact .refl st
  · exact registerNodeStep_tokens ..
  · exact (registerStep_off cfg s.nodeId env st _).tokensKept
  · exact (unregisterStep_off _ s.nodeId env st _).tokensKept
  · exact (heartbeatStep_off ..).tokensKept
  · exact (cleanUpStep_off ..).tokensKept
  · exact .refl st

/-- Of the sections of a replacement, the first writes both records. -/
theorem replaceStep_tokens {st : AppState} (h : TokensStored st) (kind : TokenKind)
    (hash : Option TokenHash) (env : Env) (pc : ReplacePc) :
    TokensStored (replaceStep kind hash env st pc).1 := by
  cases pc with
  | write =>
    simp only [replaceStep, writeToken]
    cases env.putTokens with
    | error e => exact h
    | ok _ => exact rfl
  | close disconnected => exact h.kept (close_tokens disconnected st)
  | markOffline nodeIds => exact h.kept (OffNodes.markAllOffline nodeIds st).tokensKept
  | put nodes =>
    cases nodes with
    | nil => exact h
    | cons node rest =>
      simp only [replaceStep]
      split <;> exact h.kept (OffNodes.putNode env node st).tokensKept
  | event node rest => exact h.kept (OffNodes.recordEvent ..).tokensKept
  | sweep | done result => exact h

theorem ControlTask.step_tokensStored {st : AppState} (h : TokensStored st) (cfg : RelayConfig)
    (env : Env) (task : ControlTask) : TokensStored (task.step cfg env st).1 := by
  cases task with
  | session task =>
    cases task with
    | live s => exact h.kept (s.step_tokens cfg env st)
    | hello peer transport | auth peer transport | refused peer reason => exact h
  | service task => exact h.kept (task.step_off cfg env st).tokensKept
  | replace kind hash pc => exact replaceStep_tokens h kind hash env pc

theorem start_tokensStored {env : Env} {adminHash userHash : TokenHash} {store : ServiceStore}
    {st : AppState} (h : start env adminHash userHash store = .ok st) : TokensStored st := by
  obtain ⟨store', tokens, _, hload, rfl⟩ := start_spec h
  unfold ServiceStore.loadOrInitializeTokens at hload
  cases htokens : store.tokens with
  | some stored =>
    rw [htokens] at hload
    cases hload
    exact htokens
  | none =>
    rw [htokens] at hload
    cases hput : env.putTokens with
    | error e =>
      rw [hput] at hload
      cases hload
    | ok _ =>
      rw [hput] at hload
      cases hload
      rfl

/-- **The durable token record is the one in memory** in every state reached. -/
theorem ControlPlane.Reached.tokensStored {cfg : RelayConfig} {p : ControlPlane}
    (h : Reached cfg p) : TokensStored p.shared := by
  refine h.invariant (I := fun p => TokensStored p.shared) ?_ fun p e hp => ?_
  · intro env adminHash userHash store st hstart
    exact start_tokensStored hstart
  · rcases p.next_cases cfg e with he | ⟨i, env, task, -, -, he⟩ | ⟨task, -, -, he⟩
    · rw [he]
      exact hp
    · rw [he]
      exact task.step_tokensStored hp cfg env
    · rw [he]
      exact hp

/-! ## The writes after the first -/

/-- A disconnected session of the kind has a node whose record the store refuses. -/
def RefusesOffline (env : Env) (kind : TokenKind) (st : AppState) : Prop :=
  ∃ (nodeId : NodeId) (session : ActiveSession) (node : NodeRecord),
    st.sessions[nodeId]? = some session ∧ session.tokenKind = kind ∧
    st.nodes[nodeId]? = some node ∧ env.putNode node.nodeId ≠ .ok ()

/-- The records are stored when none of them is refused. -/
theorem putOffline_ok_iff (env : Env) (nodes : List NodeRecord) (st : AppState) :
    (putOffline env nodes st).2 = .ok () ↔ ∀ node ∈ nodes, env.putNode node.nodeId = .ok () := by
  induction nodes generalizing st with
  | nil => exact ⟨fun _ node h => (List.not_mem_nil h).elim, fun _ => rfl⟩
  | cons node rest ih =>
    rw [List.forall_mem_cons, putOffline]
    cases env.putNode node.nodeId with
    | error e =>
      constructor
      · intro h
        cases h
      · intro h
        cases h.1
    | ok _ => exact (ih _).trans ⟨fun h => ⟨rfl, h⟩, fun h => h.2⟩

theorem markOffline_nodeId (nodeId other : NodeId) (st : AppState) :
    (markOffline nodeId st).1.nodes[other]?.map NodeRecord.nodeId =
      st.nodes[other]?.map NodeRecord.nodeId := by
  rw [markOffline_get]
  split
  · rw [Option.map_map]
    rfl
  · rfl

/-- The records to store are those of the nodes that have one, under its id. -/
theorem markAllOffline_ids (nodeIds : List NodeId) (st : AppState) :
    (markAllOffline nodeIds st).2.map NodeRecord.nodeId =
      nodeIds.filterMap fun nodeId => st.nodes[nodeId]?.map NodeRecord.nodeId := by
  induction nodeIds generalizing st with
  | nil => rfl
  | cons nodeId rest ih =>
    have hmarked : (markOffline nodeId st).2.toList.map NodeRecord.nodeId =
        (st.nodes[nodeId]?.map NodeRecord.nodeId).toList := by
      unfold markOffline
      cases st.nodes[nodeId]? <;> rfl
    simp only [markAllOffline, List.map_append, hmarked, ih, markOffline_nodeId]
    cases h : st.nodes[nodeId]? with
    | none => simp only [List.filterMap_cons, h, Option.map_none]; rfl
    | some node => simp only [List.filterMap_cons, h, Option.map_some]; rfl

section
variable {env : Env} (kind : TokenKind) (hash : Option TokenHash) (st : AppState)

theorem replaceToken_unwritten {e : String} (h : env.putTokens = .error e) :
    replaceToken env kind hash st = (st, .error e) := by
  simp only [replaceToken, writeToken, h]

/-- Once the new hash is written, no session of the kind is left in the map. -/
theorem replaceToken_sessions (h : env.putTokens = .ok ()) (nodeId : NodeId) :
    (replaceToken env kind hash st).1.sessions[nodeId]? =
      st.sessions[nodeId]?.filter fun session => session.tokenKind != kind := by
  simp only [replaceToken, writeToken, h]
  rw [(putOffline_frame env _ _).1, (markAllOffline_spec _ _).1, (close_frame _ _).2.1,
    disconnectKind_get]

/-- **When a replacement succeeds** whose new hash is written. -/
theorem replaceToken_ok_iff (h : env.putTokens = .ok ()) :
    (replaceToken env kind hash st).2 = .ok () ↔ ¬RefusesOffline env kind st := by
  simp only [replaceToken, writeToken, h]
  -- the records stored are those of the nodes of the sessions swept
  rw [putOffline_ok_iff, ← List.forall_mem_map (P := fun id => env.putNode id = .ok ()),
    markAllOffline_ids]
  simp only [(close_frame _ _).2.2, List.mem_filterMap, List.mem_map, Prod.exists,
    mem_disconnectKind, RefusesOffline]
  constructor
  · intro hall hrefused
    obtain ⟨nodeId, session, node, hsession, hkind, hnode, hput⟩ := hrefused
    have hid : st.nodes[nodeId]?.map NodeRecord.nodeId = some node.nodeId := by
      rw [hnode]
      rfl
    exact hput (hall node.nodeId ⟨nodeId, ⟨nodeId, session, ⟨hsession, hkind⟩, rfl⟩, hid⟩)
  · intro hnone id hid
    obtain ⟨nodeId, ⟨_, session, ⟨hsession, hkind⟩, rfl⟩, hid⟩ := hid
    obtain ⟨node, hnode, rfl⟩ := Option.map_eq_some_iff.mp hid
    by_contra hput
    exact hnone ⟨_, session, node, hsession, hkind, hnode, hput⟩

end

/-! ## The rotate route -/

/-- What was a valid token of the kind is one still, in memory and in the
store, and the sessions of the kind are where they were, unclosed. -/
structure KeepsKind (kind : TokenKind) (st st' : AppState) : Prop where
  memory : ∀ token, st.tokens.authenticate token = some kind →
    st'.tokens.authenticate token = some kind
  durable : ∀ token, st.tokens.authenticate token = some kind →
    ∃ tokens, st'.store.tokens = some tokens ∧ tokens.authenticate token = some kind
  sessions : ∀ (nodeId : NodeId) (session : ActiveSession),
    st.sessions[nodeId]? = some session → session.tokenKind = kind →
    st'.sessions[nodeId]? = some session ∧
      (session.connection ∈ st'.closed → session.connection ∈ st.closed)

theorem TokensStored.keepsKind {st : AppState} (h : TokensStored st) (kind : TokenKind) :
    KeepsKind kind st st where
  memory _ htoken := htoken
  durable _ htoken := ⟨st.tokens, h, htoken⟩
  sessions _ _ hsession _ := ⟨hsession, fun hclosed => hclosed⟩

/-- The reply that hands out the new token. -/
def rotatedReply (cfg : RelayConfig) (env : ApiEnv) (kind : TokenKind) : ApiReply :=
  ⟨200, .rotated (tokenKindName kind) (generateToken cfg env.rawToken kind).1⟩

/-- Unless it hands out a new token, the request keeps the old one. -/
def FailureKeeps (cfg : RelayConfig) (env : ApiEnv) (kind : TokenKind) (st : AppState)
    (result : AppState × ApiReply) : Prop :=
  result.2 ≠ rotatedReply cfg env kind → KeepsKind kind st result.1

section
variable {cfg : RelayConfig} {env : ApiEnv} {kind : TokenKind} {st : AppState}

theorem rotateToken_failed {st' : AppState} {e : String}
    (h : replaceToken env.toEnv kind (some (generateToken cfg env.rawToken kind).2) st =
      (st', .error e)) :
    rotateToken cfg env st kind = (st', errorReply 500 "failed to rotate token") := by
  simp only [rotateToken, generateToken] at h ⊢
  rw [h]

theorem rotateToken_rotated {st' : AppState}
    (h : replaceToken env.toEnv kind (some (generateToken cfg env.rawToken kind).2) st =
      (st', .ok ())) : (rotateToken cfg env st kind).2 = rotatedReply cfg env kind := by
  simp only [rotateToken, rotatedReply, generateToken] at h ⊢
  rw [h]

/-- A rotation fails half-way exactly when a record is refused. -/
theorem rotateToken_keeps_iff (hstored : TokensStored st) :
    FailureKeeps cfg env kind st (rotateToken cfg env st kind) ↔
      ¬(env.putTokens = .ok () ∧ RefusesOffline env.toEnv kind st) := by
  cases hput : env.putTokens with
  | error e =>
    refine iff_of_true (fun _ => ?_) fun h => by cases h.1
    rw [rotateToken_failed (replaceToken_unwritten kind _ st hput)]
    exact hstored.keepsKind kind
  | ok _ =>
    simp only [true_and]
    cases hreplaced : replaceToken env.toEnv kind
      (some (generateToken cfg env.rawToken kind).2) st with
    | mk st' result =>
      have hok := replaceToken_ok_iff kind (some (generateToken cfg env.rawToken kind).2) st hput
      have hsessions :=
        replaceToken_sessions kind (some (generateToken cfg env.rawToken kind).2) st hput
      rw [hreplaced] at hok hsessions
      cases result with
      | ok _ =>
        exact iff_of_true (fun hreply => absurd (rotateToken_rotated hreplaced) hreply) (hok.mp rfl)
      | error e =>
        have hrefused : RefusesOffline env.toEnv kind st := by
          by_contra hnot
          cases hok.mpr hnot
        refine iff_of_false (fun hkeeps => ?_) (fun hnot => hnot hrefused)
        rw [FailureKeeps, rotateToken_failed hreplaced] at hkeeps
        have hkeeps := hkeeps (by simp [errorReply, rotatedReply])
        -- a session of the kind has been disconnected
        obtain ⟨nodeId, session, node, hsession, hsessionKind, -, -⟩ := hrefused
        have hgone := hsessions nodeId
        rw [(hkeeps.sessions nodeId session hsession hsessionKind).1, hsession] at hgone
        obtain ⟨-, hother⟩ := Option.filter_eq_some_iff.mp hgone.symm
        simp [hsessionKind] at hother

end

/-- **A rotation that fails** keeps the token it was to replace, in every state
reached, exactly when it has not failed by a refused record of a node that it
has disconnected, after the new hash was written. -/
theorem failed_rotation_iff {cfg : RelayConfig} {p : ControlPlane} (hreached : Reached cfg p)
    (decoders : Decoders) (env : ApiEnv) {request : ApiRequest} {kind : TokenKind}
    (hmethod : request.method = .post) (hpath : request.path = "/v1/admin/tokens/rotate")
    (hkind : ∀ asked, tokenMutationRequest decoders request = .ok asked → asked = kind) :
    FailureKeeps cfg env kind p.shared (apiHandler cfg decoders env request p.shared) ↔
      ¬(authenticate cfg request.headers p.shared = some .admin ∧
        tokenMutationRequest decoders request = .ok kind ∧
        env.putTokens = .ok () ∧ RefusesOffline env.toEnv kind p.shared) := by
  have hstored := hreached.tokensStored
  have hroute : apiHandler cfg decoders env request p.shared =
      mutateToken cfg decoders env request p.shared := by
    rw [apiHandler, if_pos ⟨hmethod, .inl hpath⟩]
  rw [hroute, mutateToken]
  split
  · rename_i hadmin
    cases hrequest : tokenMutationRequest decoders request with
    | error e =>
      exact iff_of_true (fun _ => hstored.keepsKind kind) fun h => by cases h.2.1
    | ok asked =>
      obtain rfl := hkind asked hrequest
      simp only
      rw [rotateToken_keeps_iff hstored]
      exact ⟨fun hnot h => hnot h.2.2, fun hnot h => hnot ⟨hadmin, trivial, h⟩⟩
  · rename_i hadmin
    exact iff_of_true (fun _ => hstored.keepsKind kind) fun h => hadmin h.1

theorem Sample.mutates_kind {action token : String} {asked : TokenKind}
    (h : tokenMutationRequest Sample.decoders (Sample.mutates action token) = .ok asked) :
    asked = .user := by
  have hlength : ¬maxApiBodyBytes < Sample.userKind.length := by decide +kernel
  simp only [tokenMutationRequest, Sample.mutates, if_neg hlength, Sample.decoders, if_true] at h
  cases h
  rfl

/-- A rotation that the store lets through. -/
theorem failed_rotation_stored :
    FailureKeeps Sample.config {} .user Sample.started
      (apiHandler Sample.config Sample.decoders {} (Sample.mutates "rotate" "admin")
        Sample.started) := by
  refine (failed_rotation_iff (Sample.reached_ok []) Sample.decoders {} rfl (by decide)
    fun asked h => Sample.mutates_kind h).mpr fun hfails => ?_
  obtain ⟨-, -, -, nodeId, session, node, -, -, -, hput⟩ := hfails
  exact hput rfl

/-- A user session is connected; the user token is rotated, and the store that
has taken the new hash refuses the record of the node. The reply is a failure
without a token, the old one is gone, and so is the session. -/
theorem failed_rotation_lockout :
    let p := Sample.reached (Sample.connects 0 1 7 ++ Sample.registers 0)
    let env : ApiEnv := { putNode := fun _ => .error "failed to persist node" }
    let result :=
      apiHandler Sample.config Sample.decoders env (Sample.mutates "rotate" "admin") p.shared
    Reached Sample.config p ∧
      result.2 = errorReply 500 "failed to rotate token" ∧
      authenticateToken Sample.config p.shared "user" = some .user ∧
      authenticateToken Sample.config result.1 "user" = none ∧
      p.shared.sessions[(⟨7⟩ : NodeId)]?.map ActiveSession.tokenKind = some .user ∧
      result.1.sessions[(⟨7⟩ : NodeId)]? = none ∧
      ¬FailureKeeps Sample.config env .user p.shared result := by
  intro p env result
  have hreply : result.2 = errorReply 500 "failed to rotate token" := by decide +kernel
  have hold : authenticateToken Sample.config p.shared "user" = some .user := by decide +kernel
  have hnew : authenticateToken Sample.config result.1 "user" = none := by decide +kernel
  refine ⟨Sample.reached_ok _, hreply, hold, hnew, by decide +kernel, by decide +kernel, ?_⟩
  intro hkeeps
  have hkept := (hkeeps (by rw [hreply]; simp [errorReply, rotatedReply])).memory _ hold
  rw [authenticateToken, hkept] at hnew
  cases hnew

end OngrokRelay
