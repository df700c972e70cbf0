import OngrokRelay.Rotation

/-
  Tokens over the whole life of a database.

  A server runs, is stopped at any point of any task and is started again, each
  time with configured tokens of its own. What has been a hash of the token
  record, or has been generated, is `seen`; a rotation is fresh when the hash it
  generates is none of these.

  1. `tokenChange`: all that one event can do to the token record and to the
     hashes that rotations have still to write.
  2. `TokenHistory.Sound`: no rotation in progress has a hash that the record holds
     or that another one has.
  3. `TokenHistory.Dead`: neither the record nor a rotation in progress has the hash.
  4. `replaced_stay_dead`: the record is the one in memory in every state of every
     run, and a hash that a committed write replaces is dead in every later one.
-/

namespace OngrokRelay

open Interleaving Transition ControlPlane

/-! ## Starts and stops -/

/-- A database with the server that runs on it, when one does. -/
inductive Server
  | stopped (store : ServiceStore)
  | running (p : ControlPlane)

namespace Server

def store : Server → ServiceStore
  | stopped store => store
  | running p => p.shared.store

/-- The tokens the server authenticates with. -/
def tokens : Server → Option TokenState
  | stopped _ => none
  | running p => some p.shared.tokens

def tasks : Server → List ControlTask
  | stopped _ => []
  | running p => p.tasks

end Server

/-- A section of a task or a new task, or a start, which ends the process before
it wherever its tasks are. -/
inductive ServerEvent
  | control (e : Event Env ControlTask)
  | restart (env : Env) (initialAdminHash initialUserHash : TokenHash)

def Server.next (cfg : RelayConfig) : Server → ServerEvent → Server
  | running p, .control e => running (p.next cfg e)
  | stopped store, .control _ => stopped store
  | s, .restart env initialAdminHash initialUserHash =>
    match start env initialAdminHash initialUserHash s.store with
    | .ok st => running ⟨st, []⟩
    -- a start that fails later has stored the tokens it was configured with
    | .error _ =>
      stopped (s.store.loadOrInitializeTokens initialAdminHash initialUserHash env.putTokens).1

/-- The hash of the token that a rotation generates as it begins. -/
def Server.generated : Server → ServerEvent → Option TokenHash
  | running _, .control (.spawn (.replace _ hash .write)) => hash
  | _, _ => none

/-- The kind and the hash of a `put_tokens` that the task's next section commits. -/
def ControlTask.commits (env : Env) : ControlTask → Option (TokenKind × Option TokenHash)
  | .replace kind hash .write =>
    match env.putTokens with
    | .ok _ => some (kind, hash)
    | .error _ => none
  | _ => none

/-- The hash that a committed `put_tokens` replaces, with its kind. -/
def Server.replaces : Server → ServerEvent → Option (TokenKind × TokenHash)
  | running p, .control (.run i env) =>
    match p.tasks[i]?.bind (ControlTask.commits env) with
    | some (kind, _) => (p.shared.tokens.hashOf kind).map fun replaced => (kind, replaced)
    | none => none
  | _, _ => none

def TokenState.hashes (tokens : TokenState) : List TokenHash :=
  tokens.adminHash.toList ++ tokens.userHash.toList

/-- The hashes of the token record. -/
def ServiceStore.hashes (store : ServiceStore) : List TokenHash :=
  store.tokens.toList.flatMap TokenState.hashes

/-- A server with every hash that its token record has held or that it has generated. -/
structure TokenHistory where
  server : Server
  seen : List TokenHash

namespace TokenHistory

def begin (store : ServiceStore) : TokenHistory := ⟨.stopped store, store.hashes⟩

def next (cfg : RelayConfig) (h : TokenHistory) (e : ServerEvent) : TokenHistory :=
  let server := h.server.next cfg e
  ⟨server, (h.server.generated e).toList ++ server.store.hashes ++ h.seen⟩

/-- A generated token repeats no earlier hash. -/
def Fresh (h : TokenHistory) (e : ServerEvent) : Prop :=
  ∀ hash ∈ (h.server.generated e).toList, hash ∉ h.seen

instance (h : TokenHistory) (e : ServerEvent) : Decidable (h.Fresh e) :=
  List.decidableBAll (fun hash => hash ∉ h.seen) (h.server.generated e).toList

end TokenHistory

/-! ## What one event does to the tokens -/

/-- The task is a rotation that has still to write this hash. -/
def ControlTask.Writes (hash : TokenHash) (task : ControlTask) : Prop :=
  ∃ kind, task = .replace kind (some hash) .write

theorem TokenState.mem_hashes {tokens : TokenState} {hash : TokenHash} :
    hash ∈ tokens.hashes ↔ ∃ kind, tokens.hashOf kind = some hash := by
  simp only [hashes, List.mem_append, Option.mem_toList]
  constructor
  · rintro (h | h)
    · exact ⟨.admin, h⟩
    · exact ⟨.user, h⟩
  · rintro ⟨_ | _, h⟩
    · exact .inl h
    · exact .inr h

theorem ServiceStore.mem_hashes {store : ServiceStore} {hash : TokenHash} :
    hash ∈ store.hashes ↔ ∃ tokens, store.tokens = some tokens ∧ hash ∈ tokens.hashes := by
  simp only [hashes, List.mem_flatMap, Option.mem_toList]

theorem TokenState.hashOf_set (tokens : TokenState) (kind other : TokenKind)
    (hash : Option TokenHash) : (tokens.set kind hash).hashOf other =
      if other = kind then hash else tokens.hashOf other := by
  cases kind <;> cases other <;> rfl

/-- All that one event can do to the token record and to the rotations in
progress. -/
inductive TokenChange (s s' : Server) (generated : Option TokenHash)
    (replaces : Option (TokenKind × TokenHash)) : Prop
  | kept (none_replaced : replaces = none) (record : s'.store.tokens = s.store.tokens)
      (pending : ∀ (i : Nat) (task : ControlTask) (hash : TokenHash), s'.tasks[i]? = some task →
        task.Writes hash → s.tasks[i]? = some task ∨ (i = s.tasks.length ∧ generated = some hash))
  | written (i : Nat) (kind : TokenKind) (hash : Option TokenHash) (tokens : TokenState)
      (task : s.tasks[i]? = some (.replace kind hash .write))
      (replaced : replaces = (tokens.hashOf kind).map fun old => (kind, old))
      (before : s.store.tokens = some tokens)
      (after : s'.store.tokens = some (tokens.set kind hash))
      (pending : ∀ (j : Nat) (task : ControlTask) (hash : TokenHash), s'.tasks[j]? = some task →
        task.Writes hash → i ≠ j ∧ s.tasks[j]? = some task)
  | restarted (none_replaced : replaces = none)
      (record : s.store.tokens = none ∨ s'.store.tokens = s.store.tokens)
      (pending : s'.tasks = [])

/-- A section leaves no rotation that has still to write. -/
theorem ControlTask.step_writes (cfg : RelayConfig) (env : Env) (st : AppState) (task : ControlTask)
    (hash : TokenHash) : ¬(task.step cfg env st).2.Writes hash := by
  rintro ⟨kind, h⟩
  cases task with
  | session task | service task => cases h
  | replace kind' hash' pc =>
    have hpc : (replaceStep kind' hash' env st pc).2 = .write := (ControlTask.replace.inj h).2.2
    cases pc with
    | write =>
      simp only [replaceStep] at hpc
      split at hpc <;> cases hpc
    | put nodes =>
      cases nodes with
      | nil => cases hpc
      | cons node rest =>
        simp only [replaceStep] at hpc
        split at hpc <;> cases hpc
    | sweep | close disconnected | markOffline nodeIds | event node rest | done result => cases hpc

/-- A section that commits no `put_tokens` leaves the token record as it was. -/
theorem ControlTask.step_kept {env : Env} {task : ControlTask} (h : task.commits env = none)
    (cfg : RelayConfig) (st : AppState) : TokensKept st (task.step cfg env st).1 := by
  cases task with
  | session task =>
    cases task with
    | live s => exact s.step_tokens cfg env st
    | hello peer transport | auth peer transport | refused peer reason => exact .refl st
  | service task => exact (task.step_off cfg env st).tokensKept
  | replace kind hash pc =>
    simp only [step, Prod.map_fst, id]
    cases pc with
    | write =>
      simp only [commits] at h
      cases hput : env.putTokens with
      | error e =>
        simp only [replaceStep, writeToken, hput]
        exact .refl st
      | ok _ =>
        rw [hput] at h
        cases h
    | close disconnected => exact close_tokens disconnected st
    | markOffline nodeIds => exact (OffNodes.markAllOffline nodeIds st).tokensKept
    | put nodes =>
      cases nodes with
      | nil => exact .refl st
      | cons node rest =>
        simp only [replaceStep]
        split <;> exact (OffNodes.putNode env node st).tokensKept
    | event node rest => exact (OffNodes.recordEvent ..).tokensKept
    | sweep | done result => exact ⟨rfl, rfl⟩

/-- One that commits sets the hash of its kind, in memory and in the store. -/
theorem ControlTask.step_committed {env : Env} {task : ControlTask} {kind : TokenKind}
    {hash : Option TokenHash} (h : task.commits env = some (kind, hash)) (cfg : RelayConfig)
    (st : AppState) : task = .replace kind hash .write ∧
      (task.step cfg env st).1.store.tokens = some (st.tokens.set kind hash) := by
  unfold commits at h
  split at h
  · split at h
    · rename_i hput
      cases h
      refine ⟨rfl, ?_⟩
      simp only [step, Prod.map_fst, id, replaceStep, writeToken, hput]
      rfl
    · cases h
  · cases h

/-- The token record after a start, whether it succeeds or not. -/
theorem loadOrInitialize_record (adminHash userHash : TokenHash) (outcome : Outcome)
    (store : ServiceStore) :
    store.tokens = none ∨
      (store.loadOrInitializeTokens adminHash userHash outcome).1.tokens = store.tokens := by
  unfold ServiceStore.loadOrInitializeTokens
  cases h : store.tokens with
  | none => exact .inl rfl
  | some tokens => exact .inr h

theorem start_record {env : Env} {adminHash userHash : TokenHash} {store : ServiceStore}
    {st : AppState} (h : start env adminHash userHash store = .ok st) :
    st.store.tokens = (store.loadOrInitializeTokens adminHash userHash env.putTokens).1.tokens := by
  obtain ⟨store', tokens, _, hload, rfl⟩ := start_spec h
  rw [hload]

/-! ## Memory and disk -/

/-- The server authenticates with the durable token record. -/
def Server.Stored (s : Server) : Prop := ∀ tokens, s.tokens = some tokens → s.store.tokens = some tokens

theorem Server.Stored.next {s : Server} (h : s.Stored) (cfg : RelayConfig) (e : ServerEvent) :
    (s.next cfg e).Stored := by
  have hrestart (env : Env) (adminHash userHash : TokenHash) :
      (s.next cfg (.restart env adminHash userHash)).Stored := by
    intro tokens htokens
    simp only [Server.next] at htokens ⊢
    split at htokens
    · rename_i st hstart
      cases htokens
      exact start_tokensStored hstart
    · cases htokens
  cases e with
  | restart env adminHash userHash => exact hrestart env adminHash userHash
  | control e =>
    cases s with
    | stopped store => exact h
    | running p =>
      have hstored : TokensStored p.shared := h p.shared.tokens rfl
      intro tokens htokens
      cases htokens
      rcases p.next_cases cfg e with he | ⟨i, env, task, -, -, he⟩ | ⟨task, -, -, he⟩
      · simp only [Server.next, Server.store, he]
        exact hstored
      · simp only [Server.next, Server.store, he]
        exact task.step_tokensStored hstored cfg env
      · simp only [Server.next, Server.store, he]
        exact hstored

/-- **What one event does to the tokens.** -/
theorem Server.tokenChange {s : Server} (hstored : s.Stored) (cfg : RelayConfig) (e : ServerEvent) :
    TokenChange s (s.next cfg e) (s.generated e) (s.replaces e) := by
  cases e with
  | restart env adminHash userHash =>
    have hrecord := loadOrInitialize_record adminHash userHash env.putTokens s.store
    have hnone : s.replaces (.restart env adminHash userHash) = none := by cases s <;> rfl
    simp only [Server.next]
    split
    · rename_i st hstart
      refine .restarted hnone ?_ rfl
      rw [Server.store, start_record hstart]
      exact hrecord
    · exact .restarted hnone hrecord rfl
  | control e =>
    cases s with
    | stopped store => exact .kept rfl rfl fun i task hash htask _ => .inl htask
    | running p =>
      cases e with
      | run i env =>
        rcases p.advance_cases (ControlTask.step cfg) i env with ⟨hnone, he⟩ | ⟨task, htask, he⟩
        · have he : (running p).next cfg (.control (.run i env)) = running p := congrArg running he
          rw [he]
          refine .kept ?_ rfl fun j u hash hu _ => .inl hu
          simp only [replaces, hnone, Option.bind_none]
        · have he : (running p).next cfg (.control (.run i env)) = running
              ⟨(task.step cfg env p.shared).1, p.tasks.set i (task.step cfg env p.shared).2⟩ :=
            congrArg running he
          -- the task that has moved on writes no more
          have hpending : ∀ (j : Nat) (u : ControlTask) (hash : TokenHash),
              ((running p).next cfg (.control (.run i env))).tasks[j]? = some u → u.Writes hash →
              i ≠ j ∧ p.tasks[j]? = some u := by
            intro j u hash hu hwrites
            rw [he] at hu
            rcases getElem?_set_some hu with ⟨-, rfl⟩ | hu
            · exact absurd hwrites (task.step_writes cfg env p.shared hash)
            · exact hu
          cases hcommits : task.commits env with
          | none =>
            refine .kept ?_ ?_ fun j u hash hu hwrites => .inl (hpending j u hash hu hwrites).2
            · simp only [replaces, htask, Option.bind_some, hcommits]
            · rw [he]
              exact (ControlTask.step_kept hcommits cfg p.shared).stored
          | some committed =>
            obtain ⟨kind, hash⟩ := committed
            obtain ⟨rfl, hrecord⟩ := ControlTask.step_committed hcommits cfg p.shared
            refine .written i kind hash p.shared.tokens htask ?_ (hstored _ rfl) ?_ hpending
            · simp only [replaces, htask, Option.bind_some, hcommits]
            · rw [he]
              exact hrecord
      | spawn task =>
        refine .kept rfl ?_ fun j u hash hu hwrites => ?_
        · simp only [next, ControlPlane.next]
          split <;> rfl
        · simp only [next, ControlPlane.next] at hu
          split at hu
          · rcases getElem?_append_some hu with hu | ⟨hj, rfl⟩
            · exact .inl hu
            · obtain ⟨kind, rfl⟩ := hwrites
              exact .inr ⟨hj, rfl⟩
          · exact .inl hu

/-! ## The invariant -/

namespace TokenHistory

/-- What has been seen covers the record and the rotations in progress; no
rotation in progress has a hash that the record holds or that another one has. -/
structure Sound (h : TokenHistory) : Prop where
  stored : h.server.Stored
  record : ∀ hash ∈ h.server.store.hashes, hash ∈ h.seen
  pending : ∀ (i : Nat) (task : ControlTask) (hash : TokenHash), h.server.tasks[i]? = some task →
    task.Writes hash → hash ∈ h.seen
  unused : ∀ (i : Nat) (task : ControlTask) (hash : TokenHash), h.server.tasks[i]? = some task →
    task.Writes hash → hash ∉ h.server.store.hashes
  once : ∀ (i j : Nat) (t u : ControlTask) (hash : TokenHash), h.server.tasks[i]? = some t →
    h.server.tasks[j]? = some u → t.Writes hash → u.Writes hash → i = j

/-- The hash is no longer that of the kind, and no rotation will make it so. -/
structure Dead (kind : TokenKind) (hash : TokenHash) (h : TokenHistory) : Prop where
  seen : hash ∈ h.seen
  record : ∃ tokens, h.server.store.tokens = some tokens ∧ tokens.hashOf kind ≠ some hash
  pending : ∀ (i : Nat) (task : ControlTask), h.server.tasks[i]? = some task → ¬task.Writes hash

theorem hashes_set {store store' : ServiceStore} {tokens : TokenState} {kind : TokenKind}
    {hash : Option TokenHash} (hbefore : store.tokens = some tokens)
    (hafter : store'.tokens = some (tokens.set kind hash)) {other : TokenHash}
    (hother : other ∈ store'.hashes) : hash = some other ∨ other ∈ store.hashes := by
  obtain ⟨tokens', htokens', hmem⟩ := ServiceStore.mem_hashes.mp hother
  rw [hafter] at htokens'
  cases htokens'
  obtain ⟨otherKind, hkind⟩ := TokenState.mem_hashes.mp hmem
  rw [TokenState.hashOf_set] at hkind
  split at hkind
  · exact .inl hkind
  · exact .inr (ServiceStore.mem_hashes.mpr
      ⟨tokens, hbefore, TokenState.mem_hashes.mpr ⟨otherKind, hkind⟩⟩)

variable {cfg : RelayConfig} {h : TokenHistory} {e : ServerEvent}

theorem seen_next {hash : TokenHash} (hseen : hash ∈ h.seen) : hash ∈ (h.next cfg e).seen :=
  List.mem_append_right _ hseen

theorem generated_seen {hash : TokenHash} (hgenerated : h.server.generated e = some hash) :
    hash ∈ (h.next cfg e).seen := by
  simp only [next, hgenerated, List.mem_append, Option.mem_toList, true_or]

theorem record_seen {hash : TokenHash} (hrecord : hash ∈ (h.server.next cfg e).store.hashes) :
    hash ∈ (h.next cfg e).seen := by
  simp only [next, List.mem_append, hrecord, or_true, true_or]

theorem Sound.next (hsound : h.Sound) (hfresh : h.Fresh e) : (h.next cfg e).Sound := by
  have hnew {hash : TokenHash} (hgenerated : h.server.generated e = some hash) : hash ∉ h.seen :=
    hfresh hash (Option.mem_toList.mpr hgenerated)
  have hrecords : ∀ hash ∈ (h.server.next cfg e).store.hashes, hash ∈ (h.next cfg e).seen :=
    fun hash hrecord => record_seen hrecord
  cases h.server.tokenChange hsound.stored cfg e with
  | kept _ record pending =>
    have hsame : (h.server.next cfg e).store.hashes = h.server.store.hashes := by
      unfold ServiceStore.hashes
      rw [record]
    refine ⟨hsound.stored.next cfg e, hrecords, fun i task hash htask hwrites => ?_,
      fun i task hash htask hwrites => ?_, fun i j t u hash ht hu hti huj => ?_⟩
    · rcases pending i task hash htask hwrites with hold | ⟨-, hgenerated⟩
      · exact seen_next (hsound.pending i task hash hold hwrites)
      · exact generated_seen hgenerated
    · rw [TokenHistory.next, hsame]
      rcases pending i task hash htask hwrites with hold | ⟨-, hgenerated⟩
      · exact hsound.unused i task hash hold hwrites
      · exact fun hmem => hnew hgenerated (hsound.record hash hmem)
    · rcases pending i t hash ht hti with hold | ⟨hi, hgenerated⟩
      · rcases pending j u hash hu huj with hold' | ⟨-, hgenerated⟩
        · exact hsound.once i j t u hash hold hold' hti huj
        · exact absurd (hsound.pending i t hash hold hti) (hnew hgenerated)
      · rcases pending j u hash hu huj with hold' | ⟨hj, -⟩
        · exact absurd (hsound.pending j u hash hold' huj) (hnew hgenerated)
        · exact hi.trans hj.symm
  | written i kind written tokens task _ before after pending =>
    refine ⟨hsound.stored.next cfg e, hrecords, fun j u hash hu hwrites => ?_,
      fun j u hash hu hwrites hmem => ?_, fun j k t u hash ht hu htj huk => ?_⟩
    · exact seen_next (hsound.pending j u hash (pending j u hash hu hwrites).2 hwrites)
    · -- the hash written was another rotation's
      obtain ⟨hij, hold⟩ := pending j u hash hu hwrites
      rcases hashes_set before after hmem with rfl | hmem
      · exact hij (hsound.once i j _ u hash task hold ⟨kind, rfl⟩ hwrites)
      · exact hsound.unused j u hash hold hwrites hmem
    · exact hsound.once j k t u hash (pending j t hash ht htj).2 (pending k u hash hu huk).2 htj huk
  | restarted _ record pending =>
    have hnone {i : Nat} {task : ControlTask} : (h.next cfg e).server.tasks[i]? ≠ some task := by
      rw [TokenHistory.next, pending]
      exact fun htask => by cases htask
    exact ⟨hsound.stored.next cfg e, hrecords, fun i task hash htask => absurd htask hnone,
      fun i task hash htask => absurd htask hnone, fun i j t u hash ht => absurd ht hnone⟩

/-- **A replaced hash is dead** once the write is committed. -/
theorem Sound.dead (hsound : h.Sound) {kind : TokenKind} {hash : TokenHash}
    (hreplaces : h.server.replaces e = some (kind, hash)) : Dead kind hash (h.next cfg e) := by
  cases h.server.tokenChange hsound.stored cfg e with
  | kept none_replaced _ _ | restarted none_replaced _ _ =>
    rw [none_replaced] at hreplaces
    cases hreplaces
  | written i written writtenHash tokens task replaced before after pending =>
    rw [replaced] at hreplaces
    obtain ⟨old, hold, heq⟩ := Option.map_eq_some_iff.mp hreplaces
    cases heq
    -- the record has held it, so no rotation in progress has it
    have hmem : hash ∈ h.server.store.hashes := ServiceStore.mem_hashes.mpr
      ⟨tokens, before, TokenState.mem_hashes.mpr ⟨kind, hold⟩⟩
    refine ⟨seen_next (hsound.record hash hmem), ⟨_, after, ?_⟩, fun j u hu hwrites => ?_⟩
    · rw [TokenState.hashOf_set, if_pos rfl]
      rintro rfl
      exact hsound.unused i _ hash task ⟨kind, rfl⟩ hmem
    · exact hsound.unused j u hash (pending j u hash hu hwrites).2 hwrites hmem

theorem Dead.next (hsound : h.Sound) (hfresh : h.Fresh e) {kind : TokenKind} {hash : TokenHash}
    (hdead : Dead kind hash h) : Dead kind hash (h.next cfg e) := by
  obtain ⟨hseen, ⟨tokens, htokens, hother⟩, hpending⟩ := hdead
  cases h.server.tokenChange hsound.stored cfg e with
  | kept _ record pending =>
    refine ⟨seen_next hseen, ⟨tokens, record.trans htokens, hother⟩, fun i task htask hwrites => ?_⟩
    rcases pending i task hash htask hwrites with hold | ⟨-, hgenerated⟩
    · exact hpending i task hold hwrites
    · exact hfresh hash (Option.mem_toList.mpr hgenerated) hseen
  | written i written writtenHash before task _ hbefore after pending =>
    rw [htokens] at hbefore
    cases hbefore
    refine ⟨seen_next hseen, ⟨_, after, ?_⟩, fun j u hu hwrites => ?_⟩
    · rw [TokenState.hashOf_set]
      split
      · rintro rfl
        exact hpending i _ task ⟨written, rfl⟩
      · exact hother
    · exact hpending j u (pending j u hash hu hwrites).2 hwrites
  | restarted _ record pending =>
    refine ⟨seen_next hseen, ⟨tokens, ?_, hother⟩, fun i task htask => ?_⟩
    · rcases record with hnone | hsame
      · rw [hnone] at htokens
        cases htokens
      · exact hsame.trans htokens
    · rw [TokenHistory.next, pending] at htask
      cases htask

/-- A dead hash does not authenticate as the kind. -/
theorem Dead.rejected {kind : TokenKind} {hash : TokenHash} (hsound : h.Sound)
    (hdead : Dead kind hash h) {tokens : TokenState} (htokens : h.server.tokens = some tokens) :
    tokens.authenticate hash ≠ some kind := by
  intro hkind
  obtain ⟨stored, hstored, hother⟩ := hdead.record
  rw [hsound.stored tokens htokens] at hstored
  cases hstored
  exact hother (TokenState.hashOf_of_authenticate hkind)

theorem begin_sound (store : ServiceStore) : (begin store).Sound where
  stored tokens htokens := by cases htokens
  record hash hmem := hmem
  pending i task hash htask := by cases htask
  unused i task hash htask := by cases htask
  once i j t u hash ht := by cases ht

end TokenHistory

/-! ## Any run -/

/-- **Replaced tokens stay dead.** On every database and in every run in which no
generated token repeats an earlier hash, the tokens in memory are the durable
record in every state, and a hash that a committed write has replaced as that
of its kind authenticates as that kind in no later state. -/
theorem replaced_stay_dead (cfg : RelayConfig) (store : ServiceStore) (events : List ServerEvent)
    (hfresh : EveryStep (TokenHistory.next cfg) TokenHistory.Fresh (.begin store) events) :
    EveryState (TokenHistory.next cfg) (fun h => h.server.Stored) (.begin store) events ∧
    ∀ (before : List ServerEvent) (e : ServerEvent) (after : List ServerEvent)
      (kind : TokenKind) (hash : TokenHash), events = before ++ e :: after →
      (run (TokenHistory.next cfg) (.begin store) before).server.replaces e = some (kind, hash) →
      EveryState (TokenHistory.next cfg)
        (fun h => ∀ tokens, h.server.tokens = some tokens → tokens.authenticate hash ≠ some kind)
        ((run (TokenHistory.next cfg) (.begin store) before).next cfg e) after := by
  have hnext : ∀ h e, h.Sound → h.Fresh e → (TokenHistory.next cfg h e).Sound :=
    fun h e hsound hfresh => hsound.next hfresh
  refine ⟨(everyState_of_everyStep hnext (TokenHistory.begin_sound store) hfresh).mono
    fun h hsound => hsound.stored, fun before e after kind hash hevents hreplaces => ?_⟩
  subst hevents
  obtain ⟨hbefore, he, hafter⟩ := everyStep_append.mp hfresh
  have hsound := (everyState_of_everyStep hnext (TokenHistory.begin_sound store) hbefore).last
  -- sound and dead are kept together from the write on
  have hboth : ∀ h e, h.Sound ∧ h.Dead kind hash → h.Fresh e →
      (TokenHistory.next cfg h e).Sound ∧ (TokenHistory.next cfg h e).Dead kind hash :=
    fun h e hh hfresh => ⟨hh.1.next hfresh, hh.2.next hh.1 hfresh⟩
  refine (everyState_of_everyStep hboth ⟨hsound.next he, hsound.dead hreplaces⟩ hafter).mono ?_
  intro h hh tokens htokens
  exact hh.2.rejected hh.1 htokens

/-- A first start, a rotation of the user token that is written, and a start with
the tokens of the first. -/
def Sample.rotates : List ServerEvent :=
  [.restart {} (hashToken "admin") (hashToken "user"),
    .control (.spawn (.replace .user (some (hashToken "user-2")) .write)), .control (.run 0 {}),
    .restart {} (hashToken "admin") (hashToken "user")]

theorem replaced_stay_dead_rotated :
    let h := run (TokenHistory.next Sample.config) (.begin {}) Sample.rotates
    h.server.tokens = some ⟨some (Sample.hashToken "admin"), some (Sample.hashToken "user-2")⟩ ∧
      h.server.Stored ∧
      ∀ tokens, h.server.tokens = some tokens →
        tokens.authenticate (Sample.hashToken "user") ≠ some .user := by
  intro h
  have hfresh : EveryStep (TokenHistory.next Sample.config) TokenHistory.Fresh (.begin {})
      Sample.rotates := by decide +kernel
  obtain ⟨hstored, hdead⟩ := replaced_stay_dead Sample.config {} Sample.rotates hfresh
  have hreplaces : (run (TokenHistory.next Sample.config) (.begin {})
      (Sample.rotates.take 2)).server.replaces (.control (.run 0 {})) =
        some (.user, Sample.hashToken "user") := by decide +kernel
  have hlast := hdead (Sample.rotates.take 2) (.control (.run 0 {})) (Sample.rotates.drop 3) .user
    (Sample.hashToken "user") rfl hreplaces
  exact ⟨by decide +kernel, hstored.last, hlast.last⟩

end OngrokRelay
