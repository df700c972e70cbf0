import OngrokRelay.ControlPlane

/-
  What is left of the sessions of a replaced token.

  `replace_token` writes the new hash, takes the sessions of the kind out of the
  sessions map and closes them. The token of a session is checked in Auth alone:
  a session between Auth and RegisterNode is not in the map when it is swept,
  and enters it afterwards.

  1. `authenticatedWith_next`: nobody authenticates with a hash that its kind no
     longer has, so the sessions a call is about are settled when it begins.
  2. `LiveSession.step_entry`: a session adds to the directory only by a
     registration that is admitted.
  3. `Revoking.next`: from the sweep on, the sessions of the replaced token are
     not in the map and not about to enter it, while no RegisterNode of theirs
     passes its identity check.
  4. `revocation_final`: so no such session is in the map once the call has
     returned, or activates or publishes from then on.
  5. `revoked_session_activates`: a session that has authenticated and not yet
     registered survives the replacement of its token.
-/

namespace OngrokRelay

open Interleaving Transition ControlPlane

/-! ## The call and its victims -/

/-- The session has authenticated as this kind, with this hash. -/
def ControlTask.authenticatedWith (kind : TokenKind) (old : TokenHash) : ControlTask → Bool
  | session (.live s) => s.kind == kind && s.hash == old
  | _ => false

/-- The sessions that have authenticated with the hash that the kind now has. -/
def victims (p : ControlPlane) (kind : TokenKind) (i : Nat) : Bool :=
  match p.shared.tokens.hashOf kind with
  | some old => p.tasks[i]?.any (ControlTask.authenticatedWith kind old)
  | none => false

/-- Only an Auth frame with the hash a kind now has authenticates as that kind. -/
theorem ControlTask.step_authenticatedWith {cfg : RelayConfig} {env : Env} {st : AppState}
    (task : ControlTask) {kind : TokenKind} {old : TokenHash}
    (h : (task.step cfg env st).2.authenticatedWith kind old) :
    task.authenticatedWith kind old ∨ st.tokens.hashOf kind = some old := by
  cases task with
  | service task | replace kind hash pc => cases h
  | session session =>
    cases session with
    | refused peer reason => cases h
    | live s =>
      left
      have hkeeps := s.step_keeps cfg env st
      simp only [step, SessionTask.step, Prod.map_snd, authenticatedWith, hkeeps.kind,
        hkeeps.hash] at h
      exact h
    | hello peer transport =>
      rcases SessionTask.hello_cases cfg env st peer transport with hstep | ⟨reason, hstep⟩ <;>
        rw [step, hstep] at h <;> cases h
    | auth peer transport =>
      rcases SessionTask.auth_cases cfg env st peer transport with
        ⟨reason, hstep⟩ | ⟨token, nodeId, kind', hkind, hstep⟩
      · rw [step, hstep] at h
        cases h
      · right
        rw [step, hstep] at h
        simp only [Prod.map_snd, authenticatedWith, Bool.and_eq_true, beq_iff_eq] at h
        obtain ⟨rfl, rfl⟩ := h
        exact TokenState.hashOf_of_authenticate hkind

/-- **Who authenticates.** A session that has authenticated as a kind did so
before this event, or does so now with the hash the kind now has: the victims
of a call are settled when it begins. -/
theorem authenticatedWith_next (cfg : RelayConfig) (p : ControlPlane)
    (e : Event Env ControlTask) {i : Nat} {kind : TokenKind} {old : TokenHash}
    (h : (p.next cfg e).tasks[i]?.any (ControlTask.authenticatedWith kind old)) :
    p.tasks[i]?.any (ControlTask.authenticatedWith kind old) ∨
      p.shared.tokens.hashOf kind = some old := by
  obtain ⟨task', htask', hauth⟩ := (Option.any_eq_true _ _).mp h
  rcases p.next_cases cfg e with he | ⟨k, env, task, -, htask, he⟩ | ⟨task, -, hopens, he⟩
  · rw [he] at htask'
    exact .inl ((Option.any_eq_true _ _).mpr ⟨task', htask', hauth⟩)
  · rw [he] at htask'
    rcases getElem?_set_some htask' with ⟨rfl, rfl⟩ | ⟨-, htask'⟩
    · rcases task.step_authenticatedWith hauth with hauth | hhash
      · exact .inl ((Option.any_eq_true _ _).mpr ⟨task, htask, hauth⟩)
      · exact .inr hhash
    · exact .inl ((Option.any_eq_true _ _).mpr ⟨task', htask', hauth⟩)
  · rw [he] at htask'
    rcases getElem?_append_some htask' with htask' | ⟨-, rfl⟩
    · exact .inl ((Option.any_eq_true _ _).mpr ⟨task', htask', hauth⟩)
    · -- a task that joins has authenticated nothing yet
      cases task' with
      | session session =>
        cases session with
        | live s => cases hopens
        | hello peer transport | auth peer transport | refused peer reason => cases hauth
      | service task | replace kind hash pc => cases hauth

/-- The sweep is behind the call, which has not failed. -/
def ReplacePc.swept : ReplacePc → Bool
  | .close _ | .markOffline _ | .put _ | .event _ _ | .done (.ok _) => true
  | _ => false

def ReplacePc.returnedOk : ReplacePc → Bool
  | .done (.ok _) => true
  | _ => false

/-- The call is at a control point of that kind. -/
def ControlPlane.callAt (p : ControlPlane) (caller : Nat) (point : ReplacePc → Bool) : Bool :=
  match p.tasks[caller]? with
  | some (.replace _ _ pc) => point pc
  | _ => false

/-- No entry of the sessions map has the id of task `i`. -/
def ControlPlane.Absent (p : ControlPlane) (i : Nat) : Prop :=
  ∀ (task : ControlTask) (nodeId : NodeId) (entry : ActiveSession), p.tasks[i]? = some task →
    p.shared.sessions[nodeId]? = some entry → task.sessionId ≠ some entry.id

/-- Once the call has returned, no victim is in the sessions map. -/
def Disconnected (caller : Nat) (victim : Nat → Bool) (p : ControlPlane) : Prop :=
  p.callAt caller ReplacePc.returnedOk → ∀ i, victim i → p.Absent i

/-- Once the call has returned, no section of a victim activates a session or
publishes a service. -/
def Silent (cfg : RelayConfig) (caller : Nat) (victim : Nat → Bool) (p : ControlPlane) :
    Event Env ControlTask → Prop
  | .run i env => victim i → p.callAt caller ReplacePc.returnedOk →
      (∀ (nodeId : NodeId) (entry : ActiveSession),
        (p.next cfg (.run i env)).shared.sessions[nodeId]? = some entry →
          p.shared.sessions[nodeId]? = some entry) ∧
      ∀ (id : ServiceId) (service : ServiceDefinition),
        (p.next cfg (.run i env)).shared.services[id]? = some service →
          p.shared.services[id]? = some service
  | .spawn _ => True

/-! ## The condition -/

/-- A RegisterNode of the session passes its identity check now. -/
def LiveSession.passesCheck (s : LiveSession) (st : AppState) : Bool :=
  match s.pc with
  | .registerNode (.identity _ publicKey) => (validateNodeIdentity st.nodes s.nodeId publicKey).isOk
  | _ => false

/-- A RegisterService of the session is admitted now. -/
def LiveSession.isAdmitted (s : LiveSession) (cfg : RelayConfig) (st : AppState) : Bool :=
  match s.pc with
  | .registerService (.lock service) => (admitService cfg st.services service s.nodeId).isOk
  | _ => false

/-- The session stands between its identity check and its activation. -/
def ControlTask.activates : ControlTask → Bool
  | session (.live s) => s.pc.isActivate
  | _ => false

/-- At the sweep no victim stands between its identity check and its activation;
after it no RegisterNode of a victim passes its identity check; and after the
return no RegisterService of a victim is admitted. -/
def cutOff (cfg : RelayConfig) (caller : Nat) (victim : Nat → Bool) (p : ControlPlane) :
    Event Env ControlTask → Bool
  | .run i _ =>
    match p.tasks[i]? with
    | some (.session (.live s)) => !victim i ||
        !(p.callAt caller ReplacePc.swept && s.passesCheck p.shared) &&
        !(p.callAt caller ReplacePc.returnedOk && s.isAdmitted cfg p.shared)
    | some (.replace _ _ .sweep) => i != caller ||
        (List.range p.tasks.length).all fun k =>
          !(victim k && p.tasks[k]?.any ControlTask.activates)
    | _ => true
  | .spawn _ => true

/-! ## What a session adds to the directory -/

theorem registerStep_entry {cfg : RelayConfig} {nodeId : NodeId} {env : Env} {st : AppState}
    {pc : RegisterPc} {id : ServiceId} {service : ServiceDefinition}
    (h : (registerStep cfg nodeId env st pc).1.services[id]? = some service) :
    st.services[id]? = some service ∨ ∃ requested admitted,
      pc = .lock requested ∧ admitService cfg st.services requested nodeId = .ok admitted := by
  cases pc with
  | lock requested =>
    cases hadmitted : admitService cfg st.services requested nodeId with
    | ok admitted => exact .inr ⟨requested, admitted, rfl, hadmitted⟩
    | error e =>
      simp only [registerStep, registerLocked, hadmitted] at h
      exact .inl h
  | rollBack registered => exact .inl (BTreeMap.get_erase_some.mp h).2
  | put registered =>
    simp only [registerStep] at h
    cases hput : env.put <;> rw [hput] at h <;> exact .inl h
  | lookUp registered =>
    simp only [registerStep] at h
    split at h
    · exact .inl h
    · split at h <;> exact .inl h
  | bind registered port =>
    simp only [registerStep] at h
    cases hbind : env.bind port <;> rw [hbind] at h <;> exact .inl h
  | deleteRow registered =>
    simp only [registerStep] at h
    cases hdelete : env.delete <;> rw [hdelete] at h <;> exact .inl h
  | insertTask registered port | event registered | done result => exact .inl h

theorem unregisterStep_entry {serviceId : ServiceId} {nodeId : NodeId} {env : Env} {st : AppState}
    {pc : UnregisterPc} {id : ServiceId} {service : ServiceDefinition}
    (h : (unregisterStep serviceId nodeId env st pc).1.services[id]? = some service) :
    st.services[id]? = some service := by
  cases pc with
  | lock =>
    simp only [unregisterStep] at h
    split at h
    · exact (BTreeMap.get_erase_some.mp h).2
    · exact h
  | deleteRow =>
    simp only [unregisterStep] at h
    cases hdelete : env.delete <;> rw [hdelete] at h <;> exact h
  | event | abort | done result => exact h

/-- **What a session adds to the directory.** -/
theorem LiveSession.step_entry {cfg : RelayConfig} {env : Env} {st : AppState} {s : LiveSession}
    {serviceId : ServiceId} {service : ServiceDefinition}
    (h : (s.step cfg env st).1.services[serviceId]? = some service) :
    st.services[serviceId]? = some service ∨ s.isAdmitted cfg st := by
  unfold step at h
  split at h
  · exact .inl h
  · rename_i pc _
    have hkept := (registerNodeStep_maps s.peer s.transport
      (s.transport.session s.peer.connection) s.kind s.nodeId env st pc).1
    exact .inl ((congrArg (·[serviceId]?) hkept).symm.trans h)
  · rename_i pc hpc
    rcases registerStep_entry h with h | ⟨requested, admitted, rfl, hadmitted⟩
    · exact .inl h
    · right
      simp only [isAdmitted, hpc, hadmitted]
      rfl
  · exact .inl (unregisterStep_entry h)
  · rename_i pc _
    have hkept := (heartbeatStep_maps s.nodeId env st pc).1
    exact .inl ((congrArg (·[serviceId]?) hkept).symm.trans h)
  · rename_i pc _ _
    have hkept := (cleanUpStep_maps s.transport s.nodeId s.peer.sessionId env st pc).1
    exact .inl ((congrArg (·[serviceId]?) hkept).symm.trans h)
  · exact .inl h

/-! ## From the sweep on -/

section
variable {cfg : RelayConfig} {caller : Nat} {kind : TokenKind} {hash : Option TokenHash}
  {victim : Nat → Bool} {p : ControlPlane}

/-- The call goes on, its victims are sessions of its kind, and from the sweep
on none of them is in the sessions map or about to enter it. -/
structure Revoking (caller : Nat) (kind : TokenKind) (hash : Option TokenHash)
    (victim : Nat → Bool) (p : ControlPlane) : Prop where
  owned : SessionsOwned p
  call : ∃ pc, p.tasks[caller]? = some (.replace kind hash pc)
  live : ∀ i, victim i → ∃ s, p.tasks[i]? = some (.session (.live s)) ∧ s.kind = kind
  idle : p.callAt caller ReplacePc.swept → ∀ i, victim i →
    p.tasks[i]?.any ControlTask.activates = false
  absent : p.callAt caller ReplacePc.swept → ∀ i, victim i → p.Absent i

/-- A session stays absent while it does not activate itself. -/
theorem absent_run (howned : SessionsOwned p) {i k : Nat} {task : ControlTask}
    (htask : p.tasks[k]? = some task) (hidle : p.tasks[i]?.any ControlTask.activates = false)
    (h : p.Absent i) (env : Env) :
    ControlPlane.Absent ⟨(task.step cfg env p.shared).1,
      p.tasks.set k (task.step cfg env p.shared).2⟩ i := by
  intro task' nodeId entry htask' hentry hid
  obtain ⟨t, ht, hsame⟩ := SessionsOwned.set_sessionId htask env htask'
  rw [hsame] at hid
  rcases (task.step_sessions cfg env p.shared).entry hentry with hentry | ⟨s, rfl, hs, -, rfl⟩
  · exact h t nodeId entry ht hentry hid
  · -- the id is that of the session that activates, so the two are one
    have hik := howned.distinct i k t _ s.peer.sessionId ht htask hid rfl
    subst hik
    rw [htask] at hidle
    rw [Option.any_some, ControlTask.activates, hs] at hidle
    cases hidle

/-- The sweep leaves no entry of a session of its kind. -/
theorem absent_sweep (howned : SessionsOwned p) {i : Nat} {s : LiveSession}
    (hs : p.tasks[i]? = some (.session (.live s))) (ts : List ControlTask)
    (hts : ts[i]? = some (.session (.live s))) :
    ControlPlane.Absent ⟨(disconnectKind s.kind p.shared).1, ts⟩ i := by
  intro task nodeId entry htask hentry hid
  rw [disconnectKind_get] at hentry
  obtain ⟨hentry, hkind⟩ := Option.filter_eq_some_iff.mp hentry
  obtain ⟨j, _, howner, owner, rfl, -, -, rfl⟩ := howned.owned nodeId entry hentry
  have htask' : task = .session (.live s) := Option.some.inj (htask.symm.trans hts)
  rw [htask'] at hid
  have hij := howned.distinct i j _ _ owner.peer.sessionId hs howner hid rfl
  subst hij
  rw [hs] at howner
  cases howner
  simp [LiveSession.entry] at hkind

theorem replaceStep_swept {env : Env} {st : AppState} {pc : ReplacePc}
    (h : (replaceStep kind hash env st pc).2.swept) : pc.swept ∨ pc = .sweep := by
  cases pc with
  | write =>
    simp only [replaceStep] at h
    generalize writeToken env kind hash st = written at h
    obtain ⟨st', _ | _⟩ := written <;> cases h
  | sweep => exact .inr rfl
  | done result => exact .inl h
  | close disconnected | markOffline nodeIds | put nodes | event node rest => exact .inl rfl

/-- A call that has swept had swept before, or does so now. -/
theorem Revoking.swept_run (h : Revoking caller kind hash victim p) {k : Nat} {task : ControlTask}
    (htask : p.tasks[k]? = some task) (env : Env)
    (hswept : ControlPlane.callAt ⟨(task.step cfg env p.shared).1,
      p.tasks.set k (task.step cfg env p.shared).2⟩ caller ReplacePc.swept) :
    p.callAt caller ReplacePc.swept ∨ (k = caller ∧ task = .replace kind hash .sweep) := by
  obtain ⟨pc, hpc⟩ := h.call
  by_cases hk : k = caller
  · subst hk
    have hlt : k < p.tasks.length := (List.getElem?_eq_some_iff.mp htask).1
    rw [htask] at hpc
    cases hpc
    simp only [ControlPlane.callAt, List.getElem?_set_self hlt] at hswept
    rcases replaceStep_swept hswept with hswept | rfl
    · left
      rw [ControlPlane.callAt, htask]
      exact hswept
    · exact .inr ⟨rfl, rfl⟩
  · left
    rw [ControlPlane.callAt, List.getElem?_set_ne hk] at hswept
    exact hswept

/-! ### What the condition says of one event -/

theorem cutOff_live {i : Nat} {env : Env} {s : LiveSession}
    (hcut : cutOff cfg caller victim p (.run i env))
    (hs : p.tasks[i]? = some (.session (.live s))) (hvictim : victim i) :
    (p.callAt caller ReplacePc.swept → s.passesCheck p.shared = false) ∧
      (p.callAt caller ReplacePc.returnedOk → s.isAdmitted cfg p.shared = false) := by
  simp only [cutOff, hs, hvictim, Bool.not_true, Bool.false_or, Bool.and_eq_true,
    Bool.not_eq_true', Bool.and_eq_false_imp] at hcut
  exact hcut

theorem cutOff_sweep {env : Env} (hcut : cutOff cfg caller victim p (.run caller env))
    (hcall : p.tasks[caller]? = some (.replace kind hash .sweep)) {i : Nat} (hvictim : victim i) :
    p.tasks[i]?.any ControlTask.activates = false := by
  simp only [cutOff, hcall, bne_self_eq_false, Bool.false_or, List.all_eq_true, List.mem_range,
    Bool.not_eq_true'] at hcut
  by_cases hi : i < p.tasks.length
  · simpa only [hvictim, Bool.true_and] using hcut i hi
  · rw [List.getElem?_eq_none (by omega)]
    rfl

/-! ### One event -/

theorem Revoking.run (h : Revoking caller kind hash victim p) {k : Nat} {task : ControlTask}
    (htask : p.tasks[k]? = some task) {env : Env} (hcut : cutOff cfg caller victim p (.run k env)) :
    Revoking caller kind hash victim ⟨(task.step cfg env p.shared).1,
      p.tasks.set k (task.step cfg env p.shared).2⟩ := by
  have hlt : k < p.tasks.length := (List.getElem?_eq_some_iff.mp htask).1
  have hother {i : Nat} (hi : k ≠ i) :
      (p.tasks.set k (task.step cfg env p.shared).2)[i]? = p.tasks[i]? := List.getElem?_set_ne hi
  refine ⟨h.owned.run htask env, ?_, fun i hv => ?_, fun hswept i hv => ?_, fun hswept i hv => ?_⟩
  · obtain ⟨pc, hpc⟩ := h.call
    by_cases hk : k = caller
    · subst hk
      rw [htask] at hpc
      cases hpc
      exact ⟨_, List.getElem?_set_self hlt⟩
    · exact ⟨pc, (hother hk).trans hpc⟩
  · obtain ⟨s, hs, hkind⟩ := h.live i hv
    by_cases hk : k = i
    · subst hk
      rw [htask] at hs
      cases hs
      exact ⟨_, List.getElem?_set_self hlt, (s.step_keeps cfg env p.shared).kind.trans hkind⟩
    · exact ⟨s, (hother hk).trans hs, hkind⟩
  · obtain ⟨s, hs, -⟩ := h.live i hv
    rcases h.swept_run htask env hswept with hbefore | ⟨rfl, rfl⟩
    · by_cases hk : k = i
      · -- the victim itself would have to pass the identity check now
        subst hk
        rw [htask] at hs
        cases hs
        refine Bool.eq_false_iff.mpr fun hactivates => ?_
        simp only [List.getElem?_set_self hlt, Option.any_some] at hactivates
        obtain ⟨-, metadata, publicKey, hpc, hcheck⟩ :=
          LiveSession.step_isActivate (s := s) hactivates
        have hfails := (cutOff_live hcut htask hv).1 hbefore
        simp [LiveSession.passesCheck, hpc, hcheck, Except.isOk, Except.toBool] at hfails
      · exact (congrArg (Option.any ControlTask.activates) (hother hk)).trans (h.idle hbefore i hv)
    · -- the sweep itself, which finds no victim about to activate
      have hk : k ≠ i := by
        intro hk
        rw [hk, hs] at htask
        cases htask
      exact (congrArg (Option.any ControlTask.activates) (hother hk)).trans
        (cutOff_sweep hcut htask hv)
  · rcases h.swept_run htask env hswept with hbefore | ⟨rfl, rfl⟩
    · exact absent_run h.owned htask (h.idle hbefore i hv) (h.absent hbefore i hv) env
    · obtain ⟨s, hs, rfl⟩ := h.live i hv
      have hk : k ≠ i := by
        intro hk
        rw [hk, hs] at htask
        cases htask
      exact absent_sweep h.owned hs _ ((hother hk).trans hs)

theorem Revoking.spawn (h : Revoking caller kind hash victim p) {task : ControlTask}
    (hopens : p.opens task) :
    Revoking caller kind hash victim ⟨p.shared, p.tasks ++ [task]⟩ := by
  have hsame {i : Nat} {t : ControlTask} (ht : p.tasks[i]? = some t) :
      (p.tasks ++ [task])[i]? = p.tasks[i]? :=
    List.getElem?_append_left (List.getElem?_eq_some_iff.mp ht).1
  obtain ⟨pc, hpc⟩ := h.call
  have hcall : ControlPlane.callAt ⟨p.shared, p.tasks ++ [task]⟩ caller ReplacePc.swept =
      p.callAt caller ReplacePc.swept := by
    simp only [ControlPlane.callAt, hsame hpc]
  refine ⟨h.owned.spawn hopens, ⟨pc, (hsame hpc).trans hpc⟩, fun i hv => ?_, fun hswept i hv => ?_,
    fun hswept i hv => ?_⟩
  · obtain ⟨s, hs, hkind⟩ := h.live i hv
    exact ⟨s, (hsame hs).trans hs, hkind⟩
  · obtain ⟨s, hs, -⟩ := h.live i hv
    rw [hcall] at hswept
    exact (congrArg (Option.any ControlTask.activates) (hsame hs)).trans (h.idle hswept i hv)
  · obtain ⟨s, hs, -⟩ := h.live i hv
    rw [hcall] at hswept
    intro t nodeId entry ht
    exact h.absent hswept i hv t nodeId entry ((hsame hs).symm.trans ht)

theorem Revoking.next (h : Revoking caller kind hash victim p) {e : Event Env ControlTask}
    (hcut : cutOff cfg caller victim p e) : Revoking caller kind hash victim (p.next cfg e) := by
  rcases p.next_cases cfg e with he | ⟨k, env, task, rfl, htask, he⟩ | ⟨task, rfl, hopens, he⟩
  · rw [he]
    exact h
  · rw [he]
    exact h.run htask hcut
  · rw [he]
    exact h.spawn hopens

theorem ReplacePc.swept_of_returnedOk {pc : ReplacePc} (h : pc.returnedOk) : pc.swept := by
  cases pc with
  | done result =>
    cases result with
    | ok _ => rfl
    | error e => cases h
  | write | sweep | close disconnected | markOffline nodeIds | put nodes | event node rest => cases h

theorem callAt_swept (h : p.callAt caller ReplacePc.returnedOk) :
    p.callAt caller ReplacePc.swept := by
  unfold ControlPlane.callAt at h ⊢
  split at h
  · exact ReplacePc.swept_of_returnedOk h
  · cases h

theorem Revoking.disconnected (h : Revoking caller kind hash victim p) :
    Disconnected caller victim p :=
  fun hreturned => h.absent (callAt_swept hreturned)

theorem Revoking.silent (h : Revoking caller kind hash victim p) {e : Event Env ControlTask}
    (hcut : cutOff cfg caller victim p e) : Silent cfg caller victim p e := by
  cases e with
  | spawn task => trivial
  | run i env =>
    intro hv hreturned
    obtain ⟨s, hs, -⟩ := h.live i hv
    have hnext : (p.next cfg (.run i env)).shared = (s.step cfg env p.shared).1 := by
      rw [ControlPlane.next, p.advance_eq env hs]
      rfl
    rw [hnext]
    refine ⟨fun nodeId entry hentry => ?_, fun id service hservice => ?_⟩
    · rcases (s.step_maps cfg env p.shared).2.entry hentry with hentry | ⟨s', hs', hactivates, -⟩
      · exact hentry
      · have hidle := h.idle (callAt_swept hreturned) i hv
        rw [hs, hs'] at hidle
        rw [Option.any_some, ControlTask.activates, hactivates] at hidle
        cases hidle
    · rcases LiveSession.step_entry hservice with hservice | hadmitted
      · exact hservice
      · rw [(cutOff_live hcut hs hv).2 hreturned] at hadmitted
        cases hadmitted

end

/-! ## Whole runs -/

theorem victims_live {p : ControlPlane} {kind : TokenKind} {i : Nat} (h : victims p kind i) :
    ∃ s, p.tasks[i]? = some (.session (.live s)) ∧ s.kind = kind := by
  unfold victims at h
  split at h
  · obtain ⟨task, htask, h⟩ := (Option.any_eq_true _ _).mp h
    cases task with
    | session session =>
      cases session with
      | live s =>
        simp only [ControlTask.authenticatedWith, Bool.and_eq_true, beq_iff_eq] at h
        exact ⟨s, htask, h.1⟩
      | hello peer transport | auth peer transport | refused peer reason => cases h
    | service task | replace kind hash pc => cases h
  · cases h

/-- **Revocation is final** in every run from a reached control plane, in which a
call of `replace_token` begins, while the sessions that have authenticated with
the hash it replaces are cut off. -/
theorem revocation_final {cfg : RelayConfig} {p : ControlPlane} (hreached : Reached cfg p)
    {caller : Nat} {kind : TokenKind} {hash : Option TokenHash}
    (hcall : p.tasks[caller]? = some (.replace kind hash .write))
    (env : Env) (events : List (Event Env ControlTask))
    (hcut : EveryStep (ControlPlane.next cfg)
      (fun p' e => cutOff cfg caller (victims p kind) p' e = true) p (.run caller env :: events)) :
    EveryState (ControlPlane.next cfg) (Disconnected caller (victims p kind)) p
        (.run caller env :: events) ∧
      EveryStep (ControlPlane.next cfg) (Silent cfg caller (victims p kind)) p
        (.run caller env :: events) := by
  have hstart : Revoking caller kind hash (victims p kind) p := by
    have hnot : p.callAt caller ReplacePc.swept = false := by
      simp only [ControlPlane.callAt, hcall, ReplacePc.swept]
    refine ⟨hreached.sessionsOwned, ⟨.write, hcall⟩, fun i hv => victims_live hv,
      fun hswept => ?_, fun hswept => ?_⟩
    · rw [hnot] at hswept
      cases hswept
    · rw [hnot] at hswept
      cases hswept
  constructor
  · exact (everyState_of_everyStep (P := Revoking caller kind hash (victims p kind))
      (fun _ _ h he => h.next he) hstart hcut).mono fun _ h => h.disconnected
  · exact everyStep_of_invariant (P := Revoking caller kind hash (victims p kind))
      (fun _ _ h he => h.next he) (fun _ _ h he => h.silent he) hstart hcut

/-! ## A session between Auth and RegisterNode -/

namespace LateNode

/-- The user token is about to be replaced; one session has authenticated with it. -/
def authenticated : ControlPlane :=
  Sample.reached (Sample.connects 0 11 7 ++ [.spawn (.replace .user (some 9) .write)])

/-- The call runs to its end, and only then the session registers. -/
def events : List (Event Env ControlTask) :=
  List.replicate 5 (.run 1 {}) ++ Sample.registers 0

/-- The same, with the session registered before the call. -/
def registered : ControlPlane :=
  Sample.reached (Sample.connects 0 11 7 ++ Sample.registers 0 ++
    [.spawn (.replace .user (some 9) .write)])

/-- The call runs to its end; the session finds its connection closed. -/
def closedEvents : List (Event Env ControlTask) :=
  List.replicate 7 (.run 1 {}) ++ [.run 0 {}, .run 0 {}]

end LateNode

open LateNode in
/-- **A session whose token has been replaced enters the sessions map.** -/
theorem revoked_session_activates :
    ¬∀ (cfg : RelayConfig) (p : ControlPlane), Reached cfg p →
      ∀ (caller : Nat) (kind : TokenKind) (hash : Option TokenHash),
        p.tasks[caller]? = some (.replace kind hash .write) →
        ∀ (env : Env) (events : List (Event Env ControlTask)),
          EveryState (ControlPlane.next cfg) (Disconnected caller (victims p kind)) p
            (.run caller env :: events) := by
  intro h
  have hlast := (h Sample.config authenticated (Sample.reached_ok _) 1 .user (some 9)
    (by decide +kernel) {} events).last
  have habsent := hlast (by decide +kernel) 0 (by decide +kernel)
  have hentry : ((run (ControlPlane.next Sample.config) authenticated
      (.run 1 {} :: events)).shared.sessions[(⟨7⟩ : NodeId)]?.map ActiveSession.id) =
        some ⟨11⟩ := by decide +kernel
  have hid : ((run (ControlPlane.next Sample.config) authenticated
      (.run 1 {} :: events)).tasks[0]?.bind ControlTask.sessionId) = some ⟨11⟩ := by decide +kernel
  obtain ⟨entry, hentry, hentryId⟩ := Option.map_eq_some_iff.mp hentry
  obtain ⟨task, htask, htaskId⟩ := Option.bind_eq_some_iff.mp hid
  refine habsent task ⟨7⟩ entry htask hentry ?_
  rw [htaskId, hentryId]

open LateNode in
theorem revocation_final_closed :
    EveryState (ControlPlane.next Sample.config) (Disconnected 1 (victims registered .user))
        registered (.run 1 {} :: closedEvents) ∧
      EveryStep (ControlPlane.next Sample.config)
        (Silent Sample.config 1 (victims registered .user)) registered
        (.run 1 {} :: closedEvents) :=
  @revocation_final Sample.config registered (Sample.reached_ok _) 1 .user (some 9)
    (by decide +kernel) {} closedEvents (by decide +kernel)

end OngrokRelay
