import OngrokRelay.Interleaving
import OngrokRelay.Store
import OngrokRelay.Transition

/-
  The life of a server process, from its control API to its return (`run` after
  the listeners are restored, and `run_api`).

  The listeners for QUIC, TCP/TLS and the two ingresses are tasks of their own.
  The main task serves the control API, each connection in a task of a `JoinSet`;
  on a signal it stops accepting and gives these five seconds, then aborts what
  is left and waits for it. Only then are the listeners aborted and joined. An
  aborted task ends at its next await, not at once. Dropping a `JoinSet` aborts
  its tasks and waits for none. How a listener ended is only logged.

  Two more kinds of tasks can be aborted. The connections of the HTTP ingress are
  in a `JoinSet` of that listener. The listeners of leased TCP ports, which `run`
  has restored and registrations start, are aborted where their lease is released
  or another listener takes their place. What else is spawned (a control session,
  a connection of the HTTPS ingress or of a leased port) is held by nobody.

  1. `Supervised` and `Hosted`: the invariants. `supervised_next` and
     `hosted_next`: every event keeps them.
  2. `shutdown_clean`: when `run` returns, its listeners have been joined, and no
     request and no HTTP connection runs that was not aborted; after a signal all
     requests have been joined. The listeners of leases are left alone.
  3. `serves_until_told`: while the control API serves, no listener and no request
     is aborted; an HTTP connection only once the HTTP listener has ended, and the
     listener of a lease only when the lease is released or another takes its place.
  4. `drain_spares`: a request that ends before the window does is not aborted.
  5. `shutdown_completes`: once what it waits for has ended, `run` returns.

  Correspondence (Rust ↔ Lean):
    `run`, from the spawned listeners  ↔ `ServerProcess`, `ServerPc`
    `run_api`                          ↔ `bind`, `accepting`, `draining`, `aborting`
    `tasks: JoinSet` of `run_api`      ↔ `requests`
    `quic_task`, `tcp_tls_task`, …     ↔ `listeners`
    `tasks` of `run_http_ingress`      ↔ `connections`
    `tcp_ingress_tasks`                ↔ `leases`
-/

namespace OngrokRelay

open Interleaving Transition

/-- A task of the runtime; one that has ended may have been cancelled. -/
inductive TaskState
  | running
  | aborted
  | ended (cancelled : Bool)
  | joined
  deriving DecidableEq

def TaskState.abort : TaskState → TaskState
  | running => aborted
  | state => state

/-- The task ends; one that was aborted is cancelled, or has come to its end before. -/
def TaskState.finish (cancelled : Bool) : TaskState → TaskState
  | running => ended false
  | aborted => ended cancelled
  | state => state

/-- `join_next` takes what has ended. -/
def TaskState.join : TaskState → TaskState
  | ended _ => joined
  | state => state

/-- The await of the main task. -/
inductive ServerPc
  | bind
  | accepting
  | draining
  | aborting
  | joining (k : Nat) (result : Outcome)
  | returned (result : Outcome)
  deriving DecidableEq

structure ServerProcess where
  pc : ServerPc := .bind
  requests : List TaskState := []
  listeners : List TaskState
  /-- Which of the listeners is the HTTP ingress. -/
  http : Option Nat := none
  /-- The connections that the HTTP ingress has accepted. -/
  connections : List TaskState := []
  /-- The listeners of leased TCP ports, in the order in which they were started. -/
  leases : List TaskState := []
  deriving DecidableEq

inductive ProcessEvent
  | bound (outcome : Outcome)
  | accepts (outcome : Outcome)
  | signal
  /-- The main task is polled where it waits for other tasks. -/
  | polls
  | window
  | requestEnds (i : Nat) (cancelled : Bool)
  | listenerEnds (k : Nat) (cancelled : Bool)
  /-- The HTTP ingress accepts a connection. -/
  | connects
  | connectionEnds (i : Nat) (cancelled : Bool)
  /-- A registration starts the listener of its port. -/
  | leased
  /-- A lease is released, or its listener displaced. -/
  | released (i : Nat)
  | leaseEnds (i : Nat) (cancelled : Bool)
  deriving DecidableEq

/-- The event does not end the control API. -/
def ProcessEvent.harmless : ProcessEvent → Bool
  | .bound (.error _) | .accepts (.error _) | .signal => false
  | _ => true

/-- The window stays open, and accepting does not fail. -/
def ProcessEvent.patient : ProcessEvent → Bool
  | .window | .accepts (.error _) => false
  | _ => true

namespace ServerProcess

/-- `run_api` has returned: the listeners are aborted, and then joined in order. -/
def leaveApi (result : Outcome) (s : ServerProcess) : ServerProcess :=
  { s with
    pc := .joining 0 result
    listeners := s.listeners.map TaskState.abort }

/-- All of the `JoinSet` has been joined. -/
def drained (s : ServerProcess) : Bool := s.requests.all (· == .joined)

def joinRequests (s : ServerProcess) : ServerProcess :=
  { s with requests := s.requests.map TaskState.join }

/-- The loop over `join_next` takes what has ended, and is over when nothing is left. -/
def drain (s : ServerProcess) : ServerProcess :=
  if s.joinRequests.drained then s.joinRequests.leaveApi (.ok ()) else s.joinRequests

def poll (s : ServerProcess) : ServerProcess :=
  match s.pc with
  | .draining | .aborting => s.drain
  | .joining k result =>
    match s.listeners[k]? with
    | none => { s with pc := .returned result }
    | some (.ended _) =>
      { s with
        pc := .joining (k + 1) result
        listeners := s.listeners.set k .joined }
    | some _ => s
  | .bind | .accepting | .returned _ => s

/-- `TcpListener::bind` of the control API. -/
def bind (outcome : Outcome) (s : ServerProcess) : ServerProcess :=
  match s.pc, outcome with
  | .bind, .ok _ => { s with pc := .accepting }
  | .bind, .error e => s.leaveApi (.error e)
  | _, _ => s

def accept (outcome : Outcome) (s : ServerProcess) : ServerProcess :=
  match s.pc, outcome with
  | .accepting, .ok _ => { s with requests := s.requests ++ [.running] }
  -- the `JoinSet` is dropped with `run_api`
  | .accepting, .error e =>
    { s with requests := s.requests.map TaskState.abort }.leaveApi (.error e)
  | _, _ => s

/-- The signal arrives where the API selects on it. -/
def interrupt (s : ServerProcess) : ServerProcess :=
  if s.pc = .accepting then { s with pc := .draining } else s

/-- The timeout polls the drain before it looks at its timer. -/
def windowEnds (s : ServerProcess) : ServerProcess :=
  if s.pc = .draining then
    if s.drain.pc = .draining then
      { s.drain with
        pc := .aborting
        requests := s.drain.requests.map TaskState.abort }
    else s.drain
  else s

/-- A listener ends. With the HTTP ingress goes the `JoinSet` of its connections. -/
def endListener (k : Nat) (cancelled : Bool) (s : ServerProcess) : ServerProcess :=
  { s with
    listeners := s.listeners.modify k (TaskState.finish cancelled)
    connections := if s.http = some k then s.connections.map TaskState.abort else s.connections }

/-- The HTTP ingress has not ended; until its next await that goes for an aborted one too. -/
def httpListens (s : ServerProcess) : Bool :=
  match s.http.bind fun k => s.listeners[k]? with
  | some .running | some .aborted => true
  | _ => false

def connect (s : ServerProcess) : ServerProcess :=
  if s.httpListens then { s with connections := s.connections ++ [.running] } else s

def next (s : ServerProcess) : ProcessEvent → ServerProcess
  | .bound outcome => s.bind outcome
  | .accepts outcome => s.accept outcome
  | .signal => s.interrupt
  | .polls => s.poll
  | .window => s.windowEnds
  | .requestEnds i cancelled =>
    { s with requests := s.requests.modify i (TaskState.finish cancelled) }
  | .listenerEnds k cancelled => s.endListener k cancelled
  | .connects => s.connect
  | .connectionEnds i cancelled =>
    { s with connections := s.connections.modify i (TaskState.finish cancelled) }
  | .leased => { s with leases := s.leases ++ [.running] }
  | .released i => { s with leases := s.leases.modify i TaskState.abort }
  | .leaseEnds i cancelled =>
    { s with leases := s.leases.modify i (TaskState.finish cancelled) }

/-- The control API serves, or is about to. -/
def serving (s : ServerProcess) : Bool := s.pc == .bind || s.pc == .accepting

end ServerProcess

/-! ## The invariant -/

/-- The task has not been aborted before it ended. -/
def TaskState.spared : TaskState → Bool
  | aborted | ended true => false
  | _ => true

/-- It runs, and nobody has asked it to stop. -/
def TaskState.isRunning : TaskState → Bool
  | running => true
  | _ => false

namespace ServerProcess

/-- No listener has been aborted or joined. -/
def Alone (s : ServerProcess) : Prop := ∀ t ∈ s.listeners, t.spared = true ∧ t ≠ .joined

/-- No request has been aborted. -/
def Spared (s : ServerProcess) : Prop := ∀ t ∈ s.requests, t.spared = true

/-- No request runs that nobody has asked to stop. -/
def Quiet (s : ServerProcess) : Prop := ∀ t ∈ s.requests, t.isRunning = false

end ServerProcess

/-- **What holds of the tasks** at each await of the main task. -/
inductive Supervised (s : ServerProcess) : Prop
  | bind (pc : s.pc = .bind) (requests : s.requests = []) (listeners : s.Alone)
  | serving (pc : s.pc = .accepting ∨ s.pc = .draining) (requests : s.Spared) (listeners : s.Alone)
  | aborting (pc : s.pc = .aborting) (requests : s.Quiet) (listeners : s.Alone)
  | joining (k : Nat) (result : Outcome) (pc : s.pc = .joining k result)
      (bound : k ≤ s.listeners.length) (listeners : ∀ t ∈ s.listeners, t.isRunning = false)
      (before : ∀ j, s.listeners[j]? = some .joined ↔ j < k) (requests : s.Quiet)
      (drained : result = .ok () → s.drained = true)
  | returned (result : Outcome) (pc : s.pc = .returned result)
      (listeners : ∀ t ∈ s.listeners, t = .joined) (requests : s.Quiet)
      (drained : result = .ok () → s.drained = true)

/-- It is about the main task, its requests and its listeners. -/
theorem Supervised.same {s s' : ServerProcess} (h : Supervised s) (hpc : s'.pc = s.pc)
    (hrequests : s'.requests = s.requests) (hlisteners : s'.listeners = s.listeners) :
    Supervised s' := by
  obtain ⟨pc', requests', listeners', http', connections', leases'⟩ := s'
  cases hpc
  cases hrequests
  cases hlisteners
  cases h with
  | bind pc requests listeners => exact .bind pc requests listeners
  | serving pc requests listeners => exact .serving pc requests listeners
  | aborting pc requests listeners => exact .aborting pc requests listeners
  | joining k result pc bound listeners before requests drained =>
    exact .joining k result pc bound listeners before requests drained
  | returned result pc listeners requests drained =>
    exact .returned result pc listeners requests drained

theorem TaskState.abort_isRunning (t : TaskState) : t.abort.isRunning = false := by
  cases t <;> rfl

theorem TaskState.abort_joined {t : TaskState} (h : t.abort = joined) : t = joined := by
  cases t <;> first | rfl | cases h

theorem TaskState.join_isRunning (t : TaskState) : t.join.isRunning = t.isRunning := by
  cases t <;> rfl

theorem TaskState.join_spared {t : TaskState} (h : t.spared = true) : t.join.spared = true := by
  cases t <;> first | rfl | exact h

theorem TaskState.finish_isRunning (cancelled : Bool) (t : TaskState) :
    (t.finish cancelled).isRunning = false := by
  cases t <;> rfl

theorem TaskState.finish_spared (cancelled : Bool) {t : TaskState} (h : t.spared = true) :
    (t.finish cancelled).spared = true := by
  cases t with
  | aborted => cases h
  | _ => first | rfl | exact h

theorem TaskState.finish_joined {cancelled : Bool} {t : TaskState} (h : t.finish cancelled = joined) :
    t = joined := by
  cases t <;> first | rfl | cases h

namespace ServerProcess

variable {s : ServerProcess}

theorem drained_quiet (h : s.drained = true) : s.Quiet := by
  intro t ht
  rw [eq_of_beq (List.all_eq_true.mp h t ht)]
  rfl

/-- The API has returned, and none of its requests runs. -/
theorem supervised_leaveApi {result : Outcome} (halone : s.Alone) (hrequests : s.Quiet)
    (hdrained : result = .ok () → s.drained = true) : Supervised (s.leaveApi result) := by
  refine .joining 0 result rfl (Nat.zero_le _) (fun t ht => ?_) (fun j => ?_) hrequests hdrained
  · obtain ⟨t, -, rfl⟩ := List.mem_map.mp ht
    exact t.abort_isRunning
  · refine iff_of_false (fun hjoined => ?_) (Nat.not_lt_zero j)
    obtain ⟨t, ht, habort⟩ := List.mem_map.mp (List.mem_of_getElem? hjoined)
    exact (halone t ht).2 (TaskState.abort_joined habort)

theorem joinRequests_spared (h : s.Spared) : s.joinRequests.Spared := by
  intro t ht
  obtain ⟨t', ht', rfl⟩ := List.mem_map.mp ht
  exact TaskState.join_spared (h t' ht')

theorem joinRequests_quiet (h : s.Quiet) : s.joinRequests.Quiet := by
  intro t ht
  obtain ⟨t', ht', rfl⟩ := List.mem_map.mp ht
  rw [t'.join_isRunning]
  exact h t' ht'

/-- A poll of the drain joins what has ended, and leaves the API when nothing is left. -/
theorem drain_cases (s : ServerProcess) :
    (s.joinRequests.drained = true ∧ s.drain = s.joinRequests.leaveApi (.ok ())) ∨
      (s.joinRequests.drained = false ∧ s.drain = s.joinRequests) := by
  unfold drain
  cases s.joinRequests.drained
  · exact .inr ⟨rfl, rfl⟩
  · exact .inl ⟨rfl, rfl⟩

theorem supervised_drain (h : Supervised s) (hpc : s.pc = .draining ∨ s.pc = .aborting) :
    Supervised s.drain := by
  have hleave (halone : s.Alone) (hdrained : s.joinRequests.drained = true) :
      Supervised (s.joinRequests.leaveApi (.ok ())) :=
    @supervised_leaveApi s.joinRequests _ halone (drained_quiet hdrained) fun _ => hdrained
  cases h with
  | serving pc requests listeners =>
    rcases s.drain_cases with ⟨hdrained, hdrain⟩ | ⟨-, hdrain⟩
    · rw [hdrain]
      exact hleave listeners hdrained
    · rw [hdrain]
      exact .serving pc (joinRequests_spared requests) listeners
  | aborting pc requests listeners =>
    rcases s.drain_cases with ⟨hdrained, hdrain⟩ | ⟨-, hdrain⟩
    · rw [hdrain]
      exact hleave listeners hdrained
    · rw [hdrain]
      exact .aborting pc (joinRequests_quiet requests) listeners
  | bind pc _ _ | joining k result pc _ _ _ _ _ | returned result pc _ _ _ =>
    rw [pc] at hpc
    rcases hpc with hpc | hpc <;> cases hpc

/-- The next listener is joined, or all of them have been. -/
theorem supervised_join {k : Nat} {result : Outcome} (hpc : s.pc = .joining k result)
    (h : Supervised s) : Supervised s.poll := by
  cases h with
  | joining k' result' pc bound listeners before requests drained =>
    rw [hpc] at pc
    cases pc
    unfold poll
    simp only [hpc]
    split
    · rename_i hnone
      have hall : k = s.listeners.length :=
        Nat.le_antisymm bound (List.getElem?_eq_none_iff.mp hnone)
      refine .returned result rfl (fun t ht => ?_) requests drained
      obtain ⟨j, hj⟩ := List.mem_iff_getElem?.mp ht
      rw [(before j).mpr (hall ▸ (List.getElem?_eq_some_iff.mp hj).1)] at hj
      exact (Option.some.inj hj).symm
    · rename_i cancelled hended
      have hlt : k < s.listeners.length := (List.getElem?_eq_some_iff.mp hended).1
      refine .joining (k + 1) result rfl ?_ (fun t ht => ?_) (fun j => ?_) requests drained
      · rw [List.length_set]
        exact hlt
      · rcases List.mem_or_eq_of_mem_set ht with ht | rfl
        · exact listeners t ht
        · rfl
      · show (s.listeners.set k .joined)[j]? = some .joined ↔ j < k + 1
        by_cases hj : k = j
        · subst hj
          rw [List.getElem?_set_self hlt]
          exact iff_of_true rfl (Nat.lt_succ_self k)
        · rw [List.getElem?_set_ne hj, before j]
          omega
    · exact .joining k result hpc bound listeners before requests drained
  | serving pc _ _ =>
    rw [hpc] at pc
    rcases pc with pc | pc <;> cases pc
  | bind pc _ _ | aborting pc _ _ | returned _ pc _ _ _ =>
    rw [hpc] at pc
    cases pc

theorem supervised_poll (h : Supervised s) : Supervised s.poll := by
  cases hpc : s.pc with
  | draining =>
    simp only [poll, hpc]
    exact supervised_drain h (.inl hpc)
  | aborting =>
    simp only [poll, hpc]
    exact supervised_drain h (.inr hpc)
  | joining k result => exact supervised_join hpc h
  | bind | accepting | returned result =>
    simp only [poll, hpc]
    exact h

/-- The end of a request. -/
theorem supervised_requestEnds (h : Supervised s) (i : Nat) (cancelled : Bool) :
    Supervised (s.next (.requestEnds i cancelled)) := by
  have hspared (hs : s.Spared) : (s.next (.requestEnds i cancelled)).Spared := by
    intro t ht
    rcases mem_modify ht with hold | ⟨t', hold, rfl⟩
    · exact hs t hold
    · exact TaskState.finish_spared cancelled (hs t' hold)
  have hquiet (hs : s.Quiet) : (s.next (.requestEnds i cancelled)).Quiet := by
    intro t ht
    rcases mem_modify ht with hold | ⟨t', -, rfl⟩
    · exact hs t hold
    · exact TaskState.finish_isRunning cancelled t'
  have hdrained (hs : s.drained = true) : (s.next (.requestEnds i cancelled)).drained = true := by
    refine List.all_eq_true.mpr fun t ht => ?_
    rcases mem_modify ht with hold | ⟨t', hold, rfl⟩
    · exact List.all_eq_true.mp hs t hold
    · rw [eq_of_beq (List.all_eq_true.mp hs t' hold)]
      rfl
  cases h with
  | bind pc requests listeners =>
    refine .bind pc ?_ listeners
    show s.requests.modify i _ = []
    rw [requests, List.modify_nil]
  | serving pc requests listeners => exact .serving pc (hspared requests) listeners
  | aborting pc requests listeners => exact .aborting pc (hquiet requests) listeners
  | joining k result pc bound listeners before requests drained =>
    exact .joining k result pc bound listeners before (hquiet requests)
      fun hok => hdrained (drained hok)
  | returned result pc listeners requests drained =>
    exact .returned result pc listeners (hquiet requests) fun hok => hdrained (drained hok)

/-- The end of a listener. -/
theorem supervised_listenerEnds (h : Supervised s) (i : Nat) (cancelled : Bool) :
    Supervised (s.next (.listenerEnds i cancelled)) := by
  have halone (hs : s.Alone) : (s.next (.listenerEnds i cancelled)).Alone := by
    intro t ht
    rcases mem_modify ht with hold | ⟨t', hold, rfl⟩
    · exact hs t hold
    · exact ⟨TaskState.finish_spared cancelled (hs t' hold).1,
        fun hjoined => (hs t' hold).2 (TaskState.finish_joined hjoined)⟩
  cases h with
  | bind pc requests listeners => exact .bind pc requests (halone listeners)
  | serving pc requests listeners => exact .serving pc requests (halone listeners)
  | aborting pc requests listeners => exact .aborting pc requests (halone listeners)
  | joining k result pc bound listeners before requests drained =>
    refine .joining k result pc ?_ (fun t ht => ?_) (fun j => ?_) requests drained
    · show k ≤ (s.listeners.modify i _).length
      rw [List.length_modify]
      exact bound
    · rcases mem_modify ht with hold | ⟨t', -, rfl⟩
      · exact listeners t hold
      · exact TaskState.finish_isRunning cancelled t'
    · show (s.listeners.modify i _)[j]? = some .joined ↔ j < k
      rw [← before j, List.getElem?_modify]
      cases s.listeners[j]? with
      | none => exact Iff.rfl
      | some t =>
        rw [Option.map_eq_map, Option.map_some, Option.some.injEq, Option.some.injEq]
        split
        · exact ⟨TaskState.finish_joined, fun ht => by rw [ht]; rfl⟩
        · exact Iff.rfl
  | returned result pc listeners requests drained =>
    refine .returned result pc (fun t ht => ?_) requests drained
    rcases mem_modify ht with hold | ⟨t', hold, rfl⟩
    · exact listeners t hold
    · rw [listeners t' hold]
      rfl

/-- After five seconds what is left of the requests is aborted. -/
theorem supervised_windowEnds (h : Supervised s) : Supervised s.windowEnds := by
  unfold windowEnds
  split
  · rename_i hpc
    have hnext := supervised_drain h (.inl hpc)
    split
    · rename_i hdraining
      cases hnext with
      | serving pc requests listeners =>
        refine .aborting rfl (fun t ht => ?_) listeners
        obtain ⟨t', -, rfl⟩ := List.mem_map.mp ht
        exact t'.abort_isRunning
      | bind pc _ _ | aborting pc _ _ | joining _ _ pc _ _ _ _ _ | returned _ pc _ _ _ =>
        rw [hdraining] at pc
        cases pc
    · exact hnext
  · exact h

theorem supervised_bind (h : Supervised s) (outcome : Outcome) : Supervised (s.bind outcome) := by
  cases h with
  | bind pc requests listeners =>
    unfold bind
    rw [pc]
    cases outcome with
    | ok u => exact .serving (.inl rfl) (fun t ht => by rw [requests] at ht; cases ht) listeners
    | error e =>
      exact supervised_leaveApi listeners (fun t ht => by rw [requests] at ht; cases ht)
        fun hok => by cases hok
  | serving pc requests listeners =>
    have hsame : s.bind outcome = s := by
      unfold bind
      rcases pc with pc | pc <;> rw [pc]
    rw [hsame]
    exact .serving pc requests listeners
  | aborting pc requests listeners =>
    unfold bind
    rw [pc]
    exact .aborting pc requests listeners
  | joining k result pc bound listeners before requests drained =>
    unfold bind
    rw [pc]
    exact .joining k result pc bound listeners before requests drained
  | returned result pc listeners requests drained =>
    unfold bind
    rw [pc]
    exact .returned result pc listeners requests drained

theorem supervised_accept (h : Supervised s) (outcome : Outcome) :
    Supervised (s.accept outcome) := by
  by_cases hpc : s.pc = .accepting
  · cases h with
    | serving pc requests listeners =>
      unfold accept
      rw [hpc]
      cases outcome with
      | ok u =>
        refine .serving (.inl rfl) (fun t ht => ?_) listeners
        rcases List.mem_append.mp ht with ht | ht
        · exact requests t ht
        · rw [List.mem_singleton.mp ht]
          rfl
      | error e =>
        refine supervised_leaveApi listeners (fun t ht => ?_) fun hok => by cases hok
        obtain ⟨t', -, rfl⟩ := List.mem_map.mp ht
        exact t'.abort_isRunning
    | bind pc _ _ | aborting pc _ _ | joining _ _ pc _ _ _ _ _ | returned _ pc _ _ _ =>
      rw [hpc] at pc
      cases pc
  · have hsame : s.accept outcome = s := by
      unfold accept
      split
      · exact absurd ‹_› hpc
      · exact absurd ‹_› hpc
      · rfl
    rwa [hsame]

theorem supervised_interrupt (h : Supervised s) : Supervised s.interrupt := by
  unfold interrupt
  split
  · rename_i hpc
    cases h with
    | serving _ requests listeners => exact .serving (.inr rfl) requests listeners
    | bind pc _ _ | aborting pc _ _ | joining _ _ pc _ _ _ _ _ | returned _ pc _ _ _ =>
      rw [hpc] at pc
      cases pc
  · exact h

/-- **Every event keeps the invariant.** -/
theorem supervised_next (h : Supervised s) (e : ProcessEvent) : Supervised (s.next e) := by
  cases e with
  | bound outcome => exact supervised_bind h outcome
  | accepts outcome => exact supervised_accept h outcome
  | signal => exact supervised_interrupt h
  | polls => exact supervised_poll h
  | window => exact supervised_windowEnds h
  | requestEnds i cancelled => exact supervised_requestEnds h i cancelled
  | listenerEnds k cancelled => exact supervised_listenerEnds h k cancelled
  | connects =>
    show Supervised s.connect
    unfold connect
    split
    · exact h.same rfl rfl rfl
    · exact h
  | connectionEnds i cancelled | leased | released i | leaseEnds i cancelled =>
    exact h.same rfl rfl rfl

/-- The server as it starts: its listeners, of which there are two to four, run, and so do
those of the leases it has restored. -/
def begin (listeners : Nat) (http : Option Nat) (restored : Nat) : ServerProcess where
  listeners := List.replicate listeners .running
  http := http
  leases := List.replicate restored .running

theorem supervised_run (n : Nat) (http : Option Nat) (restored : Nat)
    (events : List ProcessEvent) : EveryState next Supervised (begin n http restored) events := by
  refine everyState_of_step (fun s e h => supervised_next h e) ?_ events
  refine .bind rfl rfl fun t ht => ?_
  rw [(List.mem_replicate.mp ht).2]
  exact ⟨rfl, fun heq => by cases heq⟩

/-! ## The connections of the HTTP ingress, and the listeners of leases -/

/-- **The connections of the HTTP ingress** are left alone until it ends, and aborted then. -/
structure Hosted (s : ServerProcess) : Prop where
  spared : s.httpListens = true → ∀ t ∈ s.connections, t.spared = true
  quiet : s.httpListens = false → ∀ t ∈ s.connections, t.isRunning = false

/-- What is neither the main task's nor `run_api`'s is as it was. -/
structure SameIngress (s s' : ServerProcess) : Prop where
  listens : s'.httpListens = s.httpListens
  connections : s'.connections = s.connections
  leases : s'.leases = s.leases

theorem SameIngress.refl (s : ServerProcess) : SameIngress s s := ⟨rfl, rfl, rfl⟩

theorem SameIngress.trans {s t u : ServerProcess} (h : SameIngress s t) (h' : SameIngress t u) :
    SameIngress s u :=
  ⟨h'.listens.trans h.listens, h'.connections.trans h.connections, h'.leases.trans h.leases⟩

theorem SameIngress.hosted {s s' : ServerProcess} (h : SameIngress s s') (hs : Hosted s) :
    Hosted s' where
  spared hlistens := by
    rw [h.listens] at hlistens
    rw [h.connections]
    exact hs.spared hlistens
  quiet hlistens := by
    rw [h.listens] at hlistens
    rw [h.connections]
    exact hs.quiet hlistens

/-- An aborted listener accepts until its next await. -/
theorem sameIngress_leaveApi (s : ServerProcess) (result : Outcome) :
    SameIngress s (s.leaveApi result) := by
  refine ⟨?_, rfl, rfl⟩
  simp only [httpListens, leaveApi, List.getElem?_map]
  cases s.http with
  | none => rfl
  | some k =>
    simp only [Option.bind_some]
    cases s.listeners[k]? with
    | none => rfl
    | some t => cases t <;> rfl

theorem sameIngress_drain (s : ServerProcess) : SameIngress s s.drain := by
  have hjoin : SameIngress s s.joinRequests := ⟨rfl, rfl, rfl⟩
  rcases s.drain_cases with ⟨-, hdrain⟩ | ⟨-, hdrain⟩
  · rw [hdrain]
    exact hjoin.trans (s.joinRequests.sameIngress_leaveApi (.ok ()))
  · rw [hdrain]
    exact hjoin

theorem sameIngress_poll (s : ServerProcess) : SameIngress s s.poll := by
  unfold poll
  split
  · exact s.sameIngress_drain
  · exact s.sameIngress_drain
  · split
    · exact ⟨rfl, rfl, rfl⟩
    · -- the listener that is joined has ended before
      rename_i k _ _ _ cancelled hended
      refine ⟨?_, rfl, rfl⟩
      simp only [httpListens]
      cases s.http with
      | none => rfl
      | some j =>
        by_cases hj : k = j
        · subst hj
          simp only [Option.bind_some, hended,
            List.getElem?_set_self (List.getElem?_eq_some_iff.mp hended).1]
        · simp only [Option.bind_some, List.getElem?_set_ne hj]
    · exact .refl s
  all_goals exact .refl s

theorem sameIngress_windowEnds (s : ServerProcess) : SameIngress s s.windowEnds := by
  have hdrain := s.sameIngress_drain
  unfold windowEnds
  split
  · split
    · exact ⟨hdrain.listens, hdrain.connections, hdrain.leases⟩
    · exact hdrain
  · exact .refl s

theorem sameIngress_bind (s : ServerProcess) (outcome : Outcome) :
    SameIngress s (s.bind outcome) := by
  unfold bind
  split
  · exact ⟨rfl, rfl, rfl⟩
  · exact s.sameIngress_leaveApi _
  · exact .refl s

theorem sameIngress_accept (s : ServerProcess) (outcome : Outcome) :
    SameIngress s (s.accept outcome) := by
  unfold accept
  split
  · exact ⟨rfl, rfl, rfl⟩
  · -- the requests are aborted first
    have haborted : SameIngress s { s with requests := s.requests.map TaskState.abort } :=
      ⟨rfl, rfl, rfl⟩
    exact haborted.trans (sameIngress_leaveApi _ _)
  · exact .refl s

theorem sameIngress_interrupt (s : ServerProcess) : SameIngress s s.interrupt := by
  unfold interrupt
  split
  · exact ⟨rfl, rfl, rfl⟩
  · exact .refl s

theorem hosted_endListener (h : Hosted s) (k : Nat) (cancelled : Bool) :
    Hosted (s.endListener k cancelled) := by
  by_cases hhttp : s.http = some k
  · have hover : (s.endListener k cancelled).httpListens = false := by
      simp only [httpListens, endListener, hhttp, Option.bind_some, List.getElem?_modify_eq]
      cases s.listeners[k]? with
      | none => rfl
      | some t => cases t <;> rfl
    refine ⟨fun hlistens => ?_, fun _ t ht => ?_⟩
    · rw [hover] at hlistens
      cases hlistens
    · simp only [endListener, if_pos hhttp] at ht
      obtain ⟨t', -, rfl⟩ := List.mem_map.mp ht
      exact t'.abort_isRunning
  · have hsame : SameIngress s (s.endListener k cancelled) := by
      refine ⟨?_, by simp only [endListener, if_neg hhttp], rfl⟩
      simp only [httpListens, endListener]
      cases hother : s.http with
      | none => rfl
      | some j =>
        have hne : k ≠ j := fun heq => hhttp (hother.trans (congrArg some heq.symm))
        simp only [Option.bind_some, List.getElem?_modify_ne _ _ hne]
    exact hsame.hosted h

theorem hosted_connect (h : Hosted s) : Hosted s.connect := by
  unfold connect
  split
  · rename_i hlistens
    refine ⟨fun _ t ht => ?_, fun hover => ?_⟩
    · rcases List.mem_append.mp ht with ht | ht
      · exact h.spared hlistens t ht
      · rw [List.mem_singleton.mp ht]
        rfl
    · rw [show httpListens { s with connections := s.connections ++ [.running] } = s.httpListens
        from rfl, hlistens] at hover
      cases hover
  · exact h

theorem hosted_next (h : Hosted s) (e : ProcessEvent) : Hosted (s.next e) := by
  cases e with
  | bound outcome => exact (s.sameIngress_bind outcome).hosted h
  | accepts outcome => exact (s.sameIngress_accept outcome).hosted h
  | signal => exact s.sameIngress_interrupt.hosted h
  | polls => exact s.sameIngress_poll.hosted h
  | window => exact s.sameIngress_windowEnds.hosted h
  | listenerEnds k cancelled => exact hosted_endListener h k cancelled
  | connects => exact hosted_connect h
  | connectionEnds i cancelled =>
    refine ⟨fun hlistens t ht => ?_, fun hover t ht => ?_⟩
    · rcases mem_modify ht with hold | ⟨t', hold, rfl⟩
      · exact h.spared hlistens t hold
      · exact TaskState.finish_spared cancelled (h.spared hlistens t' hold)
    · rcases mem_modify ht with hold | ⟨t', -, rfl⟩
      · exact h.quiet hover t hold
      · exact TaskState.finish_isRunning cancelled t'
  | requestEnds i cancelled | leased | released i | leaseEnds i cancelled =>
    exact ⟨h.spared, h.quiet⟩

theorem hosted_run (n : Nat) (http : Option Nat) (restored : Nat) (events : List ProcessEvent) :
    EveryState next Hosted (begin n http restored) events :=
  everyState_of_step (fun _ e h => hosted_next h e)
    ⟨fun _ t ht => (by cases ht), fun _ t ht => (by cases ht)⟩ events

/-- The listener of a lease that the events neither release nor displace has not been
aborted, and nobody has joined it. -/
def LeasesLeft (events : List ProcessEvent) (s : ServerProcess) : Prop :=
  ∀ (i : Nat) (t : TaskState), s.leases[i]? = some t → .released i ∉ events →
    t.spared = true ∧ t ≠ .joined

theorem SameIngress.leasesLeft {s s' : ServerProcess} (h : SameIngress s s')
    {events : List ProcessEvent} (hs : s.LeasesLeft events) : s'.LeasesLeft events := by
  intro i t ht
  rw [h.leases] at ht
  exact hs i t ht

theorem leasesLeft_next {events : List ProcessEvent} (h : s.LeasesLeft events) {e : ProcessEvent}
    (he : e ∈ events) : (s.next e).LeasesLeft events := by
  cases e with
  | bound outcome => exact (s.sameIngress_bind outcome).leasesLeft h
  | accepts outcome => exact (s.sameIngress_accept outcome).leasesLeft h
  | signal => exact s.sameIngress_interrupt.leasesLeft h
  | polls => exact s.sameIngress_poll.leasesLeft h
  | window => exact s.sameIngress_windowEnds.leasesLeft h
  | connects =>
    show s.connect.LeasesLeft events
    unfold connect
    split <;> exact h
  | requestEnds i cancelled | listenerEnds k cancelled | connectionEnds i cancelled => exact h
  | leased =>
    intro i t ht hkept
    rcases getElem?_append_some ht with ht | ⟨-, rfl⟩
    · exact h i t ht hkept
    · exact ⟨rfl, fun heq => by cases heq⟩
  | released j =>
    intro i t ht hkept
    have hne : j ≠ i := fun heq => hkept (heq ▸ he)
    rw [show (s.next (.released j)).leases = s.leases.modify j TaskState.abort from rfl,
      List.getElem?_modify_ne _ _ hne] at ht
    exact h i t ht hkept
  | leaseEnds j cancelled =>
    intro i t ht hkept
    simp only [next, List.getElem?_modify] at ht
    obtain ⟨t', ht', rfl⟩ := Option.map_eq_some_iff.mp ht
    obtain ⟨hspared, hjoined⟩ := h i t' ht' hkept
    split
    · exact ⟨TaskState.finish_spared cancelled hspared,
        fun heq => hjoined (TaskState.finish_joined heq)⟩
    · exact ⟨hspared, hjoined⟩

theorem leasesLeft_run (n : Nat) (http : Option Nat) (restored : Nat)
    (events : List ProcessEvent) :
    EveryState next (LeasesLeft events) (begin n http restored) events := by
  have hbegin : (begin n http restored).LeasesLeft events := by
    intro i t ht _
    rw [List.eq_of_mem_replicate (List.mem_of_getElem? ht)]
    exact ⟨rfl, fun heq => by cases heq⟩
  exact everyState_of_everyStep (C := fun _ e => e ∈ events)
    (fun s e h he => leasesLeft_next h he) hbegin (everyStep_of_labels fun e he => he)

/-! ## What a run does -/

/-- **What `run` leaves when it returns.** Its listeners have ended and been joined; no
request runs that was not aborted, nor does a connection of the HTTP ingress; after a signal
every request has ended. The listener of a lease it leaves as it is: only a release, or a
listener that took its place, has aborted one. -/
theorem shutdown_clean (n : Nat) (http : Option Nat) (restored : Nat)
    (events : List ProcessEvent) :
    EveryState next (fun s => s.LeasesLeft events ∧ ∀ result, s.pc = .returned result →
      (∀ t ∈ s.listeners, t = .joined) ∧ s.Quiet ∧
        (result = .ok () → ∀ t ∈ s.requests, t = .joined) ∧
        ∀ t ∈ s.connections, t.isRunning = false) (begin n http restored) events := by
  refine (((supervised_run n http restored events).and (hosted_run n http restored events)).and
    (leasesLeft_run n http restored events)).mono fun s hs => ⟨hs.2, fun result hpc => ?_⟩
  obtain ⟨⟨h, hhosted⟩, -⟩ := hs
  cases h with
  | returned result' pc listeners requests drained =>
    rw [hpc] at pc
    cases pc
    refine ⟨listeners, requests, fun hok t ht => eq_of_beq (List.all_eq_true.mp (drained hok) t ht),
      hhosted.quiet ?_⟩
    unfold httpListens
    split
    · rename_i hrunning
      obtain ⟨k, -, hk⟩ := Option.bind_eq_some_iff.mp hrunning
      cases listeners _ (List.mem_of_getElem? hk)
    · rename_i haborted
      obtain ⟨k, -, hk⟩ := Option.bind_eq_some_iff.mp haborted
      cases listeners _ (List.mem_of_getElem? hk)
    · rfl
  | serving pc _ _ =>
    rw [hpc] at pc
    rcases pc with pc | pc <;> cases pc
  | bind pc _ _ | aborting pc _ _ | joining _ _ pc _ _ _ _ _ =>
    rw [hpc] at pc
    cases pc

theorem serving_iff : s.serving = true ↔ s.pc = .bind ∨ s.pc = .accepting := by
  rw [serving, Bool.or_eq_true, beq_iff_eq, beq_iff_eq]

theorem serving_next (hserving : s.serving = true) {e : ProcessEvent} (he : e.harmless) :
    (s.next e).serving = true := by
  rw [serving_iff] at hserving ⊢
  cases e with
  | bound outcome =>
    cases outcome with
    | error e => cases he
    | ok u =>
      right
      show (s.bind (.ok u)).pc = .accepting
      rcases hserving with hpc | hpc <;> simp only [bind, hpc]
  | accepts outcome =>
    cases outcome with
    | error e => cases he
    | ok u =>
      have hsame : (s.accept (.ok u)).pc = s.pc := by
        rcases hserving with hpc | hpc <;> simp only [accept, hpc]
      show (s.accept (.ok u)).pc = .bind ∨ (s.accept (.ok u)).pc = .accepting
      rwa [hsame]
  | signal => cases he
  | polls =>
    have hsame : s.poll = s := by
      rcases hserving with hpc | hpc <;> simp only [poll, hpc]
    show s.poll.pc = .bind ∨ s.poll.pc = .accepting
    rwa [hsame]
  | window =>
    have hsame : s.windowEnds = s := by
      unfold windowEnds
      rw [if_neg]
      rcases hserving with hpc | hpc <;> rw [hpc] <;> decide
    show s.windowEnds.pc = .bind ∨ s.windowEnds.pc = .accepting
    rwa [hsame]
  | connects =>
    have hsame : s.connect.pc = s.pc := by
      unfold connect
      split <;> rfl
    show s.connect.pc = .bind ∨ s.connect.pc = .accepting
    rwa [hsame]
  | requestEnds i cancelled | listenerEnds k cancelled | connectionEnds i cancelled | leased
  | released i | leaseEnds i cancelled => exact hserving

/-- **Only the control API ends the server.** While it can be bound, accepts and gets no
signal, it serves, and however its listeners and requests end, none of them is aborted. A
connection of the HTTP ingress is left alone as long as that listens, and the listener of a
lease until the lease is released or another listener takes its place. -/
theorem serves_until_told (n : Nat) (http : Option Nat) (restored : Nat)
    (events : List ProcessEvent) (hevents : ∀ e ∈ events, e.harmless) :
    EveryState next (fun s => s.serving = true ∧ s.Alone ∧ s.Spared ∧
      (s.httpListens = true → ∀ t ∈ s.connections, t.spared = true) ∧ s.LeasesLeft events)
      (begin n http restored) events := by
  have hstep (s : ServerProcess) (e : ProcessEvent) (h : Supervised s ∧ s.serving = true)
      (he : e.harmless) : Supervised (s.next e) ∧ (s.next e).serving = true :=
    ⟨supervised_next h.1 e, serving_next h.2 he⟩
  have hserves := everyState_of_everyStep hstep
    ⟨(supervised_run n http restored []).head, rfl⟩ (everyStep_of_labels hevents)
  refine ((hserves.and (hosted_run n http restored events)).and
    (leasesLeft_run n http restored events)).mono fun s hs => ?_
  obtain ⟨⟨⟨hsupervised, hserving⟩, hhosted⟩, hleases⟩ := hs
  refine ⟨hserving, ?_⟩
  rw [serving_iff] at hserving
  cases hsupervised with
  | bind pc requests listeners =>
    have hnone : s.Spared := fun t ht => by rw [requests] at ht; cases ht
    exact ⟨listeners, hnone, hhosted.spared, hleases⟩
  | serving pc requests listeners => exact ⟨listeners, requests, hhosted.spared, hleases⟩
  | aborting pc _ _ | joining _ _ pc _ _ _ _ _ | returned _ pc _ _ _ =>
    rw [pc] at hserving
    rcases hserving with hpc | hpc <;> cases hpc

theorem spared_next (h : s.Spared) {e : ProcessEvent} (he : e.patient) : (s.next e).Spared := by
  cases e with
  | bound outcome =>
    have hsame : (s.bind outcome).requests = s.requests := by
      unfold bind
      split <;> rfl
    intro t ht
    exact h t (hsame ▸ ht)
  | accepts outcome =>
    cases outcome with
    | error e => cases he
    | ok u =>
      show (s.accept (.ok u)).Spared
      unfold accept
      split
      · intro t ht
        rcases List.mem_append.mp ht with ht | ht
        · exact h t ht
        · rw [List.mem_singleton.mp ht]
          rfl
      · rename_i heq
        cases heq
      · exact h
  | signal =>
    show s.interrupt.Spared
    unfold interrupt
    split <;> exact h
  | polls =>
    have hdrain : s.drain.Spared := by
      rcases s.drain_cases with ⟨-, hdrain⟩ | ⟨-, hdrain⟩
      · rw [hdrain]
        exact joinRequests_spared h
      · rw [hdrain]
        exact joinRequests_spared h
    show s.poll.Spared
    unfold poll
    split
    · exact hdrain
    · exact hdrain
    · split <;> exact h
    all_goals exact h
  | window => cases he
  | requestEnds i cancelled =>
    intro t ht
    rcases mem_modify ht with hold | ⟨t', hold, rfl⟩
    · exact h t hold
    · exact TaskState.finish_spared cancelled (h t' hold)
  | connects =>
    show s.connect.Spared
    unfold connect
    split <;> exact h
  | listenerEnds k cancelled | connectionEnds i cancelled | leased | released i
  | leaseEnds i cancelled => exact h

/-- **The drain spares who ends in time.** As long as the window has not ended and
accepting has not failed, no request is aborted, before the signal or after it. -/
theorem drain_spares (n : Nat) (http : Option Nat) (restored : Nat) (events : List ProcessEvent)
    (hevents : ∀ e ∈ events, e.patient) :
    EveryState next Spared (begin n http restored) events := by
  have hstep (s : ServerProcess) (e : ProcessEvent) (h : s.Spared) (he : e.patient) :
      (s.next e).Spared := spared_next h he
  exact everyState_of_everyStep hstep (fun t ht => by cases ht) (everyStep_of_labels hevents)

/-- A server with an HTTP ingress and a lease that it has restored. A second lease is taken
and the first released; of two requests one ends while the API still accepts and the other
in the window; and the HTTP ingress fails with a connection in flight. -/
def sampleLife : List ProcessEvent :=
  [.bound (.ok ()), .accepts (.ok ()), .accepts (.ok ()), .leased, .connects, .released 0,
    .requestEnds 0 false, .listenerEnds 2 false, .signal, .polls, .requestEnds 1 false, .polls,
    .polls]

example : run next (begin 3 (some 2) 1) sampleLife =
    { pc := .joining 0 (.ok ()), requests := [.joined, .joined],
      listeners := [.aborted, .aborted, .ended false], http := some 2, connections := [.aborted],
      leases := [.aborted, .running] } := by decide

theorem serves_until_told_sample :
    EveryState next (fun s => s.serving = true ∧ s.Alone ∧ s.Spared ∧
      (s.httpListens = true → ∀ t ∈ s.connections, t.spared = true) ∧
      s.LeasesLeft (sampleLife.take 8)) (begin 3 (some 2) 1) (sampleLife.take 8) :=
  serves_until_told 3 (some 2) 1 (sampleLife.take 8) (by decide)

theorem drain_spares_sample : EveryState next Spared (begin 3 (some 2) 1) sampleLife :=
  drain_spares 3 (some 2) 1 sampleLife (by decide)

/-- The task has ended, joined or not. -/
def Over (t : TaskState) : Prop := ∃ cancelled, t = .ended cancelled ∨ t = .joined

theorem over_cases {t : TaskState} (h : Over t) :
    (∃ cancelled, t = .ended cancelled) ∨ t = .joined := by
  obtain ⟨cancelled, rfl | rfl⟩ := h
  · exact .inl ⟨cancelled, rfl⟩
  · exact .inr rfl

theorem returned_polls {result : Outcome} (hpc : s.pc = .returned result) (m : Nat) :
    (run next s (List.replicate m .polls)).pc = .returned result := by
  induction m with
  | zero => exact hpc
  | succ m ih =>
    have hsame : s.next .polls = s := by
      show s.poll = s
      simp only [poll, hpc]
    rw [List.replicate_succ, run_cons, hsame]
    exact ih

/-- The listeners are joined one after another, and `run` returns. -/
theorem joining_completes (m : Nat) : ∀ {s : ServerProcess} {k : Nat} {result : Outcome},
    Supervised s → s.pc = .joining k result → (∀ t ∈ s.listeners, Over t) →
    s.listeners.length + 1 ≤ k + m →
    (run next s (List.replicate m .polls)).pc = .returned result := by
  induction m with
  | zero =>
    intro s k result h hpc hover hm
    cases h with
    | joining k' result' pc bound _ _ _ _ =>
      rw [hpc] at pc
      cases pc
      omega
    | serving pc _ _ =>
      rw [hpc] at pc
      rcases pc with pc | pc <;> cases pc
    | bind pc _ _ | aborting pc _ _ | returned _ pc _ _ _ =>
      rw [hpc] at pc
      cases pc
  | succ m ih =>
    intro s k result h hpc hover hm
    have hnext := supervised_poll h
    rw [List.replicate_succ, run_cons]
    show (run next s.poll _).pc = _
    cases hk : s.listeners[k]? with
    | none =>
      have hpoll : s.poll = { s with pc := .returned result } := by simp only [poll, hpc, hk]
      exact returned_polls (by rw [hpoll]) m
    | some t =>
      rcases over_cases (hover t (List.mem_of_getElem? hk)) with ⟨cancelled, rfl⟩ | rfl
      · have hpoll : s.poll = { s with
            pc := .joining (k + 1) result
            listeners := s.listeners.set k .joined } := by simp only [poll, hpc, hk]
        rw [hpoll] at hnext ⊢
        refine ih hnext rfl (fun t ht => ?_) ?_
        · rcases List.mem_or_eq_of_mem_set ht with ht | rfl
          · exact hover t ht
          · exact ⟨false, .inr rfl⟩
        · show (s.listeners.set k .joined).length + 1 ≤ _
          rw [List.length_set]
          omega
      · -- the listener to be joined next has not been joined before
        cases h with
        | joining k' result' pc _ _ before _ _ =>
          rw [hpc] at pc
          cases pc
          exact absurd ((before k).mp hk) (Nat.lt_irrefl k)
        | serving pc _ _ =>
          rw [hpc] at pc
          rcases pc with pc | pc <;> cases pc
        | bind pc _ _ | aborting pc _ _ | returned _ pc _ _ _ =>
          rw [hpc] at pc
          cases pc

/-- **The shutdown completes.** In every state of every run in which the API has
stopped accepting and all requests and listeners have ended, `run` returns within
as many polls as there are listeners, and two. -/
theorem shutdown_completes (n : Nat) (http : Option Nat) (restored : Nat)
    (events : List ProcessEvent) :
    EveryState next (fun s => s.serving = false → (∀ t ∈ s.requests, Over t) →
      (∀ t ∈ s.listeners, Over t) →
      ∃ result, (run next s (List.replicate (s.listeners.length + 2) .polls)).pc =
        .returned result) (begin n http restored) events := by
  refine (supervised_run n http restored events).mono fun s h hserving hrequests hlisteners => ?_
  have hdrained : s.joinRequests.drained = true := by
    refine List.all_eq_true.mpr fun t ht => ?_
    obtain ⟨t', ht', rfl⟩ := List.mem_map.mp ht
    rcases over_cases (hrequests t' ht') with ⟨cancelled, rfl⟩ | rfl <;> rfl
  have hdrain (hpc : s.pc = .draining ∨ s.pc = .aborting) :
      ∃ result, (run next s (List.replicate (s.listeners.length + 2) .polls)).pc =
        .returned result := by
    have hpoll : s.poll = s.joinRequests.leaveApi (.ok ()) := by
      have hdrain : s.drain = s.joinRequests.leaveApi (.ok ()) := by
        rw [drain, if_pos hdrained]
      rcases hpc with hpc | hpc <;> simp only [poll, hpc, hdrain]
    have hnext := supervised_poll h
    rw [hpoll] at hnext
    refine ⟨.ok (), ?_⟩
    rw [List.replicate_succ, run_cons]
    show (run next s.poll _).pc = _
    rw [hpoll]
    refine joining_completes _ hnext rfl (fun t ht => ?_) ?_
    · obtain ⟨t', ht', rfl⟩ := List.mem_map.mp ht
      obtain ⟨cancelled, rfl | rfl⟩ := hlisteners t' ht'
      · exact ⟨cancelled, .inl rfl⟩
      · exact ⟨cancelled, .inr rfl⟩
    · show (s.listeners.map _).length + 1 ≤ _
      rw [List.length_map]
      omega
  cases hpc : s.pc with
  | bind | accepting => rw [serving, hpc] at hserving; cases hserving
  | draining => exact hdrain (.inl hpc)
  | aborting => exact hdrain (.inr hpc)
  | joining k result => exact ⟨result, joining_completes _ h hpc hlisteners (by omega)⟩
  | returned result => exact ⟨result, returned_polls hpc _⟩

end ServerProcess

end OngrokRelay
