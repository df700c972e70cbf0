import OngrokRelay.SessionTasks

/-
  A fast reconnect: the clean-up of a session against the RegisterNode of its
  successor for the same node.

  The clean-up tests the session id in one section, removes the node's entry in
  a second and marks the node offline in a third; the successor enters the
  sessions map in one section and its node's record in another. Every order of
  these sections is a schedule.

  1. `good_step`: while the successor enters the map outside the gap between test
     and removal, and its record outside the gap between removal and mark, what
     it has entered stays.
  2. `bad_step`: entered in one of the gaps, it is taken down, and nothing puts
     it back.
  3. `successor_survives_iff`: so the successor survives exactly the schedules
     that keep it out of both gaps.
  4. `reconnect_taken_down`: a schedule that does not.
-/

namespace OngrokRelay

open Transition

/-- A session that ends and another session of the same node. -/
structure Reconnect where
  nodeId : NodeId
  oldTransport : TransportKind
  oldSessionId : TunnelId
  peer : Peer
  transport : TransportKind
  kind : TokenKind
  distinct : peer.sessionId ≠ oldSessionId

/-- The state with both control points: the old session's clean-up and the new
session's RegisterNode. -/
structure Race where
  st : AppState
  ending : CleanUpPc
  registering : RegisterNodePc
  deriving DecidableEq

/-- One of the two runs its next section. -/
inductive RaceEvent
  | ending (env : Env)
  | registering (env : Env)

namespace Reconnect

variable (c : Reconnect)

def step (r : Race) : RaceEvent → Race
  | .ending env =>
    let (st, ending) := cleanUpStep c.oldTransport c.nodeId c.oldSessionId env r.st r.ending
    { r with st, ending }
  | .registering env =>
    let (st, registering) := registerNodeStep c.peer c.transport
      (c.transport.session c.peer.connection) c.kind c.nodeId env r.st r.registering
    { r with st, registering }

/-- Both begin: the old session has ended, the new one has read its frame. -/
def start (st : AppState) (metadata : NodeMetadata) (publicKey : PublicKey) : Race :=
  ⟨st, .check, .identity metadata publicKey⟩

/-- The sessions map maps the node to the new session. -/
def Mapped (st : AppState) : Prop :=
  ∃ entry, st.sessions[c.nodeId]? = some entry ∧ entry.id = c.peer.sessionId

/-- The node's record is online. -/
def Online (st : AppState) : Prop :=
  ∃ node, st.nodes[c.nodeId]? = some node ∧ node.status = .online

def Survives (st : AppState) : Prop := c.Mapped st ∧ c.Online st

end Reconnect

/-! ## Ranges of control points -/

/-- Past the mark, or past a test that found another session. -/
@[simp] def CleanUpPc.over : CleanUpPc → Bool
  | .put _ | .event | .done _ => true
  | _ => false

/-- The session is in the map, and its handler goes on. -/
@[simp] def RegisterNodePc.activated : RegisterNodePc → Bool
  | .close _ _ _ | .insertNode _ | .put _ | .event | .done (.ok _) => true
  | _ => false

/-- The record is in the map, and the handler goes on. -/
@[simp] def RegisterNodePc.inserted : RegisterNodePc → Bool
  | .put _ | .event | .done (.ok _) => true
  | _ => false

/-- The successor enters the sessions map outside the gap between test and
removal, and its record outside the gap between removal and mark. -/
def OutsideGaps (r : Race) : RaceEvent → Prop
  | .ending _ => True
  | .registering _ =>
    (r.registering.isActivate → r.ending.isRemove = false) ∧
    (r.registering.isInsert → r.ending.isMark = false)

instance (r : Race) : ∀ e : RaceEvent, Decidable (OutsideGaps r e)
  | .ending _ => inferInstanceAs (Decidable True)
  | .registering _ => inferInstanceAs (Decidable (
      (r.registering.isActivate → r.ending.isRemove = false) ∧
      (r.registering.isInsert → r.ending.isMark = false)))

namespace Reconnect

variable {c : Reconnect}

/-- A record about to be inserted is online. -/
def Ready (r : Race) : Prop :=
  ∀ node, r.registering = .insertNode node → node.status = .online

/-- What the successor has entered is there, and the clean-up will not touch it. -/
structure Good (c : Reconnect) (r : Race) : Prop where
  ready : Ready r
  mapped : r.registering.activated → r.ending.isRemove = false ∧ c.Mapped r.st
  online : r.registering.inserted → r.ending.isMark = false ∧ c.Online r.st

/-- Something the successor has entered is gone, or about to be taken down. -/
inductive Bad (c : Reconnect) (r : Race) : Prop
  | session (activated : r.registering.activated)
      (lost : r.ending.isRemove ∨
        (r.ending.isMark ∨ r.ending.over) ∧ r.st.sessions[c.nodeId]? = none)
  | node (inserted : r.registering.inserted)
      (lost : r.ending.isMark ∨ r.ending.over ∧ ¬c.Online r.st)

/-- The handler of the successor has failed. -/
def Failed (r : Race) : Prop := ∃ e, r.registering = .done (.error e)

/-! ## One section of the clean-up -/

/-- Where one section of the clean-up leads. -/
theorem cleanUpStep_pc (transport : TransportKind) (nodeId : NodeId) (sessionId : TunnelId)
    (env : Env) (st : AppState) (pc : CleanUpPc) :
    ((cleanUpStep transport nodeId sessionId env st pc).2.isRemove →
      sessionActive st nodeId sessionId = true) ∧
    ((cleanUpStep transport nodeId sessionId env st pc).2.isMark = pc.isRemove) ∧
    (pc.isMark ∨ pc.over → (cleanUpStep transport nodeId sessionId env st pc).2.over) := by
  cases pc with
  | check =>
    simp only [cleanUpStep]
    cases hactive : sessionActive st nodeId sessionId <;> simp
  | remove | event | done result => simp [cleanUpStep]
  | put node =>
    simp only [cleanUpStep]
    cases env.putNode node.nodeId <;> simp
  | markOffline =>
    simp only [cleanUpStep]
    generalize markOffline nodeId st = marked
    obtain ⟨st', _ | node⟩ := marked
    · simp
    · cases transport with
      | quic => simp
      | tcpTlsYamux =>
        simp only
        cases env.putNode node.nodeId <;> simp

/-! ## One section of RegisterNode -/

section
variable (peer : Peer) (transport : TransportKind) (clientSession : ClientSession)
  (kind : TokenKind) (nodeId : NodeId) (env : Env) (st : AppState) (pc : RegisterNodePc)

/-- Where one section of RegisterNode leads. -/
theorem registerNodeStep_pc :
    let next := (registerNodeStep peer transport clientSession kind nodeId env st pc).2
    (next.activated → pc.activated ∨ pc.isActivate) ∧
    (pc.activated ∨ pc.isActivate → next.activated ∨ ∃ e, next = .done (.error e)) ∧
    (next.inserted → pc.inserted ∨ pc.isInsert) ∧
    (pc.inserted ∨ pc.isInsert → next.inserted ∨ ∃ e, next = .done (.error e)) ∧
    ∀ node, next = .insertNode node → node.status = .online := by
  cases pc with
  | identity metadata publicKey =>
    simp only [registerNodeStep]
    cases validateNodeIdentity st.nodes nodeId publicKey <;> simp
  | activate metadata publicKey | insertNode node | event => simp [registerNodeStep]
  | close replaced metadata publicKey =>
    simp only [registerNodeStep]
    refine ⟨by simp, by simp, by simp, by simp, fun node h => ?_⟩
    cases h
    rfl
  | put node =>
    simp only [registerNodeStep]
    cases env.putNode node.nodeId <;> simp
  | done result => cases result <;> simp [registerNodeStep]

end

theorem activated_of_inserted {pc : RegisterNodePc} (h : pc.inserted) : pc.activated := by
  cases pc with
  | put node | event => rfl
  | done result =>
    cases result with
    | ok _ => rfl
    | error e => cases h
  | identity metadata publicKey | activate metadata publicKey
  | close replaced metadata publicKey | insertNode node => cases h

theorem isActivate_of_activated {pc : RegisterNodePc} (h : pc.activated) :
    pc.isActivate = false := by
  cases pc with
  | activate metadata publicKey => cases h
  | identity metadata publicKey | close replaced metadata publicKey | insertNode node | put node
  | event | done result => rfl

theorem isInsert_of_inserted {pc : RegisterNodePc} (h : pc.inserted) : pc.isInsert = false := by
  cases pc with
  | insertNode node => cases h
  | identity metadata publicKey | activate metadata publicKey
  | close replaced metadata publicKey | put node | event | done result => rfl

theorem isMark_of_over {pc : CleanUpPc} (h : pc.over) : pc.isMark = false := by
  cases pc with
  | markOffline => cases h
  | check | remove | put node | event | done result => rfl

/-! ## One event -/

/-- Outside the gaps, what the successor has entered stays. -/
theorem good_step {r : Race} (e : RaceEvent) (h : Good c r) (hout : OutsideGaps r e) :
    Good c (c.step r e) := by
  cases e with
  | ending env =>
    obtain ⟨-, hsessions, hnodes⟩ :=
      cleanUpStep_maps c.oldTransport c.nodeId c.oldSessionId env r.st r.ending
    obtain ⟨hremove, hmark, -⟩ :=
      cleanUpStep_pc c.oldTransport c.nodeId c.oldSessionId env r.st r.ending
    refine ⟨h.ready, fun ha => ?_, fun hi => ?_⟩
    · obtain ⟨hr, entry, hget, hid⟩ := h.mapped ha
      constructor
      · -- the test finds the successor's id, which is not the old one
        refine Bool.eq_false_iff.mpr fun hnext => ?_
        have hactive := hremove hnext
        rw [sessionActive, hget, Option.any_some, beq_iff_eq] at hactive
        exact c.distinct (hid.symm.trans hactive)
      · refine ⟨entry, ?_, hid⟩
        rw [hr] at hsessions
        exact (congrArg (·[c.nodeId]?) hsessions).trans hget
    · obtain ⟨hm, node, hget, hstatus⟩ := h.online hi
      constructor
      · -- a clean-up that does not remove never comes to its mark
        exact hmark.trans (h.mapped (activated_of_inserted hi)).1
      · refine ⟨node, ?_, hstatus⟩
        rw [hm] at hnodes
        exact (congrArg (·[c.nodeId]?) hnodes).trans hget
  | registering env =>
    obtain ⟨-, hsessions, hnodes, hinsert⟩ := registerNodeStep_maps c.peer c.transport
      (c.transport.session c.peer.connection) c.kind c.nodeId env r.st r.registering
    obtain ⟨hactivated, -, hinserted, -, hready⟩ := registerNodeStep_pc c.peer c.transport
      (c.transport.session c.peer.connection) c.kind c.nodeId env r.st r.registering
    refine ⟨hready, fun ha => ?_, fun hi => ?_⟩
    · rcases hactivated ha with ha | ha
      · obtain ⟨hr, entry, hget, hid⟩ := h.mapped ha
        refine ⟨hr, entry, ?_, hid⟩
        rw [isActivate_of_activated ha] at hsessions
        exact (congrArg (·[c.nodeId]?) hsessions).trans hget
      · rw [ha] at hsessions
        exact ⟨hout.1 ha, _, (congrArg (·[c.nodeId]?) hsessions).trans
          (BTreeMap.get_insert_self _ _ _), rfl⟩
    · rcases hinserted hi with hi | hi
      · obtain ⟨hm, node, hget, hstatus⟩ := h.online hi
        exact ⟨hm, node, (congrArg (·[c.nodeId]?) (hnodes (isInsert_of_inserted hi))).trans hget,
          hstatus⟩
      · cases hpc : r.registering with
        | insertNode node =>
          exact ⟨hout.2 hi, node, (congrArg (·[c.nodeId]?) (hinsert node hpc)).trans
            (BTreeMap.get_insert_self _ _ _), h.ready node hpc⟩
        | identity metadata publicKey | activate metadata publicKey
        | close replaced metadata publicKey | put node | event | done result =>
          rw [hpc] at hi
          cases hi

/-- In a gap, what the successor enters is about to be taken down. -/
theorem bad_of_inside {r : Race} {e : RaceEvent} (hin : ¬OutsideGaps r e) :
    Bad c (c.step r e) ∨ Failed (c.step r e) := by
  cases e with
  | ending env => exact absurd trivial hin
  | registering env =>
    obtain ⟨-, hactivated, -, hinserted, -⟩ := registerNodeStep_pc c.peer c.transport
      (c.transport.session c.peer.connection) c.kind c.nodeId env r.st r.registering
    simp only [OutsideGaps, not_and_or, Classical.not_imp, Bool.not_eq_false] at hin
    -- between test and removal, or between removal and mark
    rcases hin with ⟨ha, hr⟩ | ⟨hi, hm⟩
    · rcases hactivated (.inr ha) with h | h
      · exact .inl (.session h (.inl hr))
      · exact .inr h
    · rcases hinserted (.inr hi) with h | h
      · exact .inl (.node h (.inl hm))
      · exact .inr h

/-- What has been taken down is not put back. -/
theorem bad_step {r : Race} (e : RaceEvent) (h : Bad c r ∨ Failed r) :
    Bad c (c.step r e) ∨ Failed (c.step r e) := by
  rcases h with h | ⟨error, herror⟩
  · cases e with
    | ending env =>
      obtain ⟨-, hsessions, hnodes⟩ :=
        cleanUpStep_maps c.oldTransport c.nodeId c.oldSessionId env r.st r.ending
      obtain ⟨-, hmark, hover⟩ :=
        cleanUpStep_pc c.oldTransport c.nodeId c.oldSessionId env r.st r.ending
      left
      cases h with
      | session ha hlost =>
        refine .session ha (.inr ?_)
        rcases hlost with hr | ⟨hpast, hnone⟩
        · refine ⟨.inl (hmark.trans hr), ?_⟩
          rw [hr] at hsessions
          exact (congrArg (·[c.nodeId]?) hsessions).trans (BTreeMap.get_erase_self _ _)
        · refine ⟨.inr (hover hpast), ?_⟩
          refine (congrArg (·[c.nodeId]?) hsessions).trans ?_
          split
          · exact BTreeMap.get_erase_self _ _
          · exact hnone
      | node hi hlost =>
        rcases hlost with hm | ⟨ho, hoffline⟩
        · refine .node hi (.inr ⟨hover (.inl hm), ?_⟩)
          intro honline
          obtain ⟨node, hget, hstatus⟩ := honline
          rw [hm] at hnodes
          have hmarked := (congrArg (·[c.nodeId]?) hnodes).symm.trans hget
          rw [if_pos rfl, markOffline_get, if_pos rfl] at hmarked
          -- the record found there is one that was marked
          obtain ⟨old, -, rfl⟩ := Option.map_eq_some_iff.mp hmarked
          cases hstatus
        · refine .node hi (.inr ⟨hover (.inr ho), ?_⟩)
          intro honline
          obtain ⟨node, hget, hstatus⟩ := honline
          rw [isMark_of_over ho] at hnodes
          exact hoffline ⟨node, (congrArg (·[c.nodeId]?) hnodes).symm.trans hget, hstatus⟩
    | registering env =>
      obtain ⟨-, hsessions, hnodes, -⟩ := registerNodeStep_maps c.peer c.transport
        (c.transport.session c.peer.connection) c.kind c.nodeId env r.st r.registering
      obtain ⟨-, hactivated, -, hinserted, -⟩ := registerNodeStep_pc c.peer c.transport
        (c.transport.session c.peer.connection) c.kind c.nodeId env r.st r.registering
      cases h with
      | session ha hlost =>
        rcases hactivated (.inl ha) with hnext | hnext
        · refine .inl (.session hnext (hlost.imp_right fun ⟨hpast, hnone⟩ => ⟨hpast, ?_⟩))
          rw [isActivate_of_activated ha] at hsessions
          exact (congrArg (·[c.nodeId]?) hsessions).trans hnone
        · exact .inr hnext
      | node hi hlost =>
        rcases hinserted (.inl hi) with hnext | hnext
        · refine .inl (.node hnext (hlost.imp_right fun ⟨ho, hoffline⟩ => ⟨ho, ?_⟩))
          intro honline
          obtain ⟨node, hget, hstatus⟩ := honline
          have hkept := congrArg (·[c.nodeId]?) (hnodes (isInsert_of_inserted hi))
          exact hoffline ⟨node, hkept.symm.trans hget, hstatus⟩
        · exact .inr hnext
  · right
    cases e with
    | ending env => exact ⟨error, herror⟩
    | registering env =>
      refine ⟨error, ?_⟩
      simp only [step, herror, registerNodeStep]

/-! ## Whole schedules -/

theorem good_start (st : AppState) (metadata : NodeMetadata) (publicKey : PublicKey) :
    Good c (start st metadata publicKey) :=
  ⟨fun _ h => (by cases h), fun h => (by cases h), fun h => (by cases h)⟩

theorem bad_run {r : Race} (es : List RaceEvent) (h : Bad c r ∨ Failed r) :
    Bad c (run c.step r es) ∨ Failed (run c.step r es) :=
  run_of_step (P := fun r => Bad c r ∨ Failed r) (fun _ e => bad_step e) h es

/-- A schedule stays outside the gaps, or what the successor entered is gone. -/
theorem good_run {r : Race} (es : List RaceEvent) (h : Good c r) :
    (EveryStep c.step OutsideGaps r es ∧ Good c (run c.step r es)) ∨
    (¬EveryStep c.step OutsideGaps r es ∧
      (Bad c (run c.step r es) ∨ Failed (run c.step r es))) := by
  induction es generalizing r with
  | nil => exact .inl ⟨trivial, h⟩
  | cons e es ih =>
    by_cases hout : OutsideGaps r e
    · rcases ih (good_step e h hout) with ⟨hsteps, hgood⟩ | ⟨hsteps, hbad⟩
      · exact .inl ⟨⟨hout, hsteps⟩, hgood⟩
      · exact .inr ⟨fun hall => hsteps hall.2, hbad⟩
    · exact .inr ⟨fun hall => hout hall.1, bad_run es (bad_of_inside hout)⟩

/-- **The successor survives** the end of the session before it exactly when it
enters the sessions map outside the gap between the clean-up's test and its
removal, and its node's record outside the gap between removal and mark. -/
theorem successor_survives_iff (c : Reconnect) (st : AppState) (metadata : NodeMetadata)
    (publicKey : PublicKey) (es : List RaceEvent)
    (hregistered : (run c.step (start st metadata publicKey) es).registering = .done (.ok ()))
    (hended : ∃ result, (run c.step (start st metadata publicKey) es).ending = .done result) :
    c.Survives (run c.step (start st metadata publicKey) es).st ↔
      EveryStep c.step OutsideGaps (start st metadata publicKey) es := by
  obtain ⟨result, hended⟩ := hended
  rcases good_run es (good_start (c := c) st metadata publicKey) with ⟨hsteps, hgood⟩ | ⟨hsteps, hbad⟩
  · refine iff_of_true ⟨(hgood.mapped ?_).2, (hgood.online ?_).2⟩ hsteps
    · rw [hregistered]; rfl
    · rw [hregistered]; rfl
  · refine iff_of_false ?_ hsteps
    intro hsurvives
    obtain ⟨⟨entry, hentry, -⟩, honline⟩ := hsurvives
    -- the clean-up has ended, so what it was about to take down is down
    rcases hbad with hbad | ⟨e, he⟩
    · cases hbad with
      | session ha hlost =>
        rw [hended] at hlost
        rcases hlost with hr | ⟨-, hnone⟩
        · cases hr
        · rw [hnone] at hentry
          cases hentry
      | node hi hlost =>
        rw [hended] at hlost
        rcases hlost with hm | ⟨-, hoffline⟩
        · cases hm
        · exact hoffline honline
    · rw [hregistered] at he
      cases he

end Reconnect

/-! ## A reconnect in the gaps -/

namespace FastReconnect

def metadata : NodeMetadata := ⟨"host", "linux", "x86_64", "0.1.0", {}⟩

/-- A node's session has ended and its next one registers, both over QUIC. -/
def reconnect : Reconnect where
  nodeId := ⟨7⟩
  oldTransport := .quic
  oldSessionId := ⟨11⟩
  peer := ⟨2, ⟨12⟩, "203.0.113.7", 40001⟩
  transport := .quic
  kind := .user
  distinct := by decide

/-- What the RegisterNode of the old session has left. -/
def connected : AppState :=
  (registerNode {} ⟨1, ⟨11⟩, "203.0.113.7", 40000⟩ .quic (.quic 1) .user ⟨7⟩ metadata 5
    { tokens := ⟨none, some 2⟩ }).1

/-- The successor enters the map after the clean-up has tested the session id,
and its record after the clean-up has removed the session. -/
def schedule : List RaceEvent :=
  [.ending {}, .registering {}, .registering {}, .ending {}, .registering {}, .registering {},
    .ending {}, .ending {}, .ending {}, .registering {}, .registering {}]

/-- The clean-up is over before the successor begins. -/
def orderlySchedule : List RaceEvent :=
  [.ending {}, .ending {}, .ending {}, .ending {}, .ending {}, .registering {}, .registering {},
    .registering {}, .registering {}, .registering {}, .registering {}]

end FastReconnect

namespace Reconnect

open FastReconnect in
/-- **The clean-up of a session takes down its successor**: the sessions map holds
nothing for the node, whose record is offline. -/
theorem reconnect_taken_down :
    (run reconnect.step (start connected metadata 5) schedule).st.sessions[(⟨7⟩ : NodeId)]? =
      none ∧
    (run reconnect.step (start connected metadata 5) schedule).st.nodes[
      (⟨7⟩ : NodeId)]?.map NodeRecord.status = some .offline ∧
    ¬∀ (c : Reconnect) (st : AppState) (metadata : NodeMetadata) (publicKey : PublicKey)
      (es : List RaceEvent),
      (run c.step (start st metadata publicKey) es).registering = .done (.ok ()) →
      (∃ result, (run c.step (start st metadata publicKey) es).ending = .done result) →
      c.Survives (run c.step (start st metadata publicKey) es).st := by
  have hmapped : (run reconnect.step (start connected metadata 5) schedule).st.sessions[
      (⟨7⟩ : NodeId)]? = none := by decide +kernel
  refine ⟨hmapped, by decide +kernel, fun h => ?_⟩
  obtain ⟨entry, hentry, -⟩ := (h reconnect connected metadata 5 schedule (by decide +kernel)
    ⟨.ok (), by decide +kernel⟩).1
  rw [show reconnect.nodeId = ⟨7⟩ from rfl, hmapped] at hentry
  cases hentry

open FastReconnect in
theorem successor_survives_orderly :
    reconnect.Survives (run reconnect.step (start connected metadata 5) orderlySchedule).st ↔
      EveryStep reconnect.step OutsideGaps (start connected metadata 5) orderlySchedule :=
  successor_survives_iff reconnect connected metadata 5 orderlySchedule (by decide +kernel)
    ⟨.ok (), by decide +kernel⟩

end Reconnect

end OngrokRelay
