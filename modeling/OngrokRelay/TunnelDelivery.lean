import OngrokRelay.TunnelFlow

/-
  A tunnel that nobody breaks brings everything to its end.

  From any state in which both sides relay, their own I/O calls and the reads of the two
  programs suffice: each of them that does anything lessens what is left to do, and as long
  as something is under way one of them can do something. Neither direction waits for the
  other one.

  1. `Relaying.serverCall`, `Relaying.clientCall`: an I/O call is a move of one direction
     and leaves the other as it is.
  2. `Relaying.advance`: unless everything has arrived, some event lessens what is left.
  3. `tunnel_delivers`: so some events bring everything, and the ends, to the programs.
-/

namespace OngrokRelay

open Conveyor Transition

namespace Tunnel

variable {format : FrameFormat} {t t' : Tunnel}

/-- An I/O call that does not fail, or a read of a program. -/
def Handing : TunnelEvent → Prop
  | .server env | .client env => ∀ e, env.io ≠ .error e
  | .visitor (.receive _) | .target (.receive _) => True
  | _ => False

/-- The directions, once nothing in the pipes is protocol. -/
def toTargetWay (t : Tunnel) : Way := t.outward t.toClient.bytes

def toVisitorWay (t : Tunnel) : Way := t.inward t.toServer.bytes

/-- Both sides relay and neither has failed. -/
structure Relaying (t : Tunnel) : Prop where
  opener : t.opener = .opened
  handler : t.handler = .relay
  server : t.server.hasFailed = false
  client : t.client.hasFailed = false
  connected : t.connected = true
  flowing : Flowing t t.toClient.bytes t.toServer.bytes

/-- What has been sent, and whether that is all, is as it was. -/
structure SameSent (t t' : Tunnel) : Prop where
  visitor : t'.visitor.sent = t.visitor.sent
  target : t'.target.sent = t.target.sent
  visitorClosed : t'.fromVisitor.closed = t.fromVisitor.closed
  targetClosed : t'.fromTarget.closed = t.fromTarget.closed

theorem SameSent.refl (t : Tunnel) : SameSent t t := ⟨rfl, rfl, rfl, rfl⟩

theorem SameSent.trans {t'' : Tunnel} (h : SameSent t t') (h' : SameSent t' t'') :
    SameSent t t'' :=
  ⟨h'.visitor.trans h.visitor, h'.target.trans h.target,
    h'.visitorClosed.trans h.visitorClosed, h'.targetClosed.trans h.targetClosed⟩

/-- One direction has moved, the other has not. -/
structure Moved (t t' : Tunnel) (toTarget toVisitor : Way) : Prop where
  relaying : Relaying t'
  same : SameSent t t'
  toTargetWay : t'.toTargetWay = toTarget
  toVisitorWay : t'.toVisitorWay = toVisitor

/-- An I/O call leaves the end of its source as it is. -/
theorem source_closed {source source' sink sink' : Pipe} {c c' : Copying}
    (h : CopyEffect source sink c source' sink' c') : source'.closed = source.closed := by
  cases h <;> rfl

theorem Relaying.failures (h : Relaying t) : t.serverFailed = false ∧ t.clientFailed = false := by
  constructor
  · rw [serverFailed, h.opener, h.server]
    rfl
  · rw [clientFailed, h.handler, h.client]
    rfl

theorem Relaying.serverOutward (h : Relaying t) (hresult : t.server.result = none) {io : CopyIo}
    {entry middle : Pipe} {first : Copying}
    (hstep : t.server.outward.step io t.fromVisitor t.toClient = .ok (entry, middle, first)) :
    Moved t (t.serverStep { direction := .outward, io })
      { t.toTargetWay with entry, middle, first } t.toVisitorWay := by
  obtain ⟨down, up, hdown, hup, -, hflowing⟩ := h.flowing.serverRelay h.opener rfl
    (List.nil_append _).symm { direction := .outward, io }
  obtain ⟨houtward, hinward⟩ := joined_fields { t.server with outward := first }
  have hok := joined_hasFailed (r := { t.server with outward := first }) hresult
  rw [List.nil_append] at hdown
  subst hdown hup
  have heq : t.serverStep { direction := .outward, io } =
      { t with
        server := { t.server with outward := first }.joined
        fromVisitor := entry
        toClient := middle } := by
    simp only [serverStep, h.opener, Relay.step, hresult, hstep]
  rw [heq] at hflowing ⊢
  generalize { t.server with outward := first }.joined = server at houtward hinward hok hflowing
  refine ⟨⟨h.opener, h.handler, hok, h.client, h.connected, hflowing⟩,
    ⟨rfl, rfl, source_closed (Copying.step_effect hstep), rfl⟩, ?_, ?_⟩
  · simp only [Tunnel.toTargetWay, outward, serverFailed, clientFailed, houtward, hok, h.server]
  · simp only [Tunnel.toVisitorWay, inward, serverFailed, clientFailed, hinward, hok, h.server]

theorem Relaying.serverInward (h : Relaying t) (hresult : t.server.result = none) {io : CopyIo}
    {middle exit : Pipe} {second : Copying}
    (hstep : t.server.inward.step io t.toServer t.toVisitor = .ok (middle, exit, second)) :
    Moved t (t.serverStep { direction := .inward, io })
      t.toTargetWay { t.toVisitorWay with middle, exit, second } := by
  obtain ⟨down, up, hdown, hup, -, hflowing⟩ := h.flowing.serverRelay h.opener rfl
    (List.nil_append _).symm { direction := .inward, io }
  obtain ⟨houtward, hinward⟩ := joined_fields { t.server with inward := second }
  have hok := joined_hasFailed (r := { t.server with inward := second }) hresult
  rw [List.nil_append] at hdown
  subst hdown hup
  have heq : t.serverStep { direction := .inward, io } =
      { t with
        server := { t.server with inward := second }.joined
        toServer := middle
        toVisitor := exit } := by
    simp only [serverStep, h.opener, Relay.step, hresult, hstep]
  rw [heq] at hflowing ⊢
  generalize { t.server with inward := second }.joined = server at houtward hinward hok hflowing
  refine ⟨⟨h.opener, h.handler, hok, h.client, h.connected, hflowing⟩, ⟨rfl, rfl, rfl, rfl⟩, ?_, ?_⟩
  · simp only [Tunnel.toTargetWay, outward, serverFailed, clientFailed, houtward, hok, h.server]
  · simp only [Tunnel.toVisitorWay, inward, serverFailed, clientFailed, hinward, hok, h.server]

theorem Relaying.clientOutward (h : Relaying t) (hresult : t.client.result = none) {io : CopyIo}
    {entry middle : Pipe} {first : Copying}
    (hstep : t.client.outward.step io t.fromTarget t.toServer = .ok (entry, middle, first)) :
    Moved t (t.clientStep { direction := .outward, io })
      t.toTargetWay { t.toVisitorWay with entry, middle, first } := by
  obtain ⟨down, up, hdown, hup, -, hflowing⟩ := h.flowing.clientRelay h.handler rfl
    (List.nil_append _).symm { direction := .outward, io }
  obtain ⟨houtward, hinward⟩ := joined_fields { t.client with outward := first }
  have hok := joined_hasFailed (r := { t.client with outward := first }) hresult
  rw [List.nil_append] at hup
  subst hdown hup
  have heq : t.clientStep { direction := .outward, io } =
      { t with
        client := { t.client with outward := first }.joined
        fromTarget := entry
        toServer := middle } := by
    simp only [clientStep, h.handler, Relay.step, hresult, hstep]
  rw [heq] at hflowing ⊢
  generalize { t.client with outward := first }.joined = client at houtward hinward hok hflowing
  refine ⟨⟨h.opener, h.handler, h.server, hok, h.connected, hflowing⟩,
    ⟨rfl, rfl, rfl, source_closed (Copying.step_effect hstep)⟩, ?_, ?_⟩
  · simp only [Tunnel.toTargetWay, outward, serverFailed, clientFailed, hinward, hok, h.client]
  · simp only [Tunnel.toVisitorWay, inward, serverFailed, clientFailed, houtward, hok, h.client]

theorem Relaying.clientInward (h : Relaying t) (hresult : t.client.result = none) {io : CopyIo}
    {middle exit : Pipe} {second : Copying}
    (hstep : t.client.inward.step io t.toClient t.toTarget = .ok (middle, exit, second)) :
    Moved t (t.clientStep { direction := .inward, io })
      { t.toTargetWay with middle, exit, second } t.toVisitorWay := by
  obtain ⟨down, up, hdown, hup, -, hflowing⟩ := h.flowing.clientRelay h.handler rfl
    (List.nil_append _).symm { direction := .inward, io }
  obtain ⟨houtward, hinward⟩ := joined_fields { t.client with inward := second }
  have hok := joined_hasFailed (r := { t.client with inward := second }) hresult
  rw [List.nil_append] at hup
  subst hdown hup
  have heq : t.clientStep { direction := .inward, io } =
      { t with
        client := { t.client with inward := second }.joined
        toClient := middle
        toTarget := exit } := by
    simp only [clientStep, h.handler, Relay.step, hresult, hstep]
  rw [heq] at hflowing ⊢
  generalize { t.client with inward := second }.joined = client at houtward hinward hok hflowing
  refine ⟨⟨h.opener, h.handler, h.server, hok, h.connected, hflowing⟩, ⟨rfl, rfl, rfl, rfl⟩, ?_, ?_⟩
  · simp only [Tunnel.toTargetWay, outward, serverFailed, clientFailed, hinward, hok, h.client]
  · simp only [Tunnel.toVisitorWay, inward, serverFailed, clientFailed, houtward, hok, h.client]

/-! ## Going on -/

/-- A call that lessens what is left is not one of a relay that has returned. -/
theorem pending_of_call {r : Relay} {c : Copying} (hjoined : Joined r) (hok : r.hasFailed = false)
    (hpc : c.pc ≠ .returned) (hmine : r.outward = c ∨ r.inward = c) : r.result = none := by
  cases hresult : r.result with
  | none => rfl
  | some result =>
    cases result with
    | error e =>
      rw [Relay.hasFailed, hresult] at hok
      cases hok
    | ok copied =>
      obtain ⟨houtward, hinward, -⟩ := hjoined.ok copied hresult
      rcases hmine with rfl | rfl
      · exact absurd houtward hpc
      · exact absurd hinward hpc

theorem step_returned {c c' : Copying} {io : CopyIo} {source source' sink sink' : Pipe}
    (hpc : c.pc = .returned) (h : c.step io source sink = .ok (source', sink', c')) :
    source' = source ∧ sink' = sink ∧ c' = c := by
  unfold Copying.step at h
  rw [hpc] at h
  cases h
  exact ⟨rfl, rfl, rfl⟩

theorem call_not_error {c : Copying} {io : CopyIo} {source sink : Pipe}
    {next : Pipe × Pipe × Copying}
    (hpc : c.pc ≠ .returned) (h : c.step io source sink = .ok next) : ∀ e, io ≠ .error e := by
  rintro e rfl
  unfold Copying.step at h
  cases hpc' : c.pc with
  | returned => exact hpc hpc'
  | copying =>
    rw [hpc'] at h
    cases h
  | shutdown =>
    rw [hpc'] at h
    cases h

theorem act_receive {p : Program} {out input : Pipe} (hmore : p.sawEnd = false)
    (hbytes : input.bytes ≠ []) (n : Nat) :
    p.act (.receive n) out input = (out, { input with bytes := input.bytes.drop n },
      { p with received := p.received ++ input.bytes.take n }) := by
  simp only [Program.act, hmore, Bool.false_eq_true, if_false, if_neg hbytes]

theorem act_finished {p : Program} {out input : Pipe} (hmore : p.sawEnd = false)
    (hempty : input.bytes = []) (hclosed : input.closed = true) (n : Nat) :
    p.act (.receive n) out input = (out, input, { p with sawEnd := true }) := by
  simp only [Program.act, hmore, Bool.false_eq_true, if_false, if_pos hempty, hclosed]

/-- A move towards the target is an event. -/
theorem Relaying.toTargetMove (h : Relaying t) (format : FrameFormat) {w : Way}
    (hmove : t.toTargetWay.Move w)
    (hlt : w.left < t.toTargetWay.left) :
    ∃ e, Handing e ∧ Moved t (t.next format e) w t.toVisitorWay := by
  cases hmove with
  | @first io entry middle first hstep =>
    have hpc : t.server.outward.pc ≠ .returned := by
      intro hpc
      obtain ⟨rfl, rfl, rfl⟩ := step_returned hpc hstep
      exact Nat.lt_irrefl _ hlt
    exact ⟨.server { direction := .outward, io }, call_not_error hpc hstep,
      h.serverOutward (pending_of_call h.flowing.serverJoined h.server hpc (.inl rfl)) hstep⟩
  | @second io middle exit second hstep =>
    have hpc : t.client.inward.pc ≠ .returned := by
      intro hpc
      obtain ⟨rfl, rfl, rfl⟩ := step_returned hpc hstep
      exact Nat.lt_irrefl _ hlt
    exact ⟨.client { direction := .inward, io }, call_not_error hpc hstep,
      h.clientInward (pending_of_call h.flowing.clientJoined h.client hpc (.inr rfl)) hstep⟩
  | receive more bytes =>
    have hflowing := h.flowing.targetActs (.receive 1)
    have heq : t.targetStep (.receive 1) = { t with
        target := { t.target with received := t.target.received ++ t.toTarget.bytes.take 1 }
        toTarget := { t.toTarget with bytes := t.toTarget.bytes.drop 1 } } := by
      simp only [targetStep, h.connected, if_true,
        @act_receive t.target t.fromTarget t.toTarget more bytes]
    rw [heq] at hflowing
    refine ⟨.target (.receive 1), trivial, ?_⟩
    rw [Tunnel.next, heq]
    exact ⟨⟨h.opener, h.handler, h.server, h.client, h.connected, hflowing⟩,
      ⟨rfl, rfl, rfl, rfl⟩, rfl, rfl⟩
  | finished more empty closed =>
    have hflowing := h.flowing.targetActs (.receive 1)
    have heq : t.targetStep (.receive 1) = { t with
        target := { t.target with sawEnd := true } } := by
      simp only [targetStep, h.connected, if_true,
        @act_finished t.target t.fromTarget t.toTarget more empty closed]
    rw [heq] at hflowing
    refine ⟨.target (.receive 1), trivial, ?_⟩
    rw [Tunnel.next, heq]
    exact ⟨⟨h.opener, h.handler, h.server, h.client, h.connected, hflowing⟩,
      ⟨rfl, rfl, rfl, rfl⟩, rfl, rfl⟩

/-- A move towards the visitor is an event. -/
theorem Relaying.toVisitorMove (h : Relaying t) (format : FrameFormat) {w : Way}
    (hmove : t.toVisitorWay.Move w)
    (hlt : w.left < t.toVisitorWay.left) :
    ∃ e, Handing e ∧ Moved t (t.next format e) t.toTargetWay w := by
  cases hmove with
  | @first io entry middle first hstep =>
    have hpc : t.client.outward.pc ≠ .returned := by
      intro hpc
      obtain ⟨rfl, rfl, rfl⟩ := step_returned hpc hstep
      exact Nat.lt_irrefl _ hlt
    exact ⟨.client { direction := .outward, io }, call_not_error hpc hstep,
      h.clientOutward (pending_of_call h.flowing.clientJoined h.client hpc (.inl rfl)) hstep⟩
  | @second io middle exit second hstep =>
    have hpc : t.server.inward.pc ≠ .returned := by
      intro hpc
      obtain ⟨rfl, rfl, rfl⟩ := step_returned hpc hstep
      exact Nat.lt_irrefl _ hlt
    exact ⟨.server { direction := .inward, io }, call_not_error hpc hstep,
      h.serverInward (pending_of_call h.flowing.serverJoined h.server hpc (.inr rfl)) hstep⟩
  | receive more bytes =>
    have hflowing := h.flowing.visitorActs (.receive 1)
    have heq : t.visitorStep (.receive 1) = { t with
        visitor := { t.visitor with received := t.visitor.received ++ t.toVisitor.bytes.take 1 }
        toVisitor := { t.toVisitor with bytes := t.toVisitor.bytes.drop 1 } } := by
      simp only [visitorStep, @act_receive t.visitor t.fromVisitor t.toVisitor more bytes]
    rw [heq] at hflowing
    refine ⟨.visitor (.receive 1), trivial, ?_⟩
    rw [Tunnel.next, heq]
    exact ⟨⟨h.opener, h.handler, h.server, h.client, h.connected, hflowing⟩,
      ⟨rfl, rfl, rfl, rfl⟩, rfl, rfl⟩
  | finished more empty closed =>
    have hflowing := h.flowing.visitorActs (.receive 1)
    have heq : t.visitorStep (.receive 1) = { t with
        visitor := { t.visitor with sawEnd := true } } := by
      simp only [visitorStep, @act_finished t.visitor t.fromVisitor t.toVisitor more empty closed]
    rw [heq] at hflowing
    refine ⟨.visitor (.receive 1), trivial, ?_⟩
    rw [Tunnel.next, heq]
    exact ⟨⟨h.opener, h.handler, h.server, h.client, h.connected, hflowing⟩,
      ⟨rfl, rfl, rfl, rfl⟩, rfl, rfl⟩

/-- **Something goes on** until everything has arrived. -/
theorem Relaying.advance (h : Relaying t) (format : FrameFormat) :
    t.toTargetWay.Settled ∧ t.toVisitorWay.Settled ∨
      ∃ e, Handing e ∧ Relaying (t.next format e) ∧ SameSent t (t.next format e) ∧
        (t.next format e).toTargetWay.left + (t.next format e).toVisitorWay.left <
          t.toTargetWay.left + t.toVisitorWay.left := by
  obtain ⟨hserver, hclient⟩ := h.failures
  rcases h.flowing.outward.progress hserver hclient with hsettled | ⟨w, hmove, hlt⟩
  · rcases h.flowing.inward.progress hclient hserver with hsettled' | ⟨w, hmove, hlt⟩
    · exact .inl ⟨hsettled, hsettled'⟩
    · obtain ⟨e, he, hmoved⟩ := h.toVisitorMove format hmove hlt
      refine .inr ⟨e, he, hmoved.relaying, hmoved.same, ?_⟩
      rw [hmoved.toTargetWay, hmoved.toVisitorWay]
      exact Nat.add_lt_add_left hlt _
  · obtain ⟨e, he, hmoved⟩ := h.toTargetMove format hmove hlt
    refine .inr ⟨e, he, hmoved.relaying, hmoved.same, ?_⟩
    rw [hmoved.toTargetWay, hmoved.toVisitorWay]
    exact Nat.add_lt_add_right hlt _

theorem Relaying.settles (h : Relaying t) (format : FrameFormat) : ∃ more, (∀ e ∈ more, Handing e) ∧
    ∃ t', run (Tunnel.next format) t more = t' ∧ Relaying t' ∧ SameSent t t' ∧
      t'.toTargetWay.Settled ∧ t'.toVisitorWay.Settled := by
  -- what is left to do in both directions grows less
  have hstep (u : Tunnel) (hu : Relaying u ∧ SameSent t u) :
      (u.toTargetWay.Settled ∧ u.toVisitorWay.Settled) ∨ ∃ e, Handing e ∧
        (Relaying (u.next format e) ∧ SameSent t (u.next format e)) ∧
        (u.next format e).toTargetWay.left + (u.next format e).toVisitorWay.left <
          u.toTargetWay.left + u.toVisitorWay.left := by
    refine (hu.1.advance format).imp id fun hadvance => ?_
    obtain ⟨e, he, hrelaying, hsame, hlt⟩ := hadvance
    exact ⟨e, he, ⟨hrelaying, hu.2.trans hsame⟩, hlt⟩
  obtain ⟨more, hmore, ⟨hrelaying, hsame⟩, hsettled⟩ :=
    exists_run_of_progress (fun u : Tunnel => u.toTargetWay.left + u.toVisitorWay.left) hstep
      ⟨h, .refl t⟩
  exact ⟨more, hmore, _, rfl, hrelaying, hsame, hsettled⟩

/-! ## From the start -/

/-- The client has a connection to the target once it acknowledges the stream. -/
def Connects (t : Tunnel) : Prop :=
  (t.handler = .relay ∨ ∃ asked, t.handler = .acknowledge asked) → t.connected = true

theorem Connects.handler (h : Connects t) (env : TunnelEnv) :
    Connects (t.handlerStep format env) := by
  unfold handlerStep
  split
  · split
    · rintro (hpc | ⟨asked, hpc⟩) <;> cases hpc
    · split
      · split <;> rintro (hpc | ⟨asked, hpc⟩) <;> cases hpc
      · exact h
  · rename_i tunnelId serviceId hpc
    unfold DataStream.lookedUp
    cases env.localServices[serviceId]? with
    | none => rintro (hpc | ⟨asked, hpc⟩) <;> cases hpc
    | some localAddress => rintro (hpc | ⟨asked, hpc⟩) <;> cases hpc
  · split
    · exact fun _ => rfl
    · rintro (hpc | ⟨asked, hpc⟩) <;> cases hpc
    · rintro (hpc | ⟨asked, hpc⟩) <;> cases hpc
  · rintro (hpc | ⟨asked, hpc⟩) <;> cases hpc
  · rename_i asked hpc
    split
    · rintro (hpc | ⟨asked, hpc⟩) <;> cases hpc
    · exact fun _ => h (.inr ⟨asked, hpc⟩)
  · exact h
  · exact h

/-- The server's side and the programs leave the client's connection alone. -/
theorem next_connected (format : FrameFormat) (t : Tunnel) {e : TunnelEvent}
    (he : ∀ env, e ≠ .handler env) :
    (t.next format e).handler = t.handler ∧ (t.next format e).connected = t.connected := by
  cases e with
  | handler env => exact absurd rfl (he env)
  | opener env =>
    have heffect := openerStep_effect format env t
    rw [Tunnel.next]
    generalize t.openerStep format env = t' at heffect
    cases heffect <;> exact ⟨rfl, rfl⟩
  | server env =>
    rw [Tunnel.next, serverStep]
    split <;> exact ⟨rfl, rfl⟩
  | client env =>
    rw [Tunnel.next, clientStep]
    split <;> exact ⟨rfl, rfl⟩
  | visitor action => exact ⟨rfl, rfl⟩
  | target action =>
    rw [Tunnel.next, targetStep]
    split <;> exact ⟨rfl, rfl⟩

theorem Connects.next (h : Connects t) (e : TunnelEvent) : Connects (t.next format e) := by
  by_cases he : ∃ env, e = .handler env
  · obtain ⟨env, rfl⟩ := he
    exact h.handler env
  · obtain ⟨hhandler, hconnected⟩ :=
      t.next_connected format fun env heq => he ⟨env, heq⟩
    unfold Connects
    rw [hhandler, hconnected]
    exact h

/-- **A tunnel that nobody breaks delivers.** From any state that a run reaches with both sides
relaying and neither failed, there are I/O calls of the two relays and reads of the two
programs after which each program has received everything the other one has sent, has seen
the end if there is one, and, when both streams have been shut down, both functions have
returned with the number of bytes each way. -/
theorem tunnel_delivers {format : FrameFormat} (hformat : format.Lawful) (tunnelId : TunnelId)
    (serviceId : ServiceId) (events : List TunnelEvent) :
    EveryState (Tunnel.next format)
      (fun t => t.opener = .opened → t.handler = .relay → t.serverFailed = false →
        t.clientFailed = false → ∃ more, (∀ e ∈ more, Handing e) ∧
          ∃ t', run (Tunnel.next format) t more = t' ∧
            t'.target.received = t.visitor.sent ∧ t'.visitor.received = t.target.sent ∧
            (t.fromVisitor.closed = true → t'.target.sawEnd = true) ∧
            (t.fromTarget.closed = true → t'.visitor.sawEnd = true) ∧
            (t.fromVisitor.closed = true → t.fromTarget.closed = true →
              t'.server.result = some (.ok (t.visitor.sent.length, t.target.sent.length)) ∧
              t'.client.result = some (.ok (t.target.sent.length, t.visitor.sent.length))))
      { tunnelId, serviceId } events := by
  have hconnects : EveryState (Tunnel.next format) (fun t => Connects t ∧ InOrder format t)
      { tunnelId, serviceId } events := by
    refine everyState_of_step (fun t e h => ⟨h.1.next e, h.2.next hformat e⟩)
      ⟨?_, inOrder_start tunnelId serviceId⟩ events
    rintro (hpc | ⟨asked, hpc⟩) <;> cases hpc
  refine hconnects.mono ?_
  rintro t ⟨hconnected, asked, down, answer, up, h⟩ hopener hhandler hserver hclient
  obtain rfl := (h.handshake.opened hopener).1
  obtain rfl := h.handshake.taken (.inr hhandler)
  have hrelaying : Relaying t := by
    refine ⟨hopener, hhandler, ?_, ?_, hconnected (.inl hhandler), ?_⟩
    · rw [serverFailed, hopener] at hserver
      exact hserver
    · rw [clientFailed, hhandler] at hclient
      exact hclient
    · rw [h.toClient, h.toServer]
      exact h.flowing
  obtain ⟨more, hmore, t', hrun, hrelaying', hsame, htarget, hvisitor⟩ :=
    hrelaying.settles format
  refine ⟨more, hmore, t', hrun, htarget.received.trans hsame.visitor,
    hvisitor.received.trans hsame.target, fun hclosed => ?_, fun hclosed => ?_,
    fun hvisitorClosed htargetClosed => ?_⟩
  · exact (htarget.ended (hsame.visitorClosed.trans hclosed)).1
  · exact (hvisitor.ended (hsame.targetClosed.trans hclosed)).1
  · obtain ⟨-, hfirst, hsecond⟩ := htarget.ended (hsame.visitorClosed.trans hvisitorClosed)
    obtain ⟨-, hfirst', hsecond'⟩ := hvisitor.ended (hsame.targetClosed.trans htargetClosed)
    obtain ⟨hserver', hclient'⟩ := hrelaying'.failures
    have hflowing := hrelaying'.flowing
    have hlengths := hflowing.outward.second_returned hserver' hclient' hsecond
    have hlengths' := hflowing.inward.second_returned hclient' hserver' hsecond'
    rw [show (t'.outward _).sent = _ from hsame.visitor] at hlengths
    rw [show (t'.inward _).sent = _ from hsame.target] at hlengths'
    have hresult {r : Relay} (hjoined : Joined r) (hok : r.hasFailed = false)
        (houtward : r.outward.pc = .returned) (hinward : r.inward.pc = .returned) :
        r.result = some (.ok (r.outward.copied, r.inward.copied)) := by
      cases hresult : r.result with
      | none => exact absurd ⟨houtward, hinward⟩ (hjoined.pending hresult)
      | some result =>
        cases result with
        | error e =>
          rw [Relay.hasFailed, hresult] at hok
          cases hok
        | ok copied => rw [(hjoined.ok copied hresult).2.2]
    constructor
    · rw [hresult hflowing.serverJoined hrelaying'.server hfirst hsecond',
        show t'.server.outward.copied = _ from hlengths.2,
        show t'.server.inward.copied = _ from hlengths'.1]
    · rw [hresult hflowing.clientJoined hrelaying'.client hfirst' hsecond,
        show t'.client.outward.copied = _ from hlengths'.2,
        show t'.client.inward.copied = _ from hlengths.1]

theorem tunnel_delivers_opening : ∃ more, (∀ e ∈ more, Handing e) ∧
    (run (Tunnel.next postcardFormat) { tunnelId := ⟨9#128⟩, serviceId := ⟨7#128⟩ }
      (opening ++ more)).target.received = [71, 69, 84] := by
  obtain ⟨more, hmore, t', hrun, htarget, -⟩ :=
    (tunnel_delivers postcardFormat_lawful ⟨9#128⟩ ⟨7#128⟩ opening).last (by decide +kernel)
      (by decide +kernel) (by decide +kernel) (by decide +kernel)
  refine ⟨more, hmore, ?_⟩
  rw [run_append, hrun, htarget]
  decide +kernel

end Tunnel
end OngrokRelay
