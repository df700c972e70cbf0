import OngrokRelay.TunnelDelivery

/-
  Where a tunnel leads.

  The server names the service in OpenStream, the client looks the name up in its own
  table, and the server relays once it has read an acknowledgement. Reads and writes may
  fail anywhere in between, a write also after it has written all there was to write.

  1. `partOf_read`: what is read from the part of a frame that has been written is that
     frame.
  2. `Routed.handler`, `Routed.opener`: the client looks up what it was asked for, and the
     server takes nothing but the word of a connected client.
  3. `tunnel_reaches`: so in every run a connection is one to an address that the table of
     the client had for the service asked for, a stream is open only when there is such a
     connection, and no byte goes either way before.
-/

namespace OngrokRelay

open Transition

namespace Tunnel

variable {format : FrameFormat} {t t' : Tunnel} {past : List TunnelEvent}

/-- The bytes of the frame, as far as a write has come. -/
def PartOf (format : FrameFormat) (frame : Frame) (bytes : List UInt8) : Prop :=
  bytes = [] ∨ ∃ encoded, format.encodeFrame frame = .ok encoded ∧ bytes <+: encoded

theorem partOf_write (format : FrameFormat) (frame : Frame) (failed : Option Nat) :
    PartOf format frame (format.writeControlFrame frame failed []).2 := by
  unfold FrameFormat.writeControlFrame
  cases hencoded : format.encodeFrame frame with
  | error e => exact .inl rfl
  | ok encoded =>
    cases failed with
    | none => exact .inr ⟨encoded, hencoded, List.prefix_rfl⟩
    | some taken => exact .inr ⟨encoded, hencoded, List.take_prefix taken encoded⟩

/-- **A frame read from part of a frame** is that frame. -/
theorem partOf_read (hformat : format.Lawful) {sent frame : Frame} {bytes rest : List UInt8}
    (hpart : PartOf format sent bytes)
    (h : format.readControlFrame bytes = (.ok frame, rest)) : frame = sent := by
  rcases hpart with rfl | ⟨encoded, hencoded, more, rfl⟩
  · rw [readControlFrame_nil] at h
    cases h
  · have hitem := Framing.Splitter.item_append (front_of_readControlFrame h) more
    have hwritten := FrameFormat.encodeFrame_written hformat hencoded []
    rw [List.append_nil, hitem, Framing.Front.item.injEq] at hwritten
    exact hwritten.1

/-- The table of the client had this address for the service, at one of the events. -/
def Offered (serviceId : ServiceId) (past : List TunnelEvent) (localAddress : String) : Prop :=
  ∃ env, TunnelEvent.handler env ∈ past ∧ env.localServices[serviceId]? = some localAddress

theorem Offered.later {serviceId : ServiceId} {localAddress : String}
    (h : Offered serviceId past localAddress) (e : TunnelEvent) :
    Offered serviceId (past ++ [e]) localAddress := by
  obtain ⟨env, hmem, hoffered⟩ := h
  exact ⟨env, List.mem_append_left [e] hmem, hoffered⟩

/-- What the two sides know of each other. -/
structure Routed (format : FrameFormat) (past : List TunnelEvent) (t : Tunnel) : Prop where
  accept : t.handler = .accept →
    PartOf format (.openStream t.tunnelId t.serviceId) t.toClient.bytes
  lookUp : ∀ tunnelId serviceId, t.handler = .lookUp tunnelId serviceId →
    tunnelId = t.tunnelId ∧ serviceId = t.serviceId
  connect : ∀ tunnelId localAddress, t.handler = .connect tunnelId localAddress →
    Offered t.serviceId past localAddress
  acknowledge : ∀ tunnelId, t.handler = .acknowledge tunnelId → t.connected = true
  relay : t.handler = .relay → t.connected = true
  /-- A client that has returned has not acknowledged what it is not connected for. -/
  ended : ∀ result, t.handler = .ended result → t.opener = .send ∨ t.opener = .await →
    t.connected = true ∨
      ∃ frame, (∀ ack, frame ≠ .openStreamAck ack) ∧ PartOf format frame t.toServer.bytes
  connected : t.connected = true → ∃ localAddress, Offered t.serviceId past localAddress
  opened : t.opener = .opened → t.connected = true

theorem routed_start (tunnelId : TunnelId) (serviceId : ServiceId) :
    Routed format [] { tunnelId, serviceId } where
  accept _ := .inl rfl
  lookUp _ _ h := nomatch h
  connect _ _ h := nomatch h
  acknowledge _ h := nomatch h
  relay h := nomatch h
  ended _ h := nomatch h
  connected h := nomatch h
  opened h := nomatch h

/-- What leaves the sides where they are, and what they wait for. -/
theorem Routed.keep (h : Routed format past t) (e : TunnelEvent)
    (hids : t'.tunnelId = t.tunnelId ∧ t'.serviceId = t.serviceId)
    (hopener : t'.opener = t.opener) (hhandler : t'.handler = t.handler)
    (hconnected : t'.connected = t.connected)
    (htoClient : t.handler = .accept → t'.toClient.bytes = t.toClient.bytes)
    (htoServer : t.opener ≠ .opened → t.handler ≠ .relay →
      t'.toServer.bytes = t.toServer.bytes) : Routed format (past ++ [e]) t' := by
  obtain ⟨htunnelId, hserviceId⟩ := hids
  refine ⟨fun hpc => ?_, fun tunnelId serviceId hpc => ?_, fun tunnelId localAddress hpc => ?_,
    fun tunnelId hpc => ?_, fun hpc => ?_, fun result hpc hunopened => ?_, fun hok => ?_,
    fun hpc => ?_⟩
  · rw [hhandler] at hpc
    rw [htunnelId, hserviceId, htoClient hpc]
    exact h.accept hpc
  · rw [htunnelId, hserviceId]
    exact h.lookUp tunnelId serviceId (hhandler ▸ hpc)
  · rw [hserviceId]
    exact (h.connect tunnelId localAddress (hhandler ▸ hpc)).later e
  · exact hconnected.trans (h.acknowledge tunnelId (hhandler ▸ hpc))
  · exact hconnected.trans (h.relay (hhandler ▸ hpc))
  · rw [hhandler] at hpc
    rw [hopener] at hunopened
    have hbytes := htoServer (by rcases hunopened with hpc | hpc <;> simp [hpc]) (by simp [hpc])
    rw [hconnected, hbytes]
    exact h.ended result hpc hunopened
  · rw [hserviceId]
    obtain ⟨localAddress, hoffered⟩ := h.connected (hconnected ▸ hok)
    exact ⟨localAddress, hoffered.later e⟩
  · exact hconnected.trans (h.opened (hopener ▸ hpc))

/-! ## The client's side -/

/-- Before the client has replied, the server has not opened the stream and there is nothing
for it to read. -/
theorem unanswered (h : InOrder format t) (hstage : t.handler = .accept ∨ Answering t.handler) :
    t.opener ≠ .opened ∧ t.toServer.bytes = [] := by
  obtain ⟨asked, down, answer, up, h⟩ := h
  have hrelay : t.handler ≠ .relay := by
    rcases hstage with hstage | hstage
    · simp [hstage]
    · exact (answering_ne hstage).2.1
  refine ⟨fun hopened => ?_, ?_⟩
  · obtain ⟨-, haccept, hanswering⟩ := h.handshake.opened hopened
    exact hstage.elim haccept hanswering
  · rw [h.toServer, h.handshake.early hstage, h.handshake.unrelayed hrelay]
    rfl

/-- A client that goes on from one await to the next. -/
theorem Routed.moves (h : Routed format past t) (e : TunnelEvent) {handler : HandlerPc}
    {toClient toServer : Pipe} (hopener : t.opener ≠ .opened) (haccept : handler ≠ .accept)
    (hended : ∀ result, handler ≠ .ended result)
    (hlookUp : ∀ tunnelId serviceId, handler = .lookUp tunnelId serviceId →
      tunnelId = t.tunnelId ∧ serviceId = t.serviceId)
    (hconnect : ∀ tunnelId localAddress, handler = .connect tunnelId localAddress →
      Offered t.serviceId (past ++ [e]) localAddress)
    (hacknowledge : (∃ tunnelId, handler = .acknowledge tunnelId) ∨ handler = .relay →
      t.connected = true) :
    Routed format (past ++ [e]) { t with handler, toClient, toServer } where
  accept hpc := absurd hpc haccept
  lookUp := hlookUp
  connect := hconnect
  acknowledge tunnelId hpc := hacknowledge (.inl ⟨tunnelId, hpc⟩)
  relay hpc := hacknowledge (.inr hpc)
  ended result hpc := absurd hpc (hended result)
  connected hok := by
    obtain ⟨localAddress, hoffered⟩ := h.connected hok
    exact ⟨localAddress, hoffered.later e⟩
  opened hopened := absurd hopened hopener

/-- A client that returns before it relays. -/
theorem Routed.ends (h : Routed format past t) (e : TunnelEvent) (env : TunnelEnv)
    (result : Outcome) {toClient toServer : Pipe} (hopener : t.opener ≠ .opened)
    (hreply : t.connected = true ∨
      ∃ frame, (∀ ack, frame ≠ .openStreamAck ack) ∧ PartOf format frame toServer.bytes) :
    Routed format (past ++ [e]) ({ t with toClient, toServer }.handlerEnded env result) where
  accept hpc := nomatch hpc
  lookUp _ _ hpc := nomatch hpc
  connect _ _ hpc := nomatch hpc
  acknowledge _ hpc := nomatch hpc
  relay hpc := nomatch hpc
  ended _ _ _ := hreply
  connected hok := by
    obtain ⟨localAddress, hoffered⟩ := h.connected hok
    exact ⟨localAddress, hoffered.later e⟩
  opened hpc := absurd hpc hopener

/-- **The client looks up what it was asked for**, and acknowledges what it is connected for. -/
theorem Routed.handler (hformat : format.Lawful) (h : Routed format past t)
    (hbytes : InOrder format t) (env : TunnelEnv) :
    Routed format (past ++ [.handler env]) (t.handlerStep format env) := by
  have hreply {toServer : Pipe} (hnil : toServer.bytes = []) : t.connected = true ∨
      ∃ frame, (∀ ack, frame ≠ .openStreamAck ack) ∧ PartOf format frame toServer.bytes :=
    .inr ⟨.goodbye, fun _ => nofun, .inl hnil⟩
  unfold handlerStep
  split
  · rename_i hpc
    obtain ⟨hopener, hnil⟩ := unanswered hbytes (.inl hpc)
    split
    · exact h.ends _ env _ hopener (hreply hnil)
    · split
      · split
        · rename_i tunnelId serviceId bytes hread
          have hasked := partOf_read hformat (h.accept hpc) hread
          cases hasked
          refine h.moves _ hopener (by simp) (by simp) ?_ (by simp) (by simp)
          rintro tunnelId serviceId heq
          cases heq
          exact ⟨rfl, rfl⟩
        · exact h.ends _ env _ hopener (hreply hnil)
        · exact h.ends _ env _ hopener (hreply hnil)
      · exact h.keep _ ⟨rfl, rfl⟩ rfl rfl rfl (fun _ => rfl) fun _ _ => rfl
  · rename_i tunnelId serviceId hpc
    obtain ⟨hopener, hnil⟩ := unanswered hbytes (.inr (by rw [hpc]; trivial))
    obtain ⟨-, rfl⟩ := h.lookUp tunnelId serviceId hpc
    unfold DataStream.lookedUp
    cases hlocal : env.localServices[t.serviceId]? with
    | none => exact h.ends _ env _ hopener (hreply hnil)
    | some localAddress =>
      refine h.moves _ hopener (by simp) (by simp) (by simp) ?_ (by simp)
      rintro tunnelId localAddress heq
      cases heq
      exact ⟨env, List.mem_append_right past (List.mem_singleton_self _), hlocal⟩
  · rename_i tunnelId localAddress hpc
    obtain ⟨hopener, -⟩ := unanswered hbytes (.inr (by rw [hpc]; trivial))
    have hoffered := (h.connect tunnelId localAddress hpc).later (.handler env)
    split
    · -- the connection is there
      exact ⟨nofun, nofun, nofun, fun _ _ => rfl, nofun, nofun, fun _ => ⟨localAddress, hoffered⟩,
        fun hopened => absurd hopened hopener⟩
    · exact h.moves _ hopener (by simp) (by simp) (by simp) (by simp) (by simp)
    · exact h.moves _ hopener (by simp) (by simp) (by simp) (by simp) (by simp)
  · rename_i message hpc
    obtain ⟨hopener, hnil⟩ := unanswered hbytes (.inr (by rw [hpc]; trivial))
    rw [hnil]
    exact h.ends _ env _ hopener (.inr ⟨.error message, fun _ => nofun, partOf_write format _ _⟩)
  · rename_i tunnelId hpc
    obtain ⟨hopener, -⟩ := unanswered hbytes (.inr (by rw [hpc]; trivial))
    have hconnected := h.acknowledge tunnelId hpc
    split
    · exact h.ends _ env _ hopener (.inl hconnected)
    · exact h.moves _ hopener (by simp) (by simp) (by simp) (by simp) fun _ => hconnected
  · exact h.keep _ ⟨rfl, rfl⟩ rfl rfl rfl (fun _ => rfl) fun _ _ => rfl
  · exact h.keep _ ⟨rfl, rfl⟩ rfl rfl rfl (fun _ => rfl) fun _ _ => rfl

/-! ## The server's side -/

/-- Of what the server can read, an acknowledgement is the word of a connected client. -/
theorem Routed.read_ack (hformat : format.Lawful) (h : Routed format past t)
    (hbytes : InOrder format t) (hpc : t.opener = .await) {frame : Frame} {rest : List UInt8}
    (hread : format.readControlFrame t.toServer.bytes = (.ok frame, rest)) :
    (∀ ack, frame ≠ .openStreamAck ack) ∨ t.connected = true := by
  have hnone (hstage : t.handler = .accept ∨ Answering t.handler) : t.connected = true := by
    rw [(unanswered hbytes hstage).2, readControlFrame_nil] at hread
    cases hread
  rcases handler_stages t.handler with hstage | hstage | hstage | ⟨result, hstage⟩
  · exact .inr (hnone (.inl hstage))
  · exact .inr (hnone (.inr hstage))
  · exact .inr (h.relay hstage)
  · rcases h.ended result hstage (.inr hpc) with hconnected | ⟨sent, hsent, hpart⟩
    · exact .inr hconnected
    · rw [partOf_read hformat hpart hread]
      exact .inl hsent

/-- A frame that opens the stream is an acknowledgement. -/
theorem ack_of_opened {frame : Frame} (h : t.acknowledged frame = .opened) :
    ∃ ack, frame = .openStreamAck ack := by
  unfold acknowledged DataStream.acknowledged at h
  split at h
  · exact ⟨_, rfl⟩
  · cases h
  · cases h

/-- A server that gives up. -/
theorem Routed.fails (h : Routed format past t) (e : TunnelEvent) (env : TunnelEnv)
    (reason : String) {toClient toServer : Pipe}
    (hpart : t.handler = .accept →
      PartOf format (.openStream t.tunnelId t.serviceId) toClient.bytes) :
    Routed format (past ++ [e]) ({ t with toClient, toServer }.openFailed env reason) where
  accept := hpart
  lookUp := h.lookUp
  connect tunnelId localAddress hpc := (h.connect tunnelId localAddress hpc).later e
  acknowledge := h.acknowledge
  relay := h.relay
  ended _ _ hpc := by rcases hpc with hpc | hpc <;> cases hpc
  connected hok := by
    obtain ⟨localAddress, hoffered⟩ := h.connected hok
    exact ⟨localAddress, hoffered.later e⟩
  opened hpc := nomatch hpc

/-- **The server takes nothing but the word of a connected client.** -/
theorem Routed.opener (hformat : format.Lawful) (h : Routed format past t)
    (hbytes : InOrder format t) (env : TunnelEnv) :
    Routed format (past ++ [.opener env]) (t.openerStep format env) := by
  have hlater (hok : t.connected = true) :
      ∃ localAddress, Offered t.serviceId (past ++ [.opener env]) localAddress := by
    obtain ⟨localAddress, hoffered⟩ := h.connected hok
    exact ⟨localAddress, hoffered.later _⟩
  unfold openerStep
  split
  · rename_i hpc
    have hnil : t.toClient.bytes = [] := by
      obtain ⟨asked, down, answer, up, hcarried⟩ := hbytes
      rw [hcarried.toClient, (hcarried.handshake.unsent hpc).1,
        hcarried.handshake.unopened (by simp [hpc])]
      rfl
    have hpart := partOf_write format (.openStream t.tunnelId t.serviceId) env.failed
    rw [hnil]
    split
    · rename_i hwrite
      rw [hwrite] at hpart
      exact h.fails _ env _ fun _ => hpart
    · rename_i hwrite
      rw [hwrite] at hpart
      exact ⟨fun _ => hpart, h.lookUp, fun tunnelId localAddress hpc' =>
        (h.connect tunnelId localAddress hpc').later _, h.acknowledge, h.relay,
        fun result hpc' _ => h.ended result hpc' (.inl hpc), hlater, nofun⟩
  · rename_i hpc
    split
    · exact h.fails _ env _ h.accept
    · split
      · split
        · exact h.fails _ env _ h.accept
        · rename_i frame bytes hread
          split
          · exact h.fails _ env _ h.accept
          · rename_i hnotFailed
            rcases acknowledged_cases t frame with hack | ⟨reason, hack⟩
            · rw [hack]
              have hconnected : t.connected = true := by
                obtain ⟨ack, hframe⟩ := ack_of_opened hack
                rcases h.read_ack hformat hbytes hpc hread with hother | hconnected
                · exact absurd hframe (hother ack)
                · exact hconnected
              exact ⟨h.accept, h.lookUp, fun tunnelId localAddress hpc' =>
                (h.connect tunnelId localAddress hpc').later _, h.acknowledge, h.relay,
                fun _ _ hpc' => (by rcases hpc' with hpc' | hpc' <;> cases hpc'), hlater,
                fun _ => hconnected⟩
            · exact absurd hack (hnotFailed reason)
      · exact h.keep _ ⟨rfl, rfl⟩ rfl rfl rfl (fun _ => rfl) fun _ _ => rfl
  · exact h.keep _ ⟨rfl, rfl⟩ rfl rfl rfl (fun _ => rfl) fun _ _ => rfl
  · exact h.keep _ ⟨rfl, rfl⟩ rfl rfl rfl (fun _ => rfl) fun _ _ => rfl

/-! ## Every event -/

/-- The relays and the programs leave the opening alone. -/
structure SameOpening (t t' : Tunnel) : Prop where
  tunnelId : t'.tunnelId = t.tunnelId
  serviceId : t'.serviceId = t.serviceId
  opener : t'.opener = t.opener
  handler : t'.handler = t.handler
  connected : t'.connected = t.connected

theorem serverStep_opening (t : Tunnel) (env : RelayEnv) : SameOpening t (t.serverStep env) := by
  unfold serverStep
  split <;> exact ⟨rfl, rfl, rfl, rfl, rfl⟩

theorem clientStep_opening (t : Tunnel) (env : RelayEnv) : SameOpening t (t.clientStep env) := by
  unfold clientStep
  split <;> exact ⟨rfl, rfl, rfl, rfl, rfl⟩

theorem targetStep_opening (t : Tunnel) (action : ProgramAction) :
    SameOpening t (t.targetStep action) := by
  unfold targetStep
  split <;> exact ⟨rfl, rfl, rfl, rfl, rfl⟩

theorem Routed.next (hformat : format.Lawful) (h : Routed format past t)
    (hbytes : InOrder format t) (e : TunnelEvent) :
    Routed format (past ++ [e]) (t.next format e) := by
  have hkeep {t' : Tunnel} (hsame : SameOpening t t')
      (htoClient : t.handler = .accept → t'.toClient.bytes = t.toClient.bytes)
      (htoServer : t.opener ≠ .opened → t.handler ≠ .relay →
        t'.toServer.bytes = t.toServer.bytes) : Routed format (past ++ [e]) t' :=
    h.keep e ⟨hsame.tunnelId, hsame.serviceId⟩ hsame.opener hsame.handler hsame.connected htoClient
      htoServer
  cases e with
  | opener env => exact h.opener hformat hbytes env
  | handler env => exact h.handler hformat hbytes env
  | server env =>
    have hstay (hpc : t.opener ≠ .opened) : t.serverStep env = t := by
      unfold serverStep
      split
      · rename_i hopened
        exact absurd hopened hpc
      · rfl
    refine hkeep (serverStep_opening t env) (fun hpc => ?_) fun hpc _ => ?_
    · rw [Tunnel.next, hstay (unanswered hbytes (.inl hpc)).1]
    · rw [Tunnel.next, hstay hpc]
  | client env =>
    have hstay (hpc : t.handler ≠ .relay) : t.clientStep env = t := by
      unfold clientStep
      split
      · rename_i hrelay
        exact absurd hrelay hpc
      · rfl
    refine hkeep (clientStep_opening t env) (fun hpc => ?_) fun _ hpc => ?_
    · rw [Tunnel.next, hstay (by simp [hpc])]
    · rw [Tunnel.next, hstay hpc]
  | visitor action =>
    exact hkeep ⟨rfl, rfl, rfl, rfl, rfl⟩ (fun _ => rfl) fun _ _ => rfl
  | target action =>
    have hpipes : (t.targetStep action).toClient = t.toClient ∧
        (t.targetStep action).toServer = t.toServer := by
      unfold targetStep
      split <;> exact ⟨rfl, rfl⟩
    refine hkeep (targetStep_opening t action) (fun _ => ?_) fun _ _ => ?_
    · rw [Tunnel.next, hpipes.1]
    · rw [Tunnel.next, hpipes.2]

/-- The handler neither speaks for the target nor loses the connection to it. -/
theorem handlerStep_target (format : FrameFormat) (t : Tunnel) (env : TunnelEnv) :
    (t.handlerStep format env).target = t.target ∧
      (t.connected = true → (t.handlerStep format env).connected = true) ∧
      (t.handlerStep format env).serviceId = t.serviceId := by
  unfold handlerStep
  split
  · split
    · exact ⟨rfl, id, rfl⟩
    · split
      · split <;> exact ⟨rfl, id, rfl⟩
      · exact ⟨rfl, id, rfl⟩
  · split <;> exact ⟨rfl, id, rfl⟩
  · split
    · exact ⟨rfl, fun _ => rfl, rfl⟩
    · exact ⟨rfl, id, rfl⟩
    · exact ⟨rfl, id, rfl⟩
  · exact ⟨rfl, id, rfl⟩
  · split <;> exact ⟨rfl, id, rfl⟩
  · exact ⟨rfl, id, rfl⟩
  · exact ⟨rfl, id, rfl⟩

/-- A target that nothing is connected to has done nothing. -/
def Idle (serviceId : ServiceId) (t : Tunnel) : Prop :=
  (t.connected = false → t.target = {}) ∧ t.serviceId = serviceId

theorem Idle.next {serviceId : ServiceId} (h : Idle serviceId t) (e : TunnelEvent) :
    Idle serviceId (t.next format e) := by
  have hkeep {t' : Tunnel} (htarget : t'.target = t.target)
      (hconnected : t.connected = true → t'.connected = true)
      (hserviceId : t'.serviceId = t.serviceId) : Idle serviceId t' := by
    refine ⟨fun hnot => htarget.trans (h.1 ?_), hserviceId.trans h.2⟩
    cases hconn : t.connected with
    | false => rfl
    | true =>
      rw [hconnected hconn] at hnot
      cases hnot
  cases e with
  | opener env =>
    have heffect := openerStep_effect format env t
    rw [Tunnel.next]
    generalize t.openerStep format env = t' at heffect
    cases heffect <;> exact hkeep rfl id rfl
  | handler env =>
    obtain ⟨htarget, hconnected, hserviceId⟩ := handlerStep_target format t env
    exact hkeep htarget hconnected hserviceId
  | server env =>
    rw [Tunnel.next, serverStep]
    split <;> exact hkeep rfl id rfl
  | client env =>
    rw [Tunnel.next, clientStep]
    split <;> exact hkeep rfl id rfl
  | visitor action => exact hkeep rfl id rfl
  | target action =>
    rw [Tunnel.next, targetStep]
    split
    · rename_i hconnected
      exact ⟨fun hnot => absurd (hnot.symm.trans hconnected) (by decide), h.2⟩
    · exact h

/-- Where a tunnel for the service leads, after the events. -/
structure Reaches (serviceId : ServiceId) (past : List TunnelEvent) (t : Tunnel) : Prop where
  dials : ∀ tunnelId localAddress, t.handler = .connect tunnelId localAddress →
    Offered serviceId past localAddress
  connected : t.connected = true → ∃ localAddress, Offered serviceId past localAddress
  opened : t.opener = .opened → t.connected = true
  silent : t.connected = false → t.target.received = [] ∧ t.visitor.received = []

/-- **A tunnel leads to the service asked for, or nowhere.** In every run, failures and torn
writes included, the client dials only what its table has for the service that the server
has named; the server takes the stream for open only when the client is connected; and
before that neither program receives a byte. -/
theorem tunnel_reaches {format : FrameFormat} (hformat : format.Lawful) (tunnelId : TunnelId)
    (serviceId : ServiceId) (events : List TunnelEvent) :
    Reaches serviceId events (run (Tunnel.next format) { tunnelId, serviceId } events) := by
  -- the history is needed for the table of an event that is over
  have hall : Routed format events (run (Tunnel.next format) { tunnelId, serviceId } events) ∧
      InOrder format (run (Tunnel.next format) { tunnelId, serviceId } events) ∧
      Idle serviceId (run (Tunnel.next format) { tunnelId, serviceId } events) :=
    run_history (I := fun past t => Routed format past t ∧ InOrder format t ∧ Idle serviceId t)
      ⟨routed_start tunnelId serviceId, inOrder_start tunnelId serviceId, fun _ => rfl, rfl⟩
      (fun _ e h => ⟨h.1.next hformat h.2.1 e, h.2.1.next hformat e, h.2.2.next e⟩) events
  obtain ⟨hrouted, ⟨asked, down, answer, up, hcarried⟩, hidle, hserviceId⟩ := hall
  have hoffered := hrouted.connected
  have hdials := hrouted.connect
  rw [hserviceId] at hoffered hdials
  refine ⟨hdials, hoffered, hrouted.opened, fun hnot => ?_⟩
  have htarget := hidle hnot
  refine ⟨by rw [htarget], List.prefix_nil.mp ?_⟩
  have harrived := hcarried.flowing.inward.sound.arrived
  simp only [inward, htarget] at harrived
  exact harrived

/-- The visit opens its stream, and the table had its target. -/
theorem tunnel_reaches_opening : ∃ localAddress, Offered ⟨7#128⟩ opening localAddress := by
  have hreaches := tunnel_reaches postcardFormat_lawful ⟨9#128⟩ ⟨7#128⟩ opening
  exact hreaches.connected (hreaches.opened (by decide +kernel))

end Tunnel
end OngrokRelay
