import OngrokRelay.Tunnel

/-
  What a tunnel delivers, in every run of its two sides and its two programs.

  At any time the pipes between the sides hold what is left of the frames that opened the
  stream, and behind it bytes of the programs. What is protocol is read by the opening and
  what is not is relayed, so each direction is a row of six cells and every event is a
  move of it, or leaves it as it is.

  1. `Handshake.opener`, `Handshake.handler`: the opening reads its frames and no more.
  2. `InOrder.next`: every event keeps the two rows sound.
  3. `tunnel_in_order`: each program has received a prefix of what the other one has sent.
  4. `tunnel_end`: at the end it has received everything, or one of the sides has failed.
  5. `tunnel_counts`: what the two functions return is the number of bytes each way.
-/

namespace OngrokRelay

open Conveyor Transition

def OpenerPc.hasFailed : OpenerPc → Bool
  | .failed _ => true
  | _ => false

def HandlerPc.hasEnded : HandlerPc → Bool
  | .ended _ => true
  | _ => false

def Relay.hasFailed (r : Relay) : Bool :=
  match r.result with
  | some (.error _) => true
  | _ => false

namespace Tunnel

variable {format : FrameFormat} {t t' : Tunnel} {asked down answer up : List UInt8}

/-! ## The frames that open the stream -/

/-- What is in front of the relayed bytes: `asked` of those for the client, `answer` of those
for the server. -/
structure Handshake (format : FrameFormat) (opener : OpenerPc) (handler : HandlerPc)
    (asked down answer up : List UInt8) : Prop where
  unopened : opener ≠ .opened → down = []
  opened : opener = .opened → answer = [] ∧ handler ≠ .accept ∧ ¬Answering handler
  unsent : opener = .send → asked = [] ∧ answer = [] ∧ ¬(Answering handler ∨ handler = .relay)
  unrelayed : handler ≠ .relay → up = []
  early : handler = .accept ∨ Answering handler → answer = []
  accept : handler = .accept → Part format asked
  taken : Answering handler ∨ handler = .relay → asked = []
  relay : handler = .relay → opener = .await → ∃ frame, format.encodeFrame frame = .ok answer
  ended : ∀ result, handler = .ended result → opener = .await → Part format answer

theorem answering_ne {handler : HandlerPc} (h : Answering handler) :
    handler ≠ .accept ∧ handler ≠ .relay ∧ ∀ result, handler ≠ .ended result := by
  refine ⟨?_, ?_, fun result => ?_⟩ <;> rintro rfl <;> exact h

/-- The four stages of the client's side. -/
theorem handler_stages (handler : HandlerPc) :
    handler = .accept ∨ Answering handler ∨ handler = .relay ∨ ∃ result, handler = .ended result := by
  cases handler with
  | accept => exact .inl rfl
  | relay => exact .inr (.inr (.inl rfl))
  | ended result => exact .inr (.inr (.inr ⟨result, rfl⟩))
  | lookUp | connect | reject | acknowledge => exact .inr (.inl trivial)

/-- What the server reads of the opening, it reads of the protocol. -/
theorem Handshake.read_answer (hformat : format.Lawful) (hpc : t.opener = .await)
    (h : Handshake format t.opener t.handler asked down answer up)
    (hup : t.toServer.bytes = answer ++ up) :
    ∃ answer', (format.readControlFrame t.toServer.bytes).2 = answer' ++ up ∧
      (t.handler = .accept ∨ Answering t.handler → answer' = []) ∧
      ∀ frame, (format.readControlFrame t.toServer.bytes).1 = .ok frame →
        answer' = [] ∧ t.handler ≠ .accept ∧ ¬Answering t.handler := by
  have hearly : t.handler = .accept ∨ Answering t.handler →
      format.readControlFrame t.toServer.bytes =
        (.error "failed to read control frame length", []) := by
    intro hstage
    have hne : t.handler ≠ .relay := by
      rcases hstage with hstage | hstage
      · rw [hstage]
        simp
      · exact (answering_ne hstage).2.1
    rw [hup, h.early hstage, h.unrelayed hne]
    exact readControlFrame_nil
  rcases handler_stages t.handler with hstage | hstage | hstage | ⟨result, hstage⟩
  · rw [hearly (.inl hstage), h.unrelayed (by rw [hstage]; simp)]
    exact ⟨[], rfl, fun _ => rfl, fun _ hok => by cases hok⟩
  · rw [hearly (.inr hstage), h.unrelayed (answering_ne hstage).2.1]
    exact ⟨[], rfl, fun _ => rfl, fun _ hok => by cases hok⟩
  · obtain ⟨frame, hframe⟩ := h.relay hstage hpc
    rw [hup, FrameFormat.readControlFrame_of_item
      (FrameFormat.encodeFrame_written hformat hframe up), hstage]
    exact ⟨[], rfl, fun _ => rfl, fun _ _ => ⟨rfl, by simp, id⟩⟩
  · have hnil := h.unrelayed (by rw [hstage]; simp)
    rw [hnil, List.append_nil] at hup
    rw [hup, hnil, hstage]
    refine ⟨(format.readControlFrame answer).2, (List.append_nil _).symm, fun hearly' => ?_,
      fun frame hok => ⟨?_, by simp, id⟩⟩
    · rcases hearly' with hbad | hbad
      · cases hbad
      · cases hbad
    · exact readControlFrame_part hformat (h.ended result hstage hpc) (Prod.ext hok rfl)

/-- **The server's opening takes what is protocol**, and no byte behind it. -/
theorem Handshake.opener (hformat : format.Lawful)
    (h : Handshake format t.opener t.handler asked down answer up)
    (hdown : t.toClient.bytes = asked ++ down) (hup : t.toServer.bytes = answer ++ up)
    (heffect : OpenerEffect format t t') :
    ∃ asked' answer', t'.toClient.bytes = asked' ++ down ∧ t'.toServer.bytes = answer' ++ up ∧
      Handshake format t'.opener t'.handler asked' down answer' up := by
  cases heffect with
  | none => exact ⟨asked, answer, hdown, hup, h⟩
  | @sent pc frame encoded encodes =>
    obtain ⟨rfl, rfl, hhandler⟩ := h.unsent pc
    have hnil := h.unopened (by rw [pc]; simp)
    subst hnil
    exact ⟨encoded, [], by simp only [hdown, List.append_nil, List.nil_append], hup,
      fun _ => rfl, fun hpc => (by cases hpc), fun hpc => (by cases hpc), h.unrelayed,
      fun _ => rfl, fun _ => part_of_encodes encodes, fun hstage => absurd hstage hhandler,
      fun hstage => absurd (.inr hstage) hhandler, fun _ _ _ => .inl rfl⟩
  | @unsent pc env e part hpart =>
    obtain ⟨rfl, rfl, hhandler⟩ := h.unsent pc
    have hnil := h.unopened (by rw [pc]; simp)
    subst hnil
    exact ⟨part, [], by simp only [openFailed, hdown, List.append_nil, List.nil_append], hup,
      fun _ => rfl, fun hpc => (by cases hpc), fun hpc => (by cases hpc), h.unrelayed,
      fun _ => rfl, fun _ => hpart, fun hstage => absurd hstage hhandler,
      fun _ hpc => (by cases hpc), fun _ _ _ => .inl rfl⟩
  | failed pc env e =>
    exact ⟨asked, answer, hdown, hup, fun _ => h.unopened (by rw [pc]; simp),
      fun hpc => (by cases hpc), fun hpc => (by cases hpc), h.unrelayed, h.early, h.accept, h.taken,
      fun _ hpc => (by cases hpc), fun _ _ hpc => (by cases hpc)⟩
  | refused pc env e =>
    obtain ⟨answer', hbytes, hearly, -⟩ := h.read_answer hformat pc hup
    exact ⟨asked, answer', hdown, hbytes, fun _ => h.unopened (by rw [pc]; simp),
      fun hpc => (by cases hpc), fun hpc => (by cases hpc), h.unrelayed, hearly, h.accept, h.taken,
      fun _ hpc => (by cases hpc), fun _ _ hpc => (by cases hpc)⟩
  | @opened pc frame bytes reads =>
    obtain ⟨answer', hbytes, hearly, hread⟩ := h.read_answer hformat pc hup
    rw [reads] at hbytes hread
    obtain ⟨rfl, hne, hanswering⟩ := hread frame rfl
    exact ⟨asked, [], hdown, hbytes, fun hpc => absurd rfl hpc,
      fun _ => ⟨rfl, hne, hanswering⟩, fun hpc => (by cases hpc), h.unrelayed, hearly, h.accept,
      h.taken, fun _ hpc => (by cases hpc), fun _ _ hpc => (by cases hpc)⟩

/-- What the client reads of the opening, it reads of the protocol. -/
theorem Handshake.read_asked (hformat : format.Lawful)
    (h : Handshake format t.opener t.handler asked down answer up) (hpc : t.handler = .accept)
    (hdown : t.toClient.bytes = asked ++ down) :
    down = [] ∧ (t.opener = .send → (format.readControlFrame t.toClient.bytes).2 = []) ∧
      ∀ frame, (format.readControlFrame t.toClient.bytes).1 = .ok frame →
        (format.readControlFrame t.toClient.bytes).2 = [] ∧ t.opener ≠ .send := by
  have hnil := h.unopened fun hopened => (h.opened hopened).2.1 hpc
  subst hnil
  rw [List.append_nil] at hdown
  refine ⟨rfl, fun hsend => ?_, fun frame hok => ⟨?_, fun hsend => ?_⟩⟩
  · rw [hdown, (h.unsent hsend).1, readControlFrame_nil]
  · rw [hdown] at hok ⊢
    exact readControlFrame_part hformat (h.accept hpc) (Prod.ext hok rfl)
  · rw [hdown, (h.unsent hsend).1, readControlFrame_nil] at hok
    cases hok

/-- A side that returns before it relays leaves nothing behind that will be read. -/
theorem Handshake.end {opener : OpenerPc} {handler : HandlerPc}
    (h : Handshake format opener handler asked down answer up)
    (hpc : handler = .accept ∨ Answering handler) (result : Outcome) {asked' answer' : List UInt8}
    (hasked : opener = .send → asked' = []) (hanswer : opener = .send → answer' = [])
    (hpart : Part format answer') :
    Handshake format opener (.ended result) asked' down answer' up := by
  have hopener : opener ≠ .opened := by
    intro hopened
    obtain ⟨-, hne, hanswering⟩ := h.opened hopened
    rcases hpc with hpc | hpc
    · exact hne hpc
    · exact hanswering hpc
  have hrelay : handler ≠ .relay := by
    rcases hpc with hpc | hpc
    · rw [hpc]
      simp
    · exact (answering_ne hpc).2.1
  refine ⟨h.unopened, fun hopened => absurd hopened hopener, fun hsend => ?_,
    fun _ => h.unrelayed hrelay, ?_, fun hstage => (by cases hstage), ?_,
    fun hstage => (by cases hstage), fun _ _ _ => hpart⟩
  · refine ⟨hasked hsend, hanswer hsend, ?_⟩
    rintro (hstage | hstage)
    · exact hstage
    · cases hstage
  · rintro (hstage | hstage)
    · cases hstage
    · cases hstage
  · rintro (hstage | hstage)
    · cases hstage
    · cases hstage

/-- **The client's opening takes what is protocol**, and no byte behind it. -/
theorem Handshake.handler (hformat : format.Lawful)
    (h : Handshake format t.opener t.handler asked down answer up)
    (hdown : t.toClient.bytes = asked ++ down) (hup : t.toServer.bytes = answer ++ up)
    (heffect : HandlerEffect format t t') :
    ∃ asked' answer', t'.toClient.bytes = asked' ++ down ∧ t'.toServer.bytes = answer' ++ up ∧
      Handshake format t'.opener t'.handler asked' down answer' up := by
  cases heffect with
  | none => exact ⟨asked, answer, hdown, hup, h⟩
  | failed pc env result =>
    exact ⟨asked, answer, hdown, hup, h.end pc result (fun hsend => (h.unsent hsend).1)
      (fun _ => h.early pc) (.inl (h.early pc))⟩
  | refused pc env result =>
    obtain ⟨rfl, hsend, -⟩ := h.read_asked hformat pc hdown
    exact ⟨_, answer, (List.append_nil _).symm, hup, h.end (.inl pc) result hsend
      (fun _ => h.early (.inl pc)) (.inl (h.early (.inl pc)))⟩
  | @asked pc frame bytes reads handler answering =>
    obtain ⟨rfl, -, hread⟩ := h.read_asked hformat pc hdown
    rw [reads] at hread
    obtain ⟨rfl, hopener⟩ := hread frame rfl
    obtain ⟨hne, hrelay, hended⟩ := answering_ne answering
    refine ⟨[], answer, rfl, hup, fun _ => rfl, fun hopened => ?_, fun hsend => absurd hsend hopener,
      fun _ => h.unrelayed (by rw [pc]; simp), fun _ => h.early (.inl pc),
      fun hstage => absurd hstage hne, fun _ => rfl, fun hstage => absurd hstage hrelay,
      fun result hstage => absurd hstage (hended result)⟩
    exact absurd pc (h.opened hopened).2.1
  | moved pc handler answering connected =>
    obtain ⟨hne, hrelay, hended⟩ := answering_ne answering
    exact ⟨asked, answer, hdown, hup, h.unopened, fun hopened => absurd pc (h.opened hopened).2.2,
      fun hsend => absurd (.inl pc) (h.unsent hsend).2.2,
      fun _ => h.unrelayed (answering_ne pc).2.1, fun _ => h.early (.inr pc),
      fun hstage => absurd hstage hne, fun _ => h.taken (.inl pc),
      fun hstage => absurd hstage hrelay, fun result hstage => absurd hstage (hended result)⟩
  | @answered pc env result part hpart =>
    have hbytes : t.toServer.bytes ++ part = part ++ up := by
      rw [hup, h.early (.inr pc), h.unrelayed (answering_ne pc).2.1, List.append_nil,
        List.append_nil]
      rfl
    exact ⟨asked, part, hdown, hbytes, h.end (.inr pc) result (fun hsend => (h.unsent hsend).1)
      (fun hsend => absurd (.inl pc) (h.unsent hsend).2.2) hpart⟩
  | @relays pc frame encoded encodes =>
    have hbytes : t.toServer.bytes ++ encoded = encoded ++ up := by
      rw [hup, h.early (.inr pc), h.unrelayed (answering_ne pc).2.1, List.append_nil,
        List.append_nil]
      rfl
    refine ⟨asked, encoded, hdown, hbytes, h.unopened,
      fun hopened => absurd pc (h.opened hopened).2.2,
      fun hsend => absurd (.inl pc) (h.unsent hsend).2.2, fun hne => absurd rfl hne, ?_,
      fun hstage => (by cases hstage), fun _ => h.taken (.inl pc), fun _ _ => ⟨frame, encodes⟩,
      fun result hstage => (by cases hstage)⟩
    rintro (hstage | hstage)
    · cases hstage
    · cases hstage

/-! ## The two directions -/

def serverFailed (t : Tunnel) : Bool := t.opener.hasFailed || t.server.hasFailed

def clientFailed (t : Tunnel) : Bool := t.handler.hasEnded || t.client.hasFailed

/-- From the visitor to the target. -/
def outward (t : Tunnel) (down : List UInt8) : Way where
  sent := t.visitor.sent
  entry := t.fromVisitor
  first := t.server.outward
  middle := { t.toClient with bytes := down }
  second := t.client.inward
  exit := t.toTarget
  received := t.target.received
  sawEnd := t.target.sawEnd
  firstFailed := t.serverFailed
  secondFailed := t.clientFailed

/-- From the target to the visitor. -/
def inward (t : Tunnel) (up : List UInt8) : Way where
  sent := t.target.sent
  entry := t.fromTarget
  first := t.client.outward
  middle := { t.toServer with bytes := up }
  second := t.server.inward
  exit := t.toVisitor
  received := t.visitor.received
  sawEnd := t.visitor.sawEnd
  firstFailed := t.clientFailed
  secondFailed := t.serverFailed

/-- What `try_join!` has returned fits what the two directions have. -/
structure Joined (r : Relay) : Prop where
  ok : ∀ copied, r.result = some (.ok copied) →
    r.outward.pc = .returned ∧ r.inward.pc = .returned ∧
      copied = (r.outward.copied, r.inward.copied)
  pending : r.result = none → ¬(r.outward.pc = .returned ∧ r.inward.pc = .returned)

/-- Both directions flow, and a side that does not relay yet has done nothing. -/
structure Flowing (t : Tunnel) (down up : List UInt8) : Prop where
  outward : (t.outward down).Flows
  inward : (t.inward up).Flows
  serverJoined : Joined t.server
  clientJoined : Joined t.client
  serverFresh : t.opener ≠ .opened → t.server = {}
  clientFresh : t.handler ≠ .relay → t.client = {}

theorem joined_fresh : Joined {} := ⟨fun _ h => (by cases h), fun _ h => (by cases h.1)⟩

theorem joined_joined {r : Relay} (h : r.result = none) : Joined r.joined := by
  unfold Relay.joined
  split
  · rename_i hreturned
    refine ⟨fun copied hresult => ?_, fun hresult => (by cases hresult)⟩
    cases hresult
    exact ⟨hreturned.1, hreturned.2, rfl⟩
  · rename_i hpending
    refine ⟨fun copied hresult => ?_, fun _ => hpending⟩
    rw [h] at hresult
    cases hresult

/-- `try_join!` changes neither direction and is no failure. -/
theorem joined_fields (r : Relay) : r.joined.outward = r.outward ∧ r.joined.inward = r.inward := by
  unfold Relay.joined
  split <;> exact ⟨rfl, rfl⟩

theorem joined_hasFailed {r : Relay} (h : r.result = none) : r.joined.hasFailed = false := by
  unfold Relay.joined Relay.hasFailed
  split
  · rename_i hfailed
    split at hfailed
    · cases hfailed
    · rw [h] at hfailed
      cases hfailed
  · rfl

/-- All that one I/O call of a relay can do. -/
inductive RelayEffect (context : String) (ends : Ends) (r : Relay) : Ends → Relay → Prop
  | none : RelayEffect context ends r ends r
  | failed (pending : r.result = .none) (dropSocket dropTunnel : Bool) :
    RelayEffect context ends r (ends.dropped dropSocket dropTunnel)
      { r with result := some (.error context) }
  | outward (pending : r.result = .none) {source sink : Pipe} {r' : Relay}
      (effect : CopyEffect ends.socketIn ends.tunnelOut r.outward source sink r'.outward)
      (other : r'.inward = r.inward) (joined : Joined r') (ok : r'.hasFailed = false) :
    RelayEffect context ends r { ends with socketIn := source, tunnelOut := sink } r'
  | inward (pending : r.result = .none) {source sink : Pipe} {r' : Relay}
      (effect : CopyEffect ends.tunnelIn ends.socketOut r.inward source sink r'.inward)
      (other : r'.outward = r.outward) (joined : Joined r') (ok : r'.hasFailed = false) :
    RelayEffect context ends r { ends with tunnelIn := source, socketOut := sink } r'

theorem relayStep_effect (context : String) (env : RelayEnv) (ends : Ends) (r : Relay) :
    RelayEffect context ends r (r.step context env ends).1 (r.step context env ends).2 := by
  unfold Relay.step
  split
  · exact .none
  · rename_i hresult
    split
    · split
      · exact .failed hresult env.dropSocket env.dropTunnel
      · rename_i source sink c hstep
        obtain ⟨houtward, hinward⟩ := joined_fields { r with outward := c }
        exact .outward hresult (houtward.symm ▸ Copying.step_effect hstep) hinward
          (joined_joined hresult) (joined_hasFailed hresult)
    · split
      · exact .failed hresult env.dropSocket env.dropTunnel
      · rename_i source sink c hstep
        obtain ⟨houtward, hinward⟩ := joined_fields { r with inward := c }
        exact .inward hresult (hinward.symm ▸ Copying.step_effect hstep) houtward
          (joined_joined hresult) (joined_hasFailed hresult)

/-! ## The opening leaves the directions alone -/

variable {e : String}

theorem Flowing.openFailed (h : Flowing t down up) (hpc : t.opener ≠ .opened) (env : TunnelEnv)
    (e : String) : Flowing (t.openFailed env e) down up where
  outward := h.outward.firstCut env.dropTunnel
  inward := h.inward.secondCut env.dropSocket
  serverJoined := h.serverJoined
  clientJoined := h.clientJoined
  serverFresh _ := h.serverFresh hpc
  clientFresh := h.clientFresh

theorem Flowing.handlerEnded (h : Flowing t down up) (hpc : t.handler ≠ .relay) (env : TunnelEnv)
    (result : Outcome) : Flowing (t.handlerEnded env result) down up where
  outward := h.outward.secondCut env.dropSocket
  inward := h.inward.firstCut env.dropTunnel
  serverJoined := h.serverJoined
  clientJoined := h.clientJoined
  serverFresh := h.serverFresh
  clientFresh _ := h.clientFresh hpc

/-- A side that goes on with its opening has not failed, and the protocol is none of what is
relayed. -/
theorem Flowing.opening (h : Flowing t down up) (opener : OpenerPc) (handler : HandlerPc)
    (connected : Bool) (toClient toServer : List UInt8)
    (hopener : t.opener = opener ∨ t.opener ≠ .opened ∧ opener.hasFailed = t.opener.hasFailed)
    (hhandler : t.handler = handler ∨
      t.handler ≠ .relay ∧ handler.hasEnded = t.handler.hasEnded) :
    Flowing { t with
      opener, handler, connected
      toClient := { t.toClient with bytes := toClient }
      toServer := { t.toServer with bytes := toServer } } down up := by
  have hserver : t.opener.hasFailed = opener.hasFailed := by
    rcases hopener with rfl | ⟨-, heq⟩
    · rfl
    · exact heq.symm
  have hclient : t.handler.hasEnded = handler.hasEnded := by
    rcases hhandler with rfl | ⟨-, heq⟩
    · rfl
    · exact heq.symm
  refine ⟨?_, ?_, h.serverJoined, h.clientJoined, fun hne => ?_, fun hne => ?_⟩
  · have houtward := h.outward
    simp only [Tunnel.outward, serverFailed, clientFailed, hserver, hclient] at houtward ⊢
    exact houtward
  · have hinward := h.inward
    simp only [Tunnel.inward, serverFailed, clientFailed, hserver, hclient] at hinward ⊢
    exact hinward
  · rcases hopener with rfl | ⟨hpc, -⟩
    · exact h.serverFresh hne
    · exact h.serverFresh hpc
  · rcases hhandler with rfl | ⟨hpc, -⟩
    · exact h.clientFresh hne
    · exact h.clientFresh hpc

theorem Flowing.opener (h : Flowing t down up) (heffect : OpenerEffect format t t') :
    Flowing t' down up := by
  have hmoved {opener : OpenerPc} (hpc : t.opener = .send ∨ t.opener = .await)
      (hopener : opener.hasFailed = false) :
      t.opener ≠ .opened ∧ opener.hasFailed = t.opener.hasFailed := by
    rcases hpc with hpc | hpc <;> (rw [hpc, hopener]; exact ⟨by simp, rfl⟩)
  cases heffect with
  | none => exact h
  | sent pc encodes =>
    exact h.opening .await t.handler t.connected _ t.toServer.bytes (.inr (hmoved (.inl pc) rfl))
      (.inl rfl)
  | @unsent pc env e part hpart =>
    exact (h.opening t.opener t.handler t.connected (t.toClient.bytes ++ part) t.toServer.bytes
      (.inl rfl) (.inl rfl)).openFailed (by simp [pc]) env e
  | failed pc env e => exact h.openFailed (by simp [pc]) env e
  | refused pc env e =>
    exact (h.opening t.opener t.handler t.connected t.toClient.bytes
      (format.readControlFrame t.toServer.bytes).2 (.inl rfl) (.inl rfl)).openFailed
      (by simp [pc]) env e
  | opened pc reads =>
    exact h.opening .opened t.handler t.connected t.toClient.bytes _ (.inr (hmoved (.inr pc) rfl))
      (.inl rfl)

theorem answering_hasEnded {handler : HandlerPc} (h : Answering handler) :
    handler.hasEnded = false := by
  cases handler with
  | accept | relay | ended => exact absurd h id
  | lookUp | connect | reject | acknowledge => rfl

theorem Flowing.handler (h : Flowing t down up) (heffect : HandlerEffect format t t') :
    Flowing t' down up := by
  have hmoved {handler : HandlerPc} (hpc : t.handler = .accept ∨ Answering t.handler)
      (hhandler : handler.hasEnded = false) :
      t.handler ≠ .relay ∧ handler.hasEnded = t.handler.hasEnded := by
    rcases hpc with hpc | hpc
    · rw [hpc, hhandler]
      exact ⟨by simp, rfl⟩
    · rw [answering_hasEnded hpc]
      exact ⟨(answering_ne hpc).2.1, hhandler⟩
  cases heffect with
  | none => exact h
  | failed pc env result => exact h.handlerEnded (@hmoved .accept pc rfl).1 env result
  | refused pc env result =>
    exact (h.opening t.opener t.handler t.connected (format.readControlFrame t.toClient.bytes).2
      t.toServer.bytes (.inl rfl) (.inl rfl)).handlerEnded (by simp [pc]) env result
  | asked pc reads answering =>
    exact h.opening t.opener _ t.connected _ t.toServer.bytes (.inl rfl)
      (.inr (hmoved (.inl pc) (answering_hasEnded answering)))
  | moved pc handler answering connected =>
    exact h.opening t.opener handler connected t.toClient.bytes t.toServer.bytes (.inl rfl)
      (.inr (hmoved (.inr pc) (answering_hasEnded answering)))
  | @answered pc env result part hpart =>
    exact (h.opening t.opener t.handler t.connected t.toClient.bytes (t.toServer.bytes ++ part)
      (.inl rfl) (.inl rfl)).handlerEnded (answering_ne pc).2.1 env result
  | relays pc encodes =>
    exact h.opening t.opener .relay t.connected t.toClient.bytes _ (.inl rfl)
      (.inr (hmoved (.inr pc) rfl))

/-! ## Relaying -/

theorem pending_hasFailed {r : Relay} (h : r.result = none) : r.hasFailed = false := by
  unfold Relay.hasFailed
  rw [h]

theorem Flowing.serverRelay (h : Flowing t down up) (hpc : t.opener = .opened)
    (hanswer : t.toServer.bytes = up) (hasked : t.toClient.bytes = asked ++ down) (env : RelayEnv) :
    ∃ down' up', (t.serverStep env).toClient.bytes = asked ++ down' ∧
      (t.serverStep env).toServer.bytes = up' ∧ (up = [] → up' = []) ∧
      Flowing (t.serverStep env) down' up' := by
  have hstep := relayStep_effect "TCP relay copy failed" env
    ⟨t.fromVisitor, t.toVisitor, t.toServer, t.toClient⟩ t.server
  unfold serverStep
  rw [hpc]
  simp only
  revert hstep
  generalize t.server.step "TCP relay copy failed" env
    ⟨t.fromVisitor, t.toVisitor, t.toServer, t.toClient⟩ = result
  rcases result with ⟨ends, server⟩
  intro hstep
  simp only at hstep
  cases hstep with
  | none => exact ⟨down, up, hasked, hanswer, id, by rw [← hpc]; exact h⟩
  | failed pending dropSocket dropTunnel =>
    refine ⟨down, up, hasked, hanswer, id, ?_, ?_, ?_, h.clientJoined, fun hne => absurd rfl hne,
      h.clientFresh⟩
    · exact h.outward.firstCut dropTunnel
    · exact h.inward.secondCut dropSocket
    · exact ⟨fun copied hresult => (by cases hresult), fun hresult => (by cases hresult)⟩
  | @outward pending source sink r effect hother joined ok =>
    obtain ⟨down', hsink, hdown⟩ := Copying.step_behind hasked effect
    have hok : t.serverFailed = false := by
      rw [serverFailed, hpc, pending_hasFailed pending]
      rfl
    refine ⟨down', up, hsink, hanswer, id, ?_, ?_, joined, h.clientJoined,
      fun hne => absurd rfl hne, h.clientFresh⟩
    · have hflows := h.outward.firstStep hok hdown
      simp only [Tunnel.outward, serverFailed, clientFailed, ok] at hflows ⊢
      rw [hpc, pending_hasFailed pending] at hflows
      exact hflows
    · have hflows := h.inward
      simp only [Tunnel.inward, serverFailed, clientFailed, hother, ok] at hflows ⊢
      rw [hpc, pending_hasFailed pending] at hflows
      exact hflows
  | @inward pending source sink r effect hother joined ok =>
    have hok : t.serverFailed = false := by
      rw [serverFailed, hpc, pending_hasFailed pending]
      rfl
    refine ⟨down, source.bytes, hasked, rfl, fun hnil => ?_, ?_, ?_, joined,
      h.clientJoined, fun hne => absurd rfl hne, h.clientFresh⟩
    · exact effect.source_nil (hanswer.trans hnil)
    · have hflows := h.outward
      simp only [Tunnel.outward, serverFailed, clientFailed, hother, ok] at hflows ⊢
      rw [hpc, pending_hasFailed pending] at hflows
      exact hflows
    · rw [← hanswer] at h
      have hflows := h.inward.secondStep hok effect
      simp only [Tunnel.inward, serverFailed, clientFailed, ok] at hflows ⊢
      rw [hpc, pending_hasFailed pending] at hflows
      exact hflows

theorem Flowing.clientRelay (h : Flowing t down up) (hpc : t.handler = .relay)
    (hasked : t.toClient.bytes = down) (hanswer : t.toServer.bytes = answer ++ up)
    (env : RelayEnv) :
    ∃ down' up', (t.clientStep env).toClient.bytes = down' ∧
      (t.clientStep env).toServer.bytes = answer ++ up' ∧ (down = [] → down' = []) ∧
      Flowing (t.clientStep env) down' up' := by
  have hstep := relayStep_effect "local TCP relay copy failed" env
    ⟨t.fromTarget, t.toTarget, t.toClient, t.toServer⟩ t.client
  unfold clientStep
  rw [hpc]
  simp only
  revert hstep
  generalize t.client.step "local TCP relay copy failed" env
    ⟨t.fromTarget, t.toTarget, t.toClient, t.toServer⟩ = result
  rcases result with ⟨ends, client⟩
  intro hstep
  simp only at hstep
  cases hstep with
  | none => exact ⟨down, up, hasked, hanswer, id, by rw [← hpc]; exact h⟩
  | failed pending dropSocket dropTunnel =>
    refine ⟨down, up, hasked, hanswer, id, ?_, ?_, h.serverJoined, ?_, h.serverFresh,
      fun hne => absurd rfl hne⟩
    · exact h.outward.secondCut dropSocket
    · exact h.inward.firstCut dropTunnel
    · exact ⟨fun copied hresult => (by cases hresult), fun hresult => (by cases hresult)⟩
  | @outward pending source sink r effect hother joined ok =>
    obtain ⟨up', hsink, hup⟩ := Copying.step_behind hanswer effect
    have hok : t.clientFailed = false := by
      rw [clientFailed, hpc, pending_hasFailed pending]
      rfl
    refine ⟨down, up', hasked, hsink, id, ?_, ?_, h.serverJoined, joined, h.serverFresh,
      fun hne => absurd rfl hne⟩
    · have hflows := h.outward
      simp only [Tunnel.outward, serverFailed, clientFailed, hother, ok] at hflows ⊢
      rw [hpc, pending_hasFailed pending] at hflows
      exact hflows
    · have hflows := h.inward.firstStep hok hup
      simp only [Tunnel.inward, serverFailed, clientFailed, ok] at hflows ⊢
      rw [hpc, pending_hasFailed pending] at hflows
      exact hflows
  | @inward pending source sink r effect hother joined ok =>
    have hok : t.clientFailed = false := by
      rw [clientFailed, hpc, pending_hasFailed pending]
      rfl
    refine ⟨source.bytes, up, rfl, hanswer, fun hnil => ?_, ?_, ?_, h.serverJoined, joined,
      h.serverFresh, fun hne => absurd rfl hne⟩
    · exact effect.source_nil (hasked.trans hnil)
    · rw [← hasked] at h
      have hflows := h.outward.secondStep hok effect
      simp only [Tunnel.outward, serverFailed, clientFailed, ok] at hflows ⊢
      rw [hpc, pending_hasFailed pending] at hflows
      exact hflows
    · have hflows := h.inward
      simp only [Tunnel.inward, serverFailed, clientFailed, hother, ok] at hflows ⊢
      rw [hpc, pending_hasFailed pending] at hflows
      exact hflows

/-! ## The two programs -/

theorem Flowing.visitorActs (h : Flowing t down up) (action : ProgramAction) :
    Flowing (t.visitorStep action) down up := by
  cases action with
  | send bytes =>
    unfold visitorStep Program.act
    simp only
    split
    · exact h
    · rename_i hopen
      exact ⟨h.outward.send (Bool.eq_false_of_not_eq_true hopen) bytes, h.inward, h.serverJoined,
        h.clientJoined, h.serverFresh, h.clientFresh⟩
  | close =>
    exact ⟨h.outward.close, h.inward, h.serverJoined, h.clientJoined, h.serverFresh, h.clientFresh⟩
  | receive n =>
    unfold visitorStep Program.act
    simp only
    split
    · exact h
    · rename_i hopen
      have hopen := Bool.eq_false_of_not_eq_true hopen
      split
      · rename_i hempty
        cases hclosed : t.toVisitor.closed with
        | true =>
          exact ⟨h.outward, h.inward.sawEnd hempty hclosed, h.serverJoined, h.clientJoined,
            h.serverFresh, h.clientFresh⟩
        | false =>
          rw [← hopen]
          exact h
      · exact ⟨h.outward, h.inward.receive hopen n, h.serverJoined, h.clientJoined, h.serverFresh,
          h.clientFresh⟩

theorem Flowing.targetActs (h : Flowing t down up) (action : ProgramAction) :
    Flowing (t.targetStep action) down up := by
  unfold targetStep
  split
  · cases action with
    | send bytes =>
      unfold Program.act
      simp only
      split
      · exact h
      · rename_i hopen
        exact ⟨h.outward, h.inward.send (Bool.eq_false_of_not_eq_true hopen) bytes, h.serverJoined,
          h.clientJoined, h.serverFresh, h.clientFresh⟩
    | close =>
      exact ⟨h.outward, h.inward.close, h.serverJoined, h.clientJoined, h.serverFresh,
        h.clientFresh⟩
    | receive n =>
      unfold Program.act
      simp only
      split
      · exact h
      · rename_i hopen
        have hopen := Bool.eq_false_of_not_eq_true hopen
        split
        · rename_i hempty
          cases hclosed : t.toTarget.closed with
          | true =>
            exact ⟨h.outward.sawEnd hempty hclosed, h.inward, h.serverJoined, h.clientJoined,
              h.serverFresh, h.clientFresh⟩
          | false =>
            rw [← hopen]
            exact h
        · exact ⟨h.outward.receive hopen n, h.inward, h.serverJoined, h.clientJoined,
            h.serverFresh, h.clientFresh⟩
  · exact h

/-! ## Every event -/

/-- The protocol and the relayed bytes, apart. -/
structure Carried (format : FrameFormat) (t : Tunnel) (asked down answer up : List UInt8) :
    Prop where
  toClient : t.toClient.bytes = asked ++ down
  toServer : t.toServer.bytes = answer ++ up
  handshake : Handshake format t.opener t.handler asked down answer up
  flowing : Flowing t down up

/-- The bytes of a tunnel are in order. -/
def InOrder (format : FrameFormat) (t : Tunnel) : Prop :=
  ∃ asked down answer up, Carried format t asked down answer up

theorem inOrder_start (tunnelId : TunnelId) (serviceId : ServiceId) :
    InOrder format { tunnelId, serviceId } := by
  have hflows (w : Way) (hw : w = ⟨[], {}, {}, {}, {}, {}, [], false, false, false⟩) : w.Flows := by
    subst hw
    refine ⟨⟨rfl, ?_⟩, fun _ => ⟨fun hne => absurd rfl hne, by simp⟩,
      fun _ => ⟨fun hne => absurd rfl hne, by simp⟩, rfl, rfl⟩
    simp [Way.row, Pipe.cell, Copying.cell, Follows]
  refine ⟨[], [], [], [], rfl, rfl, ?_, hflows _ rfl, hflows _ rfl, joined_fresh, joined_fresh,
    fun _ => rfl, fun _ => rfl⟩
  exact ⟨fun _ => rfl, fun hpc => (by cases hpc), fun _ => ⟨rfl, rfl, fun hbad => by
      rcases hbad with hbad | hbad
      · exact hbad
      · cases hbad⟩,
    fun _ => rfl, fun _ => rfl, fun _ => .inl rfl, fun _ => rfl, fun hpc => (by cases hpc),
    fun _ hpc => (by cases hpc)⟩

/-- **Every event keeps the bytes in order.** -/
theorem InOrder.next (hformat : format.Lawful) (h : InOrder format t) (e : TunnelEvent) :
    InOrder format (t.next format e) := by
  obtain ⟨asked, down, answer, up, h⟩ := h
  cases e with
  | opener env =>
    have heffect := openerStep_effect format env t
    obtain ⟨asked', answer', hdown, hup, hhandshake⟩ :=
      h.handshake.opener hformat h.toClient h.toServer heffect
    exact ⟨asked', down, answer', up, hdown, hup, hhandshake, h.flowing.opener heffect⟩
  | handler env =>
    have heffect := handlerStep_effect format env t
    obtain ⟨asked', answer', hdown, hup, hhandshake⟩ :=
      h.handshake.handler hformat h.toClient h.toServer heffect
    exact ⟨asked', down, answer', up, hdown, hup, hhandshake, h.flowing.handler heffect⟩
  | server env =>
    by_cases hpc : t.opener = .opened
    · have hhandshake := h.handshake
      obtain ⟨rfl, hne, hanswering⟩ := hhandshake.opened hpc
      obtain ⟨down', up', hdown, hup, hnil, hflowing⟩ :=
        h.flowing.serverRelay hpc h.toServer h.toClient env
      have hsame : (t.serverStep env).opener = t.opener ∧
          (t.serverStep env).handler = t.handler := by
        unfold serverStep
        split <;> exact ⟨rfl, rfl⟩
      refine ⟨asked, down', [], up', hdown, hup, ?_, hflowing⟩
      show Handshake format (t.serverStep env).opener (t.serverStep env).handler _ _ _ _
      rw [hsame.1, hsame.2]
      exact ⟨fun hopened => absurd hpc hopened, hhandshake.opened, hhandshake.unsent,
        fun hrelay => hnil (hhandshake.unrelayed hrelay), hhandshake.early, hhandshake.accept,
        hhandshake.taken, hhandshake.relay, hhandshake.ended⟩
    · refine ⟨asked, down, answer, up, ?_⟩
      have hstay : t.serverStep env = t := by
        unfold serverStep
        split
        · rename_i hopened
          exact absurd hopened hpc
        · rfl
      show Carried format (t.serverStep env) _ _ _ _
      rw [hstay]
      exact h
  | client env =>
    by_cases hpc : t.handler = .relay
    · have hhandshake := h.handshake
      obtain rfl := hhandshake.taken (.inr hpc)
      obtain ⟨down', up', hdown, hup, hnil, hflowing⟩ :=
        h.flowing.clientRelay hpc h.toClient h.toServer env
      have hsame : (t.clientStep env).opener = t.opener ∧
          (t.clientStep env).handler = t.handler := by
        unfold clientStep
        split <;> exact ⟨rfl, rfl⟩
      refine ⟨[], down', answer, up', hdown, hup, ?_, hflowing⟩
      show Handshake format (t.clientStep env).opener (t.clientStep env).handler _ _ _ _
      rw [hsame.1, hsame.2]
      exact ⟨fun hopened => hnil (hhandshake.unopened hopened), hhandshake.opened,
        hhandshake.unsent, fun hrelay => absurd hpc hrelay, hhandshake.early, hhandshake.accept,
        hhandshake.taken, hhandshake.relay, hhandshake.ended⟩
    · refine ⟨asked, down, answer, up, ?_⟩
      have hstay : t.clientStep env = t := by
        unfold clientStep
        split
        · rename_i hrelay
          exact absurd hrelay hpc
        · rfl
      show Carried format (t.clientStep env) _ _ _ _
      rw [hstay]
      exact h
  | visitor action =>
    exact ⟨asked, down, answer, up, h.toClient, h.toServer, h.handshake,
      h.flowing.visitorActs action⟩
  | target action =>
    have hsame : (t.targetStep action).toClient = t.toClient ∧
        (t.targetStep action).toServer = t.toServer ∧
        (t.targetStep action).opener = t.opener ∧ (t.targetStep action).handler = t.handler := by
      unfold targetStep
      split <;> exact ⟨rfl, rfl, rfl, rfl⟩
    obtain ⟨htoClient, htoServer, hopener, hhandler⟩ := hsame
    refine ⟨asked, down, answer, up, ?_, ?_, ?_, h.flowing.targetActs action⟩
    · rw [Tunnel.next, htoClient, h.toClient]
    · rw [Tunnel.next, htoServer, h.toServer]
    · rw [Tunnel.next, hopener, hhandler]
      exact h.handshake

theorem inOrder_run (hformat : format.Lawful) (tunnelId : TunnelId) (serviceId : ServiceId)
    (events : List TunnelEvent) :
    EveryState (Tunnel.next format) (InOrder format) { tunnelId, serviceId } events :=
  everyState_of_step (fun _ e h => h.next hformat e) (inOrder_start tunnelId serviceId) events

/-- **Nothing is lost, doubled, reordered or added.** In every state of every run of a tunnel,
failures included, each program has received a prefix of what the other one has sent. -/
theorem tunnel_in_order {format : FrameFormat} (hformat : format.Lawful) (tunnelId : TunnelId)
    (serviceId : ServiceId) (events : List TunnelEvent) :
    EveryState (Tunnel.next format)
      (fun t => t.target.received <+: t.visitor.sent ∧ t.visitor.received <+: t.target.sent)
      { tunnelId, serviceId } events := by
  refine (inOrder_run hformat tunnelId serviceId events).mono ?_
  rintro t ⟨asked, down, answer, up, h⟩
  exact ⟨h.flowing.outward.sound.arrived, h.flowing.inward.sound.arrived⟩

/-- A direction that copies what there is, and then comes to its end. -/
def copies (direction : Direction) : List RelayEnv :=
  [⟨direction, .read 9, false, false⟩, ⟨direction, .write 9, false, false⟩,
    ⟨direction, .read 9, false, false⟩, ⟨direction, .flush, false, false⟩,
    ⟨direction, .shutdown, false, false⟩]

/-- The opening of a stream, with a visitor and a target that do not wait for it. -/
def opening : List TunnelEvent :=
  [.visitor (.send [71, 69]), .opener {}, .handler {},
    .handler { localServices := (∅ : BTreeMap ServiceId String).insert ⟨7#128⟩ "127.0.0.1:22" },
    .handler {}, .handler {}, .opener {}, .visitor (.send [84]), .target (.send [79, 75])]

/-- A whole visit. -/
def visit : List TunnelEvent :=
  opening ++ [.visitor .close, .target .close] ++ (copies .outward).map .server ++
    (copies .inward).map .client ++ (copies .outward).map .client ++
    (copies .inward).map .server ++
    [.target (.receive 9), .target (.receive 9), .visitor (.receive 9), .visitor (.receive 9)]

theorem tunnel_in_order_visit :
    EveryState (Tunnel.next postcardFormat)
        (fun t => t.target.received <+: t.visitor.sent ∧ t.visitor.received <+: t.target.sent)
        { tunnelId := ⟨9#128⟩, serviceId := ⟨7#128⟩ } visit ∧
      (run (Tunnel.next postcardFormat) { tunnelId := ⟨9#128⟩, serviceId := ⟨7#128⟩ }
        visit).visitor.received = [79, 75] :=
  ⟨tunnel_in_order postcardFormat_lawful _ _ visit, by decide +kernel⟩

/-- **An end is the end.** As long as neither side has failed, a program that comes to the end
of its stream has received everything the other one has sent, and the other one has shut its
stream down. -/
theorem tunnel_end {format : FrameFormat} (hformat : format.Lawful) (tunnelId : TunnelId)
    (serviceId : ServiceId) (events : List TunnelEvent) :
    EveryState (Tunnel.next format)
      (fun t => t.serverFailed = false → t.clientFailed = false →
        (t.target.sawEnd = true → t.target.received = t.visitor.sent ∧ t.fromVisitor.closed = true) ∧
        (t.visitor.sawEnd = true →
          t.visitor.received = t.target.sent ∧ t.fromTarget.closed = true))
      { tunnelId, serviceId } events := by
  refine (inOrder_run hformat tunnelId serviceId events).mono ?_
  rintro t ⟨asked, down, answer, up, h⟩ hserver hclient
  have hcut (w : Way) (hfirst : w.firstFailed = false) (hsecond : w.secondFailed = false) :
      ∀ c ∈ w.row, c.cut = false := by
    simp [Way.row, Pipe.cell, Copying.cell, hfirst, hsecond]
  refine ⟨fun hend => ?_, fun hend => ?_⟩
  · obtain ⟨hreceived, hall⟩ :=
      h.flowing.outward.sound.complete hend (hcut (t.outward down) hserver hclient)
    exact ⟨hreceived, hall (t.fromVisitor.cell false) (by simp [outward])⟩
  · obtain ⟨hreceived, hall⟩ :=
      h.flowing.inward.sound.complete hend (hcut (t.inward up) hclient hserver)
    exact ⟨hreceived, hall (t.fromTarget.cell false) (by simp [inward])⟩

theorem tunnel_end_visit :
    (run (Tunnel.next postcardFormat) { tunnelId := ⟨9#128⟩, serviceId := ⟨7#128⟩ }
      visit).target.received =
        (run (Tunnel.next postcardFormat) { tunnelId := ⟨9#128⟩, serviceId := ⟨7#128⟩ }
          visit).visitor.sent :=
  (((tunnel_end postcardFormat_lawful _ _ visit).last (by decide +kernel) (by decide +kernel)).1
    (by decide +kernel)).1

/-- **What the functions return is what was sent.** When one of the two `try_join!`s has
succeeded and the other side has not failed, its byte counts are the lengths of what the
visitor and the target have sent. -/
theorem tunnel_counts {format : FrameFormat} (hformat : format.Lawful) (tunnelId : TunnelId)
    (serviceId : ServiceId) (events : List TunnelEvent) :
    EveryState (Tunnel.next format)
      (fun t => t.serverFailed = false → t.clientFailed = false →
        (∀ fromVisitor fromClient, t.server.result = some (.ok (fromVisitor, fromClient)) →
          fromVisitor = t.visitor.sent.length ∧ fromClient = t.target.sent.length) ∧
        (∀ fromLocal fromRelay, t.client.result = some (.ok (fromLocal, fromRelay)) →
          fromLocal = t.target.sent.length ∧ fromRelay = t.visitor.sent.length))
      { tunnelId, serviceId } events := by
  refine (inOrder_run hformat tunnelId serviceId events).mono ?_
  rintro t ⟨asked, down, answer, up, h⟩ hserver hclient
  refine ⟨fun fromVisitor fromClient hresult => ?_, fun fromLocal fromRelay hresult => ?_⟩
  · obtain ⟨houtward, hinward, heq⟩ := h.flowing.serverJoined.ok _ hresult
    cases heq
    exact ⟨(h.flowing.outward.first_returned hserver houtward).1,
      (h.flowing.inward.second_returned hclient hserver hinward).1⟩
  · obtain ⟨houtward, hinward, heq⟩ := h.flowing.clientJoined.ok _ hresult
    cases heq
    exact ⟨(h.flowing.inward.first_returned hclient houtward).1,
      (h.flowing.outward.second_returned hserver hclient hinward).1⟩

theorem tunnel_counts_visit :
    3 = (run (Tunnel.next postcardFormat) { tunnelId := ⟨9#128⟩, serviceId := ⟨7#128⟩ }
      visit).visitor.sent.length ∧
    2 = (run (Tunnel.next postcardFormat) { tunnelId := ⟨9#128⟩, serviceId := ⟨7#128⟩ }
      visit).target.sent.length :=
  ((tunnel_counts postcardFormat_lawful _ _ visit).last (by decide +kernel)
    (by decide +kernel)).1 3 2 (by decide +kernel)

end Tunnel
end OngrokRelay
