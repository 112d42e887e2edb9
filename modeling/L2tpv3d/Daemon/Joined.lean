import L2tpv3d.Transport.Link
import L2tpv3d.Daemon.Input
import L2tpv3d.Daemon.Crash

/-!
# L2tpv3d — two tunnels joined by a network

The guarantee of the link between two peers, carried up to the daemons' tunnels. Beside each
tunnel runs the history of its peer, which the code does not keep: what was handed to `send`, what
was delivered, and the datagrams with the position of the message each holds.

* `Couples` — the history is that of the tunnel; `Said` — it is, once the calls of `send` of a
  step are added; `act_cases` — what a step of a station can be.
* `handed_datagram` — what a datagram delivers is what reaches the machines.
* **`handed_in_order`** — over any network, the machines are handed the messages of the other
  tunnel in order and each once.
-/

namespace L2tpv3d

open Py Prog

namespace Side

/-- What a side does in turn. -/
def run (s other : Side) (es : List Event) : Side := es.foldl (fun s e => s.act other e) s

/-- The call of `send` that queued an entry. -/
def sendOf (pending : PendingSend) : Event := .send pending.msg.avps pending.sentAt

theorem run_append (s other : Side) (es es' : List Event) :
    s.run other (es ++ es') = (s.run other es).run other es' := List.foldl_append ..

/-- A call of `send` delivers nothing, and hands over its message or nothing. -/
theorem act_send (s other : Side) (avps : List AVP) (now : ℚ) :
    (s.act other (.send avps now)).got = s.got ∧ (s.act other (.send avps now)).count = s.count ∧
      ∀ m ∈ (s.act other (.send avps now)).sent, m ∈ s.sent ∨ m = avps := by
  rw [act]
  rcases s.peer.send avps now with _ | ⟨msg, peer⟩
  · exact ⟨rfl, rfl, fun _ => .inl⟩
  · simp

/-- Sends take nothing in. -/
theorem run_sends (s other : Side) (more : List PendingSend) :
    (s.run other (more.map sendOf)).got = s.got ∧ (s.run other (more.map sendOf)).count = s.count ∧
      ∀ m ∈ (s.run other (more.map sendOf)).sent, m ∈ s.sent ∨ ∃ p ∈ more, m = p.msg.avps := by
  induction more generalizing s with
  | nil => exact ⟨rfl, rfl, fun _ => .inl⟩
  | cons p more ih =>
    obtain ⟨hgot, hcount, hsent⟩ := s.act_send other p.msg.avps p.sentAt
    obtain ⟨hgot', hcount', hsent'⟩ := ih (s.act other (sendOf p))
    refine ⟨hgot'.trans hgot, hcount'.trans hcount, fun m hm => ?_⟩
    rcases hsent' m hm with hm | ⟨p', hp', rfl⟩
    · rcases hsent m hm with hm | rfl
      · exact .inl hm
      · exact .inr ⟨p, List.mem_cons_self, rfl⟩
    · exact .inr ⟨p', List.mem_cons_of_mem _ hp', rfl⟩

/-- No call of `send` queues more than one message; if each has queued one, each has handed over
its message. -/
theorem sent_run_sends (s other : Side) (more : List PendingSend) :
    (s.run other (more.map sendOf)).peer.sendQueue.length
      ≤ s.peer.sendQueue.length + more.length ∧
    (s.peer.sendQueue.length + more.length
        ≤ (s.run other (more.map sendOf)).peer.sendQueue.length →
      (s.run other (more.map sendOf)).sent = s.sent ++ more.map (·.msg.avps)) := by
  -- on the sends: one that is refused leaves the queue shorter than the whole
  induction more generalizing s with
  | nil => exact ⟨le_refl _, fun _ => (List.append_nil _).symm⟩
  | cons p more ih =>
    have hrun : s.run other ((p :: more).map sendOf)
        = (s.act other (.send p.msg.avps p.sentAt)).run other (more.map sendOf) := rfl
    rw [hrun, act]
    cases hsend : s.peer.send p.msg.avps p.sentAt with
    | error e =>
      obtain ⟨hle, -⟩ := ih s
      refine ⟨hle.trans (by simp), fun hall => absurd (hall.trans hle) (by simp)⟩
    | ok r =>
      obtain ⟨msg, peer⟩ := r
      obtain ⟨-, -, _, -, hpeer⟩ := Peer.send_eq_ok.mp hsend
      have hqueue : peer.sendQueue.length = s.peer.sendQueue.length + 1 := by simp [hpeer]
      obtain ⟨hle, hsent⟩ := ih ({ s with peer := peer, sent := s.sent ++ [p.msg.avps] }.emit
        (some s.sent.length) msg)
      rw [emit_peer, hqueue, Nat.add_assoc, Nat.add_comm 1] at hle hsent
      refine ⟨hle, fun hall => ?_⟩
      rw [hsent hall, emit_sent, List.map_cons, List.append_assoc, List.singleton_append]

end Side

/-- What the sender does in turn keeps its direction. -/
theorem Flow.run_sender {a b : Side} (h : Flow a b) (es : List Side.Event) : Flow (a.run b es) b := by
  induction es generalizing a with
  | nil => exact h
  | cons e es ih => exact ih (h.sender_step e)

/-- What the receiver does in turn keeps its direction, if it receives nothing. -/
theorem Flow.run_receiver {a b : Side} (h : Flow a b) {es : List Side.Event}
    (hes : ∀ e ∈ es, ∀ s : Side, s.Near a e) : Flow a (b.run a es) := by
  induction es generalizing b with
  | nil => exact h
  | cons e es ih =>
    exact ih (h.receiver_step e (hes e List.mem_cons_self b)) fun e' he' =>
      hes e' (List.mem_cons_of_mem _ he')

/-- A tick resends no more datagrams than there are expired entries. -/
theorem Peer.tick_bytes {p p' : Peer} {now : ℚ} {resends : List Bytes} {dead : Bool}
    (h : p.tick now = (.ok (resends, dead), p')) (base count : Nat) :
    ((resends.zip (Peer.resendPositions now base p.sendQueue)).map fun (bs, i) =>
      (⟨bs, some i, count⟩ : Datagram)).map (·.bytes) = resends := by
  have hlen : resends.length ≤ (Peer.resendPositions now base p.sendQueue).length := by
    -- no entry is due; the queue gone through; an exception in it
    rcases Peer.tick_cases p now with ⟨-, ht⟩ | ⟨-, queue, result, hloop, ⟨resend, dead', rfl, ht⟩ |
        ⟨e, -, ht⟩⟩
    · rw [h] at ht
      cases ht
      exact Nat.zero_le _
    · rw [h] at ht
      cases ht
      cases dead with
      | true => rw [Peer.resend_of_dead hloop]; exact Nat.zero_le _
      | false => exact (Peer.length_resend base hloop).le
    · rw [h] at ht
      cases ht
  rw [List.map_map]
  calc (resends.zip (Peer.resendPositions now base p.sendQueue)).map _
      = (resends.zip (Peer.resendPositions now base p.sendQueue)).map Prod.fst := rfl
    _ = resends := List.map_fst_zip hlen

namespace Tunnel

open World

variable {δ : Type} {hmac : Hmac} {other s : Side} {w : World δ}

/-- The history is that of the tunnel's peer. -/
structure Couples (s : Side) (w : World δ) : Prop where
  peer : s.peer = w.tunnel.peer
  out : s.out.map (·.bytes) = w.sent

/-- The list opens with a Message Type. -/
def Typed (avps : List AVP) : Prop := ∃ mt, Tagged mt avps

/-- The calls of `send` that were made since `s` lead to the tunnel's peer. -/
structure Said (other s : Side) (w : World δ) : Prop where
  secret : w.tunnel.cfg.secret = none
  sends : ∃ more, w.tunnel.peer.sendQueue = s.peer.sendQueue ++ more ∧
    Couples (s.run other (more.map Side.sendOf)) w ∧ ∀ p ∈ more, Typed p.msg.avps

/-- At the start of a step there is nothing to record yet. -/
theorem Couples.said (h : Couples s w) (hsecret : w.tunnel.cfg.secret = none) : Said other s w :=
  ⟨hsecret, [], by rw [h.peer, List.append_nil], h, by simp⟩

/-- What leaves the peer and the datagrams alone leaves the history alone. -/
theorem Said.of_eq (h : Said other s w) {w' : World δ} (hcfg : w'.tunnel.cfg = w.tunnel.cfg)
    (hpeer : w'.tunnel.peer = w.tunnel.peer) (hsent : w'.sent = w.sent) : Said other s w' := by
  obtain ⟨more, hqueue, hc, htyped⟩ := h.sends
  exact ⟨hcfg ▸ h.secret, more, hpeer ▸ hqueue, ⟨hpeer ▸ hc.peer, hsent ▸ hc.out⟩, htyped⟩

/-- **A message that is sent** is queued, and in flight, on both sides. -/
theorem keeps_said_send {avps : List AVP} (havps : Typed avps) :
    Keeps (Said (δ := δ) other s) (send hmac avps) := by
  intro w h
  obtain ⟨more, hqueue, hc, htyped⟩ := h.sends
  have hplain : ∀ msg, wire hmac w.tunnel.cfg msg = msg.encode := by
    intro msg
    rw [wire, h.secret]
  -- refused by the peer, or queued
  rcases send_cases hmac avps w with ⟨e, he, hrun⟩ | ⟨msg, peer, hsend, hrest⟩
  · rw [hrun]
    exact h.of_eq rfl rfl rfl
  · obtain ⟨-, hmsg, encoded, henc, hpeer⟩ := Peer.send_eq_ok.mp hsend
    rcases hrest with ⟨e, he, -⟩ | ⟨bs, hbs, hrun⟩
    · rw [hplain, henc] at he
      cases he
    · rw [hplain, henc, Except.ok.injEq] at hbs
      subst hbs
      rw [hrun]
      refine ⟨h.secret, more ++ [⟨msg, encoded, w.clock 0, 0, w.tunnel.peer.retransmitInterval⟩],
        ?_, ?_, ?_⟩
      · show peer.sendQueue = _
        rw [hpeer, ← List.append_assoc, ← hqueue]
      · have havps' : msg.avps = avps := by rw [hmsg]
        rw [List.map_append, Side.run_append]
        generalize s.run other (more.map Side.sendOf) = s₁ at hc
        have hact : s₁.run other [Side.sendOf ⟨msg, encoded, w.clock 0, 0,
            w.tunnel.peer.retransmitInterval⟩]
            = { s₁ with peer := peer, sent := s₁.sent ++ [avps] }.emit (some s₁.sent.length) msg := by
          rw [← hc.peer] at hsend
          show s₁.act other (.send msg.avps (w.clock 0)) = _
          rw [havps', Side.act, hsend]
        exact ⟨by rw [List.map_singleton, hact, Side.emit_peer]; rfl, by
          rw [List.map_singleton, hact, Side.emit, henc]
          simp [hc.out]⟩
      · intro p hp
        rcases List.mem_append.mp hp with hp | hp
        · exact htyped p hp
        · rw [List.mem_singleton.mp hp, hmsg]
          exact havps

section Calls

variable [Dataplane δ]

/-- A call of a session sends messages with a Message Type, and nothing else. -/
theorem keeps_said_session {m : Prog SessionFSM (List SessionAction)} (hm : SessionFSM.Method m)
    (sid : Int) {g : Tunnel → Tunnel} (hg : OnlyIndex g) :
    Keeps (Said (δ := δ) other s) (callSession hmac sid m g) := by
  refine keeps_callSession hmac (fun _ _ _ _ h => h.of_eq rfl rfl rfl) (fun _ _ _ h => h.of_eq rfl rfl rfl)
    (fun hout hmem => ?_) hm sid hg
  obtain ⟨mt, -, htag⟩ := hout.tagged hmem
  exact keeps_said_send ⟨mt, htag⟩

/-- So does a method of the tunnel machine. -/
theorem keeps_said_drive {m : Prog TunnelFSM (List TunnelAction)} (hm : TunnelFSM.Method m) :
    Keeps (Said (δ := δ) other s) (drive hmac m) := by
  intro w h
  refine keeps_callMachine hmac (fun _ _ _ _ h => h.of_eq rfl rfl rfl)
    (fun _ _ _ _ h => h.of_eq rfl rfl rfl) (fun _ _ _ h => h.of_eq rfl rfl rfl)
    (fun hout hmem => ?_) (h.of_eq rfl rfl rfl) fun actions avps hrun hmem => ?_
  · obtain ⟨mt, -, htag⟩ := hout.tagged hmem
    exact keeps_said_send ⟨mt, htag⟩
  · have hout := hm w.tunnel.fsm
    rw [hrun] at hout
    obtain ⟨mt, -, htag, -⟩ := hout.tagged hmem
    exact keeps_said_send ⟨mt, htag⟩

theorem keeps_said_dispatch (msg : ControlMessage) (delivered : List AVP) :
    Keeps (Said (δ := δ) other s) (dispatch hmac msg delivered) :=
  keeps_dispatch hmac (fun _ _ _ h => h.of_eq rfl rfl rfl)
    (fun sid virtual => keeps_said_session (SessionFSM.method_onMessage virtual) sid
      (onlyIndex_indexRemote sid))
    (fun virtual => keeps_said_drive (TunnelFSM.method_onMessage virtual)) msg delivered

/-! ## One event

The tunnel and the history make the same step. What the tunnel sends is read off its queue, and
entered into the history as calls of `send`. -/

omit [Dataplane δ] in
/-- The peer that a datagram comes to, after it was received. -/
theorem meets_received {w : World δ} {buf : Bytes} {msg : ControlMessage} {ccid : Int}
    (hmsg : unwire hmac w.tunnel.cfg buf = .ok msg)
    (hlearn : learnCcid w.tunnel.peer msg = .ok (w.tunnel.peer.setRemoteCcid ccid)) :
    (meets hmac w.tunnel (.datagram buf)).remoteCcid = ccid := by
  simp only [meets, hmsg, hlearn, Peer.receive_remoteCcid]
  rfl

/-- **A datagram of the other side**: what `handle_datagram` does with it, and what the history
records of it. -/
theorem said_datagram (hc : Couples s w) (hsecret : w.tunnel.cfg.secret = none) {n : Nat}
    {d : Datagram} (hd : other.out[n]? = some d) :
    Said other (s.run other [.setRemoteCcid (meets hmac w.tunnel (.datagram d.bytes)).remoteCcid,
      .receive n]) (handleDatagram hmac d.bytes w).2 := by
  have hplain : unwire hmac w.tunnel.cfg d.bytes = ControlMessage.decode d.bytes := by
    rw [unwire, hsecret]
  -- undecodable on both sides, or received by both
  rcases handleDatagram_cases hmac d.bytes w with ⟨e, he, hrun⟩ |
    ⟨msg, ccid, peer, delivered, hmsg, hlearn, hrest⟩
  · have hmeets : (meets hmac w.tunnel (.datagram d.bytes)).remoteCcid = s.peer.remoteCcid := by
      rw [meets, he, hc.peer]
    have hs : s.run other [.setRemoteCcid s.peer.remoteCcid, .receive n] = s := by
      rw [hplain] at he
      show Side.act s other (.receive n) = s
      rw [Side.act, hd]
      simp [he]
    rw [hrun, hmeets, hs]
    exact hc.said hsecret
  · rw [meets_received hmsg hlearn]
    have hs : s.run other [.setRemoteCcid ccid, .receive n]
        = { s with peer := w.tunnel.peer.setRemoteCcid ccid }.process msg := by
      rw [hplain] at hmsg
      show Side.act { s with peer := s.peer.setRemoteCcid ccid } other (.receive n) = _
      rw [Side.act, hd, hc.peer]
      simp [hmsg]
    rw [hs]
    -- no response; one that cannot be written; one that is, and the hand-over
    rcases hrest with ⟨hr, hrun⟩ | ⟨hr, ⟨e, henc, hrun⟩ | ⟨bs, henc, hrun⟩⟩
    · rw [hrun]
      refine Couples.said ⟨?_, ?_⟩ hsecret
      · simp [Side.process, hr, received, withPeer, mapTunnel]
      · simp [Side.process, hr, Side.emitAll, received, hc.out]
    · rw [hrun]
      refine Couples.said ⟨?_, ?_⟩ hsecret
      · simp [Side.process, hr, received, withPeer, mapTunnel]
      · simp [Side.process, hr, Side.emitAll, Side.emit, henc, received, hc.out]
    · have hcouples : Couples ({ s with peer := w.tunnel.peer.setRemoteCcid ccid }.process msg)
          (received w peer [bs]) := by
        constructor
        · simp [Side.process, hr, received, withPeer, mapTunnel]
        · simp [Side.process, hr, Side.emitAll, Side.emit, henc, received, hc.out]
      rw [hrun]
      split
      · exact keeps_said_dispatch msg delivered _ (hcouples.said hsecret)
      · exact hcouples.said hsecret

/-- **A tick**: both sides resend the same, and a dead peer is told to the machine. -/
theorem said_tick (hc : Couples s w) (hsecret : w.tunnel.cfg.secret = none) (now : ℚ) :
    Said other (s.run other [.tick now]) (Tunnel.tick hmac now w).2 := by
  have hs : s.run other [.tick now] = s.act other (.tick now) := rfl
  rw [hs]
  -- the queue raised, or it was gone through
  rcases tick_cases hmac now w with ⟨e, peer, ht, hrun⟩ | ⟨resends, dead, peer, ht, hrun⟩
  · rw [hrun, Side.act, hc.peer, ht]
    exact Couples.said ⟨rfl, by simp [received, hc.out]⟩ hsecret
  · have hbytes := Peer.tick_bytes ht s.base s.count
    have hcouples : Couples (s.act other (.tick now)) (received w peer resends) := by
      rw [← hc.peer] at ht hbytes
      rw [Side.act, ht]
      exact ⟨rfl, by rw [List.map_append, hbytes, hc.out]; rfl⟩
    rw [hrun]
    split
    · rw [bind_pure_snd]
      exact keeps_said_drive TunnelFSM.method_onPeerDead _ (hcouples.said hsecret)
    · exact hcouples.said hsecret

/-- An event that comes neither from the network nor from the timers of the queue. -/
theorem said_own (hc : Couples s w) (hsecret : w.tunnel.cfg.secret = none) {e : Event}
    (hbuf : ∀ buf, e ≠ .datagram buf) (htick : ∀ now, e ≠ .tick now) :
    Said other s (Tunnel.step hmac w e) := by
  have htimer : ∀ f, Keeps (Said (δ := δ) other s) (modify (mapTimer f)) :=
    fun _ => Keeps.modify fun _ h => h.of_eq rfl rfl rfl
  have h : Said other s w := hc.said hsecret
  cases e with
  | start => exact keeps_said_drive TunnelFSM.method_onLocalOpen w h
  | close => exact (keeps_said_drive (TunnelFSM.method_onLocalClose _)).bind (fun _ => htimer _) w h
  | datagram buf => exact absurd rfl (hbuf buf)
  | tick now => exact absurd rfl (htick now)
  | helloTimer =>
    rw [Tunnel.step, Tunnel.handle, get_bind_apply]
    split
    · exact (htimer _).bind (fun _ => (htimer _).bind fun _ =>
        keeps_said_drive TunnelFSM.method_onHelloTimer) w h
    · exact h
  | closeSession sid resultCode =>
    exact keeps_said_session (SessionFSM.method_onLocalClose resultCode) sid onlyIndex_id w h

end Calls

end Tunnel

/-! ## Stations

A station is a tunnel with a history that fits. The events are those of the tunnel, with the
datagrams taken from the other end. -/

/-- A tunnel with the history of its peer. -/
structure Station (δ : Type) where
  world : World δ
  side : Side

namespace Station

open Tunnel World

variable {δ : Type}

/-- What happens at a tunnel. -/
inductive Event where
  /-- Anything but a datagram. -/
  | own (e : Tunnel.Event)
  /-- The datagram of the other side with this number. -/
  | receive (n : Nat)

/-- What it is for the tunnel: the only datagrams are those of the other side. -/
def Event.toTunnel (other : World δ) : Event → Option Tunnel.Event
  | .own (.datagram _) => none
  | .own e => some e
  | .receive n => other.sent[n]?.map .datagram

/-- What the peer does before anything is handed to the machines. -/
def before (hmac : Hmac) (t : Tunnel) (te : Tunnel.Event) : Event → List Side.Event
  | .receive n => [.setRemoteCcid (meets hmac t te).remoteCcid, .receive n]
  | .own (.tick now) => [.tick now]
  | .own _ => []

variable [Dataplane δ] (hmac : Hmac)

/-- One step. The history follows the tunnel: it records what the peer does before the machines
are called, and then the calls of `send` that have queued something. -/
def act (s other : Station δ) (e : Event) : Station δ :=
  match e.toTunnel other.world with
  | none => s
  | some te =>
    let world := Tunnel.step hmac s.world te
    let met := s.side.run other.side (before hmac s.world.tunnel te e)
    let more := world.tunnel.peer.sendQueue.drop met.peer.sendQueue.length
    ⟨world, met.run other.side (more.map Side.sendOf)⟩

/-- What a station keeps, whatever the other side sends. -/
structure Sound (s : Station δ) : Prop where
  couples : Couples s.side s.world
  secret : s.world.tunnel.cfg.secret = none
  good : Crash.Good s.world.tunnel
  typed : ∀ avps ∈ s.side.sent, Typed avps
  /-- What was delivered was handed to the machines. -/
  handed : (s.world.dispatched.map (·.2.avps)).flatten = s.side.got.flatten

variable {hmac} {s other : Station δ}

/-- **A step that reaches the tunnel** is the step of the tunnel, which the history follows: the
entries the machines have put into the queue are calls of `send`. -/
theorem act_some (hmac : Hmac) (hc : Couples s.side s.world) (hsecret : s.world.tunnel.cfg.secret = none)
    (hother : Couples other.side other.world) {e : Event} {te : Tunnel.Event}
    (he : e.toTunnel other.world = some te) :
    ∃ more, (Tunnel.step hmac s.world te).tunnel.peer.sendQueue
        = (s.side.run other.side (before hmac s.world.tunnel te e)).peer.sendQueue ++ more ∧
      s.act hmac other e = ⟨Tunnel.step hmac s.world te,
        (s.side.run other.side (before hmac s.world.tunnel te e)).run other.side
          (more.map Side.sendOf)⟩ ∧
      (s.act hmac other e).world.tunnel.cfg.secret = none ∧
      Couples (s.act hmac other e).side (s.act hmac other e).world ∧
      ∀ p ∈ more, Typed p.msg.avps := by
  have hsaid : Said other.side (s.side.run other.side (before hmac s.world.tunnel te e))
      (Tunnel.step hmac s.world te) := by
    cases e with
    | receive n =>
      -- the datagram that the other side recorded
      obtain ⟨bs, hbs, rfl⟩ := Option.map_eq_some_iff.mp he
      rw [← hother.out, List.getElem?_map, Option.map_eq_some_iff] at hbs
      obtain ⟨d, hd, rfl⟩ := hbs
      exact said_datagram hc hsecret hd
    | own own =>
      cases own with
      | datagram buf => cases he
      | tick now =>
        cases he
        have h : Said other.side (s.side.run other.side [.tick now])
            (Tunnel.tick hmac now s.world).2 := said_tick hc hsecret now
        rw [Tunnel.step, handle, bind_pure_snd]
        exact h
      | start | close | helloTimer | closeSession sid resultCode =>
        cases he
        exact said_own hc hsecret (by simp) (by simp)
  obtain ⟨more, hqueue, hcouples, htyped⟩ := hsaid.sends
  have hact : s.act hmac other e = ⟨Tunnel.step hmac s.world te,
      (s.side.run other.side (before hmac s.world.tunnel te e)).run other.side
        (more.map Side.sendOf)⟩ := by
    simp only [act, he, hqueue, List.drop_left]
  exact ⟨more, hqueue, hact, hact ▸ hsaid.secret, hact ▸ hcouples, htyped⟩

/-- **Everything a step can do**: nothing, or the step of the tunnel. -/
theorem act_cases (hmac : Hmac) (hc : Couples s.side s.world) (hsecret : s.world.tunnel.cfg.secret = none)
    (hother : Couples other.side other.world) (e : Event) :
    s.act hmac other e = s ∨ ∃ te met, ∃ more : List PendingSend,
      e.toTunnel other.world = some te ∧ met = s.side.run other.side (before hmac s.world.tunnel te e) ∧
      s.act hmac other e = ⟨Tunnel.step hmac s.world te, met.run other.side (more.map Side.sendOf)⟩ ∧
      (s.act hmac other e).world.tunnel.cfg.secret = none ∧
      Couples (s.act hmac other e).side (s.act hmac other e).world ∧
      ∀ p ∈ more, Typed p.msg.avps := by
  cases he : e.toTunnel other.world with
  | none => exact .inl (by rw [act, he])
  | some te =>
    obtain ⟨more, -, hact, hsecret', hcouples, htyped⟩ := act_some hmac hc hsecret hother he
    exact .inr ⟨te, _, more, rfl, rfl, hact, hsecret', hcouples, htyped⟩

/-! ## What is handed over

The AVPs that reach the machines are the concatenation of the messages that the history delivers. -/

/-- A list that opens with a Message Type does so with anything behind it. -/
theorem typed_append {avps : List AVP} (h : Typed avps) (rest : List AVP) : Typed (avps ++ rest) := by
  obtain ⟨mt, htag⟩ := h
  cases avps with
  | nil => cases htag
  | cons avp avps => exact ⟨mt, htag⟩

omit [Dataplane δ] in
/-- What a message of the other side makes deliverable opens with a Message Type: the first of
the delivered messages is the one that arrived. -/
theorem typed_deliverable (hflow : Flow other.side s.side)
    (htyped : ∀ avps ∈ other.side.sent, Typed avps) {d : Datagram} (hd : d ∈ other.side.out)
    {msg : ControlMessage} (hdec : ControlMessage.decode d.bytes = .ok msg) (peer : Peer)
    (hne : peer.deliverable msg ≠ []) : Typed ((peer.deliverable msg).flatMap (·.avps)) := by
  have hin : peer.inOrder msg = true := by
    by_contra hno
    exact hne (if_neg hno)
  rw [Peer.deliverable, if_pos hin, List.flatMap_cons]
  refine typed_append ?_ _
  obtain ⟨msg', hdec', hpos⟩ := hflow.carries d hd
  obtain rfl : msg' = msg := by
    rw [hdec, Except.ok.injEq] at hdec'
    exact hdec'.symm
  cases hp : d.pos with
  | none =>
    rw [hp] at hpos
    simp [Peer.inOrder, ControlMessage.isZlb, show msg'.avps = [] from hpos] at hin
  | some i =>
    rw [hp] at hpos
    exact htyped _ (List.mem_of_getElem? hpos.2)

/-- **A datagram of the other side** is handed over as it is delivered. -/
theorem handed_datagram (h : s.Sound) (hflow : Flow other.side s.side)
    (htyped : ∀ avps ∈ other.side.sent, Typed avps) {n : Nat} {d : Datagram}
    (hd : other.side.out[n]? = some d) :
    ((handleDatagram hmac d.bytes s.world).2.dispatched.map (·.2.avps)).flatten
      = (s.side.run other.side [.setRemoteCcid
          (meets hmac s.world.tunnel (.datagram d.bytes)).remoteCcid, .receive n]).got.flatten := by
  have hplain : unwire hmac s.world.tunnel.cfg d.bytes = ControlMessage.decode d.bytes := by
    rw [unwire, h.secret]
  have hready := h.good.ready
  have hreceived : ∀ peer acks, (received s.world peer acks).dispatched = s.world.dispatched :=
    fun _ _ => rfl
  have hgot : ∀ msg ccid, ControlMessage.decode d.bytes = .ok msg →
      (s.side.run other.side [.setRemoteCcid ccid, .receive n]).got
        = s.side.got ++ [((s.world.tunnel.peer.setRemoteCcid ccid).receive msg).1.1] := by
    intro msg ccid hdec
    show (Side.act { s.side with peer := s.side.peer.setRemoteCcid ccid } other.side
      (.receive n)).got = _
    rw [Side.act, hd, h.couples.peer]
    simp [hdec, Side.process]
  -- undecodable, or received
  rcases handleDatagram_cases hmac d.bytes s.world with ⟨e, he, hrun⟩ |
    ⟨msg, ccid, peer, delivered, hmsg, hlearn, hrest⟩
  · have hs : (s.side.run other.side [.setRemoteCcid
        (meets hmac s.world.tunnel (.datagram d.bytes)).remoteCcid, .receive n]).got
        = s.side.got := by
      rw [hplain] at he
      show (Side.act { s.side with peer := _ } other.side (.receive n)).got = _
      rw [Side.act, hd]
      simp [he]
    rw [hrun, hs]
    exact h.handed
  · rw [meets_received hmsg hlearn, hgot msg ccid (hplain ▸ hmsg)]
    -- no response; one that cannot be written; one that is, and the hand-over
    rcases hrest with ⟨hr, hrun⟩ | ⟨hr, ⟨e, henc, -⟩ | ⟨bs, henc, hrun⟩⟩
    · rw [hrun, hr]
      simpa [hreceived] using h.handed
    · exact absurd hready.remoteCcid (not_isU32_of_unacked hready.sound hlearn hr henc)
    · rw [hrun, hr]
      split
      · rename_i hne
        have hdel : delivered
            = ((s.world.tunnel.peer.setRemoteCcid ccid).deliverable msg).flatMap (·.avps) := by
          rw [← Peer.receive_delivered, hr]
        have htype : Typed delivered := by
          rw [hdel]
          refine typed_deliverable hflow htyped (List.mem_of_getElem? hd) (hplain ▸ hmsg) _ ?_
          intro hnil
          exact hne (by rw [hdel, hnil]; rfl)
        obtain ⟨mt, htag⟩ := htype
        obtain ⟨-, -, ⟨⟨e, he⟩, -⟩ | ⟨virtual, -, hdisp, hseen⟩⟩ :=
          Dispatch.dispatch_trace hmac msg delivered (received s.world peer [bs])
        · rw [getMessageType_of_tagged htag] at he
          cases he
        · have havps : virtual.2.avps = delivered := congrArg Prod.snd hseen
          rw [hdisp, List.map_append, List.flatten_append, List.flatten_append]
          simp [hreceived, h.handed, havps]
      · rename_i hnil
        rw [not_not] at hnil
        simpa [hreceived, hnil] using h.handed

/-! ## Steps

Both directions of the flow are kept, by the lemmas about the link. -/

/-- The datagram that is processed holds a message near the number delivered. -/
def Bounded (s other : Station δ) : Event → Prop
  | .receive n => s.side.Near other.side (.receive n)
  | .own _ => True

omit [Dataplane δ] in
instance (s other : Station δ) : (e : Event) → Decidable (Bounded s other e)
  | .receive n => inferInstanceAs (Decidable (s.side.Near other.side (.receive n)))
  | .own _ => instDecidableTrue

omit [Dataplane δ] in
/-- What comes before the machines are called is near if the datagram is. -/
theorem flow_before (h : Flow other.side s.side) (te : Tunnel.Event) {e : Event}
    (he : Bounded s other e) :
    Flow other.side (s.side.run other.side (before hmac s.world.tunnel te e)) := by
  cases e with
  | receive n =>
    exact (h.receiver_step (.setRemoteCcid _) trivial).receiver_step (.receive n) he
  | own own =>
    cases own with
    | tick now => exact h.receiver_step (.tick now) trivial
    | _ => exact h

omit [Dataplane δ] in
/-- Only a datagram delivers or hands a message to `send` by itself. -/
theorem before_own (te : Tunnel.Event) (own : Tunnel.Event) :
    (s.side.run other.side (before hmac s.world.tunnel te (.own own))).got = s.side.got := by
  cases own with
  | tick now =>
    show (Side.act s.side other.side (.tick now)).got = _
    rw [Side.act]
    rcases s.side.peer.tick now with ⟨_ | ⟨_, _⟩, _⟩ <;> rfl
  | _ => rfl

omit [Dataplane δ] in
/-- What is recorded before a step sends nothing. -/
theorem sent_before (te : Tunnel.Event) (e : Event) :
    (s.side.run other.side (before hmac s.world.tunnel te e)).sent = s.side.sent := by
  cases e with
  | receive n =>
    show (Side.act { s.side with peer := _ } other.side (.receive n)).sent = _
    rw [Side.act]
    cases other.side.out[n]? with
    | none => rfl
    | some d => cases hdec : ControlMessage.decode d.bytes <;> simp [hdec, Side.process]
  | own own =>
    cases own with
    | tick now =>
      show (Side.act s.side other.side (.tick now)).sent = _
      rw [Side.act]
      rcases s.side.peer.tick now with ⟨_ | ⟨_, _⟩, _⟩ <;> rfl
    | _ => rfl

/-- **One step of a station.** -/
theorem Sound.act (hmac : Hmac) (h : s.Sound) (hother : other.Sound) (hin : Flow other.side s.side)
    (hout : Flow s.side other.side) {e : Event} (he : Bounded s other e) :
    (s.act hmac other e).Sound ∧ Flow other.side (s.act hmac other e).side ∧
      Flow (s.act hmac other e).side other.side := by
  -- the event did nothing, or it is a step with what was sent because of it
  rcases act_cases hmac h.couples h.secret hother.couples e with hself |
    ⟨te, met, more, hte, rfl, hact, hsecret, hcouples, htyped⟩
  · rw [hself]
    exact ⟨h, hin, hout⟩
  · obtain ⟨hgot, -, hsent⟩ := Side.run_sends
      (s.side.run other.side (before hmac s.world.tunnel te e)) other.side more
    have hnear : ∀ e ∈ more.map Side.sendOf, ∀ b : Side, b.Near other.side e := by
      intro e he b
      obtain ⟨p, -, rfl⟩ := List.mem_map.mp he
      exact trivial
    refine ⟨⟨hcouples, hsecret, ?_, ?_, ?_⟩, ?_, ?_⟩
    · rw [hact]
      exact Crash.keeps_good (Crash.goodParts_stable.handle te) s.world h.good
    · rw [hact]
      intro avps hmem
      rcases hsent avps hmem with hmem | ⟨p, hp, rfl⟩
      · rw [sent_before] at hmem
        exact h.typed avps hmem
      · exact htyped p hp
    · rw [hact]
      show ((Tunnel.step hmac s.world te).dispatched.map (·.2.avps)).flatten = _
      rw [hgot]
      cases e with
      | receive n =>
        obtain ⟨bs, hbs, rfl⟩ := Option.map_eq_some_iff.mp hte
        rw [← hother.couples.out, List.getElem?_map, Option.map_eq_some_iff] at hbs
        obtain ⟨d, hd, rfl⟩ := hbs
        exact handed_datagram h hin hother.typed hd
      | own own =>
        have hquiet : Dispatch.Quiet s.world (Tunnel.step hmac s.world te) := by
          refine Dispatch.quiet_step h.good.ready.sound fun buf hbuf => ?_
          subst hbuf
          cases own <;> cases hte
        rw [before_own, hquiet.dispatched]
        exact h.handed
    · rw [hact]
      exact (flow_before hin te he).run_receiver hnear
    · rw [hact]
      exact (hout.run_sender _).run_sender _

end Station

/-! ## The pair

Two stations, each reading the datagrams of the other one. The invariants are put together, and what
is handed over is a prefix of what was sent. -/

/-- Two tunnels joined by a network. -/
structure Joined (δ : Type) where
  a : Station δ
  b : Station δ

namespace Joined

variable {δ : Type} [Dataplane δ] (hmac : Hmac)

inductive Event where
  | atA (e : Station.Event)
  | atB (e : Station.Event)

/-- One step of the pair. -/
def step (j : Joined δ) : Event → Joined δ
  | .atA e => { j with a := j.a.act hmac j.b e }
  | .atB e => { j with b := j.b.act hmac j.a e }

omit [Dataplane δ] in
/-- Each datagram that is processed holds a message near the number delivered. -/
def Bounded (j : Joined δ) : Event → Prop
  | .atA e => Station.Bounded j.a j.b e
  | .atB e => Station.Bounded j.b j.a e

omit [Dataplane δ] in
instance (j : Joined δ) : (e : Event) → Decidable (j.Bounded e)
  | .atA e => inferInstanceAs (Decidable (Station.Bounded j.a j.b e))
  | .atB e => inferInstanceAs (Decidable (Station.Bounded j.b j.a e))

/-- Two tunnels just constructed. -/
def init (cfgA cfgB : TunnelConfigEntry) (dpA dpB : Option δ) (clockA clockB : Nat → ℚ) : Joined δ where
  a := ⟨World.init cfgA dpA clockA, { peer := (Tunnel.init cfgA).peer }⟩
  b := ⟨World.init cfgB dpB clockB, { peer := (Tunnel.init cfgB).peer }⟩

/-- What the machines of `s` were handed of the messages of `other`, with the meaning of the two
histories. -/
structure Handed (s other : Station δ) : Prop where
  /-- The history of `other` is that of its tunnel: the peer is the tunnel's, the datagrams are
  those it sent, and each of them is a ZLB or the message at its position. -/
  peer : other.side.peer = other.world.tunnel.peer
  out : other.side.out.map (·.bytes) = other.world.sent
  carries : ∀ d ∈ other.side.out, d.Carries other.side.sent
  /-- The machines were handed the first `count` messages, in order and each once. -/
  count_le : s.side.count ≤ other.side.sent.length
  handed : (s.world.dispatched.map (·.2.avps)).flatten
    = (other.side.sent.take s.side.count).flatten
  nrExpect : s.world.tunnel.peer.nrExpect = (s.side.count : Int) % 0x10000

omit [Dataplane δ] in
/-- What flows from the one side is handed over at the other. -/
theorem handed_of_flow {s other : Station δ} (h : s.Sound) (hother : other.Sound)
    (hflow : Flow other.side s.side) : Handed s other where
  peer := hother.couples.peer
  out := hother.couples.out
  carries := hflow.carries
  count_le := hflow.count_le
  handed := h.handed.trans hflow.got
  nrExpect := h.couples.peer ▸ hflow.nrExpect

/-- What the pair keeps. -/
structure Sound (j : Joined δ) : Prop where
  a : j.a.Sound
  b : j.b.Sound
  toB : Flow j.a.side j.b.side
  toA : Flow j.b.side j.a.side

omit [Dataplane δ] in
/-- A tunnel that has just been built, with its empty history. -/
theorem sound_init {cfg : TunnelConfigEntry} (hacc : cfg.Accepted) (henc : cfg.Encodes)
    (hsecret : cfg.secret = none) (dp : Option δ) (clock : Nat → ℚ) :
    Station.Sound ⟨World.init cfg dp clock, { peer := (Tunnel.init cfg).peer }⟩ where
  couples := ⟨rfl, rfl⟩
  secret := hsecret
  good := Crash.good_init hacc henc
  typed := by simp
  handed := rfl

variable {hmac}

/-- **One step of the pair.** -/
theorem Sound.step {j : Joined δ} (h : j.Sound) {e : Event} (he : j.Bounded e) :
    (j.step hmac e).Sound := by
  cases e with
  | atA e =>
    obtain ⟨ha, htoA, htoB⟩ := h.a.act hmac h.b h.toA h.toB he
    exact ⟨ha, h.b, htoB, htoA⟩
  | atB e =>
    obtain ⟨hb, htoB, htoA⟩ := h.b.act hmac h.a h.toB h.toA he
    exact ⟨h.a, hb, htoB, htoA⟩

/-- **End to end, the machines see a prefix of what the other tunnel's machines said.** Two
tunnels without a password, over a network that loses, duplicates, delays and reorders their
datagrams, with their timers and closes at any time: in every run in which the datagrams that
are processed hold messages near the number delivered, what each tunnel has handed to its
machines is exactly the first `count` messages that the machines of the other one sent. -/
theorem handed_in_order (hmac : Hmac) (cfgA cfgB : TunnelConfigEntry) (hA : cfgA.Accepted)
    (hB : cfgB.Accepted) (hencA : cfgA.Encodes) (hencB : cfgB.Encodes) (hplainA : cfgA.secret = none)
    (hplainB : cfgB.secret = none) (dpA dpB : Option δ) (clockA clockB : Nat → ℚ) (j : Joined δ)
    (h : Transition.Reach (step hmac) Bounded (init cfgA cfgB dpA dpB clockA clockB) j) :
    Handed j.a j.b ∧ Handed j.b j.a := by
  have hsound : j.Sound := h.invariant (I := Sound)
    ⟨sound_init hA hencA hplainA _ _, sound_init hB hencB hplainB _ _,
      Flow.init _ _ rfl rfl rfl rfl, Flow.init _ _ rfl rfl rfl rfl⟩
    fun _ _ hj he => hj.step he
  exact ⟨handed_of_flow hsound.a hsound.b hsound.toA, handed_of_flow hsound.b hsound.a hsound.toB⟩

/-- The other end of `spoke`. -/
def hub : TunnelConfigEntry :=
  { Dispatch.spoke with name := "hub", localCcid := 200, remoteCcid := 100, hostName := "hub" }

/-- The SCCRQ is lost and arrives twice later; the SCCRP is answered. -/
def shaken : Joined MockDataplane :=
  [.atA (.own .start), .atA (.own (.tick 1)), .atB (.receive 1), .atB (.receive 0),
    .atA (.receive 1)].foldl (step ControlMessage.sumHmac)
    (init Dispatch.spoke hub none none (fun _ => 0) fun _ => 0)

/-- After a loss and a repetition, one message is handed over on either side. -/
theorem handed_in_order_shaken :
    shaken.b.side.count = 1 ∧ shaken.a.side.count = 1 ∧ Handed shaken.a shaken.b := by
  have hspoke : Dispatch.spoke.Accepted := Crash.spoke_accepted.tunnels _ (List.mem_singleton_self _)
  have hencodes : Dispatch.spoke.Encodes := Crash.spoke_encodes _ (List.mem_singleton_self _)
  have hhub : hub.Accepted := { hspoke with
    localCcid := by decide, remoteCcid := by decide, localCcidIsBool := nofun }
  have hhub' : hub.Encodes := { hencodes with hostName := by decide +kernel }
  exact ⟨by decide +kernel, by decide +kernel, (handed_in_order ControlMessage.sumHmac Dispatch.spoke
    hub hspoke hhub hencodes hhub' rfl rfl none none (fun _ => 0) (fun _ => 0) shaken
    (Transition.Reach.run .start (by decide +kernel))).1⟩

end Joined

end L2tpv3d
