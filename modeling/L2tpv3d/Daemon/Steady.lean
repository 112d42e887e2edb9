import L2tpv3d.Daemon.Crash
import L2tpv3d.Daemon.Signing

/-!
# L2tpv3d — only a datagram can end the daemon

An exception in `_tick_loop`, `start`, `stop` or a timer callback would end a task of the
daemon for good. None of them raises: what the machines may have to send can be sent, and what
is queued can be encoded again with any Nr, whatever was received before.

* `PeerKept` — a property of peers that their operations keep; `PeerKept.handle` — it holds of
  the peer of a tunnel along every run.
* `handle_returns` — one tunnel, **`events_return`** — the daemon.
-/

namespace L2tpv3d

open Py Prog Tunnel World

variable {δ : Type} {hmac : Hmac}

/-! ## Properties of the peer

A handler changes the peer by sending, receiving and ticking. What these three keep, every handler
keeps, also one that raises on the way. -/

/-- The operations of a peer keep the property; what is sent carries no digest of its own. -/
structure PeerKept (P : Peer → Prop) : Prop where
  send : ∀ {p q : Peer} {avps : List AVP} {now : ℚ} {msg : ControlMessage}, Undigested avps → P p →
    p.send avps now = .ok (msg, q) → P q
  learn : ∀ {p : Peer} {msg : ControlMessage} {ccid : Int}, P p →
    learnCcid p msg = .ok (p.setRemoteCcid ccid) → P (p.setRemoteCcid ccid)
  receive : ∀ {p : Peer} (msg : ControlMessage), P p → P (p.receive msg).2
  tick : ∀ {p : Peer} (now : ℚ), P p → P (p.tick now).2

/-- A property of peers that `send` keeps survives a call of `_send`. -/
theorem keeps_peer_send {P : Peer → Prop} {avps : List AVP}
    (hsend : ∀ {p q : Peer} {now : ℚ} {msg : ControlMessage}, P p →
      p.send avps now = .ok (msg, q) → P q) :
    Keeps (fun w : World δ => P w.tunnel.peer) (send hmac avps) := by
  intro w h
  rcases send_cases hmac avps w with ⟨e, -, hrun⟩ | ⟨msg, peer, hok, ⟨e, -, hrun⟩ | ⟨bs, -, hrun⟩⟩
  · rw [hrun]
    exact h
  · rw [hrun]
    exact hsend h hok
  · rw [hrun]
    exact hsend h hok

section Sends

variable [Dataplane δ] {P : Peer → Prop}
  (hsend : ∀ {p q : Peer} {avps : List AVP} {now : ℚ} {msg : ControlMessage}, Undigested avps → P p →
    p.send avps now = .ok (msg, q) → P q)

include hsend

/-- What sending keeps of the peer, a call of a session keeps. -/
theorem keeps_peer_session {m : Prog SessionFSM (List SessionAction)} (hm : SessionFSM.Method m)
    (sid : Int) {g : Tunnel → Tunnel} (hg : OnlyIndex g) :
    Keeps (fun w : World δ => P w.tunnel.peer) (callSession hmac sid m g) :=
  keeps_callSession hmac (fun _ _ _ _ h => h) (fun _ _ _ h => h)
    (fun hout hmem => keeps_peer_send fun h => hsend (hout.sent hmem).1 h) hm sid hg

/-- What sending keeps of the peer, a call of the tunnel machine keeps. -/
theorem keeps_peer_drive {m : Prog TunnelFSM (List TunnelAction)} (hm : TunnelFSM.Method m) :
    Keeps (fun w : World δ => P w.tunnel.peer) (drive hmac m) := by
  intro w h
  refine keeps_callMachine hmac (fun _ _ _ _ h => h) (fun _ _ _ _ h => h) (fun _ _ _ h => h)
    (fun hout hmem => keeps_peer_send fun h => hsend (hout.sent hmem).1 h) h fun actions avps hrun hmem =>
      keeps_peer_send fun h => ?_
  have hout := hm w.tunnel.fsm
  rw [hrun] at hout
  exact hsend (hout.undigested hmem) h

end Sends

namespace PeerKept

variable [Dataplane δ] {P : Peer → Prop} (hP : PeerKept P)

include hP

/-- A call of the tunnel machine, with its actions. -/
theorem drive {m : Prog TunnelFSM (List TunnelAction)} (hm : TunnelFSM.Method m) :
    Keeps (fun w : World δ => P w.tunnel.peer) (Tunnel.drive hmac m) :=
  keeps_peer_drive hP.send hm

/-- A datagram: its CCID, its acknowledgements, and what is sent in return. -/
theorem handleDatagram (buf : Bytes) :
    Keeps (fun w : World δ => P w.tunnel.peer) (Tunnel.handleDatagram hmac buf) := by
  intro w h
  rcases handleDatagram_cases hmac buf w with ⟨e, -, hrun⟩ |
    ⟨msg, ccid, peer, delivered, -, hlearn, hrest⟩
  · rw [hrun]
    exact h
  · have hpeer : ∀ r, (w.tunnel.peer.setRemoteCcid ccid).receive msg = (r, peer) → P peer := by
      intro r hr
      have := hP.receive msg (hP.learn h hlearn)
      rwa [hr] at this
    have hdispatch : Keeps (fun w : World δ => P w.tunnel.peer) (dispatch hmac msg delivered) :=
      keeps_dispatch hmac (fun _ _ _ h => h) (fun sid virtual => keeps_peer_session hP.send
        (SessionFSM.method_onMessage virtual) sid (onlyIndex_indexRemote sid))
        (fun virtual => hP.drive (TunnelFSM.method_onMessage virtual)) msg delivered
    -- no response; one that cannot be written; one that is, and the hand-over
    rcases hrest with ⟨hr, hrun⟩ | ⟨hr, ⟨e, -, hrun⟩ | ⟨bs, -, hrun⟩⟩
    · rw [hrun]
      exact hpeer _ hr
    · rw [hrun]
      exact hpeer _ hr
    · rw [hrun]
      split
      · exact hdispatch _ (hpeer _ hr)
      · exact hpeer _ hr

/-- A tick, with the teardown of a dead peer. -/
theorem tunnelTick (now : ℚ) : Keeps (fun w : World δ => P w.tunnel.peer) (Tunnel.tick hmac now) := by
  intro w h
  have hticked := hP.tick now h
  rcases tick_cases hmac now w with ⟨e, peer, ht, hrun⟩ | ⟨resends, dead, peer, ht, hrun⟩
  · rw [ht] at hticked
    rw [hrun]
    exact hticked
  · rw [ht] at hticked
    rw [hrun]
    split
    · rw [bind_pure_snd]
      exact hP.drive TunnelFSM.method_onPeerDead _ hticked
    · exact hticked

/-- **Every handler of a tunnel**, whether it returns or raises. -/
theorem handle (e : Tunnel.Event) : Keeps (fun w : World δ => P w.tunnel.peer) (Tunnel.handle hmac e) := by
  have htimer : ∀ f, Keeps (fun w : World δ => P w.tunnel.peer) (modify (mapTimer f)) :=
    fun _ => Keeps.modify fun _ h => h
  -- each handler is a call of a machine, or one of the transport
  cases e with
  | start => exact hP.drive TunnelFSM.method_onLocalOpen
  | close => exact (hP.drive (TunnelFSM.method_onLocalClose _)).bind fun _ => htimer _
  | datagram buf => exact hP.handleDatagram buf
  | tick now => exact (hP.tunnelTick now).bind fun _ => Keeps.pure ()
  | helloTimer =>
    refine Keeps.get_bind fun w h => ?_
    split
    · exact (htimer _).bind (fun _ => (htimer _).bind fun _ =>
        hP.drive TunnelFSM.method_onHelloTimer) w h
    · exact h
  | closeSession sid resultCode =>
    exact keeps_peer_session hP.send (SessionFSM.method_onLocalClose resultCode) sid onlyIndex_id

end PeerKept

/-! ## What is queued

A message is queued after it was encoded, and what a tick does to it is another Nr. So a tick can
encode it again. -/

namespace Steady

open Signing Crash

/-- What is queued can be encoded again, with any Nr. -/
theorem clean_kept : PeerKept Clean where
  send hno h hsend := by
    refine ⟨(Peer.sameLink_send hsend).sound h.sound, ?_⟩
    obtain ⟨-, rfl, encoded, henc, rfl⟩ := Peer.send_eq_ok.mp hsend
    intro pending hmem
    -- a message that is queued has just been encoded
    rcases List.mem_append.mp hmem with hold | hnew
    · exact h.queue pending hold
    · obtain rfl := List.mem_singleton.mp hnew
      exact ⟨ControlMessage.wellFormed_of_encode henc, hno⟩
  learn h _ := ⟨⟨h.sound.ns, h.sound.nr⟩, h.queue⟩
  receive msg h := clean_receive h msg
  tick {p} now h := by
    refine ⟨(Peer.tick_frame p now h.sound).1, ?_⟩
    have hqueue := Peer.tickLoop_plain now p.maxRetries h.sound.nr p.sendQueue h.queue
    rcases Peer.tick_cases p now with ⟨-, ht⟩ | ⟨-, queue, result, hloop, ⟨_, _, -, ht⟩ | ⟨_, -, ht⟩⟩
    · rw [ht]
      exact h.queue
    · rw [hloop] at hqueue
      rw [ht]
      exact hqueue
    · rw [hloop] at hqueue
      rw [ht]
      exact hqueue

theorem clean_init (cfg : TunnelConfigEntry) : Clean (Tunnel.init cfg).peer :=
  ⟨Peer.sound_init _ _ _ _ _, by simp [Tunnel.init, Peer.init]⟩

theorem tick_ok {p : Peer} (h : Clean p) (now : ℚ) :
    ∃ resends dead, (p.tick now).1 = .ok (resends, dead) := by
  rcases Peer.tick_cases p now with ⟨-, ht⟩ | ⟨-, queue, result, hloop, ⟨_, _, -, ht⟩ | ⟨e, rfl, ht⟩⟩
  · exact ⟨_, _, by rw [ht]⟩
  · exact ⟨_, _, by rw [ht]⟩
  · have hok : ∃ queue' resend dead,
        Peer.tickLoop now p.nrExpect p.maxRetries p.sendQueue = (queue', .ok (resend, dead)) :=
      Peer.tickLoop_returns fun pending hp => (h.queue pending hp).encode_nr h.sound.nr
    rw [hloop] at hok
    obtain ⟨_, _, _, heq⟩ := hok
    cases heq

/-! ## One tunnel

Its machines can build what they ask for, and its queue can be encoded. Every handler but that of a
datagram takes nothing from the peer, and so has nothing else to raise on. -/

/-- What the tunnel may have to send can be sent, and what it has sent can be sent again. -/
structure Able (t : Tunnel) : Prop where
  good : Good t
  clean : Clean t.peer

/-- A tunnel built from an accepted configuration whose messages can be written. -/
theorem able_init {cfg : TunnelConfigEntry} (hacc : cfg.Accepted) (henc : cfg.Encodes) :
    Able (Tunnel.init cfg) := ⟨good_init hacc henc, clean_init cfg⟩

variable [Dataplane δ]

/-- Every handler keeps it, whether it returns or raises. -/
theorem keeps_able (e : Tunnel.Event) : Keeps (fun w : World δ => Able w.tunnel) (Tunnel.handle hmac e) :=
  fun w h => ⟨keeps_good (goodParts_stable.handle e) w h.good, clean_kept.handle e w h.clean⟩

/-- A tick returns, as all that is queued can be written again. -/
theorem tick_returns {w : World δ} (h : Able w.tunnel) (now : ℚ) :
    Returns (Tunnel.tick hmac now) w := by
  obtain ⟨resends, dead, hok⟩ := tick_ok h.clean now
  have hframe := Peer.tick_frame w.tunnel.peer now h.clean.sound
  rcases tick_cases hmac now w with ⟨e, peer, ht, -⟩ | ⟨resends, dead, peer, ht, hrun⟩
  · rw [ht] at hok
    cases hok
  · rw [ht] at hframe
    have hgood : Good (received w peer resends).tunnel :=
      ⟨⟨hframe.1, hframe.2.2.1 ▸ h.good.ready.remoteCcid⟩, h.good.fsm, h.good.sessions⟩
    rw [Returns, hrun]
    -- whether the peer was found dead
    split
    · exact (returns_drive TunnelFSM.method_onPeerDead hgood
        (TunnelFSM.onPeerDead_returns _)).bind fun _ => ⟨true, rfl⟩
    · exact ⟨false, rfl⟩

/-- **One tunnel.** A handler other than that of a datagram returns. -/
theorem handle_returns {w : World δ} (h : Able w.tunnel) {e : Tunnel.Event}
    (hbuf : ∀ buf, e ≠ .datagram buf)
    (hcode : ∀ sid resultCode, e = .closeSession sid resultCode → 0 ≤ resultCode ∧ resultCode ≤ 0xFFFF) :
    Returns (Tunnel.handle hmac e) w := by
  have hfsm := h.good.fsm
  -- each method of a machine whose messages can be built returns
  cases e with
  | start => exact returns_drive TunnelFSM.method_onLocalOpen h.good (TunnelFSM.onLocalOpen_returns hfsm)
  | close =>
    refine (returns_drive (TunnelFSM.method_onLocalClose _) h.good
      (TunnelFSM.onLocalClose_returns hfsm (by decide))).bind fun _ => ⟨(), rfl⟩
  | datagram buf => exact absurd rfl (hbuf buf)
  | tick now => exact (tick_returns h now).bind fun _ => ⟨(), rfl⟩
  | helloTimer =>
    rw [Returns, Tunnel.handle, get_bind_apply]
    split
    · rw [modify_bind_apply, onHelloTimer, modify_bind_apply]
      exact returns_drive TunnelFSM.method_onHelloTimer
        (w := (w.mapTimer HelloTimer.elapse).mapTimer HelloTimer.forget)
        ⟨⟨h.good.ready.sound, h.good.ready.remoteCcid⟩, hfsm, h.good.sessions⟩
        (TunnelFSM.onHelloTimer_returns _)
    · exact ⟨(), rfl⟩
  | closeSession sid resultCode =>
    exact returns_sessionCall (SessionFSM.method_onLocalClose resultCode)
      (fun _ hs => SessionFSM.onLocalClose_returns hs.buildable (hcode _ _ rfl)) sid onlyIndex_id h.good

/-! ## The daemon

The loops over the table run to their end, because every turn returns. -/

omit [Dataplane δ] in
/-- A handler that returns on each tunnel returns from the table. -/
theorem onTunnel_returns {α : Type} {m : Prog (World δ) α} {cfg : DaemonConfig} {d : Daemon δ}
    (h : d.Runs cfg fun _ => Able) (hm : ∀ w : World δ, Able w.tunnel → Returns m w) (ccid : Int) :
    Returns (Daemon.onTunnel ccid m) d := by
  cases hget : d.tunnels.get? ccid with
  | none => exact ⟨none, by rw [Daemon.onTunnel_none m hget]⟩
  | some t =>
    obtain ⟨a, ha⟩ := hm (d.world t) (h.tunnels ccid t hget)
    exact ⟨some a, by rw [Daemon.onTunnel_some m hget, ha]; rfl⟩

/-- **No event but a datagram ends the daemon.** For every daemon built from an accepted
configuration whose texts and speeds fit their AVPs, in every state that any events lead to,
whatever datagrams were among them: `start`, `stop`, a round of the tick loop and the HELLO
callbacks return. -/
theorem events_return (hmac : Hmac) (cfg : DaemonConfig) (hacc : cfg.Accepted)
    (henc : ∀ t ∈ cfg.tunnels, t.Encodes) (dataplane : Option δ) (clock : Nat → ℚ) (d : Daemon δ)
    (hd : Transition.Reach (Daemon.step hmac) (fun _ _ => True) (Daemon.init cfg dataplane clock) d)
    (e : Daemon.Event) (he : ∀ buf, e ≠ .datagram buf) : Returns (Daemon.handle hmac e) d := by
  have hinit : ∀ tcfg ∈ cfg.tunnels, Able (Tunnel.init tcfg) :=
    fun tcfg hmem => able_init (hacc.tunnels tcfg hmem) (henc tcfg hmem)
  have hruns : d.Runs cfg fun _ => Able := Daemon.runs_of_reach hd hinit fun _ e => keeps_able e
  cases e with
  -- each tunnel is built and started in its turn
  | start =>
    rw [Returns, Daemon.handle, Daemon.start, get_bind_apply]
    refine Returns.each (I := Daemon.Runs cfg fun _ => Able) (fun tcfg hmem => ?_)
      (fun tcfg hmem s hs => ?_) hruns
    · have hfresh := hinit tcfg (hruns.cfg ▸ hmem)
      exact Keeps.bind (Keeps.modify fun _ h => ⟨h.cfg, h.set hfresh⟩) fun _ =>
        (Daemon.keeps_onTunnel (keeps_able .start)).bind fun _ => Keeps.pure ()
    · have hset : Daemon.Runs cfg (fun _ => Able)
          { s with tunnels := s.tunnels.set tcfg.localCcid (Tunnel.init tcfg) } :=
        ⟨hs.cfg, hs.set (hinit tcfg (hruns.cfg ▸ hmem))⟩
      rw [Returns, modify_bind_apply]
      exact (onTunnel_returns hset
        (fun w hw => handle_returns hw (e := .start) (by simp) (by simp)) _).bind fun _ => ⟨(), rfl⟩
  -- each tunnel is closed in its turn
  | stop =>
    rw [Returns, Daemon.handle, Daemon.stop, modify_bind_apply, get_bind_apply]
    refine Returns.each (I := Daemon.Runs cfg fun _ => Able) (fun ccid _ => ?_)
      (fun ccid _ s hs => ?_) ⟨hruns.cfg, hruns.tunnels⟩
    · exact (Daemon.keeps_onTunnel (keeps_able .close)).bind fun _ => Keeps.pure ()
    · exact (onTunnel_returns hs
        (fun w hw => handle_returns hw (e := .close) (by simp) (by simp)) _).bind fun _ => ⟨(), rfl⟩
  -- each tunnel ticks in its turn, and a dead one leaves the table
  | tick =>
    refine Returns.bind (m := Daemon.loopTime) ⟨_, rfl⟩ fun now => ?_
    rw [Returns, get_bind_apply]
    refine Returns.each (I := Daemon.Runs cfg fun _ => Able) (fun ccid _ => ?_)
      (fun ccid _ s hs => ?_) ⟨hruns.cfg, hruns.tunnels⟩
    · have htick : Keeps (fun w : World δ => Able w.tunnel) (Tunnel.tick hmac now) := by
        intro w h
        have : Able (Tunnel.handle hmac (.tick now) w).2.tunnel := keeps_able (.tick now) w h
        rwa [Tunnel.handle, bind_pure_snd] at this
      refine (Daemon.keeps_onTunnel htick).bind fun dead => ?_
      split
      · refine Keeps.modify fun _ h => ⟨h.cfg, fun ccid' t hget => ?_⟩
        rw [Dict.get?_erase] at hget
        split at hget
        · cases hget
        · exact h.tunnels ccid' t hget
      · exact Keeps.pure ()
    · refine (onTunnel_returns hs (fun w hw => tick_returns hw now) _).bind fun dead => ?_
      split <;> exact ⟨(), rfl⟩
  | datagram buf => exact absurd rfl (he buf)
  | helloTimer ccid =>
    exact (onTunnel_returns hruns (fun w hw => handle_returns hw (by simp) (by simp)) ccid).bind
      fun _ => ⟨(), rfl⟩

/-- After `start` and a datagram that ended the receive loop, the tick loop goes on. -/
theorem events_return_tick :
    (Daemon.dispatchDatagram ControlMessage.sumHmac oddType started).1.isOk = false ∧
    Returns (Daemon.handle ControlMessage.sumHmac .tick)
      (Daemon.step ControlMessage.sumHmac started (.datagram oddType)) :=
  ⟨by decide +kernel, events_return ControlMessage.sumHmac ⟨[Dispatch.spoke]⟩ spoke_accepted
    spoke_encodes none (fun _ => 0) _ (started_reached.next trivial) .tick (by simp)⟩

end Steady

end L2tpv3d
