import L2tpv3d.Daemon.Handlers
import L2tpv3d.Daemon.Loop
import L2tpv3d.Lib.Transition

/-!
# L2tpv3d — invariants of a tunnel part by part

The handlers act on a tunnel through a handful of operations: those of the peer, and the
methods of the two kinds of machine. A property of a tunnel that speaks of each part alone
holds along every run as soon as these operations keep it.

* `Parts` — one property for each part; `Parts.Stable` — the operations keep them.
* `Parts.Stable.handle` — every handler of a tunnel keeps them, whether it returns or raises.
* `Daemon.runs_of_reach` — and so, for every tunnel of the table, does every run of a daemon.
-/

namespace L2tpv3d

open Py Prog Tunnel World

/-- One property for each part of a tunnel; the session's may speak of the key it is under. -/
structure Parts where
  cfg : TunnelConfigEntry → Prop
  peer : Peer → Prop
  fsm : TunnelFSM → Prop
  session : Int → SessionFSM → Prop

namespace Parts

/-- Every part of the tunnel has its property. -/
structure Holds (P : Parts) (t : Tunnel) : Prop where
  cfg : P.cfg t.cfg
  peer : P.peer t.peer
  fsm : P.fsm t.fsm
  sessions : ∀ sid s, t.sessionsByLocal.get? sid = some s → P.session sid s

/-- The operations on the parts keep the properties. -/
structure Stable (P : Parts) : Prop where
  link : ∀ {p q : Peer}, P.peer p → p.SameLink q → P.peer q
  learn : ∀ {p : Peer} {msg : ControlMessage} {ccid : Int}, P.peer p →
    learnCcid p msg = .ok (p.setRemoteCcid ccid) → P.peer (p.setRemoteCcid ccid)
  receive : ∀ {p : Peer} (msg : ControlMessage), P.peer p → P.peer (p.receive msg).2
  tick : ∀ {p : Peer} (now : ℚ), P.peer p → P.peer (p.tick now).2
  fsm : ∀ {s s' : TunnelFSM} {r : Except Exn (List TunnelAction)},
    TunnelFSM.Outcome s r s' → P.fsm s → P.fsm s'
  session : ∀ {sid : Int} {s s' : SessionFSM} {r : Except Exn (List SessionAction)},
    SessionFSM.Outcome s r s' → P.session sid s → P.session sid s'

variable {δ : Type} {hmac : Hmac} {P : Parts}

/-- A change of the timer, of the flag or of the by-remote index. -/
theorem Holds.aside {t t' : Tunnel} (h : P.Holds t) (hcfg : t'.cfg = t.cfg) (hpeer : t'.peer = t.peer)
    (hfsm : t'.fsm = t.fsm) (hsessions : t'.sessionsByLocal = t.sessionsByLocal) : P.Holds t' :=
  ⟨hcfg ▸ h.cfg, hpeer ▸ h.peer, hfsm ▸ h.fsm, hsessions ▸ h.sessions⟩

/-- A session replaced by one that keeps its part. -/
theorem Holds.withSession {w : World δ} (h : P.Holds w.tunnel) {sid : Int} {sess : SessionFSM}
    (hs : P.session sid sess) : P.Holds (w.withSession sid sess).tunnel := by
  refine ⟨h.cfg, h.peer, h.fsm, fun sid' s hget => ?_⟩
  rw [get?_withSession] at hget
  split at hget
  · rename_i heq
    cases hget
    exact heq ▸ hs
  · exact h.sessions sid' s hget

/-- A peer that was ticked or received a message. -/
theorem Holds.received {w : World δ} (h : P.Holds w.tunnel) {peer : Peer} (hpeer : P.peer peer)
    (wires : List Bytes) : P.Holds (Tunnel.received w peer wires).tunnel :=
  ⟨h.cfg, hpeer, h.fsm, h.sessions⟩

namespace Stable

variable (hP : P.Stable)

include hP

/-- What the actions of a machine do keeps every part, as they touch the link alone. -/
theorem executed {w w' : World δ} (h : P.Holds w.tunnel) (hw : Executed w w') :
    P.Holds w'.tunnel :=
  ⟨hw.cfg ▸ h.cfg, hP.link h.peer hw.link, hw.fsm ▸ h.fsm, hw.sessionsByLocal ▸ h.sessions⟩

variable [Dataplane δ]

theorem sessionCall {m : Prog SessionFSM (List SessionAction)} (hm : SessionFSM.Method m)
    (sid : Int) {g : Tunnel → Tunnel} (hg : OnlyIndex g) :
    Keeps (fun w : World δ => P.Holds w.tunnel) (callSession hmac sid m g) := by
  intro w h
  -- no such session, a method that raises, and one that returns actions
  rcases callSession_cases hmac sid m hg w with ⟨r, -, hrun⟩ | ⟨s, s', e, hget, hcall, hrun⟩ |
    ⟨s, s', actions, r, hget, hcall, hrun⟩
  · rw [hrun]
    exact h.aside rfl rfl rfl rfl
  · have hout := hm s
    rw [hcall] at hout
    rw [hrun]
    exact h.withSession (hP.session hout (h.sessions sid s hget))
  · have hout := hm s
    rw [hcall] at hout
    have hset := h.withSession (hP.session hout (h.sessions sid s hget))
    have hindexed : P.Holds ((w.withSession sid s').withIndex r).tunnel := hset.aside rfl rfl rfl rfl
    rw [hrun]
    exact hP.executed hindexed (executed_sessionActions hmac actions _)

/-- An action of the tunnel machine, cascades over the sessions included. -/
theorem tunnelAction (a : TunnelAction) :
    Keeps (fun w : World δ => P.Holds w.tunnel) (executeTunnelAction hmac a) :=
  keeps_executeTunnelAction hmac (fun _ _ _ _ h => h.aside rfl rfl rfl rfl)
    (fun _ _ _ _ h => h.aside rfl rfl rfl rfl)
    (fun _ hm => keeps_eachSession hmac fun sid => hP.sessionCall hm sid onlyIndex_id)
    fun avps _ w h => hP.executed h (executed_send hmac avps w)

/-- A call of the tunnel machine and the actions it returns. -/
theorem drive {m : Prog TunnelFSM (List TunnelAction)} (hm : TunnelFSM.Method m) :
    Keeps (fun w : World δ => P.Holds w.tunnel) (Tunnel.drive hmac m) :=
  Keeps.bind (fun w h => ⟨h.cfg, h.peer, hP.fsm (hm w.tunnel.fsm) h.fsm, h.sessions⟩)
    fun _ => Keeps.each fun a _ => hP.tunnelAction a

/-- A datagram, whether it is dropped, acknowledged or handed over. -/
theorem handleDatagram (buf : Bytes) :
    Keeps (fun w : World δ => P.Holds w.tunnel) (Tunnel.handleDatagram hmac buf) := by
  intro w h
  rcases handleDatagram_cases hmac buf w with ⟨e, -, hrun⟩ |
    ⟨msg, ccid, peer, delivered, -, hlearn, hrest⟩
  · rw [hrun]
    exact h
  -- the transport takes the message in before anything is sent
  · have hrecv : ∀ r acks, (w.tunnel.peer.setRemoteCcid ccid).receive msg = (r, peer) →
        P.Holds (Tunnel.received w peer acks).tunnel := by
      intro r acks hr
      have hpeer := hP.receive msg (hP.learn h.peer hlearn)
      rw [hr] at hpeer
      exact h.received hpeer acks
    -- no response; one that cannot be written; one that is, and the hand-over
    rcases hrest with ⟨hr, hrun⟩ | ⟨hr, ⟨e, -, hrun⟩ | ⟨bs, -, hrun⟩⟩
    · rw [hrun]
      exact hrecv _ [] hr
    · rw [hrun]
      exact hrecv _ [] hr
    · rw [hrun]
      split
      · have hdispatch : Keeps (fun w : World δ => P.Holds w.tunnel) (dispatch hmac msg delivered) :=
          keeps_dispatch hmac (fun _ _ _ h => h) (fun sid virtual => hP.sessionCall
            (SessionFSM.method_onMessage virtual) sid (onlyIndex_indexRemote sid))
            (fun virtual => hP.drive (TunnelFSM.method_onMessage virtual)) msg delivered
        exact hdispatch _ (hrecv _ [bs] hr)
      · exact hrecv _ [bs] hr

/-- A tick, whether it resends, fails in writing a datagram or finds the peer dead. -/
theorem tunnelTick (now : ℚ) :
    Keeps (fun w : World δ => P.Holds w.tunnel) (Tunnel.tick hmac now) := by
  intro w h
  have hticked : ∀ resends, P.Holds
      (Tunnel.received w (w.tunnel.peer.tick now).2 resends).tunnel :=
    fun resends => h.received (hP.tick now h.peer) resends
  -- a resend that cannot be written stops the tick
  rcases tick_cases hmac now w with ⟨e, peer, ht, hrun⟩ | ⟨resends, dead, peer, ht, hrun⟩
  · rw [ht] at hticked
    exact hrun ▸ hticked []
  · rw [ht] at hticked
    rw [hrun]
    split
    · rw [bind_pure_snd]
      exact hP.drive TunnelFSM.method_onPeerDead _ (hticked resends)
    · exact hticked resends

/-- **Every handler of a tunnel**, whether it returns or raises. -/
theorem handle (e : Tunnel.Event) :
    Keeps (fun w : World δ => P.Holds w.tunnel) (Tunnel.handle hmac e) := by
  have htimer : ∀ f, Keeps (fun w : World δ => P.Holds w.tunnel) (modify (mapTimer f)) :=
    fun _ => Keeps.modify fun _ h => h.aside rfl rfl rfl rfl
  cases e with
  | start => exact hP.drive TunnelFSM.method_onLocalOpen
  | close => exact (hP.drive (TunnelFSM.method_onLocalClose _)).bind fun _ => htimer _
  | datagram buf => exact hP.handleDatagram buf
  | tick now => exact (hP.tunnelTick now).bind fun _ => Keeps.pure ()
  -- a handle that has been cancelled does nothing
  | helloTimer =>
    refine Keeps.get_bind fun w h => ?_
    split
    · exact (htimer _).bind (fun _ => (htimer _).bind fun _ =>
        hP.drive TunnelFSM.method_onHelloTimer) w h
    · exact h
  | closeSession sid resultCode =>
    exact hP.sessionCall (SessionFSM.method_onLocalClose resultCode) sid onlyIndex_id

/-- In every state that a tunnel reaches. -/
theorem reach {ok : World δ → Tunnel.Event → Prop} {cfg : TunnelConfigEntry} {dataplane : Option δ}
    {clock : Nat → ℚ} (hinit : P.Holds (Tunnel.init cfg)) {w : World δ}
    (hw : Transition.Reach (Tunnel.step hmac) ok (World.init cfg dataplane clock) w) :
    P.Holds w.tunnel :=
  hw.invariant (I := fun w => P.Holds w.tunnel) hinit fun w e h _ => hP.handle e w h

end Stable

/-- A tunnel knows the key that it is under, its sessions know theirs, and the counters are
sound. -/
def keyed (ccid : Int) : Parts where
  cfg c := c.localCcid = ccid
  peer := Peer.Sound
  fsm _ := True
  session sid s := s.config.localSid = sid ∧ s.config.localCcid = ccid

/-- No handler changes which CCID a session belongs to, or what it is filed under. -/
theorem keyed_stable (ccid : Int) : (keyed ccid).Stable where
  link h hpq := hpq.sound h
  learn h _ := ⟨h.ns, h.nr⟩
  receive msg h := (Peer.receive_frame _ msg h).1
  tick now h := (Peer.tick_frame _ now h).1
  fsm _ _ := trivial
  session hout h := ⟨hout.config_eq ▸ h.1, hout.config_eq ▸ h.2⟩

/-- A tunnel just built files its sessions under their own Session IDs. -/
theorem keyed_holds_init (cfg : TunnelConfigEntry) :
    (keyed cfg.localCcid).Holds (Tunnel.init cfg) :=
  ⟨rfl, Peer.sound_init _ _ _ _ _, trivial, keyed_init cfg⟩

/-- What is kept part by part gives back the invariant of the whole table. -/
theorem keyed_of_holds {ccid : Int} {t : Tunnel} (h : (keyed ccid).Holds t) : t.Keyed := by
  intro sid s hs
  rw [show t.cfg.localCcid = ccid from h.cfg]
  exact h.sessions sid s hs

end Parts

/-! ## The table of a daemon

What every handler of a tunnel keeps, the daemon keeps of all its tunnels: an event calls methods of
tunnels in the table, adds tunnels just constructed, or removes some. -/

namespace Daemon

variable {δ : Type} {hmac : Hmac}

/-- A handler of a tunnel that the table holds: its result, and the table with the tunnel it leaves.
-/
theorem onTunnel_some {α : Type} (m : Prog (World δ) α) {d : Daemon δ} {ccid : Int} {t : Tunnel}
    (h : d.tunnels.get? ccid = some t) : d.onTunnel ccid m
      = ((m (d.world t)).1.map some, d.put ccid (m (d.world t)).2) := by
  simp [onTunnel, h]

theorem onTunnel_none {α : Type} (m : Prog (World δ) α) {d : Daemon δ} {ccid : Int}
    (h : d.tunnels.get? ccid = none) : d.onTunnel ccid m = (.ok none, d) := by
  simp [onTunnel, h]

/-- The configuration of the daemon, and a property of every tunnel of its table, which may
speak of the key that the tunnel is under. -/
structure Runs (cfg : DaemonConfig) (G : Int → Tunnel → Prop) (d : Daemon δ) : Prop where
  cfg : d.cfg = cfg
  tunnels : ∀ ccid t, d.tunnels.get? ccid = some t → G ccid t

variable {cfg : DaemonConfig} {G : Int → Tunnel → Prop}

/-- The table with one tunnel replaced. -/
theorem Runs.set {d : Daemon δ} (h : d.Runs cfg G) {ccid : Int} {t : Tunnel} (ht : G ccid t) :
    ∀ ccid' t', (d.tunnels.set ccid t).get? ccid' = some t' → G ccid' t' := by
  intro ccid' t' hget
  rw [Dict.get?_set] at hget
  split at hget
  · rename_i heq
    cases hget
    exact heq ▸ ht
  · exact h.tunnels ccid' t' hget

/-- What a handler keeps of its tunnel it keeps of every tunnel of the table. -/
theorem keeps_onTunnel {α : Type} {m : Prog (World δ) α} {ccid : Int}
    (hm : Keeps (fun w => G ccid w.tunnel) m) : Keeps (Runs cfg G) (onTunnel ccid m) := by
  intro d h
  cases hget : d.tunnels.get? ccid with
  | none =>
    rw [onTunnel_none m hget]
    exact h
  | some t =>
    rw [onTunnel_some m hget]
    exact ⟨h.cfg, h.set (hm (d.world t) (h.tunnels ccid t hget))⟩

variable [Dataplane δ]

/-- **Every event of a daemon**, whether its handler returns or raises, keeps what holds of a
tunnel just constructed and what the handlers of a tunnel keep. -/
theorem keeps_handle (hinit : ∀ tcfg ∈ cfg.tunnels, G tcfg.localCcid (Tunnel.init tcfg))
    (hhandle : ∀ ccid e, Keeps (fun w : World δ => G ccid w.tunnel) (Tunnel.handle hmac e))
    (e : Event) : Keeps (Runs cfg G) (handle (δ := δ) hmac e) := by
  have htime : Keeps (Runs cfg G) (loopTime (δ := δ)) := fun _ h => ⟨h.cfg, h.tunnels⟩
  have htick : ∀ ccid now, Keeps (fun w : World δ => G ccid w.tunnel) (Tunnel.tick hmac now) := by
    intro ccid now w h
    have := hhandle ccid (.tick now) w h
    rwa [Tunnel.handle, bind_pure_snd] at this
  cases e with
  | start =>
    refine Keeps.get_bind fun d h => Keeps.each (fun tcfg hmem => ?_) d h
    -- a round adds a tunnel just constructed, and opens it
    have hfresh := hinit tcfg (h.cfg ▸ hmem)
    exact Keeps.bind (Keeps.modify fun _ h' => ⟨h'.cfg, h'.set hfresh⟩) fun _ =>
      (keeps_onTunnel (hhandle _ .start)).bind fun _ => Keeps.pure ()
  | stop =>
    refine Keeps.bind (Keeps.modify fun _ h => ⟨h.cfg, h.tunnels⟩) fun _ => ?_
    exact Keeps.get_bind fun d h => Keeps.each (fun ccid _ =>
      (keeps_onTunnel (hhandle ccid .close)).bind fun _ => Keeps.pure ()) d h
  -- each tunnel ticks, and a dead one leaves the table
  | tick =>
    refine htime.bind fun now => Keeps.get_bind fun d h => Keeps.each (fun ccid _ => ?_) d h
    refine (keeps_onTunnel (htick ccid now)).bind fun dead => ?_
    split
    · refine Keeps.modify fun _ h' => ⟨h'.cfg, fun ccid' t' hget => ?_⟩
      rw [Dict.get?_erase] at hget
      split at hget
      · cases hget
      · exact h'.tunnels ccid' t' hget
    · exact Keeps.pure ()
  -- too short for the CCID, of no tunnel, or handed to its tunnel
  | datagram buf =>
    rw [handle, dispatchDatagram]
    split
    · exact Keeps.pure ()
    · refine (Keeps.ofExcept _).bind fun ccid => Keeps.get_bind fun d h => ?_
      split
      · exact htime.bind (fun _ => (keeps_onTunnel (hhandle ccid (.datagram buf))).bind
          fun _ => Keeps.pure ()) d h
      · exact h
  | helloTimer ccid => exact (keeps_onTunnel (hhandle ccid .helloTimer)).bind fun _ => Keeps.pure ()

/-- In every state that a daemon reaches. -/
theorem runs_of_reach {dataplane : Option δ} {clock : Nat → ℚ} {d : Daemon δ}
    (hd : Transition.Reach (step hmac) (fun _ _ => True) (init cfg dataplane clock) d)
    (hinit : ∀ tcfg ∈ cfg.tunnels, G tcfg.localCcid (Tunnel.init tcfg))
    (hhandle : ∀ ccid e, Keeps (fun w : World δ => G ccid w.tunnel) (Tunnel.handle hmac e)) :
    d.Runs cfg G :=
  hd.invariant ⟨rfl, fun ccid t hget => by simp [init] at hget⟩
    fun _ e h _ => keeps_handle hinit hhandle e _ h

end Daemon

end L2tpv3d
