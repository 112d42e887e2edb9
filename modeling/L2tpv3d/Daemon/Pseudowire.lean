import L2tpv3d.Daemon.Mirror

/-!
# L2tpv3d — pseudowires and the control connection they belong to

A session message is routed without a look at the tunnel machine, while the cascade that
takes the sessions down runs only when the tunnel leaves ESTABLISHED. So an ICRQ that arrives
while the tunnel is not established opens a session that belongs to no control connection
(`early_call`), and nothing takes it down.

That is the only way: `Settled` is kept by every event except an ICRQ that finds a session
while the tunnel is down.

* **`no_pseudowire_outside`** — along every run without such a call, a tunnel that is not
  established has only idle sessions and holds nothing in the dataplane; in particular when
  the peer is found dead.
-/

namespace L2tpv3d

open Py Prog

namespace Pseudowire

open Tunnel World Mirror

variable (hmac : Hmac)

/-- The session that the datagram makes answer a call, if it delivers an ICRQ that finds
one. -/
def callTarget (t : Tunnel) (buf : Bytes) : Option Int :=
  match unwire hmac t.cfg buf with
  | .error _ => none
  | .ok msg =>
    let delivered := (t.peer.receive msg).1.1
    if getMessageType delivered = .ok (some MessageType.icrq.code) then
      match sessionKeys MessageType.icrq.code delivered with
      | .error _ => none
      | .ok (localTarget, remoteKey, endId) =>
        t.route MessageType.icrq.code localTarget remoteKey endId
    else none

/-- **The condition.** No ICRQ finds a session while the tunnel is not established. -/
def NoEarlyCall (w : World MockDataplane) : Step → Prop
  | .own (.datagram buf) => w.tunnel.fsm.state ≠ .established → callTarget hmac w.tunnel buf = none
  | _ => True

/-! ## The invariant

A tunnel that is not established has idle sessions only, and nothing on the dataplane. The cascade
that ends `ESTABLISHED` brings this about; afterwards, only an ICRQ that finds a session could end
it. -/

/-- What every event but an early call keeps. -/
structure Settled (w : World MockDataplane) : Prop where
  inv : Inv w
  remoteCcid : w.tunnel.fsm.state = .established → IsU32 w.tunnel.peer.remoteCcid
  down : w.tunnel.fsm.state ≠ .established →
    w.tunnel.AllIdle ∧ w.tunnel.tunnelDpAdded = false

variable {w : World MockDataplane}

/-- An established tunnel may do anything with its sessions. -/
theorem settled_of_up {w' : World MockDataplane} (hinv : Inv w')
    (hccid : IsU32 w.tunnel.peer.remoteCcid) (hc : Cascaded w w')
    (hup : w.tunnel.fsm.state = .established) : Settled w' :=
  ⟨hinv, fun _ => hc.link.remoteCcid ▸ hccid, fun h => absurd (hc.fsm ▸ hup) h⟩

/-- An action that leaves the sessions alone. -/
def Calm : TunnelAction → Prop
  | .sendMessage _ | .setHelloTimer _ | .clearHelloTimer => True
  | .established | .tornDown _ => False

/-- Calm actions leave the sessions and the flag alone. -/
theorem calm_tunnelActions {actions : List TunnelAction} (h : ∀ a ∈ actions, Calm a)
    (w : World MockDataplane) :
    (executeTunnelActions hmac actions w).2.tunnel.sessionsByLocal = w.tunnel.sessionsByLocal ∧
    (executeTunnelActions hmac actions w).2.tunnel.tunnelDpAdded = w.tunnel.tunnelDpAdded := by
  induction actions generalizing w with
  | nil => exact ⟨rfl, rfl⟩
  | cons a actions ih =>
    have hrest := ih fun a' ha' => h a' (List.mem_cons_of_mem _ ha')
    have hone : (executeTunnelAction hmac a w).2.tunnel.sessionsByLocal = w.tunnel.sessionsByLocal ∧
        (executeTunnelAction hmac a w).2.tunnel.tunnelDpAdded = w.tunnel.tunnelDpAdded := by
      cases a with
      | sendMessage avps =>
        rcases send_cases hmac avps w with ⟨_, -, hr⟩ | ⟨_, _, -, ⟨_, -, hr⟩ | ⟨_, -, hr⟩⟩ <;>
          exact (show executeTunnelAction hmac (.sendMessage avps) w = _ from hr) ▸ ⟨rfl, rfl⟩
      | setHelloTimer seconds => exact ⟨rfl, rfl⟩
      | clearHelloTimer => exact ⟨rfl, rfl⟩
      | established => exact (h _ List.mem_cons_self).elim
      | tornDown reason => exact (h _ List.mem_cons_self).elim
    rw [executeTunnelActions, each, bind_apply]
    -- an action that raises is the last
    rcases hr : executeTunnelAction hmac a w with ⟨e | _, w'⟩
    · rw [hr] at hone
      exact hone
    · rw [hr] at hone
      have hw' := hrest w'
      exact ⟨hw'.1.trans hone.1, hw'.2.trans hone.2⟩

/-- A tunnel that is down stays settled under calm actions. -/
theorem settled_of_calm {actions : List TunnelAction} (hinv : Inv w)
    (hdown : w.tunnel.fsm.state ≠ .established) (hidle : w.tunnel.AllIdle)
    (hadded : w.tunnel.tunnelDpAdded = false) (hcalm : ∀ a ∈ actions, Calm a) :
    Settled (executeTunnelActions hmac actions w).2 := by
  have hc := cascaded_tunnelActions hmac actions w
  obtain ⟨hsess, hflag⟩ := calm_tunnelActions hmac hcalm w
  refine ⟨Keeps.each (fun a _ => (inv_survives hmac).tunnelAction a) w hinv, ?_, ?_⟩
  · exact fun hup => absurd (hc.fsm ▸ hup) hdown
  · refine fun _ => ⟨?_, hflag.trans hadded⟩
    intro sid s hs
    rw [hsess] at hs
    exact hidle sid s hs

/-- A teardown takes every session down and the kernel tunnel with them. -/
theorem execute_tornDown (hinv : Inv w) (reason : TunnelDownReason)
    (hdown : w.tunnel.fsm.state ≠ .established) :
    Settled (executeTunnelActions hmac [.tornDown reason] w).2 := by
  obtain ⟨w', hrun, hinv', hidle, hadded⟩ := hinv.tornDown hmac reason
  have hexec : executeTunnelActions hmac [.tornDown reason] w = (.ok (), w') :=
    bind_apply_of_ok _ _ hrun
  have hc := cascaded_tunnelActions hmac [.tornDown reason] w
  rw [hexec] at hc ⊢
  exact ⟨hinv', fun hup => absurd (hc.fsm ▸ hup) hdown, fun _ => ⟨hidle, hadded⟩⟩

/-- The HELLO timer is no part of the mirror. -/
theorem inv_mapTimer (hinv : Inv w) (f : HelloTimer → HelloTimer) : Inv (w.mapTimer f) :=
  hinv.moved ⟨rfl, rfl, hinv.sound, id, rfl, rfl, rfl⟩

/-- An action that returns gives way to the next one. -/
theorem execute_cons_ok {a : TunnelAction} {actions : List TunnelAction} {w' : World MockDataplane}
    (h : executeTunnelAction hmac a w = (.ok (), w')) :
    executeTunnelActions hmac (a :: actions) w = executeTunnelActions hmac actions w' :=
  bind_apply_of_ok _ _ h

/-- **The teardown of a local close or of a restarted peer**: the StopCCN of a tunnel that was
up can be sent, so the cascade behind it is reached. -/
theorem settled_stop {avps : List AVP} (hinv : Inv w) (prior : TunnelState)
    (reason : TunnelDownReason) (havps : Regular avps)
    (hdown : w.tunnel.fsm.state ≠ .established)
    (hup : prior = .established → IsU32 w.tunnel.peer.remoteCcid)
    (hidle : prior ≠ .established → w.tunnel.AllIdle ∧ w.tunnel.tunnelDpAdded = false) :
    Settled (executeTunnelActions hmac (TunnelFSM.stopActions prior avps reason) w).2 := by
  unfold TunnelFSM.stopActions
  -- only a tunnel that was up has sessions to take down
  by_cases hprior : prior = .established
  · rw [if_pos hprior]
    obtain ⟨_, peer, bs, hsend, -, hrun⟩ := send_ok hmac ⟨hinv.sound, hup hprior⟩ havps
    have hsent := hinv.moved (moved_send hmac hinv.sound avps)
    rw [hrun] at hsent
    have haction : executeTunnelAction hmac (.sendMessage avps) w = _ := hrun
    rw [List.cons_append, execute_cons_ok hmac haction, List.cons_append, execute_cons_ok hmac rfl]
    exact execute_tornDown hmac (inv_mapTimer hsent HelloTimer.clear) reason hdown
  · rw [if_neg hprior, List.append_nil]
    obtain ⟨hid, hflag⟩ := hidle hprior
    exact settled_of_calm hmac hinv hdown hid hflag (by simp [Calm])

/-- The teardown that sends nothing. -/
theorem settled_drop (hinv : Inv w) (prior : TunnelState) (reason : TunnelDownReason)
    (hdown : w.tunnel.fsm.state ≠ .established)
    (hidle : prior ≠ .established → w.tunnel.AllIdle ∧ w.tunnel.tunnelDpAdded = false) :
    Settled (executeTunnelActions hmac (TunnelFSM.dropActions prior reason) w).2 := by
  unfold TunnelFSM.dropActions
  by_cases hprior : prior = .established
  · rw [if_pos hprior, List.singleton_append, execute_cons_ok hmac rfl]
    exact execute_tornDown hmac (inv_mapTimer hinv HelloTimer.clear) reason hdown
  · rw [if_neg hprior, List.append_nil]
    obtain ⟨hid, hflag⟩ := hidle hprior
    exact settled_of_calm hmac hinv hdown hid hflag (by simp [Calm])

/-- **A call of the tunnel machine**, its actions executed. The machine reaches ESTABLISHED
only through a message, which was acknowledged before it was handed over. -/
theorem Settled.drive {m : Prog TunnelFSM (List TunnelAction)} (hm : TunnelFSM.Method m)
    (h : Settled w) (hccid : IsU32 w.tunnel.peer.remoteCcid ∨
      ((m w.tunnel.fsm).2.state = .established → w.tunnel.fsm.state = .established)) :
    Settled (Tunnel.drive hmac m w).2 := by
  have hout := hm w.tunnel.fsm
  have hfsm := onFsm_apply m w
  have hinv : Inv (w.withFsm (m w.tunnel.fsm).2) :=
    h.inv.moved ⟨rfl, rfl, h.inv.sound, id, rfl, rfl, rfl⟩
  have hdown := h.down
  rw [Tunnel.drive, bind_apply, hfsm]
  generalize hs : w.tunnel.fsm = s at hout hdown hccid hinv ⊢
  generalize hr : (m s).1 = r at hout ⊢
  generalize hs' : (m s).2 = s' at hout hinv hccid ⊢
  -- the actions of a tunnel that is up afterwards
  have hupCase : s'.state = .established → IsU32 w.tunnel.peer.remoteCcid → ∀ actions,
      Settled (executeTunnelActions hmac actions (w.withFsm s')).2 :=
    fun hst hu actions => settled_of_up (w := w.withFsm s') (Keeps.each (fun a _ => (inv_survives hmac).tunnelAction a) _ hinv)
      hu (cascaded_tunnelActions hmac actions _) hst
  have hccidUp : s.state = .established → IsU32 w.tunnel.peer.remoteCcid :=
    fun hst => h.remoteCcid (hs ▸ hst)
  -- by what the method did: nothing, a move that keeps it down, up, or a teardown
  cases hout with
  | ignored => exact ⟨hinv, fun hst => hccidUp hst, hdown⟩
  | raised => exact ⟨hinv, fun hst => hccidUp hst, hdown⟩
  | refused hst =>
    exact ⟨hinv, fun hst' => hccidUp hst', fun _ => hdown (by simp [hst])⟩
  | opened hst _ =>
    obtain ⟨hid, hflag⟩ := hdown (by simp [hst])
    exact settled_of_calm hmac hinv (by simp [withFsm, mapTunnel]) hid hflag (by simp [Calm])
  | answered hst _ =>
    obtain ⟨hid, hflag⟩ := hdown (by simp [hst])
    exact settled_of_calm hmac hinv (by simp [withFsm, mapTunnel]) hid hflag (by simp [Calm])
  | connected hst =>
    refine hupCase rfl (hccid.resolve_right fun himp => ?_) _
    simp [hst] at himp
  | accepted hst =>
    refine hupCase rfl (hccid.resolve_right fun himp => ?_) _
    simp [hst] at himp
  | kept hst => exact hupCase hst (hccidUp hst) _
  | stopped _ hb =>
    exact settled_stop hmac hinv s.state _ (buildStopccnAvps_regular hb).1
      (by simp [withFsm, mapTunnel]) hccidUp hdown
  | dropped _ =>
    exact settled_drop hmac hinv s.state _ (by simp [withFsm, mapTunnel]) hdown

/-! ## The handlers

Outside `ESTABLISHED` a session message meets idle sessions, which ignore all but an ICRQ. Inside,
the invariant asks for nothing, so only the calls that leave the state are of interest. -/

theorem Settled.congr {w' : World MockDataplane} (h : Settled w) (hinv : Inv w')
    (hfsm : w'.tunnel.fsm = w.tunnel.fsm)
    (hccid : IsU32 w.tunnel.peer.remoteCcid → IsU32 w'.tunnel.peer.remoteCcid)
    (hsess : w'.tunnel.sessionsByLocal = w.tunnel.sessionsByLocal)
    (hadded : w'.tunnel.tunnelDpAdded = w.tunnel.tunnelDpAdded) : Settled w' := by
  refine ⟨hinv, fun hup => hccid (h.remoteCcid (hfsm ▸ hup)), fun hdown => ?_⟩
  obtain ⟨hidle, hflag⟩ := h.down (hfsm ▸ hdown)
  refine ⟨?_, hadded.trans hflag⟩
  intro sid s hs
  rw [hsess] at hs
  exact hidle sid s hs

/-- A session message other than an ICRQ finds an idle session and is ignored. -/
theorem onMessage_idle {s : SessionFSM} {msg : ControlMessage} {mt : Int} (hs : s.state = .idle)
    (hmt : getMessageType msg.avps = .ok (some mt)) (hne : mt ≠ MessageType.icrq.code) :
    SessionFSM.onMessage msg s = (.ok [], s) := by
  have hicrq : ¬ (some mt = some MessageType.icrq.code) := by simpa using hne
  rw [SessionFSM.onMessage, hmt, ofExcept_ok_bind_apply, if_neg hicrq]
  split
  · simp [SessionFSM.onIcrp, hs]
  · split
    · simp [SessionFSM.onIccn, hs]
    · split
      · simp [SessionFSM.onCdn, hs]
      · rfl

/-- An idle session replaced by an idle one. -/
theorem allIdle_withSession (h : w.tunnel.AllIdle) {s : SessionFSM} (hs : s.state = .idle)
    (sid : Int) : (w.withSession sid s).tunnel.AllIdle := by
  intro sid' s' hs'
  rw [get?_withSession] at hs'
  split at hs'
  · cases hs'
    exact hs
  · exact h sid' s' hs'

/-- **A session message**: outside ESTABLISHED it meets idle sessions, and only an ICRQ could wake
one. -/
theorem Settled.dispatchSession (h : Settled w) (hccid : IsU32 w.tunnel.peer.remoteCcid)
    {msg : ControlMessage} {mt : Int} (hmt : getMessageType msg.avps = .ok (some mt))
    (hcall : w.tunnel.fsm.state ≠ .established → mt = MessageType.icrq.code →
      ∀ keys, sessionKeys mt msg.avps = .ok keys →
        w.tunnel.route mt keys.1 keys.2.1 keys.2.2 = none) :
    Settled (dispatchSessionMessage hmac msg mt w).2 := by
  have hinv := (inv_survives hmac).dispatchSession h.inv hccid msg mt
  -- a tunnel that is up is settled whatever its sessions do
  by_cases hup : w.tunnel.fsm.state = .established
  · exact settled_of_up hinv (w := noted w .session msg) hccid
      (cascaded_dispatchSession hmac msg mt w) hup
  · obtain ⟨hidle, -⟩ := h.down hup
    rcases dispatchSessionMessage_cases hmac msg mt w with hrun | ⟨lt, rk, eid, sid, hkeys, hroute, hrun⟩
    · rw [hrun] at hinv ⊢
      exact h.congr hinv rfl id rfl rfl
    -- the message is no ICRQ, as that one would have found no session
    · have hne : mt ≠ MessageType.icrq.code := by
        intro heq
        have hnone := hcall hup heq _ hkeys
        rw [hroute] at hnone
        cases hnone
      rw [hrun] at hinv ⊢
      -- the session, if there is one, is idle and ignores the message
      rcases callSession_cases hmac sid (SessionFSM.onMessage msg) (onlyIndex_indexRemote sid)
          (noted w .session msg) with ⟨r, -, hrun⟩ | ⟨s, s', e, hget, hignored, -⟩ |
        ⟨s, s', actions, r, hget, hignored, hrun⟩
      · rw [hrun] at hinv ⊢
        exact h.congr hinv rfl id rfl rfl
      · rw [onMessage_idle (hidle sid s hget) hmt hne] at hignored
        cases hignored
      · rw [onMessage_idle (hidle sid s hget) hmt hne] at hignored
        cases hignored
        rw [hrun] at hinv ⊢
        exact ⟨hinv, fun hest => absurd hest hup, fun _ =>
          ⟨allIdle_withSession hidle (hidle sid s hget) sid, (h.down hup).2⟩⟩

/-- A datagram that brings no call to a tunnel that is down. -/
theorem Settled.handleDatagram (h : Settled w) {buf : Bytes}
    (hcall : w.tunnel.fsm.state ≠ .established → callTarget hmac w.tunnel buf = none) :
    Settled (Tunnel.handleDatagram hmac buf w).2 := by
  have hinv := (inv_survives hmac).handleDatagram buf w h.inv
  rcases handleDatagram_cases hmac buf w with
    ⟨e, -, hrun⟩ | ⟨msg, ccid, peer, delivered, hmsg, hlearn, hcases⟩
  · rw [hrun]
    exact h
  · -- the world in which the message was received, whatever was acknowledged
    have hrecv : ∀ r, (w.tunnel.peer.setRemoteCcid ccid).receive msg = (r, peer) → ∀ acks,
        Settled (received w peer acks) := by
      intro r hr acks
      obtain ⟨hsound, hu32, -⟩ := received_frame hlearn hr h.inv.sound
      exact h.congr (h.inv.moved ⟨rfl, rfl, hsound, hu32, rfl, rfl, rfl⟩) rfl hu32 rfl rfl
    -- no response; one that cannot be written; one that is, and the hand-over
    rcases hcases with ⟨hr, hrun⟩ | ⟨hr, ⟨e, -, hrun⟩ | ⟨bs, henc, hrun⟩⟩
    · rw [hrun]
      exact hrecv _ hr _
    · rw [hrun]
      exact hrecv _ hr _
    · rw [hrun]
      split
      · have hset := hrecv _ hr [bs]
        -- the acknowledgement was written, so the CCID fits
        have hu32 : IsU32 peer.remoteCcid :=
          ⟨(ControlMessage.wellFormed_of_encode henc).ccid_nonneg,
            (ControlMessage.wellFormed_of_encode henc).ccid_le⟩
        have hdelivered : (w.tunnel.peer.receive msg).1.1 = delivered :=
          (received_frame hlearn hr h.inv.sound).2.2.symm
        obtain ⟨virtual, rfl, ⟨e, -, hd⟩ | ⟨mt, -, hmt, hd⟩ | ⟨mt, -, -, hd⟩⟩ :=
          dispatch_cases hmac msg delivered (received w peer [bs])
        · rw [hd]
          exact hset
        · rw [hd]
          refine hset.dispatchSession hmac hu32 hmt fun hdown heq keys hkeys => ?_
          subst heq
          have hnone : w.tunnel.route MessageType.icrq.code keys.1 keys.2.1 keys.2.2 = none := by
            simpa [callTarget, hmsg, hdelivered, hmt, hkeys] using hcall hdown
          exact hnone
        · rw [hd]
          exact Settled.drive hmac (TunnelFSM.method_onMessage _)
            (hset.congr (hset.inv.moved ⟨rfl, rfl, hset.inv.sound, id, rfl, rfl, rfl⟩) rfl id rfl rfl)
            (.inl hu32)
      · exact hrecv _ hr _

/-- A peer found dead never brings the tunnel up. -/
theorem Settled.peerDead (h : Settled w) : Settled (Tunnel.drive hmac TunnelFSM.onPeerDead w).2 := by
  refine h.drive hmac TunnelFSM.method_onPeerDead (.inr fun hup => ?_)
  rw [(TunnelFSM.local_state w.tunnel.fsm).2.2.2] at hup
  cases hup

/-- The transport part of a tick keeps the CCID. -/
theorem Settled.ticked (h : Settled w) {now : ℚ} {r : Except Exn (List Bytes × Bool)} {peer : Peer}
    (hr : w.tunnel.peer.tick now = (r, peer)) (resends : List Bytes) :
    Settled (received w peer resends) := by
  have hframe := Peer.tick_frame w.tunnel.peer now h.inv.sound
  rw [hr] at hframe
  have hu32 : IsU32 w.tunnel.peer.remoteCcid → IsU32 peer.remoteCcid := by
    intro hin
    rw [show peer.remoteCcid = _ from hframe.2.2.1]
    exact hin
  exact h.congr (h.inv.moved ⟨rfl, rfl, hframe.1, hu32, rfl, rfl, rfl⟩) rfl hu32 rfl rfl

/-- A tick, with the teardown of a dead peer. -/
theorem Settled.tick (h : Settled w) (now : ℚ) : Settled (Tunnel.tick hmac now w).2 := by
  -- a resend that cannot be written stops the tick
  rcases Tunnel.tick_cases hmac now w with ⟨e, peer, hr, hrun⟩ | ⟨resends, dead, peer, hr, hrun⟩
  · rw [hrun]
    exact h.ticked hr _
  · rw [hrun]
    split
    · have hdead := (h.ticked hr resends).peerDead hmac
      rw [bind_pure_snd]
      exact hdead
    · exact h.ticked hr _

/-- **One step**, of the tunnel or of the others on the dataplane. -/
theorem Settled.step {hmac : Hmac} (h : Settled w) {e : Mirror.Step} (hforeign : Foreign w e)
    (hok : NoEarlyCall hmac w e) : Settled (Mirror.step hmac w e) := by
  -- the statements that only set or clear the timer
  have htimer : ∀ {w : World MockDataplane} (f : HelloTimer → HelloTimer), Settled w →
      Settled (w.mapTimer f) :=
    fun f h => h.congr (inv_mapTimer h.inv f) rfl id rfl rfl
  have hlocal := TunnelFSM.local_state w.tunnel.fsm
  -- the others on the dataplane are foreign to the tunnel by assumption
  cases e with
  | others dp => exact h.congr (inv_step (e := .others dp) h.inv hforeign) rfl id rfl rfl
  | own e =>
    cases e with
    | start => exact h.drive hmac TunnelFSM.method_onLocalOpen (.inr hlocal.1)
    | close =>
      have hclosed := h.drive hmac (TunnelFSM.method_onLocalClose ResultCode.adminShutdown.code)
        (.inr hlocal.2.1)
      show Settled (Tunnel.close hmac w).2
      rw [Tunnel.close, bind_apply]
      rcases hd : Tunnel.drive hmac (TunnelFSM.onLocalClose ResultCode.adminShutdown.code) w with
        ⟨e | _, w'⟩
      · rw [hd] at hclosed
        exact hclosed
      · rw [hd] at hclosed
        exact htimer _ hclosed
    | datagram buf => exact h.handleDatagram hmac hok
    | tick now =>
      have htick := h.tick hmac now
      show Settled ((do let _ ← Tunnel.tick hmac now : Prog (World MockDataplane) Unit) w).2
      rw [bind_pure_snd]
      exact htick
    | helloTimer =>
      show Settled (handle hmac .helloTimer w).2
      rw [handle, get_bind_apply]
      split
      · exact (htimer _ (htimer _ h)).drive hmac TunnelFSM.method_onHelloTimer (.inr hlocal.2.2.1)
      · exact h
    | closeSession sid resultCode =>
      have hinv := (inv_survives hmac).closeSession sid resultCode w h.inv
      show Settled (closeSession hmac sid resultCode w).2
      by_cases hup : w.tunnel.fsm.state = .established
      · exact settled_of_up hinv (h.remoteCcid hup)
          (cascaded_callSession hmac sid _ onlyIndex_id w) hup
      · -- every session is idle, and an idle session has nothing to close
        obtain ⟨hidle, hflag⟩ := h.down hup
        have hclose : ∀ s, w.tunnel.sessionsByLocal.get? sid = some s →
            SessionFSM.onLocalClose resultCode s = (.ok [], s) := fun s hget => by
          simp [SessionFSM.onLocalClose, hidle sid s hget]
        rw [closeSession_eq] at hinv ⊢
        rcases callSession_cases hmac sid (SessionFSM.onLocalClose resultCode) onlyIndex_id w with
          ⟨r, -, hrun⟩ | ⟨s, s', e, hget, hignored, -⟩ | ⟨s, s', actions, r, hget, hignored, hrun⟩
        · rw [hrun] at hinv ⊢
          exact h.congr hinv rfl id rfl rfl
        · rw [hclose s hget] at hignored
          cases hignored
        · rw [hclose s hget] at hignored
          cases hignored
          rw [hrun] at hinv ⊢
          exact ⟨hinv, fun hest => absurd hest hup, fun _ =>
            ⟨allIdle_withSession hidle (hidle sid s hget) sid, hflag⟩⟩

/-! ## Runs

The condition is on each event and on the state before it. The run may contain steps of other
tunnels on the same dataplane. -/

/-- The dataplane holds nothing of this tunnel. -/
def Vacant (w : World MockDataplane) : Prop :=
  ∃ dp, w.dataplane = some dp ∧ dp.tunnels.get? w.tunnel.cfg.localCcid = none ∧
    ∀ sid, dp.sessions.get? (w.tunnel.cfg.localCcid, sid) = none

/-- While the tunnel is not established, its sessions are idle and the dataplane holds nothing of
it. -/
theorem Settled.vacant (h : Settled w) (hdown : w.tunnel.fsm.state ≠ .established) :
    w.tunnel.AllIdle ∧ Vacant w := by
  obtain ⟨hidle, hflag⟩ := h.down hdown
  obtain ⟨dp, hdp, hf, htun⟩ := h.inv.mirrors.dataplane
  refine ⟨hidle, dp, hdp, ?_, fun sid => ?_⟩
  · rw [hflag, Dict.contains, Option.isSome_eq_false_iff, Option.isNone_iff_eq_none] at htun
    exact htun
  · have hlive : w.tunnel.live sid = none := by
      unfold Tunnel.live
      cases hget : w.tunnel.sessionsByLocal.get? sid with
      | none => rfl
      | some s => simp [SessionFSM.live?, hidle sid s hget]
    have hnone := (hf sid).trans hlive
    rwa [MockDataplane.remoteSid?, Option.map_eq_none_iff] at hnone

/-- A tunnel just built, on a dataplane that holds nothing of it. -/
theorem settled_init {cfg : TunnelConfigEntry} {dp : MockDataplane} (clock : Nat → ℚ)
    (hfree : AgreeOn cfg.localCcid {} dp) : Settled (World.init cfg (some dp) clock) := by
  refine ⟨inv_init clock hfree, ?_, fun _ => ⟨?_, rfl⟩⟩
  · intro hup
    cases hup
  · intro sid s hs
    obtain ⟨scfg, -, -, rfl⟩ := get?_init hs
    rfl

/-- **No pseudowire outside an established control connection**, along every run in which no
ICRQ finds a session while the tunnel is down; nothing is left either when a tick finds the
peer dead. -/
theorem no_pseudowire_outside (hmac : Hmac) (cfg : TunnelConfigEntry) (dp₀ : MockDataplane)
    (clock : Nat → ℚ) (hfree : AgreeOn cfg.localCcid {} dp₀) (w : World MockDataplane)
    (hw : Transition.Reach (Mirror.step hmac) (fun w e => Foreign w e ∧ NoEarlyCall hmac w e)
      (World.init cfg (some dp₀) clock) w) :
    (w.tunnel.fsm.state ≠ .established → w.tunnel.AllIdle ∧ Vacant w) ∧
    ∀ now w', Tunnel.tick hmac now w = (.ok true, w') → w'.tunnel.AllIdle ∧ Vacant w' := by
  have h : Settled w := hw.invariant (settled_init clock hfree) fun _ _ hset hok =>
    hset.step hok.1 hok.2
  refine ⟨h.vacant, fun now w' htick => ?_⟩
  have hset := h.tick hmac now
  rw [htick] at hset
  exact hset.vacant (by rw [tick_dead hmac htick]; decide)

/-- The peer's reply to the SCCRQ of `gateway`. -/
def replyDatagram : Bytes :=
  (ControlMessage.mk 100 0 1 [messageTypeAvp .sccrp, ietfAvp .routerId (beBytes 4 2) true,
    ietfAvp .assignedControlConnectionId (beBytes 4 200) true,
    ietfAvp .pseudowireCapabilitiesList [0, 5] true, ietfAvp .hostName (utf8 "peer") true]).wire

/-- The tunnel comes up, takes a call, and is closed with the session up. -/
def closedCall : List Mirror.Step :=
  [.own .start, .own (.datagram replyDatagram), .own (.datagram (callDatagram .icrq 1 0)),
    .own (.datagram (callDatagram .iccn 2 1)), .own .close]

/-- The example after its call was closed with the tunnel. -/
def closed : World MockDataplane :=
  closedCall.foldl (Mirror.step ControlMessage.sumHmac) (World.init gateway (some {}) fun _ => 0)

/-- A tunnel that carried a call and was closed: its sessions are idle and the dataplane holds
nothing of it. -/
theorem no_pseudowire_outside_closed : closed.tunnel.fsm.state = .sendStopccn ∧
    closed.notices = [.established, .tornDown .localClose] ∧ closed.tunnel.AllIdle ∧
    Vacant closed := by
  have hreach : Transition.Reach (Mirror.step ControlMessage.sumHmac)
      (fun w e => Foreign w e ∧ NoEarlyCall ControlMessage.sumHmac w e)
      (World.init gateway (some {}) fun _ => 0) closed := by
    refine Transition.Reach.run .start ⟨⟨trivial, trivial⟩, ⟨trivial, fun _ => ?_⟩,
      ⟨trivial, fun hdown => absurd ?_ hdown⟩, ⟨trivial, fun hdown => absurd ?_ hdown⟩,
      ⟨trivial, trivial⟩, trivial⟩
    · decide +kernel
    · decide +kernel
    · decide +kernel
  have hstate : closed.tunnel.fsm.state = .sendStopccn := by decide +kernel
  have h := no_pseudowire_outside ControlMessage.sumHmac gateway {} (fun _ => 0)
    ⟨rfl, fun _ => rfl⟩ closed hreach
  exact ⟨hstate, by decide +kernel, h.1 (by rw [hstate]; decide)⟩

/-- A call that arrives before the reply to the SCCRQ is answered, and its pseudowire is up
while the tunnel is not. -/
theorem early_call :
    Transition.Reach (Mirror.step ControlMessage.sumHmac) Foreign
      (World.init gateway (some {}) fun _ => 0) answered ∧
    answered.tunnel.fsm.state = .waitCtlReply ∧
    (answered.tunnel.sessionsByLocal.get? 1).map (·.state) = some .established ∧
    (answered.dataplane.bind fun dp => dp.sessions.get? (100, 1)).map (·.remoteSid) = some 7 := by
  refine ⟨Transition.Reach.run .start ?_, ?_⟩
  · simp [answeredCall, Transition.Guarded, Foreign]
  · decide +kernel

end Pseudowire

end L2tpv3d
