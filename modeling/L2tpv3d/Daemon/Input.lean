import L2tpv3d.Daemon.Parts

/-!
# L2tpv3d — one event, one call of a machine

An event of a tunnel hands at most one thing to its machines: a method of the tunnel machine is
called, or a session message is dispatched. What it is can be told from the state before the
event; what the handler does around it touches the peer, the timer and the dataplane only.

* `input` — what an event hands over; `Input.run` — the call; `meets` — the peer before the call.
* **`step_called`** — an event is the call of its input, as far as the sessions and the dataplane
  can see; `step_cases` — as far as the sessions can see.
-/

namespace L2tpv3d

open Py Prog

namespace Tunnel

open World

variable {δ : Type}

/-- What an event hands to the machines of a tunnel. -/
inductive Input where
  | machine (m : Prog TunnelFSM (List TunnelAction))
  | message (msg : ControlMessage) (mt : Int)

/-- The machine that delivered AVPs are handed to. -/
def inputOf (virtual : ControlMessage) : Option Input :=
  match getMessageType virtual.avps with
  | .error _ => none
  | .ok none => some (.machine (TunnelFSM.onMessage virtual))
  | .ok (some mt) =>
    if mt ∈ sessionMsgTypes then some (.message virtual mt)
    else some (.machine (TunnelFSM.onMessage virtual))

/-- Nothing is handed over by a datagram that is dropped, delivers nothing or cannot be
acknowledged. A session's own close is not told to the tunnel at all. -/
def input (hmac : Hmac) (t : Tunnel) : Event → Option Input
  | .start => some (.machine TunnelFSM.onLocalOpen)
  | .close => some (.machine (TunnelFSM.onLocalClose ResultCode.adminShutdown.code))
  | .helloTimer => if t.timer.armed then some (.machine TunnelFSM.onHelloTimer) else none
  | .closeSession _ _ => none
  | .tick now =>
    match (t.peer.tick now).1 with
    | .ok (_, true) => some (.machine TunnelFSM.onPeerDead)
    | _ => none
  | .datagram buf =>
    match unwire hmac t.cfg buf with
    | .error _ => none
    | .ok msg =>
      match learnCcid t.peer msg with
      | .error _ => none
      | .ok peer =>
        let ((delivered, responses), peer) := peer.receive msg
        if delivered ≠ [] ∧ ∀ resp ∈ responses, (ControlMessage.encode resp).isOk then
          inputOf ⟨peer.localCcid, msg.ns, msg.nr, delivered⟩
        else none

/-- The call. -/
def Input.run [Dataplane δ] (hmac : Hmac) : Input → Prog (World δ) Unit
  | .machine m => drive hmac m
  | .message msg mt => dispatchSessionMessage hmac msg mt

/-- A method of the machine; or a session message, which was acknowledged. -/
def Input.Fit (t : Tunnel) : Input → Prop
  | .machine m => TunnelFSM.Method m
  | .message msg mt => mt ∈ sessionMsgTypes ∧ getMessageType msg.avps = .ok (some mt) ∧
      IsU32 t.peer.remoteCcid

/-- The same sessions and index, and a peer whose messages can be stamped if they could before. -/
structure Beside (t t' : Tunnel) : Prop where
  byLocal : t'.sessionsByLocal = t.sessionsByLocal
  byRemote : t'.sessionsByRemote = t.sessionsByRemote
  sound : t.peer.Sound → t'.peer.Sound
  remoteCcid : IsU32 t.peer.remoteCcid → IsU32 t'.peer.remoteCcid

theorem Beside.refl (t : Tunnel) : Beside t t := ⟨rfl, rfl, id, id⟩

theorem Beside.trans {t t' t'' : Tunnel} (h : Beside t t') (h' : Beside t' t'') : Beside t t'' :=
  ⟨h'.byLocal.trans h.byLocal, h'.byRemote.trans h.byRemote, fun hs => h'.sound (h.sound hs),
    fun hc => h'.remoteCcid (h.remoteCcid hc)⟩

/-- The peer after what an event brings was received, or after its timers were looked at. -/
def meets (hmac : Hmac) (t : Tunnel) : Event → Peer
  | .datagram buf =>
    match unwire hmac t.cfg buf with
    | .error _ => t.peer
    | .ok msg =>
      match learnCcid t.peer msg with
      | .error _ => t.peer
      | .ok peer => (peer.receive msg).2
  | .tick now => (t.peer.tick now).2
  | _ => t.peer

/-- The handler came to the peer, and nothing else moved that the machines or the dataplane see. -/
structure Met (hmac : Hmac) (e : Event) (w v : World δ) : Prop where
  tunnel : Beside w.tunnel v.tunnel
  fsm : v.tunnel.fsm = w.tunnel.fsm
  peer : v.tunnel.peer = meets hmac w.tunnel e
  dataplane : v.dataplane = w.dataplane
  cfg : v.tunnel.cfg = w.tunnel.cfg
  added : v.tunnel.tunnelDpAdded = w.tunnel.tunnelDpAdded

/-- Nothing moved that the machines, the peer or the dataplane see. -/
structure Aside (w w' : World δ) : Prop where
  byLocal : w'.tunnel.sessionsByLocal = w.tunnel.sessionsByLocal
  byRemote : w'.tunnel.sessionsByRemote = w.tunnel.sessionsByRemote
  fsm : w'.tunnel.fsm = w.tunnel.fsm
  peer : w'.tunnel.peer = w.tunnel.peer
  dataplane : w'.dataplane = w.dataplane
  cfg : w'.tunnel.cfg = w.tunnel.cfg
  added : w'.tunnel.tunnelDpAdded = w.tunnel.tunnelDpAdded

theorem Aside.refl (w : World δ) : Aside w w := ⟨rfl, rfl, rfl, rfl, rfl, rfl, rfl⟩

/-- What happens aside is beside the tables. -/
theorem Aside.beside {w w' : World δ} (h : Aside w w') : Beside w.tunnel w'.tunnel :=
  ⟨h.byLocal, h.byRemote, h.peer ▸ id, h.peer ▸ id⟩

/-- What happens aside after the peer has met its part. -/
theorem Met.aside {hmac : Hmac} {e : Event} {w v w' : World δ} (h : Met hmac e w v)
    (h' : Aside v w') : Met hmac e w w' :=
  ⟨h.tunnel.trans h'.beside, h'.fsm.trans h.fsm, h'.peer.trans h.peer, h'.dataplane.trans h.dataplane,
    h'.cfg.trans h.cfg, h'.added.trans h.added⟩

/-- An event that does not come to the peer. -/
theorem Aside.met {hmac : Hmac} {e : Event} {w v : World δ} (h : Aside w v)
    (hpeer : meets hmac w.tunnel e = w.tunnel.peer) : Met hmac e w v :=
  ⟨h.beside, h.fsm, h.peer.trans hpeer.symm, h.dataplane, h.cfg, h.added⟩

/-- A datagram that the peer has received, with what it sent. -/
theorem met_received {hmac : Hmac} {e : Event} {w : World δ} {peer : Peer} (hsound : peer.Sound)
    (hccid : IsU32 w.tunnel.peer.remoteCcid → IsU32 peer.remoteCcid)
    (hmeets : meets hmac w.tunnel e = peer) (wires : List Bytes) : Met hmac e w (received w peer wires) :=
  ⟨⟨rfl, rfl, fun _ => hsound, hccid⟩, rfl, hmeets.symm, rfl, rfl, rfl⟩

variable [Dataplane δ] {hmac : Hmac} {w : World δ}

/-- Before the call `i` the handler moved nothing that the machines see, and afterwards neither. -/
inductive Handed (hmac : Hmac) (i : Input) (w w' : World δ) : Prop where
  | intro (v : World δ) (before : Beside w.tunnel v.tunnel) (fsm : v.tunnel.fsm = w.tunnel.fsm)
      (fit : i.Fit v.tunnel) (after : Beside (i.run hmac v).2.tunnel w'.tunnel)

/-- The event came to the peer, and then to the call `i`. -/
inductive Called (hmac : Hmac) (e : Event) (i : Input) (w w' : World δ) : Prop where
  | intro (v : World δ) (before : Met hmac e w v) (fit : i.Fit v.tunnel)
      (after : Aside (i.run hmac v).2 w')

/-- What was called has been handed over. -/
theorem Called.handed {e : Event} {i : Input} {w' : World δ} (h : Called hmac e i w w') :
    Handed hmac i w w' := by
  obtain ⟨v, hv, hfit, hafter⟩ := h
  exact ⟨v, hv.tunnel, hv.fsm, hfit, hafter.beside⟩

/-- What was delivered is handed over. -/
theorem dispatch_input (hmac : Hmac) (msg : ControlMessage) (delivered : List AVP)
    (hccid : IsU32 w.tunnel.peer.remoteCcid) :
    (inputOf ⟨w.tunnel.peer.localCcid, msg.ns, msg.nr, delivered⟩ = none ∧
      Aside w (dispatch hmac msg delivered w).2) ∨
    ∃ i, inputOf ⟨w.tunnel.peer.localCcid, msg.ns, msg.nr, delivered⟩ = some i ∧
      ∃ v, Aside w v ∧ i.Fit v.tunnel ∧ Aside (i.run hmac v).2 (dispatch hmac msg delivered w).2 := by
  obtain ⟨virtual, hvirtual, hcases⟩ := dispatch_cases hmac msg delivered w
  have havps : virtual.avps = delivered := by rw [hvirtual]
  rw [← hvirtual]
  -- an unreadable Message Type; a message to a session; one to the tunnel machine
  rcases hcases with ⟨e, htype, hrun⟩ | ⟨mt, hmt, htype, hrun⟩ | ⟨mt, htype, hmt, hrun⟩
  · exact .inl ⟨by simp [inputOf, havps, htype], by rw [hrun]; exact .refl _⟩
  · refine .inr ⟨.message virtual mt, by simp [inputOf, havps, htype, hmt], w, .refl _,
      ⟨hmt, havps ▸ htype, hccid⟩, ?_⟩
    rw [hrun]
    exact .refl _
  · refine .inr ⟨.machine (TunnelFSM.onMessage virtual), ?_, noted w .tunnelFsm virtual,
      ⟨rfl, rfl, rfl, rfl, rfl, rfl, rfl⟩, TunnelFSM.method_onMessage virtual, ?_⟩
    · cases mt with
      | none => simp [inputOf, havps, htype]
      | some mt => simp [inputOf, havps, htype, hmt mt rfl]
    · rw [hrun]
      exact .refl _

/-- **A datagram**: what is delivered is handed over after its acknowledgement was written. -/
theorem datagram_input (hsound : w.tunnel.peer.Sound) (buf : Bytes) :
    (input hmac w.tunnel (.datagram buf) = none ∧
      Met hmac (.datagram buf) w (handleDatagram hmac buf w).2) ∨
    ∃ i, input hmac w.tunnel (.datagram buf) = some i ∧
      Called hmac (.datagram buf) i w (handleDatagram hmac buf w).2 := by
  -- undecodable; no response; one acknowledgement
  rcases handleDatagram_cases hmac buf w with ⟨e, hmsg, hrun⟩ |
    ⟨msg, ccid, peer, delivered, hmsg, hlearn, ⟨hrecv, hrun⟩ | ⟨hrecv, hack⟩⟩
  · refine .inl ⟨by simp [input, hmsg], ?_⟩
    rw [hrun]
    exact (Aside.refl w).met (by simp [meets, hmsg])
  · obtain ⟨hpeer, hccid, -⟩ := received_frame hlearn hrecv hsound
    refine .inl ⟨by simp [input, hmsg, hlearn, hrecv], ?_⟩
    rw [hrun]
    exact met_received hpeer hccid (by simp [meets, hmsg, hlearn, hrecv]) []
  · obtain ⟨hpeer, hccid, -⟩ := received_frame hlearn hrecv hsound
    have hmet : ∀ wires, Met hmac (.datagram buf) w (received w peer wires) :=
      met_received hpeer hccid (by simp [meets, hmsg, hlearn, hrecv])
    rcases hack with ⟨e, henc, hrun⟩ | ⟨bs, henc, hrun⟩
    · exact .inl ⟨by simp [input, hmsg, hlearn, hrecv, henc, Except.isOk, Except.toBool], by
        rw [hrun]; exact hmet []⟩
    · rw [hrun]
      split
      · rename_i hdelivered
        -- the acknowledgement was encoded, so the CCID of the peer is in range
        have hwf := ControlMessage.wellFormed_of_encode henc
        have hinput : input hmac w.tunnel (.datagram buf)
            = inputOf ⟨peer.localCcid, msg.ns, msg.nr, delivered⟩ := by
          simp [input, hmsg, hlearn, hrecv, hdelivered, henc, Except.isOk, Except.toBool]
        rw [hinput]
        rcases dispatch_input hmac (w := received w peer [bs]) msg delivered
          ⟨hwf.ccid_nonneg, hwf.ccid_le⟩ with ⟨hnone, hafter⟩ | ⟨i, hi, v, hv, hfit, hafter⟩
        · exact .inl ⟨hnone, (hmet [bs]).aside hafter⟩
        · exact .inr ⟨i, hi, v, (hmet [bs]).aside hv, hfit, hafter⟩
      · rename_i hdelivered
        have hdelivered := not_not.mp hdelivered
        exact .inl ⟨by simp [input, hmsg, hlearn, hrecv, hdelivered], hmet [bs]⟩

/-- **A tick**: a dead peer is told to the tunnel machine. -/
theorem tick_input (hsound : w.tunnel.peer.Sound) (now : ℚ) :
    (input hmac w.tunnel (.tick now) = none ∧ Met hmac (.tick now) w (Tunnel.tick hmac now w).2) ∨
    ∃ i, input hmac w.tunnel (.tick now) = some i ∧
      Called hmac (.tick now) i w (Tunnel.tick hmac now w).2 := by
  have hframe := Peer.tick_frame w.tunnel.peer now hsound
  have hmet : ∀ wires, Met hmac (.tick now) w (received w (w.tunnel.peer.tick now).2 wires) :=
    met_received hframe.1 (fun hc => hframe.2.2.1 ▸ hc) rfl
  -- the queue raised, or it was gone through
  rcases tick_cases hmac now w with ⟨e, peer, htick, hrun⟩ | ⟨resends, dead, peer, htick, hrun⟩
  · rw [htick] at hmet
    exact .inl ⟨by simp [input, htick], by rw [hrun]; exact hmet []⟩
  · rw [htick] at hmet
    rw [hrun]
    cases dead with
    | false => exact .inl ⟨by simp [input, htick], hmet resends⟩
    | true =>
      refine .inr ⟨.machine TunnelFSM.onPeerDead, by simp [input, htick], received w peer resends,
        hmet resends, TunnelFSM.method_onPeerDead, ?_⟩
      rw [if_pos rfl, bind_pure_snd]
      exact .refl _

/-- **An event** closes a session, hands nothing over, or is the call of its input. -/
theorem step_called (hmac : Hmac) (hsound : w.tunnel.peer.Sound) (e : Event) :
    (∃ sid resultCode, e = .closeSession sid resultCode) ∨
    (input hmac w.tunnel e = none ∧ Met hmac e w (step hmac w e)) ∨
    ∃ i, input hmac w.tunnel e = some i ∧ Called hmac e i w (step hmac w e) := by
  have hself : ∀ {e}, meets hmac w.tunnel e = w.tunnel.peer → Met hmac e w w := (Aside.refl w).met
  cases e with
  | start =>
    exact .inr (.inr ⟨_, rfl, w, hself rfl, TunnelFSM.method_onLocalOpen, .refl _⟩)
  | close =>
    refine .inr (.inr ⟨_, rfl, w, hself rfl, TunnelFSM.method_onLocalClose _, ?_⟩)
    rw [step, handle, close, Input.run, bind_apply]
    rcases drive hmac (TunnelFSM.onLocalClose ResultCode.adminShutdown.code) w with ⟨e | _, w'⟩
    · exact .refl _
    · exact ⟨rfl, rfl, rfl, rfl, rfl, rfl, rfl⟩
  | datagram buf => exact .inr (datagram_input hsound buf)
  | tick now =>
    rw [step, handle, bind_pure_snd]
    exact .inr (tick_input hsound now)
  -- a callback that is due calls the machine, a cancelled one does not
  | helloTimer =>
    rw [step, handle, get_bind_apply]
    split
    · rename_i harmed
      exact .inr (.inr ⟨_, if_pos harmed, (w.mapTimer HelloTimer.elapse).mapTimer HelloTimer.forget,
        Aside.met ⟨rfl, rfl, rfl, rfl, rfl, rfl, rfl⟩ rfl, TunnelFSM.method_onHelloTimer, .refl _⟩)
    · rename_i harmed
      exact .inr (.inl ⟨if_neg harmed, hself rfl⟩)
  | closeSession sid resultCode => exact .inl ⟨sid, resultCode, rfl⟩

/-- As far as the sessions can see. -/
theorem step_cases (hmac : Hmac) (hsound : w.tunnel.peer.Sound) (e : Event) :
    (∃ sid resultCode, e = .closeSession sid resultCode) ∨
    (input hmac w.tunnel e = none ∧ Beside w.tunnel (step hmac w e).tunnel) ∨
    ∃ i, input hmac w.tunnel e = some i ∧ Handed hmac i w (step hmac w e) := by
  rcases step_called hmac hsound e with hclose | ⟨hnone, hmet⟩ | ⟨i, hi, hcalled⟩
  · exact .inl hclose
  · exact .inr (.inl ⟨hnone, hmet.tunnel⟩)
  · exact .inr (.inr ⟨i, hi, hcalled.handed⟩)

end Tunnel

end L2tpv3d
