import L2tpv3d.Daemon.Notices
import L2tpv3d.Daemon.Parts

/-!
# L2tpv3d — the two copies of the peer's CCID

The transport takes the CCID that it stamps on messages from the first message that carries an
Assigned Control Connection ID, whatever its type, and never again; the machine takes its own
from every SCCRQ or SCCRP that a handshake accepts. They agree as long as every handshake
brings the CCID that the transport has, or learns from the same datagram.

* `Entered s s'` — how the machine gets to `WAIT_CTL_CONN` or `ESTABLISHED`, and that it keeps
  the CCID while it is there.
* `firstCcid` — the CCID of the transport, told from the datagrams of the run alone.
* `OwnCcid` — the handshake that a datagram takes further is one of the transport's CCID.
* **`one_peer_ccid_iff`** — the two agree all along a run exactly when each of its handshakes is
  one of the transport's CCID.
-/

namespace L2tpv3d

open Py Prog

namespace TunnelFSM

/-- The machine has accepted an SCCRQ or an SCCRP, and the connection is not torn down. -/
def Joined (s : TunnelFSM) : Prop := s.state = .waitCtlConn ∨ s.state = .established

/-- The machine accepts the AVPs as the SCCRQ or the SCCRP of a handshake, with these fields. -/
def Accepts (s : TunnelFSM) (avps : List AVP) (fields : SccrxFields) : Prop :=
  parseSccrxFields avps = .ok fields ∧
    ((s.state = .idle ∧ getMessageType avps = .ok (some MessageType.sccrq.code) ∧
      ∃ reply, buildSccrpAvps s.config.sccrxArgs = .ok reply) ∨
    (s.state = .waitCtlReply ∧ getMessageType avps = .ok (some MessageType.sccrp.code)))

/-- A machine that has joined is still the one that had, or took the CCID of what it accepted. -/
def Entered (s : TunnelFSM) (avps : List AVP) (s' : TunnelFSM) : Prop :=
  s'.Joined → (s.Joined ∧ s'.peerCcid = s.peerCcid) ∨
    (¬ s.Joined ∧ ∃ fields, s.Accepts avps fields ∧ s'.peerCcid = fields.assignedCcid)

variable {s : TunnelFSM}

/-- An SCCRQ makes the machine join when it is idle, can parse it and can write the answer. -/
theorem entered_onSccrq {msg : ControlMessage}
    (hmt : getMessageType msg.avps = .ok (some MessageType.sccrq.code)) :
    Entered s msg.avps (onSccrq msg s).2 := by
  intro hjoined
  by_cases hs : s.state = .idle
  -- what cannot be parsed is dropped in IDLE
  · cases hparse : parseSccrxFields msg.avps with
    | error e =>
      have htry := tryValueError_of_only (parseSccrxFields_onlyValueError msg.avps)
      rw [hparse] at htry
      simp [onSccrq, hs, hparse, htry, Except.toOption, Joined] at hjoined
    | ok fields =>
      cases havps : buildSccrpAvps s.config.sccrxArgs with
      | error e =>
        simp [onSccrq, hs, hparse, tryValueError, capturePeer, havps, Joined] at hjoined
      | ok reply =>
        refine .inr ⟨by simp [Joined, hs], fields, ⟨hparse, .inl ⟨hs, hmt, reply, havps⟩⟩, ?_⟩
        simp [onSccrq, hs, hparse, tryValueError, capturePeer, havps, transition]
  -- past IDLE a StopCCN goes out and the machine leaves the handshake
  · cases havps : buildStopccnAvps s.config.localCcid ResultCode.generalError.code with
    | error e =>
      have hrun : onSccrq msg s = (.error e, s) := by simp [onSccrq, hs, teardownAndNotify, havps]
      rw [hrun] at hjoined ⊢
      exact .inl ⟨hjoined, rfl⟩
    | ok avps =>
      simp [onSccrq, hs, teardownAndNotify, havps, transition, Joined] at hjoined

/-- An SCCRP makes the machine join when it waits for one and can parse it. -/
theorem entered_onSccrp {msg : ControlMessage}
    (hmt : getMessageType msg.avps = .ok (some MessageType.sccrp.code)) :
    Entered s msg.avps (onSccrp msg s).2 := by
  intro hjoined
  by_cases hs : s.state = .waitCtlReply
  -- what cannot be parsed ends the handshake
  · cases hparse : parseSccrxFields msg.avps with
    | error e =>
      have htry := tryValueError_of_only (parseSccrxFields_onlyValueError msg.avps)
      rw [hparse] at htry
      cases havps : buildStopccnAvps s.config.localCcid ResultCode.generalError.code <;>
        simp [onSccrp, hs, hparse, htry, Except.toOption, teardownAndNotify, havps, transition,
          Joined] at hjoined
    | ok fields =>
      refine .inr ⟨by simp [Joined, hs], fields, ⟨hparse, .inr ⟨hs, hmt⟩⟩, ?_⟩
      simp [onSccrp, hs, hparse, tryValueError, capturePeer, buildScccnAvps_eq, transition]
  · have hrun : onSccrp msg s = (.ok [], s) := by simp [onSccrp, hs]
    rw [hrun] at hjoined ⊢
    exact .inl ⟨hjoined, rfl⟩

/-- The machine has joined only if it had, and then it keeps the CCID. -/
def Remained (s s' : TunnelFSM) : Prop := s'.Joined → s.Joined ∧ s'.peerCcid = s.peerCcid

theorem Remained.refl (s : TunnelFSM) : Remained s s := fun h => ⟨h, rfl⟩

/-- The SCCCN ends a handshake whose CCID is taken already. -/
theorem remained_onScccn (msg : ControlMessage) : Remained s (onScccn msg s).2 := by
  by_cases hs : s.state = .waitCtlConn
  · intro _
    exact ⟨.inl hs, by simp [onScccn, hs, transition]⟩
  · have hrun : onScccn msg s = (.ok [], s) := by simp [onScccn, hs]
    rw [hrun]
    exact .refl s

/-- A StopCCN takes the machine out of the handshake, whatever it carries. -/
theorem remained_onStopccn (msg : ControlMessage) : Remained s (onStopccn msg s).2 := by
  by_cases hs : s.state = .idle
  · have hrun : onStopccn msg s = (.ok [], s) := by simp [onStopccn, hs]
    rw [hrun]
    exact .refl s
  · have htry := tryValueError_of_only (parseStopccnFields_onlyValueError msg.avps)
    intro hjoined
    simp [onStopccn, hs, htry, transition, Joined] at hjoined

/-- **What a message can do**, whatever its type. -/
theorem entered_onMessage (msg : ControlMessage) : Entered s msg.avps (onMessage msg s).2 := by
  unfold onMessage
  cases hmt : getMessageType msg.avps with
  | error e => exact fun h => .inl ⟨h, rfl⟩
  | ok mt =>
    rw [ofExcept_ok_bind_apply]
    split
    -- the order of the cases is the order of the dispatch in the source
    · rename_i heq
      exact entered_onSccrq (by rw [hmt, heq])
    · split
      · rename_i heq
        exact entered_onSccrp (by rw [hmt, heq])
      · split
        · exact fun h => .inl (remained_onScccn msg h)
        · split
          · exact fun h => .inl ⟨h, rfl⟩
          · split
            · exact fun h => .inl (remained_onStopccn msg h)
            · exact fun h => .inl ⟨h, rfl⟩

/-- A message that a handshake accepts makes the machine join, with the CCID of that message. -/
theorem joined_of_accepts {msg : ControlMessage} {fields : SccrxFields}
    (h : s.Accepts msg.avps fields) :
    (onMessage msg s).2.Joined ∧ (onMessage msg s).2.peerCcid = fields.assignedCcid := by
  obtain ⟨hparse, ⟨hs, hmt, reply, hreply⟩ | ⟨hs, hmt⟩⟩ := h
  · -- an SCCRQ in IDLE: the SCCRP goes out
    have hrun : (onMessage msg s).2 = (onSccrq msg s).2 := by
      rw [onMessage, hmt, ofExcept_ok_bind_apply, if_pos rfl]
    rw [hrun]
    simp [onSccrq, hs, hparse, tryValueError, capturePeer, hreply, transition, Joined]
  · -- an SCCRP in WAIT_CTL_REPLY: the SCCCN goes out
    have hrun : (onMessage msg s).2 = (onSccrp msg s).2 := by
      rw [onMessage, hmt, ofExcept_ok_bind_apply, if_neg (by decide), if_pos rfl]
    rw [hrun]
    simp [onSccrp, hs, hparse, tryValueError, capturePeer, buildScccnAvps_eq, transition, Joined]

/-- The local events. -/
theorem remained_local (s : TunnelFSM) :
    Remained s (onLocalOpen s).2 ∧ Remained s (onLocalClose ResultCode.adminShutdown.code s).2 ∧
    Remained s (onHelloTimer s).2 ∧ Remained s (onPeerDead s).2 := by
  -- opening, closing, the HELLO timer, and a peer found dead
  refine ⟨?_, ?_, ?_, ?_⟩
  · unfold onLocalOpen
    rw [get_bind_apply]
    split
    · exact .refl s
    · cases buildSccrqAvps s.config.sccrxArgs with
      | error e => exact .refl s
      | ok avps => simp [Remained, transition, Joined]
  · unfold onLocalClose
    rw [get_bind_apply]
    split
    · exact .refl s
    · cases buildStopccnAvps s.config.localCcid ResultCode.adminShutdown.code with
      | error e => exact .refl s
      | ok avps => simp [Remained, transition, Joined]
  · unfold onHelloTimer
    rw [get_bind_apply]
    split
    · exact .refl s
    · simp [buildHelloAvps_eq, Remained]
  · unfold onPeerDead
    rw [get_bind_apply]
    split
    · exact .refl s
    · simp [Remained, transition, Joined]

end TunnelFSM

namespace PeerCcid

open Tunnel World

variable {δ : Type} [Dataplane δ] {hmac : Hmac} {w w' : World δ}

/-! ## Steps

The machine joins through a message only. The message is the one that the step hands over, and the
CCID is the one that it assigns. -/

/-- The events other than datagrams leave the machine joined only as it was. -/
theorem remained_step {e : Tunnel.Event} (he : ∀ buf, e ≠ .datagram buf) :
    w.tunnel.fsm.Remained (Tunnel.step hmac w e).tunnel.fsm := by
  obtain ⟨hopen, hclose, hhello, hdead⟩ := TunnelFSM.remained_local w.tunnel.fsm
  -- each event calls one method of the machine, or none
  cases e with
  | start =>
    rw [Tunnel.step, handle, Tunnel.start, drive_fsm]
    exact hopen
  | close =>
    have hfsm := drive_fsm hmac (TunnelFSM.onLocalClose ResultCode.adminShutdown.code) w
    rw [Tunnel.step, handle, Tunnel.close, bind_apply]
    rcases hd : drive hmac (TunnelFSM.onLocalClose ResultCode.adminShutdown.code) w with ⟨e | _, w'⟩ <;>
      rw [hd] at hfsm <;> exact (hfsm ▸ hclose :)
  | datagram buf => exact absurd rfl (he buf)
  | tick now =>
    rw [Tunnel.step, handle, bind_pure_snd]
    rcases tick_cases hmac now w with ⟨e, peer, -, hrun⟩ | ⟨resends, dead, peer, -, hrun⟩
    · rw [hrun]
      exact .refl _
    · rw [hrun]
      split
      · rw [bind_pure_snd, drive_fsm]
        exact hdead
      · exact .refl _
  | helloTimer =>
    rw [Tunnel.step, handle, get_bind_apply]
    split
    · rw [modify_bind_apply, Tunnel.onHelloTimer, modify_bind_apply, drive_fsm]
      exact hhello
    · exact .refl _
  | closeSession sid resultCode =>
    have hcascade := cascaded_callSession hmac sid (SessionFSM.onLocalClose resultCode) onlyIndex_id w
    have hfsm : (Tunnel.step hmac w (.closeSession sid resultCode)).tunnel.fsm = w.tunnel.fsm :=
      hcascade.fsm
    rw [hfsm]
    exact .refl _

/-- The machine has joined because it had, and the CCID is the same, or through the message
that the step handed over, and the CCID is that message's. -/
def Acquired (w w' : World δ) : Prop :=
  w'.tunnel.fsm.Joined →
    (w.tunnel.fsm.Joined ∧ w'.tunnel.fsm.peerCcid = w.tunnel.fsm.peerCcid) ∨
    (¬ w.tunnel.fsm.Joined ∧ ∃ msg fields, w'.dispatched = w.dispatched ++ [(.tunnelFsm, msg)] ∧
      w.tunnel.fsm.Accepts msg.avps fields ∧ w'.tunnel.fsm.peerCcid = fields.assignedCcid)

omit [Dataplane δ] in
/-- A step that leaves the machine as it was. -/
theorem acquired_of_fsm (h : w'.tunnel.fsm = w.tunnel.fsm) : Acquired w w' := by
  intro hjoined
  rw [h] at hjoined ⊢
  exact .inl ⟨hjoined, rfl⟩

/-! ## What the transport learns

The look at a message comes before the message is delivered, or found to be a duplicate. It is a
function of the CCID before it and of the AVPs of this one message, so after a run the CCID can be
told from the datagrams alone. -/

/-- The CCID that a message assigns: the value of its Assigned Control Connection ID AVP, if that
AVP is four bytes long. -/
def assignedCcid (msg : ControlMessage) : Option Int :=
  match findAvp msg.avps .assignedControlConnectionId with
  | none => none
  | some avp => if avp.value.length = 4 then some (beNat avp.value) else none

/-- The CCID that a transport with this CCID has after it has looked at the message. -/
def learned (remoteCcid : Int) (msg : ControlMessage) : Int :=
  if remoteCcid = 0 then (assignedCcid msg).getD 0 else remoteCcid

/-- The look at the message, as a function of the CCID before it. -/
theorem learnCcid_learned (p : Peer) (msg : ControlMessage) :
    learnCcid p msg = .ok (p.setRemoteCcid (learned p.remoteCcid msg)) := by
  have hself : p.setRemoteCcid p.remoteCcid = p := rfl
  unfold learnCcid learned
  -- a CCID that is known is never looked for again
  by_cases hzero : p.remoteCcid = 0
  · rw [if_pos hzero, if_pos hzero]
    unfold assignedCcid
    cases findAvp msg.avps .assignedControlConnectionId with
    | none => rw [Option.getD_none, ← hzero, hself]
    | some avp =>
      by_cases hlen : avp.value.length = 4
      · simp only [if_pos hlen, unpack_eq_ok hlen, ok_bind, Option.getD_some]
        -- a CCID of zero in the message is the same as none
        by_cases hassigned : (beNat avp.value : Int) = 0
        · rw [if_neg (not_not.mpr hassigned), hassigned, ← hzero, hself]
          rfl
        · rw [if_pos hassigned]
          rfl
      · simp only [if_neg hlen, Option.getD_none]
        rw [← hzero, hself]
  · rw [if_neg hzero, if_neg hzero, hself]

/-- The transport's CCID once the datagrams of `es` are in: the first CCID other than 0 that one
of them assigns, unless there was one before. Whatever cannot be decoded is not looked at. -/
def firstCcid (hmac : Hmac) (cfg : TunnelConfigEntry) : Int → List Tunnel.Event → Int
  | ccid, [] => ccid
  | ccid, .datagram buf :: es =>
    match unwire hmac cfg buf with
    | .error _ => firstCcid hmac cfg ccid es
    | .ok msg => firstCcid hmac cfg (learned ccid msg) es
  | ccid, _ :: es => firstCcid hmac cfg ccid es

/-- What a datagram did: the machine joins through what is delivered, and the transport is left
with the CCID that it has after its look at the message. -/
structure Heard (w : World δ) (msg : ControlMessage) (w' : World δ) : Prop where
  acquired : Acquired w w'
  stamped : w'.tunnel.peer.remoteCcid = learned w.tunnel.peer.remoteCcid msg
  entered : w.tunnel.fsm.Entered ((w.tunnel.peer.deliverable msg).flatMap (·.avps)) w'.tunnel.fsm

/-- The hand-over to the tunnel machine, in a world that differs from the one before the datagram in
the peer and in what was sent: the machine enters a handshake through the AVPs handed over. -/
theorem heard_drive (hmac : Hmac) {w w₁ : World δ} {msg virtual : ControlMessage}
    (hfsm : w₁.tunnel.fsm = w.tunnel.fsm)
    (hccid : w₁.tunnel.peer.remoteCcid = learned w.tunnel.peer.remoteCcid msg)
    (hdispatched : w₁.dispatched = w.dispatched ++ [(.tunnelFsm, virtual)])
    (hdelivered : virtual.avps = (w.tunnel.peer.deliverable msg).flatMap (·.avps)) :
    Heard w msg (drive hmac (TunnelFSM.onMessage virtual) w₁).2 := by
  have hq : Dispatch.Quiet w₁ (drive hmac (TunnelFSM.onMessage virtual) w₁).2 :=
    Dispatch.quiet_drive _ _
  have hentered : w.tunnel.fsm.Entered virtual.avps
      (drive hmac (TunnelFSM.onMessage virtual) w₁).2.tunnel.fsm := by
    rw [drive_fsm, hfsm]
    exact TunnelFSM.entered_onMessage virtual
  refine ⟨fun h => (hentered h).imp_right ?_, hq.link.remoteCcid.trans hccid, hdelivered ▸ hentered⟩
  rintro ⟨hnot, fields, hacc, htaken⟩
  exact ⟨hnot, virtual, fields, hq.dispatched.trans hdispatched, hacc, htaken⟩

/-- **A datagram** that reads as no message changes nothing; of any other one, what it does to the
machine and to the CCID is told from the message. -/
theorem heard_datagram (hmac : Hmac) (buf : Bytes) (w : World δ) :
    (∃ e, unwire hmac w.tunnel.cfg buf = .error e ∧ (handleDatagram hmac buf w).2 = w) ∨
    ∃ msg, unwire hmac w.tunnel.cfg buf = .ok msg ∧ Heard w msg (handleDatagram hmac buf w).2 := by
  rcases handleDatagram_cases hmac buf w with ⟨e, he, hrun⟩ |
    ⟨msg, ccid, peer, delivered, hmsg, hlearn, hrest⟩
  · exact .inl ⟨e, he, by rw [hrun]⟩
  · refine .inr ⟨msg, hmsg, ?_⟩
    have hremote : ∀ r, (w.tunnel.peer.setRemoteCcid ccid).receive msg = (r, peer) →
        peer.remoteCcid = ccid := by
      intro r hr
      have := Peer.receive_remoteCcid (w.tunnel.peer.setRemoteCcid ccid) msg
      rwa [hr] at this
    have hccid : ccid = learned w.tunnel.peer.remoteCcid msg := by
      rw [learnCcid_learned, Except.ok.injEq] at hlearn
      exact (congrArg Peer.remoteCcid hlearn).symm
    -- whatever does not call the machine
    have hquiet : ∀ w' : World δ, w'.tunnel.fsm = w.tunnel.fsm → w'.tunnel.peer.remoteCcid = ccid →
        Heard w msg w' := by
      intro w' hfsm hsame
      refine ⟨acquired_of_fsm hfsm, hsame.trans hccid, fun h => .inl ?_⟩
      rw [hfsm] at h ⊢
      exact ⟨h, rfl⟩
    -- no response; one that cannot be written; one that is, and the hand-over
    rcases hrest with ⟨hr, hrun⟩ | ⟨hr, ⟨e, -, hrun⟩ | ⟨bs, -, hrun⟩⟩
    · exact hrun ▸ hquiet _ rfl (hremote _ hr)
    · exact hrun ▸ hquiet _ rfl (hremote _ hr)
    · rw [hrun]
      split
      · obtain ⟨virtual, hvirtual, ⟨e, -, hd⟩ | ⟨mt, -, -, hd⟩ | ⟨mt, -, -, hd⟩⟩ :=
          dispatch_cases hmac msg delivered (received w peer [bs])
        · exact hd ▸ hquiet _ rfl (hremote _ hr)
        · have hc := cascaded_dispatchSession hmac virtual mt (received w peer [bs])
          exact hd ▸ hquiet _ hc.fsm (hc.link.remoteCcid.trans (hremote _ hr))
        · have hdelivered : virtual.avps = (w.tunnel.peer.deliverable msg).flatMap (·.avps) := by
            have := Peer.receive_delivered (w.tunnel.peer.setRemoteCcid ccid) msg
            rw [hr] at this
            rw [hvirtual]
            exact this
          rw [hd]
          exact heard_drive hmac rfl ((hremote _ hr).trans hccid) rfl hdelivered
      · exact hquiet _ rfl (hremote _ hr)

/-- What a handshake accepts is handed over, whatever else waited behind it. -/
theorem joined_datagram {buf : Bytes} {msg : ControlMessage} {fields : SccrxFields}
    (hsound : w.tunnel.peer.Sound) (hu : IsU32 w.tunnel.peer.remoteCcid)
    (hmsg : unwire hmac w.tunnel.cfg buf = .ok msg)
    (hacc : w.tunnel.fsm.Accepts ((w.tunnel.peer.deliverable msg).flatMap (·.avps)) fields) :
    (handleDatagram hmac buf w).2.tunnel.fsm.Joined ∧
      (handleDatagram hmac buf w).2.tunnel.fsm.peerCcid = fields.assignedCcid := by
  -- the AVPs name an SCCRQ or an SCCRP, so there are some and they go to the tunnel's machine
  have hmt : ∃ mt : MessageType, (mt = .sccrq ∨ mt = .sccrp) ∧
      getMessageType ((w.tunnel.peer.deliverable msg).flatMap (·.avps)) = .ok (some mt.code) := by
    rcases hacc.2 with ⟨-, hmt, -⟩ | ⟨-, hmt⟩
    · exact ⟨.sccrq, .inl rfl, hmt⟩
    · exact ⟨.sccrp, .inr rfl, hmt⟩
  obtain ⟨mt, hkind, hmt⟩ := hmt
  have hin : w.tunnel.peer.inOrder msg = true := by
    by_contra hout
    rw [Peer.deliverable, if_neg hout] at hmt
    cases hmt
  obtain ⟨ccid, acks, peer, -, -, -, ⟨hno, -⟩ | ⟨-, hrun⟩⟩ :=
    Dispatch.handleDatagram_next hsound hmsg hin
  · exact absurd hu hno
  · rw [hrun]
    obtain ⟨virtual, hvirtual, ⟨e, he, -⟩ | ⟨mt', hmem, hmt', -⟩ | ⟨mt', -, -, hd⟩⟩ :=
      dispatch_cases hmac msg ((w.tunnel.peer.deliverable msg).flatMap (·.avps))
        (received w peer acks)
    · rw [hmt] at he
      cases he
    · rw [hmt, Except.ok.injEq, Option.some.injEq] at hmt'
      rcases hkind with rfl | rfl <;> exact absurd (hmt' ▸ hmem) (by decide)
    · rw [hd, drive_fsm]
      exact TunnelFSM.joined_of_accepts (hvirtual ▸ hacc)

/-! ## Runs

At each datagram, the condition compares the CCID that the handshake assigns with the one that the
transport had before the datagram, or with the one that the datagram assigns when the transport had
none. As long as it holds both places agree; at the first datagram that breaks it they differ. -/

/-- A handshake that the datagram takes further is one of the transport's CCID: of the one that
the transport has, or, as long as it has none, of the one that this very datagram assigns. -/
def OwnCcid (hmac : Hmac) (w : World δ) : Tunnel.Event → Prop
  | .datagram buf => ∀ msg, unwire hmac w.tunnel.cfg buf = .ok msg → ∀ fields,
      w.tunnel.fsm.Accepts ((w.tunnel.peer.deliverable msg).flatMap (·.avps)) fields →
      fields.assignedCcid ≠ 0 →
        w.tunnel.peer.remoteCcid = fields.assignedCcid ∨
          (w.tunnel.peer.remoteCcid = 0 ∧ assignedCcid msg = some fields.assignedCcid)
  | _ => True

/-- The transport stamps the CCID that the machine negotiated. -/
def Stamped (w : World δ) : Prop :=
  w.tunnel.fsm.state = .waitCtlConn ∨ w.tunnel.fsm.state = .established →
    w.tunnel.fsm.peerCcid ≠ 0 → w.tunnel.peer.remoteCcid = w.tunnel.fsm.peerCcid

omit [Dataplane δ] in
/-- A datagram leaves the transport with the CCID of the handshake exactly if the CCID was that
one, or was not known and is assigned by the datagram. -/
theorem learned_eq_iff {remoteCcid ccid : Int} (hccid : ccid ≠ 0) (msg : ControlMessage) :
    learned remoteCcid msg = ccid ↔
      remoteCcid = ccid ∨ (remoteCcid = 0 ∧ assignedCcid msg = some ccid) := by
  unfold learned
  by_cases hzero : remoteCcid = 0
  · rw [if_pos hzero]
    cases hassigned : assignedCcid msg with
    | none => simp [hzero, hccid.symm]
    | some assigned => simp [hzero, hccid.symm]
  · rw [if_neg hzero]
    simp [hzero]

/-- What every run keeps: the configuration, sound counters, and a CCID that fits the header. -/
def sane (cfg : TunnelConfigEntry) : Parts where
  cfg c := c = cfg
  peer p := p.Sound ∧ IsU32 p.remoteCcid
  fsm _ := True
  session _ _ := True

/-- The handlers keep the configuration, the sequence numbers and a CCID of 32 bits. -/
theorem sane_stable (cfg : TunnelConfigEntry) : (sane cfg).Stable where
  link h hpq := ⟨hpq.sound h.1, by rw [hpq.remoteCcid]; exact h.2⟩
  learn h hlearn := ⟨⟨h.1.ns, h.1.nr⟩, (Dispatch.learnCcid_isU32 hlearn).mpr h.2⟩
  receive msg h := by
    have hframe := Peer.receive_frame _ msg h.1
    exact ⟨hframe.1, by rw [hframe.2.2.1]; exact h.2⟩
  tick now h := by
    have hframe := Peer.tick_frame _ now h.1
    exact ⟨hframe.1, by rw [hframe.2.2.1]; exact h.2⟩
  fsm _ _ := trivial
  session _ _ := trivial

/-- What a run of which every handshake is one of the transport's CCID keeps. -/
structure Agreed (cfg : TunnelConfigEntry) (w : World δ) : Prop where
  sane : (sane cfg).Holds w.tunnel
  stamped : Stamped w

/-- A datagram that brings no handshake of another CCID. -/
theorem stamped_datagram (h : Stamped w) {buf : Bytes} (hok : OwnCcid hmac w (.datagram buf)) :
    Stamped (handleDatagram hmac buf w).2 := by
  rcases heard_datagram hmac buf w with ⟨e, -, hrun⟩ | ⟨msg, hmsg, hheard⟩
  · rw [hrun]
    exact h
  · intro hjoined hne
    rcases hheard.entered hjoined with ⟨hwas, hsame⟩ | ⟨-, fields, hacc, htaken⟩
    · -- the CCID is known, so nothing is learned any more
      have hold : w.tunnel.peer.remoteCcid = w.tunnel.fsm.peerCcid := h hwas (hsame ▸ hne)
      have hknown : w.tunnel.peer.remoteCcid ≠ 0 := by rw [hold, ← hsame]; exact hne
      rw [hheard.stamped, learned, if_neg hknown, hold, hsame]
    · -- the handshake brings its CCID
      have hown := hok msg hmsg fields hacc (htaken ▸ hne)
      rw [hheard.stamped, htaken, learned_eq_iff (htaken ▸ hne)]
      exact hown

/-- Allowed events keep the agreement. -/
theorem Agreed.step {cfg : TunnelConfigEntry} (h : Agreed cfg w) {e : Tunnel.Event}
    (hok : OwnCcid hmac w e) : Agreed cfg (Tunnel.step hmac w e) := by
  refine ⟨(sane_stable cfg).handle e w h.sane, ?_⟩
  by_cases he : ∀ buf, e ≠ .datagram buf
  · have hq : Dispatch.Quiet w (Tunnel.step hmac w e) := Dispatch.quiet_step h.sane.peer.1 he
    intro hjoined hne
    obtain ⟨hwas, hsame⟩ := remained_step he hjoined
    rw [hq.link.remoteCcid, h.stamped hwas (hsame ▸ hne), hsame]
  · simp only [not_forall, not_not] at he
    obtain ⟨buf, rfl⟩ := he
    exact stamped_datagram h.stamped hok

/-- Any other event breaks it: the machine takes the CCID of the handshake, the transport does
not. -/
theorem Agreed.breaks {cfg : TunnelConfigEntry} (h : Agreed cfg w) {e : Tunnel.Event}
    (hno : ¬ OwnCcid hmac w e) : ¬ Stamped (Tunnel.step hmac w e) := by
  cases e with
  | datagram buf =>
    simp only [OwnCcid, not_forall] at hno
    obtain ⟨msg, hmsg, fields, hacc, hne, hother⟩ := hno
    -- the machine joins with the CCID of the handshake
    obtain ⟨hjoined, htaken⟩ : (handleDatagram hmac buf w).2.tunnel.fsm.Joined ∧
        (handleDatagram hmac buf w).2.tunnel.fsm.peerCcid = fields.assignedCcid :=
      joined_datagram h.sane.peer.1 h.sane.peer.2 hmsg hacc
    rcases heard_datagram hmac buf w with ⟨e, he, -⟩ | ⟨msg', hmsg', hheard⟩
    · rw [hmsg] at he
      cases he
    · rw [hmsg, Except.ok.injEq] at hmsg'
      subst hmsg'
      intro hstamped
      have hsame := hstamped hjoined (by rw [Tunnel.step, Tunnel.handle, htaken]; exact hne)
      rw [Tunnel.step, Tunnel.handle, hheard.stamped, htaken, learned_eq_iff hne] at hsame
      exact hother hsame
  | start => exact absurd trivial hno
  | close => exact absurd trivial hno
  | tick now => exact absurd trivial hno
  | helloTimer => exact absurd trivial hno
  | closeSession sid resultCode => exact absurd trivial hno

/-- Every event: who joins does so over one message handed to the machine, whose CCID it takes. -/
theorem acquired_step (hmac : Hmac) (w : World δ) (e : Tunnel.Event) :
    Acquired w (Tunnel.step hmac w e) := by
  by_cases he : ∀ buf, e ≠ .datagram buf
  · exact fun h => .inl (remained_step he h)
  · simp only [not_forall, not_not] at he
    obtain ⟨buf, rfl⟩ := he
    rcases heard_datagram hmac buf w with ⟨e, -, hrun⟩ | ⟨msg, -, hheard⟩
    · exact acquired_of_fsm (congrArg (·.tunnel.fsm) hrun)
    · exact hheard.acquired

/-- The transport's CCID after an event. -/
theorem remoteCcid_step {cfg : TunnelConfigEntry} (h : (sane cfg).Holds w.tunnel) (e : Tunnel.Event)
    (es : List Tunnel.Event) : firstCcid hmac cfg (Tunnel.step hmac w e).tunnel.peer.remoteCcid es
      = firstCcid hmac cfg w.tunnel.peer.remoteCcid (e :: es) := by
  -- only a datagram teaches the transport a CCID
  by_cases he : ∀ buf, e ≠ .datagram buf
  · have hq : Dispatch.Quiet w (Tunnel.step hmac w e) := Dispatch.quiet_step h.peer.1 he
    rw [hq.link.remoteCcid]
    cases e with
    | datagram buf => exact absurd rfl (he buf)
    | start => rfl
    | close => rfl
    | tick now => rfl
    | helloTimer => rfl
    | closeSession sid resultCode => rfl
  · simp only [not_forall, not_not] at he
    obtain ⟨buf, rfl⟩ := he
    have hcfg : w.tunnel.cfg = cfg := h.cfg
    rw [firstCcid, Tunnel.step, Tunnel.handle]
    rcases heard_datagram hmac buf w with ⟨e, he, hrun⟩ | ⟨msg, hmsg, hheard⟩
    · rw [hcfg] at he
      rw [hrun, he]
    · rw [hcfg] at hmsg
      rw [hheard.stamped, hmsg]

/-- **What the transport stamps is told from the datagrams**: the first CCID that one of them
assigned, whatever else happened. -/
theorem remoteCcid_run {cfg : TunnelConfigEntry} (es : List Tunnel.Event)
    (h : (sane cfg).Holds w.tunnel) : (es.foldl (Tunnel.step hmac) w).tunnel.peer.remoteCcid
      = firstCcid hmac cfg w.tunnel.peer.remoteCcid es := by
  induction es generalizing w with
  | nil => rfl
  | cons e es ih =>
    have hnext : (sane cfg).Holds (Tunnel.step hmac w e).tunnel := (sane_stable cfg).handle e w h
    rw [List.foldl_cons, ih hnext, remoteCcid_step h]

/-- **One peer CCID.** All along a run, the transport of a tunnel that has joined stamps the CCID
that the machine negotiated, exactly when each handshake of the run is one of the CCID that the
transport has, or takes from the same datagram. The CCID that the transport has is the first one
that the datagrams of the run assigned; the one that the machine negotiated is, whatever the run,
that of the SCCRQ or SCCRP that the handshake accepted. -/
theorem one_peer_ccid_iff (hmac : Hmac) (cfg : TunnelConfigEntry) (dataplane : Option δ)
    (clock : Nat → ℚ) (hccid : IsU32 cfg.remoteCcid) (es : List Tunnel.Event) :
    ((∀ pre, pre <+: es →
        Stamped (pre.foldl (Tunnel.step hmac) (World.init cfg dataplane clock))) ↔
      Transition.Guarded (Tunnel.step hmac) (OwnCcid hmac) (World.init cfg dataplane clock) es) ∧
    (es.foldl (Tunnel.step hmac) (World.init cfg dataplane clock)).tunnel.peer.remoteCcid
      = firstCcid hmac cfg cfg.remoteCcid es ∧
    ∀ (w : World δ) (e : Tunnel.Event), Acquired w (Tunnel.step hmac w e) := by
  have hsane : (sane cfg).Holds (Tunnel.init cfg) :=
    ⟨rfl, ⟨Peer.sound_init _ _ _ _ _, hccid⟩, trivial, fun _ _ _ => trivial⟩
  have hinit : Agreed cfg (World.init cfg dataplane clock) :=
    ⟨hsane, fun hjoined => by simp [World.init, Tunnel.init] at hjoined⟩
  refine ⟨?_, remoteCcid_run es hsane, acquired_step hmac⟩
  exact Transition.guarded_iff_along (fun _ h => h.stamped) (fun _ _ h hok => h.step hok)
    (fun _ _ h hno => h.breaks hno) es hinit

/-- A tunnel that has to learn the CCID of its peer. -/
def leaf : TunnelConfigEntry := { Dispatch.spoke with remoteCcid := 0 }

/-- `leaf` after some events, without a dataplane, the loop's clock standing still. -/
def leafAfter (es : List Tunnel.Event) : World MockDataplane :=
  es.foldl (Tunnel.step ControlMessage.sumHmac) (World.init leaf none fun _ => 0)

/-- An SCCRP with the CCID 200 at a machine that knew none: both places hold 200. -/
theorem one_peer_ccid_iff_reply :
    let w := leafAfter [.start, .datagram Notices.reply]
    w.tunnel.fsm.state = .established ∧ w.tunnel.fsm.peerCcid = 200 ∧
      w.tunnel.peer.remoteCcid = w.tunnel.fsm.peerCcid := by
  have hguard : OwnCcid ControlMessage.sumHmac (leafAfter [.start]) (.datagram Notices.reply) := by
    intro msg hmsg fields hacc _
    -- what the datagram assigns, and the fields that its AVPs parse to
    have hassigned : ((unwire ControlMessage.sumHmac (leafAfter [.start]).tunnel.cfg
        Notices.reply).toOption.bind assignedCcid) = some 200 := by
      decide +kernel
    have hfields : ((unwire ControlMessage.sumHmac (leafAfter [.start]).tunnel.cfg
        Notices.reply).toOption.bind fun msg => (parseSccrxFields
          (((leafAfter [.start]).tunnel.peer.deliverable msg).flatMap (·.avps))).toOption.map
            (·.assignedCcid)) = some 200 := by
      decide +kernel
    rw [hmsg, Except.toOption, Option.bind_some] at hassigned hfields
    rw [hacc.1, Except.toOption, Option.map_some, Option.some.injEq] at hfields
    have hunknown : (leafAfter [.start]).tunnel.peer.remoteCcid = 0 := by decide +kernel
    exact .inr ⟨hunknown, by rw [hassigned, hfields]⟩
  have hup : (leafAfter [.start, .datagram Notices.reply]).tunnel.fsm.state = .established := by
    decide +kernel
  have hccid : (leafAfter [.start, .datagram Notices.reply]).tunnel.fsm.peerCcid = 200 := by
    decide +kernel
  have hrun := (one_peer_ccid_iff ControlMessage.sumHmac leaf (none : Option MockDataplane)
    (fun _ => 0) (by decide) [.start, .datagram Notices.reply]).1.mpr ⟨trivial, hguard, trivial⟩
  have hstamped : Stamped (leafAfter [.start, .datagram Notices.reply]) :=
    hrun _ (List.prefix_refl _)
  exact ⟨hup, hccid, hstamped (.inr hup) (by rw [hccid]; decide)⟩

/-- A StopCCN that assigns CCID 5, and the SCCRQ of the next attempt, which assigns CCID 7. -/
def stopWithCcid : Bytes :=
  (ControlMessage.mk 100 0 1 [messageTypeAvp .stopccn,
    ietfAvp .assignedControlConnectionId (beBytes 4 5) true,
    ietfAvp .resultCode (beBytes 2 1) true]).wire

def nextSccrq : Bytes :=
  (ControlMessage.mk 100 1 1 [messageTypeAvp .sccrq, ietfAvp .routerId (beBytes 4 2) true,
    ietfAvp .assignedControlConnectionId (beBytes 4 7) true,
    ietfAvp .pseudowireCapabilitiesList [0, 5] true, ietfAvp .hostName (utf8 "peer") true]).wire

/-- The machine answers the SCCRQ of CCID 7; the transport stamps CCID 5 on the answer. -/
theorem stale_ccid :
    leaf.remoteCcid = 0 ∧
    let w := leafAfter [.start, .datagram stopWithCcid, .datagram nextSccrq]
    w.tunnel.fsm.state = .waitCtlConn ∧ w.tunnel.fsm.peerCcid = 7 ∧
      w.tunnel.peer.remoteCcid = 5 := by
  decide +kernel

end PeerCcid

end L2tpv3d
