import L2tpv3d.Daemon.Demux

/-!
# L2tpv3d — whether a restarted peer is heard

`_on_sccrq` answers an SCCRQ in `IDLE` and takes one in any other state for a restart of the
peer. A restarted peer numbers its messages from 0, and the transport keeps the counters of
the connection before: the SCCRQ is a duplicate to it, or lies beyond the window, unless
nothing was delivered yet.

* `Heard` — the SCCRQ reached `_on_sccrq`, with the effect that the machine documents.
* **`sccrq_heard_iff`** — in every state that a tunnel reaches.
-/

namespace L2tpv3d

open Py Prog

namespace Restart

open Tunnel World

variable {δ : Type} {hmac : Hmac} {w w' : World δ}

/-! ## What was sent

Whether the peer was answered is read off the datagrams: each one is decoded, and the type of its
message is what counts. A digest behind the message does not change its type. -/

/-- The type of the message in a datagram. -/
def wireType (bs : Bytes) : Option Int :=
  match ControlMessage.decode bs with
  | .ok msg => (getMessageType msg.avps).toOption.join
  | .error _ => none

/-- What is written of a typed message reads back as its type, with or without a digest. -/
theorem wireType_of_wire {cfg : TunnelConfigEntry} {msg : ControlMessage} {bs : Bytes}
    {mt : MessageType} (h : wire hmac cfg msg = .ok bs) (htag : Tagged mt msg.avps) :
    wireType bs = some mt.code := by
  obtain ⟨digest, -, hdec⟩ := decode_of_wire hmac h
  simp [wireType, hdec, getMessageType_append (getMessageType_of_tagged htag), Except.toOption]

/-- An acknowledgement has no type. -/
theorem wireType_ack {peer : Peer} {bs : Bytes} (h : peer.ackOnly.encode = .ok bs) :
    wireType bs = none := by
  simp [wireType, ControlMessage.decode_of_encode h, Peer.ackOnly, getMessageType, findAvp,
    Except.toOption]

/-- Between `w` and `w'` a message of this type was sent. -/
def Sent (mt : MessageType) (w w' : World δ) : Prop :=
  ∃ out, w'.sent = w.sent ++ out ∧ ∃ bs ∈ out, wireType bs = some mt.code

/-- What is sent after it does not take it back. -/
theorem Sent.later {mt : MessageType} {w'' : World δ} (h : Sent mt w w')
    (hmore : ∃ more, w''.sent = w'.sent ++ more) : Sent mt w w'' := by
  obtain ⟨out, hout, bs, hbs, hmt⟩ := h
  obtain ⟨more, hmore⟩ := hmore
  exact ⟨out ++ more, by rw [hmore, hout, List.append_assoc], bs, List.mem_append_left _ hbs, hmt⟩

/-- A regular message is sent as what it is. -/
theorem sent_send (hmac : Hmac) {v : World δ} {avps : List AVP} {mt : MessageType} (hready : w.tunnel.Ready)
    (havps : Regular avps) (htag : Tagged mt avps) (hstart : ∃ out, w.sent = v.sent ++ out) :
    ∃ w', send hmac avps w = (.ok (), w') ∧ Sent mt v w' := by
  obtain ⟨msg, peer, bs, hsend, hwire, hrun⟩ := send_ok hmac hready havps
  obtain ⟨out, hout⟩ := hstart
  obtain ⟨-, rfl, -⟩ := Peer.send_eq_ok.mp hsend
  exact ⟨_, hrun, out ++ [bs], by simp [hout], bs, by simp, wireType_of_wire hwire htag⟩

/-- A message that does not fit is not sent. -/
theorem send_unfit (hmac : Hmac) {avps : List AVP} (hunfit : ¬ ∀ avp ∈ avps, avp.Plain) (w : World δ) :
    ∃ e w', send hmac avps w = (.error e, w') ∧ w'.sent = w.sent := by
  rcases send_cases hmac avps w with ⟨e, -, hrun⟩ | ⟨msg, peer, hsend, -⟩
  · exact ⟨e, _, hrun, rfl⟩
  · obtain ⟨-, rfl, encoded, henc, -⟩ := Peer.send_eq_ok.mp hsend
    exact absurd (ControlMessage.wellFormed_of_encode henc).avps_plain hunfit

/-! ## The effect on the machine

An SCCRQ that is delivered is answered in `IDLE` and stops a machine in any other state. The answer
asks for an SCCRQ that parses and for texts that fit; the StopCCN asks for neither. -/

/-- The texts of the configuration fit their AVPs. -/
def TextsFit (cfg : TunnelConfigEntry) : Prop :=
  (utf8 cfg.hostName).length ≤ 1017 ∧ ∀ n, cfg.vendorName = some n → (utf8 n).length ≤ 1017

/-- The SCCRQ reached `_on_sccrq`: in `IDLE` it was answered with an SCCRP, in any other state
the connection was torn down with a StopCCN. -/
structure Heard (w w' : World δ) : Prop where
  reached : ∃ msg, w'.dispatched = w.dispatched ++ [(.tunnelFsm, msg)] ∧
    getMessageType msg.avps = .ok (some MessageType.sccrq.code)
  answered : w.tunnel.fsm.state = .idle → w'.tunnel.fsm.state = .waitCtlConn ∧ Sent .sccrp w w'
  torn : w.tunnel.fsm.state ≠ .idle → w'.tunnel.fsm.state = .sendStopccn ∧ Sent .stopccn w w'

variable [Dataplane δ]

/-- The tunnel is the one of the configuration, and its messages can be stamped. -/
structure Configured (cfg : TunnelConfigEntry) (t : Tunnel) : Prop where
  entry : t.cfg = cfg
  ready : t.Ready
  localCcid : t.peer.localCcid = cfg.localCcid
  config : t.fsm.config = cfg.toConfig

/-- **A non-idle machine** takes the SCCRQ for a restart. -/
theorem drive_restart (hmac : Hmac) {cfg : TunnelConfigEntry} (hacc : cfg.Accepted) (hset : Configured cfg w.tunnel)
    {msg : ControlMessage} (hmt : getMessageType msg.avps = .ok (some MessageType.sccrq.code))
    (hbusy : w.tunnel.fsm.state ≠ .idle) {v : World δ} (hstart : ∃ out, w.sent = v.sent ++ out) :
    (drive hmac (TunnelFSM.onMessage msg) w).2.tunnel.fsm.state = .sendStopccn ∧
      Sent .stopccn v (drive hmac (TunnelFSM.onMessage msg) w).2 := by
  -- the StopCCN of an accepted configuration can be built
  obtain ⟨avps, hbuilt⟩ : ∃ avps, buildStopccnAvps w.tunnel.fsm.config.localCcid
      ResultCode.generalError.code = .ok avps := by
    rw [hset.config]
    exact ⟨_, buildStopccnAvps_ok_iff.mpr
      ⟨⟨hacc.localCcid.1.le, hacc.localCcid.2⟩, by decide, rfl⟩⟩
  have hcall : TunnelFSM.onMessage msg w.tunnel.fsm
      = (.ok (TunnelFSM.stopActions w.tunnel.fsm.state avps .peerRestart),
        { w.tunnel.fsm with state := .sendStopccn }) := by
    simp [TunnelFSM.onMessage, hmt, TunnelFSM.onSccrq, hbusy, TunnelFSM.teardownAndNotify, hbuilt,
      TunnelFSM.transition]
  refine ⟨by rw [drive_fsm, hcall], ?_⟩
  obtain ⟨hreg, htag⟩ := buildStopccnAvps_regular hbuilt
  obtain ⟨w', hrun, hsent⟩ := sent_send hmac
    (w := w.withFsm { w.tunnel.fsm with state := .sendStopccn })
    ⟨hset.ready.sound, hset.ready.remoteCcid⟩ hreg htag hstart
  have hfsm : onFsm (δ := δ) (TunnelFSM.onMessage msg) w
      = (.ok (TunnelFSM.stopActions w.tunnel.fsm.state avps .peerRestart),
        w.withFsm { w.tunnel.fsm with state := .sendStopccn }) := by
    rw [onFsm_apply, hcall]
  rw [drive, bind_apply_of_ok _ _ hfsm]
  -- it is sent first, before any session is taken down
  have hsplit : TunnelFSM.stopActions w.tunnel.fsm.state avps .peerRestart
      = .sendMessage avps :: TunnelFSM.dropActions w.tunnel.fsm.state .peerRestart := rfl
  rw [hsplit, executeTunnelActions, each, bind_apply_of_ok _ _
    (show executeTunnelAction hmac (.sendMessage avps) _ = _ from hrun)]
  exact hsent.later (cascaded_tunnelActions hmac _ w').sent

/-- **An idle machine** answers what it can parse, if the answer fits. -/
theorem drive_answer (hmac : Hmac) {cfg : TunnelConfigEntry} (hacc : cfg.Accepted) (hset : Configured cfg w.tunnel)
    {msg : ControlMessage} (hmt : getMessageType msg.avps = .ok (some MessageType.sccrq.code))
    (hidle : w.tunnel.fsm.state = .idle) {v : World δ} {acks : List Bytes}
    (hstart : w.sent = v.sent ++ acks) (hacks : ∀ ack ∈ acks, wireType ack = none) :
    ((drive hmac (TunnelFSM.onMessage msg) w).2.tunnel.fsm.state = .waitCtlConn ∧
      Sent .sccrp v (drive hmac (TunnelFSM.onMessage msg) w).2) ↔
    (∃ fields, parseSccrxFields msg.avps = .ok fields) ∧ TextsFit cfg := by
  -- an idle machine ignores an SCCRQ it cannot parse
  cases hparse : parseSccrxFields msg.avps with
  | error e =>
    have htry := tryValueError_of_only (parseSccrxFields_onlyValueError msg.avps)
    rw [hparse] at htry
    have hcall : TunnelFSM.onMessage msg w.tunnel.fsm = (.ok [], w.tunnel.fsm) := by
      simp [TunnelFSM.onMessage, hmt, TunnelFSM.onSccrq, hidle, hparse, htry, Except.toOption]
    refine iff_of_false (fun h => ?_) (by simp)
    rw [drive_fsm, hcall, hidle] at h
    cases h.1
  | ok fields =>
    obtain ⟨avps, hbuilt⟩ : ∃ avps, buildSccrpAvps w.tunnel.fsm.config.sccrxArgs = .ok avps := by
      rw [hset.config]
      exact Crash.buildSccrx_of_accepted hacc .sccrp
    have hcall : TunnelFSM.onMessage msg w.tunnel.fsm = (.ok [.sendMessage avps],
        { w.tunnel.fsm.captured fields with state := .waitCtlConn }) := by
      simp [TunnelFSM.onMessage, hmt, TunnelFSM.onSccrq, hidle, hparse, tryValueError,
        TunnelFSM.capturePeer, TunnelFSM.captured, hbuilt, TunnelFSM.transition]
    have hfsm : onFsm (δ := δ) (TunnelFSM.onMessage msg) w = (.ok [.sendMessage avps],
        w.withFsm { w.tunnel.fsm.captured fields with state := .waitCtlConn }) := by
      rw [onFsm_apply, hcall]
    have hargs : w.tunnel.fsm.config.sccrxArgs = cfg.toConfig.sccrxArgs := by rw [hset.config]
    rw [hargs] at hbuilt
    -- texts that are too long for an AVP keep the answer from being written
    by_cases hfit : TextsFit cfg
    · refine iff_of_true ⟨by rw [drive_fsm, hcall], ?_⟩ ⟨⟨fields, rfl⟩, hfit⟩
      have hreg : Regular avps := buildSccrxAvps_regular hbuilt hfit.1
        (show [PseudowireType.ethernet.code, PseudowireType.ethernetVlan.code].length ≤ 508 by decide)
        hfit.2 (by rintro n ⟨⟩)
      obtain ⟨w', hrun, hsent⟩ := sent_send hmac
        (w := w.withFsm { w.tunnel.fsm.captured fields with state := .waitCtlConn })
        ⟨hset.ready.sound, hset.ready.remoteCcid⟩ hreg (buildSccrxAvps_tagged hbuilt) ⟨acks, hstart⟩
      rw [drive, bind_apply_of_ok _ _ hfsm, executeTunnelActions, each, bind_apply_of_ok _ _
        (show executeTunnelAction hmac (.sendMessage avps) _ = _ from hrun)]
      exact hsent
    · -- the answer is not sent, and the acknowledgement is no SCCRP
      refine iff_of_false (fun h => ?_) fun h => hfit h.2
      obtain ⟨e, w', hrun, hsent⟩ := send_unfit hmac
        (fun hplain => hfit (buildSccrxAvps_fits hbuilt hplain))
        (w.withFsm { w.tunnel.fsm.captured fields with state := .waitCtlConn })
      obtain ⟨out, hout, bs, hbs, htype⟩ := h.2
      rw [drive, bind_apply_of_ok _ _ hfsm, executeTunnelActions, each, bind_apply_of_error _ _
        (show executeTunnelAction hmac (.sendMessage avps) _ = _ from hrun)] at hout
      have hsame : v.sent ++ acks = v.sent ++ out := by
        rw [← hout, hsent]
        exact hstart.symm
      rw [← List.append_cancel_left hsame] at hbs
      rw [hacks bs hbs] at htype
      cases htype

/-! ## Runs

In every state reached the tunnel has the configuration that it was built with. The rest of the
condition is on the counter of the receiver, which a restarted peer starts from 0 again, and on the
messages that are handed over in one piece with the SCCRQ. -/

/-- What `Configured` says, part by part. -/
def configured (cfg : TunnelConfigEntry) : Parts where
  cfg c := c = cfg
  peer p := p.localCcid = cfg.localCcid ∧ p.Sound ∧ IsU32 p.remoteCcid
  fsm s := s.config = cfg.toConfig
  session _ _ := True

/-- The handlers keep the configuration and the ranges of the header fields. -/
theorem configured_stable (cfg : TunnelConfigEntry) : (configured cfg).Stable where
  link h hpq := ⟨hpq.localCcid.trans h.1, hpq.sound h.2.1, hpq.remoteCcid ▸ h.2.2⟩
  learn h hlearn := ⟨h.1, ⟨h.2.1.ns, h.2.1.nr⟩, (Dispatch.learnCcid_isU32 hlearn).mpr h.2.2⟩
  receive msg h := by
    obtain ⟨hsound, hlocal, hremote, -⟩ := Peer.receive_frame _ msg h.2.1
    exact ⟨hlocal.trans h.1, hsound, hremote ▸ h.2.2⟩
  tick now h := by
    obtain ⟨hsound, hlocal, hremote, -⟩ := Peer.tick_frame _ now h.2.1
    exact ⟨hlocal.trans h.1, hsound, hremote ▸ h.2.2⟩
  fsm hout h := hout.config_eq.trans h
  session _ _ := trivial

/-- In every state reached the tunnel has the configuration it was built with. -/
theorem configured_of_reach {cfg : TunnelConfigEntry} (hacc : cfg.Accepted) {dataplane : Option δ}
    {clock : Nat → ℚ} (hw : Transition.Reach (Tunnel.step hmac) (fun _ _ => True)
      (World.init cfg dataplane clock) w) : Configured cfg w.tunnel := by
  have h := (configured_stable cfg).reach
    ⟨rfl, ⟨rfl, Peer.sound_init _ _ _ _ _, hacc.remoteCcid⟩, rfl, fun _ _ _ => trivial⟩ hw
  exact ⟨h.cfg, ⟨h.peer.2.1, h.peer.2.2⟩, h.peer.1, h.fsm⟩

/-- The AVPs of the buffered messages that wait directly behind the one expected next. -/
def waiting (p : Peer) : List AVP :=
  (Peer.drain p.reorder.size (seqAdvance p.nrExpect) p.reorder).1.flatMap (·.avps)

/-- **A restarted peer is heard exactly when nothing was delivered before** (the counter is at
0), and, by an idle machine, when the SCCRQ can be parsed together with the messages that wait
behind it and the answer can be encoded. In every state that a tunnel reaches. -/
theorem sccrq_heard_iff (hmac : Hmac) (cfg : TunnelConfigEntry) (hacc : cfg.Accepted)
    (dataplane : Option δ) (clock : Nat → ℚ) (w : World δ)
    (hw : Transition.Reach (Tunnel.step hmac) (fun _ _ => True) (World.init cfg dataplane clock) w)
    (buf : Bytes) (msg : ControlMessage) (hmsg : unwire hmac cfg buf = .ok msg) (hns : msg.ns = 0)
    (hccid : msg.controlConnectionId = 0 ∨ msg.controlConnectionId = cfg.localCcid)
    (hmt : getMessageType msg.avps = .ok (some MessageType.sccrq.code)) :
    Heard w (handleDatagram hmac buf w).2 ↔ w.tunnel.peer.nrExpect = 0 ∧
      (w.tunnel.fsm.state = .idle →
        (∃ fields, parseSccrxFields (msg.avps ++ waiting w.tunnel.peer) = .ok fields) ∧
          TextsFit cfg) := by
  have hset := configured_of_reach hacc hw
  rw [← hset.entry] at hmsg
  have hzlb : msg.isZlb = false := by
    cases hz : msg.isZlb with
    | false => rfl
    | true =>
      rw [ControlMessage.isZlb, List.isEmpty_iff] at hz
      rw [hz] at hmt
      cases hmt
  have hnr := hset.ready.sound.nr
  have hin : w.tunnel.peer.inOrder msg = true ↔ w.tunnel.peer.nrExpect = 0 := by
    have haccepts : w.tunnel.peer.accepts msg = true := by
      simpa [Peer.accepts, hset.localCcid] using hccid
    rw [Peer.inOrder, haccepts, hzlb, hns]
    simp only [Bool.not_false, Bool.and_self, Bool.true_and, beq_iff_eq, seqDelta]
    unfold IsU16 at hnr
    constructor
    · intro hdelta
      split at hdelta <;> omega
    · intro hzero
      rw [hzero]
      decide
  -- in order or not is decided by the counter alone
  cases hcase : w.tunnel.peer.inOrder msg with
  | false =>
    -- a duplicate, or beyond the window
    obtain ⟨_, _, _, -, -, hrun⟩ := Dispatch.handleDatagram_idle hset.ready.sound hmsg hcase
    refine iff_of_false (fun h => ?_) fun h => ?_
    · obtain ⟨virtual, hreached, -⟩ := h.reached
      rw [hrun] at hreached
      have := congrArg List.length hreached
      simp [received, withPeer, mapTunnel] at this
    · rw [hin.mpr h.1] at hcase
      cases hcase
  | true =>
    obtain ⟨ccid, acks, peer, hu32, hpeer, hacks, ⟨hno, -⟩ | ⟨-, hrun⟩⟩ :=
      Dispatch.handleDatagram_next hset.ready.sound hmsg hcase
    · exact absurd hset.ready.remoteCcid hno
    · have havps : (w.tunnel.peer.deliverable msg).flatMap (·.avps)
          = msg.avps ++ waiting w.tunnel.peer := by
        rw [Peer.deliverable, if_pos hcase]
        rfl
      rw [havps] at hrun
      have hmt' : getMessageType (msg.avps ++ waiting w.tunnel.peer)
          = .ok (some MessageType.sccrq.code) := getMessageType_append hmt
      have hframe := Peer.receive_frame (w.tunnel.peer.setRemoteCcid ccid) msg
        ⟨hset.ready.sound.ns, hset.ready.sound.nr⟩
      rw [← hpeer] at hframe
      obtain ⟨virtual, hvirtual, ⟨e, he, -⟩ | ⟨mt, hmem, hmt'', -⟩ | ⟨mt, -, -, hdrive⟩⟩ :=
        dispatch_cases hmac msg (msg.avps ++ waiting w.tunnel.peer) (received w peer acks)
      · rw [hmt'] at he
        cases he
      · rw [hmt'] at hmt''
        cases hmt''
        exact absurd hmem (by decide)
      · have hset' : Configured cfg (noted (received w peer acks) .tunnelFsm virtual).tunnel :=
          ⟨hset.entry, ⟨hframe.1, hframe.2.2.1 ▸ hu32.mpr hset.ready.remoteCcid⟩,
            hframe.2.1.trans hset.localCcid, hset.config⟩
        have hbody : virtual.avps = msg.avps ++ waiting w.tunnel.peer := by rw [hvirtual]
        rw [← hbody] at hmt' ⊢
        rw [hrun, hdrive]
        have hquiet : Dispatch.Quiet (noted (received w peer acks) .tunnelFsm virtual)
            (drive hmac (TunnelFSM.onMessage virtual)
              (noted (received w peer acks) .tunnelFsm virtual)).2 := Dispatch.quiet_drive _ _
        have hreached : ∃ virtual', (drive hmac (TunnelFSM.onMessage virtual)
              (noted (received w peer acks) .tunnelFsm virtual)).2.dispatched
              = w.dispatched ++ [(.tunnelFsm, virtual')] ∧
            getMessageType virtual'.avps = .ok (some MessageType.sccrq.code) :=
          ⟨virtual, hquiet.dispatched, hmt'⟩
        -- an idle machine answers, any other one tears down
        by_cases hidle : w.tunnel.fsm.state = .idle
        · have hanswer := drive_answer hmac (v := w) hacc hset' hmt' hidle rfl
            fun ack hack => wireType_ack (hacks ack hack)
          refine ⟨fun h => ⟨hin.mp hcase, fun _ => hanswer.mp (h.answered hidle)⟩, fun h => ?_⟩
          exact ⟨hreached, fun _ => hanswer.mpr (h.2 hidle), fun hbusy => absurd hidle hbusy⟩
        · refine iff_of_true ⟨hreached, fun hi => absurd hi hidle, fun _ => ?_⟩
            ⟨hin.mp hcase, fun hi => absurd hi hidle⟩
          exact drive_restart hmac hacc hset' hmt' hidle ⟨acks, rfl⟩

/-- A tunnel just constructed hears the first SCCRQ of its peer. -/
theorem sccrq_heard_first :
    Heard Dispatch.spokeInit
      (handleDatagram ControlMessage.sumHmac Demux.firstSccrq.wire Dispatch.spokeInit).2 := by
  have hmsg : unwire ControlMessage.sumHmac Dispatch.spoke Demux.firstSccrq.wire
      = .ok Demux.firstSccrq := by
    decide +kernel
  have hparse : (parseSccrxFields (Demux.firstSccrq.avps ++ waiting Dispatch.spokeInit.tunnel.peer)).isOk
      = true := by
    decide +kernel
  refine (sccrq_heard_iff ControlMessage.sumHmac Dispatch.spoke
    (Crash.spoke_accepted.tunnels _ List.mem_cons_self) none (fun _ => 0) Dispatch.spokeInit .start
    _ _ hmsg rfl (.inl rfl) (by decide +kernel)).mpr ⟨rfl, fun _ => ⟨?_, by decide +kernel, nofun⟩⟩
  cases hfields : parseSccrxFields
      (Demux.firstSccrq.avps ++ waiting Dispatch.spokeInit.tunnel.peer) with
  | ok fields => exact ⟨fields, rfl⟩
  | error e =>
    rw [hfields] at hparse
    cases hparse

/-- The SCCRQ of the peer of `spoke` after it restarted and took a new CCID. -/
def restartSccrq : ControlMessage :=
  ⟨100, 0, 0, [messageTypeAvp .sccrq, ietfAvp .routerId (beBytes 4 2) true,
    ietfAvp .assignedControlConnectionId (beBytes 4 201) true,
    ietfAvp .pseudowireCapabilitiesList [0, 5] true, ietfAvp .hostName (utf8 "peer") true]⟩

/-- A tunnel that is up takes it for a duplicate, and stays up. -/
theorem restart_unheard :
    let w := Notices.spokeAfter [.start, .datagram Notices.reply]
    let w' := (handleDatagram ControlMessage.sumHmac restartSccrq.wire w).2
    Transition.Reach (Tunnel.step ControlMessage.sumHmac) (fun _ _ => True) Dispatch.spokeInit w ∧
    unwire ControlMessage.sumHmac Dispatch.spoke restartSccrq.wire = .ok restartSccrq ∧
    w.tunnel.fsm.peerCcid = 200 ∧ w.tunnel.fsm.state = .established ∧
    w'.tunnel.fsm.state = .established ∧ w'.dispatched.length = w.dispatched.length ∧
    ¬ Heard w w' := by
  have hup : (Notices.spokeAfter [.start, .datagram Notices.reply]).tunnel.fsm.state
      = .established := by
    decide +kernel
  have hstays : (handleDatagram ControlMessage.sumHmac restartSccrq.wire
      (Notices.spokeAfter [.start, .datagram Notices.reply])).2.tunnel.fsm.state = .established := by
    decide +kernel
  refine ⟨((Transition.Reach.start).next trivial).next trivial, by decide +kernel, by decide +kernel,
    hup, hstays, by decide +kernel, fun h => ?_⟩
  have htorn := (h.torn (by rw [hup]; decide)).1
  rw [hstays] at htorn
  cases htorn

end Restart

end L2tpv3d
