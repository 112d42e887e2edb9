import L2tpv3d.Daemon.Restart

/-!
# L2tpv3d — whether a control connection opens

Two tunnels configured with each other, on a network that loses nothing and delivers in order.
The end that starts sends an SCCRQ, the other answers with an SCCRP, the first confirms with
an SCCCN. Whatever the sessions exchange afterwards does not reach the tunnel machines.

`_on_sccrq` takes an SCCRQ that arrives in any state but `IDLE` for a restart of the peer and
stops. So when both ends start before either has heard of the other, both stop.

* `Quiet` — a datagram that no tunnel machine will see; `calm_datagram` — what a tunnel does
  with one.
* `Phase` — where an opening stands, and what is in flight there.
* **`opened`** — in every run in which no idle end starts while the other is under way.
-/

namespace L2tpv3d

open Py Prog

namespace Opening

open Tunnel World

variable {δ : Type} {hmac : Hmac} {w w₀ w' : World δ}

/-! ## Messages with a digest behind them

With a password, a datagram carries a Message Digest AVP behind those of the message. The other end
verifies it and reads past it: neither the parser nor the transport looks at that AVP. -/

section Digest

variable {cfg cfg' : TunnelConfigEntry} {msg : ControlMessage} {bs : Bytes} {avps digest : List AVP}

/-- **A datagram is understood** by a tunnel with the same password and algorithm. -/
theorem unwire_wire (hpassword : cfg'.password = cfg.password)
    (halg : cfg.password ≠ none → cfg'.digestAlg = cfg.digestAlg) (hno : Undigested msg.avps)
    (h : wire hmac cfg msg = .ok bs) : ∃ digest, (∀ d ∈ digest, d.isDigest = true) ∧
      unwire hmac cfg' bs = .ok { msg with avps := msg.avps ++ digest } := by
  have hsecret : cfg'.secret = cfg.secret := by
    unfold TunnelConfigEntry.secret
    rw [hpassword]
  unfold wire at h
  unfold unwire
  rw [hsecret]
  -- without a password the bytes are the message; with one a digest AVP is verified
  cases hs : cfg.secret with
  | none =>
    rw [hs] at h
    exact ⟨[], by simp, by simpa using ControlMessage.decode_of_encode h⟩
  | some secret =>
    rw [hs] at h
    have hset : cfg.password ≠ none := by
      rintro hnone
      simp [TunnelConfigEntry.secret, hnone] at hs
    simp only [halg hset]
    exact ⟨_, by simp [buildMessageDigest, AVP.isDigest, vendorIetf],
      ControlMessage.decodeAndVerify_encodeSigned (TunnelConfigEntry.secret_ne_nil hs) hno h⟩

/-- The digest behind an SCCRQ or SCCRP is not read. -/
theorem parseSccrxFields_append (h : ∀ d ∈ digest, d.isDigest = true) :
    parseSccrxFields (avps ++ digest) = parseSccrxFields avps := by
  unfold parseSccrxFields
  simp only [findAvp_append_digest h (by decide : AttrType.routerId ≠ .messageDigest),
    findAvp_append_digest h (by decide : AttrType.assignedControlConnectionId ≠ .messageDigest),
    findAvp_append_digest h (by decide : AttrType.hostName ≠ .messageDigest),
    findAvp_append_digest h (by decide : AttrType.pseudowireCapabilitiesList ≠ .messageDigest),
    findAvp_append_digest h (by decide : AttrType.receiveWindowSize ≠ .messageDigest),
    findAvp_append_digest h (by decide : AttrType.ctlMsgAuthNonce ≠ .messageDigest)]

/-- What the transport learns from an SCCRQ or SCCRP: the CCID of its sender, if it had none. -/
theorem learnCcid_sccrx (h : ∀ d ∈ digest, d.isDigest = true) {mt : MessageType} {a : SccrxArgs}
    (hbuilt : buildSccrxAvps mt a = .ok avps) (hpos : 0 < a.assignedCcid) (p : Peer)
    (hmsg : msg.avps = avps ++ digest) : learnCcid p msg
      = .ok (p.setRemoteCcid (if p.remoteCcid = 0 then a.assignedCcid else p.remoteCcid)) := by
  obtain ⟨-, ⟨h0, h1⟩, -, pw, vendor, firmware, nonce, -, -, -, -, -, rfl⟩ := buildSccrxAvps_ok hbuilt
  have hfind : findAvp msg.avps .assignedControlConnectionId
      = some (ietfAvp .assignedControlConnectionId (beBytes 4 a.assignedCcid.toNat) true) := by
    rw [hmsg, findAvp_append_digest h (by decide)]
    rfl
  unfold learnCcid
  split
  · rw [hfind]
    have hlen : (beBytes 4 a.assignedCcid.toNat).length = 4 := length_beBytes _ _
    have hvalue : unpack 4 (beBytes 4 a.assignedCcid.toNat) = .ok a.assignedCcid :=
      unpack_beBytes h0 (by omega)
    simp only [ietfAvp, hlen, if_true, hvalue, ok_bind]
    rw [if_pos (by omega)]
    rfl
  · rfl

end Digest

/-! ## Traffic that no tunnel machine sees

Acknowledgements and session messages pass between the two ends all the time, in any number and
order. They are kept apart from the three messages of the handshake: a quiet datagram is answered
with quiet datagrams, and leaves both the machine and its place in the handshake as they were. -/

/-- AVPs that are handed to a session, or to nobody. -/
def QuietAvps (avps : List AVP) : Prop :=
  ∀ mt, getMessageType avps = .ok (some mt) → mt ∈ sessionMsgTypes

/-- The datagram of an acknowledgement or of a session message. -/
def Quiet (bs : Bytes) : Prop := ∀ msg, ControlMessage.decode bs = .ok msg → QuietAvps msg.avps

/-- Every message in the reorder buffer is a session message. -/
def QuietBuffer (reorder : Dict Int ControlMessage) : Prop :=
  ∀ ns msg, reorder.get? ns = some msg → QuietAvps msg.avps

/-- What is handed over in one piece is taken for the first message of it. -/
theorem QuietAvps.append {avps rest : List AVP} (h : QuietAvps avps) (hrest : QuietAvps rest) :
    QuietAvps (avps ++ rest) := by
  intro mt hmt
  cases hfind : findAvp avps .messageType with
  | none =>
    refine hrest mt ?_
    rw [← hmt, getMessageType, getMessageType]
    rw [findAvp] at hfind
    simp only [findAvp, List.find?_append, hfind, Option.none_or]
  | some avp =>
    refine h mt ?_
    rw [← hmt, getMessageType, getMessageType]
    rw [findAvp] at hfind
    simp only [findAvp, List.find?_append, hfind, Option.some_or]

theorem quietAvps_nil : QuietAvps [] := fun mt hmt => by simp [getMessageType, findAvp] at hmt

/-- Messages that are quiet, in one piece. -/
theorem QuietAvps.flatMap {msgs : List ControlMessage} (h : ∀ m ∈ msgs, QuietAvps m.avps) :
    QuietAvps (msgs.flatMap (·.avps)) := by
  induction msgs with
  | nil => exact quietAvps_nil
  | cons m msgs ih =>
    obtain ⟨hm, hrest⟩ := List.forall_mem_cons.mp h
    rw [List.flatMap_cons]
    exact hm.append (ih hrest)

/-- The drain loop pops what is in the buffer and leaves the rest. -/
theorem QuietBuffer.drain {reorder : Dict Int ControlMessage} (h : QuietBuffer reorder)
    (fuel : Nat) (nr : Int) : (∀ m ∈ (Peer.drain fuel nr reorder).1, QuietAvps m.avps) ∧
      QuietBuffer (Peer.drain fuel nr reorder).2.2 := by
  -- on the fuel: each message popped was in the buffer
  induction fuel generalizing nr reorder with
  | zero => exact ⟨by simp [Peer.drain], h⟩
  | succ fuel ih =>
    rw [Peer.drain]
    cases hget : reorder.get? nr with
    | none => exact ⟨by simp, h⟩
    | some queued =>
      have herase : QuietBuffer (reorder.erase nr) := by
        intro ns msg hmsg
        rw [Dict.get?_erase] at hmsg
        split at hmsg
        · cases hmsg
        · exact h ns msg hmsg
      obtain ⟨hpopped, hleft⟩ := ih herase (seqAdvance nr)
      exact ⟨List.forall_mem_cons.mpr ⟨h nr queued hget, hpopped⟩, hleft⟩

/-- What a received session message delivers, and leaves in the buffer. -/
theorem QuietBuffer.receive {p : Peer} (h : QuietBuffer p.reorder) {msg : ControlMessage}
    (hmsg : QuietAvps msg.avps) :
    QuietAvps (p.receive msg).1.1 ∧ QuietBuffer (p.receive msg).2.reorder := by
  have hnil := quietAvps_nil
  -- refused; an acknowledgement; the next one, with what it releases; old; buffered; too far ahead
  rcases Peer.receive_cases p msg with ⟨-, hr⟩ | ⟨-, q, rfl, ⟨-, hr⟩ |
      ⟨-, popped, nr, reorder, hd, hr⟩ | ⟨-, -, hr⟩ | ⟨-, -, -, hr⟩ | ⟨-, -, -, hr⟩⟩
  · exact hr ▸ ⟨hnil, h⟩
  · exact hr ▸ ⟨hnil, h⟩
  · have hdrain := h.drain p.reorder.size (seqAdvance p.nrExpect)
    rw [hd] at hdrain
    exact hr ▸ ⟨hmsg.append (.flatMap hdrain.1), hdrain.2⟩
  · exact hr ▸ ⟨hnil, h⟩
  · refine hr ▸ ⟨hnil, fun ns m hm => ?_⟩
    have hm' : (p.reorder.set msg.ns msg).get? ns = some m := hm
    rw [Dict.get?_set] at hm'
    split at hm'
    · cases hm'
      exact hmsg
    · exact h ns m hm'
  · exact hr ▸ ⟨hnil, h⟩

/-- Only the transport, the sessions and the dataplane moved, and only quiet datagrams left. -/
structure Calm (w₀ w : World δ) : Prop where
  cfg : w.tunnel.cfg = w₀.tunnel.cfg
  fsm : w.tunnel.fsm = w₀.tunnel.fsm
  link : w₀.tunnel.peer.SameLink w.tunnel.peer
  sent : ∃ out, w.sent = w₀.sent ++ out ∧ ∀ bs ∈ out, Quiet bs

theorem Calm.refl (w : World δ) : Calm w w := ⟨rfl, rfl, .refl _, [], by simp, by simp⟩

/-- What leaves the machine and the datagrams alone is calm. -/
theorem Calm.of_eq (h : Calm w₀ w) (hcfg : w'.tunnel.cfg = w.tunnel.cfg)
    (hfsm : w'.tunnel.fsm = w.tunnel.fsm) (hpeer : w'.tunnel.peer = w.tunnel.peer)
    (hsent : w'.sent = w.sent) : Calm w₀ w' :=
  ⟨hcfg.trans h.cfg, hfsm.trans h.fsm, hpeer ▸ h.link, hsent ▸ h.sent⟩

/-- The datagram of a session message is quiet. -/
theorem quiet_wire {cfg : TunnelConfigEntry} {msg : ControlMessage} {bs : Bytes} {mt : MessageType}
    (h : wire hmac cfg msg = .ok bs) (htag : Tagged mt msg.avps) (hmt : mt.code ∈ sessionMsgTypes) :
    Quiet bs := by
  obtain ⟨digest, -, hdec⟩ := decode_of_wire hmac h
  intro msg' hmsg'
  rw [hdec, Except.ok.injEq] at hmsg'
  subst hmsg'
  intro mt' hmt'
  rw [getMessageType_append (getMessageType_of_tagged htag)] at hmt'
  cases hmt'
  exact hmt

/-- A message of a session is quiet. -/
theorem calm_send {avps : List AVP} {mt : MessageType} (htag : Tagged mt avps)
    (hmt : mt.code ∈ sessionMsgTypes) : Keeps (Calm w₀) (send (δ := δ) hmac avps) := by
  intro w h
  -- refused by the peer; queued and not signed; sent
  rcases send_cases hmac avps w with ⟨e, -, hrun⟩ | ⟨msg, peer, hsend, ⟨e, -, hrun⟩ | ⟨bs, hbs, hrun⟩⟩
  · exact hrun ▸ h.of_eq rfl rfl rfl rfl
  · exact hrun ▸ ⟨h.cfg, h.fsm, h.link.trans (Peer.sameLink_send hsend), h.sent⟩
  · obtain ⟨out, hout, hall⟩ := h.sent
    obtain ⟨-, rfl, -⟩ := Peer.send_eq_ok.mp hsend
    refine hrun ▸ ⟨h.cfg, h.fsm, h.link.trans (Peer.sameLink_send hsend), out ++ [bs],
      by simp [hout], ?_⟩
    exact List.forall_mem_append.mpr ⟨hall, by simpa using quiet_wire hbs htag hmt⟩

/-- A session sends nothing but such messages. -/
theorem calm_sessions (w₀ : World δ) : StandsSessions hmac (Calm w₀) := by
  intro s s' actions avps hout hmem
  obtain ⟨mt, hmt, htag⟩ := hout.tagged hmem
  refine calm_send htag ?_
  simp only [List.mem_cons, List.not_mem_nil, or_false] at hmt
  rcases hmt with rfl | rfl | rfl | rfl <;> decide

variable [Dataplane δ]

/-- The actions that follow an opening: the timer, and the calls of the sessions. -/
theorem calm_actions (hmac : Hmac) {actions : List TunnelAction}
    (h : ∀ avps, .sendMessage avps ∉ actions) (w : World δ) : Calm w (executeTunnelActions hmac actions w).2 :=
  keeps_executeTunnelActions hmac (fun _ _ _ _ h => h.of_eq rfl rfl rfl rfl)
    (fun _ _ _ _ h => h.of_eq rfl rfl rfl rfl)
    (fun _ hm => keeps_callSessions hmac (fun _ _ _ _ h => h.of_eq rfl rfl rfl rfl)
      (fun _ _ _ h => h.of_eq rfl rfl rfl rfl) (calm_sessions w) hm)
    (fun avps hmem => absurd hmem (h avps)) w (.refl w)

theorem calm_dispatch (hmac : Hmac) (msg : ControlMessage) {delivered : List AVP}
    (h : QuietAvps delivered) (w : World δ) : Calm w (dispatch hmac msg delivered w).2 := by
  obtain ⟨virtual, hvirtual, ⟨e, -, hd⟩ | ⟨mt, -, -, hd⟩ | ⟨mt, hmt, hnot, hd⟩⟩ :=
    dispatch_cases hmac msg delivered w
  · exact hd ▸ .refl w
  · rw [hd]
    rcases dispatchSessionMessage_cases hmac virtual mt w with hrun | ⟨_, _, _, sid, -, -, hrun⟩
    · exact hrun ▸ (Calm.refl w).of_eq rfl rfl rfl rfl
    · rw [hrun]
      exact keeps_callSession hmac (fun _ _ _ _ h => h.of_eq rfl rfl rfl rfl)
        (fun _ _ _ h => h.of_eq rfl rfl rfl rfl) (calm_sessions w)
        (SessionFSM.method_onMessage virtual) sid (onlyIndex_indexRemote sid) _
        ((Calm.refl w).of_eq rfl rfl rfl rfl)
  · -- a list without a Message Type is given to the tunnel machine, which ignores it
    obtain rfl : mt = none := by
      cases mt with
      | none => rfl
      | some mt => exact absurd (h mt hmt) (hnot mt rfl)
    have hcall : TunnelFSM.onMessage virtual w.tunnel.fsm = (.ok [], w.tunnel.fsm) := by
      have hmt' : getMessageType virtual.avps = .ok none := by rw [hvirtual]; exact hmt
      simp [TunnelFSM.onMessage, hmt']
    have hfsm : onFsm (TunnelFSM.onMessage virtual) (noted w .tunnelFsm virtual)
        = (.ok [], noted w .tunnelFsm virtual) := by
      rw [onFsm_apply, show (noted w .tunnelFsm virtual).tunnel.fsm = w.tunnel.fsm from rfl, hcall]
      rfl
    rw [hd, drive, bind_apply_of_ok _ _ hfsm]
    exact (Calm.refl w).of_eq rfl rfl rfl rfl

/-- **A quiet datagram** leaves the tunnel machine alone, is answered with quiet datagrams, and
leaves the reorder buffer quiet. -/
theorem calm_datagram (hmac : Hmac) {d : Bytes} (hd : Quiet d)
    (hbuf : QuietBuffer w.tunnel.peer.reorder) :
    (handleDatagram hmac d w).2.tunnel.cfg = w.tunnel.cfg ∧
    (handleDatagram hmac d w).2.tunnel.fsm = w.tunnel.fsm ∧
    QuietBuffer (handleDatagram hmac d w).2.tunnel.peer.reorder ∧
    ∃ out, (handleDatagram hmac d w).2.sent = w.sent ++ out ∧ ∀ bs ∈ out, Quiet bs := by
  rcases handleDatagram_cases hmac d w with ⟨e, -, hrun⟩ |
    ⟨msg, ccid, peer, delivered, hmsg, hlearn, hrest⟩
  · exact hrun ▸ ⟨rfl, rfl, hbuf, [], by simp, by simp⟩
  · have hrecv := QuietBuffer.receive (p := w.tunnel.peer.setRemoteCcid ccid) hbuf
      (hd msg (Dispatch.unwire_decode hmsg))
    -- no response; one that cannot be written; one that is, and the hand-over
    rcases hrest with ⟨hr, hrun⟩ | ⟨hr, ⟨e, -, hrun⟩ | ⟨bs, hbs, hrun⟩⟩
    · rw [hr] at hrecv
      exact hrun ▸ ⟨rfl, rfl, hrecv.2, [], rfl, by simp⟩
    · rw [hr] at hrecv
      exact hrun ▸ ⟨rfl, rfl, hrecv.2, [], rfl, by simp⟩
    · rw [hr] at hrecv
      have hack : Quiet bs := by
        intro msg' hmsg' mt hmt
        rw [ControlMessage.decode_of_encode hbs, Except.ok.injEq] at hmsg'
        subst hmsg'
        simp [Peer.ackOnly, getMessageType, findAvp] at hmt
      rw [hrun]
      split
      · have hcalm := calm_dispatch hmac msg hrecv.1 (received w peer [bs])
        obtain ⟨out, hout, hall⟩ := hcalm.sent
        refine ⟨hcalm.cfg, hcalm.fsm, ?_, [bs] ++ out, ?_, ?_⟩
        · rw [hcalm.link.reorder]
          exact hrecv.2
        · rw [hout]
          simp [received]
        · exact List.forall_mem_append.mpr ⟨by simpa using hack, hall⟩
      · exact ⟨rfl, rfl, hrecv.2, [bs], rfl, by simpa using hack⟩

/-! ## One end

What an end does is told from its counters, the address of its messages and its configuration, which
`At` collects. The message expected next is delivered alone, because nothing waits behind it. -/

/-- A tunnel of the configuration whose counters stand at `ns` and `nr`, that addresses its
messages to `remote` and waits for nothing out of order. -/
structure At (cfg : TunnelConfigEntry) (ns nr remote : Int) (t : Tunnel) : Prop where
  entry : t.cfg = cfg
  config : t.fsm.config = cfg.toConfig
  localCcid : t.peer.localCcid = cfg.localCcid
  remoteCcid : t.peer.remoteCcid = remote
  nsSend : t.peer.nsSend = ns
  nrExpect : t.peer.nrExpect = nr
  reorder : t.peer.reorder = .empty

/-- The datagram is an acknowledgement. -/
def IsAck (bs : Bytes) : Prop := ∀ msg, ControlMessage.decode bs = .ok msg → msg.avps = []

variable {cfg other : TunnelConfigEntry} {ns nr remote : Int}

omit [Dataplane δ] in
/-- What the peer writes to acknowledge is an acknowledgement. -/
theorem isAck_of_ackOnly {peer : Peer} {bs : Bytes} (h : peer.ackOnly.encode = .ok bs) :
    IsAck bs := by
  intro msg hmsg
  rw [ControlMessage.decode_of_encode h, Except.ok.injEq] at hmsg
  subst hmsg
  rfl

/-- **An acknowledgement** moves nothing but the retransmit queue, and is not answered. -/
theorem ack_datagram (hmac : Hmac) {d : Bytes} (hd : IsAck d) (h : At cfg ns nr remote w.tunnel) :
    At cfg ns nr remote (handleDatagram hmac d w).2.tunnel ∧
    (handleDatagram hmac d w).2.tunnel.fsm = w.tunnel.fsm ∧
    (handleDatagram hmac d w).2.sent = w.sent := by
  rcases handleDatagram_cases hmac d w with ⟨e, -, hrun⟩ |
    ⟨msg, ccid, peer, delivered, hmsg, hlearn, hrest⟩
  · exact hrun ▸ ⟨h, rfl, rfl⟩
  · have havps := hd msg (Dispatch.unwire_decode hmsg)
    have hzlb : msg.isZlb = true := by simp [ControlMessage.isZlb, havps]
    -- there is no CCID to learn
    obtain rfl : ccid = w.tunnel.peer.remoteCcid := by
      have hsame : learnCcid w.tunnel.peer msg = .ok w.tunnel.peer := by
        simp [learnCcid, havps, findAvp]
      rw [hsame, Except.ok.injEq] at hlearn
      exact (congrArg Peer.remoteCcid hlearn).symm
    have hself : w.tunnel.peer.setRemoteCcid w.tunnel.peer.remoteCcid = w.tunnel.peer := rfl
    rw [hself] at hrest
    obtain ⟨queue, hqueue⟩ : ∃ queue, w.tunnel.peer.receive msg
        = (([], []), { w.tunnel.peer with sendQueue := queue }) := by
      rcases Peer.receive_cases w.tunnel.peer msg with ⟨-, hr⟩ | ⟨-, q, rfl, ⟨-, hr⟩ |
          ⟨hin, -⟩ | ⟨hz, -⟩ | ⟨hz, -⟩ | ⟨hz, -⟩⟩
      · exact ⟨_, hr⟩
      · exact ⟨_, hr⟩
      · simp [Peer.inOrder, hzlb] at hin
      all_goals
        rw [hzlb] at hz
        cases hz
    rw [hqueue] at hrest
    rcases hrest with ⟨hr, hrun⟩ | ⟨hr, -⟩
    · cases hr
      rw [hrun]
      exact ⟨⟨h.entry, h.config, h.localCcid, h.remoteCcid, h.nsSend, h.nrExpect, h.reorder⟩, rfl,
        by simp [received]⟩
    · cases hr

omit [Dataplane δ] in
/-- The message expected next is delivered alone when nothing waits behind it. -/
theorem receive_next {p : Peer} {msg : ControlMessage} (hin : p.inOrder msg = true)
    (hempty : p.reorder = .empty) : ∃ q : Peer, p.receive msg = ((msg.avps, [q.ackOnly]), q) ∧
      q.localCcid = p.localCcid ∧ q.remoteCcid = p.remoteCcid ∧ q.nsSend = p.nsSend ∧
      q.nrExpect = seqAdvance p.nrExpect ∧ q.reorder = .empty := by
  rcases Peer.receive_cases p msg with ⟨hacc, -⟩ | ⟨-, q, rfl, ⟨hz, -⟩ |
      ⟨-, popped, nr, reorder, hdrain, hr⟩ | ⟨-, hdelta, -⟩ | ⟨-, hdelta, -⟩ | ⟨-, hdelta, -⟩⟩
  · simp [Peer.inOrder, hacc] at hin
  · simp [Peer.inOrder, hz] at hin
  · rw [hempty] at hdrain
    cases hdrain
    rw [List.flatMap_nil, List.append_nil] at hr
    exact ⟨_, hr, rfl, rfl, rfl, rfl, rfl⟩
  all_goals
    simp only [Peer.inOrder, Bool.and_eq_true, beq_iff_eq] at hin
    omega

/-- **The message expected next** is acknowledged and handed over as it is. -/
theorem next_datagram {d : Bytes} {msg : ControlMessage} {remote' : Int}
    (h : At cfg ns nr remote w.tunnel) (hns : IsU16 ns) (hnr : 0 ≤ nr ∧ nr < 0xFFFF)
    (hremote : IsU32 remote') (hmsg : unwire hmac cfg d = .ok msg) (hbody : msg.avps ≠ [])
    (haddr : msg.controlConnectionId = 0 ∨ msg.controlConnectionId = cfg.localCcid)
    (hseq : msg.ns = nr)
    (hlearn : learnCcid w.tunnel.peer msg = .ok (w.tunnel.peer.setRemoteCcid remote')) :
    ∃ v ack, IsAck ack ∧ At cfg ns (nr + 1) remote' v.tunnel ∧ v.tunnel.fsm = w.tunnel.fsm ∧
      v.sent = w.sent ++ [ack] ∧
      handleDatagram hmac d w = dispatch hmac msg msg.avps v := by
  have hin : (w.tunnel.peer.setRemoteCcid remote').inOrder msg = true := by
    have hself : seqDelta msg.ns (w.tunnel.peer.setRemoteCcid remote').nrExpect = 0 := by
      show seqDelta msg.ns w.tunnel.peer.nrExpect = 0
      rw [hseq, h.nrExpect]
      simp [seqDelta]
    have hacc : (w.tunnel.peer.setRemoteCcid remote').accepts msg = true := by
      rw [← h.localCcid] at haddr
      simpa [Peer.accepts, Peer.setRemoteCcid] using haddr
    have hz : msg.isZlb = false := by simpa [ControlMessage.isZlb] using hbody
    simp [Peer.inOrder, hacc, hz, hself]
  obtain ⟨q, hrecv, hlocal, hremote', hns', hnr', hempty⟩ := receive_next hin h.reorder
  have hadvance : q.nrExpect = nr + 1 := by
    rw [hnr']
    show seqAdvance w.tunnel.peer.nrExpect = nr + 1
    rw [h.nrExpect, seqAdvance]
    omega
  obtain ⟨ack, hack⟩ : ∃ ack, q.ackOnly.encode = .ok ack := by
    refine encode_ackOnly ⟨?_, ?_⟩ (hremote' ▸ hremote)
    · rw [hns']
      exact h.nsSend ▸ hns
    · rw [hadvance]
      exact ⟨by omega, by omega⟩
  refine ⟨received w q [ack], ack, isAck_of_ackOnly hack, ?_, rfl, rfl, ?_⟩
  · exact ⟨h.entry, h.config, hlocal.trans h.localCcid, hremote', hns'.trans h.nsSend, hadvance,
      hempty⟩
  -- readable, as the hypothesis says, and acknowledged
  · rcases handleDatagram_cases hmac d w with ⟨e, he, -⟩ |
      ⟨msg', ccid, peer, delivered, hmsg', hlearn', hrest⟩
    · rw [h.entry, hmsg] at he
      cases he
    · rw [h.entry, hmsg, Except.ok.injEq] at hmsg'
      subst hmsg'
      obtain rfl : remote' = ccid := by
        rw [hlearn, Except.ok.injEq] at hlearn'
        exact congrArg Peer.remoteCcid hlearn'
      rw [hrecv] at hrest
      rcases hrest with ⟨hr, -⟩ | ⟨hr, hrest⟩
      · exact absurd (congrArg (fun r => r.1.2) hr) (by simp)
      · obtain rfl : q = peer := congrArg Prod.snd hr
        obtain rfl : msg.avps = delivered := congrArg (fun r => r.1.1) hr
        rcases hrest with ⟨e, he, -⟩ | ⟨bs, hbs, hrun⟩
        · rw [hack] at he
          cases he
        · rw [hack, Except.ok.injEq] at hbs
          subst hbs
          rw [hrun, if_pos hbody]

/-- A call of the machine that asks for a message first: the message goes out, and what is left
of the actions is executed after it. -/
theorem drive_send (hmac : Hmac) {m : Prog TunnelFSM (List TunnelAction)} {avps : List AVP}
    {rest : List TunnelAction} {fsm : TunnelFSM} (h : At cfg ns nr remote w.tunnel)
    (hns : 0 ≤ ns ∧ ns < 0xFFFF) (hnr : IsU16 nr) (hremote : IsU32 remote)
    (hcall : m w.tunnel.fsm = (.ok (.sendMessage avps :: rest), fsm))
    (hconfig : fsm.config = w.tunnel.fsm.config) (hreg : Regular avps) :
    ∃ v bs, At cfg (ns + 1) nr remote v.tunnel ∧ v.tunnel.fsm = fsm ∧ v.sent = w.sent ++ [bs] ∧
      wire hmac cfg ⟨remote, ns, nr, avps⟩ = .ok bs ∧
      drive hmac m w = executeTunnelActions hmac rest v := by
  have hready : (w.withFsm fsm).tunnel.Ready :=
    ⟨⟨h.nsSend ▸ ⟨hns.1, by omega⟩, h.nrExpect ▸ hnr⟩, h.remoteCcid ▸ hremote⟩
  obtain ⟨msg, peer, bs, hsend, hwire, hrun⟩ := send_ok hmac hready hreg
  obtain ⟨-, rfl, encoded, -, rfl⟩ := Peer.send_eq_ok.mp hsend
  -- the call and its first action; the other actions are left to the caller
  have hdrive : drive hmac m w
      = executeTunnelActions hmac rest (send hmac avps (w.withFsm fsm)).2 := by
    have hfsm : onFsm m w = (.ok (.sendMessage avps :: rest), w.withFsm fsm) := by
      rw [onFsm_apply, hcall]
    rw [drive, bind_apply_of_ok _ _ hfsm, executeTunnelActions, each, bind_apply_of_ok _ _
      (show executeTunnelAction hmac (.sendMessage avps) _ = _ from hrun), hrun]
    rfl
  refine ⟨_, bs, ?_, ?_, ?_, ?_, hdrive⟩
  · rw [hrun]
    refine ⟨h.entry, hconfig.trans h.config, h.localCcid, h.remoteCcid, ?_, h.nrExpect, h.reorder⟩
    show seqAdvance w.tunnel.peer.nsSend = ns + 1
    rw [h.nsSend, seqAdvance]
    omega
  · rw [hrun]
    rfl
  · rw [hrun]
    rfl
  · rw [← hwire]
    show _ = wire hmac w.tunnel.cfg ⟨w.tunnel.peer.remoteCcid, w.tunnel.peer.nsSend,
      w.tunnel.peer.nrExpect, avps⟩
    rw [h.entry, h.remoteCcid, h.nsSend, h.nrExpect]

/-- A message of the control connection is handed to the tunnel machine. -/
theorem dispatch_tunnel (hmac : Hmac) (msg : ControlMessage) {avps : List AVP} {mt : Int}
    (hmt : getMessageType avps = .ok (some mt)) (hnot : mt ∉ sessionMsgTypes) (w : World δ) :
    ∃ virtual : ControlMessage, virtual.avps = avps ∧ dispatch hmac msg avps w
      = drive hmac (TunnelFSM.onMessage virtual) (noted w .tunnelFsm virtual) := by
  obtain ⟨virtual, hvirtual, ⟨e, he, -⟩ | ⟨mt', hmem, hmt', -⟩ | ⟨mt', -, -, hd⟩⟩ :=
    dispatch_cases hmac msg avps w
  · rw [hmt] at he
    cases he
  · rw [hmt] at hmt'
    cases hmt'
    exact absurd hmem hnot
  · exact ⟨virtual, by rw [hvirtual], hd⟩

/-- The SCCRQ and SCCRP of a configuration can be built, and fit. -/
theorem sccrx_of_accepted (hacc : cfg.Accepted) (hfit : Restart.TextsFit cfg) (mt : MessageType) :
    ∃ avps, buildSccrxAvps mt cfg.toConfig.sccrxArgs = .ok avps ∧ Regular avps := by
  obtain ⟨avps, hbuilt⟩ := Crash.buildSccrx_of_accepted hacc mt
  exact ⟨avps, hbuilt, (Crash.sendable_tunnel hacc hfit.1 hfit.2).regular mt avps hbuilt⟩

/-- **The start** of an idle end sends an SCCRQ. -/
theorem start_idle (hmac : Hmac) (hacc : cfg.Accepted) (hfit : Restart.TextsFit cfg)
    (h : At cfg 0 0 cfg.remoteCcid w.tunnel) (hidle : w.tunnel.fsm.state = .idle) :
    ∃ sccrq bs, buildSccrxAvps .sccrq cfg.toConfig.sccrxArgs = .ok sccrq ∧
      wire hmac cfg ⟨cfg.remoteCcid, 0, 0, sccrq⟩ = .ok bs ∧
      At cfg 1 0 cfg.remoteCcid (start hmac w).2.tunnel ∧
      (start hmac w).2.tunnel.fsm.state = .waitCtlReply ∧ (start hmac w).2.sent = w.sent ++ [bs] := by
  obtain ⟨sccrq, hbuilt, hreg⟩ := sccrx_of_accepted hacc hfit .sccrq
  have hcall : TunnelFSM.onLocalOpen w.tunnel.fsm
      = (.ok [.sendMessage sccrq], { w.tunnel.fsm with state := .waitCtlReply }) := by
    have hbuilt' : buildSccrqAvps w.tunnel.fsm.config.sccrxArgs = .ok sccrq := h.config ▸ hbuilt
    simp [TunnelFSM.onLocalOpen, hidle, hbuilt', TunnelFSM.transition]
  obtain ⟨v, bs, hv, hfsm, hsent, hwire, hrun⟩ := drive_send hmac h (by decide) (by decide)
    hacc.remoteCcid hcall rfl hreg
  refine ⟨sccrq, bs, hbuilt, hwire, ?_⟩
  rw [start, hrun]
  exact ⟨hv, by rw [show (executeTunnelActions hmac [] v).2 = v from rfl, hfsm], hsent⟩

/-! ## The handshake, message by message

One lemma for each of SCCRQ, SCCRP and SCCCN. It starts with an end that waits for the message, and
ends with the message that is sent in return, if any, and with the state of the machine. -/

/-- The tunnel is configured with the other one: the same authentication, and the CCID of the
other or none. Its own messages can be encoded. -/
structure Matched (cfg other : TunnelConfigEntry) : Prop where
  accepted : cfg.Accepted
  texts : Restart.TextsFit cfg
  remoteCcid : cfg.remoteCcid = 0 ∨ cfg.remoteCcid = other.localCcid
  password : cfg.password = other.password
  digestAlg : cfg.password ≠ none → cfg.digestAlg = other.digestAlg

section Handshake

variable {d : Bytes} {avps : List AVP} {mt : MessageType}

omit [Dataplane δ] in
/-- The CCID of an accepted configuration fits the header. -/
theorem isU32_localCcid (h : Matched cfg other) : IsU32 cfg.localCcid :=
  ⟨h.accepted.localCcid.1.le, h.accepted.localCcid.2⟩

omit [Dataplane δ] in
/-- Whether it was configured or is learned, the CCID is the other's. -/
theorem Matched.learned (h : Matched cfg other) :
    (if cfg.remoteCcid = 0 then other.localCcid else cfg.remoteCcid) = other.localCcid := by
  rcases h.remoteCcid with hzero | hset
  · rw [if_pos hzero]
  · rw [hset, ite_self]

/-- **A message of the other end** that is expected next reaches the tunnel machine. -/
theorem take_tunnel (hm : Matched cfg other) (ho : Matched other cfg) (htag : Tagged mt avps)
    (hmt : mt.code ∉ sessionMsgTypes) (hno : Undigested avps) (h : At cfg ns nr remote w.tunnel)
    (hns : IsU16 ns) (hnr : 0 ≤ nr ∧ nr < 0xFFFF) {ccid peerNr remote' : Int}
    (haddr : ccid = 0 ∨ ccid = cfg.localCcid) (hremote : IsU32 remote')
    (hwire : wire hmac other ⟨ccid, nr, peerNr, avps⟩ = .ok d)
    (hlearn : ∀ digest msg, (∀ d ∈ digest, AVP.isDigest d = true) →
      ControlMessage.avps msg = avps ++ digest →
      learnCcid w.tunnel.peer msg = .ok (w.tunnel.peer.setRemoteCcid remote')) :
    ∃ v ack virtual digest, IsAck ack ∧ At cfg ns (nr + 1) remote' v.tunnel ∧
      v.tunnel.fsm = w.tunnel.fsm ∧ v.sent = w.sent ++ [ack] ∧
      (∀ d ∈ digest, AVP.isDigest d = true) ∧ ControlMessage.avps virtual = avps ++ digest ∧
      getMessageType virtual.avps = .ok (some mt.code) ∧
      handleDatagram hmac d w = drive hmac (TunnelFSM.onMessage virtual) v := by
  obtain ⟨digest, hdigest, hmsg⟩ := unwire_wire hm.password
    (fun hset => (ho.digestAlg hset).symm) hno hwire
  have htype : getMessageType (avps ++ digest) = .ok (some mt.code) :=
    getMessageType_append (getMessageType_of_tagged htag)
  -- what is next in sequence is acknowledged before it is handed over
  obtain ⟨v, ack, hack, hv, hfsm, hsent, hrun⟩ := next_datagram h hns hnr hremote hmsg
    (by simp [htag.ne_nil]) haddr rfl (hlearn digest _ hdigest rfl)
  -- it is not for a session, so the tunnel machine is called
  obtain ⟨virtual, hvirtual, hd⟩ := dispatch_tunnel hmac
    ⟨ccid, nr, peerNr, avps ++ digest⟩ htype hmt v
  refine ⟨noted v .tunnelFsm virtual, ack, virtual, digest, hack, ?_, hfsm, hsent, hdigest, hvirtual,
    by rw [hvirtual, htype], hrun.trans hd⟩
  exact ⟨hv.entry, hv.config, hv.localCcid, hv.remoteCcid, hv.nsSend, hv.nrExpect, hv.reorder⟩

/-- **The SCCRQ** of the other end is answered by an idle end. -/
theorem sccrq_answered (hm : Matched cfg other) (ho : Matched other cfg)
    (h : At cfg 0 0 cfg.remoteCcid w.tunnel) (hidle : w.tunnel.fsm.state = .idle)
    (hbuilt : buildSccrxAvps .sccrq other.toConfig.sccrxArgs = .ok avps)
    (hwire : wire hmac other ⟨other.remoteCcid, 0, 0, avps⟩ = .ok d) :
    ∃ ack sccrp bs, IsAck ack ∧ buildSccrxAvps .sccrp cfg.toConfig.sccrxArgs = .ok sccrp ∧
      wire hmac cfg ⟨other.localCcid, 0, 1, sccrp⟩ = .ok bs ∧
      At cfg 1 1 other.localCcid (handleDatagram hmac d w).2.tunnel ∧
      (handleDatagram hmac d w).2.tunnel.fsm.state = .waitCtlConn ∧
      (handleDatagram hmac d w).2.tunnel.fsm.peerCcid = other.localCcid ∧
      (handleDatagram hmac d w).2.sent = w.sent ++ [ack, bs] := by
  -- the transport takes the CCID that the SCCRQ assigns, or has it configured
  have hlearn : ∀ digest msg, (∀ d ∈ digest, AVP.isDigest d = true) →
      ControlMessage.avps msg = avps ++ digest →
      learnCcid w.tunnel.peer msg = .ok (w.tunnel.peer.setRemoteCcid other.localCcid) := by
    intro digest msg hdigest hmsg
    rw [learnCcid_sccrx hdigest hbuilt ho.accepted.localCcid.1 _ hmsg, h.remoteCcid]
    exact congrArg _ (congrArg _ hm.learned)
  obtain ⟨v, ack, virtual, digest, hack, hv, hfsm, hsent, hdigest, hvirtual, htype, hrun⟩ :=
    take_tunnel hm ho (buildSccrxAvps_tagged hbuilt) (by decide) (buildSccrxAvps_undigested hbuilt)
      h (by decide) (by decide) ho.remoteCcid (isU32_localCcid ho) hwire hlearn
  obtain ⟨sccrp, hsccrp, hreg⟩ := sccrx_of_accepted hm.accepted hm.texts .sccrp
  obtain ⟨fields, hparse, -, hccid, -⟩ := parseSccrxFields_build hbuilt
  have hparse' : parseSccrxFields virtual.avps = .ok fields := by
    rw [hvirtual, parseSccrxFields_append hdigest, hparse]
  -- in IDLE the machine answers and waits for the SCCCN
  have hcall : TunnelFSM.onMessage virtual v.tunnel.fsm = (.ok [.sendMessage sccrp],
      { v.tunnel.fsm.captured fields with state := .waitCtlConn }) := by
    have hsccrp' : buildSccrpAvps v.tunnel.fsm.config.sccrxArgs = .ok sccrp := hv.config ▸ hsccrp
    have hidle' : v.tunnel.fsm.state = .idle := by rw [hfsm, hidle]
    simp [TunnelFSM.onMessage, htype, TunnelFSM.onSccrq, hidle', hparse', tryValueError,
      TunnelFSM.captured, TunnelFSM.capturePeer, hsccrp', TunnelFSM.transition]
  -- the SCCRP is the one action
  obtain ⟨v', bs, hv', hfsm', hsent', hwire', hrun'⟩ := drive_send hmac hv (by decide) (by decide)
    (isU32_localCcid ho) hcall rfl hreg
  refine ⟨ack, sccrp, bs, hack, hsccrp, hwire', ?_⟩
  rw [hrun, hrun', show (executeTunnelActions hmac [] v').2 = v' from rfl]
  refine ⟨hv', by rw [hfsm'], ?_, by rw [hsent', hsent]; simp⟩
  rw [hfsm']
  exact hccid

/-- The connection is up with the other end, and nothing but session messages waits. -/
structure Up (cfg other : TunnelConfigEntry) (t : Tunnel) : Prop where
  entry : t.cfg = cfg
  state : t.fsm.state = .established
  peerCcid : t.fsm.peerCcid = other.localCcid
  reorder : QuietBuffer t.peer.reorder

/-- Whatever follows the step into `ESTABLISHED` leaves the connection up. -/
theorem up_actions (hmac : Hmac) (actions : List TunnelAction)
    (hactions : ∀ avps, .sendMessage avps ∉ actions)
    (h : At cfg ns nr remote w.tunnel) (hup : w.tunnel.fsm.state = .established)
    (hpeer : w.tunnel.fsm.peerCcid = other.localCcid) :
    Up cfg other (executeTunnelActions hmac actions w).2.tunnel ∧
      ∃ out, (executeTunnelActions hmac actions w).2.sent = w.sent ++ out ∧ ∀ bs ∈ out, Quiet bs := by
  have hcalm := calm_actions hmac hactions w
  refine ⟨⟨hcalm.cfg.trans h.entry, by rw [hcalm.fsm, hup], by rw [hcalm.fsm, hpeer], ?_⟩, hcalm.sent⟩
  rw [hcalm.link.reorder, h.reorder]
  intro ns msg hmsg
  cases hmsg

/-- **The SCCRP** of the other end brings the connection up, and is confirmed with an SCCCN. -/
theorem sccrp_connected (hm : Matched cfg other) (ho : Matched other cfg)
    (h : At cfg 1 0 cfg.remoteCcid w.tunnel) (hwait : w.tunnel.fsm.state = .waitCtlReply)
    (hbuilt : buildSccrxAvps .sccrp other.toConfig.sccrxArgs = .ok avps)
    (hwire : wire hmac other ⟨cfg.localCcid, 0, 1, avps⟩ = .ok d) :
    ∃ ack bs out, IsAck ack ∧ wire hmac cfg ⟨other.localCcid, 1, 1, [messageTypeAvp .scccn]⟩ = .ok bs ∧
      Up cfg other (handleDatagram hmac d w).2.tunnel ∧
      (handleDatagram hmac d w).2.sent = w.sent ++ ([ack, bs] ++ out) ∧ ∀ bs ∈ out, Quiet bs := by
  -- the transport takes the CCID that the SCCRP assigns, or has it configured
  have hlearn : ∀ digest msg, (∀ d ∈ digest, AVP.isDigest d = true) →
      ControlMessage.avps msg = avps ++ digest →
      learnCcid w.tunnel.peer msg = .ok (w.tunnel.peer.setRemoteCcid other.localCcid) := by
    intro digest msg hdigest hmsg
    rw [learnCcid_sccrx hdigest hbuilt ho.accepted.localCcid.1 _ hmsg, h.remoteCcid]
    exact congrArg _ (congrArg _ hm.learned)
  obtain ⟨v, ack, virtual, digest, hack, hv, hfsm, hsent, hdigest, hvirtual, htype, hrun⟩ :=
    take_tunnel hm ho (buildSccrxAvps_tagged hbuilt) (by decide) (buildSccrxAvps_undigested hbuilt)
      h (by decide) (by decide) (.inr rfl) (isU32_localCcid ho) hwire hlearn
  obtain ⟨fields, hparse, -, hccid, -⟩ := parseSccrxFields_build hbuilt
  have hparse' : parseSccrxFields virtual.avps = .ok fields := by
    rw [hvirtual, parseSccrxFields_append hdigest, hparse]
  -- three actions: the SCCCN, the HELLO timer, and the start of the sessions
  have hcall : TunnelFSM.onMessage virtual v.tunnel.fsm = (.ok [
      .sendMessage [messageTypeAvp .scccn], .setHelloTimer v.tunnel.fsm.config.helloInterval,
      .established], { v.tunnel.fsm.captured fields with state := .established }) := by
    have hwait' : v.tunnel.fsm.state = .waitCtlReply := by rw [hfsm, hwait]
    have hne : MessageType.sccrp.code ≠ MessageType.sccrq.code := by decide
    simp [TunnelFSM.onMessage, htype, hne, TunnelFSM.onSccrp, hwait', hparse', tryValueError,
      TunnelFSM.captured, TunnelFSM.capturePeer, buildScccnAvps_eq, TunnelFSM.transition]
  obtain ⟨v', bs, hv', hfsm', hsent', hwire', hrun'⟩ := drive_send hmac hv (by decide) (by decide)
    (isU32_localCcid ho) hcall rfl (singleton_regular _)
  -- what the sessions send is quiet
  obtain ⟨hup, out, hout, hquiet⟩ := up_actions hmac [.setHelloTimer v.tunnel.fsm.config.helloInterval,
    .established] (by simp) hv' (by rw [hfsm']) (by rw [hfsm']; exact hccid)
  refine ⟨ack, bs, out, hack, hwire', ?_⟩
  rw [hrun, hrun']
  exact ⟨hup, by rw [hout, hsent', hsent]; simp, hquiet⟩

/-- **The SCCCN** of the other end brings the connection up. -/
theorem scccn_accepted (hm : Matched cfg other) (ho : Matched other cfg)
    (h : At cfg 1 1 other.localCcid w.tunnel) (hwait : w.tunnel.fsm.state = .waitCtlConn)
    (hpeer : w.tunnel.fsm.peerCcid = other.localCcid)
    (hwire : wire hmac other ⟨cfg.localCcid, 1, 1, [messageTypeAvp .scccn]⟩ = .ok d) :
    ∃ ack out, IsAck ack ∧ Up cfg other (handleDatagram hmac d w).2.tunnel ∧
      (handleDatagram hmac d w).2.sent = w.sent ++ (ack :: out) ∧ ∀ bs ∈ out, Quiet bs := by
  -- the SCCCN carries no CCID, so nothing is learned
  have hlearn : ∀ digest msg, (∀ d ∈ digest, AVP.isDigest d = true) →
      ControlMessage.avps msg = [messageTypeAvp .scccn] ++ digest →
      learnCcid w.tunnel.peer msg = .ok (w.tunnel.peer.setRemoteCcid other.localCcid) := by
    intro digest msg hdigest hmsg
    have hnone : findAvp msg.avps .assignedControlConnectionId = none := by
      rw [hmsg, findAvp_append_digest hdigest (by decide)]
      rfl
    have hself : w.tunnel.peer.setRemoteCcid other.localCcid = w.tunnel.peer := by
      rw [← h.remoteCcid]
      rfl
    simp [learnCcid, hnone, hself]
  obtain ⟨v, ack, virtual, digest, hack, hv, hfsm, hsent, hdigest, hvirtual, htype, hrun⟩ :=
    take_tunnel hm ho (show Tagged .scccn [messageTypeAvp .scccn] from rfl) (by decide) (singleton_regular _).undigested
      h (by decide) (by decide) (.inr rfl) (isU32_localCcid ho) hwire hlearn
  -- two actions: the HELLO timer and the start of the sessions
  have hcall : onFsm (TunnelFSM.onMessage virtual) v = (.ok [
      .setHelloTimer v.tunnel.fsm.config.helloInterval, .established],
      v.withFsm { v.tunnel.fsm with state := .established }) := by
    have hwait' : v.tunnel.fsm.state = .waitCtlConn := by rw [hfsm, hwait]
    have hne : MessageType.scccn.code ≠ MessageType.sccrq.code ∧
      MessageType.scccn.code ≠ MessageType.sccrp.code := by decide
    rw [onFsm_apply]
    simp [TunnelFSM.onMessage, htype, hne, TunnelFSM.onScccn, hwait', TunnelFSM.transition]
  have hv' : At cfg 1 (1 + 1) other.localCcid
      (v.withFsm { v.tunnel.fsm with state := .established }).tunnel :=
    ⟨hv.entry, hv.config, hv.localCcid, hv.remoteCcid, hv.nsSend, hv.nrExpect, hv.reorder⟩
  have hpeer' : v.tunnel.fsm.peerCcid = other.localCcid := by rw [hfsm, hpeer]
  obtain ⟨hup, out, hout, hquiet⟩ := up_actions hmac
    [.setHelloTimer v.tunnel.fsm.config.helloInterval, .established] (by simp) hv' rfl hpeer'
  refine ⟨ack, out, hack, ?_⟩
  rw [hrun, drive, bind_apply_of_ok _ _ hcall]
  refine ⟨hup, ?_, hquiet⟩
  rw [hout, show (v.withFsm { v.tunnel.fsm with state := .established }).sent = v.sent from rfl, hsent]
  simp

end Handshake

omit [Dataplane δ] in
/-- An acknowledgement carries no AVP, so no machine sees it. -/
theorem IsAck.quiet {bs : Bytes} (h : IsAck bs) : Quiet bs := by
  intro msg hmsg
  rw [h msg hmsg]
  exact quietAvps_nil

/-- A quiet datagram leaves a connection up, and is answered with quiet datagrams. -/
theorem Up.datagram (hmac : Hmac) {d : Bytes} (h : Up cfg other w.tunnel) (hd : Quiet d) :
    Up cfg other (handleDatagram hmac d w).2.tunnel ∧
      ∃ out, (handleDatagram hmac d w).2.sent = w.sent ++ out ∧ ∀ bs ∈ out, Quiet bs := by
  obtain ⟨hcfg, hfsm, hbuf, hout⟩ := calm_datagram hmac hd h.reorder
  exact ⟨⟨hcfg.trans h.entry, by rw [hfsm, h.state], by rw [hfsm, h.peerCcid], hbuf⟩, hout⟩

/-- The start of an end that is under way does nothing. -/
theorem start_busy (hmac : Hmac) (h : w.tunnel.fsm.state ≠ .idle) : (start hmac w).2 = w := by
  have hcall : onFsm TunnelFSM.onLocalOpen w = (.ok [], w) := by
    rw [onFsm_apply]
    simp [TunnelFSM.onLocalOpen, h]
    rfl
  rw [start, drive, bind_apply_of_ok _ _ hcall]
  rfl

/-! ## The two ends

A move is the start of an end or the delivery of the oldest datagram to it. `Phase` lists where an
opening can stand, with what is in flight in each case. A move takes a phase to a phase, whichever
end makes it, and until both ends are up a phase that was begun has something in flight. -/

/-- Two tunnels, what is in flight between them, and whether one was started. -/
structure Net (δ : Type) where
  near : World δ
  far : World δ
  out : List Bytes := []
  back : List Bytes := []
  started : Bool := false

namespace Net

/-- The same seen from the other end. -/
def swap (n : Net δ) : Net δ := ⟨n.far, n.near, n.back, n.out, n.started⟩

/-- What an end does: its `start` is called, or the next datagram arrives. -/
inductive Move where
  | start
  | deliver

/-- The near end has become `w`; what it sent meanwhile is in flight. -/
def moved (n : Net δ) (w : World δ) : Net δ :=
  { n with near := w, out := n.out ++ w.sent.drop n.near.sent.length }

/-- A move of the near end. -/
def act (hmac : Hmac) (n : Net δ) : Move → Net δ
  | .start => { n.moved (start hmac n.near).2 with started := true }
  | .deliver =>
    match n.back with
    | [] => n
    | d :: ds => { n.moved (handleDatagram hmac d n.near).2 with back := ds }

/-- A move of the near end, or of the far one. -/
def step (hmac : Hmac) (n : Net δ) : Bool × Move → Net δ
  | (false, m) => n.act hmac m
  | (true, m) => (n.swap.act hmac m).swap

/-- An idle end does not start while the other is under way. -/
def apart (n : Net δ) : Move → Prop
  | .start => n.near.tunnel.fsm.state = .idle → n.far.tunnel.fsm.state = .idle
  | .deliver => True

/-- No end starts while the other one is past idle and has not heard it: the SCCRQs do not cross. -/
def Apart (n : Net δ) : Bool × Move → Prop
  | (false, m) => n.apart m
  | (true, m) => n.swap.apart m

/-- Two tunnels just constructed. -/
def init (cfg other : TunnelConfigEntry) (dp dp' : Option δ) (clock clock' : Nat → ℚ) : Net δ where
  near := World.init cfg dp clock
  far := World.init other dp' clock'

end Net

/-- **Where an opening stands** that the near end asked for. -/
inductive Phase (hmac : Hmac) (cfg other : TunnelConfigEntry) (n : Net δ) : Prop where
  | idle (hnear : At cfg 0 0 cfg.remoteCcid n.near.tunnel) (hidle : n.near.tunnel.fsm.state = .idle)
      (hfar : At other 0 0 other.remoteCcid n.far.tunnel) (hidle' : n.far.tunnel.fsm.state = .idle)
      (hout : n.out = []) (hback : n.back = []) (hstarted : n.started = false)
  | asked (hnear : At cfg 1 0 cfg.remoteCcid n.near.tunnel)
      (hwait : n.near.tunnel.fsm.state = .waitCtlReply)
      (hfar : At other 0 0 other.remoteCcid n.far.tunnel) (hidle : n.far.tunnel.fsm.state = .idle)
      (sccrq : List AVP) (hbuilt : buildSccrxAvps .sccrq cfg.toConfig.sccrxArgs = .ok sccrq)
      (bs : Bytes) (hwire : wire hmac cfg ⟨cfg.remoteCcid, 0, 0, sccrq⟩ = .ok bs)
      (hout : n.out = [bs]) (hback : n.back = [])
  | answered (hnear : At cfg 1 0 cfg.remoteCcid n.near.tunnel)
      (hwait : n.near.tunnel.fsm.state = .waitCtlReply)
      (hfar : At other 1 1 cfg.localCcid n.far.tunnel) (hconn : n.far.tunnel.fsm.state = .waitCtlConn)
      (hpeer : n.far.tunnel.fsm.peerCcid = cfg.localCcid)
      (sccrp : List AVP) (hbuilt : buildSccrxAvps .sccrp other.toConfig.sccrxArgs = .ok sccrp)
      (bs : Bytes) (hwire : wire hmac other ⟨cfg.localCcid, 0, 1, sccrp⟩ = .ok bs)
      (acks : List Bytes) (hacks : ∀ ack ∈ acks, IsAck ack)
      (hout : n.out = []) (hback : n.back = acks ++ [bs])
  | connected (hnear : Up cfg other n.near.tunnel)
      (hfar : At other 1 1 cfg.localCcid n.far.tunnel) (hconn : n.far.tunnel.fsm.state = .waitCtlConn)
      (hpeer : n.far.tunnel.fsm.peerCcid = cfg.localCcid)
      (bs : Bytes) (hwire : wire hmac cfg ⟨other.localCcid, 1, 1, [messageTypeAvp .scccn]⟩ = .ok bs)
      (acks rest : List Bytes) (hacks : ∀ ack ∈ acks, IsAck ack) (hrest : ∀ bs ∈ rest, Quiet bs)
      (hout : n.out = acks ++ bs :: rest) (hback : n.back = [])
  | up (hnear : Up cfg other n.near.tunnel) (hfar : Up other cfg n.far.tunnel)
      (hout : ∀ bs ∈ n.out, Quiet bs) (hback : ∀ bs ∈ n.back, Quiet bs)

/-- One of the ends asked, or none has yet. -/
def Opens (hmac : Hmac) (cfg other : TunnelConfigEntry) (n : Net δ) : Prop :=
  Phase hmac cfg other n ∨ Phase hmac other cfg n.swap

section Steps

variable {n : Net δ}

omit [Dataplane δ] in
/-- What a handler put on the wire follows what is already under way. -/
theorem moved_eq {out : List Bytes} (h : w.sent = n.near.sent ++ out) :
    n.moved w = { n with near := w, out := n.out ++ out } := by
  simp [Net.moved, h]

/-- A delivery takes the oldest datagram and appends what its handler sends. -/
theorem act_deliver {d : Bytes} {ds out : List Bytes} (hback : n.back = d :: ds)
    (hsent : (handleDatagram hmac d n.near).2.sent = n.near.sent ++ out) :
    n.act hmac .deliver = ⟨(handleDatagram hmac d n.near).2, n.far, n.out ++ out, ds, n.started⟩ := by
  simp only [Net.act, hback, moved_eq hsent]

/-- The call of `start` at an end that is under way. -/
theorem act_start_busy (h : n.near.tunnel.fsm.state ≠ .idle) :
    n.act hmac .start = { n with started := true } := by
  simp only [Net.act, start_busy hmac h, moved_eq (List.append_nil _).symm, List.append_nil]

omit [Dataplane δ] in
/-- Once an end is under way, it does not matter to the opening what was started. -/
theorem Phase.started (h : Phase hmac cfg other n) (hbusy : n.near.tunnel.fsm.state ≠ .idle) :
    Phase hmac cfg other { n with started := true } := by
  cases h with
  | idle hnear hidle => exact absurd hidle hbusy
  | asked h₁ h₂ h₃ h₄ sccrq h₅ bs h₆ h₇ h₈ => exact .asked h₁ h₂ h₃ h₄ sccrq h₅ bs h₆ h₇ h₈
  | answered h₁ h₂ h₃ h₄ h₅ sccrp h₆ bs h₇ acks h₈ h₉ h₀ =>
    exact .answered h₁ h₂ h₃ h₄ h₅ sccrp h₆ bs h₇ acks h₈ h₉ h₀
  | connected h₁ h₂ h₃ h₄ bs h₅ acks rest h₆ h₇ h₈ h₉ =>
    exact .connected h₁ h₂ h₃ h₄ bs h₅ acks rest h₆ h₇ h₈ h₉
  | up h₁ h₂ h₃ h₄ => exact .up h₁ h₂ h₃ h₄

/-- **A start** at the end that asked, or at an idle one of two. -/
theorem Phase.start (hm : Matched cfg other) (h : Phase hmac cfg other n) :
    Phase hmac cfg other (n.act hmac .start) := by
  by_cases hbusy : n.near.tunnel.fsm.state = .idle
  -- only in the first phase is the near end idle
  · cases h with
    | idle hnear hidle hfar hidle' hout hback =>
      obtain ⟨sccrq, bs, hbuilt, hwire, hnear', hwait, hsent⟩ :=
        start_idle hmac hm.accepted hm.texts hnear hidle
      simp only [Net.act, moved_eq hsent]
      exact .asked hnear' hwait hfar hidle' sccrq hbuilt bs hwire (by simp [hout]) hback
    | asked _ hwait => simp [hwait] at hbusy
    | answered _ hwait => simp [hwait] at hbusy
    | connected hnear => simp [hnear.state] at hbusy
    | up hnear => simp [hnear.state] at hbusy
  -- a start of a machine past IDLE is ignored
  · rw [act_start_busy hbusy]
    exact h.started hbusy

/-- A start at the end that was asked, if it has answered. -/
theorem Phase.start_far (h : Phase hmac other cfg n.swap)
    (hbusy : n.near.tunnel.fsm.state ≠ .idle) :
    Phase hmac other cfg (n.act hmac .start).swap := by
  rw [act_start_busy hbusy]
  refine Phase.started h ?_
  cases h with
  | idle _ _ _ hidle => exact absurd hidle hbusy
  | asked _ _ _ hidle => exact absurd hidle hbusy
  | answered _ hwait => simp [hwait]
  | connected hnear => simp [hnear.state]
  | up hnear => simp [hnear.state]

/-- **A delivery** to the end that asked. -/
theorem Phase.deliver (hm : Matched cfg other) (ho : Matched other cfg)
    (h : Phase hmac cfg other n) : Phase hmac cfg other (n.act hmac .deliver) := by
  cases hback' : n.back with
  | nil => simpa only [Net.act, hback'] using h
  | cons d ds =>
    cases h with
    | idle _ _ _ _ _ hback => simp [hback] at hback'
    | asked _ _ _ _ _ _ _ _ _ hback => simp [hback] at hback'
    | connected _ _ _ _ _ _ _ _ _ _ _ hback => simp [hback] at hback'
    | answered hnear hwait hfar hconn hpeer sccrp hbuilt bs hwire acks hacks hout hback =>
      have hds := hback'
      rw [hback] at hds
      -- the SCCRP waits behind the acknowledgements sent before it
      cases acks with
      | nil =>
        obtain ⟨rfl, rfl⟩ := List.cons.inj hds
        obtain ⟨ack, bs', out, hack, hwire', hup, hsent, hquiet⟩ :=
          sccrp_connected hm ho hnear hwait hbuilt hwire
        rw [act_deliver hback' hsent]
        exact .connected hup hfar hconn hpeer bs' hwire' [ack] out (by simpa using hack) hquiet
          (by simp [hout]) rfl
      | cons ack acks =>
        obtain ⟨rfl, rfl⟩ := List.cons.inj hds
        obtain ⟨hack, hacks⟩ := List.forall_mem_cons.mp hacks
        obtain ⟨hnear', hfsm, hsent⟩ := ack_datagram hmac hack hnear
        rw [act_deliver hback' (hsent.trans (List.append_nil _).symm)]
        exact .answered hnear' (by rw [hfsm, hwait]) hfar hconn hpeer sccrp hbuilt bs hwire acks hacks
          (by simp [hout]) rfl
    | up hnear hfar hout hback =>
      rw [hback'] at hback
      obtain ⟨hd, hds⟩ := List.forall_mem_cons.mp hback
      obtain ⟨hup, out, hsent, hquiet⟩ := hnear.datagram hmac hd
      rw [act_deliver hback' hsent]
      exact .up hup hfar (List.forall_mem_append.mpr ⟨hout, hquiet⟩) hds

/-- **A delivery** to the end that was asked. -/
theorem Phase.deliver_far (hm : Matched cfg other) (ho : Matched other cfg)
    (h : Phase hmac other cfg n.swap) : Phase hmac other cfg (n.act hmac .deliver).swap := by
  cases hback' : n.back with
  | nil => simpa only [Net.act, hback'] using h
  | cons d ds =>
    have hswap : n.swap.out = d :: ds := hback'
    cases h with
    | idle _ _ _ _ hout => simp [hout] at hswap
    | answered _ _ _ _ _ _ _ _ _ _ _ hout => simp [hout] at hswap
    | asked hnear hwait hfar hidle sccrq hbuilt bs hwire hout hback =>
      rw [hout] at hswap
      obtain ⟨rfl, rfl⟩ := List.cons.inj hswap
      -- the SCCRQ arrives
      obtain ⟨ack, sccrp, bs', hack, hbuilt', hwire', hfar', hconn, hpeer, hsent⟩ :=
        sccrq_answered hm ho hfar hidle hbuilt hwire
      rw [act_deliver hback' hsent]
      exact .answered hnear hwait hfar' hconn hpeer sccrp hbuilt' bs' hwire' [ack]
        (by simpa using hack) rfl (by rw [show n.out = [] from hback]; rfl)
    | connected hnear hfar hconn hpeer bs hwire acks rest hacks hrest hout hback =>
      rw [hout] at hswap
      have hnone : n.out = [] := hback
      -- the SCCCN waits behind the acknowledgements sent before it
      cases acks with
      | nil =>
        obtain ⟨rfl, rfl⟩ := List.cons.inj hswap
        obtain ⟨ack, out, hack, hup, hsent, hquiet⟩ := scccn_accepted hm ho hfar hconn hpeer hwire
        rw [act_deliver hback' hsent]
        exact .up hnear hup hrest (by simpa [Net.swap, hnone] using ⟨hack.quiet, hquiet⟩)
      | cons ack acks =>
        obtain ⟨rfl, rfl⟩ := List.cons.inj hswap
        obtain ⟨hack, hacks⟩ := List.forall_mem_cons.mp hacks
        obtain ⟨hfar', hfsm, hsent⟩ := ack_datagram hmac hack hfar
        rw [act_deliver hback' (hsent.trans (List.append_nil _).symm)]
        exact .connected hnear hfar' ((congrArg TunnelFSM.state hfsm).trans hconn)
          ((congrArg TunnelFSM.peerCcid hfsm).trans hpeer) bs hwire acks rest hacks hrest rfl
          (by simp [Net.swap, hnone])
    | up hnear hfar hout hback =>
      rw [hswap] at hout
      obtain ⟨hd, hds⟩ := List.forall_mem_cons.mp hout
      obtain ⟨hup, out, hsent, hquiet⟩ := hfar.datagram hmac hd
      rw [act_deliver hback' hsent]
      exact .up hnear hup hds (List.forall_mem_append.mpr ⟨hback, hquiet⟩)

theorem Opens.act (hm : Matched cfg other) (ho : Matched other cfg) (h : Opens hmac cfg other n)
    {m : Net.Move} (hok : n.apart m) : Opens hmac cfg other (n.act hmac m) := by
  cases m with
  | deliver => exact h.imp (·.deliver hm ho) (·.deliver_far hm ho)
  | start =>
    rcases h with h | h
    · exact .inl (h.start hm)
    · by_cases hidle : n.near.tunnel.fsm.state = .idle
      · -- the other end is idle too, so neither has asked
        have hfar : n.swap.near.tunnel.fsm.state = .idle := hok hidle
        cases h with
        | idle h₁ h₂ h₃ h₄ hout hback hstarted =>
          exact .inl (Phase.start hm (.idle h₃ h₄ h₁ h₂ hback hout hstarted))
        | asked _ hwait => simp [hwait] at hfar
        | answered _ hwait => simp [hwait] at hfar
        | connected hnear => simp [hnear.state] at hfar
        | up hnear => simp [hnear.state] at hfar
      · exact .inr (h.start_far hidle)

omit [Dataplane δ] in
theorem Opens.swap (h : Opens hmac cfg other n) : Opens hmac other cfg n.swap := Or.symm h

/-- **A step** of either end. -/
theorem Opens.step (hm : Matched cfg other) (ho : Matched other cfg) (h : Opens hmac cfg other n)
    {e : Bool × Net.Move} (hok : n.Apart e) : Opens hmac cfg other (n.step hmac e) := by
  obtain ⟨side, m⟩ := e
  cases side with
  | false => exact h.act hm ho hok
  | true => exact (h.swap.act ho hm hok).swap

end Steps

omit [Dataplane δ] in
/-- A tunnel just built has sent nothing, expects the first message, and addresses the configured
CCID. -/
theorem at_init (cfg : TunnelConfigEntry) : At cfg 0 0 cfg.remoteCcid (Tunnel.init cfg) :=
  ⟨rfl, rfl, rfl, rfl, rfl, rfl, rfl⟩

omit [Dataplane δ] in
/-- Before anything happened both ends are idle. -/
theorem opens_init (hmac : Hmac) (cfg other : TunnelConfigEntry) (dp dp' : Option δ)
    (clock clock' : Nat → ℚ) : Opens hmac cfg other (Net.init cfg other dp dp' clock clock') :=
  .inl (.idle (at_init cfg) rfl (at_init other) rfl rfl rfl rfl)

/-- The two machines are up, each with the CCID of the other. -/
def Net.Opened (cfg other : TunnelConfigEntry) (n : Net δ) : Prop :=
  (n.near.tunnel.fsm.state = .established ∧ n.near.tunnel.fsm.peerCcid = other.localCcid) ∧
  (n.far.tunnel.fsm.state = .established ∧ n.far.tunnel.fsm.peerCcid = cfg.localCcid)

omit [Dataplane δ] in
/-- With nothing in flight an opening that was begun is complete. -/
theorem Phase.bothUp {n : Net δ} (h : Phase hmac cfg other n) (hstarted : n.started = true)
    (hout : n.out = []) (hback : n.back = []) : n.Opened cfg other := by
  cases h with
  | idle _ _ _ _ _ _ hno => simp [hno] at hstarted
  | asked _ _ _ _ _ _ _ _ hfull => simp [hfull] at hout
  | answered _ _ _ _ _ _ _ _ _ _ _ _ hfull => simp [hfull] at hback
  | connected _ _ _ _ _ _ _ _ _ _ hfull => simp [hfull] at hout
  | up hnear hfar => exact ⟨⟨hnear.state, hnear.peerCcid⟩, hfar.state, hfar.peerCcid⟩

/-- **Opening succeeds**: two tunnels configured with each other, in every run in which no idle
end starts while the other is under way, are connected with each other whenever one was started
and nothing is in flight. -/
theorem opened (hmac : Hmac) (cfg other : TunnelConfigEntry) (hm : Matched cfg other)
    (ho : Matched other cfg) (dp dp' : Option δ) (clock clock' : Nat → ℚ) (n : Net δ)
    (hreach : Transition.Reach (Net.step hmac) Net.Apart
      (Net.init cfg other dp dp' clock clock') n)
    (hstarted : n.started = true) (hout : n.out = []) (hback : n.back = []) :
    n.Opened cfg other := by
  have hopens : Opens hmac cfg other n := hreach.invariant
    (opens_init hmac cfg other dp dp' clock clock') fun n e h hok => h.step hm ho hok
  rcases hopens with h | h
  · exact h.bothUp hstarted hout hback
  · exact (h.bothUp hstarted hback hout).symm

/-- The other end of `Dispatch.spoke`. -/
def hub : TunnelConfigEntry where
  name := "hub"
  localAddress := "192.0.2.2"
  remoteAddress := "192.0.2.1"
  localCcid := 200
  hostName := "hub"
  routerId := 2
  remoteCcid := 100

/-- The two after some steps. -/
def pairAfter (es : List (Bool × Net.Move)) : Net MockDataplane :=
  es.foldl (Net.step ControlMessage.sumHmac)
    (Net.init Dispatch.spoke hub none none (fun _ => 0) fun _ => 0)

/-- The spoke of the example fits the hub. -/
theorem spoke_matched : Matched Dispatch.spoke hub where
  accepted := Crash.spoke_accepted.tunnels _ List.mem_cons_self
  texts := ⟨by decide +kernel, nofun⟩
  remoteCcid := .inr rfl
  password := rfl
  digestAlg := fun _ => rfl

/-- The hub of the example fits the spoke. -/
theorem hub_matched : Matched hub Dispatch.spoke where
  accepted := {
    localCcid := by decide
    remoteCcid := by decide
    routerId := by decide
    password := by decide
    helloInterval := by decide +kernel
    retransmitInterval := by decide +kernel
    maxRetries := by decide
    receiveWindow := by decide
    firmwareRevision := by simp [hub]
    sessions := by simp [hub]
    sessionNames := by decide
    sessionSids := by decide
    localCcidIsBool := nofun }
  texts := ⟨by decide +kernel, nofun⟩
  remoteCcid := .inr rfl
  password := rfl
  digestAlg := fun _ => rfl

/-- The near end starts, and everything is delivered. -/
def oneStart : List (Bool × Net.Move) :=
  [(false, .start), (true, .deliver), (false, .deliver), (false, .deliver), (true, .deliver),
    (true, .deliver), (false, .deliver)]

/-- A run in which the spoke asks: after seven moves both ends are up, under each other's CCIDs. -/
theorem opened_spoke : (pairAfter oneStart).Opened Dispatch.spoke hub := by
  have hrun : Transition.Guarded (Net.step (δ := MockDataplane) ControlMessage.sumHmac) Net.Apart
      (Net.init Dispatch.spoke hub none none (fun _ => 0) fun _ => 0) oneStart :=
    ⟨fun _ => rfl, trivial, trivial, trivial, trivial, trivial, trivial, trivial⟩
  exact opened ControlMessage.sumHmac Dispatch.spoke hub spoke_matched hub_matched none none
    (fun _ => 0) (fun _ => 0) _ (Transition.Reach.start.run hrun) (by decide +kernel)
    (by decide +kernel) (by decide +kernel)

/-- Both ends start before either has heard of the other. -/
def crossed : List (Bool × Net.Move) :=
  [(false, .start), (true, .start), (true, .deliver), (false, .deliver), (false, .deliver),
    (true, .deliver), (false, .deliver), (true, .deliver), (false, .deliver), (true, .deliver)]

/-- Each takes the SCCRQ of the other for a restart, and both end up idle. -/
theorem crossed_idle :
    Matched Dispatch.spoke hub ∧ Matched hub Dispatch.spoke ∧
    Transition.Reach (Net.step ControlMessage.sumHmac) (fun _ _ => True)
      (Net.init Dispatch.spoke hub none none (fun _ => 0) fun _ => 0) (pairAfter crossed) ∧
    (pairAfter crossed).started = true ∧ (pairAfter crossed).out = [] ∧
    (pairAfter crossed).back = [] ∧ (pairAfter crossed).near.tunnel.fsm.state = .idle ∧
    (pairAfter crossed).far.tunnel.fsm.state = .idle ∧
    ¬ (pairAfter crossed).Opened Dispatch.spoke hub := by
  have hidle : (pairAfter crossed).near.tunnel.fsm.state = .idle := by decide +kernel
  have hrun : Transition.Guarded (Net.step (δ := MockDataplane) ControlMessage.sumHmac)
      (fun _ _ => True) (Net.init Dispatch.spoke hub none none (fun _ => 0) fun _ => 0) crossed := by
    exact ⟨trivial, trivial, trivial, trivial, trivial, trivial, trivial, trivial, trivial, trivial,
      trivial⟩
  refine ⟨spoke_matched, hub_matched, Transition.Reach.start.run hrun, by decide +kernel,
    by decide +kernel, by decide +kernel, hidle, by decide +kernel, fun h => ?_⟩
  have hup := h.1.1
  rw [hidle] at hup
  cases hup

end Opening

end L2tpv3d
