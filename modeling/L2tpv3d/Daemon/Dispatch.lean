import L2tpv3d.Daemon.Alike
import L2tpv3d.Lib.Transition

/-!
# L2tpv3d — what reaches the state machines

`Peer.receive` returns the AVPs of everything that became deliverable as one flat list, and
`handle_datagram` wraps that list as one message. When the message that fills a gap releases
others behind it, these are handed over merged into one, whose type is that of the first; and
a Message Type AVP that is not two bytes long makes the hand-over raise after the message was
counted as received.

* `delivers w e` — the messages that a step counts as delivered; they are numbered on from
  `nr_expect` (`numbered_run`).
* `Apart w e` — the step releases one message at most, and that one can be acknowledged and
  typed.
-/

namespace L2tpv3d

open Py Prog

namespace Dispatch

open Tunnel World

variable {δ : Type} [Dataplane δ] (hmac : Hmac)

/-! ## The messages that a step delivers

Told from the state before the step and the datagram. What the code returns is the concatenation of
their AVPs. -/

/-- The messages that the step counts as delivered. -/
def delivers (w : World δ) : Tunnel.Event → List ControlMessage
  | .datagram buf =>
    match unwire hmac w.tunnel.cfg buf with
    | .ok msg => w.tunnel.peer.deliverable msg
    | .error _ => []
  | _ => []

/-- The messages that a run delivers. -/
def deliveredBy (w : World δ) : List Tunnel.Event → List ControlMessage
  | [] => []
  | e :: es => delivers hmac w e ++ deliveredBy (Tunnel.step hmac w e) es

/-- The machine that a message is for, by its own Message Type. -/
def target (avps : List AVP) : Target :=
  match getMessageType avps with
  | .ok (some mt) => if mt ∈ sessionMsgTypes then .session else .tunnelFsm
  | _ => .tunnelFsm

/-- Nothing waits behind the message that a datagram brings, if that is the one expected next;
it can be acknowledged, and its Message Type AVP, if it has one, is two bytes long. -/
def Apart (w : World δ) : Tunnel.Event → Prop
  | .datagram buf => ∀ msg, unwire hmac w.tunnel.cfg buf = .ok msg →
    w.tunnel.peer.inOrder msg = true →
      w.tunnel.peer.reorder.get? (seqAdvance w.tunnel.peer.nrExpect) = none ∧
      IsU32 w.tunnel.peer.remoteCcid ∧
      ∀ avp ∈ findAvp msg.avps .messageType, avp.value.length = 2
  | _ => True

/-! ## Steps that deliver nothing

Everything but a datagram leaves the receiving side of the peer as it is. -/

/-- The receiving side stays, and nothing is handed over. -/
structure Quiet (w w' : World δ) : Prop where
  cfg : w'.tunnel.cfg = w.tunnel.cfg
  link : w.tunnel.peer.SameLink w'.tunnel.peer
  dispatched : w'.dispatched = w.dispatched

variable {hmac} {w w' w'' : World δ}

omit [Dataplane δ] in
theorem Quiet.trans (h : Quiet w w') (h' : Quiet w' w'') : Quiet w w'' :=
  ⟨h'.cfg.trans h.cfg, h.link.trans h'.link, h'.dispatched.trans h.dispatched⟩

omit [Dataplane δ] in
/-- The cascade is quiet. -/
theorem Quiet.of_cascaded (h : Cascaded w w') : Quiet w w' := ⟨h.cfg, h.link, h.dispatched⟩

/-- A method of the tunnel machine hands nothing over. -/
theorem quiet_drive (m : Prog TunnelFSM (List TunnelAction)) (w : World δ) :
    Quiet w (drive hmac m w).2 := by
  have hset : ∀ s, Quiet w (w.withFsm s) := fun s => ⟨rfl, .refl _, rfl⟩
  rw [drive, bind_apply, onFsm_apply]
  cases (m w.tunnel.fsm).1 with
  | error e => exact hset _
  | ok actions => exact (hset _).trans (.of_cascaded (cascaded_tunnelActions hmac actions _))

/-- Nor does a tick, even one that finds the peer dead. -/
theorem quiet_tick (hsound : w.tunnel.peer.Sound) (now : ℚ) :
    Quiet w (Tunnel.tick hmac now w).2 := by
  have hframe := Peer.tick_frame w.tunnel.peer now hsound
  have hrecv : ∀ resends, Quiet w (received w (w.tunnel.peer.tick now).2 resends) :=
    fun _ => ⟨rfl, ⟨hframe.2.1, hframe.2.2.1, hframe.2.2.2.2.2, hframe.2.2.2.1, hframe.2.2.2.2.1,
      fun _ => hframe.1⟩, rfl⟩
  -- the queue raised, or it was gone through
  rcases tick_cases hmac now w with ⟨e, peer, ht, hrun⟩ | ⟨resends, dead, peer, ht, hrun⟩
  · rw [ht] at hrecv
    exact hrun ▸ hrecv []
  · rw [ht] at hrecv
    rw [hrun]
    split
    · exact Keeps.bind (I := Quiet w) (fun w' h => h.trans (quiet_drive _ w'))
        (fun _ => Keeps.pure true) _ (hrecv resends)
    · exact hrecv resends

/-- Only datagrams deliver. -/
theorem quiet_step (hsound : w.tunnel.peer.Sound) {e : Tunnel.Event}
    (he : ∀ buf, e ≠ .datagram buf) : Quiet w (Tunnel.step hmac w e) := by
  have hself : Quiet w w := ⟨rfl, .refl _, rfl⟩
  have hdrive : ∀ m, Keeps (Quiet w) (drive (δ := δ) hmac m) :=
    fun m w' h => h.trans (quiet_drive m w')
  have htimer : ∀ f, Keeps (Quiet w) (modify (mapTimer f)) :=
    fun _ => Keeps.modify fun w' h => ⟨h.cfg, h.link, h.dispatched⟩
  cases e with
  | start => exact quiet_drive _ w
  | close => exact (hdrive _).bind (fun _ => htimer _) w hself
  | datagram buf => exact absurd rfl (he buf)
  | tick now =>
    have hq : Quiet w (Tunnel.tick hmac now w).2 := quiet_tick hsound now
    rw [Tunnel.step, handle, bind_pure_snd]
    exact hq
  | helloTimer =>
    rw [Tunnel.step, handle, get_bind_apply]
    split
    · exact (htimer _).bind (fun _ => (htimer _).bind fun _ => hdrive _) w hself
    · exact hself
  | closeSession sid resultCode =>
    exact .of_cascaded (cascaded_callSession hmac sid _ onlyIndex_id w)

/-! ## Numbering

The counter of the receiving side and the numbers of what was delivered go together, and the buffer
holds later numbers only. -/

/-- `n` messages were delivered, and every buffered message is kept under its own Ns. -/
structure Numbered (n : Nat) (p : Peer) : Prop where
  nrExpect : p.nrExpect = (n : Int) % 0x10000
  reorder : ∀ ns msg, p.reorder.get? ns = some msg → msg.ns = ns

/-- The Ns of `k` messages from the `n`-th on. -/
def numbers (n k : Nat) : List Int := (List.range' n k).map fun (i : Nat) => (i : Int) % 0x10000

/-- The first number, and the ones on from the next. -/
theorem numbers_cons (n k : Nat) : numbers n (k + 1) = (n : Int) % 0x10000 :: numbers (n + 1) k := by
  simp [numbers, List.range'_succ]

theorem numbers_append (n k l : Nat) : numbers n k ++ numbers (n + k) l = numbers n (k + l) := by
  rw [numbers, numbers, numbers, ← List.map_append, List.range'_append_1]

/-- The drain loop pops messages that are numbered on. -/
theorem drain_numbers (fuel n : Nat) (reorder : Dict Int ControlMessage)
    (hkeys : ∀ ns msg, reorder.get? ns = some msg → msg.ns = ns) :
    ∃ popped reorder', Peer.drain fuel ((n : Int) % 0x10000) reorder
        = (popped, ((n + popped.length : Nat) : Int) % 0x10000, reorder') ∧
      popped.map (·.ns) = numbers n popped.length ∧
      ∀ ns msg, reorder'.get? ns = some msg → msg.ns = ns := by
  -- on the fuel, which the size of the buffer bounds
  induction fuel generalizing n reorder with
  | zero => exact ⟨[], reorder, rfl, rfl, hkeys⟩
  | succ fuel ih =>
    rw [Peer.drain]
    cases hget : reorder.get? ((n : Int) % 0x10000) with
    | none => exact ⟨[], reorder, rfl, rfl, hkeys⟩
    -- the message under the next number is popped, and the loop goes on from the one after
    | some queued =>
      have hkeys' : ∀ ns msg, (reorder.erase ((n : Int) % 0x10000)).get? ns = some msg →
          msg.ns = ns := by
        intro ns msg hmsg
        rw [Dict.get?_erase] at hmsg
        split at hmsg
        · cases hmsg
        · exact hkeys ns msg hmsg
      obtain ⟨popped, reorder', hd, hnums, hk⟩ := ih (n + 1) _ hkeys'
      rw [show seqAdvance ((n : Int) % 0x10000) = ((n + 1 : Nat) : Int) % 0x10000 by
        rw [Peer.seqAdvance_counter]; simp]
      simp only [hd]
      refine ⟨queued :: popped, reorder', ?_, ?_, hk⟩
      · rw [List.length_cons, show n + 1 + popped.length = n + (popped.length + 1) by omega]
      · rw [List.map_cons, hnums, List.length_cons, numbers_cons, hkeys _ _ hget]

/-- What a received message delivers is numbered on from the messages delivered before. -/
theorem numbered_receive {n : Nat} {p : Peer} (h : Numbered n p) {msg : ControlMessage}
    (hns : IsU16 msg.ns) :
    (p.deliverable msg).map (·.ns) = numbers n (p.deliverable msg).length ∧
      Numbered (n + (p.deliverable msg).length) (p.receive msg).2 := by
  have hkeep : ∀ q : Peer, q.nrExpect = p.nrExpect → q.reorder = p.reorder → Numbered n q :=
    fun q hnr hre => ⟨hnr.trans h.nrExpect, hre ▸ h.reorder⟩
  -- refused; an acknowledgement; the next one, with what it releases; old; buffered; too far ahead
  rcases Peer.receive_cases p msg with ⟨hacc, hr⟩ | ⟨hacc, q, rfl, ⟨hz, hr⟩ |
      ⟨hin, popped, nr, reorder, hd, hr⟩ | ⟨hz, hd, hr⟩ | ⟨hz, hd, -, hr⟩ | ⟨hz, hd, -, hr⟩⟩
  · rw [hr, Peer.deliverable, if_neg (by simp [Peer.inOrder, hacc])]
    exact ⟨rfl, h⟩
  · rw [hr, Peer.deliverable, if_neg (by simp [Peer.inOrder, hz])]
    exact ⟨rfl, hkeep _ rfl rfl⟩
  · have hnext : seqAdvance p.nrExpect = ((n + 1 : Nat) : Int) % 0x10000 := by
      rw [h.nrExpect, Peer.seqAdvance_counter]; simp
    obtain ⟨popped', reorder', hd', hnums, hk⟩ :=
      drain_numbers p.reorder.size (n + 1) p.reorder h.reorder
    rw [← hnext, hd] at hd'
    cases hd'
    have hmsg : msg.ns = (n : Int) % 0x10000 := by
      have hdelta : seqDelta msg.ns p.nrExpect = 0 := by
        simp only [Peer.inOrder, Bool.and_eq_true, beq_iff_eq] at hin
        exact hin.2
      rw [h.nrExpect] at hdelta
      unfold IsU16 at hns
      simp only [seqDelta] at hdelta
      split at hdelta <;> omega
    have hlist : p.deliverable msg = msg :: popped := by rw [Peer.deliverable, if_pos hin, hd]
    rw [hlist, hr, List.map_cons, hnums, hmsg, List.length_cons, numbers_cons]
    refine ⟨rfl, ?_, hk⟩
    rw [show n + (popped.length + 1) = n + 1 + popped.length by omega]
  · rw [hr, Peer.deliverable, if_neg (by simp [Peer.inOrder]; omega)]
    exact ⟨rfl, hkeep _ rfl rfl⟩
  · rw [hr, Peer.deliverable, if_neg (by simp [Peer.inOrder]; omega)]
    refine ⟨rfl, h.nrExpect, ?_⟩
    intro ns m hm
    rw [Dict.get?_set] at hm
    split at hm
    · rename_i heq
      cases hm
      exact heq
    · exact h.reorder ns m hm
  · rw [hr, Peer.deliverable, if_neg (by simp [Peer.inOrder]; omega)]
    exact ⟨rfl, hkeep _ rfl rfl⟩

/-! ## The hand-over of a datagram

Nothing, one message on its own, or several as one: which of them is decided by what waits in the
buffer behind the message that arrived. -/

/-- The loop pops nothing exactly when the next number is missing. -/
theorem drain_eq_nil_iff (nr : Int) (reorder : Dict Int ControlMessage) :
    (Peer.drain reorder.size nr reorder).1 = [] ↔ reorder.get? nr = none := by
  cases hget : reorder.get? nr with
  | none =>
    refine iff_of_true ?_ rfl
    cases reorder.size with
    | zero => rfl
    | succ fuel => simp [Peer.drain, hget]
  | some queued =>
    obtain ⟨fuel, hfuel⟩ : ∃ fuel, reorder.size = fuel + 1 := by
      have := Dict.size_erase_lt (Dict.contains_iff.mpr ⟨queued, hget⟩)
      exact ⟨reorder.size - 1, by omega⟩
    rw [hfuel]
    simp [Peer.drain, hget]

/-- With a password or without, what was read is what the codec decodes. -/
theorem unwire_decode {cfg : TunnelConfigEntry} {buf : Bytes} {msg : ControlMessage}
    (h : unwire hmac cfg buf = .ok msg) : ControlMessage.decode buf = .ok msg := by
  unfold unwire at h
  split at h
  · rename_i secret hsecret
    have hs := TunnelConfigEntry.secret_ne_nil hsecret
    exact ((ControlMessage.decodeAndVerify_eq_ok hs).mp h).1
  · exact h

/-- So it is a message that the codec could have written. -/
theorem unwire_wellFormed {cfg : TunnelConfigEntry} {buf : Bytes} {msg : ControlMessage}
    (h : unwire hmac cfg buf = .ok msg) : msg.WellFormed :=
  (ControlMessage.decode_inv (unwire_decode h)).1

/-- What the machine that a message was handed to got to see. -/
def seen (entry : Target × ControlMessage) : Target × List AVP := (entry.1, entry.2.avps)

/-- What a machine should get to see of a message. -/
def own (msg : ControlMessage) : Target × List AVP := (target msg.avps, msg.avps)

/-- The hand-over is recorded once, or it raised on the Message Type. -/
theorem dispatch_trace (hmac : Hmac) (msg : ControlMessage) (avps : List AVP) (w : World δ) :
    (dispatch hmac msg avps w).2.tunnel.cfg = w.tunnel.cfg ∧
    w.tunnel.peer.SameLink (dispatch hmac msg avps w).2.tunnel.peer ∧
    (((∃ e, getMessageType avps = .error e) ∧
      (dispatch hmac msg avps w).2.dispatched = w.dispatched) ∨
    ∃ virtual, (∃ mt, getMessageType avps = .ok mt) ∧
      (dispatch hmac msg avps w).2.dispatched = w.dispatched ++ [virtual] ∧
      seen virtual = (target avps, avps)) := by
  obtain ⟨virtual, rfl, ⟨e, he, hrun⟩ | ⟨mt, hmem, hmt, hrun⟩ | ⟨mt, hmt, hmem, hrun⟩⟩ :=
    dispatch_cases hmac msg avps w
  · rw [hrun]
    exact ⟨rfl, .refl _, .inl ⟨⟨e, he⟩, rfl⟩⟩
  · rw [hrun]
    have hc := cascaded_dispatchSession hmac ⟨w.tunnel.peer.localCcid, msg.ns, msg.nr, avps⟩ mt w
    exact ⟨hc.cfg, hc.link, .inr ⟨_, ⟨_, hmt⟩, hc.dispatched, by simp [seen, target, hmt, hmem]⟩⟩
  · rw [hrun]
    have hq : Quiet (noted w .tunnelFsm ⟨w.tunnel.peer.localCcid, msg.ns, msg.nr, avps⟩) (drive hmac
      (TunnelFSM.onMessage ⟨w.tunnel.peer.localCcid, msg.ns, msg.nr, avps⟩) _).2 := quiet_drive _ _
    refine ⟨hq.cfg, hq.link, .inr ⟨_, ⟨_, hmt⟩, hq.dispatched, ?_⟩⟩
    cases mt with
    | none => simp [seen, target, hmt]
    | some mt => simp [seen, target, hmt, hmem mt rfl]

/-- The record of the hand-overs grew by at most the messages of `ms`, and by exactly these,
each on its own, exactly when `apart` holds. -/
structure Traced (w w' : World δ) (ms : List ControlMessage) (apart : Prop) : Prop where
  cfg : w'.tunnel.cfg = w.tunnel.cfg
  trace : ∃ more, w'.dispatched = w.dispatched ++ more ∧ more.length ≤ ms.length ∧
    (more.map seen = ms.map own ↔ apart)

omit [Dataplane δ] in
/-- A step that delivers nothing and hands nothing over. -/
theorem Traced.of_nil {apart : Prop} (hcfg : w'.tunnel.cfg = w.tunnel.cfg)
    (hsame : w'.dispatched = w.dispatched) (hapart : apart) : Traced w w' [] apart :=
  ⟨hcfg, [], by simp [hsame], le_refl _, iff_of_true rfl hapart⟩

omit [Dataplane δ] in
/-- A message was lost in the hand-over. -/
theorem Traced.of_lost {apart : Prop} {msg : ControlMessage} {ms : List ControlMessage}
    (hcfg : w'.tunnel.cfg = w.tunnel.cfg) (hsame : w'.dispatched = w.dispatched)
    (hapart : ¬ apart) : Traced w w' (msg :: ms) apart :=
  ⟨hcfg, [], by simp [hsame], Nat.zero_le _, iff_of_false (by simp) hapart⟩

omit [Dataplane δ] in
/-- Learning never makes the CCID of the peer fit the header, nor stop fitting it. -/
theorem learnCcid_isU32 {p : Peer} {msg : ControlMessage} {ccid : Int}
    (h : learnCcid p msg = .ok (p.setRemoteCcid ccid)) : IsU32 ccid ↔ IsU32 p.remoteCcid := by
  obtain ⟨ccid', h', hccid⟩ := learnCcid_eq p msg
  obtain rfl : ccid = ccid' := by
    rw [h, Except.ok.injEq] at h'
    exact congrArg Peer.remoteCcid h'
  rcases hccid with rfl | ⟨hzero, hnew⟩
  · rfl
  · rw [hzero]
    exact iff_of_true hnew ⟨le_refl _, by decide⟩

/-- A datagram whose message is not the one expected next delivers nothing. -/
theorem handleDatagram_idle {buf : Bytes} {msg : ControlMessage} (hsound : w.tunnel.peer.Sound)
    (hmsg : unwire hmac w.tunnel.cfg buf = .ok msg) (hin : w.tunnel.peer.inOrder msg = false) :
    ∃ ccid acks r, (IsU32 ccid ↔ IsU32 w.tunnel.peer.remoteCcid) ∧
      (IsU32 w.tunnel.peer.remoteCcid → r = .ok ()) ∧ handleDatagram hmac buf w
        = (r, received w ((w.tunnel.peer.setRemoteCcid ccid).receive msg).2 acks) := by
  -- undecodable; no response; one that cannot be written; one that is, with nothing to hand over
  rcases handleDatagram_cases hmac buf w with ⟨e, he, -⟩ | ⟨msg', ccid, peer, delivered, hmsg',
    hlearn, ⟨hr, hrun⟩ | ⟨hr, ⟨e, he, hrun⟩ | ⟨bs, -, hrun⟩⟩⟩
  · rw [hmsg] at he
    cases he
  all_goals
    rw [hmsg] at hmsg'
    cases hmsg'
  · exact ⟨ccid, [], .ok (), learnCcid_isU32 hlearn, fun _ => rfl, by rw [hrun, hr]⟩
  · refine ⟨ccid, [], .error e, learnCcid_isU32 hlearn, fun hu => ?_, by rw [hrun, hr]⟩
    exact absurd hu (not_isU32_of_unacked hsound hlearn hr he)
  · have hdelivered := Peer.receive_delivered (w.tunnel.peer.setRemoteCcid ccid) msg
    rw [hr, Peer.deliverable, if_neg (by exact Bool.eq_false_iff.mp hin)] at hdelivered
    obtain rfl : delivered = [] := hdelivered
    exact ⟨ccid, [bs], .ok (), learnCcid_isU32 hlearn, fun _ => rfl, by
      rw [hrun, hr, if_neg (by simp)]⟩

/-- The message expected next, with the messages it releases, is handed over as one, unless
the acknowledgement cannot be written. -/
theorem handleDatagram_next {buf : Bytes} {msg : ControlMessage} (hsound : w.tunnel.peer.Sound)
    (hmsg : unwire hmac w.tunnel.cfg buf = .ok msg) (hin : w.tunnel.peer.inOrder msg = true) :
    ∃ ccid acks peer, (IsU32 ccid ↔ IsU32 w.tunnel.peer.remoteCcid) ∧
      peer = ((w.tunnel.peer.setRemoteCcid ccid).receive msg).2 ∧
      (∀ ack ∈ acks, peer.ackOnly.encode = .ok ack) ∧
      ((¬ IsU32 w.tunnel.peer.remoteCcid ∧ (handleDatagram hmac buf w).2 = received w peer acks) ∨
      (IsU32 w.tunnel.peer.remoteCcid ∧ handleDatagram hmac buf w = dispatch hmac msg
        ((w.tunnel.peer.deliverable msg).flatMap (·.avps)) (received w peer acks))) := by
  -- undecodable; no response; one that cannot be written; one that is, and the hand-over
  rcases handleDatagram_cases hmac buf w with ⟨e, he, -⟩ |
    ⟨msg', ccid, peer, delivered, hmsg', hlearn, ⟨hr, hrun⟩ | ⟨hr, ⟨e, he, hrun⟩ | ⟨bs, hbs, hrun⟩⟩⟩
  · rw [hmsg] at he
    cases he
  all_goals
    rw [hmsg] at hmsg'
    cases hmsg'
  · -- the message expected next is always responded to
    have hin' : (w.tunnel.peer.setRemoteCcid ccid).inOrder msg = true := hin
    rcases Peer.receive_cases (w.tunnel.peer.setRemoteCcid ccid) msg with ⟨hacc, -⟩ | ⟨-, _, -,
      ⟨hz, -⟩ | ⟨-, _, _, _, -, hr'⟩ | ⟨-, hd, -⟩ | ⟨-, hd, -, -⟩ | ⟨-, hd, -, -⟩⟩
    · simp [Peer.inOrder, hacc] at hin'
    · simp [Peer.inOrder, hz] at hin'
    · exact absurd (congrArg (fun r => r.1.2) (hr.symm.trans hr')) (by simp)
    all_goals
      simp only [Peer.inOrder, Bool.and_eq_true, beq_iff_eq] at hin'
      omega
  · exact ⟨ccid, [], peer, learnCcid_isU32 hlearn, by rw [hr], by simp,
      .inl ⟨not_isU32_of_unacked hsound hlearn hr he, by rw [hrun]⟩⟩
  · refine ⟨ccid, [bs], peer, learnCcid_isU32 hlearn, by rw [hr], by simpa using hbs, .inr ⟨?_, ?_⟩⟩
    · exact isU32_of_acked hsound hlearn hr hbs
    · have hdelivered := Peer.receive_delivered (w.tunnel.peer.setRemoteCcid ccid) msg
      have hsame : (w.tunnel.peer.setRemoteCcid ccid).deliverable msg = w.tunnel.peer.deliverable msg :=
        rfl
      rw [hr, hsame] at hdelivered
      have hne : delivered ≠ [] := by
        have hz : msg.avps ≠ [] := by
          simp only [Peer.inOrder, Bool.and_eq_true] at hin
          simpa [ControlMessage.isZlb] using hin.1.2
        rw [show delivered = _ from hdelivered, Peer.deliverable, if_pos hin]
        simp [hz]
      rw [hrun, if_pos hne, show delivered = _ from hdelivered]

omit [Dataplane δ] in
/-- What a readable datagram delivers is what its message releases. -/
theorem delivers_datagram {buf : Bytes} {msg : ControlMessage}
    (hmsg : unwire hmac w.tunnel.cfg buf = .ok msg) :
    delivers hmac w (.datagram buf) = w.tunnel.peer.deliverable msg := by
  simp [delivers, hmsg]

/-- **A datagram** hands its messages over one by one exactly when it delivers one at most. -/
theorem traced_datagram (hsound : w.tunnel.peer.Sound) (buf : Bytes) :
    Traced w (handleDatagram hmac buf w).2 (delivers hmac w (.datagram buf))
      (Apart hmac w (.datagram buf)) := by
  cases hmsg : unwire hmac w.tunnel.cfg buf with
  | error e =>
    have hnil : delivers hmac w (.datagram buf) = [] := by simp [delivers, hmsg]
    rw [handleDatagram_undecoded hmac hmsg, hnil]
    exact .of_nil rfl rfl fun msg hmsg' => by rw [hmsg] at hmsg'; cases hmsg'
  | ok msg =>
    -- the condition speaks of this message only
    have hapart : Apart hmac w (.datagram buf) ↔ (w.tunnel.peer.inOrder msg = true →
        w.tunnel.peer.reorder.get? (seqAdvance w.tunnel.peer.nrExpect) = none ∧
        IsU32 w.tunnel.peer.remoteCcid ∧
        ∀ avp ∈ findAvp msg.avps .messageType, avp.value.length = 2) := by
      refine ⟨fun h => h msg hmsg, fun h msg' hmsg' => ?_⟩
      rw [hmsg] at hmsg'
      cases hmsg'
      exact h
    rw [delivers_datagram hmsg, hapart]
    -- not the next one: nothing is delivered, and the condition is idle
    cases hin : w.tunnel.peer.inOrder msg with
    | false =>
      obtain ⟨ccid, acks, r, -, -, hrun⟩ := handleDatagram_idle hsound hmsg hin
      rw [hrun, Peer.deliverable, if_neg (by simp [hin])]
      exact .of_nil rfl rfl (by simp)
    | true =>
      obtain ⟨ccid, acks, peer, -, -, -, ⟨hu, hrun⟩ | ⟨hu, hrun⟩⟩ :=
        handleDatagram_next hsound hmsg hin
      · rw [hrun, Peer.deliverable, if_pos hin]
        exact .of_lost rfl rfl fun h => hu (h rfl).2.1
      · rw [hrun]
        have hlist : w.tunnel.peer.deliverable msg = msg ::
            (Peer.drain w.tunnel.peer.reorder.size (seqAdvance w.tunnel.peer.nrExpect)
              w.tunnel.peer.reorder).1 := by
          rw [Peer.deliverable, if_pos hin]
        have hnil := drain_eq_nil_iff (seqAdvance w.tunnel.peer.nrExpect) w.tunnel.peer.reorder
        generalize (Peer.drain w.tunnel.peer.reorder.size (seqAdvance w.tunnel.peer.nrExpect)
              w.tunnel.peer.reorder).1 = popped at hlist hnil
        rw [hlist, ← hnil, ← getMessageType_ok_iff]
        obtain ⟨hcfg, -, ⟨⟨e, he⟩, hsame⟩ | ⟨virtual, hmt, hmore, hseen⟩⟩ := dispatch_trace hmac msg ((msg :: popped).flatMap (·.avps)) (received w peer acks)
        · refine .of_lost hcfg hsame fun h => ?_
          obtain ⟨rfl, -, mt, hok⟩ := h rfl
          rw [List.flatMap_cons, List.flatMap_nil, List.append_nil, hok] at he
          cases he
        · refine ⟨hcfg, [virtual], hmore, by simp, ?_⟩
          -- the message alone, or with others that it released
          cases popped with
          | nil =>
            rw [List.flatMap_cons, List.flatMap_nil, List.append_nil] at hmt hseen
            exact iff_of_true (by simp [hseen, own]) fun _ => ⟨rfl, hu, hmt⟩
          | cons m ms => exact iff_of_false (by simp) fun h => by simpa using (h rfl).1

/-- **One step**, whatever the event. -/
theorem traced_step (hmac : Hmac) (hsound : w.tunnel.peer.Sound) (e : Tunnel.Event) :
    Traced w (Tunnel.step hmac w e) (delivers hmac w e) (Apart hmac w e) := by
  by_cases he : ∃ buf, e = .datagram buf
  · obtain ⟨buf, rfl⟩ := he
    exact traced_datagram hsound buf
  · have hq : Quiet w (Tunnel.step hmac w e) := quiet_step hsound fun buf heq => he ⟨buf, heq⟩
    have hnil : delivers hmac w e = [] ∧ Apart hmac w e := by
      cases e with
      | datagram buf => exact absurd ⟨buf, rfl⟩ he
      | _ => exact ⟨rfl, trivial⟩
    rw [hnil.1]
    exact .of_nil hq.cfg hq.dispatched hnil.2

/-- The numbers are of the receiving side only. -/
theorem Numbered.of_sameLink {n : Nat} {p q : Peer} (h : Numbered n p) (hpq : p.SameLink q) :
    Numbered n q :=
  ⟨hpq.nrExpect.trans h.nrExpect, hpq.reorder ▸ h.reorder⟩

/-- **One step** delivers messages that are numbered on, and counts them. -/
theorem numbered_step (hmac : Hmac) {n : Nat} (hsound : w.tunnel.peer.Sound) (h : Numbered n w.tunnel.peer)
    (e : Tunnel.Event) :
    (delivers hmac w e).map (·.ns) = numbers n (delivers hmac w e).length ∧
      Numbered (n + (delivers hmac w e).length) (Tunnel.step hmac w e).tunnel.peer ∧
      (Tunnel.step hmac w e).tunnel.peer.Sound := by
  by_cases he : ∃ buf, e = .datagram buf
  · obtain ⟨buf, rfl⟩ := he
    have hstep : Tunnel.step hmac w (.datagram buf) = (handleDatagram hmac buf w).2 := rfl
    rw [hstep]
    cases hmsg : unwire hmac w.tunnel.cfg buf with
    | error e =>
      simp only [handleDatagram_undecoded hmac hmsg, delivers, hmsg]
      exact ⟨rfl, h, hsound⟩
    | ok msg =>
      have hwf := unwire_wellFormed hmsg
      -- the peer after the message, whatever CCID it learned
      have hset : ∀ ccid, Numbered n (w.tunnel.peer.setRemoteCcid ccid) :=
        fun _ => ⟨h.nrExpect, h.reorder⟩
      have hns : IsU16 msg.ns := ⟨hwf.ns_nonneg, hwf.ns_le⟩
      have hrecv : ∀ ccid, _ ∧ _ := fun ccid => numbered_receive (hset ccid) hns
      have hsound' : ∀ ccid, ((w.tunnel.peer.setRemoteCcid ccid).receive msg).2.Sound :=
        fun ccid => (Peer.receive_frame (w.tunnel.peer.setRemoteCcid ccid) msg
          ⟨hsound.ns, hsound.nr⟩).1
      rw [delivers_datagram hmsg]
      refine ⟨(hrecv 0).1, ?_⟩
      cases hin : w.tunnel.peer.inOrder msg with
      | false =>
        obtain ⟨ccid, acks, r, -, -, hrun⟩ := handleDatagram_idle hsound hmsg hin
        rw [hrun]
        exact ⟨(hrecv ccid).2, hsound' ccid⟩
      | true =>
        obtain ⟨ccid, acks, peer, -, rfl, -, ⟨-, hrun⟩ | ⟨-, hrun⟩⟩ :=
          handleDatagram_next hsound hmsg hin
        · rw [hrun]
          exact ⟨(hrecv ccid).2, hsound' ccid⟩
        · rw [hrun]
          obtain ⟨-, hlink, -⟩ := dispatch_trace hmac msg
            ((w.tunnel.peer.deliverable msg).flatMap (·.avps))
            (received w ((w.tunnel.peer.setRemoteCcid ccid).receive msg).2 acks)
          exact ⟨(hrecv ccid).2.of_sameLink hlink, hlink.sound (hsound' ccid)⟩
  · have hq : Quiet w (Tunnel.step hmac w e) := quiet_step hsound fun buf heq => he ⟨buf, heq⟩
    have hnil : delivers hmac w e = [] := by
      cases e with
      | datagram buf => exact absurd ⟨buf, rfl⟩ he
      | _ => rfl
    rw [hnil]
    exact ⟨rfl, h.of_sameLink hq.link, hq.link.sound hsound⟩

/-! ## Runs

What holds of one step is put together by induction on the list of the events. -/

/-- **A run** delivers messages numbered on from its start. -/
theorem numbered_run (hmac : Hmac) {n : Nat} (hsound : w.tunnel.peer.Sound) (h : Numbered n w.tunnel.peer)
    (es : List Tunnel.Event) :
    (deliveredBy hmac w es).map (·.ns) = numbers n (deliveredBy hmac w es).length ∧
      Numbered (n + (deliveredBy hmac w es).length) (es.foldl (Tunnel.step hmac) w).tunnel.peer ∧
      (es.foldl (Tunnel.step hmac) w).tunnel.peer.Sound := by
  induction es generalizing w n with
  | nil => exact ⟨rfl, h, hsound⟩
  | cons e es ih =>
    obtain ⟨hnums, hnext, hsound'⟩ := numbered_step hmac hsound h e
    obtain ⟨hnums', hnext', hsound''⟩ := ih hsound' hnext
    rw [deliveredBy, List.map_append, hnums, hnums', List.length_append, numbers_append]
    refine ⟨rfl, ?_, hsound''⟩
    rw [← Nat.add_assoc]
    exact hnext'

/-- Traces of steps that record at most what they deliver agree piece by piece. -/
theorem map_append_eq_iff {α β γ : Type} {f : α → γ} {g : β → γ} {xs xs' : List α} {ys ys' : List β}
    (h : xs.length ≤ ys.length) (h' : xs'.length ≤ ys'.length) :
    (xs ++ xs').map f = (ys ++ ys').map g ↔ xs.map f = ys.map g ∧ xs'.map f = ys'.map g := by
  rw [List.map_append, List.map_append]
  constructor
  · intro heq
    have hlen := congrArg List.length heq
    simp only [List.length_append, List.length_map] at hlen
    exact List.append_inj heq (by simp only [List.length_map]; omega)
  · rintro ⟨h₁, h₂⟩
    rw [h₁, h₂]

/-- **A run** hands over message by message exactly when every step does. -/
theorem traced_run (hmac : Hmac) {n : Nat} (hsound : w.tunnel.peer.Sound) (h : Numbered n w.tunnel.peer)
    (es : List Tunnel.Event) :
    Traced w (es.foldl (Tunnel.step hmac) w) (deliveredBy hmac w es)
      (Transition.Guarded (Tunnel.step hmac) (Apart hmac) w es) := by
  induction es generalizing w n with
  | nil => exact .of_nil rfl rfl trivial
  | cons e es ih =>
    obtain ⟨-, hnext, hsound'⟩ := numbered_step hmac hsound h e
    obtain ⟨hcfg, more, hmore, hle, hiff⟩ := traced_step hmac hsound e
    obtain ⟨hcfg', more', hmore', hle', hiff'⟩ := ih hsound' hnext
    refine ⟨hcfg'.trans hcfg, more ++ more', ?_, ?_, ?_⟩
    · rw [List.foldl_cons, hmore', hmore, List.append_assoc]
    · rw [deliveredBy, List.length_append, List.length_append]
      exact Nat.add_le_add hle hle'
    · rw [deliveredBy, map_append_eq_iff hle hle', hiff, hiff', Transition.Guarded]

/-! ## The effect on the machines

Handing the messages over one by one leaves the same machines as the datagrams did, since the
machines see nothing of the transport. -/

/-- The hand-over of a message on its own. -/
def handOver (hmac : Hmac) (w : World δ) (msg : ControlMessage) : World δ :=
  (dispatch hmac msg msg.avps w).2

/-- A datagram leaves the machines as the hand-over of what it delivers does. -/
theorem alike_datagram {v : World δ} (h : Alike w v) {buf : Bytes}
    (hapart : Apart hmac w (.datagram buf)) :
    Alike (handleDatagram hmac buf w).2
      ((delivers hmac w (.datagram buf)).foldl (handOver hmac) v) := by
  -- the transport takes the message; the machines have not seen it yet
  have hrecv : ∀ ccid acks msg, (IsU32 ccid ↔ IsU32 w.tunnel.peer.remoteCcid) →
      Alike (received w ((w.tunnel.peer.setRemoteCcid ccid).receive msg).2 acks) v := by
    intro ccid acks msg hccid
    have hframe := Peer.receive_frame (w.tunnel.peer.setRemoteCcid ccid) msg
      ⟨h.soundLeft.ns, h.soundLeft.nr⟩
    refine ⟨h.cfg, h.fsm, h.sessionsByLocal, h.sessionsByRemote, hframe.1, h.soundRight, ?_⟩
    rw [← h.remoteCcid, ← hccid]
    exact iff_of_eq (congrArg IsU32 hframe.2.2.1)
  cases hmsg : unwire hmac w.tunnel.cfg buf with
  | error e =>
    simp only [handleDatagram_undecoded hmac hmsg, delivers, hmsg]
    exact h
  | ok msg =>
    rw [delivers_datagram hmsg]
    cases hin : w.tunnel.peer.inOrder msg with
    | false =>
      obtain ⟨ccid, acks, r, hccid, -, hrun⟩ := handleDatagram_idle h.soundLeft hmsg hin
      rw [hrun, Peer.deliverable, if_neg (by simp [hin])]
      exact hrecv ccid acks msg hccid
    | true =>
      obtain ⟨hgap, hu, -⟩ := hapart msg hmsg hin
      have hlist : w.tunnel.peer.deliverable msg = [msg] := by
        rw [Peer.deliverable, if_pos hin, (drain_eq_nil_iff _ _).mpr hgap]
      obtain ⟨ccid, acks, peer, hccid, rfl, -, ⟨hnu, -⟩ | ⟨-, hrun⟩⟩ :=
        handleDatagram_next h.soundLeft hmsg hin
      · exact absurd hu hnu
      · rw [hrun, hlist, List.flatMap_cons, List.flatMap_nil, List.append_nil]
        exact (alike_dispatch msg msg msg.avps _ _ (hrecv ccid acks msg hccid)).1

theorem alike_datagrams {v : World δ} (h : Alike w v) (bufs : List Bytes)
    (hapart : Transition.Guarded (Tunnel.step hmac) (Apart hmac) w (bufs.map .datagram)) :
    Alike ((bufs.map Event.datagram).foldl (Tunnel.step hmac) w)
      ((deliveredBy hmac w (bufs.map .datagram)).foldl (handOver hmac) v) := by
  induction bufs generalizing w v with
  | nil => exact h
  | cons buf bufs ih =>
    rw [List.map_cons, deliveredBy, List.foldl_append, List.foldl_cons]
    exact ih (alike_datagram h hapart.1) hapart.2

/-- Messages with the same AVPs have the same effect. -/
theorem alike_handOvers (hmac : Hmac) {v : World δ} (h : Alike w v) {ms ms' : List ControlMessage}
    (hsame : ms.map (·.avps) = ms'.map (·.avps)) :
    Alike (ms.foldl (handOver hmac) w) (ms'.foldl (handOver hmac) v) := by
  induction ms generalizing w v ms' with
  | nil =>
    obtain rfl : ms' = [] := by simpa using hsame.symm
    exact h
  | cons m ms ih =>
    obtain ⟨m', rest, rfl, havps, hrest⟩ := List.map_eq_cons_iff.mp hsame.symm
    rw [List.foldl_cons, List.foldl_cons]
    refine ih ?_ hrest.symm
    rw [handOver, handOver, havps]
    exact (alike_dispatch m m' m.avps w v h).1

/-! ## Main result

The condition speaks of the state before each step and of its datagram. The examples are two
messages in order, and the same two swapped. -/

/-- **Every delivered message reaches a state machine on its own exactly on the runs that
release one message at a time.** Delivered messages are numbered without gaps, and `nr_expect`
counts them. The machines saw these messages, each once, in this order, with its own AVPs and
by its own type, exactly when every step of the run was `Apart`. From any state reached,
datagrams that arrive `Apart` and deliver the same messages leave the same machines, in
whatever order they arrive and whatever else arrives between them. -/
theorem dispatched_own_iff (hmac : Hmac) (cfg : TunnelConfigEntry) (dataplane : Option δ) (clock : Nat → ℚ)
    (es : List Tunnel.Event) :
    let w₀ := World.init cfg dataplane clock
    let w := es.foldl (Tunnel.step hmac) w₀
    (deliveredBy hmac w₀ es).map (·.ns) = numbers 0 (deliveredBy hmac w₀ es).length ∧
    w.tunnel.peer.nrExpect = ((deliveredBy hmac w₀ es).length : Int) % 0x10000 ∧
    (w.dispatched.map seen = (deliveredBy hmac w₀ es).map own ↔
      Transition.Guarded (Tunnel.step hmac) (Apart hmac) w₀ es) ∧
    ∀ bufs bufs' : List Bytes,
      Transition.Guarded (Tunnel.step hmac) (Apart hmac) w (bufs.map .datagram) →
      Transition.Guarded (Tunnel.step hmac) (Apart hmac) w (bufs'.map .datagram) →
      (deliveredBy hmac w (bufs.map .datagram)).map (·.avps)
        = (deliveredBy hmac w (bufs'.map .datagram)).map (·.avps) →
      let v := (bufs.map Event.datagram).foldl (Tunnel.step hmac) w
      let v' := (bufs'.map Event.datagram).foldl (Tunnel.step hmac) w
      v.tunnel.fsm = v'.tunnel.fsm ∧ v.tunnel.sessionsByLocal = v'.tunnel.sessionsByLocal ∧
        v.tunnel.sessionsByRemote = v'.tunnel.sessionsByRemote := by
  intro w₀ w
  have hsound₀ : w₀.tunnel.peer.Sound := Peer.sound_init _ _ _ _ _
  have hnum₀ : Numbered 0 w₀.tunnel.peer :=
    ⟨rfl, fun ns msg h => by simp [w₀, World.init, Tunnel.init, Peer.init] at h⟩
  obtain ⟨hnums, hcount, hsound⟩ := numbered_run hmac hsound₀ hnum₀ es
  obtain ⟨-, more, hmore, -, hiff⟩ := traced_run hmac hsound₀ hnum₀ es
  refine ⟨hnums, by simpa using hcount.nrExpect, ?_, ?_⟩
  · rw [← hiff, hmore]
    rfl
  · intro bufs bufs' hapart hapart' hsame v v'
    have hself : Alike w w := Alike.refl hsound
    -- both runs against the hand-over of the messages one by one
    have h := alike_datagrams hself bufs hapart
    have h' := alike_datagrams hself bufs' hapart'
    have hms := alike_handOvers hmac hself hsame
    exact ⟨h.fsm.trans (hms.fsm.trans h'.fsm.symm),
      h.sessionsByLocal.trans (hms.sessionsByLocal.trans h'.sessionsByLocal.symm),
      h.sessionsByRemote.trans (hms.sessionsByRemote.trans h'.sessionsByRemote.symm)⟩

/-- A tunnel without sessions. -/
def spoke : TunnelConfigEntry where
  name := "spoke"
  localAddress := "192.0.2.1"
  remoteAddress := "192.0.2.2"
  localCcid := 100
  hostName := "spoke"
  routerId := 1
  remoteCcid := 200

/-- A HELLO of the peer of `spoke`, and the StopCCN that follows it. -/
def hello : Bytes := (ControlMessage.mk 100 0 0 [messageTypeAvp .hello]).wire

/-- The StopCCN of that peer, the message after the HELLO. -/
def stop : Bytes :=
  (ControlMessage.mk 100 1 0 [messageTypeAvp .stopccn,
    ietfAvp .assignedControlConnectionId (beBytes 4 200) true,
    ietfAvp .resultCode (beBytes 2 1) true]).wire

/-- The example's tunnel before any event. -/
def spokeInit : World MockDataplane := World.init spoke none fun _ => 0

/-- The two in order, and swapped. -/
def ordered : List Tunnel.Event := [.start, .datagram hello, .datagram stop]

/-- The same two datagrams the other way round: the later one is buffered. -/
def swapped : List Tunnel.Event := [.start, .datagram stop, .datagram hello]

/-- In order, both messages were handed over on their own, and are counted. -/
theorem dispatched_own_iff_ordered :
    Transition.Guarded (Tunnel.step ControlMessage.sumHmac) (Apart ControlMessage.sumHmac) spokeInit
      ordered ∧
    (ordered.foldl (Tunnel.step ControlMessage.sumHmac) spokeInit).tunnel.peer.nrExpect = 2 := by
  obtain ⟨-, hcount, hiff, -⟩ := dispatched_own_iff ControlMessage.sumHmac spoke
    (none : Option MockDataplane) (fun _ => 0) ordered
  have hlen : (deliveredBy ControlMessage.sumHmac spokeInit ordered).length = 2 := by decide +kernel
  refine ⟨hiff.mp (by decide +kernel), hcount.trans ?_⟩
  rw [show World.init spoke none (fun _ => 0) = spokeInit from rfl, hlen]
  rfl

/-- Swapped, both are delivered, one merged message is handed over, and the tunnel that the
peer has stopped stays open. -/
theorem swapped_merged :
    (deliveredBy ControlMessage.sumHmac spokeInit swapped).length = 2 ∧
    (swapped.foldl (Tunnel.step ControlMessage.sumHmac) spokeInit).dispatched.map seen ≠
      (deliveredBy ControlMessage.sumHmac spokeInit swapped).map own ∧
    (ordered.foldl (Tunnel.step ControlMessage.sumHmac) spokeInit).tunnel.fsm.state = .idle ∧
    (swapped.foldl (Tunnel.step ControlMessage.sumHmac) spokeInit).tunnel.fsm.state
      = .waitCtlReply := by
  decide +kernel

end Dispatch

end L2tpv3d
