import L2tpv3d.Transport.Link
import L2tpv3d.Transport.Window

/-!
# L2tpv3d — the link recovers from loss

Whatever the network did so far, one round of retransmission that gets through repairs it. A
tick that finds every queued message expired and none without a retry puts each of them in
flight again; once the other side has processed these datagrams in order, it has delivered
everything sent before the tick, and its answer empties the queue. Anything may happen in
between.

* `Side.Speaks` — what a side says is addressed to the other one, can be encoded and carries
  a body. `Speaks.act` keeps it.
* `Side.out_act`, `sent_act` — nothing that was said is taken back.
* `resent_by_tick`, `answered`, `acked_by` — the three legs of a round.
* **`recovers`** — a round repairs every reachable state.
-/

namespace L2tpv3d

open Py

/-- The address of a message that the owner of `ccid` accepts: its own, or nobody's. -/
def Reaches (ccid c : Int) : Prop := c = 0 ∨ c = ccid

instance (ccid c : Int) : Decidable (Reaches ccid c) := inferInstanceAs (Decidable (_ ∨ _))

/-- What a queued message keeps over retransmissions is addressed to `ccid`, and can be
encoded with any Nr. -/
def Resendable (ccid : Int) : Int × Int × List AVP → Prop
  | (c, ns, avps) => Reaches ccid c ∧
      ∀ nr : Int, 0 ≤ nr ∧ nr ≤ 0xFFFF → (ControlMessage.mk c ns nr avps).WellFormed

/-- A message that reaches the owner of the CCID is accepted by it. -/
theorem Peer.accepts_of_reaches {p : Peer} {msg : ControlMessage}
    (h : Reaches p.localCcid msg.controlConnectionId) : p.accepts msg = true := by
  rcases h with h | h <;> simp [Peer.accepts, h]

/-- The one answer of `receive`, if it gives one, is a ZLB of the peer it leaves. -/
theorem Peer.receive_answer (p : Peer) (msg : ControlMessage) :
    (p.receive msg).1.2 = [] ∨ (p.receive msg).1.2 = [(p.receive msg).2.ackOnly] := by
  rcases Peer.receive_cases p msg with ⟨-, h⟩ | ⟨-, q, rfl, ⟨-, h⟩ | ⟨-, _, _, _, -, h⟩ |
      ⟨-, -, h⟩ | ⟨-, -, -, h⟩ | ⟨-, -, -, h⟩⟩ <;> rw [h] <;> simp

/-- A message that is not ahead of the expected one is answered. -/
theorem Peer.receive_answers {p : Peer} {msg : ControlMessage} (hacc : p.accepts msg = true)
    (hbody : msg.isZlb = false) (hdelta : seqDelta msg.ns p.nrExpect ≤ 0) :
    (p.receive msg).1.2 = [(p.receive msg).2.ackOnly] := by
  rcases Peer.receive_cases p msg with ⟨hacc', -⟩ | ⟨-, q, rfl, ⟨hz, -⟩ | ⟨-, _, _, _, -, h⟩ |
      ⟨-, -, h⟩ | ⟨-, hpos, -⟩ | ⟨-, hpos, -⟩⟩
  -- of the branches only the delivery and the re-ack are left; a message ahead is excluded
  · rw [hacc] at hacc'
    cases hacc'
  · rw [hbody] at hz
    cases hz
  · rw [h]
  · rw [h]
  · omega
  · omega

namespace Side

/-- The only CCID a side learns is the other side's. -/
def Learns (ccid : Int) : Event → Prop
  | .setRemoteCcid c => Reaches ccid c
  | _ => True

instance (ccid : Int) : (e : Event) → Decidable (Learns ccid e)
  | .setRemoteCcid c => inferInstanceAs (Decidable (Reaches ccid c))
  | .send _ _ | .tick _ | .ackOnly | .receive _ => instDecidableTrue

/-- What a side says is for the owner of `ccid`. -/
structure Speaks (s : Side) (ccid : Int) : Prop where
  windowed : s.peer.Windowed
  remote : Reaches ccid s.peer.remoteCcid
  queued : ∀ content ∈ s.peer.sendQueue.map PendingSend.content, Resendable ccid content
  sent : ∀ avps ∈ s.sent, avps ≠ []
  out : ∀ d ∈ s.out, ∀ msg, ControlMessage.decode d.bytes = .ok msg →
    Reaches ccid msg.controlConnectionId

/-! ## What a step keeps

Whoever a side speaks to, and that its messages encode, does not depend on the network. -/

section Act

variable {s other : Side} {ccid : Int}

/-- A side that knows the CCID of the other speaks to it from the start. -/
theorem Speaks.init {p : Peer} (h : Reaches ccid p.remoteCcid) :
    Speaks { peer := p.renew } ccid where
  windowed := Peer.windowed_init _ _ _ _ _
  remote := h
  queued := by simp [Peer.renew, Peer.init]
  sent := by simp
  out := by simp

/-- A message that is sent is addressed to the peer, and can be sent again. -/
theorem Speaks.send (h : s.Speaks ccid) (avps : List AVP) (now : ℚ) :
    (s.act other (.send avps now)).Speaks ccid := by
  rw [act]
  cases hsend : s.peer.send avps now with
  | error e => exact h
  | ok r =>
    obtain ⟨msg, peer⟩ := r
    have hwindowed := h.windowed.send hsend
    obtain ⟨hne, rfl, encoded, henc, rfl⟩ := Peer.send_eq_ok.mp hsend
    refine ⟨by simpa using hwindowed, by simpa using h.remote, ?_, ?_, ?_⟩
    · intro content hmem
      simp only [emit_peer, List.map_append, List.map_cons, List.map_nil, List.mem_append,
        List.mem_singleton] at hmem
      rcases hmem with hmem | rfl
      · exact h.queued content hmem
      -- it was just encoded, and the Nr is all that a repeat changes
      · obtain ⟨c0, c1, s0, s1, -, -, hplain, hsize⟩ := ControlMessage.wellFormed_of_encode henc
        exact ⟨h.remote, fun nr hnr => ⟨c0, c1, s0, s1, hnr.1, hnr.2, hplain, hsize⟩⟩
    · intro avps' hmem
      simp only [emit_sent, List.mem_append, List.mem_singleton] at hmem
      rcases hmem with hmem | rfl
      · exact h.sent avps' hmem
      · exact hne
    · refine forall_mem_out_emit (by simpa using h.out) fun bs hdec msg' hdec' => ?_
      simp only [hdec, Except.ok.injEq] at hdec'
      exact hdec' ▸ h.remote

/-- A message of the queue of a live peer is encoded again. -/
theorem Speaks.encodes (h : s.Speaks ccid) {pending : PendingSend}
    (hp : pending ∈ s.peer.sendQueue) :
    ∃ bs, ControlMessage.encode { pending.msg with nr := s.peer.nrExpect } = .ok bs :=
  ⟨_, ControlMessage.encode_of_wellFormed
    ((h.queued _ (List.mem_map_of_mem hp)).2 _ h.windowed.nrExpect)⟩

/-- A tick sends again what is in the queue, under the address it was sent with. -/
theorem Speaks.tick (h : s.Speaks ccid) (now : ℚ) : (s.act other (.tick now)).Speaks ccid := by
  have hwindowed := h.windowed.tick now
  rw [act]
  rcases Peer.tick_cases s.peer now with ⟨-, htick⟩ | ⟨-, queue, result, hloop, hres⟩
  · rw [htick]
    exact ⟨h.windowed, h.remote, h.queued, h.sent, by simpa using h.out⟩
  · have hcontent := Peer.tickLoop_content now s.peer.nrExpect s.peer.maxRetries s.peer.sendQueue
    rw [hloop] at hcontent
    rcases hres with ⟨resend, dead, rfl, htick⟩ | ⟨e, rfl, htick⟩
    · rw [htick] at hwindowed ⊢
      refine ⟨hwindowed, h.remote, by simpa [hcontent] using h.queued, h.sent, ?_⟩
      intro d hd msg hdec
      rcases List.mem_append.mp hd with hd | hd
      · exact h.out d hd msg hdec
      -- a resent datagram decodes to a message of the queue
      · obtain ⟨⟨bs, i⟩, hmem, rfl⟩ := List.mem_map.mp hd
        obtain ⟨j, pending, -, hj, henc⟩ := Peer.tickLoop_resend _ hloop bs i hmem
        simp only [ControlMessage.decode_of_encode henc, Except.ok.injEq] at hdec
        exact hdec ▸ (h.queued _ (List.mem_map_of_mem (List.mem_of_getElem? hj))).1
    · rw [htick] at hwindowed ⊢
      exact ⟨hwindowed, h.remote, by simpa [hcontent] using h.queued, h.sent, h.out⟩

/-- A datagram that is processed is answered to the peer. -/
theorem Speaks.process (h : s.Speaks ccid) {msg : ControlMessage}
    (hns : 0 ≤ msg.ns ∧ msg.ns ≤ 0xFFFF) : (s.process msg).Speaks ccid := by
  have hwindowed := (h.windowed.receive hns).1
  have hremote := Peer.receive_remoteCcid s.peer msg
  rw [Side.process]
  refine ⟨by simpa using hwindowed, by simpa [hremote] using h.remote, ?_, by simpa using h.sent, ?_⟩
  · intro content hmem
    obtain ⟨pending, hp, rfl⟩ := List.mem_map.mp (by simpa using hmem)
    exact h.queued _ (List.mem_map_of_mem (Peer.mem_sendQueue_receive hp))
  · refine forall_mem_out_emitAll (by simpa using h.out) fun m hm bs hdec msg' hdec' => ?_
    simp only [hdec, Except.ok.injEq] at hdec'
    have hm' : m ∈ (s.peer.receive msg).1.2 := hm
    rcases Peer.receive_answer s.peer msg with hnil | hack
    · rw [hnil] at hm'
      cases hm'
    -- the one answer is a ZLB with the address the peer has
    · rw [hack, List.mem_singleton] at hm'
      rw [← hdec', hm', Peer.ackOnly, hremote]
      exact h.remote

/-- **A step keeps who a side speaks to.** -/
theorem Speaks.act (h : s.Speaks ccid) {e : Event} (he : Learns ccid e) :
    (s.act other e).Speaks ccid := by
  cases e with
  | send avps now => exact h.send avps now
  | tick now => exact h.tick now
  | ackOnly =>
    rw [Side.act]
    refine ⟨by simpa using h.windowed, by simpa using h.remote, by simpa using h.queued,
      by simpa using h.sent, ?_⟩
    refine forall_mem_out_emit (by simpa using h.out) fun bs hdec msg' hdec' => ?_
    simp only [hdec, Except.ok.injEq] at hdec'
    exact hdec' ▸ h.remote
  -- the new address is one that reaches the peer, by the condition
  | setRemoteCcid c =>
    exact ⟨⟨h.windowed.nsSend, h.windowed.nrExpect, h.windowed.queue, h.windowed.keyed,
      h.windowed.window⟩, he, h.queued, h.sent, h.out⟩
  -- a datagram that was decoded has a 16-bit Ns
  | receive n =>
    rw [Side.act]
    cases other.out[n]? with
    | none => exact h
    | some d =>
      cases hdec : ControlMessage.decode d.bytes with
      | error e => simpa [hdec] using h
      | ok msg =>
        obtain ⟨hwf, -⟩ := ControlMessage.decode_inv hdec
        simpa [hdec] using h.process ⟨hwf.ns_nonneg, hwf.ns_le⟩

/-- No step changes the CCID of a side. -/
theorem localCcid_act (s other : Side) (e : Event) :
    (s.act other e).peer.localCcid = s.peer.localCcid := by
  -- no method of the peer writes this field
  cases e with
  | send avps now =>
    rw [Side.act]
    cases hsend : s.peer.send avps now with
    | error e => rfl
    | ok r =>
      obtain ⟨-, -, _, -, hp⟩ := Peer.send_eq_ok.mp hsend
      simp [hp]
  | tick now =>
    rw [Side.act]
    rcases Peer.tick_cases s.peer now with ⟨-, ht⟩ | ⟨-, _, _, -, ⟨_, _, -, ht⟩ | ⟨_, -, ht⟩⟩ <;>
      rw [ht]
  | ackOnly => simp [Side.act]
  | setRemoteCcid c => rfl
  | receive n =>
    rw [Side.act]
    cases other.out[n]? with
    | none => rfl
    | some d =>
      cases hdec : ControlMessage.decode d.bytes with
      | error e => simp [hdec]
      | ok msg =>
        obtain ⟨_, -, _, _, -, hr⟩ := Peer.receive_parts s.peer msg
        simp [hdec, Side.process, hr]

/-! ## Nothing that was said is taken back

The datagrams in flight only ever grow, so a later step may still process an earlier one. -/

/-- A datagram that is sent comes after those that were. -/
theorem out_emit (s : Side) (pos : Option Nat) (msg : ControlMessage) :
    s.out <+: (s.emit pos msg).out := by
  unfold emit
  split
  · exact List.prefix_rfl
  · exact List.prefix_append _ _

theorem out_emitAll (s : Side) (msgs : List ControlMessage) : s.out <+: (s.emitAll msgs).out := by
  induction msgs generalizing s with
  | nil => exact List.prefix_rfl
  | cons msg msgs ih => exact (out_emit s none msg).trans (ih _)

/-- The datagrams in flight and the history of a side only grow. -/
theorem grows_act (s other : Side) (e : Event) :
    s.out <+: (s.act other e).out ∧ s.sent <+: (s.act other e).sent := by
  cases e with
  | send avps now =>
    rw [Side.act]
    rcases s.peer.send avps now with _ | ⟨msg, peer⟩
    · exact ⟨List.prefix_rfl, List.prefix_rfl⟩
    · exact ⟨out_emit { s with peer := peer, sent := s.sent ++ [avps] } _ msg, by simp⟩
  | tick now =>
    rw [Side.act]
    rcases s.peer.tick now with ⟨_ | ⟨_, _⟩, _⟩
    · exact ⟨List.prefix_rfl, List.prefix_rfl⟩
    · exact ⟨List.prefix_append _ _, List.prefix_rfl⟩
  | ackOnly => exact ⟨out_emit _ _ _, by simp [Side.act]⟩
  | setRemoteCcid c => exact ⟨List.prefix_rfl, List.prefix_rfl⟩
  -- the answers of a datagram are appended, and it hands nothing to `send`
  | receive n =>
    rw [Side.act]
    cases other.out[n]? with
    | none => exact ⟨List.prefix_rfl, List.prefix_rfl⟩
    | some d =>
      cases hdec : ControlMessage.decode d.bytes with
      | error e => simp [hdec]
      | ok msg =>
        simp only [hdec, Side.process]
        exact ⟨out_emitAll { s with
          peer := (s.peer.receive msg).2
          got := s.got ++ [(s.peer.receive msg).1.1]
          count := s.count + (s.peer.deliverable msg).length } _, by simp⟩

end Act

/-! ## Answers

A message that is not ahead of the expected one is acknowledged at once, by a datagram that carries
the number of deliveries. -/

/-- A datagram counts the messages it delivers. -/
theorem count_process (s : Side) (msg : ControlMessage) :
    (s.process msg).count = s.count + (s.peer.deliverable msg).length := by
  simp [Side.process]

/-- A datagram is processed by the peer, and the answers do not touch it. -/
theorem peer_process (s : Side) (msg : ControlMessage) :
    (s.process msg).peer = (s.peer.receive msg).2 := by
  simp [Side.process]

/-- An answer that can be encoded is in flight, stamped with the new count. -/
theorem answer_in_flight {s : Side} {msg : ControlMessage} {bs : Bytes}
    (h : (s.peer.receive msg).1.2 = [(s.peer.receive msg).2.ackOnly])
    (henc : (s.peer.receive msg).2.ackOnly.encode = .ok bs) :
    ∃ d ∈ (s.process msg).out, d.count = (s.process msg).count := by
  rw [count_process]
  refine ⟨⟨bs, none, s.count + (s.peer.deliverable msg).length⟩, ?_, rfl⟩
  have hproc : s.process msg = { s with
      peer := (s.peer.receive msg).2
      got := s.got ++ [(s.peer.receive msg).1.1]
      count := s.count + (s.peer.deliverable msg).length }.emitAll (s.peer.receive msg).1.2 := rfl
  rw [hproc, h]
  simp [emitAll, emit, henc]

/-- A side that speaks can encode its acknowledgement. -/
theorem Speaks.encode_ackOnly {s : Side} {ccid : Int} (h : s.Speaks ccid)
    (hccid : 0 ≤ ccid ∧ ccid ≤ 0xFFFFFFFF) : ∃ bs, s.peer.ackOnly.encode = .ok bs := by
  have hremote : 0 ≤ s.peer.remoteCcid ∧ s.peer.remoteCcid ≤ 0xFFFFFFFF := by
    rcases h.remote with h0 | h0 <;> rw [h0]
    · decide
    · exact hccid
  exact ⟨_, ControlMessage.encode_of_wellFormed ⟨hremote.1, hremote.2, h.windowed.nsSend.1,
    h.windowed.nsSend.2, h.windowed.nrExpect.1, h.windowed.nrExpect.2, by simp [Peer.ackOnly],
    show headerLen ≤ maxMessageLen by decide⟩⟩

/-! ## The legs of a round

Out with the tick, in at the other side, back with the answer. Each leg is stated for any states in
between, as other events may happen. -/

/-- Every queued message has expired, and has a retry left. -/
structure AllDue (s : Side) (now : ℚ) : Prop where
  alive : s.peer.dead = false
  due : ∀ pending ∈ s.peer.sendQueue,
    pending.nextRto ≤ now - pending.sentAt ∧ pending.retries < s.peer.maxRetries

/-- Where every entry is due, every position is sent again. -/
theorem resendPositions_all {now : ℚ} {queue : List PendingSend}
    (h : ∀ pending ∈ queue, pending.nextRto ≤ now - pending.sentAt) (base : Nat) :
    Peer.resendPositions now base queue = List.range' base queue.length := by
  induction queue generalizing base with
  | nil => rfl
  | cons pending rest ih =>
    rw [Peer.resendPositions, if_neg (not_lt.mpr (h pending List.mem_cons_self)),
      ih (fun p hp => h p (List.mem_cons_of_mem _ hp)), List.length_cons, List.range'_succ]

variable {a b : Side}

/-- **The first leg.** The tick puts every queued message in flight again, in order. -/
theorem resent_by_tick (h : a.Speaks ccid) {now : ℚ} (hdue : a.AllDue now) :
    ∃ fresh, (a.act b (.tick now)).out = a.out ++ fresh ∧
      fresh.map (·.pos) = (List.range' a.base a.peer.sendQueue.length).map some := by
  obtain ⟨queue, resend, dead, hloop⟩ : ∃ queue resend dead,
      Peer.tickLoop now a.peer.nrExpect a.peer.maxRetries a.peer.sendQueue
        = (queue, .ok (resend, dead)) := Peer.tickLoop_returns fun p hp => h.encodes hp
  cases dead with
  -- a dead peer would have had an entry without a retry left
  | true =>
    obtain ⟨pending, hp, -, hover⟩ := Peer.tickLoop_dead hloop
    have := (hdue.due pending hp).2
    omega
  | false =>
    have hpos := resendPositions_all (fun p hp => (hdue.due p hp).1) a.base
    have hlen := Peer.length_resend a.base hloop
    have htick : a.peer.tick now
        = (.ok (resend, false), { a.peer with sendQueue := queue, dead := false }) := by
      rw [Peer.tick, hdue.alive, hloop]
      rfl
    -- the datagrams are numbered by the positions they stand for
    have hzip : (resend.zip (Peer.resendPositions now a.base a.peer.sendQueue)).map Prod.snd
        = Peer.resendPositions now a.base a.peer.sendQueue := List.map_snd_zip (by omega)
    rw [Side.act, htick]
    refine ⟨_, rfl, ?_⟩
    rw [← hpos, List.map_map]
    calc (resend.zip (Peer.resendPositions now a.base a.peer.sendQueue)).map _
        = ((resend.zip (Peer.resendPositions now a.base a.peer.sendQueue)).map Prod.snd).map some := by
          simp [List.map_map, Function.comp_def]
      _ = (Peer.resendPositions now a.base a.peer.sendQueue).map some := by rw [hzip]

/-- **The second leg.** A message of `a` that `b` has delivered, or expects next, is delivered
once its datagram is processed, and there is an answer that says so. -/
theorem answered (hflow : Flow a b) (ha : a.Speaks b.peer.localCcid)
    (hb : b.Speaks a.peer.localCcid) (hccid : 0 ≤ a.peer.localCcid ∧ a.peer.localCcid ≤ 0xFFFFFFFF)
    {n i : Nat} {d : Datagram} (hd : a.out[n]? = some d) (hpos : d.pos = some i) (hi : i ≤ b.count)
    (hnear : b.Near a (.receive n)) :
    i < (b.act a (.receive n)).count ∧
      ∃ d' ∈ (b.act a (.receive n)).out, d'.count = (b.act a (.receive n)).count := by
  obtain ⟨msg, hdec, hcarries⟩ := hflow.carries d (List.mem_of_getElem? hd)
  rw [hpos] at hcarries
  obtain ⟨hns, hmsg⟩ := hcarries
  obtain ⟨-, hlo⟩ := hnear d hd i hpos
  have hacc : b.peer.accepts msg = true :=
    Peer.accepts_of_reaches (ha.out d (List.mem_of_getElem? hd) msg hdec)
  have hbody : msg.isZlb = false := by
    simpa [ControlMessage.isZlb] using ha.sent _ (List.mem_of_getElem? hmsg)
  have hdelta : seqDelta msg.ns b.peer.nrExpect = i - b.count := by
    rw [hns, hflow.nrExpect, Peer.seqDelta_counter (by omega) (by omega)]
  have hact : b.act a (.receive n) = b.process msg := by
    rw [Side.act, hd]
    simp [hdec]
  obtain ⟨hwf, -⟩ := ControlMessage.decode_inv hdec
  have hspeaks := hb.process ⟨hwf.ns_nonneg, hwf.ns_le⟩
  rw [hact]
  constructor
  -- delivered before, or the one that is expected
  · rw [count_process]
    rcases Nat.lt_or_eq_of_le hi with hlt | rfl
    · omega
    · have hin : b.peer.inOrder msg = true := by simp [Peer.inOrder, hacc, hbody, hdelta]
      simp [Peer.deliverable, hin]
  · have hanswer := Peer.receive_answers hacc hbody (by omega)
    obtain ⟨bs, henc⟩ := hspeaks.encode_ackOnly hccid
    exact answer_in_flight hanswer (peer_process b msg ▸ henc)

/-- **The third leg.** Processing an answer takes what it acknowledges out of the queue. -/
theorem acked_by (hflow : Flow a b) (ha : a.Speaks b.peer.localCcid)
    (hb : b.Speaks a.peer.localCcid) {n : Nat} {d : Datagram} (hd : b.out[n]? = some d)
    (hlen : a.peer.sendQueue.length < 0x8000) : d.count ≤ (a.act b (.receive n)).base := by
  obtain ⟨hcount, msg, hdec, hnr⟩ := hflow.acks d (List.mem_of_getElem? hd)
  have hacc : a.peer.accepts msg = true :=
    Peer.accepts_of_reaches (hb.out d (List.mem_of_getElem? hd) msg hdec)
  have hact : a.act b (.receive n) = a.process msg := by
    rw [Side.act, hd]
    simp [hdec]
  have hbase := hflow.base_add_length
  rcases Nat.lt_or_ge a.base d.count with hlt | hge
  · have hle := hflow.count_le
    have hdrop := ha.windowed.acked hacc hlen (k := d.count - a.base) (by omega)
      (by rw [hnr, hflow.nsSend]; omega)
    rw [hact, Side.base, peer_process, hdrop]
    simp only [Side.process, emitAll_sent, List.length_drop]
    omega
  -- an old answer: the base does not go back
  · rcases hflow.sender_effect (.receive n) with ⟨_, -, h⟩ | ⟨-, k, h, -⟩ <;> omega

end Side

namespace Link

/-- Each side learns no other CCID than the other's. -/
def Addressed (l : Link) : Event → Prop
  | .atA e => Side.Learns l.b.peer.localCcid e
  | .atB e => Side.Learns l.a.peer.localCcid e

instance (l : Link) : (e : Event) → Decidable (l.Addressed e)
  | .atA e => inferInstanceAs (Decidable (Side.Learns l.b.peer.localCcid e))
  | .atB e => inferInstanceAs (Decidable (Side.Learns l.a.peer.localCcid e))

/-- The sides know each other, and what they process is near. -/
def Sane (l : Link) (e : Event) : Prop := l.AckBounded e ∧ l.Addressed e

instance (l : Link) (e : Event) : Decidable (l.Sane e) := inferInstanceAs (Decidable (_ ∧ _))

/-- What the two sides of a link keep. -/
structure Talking (l : Link) : Prop where
  flow : Flow l.a l.b
  a : l.a.Speaks l.b.peer.localCcid
  b : l.b.Speaks l.a.peer.localCcid
  ccid : 0 ≤ l.a.peer.localCcid ∧ l.a.peer.localCcid ≤ 0xFFFFFFFF

/-- A step within the bounds keeps what the two sides have. -/
theorem Talking.next {l : Link} (h : l.Talking) {e : Event} (he : l.Sane e) :
    (l.step e).Talking := by
  obtain ⟨hok, hl⟩ := he
  cases e with
  | atA e =>
    have hccid := Side.localCcid_act l.a l.b e
    exact ⟨h.flow.sender_step e, h.a.act hl, hccid ▸ h.b, hccid ▸ h.ccid⟩
  | atB e =>
    have hccid := Side.localCcid_act l.b l.a e
    exact ⟨h.flow.receiver_step e hok, hccid ▸ h.a, h.b.act hl, h.ccid⟩

theorem talking_of_reach {p q : Peer} {l : Link} (hp : Reaches q.localCcid p.remoteCcid)
    (hq : Reaches p.localCcid q.remoteCcid) (hccid : 0 ≤ p.localCcid ∧ p.localCcid ≤ 0xFFFFFFFF)
    (h : Transition.Reach step Sane (init p q) l) : l.Talking :=
  h.invariant (I := Talking)
    ⟨Flow.init _ _ rfl rfl rfl rfl, Side.Speaks.init hp, Side.Speaks.init hq, hccid⟩
    fun _ _ hl he => hl.next he

/-! ## A round

The datagrams of the tick hold the messages of the queue in order. Processing them one after the
other delivers each that was not delivered before. Induction on their number. -/

/-- `b` processes `k` datagrams of `a`, from number `n` on. -/
def receipts (n k : Nat) : List Event := (List.range' n k).map fun m => .atB (.receive m)

/-- What `a` and `b` said stays in flight, and deliveries stay delivered. -/
theorem grows_step (l : Link) (e : Event) :
    l.a.out <+: (l.step e).a.out ∧ l.b.out <+: (l.step e).b.out ∧
      l.a.sent <+: (l.step e).a.sent ∧ l.b.count ≤ (l.step e).b.count := by
  cases e with
  | atA e =>
    exact ⟨(Side.grows_act l.a l.b e).1, List.prefix_rfl, (Side.grows_act l.a l.b e).2, le_refl _⟩
  | atB e =>
    obtain ⟨n, hn⟩ := Flow.receiver_effect l.b l.a e
    exact ⟨List.prefix_rfl, (Side.grows_act l.b l.a e).1, List.prefix_rfl, hn ▸ Nat.le_add_right ..⟩

/-- What was said stays said along a run. -/
theorem grows_run (l : Link) (es : List Event) :
    l.a.out <+: (es.foldl step l).a.out ∧ l.b.out <+: (es.foldl step l).b.out ∧
      l.a.sent <+: (es.foldl step l).a.sent ∧ l.b.count ≤ (es.foldl step l).b.count := by
  induction es generalizing l with
  | nil => exact ⟨List.prefix_rfl, List.prefix_rfl, List.prefix_rfl, le_refl _⟩
  | cons e es ih =>
    obtain ⟨ha, hb, hs, hc⟩ := grows_step l e
    obtain ⟨ha', hb', hs', hc'⟩ := ih (l.step e)
    exact ⟨ha.trans ha', hb.trans hb', hs.trans hs', hc.trans hc'⟩

/-- A run given as a list of events keeps it too. -/
theorem Talking.run {l : Link} (h : l.Talking) {es : List Event}
    (hes : Transition.Guarded step Sane l es) : (es.foldl step l).Talking := by
  induction es generalizing l with
  | nil => exact h
  | cons e es ih => exact ih (h.next hes.1) hes.2

/-- The datagrams from number `n` on hold the messages from position `i` on. -/
def Lined (out : List Datagram) (n i k : Nat) : Prop :=
  ∀ j < k, ∃ d, out[n + j]? = some d ∧ d.pos = some (i + j)

/-- Datagrams that are lined up stay where they are. -/
theorem Lined.of_prefix {out out' : List Datagram} {n i k : Nat} (h : Lined out n i k)
    (hp : out <+: out') : Lined out' n i k := fun j hj =>
  have ⟨d, hd, hpos⟩ := h j hj
  ⟨d, getElem?_of_prefix hp hd, hpos⟩

theorem Lined.tail {out : List Datagram} {n i k : Nat} (h : Lined out n i (k + 1)) :
    Lined out (n + 1) (i + 1) k := by
  intro j hj
  obtain ⟨d, hd, hpos⟩ := h (j + 1) (Nat.succ_lt_succ hj)
  exact ⟨d, by rwa [Nat.add_assoc, Nat.add_comm 1], by rw [hpos]; congr 1; omega⟩

/-- **A round of datagrams in order.** Once `b` has processed them, whatever else happened in
between, it has delivered the last of their messages, and an answer says so. Induction on the
run; the number delivered never falls behind the next datagram of the round. -/
theorem Talking.delivers {l : Link} (h : l.Talking) {es : List Event}
    (hes : Transition.Guarded step Sane l es) {n i k : Nat} (hout : Lined l.a.out n i k)
    (hsub : (receipts n k).Sublist es) (hi : i ≤ l.b.count) :
    i + k ≤ (es.foldl step l).b.count ∧
      (0 < k → ∃ d ∈ (es.foldl step l).b.out, i + k ≤ d.count) := by
  induction es generalizing l n i k with
  | nil =>
    have hk : k = 0 := by simpa [receipts] using congrArg List.length (List.sublist_nil.mp hsub)
    subst hk
    exact ⟨hi, fun h => absurd h (lt_irrefl 0)⟩
  | cons e es ih =>
    have hstep := h.next hes.1
    obtain ⟨ha, -, -, hc⟩ := grows_step l e
    cases k with
    | zero => exact ⟨hi.trans (grows_run l (e :: es)).2.2.2, fun h => absurd h (lt_irrefl 0)⟩
    | succ k =>
      rw [receipts, List.range'_succ, List.map_cons] at hsub
      cases hsub with
      | cons _ hsub => exact ih hstep hes.2 (hout.of_prefix ha) hsub (hi.trans hc)
      | cons_cons _ hsub =>
        obtain ⟨d, hd, hpos⟩ := hout 0 (Nat.succ_pos k)
        obtain ⟨hlt, d', hd', hcount⟩ :=
          Side.answered h.flow h.a h.b h.ccid hd hpos hi hes.1.1
        obtain ⟨hle, hans⟩ := ih hstep hes.2 (hout.of_prefix ha).tail hsub hlt
        refine ⟨by rw [List.foldl_cons]; omega, fun _ => ?_⟩
        rcases Nat.eq_zero_or_pos k with rfl | hk
        -- the last datagram of the round: its answer stays in flight
        · exact ⟨d', (grows_run _ es).2.1.subset hd', by rw [hcount]; exact hlt⟩
        · obtain ⟨d'', hd'', hle''⟩ := hans hk
          exact ⟨d'', hd'', by omega⟩

/-- **The link recovers from loss.** In every state that a run within the bounds leads to,
whatever was lost, duplicated, delayed or reordered on the way: when a tick finds every queued
message of `a` expired with a retry left, and `b` then processes the datagrams of that tick in
order, with anything in between, then `b` has delivered all that `a` had sent, an answer that
says so is in flight, and once `a` processes such an answer none of it is queued any more. -/
theorem recovers (p q : Peer) (hp : Reaches q.localCcid p.remoteCcid)
    (hq : Reaches p.localCcid q.remoteCcid) (hccid : 0 ≤ p.localCcid ∧ p.localCcid ≤ 0xFFFFFFFF)
    (l : Link) (h : Transition.Reach step Sane (init p q) l) (now : ℚ) (hdue : l.a.AllDue now)
    (hsome : l.a.peer.sendQueue ≠ []) (es : List Event)
    (hes : Transition.Guarded step Sane (l.step (.atA (.tick now))) es)
    (hsub : (receipts l.a.out.length l.a.peer.sendQueue.length).Sublist es) (l' : Link)
    (hl' : l' = es.foldl step (l.step (.atA (.tick now)))) :
    l.a.sent.length ≤ l'.b.count ∧ l.a.sent.flatten <+: l'.b.got.flatten ∧
      (∃ (n : Nat) (d : Datagram), l'.b.out[n]? = some d ∧ l.a.sent.length ≤ d.count) ∧
      ∀ (n : Nat) (d : Datagram), l'.b.out[n]? = some d → l.a.sent.length ≤ d.count →
        l'.a.peer.sendQueue.length < 0x8000 →
        l.a.sent.length ≤ (l'.step (.atA (.receive n))).a.base := by
  have htalk := talking_of_reach hp hq hccid h
  obtain ⟨-, hbase⟩ := base_le_count_of_reach (h.mono fun _ _ he => he.1)
  have htalk₁ : (l.step (.atA (.tick now))).Talking := htalk.next ⟨trivial, trivial⟩
  -- the round starts at the oldest queued message, which `b` has delivered or expects
  obtain ⟨fresh, hout, hpos⟩ := Side.resent_by_tick (b := l.b) htalk.a hdue
  -- the datagrams of the tick are the last ones in flight, in the order of the positions
  have hlined : Lined (l.step (.atA (.tick now))).a.out l.a.out.length l.a.base
      l.a.peer.sendQueue.length := by
    intro j hj
    have hj' : (fresh.map (·.pos))[j]? = some (some (l.a.base + j)) := by
      rw [hpos, List.getElem?_map, List.getElem?_range' hj]
      simp
    rw [List.getElem?_map, Option.map_eq_some_iff] at hj'
    obtain ⟨d, hd, hdpos⟩ := hj'
    refine ⟨d, ?_, hdpos⟩
    rw [show (l.step (.atA (.tick now))).a.out = l.a.out ++ fresh from hout,
      List.getElem?_append_right (Nat.le_add_right ..), Nat.add_sub_cancel_left, hd]
  have hlen : l.a.base + l.a.peer.sendQueue.length = l.a.sent.length := htalk.flow.base_add_length
  obtain ⟨hcount, hanswer⟩ := htalk₁.delivers hes hlined hsub hbase
  have htalk' : l'.Talking := hl' ▸ htalk₁.run hes
  rw [← hl', hlen] at hcount hanswer
  refine ⟨hcount, ?_, ?_, ?_⟩
  -- `b` has delivered a prefix of the history that is at least as long as it was
  · have hsent : l.a.sent <+: l'.a.sent :=
      hl' ▸ (grows_step l _).2.2.1.trans (grows_run _ es).2.2.1
    obtain ⟨more, hmore⟩ := hsent
    rw [htalk'.flow.got, ← hmore, List.take_append, List.take_of_length_le hcount,
      List.flatten_append]
    exact List.prefix_append _ _
  -- the last datagram of the round was answered
  · obtain ⟨d, hd, hle⟩ := hanswer (List.length_pos_iff.mpr hsome)
    obtain ⟨n, hn⟩ := List.mem_iff_getElem?.mp hd
    exact ⟨n, d, hn, hle⟩
  · intro n d hd hle hroom
    exact hle.trans (Side.acked_by htalk'.flow htalk'.a htalk'.b hd hroom)

/-- Two messages of which nothing arrives in time; a third one is sent during the round. -/
def lossy : Link :=
  [.atA (.send [⟨0, [0, 6], true, false, 0⟩] 0), .atA (.send [⟨0, [0, 4], true, false, 0⟩] 0)].foldl
    step (init (.init 7 9) (.init 9 7))

/-- The round of the tick, with a message of `a` between its two datagrams. -/
def lossyRound : List Event :=
  [.atB (.receive 2), .atA (.send [⟨0, [0, 6], true, false, 0⟩] 1), .atB (.receive 3)]

/-- The two lost messages are delivered after the round. -/
theorem recovers_lossy :
    lossy.b.count = 0 ∧ 2 ≤ (lossyRound.foldl step (lossy.step (.atA (.tick 1)))).b.count := by
  have hsub : (receipts lossy.a.out.length lossy.a.peer.sendQueue.length).Sublist lossyRound := by
    rw [show lossy.a.out.length = 2 by decide +kernel,
      show lossy.a.peer.sendQueue.length = 2 by decide +kernel]
    exact .cons_cons _ (.cons _ (.cons_cons _ .slnil))
  exact ⟨by decide +kernel, (recovers (.init 7 9) (.init 9 7) (by decide +kernel)
    (by decide +kernel) (by decide) lossy (Transition.Reach.run .start (by decide +kernel)) 1
    ⟨by decide +kernel, by decide +kernel⟩ (by decide +kernel) lossyRound (by decide +kernel)
    hsub _ rfl).1⟩

end Link

end L2tpv3d
