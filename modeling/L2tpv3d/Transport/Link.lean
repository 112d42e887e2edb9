import L2tpv3d.Transport.Peer
import L2tpv3d.Wire.Codec
import L2tpv3d.Lib.Transition
import L2tpv3d.Lib.Channel

/-!
# L2tpv3d — two peers joined by a network

Two peers exchange datagrams over a network that loses, duplicates, delays and reorders
them: a side may process any datagram the other one ever emitted, at any time and any
number of times. A `Side` is a peer with its history; each datagram carries, as bookkeeping
that no step reads, the position of its message in the emitter's send order and the number
of messages the emitter had delivered.

* `Flow a b` — the invariant of one direction: what `a` sent, what is in flight, what `b`
  buffers and what `b` has delivered. `Flow.sender_step` and `Flow.receiver_step` keep it;
  the second one needs the bound `Near` on the position of the message that arrives.
* **`in_order_delivery`** — what `b` delivered is the first `k` messages of `a`, `k` being
  the number behind `b`'s `nrExpect`.
* **`no_ack_before_delivery`** — under the bound `AckNear` on the acks that arrive at `a`, a
  message leaves `a`'s queue only once `b` has delivered it.
* `Flow.channel`, `channel_step` — a run of the link is a run of an abstract
  `AckedChannel`.
-/

namespace L2tpv3d

open Py

/-- A datagram in flight. -/
structure Datagram where
  bytes : Bytes
  /-- The position of its message in the emitter's send order; a ZLB has none. -/
  pos : Option Nat
  /-- How many of the other side's messages the emitter had delivered. -/
  count : Nat

/-- The message, if there is one, is less than 2^15 away from the number `count`. -/
def Datagram.Near (d : Datagram) (count : Nat) : Prop :=
  ∀ i ∈ d.pos, i < count + 0x8000 ∧ count < i + 0x8000

instance (d : Datagram) (count : Nat) : Decidable (d.Near count) :=
  inferInstanceAs (Decidable (∀ i ∈ d.pos, i < count + 0x8000 ∧ count < i + 0x8000))

/-- A peer with its history. -/
structure Side where
  peer : Peer
  /-- The AVP lists handed to `send`, in order. -/
  sent : List (List AVP) := []
  /-- The AVP batches `receive` returned, in order. -/
  got : List (List AVP) := []
  /-- How many of the other side's messages were delivered. -/
  count : Nat := 0
  /-- Every datagram ever emitted. -/
  out : List Datagram := []

namespace Side

/-- What a side can do. -/
inductive Event where
  | send (avps : List AVP) (now : ℚ)
  | tick (now : ℚ)
  | ackOnly
  | setRemoteCcid (ccid : Int)
  /-- Process the datagram of the other side with this number. -/
  | receive (n : Nat)

/-- Transmit a message. -/
def emit (s : Side) (pos : Option Nat) (msg : ControlMessage) : Side :=
  match msg.encode with
  | .error _ => s
  | .ok bs => { s with out := s.out ++ [⟨bs, pos, s.count⟩] }

/-- The position of the oldest message in the send queue. -/
def base (s : Side) : Nat := s.sent.length - s.peer.sendQueue.length

/-- Transmit the responses of a `receive`, which are ZLBs. -/
def emitAll (s : Side) : List ControlMessage → Side
  | [] => s
  | response :: rest => (s.emit none response).emitAll rest

/-- Process a message. -/
def process (s : Side) (msg : ControlMessage) : Side :=
  match s.peer.receive msg with
  | ((avps, responses), peer) =>
    { s with
      peer := peer
      got := s.got ++ [avps]
      count := s.count + (s.peer.deliverable msg).length }.emitAll responses

/-- One step of a side. -/
def act (s other : Side) : Event → Side
  | .send avps now =>
    match s.peer.send avps now with
    | .error _ => s
    | .ok (msg, peer) =>
      { s with peer := peer, sent := s.sent ++ [avps] }.emit (some s.sent.length) msg
  | .tick now =>
    match s.peer.tick now with
    | (.error _, peer) => { s with peer := peer }
    | (.ok (resend, _), peer) =>
      -- the datagrams come in queue order, one for each expired entry
      let positions := Peer.resendPositions now s.base s.peer.sendQueue
      { s with
        peer := peer
        out := s.out ++ (resend.zip positions).map fun (bs, i) => ⟨bs, some i, s.count⟩ }
  | .ackOnly => s.emit none s.peer.ackOnly
  | .setRemoteCcid ccid => { s with peer := s.peer.setRemoteCcid ccid }
  | .receive n =>
    match other.out[n]? with
    | none => s
    | some d =>
      -- a datagram that does not decode is dropped by the caller of `receive`
      match ControlMessage.decode d.bytes with
      | .error _ => s
      | .ok msg => s.process msg

/-- **The bound on positions.** A datagram that is processed holds a message whose position
differs by less than 2^15 from the number of messages delivered so far. -/
def Near (s other : Side) : Event → Prop
  | .receive n => ∀ d ∈ other.out[n]?, d.Near s.count
  | _ => True

/-- **The bound on acks.** A datagram that is processed was emitted when the emitter had
delivered a number of messages within 2^15 of the position of the oldest one still queued
here, if there is one. -/
def AckNear (s other : Side) : Event → Prop
  | .receive n => ∀ d ∈ other.out[n]?, s.peer.sendQueue ≠ [] →
      d.count ≤ s.base + 0x8000 ∧ s.base ≤ d.count + 0x8000
  | _ => True

instance (s other : Side) : (e : Event) → Decidable (s.Near other e)
  | .receive n => inferInstanceAs (Decidable (∀ d ∈ other.out[n]?, d.Near s.count))
  | .send _ _ | .tick _ | .ackOnly | .setRemoteCcid _ => instDecidableTrue

instance (s other : Side) : (e : Event) → Decidable (s.AckNear other e)
  | .receive n => inferInstanceAs (Decidable (∀ d ∈ other.out[n]?, s.peer.sendQueue ≠ [] →
      d.count ≤ s.base + 0x8000 ∧ s.base ≤ d.count + 0x8000))
  | .send _ _ | .tick _ | .ackOnly | .setRemoteCcid _ => instDecidableTrue

/-! ## Transmission changes nothing but the datagrams in flight

One lemma for each field of a side, so that later proofs never unfold `emit`. -/

section Emit

variable (s : Side) (pos : Option Nat) (msg : ControlMessage)

/-- A datagram that is sent leaves the peer as it is. -/
@[simp] theorem emit_peer : (s.emit pos msg).peer = s.peer := by
  unfold emit; split <;> rfl

/-- It leaves the history of `send` as it is. -/
@[simp] theorem emit_sent : (s.emit pos msg).sent = s.sent := by
  unfold emit; split <;> rfl

/-- It leaves what was received as it is. -/
@[simp] theorem emit_got : (s.emit pos msg).got = s.got := by
  unfold emit; split <;> rfl

@[simp] theorem emit_count : (s.emit pos msg).count = s.count := by
  unfold emit; split <;> rfl

variable {s pos msg}

/-- A property of all datagrams in flight survives a transmission that has it. -/
theorem forall_mem_out_emit {P : Datagram → Prop} (hs : ∀ d ∈ s.out, P d)
    (hmsg : ∀ bs, ControlMessage.decode bs = .ok msg → P ⟨bs, pos, s.count⟩) :
    ∀ d ∈ (s.emit pos msg).out, P d := by
  unfold emit
  cases henc : msg.encode with
  | error e => exact hs
  | ok bs =>
    intro d hd
    rcases List.mem_append.mp hd with hd | hd
    · exact hs d hd
    · rw [List.mem_singleton.mp hd]
      exact hmsg bs (ControlMessage.decode_of_encode henc)

/-- A property of the datagrams in flight, kept when answers go out. -/
theorem forall_mem_out_emitAll {P : Datagram → Prop} {msgs : List ControlMessage}
    (hs : ∀ d ∈ s.out, P d)
    (hmsg : ∀ m ∈ msgs, ∀ bs, ControlMessage.decode bs = .ok m → P ⟨bs, none, s.count⟩) :
    ∀ d ∈ (s.emitAll msgs).out, P d := by
  induction msgs generalizing s with
  | nil => exact hs
  | cons m msgs ih =>
    refine ih (forall_mem_out_emit hs (hmsg m List.mem_cons_self)) fun m' hm' => ?_
    rw [emit_count]
    exact hmsg m' (List.mem_cons_of_mem _ hm')

end Emit

section EmitAll

variable (s : Side) (msgs : List ControlMessage)

/-- Answers leave the peer as it is. -/
@[simp] theorem emitAll_peer : (s.emitAll msgs).peer = s.peer := by
  induction msgs generalizing s with
  | nil => rfl
  | cons m msgs ih => simp [emitAll, ih]

/-- They leave the history of `send` as it is. -/
@[simp] theorem emitAll_sent : (s.emitAll msgs).sent = s.sent := by
  induction msgs generalizing s with
  | nil => rfl
  | cons m msgs ih => simp [emitAll, ih]

/-- They leave what was received as it is. -/
@[simp] theorem emitAll_got : (s.emitAll msgs).got = s.got := by
  induction msgs generalizing s with
  | nil => rfl
  | cons m msgs ih => simp [emitAll, ih]

@[simp] theorem emitAll_count : (s.emitAll msgs).count = s.count := by
  induction msgs generalizing s with
  | nil => rfl
  | cons m msgs ih => simp [emitAll, ih]

end EmitAll

end Side

/-! ## The invariant of one direction

Steps of the sender add to the history and to the datagrams in flight, steps of the receiver move
messages from the datagrams to the buffer and from there to what was delivered. Each of the two is
one lemma for every event, from one lemma for each operation. -/

/-- What stands in a list stands at the same place in a longer one. -/
theorem getElem?_of_prefix {α : Type} {l l' : List α} {i : Nat} {x : α} (h : l <+: l')
    (hi : l[i]? = some x) : l'[i]? = some x := by
  obtain ⟨more, rfl⟩ := h
  rw [List.getElem?_append_left (List.getElem?_eq_some_iff.mp hi).1, hi]

/-- The datagram holds a ZLB, or the message of `sent` at its position. -/
def Datagram.Carries (d : Datagram) (sent : List (List AVP)) : Prop :=
  ∃ msg, ControlMessage.decode d.bytes = .ok msg ∧
    match d.pos with
    | none => msg.avps = []
    | some i => msg.ns = (i : Int) % 0x10000 ∧ sent[i]? = some msg.avps

/-- The datagram acknowledges as many messages as its emitter had delivered. -/
def Datagram.Acks (d : Datagram) (count : Nat) : Prop :=
  d.count ≤ count ∧ ∃ msg, ControlMessage.decode d.bytes = .ok msg ∧
    msg.nr = (d.count : Int) % 0x10000

/-- **The direction from `a` to `b`.** -/
structure Flow (a b : Side) : Prop where
  /-- `a` numbers its messages by their positions. -/
  nsSend : a.peer.nsSend = (a.sent.length : Int) % 0x10000
  /-- `a`'s queue is the end of what it sent. -/
  queue_le : a.peer.sendQueue.length ≤ a.sent.length
  queued : Peer.Queued a.peer.sendQueue a.sent a.base
  /-- What `a` emitted is what it sent. -/
  carries : ∀ d ∈ a.out, d.Carries a.sent
  /-- `b` expects the message after those it delivered. -/
  nrExpect : b.peer.nrExpect = (b.count : Int) % 0x10000
  count_le : b.count ≤ a.sent.length
  /-- `b` delivered a prefix of what `a` sent. -/
  got : b.got.flatten = (a.sent.take b.count).flatten
  /-- `b` buffers messages of `a` that come after the expected one. -/
  buffers : Peer.Buffers b.peer.reorder a.sent (b.count + 1)
  /-- What `b` emitted acknowledges no more than `b` delivered. -/
  acks : ∀ d ∈ b.out, d.Acks b.count

namespace Flow

/-- Two fresh peers. -/
theorem init (p q : Peer) (hp : p.nsSend = 0) (hpq : p.sendQueue = []) (hq : q.nrExpect = 0)
    (hqr : q.reorder = .empty) : Flow { peer := p } { peer := q } where
  nsSend := by simp [hp]
  queue_le := by simp [hpq]
  queued := by simp [hpq, Peer.Queued]
  carries := by simp
  nrExpect := by simp [hq]
  count_le := by simp
  got := by simp
  buffers := by simp [hqr, Peer.Buffers]
  acks := by simp

variable {a b : Side}

/-- A step of the sender keeps the invariant when it keeps its own part of it and takes
nothing back of what was sent. -/
theorem of_sender (h : Flow a b) {a' : Side} (hsent : a.sent <+: a'.sent)
    (nsSend : a'.peer.nsSend = (a'.sent.length : Int) % 0x10000)
    (queue_le : a'.peer.sendQueue.length ≤ a'.sent.length)
    (queued : Peer.Queued a'.peer.sendQueue a'.sent a'.base)
    (carries : ∀ d ∈ a'.out, d.Carries a'.sent) : Flow a' b where
  nsSend := nsSend
  queue_le := queue_le
  queued := queued
  carries := carries
  nrExpect := h.nrExpect
  count_le := h.count_le.trans hsent.length_le
  -- what `b` delivered lies in the part of `sent` that was there before
  got := by
    obtain ⟨more, hmore⟩ := hsent
    rw [h.got, ← hmore, List.take_append_of_le_length h.count_le]
  buffers := by
    intro ns msg hget
    obtain ⟨i, hlo, hhi, hns, hmsg⟩ := h.buffers ns msg hget
    exact ⟨i, hlo, hhi, hns, getElem?_of_prefix hsent hmsg⟩
  acks := h.acks

/-- The part of the queue left after some acks, renumbered from its new head. -/
theorem queued_drop (h : Flow a b) {n : Nat} (hn : n ≤ a.peer.sendQueue.length) :
    Peer.Queued (a.peer.sendQueue.drop n) a.sent
      (a.sent.length - (a.peer.sendQueue.drop n).length) := by
  have hbase : a.sent.length - (a.peer.sendQueue.drop n).length = a.base + n := by
    have := h.queue_le
    rw [List.length_drop, Side.base]
    omega
  rw [hbase]
  intro j pending hj
  rw [List.getElem?_drop] at hj
  rw [Nat.add_assoc]
  exact h.queued (n + j) pending hj

/-- A datagram keeps carrying its message as the history of the emitter grows. -/
theorem carries_of_prefix {d : Datagram} {sent sent' : List (List AVP)} (h : d.Carries sent)
    (hsent : sent <+: sent') : d.Carries sent' := by
  obtain ⟨msg, hdec, hpos⟩ := h
  refine ⟨msg, hdec, ?_⟩
  cases hp : d.pos with
  | none => rw [hp] at hpos; exact hpos
  | some i => rw [hp] at hpos; exact ⟨hpos.1, getElem?_of_prefix hsent hpos.2⟩

/-- A ZLB carries nothing. -/
theorem carries_zlb {bs : Bytes} {msg : ControlMessage} {count : Nat} {sent : List (List AVP)}
    (hdec : ControlMessage.decode bs = .ok msg) (hz : msg.avps = []) :
    (Datagram.mk bs none count).Carries sent := ⟨msg, hdec, hz⟩

/-- A message queued at `j` is carried under its position. -/
theorem carries_queued {bs : Bytes} {msg : ControlMessage} {count i : Nat}
    {sent : List (List AVP)} (hdec : ControlMessage.decode bs = .ok msg)
    (hns : msg.ns = (i : Int) % 0x10000) (hmsg : sent[i]? = some msg.avps) :
    (Datagram.mk bs (some i) count).Carries sent := ⟨msg, hdec, hns, hmsg⟩

theorem base_add_length (h : Flow a b) : a.base + a.peer.sendQueue.length = a.sent.length :=
  Nat.sub_add_cancel h.queue_le

/-- A message that `a` sends. -/
theorem sender_send (h : Flow a b) (avps : List AVP) (now : ℚ) :
    Flow (a.act b (.send avps now)) b := by
  rw [Side.act]
  cases hsend : a.peer.send avps now with
  | error e => exact h
  | ok r =>
    obtain ⟨msg, peer⟩ := r
    obtain ⟨-, rfl, encoded, henc, rfl⟩ := Peer.send_eq_ok.mp hsend
    have hsent : a.sent <+: a.sent ++ [avps] := List.prefix_append _ _
    refine h.of_sender (by simp) ?_ (by simpa using h.queue_le) ?_ ?_
    -- the counter advances with the history
    · simp only [Side.emit_peer, Side.emit_sent, h.nsSend, Peer.seqAdvance_counter]
      simp
    -- queue and history grow by one message each, so the base stays
    · have hbase : a.sent.length + 1 - (a.peer.sendQueue.length + 1) = a.base := by
        rw [Nat.add_sub_add_right, Side.base]
      simp only [Side.base, Side.emit_peer, Side.emit_sent, List.length_append,
        List.length_singleton, hbase]
      exact h.queued.snoc h.base_add_length h.nsSend
    -- the new datagram carries the message at the end of the history
    · refine Side.forall_mem_out_emit ?_ ?_
      · intro d hd
        rw [Side.emit_sent]
        exact carries_of_prefix (h.carries d hd) hsent
      · intro bs hdec
        rw [Side.emit_sent]
        exact carries_queued hdec h.nsSend (by simp)

/-- A pass over the queue keeps its messages and their numbers. -/
theorem sender_tick_queue (h : Flow a b) {now : ℚ} {queue : List PendingSend}
    {result : Except Exn (List Bytes × Bool)}
    (htick : Peer.tickLoop now a.peer.nrExpect a.peer.maxRetries a.peer.sendQueue
      = (queue, result)) :
    queue.length = a.peer.sendQueue.length ∧ Peer.Queued queue a.sent a.base := by
  have hcontent := Peer.tickLoop_content now a.peer.nrExpect a.peer.maxRetries a.peer.sendQueue
  rw [htick] at hcontent
  refine ⟨?_, h.queued.of_content hcontent⟩
  simpa using congrArg List.length hcontent

/-- A tick of `a`: what is sent again is a message of the history, with its old number. -/
theorem sender_tick (h : Flow a b) (now : ℚ) : Flow (a.act b (.tick now)) b := by
  rw [Side.act]
  rcases Peer.tick_cases a.peer now with ⟨-, htick⟩ | ⟨-, queue, result, hloop, hres⟩
  · rw [htick]
    exact h.of_sender List.prefix_rfl h.nsSend h.queue_le h.queued (by simpa using h.carries)
  · obtain ⟨hlen, hqueued⟩ := h.sender_tick_queue hloop
    rcases hres with ⟨resend, dead, rfl, htick⟩ | ⟨e, rfl, htick⟩
    · rw [htick]
      refine h.of_sender List.prefix_rfl h.nsSend (by simpa [hlen] using h.queue_le) ?_ ?_
      · simpa [Side.base, hlen] using hqueued
      · intro d hd
        rcases List.mem_append.mp hd with hd | hd
        · exact h.carries d hd
        -- a resent datagram: the queue says which message it carries
        · obtain ⟨⟨bs, i⟩, hmem, rfl⟩ := List.mem_map.mp hd
          obtain ⟨j, pending, rfl, hj, henc⟩ := Peer.tickLoop_resend _ hloop bs i hmem
          obtain ⟨hns, hmsg⟩ := h.queued j pending hj
          exact carries_queued (ControlMessage.decode_of_encode henc) hns hmsg
    · rw [htick]
      refine h.of_sender List.prefix_rfl h.nsSend (by simpa [hlen] using h.queue_le) ?_ h.carries
      simpa [Side.base, hlen] using hqueued

/-- What processing a message changes of the peer's sending half: acks are consumed. -/
theorem receive_sender (p : Peer) (msg : ControlMessage) :
    (p.receive msg).2.nsSend = p.nsSend ∧
      ((p.receive msg).2.sendQueue = p.sendQueue ∨
        (p.receive msg).2.sendQueue = Peer.consumeAcks msg.nr p.sendQueue) ∧
      ∀ m ∈ (p.receive msg).1.2, m.avps = [] := by
  rcases Peer.receive_cases p msg with ⟨-, h⟩ | ⟨-, q, rfl, ⟨-, h⟩ | ⟨-, _, _, _, -, h⟩ |
      ⟨-, -, h⟩ | ⟨-, -, -, h⟩ | ⟨-, -, -, h⟩⟩ <;>
    rw [h] <;> simp [Peer.ackOnly]

/-- A datagram that `a` processes acknowledges some of its messages, and answers with ZLBs. -/
theorem sender_process (h : Flow a b) (msg : ControlMessage) : Flow (a.process msg) b := by
  obtain ⟨hns, hqueue, hresp⟩ := receive_sender a.peer msg
  -- acks drop the first `n` entries, `n = 0` for a message that is not accepted
  obtain ⟨n, hn, hdrop⟩ : ∃ n ≤ a.peer.sendQueue.length,
      (a.peer.receive msg).2.sendQueue = a.peer.sendQueue.drop n := by
    rcases hqueue with hq | hq
    · exact ⟨0, Nat.zero_le _, hq⟩
    · rw [hq]; exact Peer.consumeAcks_suffix msg.nr a.peer.sendQueue
  rw [Side.process]
  have hle := h.queue_le
  refine h.of_sender (by simp) ?_ ?_ ?_ ?_
  · simpa [hns] using h.nsSend
  · simp [hdrop]; omega
  · simp only [Side.base, Side.emitAll_peer, Side.emitAll_sent, hdrop]
    exact h.queued_drop hn
  · refine Side.forall_mem_out_emitAll (by simpa using h.carries) ?_
    intro m hm bs hdec
    exact carries_zlb hdec (hresp m hm)

/-- **The sender's steps.** Whatever `a` does, the direction from `a` to `b` is kept. -/
theorem sender_step (h : Flow a b) (e : Side.Event) : Flow (a.act b e) b := by
  cases e with
  | send avps now => exact h.sender_send avps now
  | tick now => exact h.sender_tick now
  | ackOnly =>
    rw [Side.act]
    refine h.of_sender (by simp) (by simpa using h.nsSend) (by simpa using h.queue_le)
      (by simpa [Side.base] using h.queued) ?_
    exact Side.forall_mem_out_emit (by simpa using h.carries) fun bs hdec => carries_zlb hdec rfl
  | setRemoteCcid ccid => exact h.of_sender List.prefix_rfl h.nsSend h.queue_le h.queued h.carries
  -- a datagram that does not exist or does not decode changes nothing
  | receive n =>
    rw [Side.act]
    cases b.out[n]? with
    | none => exact h
    | some d =>
      cases hdec : ControlMessage.decode d.bytes with
      | error e => simpa [hdec] using h
      | ok msg => simpa [hdec] using h.sender_process msg

/-- A step of the receiver keeps the invariant when it keeps its own part of it. -/
theorem of_receiver (h : Flow a b) {b' : Side}
    (nrExpect : b'.peer.nrExpect = (b'.count : Int) % 0x10000)
    (count_le : b'.count ≤ a.sent.length)
    (got : b'.got.flatten = (a.sent.take b'.count).flatten)
    (buffers : Peer.Buffers b'.peer.reorder a.sent (b'.count + 1))
    (acks : ∀ d ∈ b'.out, d.Acks b'.count) : Flow a b' :=
  ⟨h.nsSend, h.queue_le, h.queued, h.carries, nrExpect, count_le, got, buffers, acks⟩

/-- What a transmission stamped with the current Nr acknowledges. -/
theorem acks_stamped {bs : Bytes} {msg : ControlMessage} {pos : Option Nat} {count : Nat}
    (hdec : ControlMessage.decode bs = .ok msg) (hnr : msg.nr = (count : Int) % 0x10000) :
    (Datagram.mk bs pos count).Acks count := ⟨le_refl _, msg, hdec, hnr⟩

/-- A message that `b` sends acknowledges what `b` has delivered. -/
theorem receiver_send (h : Flow a b) (avps : List AVP) (now : ℚ) :
    Flow a (b.act a (.send avps now)) := by
  rw [Side.act]
  cases hsend : b.peer.send avps now with
  | error e => exact h
  | ok r =>
    obtain ⟨msg, peer⟩ := r
    obtain ⟨-, rfl, encoded, henc, rfl⟩ := Peer.send_eq_ok.mp hsend
    refine h.of_receiver (by simpa using h.nrExpect) (by simpa using h.count_le)
      (by simpa using h.got) (by simpa using h.buffers) ?_
    refine Side.forall_mem_out_emit (by simpa using h.acks) fun bs hdec => ?_
    rw [Side.emit_count]
    exact acks_stamped hdec h.nrExpect

/-- A tick of `b` sends older messages again, with the current acknowledgement. -/
theorem receiver_tick (h : Flow a b) (now : ℚ) : Flow a (b.act a (.tick now)) := by
  rw [Side.act]
  rcases Peer.tick_cases b.peer now with ⟨-, htick⟩ | ⟨-, queue, result, hloop, hres⟩
  · rw [htick]
    exact h.of_receiver h.nrExpect h.count_le h.got h.buffers (by simpa using h.acks)
  · rcases hres with ⟨resend, dead, rfl, htick⟩ | ⟨e, rfl, htick⟩
    · rw [htick]
      refine h.of_receiver h.nrExpect h.count_le h.got h.buffers ?_
      intro d hd
      rcases List.mem_append.mp hd with hd | hd
      · exact h.acks d hd
      -- the datagram was encoded with the Nr of now
      · obtain ⟨⟨bs, i⟩, hmem, rfl⟩ := List.mem_map.mp hd
        obtain ⟨j, pending, -, -, henc⟩ := Peer.tickLoop_resend _ hloop bs i hmem
        exact acks_stamped (ControlMessage.decode_of_encode henc) h.nrExpect
    · rw [htick]
      exact h.of_receiver h.nrExpect h.count_le h.got h.buffers h.acks

/-- A message that delivers nothing leaves the receiver where it is, up to what it buffers. -/
theorem receiver_process_quiet (h : Flow a b) {msg : ControlMessage} {peer : Peer}
    {responses : List ControlMessage} (hrecv : b.peer.receive msg = (([], responses), peer))
    (hin : b.peer.inOrder msg = false) (hnr : peer.nrExpect = b.peer.nrExpect)
    (hbuf : Peer.Buffers peer.reorder a.sent (b.count + 1))
    (hresp : ∀ m ∈ responses, m.nr = peer.nrExpect) : Flow a (b.process msg) := by
  have hdel : b.peer.deliverable msg = [] := by simp [Peer.deliverable, hin]
  rw [Side.process, hrecv, hdel]
  refine h.of_receiver ?_ ?_ ?_ ?_ ?_
  · simpa [hnr] using h.nrExpect
  · simpa using h.count_le
  · simpa using h.got
  · simpa using hbuf
  -- the answers carry the number of deliveries as it was before
  · refine Side.forall_mem_out_emitAll (by simpa using h.acks) fun m hm bs hdec => ?_
    simp only [Side.emitAll_count, List.length_nil, Nat.add_zero]
    exact acks_stamped hdec (by rw [hresp m hm, hnr]; exact h.nrExpect)

/-- **Delivery.** The message that is expected, at position `b.count`, is delivered together
with the buffered ones behind it: the next messages of `a`, without a gap. -/
theorem receiver_process_inOrder (h : Flow a b) {msg : ControlMessage}
    (hin : b.peer.inOrder msg = true) (hmsg : a.sent[b.count]? = some msg.avps) :
    Flow a (b.process msg) := by
  have hlt : b.count < a.sent.length := (List.getElem?_eq_some_iff.mp hmsg).1
  rcases Peer.receive_cases b.peer msg with ⟨hacc, -⟩ | ⟨-, q, rfl, ⟨hz, -⟩ |
      ⟨-, popped, nr, reorder, hdrain, hrecv⟩ | ⟨-, hneg, -⟩ | ⟨-, hpos, -, -⟩ | ⟨-, hpos, -, -⟩⟩
  · simp [Peer.inOrder, hacc] at hin
  · simp [Peer.inOrder, hz] at hin
  -- the delta is 0: the only branch of `receive` that delivers
  · have hdel : b.peer.deliverable msg = msg :: popped := by
      simp [Peer.deliverable, hin, hdrain]
    rw [h.nrExpect, Peer.seqAdvance_counter,
      show (b.count : Int) + 1 = ((b.count + 1 : Nat) : Int) from by simp] at hdrain
    obtain ⟨hpop, hle, hnr, hbuf⟩ :=
      Peer.drain_spec _ (b.count + 1) _ h.buffers (le_refl _) hlt hdrain
    have hcount : b.count + (msg :: popped).length = b.count + 1 + popped.length := by
      rw [List.length_cons]; omega
    have hflat : popped.flatMap (·.avps) = (popped.map (·.avps)).flatten := List.flatMap_def ..
    rw [Side.process, hrecv, hdel]
    refine h.of_receiver ?_ ?_ ?_ ?_ ?_
    · simp only [Side.emitAll_peer, Side.emitAll_count, hcount]; exact hnr
    · simp only [Side.emitAll_count, hcount]; exact hle
    · -- the batch is the segment of `a.sent` from the old count to the new one
      have hseg : a.sent.take (b.count + 1 + popped.length)
          = a.sent.take b.count ++ [msg.avps] ++ popped.map (·.avps) := by
        rw [List.take_add, hpop, List.take_add_one, hmsg]
        rfl
      simp only [Side.emitAll_got, Side.emitAll_count, hcount, hseg, List.flatten_append, h.got,
        hflat, List.flatten_singleton, List.append_assoc]
    · simp only [Side.emitAll_peer, Side.emitAll_count, hcount]; exact hbuf
    · refine Side.forall_mem_out_emitAll ?_ ?_
      -- an old datagram acknowledges no more than before
      · intro d hd
        obtain ⟨hcle, hack⟩ := h.acks d hd
        exact ⟨by simp; omega, hack⟩
      -- the ZLB of this call is built after the drain, with the new `nr_expect`
      · intro m hm bs hdec
        rw [Side.emitAll_count]
        rw [List.mem_singleton.mp hm] at hdec
        refine acks_stamped hdec ?_
        simp only [Peer.ackOnly, hcount]
        exact hnr
  · simp [Peer.inOrder] at hin; omega
  · simp [Peer.inOrder] at hin; omega
  · simp [Peer.inOrder] at hin; omega

/-- Processing a ZLB, or a message of `a` whose position is near the count. -/
theorem receiver_process (h : Flow a b) {msg : ControlMessage}
    (hmsg : msg.avps = [] ∨ ∃ i : Nat, msg.ns = (i : Int) % 0x10000 ∧
      a.sent[i]? = some msg.avps ∧ i < b.count + 0x8000 ∧ b.count < i + 0x8000) :
    Flow a (b.process msg) := by
  rcases Peer.receive_cases b.peer msg with ⟨hacc, hrecv⟩ | ⟨-, q, rfl, ⟨hz, hrecv⟩ |
      ⟨hin, -⟩ | ⟨hz, hneg, hrecv⟩ | ⟨hz, hpos, -, hrecv⟩ | ⟨-, hpos, -, hrecv⟩⟩
  · exact h.receiver_process_quiet hrecv (by simp [Peer.inOrder, hacc]) rfl h.buffers (by simp)
  · exact h.receiver_process_quiet hrecv (by simp [Peer.inOrder, hz]) rfl h.buffers (by simp)
  · rcases hmsg with hnil | ⟨i, hns, hsent, hhi, hlo⟩
    · simp [Peer.inOrder, ControlMessage.isZlb, hnil] at hin
    · have hzero : seqDelta msg.ns b.peer.nrExpect = 0 := by
        simp only [Peer.inOrder, Bool.and_eq_true, beq_iff_eq] at hin
        exact hin.2
      rw [hns, h.nrExpect, Peer.seqDelta_counter (by omega) (by omega)] at hzero
      -- so near the count, a delta of 0 leaves no other position
      have hi : i = b.count := by omega
      exact h.receiver_process_inOrder hin (hi ▸ hsent)
  · exact h.receiver_process_quiet hrecv (by simp [Peer.inOrder]; omega) rfl h.buffers
      (by simp [Peer.ackOnly])
  · rcases hmsg with hnil | ⟨i, hns, hsent, hhi, hlo⟩
    · simp [ControlMessage.isZlb, hnil] at hz
    -- buffered: the delta is the true distance, so the position lies behind the expected one
    · refine h.receiver_process_quiet hrecv (by simp [Peer.inOrder]; omega) rfl ?_ (by simp)
      rw [hns, h.nrExpect, Peer.seqDelta_counter (by omega) (by omega)] at hpos
      intro ns m hget
      rw [Dict.get?_set] at hget
      split at hget
      · rename_i heq
        cases hget
        exact ⟨i, by omega, by omega, heq ▸ hns, hsent⟩
      · exact h.buffers ns m hget
  · exact h.receiver_process_quiet hrecv (by simp [Peer.inOrder]; omega) rfl h.buffers (by simp)

/-- **The receiver's steps.** Whatever `b` does, the direction from `a` to `b` is kept, as
long as the datagrams it processes hold messages near its count. -/
theorem receiver_step (h : Flow a b) (e : Side.Event) (hnear : b.Near a e) :
    Flow a (b.act a e) := by
  cases e with
  | send avps now => exact h.receiver_send avps now
  | tick now => exact h.receiver_tick now
  | ackOnly =>
    rw [Side.act]
    refine h.of_receiver (by simpa using h.nrExpect) (by simpa using h.count_le)
      (by simpa using h.got) (by simpa using h.buffers) ?_
    refine Side.forall_mem_out_emit (by simpa using h.acks) fun bs hdec => ?_
    rw [Side.emit_count]
    exact acks_stamped hdec h.nrExpect
  | setRemoteCcid ccid => exact h.of_receiver h.nrExpect h.count_le h.got h.buffers h.acks
  -- what the datagram carries lies near the count, by the bound
  | receive n =>
    rw [Side.act]
    cases hd : a.out[n]? with
    | none => exact h
    | some d =>
      obtain ⟨msg, hdec, hpos⟩ := h.carries d (List.mem_of_getElem? hd)
      simp only [hdec]
      refine h.receiver_process ?_
      cases hp : d.pos with
      | none => rw [hp] at hpos; exact .inl hpos
      | some i =>
        rw [hp] at hpos
        obtain ⟨hhi, hlo⟩ := hnear d hd i hp
        exact .inr ⟨i, hpos.1, hpos.2, hhi, hlo⟩

/-! ## Acknowledgements

The other direction carries the acknowledgements. A side takes from its queue only what the number
of deliveries of the other side covers. -/

/-- What a step of `a` does to the channel from `a`: it hands one message to it, or it learns
of `n` deliveries, which the receiver has made if the ack is near. -/
theorem sender_effect (h : Flow a b) (e : Side.Event) :
    (∃ avps, (a.act b e).sent = a.sent ++ [avps] ∧ (a.act b e).base = a.base) ∨
    ((a.act b e).sent = a.sent ∧ ∃ n, (a.act b e).base = a.base + n ∧
      (a.AckNear b e → n = 0 ∨ a.base + n ≤ b.count)) := by
  have hlen := h.queue_le
  cases e with
  | send avps now =>
    rw [Side.act]
    cases hsend : a.peer.send avps now with
    | error e => exact .inr ⟨rfl, 0, rfl, fun _ => .inl rfl⟩
    | ok r =>
      obtain ⟨msg, peer⟩ := r
      obtain ⟨-, rfl, encoded, henc, rfl⟩ := Peer.send_eq_ok.mp hsend
      exact .inl ⟨avps, by simp, by simp [Side.base]⟩
  | tick now =>
    refine .inr ?_
    rw [Side.act]
    rcases Peer.tick_cases a.peer now with ⟨-, htick⟩ | ⟨-, queue, result, hloop, hres⟩
    · rw [htick]; exact ⟨rfl, 0, rfl, fun _ => .inl rfl⟩
    · obtain ⟨hq, -⟩ := h.sender_tick_queue hloop
      rcases hres with ⟨resend, dead, rfl, htick⟩ | ⟨e, rfl, htick⟩ <;>
        rw [htick] <;> exact ⟨rfl, 0, by simp [Side.base, hq], fun _ => .inl rfl⟩
  | ackOnly => exact .inr ⟨by simp [Side.act], 0, by simp [Side.act, Side.base], fun _ => .inl rfl⟩
  | setRemoteCcid ccid => exact .inr ⟨rfl, 0, rfl, fun _ => .inl rfl⟩
  | receive n =>
    refine .inr ?_
    rw [Side.act]
    cases hd : b.out[n]? with
    | none => exact ⟨rfl, 0, rfl, fun _ => .inl rfl⟩
    | some d =>
      obtain ⟨hcle, msg, hdec, hnr⟩ := h.acks d (List.mem_of_getElem? hd)
      simp only [hdec]
      obtain ⟨-, hqueue, -⟩ := receive_sender a.peer msg
      rcases hqueue with hq | hq
      · exact ⟨by simp [Side.process], 0, by simp [Side.process, Side.base, hq],
          fun _ => .inl rfl⟩
      -- `a` accepts the datagram, which acknowledges as many messages as its emitter had delivered
      · obtain ⟨k, hk, hdrop, hbound⟩ := Peer.consumeAcks_bound d.count h.queued
        rw [hnr, hdrop] at hq
        refine ⟨by simp [Side.process], k, ?_, fun hnear => ?_⟩
        · simp only [Side.process, Side.base, Side.emitAll_peer, Side.emitAll_sent, hq,
            List.length_drop]
          omega
        · rcases Nat.eq_zero_or_pos k with hk0 | hkpos
          · exact .inl hk0
          · have hne : a.peer.sendQueue ≠ [] := by
              intro hnil
              rw [hnil, List.length_nil] at hk
              omega
            obtain ⟨hhi, hlo⟩ := hnear d hd hne
            rcases hbound hlo hhi with hk0 | hle
            · exact .inl hk0
            · exact .inr (hle.trans hcle)

/-- What a step of `b` does to the channel from `a`: it delivers `n` messages. -/
theorem receiver_effect (b a : Side) (e : Side.Event) : ∃ n, (b.act a e).count = b.count + n := by
  cases e with
  | send avps now =>
    rw [Side.act]
    cases b.peer.send avps now with
    | error e => exact ⟨0, rfl⟩
    | ok r => exact ⟨0, by simp⟩
  | tick now =>
    rw [Side.act]
    rcases b.peer.tick now with ⟨_ | ⟨_, _⟩, _⟩ <;> exact ⟨0, rfl⟩
  | ackOnly => exact ⟨0, by simp [Side.act]⟩
  | setRemoteCcid ccid => exact ⟨0, rfl⟩
  -- only a datagram can deliver
  | receive n =>
    rw [Side.act]
    cases a.out[n]? with
    | none => exact ⟨0, rfl⟩
    | some d =>
      cases hdec : ControlMessage.decode d.bytes with
      | error e => exact ⟨0, by simp [hdec]⟩
      | ok msg => exact ⟨(b.peer.deliverable msg).length, by simp [hdec, Side.process]⟩

/-- The queue is the part of the history from the oldest unacknowledged message on. -/
theorem queue_eq_drop (h : Flow a b) :
    a.peer.sendQueue.map (fun pending => pending.msg.avps) = a.sent.drop a.base := by
  refine List.ext_getElem? fun j => ?_
  rw [List.getElem?_map, List.getElem?_drop]
  cases hj : a.peer.sendQueue[j]? with
  | some pending => rw [(h.queued j pending hj).2]; rfl
  | none =>
    have hlen := h.base_add_length
    have hj' : a.peer.sendQueue.length ≤ j := List.getElem?_eq_none_iff.mp hj
    rw [List.getElem?_eq_none_iff.mpr (by omega)]
    rfl

end Flow

/-! ## The link

A step of the link is a step of one of its sides, on the datagrams of the other. The bounds are
those under which remainders modulo 2^16 are told apart. -/

/-- Two sides joined by a network. -/
structure Link where
  a : Side
  b : Side

namespace Link

/-- An event happens at one of the two sides. -/
inductive Event where
  | atA (e : Side.Event)
  | atB (e : Side.Event)

/-- One step of the link: the datagrams of the other side are there to be processed. -/
def step (l : Link) : Event → Link
  | .atA e => { l with a := l.a.act l.b e }
  | .atB e => { l with b := l.b.act l.a e }

/-- Two peers just constructed, with the constructor arguments of `p` and `q`. -/
def init (p q : Peer) : Link := ⟨{ peer := p.renew }, { peer := q.renew }⟩

/-- Each datagram of `a` that `b` processes holds a message near the number delivered. -/
def Bounded (l : Link) : Event → Prop
  | .atA _ => True
  | .atB e => l.b.Near l.a e

/-- Moreover each datagram of `b` that `a` processes was emitted with a number delivered near
the oldest message in `a`'s queue. -/
def AckBounded (l : Link) : Event → Prop
  | .atA e => l.a.AckNear l.b e
  | .atB e => l.b.Near l.a e

instance (l : Link) : (e : Event) → Decidable (l.Bounded e)
  | .atA _ => instDecidableTrue
  | .atB e => inferInstanceAs (Decidable (l.b.Near l.a e))

instance (l : Link) : (e : Event) → Decidable (l.AckBounded e)
  | .atA e => inferInstanceAs (Decidable (l.a.AckNear l.b e))
  | .atB e => inferInstanceAs (Decidable (l.b.Near l.a e))

/-- The direction from `a` to `b` is kept along every run with positions in bounds. -/
theorem flow_of_reach {p q : Peer} {l : Link}
    (h : Transition.Reach step Bounded (init p q) l) : Flow l.a l.b := by
  refine h.invariant (I := fun l => Flow l.a l.b) (Flow.init _ _ rfl rfl rfl rfl) ?_
  intro l e hflow hok
  cases e with
  | atA e => exact hflow.sender_step e
  | atB e => exact hflow.receiver_step e hok

/-- **Reliable in-order exactly-once delivery.** In every run in which the messages that `b`
processes are at positions less than 2^15 away from the number it has delivered, whatever
is lost, duplicated, delayed or reordered: the concatenation of the batches `b.receive`
returned is the concatenation of exactly the first `b.count` messages `a` sent, and
`nr_expect` is that number modulo 2^16. -/
theorem in_order_delivery (p q : Peer) (l : Link)
    (h : Transition.Reach step Bounded (init p q) l) :
    l.b.count ≤ l.a.sent.length ∧
      l.b.got.flatten = (l.a.sent.take l.b.count).flatten ∧
      l.b.peer.nrExpect = (l.b.count : Int) % 0x10000 := by
  have hflow := flow_of_reach h
  exact ⟨hflow.count_le, hflow.got, hflow.nrExpect⟩

/-- Two peers and the run in which `a` sends two messages and `b` processes the second one,
then the first one, then the first one again. -/
def swapped : Link :=
  [.atA (.send [⟨0, [0, 6], true, false, 0⟩] 0), .atA (.send [⟨0, [0, 4], true, false, 0⟩] 0),
    .atB (.receive 1), .atB (.receive 0), .atB (.receive 0)].foldl step
    (init (.init 7 9) (.init 9 7))

/-- Two messages arrive in the wrong order, and one of them twice. -/
theorem in_order_delivery_swapped :
    swapped.b.count = 2 ∧ swapped.b.got.flatten = (swapped.a.sent.take swapped.b.count).flatten :=
  ⟨by decide +kernel,
    (in_order_delivery _ _ swapped (Transition.Reach.run .start (by decide +kernel))).2.1⟩

/-- Both directions of the bound: no message has left `a`'s queue that `b` has not delivered. -/
theorem base_le_count_of_reach {p q : Peer} {l : Link}
    (h : Transition.Reach step AckBounded (init p q) l) :
    Flow l.a l.b ∧ l.a.base ≤ l.b.count := by
  refine h.invariant (I := fun l => Flow l.a l.b ∧ l.a.base ≤ l.b.count)
    ⟨Flow.init _ _ rfl rfl rfl rfl, le_refl _⟩ ?_
  rintro l e ⟨hflow, hle⟩ hok
  cases e with
  -- a step of `a` moves the base up to what the ack says; a step of `b` moves only the count
  | atA e =>
    refine ⟨hflow.sender_step e, ?_⟩
    rcases hflow.sender_effect e with ⟨avps, -, hbase⟩ | ⟨-, n, hbase, hack⟩
    · exact hbase.trans_le hle
    · change (l.a.act l.b e).base ≤ l.b.count
      rcases hack hok with rfl | hn
      · exact hbase.trans_le hle
      · exact hbase.trans_le hn
  | atB e =>
    refine ⟨hflow.receiver_step e hok, ?_⟩
    obtain ⟨n, hcount⟩ := Flow.receiver_effect l.b l.a e
    change l.a.base ≤ (l.b.act l.a e).count
    omega

/-! ## The link is a channel

The history of the sender, the number of deliveries and the front of the queue make a channel. Each
step of the link is a few of its moves, or none. -/

/-- The abstract channel from `a` to `b`. -/
def channel (l : Link) (h : Flow l.a l.b) (hle : l.a.base ≤ l.b.count) :
    AckedChannel (List AVP) :=
  ⟨⟨l.a.sent, l.b.count, h.count_le⟩, l.a.base, hle⟩

/-- **Refinement.** A step of the link within the bounds is a move of the abstract channel,
or leaves it alone. -/
theorem channel_step {l : Link} {e : Event} (h : Flow l.a l.b) (hle : l.a.base ≤ l.b.count)
    (h' : Flow (l.step e).a (l.step e).b) (hle' : (l.step e).a.base ≤ (l.step e).b.count) :
    AckedChannel.Steps (l.channel h hle) ((l.step e).channel h' hle') := by
  cases e with
  | atA e =>
    rcases h.sender_effect e with ⟨avps, hsent, hbase⟩ | ⟨hsent, n, hbase, -⟩
    · refine .single ?_
      rw [show (l.step (.atA e)).channel h' hle'
          = ⟨(l.channel h hle).toChannel.send avps, l.a.base, hle⟩ from
        AckedChannel.ext hsent rfl hbase]
      exact .send (l.channel h hle) avps
    -- the entries that left the queue were delivered before
    · have hn : l.a.base + n ≤ l.b.count := hbase ▸ hle'
      refine .single ?_
      rw [show (l.step (.atA e)).channel h' hle'
          = ⟨(l.channel h hle).toChannel, l.a.base + n, hn⟩ from
        AckedChannel.ext hsent rfl hbase]
      exact .ack (l.channel h hle) n hn
  -- the receiver only delivers
  | atB e =>
    obtain ⟨n, hcount⟩ := Flow.receiver_effect l.b l.a e
    have hn : l.b.count + n ≤ l.a.sent.length := hcount ▸ h'.count_le
    refine .single ?_
    rw [show (l.step (.atB e)).channel h' hle'
        = ⟨(l.channel h hle).toChannel.deliver n hn, l.a.base, Nat.le_add_right_of_le hle⟩ from
      AckedChannel.ext rfl hcount rfl]
    exact .deliver (l.channel h hle) n hn

/-- **A run of the link is a run of the channel.** -/
theorem channel_run {p q : Peer} {l l' : Link}
    (hl : Transition.Reach step AckBounded (init p q) l)
    (h : Transition.Reach step AckBounded l l') :
    ∃ hflow hle hflow' hle', AckedChannel.Steps (l.channel hflow hle) (l'.channel hflow' hle') := by
  obtain ⟨hflow, hle⟩ := base_le_count_of_reach hl
  refine ⟨hflow, hle, ?_⟩
  induction h with
  | start => exact ⟨hflow, hle, .refl⟩
  | next hreach hok ih =>
    obtain ⟨hflow₁, hle₁, hsteps⟩ := ih
    obtain ⟨hflow₂, hle₂⟩ := base_le_count_of_reach ((hl.trans hreach).next hok)
    exact ⟨hflow₂, hle₂, hsteps.trans (channel_step hflow₁ hle₁ hflow₂ hle₂)⟩

/-- Deliveries are never taken back: those of an earlier state of a run are a prefix of those
of a later one. -/
theorem delivered_prefix {p q : Peer} {l l' : Link}
    (hl : Transition.Reach step AckBounded (init p q) l)
    (h : Transition.Reach step AckBounded l l') :
    l.a.sent.take l.b.count <+: l'.a.sent.take l'.b.count := by
  obtain ⟨_, _, _, _, hsteps⟩ := channel_run hl h
  exact hsteps.received_prefix

/-- **No acknowledgement before delivery.** In every run within both bounds, `a`'s queue is
the end of what it sent, from a position that is at most the number `b` has delivered; so
every message `a` sent has been delivered at `b` or is still queued at `a`. -/
theorem no_ack_before_delivery (p q : Peer) (l : Link)
    (h : Transition.Reach step AckBounded (init p q) l) :
    l.a.peer.sendQueue.map (fun pending => pending.msg.avps) = l.a.sent.drop l.a.base ∧
      l.a.base ≤ l.b.count ∧
      l.b.got.flatten = (l.a.sent.take l.b.count).flatten ∧
      ∀ i avps, l.a.sent[i]? = some avps → (l.a.sent.take l.b.count)[i]? = some avps ∨
        ∃ j pending, i = l.a.base + j ∧ l.a.peer.sendQueue[j]? = some pending ∧
          pending.msg.avps = avps := by
  obtain ⟨hflow, hle⟩ := base_le_count_of_reach h
  refine ⟨hflow.queue_eq_drop, hle, hflow.got, fun i avps hi => ?_⟩
  rcases (l.channel hflow hle).received_or_outstanding hi with hgot | ⟨j, hj, hout⟩
  · exact .inl hgot
  · rw [AckedChannel.outstanding, channel, ← hflow.queue_eq_drop, List.getElem?_map,
      Option.map_eq_some_iff] at hout
    obtain ⟨pending, hpending, havps⟩ := hout
    exact .inr ⟨j, pending, hj, hpending, havps⟩

/-- The run `swapped`, then `a` sends a third message and processes `b`'s last ack. -/
def acked : Link :=
  [.atA (.send [⟨0, [0, 6], true, false, 0⟩] 0), .atA (.send [⟨0, [0, 4], true, false, 0⟩] 0),
    .atB (.receive 1), .atB (.receive 0), .atA (.send [⟨0, [0, 6], true, false, 0⟩] 1),
    .atA (.receive 0)].foldl step (init (.init 7 9) (.init 9 7))

/-- Two of three messages are acknowledged, and both were delivered. -/
theorem no_ack_before_delivery_acked :
    acked.a.base = 2 ∧ acked.a.sent.length = 3 ∧ acked.a.base ≤ acked.b.count :=
  ⟨by decide +kernel, by decide +kernel,
    (no_ack_before_delivery _ _ acked (Transition.Reach.run .start (by decide +kernel))).2.1⟩

end Link

end L2tpv3d
