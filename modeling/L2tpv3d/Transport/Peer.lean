import L2tpv3d.Wire.Messages
import L2tpv3d.Py.Dict
import L2tpv3d.Lib.Serial
import Mathlib.Data.Rat.Defs
import Mathlib.Algebra.Order.Ring.Rat

/-!
# L2tpv3d — the reliable-delivery state machine (`transport.py`, class `Peer`)

`Peer` keeps the Ns/Nr counters, the retransmit queue and the reorder buffer of one remote
end. The clock readings are rationals. `receive` never raises, so it returns the new peer;
`send` raises before it changes anything; `tick` may raise in the middle of the queue, so it
returns the peer in both cases.

* `drain` is the `while self._nr_expect in self._reorder` loop. It is given as many rounds as
  the buffer has entries, which is enough (`drain_done` in `Transport/Window.lean`).
* `deliverable` names the messages whose AVPs a call of `receive` returns
  (`receive_delivered`): the source returns them flattened.
* `send_eq_ok`, `tickLoop_content`, `tickLoop_resend`, `consumeAcks_suffix` — one
  specification per operation, for the proofs about runs.
-/

namespace L2tpv3d

open Py

/-- Cap on the exponential back-off of the retransmit interval. -/
def retransmitMaxInterval : ℚ := 16

/-- `_PendingSend`: one in-flight (or awaiting-retransmit) outbound message. -/
structure PendingSend where
  msg : ControlMessage
  encoded : Bytes
  sentAt : ℚ
  retries : Int := 0
  nextRto : ℚ := 1
  deriving DecidableEq

/-- One round of the `tick` loop on an expired entry that has retries left: the entry with
its timer and Nr refreshed, not yet re-encoded. -/
def PendingSend.refresh (pending : PendingSend) (now : ℚ) (nrExpect : Int) : PendingSend :=
  { pending with
    retries := pending.retries + 1
    nextRto := min (pending.nextRto * 2) retransmitMaxInterval
    sentAt := now
    msg := { pending.msg with nr := nrExpect } }

/-- What a retransmission never changes of a queued message: its address, number and AVPs. -/
def PendingSend.content (pending : PendingSend) : Int × Int × List AVP :=
  (pending.msg.controlConnectionId, pending.msg.ns, pending.msg.avps)

/-- `Peer`: per-remote reliable-delivery state. The remote address, which the state machine
never reads, is left out. -/
structure Peer where
  localCcid : Int
  remoteCcid : Int
  receiveWindow : Int
  retransmitInterval : ℚ
  maxRetries : Int
  nsSend : Int
  nrExpect : Int
  sendQueue : List PendingSend
  reorder : Dict Int ControlMessage
  dead : Bool
  deriving DecidableEq

namespace Peer

/-- `Peer.__init__` -/
def init (localCcid : Int) (remoteCcid : Int := 0) (receiveWindow : Int := 4)
    (retransmitInterval : ℚ := 1) (maxRetries : Int := 5) : Peer where
  localCcid := localCcid
  remoteCcid := remoteCcid
  receiveWindow := receiveWindow
  retransmitInterval := retransmitInterval
  maxRetries := maxRetries
  nsSend := 0
  nrExpect := 0
  sendQueue := []
  reorder := .empty
  dead := false

/-- The peer that a new call of the constructor with the same arguments returns. -/
def renew (p : Peer) : Peer :=
  init p.localCcid p.remoteCcid p.receiveWindow p.retransmitInterval p.maxRetries

/-- `set_remote_ccid` -/
def setRemoteCcid (p : Peer) (ccid : Int) : Peer := { p with remoteCcid := ccid }

/-- `send`: the message to transmit, which is also queued for retransmission. -/
def send (p : Peer) (avps : List AVP) (now : ℚ) : Except Exn (ControlMessage × Peer) := do
  raiseIf (avps = []) (.valueError "empty avps — use ack_only() to build a ZLB")
  let msg : ControlMessage := ⟨p.remoteCcid, p.nsSend, p.nrExpect, avps⟩
  let encoded ← msg.encode
  let pending : PendingSend := ⟨msg, encoded, now, 0, p.retransmitInterval⟩
  return (msg, { p with
    sendQueue := p.sendQueue ++ [pending]
    nsSend := seqAdvance p.nsSend })

/-- `ack_only`: a ZLB carrying the current Ns, which is not consumed. -/
def ackOnly (p : Peer) : ControlMessage := ⟨p.remoteCcid, p.nsSend, p.nrExpect, []⟩

/-- `_consume_acks` on the queue: drop from the head while the Ns is behind `peerNr`. -/
def consumeAcks (peerNr : Int) : List PendingSend → List PendingSend
  | [] => []
  | head :: rest => if seqDelta peerNr head.msg.ns > 0 then consumeAcks peerNr rest else head :: rest

/-- The loop that drains the reorder buffer, for at most `fuel` rounds: the messages popped,
the next expected Ns and the buffer left. -/
def drain : Nat → Int → Dict Int ControlMessage →
    List ControlMessage × Int × Dict Int ControlMessage
  | 0, nrExpect, reorder => ([], nrExpect, reorder)
  | fuel + 1, nrExpect, reorder =>
    match reorder.get? nrExpect with
    | none => ([], nrExpect, reorder)
    | some queued =>
      let (popped, nrExpect', reorder') := drain fuel (seqAdvance nrExpect) (reorder.erase nrExpect)
      (queued :: popped, nrExpect', reorder')

/-- `receive`: the AVPs that became deliverable, the messages to send in response, and the
peer after it. -/
def receive (p : Peer) (msg : ControlMessage) : (List AVP × List ControlMessage) × Peer :=
  -- 0 is the SCCRQ of a peer that has not learned our CCID yet
  if msg.controlConnectionId ≠ 0 ∧ msg.controlConnectionId ≠ p.localCcid then (([], []), p)
  else
    -- the piggy-backed ack is consumed before the Ns is looked at
    let p := { p with sendQueue := consumeAcks msg.nr p.sendQueue }
    let delta := seqDelta msg.ns p.nrExpect
    if msg.isZlb then (([], []), p)
    else if delta = 0 then
      let (popped, nrExpect, reorder) := drain p.reorder.size (seqAdvance p.nrExpect) p.reorder
      let p := { p with nrExpect := nrExpect, reorder := reorder }
      ((msg.avps ++ popped.flatMap (·.avps), [p.ackOnly]), p)
    -- a duplicate: the earlier ack was lost, so it is repeated
    else if delta < 0 then (([], [p.ackOnly]), p)
    else if 0 < delta ∧ delta ≤ p.receiveWindow then
      (([], []), { p with reorder := p.reorder.set msg.ns msg })
    -- outside the window: dropped without an answer
    else (([], []), p)

/-- The loop of `tick`: the queue as it leaves it, and the datagrams to resend with whether
the peer is dead (or the exception of the encoder). -/
def tickLoop (now : ℚ) (nrExpect maxRetries : Int) :
    List PendingSend → List PendingSend × Except Exn (List Bytes × Bool)
  | [] => ([], .ok ([], false))
  | pending :: rest =>
    -- a timer that still runs: `continue`
    if now - pending.sentAt < pending.nextRto then
      let (rest', result) := tickLoop now nrExpect maxRetries rest
      (pending :: rest', result)
    else if pending.retries + 1 > maxRetries then
      -- the return inside the loop: what was already re-encoded is not resent, and the entries
      -- behind are not looked at
      ({ pending with retries := pending.retries + 1 } :: rest, .ok ([], true))
    else
      -- the entry is updated in place before the encoder is called, so it stays so when it raises
      let pending := pending.refresh now nrExpect
      match pending.msg.encode with
      | .error e => (pending :: rest, .error e)
      | .ok encoded =>
        let (rest', result) := tickLoop now nrExpect maxRetries rest
        ({ pending with encoded := encoded } :: rest',
          result.map fun (resend, dead) => if dead then ([], true) else (encoded :: resend, false))

/-- `tick`: the datagrams to resend, and whether the peer is dead. -/
def tick (p : Peer) (now : ℚ) : Except Exn (List Bytes × Bool) × Peer :=
  if p.dead then (.ok ([], true), p)
  else
    match tickLoop now p.nrExpect p.maxRetries p.sendQueue with
    | (queue, .ok (resend, dead)) => (.ok (resend, dead), { p with sendQueue := queue, dead := dead })
    | (queue, .error e) => (.error e, { p with sendQueue := queue })

/-! ## What a call of `receive` delivers

A message is delivered when it is the one expected, and with it all those behind it that wait in the
reorder buffer. `receive_cases` is the specification of the method, used wherever a message comes
in. -/

/-- The peer takes the message for itself: it is addressed to it or to nobody yet. -/
def accepts (p : Peer) (msg : ControlMessage) : Bool :=
  msg.controlConnectionId == 0 || msg.controlConnectionId == p.localCcid

/-- The message is accepted, carries a body, and is the one expected next. -/
def inOrder (p : Peer) (msg : ControlMessage) : Bool :=
  p.accepts msg && !msg.isZlb && seqDelta msg.ns p.nrExpect == 0

/-- The messages that a call of `receive` delivers. -/
def deliverable (p : Peer) (msg : ControlMessage) : List ControlMessage :=
  if p.inOrder msg then msg :: (drain p.reorder.size (seqAdvance p.nrExpect) p.reorder).1 else []

/-- A message is accepted unless the guard of `receive` refuses it. -/
theorem accepts_iff {p : Peer} {msg : ControlMessage} : p.accepts msg = true ↔
    ¬ (msg.controlConnectionId ≠ 0 ∧ msg.controlConnectionId ≠ p.localCcid) := by
  simp only [accepts, Bool.or_eq_true, beq_iff_eq]
  tauto

/-- **Everything a call of `receive` can do**: refuse the message, take it as an ack, deliver
it with what was waiting behind it, re-ack it, buffer it, or drop it. -/
theorem receive_cases (p : Peer) (msg : ControlMessage) :
    (p.accepts msg = false ∧ p.receive msg = (([], []), p)) ∨
    (p.accepts msg = true ∧ ∃ q, q = { p with sendQueue := consumeAcks msg.nr p.sendQueue } ∧
      ((msg.isZlb = true ∧ p.receive msg = (([], []), q)) ∨
      (p.inOrder msg = true ∧ ∃ popped nr reorder,
        drain p.reorder.size (seqAdvance p.nrExpect) p.reorder = (popped, nr, reorder) ∧
        p.receive msg = ((msg.avps ++ popped.flatMap (·.avps),
          [ackOnly { q with nrExpect := nr, reorder := reorder }]),
          { q with nrExpect := nr, reorder := reorder })) ∨
      (msg.isZlb = false ∧ seqDelta msg.ns p.nrExpect < 0 ∧
        p.receive msg = (([], [q.ackOnly]), q)) ∨
      (msg.isZlb = false ∧ 0 < seqDelta msg.ns p.nrExpect ∧
        seqDelta msg.ns p.nrExpect ≤ p.receiveWindow ∧
        p.receive msg = (([], []), { q with reorder := q.reorder.set msg.ns msg })) ∨
      (msg.isZlb = false ∧ 0 < seqDelta msg.ns p.nrExpect ∧
        p.receiveWindow < seqDelta msg.ns p.nrExpect ∧ p.receive msg = (([], []), q)))) := by
  unfold receive
  split
  · rename_i hacc
    refine .inl ⟨?_, rfl⟩
    rw [Bool.eq_false_iff]
    exact fun h => accepts_iff.mp h hacc
  · rename_i hacc
    have hacc' := accepts_iff.mpr hacc
    refine .inr ⟨hacc', _, rfl, ?_⟩
    -- an accepted message is an ack first; a ZLB is nothing else
    cases hz : msg.isZlb with
    | true => simp
    | false =>
      simp only [Bool.false_eq_true, if_false]
      split
      -- the three tests of the distance from the expected Ns: there, behind, ahead
      · rename_i hdelta
        refine .inr (.inl ⟨?_, _, _, _, rfl, rfl⟩)
        simp [inOrder, hacc', hz, hdelta]
      · split
        · rename_i hneg
          exact .inr (.inr (.inl ⟨trivial, hneg, rfl⟩))
        · split
          · rename_i hwin
            exact .inr (.inr (.inr (.inl ⟨trivial, hwin.1, hwin.2, rfl⟩)))
          · exact .inr (.inr (.inr (.inr ⟨trivial, by omega, by omega, rfl⟩)))

/-- The source returns the delivered messages' AVPs flattened into one list. -/
theorem receive_delivered (p : Peer) (msg : ControlMessage) :
    (p.receive msg).1.1 = (p.deliverable msg).flatMap (·.avps) := by
  rcases receive_cases p msg with ⟨hacc, h⟩ | ⟨hacc, q, -, ⟨hz, h⟩ | ⟨hin, popped, nr, reorder, hd, h⟩ |
      ⟨hz, hneg, h⟩ | ⟨hz, hpos, -, h⟩ | ⟨hz, hpos, -, h⟩⟩
  · simp [h, deliverable, inOrder, hacc]
  · simp [h, deliverable, inOrder, hz]
  · simp [h, deliverable, hin, hd]
  -- behind, within the window and beyond it: not the expected message, so nothing is delivered
  · rw [h, deliverable, if_neg (by simp [inOrder]; omega)]
    rfl
  · rw [h, deliverable, if_neg (by simp [inOrder]; omega)]
    rfl
  · rw [h, deliverable, if_neg (by simp [inOrder]; omega)]
    rfl

/-! ## Sequence numbers of unbounded counters

A history is numbered without bound, the wire carries remainders modulo 2^16. The distance the code
computes is the true one for positions less than 2^15 apart. -/

/-- The code's signed distance is the one of the library, with wrap at 2^16. -/
theorem seqDelta_eq (a b : Int) : seqDelta a b = Serial.delta 0x8000 a b := rfl

/-- Counters less than 2^15 apart are told apart by their 16-bit numbers. -/
theorem seqDelta_counter {x y : Int} (hlo : -0x8000 ≤ x - y) (hhi : x - y < 0x8000) :
    seqDelta (x % 0x10000) (y % 0x10000) = x - y :=
  Serial.delta_emod (h := 0x8000) hlo hhi

/-- A counter at most 2^15 ahead is reported as ahead only if it is. -/
theorem lt_of_seqDelta_pos {x y : Int} (hlo : -0x8000 ≤ x - y) (hhi : x - y ≤ 0x8000)
    (h : 0 < seqDelta (x % 0x10000) (y % 0x10000)) : y < x := by
  rcases lt_or_eq_of_le hhi with hlt | heq
  · rw [seqDelta_counter hlo hlt] at h; omega
  · rw [seqDelta_eq, show (0x10000 : Int) = 2 * 0x8000 from rfl,
      Serial.delta_emod_half (by decide) heq] at h
    omega

/-- Advancing a remainder is the remainder of the next number. -/
theorem seqAdvance_counter (x : Int) : seqAdvance (x % 0x10000) = (x + 1) % 0x10000 := by
  unfold seqAdvance; omega

theorem seqAdvance_range (nr : Int) : 0 ≤ seqAdvance nr ∧ seqAdvance nr ≤ 0xFFFF := by
  unfold seqAdvance
  omega

/-- The loop counts in 16-bit numbers, whatever the buffer holds. -/
theorem drain_range (fuel : Nat) {nr : Int} {reorder : Dict Int ControlMessage}
    (hnr : 0 ≤ nr ∧ nr ≤ 0xFFFF) {popped : List ControlMessage} {nr' : Int}
    {reorder' : Dict Int ControlMessage}
    (hd : drain fuel nr reorder = (popped, nr', reorder')) : 0 ≤ nr' ∧ nr' ≤ 0xFFFF := by
  induction fuel generalizing nr reorder popped with
  | zero => cases hd; exact hnr
  | succ fuel ih =>
    rw [drain] at hd
    -- the loop stops at the first number that is missing
    cases hget : reorder.get? nr with
    | none =>
      rw [hget] at hd
      cases hd
      exact hnr
    | some queued =>
      simp only [hget] at hd
      rcases hrest : drain fuel (seqAdvance nr) (reorder.erase nr) with ⟨popped₁, nr₁, reorder₁⟩
      rw [hrest] at hd
      cases hd
      exact ih (seqAdvance_range nr) hrest

/-! ## The reorder buffer against a history

Each entry of the buffer is a message of the history, under the remainder of its position. Draining
takes them out in their order, up to the first gap. -/

/-- Every buffered message is one of `hist`, at a position from `lo` on that its key is the
16-bit number of. -/
def Buffers (reorder : Dict Int ControlMessage) (hist : List (List AVP)) (lo : Nat) : Prop :=
  ∀ ns msg, reorder.get? ns = some msg → ∃ i : Nat, lo ≤ i ∧ i < lo + 0x10000 ∧
    ns = (i : Int) % 0x10000 ∧ hist[i]? = some msg.avps

/-- **The drain loop.** From a buffer of messages at positions from `lo` on, it pops the
messages at `lo`, `lo + 1`, … up to the first gap, and stops there. Induction on the rounds;
each one pops an entry, so as many rounds as there are entries suffice. -/
theorem drain_spec {hist : List (List AVP)} (fuel lo : Nat) (reorder : Dict Int ControlMessage)
    (hbuf : Buffers reorder hist lo) (hfuel : reorder.size ≤ fuel) (hlo : lo ≤ hist.length)
    {popped : List ControlMessage} {nr : Int} {reorder' : Dict Int ControlMessage}
    (h : drain fuel ((lo : Int) % 0x10000) reorder = (popped, nr, reorder')) :
    popped.map (·.avps) = (hist.drop lo).take popped.length ∧ lo + popped.length ≤ hist.length ∧
      nr = ((lo + popped.length : Nat) : Int) % 0x10000 ∧
      Buffers reorder' hist (lo + popped.length + 1) := by
  induction fuel generalizing lo reorder popped with
  | zero =>
    have hnone : ∀ k, reorder.get? k = none := by
      intro k
      have hnil : reorder.items = [] := List.length_eq_zero_iff.mp (by simpa [Dict.size] using hfuel)
      rw [Dict.get?, hnil]
      rfl
    cases h
    refine ⟨rfl, hlo, rfl, ?_⟩
    intro ns msg hget
    rw [hnone] at hget
    cases hget
  | succ fuel ih =>
    rw [drain] at h
    cases hget : reorder.get? ((lo : Int) % 0x10000) with
    | none =>
      simp only [hget] at h
      cases h
      refine ⟨rfl, hlo, rfl, ?_⟩
      intro ns msg hns
      obtain ⟨i, hi, hlt, rfl, hmsg⟩ := hbuf ns msg hns
      refine ⟨i, ?_, by simp; omega, rfl, hmsg⟩
      -- the position `lo` itself is the gap
      rcases Nat.eq_or_lt_of_le hi with rfl | hlt'
      · rw [hget] at hns; cases hns
      · exact Nat.succ_le_of_lt hlt'
    | some queued =>
      obtain ⟨i, hi, hlt, hns, hmsg⟩ := hbuf _ _ hget
      -- 2^16 consecutive positions have distinct numbers
      have hilo : i = lo := by omega
      subst hilo
      have hin : i < hist.length := (List.getElem?_eq_some_iff.mp hmsg).1
      -- popping the entry at `i` leaves the entries behind it
      have hbuf' : Buffers (reorder.erase ((i : Int) % 0x10000)) hist (i + 1) := by
        intro ns msg hget'
        rw [Dict.get?_erase] at hget'
        split at hget'
        · cases hget'
        · rename_i hne
          obtain ⟨j, hj, hjlt, rfl, hjmsg⟩ := hbuf ns msg hget'
          refine ⟨j, ?_, by omega, rfl, hjmsg⟩
          rcases Nat.eq_or_lt_of_le hj with rfl | hlt'
          · exact absurd rfl hne
          · exact hlt'
      -- one entry less pays for the round
      have hsize : (reorder.erase ((i : Int) % 0x10000)).size ≤ fuel := by
        have := Dict.size_erase_lt (Dict.contains_iff.mpr ⟨queued, hget⟩)
        omega
      simp only [hget, seqAdvance_counter] at h
      rw [show (i : Int) + 1 = ((i + 1 : Nat) : Int) from by simp] at h
      cases hd : drain fuel (((i + 1 : Nat) : Int) % 0x10000) (reorder.erase ((i : Int) % 0x10000))
        with
      | mk popped₁ rest =>
        obtain ⟨nr₁, reorder₁⟩ := rest
        rw [hd] at h
        cases h
        obtain ⟨hpop, hle, hnr, hb⟩ := ih (i + 1) _ hbuf' hsize hin hd
        refine ⟨?_, by simp; omega, by rw [hnr]; simp; omega, ?_⟩
        · rw [List.map_cons, hpop, List.length_cons, List.drop_eq_getElem_cons hin,
            List.take_succ_cons, ← Option.some.inj ((List.getElem?_eq_getElem hin).symm.trans hmsg)]
        · rw [List.length_cons, show i + (popped₁.length + 1) + 1 = i + 1 + popped₁.length + 1 from by
            omega]
          exact hb

/-! ## The send queue against a history

The queue is the end of the history of `send`: acknowledgements take from the front, `send` adds
behind. -/

/-- The queue holds the messages of `hist` from position `base` on, in order, each under its
16-bit number. -/
def Queued (queue : List PendingSend) (hist : List (List AVP)) (base : Nat) : Prop :=
  ∀ (j : Nat) pending, queue[j]? = some pending →
    pending.msg.ns = ((base + j : Nat) : Int) % 0x10000 ∧ hist[base + j]? = some pending.msg.avps

/-- Without its head, the queue starts one position later. -/
theorem Queued.tail {head : PendingSend} {rest : List PendingSend} {hist : List (List AVP)}
    {base : Nat} (h : Queued (head :: rest) hist base) : Queued rest hist (base + 1) := by
  intro j pending hj
  have := h (j + 1) pending (by simpa using hj)
  rwa [show base + (j + 1) = base + 1 + j from by omega] at this

/-- A message appended to the history is queued under the next number. -/
theorem Queued.snoc {queue : List PendingSend} {hist : List (List AVP)} {base : Nat}
    (h : Queued queue hist base) (hbase : base + queue.length = hist.length)
    {pending : PendingSend} (hns : pending.msg.ns = (hist.length : Int) % 0x10000) :
    Queued (queue ++ [pending]) (hist ++ [pending.msg.avps]) base := by
  intro j p hj
  -- an old entry keeps its position; the new one is the last
  rcases Nat.lt_or_ge j queue.length with hlt | hge
  · rw [List.getElem?_append_left hlt] at hj
    obtain ⟨hn, ha⟩ := h j p hj
    exact ⟨hn, by rw [List.getElem?_append_left (by omega), ha]⟩
  · rw [List.getElem?_append_right hge] at hj
    obtain ⟨hj0, rfl⟩ := List.getElem?_eq_some_iff.mp hj
    have hjq : j = queue.length := by simp at hj0; omega
    subst hjq
    rw [hbase]
    simp [hns]

/-- What `send` does when it does not raise. -/
theorem send_eq_ok {p p' : Peer} {avps : List AVP} {now : ℚ} {msg : ControlMessage} :
    p.send avps now = .ok (msg, p') ↔ avps ≠ [] ∧ msg = ⟨p.remoteCcid, p.nsSend, p.nrExpect, avps⟩ ∧
      ∃ encoded, msg.encode = .ok encoded ∧
        p' = { p with
          sendQueue := p.sendQueue ++ [⟨msg, encoded, now, 0, p.retransmitInterval⟩]
          nsSend := seqAdvance p.nsSend } := by
  simp only [send, bind_eq_ok, raiseIf_eq_ok, pure_eq_ok, Except.ok.injEq, Prod.mk.injEq]
  constructor
  · rintro ⟨_, hne, encoded, henc, rfl, rfl⟩
    exact ⟨hne, rfl, encoded, henc, rfl⟩
  · rintro ⟨hne, rfl, encoded, henc, rfl⟩
    exact ⟨(), hne, encoded, henc, rfl, rfl⟩

/-- Acks only ever shorten the queue from its head. -/
theorem consumeAcks_suffix (peerNr : Int) (queue : List PendingSend) :
    ∃ n ≤ queue.length, consumeAcks peerNr queue = queue.drop n := by
  induction queue with
  | nil => exact ⟨0, le_refl _, rfl⟩
  | cons head rest ih =>
    rw [consumeAcks]
    split
    · obtain ⟨n, hn, h⟩ := ih
      exact ⟨n + 1, by simpa using hn, by simpa using h⟩
    · exact ⟨0, Nat.zero_le _, rfl⟩

/-- The queue after a received message: an accepted one shortens it by what it acknowledges. -/
theorem receive_sendQueue (p : Peer) (msg : ControlMessage) : (p.receive msg).2.sendQueue
    = if p.accepts msg then consumeAcks msg.nr p.sendQueue else p.sendQueue := by
  rcases receive_cases p msg with ⟨hacc, hr⟩ | ⟨hacc, q, rfl, ⟨-, hr⟩ | ⟨-, _, _, _, -, hr⟩ |
      ⟨-, -, hr⟩ | ⟨-, -, -, hr⟩ | ⟨-, -, -, hr⟩⟩
  all_goals simp [hr, hacc]

/-- What a received message can touch: it shortens the queue from its head, and moves the expected
number and the buffer. -/
theorem receive_parts (p : Peer) (msg : ControlMessage) :
    ∃ n ≤ p.sendQueue.length, ∃ nr reorder,
      (0 ≤ p.nrExpect ∧ p.nrExpect ≤ 0xFFFF → 0 ≤ nr ∧ nr ≤ 0xFFFF) ∧
      (p.receive msg).2 = { p with
        sendQueue := p.sendQueue.drop n, nrExpect := nr, reorder := reorder } := by
  rcases receive_cases p msg with ⟨-, hr⟩ | ⟨-, q, rfl, hr⟩
  · exact ⟨0, Nat.zero_le _, p.nrExpect, p.reorder, id, by rw [hr]; rfl⟩
  · obtain ⟨n, hn, hdrop⟩ := consumeAcks_suffix msg.nr p.sendQueue
    rw [hdrop] at hr
    -- ZLB, in order, behind, buffered, too far ahead
    rcases hr with ⟨-, hr⟩ | ⟨-, popped, nr, reorder, hd, hr⟩ | ⟨-, -, hr⟩ | ⟨-, -, -, hr⟩ |
        ⟨-, -, -, hr⟩
    · exact ⟨n, hn, p.nrExpect, p.reorder, id, by rw [hr]⟩
    · exact ⟨n, hn, nr, reorder, fun _ => drain_range _ (seqAdvance_range _) hd, by rw [hr]⟩
    · exact ⟨n, hn, p.nrExpect, p.reorder, id, by rw [hr]⟩
    · exact ⟨n, hn, p.nrExpect, _, id, by rw [hr]⟩
    · exact ⟨n, hn, p.nrExpect, p.reorder, id, by rw [hr]⟩

/-- A message does not change the CCID that the peer is addressed with. -/
theorem receive_remoteCcid (p : Peer) (msg : ControlMessage) :
    (p.receive msg).2.remoteCcid = p.remoteCcid := by
  obtain ⟨n, -, nr, reorder, -, hr⟩ := receive_parts p msg
  rw [hr]

/-- A received message queues nothing. -/
theorem mem_sendQueue_receive {p : Peer} {msg : ControlMessage} {pending : PendingSend}
    (h : pending ∈ (p.receive msg).2.sendQueue) : pending ∈ p.sendQueue := by
  obtain ⟨n, -, nr, reorder, -, hr⟩ := receive_parts p msg
  rw [hr] at h
  exact List.mem_of_mem_drop h

/-- **No ack beyond its number.** Acks shorten the queue from its head; an Nr that is the
16-bit number of a counter at most 2^15 away from the oldest queued position acknowledges
positions below that counter only. -/
theorem consumeAcks_bound {queue : List PendingSend} {hist : List (List AVP)} {base : Nat}
    (d : Nat) (hq : Queued queue hist base) :
    ∃ n ≤ queue.length, consumeAcks ((d : Int) % 0x10000) queue = queue.drop n ∧
      (base ≤ d + 0x8000 → d ≤ base + 0x8000 → n = 0 ∨ base + n ≤ d) := by
  induction queue generalizing base with
  | nil => exact ⟨0, le_refl _, rfl, fun _ _ => .inl rfl⟩
  | cons head rest ih =>
    -- the head is the message at `base`
    have hns : head.msg.ns = ((base : Nat) : Int) % 0x10000 := by
      simpa using (hq 0 head rfl).1
    rw [consumeAcks, hns]
    split
    · rename_i hpos
      obtain ⟨n, hn, hdrop, hbound⟩ := ih hq.tail
      refine ⟨n + 1, by simpa using hn, by simpa using hdrop, fun hlo hhi => .inr ?_⟩
      -- the bound carries over to the tail because the head itself lies below `d`
      have hlt : (base : Int) < d := lt_of_seqDelta_pos (by omega) (by omega) hpos
      rcases hbound (by omega) (by omega) with rfl | hle
      · omega
      · omega
    · exact ⟨0, Nat.zero_le _, rfl, fun _ _ => .inl rfl⟩

/-! ## Retransmission

A tick goes through the queue from the oldest entry on. It changes timers, retries and Nr, never a
body or an Ns. -/

/-- The positions, counted from `base`, of the queue entries whose timer has expired. -/
def resendPositions (now : ℚ) : Nat → List PendingSend → List Nat
  | _, [] => []
  | base, pending :: rest =>
    if now - pending.sentAt < pending.nextRto then resendPositions now (base + 1) rest
    else base :: resendPositions now (base + 1) rest

/-- A tick touches timers and Nr only. -/
theorem tickLoop_content (now : ℚ) (nr maxRetries : Int) (queue : List PendingSend) :
    (tickLoop now nr maxRetries queue).1.map PendingSend.content
      = queue.map PendingSend.content := by
  induction queue with
  | nil => rfl
  | cons pending rest ih =>
    rw [tickLoop]
    -- the timer still runs, no retry is left, or the message is encoded again
    split
    · simp [ih]
    · split
      · rfl
      · cases henc : (pending.refresh now nr).msg.encode with
        | error e => simp only [henc]; rfl
        | ok encoded => simp only [henc, List.map_cons, ih]; rfl

/-- What a queue holds of the history depends on the contents of its entries alone. -/
theorem Queued.of_content {queue queue' : List PendingSend} {hist : List (List AVP)} {base : Nat}
    (h : Queued queue hist base)
    (hc : queue'.map PendingSend.content = queue.map PendingSend.content) :
    Queued queue' hist base := by
  intro j pending' hj
  have hmap : (queue'.map PendingSend.content)[j]? = some pending'.content := by
    rw [List.getElem?_map, hj]; rfl
  rw [hc, List.getElem?_map, Option.map_eq_some_iff] at hmap
  obtain ⟨pending, hpending, heq⟩ := hmap
  simp only [PendingSend.content, Prod.mk.injEq] at heq
  rw [← heq.2.1, ← heq.2.2]
  exact h j pending hpending

/-- **One round of a tick that does not raise**: the entry's timer still runs, or the entry has
no retry left and the peer is dead, or the entry is refreshed and re-encoded, and resent unless
the peer turns out dead further down. -/
theorem tickLoop_cons_ok {now : ℚ} {nr maxRetries : Int} {pending : PendingSend}
    {rest queue' : List PendingSend} {resend : List Bytes} {dead : Bool}
    (h : tickLoop now nr maxRetries (pending :: rest) = (queue', .ok (resend, dead))) :
    (now - pending.sentAt < pending.nextRto ∧ ∃ queue₁,
      tickLoop now nr maxRetries rest = (queue₁, .ok (resend, dead)) ∧
      queue' = pending :: queue₁) ∨
    (¬ now - pending.sentAt < pending.nextRto ∧ maxRetries < pending.retries + 1 ∧
      dead = true ∧ resend = []) ∨
    (¬ now - pending.sentAt < pending.nextRto ∧ pending.retries + 1 ≤ maxRetries ∧
      ∃ encoded queue₁ resend₁,
        ControlMessage.encode { pending.msg with nr := nr } = .ok encoded ∧
        tickLoop now nr maxRetries rest = (queue₁, .ok (resend₁, dead)) ∧
        queue' = { pending.refresh now nr with encoded := encoded } :: queue₁ ∧
        resend = if dead then [] else encoded :: resend₁) := by
  rw [tickLoop] at h
  -- the pass over the rest comes after this entry, unless the peer is dead by then
  cases htick : tickLoop now nr maxRetries rest with
  | mk queue₁ result =>
    rw [htick] at h
    split at h
    · rename_i hfresh
      cases h
      exact .inl ⟨hfresh, queue₁, rfl, rfl⟩
    · rename_i hexpired
      split at h
      · rename_i hover
        cases h
        exact .inr (.inl ⟨hexpired, hover, rfl, rfl⟩)
      · rename_i hretry
        cases henc : (pending.refresh now nr).msg.encode with
        | error e => simp [henc] at h
        | ok encoded =>
          simp only [henc, Prod.mk.injEq] at h
          obtain ⟨rfl, h⟩ := h
          cases result with
          | error e => cases h
          | ok r =>
            obtain ⟨resend₁, dead₁⟩ := r
            refine .inr (.inr ⟨hexpired, not_lt.mp hretry, encoded, queue₁, resend₁, henc, ?_⟩)
            cases dead₁ <;> cases h <;> exact ⟨rfl, rfl, rfl⟩

section Resend

variable {now : ℚ} {nr maxRetries : Int} {queue queue' : List PendingSend} {resend : List Bytes}

/-- **What a tick resends.** Each datagram is the re-encoding, with the current Nr, of the
expired entry at its position. -/
theorem tickLoop_resend {dead : Bool} (base : Nat)
    (h : tickLoop now nr maxRetries queue = (queue', .ok (resend, dead))) :
    ∀ bs i, (bs, i) ∈ resend.zip (resendPositions now base queue) →
      ∃ j pending, i = base + j ∧ queue[j]? = some pending ∧
        ControlMessage.encode { pending.msg with nr := nr } = .ok bs := by
  induction queue generalizing queue' resend base with
  | nil => cases h; simp
  | cons pending rest ih =>
    intro bs i hmem
    -- an entry behind the head, one position further
    have hlater : ∀ {queue₁ : List PendingSend} {resend₁ : List Bytes},
        tickLoop now nr maxRetries rest = (queue₁, .ok (resend₁, dead)) →
        (bs, i) ∈ resend₁.zip (resendPositions now (base + 1) rest) →
        ∃ j p, i = base + j ∧ (pending :: rest)[j]? = some p ∧
          ControlMessage.encode { p.msg with nr := nr } = .ok bs := by
      intro queue₁ resend₁ htick hmem'
      obtain ⟨j, p, hi, hp, henc⟩ := ih (base + 1) htick bs i hmem'
      exact ⟨j + 1, p, by omega, by simpa using hp, henc⟩
    rw [resendPositions] at hmem
    rcases tickLoop_cons_ok h with ⟨hfresh, _, htick, -⟩ | ⟨-, -, -, rfl⟩ |
        ⟨hexpired, -, encoded, _, resend₁, henc, htick, -, hresend⟩
    · rw [if_pos hfresh] at hmem
      exact hlater htick hmem
    · simp at hmem
    · rw [if_neg hexpired, hresend] at hmem
      cases dead with
      -- a dead peer further down discards what was collected before it
      | true => simp at hmem
      | false =>
        rcases List.mem_cons.mp hmem with heq | hmem'
        · cases heq
          exact ⟨0, pending, rfl, rfl, henc⟩
        · exact hlater htick hmem'

/-- A tick that finds the peer dead resends nothing. -/
theorem resend_of_dead (h : tickLoop now nr maxRetries queue = (queue', .ok (resend, true))) :
    resend = [] := by
  induction queue generalizing queue' resend with
  | nil => cases h
  | cons pending rest ih =>
    rcases tickLoop_cons_ok h with ⟨-, _, htick, -⟩ | ⟨-, -, -, hnil⟩ |
        ⟨-, -, _, _, _, -, -, -, hnil⟩
    · exact ih htick
    · exact hnil
    · exact hnil

/-- A tick that does not find the peer dead resends every expired entry. -/
theorem length_resend (base : Nat)
    (h : tickLoop now nr maxRetries queue = (queue', .ok (resend, false))) :
    resend.length = (resendPositions now base queue).length := by
  induction queue generalizing queue' resend base with
  | nil => cases h; rfl
  | cons pending rest ih =>
    rw [resendPositions]
    -- a fresh entry is skipped, an expired one is sent, and the peer is not dead
    rcases tickLoop_cons_ok h with ⟨hfresh, _, htick, -⟩ | ⟨-, -, hdead, -⟩ |
        ⟨hexpired, -, _, _, _, -, htick, -, rfl⟩
    · rw [if_pos hfresh]
      exact ih (base + 1) htick
    · cases hdead
    · rw [if_neg hexpired]
      simpa using ih (base + 1) htick

/-- What a tick that does not find the peer dead makes of an entry: nothing while its timer
runs, else one retry more and the timer started again. -/
def Ticked (now : ℚ) (nr maxRetries : Int) (pending pending' : PendingSend) : Prop :=
  (now - pending.sentAt < pending.nextRto ∧ pending' = pending) ∨
    (¬ now - pending.sentAt < pending.nextRto ∧ pending.retries + 1 ≤ maxRetries ∧
      ∃ encoded, pending' = { pending.refresh now nr with encoded := encoded })

/-- **The queue after a tick** that does not find the peer dead, entry by entry. -/
theorem tickLoop_ticked (h : tickLoop now nr maxRetries queue = (queue', .ok (resend, false))) :
    List.Forall₂ (Ticked now nr maxRetries) queue queue' := by
  induction queue generalizing queue' resend with
  | nil => cases h; exact .nil
  | cons pending rest ih =>
    rcases tickLoop_cons_ok h with ⟨hfresh, _, htick, rfl⟩ | ⟨-, -, hdead, -⟩ |
        ⟨hexpired, hretry, encoded, _, _, -, htick, rfl, -⟩
    · exact .cons (.inl ⟨hfresh, rfl⟩) (ih htick)
    · cases hdead
    · exact .cons (.inr ⟨hexpired, hretry, encoded, rfl⟩) (ih htick)

/-- **Why a tick finds the peer dead**: an expired entry without a retry left. -/
theorem tickLoop_dead (h : tickLoop now nr maxRetries queue = (queue', .ok (resend, true))) :
    ∃ pending ∈ queue, ¬ now - pending.sentAt < pending.nextRto ∧
      maxRetries < pending.retries + 1 := by
  induction queue generalizing queue' resend with
  | nil => cases h
  | cons pending rest ih =>
    -- the entry is the first one, or it is found in the pass over the rest
    rcases tickLoop_cons_ok h with ⟨-, _, htick, -⟩ | ⟨hexpired, hover, -, -⟩ |
        ⟨-, -, _, _, _, -, htick, -, -⟩
    · obtain ⟨p, hp, hout⟩ := ih htick
      exact ⟨p, List.mem_cons_of_mem _ hp, hout⟩
    · exact ⟨pending, List.mem_cons_self, hexpired, hover⟩
    · obtain ⟨p, hp, hout⟩ := ih htick
      exact ⟨p, List.mem_cons_of_mem _ hp, hout⟩

/-- A tick raises only if a queued message cannot be encoded again. -/
theorem tickLoop_returns (henc : ∀ pending ∈ queue, ∃ bs,
      ControlMessage.encode { pending.msg with nr := nr } = .ok bs) :
    ∃ queue' resend dead, tickLoop now nr maxRetries queue = (queue', .ok (resend, dead)) := by
  induction queue with
  | nil => exact ⟨[], [], false, rfl⟩
  | cons pending rest ih =>
    obtain ⟨queue₁, resend₁, dead₁, htick⟩ := ih fun p hp => henc p (List.mem_cons_of_mem _ hp)
    obtain ⟨bs, hbs⟩ := henc pending List.mem_cons_self
    have hbs' : (pending.refresh now nr).msg.encode = .ok bs := hbs
    -- of the three branches only the last one encodes
    rw [tickLoop, htick]
    split
    · exact ⟨_, _, _, rfl⟩
    · split
      · exact ⟨_, _, _, rfl⟩
      · simp only [hbs']
        exact ⟨_, _, _, rfl⟩

end Resend

/-- Every datagram of a tick is the re-encoding of a queued message with the current Nr. -/
theorem mem_resend {now : ℚ} {nr maxRetries : Int} {queue queue' : List PendingSend}
    {resend : List Bytes} {dead : Bool}
    (h : tickLoop now nr maxRetries queue = (queue', .ok (resend, dead))) {bs : Bytes}
    (hbs : bs ∈ resend) :
    ∃ pending ∈ queue, ControlMessage.encode { pending.msg with nr := nr } = .ok bs := by
  cases dead with
  | false =>
    have hlen := length_resend 0 h
    obtain ⟨k, hk, rfl⟩ := List.mem_iff_getElem.mp hbs
    -- the datagram at a place of the list stands for the expired entry at the same place
    have hzip : (resend[k], (resendPositions now 0 queue)[k]) ∈
        resend.zip (resendPositions now 0 queue) :=
      List.mem_iff_getElem.mpr ⟨k, by simp [hk, ← hlen], by simp⟩
    obtain ⟨j, pending, -, hj, henc⟩ := tickLoop_resend 0 h _ _ hzip
    exact ⟨pending, List.mem_of_getElem? hj, henc⟩
  | true => rw [resend_of_dead h] at hbs; cases hbs

/-- **Everything a tick can do**: nothing on a dead peer, else one pass over the queue. -/
theorem tick_cases (p : Peer) (now : ℚ) :
    (p.dead = true ∧ p.tick now = (.ok ([], true), p)) ∨
    (p.dead = false ∧ ∃ queue result,
      tickLoop now p.nrExpect p.maxRetries p.sendQueue = (queue, result) ∧
      ((∃ resend dead, result = .ok (resend, dead) ∧
        p.tick now = (.ok (resend, dead), { p with sendQueue := queue, dead := dead })) ∨
      (∃ e, result = .error e ∧ p.tick now = (.error e, { p with sendQueue := queue })))) := by
  unfold tick
  cases hdead : p.dead with
  | true => exact .inl ⟨rfl, rfl⟩
  | false =>
    refine .inr ⟨rfl, ?_⟩
    rcases htick : tickLoop now p.nrExpect p.maxRetries p.sendQueue with ⟨queue, e | ⟨resend, dead⟩⟩
    · exact ⟨queue, _, rfl, .inr ⟨e, rfl, rfl⟩⟩
    · exact ⟨queue, _, rfl, .inl ⟨resend, dead, rfl, rfl⟩⟩

end Peer

end L2tpv3d
