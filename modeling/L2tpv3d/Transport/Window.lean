import L2tpv3d.Transport.Peer
import L2tpv3d.Wire.Codec
import L2tpv3d.Lib.Transition
import Mathlib.Data.List.Perm.Subperm

/-!
# L2tpv3d — what a peer keeps whatever it is sent

The caller of a `Peer` may make its calls in any order, and the messages it hands to
`receive` come from anybody. `Windowed` is what every call keeps: both counters are 16-bit
numbers, the queue is numbered up to the next Ns, and the reorder buffer holds messages of
the receive window only, each under its own Ns.

* `drain_done` — the rounds that the drain loop is given are enough for it to end.
* `drain_window` — the loop moves the window to the first gap.
* `consumeAcks_drop` — an Nr that lies in the queue drops exactly what is before it.
* **`windowed_after_any_calls`** — the invariant in every state reached, and what the next
  call does to the counters and to the queue.
-/

namespace L2tpv3d

open Py

namespace Peer

/-! ## Calls

The messages come from anybody: all that is known of one is that its header fields were decoded. -/

/-- What the caller of a peer can do. -/
inductive Event where
  | send (avps : List AVP) (now : ℚ)
  | ackOnly
  | tick (now : ℚ)
  | setRemoteCcid (ccid : Int)
  | receive (msg : ControlMessage)

/-- The peer after a call, whether it returned or raised. -/
def step (p : Peer) : Event → Peer
  | .send avps now =>
    match p.send avps now with
    | .error _ => p
    | .ok (_, p') => p'
  -- `ack_only` builds a message and touches no field
  | .ackOnly => p
  | .tick now => (p.tick now).2
  | .setRemoteCcid ccid => p.setRemoteCcid ccid
  | .receive msg => (p.receive msg).2

/-- A message that is received was decoded: its Ns is a 16-bit number. -/
def Decoded (_ : Peer) : Event → Prop
  | .receive msg => 0 ≤ msg.ns ∧ msg.ns ≤ 0xFFFF
  | _ => True

instance (p : Peer) : (e : Event) → Decidable (p.Decoded e)
  | .receive msg => inferInstanceAs (Decidable (0 ≤ msg.ns ∧ msg.ns ≤ 0xFFFF))
  | .send _ _ | .ackOnly | .tick _ | .setRemoteCcid _ => instDecidableTrue

/-- How many messages a call delivers. -/
def deliveries (p : Peer) : Event → Nat
  | .receive msg => (p.deliverable msg).length
  | _ => 0

/-! ## The drain loop

The loop ends at the first gap, or when the buffer is empty. Each round removes an entry, so the
number of entries bounds the rounds. -/

/-- An empty buffer holds nothing. -/
theorem get?_of_size_zero {reorder : Dict Int ControlMessage} (h : reorder.size = 0) (k : Int) :
    reorder.get? k = none := by
  have hnil : reorder.items = [] := List.length_eq_zero_iff.mp h
  rw [Dict.get?, hnil]
  rfl

/-- The loop ends within as many rounds as the buffer has entries: any two numbers of rounds
that are enough lead to the same. -/
theorem drain_done (fuel fuel' : Nat) (nr : Int) (reorder : Dict Int ControlMessage)
    (h : reorder.size ≤ fuel) (h' : reorder.size ≤ fuel') :
    drain fuel nr reorder = drain fuel' nr reorder := by
  induction fuel generalizing fuel' nr reorder with
  -- an empty buffer ends the loop at once, with any number of rounds left
  | zero =>
    have hnone := get?_of_size_zero (Nat.le_zero.mp h) nr
    cases fuel' with
    | zero => rfl
    | succ fuel' => simp only [drain, hnone]
  | succ fuel ih =>
    cases hget : reorder.get? nr with
    | none => cases fuel' <;> simp only [drain, hget]
    | some queued =>
      have hlt := Dict.size_erase_lt (Dict.contains_iff.mpr ⟨queued, hget⟩)
      -- an entry that is popped leaves fewer entries, and fewer rounds that are needed
      obtain ⟨n, rfl⟩ : ∃ n, fuel' = n + 1 := ⟨fuel' - 1, by omega⟩
      simp only [drain, hget, ih n (seqAdvance nr) (reorder.erase nr) (by omega) (by omega)]

/-- One step closer. -/
theorem seqDelta_advance {k nr : Int} (h : 0 < seqDelta k nr) :
    seqDelta k (seqAdvance nr) = seqDelta k nr - 1 := by
  simp only [seqDelta, seqAdvance] at h ⊢
  split at h <;> split <;> omega

/-- Only a 16-bit number itself is at distance 0. -/
theorem eq_of_seqDelta_eq_zero {k nr : Int} (hk : 0 ≤ k ∧ k ≤ 0xFFFF) (hnr : 0 ≤ nr ∧ nr ≤ 0xFFFF)
    (h : seqDelta k nr = 0) : k = nr := by
  simp only [seqDelta] at h
  split at h <;> omega

/-- Where the entries of a buffer lie: their keys are 16-bit numbers, at a distance from `lo`
to `hi` of `nr`. -/
def Within (reorder : Dict Int ControlMessage) (nr lo hi : Int) : Prop :=
  ∀ k msg, reorder.get? k = some msg →
    (0 ≤ k ∧ k ≤ 0xFFFF) ∧ lo ≤ seqDelta k nr ∧ seqDelta k nr ≤ hi

section Within

variable {reorder : Dict Int ControlMessage} {nr hi : Int}

/-- At a gap no entry is at distance 0. -/
theorem Within.of_gap (h : Within reorder nr 0 hi) (hnr : 0 ≤ nr ∧ nr ≤ 0xFFFF)
    (hnone : reorder.get? nr = none) : Within reorder nr 1 hi := by
  intro k msg hget
  obtain ⟨hk, hlo, hhi⟩ := h k msg hget
  refine ⟨hk, ?_, hhi⟩
  rcases lt_or_eq_of_le hlo with hpos | hzero
  · exact hpos
  · rw [eq_of_seqDelta_eq_zero hk hnr hzero.symm, hnone] at hget
    cases hget

/-- Past the entry at `nr`, the window starts one later. -/
theorem Within.advance (h : Within reorder nr 0 hi) (hnr : 0 ≤ nr ∧ nr ≤ 0xFFFF) :
    Within (reorder.erase nr) (seqAdvance nr) 0 (hi - 1) := by
  intro k msg hget
  rw [Dict.get?_erase] at hget
  split at hget
  · cases hget
  · rename_i hne
    obtain ⟨hk, hlo, hhi⟩ := h k msg hget
    -- only the entry at `nr` has distance zero, and it was taken out
    have hpos : 0 < seqDelta k nr := by
      refine lt_of_le_of_ne hlo fun hzero => hne ?_
      exact (eq_of_seqDelta_eq_zero hk hnr hzero.symm).symm
    rw [seqDelta_advance hpos]
    exact ⟨hk, by omega, by omega⟩

theorem Within.mono {hi' : Int} (h : Within reorder nr 1 hi) (hhi : hi ≤ hi') :
    Within reorder nr 1 hi' := by
  intro k msg hget
  obtain ⟨hk, hlo, hle⟩ := h k msg hget
  exact ⟨hk, hlo, hle.trans hhi⟩

/-- **The loop moves the window to the first gap**: it pops the entries at `nr`, `nr + 1`, …,
counts them, and leaves those that lie behind the gap. -/
theorem drain_window (fuel : Nat) (hsize : reorder.size ≤ fuel) (hnr : 0 ≤ nr ∧ nr ≤ 0xFFFF)
    (h : Within reorder nr 0 hi) {popped : List ControlMessage} {nr' : Int}
    {reorder' : Dict Int ControlMessage} (hd : drain fuel nr reorder = (popped, nr', reorder')) :
    nr' = (nr + popped.length) % 0x10000 ∧ popped.length ≤ reorder.size ∧
      Within reorder' nr' 1 hi ∧
      ∀ k msg, reorder'.get? k = some msg → reorder.get? k = some msg := by
  induction fuel generalizing nr hi reorder popped with
  | zero =>
    have hnone := get?_of_size_zero (Nat.le_zero.mp hsize) nr
    cases hd
    exact ⟨by simp; omega, Nat.zero_le _, h.of_gap hnr hnone, fun _ _ hget => hget⟩
  | succ fuel ih =>
    rw [drain] at hd
    -- the loop ends at the gap, or pops the entry and goes on one later
    cases hget : reorder.get? nr with
    | none =>
      rw [hget] at hd
      cases hd
      exact ⟨by simp; omega, Nat.zero_le _, h.of_gap hnr hget, fun _ _ hget => hget⟩
    | some queued =>
      have hlt := Dict.size_erase_lt (Dict.contains_iff.mpr ⟨queued, hget⟩)
      simp only [hget] at hd
      rcases hrest : drain fuel (seqAdvance nr) (reorder.erase nr) with ⟨popped₁, nr₁, reorder₁⟩
      rw [hrest] at hd
      cases hd
      obtain ⟨hnr', hlen, hwin, hsub⟩ :=
        ih (by omega) (seqAdvance_range nr) (h.advance hnr) hrest
      refine ⟨?_, by simp; omega, hwin.mono (by omega), fun k msg hk => ?_⟩
      · rw [hnr', seqAdvance, List.length_cons]
        push_cast
        omega
      · have hk' := hsub k msg hk
        rw [Dict.get?_erase] at hk'
        split at hk'
        · cases hk'
        · exact hk'

/-- A window of `hi` numbers has room for `hi` messages. -/
theorem Within.size_le (h : Within reorder nr 1 hi) (hhi : 0 ≤ hi) :
    (reorder.size : Int) ≤ hi := by
  -- the distances of the keys are distinct numbers from 1 to `hi`
  have hkey : ∀ k ∈ reorder.keys, (0 ≤ k ∧ k ≤ 0xFFFF) ∧ 1 ≤ seqDelta k nr ∧ seqDelta k nr ≤ hi := by
    intro k hk
    obtain ⟨msg, hget⟩ := Dict.mem_keys_iff.mp hk
    exact h k msg hget
  have hnodup : (reorder.keys.map (seqDelta · nr)).Nodup := by
    refine List.Nodup.map_on ?_ reorder.nodup
    intro k hk k' hk' heq
    have hin := (hkey k hk).1
    have hin' := (hkey k' hk').1
    simp only [seqDelta] at heq
    split at heq <;> split at heq <;> omega
  have hsub : reorder.keys.map (seqDelta · nr) ⊆ (List.range hi.toNat).map fun (i : Nat) => (i : Int) + 1 := by
    intro d hd
    obtain ⟨k, hk, rfl⟩ := List.mem_map.mp hd
    obtain ⟨-, hlo, hle⟩ := hkey k hk
    exact List.mem_map.mpr ⟨(seqDelta k nr - 1).toNat, List.mem_range.mpr (by omega), by omega⟩
  have hle := (List.subperm_of_subset hnodup hsub).length_le
  simp only [List.length_map, List.length_range, Dict.keys] at hle
  rw [Dict.size]
  omega

end Within

/-! ## The send queue

The queue is numbered without gaps, so an Nr within it cuts it at one place. -/

/-- **An Nr that lies in the queue drops exactly what is before it**, as long as the numbers
of the queue are told apart. -/
theorem consumeAcks_drop {queue : List PendingSend} {base : Int} (k : Nat)
    (hns : ∀ (j : Nat) pending, queue[j]? = some pending →
      pending.msg.ns = (base + j) % 0x10000)
    (hk : k ≤ queue.length) (hlen : queue.length < 0x8000) :
    consumeAcks ((base + k) % 0x10000) queue = queue.drop k := by
  induction queue generalizing base k with
  | nil => simp [consumeAcks]
  | cons head rest ih =>
    have hhead : head.msg.ns = base % 0x10000 := by simpa using hns 0 head rfl
    rw [List.length_cons] at hk hlen
    -- the distance of the Nr from the head is the number of entries it covers, since the queue is
    -- short
    have hdelta : seqDelta ((base + k) % 0x10000) (base % 0x10000) = k := by
      rw [seqDelta_counter (by omega) (by omega)]
      omega
    rw [consumeAcks, hhead, hdelta]
    cases k with
    | zero => simp
    | succ k =>
      have hrest : ∀ (j : Nat) pending, rest[j]? = some pending →
          pending.msg.ns = (base + 1 + j) % 0x10000 := by
        intro j pending hj
        rw [hns (j + 1) pending (by simpa using hj)]
        push_cast
        rw [Int.add_assoc, Int.add_comm (j : Int) 1]
      rw [if_pos (by omega), List.drop_succ_cons, ← ih k hrest (by omega) (by omega)]
      push_cast
      rw [Int.add_assoc, Int.add_comm (k : Int) 1]

/-! ## The invariant

One lemma for each call, and from them the invariant after any list of calls, by induction. -/

/-- What every call keeps. -/
structure Windowed (p : Peer) : Prop where
  nsSend : 0 ≤ p.nsSend ∧ p.nsSend ≤ 0xFFFF
  nrExpect : 0 ≤ p.nrExpect ∧ p.nrExpect ≤ 0xFFFF
  /-- The queue is numbered without a gap, up to the Ns before the next one. -/
  queue : ∀ (j : Nat) pending, p.sendQueue[j]? = some pending →
    pending.msg.ns = (p.nsSend - p.sendQueue.length + j) % 0x10000
  /-- A buffered message is kept under its own Ns. -/
  keyed : ∀ k msg, p.reorder.get? k = some msg → msg.ns = k
  /-- The buffered messages are ahead of the expected one, within the window. -/
  window : Within p.reorder p.nrExpect 1 p.receiveWindow

variable {p : Peer}

/-- A peer that was just constructed has sent nothing and buffered nothing. -/
theorem windowed_init (localCcid remoteCcid receiveWindow : Int) (interval : ℚ)
    (maxRetries : Int) : (init localCcid remoteCcid receiveWindow interval maxRetries).Windowed where
  nsSend := by simp [init]
  nrExpect := by simp [init]
  queue := by simp [init]
  keyed := by simp [init]
  window := by simp [Within, init]

/-- Acks drop the front of the queue; the rest keeps its numbers. -/
theorem Windowed.consumeAcks (h : p.Windowed) (nr : Int) :
    ({ p with sendQueue := Peer.consumeAcks nr p.sendQueue } : Peer).Windowed := by
  obtain ⟨n, hn, hdrop⟩ := consumeAcks_suffix nr p.sendQueue
  refine ⟨h.nsSend, h.nrExpect, ?_, h.keyed, h.window⟩
  intro j pending hj
  simp only [hdrop, List.getElem?_drop] at hj
  rw [h.queue (n + j) pending hj]
  simp only [hdrop, List.length_drop]
  push_cast [hn]
  congr 1
  omega

/-- A message that is sent takes the next number, at the end of the queue. -/
theorem Windowed.send (h : p.Windowed) {avps : List AVP} {now : ℚ} {msg : ControlMessage}
    {p' : Peer} (hsend : p.send avps now = .ok (msg, p')) : p'.Windowed := by
  obtain ⟨-, rfl, encoded, -, rfl⟩ := send_eq_ok.mp hsend
  have hns := h.nsSend
  refine ⟨seqAdvance_range _, h.nrExpect, ?_, h.keyed, h.window⟩
  intro j pending hj
  -- the entries that were there count from the same number, one longer a queue and one later an Ns
  rcases Nat.lt_or_ge j p.sendQueue.length with hlt | hge
  · rw [List.getElem?_append_left hlt] at hj
    rw [h.queue j pending hj, List.length_append, List.length_singleton, seqAdvance]
    push_cast
    omega
  · -- the new entry carries the Ns that was next
    rw [List.getElem?_append_right hge] at hj
    obtain ⟨hj0, rfl⟩ := List.getElem?_eq_some_iff.mp hj
    have hjq : j = p.sendQueue.length := by simp at hj0; omega
    subst hjq
    rw [List.length_append, List.length_singleton, seqAdvance]
    simp only [Nat.sub_self, List.getElem_cons_zero]
    push_cast
    omega

/-- A tick renumbers nothing, whether it returns or raises. -/
theorem Windowed.tick (h : p.Windowed) (now : ℚ) : (p.tick now).2.Windowed := by
  -- a pass over the queue changes no number in it
  have hpass : ∀ queue result, tickLoop now p.nrExpect p.maxRetries p.sendQueue = (queue, result) →
      ∀ dead, ({ p with sendQueue := queue, dead := dead } : Peer).Windowed := by
    intro queue result hloop dead
    have hcontent := tickLoop_content now p.nrExpect p.maxRetries p.sendQueue
    rw [hloop] at hcontent
    have hlen : queue.length = p.sendQueue.length := by simpa using congrArg List.length hcontent
    refine ⟨h.nsSend, h.nrExpect, ?_, h.keyed, h.window⟩
    intro j pending hj
    have hmap : (p.sendQueue.map PendingSend.content)[j]? = some pending.content := by
      rw [← hcontent, List.getElem?_map, hj]
      rfl
    rw [List.getElem?_map, Option.map_eq_some_iff] at hmap
    obtain ⟨old, hold, heq⟩ := hmap
    simp only [PendingSend.content, Prod.mk.injEq] at heq
    rw [← heq.2.1, h.queue j old hold, hlen]
  rcases tick_cases p now with ⟨-, ht⟩ | ⟨-, queue, result, hloop, ⟨resend, dead, -, ht⟩ | ⟨e, -, ht⟩⟩
  · rw [ht]
    exact h
  · rw [ht]
    exact hpass queue result hloop dead
  · rw [ht]
    exact hpass queue result hloop p.dead

/-- **One message**, from anybody: the invariant is kept, and the expected Ns moves by the
number of messages delivered. -/
theorem Windowed.receive (h : p.Windowed) {msg : ControlMessage}
    (hns : 0 ≤ msg.ns ∧ msg.ns ≤ 0xFFFF) :
    (p.receive msg).2.Windowed ∧ (p.receive msg).2.receiveWindow = p.receiveWindow ∧
      (p.receive msg).2.nrExpect = (p.nrExpect + (p.deliverable msg).length) % 0x10000 ∧
      (p.deliverable msg).length ≤ p.reorder.size + 1 := by
  have hacks := h.consumeAcks msg.nr
  have hnr := h.nrExpect
  have hself : p.nrExpect = p.nrExpect % 0x10000 := by omega
  -- in every branch but one nothing is delivered
  have hnone : p.inOrder msg = false → p.deliverable msg = [] := by
    intro hin
    simp [deliverable, hin]
  rcases receive_cases p msg with ⟨hacc, hr⟩ | ⟨-, q, rfl, ⟨hz, hr⟩ |
      ⟨hin, popped, nr, reorder, hd, hr⟩ | ⟨hz, hneg, hr⟩ | ⟨hz, hpos, hwin, hr⟩ | ⟨hz, hpos, -, hr⟩⟩
  · rw [hr, hnone (by simp [inOrder, hacc])]
    exact ⟨h, rfl, by simpa using hself, by simp⟩
  · rw [hr, hnone (by simp [inOrder, hz])]
    exact ⟨hacks, rfl, by simpa using hself, by simp⟩
  · -- the entry at distance 1 is the first that the loop looks for
    have hstart : Within p.reorder (seqAdvance p.nrExpect) 0 p.receiveWindow := by
      intro k m hget
      obtain ⟨hk, hlo, hhi⟩ := h.window k m hget
      rw [seqDelta_advance (by omega)]
      exact ⟨hk, by omega, by omega⟩
    obtain ⟨hnr', hlen, hwin, hsub⟩ :=
      drain_window _ (le_refl _) (seqAdvance_range p.nrExpect) hstart hd
    have hlist : p.deliverable msg = msg :: popped := by simp [deliverable, hin, hd]
    rw [hr, hlist]
    refine ⟨⟨h.nsSend, by simp only [hnr']; omega, hacks.queue, ?_, hwin⟩, rfl, ?_, by simp; omega⟩
    · exact fun k m hget => h.keyed k m (hsub k m hget)
    · rw [hnr', seqAdvance, List.length_cons]
      push_cast
      omega
  · rw [hr, hnone (by simp [inOrder]; omega)]
    exact ⟨hacks, rfl, by simpa using hself, by simp⟩
  -- within the window: the message is buffered under its own number
  · rw [hr, hnone (by simp [inOrder]; omega)]
    refine ⟨⟨h.nsSend, h.nrExpect, hacks.queue, ?_, ?_⟩, rfl, by simpa using hself, by simp⟩
    · intro k m hget
      rw [Dict.get?_set] at hget
      split at hget
      · rename_i heq
        cases hget
        exact heq
      · exact h.keyed k m hget
    · intro k m hget
      rw [Dict.get?_set] at hget
      split at hget
      · rename_i heq
        subst heq
        exact ⟨hns, hpos, hwin⟩
      · exact h.window k m hget
  · rw [hr, hnone (by simp [inOrder]; omega)]
    exact ⟨hacks, rfl, by simpa using hself, by simp⟩

theorem Windowed.step (h : p.Windowed) {e : Event} (he : p.Decoded e) :
    (p.step e).Windowed ∧ (p.step e).receiveWindow = p.receiveWindow ∧
      (p.step e).nrExpect = (p.nrExpect + p.deliveries e) % 0x10000 ∧
      p.deliveries e ≤ p.reorder.size + 1 := by
  have hnr := h.nrExpect
  have hself : p.nrExpect = (p.nrExpect + (0 : Nat)) % 0x10000 := by simp; omega
  cases e with
  | send avps now =>
    rw [Peer.step]
    cases hsend : p.send avps now with
    | error e => exact ⟨h, rfl, hself, Nat.zero_le _⟩
    | ok r =>
      obtain ⟨msg, p'⟩ := r
      obtain ⟨-, -, _, -, hp'⟩ := send_eq_ok.mp hsend
      exact ⟨h.send hsend, by rw [hp'], by rw [hp']; exact hself, Nat.zero_le _⟩
  | ackOnly => exact ⟨h, rfl, hself, Nat.zero_le _⟩
  | tick now =>
    refine ⟨h.tick now, ?_⟩
    rw [Peer.step]
    rcases tick_cases p now with ⟨-, ht⟩ | ⟨-, _, _, -, ⟨_, _, -, ht⟩ | ⟨_, -, ht⟩⟩ <;>
      rw [ht] <;> exact ⟨rfl, hself, Nat.zero_le _⟩
  | setRemoteCcid ccid =>
    exact ⟨⟨h.nsSend, h.nrExpect, h.queue, h.keyed, h.window⟩, rfl, hself, Nat.zero_le _⟩
  | receive msg => exact h.receive he

/-- An Nr that lies in the queue, on a message that is accepted. -/
theorem Windowed.acked (h : p.Windowed) {msg : ControlMessage} {k : Nat}
    (hacc : p.accepts msg = true) (hlen : p.sendQueue.length < 0x8000)
    (hk : k ≤ p.sendQueue.length)
    (hnr : msg.nr = (p.nsSend - p.sendQueue.length + k) % 0x10000) :
    (p.receive msg).2.sendQueue = p.sendQueue.drop k := by
  have hdrop : Peer.consumeAcks msg.nr p.sendQueue = p.sendQueue.drop k :=
    hnr ▸ consumeAcks_drop k h.queue hk hlen
  -- every branch of an accepted message has consumed the acks first
  rcases receive_cases p msg with ⟨hacc', -⟩ | ⟨-, q, rfl, ⟨-, hr⟩ | ⟨-, _, _, _, -, hr⟩ |
      ⟨-, -, hr⟩ | ⟨-, -, -, hr⟩ | ⟨-, -, -, hr⟩⟩
  · rw [hacc] at hacc'
    cases hacc'
  all_goals
    rw [hr]
    exact hdrop

/-- **The invariant of a peer against any peer.** After any calls, in any order and with any
decoded messages: the counters are 16-bit numbers, the queue is numbered up to the next Ns,
every buffered message is kept under its own Ns inside the receive window, so that at most
as many are buffered as the window has numbers and the drain loop ends. The next call moves
the expected Ns forward by the number of messages it delivers, and an Nr from the oldest
queued Ns to the next one drops exactly the messages before it. -/
theorem windowed_after_any_calls (localCcid remoteCcid receiveWindow : Int) (interval : ℚ)
    (maxRetries : Int) (hwindow : 1 ≤ receiveWindow ∧ receiveWindow ≤ 1024) (p : Peer)
    (hp : Transition.Reach step Decoded
      (init localCcid remoteCcid receiveWindow interval maxRetries) p) :
    p.Windowed ∧ p.receiveWindow = receiveWindow ∧ (p.reorder.size : Int) ≤ receiveWindow ∧
    (∀ nr fuel, p.reorder.size ≤ fuel →
      drain fuel nr p.reorder = drain p.reorder.size nr p.reorder) ∧
    (∀ e, p.Decoded e → (p.step e).nrExpect = (p.nrExpect + p.deliveries e) % 0x10000 ∧
      seqDelta (p.step e).nrExpect p.nrExpect = p.deliveries e) ∧
    (∀ msg, (p.receive msg).1.1 = (p.deliverable msg).flatMap (·.avps)) ∧
    ∀ msg k, p.accepts msg = true → p.sendQueue.length < 0x8000 → k ≤ p.sendQueue.length →
      msg.nr = (p.nsSend - p.sendQueue.length + k) % 0x10000 →
      (p.receive msg).2.sendQueue = p.sendQueue.drop k := by
  obtain ⟨h, hw⟩ : p.Windowed ∧ p.receiveWindow = receiveWindow :=
    hp.invariant (I := fun p => p.Windowed ∧ p.receiveWindow = receiveWindow)
      ⟨windowed_init _ _ _ _ _, rfl⟩
      fun _ _ ⟨h, hw⟩ he => ⟨(h.step he).1, (h.step he).2.1.trans hw⟩
  have hnr := h.nrExpect
  have hsize : (p.reorder.size : Int) ≤ receiveWindow := by
    rw [← hw]
    exact h.window.size_le (by omega)
  refine ⟨h, hw, hsize, fun nr fuel hfuel => drain_done _ _ nr _ hfuel (le_refl _), ?_,
    receive_delivered p, fun msg k hacc hlen hk hmsg => h.acked hacc hlen hk hmsg⟩
  intro e he
  obtain ⟨-, -, hmove, hcount⟩ := h.step he
  -- fewer than 2^15 messages are delivered at once, so the distance is not wrapped
  refine ⟨hmove, ?_⟩
  rw [hmove]
  simp only [seqDelta]
  split <;> omega

/-- A message ahead of the expected one, then the expected one with an ack for the HELLO that
was sent. -/
def swappedCalls : List Event :=
  [.send [⟨0, [0, 6], true, false, 0⟩] 0, .receive ⟨9, 1, 0, [⟨0, [0, 6], true, false, 0⟩]⟩,
    .receive ⟨9, 0, 1, [⟨0, [0, 6], true, false, 0⟩]⟩]

/-- The second message comes first, is buffered, and is delivered with the first one. -/
theorem windowed_after_swappedCalls :
    (swappedCalls.foldl step (init 9)).nrExpect = 2 ∧ (swappedCalls.foldl step (init 9)).Windowed :=
  ⟨by decide +kernel, (windowed_after_any_calls 9 0 4 1 5 (by decide) _
    (Transition.Reach.run .start (by decide +kernel))).1⟩

end Peer

end L2tpv3d
