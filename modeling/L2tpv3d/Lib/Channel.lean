import Mathlib.Data.List.Basic
import Mathlib.Logic.Relation

/-!
# Channel — what reliable delivery means

A channel is the history of the messages handed to it and how many of them it has handed
on: the receiver has always got a prefix of what was sent. An acknowledged channel adds how
many the sender knows about; the sender may forget exactly those.

* `received_send`, `received_deliver` — how the two operations act on what was received.
* `AckedChannel.Step` — one move of a channel, and `Steps` any number of them.
* `Steps.received_prefix` — what was received is never taken back.
-/

/-- Messages sent so far, and how many of them were handed on. -/
@[ext] structure Channel (α : Type) where
  sent : List α
  delivered : Nat
  delivered_le : delivered ≤ sent.length

namespace Channel

variable {α : Type}

/-- A channel nothing was sent on. -/
def empty : Channel α := ⟨[], 0, Nat.le_refl 0⟩

/-- What the receiver has got. -/
def received (c : Channel α) : List α := c.sent.take c.delivered

/-- Hand a message to the channel. -/
def send (c : Channel α) (a : α) : Channel α :=
  ⟨c.sent ++ [a], c.delivered, by
    rw [List.length_append]
    exact Nat.le_add_right_of_le c.delivered_le⟩

/-- The channel hands on the next `n` messages. -/
def deliver (c : Channel α) (n : Nat) (h : c.delivered + n ≤ c.sent.length) : Channel α :=
  ⟨c.sent, c.delivered + n, h⟩

/-- A message that is handed over has not arrived yet, so nothing changes for the receiver. -/
@[simp] theorem received_send (c : Channel α) (a : α) : (c.send a).received = c.received :=
  List.take_append_of_le_length c.delivered_le

/-- The messages that are handed on next are the oldest of those that are still under way. -/
theorem received_deliver (c : Channel α) (n : Nat) (h : c.delivered + n ≤ c.sent.length) :
    (c.deliver n h).received = c.received ++ (c.sent.drop c.delivered).take n :=
  List.take_add

end Channel

/-- A channel whose sender knows of the first `acked` deliveries. -/
@[ext] structure AckedChannel (α : Type) extends Channel α where
  acked : Nat
  acked_le : acked ≤ delivered

namespace AckedChannel

variable {α : Type} {c c' : AckedChannel α}

/-- What the sender must still keep. -/
def outstanding (c : AckedChannel α) : List α := c.sent.drop c.acked

/-- One move of the channel. -/
inductive Step : AckedChannel α → AckedChannel α → Prop where
  | send (c : AckedChannel α) (a : α) : Step c ⟨c.toChannel.send a, c.acked, c.acked_le⟩
  | deliver (c : AckedChannel α) (n : Nat) (h : c.delivered + n ≤ c.sent.length) :
      Step c ⟨c.toChannel.deliver n h, c.acked, Nat.le_add_right_of_le c.acked_le⟩
  | ack (c : AckedChannel α) (n : Nat) (h : c.acked + n ≤ c.delivered) :
      Step c ⟨c.toChannel, c.acked + n, h⟩

/-- Any number of moves. -/
def Steps : AckedChannel α → AckedChannel α → Prop := Relation.ReflTransGen Step

/-- One move extends what was received: an operation of the sender leaves it as it is, and a
delivery appends to it. -/
theorem Step.received_prefix (h : Step c c') : c.received <+: c'.received := by
  cases h with
  | send a => simp
  | deliver n h => rw [Channel.received_deliver]; exact List.prefix_append _ _
  | ack n h => exact List.prefix_rfl

/-- What was received is never taken back. -/
theorem Steps.received_prefix (h : Steps c c') : c.received <+: c'.received := by
  induction h with
  | refl => exact List.prefix_rfl
  | tail _ hstep ih => exact ih.trans hstep.received_prefix

/-- Every message sent was received or is still kept. -/
theorem received_or_outstanding (c : AckedChannel α) {i : Nat} {a : α}
    (h : c.sent[i]? = some a) :
    c.received[i]? = some a ∨ ∃ j, i = c.acked + j ∧ c.outstanding[j]? = some a := by
  -- the sender forgets only what was acknowledged, which was delivered before that
  rcases Nat.lt_or_ge i c.delivered with hlt | hge
  · exact .inl (by rw [Channel.received, List.getElem?_take_of_lt hlt, h])
  · refine .inr ⟨i - c.acked, ?_, ?_⟩
    · have := c.acked_le; omega
    · rw [outstanding, List.getElem?_drop, ← h]
      congr 1
      have := c.acked_le
      omega

end AckedChannel
