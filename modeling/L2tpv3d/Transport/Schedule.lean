import L2tpv3d.Transport.Window
import L2tpv3d.Lib.Backoff

/-!
# L2tpv3d — when a peer repeats itself, and when it gives up

`Timeline` is a peer with the record of what it sent: the messages in the order of their
`send`, and every transmission of one of them, the first one and the repeats, with its time.
The caller may send, hand over received messages and tick in any order and with any clock.

* `Scheduled` — the invariant: the record agrees with the schedule, and the timers of a live
  peer's queue agree with the record. `Scheduled.send`, `Scheduled.receive` and
  `Scheduled.tick` keep it.
* `Timeline.due` — the timer of a message has expired, told from the record alone.
* **`retransmission_schedule`** — what every run keeps and what the next tick does.
-/

namespace L2tpv3d

open Py Backoff

/-- One transmission of a message that was handed to `send`. -/
structure Transmission where
  /-- The position of the message in the send order. -/
  pos : Nat
  time : ℚ
  /-- The number the peer expected next at that moment. -/
  nrExpect : Int
  bytes : Bytes

/-- A peer with the record of what it sent. -/
structure Timeline where
  peer : Peer
  /-- The messages that `send` returned, in order. -/
  sent : List ControlMessage := []
  /-- Every transmission of one of them, in order. -/
  log : List Transmission := []

namespace Timeline

/-- What the caller can do. -/
inductive Event where
  | send (avps : List AVP) (now : ℚ)
  | receive (msg : ControlMessage)
  | tick (now : ℚ)

/-- The position of the oldest message that is not acknowledged. -/
def base (s : Timeline) : Nat := s.sent.length - s.peer.sendQueue.length

/-- The positions of the messages that are not acknowledged. -/
def unacked (s : Timeline) : List Nat := List.range' s.base s.peer.sendQueue.length

/-- When the message at `i` was transmitted. -/
def times (s : Timeline) (i : Nat) : List ℚ := (s.log.filter (·.pos = i)).map (·.time)

/-- The transmissions of a tick: the datagrams it returned are those of the entries that had
expired, in the order of the queue. -/
def resent (s : Timeline) (now : ℚ) (resend : List Bytes) : List Transmission :=
  (resend.zip (Peer.resendPositions now s.base s.peer.sendQueue)).map fun (bs, i) =>
    ⟨i, now, s.peer.nrExpect, bs⟩

/-- One step. The caller of `send` transmits the message at once, the caller of `tick` every
datagram it returns. -/
def act (s : Timeline) : Event → Timeline
  | .send avps now =>
    match s.peer.send avps now with
    | .error _ => s
    | .ok (msg, peer) =>
      { peer := peer
        sent := s.sent ++ [msg]
        log := s.log ++
          msg.encode.toOption.toList.map fun bs => ⟨s.sent.length, now, s.peer.nrExpect, bs⟩ }
  | .receive msg => { s with peer := (s.peer.receive msg).2 }
  | .tick now =>
    match s.peer.tick now with
    | (.error _, peer) => { s with peer := peer }
    | (.ok (resend, _), peer) => { s with peer := peer, log := s.log ++ s.resent now resend }

/-- The timer of the message at `i` has expired: since its last transmission the delay has
passed that belongs to the number of its repeats. -/
def due (s : Timeline) (now : ℚ) (i : Nat) : Bool :=
  match (s.times i).getLast? with
  | none => false
  | some t =>
    t + delay s.peer.retransmitInterval retransmitMaxInterval ((s.times i).length - 1) ≤ now

/-! ## The invariant

The code keeps for each queued message the time it was last sent and its current timeout. The record
has all times; the two agree on the last one. -/

/-- An entry of the queue of a live peer agrees with the record of its message. -/
structure Timed (r : ℚ) (times : List ℚ) (pending : PendingSend) : Prop where
  sentAt : times.getLast? = some pending.sentAt
  retries : (times.length : Int) = pending.retries + 1
  nextRto : pending.nextRto = delay r retransmitMaxInterval (times.length - 1)

/-- The record agrees with the schedule of interval `r` and `m` repeats. -/
structure Scheduled (r : ℚ) (m : Int) (s : Timeline) : Prop where
  interval : s.peer.retransmitInterval = r
  maxRetries : s.peer.maxRetries = m
  nrExpect : 0 ≤ s.peer.nrExpect ∧ s.peer.nrExpect ≤ 0xFFFF
  nsSend : s.peer.nsSend = (s.sent.length : Int) % 0x10000
  /-- The messages are numbered by their positions, and encode. -/
  numbered : ∀ (i : Nat) msg, s.sent[i]? = some msg → msg.ns = (i : Int) % 0x10000 ∧ msg.WellFormed
  queue_le : s.peer.sendQueue.length ≤ s.sent.length
  /-- The queue holds the last messages sent, but for their Nr. -/
  queued : ∀ (j : Nat) pending, s.peer.sendQueue[j]? = some pending →
    ∃ msg nr, s.sent[s.base + j]? = some msg ∧ pending.msg = { msg with nr := nr }
  /-- What was transmitted is the message at its position with the Nr of that moment. -/
  logged : ∀ t ∈ s.log, ∃ msg, s.sent[t.pos]? = some msg ∧
    ControlMessage.decode t.bytes = .ok { msg with nr := t.nrExpect }
  spaced : ∀ i, Spaced (delay r retransmitMaxInterval) (s.times i)
  bounded : ∀ i, ((s.times i).length : Int) ≤ m + 1
  /-- A tick that finds the peer dead leaves timers behind that were not used. -/
  timers : s.peer.dead = false → ∀ (j : Nat) pending, s.peer.sendQueue[j]? = some pending →
    Timed r (s.times (s.base + j)) pending

section Record

variable {s : Timeline} {r : ℚ} {m : Int} {i : Nat} {now : ℚ}

/-- The times of a message are read off the log, the new part last. -/
theorem times_append (s : Timeline) (more : List Transmission) (i : Nat) :
    ({ s with log := s.log ++ more } : Timeline).times i
      = s.times i ++ (more.filter (·.pos = i)).map (·.time) := by
  simp [times]

/-- A message that was not sent yet was never transmitted. -/
theorem Scheduled.times_unsent (h : Scheduled r m s) : s.times s.sent.length = [] := by
  rw [times, List.map_eq_nil_iff, List.filter_eq_nil_iff]
  intro t ht hpos
  obtain ⟨msg, hmsg, -⟩ := h.logged t ht
  rw [of_decide_eq_true hpos, List.getElem?_eq_none (le_refl _)] at hmsg
  cases hmsg

/-- The queue holds the end of the messages sent. -/
theorem Scheduled.length_base (h : Scheduled r m s) :
    s.base + s.peer.sendQueue.length = s.sent.length := by
  have := h.queue_le
  rw [base]
  omega

/-- The code's test of a timer is the one of the record. -/
theorem Timed.due_iff {pending : PendingSend} (h : Timed r (s.times i) pending)
    (hr : s.peer.retransmitInterval = r) :
    s.due now i = true ↔ ¬ now - pending.sentAt < pending.nextRto := by
  rw [due, h.sentAt, hr, h.nextRto, decide_eq_true_iff, not_lt, le_sub_iff_add_le, add_comm]

end Record

/-! ## `send`

A first transmission, at the time the caller gives. -/

section Send

variable {s : Timeline} {r : ℚ} {m : Int} {avps : List AVP} {now : ℚ}

/-- A message that is sent is transmitted for the first time. -/
theorem Scheduled.send (h : Scheduled r m s) (hm : 0 ≤ m) (hr : r ≤ retransmitMaxInterval) :
    Scheduled r m (s.act (.send avps now)) := by
  rw [act]
  cases hsend : s.peer.send avps now with
  | error e => exact h
  | ok result =>
    obtain ⟨msg, peer⟩ := result
    obtain ⟨-, hmsg, encoded, henc, rfl⟩ := Peer.send_eq_ok.mp hsend
    have hlen := h.length_base
    have hwf := ControlMessage.wellFormed_of_encode henc
    simp only [henc]
    set t : Transmission := ⟨s.sent.length, now, s.peer.nrExpect, encoded⟩ with ht
    set entry : PendingSend := ⟨msg, encoded, now, 0, s.peer.retransmitInterval⟩ with hentry
    set s' : Timeline := ⟨{ s.peer with
      sendQueue := s.peer.sendQueue ++ [entry]
      nsSend := seqAdvance s.peer.nsSend }, s.sent ++ [msg], s.log ++ [t]⟩ with hs'
    show Scheduled r m s'
    have hbase : s'.base = s.base := by simp [base, s']
    -- the new message gets its first transmission, the others none
    have htimes : ∀ i, s'.times i = if i = s.sent.length then [now] else s.times i := by
      intro i
      have happend : s'.times i = s.times i ++ ([t].filter (·.pos = i)).map (·.time) :=
        times_append s [t] i
      rw [happend]
      by_cases hi : i = s.sent.length
      · subst hi
        simp [h.times_unsent, t]
      · simp [t, hi, Ne.symm hi]
    -- what was sent before keeps its position
    have hsent : ∀ (i : Nat) msg', s.sent[i]? = some msg' → s'.sent[i]? = some msg' := by
      intro i msg' hi
      rw [List.getElem?_append_left (List.getElem?_eq_some_iff.mp hi).1, hi]
    have hnew : s'.sent[s.sent.length]? = some msg := by simp [s']
    -- a position of the longer queue is an old one or the last
    have hcases : ∀ (j : Nat) pending, s'.peer.sendQueue[j]? = some pending →
        s.peer.sendQueue[j]? = some pending ∨
          (s.base + j = s.sent.length ∧ pending = entry) := by
      intro j pending hj
      rcases Nat.lt_or_ge j s.peer.sendQueue.length with hlt | hge
      · rw [List.getElem?_append_left hlt] at hj
        exact .inl hj
      · rw [List.getElem?_append_right hge] at hj
        obtain ⟨hj0, rfl⟩ := List.getElem?_eq_some_iff.mp hj
        have hjq : j = s.peer.sendQueue.length := by simp at hj0; omega
        exact .inr ⟨by omega, by simp [hjq]⟩
    exact {
      interval := h.interval
      maxRetries := h.maxRetries
      nrExpect := h.nrExpect
      nsSend := by simp [s', h.nsSend, Peer.seqAdvance_counter]
      numbered := by
        intro i msg' hi
        rcases Nat.lt_or_ge i s.sent.length with hlt | hge
        · rw [List.getElem?_append_left hlt] at hi
          exact h.numbered i msg' hi
        · rw [List.getElem?_append_right hge] at hi
          obtain ⟨hi0, rfl⟩ := List.getElem?_eq_some_iff.mp hi
          have hil : i = s.sent.length := by simp at hi0; omega
          subst hil
          refine ⟨?_, by simpa using hwf⟩
          simp [hmsg, h.nsSend]
      queue_le := by simpa [s'] using h.queue_le
      queued := by
        intro j pending hj
        rw [hbase]
        rcases hcases j pending hj with hold | ⟨hpos, rfl⟩
        · obtain ⟨msg', nr, hmsg', hnr⟩ := h.queued j pending hold
          exact ⟨msg', nr, hsent _ _ hmsg', hnr⟩
        · exact ⟨msg, msg.nr, by rw [hpos, hnew], rfl⟩
      logged := by
        intro t' ht'
        rcases List.mem_append.mp ht' with hold | hlast
        · obtain ⟨msg', hmsg', hdec⟩ := h.logged t' hold
          exact ⟨msg', hsent _ _ hmsg', hdec⟩
        · obtain rfl := List.mem_singleton.mp hlast
          refine ⟨msg, hnew, ?_⟩
          rw [show ({ msg with nr := t.nrExpect } : ControlMessage) = msg by rw [hmsg]]
          exact ControlMessage.decode_of_encode henc
      spaced := by
        intro i
        rw [htimes]
        split
        · exact Spaced.nil.concat fun _ h => by cases h
        · exact h.spaced i
      bounded := by
        intro i
        rw [htimes]
        split
        · simpa using hm
        · exact h.bounded i
      timers := by
        intro hdead j pending hj
        rw [hbase, htimes]
        rcases hcases j pending hj with hold | ⟨hpos, rfl⟩
        · have hlt := (List.getElem?_eq_some_iff.mp hold).1
          rw [if_neg (by omega)]
          exact h.timers hdead j pending hold
        · rw [if_pos hpos]
          exact ⟨rfl, rfl, by rw [hentry, h.interval]; exact (delay_zero hr).symm⟩ }

end Send

/-! ## `receive`

Acknowledged messages leave the record of those that are due, and nothing is transmitted. -/

section Receive

variable {s : Timeline} {r : ℚ} {m : Int} {msg : ControlMessage}

/-- A message that is received only shortens the queue. -/
theorem Scheduled.receive (h : Scheduled r m s) : Scheduled r m (s.act (.receive msg)) := by
  obtain ⟨n, hn, nr, reorder, hrange, hrecv⟩ := Peer.receive_parts s.peer msg
  have hnr := hrange h.nrExpect
  have hlen := h.length_base
  rw [act, hrecv]
  set s' : Timeline := { s with peer := { s.peer with
    sendQueue := s.peer.sendQueue.drop n, nrExpect := nr, reorder := reorder } } with hs'
  show Scheduled r m s'
  -- an entry of the shorter queue is an old one, `n` further
  have hbase : s'.base = s.base + n := by
    simp only [base, s', List.length_drop]
    omega
  have hold : ∀ (j : Nat) pending, s'.peer.sendQueue[j]? = some pending →
      s.peer.sendQueue[n + j]? = some pending := by
    intro j pending hj
    rwa [List.getElem?_drop] at hj
  exact {
    interval := h.interval
    maxRetries := h.maxRetries
    nrExpect := hnr
    nsSend := h.nsSend
    numbered := h.numbered
    queue_le := by simp only [s', List.length_drop]; omega
    queued := fun j pending hj => by
      rw [hbase, Nat.add_assoc]
      exact h.queued (n + j) pending (hold j pending hj)
    logged := h.logged
    spaced := h.spaced
    bounded := h.bounded
    timers := fun hdead j pending hj => by
      rw [hbase, Nat.add_assoc]
      exact h.timers hdead (n + j) pending (hold j pending hj) }

end Receive

/-! ## `tick`

What is resent are the messages whose timer has expired, unless one of them has no retry left; then
the peer is dead and nothing is sent at all. -/

/-- The expired entries, by any test that agrees with the one of the code. -/
theorem resendPositions_eq_filter {now : ℚ} {queue : List PendingSend} (P : Nat → Bool)
    (base : Nat) (h : ∀ (j : Nat) pending, queue[j]? = some pending →
      (P (base + j) = true ↔ ¬ now - pending.sentAt < pending.nextRto)) :
    Peer.resendPositions now base queue = (List.range' base queue.length).filter P := by
  induction queue generalizing base with
  | nil => rfl
  | cons pending rest ih =>
    -- the head, and the rest one position later
    have hhead := h 0 pending rfl
    rw [Nat.add_zero] at hhead
    have hrest := ih (base + 1) fun j p hj => by
      have := h (j + 1) p (by simpa using hj)
      rwa [show base + (j + 1) = base + 1 + j from by omega] at this
    rw [Peer.resendPositions, List.length_cons, List.range'_succ, hrest]
    split
    · rename_i hfresh
      rw [List.filter_cons_of_neg fun hP => hhead.mp hP hfresh]
    · rename_i hexpired
      rw [List.filter_cons_of_pos (hhead.mpr hexpired)]

/-- One time for each position that was resent, none for the others. -/
theorem times_zip (now : ℚ) (nr : Int) (i : Nat) {positions : List Nat} (hnodup : positions.Nodup)
    {resend : List Bytes} (hlen : resend.length = positions.length) :
    (((resend.zip positions).map fun (bs, i) => (⟨i, now, nr, bs⟩ : Transmission)).filter
      (·.pos = i)).map (·.time) = if i ∈ positions then [now] else [] := by
  induction positions generalizing resend with
  | nil => simp
  | cons pos positions ih =>
    cases resend with
    | nil => simp at hlen
    | cons bs resend =>
      have hrest := ih hnodup.of_cons (by simpa using hlen)
      simp only [List.zip_cons_cons, List.map_cons]
      -- the positions are distinct, so at most one of them is this one
      by_cases hi : pos = i
      · subst hi
        have hnot : pos ∉ positions := (List.nodup_cons.mp hnodup).1
        rw [if_neg hnot] at hrest
        rw [List.filter_cons_of_pos (by simp), List.map_cons, hrest, if_pos List.mem_cons_self]
      · rw [List.filter_cons_of_neg (by simpa using hi), hrest]
        simp [Ne.symm hi]

/-- Two lists that are related are related at each place. -/
theorem forall₂_at {α β : Type} {R : α → β → Prop} {l : List α} {l' : List β}
    (h : List.Forall₂ R l l') {j : Nat} {y : β} (hj : l'[j]? = some y) :
    ∃ x, l[j]? = some x ∧ R x y := by
  obtain ⟨hlt, rfl⟩ := List.getElem?_eq_some_iff.mp hj
  have hlt' : j < l.length := h.length_eq ▸ hlt
  exact ⟨l[j], List.getElem?_eq_getElem hlt', h.get hlt' hlt⟩

/-- The entry that is sent again waits twice as long, up to the cap. -/
theorem Timed.repeated {r now : ℚ} {nr : Int} {times : List ℚ} {pending : PendingSend}
    (h : Timed r times pending) (encoded : Bytes) :
    Timed r (times ++ [now]) { pending.refresh now nr with encoded := encoded } := by
  have hretries := h.retries
  -- the entry was sent before, so there is a delay to double
  have hpos : 0 < times.length := by
    have := h.sentAt
    cases times with
    | nil => cases this
    | cons t times => simp
  refine ⟨by simp [PendingSend.refresh], ?_, ?_⟩
  · rw [List.length_append, List.length_singleton]
    push_cast
    rw [hretries]
    rfl
  · show min (pending.nextRto * 2) retransmitMaxInterval = _
    rw [h.nextRto, delay_succ (by decide), List.length_append, List.length_singleton,
      Nat.sub_add_cancel hpos, Nat.add_sub_cancel]

section Tick

variable {s : Timeline} {r : ℚ} {m : Int} {now : ℚ}

/-- The code's test of the timers is the one of the record. -/
theorem Scheduled.positions (h : Scheduled r m s) (hdead : s.peer.dead = false) (now : ℚ) :
    Peer.resendPositions now s.base s.peer.sendQueue = s.unacked.filter (s.due now) :=
  resendPositions_eq_filter _ _ fun j pending hj => (h.timers hdead j pending hj).due_iff h.interval

/-- No position is queued twice. -/
theorem nodup_unacked (s : Timeline) (P : Nat → Bool) : (s.unacked.filter P).Nodup :=
  (List.nodup_range' (s := s.base)).filter _

/-- A queued message is encoded again with any Nr of 16 bits. -/
theorem Scheduled.encodes (h : Scheduled r m s) {pending : PendingSend}
    (hp : pending ∈ s.peer.sendQueue) :
    ∃ bs, ControlMessage.encode { pending.msg with nr := s.peer.nrExpect } = .ok bs := by
  obtain ⟨j, hj⟩ := List.mem_iff_getElem?.mp hp
  obtain ⟨msg, nr, hmsg, heq⟩ := h.queued j pending hj
  obtain ⟨-, c0, c1, s0, s1, -, -, hplain, hsize⟩ := h.numbered _ msg hmsg
  rw [heq]
  exact ⟨_, ControlMessage.encode_of_wellFormed
    ⟨c0, c1, s0, s1, h.nrExpect.1, h.nrExpect.2, hplain, hsize⟩⟩

/-- Timers and Nr apart, the queue after a tick is the one before it. -/
theorem Scheduled.queued_tick (h : Scheduled r m s) {queue : List PendingSend}
    (hc : queue.map PendingSend.content = s.peer.sendQueue.map PendingSend.content) (j : Nat)
    (pending : PendingSend) (hj : queue[j]? = some pending) :
    ∃ msg nr, s.sent[s.base + j]? = some msg ∧ pending.msg = { msg with nr := nr } := by
  have hmap : (queue.map PendingSend.content)[j]? = some pending.content := by
    rw [List.getElem?_map, hj]
    rfl
  -- the entry at this place had the same content before the tick
  rw [hc, List.getElem?_map, Option.map_eq_some_iff] at hmap
  obtain ⟨old, hold, heq⟩ := hmap
  obtain ⟨msg, nr, hmsg, hnr⟩ := h.queued j old hold
  simp only [PendingSend.content, Prod.mk.injEq, hnr] at heq
  refine ⟨msg, pending.msg.nr, hmsg, ?_⟩
  obtain ⟨h1, h2, h3⟩ := heq
  rw [h1, h2, h3]

/-- **Everything a tick of a live peer can do**: resend what is due, or find a message without a
retry left. -/
theorem Scheduled.tick_cases (h : Scheduled r m s) (hdead : s.peer.dead = false) (now : ℚ) :
    ∃ queue resend dead,
      Peer.tickLoop now s.peer.nrExpect m s.peer.sendQueue = (queue, .ok (resend, dead)) ∧
      s.peer.tick now = (.ok (resend, dead), { s.peer with sendQueue := queue, dead := dead }) := by
  obtain ⟨queue, resend, dead, htick⟩ : ∃ queue resend dead,
      Peer.tickLoop now s.peer.nrExpect m s.peer.sendQueue = (queue, .ok (resend, dead)) :=
    Peer.tickLoop_returns fun p hp => h.encodes hp
  have htick' : Peer.tickLoop now s.peer.nrExpect s.peer.maxRetries s.peer.sendQueue
      = (queue, .ok (resend, dead)) := h.maxRetries ▸ htick
  refine ⟨queue, resend, dead, htick, ?_⟩
  rw [Peer.tick, hdead, htick']
  rfl

/-- A message is among those that are due if its entry has expired. -/
theorem Scheduled.mem_due (h : Scheduled r m s) (hdead : s.peer.dead = false) {j : Nat}
    {pending : PendingSend} (hj : s.peer.sendQueue[j]? = some pending) :
    s.base + j ∈ s.unacked.filter (s.due now) ↔ ¬ now - pending.sentAt < pending.nextRto := by
  have hlt := (List.getElem?_eq_some_iff.mp hj).1
  rw [List.mem_filter, (h.timers hdead j pending hj).due_iff h.interval, unacked,
    List.mem_range'_1]
  exact and_iff_right ⟨by omega, by omega⟩

/-- Those that are due are in the queue. -/
theorem entry_of_unacked {i : Nat} (hi : i ∈ s.unacked) :
    ∃ j pending, i = s.base + j ∧ s.peer.sendQueue[j]? = some pending := by
  obtain ⟨hlo, hhi⟩ := List.mem_range'_1.mp hi
  exact ⟨i - s.base, _, by omega, List.getElem?_eq_getElem (by omega)⟩

/-- The record after a tick that leaves the peer alive. -/
theorem Scheduled.times_tick (h : Scheduled r m s) (hdead : s.peer.dead = false)
    {queue : List PendingSend} {resend : List Bytes}
    (htick : Peer.tickLoop now s.peer.nrExpect m s.peer.sendQueue = (queue, .ok (resend, false)))
    (i : Nat) : ({ s with log := s.log ++ s.resent now resend } : Timeline).times i
      = s.times i ++ if i ∈ s.unacked.filter (s.due now) then [now] else [] := by
  have hlen := Peer.length_resend s.base htick
  rw [times_append, resent, h.positions hdead]
  rw [h.positions hdead] at hlen
  rw [times_zip _ _ _ (s.nodup_unacked _) hlen]

/-- **A tick that leaves the peer alive.** -/
theorem Scheduled.tick_alive (h : Scheduled r m s) (hdead : s.peer.dead = false)
    {queue : List PendingSend} {resend : List Bytes}
    (htick : Peer.tickLoop now s.peer.nrExpect m s.peer.sendQueue = (queue, .ok (resend, false))) :
    Scheduled r m { s with
      peer := { s.peer with sendQueue := queue, dead := false }
      log := s.log ++ s.resent now resend } := by
  have hticked := Peer.tickLoop_ticked htick
  have hqlen : queue.length = s.peer.sendQueue.length := hticked.length_eq.symm
  have hcontent : queue.map PendingSend.content = s.peer.sendQueue.map PendingSend.content := by
    have := Peer.tickLoop_content now s.peer.nrExpect m s.peer.sendQueue
    rwa [htick] at this
  set s' : Timeline := { s with
    peer := { s.peer with sendQueue := queue, dead := false }
    log := s.log ++ s.resent now resend } with hs'
  have hbase : s'.base = s.base := by simp [base, s', hqlen]
  have htimes : ∀ i, s'.times i
      = s.times i ++ if i ∈ s.unacked.filter (s.due now) then [now] else [] :=
    h.times_tick hdead htick
  exact {
    interval := h.interval
    maxRetries := h.maxRetries
    nrExpect := h.nrExpect
    nsSend := h.nsSend
    numbered := h.numbered
    queue_le := hqlen ▸ h.queue_le
    queued := fun j pending hj => hbase ▸ h.queued_tick hcontent j pending hj
    logged := by
      intro t ht
      rcases List.mem_append.mp ht with hold | hnew
      · exact h.logged t hold
      -- a new transmission is the message of its position, with the Nr of now
      · obtain ⟨⟨bs, i⟩, hmem, rfl⟩ := List.mem_map.mp hnew
        obtain ⟨j, pending, rfl, hj, henc⟩ := Peer.tickLoop_resend s.base htick bs i hmem
        obtain ⟨msg, nr, hmsg, heq⟩ := h.queued j pending hj
        rw [heq] at henc
        exact ⟨msg, hmsg, ControlMessage.decode_of_encode henc⟩
    spaced := by
      intro i
      rw [htimes]
      split
      · rename_i hdue
        -- the delay after the last transmission has passed
        refine (h.spaced i).concat fun t ht => ?_
        have hpassed := (List.mem_filter.mp hdue).2
        rw [due, ht, h.interval] at hpassed
        exact of_decide_eq_true hpassed
      · rw [List.append_nil]
        exact h.spaced i
    bounded := by
      intro i
      rw [htimes]
      split
      · rename_i hdue
        obtain ⟨j, pending, rfl, hj⟩ := entry_of_unacked (List.mem_filter.mp hdue).1
        have hexpired := (h.mem_due hdead hj).mp hdue
        have hretries := (h.timers hdead j pending hj).retries
        -- the tick went on, so the entry had a retry left
        obtain ⟨pending', hj'⟩ : ∃ pending', queue[j]? = some pending' :=
          ⟨_, List.getElem?_eq_getElem (hqlen ▸ (List.getElem?_eq_some_iff.mp hj).1)⟩
        obtain ⟨old, hold, hround⟩ := forall₂_at hticked hj'
        cases hj.symm.trans hold
        rcases hround with ⟨hfresh, -⟩ | ⟨-, hretry, -⟩
        · exact absurd hfresh hexpired
        · rw [List.length_append, List.length_singleton]
          push_cast
          omega
      · rw [List.append_nil]
        exact h.bounded i
    timers := by
      intro _ j pending' hj'
      -- the entry kept its timer, or it was sent and its timer starts again
      obtain ⟨pending, hj, hround⟩ := forall₂_at hticked hj'
      have htimed := h.timers hdead j pending hj
      rw [hbase, htimes]
      rcases hround with ⟨hfresh, rfl⟩ | ⟨hexpired, -, encoded, rfl⟩
      · rw [if_neg fun hdue => (h.mem_due hdead hj).mp hdue hfresh, List.append_nil]
        exact htimed
      · rw [if_pos ((h.mem_due hdead hj).mpr hexpired)]
        exact htimed.repeated encoded }

end Tick

/-- **A tick that finds the peer dead** sends nothing. -/
theorem Scheduled.tick_dead {s : Timeline} {r : ℚ} {m : Int} {now : ℚ} (h : Scheduled r m s)
    {queue : List PendingSend} {resend : List Bytes}
    (htick : Peer.tickLoop now s.peer.nrExpect m s.peer.sendQueue = (queue, .ok (resend, true))) :
    Scheduled r m { s with peer := { s.peer with sendQueue := queue, dead := true } } := by
  have hcontent : queue.map PendingSend.content = s.peer.sendQueue.map PendingSend.content := by
    have := Peer.tickLoop_content now s.peer.nrExpect m s.peer.sendQueue
    rwa [htick] at this
  have hqlen : queue.length = s.peer.sendQueue.length := by
    simpa using congrArg List.length hcontent
  exact {
    interval := h.interval
    maxRetries := h.maxRetries
    nrExpect := h.nrExpect
    nsSend := h.nsSend
    numbered := h.numbered
    queue_le := hqlen ▸ h.queue_le
    -- the pass may have refreshed entries before it found the dead one; their contents stay
    queued := fun j pending hj => by
      have hbase : Timeline.base { s with peer := { s.peer with sendQueue := queue, dead := true } }
          = s.base := by simp [base, hqlen]
      exact hbase ▸ h.queued_tick hcontent j pending hj
    logged := h.logged
    spaced := h.spaced
    bounded := h.bounded
    timers := fun halive => by cases halive }

/-- A tick of a dead peer does nothing. -/
theorem tick_of_dead {p : Peer} (hdead : p.dead = true) (now : ℚ) :
    p.tick now = (.ok ([], true), p) := by
  rw [Peer.tick, hdead, if_pos rfl]

theorem resent_nil (s : Timeline) (now : ℚ) : s.resent now [] = [] := rfl

/-- A tick keeps the schedule, whether the peer is dead, is found dead, or lives on. -/
theorem Scheduled.tick {s : Timeline} {r : ℚ} {m : Int} (h : Scheduled r m s) (now : ℚ) :
    Scheduled r m (s.act (.tick now)) := by
  cases hdead : s.peer.dead with
  | true =>
    rw [act, tick_of_dead hdead]
    simpa only [resent_nil, List.append_nil] using h
  | false =>
    obtain ⟨queue, resend, dead, htick, hrun⟩ := h.tick_cases hdead now
    rw [act, hrun]
    cases dead with
    | true =>
      obtain rfl := Peer.resend_of_dead htick
      simpa only [resent_nil, List.append_nil] using h.tick_dead htick
    | false => exact h.tick_alive hdead htick

/-! ## Runs

The caller may pass any times. The schedule is kept by every call, so it holds in every state that a
run leads to. -/

/-- A peer that has sent nothing yet. -/
def start (localCcid remoteCcid receiveWindow : Int) (r : ℚ) (m : Int) : Timeline :=
  { peer := Peer.init localCcid remoteCcid receiveWindow r m }

/-- The states that some run leads to. -/
abbrev Reached (s₀ s : Timeline) : Prop := Transition.Reach act (fun _ _ => True) s₀ s

/-- A peer that was just constructed has nothing to keep to yet. -/
theorem scheduled_start (localCcid remoteCcid receiveWindow : Int) (r : ℚ) {m : Int} (hm : 0 ≤ m) :
    Scheduled r m (start localCcid remoteCcid receiveWindow r m) where
  interval := rfl
  maxRetries := rfl
  nrExpect := ⟨le_refl (0 : Int), show (0 : Int) ≤ 0xFFFF by decide⟩
  nsSend := rfl
  numbered := fun i msg hi => by simp [start] at hi
  queue_le := le_refl _
  queued := fun j pending hj => by simp [start, Peer.init] at hj
  logged := fun t ht => by simp [start] at ht
  spaced := fun i => Spaced.nil
  bounded := fun i => by
    show (0 : Int) ≤ m + 1
    omega
  timers := fun _ j pending hj => by simp [start, Peer.init] at hj

/-- Every run keeps the schedule. -/
theorem Reached.scheduled {localCcid remoteCcid receiveWindow m : Int} {r : ℚ} {s : Timeline}
    (h : Reached (start localCcid remoteCcid receiveWindow r m) s) (hm : 0 ≤ m)
    (hr : r ≤ retransmitMaxInterval) : Scheduled r m s := by
  refine Transition.Reach.invariant (scheduled_start _ _ _ r hm) (fun s e hs _ => ?_) h
  cases e with
  | send avps now => exact hs.send hm hr
  | receive msg => exact hs.receive
  | tick now => exact hs.tick now

/-- A dead peer stays dead. -/
theorem dead_act {s : Timeline} (hdead : s.peer.dead = true) (e : Event) :
    (s.act e).peer.dead = true := by
  cases e with
  | send avps now =>
    rw [act]
    cases hsend : s.peer.send avps now with
    | error e => exact hdead
    | ok result =>
      obtain ⟨msg, peer⟩ := result
      obtain ⟨-, -, encoded, -, rfl⟩ := Peer.send_eq_ok.mp hsend
      exact hdead
  | receive msg =>
    rcases Peer.receive_cases s.peer msg with ⟨-, hr⟩ | ⟨-, q, rfl, ⟨-, hr⟩ | ⟨-, _, _, _, -, hr⟩ |
        ⟨-, -, hr⟩ | ⟨-, -, -, hr⟩ | ⟨-, -, -, hr⟩⟩
    all_goals
      rw [act, hr]
      exact hdead
  | tick now =>
    rw [act, tick_of_dead hdead]
    exact hdead

/-- **The retransmission schedule.** Whatever is sent, received and ticked, in whatever order
and with whatever clock:

* the transmissions of a message are separated by at least `r`, `2r`, `4r`, …, at most 16
  seconds each, and there are at most `m + 1` of them;
* each one decodes to the message that was sent, numbered by its position, with the Nr of its
  moment;
* a tick of a live peer resends exactly the unacknowledged messages that are due, in their
  order, or it finds the peer dead, resends nothing, and one of them is due that was
  transmitted `m + 1` times;
* a dead peer stays dead, and its ticks resend nothing. -/
theorem retransmission_schedule {localCcid remoteCcid receiveWindow m : Int} {r : ℚ}
    {s : Timeline} (hm : 0 ≤ m) (hr : r ≤ 16)
    (h : Reached (start localCcid remoteCcid receiveWindow r m) s) :
    (∀ i, Spaced (fun k => min (r * 2 ^ k) 16) (s.times i) ∧
      ((s.times i).length : Int) ≤ m + 1) ∧
    (∀ t ∈ s.log, ∃ msg, s.sent[t.pos]? = some msg ∧ msg.ns = (t.pos : Int) % 0x10000 ∧
      ControlMessage.decode t.bytes = .ok { msg with nr := t.nrExpect }) ∧
    (s.peer.dead = false → ∀ now,
      (∃ resend, (s.peer.tick now).1 = .ok (resend, false) ∧
        (s.act (.tick now)).log = s.log ++ s.resent now resend ∧
        (s.resent now resend).map (·.bytes) = resend ∧
        (s.resent now resend).map (·.pos) = s.unacked.filter (s.due now)) ∨
      ((s.peer.tick now).1 = .ok ([], true) ∧ (s.act (.tick now)).log = s.log ∧
        (s.act (.tick now)).peer.dead = true ∧
        ∃ i ∈ s.unacked, s.due now i = true ∧ ((s.times i).length : Int) = m + 1)) ∧
    (s.peer.dead = true → (∀ e, (s.act e).peer.dead = true) ∧
      ∀ now, (s.peer.tick now).1 = .ok ([], true) ∧ (s.act (.tick now)).log = s.log) := by
  have hs := h.scheduled hm hr
  refine ⟨fun i => ⟨hs.spaced i, hs.bounded i⟩, fun t ht => ?_, fun hdead now => ?_,
    fun hdead => ⟨dead_act hdead, fun now => ?_⟩⟩
  · obtain ⟨msg, hmsg, hdec⟩ := hs.logged t ht
    exact ⟨msg, hmsg, (hs.numbered _ _ hmsg).1, hdec⟩
  -- a tick of a living peer, which finds it alive or dead
  · obtain ⟨queue, resend, dead, htick, hrun⟩ := hs.tick_cases hdead now
    rw [act, hrun]
    cases dead with
    | false =>
      have hlen := Peer.length_resend s.base htick
      refine .inl ⟨resend, rfl, rfl, ?_, ?_⟩
      · rw [resent, List.map_map]
        exact List.map_fst_zip hlen.le
      · rw [resent, List.map_map, ← hs.positions hdead]
        exact List.map_snd_zip hlen.ge
    | true =>
      obtain rfl := Peer.resend_of_dead htick
      obtain ⟨pending, hp, hexpired, hover⟩ := Peer.tickLoop_dead htick
      obtain ⟨j, hj⟩ := List.mem_iff_getElem?.mp hp
      obtain ⟨hmem, hdue⟩ := List.mem_filter.mp ((hs.mem_due hdead hj).mpr hexpired)
      have hretries := (hs.timers hdead j pending hj).retries
      have hbounded := hs.bounded (s.base + j)
      exact .inr ⟨rfl, List.append_nil _, rfl, s.base + j, hmem, hdue, by omega⟩
  -- a tick of a dead peer
  · rw [act, tick_of_dead hdead]
    exact ⟨rfl, List.append_nil _⟩

/-- A HELLO that is never acknowledged: sent at 0, again at 1 and at 3. -/
def unanswered : List Event :=
  [.send [⟨AttrType.messageType.code, [0, 6], true, false, 0⟩] 0, .tick 1, .tick (5 / 2), .tick 3]

/-- With two repeats allowed, the tick at 7 finds the peer dead. -/
theorem retransmission_schedule_unanswered :
    let s := unanswered.foldl act (start 7 9 4 1 2)
    s.times 0 = [0, 1, 3] ∧ Spaced (fun k => min (1 * 2 ^ k) 16) (s.times 0) ∧
      (s.peer.tick (13 / 2)).1 = .ok ([], false) ∧ (s.peer.tick 7).1 = .ok ([], true) ∧
      ∃ i ∈ s.unacked, s.due 7 i = true ∧ ((s.times i).length : Int) = 2 + 1 := by
  intro s
  have hreached : Reached (start 7 9 4 1 2) s :=
    Transition.Reach.run .start (by simp [unanswered, Transition.Guarded])
  obtain ⟨hspaced, -, hticks, -⟩ := retransmission_schedule (by decide) (by norm_num) hreached
  have hdead : (s.peer.tick 7).1 = .ok ([], true) := by decide +kernel
  refine ⟨by decide +kernel, (hspaced 0).1, by decide +kernel, hdead, ?_⟩
  rcases hticks (by decide +kernel) 7 with ⟨resend, hlive, -⟩ | ⟨-, -, -, hout⟩
  · rw [hdead] at hlive
    cases hlive
  · exact hout

end Timeline

end L2tpv3d
