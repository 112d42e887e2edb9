import L2tpv3d.Daemon.Steady

/-!
# L2tpv3d — a peer that stops acknowledging is given up

A tunnel that still has something to be acknowledged waits for it at most `max_retries` times the
cap of the back-off: the tick loop repeats the oldest message, and removes the tunnel when that
message has no retry left. Whatever else happens in the meantime changes nothing about it, not even
messages of the peer, as long as none of them acknowledges the message.

* `Since` — what the handlers of a tunnel make of time: the clock only moves on, and nothing is
  queued that was sent later than what it shows; `Elapsed` — the daemon.
* `Patient` — the timers of a peer run for at most the cap.
* `Owed` — the oldest message was repeated so often, or was last sent before the round began;
  `tick_owed` — the tick that is due since then repeats it once more, or gives up.
* **`given_up`** — the tunnel is gone after `max_retries + 1` rounds.
-/

namespace L2tpv3d

open Py Prog

namespace Silence

open Tunnel World Crash Steady

variable {δ : Type} {hmac : Hmac}

/-! ## The queue after a tick

A tick replaces the entries of the queue by ones with another Nr and another count of repeats, and
drops none. -/

/-- A property of the entries that a retry keeps holds of all of them after a tick, whether it
returns or raises. -/
theorem tickLoop_forall {Q : PendingSend → Prop} {now : ℚ} {nr maxRetries : Int}
    (hretry : ∀ pending : PendingSend, Q pending → Q { pending with retries := pending.retries + 1 })
    (hrefresh : ∀ (pending : PendingSend) encoded, Q pending →
      Q { pending.refresh now nr with encoded := encoded }) {queue : List PendingSend}
    (h : ∀ pending ∈ queue, Q pending) :
    ∀ pending ∈ (Peer.tickLoop now nr maxRetries queue).1, Q pending := by
  induction queue with
  | nil => exact h
  | cons head rest ih =>
    have hhead := h head List.mem_cons_self
    have hrest := fun pending hmem => h pending (List.mem_cons_of_mem head hmem)
    rw [Peer.tickLoop]
    split
    · exact List.forall_mem_cons.mpr ⟨hhead, ih hrest⟩
    · split
      · exact List.forall_mem_cons.mpr ⟨hretry head hhead, hrest⟩
      -- an entry that cannot be written again ends the loop
      · cases henc : (head.refresh now nr).msg.encode with
        | error e =>
          simp only [henc]
          exact List.forall_mem_cons.mpr ⟨hrefresh head head.encoded hhead, hrest⟩
        | ok encoded =>
          simp only [henc]
          exact List.forall_mem_cons.mpr ⟨hrefresh head encoded hhead, ih hrest⟩

/-- The same of the tick itself, whatever becomes of its loop. -/
theorem tick_forall {Q : PendingSend → Prop} {p : Peer} {now : ℚ}
    (hretry : ∀ pending : PendingSend, Q pending → Q { pending with retries := pending.retries + 1 })
    (hrefresh : ∀ (pending : PendingSend) encoded, Q pending →
      Q { pending.refresh now p.nrExpect with encoded := encoded })
    (h : ∀ pending ∈ p.sendQueue, Q pending) : ∀ pending ∈ (p.tick now).2.sendQueue, Q pending := by
  have hloop : ∀ pending ∈ (Peer.tickLoop now p.nrExpect p.maxRetries p.sendQueue).1, Q pending :=
    tickLoop_forall hretry hrefresh h
  rcases Peer.tick_cases p now with ⟨-, ht⟩ | ⟨-, queue, result, hq, ⟨_, _, -, ht⟩ | ⟨_, -, ht⟩⟩
  · rw [ht]
    exact h
  · rw [hq] at hloop
    rw [ht]
    exact hloop
  · rw [hq] at hloop
    rw [ht]
    exact hloop

/-! ## Time only moves on

The times in the queue are readings of the clock. `Since` says how far back they go, for every
handler, so that a difference of two times is never negative. -/

/-- The clock shows the readings of the run from one of them on, at the earliest from the `k₀`th,
and nothing that is queued was sent after that. -/
def Since (clock : Nat → ℚ) (k₀ : Nat) (w : World δ) : Prop :=
  ∃ k, k₀ ≤ k ∧ (w.clock = fun n => clock (n + k)) ∧
    ∀ pending ∈ w.tunnel.peer.sendQueue, pending.sentAt ≤ clock k

variable {clock : Nat → ℚ} {k₀ : Nat}

/-- The next reading is one more on. -/
theorem Since.tocked (hclock : Monotone clock) {w : World δ} (h : Since clock k₀ w) :
    Since clock k₀ (tocked w) := by
  obtain ⟨k, hk, hread, hsent⟩ := h
  refine ⟨k + 1, by omega, ?_, fun pending hmem => (hsent pending hmem).trans (hclock (by omega))⟩
  funext n
  show w.clock (n + 1) = _
  rw [hread]
  show clock (n + 1 + k) = clock (n + (k + 1))
  congr 1
  omega

/-- A peer whose queue the old one accounts for. -/
theorem Since.withPeer {w : World δ} (h : Since clock k₀ w) {peer : Peer}
    (hpeer : ∀ pending ∈ peer.sendQueue, pending ∈ w.tunnel.peer.sendQueue) :
    Since clock k₀ (w.withPeer peer) := by
  obtain ⟨k, hk, hread, hsent⟩ := h
  exact ⟨k, hk, hread, fun pending hmem => hsent pending (hpeer pending hmem)⟩

/-- A message is stamped with a reading of the clock, which only moves on. -/
theorem since_send (hclock : Monotone clock) (avps : List AVP) :
    Keeps (Since clock k₀) (send (δ := δ) hmac avps) := by
  intro w h
  -- what was queued is older than the reading, and the new entry is stamped with it
  have hqueued : ∀ {msg : ControlMessage} {peer : Peer},
      w.tunnel.peer.send avps (w.clock 0) = .ok (msg, peer) →
      Since clock k₀ ((Tunnel.tocked w).withPeer peer) := by
    intro msg peer hok
    obtain ⟨-, -, encoded, -, rfl⟩ := Peer.send_eq_ok.mp hok
    obtain ⟨k, hk, hread, hsent⟩ := h
    refine ⟨k + 1, by omega, ?_, fun pending hmem => ?_⟩
    · funext n
      show w.clock (n + 1) = _
      rw [hread]
      show clock (n + 1 + k) = clock (n + (k + 1))
      congr 1
      omega
    · rcases List.mem_append.mp hmem with hold | hnew
      · exact (hsent pending hold).trans (hclock (by omega))
      · obtain rfl := List.mem_singleton.mp hnew
        show w.clock 0 ≤ clock (k + 1)
        rw [hread]
        exact hclock (by omega)
  rcases send_cases hmac avps w with ⟨e, -, hrun⟩ | ⟨msg, peer, hok, ⟨e, -, hrun⟩ | ⟨bs, -, hrun⟩⟩
  · rw [hrun]
    exact h.tocked hclock
  · rw [hrun]
    exact hqueued hok
  · rw [hrun]
    exact hqueued hok

/-- No dataplane call reads the clock. -/
theorem since_ignoresDataplane : IgnoresDataplane (δ := δ) (Since clock k₀) := fun _ _ _ _ h => h

/-- The sessions hold no times. -/
theorem since_ignoresSessions : IgnoresSessions (δ := δ) (Since clock k₀) := fun _ _ _ h => h

variable [Dataplane δ]

theorem since_callSession (hclock : Monotone clock) {m : Prog SessionFSM (List SessionAction)}
    (hm : SessionFSM.Method m) (sid : Int) {g : Tunnel → Tunnel} (hg : OnlyIndex g) :
    Keeps (Since clock k₀) (callSession (δ := δ) hmac sid m g) :=
  keeps_callSession hmac since_ignoresDataplane since_ignoresSessions
    (fun _ _ => since_send hclock _) hm sid hg

theorem since_eachSession (hclock : Monotone clock) {m : Prog SessionFSM (List SessionAction)}
    (hm : SessionFSM.Method m) : Keeps (Since clock k₀) (eachSession (δ := δ) hmac m) :=
  keeps_eachSession hmac fun sid => since_callSession hclock hm sid onlyIndex_id

theorem since_tunnelAction (hclock : Monotone clock) (a : TunnelAction) :
    Keeps (Since clock k₀) (executeTunnelAction (δ := δ) hmac a) := by
  cases a with
  | sendMessage avps => exact since_send hclock avps
  | setHelloTimer seconds => exact fun w h => h.tocked hclock
  | clearHelloTimer => exact fun w h => h
  | established =>
    exact Keeps.bind (Keeps.modify fun w h => h) fun _ =>
      since_eachSession hclock SessionFSM.method_onTunnelEstablished
  | tornDown reason =>
    refine Keeps.bind (Keeps.modify fun w h => h) fun _ => ?_
    refine Keeps.bind (since_eachSession hclock SessionFSM.method_onTunnelDown) fun _ =>
      Keeps.get_bind fun w h => ?_
    split
    · have hdel : Keeps (Since clock k₀)
          (onDataplane (Dataplane.delTunnel (δ := δ) w.tunnel.cfg.localCcid)) :=
        keeps_onDataplane since_ignoresDataplane _
      refine hdel.bind (fun _ => ?_) w h
      exact Keeps.modify fun w h => h
    · exact h

/-- A call of the tunnel machine, with its actions. -/
theorem since_drive (hclock : Monotone clock) (m : Prog TunnelFSM (List TunnelAction)) :
    Keeps (Since clock k₀) (drive (δ := δ) hmac m) := by
  intro w h
  cases hr : (m w.tunnel.fsm).1 with
  | error e =>
    rw [drive_error hmac hr]
    exact h
  | ok actions =>
    rw [drive_ok hmac hr]
    exact Keeps.each (fun a _ => since_tunnelAction hclock a) _ h

/-- A datagram only takes entries out of the queue, before its actions send. -/
theorem since_handleDatagram (hclock : Monotone clock) (buf : Bytes) :
    Keeps (Since clock k₀) (handleDatagram (δ := δ) hmac buf) := by
  intro w h
  rcases handleDatagram_cases hmac buf w with ⟨e, -, hrun⟩ |
    ⟨msg, ccid, peer, delivered, -, -, hrest⟩
  · rw [hrun]
    exact h
  · have hpeer : ∀ r acks, (w.tunnel.peer.setRemoteCcid ccid).receive msg = (r, peer) →
        Since clock k₀ (received w peer acks) := by
      intro r acks hr
      refine h.withPeer fun pending hmem => ?_
      have hin : pending ∈ ((w.tunnel.peer.setRemoteCcid ccid).receive msg).2.sendQueue := by
        rw [hr]
        exact hmem
      have hold := Peer.mem_sendQueue_receive hin
      exact hold
    -- no response; one that cannot be written; one that is, and the hand-over
    rcases hrest with ⟨hr, hrun⟩ | ⟨hr, ⟨e, -, hrun⟩ | ⟨bs, -, hrun⟩⟩
    · rw [hrun]
      exact hpeer _ [] hr
    · rw [hrun]
      exact hpeer _ [] hr
    · rw [hrun]
      split
      · exact keeps_dispatch hmac (fun _ _ _ h => h)
          (fun sid virtual => since_callSession hclock (SessionFSM.method_onMessage virtual) sid
            (onlyIndex_indexRemote sid))
          (fun virtual => since_drive hclock _) msg delivered _ (hpeer _ [bs] hr)
      · exact hpeer _ [bs] hr

/-- A tick at a time that the clock has shown. -/
theorem since_tick (hclock : Monotone clock) {now : ℚ} (hnow : now ≤ clock k₀) :
    Keeps (Since clock k₀) (Tunnel.tick (δ := δ) hmac now) := by
  intro w h
  have hticked : ∀ acks, Since clock k₀ (received w (w.tunnel.peer.tick now).2 acks) := by
    intro acks
    obtain ⟨k, hk, hread, hsent⟩ := h
    refine ⟨k, hk, hread, tick_forall (fun _ h => h) (fun _ _ _ => ?_) hsent⟩
    exact hnow.trans (hclock hk)
  -- entries are stamped with the time of the tick
  rcases tick_cases hmac now w with ⟨e, peer, ht, hrun⟩ | ⟨resends, dead, peer, ht, hrun⟩
  · rw [ht] at hticked
    rw [hrun]
    exact hticked []
  · rw [ht] at hticked
    rw [hrun]
    split
    · rw [bind_pure_snd]
      exact since_drive hclock _ _ (hticked resends)
    · exact hticked resends

/-- **Every handler of a tunnel**, at times that the clock has shown. -/
theorem since_handle (hclock : Monotone clock) (e : Tunnel.Event)
    (hnow : ∀ now, e = .tick now → now ≤ clock k₀) :
    Keeps (Since clock k₀) (Tunnel.handle (δ := δ) hmac e) := by
  cases e with
  | start => exact since_drive hclock _
  | close => exact (since_drive hclock _).bind fun _ => Keeps.modify fun _ h => h
  | datagram buf => exact since_handleDatagram hclock buf
  | tick now => exact (since_tick hclock (hnow now rfl)).bind fun _ => Keeps.pure ()
  | helloTimer =>
    refine Keeps.get_bind fun w h => ?_
    split
    · have htimer : ∀ f, Keeps (Since clock k₀) (modify (mapTimer (δ := δ) f)) :=
        fun _ => Keeps.modify fun _ h => h
      exact (htimer _).bind (fun _ => (htimer _).bind fun _ => since_drive hclock _) w h
    · exact h
  | closeSession sid resultCode =>
    exact since_callSession hclock (SessionFSM.method_onLocalClose resultCode) sid onlyIndex_id

/-! ### The daemon -/

/-- The same of a daemon, with all its tunnels. -/
def Elapsed (clock : Nat → ℚ) (k₀ : Nat) (d : Daemon δ) : Prop :=
  ∃ k, k₀ ≤ k ∧ (d.clock = fun n => clock (n + k)) ∧ ∀ ccid t, d.tunnels.get? ccid = some t →
    ∀ pending ∈ t.peer.sendQueue, pending.sentAt ≤ clock k

omit [Dataplane δ] in
/-- What one tunnel does to the clock is seen by all. -/
theorem elapsed_onTunnel {α : Type} {m : Prog (World δ) α} (hclock : Monotone clock)
    (hm : ∀ k, k₀ ≤ k → Keeps (Since clock k) m) (ccid : Int) :
    Keeps (Elapsed clock k₀) (Daemon.onTunnel ccid m) := by
  rintro d ⟨k, hk, hread, hsent⟩
  cases hget : d.tunnels.get? ccid with
  | none =>
    rw [Daemon.onTunnel_none m hget]
    exact ⟨k, hk, hread, hsent⟩
  | some t =>
    rw [Daemon.onTunnel_some m hget]
    obtain ⟨k', hk', hread', hsent'⟩ :=
      hm k hk (d.world t) ⟨k, le_refl k, hread, hsent ccid t hget⟩
    refine ⟨k', hk.trans hk', hread', fun c t' hget' pending hmem => ?_⟩
    rw [show (d.put ccid (m (d.world t)).2).tunnels = d.tunnels.set ccid _ from rfl,
      Dict.get?_set] at hget'
    split at hget'
    · cases hget'
      exact hsent' pending hmem
    · exact (hsent c t' hget' pending hmem).trans (hclock hk')

omit [Dataplane δ] in
theorem Elapsed.tocked (hclock : Monotone clock) {d : Daemon δ} (h : Elapsed clock k₀ d) :
    Elapsed clock k₀ { d with clock := fun n => d.clock (n + 1) } := by
  obtain ⟨k, hk, hread, hsent⟩ := h
  refine ⟨k + 1, by omega, ?_, fun ccid t hget pending hmem =>
    (hsent ccid t hget pending hmem).trans (hclock (by omega))⟩
  funext n
  show d.clock (n + 1) = _
  rw [hread]
  show clock (n + 1 + k) = clock (n + (k + 1))
  congr 1
  omega

/-- **Every event of a daemon.** -/
theorem elapsed_step (hclock : Monotone clock) {d : Daemon δ} (h : Elapsed clock k₀ d)
    (e : Daemon.Event) : Elapsed clock k₀ (Daemon.step hmac d e) := by
  have hcall : ∀ (ccid : Int) (e : Tunnel.Event) {m : Prog (World δ) Unit},
      m = Tunnel.handle hmac e → (∀ now, e ≠ .tick now) →
      Keeps (Elapsed clock k₀) (Daemon.onTunnel ccid m) := by
    rintro ccid e m rfl he
    exact elapsed_onTunnel hclock (fun k _ => since_handle hclock e fun now h => absurd h (he now)) ccid
  cases e with
  -- a tunnel just constructed has an empty queue
  | start =>
    refine Keeps.get_bind (fun d h => Keeps.each (fun tcfg _ => ?_) d h) d h
    refine Keeps.bind (Keeps.modify ?_) fun _ =>
      (hcall tcfg.localCcid .start rfl (by simp)).bind fun _ => Keeps.pure ()
    rintro d ⟨k, hk, hread, hsent⟩
    refine ⟨k, hk, hread, fun c t' hget' pending hmem => ?_⟩
    rw [Dict.get?_set] at hget'
    split at hget'
    · cases hget'
      cases hmem
    · exact hsent c t' hget' pending hmem
  | stop =>
    exact Keeps.each (fun ccid _ => (hcall ccid .close rfl (by simp)).bind fun _ => Keeps.pure ())
      { d with stopping := true } h
  | tick =>
    -- the time of the round is the reading before it
    obtain ⟨k, hk, hread, hsent⟩ := h
    have hnow : d.clock 0 ≤ clock k := by
      rw [hread]
      exact hclock (by omega)
    have hround : Elapsed clock k (Daemon.step hmac d .tick) := by
      refine Keeps.each (fun ccid _ => ?_) _ (Elapsed.tocked hclock ⟨k, le_refl k, hread, hsent⟩)
      refine (elapsed_onTunnel hclock (fun k' hk' => since_tick hclock (hnow.trans (hclock hk')))
        ccid).bind fun dead => ?_
      split
      · rintro d ⟨k', hk', hread', hsent'⟩
        refine ⟨k', hk', hread', fun c t' hget' pending hmem => ?_⟩
        rw [show (Prog.modify _ d).2.tunnels = d.tunnels.erase ccid from rfl, Dict.get?_erase] at hget'
        split at hget'
        · cases hget'
        · exact hsent' c t' hget' pending hmem
      · exact Keeps.pure ()
    obtain ⟨k', hk', hrest⟩ := hround
    exact ⟨k', hk.trans hk', hrest⟩
  | datagram buf =>
    rw [Daemon.step, Daemon.handle]
    rcases dispatchDatagram_cases hmac d buf with ⟨-, hrun⟩ | ⟨t, ccid, d', -, -, hget, rfl, hrun⟩
    · rw [hrun]
      exact h
    · have hone := hcall ccid (.datagram buf) rfl (by simp) _ (h.tocked hclock)
      rw [Daemon.onTunnel_some (d := { d with clock := fun n => d.clock (n + 1) }) _ hget] at hone
      rw [hrun]
      exact hone
  | helloTimer ccid =>
    exact ((hcall ccid .helloTimer rfl (by simp)).bind fun _ => Keeps.pure ()) d h

/-! ## The timers

The back-off doubles and is capped, so an entry that was sent long enough ago has expired, whatever
its retry count is. -/

/-- The timers of the peer run for at most the cap of the back-off, and it makes at most `m`
retries. -/
structure Patient (m : Int) (p : Peer) : Prop where
  maxRetries : p.maxRetries = m
  interval : p.retransmitInterval ≤ retransmitMaxInterval
  pending : ∀ pending ∈ p.sendQueue, pending.nextRto ≤ retransmitMaxInterval ∧ 0 ≤ pending.retries

/-- No handler changes the limit on the retries, and a retransmission timeout stays under the cap.
-/
theorem patient_kept (m : Int) : PeerKept (Patient m) where
  send _ h hsend := by
    obtain ⟨-, -, encoded, -, rfl⟩ := Peer.send_eq_ok.mp hsend
    refine ⟨h.maxRetries, h.interval, fun pending hmem => ?_⟩
    rcases List.mem_append.mp hmem with hold | hnew
    · exact h.pending pending hold
    · obtain rfl := List.mem_singleton.mp hnew
      exact ⟨h.interval, le_refl 0⟩
  learn h _ := ⟨h.maxRetries, h.interval, h.pending⟩
  receive {p} msg h := by
    obtain ⟨n, -, nr, reorder, -, hr⟩ := Peer.receive_parts p msg
    rw [hr]
    exact ⟨h.maxRetries, h.interval, fun pending hmem => h.pending pending (List.mem_of_mem_drop hmem)⟩
  tick {p} now h := by
    have hpending : ∀ pending ∈ (p.tick now).2.sendQueue,
        pending.nextRto ≤ retransmitMaxInterval ∧ 0 ≤ pending.retries :=
      tick_forall (fun _ h => ⟨h.1, by have := h.2; show 0 ≤ _ + 1; omega⟩)
        (fun pending _ h => ⟨min_le_right _ _, by have := h.2; show 0 ≤ pending.retries + 1; omega⟩)
        h.pending
    rcases Peer.tick_cases p now with ⟨-, ht⟩ | ⟨-, queue, result, -, ⟨_, _, -, ht⟩ | ⟨_, -, ht⟩⟩
    all_goals
      rw [ht] at hpending ⊢
      exact ⟨h.maxRetries, h.interval, hpending⟩

/-- An accepted configuration starts with an interval under the cap. -/
theorem patient_init {cfg : TunnelConfigEntry} (hacc : cfg.Accepted) :
    Patient cfg.maxRetries (Tunnel.init cfg).peer where
  maxRetries := rfl
  interval := hacc.retransmitInterval.2.trans (by rw [retransmitMaxInterval]; norm_num)
  pending := by simp [Tunnel.init, Peer.init]

/-! ## The oldest message

A round is over when the cap has passed since it began. In the meantime one repeat of the oldest
message is owed; the first tick after the cap pays it, or finds the peer dead. -/

/-- The oldest message was repeated `k` times or more, and the peer was not given up for it. -/
def Repeated (m : Int) (k : Nat) (p : Peer) : Prop :=
  ∃ head rest, p.sendQueue = head :: rest ∧ (k : Int) ≤ head.retries ∧ (0 < k → head.retries ≤ m)

/-- One repeat more is owed since the round began at `since`, unless it was made already. -/
def Owed (m : Int) (k : Nat) (since : ℚ) (p : Peer) : Prop :=
  (∃ head rest, p.sendQueue = head :: rest ∧ (k : Int) ≤ head.retries ∧ head.sentAt ≤ since) ∨
    Repeated m (k + 1) p

/-- What an acknowledgement of something older does not touch, and neither what is queued behind. -/
theorem Owed.append {m : Int} {k : Nat} {since : ℚ} {p q : Peer} {more : List PendingSend}
    (hq : q.sendQueue = p.sendQueue ++ more) (h : Owed m k since p) : Owed m k since q := by
  rcases h with ⟨head, rest, hqueue, hrest⟩ | ⟨head, rest, hqueue, hrest⟩
  · exact .inl ⟨head, rest ++ more, by rw [hq, hqueue]; rfl, hrest⟩
  · exact .inr ⟨head, rest ++ more, by rw [hq, hqueue]; rfl, hrest⟩

/-- **One tick.** The peer turns out dead, or what was owed is owed still; and when the cap has
passed since the round began, it was paid. -/
theorem tick_owed {m : Int} {k : Nat} {since now : ℚ} {p : Peer} {resends : List Bytes}
    (hp : Patient m p) (h : Owed m k since p) (hok : (p.tick now).1 = .ok (resends, false)) :
    Owed m k since (p.tick now).2 ∧
      (since + retransmitMaxInterval ≤ now → Repeated m (k + 1) (p.tick now).2) := by
  rcases Peer.tick_cases p now with ⟨-, ht⟩ | ⟨-, queue, result, hloop, ⟨_, _, rfl, ht⟩ | ⟨_, -, ht⟩⟩
  · rw [ht] at hok
    cases hok
  · rw [ht] at hok
    cases hok
    rw [ht]
    have hticked := Peer.tickLoop_ticked hloop
    rw [hp.maxRetries] at hticked
    have hcons : ∀ {head rest}, p.sendQueue = head :: rest → ∃ head' rest', queue = head' :: rest' ∧
        (now - head.sentAt < head.nextRto ∧ head' = head ∨
          head'.retries = head.retries + 1 ∧ head'.retries ≤ m) := by
      intro head rest hqueue
      rw [hqueue] at hticked
      cases hticked with
      | cons hhead _ =>
        refine ⟨_, _, rfl, ?_⟩
        rcases hhead with hfresh | ⟨-, hretry, encoded, rfl⟩
        · exact .inl hfresh
        · exact .inr ⟨rfl, hretry⟩
    -- the repeat is still owed, or was paid before
    rcases h with ⟨head, rest, hqueue, hk, hsent⟩ | ⟨head, rest, hqueue, hk, hm⟩
    · obtain ⟨head', rest', hqueue', ⟨hfresh, rfl⟩ | ⟨hretries, hm⟩⟩ := hcons hqueue
      · refine ⟨.inl ⟨head', rest', hqueue', hk, hsent⟩, fun hdue => ?_⟩
        -- the timer has expired by then
        exfalso
        have := (hp.pending head' (by rw [hqueue]; exact List.mem_cons_self)).1
        linarith
      · have hpaid : Repeated m (k + 1) { p with sendQueue := queue, dead := false } :=
          ⟨head', rest', hqueue', by omega, fun _ => hm⟩
        exact ⟨.inr hpaid, fun _ => hpaid⟩
    · have hpaid : Repeated m (k + 1) { p with sendQueue := queue, dead := false } := by
        obtain ⟨head', rest', hqueue', ⟨-, rfl⟩ | ⟨hretries, hm'⟩⟩ := hcons hqueue
        · exact ⟨head', rest', hqueue', hk, hm⟩
        · exact ⟨head', rest', hqueue', by omega, fun _ => hm'⟩
      exact ⟨.inr hpaid, fun _ => hpaid⟩
  · rw [ht] at hok
    cases hok

/-! ## The daemon -/

/-- The event brings nothing that acknowledges the oldest message of the tunnel under `ccid`: it is
no datagram for the tunnel, or one that is not taken, or one that acknowledges something older. A
new start, which replaces the tunnels, is ruled out. -/
def Unacked (hmac : Hmac) (ccid : Int) (d : Daemon δ) : Daemon.Event → Prop
  | .start => False
  | .datagram buf => (beNat (slice buf 4 8) : Int) = ccid → ∀ t ∈ d.tunnels.get? ccid,
      ∀ msg, unwire hmac t.cfg buf = .ok msg → ∀ head ∈ t.peer.sendQueue.head?,
        seqDelta msg.nr head.msg.ns ≤ 0
  | _ => True

instance (hmac : Hmac) (ccid : Int) (d : Daemon δ) : ∀ e, Decidable (Unacked hmac ccid d e)
  | .start => instDecidableFalse
  | .datagram buf => inferInstanceAs (Decidable ((beNat (slice buf 4 8) : Int) = ccid → _))
  | .stop => instDecidableTrue
  | .tick => instDecidableTrue
  | .helloTimer _ => instDecidableTrue

/-- The table while the tunnel under `ccid`, if it is still there, is as `P` says. -/
def At (cfg : DaemonConfig) (ccid m : Int) (P : Peer → Prop) : Daemon δ → Prop :=
  Daemon.Runs cfg fun c t => Able t ∧ (c = ccid → Patient m t.peer ∧ P t.peer)

variable {cfg : DaemonConfig} {ccid m : Int} {P Q : Peer → Prop}

/-- A tick keeps what a handler needs to return. -/
theorem keeps_able_tick (now : ℚ) :
    Keeps (fun w : World δ => Able w.tunnel) (Tunnel.tick hmac now) := by
  intro w h
  have : Able (Tunnel.handle hmac (.tick now) w).2.tunnel := keeps_able (.tick now) w h
  rwa [Tunnel.handle, bind_pure_snd] at this

/-- What a handler of a tunnel that only sends keeps. -/
theorem keeps_at {e : Tunnel.Event}
    (hP : Keeps (fun w : World δ => P w.tunnel.peer) (Tunnel.handle hmac e)) (c : Int) :
    Keeps (At cfg ccid m P) (Daemon.onTunnel (δ := δ) c (Tunnel.handle hmac e)) := by
  refine Daemon.keeps_onTunnel fun w h => ⟨keeps_able e w h.1, fun hc => ?_⟩
  exact ⟨(patient_kept m).handle e w (h.2 hc).1, hP w (h.2 hc).2⟩

/-- One tunnel's turn in a round of the tick loop. -/
def tickOne (hmac : Hmac) (now : ℚ) (c : Int) : Prog (Daemon δ) Unit := do
  match ← Daemon.onTunnel c (Tunnel.tick hmac now) with
  | some true => modify fun self => { self with tunnels := self.tunnels.erase c }
  | _ => return ()

omit [Dataplane δ] in
/-- What holds of one tunnel besides does not matter to the others. -/
theorem able_of_at {d : Daemon δ} (h : At cfg ccid m P d) : d.Runs cfg fun _ => Able :=
  ⟨h.cfg, fun c t hget => (h.tunnels c t hget).1⟩

/-- No turn of the loop ends it. -/
theorem tickOne_returns {now : ℚ} {d : Daemon δ} (h : d.Runs cfg fun _ => Able) (c : Int) :
    Returns (tickOne hmac now c) d := by
  refine (onTunnel_returns h (fun w hw => tick_returns hw now) c).bind fun dead => ?_
  split <;> exact ⟨(), rfl⟩

theorem keeps_tickOne (now : ℚ) {c : Int} (hc : c ≠ ccid) :
    Keeps (At cfg ccid m P) (tickOne (δ := δ) hmac now c) := by
  refine (Daemon.keeps_onTunnel fun w h => ⟨keeps_able_tick now w h.1, fun h => absurd h hc⟩).bind
    fun dead => ?_
  split
  · refine Keeps.modify fun d h => ⟨h.cfg, fun c' t hget => ?_⟩
    rw [Dict.get?_erase] at hget
    split at hget
    · cases hget
    · exact h.tunnels c' t hget
  · exact Keeps.pure ()

/-- A tick that did not find the peer dead was one of the peer. -/
theorem tick_alive {now : ℚ} {w w' : World δ} (h : Tunnel.tick hmac now w = (.ok false, w')) :
    ∃ resends, (w.tunnel.peer.tick now).1 = .ok (resends, false) ∧
      w'.tunnel.peer = (w.tunnel.peer.tick now).2 := by
  rcases tick_cases hmac now w with ⟨e, peer, -, hrun⟩ | ⟨resends, dead, peer, ht, hrun⟩
  · rw [hrun] at h
    cases h
  · rw [hrun] at h
    -- a peer found dead makes the tick return `True`
    cases dead with
    | false =>
      cases h
      exact ⟨resends, by rw [ht], by rw [ht]; rfl⟩
    | true =>
      rw [if_pos rfl, bind_apply] at h
      rcases hdrive : drive hmac TunnelFSM.onPeerDead (received w peer resends) with ⟨_ | _, w''⟩
      all_goals
        rw [hdrive] at h
        cases h

/-- The turn of the tunnel itself, which returns: the tunnel is gone, or its peer had a tick. -/
theorem tickOne_at {now : ℚ} {d : Daemon δ}
    (hpeer : ∀ p resends, Patient m p → P p → (p.tick now).1 = .ok (resends, false) →
      Q (p.tick now).2) (h : At cfg ccid m P d) :
    At cfg ccid m Q (tickOne hmac now ccid d).2 := by
  have hothers : ∀ c t, d.tunnels.get? c = some t → c ≠ ccid →
      Able t ∧ (c = ccid → Patient m t.peer ∧ Q t.peer) :=
    fun c t hget hc => ⟨(h.tunnels c t hget).1, fun heq => absurd heq hc⟩
  cases hget : d.tunnels.get? ccid with
  | none =>
    have hround : (tickOne hmac now ccid d).2 = d := by
      rw [tickOne, bind_apply, Daemon.onTunnel_none _ hget]
      rfl
    rw [hround]
    refine ⟨h.cfg, fun c t hget' => hothers c t hget' ?_⟩
    rintro rfl
    rw [hget] at hget'
    cases hget'
  | some t =>
    obtain ⟨hable, hmine⟩ := h.tunnels ccid t hget
    obtain ⟨hpatient, howed⟩ := hmine rfl
    have hreturns : Returns (Tunnel.tick hmac now) (d.world t) := tick_returns hable now
    obtain ⟨dead, w', hrun⟩ := returns_iff.mp hreturns
    -- a dead tunnel leaves the table, so nothing is asked of it
    cases dead with
    | true =>
      have hround : (tickOne hmac now ccid d).2
          = { d.put ccid w' with tunnels := (d.tunnels.set ccid w'.tunnel).erase ccid } := by
        rw [tickOne, bind_apply, Daemon.onTunnel_some _ hget, hrun]
        rfl
      rw [hround]
      refine ⟨h.cfg, fun c t' hget' => ?_⟩
      simp only [Dict.get?_erase, Dict.get?_set] at hget'
      split at hget'
      · cases hget'
      · rename_i hc
        exact hothers c t' hget' fun heq => hc heq.symm
    | false =>
      have hround : (tickOne hmac now ccid d).2 = d.put ccid w' := by
        rw [tickOne, bind_apply, Daemon.onTunnel_some _ hget, hrun]
        rfl
      rw [hround]
      refine ⟨h.cfg, fun c t' hget' => ?_⟩
      simp only [Daemon.put, Dict.get?_set] at hget'
      split at hget'
      · cases hget'
        obtain ⟨resends, hok, hw'⟩ := tick_alive hrun
        have hable' : Able (Tunnel.tick hmac now (d.world t)).2.tunnel :=
          keeps_able_tick now (d.world t) hable
        rw [hrun] at hable'
        refine ⟨hable', fun _ => ⟨?_, ?_⟩⟩
        · rw [hw']
          exact (patient_kept m).tick now hpatient
        · rw [hw']
          exact hpeer _ resends hpatient howed hok
      · rename_i hc
        exact hothers c t' hget' fun heq => hc heq.symm

/-- **A round of the tick loop** reaches the tunnel. -/
theorem tickRound_at {d : Daemon δ}
    (hpeer : ∀ p resends, Patient m p → P p → (p.tick (d.clock 0)).1 = .ok (resends, false) →
      Q (p.tick (d.clock 0)).2) (h : At cfg ccid m P d) :
    At cfg ccid m Q (Daemon.step hmac d .tick) := by
  -- before its turn the tunnel is as `P` says, afterwards as `Q` says
  have hloop : ∀ (keys : List Int) (d' : Daemon δ), keys.Nodup →
      (ccid ∈ keys ∧ At cfg ccid m P d' ∨ ccid ∉ keys ∧ At cfg ccid m Q d') →
      At cfg ccid m Q (each (tickOne hmac (d.clock 0)) keys d').2 := by
    intro keys
    induction keys with
    | nil =>
      rintro d' - (⟨hmem, -⟩ | ⟨-, hQ⟩)
      · exact absurd hmem List.not_mem_nil
      · exact hQ
    | cons c keys ih =>
      intro d' hnodup hat
      obtain ⟨hc, hnodup⟩ := List.nodup_cons.mp hnodup
      have hnext : ccid ∈ keys ∧ At cfg ccid m P (tickOne hmac (d.clock 0) c d').2 ∨
          ccid ∉ keys ∧ At cfg ccid m Q (tickOne hmac (d.clock 0) c d').2 := by
        -- its own turn, or that of another
        by_cases heq : c = ccid
        · subst heq
          rcases hat with ⟨-, hP⟩ | ⟨hno, -⟩
          · exact .inr ⟨hc, tickOne_at hpeer hP⟩
          · exact absurd List.mem_cons_self hno
        · rcases hat with ⟨hmem, hP⟩ | ⟨hno, hQ⟩
          · exact .inl ⟨(List.mem_cons.mp hmem).resolve_left fun h => heq h.symm,
              keeps_tickOne _ heq d' hP⟩
          · exact .inr ⟨fun hmem => hno (List.mem_cons_of_mem c hmem), keeps_tickOne _ heq d' hQ⟩
      have hreturns : Returns (tickOne hmac (d.clock 0) c) d' :=
        tickOne_returns (hat.elim (fun h => able_of_at h.2) fun h => able_of_at h.2) c
      obtain ⟨⟨⟩, d'', hrun⟩ := returns_iff.mp hreturns
      rw [hrun] at hnext
      rw [each, bind_apply_of_ok _ _ hrun]
      exact ih d'' hnodup hnext
  have hkeys : (d.tunnels.keys).Nodup := d.tunnels.nodup
  have htocked : ∀ {R : Peer → Prop}, At cfg ccid m R d →
      At cfg ccid m R { d with clock := fun n => d.clock (n + 1) } := fun h => ⟨h.cfg, h.tunnels⟩
  refine hloop d.tunnels.keys { d with clock := fun n => d.clock (n + 1) } hkeys ?_
  by_cases hmem : ccid ∈ d.tunnels.keys
  · exact .inl ⟨hmem, htocked h⟩
  · refine .inr ⟨hmem, htocked ⟨h.cfg, fun c t hget => ⟨(h.tunnels c t hget).1, ?_⟩⟩⟩
    rintro rfl
    exact absurd (Dict.mem_keys_iff.mpr ⟨t, hget⟩) hmem

/-! ### What else can happen

Every other event sends at most, and what is sent goes behind the oldest message. -/

section Owed

variable {k : Nat} {since : ℚ}

/-- A message that is sent goes behind the oldest one. -/
theorem owed_send {p q : Peer} {avps : List AVP} {now : ℚ} {msg : ControlMessage}
    (_ : Undigested avps) (h : Owed m k since p) (hsend : p.send avps now = .ok (msg, q)) :
    Owed m k since q := by
  obtain ⟨-, -, encoded, -, rfl⟩ := Peer.send_eq_ok.mp hsend
  exact h.append rfl

/-- A handler that neither receives nor ticks only sends. -/
theorem keeps_owed {e : Tunnel.Event} (hbuf : ∀ buf, e ≠ .datagram buf) (hnow : ∀ now, e ≠ .tick now) :
    Keeps (fun w : World δ => Owed m k since w.tunnel.peer) (Tunnel.handle hmac e) := by
  have htimer : ∀ f, Keeps (fun w : World δ => Owed m k since w.tunnel.peer)
      (modify (mapTimer f)) := fun _ => Keeps.modify fun _ h => h
  cases e with
  | start => exact keeps_peer_drive owed_send TunnelFSM.method_onLocalOpen
  | close =>
    exact (keeps_peer_drive owed_send (TunnelFSM.method_onLocalClose _)).bind fun _ => htimer _
  | datagram buf => exact absurd rfl (hbuf buf)
  | tick now => exact absurd rfl (hnow now)
  | helloTimer =>
    refine Keeps.get_bind fun w h => ?_
    split
    · exact (htimer _).bind (fun _ => (htimer _).bind fun _ =>
        keeps_peer_drive owed_send TunnelFSM.method_onHelloTimer) w h
    · exact h
  | closeSession sid resultCode =>
    exact keeps_peer_session owed_send (SessionFSM.method_onLocalClose resultCode) sid onlyIndex_id

/-- A datagram that acknowledges nothing of what is queued. -/
theorem handleDatagram_owed {buf : Bytes} {w : World δ} (h : Owed m k since w.tunnel.peer)
    (hack : ∀ msg, unwire hmac w.tunnel.cfg buf = .ok msg → ∀ head ∈ w.tunnel.peer.sendQueue.head?,
      seqDelta msg.nr head.msg.ns ≤ 0) :
    Owed m k since (handleDatagram hmac buf w).2.tunnel.peer := by
  rcases handleDatagram_cases hmac buf w with ⟨e, -, hrun⟩ |
    ⟨msg, ccid, peer, delivered, hmsg, -, hrest⟩
  · rw [hrun]
    exact h
  · have hpeer : ∀ r, (w.tunnel.peer.setRemoteCcid ccid).receive msg = (r, peer) →
        Owed m k since peer := by
      intro r hr
      -- the head is not acknowledged, so nothing behind it is
      have hqueue : peer.sendQueue = w.tunnel.peer.sendQueue := by
        have hrecv := Peer.receive_sendQueue (w.tunnel.peer.setRemoteCcid ccid) msg
        rw [hr] at hrecv
        have hkept : Peer.consumeAcks msg.nr w.tunnel.peer.sendQueue = w.tunnel.peer.sendQueue := by
          cases hq : w.tunnel.peer.sendQueue with
          | nil => rfl
          | cons head rest =>
            rw [Peer.consumeAcks, if_neg (not_lt.mpr (hack msg hmsg head (by rw [hq]; rfl)))]
        refine hrecv.trans ?_
        split
        · exact hkept
        · rfl
      have happend : peer.sendQueue = w.tunnel.peer.sendQueue ++ [] := by
        rw [hqueue, List.append_nil]
      exact h.append happend
    rcases hrest with ⟨hr, hrun⟩ | ⟨hr, ⟨e, -, hrun⟩ | ⟨bs, -, hrun⟩⟩
    · rw [hrun]
      exact hpeer _ hr
    · rw [hrun]
      exact hpeer _ hr
    · rw [hrun]
      split
      · exact keeps_dispatch hmac (I := fun w => Owed m k since w.tunnel.peer) (fun _ _ _ h => h)
          (fun sid virtual => keeps_peer_session owed_send (SessionFSM.method_onMessage virtual) sid
            (onlyIndex_indexRemote sid))
          (fun virtual => keeps_peer_drive owed_send (TunnelFSM.method_onMessage virtual)) msg delivered _
          (hpeer _ hr)
      · exact hpeer _ hr

/-- **In the middle of a round.** -/
theorem step_owed {d : Daemon δ} (h : At cfg ccid m (Owed m k since) d) {e : Daemon.Event}
    (he : Unacked hmac ccid d e) : At cfg ccid m (Owed m k since) (Daemon.step hmac d e) := by
  cases e with
  | start => exact he.elim
  | stop =>
    exact Keeps.each (fun c _ => (keeps_at (keeps_owed (e := .close) (by simp) (by simp)) c).bind
      fun _ => Keeps.pure ()) { d with stopping := true } ⟨h.cfg, h.tunnels⟩
  -- a tick in the middle of a round may pay, and never takes away
  | tick => exact tickRound_at (fun p resends hp howed hok => (tick_owed hp howed hok).1) h
  | datagram buf =>
    rw [Daemon.step, Daemon.handle]
    rcases dispatchDatagram_cases hmac d buf with ⟨-, hrun⟩ | ⟨t, c, d', hc, -, hget, rfl, hrun⟩
    · rw [hrun]
      exact h
    · rw [hrun]
      obtain ⟨hable, hmine⟩ := h.tunnels c t hget
      refine ⟨h.cfg, h.set ⟨keeps_able (.datagram buf) _ hable, fun heq => ?_⟩⟩
      obtain ⟨hpatient, howed⟩ := hmine heq
      exact ⟨(patient_kept m).handleDatagram buf _ hpatient,
        handleDatagram_owed howed (he (hc ▸ heq) t (heq ▸ hget))⟩
  | helloTimer c =>
    exact ((keeps_at (keeps_owed (e := .helloTimer) (by simp) (by simp)) c).bind
      fun _ => Keeps.pure ()) d h

end Owed

/-! ### The rounds

After `max_retries` rounds every repeat was made, and the next one finds the peer dead. The tunnel
is removed by the same turn of the loop. -/

/-- The cap of the back-off has passed since the round began. -/
def CapPassed (s t : Daemon δ) : Prop := s.clock 0 + retransmitMaxInterval ≤ t.clock 0

instance (s t : Daemon δ) : Decidable (CapPassed s t) := Rat.instDecidableLe _ _

/-- **A peer that stops acknowledging is given up.** For every daemon built from an accepted
configuration whose texts and speeds fit their AVPs, with a clock that does not go backwards, in
every state that any events lead to: once `max_retries + 1` rounds have passed, each with a tick at
least the cap of the back-off after it began, in which nothing acknowledged the oldest message that
a tunnel had queued, the tunnel is gone. -/
theorem given_up (hmac : Hmac) (cfg : DaemonConfig) (hacc : cfg.Accepted)
    (henc : ∀ t ∈ cfg.tunnels, t.Encodes) (dataplane : Option δ) (clock : Nat → ℚ)
    (hclock : Monotone clock) (d d' : Daemon δ)
    (hd : Transition.Reach (Daemon.step hmac) (fun _ _ => True) (Daemon.init cfg dataplane clock) d)
    (ccid : Int) (t : Tunnel) (hget : d.tunnels.get? ccid = some t) (hqueue : t.peer.sendQueue ≠ [])
    (n : Nat) (hn : t.peer.maxRetries < n)
    (hrounds : Transition.Rounds (Daemon.step hmac) (Unacked hmac ccid) CapPassed .tick n d d') :
    d'.tunnels.get? ccid = none := by
  have helapsed : ∀ {s : Daemon δ}, Transition.Reach (Daemon.step hmac) (fun _ _ => True)
      (Daemon.init cfg dataplane clock) s → Elapsed clock 0 s := fun hs =>
    hs.invariant ⟨0, le_refl 0, rfl, fun c t hget => by simp [Daemon.init] at hget⟩
      fun _ e h _ => elapsed_step hclock h e
  have hruns : d.Runs cfg fun _ t => Able t ∧ ∃ m, 0 ≤ m ∧ Patient m t.peer := by
    refine Daemon.runs_of_reach hd (fun tcfg hmem => ?_) fun _ e w h => ?_
    · have hretries := (hacc.tunnels tcfg hmem).maxRetries.1
      exact ⟨able_init (hacc.tunnels tcfg hmem) (henc tcfg hmem), tcfg.maxRetries, by omega,
        patient_init (hacc.tunnels tcfg hmem)⟩
    · exact ⟨keeps_able e w h.1, h.2.imp fun m hm => ⟨hm.1, (patient_kept m).handle e w hm.2⟩⟩
  obtain ⟨-, m, hm0, hpatient⟩ := hruns.tunnels ccid t hget
  rw [hpatient.maxRetries] at hn
  have hstart : At cfg ccid m (Repeated m 0) d := by
    refine ⟨hruns.cfg, fun c t' hget' => ⟨(hruns.tunnels c t' hget').1, ?_⟩⟩
    rintro rfl
    obtain rfl : t = t' := by
      rw [hget] at hget'
      exact Option.some.inj hget'
    refine ⟨hpatient, ?_⟩
    obtain ⟨head, rest, hq⟩ := List.exists_cons_of_ne_nil hqueue
    exact ⟨head, rest, hq, (hpatient.pending head (by rw [hq]; exact List.mem_cons_self)).2,
      fun h => absurd h (lt_irrefl 0)⟩
  -- each round adds a repeat of the oldest message
  have hround : ∀ (k : Nat) (s u : Daemon δ),
      (Transition.Reach (Daemon.step hmac) (fun _ _ => True) (Daemon.init cfg dataplane clock) s ∧
        At cfg ccid m (Repeated m k) s) →
      Transition.Reach (Daemon.step hmac) (Unacked hmac ccid) s u → CapPassed s u →
      Transition.Reach (Daemon.step hmac) (fun _ _ => True) (Daemon.init cfg dataplane clock)
        (Daemon.step hmac u .tick) ∧ At cfg ccid m (Repeated m (k + 1)) (Daemon.step hmac u .tick) := by
    rintro k s u ⟨hs, hat⟩ hreach hpassed
    -- nothing that is queued was sent after the round began
    obtain ⟨j, -, hread, hsent⟩ := helapsed hs
    have hnow : s.clock 0 = clock j := by
      rw [hread]
      show clock (0 + j) = clock j
      rw [Nat.zero_add]
    have howed : At cfg ccid m (Owed m k (s.clock 0)) s := by
      refine ⟨hat.cfg, fun c t hget => ⟨(hat.tunnels c t hget).1, fun hc => ?_⟩⟩
      obtain ⟨hpatient, head, rest, hq, hk, -⟩ := (hat.tunnels c t hget).2 hc
      refine ⟨hpatient, .inl ⟨head, rest, hq, hk, ?_⟩⟩
      rw [hnow]
      exact hsent c t hget head (by rw [hq]; exact List.mem_cons_self)
    have hdue := hreach.invariant howed fun _ _ h he => step_owed h he
    exact ⟨(hs.trans (hreach.mono fun _ _ _ => trivial)).next trivial,
      tickRound_at (fun p resends hp howed hok => (tick_owed hp howed hok).2 hpassed) hdue⟩
  -- more repeats than the limit allows
  obtain ⟨-, hend⟩ := hrounds.progress hround ⟨hd, hstart⟩
  cases hget' : d'.tunnels.get? ccid with
  | none => rfl
  | some t' =>
    obtain ⟨-, head, rest, -, hk, hm⟩ := (hend.tunnels ccid t' hget').2 rfl
    have := hm (by omega)
    omega

/-- A daemon with one tunnel whose clock goes up by 16 at every reading, after it started. -/
def calling : Daemon MockDataplane :=
  Daemon.step ControlMessage.sumHmac
    (Daemon.init ⟨[Dispatch.spoke]⟩ none fun n => (16 * n : Nat)) .start

/-- Its tunnel. -/
def callingTunnel : Tunnel :=
  (Tunnel.step ControlMessage.sumHmac
    (World.init Dispatch.spoke (none : Option MockDataplane) fun n => (16 * n : Nat)) .start).tunnel

/-- The daemon after `n` rounds in which the peer says hello, and acknowledges nothing. -/
def deaf : Nat → Daemon MockDataplane
  | 0 => calling
  | n + 1 => Daemon.step ControlMessage.sumHmac
      (Daemon.step ControlMessage.sumHmac (deaf n) (.datagram Dispatch.hello)) .tick

/-- After five repeats the tunnel is still there, after one round more it is gone. -/
theorem given_up_deaf :
    (deaf 5).tunnels.contains 100 = true ∧ (deaf 6).tunnels.get? 100 = none := by
  have hround : ∀ k < 6, Transition.Guarded (Daemon.step ControlMessage.sumHmac)
      (Unacked ControlMessage.sumHmac 100) (deaf k) [.datagram Dispatch.hello] ∧
      CapPassed (deaf k)
        (Daemon.step ControlMessage.sumHmac (deaf k) (.datagram Dispatch.hello)) := by
    decide +kernel
  have hrounds : ∀ n k, k + n ≤ 6 → Transition.Rounds (Daemon.step ControlMessage.sumHmac)
      (Unacked ControlMessage.sumHmac 100) CapPassed .tick n (deaf k) (deaf (k + n)) := by
    intro n
    induction n with
    | zero => exact fun k _ => .done _
    | succ n ih =>
      intro k hk
      rw [show k + (n + 1) = k + 1 + n by omega]
      exact .round (.run .start (hround k (by omega)).1) (hround k (by omega)).2 (ih (k + 1) (by omega))
  refine ⟨by decide +kernel, ?_⟩
  have hget : calling.tunnels.get? 100 = some callingTunnel := rfl
  exact given_up ControlMessage.sumHmac ⟨[Dispatch.spoke]⟩ spoke_accepted spoke_encodes none
    (fun n => (16 * n : Nat)) (fun a b hab => by simpa using hab) calling _ (.next .start trivial) 100
    callingTunnel hget (by decide +kernel) 6 (by decide +kernel) (hrounds 6 0 (le_refl 6))

end Silence

end L2tpv3d
