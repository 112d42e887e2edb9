import L2tpv3d.Daemon.Crash
import L2tpv3d.Daemon.Notices

/-!
# L2tpv3d — the demultiplexer against the transport

`_dispatch_datagram` routes by a raw look at bytes 4–7, and drops what names no tunnel of the
table. `Peer.receive` accepts, after decoding, the tunnel's own CCID and also 0, which a peer
that has not learned our CCID yet must use. A tunnel is never under the key 0, so the two
differ on the datagrams that are addressed to 0. They also differ on a tunnel that `_tick_loop`
found dead: it is out of the table, but the object could still take a message.

* `peek_of_unwire` — the bytes that the demultiplexer looks at are the CCID of the message.
* `Watched` — a daemon with the tunnel objects that left its table; `Watched.daemon_step` — they
  are watched only, the daemon runs as it does without.
* **`dispatch_agrees_iff`** — in every state that a daemon with one tunnel reaches.
-/

namespace L2tpv3d

open Py Prog

namespace Demux

open Tunnel World

variable {δ : Type} {hmac : Hmac}

/-! ## The two looks at the destination

The demultiplexer reads four bytes of the datagram, the transport a field of the decoded message.
They are the same number. -/

/-- The destination that the demultiplexer reads. -/
def peekCcid (buf : Bytes) : Int := beNat (slice buf 4 8)

/-- What decodes has at least a header, and is addressed to the CCID that is read there. -/
theorem peek_of_unwire {cfg : TunnelConfigEntry} {buf : Bytes} {msg : ControlMessage}
    (h : unwire hmac cfg buf = .ok msg) :
    12 ≤ buf.length ∧ peekCcid buf = msg.controlConnectionId := by
  obtain ⟨hwf, rfl⟩ := ControlMessage.decode_inv (Dispatch.unwire_decode h)
  have hccid := hwf.ccid_nonneg
  have hle := hwf.ccid_le
  obtain ⟨-, -, -, hslice, -, -⟩ := ControlMessage.slice_headerWire msg
    (headerLen + (AVP.wireAll msg.avps).length) (AVP.wireAll msg.avps)
  constructor
  · rw [ControlMessage.length_wire]
    exact Nat.le_add_right 12 _
  · rw [peekCcid, ControlMessage.wire, hslice, beNat_beBytes (by omega)]
    omega

/-- The datagram makes the peer of the tunnel deliver something or consume an acknowledgement. -/
def Effective (hmac : Hmac) (t : Tunnel) (buf : Bytes) : Prop :=
  ∃ msg, unwire hmac t.cfg buf = .ok msg ∧
    ((t.peer.receive msg).1.1 ≠ [] ∨ (t.peer.receive msg).2.sendQueue ≠ t.peer.sendQueue)

/-- What a peer reacts to, it has accepted. -/
theorem Effective.accepts {t : Tunnel} {buf : Bytes} (h : Effective hmac t buf) :
    ∃ msg, unwire hmac t.cfg buf = .ok msg ∧ t.peer.accepts msg = true := by
  obtain ⟨msg, hmsg, heff⟩ := h
  refine ⟨msg, hmsg, ?_⟩
  rcases Peer.receive_cases t.peer msg with ⟨-, hr⟩ | ⟨hacc, -⟩
  · simp [hr] at heff
  · exact hacc

variable [Dataplane δ]

/-- A datagram that the peer reacts to leaves a trace: an exception, a datagram sent, or a
queue that has changed. -/
theorem Effective.trace {w : World δ} {buf : Bytes} (h : Effective hmac w.tunnel buf)
    (hok : (handleDatagram hmac buf w).1 = .ok ())
    (hsent : (handleDatagram hmac buf w).2.sent = w.sent) :
    (handleDatagram hmac buf w).2.tunnel.peer.sendQueue ≠ w.tunnel.peer.sendQueue := by
  obtain ⟨msg, hmsg, heff⟩ := h
  -- undecodable; taken without a response; with one that cannot be written; with one that was sent
  rcases handleDatagram_cases hmac buf w with ⟨e, he, -⟩ | ⟨msg', ccid, peer, delivered, hmsg', -,
    ⟨hr, hrun⟩ | ⟨hr, ⟨e, -, hrun⟩ | ⟨bs, -, hrun⟩⟩⟩
  · rw [hmsg] at he
    cases he
  all_goals
    rw [hmsg] at hmsg'
    cases hmsg'
  · -- nothing is delivered, so an acknowledgement was consumed
    have hdelivered := Peer.receive_delivered (w.tunnel.peer.setRemoteCcid ccid) msg
    have hpeer := Peer.receive_sendQueue (w.tunnel.peer.setRemoteCcid ccid) msg
    rw [hr] at hdelivered hpeer
    have hsame : (w.tunnel.peer.receive msg).1.1 = [] := by
      rw [Peer.receive_delivered]
      exact hdelivered.symm
    have hqueue := heff.resolve_left (not_not.mpr hsame)
    rw [Peer.receive_sendQueue] at hqueue
    rw [hrun]
    show peer.sendQueue ≠ _
    rw [show peer.sendQueue = _ from hpeer]
    exact hqueue
  · rw [hrun] at hok
    cases hok
  · exfalso
    -- an acknowledgement was sent, whatever was handed over after it
    obtain ⟨more, hmore⟩ : ∃ more, (handleDatagram hmac buf w).2.sent = w.sent ++ [bs] ++ more := by
      rw [hrun]
      split
      · exact sent_dispatch hmac msg delivered (received w peer [bs])
      · exact ⟨[], by simp [received]⟩
    rw [hsent] at hmore
    have := congrArg List.length hmore
    simp at this

/-! ## The daemon

The key of a tunnel is its own CCID, as the table is filled by `start` only. -/

/-- A tunnel knows the key that it is under. -/
def placed (ccid : Int) : Parts where
  cfg cfg := cfg.localCcid = ccid
  peer p := p.localCcid = ccid ∧ p.Sound
  fsm _ := True
  session _ _ := True

/-- Its CCID stays with a tunnel, and its counters stay in range. -/
theorem placed_stable (ccid : Int) : (placed ccid).Stable where
  link h hpq := ⟨hpq.localCcid.trans h.1, hpq.sound h.2⟩
  learn h _ := ⟨h.1, ⟨h.2.ns, h.2.nr⟩⟩
  receive msg h := by
    obtain ⟨hsound, hlocal, -, -⟩ := Peer.receive_frame _ msg h.2
    exact ⟨hlocal.trans h.1, hsound⟩
  tick now h := by
    obtain ⟨hsound, hlocal, -⟩ := Peer.tick_frame _ now h.2
    exact ⟨hlocal.trans h.1, hsound⟩
  fsm _ _ := trivial
  session _ _ := trivial

/-! ## The tunnel objects

A tunnel that is deleted from `_tunnels` is still an object with a `handle_datagram`. To speak of
it, the daemon is run together with the objects that its tick loop deleted. -/

/-- A daemon, and under their keys the tunnels that its tick loop took out of the table. -/
structure Watched (δ : Type) where
  daemon : Daemon δ
  removed : Dict Int Tunnel := .empty

namespace Watched

/-- Before the start every object is in the table. -/
def init (cfg : DaemonConfig) (dataplane : Option δ) (clock : Nat → ℚ) : Watched δ where
  daemon := Daemon.init cfg dataplane clock

/-- The last tunnel object constructed under `ccid`, in the table or out of it. -/
def object (w : Watched δ) (ccid : Int) : Option Tunnel :=
  (w.daemon.tunnels.get? ccid).or (w.removed.get? ccid)

omit [Dataplane δ] in
/-- While the table holds an entry, that is the object. -/
theorem object_listed {w : Watched δ} {ccid : Int} {t t' : Tunnel}
    (hobject : w.object ccid = some t) (hget : w.daemon.tunnels.get? ccid = some t') : t' = t := by
  rwa [object, hget, Option.some_or, Option.some.injEq] at hobject

/-- What runs in the daemon. -/
def onDaemon {α : Type} (m : Prog (Daemon δ) α) : Prog (Watched δ) α :=
  zoom (·.daemon) (fun d w => { w with daemon := d }) m

/-- `del self._tunnels[local_ccid]` -/
def remove (ccid : Int) (w : Watched δ) : Watched δ where
  daemon := { w.daemon with tunnels := w.daemon.tunnels.erase ccid }
  removed :=
    match w.daemon.tunnels.get? ccid with
    | some t => w.removed.set ccid t
    | none => w.removed

variable (hmac)

/-- One round of `_tick_loop`. -/
def tickRound : Prog (Watched δ) Unit := do
  let now ← onDaemon Daemon.loopTime
  let self ← get
  each (fun ccid => do
    match ← onDaemon (Daemon.onTunnel ccid (Tunnel.tick hmac now)) with
    | some true => modify (remove ccid)
    | _ => return ()) self.daemon.tunnels.keys

/-- Only the tick touches the objects out of the table. -/
def handle : Daemon.Event → Prog (Watched δ) Unit
  | .tick => tickRound hmac
  | e => onDaemon (Daemon.handle hmac e)

/-- The state after an event, whether it returned or raised. -/
def step (w : Watched δ) (e : Daemon.Event) : Watched δ := (handle hmac e w).2

variable {hmac}

/-- The watched daemon is the daemon. -/
def Same (w : Watched δ) (d : Daemon δ) : Prop := w.daemon = d

omit [Dataplane δ] in
/-- What happens to the daemon happens to its table. -/
theorem same_onDaemon {α : Type} (m : Prog (Daemon δ) α) : Paired Same (onDaemon m) m := by
  rintro w d rfl
  exact ⟨rfl, .refl _⟩

/-- **The objects that are watched do not change what the daemon does.** -/
theorem same_handle (e : Daemon.Event) : Paired Same (handle (δ := δ) hmac e) (Daemon.handle hmac e) := by
  cases e with
  | start => exact same_onDaemon _
  | stop => exact same_onDaemon _
  | datagram buf => exact same_onDaemon _
  | helloTimer ccid => exact same_onDaemon _
  | tick =>
    -- the only event that touches the objects out of the table
    refine (same_onDaemon Daemon.loopTime).bind fun now => ?_
    rintro w d rfl
    refine Paired.each (fun ccid => ?_) w.daemon.tunnels.keys w w.daemon rfl
    refine (same_onDaemon _).bind fun dead => ?_
    match dead with
    | some true =>
      refine Paired.modify fun w d h => ?_
      obtain rfl : w.daemon = d := h
      rfl
    | some false => exact Paired.pure ()
    | none => exact Paired.pure ()

/-- Watching changes nothing. -/
theorem daemon_step (w : Watched δ) (e : Daemon.Event) :
    (step hmac w e).daemon = Daemon.step hmac w.daemon e :=
  (same_handle e w w.daemon rfl).1

/-- Every state of the watched daemon is one that the daemon reaches. -/
theorem daemon_reach {cfg : DaemonConfig} {dataplane : Option δ} {clock : Nat → ℚ} {w : Watched δ}
    (hw : Transition.Reach (step hmac) (fun _ _ => True) (init cfg dataplane clock) w) :
    Transition.Reach (Daemon.step hmac) (fun _ _ => True) (Daemon.init cfg dataplane clock)
      w.daemon := by
  induction hw with
  | start => exact .start
  | next _ _ ih =>
    rw [daemon_step]
    exact ih.next trivial

end Watched

/-! ## The two ways of a datagram

Through the table, as the daemon does it, and straight to the tunnel object. They differ where the
table has no entry and the object would have taken the message. -/

/-- `_dispatch_datagram` -/
def dispatch (hmac : Hmac) (buf : Bytes) : Prog (Watched δ) Unit :=
  Watched.onDaemon (Daemon.dispatchDatagram hmac buf)

/-- `t.handle_datagram(buf, now=loop.time())` on the tunnel object of `ccid`. -/
def handleDirectly (hmac : Hmac) (ccid : Int) (buf : Bytes) : Prog (Watched δ) Unit := do
  let _ ← Watched.onDaemon Daemon.loopTime
  let self ← get
  if self.daemon.tunnels.contains ccid then
    let _ ← Watched.onDaemon (Daemon.onTunnel ccid (handleDatagram hmac buf))
  else
    match self.removed.get? ccid with
    | none => return ()
    | some t =>
      let (r, w) := handleDatagram hmac buf (self.daemon.world t)
      modify fun self => {
        daemon := { self.daemon with
          dataplane := w.dataplane
          clock := w.clock
          sent := self.daemon.sent ++ w.sent.map fun wire => (w.tunnel.cfg.remoteAddress, wire) }
        removed := self.removed.set ccid w.tunnel }
      ofExcept r

/-- The datagram makes the peer of the tunnel object of `ccid` deliver something or consume an
acknowledgement. -/
def Reacts (hmac : Hmac) (ccid : Int) (w : Watched δ) (buf : Bytes) : Prop :=
  ∃ t, w.object ccid = some t ∧ Effective hmac t buf

/-- The surroundings in which the tunnel object handles the datagram. -/
def direct (w : Watched δ) (t : Tunnel) : World δ :=
  Daemon.world { w.daemon with clock := fun n => w.daemon.clock (n + 1) } t

/-- The tunnel object of the table takes the datagram as the daemon's own call does. -/
theorem handleDirectly_listed (hmac : Hmac) {w : Watched δ} {ccid : Int} {t : Tunnel}
    (hget : w.daemon.tunnels.get? ccid = some t) (buf : Bytes) :
    handleDirectly hmac ccid buf w = ((handleDatagram hmac buf (direct w t)).1,
      { w with daemon := (Daemon.put ccid (handleDatagram hmac buf (direct w t)).2
          { w.daemon with clock := fun n => w.daemon.clock (n + 1) }) }) := by
  have hlisted : w.daemon.tunnels.contains ccid = true := Dict.contains_iff.mpr ⟨t, hget⟩
  have hcall : Daemon.onTunnel ccid (handleDatagram hmac buf)
      { w.daemon with clock := fun n => w.daemon.clock (n + 1) }
      = ((handleDatagram hmac buf (direct w t)).1.map some,
        Daemon.put ccid (handleDatagram hmac buf (direct w t)).2
          { w.daemon with clock := fun n => w.daemon.clock (n + 1) }) :=
    Daemon.onTunnel_some (handleDatagram hmac buf) hget
  have hrun : handleDirectly hmac ccid buf w = (do
      let _ ← Watched.onDaemon (Daemon.onTunnel ccid (handleDatagram hmac buf)) : Prog (Watched δ) Unit)
        { w with daemon := { w.daemon with clock := fun n => w.daemon.clock (n + 1) } } := by
    show (if w.daemon.tunnels.contains ccid = true then _ else _ : Prog (Watched δ) Unit) _ = _
    rw [if_pos hlisted]
  rw [hrun, bind_apply, Watched.onDaemon, zoom, hcall]
  cases (handleDatagram hmac buf (direct w t)).1 <;> rfl

/-- An object out of the table takes it in the same way, and stays out. -/
theorem handleDirectly_removed (hmac : Hmac) {w : Watched δ} {ccid : Int} {t : Tunnel}
    (hunlisted : w.daemon.tunnels.contains ccid = false) (hget : w.removed.get? ccid = some t)
    (buf : Bytes) : handleDirectly hmac ccid buf w = ((handleDatagram hmac buf (direct w t)).1,
      { daemon := { w.daemon with
          dataplane := (handleDatagram hmac buf (direct w t)).2.dataplane
          clock := (handleDatagram hmac buf (direct w t)).2.clock
          sent := w.daemon.sent ++ (handleDatagram hmac buf (direct w t)).2.sent.map fun wire =>
            ((handleDatagram hmac buf (direct w t)).2.tunnel.cfg.remoteAddress, wire) }
        removed := w.removed.set ccid (handleDatagram hmac buf (direct w t)).2.tunnel }) := by
  show (if w.daemon.tunnels.contains ccid = true then _ else _ : Prog (Watched δ) Unit) _ = _
  rw [if_neg (by rw [hunlisted]; exact Bool.false_ne_true)]
  simp only [hget]
  rfl

/-- A tunnel object that reacts does not leave everything as it was. -/
theorem handleDirectly_ne (hmac : Hmac) {w : Watched δ} {ccid : Int} {t : Tunnel} {buf : Bytes}
    (hobject : w.object ccid = some t) (heff : Effective hmac t buf) :
    handleDirectly hmac ccid buf w ≠ (.ok (), w) := by
  intro hsame
  have hnone : (direct w t).sent = [] := rfl
  have htunnel : (direct w t).tunnel = t := rfl
  have htrace := Effective.trace (w := direct w t) heff
  -- in the table, or out of it
  cases hget : w.daemon.tunnels.get? ccid with
  | some t' =>
    obtain rfl := Watched.object_listed hobject hget
    rw [handleDirectly_listed hmac hget] at hsame
    obtain ⟨hok, hstate⟩ := Prod.mk.inj hsame
    refine htrace hok ?_ ?_
    · have := congrArg (fun w : Watched δ => w.daemon.sent.length) hstate
      simp [Daemon.put] at this
      rw [this, hnone]
    · have := congrArg (fun w : Watched δ => w.daemon.tunnels.get? ccid) hstate
      simp only [Daemon.put, Dict.get?_set_self, hget, Option.some.injEq] at this
      rw [this, htunnel]
  | none =>
    have hunlisted : w.daemon.tunnels.contains ccid = false := by
      rw [Bool.eq_false_iff, Ne, Dict.contains_iff, hget]
      simp
    have hremoved : w.removed.get? ccid = some t := by
      rwa [Watched.object, hget, Option.none_or] at hobject
    rw [handleDirectly_removed hmac hunlisted hremoved] at hsame
    obtain ⟨hok, hstate⟩ := Prod.mk.inj hsame
    refine htrace hok ?_ ?_
    · have := congrArg (fun w : Watched δ => w.daemon.sent.length) hstate
      simp at this
      rw [this, hnone]
    · have := congrArg (fun w : Watched δ => w.removed.get? ccid) hstate
      simp only [Dict.get?_set_self, hremoved, Option.some.injEq] at this
      rw [this, htunnel]

/-- **The demultiplexer and the transport agree on a datagram exactly when the tunnel is in the
table and the datagram is not addressed to CCID 0.** For every daemon with one tunnel, in every
state that it reaches, and every datagram that the transport of the tunnel reacts to. -/
theorem dispatch_agrees_iff (hmac : Hmac) (tcfg : TunnelConfigEntry) (hacc : tcfg.Accepted)
    (dataplane : Option δ) (clock : Nat → ℚ) (w : Watched δ)
    (hw : Transition.Reach (Watched.step hmac) (fun _ _ => True)
      (Watched.init ⟨[tcfg]⟩ dataplane clock) w)
    (buf : Bytes) (hreacts : Reacts hmac tcfg.localCcid w buf) :
    dispatch hmac buf w = handleDirectly hmac tcfg.localCcid buf w ↔
      w.daemon.tunnels.contains tcfg.localCcid = true ∧ peekCcid buf ≠ 0 := by
  have hruns : w.daemon.Runs ⟨[tcfg]⟩
      fun ccid t => ccid = tcfg.localCcid ∧ (placed ccid).Holds t := by
    refine Daemon.runs_of_reach (Watched.daemon_reach hw) (fun tcfg' hmem => ?_) fun ccid e w h =>
      ⟨h.1, (placed_stable ccid).handle e w h.2⟩
    obtain rfl := List.mem_singleton.mp hmem
    exact ⟨rfl, rfl, ⟨rfl, Peer.sound_init _ _ _ _ _⟩, trivial, fun _ _ _ => trivial⟩
  obtain ⟨t, hobject, heff⟩ := hreacts
  obtain ⟨msg, hmsg, haccepts⟩ := heff.accepts
  obtain ⟨hlen, hpeek⟩ := peek_of_unwire hmsg
  have haddressee : Crash.addressee w.daemon buf = w.daemon.tunnels.get? (peekCcid buf) := by
    rw [Crash.addressee, if_neg (by omega)]
    rfl
  constructor
  · -- a datagram that is dropped leaves no trace
    intro hsame
    have htaken : Crash.addressee w.daemon buf ≠ none := by
      intro hnone
      rcases Crash.dispatchDatagram_cases hmac w.daemon buf with ⟨-, hrun⟩ |
        ⟨t', ccid, _, -, haddr, -, -, -⟩
      · have hdrop : dispatch hmac buf w = (.ok (), w) := by
          rw [dispatch, Watched.onDaemon, zoom, hrun]
        exact handleDirectly_ne hmac hobject heff (hsame ▸ hdrop)
      · rw [hnone] at haddr
        cases haddr
    -- so it was found in the table, which has one key, and that is not 0
    rw [haddressee] at htaken
    obtain ⟨t', hget⟩ := Option.ne_none_iff_exists'.mp htaken
    have hkey : peekCcid buf = tcfg.localCcid := (hruns.tunnels _ t' hget).1
    have hpos := hacc.localCcid.1
    exact ⟨Dict.contains_iff.mpr ⟨t', hkey ▸ hget⟩, by omega⟩
  · -- the message is addressed to the tunnel, which is under that key
    rintro ⟨hlisted, hne⟩
    obtain ⟨t', hget⟩ := Dict.contains_iff.mp hlisted
    obtain rfl := Watched.object_listed hobject hget
    have hkey : peekCcid buf = tcfg.localCcid := by
      have hlocal : t'.peer.localCcid = tcfg.localCcid := (hruns.tunnels _ t' hget).2.peer.1
      have := Peer.accepts_iff.mp haccepts
      rw [← hpeek, hlocal] at this
      tauto
    rw [handleDirectly_listed hmac hget, dispatch, Watched.onDaemon, zoom]
    rcases Crash.dispatchDatagram_cases hmac w.daemon buf with ⟨hnone, -⟩ |
      ⟨t'', ccid, _, -, -, hget', rfl, hrun⟩
    · rw [haddressee, hkey, hget] at hnone
      cases hnone
    · obtain rfl := (hruns.tunnels ccid t'' hget').1
      rw [hget] at hget'
      cases hget'
      rw [hrun]
      rfl

/-- `Crash.started`, watched. -/
def startedWatched : Watched MockDataplane :=
  Watched.step ControlMessage.sumHmac (Watched.init ⟨[Dispatch.spoke]⟩ none fun _ => 0) .start

/-- The example's daemon after `start()`, with its objects. -/
theorem startedWatched_reached : Transition.Reach (Watched.step ControlMessage.sumHmac)
    (fun _ _ => True) (Watched.init ⟨[Dispatch.spoke]⟩ none fun _ => 0) startedWatched :=
  .next .start trivial

/-- The tunnel of `startedWatched`. -/
def startedTunnel : Tunnel := (Notices.spokeAfter [.start]).tunnel

theorem started_object : startedWatched.object Dispatch.spoke.localCcid = some startedTunnel := rfl

/-- The two ways of a HELLO agree on it. -/
theorem dispatch_agrees_iff_hello :
    dispatch ControlMessage.sumHmac Dispatch.hello startedWatched
      = handleDirectly ControlMessage.sumHmac 100 Dispatch.hello startedWatched := by
  have hunwire : unwire ControlMessage.sumHmac startedTunnel.cfg Dispatch.hello
      = .ok ⟨100, 0, 0, [messageTypeAvp .hello]⟩ := by decide +kernel
  have hreacts : Reacts ControlMessage.sumHmac 100 startedWatched Dispatch.hello :=
    ⟨startedTunnel, started_object, _, hunwire, .inl (by decide +kernel)⟩
  exact (dispatch_agrees_iff ControlMessage.sumHmac Dispatch.spoke
    (Crash.spoke_accepted.tunnels _ List.mem_cons_self) none (fun _ => 0) startedWatched
    startedWatched_reached Dispatch.hello hreacts).mpr ⟨by decide +kernel, by decide +kernel⟩

/-- The first SCCRQ of a peer that has not learned our CCID. -/
def firstSccrq : ControlMessage :=
  ⟨0, 0, 0, [messageTypeAvp .sccrq, ietfAvp .routerId (beBytes 4 2) true,
    ietfAvp .assignedControlConnectionId (beBytes 4 200) true,
    ietfAvp .pseudowireCapabilitiesList [0, 5] true, ietfAvp .hostName (utf8 "peer") true]⟩

/-- The transport takes it; the daemon drops it. -/
theorem firstSccrq_dropped :
    Transition.Reach (Watched.step ControlMessage.sumHmac) (fun _ _ => True)
      (Watched.init ⟨[Dispatch.spoke]⟩ none fun _ => 0) startedWatched ∧
    Reacts ControlMessage.sumHmac 100 startedWatched firstSccrq.wire ∧
    dispatch ControlMessage.sumHmac firstSccrq.wire startedWatched
      ≠ handleDirectly ControlMessage.sumHmac 100 firstSccrq.wire startedWatched := by
  have hunwire : unwire ControlMessage.sumHmac startedTunnel.cfg firstSccrq.wire = .ok firstSccrq := by
    decide +kernel
  refine ⟨startedWatched_reached,
    ⟨startedTunnel, started_object, _, hunwire, .inl (by decide +kernel)⟩, fun hsame => ?_⟩
  have hsent : (dispatch ControlMessage.sumHmac firstSccrq.wire
      startedWatched).2.daemon.sent.length ≠ (handleDirectly ControlMessage.sumHmac 100
        firstSccrq.wire startedWatched).2.daemon.sent.length := by
    decide +kernel
  exact hsent (by rw [hsame])

end Demux

end L2tpv3d
