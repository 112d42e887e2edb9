import L2tpv3d.Daemon.Tunnel
import L2tpv3d.Fsm.Outcome
import L2tpv3d.Wire.Digest

/-!
# L2tpv3d — what the methods of a tunnel leave alone

* `Peer.Sound` — both counters are 16-bit numbers; every operation of the peer keeps it.
* `send_cases` — everything a call of `_send` can do; `send_ok` — a regular message of a
  tunnel whose peer CCID is a 32-bit number is sent.
* `Executed w w'` — from `w` to `w'` only the transport and the dataplane moved. Executing
  session actions is such a move (`executed_sessionActions`), whether it returns or raises.
* `Cascaded w w'` — in addition, the sessions, the HELLO timer and the notices moved.
  Executing tunnel actions is such a move (`cascaded_tunnelActions`), and so is everything
  that follows the hand-over of a session message (`cascaded_dispatchSession`).
* `callSession` — a call of one session with all that follows it; `callSession_cases` — everything
  it can do.
* `handleDatagram_cases`, `dispatch_cases`, `dispatchSessionMessage_cases`, `tick_cases` —
  everything the handlers can do.
* `keeps_callSession`, `keeps_callMachine` — the rules for an invariant of the calls.
* `eachSession_down`, `tornDown_apply` — the cascade of a teardown leaves every session idle.
-/

namespace L2tpv3d

open Py Prog

/-! ## The counters of the peer

Every field of a message that is sent comes from the peer, and all of them stay within 16 bits. -/

/-- The counters are 16-bit numbers. -/
structure Peer.Sound (p : Peer) : Prop where
  ns : IsU16 p.nsSend
  nr : IsU16 p.nrExpect

namespace Peer

/-- A new peer starts both counters at 0. -/
theorem sound_init (localCcid remoteCcid receiveWindow : Int) (interval : ℚ) (maxRetries : Int) :
    (init localCcid remoteCcid receiveWindow interval maxRetries).Sound := by
  constructor <;> exact ⟨le_refl _, show (0 : Int) ≤ 0xFFFF by decide⟩

/-- What a received message leaves alone, whatever it is. -/
theorem receive_frame (p : Peer) (msg : ControlMessage) (h : p.Sound) :
    (p.receive msg).2.Sound ∧ (p.receive msg).2.localCcid = p.localCcid ∧
      (p.receive msg).2.remoteCcid = p.remoteCcid ∧
      (p.receive msg).2.receiveWindow = p.receiveWindow := by
  obtain ⟨n, -, nr, reorder, hnr, hr⟩ := receive_parts p msg
  rw [hr]
  exact ⟨⟨h.ns, hnr h.nr⟩, rfl, rfl, rfl⟩

/-- A tick moves no counter and no CCID: it takes messages off the queue or resends them. -/
theorem tick_frame (p : Peer) (now : ℚ) (h : p.Sound) :
    (p.tick now).2.Sound ∧ (p.tick now).2.localCcid = p.localCcid ∧
      (p.tick now).2.remoteCcid = p.remoteCcid ∧ (p.tick now).2.nrExpect = p.nrExpect ∧
      (p.tick now).2.reorder = p.reorder ∧ (p.tick now).2.receiveWindow = p.receiveWindow := by
  -- an exception in the queue; the peer found dead; the queue gone through
  rcases tick_cases p now with ⟨-, ht⟩ | ⟨-, queue, _, -, ⟨_, _, -, ht⟩ | ⟨_, -, ht⟩⟩
  · exact ht ▸ ⟨h, rfl, rfl, rfl, rfl, rfl⟩
  · exact ht ▸ ⟨⟨h.ns, h.nr⟩, rfl, rfl, rfl, rfl, rfl⟩
  · exact ht ▸ ⟨⟨h.ns, h.nr⟩, rfl, rfl, rfl, rfl, rfl⟩

/-- The receiving side is untouched. -/
structure SameLink (p q : Peer) : Prop where
  localCcid : q.localCcid = p.localCcid
  remoteCcid : q.remoteCcid = p.remoteCcid
  receiveWindow : q.receiveWindow = p.receiveWindow
  nrExpect : q.nrExpect = p.nrExpect
  reorder : q.reorder = p.reorder
  sound : p.Sound → q.Sound

theorem SameLink.refl (p : Peer) : SameLink p p := ⟨rfl, rfl, rfl, rfl, rfl, id⟩

theorem SameLink.trans {p q r : Peer} (h : SameLink p q) (h' : SameLink q r) : SameLink p r :=
  ⟨h'.localCcid.trans h.localCcid, h'.remoteCcid.trans h.remoteCcid,
    h'.receiveWindow.trans h.receiveWindow, h'.nrExpect.trans h.nrExpect,
    h'.reorder.trans h.reorder, fun hp => h'.sound (h.sound hp)⟩

/-- Sending advances `ns_send` and leaves the receiving side alone. -/
theorem sameLink_send {p q : Peer} {avps : List AVP} {now : ℚ} {msg : ControlMessage}
    (h : p.send avps now = .ok (msg, q)) : SameLink p q := by
  obtain ⟨-, -, _, -, rfl⟩ := send_eq_ok.mp h
  exact ⟨rfl, rfl, rfl, rfl, rfl, fun hp => ⟨seqAdvance_range _, hp.nr⟩⟩

end Peer

namespace Tunnel

open World

variable {δ : Type} (hmac : Hmac)

/-! ## Construction

The table of a tunnel just built has one idle machine for each entry, under its Session ID. -/

/-- The sessions of a tunnel just constructed come from its configuration. -/
theorem get?_init {cfg : TunnelConfigEntry} {sid : Int} {s : SessionFSM}
    (h : (Tunnel.init cfg).sessionsByLocal.get? sid = some s) :
    ∃ scfg ∈ cfg.sessions, scfg.localSid = sid ∧ s = { config := scfg.toConfig cfg } := by
  -- over the entries still to be added, from any table that comes from `cfg.sessions`
  have hfold : ∀ (entries : List SessionConfigEntry) (d : Dict Int SessionFSM),
      (∀ e ∈ entries, e ∈ cfg.sessions) →
      (∀ sid s, d.get? sid = some s → ∃ scfg ∈ cfg.sessions, scfg.localSid = sid ∧
        s = { config := scfg.toConfig cfg }) →
      (entries.foldl (fun d scfg => d.set scfg.localSid
        { config := scfg.toConfig cfg }) d).get? sid = some s →
      ∃ scfg ∈ cfg.sessions, scfg.localSid = sid ∧ s = { config := scfg.toConfig cfg } := by
    intro entries
    induction entries with
    | nil => exact fun d _ hd hget => hd sid s hget
    | cons e entries ih =>
      intro d hmem hd hget
      refine ih _ (fun e' he' => hmem e' (List.mem_cons_of_mem _ he')) ?_ hget
      intro sid' s' hs'
      rw [Dict.get?_set] at hs'
      split at hs'
      · rename_i heq
        cases hs'
        exact ⟨e, hmem e List.mem_cons_self, heq, rfl⟩
      · exact hd sid' s' hs'
  exact hfold cfg.sessions .empty (fun _ he => he) (by simp) h

/-- Under distinct session IDs every session of the configuration is there. -/
theorem items_init {cfg : TunnelConfigEntry} (h : (cfg.sessions.map (·.localSid)).Nodup) :
    (Tunnel.init cfg).sessionsByLocal.items = cfg.sessions.map fun scfg =>
      (scfg.localSid, ({ config := scfg.toConfig cfg } : SessionFSM)) := by
  have hitems := Dict.items_foldl_set (fun scfg : SessionConfigEntry => scfg.localSid)
    (fun scfg => ({ config := scfg.toConfig cfg } : SessionFSM)) cfg.sessions .empty h
    (fun _ _ => List.not_mem_nil)
  exact hitems

/-! ## Sending

`send_cases` is the specification: the counter of the clock is read in any case, then `send` may
refuse, or the signing may. -/

/-- The world after a reading of the clock. -/
def tocked (w : World δ) : World δ := { w with clock := fun n => w.clock (n + 1) }

/-- **Everything a call of `_send` can do**: the peer refuses the message, or queues it and
the datagram cannot be signed, or the datagram is sent. -/
theorem send_cases (avps : List AVP) (w : World δ) :
    (∃ e, w.tunnel.peer.send avps (w.clock 0) = .error e ∧
      send hmac avps w = (.error e, tocked w)) ∨
    (∃ msg peer, w.tunnel.peer.send avps (w.clock 0) = .ok (msg, peer) ∧
      ((∃ e, wire hmac w.tunnel.cfg msg = .error e ∧
        send hmac avps w = (.error e, (tocked w).withPeer peer)) ∨
      (∃ bs, wire hmac w.tunnel.cfg msg = .ok bs ∧
        send hmac avps w
          = (.ok (), { (tocked w).withPeer peer with sent := w.sent ++ [bs] })))) := by
  have hrun : send hmac avps w = (do
      let r ← ofExcept (w.tunnel.peer.send avps (w.clock 0))
      modify (withPeer r.2)
      let wire ← ofExcept (wire hmac w.tunnel.cfg r.1)
      transportSend wire : Prog (World δ) Unit) (tocked w) := rfl
  rw [hrun]
  -- the peer refuses to number it; it cannot be written; it is sent
  cases hsend : w.tunnel.peer.send avps (w.clock 0) with
  | error e => exact .inl ⟨e, rfl, rfl⟩
  | ok r =>
    obtain ⟨msg, peer⟩ := r
    refine .inr ⟨msg, peer, rfl, ?_⟩
    cases hwire : wire hmac w.tunnel.cfg msg with
    | error e => exact .inl ⟨e, rfl, by simp [hwire]⟩
    | ok bs => exact .inr ⟨bs, rfl, by simp [hwire, transportSend]; rfl⟩

/-- The header fields of what the tunnel sends are in range. -/
structure Ready (t : Tunnel) : Prop where
  sound : t.peer.Sound
  remoteCcid : IsU32 t.peer.remoteCcid

/-- **A regular message is sent.** -/
theorem send_ok {avps : List AVP} {w : World δ} (hready : w.tunnel.Ready) (havps : Regular avps) :
    ∃ msg peer bs, w.tunnel.peer.send avps (w.clock 0) = .ok (msg, peer) ∧
      wire hmac w.tunnel.cfg msg = .ok bs ∧
      send hmac avps w = (.ok (), { (tocked w).withPeer peer with sent := w.sent ++ [bs] }) := by
  have hwf := havps.wellFormed hready.remoteCcid hready.sound.ns hready.sound.nr
  have henc := ControlMessage.encode_of_wellFormed hwf.1
  have hsend : w.tunnel.peer.send avps (w.clock 0) = .ok (_, _) :=
    Peer.send_eq_ok.mpr ⟨havps.ne_nil, rfl, _, henc, rfl⟩
  rcases send_cases hmac avps w with ⟨e, he, -⟩ | ⟨msg, peer, hok, ⟨e, he, -⟩ | ⟨bs, hbs, hrun⟩⟩
  -- the peer does not refuse it
  · rw [hsend] at he
    cases he
  · -- signing appends one digest AVP, for which a regular list leaves room
    exfalso
    obtain ⟨-, rfl, -⟩ := Peer.send_eq_ok.mp hok
    unfold wire at he
    split at he
    · rename_i secret hsecret
      have hsigned : ControlMessage.encodeSigned ⟨w.tunnel.peer.remoteCcid, w.tunnel.peer.nsSend,
          w.tunnel.peer.nrExpect, avps⟩ hmac w.tunnel.cfg.digestAlg secret = .ok _ :=
        (ControlMessage.encodeSigned_eq_ok (TunnelConfigEntry.secret_ne_nil hsecret)).mpr
          ⟨hwf.2 w.tunnel.cfg.digestAlg, rfl⟩
      rw [hsigned] at he
      cases he
    · rw [henc] at he
      cases he
  · exact ⟨msg, peer, bs, hok, hbs, hrun⟩

/-- What the datagram of a message decodes to: the message, with the digest it was signed with. -/
theorem decode_of_wire {cfg : TunnelConfigEntry} {msg : ControlMessage} {bs : Bytes}
    (h : wire hmac cfg msg = .ok bs) :
    ∃ digest, (∀ d ∈ digest, d.isDigest = true) ∧
      ControlMessage.decode bs = .ok { msg with avps := msg.avps ++ digest } := by
  unfold wire at h
  split at h
  · rename_i secret hsecret
    obtain ⟨hwf, rfl⟩ := (ControlMessage.encodeSigned_eq_ok
      (TunnelConfigEntry.secret_ne_nil hsecret)).mp h
    exact ⟨_, by simp [buildMessageDigest, AVP.isDigest, vendorIetf],
      ControlMessage.decode_wire (ControlMessage.signed_wellFormed hwf)⟩
  · exact ⟨[], by simp, by simpa using ControlMessage.decode_of_encode h⟩

/-! ## Executing session actions

The executor goes through a list and may stop early. What it cannot touch is said of the list, by
one lemma for each action. -/

/-- Only the transport and the dataplane moved. -/
structure Executed (w w' : World δ) : Prop where
  cfg : w'.tunnel.cfg = w.tunnel.cfg
  fsm : w'.tunnel.fsm = w.tunnel.fsm
  timer : w'.tunnel.timer = w.tunnel.timer
  sessionsByLocal : w'.tunnel.sessionsByLocal = w.tunnel.sessionsByLocal
  sessionsByRemote : w'.tunnel.sessionsByRemote = w.tunnel.sessionsByRemote
  link : w.tunnel.peer.SameLink w'.tunnel.peer
  sent : ∃ more, w'.sent = w.sent ++ more
  dispatched : w'.dispatched = w.dispatched
  notices : w'.notices = w.notices

theorem Executed.refl (w : World δ) : Executed w w :=
  ⟨rfl, rfl, rfl, rfl, rfl, .refl _, ⟨[], by simp⟩, rfl, rfl⟩

theorem Executed.trans {w w' w'' : World δ} (h : Executed w w') (h' : Executed w' w'') :
    Executed w w'' := by
  obtain ⟨more, hmore⟩ := h.sent
  obtain ⟨more', hmore'⟩ := h'.sent
  exact ⟨h'.cfg.trans h.cfg, h'.fsm.trans h.fsm, h'.timer.trans h.timer,
    h'.sessionsByLocal.trans h.sessionsByLocal, h'.sessionsByRemote.trans h.sessionsByRemote,
    h.link.trans h'.link, ⟨more ++ more', by rw [hmore', hmore, List.append_assoc]⟩,
    h'.dispatched.trans h.dispatched, h'.notices.trans h.notices⟩

/-- A send touches the queue of the peer and what has been sent, and nothing else. -/
theorem executed_send (avps : List AVP) (w : World δ) : Executed w (send hmac avps w).2 := by
  -- refused by the peer; queued and not signed; sent
  rcases send_cases hmac avps w with ⟨e, -, h⟩ | ⟨msg, peer, hsend, ⟨e, -, h⟩ | ⟨bs, -, h⟩⟩
  · rw [h]
    exact ⟨rfl, rfl, rfl, rfl, rfl, .refl _, ⟨[], by simp [tocked]⟩, rfl, rfl⟩
  · rw [h]
    exact ⟨rfl, rfl, rfl, rfl, rfl, Peer.sameLink_send hsend,
      ⟨[], by simp [tocked, withPeer, mapTunnel]⟩, rfl, rfl⟩
  · rw [h]
    exact ⟨rfl, rfl, rfl, rfl, rfl, Peer.sameLink_send hsend, ⟨[bs], rfl⟩, rfl, rfl⟩

/-- A call of the dataplane moves the dataplane and the record of faults only. -/
theorem onDataplane_frame {α : Type} (call : Prog δ α) (w : World δ) :
    ∃ r dataplane faults, onDataplane call w
      = (.ok r, { w with dataplane := dataplane, faults := faults }) := by
  unfold onDataplane
  cases hdp : w.dataplane with
  | none => exact ⟨false, none, w.faults, by cases w; cases hdp; rfl⟩
  | some dp =>
    simp only
    rcases call dp with ⟨e | a, dp'⟩
    · exact ⟨false, some dp', w.faults ++ [e], rfl⟩
    · exact ⟨true, some dp', w.faults, rfl⟩

/-- A call that the dataplane answers leaves no entry in the log of faults. -/
theorem onDataplane_ok {α : Type} {call : Prog δ α} {w : World δ} {dp dp' : δ} {a : α}
    (hdp : w.dataplane = some dp) (hcall : call dp = (.ok a, dp')) :
    onDataplane call w = (.ok true, { w with dataplane := some dp' }) := by
  simp [onDataplane, hdp, hcall]

variable [Dataplane δ]

/-! ### Invariants of the executor

What an invariant must stand to survive the execution of actions: changes of the dataplane,
the sends of the actions, and, for the actions of the tunnel machine, also changes of the
timer and of the notices, and the calls of the sessions. -/

section Executor

variable {I : World δ → Prop}

/-- `I` does not look at the dataplane. -/
def IgnoresDataplane (I : World δ → Prop) : Prop :=
  ∀ (w : World δ) (dataplane : Option δ) (faults : List Exn) (added : Bool), I w → I { w with
    tunnel := { w.tunnel with tunnelDpAdded := added }
    dataplane := dataplane
    faults := faults }

/-- `I` looks neither at the HELLO timer and the clock nor at the notices. -/
def IgnoresTimer (I : World δ → Prop) : Prop :=
  ∀ (w : World δ) (timer : HelloTimer) (clock : Nat → ℚ) (notices : List Notice), I w → I { w with
    tunnel := { w.tunnel with timer := timer }
    clock := clock
    notices := notices }

omit [Dataplane δ] in
/-- A call of the dataplane: its exceptions are caught, and only the dataplane and the log of faults
can have changed. -/
theorem keeps_onDataplane (hdp : IgnoresDataplane I) {α : Type} (call : Prog δ α) :
    Keeps I (onDataplane call) := by
  intro w h
  obtain ⟨r, dataplane, faults, hrun⟩ := onDataplane_frame call w
  rw [hrun]
  exact hdp w dataplane faults w.tunnel.tunnelDpAdded h

/-- The call that makes sure of the kernel tunnel, and the flag it sets. -/
theorem keeps_ensureTunnelDataplane (hdp : IgnoresDataplane I) :
    Keeps I (ensureTunnelDataplane (δ := δ)) := by
  refine Keeps.get_bind fun w h => ?_
  split
  · exact h
  · refine Keeps.bind (keeps_onDataplane hdp _) (fun added => ?_) w h
    -- the flag is set after a call that was answered, and left after one that failed
    cases added
    · exact Keeps.pure ()
    · exact Keeps.modify fun w h => hdp w w.dataplane w.faults true h

/-- **One action of a session**: an invariant that ignores the dataplane has only the sends to
survive. -/
theorem keeps_executeSessionAction (hdp : IgnoresDataplane I) {a : SessionAction}
    (hsend : ∀ avps, a = .sendMessage avps → Keeps I (send hmac avps)) :
    Keeps I (executeSessionAction hmac a) := by
  cases a with
  | sendMessage avps => exact hsend avps rfl
  | dataplaneAddSession params =>
    exact Keeps.bind (keeps_ensureTunnelDataplane hdp) fun _ =>
      Keeps.bind (keeps_onDataplane hdp _) fun _ => Keeps.pure ()
  | dataplaneDelSession ccid sid =>
    exact Keeps.bind (keeps_onDataplane hdp _) fun _ => Keeps.pure ()
  | sessionEstablished => exact Keeps.pure ()
  | sessionTornDown reason => exact Keeps.pure ()

theorem keeps_executeSessionActions (hdp : IgnoresDataplane I) {actions : List SessionAction}
    (hsend : ∀ avps, .sendMessage avps ∈ actions → Keeps I (send hmac avps)) :
    Keeps I (executeSessionActions hmac actions) :=
  Keeps.each fun _ ha => keeps_executeSessionAction hmac hdp fun avps heq => hsend avps (heq ▸ ha)

/-- The two cascades of a tunnel action are the calls of `on_tunnel_established` and
`on_tunnel_down`. -/
theorem keeps_tunnelAction (hdp : IgnoresDataplane I) (htimer : IgnoresTimer I) {a : TunnelAction}
    (hsend : ∀ avps, a = .sendMessage avps → Keeps I (send hmac avps))
    (hup : a = .established → Keeps I (eachSession hmac SessionFSM.onTunnelEstablished))
    (hdown : ∀ reason, a = .tornDown reason → Keeps I (eachSession hmac SessionFSM.onTunnelDown)) :
    Keeps I (executeTunnelAction hmac a) := by
  cases a with
  | sendMessage avps => exact hsend avps rfl
  | setHelloTimer seconds => exact fun w h => htimer w _ _ w.notices h
  | clearHelloTimer => exact fun w h => htimer w _ w.clock w.notices h
  | established =>
    exact Keeps.bind (Keeps.modify fun w h => htimer w w.tunnel.timer w.clock _ h) fun _ =>
      hup rfl
  | tornDown reason =>
    -- the notice, the cascade, and then the kernel tunnel
    refine Keeps.bind (Keeps.modify fun w h => htimer w w.tunnel.timer w.clock _ h) fun _ => ?_
    refine Keeps.bind (hdown reason rfl) fun _ => Keeps.get_bind fun w h => ?_
    split
    · have hdel : Keeps I (onDataplane (Dataplane.delTunnel (δ := δ) w.tunnel.cfg.localCcid)) :=
        keeps_onDataplane hdp _
      refine hdel.bind (fun _ => ?_) w h
      exact Keeps.modify fun w h => hdp w w.dataplane w.faults false h
    · exact h

/-- One action of the tunnel machine: beside the sends there are the calls of the sessions and the
timer. -/
theorem keeps_executeTunnelAction (hdp : IgnoresDataplane I) (htimer : IgnoresTimer I)
    (hcall : ∀ m, SessionFSM.Method m → Keeps I (eachSession hmac m)) {a : TunnelAction}
    (hsend : ∀ avps, a = .sendMessage avps → Keeps I (send hmac avps)) :
    Keeps I (executeTunnelAction hmac a) :=
  keeps_tunnelAction hmac hdp htimer hsend
    (fun _ => hcall _ SessionFSM.method_onTunnelEstablished)
    fun _ _ => hcall _ SessionFSM.method_onTunnelDown

/-- The actions of the tunnel machine, one after the other. -/
theorem keeps_executeTunnelActions (hdp : IgnoresDataplane I) (htimer : IgnoresTimer I)
    (hcall : ∀ m, SessionFSM.Method m → Keeps I (eachSession hmac m)) {actions : List TunnelAction}
    (hsend : ∀ avps, .sendMessage avps ∈ actions → Keeps I (send hmac avps)) :
    Keeps I (executeTunnelActions hmac actions) :=
  Keeps.each fun _ ha => keeps_executeTunnelAction hmac hdp htimer hcall fun avps heq =>
    hsend avps (heq ▸ ha)

end Executor

omit [Dataplane δ] in
/-- What the executor leaves alone, it leaves alone whatever the dataplane answers. -/
theorem executed_ignoresDataplane (w₀ : World δ) : IgnoresDataplane (Executed w₀) :=
  fun _ _ _ _ h => ⟨h.cfg, h.fsm, h.timer, h.sessionsByLocal, h.sessionsByRemote, h.link,
    h.sent, h.dispatched, h.notices⟩

/-- One action of a session is such a move. -/
theorem executed_sessionAction (a : SessionAction) (w : World δ) :
    Executed w (executeSessionAction hmac a w).2 :=
  keeps_executeSessionAction hmac (executed_ignoresDataplane w)
    (fun avps _ w' h => h.trans (executed_send hmac avps w')) w (.refl w)

theorem executed_sessionActions (actions : List SessionAction) (w : World δ) :
    Executed w (executeSessionActions hmac actions w).2 :=
  keeps_executeSessionActions hmac (executed_ignoresDataplane w)
    (fun avps _ w' h => h.trans (executed_send hmac avps w')) w (.refl w)

/-! ## The call of a session

Method, index and actions come in this order wherever a session is called. `callSession_cases` tells
the three ways in which that can end. -/

omit [Dataplane δ] in
/-- A call of a session method runs the machine under its key. -/
theorem onSession_some {sid : Int} {sess : SessionFSM} (m : Prog SessionFSM (List SessionAction))
    {w : World δ} (h : w.tunnel.sessionsByLocal.get? sid = some sess) :
    onSession sid m w = ((m sess).1, w.withSession sid (m sess).2) := by
  simp [onSession, h]

omit [Dataplane δ] in
/-- No session of that ID: nothing is called, and there is nothing to execute. -/
theorem onSession_none {sid : Int} (m : Prog SessionFSM (List SessionAction)) {w : World δ}
    (h : w.tunnel.sessionsByLocal.get? sid = none) : onSession sid m w = (.ok [], w) := by
  simp [onSession, h]

omit [Dataplane δ] in
/-- The table after a session has been written back. -/
theorem get?_withSession (w : World δ) (sid sid' : Int) (sess : SessionFSM) :
    (w.withSession sid sess).tunnel.sessionsByLocal.get? sid'
      = if sid = sid' then some sess else w.tunnel.sessionsByLocal.get? sid' :=
  Dict.get?_set _ _ _ _

/-- A call of a session, the change `g` of the tunnel, and the execution of what the call
returned. -/
def callSession (sid : Int) (m : Prog SessionFSM (List SessionAction)) (g : Tunnel → Tunnel) :
    Prog (World δ) Unit := do
  let actions ← onSession sid m
  modify (mapTunnel g)
  executeSessionActions hmac actions

section CallSession

variable {sid : Int} {m : Prog SessionFSM (List SessionAction)} {g : Tunnel → Tunnel} {w : World δ}
  {s s' : SessionFSM}

theorem callSession_none (hget : w.tunnel.sessionsByLocal.get? sid = none) :
    callSession hmac sid m g w = (.ok (), w.mapTunnel g) := by
  rw [callSession, bind_apply_of_ok _ _ (onSession_none m hget), modify_bind_apply]
  rfl

/-- A method that raised: the session is written back, and its exception goes on. -/
theorem callSession_error {e : Exn} (hget : w.tunnel.sessionsByLocal.get? sid = some s)
    (hrun : m s = (.error e, s')) :
    callSession hmac sid m g w = (.error e, w.withSession sid s') := by
  have hon := onSession_some m hget
  rw [hrun] at hon
  rw [callSession, bind_apply_of_error _ _ hon]

/-- A method that returned: the session is written back, the index follows, and the actions are
executed. -/
theorem callSession_ok {actions : List SessionAction}
    (hget : w.tunnel.sessionsByLocal.get? sid = some s) (hrun : m s = (.ok actions, s')) :
    callSession hmac sid m g w
      = executeSessionActions hmac actions ((w.withSession sid s').mapTunnel g) := by
  have hon := onSession_some m hget
  rw [hrun] at hon
  rw [callSession, bind_apply_of_ok _ _ hon, modify_bind_apply]

/-- `g` changes nothing but the by-remote index. -/
def OnlyIndex (g : Tunnel → Tunnel) : Prop := ∀ t, ∃ r, g t = { t with sessionsByRemote := r }

/-- Leaving the tunnel alone touches only the index. -/
theorem onlyIndex_id : OnlyIndex id := fun t => ⟨t.sessionsByRemote, rfl⟩

/-- So does entering a session under the ID of its peer. -/
theorem onlyIndex_indexRemote (sid : Int) : OnlyIndex (indexRemote sid) := by
  intro t
  unfold indexRemote
  -- no session of that ID, no peer's ID yet, and one to enter
  split
  · exact ⟨_, rfl⟩
  · split
    · exact ⟨_, rfl⟩
    · exact ⟨_, rfl⟩

omit [Dataplane δ] in
theorem OnlyIndex.mapTunnel (hg : OnlyIndex g) (w : World δ) : ∃ r, w.mapTunnel g = w.withIndex r := by
  obtain ⟨r, hr⟩ := hg w.tunnel
  exact ⟨r, by rw [World.mapTunnel, hr]; rfl⟩

/-- **Everything the call of a session can do**: nothing if the session is not there, raise if
its machine raises, and otherwise execute what the machine returned. -/
theorem callSession_cases (sid : Int) (m : Prog SessionFSM (List SessionAction))
    (hg : OnlyIndex g) (w : World δ) :
    (∃ r, w.tunnel.sessionsByLocal.get? sid = none ∧
      callSession hmac sid m g w = (.ok (), w.withIndex r)) ∨
    (∃ s s' e, w.tunnel.sessionsByLocal.get? sid = some s ∧ m s = (.error e, s') ∧
      callSession hmac sid m g w = (.error e, w.withSession sid s')) ∨
    ∃ s s' actions r, w.tunnel.sessionsByLocal.get? sid = some s ∧ m s = (.ok actions, s') ∧
      callSession hmac sid m g w
        = executeSessionActions hmac actions ((w.withSession sid s').withIndex r) := by
  cases hget : w.tunnel.sessionsByLocal.get? sid with
  | none =>
    obtain ⟨r, hr⟩ := hg.mapTunnel w
    exact .inl ⟨r, rfl, hr ▸ callSession_none hmac hget⟩
  | some s =>
    rcases hrun : m s with ⟨e | actions, s'⟩
    · exact .inr (.inl ⟨s, s', e, rfl, hrun, callSession_error hmac hget hrun⟩)
    · obtain ⟨r, hr⟩ := hg.mapTunnel (w.withSession sid s')
      exact .inr (.inr ⟨s, s', actions, r, rfl, hrun, hr ▸ callSession_ok hmac hget hrun⟩)

/-- The sessions after a call: the one that was called moved. -/
theorem callSession_sessions (hg : OnlyIndex g) (hget : w.tunnel.sessionsByLocal.get? sid = some s)
    (sid' : Int) : (callSession hmac sid m g w).2.tunnel.sessionsByLocal.get? sid'
      = if sid = sid' then some (m s).2 else w.tunnel.sessionsByLocal.get? sid' := by
  rcases hrun : m s with ⟨e | actions, s'⟩
  · rw [callSession_error hmac hget hrun]
    exact get?_withSession w sid sid' s'
  · obtain ⟨r, hr⟩ := hg.mapTunnel (w.withSession sid s')
    rw [callSession_ok hmac hget hrun, hr, (executed_sessionActions hmac actions _).sessionsByLocal]
    exact get?_withSession w sid sid' s'

end CallSession

/-- A call with nothing in between. -/
theorem closeSession_eq (sid resultCode : Int) : closeSession (δ := δ) hmac sid resultCode
    = callSession hmac sid (SessionFSM.onLocalClose resultCode) id := rfl

theorem keeps_eachSession {I : World δ → Prop} {m : Prog SessionFSM (List SessionAction)}
    (h : ∀ sid, Keeps I (callSession hmac sid m id)) : Keeps I (eachSession hmac m) :=
  Keeps.get_bind fun w hw => Keeps.each (fun sid _ => h sid) w hw

/-! ## Executing tunnel actions

The actions of the tunnel machine call the sessions in turn, so their frame is wider: neither the
tunnel machine nor the receiving side moves. -/

/-- Neither the tunnel machine nor the receiving side moved, and nothing was handed over. -/
structure Cascaded (w w' : World δ) : Prop where
  cfg : w'.tunnel.cfg = w.tunnel.cfg
  fsm : w'.tunnel.fsm = w.tunnel.fsm
  link : w.tunnel.peer.SameLink w'.tunnel.peer
  sent : ∃ more, w'.sent = w.sent ++ more
  dispatched : w'.dispatched = w.dispatched

omit [Dataplane δ] in
/-- What a session's actions leave alone, the cascade leaves alone. -/
theorem Executed.cascaded {w w' : World δ} (h : Executed w w') : Cascaded w w' :=
  ⟨h.cfg, h.fsm, h.link, h.sent, h.dispatched⟩

omit [Dataplane δ] in
theorem Cascaded.refl (w : World δ) : Cascaded w w := (Executed.refl w).cascaded

omit [Dataplane δ] in
theorem Cascaded.trans {w w' w'' : World δ} (h : Cascaded w w') (h' : Cascaded w' w'') :
    Cascaded w w'' := by
  obtain ⟨more, hmore⟩ := h.sent
  obtain ⟨more', hmore'⟩ := h'.sent
  exact ⟨h'.cfg.trans h.cfg, h'.fsm.trans h.fsm, h.link.trans h'.link,
    ⟨more ++ more', by rw [hmore', hmore, List.append_assoc]⟩, h'.dispatched.trans h.dispatched⟩

theorem cascaded_callSession (sid : Int) (m : Prog SessionFSM (List SessionAction))
    {g : Tunnel → Tunnel} (hg : OnlyIndex g) (w : World δ) :
    Cascaded w (callSession hmac sid m g w).2 := by
  have hset : ∀ (s : SessionFSM) r, Cascaded w ((w.withSession sid s).withIndex r) := fun s r =>
    ⟨rfl, rfl, .refl _, ⟨[], (List.append_nil _).symm⟩, rfl⟩
  -- no such session; a method that raised; a method that returned actions
  rcases callSession_cases hmac sid m hg w with ⟨r, -, hrun⟩ | ⟨s, s', e, -, -, hrun⟩ |
    ⟨s, s', actions, r, -, -, hrun⟩
  · rw [hrun]
    exact ⟨rfl, rfl, .refl _, ⟨[], (List.append_nil _).symm⟩, rfl⟩
  · rw [hrun]
    exact hset s' _
  · rw [hrun]
    exact (hset s' r).trans (executed_sessionActions hmac actions _).cascaded

/-- The loop over the sessions is such a move. -/
theorem cascaded_eachSession (m : Prog SessionFSM (List SessionAction)) (w₀ : World δ) :
    Keeps (Cascaded w₀) (eachSession hmac m) :=
  keeps_eachSession hmac fun sid w h => h.trans (cascaded_callSession hmac sid m onlyIndex_id w)

/-- So is every list of actions of the tunnel machine. -/
theorem cascaded_tunnelActions (actions : List TunnelAction) (w : World δ) :
    Cascaded w (executeTunnelActions hmac actions w).2 :=
  keeps_executeTunnelActions hmac (fun _ _ _ _ h => ⟨h.cfg, h.fsm, h.link, h.sent, h.dispatched⟩)
    (fun _ _ _ _ h => ⟨h.cfg, h.fsm, h.link, h.sent, h.dispatched⟩)
    (fun m _ => cascaded_eachSession hmac m w)
    (fun avps _ w' h => h.trans (executed_send hmac avps w').cascaded) w (.refl w)

omit [Dataplane δ] in
theorem onFsm_apply {α : Type} (m : Prog TunnelFSM α) (w : World δ) :
    onFsm m w = ((m w.tunnel.fsm).1, w.withFsm (m w.tunnel.fsm).2) := rfl

/-! ## Datagrams and ticks

The specification of each handler, as a list of cases. All invariants are proved from these, and the
handlers are not unfolded again. -/

omit [Dataplane δ] in
/-- Reading a datagram raises nothing but `ValueError`, with a password or without. -/
theorem unwire_onlyValueError (cfg : TunnelConfigEntry) (buf : Bytes) :
    OnlyValueError (unwire hmac cfg buf) := by
  unfold unwire
  split
  · rename_i secret hsecret
    exact ControlMessage.decodeAndVerify_onlyValueError hmac buf _ secret
      (TunnelConfigEntry.secret_ne_nil hsecret)
  · exact ControlMessage.decode_onlyValueError buf

omit [Dataplane δ] in
/-- Learning the CCID touches nothing else, and what is learned is a 32-bit number. -/
theorem learnCcid_eq (peer : Peer) (msg : ControlMessage) :
    ∃ ccid, learnCcid peer msg = .ok (peer.setRemoteCcid ccid) ∧
      (ccid = peer.remoteCcid ∨ peer.remoteCcid = 0 ∧ IsU32 ccid) := by
  have hself : peer = peer.setRemoteCcid peer.remoteCcid := rfl
  unfold learnCcid
  split
  · rename_i hzero
    -- no Assigned Connection ID among the AVPs
    split
    · exact ⟨_, congrArg Except.ok hself, .inl rfl⟩
    · rename_i avp _
      split
      · rename_i hlen
        rw [unpack_eq_ok hlen, ok_bind]
        have hlt := beNat_lt avp.value
        rw [hlen] at hlt
        -- 4 bytes long: an assigned ID of 0 is not learned
        by_cases hassigned : (beNat avp.value : Int) = 0
        · exact ⟨_, by rw [if_neg (by simpa using hassigned)]; exact congrArg Except.ok hself, .inl rfl⟩
        · exact ⟨_, by rw [if_pos hassigned]; rfl, .inr ⟨hzero, by omega, by omega⟩⟩
      · exact ⟨_, congrArg Except.ok hself, .inl rfl⟩
  · exact ⟨_, congrArg Except.ok hself, .inl rfl⟩

omit [Dataplane δ] in
/-- The peer after a message: the CCID it may have learned is the only thing that the
reception did not take from the peer before. -/
theorem received_frame {p peer : Peer} {msg : ControlMessage} {ccid : Int}
    {r : List AVP × List ControlMessage} (hlearn : learnCcid p msg = .ok (p.setRemoteCcid ccid))
    (hr : (p.setRemoteCcid ccid).receive msg = (r, peer)) (hp : p.Sound) :
    peer.Sound ∧ (IsU32 p.remoteCcid → IsU32 peer.remoteCcid) ∧ r.1 = (p.receive msg).1.1 := by
  obtain ⟨ccid', hlearn', hccid⟩ := learnCcid_eq p msg
  obtain rfl : ccid = ccid' := by
    rw [hlearn, Except.ok.injEq] at hlearn'
    exact congrArg Peer.remoteCcid hlearn'
  have hframe := Peer.receive_frame (p.setRemoteCcid ccid) msg ⟨hp.ns, hp.nr⟩
  have hdelivered := Peer.receive_delivered (p.setRemoteCcid ccid) msg
  rw [hr] at hframe hdelivered
  -- the CCID is the one learned: the old one, or a new 32-bit number
  refine ⟨hframe.1, fun hin => ?_, ?_⟩
  · rw [show peer.remoteCcid = ccid from hframe.2.2.1]
    rcases hccid with rfl | ⟨-, hnew⟩
    · exact hin
    · exact hnew
  · rw [Peer.receive_delivered]
    exact hdelivered

omit [Dataplane δ] in
/-- **An acknowledgement is written** whenever the CCID of the peer fits the header. -/
theorem encode_ackOnly {peer : Peer} (hsound : peer.Sound) (hremote : IsU32 peer.remoteCcid) :
    ∃ bs, peer.ackOnly.encode = .ok bs :=
  ⟨_, ControlMessage.encode_of_wellFormed ⟨hremote.1, hremote.2, hsound.ns.1, hsound.ns.2,
    hsound.nr.1, hsound.nr.2, by simp [Peer.ackOnly], show headerLen ≤ maxMessageLen by decide⟩⟩

omit [Dataplane δ] in
/-- An acknowledgement that could be written was for a peer CCID that fits the header. -/
theorem isU32_of_acked {p peer : Peer} {msg : ControlMessage} {ccid : Int} {bs : Bytes}
    {r : List AVP × List ControlMessage} (hp : p.Sound)
    (hlearn : learnCcid p msg = .ok (p.setRemoteCcid ccid))
    (hr : (p.setRemoteCcid ccid).receive msg = (r, peer)) (hbs : peer.ackOnly.encode = .ok bs) :
    IsU32 p.remoteCcid := by
  have hwf := ControlMessage.wellFormed_of_encode hbs
  have hremote : peer.remoteCcid = ccid := by
    have := (Peer.receive_frame (p.setRemoteCcid ccid) msg ⟨hp.ns, hp.nr⟩).2.2.1
    rwa [hr] at this
  -- nothing learned: the header had room for the CCID there was; learned: it was 0
  obtain ⟨ccid', hlearn', rfl | ⟨hzero, -⟩⟩ := learnCcid_eq p msg
  · rw [hlearn, Except.ok.injEq] at hlearn'
    have hccid : ccid = p.remoteCcid := congrArg Peer.remoteCcid hlearn'
    exact hccid ▸ hremote ▸ ⟨hwf.ccid_nonneg, hwf.ccid_le⟩
  · rw [hzero]
    exact ⟨le_refl _, by decide⟩

omit [Dataplane δ] in
/-- An acknowledgement that could not be written was for a CCID that does not fit. -/
theorem not_isU32_of_unacked {p peer : Peer} {msg : ControlMessage} {ccid : Int} {e : Exn}
    {r : List AVP × List ControlMessage} (hp : p.Sound)
    (hlearn : learnCcid p msg = .ok (p.setRemoteCcid ccid))
    (hr : (p.setRemoteCcid ccid).receive msg = (r, peer)) (he : peer.ackOnly.encode = .error e) :
    ¬ IsU32 p.remoteCcid := by
  intro hu
  obtain ⟨hsound, hccid, -⟩ := received_frame hlearn hr hp
  obtain ⟨bs, hbs⟩ := encode_ackOnly hsound (hccid hu)
  rw [hbs] at he
  cases he

/-- The world after a message was received, and acknowledged with `acks`. -/
def received (w : World δ) (peer : Peer) (acks : List Bytes) : World δ :=
  { w.withPeer peer with sent := w.sent ++ acks }

/-- **Everything `handle_datagram` can do** with the messages of a datagram: drop it; take
it without a response; or acknowledge it, and hand over what it made deliverable. -/
theorem handleDatagram_cases (buf : Bytes) (w : World δ) :
    (∃ e, unwire hmac w.tunnel.cfg buf = .error e ∧ handleDatagram hmac buf w = (.ok (), w)) ∨
    ∃ msg ccid peer delivered, unwire hmac w.tunnel.cfg buf = .ok msg ∧
      learnCcid w.tunnel.peer msg = .ok (w.tunnel.peer.setRemoteCcid ccid) ∧
      ((w.tunnel.peer.setRemoteCcid ccid).receive msg = (([], []), peer) ∧
        handleDatagram hmac buf w = (.ok (), received w peer []) ∨
      (w.tunnel.peer.setRemoteCcid ccid).receive msg = ((delivered, [peer.ackOnly]), peer) ∧
        ((∃ e, peer.ackOnly.encode = .error e ∧
          handleDatagram hmac buf w = (.error e, received w peer [])) ∨
        (∃ bs, peer.ackOnly.encode = .ok bs ∧ handleDatagram hmac buf w =
          if delivered ≠ [] then dispatch hmac msg delivered (received w peer [bs])
          else (.ok (), received w peer [bs])))) := by
  have htry := tryValueError_of_only (unwire_onlyValueError hmac w.tunnel.cfg buf)
  -- an unreadable datagram is dropped, a readable one meets the peer
  cases hmsg : unwire hmac w.tunnel.cfg buf with
  | error e =>
    rw [hmsg] at htry
    exact .inl ⟨e, rfl, by simp [handleDatagram, hmsg, htry, Except.toOption]⟩
  | ok msg =>
    obtain ⟨ccid, hlearn, -⟩ := learnCcid_eq w.tunnel.peer msg
    have hrun : ∀ delivered responses peer,
        (w.tunnel.peer.setRemoteCcid ccid).receive msg = ((delivered, responses), peer) →
        handleDatagram hmac buf w = (do
          each (fun resp => do
            let wire ← ofExcept (ControlMessage.encode resp)
            transportSend wire) responses
          if delivered ≠ [] then dispatch hmac msg delivered else return ()
            : Prog (World δ) Unit) (w.withPeer peer) := by
      intro delivered responses peer hrecv
      simp [handleDatagram, hmsg, tryValueError, hlearn, hrecv]
    -- the peer answers with nothing, or with one acknowledgement
    have hresp : (∃ peer, (w.tunnel.peer.setRemoteCcid ccid).receive msg = (([], []), peer)) ∨
        ∃ delivered peer, (w.tunnel.peer.setRemoteCcid ccid).receive msg
          = ((delivered, [peer.ackOnly]), peer) := by
      rcases Peer.receive_cases (w.tunnel.peer.setRemoteCcid ccid) msg with ⟨-, hr⟩ |
        ⟨-, q, -, ⟨-, hr⟩ | ⟨-, _, _, _, -, hr⟩ | ⟨-, -, hr⟩ | ⟨-, -, -, hr⟩ | ⟨-, -, -, hr⟩⟩
      · exact .inl ⟨_, hr⟩
      · exact .inl ⟨_, hr⟩
      · exact .inr ⟨_, _, hr⟩
      · exact .inr ⟨_, _, hr⟩
      · exact .inl ⟨_, hr⟩
      · exact .inl ⟨_, hr⟩
    rcases hresp with ⟨peer, hr⟩ | ⟨delivered, peer, hr⟩
    · refine .inr ⟨msg, ccid, peer, [], rfl, hlearn, .inl ⟨hr, ?_⟩⟩
      rw [hrun _ _ _ hr]
      simp [each, received, withPeer, mapTunnel]
    · refine .inr ⟨msg, ccid, peer, delivered, rfl, hlearn, .inr ⟨hr, ?_⟩⟩
      rw [hrun _ _ _ hr]
      -- the acknowledgement is written before anything is handed over
      cases henc : peer.ackOnly.encode with
      | error e =>
        refine .inl ⟨e, rfl, ?_⟩
        simp [each, henc, bind_apply, received, withPeer, mapTunnel]
      | ok bs =>
        refine .inr ⟨bs, rfl, ?_⟩
        have heach : each (fun resp => do
            let wire ← ofExcept (ControlMessage.encode resp)
            transportSend wire) [peer.ackOnly] (w.withPeer peer) = (.ok (), received w peer [bs]) := by
          simp [each, henc, bind_apply, transportSend, received, withPeer, mapTunnel]
        rw [bind_apply_of_ok _ _ heach]
        split <;> rfl

/-- A datagram that cannot be decoded, or verified, is dropped. -/
theorem handleDatagram_undecoded {buf : Bytes} {w : World δ} {e : Exn}
    (h : unwire hmac w.tunnel.cfg buf = .error e) : handleDatagram hmac buf w = (.ok (), w) := by
  rcases handleDatagram_cases hmac buf w with ⟨_, -, hrun⟩ | ⟨msg, _, _, _, hmsg, -⟩
  · exact hrun
  · rw [h] at hmsg
    cases hmsg

/-- The world with a message recorded as handed over. -/
def noted (w : World δ) (target : Target) (msg : ControlMessage) : World δ :=
  { w with dispatched := w.dispatched ++ [(target, msg)] }

/-- **Everything the hand-over can do**: raise on an unreadable Message Type, or give the
wrapped AVPs to a session or to the tunnel machine. -/
theorem dispatch_cases (msg : ControlMessage) (delivered : List AVP) (w : World δ) :
    ∃ virtual : ControlMessage,
      virtual = ⟨w.tunnel.peer.localCcid, msg.ns, msg.nr, delivered⟩ ∧
      ((∃ e, getMessageType delivered = .error e ∧ dispatch hmac msg delivered w = (.error e, w)) ∨
      (∃ mt ∈ sessionMsgTypes, getMessageType delivered = .ok (some mt) ∧
        dispatch hmac msg delivered w = dispatchSessionMessage hmac virtual mt w) ∨
      (∃ mt, getMessageType delivered = .ok mt ∧ (∀ m ∈ mt, m ∉ sessionMsgTypes) ∧
        dispatch hmac msg delivered w
          = drive hmac (TunnelFSM.onMessage virtual) (noted w .tunnelFsm virtual))) := by
  refine ⟨_, rfl, ?_⟩
  cases hmt : getMessageType delivered with
  | error e => exact .inl ⟨e, rfl, by simp [dispatch, hmt]⟩
  | ok mt =>
    cases mt with
    -- without a Message Type the tunnel machine has it
    | none => exact .inr (.inr ⟨none, rfl, by simp, by simp [dispatch, hmt, noted]⟩)
    | some mt =>
      by_cases hmem : mt ∈ sessionMsgTypes
      · exact .inr (.inl ⟨mt, hmem, rfl, by simp [dispatch, hmt, hmem]⟩)
      · exact .inr (.inr ⟨some mt, rfl, by simpa using hmem, by simp [dispatch, hmt, hmem, noted]⟩)

/-! ## Session messages

The lookup of a session may find none, and then the message is dropped without an answer. -/

omit [Dataplane δ] in
/-- The fields that address a session raise nothing but `ValueError`. -/
theorem sessionKeys_onlyValueError (mt : Int) (avps : List AVP) :
    OnlyValueError (sessionKeys mt avps) := by
  unfold sessionKeys
  split
  · exact (parseCdnFields_onlyValueError avps).bind fun _ _ => onlyValueError_ok _
  · exact (parseSessionFields_onlyValueError avps).bind fun _ _ => onlyValueError_ok _

/-- A message that cannot be read is dropped. -/
theorem dispatchSessionMessage_unread {msg : ControlMessage} {mt : Int} {e : Exn}
    (hkeys : sessionKeys mt msg.avps = .error e) (w : World δ) :
    dispatchSessionMessage hmac msg mt w = (.ok (), noted w .session msg) := by
  have htry := tryValueError_of_only (sessionKeys_onlyValueError mt msg.avps)
  rw [hkeys] at htry
  simp [dispatchSessionMessage, hkeys, htry, Except.toOption, noted]

section Routed

variable {msg : ControlMessage} {mt target key : Int} {endId : Option Bytes} {w : World δ}
  (hkeys : sessionKeys mt msg.avps = .ok (target, key, endId))

include hkeys

/-- A message without a session is dropped. -/
theorem dispatchSessionMessage_unrouted (hroute : w.tunnel.route mt target key endId = none) :
    dispatchSessionMessage hmac msg mt w = (.ok (), noted w .session msg) := by
  simp [dispatchSessionMessage, hkeys, tryValueError, hroute, noted]

/-- A message with a session is a call of that session. -/
theorem dispatchSessionMessage_routed {sid : Int}
    (hroute : w.tunnel.route mt target key endId = some sid) :
    dispatchSessionMessage hmac msg mt w
      = callSession hmac sid (SessionFSM.onMessage msg) (indexRemote sid) (noted w .session msg) := by
  simp [dispatchSessionMessage, hkeys, tryValueError, hroute, noted, callSession]

end Routed

/-- **Everything the dispatch of a session message can do**: it is dropped, or taken by the
session that it is routed to. -/
theorem dispatchSessionMessage_cases (msg : ControlMessage) (mt : Int) (w : World δ) :
    dispatchSessionMessage hmac msg mt w = (.ok (), noted w .session msg) ∨
    ∃ target key endId sid, sessionKeys mt msg.avps = .ok (target, key, endId) ∧
      w.tunnel.route mt target key endId = some sid ∧ dispatchSessionMessage hmac msg mt w
        = callSession hmac sid (SessionFSM.onMessage msg) (indexRemote sid)
            (noted w .session msg) := by
  cases hkeys : sessionKeys mt msg.avps with
  | error e => exact .inl (dispatchSessionMessage_unread hmac hkeys w)
  | ok keys =>
    obtain ⟨target, key, endId⟩ := keys
    cases hroute : w.tunnel.route mt target key endId with
    | none => exact .inl (dispatchSessionMessage_unrouted hmac hkeys hroute)
    | some sid =>
      exact .inr ⟨target, key, endId, sid, rfl, hroute,
        dispatchSessionMessage_routed hmac hkeys hroute⟩

/-- An invariant survives the hand-over if it does the calls that follow it. -/
theorem keeps_dispatch {I : World δ → Prop} (hnoted : ∀ w target msg, I w → I (noted w target msg))
    (hsession : ∀ sid msg,
      Keeps I (callSession hmac sid (SessionFSM.onMessage msg) (indexRemote sid)))
    (hdrive : ∀ msg, Keeps I (drive hmac (TunnelFSM.onMessage msg))) (msg : ControlMessage)
    (delivered : List AVP) : Keeps I (dispatch hmac msg delivered) := by
  intro w h
  obtain ⟨virtual, -, ⟨e, -, hrun⟩ | ⟨mt, -, -, hrun⟩ | ⟨mt, -, -, hrun⟩⟩ :=
    dispatch_cases hmac msg delivered w
  · rw [hrun]
    exact h
  · rw [hrun]
    rcases dispatchSessionMessage_cases hmac virtual mt w with hrun | ⟨_, _, _, sid, -, -, hrun⟩
    -- a message to no session is noted, one to a session is noted and called
    · rw [hrun]
      exact hnoted w _ _ h
    · rw [hrun]
      exact hsession sid virtual _ (hnoted w _ _ h)
  · rw [hrun]
    exact hdrive virtual _ (hnoted w _ _ h)

/-- What follows the hand-over of a session message. -/
theorem cascaded_dispatchSession (msg : ControlMessage) (mt : Int) (w : World δ) :
    Cascaded (noted w .session msg) (dispatchSessionMessage hmac msg mt w).2 := by
  rcases dispatchSessionMessage_cases hmac msg mt w with hrun | ⟨_, _, _, sid, -, -, hrun⟩
  · rw [hrun]
    exact .refl _
  · rw [hrun]
    exact cascaded_callSession hmac sid _ (onlyIndex_indexRemote sid) _

omit [Dataplane δ] in
/-- Datagrams are sent in their order. -/
theorem each_transportSend (wires : List Bytes) (w : World δ) :
    each transportSend wires w = (.ok (), { w with sent := w.sent ++ wires }) := by
  induction wires generalizing w with
  | nil => simp [each]
  | cons bs wires ih => simp [each, transportSend, ih]

/-- **Everything `tick` can do**: raise in the middle of the queue, or resend, and drop the
tunnel when the peer is dead. -/
theorem tick_cases (now : ℚ) (w : World δ) :
    (∃ e peer, w.tunnel.peer.tick now = (.error e, peer) ∧
      tick hmac now w = (.error e, received w peer [])) ∨
    ∃ resends dead peer, w.tunnel.peer.tick now = (.ok (resends, dead), peer) ∧
      tick hmac now w = if dead
        then (do drive hmac TunnelFSM.onPeerDead; return true : Prog (World δ) Bool)
          (received w peer resends)
        else (.ok false, received w peer resends) := by
  have hrun : ∀ result peer, w.tunnel.peer.tick now = (result, peer) →
      tick hmac now w = (do
        let r ← ofExcept result
        each transportSend r.1
        if r.2 then
          drive hmac TunnelFSM.onPeerDead
          return true
        else return false : Prog (World δ) Bool) (w.withPeer peer) := by
    intro result peer htick
    rw [tick, get_bind_apply, htick]
    rfl
  -- the queue raised, or it was gone through
  rcases htick : w.tunnel.peer.tick now with ⟨e | ⟨resends, dead⟩, peer⟩
  · refine .inl ⟨e, peer, rfl, ?_⟩
    rw [hrun _ _ htick]
    simp [received, withPeer, mapTunnel]
  · refine .inr ⟨resends, dead, peer, rfl, ?_⟩
    rw [hrun _ _ htick, ofExcept_ok_bind_apply]
    simp only
    rw [bind_apply_of_ok _ _ (each_transportSend resends _)]
    cases dead <;> rfl

/-- A call of the machine that raises. -/
theorem drive_error {m : Prog TunnelFSM (List TunnelAction)} {w : World δ} {e : Exn}
    (h : (m w.tunnel.fsm).1 = .error e) :
    drive hmac m w = (.error e, w.withFsm (m w.tunnel.fsm).2) := by
  have hcall := onFsm_apply m w
  rw [h] at hcall
  rw [drive, bind_apply_of_error _ _ hcall]

theorem drive_ok {m : Prog TunnelFSM (List TunnelAction)} {w : World δ} {actions : List TunnelAction}
    (h : (m w.tunnel.fsm).1 = .ok actions) :
    drive hmac m w = executeTunnelActions hmac actions (w.withFsm (m w.tunnel.fsm).2) := by
  have hcall := onFsm_apply m w
  rw [h] at hcall
  rw [drive, bind_apply_of_ok _ _ hcall]

/-- The execution of actions leaves the machine where the call left it. -/
theorem drive_fsm (m : Prog TunnelFSM (List TunnelAction)) (w : World δ) :
    (drive hmac m w).2.tunnel.fsm = (m w.tunnel.fsm).2 := by
  cases hr : (m w.tunnel.fsm).1 with
  | error e =>
    rw [drive_error hmac hr]
    rfl
  | ok actions =>
    rw [drive_ok hmac hr]
    exact (cascaded_tunnelActions hmac actions _).fsm

/-- A peer that is found dead leaves the tunnel idle. -/
theorem tick_dead {now : ℚ} {w w' : World δ} (h : tick hmac now w = (.ok true, w')) :
    w'.tunnel.fsm.state = .idle := by
  rcases tick_cases hmac now w with ⟨e, peer, -, hrun⟩ | ⟨resends, dead, peer, -, hrun⟩
  · rw [hrun] at h
    cases h
  · rw [hrun] at h
    -- only a dead peer makes the tick return true, and then the machine has gone down
    split at h
    · have hw' : w' = (drive hmac TunnelFSM.onPeerDead (received w peer resends)).2 := by
        rw [← bind_pure_snd (g := fun _ => true), h]
      rw [hw', drive_fsm]
      exact (TunnelFSM.local_state _).2.2.2
    · cases h

/-! ## Invariants of the calls

What an invariant must stand, beyond the execution of actions, to survive a call of a machine:
the change of the machine itself, and the messages that the call sends. -/

section Calls

variable {I : World δ → Prop}

/-- `I` does not look at the sessions. -/
def IgnoresSessions (I : World δ → Prop) : Prop :=
  ∀ (w : World δ) (byLocal : Dict Int SessionFSM) (byRemote : Dict Int Int), I w → I { w with
    tunnel := { w.tunnel with sessionsByLocal := byLocal, sessionsByRemote := byRemote } }

/-- `I` survives every message that a session machine sends. -/
def StandsSessions (I : World δ → Prop) : Prop :=
  ∀ {s s' : SessionFSM} {actions : List SessionAction} {avps : List AVP},
    SessionFSM.Outcome s (.ok actions) s' → .sendMessage avps ∈ actions → Keeps I (send hmac avps)

theorem keeps_callSession (hdp : IgnoresDataplane I) (hsess : IgnoresSessions I)
    (hsends : StandsSessions hmac I) {m : Prog SessionFSM (List SessionAction)}
    (hm : SessionFSM.Method m) (sid : Int) {g : Tunnel → Tunnel} (hg : OnlyIndex g) :
    Keeps I (callSession hmac sid m g) := by
  intro w h
  have hset : ∀ (s : SessionFSM) r, I ((w.withSession sid s).withIndex r) := fun s r =>
    hsess w (w.tunnel.sessionsByLocal.set sid s) r h
  -- no such session; a method that raised; a method that returned actions
  rcases callSession_cases hmac sid m hg w with ⟨r, -, hrun⟩ | ⟨s, s', e, -, -, hrun⟩ |
    ⟨s, s', actions, r, -, hcall, hrun⟩
  · rw [hrun]
    exact hsess w w.tunnel.sessionsByLocal r h
  · rw [hrun]
    exact hset s' w.tunnel.sessionsByRemote
  · have hout := hm s
    rw [hcall] at hout
    rw [hrun]
    exact keeps_executeSessionActions hmac hdp (fun _ hmem => hsends hout hmem) _ (hset s' r)

theorem keeps_callSessions (hdp : IgnoresDataplane I) (hsess : IgnoresSessions I)
    (hsends : StandsSessions hmac I) {m : Prog SessionFSM (List SessionAction)}
    (hm : SessionFSM.Method m) : Keeps I (eachSession hmac m) :=
  keeps_eachSession hmac fun sid => keeps_callSession hmac hdp hsess hsends hm sid onlyIndex_id

/-- A call of the tunnel machine, its actions executed, from a world in which the messages of
the call are ones that `I` survives. -/
theorem keeps_callMachine (hdp : IgnoresDataplane I) (htimer : IgnoresTimer I)
    (hsess : IgnoresSessions I) (hsends : StandsSessions hmac I)
    {m : Prog TunnelFSM (List TunnelAction)} {w : World δ}
    (hset : I (w.withFsm (m w.tunnel.fsm).2))
    (hsend : ∀ actions avps, (m w.tunnel.fsm).1 = .ok actions → .sendMessage avps ∈ actions →
      Keeps I (send hmac avps)) : I (drive hmac m w).2 := by
  cases hr : (m w.tunnel.fsm).1 with
  | error e =>
    rw [drive_error hmac hr]
    exact hset
  | ok actions =>
    rw [drive_ok hmac hr]
    exact keeps_executeTunnelActions hmac hdp htimer
      (fun _ hm => keeps_callSessions hmac hdp hsess hsends hm) (hsend actions · hr) _ hset

/-- What the hand-over of a message sends comes after what was sent before. -/
theorem sent_dispatch (msg : ControlMessage) (delivered : List AVP) (w : World δ) :
    ∃ more, (dispatch hmac msg delivered w).2.sent = w.sent ++ more := by
  have hsend : ∀ avps, Keeps (fun w' : World δ => ∃ more, w'.sent = w.sent ++ more)
      (send hmac avps) := by
    rintro avps w' ⟨more, hmore⟩
    obtain ⟨more', hmore'⟩ := (executed_send hmac avps w').sent
    exact ⟨more ++ more', by rw [hmore', hmore, List.append_assoc]⟩
  refine keeps_dispatch hmac (I := fun w' : World δ => ∃ more, w'.sent = w.sent ++ more)
    (fun _ _ _ h => h) (fun sid virtual => ?_) (fun virtual w' h => ?_) msg delivered w ⟨[], by simp⟩
  · exact keeps_callSession hmac (fun _ _ _ _ h => h) (fun _ _ _ h => h) (fun _ _ => hsend _)
      (SessionFSM.method_onMessage virtual) sid (onlyIndex_indexRemote sid)
  · exact keeps_callMachine hmac (fun _ _ _ _ h => h) (fun _ _ _ _ h => h) (fun _ _ _ h => h)
      (fun _ _ => hsend _) h fun _ avps _ _ => hsend avps

end Calls

/-! ## The cascade

A teardown calls every session in the order of the table. `on_tunnel_down` never raises, and what
its actions raise is caught, so the loop visits all of them. -/

/-- No session is under way. -/
def AllIdle (t : Tunnel) : Prop :=
  ∀ sid s, t.sessionsByLocal.get? sid = some s → s.state = .idle

omit [Dataplane δ] in
/-- `on_tunnel_down()`: the session is idle after it, and an idle one does nothing. -/
theorem onTunnelDown_eq (s : SessionFSM) : SessionFSM.onTunnelDown s
    = (.ok (if s.state = .idle then [] else s.downActions .tunnelDown), { s with state := .idle }) := by
  by_cases hs : s.state = .idle
  · cases s
    simp_all [SessionFSM.onTunnelDown]
  · simp [SessionFSM.onTunnelDown, hs, SessionFSM.transition]

/-- The actions of a session that goes down with its tunnel touch only the dataplane, which
cannot make them raise. -/
theorem execute_downActions (s : SessionFSM) (reason : SessionDownReason) (w : World δ) :
    ∃ w', executeSessionActions hmac (s.downActions reason) w = (.ok (), w') := by
  unfold SessionFSM.downActions
  split
  · obtain ⟨r, dataplane, faults, h⟩ := onDataplane_frame
      (Dataplane.delSession (δ := δ) s.config.localCcid s.config.localSid) w
    have hrun := bind_apply_of_ok (f := fun _ => (pure () : Prog (World δ) Unit)) _ h
    rw [executeSessionActions, each, bind_apply_of_ok _ _ (show executeSessionAction hmac
      (.dataplaneDelSession s.config.localCcid s.config.localSid) w = _ from hrun)]
    exact ⟨_, rfl⟩
  · exact ⟨w, rfl⟩

/-- The sessions other than those of `sids` are idle. -/
def IdleOutside (sids : List Int) (t : Tunnel) : Prop :=
  ∀ sid s, t.sessionsByLocal.get? sid = some s → sid ∉ sids → s.state = .idle

/-- One round of the cascade: one session less is to be visited. -/
theorem downRound (sid : Int) (sids : List Int) (w : World δ)
    (h : w.tunnel.IdleOutside (sid :: sids)) :
    wp (do
      let actions ← onSession sid SessionFSM.onTunnelDown
      executeSessionActions hmac actions : Prog (World δ) Unit)
      (fun _ w' => w'.tunnel.IdleOutside sids) (fun _ _ => False) w := by
  rw [wp_bind]
  cases hget : w.tunnel.sessionsByLocal.get? sid with
  | none =>
    rw [wp, onSession_none _ hget]
    intro sid' s hs hmem
    refine h sid' s hs fun hin => ?_
    -- this session does not exist, so it is not one that is up
    rcases List.mem_cons.mp hin with rfl | hin
    · rw [hget] at hs; cases hs
    · exact hmem hin
  | some sess =>
    rw [wp, onSession_some _ hget, onTunnelDown_eq]
    obtain ⟨w', hrun⟩ : ∃ w', executeSessionActions hmac
        (if sess.state = .idle then [] else sess.downActions .tunnelDown)
        (w.withSession sid { sess with state := .idle }) = (.ok (), w') := by
      split
      · exact ⟨_, rfl⟩
      · exact execute_downActions hmac sess .tunnelDown _
    have hex := executed_sessionActions hmac
      (if sess.state = .idle then [] else sess.downActions .tunnelDown)
      (w.withSession sid { sess with state := .idle })
    simp only [wp, hrun] at hex ⊢
    intro sid' s hs hmem
    -- the table is the one before, with this session idle
    rw [hex.sessionsByLocal, get?_withSession] at hs
    split at hs
    · cases hs; rfl
    · rename_i hne
      refine h sid' s hs fun hin => ?_
      rcases List.mem_cons.mp hin with rfl | hin
      · exact hne rfl
      · exact hmem hin

/-- **The cascade of a teardown** never raises, and leaves every session idle. -/
theorem eachSession_down (w : World δ) :
    ∃ w', eachSession hmac SessionFSM.onTunnelDown w = (.ok (), w') ∧ w'.tunnel.AllIdle := by
  have hstart : w.tunnel.IdleOutside w.tunnel.sessionsByLocal.keys :=
    fun sid s hs hmem => absurd (Dict.mem_keys_iff.mpr ⟨s, hs⟩) hmem
  -- the loop visits every key, so at its end no session is left to visit
  have hloop : wp (eachSession hmac SessionFSM.onTunnelDown)
      (fun _ w' => w'.tunnel.IdleOutside []) (fun _ _ => False) w := by
    rw [eachSession, wp_bind, wp_get]
    exact wp_each (I := fun sids w' => w'.tunnel.IdleOutside sids) (downRound hmac) _ w hstart
  unfold wp at hloop
  rcases hr : eachSession hmac SessionFSM.onTunnelDown w with ⟨e | _, w'⟩
  · rw [hr] at hloop; exact hloop.elim
  · rw [hr] at hloop
    exact ⟨w', rfl, fun sid s hs => hloop sid s hs (by simp)⟩

/-- **The notice of a teardown**: the sessions go down first, and what is left is the deletion of
the kernel tunnel, if there is one. -/
theorem tornDown_apply {I : World δ → Prop}
    (hnotice : ∀ w notices, I w → I { w with notices := notices })
    (hcall : ∀ sid, Keeps I (callSession hmac sid SessionFSM.onTunnelDown id))
    (reason : TunnelDownReason) {w : World δ} (h : I w) :
    ∃ w', I w' ∧ w'.tunnel.AllIdle ∧ executeTunnelAction hmac (.tornDown reason) w
      = (if w'.tunnel.tunnelDpAdded ∧ w'.dataplane.isSome then (do
          let _ ← onDataplane (Dataplane.delTunnel w'.tunnel.cfg.localCcid)
          modify (mapTunnel fun t => { t with tunnelDpAdded := false }) : Prog (World δ) Unit)
        else return ()) w' := by
  obtain ⟨w', hrun, hidle⟩ := eachSession_down hmac
    { w with notices := w.notices ++ [.tornDown reason] }
  refine ⟨w', ?_, hidle, ?_⟩
  · have hloop := keeps_eachSession hmac hcall _ (hnotice w (w.notices ++ [.tornDown reason]) h)
    rwa [hrun] at hloop
  · rw [executeTunnelAction, modify_bind_apply, bind_apply_of_ok _ _ hrun, get_bind_apply]

end Tunnel

end L2tpv3d
