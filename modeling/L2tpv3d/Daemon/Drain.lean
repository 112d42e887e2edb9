import L2tpv3d.Daemon.Stuck

/-!
# L2tpv3d — stopping, and the acknowledgement of it

A machine in `SEND_STOPCCN` or `SEND_CDN` is documented to wait for the drain of the transport,
but nothing tells it of an acknowledgement. So it is left waiting once its last StopCCN or CDN is
acknowledged, unless the same datagram brings something that ends the wait.

* `Strands` — a datagram acknowledges the last one, and hands over nothing that ends the wait.
* `Frees` — who leaves a stopping state is idle.
* `Draining` — whoever stops has its StopCCN or CDN outstanding.
* **`draining_iff`** — along exactly the runs without a datagram that strands anybody.
-/

namespace L2tpv3d

open Py Prog

namespace Drain

open Tunnel World Routing

variable {δ : Type}

/-! ## A datagram

An accepted datagram acknowledges first and is handed over afterwards. Whether somebody is stranded
is decided by both. -/

/-- What an accepted message brings to the machines, as one message. -/
def handedOver (t : Tunnel) (msg : ControlMessage) : ControlMessage :=
  ⟨t.peer.localCcid, msg.ns, msg.nr, (t.peer.deliverable msg).flatMap (·.avps)⟩

/-- The message acknowledges the last StopCCN of a machine that stops, and does not end the wait. -/
def StrandsMachine (t : Tunnel) (msg : ControlMessage) : Prop :=
  t.fsm.state = .sendStopccn ∧
    ¬ Outstanding IsStopccn (Peer.consumeAcks msg.nr t.peer.sendQueue) ∧ ¬ Ends (handedOver t msg)

/-- The same of a session and its CDN. -/
def StrandsSession (sid : Int) (t : Tunnel) (msg : ControlMessage) : Prop :=
  StopsAt sid t ∧ ¬ Outstanding (IsCdn sid) (Peer.consumeAcks msg.nr t.peer.sendQueue) ∧
    ¬ EndsAt sid t (handedOver t msg)

/-- The datagram is accepted, and its message does one or the other. -/
def Strands (hmac : Hmac) (t : Tunnel) : Event → Prop
  | .datagram buf => ∃ msg, unwire hmac t.cfg buf = .ok msg ∧ t.peer.accepts msg = true ∧
      (StrandsMachine t msg ∨ ∃ sid ∈ t.sessionsByLocal.keys, StrandsSession sid t msg)
  | _ => False

instance (sid : Int) (t : Tunnel) (msg : ControlMessage) : Decidable (EndsAt sid t msg) :=
  inferInstanceAs (Decidable (_ ∨ _))

instance (t : Tunnel) (msg : ControlMessage) : Decidable (StrandsMachine t msg) :=
  inferInstanceAs (Decidable (_ ∧ _))

instance (sid : Int) (t : Tunnel) (msg : ControlMessage) : Decidable (StrandsSession sid t msg) :=
  inferInstanceAs (Decidable (_ ∧ _))

instance (hmac : Hmac) (t : Tunnel) : DecidablePred (Strands hmac t)
  | .datagram _ => inferInstanceAs (Decidable (∃ _, _ ∧ _))
  | .start | .close | .tick _ | .helloTimer | .closeSession _ _ => instDecidableFalse

section Datagram

variable [Dataplane δ] {hmac : Hmac} {w w' : World δ} {buf : Bytes} {msg : ControlMessage}

omit [Dataplane δ] in
/-- Whether the machine is stuck is decided by what the peer has left in its queue. -/
theorem stuck_met {e : Event} (h : Met hmac e w w') : Stuck w'.tunnel ↔
    w.tunnel.fsm.state = .sendStopccn ∧
      ¬ Outstanding IsStopccn (meets hmac w.tunnel e).sendQueue := by
  rw [Stuck, h.fsm, h.peer]

omit [Dataplane δ] in
theorem stuckAt_met {e : Event} {sid : Int} (h : Met hmac e w w') : StuckAt sid w'.tunnel ↔
    StopsAt sid w.tunnel ∧ ¬ Outstanding (IsCdn sid) (meets hmac w.tunnel e).sendQueue := by
  rw [StuckAt, StopsAt, h.tunnel.byLocal, h.peer, StopsAt]

omit [Dataplane δ] in
/-- Whom a message ends is decided by what the peer does not touch. -/
theorem endsAt_met {e : Event} {sid : Int} (h : Met hmac e w w') :
    EndsAt sid w'.tunnel msg ↔ EndsAt sid w.tunnel msg := by
  have hchosen : chosen w'.tunnel msg = chosen w.tunnel msg := by
    unfold chosen choice route
    rw [h.tunnel.byLocal, h.tunnel.byRemote]
  rw [EndsAt, EndsAt, hchosen, h.fsm]

omit [Dataplane δ] in
/-- What happens beside the machines does not matter. -/
theorem stuck_aside (h : Aside w w') : Stuck w'.tunnel ↔ Stuck w.tunnel := by
  rw [Stuck, Stuck, h.fsm, h.peer]

omit [Dataplane δ] in
theorem stuckAt_aside {sid : Int} (h : Aside w w') : StuckAt sid w'.tunnel ↔ StuckAt sid w.tunnel := by
  rw [StuckAt, StuckAt, StopsAt, StopsAt, h.byLocal, h.peer]

/-- What the machines are handed by a message that can be acknowledged. -/
theorem input_datagram (hready : w.tunnel.Ready) (hmsg : unwire hmac w.tunnel.cfg buf = .ok msg) :
    (meets hmac w.tunnel (.datagram buf)).sendQueue
        = (if w.tunnel.peer.accepts msg then Peer.consumeAcks msg.nr w.tunnel.peer.sendQueue
          else w.tunnel.peer.sendQueue) ∧
    ((input hmac w.tunnel (.datagram buf) = none ∧ (handedOver w.tunnel msg).avps = []) ∨
      (w.tunnel.peer.accepts msg = true ∧
        input hmac w.tunnel (.datagram buf) = inputOf (handedOver w.tunnel msg))) := by
  rcases handleDatagram_cases hmac buf w with ⟨e, he, -⟩ |
    ⟨msg', ccid, peer, delivered, hmsg', hlearn, hrecv⟩
  · rw [hmsg] at he
    cases he
  · rw [hmsg, Except.ok.injEq] at hmsg'
    subst hmsg'
    have hqueue := Peer.receive_sendQueue (w.tunnel.peer.setRemoteCcid ccid) msg
    have hdelivered : ((w.tunnel.peer.setRemoteCcid ccid).receive msg).1.1
        = (handedOver w.tunnel msg).avps := Peer.receive_delivered _ msg
    have hmeets : meets hmac w.tunnel (.datagram buf)
        = ((w.tunnel.peer.setRemoteCcid ccid).receive msg).2 := by simp [meets, hmsg, hlearn]
    refine ⟨hmeets ▸ hqueue, ?_⟩
    -- no response; one acknowledgement, which can be written
    rcases hrecv with ⟨hr, -⟩ | ⟨hr, -⟩
    · rw [hr] at hdelivered
      exact .inl ⟨by simp [input, hmsg, hlearn, hr], hdelivered.symm⟩
    · obtain ⟨hsound, hccid, -⟩ := received_frame hlearn hr hready.sound
      obtain ⟨bs, hbs⟩ := encode_ackOnly hsound (hccid hready.remoteCcid)
      have hlocal := (Peer.receive_frame (w.tunnel.peer.setRemoteCcid ccid) msg
        ⟨hready.sound.ns, hready.sound.nr⟩).2.1
      rw [hr] at hdelivered hlocal
      by_cases hnone : delivered = []
      · exact .inl ⟨by simp [input, hmsg, hlearn, hr, hnone], by rw [← hdelivered, ← hnone]⟩
      · refine .inr ⟨?_, ?_⟩
        · -- a message that is refused delivers nothing
          by_contra hacc
          refine hnone (hdelivered.trans ?_)
          simp [handedOver, Peer.deliverable, Peer.inOrder, hacc]
        · have hvirtual : (⟨peer.localCcid, msg.ns, msg.nr, delivered⟩ : ControlMessage)
              = handedOver w.tunnel msg := by
            rw [show delivered = (handedOver w.tunnel msg).avps from hdelivered,
              show peer.localCcid = w.tunnel.peer.localCcid from hlocal]
            rfl
          rw [← hvirtual]
          simp [input, hmsg, hlearn, hr, hnone, hbs, Except.isOk, Except.toBool]

omit [Dataplane δ] in
theorem not_ends_of_nil (h : msg.avps = []) : ¬ Ends msg ∧ ¬ EndsCall msg := by
  simp [Ends, EndsCall, h, getMessageType, findAvp]

/-- **An accepted datagram** leaves the machines stuck that it strands. -/
theorem datagram_stuck (hable : able.Holds w.tunnel) (hmsg : unwire hmac w.tunnel.cfg buf = .ok msg)
    (hacc : w.tunnel.peer.accepts msg = true) :
    (Stuck (step hmac w (.datagram buf)).tunnel ↔ StrandsMachine w.tunnel msg) ∧
      ∀ sid, StuckAt sid (step hmac w (.datagram buf)).tunnel ↔ StrandsSession sid w.tunnel msg := by
  obtain ⟨hqueue, hinput⟩ := input_datagram (ready_of_able hable) hmsg
  rw [if_pos hacc] at hqueue
  -- a session closed; nothing handed over; something handed over
  rcases step_called hmac hable.peer.1 (.datagram buf) with ⟨sid, resultCode, hclose⟩ |
    ⟨hnone, hmet⟩ | ⟨i, hi, v, hmet, hfit, hafter⟩
  · cases hclose
  · have hno : ¬ Ends (handedOver w.tunnel msg) ∧ ¬ EndsCall (handedOver w.tunnel msg) := by
      rcases hinput with ⟨-, hnil⟩ | ⟨-, hsome⟩
      · exact not_ends_of_nil hnil
      · exact not_ends_of_none (hsome.symm.trans hnone)
    constructor
    · rw [stuck_met hmet, hqueue, StrandsMachine]
      simp [hno.1]
    · intro sid
      rw [stuckAt_met hmet, hqueue, StrandsSession]
      simp [EndsAt, hno.1, hno.2]
  · have hi' : inputOf (handedOver w.tunnel msg) = some i := by
      rcases hinput with ⟨hnone, -⟩ | ⟨-, hsome⟩
      · rw [hnone] at hi
        cases hi
      · rw [← hsome, hi]
    have hable' : able.Holds v.tunnel := able_of_beside hable hmet.tunnel hmet.fsm
    constructor
    · rw [stuck_aside hafter, stuck_handed hable' hi', stuck_met hmet, hqueue, StrandsMachine,
        and_assoc]
    · intro sid
      rw [stuckAt_aside hafter, stuckAt_handed hable' hi', stuckAt_met hmet, endsAt_met hmet, hqueue,
        StrandsSession, and_assoc]

end Datagram

/-! ## One event

All other events leave what is outstanding in the queue, or add to it. -/

section Step

variable [Dataplane δ] {hmac : Hmac} {w : World δ}

/-- **Closing a session** strands nobody: its CDN is outstanding. -/
theorem stuck_closeSession (hable : able.Holds w.tunnel) (sid resultCode : Int) :
    (Stuck (step hmac w (.closeSession sid resultCode)).tunnel → Stuck w.tunnel) ∧
      ∀ sid', StuckAt sid' (step hmac w (.closeSession sid resultCode)).tunnel →
        StuckAt sid' w.tunnel := by
  have hm := SessionFSM.method_onLocalClose resultCode
  rw [step, handle, closeSession_eq]
  refine ⟨fun h => ?_, fun sid' h => ?_⟩
  · have hqueue : Outstanding IsStopccn (callSession hmac sid (SessionFSM.onLocalClose resultCode)
        id w).2.tunnel.peer.sendQueue ↔ Outstanding IsStopccn w.tunnel.peer.sendQueue :=
      keeps_unstopped hm sid onlyIndex_id w .rfl
    have hfsm := (cascaded_callSession hmac sid (SessionFSM.onLocalClose resultCode)
      onlyIndex_id w).fsm
    rw [Stuck, hfsm, hqueue] at h
    exact h
  · by_cases hsid : sid = sid'
    · subst hsid
      cases hget : w.tunnel.sessionsByLocal.get? sid with
      | none =>
        rw [callSession_none hmac hget] at h
        exact h
      | some s => exact ((stuckAt_callSession hm onlyIndex_id hable hget).mp h).1
    · -- another session
      have huntouched : Untouched sid' w (callSession hmac sid (SessionFSM.onLocalClose resultCode)
          id w).2 :=
        untouched_callSession hm sid onlyIndex_id hable fun heq => absurd heq hsid
      exact huntouched.stuckAt_iff.mp h

/-- An event that does not change what is outstanding strands nobody. -/
theorem stuck_step (hable : able.Holds w.tunnel) (e : Event)
    (hqueue : ∀ Q : List AVP → Prop, Outstanding Q (meets hmac w.tunnel e).sendQueue ↔
      Outstanding Q w.tunnel.peer.sendQueue) :
    (Stuck (step hmac w e).tunnel → Stuck w.tunnel) ∧
      ∀ sid, StuckAt sid (step hmac w e).tunnel → StuckAt sid w.tunnel := by
  have hmet : ∀ v, Met hmac e w v → (Stuck v.tunnel ↔ Stuck w.tunnel) ∧
      ∀ sid, StuckAt sid v.tunnel ↔ StuckAt sid w.tunnel := by
    intro v hv
    refine ⟨?_, fun sid => ?_⟩
    · rw [stuck_met hv, hqueue, Stuck]
    · rw [stuckAt_met hv, hqueue, StuckAt]
  -- a session closed; nothing handed over; something handed over
  rcases step_called hmac hable.peer.1 e with ⟨sid, resultCode, rfl⟩ | ⟨-, hv⟩ |
    ⟨i, -, v, hv, hfit, hafter⟩
  · exact stuck_closeSession hable sid resultCode
  · exact ⟨(hmet _ hv).1.mp, fun sid => ((hmet _ hv).2 sid).mp⟩
  · have hable' : able.Holds v.tunnel := able_of_beside hable hv.tunnel hv.fsm
    exact ⟨fun h => (hmet v hv).1.mp (stuck_of_run hfit hable' ((stuck_aside hafter).mp h)),
      fun sid h => ((hmet v hv).2 sid).mp
        (stuckAt_of_run hfit hable' ((stuckAt_aside hafter).mp h))⟩

/-- Who leaves a stopping state is idle, and can be opened again. -/
structure Frees (t t' : Tunnel) : Prop where
  tunnel : t.fsm.state = .sendStopccn → t'.fsm.state = .sendStopccn ∨ t'.fsm.state = .idle
  session : ∀ sid s s', t.sessionsByLocal.get? sid = some s → s.state = .sendCdn →
    t'.sessionsByLocal.get? sid = some s' → s'.state = .sendCdn ∨ s'.state = .idle

omit [Dataplane δ] in
/-- A step that leaves the machines alone. -/
theorem frees_of_eq {t t' : Tunnel} (hfsm : t'.fsm = t.fsm)
    (hsessions : t'.sessionsByLocal = t.sessionsByLocal) : Frees t t' := by
  refine ⟨fun hs => .inl (hfsm ▸ hs), fun sid s s' hget hs hget' => .inl ?_⟩
  rw [hsessions, hget] at hget'
  cases hget'
  exact hs

omit [Dataplane δ] in
/-- The tunnel machine leaves `SEND_STOPCCN` only for `IDLE`. -/
theorem leaves_sendStopccn {fsm fsm' : TunnelFSM} {r : Except Exn (List TunnelAction)}
    (hout : TunnelFSM.Outcome fsm r fsm') (hs : fsm.state = .sendStopccn) :
    fsm'.state = .sendStopccn ∨ fsm'.state = .idle := by
  -- by what the method did: it kept the state, dropped, or was not possible there
  cases hout with
  | ignored => exact .inl hs
  | raised => exact .inl hs
  | refused hidle => simp [hs] at hidle
  | opened hidle _ => simp [hs] at hidle
  | answered hidle _ => simp [hs] at hidle
  | connected hwait => simp [hs] at hwait
  | accepted hwait => simp [hs] at hwait
  | kept _ => exact .inl hs
  | stopped _ _ => exact .inl rfl
  | dropped _ => exact .inr rfl

omit [Dataplane δ] in
/-- A session leaves `SEND_CDN` only for `IDLE`. -/
theorem leaves_sendCdn {s s' : SessionFSM} {r : Except Exn (List SessionAction)}
    (hout : SessionFSM.Outcome s r s') (hs : s.state = .sendCdn) :
    s'.state = .sendCdn ∨ s'.state = .idle := by
  -- by what the method did
  cases hout with
  | ignored => exact .inl hs
  | raised => exact .inl hs
  | refused _ _ => exact .inl hs
  | called hidle _ => simp [hs] at hidle
  | answered hidle _ _ => simp [hs] at hidle
  | connected hwait _ _ => simp [hs] at hwait
  | accepted hwait => simp [hs] at hwait
  | closed _ _ => exact .inl rfl
  | dropped _ => exact .inr rfl

/-- A call of a session touches that session alone. -/
theorem frees_callSession {m : Prog SessionFSM (List SessionAction)} (hm : SessionFSM.Method m)
    (sid : Int) {g : Tunnel → Tunnel} (hg : OnlyIndex g) :
    Frees w.tunnel (callSession hmac sid m g w).2.tunnel := by
  have hfsm := (cascaded_callSession hmac sid m hg w).fsm
  cases hget : w.tunnel.sessionsByLocal.get? sid with
  | none =>
    obtain ⟨r, hr⟩ := hg.mapTunnel w
    rw [callSession_none hmac hget, hr]
    exact frees_of_eq rfl rfl
  | some s₀ =>
    refine ⟨fun hs => .inl (hfsm ▸ hs), fun sid' s s' hgets hs hgets' => ?_⟩
    rw [callSession_sessions hmac hg hget] at hgets'
    -- the session called, and any other
    split at hgets'
    · rename_i hsid
      rw [← hsid, hget] at hgets
      cases hgets
      cases hgets'
      exact leaves_sendCdn (hm s₀) hs
    · rw [hgets] at hgets'
      cases hgets'
      exact .inl hs

/-- **What a message or a method does**: a teardown leaves every session idle. -/
theorem frees_run {i : Input} (hfit : i.Fit w.tunnel) (hable : able.Holds w.tunnel) :
    Frees w.tunnel (i.run hmac w).2.tunnel := by
  cases i with
  | machine m =>
    refine ⟨fun hs => ?_, fun sid s s' hget hs hget' => ?_⟩
    · rw [Input.run, drive_fsm]
      exact leaves_sendStopccn (hfit w.tunnel.fsm) hs
    -- a method that tears down, or one that leaves the sessions that stop alone
    · cases hdown : Index.tearsDown m w.tunnel.fsm with
      | true => exact .inr (Index.drive_allIdle (ready_of_able hable) hfit hdown sid s' hget')
      | false =>
        have hkept : (drive hmac m w).2.tunnel.sessionsByLocal.get? sid = some s :=
          ((untouched_drive hable hfit hdown).session s hs).mpr hget
        rw [show (drive hmac m w).2.tunnel.sessionsByLocal.get? sid = some s' from hget',
          Option.some.injEq] at hkept
        exact .inl (hkept ▸ hs)
  | message msg mt =>
    rw [Input.run, dispatch_eq]
    cases choice w.tunnel mt msg with
    | none => exact frees_of_eq rfl rfl
    | some sid =>
      have hfrees : Frees (noted w .session msg).tunnel
          (give hmac msg sid (noted w .session msg)).2.tunnel :=
        frees_callSession (SessionFSM.method_onMessage msg) sid (onlyIndex_indexRemote sid)
      exact ⟨hfrees.tunnel, hfrees.session⟩

/-- **Every event** frees whom it takes out of a stopping state. -/
theorem frees_step (hable : able.Holds w.tunnel) (e : Event) :
    Frees w.tunnel (step hmac w e).tunnel := by
  rcases step_called hmac hable.peer.1 e with ⟨sid, resultCode, rfl⟩ | ⟨-, hv⟩ |
    ⟨i, -, v, hv, hfit, hafter⟩
  · exact frees_callSession (SessionFSM.method_onLocalClose resultCode) sid onlyIndex_id
  · exact frees_of_eq hv.fsm hv.tunnel.byLocal
  · have hrun : Frees v.tunnel (i.run hmac v).2.tunnel :=
      frees_run hfit (able_of_beside hable hv.tunnel hv.fsm)
    refine ⟨fun hs => ?_, fun sid s s' hget hs hget' => ?_⟩
    · rw [hafter.fsm]
      exact hrun.tunnel (hv.fsm ▸ hs)
    · rw [hafter.byLocal] at hget'
      exact hrun.session sid s s' (hv.tunnel.byLocal ▸ hget) hs hget'

end Step

/-! ## Runs

The invariant holds after an event exactly if the event strands nobody, so the condition along a run
is exact. -/

/-- Whoever stops has its StopCCN, or its CDN, outstanding. -/
structure Draining (t : Tunnel) : Prop where
  tunnel : t.fsm.state = .sendStopccn → Outstanding IsStopccn t.peer.sendQueue
  session : ∀ sid s, t.sessionsByLocal.get? sid = some s → s.state = .sendCdn →
    Outstanding (IsCdn sid) t.peer.sendQueue

/-- Draining is: nobody is stuck. -/
theorem draining_iff_not_stuck {t : Tunnel} :
    Draining t ↔ ¬ Stuck t ∧ ∀ sid, ¬ StuckAt sid t := by
  constructor
  · intro h
    refine ⟨fun ⟨hs, hqueue⟩ => hqueue (h.tunnel hs), ?_⟩
    rintro sid ⟨⟨s, hget, hs⟩, hqueue⟩
    exact hqueue (h.session sid s hget hs)
  · rintro ⟨hstuck, hat⟩
    exact ⟨fun hs => not_not.mp fun hqueue => hstuck ⟨hs, hqueue⟩,
      fun sid s hget hs => not_not.mp fun hqueue => hat sid ⟨⟨s, hget, hs⟩, hqueue⟩⟩

/-- A tunnel that has just been built stops nothing. -/
theorem draining_init (cfg : TunnelConfigEntry) : Draining (Tunnel.init cfg) := by
  refine ⟨nofun, fun sid s hget hs => ?_⟩
  obtain ⟨scfg, -, -, rfl⟩ := get?_init hget
  cases hs

section Run

variable [Dataplane δ] {hmac : Hmac} {w : World δ}

/-- **One event**: the drain goes on exactly if nobody is stranded. -/
theorem draining_step (hable : able.Holds w.tunnel) (h : Draining w.tunnel) (e : Event) :
    Draining (step hmac w e).tunnel ↔ ¬ Strands hmac w.tunnel e := by
  rw [draining_iff_not_stuck] at h ⊢
  -- an event that leaves the queue alone
  have hquiet : (∀ Q : List AVP → Prop, Outstanding Q (meets hmac w.tunnel e).sendQueue ↔
      Outstanding Q w.tunnel.peer.sendQueue) →
      ¬ Stuck (step hmac w e).tunnel ∧ ∀ sid, ¬ StuckAt sid (step hmac w e).tunnel := by
    intro hqueue
    obtain ⟨hstuck, hat⟩ := stuck_step hable e hqueue
    exact ⟨fun hs => h.1 (hstuck hs), fun sid hs => h.2 sid (hat sid hs)⟩
  cases e with
  | start => exact iff_of_true (hquiet fun _ => .rfl) id
  | close => exact iff_of_true (hquiet fun _ => .rfl) id
  | tick now => exact iff_of_true (hquiet fun _ => outstanding_tick _ now) id
  | helloTimer => exact iff_of_true (hquiet fun _ => .rfl) id
  | closeSession sid resultCode => exact iff_of_true (hquiet fun _ => .rfl) id
  -- only a datagram takes a message off the queue that is not resent
  | datagram buf =>
    cases hmsg : unwire hmac w.tunnel.cfg buf with
    | error e =>
      refine iff_of_true (hquiet fun _ => by simp [meets, hmsg]) ?_
      simp [Strands, hmsg]
    | ok msg =>
      cases hacc : w.tunnel.peer.accepts msg with
      | false =>
        have hqueue := (input_datagram (ready_of_able hable) hmsg).1
        rw [hacc] at hqueue
        refine iff_of_true (hquiet fun _ => by rw [hqueue]; rfl) ?_
        simp [Strands, hmsg, hacc]
      | true =>
        obtain ⟨hstuck, hat⟩ := datagram_stuck hable hmsg hacc
        rw [hstuck]
        simp only [hat, Strands, hmsg, Except.ok.injEq, exists_eq_left', hacc, true_and, not_or,
          not_exists, not_and]
        refine and_congr_right fun _ => ⟨fun hno sid _ => hno sid, fun hno sid hs => ?_⟩
        obtain ⟨s, hget, -⟩ := id hs.1
        exact hno sid (Dict.mem_keys_iff.mpr ⟨s, hget⟩) hs

/-- **Along a run whoever stops has its StopCCN or CDN outstanding exactly when no datagram of it
acknowledges the last one of somebody who is then left waiting**; and who leaves is idle again.
`draining_step` decides each step both ways. -/
theorem draining_iff (hmac : Hmac) (cfg : TunnelConfigEntry) (hlocal : IsU32 cfg.localCcid)
    (hremote : IsU32 cfg.remoteCcid) (dataplane : Option δ) (clock : Nat → ℚ) (es : List Event) :
    (∀ pre, pre <+: es →
      Draining (pre.foldl (step hmac) (World.init cfg dataplane clock)).tunnel ∧
      ∀ e, Frees (pre.foldl (step hmac) (World.init cfg dataplane clock)).tunnel
        (step hmac (pre.foldl (step hmac) (World.init cfg dataplane clock)) e).tunnel) ↔
    Transition.Guarded (step hmac) (fun w e => ¬ Strands hmac w.tunnel e)
      (World.init cfg dataplane clock) es :=
  Transition.guarded_iff_along (I := fun w : World δ => able.Holds w.tunnel ∧ Draining w.tunnel)
    (P := fun w : World δ => Draining w.tunnel ∧ ∀ e, Frees w.tunnel (step hmac w e).tunnel)
    (fun _ h => ⟨h.2, frees_step h.1⟩)
    (fun w e h hno => ⟨able_stable.handle e w h.1, (draining_step h.1 h.2 e).mpr hno⟩)
    (fun _ e h hstrands hdraining => hstrands ((draining_step h.1 h.2 e).mp hdraining.1)) es
    ⟨able_init hlocal hremote, draining_init cfg⟩

end Run

/-- The call comes up, and both machines are closed. -/
def hungUp : List Event :=
  Mirror.answeredCall ++ [.closeSession 1 ResultCode.adminShutdown.code, .close]

/-- The peer acknowledges the SCCRQ, the ICRP and the CDN, but answers the CDN with its own. -/
def hungUpBoth : List Event :=
  hungUp ++ [.tick 1, .datagram (ControlMessage.mk 100 2 3 [messageTypeAvp .cdn,
    ietfAvp .localSessionId (beBytes 4 7) true, ietfAvp .remoteSessionId (beBytes 4 1) true,
    ietfAvp .resultCode (beBytes 2 3) true]).wire]

/-- `Mirror.gateway` with its StopCCN still outstanding, and its session idle. -/
def closing : World MockDataplane :=
  hungUpBoth.foldl (step ControlMessage.sumHmac) (World.init Mirror.gateway (some {}) fun _ => 0)

/-- The tunnel is stopping, and its StopCCN is still resent. -/
theorem draining_iff_hungUpBoth :
    closing.tunnel.fsm.state = .sendStopccn ∧
    Outstanding IsStopccn closing.tunnel.peer.sendQueue ∧
    Frees closing.tunnel (step ControlMessage.sumHmac closing (.tick 2)).tunnel := by
  have hstop : closing.tunnel.fsm.state = .sendStopccn := by decide +kernel
  have hall := (draining_iff ControlMessage.sumHmac Mirror.gateway (by decide) (by decide)
    (some ({} : MockDataplane)) (fun _ => 0) hungUpBoth).mpr (by decide +kernel)
  have hdraining : Draining closing.tunnel := (hall hungUpBoth (List.prefix_refl _)).1
  have hfrees : Frees closing.tunnel (step ControlMessage.sumHmac closing (.tick 2)).tunnel :=
    (hall hungUpBoth (List.prefix_refl _)).2 (.tick 2)
  exact ⟨hstop, hdraining.tunnel hstop, hfrees⟩

/-- The peer acknowledges everything, and leaves it at that. -/
def hungUpAcked : List Event :=
  hungUp ++ [.datagram (ControlMessage.mk 100 2 4 []).wire]

/-- The tunnel after its StopCCN has been acknowledged. -/
def stranded : World MockDataplane :=
  hungUpAcked.foldl (step ControlMessage.sumHmac) (World.init Mirror.gateway (some {}) fun _ => 0)

/-- Nothing is outstanding, and both machines wait on; opening the tunnel again does nothing. -/
theorem stranded_waits :
    stranded.tunnel.peer.sendQueue = [] ∧
    stranded.tunnel.fsm.state = .sendStopccn ∧
    (stranded.tunnel.sessionsByLocal.get? 1).map (·.state) = some .sendCdn ∧
    (step ControlMessage.sumHmac stranded .start).tunnel.fsm.state = .sendStopccn ∧
    ¬ ∀ pre, pre <+: hungUpAcked →
      Draining (pre.foldl (step ControlMessage.sumHmac)
        (World.init Mirror.gateway (some ({} : MockDataplane)) fun _ => 0)).tunnel := by
  have hempty : stranded.tunnel.peer.sendQueue = [] := by decide +kernel
  have hstop : stranded.tunnel.fsm.state = .sendStopccn := by decide +kernel
  refine ⟨hempty, hstop, by decide +kernel, by decide +kernel, fun h => ?_⟩
  have hdraining : Draining stranded.tunnel := h _ (List.prefix_refl _)
  obtain ⟨pending, hmem, -⟩ := hdraining.tunnel hstop
  rw [hempty] at hmem
  cases hmem

end Drain

end L2tpv3d
