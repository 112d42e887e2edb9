import L2tpv3d.Daemon.Dispatch
import L2tpv3d.Daemon.Index
import L2tpv3d.Daemon.Input
import L2tpv3d.Fsm.Moves
import L2tpv3d.Wire.CallFields

/-!
# L2tpv3d — machines that stop

A machine in `SEND_STOPCCN` or `SEND_CDN` has sent its last message, and leaves the state for a
few messages of the peer and for the teardown of the tunnel. What a call does to it is told here
together with the send queue: whether the message it sent is still there.

* `Outstanding` — a message of a kind is still in the send queue.
* `Stuck`, `StuckAt` — the tunnel machine, or a session, stops, and its message is not there.
* `stuck_drive`, `stuckAt_callSession` — a call leaves it stuck if it was, and ignores the call.
* `Ends`, `EndsAt` — the messages that it does not ignore; **`stuck_handed`**, `stuckAt_handed`.
-/

namespace L2tpv3d

open Py Prog

namespace Drain

open Tunnel World Routing

variable {δ : Type}

/-! ## What is still in the queue

A message is outstanding from when it is sent until the peer acknowledges it. Sending only adds to
the queue and a tick does not shorten it, so what is outstanding stays so until a datagram comes in.
-/

/-- A message of the kind `Q` is in the send queue, not acknowledged. -/
def Outstanding (Q : List AVP → Prop) (queue : List PendingSend) : Prop :=
  ∃ pending ∈ queue, Q pending.msg.avps

instance (Q : List AVP → Prop) [DecidablePred Q] (queue : List PendingSend) :
    Decidable (Outstanding Q queue) :=
  inferInstanceAs (Decidable (∃ pending ∈ queue, Q pending.msg.avps))

/-- A StopCCN. -/
def IsStopccn (avps : List AVP) : Prop :=
  getMessageType avps = .ok (some MessageType.stopccn.code)

/-- A CDN of the session `sid` of this end. -/
def IsCdn (sid : Int) (avps : List AVP) : Prop :=
  getMessageType avps = .ok (some MessageType.cdn.code) ∧
    ∃ fields, parseCdnFields avps = .ok fields ∧ fields.localSid = sid

instance : DecidablePred IsStopccn := fun _ => inferInstanceAs (Decidable (_ = _))

instance (sid : Int) : DecidablePred (IsCdn sid) := fun _ => inferInstanceAs (Decidable (_ ∧ _))

section Queue

variable {Q : List AVP → Prop}

/-- A tick does not touch what is queued. -/
theorem outstanding_tick (p : Peer) (now : ℚ) :
    Outstanding Q (p.tick now).2.sendQueue ↔ Outstanding Q p.sendQueue := by
  have hcontent : (p.tick now).2.sendQueue.map PendingSend.content
      = p.sendQueue.map PendingSend.content := by
    -- a tick moves Nr, the times and the retries
    rcases Peer.tick_cases p now with ⟨-, ht⟩ | ⟨-, queue, _, hloop, ⟨_, _, -, ht⟩ | ⟨_, -, ht⟩⟩
    · rw [ht]
    all_goals
      have hqueue := Peer.tickLoop_content now p.nrExpect p.maxRetries p.sendQueue
      rw [hloop] at hqueue
      rw [ht]
      exact hqueue
  have hiff : ∀ queue : List PendingSend, Outstanding Q queue ↔
      ∃ content ∈ queue.map PendingSend.content, Q content.2.2 := by
    intro queue
    simp [Outstanding, PendingSend.content]
  rw [hiff, hiff, hcontent]

/-- A message that the peer takes goes to the end of the queue. -/
theorem sendQueue_of_send {p p' : Peer} {avps : List AVP} {now : ℚ} {msg : ControlMessage}
    (h : p.send avps now = .ok (msg, p')) :
    ∃ pending, pending.msg.avps = avps ∧ p'.sendQueue = p.sendQueue ++ [pending] := by
  obtain ⟨-, rfl, encoded, -, rfl⟩ := Peer.send_eq_ok.mp h
  refine ⟨_, ?_, rfl⟩
  rfl

/-- What the queue is after a message was sent, or could not be. -/
theorem sendQueue_send (hmac : Hmac) (avps : List AVP) (w : World δ) :
    (send hmac avps w).2.tunnel.peer.sendQueue = w.tunnel.peer.sendQueue ∨
    ∃ pending, pending.msg.avps = avps ∧
      (send hmac avps w).2.tunnel.peer.sendQueue = w.tunnel.peer.sendQueue ++ [pending] := by
  rcases send_cases hmac avps w with ⟨e, -, hrun⟩ | ⟨msg, peer, hsend, ⟨e, -, hrun⟩ | ⟨bs, -, hrun⟩⟩
  · exact .inl (by rw [hrun]; rfl)
  · exact .inr (by rw [hrun]; exact sendQueue_of_send hsend)
  · exact .inr (by rw [hrun]; exact sendQueue_of_send hsend)

theorem outstanding_append {queue : List PendingSend} {pending : PendingSend} :
    Outstanding Q (queue ++ [pending]) ↔ Outstanding Q queue ∨ Q pending.msg.avps := by
  simp [Outstanding, or_and_right, exists_or]

/-- A message of another kind. -/
theorem outstanding_send (hmac : Hmac) {avps : List AVP} (hQ : ¬ Q avps) (w : World δ) :
    Outstanding Q (send hmac avps w).2.tunnel.peer.sendQueue ↔
      Outstanding Q w.tunnel.peer.sendQueue := by
  rcases sendQueue_send hmac avps w with hqueue | ⟨pending, rfl, hqueue⟩
  · rw [hqueue]
  · rw [hqueue, outstanding_append]
    exact or_iff_left hQ

theorem outstanding_mono (hmac : Hmac) (avps : List AVP) (w : World δ)
    (h : Outstanding Q w.tunnel.peer.sendQueue) :
    Outstanding Q (send hmac avps w).2.tunnel.peer.sendQueue := by
  rcases sendQueue_send hmac avps w with hqueue | ⟨pending, rfl, hqueue⟩
  · rwa [hqueue]
  · rw [hqueue, outstanding_append]
    exact .inl h

/-- A regular message of the kind. -/
theorem outstanding_sent (hmac : Hmac) {avps : List AVP} (hQ : Q avps) (hreg : Regular avps)
    {w : World δ} (hready : w.tunnel.Ready) :
    ∃ w', send hmac avps w = (.ok (), w') ∧ Outstanding Q w'.tunnel.peer.sendQueue := by
  obtain ⟨msg, peer, bs, hsend, -, hrun⟩ := send_ok hmac hready hreg
  obtain ⟨pending, rfl, hqueue⟩ := sendQueue_of_send hsend
  refine ⟨_, hrun, ?_⟩
  show Outstanding Q peer.sendQueue
  rw [hqueue]
  exact outstanding_append.mpr (.inr hQ)

end Queue

/-! ## What the machines send

A StopCCN comes from the tunnel machine only, and a CDN names the session that it comes from. So the
two kinds of message that are waited for are told apart by type and by sender. -/

/-- A message of another type is no CDN. -/
theorem not_cdn {sid : Int} {mt : MessageType} {avps : List AVP} (hmt : mt ≠ .cdn)
    (htag : Tagged mt avps) : ¬ IsCdn sid avps := by
  rintro ⟨htype, -⟩
  rw [getMessageType_of_tagged htag, Except.ok.injEq, Option.some.injEq] at htype
  revert htype hmt
  cases mt <;> decide

/-- A message of another type is no StopCCN. -/
theorem not_stopccn {mt : MessageType} {avps : List AVP} (hmt : mt ≠ .stopccn)
    (htag : Tagged mt avps) : ¬ IsStopccn avps := by
  rw [IsStopccn, getMessageType_of_tagged htag, Except.ok.injEq, Option.some.injEq]
  revert hmt
  cases mt <;> decide

/-- The CDN that a session builds names the session. -/
theorem isCdn_built {lsid rsid code : Int} {avps : List AVP}
    (h : buildCdnAvps lsid rsid code = .ok avps) : IsCdn lsid avps :=
  ⟨getMessageType_of_tagged (parse_cdn h).1, _, (parse_cdn h).2, rfl⟩

/-- The CDNs of a session are its own. -/
theorem cdn_of_session {s s' : SessionFSM} {actions : List SessionAction}
    (hout : SessionFSM.Outcome s (.ok actions) s') {avps : List AVP}
    (hmem : .sendMessage avps ∈ actions) {sid : Int} (h : IsCdn sid avps) :
    s.config.localSid = sid := by
  -- only a teardown sends a CDN
  cases hout with
  | ignored => simp at hmem
  | called _ hb =>
    obtain rfl : avps = _ := by simpa using hmem
    exact absurd h (not_cdn (by decide) (buildIcrqAvps_regular hb).1)
  | answered _ _ hb =>
    obtain rfl : avps = _ := by simpa using hmem
    exact absurd h (not_cdn (by decide) (buildIcrpAvps_regular hb).2)
  | connected _ _ hb =>
    obtain rfl : avps = _ := by simpa using hmem
    exact absurd h (not_cdn (by decide) (buildIccnAvps_regular hb).2)
  | accepted _ => simp at hmem
  | closed _ hb =>
    obtain rfl : avps = _ := by simpa [SessionFSM.mem_downActions] using hmem
    obtain ⟨-, fields, hparse, hsid⟩ := h
    rw [(parse_cdn hb).2, Except.ok.injEq] at hparse
    rw [← hsid, ← hparse]
  | dropped _ => exact absurd hmem SessionFSM.mem_downActions

/-- No session sends a StopCCN. -/
theorem not_stopccn_of_session {s s' : SessionFSM} {actions : List SessionAction}
    (hout : SessionFSM.Outcome s (.ok actions) s') {avps : List AVP}
    (hmem : .sendMessage avps ∈ actions) : ¬ IsStopccn avps := by
  obtain ⟨mt, hmt, htag⟩ := hout.tagged hmem
  refine not_stopccn ?_ htag
  rintro rfl
  simp at hmt

/-- The tunnel machine sends no CDN. -/
theorem not_cdn_of_machine {s s' : TunnelFSM} {actions : List TunnelAction}
    (hout : TunnelFSM.Outcome s (.ok actions) s') {avps : List AVP}
    (hmem : .sendMessage avps ∈ actions) (sid : Int) : ¬ IsCdn sid avps := by
  obtain ⟨mt, hmt, htag, -⟩ := hout.tagged hmem
  refine not_cdn ?_ htag
  rintro rfl
  simp at hmt

/-! ## What the calls rest on

A call of a machine can fail where a field does not fit. What is said below is about tunnels whose
messages can be built and numbered, which the handlers keep. -/

/-- The messages of the machines can be built and numbered, and a session knows its key. -/
def able : Parts where
  cfg _ := True
  peer p := p.Sound ∧ IsU32 p.remoteCcid
  fsm fsm := IsU32 fsm.config.localCcid
  session sid s := s.config.localSid = sid ∧ s.Started

/-- Every handler of the tunnel keeps it. -/
theorem able_stable : able.Stable where
  link h hpq := ⟨hpq.sound h.1, hpq.remoteCcid ▸ h.2⟩
  learn h hlearn := ⟨⟨h.1.ns, h.1.nr⟩, (Dispatch.learnCcid_isU32 hlearn).mpr h.2⟩
  receive msg h := by
    have hframe := Peer.receive_frame _ msg h.1
    exact ⟨hframe.1, hframe.2.2.1 ▸ h.2⟩
  tick now h := by
    have hframe := Peer.tick_frame _ now h.1
    exact ⟨hframe.1, hframe.2.2.1 ▸ h.2⟩
  fsm hout h := by
    change IsU32 _
    rw [hout.config_eq]
    exact h
  session hout h := ⟨hout.config_eq ▸ h.1, hout.started h.2⟩

/-- A tunnel whose CCIDs fit the header. -/
theorem able_init {cfg : TunnelConfigEntry} (hlocal : IsU32 cfg.localCcid)
    (hremote : IsU32 cfg.remoteCcid) : able.Holds (Tunnel.init cfg) := by
  refine ⟨trivial, ⟨Peer.sound_init _ _ _ _ _, hremote⟩, hlocal, fun sid s hget => ?_⟩
  obtain ⟨scfg, -, rfl, rfl⟩ := get?_init hget
  exact ⟨rfl, ⟨le_rfl, by simp⟩, fun hidle => absurd rfl hidle⟩

theorem ready_of_able {t : Tunnel} (h : able.Holds t) : t.Ready := ⟨h.peer.1, h.peer.2⟩

/-- The peer may have received something. -/
theorem able_of_beside {t t' : Tunnel} (h : able.Holds t) (ht : Beside t t')
    (hfsm : t'.fsm = t.fsm) : able.Holds t' :=
  ⟨trivial, ⟨ht.sound h.peer.1, ht.remoteCcid h.peer.2⟩, hfsm ▸ h.fsm, ht.byLocal ▸ h.sessions⟩

/-! ## A call and the tunnel machine

A machine that sends its StopCCN comes to a stop with the message outstanding. So it becomes stuck
by an acknowledgement, and not by a call; and no call but the few that it takes ends that. -/

section Machine

variable [Dataplane δ] {hmac : Hmac} {w : World δ}

/-- The tunnel machine stops, and none of its StopCCNs is outstanding. -/
def Stuck (t : Tunnel) : Prop :=
  t.fsm.state = .sendStopccn ∧ ¬ Outstanding IsStopccn t.peer.sendQueue

/-- The call sends nothing and leaves the machine where it stops. -/
def Ignores (m : Prog TunnelFSM (List TunnelAction)) (fsm : TunnelFSM) : Prop :=
  (m fsm).2.state = .sendStopccn ∧
    ∀ actions, (m fsm).1 = .ok actions → ∀ avps, .sendMessage avps ∉ actions

/-- What is outstanding stays so while actions are executed. -/
theorem keeps_outstanding {Q : List AVP → Prop} (actions : List TunnelAction) :
    Keeps (fun w : World δ => Outstanding Q w.tunnel.peer.sendQueue)
      (executeTunnelActions hmac actions) :=
  keeps_executeTunnelActions hmac (fun _ _ _ _ h => h) (fun _ _ _ _ h => h)
    (fun _ hm => keeps_callSessions hmac (fun _ _ _ _ h => h) (fun _ _ _ h => h)
      (fun _ _ w h => outstanding_mono hmac _ w h) hm)
    fun avps _ w h => outstanding_mono hmac avps w h

/-- No session brings a StopCCN into the queue. -/
theorem keeps_unstopped {c : Prop} {m : Prog SessionFSM (List SessionAction)}
    (hm : SessionFSM.Method m) (sid : Int) {g : Tunnel → Tunnel} (hg : OnlyIndex g) :
    Keeps (fun w : World δ => Outstanding IsStopccn w.tunnel.peer.sendQueue ↔ c)
      (callSession hmac sid m g) :=
  keeps_callSession hmac (fun _ _ _ _ h => h) (fun _ _ _ h => h)
    (fun hout hmem w h => (outstanding_send hmac (not_stopccn_of_session hout hmem) w).trans h)
    hm sid hg

/-- **A call of the machine** leaves it stuck if it was, and the call ignores it. -/
theorem stuck_drive {m : Prog TunnelFSM (List TunnelAction)} (hm : TunnelFSM.Method m)
    (hready : w.tunnel.Ready) :
    Stuck (drive hmac m w).2.tunnel ↔ Stuck w.tunnel ∧ Ignores m w.tunnel.fsm := by
  have hfsm := drive_fsm hmac m w
  have hout := hm w.tunnel.fsm
  -- a state in which the machine does not stop
  have hother : (m w.tunnel.fsm).2.state ≠ .sendStopccn →
      (Stuck (drive hmac m w).2.tunnel ↔ Stuck w.tunnel ∧ Ignores m w.tunnel.fsm) := by
    intro hne
    rw [Stuck, hfsm, Ignores]
    exact iff_of_false (fun h => hne h.1) fun h => hne h.2.1
  -- a call that does nothing
  have hsame : (∀ actions, (m w.tunnel.fsm).1 = .ok actions → actions = []) →
      (m w.tunnel.fsm).2 = w.tunnel.fsm →
      (Stuck (drive hmac m w).2.tunnel ↔ Stuck w.tunnel ∧ Ignores m w.tunnel.fsm) := by
    intro hnone hkept
    have hqueue : (drive hmac m w).2.tunnel.peer = w.tunnel.peer := by
      cases hr : (m w.tunnel.fsm).1 with
      | error e =>
        rw [drive_error hmac hr]
        rfl
      | ok actions =>
        obtain rfl := hnone actions hr
        rw [drive_ok hmac hr]
        rfl
    rw [Stuck, hfsm, hkept, hqueue]
    refine ⟨fun h => ⟨h, (congrArg TunnelFSM.state hkept).trans h.1, fun actions hr => ?_⟩, fun h => h.1⟩
    simp [hnone actions hr]
  rcases hr : m w.tunnel.fsm with ⟨r, fsm'⟩
  rw [hr] at hout hother hsame
  cases hout with
  | ignored => exact hsame (by simp) rfl
  | raised => exact hsame (by simp) rfl
  | refused hs => exact hother (by simp [hs])
  | opened _ _ => exact hother (by simp)
  | answered _ _ => exact hother (by simp)
  | connected _ => exact hother (by simp)
  | accepted _ => exact hother (by simp)
  | kept hs => exact hother (by simp [hs])
  | @stopped _ avps reason hs hb =>
    have hmem : .sendMessage avps ∈ TunnelFSM.stopActions w.tunnel.fsm.state avps reason := by
      simp [TunnelFSM.stopActions]
    refine iff_of_false (fun h => h.2 ?_) fun h => h.2.2 _ (by rw [hr]) _ hmem
    -- the StopCCN goes out first
    obtain ⟨hreg, htag⟩ := buildStopccnAvps_regular hb
    obtain ⟨w', hsent, hstopccn⟩ := outstanding_sent hmac (Q := IsStopccn)
      (getMessageType_of_tagged htag) hreg (w := w.withFsm { w.tunnel.fsm with state := .sendStopccn })
      ⟨hready.sound, hready.remoteCcid⟩
    rw [drive_ok hmac (by rw [hr]), hr, TunnelFSM.stopActions, executeTunnelActions,
      List.cons_append, each, bind_apply_of_ok _ _ (show executeTunnelAction hmac (.sendMessage avps) _
        = _ from hsent)]
    exact keeps_outstanding _ w' hstopccn
  | dropped _ => exact hother (by simp)

end Machine

/-! ## A call and a session

The same of a session and its CDN. A call of one session leaves the others alone, and a cascade
touches all of them, so the calls that spare a session are named first. -/

section Session

variable [Dataplane δ] {hmac : Hmac} {w w' : World δ} {sid : Int}

/-- The session stops. -/
def StopsAt (sid : Int) (t : Tunnel) : Prop :=
  ∃ s ∈ t.sessionsByLocal.get? sid, s.state = .sendCdn

instance (sid : Int) (t : Tunnel) : Decidable (StopsAt sid t) := by
  unfold StopsAt
  infer_instance

/-- And none of its CDNs is outstanding. -/
def StuckAt (sid : Int) (t : Tunnel) : Prop :=
  StopsAt sid t ∧ ¬ Outstanding (IsCdn sid) t.peer.sendQueue

/-- The session stops in the one world as it does in the other. -/
structure Untouched (sid : Int) (w w' : World δ) : Prop where
  session : ∀ s : SessionFSM, s.state = .sendCdn →
    (w'.tunnel.sessionsByLocal.get? sid = some s ↔ w.tunnel.sessionsByLocal.get? sid = some s)
  queue : Outstanding (IsCdn sid) w'.tunnel.peer.sendQueue ↔
    Outstanding (IsCdn sid) w.tunnel.peer.sendQueue

omit [Dataplane δ] in
/-- Nothing happened. -/
theorem Untouched.refl (sid : Int) (w : World δ) : Untouched sid w w := ⟨fun _ _ => .rfl, .rfl⟩

omit [Dataplane δ] in
theorem Untouched.trans {w'' : World δ} (h : Untouched sid w w') (h' : Untouched sid w' w'') :
    Untouched sid w w'' :=
  ⟨fun s hs => (h'.session s hs).trans (h.session s hs), h'.queue.trans h.queue⟩

omit [Dataplane δ] in
theorem Untouched.of_eq (hsession : w'.tunnel.sessionsByLocal = w.tunnel.sessionsByLocal)
    (hqueue : w'.tunnel.peer.sendQueue = w.tunnel.peer.sendQueue) : Untouched sid w w' :=
  ⟨fun _ _ => by rw [hsession], by rw [hqueue]⟩

omit [Dataplane δ] in
/-- A session that is left alone waits on, or does not. -/
theorem Untouched.stuckAt_iff (h : Untouched sid w w') :
    StuckAt sid w'.tunnel ↔ StuckAt sid w.tunnel := by
  constructor
  · rintro ⟨⟨s, hget, hs⟩, hqueue⟩
    exact ⟨⟨s, (h.session s hs).mp hget, hs⟩, fun hout => hqueue (h.queue.mpr hout)⟩
  · rintro ⟨⟨s, hget, hs⟩, hqueue⟩
    exact ⟨⟨s, (h.session s hs).mpr hget, hs⟩, fun hout => hqueue (h.queue.mp hout)⟩

omit [Dataplane δ] in
/-- A message that is no CDN of the session. -/
theorem untouched_send (hmac : Hmac) {avps : List AVP} (havps : ¬ IsCdn sid avps) (w : World δ) :
    Untouched sid w (send hmac avps w).2 :=
  ⟨fun _ _ => by rw [(executed_send hmac avps w).sessionsByLocal], outstanding_send hmac havps w⟩

/-- The actions of a session that send no CDN of `sid`. -/
theorem untouched_actions {actions : List SessionAction}
    (h : ∀ avps, .sendMessage avps ∈ actions → ¬ IsCdn sid avps) (w : World δ) :
    Untouched sid w (executeSessionActions hmac actions w).2 :=
  keeps_executeSessionActions hmac (I := Untouched sid w)
    (fun _ _ _ _ h => h.trans (.of_eq rfl rfl))
    (fun avps hmem w' hw => hw.trans (untouched_send hmac (h avps hmem) w')) w (.refl sid w)

/-- The call neither brings the session to a stop nor lets it go, and sends no CDN of it. -/
structure Spares (sid : Int) (m : Prog SessionFSM (List SessionAction)) (s : SessionFSM) :
    Prop where
  state : ∀ t : SessionFSM, t.state = .sendCdn → ((m s).2 = t ↔ s = t)
  sends : ∀ actions, (m s).1 = .ok actions → ∀ avps, .sendMessage avps ∈ actions → ¬ IsCdn sid avps

/-- A session that stops is not started again, and another one sends an ICRQ. -/
theorem spares_onTunnelEstablished (s : SessionFSM) :
    Spares sid SessionFSM.onTunnelEstablished s := by
  rcases SessionFSM.onTunnelEstablished_cases s with ⟨r, hrun, hsilent⟩ | ⟨-, hidle, avps, hb, hrun⟩
  · refine ⟨fun t _ => by rw [hrun], fun actions hr avps hmem => ?_⟩
    rw [hrun] at hr
    exact absurd hmem (hsilent actions hr avps)
  · refine ⟨fun t ht => ?_, fun actions hr avps' hmem => ?_⟩
    · rw [hrun]
      refine iff_of_false ?_ ?_
      · rintro rfl
        cases ht
      · rintro rfl
        rw [hidle] at ht
        cases ht
    · rw [hrun] at hr
      cases hr
      obtain rfl : avps' = avps := by simpa using hmem
      exact not_cdn (by decide) (buildIcrqAvps_regular hb).1

omit [Dataplane δ] in
/-- The session under `sid` was called, and spared, or another one was. -/
theorem untouched_withSession {sid' : Int} {s s' : SessionFSM}
    (hget : w.tunnel.sessionsByLocal.get? sid' = some s)
    (hspared : sid' = sid → ∀ t : SessionFSM, t.state = .sendCdn → (s' = t ↔ s = t)) :
    Untouched sid w (w.withSession sid' s') := by
  refine ⟨fun t ht => ?_, .rfl⟩
  rw [get?_withSession]
  by_cases hsid : sid' = sid
  · rw [if_pos hsid, ← hsid, hget, Option.some.injEq, Option.some.injEq]
    exact hspared hsid t ht
  · rw [if_neg hsid]

/-- **A call of a session** does not touch another one, nor one that it spares. -/
theorem untouched_callSession {m : Prog SessionFSM (List SessionAction)} (hm : SessionFSM.Method m)
    (sid' : Int) {g : Tunnel → Tunnel} (hg : OnlyIndex g) (hable : able.Holds w.tunnel)
    (hspared : sid' = sid → ∀ s, w.tunnel.sessionsByLocal.get? sid' = some s → Spares sid m s) :
    Untouched sid w (callSession hmac sid' m g w).2 := by
  rcases callSession_cases hmac sid' m hg w with ⟨r, -, hrun⟩ | ⟨s, s', e, hget, hcall, hrun⟩ |
    ⟨s, s', actions, r, hget, hcall, hrun⟩
  · rw [hrun]
    exact .of_eq rfl rfl
  · rw [hrun]
    refine untouched_withSession hget fun hsid t ht => ?_
    have hstate := (hspared hsid s hget).state t ht
    rwa [hcall] at hstate
  · have hout := hm s
    rw [hcall] at hout
    have hset : Untouched sid w ((w.withSession sid' s').withIndex r) := by
      refine (untouched_withSession hget fun hsid t ht => ?_).trans (.of_eq rfl rfl)
      have hstate := (hspared hsid s hget).state t ht
      rwa [hcall] at hstate
    rw [hrun]
    refine hset.trans (untouched_actions (fun avps hmem hcdn => ?_) _)
    -- a CDN of `sid` comes from the session under `sid`
    have hsid := cdn_of_session hout hmem hcdn
    rw [(hable.sessions sid' s hget).1] at hsid
    exact (hspared hsid s hget).sends actions (by rw [hcall]) avps hmem hcdn

/-- **A call of the machine** that does not tear the sessions down touches none of them. -/
theorem untouched_drive {m : Prog TunnelFSM (List TunnelAction)}
    (hable : able.Holds w.tunnel) (hm : TunnelFSM.Method m)
    (hup : Index.tearsDown m w.tunnel.fsm = false) : Untouched sid w (drive hmac m w).2 := by
  have hout := hm w.tunnel.fsm
  have hset : Untouched sid w (w.withFsm (m w.tunnel.fsm).2) := .of_eq rfl rfl
  -- a method that raises has no actions
  cases hr : (m w.tunnel.fsm).1 with
  | error e =>
    rw [drive_error hmac hr]
    exact hset
  | ok actions =>
    rw [hr] at hout
    rw [drive_ok hmac hr]
    have hkeeps : Keeps (fun w' => able.Holds w'.tunnel ∧ Untouched sid w w')
        (executeTunnelActions hmac actions) := by
      refine Keeps.each fun a ha => keeps_tunnelAction hmac
        (fun _ _ _ _ h => ⟨h.1.aside rfl rfl rfl rfl, h.2.trans (.of_eq rfl rfl)⟩)
        (fun _ _ _ _ h => ⟨h.1.aside rfl rfl rfl rfl, h.2.trans (.of_eq rfl rfl)⟩)
        (fun avps heq w' h => ⟨?_, ?_⟩) (fun _ => ?_) fun reason heq => ?_
      · exact able_stable.executed h.1 (executed_send hmac avps w')
      · exact h.2.trans (untouched_send hmac (not_cdn_of_machine hout (heq ▸ ha) sid) w')
      · refine keeps_eachSession hmac fun sid' w' h => ⟨?_, ?_⟩
        · exact able_stable.sessionCall SessionFSM.method_onTunnelEstablished sid' onlyIndex_id w' h.1
        · exact h.2.trans (untouched_callSession SessionFSM.method_onTunnelEstablished sid'
            onlyIndex_id h.1 fun _ s _ => spares_onTunnelEstablished s)
      · rw [Index.tearsDown_of_mem hr (heq ▸ ha)] at hup
        cases hup
    exact (hkeeps (w.withFsm (m w.tunnel.fsm).2)
      ⟨⟨trivial, hable.peer, able_stable.fsm (hm w.tunnel.fsm) hable.fsm, hable.sessions⟩, hset⟩).2

/-- The call sends nothing and leaves the session where it stops. -/
def IgnoredBy (m : Prog SessionFSM (List SessionAction)) (s : SessionFSM) : Prop :=
  (m s).2.state = .sendCdn ∧ SessionFSM.Silent (m s).1

/-- What is outstanding stays so while the actions of a session are executed. -/
theorem keeps_outstanding_session {Q : List AVP → Prop} (actions : List SessionAction) :
    Keeps (fun w : World δ => Outstanding Q w.tunnel.peer.sendQueue)
      (executeSessionActions hmac actions) :=
  keeps_executeSessionActions hmac (fun _ _ _ _ h => h)
    fun avps _ w h => outstanding_mono hmac avps w h

/-- **A call of the session itself** leaves it stuck if it was, and ignores the call. -/
theorem stuckAt_callSession {m : Prog SessionFSM (List SessionAction)} (hm : SessionFSM.Method m)
    {g : Tunnel → Tunnel} (hg : OnlyIndex g) (hable : able.Holds w.tunnel)
    {s : SessionFSM} (hget : w.tunnel.sessionsByLocal.get? sid = some s) :
    StuckAt sid (callSession hmac sid m g w).2.tunnel ↔ StuckAt sid w.tunnel ∧ IgnoredBy m s := by
  have hbefore : StuckAt sid w.tunnel ↔
      s.state = .sendCdn ∧ ¬ Outstanding (IsCdn sid) w.tunnel.peer.sendQueue := by
    simp [StuckAt, StopsAt, hget]
  -- the session afterwards is the one that the machine left
  have hafter : (callSession hmac sid m g w).2.tunnel.sessionsByLocal.get? sid = some (m s).2 :=
    (callSession_sessions hmac hg hget sid).trans (if_pos rfl)
  have hstuck : StuckAt sid (callSession hmac sid m g w).2.tunnel ↔ (m s).2.state = .sendCdn ∧
      ¬ Outstanding (IsCdn sid) (callSession hmac sid m g w).2.tunnel.peer.sendQueue := by
    simp [StuckAt, StopsAt, hafter]
  have hother : (m s).2.state ≠ .sendCdn → (StuckAt sid (callSession hmac sid m g w).2.tunnel ↔
      StuckAt sid w.tunnel ∧ IgnoredBy m s) := fun hne =>
    iff_of_false (fun h => hne (hstuck.mp h).1) fun h => hne h.2.1
  -- a call that does nothing
  have hsame : SessionFSM.Silent (m s).1 → (m s).2 = s →
      (StuckAt sid (callSession hmac sid m g w).2.tunnel ↔
        StuckAt sid w.tunnel ∧ IgnoredBy m s) := by
    intro hsilent hkept
    have hspares : Spares sid m s := ⟨fun t _ => by rw [hkept], fun actions hr avps hmem =>
      absurd hmem (hsilent actions hr avps)⟩
    have huntouched : Untouched sid w (callSession hmac sid m g w).2 :=
      untouched_callSession hm sid hg hable fun _ s' hget' => by
        rw [hget, Option.some.injEq] at hget'
        exact hget' ▸ hspares
    rw [huntouched.stuckAt_iff]
    refine ⟨fun h => ⟨h, ?_, hsilent⟩, fun h => h.1⟩
    rw [hkept]
    exact (hbefore.mp h).1
  have hkey := (hable.sessions sid s hget).1
  have hout := hm s
  rcases hcall : m s with ⟨r, s'⟩
  rw [hcall] at hout hother hsame
  cases hout with
  | ignored => exact hsame SessionFSM.silent_nil rfl
  | raised => exact hsame (SessionFSM.silent_error _) rfl
  | refused hs _ => exact hother (by rcases hs with hs | hs <;> simp [hs])
  | called _ _ => exact hother (by simp)
  | answered _ _ _ => exact hother (by simp)
  | connected _ _ _ => exact hother (by simp)
  | accepted _ => exact hother (by simp)
  | @closed _ avps reason hs hb =>
    refine iff_of_false (fun h => (hstuck.mp h).2 ?_) fun h => h.2.2 _ (by rw [hcall]) avps (by simp)
    -- the CDN goes out first
    obtain ⟨r, hr⟩ := hg.mapTunnel (w.withSession sid { s with state := .sendCdn })
    obtain ⟨w', hsent, hcdn⟩ := outstanding_sent hmac (Q := IsCdn sid) (hkey ▸ isCdn_built hb)
      (buildCdnAvps_regular hb).1 (w := (w.withSession sid { s with state := .sendCdn }).withIndex r)
      ⟨hable.peer.1, hable.peer.2⟩
    rw [callSession_ok hmac hget hcall, hr, executeSessionActions, List.singleton_append, each,
      bind_apply_of_ok _ _ (show executeSessionAction hmac (.sendMessage avps) _ = _ from hsent)]
    exact keeps_outstanding_session _ w' hcdn
  | dropped _ => exact hother (by simp)

end Session

/-! ## What ends the wait

Which messages the machines take while they stop is read off their tables of transitions. -/

/-- The message is one that a tunnel machine takes while it stops. -/
def Ends (msg : ControlMessage) : Prop :=
  getMessageType msg.avps = .ok (some MessageType.sccrq.code) ∨
    getMessageType msg.avps = .ok (some MessageType.stopccn.code)

/-- The message is one that a session takes while it stops. -/
def EndsCall (msg : ControlMessage) : Prop :=
  getMessageType msg.avps = .ok (some MessageType.icrq.code) ∨
    getMessageType msg.avps = .ok (some MessageType.cdn.code)

instance (msg : ControlMessage) : Decidable (Ends msg) := inferInstanceAs (Decidable (_ ∨ _))

instance (msg : ControlMessage) : Decidable (EndsCall msg) := inferInstanceAs (Decidable (_ ∨ _))

section Ends

variable {fsm : TunnelFSM} {msg : ControlMessage}

/-- A message of another type to a machine that waits for none. -/
theorem onMessage_other (fsm : TunnelFSM) (hreply : fsm.state ≠ .waitCtlReply) (hconn : fsm.state ≠ .waitCtlConn)
    (hno : ¬ Ends msg) : (TunnelFSM.onMessage msg fsm).2 = fsm ∧
      ∀ actions, (TunnelFSM.onMessage msg fsm).1 = .ok actions → actions = [] := by
  cases hmsg : getMessageType msg.avps with
  | error e => simp [TunnelFSM.onMessage, hmsg]
  | ok mt =>
    simp only [Ends, hmsg, Except.ok.injEq, not_or] at hno
    simp only [TunnelFSM.onMessage, hmsg, ofExcept_ok_bind_apply, if_neg hno.1, if_neg hno.2]
    -- the other types find a machine that does not wait for them
    split
    · simp [TunnelFSM.onSccrp, hreply]
    · split
      · simp [TunnelFSM.onScccn, hconn]
      · split <;> simp [TunnelFSM.onHello]

/-- A SCCRQ stops a machine that is not idle. -/
theorem onMessage_sccrq (fsm : TunnelFSM) (hs : fsm.state ≠ .idle) (hccid : IsU32 fsm.config.localCcid)
    (hmsg : getMessageType msg.avps = .ok (some MessageType.sccrq.code)) :
    ∃ avps, TunnelFSM.onMessage msg fsm = (.ok (TunnelFSM.stopActions fsm.state avps .peerRestart),
      { fsm with state := .sendStopccn }) := by
  obtain ⟨avps, hbuilt⟩ :
      ∃ avps, buildStopccnAvps fsm.config.localCcid ResultCode.generalError.code = .ok avps :=
    ⟨_, buildStopccnAvps_ok_iff.mpr ⟨hccid, by decide, rfl⟩⟩
  exact ⟨avps, by simp [TunnelFSM.onMessage, hmsg, TunnelFSM.onSccrq, hs,
    TunnelFSM.teardownAndNotify, hbuilt, TunnelFSM.transition]⟩

/-- A StopCCN drops it. -/
theorem onMessage_stopccn (fsm : TunnelFSM) (hs : fsm.state ≠ .idle)
    (hmsg : getMessageType msg.avps = .ok (some MessageType.stopccn.code)) :
    ∃ reason, TunnelFSM.onMessage msg fsm
      = (.ok (TunnelFSM.dropActions fsm.state reason), { fsm with state := .idle }) := by
  have htry := tryValueError_of_only (parseStopccnFields_onlyValueError msg.avps)
  have hne : MessageType.stopccn.code ≠ MessageType.sccrq.code ∧
    MessageType.stopccn.code ≠ MessageType.sccrp.code ∧
    MessageType.stopccn.code ≠ MessageType.scccn.code ∧
    MessageType.stopccn.code ≠ MessageType.hello.code := by decide
  have hrun : TunnelFSM.onMessage msg fsm = TunnelFSM.onStopccn msg fsm := by
    simp [TunnelFSM.onMessage, hmsg, hne]
  rw [hrun]
  exact ⟨_, by simp [TunnelFSM.onStopccn, hs, htry, TunnelFSM.transition]; rfl⟩

/-- A machine that stops. -/
theorem ignores_iff (hs : fsm.state = .sendStopccn) (hccid : IsU32 fsm.config.localCcid) :
    Ignores (TunnelFSM.onMessage msg) fsm ↔ ¬ Ends msg := by
  -- an SCCRQ is answered by a StopCCN, a StopCCN ends the wait
  constructor
  · rintro ⟨hstate, hsilent⟩ (hsccrq | hstopccn)
    · obtain ⟨avps, hrun⟩ := onMessage_sccrq fsm (by simp [hs]) hccid hsccrq
      exact hsilent _ (by rw [hrun]) avps (by simp [TunnelFSM.stopActions])
    · obtain ⟨reason, hrun⟩ := onMessage_stopccn fsm (by simp [hs]) hstopccn
      rw [hrun] at hstate
      cases hstate
  · intro hno
    obtain ⟨hkept, hnone⟩ := onMessage_other fsm (by simp [hs]) (by simp [hs]) hno
    exact ⟨by rw [hkept, hs], fun actions hr avps hmem => by simp [hnone actions hr] at hmem⟩

/-- A machine that is up. -/
theorem tearsDown_iff (hccid : IsU32 fsm.config.localCcid) :
    Index.tearsDown (TunnelFSM.onMessage msg) fsm = true ↔ fsm.state = .established ∧ Ends msg := by
  -- only an SCCRQ and a StopCCN bring a machine down that is up
  constructor
  · intro hdown
    obtain ⟨hup, reason, hrun⟩ := Index.actions_of_tearsDown (TunnelFSM.method_onMessage msg) hdown
    refine ⟨hup, Classical.byContradiction fun hno => ?_⟩
    obtain ⟨-, hnone⟩ := onMessage_other fsm (by simp [hup]) (by simp [hup]) hno
    rcases hrun with hrun | ⟨avps, -, hrun⟩
    · simpa using hnone _ hrun
    · simpa using hnone _ hrun
  · rintro ⟨hup, hsccrq | hstopccn⟩
    · obtain ⟨avps, hrun⟩ := onMessage_sccrq fsm (by simp [hup]) hccid hsccrq
      have htorn : .tornDown .peerRestart ∈ TunnelFSM.stopActions fsm.state avps .peerRestart := by
        simp [TunnelFSM.stopActions, hup]
      exact Index.tearsDown_of_mem (by rw [hrun]) htorn
    · obtain ⟨reason, hrun⟩ := onMessage_stopccn fsm (by simp [hup]) hstopccn
      have htorn : .tornDown reason ∈ TunnelFSM.dropActions fsm.state reason := by
        simp [TunnelFSM.dropActions, hup]
      exact Index.tearsDown_of_mem (by rw [hrun]) htorn

/-- A session that stops. -/
theorem ignoredBy_iff {s : SessionFSM} (hs : s.state = .sendCdn) (hstarted : s.Started) :
    IgnoredBy (SessionFSM.onMessage msg) s ↔ ¬ EndsCall msg := by
  -- an ICRQ is answered by a CDN, a CDN ends the wait
  constructor
  · rintro ⟨hstate, hsilent⟩ (hicrq | hcdn)
    · obtain ⟨avps, hbuilt⟩ : ∃ avps, buildCdnAvps s.config.localSid s.peerSid
          ResultCode.generalError.code = .ok avps :=
        ⟨_, buildCdnAvps_ok_iff.mpr ⟨(hstarted.callArgs (by simp [hs])).localSid, hstarted.peerSid,
          by decide, rfl⟩⟩
      have hrun : (SessionFSM.onMessage msg s).1
          = .ok ([.sendMessage avps] ++ s.downActions .icrqInNonIdle) := by
        simp [SessionFSM.onMessage, hicrq, SessionFSM.onIcrq, hs, SessionFSM.teardownCdn, hbuilt,
          SessionFSM.transition]
      exact hsilent _ hrun avps (by simp)
    · obtain ⟨actions, hrun, -⟩ := SessionFSM.onMessage_cdn s hcdn
      rw [hrun] at hstate
      cases hstate
  · intro hno
    have hsame : (SessionFSM.onMessage msg s).2 = s ∧ SessionFSM.Silent (SessionFSM.onMessage msg s).1 := by
      cases hmsg : getMessageType msg.avps with
      | error e => exact ⟨by simp [SessionFSM.onMessage, hmsg], by
          simpa [SessionFSM.onMessage, hmsg] using SessionFSM.silent_error e⟩
      | ok mt =>
        simp only [EndsCall, hmsg, Except.ok.injEq, not_or] at hno
        simp only [SessionFSM.onMessage, hmsg, ofExcept_ok_bind_apply, if_neg hno.1, if_neg hno.2]
        split
        · simpa [SessionFSM.onIcrp, hs] using SessionFSM.silent_nil
        · split
          · simpa [SessionFSM.onIccn, hs] using SessionFSM.silent_nil
          · exact ⟨rfl, SessionFSM.silent_nil⟩
    exact ⟨by rw [hsame.1, hs], hsame.2⟩

end Ends

/-! ## A message that is handed over

A message goes to the tunnel machine or to the session that is chosen for it. A message to the
tunnel machine can end the wait of a session too, by tearing the tunnel down. -/

/-- The session that a message is given to, if it is a session message. -/
def chosen (t : Tunnel) (msg : ControlMessage) : Option Int :=
  match getMessageType msg.avps with
  | .ok (some mt) => choice t mt msg
  | _ => none

/-- The message ends the wait of the session: it takes the whole tunnel down, or it is for the
session. -/
def EndsAt (sid : Int) (t : Tunnel) (msg : ControlMessage) : Prop :=
  (t.fsm.state = .established ∧ Ends msg) ∨ (EndsCall msg ∧ chosen t msg = some sid)

/-- What a message is handed to, and which waits its type can end. -/
theorem inputOf_cases (msg : ControlMessage) :
    (inputOf msg = none ∧ ¬ Ends msg ∧ ¬ EndsCall msg) ∨
    (inputOf msg = some (.machine (TunnelFSM.onMessage msg)) ∧ ¬ EndsCall msg) ∨
    ∃ mt, getMessageType msg.avps = .ok (some mt) ∧ inputOf msg = some (.message msg mt) ∧
      ¬ Ends msg := by
  cases hmsg : getMessageType msg.avps with
  | error e => exact .inl (by simp [inputOf, hmsg, Ends, EndsCall])
  | ok mt =>
    cases mt with
    | none => exact .inr (.inl (by simp [inputOf, hmsg, EndsCall]))
    | some mt =>
      -- the four types of a session, and all others
      by_cases hmt : mt ∈ sessionMsgTypes
      · refine .inr (.inr ⟨mt, rfl, by simp [inputOf, hmsg, hmt], ?_⟩)
        simp only [Ends, hmsg, Except.ok.injEq, Option.some.injEq]
        rintro (rfl | rfl) <;> exact absurd hmt (by decide)
      · refine .inr (.inl ⟨by simp [inputOf, hmsg, hmt], ?_⟩)
        simp only [EndsCall, hmsg, Except.ok.injEq, Option.some.injEq]
        rintro (rfl | rfl) <;> exact absurd (by decide) hmt

theorem not_ends_of_none {msg : ControlMessage} (h : inputOf msg = none) :
    ¬ Ends msg ∧ ¬ EndsCall msg := by
  rcases inputOf_cases msg with ⟨-, hno⟩ | ⟨hmachine, -⟩ | ⟨mt, -, hmessage, -⟩
  · exact hno
  · rw [hmachine] at h
    cases h
  · rw [hmessage] at h
    cases h

section HandedOver

variable [Dataplane δ] {hmac : Hmac} {w : World δ} {msg : ControlMessage}

/-- A session message does not touch the tunnel machine or its StopCCN. -/
theorem stuck_dispatch {mt : Int} :
    Stuck (dispatchSessionMessage hmac msg mt w).2.tunnel ↔ Stuck w.tunnel := by
  have hfsm : (dispatchSessionMessage hmac msg mt w).2.tunnel.fsm = w.tunnel.fsm :=
    (cascaded_dispatchSession hmac msg mt w).fsm
  have hqueue : Outstanding IsStopccn (dispatchSessionMessage hmac msg mt w).2.tunnel.peer.sendQueue
      ↔ Outstanding IsStopccn w.tunnel.peer.sendQueue := by
    rw [dispatch_eq]
    cases choice w.tunnel mt msg with
    | none => exact .rfl
    | some sid =>
      exact keeps_unstopped (SessionFSM.method_onMessage msg) sid (onlyIndex_indexRemote sid)
        (noted w .session msg) .rfl
  rw [Stuck, Stuck, hfsm, hqueue]

/-- A session message ends the wait of a session only by being given to it. -/
theorem stuckAt_dispatch {mt sid : Int} (hable : able.Holds w.tunnel) :
    StuckAt sid (dispatchSessionMessage hmac msg mt w).2.tunnel ↔
      StuckAt sid w.tunnel ∧ ¬ (EndsCall msg ∧ choice w.tunnel mt msg = some sid) := by
  rw [dispatch_eq]
  cases hchoice : choice w.tunnel mt msg with
  | none => simp [serve, StuckAt, StopsAt, noted]
  | some sid' =>
    rw [serve]
    have hable' : able.Holds (noted w .session msg).tunnel := hable
    -- the message is for another session
    by_cases hsid : sid' = sid
    · subst hsid
      cases hget : w.tunnel.sessionsByLocal.get? sid' with
      | none =>
        have hget' : (noted w .session msg).tunnel.sessionsByLocal.get? sid' = none := hget
        rw [give_absent hmac hget']
        simp [StuckAt, StopsAt, noted, hget]
      | some s =>
        have hget' : (noted w .session msg).tunnel.sessionsByLocal.get? sid' = some s := hget
        rw [give_eq, stuckAt_callSession (SessionFSM.method_onMessage msg)
          (onlyIndex_indexRemote sid') hable' hget']
        refine and_congr_right fun hstuck => ?_
        obtain ⟨⟨s', hgets, hs⟩, -⟩ := hstuck
        rw [show (noted w .session msg).tunnel.sessionsByLocal.get? sid' = some s from hget,
          Option.mem_some_iff] at hgets
        subst hgets
        rw [ignoredBy_iff hs (hable.sessions sid' s hget).2]
        simp
    · have huntouched : Untouched sid (noted w .session msg)
          (give hmac msg sid' (noted w .session msg)).2 :=
        untouched_callSession (SessionFSM.method_onMessage msg) sid' (onlyIndex_indexRemote sid')
          hable' fun h => absurd h hsid
      rw [huntouched.stuckAt_iff]
      simp [StuckAt, StopsAt, noted, hsid]

/-- A teardown of the tunnel leaves no session that stops. -/
theorem stuckAt_drive {m : Prog TunnelFSM (List TunnelAction)} {sid : Int}
    (hable : able.Holds w.tunnel) (hm : TunnelFSM.Method m) :
    StuckAt sid (drive hmac m w).2.tunnel ↔
      StuckAt sid w.tunnel ∧ Index.tearsDown m w.tunnel.fsm = false := by
  cases hdown : Index.tearsDown m w.tunnel.fsm with
  | true =>
    have hidle : (drive hmac m w).2.tunnel.AllIdle :=
      Index.drive_allIdle (ready_of_able hable) hm hdown
    refine iff_of_false ?_ (by simp)
    rintro ⟨⟨s, hget, hs⟩, -⟩
    rw [hidle sid s hget] at hs
    cases hs
  | false => simp [(untouched_drive hable hm hdown).stuckAt_iff]

/-- What is handed over leaves the machine stuck if it was, and the message does not end the
wait. -/
theorem stuck_handed {i : Input} (hable : able.Holds w.tunnel) (hi : inputOf msg = some i) :
    Stuck (i.run hmac w).2.tunnel ↔ Stuck w.tunnel ∧ ¬ Ends msg := by
  -- nothing is run; the tunnel machine is called; a session is called
  rcases inputOf_cases msg with ⟨hnone, -⟩ | ⟨hmachine, -⟩ | ⟨mt, -, hmessage, hno⟩
  · rw [hnone] at hi
    cases hi
  · rw [hmachine] at hi
    cases hi
    rw [Input.run, stuck_drive (TunnelFSM.method_onMessage msg) (ready_of_able hable)]
    exact and_congr_right fun hstuck => ignores_iff hstuck.1 hable.fsm
  · rw [hmessage] at hi
    cases hi
    rw [Input.run, stuck_dispatch]
    exact (and_iff_left hno).symm

/-- What is handed over leaves a session stuck if it was, and the message does not end the wait. -/
theorem stuckAt_handed {i : Input} {sid : Int} (hable : able.Holds w.tunnel)
    (hi : inputOf msg = some i) :
    StuckAt sid (i.run hmac w).2.tunnel ↔ StuckAt sid w.tunnel ∧ ¬ EndsAt sid w.tunnel msg := by
  -- nothing is run; the tunnel machine is called; a session is called
  rcases inputOf_cases msg with ⟨hnone, -⟩ | ⟨hmachine, hno⟩ | ⟨mt, hmt, hmessage, hno⟩
  · rw [hnone] at hi
    cases hi
  · rw [hmachine] at hi
    cases hi
    rw [Input.run, stuckAt_drive hable (TunnelFSM.method_onMessage msg), EndsAt, ← tearsDown_iff hable.fsm]
    simp [hno]
  · rw [hmessage] at hi
    cases hi
    rw [Input.run, stuckAt_dispatch hable, EndsAt, chosen, hmt]
    simp [hno]

/-- No call brings a machine into that state. -/
theorem stuck_of_run {i : Input} (hfit : i.Fit w.tunnel) (hable : able.Holds w.tunnel)
    (h : Stuck (i.run hmac w).2.tunnel) : Stuck w.tunnel := by
  cases i with
  | machine m => exact ((stuck_drive hfit (ready_of_able hable)).mp h).1
  | message msg mt => exact stuck_dispatch.mp h

/-- No input makes a session stuck that was not. -/
theorem stuckAt_of_run {i : Input} {sid : Int} (hfit : i.Fit w.tunnel) (hable : able.Holds w.tunnel)
    (h : StuckAt sid (i.run hmac w).2.tunnel) : StuckAt sid w.tunnel := by
  cases i with
  | machine m => exact ((stuckAt_drive hable hfit).mp h).1
  | message msg mt => exact ((stuckAt_dispatch hable).mp h).1

end HandedOver

end Drain

end L2tpv3d
