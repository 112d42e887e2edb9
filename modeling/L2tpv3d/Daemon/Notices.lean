import L2tpv3d.Daemon.Dispatch

/-!
# L2tpv3d — notices and the HELLO timer follow the tunnel machine

The machine changes its state before the actions that announce the change are executed, and
an exception in the middle of a list drops the rest of it. `Tracked` is what holds between
two events all the same: the notices alternate, the last one says whether the tunnel is up,
and the HELLO timer is armed exactly while it is up. The one message that could get in the
way is the one in front of an announcement: it is regular, and a tunnel that comes up or is
up has a peer CCID that fits the header, so it is sent.

* `Steady w w'` — neither the machine nor the timer nor the notices moved; everything the
  sessions do is such a move.
* `Tracked.drive` — a call of the machine, one case per outcome.
* `Tracked.armed_iff` — the loop has one live timer while the tunnel is up, and none otherwise.
* `unvoiced_step` — where a HELLO leaves the tunnel.
* **`notices_track`** — along every run.
-/

namespace L2tpv3d

open Py Prog

namespace Notices

open Tunnel World

variable {δ : Type} (hmac : Hmac)

/-! ## Up and down in turn

The notices are a list, oldest first. Its last element decides which notice may be next, so that the
invariant is about the last element and not about the list. -/

/-- The notices come in turn: Established while down, TornDown while up. -/
def Alternating : Bool → List Notice → Prop
  | _, [] => True
  | up, .established :: rest => up = false ∧ Alternating true rest
  | up, .tornDown _ :: rest => up = true ∧ Alternating false rest

/-- The last notice was Established. -/
def Announced (notices : List Notice) : Prop := notices.getLast? = some .established

/-- The last notice decides. -/
theorem announced_snoc (notices : List Notice) (n : Notice) :
    Announced (notices ++ [n]) ↔ n = .established := by
  simp [Announced]

theorem Alternating.snoc {up : Bool} {notices : List Notice} {n : Notice}
    (h : Alternating up notices)
    (hn : n = .established ↔ ¬ (if notices = [] then up = true else Announced notices)) :
    Alternating up (notices ++ [n]) := by
  induction notices generalizing up with
  | nil =>
    cases n with
    | established => simpa [Alternating] using hn
    | tornDown reason => simpa [Alternating] using hn
  | cons head rest ih =>
    -- after the first notice the list is up exactly when that one was Established
    have hrest : ∀ up', (head = .established ↔ up' = true) →
        (n = .established ↔ ¬ (if rest = [] then up' = true else Announced rest)) := by
      intro up' hup
      rw [hn, if_neg (by simp)]
      cases rest with
      | nil => simp [Announced, hup]
      | cons second rest => simp [Announced]
    cases head with
    | established => exact ⟨h.1, ih h.2 (hrest true (by simp))⟩
    | tornDown reason => exact ⟨h.1, ih h.2 (hrest false (by simp))⟩

/-! ## What the sessions leave alone

Most of what a handler does concerns sessions, messages and the dataplane. None of it is tracked
here. `Steady` says so once, and is composed along the loops over the sessions and over the actions.
-/

/-- Neither the machine nor the timer nor the notices moved. -/
structure Steady (w w' : World δ) : Prop where
  cascaded : Cascaded w w'
  timer : w'.tunnel.timer = w.tunnel.timer
  notices : w'.notices = w.notices

theorem Steady.refl (w : World δ) : Steady w w := ⟨.refl w, rfl, rfl⟩

theorem Steady.trans {w w' w'' : World δ} (h : Steady w w') (h' : Steady w' w'') : Steady w w'' :=
  ⟨h.cascaded.trans h'.cascaded, h'.timer.trans h.timer, h'.notices.trans h.notices⟩

theorem steady_executed {w w' : World δ} (h : Executed w w') : Steady w w' :=
  ⟨h.cascaded, h.timer, h.notices⟩

/-- Whatever the dataplane answers. -/
theorem steady_ignoresDataplane (w₀ : World δ) : IgnoresDataplane (Steady w₀) := by
  intro w dataplane faults added h
  exact ⟨⟨h.cascaded.cfg, h.cascaded.fsm, h.cascaded.link, h.cascaded.sent, h.cascaded.dispatched⟩,
    h.timer, h.notices⟩

variable [Dataplane δ]

theorem steady_sessionCall (sid : Int) (m : Prog SessionFSM (List SessionAction))
    {g : Tunnel → Tunnel} (hg : OnlyIndex g) (w : World δ) :
    Steady w (callSession hmac sid m g w).2 := by
  have hcascaded := cascaded_callSession hmac sid m hg w
  rcases callSession_cases hmac sid m hg w with ⟨r, -, hrun⟩ | ⟨s, s', e, -, -, hrun⟩ |
    ⟨s, s', actions, r, -, -, hrun⟩ <;> rw [hrun] at hcascaded ⊢
  · exact ⟨hcascaded, rfl, rfl⟩
  · exact ⟨hcascaded, rfl, rfl⟩
  · have hex := executed_sessionActions hmac actions ((w.withSession sid s').withIndex r)
    exact ⟨hcascaded, hex.timer, hex.notices⟩

theorem steady_eachSession (m : Prog SessionFSM (List SessionAction)) (w₀ : World δ) :
    Keeps (Steady w₀) (eachSession hmac m) :=
  keeps_eachSession hmac fun sid w h => h.trans (steady_sessionCall hmac sid m onlyIndex_id w)

/-- After the notice, the rest of `Established` moves nothing that is tracked. -/
theorem steady_established (w : World δ) :
    Steady { w with notices := w.notices ++ [.established] }
      (executeTunnelActions hmac [.established] w).2 :=
  Keeps.bind (steady_eachSession hmac SessionFSM.onTunnelEstablished _) (fun _ => Keeps.pure ())
    { w with notices := w.notices ++ [.established] } (.refl _)

/-- After the notice, the rest of `TornDown` moves nothing that is tracked. -/
theorem steady_tornDown (reason : TunnelDownReason) (w : World δ) :
    Steady { w with notices := w.notices ++ [.tornDown reason] }
      (executeTunnelActions hmac [.tornDown reason] w).2 := by
  generalize hw₀ : ({ w with notices := w.notices ++ [.tornDown reason] } : World δ) = w₀
  have hrest : Keeps (Steady w₀) (do
      eachSession hmac SessionFSM.onTunnelDown
      let w ← get
      if w.tunnel.tunnelDpAdded ∧ w.dataplane.isSome then
        let _ ← onDataplane (Dataplane.delTunnel (δ := δ) w.tunnel.cfg.localCcid)
        modify (mapTunnel fun t => { t with tunnelDpAdded := false })
      else return ()) := by
    refine (steady_eachSession hmac SessionFSM.onTunnelDown w₀).bind fun _ => Keeps.get_bind fun w h => ?_
    split
    · exact Keeps.bind (keeps_onDataplane (steady_ignoresDataplane w₀) _)
        (fun _ => Keeps.modify fun w h => steady_ignoresDataplane w₀ w w.dataplane w.faults false h)
        w h
    · exact h
  subst hw₀
  exact Keeps.bind hrest (fun _ => Keeps.pure ()) _ (.refl _)

/-! ## The invariant

Between two events the machine, the timer and the notices agree. Inside a list of actions they do
not, so the lists that take the tunnel up or down are followed as a whole, from the call of the
machine to the last action. A list that is cut short by an exception is the case that needs care: in
front of the notice stands a message, and the message of a tunnel that is up can be sent. -/

/-- What holds between two events. -/
structure Tracked (w : World δ) : Prop where
  sound : w.tunnel.peer.Sound
  remoteCcid : w.tunnel.fsm.state = .established → IsU32 w.tunnel.peer.remoteCcid
  alternating : Alternating false w.notices
  announced : w.tunnel.fsm.state = .established ↔ Announced w.notices
  timer : w.tunnel.fsm.state = .established ↔ w.tunnel.timer.helloHandle.isSome = true
  sole : w.tunnel.timer.Sole

variable {w w' : World δ}

omit [Dataplane δ] in
theorem Tracked.congr (h : Tracked w) (hsound : w'.tunnel.peer.Sound)
    (hccid : IsU32 w.tunnel.peer.remoteCcid → IsU32 w'.tunnel.peer.remoteCcid)
    (hstate : w'.tunnel.fsm.state = .established ↔ w.tunnel.fsm.state = .established)
    (htimer : w'.tunnel.timer = w.tunnel.timer) (hnotices : w'.notices = w.notices) :
    Tracked w' :=
  ⟨hsound, fun hup => hccid (h.remoteCcid (hstate.mp hup)), hnotices ▸ h.alternating,
    hnotices ▸ hstate.trans h.announced, htimer ▸ hstate.trans h.timer, htimer ▸ h.sole⟩

omit [Dataplane δ] in
/-- What leaves the machine, the timer and the notices alone keeps the invariant. -/
theorem Tracked.steady (h : Tracked w) (hw : Steady w w') : Tracked w' :=
  h.congr (hw.cascaded.link.sound h.sound) (fun hu => hw.cascaded.link.remoteCcid ▸ hu)
    (by rw [hw.cascaded.fsm]) hw.timer hw.notices

omit [Dataplane δ] in
/-- The notice that the tunnel came up. -/
theorem alternating_up (h : Tracked w) (hdown : w.tunnel.fsm.state ≠ .established) :
    Alternating false (w.notices ++ [.established]) := by
  refine h.alternating.snoc (iff_of_true rfl ?_)
  split
  · simp
  · exact fun hann => hdown (h.announced.mpr hann)

omit [Dataplane δ] in
/-- The notice that the tunnel went down. -/
theorem alternating_down (h : Tracked w) (hup : w.tunnel.fsm.state = .established)
    (reason : TunnelDownReason) : Alternating false (w.notices ++ [.tornDown reason]) := by
  have hann := h.announced.mp hup
  refine h.alternating.snoc (iff_of_false (by simp) (not_not.mpr ?_))
  rw [if_neg (fun hnil => by simp [Announced, hnil] at hann)]
  exact hann

/-- **The tunnel comes up**: the timer is armed, then the notice is given. -/
theorem tracked_up (h : Tracked w) (hdown : w.tunnel.fsm.state ≠ .established) {fsm : TunnelFSM}
    (hfsm : fsm.state = .established) (hw : Steady (w.withFsm fsm) w')
    (hccid : IsU32 w.tunnel.peer.remoteCcid) (seconds : ℚ) :
    Tracked (executeTunnelActions hmac [.setHelloTimer seconds, .established] w').2 := by
  have hend := steady_established hmac
    ((tocked w').mapTimer (HelloTimer.set (w'.clock 0 + seconds)))
  have hup : w'.tunnel.fsm.state = .established := by rw [hw.cascaded.fsm]; exact hfsm
  have hccid' : IsU32 w'.tunnel.peer.remoteCcid := by rw [hw.cascaded.link.remoteCcid]; exact hccid
  have hturn : Alternating false (w'.notices ++ [.established]) := by
    rw [show w'.notices = w.notices from hw.notices]
    exact alternating_up h hdown
  have hsole : w'.tunnel.timer.Sole := by rw [hw.timer]; exact h.sole
  refine Tracked.steady ?_ hend
  exact ⟨hw.cascaded.link.sound h.sound, fun _ => hccid', hturn,
    iff_of_true hup ((announced_snoc _ _).mpr rfl), iff_of_true hup (hsole.isSome_set _),
    hsole.set _⟩

/-- **The tunnel goes down**: the timer is cleared, and the notice is given if the tunnel was
up. -/
theorem tracked_drop (h : Tracked w) {fsm : TunnelFSM} (hfsm : fsm.state ≠ .established)
    (hw : Steady (w.withFsm fsm) w') (reason : TunnelDownReason) :
    Tracked (executeTunnelActions hmac
      (TunnelFSM.dropActions w.tunnel.fsm.state reason) w').2 := by
  have hdown : w'.tunnel.fsm.state ≠ .established := by rw [hw.cascaded.fsm]; exact hfsm
  have hsound := hw.cascaded.link.sound h.sound
  have hnotices : w'.notices = w.notices := hw.notices
  have hsole : w'.tunnel.timer.Sole := by rw [hw.timer]; exact h.sole
  unfold TunnelFSM.dropActions
  -- up before: the notice is given; otherwise nothing was announced
  split
  · rename_i hup
    have hend := steady_tornDown hmac reason (w'.mapTimer HelloTimer.clear)
    have hturn : Alternating false (w'.notices ++ [.tornDown reason]) := by
      rw [hnotices]
      exact alternating_down h hup reason
    refine Tracked.steady ?_ hend
    exact ⟨hsound, fun hst => absurd hst hdown, hturn,
      iff_of_false hdown fun hann => by simpa using (announced_snoc _ _).mp hann,
      iff_of_false hdown hsole.isSome_clear, hsole.clear⟩
  · rename_i hprior
    have hrun : executeTunnelActions hmac ([.clearHelloTimer] ++ []) w'
        = (.ok (), w'.mapTimer HelloTimer.clear) := rfl
    have hsilent : ¬ Announced w'.notices := by
      rw [hnotices]
      exact fun hann => hprior (h.announced.mpr hann)
    rw [hrun]
    exact ⟨hsound, fun hst => absurd hst hdown, (hnotices ▸ h.alternating :),
      iff_of_false hdown hsilent, iff_of_false hdown hsole.isSome_clear, hsole.clear⟩

/-- A message in front of other actions, which is sent. -/
theorem execute_sent {avps : List AVP} (hready : w.tunnel.Ready) (havps : Regular avps)
    (actions : List TunnelAction) : ∃ w', Steady w w' ∧
      executeTunnelActions hmac (.sendMessage avps :: actions) w
        = executeTunnelActions hmac actions w' := by
  obtain ⟨_, _, _, -, -, hrun⟩ := send_ok hmac hready havps
  have hsteady := steady_executed (executed_send hmac avps w)
  rw [hrun] at hsteady
  exact ⟨_, hsteady, bind_apply_of_ok _ _ hrun⟩

/-- A single message, sent or not. -/
theorem steady_sendOnly (avps : List AVP) (w : World δ) :
    Steady w (executeTunnelActions hmac [.sendMessage avps] w).2 :=
  Keeps.bind (I := Steady w) (fun w' h => h.trans (steady_executed (executed_send hmac avps w')))
    (fun _ => Keeps.pure ()) w (.refl w)

/-- A StopCCN in front of the actions of a teardown: the rest is reached, or nothing was left
to be announced. -/
theorem tracked_stop (h : Tracked w) {fsm : TunnelFSM} (hfsm : fsm.state ≠ .established)
    {avps : List AVP} (havps : Regular avps) (reason : TunnelDownReason) :
    Tracked (executeTunnelActions hmac
      (TunnelFSM.stopActions w.tunnel.fsm.state avps reason) (w.withFsm fsm)).2 := by
  have hsplit : TunnelFSM.stopActions w.tunnel.fsm.state avps reason
      = .sendMessage avps :: TunnelFSM.dropActions w.tunnel.fsm.state reason := rfl
  rw [hsplit]
  by_cases hup : w.tunnel.fsm.state = .established
  · obtain ⟨w', hw, hrun⟩ := execute_sent hmac (w := w.withFsm fsm)
      ⟨h.sound, h.remoteCcid hup⟩ havps (TunnelFSM.dropActions w.tunnel.fsm.state reason)
    rw [hrun]
    exact tracked_drop hmac h hfsm hw reason
  · have hstart : Tracked (w.withFsm fsm) :=
      h.congr h.sound id (iff_of_false hfsm hup) rfl rfl
    rcases hsend : send hmac avps (w.withFsm fsm) with ⟨e | _, w'⟩
    -- the send raised, so the rest is not reached: nothing was announced either
    · have hsteady := steady_executed (executed_send hmac avps (w.withFsm fsm))
      rw [executeTunnelActions, each, bind_apply_of_error _ _
        (show executeTunnelAction hmac (.sendMessage avps) (w.withFsm fsm) = _ from hsend)]
      rw [hsend] at hsteady
      exact hstart.steady hsteady
    · have hsteady := steady_executed (executed_send hmac avps (w.withFsm fsm))
      rw [executeTunnelActions, each, bind_apply_of_ok _ _
        (show executeTunnelAction hmac (.sendMessage avps) (w.withFsm fsm) = _ from hsend)]
      rw [hsend] at hsteady
      exact tracked_drop hmac h hfsm hsteady reason

/-- **The keepalive** re-arms the timer of a tunnel that is up. -/
theorem tracked_keepalive (hready : w.tunnel.Ready) (hup : w.tunnel.fsm.state = .established)
    (hturn : Alternating false w.notices) (hann : Announced w.notices)
    (hsole : w.tunnel.timer.Sole) (seconds : ℚ) :
    Tracked (executeTunnelActions hmac
      [.sendMessage [messageTypeAvp .hello], .setHelloTimer seconds] w).2 := by
  obtain ⟨w', hw, hrun⟩ := execute_sent hmac hready (singleton_regular .hello)
    [.setHelloTimer seconds]
  have hup' : w'.tunnel.fsm.state = .established := by rw [hw.cascaded.fsm]; exact hup
  have hccid : IsU32 w'.tunnel.peer.remoteCcid := hw.cascaded.link.remoteCcid ▸ hready.remoteCcid
  have hsole' : w'.tunnel.timer.Sole := by rw [hw.timer]; exact hsole
  rw [hrun]
  exact ⟨hw.cascaded.link.sound hready.sound, fun _ => hccid, (hw.notices ▸ hturn :),
    iff_of_true hup' (hw.notices ▸ hann :), iff_of_true hup' (hsole'.isSome_set _), hsole'.set _⟩

/-- **A call of the machine**, its actions executed. It comes up only through a message, which
was acknowledged before it was handed over. -/
theorem Tracked.drive {m : Prog TunnelFSM (List TunnelAction)} (hm : TunnelFSM.Method m)
    (h : Tracked w) (hccid : IsU32 w.tunnel.peer.remoteCcid ∨
      ((m w.tunnel.fsm).2.state = .established → w.tunnel.fsm.state = .established)) :
    Tracked (Tunnel.drive hmac m w).2 := by
  have hout := hm w.tunnel.fsm
  rw [Tunnel.drive, bind_apply, onFsm_apply]
  generalize hr : (m w.tunnel.fsm).1 = r at hout ⊢
  generalize hs' : (m w.tunnel.fsm).2 = s' at hout hccid ⊢
  have hsame : (s'.state = .established ↔ w.tunnel.fsm.state = .established) →
      Tracked (w.withFsm s') := fun hiff => h.congr h.sound id hiff rfl rfl
  -- by what the method did: it stood still, came up, kept the peer alive, or went down
  cases hout with
  | ignored => exact hsame Iff.rfl
  | raised => exact hsame Iff.rfl
  | refused hst => exact hsame Iff.rfl
  | opened hst hb => exact (hsame (by simp [hst])).steady (steady_sendOnly hmac _ _)
  | answered hst hb => exact (hsame (by simp [hst])).steady (steady_sendOnly hmac _ _)
  | connected hst =>
    rename_i fields
    have hu : IsU32 w.tunnel.peer.remoteCcid := hccid.resolve_right fun himp => by simp [hst] at himp
    obtain ⟨w', hw, hrun⟩ := execute_sent hmac
      (w := w.withFsm { w.tunnel.fsm.captured fields with state := .established }) ⟨h.sound, hu⟩
      (singleton_regular .scccn) [.setHelloTimer w.tunnel.fsm.config.helloInterval, .established]
    simp only [hrun]
    exact tracked_up hmac h (by simp [hst]) rfl hw hu _
  | accepted hst =>
    have hu : IsU32 w.tunnel.peer.remoteCcid := hccid.resolve_right fun himp => by simp [hst] at himp
    exact tracked_up hmac h (by simp [hst]) rfl (.refl _) hu _
  | kept hst =>
    exact tracked_keepalive hmac (w := w.withFsm w.tunnel.fsm) ⟨h.sound, h.remoteCcid hst⟩ hst
      h.alternating (h.announced.mp hst) h.sole _
  | stopped _ hb => exact tracked_stop hmac h (by simp) (buildStopccnAvps_regular hb).1 _
  | dropped _ => exact tracked_drop hmac h (by simp) (.refl _) _

omit [Dataplane δ] in
/-- **One timer, and only while the tunnel is up**: the one that `_hello_handle` holds. -/
theorem Tracked.armed_iff (h : Tracked w) : w.tunnel.fsm.state = .established ↔
    ∃ handle, w.tunnel.timer.helloHandle = some handle ∧ w.tunnel.timer.live = [handle] := by
  have hsole : w.tunnel.timer.live = w.tunnel.timer.helloHandle.toList := h.sole
  rw [h.timer, Option.isSome_iff_exists]
  refine exists_congr fun handle => ⟨fun hheld => ⟨hheld, ?_⟩, fun hheld => hheld.1⟩
  rw [hsole, hheld]
  rfl

omit [Dataplane δ] in
/-- A tunnel that is not up has no timer. -/
theorem Tracked.disarmed (h : Tracked w) (hdown : w.tunnel.fsm.state ≠ .established) :
    w.tunnel.timer.helloHandle = none ∧ w.tunnel.timer.live = [] := by
  have hsole : w.tunnel.timer.live = w.tunnel.timer.helloHandle.toList := h.sole
  have hnone : w.tunnel.timer.helloHandle = none := by
    rw [← Option.not_isSome_iff_eq_none]
    exact fun harmed => hdown (h.timer.mpr harmed)
  exact ⟨hnone, by rw [hsole, hnone]; rfl⟩

/-! ## The handlers

Each handler is a change of the peer, followed by at most one call of a machine with its actions. -/

omit [Dataplane δ] in
/-- A peer that received a message, or was ticked. -/
theorem Tracked.received (h : Tracked w) {peer : Peer} (hsound : peer.Sound)
    (hccid : IsU32 w.tunnel.peer.remoteCcid → IsU32 peer.remoteCcid) (wires : List Bytes) :
    Tracked (Tunnel.received w peer wires) :=
  h.congr hsound hccid Iff.rfl rfl rfl

theorem Tracked.dispatch (h : Tracked w) (hccid : IsU32 w.tunnel.peer.remoteCcid)
    (msg : ControlMessage) (delivered : List AVP) :
    Tracked (Tunnel.dispatch hmac msg delivered w).2 := by
  obtain ⟨virtual, -, ⟨e, -, hrun⟩ | ⟨mt, -, -, hrun⟩ | ⟨mt, -, -, hrun⟩⟩ :=
    dispatch_cases hmac msg delivered w
  · rw [hrun]
    exact h
  · rw [hrun]
    have hnoted : Tracked (noted w .session virtual) := h.congr h.sound id Iff.rfl rfl rfl
    -- no message to a session moves the machine
    rcases dispatchSessionMessage_cases hmac virtual mt w with hrun | ⟨_, _, _, sid, -, -, hrun⟩
    · rw [hrun]
      exact hnoted
    · rw [hrun]
      exact hnoted.steady (steady_sessionCall hmac sid _ (onlyIndex_indexRemote sid) _)
  · rw [hrun]
    exact (h.congr h.sound id Iff.rfl rfl rfl : Tracked (noted w .tunnelFsm virtual)).drive hmac
      (TunnelFSM.method_onMessage virtual) (.inl hccid)

/-- A datagram. -/
theorem Tracked.handleDatagram (h : Tracked w) (buf : Bytes) :
    Tracked (Tunnel.handleDatagram hmac buf w).2 := by
  rcases handleDatagram_cases hmac buf w with ⟨e, -, hrun⟩ |
    ⟨msg, ccid, peer, delivered, -, hlearn, hrest⟩
  · rw [hrun]
    exact h
  · have hrecv : ∀ r acks, (w.tunnel.peer.setRemoteCcid ccid).receive msg = (r, peer) →
        Tracked (Tunnel.received w peer acks) := by
      intro r acks hr
      obtain ⟨hsound, hccid, -⟩ := received_frame hlearn hr h.sound
      exact h.received hsound hccid acks
    -- no response; one that cannot be written; one that is, and the hand-over
    rcases hrest with ⟨hr, hrun⟩ | ⟨hr, ⟨e, -, hrun⟩ | ⟨bs, hbs, hrun⟩⟩
    · rw [hrun]
      exact hrecv _ [] hr
    · rw [hrun]
      exact hrecv _ [] hr
    · rw [hrun]
      split
      · -- the acknowledgement was written, so the peer CCID fits the header
        have hu : IsU32 peer.remoteCcid :=
          (received_frame hlearn hr h.sound).2.1 (isU32_of_acked h.sound hlearn hr hbs)
        exact (hrecv _ [bs] hr).dispatch hmac hu msg delivered
      · exact hrecv _ [bs] hr

/-- A tick: a dead peer takes the tunnel down. -/
theorem Tracked.tick (h : Tracked w) (now : ℚ) : Tracked (Tunnel.tick hmac now w).2 := by
  have hframe := Peer.tick_frame w.tunnel.peer now h.sound
  have hticked : ∀ r peer resends, w.tunnel.peer.tick now = (r, peer) →
      Tracked (Tunnel.received w peer resends) := by
    intro r peer resends hr
    rw [hr] at hframe
    exact h.received hframe.1 (fun hu => hframe.2.2.1 ▸ hu) resends
  rcases tick_cases hmac now w with ⟨e, peer, hr, hrun⟩ | ⟨resends, dead, peer, hr, hrun⟩
  · rw [hrun]
    exact hticked _ peer [] hr
  · rw [hrun]
    split
    · rw [bind_pure_snd]
      refine (hticked _ peer resends hr).drive hmac TunnelFSM.method_onPeerDead (.inr fun hup => ?_)
      rw [(TunnelFSM.local_state _).2.2.2] at hup
      cases hup
    · exact hticked _ peer resends hr

/-- After the machine was told to close, it is not up. -/
theorem onLocalClose_down {s : TunnelFSM} {actions : List TunnelAction}
    (h : (TunnelFSM.onLocalClose ResultCode.adminShutdown.code s).1 = .ok actions) :
    (TunnelFSM.onLocalClose ResultCode.adminShutdown.code s).2.state ≠ .established := by
  by_cases hs : s.state = .idle ∨ s.state = .sendStopccn
  · rcases hs with hs | hs <;> simp [TunnelFSM.onLocalClose, hs]
  · cases havps : buildStopccnAvps s.config.localCcid ResultCode.adminShutdown.code with
    | error e => simp [TunnelFSM.onLocalClose, hs, havps] at h
    | ok avps => simp [TunnelFSM.onLocalClose, hs, havps, TunnelFSM.transition]

/-- A close, which clears the handle once more. -/
theorem Tracked.close (h : Tracked w) : Tracked (Tunnel.close hmac w).2 := by
  have hlocal := TunnelFSM.local_state w.tunnel.fsm
  have hclosed := h.drive hmac (TunnelFSM.method_onLocalClose ResultCode.adminShutdown.code)
    (.inr hlocal.2.1)
  have hfsm := drive_fsm hmac (TunnelFSM.onLocalClose ResultCode.adminShutdown.code) w
  rw [Tunnel.close, bind_apply]
  rcases hd : Tunnel.drive hmac (TunnelFSM.onLocalClose ResultCode.adminShutdown.code) w with
    ⟨e | _, w'⟩
  · rw [hd] at hclosed
    exact hclosed
  · -- the handle is cleared once more, on a tunnel that is down
    rw [hd] at hclosed hfsm
    obtain ⟨actions, hactions⟩ : ∃ actions,
        (TunnelFSM.onLocalClose ResultCode.adminShutdown.code w.tunnel.fsm).1 = .ok actions := by
      cases hr : (TunnelFSM.onLocalClose ResultCode.adminShutdown.code w.tunnel.fsm).1 with
      | ok actions => exact ⟨actions, rfl⟩
      | error e =>
        rw [Tunnel.drive, bind_apply_of_error _ _ (by rw [onFsm_apply, hr])] at hd
        cases hd
    have hdown : w'.tunnel.fsm.state ≠ .established := by
      rw [hfsm]
      exact onLocalClose_down hactions
    exact ⟨hclosed.sound, fun hup => absurd hup hdown, hclosed.alternating, hclosed.announced,
      iff_of_false hdown hclosed.sole.isSome_clear, hclosed.sole.clear⟩

/-- The callback runs: its handle is spent, and a new one is armed. -/
theorem Tracked.helloTimer (h : Tracked w) (harmed : w.tunnel.timer.armed = true) :
    Tracked (Tunnel.onHelloTimer hmac (w.mapTimer HelloTimer.elapse)).2 := by
  have hup := h.timer.mpr ((HelloTimer.armed_iff h.sole).mp harmed)
  generalize hw₀ : (w.mapTimer HelloTimer.elapse).mapTimer HelloTimer.forget = w₀
  have hup₀ : w₀.tunnel.fsm.state = .established := by rw [← hw₀]; exact hup
  have hsole : w₀.tunnel.timer.Sole := by rw [← hw₀]; exact h.sole.elapse
  have hcall : onFsm TunnelFSM.onHelloTimer w₀
      = (.ok [.sendMessage [messageTypeAvp .hello],
          .setHelloTimer w₀.tunnel.fsm.config.helloInterval], w₀) := by
    rw [onFsm_apply]
    simp [TunnelFSM.onHelloTimer, hup₀, buildHelloAvps_eq, withFsm, mapTunnel]
  have hready : w₀.tunnel.Ready := by rw [← hw₀]; exact ⟨h.sound, h.remoteCcid hup⟩
  have hturn : Alternating false w₀.notices := by rw [← hw₀]; exact h.alternating
  have hann : Announced w₀.notices := by rw [← hw₀]; exact h.announced.mp hup
  rw [Tunnel.onHelloTimer, modify_bind_apply, hw₀, Tunnel.drive, bind_apply_of_ok _ _ hcall]
  exact tracked_keepalive hmac hready hup₀ hturn hann hsole _

/-- **One step.** -/
theorem Tracked.step (h : Tracked w) (e : Tunnel.Event) : Tracked (Tunnel.step hmac w e) := by
  have hlocal := TunnelFSM.local_state w.tunnel.fsm
  cases e with
  | start => exact h.drive hmac TunnelFSM.method_onLocalOpen (.inr hlocal.1)
  | close => exact h.close hmac
  | datagram buf => exact h.handleDatagram hmac buf
  | tick now =>
    rw [Tunnel.step, handle, bind_pure_snd]
    exact h.tick hmac now
  | helloTimer =>
    rw [Tunnel.step, handle, get_bind_apply]
    split
    · rename_i harmed
      rw [modify_bind_apply]
      exact h.helloTimer hmac harmed
    · exact h
  | closeSession sid resultCode =>
    exact h.steady (steady_sessionCall hmac sid (SessionFSM.onLocalClose resultCode) onlyIndex_id w)

omit [Dataplane δ] in
/-- **At the start** nothing is announced and nothing is armed. -/
theorem tracked_init (cfg : TunnelConfigEntry) (dataplane : Option δ) (clock : Nat → ℚ) :
    Tracked (World.init cfg dataplane clock) where
  sound := Peer.sound_init _ _ _ _ _
  remoteCcid := by simp [World.init, Tunnel.init]
  alternating := trivial
  announced := by simp [World.init, Tunnel.init, Announced]
  timer := by simp [World.init, Tunnel.init]
  sole := HelloTimer.sole_init

/-! ## Where a HELLO leaves the tunnel

A HELLO is sent by the keepalive, and again by a tick as long as it is queued. The first is a call
of the machine and finds it up; the second finds it in any state. `Hushed` covers the steps that do
neither, and `Unvoiced` those that only repeat what was in the queue. -/

/-- The datagram is a HELLO. -/
def isHello (bs : Bytes) : Bool :=
  match ControlMessage.decode bs with
  | .ok msg => getMessageType msg.avps = .ok (some MessageType.hello.code)
  | .error _ => false

omit [Dataplane δ] in
/-- A datagram of another message is no HELLO. -/
theorem isHello_wire {cfg : TunnelConfigEntry} {msg : ControlMessage} {bs : Bytes} {mt : MessageType}
    (h : wire hmac cfg msg = .ok bs) (hmt : mt ≠ .hello) (htag : Tagged mt msg.avps) :
    isHello bs = false := by
  obtain ⟨digest, -, hdec⟩ := decode_of_wire hmac h
  have htag' : Tagged mt (msg.avps ++ digest) := by
    rw [Tagged, List.head?_append_of_ne_nil _ htag.ne_nil]
    exact htag
  simp only [isHello, hdec, getMessageType_of_tagged htag', decide_eq_false_iff_not,
    Except.ok.injEq, Option.some.injEq]
  revert hmt
  cases mt <;> decide

omit [Dataplane δ] in
theorem isHello_ack {peer : Peer} {bs : Bytes} (h : peer.ackOnly.encode = .ok bs) :
    isHello bs = false := by
  simp [isHello, ControlMessage.decode_of_encode h, Peer.ackOnly, getMessageType, findAvp]

/-- A queued HELLO. -/
def QueuedHello (pending : PendingSend) : Prop :=
  getMessageType pending.msg.avps = .ok (some MessageType.hello.code)

omit [Dataplane δ] in
/-- A message of another type in the queue is no HELLO. -/
theorem not_queuedHello {pending : PendingSend} {mt : MessageType} (hmt : mt ≠ .hello)
    (htag : Tagged mt pending.msg.avps) : ¬ QueuedHello pending := by
  simp only [QueuedHello, getMessageType_of_tagged htag, Except.ok.injEq, Option.some.injEq]
  revert hmt
  cases mt <;> decide

/-- From `w₀` to `w` no HELLO was sent or queued. -/
structure Hushed (w₀ w : World δ) : Prop where
  sent : ∃ out, w.sent = w₀.sent ++ out ∧ ∀ bs ∈ out, isHello bs = false
  queue : ∀ pending ∈ w.tunnel.peer.sendQueue, QueuedHello pending →
    ∃ old ∈ w₀.tunnel.peer.sendQueue, old.content = pending.content

omit [Dataplane δ] in
theorem Hushed.refl (w : World δ) : Hushed w w :=
  ⟨⟨[], by simp, by simp⟩, fun pending hmem _ => ⟨pending, hmem, rfl⟩⟩

omit [Dataplane δ] in
/-- What leaves the peer and the datagrams alone is hushed. -/
theorem Hushed.of_eq {w₀ : World δ} (h : Hushed w₀ w) (hpeer : w'.tunnel.peer = w.tunnel.peer)
    (hsent : w'.sent = w.sent) : Hushed w₀ w' :=
  ⟨hsent ▸ h.sent, hpeer ▸ h.queue⟩

omit [Dataplane δ] in
theorem hushed_send {w₀ : World δ} {avps : List AVP} {mt : MessageType} (hmt : mt ≠ .hello)
    (htag : Tagged mt avps) : Keeps (Hushed w₀) (Tunnel.send (δ := δ) hmac avps) := by
  intro w h
  have hqueue : ∀ msg peer, w.tunnel.peer.send avps (w.clock 0) = .ok (msg, peer) →
      ∀ pending ∈ peer.sendQueue, QueuedHello pending →
        ∃ old ∈ w₀.tunnel.peer.sendQueue, old.content = pending.content := by
    intro msg peer hsend pending hmem hhello
    obtain ⟨-, rfl, encoded, -, rfl⟩ := Peer.send_eq_ok.mp hsend
    rcases List.mem_append.mp hmem with hold | hnew
    · exact h.queue pending hold hhello
    · obtain rfl := List.mem_singleton.mp hnew
      exact absurd hhello (not_queuedHello hmt htag)
  rcases send_cases hmac avps w with ⟨e, -, hrun⟩ | ⟨msg, peer, hsend, ⟨e, -, hrun⟩ | ⟨bs, hbs, hrun⟩⟩
  · rw [hrun]
    exact h.of_eq rfl rfl
  · rw [hrun]
    exact ⟨h.sent, hqueue msg peer hsend⟩
  · obtain ⟨out, hout, hall⟩ := h.sent
    have hsent : isHello bs = false := by
      obtain ⟨-, rfl, -⟩ := Peer.send_eq_ok.mp hsend
      exact isHello_wire hmac hbs hmt htag
    rw [hrun]
    exact ⟨⟨out ++ [bs], by simp [hout], List.forall_mem_append.mpr ⟨hall, by simpa using hsent⟩⟩,
      hqueue msg peer hsend⟩

omit [Dataplane δ] in
/-- A session sends no HELLO. -/
theorem hushed_sessions (w₀ : World δ) : StandsSessions hmac (Hushed w₀) := by
  intro s s' actions avps hout hmem
  obtain ⟨mt, hmt, htag⟩ := hout.tagged hmem
  refine hushed_send hmac ?_ htag
  rintro rfl
  simp at hmt

theorem hushed_sessionCall {m : Prog SessionFSM (List SessionAction)} (hm : SessionFSM.Method m)
    (sid : Int) {w₀ : World δ} {g : Tunnel → Tunnel} (hg : OnlyIndex g) :
    Keeps (Hushed w₀) (callSession hmac sid m g) :=
  keeps_callSession hmac (fun _ _ _ _ h => h.of_eq rfl rfl) (fun _ _ _ h => h.of_eq rfl rfl)
    (hushed_sessions hmac w₀) hm sid hg

/-- The tunnel was up and stayed up. -/
def StayedUp (w w' : World δ) : Prop :=
  w.tunnel.fsm.state = .established ∧ w'.tunnel.fsm.state = .established

/-- **A call of the machine** that sends a HELLO finds the tunnel up and leaves it up. -/
theorem hushed_drive {m : Prog TunnelFSM (List TunnelAction)} (hm : TunnelFSM.Method m) {w₀ : World δ}
    (h : Hushed w₀ w) : Hushed w₀ (Tunnel.drive hmac m w).2 ∨ StayedUp w (Tunnel.drive hmac m w).2 := by
  by_cases hup : w.tunnel.fsm.state = .established ∧ (m w.tunnel.fsm).2.state = .established
  · exact .inr ⟨hup.1, by rw [drive_fsm]; exact hup.2⟩
  · refine .inl (keeps_callMachine hmac (fun _ _ _ _ h => h.of_eq rfl rfl)
      (fun _ _ _ _ h => h.of_eq rfl rfl) (fun _ _ _ h => h.of_eq rfl rfl)
      (hushed_sessions hmac w₀) (h.of_eq rfl rfl) ?_)
    intro actions avps hr hmem
    have hout := hm w.tunnel.fsm
    rw [hr] at hout
    obtain ⟨mt, -, htag, hhello⟩ := hout.tagged hmem
    exact hushed_send hmac (fun hmt => hup (hhello hmt)) htag

/-- **A datagram** sends a HELLO only where the tunnel was up and stays up. -/
theorem hushed_handleDatagram (buf : Bytes) (w : World δ) :
    Hushed w (Tunnel.handleDatagram hmac buf w).2 ∨
      StayedUp w (Tunnel.handleDatagram hmac buf w).2 := by
  rcases handleDatagram_cases hmac buf w with ⟨e, -, hrun⟩ |
    ⟨msg, ccid, peer, delivered, -, -, hrest⟩
  · exact .inl (hrun ▸ .refl w)
  · have hrecv : ∀ r acks, (w.tunnel.peer.setRemoteCcid ccid).receive msg = (r, peer) →
        (∀ bs ∈ acks, isHello bs = false) → Hushed w (received w peer acks) := by
      intro r acks hr hacks
      refine ⟨⟨acks, rfl, hacks⟩, fun pending hmem _ => ⟨pending, ?_, rfl⟩⟩
      have hmem' : pending ∈ ((w.tunnel.peer.setRemoteCcid ccid).receive msg).2.sendQueue := by
        rw [hr]
        exact hmem
      have hold := Peer.mem_sendQueue_receive hmem'
      exact hold
    -- no response; one that cannot be written; one that is, and the hand-over
    rcases hrest with ⟨hr, hrun⟩ | ⟨hr, ⟨e, -, hrun⟩ | ⟨bs, hbs, hrun⟩⟩
    · exact .inl (hrun ▸ hrecv _ [] hr (by simp))
    · exact .inl (hrun ▸ hrecv _ [] hr (by simp))
    · have hacked := hrecv _ [bs] hr (by simpa using isHello_ack hbs)
      rw [hrun]
      split
      · obtain ⟨virtual, -, ⟨e, -, hd⟩ | ⟨mt, -, -, hd⟩ | ⟨mt, -, -, hd⟩⟩ :=
          dispatch_cases hmac msg delivered (received w peer [bs])
        · exact .inl (hd ▸ hacked)
        · rw [hd]
          refine .inl ?_
          rcases dispatchSessionMessage_cases hmac virtual mt (received w peer [bs]) with
            hd | ⟨_, _, _, sid, -, -, hd⟩
          · exact hd ▸ hacked.of_eq rfl rfl
          · rw [hd]
            exact hushed_sessionCall hmac (SessionFSM.method_onMessage virtual) sid
              (onlyIndex_indexRemote sid) _ (hacked.of_eq rfl rfl)
        · rw [hd]
          exact hushed_drive hmac (TunnelFSM.method_onMessage virtual)
            (w := noted (received w peer [bs]) .tunnelFsm virtual) (hacked.of_eq rfl rfl)
      · exact .inl hacked

/-- The datagram is what a tick makes of a message of the queue. -/
def Resent (w : World δ) (bs : Bytes) : Prop :=
  ∃ pending ∈ w.tunnel.peer.sendQueue,
    ControlMessage.encode { pending.msg with nr := w.tunnel.peer.nrExpect } = .ok bs

/-- Every HELLO of the step is resent by a tick, and every one in the queue was there before. -/
structure Unvoiced (w : World δ) (e : Tunnel.Event) (w' : World δ) : Prop where
  sent : ∃ out, w'.sent = w.sent ++ out ∧ ∀ bs ∈ out, isHello bs = true →
    (∃ now, e = .tick now) ∧ Resent w bs
  queue : ∀ pending ∈ w'.tunnel.peer.sendQueue, QueuedHello pending →
    ∃ old ∈ w.tunnel.peer.sendQueue, old.content = pending.content

omit [Dataplane δ] in
/-- A hushed step sends no HELLO that was not in the queue. -/
theorem Hushed.unvoiced (h : Hushed w w') (e : Tunnel.Event) : Unvoiced w e w' := by
  obtain ⟨out, hout, hall⟩ := h.sent
  refine ⟨⟨out, hout, fun bs hbs hhello => ?_⟩, h.queue⟩
  rw [hall bs hbs] at hhello
  cases hhello

omit [Dataplane δ] in
/-- A tick of the peer: the queue keeps its messages, and what is resent is of the queue. -/
theorem unvoiced_ticked {now : ℚ} {result : Except Exn (List Bytes × Bool)} {peer : Peer}
    {resends : List Bytes} (htick : w.tunnel.peer.tick now = (result, peer))
    (hres : ∀ bs ∈ resends, ∃ r, result = .ok r ∧ bs ∈ r.1) :
    Unvoiced w (.tick now) (received w peer resends) := by
  rcases Peer.tick_cases w.tunnel.peer now with ⟨-, ht⟩ | ⟨-, queue, result', hloop, hrest⟩
  · rw [ht] at htick
    cases htick
    refine ⟨⟨resends, rfl, fun bs hbs => ?_⟩, fun pending hmem _ => ⟨pending, hmem, rfl⟩⟩
    obtain ⟨_, ⟨⟩, hmem⟩ := hres bs hbs
    cases hmem
  · have hcontent := Peer.tickLoop_content now w.tunnel.peer.nrExpect w.tunnel.peer.maxRetries
      w.tunnel.peer.sendQueue
    rw [hloop] at hcontent
    have hold : ∀ pending ∈ queue, ∃ old ∈ w.tunnel.peer.sendQueue, old.content = pending.content := by
      intro pending hmem
      exact List.mem_map.mp (hcontent ▸ List.mem_map_of_mem hmem)
    -- the queue was gone through, or it raised
    rcases hrest with ⟨resend, dead, rfl, ht⟩ | ⟨e, rfl, ht⟩
    · rw [ht] at htick
      cases htick
      refine ⟨⟨resends, rfl, fun bs hbs _ => ⟨⟨now, rfl⟩, ?_⟩⟩, fun pending hmem _ => hold pending hmem⟩
      obtain ⟨_, ⟨⟩, hmem⟩ := hres bs hbs
      exact Peer.mem_resend hloop hmem
    · rw [ht] at htick
      cases htick
      refine ⟨⟨resends, rfl, fun bs hbs _ => ?_⟩, fun pending hmem _ => hold pending hmem⟩
      obtain ⟨_, ⟨⟩, -⟩ := hres bs hbs

/-- **A tick** resends the HELLOs of the queue, and sends none of its own. -/
theorem unvoiced_tick (now : ℚ) (w : World δ) :
    Unvoiced w (.tick now) (Tunnel.tick hmac now w).2 := by
  rcases tick_cases hmac now w with ⟨e, peer, hr, hrun⟩ | ⟨resends, dead, peer, hr, hrun⟩
  · rw [hrun]
    exact unvoiced_ticked hr (by simp)
  · have hticked : Unvoiced w (.tick now) (received w peer resends) :=
      unvoiced_ticked hr fun bs hbs => ⟨_, rfl, hbs⟩
    rw [hrun]
    split
    · -- the teardown of a dead peer ends in IDLE, so it sends no HELLO of its own
      rw [bind_pure_snd]
      have hdown := (hushed_drive hmac TunnelFSM.method_onPeerDead (.refl (received w peer resends))
        ).resolve_right fun hup => by
          rw [StayedUp, drive_fsm, (TunnelFSM.local_state _).2.2.2] at hup
          cases hup.2
      obtain ⟨out, hout, hall⟩ := hdown.sent
      obtain ⟨first, hfirst, hresent⟩ := hticked.sent
      refine ⟨⟨first ++ out, by rw [hout, hfirst, List.append_assoc], fun bs hbs hhello => ?_⟩,
        fun pending hmem hhello => ?_⟩
      · rcases List.mem_append.mp hbs with hbs | hbs
        · exact hresent bs hbs hhello
        · rw [hall bs hbs] at hhello
          cases hhello
      · obtain ⟨mid, hmid, hcontent⟩ := hdown.queue pending hmem hhello
        have hmidHello : QueuedHello mid := by
          rw [QueuedHello, show mid.msg.avps = pending.msg.avps from congrArg (·.2.2) hcontent]
          exact hhello
        obtain ⟨old, hold, hcontent'⟩ := hticked.queue mid hmid hmidHello
        exact ⟨old, hold, hcontent'.trans hcontent⟩
    · exact hticked

/-- **A step that sends a HELLO other than by resending it** finds the tunnel up and leaves
it up. -/
theorem unvoiced_step (w : World δ) (e : Tunnel.Event) :
    Unvoiced w e (Tunnel.step hmac w e) ∨ StayedUp w (Tunnel.step hmac w e) := by
  -- arming or clearing the timer sends nothing
  have htimer : ∀ f, ∀ w' : World δ, Hushed w w' → Hushed w (w'.mapTimer f) :=
    fun _ _ h => h.of_eq rfl rfl
  cases e with
  | start =>
    exact (hushed_drive hmac TunnelFSM.method_onLocalOpen (.refl w)).imp_left (Hushed.unvoiced · _)
  | close =>
    have hclose := hushed_drive hmac
      (TunnelFSM.method_onLocalClose ResultCode.adminShutdown.code) (.refl w)
    rw [Tunnel.step, handle, Tunnel.close, bind_apply]
    rcases hd : Tunnel.drive hmac (TunnelFSM.onLocalClose ResultCode.adminShutdown.code) w with
      ⟨e | _, w'⟩
    · rw [hd] at hclose
      exact hclose.imp_left (Hushed.unvoiced · _)
    · rw [hd] at hclose
      exact hclose.imp_left fun h => (htimer _ w' h).unvoiced _
  | datagram buf => exact (hushed_handleDatagram hmac buf w).imp_left (Hushed.unvoiced · _)
  | tick now =>
    rw [Tunnel.step, handle, bind_pure_snd]
    exact .inl (unvoiced_tick hmac now w)
  | helloTimer =>
    rw [Tunnel.step, handle, get_bind_apply]
    split
    · exact (hushed_drive hmac TunnelFSM.method_onHelloTimer
        (htimer _ _ (htimer _ w (.refl w)))).imp_left (Hushed.unvoiced · _)
    · exact .inl ((Hushed.refl w).unvoiced _)
  | closeSession sid resultCode =>
    exact .inl ((hushed_sessionCall hmac (SessionFSM.method_onLocalClose resultCode) sid
      onlyIndex_id w (.refl w)).unvoiced _)

/-! ## Runs

The invariant holds at the start and is kept by every step; the sentence about the HELLO is about
one step from a state that is reached. -/

/-- **The notices and the timer track the machine**, and a HELLO that is not a retransmission is
sent while the tunnel is up. The timer is the loop's own: exactly the handle that the tunnel holds
is still to run while it is up, and none otherwise. All but the sentence about the HELLO is
`Tracked`. -/
theorem notices_track (hmac : Hmac) (cfg : TunnelConfigEntry) (dataplane : Option δ)
    (clock : Nat → ℚ) {w : World δ} (hw : Transition.Reach (Tunnel.step hmac) (fun _ _ => True)
      (World.init cfg dataplane clock) w) :
    Alternating false w.notices ∧
    (w.tunnel.fsm.state = .established ↔ w.notices.getLast? = some .established) ∧
    (w.tunnel.fsm.state = .established ↔ ∃ handle, w.tunnel.timer.helloHandle = some handle ∧
      w.tunnel.timer.live = [handle]) ∧
    (w.tunnel.fsm.state ≠ .established →
      w.tunnel.timer.helloHandle = none ∧ w.tunnel.timer.live = []) ∧
    (∀ e, Unvoiced w e (Tunnel.step hmac w e) ∨ StayedUp w (Tunnel.step hmac w e)) ∧
    ∀ now w', Tunnel.tick hmac now w = (.ok true, w') →
      w'.tunnel.timer.helloHandle = none ∧ w'.tunnel.timer.live = [] := by
  have htracked : Tracked w :=
    hw.invariant (tracked_init cfg dataplane clock) fun _ e h _ => h.step hmac e
  refine ⟨htracked.alternating, htracked.announced, htracked.armed_iff, htracked.disarmed,
    unvoiced_step hmac w, ?_⟩
  intro now w' htick
  have hticked := htracked.tick hmac now
  rw [htick] at hticked
  have hidle := tick_dead hmac htick
  exact hticked.disarmed (by rw [hidle]; decide)

/-- The SCCRP of the peer of `spoke`. -/
def reply : Bytes :=
  (ControlMessage.mk 100 0 1 [messageTypeAvp .sccrp, ietfAvp .routerId (beBytes 4 2) true,
    ietfAvp .assignedControlConnectionId (beBytes 4 200) true,
    ietfAvp .pseudowireCapabilitiesList [0, 5] true, ietfAvp .hostName (utf8 "peer") true]).wire

/-- `spoke` after some events. -/
def spokeAfter (es : List Tunnel.Event) : World MockDataplane :=
  es.foldl (Tunnel.step ControlMessage.sumHmac) Dispatch.spokeInit

/-- The tunnel comes up and sends a keepalive. -/
theorem notices_track_keepalive :
    let w := spokeAfter [.start, .datagram reply, .helloTimer]
    w.tunnel.fsm.state = .established ∧ w.notices = [.established] ∧
      w.tunnel.timer.live.length = 1 := by
  have hreach : Transition.Reach (Tunnel.step ControlMessage.sumHmac) (fun _ _ => True)
      (World.init Dispatch.spoke none fun _ => 0)
      (spokeAfter [.start, .datagram reply, .helloTimer]) :=
    (((Transition.Reach.start).next trivial).next trivial).next trivial
  have htrack := notices_track ControlMessage.sumHmac Dispatch.spoke none (fun _ => 0) hreach
  have hnotices : (spokeAfter [.start, .datagram reply, .helloTimer]).notices = [.established] := by
    decide +kernel
  have hup := htrack.2.1.mpr (by rw [hnotices]; rfl)
  obtain ⟨handle, -, hlive⟩ := htrack.2.2.1.mp hup
  exact ⟨hup, hnotices, by rw [hlive]; rfl⟩

/-- Closed before its keepalive was acknowledged, the tunnel resends it while it stops. -/
theorem hello_resent_stopping :
    let w := spokeAfter [.start, .datagram reply, .helloTimer, .close]
    let w' := Tunnel.step ControlMessage.sumHmac w (.tick 2)
    w.tunnel.fsm.state = .sendStopccn ∧ w'.tunnel.fsm.state = .sendStopccn ∧
      (w'.sent.drop w.sent.length).any isHello = true := by
  decide +kernel

end Notices

end L2tpv3d
