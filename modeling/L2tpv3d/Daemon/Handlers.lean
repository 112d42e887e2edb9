import L2tpv3d.Daemon.Frame

/-!
# L2tpv3d — invariants of the sessions and their dataplane

An invariant that ties the session machines to the dataplane is broken between the call of a
machine and the execution of the actions it returned. What it must stand is therefore stated
for the two together.

* `Survives hmac I` — `I` stands the moves of the transport and of the timer, the call of a
  session with the execution of its actions, and the teardown of the tunnel. A session comes
  up only by a message, which was acknowledged before: the peer CCID then fits the header.
* **`Survives.handle`** — then every handler keeps `I`, whether it returns or raises.
-/

namespace L2tpv3d

open Py Prog

namespace SessionFSM

/-- The method brings no session up. -/
def NeverRises (m : Prog SessionFSM (List SessionAction)) : Prop :=
  ∀ s, s.state ≠ .established → (m s).2.state ≠ .established

/-- The ICRQ opens a session, it does not bring it up. -/
theorem neverRises_onTunnelEstablished : NeverRises onTunnelEstablished := by
  intro s hs
  unfold onTunnelEstablished
  rw [get_bind_apply]
  split
  · exact hs
  -- only an idle initiator calls
  · split
    · exact hs
    · cases havps : buildIcrqAvps s.config.callArgs s.config.pseudowireType (some s.config.name)
        s.config.cookie with
      | error e => exact hs
      | ok avps => simp [transition]

/-- Nothing is up after the tunnel has gone down. -/
theorem neverRises_onTunnelDown : NeverRises onTunnelDown := by
  intro s _
  rw [Tunnel.onTunnelDown_eq]
  simp

theorem neverRises_onLocalClose (resultCode : Int) : NeverRises (onLocalClose resultCode) := by
  intro s hs
  unfold onLocalClose
  rw [get_bind_apply]
  split
  · exact hs
  · cases havps : buildCdnAvps s.config.localSid s.peerSid resultCode with
    | error e => exact hs
    | ok avps => simp [transition]

end SessionFSM

namespace Tunnel

open World

variable {δ : Type} {hmac : Hmac} {I : World δ → Prop}

/-- Every session knows the key that it is under, and the CCID of its tunnel. -/
def Keyed (t : Tunnel) : Prop :=
  ∀ sid s, t.sessionsByLocal.get? sid = some s →
    s.config.localSid = sid ∧ s.config.localCcid = t.cfg.localCcid

/-- A new tunnel holds every session under its own ID. -/
theorem keyed_init (cfg : TunnelConfigEntry) : (Tunnel.init cfg).Keyed := by
  intro sid s hs
  obtain ⟨scfg, -, rfl, rfl⟩ := get?_init hs
  exact ⟨rfl, rfl⟩

/-- No method changes the configuration of its session. -/
theorem Keyed.withSession {w : World δ} (h : w.tunnel.Keyed) {sid : Int} {s s' : SessionFSM}
    (hget : w.tunnel.sessionsByLocal.get? sid = some s) (hconfig : s'.config = s.config) :
    (w.withSession sid s').tunnel.Keyed := by
  intro sid' t ht
  rw [get?_withSession] at ht
  -- the session written back, and any other
  split at ht
  · rename_i heq
    cases ht
    rw [hconfig, ← heq]
    exact h sid s hget
  · exact h sid' t ht

/-- Neither the sessions nor the dataplane moved, and a peer CCID that fitted the header still
does. -/
structure Moved (w w' : World δ) : Prop where
  cfg : w'.tunnel.cfg = w.tunnel.cfg
  sessionsByLocal : w'.tunnel.sessionsByLocal = w.tunnel.sessionsByLocal
  sound : w'.tunnel.peer.Sound
  remoteCcid : IsU32 w.tunnel.peer.remoteCcid → IsU32 w'.tunnel.peer.remoteCcid
  dataplane : w'.dataplane = w.dataplane
  tunnelDpAdded : w'.tunnel.tunnelDpAdded = w.tunnel.tunnelDpAdded
  faults : w'.faults = w.faults

/-- Sending moves nothing of the dataplane. -/
theorem send_aside (hmac : Hmac) (avps : List AVP) (w : World δ) :
    (send hmac avps w).2.dataplane = w.dataplane ∧
      (send hmac avps w).2.tunnel.tunnelDpAdded = w.tunnel.tunnelDpAdded ∧
      (send hmac avps w).2.faults = w.faults := by
  rcases send_cases hmac avps w with ⟨_, -, hrun⟩ | ⟨_, _, -, ⟨_, -, hrun⟩ | ⟨_, -, hrun⟩⟩ <;>
    exact hrun ▸ ⟨rfl, rfl, rfl⟩

theorem moved_send (hmac : Hmac) {w : World δ} (hsound : w.tunnel.peer.Sound) (avps : List AVP) :
    Moved w (send hmac avps w).2 := by
  have hex := executed_send hmac avps w
  obtain ⟨hdp, hadded, hfaults⟩ := send_aside hmac avps w
  exact ⟨hex.cfg, hex.sessionsByLocal, hex.link.sound hsound,
    fun hccid => hex.link.remoteCcid ▸ hccid, hdp, hadded, hfaults⟩

/-- A change of the peer that keeps its counters sound. -/
theorem moved_received {w : World δ} {peer : Peer} (hsound : peer.Sound)
    (hccid : IsU32 w.tunnel.peer.remoteCcid → IsU32 peer.remoteCcid) (wires : List Bytes) :
    Moved w (received w peer wires) :=
  ⟨rfl, rfl, hsound, hccid, rfl, rfl, rfl⟩

variable [Dataplane δ]

/-- What an invariant must stand to survive the handlers. -/
structure Survives (hmac : Hmac) (I : World δ → Prop) : Prop where
  sound : ∀ {w}, I w → w.tunnel.peer.Sound
  moved : ∀ {w w'}, I w → Moved w w' → I w'
  /-- The by-remote index may be touched between the call and its actions. -/
  called : ∀ {m : Prog SessionFSM (List SessionAction)}, SessionFSM.Method m → ∀ (sid : Int)
    {g : Tunnel → Tunnel}, (∀ t, ∃ r, g t = { t with sessionsByRemote := r }) → ∀ {w}, I w →
    IsU32 w.tunnel.peer.remoteCcid ∨ SessionFSM.NeverRises m →
    I ((do
      let actions ← onSession sid m
      modify (mapTunnel g)
      executeSessionActions hmac actions : Prog (World δ) Unit) w).2
  tornDown : ∀ reason, Keeps I (executeTunnelAction hmac (.tornDown reason))

namespace Survives

variable (hI : Survives hmac I)

include hI

theorem aside {w w' : World δ} (h : I w) (hcfg : w'.tunnel.cfg = w.tunnel.cfg)
    (hsess : w'.tunnel.sessionsByLocal = w.tunnel.sessionsByLocal)
    (hpeer : w'.tunnel.peer = w.tunnel.peer) (hdp : w'.dataplane = w.dataplane)
    (hadded : w'.tunnel.tunnelDpAdded = w.tunnel.tunnelDpAdded) (hfaults : w'.faults = w.faults) :
    I w' :=
  hI.moved h ⟨hcfg, hsess, hpeer ▸ hI.sound h, hpeer ▸ id, hdp, hadded, hfaults⟩

/-- A call that never brings a session up. -/
theorem sessionCall {m : Prog SessionFSM (List SessionAction)} (hm : SessionFSM.Method m)
    (hrise : SessionFSM.NeverRises m) (sid : Int) : Keeps I (callSession hmac sid m id) :=
  fun _ h => hI.called hm sid onlyIndex_id h (.inr hrise)

theorem sessionCalls {m : Prog SessionFSM (List SessionAction)} (hm : SessionFSM.Method m)
    (hrise : SessionFSM.NeverRises m) : Keeps I (eachSession hmac m) :=
  keeps_eachSession hmac fun sid => hI.sessionCall hm hrise sid

theorem tunnelAction (a : TunnelAction) : Keeps I (executeTunnelAction hmac a) := by
  cases a with
  | sendMessage avps => exact fun w h => hI.moved h (moved_send hmac (hI.sound h) avps)
  | setHelloTimer seconds => exact fun w h => hI.aside h rfl rfl rfl rfl rfl rfl
  | clearHelloTimer => exact fun w h => hI.aside h rfl rfl rfl rfl rfl rfl
  | established =>
    exact Keeps.bind (Keeps.modify fun w h => hI.aside h rfl rfl rfl rfl rfl rfl) fun _ =>
      hI.sessionCalls SessionFSM.method_onTunnelEstablished
        SessionFSM.neverRises_onTunnelEstablished
  | tornDown reason => exact hI.tornDown reason

theorem drive (m : Prog TunnelFSM (List TunnelAction)) : Keeps I (Tunnel.drive hmac m) :=
  Keeps.bind (fun _ h => hI.aside h rfl rfl rfl rfl rfl rfl) fun _ =>
    Keeps.each fun a _ => hI.tunnelAction a

/-- A session closed by the daemon. -/
theorem closeSession (sid resultCode : Int) : Keeps I (Tunnel.closeSession hmac sid resultCode) :=
  hI.sessionCall (SessionFSM.method_onLocalClose resultCode)
    (SessionFSM.neverRises_onLocalClose resultCode) sid

/-- A dispatched session message. It reaches a session only when the acknowledgement before
it could be sent. -/
theorem dispatchSession {w : World δ} (h : I w) (hccid : IsU32 w.tunnel.peer.remoteCcid)
    (msg : ControlMessage) (mt : Int) : I (dispatchSessionMessage hmac msg mt w).2 := by
  have hnoted : I (noted w .session msg) := hI.aside h rfl rfl rfl rfl rfl rfl
  rcases dispatchSessionMessage_cases hmac msg mt w with hrun | ⟨_, _, _, sid, -, -, hrun⟩
  · rw [hrun]
    exact hnoted
  · rw [hrun]
    exact hI.called (SessionFSM.method_onMessage msg) sid (onlyIndex_indexRemote sid) hnoted (.inl hccid)

/-- The hand-over, to a session or to the tunnel machine: a session may come up. -/
theorem dispatch {w : World δ} (h : I w) (hccid : IsU32 w.tunnel.peer.remoteCcid)
    (msg : ControlMessage) (delivered : List AVP) : I (Tunnel.dispatch hmac msg delivered w).2 := by
  obtain ⟨virtual, -, ⟨e, -, hrun⟩ | ⟨mt, -, -, hrun⟩ | ⟨mt, -, -, hrun⟩⟩ :=
    dispatch_cases hmac msg delivered w
  · rw [hrun]
    exact h
  · rw [hrun]
    exact hI.dispatchSession h hccid virtual mt
  · rw [hrun]
    exact hI.drive _ _ (hI.aside h rfl rfl rfl rfl rfl rfl)

/-- **A datagram**: nothing is handed over before it has been acknowledged. -/
theorem handleDatagram (buf : Bytes) : Keeps I (Tunnel.handleDatagram hmac buf) := by
  intro w h
  rcases handleDatagram_cases hmac buf w with ⟨e, -, hrun⟩ |
    ⟨msg, ccid, peer, delivered, -, hlearn, hcases⟩
  · rw [hrun]
    exact h
  -- the reception itself is a move
  · have hpeer : ∀ r, (w.tunnel.peer.setRemoteCcid ccid).receive msg = (r, peer) → ∀ acks,
        I (received w peer acks) := by
      intro r hr acks
      obtain ⟨hsound, hu32, -⟩ := received_frame hlearn hr (hI.sound h)
      exact hI.moved h (moved_received hsound hu32 acks)
    -- no response; one that cannot be written; one that is, and the hand-over
    rcases hcases with ⟨hr, hrun⟩ | ⟨hr, ⟨e, -, hrun⟩ | ⟨bs, henc, hrun⟩⟩
    · rw [hrun]
      exact hpeer _ hr _
    · rw [hrun]
      exact hpeer _ hr _
    · rw [hrun]
      split
      · -- the acknowledgement was encoded, so the peer CCID is in range
        have hwf := ControlMessage.wellFormed_of_encode henc
        exact hI.dispatch (hpeer _ hr _) ⟨hwf.ccid_nonneg, hwf.ccid_le⟩ msg delivered
      · exact hpeer _ hr _

/-- **A tick**: the peer moves, and a dead one takes the tunnel down. -/
theorem tick (now : ℚ) : Keeps I (Tunnel.tick hmac now) := by
  intro w h
  have hframe := Peer.tick_frame w.tunnel.peer now (hI.sound h)
  have hpeer : ∀ r peer, w.tunnel.peer.tick now = (r, peer) → ∀ resends,
      I (received w peer resends) := by
    intro r peer hr resends
    rw [hr] at hframe
    exact hI.moved h (moved_received hframe.1 (fun hin => hframe.2.2.1 ▸ hin) resends)
  rcases Tunnel.tick_cases hmac now w with ⟨e, peer, hr, hrun⟩ | ⟨resends, dead, peer, hr, hrun⟩
  · rw [hrun]
    exact hpeer _ _ hr _
  · rw [hrun]
    split
    · exact Keeps.bind (hI.drive _) (fun _ => Keeps.pure true) _ (hpeer _ _ hr _)
    · exact hpeer _ _ hr _

/-- **Every handler keeps the invariant**, whether it returns or raises. -/
theorem handle (e : Tunnel.Event) : Keeps I (Tunnel.handle hmac e) := by
  have htimer : ∀ f, Keeps I (modify (mapTimer f)) :=
    fun _ => Keeps.modify fun _ h => hI.aside h rfl rfl rfl rfl rfl rfl
  cases e with
  | start => exact hI.drive _
  | close => exact (hI.drive _).bind fun _ => htimer _
  | datagram buf => exact hI.handleDatagram buf
  | tick now => exact (hI.tick now).bind fun _ => Keeps.pure ()
  | helloTimer =>
    refine Keeps.get_bind fun w h => ?_
    split
    · exact (htimer _).bind (fun _ => (htimer _).bind fun _ => hI.drive _) w h
    · exact h
  | closeSession sid resultCode => exact hI.closeSession sid resultCode

end Survives

end Tunnel

end L2tpv3d
