import L2tpv3d.Daemon.Frame

/-!
# L2tpv3d — the machines do not see the transport

Whether `_send` raises depends on the AVPs, on the configuration and on whether the peer's
CCID fits the header, never on the counters, the queues or the clock; and the executor
swallows what the dataplane raises. So two tunnels with the same machines that are handed the
same AVPs are left with the same machines, whatever their transports went through.

* `Alike w v` — the two tunnels have the same machines.
* `alike_dispatch` — handing over the same AVPs keeps them alike.
-/

namespace L2tpv3d

open Py Prog

namespace Tunnel

open World

variable {δ : Type} {hmac : Hmac}

/-- The same machines, and transports of which both or neither can write a header. -/
structure Alike (w v : World δ) : Prop where
  cfg : w.tunnel.cfg = v.tunnel.cfg
  fsm : w.tunnel.fsm = v.tunnel.fsm
  sessionsByLocal : w.tunnel.sessionsByLocal = v.tunnel.sessionsByLocal
  sessionsByRemote : w.tunnel.sessionsByRemote = v.tunnel.sessionsByRemote
  soundLeft : w.tunnel.peer.Sound
  soundRight : v.tunnel.peer.Sound
  remoteCcid : IsU32 w.tunnel.peer.remoteCcid ↔ IsU32 v.tunnel.peer.remoteCcid

/-- A tunnel is like itself. -/
theorem Alike.refl {w : World δ} (h : w.tunnel.peer.Sound) : Alike w w :=
  ⟨rfl, rfl, rfl, rfl, h, h, .rfl⟩

/-- No machine moved. -/
structure SameMachines (w w' : World δ) : Prop where
  cfg : w'.tunnel.cfg = w.tunnel.cfg
  fsm : w'.tunnel.fsm = w.tunnel.fsm
  sessionsByLocal : w'.tunnel.sessionsByLocal = w.tunnel.sessionsByLocal
  sessionsByRemote : w'.tunnel.sessionsByRemote = w.tunnel.sessionsByRemote
  link : w.tunnel.peer.SameLink w'.tunnel.peer

/-- What a session's actions leave alone, with the machines. -/
theorem Executed.sameMachines {w w' : World δ} (h : Executed w w') : SameMachines w w' :=
  ⟨h.cfg, h.fsm, h.sessionsByLocal, h.sessionsByRemote, h.link⟩

/-- Two tunnels that are alike stay so while their machines stand still. -/
theorem Alike.move {w w' v v' : World δ} (h : Alike w v) (hw : SameMachines w w')
    (hv : SameMachines v v') : Alike w' v' where
  cfg := by rw [hw.cfg, hv.cfg, h.cfg]
  fsm := by rw [hw.fsm, hv.fsm, h.fsm]
  sessionsByLocal := by rw [hw.sessionsByLocal, hv.sessionsByLocal, h.sessionsByLocal]
  sessionsByRemote := by rw [hw.sessionsByRemote, hv.sessionsByRemote, h.sessionsByRemote]
  soundLeft := hw.link.sound h.soundLeft
  soundRight := hv.link.sound h.soundRight
  remoteCcid := by rw [hw.link.remoteCcid, hv.link.remoteCcid, h.remoteCcid]

/-! ## Sending

Whether a message goes out is told from its AVPs and from the CCID of the peer, which both tunnels
share. What is sent may differ in every counter. -/

/-- The AVPs fit a message. -/
def Fits (avps : List AVP) : Prop :=
  (∀ avp ∈ avps, avp.Plain) ∧ headerLen + (AVP.wireAll avps).length ≤ maxMessageLen

/-- Of a message with counters in range, the CCID and the AVPs decide. -/
theorem wellFormed_iff {ccid ns nr : Int} {avps : List AVP} (hns : IsU16 ns) (hnr : IsU16 nr) :
    ControlMessage.WellFormed ⟨ccid, ns, nr, avps⟩ ↔ IsU32 ccid ∧ Fits avps := by
  constructor
  · intro h
    exact ⟨⟨h.ccid_nonneg, h.ccid_le⟩, h.avps_plain, h.size_le⟩
  · rintro ⟨hccid, hfits⟩
    exact ⟨hccid.1, hccid.2, hns.1, hns.2, hnr.1, hnr.2, hfits.1, hfits.2⟩

/-- **When `_send` returns.** -/
theorem send_ok_iff {w : World δ} (hsound : w.tunnel.peer.Sound) (avps : List AVP) :
    (send hmac avps w).1 = .ok () ↔ avps ≠ [] ∧ IsU32 w.tunnel.peer.remoteCcid ∧ Fits avps ∧
      (w.tunnel.cfg.secret.isSome → Fits (avps ++ [zeroedDigestAvp w.tunnel.cfg.digestAlg])) := by
  -- the message, once it is known to be encoded, and its datagram
  have hpeer : (∃ msg peer, w.tunnel.peer.send avps (w.clock 0) = .ok (msg, peer)) ↔
      avps ≠ [] ∧ IsU32 w.tunnel.peer.remoteCcid ∧ Fits avps := by
    constructor
    · rintro ⟨msg, peer, hsend⟩
      obtain ⟨hne, rfl, encoded, henc, -⟩ := Peer.send_eq_ok.mp hsend
      exact ⟨hne, (wellFormed_iff hsound.ns hsound.nr).mp (ControlMessage.wellFormed_of_encode henc)⟩
    · rintro ⟨hne, hfit⟩
      exact ⟨_, _, Peer.send_eq_ok.mpr ⟨hne, rfl, _, ControlMessage.encode_of_wellFormed
        ((wellFormed_iff hsound.ns hsound.nr).mpr hfit), rfl⟩⟩
  -- without a password the datagram is the message, with one it has a digest AVP more
  have hwire : ∀ msg peer, w.tunnel.peer.send avps (w.clock 0) = .ok (msg, peer) →
      ((∃ bs, wire hmac w.tunnel.cfg msg = .ok bs) ↔ (w.tunnel.cfg.secret.isSome →
        Fits (avps ++ [zeroedDigestAvp w.tunnel.cfg.digestAlg]))) := by
    intro msg peer hsend
    obtain ⟨-, rfl, encoded, henc, -⟩ := Peer.send_eq_ok.mp hsend
    have hwf := ControlMessage.wellFormed_of_encode henc
    unfold wire
    cases hsecret : w.tunnel.cfg.secret with
    | none => simp [henc]
    | some secret =>
      simp only [ControlMessage.encodeSigned_eq_ok (TunnelConfigEntry.secret_ne_nil hsecret),
        wellFormed_iff hsound.ns hsound.nr]
      simp [show IsU32 w.tunnel.peer.remoteCcid from ⟨hwf.ccid_nonneg, hwf.ccid_le⟩]
  -- refused by the peer; queued and not signed; sent
  rcases send_cases hmac avps w with ⟨e, he, hrun⟩ | ⟨msg, peer, hok, ⟨e, he, hrun⟩ | ⟨bs, hbs, hrun⟩⟩
  · rw [hrun]
    refine iff_of_false (by simp) fun h => ?_
    obtain ⟨msg, peer, hsend⟩ := hpeer.mpr ⟨h.1, h.2.1, h.2.2.1⟩
    rw [he] at hsend
    cases hsend
  · rw [hrun]
    refine iff_of_false (by simp) fun h => ?_
    obtain ⟨bs, hbs⟩ := (hwire msg peer hok).mpr h.2.2.2
    rw [he] at hbs
    cases hbs
  · rw [hrun]
    obtain ⟨hne, hu, hfits⟩ := hpeer.mp ⟨msg, peer, hok⟩
    exact iff_of_true rfl ⟨hne, hu, hfits, (hwire msg peer hok).mp ⟨bs, hbs⟩⟩

/-- **A send returns on both sides or raises on both**: the counters differ, and they do not decide
it. -/
theorem alike_send (avps : List AVP) : Paired Alike (send (δ := δ) hmac avps) (send hmac avps) := by
  intro w v h
  refine ⟨h.move (executed_send hmac avps w).sameMachines (executed_send hmac avps v).sameMachines, ?_⟩
  have hiff : (send hmac avps w).1 = .ok () ↔ (send hmac avps v).1 = .ok () := by
    rw [send_ok_iff h.soundLeft, send_ok_iff h.soundRight, h.cfg, h.remoteCcid]
  -- the outcomes agree; the exceptions need not be equal
  rcases hw : (send hmac avps w).1 with e | ⟨⟩ <;> rcases hv : (send hmac avps v).1 with e' | ⟨⟩
  · trivial
  · rw [hw, hv] at hiff
    cases hiff.mpr rfl
  · rw [hw, hv] at hiff
    cases hiff.mp rfl
  · rfl

/-! ## Executing actions

Exceptions of the dataplane are caught, so only a send can end a list of actions early, and then it
does so on both sides. -/

variable [Dataplane δ]

/-- Making sure of the kernel tunnel never raises. -/
theorem ensureTunnelDataplane_ok (w : World δ) : (ensureTunnelDataplane w).1 = .ok () := by
  unfold ensureTunnelDataplane
  rw [get_bind_apply]
  split
  · rfl
  · obtain ⟨r, dataplane, faults, h⟩ := onDataplane_frame (Dataplane.addTunnel (δ := δ) _) w
    rw [bind_apply, h]
    cases r <;> rfl

omit [Dataplane δ] in
/-- Nor does any call of the dataplane. -/
theorem onDataplane_bind_ok {α : Type} (call : Prog δ α) (w : World δ) :
    (do let _ ← onDataplane call : Prog (World δ) Unit) w = (.ok (), (onDataplane call w).2) := by
  obtain ⟨r, dataplane, faults, h⟩ := onDataplane_frame call w
  rw [bind_apply, h]
  rfl

/-- What the dataplane does never shows in the outcome. -/
theorem executeSessionAction_ok {a : SessionAction} (ha : ∀ avps, a ≠ .sendMessage avps)
    (w : World δ) : (executeSessionAction hmac a w).1 = .ok () := by
  cases a with
  | sendMessage avps => exact absurd rfl (ha avps)
  | dataplaneAddSession params =>
    have hensure := ensureTunnelDataplane_ok w
    rw [executeSessionAction, bind_apply]
    rcases hrun : ensureTunnelDataplane w with ⟨e | ⟨⟩, w'⟩
    · rw [hrun] at hensure
      cases hensure
    · exact congrArg Prod.fst (onDataplane_bind_ok _ w')
  | dataplaneDelSession ccid sid => exact congrArg Prod.fst (onDataplane_bind_ok _ w)
  | sessionEstablished => rfl
  | sessionTornDown reason => rfl

/-- The actions of a session: only a send can raise. -/
theorem alike_sessionActions (actions : List SessionAction) : Paired Alike
    (executeSessionActions (δ := δ) hmac actions) (executeSessionActions hmac actions) := by
  refine Paired.each (fun a => ?_) actions
  by_cases ha : ∀ avps, a ≠ .sendMessage avps
  -- nothing to send: it returns on both sides, whatever the dataplanes do
  · intro w v h
    have hw := executed_sessionAction hmac a w
    have hv := executed_sessionAction hmac a v
    rw [executeSessionAction_ok ha, executeSessionAction_ok ha]
    exact ⟨h.move hw.sameMachines hv.sameMachines, rfl⟩
  · simp only [not_forall, not_not] at ha
    obtain ⟨avps, rfl⟩ := ha
    exact alike_send avps

omit [Dataplane δ] in
/-- The same method of the same session. -/
theorem alike_onSession (sid : Int) (m : Prog SessionFSM (List SessionAction)) :
    Paired Alike (onSession (δ := δ) sid m) (onSession sid m) := by
  intro w v h
  cases hget : w.tunnel.sessionsByLocal.get? sid with
  | none =>
    rw [onSession_none m hget, onSession_none m (h.sessionsByLocal ▸ hget)]
    exact ⟨h, rfl⟩
  | some sess =>
    rw [onSession_some m hget, onSession_some m (h.sessionsByLocal ▸ hget)]
    refine ⟨⟨h.cfg, h.fsm, ?_, h.sessionsByRemote, h.soundLeft, h.soundRight, h.remoteCcid⟩, .refl _⟩
    exact congrArg (fun d => d.set sid (m sess).2) h.sessionsByLocal

/-- The loop visits the same keys on both sides. -/
theorem alike_eachSession (m : Prog SessionFSM (List SessionAction)) :
    Paired Alike (eachSession (δ := δ) hmac m) (eachSession hmac m) := by
  intro w v h
  have hkeys : w.tunnel.sessionsByLocal.keys = v.tunnel.sessionsByLocal.keys := by
    rw [h.sessionsByLocal]
  rw [eachSession, get_bind_apply, get_bind_apply, hkeys]
  exact Paired.each (fun sid => (alike_onSession sid m).bind alike_sessionActions) _ w v h

/-- The actions of the tunnel machine. -/
theorem alike_tunnelAction (a : TunnelAction) : Paired Alike
    (executeTunnelAction (δ := δ) hmac a) (executeTunnelAction hmac a) := by
  cases a with
  | sendMessage avps => exact alike_send avps
  | setHelloTimer seconds =>
    exact fun w v h => ⟨h.move ⟨rfl, rfl, rfl, rfl, .refl _⟩ ⟨rfl, rfl, rfl, rfl, .refl _⟩, rfl⟩
  | clearHelloTimer =>
    exact fun w v h => ⟨h.move ⟨rfl, rfl, rfl, rfl, .refl _⟩ ⟨rfl, rfl, rfl, rfl, .refl _⟩, rfl⟩
  | established =>
    refine Paired.bind (Paired.modify fun w v h => ?_) fun _ => alike_eachSession _
    exact h.move ⟨rfl, rfl, rfl, rfl, .refl _⟩ ⟨rfl, rfl, rfl, rfl, .refl _⟩
  | tornDown reason =>
    refine Paired.bind (Paired.modify fun w v h => ?_) fun _ =>
      Paired.bind (alike_eachSession _) fun _ => ?_
    · exact h.move ⟨rfl, rfl, rfl, rfl, .refl _⟩ ⟨rfl, rfl, rfl, rfl, .refl _⟩
    · -- whether the kernel tunnel is deleted may differ; no machine sees it
      have hdel : ∀ w : World δ, ∃ w', (do
          let w ← get
          if w.tunnel.tunnelDpAdded ∧ w.dataplane.isSome then
            let _ ← onDataplane (Dataplane.delTunnel (δ := δ) w.tunnel.cfg.localCcid)
            modify (mapTunnel fun t => { t with tunnelDpAdded := false })
          else return () : Prog (World δ) Unit) w = (.ok (), w') ∧ SameMachines w w' := by
        intro w
        rw [get_bind_apply]
        split
        · obtain ⟨r, dataplane, faults, hrun⟩ := onDataplane_frame
            (Dataplane.delTunnel (δ := δ) w.tunnel.cfg.localCcid) w
          rw [bind_apply_of_ok _ _ hrun]
          exact ⟨_, rfl, rfl, rfl, rfl, rfl, .refl _⟩
        · exact ⟨w, rfl, rfl, rfl, rfl, rfl, .refl _⟩
      intro w v h
      obtain ⟨w', hw, hsame⟩ := hdel w
      obtain ⟨v', hv, hsame'⟩ := hdel v
      rw [hw, hv]
      exact ⟨h.move hsame hsame', rfl⟩

/-- A method of the tunnel machine, with its actions. -/
theorem alike_drive (m : Prog TunnelFSM (List TunnelAction)) :
    Paired Alike (drive (δ := δ) hmac m) (drive hmac m) := by
  refine Paired.bind (fun w v h => ?_) (Paired.each fun a => alike_tunnelAction a)
  rw [onFsm_apply, onFsm_apply, h.fsm]
  exact ⟨⟨h.cfg, rfl, h.sessionsByLocal, h.sessionsByRemote, h.soundLeft, h.soundRight,
    h.remoteCcid⟩, .refl _⟩

/-! ## The hand-over

The machines and the dispatch read AVPs only. Two messages with the same AVPs are handed to the same
machine, with the same effect. -/

omit [Dataplane δ] in
/-- The machines read the AVPs of a message and nothing else of it. -/
theorem onMessage_congr {msg msg' : ControlMessage} (h : msg.avps = msg'.avps) :
    TunnelFSM.onMessage msg = TunnelFSM.onMessage msg' ∧
      SessionFSM.onMessage msg = SessionFSM.onMessage msg' := by
  constructor
  · simp only [TunnelFSM.onMessage, TunnelFSM.onSccrq, TunnelFSM.onSccrp, TunnelFSM.onScccn,
      TunnelFSM.onHello, TunnelFSM.onStopccn, h]
  · simp only [SessionFSM.onMessage, SessionFSM.onIcrq, SessionFSM.onIcrp, SessionFSM.onIccn,
      SessionFSM.onCdn, h]

omit [Dataplane δ] in
/-- The index follows on both sides in the same way. -/
theorem alike_indexRemote (sid : Int) : Paired (Alike (δ := δ)) (modify (mapTunnel (indexRemote sid)))
    (modify (mapTunnel (indexRemote sid))) := by
  refine Paired.modify fun w v h => ?_
  obtain ⟨r, hr⟩ := onlyIndex_indexRemote sid w.tunnel
  obtain ⟨r', hr'⟩ := onlyIndex_indexRemote sid v.tunnel
  have hsame : (indexRemote sid w.tunnel).sessionsByRemote
      = (indexRemote sid v.tunnel).sessionsByRemote := by
    simp only [indexRemote, h.sessionsByLocal, h.sessionsByRemote]
    -- no such session; one to enter; nothing to enter
    split
    · exact h.sessionsByRemote
    · split
      · rfl
      · exact h.sessionsByRemote
  rw [hr, hr'] at hsame
  simp only [mapTunnel, hr, hr']
  exact ⟨h.cfg, h.fsm, h.sessionsByLocal, hsame, h.soundLeft, h.soundRight, h.remoteCcid⟩

/-- The messages may differ in their header, as no session reads it. -/
theorem alike_dispatchSession {msg msg' : ControlMessage} (hmsg : msg.avps = msg'.avps) (mt : Int) :
    Paired Alike (dispatchSessionMessage (δ := δ) hmac msg mt)
      (dispatchSessionMessage hmac msg' mt) := by
  unfold dispatchSessionMessage
  refine Paired.bind (Paired.modify fun w v h => ?_) fun _ => ?_
  · exact h.move ⟨rfl, rfl, rfl, rfl, .refl _⟩ ⟨rfl, rfl, rfl, rfl, .refl _⟩
  rw [hmsg, (onMessage_congr hmsg).2]
  refine Paired.bind (fun w v h => ⟨h, .refl _⟩) fun keys => ?_
  cases keys with
  | none => exact Paired.pure ()
  | some keys =>
    obtain ⟨localTarget, remoteKey, endId⟩ := keys
    intro w v h
    -- the route is found from the two tables, which are equal
    have hroute : w.tunnel.route mt localTarget remoteKey endId
        = v.tunnel.route mt localTarget remoteKey endId := by
      simp only [route, h.sessionsByLocal, h.sessionsByRemote]
    simp only [get_bind_apply, hroute]
    cases v.tunnel.route mt localTarget remoteKey endId with
    | none => exact ⟨h, rfl⟩
    | some sid =>
      exact Paired.bind (alike_onSession sid _) (fun actions =>
        (alike_indexRemote sid).bind fun _ => alike_sessionActions actions) w v h

/-- **The hand-over of the same AVPs** keeps two tunnels alike. -/
theorem alike_dispatch (msg msg' : ControlMessage) (avps : List AVP) :
    Paired Alike (dispatch (δ := δ) hmac msg avps) (dispatch hmac msg' avps) := by
  intro w v h
  have hvirtual : (ControlMessage.mk w.tunnel.peer.localCcid msg.ns msg.nr avps).avps
      = (ControlMessage.mk v.tunnel.peer.localCcid msg'.ns msg'.nr avps).avps := rfl
  have htunnel : ∀ m m' : ControlMessage, m.avps = m'.avps → Paired (Alike (δ := δ)) (do
      modify fun w => { w with dispatched := w.dispatched ++ [(.tunnelFsm, m)] }
      drive hmac (TunnelFSM.onMessage m)) (do
      modify fun w => { w with dispatched := w.dispatched ++ [(.tunnelFsm, m')] }
      drive hmac (TunnelFSM.onMessage m')) := by
    intro m m' hm
    rw [(onMessage_congr hm).1]
    refine Paired.bind (Paired.modify fun w v h => ?_) fun _ => alike_drive _
    exact h.move ⟨rfl, rfl, rfl, rfl, .refl _⟩ ⟨rfl, rfl, rfl, rfl, .refl _⟩
  unfold dispatch
  rw [get_bind_apply, get_bind_apply]
  -- an unreadable Message Type raises on both sides
  cases getMessageType avps with
  | error e => exact ⟨h, trivial⟩
  | ok mt =>
    rw [ofExcept_ok_bind_apply, ofExcept_ok_bind_apply]
    cases mt with
    | none => exact htunnel _ _ hvirtual w v h
    | some mt =>
      by_cases hmem : mt ∈ sessionMsgTypes
      · simp only [if_pos hmem]
        exact alike_dispatchSession hvirtual mt w v h
      · simp only [if_neg hmem]
        exact htunnel _ _ hvirtual w v h

end Tunnel

end L2tpv3d
