import L2tpv3d.Daemon.Crash
import L2tpv3d.Daemon.Demux
import L2tpv3d.Daemon.Mirror

/-!
# L2tpv3d — tunnels do not interfere

The tunnels of a daemon share the transport and the dataplane. What a tunnel does to the
dataplane goes by the CCID that it and its machines were configured with, which is the key
that the daemon keeps the tunnel under.

* `LocalTo ccid m` — the call `m` of the dataplane neither changes nor reads an entry of
  another CCID.
* `Beside` — the same tunnel at work on two dataplanes that agree on its entries; the `beside_*`
  lemmas say that it goes on so, and that the entries of the others stay.
* **`tunnels_isolated`** — the daemon, in every state that it reaches.
-/

namespace L2tpv3d

open Py Prog

namespace Isolation

open Tunnel World Mirror

/-! ## The calls of the dataplane

The four calls of the in-memory dataplane are local to the CCID they are given. For `del_tunnel`
this needs that the search for live sessions looks at its own CCID only. -/

/-- The call looks at the entries of `ccid` only, and changes no other. -/
structure LocalTo {α : Type} (ccid : Int) (m : Prog MockDataplane α) : Prop where
  frame : ∀ dp c, c ≠ ccid → AgreeOn c dp (m dp).2
  paired : ∀ dp dp', AgreeOn ccid dp dp' →
    AgreeOn ccid (m dp).2 (m dp').2 ∧ (m dp').1.isOk = (m dp).1.isOk

/-- Adding a tunnel is about its CCID. -/
theorem localTo_addTunnel (params : TunnelParams) :
    LocalTo params.localCcid (MockDataplane.addTunnel params) where
  frame dp c hc := by
    rw [MockDataplane.addTunnel, get_bind_apply]
    cases hget : dp.tunnels.get? params.localCcid with
    | some existing =>
      simp only
      split <;> exact ⟨rfl, fun _ => rfl⟩
    | none =>
      refine ⟨?_, fun _ => rfl⟩
      simp only [modify_apply, Dict.get?_set]
      rw [if_neg fun heq => hc heq.symm]
  paired dp dp' h := by
    rw [MockDataplane.addTunnel, get_bind_apply, get_bind_apply, h.1]
    -- a tunnel that is known is compared, one that is not is added
    cases hget : dp.tunnels.get? params.localCcid with
    | some existing =>
      simp only
      split <;> exact ⟨h, rfl⟩
    | none => exact ⟨⟨by simp, h.2⟩, rfl⟩

/-- Adding a session is about the CCID of its tunnel. -/
theorem localTo_addSession (params : SessionParams) :
    LocalTo params.localCcid (MockDataplane.addSession params) where
  frame dp c hc := by
    have hne : ∀ sid, (params.localCcid, params.localSid) ≠ (c, sid) :=
      fun sid heq => hc (Prod.mk.inj heq).1.symm
    rw [MockDataplane.addSession, get_bind_apply]
    split
    · exact ⟨rfl, fun _ => rfl⟩
    · split
      · exact ⟨rfl, fun _ => rfl⟩
      · refine ⟨rfl, fun sid => ?_⟩
        simp only [modify_bind_apply, pure_apply, Dict.get?_set]
        rw [if_neg (hne sid)]
  paired dp dp' h := by
    have hsess : dp'.sessions.contains (params.localCcid, params.localSid)
        = dp.sessions.contains (params.localCcid, params.localSid) := by
      rw [Dict.contains, h.2, Dict.contains]
    rw [MockDataplane.addSession, get_bind_apply, get_bind_apply, hsess, h.contains]
    split
    · exact ⟨h, rfl⟩
    · split
      · exact ⟨h, rfl⟩
      · refine ⟨⟨h.1, fun sid => ?_⟩, rfl⟩
        simp only [modify_bind_apply, pure_apply, Dict.get?_set, h.2]

theorem localTo_delSession (ccid sid : Int) : LocalTo ccid (MockDataplane.delSession ccid sid) where
  frame dp c hc := by
    have hne : ∀ sid', (ccid, sid) ≠ (c, sid') := fun sid' heq => hc (Prod.mk.inj heq).1.symm
    rw [MockDataplane.delSession, get_bind_apply]
    split
    · exact ⟨rfl, fun _ => rfl⟩
    · refine ⟨rfl, fun sid' => ?_⟩
      simp only [modify_apply, Dict.get?_erase]
      rw [if_neg (hne sid')]
  paired dp dp' h := by
    have hsess : dp'.sessions.contains (ccid, sid) = dp.sessions.contains (ccid, sid) := by
      rw [Dict.contains, h.2, Dict.contains]
    rw [MockDataplane.delSession, get_bind_apply, get_bind_apply, hsess]
    split
    · exact ⟨h, rfl⟩
    · refine ⟨⟨h.1, fun sid' => ?_⟩, rfl⟩
      simp only [modify_apply, Dict.get?_erase, h.2]

/-- Whether a tunnel still has sessions does not depend on the entries of the others. -/
theorem live_eq_nil_iff (dp : MockDataplane) (ccid : Int) :
    (dp.sessions.keys.filter fun k => k.1 == ccid) = [] ↔
      ∀ sid, dp.sessions.get? (ccid, sid) = none := by
  rw [List.filter_eq_nil_iff]
  constructor
  · intro h sid
    by_contra hne
    obtain ⟨params, hget⟩ := Option.ne_none_iff_exists'.mp hne
    exact h (ccid, sid) (Dict.mem_keys_iff.mpr ⟨params, hget⟩) (beq_self_eq_true ccid)
  · rintro h ⟨c, sid⟩ hk hccid
    obtain rfl : c = ccid := by simpa using hccid
    obtain ⟨params, hget⟩ := Dict.mem_keys_iff.mp hk
    rw [h sid] at hget
    cases hget

/-- So is deleting a tunnel, which looks for its sessions alone. -/
theorem localTo_delTunnel (ccid : Int) : LocalTo ccid (MockDataplane.delTunnel ccid) where
  frame dp c hc := by
    rw [MockDataplane.delTunnel, get_bind_apply]
    split
    · exact ⟨rfl, fun _ => rfl⟩
    · simp only
      split
      · exact ⟨rfl, fun _ => rfl⟩
      · refine ⟨?_, fun _ => rfl⟩
        simp only [modify_apply, Dict.get?_erase]
        rw [if_neg fun heq => hc heq.symm]
  paired dp dp' h := by
    have hlive : (dp'.sessions.keys.filter fun k => k.1 == ccid) = [] ↔
        (dp.sessions.keys.filter fun k => k.1 == ccid) = [] := by
      rw [live_eq_nil_iff, live_eq_nil_iff]
      simp only [h.2]
    rw [MockDataplane.delTunnel, get_bind_apply, get_bind_apply, h.contains]
    split
    · exact ⟨h, rfl⟩
    · simp only
      by_cases hnil : (dp.sessions.keys.filter fun k => k.1 == ccid) = []
      · rw [if_neg (not_not.mpr hnil), if_neg (not_not.mpr (hlive.mpr hnil))]
        exact ⟨⟨by simp [Dict.get?_erase], h.2⟩, rfl⟩
      · rw [if_pos hnil, if_pos fun hnil' => hnil (hlive.mp hnil')]
        exact ⟨h, rfl⟩

/-! ## Two dataplanes side by side

The daemon's dataplane at one time and at another, as one tunnel sees it. What the tunnel does on
both is the same. -/

/-- The two dataplanes, if there is one, hold the same under `ccid`. -/
def Agree (ccid : Int) : Option MockDataplane → Option MockDataplane → Prop
  | some dp, some dp' => AgreeOn ccid dp dp'
  | none, none => True
  | _, _ => False

theorem Agree.refl (ccid : Int) : ∀ dp, Agree ccid dp dp
  | some _ => ⟨rfl, fun _ => rfl⟩
  | none => trivial

theorem Agree.trans {ccid : Int} : ∀ {dp dp' dp''}, Agree ccid dp dp' → Agree ccid dp' dp'' →
    Agree ccid dp dp''
  | some _, some _, some _, h, h' => ⟨h'.1.trans h.1, fun sid => (h'.2 sid).trans (h.2 sid)⟩
  | none, none, none, _, _ => trivial

theorem Agree.symm {ccid : Int} : ∀ {dp dp'}, Agree ccid dp dp' → Agree ccid dp' dp
  | some _, some _, h => ⟨h.1.symm, fun sid => (h.2 sid).symm⟩
  | none, none, _ => trivial

variable {hmac : Hmac} {ccid : Int} {w v : World MockDataplane}

/-- The action is about `ccid`. -/
def Touches (ccid : Int) : SessionAction → Prop
  | .dataplaneAddSession params => params.localCcid = ccid
  | .dataplaneDelSession localCcid _ => localCcid = ccid
  | _ => True

/-- The actions of a session machine are about the CCID that it was configured with. -/
theorem touches_outcome {s s' : SessionFSM} {actions : List SessionAction}
    (hout : SessionFSM.Outcome s (.ok actions) s') :
    ∀ a ∈ actions, Touches s.config.localCcid a := by
  have hdown : ∀ reason, ∀ a ∈ s.downActions reason, Touches s.config.localCcid a := by
    intro reason a ha
    unfold SessionFSM.downActions at ha
    split at ha
    · simp only [List.mem_cons, List.not_mem_nil, or_false] at ha
      rcases ha with rfl | rfl
      · rfl
      · trivial
    · cases ha
  -- by what the method did: it sent, it came up, it went down
  cases hout with
  | ignored => simp
  | called _ _ => simp [Touches]
  | answered _ _ _ => simp [Touches]
  | connected _ _ _ => simp [Touches, SessionFSM.dataplaneParams, SessionFSM.learned,
      SessionFSM.learnPeer]
  | accepted _ => simp [Touches, SessionFSM.dataplaneParams]
  | closed _ _ =>
    intro a ha
    rcases List.mem_append.mp ha with hsend | hrest
    · obtain rfl := List.mem_singleton.mp hsend
      trivial
    · exact hdown _ a hrest
  | dropped _ => exact hdown _

/-- Two worlds in which the same tunnel is at work, on dataplanes that agree on its entries;
those of the others are as in `dp` and `dp'`. -/
structure Beside (ccid : Int) (dp dp' : Option MockDataplane) (w v : World MockDataplane) :
    Prop where
  tunnel : v.tunnel = w.tunnel
  clock : v.clock = w.clock
  sent : v.sent = w.sent
  cfg : w.tunnel.cfg.localCcid = ccid
  keyed : w.tunnel.Keyed
  own : Agree ccid w.dataplane v.dataplane
  left : ∀ c, c ≠ ccid → Agree c dp w.dataplane
  right : ∀ c, c ≠ ccid → Agree c dp' v.dataplane

variable {dp dp' : Option MockDataplane}

theorem Beside.map (h : Beside ccid dp dp' w v) {f : Tunnel → Tunnel}
    (hcfg : (f w.tunnel).cfg = w.tunnel.cfg) (hkeyed : (f w.tunnel).Keyed) :
    Beside ccid dp dp' (w.mapTunnel f) (v.mapTunnel f) :=
  ⟨congrArg f h.tunnel, h.clock, h.sent, hcfg ▸ h.cfg, hkeyed, h.own, h.left, h.right⟩

theorem beside_ofExcept {α : Type} (x : Except Exn α) :
    Paired (Beside ccid dp dp') (ofExcept x) (ofExcept x) := fun _ _ h => ⟨h, .refl x⟩

/-- The clock is the same on both sides. -/
theorem beside_loopTime : Paired (Beside ccid dp dp') loopTime loopTime := by
  intro w v h
  refine ⟨⟨h.tunnel, ?_, h.sent, h.cfg, h.keyed, h.own, h.left, h.right⟩, ?_⟩
  · show (fun n => v.clock (n + 1)) = fun n => w.clock (n + 1)
    rw [h.clock]
  · show w.clock 0 = v.clock 0
    rw [h.clock]

theorem beside_send (avps : List AVP) :
    Paired (Beside ccid dp dp') (send hmac avps) (send hmac avps) := by
  refine Paired.bind beside_loopTime fun now => ?_
  intro w v h
  rw [get_bind_apply, get_bind_apply, h.tunnel]
  refine Paired.bind (beside_ofExcept _) (fun r => ?_) w v h
  refine Paired.bind (Paired.modify fun w v h => h.map rfl h.keyed) fun _ => ?_
  refine Paired.bind (beside_ofExcept _) fun wire => Paired.modify fun w v h => ?_
  exact ⟨h.tunnel, h.clock, by rw [h.sent], h.cfg, h.keyed, h.own, h.left, h.right⟩

/-! ### The calls of the dataplane

Every call of a tunnel carries its own CCID. -/

/-- **A call of the dataplane about the tunnel's own CCID.** -/
theorem beside_onDataplane {α : Type} {m : Prog MockDataplane α} (hm : LocalTo ccid m) :
    Paired (Beside ccid dp dp') (onDataplane m) (onDataplane m) := by
  intro w v h
  have hown := h.own
  have hleft := h.left
  have hright := h.right
  cases hw : w.dataplane with
  | none =>
    cases hv : v.dataplane with
    | none =>
      rw [show onDataplane m w = (.ok false, w) by simp [onDataplane, hw],
        show onDataplane m v = (.ok false, v) by simp [onDataplane, hv]]
      exact ⟨h, rfl⟩
    | some dp₂ =>
      rw [hw, hv] at hown
      exact hown.elim
  -- the call returns on both sides, or raises on both
  | some dp₁ =>
    cases hv : v.dataplane with
    | none =>
      rw [hw, hv] at hown
      exact hown.elim
    | some dp₂ =>
      rw [hw] at hleft
      rw [hv] at hright
      rw [hw, hv] at hown
      obtain ⟨hagree, hok⟩ := hm.paired dp₁ dp₂ hown
      have hleft' := fun c hc => (hleft c hc).trans (show Agree c (some dp₁) (some (m dp₁).2) from
        hm.frame dp₁ c hc)
      have hright' := fun c hc => (hright c hc).trans (show Agree c (some dp₂) (some (m dp₂).2) from
        hm.frame dp₂ c hc)
      unfold onDataplane
      rw [hw, hv]
      simp only
      rcases hrun₁ : m dp₁ with ⟨e₁ | a₁, dp₁'⟩ <;> rcases hrun₂ : m dp₂ with ⟨e₂ | a₂, dp₂'⟩ <;>
        simp only [hrun₁, hrun₂, Except.isOk, Except.toBool, Bool.false_eq_true, Bool.true_eq_false]
          at hagree hok hleft' hright' <;>
        exact ⟨⟨h.tunnel, h.clock, h.sent, h.cfg, h.keyed, hagree, hleft', hright'⟩, rfl⟩

/-- Both sides have a dataplane, or none. -/
theorem Beside.isNone (h : Beside ccid dp dp' w v) : v.dataplane.isNone = w.dataplane.isNone := by
  have hown := h.own
  cases hw : w.dataplane <;> cases hv : v.dataplane <;> rw [hw, hv] at hown <;>
    first | rfl | exact hown.elim

/-- The call that makes sure of the kernel tunnel. -/
theorem beside_ensureTunnel : Paired (Beside ccid dp dp') (ensureTunnelDataplane (δ := MockDataplane))
    ensureTunnelDataplane := by
  intro w v h
  rw [ensureTunnelDataplane, get_bind_apply, get_bind_apply, h.tunnel, h.isNone]
  split
  · exact Paired.pure () w v h
  · have hlocal : LocalTo ccid (MockDataplane.addTunnel ⟨w.tunnel.cfg.localCcid,
        w.tunnel.peer.remoteCcid, w.tunnel.cfg.localAddress, w.tunnel.cfg.remoteAddress, "udp", 1701,
        1701, w.tunnel.cfg.localCcidIsBool⟩) := by
      rw [← h.cfg]
      exact localTo_addTunnel ⟨w.tunnel.cfg.localCcid, _, _, _, _, _, _, _⟩
    refine Paired.bind (beside_onDataplane hlocal) (fun added => ?_) w v h
    cases added
    · exact Paired.pure ()
    · exact Paired.modify fun w v h => h.map rfl h.keyed

theorem beside_sessionAction {a : SessionAction} (ha : Touches ccid a) :
    Paired (Beside ccid dp dp') (executeSessionAction hmac a) (executeSessionAction hmac a) := by
  cases a with
  | sendMessage avps => exact beside_send avps
  | dataplaneAddSession params =>
    have hlocal : LocalTo ccid (MockDataplane.addSession params) :=
      (show params.localCcid = ccid from ha) ▸ localTo_addSession params
    exact beside_ensureTunnel.bind fun _ => (beside_onDataplane hlocal).bind fun _ => Paired.pure ()
  | dataplaneDelSession localCcid localSid =>
    obtain rfl : localCcid = ccid := ha
    exact (beside_onDataplane (localTo_delSession localCcid localSid)).bind fun _ => Paired.pure ()
  | sessionEstablished => exact Paired.pure ()
  | sessionTornDown reason => exact Paired.pure ()

theorem beside_sessionActions {actions : List SessionAction} (h : ∀ a ∈ actions, Touches ccid a) :
    Paired (Beside ccid dp dp') (executeSessionActions hmac actions)
      (executeSessionActions hmac actions) := by
  -- on the actions
  induction actions with
  | nil => exact Paired.pure ()
  | cons a actions ih =>
    exact (beside_sessionAction (h a List.mem_cons_self)).bind fun _ =>
      ih fun b hb => h b (List.mem_cons_of_mem a hb)

/-! ### The machines

A machine asks the dataplane for what it was configured with, so the CCID in its actions is that of
its tunnel. -/

theorem beside_sessionCall {m : Prog SessionFSM (List SessionAction)} (hm : SessionFSM.Method m)
    (sid : Int) {g : Tunnel → Tunnel} (hg : OnlyIndex g) :
    Paired (Beside ccid dp dp') (callSession (δ := MockDataplane) hmac sid m g)
      (callSession hmac sid m g) := by
  intro w v h
  have hindex : ∀ {w v}, Beside ccid dp dp' w v →
      Beside ccid dp dp' (w.mapTunnel g) (v.mapTunnel g) := by
    intro w v h
    obtain ⟨r, hr⟩ := hg w.tunnel
    exact h.map (by rw [hr]) (by rw [hr]; exact h.keyed)
  -- no such session on either side, or the same one on both
  cases hget : w.tunnel.sessionsByLocal.get? sid with
  | none =>
    rw [callSession_none hmac hget, callSession_none hmac (h.tunnel ▸ hget)]
    exact ⟨hindex h, rfl⟩
  | some s =>
    have hget' : v.tunnel.sessionsByLocal.get? sid = some s := h.tunnel ▸ hget
    have hout := hm s
    have hset : Beside ccid dp dp' (w.withSession sid (m s).2) (v.withSession sid (m s).2) :=
      h.map rfl (h.keyed.withSession hget hout.config_eq)
    rcases hcall : m s with ⟨e | actions, s'⟩ <;> rw [hcall] at hout hset
    · rw [callSession_error hmac hget hcall, callSession_error hmac hget' hcall]
      exact ⟨hset, trivial⟩
    · rw [callSession_ok hmac hget hcall, callSession_ok hmac hget' hcall]
      have htouch := touches_outcome hout
      rw [(h.keyed sid s hget).2, h.cfg] at htouch
      exact beside_sessionActions htouch _ _ (hindex hset)

/-- The loop over the sessions, which are the same on both sides. -/
theorem beside_eachSession {m : Prog SessionFSM (List SessionAction)} (hm : SessionFSM.Method m) :
    Paired (Beside ccid dp dp') (eachSession hmac m) (eachSession hmac m) := by
  intro w v h
  rw [eachSession, get_bind_apply, get_bind_apply, h.tunnel]
  exact Paired.each (fun sid => beside_sessionCall hm sid onlyIndex_id) _ w v h

theorem beside_notice (notice : Notice) : Paired (Beside ccid dp dp')
    (modify fun w => { w with notices := w.notices ++ [notice] })
    (modify fun w => { w with notices := w.notices ++ [notice] }) :=
  Paired.modify fun _ _ h =>
    ⟨h.tunnel, h.clock, h.sent, h.cfg, h.keyed, h.own, h.left, h.right⟩

theorem beside_tunnelAction (a : TunnelAction) :
    Paired (Beside ccid dp dp') (executeTunnelAction hmac a) (executeTunnelAction hmac a) := by
  -- the timer and the flag are of the tunnel alone
  have hmap : ∀ f : Tunnel → Tunnel, (∀ t, (f t).cfg = t.cfg) →
      (∀ t, (f t).sessionsByLocal = t.sessionsByLocal) →
      Paired (Beside ccid dp dp') (modify (mapTunnel f)) (modify (mapTunnel f)) := by
    intro f hcfg hsess
    refine Paired.modify fun w v h => h.map (hcfg _) fun sid s hs => ?_
    rw [hcfg]
    rw [hsess] at hs
    exact h.keyed sid s hs
  cases a with
  | sendMessage avps => exact beside_send avps
  | setHelloTimer seconds =>
    exact beside_loopTime.bind fun now => hmap _ (fun _ => rfl) fun _ => rfl
  | clearHelloTimer => exact hmap _ (fun _ => rfl) fun _ => rfl
  | established =>
    exact (beside_notice _).bind fun _ => beside_eachSession SessionFSM.method_onTunnelEstablished
  | tornDown reason =>
    refine (beside_notice _).bind fun _ =>
      (beside_eachSession SessionFSM.method_onTunnelDown).bind fun _ => ?_
    intro w v h
    -- both delete the kernel tunnel, or neither does
    have hsome : v.dataplane.isSome = w.dataplane.isSome := by
      simpa using congrArg not h.isNone
    rw [get_bind_apply, get_bind_apply, h.tunnel, hsome]
    split
    · have hlocal : LocalTo ccid (MockDataplane.delTunnel w.tunnel.cfg.localCcid) :=
        h.cfg ▸ localTo_delTunnel _
      refine Paired.bind (beside_onDataplane hlocal) (fun _ => ?_) w v h
      exact hmap _ (fun _ => rfl) fun _ => rfl
    · exact Paired.pure () w v h

/-- A method of the tunnel machine, with its actions. -/
theorem beside_drive (m : Prog TunnelFSM (List TunnelAction)) :
    Paired (Beside ccid dp dp') (drive hmac m) (drive hmac m) := by
  refine Paired.bind (fun w v h => ?_) fun actions => Paired.each beside_tunnelAction actions
  rw [onFsm_apply, onFsm_apply, h.tunnel]
  exact ⟨⟨by rw [withFsm, withFsm, mapTunnel, mapTunnel, h.tunnel], h.clock, h.sent, h.cfg, h.keyed,
    h.own, h.left, h.right⟩, .refl _⟩

/-! ### Datagrams

A datagram reaches the dataplane only through the machines. -/

/-- A message noted before it is handed over. -/
theorem beside_noted (target : Target) (msg : ControlMessage) : Paired (Beside ccid dp dp')
    (modify fun w => { w with dispatched := w.dispatched ++ [(target, msg)] })
    (modify fun w => { w with dispatched := w.dispatched ++ [(target, msg)] }) :=
  Paired.modify fun _ _ h =>
    ⟨h.tunnel, h.clock, h.sent, h.cfg, h.keyed, h.own, h.left, h.right⟩

theorem beside_dispatchSession (msg : ControlMessage) (mt : Int) : Paired (Beside ccid dp dp')
    (dispatchSessionMessage hmac msg mt) (dispatchSessionMessage hmac msg mt) := by
  refine (beside_noted _ _).bind fun _ => (beside_ofExcept _).bind fun keys => ?_
  cases keys with
  | none => exact Paired.pure ()
  | some keys =>
    obtain ⟨localTarget, remoteKey, endId⟩ := keys
    intro w v h
    simp only [get_bind_apply, h.tunnel]
    cases w.tunnel.route mt localTarget remoteKey endId with
    | none => exact Paired.pure () w v h
    | some sid =>
      exact beside_sessionCall (SessionFSM.method_onMessage msg) sid (onlyIndex_indexRemote sid) w v h

theorem beside_dispatch (msg : ControlMessage) (delivered : List AVP) : Paired (Beside ccid dp dp')
    (dispatch hmac msg delivered) (dispatch hmac msg delivered) := by
  intro w v h
  rw [dispatch, get_bind_apply, get_bind_apply, h.tunnel]
  refine Paired.bind (beside_ofExcept _) (fun mt => ?_) w v h
  cases mt with
  | none => exact (beside_noted _ _).bind fun _ => beside_drive _
  | some mt =>
    simp only
    split
    · exact beside_dispatchSession _ mt
    · exact (beside_noted _ _).bind fun _ => beside_drive _

/-- **A datagram has the same effect on both sides**, and none on the entries of the others. -/
theorem beside_handleDatagram (hmac : Hmac) (buf : Bytes) : Paired (Beside ccid dp dp')
    (handleDatagram hmac buf) (handleDatagram hmac buf) := by
  intro w v h
  rw [handleDatagram, get_bind_apply, get_bind_apply, h.tunnel]
  refine Paired.bind (beside_ofExcept _) (fun msg => ?_) w v h
  cases msg with
  | none => exact Paired.pure ()
  | some msg =>
    refine (beside_ofExcept _).bind fun peer => ?_
    -- the peer takes the message, its responses are written, then it is handed over
    rcases peer.receive msg with ⟨⟨delivered, responses⟩, peer'⟩
    refine (Paired.modify fun w v h => h.map rfl h.keyed).bind fun _ => ?_
    refine (Paired.each (fun resp => (beside_ofExcept _).bind fun wire => Paired.modify
      fun w v h => ?_) responses).bind fun _ => ?_
    · exact ⟨h.tunnel, h.clock, by rw [h.sent], h.cfg, h.keyed, h.own, h.left, h.right⟩
    · split
      · exact beside_dispatch msg delivered
      · exact Paired.pure ()

/-! ## The daemon

A datagram is handled by one tunnel, which leaves the entries of the others as they were; so the
order of two datagrams for different tunnels does not matter. -/

open Demux (peekCcid)

/-- The daemon after `_dispatch_datagram`, with these readings of the clock. -/
def handleAt (hmac : Hmac) (clock : Nat → ℚ) (buf : Bytes) (d : Daemon MockDataplane) :
    Daemon MockDataplane :=
  (Daemon.dispatchDatagram hmac buf { d with clock := clock }).2

/-- `d` and `d'` have the same tunnel under `ccid`, and the same entries of the dataplane. -/
structure SameAt (ccid : Int) (d d' : Daemon MockDataplane) : Prop where
  tunnel : d'.tunnels.get? ccid = d.tunnels.get? ccid
  dataplane : Agree ccid d.dataplane d'.dataplane

variable {d d' d'' : Daemon MockDataplane}

theorem SameAt.trans (h : SameAt ccid d d') (h' : SameAt ccid d' d'') : SameAt ccid d d'' :=
  ⟨h'.tunnel.trans h.tunnel, h.dataplane.trans h'.dataplane⟩

theorem SameAt.symm (h : SameAt ccid d d') : SameAt ccid d' d :=
  ⟨h.tunnel.symm, h.dataplane.symm⟩

/-- A tunnel was at work on a daemon. -/
theorem sameAt_put {key : Int} {w : World MockDataplane} {clock : Nat → ℚ} {c : Int} (hc : c ≠ key)
    (hdp : Agree c d.dataplane w.dataplane) :
    SameAt c d (Daemon.put key w { d with clock := clock }) := by
  refine ⟨?_, hdp⟩
  rw [Daemon.put, Dict.get?_set, if_neg fun heq => hc heq.symm]

/-- **What a datagram does**: on two daemons that have the same tunnel under the CCID that it is
addressed to, the same to that tunnel, and nothing to any other. -/
theorem sameAt_handle {buf : Bytes} (clock : Nat → ℚ)
    (hkeyed : ∀ t, d.tunnels.get? (peekCcid buf) = some t → (Parts.keyed (peekCcid buf)).Holds t)
    (h : SameAt (peekCcid buf) d d') :
    SameAt (peekCcid buf) (handleAt hmac clock buf d) (handleAt hmac clock buf d') ∧
      (∀ c, c ≠ peekCcid buf → SameAt c d (handleAt hmac clock buf d)) ∧
      ∀ c, c ≠ peekCcid buf → SameAt c d' (handleAt hmac clock buf d') := by
  have haddr : Crash.addressee { d' with clock := clock } buf
      = Crash.addressee { d with clock := clock } buf := by
    unfold Crash.addressee
    split
    · rfl
    · exact h.tunnel
  unfold handleAt
  -- dropped on both sides, or taken by the same tunnel on both
  rcases Crash.dispatchDatagram_cases hmac { d with clock := clock } buf with ⟨hnone, hrun⟩ |
      ⟨t, _, _, rfl, hsome, hget, rfl, hrun⟩ <;>
    rcases Crash.dispatchDatagram_cases hmac { d' with clock := clock } buf with ⟨hnone', hrun'⟩ |
      ⟨t', _, _, rfl, hsome', hget', rfl, hrun'⟩
  · rw [hrun, hrun']
    exact ⟨⟨h.tunnel, h.dataplane⟩, fun c _ => ⟨rfl, .refl c _⟩, fun c _ => ⟨rfl, .refl c _⟩⟩
  · rw [haddr, hnone] at hsome'
    cases hsome'
  · rw [haddr, hsome] at hnone'
    cases hnone'
  · obtain rfl : t' = t := by
      rw [haddr, hsome] at hsome'
      exact (Option.some.inj hsome').symm
    have hparts := hkeyed t' hget
    have hstart : Beside (peekCcid buf) d.dataplane d'.dataplane
        (Daemon.world { d with clock := fun n => clock (n + 1) } t')
        (Daemon.world { d' with clock := fun n => clock (n + 1) } t') :=
      ⟨rfl, rfl, rfl, hparts.cfg, Parts.keyed_of_holds hparts, h.dataplane,
        fun c _ => Agree.refl c _, fun c _ => Agree.refl c _⟩
    obtain ⟨hend, -⟩ := beside_handleDatagram hmac buf _ _ hstart
    rw [hrun, hrun']
    refine ⟨⟨?_, hend.own⟩, fun c hc => sameAt_put hc (hend.left c hc),
      fun c hc => sameAt_put hc (hend.right c hc)⟩
    show ((d'.tunnels.set (peekCcid buf) _).get? (peekCcid buf))
      = (d.tunnels.set (peekCcid buf) _).get? (peekCcid buf)
    rw [Dict.get?_set_self, Dict.get?_set_self, hend.tunnel]

/-- What a handled datagram makes a tunnel send goes to the tunnel's remote address. -/
theorem sent_handle (hmac : Hmac) (buf : Bytes) (d : Daemon MockDataplane) :
    ∃ out, (Daemon.dispatchDatagram hmac buf d).2.sent = d.sent ++ out ∧ ∀ entry ∈ out,
      ∃ t, d.tunnels.get? (peekCcid buf) = some t ∧ entry.1 = t.cfg.remoteAddress := by
  -- a datagram that is dropped sends nothing
  rcases Crash.dispatchDatagram_cases hmac d buf with ⟨-, hrun⟩ | ⟨t, _, _, rfl, -, hget, rfl, hrun⟩
  · exact ⟨[], by rw [hrun]; simp, by simp⟩
  · have hstable : Parts.Stable ⟨(· = t.cfg), fun _ => True, fun _ => True, fun _ _ => True⟩ :=
      { link := fun _ _ => trivial
        learn := fun _ _ => trivial
        receive := fun _ _ => trivial
        tick := fun _ _ => trivial
        fsm := fun _ _ => trivial
        session := fun _ _ => trivial }
    have hcfg : (handleDatagram hmac buf
        (Daemon.world { d with clock := fun n => d.clock (n + 1) } t)).2.tunnel.cfg = t.cfg :=
      (hstable.handleDatagram buf _ ⟨rfl, trivial, trivial, fun _ _ _ => trivial⟩).cfg
    rw [hrun]
    refine ⟨_, rfl, fun entry hentry => ⟨t, hget, ?_⟩⟩
    obtain ⟨wire, -, rfl⟩ := List.mem_map.mp hentry
    exact congrArg TunnelConfigEntry.remoteAddress hcfg

/-- **Tunnels do not interfere.** In every state that a daemon reaches, a datagram changes at
most the tunnel whose local CCID it is addressed to, and no entry of the dataplane under another
local CCID; what is sent in return goes to the remote address of that tunnel. Two datagrams for
different tunnels, each handled at its own time, have the same effect in either order. -/
theorem tunnels_isolated (hmac : Hmac) (cfg : DaemonConfig) (dataplane : Option MockDataplane)
    (clock : Nat → ℚ) (d : Daemon MockDataplane)
    (hd : Transition.Reach (Daemon.step hmac) (fun _ _ => True)
      (Daemon.init cfg dataplane clock) d) (buf : Bytes) :
    (∀ ccid t, d.tunnels.get? ccid = some t → t.cfg.localCcid = ccid) ∧
    (∀ ccid, ccid ≠ peekCcid buf → SameAt ccid d (Daemon.dispatchDatagram hmac buf d).2) ∧
    (∃ out, (Daemon.dispatchDatagram hmac buf d).2.sent = d.sent ++ out ∧ ∀ entry ∈ out,
      ∃ t, d.tunnels.get? (peekCcid buf) = some t ∧ entry.1 = t.cfg.remoteAddress) ∧
    ∀ buf' clock₁ clock₂, peekCcid buf' ≠ peekCcid buf → ∀ ccid,
      SameAt ccid (handleAt hmac clock₂ buf' (handleAt hmac clock₁ buf d))
        (handleAt hmac clock₁ buf (handleAt hmac clock₂ buf' d)) := by
  have hruns : d.Runs cfg fun ccid t => (Parts.keyed ccid).Holds t :=
    Daemon.runs_of_reach hd (fun tcfg _ => Parts.keyed_holds_init tcfg)
      fun ccid e => (Parts.keyed_stable ccid).handle e
  have hself : ∀ c, SameAt c d d := fun c => ⟨rfl, .refl c _⟩
  have hhandle : ∀ buf clock {d' : Daemon MockDataplane}, SameAt (peekCcid buf) d d' →
      SameAt (peekCcid buf) (handleAt hmac clock buf d) (handleAt hmac clock buf d') ∧
        (∀ c, c ≠ peekCcid buf → SameAt c d (handleAt hmac clock buf d)) ∧
        ∀ c, c ≠ peekCcid buf → SameAt c d' (handleAt hmac clock buf d') :=
    fun buf clock _ h => sameAt_handle clock (hruns.tunnels _) h
  refine ⟨fun ccid t hget => (hruns.tunnels ccid t hget).cfg, ?_, sent_handle hmac buf d, ?_⟩
  · exact (hhandle buf d.clock (hself _)).2.1
  · intro buf' clock₁ clock₂ hne ccid
    have hfirst := (hhandle buf clock₁ (hself _)).2.1
    have hfirst' := (hhandle buf' clock₂ (hself _)).2.1
    have hsecond := hhandle buf' clock₂ (hfirst _ hne)
    have hsecond' := hhandle buf clock₁ (hfirst' _ hne.symm)
    by_cases hccid : ccid = peekCcid buf
    · -- the second datagram is not for this tunnel
      rw [hccid]
      exact (hsecond.2.2 _ hne.symm).symm.trans hsecond'.1
    -- the first datagram is not for this tunnel, or neither is
    · by_cases hccid' : ccid = peekCcid buf'
      · rw [hccid']
        exact hsecond.1.symm.trans (hsecond'.2.2 _ hne)
      · exact ((hfirst ccid hccid).trans (hsecond.2.2 ccid hccid')).symm.trans
          ((hfirst' ccid hccid').trans (hsecond'.2.2 ccid hccid))

/-- A second tunnel beside `spoke`. -/
def rim : TunnelConfigEntry := { Dispatch.spoke with name := "rim", localCcid := 101 }

/-- A daemon with both tunnels, after it started. -/
def bothStarted : Daemon MockDataplane :=
  Daemon.step ControlMessage.sumHmac
    (Daemon.init ⟨[Dispatch.spoke, rim]⟩ (some {}) fun _ => 0) .start

/-- A HELLO to the first tunnel leaves the second one as it is. -/
theorem tunnels_isolated_hello :
    (bothStarted.tunnels.get? 101).isSome = true ∧
    (Daemon.dispatchDatagram ControlMessage.sumHmac Dispatch.hello bothStarted).2.tunnels.get? 101
      = bothStarted.tunnels.get? 101 :=
  ⟨by decide +kernel, ((tunnels_isolated ControlMessage.sumHmac ⟨[Dispatch.spoke, rim]⟩ (some {})
    (fun _ => 0) bothStarted (.next .start trivial) Dispatch.hello).2.1 101
    (by decide +kernel)).tunnel⟩

end Isolation

end L2tpv3d
