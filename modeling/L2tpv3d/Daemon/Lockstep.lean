import L2tpv3d.Daemon.Shared
import L2tpv3d.Daemon.StandIn

/-!
# L2tpv3d — a daemon on the mock and a daemon on the kernel

A tunnel learns nothing of its dataplane but whether a call raised. So two daemons on different
dataplanes do the same as long as the calls end the same way.

* `StandsIn S` — whatever one dataplane does without raising, the other does too, and they stay
  related by `S`.
* `InStep` — two calls of a tunnel on such dataplanes; `inStep_handle` — every handler.
* **`in_step`** — the daemon on `ip` does what the daemon on the mock does, on a machine that does
  what it can.
* **`kernel_is_what_is_up`** — so the kernel holds what is up, and nothing after `stop`.
-/

namespace L2tpv3d

open Py Prog

namespace Lockstep

open Tunnel World

/-! ## Calls of a tunnel

A tunnel sees the dataplane only through whether there is one, and through `_tunnel_dp_added`. So a
handler is followed statement by statement until a call of the dataplane raises on one side. -/

section InStep

variable {δ δ' : Type} {S : δ → δ' → Prop} {α β : Type}

/-- The second call does what the first one does, if that returns. -/
def Obeys (S : δ → δ' → Prop) (m : Prog δ α) (m' : Prog δ' α) : Prop :=
  ∀ dp dp', S dp dp' → (m dp).1.isOk = true → (m' dp').1.isOk = true ∧ S (m dp).2 (m' dp').2

/-- The same tunnel, on dataplanes that `S` relates. -/
structure Twins (S : δ → δ' → Prop) (w : World δ) (v : World δ') : Prop where
  tunnel : v.tunnel = w.tunnel
  clock : v.clock = w.clock
  sent : v.sent = w.sent
  dispatched : v.dispatched = w.dispatched
  notices : v.notices = w.notices
  dataplane : Option.Rel S w.dataplane v.dataplane

/-- The twins do the same, unless the dataplane of the first raises. -/
structure InStep (S : δ → δ' → Prop) (m : Prog (World δ) α) (m' : Prog (World δ') α) : Prop where
  faults : Keeps (fun w => w.faults ≠ []) m
  next : ∀ w v, Twins S w v → (m w).2.faults = [] →
    Twins S (m w).2 (m' v).2 ∧ Matches (m w).1 (m' v).1

/-- Returning. -/
theorem InStep.pure (a : α) : InStep S (Pure.pure a) (Pure.pure a) :=
  ⟨Keeps.pure a, fun _ _ h _ => ⟨h, rfl⟩⟩

/-- A computation outside of the tunnel. -/
theorem InStep.ofExcept (x : Except Exn α) : InStep S (ofExcept x) (ofExcept x) :=
  ⟨Keeps.ofExcept x, fun _ _ h _ => ⟨h, .refl x⟩⟩

/-- **One program after another**: a fault in the first would be there in the end. -/
theorem InStep.bind {m : Prog (World δ) α} {m' : Prog (World δ') α} {f : α → Prog (World δ) β}
    {f' : α → Prog (World δ') β} (hm : InStep S m m') (hf : ∀ a, InStep S (f a) (f' a)) :
    InStep S (m >>= f) (m' >>= f') := by
  refine ⟨hm.faults.bind fun a => (hf a).faults, fun w v h hnone => ?_⟩
  have hnext := hm.next w v h
  rw [bind_apply] at hnone ⊢
  rw [bind_apply]
  rcases hw : m w with ⟨e | a, w'⟩
  · simp only [hw] at hnone hnext
    obtain ⟨htwins, hres⟩ := hnext hnone
    rcases hv : m' v with ⟨e' | a', v'⟩
    · rw [hv] at htwins
      exact ⟨htwins, trivial⟩
    · rw [hv] at hres
      exact hres.elim
  · simp only [hw] at hnone hnext
    -- no fault so far, or there would be one in the end
    have hsofar : w'.faults = [] := by
      by_contra hsome
      exact (hf a).faults w' hsome hnone
    obtain ⟨htwins, hres⟩ := hnext hsofar
    rcases hv : m' v with ⟨e' | a', v'⟩
    · rw [hv] at hres
      exact hres.elim
    · rw [hv] at htwins hres
      obtain rfl : a = a' := hres
      exact (hf a).next w' v' htwins hnone

/-- A loop, round by round. -/
theorem InStep.each {ι : Type} {body : ι → Prog (World δ) Unit} {body' : ι → Prog (World δ') Unit}
    (h : ∀ x, InStep S (body x) (body' x)) : ∀ xs, InStep S (each body xs) (each body' xs)
  | [] => .pure ()
  | x :: xs => (h x).bind fun _ => InStep.each h xs

/-- What is done next depends on the tunnel, and on whether there is a dataplane. -/
theorem InStep.get_bind [Nonempty δ'] {f : World δ → Prog (World δ) α}
    {f' : World δ' → Prog (World δ') α} (h : ∀ w v, v.tunnel = w.tunnel →
      v.dataplane.isSome = w.dataplane.isSome → InStep S (f w) (f' v)) :
    InStep S (get >>= f) (get >>= f') := by
  refine ⟨fun w hw => ?_, fun w v htwins hnone => ?_⟩
  · obtain ⟨dp⟩ := ‹Nonempty δ'›
    exact (h w ⟨w.tunnel, w.dataplane.map fun _ => dp, w.clock, [], [], [], []⟩ rfl (by simp)).faults w hw
  · refine (h w v htwins.tunnel ?_).next w v htwins hnone
    have hdp := htwins.dataplane
    cases hw : w.dataplane <;> cases hv : v.dataplane <;> rw [hw, hv] at hdp <;> first | rfl | cases hdp

/-- The same change of the tunnel. -/
theorem InStep.mapTunnel (g : Tunnel → Tunnel) :
    InStep S (modify (World.mapTunnel g)) (modify (World.mapTunnel g)) :=
  ⟨fun _ h => h, fun _ _ h _ =>
    ⟨⟨congrArg g h.tunnel, h.clock, h.sent, h.dispatched, h.notices, h.dataplane⟩, rfl⟩⟩

/-- The clock is the same for both. -/
theorem inStep_loopTime : InStep S loopTime loopTime := by
  refine ⟨fun _ h => h, fun w v h _ => ⟨⟨h.tunnel, ?_, h.sent, h.dispatched, h.notices,
    h.dataplane⟩, ?_⟩⟩
  · show (fun n => v.clock (n + 1)) = fun n => w.clock (n + 1)
    rw [h.clock]
  · show w.clock 0 = v.clock 0
    rw [h.clock]

/-- A datagram is sent by both. -/
theorem inStep_transportSend (wire : Bytes) : InStep S (transportSend wire) (transportSend wire) :=
  ⟨fun _ h => h, fun _ _ h _ => ⟨⟨h.tunnel, h.clock, congrArg (· ++ [wire]) h.sent, h.dispatched,
    h.notices, h.dataplane⟩, rfl⟩⟩

/-- A message is noted by both. -/
theorem inStep_noted (target : Target) (msg : ControlMessage) :
    InStep S (modify fun w => { w with dispatched := w.dispatched ++ [(target, msg)] })
      (modify fun w => { w with dispatched := w.dispatched ++ [(target, msg)] }) :=
  ⟨fun _ h => h, fun _ _ h _ => ⟨⟨h.tunnel, h.clock, h.sent,
    congrArg (· ++ [(target, msg)]) h.dispatched, h.notices, h.dataplane⟩, rfl⟩⟩

/-- A notice is given by both. -/
theorem inStep_notice (notice : Notice) :
    InStep S (modify fun w => { w with notices := w.notices ++ [notice] })
      (modify fun w => { w with notices := w.notices ++ [notice] }) :=
  ⟨fun _ h => h, fun _ _ h _ => ⟨⟨h.tunnel, h.clock, h.sent, h.dispatched,
    congrArg (· ++ [notice]) h.notices, h.dataplane⟩, rfl⟩⟩

/-- Without a dataplane nothing is called. -/
theorem onDataplane_none {m : Prog δ α} {w : World δ} (hdp : w.dataplane = none) :
    onDataplane m w = (.ok false, w) := by
  simp [onDataplane, hdp]

/-- A call that raised leaves its exception in the log of faults. -/
theorem onDataplane_error {m : Prog δ α} {w : World δ} {dp dp' : δ} {e : Exn}
    (hdp : w.dataplane = some dp) (hcall : m dp = (.error e, dp')) : onDataplane m w
      = (.ok false, { w with dataplane := some dp', faults := w.faults ++ [e] }) := by
  simp [onDataplane, hdp, hcall]

/-- **A call of the dataplane**: only here can the two differ, and then the first raised. -/
theorem inStep_onDataplane {m : Prog δ α} {m' : Prog δ' α} (hm : Obeys S m m') :
    InStep S (onDataplane m) (onDataplane m') := by
  refine ⟨fun w hw => ?_, fun w v h hnone => ?_⟩
  · cases hdp : w.dataplane with
    | none =>
      rw [onDataplane_none hdp]
      exact hw
    | some dp =>
      rcases hrun : m dp with ⟨e | a, dp'⟩
      · rw [onDataplane_error hdp hrun]
        simp
      · rw [onDataplane_ok hdp hrun]
        exact hw
  · have hrel := h.dataplane
    cases hdp : w.dataplane with
    | none =>
      rw [hdp] at hrel
      cases hdp' : v.dataplane with
      | some dp' =>
        rw [hdp'] at hrel
        cases hrel
      | none =>
        rw [onDataplane_none hdp, onDataplane_none hdp']
        exact ⟨h, rfl⟩
    | some dp =>
      rw [hdp] at hrel
      cases hdp' : v.dataplane with
      | none =>
        rw [hdp'] at hrel
        cases hrel
      | some dp' =>
        rw [hdp'] at hrel
        obtain hS : S dp dp' := Option.rel_some_some.mp hrel
        -- the first raised, which leaves a fault; or it returned, and so does the second
        rcases hrun : m dp with ⟨e | a, dp₁⟩
        · rw [onDataplane_error hdp hrun] at hnone
          simp at hnone
        · obtain ⟨hok, hS'⟩ := hm dp dp' hS (by rw [hrun]; rfl)
          rcases hrun' : m' dp' with ⟨e' | a', dp₁'⟩
          · rw [hrun'] at hok
            cases hok
          · rw [hrun, hrun'] at hS'
            rw [onDataplane_ok hdp hrun, onDataplane_ok hdp' hrun']
            exact ⟨⟨h.tunnel, h.clock, h.sent, h.dispatched, h.notices, .some hS'⟩, rfl⟩

/-- The call of a machine of a session. -/
theorem inStep_onSession (sid : Int) (m : Prog SessionFSM (List SessionAction)) :
    InStep S (onSession sid m) (onSession sid m) := by
  refine ⟨fun w hw => ?_, fun w v h _ => ?_⟩
  · unfold onSession
    cases w.tunnel.sessionsByLocal.get? sid with
    | none => exact hw
    | some s => exact hw
  · unfold onSession
    rw [h.tunnel]
    cases w.tunnel.sessionsByLocal.get? sid with
    | none => exact ⟨h, rfl⟩
    | some s =>
      exact ⟨⟨congrArg (fun t : Tunnel => { t with
        sessionsByLocal := t.sessionsByLocal.set sid (m s).2 }) h.tunnel, h.clock, h.sent,
        h.dispatched, h.notices, h.dataplane⟩, .refl _⟩

/-- A method of the tunnel machine. -/
theorem inStep_onFsm {α : Type} (m : Prog TunnelFSM α) : InStep S (onFsm m) (onFsm m) := by
  refine ⟨fun _ hw => hw, fun w v h _ => ?_⟩
  rw [onFsm_apply, onFsm_apply, h.tunnel]
  exact ⟨⟨congrArg (fun t : Tunnel => { t with fsm := (m w.tunnel.fsm).2 }) h.tunnel, h.clock,
    h.sent, h.dispatched, h.notices, h.dataplane⟩, .refl _⟩

end InStep

/-! ## The handlers of a tunnel

The rules above, applied to the executor, the dispatch and the handlers, bottom up. -/

/-- Whatever `δ` does without raising, `δ'` does too. -/
structure StandsIn {δ δ' : Type} [Dataplane δ] [Dataplane δ'] (S : δ → δ' → Prop) : Prop where
  addTunnel : ∀ params, Obeys S (Dataplane.addTunnel params) (Dataplane.addTunnel params)
  addSession : ∀ params, Obeys S (Dataplane.addSession params) (Dataplane.addSession params)
  delSession : ∀ ccid sid, Obeys S (Dataplane.delSession ccid sid) (Dataplane.delSession ccid sid)
  delTunnel : ∀ ccid, Obeys S (Dataplane.delTunnel ccid) (Dataplane.delTunnel ccid)

section Handlers

variable {δ δ' : Type} [Nonempty δ'] {S : δ → δ' → Prop} {hmac : Hmac}

/-- A send. -/
theorem inStep_send (avps : List AVP) : InStep S (send hmac avps) (send hmac avps) := by
  refine inStep_loopTime.bind fun now => .get_bind fun w v htun _ => ?_
  rw [htun]
  exact (InStep.ofExcept _).bind fun r => (InStep.mapTunnel _).bind fun _ =>
    (InStep.ofExcept _).bind inStep_transportSend

variable [Dataplane δ] [Dataplane δ'] (hS : StandsIn S)

include hS

/-- The call that makes sure of the kernel tunnel. -/
theorem inStep_ensureTunnel :
    InStep S (ensureTunnelDataplane (δ := δ)) (ensureTunnelDataplane (δ := δ')) := by
  refine .get_bind fun w v htun hsome => ?_
  have hnone : v.dataplane.isNone = w.dataplane.isNone := by simpa using congrArg not hsome
  rw [htun, hnone]
  split
  · exact .pure ()
  · refine (inStep_onDataplane (hS.addTunnel _)).bind fun added => ?_
    split
    · exact InStep.mapTunnel _
    · exact .pure ()

/-- An action of a session. -/
theorem inStep_sessionAction (a : SessionAction) :
    InStep S (executeSessionAction hmac a) (executeSessionAction hmac a) := by
  cases a with
  | sendMessage avps => exact inStep_send avps
  | dataplaneAddSession params =>
    exact (inStep_ensureTunnel hS).bind fun _ => (inStep_onDataplane (hS.addSession params)).bind
      fun _ => .pure ()
  | dataplaneDelSession ccid sid =>
    exact (inStep_onDataplane (hS.delSession ccid sid)).bind fun _ => .pure ()
  | sessionEstablished => exact .pure ()
  | sessionTornDown reason => exact .pure ()

/-- The actions of a session, one after the other. -/
theorem inStep_sessionActions (actions : List SessionAction) :
    InStep S (executeSessionActions hmac actions) (executeSessionActions hmac actions) :=
  .each (inStep_sessionAction hS) actions

/-- A call of a session, with its actions. -/
theorem inStep_callSession (sid : Int) (m : Prog SessionFSM (List SessionAction))
    (g : Tunnel → Tunnel) : InStep S (callSession hmac sid m g) (callSession hmac sid m g) :=
  (inStep_onSession sid m).bind fun actions => (InStep.mapTunnel g).bind fun _ =>
    inStep_sessionActions hS actions

/-- The loop over the sessions. -/
theorem inStep_eachSession (m : Prog SessionFSM (List SessionAction)) :
    InStep S (eachSession hmac m) (eachSession hmac m) := by
  refine .get_bind fun w v htun _ => ?_
  rw [htun]
  exact .each (fun sid => (inStep_onSession sid m).bind (inStep_sessionActions hS)) _

/-- An action of the tunnel machine. -/
theorem inStep_tunnelAction (a : TunnelAction) :
    InStep S (executeTunnelAction hmac a) (executeTunnelAction hmac a) := by
  cases a with
  | sendMessage avps => exact inStep_send avps
  | setHelloTimer seconds => exact inStep_loopTime.bind fun now => InStep.mapTunnel _
  | clearHelloTimer => exact InStep.mapTunnel _
  | established => exact (inStep_notice _).bind fun _ => inStep_eachSession hS _
  | tornDown reason =>
    refine (inStep_notice _).bind fun _ => (inStep_eachSession hS _).bind fun _ => ?_
    refine .get_bind fun w v htun hsome => ?_
    rw [htun, hsome]
    split
    · exact (inStep_onDataplane (hS.delTunnel _)).bind fun _ => InStep.mapTunnel _
    · exact .pure ()

/-- A method of the tunnel machine, with its actions. -/
theorem inStep_drive (m : Prog TunnelFSM (List TunnelAction)) :
    InStep S (drive hmac m) (drive hmac m) :=
  (inStep_onFsm m).bind fun actions => .each (inStep_tunnelAction hS) actions

/-- A message to a session. -/
theorem inStep_dispatchSession (msg : ControlMessage) (mt : Int) :
    InStep S (dispatchSessionMessage hmac msg mt) (dispatchSessionMessage hmac msg mt) := by
  refine (inStep_noted _ _).bind fun _ => (InStep.ofExcept _).bind fun keys => ?_
  cases keys with
  | none => exact .pure ()
  | some keys =>
    obtain ⟨localTarget, remoteKey, endId⟩ := keys
    refine .get_bind fun w v htun _ => ?_
    simp only [htun]
    cases w.tunnel.route mt localTarget remoteKey endId with
    | none => exact .pure ()
    | some sid => exact inStep_callSession hS sid _ _

/-- The hand-over. -/
theorem inStep_dispatch (msg : ControlMessage) (delivered : List AVP) :
    InStep S (dispatch hmac msg delivered) (dispatch hmac msg delivered) := by
  refine .get_bind fun w v htun _ => ?_
  rw [htun]
  refine (InStep.ofExcept _).bind fun mt => ?_
  cases mt with
  | none => exact (inStep_noted _ _).bind fun _ => inStep_drive hS _
  | some mt =>
    simp only
    split
    · exact inStep_dispatchSession hS _ mt
    · exact (inStep_noted _ _).bind fun _ => inStep_drive hS _

/-- **A datagram.** -/
theorem inStep_handleDatagram (hmac : Hmac) (buf : Bytes) :
    InStep S (handleDatagram hmac buf) (handleDatagram hmac buf) := by
  refine .get_bind fun w v htun _ => ?_
  rw [htun]
  refine (InStep.ofExcept _).bind fun msg => ?_
  cases msg with
  | none => exact .pure ()
  | some msg =>
    refine (InStep.ofExcept _).bind fun peer => ?_
    rcases peer.receive msg with ⟨⟨delivered, responses⟩, peer'⟩
    refine (InStep.mapTunnel _).bind fun _ => (InStep.each (fun resp => (InStep.ofExcept _).bind
      inStep_transportSend) responses).bind fun _ => ?_
    split
    · exact inStep_dispatch hS msg delivered
    · exact .pure ()

/-- **A tick.** -/
theorem inStep_tick (hmac : Hmac) (now : ℚ) :
    InStep S (Tunnel.tick hmac now) (Tunnel.tick hmac now) := by
  refine .get_bind fun w v htun _ => ?_
  rw [htun]
  rcases w.tunnel.peer.tick now with ⟨result, peer⟩
  refine (InStep.mapTunnel _).bind fun _ => (InStep.ofExcept _).bind fun r => ?_
  obtain ⟨resends, dead⟩ := r
  refine (InStep.each inStep_transportSend resends).bind fun _ => ?_
  cases dead
  · exact .pure _
  · exact (inStep_drive hS _).bind fun _ => .pure _

/-- **A close.** -/
theorem inStep_close (hmac : Hmac) : InStep S (Tunnel.close hmac) (Tunnel.close hmac) :=
  (inStep_drive hS _).bind fun _ => InStep.mapTunnel _

/-- **The HELLO timer.** -/
theorem inStep_helloTimer (hmac : Hmac) :
    InStep S (Tunnel.handle hmac .helloTimer) (Tunnel.handle hmac .helloTimer) := by
  refine .get_bind fun w v htun _ => ?_
  rw [htun]
  split
  · exact (InStep.mapTunnel _).bind fun _ => (InStep.mapTunnel _).bind fun _ => inStep_drive hS _
  · exact .pure ()

end Handlers

/-! ## The two daemons

The handlers return or raise alike, so the loops over the tunnels visit the same ones. -/

open Mirror (Inv)

open Shared (Tenants Vacant tenancy_inv)

section Abreast

variable {δ' : Type} {S : MockDataplane → δ' → Prop} {left : Int → Option MockDataplane → Prop}
  {hmac : Hmac} {d : Daemon MockDataplane} {d' : Daemon δ'}

/-- The two daemons are in the same state, and the dataplane of the first mirrors its tunnels. -/
structure Abreast (S : MockDataplane → δ' → Prop) (left : Int → Option MockDataplane → Prop)
    (d : Daemon MockDataplane) (d' : Daemon δ') : Prop where
  cfg : d'.cfg = d.cfg
  clock : d'.clock = d.clock
  tunnels : d'.tunnels = d.tunnels
  stopping : d'.stopping = d.stopping
  sent : d'.sent = d.sent
  dataplane : Option.Rel S d.dataplane d'.dataplane
  tenants : Tenants Inv left d

/-- What is known of a CCID whose tunnel was removed. -/
def Anything (_ : Int) (_ : Option MockDataplane) : Prop := True

/-- What is left of a tunnel that was removed no longer matters. -/
theorem Abreast.vacated (h : Abreast S Vacant d d') : Abreast S Anything d d' :=
  { h with tenants := ⟨h.tenants.present, h.tenants.tunnels, fun _ _ => trivial⟩ }

/-- **A call of a tunnel's method**: the mirror says that no call of the dataplane raised. -/
theorem paired_onTunnel {α : Type} {m : Prog (World MockDataplane) α} {m' : Prog (World δ') α}
    (hG : Shared.Tenancy hmac Inv left fun _ _ => True) (hm : InStep S m m') (e : Tunnel.Event)
    (heq : ∀ w, (m w).2 = Tunnel.step hmac w e) (ccid : Int) :
    Paired (Abreast S left) (Daemon.onTunnel ccid m) (Daemon.onTunnel ccid m') := by
  intro d d' h
  have htenants := h.tenants.onTunnel hG ccid e heq fun _ _ _ _ => trivial
  cases hget : d.tunnels.get? ccid with
  | none =>
    rw [Daemon.onTunnel_none m hget, Daemon.onTunnel_none m' (h.tunnels ▸ hget)]
    exact ⟨h, rfl⟩
  | some t =>
    rw [Daemon.onTunnel_some m hget] at htenants ⊢
    rw [Daemon.onTunnel_some m' (h.tunnels ▸ hget)]
    have hfaults : (m (d.world t)).2.faults = [] := by
      rw [heq]
      exact (hG.step e (h.tenants.tunnels ccid t hget).2 fun _ _ => trivial).mirrors.faults
    obtain ⟨htwins, hres⟩ := hm.next (d.world t) (d'.world t)
      ⟨rfl, h.clock, rfl, rfl, rfl, h.dataplane⟩ hfaults
    refine ⟨⟨h.cfg, htwins.clock, ?_, h.stopping, ?_, htwins.dataplane, htenants⟩, ?_⟩
    · show d'.tunnels.set ccid _ = d.tunnels.set ccid _
      rw [h.tunnels, htwins.tunnel]
    · show d'.sent ++ _ = d.sent ++ _
      rw [h.sent, htwins.sent, htwins.tunnel]
    -- the two results match: both returned the same, or both raised
    · rcases hr : (m (d.world t)).1 with e | a <;> rcases hr' : (m' (d'.world t)).1 with e' | a' <;>
        rw [hr, hr'] at hres
      · exact trivial
      · exact hres.elim
      · exact hres.elim
      · exact congrArg some hres

variable [Dataplane δ'] [Nonempty δ'] (hS : StandsIn S)

include hS

/-- In the middle of the start: the entries whose turn is to come have no tunnel yet. -/
structure Starting (S : MockDataplane → δ' → Prop) (entries : List TunnelConfigEntry)
    (d : Daemon MockDataplane) (d' : Daemon δ') : Prop where
  abreast : Abreast S Vacant d d'
  distinct : (entries.map (·.localCcid)).Nodup
  absent : ∀ tcfg ∈ entries, d.tunnels.get? tcfg.localCcid = none

/-- A round of the start. -/
theorem Starting.round (hG : Shared.Tenancy hmac Inv Vacant fun _ _ => True) {tcfg : TunnelConfigEntry}
    {entries : List TunnelConfigEntry} (h : Starting S (tcfg :: entries) d d') :
    let body {δ : Type} [Dataplane δ] : Prog (Daemon δ) Unit := do
      modify fun self => { self with tunnels := self.tunnels.set tcfg.localCcid (Tunnel.init tcfg) }
      let _ ← Daemon.onTunnel tcfg.localCcid (Tunnel.start hmac)
    Starting S entries (body d).2 (body d').2 ∧ Matches (body d).1 (body d').1 := by
  intro body
  obtain ⟨hother, hdistinct⟩ := List.nodup_cons.mp h.distinct
  have hconstructed : Abreast S Vacant
      { d with tunnels := d.tunnels.set tcfg.localCcid (Tunnel.init tcfg) }
      { d' with tunnels := d'.tunnels.set tcfg.localCcid (Tunnel.init tcfg) } :=
    { h.abreast with
      tunnels := congrArg (·.set tcfg.localCcid (Tunnel.init tcfg)) h.abreast.tunnels
      tenants := h.abreast.tenants.construct hG (h.absent tcfg List.mem_cons_self) }
  obtain ⟨hend, hres⟩ := ((paired_onTunnel hG (inStep_drive hS TunnelFSM.onLocalOpen) .start
    (fun _ => rfl) tcfg.localCcid).bind fun _ => Paired.pure ()) _ _ hconstructed
  refine ⟨⟨hend, hdistinct, fun tcfg' hmem => ?_⟩, hres⟩
  show ((Daemon.onTunnel tcfg.localCcid (Tunnel.start hmac) >>= fun _ => pure ())
    { d with tunnels := d.tunnels.set tcfg.localCcid (Tunnel.init tcfg) }).2.tunnels.get? _ = none
  rw [bind_pure_snd]
  exact Shared.get?_opened hother h.absent tcfg' hmem

/-- **The start.** -/
theorem abreast_start (cfg : DaemonConfig) (hdistinct : (cfg.tunnels.map (·.localCcid)).Nodup)
    {dp' : δ'} (hdp : S {} dp') (clock : Nat → ℚ) :
    Abreast S Anything (Daemon.step hmac (Daemon.init cfg (some {}) clock) .start)
      (Daemon.step hmac (Daemon.init cfg (some dp') clock) .start) := by
  have hG : Shared.Tenancy hmac Inv Vacant fun _ _ => True :=
    { tenancy_inv hmac with stays := fun hleft hdp => Isolation.Agree.trans hleft hdp }
  have hinit : Abreast S Vacant (Daemon.init cfg (some {}) clock)
      (Daemon.init cfg (some dp') clock) :=
    ⟨rfl, rfl, rfl, rfl, rfl, .some hdp, ⟨rfl, fun c t hget => by simp [Daemon.init] at hget,
      fun c _ => .refl c _⟩⟩
  obtain ⟨rest, hend⟩ := matches_each (R := Starting S) (fun tcfg entries d d' h => h.round hS hG)
    cfg.tunnels ⟨hinit, hdistinct, fun _ _ => rfl⟩
  exact hend.abreast.vacated

/-- **Every event after the start.** -/
theorem paired_handle {e : Daemon.Event} (he : e ≠ .start) :
    Paired (Abreast S Anything) (Daemon.handle hmac e) (Daemon.handle hmac e) := by
  have hG : Shared.Tenancy hmac Inv Anything fun _ _ => True :=
    { tenancy_inv hmac with stays := fun _ _ => trivial }
  have htime : Paired (Abreast S Anything) (Daemon.loopTime (δ := MockDataplane))
      (Daemon.loopTime (δ := δ')) := by
    intro d d' h
    refine ⟨⟨h.cfg, ?_, h.tunnels, h.stopping, h.sent, h.dataplane, ?_⟩, ?_⟩
    · show (fun n => d'.clock (n + 1)) = fun n => d.clock (n + 1)
      rw [h.clock]
    · exact h.tenants.clocked hG _
    · show d.clock 0 = d'.clock 0
      rw [h.clock]
  cases e with
  | start => exact absurd rfl he
  -- `stop()` closes every tunnel, and removes none
  | stop =>
    refine Paired.bind (Paired.modify fun d d' h => ⟨h.cfg, h.clock, h.tunnels, rfl, h.sent,
      h.dataplane, ⟨h.tenants.present, h.tenants.tunnels, h.tenants.removed⟩⟩) fun _ => ?_
    intro d d' h
    rw [get_bind_apply, get_bind_apply, h.tunnels]
    exact Paired.each (fun ccid => (paired_onTunnel hG (inStep_close hS hmac) .close (fun _ => rfl)
      ccid).bind fun _ => Paired.pure ()) _ _ _ h
  -- a tick removes the tunnels whose peer is dead, on both sides
  | tick =>
    refine htime.bind fun now => ?_
    intro d d' h
    rw [get_bind_apply, get_bind_apply, h.tunnels]
    refine Paired.each (fun ccid => (paired_onTunnel hG (inStep_tick hS hmac now) (.tick now)
      (fun w => by rw [Tunnel.step, Tunnel.handle, bind_pure_snd]) ccid).bind fun dead => ?_) _ _ _ h
    split
    · exact Paired.modify fun d d' h => ⟨h.cfg, h.clock, by rw [h.tunnels], h.stopping, h.sent,
        h.dataplane, h.tenants.erase trivial⟩
    · exact Paired.pure ()
  | datagram buf =>
    rw [Daemon.handle, Daemon.handle, Daemon.dispatchDatagram, Daemon.dispatchDatagram]
    split
    · exact Paired.pure ()
    · refine (Paired.ofExcept _).bind fun ccid => ?_
      intro d d' h
      rw [get_bind_apply, get_bind_apply, h.tunnels]
      split
      · exact (htime.bind fun _ => (paired_onTunnel hG (inStep_handleDatagram hS hmac buf)
          (.datagram buf) (fun _ => rfl) ccid).bind fun _ => Paired.pure ()) d d' h
      · exact ⟨h, rfl⟩
  | helloTimer ccid =>
    exact (paired_onTunnel hG (inStep_helloTimer hS hmac) .helloTimer (fun _ => rfl) ccid).bind
      fun _ => Paired.pure ()

end Abreast

/-! ## The mock and the kernel

What the mock does without raising, the commands do too when `ip` succeeds at what the kernel state
allows. The mock does not raise along the run of a daemon, as was shown of it alone. -/

open StandIn (Obliging Matched)

section Kernel

variable {outcome : Nat → List String → Kernel → CompletedProcess} {hmac : Hmac}

/-- The mock and the dataplane that runs `ip` hold the same, and so does the kernel. -/
def SameHoldings (outcome : Nat → List String → Kernel → CompletedProcess) (mock : MockDataplane)
    (command : IpCommandDataplane) : Prop := Matched outcome { mock, command }

instance : Nonempty IpCommandDataplane := ⟨{ ip := "ip", host := { outcome := fun _ _ _ => ⟨0, "", ""⟩ } }⟩

/-- One call: what the mock does without raising conflicts with nothing. -/
theorem obeys_perform (ho : Obliging outcome) (call : DataplaneCall) :
    Obeys (SameHoldings outcome) (call.perform (δ := MockDataplane)) call.perform := by
  intro mock command h hok
  have hno : ¬ StandIn.Conflicts mock call := by
    -- only a tunnel that is known with other parameters makes the mock raise
    cases call with
    | addTunnel params =>
      rintro ⟨existing, hget, hne⟩
      have hraises : (MockDataplane.addTunnel params mock).1.isOk = false := by
        simp only [MockDataplane.addTunnel, get_bind_apply, hget, if_pos hne]
        rfl
      rw [show (DataplaneCall.perform (.addTunnel params) mock).1.isOk = false from hraises] at hok
      cases hok
    | _ => exact id
  have hstep := Matched.step h ho hno
  have hraised := hstep.raised _ (List.mem_append_right _ (List.mem_singleton_self _))
  refine ⟨?_, ⟨⟨by simp, hstep.tunnels, hstep.sessions⟩, hstep.tracked, hstep.machine⟩⟩
  simpa [hok] using hraised.symm

/-- **The commands stand in for the mock** while `ip` obliges. -/
theorem standsIn (ho : Obliging outcome) : StandsIn (SameHoldings outcome) where
  addTunnel params := obeys_perform ho (.addTunnel params)
  addSession params := by
    -- the name that is returned is dropped by `perform`
    have hdrop : ∀ {σ : Type} (m : Prog σ String) (s : σ),
        ((m >>= fun _ => pure () : Prog σ Unit) s).1.isOk = (m s).1.isOk := by
      intro σ m s
      rw [bind_apply]
      rcases m s with ⟨_ | _, _⟩ <;> rfl
    intro mock command h hok
    have hobeys := obeys_perform ho (.addSession params) mock command h
    simp only [DataplaneCall.perform, hdrop, bind_pure_snd] at hobeys
    exact hobeys hok
  delSession ccid sid := obeys_perform ho (.delSession ccid sid)
  delTunnel ccid := obeys_perform ho (.delTunnel ccid)

/-- The daemon on the mock and the daemon on `ip` are in the same state; the two dataplanes hold the
same, and so does the kernel. -/
structure SameState (d : Daemon MockDataplane) (d' : Daemon IpCommandDataplane) : Prop where
  tunnels : d'.tunnels = d.tunnels
  sent : d'.sent = d.sent
  clock : d'.clock = d.clock
  stopping : d'.stopping = d.stopping
  dataplane : ∃ mock command, d.dataplane = some mock ∧ d'.dataplane = some command ∧
    command.tunnels = mock.tunnels ∧ command.sessions = mock.sessions ∧ command.Tracked

/-- Two daemons that are abreast are in the same state. -/
theorem Abreast.sameState {d : Daemon MockDataplane} {d' : Daemon IpCommandDataplane}
    (h : Abreast (SameHoldings outcome) Anything d d') : SameState d d' := by
  refine ⟨h.tunnels, h.sent, h.clock, h.stopping, ?_⟩
  obtain ⟨mock, hmock⟩ := Option.isSome_iff_exists.mp h.tenants.present
  have hrel := h.dataplane
  rw [hmock] at hrel
  cases hcommand : d'.dataplane with
  | none =>
    rw [hcommand] at hrel
    cases hrel
  | some command =>
    rw [hcommand] at hrel
    have hsame : SameHoldings outcome mock command := Option.rel_some_some.mp hrel
    exact ⟨mock, command, hmock, rfl, hsame.tunnels, hsame.sessions, hsame.tracked⟩

/-- The daemon, started on this dataplane, after these events. -/
def after {δ : Type} [Dataplane δ] (hmac : Hmac) (cfg : DaemonConfig) (dp : δ) (clock : Nat → ℚ)
    (events : List Daemon.Event) : Daemon δ :=
  events.foldl (Daemon.step hmac) (Daemon.step hmac (Daemon.init cfg (some dp) clock) .start)

/-- The dataplane that runs `ip`, just constructed. -/
def commands (ip : String) (outcome : Nat → List String → Kernel → CompletedProcess) :
    IpCommandDataplane := { ip, host := { outcome } }

/-- **The start** puts the two abreast. -/
theorem abreast_started (hmac : Hmac) (ho : Obliging outcome) (cfg : DaemonConfig)
    (hdistinct : (cfg.tunnels.map (·.localCcid)).Nodup) (clock : Nat → ℚ) (ip : String) :
    Abreast (SameHoldings outcome) Anything
      (Daemon.step hmac (Daemon.init cfg (some {}) clock) .start)
      (Daemon.step hmac (Daemon.init cfg (some (commands ip outcome)) clock) .start) :=
  abreast_start (standsIn ho) cfg hdistinct (Matched.start ip outcome) clock

/-- **Every run after it** keeps them so. -/
theorem Abreast.run (ho : Obliging outcome) {events : List Daemon.Event}
    (hevents : ∀ e ∈ events, e ≠ .start) {d : Daemon MockDataplane} {d' : Daemon IpCommandDataplane}
    (h : Abreast (SameHoldings outcome) Anything d d') : Abreast (SameHoldings outcome) Anything
      (events.foldl (Daemon.step hmac) d) (events.foldl (Daemon.step hmac) d') := by
  induction events generalizing d d' with
  | nil => exact h
  | cons e events ih =>
    exact ih (fun e' he' => hevents e' (List.mem_cons_of_mem _ he'))
      (paired_handle (standsIn ho) (hevents e List.mem_cons_self) d d' h).1

/-- **The mock is a faithful stand-in for a whole daemon.** On a machine that carries out every
`ip` command that can be carried out, the daemon with `IpCommandDataplane` and the daemon with
`MockDataplane`, started with the same configuration with distinct CCIDs, go in lockstep: after any
events they have the same tunnels, have sent the same datagrams and hold the same tunnels and
sessions, which are those of the kernel; and every handler returns on both or raises on both. -/
theorem in_step (hmac : Hmac) (cfg : DaemonConfig) (hdistinct : (cfg.tunnels.map (·.localCcid)).Nodup)
    (clock : Nat → ℚ) (ip : String) (ho : Obliging outcome) (events : List Daemon.Event)
    (hevents : ∀ e ∈ events, e ≠ .start) :
    SameState (after hmac cfg ({} : MockDataplane) clock events)
      (after hmac cfg (commands ip outcome) clock events) ∧
    ∀ e, e ≠ .start → Matches (Daemon.handle hmac e (after hmac cfg ({} : MockDataplane) clock events)).1
      (Daemon.handle hmac e (after hmac cfg (commands ip outcome) clock events)).1 := by
  have h : Abreast (SameHoldings outcome) Anything (after hmac cfg {} clock events)
      (after hmac cfg (commands ip outcome) clock events) :=
    (abreast_started hmac ho cfg hdistinct clock ip).run ho hevents
  exact ⟨h.sameState, fun e he => (paired_handle (standsIn ho) he _ _ h).2⟩

open Mirror (gateway)

open Shared (lonely call)

/-- A session that came up in both. -/
theorem in_step_call :
    ((after ControlMessage.sumHmac ⟨[gateway, lonely]⟩ ({} : MockDataplane) (fun _ => 0)
      call).dataplane.bind fun dp => dp.remoteSid? 100 1) = some 7 ∧
    SameState (after ControlMessage.sumHmac ⟨[gateway, lonely]⟩ {} (fun _ => 0) call)
      (after ControlMessage.sumHmac ⟨[gateway, lonely]⟩ (commands "/sbin/ip" StandIn.willing)
        (fun _ => 0) call) :=
  ⟨by decide +kernel, (in_step ControlMessage.sumHmac ⟨[gateway, lonely]⟩ (by decide) (fun _ => 0)
    "/sbin/ip" StandIn.obliging_willing call (by simp [call])).1⟩

/-! ## The kernel

The kernel holds what the tables of the object hold, these hold what the mock holds, and the mock
holds what is up. -/

/-- The kernel holds the sessions that are up, and the tunnels of those that were added. All of it
belongs to tunnels that are established. -/
structure KernelHoldsWhatIsUp (d : Daemon IpCommandDataplane) (k : Kernel) : Prop where
  sessions : ∀ ccid sid, k.sessions.contains (ccid, sid) = true ↔
    ∃ t s, d.tunnels.get? ccid = some t ∧ t.sessionsByLocal.get? sid = some s ∧
      s.state = .established
  tunnels : ∀ ccid, ccid ∈ k.tunnels ↔
    ∃ t, d.tunnels.get? ccid = some t ∧ t.fsm.state = .established ∧ t.tunnelDpAdded = true
  down : ∀ ccid t, d.tunnels.get? ccid = some t → t.fsm.state ≠ .established → t.AllIdle

/-- The tunnel of a session that is up is established. -/
theorem KernelHoldsWhatIsUp.established {d : Daemon IpCommandDataplane} {k : Kernel}
    (h : KernelHoldsWhatIsUp d k) {ccid sid : Int} {t : Tunnel} {s : SessionFSM}
    (hget : d.tunnels.get? ccid = some t) (hs : t.sessionsByLocal.get? sid = some s)
    (hup : s.state = .established) : t.fsm.state = .established := by
  by_contra hdown
  have hidle : s.state = .idle := h.down ccid t hget hdown sid s hs
  rw [hidle] at hup
  cases hup

open Shared (Allowed NoEarlyCall tenancy_settled leaves_settled HoldsWhatIsUp)

open Pseudowire (Settled)

open Steady (Able)

/-- The daemon on `ip` has a twin on the mock that holds what is up. -/
structure Twinned (outcome : Nat → List String → Kernel → CompletedProcess) (cfg : DaemonConfig)
    (d : Daemon MockDataplane) (d' : Daemon IpCommandDataplane) : Prop where
  abreast : Abreast (SameHoldings outcome) Anything d d'
  tenants : Tenants Settled Vacant d
  runs : d.Runs cfg fun _ => Able

/-- **One event** of both daemons. -/
theorem Twinned.step (ho : Obliging outcome) {cfg : DaemonConfig} (hacc : cfg.Accepted)
    (henc : ∀ t ∈ cfg.tunnels, t.Encodes) {d : Daemon MockDataplane}
    {d' : Daemon IpCommandDataplane} (h : Twinned outcome cfg d d') {e : Daemon.Event}
    (he : Allowed (NoEarlyCall hmac) d' e) :
    Twinned outcome cfg (Daemon.step hmac d e) (Daemon.step hmac d' e) := by
  have hne : e ≠ .start := by
    rintro rfl
    exact he
  have he' : Allowed (NoEarlyCall hmac) d e := by
    -- what is allowed of the one daemon is allowed of the other
    cases e with
    | datagram buf => exact fun t hget => he t (h.abreast.tunnels ▸ hget)
    | start => exact absurd rfl hne
    | stop | tick | helloTimer ccid => exact trivial
  refine ⟨(paired_handle (standsIn ho) hne d d' h.abreast).1,
    h.tenants.step (tenancy_settled hmac) (leaves_settled hmac) he', ?_⟩
  exact Daemon.keeps_handle (fun tcfg hmem => Steady.able_init (hacc.tunnels tcfg hmem)
    (henc tcfg hmem)) (fun _ e => Steady.keeps_able e) e d h.runs

/-- What the mock holds of the twin, the kernel holds. -/
theorem Twinned.kernel {cfg : DaemonConfig} {d : Daemon MockDataplane}
    {d' : Daemon IpCommandDataplane} (h : Twinned outcome cfg d d') :
    ∃ command, d'.dataplane = some command ∧ KernelHoldsWhatIsUp d' command.host.kernel := by
  obtain ⟨mock, command, hmock, hcommand, htunnels, hsessions, htracked⟩ := h.abreast.sameState.dataplane
  obtain ⟨dp, hdp, hup, hadded, hdown⟩ := h.tenants.holdsWhatIsUp
  obtain rfl : mock = dp := Option.some.inj (hmock.symm.trans hdp)
  refine ⟨command, hcommand, ⟨fun ccid sid => ?_, fun ccid => ?_, fun ccid t hget => ?_⟩⟩
  -- a kernel session is a session of the mock
  · rw [htracked.sessions, hsessions, h.abreast.tunnels, Dict.contains_iff]
    constructor
    · rintro ⟨params, hget⟩
      have hsid : mock.remoteSid? ccid sid = some params.remoteSid := by
        rw [MockDataplane.remoteSid?, hget]
        rfl
      obtain ⟨t, s, ht, hs, hest, -⟩ := (hup ccid sid params.remoteSid).mp hsid
      exact ⟨t, s, ht, hs, hest⟩
    · rintro ⟨t, s, ht, hs, hest⟩
      have hsid := (hup ccid sid s.peerSid).mpr ⟨t, s, ht, hs, hest, rfl⟩
      obtain ⟨params, hget, -⟩ := Option.map_eq_some_iff.mp hsid
      exact ⟨params, hget⟩
  · rw [htracked.tunnels, htunnels, h.abreast.tunnels]
    exact hadded ccid
  · rw [h.abreast.tunnels] at hget
    exact hdown ccid t hget

/-- **The kernel holds what is up.** For every daemon with `IpCommandDataplane`, built from an
accepted configuration with distinct CCIDs whose texts and speeds fit their AVPs, on a machine that
carries out every `ip` command that can be carried out: in every state that any events lead to
after the start, if no ICRQ finds a session of a tunnel that is down, the L2TP sessions of the
kernel are the ESTABLISHED sessions of the tunnels in the table, all of them sessions of
ESTABLISHED tunnels; and `stop` leaves the kernel with no tunnel and no session. -/
theorem kernel_is_what_is_up (hmac : Hmac) (cfg : DaemonConfig) (hacc : cfg.Accepted)
    (henc : ∀ t ∈ cfg.tunnels, t.Encodes) (hdistinct : (cfg.tunnels.map (·.localCcid)).Nodup)
    (clock : Nat → ℚ) (ip : String) (ho : Obliging outcome) (d : Daemon IpCommandDataplane)
    (hd : Transition.Reach (Daemon.step hmac) (Allowed (NoEarlyCall hmac))
      (Daemon.step hmac (Daemon.init cfg (some (commands ip outcome)) clock) .start) d) :
    (∃ command, d.dataplane = some command ∧ KernelHoldsWhatIsUp d command.host.kernel) ∧
    ∃ command, (Daemon.step hmac d .stop).dataplane = some command ∧
      (∀ key, command.host.kernel.sessions.contains key = false) ∧
      command.host.kernel.tunnels = ∅ := by
  have hfresh : ∀ tcfg ∈ cfg.tunnels, Able (Tunnel.init tcfg) :=
    fun tcfg hmem => Steady.able_init (hacc.tunnels tcfg hmem) (henc tcfg hmem)
  have hstart : Twinned outcome cfg (Daemon.step hmac (Daemon.init cfg (some {}) clock) .start)
      (Daemon.step hmac (Daemon.init cfg (some (commands ip outcome)) clock) .start) := by
    refine ⟨abreast_started hmac ho cfg hdistinct clock ip,
      Shared.tenants_start (tenancy_settled hmac) cfg hdistinct clock, ?_⟩
    exact Daemon.runs_of_reach (Transition.Reach.start.next trivial) hfresh
      fun _ e => Steady.keeps_able e
  obtain ⟨twin, htwin⟩ : ∃ twin, Twinned outcome cfg twin d :=
    hd.invariant (I := fun d => ∃ twin, Twinned outcome cfg twin d) ⟨_, hstart⟩
      fun d e ⟨twin, h⟩ he => ⟨_, h.step ho hacc henc he⟩
  refine ⟨htwin.kernel, ?_⟩
  have hstopped : Twinned outcome cfg (Daemon.step hmac twin .stop) (Daemon.step hmac d .stop) :=
    htwin.step ho hacc henc trivial
  -- after `stop` no tunnel of the twin is established, so nothing is up
  obtain ⟨command, hcommand, hholds⟩ := hstopped.kernel
  have hdown := Shared.stop_down hmac htwin.runs
  rw [← hstopped.abreast.tunnels] at hdown
  refine ⟨command, hcommand, fun ⟨ccid, sid⟩ => ?_, ?_⟩
  · rw [Bool.eq_false_iff]
    intro hin
    obtain ⟨t, s, ht, hs, hup⟩ := (hholds.sessions ccid sid).mp hin
    exact hdown ccid t ht (hholds.established ht hs hup)
  · refine Finset.eq_empty_of_forall_notMem fun ccid hin => ?_
    obtain ⟨t, ht, hup, -⟩ := (hholds.tunnels ccid).mp hin
    exact hdown ccid t ht hup

/-- The daemon on `ip` after the call. -/
def calledOnKernel : Daemon IpCommandDataplane :=
  after ControlMessage.sumHmac ⟨[gateway, lonely]⟩ (commands "/sbin/ip" StandIn.willing) (fun _ => 0)
    call

/-- After the call the kernel holds its session. -/
theorem kernel_is_what_is_up_call :
    ∃ command, calledOnKernel.dataplane = some command ∧
      KernelHoldsWhatIsUp calledOnKernel command.host.kernel :=
  (kernel_is_what_is_up ControlMessage.sumHmac ⟨[gateway, lonely]⟩ Shared.pair_accepted
    Shared.pair_encodes (by decide) (fun _ => 0) "/sbin/ip" StandIn.obliging_willing calledOnKernel
    (Transition.Reach.run .start (by decide +kernel))).1

end Kernel

end Lockstep

end L2tpv3d
