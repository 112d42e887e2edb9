import L2tpv3d.Daemon.Isolation
import L2tpv3d.Daemon.Pseudowire
import L2tpv3d.Daemon.Steady

/-!
# L2tpv3d — the dataplane that the tunnels of a daemon share

A tunnel calls the dataplane under its own CCID only, so what holds between a tunnel and its
entries is not disturbed by the others, and what a removed tunnel left there stays.

* `Tenancy` — a property of a tunnel and its entries that its handlers keep; `Tenants.step` — then
  every tunnel of the daemon has it after every event.
* `Vacated` — nothing is held for a CCID that is not in the table.
* **`dataplane_is_what_is_up`** — the whole dataplane, and what is left of it after `stop`.
-/

namespace L2tpv3d

open Py Prog

namespace Shared

open Tunnel World Mirror Isolation

open Demux (peekCcid)

open Pseudowire (Settled callTarget)

variable {hmac : Hmac} {ccid : Int} {w v : World MockDataplane} {dp dp' : Option MockDataplane}

/-! ## What one tunnel does to the entries of the others

A tunnel runs in the same way beside any dataplane that holds the same for its CCID, and leaves the
rest of it as it was. -/

/-- A tick, beside a dataplane that differs in the entries of others. -/
theorem beside_tick (now : ℚ) :
    Paired (Beside ccid dp dp') (Tunnel.tick hmac now) (Tunnel.tick hmac now) := by
  intro w v h
  rw [Tunnel.tick, get_bind_apply, get_bind_apply, h.tunnel]
  rcases w.tunnel.peer.tick now with ⟨result, peer⟩
  have hpeer : Paired (Beside ccid dp dp') (modify (withPeer peer)) (modify (withPeer peer)) :=
    Paired.modify fun w v h => h.map rfl h.keyed
  refine hpeer.bind (fun _ => (beside_ofExcept result).bind fun r => ?_) w v h
  obtain ⟨resends, dead⟩ := r
  have hsend : ∀ wire, Paired (Beside ccid dp dp') (transportSend wire) (transportSend wire) :=
    fun wire => Paired.modify fun w v h =>
      ⟨h.tunnel, h.clock, by rw [h.sent], h.cfg, h.keyed, h.own, h.left, h.right⟩
  refine (Paired.each hsend resends).bind fun _ => ?_
  cases dead
  · exact Paired.pure _
  · exact (beside_drive _).bind fun _ => Paired.pure _

/-- **Every handler of a tunnel** has the same effect on both sides, and none on the entries of
the others. -/
theorem beside_handle (e : Tunnel.Event) :
    Paired (Beside ccid dp dp') (Tunnel.handle hmac e) (Tunnel.handle hmac e) := by
  have htimer : ∀ f, Paired (Beside ccid dp dp') (modify (mapTimer f)) (modify (mapTimer f)) :=
    fun _ => Paired.modify fun w v h => h.map rfl h.keyed
  -- each handler is built from parts that do the same on both sides
  cases e with
  | start => exact beside_drive _
  | close => exact (beside_drive _).bind fun _ => htimer _
  | datagram buf => exact beside_handleDatagram hmac buf
  | tick now => exact (beside_tick now).bind fun _ => Paired.pure ()
  | helloTimer =>
    intro w v h
    rw [Tunnel.handle, get_bind_apply, get_bind_apply, h.tunnel]
    split
    · exact (htimer _).bind (fun _ => (htimer _).bind fun _ => beside_drive _) w v h
    · exact Paired.pure () w v h
  | closeSession sid resultCode =>
    exact beside_sessionCall (SessionFSM.method_onLocalClose resultCode) sid onlyIndex_id

/-- What an event of a tunnel leaves alone. -/
theorem frame_step (hmac : Hmac) (hkeyed : w.tunnel.Keyed) (e : Tunnel.Event) :
    (Tunnel.step hmac w e).tunnel.cfg.localCcid = w.tunnel.cfg.localCcid ∧
      ∀ c, c ≠ w.tunnel.cfg.localCcid → Agree c w.dataplane (Tunnel.step hmac w e).dataplane := by
  have h : Beside w.tunnel.cfg.localCcid w.dataplane w.dataplane w w :=
    ⟨rfl, rfl, rfl, rfl, hkeyed, .refl _ _, fun c _ => .refl c _, fun c _ => .refl c _⟩
  have hend : Beside w.tunnel.cfg.localCcid w.dataplane w.dataplane (Tunnel.step hmac w e)
      (Tunnel.step hmac w e) := (beside_handle e w w h).1
  exact ⟨hend.cfg, hend.left⟩

/-! ## Tenancies

A tenancy packages a property of a tunnel and of its entries, with the proofs that the events of the
tunnel keep it and that work on other entries does not disturb it. The daemon is then proved to keep
any tenancy of all its tunnels, once. -/

/-- A property of a tunnel and of its entries in the dataplane. The events keep it, a datagram if it
is `ok`; so does whatever leaves the tunnel and these entries alone. `left` is what is known of the
entries of a CCID that is not in the table. -/
structure Tenancy (hmac : Hmac) (G : World MockDataplane → Prop)
    (left : Int → Option MockDataplane → Prop) (ok : Tunnel → Bytes → Prop) : Prop where
  keyed : ∀ {w}, G w → w.tunnel.Keyed
  fresh : ∀ {cfg : TunnelConfigEntry} {dp : MockDataplane} (clock : Nat → ℚ),
    AgreeOn cfg.localCcid {} dp → G (World.init cfg (some dp) clock)
  congr : ∀ {w w' : World MockDataplane}, G w → w'.tunnel = w.tunnel → w'.faults = [] →
    Agree w.tunnel.cfg.localCcid w.dataplane w'.dataplane → G w'
  step : ∀ {w} (e : Tunnel.Event), G w → (∀ buf, e = .datagram buf → ok w.tunnel buf) →
    G (Tunnel.step hmac w e)
  stays : ∀ {c dp dp'}, left c dp → Agree c dp dp' → left c dp'

/-- What the tunnels that a tick removes leave is as `left` says. -/
def Leaves (hmac : Hmac) (G : World MockDataplane → Prop)
    (left : Int → Option MockDataplane → Prop) : Prop :=
  ∀ {w now w'}, G w → Tunnel.tick hmac now w = (.ok true, w') →
    left w'.tunnel.cfg.localCcid w'.dataplane

/-- Nothing is held for the CCID. -/
def Vacant (c : Int) (dp : Option MockDataplane) : Prop := Agree c (some {}) dp

/-- The invariant of a tunnel looks at its own entries alone. -/
theorem inv_congr (h : Inv w) (htun : v.tunnel = w.tunnel) (hfaults : v.faults = [])
    (hdp : Agree w.tunnel.cfg.localCcid w.dataplane v.dataplane) : Inv v := by
  obtain ⟨dp, hsome, hf, hadded⟩ := h.mirrors.dataplane
  rw [hsome] at hdp
  cases hsome' : v.dataplane with
  | none =>
    rw [hsome'] at hdp
    exact hdp.elim
  | some dp' =>
    rw [hsome'] at hdp
    refine ⟨htun ▸ h.keyed, htun ▸ h.sound, ⟨⟨dp', hsome', fun sid => ?_, ?_⟩, ?_, hfaults⟩,
      htun ▸ h.remoteCcid⟩
    · rw [htun, ← hf sid]
      exact hdp.remoteSid? sid
    · rw [htun, ← hadded]
      exact hdp.contains
    · rw [htun]
      exact h.mirrors.added

/-- The mirror of the session machines; nothing is said of what a removed tunnel leaves. -/
theorem tenancy_inv (hmac : Hmac) : Tenancy hmac Inv (fun _ _ => True) fun _ _ => True where
  keyed h := h.keyed
  fresh clock := inv_init clock
  congr := inv_congr
  step e h _ := (inv_survives hmac).handle e _ h
  stays _ _ := trivial

/-- No ICRQ finds a session of the tunnel while it is down. -/
def NoEarlyCall (hmac : Hmac) (t : Tunnel) (buf : Bytes) : Prop :=
  t.fsm.state ≠ .established → callTarget hmac t buf = none

instance (hmac : Hmac) (t : Tunnel) (buf : Bytes) : Decidable (NoEarlyCall hmac t buf) :=
  inferInstanceAs (Decidable (_ → _))

/-- The mirror of a tunnel that takes no call while it is down. -/
theorem tenancy_settled (hmac : Hmac) : Tenancy hmac Settled Vacant (NoEarlyCall hmac) where
  keyed h := h.inv.keyed
  fresh clock := Pseudowire.settled_init clock
  congr h htun hfaults hdp := ⟨inv_congr h.inv htun hfaults hdp, htun ▸ h.remoteCcid, htun ▸ h.down⟩
  step e h hok := h.step (e := .own e) trivial (by cases e <;> first | trivial | exact hok _ rfl)
  stays h hdp := h.trans hdp

theorem leaves_settled (hmac : Hmac) : Leaves hmac Settled Vacant := by
  intro w now w' h htick
  have hset := h.tick hmac now
  rw [htick] at hset
  obtain ⟨-, dp, hdp, htun, hsess⟩ := hset.vacant (by rw [tick_dead hmac htick]; decide)
  rw [hdp]
  exact ⟨htun, hsess⟩

/-! ## The daemon

The table changes in three ways: a tunnel is at work, a new one comes into the table, or a dead one
leaves it. The loops of `start` and of the tick are rounds of these. -/

variable {d : Daemon MockDataplane}

section Tenants

variable {G : World MockDataplane → Prop} {left : Int → Option MockDataplane → Prop}
  {ok : Tunnel → Bytes → Prop}

/-- Every tunnel of the table in its surroundings, and what the removed ones left. -/
structure Tenants (G : World MockDataplane → Prop) (left : Int → Option MockDataplane → Prop)
    (d : Daemon MockDataplane) : Prop where
  present : d.dataplane.isSome = true
  tunnels : ∀ c t, d.tunnels.get? c = some t → t.cfg.localCcid = c ∧ G (d.world t)
  removed : ∀ c, d.tunnels.get? c = none → left c d.dataplane

/-- What may happen after the daemon was started, once. -/
def Allowed {δ : Type} (ok : Tunnel → Bytes → Prop) (d : Daemon δ) : Daemon.Event → Prop
  | .start => False
  | .datagram buf => ∀ t ∈ d.tunnels.get? (peekCcid buf), ok t buf
  | _ => True

instance {δ : Type} {ok : Tunnel → Bytes → Prop} [∀ t buf, Decidable (ok t buf)] (d : Daemon δ) :
    (e : Daemon.Event) → Decidable (Allowed ok d e)
  | .start => instDecidableFalse
  | .stop | .tick | .helloTimer _ => instDecidableTrue
  | .datagram buf => inferInstanceAs (Decidable (∀ t ∈ d.tunnels.get? (peekCcid buf), ok t buf))

/-- Dataplanes that agree are both there or both missing. -/
theorem Agree.isSome : ∀ {dp dp'}, Agree ccid dp dp' → dp'.isSome = dp.isSome
  | some _, some _, _ => rfl
  | none, none, _ => rfl

/-- **A tunnel was at work**: it has the property, and left the entries of the others alone. -/
theorem Tenants.put (hG : Tenancy hmac G left ok) (h : Tenants G left d) {w' : World MockDataplane}
    (hcfg : w'.tunnel.cfg.localCcid = ccid) (hw' : G w')
    (hframe : ∀ c, c ≠ ccid → Agree c d.dataplane w'.dataplane) :
    Tenants G left (d.put ccid w') := by
  -- the dataplane, the tunnels, and what was removed
  refine ⟨?_, fun c t hget => ?_, fun c hget => ?_⟩
  · exact (Agree.isSome (hframe (ccid + 1) (by omega))).trans h.present
  · rw [Daemon.put, Dict.get?_set] at hget
    split at hget
    · rename_i heq
      cases hget
      exact ⟨hcfg.trans heq, hG.congr hw' rfl rfl (.refl _ _)⟩
    · rename_i hne
      obtain ⟨hcfg', ht⟩ := h.tunnels c t hget
      refine ⟨hcfg', hG.congr ht rfl rfl ?_⟩
      rw [show (d.world t).tunnel.cfg.localCcid = c from hcfg']
      exact hframe c fun heq => hne heq.symm
  · rw [Daemon.put, Dict.get?_set] at hget
    split at hget
    · cases hget
    · rename_i hne
      exact hG.stays (h.removed c hget) (hframe c fun heq => hne heq.symm)

/-- A call of a tunnel's method that does what the handler of `e` does. -/
theorem Tenants.onTunnel (hG : Tenancy hmac G left ok) (h : Tenants G left d) (ccid : Int)
    {α : Type} {m : Prog (World MockDataplane) α} (e : Tunnel.Event)
    (hm : ∀ w, (m w).2 = Tunnel.step hmac w e) (hok : ∀ t buf, d.tunnels.get? ccid = some t → e = .datagram buf → ok t buf) :
    Tenants G left (Daemon.onTunnel ccid m d).2 := by
  -- without the tunnel nothing runs
  cases hget : d.tunnels.get? ccid with
  | none =>
    rw [Daemon.onTunnel_none m hget]
    exact h
  | some t =>
    obtain ⟨hcfg, ht⟩ := h.tunnels ccid t hget
    subst hcfg
    obtain ⟨hcfg, hframe⟩ := frame_step hmac (hG.keyed ht) e
    rw [Daemon.onTunnel_some m hget, hm]
    exact h.put hG hcfg (hG.step e ht fun buf => hok t buf hget) hframe

/-- A dead tunnel leaves the table, and nothing on the dataplane. -/
theorem Tenants.erase (h : Tenants G left d) (hleft : left ccid d.dataplane) :
    Tenants G left { d with tunnels := d.tunnels.erase ccid } := by
  refine ⟨h.present, fun c t hget => h.tunnels c t ?_, fun c hget => ?_⟩
  · rw [Dict.get?_erase] at hget
    split at hget
    · cases hget
    · exact hget
  · rw [Dict.get?_erase] at hget
    split at hget
    · rename_i heq
      exact heq ▸ hleft
    · exact h.removed c hget

/-- The clock went on. -/
theorem Tenants.clocked (hG : Tenancy hmac G left ok) (h : Tenants G left d) (clock : Nat → ℚ) :
    Tenants G left { d with clock } :=
  ⟨h.present, fun c t hget => ⟨(h.tunnels c t hget).1,
    hG.congr (h.tunnels c t hget).2 rfl rfl (.refl _ _)⟩, h.removed⟩

theorem Tenants.tickOne (hG : Tenancy hmac G left ok) (hleaves : Leaves hmac G left) (now : ℚ) (ccid : Int) :
    Keeps (Tenants G left) (do
      match ← Daemon.onTunnel ccid (Tunnel.tick hmac now) with
      | some true => modify fun self => { self with tunnels := self.tunnels.erase ccid }
      | _ => return () : Prog (Daemon MockDataplane) Unit) := by
  intro d h
  have hticked := h.onTunnel hG ccid (m := Tunnel.tick hmac now) (.tick now)
    (fun w => by rw [Tunnel.step, Tunnel.handle, bind_pure_snd]) (by simp)
  rw [bind_apply]
  cases hget : d.tunnels.get? ccid with
  | none =>
    rw [Daemon.onTunnel_none _ hget] at hticked ⊢
    exact hticked
  | some t =>
    rw [Daemon.onTunnel_some _ hget] at hticked ⊢
    rcases htick : Tunnel.tick hmac now (d.world t) with ⟨e | dead, w'⟩
    · rw [htick] at hticked
      exact hticked
    · rw [htick] at hticked
      -- a tunnel whose peer is dead leaves the table
      cases dead with
      | false => exact hticked
      | true =>
        have hcfg : w'.tunnel.cfg.localCcid = ccid := (hticked.tunnels ccid w'.tunnel (by
          rw [Daemon.put, Dict.get?_set_self])).1
        exact hticked.erase (hcfg ▸ hleaves (h.tunnels ccid t hget).2 htick)

/-- The other tunnels stay where they are. -/
theorem get?_onTunnel {α : Type} (m : Prog (World MockDataplane) α) {c : Int} (hc : c ≠ ccid) :
    (Daemon.onTunnel ccid m d).2.tunnels.get? c = d.tunnels.get? c := by
  cases hget : d.tunnels.get? ccid with
  | none => rw [Daemon.onTunnel_none m hget]
  | some t =>
    rw [Daemon.onTunnel_some m hget]
    show (d.tunnels.set ccid _).get? c = _
    rw [Dict.get?_set, if_neg fun heq => hc heq.symm]

/-- A tunnel just constructed comes into the table. -/
theorem Tenants.construct (hG : Tenancy hmac G Vacant ok) (h : Tenants G Vacant d)
    {tcfg : TunnelConfigEntry} (hnew : d.tunnels.get? tcfg.localCcid = none) :
    Tenants G Vacant
      { d with tunnels := d.tunnels.set tcfg.localCcid (Tunnel.init tcfg) } := by
  refine ⟨h.present, fun c t hget => ?_, fun c hget => h.removed c ?_⟩
  · rw [Dict.get?_set] at hget
    split at hget
    · rename_i heq
      cases hget
      -- its place on the dataplane is empty
      obtain ⟨dp, hdp⟩ := Option.isSome_iff_exists.mp h.present
      have hvacant := h.removed tcfg.localCcid hnew
      rw [hdp] at hvacant
      refine ⟨heq, ?_⟩
      show G ⟨Tunnel.init tcfg, d.dataplane, d.clock, [], [], [], []⟩
      rw [hdp]
      exact hG.fresh d.clock hvacant
    · exact h.tunnels c t hget
  · rw [Dict.get?_set] at hget
    split at hget
    · cases hget
    · exact hget

/-- The entries whose turn is to come have no tunnel yet. -/
theorem get?_opened {tcfg : TunnelConfigEntry} {entries : List TunnelConfigEntry}
    (hother : tcfg.localCcid ∉ entries.map (·.localCcid))
    (hnew : ∀ tcfg' ∈ tcfg :: entries, d.tunnels.get? tcfg'.localCcid = none) :
    ∀ tcfg' ∈ entries, (Daemon.onTunnel tcfg.localCcid (Tunnel.start hmac)
      { d with tunnels := d.tunnels.set tcfg.localCcid (Tunnel.init tcfg) }).2.tunnels.get?
        tcfg'.localCcid = none := by
  intro tcfg' hmem
  have hne : tcfg.localCcid ≠ tcfg'.localCcid :=
    fun heq => hother (List.mem_map.mpr ⟨tcfg', hmem, heq.symm⟩)
  rw [get?_onTunnel _ hne.symm, Dict.get?_set, if_neg hne]
  exact hnew tcfg' (List.mem_cons_of_mem _ hmem)

/-- **The start**: the CCIDs of the entries are distinct, so no tunnel comes into the place of
another. -/
theorem Tenants.startAll (hG : Tenancy hmac G Vacant ok) (entries : List TunnelConfigEntry)
    (hdistinct : (entries.map (·.localCcid)).Nodup) (h : Tenants G Vacant d)
    (hnew : ∀ tcfg ∈ entries, d.tunnels.get? tcfg.localCcid = none) :
    Tenants G Vacant (each (fun tcfg => do
      modify fun self => { self with tunnels := self.tunnels.set tcfg.localCcid (Tunnel.init tcfg) }
      let _ ← Daemon.onTunnel tcfg.localCcid (Tunnel.start hmac)) entries d).2 := by
  induction entries generalizing d with
  | nil => exact h
  | cons tcfg entries ih =>
    obtain ⟨hother, hdistinct⟩ := List.nodup_cons.mp hdistinct
    have hone := (h.construct hG (hnew tcfg List.mem_cons_self)).onTunnel hG
      tcfg.localCcid (m := Tunnel.start hmac) .start (fun _ => rfl) (by simp)
    have hrest : ∀ tcfg' ∈ entries, (Daemon.onTunnel tcfg.localCcid (Tunnel.start hmac)
        { d with tunnels := d.tunnels.set tcfg.localCcid (Tunnel.init tcfg) }).2.tunnels.get?
          tcfg'.localCcid = none := get?_opened hother hnew
    rw [each, bind_apply, modify_bind_apply, bind_apply]
    -- a start that raises ends the loop
    rcases hrun : Daemon.onTunnel tcfg.localCcid (Tunnel.start hmac)
        { d with tunnels := d.tunnels.set tcfg.localCcid (Tunnel.init tcfg) } with ⟨e | r, d'⟩
    · rw [hrun] at hone
      exact hone
    · rw [hrun] at hone hrest
      exact ih hdistinct hone hrest

/-- **After the start.** -/
theorem tenants_start (hG : Tenancy hmac G Vacant ok) (cfg : DaemonConfig)
    (hdistinct : (cfg.tunnels.map (·.localCcid)).Nodup) (clock : Nat → ℚ) :
    Tenants G Vacant (Daemon.step hmac (Daemon.init cfg (some {}) clock) .start) := by
  have hinit : Tenants G Vacant (Daemon.init cfg (some {}) clock) :=
    ⟨rfl, fun c t hget => by simp [Daemon.init] at hget, fun c _ => .refl c _⟩
  exact hinit.startAll hG cfg.tunnels hdistinct fun _ _ => rfl

/-- **Every event after the start.** -/
theorem Tenants.step (hG : Tenancy hmac G left ok) (hleaves : Leaves hmac G left)
    (h : Tenants G left d) {e : Daemon.Event} (he : Allowed ok d e) :
    Tenants G left (Daemon.step hmac d e) := by
  have hcall : ∀ {α : Type} {m : Prog (World MockDataplane) α} (ccid : Int) (e : Tunnel.Event),
      (∀ w, (m w).2 = Tunnel.step hmac w e) → (∀ buf, e ≠ .datagram buf) →
      Keeps (Tenants G left) (Daemon.onTunnel ccid m) :=
    fun ccid e hm hbuf d h => h.onTunnel hG ccid e hm fun _ buf _ heq => absurd heq (hbuf buf)
  -- each event works for one tunnel, or for one after the other
  cases e with
  | start => exact he.elim
  | stop =>
    exact Keeps.each (fun ccid _ => (hcall ccid .close (fun _ => rfl) (by simp)).bind fun _ =>
      Keeps.pure ()) { d with stopping := true } ⟨h.present, h.tunnels, h.removed⟩
  | tick =>
    exact Keeps.each (fun ccid _ => Tenants.tickOne hG hleaves (d.clock 0) ccid)
      { d with clock := fun n => d.clock (n + 1) } (h.clocked hG _)
  | datagram buf =>
    rw [Daemon.step, Daemon.handle]
    rcases Crash.dispatchDatagram_cases hmac d buf with ⟨-, hrun⟩ |
        ⟨t, ccid, d', rfl, -, hget, rfl, hrun⟩
    · rw [hrun]
      exact h
    · have hone := (h.clocked hG fun n => d.clock (n + 1)).onTunnel hG (peekCcid buf)
        (m := handleDatagram hmac buf) (.datagram buf) (fun _ => rfl) (by
          rintro t' buf' hget' heq
          cases heq
          exact he t' hget')
      rw [show Daemon.onTunnel (peekCcid buf) (handleDatagram hmac buf) _ = _ from
        Daemon.onTunnel_some (d := { d with clock := fun n => d.clock (n + 1) }) _ hget] at hone
      rw [hrun]
      exact hone
  | helloTimer ccid =>
    exact ((hcall ccid .helloTimer (fun _ => rfl) (by simp)).bind fun _ => Keeps.pure ()) d h

end Tenants

/-! ## What the dataplane holds

What the tenancy says tunnel by tunnel is put together over the whole table. A session that is up
belongs to a tunnel that is established, as a tunnel that is down has idle sessions only. -/

/-- The dataplane holds the sessions that are up, each with the peer's session ID, and the kernel
tunnels that were added. All of it belongs to tunnels that are established: a tunnel that is down
has idle sessions only. -/
structure HoldsWhatIsUp (d : Daemon MockDataplane) (dp : MockDataplane) : Prop where
  dataplane : d.dataplane = some dp
  sessions : ∀ ccid sid remoteSid, dp.remoteSid? ccid sid = some remoteSid ↔
    ∃ t s, d.tunnels.get? ccid = some t ∧ t.sessionsByLocal.get? sid = some s ∧
      s.state = .established ∧ s.peerSid = remoteSid
  tunnels : ∀ ccid, dp.tunnels.contains ccid = true ↔
    ∃ t, d.tunnels.get? ccid = some t ∧ t.fsm.state = .established ∧ t.tunnelDpAdded = true
  down : ∀ ccid t, d.tunnels.get? ccid = some t → t.fsm.state ≠ .established → t.AllIdle

/-- The tunnel of a session that is up is established. -/
theorem HoldsWhatIsUp.established {d : Daemon MockDataplane} {dp : MockDataplane}
    (h : HoldsWhatIsUp d dp) {t : Tunnel} {sid : Int} {s : SessionFSM}
    (hget : d.tunnels.get? ccid = some t) (hs : t.sessionsByLocal.get? sid = some s)
    (hup : s.state = .established) : t.fsm.state = .established := by
  by_contra hdown
  have hidle : s.state = .idle := h.down ccid t hget hdown sid s hs
  rw [hidle] at hup
  cases hup

/-- What every tunnel of the table has, and what is left of those that were removed, says what the
dataplane holds as a whole. -/
theorem Tenants.holdsWhatIsUp (h : Tenants Settled Vacant d) :
    ∃ dp, HoldsWhatIsUp d dp := by
  obtain ⟨dp, hdp⟩ := Option.isSome_iff_exists.mp h.present
  have hvacant : ∀ c, d.tunnels.get? c = none → AgreeOn c {} dp := by
    intro c hget
    have := h.removed c hget
    rwa [Vacant, hdp] at this
  -- the entries of a tunnel of the table
  have hmirror : ∀ c t, d.tunnels.get? c = some t →
      (∀ sid, dp.remoteSid? c sid = t.live sid) ∧ dp.tunnels.contains c = t.tunnelDpAdded ∧
      (t.fsm.state ≠ .established → t.AllIdle ∧ t.tunnelDpAdded = false) := by
    intro c t hget
    obtain ⟨rfl, hset⟩ := h.tunnels c t hget
    obtain ⟨dp', hdp', hf, hadded⟩ := hset.inv.mirrors.dataplane
    obtain rfl : dp = dp' := Option.some.inj (hdp.symm.trans hdp')
    exact ⟨hf, hadded, hset.down⟩
  refine ⟨dp, hdp, fun c sid remoteSid => ?_, fun c => ?_,
    fun c t hget hdown => ((hmirror c t hget).2.2 hdown).1⟩
  -- the sessions, by whether the CCID is in the table
  · cases hget : d.tunnels.get? c with
    | none =>
      rw [(hvacant c hget).remoteSid? sid]
      simp [MockDataplane.remoteSid?]
    | some t =>
      obtain ⟨hf, -, -⟩ := hmirror c t hget
      rw [hf sid, Tunnel.live, Option.bind_eq_some_iff]
      constructor
      · rintro ⟨s, hs, hlive⟩
        have hup : s.state = .established := by
          by_contra hno
          rw [SessionFSM.live?, if_neg hno] at hlive
          cases hlive
        rw [SessionFSM.live?, if_pos hup] at hlive
        exact ⟨t, s, rfl, hs, hup, Option.some.inj hlive⟩
      · rintro ⟨t', s, heq, hs, hup, rfl⟩
        cases heq
        exact ⟨s, hs, if_pos hup⟩
  -- the kernel tunnels, likewise
  · cases hget : d.tunnels.get? c with
    | none =>
      rw [(hvacant c hget).contains]
      simp [Dict.contains]
    | some t =>
      obtain ⟨-, hadded, hdown⟩ := hmirror c t hget
      rw [hadded]
      constructor
      · intro hflag
        refine ⟨t, rfl, ?_, hflag⟩
        by_contra hno
        rw [(hdown hno).2] at hflag
        cases hflag
      · rintro ⟨t', heq, -, hflag⟩
        cases heq
        exact hflag

/-! ## The stop

`stop` closes one tunnel after the other, and an exception would cut the loop short. As no close
raises, the loop reaches every tunnel; each one leaves `ESTABLISHED`, which takes its sessions and
entries down. -/

open Steady (Able)

/-- The close of a tunnel leaves it in a state other than ESTABLISHED. -/
theorem state_close (hmac : Hmac) (hw : Able w.tunnel) :
    (Tunnel.close hmac w).2.tunnel.fsm.state ≠ .established := by
  have hreturns : Returns (TunnelFSM.onLocalClose ResultCode.adminShutdown.code) w.tunnel.fsm :=
    TunnelFSM.onLocalClose_returns hw.good.fsm (by decide)
  have hstate : (TunnelFSM.onLocalClose ResultCode.adminShutdown.code w.tunnel.fsm).2.state
      ≠ .established := by
    rw [Returns, TunnelFSM.onLocalClose, get_bind_apply] at hreturns
    rw [TunnelFSM.onLocalClose, get_bind_apply]
    split
    -- in IDLE and SEND_STOPCCN there is nothing to close
    · rename_i hdown
      rcases hdown with h | h <;> simp [h]
    · rename_i hup
      rw [if_neg hup] at hreturns
      -- the StopCCN of an accepted configuration can be built
      cases hb : buildStopccnAvps w.tunnel.fsm.config.localCcid ResultCode.adminShutdown.code with
      | error e =>
        rw [hb] at hreturns
        obtain ⟨actions, hactions⟩ := hreturns
        cases hactions
      | ok avps => simp [TunnelFSM.transition]
  have hfsm := drive_fsm hmac (TunnelFSM.onLocalClose ResultCode.adminShutdown.code) w
  rw [← hfsm] at hstate
  rw [Tunnel.close, bind_apply]
  rcases hrun : drive hmac (TunnelFSM.onLocalClose ResultCode.adminShutdown.code) w with ⟨e | _, w'⟩ <;>
    rw [hrun] at hstate <;> exact hstate

/-- The tunnels that are still up are among those whose turn is to come. -/
structure Closing (cfg : DaemonConfig) (ccids : List Int) (d : Daemon MockDataplane) : Prop where
  runs : d.Runs cfg fun _ => Able
  up : ∀ c t, d.tunnels.get? c = some t → t.fsm.state = .established → c ∈ ccids

/-- One round of the loop of `stop`. -/
theorem Closing.round {cfg : DaemonConfig} (hmac : Hmac) {ccids : List Int}
    (h : Closing cfg (ccid :: ccids) d) :
    wp (do let _ ← Daemon.onTunnel ccid (Tunnel.close hmac)) (fun _ => Closing cfg ccids)
      (fun _ _ => False) d := by
  cases hget : d.tunnels.get? ccid with
  | none =>
    rw [wp, bind_apply, Daemon.onTunnel_none _ hget]
    refine ⟨h.runs, fun c t hc hup => ?_⟩
    rcases List.mem_cons.mp (h.up c t hc hup) with rfl | hmem
    · rw [hget] at hc
      cases hc
    · exact hmem
  | some t =>
    have hable := h.runs.tunnels ccid t hget
    obtain ⟨a, hreturns⟩ : Returns (Tunnel.close hmac) (d.world t) :=
      Steady.handle_returns (w := d.world t) hable (e := .close) (by simp) (by simp)
    have hkeeps : Able (Tunnel.close hmac (d.world t)).2.tunnel :=
      Steady.keeps_able .close (d.world t) hable
    have hdown := state_close hmac (w := d.world t) hable
    rw [wp, bind_apply, Daemon.onTunnel_some _ hget]
    -- the close of a tunnel returns
    rcases hrun : Tunnel.close hmac (d.world t) with ⟨e | _, w'⟩
    · rw [hrun] at hreturns
      cases hreturns
    · rw [hrun] at hkeeps hdown
      refine ⟨⟨h.runs.cfg, h.runs.set hkeeps⟩, fun c t' hc hup => ?_⟩
      rw [Daemon.put, Dict.get?_set] at hc
      split at hc
      · cases hc
        exact absurd hup hdown
      · rename_i hne
        rcases List.mem_cons.mp (h.up c t' hc hup) with rfl | hmem
        · exact absurd rfl hne
        · exact hmem

/-- **After `stop` no tunnel is established**: what the tunnels have to send can be sent, so the
loop over them is not cut short. -/
theorem stop_down {cfg : DaemonConfig} (hmac : Hmac) (h : d.Runs cfg fun _ => Able) :
    ∀ c t, (Daemon.step hmac d .stop).tunnels.get? c = some t → t.fsm.state ≠ .established := by
  have hstart : Closing cfg d.tunnels.keys { d with stopping := true } :=
    ⟨⟨h.cfg, h.tunnels⟩, fun c t hget _ => Dict.mem_keys_iff.mpr ⟨t, hget⟩⟩
  -- after the last round no CCID is left
  have hloop : wp (each (fun ccid => do let _ ← Daemon.onTunnel ccid (Tunnel.close hmac))
      d.tunnels.keys) (fun _ => Closing cfg []) (fun _ _ => False) { d with stopping := true } :=
    wp_each (fun _ _ _ h => h.round hmac) _ _ hstart
  have hstep : (Daemon.step hmac d .stop) = (each (fun ccid => do
      let _ ← Daemon.onTunnel ccid (Tunnel.close hmac)) d.tunnels.keys
      { d with stopping := true }).2 := rfl
  intro c t hget hup
  rw [hstep] at hget
  rw [wp] at hloop
  rcases hrun : each (fun ccid => do let _ ← Daemon.onTunnel ccid (Tunnel.close hmac))
      d.tunnels.keys { d with stopping := true } with ⟨e | _, d'⟩
  · rw [hrun] at hloop
    exact hloop
  · rw [hrun] at hloop hget
    exact List.not_mem_nil (hloop.up c t hget hup)

/-- Nothing is held. -/
def Empty (dp : MockDataplane) : Prop :=
  (∀ key, dp.sessions.get? key = none) ∧ ∀ ccid, dp.tunnels.get? ccid = none

/-- **The dataplane of a daemon is what is up.** For every daemon built from an accepted
configuration with distinct CCIDs whose texts and speeds fit their AVPs, on a dataplane that is
empty at the start: in every state that any events lead to after the start, if no ICRQ finds a
session of a tunnel that is down, the dataplane holds the ESTABLISHED sessions of the tunnels in
the table, under their CCID and with the peer's session ID, and nothing else; and they are all
sessions of ESTABLISHED tunnels. So a tunnel that is removed leaves nothing behind, and `stop`
leaves the dataplane empty. -/
theorem dataplane_is_what_is_up (hmac : Hmac) (cfg : DaemonConfig) (hacc : cfg.Accepted)
    (henc : ∀ t ∈ cfg.tunnels, t.Encodes) (hdistinct : (cfg.tunnels.map (·.localCcid)).Nodup)
    (clock : Nat → ℚ) (d : Daemon MockDataplane)
    (hd : Transition.Reach (Daemon.step hmac) (Allowed (NoEarlyCall hmac))
      (Daemon.step hmac (Daemon.init cfg (some {}) clock) .start) d) :
    (∃ dp, HoldsWhatIsUp d dp) ∧
      ∃ dp, (Daemon.step hmac d .stop).dataplane = some dp ∧ Empty dp := by
  have hG := tenancy_settled hmac
  have h : Tenants Settled Vacant d := hd.invariant (tenants_start hG cfg hdistinct clock)
    fun _ _ h he => h.step hG (leaves_settled hmac) he
  have hreach : Transition.Reach (Daemon.step hmac) (fun _ _ => True)
      (Daemon.init cfg (some {}) clock) d :=
    (Transition.Reach.start.next trivial).trans (hd.mono fun _ _ _ => trivial)
  have hruns : d.Runs cfg fun _ => Able := Daemon.runs_of_reach hreach
    (fun tcfg hmem => Steady.able_init (hacc.tunnels tcfg hmem) (henc tcfg hmem))
    fun _ e => Steady.keeps_able e
  refine ⟨h.holdsWhatIsUp, ?_⟩
  -- after `stop` no tunnel is established, so nothing is up
  obtain ⟨dp, hholds⟩ := (h.step hG (leaves_settled hmac) (e := .stop) trivial).holdsWhatIsUp
  have hdown := stop_down hmac hruns
  refine ⟨dp, hholds.dataplane, fun ⟨c, sid⟩ => ?_, fun c => ?_⟩
  · cases hget : dp.sessions.get? (c, sid) with
    | none => rfl
    | some params =>
      have hsid : dp.remoteSid? c sid = some params.remoteSid := by
        rw [MockDataplane.remoteSid?, hget]
        rfl
      obtain ⟨t, s, ht, hs, hup, -⟩ := (hholds.sessions c sid params.remoteSid).mp hsid
      exact absurd (hholds.established ht hs hup) (hdown c t ht)
  · cases hget : dp.tunnels.get? c with
    | none => rfl
    | some params =>
      obtain ⟨t, ht, hup, -⟩ := (hholds.tunnels c).mp (Dict.contains_iff.mpr ⟨params, hget⟩)
      exact absurd hup (hdown c t ht)

/-- A tunnel beside `gateway` that no one answers. -/
def lonely : TunnelConfigEntry := { gateway with name := "lonely", localCcid := 101 }

theorem gateway_accepted : gateway.Accepted where
  localCcid := by decide
  remoteCcid := by decide
  routerId := by decide
  password := by decide
  helloInterval := by decide +kernel
  retransmitInterval := by decide +kernel
  maxRetries := by decide
  receiveWindow := by decide
  firmwareRevision := by simp [gateway]
  sessions := by
    intro s hs
    obtain rfl := List.mem_singleton.mp hs
    exact ⟨by decide, by decide, by decide, by decide, by simp, by simp, nofun⟩
  sessionNames := by decide
  sessionSids := by decide
  localCcidIsBool := nofun

theorem gateway_encodes : gateway.Encodes := by
  refine ⟨by decide +kernel, by simp [gateway], fun s hs => ?_⟩
  obtain rfl := List.mem_singleton.mp hs
  exact ⟨by decide +kernel, by simp, by simp⟩

theorem pair_accepted : DaemonConfig.Accepted ⟨[gateway, lonely]⟩ := by
  refine ⟨fun t ht => ?_, by decide⟩
  rcases List.mem_pair.mp ht with rfl | rfl
  · exact gateway_accepted
  · exact { gateway_accepted with localCcid := by decide, localCcidIsBool := nofun }

theorem pair_encodes : ∀ t ∈ [gateway, lonely], t.Encodes := by
  intro t ht
  rcases List.mem_pair.mp ht with rfl | rfl
  · exact gateway_encodes
  · exact { gateway_encodes with }

/-- The tunnel of `gateway` comes up and takes a call. -/
def call : List Daemon.Event :=
  [.datagram Pseudowire.replyDatagram, .datagram (callDatagram .icrq 1 0), .tick,
    .datagram (callDatagram .iccn 2 1)]

/-- The example after one of its two tunnels carried a call. -/
def called : Daemon MockDataplane :=
  call.foldl (Daemon.step ControlMessage.sumHmac)
    (Daemon.step ControlMessage.sumHmac (Daemon.init ⟨[gateway, lonely]⟩ (some {}) fun _ => 0) .start)

/-- The example holds the session that is up, and nothing after `stop`. -/
theorem dataplane_is_what_is_up_called :
    (called.dataplane.bind fun dp => dp.remoteSid? 100 1) = some 7 ∧ (∃ dp, HoldsWhatIsUp called dp) ∧
      ∃ dp, (Daemon.step ControlMessage.sumHmac called .stop).dataplane = some dp ∧ Empty dp :=
  ⟨by decide +kernel, dataplane_is_what_is_up ControlMessage.sumHmac ⟨[gateway, lonely]⟩
    pair_accepted pair_encodes (by decide) (fun _ => 0) called
    (Transition.Reach.run .start (by decide +kernel))⟩

end Shared

end L2tpv3d
