import L2tpv3d.Daemon.Parts
import L2tpv3d.Daemon.Pseudowire
import Mathlib.Data.Set.Insert

/-!
# L2tpv3d — a dataplane whose calls may raise

`_execute_actions` catches and logs what a call of the dataplane raises, in the middle of an
action list whose machine has already changed its state, and goes on. After a failed
`add_session` the session stays in ESTABLISHED without a netdev, and `_tunnel_dp_added` is
cleared whether or not `del_tunnel` went through.

* `LawfulDataplane` — what the calls of a dataplane do to what it holds: a call that returns
  has its effect, a call that raises has none. Which calls raise, and when, is left open.
* `Watched δ` — the dataplane `δ` with a record of the calls that raised.
* **`survives_spared`** — sessions, flag and dataplane agree as long as no `add_session` raises
  for a session that is not there, and no `del_tunnel` for a tunnel that is.
-/

namespace L2tpv3d

open Py Prog

/-! ## What a dataplane holds

Nothing is assumed of a dataplane but that a call that returns has its effect, and one that raises
has none. -/

/-- The kernel tunnels, by local CCID, and the kernel sessions, by local CCID and SID. -/
@[ext] structure Holdings where
  tunnels : Set Int
  sessions : Set (Int × Int)

/-- The effect of a call that returns. What becomes of the sessions of a tunnel that is deleted
is left open: a kernel may drop them with it. -/
def Holdings.After (h : Holdings) : DataplaneCall → Holdings → Prop
  | .addTunnel params, h' => h'.tunnels = insert params.localCcid h.tunnels ∧ h'.sessions = h.sessions
  | .addSession params, h' => h'.tunnels = h.tunnels ∧
      h'.sessions = insert (params.localCcid, params.localSid) h.sessions
  | .delSession localCcid localSid, h' => h'.tunnels = h.tunnels ∧
      h'.sessions = h.sessions \ {(localCcid, localSid)}
  | .delTunnel localCcid, h' => h'.tunnels = h.tunnels \ {localCcid}

/-- The sessions `U` of a tunnel are there, and `added` says whether the tunnel is. -/
structure Holdings.Backs (h : Holdings) (ccid : Int) (added : Bool) (U : Set Int) : Prop where
  tunnel : added = true ↔ ccid ∈ h.tunnels
  sessions : ∀ sid ∈ U, (ccid, sid) ∈ h.sessions

/-- The program `m` is a call that has its effect when it returns, and none when it raises. -/
def Obeys {δ α : Type} (holds : δ → Holdings) (call : DataplaneCall) (m : Prog δ α) : Prop :=
  ∀ dp, wp m (fun _ dp' => (holds dp).After call (holds dp')) (fun _ dp' => holds dp' = holds dp) dp

/-- A dataplane in which any call may raise. -/
class LawfulDataplane (δ : Type) [Dataplane δ] where
  holds : δ → Holdings
  addTunnel : ∀ params, Obeys holds (.addTunnel params) (Dataplane.addTunnel params)
  addSession : ∀ params, Obeys holds (.addSession params) (Dataplane.addSession params)
  delSession : ∀ localCcid localSid,
    Obeys holds (.delSession localCcid localSid) (Dataplane.delSession localCcid localSid)
  delTunnel : ∀ localCcid, Obeys holds (.delTunnel localCcid) (Dataplane.delTunnel localCcid)

/-- A dataplane with a record of the calls that raised, and of what it held then. -/
structure Watched (δ : Type) where
  dataplane : δ
  refused : List (DataplaneCall × Holdings) := []

namespace Watched

variable {δ α : Type} [Dataplane δ] [LawfulDataplane δ]

/-- The call itself, with a note of what the dataplane held when it refused it. -/
def watch (call : DataplaneCall) (m : Prog δ α) : Prog (Watched δ) α := fun self =>
  match m self.dataplane with
  | (.ok a, dp') => (.ok a, { self with dataplane := dp' })
  | (.error e, dp') => (.error e, {
      dataplane := dp'
      refused := self.refused ++ [(call, LawfulDataplane.holds self.dataplane)] })

instance : Dataplane (Watched δ) where
  addTunnel params := watch (.addTunnel params) (Dataplane.addTunnel params)
  addSession params := watch (.addSession params) (Dataplane.addSession params)
  delSession localCcid localSid :=
    watch (.delSession localCcid localSid) (Dataplane.delSession localCcid localSid)
  delTunnel localCcid := watch (.delTunnel localCcid) (Dataplane.delTunnel localCcid)

/-- What the dataplane that is watched holds. -/
def holds (self : Watched δ) : Holdings := LawfulDataplane.holds self.dataplane

end Watched

namespace Faults

open Tunnel World

variable {δ : Type}

/-- The calls that raised so far. -/
def refused (w : World (Watched δ)) : List (DataplaneCall × Holdings) :=
  match w.dataplane with
  | some dp => dp.refused
  | none => []

/-- A session that is not there could not be added, or a tunnel that is there not deleted. -/
def Harmful : DataplaneCall × Holdings → Prop
  | (.addSession params, h) => (params.localCcid, params.localSid) ∉ h.sessions
  | (.delTunnel localCcid, h) => localCcid ∈ h.tunnels
  | _ => False

/-! ## Moves between which calls may be refused

The record of the calls that raised is part of the state, so that a step can be judged by what was
added to it. -/

/-- The record of refused calls grew, and if by no harmful one, then `Q` follows from `P`. -/
def Leads (P Q : World (Watched δ) → Prop) (w w' : World (Watched δ)) : Prop :=
  ∃ more, refused w' = refused w ++ more ∧ ((∀ r ∈ more, ¬ Harmful r) → P w → Q w')

variable {P Q R : World (Watched δ) → Prop} {w w' w'' : World (Watched δ)}

/-- A move that leaves the dataplane alone. -/
theorem Leads.of_dataplane (hdp : w'.dataplane = w.dataplane) (h : P w → Q w') : Leads P Q w w' :=
  ⟨[], by simp [refused, hdp], fun _ => h⟩

theorem Leads.trans (h : Leads P Q w w') (h' : Leads Q R w' w'') : Leads P R w w'' := by
  obtain ⟨more, hmore, hlead⟩ := h
  obtain ⟨more', hmore', hlead'⟩ := h'
  refine ⟨more ++ more', by rw [hmore', hmore, List.append_assoc], fun hno hP => ?_⟩
  refine hlead' (fun r hr => hno r (List.mem_append_right _ hr)) ?_
  exact hlead (fun r hr => hno r (List.mem_append_left _ hr)) hP

/-! ## The calls that the actions make

For each action what is backed before and after it, if no harmful call was refused on the way. -/

variable [Dataplane δ] [LawfulDataplane δ] {hmac : Hmac} {U : Set Int}

/-- What the dataplane holds is `T`. -/
def Holds (T : Holdings → Prop) (w : World (Watched δ)) : Prop :=
  ∃ dp, w.dataplane = some dp ∧ T dp.holds

/-- The dataplane backs the sessions `U` of this tunnel, and its flag. -/
def Backs (U : Set Int) (w : World (Watched δ)) : Prop :=
  Holds (fun h => h.Backs w.tunnel.cfg.localCcid w.tunnel.tunnelDpAdded U) w

/-- Fewer sessions have to be backed, by the same dataplane. -/
theorem Backs.congr (h : Backs U w) (hcfg : w'.tunnel.cfg = w.tunnel.cfg)
    (hdp : w'.dataplane = w.dataplane) (hadded : w'.tunnel.tunnelDpAdded = w.tunnel.tunnelDpAdded)
    {V : Set Int} (hup : V ⊆ U) : Backs V w' := by
  obtain ⟨dp, hdp', hflag, hheld⟩ := h
  refine ⟨dp, hdp.trans hdp', by rw [hadded, hcfg]; exact hflag, fun sid hsid => ?_⟩
  rw [hcfg]
  exact hheld sid (hup hsid)

/-- **A call of the dataplane**, as the tunnel makes it: it returns and has its effect, or it
raises, is recorded and has none. -/
theorem leads_call {α : Type} {call : DataplaneCall} {m : Prog δ α} {T : Holdings → Prop}
    {S : Bool → Holdings → Prop} (hm : Obeys LawfulDataplane.holds call m)
    (hreturned : ∀ h h', T h → h.After call h' → S true h')
    (hraised : ∀ h, T h → ¬ Harmful (call, h) → S false h) (w : World (Watched δ)) :
    ∃ r w', onDataplane (Watched.watch call m) w = (.ok r, w') ∧ w'.tunnel = w.tunnel ∧
      Leads (Holds T) (Holds (S r)) w w' := by
  -- without a dataplane there is nothing to call, and the hypothesis is empty
  cases hdp : w.dataplane with
  | none =>
    refine ⟨false, w, by simp [onDataplane, hdp], rfl, .of_dataplane rfl ?_⟩
    rintro ⟨dp, hdp', -⟩
    rw [hdp] at hdp'
    cases hdp'
  | some dp =>
    have hspec := hm dp.dataplane
    unfold wp at hspec
    rcases hrun : m dp.dataplane with ⟨e | a, dp'⟩
    · rw [hrun] at hspec
      refine ⟨false, { w with
        dataplane := some ⟨dp', dp.refused ++ [(call, dp.holds)]⟩
        faults := w.faults ++ [e] }, ?_, rfl, [(call, dp.holds)], by simp [refused, hdp], ?_⟩
      · simp [onDataplane, hdp, Watched.watch, hrun, Watched.holds]
      · rintro hno ⟨dp₀, hdp₀, hT⟩
        cases hdp.symm.trans hdp₀
        refine ⟨_, rfl, ?_⟩
        rw [Watched.holds, show LawfulDataplane.holds dp' = dp.holds from hspec]
        exact hraised _ hT (hno _ (List.mem_singleton.mpr rfl))
    · rw [hrun] at hspec
      refine ⟨true, { w with dataplane := some ⟨dp', dp.refused⟩ }, ?_, rfl, [],
        by simp [refused, hdp], ?_⟩
      · simp [onDataplane, hdp, Watched.watch, hrun]
      · rintro - ⟨dp₀, hdp₀, hT⟩
        cases hdp.symm.trans hdp₀
        exact ⟨_, rfl, hreturned _ _ hT hspec⟩

/-- `_ensure_tunnel_dataplane` sets the flag only when the call went through. -/
theorem leads_ensureTunnel (w : World (Watched δ)) :
    ∃ w', ensureTunnelDataplane w = (.ok (), w') ∧ w'.tunnel.cfg = w.tunnel.cfg ∧
      Leads (Backs U) (Backs U) w w' := by
  -- the flag is set already, or there is no dataplane
  by_cases hskip : w.tunnel.tunnelDpAdded = true ∨ w.dataplane.isNone = true
  · exact ⟨w, by rw [ensureTunnelDataplane, get_bind_apply, if_pos hskip]; rfl, rfl,
      .of_dataplane rfl id⟩
  · have hadded : w.tunnel.tunnelDpAdded = false := by simpa using (not_or.mp hskip).1
    obtain ⟨r, w', hrun, htunnel, hlead⟩ := leads_call
      (T := fun h => h.Backs w.tunnel.cfg.localCcid false U)
      (S := fun r h => h.Backs w.tunnel.cfg.localCcid r U) (LawfulDataplane.addTunnel
      ⟨w.tunnel.cfg.localCcid, w.tunnel.peer.remoteCcid, w.tunnel.cfg.localAddress,
        w.tunnel.cfg.remoteAddress, "udp", 1701, 1701, w.tunnel.cfg.localCcidIsBool⟩)
      (fun h h' hT hafter => ⟨iff_of_true rfl (hafter.1 ▸ Set.mem_insert _ _),
        fun sid hsid => hafter.2 ▸ hT.sessions sid hsid⟩)
      (fun h hT _ => hT) w
    have hbody : ensureTunnelDataplane w = (if r then (modify (mapTunnel fun t =>
        { t with tunnelDpAdded := true }) : Prog (World (Watched δ)) Unit) else return ()) w' := by
      rw [ensureTunnelDataplane, get_bind_apply, if_neg hskip]
      exact bind_apply_of_ok _ _ hrun
    have hbefore : Backs U w → Holds (fun h => h.Backs w.tunnel.cfg.localCcid false U) w := by
      intro h
      rwa [Backs, hadded] at h
    rw [hbody]
    cases r with
    | true =>
      refine ⟨_, rfl, by rw [mapTunnel, htunnel], ?_⟩
      refine (Leads.of_dataplane rfl hbefore).trans (hlead.trans (.of_dataplane rfl ?_))
      rintro ⟨dp, hdp, hT⟩
      exact ⟨dp, hdp, by rw [mapTunnel, htunnel]; exact hT⟩
    | false =>
      refine ⟨w', rfl, by rw [htunnel], ?_⟩
      refine (Leads.of_dataplane rfl hbefore).trans (hlead.trans (.of_dataplane rfl ?_))
      rintro ⟨dp, hdp, hT⟩
      exact ⟨dp, hdp, by rw [htunnel, hadded]; exact hT⟩

/-- A call that leaves the flag alone. -/
theorem leads_flagged {α : Type} {call : DataplaneCall} {m : Prog δ α} {V : Set Int}
    (hm : Obeys LawfulDataplane.holds call m) (w : World (Watched δ))
    (hreturned : ∀ h h' : Holdings, h.Backs w.tunnel.cfg.localCcid w.tunnel.tunnelDpAdded U →
      h.After call h' → h'.Backs w.tunnel.cfg.localCcid w.tunnel.tunnelDpAdded V)
    (hraised : ∀ h : Holdings, h.Backs w.tunnel.cfg.localCcid w.tunnel.tunnelDpAdded U →
      ¬ Harmful (call, h) → h.Backs w.tunnel.cfg.localCcid w.tunnel.tunnelDpAdded V) :
    ∃ r w', onDataplane (Watched.watch call m) w = (.ok r, w') ∧
      Leads (Backs U) (Backs V) w w' := by
  obtain ⟨r, w', hrun, htunnel, hlead⟩ := leads_call
    (S := fun _ h => h.Backs w.tunnel.cfg.localCcid w.tunnel.tunnelDpAdded V) hm
    hreturned hraised w
  refine ⟨r, w', hrun, hlead.trans (.of_dataplane rfl ?_)⟩
  rintro ⟨dp, hdp, hT⟩
  exact ⟨dp, hdp, by rw [htunnel]; exact hT⟩

/-- A session is added, or its call is refused. -/
theorem leads_addSession (hmac : Hmac) {params : SessionParams}
    (hccid : params.localCcid = w.tunnel.cfg.localCcid) :
    ∃ w', executeSessionAction hmac (.dataplaneAddSession params) w = (.ok (), w') ∧
      Leads (Backs U) (Backs (insert params.localSid U)) w w' := by
  obtain ⟨w₁, hensure, hcfg, hlead⟩ := leads_ensureTunnel (U := U) w
  have hccid' : params.localCcid = w₁.tunnel.cfg.localCcid := by rw [hcfg, hccid]
  obtain ⟨r, w', hrun, hlead'⟩ := leads_flagged (U := U) (V := insert params.localSid U)
    (LawfulDataplane.addSession params) w₁
    (fun h h' hT hafter => by
      refine ⟨hafter.1 ▸ hT.tunnel, fun sid hsid => ?_⟩
      rw [hafter.2, hccid']
      rcases Set.mem_insert_iff.mp hsid with rfl | hsid
      · exact Set.mem_insert _ _
      · exact Set.mem_insert_of_mem _ (hT.sessions sid hsid))
    (fun h hT hno => by
      -- the call was refused without harm: the session was there
      refine ⟨hT.tunnel, fun sid hsid => ?_⟩
      rcases Set.mem_insert_iff.mp hsid with rfl | hsid
      · exact hccid' ▸ not_not.mp hno
      · exact hT.sessions sid hsid)
  refine ⟨w', ?_, hlead.trans hlead'⟩
  rw [executeSessionAction, bind_apply_of_ok _ _ hensure]
  exact bind_apply_of_ok _ _ hrun

/-- An action that takes none of the sessions `U` away. -/
def Sparing (ccid : Int) (U : Set Int) : SessionAction → Prop
  | .dataplaneAddSession _ => False
  | .dataplaneDelSession localCcid localSid => localCcid = ccid ∧ localSid ∉ U
  | _ => True

/-- An action that does not touch the sessions to be backed. -/
theorem leads_sparing {a : SessionAction} (ha : Sparing w.tunnel.cfg.localCcid U a) :
    Leads (Backs U) (Backs U) w (executeSessionAction hmac a w).2 := by
  cases a with
  | sendMessage avps =>
    obtain ⟨hdp, hadded, -⟩ := send_aside hmac avps w
    exact .of_dataplane hdp fun h => h.congr (executed_send hmac avps w).cfg hdp hadded subset_rfl
  | dataplaneAddSession params => exact ha.elim
  | dataplaneDelSession localCcid localSid =>
    obtain ⟨r, w', hrun, hlead⟩ := leads_flagged (U := U) (V := U)
      (LawfulDataplane.delSession localCcid localSid) w
      (fun h h' hT hafter => by
        refine ⟨hafter.1 ▸ hT.tunnel, fun sid hsid => hafter.2 ▸ ⟨hT.sessions sid hsid, fun heq => ?_⟩⟩
        obtain ⟨-, rfl⟩ := Prod.mk.inj (Set.mem_singleton_iff.mp heq)
        exact ha.2 hsid)
      (fun h hT _ => hT)
    rw [executeSessionAction, bind_pure_snd,
      show onDataplane (Dataplane.delSession localCcid localSid) w = _ from hrun]
    exact hlead
  | sessionEstablished => exact .of_dataplane rfl id
  | sessionTornDown reason => exact .of_dataplane rfl id

theorem leads_sparingActions {actions : List SessionAction} {ccid : Int}
    (hcfg : w.tunnel.cfg.localCcid = ccid) (h : ∀ a ∈ actions, Sparing ccid U a) :
    Leads (Backs U) (Backs U) w (executeSessionActions hmac actions w).2 := by
  have hkeeps : Keeps (fun w' => w'.tunnel.cfg = w.tunnel.cfg ∧ Leads (Backs U) (Backs U) w w')
      (executeSessionActions hmac actions) := by
    refine Keeps.each fun a ha w' h' => ⟨?_, ?_⟩
    · exact (executed_sessionAction hmac a w').cfg.trans h'.1
    · exact h'.2.trans (leads_sparing (by rw [h'.1, hcfg]; exact h a ha))
  exact (hkeeps w ⟨rfl, .of_dataplane rfl id⟩).2

/-- The calls that a session machine asks for, after it went from `s` to `s'`: `U` are the
sessions that are backed before, `V` those to be backed after. -/
theorem leads_execute {sid : Int} {s s' : SessionFSM} {actions : List SessionAction} {V : Set Int}
    (hout : SessionFSM.Outcome s (.ok actions) s')
    (hkey : s.config.localSid = sid ∧ s.config.localCcid = w.tunnel.cfg.localCcid)
    (hready : w.tunnel.Ready ∨ (s'.state = .established → s.state = .established))
    (hV : V ⊆ insert sid U) (hdown : s'.state ≠ .established → sid ∉ V)
    (hup : s.state = .established → sid ∈ U) :
    Leads (Backs U) (Backs V) w (executeSessionActions hmac actions w).2 := by
  have hsub : sid ∉ V ∨ sid ∈ U → V ⊆ U := by
    rintro hcase sid' hmem
    rcases Set.mem_insert_iff.mp (hV hmem) with rfl | hmem'
    · exact hcase.resolve_left (not_not.mpr hmem)
    · exact hmem'
  -- the machine is down afterwards: only calls that spare the other sessions
  have hspare : s'.state ≠ .established → (∀ a ∈ actions, Sparing w.tunnel.cfg.localCcid V a) →
      Leads (Backs U) (Backs V) w (executeSessionActions hmac actions w).2 := fun hs' hactions =>
    (Leads.of_dataplane rfl fun h => h.congr rfl rfl rfl (hsub (.inl (hdown hs')))).trans
      (leads_sparingActions rfl hactions)
  have hdel : s'.state ≠ .established → ∀ reason, ∀ a ∈ s.downActions reason,
      Sparing w.tunnel.cfg.localCcid V a := by
    intro hs' reason a ha
    unfold SessionFSM.downActions at ha
    split at ha
    · simp only [List.mem_cons, List.not_mem_nil, or_false] at ha
      rcases ha with rfl | rfl
      · exact ⟨hkey.2, hkey.1 ▸ hdown hs'⟩
      · trivial
    · cases ha
  -- the machine came up: its session is added
  have hadd : ∀ {w₁ : World (Watched δ)} {params : SessionParams},
      w₁.tunnel.cfg = w.tunnel.cfg → params.localCcid = s.config.localCcid →
      params.localSid = s.config.localSid → Leads (Backs U) (Backs V) w₁
        (executeSessionActions hmac [.dataplaneAddSession params, .sessionEstablished] w₁).2 := by
    intro w₁ params hcfg hccid hsid
    obtain ⟨w₂, hrun, hlead⟩ := leads_addSession hmac (U := U)
      (show params.localCcid = w₁.tunnel.cfg.localCcid by rw [hccid, hkey.2, hcfg])
    rw [executeSessionActions, each, bind_apply_of_ok _ _ hrun]
    refine hlead.trans (.of_dataplane rfl fun h => h.congr rfl rfl rfl ?_)
    rw [hsid, hkey.1]
    exact hV
  cases hout with
  -- the set of sessions to be backed does not grow
  | ignored =>
    refine .of_dataplane rfl fun h => h.congr rfl rfl rfl (hsub ?_)
    exact (em (s.state = .established)).symm.imp hdown hup
  | called _ _ => exact hspare (by simp) (by simp [Sparing])
  | answered _ _ _ => exact hspare (by simp) (by simp [Sparing])
  -- the ICCN is sent first, then the session is added
  | connected hs _ hb =>
    have hready' : w.tunnel.Ready := hready.resolve_right fun himp => by simp [hs] at himp
    obtain ⟨_, peer, bs, -, -, hrun⟩ := send_ok hmac hready' (buildIccnAvps_regular hb).1
    rw [executeSessionActions, each, bind_apply_of_ok _ _
      (show executeSessionAction hmac (.sendMessage _) w = _ from hrun)]
    refine Leads.trans (Q := Backs U) ?_ (hadd (by rfl) rfl rfl)
    exact .of_dataplane rfl fun h => h.congr rfl rfl rfl subset_rfl
  | accepted hs => exact hadd rfl rfl rfl
  | closed _ _ =>
    refine hspare (by simp) fun a ha => ?_
    rcases List.mem_append.mp ha with hsend | hrest
    · obtain rfl := List.mem_singleton.mp hsend
      trivial
    · exact hdel (by simp) _ a hrest
  | dropped _ => exact hspare (by simp) (hdel (by simp) _)

/-! ## The invariant

The sessions to be backed are those that are up; the flag of the tunnel says whether there is a
kernel tunnel. -/

/-- The sessions that are in ESTABLISHED. -/
def established (t : Tunnel) : Set Int :=
  {sid | ∃ s, t.sessionsByLocal.get? sid = some s ∧ s.state = .established}

/-- The dataplane backs the sessions that are up. -/
def Backed (w : World (Watched δ)) : Prop := Backs (established w.tunnel) w

omit [Dataplane δ] [LawfulDataplane δ] in
/-- Who is up after a session has been written back. -/
theorem mem_established_withSession {sid sid' : Int} {s : SessionFSM}
    (h : sid' ∈ established (w.withSession sid s).tunnel) :
    (sid' = sid ∧ s.state = .established) ∨ (sid' ≠ sid ∧ sid' ∈ established w.tunnel) := by
  obtain ⟨s', hs', hup⟩ := h
  rw [get?_withSession] at hs'
  split at hs'
  · rename_i heq
    cases hs'
    exact .inl ⟨heq.symm, hup⟩
  · rename_i hne
    exact .inr ⟨fun heq => hne heq.symm, s', hs', hup⟩

/-- **The call of a session machine** with the execution of its actions. -/
theorem leads_sessionCall {m : Prog SessionFSM (List SessionAction)} (hm : SessionFSM.Method m)
    (sid : Int) {g : Tunnel → Tunnel} (hg : OnlyIndex g) (hsound : w.tunnel.peer.Sound)
    (hkeyed : w.tunnel.Keyed)
    (hccid : IsU32 w.tunnel.peer.remoteCcid ∨ SessionFSM.NeverRises m) :
    Leads Backed Backed w (callSession (δ := Watched δ) hmac sid m g w).2 := by
  -- how the set of the sessions that are up can change
  have hV : ∀ s', established (w.withSession sid s').tunnel
      ⊆ insert sid (established w.tunnel) :=
    fun s' sid' hmem => (mem_established_withSession hmem).imp And.left And.right
  have hdown : ∀ s', s'.state ≠ .established →
      sid ∉ established (w.withSession sid s').tunnel := by
    intro s' hs' hmem
    rcases mem_established_withSession hmem with ⟨-, hup⟩ | ⟨hne, -⟩
    · exact hs' hup
    · exact hne rfl
  -- no such session; a method that raised; a method that returned actions
  rcases callSession_cases hmac sid m hg w with ⟨r, -, hrun⟩ | ⟨s, s', e, hget, hcall, hrun⟩ |
    ⟨s, s', actions, r, hget, hcall, hrun⟩
  · rw [hrun]
    exact .of_dataplane rfl fun h => h.congr rfl rfl rfl subset_rfl
  · have hout := hm s
    rw [hcall] at hout
    have hsid : s.state = .established → sid ∈ established w.tunnel := fun hs => ⟨s, hget, hs⟩
    rw [hrun]
    refine .of_dataplane rfl fun h => h.congr rfl rfl rfl fun sid' hmem => ?_
    rcases Set.mem_insert_iff.mp (hV s' hmem) with rfl | hmem'
    · -- a machine that raised is as far as before
      refine hsid ?_
      cases hout with
      | raised => exact by_contra fun hs => hdown _ hs hmem
      | refused hs _ =>
        refine absurd hmem (hdown _ ?_)
        rcases hs with hs | hs <;> simp [hs]
    · exact hmem'
  · have hout := hm s
    have hnever : SessionFSM.NeverRises m → s.state ≠ .established → s'.state ≠ .established :=
      fun hnever hs => by
        have := hnever s hs
        rwa [hcall] at this
    rw [hcall] at hout
    -- `w₁` is the world in which the actions are executed
    obtain ⟨w₁, hw₁⟩ : ∃ w₁, w₁ = (w.withSession sid s').withIndex r := ⟨_, rfl⟩
    rw [hrun, ← hw₁]
    have hstart : Leads Backed (Backs (established w.tunnel)) w w₁ := by
      rw [hw₁]
      exact .of_dataplane rfl fun h => h.congr rfl rfl rfl subset_rfl
    have hready : w₁.tunnel.Ready ∨ (s'.state = .established → s.state = .established) := by
      rw [hw₁]
      exact hccid.imp (fun hin => ⟨hsound, hin⟩) fun hm => not_imp_not.mp (hnever hm)
    have hkey : s.config.localSid = sid ∧ s.config.localCcid = w₁.tunnel.cfg.localCcid := by
      rw [hw₁]
      exact hkeyed sid s hget
    refine hstart.trans ((leads_execute hout hkey hready (hV s') (hdown s') fun hs =>
      ⟨s, hget, hs⟩).trans (.of_dataplane rfl fun h => h.congr rfl rfl rfl ?_))
    rw [established, (executed_sessionActions hmac actions w₁).sessionsByLocal, hw₁]
    exact subset_rfl

/-! ## The handlers

A handler may be cut short by an exception of a builder, so the invariant has to hold at every point
where it can end. -/

/-- From `v` to `w`, the dataplane keeps backing the sessions unless a call is refused. -/
structure Since (ccid : Int) (v w : World (Watched δ)) : Prop where
  parts : (Parts.keyed ccid).Holds w.tunnel
  leads : Leads Backed Backed v w

variable {ccid : Int} {v : World (Watched δ)}

/-- A call of a session, with what it keeps beside the dataplane. -/
theorem Since.called (h : Since ccid v w) {m : Prog SessionFSM (List SessionAction)}
    (hm : SessionFSM.Method m) (sid : Int) {g : Tunnel → Tunnel} (hg : OnlyIndex g)
    (hccid : IsU32 w.tunnel.peer.remoteCcid ∨ SessionFSM.NeverRises m) :
    Since ccid v (callSession (δ := Watched δ) hmac sid m g w).2 :=
  ⟨(Parts.keyed_stable ccid).sessionCall hm sid hg w h.parts,
    h.leads.trans (leads_sessionCall hm sid hg h.parts.peer (Parts.keyed_of_holds h.parts) hccid)⟩

/-- **The teardown of a tunnel**: every session goes down, then the kernel tunnel is deleted and
the flag is cleared, whether or not that went through. -/
theorem Since.tornDown (h : Since ccid v w) (reason : TunnelDownReason) :
    Since ccid v (executeTunnelAction hmac (.tornDown reason) w).2 := by
  refine ⟨(Parts.keyed_stable ccid).tunnelAction _ w h.parts, ?_⟩
  obtain ⟨w₂, h₂, hidle, hact⟩ := tornDown_apply hmac (I := Since ccid v)
    (fun _ _ h => ⟨h.parts, h.leads.trans
      (.of_dataplane rfl fun hb => hb.congr rfl rfl rfl subset_rfl)⟩)
    (fun sid w h => h.called SessionFSM.method_onTunnelDown sid onlyIndex_id
      (.inr SessionFSM.neverRises_onTunnelDown)) reason h
  -- after the cascade no session is up, so a backed tunnel needs no kernel session
  have hnone : established w₂.tunnel ⊆ ∅ := by
    rintro sid ⟨s, hs, hup⟩
    rw [hidle sid s hs] at hup
    cases hup
  rw [hact]
  split
  · rename_i hadded
    -- the kernel tunnel is deleted, or the call fails and the flag is cleared all the same
    obtain ⟨r, w₃, hdel, htunnel, hlead⟩ := leads_call
      (T := fun h => h.Backs w₂.tunnel.cfg.localCcid true ∅)
      (S := fun _ h => h.Backs w₂.tunnel.cfg.localCcid false ∅)
      (LawfulDataplane.delTunnel w₂.tunnel.cfg.localCcid)
      (fun h h' _ hafter => ⟨iff_of_false (by simp) (hafter ▸ fun hmem => hmem.2 rfl), by simp⟩)
      (fun h _ hno => ⟨iff_of_false (by simp) hno, by simp⟩) w₂
    rw [bind_apply_of_ok _ _ (show onDataplane (Dataplane.delTunnel w₂.tunnel.cfg.localCcid) w₂
      = _ from hdel)]
    refine h₂.leads.trans (Leads.trans (.of_dataplane rfl fun hb => ?_)
      (hlead.trans (.of_dataplane rfl ?_)))
    · have hb' : Backs ∅ w₂ := hb.congr rfl rfl rfl (Set.empty_subset _)
      rwa [Backs, hadded.1] at hb'
    · rintro ⟨dp, hdp, hT⟩
      refine ⟨dp, hdp, ?_, fun sid hsid => ?_⟩
      · show false = true ↔ w₃.tunnel.cfg.localCcid ∈ dp.holds.tunnels
        rw [htunnel]
        exact hT.tunnel
      · have hsid' : sid ∈ established w₃.tunnel := hsid
        rw [htunnel] at hsid'
        exact (hnone hsid').elim
  · exact h₂.leads

/-- **Every handler leads from a backed tunnel to a backed one**, unless a refusal harms. -/
theorem since_survives (hmac : Hmac) (ccid : Int) (v : World (Watched δ)) :
    Survives hmac (Since ccid v) where
  sound h := h.parts.peer
  moved h hw := by
    refine ⟨⟨hw.cfg ▸ h.parts.cfg, hw.sound, trivial, hw.sessionsByLocal ▸ h.parts.sessions⟩,
      h.leads.trans (.of_dataplane hw.dataplane fun hb => ?_)⟩
    refine hb.congr hw.cfg hw.dataplane hw.tunnelDpAdded ?_
    rw [established, hw.sessionsByLocal]
    exact subset_rfl
  called hm sid _ hg _ h hccid := h.called hm sid hg hccid
  tornDown reason _ h := h.tornDown reason

/-! ## Runs

A run whose steps all meet the condition keeps the dataplane in step with the machines. -/

/-- In the step, no `add_session` was refused for a session that was not there, and no
`del_tunnel` for a tunnel that was. -/
def Spared (hmac : Hmac) (w : World (Watched δ)) (e : Tunnel.Event) : Prop :=
  ∀ r ∈ (refused (Tunnel.step hmac w e)).drop (refused w).length, ¬ Harmful r

/-- **State survives a failing dataplane** along every run that spares it: a session is in
ESTABLISHED only if the dataplane holds its kernel session, and the flag says whether the dataplane
holds the tunnel. The dataplane is any lawful one, watched for the calls that it refuses. -/
theorem survives_spared (hmac : Hmac) (cfg : TunnelConfigEntry) (dp₀ : δ) (clock : Nat → ℚ)
    (hfree : cfg.localCcid ∉ (LawfulDataplane.holds dp₀).tunnels) (w : World (Watched δ))
    (hw : Transition.Reach (Tunnel.step hmac) (Spared hmac)
      (World.init cfg (some ⟨dp₀, []⟩) clock) w) :
    ∃ dp, w.dataplane = some dp ∧
      (∀ sid s, w.tunnel.sessionsByLocal.get? sid = some s → s.state = .established →
        (cfg.localCcid, sid) ∈ (LawfulDataplane.holds dp.dataplane).sessions) ∧
      (w.tunnel.tunnelDpAdded = true ↔
        cfg.localCcid ∈ (LawfulDataplane.holds dp.dataplane).tunnels) := by
  have h : w.tunnel.cfg.localCcid = cfg.localCcid ∧ (Parts.keyed cfg.localCcid).Holds w.tunnel ∧
      Backed w := by
    refine hw.invariant (I := fun w => w.tunnel.cfg.localCcid = cfg.localCcid ∧
      (Parts.keyed cfg.localCcid).Holds w.tunnel ∧ Backed w) ⟨rfl, ?_, ?_⟩ ?_
    · exact Parts.keyed_holds_init cfg
    · refine ⟨⟨dp₀, []⟩, rfl, iff_of_false (by simp [World.init, Tunnel.init]) hfree, ?_⟩
      rintro sid ⟨s, hs, hup⟩
      obtain ⟨scfg, -, -, rfl⟩ := get?_init hs
      cases hup
    -- the event's own refusals are the ones added to the record
    · rintro w e ⟨-, hparts, hbacked⟩ hspared
      have hsince := (since_survives hmac cfg.localCcid w).handle e w ⟨hparts, .of_dataplane rfl id⟩
      obtain ⟨more, hmore, hlead⟩ := hsince.leads
      refine ⟨hsince.parts.cfg, hsince.parts, hlead (fun r hr => hspared r ?_) hbacked⟩
      rw [Tunnel.step, hmore, List.drop_left]
      exact hr
  obtain ⟨hccid, -, dp, hdp, hbacks⟩ := h
  rw [hccid] at hbacks
  exact ⟨dp, hdp, fun sid s hs hup => hbacks.sessions sid ⟨s, hs, hup⟩, hbacks.tunnel⟩

/-! ## A kernel that refuses some calls

The in-memory dataplane with a list of refusals. Two of the examples are harmless, the other two
leave the machines and the dataplane apart. -/

/-- What the in-memory dataplane holds. -/
def mockHolds (dp : MockDataplane) : Holdings where
  tunnels := {ccid | dp.tunnels.contains ccid = true}
  sessions := {key | dp.sessions.contains key = true}

instance : LawfulDataplane MockDataplane where
  holds := mockHolds
  addTunnel params dp := by
    unfold wp
    cases hget : dp.tunnels.get? params.localCcid with
    | none =>
      simp only [Dataplane.addTunnel, MockDataplane.addTunnel, get_bind_apply, hget, modify_apply]
      exact ⟨Set.ext fun _ => Dict.contains_set, rfl⟩
    | some existing =>
      have hin : params.localCcid ∈ (mockHolds dp).tunnels := Dict.contains_iff.mpr ⟨_, hget⟩
      by_cases heq : existing.Same params
      · simp only [Dataplane.addTunnel, MockDataplane.addTunnel, get_bind_apply, hget, heq,
          not_true_eq_false, if_false, pure_apply]
        exact ⟨(Set.insert_eq_of_mem hin).symm, rfl⟩
      · simp only [Dataplane.addTunnel, MockDataplane.addTunnel, get_bind_apply, hget, heq,
          not_false_eq_true, if_true, raise_apply]
  addSession params dp := by
    unfold wp
    simp only [Dataplane.addSession, MockDataplane.addSession, get_bind_apply]
    by_cases hin : dp.sessions.contains (params.localCcid, params.localSid) = true
    · rw [if_pos hin, raise_apply]
    · rw [if_neg hin]
      by_cases hno : dp.tunnels.contains params.localCcid = false
      · rw [if_pos hno, raise_apply]
      · rw [if_neg hno, modify_bind_apply, pure_apply]
        exact ⟨rfl, Set.ext fun _ => Dict.contains_set⟩
  delSession localCcid localSid dp := by
    unfold wp
    simp only [Dataplane.delSession, MockDataplane.delSession, get_bind_apply]
    by_cases hno : dp.sessions.contains (localCcid, localSid) = false
    · rw [if_pos hno, pure_apply]
      refine ⟨rfl, (Set.sdiff_singleton_eq_self fun hin => ?_).symm⟩
      rw [show dp.sessions.contains (localCcid, localSid) = true from hin] at hno
      cases hno
    · rw [if_neg hno, modify_apply]
      exact ⟨rfl, Set.ext fun _ => Dict.contains_erase⟩
  delTunnel localCcid dp := by
    unfold wp
    simp only [Dataplane.delTunnel, MockDataplane.delTunnel, get_bind_apply]
    by_cases hno : dp.tunnels.contains localCcid = false
    · rw [if_pos hno, pure_apply]
      refine (Set.sdiff_singleton_eq_self fun hin => ?_).symm
      rw [show dp.tunnels.contains localCcid = true from hin] at hno
      cases hno
    · rw [if_neg hno]
      by_cases hlive : (dp.sessions.keys.filter fun k => k.1 == localCcid) ≠ []
      · rw [if_pos hlive, raise_apply]
      · rw [if_neg hlive, modify_apply]
        exact Set.ext fun _ => Dict.contains_erase

/-- The in-memory dataplane, with a list of which of its next calls raise. -/
structure Flaky where
  kernel : MockDataplane
  refuses : List Bool

namespace Flaky

/-- One call: it raises if the list says so. -/
def attempt {α : Type} (m : Prog MockDataplane α) : Prog Flaky α := fun self =>
  if self.refuses.head? = some true then
    (.error (MockDataplane.dataplaneError "refused"), { self with refuses := self.refuses.tail })
  else ((m self.kernel).1, ⟨(m self.kernel).2, self.refuses.tail⟩)

instance : Dataplane Flaky where
  addTunnel params := attempt (MockDataplane.addTunnel params)
  addSession params := attempt (MockDataplane.addSession params)
  delSession localCcid localSid := attempt (MockDataplane.delSession localCcid localSid)
  delTunnel localCcid := attempt (MockDataplane.delTunnel localCcid)

/-- A kernel that refuses some calls still obeys the others. -/
theorem obeys_attempt {α : Type} {call : DataplaneCall} {m : Prog MockDataplane α}
    (hm : Obeys mockHolds call m) : Obeys (fun self : Flaky => mockHolds self.kernel) call (attempt m) := by
  intro self
  have hspec := hm self.kernel
  unfold wp at hspec ⊢
  by_cases hrefuse : self.refuses.head? = some true
  · rw [attempt, if_pos hrefuse]
  · rw [attempt, if_neg hrefuse]
    rcases hrun : m self.kernel with ⟨e | a, kernel⟩ <;> rw [hrun] at hspec <;> exact hspec

instance : LawfulDataplane Flaky where
  holds self := mockHolds self.kernel
  addTunnel params := obeys_attempt (LawfulDataplane.addTunnel (δ := MockDataplane) params)
  addSession params := obeys_attempt (LawfulDataplane.addSession (δ := MockDataplane) params)
  delSession localCcid localSid :=
    obeys_attempt (LawfulDataplane.delSession (δ := MockDataplane) localCcid localSid)
  delTunnel localCcid := obeys_attempt (LawfulDataplane.delTunnel (δ := MockDataplane) localCcid)

end Flaky

/-- `gateway` after some events, on a dataplane that refuses some calls. -/
def gatewayAfter (refuses : List Bool) (es : List Tunnel.Event) : World (Watched Flaky) :=
  es.foldl (Tunnel.step ControlMessage.sumHmac)
    (World.init Mirror.gateway (some ⟨⟨{}, refuses⟩, []⟩) fun _ => 0)

/-- The tunnel comes up and takes a call. -/
def takenCall : List Tunnel.Event :=
  [.start, .datagram Pseudowire.replyDatagram, .datagram (Mirror.callDatagram .icrq 1 0),
    .datagram (Mirror.callDatagram .iccn 2 1)]

/-- The calls whose failure does no harm, whatever is held. -/
def harmless : DataplaneCall → Bool
  | .addTunnel _ => true
  | .delSession _ _ => true
  | _ => false

/-- A step is spared if it had only such calls refused. -/
theorem spared_of_harmless {w : World (Watched Flaky)} {e : Tunnel.Event}
    (h : (((refused (Tunnel.step hmac w e)).drop (refused w).length).all fun r => harmless r.1) = true) :
    Spared hmac w e := by
  rintro ⟨call, held⟩ hr
  have hcall := List.all_eq_true.mp h _ hr
  -- the calls whose refusal harms nobody
  cases call with
  | addTunnel params => exact id
  | delSession localCcid localSid => exact id
  | addSession params => cases hcall
  | delTunnel localCcid => cases hcall

/-- The session is closed, and its kernel session cannot be deleted: the flag still says that
the tunnel is there. -/
theorem survives_spared_closed :
    let w := gatewayAfter [false, false, true] (takenCall ++ [.closeSession 1 6])
    w.faults.length = 1 ∧ w.tunnel.tunnelDpAdded = true ∧
      ∃ dp, w.dataplane = some dp ∧ 100 ∈ (mockHolds dp.dataplane.kernel).tunnels := by
  have hreach : Transition.Reach (Tunnel.step ControlMessage.sumHmac) (Spared ControlMessage.sumHmac)
      (World.init Mirror.gateway (some ⟨⟨{}, [false, false, true]⟩, []⟩) fun _ => 0)
      (gatewayAfter [false, false, true] (takenCall ++ [.closeSession 1 6])) := by
    refine Transition.Reach.run .start ⟨?_, ?_, ?_, ?_, ?_, trivial⟩ <;>
      exact spared_of_harmless (by decide +kernel)
  have hflag : (gatewayAfter [false, false, true]
      (takenCall ++ [.closeSession 1 6])).tunnel.tunnelDpAdded = true := by
    decide +kernel
  obtain ⟨dp, hdp, -, htunnel⟩ := survives_spared ControlMessage.sumHmac Mirror.gateway
    (δ := Flaky) ⟨{}, [false, false, true]⟩ (fun _ => 0) (by simp [LawfulDataplane.holds, mockHolds, Dict.contains])
    _ hreach
  exact ⟨by decide +kernel, hflag, dp, hdp, htunnel.mp hflag⟩

/-- `add_session` fails when the call is taken. -/
def unbacked : World (Watched Flaky) := gatewayAfter [false, true] takenCall

/-- `del_tunnel` fails when the tunnel is closed. -/
def stranded : World (Watched Flaky) :=
  gatewayAfter [false, false, false, true] (takenCall ++ [.close])

/-- A session that is up without a netdev, and a kernel tunnel that no teardown tries to delete
again. -/
theorem faults_break :
    (unbacked.tunnel.sessionsByLocal.get? 1).map (·.state) = some .established ∧
    unbacked.dataplane.map (·.dataplane.kernel.sessions.contains (100, 1)) = some false ∧
    stranded.tunnel.tunnelDpAdded = false ∧
    stranded.dataplane.map (·.dataplane.kernel.tunnels.contains 100) = some true := by
  decide +kernel

end Faults

end L2tpv3d
