import L2tpv3d.Daemon.Handlers
import L2tpv3d.Lib.Transition

/-!
# L2tpv3d — the dataplane mirrors the session machines

`Tunnel.live` is the purpose of a tunnel's dataplane calls: the remote session ID of every
session that is up. `Mirrors f w` says that the dataplane holds exactly the sessions `f` for
this tunnel's CCID, with the bookkeeping around it: the kernel tunnel is there when the flag
says so and whenever there is a session, and no call has failed.

Between the call of a session machine and the execution of the actions it returned, the
dataplane is behind by that one session. `mirrors_execute` is the step that catches up, one
case per outcome of the machine: the only obstacle is a message that cannot be sent, and the
messages sent on the way up or down are regular.

* **`dataplane_mirrors`** — after every step of every run, on a dataplane that other tunnels
  may be using at the same time, also after a step that ended in an exception.
-/

namespace L2tpv3d

open Py Prog

/-- The remote session ID of a session that is up. -/
def SessionFSM.live? (s : SessionFSM) : Option Int :=
  if s.state = .established then some s.peerSid else none

theorem SessionFSM.live?_eq_none {s : SessionFSM} : s.live? = none ↔ s.state ≠ .established := by
  unfold SessionFSM.live?
  split <;> simp_all

/-- The sessions of a tunnel that are up. -/
def Tunnel.live (t : Tunnel) (sid : Int) : Option Int :=
  (t.sessionsByLocal.get? sid).bind SessionFSM.live?

namespace Mirror

open Tunnel World

variable (hmac : Hmac)

/-- The dataplane holds the sessions `f` for this tunnel, and nothing went wrong so far. -/
structure Mirrors (f : Int → Option Int) (w : World MockDataplane) : Prop where
  dataplane : ∃ dp, w.dataplane = some dp ∧
    (∀ sid, dp.remoteSid? w.tunnel.cfg.localCcid sid = f sid) ∧
    dp.tunnels.contains w.tunnel.cfg.localCcid = w.tunnel.tunnelDpAdded
  added : ∀ sid, f sid ≠ none → w.tunnel.tunnelDpAdded = true
  faults : w.faults = []

variable {f : Int → Option Int} {w : World MockDataplane}

theorem Mirrors.congr {w' : World MockDataplane} (h : Mirrors f w) (hcfg : w'.tunnel.cfg = w.tunnel.cfg)
    (hdp : w'.dataplane = w.dataplane) (hadded : w'.tunnel.tunnelDpAdded = w.tunnel.tunnelDpAdded)
    (hfaults : w'.faults = w.faults) : Mirrors f w' :=
  ⟨by rw [hdp, hcfg, hadded]; exact h.dataplane, by rw [hadded]; exact h.added,
    hfaults.trans h.faults⟩

theorem Mirrors.send (h : Mirrors f w) (avps : List AVP) : Mirrors f (Tunnel.send hmac avps w).2 := by
  obtain ⟨hdp, hadded, hfaults⟩ := send_aside hmac avps w
  exact h.congr (executed_send hmac avps w).cfg hdp hadded hfaults

/-- After `_ensure_tunnel_dataplane` the kernel tunnel is there. -/
theorem Mirrors.ensureTunnel (h : Mirrors f w) :
    ∃ w', ensureTunnelDataplane w = (.ok (), w') ∧ Mirrors f w' ∧ w'.tunnel.tunnelDpAdded = true ∧
      w'.tunnel.cfg = w.tunnel.cfg := by
  obtain ⟨dp, hdp, hf, htun⟩ := h.dataplane
  cases hadded : w.tunnel.tunnelDpAdded with
  | true => exact ⟨w, by simp [ensureTunnelDataplane, hadded], h, hadded, rfl⟩
  | false =>
    -- the parameters of the call
    obtain ⟨params, hparams, hccid⟩ : ∃ params : TunnelParams, params = ⟨w.tunnel.cfg.localCcid,
        w.tunnel.peer.remoteCcid, w.tunnel.cfg.localAddress, w.tunnel.cfg.remoteAddress, "udp", 1701,
        1701, w.tunnel.cfg.localCcidIsBool⟩ ∧ params.localCcid = w.tunnel.cfg.localCcid := ⟨_, rfl, rfl⟩
    obtain ⟨dp', hadd, hin, hsess⟩ := MockDataplane.addTunnel_apply
      (show dp.tunnels.contains params.localCcid = false by rw [hccid, htun, hadded])
    refine ⟨{ w with
      dataplane := some dp'
      tunnel := { w.tunnel with tunnelDpAdded := true } }, ?_, ?_, rfl, rfl⟩
    · have hguard : ¬ (w.tunnel.tunnelDpAdded = true ∨ w.dataplane.isNone = true) := by
        simp [hadded, hdp]
      have hcall : onDataplane (Dataplane.addTunnel params) w
          = (.ok true, { w with dataplane := some dp' }) := onDataplane_ok hdp hadd
      rw [ensureTunnelDataplane, get_bind_apply, if_neg hguard, ← hparams,
        bind_apply_of_ok _ _ hcall]
      rfl
    · refine ⟨⟨dp', rfl, ?_, hccid ▸ hin⟩, fun _ _ => rfl, h.faults⟩
      intro sid
      rw [← hf sid, MockDataplane.remoteSid?, hsess]
      rfl

/-- The session that came up is added. -/
theorem Mirrors.addSession {params : SessionParams} (h : Mirrors f w)
    (hccid : params.localCcid = w.tunnel.cfg.localCcid) (hnew : f params.localSid = none) :
    ∃ w', executeSessionAction hmac (.dataplaneAddSession params) w = (.ok (), w') ∧
      Mirrors (Function.update f params.localSid (some params.remoteSid)) w' := by
  obtain ⟨w₁, hensure, h₁, hadded, hcfg⟩ := h.ensureTunnel
  obtain ⟨dp, hdp, hf, htun⟩ := h₁.dataplane
  have hccid' : params.localCcid = w₁.tunnel.cfg.localCcid := by rw [hcfg, hccid]
  have hfresh : dp.sessions.get? (params.localCcid, params.localSid) = none := by
    have := hf params.localSid
    rw [hnew, ← hccid', MockDataplane.remoteSid?, Option.map_eq_none_iff] at this
    exact this
  obtain ⟨dp', hadd, htun', hsess⟩ := MockDataplane.addSession_apply hfresh
    (by rw [hccid', htun, hadded])
  refine ⟨{ w₁ with dataplane := some dp' }, ?_, ?_⟩
  · rw [executeSessionAction, bind_apply_of_ok _ _ hensure]
    exact bind_apply_of_ok _ _ (onDataplane_ok hdp hadd)
  · refine ⟨⟨dp', rfl, ?_, by rw [htun']; exact htun⟩, fun _ _ => hadded, h₁.faults⟩
    intro sid
    rw [hsess, Function.update_apply, ← hf sid]
    -- the key that was added, and any other
    by_cases hsid : sid = params.localSid
    · simp [hsid, hccid']
    · have hne : ¬ (params.localCcid, params.localSid) = (w₁.tunnel.cfg.localCcid, sid) := by
        simp only [Prod.mk.injEq, not_and]
        exact fun _ heq => hsid heq.symm
      rw [if_neg hne, if_neg hsid]

/-- The session that went down is deleted. -/
theorem Mirrors.delSession (h : Mirrors f w) (sid : Int) :
    ∃ w', executeSessionAction hmac (.dataplaneDelSession w.tunnel.cfg.localCcid sid) w
        = (.ok (), w') ∧ Mirrors (Function.update f sid none) w' := by
  obtain ⟨dp, hdp, hf, htun⟩ := h.dataplane
  obtain ⟨dp', hdel, htun', hsess⟩ : ∃ dp', MockDataplane.delSession w.tunnel.cfg.localCcid sid dp
      = (.ok (), dp') ∧ dp'.tunnels = dp.tunnels ∧ _ := MockDataplane.delSession_apply sid
  refine ⟨{ w with dataplane := some dp' }, ?_, ?_⟩
  · exact bind_apply_of_ok _ _ (onDataplane_ok hdp hdel)
  · refine ⟨⟨dp', rfl, ?_, by rw [htun']; exact htun⟩, ?_, h.faults⟩
    · intro sid'
      rw [hsess, Function.update_apply, ← hf sid']
      -- the key that was deleted, and any other
      by_cases hsid : sid' = sid
      · simp [hsid]
      · have hne : ¬ (w.tunnel.cfg.localCcid, sid) = (w.tunnel.cfg.localCcid, sid') := by
          simp only [Prod.mk.injEq, true_and]
          exact fun heq => hsid heq.symm
        rw [if_neg hne, if_neg hsid]
    · intro sid' hne
      rw [Function.update_apply] at hne
      split at hne
      · exact absurd rfl hne
      · exact h.added sid' hne

/-! ## Catching up with one session

The machine of a session changes its state first, and its actions are executed one by one
afterwards. In between, the dataplane still shows the old state. The lemmas here follow one list of
actions: a message, sent or not, does not count, and the call of the dataplane makes up the
difference. -/

section Execute

variable {sid : Int} {s s' : SessionFSM} {actions : List SessionAction}

/-- An action that returned, with the ones after it. -/
theorem execute_cons_ok {a : SessionAction} {w w' : World MockDataplane}
    (h : executeSessionAction hmac a w = (.ok (), w')) :
    executeSessionActions hmac (a :: actions) w = executeSessionActions hmac actions w' :=
  bind_apply_of_ok _ _ h

/-- A message that can be sent, and then the rest. -/
theorem Mirrors.sendRegular (h : Mirrors f w) {avps : List AVP} (hready : w.tunnel.Ready)
    (havps : Regular avps) : ∃ w', Mirrors f w' ∧ w'.tunnel.cfg = w.tunnel.cfg ∧
      executeSessionActions hmac (.sendMessage avps :: actions) w
        = executeSessionActions hmac actions w' := by
  obtain ⟨_, peer, bs, -, -, hrun⟩ := send_ok hmac hready havps
  refine ⟨_, ?_, ?_, execute_cons_ok hmac hrun⟩
  · exact h.congr rfl rfl rfl rfl
  · rfl

/-- A single message, sent or not. -/
theorem Mirrors.sendOnly (h : Mirrors f w) (avps : List AVP) :
    Mirrors f (executeSessionActions hmac [.sendMessage avps] w).2 := by
  have hsend := h.send hmac avps
  have hrun : executeSessionActions hmac [.sendMessage avps] w
      = (Tunnel.send hmac avps >>= fun _ => pure ()) w := rfl
  rw [hrun, bind_apply]
  rcases hout : Tunnel.send hmac avps w with ⟨e | _, w'⟩
  · rw [hout] at hsend; exact hsend
  · rw [hout] at hsend; exact hsend

/-- A session that was up and went down: its netdev is deleted. -/
theorem Mirrors.down (h : Mirrors f w) (reason : SessionDownReason) (hs : s.state = .established)
    (hccid : s.config.localCcid = w.tunnel.cfg.localCcid) (hsid : s.config.localSid = sid) :
    Mirrors (Function.update f sid none)
      (executeSessionActions hmac (s.downActions reason) w).2 := by
  obtain ⟨w', hrun, h'⟩ := h.delSession hmac sid
  rw [SessionFSM.downActions, if_pos hs, hccid, hsid, execute_cons_ok hmac hrun]
  exact h'

/-- A session that came up: its netdev is added. -/
theorem Mirrors.up (h : Mirrors f w) (params : SessionParams) (hnew : f sid = none)
    (hccid : params.localCcid = w.tunnel.cfg.localCcid) (hsid : params.localSid = sid) :
    Mirrors (Function.update f sid (some params.remoteSid))
      (executeSessionActions hmac [.dataplaneAddSession params, .sessionEstablished] w).2 := by
  subst hsid
  obtain ⟨w', hrun, h'⟩ := h.addSession hmac hccid hnew
  rw [execute_cons_ok hmac hrun]
  exact h'

/-- **The dataplane catches up** with a session whose machine has just returned `actions`:
before, the dataplane still holds the old state of that session. -/
theorem mirrors_execute (hout : SessionFSM.Outcome s (.ok actions) s')
    (hkey : s.config.localSid = sid ∧ s.config.localCcid = w.tunnel.cfg.localCcid)
    (hbefore : Mirrors (Function.update f sid s.live?) w) (hafter : f sid = s'.live?)
    (hready : w.tunnel.Ready ∨ s.live? = none ∧ s'.live? = none) :
    Mirrors f (executeSessionActions hmac actions w).2 := by
  -- nothing to do for the dataplane when the session is as live as before
  have hsame : s.live? = s'.live? → Mirrors f w := by
    intro heq
    rwa [heq, ← hafter, Function.update_eq_self] at hbefore
  have hupdate : ∀ o, s'.live? = o → Function.update (Function.update f sid s.live?) sid o = f := by
    intro o ho
    rw [Function.update_idem, ← ho, ← hafter, Function.update_eq_self]
  -- by what the method did: an ICCN or a CDN is sent before the dataplane is called
  cases hout with
  | ignored => exact hsame rfl
  | called hs hb => exact (hsame (by simp [SessionFSM.live?, hs])).sendOnly hmac _
  | answered hs _ hb => exact (hsame (by simp [SessionFSM.live?, hs])).sendOnly hmac _
  | connected hs _ hb =>
    rename_i body fields avps hparse
    have hlive : s.live? = none := by simp [SessionFSM.live?, hs]
    have hready' : w.tunnel.Ready := by
      rcases hready with h | ⟨-, h⟩
      · exact h
      · simp [SessionFSM.live?] at h
    obtain ⟨w', h', hcfg, hrun⟩ :=
      hbefore.sendRegular hmac hready' (buildIccnAvps_regular hb).1
    rw [hrun]
    have hup := h'.up hmac (s.learned fields).dataplaneParams (by simp [hlive])
      (by rw [hcfg]; exact hkey.2) hkey.1
    rwa [hupdate _ (by simp [SessionFSM.live?, SessionFSM.dataplaneParams])] at hup
  | accepted hs =>
    have hlive : s.live? = none := by simp [SessionFSM.live?, hs]
    have hup := hbefore.up hmac s.dataplaneParams (by simp [hlive]) hkey.2 hkey.1
    rwa [hupdate _ (by simp [SessionFSM.live?, SessionFSM.dataplaneParams])] at hup
  | closed hs hb =>
    rename_i resultCode avps reason
    by_cases hest : s.state = .established
    · have hready' : w.tunnel.Ready := by
        rcases hready with h | ⟨h, -⟩
        · exact h
        · simp [SessionFSM.live?, hest] at h
      obtain ⟨w', h', hcfg, hrun⟩ :=
        hbefore.sendRegular hmac hready' (buildCdnAvps_regular hb).1
      rw [List.singleton_append, hrun]
      have hdown := h'.down hmac reason hest (by rw [hcfg]; exact hkey.2) hkey.1
      rwa [hupdate _ (by simp [SessionFSM.live?])] at hdown
    · rw [SessionFSM.downActions, if_neg hest, List.append_nil]
      exact (hsame (by simp [SessionFSM.live?, hest])).sendOnly hmac _
  | dropped hs =>
    rename_i reason
    by_cases hest : s.state = .established
    · have hdown := hbefore.down hmac reason hest hkey.2 hkey.1
      rwa [hupdate _ (by simp [SessionFSM.live?])] at hdown
    · rw [SessionFSM.downActions, if_neg hest]
      exact hsame (by simp [SessionFSM.live?, hest])

end Execute

/-! ## The invariant

`Inv` is the mirror together with what its proof needs between two events. It is kept by every
method that a handler is made of, each of which has its lemma, and so by every handler. -/

/-- What every handler keeps, whether it returns or raises. A peer CCID that is out of range
stays so; then no acknowledgement can be sent, so no message reaches a session. -/
structure Inv (w : World MockDataplane) : Prop where
  keyed : ∀ sid s, w.tunnel.sessionsByLocal.get? sid = some s →
    s.config.localSid = sid ∧ s.config.localCcid = w.tunnel.cfg.localCcid
  sound : w.tunnel.peer.Sound
  mirrors : Mirrors w.tunnel.live w
  remoteCcid : IsU32 w.tunnel.peer.remoteCcid ∨ ∀ sid, w.tunnel.live sid = none

/-- Writing a session back changes what is live of it, and nothing else. -/
theorem live_withSession (w : World MockDataplane) (sid : Int) (s : SessionFSM) :
    (w.withSession sid s).tunnel.live = Function.update w.tunnel.live sid s.live? := by
  funext sid'
  rw [Tunnel.live, get?_withSession, Function.update_apply]
  by_cases h : sid' = sid
  · simp [h]
  · rw [if_neg fun heq => h heq.symm, if_neg h]
    rfl

/-- A move of the transport, of the timer or of the notices. -/
theorem Inv.moved {w' : World MockDataplane} (h : Inv w) (hw : Moved w w') : Inv w' := by
  have hlive : w'.tunnel.live = w.tunnel.live := by
    funext sid
    rw [Tunnel.live, hw.sessionsByLocal]
    rfl
  refine ⟨by rw [hw.sessionsByLocal, hw.cfg]; exact h.keyed, hw.sound, ?_, ?_⟩
  · rw [hlive]
    exact h.mirrors.congr hw.cfg hw.dataplane hw.tunnelDpAdded hw.faults
  · rw [hlive]
    exact h.remoteCcid.imp_left hw.remoteCcid

/-- The machine of a session raised: it is as live as before. -/
theorem Inv.raised {sid : Int} {s s' : SessionFSM} {e : Exn} (h : Inv w)
    (hget : w.tunnel.sessionsByLocal.get? sid = some s)
    (hout : SessionFSM.Outcome s (.error e) s') : Inv (w.withSession sid s') := by
  have hlive : s'.live? = s.live? := by
    cases hout with
    | raised => rfl
    | refused hs _ => rcases hs with hs | hs <;> simp [SessionFSM.live?, SessionFSM.learned,
        SessionFSM.learnPeer, hs]
  have hsame : (w.withSession sid s').tunnel.live = w.tunnel.live := by
    rw [live_withSession, hlive, Function.update_eq_self_iff, Tunnel.live, hget]
    rfl
  refine ⟨?_, h.sound, ?_, ?_⟩
  · exact Keyed.withSession h.keyed hget hout.config_eq
  · rw [hsame]
    exact h.mirrors.congr rfl rfl rfl rfl
  · rw [hsame]
    exact h.remoteCcid

/-- The machine of a session returned actions, and they are executed. -/
theorem Inv.executed {sid : Int} {s s' : SessionFSM} {actions : List SessionAction}
    {byRemote : Dict Int Int} (h : Inv w) (hget : w.tunnel.sessionsByLocal.get? sid = some s)
    (hout : SessionFSM.Outcome s (.ok actions) s')
    (hccid : IsU32 w.tunnel.peer.remoteCcid ∨ (s.live? = none → s'.live? = none)) :
    Inv (executeSessionActions hmac actions ((w.withSession sid s').withIndex byRemote)).2 := by
  -- `w₁` is the world in which the actions are executed
  obtain ⟨w₁, hw₁⟩ : ∃ w₁, w₁ = (w.withSession sid s').withIndex byRemote := ⟨_, rfl⟩
  rw [← hw₁]
  have hlive : w₁.tunnel.live = Function.update w.tunnel.live sid s'.live? := by
    rw [hw₁, ← live_withSession]
    rfl
  have hold : w.tunnel.live sid = s.live? := by
    rw [Tunnel.live, hget]
    rfl
  have hkey : s.config.localSid = sid ∧ s.config.localCcid = w₁.tunnel.cfg.localCcid := by
    rw [hw₁]
    exact h.keyed sid s hget
  have hbefore : Mirrors (Function.update w₁.tunnel.live sid s.live?) w₁ := by
    rw [hlive, Function.update_idem, ← hold, Function.update_eq_self]
    exact h.mirrors.congr (by rw [hw₁]; rfl) (by rw [hw₁]; rfl) (by rw [hw₁]; rfl) (by rw [hw₁]; rfl)
  have hpeer : w₁.tunnel.peer = w.tunnel.peer := by rw [hw₁]; rfl
  have hnone : ¬ IsU32 w.tunnel.peer.remoteCcid → s.live? = none ∧ s'.live? = none := by
    intro hout
    have hs : s.live? = none := hold ▸ (h.remoteCcid.resolve_left hout) sid
    exact ⟨hs, hccid.resolve_left hout hs⟩
  have hready : w₁.tunnel.Ready ∨ s.live? = none ∧ s'.live? = none := by
    by_cases hin : IsU32 w.tunnel.peer.remoteCcid
    · exact .inl ⟨hpeer ▸ h.sound, hpeer ▸ hin⟩
    · exact .inr (hnone hin)
  have hafter : w₁.tunnel.live sid = s'.live? := by rw [hlive, Function.update_self]
  have hmir := mirrors_execute hmac hout hkey hbefore hafter hready
  have hex := executed_sessionActions hmac actions w₁
  have hlive' : (executeSessionActions hmac actions w₁).2.tunnel.live = w₁.tunnel.live := by
    funext sid'
    rw [Tunnel.live, hex.sessionsByLocal]
    rfl
  refine ⟨?_, hex.link.sound (hpeer ▸ h.sound), by rwa [hlive'], ?_⟩
  · rw [hex.sessionsByLocal, hex.cfg, hw₁]
    exact Keyed.withSession h.keyed hget hout.config_eq
  · rw [hex.link.remoteCcid, hpeer, hlive', hlive]
    by_cases hin : IsU32 w.tunnel.peer.remoteCcid
    · exact .inl hin
    · refine .inr fun sid' => ?_
      -- a CCID that does not fit the header: nothing is live, and nothing comes up
      rw [Function.update_apply]
      split
      · exact (hnone hin).2
      · exact h.remoteCcid.resolve_left hin sid'

theorem Inv.sessionCall {m : Prog SessionFSM (List SessionAction)} (hm : SessionFSM.Method m)
    {sid : Int} {g : Tunnel → Tunnel} (hg : OnlyIndex g) (h : Inv w)
    (hccid : IsU32 w.tunnel.peer.remoteCcid ∨ SessionFSM.NeverRises m) :
    Inv (callSession hmac sid m g w).2 := by
  -- no such session; a method that raised; a method that returned actions
  rcases callSession_cases hmac sid m hg w with ⟨r, -, hrun⟩ | ⟨s, s', e, hget, hcall, hrun⟩ |
    ⟨s, s', actions, r, hget, hcall, hrun⟩
  · rw [hrun]
    exact h.moved ⟨rfl, rfl, h.sound, id, rfl, rfl, rfl⟩
  · have hout := hm s
    rw [hcall] at hout
    rw [hrun]
    exact h.raised hget hout
  · have hout := hm s
    rw [hcall] at hout
    rw [hrun]
    refine h.executed hmac hget hout (hccid.imp_right fun hnever hlive => ?_)
    have hrise := hnever s (SessionFSM.live?_eq_none.mp hlive)
    rw [hcall] at hrise
    exact SessionFSM.live?_eq_none.mpr hrise

/-- **The teardown of a tunnel**: all sessions go, then the kernel tunnel. -/
theorem Inv.tornDown (h : Inv w) (reason : TunnelDownReason) :
    ∃ w', executeTunnelAction hmac (.tornDown reason) w = (.ok (), w') ∧ Inv w' ∧
      w'.tunnel.AllIdle ∧ w'.tunnel.tunnelDpAdded = false := by
  obtain ⟨w₂, h₂, hidle, hact⟩ := tornDown_apply hmac
    (fun _ _ h => h.moved ⟨rfl, rfl, h.sound, id, rfl, rfl, rfl⟩)
    (fun sid w h => Inv.sessionCall hmac SessionFSM.method_onTunnelDown onlyIndex_id h
      (.inr SessionFSM.neverRises_onTunnelDown)) reason h
  -- after the cascade nothing is live, so the dataplane lets the kernel tunnel go
  have hlive : ∀ sid, w₂.tunnel.live sid = none := by
    intro sid
    unfold Tunnel.live
    cases hget : w₂.tunnel.sessionsByLocal.get? sid with
    | none => rfl
    | some s => simp [SessionFSM.live?, hidle sid s hget]
  obtain ⟨dp, hdp, hf, htun⟩ := h₂.mirrors.dataplane
  rw [hact]
  cases hadded : w₂.tunnel.tunnelDpAdded with
  | false => exact ⟨w₂, by simp, h₂, hidle, hadded⟩
  | true =>
    obtain ⟨dp', hdel, hgone, hsess⟩ : ∃ dp', MockDataplane.delTunnel w₂.tunnel.cfg.localCcid dp
        = (.ok (), dp') ∧ dp'.tunnels.contains w₂.tunnel.cfg.localCcid = false ∧ _ :=
      MockDataplane.delTunnel_apply fun sid => (hf sid).trans (hlive sid)
    refine ⟨{ w₂ with
      dataplane := some dp'
      tunnel := { w₂.tunnel with tunnelDpAdded := false } }, ?_, ?_, hidle, rfl⟩
    · rw [if_pos ⟨rfl, by simp [hdp]⟩]
      have hcall : onDataplane (Dataplane.delTunnel w₂.tunnel.cfg.localCcid) w₂
          = (.ok true, { w₂ with dataplane := some dp' }) := onDataplane_ok hdp hdel
      rw [bind_apply_of_ok _ _ hcall]
      rfl
    · refine ⟨h₂.keyed, h₂.sound, ⟨⟨dp', rfl, ?_, hgone⟩, ?_, h₂.mirrors.faults⟩, h₂.remoteCcid⟩
      · intro sid
        rw [MockDataplane.remoteSid?, hsess]
        exact hf sid
      · exact fun sid hne => absurd (hlive sid) hne

/-- Every handler keeps the mirror. -/
theorem inv_survives : Survives (δ := MockDataplane) hmac Inv where
  sound h := h.sound
  moved h hw := h.moved hw
  called hm _ _ hg _ h hccid := h.sessionCall hmac hm hg hccid
  tornDown reason w h := by
    obtain ⟨w', hrun, h', -⟩ := h.tornDown hmac reason
    rw [hrun]
    exact h'

/-! ## Runs

Other tunnels share the dataplane, so a step is an event of this tunnel or a change that the others
made. Of the latter nothing is known but that it agrees on the entries of this tunnel's CCID. -/

/-- An event of this tunnel, or other tunnels at work on the dataplane they share. -/
inductive Step where
  | own (e : Tunnel.Event)
  | others (dp : MockDataplane)

/-- The world after a step. -/
def step (w : World MockDataplane) : Step → World MockDataplane
  | .own e => Tunnel.step hmac w e
  | .others dp => { w with dataplane := some dp }

/-- `dp` and `dp'` hold the same for `ccid`. -/
def AgreeOn (ccid : Int) (dp dp' : MockDataplane) : Prop :=
  dp'.tunnels.get? ccid = dp.tunnels.get? ccid ∧
    ∀ sid, dp'.sessions.get? (ccid, sid) = dp.sessions.get? (ccid, sid)

/-- Agreement on a session's peer. -/
theorem AgreeOn.remoteSid? {ccid : Int} {dp dp' : MockDataplane} (h : AgreeOn ccid dp dp')
    (sid : Int) : dp'.remoteSid? ccid sid = dp.remoteSid? ccid sid := by
  rw [MockDataplane.remoteSid?, h.2 sid, MockDataplane.remoteSid?]

/-- Agreement on the tunnel. -/
theorem AgreeOn.contains {ccid : Int} {dp dp' : MockDataplane} (h : AgreeOn ccid dp dp') :
    dp'.tunnels.contains ccid = dp.tunnels.contains ccid := by
  rw [Dict.contains, h.1, Dict.contains]

/-- No other tunnel has this tunnel's CCID. -/
def Foreign (w : World MockDataplane) : Step → Prop
  | .own _ => True
  | .others dp' => ∀ dp ∈ w.dataplane, AgreeOn w.tunnel.cfg.localCcid dp dp'

/-- **At the start** nothing is live, and the dataplane holds nothing of the tunnel. -/
theorem inv_init {cfg : TunnelConfigEntry} {dp : MockDataplane} (clock : Nat → ℚ)
    (hfree : AgreeOn cfg.localCcid {} dp) : Inv (World.init cfg (some dp) clock) := by
  have hlive : (Tunnel.init cfg).live = fun _ => none := by
    funext sid
    unfold Tunnel.live
    cases hget : (Tunnel.init cfg).sessionsByLocal.get? sid with
    | none => rfl
    | some s =>
      obtain ⟨scfg, -, -, rfl⟩ := get?_init hget
      rfl
  refine ⟨?_, Peer.sound_init _ _ _ _ _, ⟨⟨dp, rfl, ?_, ?_⟩, ?_, rfl⟩, .inr fun sid => ?_⟩
  · exact keyed_init cfg
  · exact fun sid => (hfree.remoteSid? sid).trans (congrFun hlive sid).symm
  · exact hfree.contains
  · exact fun sid hne => absurd (congrFun hlive sid) hne
  · exact congrFun hlive sid

/-- **One step**, of the tunnel or of the others. -/
theorem inv_step {hmac : Hmac} {w : World MockDataplane} {e : Step} (h : Inv w)
    (hok : Foreign w e) : Inv (step hmac w e) := by
  cases e with
  | own e => exact (inv_survives hmac).handle e w h
  | others dp' =>
    obtain ⟨dp, hdp, hf, htun⟩ := h.mirrors.dataplane
    have hagree := hok dp hdp
    exact ⟨h.keyed, h.sound, ⟨⟨dp', rfl, fun sid => (hagree.remoteSid? sid).trans (hf sid),
      hagree.contains.trans htun⟩, h.mirrors.added, h.mirrors.faults⟩, h.remoteCcid⟩

/-- **The dataplane mirrors the session machines** after every step of every run: its sessions for
this CCID are those in ESTABLISHED, each with the peer's session ID; the flag says whether the
kernel tunnel is there; and no call of the dataplane has raised. The equation of `Mirrors` is read
here at one session ID, in both directions. -/
theorem dataplane_mirrors (hmac : Hmac) (cfg : TunnelConfigEntry) (dp₀ : MockDataplane)
    (clock : Nat → ℚ) (hfree : AgreeOn cfg.localCcid {} dp₀) (w : World MockDataplane)
    (hw : Transition.Reach (step hmac) Foreign (World.init cfg (some dp₀) clock) w) :
    ∃ dp, w.dataplane = some dp ∧
      (∀ sid, (∃ params, dp.sessions.get? (w.tunnel.cfg.localCcid, sid) = some params) ↔
        ∃ s, w.tunnel.sessionsByLocal.get? sid = some s ∧ s.state = .established) ∧
      (∀ sid params s, dp.sessions.get? (w.tunnel.cfg.localCcid, sid) = some params →
        w.tunnel.sessionsByLocal.get? sid = some s → params.remoteSid = s.peerSid) ∧
      (w.tunnel.tunnelDpAdded = true ↔
        ∃ params, dp.tunnels.get? w.tunnel.cfg.localCcid = some params) ∧
      w.faults = [] := by
  have h : Inv w := hw.invariant (inv_init clock hfree) fun _ _ hinv hok => inv_step hinv hok
  obtain ⟨dp, hdp, hf, htun⟩ := h.mirrors.dataplane
  -- the mirror at one session ID, in terms of what is stored and of the machine
  have hsid : ∀ sid, (dp.sessions.get? (w.tunnel.cfg.localCcid, sid)).map (·.remoteSid)
      = (w.tunnel.sessionsByLocal.get? sid).bind SessionFSM.live? := hf
  refine ⟨dp, hdp, fun sid => ⟨?_, ?_⟩, ?_, ?_, h.mirrors.faults⟩
  · rintro ⟨params, hparams⟩
    have heq := hsid sid
    rw [hparams, Option.map_some, eq_comm, Option.bind_eq_some_iff] at heq
    obtain ⟨s, hs, hlive⟩ := heq
    refine ⟨s, hs, ?_⟩
    by_contra hne
    simp [SessionFSM.live?, hne] at hlive
  · rintro ⟨s, hs, hest⟩
    have heq := hsid sid
    rw [hs, Option.bind_some, SessionFSM.live?, if_pos hest, Option.map_eq_some_iff] at heq
    obtain ⟨params, hparams, -⟩ := heq
    exact ⟨params, hparams⟩
  · intro sid params s hparams hs
    have heq := hsid sid
    rw [hparams, hs, Option.map_some, Option.bind_some, SessionFSM.live?] at heq
    split at heq
    · exact Option.some.inj heq
    · cases heq
  · rw [← htun, Dict.contains_iff]

/-- A tunnel with one session that waits for calls. -/
def gateway : TunnelConfigEntry where
  name := "gateway"
  localAddress := "192.0.2.1"
  remoteAddress := "192.0.2.2"
  localCcid := 100
  hostName := "gateway"
  routerId := 1
  remoteCcid := 200
  sessions := [{ name := "office", pseudowireType := .ethernet, localSid := 1, initiator := false }]

/-- A datagram of the peer of `gateway`: a call message of its session 7. -/
def callDatagram (mt : MessageType) (ns : Int) (remoteSid : Nat) : Bytes :=
  (ControlMessage.mk 100 ns 0 [messageTypeAvp mt, ietfAvp .localSessionId (beBytes 4 7) true,
    ietfAvp .remoteSessionId (beBytes 4 remoteSid) true]).wire

/-- The peer calls, and the session comes up. -/
def answeredCall : List Tunnel.Event :=
  [.start, .datagram (callDatagram .icrq 0 0), .datagram (callDatagram .iccn 1 1)]

/-- `gateway` after the call. -/
def answered : World MockDataplane :=
  (answeredCall.map Step.own).foldl (step ControlMessage.sumHmac)
    (World.init gateway (some {}) fun _ => 0)

/-- The call is up, and the dataplane has its session. -/
theorem dataplane_mirrors_answered :
    ∃ dp params, answered.dataplane = some dp ∧ dp.sessions.get? (100, 1) = some params ∧
      answered.faults = [] := by
  have hreach : Transition.Reach (step ControlMessage.sumHmac) Foreign
      (World.init gateway (some {}) fun _ => 0) answered :=
    Transition.Reach.run .start (by simp [answeredCall, Transition.Guarded, Foreign])
  obtain ⟨dp, hdp, hkeys, -, -, hfaults⟩ := dataplane_mirrors ControlMessage.sumHmac gateway {}
    (fun _ => 0) ⟨rfl, fun _ => rfl⟩ answered hreach
  have hup : (answered.tunnel.sessionsByLocal.get? 1).map (·.state) = some .established := by
    decide +kernel
  have hccid : answered.tunnel.cfg.localCcid = 100 := by decide +kernel
  obtain ⟨params, hparams⟩ := (hkeys 1).mpr (Option.map_eq_some_iff.mp hup)
  exact ⟨dp, params, hdp, hccid ▸ hparams, hfaults⟩

end Mirror

end L2tpv3d
