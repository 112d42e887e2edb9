import L2tpv3d.Daemon.Handlers
import L2tpv3d.Fsm.Moves

/-!
# L2tpv3d — what a dataplane records of what is added to it

A dataplane that keeps a record of the calls of `add_tunnel` and `add_session`: the record changes
with such a call, also when it raises, and with nothing else that the tunnel does.

* `Recorder` — the record of a dataplane, and what a call adds to it.
* `requested` — the kernel sessions that a list of actions asks for; `calls` — the calls that
  follow, the first of which adds the kernel tunnel unless it is there.
* **`record_execute`** — the actions of a session add what they ask for to the record.
* `record_callSession`, `record_drive` — and so do the calls of the machines.
-/

namespace L2tpv3d

open Py Prog

/-- What a dataplane tells of what was added to it, and how a call changes it. The calls that
delete change nothing. -/
structure Recorder (δ ρ : Type) [Dataplane δ] where
  told : δ → ρ
  note : DataplaneCall → ρ → ρ
  addTunnel : ∀ params dp,
    told (Dataplane.addTunnel params dp).2 = note (.addTunnel params) (told dp)
  addSession : ∀ params dp,
    told (Dataplane.addSession params dp).2 = note (.addSession params) (told dp)
  delSession : ∀ localCcid localSid dp, told (Dataplane.delSession localCcid localSid dp).2 = told dp
  delTunnel : ∀ localCcid dp, told (Dataplane.delTunnel localCcid dp).2 = told dp

namespace Recorder

open Tunnel World

variable {δ ρ : Type} [Dataplane δ] (R : Recorder δ ρ) {hmac : Hmac} {w : World δ}

/-- The record, if there is a dataplane. -/
def record (w : World δ) : Option ρ := w.dataplane.map R.told

theorem record_onDataplane {α : Type} {m : Prog δ α} {f : ρ → ρ}
    (hm : ∀ dp, R.told (m dp).2 = f (R.told dp)) (w : World δ) :
    ∃ r w', onDataplane m w = (.ok r, w') ∧ w'.tunnel = w.tunnel ∧
      R.record w' = (R.record w).map f := by
  cases hdp : w.dataplane with
  | none => exact ⟨false, w, by simp [onDataplane, hdp], rfl, by simp [record, hdp]⟩
  | some dp =>
    have htold := hm dp
    -- a call that raises is noted too, and its exception is caught
    rcases hcall : m dp with ⟨e | a, dp'⟩
    · rw [hcall] at htold
      refine ⟨false, { w with dataplane := some dp', faults := w.faults ++ [e] }, ?_, rfl, ?_⟩
      · simp [onDataplane, hdp, hcall]
      · rw [record, record, hdp, Option.map_some, htold]
        rfl
    · rw [hcall] at htold
      refine ⟨true, { w with dataplane := some dp' }, ?_, rfl, ?_⟩
      · simp [onDataplane, hdp, hcall]
      · rw [record, record, hdp, Option.map_some, htold]
        rfl

/-- A call that is not recorded. -/
theorem record_onDataplane_id {α : Type} {m : Prog δ α} (hm : ∀ dp, R.told (m dp).2 = R.told dp)
    (w : World δ) : R.record (onDataplane m w).2 = R.record w := by
  obtain ⟨r, w', hrun, -, hrecord⟩ := R.record_onDataplane (f := id) hm w
  rw [hrun, hrecord, Option.map_id]
  rfl

/-- What a list of calls adds to the record. -/
def notes (calls : List DataplaneCall) (told : ρ) : ρ :=
  calls.foldl (fun told call => R.note call told) told

theorem map_notes_nil (o : Option ρ) : o.map (R.notes []) = o := Option.map_id' ..

/-- The calls of one list, and then those of another. -/
theorem map_notes_append (calls calls' : List DataplaneCall) (o : Option ρ) :
    o.map (R.notes (calls ++ calls')) = (o.map (R.notes calls)).map (R.notes calls') := by
  rw [Option.map_map]
  refine congrFun (congrArg Option.map (funext fun told => ?_)) o
  exact List.foldl_append

/-- What a kernel tunnel is created from. -/
def tunnelParams (t : Tunnel) : TunnelParams where
  localCcid := t.cfg.localCcid
  remoteCcid := t.peer.remoteCcid
  localAddress := t.cfg.localAddress
  remoteAddress := t.cfg.remoteAddress
  localCcidIsBool := t.cfg.localCcidIsBool

/-- The call that adds the kernel tunnel, unless it was added before. -/
def opening (t : Tunnel) : List DataplaneCall :=
  if t.tunnelDpAdded then [] else [.addTunnel (tunnelParams t)]

/-- The calls that add kernel sessions. -/
def calls (t : Tunnel) (requests : List SessionParams) : List DataplaneCall :=
  requests.flatMap fun params => opening t ++ [.addSession params]

omit [Dataplane δ] in
/-- Only the entry, the peer's CCID and the flag matter. -/
theorem opening_congr {t t' : Tunnel} (hcfg : t'.cfg = t.cfg)
    (hccid : t'.peer.remoteCcid = t.peer.remoteCcid) (hadded : t'.tunnelDpAdded = t.tunnelDpAdded) :
    opening t' = opening t := by
  simp only [opening, tunnelParams, hcfg, hccid, hadded]

@[simp] theorem calls_nil (t : Tunnel) : calls t [] = [] := rfl

/-- One request: the kernel tunnel if it is missing, then the session. -/
theorem calls_singleton (t : Tunnel) (params : SessionParams) :
    calls t [params] = opening t ++ [.addSession params] := List.flatMap_singleton ..

/-- Where no call follows, no session was asked for. -/
theorem requests_of_calls {t : Tunnel} {requests : List SessionParams} (h : calls t requests = []) :
    requests = [] := by
  cases requests with
  | nil => rfl
  | cons params rest => simp [calls] at h

/-- The kernel tunnel is added, unless it is there. -/
theorem record_ensureTunnel (w : World δ) :
    ∃ w', ensureTunnelDataplane w = (.ok (), w') ∧
      R.record w' = (R.record w).map (R.notes (opening w.tunnel)) := by
  rw [ensureTunnelDataplane, get_bind_apply]
  split
  · rename_i hskip
    refine ⟨w, rfl, ?_⟩
    rcases hskip with hadded | hnone
    · rw [opening, if_pos hadded, R.map_notes_nil]
    · -- without a dataplane nothing is recorded
      rw [record, Option.isNone_iff_eq_none.mp hnone]
      rfl
  · rename_i hadd
    have hopening : opening w.tunnel = [.addTunnel (tunnelParams w.tunnel)] :=
      if_neg (not_or.mp hadd).1
    obtain ⟨r, w', hrun, -, hrecord⟩ := R.record_onDataplane (R.addTunnel (tunnelParams w.tunnel)) w
    have hbind := bind_apply_of_ok _ (fun added => if added = true then
      modify (mapTunnel fun t => { t with tunnelDpAdded := true }) else pure ()) hrun
    rw [hopening]
    -- whether the call succeeded decides the flag, not the record
    cases r
    · exact ⟨w', hbind, hrecord⟩
    · exact ⟨_, hbind, hrecord⟩

/-- A session is added. -/
theorem record_addSession (hmac : Hmac) (params : SessionParams) (w : World δ) :
    ∃ w', executeSessionAction hmac (.dataplaneAddSession params) w = (.ok (), w') ∧
      R.record w' = (R.record w).map (R.notes (opening w.tunnel ++ [.addSession params])) := by
  obtain ⟨w₁, hensure, hrecord⟩ := R.record_ensureTunnel w
  obtain ⟨r, w₂, hrun, -, hrecord₂⟩ := R.record_onDataplane (R.addSession params) w₁
  refine ⟨w₂, ?_, ?_⟩
  · rw [executeSessionAction, bind_apply_of_ok _ _ hensure]
    exact bind_apply_of_ok _ _ hrun
  · rw [R.map_notes_append, ← hrecord, hrecord₂]
    rfl

/-- Any other action. -/
theorem record_action {a : SessionAction} (ha : ∀ params, a ≠ .dataplaneAddSession params)
    (w : World δ) : R.record (executeSessionAction hmac a w).2 = R.record w := by
  cases a with
  | sendMessage avps => rw [record, record, executeSessionAction, (send_aside hmac avps w).1]
  | dataplaneAddSession params => exact absurd rfl (ha params)
  | dataplaneDelSession localCcid localSid =>
    rw [executeSessionAction, bind_pure_snd]
    exact R.record_onDataplane_id (R.delSession localCcid localSid) w
  | sessionEstablished => rfl
  | sessionTornDown reason => rfl

/-- Actions that ask for no session. -/
theorem record_actions {actions : List SessionAction}
    (h : SessionFSM.requested (.ok actions) = []) (w : World δ) :
    R.record (executeSessionActions hmac actions w).2 = R.record w := by
  have hkeeps : Keeps (fun w' => R.record w' = R.record w) (executeSessionActions hmac actions) :=
    Keeps.each fun a ha w' h' => (R.record_action (fun params heq =>
      SessionFSM.not_mem_of_requested h params (heq ▸ ha)) w').trans h'
  exact hkeeps w rfl

theorem record_up (params : SessionParams) (w : World δ) :
    R.record (executeSessionActions hmac [.dataplaneAddSession params, .sessionEstablished] w).2
      = (R.record w).map (R.notes (calls w.tunnel [params])) := by
  obtain ⟨w', hrun, hrecord⟩ := R.record_addSession hmac params w
  rw [executeSessionActions, each, bind_apply_of_ok _ _ hrun, calls_singleton]
  exact hrecord

/-- **The actions of a session** add to the record what they ask for. -/
theorem record_execute {s s' : SessionFSM} {actions : List SessionAction}
    (hout : SessionFSM.Outcome s (.ok actions) s')
    (hready : w.tunnel.Ready ∨ SessionFSM.requested (.ok actions) = []) :
    R.record (executeSessionActions hmac actions w).2
      = (R.record w).map (R.notes (calls w.tunnel (SessionFSM.requested (.ok actions)))) := by
  have hnone : SessionFSM.requested (.ok actions) = [] →
      R.record (executeSessionActions hmac actions w).2
        = (R.record w).map (R.notes (calls w.tunnel (SessionFSM.requested (.ok actions)))) := by
    intro h
    rw [h, calls_nil, R.map_notes_nil]
    exact R.record_actions h w
  -- only the end of a handshake asks for a session
  cases hout with
  | ignored => exact hnone rfl
  | called _ _ => exact hnone rfl
  | answered _ _ _ => exact hnone rfl
  | @connected body fields avps _ _ hb =>
    -- the ICCN goes out first, which changes nothing that the calls depend on
    have hready' : w.tunnel.Ready := hready.resolve_right (by simp [SessionFSM.requested])
    obtain ⟨_, peer, bs, hsend, -, hrun⟩ := send_ok hmac hready' (buildIccnAvps_regular hb).1
    have hopening : opening ((tocked w).withPeer peer).tunnel = opening w.tunnel :=
      opening_congr rfl (Peer.sameLink_send hsend).remoteCcid rfl
    rw [executeSessionActions, each, bind_apply_of_ok _ _
      (show executeSessionAction hmac (.sendMessage _) w = _ from hrun)]
    let sent : World δ := { (tocked w).withPeer peer with sent := w.sent ++ [bs] }
    have hup : R.record (executeSessionActions hmac
          [.dataplaneAddSession (s.learned fields).dataplaneParams, .sessionEstablished] sent).2
        = (R.record sent).map (R.notes (calls sent.tunnel [(s.learned fields).dataplaneParams])) :=
      R.record_up _ sent
    rw [calls_singleton, show opening _ = opening w.tunnel from hopening, ← calls_singleton] at hup
    exact hup
  -- an ICCN sends nothing first
  | accepted _ => exact R.record_up _ w
  | closed _ _ => exact hnone (SessionFSM.requested_down s _)
  | dropped _ => exact hnone (SessionFSM.requested_down s _)

/-- What the call of a session asks for, in the state before it. -/
def asked (t : Tunnel) (sid : Int) (m : Prog SessionFSM (List SessionAction)) :
    List DataplaneCall :=
  match t.sessionsByLocal.get? sid with
  | none => []
  | some s => calls t (SessionFSM.requested (m s).1)

/-- What a session that exists asks for through one of its methods. -/
theorem asked_some {t : Tunnel} {sid : Int} {s : SessionFSM}
    (hget : t.sessionsByLocal.get? sid = some s) (m : Prog SessionFSM (List SessionAction)) :
    asked t sid m = calls t (SessionFSM.requested (m s).1) := by
  rw [asked, hget]

/-- **The call of a session** with all that follows it. -/
theorem record_callSession {m : Prog SessionFSM (List SessionAction)} (hm : SessionFSM.Method m)
    (sid : Int) {g : Tunnel → Tunnel} (hg : OnlyIndex g)
    (hready : w.tunnel.Ready ∨ asked w.tunnel sid m = []) :
    R.record (callSession hmac sid m g w).2
      = (R.record w).map (R.notes (asked w.tunnel sid m)) := by
  -- no such session, a method that raises, and one that returns actions
  rcases callSession_cases hmac sid m hg w with ⟨r, hget, hrun⟩ | ⟨s, s', e, hget, hcall, hrun⟩ |
    ⟨s, s', actions, r, hget, hcall, hrun⟩
  · -- there is no such session
    rw [hrun, asked, hget, R.map_notes_nil]
    rfl
  · -- the method raised: no action is executed
    have hasked := asked_some hget m
    rw [hcall] at hasked
    rw [hrun, hasked]
    exact (R.map_notes_nil _).symm
  · have hout := hm s
    have hasked := asked_some hget m
    rw [hcall] at hout hasked
    rw [hasked] at hready ⊢
    rw [hrun]
    exact R.record_execute hout
      (hready.imp (fun h => ⟨h.sound, h.remoteCcid⟩) requests_of_calls)

/-- A method that asks for nothing in any state. -/
theorem record_quiet {m : Prog SessionFSM (List SessionAction)} (hm : SessionFSM.Method m)
    (hquiet : ∀ s, SessionFSM.requested (m s).1 = []) (sid : Int) {g : Tunnel → Tunnel}
    (hg : OnlyIndex g) (w : World δ) : R.record (callSession hmac sid m g w).2 = R.record w := by
  have hasked : asked w.tunnel sid m = [] := by
    unfold asked
    split
    · rfl
    · rw [hquiet, calls_nil]
  rw [R.record_callSession hm sid hg (.inr hasked), hasked, R.map_notes_nil]

/-- The tunnel machine asks for no session. -/
theorem record_tunnelAction (a : TunnelAction) (w : World δ) :
    R.record (executeTunnelAction hmac a w).2 = R.record w := by
  have heach : ∀ {m : Prog SessionFSM (List SessionAction)}, SessionFSM.Method m →
      (∀ s, SessionFSM.requested (m s).1 = []) →
      Keeps (fun w' => R.record w' = R.record w) (eachSession hmac m) := fun hm hquiet =>
    keeps_eachSession hmac fun sid w' h =>
      (R.record_quiet hm hquiet sid onlyIndex_id w').trans h
  cases a with
  | sendMessage avps => rw [record, record, executeTunnelAction, (send_aside hmac avps w).1]
  | setHelloTimer seconds => rfl
  | clearHelloTimer => rfl
  | established =>
    exact heach SessionFSM.method_onTunnelEstablished
      (fun s => (SessionFSM.quiet_onTunnelEstablished s).requested)
      { w with notices := w.notices ++ [.established] } rfl
  -- the sessions first, then the kernel tunnel, of which nothing is noted
  | tornDown reason =>
    obtain ⟨w', hrecord, -, hrun⟩ := tornDown_apply hmac
      (I := fun w' => R.record w' = R.record w) (fun _ _ h => h)
      (fun sid w' h => (R.record_quiet SessionFSM.method_onTunnelDown
        (fun s => (SessionFSM.quiet_onTunnelDown s).requested) sid onlyIndex_id w').trans h)
      reason rfl
    rw [hrun]
    -- whether there is a kernel tunnel to remove
    split
    · obtain ⟨r, w₂, hdel, -, hrecord₂⟩ := R.record_onDataplane (f := id)
        (R.delTunnel w'.tunnel.cfg.localCcid) w'
      rw [bind_apply_of_ok _ _ hdel]
      rw [Option.map_id] at hrecord₂
      exact hrecord₂.trans hrecord
    · exact hrecord

/-- A call of the tunnel machine adds no tunnel and no session. -/
theorem record_drive (m : Prog TunnelFSM (List TunnelAction)) (w : World δ) :
    R.record (drive hmac m w).2 = R.record w := by
  have hkeeps : Keeps (fun w' => R.record w' = R.record w) (drive hmac m) :=
    Keeps.bind (fun _ h => h) fun _ => Keeps.each fun a _ w' h =>
      (R.record_tunnelAction a w').trans h
  exact hkeeps w rfl

end Recorder

end L2tpv3d
