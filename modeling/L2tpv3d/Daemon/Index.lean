import L2tpv3d.Daemon.Input
import L2tpv3d.Daemon.Routing

/-!
# L2tpv3d — the by-remote index of the sessions

`_sessions_by_remote` is meant to say which session uses a session ID of the peer. It is only
ever extended, after a dispatch, and only under a key that it does not have; so it is right until
the first call in it ends, and wrong from then on.

The invariant `Inv` that carries this is on the whole table: an entry leads to a session that
learned the key and took its call further, and whatever a session learned is a key of the index,
unless the session is one that cannot answer a call at all.

* `Turn` — what a session message does to a session, as far as the index is concerned.
* `input`, `Spoils` — what an event hands to the machines, and when that makes the index wrong.
* **`indexed_iff`** — the index is sound and complete along exactly the runs without such an event,
  and then a CDN without a Remote Session ID takes down the session that uses the ID it names.
-/

namespace L2tpv3d

open Py Prog

namespace Index

open Tunnel World SessionFSM Routing

variable {δ : Type}

/-! ## What the index is for

A CDN without a Remote Session ID is matched by the ID that its sender uses. So the index should
know exactly the sessions with a call under way. -/

/-- The session under `sid` has a call under way, in which its peer's session ID is `key`. -/
def Uses (t : Tunnel) (sid key : Int) : Prop :=
  ∃ s, t.sessionsByLocal.get? sid = some s ∧ s.state ≠ .idle ∧ s.peerSid = key

/-- The by-remote index is sound and complete. -/
structure Indexed (t : Tunnel) : Prop where
  sound : ∀ key sid, t.sessionsByRemote.get? key = some sid → Uses t sid key
  /-- As far as the session IDs of the peer that are in use are distinct. -/
  complete : ∀ key sid, key ≠ 0 → Uses t sid key → (∀ sid', Uses t sid' key → sid' = sid) →
    t.sessionsByRemote.get? key = some sid

theorem Indexed.congr {t t' : Tunnel} (h : Indexed t)
    (hlocal : t'.sessionsByLocal = t.sessionsByLocal)
    (hremote : t'.sessionsByRemote = t.sessionsByRemote) : Indexed t' := by
  have huses : ∀ sid key, Uses t' sid key ↔ Uses t sid key := by
    intro sid key
    rw [Uses, Uses, hlocal]
  refine ⟨fun key sid hentry => ?_, fun key sid hne hu halone => ?_⟩
  · rw [hremote] at hentry
    exact (huses sid key).mpr (h.sound key sid hentry)
  · rw [hremote]
    exact h.complete key sid hne ((huses sid key).mp hu) fun sid' hu' =>
      halone sid' ((huses sid' key).mpr hu')

/-! ## What a message does to a session

As far as the index is concerned: whether the session learns an ID, keeps the one it has, or falls
back to `IDLE`. -/

/-- The session cannot answer every call: some ICRP cannot be built. -/
def Mute (s : SessionFSM) : Prop :=
  ∃ rsid e, (0 ≤ rsid ∧ rsid ≤ 0xFFFFFFFF) ∧
    buildIcrpAvps s.config.callArgs rsid s.config.cookie = .error e

/-- What `on_message` does to a session. -/
inductive Turn (mt : Int) (s : SessionFSM) :
    Except Exn (List SessionAction) → SessionFSM → Prop where
  | same {r} : (s.state = .idle → mt ≠ MessageType.icrq.code) → Turn mt s r s
  /-- The ICRP could not be built. -/
  | refused {fields e} : s.state = .idle → Mute s → Turn mt s (.error e) (s.learned fields)
  | taken {fields actions state} : s.state = .idle ∨ s.state = .waitSessionReply →
      state = .waitSessionConnect ∨ state = .established →
      Turn mt s (.ok actions) { s.learned fields with state := state }
  | kept {actions state} : s.state ≠ .idle → state = .established ∨ state = .sendCdn →
      Turn mt s (.ok actions) { s with state := state }
  | ended {actions} : s.state ≠ .idle → mt = MessageType.cdn.code →
      Turn mt s (.ok actions) { s with state := .idle }

section Turn

variable {s : SessionFSM} {msg : ControlMessage} {mt : Int} {keys : Int × Int × Option Bytes}

/-- An ICRQ is taken by an idle session, and ends another. -/
theorem turn_icrq (hs : s.Started)
    (hmsg : getMessageType msg.avps = .ok (some MessageType.icrq.code))
    (hkeys : sessionKeys MessageType.icrq.code msg.avps = .ok keys) :
    Turn MessageType.icrq.code s (onMessage msg s).1 (onMessage msg s).2 := by
  obtain ⟨target, key, endId⟩ := keys
  obtain ⟨fields, hparse, -, -⟩ := fields_of_keys (by decide) hkeys
  by_cases hidle : s.state = .idle
  · rcases onMessage_icrq s hmsg hparse hidle with ⟨e, hfail, hrun⟩ | ⟨avps, -, hrun⟩
    · rw [hrun]
      exact .refused hidle ⟨fields.localSid, e, parseSessionFields_localSid hparse, hfail⟩
    · rw [hrun]
      exact .taken (.inl hidle) (.inl rfl)
  · obtain ⟨actions, hclose⟩ := hs.teardownCdn_eq hidle .icrqInNonIdle
    have hrun : onMessage msg s = (.ok actions, { s with state := .sendCdn }) := by
      rw [← hclose]
      simp [onMessage, hmsg, onIcrq, hidle]
    rw [hrun]
    exact .kept hidle (.inr rfl)

/-- An ICRP is taken by a session that waits for it. -/
theorem turn_icrp (hs : s.Started)
    (hmsg : getMessageType msg.avps = .ok (some MessageType.icrp.code))
    (hkeys : sessionKeys MessageType.icrp.code msg.avps = .ok keys) :
    Turn MessageType.icrp.code s (onMessage msg s).1 (onMessage msg s).2 := by
  obtain ⟨target, key, endId⟩ := keys
  obtain ⟨fields, hparse, -, -⟩ := fields_of_keys (by decide) hkeys
  -- nobody waits for it; its ICCN cannot be built; the call is connected
  rcases onMessage_icrp s hmsg hparse with ⟨-, hrun⟩ | ⟨hwait, e, hfail, -⟩ |
    ⟨hwait, avps, -, hrun⟩
  · rw [hrun]
    exact .same fun _ => by decide
  · -- the ICCN is built from the arguments of the ICRQ
    obtain ⟨iccn, hbuilt⟩ := buildIccnAvps_exists (hs.callArgs (by simp [hwait]))
      (parseSessionFields_localSid hparse)
    rw [hbuilt] at hfail
    cases hfail
  · rw [hrun]
    exact .taken (.inr hwait) (.inr rfl)

/-- An ICCN confirms a session, or ends it. -/
theorem turn_iccn (hs : s.Started)
    (hmsg : getMessageType msg.avps = .ok (some MessageType.iccn.code))
    (hkeys : sessionKeys MessageType.iccn.code msg.avps = .ok keys) :
    Turn MessageType.iccn.code s (onMessage msg s).1 (onMessage msg s).2 := by
  obtain ⟨target, key, endId⟩ := keys
  obtain ⟨fields, hparse, -, -⟩ := fields_of_keys (by decide) hkeys
  -- nobody waits for it; it confirms; it is from a stranger
  rcases onMessage_iccn s hmsg hparse with ⟨-, hrun⟩ | ⟨hwait, -, hrun⟩ | ⟨hwait, -, hrun⟩
  · rw [hrun]
    exact .same fun _ => by decide
  · rw [hrun]
    exact .kept (by simp [hwait]) (.inl rfl)
  · obtain ⟨actions, hclose⟩ := hs.teardownCdn_eq (by simp [hwait]) .iccnLocalSidMismatch
    rw [hrun, hclose]
    exact .kept (by simp [hwait]) (.inr rfl)

/-- A CDN ends a session. -/
theorem turn_cdn (hmsg : getMessageType msg.avps = .ok (some MessageType.cdn.code)) :
    Turn MessageType.cdn.code s (onMessage msg s).1 (onMessage msg s).2 := by
  obtain ⟨actions, hrun, -⟩ := onMessage_cdn s hmsg
  rw [hrun]
  by_cases hidle : s.state = .idle
  · have hself : ({ s with state := .idle } : SessionFSM) = s := by rw [← hidle]
    rw [hself]
    exact .same fun _ => by decide
  · exact .ended hidle rfl

/-- **What a message does to a session**, whichever it is. -/
theorem turn_onMessage (hs : s.Started) (hmt : mt ∈ sessionMsgTypes)
    (hmsg : getMessageType msg.avps = .ok (some mt)) (hkeys : sessionKeys mt msg.avps = .ok keys) :
    Turn mt s (onMessage msg s).1 (onMessage msg s).2 := by
  simp only [sessionMsgTypes, List.mem_cons, List.not_mem_nil, or_false] at hmt
  rcases hmt with rfl | rfl | rfl | rfl
  · exact turn_icrq hs hmsg hkeys
  · exact turn_icrp hs hmsg hkeys
  · exact turn_iccn hs hmsg hkeys
  · exact turn_cdn hmsg

end Turn

/-! ## The invariant

The entries and the sessions go together in both directions, which is more than the index promises;
without the surplus a step could not be followed. -/

/-- The call of the session is past its first request. -/
def Engaged (s : SessionFSM) : Prop := s.state ≠ .idle ∧ s.state ≠ .waitSessionReply

/-- The index and the sessions go together. -/
structure Inv (t : Tunnel) : Prop where
  sound : ∀ key sid, t.sessionsByRemote.get? key = some sid →
    ∃ s, t.sessionsByLocal.get? sid = some s ∧ Engaged s ∧ s.peerSid = key
  /-- What was learned was indexed right away, unless the answer could not be built. -/
  known : ∀ sid s, t.sessionsByLocal.get? sid = some s → s.peerSid ≠ 0 →
    t.sessionsByRemote.contains s.peerSid = true ∨ (s.state = .idle ∧ Mute s)
  started : ∀ sid s, t.sessionsByLocal.get? sid = some s → s.Started

/-- The invariant gives what the index promises. -/
theorem Inv.indexed {t : Tunnel} (h : Inv t) : Indexed t := by
  refine ⟨fun key sid hkey => ?_, fun key sid hne huses halone => ?_⟩
  · obtain ⟨s, hget, hengaged, hpeer⟩ := h.sound key sid hkey
    exact ⟨s, hget, hengaged.1, hpeer⟩
  · obtain ⟨s, hget, hbusy, rfl⟩ := huses
    rcases h.known sid s hget hne with hknown | ⟨hidle, -⟩
    · -- the entry leads to a session that uses the key, and only `sid` does
      obtain ⟨sid', hentry⟩ := Dict.contains_iff.mp hknown
      obtain ⟨s', hget', hengaged, hpeer⟩ := h.sound s.peerSid sid' hentry
      obtain rfl := halone sid' ⟨s', hget', hengaged.1, hpeer⟩
      exact hentry
    · exact absurd hidle hbusy

section Inv

variable {t : Tunnel} {sid : Int} {s s' : SessionFSM}

/-- A session that is not engaged is not in the index. -/
theorem Inv.unindexed (h : Inv t) (hget : t.sessionsByLocal.get? sid = some s)
    (hs : ¬ Engaged s) (key : Int) : t.sessionsByRemote.get? key ≠ some sid := by
  intro hentry
  obtain ⟨s', hget', hengaged, -⟩ := h.sound key sid hentry
  rw [hget] at hget'
  cases hget'
  exact hs hengaged

theorem Inv.set (h : Inv t)
    (hsound : ∀ key, t.sessionsByRemote.get? key = some sid → Engaged s' ∧ s'.peerSid = key)
    (hknown : s'.peerSid ≠ 0 →
      t.sessionsByRemote.contains s'.peerSid = true ∨ (s'.state = .idle ∧ Mute s'))
    (hstarted : s'.Started) :
    Inv { t with sessionsByLocal := t.sessionsByLocal.set sid s' } := by
  refine ⟨fun key sid₁ hentry => ?_, fun sid₁ s₁ hget hne => ?_, fun sid₁ s₁ hget => ?_⟩
  -- the session that moves, and any other
  · by_cases heq : sid = sid₁
    · subst heq
      exact ⟨s', Dict.get?_set_self _ _ _, hsound key hentry⟩
    · obtain ⟨s₁, hget, hs₁⟩ := h.sound key sid₁ hentry
      exact ⟨s₁, by rw [Dict.get?_set, if_neg heq]; exact hget, hs₁⟩
  · rw [Dict.get?_set] at hget
    split at hget
    · cases hget
      exact hknown hne
    · exact h.known sid₁ s₁ hget hne
  · rw [Dict.get?_set] at hget
    split at hget
    · cases hget
      exact hstarted
    · exact h.started sid₁ s₁ hget

/-- The refresh of the index does nothing for a session that it knows. -/
theorem indexRemote_known (hget : t.sessionsByLocal.get? sid = some s)
    (hknown : s.peerSid ≠ 0 → t.sessionsByRemote.contains s.peerSid = true) :
    indexRemote sid t = t := by
  simp only [indexRemote, hget]
  refine if_neg fun hnew => ?_
  rw [hknown hnew.1] at hnew
  cases hnew.2

/-- A session that was not in the index learned the session ID of its peer. -/
theorem Inv.learn (h : Inv t) (hfree : ∀ key, t.sessionsByRemote.get? key ≠ some sid)
    (hengaged : Engaged s') (hstarted : s'.Started) :
    Inv (indexRemote sid { t with sessionsByLocal := t.sessionsByLocal.set sid s' }) := by
  have hget : ({ t with sessionsByLocal := t.sessionsByLocal.set sid s' }
      : Tunnel).sessionsByLocal.get? sid = some s' := Dict.get?_set_self _ _ _
  by_cases hnew : s'.peerSid ≠ 0 ∧ t.sessionsByRemote.contains s'.peerSid = false
  · -- `known` fails in between, so both changes are taken together
    have hrun : indexRemote sid { t with sessionsByLocal := t.sessionsByLocal.set sid s' }
        = { t with
            sessionsByLocal := t.sessionsByLocal.set sid s'
            sessionsByRemote := t.sessionsByRemote.set s'.peerSid sid } := by
      simp only [indexRemote, hget]
      exact if_pos hnew
    rw [hrun]
    refine ⟨fun key sid₁ hentry => ?_, fun sid₁ s₁ hget₁ hne => ?_, fun sid₁ s₁ hget₁ => ?_⟩
    · rw [Dict.get?_set] at hentry
      split at hentry
      · rename_i hkey
        cases hentry
        exact ⟨s', hget, hengaged, hkey⟩
      · obtain ⟨s₁, hget₁, hs₁⟩ := h.sound key sid₁ hentry
        have hne : sid ≠ sid₁ := by
          rintro rfl
          exact hfree key hentry
        exact ⟨s₁, by rw [Dict.get?_set, if_neg hne]; exact hget₁, hs₁⟩
    · rw [Dict.get?_set] at hget₁
      split at hget₁
      · cases hget₁
        exact .inl (Dict.contains_set.mpr (.inl rfl))
      · exact (h.known sid₁ s₁ hget₁ hne).imp (fun hc => Dict.contains_set.mpr (.inr hc)) id
    · rw [Dict.get?_set] at hget₁
      split at hget₁
      · cases hget₁
        exact hstarted
      · exact h.started sid₁ s₁ hget₁
  · have hknown : s'.peerSid ≠ 0 → t.sessionsByRemote.contains s'.peerSid = true :=
      fun hne => by simpa using not_and.mp hnew hne
    rw [indexRemote_known hget hknown]
    exact h.set (fun key hentry => absurd hentry (hfree key)) (fun hne => .inl (hknown hne)) hstarted

end Inv

/-- The call that a message makes spoils the index: a session that is in the index ends its call,
or an idle one is indexed that learned a session ID with a call that it could not answer. -/
def Disturbs (t : Tunnel) (msg : ControlMessage) (mt : Int) : Prop :=
  ∃ sid ∈ choice t mt msg, ∃ s ∈ t.sessionsByLocal.get? sid,
    (mt = MessageType.cdn.code ∧ t.sessionsByRemote.get? s.peerSid = some sid) ∨
    (mt ≠ MessageType.icrq.code ∧ s.state = .idle ∧ s.peerSid ≠ 0 ∧
      t.sessionsByRemote.contains s.peerSid = false)

instance (t : Tunnel) (msg : ControlMessage) (mt : Int) : Decidable (Disturbs t msg mt) := by
  unfold Disturbs
  infer_instance

section Calls

variable {t : Tunnel} {sid : Int} {s s' : SessionFSM} {r : Except Exn (List SessionAction)}
  {actions : List SessionAction} {mt : Int}

/-- **A message to a session** that does not spoil the index, when the handler returns. -/
theorem Inv.turn_ok (h : Inv t) (hget : t.sessionsByLocal.get? sid = some s)
    (hturn : Turn mt s (.ok actions) s') (hstarted : s'.Started)
    (hcdn : ¬ (mt = MessageType.cdn.code ∧ t.sessionsByRemote.get? s.peerSid = some sid))
    (hidle : ¬ (mt ≠ MessageType.icrq.code ∧ s.state = .idle ∧ s.peerSid ≠ 0 ∧
      t.sessionsByRemote.contains s.peerSid = false)) :
    Inv (indexRemote sid { t with sessionsByLocal := t.sessionsByLocal.set sid s' }) := by
  have hset : ({ t with sessionsByLocal := t.sessionsByLocal.set sid s' }
      : Tunnel).sessionsByLocal.get? sid = some s' := Dict.get?_set_self _ _ _
  -- a session with a call under way is in the index with what it learned
  have hbusy : s.state ≠ .idle → s.peerSid ≠ 0 → t.sessionsByRemote.contains s.peerSid = true :=
    fun hs hne => (h.known sid s hget hne).resolve_right fun hmute => hs hmute.1
  -- by what the message did to the session
  cases hturn with
  | same hother =>
    have hknown : s.peerSid ≠ 0 → t.sessionsByRemote.contains s.peerSid = true := by
      intro hne
      by_cases hs : s.state = .idle
      · by_contra hc
        exact hidle ⟨hother hs, hs, hne, by simpa using hc⟩
      · exact hbusy hs hne
    rw [indexRemote_known hset hknown, Dict.set_of_get? hget]
    exact h
  | taken hs hstate =>
    refine h.learn (h.unindexed hget ?_) ?_ hstarted
    · rintro ⟨hne, hne'⟩
      exact hs.elim hne hne'
    · rcases hstate with rfl | rfl <;> exact ⟨nofun, nofun⟩
  | kept hs hstate =>
    rw [indexRemote_known hset (hbusy hs)]
    refine h.set (fun key hentry => ⟨?_, ?_⟩) (fun hne => .inl (hbusy hs hne)) hstarted
    · rcases hstate with rfl | rfl <;> exact ⟨nofun, nofun⟩
    · obtain ⟨s₁, hget₁, -, hpeer⟩ := h.sound key sid hentry
      rw [hget] at hget₁
      cases hget₁
      exact hpeer
  | ended hs hmt =>
    rw [indexRemote_known hset (hbusy hs)]
    refine h.set (fun key hentry => ?_) (fun hne => .inl (hbusy hs hne)) hstarted
    obtain ⟨s₁, hget₁, -, rfl⟩ := h.sound key sid hentry
    rw [hget] at hget₁
    cases hget₁
    exact absurd ⟨hmt, hentry⟩ hcdn

theorem Inv.turn_error {e : Exn} (h : Inv t) (hget : t.sessionsByLocal.get? sid = some s)
    (hturn : Turn mt s (.error e) s') (hstarted : s'.Started) :
    Inv { t with sessionsByLocal := t.sessionsByLocal.set sid s' } := by
  cases hturn with
  | same => rw [Dict.set_of_get? hget]; exact h
  | refused hs hmute =>
    refine h.set (fun key hentry => ?_) (fun _ => .inr ⟨hs, hmute⟩) hstarted
    exact absurd hentry (h.unindexed hget (fun hengaged => hengaged.1 hs) key)

/-- A local call takes the session no further. -/
theorem Inv.stay {state : SessionState} (h : Inv t) (hget : t.sessionsByLocal.get? sid = some s)
    (hmute : state = .waitSessionReply → s.state = .idle ∧ ¬ Mute s)
    (hsend : state ≠ .waitSessionReply → s.state ≠ .idle ∧ state = .sendCdn)
    (hstarted : ({ s with state := state } : SessionFSM).Started) :
    Inv { t with sessionsByLocal := t.sessionsByLocal.set sid { s with state := state } } := by
  -- the session calls, or it is closed
  by_cases hstate : state = .waitSessionReply
  · obtain ⟨hidle, hnot⟩ := hmute hstate
    refine h.set (fun key hentry => ?_) (fun hne => .inl ?_) hstarted
    · exact absurd hentry (h.unindexed hget (fun hengaged => hengaged.1 hidle) key)
    · exact (h.known sid s hget hne).resolve_right fun hmute' => hnot hmute'.2
  · obtain ⟨hbusy, rfl⟩ := hsend hstate
    refine h.set (fun key hentry => ⟨⟨nofun, nofun⟩, ?_⟩) (fun hne => .inl ?_) hstarted
    · obtain ⟨s₁, hget₁, -, hpeer⟩ := h.sound key sid hentry
      rw [hget] at hget₁
      cases hget₁
      exact hpeer
    · exact (h.known sid s hget hne).resolve_right fun hmute' => hbusy hmute'.1

/-- A call that goes out leaves the index alone. -/
theorem Inv.onTunnelEstablished (h : Inv t) (hget : t.sessionsByLocal.get? sid = some s) :
    Inv { t with sessionsByLocal := t.sessionsByLocal.set sid (onTunnelEstablished s).2 } := by
  have hstarted := (method_onTunnelEstablished s).started (h.started sid s hget)
  rcases onTunnelEstablished_cases s with ⟨r, hrun, -⟩ | ⟨-, hidle, avps, hbuilt, hrun⟩
  · rw [hrun, Dict.set_of_get? hget]
    exact h
  · rw [hrun] at hstarted ⊢
    refine h.stay hget (fun _ => ⟨hidle, ?_⟩) (fun hne => absurd rfl hne) hstarted
    -- the ICRQ was built from what an ICRP is built from
    rintro ⟨rsid, e, hr, hfail⟩
    obtain ⟨icrp, hicrp⟩ := buildIcrpAvps_of_icrq hbuilt hr
    rw [hicrp] at hfail
    cases hfail

/-- So does a session that is closed: it is still in use until its CDN is acknowledged. -/
theorem Inv.onLocalClose (h : Inv t) (hget : t.sessionsByLocal.get? sid = some s)
    (resultCode : Int) :
    Inv { t with sessionsByLocal := t.sessionsByLocal.set sid (onLocalClose resultCode s).2 } := by
  have hstarted := (method_onLocalClose resultCode s).started (h.started sid s hget)
  rcases onLocalClose_cases s resultCode with ⟨r, hrun, -⟩ | ⟨hbusy, -, avps, -, hrun⟩
  · rw [hrun, Dict.set_of_get? hget]
    exact h
  · rw [hrun] at hstarted ⊢
    exact h.stay hget nofun (fun _ => ⟨hbusy, rfl⟩) hstarted

/-- Nothing is in the index. -/
def Blank (t : Tunnel) : Prop := t.sessionsByRemote.items = []

/-- An empty index knows nobody. -/
theorem Blank.get? (h : Blank t) (key : Int) : t.sessionsByRemote.get? key = none := by
  rw [Dict.get?, h]
  rfl

/-- The cascade of a teardown, before any session is in the index. -/
theorem Inv.onTunnelDown (h : Inv t) (hblank : Blank t)
    (hget : t.sessionsByLocal.get? sid = some s) :
    Inv { t with sessionsByLocal := t.sessionsByLocal.set sid (onTunnelDown s).2 } := by
  have hstarted := (method_onTunnelDown s).started (h.started sid s hget)
  rw [onTunnelDown_eq] at hstarted ⊢
  refine h.set (fun key hentry => ?_) (fun hne => .inr ?_) hstarted
  · rw [hblank.get?] at hentry
    cases hentry
  · rcases h.known sid s hget hne with hknown | ⟨-, hmute⟩
    · rw [Dict.contains, hblank.get?] at hknown
      cases hknown
    · exact ⟨rfl, hmute⟩

end Calls

/-! ## Programs

The refresh of the index follows the call of a session, so the two are taken as one move. -/

section Programs

/-- The invariant of a tunnel whose sessions may be torn down only while the index is empty. -/
def Kept (down : Prop) (w : World δ) : Prop := Inv w.tunnel ∧ (down → Blank w.tunnel)

theorem Inv.congr {t t' : Tunnel} (h : Inv t) (hlocal : t'.sessionsByLocal = t.sessionsByLocal)
    (hremote : t'.sessionsByRemote = t.sessionsByRemote) : Inv t' := by
  refine ⟨?_, ?_, ?_⟩
  · rw [hlocal, hremote]
    exact h.sound
  · rw [hlocal, hremote]
    exact h.known
  · rw [hlocal]
    exact h.started

theorem Kept.executed {down : Prop} {w w' : World δ} (h : Kept down w) (hw : Executed w w') :
    Kept down w' := by
  refine ⟨h.1.congr hw.sessionsByLocal hw.sessionsByRemote, fun hdown => ?_⟩
  rw [Blank, hw.sessionsByRemote]
  exact h.2 hdown

variable [Dataplane δ] {hmac : Hmac} {down : Prop}

/-- A call of a session from outside of a dispatch. -/
theorem keeps_sessionCall (hmac : Hmac) {m : Prog SessionFSM (List SessionAction)}
    (hm : ∀ (w : World δ) (sid : Int) (s : SessionFSM), Kept down w →
      w.tunnel.sessionsByLocal.get? sid = some s → Inv { w.tunnel with
        sessionsByLocal := w.tunnel.sessionsByLocal.set sid (m s).2 }) (sid : Int) :
    Keeps (Kept (δ := δ) down) (callSession hmac sid m id) := by
  intro w h
  cases hget : w.tunnel.sessionsByLocal.get? sid with
  | none =>
    rw [callSession_none hmac hget]
    exact h
  | some s =>
    have hset := hm w sid s h hget
    rcases hcall : m s with ⟨e | actions, s'⟩ <;> rw [hcall] at hset
    · rw [callSession_error hmac hget hcall]
      exact ⟨hset, h.2⟩
    · have hkept : Kept down ((w.withSession sid s').mapTunnel id) := ⟨hset, h.2⟩
      rw [callSession_ok hmac hget hcall]
      exact hkept.executed (executed_sessionActions hmac actions _)

/-- The actions of the tunnel machine, if they tear the sessions down only before any is in the
index. -/
theorem keeps_tunnelActions {actions : List TunnelAction}
    (hdown : ∀ reason, .tornDown reason ∈ actions → down) :
    Keeps (Kept down) (executeTunnelActions hmac actions : Prog (World δ) Unit) := by
  refine Keeps.each fun a ha => keeps_tunnelAction hmac
    (fun _ _ _ _ h => ⟨h.1.congr rfl rfl, h.2⟩) (fun _ _ _ _ h => ⟨h.1.congr rfl rfl, h.2⟩)
    (fun avps _ w h => h.executed (executed_send hmac avps w)) (fun _ => ?_) fun reason heq => ?_
  · exact keeps_eachSession hmac (keeps_sessionCall hmac fun w sid s h hget =>
      h.1.onTunnelEstablished hget)
  · exact keeps_eachSession hmac (keeps_sessionCall hmac fun w sid s h hget =>
      h.1.onTunnelDown (h.2 (hdown reason (heq ▸ ha))) hget)

end Programs

/-! ## What spoils the index

Whatever ends a call, or gives two sessions the same ID. Each of them is told from the state before
the event. -/

/-- A call of the tunnel machine that asks for the teardown of the sessions. -/
def tearsDown (m : Prog TunnelFSM (List TunnelAction)) (fsm : TunnelFSM) : Bool :=
  match (m fsm).1 with
  | .error _ => false
  | .ok actions => actions.any fun
    | .tornDown _ => true
    | _ => false

/-- What is handed over makes the index wrong: it tears the sessions down while one is in the
index, or it is a message that disturbs the index. -/
def Harmful (t : Tunnel) : Input → Prop
  | .machine m => tearsDown m t.fsm = true ∧ ¬ Blank t
  | .message msg mt => Disturbs t msg mt

/-- The event makes the index wrong. -/
def Spoils (hmac : Hmac) (t : Tunnel) (e : Event) : Prop := ∃ i ∈ input hmac t e, Harmful t i

instance (t : Tunnel) : Decidable (Blank t) :=
  decidable_of_iff (t.sessionsByRemote.items.isEmpty = true) List.isEmpty_iff

instance (t : Tunnel) : DecidablePred (Harmful t)
  | .machine m => inferInstanceAs (Decidable (tearsDown m t.fsm = true ∧ ¬ Blank t))
  | .message msg mt => inferInstanceAs (Decidable (Disturbs t msg mt))

instance (hmac : Hmac) (t : Tunnel) (e : Event) : Decidable (Spoils hmac t e) := by
  unfold Spoils
  infer_instance

/-- Only the sessions, the index and the tunnel machine matter. -/
theorem harmful_congr {t t' : Tunnel} (hbeside : Beside t t') (hfsm : t'.fsm = t.fsm) (i : Input) :
    Harmful t' i ↔ Harmful t i := by
  cases i with
  | machine m => rw [Harmful, Harmful, hfsm, Blank, Blank, hbeside.byRemote]
  | message msg mt =>
    have hchoice : choice t' mt msg = choice t mt msg := by
      unfold choice route
      rw [hbeside.byLocal, hbeside.byRemote]
    rw [Harmful, Harmful, Disturbs, Disturbs, hchoice, hbeside.byLocal, hbeside.byRemote]

section Steps

variable [Dataplane δ] {hmac : Hmac} {w : World δ}

/-- A method whose actions announce a teardown tears down. -/
theorem tearsDown_of_mem {m : Prog TunnelFSM (List TunnelAction)} {fsm : TunnelFSM}
    {actions : List TunnelAction} {reason : TunnelDownReason} (hrun : (m fsm).1 = .ok actions)
    (hmem : .tornDown reason ∈ actions) : tearsDown m fsm = true := by
  rw [tearsDown, hrun]
  exact List.any_eq_true.mpr ⟨_, hmem, rfl⟩

/-- **A method of the tunnel machine**: a teardown has to find the index empty. -/
theorem inv_drive {m : Prog TunnelFSM (List TunnelAction)} (h : Inv w.tunnel)
    (hclean : ¬ Harmful w.tunnel (.machine m)) : Inv (drive hmac m w).2.tunnel := by
  have hmoved : Inv (w.withFsm (m w.tunnel.fsm).2).tunnel := h.congr rfl rfl
  cases hr : (m w.tunnel.fsm).1 with
  | error e =>
    rw [drive_error hmac hr]
    exact hmoved
  | ok actions =>
    rw [drive_ok hmac hr]
    have hkept : Kept (tearsDown m w.tunnel.fsm = true) (w.withFsm (m w.tunnel.fsm).2) :=
      ⟨hmoved, fun hdown => not_not.mp fun hfull => hclean ⟨hdown, hfull⟩⟩
    exact (keeps_tunnelActions (fun reason hmem => tearsDown_of_mem hr hmem) _ hkept).1

/-- **A message to a session** that does not disturb the index. -/
theorem inv_dispatchSession {msg : ControlMessage} {mt : Int} (h : Inv w.tunnel)
    (hmt : mt ∈ sessionMsgTypes) (hmsg : getMessageType msg.avps = .ok (some mt))
    (hclean : ¬ Disturbs w.tunnel msg mt) : Inv (dispatchSessionMessage hmac msg mt w).2.tunnel := by
  rw [dispatch_eq]
  cases hchoice : choice w.tunnel mt msg with
  | none => exact h.congr rfl rfl
  | some sid =>
    cases hget : w.tunnel.sessionsByLocal.get? sid with
    | none =>
      have hget' : (noted w .session msg).tunnel.sessionsByLocal.get? sid = none := hget
      rw [serve, give_absent hmac hget']
      exact h.congr rfl rfl
    | some s =>
      obtain ⟨keys, hkeys⟩ := keys_of_choice hchoice
      have hturn := turn_onMessage (h.started sid s hget) hmt hmsg hkeys
      have hstarted := (method_onMessage msg s).started (h.started sid s hget)
      have hnot := not_or.mp fun hmoves => hclean ⟨sid, hchoice, s, hget, hmoves⟩
      have hon := onSession_some (onMessage msg)
        (show (noted w .session msg).tunnel.sessionsByLocal.get? sid = some s from hget)
      -- the session raised, or its actions are executed
      rcases hrun : onMessage msg s with ⟨e | actions, s'⟩ <;> rw [hrun] at hon hturn hstarted
      · rw [serve, give, bind_apply_of_error _ _ hon]
        exact (h.turn_error hget hturn hstarted).congr rfl rfl
      · have hex := executed_sessionActions hmac actions
          (((noted w .session msg).withSession sid s').mapTunnel (indexRemote sid))
        rw [serve, give, bind_apply_of_ok _ _ hon, modify_bind_apply]
        exact (h.turn_ok hget hturn hstarted hnot.1 hnot.2).congr hex.sessionsByLocal
          hex.sessionsByRemote

/-- What an event hands to the machines. -/
theorem inv_run {i : Input} (h : Inv w.tunnel) (hfit : i.Fit w.tunnel)
    (hclean : ¬ Harmful w.tunnel i) : Inv (i.run hmac w).2.tunnel := by
  cases i with
  | machine m => exact inv_drive h hclean
  | message msg mt => exact inv_dispatchSession h hfit.1 hfit.2.1 hclean

/-- **One event** that does not spoil the index. -/
theorem inv_step (hsound : w.tunnel.peer.Sound) (e : Event) (h : Inv w.tunnel)
    (hclean : ¬ Spoils hmac w.tunnel e) : Inv (Tunnel.step hmac w e).tunnel := by
  -- a session closed; nothing handed over; something handed over
  rcases step_cases hmac hsound e with ⟨sid, resultCode, rfl⟩ | ⟨-, hbeside⟩ |
    ⟨i, hi, v, hv, hfsm, hfit, hafter⟩
  · have hkept : Keeps (Kept (δ := δ) False) _ :=
      keeps_sessionCall hmac (fun w sid s h hget => h.1.onLocalClose hget resultCode) sid
    exact (hkept w ⟨h, False.elim⟩).1
  · exact h.congr hbeside.byLocal hbeside.byRemote
  · have hclean' : ¬ Harmful v.tunnel i := fun hharm =>
      hclean ⟨i, hi, (harmful_congr hv hfsm i).mp hharm⟩
    exact (inv_run (h.congr hv.byLocal hv.byRemote) hfit hclean').congr hafter.byLocal
      hafter.byRemote

/-! ### Harm is done

The converse needs that the StopCCN of a teardown can be sent: a session is in the index only
after a message of the peer was acknowledged. -/

/-- The peer of a tunnel with a session in the index can be written to. -/
def Sourced (t : Tunnel) : Prop := t.peer.Sound ∧ (¬ Blank t → IsU32 t.peer.remoteCcid)

omit [Dataplane δ] in
/-- What the transport does leaves the source of the index alone. -/
theorem Sourced.beside {t t' : Tunnel} (h : Sourced t) (ht : Beside t t') : Sourced t' := by
  refine ⟨ht.sound h.1, fun hfull => ht.remoteCcid (h.2 fun hblank => hfull ?_)⟩
  rw [Blank, ht.byRemote]
  exact hblank

/-- Outside of a dispatch nothing is indexed. -/
theorem byRemote_sessionCall (hmac : Hmac) (sid : Int) (m : Prog SessionFSM (List SessionAction))
    (byRemote : Dict Int Int) :
    Keeps (fun w : World δ => w.tunnel.sessionsByRemote = byRemote)
      (callSession hmac sid m id) := by
  intro w h
  cases hget : w.tunnel.sessionsByLocal.get? sid with
  | none =>
    rw [callSession_none hmac hget]
    exact h
  | some s =>
    rcases hcall : m s with ⟨e | actions, s'⟩
    · rw [callSession_error hmac hget hcall]
      exact h
    · rw [callSession_ok hmac hget hcall]
      exact (executed_sessionActions hmac actions _).sessionsByRemote.trans h

/-- No action of the tunnel machine touches the index. -/
theorem byRemote_tunnelActions (actions : List TunnelAction) (byRemote : Dict Int Int) :
    Keeps (fun w : World δ => w.tunnel.sessionsByRemote = byRemote)
      (executeTunnelActions hmac actions) := by
  have hcall : ∀ m, Keeps (fun w : World δ => w.tunnel.sessionsByRemote = byRemote)
      (eachSession hmac m) :=
    fun m => keeps_eachSession hmac fun sid => byRemote_sessionCall hmac sid m byRemote
  exact Keeps.each fun a _ => keeps_tunnelAction hmac (fun _ _ _ _ h => h) (fun _ _ _ _ h => h)
    (fun avps _ w h => (executed_send hmac avps w).sessionsByRemote.trans h)
    (fun _ => hcall _) fun _ _ => hcall _

/-- Nor does a method of it, which sends through the same peer. -/
theorem drive_beside (hmac : Hmac) (m : Prog TunnelFSM (List TunnelAction)) (w : World δ) :
    (drive hmac m w).2.tunnel.sessionsByRemote = w.tunnel.sessionsByRemote ∧
      (w.tunnel.peer.Sound → (drive hmac m w).2.tunnel.peer.Sound) ∧
      (drive hmac m w).2.tunnel.peer.remoteCcid = w.tunnel.peer.remoteCcid := by
  cases hr : (m w.tunnel.fsm).1 with
  | error e =>
    rw [drive_error hmac hr]
    exact ⟨rfl, id, rfl⟩
  | ok actions =>
    rw [drive_ok hmac hr]
    have hlink := (cascaded_tunnelActions hmac actions (w.withFsm (m w.tunnel.fsm).2)).link
    exact ⟨byRemote_tunnelActions actions w.tunnel.sessionsByRemote _ rfl, hlink.sound,
      hlink.remoteCcid⟩

/-- What fills the index has been acknowledged. -/
theorem sourced_run {i : Input} (h : Sourced w.tunnel) (hfit : i.Fit w.tunnel) :
    Sourced (i.run hmac w).2.tunnel := by
  cases i with
  | machine m =>
    obtain ⟨hremote, hsound, hccid⟩ := drive_beside hmac m w
    refine ⟨hsound h.1, fun hfull => ?_⟩
    rw [Input.run, hccid]
    refine h.2 fun hblank => hfull ?_
    rw [Blank, Input.run, hremote]
    exact hblank
  | message msg mt =>
    have hlink := (cascaded_dispatchSession hmac msg mt w).link
    exact ⟨hlink.sound h.1, fun _ => hlink.remoteCcid ▸ hfit.2.2⟩

/-- **One event**: the CCID of the peer fits the header whenever the index is not empty. -/
theorem sourced_step (e : Event) (h : Sourced w.tunnel) :
    Sourced (Tunnel.step hmac w e).tunnel := by
  rcases step_cases hmac h.1 e with ⟨sid, resultCode, rfl⟩ | ⟨-, hbeside⟩ |
    ⟨i, -, v, hv, -, hfit, hafter⟩
  · have hremote := byRemote_sessionCall hmac sid (SessionFSM.onLocalClose resultCode)
      w.tunnel.sessionsByRemote w rfl
    have hlink := (cascaded_callSession hmac sid (SessionFSM.onLocalClose resultCode)
      onlyIndex_id w).link
    refine ⟨hlink.sound h.1, fun hfull => ?_⟩
    rw [show (Tunnel.step hmac w (.closeSession sid resultCode)).tunnel.peer.remoteCcid
      = w.tunnel.peer.remoteCcid from hlink.remoteCcid]
    refine h.2 fun hblank => hfull ?_
    rw [Blank, show (Tunnel.step hmac w (.closeSession sid resultCode)).tunnel.sessionsByRemote
      = w.tunnel.sessionsByRemote from hremote]
    exact hblank
  · exact h.beside hbeside
  · exact (sourced_run (h.beside hv) hfit).beside hafter

/-- An entry for an idle session. -/
theorem not_indexed_of_idle {t : Tunnel} {key sid : Int} {s : SessionFSM}
    (hentry : t.sessionsByRemote.get? key = some sid)
    (hget : t.sessionsByLocal.get? sid = some s) (hidle : s.state = .idle) : ¬ Indexed t := by
  intro h
  obtain ⟨s', hget', hbusy, -⟩ := h.sound key sid hentry
  rw [hget] at hget'
  cases hget'
  exact hbusy hidle

/-- **A message that disturbs the index spoils it.** -/
theorem disturbed {msg : ControlMessage} {mt : Int} (hmt : mt ∈ sessionMsgTypes)
    (hmsg : getMessageType msg.avps = .ok (some mt)) (hharm : Disturbs w.tunnel msg mt) :
    ¬ Indexed (dispatchSessionMessage hmac msg mt w).2.tunnel := by
  obtain ⟨sid, hchoice, s, hget, hmoves⟩ := hharm
  have hget' : (noted w .session msg).tunnel.sessionsByLocal.get? sid = some s := hget
  have hafter := give_sessions hmac msg hget' sid
  rw [if_pos rfl] at hafter
  rw [dispatch_eq, hchoice, serve]
  -- a CDN leaves its entry behind; a message that is ignored enters an idle session
  rcases hmoves with ⟨rfl, hentry⟩ | ⟨hne, hidle, hpeer, hnew⟩
  · obtain ⟨actions, hrun, -⟩ := onMessage_cdn s hmsg
    rw [hrun] at hafter
    have hindex := give_index hmac hget' hrun
    have hold : (noted w .session msg).tunnel.sessionsByRemote.contains s.peerSid = true :=
      Dict.contains_iff.mpr ⟨sid, hentry⟩
    rw [if_neg (by simp [hold])] at hindex
    exact not_indexed_of_idle (by rw [hindex]; exact hentry) hafter rfl
  · obtain ⟨keys, hkeys⟩ := keys_of_choice hchoice
    obtain ⟨mtype, hongoing, rfl⟩ : ∃ mtype : MessageType, Ongoing mtype ∧ mtype.code = mt := by
      simp only [sessionMsgTypes, List.mem_cons, List.not_mem_nil, or_false] at hmt
      rcases hmt with rfl | rfl | rfl | rfl
      · exact absurd rfl hne
      · exact ⟨.icrp, .inl rfl, rfl⟩
      · exact ⟨.iccn, .inr (.inl rfl), rfl⟩
      · exact ⟨.cdn, .inr (.inr rfl), rfl⟩
    have hignored : ¬ Reacts mtype s := by
      rintro (⟨-, hwait⟩ | ⟨-, hwait⟩ | ⟨-, hbusy⟩)
      · simp [hidle] at hwait
      · simp [hidle] at hwait
      · exact hbusy hidle
    have hrun := onMessage_ignored hongoing hmsg hkeys hignored
    rw [hrun] at hafter
    have hindex := give_index hmac hget' hrun
    rw [if_pos ⟨hpeer, hnew⟩] at hindex
    exact not_indexed_of_idle (by rw [hindex]; exact Dict.get?_set_self _ _ _) hafter hidle

omit [Dataplane δ] in
/-- A call that tears the sessions down finds the tunnel up, and what it returns. -/
theorem actions_of_tearsDown {m : Prog TunnelFSM (List TunnelAction)} (hm : TunnelFSM.Method m)
    {fsm : TunnelFSM} (h : tearsDown m fsm = true) : fsm.state = .established ∧ ∃ reason,
      (m fsm).1 = .ok [.clearHelloTimer, .tornDown reason] ∨
      ∃ avps, Regular avps ∧
        (m fsm).1 = .ok [.sendMessage avps, .clearHelloTimer, .tornDown reason] := by
  have hout := hm fsm
  rw [tearsDown] at h
  rcases hrun : m fsm with ⟨e | actions, fsm'⟩ <;> rw [hrun] at h hout
  · cases h
  · change TunnelFSM.Outcome fsm (.ok actions) fsm' at hout
    -- only an established machine announces a teardown
    cases hout with
    | ignored => simp at h
    | opened => simp at h
    | answered => simp at h
    | connected => simp at h
    | accepted => simp at h
    | kept => simp at h
    | @stopped _ avps reason hs hbuilt =>
      by_cases hup : fsm.state = .established
      · exact ⟨hup, reason, .inr ⟨avps, (buildStopccnAvps_regular hbuilt).1,
          by simp [TunnelFSM.stopActions, hup]⟩⟩
      · simp [TunnelFSM.stopActions, hup] at h
    | @dropped reason hs =>
      by_cases hup : fsm.state = .established
      · exact ⟨hup, reason, .inl (by simp [TunnelFSM.dropActions, hup])⟩
      · simp [TunnelFSM.dropActions, hup] at h

/-- After the notice of a teardown every session is idle. -/
theorem tornDown_allIdle (reason : TunnelDownReason) (w : World δ) :
    (executeTunnelAction hmac (.tornDown reason) w).2.tunnel.AllIdle := by
  obtain ⟨w', -, hidle, hrun⟩ := tornDown_apply hmac (I := fun _ : World δ => True) (fun _ _ h => h)
    (fun _ _ h => h) reason trivial
  rw [hrun]
  split
  · have hdel : Keeps (fun v : World δ => v.tunnel.AllIdle)
        (onDataplane (Dataplane.delTunnel (δ := δ) w'.tunnel.cfg.localCcid)) :=
      keeps_onDataplane (fun _ _ _ _ h => h) _
    have hflag : Keeps (fun v : World δ => v.tunnel.AllIdle)
        (modify (mapTunnel fun t => { t with tunnelDpAdded := false })) :=
      Keeps.modify fun _ h => h
    exact hdel.bind (fun _ => hflag) w' hidle
  · exact hidle

/-- With the timer cleared first, every session is idle all the same. -/
theorem clearTear_allIdle (reason : TunnelDownReason) (w : World δ) :
    (executeTunnelActions hmac [.clearHelloTimer, .tornDown reason] w).2.tunnel.AllIdle := by
  have hrun : executeTunnelActions hmac [.clearHelloTimer, .tornDown reason] w
      = each (executeTunnelAction hmac) [.tornDown reason]
          (w.mapTimer HelloTimer.clear) := rfl
  rw [hrun, each_singleton]
  exact tornDown_allIdle reason _

/-- A call that tears the sessions down leaves them idle, if its StopCCN can be sent. -/
theorem drive_allIdle {m : Prog TunnelFSM (List TunnelAction)} (hready : w.tunnel.Ready)
    (hm : TunnelFSM.Method m) (hdown : tearsDown m w.tunnel.fsm = true) :
    (drive hmac m w).2.tunnel.AllIdle := by
  obtain ⟨-, reason, hrun | ⟨avps, hreg, hrun⟩⟩ := actions_of_tearsDown hm hdown
  · rw [drive_ok hmac hrun]
    exact clearTear_allIdle reason _
  · have hready' : (w.withFsm (m w.tunnel.fsm).2).tunnel.Ready := ⟨hready.sound, hready.remoteCcid⟩
    obtain ⟨msg, peer, bs, -, -, hsend⟩ := send_ok hmac hready' hreg
    rw [drive_ok hmac hrun, executeTunnelActions, each,
      bind_apply_of_ok _ _ (show executeTunnelAction hmac (.sendMessage avps) _ = _ from hsend)]
    exact clearTear_allIdle reason _

/-- **A teardown spoils an index that is not empty**: it leaves the entries behind. -/
theorem torn {m : Prog TunnelFSM (List TunnelAction)} (hsrc : Sourced w.tunnel)
    (hm : TunnelFSM.Method m) (hharm : Harmful w.tunnel (.machine m)) :
    ¬ Indexed (drive hmac m w).2.tunnel := by
  obtain ⟨hdown, hfull⟩ := hharm
  have hidle : (drive hmac m w).2.tunnel.AllIdle :=
    drive_allIdle ⟨hsrc.1, hsrc.2 hfull⟩ hm hdown
  -- the entry is still there
  obtain ⟨⟨key, sid⟩, hmem⟩ := List.exists_mem_of_ne_nil _ hfull
  have hentry : (drive hmac m w).2.tunnel.sessionsByRemote.get? key = some sid := by
    rw [(drive_beside hmac m w).1]
    exact Dict.mem_items_iff.mp hmem
  intro hindexed
  obtain ⟨s, hget, hbusy, -⟩ := hindexed.sound key sid hentry
  exact hbusy (hidle sid s hget)

/-- **One event** that spoils the index. -/
theorem spoiled_step (e : Event) (hsrc : Sourced w.tunnel)
    (hspoils : Spoils hmac w.tunnel e) : ¬ Indexed (Tunnel.step hmac w e).tunnel := by
  obtain ⟨i, hi, hharm⟩ := hspoils
  -- a session closed; nothing handed over; something handed over
  rcases step_cases hmac hsrc.1 e with ⟨sid, resultCode, rfl⟩ | ⟨hnone, -⟩ |
    ⟨i', hi', v, hv, hfsm, hfit, hafter⟩
  · cases hi
  · rw [hnone] at hi
    cases hi
  · rw [hi'] at hi
    cases hi
    have hharm' := (harmful_congr hv hfsm i).mpr hharm
    have hrun : ¬ Indexed (i.run hmac v).2.tunnel := by
      cases i with
      | machine m => exact torn (hsrc.beside hv) hfit hharm'
      | message msg mt => exact disturbed hfit.1 hfit.2.1 hharm'
    exact fun hindexed => hrun (hindexed.congr hafter.byLocal.symm hafter.byRemote.symm)

/-! ## Runs

From a right index an event leads to a right one exactly when it does not spoil it, so the condition
along a run is exact. What follows for a CDN without a Remote Session ID is read off the index. -/

/-- A CDN that names no session of ours takes down the one that uses its Local Session ID, and
touches no other. -/
structure Cuts (hmac : Hmac) (w : World δ) : Prop where
  user : ∀ msg key sid, getMessageType msg.avps = .ok (some MessageType.cdn.code) →
    sessionKeys MessageType.cdn.code msg.avps = .ok (0, key, none) → key ≠ 0 →
    Uses w.tunnel sid key → (∀ sid', Uses w.tunnel sid' key → sid' = sid) →
    ∀ sid', (dispatchSessionMessage hmac msg MessageType.cdn.code
        w).2.tunnel.sessionsByLocal.get? sid'
      = (w.tunnel.sessionsByLocal.get? sid').map fun s =>
          if sid = sid' then { s with state := .idle } else s
  /-- With no such session, it is dropped. -/
  nobody : ∀ msg key, sessionKeys MessageType.cdn.code msg.avps = .ok (0, key, none) → key ≠ 0 →
    (∀ sid, ¬ Uses w.tunnel sid key) →
    dispatchSessionMessage hmac msg MessageType.cdn.code w = serve hmac msg w none

/-- **A CDN without a Remote Session ID ends the session of its sender**, and no other. -/
theorem Indexed.cuts (h : Indexed w.tunnel) : Cuts hmac w := by
  have hchoice : ∀ {msg : ControlMessage} {key : Int},
      sessionKeys MessageType.cdn.code msg.avps = .ok (0, key, none) → key ≠ 0 →
      choice w.tunnel MessageType.cdn.code msg = w.tunnel.sessionsByRemote.get? key := by
    intro msg key hkeys hkey
    rw [choice_eq hkeys, route_unnamed (.inr (.inr rfl)) (by simp), if_pos hkey]
  refine ⟨fun msg key sid hmsg hkeys hkey huses halone sid' => ?_,
    fun msg key hkeys hkey hnobody => ?_⟩
  · obtain ⟨s, hget, -, -⟩ := id huses
    have hget' : (noted w .session msg).tunnel.sessionsByLocal.get? sid = some s := hget
    obtain ⟨actions, hrun, -⟩ := onMessage_cdn s hmsg
    rw [dispatch_eq, hchoice hkeys hkey, h.complete key sid hkey huses halone, serve,
      give_sessions hmac msg hget', hrun]
    split
    · rename_i heq
      rw [← heq, hget, Option.map_some]
    · exact (Option.map_id' (x := w.tunnel.sessionsByLocal.get? sid')).symm
  · rw [dispatch_eq, hchoice hkeys hkey]
    cases hentry : w.tunnel.sessionsByRemote.get? key with
    | none => rfl
    | some sid => exact absurd (h.sound key sid hentry) (hnobody sid)

omit [Dataplane δ] in
/-- No session has learned anything at the start. -/
theorem inv_init (cfg : TunnelConfigEntry) : Inv (Tunnel.init cfg) := by
  refine ⟨fun key sid hentry => by simp [Tunnel.init] at hentry, fun sid s hget hne => ?_,
    fun sid s hget => ?_⟩
  · obtain ⟨scfg, -, -, rfl⟩ := get?_init hget
    exact absurd rfl hne
  · obtain ⟨scfg, -, -, rfl⟩ := get?_init hget
    exact ⟨⟨le_rfl, by simp⟩, fun hidle => absurd rfl hidle⟩

/-- **The by-remote index is sound and complete all along a run exactly when no event of the run
spoils it**: no session that is in the index ends its call. For every configuration. `inv_step`
keeps the index in the one case, and in the other `spoiled_step` shows the entry that is left
behind. -/
theorem indexed_iff (hmac : Hmac) (cfg : TunnelConfigEntry) (dataplane : Option δ)
    (clock : Nat → ℚ) (es : List Event) :
    (∀ pre, pre <+: es →
      Indexed (pre.foldl (step hmac) (World.init cfg dataplane clock)).tunnel ∧
      Cuts hmac (pre.foldl (step hmac) (World.init cfg dataplane clock))) ↔
    Transition.Guarded (step hmac) (fun w e => ¬ Spoils hmac w.tunnel e)
      (World.init cfg dataplane clock) es :=
  Transition.guarded_iff_along (I := fun w : World δ => Inv w.tunnel ∧ Sourced w.tunnel)
    (P := fun w : World δ => Indexed w.tunnel ∧ Cuts hmac w)
    (fun _ h => ⟨h.1.indexed, h.1.indexed.cuts⟩)
    (fun _ e h hclean => ⟨inv_step h.2.1 e h.1 hclean, sourced_step e h.2⟩)
    (fun _ e h hspoils hindexed => spoiled_step e h.2 (not_not.mp hspoils) hindexed.1) es
    ⟨inv_init cfg, Peer.sound_init _ _ _ _ _, fun hfull => absurd rfl hfull⟩

end Steps

/-- A call that comes up leaves the index right. -/
example : Transition.Guarded (step ControlMessage.sumHmac)
    (fun w e => ¬ Spoils ControlMessage.sumHmac w.tunnel e)
    (World.init Mirror.gateway (some ({} : MockDataplane)) fun _ => 0) Mirror.answeredCall := by
  decide +kernel

/-- `gateway` with a second session that waits for calls. -/
def twoLines : TunnelConfigEntry :=
  { Mirror.gateway with
    sessions := [{ name := "office", pseudowireType := .ethernet, localSid := 1, initiator := false },
      { name := "lab", pseudowireType := .ethernet, localSid := 2, initiator := false }] }

/-- The peer's session 7 calls `office`, hangs up, and calls `lab`. -/
def reused : List Event :=
  Mirror.answeredCall ++ [
    .datagram (ControlMessage.mk 100 2 0 [messageTypeAvp .cdn,
      ietfAvp .localSessionId (beBytes 4 7) true, ietfAvp .remoteSessionId (beBytes 4 1) true,
      ietfAvp .resultCode (beBytes 2 3) true]).wire,
    .datagram (ControlMessage.mk 100 3 0 [messageTypeAvp .icrq,
      ietfAvp .localSessionId (beBytes 4 7) true, ietfAvp .remoteSessionId (beBytes 4 0) true,
      ietfAvp .remoteEndId (utf8 "lab") true]).wire]

/-- `twoLines` after the two calls. -/
def recalled : World MockDataplane :=
  reused.foldl (step ControlMessage.sumHmac) (World.init twoLines (some {}) fun _ => 0)

/-- A CDN of the peer's session 7 without a Remote Session ID. -/
def blindCdn : ControlMessage :=
  ⟨100, 4, 0, [messageTypeAvp .cdn, ietfAvp .localSessionId (beBytes 4 7) true,
    ietfAvp .resultCode (beBytes 2 3) true]⟩

/-- The index still has the first call, and the CDN of the second one is lost. -/
theorem reused_unindexed :
    recalled.tunnel.sessionsByRemote.get? 7 = some 1 ∧
    (recalled.tunnel.sessionsByLocal.get? 1).map (·.state) = some .idle ∧
    (recalled.tunnel.sessionsByLocal.get? 2).map (fun s => (s.state, s.peerSid))
      = some (.waitSessionConnect, 7) ∧
    sessionKeys MessageType.cdn.code blindCdn.avps = .ok (0, 7, none) ∧
    ((dispatchSessionMessage ControlMessage.sumHmac blindCdn MessageType.cdn.code
      recalled).2.tunnel.sessionsByLocal.get? 2).map (·.state) = some .waitSessionConnect ∧
    ¬ ∀ pre, pre <+: reused →
      Indexed (pre.foldl (step ControlMessage.sumHmac)
        (World.init twoLines (some ({} : MockDataplane)) fun _ => 0)).tunnel ∧
      Cuts ControlMessage.sumHmac (pre.foldl (step ControlMessage.sumHmac)
        (World.init twoLines (some ({} : MockDataplane)) fun _ => 0)) := by
  have hentry : recalled.tunnel.sessionsByRemote.get? 7 = some 1 := by decide +kernel
  have hidle : (recalled.tunnel.sessionsByLocal.get? 1).map (·.state) = some .idle := by
    decide +kernel
  refine ⟨hentry, hidle, by decide +kernel, by decide +kernel, by decide +kernel, fun h => ?_⟩
  obtain ⟨s, hget, hstate⟩ := Option.map_eq_some_iff.mp hidle
  exact not_indexed_of_idle hentry hget hstate (h reused (List.prefix_refl _)).1

end Index

end L2tpv3d
