import L2tpv3d.Daemon.Mirror
import L2tpv3d.Daemon.Parts
import L2tpv3d.Fsm.Moves
import L2tpv3d.Fsm.Sendable

/-!
# L2tpv3d — which session takes a message

`_dispatch_session_message` picks at most one session and calls its `on_message`. The choice is
made by the Remote Session ID of the message, which names one of our sessions; an ICRQ, which
cannot name one yet, is given to an idle session; and whatever is left is looked up under the
Local Session ID of the message, the peer's, in the by-remote index.

What is left is more than the messages without a Remote Session ID: a message that names a
session we do not have is looked up in the index as well, and closes or opens the session it
finds there.

* `choice` — the session picked; `dispatch_eq` — a dispatch is the call of that session.
* **`directed_iff`** — when a reply, a connect or a CDN goes where it says.
* **`answered_iff`** — when a call is answered by a session that may answer it.
-/

namespace L2tpv3d

open Py Prog

namespace Routing

open Tunnel World SessionFSM

variable {δ : Type}

/-! ## The choice and the call

`_dispatch_session_message` is split in two: the choice of a session, which reads the tables and
changes nothing, and the call of the session chosen. -/

/-- The session that `_dispatch_session_message` picks for a message. -/
def choice (t : Tunnel) (mt : Int) (msg : ControlMessage) : Option Int :=
  match sessionKeys mt msg.avps with
  | .ok (localTarget, remoteKey, endId) => t.route mt localTarget remoteKey endId
  | .error _ => none

/-- The call of the session that was picked, with all that follows it. -/
def give [Dataplane δ] (hmac : Hmac) (msg : ControlMessage) (sid : Int) : Prog (World δ) Unit := do
  let actions ← onSession sid (SessionFSM.onMessage msg)
  modify (mapTunnel (indexRemote sid))
  executeSessionActions hmac actions

/-- A dispatch to the session picked, if any: the message is noted, and nothing else happens
without a session. -/
def serve [Dataplane δ] (hmac : Hmac) (msg : ControlMessage) (w : World δ) :
    Option Int → Except Exn Unit × World δ
  | none => (.ok (), noted w .session msg)
  | some sid => give hmac msg sid (noted w .session msg)

/-- With the keys of a message the choice is the one of `route`. -/
theorem choice_eq {t : Tunnel} {mt target key : Int} {msg : ControlMessage} {endId : Option Bytes}
    (hkeys : sessionKeys mt msg.avps = .ok (target, key, endId)) :
    choice t mt msg = t.route mt target key endId := by
  rw [choice, hkeys]

/-- A session is picked only for a message whose keys could be read. -/
theorem keys_of_choice {t : Tunnel} {mt sid : Int} {msg : ControlMessage}
    (h : choice t mt msg = some sid) : ∃ keys, sessionKeys mt msg.avps = .ok keys := by
  cases hkeys : sessionKeys mt msg.avps with
  | error e =>
    rw [choice, hkeys] at h
    cases h
  | ok keys => exact ⟨keys, rfl⟩

section Give

variable [Dataplane δ] (hmac : Hmac) {msg : ControlMessage} {mt sid : Int} {w : World δ}

/-- Giving a message to a session is a call of it, followed by the update of the index. -/
theorem give_eq (msg : ControlMessage) (sid : Int) (w : World δ) :
    give hmac msg sid w = callSession hmac sid (onMessage msg) (indexRemote sid) w := rfl

/-- **A dispatch** is the call of the session that is picked. -/
theorem dispatch_eq (msg : ControlMessage) (mt : Int) (w : World δ) :
    dispatchSessionMessage hmac msg mt w = serve hmac msg w (choice w.tunnel mt msg) := by
  cases hkeys : sessionKeys mt msg.avps with
  | error e =>
    rw [dispatchSessionMessage_unread hmac hkeys, choice, hkeys]
    rfl
  | ok keys =>
    obtain ⟨target, key, endId⟩ := keys
    rw [choice_eq hkeys]
    -- dropped, or given to the session that the lookup found
    cases hroute : w.tunnel.route mt target key endId with
    | none => exact dispatchSessionMessage_unrouted hmac hkeys hroute
    | some sid => exact dispatchSessionMessage_routed hmac hkeys hroute

/-- A method that raises lets its exception through. -/
theorem give_error {s s' : SessionFSM} {e : Exn}
    (hget : w.tunnel.sessionsByLocal.get? sid = some s)
    (hrun : onMessage msg s = (.error e, s')) : (give hmac msg sid w).1 = .error e := by
  rw [give_eq, callSession_error hmac hget hrun]

/-- A session that is not there cannot be called. -/
theorem give_absent (hget : w.tunnel.sessionsByLocal.get? sid = none) :
    give hmac msg sid w = (.ok (), w) := by
  have hkept : indexRemote sid w.tunnel = w.tunnel := by simp [indexRemote, hget]
  rw [give_eq, callSession_none hmac hget, mapTunnel, hkept]

/-- The sessions after a call: the one that was called moved. -/
theorem give_sessions (msg : ControlMessage) {s : SessionFSM}
    (hget : w.tunnel.sessionsByLocal.get? sid = some s) (sid' : Int) :
    (give hmac msg sid w).2.tunnel.sessionsByLocal.get? sid'
      = if sid = sid' then some (onMessage msg s).2
        else w.tunnel.sessionsByLocal.get? sid' := by
  rw [give_eq]
  exact callSession_sessions hmac (onlyIndex_indexRemote sid) hget sid'

/-- The index after a call that returned. -/
theorem give_index {s s' : SessionFSM} {actions : List SessionAction}
    (hget : w.tunnel.sessionsByLocal.get? sid = some s)
    (hrun : onMessage msg s = (.ok actions, s')) :
    (give hmac msg sid w).2.tunnel.sessionsByRemote
      = if s'.peerSid ≠ 0 ∧ w.tunnel.sessionsByRemote.contains s'.peerSid = false then
          w.tunnel.sessionsByRemote.set s'.peerSid sid
        else w.tunnel.sessionsByRemote := by
  have hset : (w.withSession sid s').tunnel.sessionsByLocal.get? sid = some s' :=
    Dict.get?_set_self _ _ _
  rw [give_eq, callSession_ok hmac hget hrun,
    (executed_sessionActions hmac actions _).sessionsByRemote]
  simp only [mapTunnel, indexRemote, hset]
  -- a new ID is entered once, and an entry is never replaced
  split
  · rename_i hnew
    exact (if_pos hnew).symm
  · rename_i hold
    exact (if_neg hold).symm

/-- A session that ignores the message, and is in the index already, leaves no trace. -/
theorem give_ignored {s : SessionFSM} (hget : w.tunnel.sessionsByLocal.get? sid = some s)
    (hrun : onMessage msg s = (.ok [], s))
    (hindex : ¬ (s.peerSid ≠ 0 ∧ w.tunnel.sessionsByRemote.contains s.peerSid = false)) :
    give hmac msg sid w = (.ok (), w) := by
  have hsame : w.withSession sid s = w := by
    rw [World.withSession, mapTunnel, Dict.set_of_get? hget]
  have hkept : indexRemote sid w.tunnel = w.tunnel := by
    simp only [indexRemote, hget]
    exact if_neg hindex
  rw [give_eq, callSession_ok hmac hget hrun, hsame, mapTunnel, hkept]
  rfl

end Give

/-! ## The states of a dispatch

A dispatch happens in the middle of `handle_datagram`, after the peer received and acknowledged the
message. The sessions are as they were between the events, so what holds of them in a run holds
here. -/

/-- The states that `_dispatch_session_message` is called in: those of a run, and those inside a
`handle_datagram`, where the message was received and acknowledged before. -/
inductive Serving [Dataplane δ] (hmac : Hmac) (cfg : TunnelConfigEntry) (dataplane : Option δ)
    (clock : Nat → ℚ) : World δ → Prop where
  | between {w} : Transition.Reach (Tunnel.step hmac) (fun _ _ => True)
      (World.init cfg dataplane clock) w → Serving hmac cfg dataplane clock w
  | within {w} (peer : Peer) (acks : List Bytes) :
      Transition.Reach (Tunnel.step hmac) (fun _ _ => True) (World.init cfg dataplane clock) w →
      Serving hmac cfg dataplane clock (received w peer acks)

/-- A property of the sessions alone. -/
def ofSessions (I : SessionFSM → Prop) : Parts where
  cfg _ := True
  peer _ := True
  fsm _ := True
  session _ s := I s

/-- What every call of a session keeps, every handler of the tunnel keeps. -/
theorem ofSessions_stable {I : SessionFSM → Prop}
    (h : ∀ {s s' : SessionFSM} {r : Except Exn (List SessionAction)},
      SessionFSM.Outcome s r s' → I s → I s') : (ofSessions I).Stable where
  link _ _ := trivial
  learn _ _ := trivial
  receive _ _ := trivial
  tick _ _ := trivial
  fsm _ _ := trivial
  session := h

/-- What holds of a session just constructed, and after every call, holds in a dispatch. -/
theorem Serving.sessions [Dataplane δ] {hmac : Hmac} {cfg : TunnelConfigEntry}
    {dataplane : Option δ} {clock : Nat → ℚ} {w : World δ}
    (hw : Serving hmac cfg dataplane clock w) {I : SessionFSM → Prop}
    (hinit : ∀ config, I { config := config })
    (hstep : ∀ {s s' : SessionFSM} {r : Except Exn (List SessionAction)},
      SessionFSM.Outcome s r s' → I s → I s') :
    ∀ sid s, w.tunnel.sessionsByLocal.get? sid = some s → I s := by
  have hholds : ∀ v : World δ, Transition.Reach (Tunnel.step hmac) (fun _ _ => True)
      (World.init cfg dataplane clock) v → (ofSessions I).Holds v.tunnel := by
    refine fun v hv => (ofSessions_stable hstep).reach ⟨trivial, trivial, trivial, ?_⟩ hv
    intro sid s hget
    obtain ⟨scfg, -, -, rfl⟩ := get?_init hget
    exact hinit _
  -- the transport part of a datagram leaves the sessions as they were
  cases hw with
  | between hw => exact (hholds w hw).sessions
  | within peer acks hw => exact ((hholds _ hw).received trivial acks).sessions

/-- A session past `IDLE` has been started, in every dispatch. -/
theorem Serving.started [Dataplane δ] {hmac : Hmac} {cfg : TunnelConfigEntry}
    {dataplane : Option δ} {clock : Nat → ℚ} {w : World δ}
    (hw : Serving hmac cfg dataplane clock w) :
    ∀ sid s, w.tunnel.sessionsByLocal.get? sid = some s → s.Started :=
  hw.sessions (fun _ => ⟨⟨le_rfl, by simp⟩, fun hidle => absurd rfl hidle⟩) fun h => h.started

/-! ## Messages that name a session

A Remote Session ID other than zero names a session of this end. Whether a session reacts to a
message depends on its state and on the fields of the message, and a session that does not react
ignores it. -/

/-- The message carries a Remote Session ID that is not zero. -/
def Names (msg : ControlMessage) (n : Int) : Prop :=
  decodeRemoteSidOrZero (findAvp msg.avps .remoteSessionId) = .ok n ∧ n ≠ 0

/-- The session a message names is its Remote Session ID. -/
theorem sessionKeys_target {mt target key : Int} {avps : List AVP} {endId : Option Bytes}
    (h : sessionKeys mt avps = .ok (target, key, endId)) :
    decodeRemoteSidOrZero (findAvp avps .remoteSessionId) = .ok target := by
  unfold sessionKeys at h
  split at h
  · simp only [bind_eq_ok, pure_eq_ok, Except.ok.injEq, Prod.mk.injEq, parseCdnFields] at h
    obtain ⟨_, ⟨_, -, _, -, _, -, _, -, rsid, hrsid, rfl⟩, rfl, -⟩ := h
    exact hrsid
  · simp only [bind_eq_ok, pure_eq_ok, Except.ok.injEq, Prod.mk.injEq, parseSessionFields] at h
    obtain ⟨_, ⟨_, -, _, -, rsid, hrsid, _, -, _, -, _, -, _, -, _, -, _, -, _, -, _, -, rfl⟩, rfl,
      -⟩ := h
    exact hrsid

/-- An ICRP, ICCN or CDN that the session reacts to. -/
def Reacts (mt : MessageType) (s : SessionFSM) : Prop :=
  (mt = .icrp ∧ s.state = .waitSessionReply) ∨ (mt = .iccn ∧ s.state = .waitSessionConnect) ∨
    (mt = .cdn ∧ s.state ≠ .idle)

/-- The types of the messages that go on with a call. -/
def Ongoing (mt : MessageType) : Prop := mt = .icrp ∨ mt = .iccn ∨ mt = .cdn

section Reaction

variable {msg : ControlMessage} {mt : MessageType} {s : SessionFSM} {target key : Int}
  {endId : Option Bytes}

/-- The keys of a message other than a CDN come from its session fields. -/
theorem fields_of_keys (hne : mt ≠ .cdn)
    (hkeys : sessionKeys mt.code msg.avps = .ok (target, key, endId)) :
    ∃ fields, parseSessionFields msg.avps = .ok fields ∧ fields.localSid = key ∧
      fields.remoteEndId = endId := by
  have hcode : mt.code ≠ MessageType.cdn.code := by
    revert hne
    cases mt <;> decide
  rw [sessionKeys, if_neg hcode] at hkeys
  simp only [bind_eq_ok, pure_eq_ok, Except.ok.injEq, Prod.mk.injEq] at hkeys
  obtain ⟨fields, hparse, -, hkey, hend⟩ := hkeys
  exact ⟨fields, hparse, hkey, hend⟩

/-- A session that reacts returns, and is left in another state. -/
theorem onMessage_reacts (hs : s.Started)
    (hmsg : getMessageType msg.avps = .ok (some mt.code))
    (hkeys : sessionKeys mt.code msg.avps = .ok (target, key, endId)) (hreacts : Reacts mt s) :
    ∃ actions s', onMessage msg s = (.ok actions, s') ∧ s'.state ≠ s.state := by
  rcases hreacts with ⟨rfl, hstate⟩ | ⟨rfl, hstate⟩ | ⟨rfl, hstate⟩
  · obtain ⟨fields, hparse, -, -⟩ := fields_of_keys (by decide) hkeys
    -- the ICCN is built from the arguments of the ICRQ
    obtain ⟨iccn, hbuilt⟩ := buildIccnAvps_exists (hs.callArgs (by simp [hstate]))
      (parseSessionFields_localSid hparse)
    rcases onMessage_icrp s hmsg hparse with ⟨hne, -⟩ | ⟨-, e, hfail, -⟩ | ⟨-, avps, -, hrun⟩
    · exact absurd hstate hne
    · rw [hbuilt] at hfail
      cases hfail
    · exact ⟨_, _, hrun, by simp [hstate]⟩
  · obtain ⟨fields, hparse, -, -⟩ := fields_of_keys (by decide) hkeys
    rcases onMessage_iccn s hmsg hparse with ⟨hne, -⟩ | ⟨-, -, hrun⟩ | ⟨-, -, hrun⟩
    · exact absurd hstate hne
    · exact ⟨_, _, hrun, by simp [hstate]⟩
    · obtain ⟨actions, hclose⟩ := hs.teardownCdn_eq (by simp [hstate]) .iccnLocalSidMismatch
      exact ⟨actions, _, hrun.trans hclose, by simp [hstate]⟩
  · obtain ⟨actions, hrun, -⟩ := onMessage_cdn s hmsg
    exact ⟨actions, _, hrun, Ne.symm hstate⟩

theorem onMessage_ignored (hmt : Ongoing mt)
    (hmsg : getMessageType msg.avps = .ok (some mt.code))
    (hkeys : sessionKeys mt.code msg.avps = .ok (target, key, endId)) (hreacts : ¬ Reacts mt s) :
    onMessage msg s = (.ok [], s) := by
  -- an ICRP, an ICCN, and a CDN
  rcases hmt with rfl | rfl | rfl
  · obtain ⟨fields, hparse, -, -⟩ := fields_of_keys (by decide) hkeys
    have hstate : s.state ≠ .waitSessionReply := fun h => hreacts (.inl ⟨rfl, h⟩)
    rcases onMessage_icrp s hmsg hparse with ⟨-, hrun⟩ | ⟨h, -⟩ | ⟨h, -⟩
    · exact hrun
    · exact absurd h hstate
    · exact absurd h hstate
  · obtain ⟨fields, hparse, -, -⟩ := fields_of_keys (by decide) hkeys
    have hstate : s.state ≠ .waitSessionConnect := fun h => hreacts (.inr (.inl ⟨rfl, h⟩))
    rcases onMessage_iccn s hmsg hparse with ⟨-, hrun⟩ | ⟨h, -⟩ | ⟨h, -⟩
    · exact hrun
    · exact absurd h hstate
    · exact absurd h hstate
  · have hstate : s.state = .idle := not_not.mp fun h => hreacts (.inr (.inr ⟨rfl, h⟩))
    have hne : MessageType.cdn.code ≠ MessageType.icrq.code ∧
      MessageType.cdn.code ≠ MessageType.icrp.code ∧
      MessageType.cdn.code ≠ MessageType.iccn.code := by decide
    simp [onMessage, hmsg, hne, onCdn, hstate]

end Reaction

/-! ## Where a reply, a connect or a CDN goes

The tables are asked for the session that is named, and then, if there is none, for the one that the
index knows under the peer's Session ID. The second look is also made for a message that names a
session that is not there, which is how it goes astray. -/

/-- A message goes to the session that it names, and only one that names none is matched through
the by-remote index. -/
structure Directed [Dataplane δ] (hmac : Hmac) (mt : MessageType) (msg : ControlMessage)
    (w : World δ) : Prop where
  /-- A message that names `n` is given to `n`, if we have it, or dropped. -/
  handed : ∀ n, Names msg n →
    dispatchSessionMessage hmac msg mt.code w = serve hmac msg w none ∨
      (w.tunnel.sessionsByLocal.contains n = true ∧
        dispatchSessionMessage hmac msg mt.code w = serve hmac msg w (some n))
  /-- No other session moves. -/
  others : ∀ n, Names msg n → ∀ sid, sid ≠ n →
    (dispatchSessionMessage hmac msg mt.code w).2.tunnel.sessionsByLocal.get? sid
      = w.tunnel.sessionsByLocal.get? sid
  unnamed : ∀ key endId, sessionKeys mt.code msg.avps = .ok (0, key, endId) →
    dispatchSessionMessage hmac msg mt.code w = serve hmac msg w
      (if key ≠ 0 then w.tunnel.sessionsByRemote.get? key else none)

/-- The message names a session that we do not have, and its Local Session ID leads through the
index to one that reacts, or that the index does not have under its own peer's ID yet. -/
def Astray (mt : MessageType) (msg : ControlMessage) (t : Tunnel) : Prop :=
  ∃ n key endId sid s, sessionKeys mt.code msg.avps = .ok (n, key, endId) ∧ n ≠ 0 ∧
    t.sessionsByLocal.get? n = none ∧ key ≠ 0 ∧ t.sessionsByRemote.get? key = some sid ∧
    t.sessionsByLocal.get? sid = some s ∧
    (Reacts mt s ∨ (s.peerSid ≠ 0 ∧ t.sessionsByRemote.contains s.peerSid = false))

section Directed

variable {t : Tunnel} {msg : ControlMessage} {mt : MessageType} {target key : Int}
  {endId : Option Bytes}

/-- Without one of our sessions named, what goes on with a call is looked up in the index. -/
theorem route_unnamed (hmt : Ongoing mt)
    (htarget : ¬ (target ≠ 0 ∧ t.sessionsByLocal.contains target = true)) :
    t.route mt.code target key endId
      = if key ≠ 0 then t.sessionsByRemote.get? key else none := by
  have hne : mt.code ≠ MessageType.icrq.code := by
    rcases hmt with rfl | rfl | rfl <;> decide
  rw [route, if_neg htarget, if_neg hne]

variable [Dataplane δ] {hmac : Hmac} {cfg : TunnelConfigEntry} {dataplane : Option δ}
  {clock : Nat → ℚ} {w : World δ}

/-- A message that goes astray leaves a trace. -/
theorem not_directed_of_astray (hmt : Ongoing mt) (hw : Serving hmac cfg dataplane clock w)
    (hmsg : getMessageType msg.avps = .ok (some mt.code)) (hastray : Astray mt msg w.tunnel) :
    ¬ Directed hmac mt msg w := by
  obtain ⟨n, key, endId, sid, s, hkeys, hn, habsent, hkey, hindex, hget, hmoves⟩ := hastray
  intro h
  have hunknown : w.tunnel.sessionsByLocal.contains n = false := by simp [Dict.contains, habsent]
  have hchoice : choice w.tunnel mt.code msg = some sid := by
    rw [choice_eq hkeys, route_unnamed hmt (by simp [hunknown]), if_pos hkey, hindex]
  have hgiven : give hmac msg sid (noted w .session msg) = (.ok (), noted w .session msg) := by
    rcases h.handed n ⟨sessionKeys_target hkeys, hn⟩ with hdrop | ⟨hknown, -⟩
    · rw [dispatch_eq, hchoice] at hdrop
      exact hdrop
    · rw [hunknown] at hknown
      cases hknown
  have hget' : (noted w .session msg).tunnel.sessionsByLocal.get? sid = some s := hget
  by_cases hreacts : Reacts mt s
  · -- the session is in another state
    obtain ⟨actions, s', hrun, hstate⟩ := onMessage_reacts (hw.started sid s hget) hmsg hkeys hreacts
    have hmoved := give_sessions hmac msg hget' sid
    rw [hgiven, hrun, if_pos rfl, hget'] at hmoved
    exact hstate (by rw [Option.some.inj hmoved])
  · -- the index has one entry more
    obtain ⟨hpeer, hnew⟩ := hmoves.resolve_left hreacts
    have hadded := give_index hmac hget' (onMessage_ignored hmt hmsg hkeys hreacts)
    have hnew' : (noted w .session msg).tunnel.sessionsByRemote.contains s.peerSid = false := hnew
    rw [hgiven, if_pos ⟨hpeer, hnew'⟩] at hadded
    rw [hadded, Dict.contains, Dict.get?_set_self] at hnew'
    cases hnew'

/-- A message that names `n` is given to `n` or dropped, unless it goes astray. -/
theorem handed_of_not_astray (hmac : Hmac) (hmt : Ongoing mt)
    (hmsg : getMessageType msg.avps = .ok (some mt.code)) (hclean : ¬ Astray mt msg w.tunnel)
    {n : Int} (hnames : Names msg n) :
    dispatchSessionMessage hmac msg mt.code w = serve hmac msg w none ∨
      (w.tunnel.sessionsByLocal.contains n = true ∧
        dispatchSessionMessage hmac msg mt.code w = serve hmac msg w (some n)) := by
  obtain ⟨htarget, hn⟩ := hnames
  rw [dispatch_eq]
  cases hkeys : sessionKeys mt.code msg.avps with
  | error e =>
    rw [choice, hkeys]
    exact .inl rfl
  | ok keys =>
    obtain ⟨target, key, endId⟩ := keys
    have htarget' := sessionKeys_target hkeys
    rw [htarget] at htarget'
    cases htarget'
    rw [choice_eq hkeys]
    -- an unknown ID falls through to the lookup by the peer's ID
    by_cases hknown : w.tunnel.sessionsByLocal.contains n = true
    · exact .inr ⟨hknown, by rw [route, if_pos ⟨hn, hknown⟩]⟩
    · rw [route_unnamed hmt (by simp [hknown])]
      refine .inl ?_
      split
      · rename_i hkey
        cases hindex : w.tunnel.sessionsByRemote.get? key with
        | none => rfl
        | some sid =>
          -- an entry may outlive its session
          cases hget : w.tunnel.sessionsByLocal.get? sid with
          | none => exact give_absent hmac hget
          | some s =>
            have habsent : w.tunnel.sessionsByLocal.get? n = none := by
              simpa [Dict.contains] using hknown
            obtain ⟨hreacts, hindexed⟩ : ¬ Reacts mt s ∧
                ¬ (s.peerSid ≠ 0 ∧ w.tunnel.sessionsByRemote.contains s.peerSid = false) :=
              not_or.mp fun hmoves => hclean
                ⟨n, key, endId, sid, s, hkeys, hn, habsent, hkey, hindex, hget, hmoves⟩
            exact give_ignored hmac hget (onMessage_ignored hmt hmsg hkeys hreacts) hindexed
      · rfl

/-- **A reply, a connect or a CDN goes to the session it names, unless it goes astray.** For every
configuration, in every state that the dispatch is called in. A message that goes astray reaches a
session that reacts to it, or is entered in the index, so it leaves a trace. -/
theorem directed_iff (hmac : Hmac) (cfg : TunnelConfigEntry) (dataplane : Option δ)
    (clock : Nat → ℚ) (w : World δ) (hw : Serving hmac cfg dataplane clock w) (mt : MessageType)
    (hmt : Ongoing mt) (msg : ControlMessage)
    (hmsg : getMessageType msg.avps = .ok (some mt.code)) :
    Directed hmac mt msg w ↔ ¬ Astray mt msg w.tunnel := by
  refine ⟨fun h hastray => not_directed_of_astray hmt hw hmsg hastray h, fun hclean => ?_⟩
  have hhanded : ∀ n, Names msg n → _ := fun n hn =>
    handed_of_not_astray hmac hmt hmsg hclean hn
  -- the message, the other sessions, and the lookup without a name
  refine ⟨hhanded, fun n hn sid hne => ?_, fun key endId hkeys => ?_⟩
  · rcases hhanded n hn with hdrop | ⟨hknown, hgiven⟩
    · rw [hdrop]
      rfl
    · obtain ⟨s, hget⟩ := Dict.contains_iff.mp hknown
      have hget' : (noted w .session msg).tunnel.sessionsByLocal.get? n = some s := hget
      rw [hgiven, serve, give_sessions hmac msg hget', if_neg (Ne.symm hne)]
      rfl
  · rw [dispatch_eq, choice_eq hkeys, route_unnamed hmt (by simp)]

/-- `gateway` after the call of its peer's session 7. -/
def answered : World MockDataplane :=
  Mirror.answeredCall.foldl (Tunnel.step ControlMessage.sumHmac)
    (World.init Mirror.gateway (some {}) fun _ => 0)

theorem answered_serving :
    Serving ControlMessage.sumHmac Mirror.gateway (some {}) (fun _ => 0) answered :=
  .between (Transition.Reach.run .start (by simp [Mirror.answeredCall, Transition.Guarded]))

/-- A CDN of the peer's session 7. -/
def cdnOf (remoteSid : Nat) : ControlMessage :=
  ⟨100, 2, 0, [messageTypeAvp .cdn, ietfAvp .localSessionId (beBytes 4 7) true,
    ietfAvp .remoteSessionId (beBytes 4 remoteSid) true, ietfAvp .resultCode (beBytes 2 3) true]⟩

/-- A CDN that names the session it is for. -/
theorem directed_iff_own : Directed ControlMessage.sumHmac .cdn (cdnOf 1) answered := by
  refine (directed_iff ControlMessage.sumHmac Mirror.gateway (some {}) (fun _ => 0) answered
    answered_serving .cdn (.inr (.inr rfl)) (cdnOf 1) (by decide +kernel)).mpr ?_
  rintro ⟨n, key, endId, sid, s, hkeys, -, habsent, -⟩
  have hown : sessionKeys MessageType.cdn.code (cdnOf 1).avps = .ok (1, 7, none) := by
    decide +kernel
  rw [hown] at hkeys
  cases hkeys
  have hknown : answered.tunnel.sessionsByLocal.contains 1 = true := by decide +kernel
  simp [Dict.contains, habsent] at hknown

/-- A CDN that names session 9, which `gateway` does not have, takes down session 1. -/
theorem stray_cdn_taken :
    Serving ControlMessage.sumHmac Mirror.gateway (some {}) (fun _ => 0) answered ∧
    getMessageType (cdnOf 9).avps = .ok (some MessageType.cdn.code) ∧ Names (cdnOf 9) 9 ∧
    answered.tunnel.sessionsByLocal.contains 9 = false ∧
    (answered.tunnel.sessionsByLocal.get? 1).map (·.state) = some .established ∧
    ((dispatchSessionMessage ControlMessage.sumHmac (cdnOf 9) MessageType.cdn.code
      answered).2.tunnel.sessionsByLocal.get? 1).map (·.state) = some .idle ∧
    ¬ Directed ControlMessage.sumHmac .cdn (cdnOf 9) answered := by
  have hnames : Names (cdnOf 9) 9 := ⟨by decide +kernel, by decide⟩
  have hup : (answered.tunnel.sessionsByLocal.get? 1).map (·.state) = some .established := by
    decide +kernel
  have hdown : ((dispatchSessionMessage ControlMessage.sumHmac (cdnOf 9) MessageType.cdn.code
      answered).2.tunnel.sessionsByLocal.get? 1).map (·.state) = some .idle := by
    decide +kernel
  refine ⟨answered_serving, by decide +kernel, hnames, by decide +kernel, hup, hdown, fun h => ?_⟩
  have hkept := h.others 9 hnames 1 (by decide)
  rw [hkept, hup] at hdown
  cases hdown

end Directed

/-! ## Who answers a call

An ICRQ names no session. The scan takes the first idle session of the name that it carries, or the
first idle session of all if it carries none. It does not look at the role. -/

/-- The session under `sid` is idle, and has the name. -/
def IdleNamed (t : Tunnel) (name : Bytes) (sid : Int) : Prop :=
  ∃ s, t.sessionsByLocal.get? sid = some s ∧ s.state = .idle ∧ utf8 s.config.name = name

/-- The session under `sid` is idle, and waits for calls. -/
def IdleResponder (t : Tunnel) (sid : Int) : Prop :=
  ∃ s, t.sessionsByLocal.get? sid = some s ∧ s.state = .idle ∧ s.config.initiator = false

section Call

variable [Dataplane δ]

/-- An ICRQ is given to the session. -/
structure Given (hmac : Hmac) (msg : ControlMessage) (w : World δ) (sid : Int) : Prop where
  picked : choice w.tunnel MessageType.icrq.code msg = some sid
  called : dispatchSessionMessage hmac msg MessageType.icrq.code w = serve hmac msg w (some sid)

/-- An ICRQ is dropped: nothing changes, and nothing is sent. -/
def Dropped (hmac : Hmac) (msg : ControlMessage) (w : World δ) : Prop :=
  dispatchSessionMessage hmac msg MessageType.icrq.code w = serve hmac msg w none

/-- An ICRQ that names no session of ours is answered by one that may answer it. -/
structure Answered (hmac : Hmac) (msg : ControlMessage) (w : World δ) : Prop where
  /-- It is given to the idle session that its Remote End ID names. -/
  byName : ∀ key name,
    sessionKeys MessageType.icrq.code msg.avps = .ok (0, key, some name) →
    (∃ sid, IdleNamed w.tunnel name sid) → ∃ sid, IdleNamed w.tunnel name sid ∧ Given hmac msg w sid
  /-- Where the choice is not made by name, only an idle responder gets it. -/
  byRole : ∀ key endId, sessionKeys MessageType.icrq.code msg.avps = .ok (0, key, endId) →
    (∀ name ∈ endId, ∀ sid, ¬ IdleNamed w.tunnel name sid) →
    Dropped hmac msg w ∨ ∃ sid, IdleResponder w.tunnel sid ∧ Given hmac msg w sid
  unmatched : ∀ key endId, sessionKeys MessageType.icrq.code msg.avps = .ok (0, key, endId) →
    (∀ name ∈ endId, ∀ sid, ¬ IdleNamed w.tunnel name sid) →
    (∀ sid, ¬ IdleResponder w.tunnel sid) → Dropped hmac msg w

/-- The ICRQ carries no Remote End ID, and the first idle session of the table is an initiator. -/
def Captures (msg : ControlMessage) (t : Tunnel) : Prop :=
  ∃ key sid s, sessionKeys MessageType.icrq.code msg.avps = .ok (0, key, none) ∧
    t.sessionsByLocal.items.find? (fun item => item.2.state = .idle) = some (sid, s) ∧
    s.config.initiator = true

variable {hmac : Hmac} {msg : ControlMessage} {w : World δ} {key sid : Int}
  {endId : Option Bytes}

omit [Dataplane δ] in
/-- An ICRQ that names no session is given to the first candidate. -/
theorem choice_icrq (hkeys : sessionKeys MessageType.icrq.code msg.avps = .ok (0, key, endId)) :
    choice w.tunnel MessageType.icrq.code msg
      = (w.tunnel.sessionsByLocal.items.find? fun item => candidate endId item.2).map
          Prod.fst := by
  rw [choice_eq hkeys, route, if_neg (by simp), if_pos rfl]

/-- The first candidate is the one that is called. -/
theorem given_of_find {s : SessionFSM}
    (hkeys : sessionKeys MessageType.icrq.code msg.avps = .ok (0, key, endId))
    (hfind : w.tunnel.sessionsByLocal.items.find? (fun item => candidate endId item.2)
      = some (sid, s)) : Given hmac msg w sid := by
  have hpicked : choice w.tunnel MessageType.icrq.code msg = some sid := by
    rw [choice_icrq hkeys, hfind]
    rfl
  exact ⟨hpicked, by rw [dispatch_eq, hpicked]⟩

/-- Without a candidate the ICRQ is dropped. -/
theorem dropped_of_find (hkeys : sessionKeys MessageType.icrq.code msg.avps = .ok (0, key, endId))
    (hfind : w.tunnel.sessionsByLocal.items.find? (fun item => candidate endId item.2) = none) :
    Dropped hmac msg w := by
  rw [Dropped, dispatch_eq, choice_icrq hkeys, hfind]
  rfl

/-- The scan by name finds an idle session of that name, if there is one. -/
theorem find_named (t : Tunnel) (name : Bytes) :
    (∃ sid s, t.sessionsByLocal.items.find? (fun item => candidate (some name) item.2)
      = some (sid, s) ∧ IdleNamed t name sid) ∨
    (t.sessionsByLocal.items.find? (fun item => candidate (some name) item.2) = none ∧
      ∀ sid, ¬ IdleNamed t name sid) := by
  -- the scan goes through the sessions in the order of the table
  cases hfind : t.sessionsByLocal.items.find? fun item => candidate (some name) item.2 with
  | some item =>
    obtain ⟨sid, s⟩ := item
    have hcand : s.state = .idle ∧ utf8 s.config.name = name := by
      simpa [candidate] using List.find?_some hfind
    have hget := Dict.mem_items_iff.mp (List.mem_of_find?_eq_some hfind)
    exact .inl ⟨sid, s, rfl, s, hget, hcand⟩
  | none =>
    refine .inr ⟨rfl, ?_⟩
    rintro sid ⟨s, hget, hidle, hname⟩
    have hno := List.find?_eq_none.mp hfind (sid, s) (Dict.mem_items_iff.mpr hget)
    exact hno (by simp [candidate, hidle, hname])

/-- Without a name, every idle session is a candidate. -/
theorem find_unnamed (t : Tunnel) :
    t.sessionsByLocal.items.find? (fun item => candidate none item.2)
      = t.sessionsByLocal.items.find? fun item => item.2.state = .idle := by
  simp [candidate]

/-- An idle session that is given an ICRQ does not drop it. -/
theorem not_dropped_of_given {s : SessionFSM}
    (hmsg : getMessageType msg.avps = .ok (some MessageType.icrq.code))
    (hkeys : sessionKeys MessageType.icrq.code msg.avps = .ok (0, key, endId))
    (hget : w.tunnel.sessionsByLocal.get? sid = some s) (hidle : s.state = .idle)
    (hgiven : Given hmac msg w sid) : ¬ Dropped hmac msg w := by
  intro hdrop
  have hsame : give hmac msg sid (noted w .session msg) = (.ok (), noted w .session msg) :=
    hgiven.called.symm.trans hdrop
  have hget' : (noted w .session msg).tunnel.sessionsByLocal.get? sid = some s := hget
  obtain ⟨fields, hparse, -, -⟩ := fields_of_keys (by decide) hkeys
  -- it is answered, or the answer cannot be built
  rcases onMessage_icrq s hmsg hparse hidle with ⟨e, -, hrun⟩ | ⟨avps, -, hrun⟩
  · have herror := give_error hmac hget' hrun
    rw [hsame] at herror
    cases herror
  · have hmoved := give_sessions hmac msg hget' sid
    rw [hsame, hrun, if_pos rfl, hget'] at hmoved
    have hstate := congrArg (·.state) (Option.some.inj hmoved)
    rw [hidle] at hstate
    cases hstate

/-- **A call is answered by a session that may answer it, unless an initiator captures it**: in
every state, and so in every state that a tunnel reaches. The scan is a `find?` over the table, so
what it finds is idle, and the first of its kind. -/
theorem answered_iff (hmac : Hmac) (w : World δ) (msg : ControlMessage)
    (hmsg : getMessageType msg.avps = .ok (some MessageType.icrq.code)) :
    Answered hmac msg w ↔ ¬ Captures msg w.tunnel := by
  constructor
  · rintro h ⟨key, sid, s, hkeys, hfirst, hinit⟩
    rw [← find_unnamed] at hfirst
    have hget := Dict.mem_items_iff.mp (List.mem_of_find?_eq_some hfirst)
    have hidle : s.state = .idle := by simpa [candidate] using List.find?_some hfirst
    have hgiven : Given hmac msg w sid := given_of_find hkeys hfirst
    rcases h.byRole key none hkeys (by simp) with hdrop | ⟨sid', ⟨s', hget', -, hrole⟩, hgiven'⟩
    · exact not_dropped_of_given hmsg hkeys hget hidle hgiven hdrop
    · -- the initiator itself would have to be a responder
      have hsid := hgiven.picked.symm.trans hgiven'.picked
      cases hsid
      rw [hget] at hget'
      cases hget'
      rw [hinit] at hrole
      cases hrole
  · intro hclean
    -- without a name, what the scan finds is a responder
    have hrole : ∀ key sid s, sessionKeys MessageType.icrq.code msg.avps = .ok (0, key, none) →
        w.tunnel.sessionsByLocal.items.find? (fun item => candidate none item.2) = some (sid, s) →
        IdleResponder w.tunnel sid := by
      intro key sid s hkeys hfind
      have hget := Dict.mem_items_iff.mp (List.mem_of_find?_eq_some hfind)
      have hidle : s.state = .idle := by simpa [candidate] using List.find?_some hfind
      rw [find_unnamed] at hfind
      cases hinit : s.config.initiator with
      | false => exact ⟨s, hget, hidle, hinit⟩
      | true => exact absurd ⟨key, sid, s, hkeys, hfind, hinit⟩ hclean
    have hbyRole : ∀ key endId, sessionKeys MessageType.icrq.code msg.avps = .ok (0, key, endId) →
        (∀ name ∈ endId, ∀ sid, ¬ IdleNamed w.tunnel name sid) →
        Dropped hmac msg w ∨ ∃ sid, IdleResponder w.tunnel sid ∧ Given hmac msg w sid := by
      intro key endId hkeys hno
      cases endId with
      | some name =>
        rcases find_named w.tunnel name with ⟨sid, s, -, hnamed⟩ | ⟨hfind, -⟩
        · exact absurd hnamed (hno name rfl sid)
        · exact .inl (dropped_of_find hkeys hfind)
      | none =>
        cases hfind : w.tunnel.sessionsByLocal.items.find? fun item => candidate none item.2 with
        | none => exact .inl (dropped_of_find hkeys hfind)
        | some item => exact .inr ⟨item.1, hrole key item.1 item.2 hkeys hfind,
            given_of_find hkeys hfind⟩
    -- by name, by role, and neither
    refine ⟨fun key name hkeys hex => ?_, hbyRole, fun key endId hkeys hno hnone => ?_⟩
    · rcases find_named w.tunnel name with ⟨sid, s, hfind, hnamed⟩ | ⟨-, hno⟩
      · exact ⟨sid, hnamed, given_of_find hkeys hfind⟩
      · obtain ⟨sid, hnamed⟩ := hex
        exact absurd hnamed (hno sid)
    · rcases hbyRole key endId hkeys hno with hdrop | ⟨sid, hresponder, -⟩
      · exact hdrop
      · exact absurd hresponder (hnone sid)

/-- An ICRQ of the peer's session 7 without a Remote End ID. -/
def unnamedIcrq : ControlMessage :=
  ⟨100, 0, 0, [messageTypeAvp .icrq, ietfAvp .localSessionId (beBytes 4 7) true,
    ietfAvp .remoteSessionId (beBytes 4 0) true]⟩

/-- `gateway` with a session that calls, before the one that waits for calls. -/
def mixed : TunnelConfigEntry :=
  { Mirror.gateway with
    sessions := [{ name := "branch", pseudowireType := .ethernet, localSid := 2 },
      { name := "office", pseudowireType := .ethernet, localSid := 1, initiator := false }] }

/-- A tunnel that was started, with no call yet. -/
def opened (cfg : TunnelConfigEntry) : World MockDataplane :=
  Tunnel.step ControlMessage.sumHmac (World.init cfg (some {}) fun _ => 0) .start

theorem opened_serving (cfg : TunnelConfigEntry) :
    Serving ControlMessage.sumHmac cfg (some {}) (fun _ => 0) (opened cfg) :=
  .between (.next .start trivial)

/-- A gateway whose sessions all wait for calls answers every one. -/
theorem answered_iff_gateway :
    Answered ControlMessage.sumHmac unnamedIcrq (opened Mirror.gateway) := by
  refine (answered_iff ControlMessage.sumHmac (opened Mirror.gateway) unnamedIcrq
    (by decide +kernel)).mpr ?_
  rintro ⟨key, sid, s, -, hfirst, hinit⟩
  have hroles : ∀ item ∈ (opened Mirror.gateway).tunnel.sessionsByLocal.items,
      item.2.config.initiator = false := by decide +kernel
  have hrole := hroles (sid, s) (List.mem_of_find?_eq_some hfirst)
  rw [hinit] at hrole
  cases hrole

/-- The session that is to call takes the call that the other one waits for. -/
theorem initiator_captures :
    Serving ControlMessage.sumHmac mixed (some {}) (fun _ => 0) (opened mixed) ∧
    getMessageType unnamedIcrq.avps = .ok (some MessageType.icrq.code) ∧
    sessionKeys MessageType.icrq.code unnamedIcrq.avps = .ok (0, 7, none) ∧
    ((opened mixed).tunnel.sessionsByLocal.get? 2).map (·.config.initiator) = some true ∧
    ((dispatchSessionMessage ControlMessage.sumHmac unnamedIcrq MessageType.icrq.code
      (opened mixed)).2.tunnel.sessionsByLocal.get? 2).map (·.state)
        = some .waitSessionConnect ∧
    ¬ Answered ControlMessage.sumHmac unnamedIcrq (opened mixed) := by
  have hkeys : sessionKeys MessageType.icrq.code unnamedIcrq.avps = .ok (0, 7, none) := by
    decide +kernel
  have hpicked : choice (opened mixed).tunnel MessageType.icrq.code unnamedIcrq = some 2 := by
    decide +kernel
  have hinit : ((opened mixed).tunnel.sessionsByLocal.get? 2).map (·.config.initiator)
      = some true := by
    decide +kernel
  have hmoved : ((dispatchSessionMessage ControlMessage.sumHmac unnamedIcrq MessageType.icrq.code
      (opened mixed)).2.tunnel.sessionsByLocal.get? 2).map (·.state)
        = some .waitSessionConnect := by
    decide +kernel
  refine ⟨opened_serving mixed, by decide +kernel, hkeys, hinit, hmoved, fun h => ?_⟩
  rcases h.byRole 7 none hkeys (by simp) with hdrop | ⟨sid, ⟨s, hget, -, hrole⟩, hgiven⟩
  · have hidle : ((noted (opened mixed) .session unnamedIcrq).tunnel.sessionsByLocal.get? 2).map
        (·.state) = some .idle := by
      decide +kernel
    rw [hdrop, serve, hidle] at hmoved
    cases hmoved
  · have hsid := hpicked.symm.trans hgiven.picked
    cases hsid
    rw [hget, Option.map_some, hrole] at hinit
    cases hinit

end Call

end Routing

end L2tpv3d
