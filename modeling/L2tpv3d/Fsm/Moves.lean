import L2tpv3d.Fsm.Outcome

/-!
# L2tpv3d — what each method of a session does

`Outcome` lists what any method can do. Here every method is inverted on its own: which of the
outcomes it has, in which state and on which message.

* `Silent r` — the call raised, or asked for nothing to be sent.
* `requested r` — the kernel sessions that the call asked for.
* `Quiet s x` — it asked for none, and learned no cookie.
* `onTunnelEstablished_cases`, `onLocalClose_cases` — the local events.
* `onMessage_icrq`, `onMessage_icrp`, `onMessage_iccn`, `onMessage_cdn` — a message that parses.
-/

namespace L2tpv3d

open Py Prog

namespace SessionFSM

/-- The call raised, or asked for nothing to be sent. -/
def Silent (r : Except Exn (List SessionAction)) : Prop :=
  ∀ actions, r = .ok actions → ∀ avps, .sendMessage avps ∉ actions

theorem silent_nil : Silent (.ok []) := by
  rintro _ ⟨⟩
  simp

/-- A call that raises hands back no action, so it sends nothing. -/
theorem silent_error (e : Exn) : Silent (.error e) := nofun

/-- The actions of a teardown talk to the dataplane, not to the peer. -/
theorem silent_down (s : SessionFSM) (reason : SessionDownReason) :
    Silent (.ok (s.downActions reason)) := by
  rintro _ ⟨⟩ avps
  exact mem_downActions

/-- The kernel sessions that a call asked for. -/
def requested : Except Exn (List SessionAction) → List SessionParams
  | .ok actions => actions.filterMap fun
    | .dataplaneAddSession params => some params
    | _ => none
  | .error _ => []

/-- A call that requests nothing asks the dataplane for no session. -/
theorem not_mem_of_requested {actions : List SessionAction} (h : requested (.ok actions) = [])
    (params : SessionParams) : .dataplaneAddSession params ∉ actions := by
  intro hmem
  cases List.filterMap_eq_nil_iff.mp h _ hmem

variable (s : SessionFSM)

/-- A session that goes down asks for none to be added. -/
theorem requested_down (reason : SessionDownReason) :
    requested (.ok (s.downActions reason)) = [] := by
  unfold downActions
  split <;> rfl

/-- `on_tunnel_established` -/
theorem onTunnelEstablished_cases :
    (∃ r, onTunnelEstablished s = (r, s) ∧ Silent r) ∨
    (s.config.initiator = true ∧ s.state = .idle ∧ ∃ avps,
      buildIcrqAvps s.config.callArgs s.config.pseudowireType (some s.config.name) s.config.cookie
        = .ok avps ∧
      onTunnelEstablished s = (.ok [.sendMessage avps], { s with state := .waitSessionReply })) := by
  cases hinit : s.config.initiator with
  -- the responder waits for the ICRQ
  | false => exact .inl ⟨_, by simp [onTunnelEstablished, hinit], silent_nil⟩
  | true =>
    by_cases hs : s.state = .idle
    -- the initiator calls, unless the ICRQ cannot be built
    · cases havps : buildIcrqAvps s.config.callArgs s.config.pseudowireType (some s.config.name)
        s.config.cookie with
      | error e => exact .inl ⟨_, by simp [onTunnelEstablished, hinit, hs, havps], silent_error e⟩
      | ok avps =>
        exact .inr ⟨rfl, hs, avps, rfl,
          by simp [onTunnelEstablished, hinit, hs, havps, transition]⟩
    · exact .inl ⟨_, by simp [onTunnelEstablished, hinit, hs], silent_nil⟩

/-- `on_local_close` -/
theorem onLocalClose_cases (resultCode : Int) :
    (∃ r, onLocalClose resultCode s = (r, s) ∧ Silent r) ∨
    (s.state ≠ .idle ∧ s.state ≠ .sendCdn ∧ ∃ avps,
      buildCdnAvps s.config.localSid s.peerSid resultCode = .ok avps ∧
      onLocalClose resultCode s = (.ok (.sendMessage avps :: s.downActions .localClose),
        { s with state := .sendCdn })) := by
  by_cases hs : s.state = .idle ∨ s.state = .sendCdn
  · exact .inl ⟨_, by simp [onLocalClose, hs], silent_nil⟩
  · cases havps : buildCdnAvps s.config.localSid s.peerSid resultCode with
    | error e => exact .inl ⟨_, by simp [onLocalClose, hs, havps], silent_error e⟩
    | ok avps =>
      exact .inr ⟨fun hi => hs (.inl hi), fun hc => hs (.inr hc), avps, rfl,
        by simp [onLocalClose, hs, havps, transition]⟩

/-! ## Calls that request nothing

A session asks for a kernel session only when its handshake ends. Everywhere else a call is quiet,
and an invariant about requests has nothing to show. -/

/-- The call requests nothing, learns no cookie and does not begin to wait for an ICCN. -/
structure Quiet (x : Except Exn (List SessionAction) × SessionFSM) : Prop where
  requested : requested x.1 = []
  learned : x.2.peerCookieLearned = s.peerCookieLearned
  waiting : x.2.state = .waitSessionConnect → s.state = .waitSessionConnect

theorem quiet_error (e : Exn) : Quiet s (.error e, s) := ⟨rfl, rfl, id⟩

theorem quiet_nil : Quiet s (.ok [], s) := ⟨rfl, rfl, id⟩

/-- A session that goes down, and falls back to `IDLE`. -/
theorem quiet_down (reason : SessionDownReason) :
    Quiet s (.ok (s.downActions reason), { s with state := .idle }) :=
  ⟨requested_down s reason, rfl, nofun⟩

/-- A session that goes down, and announces it. -/
theorem quiet_closed (avps : List AVP) (reason : SessionDownReason) :
    Quiet s (.ok (.sendMessage avps :: s.downActions reason), { s with state := .sendCdn }) :=
  ⟨requested_down s reason, rfl, nofun⟩

/-- The initiator's ICRQ asks the peer, and not yet the dataplane. -/
theorem quiet_onTunnelEstablished : Quiet s (onTunnelEstablished s) := by
  cases hinit : s.config.initiator with
  | false => simpa [onTunnelEstablished, hinit] using quiet_nil s
  | true =>
    by_cases hs : s.state = .idle
    · cases havps : buildIcrqAvps s.config.callArgs s.config.pseudowireType (some s.config.name)
        s.config.cookie with
      | error e => simpa [onTunnelEstablished, hinit, hs, havps] using quiet_error s e
      | ok avps =>
        have hquiet : Quiet s (.ok [.sendMessage avps], { s with state := .waitSessionReply }) :=
          ⟨rfl, rfl, by simp⟩
        simpa [onTunnelEstablished, hinit, hs, havps, transition] using hquiet
    · simpa [onTunnelEstablished, hinit, hs] using quiet_nil s

/-- A close sends a CDN, if one can be built. -/
theorem quiet_onLocalClose (resultCode : Int) : Quiet s (onLocalClose resultCode s) := by
  by_cases hs : s.state = .idle ∨ s.state = .sendCdn
  · simpa [onLocalClose, hs] using quiet_nil s
  · cases havps : buildCdnAvps s.config.localSid s.peerSid resultCode with
    | error e => simpa [onLocalClose, hs, havps] using quiet_error s e
    | ok avps => simpa [onLocalClose, hs, havps, transition] using quiet_closed s avps .localClose

/-- The end of the tunnel takes the session down without a message. -/
theorem quiet_onTunnelDown : Quiet s (onTunnelDown s) := by
  by_cases hs : s.state = .idle
  · simpa [onTunnelDown, hs] using quiet_nil s
  · simpa [onTunnelDown, hs, transition] using quiet_down s .tunnelDown

/-- A teardown after a fault sends a CDN, if one can be built. -/
theorem quiet_teardownCdn (reason : SessionDownReason) : Quiet s (teardownCdn reason s) := by
  cases havps : buildCdnAvps s.config.localSid s.peerSid ResultCode.generalError.code with
  | error e => simpa [teardownCdn, havps] using quiet_error s e
  | ok avps => simpa [teardownCdn, havps, transition] using quiet_closed s avps reason

/-- A CDN of the peer takes the session down, whether it can be parsed or not. -/
theorem quiet_onCdn (msg : ControlMessage) : Quiet s (onCdn msg s) := by
  by_cases hs : s.state = .idle
  · simpa [onCdn, hs] using quiet_nil s
  · have htry := tryValueError_of_only (parseCdnFields_onlyValueError msg.avps)
    simpa [onCdn, hs, htry, transition] using quiet_down s _

/-! ## Messages that parse

For each message the states it is taken in and, there, the exact result of the method; elsewhere it
is ignored or ends the session. -/

variable {msg : ControlMessage} {fields : SessionFields}

/-- What a session message teaches first is the session ID of the peer. -/
@[simp] theorem learned_peerSid : (s.learned fields).peerSid = fields.localSid := rfl

/-- The configuration is not learned. -/
@[simp] theorem learned_config : (s.learned fields).config = s.config := rfl

/-- Learning is not yet a move. -/
@[simp] theorem learned_state : (s.learned fields).state = s.state := rfl

/-- An ICRQ in `IDLE` is answered, unless the ICRP cannot be built. -/
theorem onMessage_icrq (hmt : getMessageType msg.avps = .ok (some MessageType.icrq.code))
    (hparse : parseSessionFields msg.avps = .ok fields) (hs : s.state = .idle) :
    (∃ e, buildIcrpAvps s.config.callArgs fields.localSid s.config.cookie = .error e ∧
      onMessage msg s = (.error e, s.learned fields)) ∨
    (∃ avps, buildIcrpAvps s.config.callArgs fields.localSid s.config.cookie = .ok avps ∧
      onMessage msg s
        = (.ok [.sendMessage avps], { s.learned fields with state := .waitSessionConnect })) := by
  have hrun : onMessage msg s = onIcrq msg s := by simp [onMessage, hmt]
  rw [hrun]
  cases havps : buildIcrpAvps s.config.callArgs fields.localSid s.config.cookie with
  | error e =>
    exact .inl ⟨e, rfl, by simp [onIcrq, hs, hparse, tryValueError, learned, learnPeer, havps]⟩
  | ok avps =>
    exact .inr ⟨avps, rfl,
      by simp [onIcrq, hs, hparse, tryValueError, learned, learnPeer, havps, transition]⟩

/-- An ICRP is taken in `WAIT_SESSION_REPLY` only. -/
theorem onMessage_icrp (hmt : getMessageType msg.avps = .ok (some MessageType.icrp.code))
    (hparse : parseSessionFields msg.avps = .ok fields) :
    (s.state ≠ .waitSessionReply ∧ onMessage msg s = (.ok [], s)) ∨
    (s.state = .waitSessionReply ∧ ∃ e,
      buildIccnAvps s.config.callArgs fields.localSid = .error e ∧
      onMessage msg s = (.error e, s.learned fields)) ∨
    (s.state = .waitSessionReply ∧ ∃ avps,
      buildIccnAvps s.config.callArgs fields.localSid = .ok avps ∧
      onMessage msg s = (.ok [.sendMessage avps,
        .dataplaneAddSession (s.learned fields).dataplaneParams, .sessionEstablished],
        { s.learned fields with state := .established })) := by
  have hrun : onMessage msg s = onIcrp msg s := by
    have hne : MessageType.icrp.code ≠ MessageType.icrq.code := by decide
    simp [onMessage, hmt, hne]
  rw [hrun]
  by_cases hs : s.state = .waitSessionReply
  -- the peer is learned before the ICCN is built, and stays learned if that fails
  · refine .inr ?_
    cases havps : buildIccnAvps s.config.callArgs fields.localSid with
    | error e =>
      exact .inl ⟨hs, e, rfl,
        by simp [onIcrp, hs, hparse, tryValueError, learned, learnPeer, havps]⟩
    | ok avps =>
      exact .inr ⟨hs, avps, rfl,
        by simp [onIcrp, hs, hparse, tryValueError, learned, learnPeer, havps, transition]⟩
  · exact .inl ⟨hs, by simp [onIcrp, hs]⟩

/-- An ICCN of the peer is taken in `WAIT_SESSION_CONNECT` only. -/
theorem onMessage_iccn (hmt : getMessageType msg.avps = .ok (some MessageType.iccn.code))
    (hparse : parseSessionFields msg.avps = .ok fields) :
    (s.state ≠ .waitSessionConnect ∧ onMessage msg s = (.ok [], s)) ∨
    (s.state = .waitSessionConnect ∧ fields.localSid = s.peerSid ∧ onMessage msg s
      = (.ok [.dataplaneAddSession s.dataplaneParams, .sessionEstablished],
        { s with state := .established })) ∨
    (s.state = .waitSessionConnect ∧ fields.localSid ≠ s.peerSid ∧
      onMessage msg s = teardownCdn .iccnLocalSidMismatch s) := by
  have hrun : onMessage msg s = onIccn msg s := by
    have hne : MessageType.iccn.code ≠ MessageType.icrq.code ∧
      MessageType.iccn.code ≠ MessageType.icrp.code := by decide
    simp [onMessage, hmt, hne]
  rw [hrun]
  by_cases hs : s.state = .waitSessionConnect
  -- the ICCN must come from the session that the ICRQ came from
  · by_cases hsid : fields.localSid = s.peerSid
    · exact .inr (.inl ⟨hs, hsid, by simp [onIccn, hs, hparse, tryValueError, hsid, transition]⟩)
    · exact .inr (.inr ⟨hs, hsid, by simp [onIccn, hs, hparse, tryValueError, hsid]⟩)
  · exact .inl ⟨hs, by simp [onIccn, hs]⟩

/-- A CDN leaves the session in `IDLE`, whatever it carries. -/
theorem onMessage_cdn (hmt : getMessageType msg.avps = .ok (some MessageType.cdn.code)) :
    ∃ actions, onMessage msg s = (.ok actions, { s with state := .idle }) ∧ Silent (.ok actions) := by
  have hrun : onMessage msg s = onCdn msg s := by
    have hne : MessageType.cdn.code ≠ MessageType.icrq.code ∧
      MessageType.cdn.code ≠ MessageType.icrp.code ∧
      MessageType.cdn.code ≠ MessageType.iccn.code := by decide
    simp [onMessage, hmt, hne]
  rw [hrun]
  by_cases hs : s.state = .idle
  -- an idle session stays as it is, which is `IDLE` too
  · refine ⟨[], ?_, silent_nil⟩
    have hself : ({ s with state := .idle } : SessionFSM) = s := by rw [← hs]
    rw [hself]
    simp [onCdn, hs]
  · have htry := tryValueError_of_only (parseCdnFields_onlyValueError msg.avps)
    cases hfields : (parseCdnFields msg.avps).toOption with
    | none =>
      exact ⟨s.downActions .peerCdnUnparseable, by simp [onCdn, hs, htry, hfields, transition],
        silent_down s _⟩
    | some fields =>
      exact ⟨s.downActions (.peerCdn fields.resultCode fields.errorCode),
        by simp [onCdn, hs, htry, hfields, transition], silent_down s _⟩

end SessionFSM

end L2tpv3d
