import L2tpv3d.Fsm.Outcome

/-!
# L2tpv3d — machines that never raise

The handlers catch the `ValueError` of every parser. What is left to raise on is a builder
given a field out of range, and the lookup of the Message Type.

* `TunnelFSM.Sendable`, `SessionFSM.Sendable` — every message of the machine can be built, and
  fits; no method leaves these.
* `TunnelFSM.onMessage_returns`, `SessionFSM.onMessage_returns`,
  `SessionFSM.onTunnelEstablished_returns` — such a machine does not raise.
* `SessionFSM.Started` — what any configuration gives: a session out of `IDLE` has sent, so
  that it can send again.
-/

namespace L2tpv3d

open Py Prog

/-! ## The tunnel machine

All fields of its messages come from the configuration, which no method changes. A builder that is
given fields in range does not raise. -/

namespace TunnelFSM

/-- The machine can build and encode what it has to send. -/
structure Sendable (s : TunnelFSM) : Prop where
  localCcid : 0 ≤ s.config.localCcid ∧ s.config.localCcid ≤ 0xFFFFFFFF
  built : ∀ mt, ∃ avps, buildSccrxAvps mt s.config.sccrxArgs = .ok avps
  regular : ∀ mt avps, buildSccrxAvps mt s.config.sccrxArgs = .ok avps → Regular avps

variable {s s' : TunnelFSM}

theorem Sendable.of_config (h : Sendable s) (hconfig : s'.config = s.config) : Sendable s' :=
  ⟨hconfig ▸ h.localCcid, hconfig ▸ h.built, hconfig ▸ h.regular⟩

/-- A teardown can build its StopCCN. -/
theorem teardownAndNotify_returns (h : Sendable s) (reason : TunnelDownReason) :
    Returns (teardownAndNotify reason) s := by
  have hbuilt : buildStopccnAvps s.config.localCcid ResultCode.generalError.code = .ok _ :=
    buildStopccnAvps_ok_iff.mpr ⟨h.localCcid, by decide, rfl⟩
  exact ⟨_, by simp [teardownAndNotify, hbuilt, transition]; rfl⟩

/-- An SCCRQ is answered, torn down or ignored; nothing raises. -/
theorem onSccrq_returns (h : Sendable s) (msg : ControlMessage) : Returns (onSccrq msg) s := by
  by_cases hs : s.state = .idle
  · have htry := tryValueError_of_only (parseSccrxFields_onlyValueError msg.avps)
    obtain ⟨avps, hbuilt⟩ : ∃ avps, buildSccrpAvps s.config.sccrxArgs = .ok avps := h.built .sccrp
    -- an SCCRQ that cannot be parsed is ignored
    cases hparse : (parseSccrxFields msg.avps).toOption with
    | none => exact ⟨[], by simp [onSccrq, hs, htry, hparse]⟩
    | some fields =>
      exact ⟨[.sendMessage avps], by
        simp [onSccrq, hs, htry, hparse, capturePeer, hbuilt, transition]⟩
  · have hrun : onSccrq msg s = teardownAndNotify .peerRestart s := by simp [onSccrq, hs]
    rw [Returns, hrun]
    exact teardownAndNotify_returns h _

/-- An SCCRP is taken, torn down or ignored; nothing raises. -/
theorem onSccrp_returns (h : Sendable s) (msg : ControlMessage) : Returns (onSccrp msg) s := by
  by_cases hs : s.state = .waitCtlReply
  · have htry := tryValueError_of_only (parseSccrxFields_onlyValueError msg.avps)
    -- an SCCRP that cannot be parsed tears down
    cases hparse : (parseSccrxFields msg.avps).toOption with
    | none =>
      have hrun : onSccrp msg s = teardownAndNotify .malformedSccrp s := by
        simp [onSccrp, hs, htry, hparse]
      rw [Returns, hrun]
      exact teardownAndNotify_returns h _
    | some fields =>
      exact ⟨_, by simp [onSccrp, hs, htry, hparse, capturePeer, buildScccnAvps_eq, transition]; rfl⟩
  · exact ⟨[], by simp [onSccrp, hs]⟩

/-- An open can build its SCCRQ. -/
theorem onLocalOpen_returns (h : Sendable s) : Returns onLocalOpen s := by
  obtain ⟨avps, hbuilt⟩ : ∃ avps, buildSccrqAvps s.config.sccrxArgs = .ok avps := h.built .sccrq
  by_cases hs : s.state = .idle
  · exact ⟨_, by simp [onLocalOpen, hs, hbuilt, transition]; rfl⟩
  · exact ⟨[], by simp [onLocalOpen, hs]⟩

/-- A result code that fits its field can be sent. -/
theorem onLocalClose_returns (h : Sendable s) {resultCode : Int}
    (hcode : 0 ≤ resultCode ∧ resultCode ≤ 0xFFFF) : Returns (onLocalClose resultCode) s := by
  by_cases hs : s.state = .idle ∨ s.state = .sendStopccn
  · exact ⟨[], by simp [onLocalClose, hs]⟩
  · have hbuilt : buildStopccnAvps s.config.localCcid resultCode = .ok _ :=
      buildStopccnAvps_ok_iff.mpr ⟨h.localCcid, hcode, rfl⟩
    exact ⟨_, by simp [onLocalClose, hs, hbuilt, transition]; rfl⟩

/-- A HELLO can always be built. -/
theorem onHelloTimer_returns (s : TunnelFSM) : Returns onHelloTimer s := by
  by_cases hs : s.state = .established
  · exact ⟨_, by simp [onHelloTimer, hs, buildHelloAvps_eq]; rfl⟩
  · exact ⟨[], by simp [onHelloTimer, hs]⟩

/-- A dead peer needs no message. -/
theorem onPeerDead_returns (s : TunnelFSM) : Returns onPeerDead s := by
  by_cases hs : s.state = .idle
  · exact ⟨[], by simp [onPeerDead, hs]⟩
  · exact ⟨_, by simp [onPeerDead, hs, transition]; rfl⟩

/-- **A machine whose messages can be built takes every message that has a readable type.** -/
theorem onMessage_returns (h : Sendable s) {msg : ControlMessage}
    (hmt : ∃ mt, getMessageType msg.avps = .ok mt) : Returns (onMessage msg) s := by
  obtain ⟨mt, hmt⟩ := hmt
  rw [Returns, onMessage, hmt, ofExcept_ok_bind_apply]
  -- SCCRQ, SCCRP, SCCCN, HELLO and StopCCN in turn
  split
  · exact onSccrq_returns h msg
  · split
    · exact onSccrp_returns h msg
    · split
      · by_cases hs : s.state = .waitCtlConn
        · exact ⟨_, by simp [onScccn, hs, transition]; rfl⟩
        · exact ⟨[], by simp [onScccn, hs]⟩
      · split
        · exact ⟨[], rfl⟩
        · split
          · have htry := tryValueError_of_only (parseStopccnFields_onlyValueError msg.avps)
            by_cases hs : s.state = .idle
            · exact ⟨[], by simp [onStopccn, hs]⟩
            · exact ⟨_, by simp [onStopccn, hs, htry, transition]; rfl⟩
          · exact ⟨[], rfl⟩

theorem Outcome.sent_regular {actions : List TunnelAction} (h : Outcome s (.ok actions) s')
    (hs : Sendable s) {avps : List AVP} (hmem : .sendMessage avps ∈ actions) : Regular avps := by
  cases h with
  | ignored => simp at hmem
  | opened _ hb =>
    obtain rfl : avps = _ := by simpa using hmem
    exact hs.regular _ _ hb
  | answered _ hb =>
    obtain rfl : avps = _ := by simpa using hmem
    exact hs.regular _ _ hb
  | connected _ =>
    obtain rfl : avps = _ := by simpa using hmem
    exact singleton_regular _
  | accepted _ => simp at hmem
  | kept _ =>
    obtain rfl : avps = _ := by simpa using hmem
    exact singleton_regular _
  -- the StopCCN comes first, whether or not the tunnel was up
  | stopped _ hb =>
    unfold stopActions at hmem
    obtain rfl : avps = _ := by split at hmem <;> simpa using hmem
    exact (buildStopccnAvps_regular hb).1
  | dropped _ =>
    unfold dropActions at hmem
    split at hmem <;> simp at hmem

end TunnelFSM

/-! ## The session machine

A session also sends the Session ID that the peer assigned. It was read from four bytes, so it fits
wherever it is written again. -/

namespace SessionFSM

/-- The session can build and encode what it has to send: its name fits the AVP of an ICRQ. -/
structure Sendable (s : SessionFSM) : Prop where
  callArgs : s.config.callArgs.InRange
  pseudowireType : 0 ≤ s.config.pseudowireType ∧ s.config.pseudowireType ≤ 0xFFFF
  cookie : ∀ c, s.config.cookie = some c → c.length = 0 ∨ c.length = 4 ∨ c.length = 8
  name : (utf8 s.config.name).length ≤ 1017
  peerSid : 0 ≤ s.peerSid ∧ s.peerSid ≤ 0xFFFFFFFF

/-- Every message of the machine can be built; the name in the ICRQ need not fit. -/
structure Buildable (s : SessionFSM) : Prop where
  callArgs : s.config.callArgs.InRange
  pseudowireType : 0 ≤ s.config.pseudowireType ∧ s.config.pseudowireType ≤ 0xFFFF
  cookie : ∀ c, s.config.cookie = some c → c.length = 0 ∨ c.length = 4 ∨ c.length = 8
  peerSid : 0 ≤ s.peerSid ∧ s.peerSid ≤ 0xFFFFFFFF

variable {s s' : SessionFSM}

/-- What can be encoded can be built. -/
theorem Sendable.buildable (h : Sendable s) : Buildable s :=
  ⟨h.callArgs, h.pseudowireType, h.cookie, h.peerSid⟩

/-- The peer's session ID, wherever it was learned, is a 32-bit number. -/
theorem Outcome.buildable {r : Except Exn (List SessionAction)} (h : Outcome s r s')
    (hs : Buildable s) : Buildable s' := by
  have hconfig := h.config_eq
  refine ⟨hconfig ▸ hs.callArgs, hconfig ▸ hs.pseudowireType, hconfig ▸ hs.cookie, ?_⟩
  cases h with
  | refused _ hparse => exact parseSessionFields_localSid hparse
  | answered _ hparse _ => exact parseSessionFields_localSid hparse
  | connected _ hparse _ => exact parseSessionFields_localSid hparse
  | _ => exact hs.peerSid

/-- No call makes a session unable to send. -/
theorem Outcome.sendable {r : Except Exn (List SessionAction)} (h : Outcome s r s')
    (hs : Sendable s) : Sendable s' := by
  have hb := h.buildable hs.buildable
  exact ⟨hb.callArgs, hb.pseudowireType, hb.cookie, h.config_eq ▸ hs.name, hb.peerSid⟩

/-- What holds of every session, whatever its configuration. Out of `IDLE` the call arguments are
in range, since the message that opened the call was built from them. -/
structure Started (s : SessionFSM) : Prop where
  peerSid : 0 ≤ s.peerSid ∧ s.peerSid ≤ 0xFFFFFFFF
  callArgs : s.state ≠ .idle → s.config.callArgs.InRange

/-- A session outside `IDLE` has once built a message, so its arguments are in range. -/
theorem Outcome.started {r : Except Exn (List SessionAction)} (h : Outcome s r s')
    (hs : Started s) : Started s' := by
  cases h with
  | ignored => exact hs
  | raised => exact hs
  | refused _ hparse => exact ⟨parseSessionFields_localSid hparse, hs.callArgs⟩
  -- the ICRQ or ICRP that was built had arguments in range
  | called _ hbuilt => exact ⟨hs.peerSid, fun _ => CallArgs.inRange_of_icrq hbuilt⟩
  | answered _ hparse hbuilt =>
    exact ⟨parseSessionFields_localSid hparse, fun _ => CallArgs.inRange_of_icrp hbuilt⟩
  | connected hstate hparse _ =>
    exact ⟨parseSessionFields_localSid hparse, fun _ => hs.callArgs (by simp [hstate])⟩
  | accepted hstate => exact ⟨hs.peerSid, fun _ => hs.callArgs (by simp [hstate])⟩
  | closed hstate _ => exact ⟨hs.peerSid, fun _ => hs.callArgs hstate⟩
  | dropped => exact ⟨hs.peerSid, fun hidle => absurd rfl hidle⟩

/-- A call that was started can be closed. -/
theorem Started.teardownCdn_eq (h : Started s) (hs : s.state ≠ .idle) (reason : SessionDownReason) :
    ∃ actions, teardownCdn reason s = (.ok actions, { s with state := .sendCdn }) := by
  have hbuilt : buildCdnAvps s.config.localSid s.peerSid ResultCode.generalError.code = .ok _ :=
    buildCdnAvps_ok_iff.mpr ⟨(h.callArgs hs).localSid, h.peerSid, by decide, rfl⟩
  exact ⟨_, by simp [teardownCdn, hbuilt, transition]; rfl⟩

/-- A teardown can build its CDN. -/
theorem teardownCdn_returns (h : Buildable s) (reason : SessionDownReason) :
    Returns (teardownCdn reason) s := by
  have hbuilt : buildCdnAvps s.config.localSid s.peerSid ResultCode.generalError.code = .ok _ :=
    buildCdnAvps_ok_iff.mpr ⟨h.callArgs.localSid, h.peerSid, by decide, rfl⟩
  exact ⟨_, by simp [teardownCdn, hbuilt, transition]; rfl⟩

/-- The initiator can build its ICRQ. -/
theorem onTunnelEstablished_returns (h : Buildable s) : Returns onTunnelEstablished s := by
  obtain ⟨avps, hbuilt⟩ := buildIcrqAvps_exists h.callArgs h.pseudowireType (some s.config.name)
    h.cookie
  cases hinit : s.config.initiator with
  | false => exact ⟨[], by simp [onTunnelEstablished, hinit]⟩
  | true =>
    by_cases hs : s.state = .idle
    · exact ⟨_, by simp [onTunnelEstablished, hinit, hs, hbuilt, transition]; rfl⟩
    · exact ⟨[], by simp [onTunnelEstablished, hinit, hs]⟩

/-- An ICRQ is answered, torn down or ignored; nothing raises. -/
theorem onIcrq_returns (h : Buildable s) (msg : ControlMessage) : Returns (onIcrq msg) s := by
  by_cases hs : s.state = .idle
  · have htry := tryValueError_of_only (parseSessionFields_onlyValueError msg.avps)
    -- an ICRQ that cannot be parsed is ignored
    cases hparse : parseSessionFields msg.avps with
    | error e =>
      rw [hparse] at htry
      exact ⟨[], by simp [onIcrq, hs, hparse, htry, Except.toOption]⟩
    | ok fields =>
      obtain ⟨avps, hbuilt⟩ := buildIcrpAvps_exists h.callArgs (parseSessionFields_localSid hparse)
        h.cookie
      exact ⟨_, by
        simp [onIcrq, hs, hparse, tryValueError, learnPeer, hbuilt, transition]; rfl⟩
  · have hrun : onIcrq msg s = teardownCdn .icrqInNonIdle s := by simp [onIcrq, hs]
    rw [Returns, hrun]
    exact teardownCdn_returns h _

/-- An ICRP is taken, torn down or ignored; nothing raises. -/
theorem onIcrp_returns (h : Buildable s) (msg : ControlMessage) : Returns (onIcrp msg) s := by
  by_cases hs : s.state = .waitSessionReply
  · have htry := tryValueError_of_only (parseSessionFields_onlyValueError msg.avps)
    -- an ICRP that cannot be parsed tears down
    cases hparse : parseSessionFields msg.avps with
    | error e =>
      have hrun : onIcrp msg s = teardownCdn .malformedIcrp s := by
        rw [hparse] at htry
        simp [onIcrp, hs, hparse, htry, Except.toOption]
      rw [Returns, hrun]
      exact teardownCdn_returns h _
    | ok fields =>
      obtain ⟨avps, hbuilt⟩ := buildIccnAvps_exists h.callArgs (parseSessionFields_localSid hparse)
      exact ⟨_, by
        simp [onIcrp, hs, hparse, tryValueError, learnPeer, hbuilt, transition]; rfl⟩
  · exact ⟨[], by simp [onIcrp, hs]⟩

/-- An ICCN is taken, torn down or ignored; nothing raises. -/
theorem onIccn_returns (h : Buildable s) (msg : ControlMessage) : Returns (onIccn msg) s := by
  by_cases hs : s.state = .waitSessionConnect
  · have htry := tryValueError_of_only (parseSessionFields_onlyValueError msg.avps)
    -- an ICCN that cannot be parsed tears down, and so does one of another session
    cases hparse : (parseSessionFields msg.avps).toOption with
    | none =>
      have hrun : onIccn msg s = teardownCdn .malformedIccn s := by
        simp [onIccn, hs, htry, hparse]
      rw [Returns, hrun]
      exact teardownCdn_returns h _
    | some fields =>
      by_cases hsid : fields.localSid = s.peerSid
      · exact ⟨_, by simp [onIccn, hs, htry, hparse, hsid, transition]; rfl⟩
      · have hrun : onIccn msg s = teardownCdn .iccnLocalSidMismatch s := by
          simp [onIccn, hs, htry, hparse, hsid]
        rw [Returns, hrun]
        exact teardownCdn_returns h _
  · exact ⟨[], by simp [onIccn, hs]⟩

/-- A result code that fits its field can be sent. -/
theorem onLocalClose_returns (h : Buildable s) {resultCode : Int}
    (hcode : 0 ≤ resultCode ∧ resultCode ≤ 0xFFFF) : Returns (onLocalClose resultCode) s := by
  by_cases hs : s.state = .idle ∨ s.state = .sendCdn
  · exact ⟨[], by simp [onLocalClose, hs]⟩
  · have hbuilt : buildCdnAvps s.config.localSid s.peerSid resultCode = .ok _ :=
      buildCdnAvps_ok_iff.mpr ⟨h.callArgs.localSid, h.peerSid, hcode, rfl⟩
    exact ⟨_, by simp [onLocalClose, hs, hbuilt, transition]; rfl⟩

/-- The end of the control connection needs no message. -/
theorem onTunnelDown_returns (s : SessionFSM) : Returns onTunnelDown s := by
  by_cases hs : s.state = .idle
  · exact ⟨[], by simp [onTunnelDown, hs]⟩
  · exact ⟨_, by simp [onTunnelDown, hs, transition]; rfl⟩

/-- **A machine whose messages can be built takes every message that has a readable type.** -/
theorem onMessage_returns (h : Buildable s) {msg : ControlMessage}
    (hmt : ∃ mt, getMessageType msg.avps = .ok mt) : Returns (onMessage msg) s := by
  obtain ⟨mt, hmt⟩ := hmt
  rw [Returns, onMessage, hmt, ofExcept_ok_bind_apply]
  -- ICRQ, ICRP, ICCN and CDN in turn
  split
  · exact onIcrq_returns h msg
  · split
    · exact onIcrp_returns h msg
    · split
      · exact onIccn_returns h msg
      · split
        · have htry := tryValueError_of_only (parseCdnFields_onlyValueError msg.avps)
          by_cases hs : s.state = .idle
          · exact ⟨[], by simp [onCdn, hs]⟩
          · exact ⟨_, by simp [onCdn, hs, htry, transition]; rfl⟩
        · exact ⟨[], rfl⟩

end SessionFSM

end L2tpv3d
