import L2tpv3d.Fsm.Session
import L2tpv3d.Wire.Builders

/-!
# L2tpv3d — everything a state machine can do

One inductive relation per machine lists the outcomes of its methods: the state it is left
in and the actions it returns, or the exception of a builder. The proofs about tunnels go by
cases on these relations and never look into the methods again.

* `TunnelFSM.Method m`, `SessionFSM.Method m` — every call of `m` has a listed outcome; each
  `on_*` method has this property.
* `TunnelFSM.Outcome.undigested`, `SessionFSM.Outcome.undigested` — no machine sends a
  digest AVP of its own.
-/

namespace L2tpv3d

open Py Prog

/-! ## The tunnel machine

One constructor for each way a method can end. Where a builder raises, the machine keeps what was
written before. -/

namespace TunnelFSM

/-- The machine with the identity of the peer captured. -/
def captured (s : TunnelFSM) (fields : SccrxFields) : TunnelFSM := (capturePeer fields s).2

/-- What a call of a method can do. -/
inductive Outcome (s : TunnelFSM) : Except Exn (List TunnelAction) → TunnelFSM → Prop where
  | ignored : Outcome s (.ok []) s
  | raised {e} : Outcome s (.error e) s
  /-- The SCCRP could not be built. -/
  | refused {fields e} : s.state = .idle → Outcome s (.error e) (s.captured fields)
  | opened {avps} : s.state = .idle → buildSccrqAvps s.config.sccrxArgs = .ok avps →
      Outcome s (.ok [.sendMessage avps]) { s with state := .waitCtlReply }
  | answered {fields avps} : s.state = .idle → buildSccrpAvps s.config.sccrxArgs = .ok avps →
      Outcome s (.ok [.sendMessage avps]) { s.captured fields with state := .waitCtlConn }
  | connected {fields} : s.state = .waitCtlReply →
      Outcome s (.ok [.sendMessage [messageTypeAvp .scccn], .setHelloTimer s.config.helloInterval,
        .established]) { s.captured fields with state := .established }
  | accepted : s.state = .waitCtlConn →
      Outcome s (.ok [.setHelloTimer s.config.helloInterval, .established])
        { s with state := .established }
  | kept : s.state = .established →
      Outcome s (.ok [.sendMessage [messageTypeAvp .hello], .setHelloTimer s.config.helloInterval]) s
  | stopped {resultCode avps reason} : s.state ≠ .idle →
      buildStopccnAvps s.config.localCcid resultCode = .ok avps →
      Outcome s (.ok (stopActions s.state avps reason)) { s with state := .sendStopccn }
  | dropped {reason} : s.state ≠ .idle →
      Outcome s (.ok (dropActions s.state reason)) { s with state := .idle }

/-- Every call of `m` has one of the outcomes. -/
def Method (m : Prog TunnelFSM (List TunnelAction)) : Prop := ∀ s, Outcome s (m s).1 (m s).2

/-- An open sends an SCCRQ from `IDLE`, and does nothing elsewhere. -/
theorem method_onLocalOpen : Method onLocalOpen := by
  intro s
  by_cases hs : s.state = .idle
  · cases havps : buildSccrqAvps s.config.sccrxArgs with
    | error e => simpa [onLocalOpen, hs, havps] using Outcome.raised
    | ok avps => simpa [onLocalOpen, hs, havps, transition] using Outcome.opened hs havps
  · simpa [onLocalOpen, hs] using Outcome.ignored

/-- A close sends a StopCCN, unless there is nothing to close or it was sent already. -/
theorem method_onLocalClose (resultCode : Int) : Method (onLocalClose resultCode) := by
  intro s
  by_cases hs : s.state = .idle ∨ s.state = .sendStopccn
  · simpa [onLocalClose, hs] using Outcome.ignored
  · cases havps : buildStopccnAvps s.config.localCcid resultCode with
    | error e => simpa [onLocalClose, hs, havps] using Outcome.raised
    | ok avps =>
      simpa [onLocalClose, hs, havps, transition] using
        Outcome.stopped (fun hi => hs (.inl hi)) havps

/-- The HELLO timer of a machine that is up sends a HELLO and is set again. -/
theorem method_onHelloTimer : Method onHelloTimer := by
  intro s
  by_cases hs : s.state = .established
  · simpa [onHelloTimer, hs, buildHelloAvps_eq] using Outcome.kept hs
  · simpa [onHelloTimer, hs] using Outcome.ignored

/-- A dead peer drops the control connection without a message. -/
theorem method_onPeerDead : Method onPeerDead := by
  intro s
  by_cases hs : s.state = .idle
  · simpa [onPeerDead, hs] using Outcome.ignored
  · simpa [onPeerDead, hs, transition] using Outcome.dropped hs

/-- A teardown after a fault stops the control connection, if a StopCCN can be built. -/
theorem outcome_teardown {s : TunnelFSM} (reason : TunnelDownReason) (hs : s.state ≠ .idle) :
    Outcome s (teardownAndNotify reason s).1 (teardownAndNotify reason s).2 := by
  cases havps : buildStopccnAvps s.config.localCcid ResultCode.generalError.code with
  | error e => simpa [teardownAndNotify, havps] using Outcome.raised
  | ok avps => simpa [teardownAndNotify, havps, transition] using Outcome.stopped hs havps

/-- An SCCRQ is answered in `IDLE` only. Elsewhere it is the sign of a peer that restarted, and the
machine tears down. -/
theorem method_onSccrq (msg : ControlMessage) : Method (onSccrq msg) := by
  intro s
  by_cases hs : s.state = .idle
  · have htry := tryValueError_of_only (parseSccrxFields_onlyValueError msg.avps)
    cases hparse : parseSccrxFields msg.avps with
    | error e =>
      rw [hparse] at htry
      simpa [onSccrq, hs, hparse, htry, Except.toOption] using Outcome.ignored
    | ok fields =>
      -- the identity of the peer is captured before the SCCRP is built
      cases havps : buildSccrpAvps s.config.sccrxArgs with
      | error e =>
        have hrun : onSccrq msg s = (.error e, s.captured fields) := by
          simp [onSccrq, hs, hparse, tryValueError, captured, capturePeer, havps]
        rw [hrun]
        exact .refused hs
      | ok avps =>
        have hrun : onSccrq msg s = (.ok [.sendMessage avps],
            { s.captured fields with state := .waitCtlConn }) := by
          simp [onSccrq, hs, hparse, tryValueError, captured, capturePeer, havps, transition]
        rw [hrun]
        exact .answered hs havps
  · have hrun : onSccrq msg s = teardownAndNotify .peerRestart s := by simp [onSccrq, hs]
    rw [hrun]
    exact outcome_teardown .peerRestart hs

/-- An SCCRP is the end of the handshake for the side that asked; one that cannot be parsed tears
down. -/
theorem method_onSccrp (msg : ControlMessage) : Method (onSccrp msg) := by
  intro s
  by_cases hs : s.state = .waitCtlReply
  · have htry := tryValueError_of_only (parseSccrxFields_onlyValueError msg.avps)
    cases hparse : parseSccrxFields msg.avps with
    | error e =>
      have hrun : onSccrp msg s = teardownAndNotify .malformedSccrp s := by
        rw [hparse] at htry
        simp [onSccrp, hs, hparse, htry, Except.toOption]
      rw [hrun]
      exact outcome_teardown .malformedSccrp (by simp [hs])
    | ok fields =>
      have hrun : onSccrp msg s = (.ok [.sendMessage [messageTypeAvp .scccn],
          .setHelloTimer s.config.helloInterval, .established],
          { s.captured fields with state := .established }) := by
        simp [onSccrp, hs, hparse, tryValueError, captured, capturePeer, buildScccnAvps_eq,
          transition]
      rw [hrun]
      exact .connected hs
  · simpa [onSccrp, hs] using Outcome.ignored

/-- An SCCCN is the end of the handshake for the side that answered. Nothing in it is read. -/
theorem method_onScccn (msg : ControlMessage) : Method (onScccn msg) := by
  intro s
  by_cases hs : s.state = .waitCtlConn
  · simpa [onScccn, hs, transition] using Outcome.accepted hs
  · simpa [onScccn, hs] using Outcome.ignored

/-- A StopCCN drops the control connection, whether it can be parsed or not. -/
theorem method_onStopccn (msg : ControlMessage) : Method (onStopccn msg) := by
  intro s
  by_cases hs : s.state = .idle
  · simpa [onStopccn, hs] using Outcome.ignored
  · have htry := tryValueError_of_only (parseStopccnFields_onlyValueError msg.avps)
    simpa [onStopccn, hs, htry, transition] using Outcome.dropped hs

/-- A message is handled by its type. One that is not for the tunnel, or has no type, is ignored. -/
theorem method_onMessage (msg : ControlMessage) : Method (onMessage msg) := by
  intro s
  unfold onMessage
  cases hmt : getMessageType msg.avps with
  | error e => exact .raised
  | ok mt =>
    rw [ofExcept_ok_bind_apply]
    -- in the order of the tests of the code: SCCRQ, SCCRP, SCCCN, HELLO, StopCCN
    split
    · exact method_onSccrq msg s
    · split
      · exact method_onSccrp msg s
      · split
        · exact method_onScccn msg s
        · split
          · exact .ignored
          · split
            · exact method_onStopccn msg s
            · exact .ignored

/-- The local events of the tunnel machine do not bring the tunnel up. -/
theorem local_state (s : TunnelFSM) :
    ((onLocalOpen s).2.state = .established → s.state = .established) ∧
    ((onLocalClose ResultCode.adminShutdown.code s).2.state = .established →
      s.state = .established) ∧
    ((onHelloTimer s).2.state = .established → s.state = .established) ∧
    (onPeerDead s).2.state = .idle := by
  -- open, close, HELLO timer, dead peer
  refine ⟨?_, ?_, ?_, ?_⟩
  · unfold onLocalOpen
    rw [get_bind_apply]
    split
    · exact id
    · cases buildSccrqAvps s.config.sccrxArgs <;> simp [transition]
  · unfold onLocalClose
    rw [get_bind_apply]
    split
    · exact id
    · cases buildStopccnAvps s.config.localCcid ResultCode.adminShutdown.code <;>
        simp [transition]
  · unfold onHelloTimer
    rw [get_bind_apply]
    split
    · exact id
    · simp [buildHelloAvps_eq]
  · unfold onPeerDead
    rw [get_bind_apply]
    split
    · rename_i hs
      exact hs
    · simp [transition]

section Outcome

variable {s s' : TunnelFSM} {r : Except Exn (List TunnelAction)}

/-- No call changes the configuration. -/
theorem Outcome.config_eq (h : Outcome s r s') : s'.config = s.config := by
  cases h <;> rfl

/-- No message of the machine has a digest AVP, so signing adds the only one. -/
theorem Outcome.undigested {actions : List TunnelAction} (h : Outcome s (.ok actions) s')
    {avps : List AVP} (hmem : .sendMessage avps ∈ actions) : Undigested avps := by
  have hsingle : ∀ mt, Undigested [messageTypeAvp mt] := fun mt => (singleton_regular mt).undigested
  cases h with
  | ignored => simp at hmem
  | opened _ hb =>
    obtain rfl : avps = _ := by simpa using hmem
    exact buildSccrxAvps_undigested hb
  | answered _ hb =>
    obtain rfl : avps = _ := by simpa using hmem
    exact buildSccrxAvps_undigested hb
  | connected _ =>
    obtain rfl : avps = _ := by simpa using hmem
    exact hsingle _
  | accepted _ => simp at hmem
  | kept _ =>
    obtain rfl : avps = _ := by simpa using hmem
    exact hsingle _
  -- the StopCCN comes first, whether or not the tunnel was up
  | stopped _ hb =>
    unfold stopActions at hmem
    obtain rfl : avps = _ := by split at hmem <;> simpa using hmem
    exact (buildStopccnAvps_regular hb).1.undigested
  | dropped _ =>
    unfold dropActions at hmem
    split at hmem <;> simp at hmem

/-- The type of what a machine sends: a HELLO leaves only a machine that is and stays up. -/
theorem Outcome.tagged {actions : List TunnelAction} (h : Outcome s (.ok actions) s')
    {avps : List AVP} (hmem : .sendMessage avps ∈ actions) :
    ∃ mt ∈ [MessageType.sccrq, .sccrp, .scccn, .hello, .stopccn], Tagged mt avps ∧
      (mt = .hello → s.state = .established ∧ s'.state = .established) := by
  cases h with
  | ignored => simp at hmem
  | opened _ hb =>
    obtain rfl : avps = _ := by simpa using hmem
    exact ⟨.sccrq, by simp, buildSccrxAvps_tagged hb, nofun⟩
  | answered _ hb =>
    obtain rfl : avps = _ := by simpa using hmem
    exact ⟨.sccrp, by simp, buildSccrxAvps_tagged hb, nofun⟩
  | connected _ =>
    obtain rfl : avps = _ := by simpa using hmem
    exact ⟨.scccn, by simp, rfl, nofun⟩
  | accepted _ => simp at hmem
  | kept hs =>
    obtain rfl : avps = _ := by simpa using hmem
    exact ⟨.hello, by simp, rfl, fun _ => ⟨hs, hs⟩⟩
  | stopped _ hb =>
    unfold stopActions at hmem
    obtain rfl : avps = _ := by split at hmem <;> simpa using hmem
    exact ⟨.stopccn, by simp, (buildStopccnAvps_regular hb).2, nofun⟩
  | dropped _ =>
    unfold dropActions at hmem
    split at hmem <;> simp at hmem

end Outcome

end TunnelFSM

/-! ## The session machine

The same for sessions. The actions of a teardown depend on whether the session was up, as only then
there is a kernel session to remove. -/

namespace SessionFSM

/-- The machine with the peer's session ID and cookie learned. -/
def learned (s : SessionFSM) (fields : SessionFields) : SessionFSM := (learnPeer fields s).2

/-- What a call of a method can do. -/
inductive Outcome (s : SessionFSM) : Except Exn (List SessionAction) → SessionFSM → Prop where
  | ignored : Outcome s (.ok []) s
  | raised {e} : Outcome s (.error e) s
  /-- The ICRP or ICCN could not be built. -/
  | refused {body fields e} : s.state = .idle ∨ s.state = .waitSessionReply →
      parseSessionFields body = .ok fields → Outcome s (.error e) (s.learned fields)
  | called {avps} : s.state = .idle →
      buildIcrqAvps s.config.callArgs s.config.pseudowireType (some s.config.name) s.config.cookie
        = .ok avps →
      Outcome s (.ok [.sendMessage avps]) { s with state := .waitSessionReply }
  | answered {body fields avps} : s.state = .idle → parseSessionFields body = .ok fields →
      buildIcrpAvps s.config.callArgs fields.localSid s.config.cookie = .ok avps →
      Outcome s (.ok [.sendMessage avps]) { s.learned fields with state := .waitSessionConnect }
  | connected {body fields avps} : s.state = .waitSessionReply →
      parseSessionFields body = .ok fields →
      buildIccnAvps s.config.callArgs fields.localSid = .ok avps →
      Outcome s (.ok [.sendMessage avps, .dataplaneAddSession (s.learned fields).dataplaneParams,
        .sessionEstablished]) { s.learned fields with state := .established }
  | accepted : s.state = .waitSessionConnect →
      Outcome s (.ok [.dataplaneAddSession s.dataplaneParams, .sessionEstablished])
        { s with state := .established }
  | closed {resultCode avps reason} : s.state ≠ .idle →
      buildCdnAvps s.config.localSid s.peerSid resultCode = .ok avps →
      Outcome s (.ok ([.sendMessage avps] ++ s.downActions reason)) { s with state := .sendCdn }
  | dropped {reason} : s.state ≠ .idle →
      Outcome s (.ok (s.downActions reason)) { s with state := .idle }

/-- Every call of `m` has one of the outcomes. -/
def Method (m : Prog SessionFSM (List SessionAction)) : Prop := ∀ s, Outcome s (m s).1 (m s).2

/-- A control connection that comes up makes an idle initiator call. -/
theorem method_onTunnelEstablished : Method onTunnelEstablished := by
  intro s
  cases hinit : s.config.initiator with
  | false => simpa [onTunnelEstablished, hinit] using Outcome.ignored
  | true =>
    by_cases hs : s.state = .idle
    · cases havps : buildIcrqAvps s.config.callArgs s.config.pseudowireType (some s.config.name)
        s.config.cookie with
      | error e => simpa [onTunnelEstablished, hinit, hs, havps] using Outcome.raised
      | ok avps =>
        simpa [onTunnelEstablished, hinit, hs, havps, transition] using Outcome.called hs havps
    · simpa [onTunnelEstablished, hinit, hs] using Outcome.ignored

/-- A close sends a CDN, unless there is nothing to close or it was sent already. -/
theorem method_onLocalClose (resultCode : Int) : Method (onLocalClose resultCode) := by
  intro s
  by_cases hs : s.state = .idle ∨ s.state = .sendCdn
  · simpa [onLocalClose, hs] using Outcome.ignored
  · cases havps : buildCdnAvps s.config.localSid s.peerSid resultCode with
    | error e => simpa [onLocalClose, hs, havps] using Outcome.raised
    | ok avps =>
      simpa [onLocalClose, hs, havps, transition] using
        Outcome.closed (fun hi => hs (.inl hi)) havps

/-- The end of the control connection drops the session. -/
theorem method_onTunnelDown : Method onTunnelDown := by
  intro s
  by_cases hs : s.state = .idle
  · simpa [onTunnelDown, hs] using Outcome.ignored
  · simpa [onTunnelDown, hs, transition] using Outcome.dropped hs

/-- A teardown after a fault closes the session, if a CDN can be built. -/
theorem outcome_teardown {s : SessionFSM} (reason : SessionDownReason) (hs : s.state ≠ .idle) :
    Outcome s (teardownCdn reason s).1 (teardownCdn reason s).2 := by
  cases havps : buildCdnAvps s.config.localSid s.peerSid ResultCode.generalError.code with
  | error e => simpa [teardownCdn, havps] using Outcome.raised
  | ok avps => simpa [teardownCdn, havps, transition] using Outcome.closed hs havps

/-- An ICRQ is answered in `IDLE` only. Elsewhere the session is torn down. -/
theorem method_onIcrq (msg : ControlMessage) : Method (onIcrq msg) := by
  intro s
  by_cases hs : s.state = .idle
  · have htry := tryValueError_of_only (parseSessionFields_onlyValueError msg.avps)
    cases hparse : parseSessionFields msg.avps with
    | error e =>
      rw [hparse] at htry
      simpa [onIcrq, hs, hparse, htry, Except.toOption] using Outcome.ignored
    | ok fields =>
      -- the peer is learned before the ICRP is built
      cases havps : buildIcrpAvps s.config.callArgs fields.localSid s.config.cookie with
      | error e =>
        have hrun : onIcrq msg s = (.error e, s.learned fields) := by
          simp [onIcrq, hs, hparse, tryValueError, learned, learnPeer, havps]
        rw [hrun]
        exact .refused (.inl hs) hparse
      | ok avps =>
        have hrun : onIcrq msg s = (.ok [.sendMessage avps],
            { s.learned fields with state := .waitSessionConnect }) := by
          simp [onIcrq, hs, hparse, tryValueError, learned, learnPeer, havps, transition]
        rw [hrun]
        exact .answered hs hparse havps
  · have hrun : onIcrq msg s = teardownCdn .icrqInNonIdle s := by simp [onIcrq, hs]
    rw [hrun]
    exact outcome_teardown .icrqInNonIdle hs

/-- An ICRP is the end of the handshake for the session that called; one that cannot be parsed tears
down. -/
theorem method_onIcrp (msg : ControlMessage) : Method (onIcrp msg) := by
  intro s
  by_cases hs : s.state = .waitSessionReply
  · have htry := tryValueError_of_only (parseSessionFields_onlyValueError msg.avps)
    cases hparse : parseSessionFields msg.avps with
    | error e =>
      have hrun : onIcrp msg s = teardownCdn .malformedIcrp s := by
        rw [hparse] at htry
        simp [onIcrp, hs, hparse, htry, Except.toOption]
      rw [hrun]
      exact outcome_teardown .malformedIcrp (by simp [hs])
    | ok fields =>
      -- the peer is learned before the ICCN is built
      cases havps : buildIccnAvps s.config.callArgs fields.localSid with
      | error e =>
        have hrun : onIcrp msg s = (.error e, s.learned fields) := by
          simp [onIcrp, hs, hparse, tryValueError, learned, learnPeer, havps]
        rw [hrun]
        exact .refused (.inr hs) hparse
      | ok avps =>
        have hrun : onIcrp msg s = (.ok [.sendMessage avps,
            .dataplaneAddSession (s.learned fields).dataplaneParams, .sessionEstablished],
            { s.learned fields with state := .established }) := by
          simp [onIcrp, hs, hparse, tryValueError, learned, learnPeer, havps, transition]
        rw [hrun]
        exact .connected hs hparse havps
  · simpa [onIcrp, hs] using Outcome.ignored

/-- An ICCN is the end of the handshake for the session that was called, if it is from the session
that called. -/
theorem method_onIccn (msg : ControlMessage) : Method (onIccn msg) := by
  intro s
  by_cases hs : s.state = .waitSessionConnect
  · have htry := tryValueError_of_only (parseSessionFields_onlyValueError msg.avps)
    cases hparse : parseSessionFields msg.avps with
    | error e =>
      have hrun : onIccn msg s = teardownCdn .malformedIccn s := by
        rw [hparse] at htry
        simp [onIccn, hs, hparse, htry, Except.toOption]
      rw [hrun]
      exact outcome_teardown .malformedIccn (by simp [hs])
    | ok fields =>
      -- another session ID than the one in the ICRQ tears down
      by_cases hsid : fields.localSid = s.peerSid
      · simpa [onIccn, hs, hparse, tryValueError, hsid, transition] using Outcome.accepted hs
      · have hrun : onIccn msg s = teardownCdn .iccnLocalSidMismatch s := by
          simp [onIccn, hs, hparse, tryValueError, hsid]
        rw [hrun]
        exact outcome_teardown .iccnLocalSidMismatch (by simp [hs])
  · simpa [onIccn, hs] using Outcome.ignored

/-- A CDN drops the session, whether it can be parsed or not. -/
theorem method_onCdn (msg : ControlMessage) : Method (onCdn msg) := by
  intro s
  by_cases hs : s.state = .idle
  · simpa [onCdn, hs] using Outcome.ignored
  · have htry := tryValueError_of_only (parseCdnFields_onlyValueError msg.avps)
    simpa [onCdn, hs, htry, transition] using Outcome.dropped hs

/-- A message is handled by its type. One that is not for a session, or has no type, is ignored. -/
theorem method_onMessage (msg : ControlMessage) : Method (onMessage msg) := by
  intro s
  unfold onMessage
  cases hmt : getMessageType msg.avps with
  | error e => exact .raised
  | ok mt =>
    rw [ofExcept_ok_bind_apply]
    -- in the order of the tests of the code: ICRQ, ICRP, ICCN, CDN
    split
    · exact method_onIcrq msg s
    · split
      · exact method_onIcrp msg s
      · split
        · exact method_onIccn msg s
        · split
          · exact method_onCdn msg s
          · exact .ignored

section Outcome

variable {s s' : SessionFSM} {r : Except Exn (List SessionAction)}

/-- No call changes the configuration. -/
theorem Outcome.config_eq (h : Outcome s r s') : s'.config = s.config := by
  cases h <;> rfl

/-- A session that goes down sends nothing by that itself. -/
theorem mem_downActions {avps : List AVP} {reason : SessionDownReason} :
    ¬ .sendMessage avps ∈ s.downActions reason := by
  unfold downActions
  split <;> simp

/-- What a machine sends: messages that fit, but for an ICRQ whose name does not. -/
theorem Outcome.sent {actions : List SessionAction} (h : Outcome s (.ok actions) s')
    {avps : List AVP} (hmem : .sendMessage avps ∈ actions) :
    Undigested avps ∧ (s.state ≠ .idle ∨ (utf8 s.config.name).length ≤ 1017 → Regular avps) := by
  have hreg : Regular avps → Undigested avps ∧
      (s.state ≠ .idle ∨ (utf8 s.config.name).length ≤ 1017 → Regular avps) :=
    fun hr => ⟨hr.undigested, fun _ => hr⟩
  cases h with
  | ignored => simp at hmem
  -- the name of the session is the Remote End ID of its ICRQ
  | called hs hb =>
    obtain rfl : avps = _ := by simpa using hmem
    refine ⟨buildIcrqAvps_undigested hb, fun hname => (buildIcrqAvps_regular hb).2 ?_⟩
    rintro n ⟨⟩
    exact hname.resolve_left (absurd hs)
  | answered _ _ hb =>
    obtain rfl : avps = _ := by simpa using hmem
    exact hreg (buildIcrpAvps_regular hb).1
  | connected _ _ hb =>
    obtain rfl : avps = _ := by simpa using hmem
    exact hreg (buildIccnAvps_regular hb).1
  | accepted _ => simp at hmem
  | closed _ hb =>
    obtain rfl : avps = _ := by simpa [mem_downActions] using hmem
    exact hreg (buildCdnAvps_regular hb).1
  | dropped _ => exact absurd hmem mem_downActions

/-- The type of what a machine sends. -/
theorem Outcome.tagged {actions : List SessionAction} (h : Outcome s (.ok actions) s')
    {avps : List AVP} (hmem : .sendMessage avps ∈ actions) :
    ∃ mt ∈ [MessageType.icrq, .icrp, .iccn, .cdn], Tagged mt avps := by
  cases h with
  | ignored => simp at hmem
  | called _ hb =>
    obtain rfl : avps = _ := by simpa using hmem
    exact ⟨.icrq, by simp, (buildIcrqAvps_regular hb).1⟩
  | answered _ _ hb =>
    obtain rfl : avps = _ := by simpa using hmem
    exact ⟨.icrp, by simp, (buildIcrpAvps_regular hb).2⟩
  | connected _ _ hb =>
    obtain rfl : avps = _ := by simpa using hmem
    exact ⟨.iccn, by simp, (buildIccnAvps_regular hb).2⟩
  | accepted _ => simp at hmem
  | closed _ hb =>
    obtain rfl : avps = _ := by simpa [mem_downActions] using hmem
    exact ⟨.cdn, by simp, (buildCdnAvps_regular hb).2⟩
  | dropped _ => exact absurd hmem mem_downActions

end Outcome

end SessionFSM

end L2tpv3d
