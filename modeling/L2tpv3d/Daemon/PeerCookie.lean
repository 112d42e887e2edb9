import L2tpv3d.Daemon.Speech
import L2tpv3d.Fsm.Moves

/-!
# L2tpv3d — the cookie of the peer

`_dataplane_params` asks for the cookie that the peer assigned in the handshake, or else for the
configured one. But what one handshake taught stays in `peer_cookie_learned` when the session is
torn down, and to `or` an empty cookie is the same as none.

* `History` — a session machine, with the ICRQs and ICRPs that it took so far.
* `Follows` — a request for the kernel session goes by the message of its handshake.
* `Turn` — what a call does to what is learned and what is requested.
* **`peerCookies_iff`** — all requests of a run follow their handshakes if and only if the run
  has no call that is `Astray`.
-/

namespace L2tpv3d

open Py Prog

namespace PeerCookie

open SessionFSM Speech

/-! ## What the peer assigned

The history keeps the messages that the session took, next to its machine. Whether a cookie is the
peer's is told from these messages alone, and not from what the machine remembers. -/

/-- The Assigned Cookie that a message carries. -/
def carried (msg : ControlMessage) : Option Bytes :=
  (findAvp msg.avps .assignedCookie).map AVP.value

/-- The ICRQ that an idle session takes, or the ICRP that a session takes that waits for one. -/
def takes (s : SessionFSM) : SessionCall → Option ControlMessage
  | .message msg =>
    if ((getMessageType msg.avps = .ok (some MessageType.icrq.code) ∧ s.state = .idle) ∨
        (getMessageType msg.avps = .ok (some MessageType.icrp.code) ∧
          s.state = .waitSessionReply)) ∧
        (parseSessionFields msg.avps).isOk = true then some msg
    else none
  | _ => none

/-- A session machine, with the ICRQs and ICRPs that it took, the last one first. -/
structure History where
  fsm : SessionFSM
  taken : List ControlMessage := []

/-- A call, and the message it took if it took one. -/
def History.step (h : History) (call : SessionCall) : History where
  fsm := (call.run h.fsm).2
  taken := (takes h.fsm call).toList ++ h.taken

/-- The machine of a session after a list of calls. -/
def after (config : SessionConfig) (calls : List SessionCall) : History :=
  calls.foldl History.step { fsm := { config } }

/-- **The peer's cookie is the one of the handshake**: what its ICRQ or ICRP assigned, an empty
cookie being none, or the configured one if it assigned none. -/
def Follows (config : SessionConfig) (msg : ControlMessage) (params : SessionParams) : Prop :=
  match carried msg with
  | some cookie => (cookie.length = 0 ∨ cookie.length = 4 ∨ cookie.length = 8) ∧
      params.peerCookie.getD [] = cookie
  | none => params.peerCookie = config.peerCookie

instance (config : SessionConfig) (msg : ControlMessage) (params : SessionParams) :
    Decidable (Follows config msg params) := by
  unfold Follows
  split <;> infer_instance

/-- A call completes the handshake: the ICRP of an initiator that can confirm it, or the ICCN of
the peer whose ICRQ a responder answered. -/
def Completes (s : SessionFSM) : SessionCall → Prop
  | .message msg => ∃ fields, parseSessionFields msg.avps = .ok fields ∧
      ((getMessageType msg.avps = .ok (some MessageType.icrp.code) ∧ s.state = .waitSessionReply ∧
        ∃ avps, buildIccnAvps s.config.callArgs fields.localSid = .ok avps) ∨
      (getMessageType msg.avps = .ok (some MessageType.iccn.code) ∧
        s.state = .waitSessionConnect ∧ fields.localSid = s.peerSid))
  | _ => False

/-- The handshake assigned the empty cookie, and a cookie is configured. -/
def Emptied (config : SessionConfig) (msg : ControlMessage) : Prop :=
  carried msg = some [] ∧ ∃ cookie, config.peerCookie = some cookie ∧ cookie ≠ []

/-- The handshake assigned no cookie, and the last message before it that did assigned another
than the configured one. -/
def Stale (config : SessionConfig) (msg : ControlMessage) (earlier : List ControlMessage) : Prop :=
  carried msg = none ∧ ∃ cookie, earlier.findSome? carried = some cookie ∧ cookie ≠ [] ∧
    config.peerCookie ≠ some cookie

/-- The call completes a handshake whose cookie is not the one that is asked for. -/
def Astray (h : History) (call : SessionCall) : Prop :=
  Completes h.fsm call ∧ ∃ msg earlier, (h.step call).taken = msg :: earlier ∧
    (Emptied h.fsm.config msg ∨ Stale h.fsm.config msg earlier)

/-- A cookie that decodes is the value of its AVP and has one of the three lengths. -/
theorem decodeAssignedCookie_ok {avp : AVP} {cookie : Bytes}
    (h : decodeAssignedCookie avp = .ok cookie) :
    avp.value = cookie ∧ (cookie.length = 0 ∨ cookie.length = 4 ∨ cookie.length = 8) := by
  simp only [decodeAssignedCookie, bind_eq_ok, raiseIf_eq_ok, pure_eq_ok, Except.ok.injEq] at h
  obtain ⟨-, -, -, hlen, rfl⟩ := h
  exact ⟨rfl, by omega⟩

/-- The cookie that is parsed is the one that the message carries. -/
theorem carried_of_parse {msg : ControlMessage} {fields : SessionFields}
    (h : parseSessionFields msg.avps = .ok fields) :
    fields.assignedCookie = carried msg ∧ ∀ cookie, carried msg = some cookie →
      cookie.length = 0 ∨ cookie.length = 4 ∨ cookie.length = 8 := by
  simp only [parseSessionFields, bind_eq_ok, pure_eq_ok, Except.ok.injEq] at h
  obtain ⟨-, -, -, -, -, -, -, -, -, -, -, -, -, -, cookie, hcookie, -, -, -, -, -, -, rfl⟩ := h
  unfold carried
  cases hfind : findAvp msg.avps .assignedCookie with
  | none =>
    rw [hfind] at hcookie
    cases hcookie
    exact ⟨rfl, by simp⟩
  | some avp =>
    rw [hfind] at hcookie
    simp only [decodeIfPresent, bind_eq_ok, pure_eq_ok, Except.ok.injEq] at hcookie
    obtain ⟨value, hdec, rfl⟩ := hcookie
    obtain ⟨rfl, hlen⟩ := decodeAssignedCookie_ok hdec
    exact ⟨rfl, by rintro _ ⟨⟩; exact hlen⟩

/-! ## What a call teaches and requests

A call takes at most one message and requests at most one kernel session. The two are told apart by
`Turn`, with one lemma for each message that a session can take. -/

/-- **What a call can do.** Only a message that is taken teaches a cookie, and only the call that
completes a handshake requests anything. -/
inductive Turn (s : SessionFSM) (call : SessionCall) : Prop where
  | quiet : takes s call = none → ¬ Completes s call → Quiet s (call.run s) → Turn s call
  /-- An ICRQ that is answered, or a reply that cannot be. -/
  | taught {msg} : takes s call = some msg → ¬ Completes s call →
      requested (call.run s).1 = [] →
      (call.run s).2.peerCookieLearned = (carried msg).or s.peerCookieLearned → Turn s call
  | connected {msg fields} : takes s call = some msg → Completes s call →
      parseSessionFields msg.avps = .ok fields →
      requested (call.run s).1 = [(s.learned fields).dataplaneParams] →
      (call.run s).2 = { s.learned fields with state := .established } → Turn s call
  | accepted : takes s call = none → Completes s call → s.state = .waitSessionConnect →
      requested (call.run s).1 = [s.dataplaneParams] →
      (call.run s).2 = { s with state := .established } → Turn s call

section Turn

variable (s : SessionFSM) {msg : ControlMessage}

/-- The cookie learned is the one the message carries, or else the one learned before. -/
theorem learned_cookie {fields : SessionFields} (h : parseSessionFields msg.avps = .ok fields) :
    (s.learned fields).peerCookieLearned = (carried msg).or s.peerCookieLearned := by
  rw [← (carried_of_parse h).1]
  cases hcookie : fields.assignedCookie <;> simp [learned, learnPeer, hcookie]

/-- An ICRQ is taken in IDLE when it can be parsed; otherwise it teaches nothing. -/
theorem turn_icrq (hmt : getMessageType msg.avps = .ok (some MessageType.icrq.code)) :
    Turn s (.message msg) := by
  have hrun : onMessage msg s = onIcrq msg s := by simp [onMessage, hmt]
  have hne : MessageType.icrq.code ≠ MessageType.icrp.code ∧
    MessageType.icrq.code ≠ MessageType.iccn.code := by decide
  have hno : ¬ Completes s (.message msg) := by simp [Completes, hmt, hne]
  -- outside IDLE the session is torn down with a CDN
  by_cases hs : s.state = .idle
  · cases hparse : parseSessionFields msg.avps with
    | error e =>
      refine .quiet (by simp [takes, hparse, Except.isOk, Except.toBool]) hno ?_
      have htry := tryValueError_of_only (parseSessionFields_onlyValueError msg.avps)
      rw [hparse] at htry
      show Quiet s (onMessage msg s)
      rw [hrun]
      simpa [onIcrq, hs, hparse, htry, Except.toOption] using quiet_nil s
    | ok fields =>
      have htakes : takes s (.message msg) = some msg := by
        simp [takes, hmt, hs, hparse, Except.isOk, Except.toBool]
      rcases onMessage_icrq s hmt hparse hs with ⟨e, -, hmsg⟩ | ⟨avps, -, hmsg⟩
      all_goals
        refine .taught htakes hno ?_ ?_
        · rw [SessionCall.run, hmsg]
          rfl
        · rw [SessionCall.run, hmsg]
          exact learned_cookie s hparse
  · refine .quiet (by simp [takes, hmt, hs, hne]) hno ?_
    show Quiet s (onMessage msg s)
    rw [hrun]
    simpa [onIcrq, hs] using quiet_teardownCdn s .icrqInNonIdle

/-- An ICRP completes the handshake of a caller, when the ICCN can be written. -/
theorem turn_icrp (hmt : getMessageType msg.avps = .ok (some MessageType.icrp.code)) :
    Turn s (.message msg) := by
  have hne : MessageType.icrp.code ≠ MessageType.icrq.code ∧
    MessageType.icrp.code ≠ MessageType.iccn.code := by decide
  have hrun : onMessage msg s = onIcrp msg s := by simp [onMessage, hmt, hne]
  by_cases hs : s.state = .waitSessionReply
  · cases hparse : parseSessionFields msg.avps with
    | error e =>
      refine .quiet (by simp [takes, hparse, Except.isOk, Except.toBool]) ?_ ?_
      · simp [Completes, hparse]
      · have htry := tryValueError_of_only (parseSessionFields_onlyValueError msg.avps)
        rw [hparse] at htry
        show Quiet s (onMessage msg s)
        rw [hrun]
        simpa [onIcrp, hs, hparse, htry, Except.toOption] using quiet_teardownCdn s .malformedIcrp
    | ok fields =>
      have htakes : takes s (.message msg) = some msg := by
        simp [takes, hmt, hs, hparse, Except.isOk, Except.toBool]
      -- the ICCN cannot be written, or goes out with the request of the kernel session
      rcases onMessage_icrp s hmt hparse with ⟨hno, -⟩ | ⟨-, e, hbuilt, hmsg⟩ | ⟨-, avps, hbuilt, hmsg⟩
      · exact absurd hs hno
      · refine .taught htakes (by simp [Completes, hmt, hne, hs, hparse, hbuilt]) ?_ ?_
        · rw [SessionCall.run, hmsg]
          rfl
        · rw [SessionCall.run, hmsg]
          exact learned_cookie s hparse
      · refine .connected htakes ⟨fields, hparse, .inl ⟨hmt, hs, avps, hbuilt⟩⟩ hparse ?_ ?_
        · rw [SessionCall.run, hmsg]
          rfl
        · rw [SessionCall.run, hmsg]
  · refine .quiet (by simp [takes, hmt, hs, hne]) (by simp [Completes, hmt, hs, hne]) ?_
    show Quiet s (onMessage msg s)
    rw [hrun]
    simpa [onIcrp, hs] using quiet_nil s

/-- An ICCN completes the handshake of a responder, when it names the session of the ICRQ. -/
theorem turn_iccn (hmt : getMessageType msg.avps = .ok (some MessageType.iccn.code)) :
    Turn s (.message msg) := by
  have hne : MessageType.iccn.code ≠ MessageType.icrq.code ∧
    MessageType.iccn.code ≠ MessageType.icrp.code := by decide
  have hrun : onMessage msg s = onIccn msg s := by simp [onMessage, hmt, hne]
  have htakes : takes s (.message msg) = none := by simp [takes, hmt, hne]
  by_cases hs : s.state = .waitSessionConnect
  · cases hparse : parseSessionFields msg.avps with
    | error e =>
      refine .quiet htakes (by simp [Completes, hparse]) ?_
      have htry := tryValueError_of_only (parseSessionFields_onlyValueError msg.avps)
      rw [hparse] at htry
      show Quiet s (onMessage msg s)
      rw [hrun]
      simpa [onIccn, hs, hparse, htry, Except.toOption] using quiet_teardownCdn s .malformedIccn
    | ok fields =>
      -- the Session ID of the ICCN is compared with the one of the ICRQ
      rcases onMessage_iccn s hmt hparse with ⟨hno, -⟩ | ⟨-, hsid, hmsg⟩ | ⟨-, hsid, hmsg⟩
      · exact absurd hs hno
      · refine .accepted htakes ⟨fields, hparse, .inr ⟨hmt, hs, hsid⟩⟩ hs ?_ ?_
        · rw [SessionCall.run, hmsg]
          rfl
        · rw [SessionCall.run, hmsg]
      · refine .quiet htakes (by simp [Completes, hmt, hne, hs, hparse, hsid]) ?_
        show Quiet s (onMessage msg s)
        rw [hmsg]
        exact quiet_teardownCdn s .iccnLocalSidMismatch
  · refine .quiet htakes (by simp [Completes, hmt, hs, hne]) ?_
    show Quiet s (onMessage msg s)
    rw [hrun]
    simpa [onIccn, hs] using quiet_nil s

/-- Every call. -/
theorem turn (call : SessionCall) : Turn s call := by
  cases call with
  | tunnelEstablished => exact .quiet rfl id (quiet_onTunnelEstablished s)
  | localClose resultCode => exact .quiet rfl id (quiet_onLocalClose s resultCode)
  | tunnelDown => exact .quiet rfl id (quiet_onTunnelDown s)
  | message msg =>
    by_cases hicrq : getMessageType msg.avps = .ok (some MessageType.icrq.code)
    · exact turn_icrq s hicrq
    · by_cases hicrp : getMessageType msg.avps = .ok (some MessageType.icrp.code)
      · exact turn_icrp s hicrp
      · by_cases hiccn : getMessageType msg.avps = .ok (some MessageType.iccn.code)
        · exact turn_iccn s hiccn
        · -- a CDN, or a message that is ignored
          refine .quiet (by simp [takes, hicrq, hicrp]) (by simp [Completes, hicrp, hiccn]) ?_
          show Quiet s (onMessage msg s)
          cases hmt : getMessageType msg.avps with
          | error e => simpa [onMessage, hmt] using quiet_error s e
          | ok mt =>
            simp only [hmt, Except.ok.injEq] at hicrq hicrp hiccn
            simp only [onMessage, hmt, ofExcept_ok_bind_apply, if_neg hicrq, if_neg hicrp,
              if_neg hiccn]
            split
            · exact quiet_onCdn s msg
            · exact quiet_nil s

end Turn

/-! ## Runs

The machine remembers the last cookie that it was taught, which `Kept` compares with the history. So
the cookie that is asked for is wrong in two ways only: an empty cookie that was assigned counts as
none, and a cookie of an earlier handshake counts as one of this. -/

/-- A message that is taken is one that parses. -/
theorem parsed_of_takes {s : SessionFSM} {call : SessionCall} {msg : ControlMessage}
    (h : takes s call = some msg) : ∃ fields, parseSessionFields msg.avps = .ok fields := by
  cases call with
  | message m =>
    simp only [takes, Option.ite_none_right_eq_some, Option.some.injEq] at h
    obtain ⟨⟨-, hparse⟩, rfl⟩ := h
    cases hfields : parseSessionFields m.avps with
    | error e => simp [hfields, Except.isOk, Except.toBool] at hparse
    | ok fields => exact ⟨fields, rfl⟩
  | _ => cases h

/-- What holds of a machine and the messages it took, all along a run. -/
structure Kept (config : SessionConfig) (h : History) : Prop where
  config : h.fsm.config = config
  learned : h.fsm.peerCookieLearned = h.taken.findSome? carried
  parsed : ∀ msg ∈ h.taken, ∃ fields, parseSessionFields msg.avps = .ok fields
  /-- Who waits for an ICCN took an ICRQ. -/
  waiting : h.fsm.state = .waitSessionConnect → h.taken ≠ []

/-- The latest cookie among the messages taken, newest first. -/
theorem findSome?_carried (msg : ControlMessage) (earlier : List ControlMessage) :
    (msg :: earlier).findSome? carried = (carried msg).or (earlier.findSome? carried) := by
  rw [List.findSome?_cons]
  cases carried msg <;> rfl

section Kept

variable {config : SessionConfig} {h : History}

theorem Kept.step (hk : Kept config h) (call : SessionCall) : Kept config (h.step call) := by
  have hconfig : (h.step call).fsm.config = config :=
    (call.method h.fsm).config_eq.trans hk.config
  have hparsed : ∀ msg ∈ (h.step call).taken, ∃ fields, parseSessionFields msg.avps = .ok fields := by
    intro msg hmem
    rcases List.mem_append.mp hmem with hnew | hold
    · exact parsed_of_takes (by simpa using hnew)
    · exact hk.parsed msg hold
  -- a message that was taken is the first of the list
  have htaught : ∀ {msg}, takes h.fsm call = some msg →
      (call.run h.fsm).2.peerCookieLearned = (carried msg).or h.fsm.peerCookieLearned →
      Kept config (h.step call) := by
    intro msg htakes hlearned
    have htaken : (h.step call).taken = msg :: h.taken := by simp [History.step, htakes]
    refine ⟨hconfig, ?_, hparsed, fun _ => by simp [htaken]⟩
    rw [htaken, findSome?_carried, ← hk.learned]
    exact hlearned
  cases turn h.fsm call with
  | quiet htakes _ hquiet =>
    have htaken : (h.step call).taken = h.taken := by simp [History.step, htakes]
    refine ⟨hconfig, ?_, hparsed, fun hs => ?_⟩
    · rw [htaken, ← hk.learned]
      exact hquiet.learned
    · rw [htaken]
      exact hk.waiting (hquiet.waiting hs)
  | taught htakes _ _ hlearned => exact htaught htakes hlearned
  | connected htakes _ hparse _ hnext =>
    refine htaught htakes ?_
    rw [hnext]
    exact learned_cookie h.fsm hparse
  -- an ICCN is not taken, and only moves the state
  | accepted htakes _ _ _ hnext =>
    have htaken : (h.step call).taken = h.taken := by simp [History.step, htakes]
    have hfsm : (h.step call).fsm = { h.fsm with state := .established } := hnext
    refine ⟨hconfig, ?_, hparsed, fun hs => ?_⟩
    · rw [htaken, ← hk.learned, hfsm]
    · rw [hfsm] at hs
      cases hs

/-- Every run of calls, by induction on its end. -/
theorem kept_after (config : SessionConfig) (calls : List SessionCall) :
    Kept config (after config calls) := by
  induction calls using List.reverseRecOn with
  | nil => exact ⟨rfl, rfl, nofun, nofun⟩
  | append_singleton calls call ih =>
    rw [after, List.foldl_append]
    exact ih.step call

/-- The cookie asked for is the one of the message `msg`, unless that assigned an empty one where
one is configured, or none where an earlier message assigned another. -/
theorem follows_iff {msg : ControlMessage} {earlier : List ControlMessage} {params : SessionParams}
    (hparse : ∃ fields, parseSessionFields msg.avps = .ok fields)
    (hparams : params.peerCookie =
      orElseNonempty ((msg :: earlier).findSome? carried) config.peerCookie) :
    Follows config msg params ↔ ¬ (Emptied config msg ∨ Stale config msg earlier) := by
  obtain ⟨fields, hfields⟩ := hparse
  have hlen := (carried_of_parse hfields).2
  rw [findSome?_carried] at hparams
  unfold Follows Emptied Stale
  cases hcarried : carried msg with
  | some cookie =>
    rw [hcarried] at hparams
    cases cookie with
    | nil =>
      -- the empty cookie gives way to the configured one
      have hpeer : params.peerCookie = config.peerCookie := hparams
      cases hconfig : config.peerCookie <;> simp [hpeer, hconfig]
    | cons b bs =>
      have hpeer : params.peerCookie = some (b :: bs) := hparams
      simpa [hpeer] using hlen _ hcarried
  | none =>
    rw [hcarried, Option.none_or] at hparams
    cases hearlier : earlier.findSome? carried with
    | none => simp [hparams, hearlier, orElseNonempty]
    | some cookie =>
      rw [hearlier] at hparams
      cases cookie with
      | nil => simp [hparams, orElseNonempty]
      | cons b bs => simp [hparams, orElseNonempty, eq_comm]

/-- A call requests sessions that follow the handshake, if and only if it does not go astray. -/
theorem Kept.follows_iff (hk : Kept config h) (call : SessionCall) :
    (∀ params ∈ requested (call.run h.fsm).1, ∃ msg earlier,
      (h.step call).taken = msg :: earlier ∧ Follows config msg params) ↔ ¬ Astray h call := by
  have hnext := hk.step call
  -- the one request of a call that completes a handshake
  have hone : ∀ {params}, Completes h.fsm call → requested (call.run h.fsm).1 = [params] →
      params.peerCookie =
        orElseNonempty (h.step call).fsm.peerCookieLearned h.fsm.config.peerCookie →
      (h.step call).taken ≠ [] →
      ((∀ params ∈ requested (call.run h.fsm).1, ∃ msg earlier,
        (h.step call).taken = msg :: earlier ∧ Follows config msg params) ↔ ¬ Astray h call) := by
    intro params hcompletes hreq hparams hne
    obtain ⟨msg, earlier, htaken⟩ := List.exists_cons_of_ne_nil hne
    rw [hnext.learned, htaken, hk.config] at hparams
    have hparse := hnext.parsed msg (by simp [htaken])
    have hiff := PeerCookie.follows_iff hparse hparams
    simp only [hreq, List.mem_singleton, forall_eq, htaken, List.cons.injEq, Astray, hcompletes,
      true_and, hk.config]
    constructor
    · rintro ⟨_, _, ⟨rfl, rfl⟩, hfollows⟩ ⟨_, _, ⟨rfl, rfl⟩, hastray⟩
      exact hiff.mp hfollows hastray
    · intro hno
      exact ⟨msg, earlier, ⟨rfl, rfl⟩, hiff.mpr fun hastray => hno ⟨msg, earlier, ⟨rfl, rfl⟩, hastray⟩⟩
  -- only the last two kinds of call request a session
  cases turn h.fsm call with
  | quiet _ hno hquiet => simp [hquiet.requested, Astray, hno]
  | taught _ hno hreq _ => simp [hreq, Astray, hno]
  | connected htakes hcompletes _ hreq hfsm =>
    refine hone hcompletes hreq ?_ (by simp [History.step, htakes])
    simp [History.step, hfsm, dataplaneParams]
  | accepted htakes hcompletes hs hreq hfsm =>
    refine hone hcompletes hreq ?_ ?_
    · simp [History.step, hfsm, dataplaneParams]
    · simpa [History.step, htakes] using hk.waiting hs

end Kept

/-- **When the peer's cookie is the one of the handshake.** In a run of a session machine, every
kernel session that is asked for follows the handshake that was just completed, if and only if no
call of the run completes one that assigned an empty cookie where one is configured, or none where
an earlier handshake left another. -/
theorem peerCookies_iff (config : SessionConfig) (calls : List SessionCall) :
    (∀ before call, before ++ [call] <+: calls →
      ∀ params ∈ requested (call.run (after config before).fsm).1, ∃ msg earlier,
        (after config (before ++ [call])).taken = msg :: earlier ∧ Follows config msg params) ↔
    ∀ before call, before ++ [call] <+: calls → ¬ Astray (after config before) call := by
  have hstep : ∀ before call, after config (before ++ [call]) = (after config before).step call :=
    fun before call => by rw [after, List.foldl_append]; rfl
  -- both directions go through the last call of each prefix
  constructor
  · intro hall before call hpre
    refine ((kept_after config before).follows_iff call).mp fun params hmem => ?_
    rw [← hstep]
    exact hall before call hpre params hmem
  · intro hno before call hpre params hmem
    rw [hstep]
    exact ((kept_after config before).follows_iff call).mpr (hno before call hpre) params hmem

/-- A message of the session 7 of the peer, with its cookie. -/
def fromPeer (mt : MessageType) (cookie : List AVP) : ControlMessage where
  controlConnectionId := 0
  ns := 0
  nr := 0
  avps := [messageTypeAvp mt, ietfAvp .localSessionId (beBytes 4 7) true] ++ cookie

/-- A responder without a configured cookie. -/
def responder : SessionConfig where
  name := "pw-1"
  localCcid := 100
  localSid := 1001
  pseudowireType := 5
  initiator := false

/-- A call with a cookie that comes up and is cleared, and then a call without a cookie. -/
def calledTwice : List SessionCall :=
  [.message (fromPeer .icrq [ietfAvp .assignedCookie [1, 2, 3, 4] true]),
    .message (fromPeer .iccn []), .message (fromPeer .cdn []), .message (fromPeer .icrq []),
    .message (fromPeer .iccn [])]

/-- The second call gets the cookie of the first. -/
theorem calledTwice_stale :
    (∃ params msg earlier, requested (SessionCall.run (.message (fromPeer .iccn []))
        (after responder (calledTwice.take 4)).fsm).1 = [params] ∧
      (after responder calledTwice).taken = msg :: earlier ∧
      carried msg = none ∧ responder.peerCookie = none ∧ params.peerCookie = some [1, 2, 3, 4]) ∧
    ¬ ∀ before call, before ++ [call] <+: calledTwice →
      ∀ params ∈ requested (call.run (after responder before).fsm).1, ∃ msg earlier,
        (after responder (before ++ [call])).taken = msg :: earlier ∧
          Follows responder msg params := by
  refine ⟨⟨_, _, _, rfl, rfl, rfl, rfl, rfl⟩, fun hall => ?_⟩
  obtain ⟨msg, earlier, htaken, hfollows⟩ := hall (calledTwice.take 4)
    (.message (fromPeer .iccn [])) ⟨[], rfl⟩ _ (List.mem_singleton_self _)
  cases htaken
  revert hfollows
  decide

end PeerCookie

end L2tpv3d
