import L2tpv3d.Daemon.Commands
import L2tpv3d.Daemon.Encapsulation
import L2tpv3d.Daemon.Input
import L2tpv3d.Daemon.Loader
import L2tpv3d.Daemon.Mirror
import L2tpv3d.Daemon.Parts
import L2tpv3d.Daemon.PeerCcid
import L2tpv3d.Daemon.PeerCookie
import L2tpv3d.Daemon.Record
import L2tpv3d.Daemon.Routing

/-!
# L2tpv3d — what the kernel is asked for

The parameters of a kernel session mix what the loader checked, what it did not check, a name made
of two numbers, and what the peer sent; those of the kernel tunnel, which is added right before its
first session, mix the configured addresses and the CCID of the peer. They are what
`SessionParams` documents, and make command lines that `ip` can read, along exactly the runs in
which no handshake is completed with a flaw.

Calls of `add_tunnel` and `add_session` are recorded. Those that delete are not: the dataplane
that runs `ip` deletes what it added, and then the command line repeats IDs that were read before.

* `heard` — the session that an event hands a message to; `asks` — the calls it leads to.
* **`record_step`** — an event adds these calls to the record of a dataplane.
* `Requesting δ` — the dataplane `δ` with all calls that add something.
* `Fit`, `Opens` — a handshake without flaw, and a kernel tunnel that can be added.
* `dataplaneParams_wellFormed_iff`, `opens_iff` — one call; `step_wellFormed_iff` — one event.
* **`requests_wellFormed_iff`** — over every run of a tunnel.
-/

namespace L2tpv3d

open Py Prog

/-! ## What an event asks for

A recorder is put around the dataplane and writes down the calls of `add_tunnel` and `add_session`,
also those that raise. What an event adds to the record is told from the state before it. -/

namespace Recorder

open Tunnel World Routing

/-- The session that a message is handed to. -/
def heardOf (t : Tunnel) : Input → Option (SessionFSM × ControlMessage)
  | .machine _ => none
  | .message msg mt =>
    ((choice t mt msg).bind t.sessionsByLocal.get?).map fun s => (s, msg)

/-- The session that an event hands a message to, with the message. -/
def heard (hmac : Hmac) (t : Tunnel) (e : Event) : Option (SessionFSM × ControlMessage) :=
  (input hmac t e).bind (heardOf t)

/-- The calls that follow when a session of the tunnel hears a message. -/
def askedBy (t : Tunnel) : Option (SessionFSM × ControlMessage) → List DataplaneCall
  | none => []
  | some (s, msg) => calls t (SessionFSM.requested (SessionFSM.onMessage msg s).1)

/-- The calls that an event leads to, told from the state before it. The kernel tunnel is added
for the peer as it is once the datagram was received. -/
def asks (hmac : Hmac) (t : Tunnel) (e : Event) : List DataplaneCall :=
  askedBy { t with peer := meets hmac t e } (heard hmac t e)

/-- Of the tunnel only what it is added to the kernel with matters. -/
theorem askedBy_congr {t t' : Tunnel} (h : opening t' = opening t)
    (x : Option (SessionFSM × ControlMessage)) : askedBy t' x = askedBy t x := by
  cases x with
  | none => rfl
  | some x => rw [askedBy, askedBy, calls, calls, h]

theorem heardOf_congr {t t' : Tunnel} (h : Beside t t') (i : Input) : heardOf t' i = heardOf t i := by
  cases i with
  | machine m => rfl
  | message msg mt =>
    have hchoice : choice t' mt msg = choice t mt msg := by
      unfold choice route
      rw [h.byLocal, h.byRemote]
    rw [heardOf, heardOf, hchoice, h.byLocal]

variable {δ ρ : Type} [Dataplane δ] (R : Recorder δ ρ) {hmac : Hmac} {w : World δ}

omit [Dataplane δ] in
/-- The message a session was called for decides what it asks for. -/
theorem asked_eq (t : Tunnel) (msg : ControlMessage) (sid : Int) :
    asked t sid (SessionFSM.onMessage msg)
      = askedBy t ((t.sessionsByLocal.get? sid).map fun s => (s, msg)) := by
  unfold asked
  cases t.sessionsByLocal.get? sid <;> rfl

/-- What is handed over, with all that follows it. -/
theorem record_input {i : Input} (hsound : w.tunnel.peer.Sound) (hfit : i.Fit w.tunnel) :
    R.record (i.run hmac w).2
      = (R.record w).map (R.notes (askedBy w.tunnel (heardOf w.tunnel i))) := by
  cases i with
  | machine m => exact (R.record_drive m w).trans (R.map_notes_nil _).symm
  | message msg mt =>
    rw [Input.run, dispatch_eq]
    -- a message that no session gets leads to no call
    cases hchoice : choice w.tunnel mt msg with
    | none =>
      rw [heardOf, hchoice]
      exact (R.map_notes_nil _).symm
    | some sid =>
      have hcall : R.record (give hmac msg sid (noted w .session msg)).2
          = (R.record w).map (R.notes (asked w.tunnel sid (SessionFSM.onMessage msg))) :=
        R.record_callSession (SessionFSM.method_onMessage msg) sid (onlyIndex_indexRemote sid)
          (.inl ⟨hsound, hfit.2.2⟩)
      rw [heardOf, hchoice, Option.bind_some, ← asked_eq]
      exact hcall

/-- **An event** adds what it asks for to the record. -/
theorem record_step (hmac : Hmac) (hsound : w.tunnel.peer.Sound) (e : Event) :
    R.record (step hmac w e) = (R.record w).map (R.notes (asks hmac w.tunnel e)) := by
  rcases step_called hmac hsound e with ⟨sid, resultCode, rfl⟩ | ⟨hnone, hmet⟩ |
    ⟨i, hi, v, hv, hfit, hafter⟩
  · have hquiet : R.record (step hmac w (.closeSession sid resultCode)) = R.record w :=
      R.record_quiet (SessionFSM.method_onLocalClose resultCode)
        (fun s => (SessionFSM.quiet_onLocalClose s resultCode).requested) sid onlyIndex_id w
    exact hquiet.trans (R.map_notes_nil _).symm
  · rw [asks, heard, hnone, record, hmet.dataplane]
    exact (R.map_notes_nil _).symm
  · have hrun : R.record (i.run hmac v).2
        = (R.record v).map (R.notes (askedBy v.tunnel (heardOf v.tunnel i))) :=
      R.record_input (hv.tunnel.sound hsound) hfit
    -- the tunnel that the call finds has the peer that was met, and else is the one before
    have hopening : opening v.tunnel = opening { w.tunnel with peer := meets hmac w.tunnel e } :=
      opening_congr hv.cfg (congrArg Peer.remoteCcid hv.peer) hv.added
    rw [heardOf_congr hv.tunnel, askedBy_congr hopening] at hrun
    rw [asks, heard, hi, record, hafter.dataplane]
    refine hrun.trans ?_
    rw [record, hv.dataplane]
    rfl

end Recorder

/-- A dataplane with all calls of `add_tunnel` and `add_session`, also those that raised. -/
structure Requesting (δ : Type) where
  dataplane : δ
  requests : List DataplaneCall := []

namespace Requesting

variable {δ α : Type}

/-- A call of the dataplane inside. -/
def inner (m : Prog δ α) : Prog (Requesting δ) α :=
  zoom (·.dataplane) (fun dp self => { self with dataplane := dp }) m

/-- A call that is written down. -/
def noting (call : DataplaneCall) (m : Prog δ α) : Prog (Requesting δ) α := do
  modify fun self => { self with requests := self.requests ++ [call] }
  inner m

instance [Dataplane δ] : Dataplane (Requesting δ) where
  addTunnel params := noting (.addTunnel params) (Dataplane.addTunnel params)
  addSession params := noting (.addSession params) (Dataplane.addSession params)
  delSession localCcid localSid := inner (Dataplane.delSession localCcid localSid)
  delTunnel localCcid := inner (Dataplane.delTunnel localCcid)

/-- The calls are what is recorded. -/
def recorder (δ : Type) [Dataplane δ] : Recorder (Requesting δ) (List DataplaneCall) where
  told := Requesting.requests
  note call requests := requests ++ [call]
  addTunnel _ _ := rfl
  addSession _ _ := rfl
  delSession _ _ _ := rfl
  delTunnel _ _ := rfl

/-- The record of a `Requesting` dataplane is the list of the calls it was asked for. -/
theorem notes_eq [Dataplane δ] (asked requests : List DataplaneCall) :
    (recorder δ).notes asked requests = requests ++ asked := by
  induction asked generalizing requests with
  | nil => exact (List.append_nil requests).symm
  | cons call asked ih => simpa [Recorder.notes, recorder] using ih (requests ++ [call])

end Requesting

/-! ## Requests that are well formed

A request is well formed if its cookies, its session IDs and its interface name are what the kernel
and `SessionParams` ask for, and if no command line of it must fail by its form. A handshake without
flaw is one from which such a request follows. -/

/-- What `SessionParams` documents, what the protocol allows as a session ID, and a name that an
interface can have. -/
structure SessionParams.WellFormed (params : SessionParams) : Prop where
  cookie : ∀ c ∈ params.cookie, c.length = 4 ∨ c.length = 8
  peerCookie : ∀ c ∈ params.peerCookie, c.length = 4 ∨ c.length = 8
  remoteSid : 1 ≤ params.remoteSid ∧ params.remoteSid ≤ 0xFFFFFFFF
  ifname : 1 ≤ (utf8 params.ifname).length ∧ (utf8 params.ifname).length ≤ 15

/-- A call is well formed: so are the parameters of a session, and no command line of it must
fail. -/
structure DataplaneCall.WellFormed (ip : Iproute) (path : String) (call : DataplaneCall) : Prop where
  params : ∀ params, call = .addSession params → params.WellFormed
  commands : ∀ argv ∈ call.commandLines path, ¬ ip.Refuses argv

namespace Requests

open Tunnel World SessionFSM Speech PeerCookie PeerCcid Recorder

/-- How many digits a number has. -/
def decimals (n : Int) : Nat := (Nat.toDigits 10 n.toNat).length

/-- The configured name is one that an interface can have; or none is configured, and the two
numbers of the default one have at most six digits together. -/
def Named (ip : Iproute) (config : SessionConfig) : Prop :=
  match config.ifname with
  | none => decimals config.localCcid + decimals config.localSid ≤ 6
  | some name =>
    if name = "" then decimals config.localCcid + decimals config.localSid ≤ 6
    else ip.IsName name

/-- The cookie of the peer when a message completes the handshake: an ICRP may assign one. -/
def assigned (s : SessionFSM) (msg : ControlMessage) : Option Bytes :=
  if s.state = .waitSessionReply then (carried msg).or s.peerCookieLearned
  else s.peerCookieLearned

/-- A handshake without flaw: no cookie is empty, the peer's session has an ID, the IDs of this
side are numbers, and the interface has a name. -/
structure Fit (ip : Iproute) (s : SessionFSM) (msg : ControlMessage) : Prop where
  cookie : s.config.cookie ≠ some []
  peerCookie : s.config.peerCookie = some [] → (assigned s msg).getD [] ≠ []
  remoteSid : ∀ fields, parseSessionFields msg.avps = .ok fields → fields.localSid ≠ 0
  localCcid : s.config.localCcidIsBool = false
  localSid : s.config.localSidIsBool = false
  ifname : Named ip s.config

/-- The CCID of the peer is known: it was before the datagram, or the datagram assigns it. -/
def CcidKnown (hmac : Hmac) (t : Tunnel) : Event → Prop
  | .datagram buf =>
    match unwire hmac t.cfg buf with
    | .error _ => True
    | .ok msg => t.peer.remoteCcid ≠ 0 ∨ (assignedCcid msg).getD 0 ≠ 0
  | _ => True

/-- The kernel tunnel can be added: it can have these two ends, and the CCID of the peer is
known. -/
structure Opens (ip : Iproute) (hmac : Hmac) (t : Tunnel) (e : Event) : Prop where
  ends : ip.AreEnds t.cfg.localAddress t.cfg.remoteAddress
  remoteCcid : CcidKnown hmac t e

/-- A handshake that the event completes is without flaw, and the kernel tunnel is there or can be
added. -/
def Flawless (ip : Iproute) (hmac : Hmac) (t : Tunnel) (e : Event) : Prop :=
  ∀ x ∈ heard hmac t e, Completes x.1 (.message x.2) →
    Fit ip x.1 x.2 ∧ (t.tunnelDpAdded = false → Opens ip hmac t e)

/-! The definitions can be evaluated. -/

section

variable {ip : Iproute} [DecidablePred ip.IsName] [DecidableRel ip.AreEnds]

instance (config : SessionConfig) : Decidable (Named ip config) := by
  unfold Named
  split <;> infer_instance

instance (s : SessionFSM) (call : SessionCall) : Decidable (Completes s call) := by
  unfold Completes
  split <;> infer_instance

instance (s : SessionFSM) (msg : ControlMessage) : Decidable (Fit ip s msg) :=
  decidable_of_iff (s.config.cookie ≠ some [] ∧
      (s.config.peerCookie = some [] → (assigned s msg).getD [] ≠ []) ∧
      (∀ fields, parseSessionFields msg.avps = .ok fields → fields.localSid ≠ 0) ∧
      s.config.localCcidIsBool = false ∧ s.config.localSidIsBool = false ∧ Named ip s.config)
    ⟨fun ⟨hcookie, hpeer, hremote, hccid, hsid, hname⟩ =>
      ⟨hcookie, hpeer, hremote, hccid, hsid, hname⟩,
    fun h => ⟨h.cookie, h.peerCookie, h.remoteSid, h.localCcid, h.localSid, h.ifname⟩⟩

instance (hmac : Hmac) (t : Tunnel) (e : Event) : Decidable (CcidKnown hmac t e) := by
  unfold CcidKnown
  split
  · split <;> infer_instance
  · infer_instance

instance (hmac : Hmac) (t : Tunnel) (e : Event) : Decidable (Opens ip hmac t e) :=
  decidable_of_iff (ip.AreEnds t.cfg.localAddress t.cfg.remoteAddress ∧ CcidKnown hmac t e)
    ⟨fun ⟨hends, hccid⟩ => ⟨hends, hccid⟩, fun h => ⟨h.ends, h.remoteCcid⟩⟩

instance (hmac : Hmac) (t : Tunnel) (e : Event) : Decidable (Flawless ip hmac t e) := by
  unfold Flawless
  infer_instance

end

/-! ## What a session asks for

The loader and the decoders leave four things open: a cookie may be empty, the peer's Session ID may
be zero, an ID of this side may be a boolean, and the interface may have no name that fits. The rest
holds all along a run, which is `Checked`. -/

/-- The length of a cookie that the loader, or a decoder, lets pass. -/
def CookieLength (cookie : Option Bytes) : Prop :=
  ∀ c ∈ cookie, c.length = 0 ∨ c.length = 4 ∨ c.length = 8

/-- What holds of a session all along a run: its entry was accepted, and what it learned came
through the decoders. -/
structure Checked (s : SessionFSM) : Prop where
  localCcid : 0 < s.config.localCcid ∧ s.config.localCcid ≤ 0xFFFFFFFF
  localSid : 0 < s.config.localSid ∧ s.config.localSid ≤ 0xFFFFFFFF
  ccidIsBool : s.config.localCcidIsBool = true → s.config.localCcid = 1
  sidIsBool : s.config.localSidIsBool = true → s.config.localSid = 1
  cookie : CookieLength s.config.cookie
  peerCookie : CookieLength s.config.peerCookie
  peerSid : IsU32 s.peerSid
  learned : CookieLength s.peerCookieLearned

/-- What a parsed message teaches a session has the lengths and ranges that parsing checks. -/
theorem Checked.learnedFrom {s : SessionFSM} (h : Checked s) {body : List AVP}
    {fields : SessionFields} (hparse : parseSessionFields body = .ok fields) :
    Checked (s.learned fields) := by
  have hmsg : parseSessionFields (ControlMessage.mk 0 0 0 body).avps = .ok fields := hparse
  obtain ⟨-, hlen⟩ := carried_of_parse hmsg
  refine ⟨h.localCcid, h.localSid, h.ccidIsBool, h.sidIsBool, h.cookie, h.peerCookie,
    parseSessionFields_localSid hparse, ?_⟩
  have hlearned := learned_cookie s hmsg
  rw [hlearned]
  cases hc : carried ⟨0, 0, 0, body⟩ with
  | none => exact h.learned
  | some cookie =>
    rintro _ ⟨⟩
    exact hlen cookie hc

/-- **One call of a session** keeps it. -/
theorem Checked.outcome {s s' : SessionFSM} {r : Except Exn (List SessionAction)}
    (hout : SessionFSM.Outcome s r s') (h : Checked s) : Checked s' := by
  have hstate : ∀ {s : SessionFSM} (state : SessionState), Checked s →
      Checked { s with state := state } := fun _ h =>
    ⟨h.localCcid, h.localSid, h.ccidIsBool, h.sidIsBool, h.cookie, h.peerCookie, h.peerSid,
      h.learned⟩
  -- only an ICRQ and an ICRP teach anything
  cases hout with
  | ignored => exact h
  | raised => exact h
  | refused _ hparse => exact h.learnedFrom hparse
  | called _ _ => exact hstate _ h
  | answered _ hparse _ => exact hstate _ (h.learnedFrom hparse)
  | connected _ hparse _ => exact hstate _ (h.learnedFrom hparse)
  | accepted _ => exact hstate _ h
  | closed _ _ => exact hstate _ h
  | dropped _ => exact hstate _ h

/-- The length of a cookie that is passed on. -/
theorem wellFormed_cookie_iff {cookie : Option Bytes} (h : CookieLength cookie) :
    (∀ c ∈ cookie, c.length = 4 ∨ c.length = 8) ↔ cookie ≠ some [] := by
  constructor
  · rintro hlen rfl
    have := hlen [] rfl
    simp at this
  · rintro hne c ⟨⟩
    refine (h c rfl).resolve_left fun hzero => ?_
    exact hne (congrArg some (List.length_eq_zero_iff.mp hzero))

/-- The cookie that is learned is passed on unless it is empty. -/
theorem wellFormed_peerCookie_iff {learned config : Option Bytes} (hlearned : CookieLength learned)
    (hconfig : CookieLength config) :
    (∀ c ∈ orElseNonempty learned config, c.length = 4 ∨ c.length = 8) ↔
      (config = some [] → learned.getD [] ≠ []) := by
  cases learned with
  | none => simpa [orElseNonempty] using wellFormed_cookie_iff hconfig
  | some c =>
    cases c with
    | nil => simpa [orElseNonempty] using wellFormed_cookie_iff hconfig
    | cons b bs => simpa [orElseNonempty] using wellFormed_cookie_iff hlearned

/-! ### The name of the interface

The default name is made of `l2tpeth`, the CCID and the Session ID, with hyphens between. An
interface name has at most 15 bytes, so six digits are left for the two numbers. -/

/-- The default name has nine bytes and those of the two numbers. -/
theorem length_default {ccid sid : Int} (hccid : 0 ≤ ccid) (hsid : 0 ≤ sid) :
    (utf8 s!"l2tpeth-{ccid}-{sid}").length = 9 + decimals ccid + decimals sid := by
  obtain ⟨a, rfl⟩ := Int.eq_ofNat_of_zero_le hccid
  obtain ⟨b, rfl⟩ := Int.eq_ofNat_of_zero_le hsid
  -- eight bytes, the CCID, a hyphen, and the Session ID
  have hparts : s!"l2tpeth-{(a : Int)}-{(b : Int)}"
      = "l2tpeth-" ++ toString (a : Int) ++ "-" ++ toString (b : Int) := by
    simp [toString]
  rw [hparts, length_utf8_append, length_utf8_append, length_utf8_append, length_utf8_nat,
    length_utf8_nat]
  have hparts₁ : (utf8 "l2tpeth-").length = 8 := by decide
  have hparts₂ : (utf8 "-").length = 1 := by decide
  rw [hparts₁, hparts₂]
  show 8 + decimals a + 1 + decimals b = _
  omega

/-- Letters, digits and hyphens: whatever the numbers are. -/
theorem plain_default (ccid sid : Int) :
    ∀ c ∈ (s!"l2tpeth-{ccid}-{sid}").toList, c.isAlphanum ∨ c = '-' := by
  have hnum : ∀ n : Int, ∀ c ∈ (toString n).toList, c.isAlphanum ∨ c = '-' := by
    intro n c hc
    refine (char_toString_int hc).imp_left fun hdigit => ?_
    simp [Char.isAlphanum, hdigit]
  have hparts : s!"l2tpeth-{ccid}-{sid}" = "l2tpeth-" ++ toString ccid ++ "-" ++ toString sid := by
    simp [toString]
  intro c hc
  rw [hparts] at hc
  simp only [String.toList_append, List.mem_append] at hc
  rcases hc with ((hword | hccid) | hhyphen) | hsid
  · exact (show ∀ c ∈ "l2tpeth-".toList, c.isAlphanum ∨ c = '-' by simp) c hword
  · exact hnum ccid c hccid
  · right
    simpa using hhyphen
  · exact hnum sid c hsid

variable {ip : Iproute} {path : String}

/-- The default name is one that an interface can have if and only if it is short enough. -/
theorem isName_default (hdoc : ip.Documented) {ccid sid : Int} (hccid : 0 ≤ ccid) (hsid : 0 ≤ sid) :
    ip.IsName s!"l2tpeth-{ccid}-{sid}" ↔ decimals ccid + decimals sid ≤ 6 := by
  have hlen := length_default hccid hsid
  constructor
  · intro hname
    have := (hdoc.name_length _ hname).2
    omega
  · intro hshort
    exact hdoc.name_plain _ (by omega) (by omega) (plain_default ccid sid)

/-- The name of the interface, where the IDs are numbers. -/
theorem isName_ifname_iff (hdoc : ip.Documented) {s : SessionFSM} (h : Checked s)
    (hccid : s.config.localCcidIsBool = false) (hsid : s.config.localSidIsBool = false) :
    ip.IsName s.ifname ↔ Named ip s.config := by
  have hdefault := isName_default hdoc h.localCcid.1.le h.localSid.1.le
  unfold Named SessionFSM.ifname
  simp only [hccid, hsid, intStr_false]
  -- without a configured name, and with an empty one, the default is taken
  cases s.config.ifname with
  | none => exact hdefault
  | some name =>
    by_cases hempty : name = ""
    · simp only [if_pos hempty]
      exact hdefault
    · simp only [if_neg hempty]

/-! ### The call of `add_session`

The parameters are well formed if and only if the handshake was without flaw: one lemma for each of
its parts, and then the call of the session that leads to them. -/

/-- **The parameters of a session** are well formed, and so are the command lines made of them,
without one of the flaws. -/
theorem dataplaneParams_wellFormed_iff (hdoc : ip.Documented) {s : SessionFSM} (h : Checked s) :
    (DataplaneCall.addSession s.dataplaneParams).WellFormed ip path ↔ s.config.cookie ≠ some [] ∧
      (s.config.peerCookie = some [] → s.peerCookieLearned.getD [] ≠ []) ∧ s.peerSid ≠ 0 ∧
      s.config.localCcidIsBool = false ∧ s.config.localSidIsBool = false ∧ Named ip s.config := by
  rw [← wellFormed_cookie_iff h.cookie, ← wellFormed_peerCookie_iff h.learned h.peerCookie]
  -- the IDs, as `ip` reads them
  have hccid : ip.IsId (intStr s.config.localCcidIsBool s.config.localCcid) ↔
      s.config.localCcidIsBool = false :=
    hdoc.isId_intStr h.localCcid.1 h.localCcid.2 h.ccidIsBool
  have hsid : ip.IsId (intStr s.config.localSidIsBool s.config.localSid) ↔
      s.config.localSidIsBool = false :=
    hdoc.isId_intStr h.localSid.1 h.localSid.2 h.sidIsBool
  have hpeer : ip.IsId (toString s.peerSid) ↔ s.peerSid ≠ 0 :=
    hdoc.isId_toString h.peerSid.1 h.peerSid.2
  constructor
  · intro hw
    -- neither command line is refused, so every word of it is read
    have hreads : ip.ReadsSession s.dataplaneParams := by
      have hno := hw.commands _ List.mem_cons_self
      rwa [hdoc.addSession, not_not] at hno
    have hparams := hw.params _ rfl
    have hnumbers := And.intro (hccid.mp hreads.localCcid) (hsid.mp hreads.localSid)
    exact ⟨hparams.cookie, hparams.peerCookie, hpeer.mp hreads.remoteSid, hnumbers.1, hnumbers.2,
      (isName_ifname_iff hdoc h hnumbers.1 hnumbers.2).mp hreads.ifname⟩
  · rintro ⟨hcookie, hpeerCookie, hremote, hccid', hsid', hnamed⟩
    have hname : ip.IsName s.dataplaneParams.ifname :=
      (isName_ifname_iff hdoc h hccid' hsid').mpr hnamed
    have hreads : ip.ReadsSession s.dataplaneParams := by
      refine ⟨hname, hccid.mpr hccid', hsid.mpr hsid', hpeer.mpr hremote, hcookie, hpeerCookie, ?_⟩
      show (if s.config.l2SpecificSublayer = 1 then "default" else "none") ∈ ["", "none", "default"]
      split <;> decide
    refine ⟨?_, ?_⟩
    · rintro params ⟨⟩
      have hrange : 1 ≤ s.peerSid ∧ s.peerSid ≤ 0xFFFFFFFF := by
        obtain ⟨hlo, hhi⟩ := h.peerSid
        omega
      exact ⟨hcookie, hpeerCookie, hrange, hdoc.name_length _ hname⟩
    · intro argv hargv
      rcases List.mem_pair.mp hargv with rfl | rfl
      · rw [hdoc.addSession]
        exact not_not.mpr hreads
      · rw [hdoc.linkUp]
        exact not_not.mpr hname

/-- What is asked for by a session that a message brought up. -/
theorem fit_iff (hdoc : ip.Documented) {s s' : SessionFSM} {msg : ControlMessage}
    {fields : SessionFields} (hparse : parseSessionFields msg.avps = .ok fields)
    (hconfig : s'.config = s.config) (hcookie : s'.peerCookieLearned = assigned s msg)
    (hsid : s'.peerSid = fields.localSid) (h : Checked s') :
    (DataplaneCall.addSession s'.dataplaneParams).WellFormed ip path ↔ Fit ip s msg := by
  rw [dataplaneParams_wellFormed_iff hdoc h, hconfig, hcookie, hsid]
  constructor
  · rintro ⟨hcookie, hpeer, hremote, hccid, hsid, hname⟩
    refine ⟨hcookie, hpeer, fun fields' hparse' => ?_, hccid, hsid, hname⟩
    rw [hparse, Except.ok.injEq] at hparse'
    exact hparse' ▸ hremote
  · rintro ⟨hcookie, hpeer, hremote, hccid, hsid, hname⟩
    exact ⟨hcookie, hpeer, hremote fields hparse, hccid, hsid, hname⟩

/-- What a session asks for when it hears a message: nothing, unless the message completes a
handshake; then one session, which is well formed if the handshake is without flaw. -/
inductive Asking (ip : Iproute) (path : String) (s : SessionFSM) (msg : ControlMessage) : Prop where
  | nothing (hno : ¬ Completes s (.message msg)) (hreq : requested (onMessage msg s).1 = [])
  | session (params : SessionParams) (hcompletes : Completes s (.message msg))
      (hreq : requested (onMessage msg s).1 = [params])
      (hfit : (DataplaneCall.addSession params).WellFormed ip path ↔ Fit ip s msg)

/-- **What a session asks for when it is called for a message**: nothing, or one session that is
well formed exactly when the message and the configuration fit. -/
theorem asking (hdoc : ip.Documented) {s : SessionFSM} (h : Checked s) (msg : ControlMessage) :
    Asking ip path s msg := by
  -- by what the message is to the session
  cases turn s (.message msg) with
  | quiet _ hno hquiet => exact .nothing hno hquiet.requested
  | taught _ hno hreq _ => exact .nothing hno hreq
  | @connected taken fields htakes hcompletes hparse hreq _ =>
    -- only an ICRP is both taken and the end of a handshake
    have hs : s.state = .waitSessionReply := by
      obtain ⟨_, -, ⟨-, hs, -⟩ | ⟨-, hs, -⟩⟩ := hcompletes
      · exact hs
      · simp [takes, hs] at htakes
    obtain rfl : taken = msg := by
      simp only [takes, Option.ite_none_right_eq_some, Option.some.injEq] at htakes
      exact htakes.2.symm
    have hcookie : (s.learned fields).peerCookieLearned = assigned s taken := by
      rw [learned_cookie s hparse, assigned, if_pos hs]
    exact .session _ hcompletes hreq
      (@fit_iff ip path hdoc s (s.learned fields) taken fields hparse rfl hcookie rfl
        (h.learnedFrom hparse))
  | accepted _ hcompletes hs hreq _ =>
    obtain ⟨fields, hparse, ⟨-, hwait, -⟩ | ⟨-, -, hsid⟩⟩ := id hcompletes
    · rw [hs] at hwait
      cases hwait
    · have hcookie : s.peerCookieLearned = assigned s msg := by simp [assigned, hs]
      exact .session _ hcompletes hreq (fit_iff hdoc hparse rfl hcookie hsid.symm h)

/-! ### The call of `add_tunnel`

The kernel tunnel is added right before its first session. Its two addresses come from the
configuration, and the peer's CCID is the one known once the datagram was received. -/

/-- What the peer is told by when a message was received. -/
theorem meets_remoteCcid {hmac : Hmac} {t : Tunnel} {buf : Bytes} {msg : ControlMessage}
    (hmsg : unwire hmac t.cfg buf = .ok msg) :
    (meets hmac t (.datagram buf)).remoteCcid = PeerCcid.learned t.peer.remoteCcid msg := by
  simp only [meets, hmsg, learnCcid_learned, Peer.receive_remoteCcid]
  rfl

/-- A session hears of a datagram that could be read, and of nothing else. -/
theorem datagram_of_heard {hmac : Hmac} {t : Tunnel} {e : Event} {x : SessionFSM × ControlMessage}
    (h : heard hmac t e = some x) :
    ∃ buf msg, e = .datagram buf ∧ unwire hmac t.cfg buf = .ok msg := by
  obtain ⟨i, hi, hx⟩ := Option.bind_eq_some_iff.mp h
  cases e with
  | datagram buf =>
    cases hmsg : unwire hmac t.cfg buf with
    | error e => simp [input, hmsg] at hi
    | ok msg => exact ⟨buf, msg, rfl, hmsg⟩
  -- the other events are for the tunnel machine, or for no machine
  | start =>
    cases hi
    cases hx
  | close =>
    cases hi
    cases hx
  | tick now =>
    simp only [input] at hi
    split at hi
    · cases hi
      cases hx
    · cases hi
  | helloTimer =>
    simp only [input] at hi
    split at hi
    · cases hi
      cases hx
    · cases hi
  | closeSession sid resultCode => cases hi

/-- The CCID that the kernel tunnel is added with is not zero if it was known or is assigned. -/
theorem meets_remoteCcid_ne_iff {hmac : Hmac} {t : Tunnel} {e : Event}
    {x : SessionFSM × ControlMessage} (h : heard hmac t e = some x) :
    (meets hmac t e).remoteCcid ≠ 0 ↔ CcidKnown hmac t e := by
  obtain ⟨buf, msg, rfl, hmsg⟩ := datagram_of_heard h
  rw [meets_remoteCcid hmsg]
  simp only [CcidKnown, hmsg, PeerCcid.learned]
  split
  · rename_i hzero
    simp [hzero]
  · rename_i hne
    exact iff_of_true hne (.inl hne)

/-- The kernel tunnel is added with words that `ip` can read, where its own ID is a number. -/
theorem opens_iff (hdoc : ip.Documented) {hmac : Hmac} {t : Tunnel} {e : Event}
    {x : SessionFSM × ControlMessage} (h : heard hmac t e = some x)
    (hlocal : 0 < t.cfg.localCcid ∧ t.cfg.localCcid ≤ 0xFFFFFFFF)
    (hnumber : t.cfg.localCcidIsBool = false) (hremote : IsU32 (meets hmac t e).remoteCcid) :
    (DataplaneCall.addTunnel (tunnelParams { t with peer := meets hmac t e })).WellFormed ip path ↔
      Opens ip hmac t e := by
  -- the CCID of this end is in range, so only its type is left to ask
  have hccid : ip.IsId (intStr t.cfg.localCcidIsBool t.cfg.localCcid) := by
    rw [hdoc.isId_intStr hlocal.1 hlocal.2 (by simp [hnumber])]
    exact hnumber
  -- the CCID of the peer is zero until it is learned
  have hpeer : ip.IsId (toString (meets hmac t e).remoteCcid) ↔ CcidKnown hmac t e := by
    rw [hdoc.isId_toString hremote.1 hremote.2]
    exact meets_remoteCcid_ne_iff h
  constructor
  · intro hw
    have hno := hw.commands _ List.mem_cons_self
    rw [hdoc.addTunnel path _ rfl rfl rfl, not_not] at hno
    exact ⟨hno.ends, hpeer.mp hno.remoteCcid⟩
  · rintro ⟨hends, hknown⟩
    refine ⟨nofun, fun argv hargv => ?_⟩
    obtain rfl := List.mem_singleton.mp hargv
    rw [hdoc.addTunnel path _ rfl rfl rfl]
    exact not_not.mpr ⟨hends, hccid, hpeer.mpr hknown⟩

/-! ## Runs

A request of a run is asked for by one event of it, so a run is judged event by event. What is asked
for is compared with the state before the event, in which the sessions are `Checked`. -/

section Runs

variable {δ : Type} [Dataplane δ] {hmac : Hmac} {w : World (Requesting δ)} {cfg : TunnelConfigEntry}

/-- What `add_tunnel` and `add_session` were called with so far. -/
def requests (w : World (Requesting δ)) : List DataplaneCall :=
  (w.dataplane.map Requesting.requests).getD []

/-- The sessions of the tunnel are checked, and the CCID of the peer fits the header. -/
def checked (cfg : TunnelConfigEntry) : Parts where
  cfg c := c = cfg
  peer p := p.Sound ∧ IsU32 p.remoteCcid
  fsm _ := True
  session _ s := Checked s ∧ s.config.localCcidIsBool = cfg.localCcidIsBool

/-- Every handler of the tunnel keeps it. -/
theorem checked_stable (cfg : TunnelConfigEntry) : (checked cfg).Stable where
  link h hpq := ⟨hpq.sound h.1, hpq.remoteCcid ▸ h.2⟩
  learn h hlearn := ⟨⟨h.1.ns, h.1.nr⟩, (Dispatch.learnCcid_isU32 hlearn).mpr h.2⟩
  receive msg h := ⟨(Peer.receive_frame _ msg h.1).1, by rw [Peer.receive_remoteCcid]; exact h.2⟩
  tick now h := ⟨(Peer.tick_frame _ now h.1).1, (Peer.tick_frame _ now h.1).2.2.1 ▸ h.2⟩
  fsm _ _ := trivial
  session hout h := ⟨h.1.outcome hout, hout.config_eq ▸ h.2⟩

/-- The sessions of an accepted configuration start with what the loader checked. -/
theorem checked_init (hcfg : cfg.Accepted) : (checked cfg).Holds (Tunnel.init cfg) := by
  refine ⟨rfl, ⟨Peer.sound_init _ _ _ _ _, hcfg.remoteCcid⟩, trivial, fun sid s hget => ?_⟩
  obtain ⟨scfg, hmem, -, rfl⟩ := get?_init hget
  have hsession := hcfg.sessions scfg hmem
  exact ⟨⟨hcfg.localCcid, hsession.localSid, hcfg.localCcidIsBool, hsession.localSidIsBool,
    hsession.cookie, hsession.peerCookie, ⟨le_rfl, by simp⟩, nofun⟩, rfl⟩

/-- The session that hears an event is one of the tunnel. -/
theorem checked_heard {t : Tunnel} (h : (checked cfg).Holds t) {e : Event} {s : SessionFSM}
    {msg : ControlMessage} (hheard : heard hmac t e = some (s, msg)) :
    Checked s ∧ s.config.localCcidIsBool = t.cfg.localCcidIsBool := by
  obtain ⟨i, -, hi⟩ := Option.bind_eq_some_iff.mp hheard
  cases i with
  | machine m => cases hi
  | message msg' mt =>
    obtain ⟨s', hs', heq⟩ := Option.map_eq_some_iff.mp hi
    obtain ⟨sid, -, hget⟩ := Option.bind_eq_some_iff.mp hs'
    cases heq
    rw [show t.cfg = cfg from h.cfg]
    exact h.sessions sid s hget

/-- The CCID of the peer still fits the header when the datagram was received. -/
theorem meets_isU32 {t : Tunnel} (h : (checked cfg).Holds t) (e : Event) :
    IsU32 (meets hmac t e).remoteCcid := by
  have hstable := checked_stable cfg
  -- only a datagram and a tick touch the transport
  cases e with
  | datagram buf =>
    simp only [meets]
    split
    · exact h.peer.2
    · rename_i msg hmsg
      rw [learnCcid_learned]
      exact (hstable.receive msg (hstable.learn h.peer (learnCcid_learned t.peer msg))).2
  | tick now => exact (hstable.tick now h.peer).2
  | _ => exact h.peer.2

/-- **An event** leads to calls that are well formed if and only if it is without flaw. -/
theorem step_wellFormed_iff (hdoc : ip.Documented) (hcfg : cfg.Accepted) {t : Tunnel}
    (h : (checked cfg).Holds t) (e : Event) :
    (∀ call ∈ asks hmac t e, call.WellFormed ip path) ↔ Flawless ip hmac t e := by
  unfold asks Flawless
  -- an event that no session hears asks for nothing
  cases hheard : heard hmac t e with
  | none => simp [askedBy]
  | some x =>
    obtain ⟨s, msg⟩ := x
    obtain ⟨hchecked, hbool⟩ := checked_heard h hheard
    have hasking : Asking ip path s msg := asking hdoc hchecked msg
    cases hasking with
    | nothing hno hreq => simp [askedBy, hreq, hno]
    | session params hcompletes hreq hfit =>
      -- the kernel tunnel first, if it is not there
      have hopens : Fit ip s msg → ((DataplaneCall.addTunnel
          (tunnelParams { t with peer := meets hmac t e })).WellFormed ip path ↔
          Opens ip hmac t e) := by
        intro hfits
        have hcfg' : t.cfg = cfg := h.cfg
        exact opens_iff hdoc hheard (hcfg' ▸ hcfg.localCcid) (hbool ▸ hfits.localCcid)
          (meets_isU32 h e)
      rw [askedBy, hreq, calls_singleton]
      have hopening : opening { t with peer := meets hmac t e } = if t.tunnelDpAdded then [] else
          [.addTunnel (tunnelParams { t with peer := meets hmac t e })] := rfl
      rw [hopening]
      -- the tunnel is requested once
      cases hadded : t.tunnelDpAdded with
      | true => simp [hcompletes, hfit]
      | false =>
        simp only [Bool.false_eq_true, if_false, List.cons_append, List.nil_append, List.mem_cons,
          List.not_mem_nil, or_false, forall_eq_or_imp, forall_eq, Option.mem_some_iff, forall_eq',
          hcompletes, forall_true_left, hfit]
        rw [and_comm]
        exact and_congr_right hopens

/-- What an event adds to the requests. -/
theorem requests_step (hmac : Hmac) (hsound : w.tunnel.peer.Sound)
    (hdp : w.dataplane.isSome = true) (e : Event) :
    (step hmac w e).dataplane.isSome = true ∧
      requests (step hmac w e) = requests w ++ asks hmac w.tunnel e := by
  have hstep := (Requesting.recorder δ).record_step hmac hsound e
  obtain ⟨dp, hdp⟩ := Option.isSome_iff_exists.mp hdp
  -- the record is the list of the requests
  have hw : (Requesting.recorder δ).record w = some dp.requests := by
    rw [record, hdp]
    rfl
  rw [hw, Option.map_some, Requesting.notes_eq, record] at hstep
  obtain ⟨dp', hdp', htold⟩ := Option.map_eq_some_iff.mp hstep
  refine ⟨by rw [hdp']; rfl, ?_⟩
  rw [requests, requests, hdp, hdp']
  exact htold

/-- A tunnel just constructed, on a dataplane that was asked for nothing. -/
def fresh (cfg : TunnelConfigEntry) (dp : δ) (clock : Nat → ℚ) : World (Requesting δ) :=
  World.init cfg (some { dataplane := dp }) clock

/-- **Every request to the kernel is well formed, all along a run, exactly when no event of the run
completes a handshake with a flaw.** No command line of one must then fail. What an event adds to
the requests is told from the state before it, so the run is judged one event at a time. -/
theorem requests_wellFormed_iff (ip : Iproute) (hdoc : ip.Documented) (path : String) (hmac : Hmac)
    (cfg : TunnelConfigEntry) (hcfg : cfg.Accepted) (dp : δ) (clock : Nat → ℚ) (es : List Event) :
    (∀ pre, pre <+: es → ∀ call ∈ requests (pre.foldl (step hmac) (fresh cfg dp clock)),
      call.WellFormed ip path) ↔
    Transition.Guarded (step hmac) (fun w e => Flawless ip hmac w.tunnel e) (fresh cfg dp clock)
      es := by
  refine Transition.guarded_iff_along
    (I := fun w => (checked cfg).Holds w.tunnel ∧ w.dataplane.isSome = true ∧
      ∀ call ∈ requests w, call.WellFormed ip path)
    (P := fun w => ∀ call ∈ requests w, call.WellFormed ip path) (fun _ h => h.2.2) ?_ ?_ es
    ⟨checked_init hcfg, rfl, nofun⟩
  -- a flawless event adds well-formed calls
  · rintro w e ⟨hchecked, hdp, hall⟩ hflawless
    obtain ⟨hdp', hreq⟩ := requests_step hmac hchecked.peer.1 hdp e
    refine ⟨(checked_stable cfg).handle e w hchecked, hdp', fun call hmem => ?_⟩
    rw [hreq] at hmem
    rcases List.mem_append.mp hmem with hold | hnew
    · exact hall call hold
    · exact (step_wellFormed_iff hdoc hcfg hchecked e).mpr hflawless call hnew
  -- a flaw shows in a call that is added
  · rintro w e ⟨hchecked, hdp, -⟩ hflawed hall
    obtain ⟨-, hreq⟩ := requests_step hmac hchecked.peer.1 hdp e
    rw [hreq] at hall
    exact hflawed ((step_wellFormed_iff hdoc hcfg hchecked e).mp fun call hnew =>
      hall call (List.mem_append_right _ hnew))

end Runs

/-- A tunnel with a session that waits for calls. -/
def lineOf (sid : Int) : TunnelConfigEntry :=
  Encapsulation.endWith 100 200 { Encapsulation.called with localSid := sid }

/-- The same, where the file has `local_sid = true`. -/
def lineOfTrue : TunnelConfigEntry :=
  Encapsulation.endWith 100 200 { Encapsulation.called with localSid := 1, localSidIsBool := true }

/-- The examples are accepted whatever the Session ID is. -/
theorem lineOf_accepted {sid : Int} (h : 0 < sid ∧ sid ≤ 0xFFFFFFFF) : (lineOf sid).Accepted :=
  Encapsulation.endWith_accepted (by decide) (by decide)
    ⟨h, .inr rfl, .inl rfl, show IsU16 3 by decide, nofun, nofun, nofun⟩

/-- The loader accepts `true` for a Session ID of 1. -/
theorem lineOfTrue_accepted : lineOfTrue.Accepted :=
  Encapsulation.endWith_accepted (by decide) (by decide)
    ⟨by decide, .inr rfl, .inl rfl, show IsU16 3 by decide, nofun, nofun, fun _ => rfl⟩

/-- The peer calls the session, which comes up. -/
def call (sid : Nat) : List Event :=
  [.start, .datagram (Mirror.callDatagram .icrq 0 0), .datagram (Mirror.callDatagram .iccn 1 sid)]

/-- What is asked for when the session of a tunnel is called. -/
def askedFor (cfg : TunnelConfigEntry) (sid : Nat) : List DataplaneCall :=
  requests ((call sid).foldl (step ControlMessage.sumHmac)
    (fresh cfg ({} : MockDataplane) fun _ => 0))

/-- The names of the interfaces among the requests. -/
def names (requests : List DataplaneCall) : List String :=
  requests.filterMap fun
    | .addSession params => some params.ifname
    | _ => none

/-- The default name of the session 1 is short enough. -/
theorem requests_wellFormed_iff_short :
    names (askedFor (lineOf 1) 1) = ["l2tpeth-100-1"] ∧
    ∀ call ∈ askedFor (lineOf 1) 1, call.WellFormed PlainIp.plainIp "/sbin/ip" := by
  have hflawless : Transition.Guarded (step ControlMessage.sumHmac)
      (fun w e => Flawless PlainIp.plainIp ControlMessage.sumHmac w.tunnel e)
      (fresh (lineOf 1) ({} : MockDataplane) fun _ => 0) (call 1) := by decide +kernel
  have hall := (requests_wellFormed_iff PlainIp.plainIp PlainIp.plainIp_documented "/sbin/ip"
    ControlMessage.sumHmac (lineOf 1) (lineOf_accepted (by decide)) ({} : MockDataplane)
    (fun _ => 0) (call 1)).mpr hflawless
  exact ⟨by decide +kernel, hall (call 1) (List.prefix_refl _)⟩

/-- A name of 16 bytes is among the requests, which are not well formed then. -/
theorem overlong_of_names {calls : List DataplaneCall} {name : String} (h : names calls = [name])
    (hlong : 15 < (utf8 name).length) :
    ¬ ∀ params, .addSession params ∈ calls → params.WellFormed := by
  intro hall
  obtain ⟨call, hmem, hname⟩ := List.mem_filterMap.mp (h ▸ List.mem_singleton_self name)
  cases call with
  | addSession params =>
    cases hname
    have := (hall params hmem).ifname.2
    omega
  | _ => cases hname

/-- The default name of the session 1001 has 16 bytes, and so has that of the session `true`. -/
theorem defaultName_overlong :
    (lineOf 1001).Accepted ∧ names (askedFor (lineOf 1001) 1001) = ["l2tpeth-100-1001"] ∧
    (¬ ∀ params, .addSession params ∈ askedFor (lineOf 1001) 1001 → params.WellFormed) ∧
    lineOfTrue.Accepted ∧ names (askedFor lineOfTrue 1) = ["l2tpeth-100-True"] ∧
    ¬ ∀ params, .addSession params ∈ askedFor lineOfTrue 1 → params.WellFormed := by
  have hname : names (askedFor (lineOf 1001) 1001) = ["l2tpeth-100-1001"] := by decide +kernel
  have htrue : names (askedFor lineOfTrue 1) = ["l2tpeth-100-True"] := by decide +kernel
  exact ⟨lineOf_accepted (by decide), hname, overlong_of_names hname (by decide),
    lineOfTrue_accepted, htrue, overlong_of_names htrue (by decide)⟩

end Requests

end L2tpv3d
