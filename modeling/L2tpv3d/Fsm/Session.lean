import L2tpv3d.Fsm.Tunnel
import L2tpv3d.Py.Text

/-!
# L2tpv3d — the session state machine (`session_fsm.py`)

One machine per configured pseudowire, in the shape of the tunnel machine. The reason
carried by `sessionTornDown` is kept as data.
-/

namespace L2tpv3d

open Py

/-- `SessionState` -/
inductive SessionState where
  | idle
  | waitSessionReply
  | waitSessionConnect
  | established
  | sendCdn
  deriving DecidableEq, Repr

/-- `SessionParams` of `dataplane.py`: what the kernel session is created from. -/
structure SessionParams where
  localCcid : Int
  localSid : Int
  remoteSid : Int
  ifname : String
  cookie : Option Bytes := none
  peerCookie : Option Bytes := none
  l2specType : String := "default"
  pseudowireType : String := "ethernet"
  /-- `local_ccid` is a `bool`, which shows where it is printed. -/
  localCcidIsBool : Bool := false
  /-- And `local_sid`. -/
  localSidIsBool : Bool := false
  deriving DecidableEq

/-- Why a session went down. -/
inductive SessionDownReason where
  | localClose
  | tunnelDown
  | icrqInNonIdle
  | malformedIcrp
  | iccnLocalSidMismatch
  | malformedIccn
  | peerCdn (resultCode : Int) (errorCode : Option Int)
  | peerCdnUnparseable
  deriving DecidableEq, Repr

/-- What the caller of the session machine must do. -/
inductive SessionAction where
  | sendMessage (avps : List AVP)
  | dataplaneAddSession (params : SessionParams)
  | dataplaneDelSession (localCcid localSid : Int)
  | sessionEstablished
  | sessionTornDown (reason : SessionDownReason)
  deriving DecidableEq

/-- `SessionConfig` -/
structure SessionConfig where
  name : String
  localCcid : Int
  localSid : Int
  pseudowireType : Int
  initiator : Bool := true
  l2SpecificSublayer : Int := 1
  dataSequencing : Int := 0
  circuitStatus : Int := 0b11
  cookie : Option Bytes := none
  peerCookie : Option Bytes := none
  txConnectSpeed : Option Int := none
  rxConnectSpeed : Option Int := none
  ifname : Option String := none
  /-- `local_ccid` is a `bool`, which shows where it is printed. -/
  localCcidIsBool : Bool := false
  /-- And `local_sid`. -/
  localSidIsBool : Bool := false
  deriving DecidableEq

/-- `SessionFSM` -/
structure SessionFSM where
  config : SessionConfig
  state : SessionState := .idle
  peerSid : Int := 0
  peerCookieLearned : Option Bytes := none
  deriving DecidableEq

/-- The arguments that the ICRQ, ICRP and ICCN builders share. -/
def SessionConfig.callArgs (config : SessionConfig) : CallArgs where
  localSid := config.localSid
  l2SpecificSublayer := config.l2SpecificSublayer
  dataSequencing := config.dataSequencing
  circuitStatus := config.circuitStatus
  txConnectSpeed := config.txConnectSpeed
  rxConnectSpeed := config.rxConnectSpeed

/-- `x or y` on values of which `None` and the empty one are false. -/
def orElseNonempty {α : Type} (x y : Option (List α)) : Option (List α) :=
  match x with
  | some (a :: as) => some (a :: as)
  | _ => y

namespace SessionFSM

open Prog

/-- `_transition` -/
def transition (newState : SessionState) : Prog SessionFSM Unit :=
  modify fun self => { self with state := newState }

/-- `self.config.ifname or f"l2tpeth-{local_ccid}-{local_sid}"` -/
def ifname (self : SessionFSM) : String :=
  let localCcid := intStr self.config.localCcidIsBool self.config.localCcid
  let localSid := intStr self.config.localSidIsBool self.config.localSid
  match self.config.ifname with
  | none => s!"l2tpeth-{localCcid}-{localSid}"
  | some name => if name = "" then s!"l2tpeth-{localCcid}-{localSid}" else name

/-- `_dataplane_params` -/
def dataplaneParams (self : SessionFSM) : SessionParams where
  localCcid := self.config.localCcid
  localSid := self.config.localSid
  remoteSid := self.peerSid
  ifname := self.ifname
  cookie := self.config.cookie
  peerCookie := orElseNonempty self.peerCookieLearned self.config.peerCookie
  l2specType := if self.config.l2SpecificSublayer = 1 then "default" else "none"
  pseudowireType :=
    if self.config.pseudowireType = PseudowireType.ethernet.code then "ethernet"
    else if self.config.pseudowireType = PseudowireType.ethernetVlan.code then "ethernet-vlan"
    else "ethernet"
  localCcidIsBool := self.config.localCcidIsBool
  localSidIsBool := self.config.localSidIsBool

/-- What a teardown adds when the session was up: the netdev goes, then the notification. -/
def downActions (self : SessionFSM) (reason : SessionDownReason) : List SessionAction :=
  if self.state = .established then
    [.dataplaneDelSession self.config.localCcid self.config.localSid, .sessionTornDown reason]
  else []

/-- `on_tunnel_established` -/
def onTunnelEstablished : Prog SessionFSM (List SessionAction) := do
  let self ← get
  if self.config.initiator = false then return []
  else if self.state ≠ .idle then return []
  else
    let avps ← ofExcept (buildIcrqAvps self.config.callArgs self.config.pseudowireType
      (some self.config.name) self.config.cookie)
    transition .waitSessionReply
    return [.sendMessage avps]

/-- `on_local_close` -/
def onLocalClose (resultCode : Int := ResultCode.adminShutdown.code) :
    Prog SessionFSM (List SessionAction) := do
  let self ← get
  if self.state = .idle ∨ self.state = .sendCdn then return []
  else
    let avps ← ofExcept (buildCdnAvps self.config.localSid self.peerSid resultCode)
    transition .sendCdn
    return [.sendMessage avps] ++ self.downActions .localClose

/-- `on_tunnel_down` -/
def onTunnelDown : Prog SessionFSM (List SessionAction) := do
  let self ← get
  if self.state = .idle then return []
  else
    transition .idle
    return self.downActions .tunnelDown

/-- `_teardown_cdn` -/
def teardownCdn (reason : SessionDownReason) : Prog SessionFSM (List SessionAction) := do
  let self ← get
  let avps ← ofExcept
    (buildCdnAvps self.config.localSid self.peerSid ResultCode.generalError.code)
  transition .sendCdn
  return [.sendMessage avps] ++ self.downActions reason

/-- Learn the peer's session ID, and its cookie if it sent one. -/
def learnPeer (fields : SessionFields) : Prog SessionFSM Unit :=
  modify fun self => { self with
    peerSid := fields.localSid
    peerCookieLearned :=
      match fields.assignedCookie with
      | none => self.peerCookieLearned
      | some cookie => some cookie }

/-- `_on_icrq` -/
def onIcrq (msg : ControlMessage) : Prog SessionFSM (List SessionAction) := do
  let self ← get
  if self.state ≠ .idle then teardownCdn .icrqInNonIdle
  else
    match ← ofExcept (tryValueError (parseSessionFields msg.avps)) with
    | none => return []
    | some fields =>
      learnPeer fields
      let avps ← ofExcept (buildIcrpAvps self.config.callArgs fields.localSid self.config.cookie)
      transition .waitSessionConnect
      return [.sendMessage avps]

/-- `_on_icrp` -/
def onIcrp (msg : ControlMessage) : Prog SessionFSM (List SessionAction) := do
  let self ← get
  if self.state ≠ .waitSessionReply then return []
  else
    match ← ofExcept (tryValueError (parseSessionFields msg.avps)) with
    | none => teardownCdn .malformedIcrp
    | some fields =>
      learnPeer fields
      let avps ← ofExcept (buildIccnAvps self.config.callArgs fields.localSid)
      let dpParams := (← get).dataplaneParams
      transition .established
      return [.sendMessage avps, .dataplaneAddSession dpParams, .sessionEstablished]

/-- `_on_iccn` -/
def onIccn (msg : ControlMessage) : Prog SessionFSM (List SessionAction) := do
  let self ← get
  if self.state ≠ .waitSessionConnect then return []
  else
    match ← ofExcept (tryValueError (parseSessionFields msg.avps)) with
    | none => teardownCdn .malformedIccn
    | some fields =>
      if fields.localSid ≠ self.peerSid then teardownCdn .iccnLocalSidMismatch
      else
        transition .established
        return [.dataplaneAddSession self.dataplaneParams, .sessionEstablished]

/-- `_on_cdn` -/
def onCdn (msg : ControlMessage) : Prog SessionFSM (List SessionAction) := do
  let self ← get
  if self.state = .idle then return []
  else
    let reason := match ← ofExcept (tryValueError (parseCdnFields msg.avps)) with
      | some fields => .peerCdn fields.resultCode fields.errorCode
      | none => .peerCdnUnparseable
    transition .idle
    return self.downActions reason

/-- `on_message`: dispatch on the Message Type AVP. -/
def onMessage (msg : ControlMessage) : Prog SessionFSM (List SessionAction) := do
  let mt ← ofExcept (getMessageType msg.avps)
  if mt = some MessageType.icrq.code then onIcrq msg
  else if mt = some MessageType.icrp.code then onIcrp msg
  else if mt = some MessageType.iccn.code then onIccn msg
  else if mt = some MessageType.cdn.code then onCdn msg
  else return []

end SessionFSM

end L2tpv3d
