import L2tpv3d.Wire.Messages
import Mathlib.Data.Rat.Defs

/-!
# L2tpv3d — the tunnel state machine (`tunnel_fsm.py`)

Each `on_*` method is a program over the machine's fields that returns the actions the
caller must execute: a builder may raise after some fields were written.

The reason carried by `tornDown`, a text that is only logged, is kept as data.
-/

namespace L2tpv3d

open Py

/-- `TunnelState` -/
inductive TunnelState where
  | idle
  | waitCtlReply
  | waitCtlConn
  | established
  | sendStopccn
  deriving DecidableEq, Repr

/-- `ResultCode`, the codes that are sent. -/
inductive ResultCode where
  | generalError
  | adminShutdown
  deriving DecidableEq, Repr

/-- The number of a result code on the wire. -/
def ResultCode.code : ResultCode → Int
  | .generalError => 2
  | .adminShutdown => 6

/-- Why a tunnel went down. -/
inductive TunnelDownReason where
  | localClose
  | peerDead
  | peerRestart
  | malformedSccrp
  | peerStopccn (fields : StopCcnFields)
  | peerStopccnUnparseable
  deriving DecidableEq, Repr

/-- What the caller of the tunnel machine must do. -/
inductive TunnelAction where
  | sendMessage (avps : List AVP)
  | setHelloTimer (seconds : ℚ)
  | clearHelloTimer
  | established
  | tornDown (reason : TunnelDownReason)
  deriving DecidableEq

/-- `TunnelConfig` -/
structure TunnelConfig where
  hostName : String
  routerId : Int
  localCcid : Int
  pwCapabilities : List Int := [PseudowireType.ethernet.code, PseudowireType.ethernetVlan.code]
  receiveWindow : Int := 4
  helloInterval : ℚ := 60
  vendorName : Option String := none
  firmwareRevision : Option Int := none
  deriving DecidableEq

/-- `TunnelFSM` -/
structure TunnelFSM where
  config : TunnelConfig
  state : TunnelState := .idle
  peerCcid : Int := 0
  peerHostName : Bytes := []
  peerRouterId : Int := 0
  deriving DecidableEq

/-- The arguments of the SCCRQ and SCCRP builders. -/
def TunnelConfig.sccrxArgs (config : TunnelConfig) : SccrxArgs where
  routerId := config.routerId
  assignedCcid := config.localCcid
  hostName := config.hostName
  pwCapabilities := config.pwCapabilities
  receiveWindow := config.receiveWindow
  vendorName := config.vendorName
  firmwareRevision := config.firmwareRevision

namespace TunnelFSM

open Prog

/-- `_transition` -/
def transition (newState : TunnelState) : Prog TunnelFSM Unit :=
  modify fun self => { self with state := newState }

/-- The actions that follow the StopCCN of a local teardown: the notification is sent only
when the tunnel was up. -/
def stopActions (prior : TunnelState) (avps : List AVP) (reason : TunnelDownReason) :
    List TunnelAction :=
  [.sendMessage avps, .clearHelloTimer]
    ++ if prior = .established then [.tornDown reason] else []

/-- The actions of a teardown that sends nothing. -/
def dropActions (prior : TunnelState) (reason : TunnelDownReason) : List TunnelAction :=
  [.clearHelloTimer] ++ if prior = .established then [.tornDown reason] else []

/-- `on_local_open` -/
def onLocalOpen : Prog TunnelFSM (List TunnelAction) := do
  let self ← get
  if self.state ≠ .idle then return []
  else
    let avps ← ofExcept (buildSccrqAvps self.config.sccrxArgs)
    transition .waitCtlReply
    return [.sendMessage avps]

/-- `on_local_close` -/
def onLocalClose (resultCode : Int := ResultCode.adminShutdown.code) :
    Prog TunnelFSM (List TunnelAction) := do
  let self ← get
  if self.state = .idle ∨ self.state = .sendStopccn then return []
  else
    let avps ← ofExcept (buildStopccnAvps self.config.localCcid resultCode)
    transition .sendStopccn
    return stopActions self.state avps .localClose

/-- `on_hello_timer` -/
def onHelloTimer : Prog TunnelFSM (List TunnelAction) := do
  let self ← get
  if self.state ≠ .established then return []
  else
    let avps ← ofExcept buildHelloAvps
    return [.sendMessage avps, .setHelloTimer self.config.helloInterval]

/-- `on_peer_dead` -/
def onPeerDead : Prog TunnelFSM (List TunnelAction) := do
  let self ← get
  if self.state = .idle then return []
  else
    transition .idle
    return dropActions self.state .peerDead

/-- `_teardown_and_notify` -/
def teardownAndNotify (reason : TunnelDownReason) : Prog TunnelFSM (List TunnelAction) := do
  let self ← get
  let avps ← ofExcept (buildStopccnAvps self.config.localCcid ResultCode.generalError.code)
  transition .sendStopccn
  return stopActions self.state avps reason

/-- Capture the peer's identity. -/
def capturePeer (fields : SccrxFields) : Prog TunnelFSM Unit :=
  modify fun self => { self with
    peerCcid := fields.assignedCcid
    peerHostName := fields.hostName
    peerRouterId := fields.routerId }

/-- `_on_sccrq` -/
def onSccrq (msg : ControlMessage) : Prog TunnelFSM (List TunnelAction) := do
  let self ← get
  if self.state ≠ .idle then teardownAndNotify .peerRestart
  else
    match ← ofExcept (tryValueError (parseSccrxFields msg.avps)) with
    | none => return []
    | some fields =>
      capturePeer fields
      let avps ← ofExcept (buildSccrpAvps self.config.sccrxArgs)
      transition .waitCtlConn
      return [.sendMessage avps]

/-- `_on_sccrp` -/
def onSccrp (msg : ControlMessage) : Prog TunnelFSM (List TunnelAction) := do
  let self ← get
  if self.state ≠ .waitCtlReply then return []
  else
    match ← ofExcept (tryValueError (parseSccrxFields msg.avps)) with
    | none => teardownAndNotify .malformedSccrp
    | some fields =>
      capturePeer fields
      let avps ← ofExcept buildScccnAvps
      transition .established
      return [.sendMessage avps, .setHelloTimer self.config.helloInterval, .established]

/-- `_on_scccn` -/
def onScccn (_msg : ControlMessage) : Prog TunnelFSM (List TunnelAction) := do
  let self ← get
  if self.state ≠ .waitCtlConn then return []
  else
    transition .established
    return [.setHelloTimer self.config.helloInterval, .established]

/-- `_on_hello`: a keepalive; the transport already took its Nr. -/
def onHello (_msg : ControlMessage) : Prog TunnelFSM (List TunnelAction) := return []

/-- `_on_stopccn` -/
def onStopccn (msg : ControlMessage) : Prog TunnelFSM (List TunnelAction) := do
  let self ← get
  if self.state = .idle then return []
  else
    let reason := match ← ofExcept (tryValueError (parseStopccnFields msg.avps)) with
      | some fields => .peerStopccn fields
      | none => .peerStopccnUnparseable
    transition .idle
    return dropActions self.state reason

/-- `on_message`: dispatch on the Message Type AVP; anything else is ignored. -/
def onMessage (msg : ControlMessage) : Prog TunnelFSM (List TunnelAction) := do
  let mt ← ofExcept (getMessageType msg.avps)
  if mt = some MessageType.sccrq.code then onSccrq msg
  else if mt = some MessageType.sccrp.code then onSccrp msg
  else if mt = some MessageType.scccn.code then onScccn msg
  else if mt = some MessageType.hello.code then onHello msg
  else if mt = some MessageType.stopccn.code then onStopccn msg
  else return []

end TunnelFSM

end L2tpv3d
