import L2tpv3d.Wire.Avp

/-!
# L2tpv3d — control messages (`messages.py`)

The control-message record and its 12-byte header codec, the wrap-around sequence-number
arithmetic, the typed builders that return an AVP list ready for wrapping, and the parsers
that read one back. Signing is in `Wire/Auth.lean`.
-/

namespace L2tpv3d

open Py

/-- Fixed control-message header length in bytes. -/
def headerLen : Nat := 12

/-- L2TP protocol version for L2TPv3. -/
def version : Nat := 3

/-- Byte 0 of a control message: T=1, L=1, S=1, everything else reserved. -/
def ctrlFlagsByte0 : Nat := 0b11001000

/-- Byte 1 carries the version in its low nibble; the high nibble is reserved. -/
def versionByte1Mask : Nat := 0x0F

/-- Max control-message length: the Length field has 16 bits. -/
def maxMessageLen : Nat := 0xFFFF

/-- A parsed or to-be-serialised control message. -/
structure ControlMessage where
  controlConnectionId : Int
  ns : Int
  nr : Int
  avps : List AVP := []
  deriving DecidableEq, Repr

namespace ControlMessage

/-- A ZLB (Zero-Length Body) has a header only, no AVPs. -/
def isZlb (m : ControlMessage) : Bool := m.avps.isEmpty

/-- `_validate_fields` -/
def validateFields (m : ControlMessage) : Except Exn Unit := do
  let ccid := m.controlConnectionId
  let ns := m.ns
  let nr := m.nr
  raiseIf (ccid < 0 ∨ ccid > 0xFFFFFFFF)
    (.valueError s!"control_connection_id out of range: {ccid}")
  raiseIf (ns < 0 ∨ ns > 0xFFFF)
    (.valueError s!"ns out of range: {ns}")
  raiseIf (nr < 0 ∨ nr > 0xFFFF)
    (.valueError s!"nr out of range: {nr}")

/-- `b"".join(avp.encode(…) for avp in avps)` -/
def encodeBody (sharedSecret : Option SharedSecret) (randomVector : Option Bytes) :
    List AVP → Except Exn Bytes
  | [] => .ok []
  | avp :: rest => do
    let b ← avp.encode sharedSecret randomVector
    let bs ← encodeBody sharedSecret randomVector rest
    return b ++ bs

/-- `ControlMessage.encode` -/
def encode (m : ControlMessage) (sharedSecret : Option SharedSecret := none)
    (randomVector : Option Bytes := none) : Except Exn Bytes := do
  m.validateFields
  let body ← encodeBody sharedSecret randomVector m.avps
  let totalLen := headerLen + body.length
  raiseIf (totalLen > maxMessageLen)
    (.valueError s!"control message too long: {totalLen} > {maxMessageLen}")
  let b0 ← pack 1 ctrlFlagsByte0
  let b1 ← pack 1 (version &&& versionByte1Mask : Nat)
  let len ← pack 2 totalLen
  let ccid ← pack 4 m.controlConnectionId
  let ns ← pack 2 m.ns
  let nr ← pack 2 m.nr
  return b0 ++ b1 ++ len ++ ccid ++ ns ++ nr ++ body

/-- The check of byte 0, which pinpoints the bit that is wrong. -/
def checkFlags (b0 : Nat) : Except Exn Unit :=
  let got := hex b0
  let expected := hex ctrlFlagsByte0
  if b0 = ctrlFlagsByte0 then .ok ()
  else if b0 &&& 0x80 = 0 then
    .error (.valueError "T bit clear — data messages are handled elsewhere")
  else if b0 &&& 0x40 = 0 then
    .error (.valueError "L bit clear — control messages must have Length")
  else if b0 &&& 0x08 = 0 then
    .error (.valueError "S bit clear — control messages must have Sequence")
  else
    .error (.valueError
      s!"reserved bit set in flag byte 0 (got 0x{got}, expected 0x{expected})")

/-- `ControlMessage.decode` -/
def decode (buf : Bytes) (sharedSecret : Option SharedSecret := none) :
    Except Exn ControlMessage := do
  let bufLen := buf.length
  raiseIf (bufLen < headerLen)
    (.valueError
      s!"buffer too short for control-message header: {bufLen} < {headerLen}")
  let b0 := (← unpackFrom 1 buf 0).toNat
  let b1 := (← unpackFrom 1 buf 1).toNat
  let totalLen ← unpackFrom 2 buf 2
  let ccid ← unpackFrom 4 buf 4
  let ns ← unpackFrom 2 buf 8
  let nr ← unpackFrom 2 buf 10
  checkFlags b0
  let got := hex b1
  raiseIf (b1 &&& 0xF0 ≠ 0)
    (.valueError s!"reserved high nibble non-zero in byte 1 (got 0x{got})")
  let ver := b1 &&& versionByte1Mask
  raiseIf (ver ≠ version)
    (.valueError s!"unsupported L2TP version {ver}, expected {version}")
  -- trailing bytes are refused as well, although a datagram could carry them
  raiseIf (totalLen ≠ bufLen)
    (.valueError s!"header Length={totalLen} does not match buffer size {bufLen}")
  let avps ← AVP.decodeSequence buf headerLen sharedSecret
  return ⟨ccid, ns, nr, avps⟩

end ControlMessage

/-! ## Sequence-number arithmetic

The distance of two 16-bit numbers lies between -2^15 and 2^15 - 1; it tells which of two counters
is ahead as long as they are less than 2^15 apart. -/

/-- `seq_delta`: signed 16-bit distance from `b` to `a`. -/
def seqDelta (a b : Int) : Int :=
  let diff := (a - b) % 0x10000
  -- the distance 2^15 itself counts as behind
  if diff ≥ 0x8000 then diff - 0x10000 else diff

/-- `seq_advance` by one: the next sequence number, wrapping at 65535. -/
def seqAdvance (seq : Int) : Int := (seq + 1) % 0x10000

/-! ## Typed message builders

Each returns an AVP list that begins with its Message Type. Optional arguments add an AVP each, at
the place that the source gives it. -/

/-- An optional AVP: appended when its argument is not `None`. -/
def optionalAvp {α : Type} (build : α → Except Exn AVP) : Option α → Except Exn (List AVP)
  | none => .ok []
  | some a => do return [← build a]

/-- The arguments that SCCRQ and SCCRP share. -/
structure SccrxArgs where
  routerId : Int
  assignedCcid : Int
  hostName : String
  pwCapabilities : List Int
  receiveWindow : Int := 4
  vendorName : Option String := none
  firmwareRevision : Option Int := none
  authNonce : Option Bytes := none

/-- The AVP list of SCCRQ and SCCRP, which differ only in their message type. -/
def buildSccrxAvps (mt : MessageType) (a : SccrxArgs) : Except Exn (List AVP) := do
  let avps := [
    ← buildMessageType mt,
    ← buildRouterId a.routerId,
    ← buildAssignedControlConnectionId a.assignedCcid,
    ← buildPseudowireCapabilitiesList a.pwCapabilities,
    buildHostName a.hostName,
    ← buildReceiveWindowSize a.receiveWindow]
  let vendor ← optionalAvp (fun n => .ok (buildVendorName n)) a.vendorName
  let firmware ← optionalAvp buildFirmwareRevision a.firmwareRevision
  let nonce ← optionalAvp buildControlMessageAuthNonce a.authNonce
  return avps ++ vendor ++ firmware ++ nonce

/-- `build_sccrq_avps` -/
def buildSccrqAvps (a : SccrxArgs) : Except Exn (List AVP) := buildSccrxAvps .sccrq a

/-- `build_sccrp_avps` -/
def buildSccrpAvps (a : SccrxArgs) : Except Exn (List AVP) := buildSccrxAvps .sccrp a

/-- `build_scccn_avps` -/
def buildScccnAvps : Except Exn (List AVP) := do return [← buildMessageType .scccn]

/-- `build_hello_avps` -/
def buildHelloAvps : Except Exn (List AVP) := do return [← buildMessageType .hello]

/-- `build_stopccn_avps` -/
def buildStopccnAvps (assignedCcid resultCode : Int) (errorCode : Option Int := none)
    (errorMessage : String := "") : Except Exn (List AVP) := do
  return [
    ← buildMessageType .stopccn,
    ← buildAssignedControlConnectionId assignedCcid,
    ← buildResultCode resultCode errorCode errorMessage]

/-- The arguments that ICRQ, ICRP and ICCN share. -/
structure CallArgs where
  localSid : Int
  l2SpecificSublayer : Int := 1
  dataSequencing : Int := 0
  circuitStatus : Int := 0b11
  txConnectSpeed : Option Int := none
  rxConnectSpeed : Option Int := none

/-- `build_icrq_avps` -/
def buildIcrqAvps (a : CallArgs) (pseudowireType : Int) (remoteEndId : Option String := none)
    (assignedCookie : Option Bytes := none) : Except Exn (List AVP) := do
  let avps := [
    ← buildMessageType .icrq,
    ← buildLocalSessionId a.localSid,
    -- the SID of the peer is not known before its ICRP
    ← buildRemoteSessionId 0,
    ← buildPseudowireType pseudowireType,
    ← buildL2SpecificSublayer a.l2SpecificSublayer,
    ← buildDataSequencing a.dataSequencing,
    ← buildCircuitStatus a.circuitStatus]
  let endId ← optionalAvp (fun n => .ok (buildRemoteEndId n)) remoteEndId
  let cookie ← optionalAvp buildAssignedCookie assignedCookie
  let tx ← optionalAvp buildTxConnectSpeed a.txConnectSpeed
  let rx ← optionalAvp buildRxConnectSpeed a.rxConnectSpeed
  return avps ++ endId ++ cookie ++ tx ++ rx

/-- `build_icrp_avps` -/
def buildIcrpAvps (a : CallArgs) (remoteSid : Int) (assignedCookie : Option Bytes := none) :
    Except Exn (List AVP) := do
  let avps := [
    ← buildMessageType .icrp,
    ← buildLocalSessionId a.localSid,
    ← buildRemoteSessionId remoteSid,
    ← buildL2SpecificSublayer a.l2SpecificSublayer,
    ← buildDataSequencing a.dataSequencing,
    ← buildCircuitStatus a.circuitStatus]
  let cookie ← optionalAvp buildAssignedCookie assignedCookie
  let tx ← optionalAvp buildTxConnectSpeed a.txConnectSpeed
  let rx ← optionalAvp buildRxConnectSpeed a.rxConnectSpeed
  return avps ++ cookie ++ tx ++ rx

/-- `build_iccn_avps` -/
def buildIccnAvps (a : CallArgs) (remoteSid : Int) : Except Exn (List AVP) := do
  let avps := [
    ← buildMessageType .iccn,
    ← buildLocalSessionId a.localSid,
    ← buildRemoteSessionId remoteSid,
    ← buildL2SpecificSublayer a.l2SpecificSublayer,
    ← buildDataSequencing a.dataSequencing,
    ← buildCircuitStatus a.circuitStatus]
  let tx ← optionalAvp buildTxConnectSpeed a.txConnectSpeed
  let rx ← optionalAvp buildRxConnectSpeed a.rxConnectSpeed
  return avps ++ tx ++ rx

/-- `build_cdn_avps` -/
def buildCdnAvps (localSid remoteSid resultCode : Int) (errorCode : Option Int := none)
    (errorMessage : String := "") : Except Exn (List AVP) := do
  return [
    ← buildMessageType .cdn,
    ← buildLocalSessionId localSid,
    ← buildRemoteSessionId remoteSid,
    ← buildResultCode resultCode errorCode errorMessage]

/-! ## Parsers

Each reads a list of AVPs by attribute type, so the order of the list does not matter and further
AVPs are ignored. A mandatory field that is missing raises `ValueError`. -/

/-- `decode(avp) if avp else None` -/
def decodeIfPresent {α : Type} (decode : AVP → Except Exn α) : Option AVP → Except Exn (Option α)
  | none => .ok none
  | some avp => do return some (← decode avp)

/-- The AVP of a mandatory field, or `ValueError` with the given text. -/
def requireAvp (avp : Option AVP) (missing : String) : Except Exn AVP :=
  match avp with
  | none => .error (.valueError missing)
  | some a => .ok a

/-- `decode_remote_session_id(avp) if avp else 0` -/
def decodeRemoteSidOrZero (avp : Option AVP) : Except Exn Int := do
  return (← decodeIfPresent decodeRemoteSessionId avp).getD 0

/-- Fields extracted from any of ICRQ / ICRP / ICCN. -/
structure SessionFields where
  localSid : Int
  remoteSid : Int
  pseudowireType : Option Int := none
  l2SpecificSublayer : Option Int := none
  dataSequencing : Option Int := none
  circuitStatus : Option Int := none
  assignedCookie : Option Bytes := none
  remoteEndId : Option Bytes := none
  txConnectSpeed : Option Int := none
  rxConnectSpeed : Option Int := none
  deriving DecidableEq, Repr

/-- `parse_session_fields` -/
def parseSessionFields (avps : List AVP) : Except Exn SessionFields := do
  let localAvp ← requireAvp (findAvp avps .localSessionId)
    "session message missing Local Session ID AVP"
  return {
    localSid := ← decodeLocalSessionId localAvp
    remoteSid := ← decodeRemoteSidOrZero (findAvp avps .remoteSessionId)
    pseudowireType := ← decodeIfPresent decodePseudowireType (findAvp avps .pseudowireType)
    l2SpecificSublayer :=
      ← decodeIfPresent decodeL2SpecificSublayer (findAvp avps .l2SpecificSublayer)
    dataSequencing := ← decodeIfPresent decodeDataSequencing (findAvp avps .dataSequencing)
    circuitStatus := ← decodeIfPresent decodeCircuitStatus (findAvp avps .circuitStatus)
    assignedCookie := ← decodeIfPresent decodeAssignedCookie (findAvp avps .assignedCookie)
    remoteEndId := ← decodeIfPresent decodeRemoteEndId (findAvp avps .remoteEndId)
    txConnectSpeed := ← decodeIfPresent decodeTxConnectSpeed (findAvp avps .txConnectSpeed)
    rxConnectSpeed := ← decodeIfPresent decodeRxConnectSpeed (findAvp avps .rxConnectSpeed) }

/-- Fields extracted from a CDN message. -/
structure CdnFields where
  localSid : Int
  remoteSid : Int
  resultCode : Int
  errorCode : Option Int
  errorMessage : Bytes
  deriving DecidableEq, Repr

/-- `parse_cdn_fields` -/
def parseCdnFields (avps : List AVP) : Except Exn CdnFields := do
  let localAvp ← requireAvp (findAvp avps .localSessionId) "CDN missing Local Session ID AVP"
  let rcAvp ← requireAvp (findAvp avps .resultCode) "CDN missing Result Code AVP"
  let (result, error, errMsg) ← decodeResultCode rcAvp
  return {
    localSid := ← decodeLocalSessionId localAvp
    remoteSid := ← decodeRemoteSidOrZero (findAvp avps .remoteSessionId)
    resultCode := result
    errorCode := error
    errorMessage := errMsg }

/-- Fields extracted from a parsed SCCRQ or SCCRP. -/
structure SccrxFields where
  routerId : Int
  assignedCcid : Int
  hostName : Bytes
  pwCapabilities : List Int
  receiveWindow : Option Int
  authNonce : Option Bytes
  deriving DecidableEq, Repr

/-- `parse_sccrx_fields` -/
def parseSccrxFields (avps : List AVP) : Except Exn SccrxFields := do
  let routerIdAvp ← requireAvp (findAvp avps .routerId) "SCCRQ/SCCRP missing Router ID AVP"
  let ccidAvp ← requireAvp (findAvp avps .assignedControlConnectionId)
    "SCCRQ/SCCRP missing Assigned Control Connection ID AVP"
  let hostAvp ← requireAvp (findAvp avps .hostName) "SCCRQ/SCCRP missing Host Name AVP"
  let pwcAvp ← requireAvp (findAvp avps .pseudowireCapabilitiesList)
    "SCCRQ/SCCRP missing Pseudowire Capabilities List AVP"
  return {
    routerId := ← decodeRouterId routerIdAvp
    assignedCcid := ← decodeAssignedControlConnectionId ccidAvp
    hostName := ← decodeHostName hostAvp
    pwCapabilities := ← decodePseudowireCapabilitiesList pwcAvp
    receiveWindow := ← decodeIfPresent decodeReceiveWindowSize (findAvp avps .receiveWindowSize)
    authNonce := ← decodeIfPresent decodeControlMessageAuthNonce (findAvp avps .ctlMsgAuthNonce) }

/-- Fields extracted from a StopCCN. -/
structure StopCcnFields where
  assignedCcid : Int
  resultCode : Int
  errorCode : Option Int
  errorMessage : Bytes
  deriving DecidableEq, Repr

/-- `parse_stopccn_fields` -/
def parseStopccnFields (avps : List AVP) : Except Exn StopCcnFields := do
  let ccidAvp ← requireAvp (findAvp avps .assignedControlConnectionId)
    "StopCCN missing Assigned Control Connection ID AVP"
  let rcAvp ← requireAvp (findAvp avps .resultCode) "StopCCN missing Result Code AVP"
  let (result, error, errMsg) ← decodeResultCode rcAvp
  return {
    assignedCcid := ← decodeAssignedControlConnectionId ccidAvp
    resultCode := result
    errorCode := error
    errorMessage := errMsg }

/-- `get_message_type`: the numeric Message Type, or `None` if absent. -/
def getMessageType (avps : List AVP) : Except Exn (Option Int) :=
  match findAvp avps .messageType with
  | none => .ok none
  | some mt => do return some (← decodeMessageType mt)

end L2tpv3d
