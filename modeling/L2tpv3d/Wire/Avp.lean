import L2tpv3d.Py.Struct

/-!
# L2tpv3d — attribute-value pairs (`avp.py`)

The AVP record, its 6-byte header codec, the hidden-AVP keystream, and the typed factories
and decoders the control messages are built from. Definitions only; the codec's theorems
are in `Wire/Codec.lean`.

Python integers are `Int`, so that the range checks of the source are checks here too.
`hashlib.md5` is a field of `SharedSecret`: it is called only where a secret is supplied.
-/

namespace L2tpv3d

open Py

/-! ## Constants and registries

The numbers that the source takes from the IANA registries. An enumeration keeps its members apart,
and `code` gives the number that stands on the wire. -/

/-- IETF vendor ID (all standard AVPs). -/
def vendorIetf : Int := 0

/-- Fixed AVP header length in bytes (M/H/rsvd/length/vendor/attr). -/
def avpHeaderLen : Nat := 6

/-- Max total AVP length: the Length field has 10 bits. -/
def avpMaxLen : Nat := 0x03FF

/-- MD5 digest size in bytes; used for the hidden-AVP keystream. -/
def md5Block : Nat := 16

/-- IETF-vendor AVP attribute types that the control messages use. -/
inductive AttrType where
  | messageType
  | resultCode
  | firmwareRevision
  | hostName
  | vendorName
  | receiveWindowSize
  | randomVector
  | messageDigest
  | routerId
  | assignedControlConnectionId
  | pseudowireCapabilitiesList
  | localSessionId
  | remoteSessionId
  | assignedCookie
  | remoteEndId
  | pseudowireType
  | l2SpecificSublayer
  | dataSequencing
  | circuitStatus
  | ctlMsgAuthNonce
  | txConnectSpeed
  | rxConnectSpeed
  deriving DecidableEq, Repr

/-- The number of an attribute type in the IANA registry. -/
def AttrType.code : AttrType → Int
  | .messageType => 0
  | .resultCode => 1
  | .firmwareRevision => 6
  | .hostName => 7
  | .vendorName => 8
  | .receiveWindowSize => 10
  | .randomVector => 36
  | .messageDigest => 59
  | .routerId => 60
  | .assignedControlConnectionId => 61
  | .pseudowireCapabilitiesList => 62
  | .localSessionId => 63
  | .remoteSessionId => 64
  | .assignedCookie => 65
  | .remoteEndId => 66
  | .pseudowireType => 68
  | .l2SpecificSublayer => 69
  | .dataSequencing => 70
  | .circuitStatus => 71
  | .ctlMsgAuthNonce => 73
  | .txConnectSpeed => 74
  | .rxConnectSpeed => 75

/-- Control-message types carried in the Message Type AVP. -/
inductive MessageType where
  | sccrq
  | sccrp
  | scccn
  | stopccn
  | hello
  | icrq
  | icrp
  | iccn
  | cdn
  deriving DecidableEq, Repr

/-- The number of a message type on the wire. -/
def MessageType.code : MessageType → Int
  | .sccrq => 1
  | .sccrp => 2
  | .scccn => 3
  | .stopccn => 4
  | .hello => 6
  | .icrq => 10
  | .icrp => 11
  | .iccn => 12
  | .cdn => 14

/-- Pseudowire types the daemon ships. -/
inductive PseudowireType where
  | ethernetVlan
  | ethernet
  deriving DecidableEq, Repr

/-- The number of a pseudowire type on the wire. -/
def PseudowireType.code : PseudowireType → Int
  | .ethernetVlan => 4
  | .ethernet => 5

/-- Hash Type field of the Message Digest AVP. -/
inductive DigestHash where
  | hmacMd5
  | hmacSha1
  deriving DecidableEq, Repr

/-- The hash-type byte on the wire. -/
def DigestHash.code : DigestHash → Int
  | .hmacMd5 => 0
  | .hmacSha1 => 1

/-! ## The AVP record

The value is the plain one, also of an AVP whose H bit is set: hiding happens in `encode` and
`decode_one`. -/

/-- A single Attribute-Value Pair; `value` is always the decoded (unhidden) value. -/
structure AVP where
  attributeType : Int
  value : Bytes := []
  mandatory : Bool := true
  hidden : Bool := false
  vendorId : Int := vendorIetf
  deriving DecidableEq, Repr

/-- A shared secret, with the `hashlib.md5(·).digest()` it is used with. -/
structure SharedSecret where
  md5 : Bytes → Bytes
  secret : Bytes

/-! ## Hidden-AVP keystream

A chain of MD5 digests: the first block from the attribute type, the secret and the Random Vector,
each later one from the secret and the block before it. -/

/-- The blocks `pₙ = MD5(secret ‖ pₙ₋₁)` after `prev`, for as long as `ks` is shorter than
`length`; each round adds a block, so `length` rounds are enough. -/
def keystreamLoop (s : SharedSecret) (length : Nat) : Nat → Bytes → Bytes → Bytes
  | 0, _, ks => ks
  | fuel + 1, prev, ks =>
    if ks.length < length then
      let next := s.md5 (s.secret ++ prev)
      keystreamLoop s length fuel next (ks ++ next)
    else ks

/-- `_generate_keystream`: `length` bytes of MD5 keystream. -/
def generateKeystream (attributeType : Int) (s : SharedSecret) (randomVector : Bytes)
    (length : Nat) : Except Exn Bytes :=
  if length = 0 then .ok []
  else do
    let attrBytes ← pack 2 attributeType
    -- the first block is salted with the attribute type and the Random Vector
    let prev := s.md5 (attrBytes ++ s.secret ++ randomVector)
    return (keystreamLoop s length length prev prev).take length

/-- `_hide_value`: length prefix, value, zero padding to a whole block, all XOR-ed with the
keystream. -/
def hideValue (attributeType : Int) (plaintext : Bytes) (s : SharedSecret)
    (randomVector : Bytes) : Except Exn Bytes := do
  let originalLen := plaintext.length
  raiseIf (originalLen > 0xFFFF)
    (.valueError s!"hidden AVP value too long: {originalLen}")
  let body := beBytes 2 originalLen ++ plaintext
  -- no padding when the body already is a whole number of blocks
  let pad := (md5Block - body.length % md5Block) % md5Block
  let body := body ++ List.replicate pad 0
  let keystream ← generateKeystream attributeType s randomVector body.length
  return List.zipWith (· ^^^ ·) body keystream

/-- `_unhide_value`: reverse of `hideValue`; strips the length prefix and the padding. -/
def unhideValue (attributeType : Int) (ciphertext : Bytes) (s : SharedSecret)
    (randomVector : Bytes) : Except Exn Bytes := do
  let len := ciphertext.length
  raiseIf (len < md5Block ∨ len % md5Block ≠ 0)
    (.valueError
      s!"hidden AVP ciphertext length {len} is not a non-zero multiple of {md5Block}")
  let keystream ← generateKeystream attributeType s randomVector len
  let body := List.zipWith (· ^^^ ·) ciphertext keystream
  -- the length prefix is read under the keystream, so a wrong secret shows up here, if at all
  let originalLen ← unpackFrom 2 body 0
  let available := body.length - 2
  raiseIf (2 + originalLen > body.length)
    (.valueError
      s!"hidden AVP original length {originalLen} exceeds decrypted body ({available} bytes available)")
  return slice body 2 (2 + originalLen.toNat)

/-! ## Encoding and decoding

Six bytes of header: two flag bits and the length, the vendor, and the type. The decoder checks the
length against the header and against the end of the buffer before it reads the value. -/

namespace AVP

/-- Byte 0 of the header: M(1) | H(1) | rsvd(4)=0 | length_high(2). -/
def headerByte0 (mandatory hidden : Bool) (totalLen : Nat) : Nat :=
  ((if mandatory then 1 else 0) <<< 7) ||| ((if hidden then 1 else 0) <<< 6)
    ||| ((totalLen >>> 8) &&& 0x03)

/-- Byte 1 of the header: length_low(8). -/
def headerByte1 (totalLen : Nat) : Nat := totalLen &&& 0xFF

/-- The value field of the encoding: hidden when the H bit is set. -/
def valueToWire (avp : AVP) (sharedSecret : Option SharedSecret)
    (randomVector : Option Bytes) : Except Exn Bytes :=
  if avp.hidden then
    match sharedSecret, randomVector with
    | some s, some rv => hideValue avp.attributeType avp.value s rv
    | _, _ => .error (.valueError "hidden AVP requires shared_secret and random_vector")
  else .ok avp.value

/-- The value of a decoded AVP: unhidden when the H bit is set. -/
def valueOfWire (hidden : Bool) (attrType : Int) (valueField : Bytes)
    (sharedSecret : Option SharedSecret) (randomVector : Option Bytes) : Except Exn Bytes :=
  if hidden then
    match sharedSecret, randomVector with
    | some s, some rv => unhideValue attrType valueField s rv
    | _, _ =>
      .error (.valueError
        "hidden AVP encountered but shared_secret / random_vector not supplied")
  else .ok valueField

/-- `AVP.encode`. -/
def encode (avp : AVP) (sharedSecret : Option SharedSecret := none)
    (randomVector : Option Bytes := none) : Except Exn Bytes := do
  let vendorId := avp.vendorId
  let attributeType := avp.attributeType
  raiseIf (vendorId < 0 ∨ vendorId > 0xFFFF)
    (.valueError s!"vendor_id out of range: {vendorId}")
  raiseIf (attributeType < 0 ∨ attributeType > 0xFFFF)
    (.valueError s!"attribute_type out of range: {attributeType}")
  -- the length that is checked below is that of the value on the wire, hidden or not
  let valueField ← avp.valueToWire sharedSecret randomVector
  let totalLen := avpHeaderLen + valueField.length
  raiseIf (totalLen > avpMaxLen)
    (.valueError
      s!"AVP too long: {totalLen} > {avpMaxLen} (attribute_type={attributeType})")
  let b0 ← pack 1 (headerByte0 avp.mandatory avp.hidden totalLen)
  let b1 ← pack 1 (headerByte1 totalLen)
  let vendor ← pack 2 vendorId
  let attr ← pack 2 attributeType
  return b0 ++ b1 ++ vendor ++ attr ++ valueField

/-- `AVP.decode_one`: one AVP at `offset`, and the offset of the next one. -/
def decodeOne (buf : Bytes) (offset : Nat) (sharedSecret : Option SharedSecret := none)
    (randomVector : Option Bytes := none) : Except Exn (AVP × Nat) := do
  let bufLen := buf.length
  let remaining : Int := bufLen - offset
  raiseIf (remaining < avpHeaderLen)
    (.valueError
      s!"buffer too short for AVP header at offset {offset}: have {remaining}, need {avpHeaderLen}")
  let b0 := (← unpackFrom 1 buf offset).toNat
  let b1 := (← unpackFrom 1 buf (offset + 1)).toNat
  let vendorId ← unpackFrom 2 buf (offset + 2)
  let attrType ← unpackFrom 2 buf (offset + 4)
  let mandatory := b0 &&& 0x80 != 0
  let hidden := b0 &&& 0x40 != 0
  let rsvd := (b0 >>> 2) &&& 0x0F
  let rsvdHex := hex rsvd
  raiseIf (rsvd ≠ 0)
    (.valueError s!"AVP reserved bits non-zero (got 0x{rsvdHex}) at offset {offset}")
  -- 10 bits, the upper two in byte 0
  let totalLen := ((b0 &&& 0x03) <<< 8) ||| b1
  raiseIf (totalLen < avpHeaderLen)
    (.valueError
      s!"AVP length {totalLen} < header size {avpHeaderLen} at offset {offset}")
  raiseIf (offset + totalLen > bufLen)
    (.valueError
      s!"AVP length {totalLen} extends past buffer (offset={offset}, buf_len={bufLen})")
  let valueField := slice buf (offset + avpHeaderLen) (offset + totalLen)
  let value ← valueOfWire hidden attrType valueField sharedSecret randomVector
  return (⟨attrType, value, mandatory, hidden, vendorId⟩, offset + totalLen)

/-- The loop of `AVP.decode_sequence`, with a bound on its rounds. -/
def decodeLoop (buf : Bytes) (sharedSecret : Option SharedSecret) :
    Nat → Nat → Option Bytes → List AVP → Except Exn (List AVP)
  | 0, pos, _, result => if pos < buf.length then .error .loopNotDone else .ok result
  | fuel + 1, pos, randomVector, result =>
    if pos < buf.length then do
      let (avp, next) ← decodeOne buf pos sharedSecret randomVector
      -- a Random Vector AVP holds for the hidden AVPs behind it, until the next one
      let randomVector :=
        if avp.vendorId = vendorIetf ∧ avp.attributeType = AttrType.randomVector.code then
          some avp.value
        else randomVector
      decodeLoop buf sharedSecret fuel next randomVector (result ++ [avp])
    else .ok result

/-- `AVP.decode_sequence`: every AVP from `offset` to the end of `buf`. -/
def decodeSequence (buf : Bytes) (offset : Nat) (sharedSecret : Option SharedSecret := none) :
    Except Exn (List AVP) :=
  decodeLoop buf sharedSecret buf.length offset none []

end AVP

/-- `find_avp` among the IETF AVPs: the first one of the given type. -/
def findAvp (avps : List AVP) (attributeType : AttrType) : Option AVP :=
  avps.find? fun avp => avp.vendorId == vendorIetf && avp.attributeType == attributeType.code

/-! ## Typed factories

One function for each attribute type. They share a handful of bodies, since most values are a number
of fixed width; which range is checked differs, and with it the exception. -/

/-- An AVP whose value is one unsigned 16-bit field, packed without a range check of its
own. -/
def u16Avp (attr : AttrType) (value : Int) : Except Exn AVP := do
  return ⟨attr.code, ← pack 2 value, true, false, vendorIetf⟩

/-- An AVP whose value is one unsigned 16-bit field, checked under the name `name`. -/
def checkedU16Avp (attr : AttrType) (value : Int) (name : String) (mandatory : Bool) :
    Except Exn AVP := do
  raiseIf (value < 0 ∨ value > 0xFFFF)
    (.valueError s!"{name} out of range: {value}")
  return ⟨attr.code, ← pack 2 value, mandatory, false, vendorIetf⟩

/-- `_u32_avp` -/
def u32Avp (attr : AttrType) (value : Int) (name : String) : Except Exn AVP := do
  raiseIf (value < 0 ∨ value > 0xFFFFFFFF)
    (.valueError s!"{name} out of range: {value}")
  return ⟨attr.code, ← pack 4 value, true, false, vendorIetf⟩

/-- `_u64_avp` -/
def u64Avp (attr : AttrType) (value : Int) (name : String) : Except Exn AVP := do
  raiseIf (value < 0 ∨ value > 0xFFFFFFFFFFFFFFFF)
    (.valueError s!"{name} out of range: {value}")
  return ⟨attr.code, ← pack 8 value, true, false, vendorIetf⟩

/-- The Message Type AVP, which every message but a ZLB starts with. -/
def buildMessageType (mt : MessageType) : Except Exn AVP := u16Avp .messageType mt.code

/-- `build_result_code`: 2-byte Result [+ 2-byte Error [+ Error Message]]. -/
def buildResultCode (result : Int) (errorCode : Option Int) (errorMessage : String) :
    Except Exn AVP := do
  let payload ← pack 2 result
  let payload ←
    match errorCode with
    | some code => do
      let payload := payload ++ (← pack 2 code)
      pure (if errorMessage ≠ "" then payload ++ utf8 errorMessage else payload)
    -- a message without a code has no place on the wire
    | none =>
      if errorMessage ≠ "" then .error (.valueError "error_message requires error_code")
      else pure payload
  return ⟨AttrType.resultCode.code, payload, true, false, vendorIetf⟩

/-- The Host Name AVP. No length is checked here: a name that is too long fails in `encode`. -/
def buildHostName (name : String) : AVP :=
  ⟨AttrType.hostName.code, utf8 name, true, false, vendorIetf⟩

/-- The Router ID AVP, a 32-bit number. -/
def buildRouterId (routerId : Int) : Except Exn AVP := u32Avp .routerId routerId "router_id"

/-- The Assigned Control Connection ID AVP: the CCID under which the sender wants to be addressed.
-/
def buildAssignedControlConnectionId (ccid : Int) : Except Exn AVP :=
  u32Avp .assignedControlConnectionId ccid "ccid"

/-- The concatenation of 2-byte fields, one per element. -/
def packU16s : List Int → Except Exn Bytes
  | [] => .ok []
  | t :: ts => do
    let b ← pack 2 t
    let bs ← packU16s ts
    return b ++ bs

/-- `build_pseudowire_capabilities_list` -/
def buildPseudowireCapabilitiesList (pwTypes : List Int) : Except Exn AVP := do
  raiseIf (pwTypes = []) (.valueError "PW capabilities list must be non-empty")
  return ⟨AttrType.pseudowireCapabilitiesList.code, ← packU16s pwTypes, true, false, vendorIetf⟩

/-- The Local Session ID AVP: the session ID of the sender. -/
def buildLocalSessionId (sid : Int) : Except Exn AVP := u32Avp .localSessionId sid "sid"

/-- The Remote Session ID AVP: the session ID of the receiver, 0 as long as it is not known. -/
def buildRemoteSessionId (sid : Int) : Except Exn AVP := u32Avp .remoteSessionId sid "sid"

/-- `build_assigned_cookie`: 0, 4 or 8 bytes. -/
def buildAssignedCookie (cookie : Bytes) : Except Exn AVP := do
  let len := cookie.length
  raiseIf (len ≠ 0 ∧ len ≠ 4 ∧ len ≠ 8)
    (.valueError s!"assigned cookie must be 0/4/8 bytes, got {len}")
  return ⟨AttrType.assignedCookie.code, cookie, true, false, vendorIetf⟩

/-- The Remote End ID AVP, by which the receiver of an ICRQ finds the session. -/
def buildRemoteEndId (endId : String) : AVP :=
  ⟨AttrType.remoteEndId.code, utf8 endId, true, false, vendorIetf⟩

/-- The Pseudowire Type AVP. -/
def buildPseudowireType (pw : Int) : Except Exn AVP := u16Avp .pseudowireType pw

/-- The Layer 2 Specific Sublayer AVP. -/
def buildL2SpecificSublayer (sublayerType : Int) : Except Exn AVP :=
  u16Avp .l2SpecificSublayer sublayerType

/-- The Data Sequencing AVP. -/
def buildDataSequencing (level : Int) : Except Exn AVP := u16Avp .dataSequencing level

/-- The Circuit Status AVP. -/
def buildCircuitStatus (status : Int) : Except Exn AVP := u16Avp .circuitStatus status

/-- The Tx Connect Speed AVP, in bits per second. -/
def buildTxConnectSpeed (bps : Int) : Except Exn AVP := u64Avp .txConnectSpeed bps "bps"

/-- The Rx Connect Speed AVP, in bits per second. -/
def buildRxConnectSpeed (bps : Int) : Except Exn AVP := u64Avp .rxConnectSpeed bps "bps"

/-- `build_message_digest`: 1-byte hash type, then the digest. -/
def buildMessageDigest (hashType : DigestHash) (digest : Bytes) : AVP :=
  ⟨AttrType.messageDigest.code, beBytes 1 hashType.code.toNat ++ digest, true, false, vendorIetf⟩

/-- The Receive Window Size AVP. -/
def buildReceiveWindowSize (window : Int) : Except Exn AVP :=
  checkedU16Avp .receiveWindowSize window "receive window" true

/-- `build_vendor_name`: optional AVP, the M bit is clear. -/
def buildVendorName (name : String) : AVP :=
  ⟨AttrType.vendorName.code, utf8 name, false, false, vendorIetf⟩

/-- The Firmware Revision AVP. A receiver may ignore it. -/
def buildFirmwareRevision (revision : Int) : Except Exn AVP :=
  checkedU16Avp .firmwareRevision revision "firmware revision" false

/-- `build_control_message_auth_nonce` -/
def buildControlMessageAuthNonce (nonce : Bytes) : Except Exn AVP := do
  raiseIf (nonce = []) (.valueError "nonce must not be empty")
  return ⟨AttrType.ctlMsgAuthNonce.code, nonce, true, false, vendorIetf⟩

/-! ## Typed decoders

One function for each attribute type that a parser reads. All of them check the vendor, the type and
the length first. -/

/-- `_require_attr` -/
def requireAttr (avp : AVP) (expectedType : AttrType) (exactLen minLen : Option Nat) :
    Except Exn Unit := do
  let vendor := avp.vendorId
  let type := avp.attributeType
  let expected := expectedType.code
  let len := avp.value.length
  raiseIf (vendor ≠ vendorIetf ∨ type ≠ expected)
    (.valueError s!"expected IETF AVP type {expected}, got vendor={vendor} type={type}")
  match exactLen with
  | none => pure ()
  | some n =>
    raiseIf (len ≠ n) (.valueError s!"AVP type {expected}: expected value length {n}, got {len}")
  match minLen with
  | none => pure ()
  | some n =>
    raiseIf (len < n)
      (.valueError s!"AVP type {expected}: expected value length >= {n}, got {len}")

/-- A decoder of one unsigned big-endian field of exactly `k` bytes. -/
def decodeUInt (attr : AttrType) (k : Nat) (avp : AVP) : Except Exn Int := do
  requireAttr avp attr (some k) none
  unpack k avp.value

/-- The number of a Message Type AVP, which need not be one of the known types. -/
def decodeMessageType (avp : AVP) : Except Exn Int := decodeUInt .messageType 2 avp

/-- `decode_result_code`: the result, the error code if there is one, the error message. -/
def decodeResultCode (avp : AVP) : Except Exn (Int × Option Int × Bytes) := do
  requireAttr avp .resultCode none (some 2)
  let result ← unpackFrom 2 avp.value 0
  if avp.value.length ≥ 4 then
    let errorCode ← unpackFrom 2 avp.value 2
    return (result, some errorCode, avp.value.drop 4)
  -- a value of 3 bytes: the odd byte is ignored
  else return (result, none, [])

/-- The number of a Router ID AVP. -/
def decodeRouterId (avp : AVP) : Except Exn Int := decodeUInt .routerId 4 avp

/-- The 2-byte fields of a value of even length. -/
def unpackU16s : Bytes → List Int
  | hi :: lo :: rest => (beNat [hi, lo] : Int) :: unpackU16s rest
  | _ => []

/-- `decode_pseudowire_capabilities_list` -/
def decodePseudowireCapabilitiesList (avp : AVP) : Except Exn (List Int) := do
  requireAttr avp .pseudowireCapabilitiesList none (some 2)
  let len := avp.value.length
  raiseIf (len % 2 ≠ 0)
    (.valueError s!"PW capabilities list length {len} not a multiple of 2")
  return unpackU16s avp.value

/-- The bytes of a nonce AVP, of which there is at least one. -/
def decodeControlMessageAuthNonce (avp : AVP) : Except Exn Bytes := do
  requireAttr avp .ctlMsgAuthNonce none (some 1)
  return avp.value

/-- The CCID that the peer has assigned. -/
def decodeAssignedControlConnectionId (avp : AVP) : Except Exn Int :=
  decodeUInt .assignedControlConnectionId 4 avp

/-- The bytes of a Host Name AVP, which are not decoded to a text here. -/
def decodeHostName (avp : AVP) : Except Exn Bytes := do
  requireAttr avp .hostName none (some 0)
  return avp.value

/-- The peer's receive window. -/
def decodeReceiveWindowSize (avp : AVP) : Except Exn Int := decodeUInt .receiveWindowSize 2 avp

/-- The session ID of the peer. -/
def decodeLocalSessionId (avp : AVP) : Except Exn Int := decodeUInt .localSessionId 4 avp

/-- The session ID that the peer has for the receiver. -/
def decodeRemoteSessionId (avp : AVP) : Except Exn Int := decodeUInt .remoteSessionId 4 avp

/-- The number of a Pseudowire Type AVP, which need not be one of the known types. -/
def decodePseudowireType (avp : AVP) : Except Exn Int := decodeUInt .pseudowireType 2 avp

/-- The number of a Layer 2 Specific Sublayer AVP. -/
def decodeL2SpecificSublayer (avp : AVP) : Except Exn Int := decodeUInt .l2SpecificSublayer 2 avp

/-- The number of a Data Sequencing AVP. -/
def decodeDataSequencing (avp : AVP) : Except Exn Int := decodeUInt .dataSequencing 2 avp

/-- The number of a Circuit Status AVP. -/
def decodeCircuitStatus (avp : AVP) : Except Exn Int := decodeUInt .circuitStatus 2 avp

/-- `decode_assigned_cookie`: 0, 4 or 8 bytes. -/
def decodeAssignedCookie (avp : AVP) : Except Exn Bytes := do
  requireAttr avp .assignedCookie none none
  let len := avp.value.length
  raiseIf (len ≠ 0 ∧ len ≠ 4 ∧ len ≠ 8)
    (.valueError s!"Assigned Cookie must be 0/4/8 bytes, got {len}")
  return avp.value

/-- The bytes of a Remote End ID AVP. -/
def decodeRemoteEndId (avp : AVP) : Except Exn Bytes := do
  requireAttr avp .remoteEndId none none
  return avp.value

/-- The number of a Tx Connect Speed AVP. -/
def decodeTxConnectSpeed (avp : AVP) : Except Exn Int := decodeUInt .txConnectSpeed 8 avp

/-- The number of a Rx Connect Speed AVP. -/
def decodeRxConnectSpeed (avp : AVP) : Except Exn Int := decodeUInt .rxConnectSpeed 8 avp

end L2tpv3d
