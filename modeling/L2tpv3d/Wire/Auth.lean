import L2tpv3d.Wire.Messages

/-!
# L2tpv3d — Message Digest authentication (`auth.py`, and the signing part of `messages.py`)

Signing appends a Message Digest AVP with a zeroed digest, encodes, and patches the HMAC of
the bytes in; verification decodes, substitutes zeroed digest AVPs, re-encodes and compares.
`hmac.new` is the field `digest` of an `Hmac`, which carries the one fact the code relies on:
the size of what it returns.
-/

namespace L2tpv3d

open Py

/-- `digest_size` -/
def digestSize : DigestHash → Nat
  | .hmacMd5 => 16
  | .hmacSha1 => 20

/-- `hmac.new(key, input, ctor).digest()`: a function of the hash algorithm, the key and the
input whose output has the algorithm's digest size. -/
structure Hmac where
  digest : DigestHash → Bytes → Bytes → Bytes
  length_digest : ∀ ht key input, (digest ht key input).length = digestSize ht

/-- The "message integrity type" byte prepended before HMAC. -/
def mitMsgIntegrity : Bytes := [1]

/-- `compute_message_digest` -/
def computeMessageDigest (hmac : Hmac) (hashType : DigestHash) (sharedSecret : Bytes)
    (messageWithDigestZeroed : Bytes) : Except Exn Bytes := do
  raiseIf (sharedSecret = []) (.valueError "shared_secret must not be empty")
  return hmac.digest hashType sharedSecret (mitMsgIntegrity ++ messageWithDigestZeroed)

/-- `verify_message_digest` -/
def verifyMessageDigest (hmac : Hmac) (hashType : DigestHash) (sharedSecret : Bytes)
    (messageWithDigestZeroed receivedDigest : Bytes) : Except Exn Bool := do
  let expected ← computeMessageDigest hmac hashType sharedSecret messageWithDigestZeroed
  -- `hmac.compare_digest`, whose running time is not modelled
  if receivedDigest.length ≠ expected.length then return false
  else return expected == receivedDigest

/-- A Message Digest AVP with a zeroed digest. -/
def zeroedDigestAvp (hashType : DigestHash) : AVP :=
  buildMessageDigest hashType (List.replicate (digestSize hashType) 0)

/-- An IETF Message Digest AVP, as `find_avp` and the re-encoding loop recognise it. -/
def AVP.isDigest (avp : AVP) : Bool :=
  avp.vendorId == vendorIetf && avp.attributeType == AttrType.messageDigest.code

namespace ControlMessage

/-- `ControlMessage.encode_signed` -/
def encodeSigned (m : ControlMessage) (hmac : Hmac) (hashType : DigestHash)
    (sharedSecret : Bytes) : Except Exn Bytes := do
  let dsize := digestSize hashType
  let stub := { m with avps := m.avps ++ [zeroedDigestAvp hashType] }
  let encodedZeroed ← stub.encode
  let digest ← computeMessageDigest hmac hashType sharedSecret encodedZeroed
  -- the digest AVP is last, so the digest is the final `dsize` bytes
  return encodedZeroed.take (encodedZeroed.length - dsize) ++ digest

/-- The AVPs that verification re-encodes: each digest AVP replaced by a fresh zeroed one. -/
def zeroDigests (hashType : DigestHash) (avps : List AVP) : List AVP :=
  avps.map fun a => if a.isDigest then zeroedDigestAvp hashType else a

/-- `ControlMessage.decode_and_verify` -/
def decodeAndVerify (hmac : Hmac) (buf : Bytes) (hashType : DigestHash)
    (sharedSecret : Bytes) : Except Exn ControlMessage := do
  let msg ← decode buf
  -- the first digest AVP is the one that is compared; all of them are zeroed
  let mdAvp ← requireAvp (findAvp msg.avps .messageDigest)
    "received message missing Message Digest AVP"
  let len := mdAvp.value.length
  raiseIf (len < 1) (.valueError "Message Digest AVP value too short (missing hash type)")
  let receivedHashType : Int := (mdAvp.value.headD 0).toNat
  let expectedHashType := hashType.code
  raiseIf (receivedHashType ≠ expectedHashType)
    (.valueError s!"hash type mismatch: got {receivedHashType}, expected {expectedHashType}")
  let dsize := digestSize hashType
  let expectedLen := 1 + dsize
  raiseIf (len ≠ expectedLen)
    (.valueError
      s!"Message Digest AVP wrong size for hash type {receivedHashType}: got {len}, expected {expectedLen}")
  let receivedDigest := mdAvp.value.drop 1
  let zeroedMsg := { msg with avps := zeroDigests hashType msg.avps }
  -- the bytes signed over are re-encoded, not those received
  let zeroedBytes ← zeroedMsg.encode
  let verified ← verifyMessageDigest hmac hashType sharedSecret zeroedBytes receivedDigest
  raiseIf (verified = false) (.valueError "message digest verification failed")
  return msg

end ControlMessage

end L2tpv3d
