import L2tpv3d.Wire.Auth
import L2tpv3d.Wire.Codec

/-!
# L2tpv3d — what a verified digest proves

`decode_and_verify` does not zero the digest in the received bytes: it substitutes freshly
built AVPs and re-encodes. This module compares that with the definition on the wire.

* `splitDigest` — a list cut at its first Message Digest AVP; `findAvp_messageDigest` says
  that this is the AVP the code looks at.
* `WireVerified` — the definition on the wire: the digest equals the HMAC of the buffer
  with only the digest bytes zeroed. `DigestCanonical` — the buffers on which the
  substituted AVPs agree with the received ones in every other bit.
* `decodeAndVerify_eq_ok` — what a successful verification amounts to.
* **`decodeAndVerify_iff_wireVerified`** — the code agrees with the definition on the wire
  for every HMAC exactly on the canonical buffers.
* **signing**: `encodeSigned_eq_ok`, `decodeAndVerify_encodeSigned` (what is signed
  verifies) and `decodeAndVerify_unsigned` (a message without a digest AVP does not).
-/

namespace L2tpv3d

open Py

namespace ControlMessage

/-! ## The first digest AVP of a list

The code looks for a digest with `find_avp`, which returns the first one. Everything that follows is
stated of a list that is cut there. -/

/-- The AVPs before the first digest AVP, that AVP, and the AVPs after it. -/
def splitDigest : List AVP → Option (List AVP × AVP × List AVP)
  | [] => none
  | a :: rest =>
    if a.isDigest then some ([], a, rest)
    else (splitDigest rest).map fun (pre, md, post) => (a :: pre, md, post)

/-- Where a list is cut stands its first digest AVP: none comes before it. -/
theorem splitDigest_eq_some {avps : List AVP} (pre : List AVP) (md : AVP) (post : List AVP)
    (h : splitDigest avps = some (pre, md, post)) :
    avps = pre ++ md :: post ∧ md.isDigest = true ∧ ∀ a ∈ pre, a.isDigest = false := by
  induction avps generalizing pre with
  | nil => cases h
  | cons a rest ih =>
    rw [splitDigest] at h
    -- the cut is at this AVP, or in the rest
    cases ha : a.isDigest with
    | true =>
      simp only [ha, if_true, Option.some.injEq, Prod.mk.injEq] at h
      obtain ⟨rfl, rfl, rfl⟩ := h
      exact ⟨rfl, ha, by simp⟩
    | false =>
      simp only [ha, Bool.false_eq_true, if_false, Option.map_eq_some_iff, Prod.exists,
        Prod.mk.injEq] at h
      obtain ⟨pre', _, _, hrest, rfl, rfl, rfl⟩ := h
      obtain ⟨rfl, hmd, hpre⟩ := ih pre' hrest
      exact ⟨rfl, hmd, by simpa [ha] using hpre⟩

/-- The digest AVP that the code looks at is the one the list is cut at. -/
theorem findAvp_messageDigest (avps : List AVP) :
    findAvp avps .messageDigest = (splitDigest avps).map fun (_, md, _) => md := by
  induction avps with
  | nil => rfl
  | cons a rest ih =>
    rw [findAvp, List.find?_cons, splitDigest]
    cases ha : a.isDigest with
    | true => rw [show (_ && _) = true from ha]; rfl
    | false =>
      rw [show (_ && _) = false from ha]
      simp only [Bool.false_eq_true, if_false, Option.map_map]
      exact ih

/-- A digest AVP of the expected hash type and size. -/
def HasType (md : AVP) (ht : DigestHash) : Prop :=
  ((md.value.headD 0).toNat : Int) = ht.code ∧ md.value.length = 1 + digestSize ht

instance (md : AVP) (ht : DigestHash) : Decidable (HasType md ht) := instDecidableAnd

/-- The value of such an AVP is its hash type followed by its digest. -/
theorem HasType.value_eq {md : AVP} {ht : DigestHash} (h : HasType md ht) :
    md.value = beBytes 1 ht.code.toNat ++ md.value.drop 1 := by
  obtain ⟨hcode, hlen⟩ := h
  -- the value is not empty, as it is longer than its digest
  cases hv : md.value with
  | nil => rw [hv, List.length_nil] at hlen; omega
  | cons b d =>
    rw [hv, List.headD_cons] at hcode
    have hb : beBytes 1 ht.code.toNat = [b] := by
      rw [← hcode, Int.toNat_natCast]
      simp [beBytes]
    rw [hb]
    rfl

/-! ## The definition on the wire

What a verified digest means without any reference to the codec: the HMAC is taken of the bytes as
they arrived, with only the digest zeroed. -/

/-- `buf` with the `n` bytes from offset `i` on replaced by zeros. -/
def zeroAt (buf : Bytes) (i n : Nat) : Bytes :=
  buf.take i ++ List.replicate n 0 ++ buf.drop (i + n)

/-- Where the digest bytes of the digest AVP after `pre` stand in the buffer. -/
def digestOffset (pre : List AVP) : Nat :=
  headerLen + (AVP.wireAll pre).length + avpHeaderLen + 1

/-- **Verified on the wire.** `buf` decodes to `m`, its first digest AVP has the expected
hash type and size, and the digest in it is the HMAC of the buffer with only those digest
bytes replaced by zeros. -/
def WireVerified (hmac : Hmac) (buf : Bytes) (ht : DigestHash) (secret : Bytes)
    (m : ControlMessage) : Prop :=
  decode buf = .ok m ∧ ∃ pre md post, splitDigest m.avps = some (pre, md, post) ∧
    HasType md ht ∧
    md.value.drop 1 = hmac.digest ht secret
      (mitMsgIntegrity ++ zeroAt buf (digestOffset pre) (digestSize ht))

/-- **Canonical digests.** If `buf` decodes and its first digest AVP has the expected hash
type and size, then that AVP has its M bit set, and every further digest AVP has it set too
and carries the expected hash type with an all-zero digest. -/
def DigestCanonical (buf : Bytes) (ht : DigestHash) : Prop :=
  ∀ m pre md post, decode buf = .ok m → splitDigest m.avps = some (pre, md, post) →
    HasType md ht → md.mandatory = true ∧
      ∀ a ∈ post, a.isDigest = true → a.mandatory = true ∧
        a.value = beBytes 1 ht.code.toNat ++ List.replicate (digestSize ht) 0

/-! ## What the code re-encodes

The code zeroes the digest by building a fresh AVP and encoding the message again. The bytes agree
with those that arrived unless a bit differs that the fresh AVP does not have. -/

/-- The digest AVP that the code builds can be encoded. -/
theorem zeroedDigestAvp_plain (ht : DigestHash) : (zeroedDigestAvp ht).Plain := by
  cases ht <;> decide

/-- A digest AVP that is not hidden is the zeroed one as soon as its M bit and its value
are those of the zeroed one. -/
theorem eq_zeroedDigestAvp {a : AVP} {ht : DigestHash} (hd : a.isDigest = true)
    (hp : a.Plain) : a = zeroedDigestAvp ht ↔ a.mandatory = true ∧
      a.value = beBytes 1 ht.code.toNat ++ List.replicate (digestSize ht) 0 := by
  simp only [AVP.isDigest, Bool.and_eq_true, beq_iff_eq] at hd
  have hh := hp.not_hidden
  cases a
  simp_all [zeroedDigestAvp, buildMessageDigest, vendorIetf, and_comm]

/-- Substitution leaves a list alone exactly when its digest AVPs are zeroed ones. -/
theorem zeroDigests_eq_self {ht : DigestHash} {avps : List AVP} :
    zeroDigests ht avps = avps ↔ ∀ a ∈ avps, a.isDigest = true → a = zeroedDigestAvp ht := by
  conv_lhs => rhs; rw [← List.map_id avps]
  rw [zeroDigests, List.map_inj_left]
  refine forall₂_congr fun a _ => ?_
  cases ha : a.isDigest <;> simp [eq_comm]

/-- What the code re-encodes of a list that is cut at its first digest AVP: the AVPs before it stay.
-/
theorem zeroDigests_append_cons {ht : DigestHash} {pre post : List AVP} {md : AVP}
    (hmd : md.isDigest = true) (hpre : ∀ a ∈ pre, a.isDigest = false) :
    zeroDigests ht (pre ++ md :: post) = pre ++ zeroedDigestAvp ht :: zeroDigests ht post := by
  have hkeep : zeroDigests ht pre = pre :=
    zeroDigests_eq_self.mpr fun a ha hd => by rw [hpre a ha] at hd; cases hd
  rw [zeroDigests, List.map_append, List.map_cons, if_pos hmd]
  exact congrArg (· ++ _) hkeep

/-- The message with the digest bytes of `md` replaced by zeros and nothing else changed. -/
def zeroFirst (m : ControlMessage) (ht : DigestHash) (pre : List AVP) (md : AVP)
    (post : List AVP) : ControlMessage :=
  let zeroed := beBytes 1 ht.code.toNat ++ List.replicate (digestSize ht) 0
  { m with avps := pre ++ { md with value := zeroed } :: post }

section First

variable {m : ControlMessage} {ht : DigestHash} {pre post : List AVP} {md : AVP}

/-- The bytes of a digest AVP before its digest: the AVP header and the hash type. -/
def digestLead (md : AVP) (ht : DigestHash) : Bytes :=
  beBytes 1 (AVP.headerByte0 md.mandatory md.hidden (avpHeaderLen + (1 + digestSize ht)))
    ++ beBytes 1 (AVP.headerByte1 (avpHeaderLen + (1 + digestSize ht)))
    ++ beBytes 2 md.vendorId.toNat ++ beBytes 2 md.attributeType.toNat
    ++ beBytes 1 ht.code.toNat

/-- The lead of the digest is the AVP header and the hash type. -/
theorem length_digestLead (md : AVP) (ht : DigestHash) :
    (digestLead md ht).length = avpHeaderLen + 1 := by
  simp [digestLead, avpHeaderLen]

/-- The wire bytes of a message cut at the digest of its digest AVP. -/
theorem wire_split (m : ControlMessage) (pre : List AVP) (md : AVP) (post : List AVP)
    (havps : m.avps = pre ++ md :: post) (hht : HasType md ht) :
    m.wire = (m.headerWire (headerLen + (AVP.wireAll m.avps).length) ++ AVP.wireAll pre
      ++ digestLead md ht) ++ md.value.drop 1 ++ AVP.wireAll post := by
  -- the digest AVP alone, whose length field depends on nothing but the hash type
  have hmd : md.wire = digestLead md ht ++ md.value.drop 1 := by
    conv_lhs => rw [AVP.wire, hht.2, hht.value_eq]
    simp only [digestLead, List.append_assoc]
  have hall : AVP.wireAll m.avps
      = AVP.wireAll pre ++ digestLead md ht ++ md.value.drop 1 ++ AVP.wireAll post := by
    rw [havps, AVP.wireAll, List.flatMap_append, List.flatMap_cons, hmd]
    simp only [AVP.wireAll, List.append_assoc]
  rw [wire]
  conv_lhs => rhs; rw [hall]
  simp only [List.append_assoc]

/-- A digest AVP keeps its type when its digest is zeroed. -/
theorem hasType_zeroed (md : AVP) (ht : DigestHash) :
    HasType { md with value := beBytes 1 ht.code.toNat ++ List.replicate (digestSize ht) 0 } ht := by
  refine ⟨?_, by simp⟩
  cases ht <;> rfl

/-- Zeroing the middle part of three. -/
theorem zeroAt_mid (a d b : Bytes) :
    zeroAt (a ++ d ++ b) a.length d.length = a ++ List.replicate d.length 0 ++ b := by
  simp [zeroAt, List.append_assoc, ← List.drop_drop]

/-- Zeroing the digest changes no length, so the header stays as it is. -/
theorem length_wireAll_zeroFirst (havps : m.avps = pre ++ md :: post) (hht : HasType md ht) :
    (AVP.wireAll (zeroFirst m ht pre md post).avps).length = (AVP.wireAll m.avps).length := by
  simp [zeroFirst, AVP.wireAll, havps, hht.2]

/-- **Zeroing the digest in the bytes.** The wire bytes of the message with its first digest
zeroed are the wire bytes of the message with the digest bytes zeroed in place. -/
theorem wire_zeroFirst (havps : m.avps = pre ++ md :: post) (hht : HasType md ht) :
    (zeroFirst m ht pre md post).wire = zeroAt m.wire (digestOffset pre) (digestSize ht) := by
  have hlen : (md.value.drop 1).length = digestSize ht := by
    rw [List.length_drop, hht.2]; omega
  -- the digest begins after the header, the AVPs before it and its own lead
  have hoff : digestOffset pre = (m.headerWire (headerLen + (AVP.wireAll m.avps).length)
      ++ AVP.wireAll pre ++ digestLead md ht).length := by
    simp only [List.length_append, length_headerWire, length_digestLead, digestOffset]
    omega
  rw [wire_split m pre md post havps hht, hoff, ← hlen, zeroAt_mid, hlen,
    wire_split (zeroFirst m ht pre md post) pre _ post rfl (hasType_zeroed md ht),
    length_wireAll_zeroFirst havps hht]
  rfl

/-- The message with its first digest zeroed can be encoded, as the message can. -/
theorem zeroFirst_wellFormed (hm : m.WellFormed) (havps : m.avps = pre ++ md :: post)
    (hht : HasType md ht) : (zeroFirst m ht pre md post).WellFormed := by
  have hlen := length_wireAll_zeroFirst havps hht
  obtain ⟨c0, c1, s0, s1, r0, r1, hp, hsize⟩ := hm
  rw [havps] at hp
  refine ⟨c0, c1, s0, s1, r0, r1, ?_, by omega⟩
  have hd : digestSize ht ≤ 20 := by cases ht <;> decide
  intro a ha
  -- only the digest AVP is another one, and its value is as long as before
  rcases List.mem_append.mp ha with ha | ha
  · exact hp a (List.mem_append_left _ ha)
  · rcases List.mem_cons.mp ha with rfl | ha
    · obtain ⟨v0, v1, t0, t1, hh, -⟩ := hp md (by simp)
      exact ⟨v0, v1, t0, t1, hh, by simp; omega⟩
    · exact hp a (by simp [ha])

/-- The message with its first digest zeroed is the one the code re-encodes exactly when the
digest AVPs are canonical. -/
theorem zeroFirst_eq_iff (hm : m.WellFormed) (hsplit : splitDigest m.avps = some (pre, md, post))
    (hht : HasType md ht) :
    { m with avps := zeroDigests ht m.avps } = zeroFirst m ht pre md post ↔
      md.mandatory = true ∧ ∀ a ∈ post, a.isDigest = true → a.mandatory = true ∧
        a.value = beBytes 1 ht.code.toNat ++ List.replicate (digestSize ht) 0 := by
  obtain ⟨havps, hmd, hpre⟩ := splitDigest_eq_some _ _ _ hsplit
  have hplain := (zeroFirst_wellFormed hm havps hht).avps_plain
  have hpost : ∀ a ∈ post, a.Plain := fun a ha => hm.avps_plain a (by simp [havps, ha])
  let md₀ := { md with value := beBytes 1 ht.code.toNat ++ List.replicate (digestSize ht) 0 }
  have hmd₀ : md₀.Plain := hplain md₀ (by simp [zeroFirst, md₀])
  -- the code builds the first digest AVP anew, so it must have been mandatory
  have hfirst : md₀ = zeroedDigestAvp ht ↔ md.mandatory = true :=
    (eq_zeroedDigestAvp (a := md₀) hmd hmd₀).trans (and_iff_left rfl)
  -- and it builds all later ones anew, digest included
  have hrest : zeroDigests ht post = post ↔ ∀ a ∈ post, a.isDigest = true → a.mandatory = true ∧
      a.value = beBytes 1 ht.code.toNat ++ List.replicate (digestSize ht) 0 := by
    rw [zeroDigests_eq_self]
    exact forall₂_congr fun a ha => forall_congr' fun hd => eq_zeroedDigestAvp hd (hpost a ha)
  rw [← hfirst, ← hrest, havps, zeroDigests_append_cons hmd hpre, zeroFirst]
  simp only [mk.injEq, true_and, List.append_cancel_left_eq, List.cons.injEq]
  exact and_congr_left' eq_comm

end First

/-- Well-formed messages with the same wire bytes are equal. -/
theorem wire_injective {m m' : ControlMessage} (hm : m.WellFormed) (hm' : m'.WellFormed)
    (h : m.wire = m'.wire) : m = m' := by
  have hd := decode_wire hm
  rw [h, decode_wire hm'] at hd
  exact (Except.ok.inj hd).symm

/-! ## Verification

The comparison of the two definitions, for every HMAC: one that tells all inputs apart shows that
the condition is needed. -/

theorem requireAvp_eq_ok {o : Option AVP} {missing : String} {a : AVP} :
    requireAvp o missing = .ok a ↔ o = some a := by
  cases o <;> simp [requireAvp]

/-- The comparison succeeds exactly when the received digest is the computed one. -/
theorem verifyMessageDigest_eq {hmac : Hmac} {ht : DigestHash} {secret msg received : Bytes}
    (hs : secret ≠ []) :
    verifyMessageDigest hmac ht secret msg received
      = .ok (decide (received = hmac.digest ht secret (mitMsgIntegrity ++ msg))) := by
  rw [verifyMessageDigest, computeMessageDigest, raiseIf_neg hs]
  simp only [ok_bind, pure_eq_ok]
  split
  · rename_i hlen
    have hne : received ≠ hmac.digest ht secret (mitMsgIntegrity ++ msg) :=
      fun h => hlen (congrArg List.length h)
    simp [hne]
  · simp [beq_eq_decide, eq_comm]

/-- **What a successful verification amounts to.** -/
theorem decodeAndVerify_eq_ok {hmac : Hmac} {buf secret : Bytes} {ht : DigestHash}
    {m : ControlMessage} (hs : secret ≠ []) :
    decodeAndVerify hmac buf ht secret = .ok m ↔
      decode buf = .ok m ∧ ∃ pre md post, splitDigest m.avps = some (pre, md, post) ∧
        HasType md ht ∧ WellFormed { m with avps := zeroDigests ht m.avps } ∧
        md.value.drop 1 = hmac.digest ht secret
          (mitMsgIntegrity ++ wire { m with avps := zeroDigests ht m.avps }) := by
  simp only [decodeAndVerify, bind_eq_ok, requireAvp_eq_ok, raiseIf_eq_ok, encode_eq_ok,
    findAvp_messageDigest, verifyMessageDigest_eq hs, Option.map_eq_some_iff, pure_eq_ok,
    Except.ok.injEq]
  constructor
  -- every step of the code that passed says one thing about the message
  · rintro ⟨m', hd, _, ⟨⟨pre, md, post⟩, hsplit, rfl⟩, _, -, _, hcode, _, hlen, _, ⟨hwf, rfl⟩, _,
      rfl, _, hver, rfl⟩
    refine ⟨hd, pre, md, post, hsplit, ⟨by simpa using hcode, by simpa using hlen⟩, hwf, ?_⟩
    simpa using hver
  -- conversely no guard fires
  · rintro ⟨hd, pre, md, post, hsplit, ⟨hcode, hlen⟩, hwf, hdig⟩
    exact ⟨m, hd, md, ⟨⟨pre, md, post⟩, hsplit, rfl⟩, (), by omega, (), by simpa using hcode,
      (), by simpa using hlen, _, ⟨hwf, rfl⟩, _, rfl, (), by simpa using hdig, rfl⟩

/-- An HMAC that answers `d` on one input and something else on every other input. -/
def pointHmac (ht : DigestHash) (input d : Bytes) (hd : d.length = digestSize ht) : Hmac where
  digest ht' _ x :=
    if ht' = ht ∧ x = input then d else List.replicate (digestSize ht') (d.headD 0 + 1)
  length_digest ht' _ x := by
    split
    · rename_i h; rw [hd, h.1]
    · simp

/-- The HMAC that has a given digest for one input, and another first byte for every other input. -/
theorem pointHmac_eq_iff {ht : DigestHash} {input d key x : Bytes}
    (hd : d.length = digestSize ht) :
    d = (pointHmac ht input d hd).digest ht key x ↔ x = input := by
  simp only [pointHmac, true_and]
  split
  · rename_i h; simp [h]
  · rename_i h
    -- elsewhere all bytes are one more than the first byte of `d`
    refine iff_of_false (fun he => ?_) h
    cases d with
    | nil => cases ht <;> cases hd
    | cons b d =>
      have hpos : digestSize ht = (digestSize ht - 1) + 1 := by cases ht <;> rfl
      rw [hpos, List.replicate_succ, List.cons.injEq, List.headD_cons] at he
      have hb : (0 : UInt8) = 1 := by simpa using he.1
      cases hb

/-- **Verification and the wire.** For every buffer, hash type and non-empty secret: the
code accepts exactly what is verified on the wire, whatever the HMAC, if and only if the
digest AVPs of the buffer are canonical. The substituted AVPs have their M bit set and there
is one for every digest AVP, so any other received one is not the one authenticated. -/
theorem decodeAndVerify_iff_wireVerified (buf : Bytes) (ht : DigestHash) (secret : Bytes)
    (hs : secret ≠ []) :
    (∀ hmac m, decodeAndVerify hmac buf ht secret = .ok m ↔ WireVerified hmac buf ht secret m) ↔
      DigestCanonical buf ht := by
  constructor
  · intro hall m pre md post hdec hsplit hht
    obtain ⟨hm, rfl⟩ := decode_inv hdec
    obtain ⟨havps, -, -⟩ := splitDigest_eq_some _ _ _ hsplit
    have hlen : (md.value.drop 1).length = digestSize ht := by
      rw [List.length_drop, hht.2]; omega
    -- an HMAC under which exactly the bytes with the digest zeroed in place verify
    let hmac := pointHmac ht (mitMsgIntegrity ++ (zeroFirst m ht pre md post).wire) _ hlen
    have hwire : WireVerified hmac m.wire ht secret m := by
      refine ⟨hdec, pre, md, post, hsplit, hht, ?_⟩
      rw [← wire_zeroFirst havps hht]
      exact (pointHmac_eq_iff hlen).mpr rfl
    obtain ⟨-, pre', md', post', hsplit', -, hwf, hdig⟩ :=
      (decodeAndVerify_eq_ok hs).mp ((hall hmac m).mpr hwire)
    rw [hsplit, Option.some.injEq, Prod.mk.injEq, Prod.mk.injEq] at hsplit'
    obtain ⟨rfl, rfl, rfl⟩ := hsplit'
    have hbytes := List.append_cancel_left ((pointHmac_eq_iff hlen).mp hdig)
    exact (zeroFirst_eq_iff hm hsplit hht).mp
      (wire_injective hwf (zeroFirst_wellFormed hm havps hht) hbytes)
  -- conversely, the two definitions sign over the same bytes
  · intro hcanon hmac m
    rw [decodeAndVerify_eq_ok hs, WireVerified]
    refine and_congr_right fun hdec => exists_congr fun pre => exists_congr fun md =>
      exists_congr fun post => and_congr_right fun hsplit => and_congr_right fun hht => ?_
    obtain ⟨hm, rfl⟩ := decode_inv hdec
    obtain ⟨havps, -, -⟩ := splitDigest_eq_some _ _ _ hsplit
    rw [(zeroFirst_eq_iff hm hsplit hht).mpr (hcanon m pre md post hdec hsplit hht),
      wire_zeroFirst havps hht]
    exact and_iff_right (zeroFirst_wellFormed hm havps hht)

/-- A HELLO signed under an HMAC that returns sixteen bytes 9. -/
def signedHello : ControlMessage :=
  ⟨7, 0, 0, [⟨0, [0, 6], true, false, 0⟩, buildMessageDigest .hmacMd5 (List.replicate 16 9)]⟩

/-- The digest AVP of a signed HELLO is canonical, so the code and the wire agree about it. -/
theorem decodeAndVerify_iff_wireVerified_signedHello : ([1] : Bytes) ≠ [] ∧
    ∀ hmac m, decodeAndVerify hmac signedHello.wire .hmacMd5 [1] = .ok m ↔
      WireVerified hmac signedHello.wire .hmacMd5 [1] m := by
  refine ⟨by decide, (decodeAndVerify_iff_wireVerified _ _ [1] (by decide)).mpr ?_⟩
  intro m pre md post hdec hsplit _
  rw [decode_wire (by decide)] at hdec
  cases hdec
  cases hsplit
  exact ⟨rfl, by simp⟩

/-- An HMAC that adds the bytes of its input up. -/
def sumHmac : Hmac where
  digest ht _ input := List.replicate (digestSize ht) (input.foldl (· + ·) 0)
  length_digest ht _ _ := by simp

/-- A message whose one AVP is a digest AVP with its M bit clear, signed on the wire under
`sumHmac`. -/
def signedOptional : ControlMessage :=
  ⟨7, 0, 0, [{ buildMessageDigest .hmacMd5 (List.replicate 16 72) with mandatory := false }]⟩

/-- The sender zeroed the digest in its own bytes and signed those; the code refuses it. -/
theorem wireVerified_refused : ¬ ∀ (buf : Bytes) (ht : DigestHash) (secret : Bytes),
    secret ≠ [] → ∀ hmac m, decodeAndVerify hmac buf ht secret = .ok m ↔
      WireVerified hmac buf ht secret m := by
  intro hall
  have hwire : WireVerified sumHmac signedOptional.wire .hmacMd5 [1] signedOptional :=
    ⟨by decide +kernel, [], _, [], rfl, by decide +kernel, by decide +kernel⟩
  have hcode : decodeAndVerify sumHmac signedOptional.wire .hmacMd5 [1]
      = .error (.valueError "message digest verification failed") := by decide +kernel
  have hok := (hall signedOptional.wire .hmacMd5 [1] (by decide) sumHmac signedOptional).mpr hwire
  rw [hcode] at hok
  cases hok

/-! ## Signing

The signer encodes with a zeroed digest and puts the digest in. So the verifier re-encodes exactly
the bytes that were signed. -/

/-- The message with a digest AVP appended that carries the HMAC of the message with the
zeroed one. -/
def signed (m : ControlMessage) (hmac : Hmac) (ht : DigestHash) (secret : Bytes) :
    ControlMessage :=
  let stub := { m with avps := m.avps ++ [zeroedDigestAvp ht] }
  let digest := hmac.digest ht secret (mitMsgIntegrity ++ stub.wire)
  { m with avps := m.avps ++ [buildMessageDigest ht digest] }

section Signing

variable {m : ControlMessage} {hmac : Hmac} {ht : DigestHash} {secret bs : Bytes}

/-- The digest AVP that is built has the type it is built for. -/
theorem hasType_buildMessageDigest {d : Bytes} (hd : d.length = digestSize ht) :
    HasType (buildMessageDigest ht d) ht := by
  refine ⟨?_, by simp [buildMessageDigest, hd]⟩
  cases ht <;> rfl

/-- The signed bytes are the zeroed bytes with the digest patched over their end. -/
theorem wire_signed :
    let stub : ControlMessage := { m with avps := m.avps ++ [zeroedDigestAvp ht] }
    (signed m hmac ht secret).wire = stub.wire.take (stub.wire.length - digestSize ht)
      ++ hmac.digest ht secret (mitMsgIntegrity ++ stub.wire) := by
  intro stub
  set digest := hmac.digest ht secret (mitMsgIntegrity ++ stub.wire) with hdigest
  have hdlen : digest.length = digestSize ht := hmac.length_digest ht secret _
  have hzlen : (List.replicate (digestSize ht) (0 : UInt8)).length = digestSize ht := by simp
  -- both messages are cut at the digest, which is the last thing in them
  have hstub := wire_split stub m.avps (zeroedDigestAvp ht) [] rfl
    (hasType_buildMessageDigest hzlen)
  have hsigned := wire_split (signed m hmac ht secret) m.avps (buildMessageDigest ht digest) []
    rfl (hasType_buildMessageDigest hdlen)
  -- a digest has the length of the zeros it replaces
  have hsize : (AVP.wireAll (signed m hmac ht secret).avps).length
      = (AVP.wireAll stub.avps).length := by
    simp [signed, stub, AVP.wireAll, zeroedDigestAvp, buildMessageDigest, hmac.length_digest]
  have htail : (buildMessageDigest ht digest).value.drop 1 = digest := by
    simp [buildMessageDigest]
  have hztail : (zeroedDigestAvp ht).value.drop 1 = List.replicate (digestSize ht) 0 := by
    simp [zeroedDigestAvp, buildMessageDigest]
  rw [AVP.wireAll_nil, List.append_nil] at hstub hsigned
  rw [hsize, htail] at hsigned
  rw [hztail] at hstub
  rw [hsigned, hstub, List.length_append, hzlen, Nat.add_sub_cancel, List.take_left]
  rfl

/-- A message that can be encoded with a zeroed digest can be encoded with the digest. -/
theorem signed_wellFormed
    (hm : WellFormed { m with avps := m.avps ++ [zeroedDigestAvp ht] }) :
    (signed m hmac ht secret).WellFormed := by
  obtain ⟨c0, c1, s0, s1, r0, r1, hp, hsize⟩ := hm
  have hd : digestSize ht ≤ 20 := by cases ht <;> decide
  refine ⟨c0, c1, s0, s1, r0, r1, ?_, ?_⟩
  · intro a ha
    rcases List.mem_append.mp ha with ha | ha
    · exact hp a (List.mem_append_left _ ha)
    · rw [List.mem_singleton.mp ha]
      obtain ⟨v0, v1, t0, t1, hh, -⟩ := zeroedDigestAvp_plain ht
      exact ⟨v0, v1, t0, t1, hh, by simp [buildMessageDigest, hmac.length_digest]; omega⟩
  · simpa [signed, AVP.wireAll, zeroedDigestAvp, buildMessageDigest, hmac.length_digest]
      using hsize

/-- **The signer.** With a secret, `encode_signed` succeeds exactly when the message with a
digest AVP appended is well-formed, and returns the wire bytes of the signed message. -/
theorem encodeSigned_eq_ok (hs : secret ≠ []) :
    m.encodeSigned hmac ht secret = .ok bs ↔
      WellFormed { m with avps := m.avps ++ [zeroedDigestAvp ht] } ∧
        bs = (signed m hmac ht secret).wire := by
  rw [wire_signed]
  simp only [encodeSigned, bind_eq_ok, encode_eq_ok, computeMessageDigest, raiseIf_neg hs, ok_bind,
    pure_eq_ok, Except.ok.injEq]
  constructor
  · rintro ⟨_, ⟨hwf, rfl⟩, rfl⟩
    exact ⟨hwf, rfl⟩
  · rintro ⟨hwf, rfl⟩
    exact ⟨_, ⟨hwf, rfl⟩, rfl⟩

/-- A list without a digest AVP is cut at the one that is appended. -/
theorem splitDigest_append_digest {avps : List AVP} {md : AVP}
    (hno : ∀ a ∈ avps, a.isDigest = false) (hmd : md.isDigest = true) :
    splitDigest (avps ++ [md]) = some (avps, md, []) := by
  induction avps with
  | nil => simp [splitDigest, hmd]
  | cons a avps ih =>
    rw [List.cons_append, splitDigest, hno a List.mem_cons_self,
      ih fun b hb => hno b (List.mem_cons_of_mem _ hb)]
    rfl

theorem splitDigest_eq_none {avps : List AVP} (hno : ∀ a ∈ avps, a.isDigest = false) :
    splitDigest avps = none := by
  cases h : splitDigest avps with
  | none => rfl
  | some c =>
    obtain ⟨rfl, hmd, -⟩ := splitDigest_eq_some c.1 c.2.1 c.2.2 h
    rw [hno c.2.1 (by simp)] at hmd
    cases hmd

/-- **What is signed verifies.** A message without a digest AVP of its own, once signed, is
accepted under the same hash type and secret. -/
theorem decodeAndVerify_encodeSigned (hs : secret ≠ []) (hno : ∀ a ∈ m.avps, a.isDigest = false)
    (h : m.encodeSigned hmac ht secret = .ok bs) :
    decodeAndVerify hmac bs ht secret = .ok (signed m hmac ht secret) := by
  obtain ⟨hwf, rfl⟩ := (encodeSigned_eq_ok hs).mp h
  have hmd : (buildMessageDigest ht (hmac.digest ht secret (mitMsgIntegrity ++
      wire { m with avps := m.avps ++ [zeroedDigestAvp ht] }))).isDigest = true := rfl
  have hsplit := splitDigest_append_digest hno hmd
  -- what the verifier zeroes is what the signer signed over
  have hzero : zeroDigests ht (signed m hmac ht secret).avps = m.avps ++ [zeroedDigestAvp ht] :=
    zeroDigests_append_cons hmd hno
  refine (decodeAndVerify_eq_ok hs).mpr ⟨decode_wire (signed_wellFormed hwf), _, _, _, hsplit,
    hasType_buildMessageDigest (hmac.length_digest ht secret _), ?_, ?_⟩
  · rw [hzero]; exact hwf
  · rw [hzero]; simp [buildMessageDigest]; rfl

theorem decodeAndVerify_nil (buf : Bytes) (m' : ControlMessage) :
    decodeAndVerify hmac buf ht [] ≠ .ok m' := by
  intro hok
  simp [decodeAndVerify, bind_eq_ok, verifyMessageDigest, computeMessageDigest, raiseIf] at hok

/-- **Verification undoes signing.** What was signed under a secret verifies under it, as the
message with one digest AVP appended; under any other secret it verifies exactly when the two
secrets give the same HMAC. -/
theorem decodeAndVerify_undoes_encodeSigned (hmac : Hmac) (m : ControlMessage) (ht : DigestHash)
    (secret bs : Bytes) (hs : secret ≠ []) (hno : ∀ a ∈ m.avps, a.isDigest = false)
    (h : m.encodeSigned hmac ht secret = .ok bs) : ∃ zeroed,
      encode { m with avps := m.avps ++ [zeroedDigestAvp ht] } = .ok zeroed ∧
      decodeAndVerify hmac bs ht secret = .ok { m with avps := m.avps ++
        [buildMessageDigest ht (hmac.digest ht secret (mitMsgIntegrity ++ zeroed))] } ∧
      ∀ secret', (∃ m', decodeAndVerify hmac bs ht secret' = .ok m') ↔ secret' ≠ [] ∧
        hmac.digest ht secret' (mitMsgIntegrity ++ zeroed)
          = hmac.digest ht secret (mitMsgIntegrity ++ zeroed) := by
  obtain ⟨hwf, hbs⟩ := (encodeSigned_eq_ok hs).mp h
  have hverified := decodeAndVerify_encodeSigned hs hno h
  refine ⟨_, encode_of_wellFormed hwf, hverified, fun secret' => ?_⟩
  cases secret' with
  | nil => exact iff_of_false (fun ⟨m', hok⟩ => decodeAndVerify_nil bs m' hok) fun hne => hne.1 rfl
  | cons b rest =>
    have hs' : b :: rest ≠ [] := by simp
    have hdecode : decode bs = .ok (signed m hmac ht secret) :=
      ((decodeAndVerify_eq_ok hs).mp hverified).1
    -- the message that is signed over does not depend on the secret
    have hsplit : splitDigest (signed m hmac ht secret).avps = some (m.avps, buildMessageDigest ht
        (hmac.digest ht secret (mitMsgIntegrity ++
          wire { m with avps := m.avps ++ [zeroedDigestAvp ht] })), []) :=
      splitDigest_append_digest hno rfl
    have hzero : zeroDigests ht (signed m hmac ht secret).avps = m.avps ++ [zeroedDigestAvp ht] :=
      zeroDigests_append_cons rfl hno
    constructor
    · rintro ⟨m', hok⟩
      obtain ⟨hdecode', _, _, _, hsplit', -, -, hdigest⟩ := (decodeAndVerify_eq_ok hs').mp hok
      rw [hdecode, Except.ok.injEq] at hdecode'
      subst hdecode'
      rw [hsplit, Option.some.injEq, Prod.mk.injEq, Prod.mk.injEq] at hsplit'
      obtain ⟨-, rfl, -⟩ := hsplit'
      rw [hzero] at hdigest
      exact ⟨hs', by simpa [buildMessageDigest, signed] using hdigest.symm⟩
    · rintro ⟨-, hdigest⟩
      refine ⟨_, (decodeAndVerify_eq_ok hs').mpr ⟨hdecode, _, _, _, hsplit,
        hasType_buildMessageDigest (hmac.length_digest ht secret _), ?_, ?_⟩⟩
      · rw [hzero]
        exact hwf
      · rw [hzero]
        simpa [buildMessageDigest, signed] using hdigest.symm

/-- A HELLO signed under one secret verifies under it. -/
theorem decodeAndVerify_undoes_encodeSigned_hello : ∃ bs md,
    encodeSigned ⟨7, 0, 0, [⟨0, [0, 6], true, false, 0⟩]⟩ sumHmac .hmacSha1 [1, 2] = .ok bs ∧
    decodeAndVerify sumHmac bs .hmacSha1 [1, 2]
      = .ok ⟨7, 0, 0, [⟨0, [0, 6], true, false, 0⟩, md]⟩ := by
  obtain ⟨bs, hbs⟩ : ∃ bs,
      encodeSigned ⟨7, 0, 0, [⟨0, [0, 6], true, false, 0⟩]⟩ sumHmac .hmacSha1 [1, 2] = .ok bs :=
    ⟨_, (encodeSigned_eq_ok (by decide)).mpr ⟨by decide, rfl⟩⟩
  obtain ⟨zeroed, -, hverified, -⟩ := decodeAndVerify_undoes_encodeSigned sumHmac
    ⟨7, 0, 0, [⟨0, [0, 6], true, false, 0⟩]⟩ .hmacSha1 [1, 2] bs (by decide) (by decide) hbs
  exact ⟨bs, _, hbs, hverified⟩

/-- **What is not signed does not.** The plain encoding of a message without a digest AVP is
refused. -/
theorem decodeAndVerify_unsigned (hs : secret ≠ []) (hno : ∀ a ∈ m.avps, a.isDigest = false)
    (h : m.encode = .ok bs) (m' : ControlMessage) :
    decodeAndVerify hmac bs ht secret ≠ .ok m' := by
  intro hok
  obtain ⟨hwf, rfl⟩ := encode_eq_ok.mp h
  obtain ⟨hdec, _, _, _, hsplit, -⟩ := (decodeAndVerify_eq_ok hs).mp hok
  rw [decode_wire hwf, Except.ok.injEq] at hdec
  subst hdec
  rw [splitDigest_eq_none hno] at hsplit
  cases hsplit

/-- Verification raises nothing but `ValueError`. -/
theorem decodeAndVerify_onlyValueError (hmac : Hmac) (buf : Bytes) (ht : DigestHash)
    (secret : Bytes) (hs : secret ≠ []) :
    OnlyValueError (decodeAndVerify hmac buf ht secret) := by
  rw [decodeAndVerify]
  refine (decode_onlyValueError buf).bind fun m _ => ?_
  -- a message without a digest AVP is refused by `requireAvp`, with a `ValueError`
  refine OnlyValueError.bind (by cases findAvp m.avps .messageDigest <;> simp [requireAvp])
    fun md _ => ?_
  refine (onlyValueError_raiseIf _ _).bind fun _ _ => ?_
  refine (onlyValueError_raiseIf _ _).bind fun _ _ => ?_
  refine (onlyValueError_raiseIf _ _).bind fun _ _ => ?_
  refine (encode_onlyValueError _).bind fun _ _ => ?_
  rw [verifyMessageDigest_eq hs]
  exact (onlyValueError_raiseIf _ _).bind fun _ _ => by simp

end Signing

end ControlMessage

end L2tpv3d
