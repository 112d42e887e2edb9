import L2tpv3d.Wire.Messages

/-!
# L2tpv3d — the control-message codec is exact

Without a shared secret, `ControlMessage.encode` and `ControlMessage.decode` are inverse
bijections between the well-formed messages and the byte strings the decoder accepts.

* `AVP.Plain`, `ControlMessage.WellFormed` — what the encoder accepts: every field in
  range, nothing hidden, every size below its limit. `AVP.wire` and `ControlMessage.wire`
  are the bytes it then produces (`AVP.encode_eq_ok`, `ControlMessage.encode_eq_ok`).
* **one AVP**: `decodeOne_wire` reads one back from the middle of a buffer;
  `decodeOne_inv` says what a successful read proves about the bytes.
* **the loop**: `decodeLoop_wire` and `decodeLoop_inv`, by induction on the AVP list and
  on the rounds of the loop; `decodeLoop_onlyValueError` shows that the bound on the
  rounds is never met.
* **the message**: `decode_wire`, `decode_inv`, `decode_onlyValueError`.
-/

namespace L2tpv3d

open Py

/-! ## The header bits of an AVP

The header is assembled with shifts and masks. These lemmas turn both directions into arithmetic,
where `omega` can follow. -/

namespace AVP

/-- Byte 0 of the header as a sum: the M bit, the H bit and the two high length bits. -/
theorem headerByte0_eq {totalLen : Nat} (h : totalLen ≤ avpMaxLen) (mandatory hidden : Bool) :
    headerByte0 mandatory hidden totalLen
      = (if mandatory then 128 else 0) + (if hidden then 64 else 0) + totalLen / 256 := by
  have hq : totalLen / 256 < 4 := by
    have : totalLen ≤ 1023 := h
    omega
  -- the two high bits of the length are all there is above its low byte
  have hshift : (totalLen >>> 8) &&& 0x03 = totalLen / 256 := by
    rw [Nat.shiftRight_eq_div_pow, show (0x03 : Nat) = 2 ^ 2 - 1 from rfl,
      Nat.and_two_pow_sub_one_eq_mod]
    exact Nat.mod_eq_of_lt hq
  rw [headerByte0, hshift]
  -- two flags and a number below four are left: a finite table
  generalize totalLen / 256 = q at hq
  revert q mandatory hidden
  decide

/-- Byte 1 holds the low eight bits of the length. -/
theorem headerByte1_eq (totalLen : Nat) : headerByte1 totalLen = totalLen % 256 := by
  rw [headerByte1, show (0xFF : Nat) = 2 ^ 8 - 1 from rfl, Nat.and_two_pow_sub_one_eq_mod]

/-- The bit fields that `decode_one` reads off byte 0, for a byte without reserved bits:
the byte is the sum of its M bit, its H bit and its two low bits. -/
theorem byte0_fields (b0 : Nat) (hb : b0 < 256) (hr : (b0 >>> 2) &&& 0x0F = 0) :
    b0 = (if b0 &&& 0x80 != 0 then 128 else 0) + (if b0 &&& 0x40 != 0 then 64 else 0)
      + (b0 &&& 0x03) := by
  revert b0
  decide +kernel

theorem byte0_of_fields (m h : Bool) (q : Nat) (hq : q < 4) :
    let b0 := (if m then 128 else 0) + (if h then 64 else 0) + q
    (b0 &&& 0x80 != 0) = m ∧ (b0 &&& 0x40 != 0) = h ∧ (b0 >>> 2) &&& 0x0F = 0
      ∧ b0 &&& 0x03 = q ∧ b0 < 256 := by
  revert m h q
  decide

/-- `(hi << 8) | lo` for a low byte. -/
theorem shift_or_eq (q b1 : Nat) (hb : b1 < 256) : (q <<< 8) ||| b1 = q * 256 + b1 := by
  rw [Nat.shiftLeft_eq, Nat.mul_comm q, ← Nat.two_pow_add_eq_or_of_lt (i := 8) hb]

/-! ## What the encoder accepts, and the bytes it produces

The encoder fails exactly when a field is out of range or the whole is too long. Then what it
returns is a concatenation, of which the decoder's slices can be computed. -/

/-- An AVP that encodes without a secret: fields in range, not hidden, value at most 1017
bytes. -/
structure Plain (avp : AVP) : Prop where
  vendorId_nonneg : 0 ≤ avp.vendorId
  vendorId_le : avp.vendorId ≤ 0xFFFF
  attributeType_nonneg : 0 ≤ avp.attributeType
  attributeType_le : avp.attributeType ≤ 0xFFFF
  not_hidden : avp.hidden = false
  value_le : avp.value.length ≤ 1017

instance (avp : AVP) : Decidable avp.Plain :=
  decidable_of_iff
    (0 ≤ avp.vendorId ∧ avp.vendorId ≤ 0xFFFF ∧ 0 ≤ avp.attributeType ∧
      avp.attributeType ≤ 0xFFFF ∧ avp.hidden = false ∧ avp.value.length ≤ 1017)
    ⟨fun ⟨a, b, c, d, e, f⟩ => ⟨a, b, c, d, e, f⟩, fun ⟨a, b, c, d, e, f⟩ => ⟨a, b, c, d, e, f⟩⟩

/-- The wire bytes of an AVP that is not hidden. -/
def wire (avp : AVP) : Bytes :=
  beBytes 1 (headerByte0 avp.mandatory avp.hidden (avpHeaderLen + avp.value.length))
    ++ beBytes 1 (headerByte1 (avpHeaderLen + avp.value.length))
    ++ beBytes 2 avp.vendorId.toNat ++ beBytes 2 avp.attributeType.toNat ++ avp.value

/-- The wire bytes of an AVP whose value stands on the wire as `valueField`. -/
def wireWith (avp : AVP) (valueField : Bytes) : Bytes :=
  beBytes 1 (headerByte0 avp.mandatory avp.hidden (avpHeaderLen + valueField.length))
    ++ beBytes 1 (headerByte1 (avpHeaderLen + valueField.length))
    ++ beBytes 2 avp.vendorId.toNat ++ beBytes 2 avp.attributeType.toNat ++ valueField

/-- An AVP that is not hidden stands on the wire with its value as it is. -/
theorem wire_eq (avp : AVP) : avp.wire = avp.wireWith avp.value := rfl

/-- The header has six bytes, whatever the fields are. -/
@[simp] theorem length_wireWith (avp : AVP) (valueField : Bytes) :
    (avp.wireWith valueField).length = avpHeaderLen + valueField.length := by
  simp only [wireWith, avpHeaderLen, List.length_append, length_beBytes]

/-- The bytes of an AVP are its header and its value. -/
@[simp] theorem length_wire (avp : AVP) :
    avp.wire.length = avpHeaderLen + avp.value.length := by
  rw [wire_eq, length_wireWith]

/-- The conditions on the header fields: the two numbers fit 16 bits each, the length of the
value on the wire leaves room for the header in 10 bits. -/
structure Fits (avp : AVP) (valueField : Bytes) : Prop where
  vendorId_nonneg : 0 ≤ avp.vendorId
  vendorId_le : avp.vendorId ≤ 0xFFFF
  attributeType_nonneg : 0 ≤ avp.attributeType
  attributeType_le : avp.attributeType ≤ 0xFFFF
  length_le : valueField.length ≤ 1017

/-- An AVP encodes without a secret if and only if it is not hidden and its value fits as it stands.
-/
theorem plain_iff {avp : AVP} : avp.Plain ↔ avp.hidden = false ∧ avp.Fits avp.value :=
  ⟨fun ⟨a, b, c, d, hh, e⟩ => ⟨hh, a, b, c, d, e⟩, fun ⟨hh, a, b, c, d, e⟩ => ⟨a, b, c, d, hh, e⟩⟩

/-- Byte 0 is a byte, so it can be packed. -/
theorem headerByte0_lt (mandatory hidden : Bool) (totalLen : Nat) (h : totalLen ≤ avpMaxLen) :
    headerByte0 mandatory hidden totalLen < 256 := by
  have hq : totalLen / 256 < 4 := by
    have : totalLen ≤ 1023 := h
    omega
  rw [headerByte0_eq h]
  exact (byte0_of_fields mandatory hidden _ hq).2.2.2.2

/-- **The AVP encoder, with or without a secret.** `encode` succeeds exactly when the value
has a form on the wire and the header fields fit. -/
theorem encode_eq_wireWith {avp : AVP} {s : Option SharedSecret} {rv : Option Bytes}
    {bs : Bytes} :
    avp.encode s rv = .ok bs ↔
      ∃ vf, avp.valueToWire s rv = .ok vf ∧ avp.Fits vf ∧ bs = avp.wireWith vf := by
  have hmax : avpMaxLen = 1023 := rfl
  have hhdr : avpHeaderLen = 6 := rfl
  constructor
  · intro h
    -- the guards that passed bound every field, so each `pack` wrote what it was given
    simp only [encode, bind_eq_ok, raiseIf_eq_ok] at h
    obtain ⟨_, hv, _, ha, vf, hvf, _, hlen, _, hp0, _, hp1, _, hp2, _, hp3, h⟩ := h
    have hb0 := headerByte0_lt avp.mandatory avp.hidden (avpHeaderLen + vf.length) (by omega)
    have hb1 : headerByte1 (avpHeaderLen + vf.length) < 256 := by rw [headerByte1_eq]; omega
    rw [pack_eq_ok (by omega) (by omega)] at hp0 hp1 hp2 hp3
    cases hp0; cases hp1; cases hp2; cases hp3; cases h
    exact ⟨vf, hvf, ⟨by omega, by omega, by omega, by omega, by omega⟩, rfl⟩
  -- conversely no guard fires and every `pack` succeeds
  · rintro ⟨vf, hvf, ⟨v0, v1, a0, a1, hle⟩, rfl⟩
    have hb0 := headerByte0_lt avp.mandatory avp.hidden (avpHeaderLen + vf.length) (by omega)
    have hb1 : headerByte1 (avpHeaderLen + vf.length) < 256 := by rw [headerByte1_eq]; omega
    simp only [encode, hvf, ok_bind]
    rw [raiseIf_neg (by omega), raiseIf_neg (by omega), raiseIf_neg (by omega),
      pack_eq_ok (by omega) (by omega), pack_eq_ok (by omega) (by omega),
      pack_eq_ok (by omega) (by omega), pack_eq_ok (by omega) (by omega)]
    rfl

/-- Without a secret, the value on the wire is the value, and nothing may be hidden. -/
theorem valueToWire_none {avp : AVP} {vf : Bytes} :
    avp.valueToWire none none = .ok vf ↔ avp.hidden = false ∧ vf = avp.value := by
  unfold valueToWire
  cases avp.hidden <;> simp [eq_comm]

/-- **The AVP encoder.** Without a secret, `encode` succeeds exactly on the plain AVPs, and
returns their wire bytes. -/
theorem encode_eq_ok {avp : AVP} {bs : Bytes} :
    avp.encode = .ok bs ↔ avp.Plain ∧ bs = avp.wire := by
  simp only [encode_eq_wireWith, valueToWire_none, plain_iff, wire_eq]
  constructor
  · rintro ⟨_, ⟨hh, rfl⟩, hf, rfl⟩
    exact ⟨⟨hh, hf⟩, rfl⟩
  · rintro ⟨⟨hh, hf⟩, rfl⟩
    exact ⟨_, ⟨hh, rfl⟩, hf, rfl⟩

/-- Without a secret, `encode` raises nothing but `ValueError`. -/
theorem encode_onlyValueError (avp : AVP) : OnlyValueError avp.encode := by
  have hmax : avpMaxLen = 1023 := rfl
  rw [encode]
  refine (onlyValueError_raiseIf _ _).bind fun _ hv => ?_
  refine (onlyValueError_raiseIf _ _).bind fun _ ha => ?_
  refine OnlyValueError.bind (by unfold valueToWire; split <;> simp) fun value _ => ?_
  refine (onlyValueError_raiseIf _ _).bind fun _ hlen => ?_
  -- once the guards have passed, no `pack` is out of range
  rw [raiseIf_eq_ok] at hv ha hlen
  have hb0 := headerByte0_lt avp.mandatory avp.hidden (avpHeaderLen + value.length) (by omega)
  have hb1 : headerByte1 (avpHeaderLen + value.length) < 256 := by rw [headerByte1_eq]; omega
  rw [pack_eq_ok (by omega) (by omega), ok_bind, pack_eq_ok (by omega) (by omega), ok_bind,
    pack_eq_ok (by omega) (by omega), ok_bind, pack_eq_ok (by omega) (by omega)]
  simp

/-! ## One AVP inside a buffer

The decoder works at an offset into the whole message, so every lemma carries the bytes before and
behind. Forwards: what was written is read. Backwards: what was read was written. -/

/-- The four header reads of `decode_one`, when the header is inside the buffer. -/
theorem decodeOne_header (buf : Bytes) (offset : Nat) (h : offset + avpHeaderLen ≤ buf.length) :
    unpackFrom 1 buf offset = .ok (beNat (slice buf offset (offset + 1)) : Int)
      ∧ unpackFrom 1 buf (offset + 1) = .ok (beNat (slice buf (offset + 1) (offset + 2)) : Int)
      ∧ unpackFrom 2 buf (offset + 2) = .ok (beNat (slice buf (offset + 2) (offset + 4)) : Int)
      ∧ unpackFrom 2 buf (offset + 4) = .ok (beNat (slice buf (offset + 4) (offset + 6)) : Int) := by
  have hhdr : avpHeaderLen = 6 := rfl
  refine ⟨?_, ?_, ?_, ?_⟩ <;> exact unpackFrom_eq_ok (by omega)

/-- Where the fields of an AVP's wire bytes stand in a buffer that contains them. -/
theorem slice_wireWith (avp : AVP) (vf pre post : Bytes) :
    let total := avpHeaderLen + vf.length
    let buf := pre ++ (avp.wireWith vf ++ post)
    slice buf pre.length (pre.length + 1)
        = beBytes 1 (headerByte0 avp.mandatory avp.hidden total)
      ∧ slice buf (pre.length + 1) (pre.length + 2) = beBytes 1 (headerByte1 total)
      ∧ slice buf (pre.length + 2) (pre.length + 4) = beBytes 2 avp.vendorId.toNat
      ∧ slice buf (pre.length + 4) (pre.length + 6) = beBytes 2 avp.attributeType.toNat
      ∧ slice buf (pre.length + avpHeaderLen) (pre.length + total) = vf := by
  intro total buf
  have h0 := slice_append_shift pre (avp.wireWith vf ++ post) 0 1
  rw [Nat.add_zero] at h0
  rw [h0, slice_append_shift, slice_append_shift, slice_append_shift, slice_append_shift]
  refine ⟨?_, ?_, ?_, ?_, ?_⟩ <;>
    simp (disch := simp) [wireWith, slice, total, avpHeaderLen, List.drop_append,
      List.drop_of_length_le]

/-- **Reading one AVP back, with or without a secret.** At the offset where the wire bytes of
an AVP stand, `decode_one` takes the value field back to the value, keeps the other fields,
and returns the offset just after the bytes. -/
theorem decodeOne_wireWith {avp : AVP} {vf : Bytes} (hf : avp.Fits vf) (pre post : Bytes)
    (s : Option SharedSecret) (rv : Option Bytes) :
    decodeOne (pre ++ (avp.wireWith vf ++ post)) pre.length s rv
      = do
        let value ← valueOfWire avp.hidden avp.attributeType vf s rv
        return (⟨avp.attributeType, value, avp.mandatory, avp.hidden, avp.vendorId⟩,
          pre.length + (avp.wireWith vf).length) := by
  obtain ⟨h1, h2, h3, h4, hle⟩ := hf
  have hmax : avpMaxLen = 1023 := rfl
  have hhdr : avpHeaderLen = 6 := rfl
  obtain ⟨s0, s1, s2, s4, s6⟩ := slice_wireWith avp vf pre post
  have hlen : (pre ++ (avp.wireWith vf ++ post)).length
      = pre.length + (avpHeaderLen + vf.length + post.length) := by simp
  set total := avpHeaderLen + vf.length with htotal
  set buf := pre ++ (avp.wireWith vf ++ post)
  -- the fields `decode_one` reads off the two length bytes
  have htl : total ≤ avpMaxLen := by omega
  obtain ⟨hM, hH, hR, hQ, -⟩ :=
    byte0_of_fields avp.mandatory avp.hidden (total / 256) (by omega)
  rw [← headerByte0_eq htl] at hM hH hR hQ
  have hb0 : headerByte0 avp.mandatory avp.hidden total < 256 ^ 1 := headerByte0_lt _ _ _ htl
  have hb1 : headerByte1 total < 256 ^ 1 := by rw [headerByte1_eq]; omega
  have htot : ((headerByte0 avp.mandatory avp.hidden total &&& 0x03) <<< 8) ||| headerByte1 total
      = total := by
    rw [hQ, shift_or_eq _ _ hb1, headerByte1_eq]; omega
  -- the four header reads, each the field that was written there
  obtain ⟨r0, r1, r2, r4⟩ := decodeOne_header buf pre.length (by omega)
  rw [s0, beNat_beBytes hb0] at r0
  rw [s1, beNat_beBytes hb1] at r1
  rw [s2, beNat_beBytes (by omega), Int.toNat_of_nonneg h1] at r2
  rw [s4, beNat_beBytes (by omega), Int.toNat_of_nonneg h3] at r4
  simp only [decodeOne, r0, r1, r2, r4, ok_bind, Int.toNat_natCast, hR, htot, hM, hH, s6]
  -- the four guards: enough bytes, no reserved bit, and a length within its limits
  rw [raiseIf_neg (by omega), raiseIf_neg (by simp), raiseIf_neg (by omega),
    raiseIf_neg (by omega)]
  simp only [ok_bind, length_wireWith, ← htotal]

/-- **Reading one AVP back.** At the offset where the wire bytes of a plain AVP stand,
`decode_one` returns that AVP and the offset just after them. -/
theorem decodeOne_wire {avp : AVP} (hp : avp.Plain) (pre post : Bytes) (rv : Option Bytes) :
    decodeOne (pre ++ (avp.wire ++ post)) pre.length none rv
      = .ok (avp, pre.length + avp.wire.length) := by
  obtain ⟨hh, hf⟩ := plain_iff.mp hp
  rw [wire_eq, decodeOne_wireWith hf]
  simp only [valueOfWire, hh, ok_bind, Bool.false_eq_true, if_false, pure_eq_ok]
  cases avp
  cases hh
  rfl

/-- **What a successful read proves.** Without a secret, an AVP that `decode_one` returns is
plain, and its wire bytes are exactly the bytes between the two offsets. -/
theorem decodeOne_inv {buf : Bytes} {offset next : Nat} {rv : Option Bytes} {avp : AVP}
    (h : decodeOne buf offset none rv = .ok (avp, next)) :
    avp.Plain ∧ next = offset + avp.wire.length ∧ next ≤ buf.length
      ∧ slice buf offset next = avp.wire := by
  have hmax : avpMaxLen = 1023 := rfl
  have hhdr : avpHeaderLen = 6 := rfl
  rw [decodeOne] at h
  simp only [bind_eq_ok, raiseIf_eq_ok] at h
  obtain ⟨_, hrem, h⟩ := h
  obtain ⟨r0, r1, r2, r4⟩ := decodeOne_header buf offset (by omega)
  -- the header fields, read from slices of one and two bytes
  have l0 : (slice buf offset (offset + 1)).length = 1 := by rw [length_slice]; all_goals omega
  have l1 : (slice buf (offset + 1) (offset + 2)).length = 1 := by
    rw [length_slice]; all_goals omega
  have l2 : (slice buf (offset + 2) (offset + 4)).length = 2 := by
    rw [length_slice]; all_goals omega
  have l4 : (slice buf (offset + 4) (offset + 6)).length = 2 := by
    rw [length_slice]; all_goals omega
  have n0 := beNat_lt (slice buf offset (offset + 1))
  have n1 := beNat_lt (slice buf (offset + 1) (offset + 2))
  have n2 := beNat_lt (slice buf (offset + 2) (offset + 4))
  have n4 := beNat_lt (slice buf (offset + 4) (offset + 6))
  rw [l0] at n0; rw [l1] at n1; rw [l2] at n2; rw [l4] at n4
  have e0 := beBytes_beNat_of_length l0
  have e1 := beBytes_beNat_of_length l1
  have e2 := beBytes_beNat_of_length l2
  have e4 := beBytes_beNat_of_length l4
  simp only [r0, r1, r2, r4, Except.ok.injEq, exists_eq_left', Int.toNat_natCast] at h
  set b0 := beNat (slice buf offset (offset + 1))
  set b1 := beNat (slice buf (offset + 1) (offset + 2))
  set vid := beNat (slice buf (offset + 2) (offset + 4))
  set attr := beNat (slice buf (offset + 4) (offset + 6))
  obtain ⟨_, hR, _, hlo, _, hhi, value, hval, h⟩ := h
  have hfields := byte0_fields b0 (by omega) (by simpa using hR)
  have hq : b0 &&& 0x03 < 4 := by
    have := @Nat.and_le_right b0 0x03
    omega
  rw [shift_or_eq _ _ (by omega)] at hlo hhi hval h
  set total := (b0 &&& 0x03) * 256 + b1 with htotal
  cases hH : (b0 &&& 0x40 != 0) with
  | true => rw [hH] at hval; simp [valueOfWire] at hval
  | false =>
    rw [hH] at hval
    simp only [valueOfWire, Bool.false_eq_true, if_false, Except.ok.injEq] at hval
    subst hval
    simp only [pure_eq_ok, Except.ok.injEq, Prod.mk.injEq] at h
    obtain ⟨rfl, rfl⟩ := h
    have hvlen : (slice buf (offset + avpHeaderLen) (offset + total)).length = total - 6 := by
      rw [length_slice _ (by omega)]; omega
    have hsum : avpHeaderLen + (slice buf (offset + avpHeaderLen) (offset + total)).length
        = total := by omega
    refine ⟨⟨by simp, by simp; omega, by simp, by simp; omega, hH, by simp; omega⟩, ?_, by omega, ?_⟩
    · rw [length_wire, hsum]
    · -- glue the header slices and the value back together
      have hdiv : total / 256 = b0 &&& 0x03 := by omega
      have hmod : total % 256 = b1 := by omega
      have hb0 : headerByte0 (b0 &&& 0x80 != 0) false total = b0 := by
        rw [headerByte0_eq (by omega), hdiv]
        conv_rhs => rw [hfields, hH]
      simp only [wire, hsum, hH, hb0, headerByte1_eq, hmod, Int.toNat_natCast, e0, e1, e2, e4]
      rw [slice_append_slice _ (by omega) (by omega), slice_append_slice _ (by omega) (by omega),
        slice_append_slice _ (by omega) (by omega)]
      exact (slice_append_slice _ (by omega) (by omega)).symm

/-- Without a secret, `decode_one` raises nothing but `ValueError`. -/
theorem decodeOne_onlyValueError (buf : Bytes) (offset : Nat) (rv : Option Bytes) :
    OnlyValueError (decodeOne buf offset none rv) := by
  have hhdr : avpHeaderLen = 6 := rfl
  rw [decodeOne]
  refine (onlyValueError_raiseIf _ _).bind fun _ hrem => ?_
  rw [raiseIf_eq_ok] at hrem
  obtain ⟨r0, r1, r2, r4⟩ := decodeOne_header buf offset (by omega)
  simp only [r0, r1, r2, r4, ok_bind]
  refine (onlyValueError_raiseIf _ _).bind fun _ _ => ?_
  refine (onlyValueError_raiseIf _ _).bind fun _ _ => ?_
  refine (onlyValueError_raiseIf _ _).bind fun _ _ => ?_
  refine OnlyValueError.bind ?_ fun _ _ => by simp
  unfold valueOfWire
  split <;> simp

/-! ## The decoding loop

The loop is given as many rounds as there are bytes, more than it can use since an AVP takes at
least six. Both directions are inductions, on the list of AVPs and on the rounds. -/

/-- The wire bytes of an AVP list. -/
def wireAll (avps : List AVP) : Bytes := avps.flatMap wire

@[simp] theorem wireAll_nil : wireAll [] = [] := rfl

/-- The bytes of a list of AVPs are those of the first one and then those of the rest. -/
@[simp] theorem wireAll_cons (avp : AVP) (avps : List AVP) :
    wireAll (avp :: avps) = avp.wire ++ wireAll avps := rfl

/-- There are at least as many bytes as AVPs, so as many rounds as there are bytes are enough for
the loop. -/
theorem length_le_length_wireAll (avps : List AVP) : avps.length ≤ (wireAll avps).length := by
  induction avps with
  | nil => simp
  | cons avp avps ih => simp [avpHeaderLen]; omega

/-- **The loop reads a list back.** From the offset where the wire bytes of plain AVPs run
to the end of the buffer, the loop returns those AVPs. Induction on the list; the current
random vector plays no part without a secret. -/
theorem decodeLoop_wire {avps : List AVP} (hp : ∀ avp ∈ avps, avp.Plain) (pre : Bytes)
    (fuel : Nat) (hfuel : avps.length ≤ fuel) (rv : Option Bytes) (acc : List AVP) :
    decodeLoop (pre ++ wireAll avps) none fuel pre.length rv acc = .ok (acc ++ avps) := by
  induction avps generalizing pre fuel rv acc with
  | nil => cases fuel <;> simp [decodeLoop]
  | cons avp avps ih =>
    obtain ⟨n, rfl⟩ : ∃ n, fuel = n + 1 := ⟨fuel - 1, by simp at hfuel; omega⟩
    have hin : pre.length < (pre ++ wireAll (avp :: avps)).length := by
      simp [avpHeaderLen]
    have hone := decodeOne_wire (hp avp List.mem_cons_self) pre (wireAll avps) rv
    have hrest := ih (fun a ha => hp a (List.mem_cons_of_mem _ ha)) (pre ++ avp.wire) n
      (by simpa using hfuel)
    rw [decodeLoop, if_pos hin, wireAll_cons, hone]
    simp only [ok_bind]
    rw [show pre.length + avp.wire.length = (pre ++ avp.wire).length from by simp,
      ← List.append_assoc pre, hrest]
    simp

/-- **What a successful loop proves.** The AVPs it added are plain and their wire bytes are
the rest of the buffer. Induction on the rounds. -/
theorem decodeLoop_inv {buf : Bytes} {fuel : Nat} (pos : Nat) {rv : Option Bytes} {acc res : List AVP}
    (hpos : pos ≤ buf.length) (h : decodeLoop buf none fuel pos rv acc = .ok res) :
    ∃ avps, res = acc ++ avps ∧ (∀ avp ∈ avps, avp.Plain) ∧ buf.drop pos = wireAll avps := by
  induction fuel generalizing pos rv acc with
  | zero =>
    rw [decodeLoop] at h
    split at h
    · cases h
    · cases h
      exact ⟨[], by simp, by simp, List.drop_of_length_le (by omega)⟩
  | succ fuel ih =>
    rw [decodeLoop] at h
    split at h
    · simp only [bind_eq_ok, Prod.exists] at h
      -- one AVP is decoded, and the rest by induction; the bytes of both are next to each other
      obtain ⟨avp, next, hone, h⟩ := h
      obtain ⟨hplain, hnext, hle, hslice⟩ := decodeOne_inv hone
      obtain ⟨avps, hres, hall, hdrop⟩ := ih next hle h
      refine ⟨avp :: avps, by simp [hres], ?_, ?_⟩
      · intro a ha
        rcases List.mem_cons.mp ha with rfl | ha
        · exact hplain
        · exact hall a ha
      · rw [wireAll_cons, ← hdrop, ← hslice, slice, hnext,
          show buf.drop (pos + avp.wire.length) = (buf.drop pos).drop avp.wire.length from by
            rw [List.drop_drop],
          Nat.add_sub_cancel_left, List.take_append_drop]
    · cases h
      exact ⟨[], by simp, by simp, List.drop_of_length_le (by omega)⟩

/-- The loop raises nothing but `ValueError`; in particular it is never cut off, since each
round takes at least one byte of the buffer. -/
theorem decodeLoop_onlyValueError (buf : Bytes) (fuel pos : Nat) (rv : Option Bytes)
    (acc : List AVP) (hfuel : buf.length ≤ pos + fuel) :
    OnlyValueError (decodeLoop buf none fuel pos rv acc) := by
  induction fuel generalizing pos rv acc with
  | zero => rw [decodeLoop, if_neg (by omega)]; simp
  | succ fuel ih =>
    rw [decodeLoop]
    split
    · refine (decodeOne_onlyValueError buf pos rv).bind ?_
      rintro ⟨avp, next⟩ hone
      obtain ⟨-, hnext, -, -⟩ := decodeOne_inv hone
      exact ih _ _ _ (by simp [avpHeaderLen] at hnext; omega)
    · simp

end AVP

/-! ## The message

The twelve bytes of the header, then the AVPs. The checks of the decoder are exactly what makes the
bytes those of a well-formed message, so the codec is a bijection. -/

namespace ControlMessage

/-- A message that encodes without a secret: identifiers and sequence numbers in range,
plain AVPs, total size at most 65535 bytes. -/
structure WellFormed (m : ControlMessage) : Prop where
  ccid_nonneg : 0 ≤ m.controlConnectionId
  ccid_le : m.controlConnectionId ≤ 0xFFFFFFFF
  ns_nonneg : 0 ≤ m.ns
  ns_le : m.ns ≤ 0xFFFF
  nr_nonneg : 0 ≤ m.nr
  nr_le : m.nr ≤ 0xFFFF
  avps_plain : ∀ avp ∈ m.avps, avp.Plain
  size_le : headerLen + (AVP.wireAll m.avps).length ≤ maxMessageLen

instance (m : ControlMessage) : Decidable m.WellFormed :=
  decidable_of_iff
    (0 ≤ m.controlConnectionId ∧ m.controlConnectionId ≤ 0xFFFFFFFF ∧ 0 ≤ m.ns ∧
      m.ns ≤ 0xFFFF ∧ 0 ≤ m.nr ∧ m.nr ≤ 0xFFFF ∧ (∀ avp ∈ m.avps, avp.Plain) ∧
      headerLen + (AVP.wireAll m.avps).length ≤ maxMessageLen)
    ⟨fun ⟨a, b, c, d, e, f, g, h⟩ => ⟨a, b, c, d, e, f, g, h⟩,
      fun ⟨a, b, c, d, e, f, g, h⟩ => ⟨a, b, c, d, e, f, g, h⟩⟩

/-- The 12 header bytes of a message with `size` bytes in all. -/
def headerWire (m : ControlMessage) (size : Nat) : Bytes :=
  beBytes 1 ctrlFlagsByte0 ++ beBytes 1 version ++ beBytes 2 size
    ++ beBytes 4 m.controlConnectionId.toNat ++ beBytes 2 m.ns.toNat ++ beBytes 2 m.nr.toNat

/-- The wire bytes of a message without hidden AVPs. -/
def wire (m : ControlMessage) : Bytes :=
  m.headerWire (headerLen + (AVP.wireAll m.avps).length) ++ AVP.wireAll m.avps

/-- The header has twelve bytes, whatever the fields are. -/
@[simp] theorem length_headerWire (m : ControlMessage) (size : Nat) :
    (m.headerWire size).length = headerLen := by
  simp [headerWire, headerLen]

/-- The bytes of a message are its header and its AVPs. -/
@[simp] theorem length_wire (m : ControlMessage) :
    m.wire.length = headerLen + (AVP.wireAll m.avps).length := by
  simp [wire]

/-- The body encodes exactly when every AVP is plain. -/
theorem encodeBody_eq_ok {avps : List AVP} {bs : Bytes} :
    encodeBody none none avps = .ok bs ↔
      (∀ avp ∈ avps, avp.Plain) ∧ bs = AVP.wireAll avps := by
  induction avps generalizing bs with
  | nil => simp [encodeBody, eq_comm]
  | cons avp avps ih =>
    simp only [encodeBody, bind_eq_ok, AVP.encode_eq_ok, ih, pure_eq_ok, Except.ok.injEq,
      List.forall_mem_cons, AVP.wireAll_cons]
    constructor
    · rintro ⟨_, ⟨hp, rfl⟩, _, ⟨hps, rfl⟩, rfl⟩
      exact ⟨⟨hp, hps⟩, rfl⟩
    · rintro ⟨⟨hp, hps⟩, rfl⟩
      exact ⟨_, ⟨hp, rfl⟩, _, ⟨hps, rfl⟩, rfl⟩

/-- The header fields of a message are in range. -/
structure InRange (m : ControlMessage) : Prop where
  ccid_nonneg : 0 ≤ m.controlConnectionId
  ccid_le : m.controlConnectionId ≤ 0xFFFFFFFF
  ns_nonneg : 0 ≤ m.ns
  ns_le : m.ns ≤ 0xFFFF
  nr_nonneg : 0 ≤ m.nr
  nr_le : m.nr ≤ 0xFFFF

/-- A message encodes if its header fields are in range, its AVPs are plain and the whole fits the
Length field. -/
theorem wellFormed_iff {m : ControlMessage} :
    m.WellFormed ↔ m.InRange ∧ (∀ avp ∈ m.avps, avp.Plain)
      ∧ headerLen + (AVP.wireAll m.avps).length ≤ maxMessageLen :=
  ⟨fun ⟨a, b, c, d, e, f, g, h⟩ => ⟨⟨a, b, c, d, e, f⟩, g, h⟩,
    fun ⟨⟨a, b, c, d, e, f⟩, g, h⟩ => ⟨a, b, c, d, e, f, g, h⟩⟩

/-- The checks of the header fields pass exactly on fields that are in range. -/
theorem validateFields_eq_ok {m : ControlMessage} {u : Unit} :
    m.validateFields = .ok u ↔ m.InRange := by
  simp only [validateFields, bind_eq_ok, raiseIf_eq_ok]
  constructor
  · rintro ⟨_, hc, _, hs, hr⟩
    exact ⟨by omega, by omega, by omega, by omega, by omega, by omega⟩
  · rintro ⟨c0, c1, s0, s1, r0, r1⟩
    exact ⟨(), by omega, (), by omega, by omega⟩

/-- **The message encoder, with or without a secret.** `encode` succeeds exactly when the
header fields are in range, every AVP encodes and the whole fits; it returns the header
bytes and the bodies of the AVPs. -/
theorem encode_eq_headerWire {m : ControlMessage} {s : Option SharedSecret} {rv : Option Bytes}
    {bs : Bytes} :
    m.encode s rv = .ok bs ↔
      ∃ body, encodeBody s rv m.avps = .ok body ∧ m.InRange
        ∧ headerLen + body.length ≤ maxMessageLen
        ∧ bs = m.headerWire (headerLen + body.length) ++ body := by
  have hmax : maxMessageLen = 65535 := rfl
  have hb0 : pack 1 (ctrlFlagsByte0 : Int) = .ok (beBytes 1 ctrlFlagsByte0) := rfl
  have hb1 : pack 1 ((version &&& versionByte1Mask : Nat) : Int) = .ok (beBytes 1 version) := rfl
  simp only [encode, bind_eq_ok, raiseIf_eq_ok, validateFields_eq_ok, hb0, hb1, Except.ok.injEq,
    exists_eq_left', pure_eq_ok]
  constructor
  -- forward: the guards that passed bound the fields, so every `pack` wrote its field
  · rintro ⟨_, hrange, body, hbody, _, hsize, _, hlen, _, hccid, _, hns, _, hnr, rfl⟩
    obtain ⟨c0, c1, s0, s1, r0, r1⟩ := hrange
    rw [pack_eq_ok (by omega) (by omega)] at hlen hccid hns hnr
    cases hlen; cases hccid; cases hns; cases hnr
    exact ⟨body, hbody, ⟨c0, c1, s0, s1, r0, r1⟩, by omega, rfl⟩
  -- backward: with the fields in range no guard fires
  · rintro ⟨body, hbody, hrange, hsize, rfl⟩
    obtain ⟨c0, c1, s0, s1, r0, r1⟩ := hrange
    refine ⟨(), ⟨c0, c1, s0, s1, r0, r1⟩, body, hbody, (), by omega, _,
      pack_eq_ok (by omega) (by omega), _, pack_eq_ok c0 (by omega), _,
      pack_eq_ok s0 (by omega), _, pack_eq_ok r0 (by omega), rfl⟩

/-- **The message encoder.** Without a secret, `encode` succeeds exactly on the well-formed
messages, and returns their wire bytes. -/
theorem encode_eq_ok {m : ControlMessage} {bs : Bytes} :
    m.encode = .ok bs ↔ m.WellFormed ∧ bs = m.wire := by
  simp only [encode_eq_headerWire, encodeBody_eq_ok, wellFormed_iff, wire]
  constructor
  · rintro ⟨_, ⟨hp, rfl⟩, hrange, hsize, rfl⟩
    exact ⟨⟨hrange, hp, hsize⟩, rfl⟩
  · rintro ⟨⟨hrange, hp, hsize⟩, rfl⟩
    exact ⟨_, ⟨hp, rfl⟩, hrange, hsize, rfl⟩

/-- A well-formed message encodes to its wire bytes. -/
theorem encode_of_wellFormed {m : ControlMessage} (hm : m.WellFormed) :
    m.encode = .ok m.wire :=
  encode_eq_ok.mpr ⟨hm, rfl⟩

/-- What encodes is well-formed. -/
theorem wellFormed_of_encode {m : ControlMessage} {bs : Bytes} (h : m.encode = .ok bs) :
    m.WellFormed :=
  (encode_eq_ok.mp h).1

/-- The AVPs of a message raise nothing but `ValueError` when they are encoded. -/
theorem encodeBody_onlyValueError (avps : List AVP) :
    OnlyValueError (encodeBody none none avps) := by
  induction avps with
  | nil => simp [encodeBody]
  | cons avp avps ih =>
    exact (AVP.encode_onlyValueError avp).bind fun _ _ => ih.bind fun _ _ => by simp

/-- Without a secret, `encode` raises nothing but `ValueError`: after its checks every field
fits the place it is packed into. -/
theorem encode_onlyValueError (m : ControlMessage) : OnlyValueError m.encode := by
  by_cases hm : m.WellFormed
  · rw [encode_of_wellFormed hm]; simp
  · rw [encode]
    refine OnlyValueError.bind ?_ fun _ hvalid => ?_
    · exact (onlyValueError_raiseIf _ _).bind fun _ _ =>
        (onlyValueError_raiseIf _ _).bind fun _ _ => onlyValueError_raiseIf _ _
    refine (encodeBody_onlyValueError m.avps).bind fun body hbody => ?_
    refine (onlyValueError_raiseIf _ _).bind fun _ hsize => ?_
    -- the checks passed, so the message is well-formed after all
    obtain ⟨hp, rfl⟩ := encodeBody_eq_ok.mp hbody
    rw [raiseIf_eq_ok] at hsize
    exact absurd (wellFormed_iff.mpr ⟨validateFields_eq_ok.mp hvalid, hp, by omega⟩) hm

/-- Byte 0 passes its check only when it is `ctrlFlagsByte0`. -/
theorem checkFlags_eq_ok {b0 : Nat} {u : Unit} : checkFlags b0 = .ok u ↔ b0 = ctrlFlagsByte0 := by
  unfold checkFlags
  split
  · simp_all
  · split
    · simp_all
    · split
      · simp_all
      · split <;> simp_all

/-- Byte 1 passes its two checks only when it is the version. -/
theorem versionByte (b1 : Nat) (hb : b1 < 256) :
    (b1 &&& 0xF0 = 0 ∧ b1 &&& versionByte1Mask = version) ↔ b1 = version := by
  revert b1
  decide +kernel

/-- The six header reads of `decode`, when the header is inside the buffer. -/
theorem decode_header (buf : Bytes) (h : headerLen ≤ buf.length) :
    unpackFrom 1 buf 0 = .ok (beNat (slice buf 0 1) : Int)
      ∧ unpackFrom 1 buf 1 = .ok (beNat (slice buf 1 2) : Int)
      ∧ unpackFrom 2 buf 2 = .ok (beNat (slice buf 2 4) : Int)
      ∧ unpackFrom 4 buf 4 = .ok (beNat (slice buf 4 8) : Int)
      ∧ unpackFrom 2 buf 8 = .ok (beNat (slice buf 8 10) : Int)
      ∧ unpackFrom 2 buf 10 = .ok (beNat (slice buf 10 12) : Int) := by
  have hhdr : headerLen = 12 := rfl
  refine ⟨?_, ?_, ?_, ?_, ?_, ?_⟩ <;> exact unpackFrom_eq_ok (by omega)

/-- Where the header fields stand in a message's wire bytes. -/
theorem slice_headerWire (m : ControlMessage) (size : Nat) (body : Bytes) :
    let buf := m.headerWire size ++ body
    slice buf 0 1 = beBytes 1 ctrlFlagsByte0
      ∧ slice buf 1 2 = beBytes 1 version
      ∧ slice buf 2 4 = beBytes 2 size
      ∧ slice buf 4 8 = beBytes 4 m.controlConnectionId.toNat
      ∧ slice buf 8 10 = beBytes 2 m.ns.toNat
      ∧ slice buf 10 12 = beBytes 2 m.nr.toNat := by
  intro buf
  refine ⟨?_, ?_, ?_, ?_, ?_, ?_⟩ <;>
    simp (disch := simp) [headerWire, slice, buf, List.drop_append, List.drop_of_length_le]

/-- **Reading a header back, with or without a secret.** In front of the bytes whose number its
Length field gives, the header of a message decodes to the fields of that message. -/
theorem decode_headerWire {m : ControlMessage} (hm : m.InRange) {body : Bytes}
    (hsize : headerLen + body.length ≤ maxMessageLen) (s : Option SharedSecret) :
    decode (m.headerWire (headerLen + body.length) ++ body) s
      = do
        let avps ← AVP.decodeSequence (m.headerWire (headerLen + body.length) ++ body) headerLen s
        return ⟨m.controlConnectionId, m.ns, m.nr, avps⟩ := by
  obtain ⟨c0, c1, s0, s1, r0, r1⟩ := hm
  have hhdr : headerLen = 12 := rfl
  have hmax : maxMessageLen = 65535 := rfl
  obtain ⟨w0, w1, w2, w4, w8, w10⟩ := slice_headerWire m (headerLen + body.length) body
  have hlen : (m.headerWire (headerLen + body.length) ++ body).length = headerLen + body.length := by
    simp
  set buf := m.headerWire (headerLen + body.length) ++ body
  -- the six header reads, each the field that was written there
  obtain ⟨u0, u1, u2, u4, u8, u10⟩ := decode_header buf (by omega)
  rw [w0, beNat_beBytes (by decide)] at u0
  rw [w1, beNat_beBytes (by decide)] at u1
  rw [w2, beNat_beBytes (by omega)] at u2
  rw [w4, beNat_beBytes (by omega), Int.toNat_of_nonneg c0] at u4
  rw [w8, beNat_beBytes (by omega), Int.toNat_of_nonneg s0] at u8
  rw [w10, beNat_beBytes (by omega), Int.toNat_of_nonneg r0] at u10
  simp only [decode, u0, u1, u2, u4, u8, u10, ok_bind, Int.toNat_natCast]
  rw [raiseIf_neg (by omega), raiseIf_neg (by decide), raiseIf_neg (by decide),
    raiseIf_neg (by omega)]
  rfl

/-- **Decoding a message's own bytes returns the message.** -/
theorem decode_wire {m : ControlMessage} (hm : m.WellFormed) : decode m.wire = .ok m := by
  obtain ⟨hrange, hp, hsize⟩ := wellFormed_iff.mp hm
  have hlen := length_wire m
  have hseq : AVP.decodeSequence m.wire headerLen none = .ok m.avps := by
    have hloop := AVP.decodeLoop_wire hp (m.headerWire (headerLen + (AVP.wireAll m.avps).length))
      m.wire.length (by have := AVP.length_le_length_wireAll m.avps; omega) none []
    rw [length_headerWire, ← wire, List.nil_append] at hloop
    exact hloop
  rw [wire, decode_headerWire hrange hsize, ← wire, hseq]
  rfl

/-- **What a successful decoding proves.** The message is well-formed, and the buffer is its
wire bytes. -/
theorem decode_inv {buf : Bytes} {m : ControlMessage} (h : decode buf = .ok m) :
    m.WellFormed ∧ buf = m.wire := by
  have hhdr : headerLen = 12 := rfl
  have hmax : maxMessageLen = 65535 := rfl
  rw [decode] at h
  simp only [bind_eq_ok, raiseIf_eq_ok] at h
  obtain ⟨_, hshort, h⟩ := h
  obtain ⟨u0, u1, u2, u4, u8, u10⟩ := decode_header buf (by omega)
  -- each header slice has the width of its field, so writing back what was read from it gives the
  -- slice again
  have l0 : (slice buf 0 1).length = 1 := length_slice _ (by omega)
  have l1 : (slice buf 1 2).length = 1 := length_slice _ (by omega)
  have l2 : (slice buf 2 4).length = 2 := length_slice _ (by omega)
  have l4 : (slice buf 4 8).length = 4 := length_slice _ (by omega)
  have l8 : (slice buf 8 10).length = 2 := length_slice _ (by omega)
  have l10 : (slice buf 10 12).length = 2 := length_slice _ (by omega)
  have n1 := beNat_lt (slice buf 1 2)
  have n2 := beNat_lt (slice buf 2 4)
  have n4 := beNat_lt (slice buf 4 8)
  have n8 := beNat_lt (slice buf 8 10)
  have n10 := beNat_lt (slice buf 10 12)
  rw [l1] at n1; rw [l2] at n2; rw [l4] at n4; rw [l8] at n8; rw [l10] at n10
  simp only [u0, u1, u2, u4, u8, u10, Except.ok.injEq, exists_eq_left', Int.toNat_natCast,
    checkFlags_eq_ok] at h
  obtain ⟨_, hb0, _, hrsvd, _, hver, _, hsize, avps, hseq, h⟩ := h
  have hb1 : beNat (slice buf 1 2) = version :=
    (versionByte _ (by omega)).mp ⟨by simpa using hrsvd, by simpa using hver⟩
  -- the loop has read all of the rest, and its AVPs spell it
  obtain ⟨_, hres, hp, hdrop⟩ := AVP.decodeLoop_inv headerLen (by omega) hseq
  rw [List.nil_append] at hres
  subst hres
  cases h
  have hbody : buf.length = headerLen + (AVP.wireAll avps).length := by
    rw [← hdrop, List.length_drop]; omega
  refine ⟨⟨by simp, by simp; omega, by simp, by simp; omega, by simp, by simp; omega, hp,
    by simp only; omega⟩, ?_⟩
  -- the header slices spell the header bytes, the rest of the buffer the AVPs
  have hheader : slice buf 0 12 = headerWire ⟨beNat (slice buf 4 8), beNat (slice buf 8 10),
      beNat (slice buf 10 12), avps⟩ (headerLen + (AVP.wireAll avps).length) := by
    have hlen : beNat (slice buf 2 4) = headerLen + (AVP.wireAll avps).length := by omega
    simp only [headerWire, Int.toNat_natCast, ← hlen, ← hb0, ← hb1, beBytes_beNat_of_length l0,
      beBytes_beNat_of_length l1, beBytes_beNat_of_length l2, beBytes_beNat_of_length l4,
      beBytes_beNat_of_length l8, beBytes_beNat_of_length l10]
    rw [slice_append_slice _ (by omega) (by omega), slice_append_slice _ (by omega) (by omega),
      slice_append_slice _ (by omega) (by omega), slice_append_slice _ (by omega) (by omega),
      slice_append_slice _ (by omega) (by omega)]
  rw [wire, ← hheader, ← hdrop]
  exact (slice_zero_append_drop buf 12).symm

/-- What was encoded decodes to itself. -/
theorem decode_of_encode {m : ControlMessage} {bs : Bytes} (h : m.encode = .ok bs) :
    decode bs = .ok m := by
  obtain ⟨hm, rfl⟩ := encode_eq_ok.mp h
  exact decode_wire hm

/-- Without a secret, `decode` raises nothing but `ValueError`. -/
theorem decode_onlyValueError (buf : Bytes) : OnlyValueError (decode buf) := by
  have hhdr : headerLen = 12 := rfl
  rw [decode]
  refine (onlyValueError_raiseIf _ _).bind fun _ hshort => ?_
  rw [raiseIf_eq_ok] at hshort
  obtain ⟨u0, u1, u2, u4, u8, u10⟩ := decode_header buf (by omega)
  simp only [u0, u1, u2, u4, u8, u10, ok_bind]
  refine OnlyValueError.bind ?_ fun _ _ => ?_
  -- the flags byte is refused in one of four ways, all of them with `ValueError`
  · unfold checkFlags
    split
    · simp
    · split
      · simp
      · split
        · simp
        · split <;> simp
  refine (onlyValueError_raiseIf _ _).bind fun _ _ => ?_
  refine (onlyValueError_raiseIf _ _).bind fun _ _ => ?_
  refine (onlyValueError_raiseIf _ _).bind fun _ _ => ?_
  exact (AVP.decodeLoop_onlyValueError _ _ _ _ _ (by omega)).bind fun _ _ => by simp

/-- **The codec is a bijection.** A byte string decodes exactly when it is the encoding of a
well-formed message, and then to that message; the two functions undo each other on
whatever the other one returns; a message encodes exactly when it is well-formed; every
other byte string is refused with `ValueError`, the bound on the decoding loop never being
met. -/
theorem encode_decode_bijection :
    (∀ buf m, decode buf = .ok m ↔ m.WellFormed ∧ m.encode = .ok buf) ∧
    (∀ m : ControlMessage, (∃ buf, m.encode = .ok buf) ↔ m.WellFormed) ∧
    (∀ m buf, encode m = .ok buf → decode buf = .ok m) ∧
    (∀ buf m, decode buf = .ok m → m.encode = .ok buf) ∧
    (∀ buf, (¬ ∃ m, WellFormed m ∧ m.encode = .ok buf) →
      ∃ msg, decode buf = .error (.valueError msg)) := by
  have hiff : ∀ buf m, decode buf = .ok m ↔ m.WellFormed ∧ m.encode = .ok buf := by
    intro buf m
    constructor
    · intro h
      obtain ⟨hm, rfl⟩ := decode_inv h
      exact ⟨hm, encode_of_wellFormed hm⟩
    · rintro ⟨-, h⟩
      exact decode_of_encode h
  refine ⟨hiff, ?_, fun m buf h => decode_of_encode h, fun buf m h => ((hiff buf m).mp h).2, ?_⟩
  · intro m
    exact ⟨fun ⟨_, h⟩ => wellFormed_of_encode h, fun hm => ⟨_, encode_of_wellFormed hm⟩⟩
  · intro buf hnone
    -- a buffer that is no encoding is refused, and only a `ValueError` can refuse it
    cases hd : decode buf with
    | ok m => exact absurd ⟨m, (hiff buf m).mp hd⟩ hnone
    | error e =>
      have hv := decode_onlyValueError buf e hd
      cases e with
      | valueError msg => exact ⟨msg, rfl⟩
      | structError msg => cases hv
      | runtimeError msg => cases hv
      | loopNotDone => cases hv

end ControlMessage

end L2tpv3d
