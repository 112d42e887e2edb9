import L2tpv3d.Wire.Auth
import L2tpv3d.Wire.Codec

/-!
# L2tpv3d — what the message builders produce

* `Tagged mt avps` — the list opens with the Message Type AVP of `mt`; every builder's
  output is tagged, and `getMessageType_of_tagged` reads the tag back.
* `Regular avps` — non-empty, at most 16 AVPs, all plain and none of them a digest: such a
  list encodes, signed or not, in any message whose header fields are in range
  (`Regular.wellFormed`).
* `parseSccrxFields_build` — the fields of an SCCRQ or SCCRP are read back as they were
  put in.
-/

namespace L2tpv3d

open Py

/-! ## Elementary builders

When a builder of a single AVP succeeds, and what it returns. Each is an equivalence, so that the
same lemma serves to build and to take apart. -/

/-- What `pack` writes: a number of the field's range, in as many bytes as the field has. -/
theorem pack_ok_iff {k : Nat} {x : Int} {bs : Bytes} :
    pack k x = .ok bs ↔ 0 ≤ x ∧ x < 256 ^ k ∧ bs = beBytes k x.toNat := by
  unfold pack
  split
  · rename_i h
    rw [Except.ok.injEq]
    exact ⟨fun he => ⟨h.1, h.2, he.symm⟩, fun he => he.2.2.symm⟩
  · rename_i h
    exact iff_of_false (by simp) fun he => h ⟨he.1, he.2.1⟩

/-- An IETF AVP that is not hidden. -/
def ietfAvp (attr : AttrType) (value : Bytes) (mandatory : Bool) : AVP :=
  ⟨attr.code, value, mandatory, false, vendorIetf⟩

/-- A builder of a 16-bit AVP succeeds exactly on 16-bit numbers, and says what it returns. -/
theorem u16Avp_ok_iff {attr : AttrType} {v : Int} {avp : AVP} :
    u16Avp attr v = .ok avp ↔
      0 ≤ v ∧ v ≤ 0xFFFF ∧ avp = ietfAvp attr (beBytes 2 v.toNat) true := by
  simp only [u16Avp, bind_eq_ok, pack_ok_iff, pure_eq_ok, Except.ok.injEq]
  constructor
  · rintro ⟨_, ⟨h0, h1, rfl⟩, rfl⟩
    exact ⟨h0, by omega, rfl⟩
  · rintro ⟨h0, h1, rfl⟩
    exact ⟨_, ⟨h0, by omega, rfl⟩, rfl⟩

/-- The builders that check the range themselves accept the same numbers; only their error differs.
-/
theorem checkedU16Avp_ok_iff {attr : AttrType} {v : Int} {name : String} {m : Bool} {avp : AVP} :
    checkedU16Avp attr v name m = .ok avp ↔
      0 ≤ v ∧ v ≤ 0xFFFF ∧ avp = ietfAvp attr (beBytes 2 v.toNat) m := by
  simp only [checkedU16Avp, bind_eq_ok, raiseIf_eq_ok, pack_ok_iff, pure_eq_ok, Except.ok.injEq]
  constructor
  · rintro ⟨_, hr, _, ⟨h0, h1, rfl⟩, rfl⟩
    exact ⟨h0, by omega, rfl⟩
  · rintro ⟨h0, h1, rfl⟩
    exact ⟨(), by omega, _, ⟨h0, by omega, rfl⟩, rfl⟩

/-- A builder of a 32-bit AVP succeeds exactly on 32-bit numbers. -/
theorem u32Avp_ok_iff {attr : AttrType} {v : Int} {name : String} {avp : AVP} :
    u32Avp attr v name = .ok avp ↔
      0 ≤ v ∧ v ≤ 0xFFFFFFFF ∧ avp = ietfAvp attr (beBytes 4 v.toNat) true := by
  simp only [u32Avp, bind_eq_ok, raiseIf_eq_ok, pack_ok_iff, pure_eq_ok, Except.ok.injEq]
  constructor
  · rintro ⟨_, hr, _, ⟨h0, h1, rfl⟩, rfl⟩
    exact ⟨h0, by omega, rfl⟩
  · rintro ⟨h0, h1, rfl⟩
    exact ⟨(), by omega, _, ⟨h0, by omega, rfl⟩, rfl⟩

/-- A builder of a 64-bit AVP succeeds exactly on 64-bit numbers. -/
theorem u64Avp_ok_iff {attr : AttrType} {v : Int} {name : String} {avp : AVP} :
    u64Avp attr v name = .ok avp ↔
      0 ≤ v ∧ v ≤ 0xFFFFFFFFFFFFFFFF ∧ avp = ietfAvp attr (beBytes 8 v.toNat) true := by
  simp only [u64Avp, bind_eq_ok, raiseIf_eq_ok, pack_ok_iff, pure_eq_ok, Except.ok.injEq]
  constructor
  · rintro ⟨_, hr, _, ⟨h0, h1, rfl⟩, rfl⟩
    exact ⟨h0, by omega, rfl⟩
  · rintro ⟨h0, h1, rfl⟩
    exact ⟨(), by omega, _, ⟨h0, by omega, rfl⟩, rfl⟩

/-- The Message Type AVP of a message. -/
def messageTypeAvp (mt : MessageType) : AVP :=
  ietfAvp .messageType (beBytes 2 mt.code.toNat) true

/-- Every message type can be written. -/
theorem buildMessageType_eq (mt : MessageType) : buildMessageType mt = .ok (messageTypeAvp mt) := by
  cases mt <;> rfl

/-- The result code alone, with no error code behind it. -/
theorem buildResultCode_ok_iff {result : Int} {avp : AVP} :
    buildResultCode result none "" = .ok avp ↔
      0 ≤ result ∧ result ≤ 0xFFFF ∧ avp = ietfAvp .resultCode (beBytes 2 result.toNat) true := by
  simp only [buildResultCode, bind_eq_ok, pack_ok_iff]
  constructor
  · rintro ⟨_, ⟨h0, h1, rfl⟩, h⟩
    cases h
    exact ⟨h0, by omega, rfl⟩
  · rintro ⟨h0, h1, rfl⟩
    exact ⟨_, ⟨h0, by omega, rfl⟩, rfl⟩

/-- A cookie that is accepted has at most eight bytes, and is the value of its AVP. -/
theorem buildAssignedCookie_ok {cookie : Bytes} {avp : AVP}
    (h : buildAssignedCookie cookie = .ok avp) :
    cookie.length ≤ 8 ∧ avp = ietfAvp .assignedCookie cookie true := by
  simp only [buildAssignedCookie, bind_eq_ok, raiseIf_eq_ok] at h
  obtain ⟨_, hlen, h⟩ := h
  cases h
  exact ⟨by omega, rfl⟩

/-- What the check of an AVP's type and length accepts. -/
theorem requireAttr_eq_ok {avp : AVP} {attr : AttrType} {exact min : Option Nat} {u : Unit} :
    requireAttr avp attr exact min = .ok u ↔
      avp.vendorId = vendorIetf ∧ avp.attributeType = attr.code ∧
      (∀ n ∈ exact, avp.value.length = n) ∧ (∀ n ∈ min, n ≤ avp.value.length) := by
  cases exact <;> cases min <;>
    simp [requireAttr, bind_eq_ok, and_assoc]

/-- The empty text has no bytes. -/
theorem utf8_empty : utf8 "" = [] := rfl

/-- What `build_result_code` puts behind the result: nothing, or the error code and the text. -/
theorem buildResultCode_ok {result : Int} {errorCode : Option Int} {errorMessage : String}
    {avp : AVP} (h : buildResultCode result errorCode errorMessage = .ok avp) :
    (0 ≤ result ∧ result < 256 ^ 2) ∧
    ∃ rest, avp = ietfAvp .resultCode (beBytes 2 result.toNat ++ rest) true ∧
      ((errorCode = none ∧ errorMessage = "" ∧ rest = []) ∨
        ∃ code, errorCode = some code ∧ (0 ≤ code ∧ code < 256 ^ 2) ∧
          rest = beBytes 2 code.toNat ++ utf8 errorMessage) := by
  simp only [buildResultCode, bind_eq_ok, pack_ok_iff] at h
  obtain ⟨_, ⟨r0, r1, rfl⟩, h⟩ := h
  cases errorCode with
  | none =>
    -- a text without a code is refused
    by_cases htext : errorMessage = ""
    · subst htext
      cases h
      exact ⟨⟨r0, r1⟩, [], by rw [List.append_nil]; rfl, .inl ⟨rfl, rfl, rfl⟩⟩
    · simp [htext] at h
  | some code =>
    simp only [bind_eq_ok, pack_ok_iff, pure_eq_ok, Except.ok.injEq] at h
    obtain ⟨_, ⟨c0, c1, rfl⟩, _, rfl, rfl⟩ := h
    refine ⟨⟨r0, r1⟩, beBytes 2 code.toNat ++ utf8 errorMessage, ?_, .inr ⟨code, rfl, ⟨c0, c1⟩, rfl⟩⟩
    by_cases htext : errorMessage = ""
    · simp [htext, ietfAvp, utf8_empty]
    · simp [htext, ietfAvp]

/-- **The result code is read back** with the error code, if there is one, and the text behind
it. -/
theorem decodeResultCode_build {result : Int} {errorCode : Option Int} {errorMessage : String}
    {avp : AVP} (h : buildResultCode result errorCode errorMessage = .ok avp) :
    ∃ value, avp = ietfAvp .resultCode value true ∧
      decodeResultCode avp = .ok (result, errorCode, utf8 errorMessage) := by
  obtain ⟨⟨r0, r1⟩, rest, rfl, hrest⟩ := buildResultCode_ok h
  refine ⟨_, rfl, ?_⟩
  have hreq : requireAttr (ietfAvp .resultCode (beBytes 2 result.toNat ++ rest) true) .resultCode none
      (some 2) = .ok () := requireAttr_eq_ok.mpr ⟨rfl, rfl, by simp, by simp [ietfAvp]⟩
  have hresult : unpackFrom 2 (beBytes 2 result.toNat ++ rest) 0 = .ok result := by
    have hslice : slice (beBytes 2 result.toNat ++ rest) 0 (0 + 2) = beBytes 2 result.toNat := by
      simp [slice]
    rw [unpackFrom_eq_ok (by simp), hslice, beNat_beBytes (by omega), Int.toNat_of_nonneg r0]
  have hvalue : (ietfAvp .resultCode (beBytes 2 result.toNat ++ rest) true).value
      = beBytes 2 result.toNat ++ rest := rfl
  rw [decodeResultCode, hreq, ok_bind, hvalue, hresult, ok_bind]
  -- without an error code the value ends after two bytes; with one there are at least four
  rcases hrest with ⟨rfl, rfl, rfl⟩ | ⟨code, rfl, ⟨c0, c1⟩, rfl⟩
  · rw [if_neg (by simp), utf8_empty]
    rfl
  · have hcode : unpackFrom 2 (beBytes 2 result.toNat ++ (beBytes 2 code.toNat
        ++ utf8 errorMessage)) 2 = .ok code := by
      have hslice : slice (beBytes 2 result.toNat ++ (beBytes 2 code.toNat ++ utf8 errorMessage)) 2
          (2 + 2) = beBytes 2 code.toNat := by
        simp [slice]
      rw [unpackFrom_eq_ok (by simp; omega), hslice, beNat_beBytes (by omega),
        Int.toNat_of_nonneg c0]
    have hdrop : (beBytes 2 result.toNat ++ (beBytes 2 code.toNat ++ utf8 errorMessage)).drop 4
        = utf8 errorMessage := by
      simp [List.drop_append, List.drop_of_length_le]
    rw [if_pos (by simp; omega), hcode, ok_bind, hdrop]
    rfl

/-! ## The tag of a message

The receiver dispatches on the Message Type AVP. It is the first AVP of every list that is built, so
it is found whatever comes behind it. -/

/-- The list opens with the Message Type AVP of `mt`. -/
def Tagged (mt : MessageType) (avps : List AVP) : Prop := avps.head? = some (messageTypeAvp mt)

theorem Tagged.ne_nil {mt : MessageType} {avps : List AVP} (h : Tagged mt avps) : avps ≠ [] := by
  rintro rfl; cases h

/-- The tag is what `get_message_type` returns. -/
theorem getMessageType_of_tagged {mt : MessageType} {avps : List AVP} (h : Tagged mt avps) :
    getMessageType avps = .ok (some mt.code) := by
  cases avps with
  | nil => cases h
  | cons a rest =>
    rw [Tagged, List.head?_cons, Option.some.injEq] at h
    subst h
    cases mt <;> rfl

/-! ## Lists that encode

A message may not be longer than its Length field can say. Lists of few AVPs, each of a bounded
length, cannot exceed it, even with a digest appended. -/

/-- An AVP that encodes and that verification does not take for a digest. -/
def AVP.Regular (avp : AVP) : Prop := avp.Plain ∧ avp.isDigest = false

/-- A list that fits a control message, signed or not. -/
structure Regular (avps : List AVP) : Prop where
  ne_nil : avps ≠ []
  length_le : avps.length ≤ 16
  avp_regular : ∀ avp ∈ avps, avp.Regular

theorem AttrType.code_range (attr : AttrType) : 0 ≤ attr.code ∧ attr.code ≤ 0xFFFF := by
  cases attr <;> decide

/-- An AVP of the IETF encodes if its value fits, and is no digest AVP. -/
theorem ietfAvp_regular {attr : AttrType} {value : Bytes} {m : Bool}
    (hattr : attr ≠ .messageDigest) (hlen : value.length ≤ 1017) :
    (ietfAvp attr value m).Regular := by
  obtain ⟨h0, h1⟩ := attr.code_range
  refine ⟨⟨le_refl 0, show (0 : Int) ≤ 0xFFFF by decide, h0, h1, rfl, hlen⟩, ?_⟩
  -- one case for each attribute type, and the digest is excluded
  cases attr <;> first | rfl | exact absurd rfl hattr

/-- The size of a list of AVPs, by the largest size of one. -/
theorem length_wireAll_le {avps : List AVP} (h : ∀ avp ∈ avps, avp.Plain) :
    (AVP.wireAll avps).length ≤ 1023 * avps.length := by
  induction avps with
  | nil => simp
  | cons avp avps ih =>
    have hv := (h avp List.mem_cons_self).value_le
    have hrest := ih fun a ha => h a (List.mem_cons_of_mem _ ha)
    simp only [AVP.wireAll_cons, List.length_append, AVP.length_wire, avpHeaderLen, List.length_cons]
    omega

/-- **A regular list encodes**, with or without a digest AVP after it, in a message whose
header fields are in range. -/
theorem Regular.wellFormed {avps : List AVP} (h : Regular avps) {ccid ns nr : Int}
    (hc : 0 ≤ ccid ∧ ccid ≤ 0xFFFFFFFF) (hns : 0 ≤ ns ∧ ns ≤ 0xFFFF) (hnr : 0 ≤ nr ∧ nr ≤ 0xFFFF) :
    (ControlMessage.mk ccid ns nr avps).WellFormed ∧
      ∀ ht, (ControlMessage.mk ccid ns nr (avps ++ [zeroedDigestAvp ht])).WellFormed := by
  have hplain : ∀ a ∈ avps, a.Plain := fun a ha => (h.avp_regular a ha).1
  have hbytes := length_wireAll_le hplain
  have hlen := h.length_le
  have hhdr : headerLen = 12 := rfl
  have hmax : maxMessageLen = 65535 := rfl
  refine ⟨⟨hc.1, hc.2, hns.1, hns.2, hnr.1, hnr.2, hplain, by simp only; omega⟩, fun ht => ?_⟩
  have hz : (zeroedDigestAvp ht).Plain := by cases ht <;> decide
  have hall : ∀ a ∈ avps ++ [zeroedDigestAvp ht], a.Plain := by
    intro a ha
    rcases List.mem_append.mp ha with ha | ha
    · exact hplain a ha
    · rw [List.mem_singleton.mp ha]; exact hz
  -- a digest AVP is one more, and there is room for it
  have hbytes' := length_wireAll_le hall
  rw [List.length_append, List.length_singleton] at hbytes'
  exact ⟨hc.1, hc.2, hns.1, hns.2, hnr.1, hnr.2, hall, by simp only; omega⟩

/-- An optional AVP is absent, or the one that was built. -/
theorem optionalAvp_ok {α : Type} {build : α → Except Exn AVP} {o : Option α} {avps : List AVP}
    (h : optionalAvp build o = .ok avps) :
    (o = none ∧ avps = []) ∨ ∃ a avp, o = some a ∧ build a = .ok avp ∧ avps = [avp] := by
  cases o with
  | none => cases h; exact .inl ⟨rfl, rfl⟩
  | some a =>
    simp only [optionalAvp, bind_eq_ok, pure_eq_ok, Except.ok.injEq] at h
    obtain ⟨avp, hb, rfl⟩ := h
    exact .inr ⟨a, avp, rfl, hb, rfl⟩

/-- At most `n` AVPs, all of them regular. -/
def RegularUpTo (n : Nat) (avps : List AVP) : Prop :=
  avps.length ≤ n ∧ ∀ avp ∈ avps, avp.Regular

namespace RegularUpTo

variable {n k : Nat} {avps rest : List AVP} {avp : AVP}

/-- The empty list. -/
theorem nil : RegularUpTo 0 [] := ⟨le_refl _, by simp⟩

/-- One AVP more. -/
theorem cons (h : avp.Regular) (hrest : RegularUpTo n rest) : RegularUpTo (n + 1) (avp :: rest) :=
  ⟨by simpa using hrest.1, List.forall_mem_cons.mpr ⟨h, hrest.2⟩⟩

theorem append (h : RegularUpTo n avps) (hrest : RegularUpTo k rest) :
    RegularUpTo (n + k) (avps ++ rest) := by
  refine ⟨by rw [List.length_append]; exact Nat.add_le_add h.1 hrest.1, fun a ha => ?_⟩
  rcases List.mem_append.mp ha with ha | ha
  · exact h.2 a ha
  · exact hrest.2 a ha

/-- A short list that is not empty is regular. -/
theorem regular (h : RegularUpTo n avps) (hne : avps ≠ []) (hn : n ≤ 16) : Regular avps :=
  ⟨hne, h.1.trans hn, h.2⟩

/-- An optional AVP is regular when its builder's result is. -/
theorem optional {α : Type} {build : α → Except Exn AVP} {o : Option α}
    (hbuild : ∀ a avp, o = some a → build a = .ok avp → avp.Regular)
    (h : optionalAvp build o = .ok avps) : RegularUpTo 1 avps := by
  rcases optionalAvp_ok h with ⟨-, rfl⟩ | ⟨a, avp, ha, hb, rfl⟩
  · exact ⟨by simp, by simp⟩
  · exact nil.cons (hbuild a avp ha hb)

end RegularUpTo

/-! ## The messages

One pair of lemmas for each message: when it is built, and that what is built is regular and tagged.
Texts come from the configuration, and a long one makes a list that does not encode. -/

section Messages

variable {avps : List AVP}

theorem messageTypeAvp_regular (mt : MessageType) : (messageTypeAvp mt).Regular :=
  ietfAvp_regular (by decide) (by simp)

theorem fixedAvp_regular (attr : AttrType) (k x : Nat) (hattr : attr ≠ .messageDigest)
    (hk : k ≤ 8) : (ietfAvp attr (beBytes k x) true).Regular :=
  ietfAvp_regular hattr (by simp; omega)

/-- An SCCCN is nothing but its type, and is always built. -/
theorem buildScccnAvps_eq : buildScccnAvps = .ok [messageTypeAvp .scccn] := rfl

theorem buildHelloAvps_eq : buildHelloAvps = .ok [messageTypeAvp .hello] := rfl

theorem singleton_regular (mt : MessageType) : Regular [messageTypeAvp mt] :=
  (RegularUpTo.nil.cons (messageTypeAvp_regular mt)).regular (by simp) (by decide)

/-- StopCCN: built exactly when the CCID and the result code are in range. -/
theorem buildStopccnAvps_ok_iff {ccid result : Int} :
    buildStopccnAvps ccid result = .ok avps ↔
      (0 ≤ ccid ∧ ccid ≤ 0xFFFFFFFF) ∧ (0 ≤ result ∧ result ≤ 0xFFFF) ∧
      avps = [messageTypeAvp .stopccn,
        ietfAvp .assignedControlConnectionId (beBytes 4 ccid.toNat) true,
        ietfAvp .resultCode (beBytes 2 result.toNat) true] := by
  simp only [buildStopccnAvps, buildMessageType_eq, ok_bind, bind_eq_ok,
    buildAssignedControlConnectionId, u32Avp_ok_iff, buildResultCode_ok_iff, pure_eq_ok,
    Except.ok.injEq]
  constructor
  · rintro ⟨_, ⟨c0, c1, rfl⟩, _, ⟨r0, r1, rfl⟩, rfl⟩
    exact ⟨⟨c0, c1⟩, ⟨r0, r1⟩, rfl⟩
  · rintro ⟨⟨c0, c1⟩, ⟨r0, r1⟩, rfl⟩
    exact ⟨_, ⟨c0, c1, rfl⟩, _, ⟨r0, r1, rfl⟩, rfl⟩

/-- StopCCN: whatever is built is regular and tagged. -/
theorem buildStopccnAvps_regular {ccid result : Int}
    (h : buildStopccnAvps ccid result = .ok avps) : Regular avps ∧ Tagged .stopccn avps := by
  obtain ⟨-, -, rfl⟩ := buildStopccnAvps_ok_iff.mp h
  have hparts := RegularUpTo.nil
    |>.cons (fixedAvp_regular .resultCode 2 result.toNat (by decide) (by decide))
    |>.cons (fixedAvp_regular .assignedControlConnectionId 4 ccid.toNat (by decide)
      (by decide))
    |>.cons (messageTypeAvp_regular .stopccn)
  exact ⟨hparts.regular (by simp) (by decide), rfl⟩

/-- CDN: built exactly when the session IDs and the result code are in range. -/
theorem buildCdnAvps_ok_iff {lsid rsid result : Int} :
    buildCdnAvps lsid rsid result = .ok avps ↔
      (0 ≤ lsid ∧ lsid ≤ 0xFFFFFFFF) ∧ (0 ≤ rsid ∧ rsid ≤ 0xFFFFFFFF) ∧
      (0 ≤ result ∧ result ≤ 0xFFFF) ∧
      avps = [messageTypeAvp .cdn, ietfAvp .localSessionId (beBytes 4 lsid.toNat) true,
        ietfAvp .remoteSessionId (beBytes 4 rsid.toNat) true,
        ietfAvp .resultCode (beBytes 2 result.toNat) true] := by
  simp only [buildCdnAvps, buildMessageType_eq, ok_bind, bind_eq_ok, buildLocalSessionId,
    buildRemoteSessionId, u32Avp_ok_iff, buildResultCode_ok_iff, pure_eq_ok, Except.ok.injEq]
  constructor
  · rintro ⟨_, ⟨l0, l1, rfl⟩, _, ⟨r0, r1, rfl⟩, _, ⟨c0, c1, rfl⟩, rfl⟩
    exact ⟨⟨l0, l1⟩, ⟨r0, r1⟩, ⟨c0, c1⟩, rfl⟩
  · rintro ⟨⟨l0, l1⟩, ⟨r0, r1⟩, ⟨c0, c1⟩, rfl⟩
    exact ⟨_, ⟨l0, l1, rfl⟩, _, ⟨r0, r1, rfl⟩, _, ⟨c0, c1, rfl⟩, rfl⟩

theorem buildCdnAvps_regular {lsid rsid result : Int}
    (h : buildCdnAvps lsid rsid result = .ok avps) : Regular avps ∧ Tagged .cdn avps := by
  obtain ⟨-, -, -, rfl⟩ := buildCdnAvps_ok_iff.mp h
  have hparts := RegularUpTo.nil
    |>.cons (fixedAvp_regular .resultCode 2 result.toNat (by decide) (by decide))
    |>.cons (fixedAvp_regular .remoteSessionId 4 rsid.toNat (by decide) (by decide))
    |>.cons (fixedAvp_regular .localSessionId 4 lsid.toNat (by decide) (by decide))
    |>.cons (messageTypeAvp_regular .cdn)
  exact ⟨hparts.regular (by simp) (by decide), rfl⟩

theorem connectSpeed_regular {attr : AttrType} {name : String} {o : Option Int}
    (hattr : attr ≠ .messageDigest) (h : optionalAvp (fun v => u64Avp attr v name) o = .ok avps) :
    RegularUpTo 1 avps := by
  refine .optional (fun v avp _ hv => ?_) h
  obtain ⟨-, -, rfl⟩ := u64Avp_ok_iff.mp hv
  exact fixedAvp_regular _ 8 _ hattr (by decide)

theorem cookie_regular {o : Option Bytes} (h : optionalAvp buildAssignedCookie o = .ok avps) :
    RegularUpTo 1 avps := by
  refine .optional (fun v avp _ hv => ?_) h
  obtain ⟨hlen, rfl⟩ := buildAssignedCookie_ok hv
  exact ietfAvp_regular (by decide) (by omega)

/-- The three AVPs that close the fixed part of a call message. -/
theorem callTail_regular (l2 ds cs : Nat) : RegularUpTo 3
    [ietfAvp .l2SpecificSublayer (beBytes 2 l2) true, ietfAvp .dataSequencing (beBytes 2 ds) true,
      ietfAvp .circuitStatus (beBytes 2 cs) true] :=
  RegularUpTo.nil
    |>.cons (fixedAvp_regular _ 2 cs (by decide) (by decide))
    |>.cons (fixedAvp_regular _ 2 ds (by decide) (by decide))
    |>.cons (fixedAvp_regular _ 2 l2 (by decide) (by decide))

theorem buildIcrpAvps_regular {a : CallArgs} {rsid : Int} {cookie : Option Bytes}
    (h : buildIcrpAvps a rsid cookie = .ok avps) : Regular avps ∧ Tagged .icrp avps := by
  simp only [buildIcrpAvps, buildMessageType_eq, ok_bind, bind_eq_ok, buildLocalSessionId,
    buildRemoteSessionId, buildL2SpecificSublayer, buildDataSequencing, buildCircuitStatus,
    u32Avp_ok_iff, u16Avp_ok_iff, pure_eq_ok, Except.ok.injEq] at h
  obtain ⟨_, ⟨-, -, rfl⟩, _, ⟨-, -, rfl⟩, _, ⟨-, -, rfl⟩, _, ⟨-, -, rfl⟩, _, ⟨-, -, rfl⟩, ck, hck, tx,
    htx, rx, hrx, rfl⟩ := h
  -- the AVPs of the message, from the last of the fixed ones to the optional ones
  have hparts := callTail_regular a.l2SpecificSublayer.toNat a.dataSequencing.toNat
      a.circuitStatus.toNat
    |>.cons (fixedAvp_regular .remoteSessionId 4 rsid.toNat (by decide) (by decide))
    |>.cons (fixedAvp_regular .localSessionId 4 a.localSid.toNat (by decide) (by decide))
    |>.cons (messageTypeAvp_regular .icrp)
    |>.append (cookie_regular hck)
    |>.append (connectSpeed_regular (by decide) htx)
    |>.append (connectSpeed_regular (by decide) hrx)
  exact ⟨hparts.regular (by simp) (by decide), rfl⟩

theorem buildIccnAvps_regular {a : CallArgs} {rsid : Int}
    (h : buildIccnAvps a rsid = .ok avps) : Regular avps ∧ Tagged .iccn avps := by
  simp only [buildIccnAvps, buildMessageType_eq, ok_bind, bind_eq_ok, buildLocalSessionId,
    buildRemoteSessionId, buildL2SpecificSublayer, buildDataSequencing, buildCircuitStatus,
    u32Avp_ok_iff, u16Avp_ok_iff, pure_eq_ok, Except.ok.injEq] at h
  obtain ⟨_, ⟨-, -, rfl⟩, _, ⟨-, -, rfl⟩, _, ⟨-, -, rfl⟩, _, ⟨-, -, rfl⟩, _, ⟨-, -, rfl⟩, tx,
    htx, rx, hrx, rfl⟩ := h
  -- the AVPs of the message, from the last of the fixed ones to the optional ones
  have hparts := callTail_regular a.l2SpecificSublayer.toNat a.dataSequencing.toNat
      a.circuitStatus.toNat
    |>.cons (fixedAvp_regular .remoteSessionId 4 rsid.toNat (by decide) (by decide))
    |>.cons (fixedAvp_regular .localSessionId 4 a.localSid.toNat (by decide) (by decide))
    |>.cons (messageTypeAvp_regular .iccn)
    |>.append (connectSpeed_regular (by decide) htx)
    |>.append (connectSpeed_regular (by decide) hrx)
  exact ⟨hparts.regular (by simp) (by decide), rfl⟩

/-- ICRQ: whatever is built is tagged, and regular when the remote end ID fits an AVP. -/
theorem buildIcrqAvps_regular {a : CallArgs} {pw : Int} {endId : Option String}
    {cookie : Option Bytes} (h : buildIcrqAvps a pw endId cookie = .ok avps) :
    Tagged .icrq avps ∧ ((∀ n, endId = some n → (utf8 n).length ≤ 1017) → Regular avps) := by
  simp only [buildIcrqAvps, buildMessageType_eq, ok_bind, bind_eq_ok, buildLocalSessionId,
    buildRemoteSessionId, buildPseudowireType, buildL2SpecificSublayer, buildDataSequencing,
    buildCircuitStatus, u32Avp_ok_iff, u16Avp_ok_iff, pure_eq_ok, Except.ok.injEq] at h
  obtain ⟨_, ⟨-, -, rfl⟩, _, ⟨-, -, rfl⟩, _, ⟨-, -, rfl⟩, _, ⟨-, -, rfl⟩, _, ⟨-, -, rfl⟩, _,
    ⟨-, -, rfl⟩, id, hid, ck, hck, tx, htx, rx, hrx, rfl⟩ := h
  refine ⟨rfl, fun hname => ?_⟩
  -- the only AVP whose length no builder checks
  have hendId : RegularUpTo 1 id := by
    refine .optional (fun n avp hn hb => ?_) hid
    cases hb
    exact ietfAvp_regular (by decide) (hname n hn)
  have hparts := callTail_regular a.l2SpecificSublayer.toNat a.dataSequencing.toNat
      a.circuitStatus.toNat
    |>.cons (fixedAvp_regular .pseudowireType 2 pw.toNat (by decide) (by decide))
    |>.cons (fixedAvp_regular .remoteSessionId 4 0 (by decide) (by decide))
    |>.cons (fixedAvp_regular .localSessionId 4 a.localSid.toNat (by decide) (by decide))
    |>.cons (messageTypeAvp_regular .icrq)
    |>.append hendId
    |>.append (cookie_regular hck)
    |>.append (connectSpeed_regular (by decide) htx)
    |>.append (connectSpeed_regular (by decide) hrx)
  exact hparts.regular (by simp) (by decide)

/-- A connect speed was built only if it fits 64 bits. -/
theorem connectSpeed_range {attr : AttrType} {name : String} {o : Option Int}
    (h : optionalAvp (fun v => u64Avp attr v name) o = .ok avps) :
    ∀ v, o = some v → 0 ≤ v ∧ v ≤ 0xFFFFFFFFFFFFFFFF := by
  rintro v rfl
  rcases optionalAvp_ok h with ⟨hnone, -⟩ | ⟨v', avp, ⟨⟩, hb, -⟩
  · cases hnone
  · obtain ⟨h0, h1, -⟩ := u64Avp_ok_iff.mp hb
    exact ⟨h0, h1⟩

/-- If every AVP of an ICRQ encodes, the remote end ID in it fits an AVP. -/
theorem buildIcrqAvps_fits {a : CallArgs} {pw : Int} {n : String} {cookie : Option Bytes}
    (h : buildIcrqAvps a pw (some n) cookie = .ok avps) (hplain : ∀ avp ∈ avps, avp.Plain) :
    (utf8 n).length ≤ 1017 := by
  simp only [buildIcrqAvps, bind_eq_ok, optionalAvp] at h
  obtain ⟨_, -, _, -, _, -, _, -, _, -, _, -, _, -, endId, ⟨_, ⟨⟩, ⟨⟩⟩, ck, -, tx, -, rx, -, ⟨⟩⟩ := h
  exact (hplain (buildRemoteEndId n) (by simp)).value_le

/-! ### SCCRQ and SCCRP

The two messages differ in their type only, and have the most optional AVPs. `Optional` says of one
of them that it is read back and hides no other. -/

/-- The numbers that are packed are unpacked, two bytes each. -/
theorem packU16s_ok {ts : List Int} {bs : Bytes} (h : packU16s ts = .ok bs) :
    bs.length = 2 * ts.length ∧ unpackU16s bs = ts := by
  induction ts generalizing bs with
  | nil => cases h; exact ⟨rfl, rfl⟩
  | cons t ts ih =>
    simp only [packU16s, bind_eq_ok, pack_ok_iff, pure_eq_ok, Except.ok.injEq] at h
    obtain ⟨_, ⟨h0, h1, rfl⟩, rest, hrest, rfl⟩ := h
    obtain ⟨hlen, hunpack⟩ := ih hrest
    refine ⟨by simp [hlen]; omega, ?_⟩
    have hval : beNat (beBytes 2 t.toNat) = t.toNat := beNat_beBytes (by omega)
    have hcons : unpackU16s (beBytes 2 t.toNat ++ rest)
        = (beNat (beBytes 2 t.toNat) : Int) :: unpackU16s rest := rfl
    rw [hcons, hval, hunpack, Int.toNat_of_nonneg h0]

/-- The first AVP of a type, past an AVP of another type. -/
theorem findAvp_cons_ne {attr t : AttrType} {value : Bytes} {m : Bool} {rest : List AVP}
    (h : attr.code ≠ t.code) : findAvp (ietfAvp attr value m :: rest) t = findAvp rest t := by
  simp [findAvp, ietfAvp, h]

theorem findAvp_cons_self {t : AttrType} {value : Bytes} {m : Bool} {rest : List AVP} :
    findAvp (ietfAvp t value m :: rest) t = some (ietfAvp t value m) := by
  simp [findAvp, ietfAvp]

/-- A fixed-width field is decoded as it was built. -/
theorem decodeUInt_ietfAvp {attr : AttrType} {k : Nat} {v : Int} {m : Bool} (h0 : 0 ≤ v)
    (h1 : v < 256 ^ k) : decodeUInt attr k (ietfAvp attr (beBytes k v.toNat) m) = .ok v := by
  have hreq : requireAttr (ietfAvp attr (beBytes k v.toNat) m) attr (some k) none = .ok () :=
    requireAttr_eq_ok.mpr ⟨rfl, rfl, by simp [ietfAvp], by simp⟩
  rw [decodeUInt, hreq, ok_bind]
  exact unpack_beBytes h0 h1

theorem decodeIfPresent_some {α : Type} {decode : AVP → Except Exn α} {avp : AVP} {v : α}
    (h : decode avp = .ok v) : decodeIfPresent decode (some avp) = .ok (some v) := by
  simp [decodeIfPresent, h]

/-- An AVP is looked for in the first part, and then in the second. -/
theorem findAvp_append {rest : List AVP} (t : AttrType) :
    findAvp (avps ++ rest) t = (findAvp avps t).or (findAvp rest t) := List.find?_append

/-- At most one AVP, of one type, which can be read. -/
structure Optional {α : Type} (attr : AttrType) (decode : AVP → Except Exn α) (avps : List AVP)
    (v : Option α) : Prop where
  other : ∀ t : AttrType, attr.code ≠ t.code → findAvp avps t = none
  own : decodeIfPresent decode (findAvp avps attr) = .ok v

section Optional

variable {α β : Type} {attr : AttrType} {decode : AVP → Except Exn α} {value : Bytes} {m : Bool}

/-- What is absent reads as `None`, and hides nothing else. -/
theorem Optional.absent (attr : AttrType) (decode : AVP → Except Exn α) :
    Optional attr decode [] none := ⟨fun _ _ => rfl, rfl⟩

/-- What is present reads as its value, and hides nothing else. -/
theorem Optional.present {v : α} (h : decode (ietfAvp attr value m) = .ok v) :
    Optional attr decode [ietfAvp attr value m] (some v) := by
  refine ⟨fun t ht => ?_, ?_⟩
  · rw [findAvp_cons_ne ht]
    rfl
  · rw [findAvp_cons_self]
    exact decodeIfPresent_some h

/-- **An optional argument is read back**, when its builder makes one AVP that is read back. -/
theorem Optional.of_builder {build : β → Except Exn AVP} {o : Option β} {g : β → α}
    (hbuild : ∀ x avp, build x = .ok avp →
      ∃ value m, avp = ietfAvp attr value m ∧ decode (ietfAvp attr value m) = .ok (g x))
    (h : optionalAvp build o = .ok avps) : Optional attr decode avps (o.map g) := by
  rcases optionalAvp_ok h with ⟨rfl, rfl⟩ | ⟨x, avp, rfl, hb, rfl⟩
  · exact .absent _ _
  · obtain ⟨value, m, rfl, hdec⟩ := hbuild x avp hb
    exact .present hdec

/-- A decoder that checks the type and returns the value as it is. -/
theorem requireAttr_ietfAvp (attr : AttrType) (value : Bytes) (m : Bool) :
    requireAttr (ietfAvp attr value m) attr none none = .ok () :=
  requireAttr_eq_ok.mpr ⟨rfl, rfl, by simp, by simp⟩

/-- The vendor name, which no parser reads. -/
theorem optional_vendor {vn : Option String}
    (h : optionalAvp (fun n => .ok (buildVendorName n)) vn = .ok avps) :
    Optional .vendorName (fun avp => .ok avp.value) avps (vn.map utf8) :=
  .of_builder (fun n _ hb => ⟨utf8 n, false, (Except.ok.inj hb).symm, rfl⟩) h

/-- The firmware revision, which no parser reads. -/
theorem optional_firmware {fr : Option Int}
    (h : optionalAvp buildFirmwareRevision fr = .ok avps) :
    Optional .firmwareRevision (decodeUInt .firmwareRevision 2) avps fr := by
  rw [show fr = fr.map id from (Option.map_id_apply).symm]
  refine .of_builder (fun r avp hb => ?_) h
  obtain ⟨h0, h1, rfl⟩ := checkedU16Avp_ok_iff.mp hb
  exact ⟨_, _, rfl, decodeUInt_ietfAvp h0 (by omega)⟩

/-- The nonce is read back. -/
theorem optional_nonce {an : Option Bytes}
    (h : optionalAvp buildControlMessageAuthNonce an = .ok avps) :
    Optional .ctlMsgAuthNonce decodeControlMessageAuthNonce avps an := by
  rw [show an = an.map id from (Option.map_id_apply).symm]
  refine .of_builder (fun nonce avp hb => ?_) h
  simp only [buildControlMessageAuthNonce, bind_eq_ok, raiseIf_eq_ok, pure_eq_ok,
    Except.ok.injEq] at hb
  obtain ⟨_, hne, rfl⟩ := hb
  have hpos : 1 ≤ nonce.length := List.length_pos_iff.mpr hne
  have hreq : requireAttr (ietfAvp .ctlMsgAuthNonce nonce true) .ctlMsgAuthNonce none (some 1)
      = .ok () := requireAttr_eq_ok.mpr ⟨rfl, rfl, by simp, by simpa [ietfAvp] using hpos⟩
  refine ⟨nonce, true, rfl, ?_⟩
  rw [decodeControlMessageAuthNonce, hreq]
  rfl

/-- The Remote End ID is read back, as the bytes of its text. -/
theorem optional_endId {endId : Option String}
    (h : optionalAvp (fun n => .ok (buildRemoteEndId n)) endId = .ok avps) :
    Optional .remoteEndId decodeRemoteEndId avps (endId.map utf8) := by
  refine .of_builder (fun n _ hb => ⟨utf8 n, true, (Except.ok.inj hb).symm, ?_⟩) h
  rw [decodeRemoteEndId, requireAttr_ietfAvp]
  rfl

/-- The cookie is read back, the empty one included. -/
theorem optional_cookie {cookie : Option Bytes}
    (h : optionalAvp buildAssignedCookie cookie = .ok avps) :
    Optional .assignedCookie decodeAssignedCookie avps cookie := by
  rw [show cookie = cookie.map id from (Option.map_id_apply).symm]
  refine .of_builder (fun bs avp hb => ?_) h
  simp only [buildAssignedCookie, bind_eq_ok, raiseIf_eq_ok, pure_eq_ok, Except.ok.injEq] at hb
  obtain ⟨_, hlen, rfl⟩ := hb
  refine ⟨bs, true, rfl, ?_⟩
  rw [decodeAssignedCookie, requireAttr_ietfAvp, ok_bind]
  exact bind_eq_ok.mpr ⟨(), raiseIf_neg hlen, rfl⟩

/-- A speed is read back. -/
theorem optional_speed {name : String} {speed : Option Int}
    (h : optionalAvp (fun v => u64Avp attr v name) speed = .ok avps) :
    Optional attr (decodeUInt attr 8) avps speed := by
  rw [show speed = speed.map id from (Option.map_id_apply).symm]
  refine .of_builder (fun v avp hb => ?_) h
  obtain ⟨h0, h1, rfl⟩ := u64Avp_ok_iff.mp hb
  exact ⟨_, _, rfl, decodeUInt_ietfAvp h0 (by omega)⟩

end Optional

theorem buildSccrxAvps_ok {mt : MessageType} {a : SccrxArgs} (h : buildSccrxAvps mt a = .ok avps) :
    (0 ≤ a.routerId ∧ a.routerId ≤ 0xFFFFFFFF) ∧ (0 ≤ a.assignedCcid ∧ a.assignedCcid ≤ 0xFFFFFFFF) ∧
    (0 ≤ a.receiveWindow ∧ a.receiveWindow ≤ 0xFFFF) ∧
    ∃ pw vendor firmware nonce, a.pwCapabilities ≠ [] ∧ packU16s a.pwCapabilities = .ok pw ∧
      optionalAvp (fun n => .ok (buildVendorName n)) a.vendorName = .ok vendor ∧
      optionalAvp buildFirmwareRevision a.firmwareRevision = .ok firmware ∧
      optionalAvp buildControlMessageAuthNonce a.authNonce = .ok nonce ∧
      avps = [messageTypeAvp mt, ietfAvp .routerId (beBytes 4 a.routerId.toNat) true,
        ietfAvp .assignedControlConnectionId (beBytes 4 a.assignedCcid.toNat) true,
        ietfAvp .pseudowireCapabilitiesList pw true,
        ietfAvp .hostName (utf8 a.hostName) true,
        ietfAvp .receiveWindowSize (beBytes 2 a.receiveWindow.toNat) true]
        ++ vendor ++ firmware ++ nonce := by
  simp only [buildSccrxAvps, buildMessageType_eq, ok_bind, bind_eq_ok, buildRouterId,
    buildAssignedControlConnectionId, buildPseudowireCapabilitiesList, buildReceiveWindowSize,
    u32Avp_ok_iff, checkedU16Avp_ok_iff, raiseIf_eq_ok, pure_eq_ok, Except.ok.injEq] at h
  obtain ⟨_, ⟨r0, r1, rfl⟩, _, ⟨c0, c1, rfl⟩, _, ⟨_, hne, pw, hpw, rfl⟩, _, ⟨w0, w1, rfl⟩, vendor, hv,
    firmware, hf, nonce, hn, rfl⟩ := h
  exact ⟨⟨r0, r1⟩, ⟨c0, c1⟩, ⟨w0, w1⟩, pw, vendor, firmware, nonce, hne, hpw, hv, hf, hn, rfl⟩

/-- An SCCRQ or SCCRP that was built starts with its type. -/
theorem buildSccrxAvps_tagged {mt : MessageType} {a : SccrxArgs}
    (h : buildSccrxAvps mt a = .ok avps) : Tagged mt avps := by
  obtain ⟨-, -, -, _, _, _, _, -, -, -, -, -, rfl⟩ := buildSccrxAvps_ok h
  rfl

/-- **What is put in is read back**, the whole list of capabilities and the nonce included. -/
theorem parseSccrxFields_eq {mt : MessageType} {a : SccrxArgs}
    (h : buildSccrxAvps mt a = .ok avps) :
    parseSccrxFields avps = .ok ⟨a.routerId, a.assignedCcid, utf8 a.hostName, a.pwCapabilities,
      some a.receiveWindow, a.authNonce⟩ := by
  obtain ⟨⟨r0, r1⟩, ⟨c0, c1⟩, ⟨w0, w1⟩, pw, vendor, firmware, nonce, hne, hpw, hv, hf, hn, rfl⟩ :=
    buildSccrxAvps_ok h
  obtain ⟨hpwlen, hpwval⟩ := packU16s_ok hpw
  have hpos : 0 < a.pwCapabilities.length := List.length_pos_iff.mpr hne
  -- what the parser reads of each AVP, one after the other
  have hpwDec : decodePseudowireCapabilitiesList (ietfAvp .pseudowireCapabilitiesList pw true)
      = .ok a.pwCapabilities := by
    have hreq : requireAttr (ietfAvp .pseudowireCapabilitiesList pw true)
        .pseudowireCapabilitiesList none (some 2) = .ok () :=
      requireAttr_eq_ok.mpr ⟨rfl, rfl, by simp, by simp [ietfAvp]; omega⟩
    rw [decodePseudowireCapabilitiesList, hreq, ok_bind]
    dsimp only
    rw [raiseIf_neg (by simp only [ietfAvp, hpwlen]; omega), ok_bind]
    exact congrArg Except.ok hpwval
  have hhost : decodeHostName (ietfAvp .hostName (utf8 a.hostName) true)
      = .ok (utf8 a.hostName) := by
    have hreq : requireAttr (ietfAvp .hostName (utf8 a.hostName) true) .hostName none (some 0)
        = .ok () := requireAttr_eq_ok.mpr ⟨rfl, rfl, by simp, by simp⟩
    rw [decodeHostName, hreq]
    rfl
  have hwin : decodeIfPresent decodeReceiveWindowSize
      (some (ietfAvp .receiveWindowSize (beBytes 2 a.receiveWindow.toNat) true))
      = .ok (some a.receiveWindow) := decodeIfPresent_some (decodeUInt_ietfAvp w0 (by omega))
  -- the nonce is found behind the two optional AVPs that the parser skips
  have hnonce := optional_nonce hn
  have hmt : ∀ t : AttrType, AttrType.messageType.code ≠ t.code → ∀ rest,
      findAvp (messageTypeAvp mt :: rest) t = findAvp rest t :=
    fun t ht rest => findAvp_cons_ne ht
  -- where the parser finds each AVP
  simp (disch := decide) only [parseSccrxFields, List.cons_append, List.nil_append, hmt,
    findAvp_cons_self, findAvp_cons_ne, findAvp_append, (optional_vendor hv).other,
    (optional_firmware hf).other, Option.none_or, requireAvp, ok_bind, hnonce.own]
  rw [decodeRouterId, decodeUInt_ietfAvp r0 (by omega), ok_bind, decodeAssignedControlConnectionId,
    decodeUInt_ietfAvp c0 (by omega), ok_bind, hhost, ok_bind, hpwDec, ok_bind,
    hwin, ok_bind]
  rfl

/-- In particular the identity of the sender is read back. -/
theorem parseSccrxFields_build {mt : MessageType} {a : SccrxArgs}
    (h : buildSccrxAvps mt a = .ok avps) :
    ∃ fields, parseSccrxFields avps = .ok fields ∧ fields.routerId = a.routerId ∧
      fields.assignedCcid = a.assignedCcid ∧ fields.hostName = utf8 a.hostName :=
  ⟨_, parseSccrxFields_eq h, rfl, rfl, rfl⟩

/-! ### Builders that cannot fail

The machines call the builders with fields of the configuration and of received messages. Those are
in range, so the calls return. -/

/-- A list without digest AVPs: what signing appends is the only one. -/
def Undigested (avps : List AVP) : Prop := ∀ avp ∈ avps, avp.isDigest = false

/-- A regular list has no digest AVP. -/
theorem Regular.undigested (h : Regular avps) : Undigested avps :=
  fun avp havp => (h.avp_regular avp havp).2

/-- An AVP of another attribute is no digest AVP. -/
theorem ietfAvp_undigested {attr : AttrType} (value : Bytes) (m : Bool)
    (hattr : attr ≠ .messageDigest) : (ietfAvp attr value m).isDigest = false := by
  cases attr <;> first | rfl | exact absurd rfl hattr

theorem Undigested.append {rest : List AVP} (h : Undigested avps) (hrest : Undigested rest) :
    Undigested (avps ++ rest) := by
  intro avp havp
  rcases List.mem_append.mp havp with havp | havp
  · exact h avp havp
  · exact hrest avp havp

/-- An optional AVP, if its builder builds no digest AVP. -/
theorem Undigested.optional {α : Type} {build : α → Except Exn AVP} {o : Option α}
    (hbuild : ∀ a avp, build a = .ok avp → avp.isDigest = false)
    (h : optionalAvp build o = .ok avps) : Undigested avps := by
  rcases optionalAvp_ok h with ⟨-, rfl⟩ | ⟨a, avp, -, hb, rfl⟩
  · simp [Undigested]
  · simpa [Undigested] using hbuild a avp hb

/-- No SCCRQ or SCCRP that is built has a digest AVP. -/
theorem buildSccrxAvps_undigested {mt : MessageType} {a : SccrxArgs}
    (h : buildSccrxAvps mt a = .ok avps) : Undigested avps := by
  obtain ⟨-, -, -, _, _, _, _, -, -, hv, hf, hn, rfl⟩ := buildSccrxAvps_ok h
  refine ((Undigested.append ?_ (.optional ?_ hv)).append (.optional ?_ hf)).append
    (.optional ?_ hn)
  -- the fixed part, one AVP after the other; then the optional ones
  · intro avp havp
    simp only [List.mem_cons, List.not_mem_nil, or_false] at havp
    rcases havp with rfl | rfl | rfl | rfl | rfl | rfl <;> exact ietfAvp_undigested _ _ (by decide)
  · rintro n avp ⟨⟩
    rfl
  · intro r avp hb
    obtain ⟨-, -, rfl⟩ := checkedU16Avp_ok_iff.mp hb
    rfl
  · intro n avp hb
    simp only [buildControlMessageAuthNonce, bind_eq_ok, pure_eq_ok, Except.ok.injEq] at hb
    obtain ⟨_, -, rfl⟩ := hb
    rfl

theorem buildIcrqAvps_undigested {a : CallArgs} {pw : Int} {endId : Option String}
    {cookie : Option Bytes} (h : buildIcrqAvps a pw endId cookie = .ok avps) :
    Undigested avps := by
  simp only [buildIcrqAvps, buildMessageType_eq, ok_bind, bind_eq_ok, buildLocalSessionId,
    buildRemoteSessionId, buildPseudowireType, buildL2SpecificSublayer, buildDataSequencing,
    buildCircuitStatus, u32Avp_ok_iff, u16Avp_ok_iff, pure_eq_ok, Except.ok.injEq] at h
  obtain ⟨_, ⟨-, -, rfl⟩, _, ⟨-, -, rfl⟩, _, ⟨-, -, rfl⟩, _, ⟨-, -, rfl⟩, _, ⟨-, -, rfl⟩, _,
    ⟨-, -, rfl⟩, id, hid, ck, hck, tx, htx, rx, hrx, rfl⟩ := h
  have hspeed : ∀ attr : AttrType, attr ≠ .messageDigest → ∀ name v avp,
      u64Avp attr v name = .ok avp → avp.isDigest = false := by
    intro attr hattr name v avp hv
    obtain ⟨-, -, rfl⟩ := u64Avp_ok_iff.mp hv
    exact ietfAvp_undigested _ _ hattr
  refine (((Undigested.append ?_ (.optional ?_ hid)).append (.optional ?_ hck)).append
    (.optional (hspeed _ (by decide) _) htx)).append (.optional (hspeed _ (by decide) _) hrx)
  -- the fixed part, one AVP after the other; then the end ID and the cookie
  · intro avp havp
    simp only [List.mem_cons, List.not_mem_nil, or_false] at havp
    rcases havp with rfl | rfl | rfl | rfl | rfl | rfl | rfl <;>
      exact ietfAvp_undigested _ _ (by decide)
  · rintro n avp ⟨⟩
    rfl
  · intro c avp hb
    obtain ⟨-, rfl⟩ := buildAssignedCookie_ok hb
    rfl

/-- SCCRQ and SCCRP fit a message when the texts in them fit an AVP. -/
theorem buildSccrxAvps_regular {mt : MessageType} {a : SccrxArgs}
    (h : buildSccrxAvps mt a = .ok avps) (hhost : (utf8 a.hostName).length ≤ 1017)
    (hpw : a.pwCapabilities.length ≤ 508)
    (hvendor : ∀ n, a.vendorName = some n → (utf8 n).length ≤ 1017)
    (hnonce : ∀ n, a.authNonce = some n → n.length ≤ 1017) : Regular avps := by
  obtain ⟨-, -, -, pw, _, _, _, -, hpack, hv, hf, hn, rfl⟩ := buildSccrxAvps_ok h
  have hpwlen := (packU16s_ok hpack).1
  -- the optional AVPs, and then all together from the last fixed one on
  have hvendor' := RegularUpTo.optional (fun n avp ha hb => by
    cases hb
    exact ietfAvp_regular (m := false) (by decide) (hvendor n ha)) hv
  have hfirmware := RegularUpTo.optional (fun r avp _ hb => by
    obtain ⟨-, -, rfl⟩ := checkedU16Avp_ok_iff.mp hb
    exact ietfAvp_regular (by decide) (by simp)) hf
  have hnonce' := RegularUpTo.optional (fun n avp ha hb => by
    simp only [buildControlMessageAuthNonce, bind_eq_ok, pure_eq_ok, Except.ok.injEq] at hb
    obtain ⟨_, -, rfl⟩ := hb
    exact ietfAvp_regular (m := true) (by decide) (hnonce n ha)) hn
  have hparts := RegularUpTo.nil
    |>.cons (fixedAvp_regular .receiveWindowSize 2 a.receiveWindow.toNat (by decide) (by decide))
    |>.cons (show (ietfAvp .hostName (utf8 a.hostName) true).Regular from
      ietfAvp_regular (by decide) hhost)
    |>.cons (show (ietfAvp .pseudowireCapabilitiesList pw true).Regular from
      ietfAvp_regular (by decide) (by omega))
    |>.cons (fixedAvp_regular .assignedControlConnectionId 4 a.assignedCcid.toNat (by decide)
      (by decide))
    |>.cons (fixedAvp_regular .routerId 4 a.routerId.toNat (by decide) (by decide))
    |>.cons (messageTypeAvp_regular mt)
    |>.append hvendor' |>.append hfirmware |>.append hnonce'
  exact hparts.regular (by simp) (by decide)

/-- If every AVP of an SCCRQ or SCCRP encodes, the texts in it fit an AVP. -/
theorem buildSccrxAvps_fits {mt : MessageType} {a : SccrxArgs}
    (h : buildSccrxAvps mt a = .ok avps) (hplain : ∀ avp ∈ avps, avp.Plain) :
    (utf8 a.hostName).length ≤ 1017 ∧ ∀ n, a.vendorName = some n → (utf8 n).length ≤ 1017 := by
  obtain ⟨-, -, -, pw, _, _, _, -, -, hv, -, -, rfl⟩ := buildSccrxAvps_ok h
  constructor
  · exact (hplain (ietfAvp .hostName (utf8 a.hostName) true) (by simp)).value_le
  · intro n hn
    rcases optionalAvp_ok hv with ⟨hnone, -⟩ | ⟨n', avp, hsome, hb, rfl⟩
    · rw [hn] at hnone
      cases hnone
    · rw [hn] at hsome
      cases hsome
      cases hb
      exact (hplain (buildVendorName n) (by simp)).value_le

/-- The type of a list of AVPs is that of the first list with one. -/
theorem getMessageType_append {rest : List AVP} {mt : Int}
    (h : getMessageType avps = .ok (some mt)) : getMessageType (avps ++ rest) = .ok (some mt) := by
  cases hfind : findAvp avps .messageType with
  | none => simp [getMessageType, hfind] at h
  -- the search stops in the first list
  | some avp =>
    have happend : findAvp (avps ++ rest) .messageType = some avp := by
      rw [findAvp, List.find?_append]
      rw [findAvp] at hfind
      rw [hfind]
      rfl
    rw [getMessageType, happend]
    rw [getMessageType, hfind] at h
    exact h

/-- A digest is not mistaken for another AVP. -/
theorem findAvp_append_digest {digest : List AVP} (h : ∀ d ∈ digest, d.isDigest = true)
    {attr : AttrType} (hattr : attr ≠ .messageDigest) :
    findAvp (avps ++ digest) attr = findAvp avps attr := by
  -- none of the appended AVPs has the attribute that is looked for
  have hnone : findAvp digest attr = none := by
    refine List.find?_eq_none.mpr fun d hd => ?_
    have := h d hd
    simp only [AVP.isDigest, Bool.and_eq_true, beq_iff_eq] at this
    revert hattr
    cases attr <;> simp [this] <;> decide
  rw [findAvp, List.find?_append]
  rw [findAvp] at hnone
  rw [hnone, Option.or_none]
  rfl

/-- An optional AVP is built if its builder succeeds on the value there is. -/
theorem optionalAvp_exists {α : Type} {build : α → Except Exn AVP} {o : Option α}
    (h : ∀ a, o = some a → ∃ avp, build a = .ok avp) : ∃ avps, optionalAvp build o = .ok avps := by
  cases o with
  | none => exact ⟨_, rfl⟩
  | some a =>
    obtain ⟨avp, hb⟩ := h a rfl
    exact ⟨[avp], by simp [optionalAvp, hb]⟩

theorem packU16s_exists {ts : List Int} (h : ∀ t ∈ ts, 0 ≤ t ∧ t ≤ 0xFFFF) :
    ∃ bs, packU16s ts = .ok bs := by
  induction ts with
  | nil => exact ⟨_, rfl⟩
  | cons t ts ih =>
    obtain ⟨bs, hbs⟩ := ih fun t' ht' => h t' (List.mem_cons_of_mem _ ht')
    obtain ⟨h0, h1⟩ := h t List.mem_cons_self
    have ht : pack 2 t = .ok (beBytes 2 t.toNat) := pack_ok_iff.mpr ⟨h0, by omega, rfl⟩
    exact ⟨_, by rw [packU16s, ht, ok_bind, hbs]; rfl⟩

/-- SCCRQ and SCCRP are built when their fields are in range. -/
theorem buildSccrxAvps_exists (mt : MessageType) {a : SccrxArgs}
    (hr : 0 ≤ a.routerId ∧ a.routerId ≤ 0xFFFFFFFF)
    (hc : 0 ≤ a.assignedCcid ∧ a.assignedCcid ≤ 0xFFFFFFFF)
    (hw : 0 ≤ a.receiveWindow ∧ a.receiveWindow ≤ 0xFFFF)
    (hpw : a.pwCapabilities ≠ [] ∧ ∀ t ∈ a.pwCapabilities, 0 ≤ t ∧ t ≤ 0xFFFF)
    (hf : ∀ r, a.firmwareRevision = some r → 0 ≤ r ∧ r ≤ 0xFFFF) (hn : a.authNonce = none) :
    ∃ avps, buildSccrxAvps mt a = .ok avps := by
  obtain ⟨pw, hpack⟩ := packU16s_exists hpw.2
  obtain ⟨vendor, hv⟩ :
      ∃ avps, optionalAvp (fun n => .ok (buildVendorName n)) a.vendorName = .ok avps :=
    optionalAvp_exists fun n _ => ⟨_, rfl⟩
  obtain ⟨firmware, hf⟩ : ∃ avps, optionalAvp buildFirmwareRevision a.firmwareRevision = .ok avps :=
    optionalAvp_exists fun r hr => ⟨_, checkedU16Avp_ok_iff.mpr ⟨(hf r hr).1, (hf r hr).2, rfl⟩⟩
  -- each builder succeeds on its field
  have hrouter : buildRouterId a.routerId = .ok _ := u32Avp_ok_iff.mpr ⟨hr.1, hr.2, rfl⟩
  have hccid : buildAssignedControlConnectionId a.assignedCcid = .ok _ :=
    u32Avp_ok_iff.mpr ⟨hc.1, hc.2, rfl⟩
  have hwindow : buildReceiveWindowSize a.receiveWindow = .ok _ :=
    checkedU16Avp_ok_iff.mpr ⟨hw.1, hw.2, rfl⟩
  have hcaps : ∃ avp, buildPseudowireCapabilitiesList a.pwCapabilities = .ok avp := by
    rw [buildPseudowireCapabilitiesList, raiseIf_neg hpw.1, ok_bind, hpack]
    exact ⟨_, rfl⟩
  obtain ⟨caps, hcaps⟩ := hcaps
  rw [buildSccrxAvps, buildMessageType_eq, ok_bind, hrouter, ok_bind, hccid, ok_bind, hcaps, ok_bind,
    hwindow, ok_bind, hv, ok_bind, hf, ok_bind, hn]
  exact ⟨_, rfl⟩

/-- The fields of a call message that come from the configuration are in range. -/
structure CallArgs.InRange (a : CallArgs) : Prop where
  localSid : 0 ≤ a.localSid ∧ a.localSid ≤ 0xFFFFFFFF
  l2SpecificSublayer : 0 ≤ a.l2SpecificSublayer ∧ a.l2SpecificSublayer ≤ 0xFFFF
  dataSequencing : 0 ≤ a.dataSequencing ∧ a.dataSequencing ≤ 0xFFFF
  circuitStatus : 0 ≤ a.circuitStatus ∧ a.circuitStatus ≤ 0xFFFF
  txConnectSpeed : ∀ v, a.txConnectSpeed = some v → 0 ≤ v ∧ v ≤ 0xFFFFFFFFFFFFFFFF
  rxConnectSpeed : ∀ v, a.rxConnectSpeed = some v → 0 ≤ v ∧ v ≤ 0xFFFFFFFFFFFFFFFF

/-- An ICRQ was built only from arguments in range. -/
theorem CallArgs.inRange_of_icrq {a : CallArgs} {pw : Int} {endId : Option String}
    {cookie : Option Bytes} (h : buildIcrqAvps a pw endId cookie = .ok avps) : a.InRange := by
  simp only [buildIcrqAvps, buildMessageType_eq, ok_bind, bind_eq_ok, buildLocalSessionId,
    buildL2SpecificSublayer, buildDataSequencing, buildCircuitStatus, u32Avp_ok_iff,
    u16Avp_ok_iff] at h
  obtain ⟨_, ⟨l0, l1, -⟩, _, -, _, -, _, ⟨s0, s1, -⟩, _, ⟨d0, d1, -⟩, _, ⟨c0, c1, -⟩, _, -, _, -,
    tx, htx, rx, hrx, -⟩ := h
  exact ⟨⟨l0, l1⟩, ⟨s0, s1⟩, ⟨d0, d1⟩, ⟨c0, c1⟩, connectSpeed_range htx, connectSpeed_range hrx⟩

/-- An ICRP was built only from arguments in range. -/
theorem CallArgs.inRange_of_icrp {a : CallArgs} {rsid : Int} {cookie : Option Bytes}
    (h : buildIcrpAvps a rsid cookie = .ok avps) : a.InRange := by
  simp only [buildIcrpAvps, buildMessageType_eq, ok_bind, bind_eq_ok, buildLocalSessionId,
    buildL2SpecificSublayer, buildDataSequencing, buildCircuitStatus, u32Avp_ok_iff,
    u16Avp_ok_iff] at h
  obtain ⟨_, ⟨l0, l1, -⟩, _, -, _, ⟨s0, s1, -⟩, _, ⟨d0, d1, -⟩, _, ⟨c0, c1, -⟩, _, -, tx, htx, rx,
    hrx, -⟩ := h
  exact ⟨⟨l0, l1⟩, ⟨s0, s1⟩, ⟨d0, d1⟩, ⟨c0, c1⟩, connectSpeed_range htx, connectSpeed_range hrx⟩

/-- Where an ICRQ was built, every ICRP can be. -/
theorem buildIcrpAvps_of_icrq {a : CallArgs} {pw : Int} {endId : Option String}
    {cookie : Option Bytes} (h : buildIcrqAvps a pw endId cookie = .ok avps) {rsid : Int}
    (hr : 0 ≤ rsid ∧ rsid ≤ 0xFFFFFFFF) : ∃ avps, buildIcrpAvps a rsid cookie = .ok avps := by
  simp only [buildIcrqAvps, buildMessageType_eq, ok_bind, bind_eq_ok] at h
  obtain ⟨_, h1, _, -, _, -, _, h3, _, h4, _, h5, _, -, _, h6, _, h7, _, h8, -⟩ := h
  have h2 : buildRemoteSessionId rsid = .ok _ := u32Avp_ok_iff.mpr ⟨hr.1, hr.2, rfl⟩
  rw [buildIcrpAvps, buildMessageType_eq, ok_bind, h1, ok_bind, h2, ok_bind, h3, ok_bind, h4,
    ok_bind, h5, ok_bind, h6, ok_bind, h7, ok_bind, h8]
  exact ⟨_, rfl⟩

/-- The builders that the messages of a call share all succeed on arguments in range. -/
theorem CallArgs.InRange.parts {a : CallArgs} (h : a.InRange) {rsid : Int} {cookie : Option Bytes}
    (hr : 0 ≤ rsid ∧ rsid ≤ 0xFFFFFFFF)
    (hcookie : ∀ c, cookie = some c → c.length = 0 ∨ c.length = 4 ∨ c.length = 8) :
    (∃ avp, buildLocalSessionId a.localSid = .ok avp) ∧
    (∃ avp, buildRemoteSessionId rsid = .ok avp) ∧
    (∃ avp, buildL2SpecificSublayer a.l2SpecificSublayer = .ok avp) ∧
    (∃ avp, buildDataSequencing a.dataSequencing = .ok avp) ∧
    (∃ avp, buildCircuitStatus a.circuitStatus = .ok avp) ∧
    (∃ avps, optionalAvp buildAssignedCookie cookie = .ok avps) ∧
    (∃ avps, optionalAvp buildTxConnectSpeed a.txConnectSpeed = .ok avps) ∧
    (∃ avps, optionalAvp buildRxConnectSpeed a.rxConnectSpeed = .ok avps) := by
  refine ⟨⟨_, u32Avp_ok_iff.mpr ⟨h.localSid.1, h.localSid.2, rfl⟩⟩,
    ⟨_, u32Avp_ok_iff.mpr ⟨hr.1, hr.2, rfl⟩⟩,
    ⟨_, u16Avp_ok_iff.mpr ⟨h.l2SpecificSublayer.1, h.l2SpecificSublayer.2, rfl⟩⟩,
    ⟨_, u16Avp_ok_iff.mpr ⟨h.dataSequencing.1, h.dataSequencing.2, rfl⟩⟩,
    ⟨_, u16Avp_ok_iff.mpr ⟨h.circuitStatus.1, h.circuitStatus.2, rfl⟩⟩, ?_, ?_, ?_⟩
  -- the cookie has one of the three lengths; the speeds fit 64 bits
  · refine optionalAvp_exists fun c hc => ?_
    have hlen := hcookie c hc
    rw [buildAssignedCookie, raiseIf_neg (by omega)]
    exact ⟨_, rfl⟩
  · exact optionalAvp_exists fun v hv =>
      ⟨_, u64Avp_ok_iff.mpr ⟨(h.txConnectSpeed v hv).1, (h.txConnectSpeed v hv).2, rfl⟩⟩
  · exact optionalAvp_exists fun v hv =>
      ⟨_, u64Avp_ok_iff.mpr ⟨(h.rxConnectSpeed v hv).1, (h.rxConnectSpeed v hv).2, rfl⟩⟩

/-- An ICRQ is built when its arguments are in range. The text of the end ID is not checked here. -/
theorem buildIcrqAvps_exists {a : CallArgs} (h : a.InRange) {pw : Int} (hpw : 0 ≤ pw ∧ pw ≤ 0xFFFF)
    (endId : Option String) {cookie : Option Bytes}
    (hcookie : ∀ c, cookie = some c → c.length = 0 ∨ c.length = 4 ∨ c.length = 8) :
    ∃ avps, buildIcrqAvps a pw endId cookie = .ok avps := by
  obtain ⟨⟨_, h1⟩, ⟨_, h2⟩, ⟨_, h3⟩, ⟨_, h4⟩, ⟨_, h5⟩, ⟨_, h6⟩, ⟨_, h7⟩, ⟨_, h8⟩⟩ :=
    h.parts (show 0 ≤ (0 : Int) ∧ (0 : Int) ≤ 0xFFFFFFFF by decide) hcookie
  have hpwt : buildPseudowireType pw = .ok _ := u16Avp_ok_iff.mpr ⟨hpw.1, hpw.2, rfl⟩
  obtain ⟨_, hid⟩ : ∃ avps, optionalAvp (fun n => .ok (buildRemoteEndId n)) endId = .ok avps :=
    optionalAvp_exists fun n _ => ⟨_, rfl⟩
  rw [buildIcrqAvps, buildMessageType_eq, ok_bind, h1, ok_bind, h2, ok_bind, hpwt, ok_bind, h3,
    ok_bind, h4, ok_bind, h5, ok_bind, hid, ok_bind, h6, ok_bind, h7, ok_bind, h8]
  exact ⟨_, rfl⟩

/-- An ICRP is built when its arguments are in range. -/
theorem buildIcrpAvps_exists {a : CallArgs} (h : a.InRange) {rsid : Int}
    (hr : 0 ≤ rsid ∧ rsid ≤ 0xFFFFFFFF) {cookie : Option Bytes}
    (hcookie : ∀ c, cookie = some c → c.length = 0 ∨ c.length = 4 ∨ c.length = 8) :
    ∃ avps, buildIcrpAvps a rsid cookie = .ok avps := by
  obtain ⟨⟨_, h1⟩, ⟨_, h2⟩, ⟨_, h3⟩, ⟨_, h4⟩, ⟨_, h5⟩, ⟨_, h6⟩, ⟨_, h7⟩, ⟨_, h8⟩⟩ :=
    h.parts hr hcookie
  rw [buildIcrpAvps, buildMessageType_eq, ok_bind, h1, ok_bind, h2, ok_bind, h3, ok_bind, h4,
    ok_bind, h5, ok_bind, h6, ok_bind, h7, ok_bind, h8]
  exact ⟨_, rfl⟩

/-- An ICCN is built when its arguments are in range. -/
theorem buildIccnAvps_exists {a : CallArgs} (h : a.InRange) {rsid : Int}
    (hr : 0 ≤ rsid ∧ rsid ≤ 0xFFFFFFFF) : ∃ avps, buildIccnAvps a rsid = .ok avps := by
  obtain ⟨⟨_, h1⟩, ⟨_, h2⟩, ⟨_, h3⟩, ⟨_, h4⟩, ⟨_, h5⟩, -, ⟨_, h7⟩, ⟨_, h8⟩⟩ :=
    h.parts hr (show ∀ c, (none : Option Bytes) = some c → _ by simp)
  rw [buildIccnAvps, buildMessageType_eq, ok_bind, h1, ok_bind, h2, ok_bind, h3, ok_bind, h4,
    ok_bind, h5, ok_bind, h7, ok_bind, h8]
  exact ⟨_, rfl⟩

end Messages

/-! ## The parsers raise nothing but `ValueError`

The typed decoders check the length before they unpack, so `struct.error` cannot occur. -/

section Parsers

theorem requireAttr_onlyValueError (avp : AVP) (attr : AttrType) (exact min : Option Nat) :
    OnlyValueError (requireAttr avp attr exact min) := by
  unfold requireAttr
  -- one check per optional bound, absent when the bound is `None`
  cases exact <;> cases min
  · exact (onlyValueError_raiseIf _ _).bind fun _ _ => onlyValueError_ok _
  · exact (onlyValueError_raiseIf _ _).bind fun _ _ => onlyValueError_raiseIf _ _
  · exact (onlyValueError_raiseIf _ _).bind fun _ _ =>
      (onlyValueError_raiseIf _ _).bind fun _ _ => onlyValueError_ok _
  · exact (onlyValueError_raiseIf _ _).bind fun _ _ =>
      (onlyValueError_raiseIf _ _).bind fun _ _ => onlyValueError_raiseIf _ _

/-- A number of fixed width: once the length is checked, `unpack` succeeds. -/
theorem decodeUInt_onlyValueError (attr : AttrType) (k : Nat) (avp : AVP) :
    OnlyValueError (decodeUInt attr k avp) := by
  refine (requireAttr_onlyValueError _ _ _ _).bind fun _ hreq => ?_
  obtain ⟨-, -, hlen, -⟩ := requireAttr_eq_ok.mp hreq
  rw [unpack_eq_ok (hlen k rfl)]
  exact onlyValueError_ok _

/-- A result code: once there are two bytes, both reads are inside the value. -/
theorem decodeResultCode_onlyValueError (avp : AVP) : OnlyValueError (decodeResultCode avp) := by
  refine (requireAttr_onlyValueError _ _ _ _).bind fun _ hreq => ?_
  obtain ⟨-, -, -, hlen⟩ := requireAttr_eq_ok.mp hreq
  have h2 : 2 ≤ avp.value.length := hlen 2 rfl
  rw [unpackFrom_eq_ok (show 0 + 2 ≤ avp.value.length by omega), ok_bind]
  split
  · rw [unpackFrom_eq_ok (by omega)]
    exact onlyValueError_ok _
  · exact onlyValueError_ok _

theorem requireAvp_onlyValueError (o : Option AVP) (missing : String) :
    OnlyValueError (requireAvp o missing) := by
  cases o
  · exact onlyValueError_valueError _
  · exact onlyValueError_ok _

theorem decodeIfPresent_onlyValueError {α : Type} {decode : AVP → Except Exn α}
    (h : ∀ avp, OnlyValueError (decode avp)) (o : Option AVP) :
    OnlyValueError (decodeIfPresent decode o) := by
  cases o with
  | none => exact onlyValueError_ok _
  | some avp => exact (h avp).bind fun _ _ => onlyValueError_ok _

theorem decodeRemoteSidOrZero_onlyValueError (o : Option AVP) :
    OnlyValueError (decodeRemoteSidOrZero o) :=
  (decodeIfPresent_onlyValueError (fun _ => decodeUInt_onlyValueError _ _ _) o).bind
    fun _ _ => onlyValueError_ok _

/-- A decoder that only checks, and returns the bytes. -/
theorem requireThen_onlyValueError {α : Type} {avp : AVP} {attr : AttrType}
    {exact min : Option Nat} {x : α} :
    OnlyValueError (requireAttr avp attr exact min >>= fun _ => (pure x : Except Exn α)) :=
  (requireAttr_onlyValueError _ _ _ _).bind fun _ _ => onlyValueError_ok _

/-- A cookie of the wrong length is refused with `ValueError`. -/
theorem decodeAssignedCookie_onlyValueError (avp : AVP) :
    OnlyValueError (decodeAssignedCookie avp) :=
  (requireAttr_onlyValueError _ _ _ _).bind fun _ _ =>
    (onlyValueError_raiseIf _ _).bind fun _ _ => onlyValueError_ok _

/-- A list of odd length is refused with `ValueError`. -/
theorem decodePseudowireCapabilitiesList_onlyValueError (avp : AVP) :
    OnlyValueError (decodePseudowireCapabilitiesList avp) :=
  (requireAttr_onlyValueError _ _ _ _).bind fun _ _ =>
    (onlyValueError_raiseIf _ _).bind fun _ _ => onlyValueError_ok _

theorem parseSessionFields_onlyValueError (avps : List AVP) :
    OnlyValueError (parseSessionFields avps) := by
  have hint : ∀ attr k o, OnlyValueError (decodeIfPresent (decodeUInt attr k) o) :=
    fun attr k o => decodeIfPresent_onlyValueError (decodeUInt_onlyValueError attr k) o
  refine (requireAvp_onlyValueError _ _).bind fun _ _ => ?_
  refine (decodeUInt_onlyValueError _ _ _).bind fun _ _ => ?_
  refine (decodeRemoteSidOrZero_onlyValueError _).bind fun _ _ => ?_
  refine (hint _ _ _).bind fun _ _ => ?_
  refine (hint _ _ _).bind fun _ _ => ?_
  refine (hint _ _ _).bind fun _ _ => ?_
  refine (hint _ _ _).bind fun _ _ => ?_
  refine (decodeIfPresent_onlyValueError decodeAssignedCookie_onlyValueError _).bind fun _ _ => ?_
  refine (decodeIfPresent_onlyValueError (fun _ => requireThen_onlyValueError) _).bind
    fun _ _ => ?_
  refine (hint _ _ _).bind fun _ _ => ?_
  exact (hint _ _ _).bind fun _ _ => onlyValueError_ok _

theorem parseCdnFields_onlyValueError (avps : List AVP) : OnlyValueError (parseCdnFields avps) := by
  refine (requireAvp_onlyValueError _ _).bind fun _ _ => ?_
  refine (requireAvp_onlyValueError _ _).bind fun _ _ => ?_
  refine (decodeResultCode_onlyValueError _).bind fun _ _ => ?_
  refine (decodeUInt_onlyValueError _ _ _).bind fun _ _ => ?_
  exact (decodeRemoteSidOrZero_onlyValueError _).bind fun _ _ => onlyValueError_ok _

theorem parseStopccnFields_onlyValueError (avps : List AVP) :
    OnlyValueError (parseStopccnFields avps) := by
  refine (requireAvp_onlyValueError _ _).bind fun _ _ => ?_
  refine (requireAvp_onlyValueError _ _).bind fun _ _ => ?_
  refine (decodeResultCode_onlyValueError _).bind fun _ _ => ?_
  exact (decodeUInt_onlyValueError _ _ _).bind fun _ _ => onlyValueError_ok _

theorem parseSccrxFields_onlyValueError (avps : List AVP) :
    OnlyValueError (parseSccrxFields avps) := by
  refine (requireAvp_onlyValueError _ _).bind fun _ _ => ?_
  refine (requireAvp_onlyValueError _ _).bind fun _ _ => ?_
  refine (requireAvp_onlyValueError _ _).bind fun _ _ => ?_
  refine (requireAvp_onlyValueError _ _).bind fun _ _ => ?_
  refine (decodeUInt_onlyValueError _ _ _).bind fun _ _ => ?_
  refine (decodeUInt_onlyValueError _ _ _).bind fun _ _ => ?_
  refine requireThen_onlyValueError.bind fun _ _ => ?_
  refine (decodePseudowireCapabilitiesList_onlyValueError _).bind fun _ _ => ?_
  refine (decodeIfPresent_onlyValueError (fun _ => decodeUInt_onlyValueError _ _ _) _).bind
    fun _ _ => ?_
  exact (decodeIfPresent_onlyValueError (fun _ => requireThen_onlyValueError) _).bind
    fun _ _ => onlyValueError_ok _

/-- A number that is decoded fits the width of its AVP. -/
theorem decodeUInt_range {attr : AttrType} {k : Nat} {avp : AVP} {v : Int}
    (h : decodeUInt attr k avp = .ok v) : 0 ≤ v ∧ v < 256 ^ k := by
  simp only [decodeUInt, bind_eq_ok, requireAttr_eq_ok] at h
  obtain ⟨_, ⟨-, -, hlen, -⟩, h⟩ := h
  have hk : avp.value.length = k := hlen k rfl
  rw [unpack_eq_ok hk, Except.ok.injEq] at h
  subst h
  have hlt := beNat_lt avp.value
  rw [hk] at hlt
  exact ⟨by omega, by exact_mod_cast hlt⟩

/-- The session ID that a peer announces is a 32-bit number. -/
theorem parseSessionFields_localSid {avps : List AVP} {fields : SessionFields}
    (h : parseSessionFields avps = .ok fields) :
    0 ≤ fields.localSid ∧ fields.localSid ≤ 0xFFFFFFFF := by
  simp only [parseSessionFields, bind_eq_ok, pure_eq_ok, Except.ok.injEq] at h
  obtain ⟨avp, -, sid, hsid, _, -, _, -, _, -, _, -, _, -, _, -, _, -, _, -, _, -, rfl⟩ := h
  obtain ⟨h0, h1⟩ := decodeUInt_range hsid
  exact ⟨h0, by simp only; omega⟩

/-- `get_message_type` raises exactly on a Message Type AVP that is not two bytes long. -/
theorem getMessageType_ok_iff (avps : List AVP) :
    (∃ mt, getMessageType avps = .ok mt) ↔
      ∀ avp ∈ findAvp avps .messageType, avp.value.length = 2 := by
  unfold getMessageType
  cases hfind : findAvp avps .messageType with
  | none => simp
  | some avp =>
    -- an AVP that is found passes the checks of vendor and type
    have hattr : avp.vendorId = vendorIetf ∧ avp.attributeType = AttrType.messageType.code := by
      simpa [findAvp] using List.find?_some hfind
    simp only [bind_eq_ok, decodeMessageType, decodeUInt, requireAttr_eq_ok, pure_eq_ok,
      Except.ok.injEq]
    constructor
    · rintro ⟨_, _, ⟨_, ⟨-, -, hlen, -⟩, -⟩, -⟩ a ha
      cases ha
      exact hlen 2 rfl
    · intro h
      have hlen : avp.value.length = 2 := h avp rfl
      exact ⟨_, _, ⟨(), ⟨hattr.1, hattr.2, by simpa using hlen, by simp⟩, unpack_eq_ok hlen⟩, rfl⟩

end Parsers

end L2tpv3d
