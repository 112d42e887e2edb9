import L2tpv3d.Wire.Codec

/-!
# L2tpv3d — hidden AVPs survive the wire

With a shared secret, the value of an AVP whose H bit is set crosses the wire under a
keystream that depends on the attribute type, the secret and a Random Vector. The encoder
takes one Random Vector for the whole message; the decoder uses the one it has read last.

* **the keystream**: `generateKeystream_length` — the rounds of the loop suffice, whatever
  MD5 returns, so long as it returns 16 bytes.
* **one value**: `unhideValue_hideValue` — the length prefix comes out of the same
  keystream and cuts the padding off again.
* **the list**: `Salted` — each hidden AVP stands behind a Random Vector AVP with the value
  it was hidden under; `decodeLoop_salted` carries the decoder's current one along.
* **the message**: `ControlMessage.decode_of_encode_salted`.
-/

namespace L2tpv3d

open Py

/-! ## The keystream

Nothing is used of MD5 but the length of what it returns. -/

/-- Masking twice with the same bytes changes nothing. -/
theorem zipWith_xor_xor (bs ks : Bytes) (h : bs.length ≤ ks.length) :
    List.zipWith (· ^^^ ·) (List.zipWith (· ^^^ ·) bs ks) ks = bs := by
  induction bs generalizing ks with
  | nil => rfl
  | cons b bs ih =>
    cases ks with
    | nil => simp at h
    | cons k ks =>
      have hrest := ih ks (by simpa using h)
      simp only [List.zipWith_cons_cons, hrest, UInt8.xor_assoc, UInt8.xor_self, UInt8.xor_zero]

/-- Each round adds a whole block, so as many rounds as bytes are enough. -/
theorem keystreamLoop_length {s : SharedSecret} (hmd5 : ∀ bs, (s.md5 bs).length = md5Block)
    (length fuel : Nat) (prev ks : Bytes) (h : length ≤ ks.length + fuel) :
    length ≤ (keystreamLoop s length fuel prev ks).length := by
  induction fuel generalizing prev ks with
  | zero => exact h
  | succ fuel ih =>
    rw [keystreamLoop]
    split
    · apply ih
      rw [List.length_append, hmd5, md5Block]
      omega
    · omega

/-- **The keystream is as long as asked for.** -/
theorem generateKeystream_length {s : SharedSecret} (hmd5 : ∀ bs, (s.md5 bs).length = md5Block)
    {attributeType : Int} {rv ks : Bytes} {length : Nat}
    (h : generateKeystream attributeType s rv length = .ok ks) : ks.length = length := by
  rw [generateKeystream] at h
  split at h
  · cases h
    simp_all
  · simp only [bind_eq_ok, pure_eq_ok, Except.ok.injEq] at h
    obtain ⟨attrBytes, -, rfl⟩ := h
    have hlen := keystreamLoop_length hmd5 length length
      (s.md5 (attrBytes ++ s.secret ++ rv)) (s.md5 (attrBytes ++ s.secret ++ rv)) (by omega)
    rw [List.length_take, Nat.min_eq_left hlen]

/-! ## One value

Hiding puts the length in front, fills up to whole blocks and masks the result. Since masking is its
own inverse, unhiding sees the padded body and cuts it. -/

/-- The padded body: a whole number of blocks, at least one, since the prefix is in it. -/
theorem paddedBody_length (plaintext : Bytes) :
    let body := beBytes 2 plaintext.length ++ plaintext
    let padded := body ++ List.replicate ((md5Block - body.length % md5Block) % md5Block) 0
    padded.length % md5Block = 0 ∧ md5Block ≤ padded.length
      ∧ plaintext.length + 2 ≤ padded.length := by
  intro body padded
  have hblock : md5Block = 16 := rfl
  have hbody : body.length = plaintext.length + 2 := by simp [body]; omega
  have hpadded : padded.length
      = body.length + (md5Block - body.length % md5Block) % md5Block := by simp [padded]
  rw [hblock] at *
  omega

/-- **What was hidden is unhidden**: same attribute type, secret and Random Vector. -/
theorem unhideValue_hideValue {s : SharedSecret} (hmd5 : ∀ bs, (s.md5 bs).length = md5Block)
    {attributeType : Int} {plaintext rv wire : Bytes}
    (h : hideValue attributeType plaintext s rv = .ok wire) :
    unhideValue attributeType wire s rv = .ok plaintext := by
  obtain ⟨hmod, hblock, hroom⟩ := paddedBody_length plaintext
  simp only [hideValue, bind_eq_ok, raiseIf_eq_ok, pure_eq_ok, Except.ok.injEq] at h
  obtain ⟨_, hlong, ks, hks, rfl⟩ := h
  set pad := (md5Block - (beBytes 2 plaintext.length ++ plaintext).length % md5Block) % md5Block
  set body := beBytes 2 plaintext.length ++ plaintext ++ List.replicate pad 0 with hbody
  have hkslen := generateKeystream_length hmd5 hks
  have hwire : (List.zipWith (· ^^^ ·) body ks).length = body.length := by simp [hkslen]
  -- the mask of the two functions is the same, since the padding keeps the length
  have hunmask := zipWith_xor_xor body ks (by omega)
  have hprefix : unpackFrom 2 body 0 = .ok (plaintext.length : Int) := by
    rw [unpackFrom_eq_ok (by omega)]
    have hslice : slice body 0 (0 + 2) = beBytes 2 plaintext.length := by
      simp [slice, hbody]
    rw [hslice, beNat_beBytes (by omega)]
  have hvalue : slice body 2 (2 + plaintext.length) = plaintext := by
    simp [slice, hbody]
  simp only [unhideValue, hwire, hks, hunmask, hprefix, ok_bind, Int.toNat_natCast, hvalue]
  rw [raiseIf_neg (by omega), raiseIf_neg (by omega)]
  rfl

namespace AVP

/-- An AVP is read back under the Random Vector it was encoded with; one that is not hidden,
under any. -/
theorem valueOfWire_valueToWire {s : SharedSecret} (hmd5 : ∀ bs, (s.md5 bs).length = md5Block)
    {avp : AVP} {rv vf : Bytes} {current : Option Bytes}
    (hcurrent : avp.hidden = true → current = some rv)
    (h : avp.valueToWire (some s) (some rv) = .ok vf) :
    valueOfWire avp.hidden avp.attributeType vf (some s) current = .ok avp.value := by
  unfold valueToWire at h
  unfold valueOfWire
  cases hh : avp.hidden with
  | false => simp_all
  | true =>
    simp only [hh, if_true] at h
    simp only [hcurrent hh, if_true]
    exact unhideValue_hideValue hmd5 h

/-! ## The list

The decoder keeps the last Random Vector it has read, the encoder has one for the whole message.
They agree where each hidden AVP stands behind a Random Vector AVP with that value. -/

/-- The IETF Random Vector AVP, vendor and type. -/
def isRandomVector (avp : AVP) : Bool :=
  avp.vendorId == vendorIetf && avp.attributeType == AttrType.randomVector.code

/-- The value of the nearest Random Vector AVP before the end of a list. -/
def lastRandomVector (avps : List AVP) : Option Bytes :=
  (avps.reverse.find? isRandomVector).map AVP.value

/-- At the start of a message there is no Random Vector yet. -/
@[simp] theorem lastRandomVector_nil : lastRandomVector [] = none := rfl

/-- One more AVP at the end: the decoder's update of its current Random Vector. -/
theorem lastRandomVector_concat (avps : List AVP) (avp : AVP) :
    lastRandomVector (avps ++ [avp])
      = if avp.vendorId = vendorIetf ∧ avp.attributeType = AttrType.randomVector.code then
          some avp.value
        else lastRandomVector avps := by
  simp only [lastRandomVector, List.reverse_append, List.reverse_singleton, List.singleton_append]
  split_ifs with h
  · rw [List.find?_cons_of_pos (by simpa [isRandomVector] using h), Option.map_some]
  · rw [List.find?_cons_of_neg (by simpa [isRandomVector] using h)]

/-- Each hidden AVP of the list comes after a Random Vector AVP, and the nearest such one
before it has the value `rv`. -/
def Salted (rv : Bytes) (avps : List AVP) : Prop :=
  ∀ i : Fin avps.length, avps[i].hidden = true → lastRandomVector (avps.take i) = some rv

instance (rv : Bytes) (avps : List AVP) : Decidable (Salted rv avps) :=
  inferInstanceAs
    (Decidable (∀ i : Fin avps.length, avps[i].hidden = true → lastRandomVector (avps.take i) = some rv))

/-- The condition at the AVP after a first part of the list. -/
theorem Salted.at_split {rv : Bytes} {front back : List AVP} {avp : AVP}
    (h : Salted rv (front ++ avp :: back)) (hh : avp.hidden = true) :
    lastRandomVector front = some rv := by
  have hi := h ⟨front.length, by simp⟩
  simp only [Fin.getElem_fin, List.getElem_append_right (Nat.le_refl _), Nat.sub_self,
    List.getElem_cons_zero, List.take_left] at hi
  exact hi hh

/-- An encoded AVP takes at least its header, so the loop has rounds enough. -/
theorem length_le_length_encodeBody {s : Option SharedSecret} {rv : Option Bytes}
    {avps : List AVP} {bs : Bytes} (h : ControlMessage.encodeBody s rv avps = .ok bs) :
    avps.length ≤ bs.length := by
  induction avps generalizing bs with
  | nil => simp
  | cons avp avps ih =>
    simp only [ControlMessage.encodeBody, bind_eq_ok, pure_eq_ok, Except.ok.injEq,
      encode_eq_wireWith] at h
    obtain ⟨_, ⟨vf, -, -, rfl⟩, rest, hrest, rfl⟩ := h
    have := ih hrest
    simp [avpHeaderLen]
    omega

/-- **The loop reads a salted list back.** Induction on the AVPs to come; the decoder's
current Random Vector is the last one among the AVPs done. -/
theorem decodeLoop_salted {s : SharedSecret} (hmd5 : ∀ bs, (s.md5 bs).length = md5Block)
    {rv bs : Bytes} {todo : List AVP}
    (henc : ControlMessage.encodeBody (some s) (some rv) todo = .ok bs) (done : List AVP)
    (hsalted : Salted rv (done ++ todo)) (pre : Bytes) (fuel : Nat) (hfuel : todo.length ≤ fuel) :
    decodeLoop (pre ++ bs) (some s) fuel pre.length (lastRandomVector done) done
      = .ok (done ++ todo) := by
  induction todo generalizing bs done pre fuel with
  | nil =>
    cases henc
    cases fuel <;> simp [decodeLoop]
  | cons avp todo ih =>
    obtain ⟨n, rfl⟩ : ∃ n, fuel = n + 1 := ⟨fuel - 1, by simp at hfuel; omega⟩
    simp only [ControlMessage.encodeBody, bind_eq_ok, pure_eq_ok, Except.ok.injEq,
      encode_eq_wireWith] at henc
    obtain ⟨_, ⟨vf, hvf, hfits, rfl⟩, rest, hrest, rfl⟩ := henc
    have hin : pre.length < (pre ++ (avp.wireWith vf ++ rest)).length := by
      simp [avpHeaderLen]
    -- the value was hidden under the Random Vector that the decoder has at this point
    have hvalue : valueOfWire avp.hidden avp.attributeType vf (some s) (lastRandomVector done)
        = .ok avp.value :=
      valueOfWire_valueToWire hmd5 hsalted.at_split hvf
    -- the rest, with this AVP among those done
    have hnext := ih hrest (done ++ [avp]) (by simpa using hsalted) (pre ++ avp.wireWith vf) n
      (by simpa using hfuel)
    rw [decodeLoop, if_pos hin, decodeOne_wireWith hfits, hvalue]
    simp only [ok_bind, pure_eq_ok]
    rw [← lastRandomVector_concat, ← List.append_assoc pre, ← List.length_append, hnext]
    simp

end AVP

/-! ## The message

The header is the one of the plain codec. What encodes under a secret decodes to itself. -/

namespace ControlMessage

/-- **Hidden AVPs round-trip inside messages.** What encodes under a secret and a Random
Vector decodes to itself under the same secret, when each hidden AVP comes behind a Random
Vector AVP of that value, the nearest one before it. -/
theorem decode_of_encode_salted {m : ControlMessage} {s : SharedSecret} {rv bs : Bytes}
    (hmd5 : ∀ x, (s.md5 x).length = md5Block)
    (henc : m.encode (some s) (some rv) = .ok bs) (hsalted : AVP.Salted rv m.avps) :
    decode bs (some s) = .ok m := by
  obtain ⟨body, hbody, hrange, hsize, rfl⟩ := encode_eq_headerWire.mp henc
  have hrounds := AVP.length_le_length_encodeBody hbody
  have hloop := AVP.decodeLoop_salted hmd5 hbody [] hsalted
    (m.headerWire (headerLen + body.length)) (m.headerWire (headerLen + body.length) ++ body).length
    (by rw [List.length_append]; omega)
  rw [AVP.lastRandomVector_nil, length_headerWire, List.nil_append] at hloop
  rw [decode_headerWire hrange hsize, AVP.decodeSequence, hloop]
  rfl

/-- MD5 on the inputs that the message below asks it for. -/
def sampleMd5 (bs : Bytes) : Bytes :=
  if bs = [0, 11, 115, 7, 42] then
    [90, 124, 233, 160, 185, 203, 39, 126, 225, 36, 240, 207, 115, 235, 239, 231]
  else if bs = [0, 13, 115, 7, 42] then
    [2, 239, 72, 57, 95, 99, 9, 40, 1, 215, 88, 70, 61, 126, 188, 225]
  else
    [35, 167, 189, 230, 243, 240, 219, 203, 185, 32, 32, 185, 236, 42, 24, 149]

/-- Two Random Vectors, a value of one block and a value of two behind the second, plain AVPs
between them. -/
def sampleHidden : ControlMessage :=
  ⟨7, 0, 0, [
    ⟨AttrType.messageType.code, [0, 6], true, false, 0⟩,
    ⟨AttrType.randomVector.code, [1], true, false, 0⟩,
    ⟨AttrType.randomVector.code, [7, 42], true, false, 0⟩,
    ⟨11, [111, 107], true, true, 0⟩,
    ⟨AttrType.hostName.code, [108, 97, 99], true, false, 0⟩,
    ⟨13, List.replicate 20 255, false, true, 9⟩]⟩

/-- A message with two Random Vectors and two hidden AVPs comes back: what is hidden is salted with
the later of the two. -/
theorem decode_of_encode_salted_sample : ∃ bs,
    sampleHidden.encode (some ⟨sampleMd5, [115]⟩) (some [7, 42]) = .ok bs ∧
    decode bs (some ⟨sampleMd5, [115]⟩) = .ok sampleHidden := by
  have hmd5 : ∀ x, (sampleMd5 x).length = md5Block := by
    intro x
    unfold sampleMd5
    split_ifs <;> rfl
  -- the message can be encoded, by evaluation; the bytes are left abstract
  have henc : (sampleHidden.encode (some ⟨sampleMd5, [115]⟩) (some [7, 42])).isOk = true := by
    decide +kernel
  cases hbs : sampleHidden.encode (some ⟨sampleMd5, [115]⟩) (some [7, 42]) with
  | error e => rw [hbs] at henc; cases henc
  | ok bs => exact ⟨bs, rfl, decode_of_encode_salted hmd5 hbs (by decide)⟩

end ControlMessage

end L2tpv3d
