import L2tpv3d.Py.Effects
import Mathlib.Tactic.Ring
import Mathlib.Tactic.Linarith

/-!
# Py — byte strings and the `struct` module

Byte strings are lists of `UInt8`. `beBytes k x` and `beNat bs` are the two directions of
`struct`'s unsigned big-endian formats (`"!B"`, `"!H"`, `"!I"`, `"!Q"` are `k = 1, 2, 4, 8`);
`pack`, `unpack` and `unpackFrom` add the range and size checks of the library functions,
which raise `struct.error`.

* **the number format**: `beNat_beBytes` and `beBytes_beNat` — the two directions are
  inverse on numbers below `256 ^ k` and on strings of `k` bytes;
* **slices**: `slice bs i j` is `bs[i:j]`; `slice_append_slice` glues two adjacent slices,
  `slice_mid` reads the middle of a concatenation.
-/

namespace Py

/-- A `bytes` value. -/
abbrev Bytes := List UInt8

/-- The `k` low bytes of `x`, most significant first. -/
def beBytes : Nat → Nat → Bytes
  | 0, _ => []
  | k + 1, x => UInt8.ofNat (x / 256 ^ k % 256) :: beBytes k x

/-- The number that big-endian bytes spell. -/
def beNat : Bytes → Nat
  | [] => 0
  | b :: bs => b.toNat * 256 ^ bs.length + beNat bs

/-- `bs[i:j]`. -/
def slice (bs : Bytes) (i j : Nat) : Bytes := (bs.drop i).take (j - i)

/-- `s.encode("utf-8")`. -/
def utf8 (s : String) : Bytes := s.toUTF8.data.toList

/-- Two texts with the same encoding are the same text. -/
theorem utf8_injective : Function.Injective utf8 := by
  intro s t h
  have hbytes : s.toUTF8 = t.toUTF8 := ByteArray.ext (Array.toList_inj.mp h)
  exact String.toByteArray_inj.mp hbytes

/-- `f"{n:x}"`. -/
def hex (n : Nat) : String := String.ofList (Nat.toDigits 16 n)

/-- `struct.pack` of one unsigned big-endian field of `k` bytes. -/
def pack (k : Nat) (x : Int) : Except Exn Bytes :=
  if 0 ≤ x ∧ x < 256 ^ k then .ok (beBytes k x.toNat)
  else .error (.structError "argument out of range")

/-- `struct.unpack` of one unsigned big-endian field of `k` bytes: the size must be exact. -/
def unpack (k : Nat) (bs : Bytes) : Except Exn Int :=
  if bs.length = k then .ok (beNat bs)
  else .error (.structError s!"unpack requires a buffer of {k} bytes")

/-- `struct.unpack_from` of one unsigned big-endian field of `k` bytes at offset `i`. -/
def unpackFrom (k : Nat) (bs : Bytes) (i : Nat) : Except Exn Int :=
  if i + k ≤ bs.length then .ok (beNat (slice bs i (i + k)))
  else .error (.structError s!"unpack_from requires a buffer of at least {i + k} bytes")

/-! ## The number format

The two directions are inverse to each other, on numbers below the width and on strings of the
length. Induction on the width. -/

/-- A number is written in as many bytes as the field has, whatever its size. -/
@[simp] theorem length_beBytes (k x : Nat) : (beBytes k x).length = k := by
  induction k with
  | zero => rfl
  | succ k ih => simp [beBytes, ih]

/-- The number that bytes spell fits a field of their length. -/
theorem beNat_lt (bs : Bytes) : beNat bs < 256 ^ bs.length := by
  induction bs with
  | nil => simp [beNat]
  | cons b bs ih =>
    have hb : b.toNat ≤ 255 := by have := b.toNat_lt; omega
    -- the first byte contributes at most 255 times the weight of its place
    have hmul : b.toNat * 256 ^ bs.length ≤ 255 * 256 ^ bs.length := Nat.mul_le_mul_right _ hb
    simp only [beNat, List.length_cons, pow_succ]
    omega

/-- Writing a number and reading it back reduces it to the width. -/
theorem beNat_beBytes_mod (k x : Nat) : beNat (beBytes k x) = x % 256 ^ k := by
  induction k with
  | zero => simp [beBytes, beNat, Nat.mod_one]
  | succ k ih =>
    -- the byte in front is reduced to its place already, so it is stored as it is
    have hbyte : (UInt8.ofNat (x / 256 ^ k % 256)).toNat = x / 256 ^ k % 256 := by simp
    simp only [beBytes, beNat, length_beBytes, hbyte, ih]
    rw [pow_succ, Nat.mod_mul]
    ring

/-- A number below the width is read back as written. -/
theorem beNat_beBytes {k x : Nat} (h : x < 256 ^ k) : beNat (beBytes k x) = x := by
  rw [beNat_beBytes_mod, Nat.mod_eq_of_lt h]

/-- Only the digits below the width matter to `beBytes`. -/
theorem beBytes_add_mul (k a x : Nat) : beBytes k (a * 256 ^ k + x) = beBytes k x := by
  induction k generalizing a with
  | zero => rfl
  | succ k ih =>
    have hsplit : a * 256 ^ (k + 1) + x = (a * 256) * 256 ^ k + x := by rw [pow_succ]; ring
    have hdiv : (a * 256 ^ (k + 1) + x) / 256 ^ k % 256 = x / 256 ^ k % 256 := by
      rw [hsplit, Nat.mul_comm (a * 256), Nat.mul_add_div (by positivity), Nat.mul_add_mod']
    simp only [beBytes, hdiv]
    rw [hsplit, ih]

/-- Bytes read as a number are written back as they were. -/
theorem beBytes_beNat (bs : Bytes) : beBytes bs.length (beNat bs) = bs := by
  induction bs with
  | nil => rfl
  | cons b bs ih =>
    have hlt : beNat bs < 256 ^ bs.length := beNat_lt bs
    have hb : b.toNat < 256 := b.toNat_lt
    -- the bytes that follow are worth less than one unit of the first byte
    have hdiv : (b.toNat * 256 ^ bs.length + beNat bs) / 256 ^ bs.length = b.toNat := by
      rw [Nat.mul_comm, Nat.mul_add_div (by positivity), Nat.div_eq_of_lt hlt, Nat.add_zero]
    simp only [beNat, List.length_cons, beBytes, hdiv, Nat.mod_eq_of_lt hb]
    rw [beBytes_add_mul, ih]
    simp

theorem beBytes_beNat_of_length {k : Nat} {bs : Bytes} (h : bs.length = k) :
    beBytes k (beNat bs) = bs := by
  rw [← h, beBytes_beNat]

/-! ## Slices

Python slices never fail. What a decoder reads is a slice of a concatenation, and it is the part
that the offsets name. -/

/-- A slice that ends within the string has the length that its bounds say. -/
theorem length_slice (bs : Bytes) {i j : Nat} (hj : j ≤ bs.length) :
    (slice bs i j).length = j - i := by
  simp only [slice, List.length_take, List.length_drop]
  omega

/-- Two adjacent slices glue. -/
theorem slice_append_slice (bs : Bytes) {i j k : Nat} (hij : i ≤ j) (hjk : j ≤ k) :
    slice bs i j ++ slice bs j k = slice bs i k := by
  unfold slice
  rw [show k - i = (j - i) + (k - j) from by omega, List.take_add, List.drop_drop,
    show i + (j - i) = j from by omega]

/-- A slice past a prefix is a slice of what follows the prefix. -/
theorem slice_append_shift (pre bs : Bytes) (i j : Nat) :
    slice (pre ++ bs) (pre.length + i) (pre.length + j) = slice bs i j := by
  unfold slice
  rw [← List.drop_drop, List.drop_left, Nat.add_sub_add_left]

/-- A slice from the start followed by the rest is the whole. -/
theorem slice_zero_append_drop (bs : Bytes) (i : Nat) : slice bs 0 i ++ bs.drop i = bs := by
  simp [slice]

/-! ## The checked operations

The library functions raise `struct.error` when a number or a length is out of range. These are the
two forms that the proofs use: what a normal end says, and when there is one. -/

/-- A number within the range of the field is packed. -/
theorem pack_eq_ok {k : Nat} {x : Int} (h0 : 0 ≤ x) (h1 : x < 256 ^ k) :
    pack k x = .ok (beBytes k x.toNat) := by
  simp [pack, h0, h1]

theorem unpackFrom_eq_ok {k i : Nat} {bs : Bytes} (h : i + k ≤ bs.length) :
    unpackFrom k bs i = .ok (beNat (slice bs i (i + k))) := by
  simp [unpackFrom, h]

theorem unpack_eq_ok {k : Nat} {bs : Bytes} (h : bs.length = k) :
    unpack k bs = .ok (beNat bs : Int) := by
  simp [unpack, h]

/-- What was packed is unpacked. -/
theorem unpack_beBytes {k : Nat} {x : Int} (h0 : 0 ≤ x) (h1 : x < 256 ^ k) :
    unpack k (beBytes k x.toNat) = .ok x := by
  -- the range of the field, said of the natural number
  have hlt : x.toNat < 256 ^ k := by
    have : ((x.toNat : Int)) < 256 ^ k := by rwa [Int.toNat_of_nonneg h0]
    exact_mod_cast this
  rw [unpack_eq_ok (length_beBytes k _), beNat_beBytes hlt, Int.toNat_of_nonneg h0]

end Py
