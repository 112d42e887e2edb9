import L2tpv3d.Py.Struct
import Mathlib.Data.Int.Log
import Mathlib.Data.List.DropRight
import Mathlib.Data.Rat.Floor
import Mathlib.Algebra.Order.Ring.Rat

/-!
# Py — numbers, bytes and addresses written as text

What the library reads from a string: `int(s)`, `float(s)`, `bytes.fromhex(s)` and the two
address classes of `ipaddress`. Each is a partial function; where it is `none` the library
raises `ValueError`.

* `intStr` — an integer written out, which may be a `bool`.
* `intOfStr`, `floatOfStr` — decimal digits of any script, single underscores between digits,
  spaces around the number.
* `PyFloat.ofRat` — the double nearest to a rational, ties to even.
* `fromhex` — pairs of hexadecimal digits, with spaces between the pairs; `bytesHex` writes them.
* `ipv4Address`, `ipAddress` — dotted quads, and either kind of address.
-/

namespace Py

/-! ## Characters

`int` and `float` take the decimal digits of every script, and skip the spaces of Unicode. `fromhex`
takes those of ASCII only. -/

/-- The zeros of the scripts with decimal digits; each is followed by its other nine digits. -/
def decimalZeros : List Nat := [
  0x30, 0x660, 0x6f0, 0x7c0, 0x966, 0x9e6, 0xa66, 0xae6, 0xb66, 0xbe6, 0xc66, 0xce6, 0xd66, 0xde6,
  0xe50, 0xed0, 0xf20, 0x1040, 0x1090, 0x17e0, 0x1810, 0x1946, 0x19d0, 0x1a80, 0x1a90, 0x1b50,
  0x1bb0, 0x1c40, 0x1c50, 0xa620, 0xa8d0, 0xa900, 0xa9d0, 0xa9f0, 0xaa50, 0xabf0, 0xff10, 0x104a0,
  0x10d30, 0x11066, 0x110f0, 0x11136, 0x111d0, 0x112f0, 0x11450, 0x114d0, 0x11650, 0x116c0,
  0x11730, 0x118e0, 0x11950, 0x11c50, 0x11d50, 0x11da0, 0x16a60, 0x16ac0, 0x16b50, 0x1d7ce,
  0x1d7d8, 0x1d7e2, 0x1d7ec, 0x1d7f6, 0x1e140, 0x1e2f0, 0x1e950, 0x1fbf0]

/-- The value of a decimal digit. -/
def decimal? (c : Char) : Option Nat :=
  (decimalZeros.find? fun first => first ≤ c.toNat ∧ c.toNat < first + 10).map (c.toNat - ·)

/-- The spaces of ASCII that `int`, `float` and `fromhex` skip. -/
def isAsciiSpace (c : Char) : Bool := c.toNat = 0x20 ∨ (0x09 ≤ c.toNat ∧ c.toNat ≤ 0x0d)

/-- The spaces that `int` and `float` skip around a number. -/
def isSpace (c : Char) : Bool :=
  isAsciiSpace c ∨ (0x2000 ≤ c.toNat ∧ c.toNat ≤ 0x200a) ∨
    c.toNat ∈ [0x85, 0xa0, 0x1680, 0x2028, 0x2029, 0x202f, 0x205f, 0x3000]

/-- `s.strip()`, as `int` and `float` strip. -/
def strip (cs : List Char) : List Char := (cs.dropWhile isSpace).rdropWhile isSpace

/-- The characters of which `str.isspace` is true. -/
def isStrSpace (c : Char) : Bool := isSpace c ∨ (0x1c ≤ c.toNat ∧ c.toNat ≤ 0x1f)

/-- `s.strip()` -/
def strStrip (s : String) : String :=
  String.ofList ((s.toList.dropWhile isStrSpace).rdropWhile isStrSpace)

/-- The value of a hexadecimal digit. -/
def hexDigit? (c : Char) : Option Nat :=
  if '0' ≤ c ∧ c ≤ '9' then some (c.toNat - '0'.toNat)
  else if 'a' ≤ c ∧ c ≤ 'f' then some (c.toNat - 'a'.toNat + 10)
  else if 'A' ≤ c ∧ c ≤ 'F' then some (c.toNat - 'A'.toNat + 10)
  else none

/-! ## Integers

A sign, digits with single underscores between them, and spaces around. Python refuses to convert
more than 4300 digits. -/

/-- Digits, with single underscores between them. -/
def digits : List Char → Option (List Nat)
  | [] => none
  | [c] => (decimal? c).map ([·])
  | c :: '_' :: rest => do return (← decimal? c) :: (← digits rest)
  | c :: rest => do return (← decimal? c) :: (← digits rest)

/-- The number that decimal digits spell. -/
def ofDecimal (ds : List Nat) : Nat := ds.foldl (fun n d => 10 * n + d) 0

/-- Whether there is a minus sign, and what follows the sign. -/
def sign : List Char → Bool × List Char
  | '-' :: cs => (true, cs)
  | '+' :: cs => (false, cs)
  | cs => (false, cs)

/-- `int(s)`: at most 4300 digits are converted. -/
def intOfStr (s : String) : Option Int := do
  let (negative, cs) := sign (strip s.toList)
  let ds ← digits cs
  if ds.length ≤ 4300 then return (if negative then -1 else 1) * ofDecimal ds else none

/-- `str(n)`. A `bool` is one of the integers 0 and 1, and is written as a word. -/
def intStr (isBool : Bool) (n : Int) : String :=
  if isBool ∧ n = 1 then "True" else if isBool ∧ n = 0 then "False" else toString n

/-! ## Floats

The digits are read as a rational number, which is then rounded to the nearest double, ties to even.
A number that is too large becomes an infinity, as in Python. -/

/-- A `float`; the two zeros are one. -/
inductive PyFloat where
  | finite (x : ℚ)
  | inf (negative : Bool)
  | nan
  deriving DecidableEq

/-- The nearest integer, ties to even. -/
def roundHalfEven (x : ℚ) : Int :=
  let n := x.floor
  if x - n < 1 / 2 then n
  else if 1 / 2 < x - n then n + 1
  else if n % 2 = 0 then n
  else n + 1

/-- The last place of a double near `x`: 53 binary digits, and none below the least
subnormal. -/
def ulp (x : ℚ) : ℚ := 2 ^ max (Int.log 2 |x| - 52) (-1074)

/-- The double nearest to `x`. -/
def PyFloat.ofRat (x : ℚ) : PyFloat :=
  let y := roundHalfEven (x / ulp x) * ulp x
  if 2 ^ 1024 ≤ |y| then .inf (x < 0) else .finite y

/-- The number, if it lies in the range; `nan` lies in none. -/
def PyFloat.between (lo hi : ℚ) : PyFloat → Option ℚ
  | .finite x => if lo ≤ x ∧ x ≤ hi then some x else none
  | _ => none

/-- The digits of one side of the decimal point; the side may be empty. -/
def fraction (cs : List Char) : Option (List Nat) := if cs = [] then some [] else digits cs

/-- The part of a float before the exponent: its digits, and how many stand after the point. -/
def mantissa (cs : List Char) : Option (List Nat × Nat) :=
  match cs.splitOn '.' with
  | [whole] => do return (← digits whole, 0)
  | [whole, frac] => do
    let ds ← fraction whole
    let es ← fraction frac
    if ds ++ es = [] then none else return (ds ++ es, es.length)
  | _ => none

/-- The exponent: a sign and digits. -/
def exponent (cs : List Char) : Option Int := do
  let (negative, cs) := sign cs
  let ds ← digits cs
  return (if negative then -1 else 1) * ofDecimal ds

/-- `float(s)` -/
def floatOfStr (s : String) : Option PyFloat := do
  let (negative, cs) := sign (strip s.toList)
  let word := cs.map Char.toLower
  if word = "inf".toList ∨ word = "infinity".toList then return .inf negative
  else if word = "nan".toList then return .nan
  else
    let (ds, places) ← mantissa (cs.takeWhile (·.toLower ≠ 'e'))
    let e ← match cs.dropWhile (·.toLower ≠ 'e') with
      | [] => some 0
      | _ :: cs => exponent cs
    return .ofRat ((if negative then -1 else 1) * ofDecimal ds * 10 ^ (e - places))

/-! ## Bytes

Pairs of hexadecimal digits. The reader skips spaces between the pairs, the writer puts none. -/

/-- `bs.hex()` -/
def bytesHex (bs : Bytes) : String :=
  String.ofList (bs.flatMap fun b => [(b.toNat / 16).digitChar, (b.toNat % 16).digitChar])

/-- `bytes.fromhex(s)` -/
def fromhex : List Char → Option Bytes
  | [] => some []
  | [c] => if isAsciiSpace c then some [] else none
  | c :: d :: rest =>
    if isAsciiSpace c then fromhex (d :: rest)
    else do
      let high ← hexDigit? c
      let low ← hexDigit? d
      return UInt8.ofNat (16 * high + low) :: (← fromhex rest)

/-- The hexadecimal digit of a number below sixteen is read back. -/
theorem hexDigit?_digitChar : ∀ n < 16, hexDigit? n.digitChar = some n := by decide

/-- No hexadecimal digit is a space. -/
theorem isAsciiSpace_digitChar : ∀ n < 16, isAsciiSpace n.digitChar = false := by decide

/-- What `hex()` writes `fromhex()` reads. -/
theorem fromhex_bytesHex (bs : Bytes) : fromhex (bytesHex bs).toList = some bs := by
  rw [bytesHex, String.toList_ofList]
  induction bs with
  | nil => rfl
  | cons b bs ih =>
    have hb : b.toNat < 256 := b.toNat_lt
    -- the two digits of the first byte, neither of which is skipped
    have hhigh := hexDigit?_digitChar (b.toNat / 16) (by omega)
    have hlow := hexDigit?_digitChar (b.toNat % 16) (by omega)
    have hspace := isAsciiSpace_digitChar (b.toNat / 16) (by omega)
    -- and they put the byte together again
    have hbyte : UInt8.ofNat (16 * (b.toNat / 16) + b.toNat % 16) = b := by
      rw [Nat.div_add_mod]
      exact UInt8.ofNat_toNat
    simp only [List.flatMap_cons, List.cons_append, List.nil_append, fromhex, hspace, hhigh, hlow, ih]
    exact congrArg (fun c => some (c :: bs)) hbyte

/-! ## Addresses

An IPv4 address is four octets without leading zeros. An IPv6 address has eight groups, or fewer
with one `::`, and may end in a dotted quad. -/

/-- `_parse_octet` -/
def parseOctet (cs : List Char) : Option Nat :=
  if cs = [] ∨ ¬ cs.all Char.isDigit ∨ 3 < cs.length ∨ (cs ≠ ['0'] ∧ cs.head? = some '0') then none
  else
    let n := ofDecimal (cs.map fun c => c.toNat - '0'.toNat)
    if n ≤ 255 then some n else none

/-- `int(IPv4Address(s))` -/
def ipv4Address (cs : List Char) : Option Nat :=
  match cs.splitOn '.' with
  | [a, b, c, d] => do
    return (((← parseOctet a) * 256 + (← parseOctet b)) * 256 + (← parseOctet c)) * 256
      + (← parseOctet d)
  | _ => none

/-- `_parse_hextet` returns. -/
def isHextet (cs : List Char) : Bool :=
  cs ≠ [] ∧ cs.all (fun c => (hexDigit? c).isSome) ∧ cs.length ≤ 4

/-- The groups of an IPv6 address, an IPv4 suffix written as two groups. -/
def ipv6Groups (cs : List Char) : Option (List (List Char)) :=
  let parts := cs.splitOn ':'
  if parts.length < 3 then none
  else match parts.getLast? with
    | some last =>
      if '.' ∈ last then do
        let n ← ipv4Address last
        return parts.dropLast ++ [Nat.toDigits 16 (n / 0x10000), Nat.toDigits 16 (n % 0x10000)]
      else some parts
    | none => some parts

/-- The indices of the empty groups between the first and the last. -/
def skips (parts : List (List Char)) : List Nat :=
  (List.range (parts.length - 1)).filter fun i => i ≠ 0 ∧ parts[i]? = some []

/-- The groups spell an address: eight, or fewer with one `::`, which may stand at an end. -/
def areHextets (parts : List (List Char)) : Bool :=
  let first := parts.head? = some []
  let last := parts.getLast? = some []
  if 9 < parts.length then false
  else match skips parts with
    | [] => parts.length = 8 ∧ parts.all isHextet
    | [i] =>
      let high := if first then i - 1 else i
      let low := if last then parts.length - i - 2 else parts.length - i - 1
      (first → high = 0) ∧ (last → low = 0) ∧ high + low < 8 ∧
        (parts.take high).all isHextet ∧ (parts.drop (parts.length - low)).all isHextet
    | _ => false

/-- `IPv6Address(s)` returns: a scope may follow the address after a `%`. -/
def ipv6Address (cs : List Char) : Bool :=
  let addr := cs.takeWhile (· ≠ '%')
  let scopeOk : Bool := match cs.dropWhile (· ≠ '%') with
    | [] => true
    | _ :: scope => scope ≠ [] ∧ '%' ∉ scope
  '/' ∉ cs ∧ scopeOk ∧ ((ipv6Groups addr).map areHextets).getD false

/-- `ipaddress.ip_address(s)` returns. -/
def ipAddress (s : String) : Bool := (ipv4Address s.toList).isSome || ipv6Address s.toList

/-- A float that is in the range is a number between its bounds. -/
theorem PyFloat.between_eq_some {lo hi q : ℚ} {x : PyFloat} (h : x.between lo hi = some q) :
    lo ≤ q ∧ q ≤ hi := by
  cases x with
  | finite x =>
    simp only [PyFloat.between, Option.ite_none_right_eq_some, Option.some.injEq] at h
    obtain ⟨hx, rfl⟩ := h
    exact hx
  | inf => cases h
  | nan => cases h

/-- An octet that is read is a byte. -/
theorem parseOctet_le {cs : List Char} {n : Nat} (h : parseOctet cs = some n) : n ≤ 255 := by
  simp only [parseOctet] at h
  split at h
  · cases h
  · split at h
    · cases h
      assumption
    · cases h

/-- A dotted quad is a 32-bit number. -/
theorem ipv4Address_le {cs : List Char} {n : Nat} (h : ipv4Address cs = some n) :
    n ≤ 0xFFFFFFFF := by
  unfold ipv4Address at h
  split at h
  · simp only [Option.bind_eq_bind, Option.bind_eq_some_iff, Option.pure_def,
      Option.some.injEq] at h
    obtain ⟨a, ha, b, hb, c, hc, d, hd, rfl⟩ := h
    have ha := parseOctet_le ha
    have hb := parseOctet_le hb
    have hc := parseOctet_le hc
    have hd := parseOctet_le hd
    omega
  · cases h

/-! ## How an integer is written

The command lines and the interface names are made of numbers. A `bool` is an integer that is
written as a word. -/

/-- A number is written in digits, after a minus sign if it is negative. -/
theorem char_toString_int {n : Int} {c : Char} (h : c ∈ (toString n).toList) :
    c.isDigit ∨ c = '-' := by
  -- the digits of a natural number
  have hnat : ∀ m : Nat, c ∈ (Nat.repr m).toList → c.isDigit := by
    intro m hc
    rw [Nat.repr, String.toList_ofList] at hc
    exact Nat.isDigit_of_mem_toDigits (by decide) (by decide) hc
  cases n with
  | ofNat m => exact .inl (hnat m h)
  | negSucc m =>
    have hmem : c ∈ ("-" ++ Nat.repr (m + 1)).toList := h
    rw [String.toList_append, List.mem_append] at hmem
    rcases hmem with hminus | hdigits
    · right
      simpa using hminus
    · exact .inl (hnat _ hdigits)

/-- No number is written as a word that has a letter. -/
theorem toString_int_ne {word : String} {c : Char} (h : c ∈ word.toList)
    (hdigit : c.isDigit = false) (hminus : c ≠ '-') (n : Int) : toString n ≠ word := by
  rintro rfl
  rcases char_toString_int h with hd | hm
  · rw [hd] at hdigit
    cases hdigit
  · exact hminus hm

/-- An integer that is no `bool` is written in digits. -/
@[simp] theorem intStr_false (n : Int) : intStr false n = toString n := by
  simp [intStr]

/-- `str(True)`. -/
@[simp] theorem intStr_true : intStr true 1 = "True" := rfl

/-! ## The length of a text

Lengths are counted in bytes of UTF-8, which are as many as the characters where these are digits.
-/

/-- The encoding of a concatenation has the bytes of both parts. -/
theorem length_utf8_append (s t : String) :
    (utf8 (s ++ t)).length = (utf8 s).length + (utf8 t).length :=
  String.utf8ByteSize_append

/-- A text of decimal digits has a byte for each. -/
theorem length_utf8_ofList {cs : List Char} (h : ∀ c ∈ cs, c.isDigit) :
    (utf8 (String.ofList cs)).length = cs.length := by
  induction cs with
  | nil => rfl
  | cons c cs ih =>
    have hcons : String.ofList (c :: cs) = String.singleton c ++ String.ofList cs := by simp
    -- a digit is an ASCII character, which is encoded as one byte
    have hone : (utf8 (String.singleton c)).length = 1 := by
      have hdigit := h c List.mem_cons_self
      simp only [Char.isDigit, Bool.and_eq_true, decide_eq_true_eq] at hdigit
      have hascii : c.val ≤ 127 := UInt32.le_trans hdigit.2 (show '9'.val ≤ 127 by decide)
      exact String.utf8ByteSize_singleton.trans (Char.utf8Size_eq_one_iff.mpr hascii)
    rw [hcons, length_utf8_append, hone, ih fun c' hc' => h c' (List.mem_cons_of_mem _ hc'),
      List.length_cons, Nat.add_comm]

/-- `str(n)` of a natural number has a byte for each decimal digit. -/
theorem length_utf8_nat (n : Nat) : (utf8 (toString (n : Int))).length = (Nat.toDigits 10 n).length :=
  length_utf8_ofList fun _ hc => Nat.isDigit_of_mem_toDigits (by decide) (by decide) hc

end Py
