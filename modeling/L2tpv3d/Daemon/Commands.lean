import L2tpv3d.Daemon.IpCommand

/-!
# L2tpv3d — command lines that must fail

Whether a command of iproute2 succeeds depends on the kernel. A command line that `ip` cannot make
sense of fails on every kernel, and for the commands of this dataplane it is known which they are:
IDs are numbers other than zero, cookies have four or eight bytes, and a netdev has a name that an
interface can have. How `ip` reads a word is its own affair, so it is a parameter (`Iproute`) with
what its manual says of it (`Iproute.Documented`).

* `DataplaneCall.commandLines` — the command lines of a call; **`step_commandLines`** — the object
  runs no others.
* `Iproute.Refuses` — the command line fails on every kernel.
* `isId_intStr`, `isId_toString` — which integers of Python are IDs for `ip`.
* `plainIp` — an `ip` that does what the manual says.
-/

namespace L2tpv3d

open Py

/-! ## The command lines of a call

The words that a call passes to `ip`, independent of what becomes of them. The dataplane object runs
no other command line. -/

/-- The command lines of a call, in their order, where `ip` is at `path`. -/
def DataplaneCall.commandLines (path : String) : DataplaneCall → List (List String)
  | .addTunnel params => [IpCommandDataplane.addTunnelArgv path params]
  | .addSession params =>
    [IpCommandDataplane.addSessionArgv path params, IpCommandDataplane.linkUpArgv path params.ifname]
  | .delSession localCcid localSid => [IpCommandDataplane.delSessionArgv path localCcid localSid]
  | .delTunnel localCcid => [IpCommandDataplane.delTunnelArgv path localCcid]

namespace IpCommandDataplane

/-- **A call runs its command lines and no others**, from the first one on: it may stop before the
last, and runs none when there is nothing to do. -/
theorem step_commandLines (self : IpCommandDataplane) (call : DataplaneCall) :
    ∃ lines, lines <+: call.commandLines self.ip ∧
      (self.step call).host = lines.foldl Host.after self.host := by
  -- nothing is run, or a first line is, or both lines of `add_session`
  have hnone : ∀ {lines : List (List String)}, [] <+: lines := List.nil_prefix
  have hone : ∀ {line : List String} {rest : List (List String)}, [line] <+: line :: rest :=
    fun {_ rest} => ⟨rest, rfl⟩
  cases call with
  | addTunnel params =>
    rw [step_addTunnel]
    rcases addTunnel_cases params self with ⟨-, hrun⟩ | ⟨-, ⟨-, e, hrun⟩ | ⟨-, hrun⟩⟩
    · exact ⟨[], hnone, by rw [hrun]; rfl⟩
    · exact ⟨[_], hone, by rw [hrun]; rfl⟩
    · exact ⟨[_], hone, by rw [hrun]; rfl⟩
  | addSession params =>
    rw [step_addSession]
    rcases addSession_cases params self with ⟨-, e, hrun⟩ | ⟨-, ⟨-, e, hrun⟩ | ⟨-, hrun⟩⟩
    · exact ⟨[_], hone, by rw [hrun]; rfl⟩
    · exact ⟨_, List.prefix_refl _, by rw [hrun]; rfl⟩
    · exact ⟨_, List.prefix_refl _, by rw [hrun]; rfl⟩
  | delSession localCcid localSid =>
    rw [step_delSession]
    rcases delSession_cases localCcid localSid self with ⟨-, hrun⟩ | ⟨-, ⟨-, e, hrun⟩ | ⟨-, hrun⟩⟩
    · exact ⟨[], hnone, by rw [hrun]; rfl⟩
    · exact ⟨[_], hone, by rw [hrun]; rfl⟩
    · exact ⟨[_], hone, by rw [hrun]; rfl⟩
  | delTunnel localCcid =>
    rw [step_delTunnel]
    rcases delTunnel_cases localCcid self with ⟨-, hrun⟩ | ⟨-, -, e, hrun⟩ |
      ⟨-, -, ⟨-, e, hrun⟩ | ⟨-, hrun⟩⟩
    · exact ⟨[], hnone, by rw [hrun]; rfl⟩
    · exact ⟨[], hnone, by rw [hrun]; rfl⟩
    · exact ⟨[_], hone, by rw [hrun]; rfl⟩
    · exact ⟨[_], hone, by rw [hrun]; rfl⟩

end IpCommandDataplane

/-! ## What `ip` refuses

A program from outside of the repository, so all that is used of it is stated: how a word is read is
a relation of its own, and what is required of a command line refers to it. -/

/-- An `ip`: how its invocations end, and how it reads the words of a command line. -/
structure Iproute where
  outcome : Nat → List String → Kernel → CompletedProcess
  /-- The word can be the name of an interface. -/
  IsName : String → Prop
  /-- The number that the word is read as. -/
  number : String → Option Nat
  /-- The addresses, a local and a remote one, can be the ends of a tunnel. -/
  AreEnds : String → String → Prop

namespace Iproute

variable (ip : Iproute)

/-- The command line fails on every kernel. -/
def Refuses (argv : List String) : Prop := ∀ n k, (ip.outcome n argv k).returncode ≠ 0

/-- The word is read as an ID: a number other than zero. -/
def IsId (word : String) : Prop := ∃ n, ip.number word = some n ∧ n ≠ 0

/-- The words of `add tunnel` can be read. -/
structure ReadsTunnel (params : TunnelParams) : Prop where
  ends : ip.AreEnds params.localAddress params.remoteAddress
  localCcid : ip.IsId (intStr params.localCcidIsBool params.localCcid)
  remoteCcid : ip.IsId (toString params.remoteCcid)

/-- The words of `add session` can be read. -/
structure ReadsSession (params : SessionParams) : Prop where
  ifname : ip.IsName params.ifname
  localCcid : ip.IsId (intStr params.localCcidIsBool params.localCcid)
  localSid : ip.IsId (intStr params.localSidIsBool params.localSid)
  remoteSid : ip.IsId (toString params.remoteSid)
  cookie : ∀ c ∈ params.cookie, c.length = 4 ∨ c.length = 8
  peerCookie : ∀ c ∈ params.peerCookie, c.length = 4 ∨ c.length = 8
  l2specType : params.l2specType ∈ ["", "none", "default"]

/-- What the manual says: how words are read, and that the commands that add something are refused
for words that cannot be read and for nothing else. -/
structure Documented : Prop where
  /-- A name has 1 to 15 bytes. -/
  name_length : ∀ name, ip.IsName name → 1 ≤ (utf8 name).length ∧ (utf8 name).length ≤ 15
  /-- Letters, digits and hyphens make a name, if there are not too many. -/
  name_plain : ∀ name, 1 ≤ (utf8 name).length → (utf8 name).length ≤ 15 →
    (∀ c ∈ name.toList, c.isAlphanum ∨ c = '-') → ip.IsName name
  /-- A number of 32 bits can be written in decimal. -/
  number_decimal : ∀ n : Nat, n ≤ 0xFFFFFFFF → ip.number (toString n) = some n
  /-- A word is no number. -/
  number_true : ip.number "True" = none
  addTunnel : ∀ path params, params.encap = "udp" → params.udpSport = 1701 →
    params.udpDport = 1701 →
    (ip.Refuses (IpCommandDataplane.addTunnelArgv path params) ↔ ¬ ip.ReadsTunnel params)
  addSession : ∀ path params,
    ip.Refuses (IpCommandDataplane.addSessionArgv path params) ↔ ¬ ip.ReadsSession params
  linkUp : ∀ path name, ip.Refuses (IpCommandDataplane.linkUpArgv path name) ↔ ¬ ip.IsName name

namespace Documented

variable {ip : Iproute} (h : ip.Documented)

include h

/-- A number of 32 bits is an ID unless it is zero. -/
theorem isId_toString {n : Int} (hlo : 0 ≤ n) (hhi : n ≤ 0xFFFFFFFF) :
    ip.IsId (toString n) ↔ n ≠ 0 := by
  obtain ⟨m, rfl⟩ := Int.eq_ofNat_of_zero_le hlo
  have hnum : ip.number (toString (m : Int)) = some m := h.number_decimal m (by omega)
  rw [IsId, hnum]
  constructor
  · rintro ⟨k, hk, hne⟩
    cases hk
    omega
  · intro hne
    exact ⟨m, rfl, by omega⟩

/-- A positive number is an ID unless it is a `bool`, which is written as a word. -/
theorem isId_intStr {isBool : Bool} {n : Int} (hlo : 0 < n) (hhi : n ≤ 0xFFFFFFFF)
    (hbool : isBool = true → n = 1) : ip.IsId (intStr isBool n) ↔ isBool = false := by
  cases isBool with
  | false =>
    rw [intStr_false, h.isId_toString hlo.le hhi]
    exact iff_of_true (by omega) rfl
  | true =>
    rw [hbool rfl, intStr_true, IsId, h.number_true]
    exact iff_of_false (fun ⟨_, hk, _⟩ => by cases hk) (by decide)

end Documented

end Iproute

/-! ## An `ip` that does what the manual says

Words are read by hand: numbers in decimal digits, addresses by the rules of `ipaddress`, cookies as
hexadecimal digits. It succeeds on every command line that it can read. -/

namespace PlainIp

/-- 1 to 15 bytes, without a slash or a space. -/
def IsName (name : String) : Prop :=
  1 ≤ (utf8 name).length ∧ (utf8 name).length ≤ 15 ∧ ∀ c ∈ name.toList, c ≠ '/' ∧ c.isWhitespace = false

/-- A number of 32 bits, in decimal digits. -/
def number (word : String) : Option Nat :=
  if word.toList.all Char.isDigit then word.toNat?.filter (· ≤ 0xFFFFFFFF) else none

/-- Two addresses of one family, which do not name a zone. -/
def AreEnds (localAddress remoteAddress : String) : Prop :=
  ((ipv4Address localAddress.toList).isSome ↔ (ipv4Address remoteAddress.toList).isSome) ∧
    ∀ a ∈ [localAddress, remoteAddress], ipAddress a = true ∧ '%' ∉ a.toList

/-- The word is read as a number other than zero. -/
def IsId (word : Option String) : Prop := ∃ n ∈ word.bind number, n ≠ 0

/-- A cookie is 8 or 16 hexadecimal digits, if it is given. -/
def IsCookie (word : Option String) : Prop :=
  ∀ digits ∈ word, digits.toList.length = 8 ∨ digits.toList.length = 16

instance (name : String) : Decidable (IsName name) := inferInstanceAs (Decidable (_ ∧ _ ∧ _))

instance (a b : String) : Decidable (AreEnds a b) := inferInstanceAs (Decidable (_ ∧ _))

instance (word : Option String) : Decidable (IsId word) :=
  inferInstanceAs (Decidable (∃ n ∈ word.bind number, n ≠ 0))

instance (word : Option String) : Decidable (IsCookie word) :=
  inferInstanceAs (Decidable (∀ digits ∈ word, _ ∨ _))

/-- The value of a keyword. -/
def option (key : String) : List String → Option String
  | k :: v :: rest => if k = key then some v else option key rest
  | _ => none

/-- The words can be read. -/
def Reads : List String → Prop
  | _ :: "l2tp" :: "add" :: "tunnel" :: options =>
    (∃ a ∈ option "local" options, ∃ b ∈ option "remote" options, AreEnds a b) ∧
      IsId (option "tunnel_id" options) ∧ IsId (option "peer_tunnel_id" options)
  | _ :: "l2tp" :: "add" :: "session" :: options =>
    (∃ name ∈ option "name" options, IsName name) ∧ IsId (option "tunnel_id" options) ∧
      IsId (option "session_id" options) ∧ IsId (option "peer_session_id" options) ∧
      IsCookie (option "cookie" options) ∧ IsCookie (option "peer_cookie" options) ∧
      ∀ l2spec ∈ option "l2spec_type" options, l2spec ∈ ["none", "default"]
  | [_, "link", "set", "dev", name, "up"] => IsName name
  | _ => True

instance : (argv : List String) → Decidable (Reads argv) := by
  intro argv
  unfold Reads
  split <;> infer_instance

/-- It succeeds whenever the words can be read. -/
def plainIp : Iproute where
  outcome _ argv _ := ⟨if Reads argv then 0 else 1, "", ""⟩
  IsName := IsName
  number := number
  AreEnds := AreEnds

instance : DecidablePred plainIp.IsName := fun name => inferInstanceAs (Decidable (IsName name))

instance : DecidableRel plainIp.AreEnds := fun a b => inferInstanceAs (Decidable (AreEnds a b))

theorem refuses_iff (argv : List String) : plainIp.Refuses argv ↔ ¬ Reads argv := by
  by_cases h : Reads argv
  · refine iff_of_false (fun hall => hall 0 {} ?_) (not_not.mpr h)
    exact if_pos h
  · refine iff_of_true (fun n k => ?_) h
    show (if Reads argv then (0 : Int) else 1) ≠ 0
    rw [if_neg h]
    decide

/-- The hexadecimal digits of a cookie can be read exactly when it has one of the two lengths. -/
theorem isCookie_bytesHex (cookie : Bytes) :
    IsCookie (some (bytesHex cookie)) ↔ cookie.length = 4 ∨ cookie.length = 8 := by
  have hlen : (bytesHex cookie).toList.length = 2 * cookie.length := by
    rw [bytesHex, String.toList_ofList]
    simp [List.length_flatMap, Nat.mul_comm]
  simp only [IsCookie, Option.mem_some_iff, forall_eq', hlen]
  omega

/-- The command line of `add_tunnel` can be read exactly when its parameters can. -/
theorem reads_addTunnel (path : String) (params : TunnelParams) :
    Reads (IpCommandDataplane.addTunnelArgv path params) ↔ plainIp.ReadsTunnel params := by
  have hreads : Reads (IpCommandDataplane.addTunnelArgv path params) ↔
      AreEnds params.localAddress params.remoteAddress ∧
        IsId (some (intStr params.localCcidIsBool params.localCcid)) ∧
        IsId (some (toString params.remoteCcid)) := by
    simp [IpCommandDataplane.addTunnelArgv, Reads, option]
  rw [hreads]
  constructor
  · rintro ⟨hends, hlocal, hremote⟩
    exact ⟨hends, hlocal, hremote⟩
  · intro h
    exact ⟨h.ends, h.localCcid, h.remoteCcid⟩

/-- The command line of `add_session` can be read exactly when its parameters can. -/
theorem reads_addSession (path : String) (params : SessionParams) :
    Reads (IpCommandDataplane.addSessionArgv path params) ↔ plainIp.ReadsSession params := by
  have hcookie : ∀ cookie : Option Bytes, IsCookie (cookie.map bytesHex) ↔
      ∀ c ∈ cookie, c.length = 4 ∨ c.length = 8 := by
    intro cookie
    cases cookie with
    | none => simp [IsCookie]
    | some c => simpa using isCookie_bytesHex c
  have hreads : Reads (IpCommandDataplane.addSessionArgv path params) ↔
      IsName params.ifname ∧ IsId (some (intStr params.localCcidIsBool params.localCcid)) ∧
        IsId (some (intStr params.localSidIsBool params.localSid)) ∧
        IsId (some (toString params.remoteSid)) ∧ IsCookie (params.cookie.map bytesHex) ∧
        IsCookie (params.peerCookie.map bytesHex) ∧
        params.l2specType ∈ ["", "none", "default"] := by
    -- the optional keywords are there or not
    obtain ⟨ccid, sid, remoteSid, ifname, cookie, peerCookie, spec, pw, ccidIsBool, sidIsBool⟩ := params
    cases cookie <;> cases peerCookie <;> by_cases hspec : spec = "" <;>
      simp [IpCommandDataplane.addSessionArgv, Reads, option, hspec, IsCookie]
  rw [hreads, hcookie, hcookie]
  constructor
  · rintro ⟨hname, hccid, hsid, hremote, hcookie, hpeer, hspec⟩
    exact ⟨hname, hccid, hsid, hremote, hcookie, hpeer, hspec⟩
  · intro h
    exact ⟨h.ifname, h.localCcid, h.localSid, h.remoteSid, h.cookie, h.peerCookie, h.l2specType⟩

/-- This `ip` is one of those that the manual allows, so the assumptions can be met. -/
theorem plainIp_documented : plainIp.Documented where
  name_length name h := ⟨h.1, h.2.1⟩
  name_plain name hlo hhi hchars := by
    refine ⟨hlo, hhi, fun c hc => ?_⟩
    rcases hchars c hc with halnum | rfl
    · -- neither a slash nor a space is a letter or a digit
      have hno : ∀ d : Char, d.isAlphanum = false → c ≠ d := by
        rintro d hd rfl
        rw [hd] at halnum
        cases halnum
      simp [Char.isWhitespace, hno]
    · decide
  number_decimal n hn := by
    -- a number is written in digits, which are read back
    have hdigits : (toString n).toList.all Char.isDigit = true := by
      rw [List.all_eq_true]
      intro c hc
      have hc' : c ∈ (String.ofList (Nat.toDigits 10 n)).toList := hc
      rw [String.toList_ofList] at hc'
      exact Nat.isDigit_of_mem_toDigits (by decide) (by decide) hc'
    show (if (toString n).toList.all Char.isDigit then _ else none) = _
    rw [if_pos hdigits]
    simp [hn]
  number_true := by decide +kernel
  addTunnel path params _ _ _ := by rw [refuses_iff, reads_addTunnel]
  addSession path params := by rw [refuses_iff, reads_addSession]
  linkUp path name := refuses_iff _

end PlainIp

end L2tpv3d
