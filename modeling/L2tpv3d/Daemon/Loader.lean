import L2tpv3d.Daemon.Config
import L2tpv3d.Py.Dict
import L2tpv3d.Py.Text

/-!
# L2tpv3d — the configuration loader (`config.py`)

From the tree that `tomllib` returns to a `DaemonConfig`. The loader raises `ConfigError`
itself; `int()` and `float()` may raise something else on a value that is no number, and so may
`str()` and a message on an integer that is too long to print. `str()` also follows the nesting of
arrays and tables, and reaches the recursion limit of the interpreter on one that is too deep.
How many levels are left there depends on the interpreter and on what called the loader, so they
are parameters (`StrRoom`) of which nothing is assumed.

The message of a `ConfigError` is kept as data: the table and key it names, and what is wrong
there. `str()` is only applied to find a word or an address. The text of a value that is not a
string is never one of these: a number, a boolean, a list, a table and a date all read
differently.

* `Toml.str` — what `str()` raises; `reprError_eq_none` — nothing, on which values.
* `parse` and what it calls — the loader.
* `parseSession_ok`, `parseTunnel_ok` — what an entry that was accepted satisfies.
* **`accepted_of_parse`** — an accepted configuration is in the ranges the loader checks.
-/

namespace L2tpv3d

open Py

/-- `GlobalConfig` -/
structure GlobalConfig where
  logLevel : String := "info"
  listenAddress : String := "0.0.0.0"
  listenPort : Int := 1701

/-! ## Values

The tree as `tomllib` builds it. A date is kept apart, as nothing can be read from it. -/

/-- A value that `tomllib` returns. -/
inductive Toml where
  | string (s : String)
  | integer (n : Int)
  | float (x : PyFloat)
  | boolean (b : Bool)
  /-- A date, a time or both. -/
  | datetime (iso : String)
  | array (items : List Toml)
  | table (items : List (String × Toml))

/-- A table of the file. -/
abbrev Table := List (String × Toml)

/-- `t.get(key)` -/
def Table.get (t : Table) (key : String) : Option Toml := Dict.lookup key t

/-- `t.get(key, default)` -/
def Table.getOr (t : Table) (key : String) (default : Toml) : Toml := (t.get key).getD default

/-! ## Errors

The exceptions of the loader are data, so that it can be told which one was raised and where. -/

/-- The table that a message names. -/
inductive Place where
  | document
  | global
  | tunnelIndex (index : Nat)
  | tunnel (name : String)
  | sessionIndex (tunnel : String) (index : Nat)
  | session (tunnel name : String)

/-- What a message says about a key. -/
inductive Complaint where
  | invalidToml (reason : String)
  | notUtf8 (reason : String)
  | notATable
  | notAnArray
  | missing
  /-- The type that is wanted, and the value that has another. -/
  | wrongType (kind : String) (got : Toml)
  | invalid (got : Toml)
  | outOfRange
  | notAnAddress (got : Toml)
  | notHex
  | wrongLength (length : Nat)
  | duplicate

/-- `ConfigError` -/
structure ConfigError where
  source : String
  place : Place
  key : String
  complaint : Complaint

/-- What the loader raises: an error of its own, or what a conversion lets through. -/
inductive LoadError where
  | configError (e : ConfigError)
  | valueError
  | typeError
  | overflowError
  | recursionError

/-- `if not c: raise e`. -/
def require (c : Prop) [Decidable c] (e : LoadError) : Except LoadError Unit :=
  if c then .ok () else .error e

@[simp] theorem require_eq_ok {c : Prop} [Decidable c] {e : LoadError} {u : Unit} :
    require c e = .ok u ↔ c := by
  unfold require; split <;> simp_all

/-! ## Conversions

What Python does with a value of any type. Where the source converts before it checks, an exception
of the conversion escapes. -/

/-- `int(v)` -/
def Toml.toInt : Toml → Except LoadError Int
  | .string s =>
    match intOfStr s with
    | some n => .ok n
    | none => .error .valueError
  | .integer n => .ok n
  | .boolean b => .ok (if b then 1 else 0)
  | .float (.finite x) => .ok (x.num.tdiv x.den)
  | .float (.inf _) => .error .overflowError
  | .float .nan => .error .valueError
  | .datetime _ | .array _ | .table _ => .error .typeError

/-- `float(v)` -/
def Toml.toFloat : Toml → Except LoadError PyFloat
  | .string s =>
    match floatOfStr s with
    | some x => .ok x
    | none => .error .valueError
  | .integer n =>
    match PyFloat.ofRat n with
    | .finite x => .ok (.finite x)
    | _ => .error .overflowError
  | .boolean b => .ok (.finite (if b then 1 else 0))
  | .float x => .ok x
  | .datetime _ | .array _ | .table _ => .error .typeError

/-- `bool(v)` -/
def Toml.toBool : Toml → Bool
  | .string s => s ≠ ""
  | .integer n => n ≠ 0
  | .float x => x ≠ .finite 0
  | .boolean b => b
  | .datetime _ => true
  | .array items => !items.isEmpty
  | .table items => !items.isEmpty

/-- `isinstance(v, str)` -/
def Toml.asStr : Toml → Option String
  | .string s => some s
  | _ => none

/-- `isinstance(v, int)`: a `bool` is an `int`. -/
def Toml.asInt : Toml → Option Int
  | .integer n => some n
  | .boolean b => some (if b then 1 else 0)
  | _ => none

/-- `sys.get_int_max_str_digits()` -/
def maxStrDigits : Nat := 4300

/-- `str(n)` returns. -/
def printableInt (n : Int) : Bool := n.natAbs < 10 ^ maxStrDigits

/-- Why a value cannot be printed. -/
inductive ReprError where
  /-- An integer has too many digits. -/
  | tooLong
  /-- The recursion limit is reached. -/
  | tooDeep

/-- The exception that is raised. -/
def ReprError.raises : ReprError → LoadError
  | .tooLong => .valueError
  | .tooDeep => .recursionError

mutual

/-- What printing a value comes upon first, if `room` calls can be nested. There is one call for
the value and one for each of its parts, in their order; a key is a string, for which there is
room if there is for its value. -/
def Toml.reprError : Nat → Toml → Option ReprError
  | 0, _ => some .tooDeep
  | _ + 1, .integer n => if printableInt n then none else some .tooLong
  | room + 1, .array items => itemsReprError room items
  | room + 1, .table items => fieldsReprError room items
  | _ + 1, .string _ => none
  | _ + 1, .float _ => none
  | _ + 1, .boolean _ => none
  | _ + 1, .datetime _ => none

/-- The items of an array, from the first on. -/
def itemsReprError : Nat → List Toml → Option ReprError
  | _, [] => none
  | room, v :: rest => (v.reprError room).or (itemsReprError room rest)

/-- The values of a table, from the first on. -/
def fieldsReprError : Nat → List (String × Toml) → Option ReprError
  | _, [] => none
  | room, (_, v) :: rest => (v.reprError room).or (fieldsReprError room rest)

end

/-- `str(v)`, kept as the value whose text it is. A string is its own text. -/
def Toml.str (room : Nat) : Toml → Except LoadError Toml
  | .string s => .ok (.string s)
  | v =>
    match v.reprError room with
    | some e => .error e.raises
    | none => .ok v

/-- `str(v).lower()`, for a string. -/
def Toml.lower : Toml → Option (List Char)
  | .string s => some (s.toList.map Char.toLower)
  | _ => none

/-- `str(v).lower() == word` -/
def Toml.reads (v : Toml) (word : String) : Bool := v.lower = some word.toList

/-- `ipaddress.ip_address(str(v))` returns. -/
def Toml.isAddress : Toml → Bool
  | .string s => ipAddress s
  | _ => false

/-- The value of a key is a `bool`. -/
def Table.isBool (t : Table) (key : String) : Bool :=
  match t.get key with
  | some (.boolean _) => true
  | _ => false

/-! ## Parsers

The functions of the module, from the helpers up. The order of the statements is that of the source,
as it decides which error is raised. -/

/-- How many calls `str()` can nest before the recursion limit, where the loader prints a value of
a table of each kind. -/
structure StrRoom where
  global : Nat
  tunnel : Nat
  session : Nat

/-- What a limit of 1000 calls leaves to the daemon when a script calls `main`. -/
def StrRoom.usual : StrRoom := ⟨995, 994, 993⟩

section Parsers

variable (source : String) (room : StrRoom)

/-- A `ConfigError` about a key of a table. -/
def fault (place : Place) (key : String) (complaint : Complaint) : LoadError :=
  .configError ⟨source, place, key, complaint⟩

/-- A `ConfigError` whose message prints the integer. -/
def faultInt (place : Place) (key : String) (complaint : Complaint) (n : Int) : LoadError :=
  if printableInt n then fault source place key complaint else .valueError

/-- `req(key, kind)` -/
def req {α : Type} (place : Place) (t : Table) (key kind : String) (cast : Toml → Option α) :
    Except LoadError α :=
  match t.get key with
  | none => .error (fault source place key .missing)
  | some v =>
    match cast v with
    | none => .error (fault source place key (.wrongType kind v))
    | some a => .ok a

/-- An optional key that must have the given type if it is there. -/
def opt {α : Type} (place : Place) (t : Table) (key kind : String) (cast : Toml → Option α) :
    Except LoadError (Option α) :=
  match t.get key with
  | none => .ok none
  | some v =>
    match cast v with
    | none => .error (fault source place key (.wrongType kind v))
    | some a => .ok (some a)

/-- An optional key that is converted with `int()` if it is there. -/
def optInt (t : Table) (key : String) : Except LoadError (Option Int) :=
  match t.get key with
  | none => .ok none
  | some v => v.toInt.map some

/-- `float(t.get(key, default))` and its range check. -/
def interval (place : Place) (key : String) (lo hi : ℚ) (x : PyFloat) : Except LoadError ℚ :=
  match x.between lo hi with
  | some q => .ok q
  | none => .error (fault source place key .outOfRange)

/-- `for i, item in enumerate(section)`: every item must be a table, and its entry must not
`clash` with those before it. -/
def parseEach {α : Type} (notTable : Nat → LoadError) (parse : Nat → Table → Except LoadError α)
    (clash : List α → α → Except LoadError Unit) :
    Nat → List α → List Toml → Except LoadError (List α)
  | _, entries, [] => .ok entries
  | i, entries, .table t :: rest => do
    let entry ← parse i t
    clash entries entry
    parseEach notTable parse clash (i + 1) (entries ++ [entry]) rest
  | i, _, _ :: _ => .error (notTable i)

/-- `_parse_cookie` -/
def parseCookie (raw : Option Toml) (tunnel session key : String) :
    Except LoadError (Option Bytes) :=
  let place := Place.session tunnel session
  match raw with
  | none => .ok none
  | some (.string s) =>
    match fromhex s.toList with
    | none => .error (fault source place key .notHex)
    | some b => do
      require (b.length = 0 ∨ b.length = 4 ∨ b.length = 8)
        (fault source place key (.wrongLength b.length))
      return some b
  | some v => .error (fault source place key (.wrongType "hex string" v))

/-- `_parse_router_id` -/
def parseRouterId (raw : Toml) (tunnelName : String) : Except LoadError Int :=
  let place := Place.tunnel tunnelName
  match raw.asInt, raw with
  | some n, _ => do
    require (0 ≤ n ∧ n ≤ 0xFFFFFFFF) (faultInt source place "router_id" .outOfRange n)
    return n
  | none, .string s =>
    match ipv4Address s.toList with
    | some n => .ok n
    | none => .error (fault source place "router_id" (.notAnAddress raw))
  | none, v => .error (fault source place "router_id" (.wrongType "int or dotted-quad string" v))

/-- The pseudowire type of its word. -/
def parsePseudowireType (place : Place) (raw : Toml) : Except LoadError PseudowireType :=
  if raw.reads "ethernet" then .ok .ethernet
  else if raw.reads "ethernet-vlan" then .ok .ethernetVlan
  else .error (fault source place "pseudowire_type" (.invalid raw))

/-- `_parse_session` -/
def parseSession (s : Table) (tunnel : String) (index : Nat) :
    Except LoadError SessionConfigEntry := do
  let name ← req source (.sessionIndex tunnel index) s "name" "str" Toml.asStr
  let localSid ← req source (.sessionIndex tunnel index) s "local_sid" "int" Toml.asInt
  let pwRaw ← (s.getOr "pseudowire_type" (.string "ethernet")).str room.session
  let place := Place.session tunnel name
  require (0 < localSid ∧ localSid ≤ 0xFFFFFFFF) (fault source place "local_sid" .outOfRange)
  let pseudowireType ← parsePseudowireType source place pwRaw
  let initiator := (s.getOr "initiator" (.boolean true)).toBool
  let l2s ← (s.getOr "l2_specific_sublayer" (.integer 1)).toInt
  require (l2s = 0 ∨ l2s = 1) (fault source place "l2_specific_sublayer" .outOfRange)
  let dataSeq ← (s.getOr "data_sequencing" (.integer 0)).toInt
  require (dataSeq = 0 ∨ dataSeq = 1 ∨ dataSeq = 2)
    (fault source place "data_sequencing" .outOfRange)
  let circuitStatus ← (s.getOr "circuit_status" (.integer 0b11)).toInt
  require (0 ≤ circuitStatus ∧ circuitStatus ≤ 0xFFFF)
    (fault source place "circuit_status" .outOfRange)
  let cookie ← parseCookie source (s.get "cookie") tunnel name "cookie"
  let peerCookie ← parseCookie source (s.get "peer_cookie") tunnel name "peer_cookie"
  let tx ← optInt s "tx_connect_speed"
  let rx ← optInt s "rx_connect_speed"
  let ifname ← opt source place s "ifname" "str" Toml.asStr
  return {
    name := name
    pseudowireType := pseudowireType
    localSid := localSid
    initiator := initiator
    l2SpecificSublayer := l2s
    dataSequencing := dataSeq
    circuitStatus := circuitStatus
    cookie := cookie
    peerCookie := peerCookie
    txConnectSpeed := tx
    rxConnectSpeed := rx
    ifname := ifname
    localSidIsBool := s.isBool "local_sid" }

/-- The password of a tunnel, encoded. -/
def parsePassword (place : Place) (raw : Option Toml) : Except LoadError (Option Bytes) :=
  match raw with
  | none => .ok none
  | some (.string s) =>
    if s = "" then .error (fault source place "password" (.invalid (.string s)))
    else .ok (some (utf8 s))
  | some v => .error (fault source place "password" (.invalid v))

/-- The digest algorithm of its word. -/
def parseDigestAlg (place : Place) (raw : Toml) : Except LoadError DigestHash :=
  if raw.reads "md5" then .ok .hmacMd5
  else if raw.reads "sha1" then .ok .hmacSha1
  else .error (fault source place "digest_alg" (.invalid raw))

/-- The firmware revision, if there is one. -/
def parseFirmware (place : Place) (t : Table) : Except LoadError (Option Int) := do
  let revision ← optInt t "firmware_revision"
  require (∀ r ∈ revision, 0 ≤ r ∧ r ≤ 0xFFFF)
    (fault source place "firmware_revision" .outOfRange)
  return revision

/-- The session sub-blocks: names and local session IDs must be unique within one tunnel. -/
def parseSessions (t : Table) (tunnel : String) : Except LoadError (List SessionConfigEntry) :=
  match t.getOr "session" (.array []) with
  | .array items =>
    parseEach (fun i => fault source (.sessionIndex tunnel i) "session" .notATable)
      (fun i s => parseSession source room s tunnel i)
      (fun entries s => do
        require (s.name ∉ entries.map (·.name)) (fault source (.tunnel tunnel) "name" .duplicate)
        require (s.localSid ∉ entries.map (·.localSid))
          (fault source (.tunnel tunnel) "local_sid" .duplicate)) 0 [] items
  | _ => .error (fault source (.tunnel tunnel) "session" .notAnArray)

/-- `_parse_tunnel` -/
def parseTunnel (t : Table) (index : Nat) : Except LoadError TunnelConfigEntry := do
  let name ← req source (.tunnelIndex index) t "name" "str" Toml.asStr
  let localAddress ← req source (.tunnelIndex index) t "local_address" "str" Toml.asStr
  let remoteAddress ← req source (.tunnelIndex index) t "remote_address" "str" Toml.asStr
  let localCcid ← req source (.tunnelIndex index) t "local_ccid" "int" Toml.asInt
  let hostName ← req source (.tunnelIndex index) t "host_name" "str" Toml.asStr
  let place := Place.tunnel name
  let routerIdRaw ← req source place t "router_id" "" some
  require (ipAddress localAddress)
    (fault source place "local_address" (.notAnAddress (.string localAddress)))
  require (ipAddress remoteAddress)
    (fault source place "remote_address" (.notAnAddress (.string remoteAddress)))
  let routerId ← parseRouterId source routerIdRaw name
  require (0 < localCcid ∧ localCcid ≤ 0xFFFFFFFF)
    (faultInt source place "local_ccid" .outOfRange localCcid)
  let remoteCcid ← (t.getOr "remote_ccid" (.integer 0)).toInt
  require (0 ≤ remoteCcid ∧ remoteCcid ≤ 0xFFFFFFFF)
    (faultInt source place "remote_ccid" .outOfRange remoteCcid)
  let password ← parsePassword source place (t.get "password")
  let digestAlgRaw ← (t.getOr "digest_alg" (.string "md5")).str room.tunnel
  let digestAlg ← parseDigestAlg source place digestAlgRaw
  let helloInterval ← (t.getOr "hello_interval" (.float (.finite 60))).toFloat
  let retransmitInterval ← (t.getOr "retransmit_interval" (.float (.finite 1))).toFloat
  let maxRetries ← (t.getOr "max_retries" (.integer 5)).toInt
  let receiveWindow ← (t.getOr "receive_window" (.integer 4)).toInt
  -- the tunnel's own speeds are converted, and read by nothing
  let _ ← (t.getOr "tx_connect_speed" (.integer 100000000)).toInt
  let _ ← (t.getOr "rx_connect_speed" (.integer 100000000)).toInt
  let helloInterval ← interval source place "hello_interval" 1 3600 helloInterval
  let retransmitInterval ← interval source place "retransmit_interval" 1 8 retransmitInterval
  require (1 ≤ maxRetries ∧ maxRetries ≤ 10) (fault source place "max_retries" .outOfRange)
  require (1 ≤ receiveWindow ∧ receiveWindow ≤ 1024)
    (fault source place "receive_window" .outOfRange)
  let vendorName ← opt source place t "vendor_name" "str" Toml.asStr
  let firmwareRevision ← parseFirmware source place t
  let sessions ← parseSessions source room t name
  return {
    name := name
    localAddress := localAddress
    remoteAddress := remoteAddress
    localCcid := localCcid
    remoteCcid := remoteCcid
    hostName := hostName
    routerId := routerId
    password := password
    digestAlg := digestAlg
    helloInterval := helloInterval
    retransmitInterval := retransmitInterval
    maxRetries := maxRetries
    receiveWindow := receiveWindow
    vendorName := vendorName
    firmwareRevision := firmwareRevision
    sessions := sessions
    localCcidIsBool := t.isBool "local_ccid" }

/-- `_parse_tunnels` -/
def parseTunnels (section_ : Toml) : Except LoadError (List TunnelConfigEntry) :=
  match section_ with
  | .array items =>
    parseEach (fun i => fault source (.tunnelIndex i) "tunnel" .notATable)
      (fun i t => parseTunnel source room t i)
      (fun entries entry => require (entry.name ∉ entries.map (·.name))
        (fault source .document "name" .duplicate)) 0 [] items
  | _ => .error (fault source .document "tunnel" .notAnArray)

/-- `_parse_global` -/
def parseGlobal (section_ : Toml) : Except LoadError GlobalConfig :=
  match section_ with
  | .table t => do
    let level ← (Table.getOr t "log_level" (.string "info")).str room.global
    require (["debug", "info", "warning", "error"].any level.reads)
      (fault source .global "log_level" (.invalid level))
    let port ← (Table.getOr t "listen_port" (.integer 1701)).toInt
    require (1 ≤ port ∧ port ≤ 65535) (faultInt source .global "listen_port" .outOfRange port)
    let addr ← (Table.getOr t "listen_address" (.string "0.0.0.0")).str room.global
    require addr.isAddress (fault source .global "listen_address" (.notAnAddress addr))
    return {
      logLevel := String.ofList (level.lower.getD [])
      listenAddress := addr.asStr.getD ""
      listenPort := port }
  | _ => .error (fault source .document "global" .notATable)

/-- `_parse`, from what `tomllib` made of the file. -/
def parse (loaded : Except Complaint Table) : Except LoadError (GlobalConfig × DaemonConfig) :=
  match loaded with
  | .error complaint => .error (fault source .document "" complaint)
  | .ok data => do
    let global ← parseGlobal source room (data.getOr "global" (.table []))
    let tunnels ← parseTunnels source room (data.getOr "tunnel" (.array []))
    return (global, ⟨tunnels⟩)

end Parsers

/-! ## What can be printed

The recursion of `reprError` is over the value, with the room that is left. What it comes upon is
told by two measures of the value that know nothing of the order. -/

mutual

/-- The calls that printing a value nests: one for itself, and those of its deepest part. -/
def Toml.levels : Toml → Nat
  | .array items => itemsLevels items + 1
  | .table items => fieldsLevels items + 1
  | .string _ => 1
  | .integer _ => 1
  | .float _ => 1
  | .boolean _ => 1
  | .datetime _ => 1

/-- The deepest of the items. -/
def itemsLevels : List Toml → Nat
  | [] => 0
  | v :: rest => max v.levels (itemsLevels rest)

/-- The deepest of the values. -/
def fieldsLevels : List (String × Toml) → Nat
  | [] => 0
  | (_, v) :: rest => max v.levels (fieldsLevels rest)

end

mutual

/-- The value holds no integer that is too long. -/
def Toml.printable : Toml → Bool
  | .integer n => printableInt n
  | .array items => printableItems items
  | .table items => printableFields items
  | .string _ | .float _ | .boolean _ | .datetime _ => true

/-- All of the items. -/
def printableItems : List Toml → Bool
  | [] => true
  | v :: rest => v.printable && printableItems rest

/-- All of the values. -/
def printableFields : List (String × Toml) → Bool
  | [] => true
  | (_, v) :: rest => v.printable && printableFields rest

end

/-- `str(v)` returns. -/
def Toml.prints (room : Nat) : Toml → Bool
  | .string _ => true
  | v => v.levels ≤ room && v.printable

mutual

/-- A value is printed if it is not too deep and holds no integer that is too long. -/
theorem Toml.reprError_eq_none (room : Nat) (v : Toml) :
    v.reprError room = none ↔ v.levels ≤ room ∧ v.printable := by
  cases room with
  | zero => cases v <;> simp [Toml.reprError, Toml.levels]
  | succ room =>
    cases v with
    | array items =>
      rw [Toml.reprError, itemsReprError_eq_none room items]
      simp [Toml.levels, Toml.printable]
    | table items =>
      rw [Toml.reprError, fieldsReprError_eq_none room items]
      simp [Toml.levels, Toml.printable]
    | integer n => simp [Toml.reprError, Toml.levels, Toml.printable]
    | string s => simp [Toml.reprError, Toml.levels, Toml.printable]
    | float x => simp [Toml.reprError, Toml.levels, Toml.printable]
    | boolean b => simp [Toml.reprError, Toml.levels, Toml.printable]
    | datetime iso => simp [Toml.reprError, Toml.levels, Toml.printable]

theorem itemsReprError_eq_none (room : Nat) (items : List Toml) :
    itemsReprError room items = none ↔ itemsLevels items ≤ room ∧ printableItems items := by
  cases items with
  | nil => simp [itemsReprError, itemsLevels, printableItems]
  | cons v rest =>
    rw [itemsReprError, Option.or_eq_none_iff, Toml.reprError_eq_none room v,
      itemsReprError_eq_none room rest]
    simp only [itemsLevels, printableItems, max_le_iff, Bool.and_eq_true]
    exact and_and_and_comm

/-- The fields are printed if each of their values is. -/
theorem fieldsReprError_eq_none (room : Nat) (items : List (String × Toml)) :
    fieldsReprError room items = none ↔ fieldsLevels items ≤ room ∧ printableFields items := by
  cases items with
  | nil => simp [fieldsReprError, fieldsLevels, printableFields]
  | cons field rest =>
    obtain ⟨key, v⟩ := field
    rw [fieldsReprError, Option.or_eq_none_iff, Toml.reprError_eq_none room v,
      fieldsReprError_eq_none room rest]
    simp only [fieldsLevels, printableFields, max_le_iff, Bool.and_eq_true]
    exact and_and_and_comm

end

/-! ## What was accepted

From an entry that was returned back to its table: each field has the value of its key, and has
passed its check. -/

section Accepted

variable {source : String} {place : Place} {t : Table} {key kind : String}

theorem req_ok {α : Type} {cast : Toml → Option α} {a : α}
    (h : req source place t key kind cast = .ok a) : ∃ v, t.get key = some v ∧ cast v = some a := by
  unfold req at h
  split at h
  · cases h
  · rename_i v hget
    split at h
    · cases h
    · rename_i b hcast
      cases h
      exact ⟨v, hget, hcast⟩

theorem asStr_eq_some {v : Toml} {s : String} (h : v.asStr = some s) : v = .string s := by
  cases v <;> cases h
  rfl

theorem req_str_ok {s : String} (h : req source place t key kind Toml.asStr = .ok s) :
    t.get key = some (.string s) := by
  obtain ⟨v, hget, hcast⟩ := req_ok h
  rw [hget, asStr_eq_some hcast]

theorem opt_str_ok {o : Option String} (h : opt source place t key kind Toml.asStr = .ok o) :
    t.get key = o.map .string := by
  unfold opt at h
  split at h
  · rename_i hget
    cases h
    exact hget
  · rename_i v hget
    split at h
    · cases h
    · rename_i s hcast
      cases h
      rw [hget, asStr_eq_some hcast]
      rfl

theorem interval_ok {lo hi q : ℚ} {x : PyFloat} (h : interval source place key lo hi x = .ok q) :
    lo ≤ q ∧ q ≤ hi := by
  unfold interval at h
  split at h
  · cases h
    exact PyFloat.between_eq_some ‹_›
  · cases h

/-- A cookie that was read has one of the three lengths. -/
theorem parseCookie_ok {raw : Option Toml} {tunnel session : String} {o : Option Bytes}
    (h : parseCookie source raw tunnel session key = .ok o) :
    ∀ c ∈ o, c.length = 0 ∨ c.length = 4 ∨ c.length = 8 := by
  unfold parseCookie at h
  -- absent, a text, a value of another type
  split at h
  · cases h
    simp
  · split at h
    · cases h
    · simp only [bind_eq_ok, require_eq_ok] at h
      obtain ⟨-, hlen, h⟩ := h
      cases h
      simpa using hlen
  · cases h

theorem parseRouterId_ok {raw : Toml} {n : Int} (h : parseRouterId source raw key = .ok n) :
    IsU32 n := by
  unfold parseRouterId at h
  split at h
  · simp only [bind_eq_ok, require_eq_ok] at h
    obtain ⟨-, hrange, h⟩ := h
    cases h
    exact hrange
  · split at h
    · rename_i m hm
      cases h
      have := ipv4Address_le hm
      exact ⟨by omega, by omega⟩
    · cases h
  · cases h

/-- The UTF-8 of a text is not empty unless the text is. -/
theorem utf8_ne_nil {s : String} (h : s ≠ "") : utf8 s ≠ [] := by
  intro hnil
  have hsize : s.utf8ByteSize = 0 := by
    show s.toUTF8.data.size = 0
    rw [← Array.length_toList]
    exact congrArg List.length hnil
  exact h (String.utf8ByteSize_eq_zero_iff.mp hsize)

theorem parsePassword_ok {raw : Option Toml} {o : Option Bytes}
    (h : parsePassword source place raw = .ok o) : o ≠ some [] := by
  unfold parsePassword at h
  split at h
  · cases h
    simp
  · split at h
    · cases h
    · rename_i hne
      cases h
      simpa using utf8_ne_nil hne
  · cases h

/-- A firmware revision that was read is a 16-bit number. -/
theorem parseFirmware_ok {o : Option Int} (h : parseFirmware source place t = .ok o) :
    ∀ r ∈ o, IsU16 r := by
  simp only [parseFirmware, bind_eq_ok, require_eq_ok] at h
  obtain ⟨revision, -, -, hrange, h⟩ := h
  cases h
  exact hrange

end Accepted

/-- What the one list has, the other has the counterpart of. -/
theorem forall₂_mem {α β : Type} {R : α → β → Prop} {as : List α} {bs : List β} {a : α}
    (h : List.Forall₂ R as bs) (ha : a ∈ as) : ∃ b ∈ bs, R a b := by
  induction h with
  | nil => cases ha
  | @cons a' b' as bs hab _ ih =>
    rcases List.mem_cons.mp ha with rfl | ha
    · exact ⟨b', List.mem_cons_self, hab⟩
    · obtain ⟨b, hb, hr⟩ := ih ha
      exact ⟨b, List.mem_cons_of_mem _ hb, hr⟩

/-- **The loop over a section**: one entry for each item, in order, each a table that was parsed;
what no entry shares with an earlier one, no two entries share. -/
theorem parseEach_ok {α : Type} {notTable : Nat → LoadError}
    {parse : Nat → Table → Except LoadError α} {clash : List α → α → Except LoadError Unit}
    {R : Table → α → Prop} (hparse : ∀ i t entry, parse i t = .ok entry → R t entry)
    {items : List Toml} {i : Nat} {seen entries : List α}
    (h : parseEach notTable parse clash i seen items = .ok entries) :
    (∃ new, entries = seen ++ new ∧
      List.Forall₂ (fun item entry => ∃ t, item = .table t ∧ R t entry) items new) ∧
    ∀ {β : Type} (f : α → β), (∀ es e, clash es e = .ok () → f e ∉ es.map f) →
      (seen.map f).Nodup → (entries.map f).Nodup := by
  -- on the items left: the entries read so far are in `seen`
  induction items generalizing i seen with
  | nil =>
    cases h
    exact ⟨⟨[], by simp⟩, fun f _ hseen => hseen⟩
  | cons item rest ih =>
    cases item with
    | table t =>
      simp only [parseEach, bind_eq_ok] at h
      obtain ⟨entry, hentry, ⟨⟩, hclash, hrest⟩ := h
      obtain ⟨⟨new, rfl, hnew⟩, hnodup⟩ := ih hrest
      refine ⟨⟨entry :: new, by simp, .cons ⟨t, rfl, hparse i t entry hentry⟩ hnew⟩, ?_⟩
      intro β f hfresh hseen
      refine hnodup f hfresh ?_
      rw [List.map_append, List.map_singleton, List.nodup_append_comm]
      exact List.nodup_cons.mpr ⟨hfresh _ _ hclash, hseen⟩
    | string _ => cases h
    | integer _ => cases h
    | float _ => cases h
    | boolean _ => cases h
    | datetime _ => cases h
    | array _ => cases h

/-- An ID of a `bool` that is in range is `True`. -/
theorem one_of_isBool {source key kind : String} {place : Place} {t : Table} {n : Int}
    (h : req source place t key kind Toml.asInt = .ok n) (hpos : 0 < n)
    (hbool : t.isBool key = true) : n = 1 := by
  obtain ⟨v, hget, hcast⟩ := req_ok h
  rw [Table.isBool, hget] at hbool
  -- only a boolean is read as one, and `False` is 0
  cases v with
  | boolean b =>
    cases b with
    | false =>
      cases hcast
      omega
    | true =>
      cases hcast
      rfl
  | _ => cases hbool

/-- What an accepted session keeps of its table. -/
structure ReadSession (s : Table) (entry : SessionConfigEntry) : Prop where
  accepted : entry.Accepted
  name : s.get "name" = some (.string entry.name)
  initiator : entry.initiator = (s.getOr "initiator" (.boolean true)).toBool
  txConnectSpeed : optInt s "tx_connect_speed" = .ok entry.txConnectSpeed
  rxConnectSpeed : optInt s "rx_connect_speed" = .ok entry.rxConnectSpeed

/-- What an accepted tunnel keeps of its table. -/
structure ReadTunnel (t : Table) (entry : TunnelConfigEntry) : Prop where
  accepted : entry.Accepted
  hostName : t.get "host_name" = some (.string entry.hostName)
  vendorName : t.get "vendor_name" = entry.vendorName.map .string
  sessions : ∃ items, t.getOr "session" (.array []) = .array items ∧
    List.Forall₂ (fun item scfg => ∃ s, item = .table s ∧ ReadSession s scfg) items entry.sessions

/-- **A session that was parsed** has passed its checks. -/
theorem parseSession_ok {source tunnel : String} {room : StrRoom} {s : Table} {index : Nat}
    {entry : SessionConfigEntry} (h : parseSession source room s tunnel index = .ok entry) :
    ReadSession s entry := by
  simp only [parseSession, bind_eq_ok, require_eq_ok] at h
  obtain ⟨name, hname, localSid, hread, pwRaw, -, -, hsid, pw, -, l2s, -, -, hl2s, dataSeq, -, -, hseq, status, -,
    -, hstatus, cookie, hcookie, peerCookie, hpeer, tx, htx, rx, hrx, ifname, -, hentry⟩ := h
  cases hentry
  exact ⟨⟨hsid, hl2s, hseq, hstatus, parseCookie_ok hcookie, parseCookie_ok hpeer,
    one_of_isBool hread hsid.1⟩, req_str_ok hname, rfl, htx, hrx⟩

/-- The sessions of a tunnel: one for each table, with names and session IDs of their own. -/
theorem parseSessions_ok {source tunnel : String} {room : StrRoom} {t : Table}
    {entries : List SessionConfigEntry} (h : parseSessions source room t tunnel = .ok entries) :
    (∃ items, t.getOr "session" (.array []) = .array items ∧
      List.Forall₂ (fun item scfg => ∃ s, item = .table s ∧ ReadSession s scfg) items entries) ∧
    (entries.map (·.name)).Nodup ∧ (entries.map (·.localSid)).Nodup := by
  unfold parseSessions at h
  split at h
  · rename_i items hitems
    obtain ⟨⟨new, rfl, hnew⟩, hnodup⟩ := parseEach_ok (R := ReadSession)
      (fun i s entry hparse => parseSession_ok hparse) h
    simp only [bind_eq_ok, require_eq_ok] at hnodup
    refine ⟨⟨items, hitems, hnew⟩, ?_, ?_⟩
    · exact hnodup (·.name) (fun es e hfresh => hfresh.choose_spec.1) List.nodup_nil
    · exact hnodup (·.localSid) (fun es e hfresh => hfresh.choose_spec.2) List.nodup_nil
  · cases h

/-- **A tunnel that was parsed** has passed its checks, and so have its sessions. -/
theorem parseTunnel_ok {source : String} {room : StrRoom} {t : Table} {index : Nat}
    {entry : TunnelConfigEntry} (h : parseTunnel source room t index = .ok entry) :
    ReadTunnel t entry := by
  simp only [parseTunnel, bind_eq_ok, require_eq_ok] at h
  obtain ⟨name, -, localAddress, -, remoteAddress, -, localCcid, hreq, hostName, hhost, routerIdRaw, -,
    -, -, -, -, routerId, hrouter, -, hccid, remoteCcid, -, -, hremote, password, hpassword,
    digestAlgRaw, -, digestAlg, -, hello, -, retransmit, -, maxRetries, -, window, -, -, -, -, -, helloInterval,
    hhello, retransmitInterval, hretransmit, -, hretries, -, hwindow, vendorName, hvendor,
    firmware, hfirmware, sessions, hsessions, hentry⟩ := h
  cases hentry
  obtain ⟨hread, hnames, hsids⟩ := parseSessions_ok hsessions
  refine ⟨⟨hccid, hremote, parseRouterId_ok hrouter, parsePassword_ok hpassword,
    interval_ok hhello, interval_ok hretransmit, hretries, hwindow, parseFirmware_ok hfirmware,
    ?_, hnames, hsids, one_of_isBool hreq hccid.1⟩, req_str_ok hhost, opt_str_ok hvendor, hread⟩
  intro scfg hscfg
  obtain ⟨items, -, hall⟩ := hread
  obtain ⟨item, -, s, -, hs⟩ := forall₂_mem hall.flip hscfg
  exact hs.accepted

/-- The tunnels of a file that was accepted: one for each table of the array, parsed from it, with
a name of its own. -/
theorem parse_tunnels {source : String} {room : StrRoom} {data : Table} {global : GlobalConfig}
    {cfg : DaemonConfig} {R : Table → TunnelConfigEntry → Prop}
    (hR : ∀ i t entry, parseTunnel source room t i = .ok entry → R t entry)
    (h : parse source room (.ok data) = .ok (global, cfg)) :
    (∃ items, data.getOr "tunnel" (.array []) = .array items ∧
      List.Forall₂ (fun item t => ∃ s, item = .table s ∧ R s t) items cfg.tunnels) ∧
    (cfg.tunnels.map (·.name)).Nodup := by
  simp only [parse, bind_eq_ok] at h
  obtain ⟨global, -, tunnels, htunnels, hcfg⟩ := h
  cases hcfg
  unfold parseTunnels at htunnels
  split at htunnels
  · rename_i items hitems
    obtain ⟨⟨new, rfl, hnew⟩, hnodup⟩ := parseEach_ok hR htunnels
    refine ⟨⟨items, hitems, hnew⟩, hnodup (·.name) ?_ List.nodup_nil⟩
    intro es e hfresh
    exact require_eq_ok.mp hfresh
  · cases htunnels

/-- **What `_parse` accepts**: one tunnel for each table of the array, read from it, with a name of
its own. -/
theorem parse_ok {source : String} {room : StrRoom} {data : Table} {global : GlobalConfig}
    {cfg : DaemonConfig} (h : parse source room (.ok data) = .ok (global, cfg)) :
    (∃ items, data.getOr "tunnel" (.array []) = .array items ∧
      List.Forall₂ (fun item t => ∃ s, item = .table s ∧ ReadTunnel s t) items cfg.tunnels) ∧
    (cfg.tunnels.map (·.name)).Nodup :=
  parse_tunnels (fun _ _ _ hparse => parseTunnel_ok hparse) h

/-- **An accepted configuration is in the ranges that the loader checks.** -/
theorem accepted_of_parse {source : String} {room : StrRoom} {data : Table}
    {global : GlobalConfig} {cfg : DaemonConfig}
    (h : parse source room (.ok data) = .ok (global, cfg)) : cfg.Accepted := by
  obtain ⟨⟨items, -, hall⟩, hnames⟩ := parse_ok h
  refine ⟨fun t ht => ?_, hnames⟩
  obtain ⟨item, -, s, -, hread⟩ := forall₂_mem hall.flip ht
  exact hread.accepted

end L2tpv3d
