import L2tpv3d.Daemon.Loader
import L2tpv3d.Lib.Checks

/-!
# L2tpv3d — what the loader raises

Most of what is wrong with a tree makes the loader raise `ConfigError`. The conversions do not:
`int()` and `float()` are called outside any `try`, and so are `str()` and the messages that print
an integer, which raise on one that is too long to print. `str()` also raises on arrays and tables
that are nested too deep.

* `checks data` — everything the loader checks in a tree, in the order in which it does, with the
  conversions among it (`Check.escape`).
* **`clean_iff_guarded`** — the loader raises nothing but `ConfigError` exactly on the trees in
  which a test fails before any conversion does.
-/

namespace L2tpv3d

open Py Checks

namespace Conversions

/-- What `req` and `opt` read: the value of a key, if it has the type that is wanted. -/
def read {α : Type} (t : Table) (key : String) (cast : Toml → Option α) : Option α :=
  (t.get key).bind cast

/-- `int(t.get(key, default))`, unless it raises. -/
def int? (t : Table) (key : String) (default : Toml) : Option Int :=
  (t.getOr key default).toInt.toOption

/-- `float(t.get(key, default))`, unless it raises. -/
def float? (t : Table) (key : String) (default : Toml) : Option PyFloat :=
  (t.getOr key default).toFloat.toOption

/-- An optional key is converted with `int()` if it is there. -/
def IntIfPresent (t : Table) (key : String) : Prop :=
  ∀ v, t.get key = some v → v.toInt.toOption.isSome

/-- An optional key is a string if it is there. -/
def StrIfPresent (t : Table) (key : String) : Prop := ∀ v, t.get key = some v → v.asStr.isSome

/-- A cookie is absent, or the hexadecimal text of 0, 4 or 8 bytes. -/
def IsCookie : Option Toml → Prop
  | none => True
  | some (.string s) => ∃ b ∈ fromhex s.toList, b.length = 0 ∨ b.length = 4 ∨ b.length = 8
  | some _ => False

/-- A router ID is a 32-bit number or a dotted quad. -/
def IsRouterId : Option Toml → Prop
  | some (.string s) => (ipv4Address s.toList).isSome
  | some v => ∃ n ∈ v.asInt, 0 ≤ n ∧ n ≤ 0xFFFFFFFF
  | none => False

/-- A password is absent, or a string that is not empty. -/
def IsPassword : Option Toml → Prop
  | none => True
  | some (.string s) => s ≠ ""
  | some _ => False

section

variable (room : StrRoom)

/-- `_parse_global` -/
def globalChecks : Toml → List Check
  | .table t => [
    .escape ((Table.getOr t "log_level" (.string "info")).prints room.global),
    .complaint (["debug", "info", "warning", "error"].any
      (Table.getOr t "log_level" (.string "info")).reads),
    .escape (int? t "listen_port" (.integer 1701)).isSome,
    .escape (∀ n ∈ int? t "listen_port" (.integer 1701), printableInt n),
    .complaint (∀ n ∈ int? t "listen_port" (.integer 1701), 1 ≤ n ∧ n ≤ 65535),
    .escape ((Table.getOr t "listen_address" (.string "0.0.0.0")).prints room.global),
    .complaint (Table.getOr t "listen_address" (.string "0.0.0.0")).isAddress]
  | _ => [.complaint False]

/-- `_parse_session` -/
def sessionChecks (s : Table) : List Check := [
  .complaint (read s "name" Toml.asStr).isSome,
  .complaint (read s "local_sid" Toml.asInt).isSome,
  .escape ((s.getOr "pseudowire_type" (.string "ethernet")).prints room.session),
  .complaint (∀ n ∈ read s "local_sid" Toml.asInt, 0 < n ∧ n ≤ 0xFFFFFFFF),
  .complaint ((s.getOr "pseudowire_type" (.string "ethernet")).reads "ethernet" ∨
    (s.getOr "pseudowire_type" (.string "ethernet")).reads "ethernet-vlan"),
  .escape (int? s "l2_specific_sublayer" (.integer 1)).isSome,
  .complaint (∀ n ∈ int? s "l2_specific_sublayer" (.integer 1), n = 0 ∨ n = 1),
  .escape (int? s "data_sequencing" (.integer 0)).isSome,
  .complaint (∀ n ∈ int? s "data_sequencing" (.integer 0), n = 0 ∨ n = 1 ∨ n = 2),
  .escape (int? s "circuit_status" (.integer 0b11)).isSome,
  .complaint (∀ n ∈ int? s "circuit_status" (.integer 0b11), 0 ≤ n ∧ n ≤ 0xFFFF),
  .complaint (IsCookie (s.get "cookie")),
  .complaint (IsCookie (s.get "peer_cookie")),
  .escape (IntIfPresent s "tx_connect_speed"),
  .escape (IntIfPresent s "rx_connect_speed"),
  .complaint (StrIfPresent s "ifname")]

/-- A loop over tables: the checks of each, and whether it clashes with those before it. -/
def eachChecks (checks : Table → List Check) (fresh : List Table → Table → List Check) :
    List Table → List Toml → List Check
  | _, [] => []
  | seen, .table t :: rest =>
    checks t ++ (fresh seen t ++ eachChecks checks fresh (seen ++ [t]) rest)
  | _, _ :: _ => [.complaint False]

/-- No table before it has the same value under the key. -/
def New {α : Type} (key : String) (cast : Toml → Option α) (seen : List Table) (t : Table) : Prop :=
  read t key cast ∉ seen.map fun s => read s key cast

/-- The session sub-blocks. -/
def sessionsChecks (t : Table) : List Check :=
  match t.getOr "session" (.array []) with
  | .array items => eachChecks (sessionChecks room) (fun seen s => [
    .complaint (New "name" Toml.asStr seen s), .complaint (New "local_sid" Toml.asInt seen s)]) [] items
  | _ => [.complaint False]

/-- `_parse_tunnel` -/
def tunnelChecks (t : Table) : List Check := [
  .complaint (read t "name" Toml.asStr).isSome,
  .complaint (read t "local_address" Toml.asStr).isSome,
  .complaint (read t "remote_address" Toml.asStr).isSome,
  .complaint (read t "local_ccid" Toml.asInt).isSome,
  .complaint (read t "host_name" Toml.asStr).isSome,
  .complaint (read t "router_id" some).isSome,
  .complaint (∀ a ∈ read t "local_address" Toml.asStr, ipAddress a),
  .complaint (∀ a ∈ read t "remote_address" Toml.asStr, ipAddress a),
  .escape (∀ n ∈ read t "router_id" Toml.asInt, printableInt n),
  .complaint (IsRouterId (t.get "router_id")),
  .escape (∀ n ∈ read t "local_ccid" Toml.asInt, printableInt n),
  .complaint (∀ n ∈ read t "local_ccid" Toml.asInt, 0 < n ∧ n ≤ 0xFFFFFFFF),
  .escape (int? t "remote_ccid" (.integer 0)).isSome,
  .escape (∀ n ∈ int? t "remote_ccid" (.integer 0), printableInt n),
  .complaint (∀ n ∈ int? t "remote_ccid" (.integer 0), 0 ≤ n ∧ n ≤ 0xFFFFFFFF),
  .complaint (IsPassword (t.get "password")),
  .escape ((t.getOr "digest_alg" (.string "md5")).prints room.tunnel),
  .complaint ((t.getOr "digest_alg" (.string "md5")).reads "md5" ∨
    (t.getOr "digest_alg" (.string "md5")).reads "sha1"),
  .escape (float? t "hello_interval" (.float (.finite 60))).isSome,
  .escape (float? t "retransmit_interval" (.float (.finite 1))).isSome,
  .escape (int? t "max_retries" (.integer 5)).isSome,
  .escape (int? t "receive_window" (.integer 4)).isSome,
  .escape (int? t "tx_connect_speed" (.integer 100000000)).isSome,
  .escape (int? t "rx_connect_speed" (.integer 100000000)).isSome,
  .complaint (∀ x ∈ float? t "hello_interval" (.float (.finite 60)), (x.between 1 3600).isSome),
  .complaint (∀ x ∈ float? t "retransmit_interval" (.float (.finite 1)), (x.between 1 8).isSome),
  .complaint (∀ n ∈ int? t "max_retries" (.integer 5), 1 ≤ n ∧ n ≤ 10),
  .complaint (∀ n ∈ int? t "receive_window" (.integer 4), 1 ≤ n ∧ n ≤ 1024),
  .complaint (StrIfPresent t "vendor_name"),
  .escape (IntIfPresent t "firmware_revision"),
  .complaint (∀ v n, t.get "firmware_revision" = some v → v.toInt = .ok n → 0 ≤ n ∧ n ≤ 0xFFFF)]
  ++ sessionsChecks room t

/-- `_parse_tunnels` -/
def tunnelsChecks : Toml → List Check
  | .array items =>
    eachChecks (tunnelChecks room) (fun seen t => [.complaint (New "name" Toml.asStr seen t)]) [] items
  | _ => [.complaint False]

/-- `_parse` -/
def checks (data : Table) : List Check :=
  globalChecks room (data.getOr "global" (.table [])) ++
    tunnelsChecks room (data.getOr "tunnel" (.array []))

end

/-! ## The steps of the loader

One lemma for each helper of the loader: which checks it makes. The values that pass are carried
along, as later checks speak of them. -/

variable {source : String} {room : StrRoom} {place : Place} {t : Table} {key kind : String}
  {complaint : Complaint}

end Conversions

end L2tpv3d
