import L2tpv3d.Daemon.Loader

/-!
# L2tpv3d — which configurations a file can load as

The loader accepts a configuration for what it finds in a table; here for what it is. Any entry in
the checked ranges, with addresses and texts that can be read, is what some table loads as.

* `TunnelConfigEntry.Loadable`, `DaemonConfig.Loadable` — such configurations.
* `tableOf` — a table in which some keys are missing; `sessionFields`, `tunnelFields`,
  `globalFields` — the tables that load as a given entry.
* `parseSession_fields`, `exists_parseTunnel` — one entry; `exists_parseEach` — a section.
* **`loads_iff`** — a file.
-/

namespace L2tpv3d

open Py

/-- What `_parse_global` checks. -/
structure GlobalConfig.Accepted (global : GlobalConfig) : Prop where
  logLevel : global.logLevel ∈ ["debug", "info", "warning", "error"]
  listenAddress : ipAddress global.listenAddress
  listenPort : 1 ≤ global.listenPort ∧ global.listenPort ≤ 65535

/-- The tunnel is accepted, and its texts are what the loader reads: addresses, and a password that
is the encoding of a text. -/
structure TunnelConfigEntry.Loadable (cfg : TunnelConfigEntry) : Prop where
  accepted : cfg.Accepted
  localAddress : ipAddress cfg.localAddress
  remoteAddress : ipAddress cfg.remoteAddress
  password : ∀ b ∈ cfg.password, ∃ text, b = utf8 text

/-- A configuration all of whose tunnels are, with names of their own. -/
structure DaemonConfig.Loadable (cfg : DaemonConfig) : Prop where
  tunnels : ∀ t ∈ cfg.tunnels, t.Loadable
  names : (cfg.tunnels.map (·.name)).Nodup

namespace Loadable

/-! ## Tables

A table with chosen keys is read key by key. One lemma for each kind of field. -/

/-- A table with the keys that have a value. -/
def tableOf (fields : List (String × Option Toml)) : Table :=
  fields.filterMap fun field => field.2.map fun v => (field.1, v)

/-- A table of fields has the keys whose values are there. -/
theorem get_tableOf {fields : List (String × Option Toml)} (hnd : (fields.map Prod.fst).Nodup)
    (key : String) : (tableOf fields).get key = (Dict.lookup key fields).join := by
  induction fields with
  | nil => rfl
  | cons field fields ih =>
    obtain ⟨k, o⟩ := field
    obtain ⟨hk, hnd⟩ := List.nodup_cons.mp hnd
    have hrest := ih hnd
    rw [Dict.lookup]
    cases o with
    | none =>
      -- a key without a value is left out, and by `hnd` it does not come again
      have hskip : tableOf ((k, none) :: fields) = tableOf fields := rfl
      rw [hskip, hrest]
      split
      · rename_i heq
        subst heq
        cases hlookup : Dict.lookup k fields with
        | none => rfl
        | some o => exact absurd (List.mem_map_of_mem (Dict.mem_of_lookup hlookup)) hk
      · rfl
    | some v =>
      have hcons : tableOf ((k, some v) :: fields) = (k, v) :: tableOf fields := rfl
      rw [hcons, Table.get, Dict.lookup]
      split
      · rfl
      · exact hrest

section Readers

variable {source key kind : String} {place : Place} {t : Table}

/-- A required key that is there and can be cast. -/
theorem req_of_get {α : Type} {cast : Toml → Option α} {v : Toml} {a : α} (h : t.get key = some v)
    (hcast : cast v = some a) : req source place t key kind cast = .ok a := by
  rw [req, h]
  simp only [hcast]

/-- A text is printed as it is. -/
theorem str_of_get {text : String} {default : Toml} {room : Nat}
    (h : t.get key = some (.string text)) :
    (t.getOr key default).str room = .ok (.string text) := by
  rw [Table.getOr, h]
  rfl

/-- An integer converts to itself. -/
theorem toInt_of_get {n : Int} {default : Toml} (h : t.get key = some (.integer n)) :
    (t.getOr key default).toInt = .ok n := by
  rw [Table.getOr, h]
  rfl

/-- A float converts to itself. -/
theorem toFloat_of_get {x : PyFloat} {default : Toml} (h : t.get key = some (.float x)) :
    (t.getOr key default).toFloat = .ok x := by
  rw [Table.getOr, h]
  rfl

/-- A finite number in the range. -/
theorem interval_of_between {lo hi x : ℚ} (h : lo ≤ x ∧ x ≤ hi) :
    interval source place key lo hi (.finite x) = .ok x := by
  rw [interval, PyFloat.between, if_pos h]

theorem parseRouterId_of_range {n : Int} (h : IsU32 n) (name : String) :
    parseRouterId source (.integer n) name = .ok n := by
  simp only [parseRouterId, Toml.asInt, bind_eq_ok, require_eq_ok]
  exact ⟨(), h, rfl⟩

/-- A password is read back as the encoding of its text. -/
theorem parsePassword_of_get {o : Option String} (h : t.get key = o.map .string)
    (hne : ∀ text ∈ o, text ≠ "") : parsePassword source place (t.get key) = .ok (o.map utf8) := by
  rw [h]
  cases o with
  | none => rfl
  | some text => exact if_neg (hne text rfl)

/-- An ID, as it stands in a table. -/
def idValue (isBool : Bool) (n : Int) : Toml := if isBool then .boolean true else .integer n

/-- An ID is read back, if one that is a `bool` is `True`. -/
theorem asInt_idValue {isBool : Bool} {n : Int} (h : isBool = true → n = 1) :
    (idValue isBool n).asInt = some n := by
  cases isBool with
  | false => rfl
  | true => rw [h rfl]; rfl

/-- And so is whether it is a `bool`. -/
theorem isBool_of_get {isBool : Bool} {n : Int} (h : t.get key = some (idValue isBool n)) :
    t.isBool key = isBool := by
  rw [Table.isBool, h]
  cases isBool <;> rfl

theorem opt_of_get {α : Type} {cast : Toml → Option α} {write : α → Toml} {o : Option α}
    (h : t.get key = o.map write) (hcast : ∀ a, cast (write a) = some a) :
    opt source place t key kind cast = .ok o := by
  rw [opt, h]
  cases o with
  | none => rfl
  | some a => simp only [Option.map_some, hcast]

/-- A cookie is read back from its hexadecimal digits. -/
theorem parseCookie_of_get {o : Option Bytes} (tunnel session : String)
    (h : t.get key = o.map fun c => .string (bytesHex c))
    (hlen : ∀ c ∈ o, c.length = 0 ∨ c.length = 4 ∨ c.length = 8) :
    parseCookie source (t.get key) tunnel session key = .ok o := by
  rw [h]
  cases o with
  | none => rfl
  | some c =>
    simp only [Option.map_some, parseCookie, fromhex_bytesHex, bind_eq_ok, require_eq_ok]
    exact ⟨(), hlen c rfl, rfl⟩

theorem optInt_of_get {o : Option Int} (h : t.get key = o.map .integer) : optInt t key = .ok o := by
  rw [optInt, h]
  cases o <;> rfl

end Readers

/-! ## Sessions

The table has a value for every key that the parser looks up and the entry has a value for. -/

/-- The word of a pseudowire type. -/
def pseudowireWord : PseudowireType → String
  | .ethernet => "ethernet"
  | .ethernetVlan => "ethernet-vlan"

/-- The table of a session: every key that `_parse_session` reads. -/
def sessionFields (s : SessionConfigEntry) : List (String × Option Toml) := [
  ("name", some (.string s.name)),
  ("local_sid", some (idValue s.localSidIsBool s.localSid)),
  ("pseudowire_type", some (.string (pseudowireWord s.pseudowireType))),
  ("initiator", some (.boolean s.initiator)),
  ("l2_specific_sublayer", some (.integer s.l2SpecificSublayer)),
  ("data_sequencing", some (.integer s.dataSequencing)),
  ("circuit_status", some (.integer s.circuitStatus)),
  ("cookie", s.cookie.map fun c => .string (bytesHex c)),
  ("peer_cookie", s.peerCookie.map fun c => .string (bytesHex c)),
  ("tx_connect_speed", s.txConnectSpeed.map .integer),
  ("rx_connect_speed", s.rxConnectSpeed.map .integer),
  ("ifname", s.ifname.map .string)]

/-- **An accepted session** is read back from its table. -/
theorem parseSession_fields {s : SessionConfigEntry} (h : s.Accepted) (source : String)
    (room : StrRoom) (tunnel : String) (index : Nat) :
    parseSession source room (tableOf (sessionFields s)) tunnel index = .ok s := by
  have hnd : ((sessionFields s).map Prod.fst).Nodup := by
    show ["name", "local_sid", "pseudowire_type", "initiator", "l2_specific_sublayer",
      "data_sequencing", "circuit_status", "cookie", "peer_cookie", "tx_connect_speed",
      "rx_connect_speed", "ifname"].Nodup
    decide
  have hget : ∀ key, (tableOf (sessionFields s)).get key = (Dict.lookup key (sessionFields s)).join :=
    get_tableOf hnd
  simp only [parseSession, bind_eq_ok, require_eq_ok]
  -- key by key, in the order of the parser
  refine ⟨s.name, req_of_get (hget _) rfl, s.localSid, req_of_get (hget _) (asInt_idValue h.localSidIsBool),
    .string (pseudowireWord s.pseudowireType), str_of_get (hget _), (), h.localSid,
    s.pseudowireType, ?_, s.l2SpecificSublayer, toInt_of_get (hget _), (), h.l2SpecificSublayer,
    s.dataSequencing, toInt_of_get (hget _), (), h.dataSequencing,
    s.circuitStatus, toInt_of_get (hget _), (), h.circuitStatus,
    s.cookie, parseCookie_of_get tunnel s.name (hget _) h.cookie,
    s.peerCookie, parseCookie_of_get tunnel s.name (hget _) h.peerCookie,
    s.txConnectSpeed, optInt_of_get (hget _), s.rxConnectSpeed, optInt_of_get (hget _),
    s.ifname, opt_of_get (hget _) fun _ => rfl, ?_⟩
  · cases s.pseudowireType <;> rfl
  · rw [Table.getOr, hget, isBool_of_get (hget "local_sid")]
    rfl

/-! ## Loops

A section is read entry by entry, and each is compared with those before it. -/

/-- The loop over a section can return any entries of which each can be read and does not clash
with those before it. -/
theorem exists_parseEach {α : Type} {notTable : Nat → LoadError}
    {parse : Nat → Table → Except LoadError α} {clash : List α → α → Except LoadError Unit}
    {new : List α} (hparse : ∀ e ∈ new, ∃ t, ∀ i, parse i t = .ok e) (i : Nat) (seen : List α)
    (hclash : ∀ es e rest, seen ++ new = es ++ e :: rest → clash es e = .ok ()) :
    ∃ items, parseEach notTable parse clash i seen items = .ok (seen ++ new) := by
  induction new generalizing i seen with
  | nil => exact ⟨[], by rw [parseEach, List.append_nil]⟩
  | cons e new ih =>
    obtain ⟨t, ht⟩ := hparse e List.mem_cons_self
    have hsplit : seen ++ e :: new = (seen ++ [e]) ++ new := by simp
    obtain ⟨items, hitems⟩ := ih (fun e' he' => hparse e' (List.mem_cons_of_mem e he')) (i + 1)
      (seen ++ [e]) (hsplit ▸ hclash)
    refine ⟨.table t :: items, ?_⟩
    simp only [parseEach, bind_eq_ok]
    exact ⟨e, ht i, (), hclash seen e new rfl, hsplit ▸ hitems⟩

/-- Distinct entries do not clash. -/
theorem fresh_of_nodup {α β : Type} {f : α → β} {entries : List α} (hnd : (entries.map f).Nodup)
    {es rest : List α} {e : α} (hsplit : entries = es ++ e :: rest) : f e ∉ es.map f := by
  subst hsplit
  rw [List.map_append, List.map_cons] at hnd
  intro hmem
  exact (List.nodup_append.mp hnd).2.2 _ hmem _ List.mem_cons_self rfl

/-- **The sessions of a tunnel** are read back from the list of their tables. -/
theorem exists_parseSessions {entries : List SessionConfigEntry} (hacc : ∀ s ∈ entries, s.Accepted)
    (hnames : (entries.map (·.name)).Nodup) (hsids : (entries.map (·.localSid)).Nodup)
    (source : String) (room : StrRoom) (tunnel : String) : ∃ items, ∀ t : Table,
      t.getOr "session" (.array []) = .array items →
        parseSessions source room t tunnel = .ok entries := by
  obtain ⟨items, hitems⟩ : ∃ items, parseEach
      (fun i => fault source (.sessionIndex tunnel i) "session" .notATable)
      (fun i s => parseSession source room s tunnel i)
      (fun entries s => do
        require (s.name ∉ entries.map (·.name)) (fault source (.tunnel tunnel) "name" .duplicate)
        require (s.localSid ∉ entries.map (·.localSid))
          (fault source (.tunnel tunnel) "local_sid" .duplicate)) 0 [] items = .ok ([] ++ entries) := by
    refine exists_parseEach
      (fun s hs => ⟨_, parseSession_fields (hacc s hs) source room tunnel⟩) 0 [] ?_
    intro es e rest hsplit
    simp only [bind_eq_ok, require_eq_ok]
    exact ⟨(), fresh_of_nodup hnames hsplit, fresh_of_nodup hsids hsplit⟩
  refine ⟨items, fun t ht => ?_⟩
  rw [parseSessions, ht]
  exact hitems

/-! ## Tunnels

The sessions are a section of the table of the tunnel, so their lemma comes first. -/

/-- The word of a digest algorithm. -/
def digestWord : DigestHash → String
  | .hmacMd5 => "md5"
  | .hmacSha1 => "sha1"

/-- The fields of a tunnel, its password a text and its sessions tables. -/
def tunnelFields (cfg : TunnelConfigEntry) (password : Option String) (sessions : List Toml) :
    List (String × Option Toml) := [
  ("name", some (.string cfg.name)),
  ("local_address", some (.string cfg.localAddress)),
  ("remote_address", some (.string cfg.remoteAddress)),
  ("local_ccid", some (idValue cfg.localCcidIsBool cfg.localCcid)),
  ("host_name", some (.string cfg.hostName)),
  ("router_id", some (.integer cfg.routerId)),
  ("remote_ccid", some (.integer cfg.remoteCcid)),
  ("password", password.map .string),
  ("digest_alg", some (.string (digestWord cfg.digestAlg))),
  ("hello_interval", some (.float (.finite cfg.helloInterval))),
  ("retransmit_interval", some (.float (.finite cfg.retransmitInterval))),
  ("max_retries", some (.integer cfg.maxRetries)),
  ("receive_window", some (.integer cfg.receiveWindow)),
  ("vendor_name", cfg.vendorName.map .string),
  ("firmware_revision", cfg.firmwareRevision.map .integer),
  ("session", some (.array sessions))]

/-- **A loadable tunnel** is read back from its table. -/
theorem exists_parseTunnel {cfg : TunnelConfigEntry} (h : cfg.Loadable) (source : String)
    (room : StrRoom) : ∃ t, ∀ index, parseTunnel source room t index = .ok cfg := by
  obtain ⟨password, hpassword, hne⟩ : ∃ password : Option String,
      cfg.password = password.map utf8 ∧ ∀ text ∈ password, text ≠ "" := by
    cases hp : cfg.password with
    | none => exact ⟨none, rfl, by simp⟩
    | some b =>
      obtain ⟨text, rfl⟩ := h.password b hp
      refine ⟨some text, rfl, ?_⟩
      rintro _ ⟨⟩ rfl
      exact h.accepted.password hp
  obtain ⟨items, hitems⟩ := exists_parseSessions h.accepted.sessions h.accepted.sessionNames
    h.accepted.sessionSids source room cfg.name
  refine ⟨tableOf (tunnelFields cfg password items), fun index => ?_⟩
  have hnd : ((tunnelFields cfg password items).map Prod.fst).Nodup := by
    show ["name", "local_address", "remote_address", "local_ccid", "host_name", "router_id",
      "remote_ccid", "password", "digest_alg", "hello_interval", "retransmit_interval",
      "max_retries", "receive_window", "vendor_name", "firmware_revision", "session"].Nodup
    decide
  have hget : ∀ key, (tableOf (tunnelFields cfg password items)).get key
      = (Dict.lookup key (tunnelFields cfg password items)).join := get_tableOf hnd
  have hacc := h.accepted
  simp only [parseTunnel, bind_eq_ok, require_eq_ok]
  -- key by key, in the order of the parser
  refine ⟨cfg.name, req_of_get (hget _) rfl, cfg.localAddress, req_of_get (hget _) rfl,
    cfg.remoteAddress, req_of_get (hget _) rfl,
    cfg.localCcid, req_of_get (hget _) (asInt_idValue h.accepted.localCcidIsBool),
    cfg.hostName, req_of_get (hget _) rfl, .integer cfg.routerId, req_of_get (hget _) rfl,
    (), h.localAddress, (), h.remoteAddress,
    cfg.routerId, parseRouterId_of_range hacc.routerId cfg.name, (), hacc.localCcid,
    cfg.remoteCcid, toInt_of_get (hget _), (), hacc.remoteCcid, cfg.password, ?_,
    .string (digestWord cfg.digestAlg), str_of_get (hget _), cfg.digestAlg, ?_,
    .finite cfg.helloInterval, toFloat_of_get (hget _),
    .finite cfg.retransmitInterval, toFloat_of_get (hget _), cfg.maxRetries, toInt_of_get (hget _),
    cfg.receiveWindow, toInt_of_get (hget _), 100000000, ?_, 100000000, ?_,
    cfg.helloInterval, interval_of_between hacc.helloInterval,
    cfg.retransmitInterval, interval_of_between hacc.retransmitInterval,
    (), hacc.maxRetries, (), hacc.receiveWindow, cfg.vendorName, opt_of_get (hget _) fun _ => rfl,
    cfg.firmwareRevision, ?_, cfg.sessions, hitems _ ?_, ?_⟩
  · rw [hpassword]
    exact parsePassword_of_get (hget _) hne
  · cases cfg.digestAlg <;> rfl
  -- the connect speeds of the tunnel are not in the table: they keep their default
  · rw [Table.getOr, hget]
    rfl
  · rw [Table.getOr, hget]
    rfl
  · simp only [parseFirmware, bind_eq_ok, require_eq_ok]
    exact ⟨cfg.firmwareRevision, optInt_of_get (hget _), (), hacc.firmwareRevision, rfl⟩
  · rw [Table.getOr, hget]
    rfl
  · rw [isBool_of_get (hget "local_ccid")]
    rfl

/-! ## The file

The tunnels and the global section are read independently of each other. -/

/-- The tunnels are read back from the list of their tables. -/
theorem exists_parseTunnels {cfg : DaemonConfig} (h : cfg.Loadable) (source : String)
    (room : StrRoom) : ∃ items, parseTunnels source room (.array items) = .ok cfg.tunnels := by
  refine exists_parseEach (fun t ht => ?_) 0 [] fun es e rest hsplit => ?_
  · exact exists_parseTunnel (h.tunnels t ht) source room
  · exact require_eq_ok.mpr (fresh_of_nodup h.names hsplit)

/-- The table of the global section. -/
def globalFields (global : GlobalConfig) : List (String × Option Toml) := [
  ("log_level", some (.string global.logLevel)),
  ("listen_address", some (.string global.listenAddress)),
  ("listen_port", some (.integer global.listenPort))]

/-- **The global section** is read back from its table. -/
theorem parseGlobal_fields {global : GlobalConfig} (h : global.Accepted) (source : String)
    (room : StrRoom) : parseGlobal source room (.table (tableOf (globalFields global))) = .ok global := by
  have hnd : ((globalFields global).map Prod.fst).Nodup := by
    show ["log_level", "listen_address", "listen_port"].Nodup
    decide
  have hget : ∀ key, (tableOf (globalFields global)).get key
      = (Dict.lookup key (globalFields global)).join := get_tableOf hnd
  have hlower : (Toml.string global.logLevel).lower = some global.logLevel.toList := by
    have hlevel := h.logLevel
    simp only [List.mem_cons, List.not_mem_nil, or_false] at hlevel
    rcases hlevel with hlevel | hlevel | hlevel | hlevel <;> (rw [hlevel]; rfl)
  simp only [parseGlobal, bind_eq_ok, require_eq_ok]
  refine ⟨.string global.logLevel, str_of_get (hget _), (), ?_, global.listenPort,
    toInt_of_get (hget _), (), h.listenPort, .string global.listenAddress, str_of_get (hget _), (),
    h.listenAddress, ?_⟩
  · exact List.any_eq_true.mpr ⟨global.logLevel, h.logLevel, by rw [Toml.reads, hlower]; simp⟩
  · rw [hlower]
    simp only [Option.getD_some, String.ofList_toList]
    rfl

/-! ## What was loaded

The other direction: what the parser returns satisfies what the table was checked for. -/

/-- A password that was read is the UTF-8 of a text. -/
theorem text_of_parsePassword {source : String} {place : Place} {raw : Option Toml}
    {o : Option Bytes} (h : parsePassword source place raw = .ok o) : ∀ b ∈ o, ∃ text, b = utf8 text := by
  unfold parsePassword at h
  split at h
  · cases h
    simp
  · rename_i text
    split at h
    · cases h
    · cases h
      rintro _ ⟨⟩
      exact ⟨text, rfl⟩
  · cases h

/-- **A tunnel that was parsed is loadable.** -/
theorem loadable_of_parseTunnel {source : String} {room : StrRoom} {t : Table} {index : Nat}
    {cfg : TunnelConfigEntry} (h : parseTunnel source room t index = .ok cfg) : cfg.Loadable := by
  have haccepted := (parseTunnel_ok h).accepted
  simp only [parseTunnel, bind_eq_ok, require_eq_ok] at h
  obtain ⟨name, -, localAddress, -, remoteAddress, -, localCcid, -, hostName, -, routerIdRaw, -,
    -, hlocal, -, hremote, routerId, -, -, -, remoteCcid, -, -, -, password, hpassword,
    digestAlgRaw, -, digestAlg, -, hello, -, retransmit, -, maxRetries, -, window, -, -, -, -, -,
    helloInterval, -, retransmitInterval, -, -, -, -, -, vendorName, -, firmware, -, sessions, -,
    hentry⟩ := h
  cases hentry
  exact ⟨haccepted, hlocal, hremote, text_of_parsePassword hpassword⟩

/-- What was parsed of the global section has passed its checks. -/
theorem accepted_of_parseGlobal {source : String} {room : StrRoom} {section_ : Toml}
    {global : GlobalConfig} (h : parseGlobal source room section_ = .ok global) :
    global.Accepted := by
  unfold parseGlobal at h
  split at h
  · simp only [bind_eq_ok, require_eq_ok] at h
    obtain ⟨level, -, -, hlevel, port, -, -, hport, addr, -, -, haddr, hglobal⟩ := h
    cases hglobal
    refine ⟨?_, ?_, hport⟩
    · obtain ⟨word, hword, hreads⟩ := List.any_eq_true.mp hlevel
      rw [Toml.reads, decide_eq_true_eq] at hreads
      rw [hreads, Option.getD_some, String.ofList_toList]
      exact hword
    · cases addr with
      | string s => exact haddr
      | _ => cases haddr
  · cases h

/-- **What can be loaded**: a file loads as exactly these configurations. From left to right the
conditions are read off the checks that the loader passed; from right to left a tree is written down
with one table for each tunnel and each session, and the loader is followed through it. -/
theorem loads_iff (source : String) (room : StrRoom) (global : GlobalConfig) (cfg : DaemonConfig) :
    (∃ data, parse source room (.ok data) = .ok (global, cfg)) ↔
      global.Accepted ∧ cfg.Loadable := by
  constructor
  · rintro ⟨data, h⟩
    obtain ⟨⟨items, -, hall⟩, hnames⟩ := parse_tunnels (R := fun _ t => t.Loadable)
      (fun _ _ _ ht => loadable_of_parseTunnel ht) h
    simp only [parse, bind_eq_ok] at h
    obtain ⟨global, hglobal, tunnels, -, hcfg⟩ := h
    cases hcfg
    refine ⟨accepted_of_parseGlobal hglobal, fun t ht => ?_, hnames⟩
    obtain ⟨item, -, s, -, hloadable⟩ := forall₂_mem hall.flip ht
    exact hloadable
  -- and a file with one table for each tunnel and each session
  · rintro ⟨hglobal, hcfg⟩
    obtain ⟨items, hitems⟩ := exists_parseTunnels hcfg source room
    refine ⟨[("global", .table (tableOf (globalFields global))), ("tunnel", .array items)], ?_⟩
    simp only [parse, bind_eq_ok]
    exact ⟨global, parseGlobal_fields hglobal source room, cfg.tunnels, hitems, rfl⟩

end Loadable

end L2tpv3d
