import L2tpv3d.Fsm.Session

/-!
# L2tpv3d — configuration entries (`config.py`)

The dataclasses that the loader returns. The tunnel-level connect speeds, which nothing reads, are
left out. An integer field may be a `bool`, which is kept for the two fields where it is printed.

* `DaemonConfig.Accepted` — the ranges that the loader checks.
* `TunnelConfigEntry.Encodes` — what it does not check: that the texts and speeds fit their AVPs.
-/

namespace L2tpv3d

open Py

/-- `SessionConfigEntry` -/
structure SessionConfigEntry where
  name : String
  pseudowireType : PseudowireType
  localSid : Int
  initiator : Bool := true
  l2SpecificSublayer : Int := 1
  dataSequencing : Int := 0
  circuitStatus : Int := 0b11
  cookie : Option Bytes := none
  peerCookie : Option Bytes := none
  txConnectSpeed : Option Int := none
  rxConnectSpeed : Option Int := none
  ifname : Option String := none
  /-- `local_sid` is a `bool`: `isinstance(True, int)`. -/
  localSidIsBool : Bool := false

/-- `TunnelConfigEntry` -/
structure TunnelConfigEntry where
  name : String
  localAddress : String
  remoteAddress : String
  localCcid : Int
  hostName : String
  routerId : Int
  remoteCcid : Int := 0
  password : Option Bytes := none
  digestAlg : DigestHash := .hmacMd5
  helloInterval : ℚ := 60
  retransmitInterval : ℚ := 1
  maxRetries : Int := 5
  receiveWindow : Int := 4
  vendorName : Option String := none
  firmwareRevision : Option Int := none
  sessions : List SessionConfigEntry := []
  /-- `local_ccid` is a `bool`. -/
  localCcidIsBool : Bool := false

/-- The secret that authentication uses: `if self.cfg.password` is false on `None` and on the
empty string. -/
def TunnelConfigEntry.secret (cfg : TunnelConfigEntry) : Option Bytes :=
  match cfg.password with
  | some (b :: bs) => some (b :: bs)
  | _ => none

theorem TunnelConfigEntry.secret_ne_nil {cfg : TunnelConfigEntry} {secret : Bytes}
    (h : cfg.secret = some secret) : secret ≠ [] := by
  unfold TunnelConfigEntry.secret at h
  split at h
  · cases h; simp
  · cases h

/-- A 32-bit unsigned field. -/
def IsU32 (x : Int) : Prop := 0 ≤ x ∧ x ≤ 0xFFFFFFFF

/-- A 16-bit unsigned field. -/
def IsU16 (x : Int) : Prop := 0 ≤ x ∧ x ≤ 0xFFFF

instance (x : Int) : Decidable (IsU32 x) := inferInstanceAs (Decidable (_ ∧ _))

instance (x : Int) : Decidable (IsU16 x) := inferInstanceAs (Decidable (_ ∧ _))

/-- What `_parse_session` checks. -/
structure SessionConfigEntry.Accepted (cfg : SessionConfigEntry) : Prop where
  localSid : 0 < cfg.localSid ∧ cfg.localSid ≤ 0xFFFFFFFF
  l2SpecificSublayer : cfg.l2SpecificSublayer = 0 ∨ cfg.l2SpecificSublayer = 1
  dataSequencing : cfg.dataSequencing = 0 ∨ cfg.dataSequencing = 1 ∨ cfg.dataSequencing = 2
  circuitStatus : IsU16 cfg.circuitStatus
  cookie : ∀ c ∈ cfg.cookie, c.length = 0 ∨ c.length = 4 ∨ c.length = 8
  peerCookie : ∀ c ∈ cfg.peerCookie, c.length = 0 ∨ c.length = 4 ∨ c.length = 8
  /-- The only `bool` in the range. -/
  localSidIsBool : cfg.localSidIsBool = true → cfg.localSid = 1

/-- What `_parse_tunnel` checks. -/
structure TunnelConfigEntry.Accepted (cfg : TunnelConfigEntry) : Prop where
  localCcid : 0 < cfg.localCcid ∧ cfg.localCcid ≤ 0xFFFFFFFF
  remoteCcid : IsU32 cfg.remoteCcid
  routerId : IsU32 cfg.routerId
  password : cfg.password ≠ some []
  helloInterval : 1 ≤ cfg.helloInterval ∧ cfg.helloInterval ≤ 3600
  retransmitInterval : 1 ≤ cfg.retransmitInterval ∧ cfg.retransmitInterval ≤ 8
  maxRetries : 1 ≤ cfg.maxRetries ∧ cfg.maxRetries ≤ 10
  receiveWindow : 1 ≤ cfg.receiveWindow ∧ cfg.receiveWindow ≤ 1024
  firmwareRevision : ∀ r ∈ cfg.firmwareRevision, IsU16 r
  sessions : ∀ s ∈ cfg.sessions, s.Accepted
  sessionNames : (cfg.sessions.map (·.name)).Nodup
  sessionSids : (cfg.sessions.map (·.localSid)).Nodup
  localCcidIsBool : cfg.localCcidIsBool = true → cfg.localCcid = 1

/-- `DaemonConfig`: the tunnels; the global table, which is read before the daemon is built,
is left out. -/
structure DaemonConfig where
  tunnels : List TunnelConfigEntry

/-- What `_parse_tunnels` checks. -/
structure DaemonConfig.Accepted (cfg : DaemonConfig) : Prop where
  tunnels : ∀ t ∈ cfg.tunnels, t.Accepted
  names : (cfg.tunnels.map (·.name)).Nodup

/-- The texts and speeds of a session, which the loader does not check, fit their AVPs. -/
structure SessionConfigEntry.Encodes (cfg : SessionConfigEntry) : Prop where
  name : (utf8 cfg.name).length ≤ 1017
  txConnectSpeed : ∀ v, cfg.txConnectSpeed = some v → 0 ≤ v ∧ v ≤ 0xFFFFFFFFFFFFFFFF
  rxConnectSpeed : ∀ v, cfg.rxConnectSpeed = some v → 0 ≤ v ∧ v ≤ 0xFFFFFFFFFFFFFFFF

/-- The texts and speeds of a tunnel fit their AVPs. -/
structure TunnelConfigEntry.Encodes (cfg : TunnelConfigEntry) : Prop where
  hostName : (utf8 cfg.hostName).length ≤ 1017
  vendorName : ∀ n, cfg.vendorName = some n → (utf8 n).length ≤ 1017
  sessions : ∀ s ∈ cfg.sessions, s.Encodes

end L2tpv3d
