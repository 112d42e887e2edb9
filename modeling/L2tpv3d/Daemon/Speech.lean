import L2tpv3d.Daemon.Crash
import L2tpv3d.Daemon.Loader
import L2tpv3d.Lib.Transition

/-!
# L2tpv3d — whether an accepted configuration can be spoken

The loader checks the ranges of most fields that end up in a message. It does not check how
long the texts are, and it does not check the connect speeds of a session: the builder of the
call messages raises on a speed that is no 64-bit number, and an AVP holds 1017 bytes.

* `Spoken` — whatever the machines of a tunnel are called for, they return, and every message
  they ask for is encoded, signed when there is a password.
* `Fits` — the texts and speeds in the tree fit.
* **`spoken_iff`** — an accepted configuration is spoken if and only if its tree fits.
-/

namespace L2tpv3d

open Py Prog

namespace Speech

open Tunnel

/-! ## The calls of the machines

The calls are those that the daemon makes. Their arguments are restricted to what it passes: result
codes of two bytes, and messages whose type could be read. -/

/-- What the tunnel machine is called for. -/
inductive TunnelCall where
  | localOpen
  | localClose (resultCode : Int)
  | helloTimer
  | peerDead
  | message (msg : ControlMessage)

/-- The method that is called. -/
def TunnelCall.run : TunnelCall → Prog TunnelFSM (List TunnelAction)
  | .localOpen => TunnelFSM.onLocalOpen
  | .localClose resultCode => TunnelFSM.onLocalClose resultCode
  | .helloTimer => TunnelFSM.onHelloTimer
  | .peerDead => TunnelFSM.onPeerDead
  | .message msg => TunnelFSM.onMessage msg

/-- A result code fits its field; a message has a type that can be read, which the tunnel
reads before it hands the message on. -/
def TunnelCall.Proper : TunnelCall → Prop
  | .localClose resultCode => IsU16 resultCode
  | .message msg => ∃ mt, getMessageType msg.avps = .ok mt
  | _ => True

/-- What a session machine is called for. -/
inductive SessionCall where
  | tunnelEstablished
  | localClose (resultCode : Int)
  | tunnelDown
  | message (msg : ControlMessage)

/-- The method that is called. -/
def SessionCall.run : SessionCall → Prog SessionFSM (List SessionAction)
  | .tunnelEstablished => SessionFSM.onTunnelEstablished
  | .localClose resultCode => SessionFSM.onLocalClose resultCode
  | .tunnelDown => SessionFSM.onTunnelDown
  | .message msg => SessionFSM.onMessage msg

/-- The daemon closes sessions with result codes of two bytes and looks at the Message Type before
it hands a message over. -/
def SessionCall.Proper : SessionCall → Prop
  | .localClose resultCode => IsU16 resultCode
  | .message msg => ∃ mt, getMessageType msg.avps = .ok mt
  | _ => True

/-! ## Speaking

A machine speaks if it never raises and everything it asks for can be encoded. That is said of all
states that calls lead to; what is put beside it is a condition on the TOML tree alone. -/

/-- The message is encoded under every header, as `Peer.send` encodes it and as it leaves. -/
def GoesOut (hmac : Hmac) (cfg : TunnelConfigEntry) (avps : List AVP) : Prop :=
  ∀ ccid ns nr, IsU32 ccid → IsU16 ns → IsU16 nr →
    (∃ bs, (ControlMessage.mk ccid ns nr avps).encode = .ok bs) ∧
    ∃ bs, wire hmac cfg (ControlMessage.mk ccid ns nr avps) = .ok bs

/-- In every state that calls lead to, every call returns and its messages go out. -/
def Speaks {σ κ α : Type} (run : κ → Prog σ (List α)) (proper : κ → Prop)
    (sendMessage : List AVP → α) (goesOut : List AVP → Prop) (s₀ : σ) : Prop :=
  ∀ s, Transition.Reach (fun s c => (run c s).2) (fun _ c => proper c) s₀ s →
    ∀ c, proper c → ∃ actions, (run c s).1 = .ok actions ∧
      ∀ avps, sendMessage avps ∈ actions → goesOut avps

/-- The machines of the tunnel speak. -/
structure Spoken (hmac : Hmac) (cfg : TunnelConfigEntry) : Prop where
  tunnel : Speaks TunnelCall.run TunnelCall.Proper .sendMessage (GoesOut hmac cfg)
    { config := cfg.toConfig }
  sessions : ∀ scfg ∈ cfg.sessions, Speaks SessionCall.run SessionCall.Proper .sendMessage
    (GoesOut hmac cfg) { config := scfg.toConfig cfg }

/-- The speed is a 64-bit number. -/
def IsU64 (x : Int) : Prop := 0 ≤ x ∧ x ≤ 0xFFFFFFFFFFFFFFFF

/-- The texts and speeds in the table of a session fit; only an initiator sends its name. -/
structure SessionFits (s : Table) : Prop where
  name : (s.getOr "initiator" (.boolean true)).toBool = true →
    ∀ name, s.get "name" = some (.string name) → (utf8 name).length ≤ 1017
  txConnectSpeed : ∀ v speed, s.get "tx_connect_speed" = some v → v.toInt = .ok speed → IsU64 speed
  rxConnectSpeed : ∀ v speed, s.get "rx_connect_speed" = some v → v.toInt = .ok speed → IsU64 speed

/-- The texts in the table of a tunnel and in those of its sessions fit. -/
structure TunnelFits (t : Table) : Prop where
  hostName : ∀ name, t.get "host_name" = some (.string name) → (utf8 name).length ≤ 1017
  vendorName : ∀ name, t.get "vendor_name" = some (.string name) → (utf8 name).length ≤ 1017
  sessions : ∀ items s, t.getOr "session" (.array []) = .array items → .table s ∈ items →
    SessionFits s

/-- The texts and speeds in the tree fit. -/
def Fits (data : Table) : Prop :=
  ∀ items t, data.getOr "tunnel" (.array []) = .array items → .table t ∈ items → TunnelFits t

/-! ## What fits is spoken

The fields that could fail are the texts and the two speeds. Where they fit, every message that a
machine builds is a regular one. -/

/-- A property that every call keeps, and under which every call speaks. -/
theorem Speaks.of_invariant {σ κ α : Type} {run : κ → Prog σ (List α)} {proper : κ → Prop}
    {sendMessage : List AVP → α} {goesOut : List AVP → Prop} {s₀ : σ} (I : σ → Prop) (h₀ : I s₀)
    (hkeep : ∀ s c, I s → proper c → I (run c s).2)
    (hsay : ∀ s c, I s → proper c → ∃ actions, (run c s).1 = .ok actions ∧
      ∀ avps, sendMessage avps ∈ actions → goesOut avps) :
    Speaks run proper sendMessage goesOut s₀ := by
  intro s hs c hc
  exact hsay s c (hs.invariant h₀ fun s c hI hc => hkeep s c hI hc) hc

theorem goesOut_of_regular (hmac : Hmac) (cfg : TunnelConfigEntry) {avps : List AVP}
    (h : Regular avps) : GoesOut hmac cfg avps := by
  intro ccid ns nr hccid hns hnr
  obtain ⟨hplain, hsigned⟩ := h.wellFormed hccid hns hnr
  refine ⟨⟨_, ControlMessage.encode_of_wellFormed hplain⟩, ?_⟩
  unfold wire
  cases hsecret : cfg.secret with
  | none => exact ⟨_, ControlMessage.encode_of_wellFormed hplain⟩
  | some secret =>
    exact ⟨_, (ControlMessage.encodeSigned_eq_ok (TunnelConfigEntry.secret_ne_nil hsecret)).mpr
      ⟨hsigned cfg.digestAlg, rfl⟩⟩

/-- What goes out encodes AVP by AVP. -/
theorem GoesOut.plain {hmac : Hmac} {cfg : TunnelConfigEntry} {avps : List AVP}
    (h : GoesOut hmac cfg avps) : ∀ avp ∈ avps, avp.Plain := by
  obtain ⟨⟨bs, henc⟩, -⟩ := h 0 0 0 (by decide) (by decide) (by decide)
  exact (ControlMessage.wellFormed_of_encode henc).avps_plain

/-- Every call is one of the methods of the machine. -/
theorem TunnelCall.method (c : TunnelCall) : TunnelFSM.Method c.run := by
  cases c with
  | localOpen => exact TunnelFSM.method_onLocalOpen
  | localClose resultCode => exact TunnelFSM.method_onLocalClose resultCode
  | helloTimer => exact TunnelFSM.method_onHelloTimer
  | peerDead => exact TunnelFSM.method_onPeerDead
  | message msg => exact TunnelFSM.method_onMessage msg

/-- A call of a machine whose messages can be built returns. -/
theorem TunnelCall.returns {c : TunnelCall} (hc : c.Proper) {s : TunnelFSM} (h : s.Sendable) :
    Returns c.run s := by
  cases c with
  | localOpen => exact TunnelFSM.onLocalOpen_returns h
  | localClose resultCode => exact TunnelFSM.onLocalClose_returns h hc
  | helloTimer => exact TunnelFSM.onHelloTimer_returns s
  | peerDead => exact TunnelFSM.onPeerDead_returns s
  | message msg => exact TunnelFSM.onMessage_returns h hc

/-- Every call is one of the methods of the machine. -/
theorem SessionCall.method (c : SessionCall) : SessionFSM.Method c.run := by
  cases c with
  | tunnelEstablished => exact SessionFSM.method_onTunnelEstablished
  | localClose resultCode => exact SessionFSM.method_onLocalClose resultCode
  | tunnelDown => exact SessionFSM.method_onTunnelDown
  | message msg => exact SessionFSM.method_onMessage msg

/-- A call of a machine whose messages can be built returns. -/
theorem SessionCall.returns {c : SessionCall} (hc : c.Proper) {s : SessionFSM}
    (h : s.Buildable) : Returns c.run s := by
  cases c with
  | tunnelEstablished => exact SessionFSM.onTunnelEstablished_returns h
  | localClose resultCode => exact SessionFSM.onLocalClose_returns h hc
  | tunnelDown => exact SessionFSM.onTunnelDown_returns s
  | message msg => exact SessionFSM.onMessage_returns h hc

/-- The tunnel machine speaks when every message of it can be sent. -/
theorem speaks_tunnel (hmac : Hmac) (cfg : TunnelConfigEntry) {s : TunnelFSM} (h : s.Sendable) :
    Speaks TunnelCall.run TunnelCall.Proper .sendMessage (GoesOut hmac cfg) s := by
  refine .of_invariant TunnelFSM.Sendable h ?_ ?_
  · exact fun s c hs _ => hs.of_config (c.method s).config_eq
  · intro s c hs hc
    obtain ⟨actions, hrun⟩ := TunnelCall.returns hc hs
    refine ⟨actions, hrun, fun avps hmem => goesOut_of_regular hmac cfg ?_⟩
    have hout := c.method s
    rw [hrun] at hout
    exact hout.sent_regular hs hmem

/-- In `IDLE` a session machine answers an ICRQ and nothing else. -/
theorem onMessage_idle {s : SessionFSM} (hs : s.state = .idle) {msg : ControlMessage}
    {actions : List SessionAction} (hrun : (SessionFSM.onMessage msg s).1 = .ok actions)
    {avps : List AVP} (hmem : .sendMessage avps ∈ actions) : Regular avps := by
  cases hmt : getMessageType msg.avps with
  | error e => simp [SessionFSM.onMessage, hmt] at hrun
  | ok mt =>
    by_cases hicrq : mt = some MessageType.icrq.code
    · have htry := tryValueError_of_only (parseSessionFields_onlyValueError msg.avps)
      cases hparse : parseSessionFields msg.avps with
      | error e =>
        rw [hparse] at htry
        obtain rfl : actions = [] := by
          simpa [SessionFSM.onMessage, hmt, hicrq, SessionFSM.onIcrq, hs, hparse, htry,
            Except.toOption] using hrun.symm
        cases hmem
      | ok fields =>
        -- an answer that cannot be built is not sent
        cases hbuilt : buildIcrpAvps s.config.callArgs fields.localSid s.config.cookie with
        | error e =>
          simp [SessionFSM.onMessage, hmt, hicrq, SessionFSM.onIcrq, hs, hparse, tryValueError,
            SessionFSM.learnPeer, hbuilt] at hrun
        | ok icrp =>
          obtain rfl : actions = [.sendMessage icrp] := by
            simpa [SessionFSM.onMessage, hmt, hicrq, SessionFSM.onIcrq, hs, hparse, tryValueError,
              SessionFSM.learnPeer, hbuilt, SessionFSM.transition] using hrun.symm
          obtain rfl : avps = icrp := by simpa using hmem
          exact (buildIcrpAvps_regular hbuilt).1
    · have hnone : SessionFSM.onMessage msg s = (.ok [], s) := by
        simp only [SessionFSM.onMessage, hmt, ofExcept_ok_bind_apply, if_neg hicrq]
        split
        · simp [SessionFSM.onIcrp, hs]
        · split
          · simp [SessionFSM.onIccn, hs]
          · split
            · simp [SessionFSM.onCdn, hs]
            · rfl
      rw [hnone] at hrun
      cases hrun
      cases hmem

/-- What a session machine sends fits, if the name of an initiator does. -/
theorem SessionCall.sent_regular {c : SessionCall} {s : SessionFSM}
    (hname : s.config.initiator = true → (utf8 s.config.name).length ≤ 1017)
    {actions : List SessionAction} (hrun : (c.run s).1 = .ok actions) {avps : List AVP}
    (hmem : .sendMessage avps ∈ actions) : Regular avps := by
  have hout := c.method s
  rw [hrun] at hout
  by_cases hs : s.state = .idle
  · -- only `on_tunnel_established` of an initiator sends an ICRQ
    -- the other calls of an idle session do nothing
    cases c with
    | tunnelEstablished =>
      cases hinit : s.config.initiator with
      | true => exact (hout.sent hmem).2 (.inr (hname hinit))
      | false =>
        obtain rfl : actions = [] := by
          simpa [SessionCall.run, SessionFSM.onTunnelEstablished, hinit] using hrun.symm
        cases hmem
    | localClose resultCode =>
      obtain rfl : actions = [] := by
        simpa [SessionCall.run, SessionFSM.onLocalClose, hs] using hrun.symm
      cases hmem
    | tunnelDown =>
      obtain rfl : actions = [] := by
        simpa [SessionCall.run, SessionFSM.onTunnelDown, hs] using hrun.symm
      cases hmem
    | message msg => exact onMessage_idle hs hrun hmem
  · exact (hout.sent hmem).2 (.inl hs)

/-- A session machine speaks when its messages can be built and the name of an initiator fits. -/
theorem speaks_session (hmac : Hmac) (cfg : TunnelConfigEntry) {s : SessionFSM} (h : s.Buildable)
    (hname : s.config.initiator = true → (utf8 s.config.name).length ≤ 1017) :
    Speaks SessionCall.run SessionCall.Proper .sendMessage (GoesOut hmac cfg) s := by
  refine .of_invariant (fun v => v.Buildable ∧ v.config = s.config) ⟨h, rfl⟩ ?_ ?_
  · rintro v c ⟨hv, hconfig⟩ -
    exact ⟨(c.method v).buildable hv, (c.method v).config_eq.trans hconfig⟩
  · rintro v c ⟨hv, hconfig⟩ hc
    obtain ⟨actions, hrun⟩ := SessionCall.returns hc hv
    exact ⟨actions, hrun, fun avps hmem => goesOut_of_regular hmac cfg
      (SessionCall.sent_regular (hconfig ▸ hname) hrun hmem)⟩

/-! ## What is spoken fits

For each field that does not fit there is a call that builds a message with it: the start for a name
or a speed of an initiator, an ICRQ of the peer for those of a responder. -/

/-- An ICRQ that a peer may send. -/
def anyIcrq : ControlMessage where
  controlConnectionId := 0
  ns := 0
  nr := 0
  avps := [messageTypeAvp .icrq, ietfAvp .localSessionId (beBytes 4 1) true]

/-- **When a session machine speaks.** -/
theorem speaks_session_iff (hmac : Hmac) (cfg : TunnelConfigEntry) {scfg : SessionConfigEntry}
    (hacc : scfg.Accepted) :
    Speaks SessionCall.run SessionCall.Proper .sendMessage (GoesOut hmac cfg)
      { config := scfg.toConfig cfg } ↔
    (scfg.initiator = true → (utf8 scfg.name).length ≤ 1017) ∧
      (∀ v, scfg.txConnectSpeed = some v → IsU64 v) ∧
      ∀ v, scfg.rxConnectSpeed = some v → IsU64 v := by
  constructor
  · intro h
    -- the answer to an ICRQ carries the speeds
    have hspeeds : (∀ v, scfg.txConnectSpeed = some v → IsU64 v) ∧
        ∀ v, scfg.rxConnectSpeed = some v → IsU64 v := by
      obtain ⟨actions, hrun, -⟩ := h _ .start (.message anyIcrq) ⟨_, rfl⟩
      obtain ⟨fields, hparse, hlocal⟩ : ∃ fields, parseSessionFields anyIcrq.avps = .ok fields ∧
          fields.localSid = 1 := ⟨_, rfl, rfl⟩
      have hmt : getMessageType anyIcrq.avps = .ok (some MessageType.icrq.code) := rfl
      cases hbuilt : buildIcrpAvps (scfg.toConfig cfg).callArgs 1 scfg.cookie with
      | ok icrp =>
        have hargs := CallArgs.inRange_of_icrp hbuilt
        exact ⟨hargs.txConnectSpeed, hargs.rxConnectSpeed⟩
      | error e =>
        have hbuilt' : buildIcrpAvps (scfg.toConfig cfg).callArgs fields.localSid
            (scfg.toConfig cfg).cookie = .error e := by
          rw [hlocal]
          exact hbuilt
        simp [SessionCall.run, SessionFSM.onMessage, hmt, SessionFSM.onIcrq, hparse, tryValueError,
          SessionFSM.learnPeer, hbuilt'] at hrun
    refine ⟨fun hinit => ?_, hspeeds⟩
    -- the first call of an initiator carries the name
    obtain ⟨actions, hrun, hout⟩ := h _ .start .tunnelEstablished trivial
    have hb := Crash.buildable_session hacc hspeeds.1 hspeeds.2 cfg
    obtain ⟨icrq, hbuilt⟩ := buildIcrqAvps_exists hb.callArgs hb.pseudowireType (some scfg.name)
      hb.cookie
    obtain rfl : actions = [.sendMessage icrq] := by
      have hbuilt' : buildIcrqAvps (scfg.toConfig cfg).callArgs
          (scfg.toConfig cfg).pseudowireType (some (scfg.toConfig cfg).name)
          (scfg.toConfig cfg).cookie = .ok icrq := hbuilt
      have hinit' : (scfg.toConfig cfg).initiator = true := hinit
      simpa [SessionCall.run, SessionFSM.onTunnelEstablished, hinit', hbuilt',
        SessionFSM.transition] using hrun.symm
    exact buildIcrqAvps_fits hbuilt (hout icrq (by simp)).plain
  · rintro ⟨hname, htx, hrx⟩
    exact speaks_session hmac cfg (Crash.buildable_session hacc htx hrx _) hname

/-- **When the tunnel machine speaks.** -/
theorem speaks_tunnel_iff (hmac : Hmac) {cfg : TunnelConfigEntry} (hacc : cfg.Accepted) :
    Speaks TunnelCall.run TunnelCall.Proper .sendMessage (GoesOut hmac cfg)
      { config := cfg.toConfig } ↔
    (utf8 cfg.hostName).length ≤ 1017 ∧
      ∀ n, cfg.vendorName = some n → (utf8 n).length ≤ 1017 := by
  constructor
  · intro h
    obtain ⟨sccrq, hbuilt⟩ := Crash.buildSccrx_of_accepted hacc .sccrq
    -- the SCCRQ carries both texts
    obtain ⟨actions, hrun, hout⟩ := h _ .start .localOpen trivial
    obtain rfl : actions = [.sendMessage sccrq] := by
      simpa [TunnelCall.run, TunnelFSM.onLocalOpen, buildSccrqAvps, hbuilt, TunnelFSM.transition]
        using hrun.symm
    exact buildSccrxAvps_fits hbuilt (hout sccrq (by simp)).plain
  · rintro ⟨hhost, hvendor⟩
    exact speaks_tunnel hmac cfg (Crash.sendable_tunnel hacc hhost hvendor)

/-! ## The tree

The loader copies the fields into the configuration after it converted and checked them. So the
condition on the configuration becomes one on the keys of the file. -/

/-- A speed that was read is the converted value of its key. -/
theorem optInt_ok_iff {s : Table} {key : String} {o : Option Int} (h : optInt s key = .ok o) :
    (∀ v, o = some v → IsU64 v) ↔
      ∀ v speed, s.get key = some v → v.toInt = .ok speed → IsU64 speed := by
  cases hget : s.get key with
  | none =>
    obtain rfl : o = none := by simpa [optInt, hget] using h.symm
    simp
  | some v =>
    -- a value that does not convert was refused by the loader
    cases hint : v.toInt with
    | error e => simp [optInt, hget, hint, Except.map] at h
    | ok speed =>
      obtain rfl : o = some speed := by simpa [optInt, hget, hint, Except.map] using h.symm
      constructor
      · rintro hfits _ _ ⟨⟩ hspeed
        rw [hint] at hspeed
        cases hspeed
        exact hfits speed rfl
      · rintro hfits _ ⟨⟩
        exact hfits v speed rfl hint

/-- The table of a session fits if and only if its machine speaks. -/
theorem speaks_iff_sessionFits (hmac : Hmac) (cfg : TunnelConfigEntry) {s : Table}
    {scfg : SessionConfigEntry} (h : ReadSession s scfg) :
    Speaks SessionCall.run SessionCall.Proper .sendMessage (GoesOut hmac cfg)
      { config := scfg.toConfig cfg } ↔ SessionFits s := by
  rw [speaks_session_iff hmac cfg h.accepted, optInt_ok_iff h.txConnectSpeed,
    optInt_ok_iff h.rxConnectSpeed, h.initiator]
  constructor
  · rintro ⟨hname, htx, hrx⟩
    -- the name is read from the same key
    refine ⟨fun hinit name hget => ?_, htx, hrx⟩
    rw [h.name] at hget
    cases hget
    exact hname hinit
  · intro hfits
    exact ⟨fun hinit => hfits.name hinit _ h.name, hfits.txConnectSpeed, hfits.rxConnectSpeed⟩

/-- The table of a tunnel fits if and only if its machines speak. -/
theorem spoken_iff_tunnelFits (hmac : Hmac) {t : Table} {cfg : TunnelConfigEntry}
    (h : ReadTunnel t cfg) : Spoken hmac cfg ↔ TunnelFits t := by
  obtain ⟨items, hitems, hall⟩ := h.sessions
  constructor
  · rintro ⟨htunnel, hsessions⟩
    obtain ⟨hhost, hvendor⟩ := (speaks_tunnel_iff hmac h.accepted).mp htunnel
    refine ⟨?_, ?_, ?_⟩
    · intro name hget
      rw [h.hostName] at hget
      cases hget
      exact hhost
    · intro name hget
      rw [h.vendorName] at hget
      cases hname : cfg.vendorName with
      | none => simp [hname] at hget
      | some vendor =>
        obtain rfl : vendor = name := by simpa [hname] using hget
        exact hvendor vendor hname
    · intro items' s hitems' hmem
      obtain rfl : items = items' := by
        rw [hitems] at hitems'
        exact Toml.array.inj hitems'
      -- every table of the array became one session
      obtain ⟨scfg, hscfg, s', hs', hread⟩ := forall₂_mem hall hmem
      cases hs'
      exact (speaks_iff_sessionFits hmac cfg hread).mp (hsessions scfg hscfg)
  · intro hfits
    refine ⟨(speaks_tunnel_iff hmac h.accepted).mpr ⟨hfits.hostName _ h.hostName, ?_⟩, ?_⟩
    · intro name hname
      exact hfits.vendorName name (by rw [h.vendorName, hname]; rfl)
    · intro scfg hscfg
      obtain ⟨item, hitem, s, rfl, hread⟩ := forall₂_mem hall.flip hscfg
      exact (speaks_iff_sessionFits hmac cfg hread).mpr (hfits.sessions items s hitems hitem)

/-- **An accepted configuration is spoken if and only if its texts and speeds fit**: whatever its
machines are called for, they return, and every message they ask for is encoded. The tables of the
tree and the entries of the configuration are gone through side by side. -/
theorem spoken_iff (hmac : Hmac) (source : String) (room : StrRoom) (data : Table)
    (global : GlobalConfig) (cfg : DaemonConfig)
    (h : parse source room (.ok data) = .ok (global, cfg)) :
    (∀ t ∈ cfg.tunnels, Spoken hmac t) ↔ Fits data := by
  obtain ⟨⟨items, hitems, hall⟩, -⟩ := parse_ok h
  constructor
  · intro hspoken items' t hitems' hmem
    obtain rfl : items = items' := by
      rw [hitems] at hitems'
      exact Toml.array.inj hitems'
    obtain ⟨cfg', hcfg', t', ht', hread⟩ := forall₂_mem hall hmem
    cases ht'
    exact (spoken_iff_tunnelFits hmac hread).mp (hspoken cfg' hcfg')
  · intro hfits tcfg htcfg
    obtain ⟨item, hitem, t, rfl, hread⟩ := forall₂_mem hall.flip htcfg
    exact (spoken_iff_tunnelFits hmac hread).mpr (hfits items t hitems hitem)

/-- A file with one tunnel and one session, whose receive speed is `speed`. -/
def oneSession (speed : Int) : Table :=
  [("tunnel", .array [.table [
    ("name", .string "to-remote"),
    ("local_address", .string "192.0.2.1"),
    ("remote_address", .string "192.0.2.2"),
    ("local_ccid", .integer 100),
    ("host_name", .string "xcesp-router"),
    ("router_id", .string "10.0.0.1"),
    ("password", .string "topsecret"),
    ("session", .array [.table [
      ("name", .string "pw-1"),
      ("local_sid", .integer 1001),
      ("rx_connect_speed", .integer speed)]])]])]

theorem oneSession_fits {speed : Int} (h : IsU64 speed) : Fits (oneSession speed) := by
  intro items t hitems ht
  cases hitems
  obtain rfl := List.mem_singleton.mp ht |> Toml.table.inj
  refine ⟨?_, ?_, ?_⟩
  · rintro name ⟨⟩
    decide
  · rintro name ⟨⟩
  · intro items s hitems hs
    cases hitems
    obtain rfl := List.mem_singleton.mp hs |> Toml.table.inj
    refine ⟨?_, ?_, ?_⟩
    · rintro - name ⟨⟩
      decide
    · rintro v speed' ⟨⟩
    · rintro v speed' ⟨⟩ ⟨⟩
      exact h

/-- The example with a speed of 1000 is accepted and spoken. -/
theorem spoken_iff_oneSession :
    ∃ global cfg, parse "l2tpv3d.toml" .usual (.ok (oneSession 1000)) = .ok (global, cfg) ∧
      cfg.tunnels ≠ [] ∧ ∀ t ∈ cfg.tunnels, Spoken ControlMessage.sumHmac t :=
  ⟨_, _, rfl, by simp, (spoken_iff ControlMessage.sumHmac "l2tpv3d.toml" .usual
    (oneSession 1000) _ _ rfl).mpr (oneSession_fits (by unfold IsU64; decide))⟩

/-- A negative speed is accepted, and the ICRQ that should announce the session is not built. -/
theorem negative_speed_unspoken :
    ∃ global t scfg, parse "l2tpv3d.toml" .usual (.ok (oneSession (-1))) = .ok (global, ⟨[t]⟩) ∧
      t.sessions = [scfg] ∧
      (∃ e, (SessionFSM.onTunnelEstablished { config := scfg.toConfig t }).1 = .error e) ∧
      ¬ Spoken ControlMessage.sumHmac t := by
  refine ⟨_, _, _, rfl, rfl, ⟨_, rfl⟩, fun h => ?_⟩
  obtain ⟨actions, hrun, -⟩ := h.sessions _ List.mem_cons_self _ .start .tunnelEstablished trivial
  cases hrun

end Speech

end L2tpv3d
