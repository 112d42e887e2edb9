import L2tpv3d.Daemon.Loader
import L2tpv3d.Daemon.Restart

/-!
# L2tpv3d — the tunnels that a start leaves running

The loader wants the names of the tunnels to be unique; the daemon keeps its tunnels by local
CCID, which no check compares. A second entry with the same CCID replaces the tunnel of the first
in the table, after the SCCRQ of the first was sent.

* `Begun` — the tunnel of an entry as `start` leaves it.
* `Complete` — the table holds one tunnel for each entry, and every datagram sent belongs to one
  of them.
* **`complete_iff`** — for the files that are accepted, `start` returns and leaves the table
  complete exactly when the CCIDs in the tree are distinct and its texts fit their AVPs.
-/

namespace L2tpv3d

open Py Prog

namespace Startup

open Tunnel World

variable {δ : Type} [Dataplane δ] {hmac : Hmac} {tcfg : TunnelConfigEntry}

/-! ## One tunnel

A tunnel that was just started has sent its SCCRQ and waits for the reply. Of all its messages only
this one is built at the start, so only its texts matter. -/

/-- The tunnel of an entry after its start: one machine for each configured session, in order,
and the SCCRQ that was sent as `bs` waits for its acknowledgement. -/
structure Begun (hmac : Hmac) (tcfg : TunnelConfigEntry) (bs : Bytes) (t : Tunnel) : Prop where
  cfg : t.cfg = tcfg
  sessions : t.sessionsByLocal.items = tcfg.sessions.map fun scfg =>
    (scfg.localSid, { config := scfg.toConfig tcfg })
  state : t.fsm.state = .waitCtlReply
  pending : ∃ p ∈ t.peer.sendQueue, wire hmac tcfg p.msg = .ok bs ∧
    getMessageType p.msg.avps = .ok (some MessageType.sccrq.code)

/-- The tunnel machine of an entry, waiting for the reply. -/
def waiting (tcfg : TunnelConfigEntry) : TunnelFSM :=
  { config := tcfg.toConfig, state := .waitCtlReply }

/-- The start of a tunnel just constructed sends the SCCRQ, which the loader lets be built. -/
theorem start_eq (hmac : Hmac) (hacc : tcfg.Accepted) {w : World δ} (hw : w.tunnel = Tunnel.init tcfg) :
    ∃ sccrq, buildSccrxAvps .sccrq tcfg.toConfig.sccrxArgs = .ok sccrq ∧
      Tunnel.start hmac w = send hmac sccrq (w.withFsm (waiting tcfg)) := by
  obtain ⟨sccrq, hbuilt⟩ := Crash.buildSccrx_of_accepted hacc .sccrq
  refine ⟨sccrq, hbuilt, ?_⟩
  have hfsm : w.tunnel.fsm = { config := tcfg.toConfig } := by rw [hw]; rfl
  have hcall : TunnelFSM.onLocalOpen w.tunnel.fsm
      = (.ok [.sendMessage sccrq], waiting tcfg) := by
    have hbuilt' : buildSccrqAvps tcfg.toConfig.sccrxArgs = .ok sccrq := hbuilt
    simp [hfsm, TunnelFSM.onLocalOpen, hbuilt', TunnelFSM.transition, waiting]
  show (onFsm TunnelFSM.onLocalOpen >>= executeTunnelActions hmac) w = _
  rw [bind_apply, onFsm_apply, hcall]
  exact each_singleton (w.withFsm (waiting tcfg)) (executeTunnelAction hmac) _

/-- **The start of a tunnel** whose texts fit. -/
theorem start_begun (hmac : Hmac) (hacc : tcfg.Accepted) (hfit : Restart.TextsFit tcfg) {w : World δ}
    (hw : w.tunnel = Tunnel.init tcfg) : ∃ bs w', Tunnel.start hmac w = (.ok (), w') ∧
      w'.sent = w.sent ++ [bs] ∧ Begun hmac tcfg bs w'.tunnel := by
  obtain ⟨sccrq, hbuilt, hstart⟩ := start_eq hmac hacc hw
  have hregular := (Crash.sendable_tunnel hacc hfit.1 hfit.2).regular .sccrq _ hbuilt
  have htunnel : (w.withFsm (waiting tcfg)).tunnel = { Tunnel.init tcfg with fsm := waiting tcfg } := by
    rw [← hw]
    rfl
  have hready : (w.withFsm (waiting tcfg)).tunnel.Ready := by
    rw [htunnel]
    exact ⟨Peer.sound_init .., hacc.remoteCcid⟩
  obtain ⟨msg, peer, bs, hsend, hwire, hrun⟩ := send_ok hmac hready hregular
  obtain ⟨-, hmsg, encoded, -, hpeer⟩ := Peer.send_eq_ok.mp hsend
  have hcfg : w.tunnel.cfg = tcfg := by rw [hw]; rfl
  -- the table of the sessions is as it was built
  refine ⟨bs, _, hstart.trans hrun, rfl, ⟨hcfg, ?_, rfl, ?_⟩⟩
  · show w.tunnel.sessionsByLocal.items = _
    rw [hw]
    exact items_init hacc.sessionSids
  · refine ⟨⟨msg, encoded, w.clock 0, 0, w.tunnel.peer.retransmitInterval⟩, ?_, hcfg ▸ hwire, ?_⟩
    · show _ ∈ peer.sendQueue
      rw [hpeer]
      exact List.mem_append_right _ List.mem_cons_self
    · rw [hmsg]
      exact getMessageType_of_tagged (buildSccrxAvps_tagged hbuilt)

/-- A start that returns has sent the SCCRQ, so the texts in it fit. -/
theorem fits_of_start (hacc : tcfg.Accepted) {w : World δ} (hw : w.tunnel = Tunnel.init tcfg)
    (h : Returns (Tunnel.start hmac) w) : Restart.TextsFit tcfg := by
  obtain ⟨sccrq, hbuilt, hstart⟩ := start_eq hmac hacc hw
  rw [Returns, hstart] at h
  obtain ⟨a, ha⟩ := h
  -- a message that was sent was encoded
  rcases send_cases hmac sccrq (w.withFsm (waiting tcfg)) with ⟨e, -, hs⟩ | ⟨msg, peer, hsend, -⟩
  · rw [hs] at ha
    cases ha
  · obtain ⟨-, hmsg, encoded, henc, -⟩ := Peer.send_eq_ok.mp hsend
    have hplain := (ControlMessage.wellFormed_of_encode henc).avps_plain
    rw [hmsg] at hplain
    exact buildSccrxAvps_fits hbuilt hplain

/-! ## The table

`start` makes a round for each entry. A round for a CCID that is in the table already overwrites the
tunnel that is there, while its datagram is on the way; the table is complete as long as that does
not happen. -/

/-- The table holds one tunnel for each entry, in order and under its CCID, and every datagram
sent is the pending SCCRQ of one of them. -/
structure Complete (hmac : Hmac) (tunnels : List TunnelConfigEntry) (d : Daemon δ) : Prop where
  tunnels : List.Forall₂ (fun tcfg item => item.1 = tcfg.localCcid ∧ ∃ bs,
    Begun hmac tcfg bs item.2) tunnels d.tunnels.items
  sent : ∀ address bs, (address, bs) ∈ d.sent → ∃ ccid t tcfg, d.tunnels.get? ccid = some t ∧
    Begun hmac tcfg bs t ∧ tcfg.localCcid = ccid ∧ tcfg.remoteAddress = address

omit [Dataplane δ] in
/-- The table holds the CCIDs of the entries, in their order. -/
theorem Complete.keys {tunnels : List TunnelConfigEntry} {d : Daemon δ}
    (h : Complete hmac tunnels d) : d.tunnels.keys = tunnels.map (·.localCcid) := by
  have hkeys : List.Forall₂ (· = ·) (tunnels.map (·.localCcid)) d.tunnels.keys := by
    rw [Dict.keys, List.forall₂_map_left_iff, List.forall₂_map_right_iff]
    exact h.tunnels.imp fun _ _ hitem => hitem.1.symm
  rw [List.forall₂_eq_eq_eq] at hkeys
  exact hkeys.symm

/-- One round of `start`. -/
def round (hmac : Hmac) (tcfg : TunnelConfigEntry) : Prog (Daemon δ) Unit := do
  modify fun self => { self with tunnels := self.tunnels.set tcfg.localCcid (Tunnel.init tcfg) }
  let _ ← Daemon.onTunnel tcfg.localCcid (Tunnel.start hmac)

/-- A round, written out: the tunnel is added, and started. -/
theorem round_apply (hmac : Hmac) (tcfg : TunnelConfigEntry) (d : Daemon δ) :
    round hmac tcfg d = ((Tunnel.start hmac (d.world (Tunnel.init tcfg))).1,
      Daemon.put tcfg.localCcid (Tunnel.start hmac (d.world (Tunnel.init tcfg))).2
        { d with tunnels := d.tunnels.set tcfg.localCcid (Tunnel.init tcfg) }) := by
  have hworld : ({ d with tunnels := d.tunnels.set tcfg.localCcid (Tunnel.init tcfg) } :
      Daemon δ).world (Tunnel.init tcfg) = d.world (Tunnel.init tcfg) := rfl
  rw [round, modify_bind_apply, bind_apply, Daemon.onTunnel_some _ (Dict.get?_set_self _ _ _), hworld]
  rcases Tunnel.start hmac (d.world (Tunnel.init tcfg)) with ⟨e | ⟨⟩, w⟩ <;> rfl

/-- **A round** for a CCID that the table does not hold yet adds the tunnel and its SCCRQ. -/
theorem Complete.round {tunnels : List TunnelConfigEntry} {d : Daemon δ} (h : Complete hmac tunnels d)
    (hacc : tcfg.Accepted) (hfit : Restart.TextsFit tcfg)
    (hnew : tcfg.localCcid ∉ tunnels.map (·.localCcid)) :
    ∃ d', round hmac tcfg d = (.ok (), d') ∧ Complete hmac (tunnels ++ [tcfg]) d' := by
  obtain ⟨bs, w, hrun, hsent, hbegun⟩ := start_begun hmac hacc hfit
    (show (d.world (Tunnel.init tcfg)).tunnel = Tunnel.init tcfg from rfl)
  have hfree : tcfg.localCcid ∉ d.tunnels.keys := h.keys ▸ hnew
  refine ⟨_, by rw [round_apply, hrun], ?_, ?_⟩
  · show List.Forall₂ _ _ (((d.tunnels.set _ _).set _ w.tunnel).items)
    rw [Dict.set_set, Dict.items_set_of_notMem _ hfree]
    exact List.rel_append h.tunnels (.cons ⟨rfl, bs, hbegun⟩ .nil)
  · intro address bs' hmem
    have hmem' : (address, bs') ∈ d.sent ++ w.sent.map fun wire => (w.tunnel.cfg.remoteAddress, wire) :=
      hmem
    have hget : ∀ k, ((d.tunnels.set tcfg.localCcid (Tunnel.init tcfg)).set tcfg.localCcid
        w.tunnel).get? k = if tcfg.localCcid = k then some w.tunnel else d.tunnels.get? k := by
      intro k
      rw [Dict.set_set, Dict.get?_set]
    rw [hsent, hbegun.cfg] at hmem'
    -- a datagram of an earlier round, or the SCCRQ of this one
    rcases List.mem_append.mp hmem' with hold | hmine
    · obtain ⟨ccid, t, other, ht, hbegun', hccid, haddress⟩ := h.sent address bs' hold
      refine ⟨ccid, t, other, ?_, hbegun', hccid, haddress⟩
      refine (hget ccid).trans ((if_neg ?_).trans ht)
      rintro rfl
      exact hfree (Dict.mem_keys_iff.mpr ⟨t, ht⟩)
    · obtain ⟨rfl, rfl⟩ : tcfg.remoteAddress = address ∧ bs = bs' := by
        simpa [Daemon.world, eq_comm] using hmine
      exact ⟨tcfg.localCcid, w.tunnel, tcfg, (hget _).trans (if_pos rfl), hbegun, rfl, rfl⟩

/-- **The loop** over the remaining entries. -/
theorem Complete.rounds {rest tunnels : List TunnelConfigEntry} {d : Daemon δ}
    (h : Complete hmac tunnels d) (hrest : ∀ tcfg ∈ rest, tcfg.Accepted ∧ Restart.TextsFit tcfg)
    (hnodup : ((tunnels ++ rest).map (·.localCcid)).Nodup) :
    ∃ d', each (Startup.round hmac) rest d = (.ok (), d') ∧ Complete hmac (tunnels ++ rest) d' := by
  induction rest generalizing tunnels d with
  | nil => exact ⟨d, rfl, by rwa [List.append_nil]⟩
  | cons tcfg rest ih =>
    obtain ⟨hacc, hfit⟩ := hrest tcfg List.mem_cons_self
    -- the CCIDs of the entries are distinct
    have hnew : tcfg.localCcid ∉ tunnels.map (·.localCcid) := by
      rw [List.map_append, List.map_cons] at hnodup
      exact fun hmem => (List.nodup_append.mp hnodup).2.2 _ hmem _ List.mem_cons_self rfl
    obtain ⟨d₁, hround, h₁⟩ := h.round hacc hfit hnew
    rw [List.append_cons] at hnodup ⊢
    rw [each, bind_apply_of_ok _ _ hround]
    exact ih h₁ (fun t ht => hrest t (List.mem_cons_of_mem _ ht)) hnodup

/-! ## The tree

The CCIDs and the texts are read from the tables of the file, as the loader reads them. -/

/-- The CCIDs of the tables, as they are read. -/
def localCcids (data : Table) : List (Option Int) :=
  match data.getOr "tunnel" (.array []) with
  | .array items => items.map fun item =>
    match item with
    | .table t => (Table.get t "local_ccid").bind Toml.asInt
    | _ => none
  | _ => []

/-- The host name and the vendor name of every table fit their AVPs. -/
def TextsFit (data : Table) : Prop :=
  ∀ items t, data.getOr "tunnel" (.array []) = .array items → .table t ∈ items →
    (∀ name, Table.get t "host_name" = some (.string name) → (utf8 name).length ≤ 1017) ∧
    ∀ name, Table.get t "vendor_name" = some (.string name) → (utf8 name).length ≤ 1017

/-- The CCID of an entry is read from its table. -/
theorem localCcid_of_parseTunnel {source : String} {room : StrRoom} {t : Table} {index : Nat}
    {entry : TunnelConfigEntry} (h : parseTunnel source room t index = .ok entry) :
    (t.get "local_ccid").bind Toml.asInt = some entry.localCcid := by
  simp only [parseTunnel, bind_eq_ok, require_eq_ok] at h
  obtain ⟨name, -, localAddress, -, remoteAddress, -, localCcid, hccid, hostName, -, routerIdRaw, -,
    -, -, -, -, routerId, -, -, -, remoteCcid, -, -, -, password, -, digestAlgRaw, -, digestAlg,
    -, hello, -,
    retransmit, -, maxRetries, -, window, -, -, -, -, -, helloInterval, -, retransmitInterval, -, -, -,
    -, -, vendorName, -, firmware, -, sessions, -, hentry⟩ := h
  cases hentry
  obtain ⟨v, hget, hcast⟩ := req_ok hccid
  rw [hget]
  exact hcast

/-- What an accepted file keeps of its tunnels: their CCIDs, and whether their texts fit. -/
theorem conditions_of_parse {source : String} {room : StrRoom} {data : Table}
    {global : GlobalConfig} {cfg : DaemonConfig}
    (h : parse source room (.ok data) = .ok (global, cfg)) :
    localCcids data = cfg.tunnels.map (fun tcfg => some tcfg.localCcid) ∧
    (TextsFit data ↔ ∀ tcfg ∈ cfg.tunnels, Restart.TextsFit tcfg) := by
  obtain ⟨⟨items, hitems, hall⟩, -⟩ := parse_tunnels (R := fun t entry => ReadTunnel t entry ∧
    (t.get "local_ccid").bind Toml.asInt = some entry.localCcid)
    (fun _ _ _ hparse => ⟨parseTunnel_ok hparse, localCcid_of_parseTunnel hparse⟩) h
  -- the texts of an entry are those of its table
  have htexts : ∀ {t : Table} {entry : TunnelConfigEntry}, ReadTunnel t entry →
      (((∀ name, t.get "host_name" = some (.string name) → (utf8 name).length ≤ 1017) ∧
        ∀ name, t.get "vendor_name" = some (.string name) → (utf8 name).length ≤ 1017) ↔
      Restart.TextsFit entry) := by
    intro t entry hread
    refine and_congr ⟨fun hfit => hfit _ hread.hostName, fun hfit name hname => ?_⟩
      ⟨fun hfit name hname => hfit name (by rw [hread.vendorName, hname]; rfl),
        fun hfit name hname => ?_⟩
    · rw [hread.hostName] at hname
      cases hname
      exact hfit
    · rw [hread.vendorName] at hname
      obtain ⟨name', hname', heq⟩ := Option.map_eq_some_iff.mp hname
      cases heq
      exact hfit _ hname'
  refine ⟨?_, fun hfit tcfg htcfg => ?_, fun hfit items' t hitems' hmem => ?_⟩
  · rw [localCcids, hitems]
    -- entry by entry, in the order of the array
    have hmap : List.Forall₂ (· = ·) (items.map fun item =>
        match item with
        | .table t => (Table.get t "local_ccid").bind Toml.asInt
        | _ => none) (cfg.tunnels.map fun tcfg => some tcfg.localCcid) := by
      rw [List.forall₂_map_left_iff, List.forall₂_map_right_iff]
      refine hall.imp fun item entry hitem => ?_
      obtain ⟨t, rfl, -, hccid⟩ := hitem
      exact hccid
    rw [List.forall₂_eq_eq_eq] at hmap
    exact hmap
  · obtain ⟨item, hitem, t, rfl, hread, -⟩ := forall₂_mem hall.flip htcfg
    exact (htexts hread).mp (hfit items t hitems hitem)
  · obtain rfl : items = items' := by
      rw [hitems] at hitems'
      exact Toml.array.inj hitems'
    obtain ⟨tcfg, htcfg, t', ht', hread, -⟩ := forall₂_mem hall hmem
    cases ht'
    exact (htexts hread).mpr (hfit tcfg htcfg)

/-- **One running tunnel per entry.** For a file that is accepted, `start` returns and leaves the
table complete if and only if the CCIDs in the tree are distinct and its texts fit. Conversely to
the loop of `Complete.rounds`, a complete table has distinct keys, and a round that returned has
sent its SCCRQ. -/
theorem complete_iff (hmac : Hmac) (source : String) (room : StrRoom) (data : Table)
    (global : GlobalConfig) (cfg : DaemonConfig)
    (h : parse source room (.ok data) = .ok (global, cfg)) (dataplane : Option δ)
    (clock : Nat → ℚ) :
    (∃ d, Daemon.start hmac (Daemon.init cfg dataplane clock) = (.ok (), d) ∧
      Complete hmac cfg.tunnels d) ↔ (localCcids data).Nodup ∧ TextsFit data := by
  have hacc := (accepted_of_parse h).tunnels
  obtain ⟨hccids, htexts⟩ := conditions_of_parse h
  have hnodup : (localCcids data).Nodup ↔ (cfg.tunnels.map (·.localCcid)).Nodup := by
    have hmap : cfg.tunnels.map (fun tcfg => some tcfg.localCcid)
        = (cfg.tunnels.map (·.localCcid)).map some := by simp
    rw [hccids, hmap, List.nodup_map_iff (Option.some_injective Int)]
  have hstart : Daemon.start hmac (Daemon.init cfg dataplane clock)
      = each (round hmac) cfg.tunnels (Daemon.init cfg dataplane clock) := rfl
  rw [hnodup, htexts, hstart]
  constructor
  · rintro ⟨d, hrun, hcomplete⟩
    refine ⟨hcomplete.keys ▸ d.tunnels.nodup, fun tcfg htcfg => ?_⟩
    -- the round of the entry returned, so its SCCRQ went out
    obtain ⟨d₁, a, hround⟩ := Returns.of_each ⟨(), by rw [hrun]⟩ tcfg htcfg
    rw [round_apply] at hround
    exact fits_of_start (hacc tcfg htcfg) (show (d₁.world _).tunnel = _ from rfl) ⟨a, hround⟩
  · rintro ⟨hdistinct, hfit⟩
    have hempty : Complete hmac [] (Daemon.init cfg dataplane clock) := ⟨.nil, by simp [Daemon.init]⟩
    exact hempty.rounds (fun tcfg htcfg => ⟨hacc tcfg htcfg, hfit tcfg htcfg⟩) hdistinct

/-- A table of a tunnel to `remote`. -/
def tunnelTable (name remote : String) (ccid : Int) : Toml :=
  .table [
    ("name", .string name),
    ("local_address", .string "192.0.2.1"),
    ("remote_address", .string remote),
    ("local_ccid", .integer ccid),
    ("host_name", .string "xcesp-router"),
    ("router_id", .string "10.0.0.1")]

/-- A file with two tunnels, the first of which has CCID 100. -/
def twoTunnels (ccid : Int) : Table :=
  [("tunnel", .array [tunnelTable "east" "192.0.2.2" 100, tunnelTable "west" "198.51.100.2" ccid])]

theorem twoTunnels_fit (ccid : Int) : TextsFit (twoTunnels ccid) := by
  intro items t hitems ht
  cases hitems
  simp only [List.mem_cons, List.not_mem_nil, or_false, tunnelTable, Toml.table.injEq] at ht
  rcases ht with rfl | rfl <;> exact ⟨fun name hname => by cases hname; decide, fun name hname => by
    cases hname⟩

/-- Two entries with CCIDs of their own: both tunnels are there, and have asked. -/
theorem complete_iff_twoTunnels :
    ∃ global cfg d, parse "l2tpv3d.toml" .usual (.ok (twoTunnels 200)) = .ok (global, cfg) ∧
      Daemon.start ControlMessage.sumHmac (Daemon.init cfg (none : Option MockDataplane) fun _ => 0)
        = (.ok (), d) ∧ cfg.tunnels.length = 2 ∧
      Complete ControlMessage.sumHmac cfg.tunnels d := by
  obtain ⟨d, hrun, hcomplete⟩ := (complete_iff ControlMessage.sumHmac "l2tpv3d.toml" .usual
    (twoTunnels 200) _ _ rfl (none : Option MockDataplane) fun _ => 0).mpr ⟨by decide, twoTunnels_fit 200⟩
  exact ⟨_, _, d, rfl, hrun, rfl, hcomplete⟩

/-- Two tunnels with one CCID are accepted: both send their SCCRQ, and only the second is kept. -/
theorem overwritten :
    ∃ global cfg, parse "l2tpv3d.toml" .usual (.ok (twoTunnels 100)) = .ok (global, cfg) ∧
      cfg.tunnels.length = 2 ∧
      (Daemon.start ControlMessage.sumHmac
        (Daemon.init cfg (none : Option MockDataplane) fun _ => 0)).2.sent.map Prod.fst
          = ["192.0.2.2", "198.51.100.2"] ∧
      (Daemon.start ControlMessage.sumHmac
        (Daemon.init cfg (none : Option MockDataplane) fun _ => 0)).2.tunnels.items.map
          (fun item => item.2.cfg.remoteAddress) = ["198.51.100.2"] ∧
      ¬ ∃ d, Daemon.start ControlMessage.sumHmac
        (Daemon.init cfg (none : Option MockDataplane) fun _ => 0) = (.ok (), d) ∧
        Complete ControlMessage.sumHmac cfg.tunnels d := by
  refine ⟨_, _, rfl, rfl, by decide +kernel, by decide +kernel, ?_⟩
  rintro ⟨d, -, hcomplete⟩
  have hnodup : (d.tunnels.items.map Prod.fst).Nodup := d.tunnels.nodup
  rw [show d.tunnels.items.map Prod.fst = [100, 100] from hcomplete.keys] at hnodup
  simp at hnodup

end Startup

end L2tpv3d
