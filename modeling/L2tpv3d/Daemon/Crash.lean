import L2tpv3d.Daemon.Dispatch
import L2tpv3d.Daemon.Parts
import L2tpv3d.Fsm.Sendable

/-!
# L2tpv3d — which datagrams end the daemon

An exception that `_dispatch_datagram` lets through ends the receive loop, and with it the
daemon. The decoder and the field parsers are guarded; `get_message_type` in
`handle_datagram` is not, and it raises on a Message Type AVP that is not two bytes long.

* `Good` — everything the tunnel may have to send can be sent; every handler keeps it,
  whether it returns or raises.
* `handleDatagram_returns_iff` — one tunnel, **`dispatchDatagram_returns_iff`** — the daemon.
-/

namespace L2tpv3d

open Py Prog

namespace Crash

open Tunnel World

variable {δ : Type} {hmac : Hmac}

/-- Every message that the tunnel may have to send can be sent. -/
structure Good (t : Tunnel) : Prop where
  ready : t.Ready
  fsm : t.fsm.Sendable
  sessions : ∀ sid s, t.sessionsByLocal.get? sid = some s → s.Sendable

/-! ## Construction

The loader checks every number that goes into a message, but neither the length of a text nor a
connect speed. -/

/-- The loader checks what the builders of the call messages check, but for the speeds. -/
theorem buildable_session {scfg : SessionConfigEntry} (hacc : scfg.Accepted)
    (htx : ∀ v, scfg.txConnectSpeed = some v → 0 ≤ v ∧ v ≤ 0xFFFFFFFFFFFFFFFF)
    (hrx : ∀ v, scfg.rxConnectSpeed = some v → 0 ≤ v ∧ v ≤ 0xFFFFFFFFFFFFFFFF)
    (cfg : TunnelConfigEntry) : SessionFSM.Buildable { config := scfg.toConfig cfg } where
  callArgs := by
    have hsub : 0 ≤ scfg.l2SpecificSublayer ∧ scfg.l2SpecificSublayer ≤ 0xFFFF := by
      have := hacc.l2SpecificSublayer
      omega
    have hseq : 0 ≤ scfg.dataSequencing ∧ scfg.dataSequencing ≤ 0xFFFF := by
      have := hacc.dataSequencing
      omega
    exact ⟨⟨hacc.localSid.1.le, hacc.localSid.2⟩, hsub, hseq, hacc.circuitStatus, htx, hrx⟩
  pseudowireType := by
    show 0 ≤ scfg.pseudowireType.code ∧ scfg.pseudowireType.code ≤ 0xFFFF
    cases scfg.pseudowireType <;> decide
  cookie := hacc.cookie
  peerSid := ⟨le_refl _, by show (0 : Int) ≤ 0xFFFFFFFF; decide⟩

/-- With the texts bounded as well, every message of a session can be sent. -/
theorem sendable_session {scfg : SessionConfigEntry} (hacc : scfg.Accepted) (henc : scfg.Encodes)
    (cfg : TunnelConfigEntry) : SessionFSM.Sendable { config := scfg.toConfig cfg } := by
  have hb := buildable_session hacc henc.txConnectSpeed henc.rxConnectSpeed cfg
  exact ⟨hb.callArgs, hb.pseudowireType, hb.cookie, henc.name, hb.peerSid⟩

/-- The loader checks what the builders of SCCRQ and SCCRP check. -/
theorem buildSccrx_of_accepted {cfg : TunnelConfigEntry} (hacc : cfg.Accepted) (mt : MessageType) :
    ∃ avps, buildSccrxAvps mt cfg.toConfig.sccrxArgs = .ok avps := by
  have hwindow := hacc.receiveWindow
  refine buildSccrxAvps_exists mt hacc.routerId ⟨hacc.localCcid.1.le, hacc.localCcid.2⟩ ?_ ?_
    hacc.firmwareRevision rfl
  · show 0 ≤ cfg.receiveWindow ∧ cfg.receiveWindow ≤ 0xFFFF
    omega
  · show [PseudowireType.ethernet.code, PseudowireType.ethernetVlan.code] ≠ [] ∧
      ∀ t ∈ [PseudowireType.ethernet.code, PseudowireType.ethernetVlan.code], 0 ≤ t ∧ t ≤ 0xFFFF
    decide

/-- So can every message of the tunnel machine: its configuration never changes. -/
theorem sendable_tunnel {cfg : TunnelConfigEntry} (hacc : cfg.Accepted)
    (hhost : (utf8 cfg.hostName).length ≤ 1017)
    (hvendor : ∀ n, cfg.vendorName = some n → (utf8 n).length ≤ 1017) :
    TunnelFSM.Sendable { config := cfg.toConfig } where
  localCcid := ⟨hacc.localCcid.1.le, hacc.localCcid.2⟩
  built := buildSccrx_of_accepted hacc
  regular mt avps h := by
    refine buildSccrxAvps_regular h hhost ?_ hvendor ?_
    · show [PseudowireType.ethernet.code, PseudowireType.ethernetVlan.code].length ≤ 508
      decide
    · rintro n ⟨⟩

/-- **A tunnel that has just been built is good.** -/
theorem good_init {cfg : TunnelConfigEntry} (hacc : cfg.Accepted) (henc : cfg.Encodes) :
    Good (Tunnel.init cfg) where
  ready := ⟨Peer.sound_init _ _ _ _ _, hacc.remoteCcid⟩
  fsm := sendable_tunnel hacc henc.hostName henc.vendorName
  sessions := by
    intro sid s hs
    obtain ⟨scfg, hmem, -, rfl⟩ := get?_init hs
    exact sendable_session (hacc.sessions scfg hmem) (henc.sessions scfg hmem) _

/-! ## The invariant

The invariant is a list of properties of the parts of a tunnel, each kept by the part on its own. -/

/-- The same, part by part. -/
def goodParts : Parts where
  cfg _ := True
  peer p := p.Sound ∧ IsU32 p.remoteCcid
  fsm := TunnelFSM.Sendable
  session _ := SessionFSM.Sendable

/-- The invariant, part by part. -/
theorem good_iff (t : Tunnel) : Good t ↔ goodParts.Holds t :=
  ⟨fun h => ⟨trivial, ⟨h.ready.sound, h.ready.remoteCcid⟩, h.fsm, h.sessions⟩,
    fun h => ⟨⟨h.peer.1, h.peer.2⟩, h.fsm, h.sessions⟩⟩

/-- **No part of it is broken by what a handler does.** -/
theorem goodParts_stable : goodParts.Stable where
  link h hpq := ⟨hpq.sound h.1, hpq.remoteCcid ▸ h.2⟩
  learn h hlearn := ⟨⟨h.1.ns, h.1.nr⟩, (Dispatch.learnCcid_isU32 hlearn).mpr h.2⟩
  receive msg h := by
    obtain ⟨hsound, -, hremote, -⟩ := Peer.receive_frame _ msg h.1
    exact ⟨hsound, hremote ▸ h.2⟩
  tick now h := by
    obtain ⟨hsound, -, hremote, -⟩ := Peer.tick_frame _ now h.1
    exact ⟨hsound, hremote ▸ h.2⟩
  fsm hout h := h.of_config hout.config_eq
  session hout h := hout.sendable h

/-- What keeps the parts good keeps the tunnel good. -/
theorem keeps_good {α : Type} {m : Prog (World δ) α}
    (h : Keeps (fun w => goodParts.Holds w.tunnel) m) : Keeps (fun w => Good w.tunnel) m :=
  fun w hw => (good_iff _).mpr (h w ((good_iff _).mp hw))

variable [Dataplane δ]

/-- A call of a session keeps it. -/
theorem keeps_sessionCall {m : Prog SessionFSM (List SessionAction)} (hm : SessionFSM.Method m)
    (sid : Int) : Keeps (fun w : World δ => Good w.tunnel) (callSession hmac sid m id) :=
  keeps_good (goodParts_stable.sessionCall hm sid onlyIndex_id)

omit [Dataplane δ] in
theorem Good.executed {w w' : World δ} (h : Good w.tunnel) (hw : Executed w w') : Good w'.tunnel :=
  (good_iff _).mpr (goodParts_stable.executed ((good_iff _).mp h) hw)

/-! ## What returns

A handler returns if the methods it calls return and what it sends can be sent. The one exception is
the Message Type of a message that is handed over. -/

/-- The actions of a session return when their messages are regular. -/
theorem returns_sessionActions {actions : List SessionAction}
    (hreg : ∀ avps, .sendMessage avps ∈ actions → Regular avps) {w : World δ} (h : Good w.tunnel) :
    Returns (executeSessionActions hmac actions) w := by
  refine Returns.each (I := fun w : World δ => Good w.tunnel) ?_ ?_ h
  · exact fun a _ w h => h.executed (executed_sessionAction hmac a w)
  · intro a ha w h
    -- nothing but a send could raise
    by_cases hsend : ∀ avps, a ≠ .sendMessage avps
    · exact ⟨(), executeSessionAction_ok hsend w⟩
    · simp only [not_forall, not_not] at hsend
      obtain ⟨avps, rfl⟩ := hsend
      obtain ⟨_, _, _, -, -, hrun⟩ := send_ok hmac h.ready (hreg avps ha)
      exact ⟨(), by rw [executeSessionAction, hrun]⟩

/-- **A call of a session returns** when its method does. -/
theorem returns_sessionCall {m : Prog SessionFSM (List SessionAction)} (hm : SessionFSM.Method m)
    (hret : ∀ s, SessionFSM.Sendable s → Returns m s) (sid : Int) {g : Tunnel → Tunnel}
    (hg : OnlyIndex g) {w : World δ} (h : Good w.tunnel) :
    Returns (callSession hmac sid m g) w := by
  -- no such session; a method that raised; a method that returned actions
  rcases callSession_cases hmac sid m hg w with ⟨r, -, hrun⟩ | ⟨s, s', e, hget, hcall, hrun⟩ |
    ⟨s, s', actions, r, hget, hcall, hrun⟩
  · exact ⟨(), by rw [hrun]⟩
  · obtain ⟨actions, hactions⟩ := hret s (h.sessions sid s hget)
    rw [hcall] at hactions
    cases hactions
  · have hsess := h.sessions sid s hget
    have hout := hm s
    rw [hcall] at hout
    have hset : Good (w.withSession sid s').tunnel :=
      (good_iff _).mpr (((good_iff _).mp h).withSession (hout.sendable hsess))
    rw [Returns, hrun]
    exact returns_sessionActions (fun _ hmem => (hout.sent hmem).2 (.inr hsess.name))
      ⟨⟨hset.ready.sound, hset.ready.remoteCcid⟩, hset.fsm, hset.sessions⟩

theorem returns_eachSession {m : Prog SessionFSM (List SessionAction)} (hm : SessionFSM.Method m)
    (hret : ∀ s, SessionFSM.Sendable s → Returns m s) {w : World δ} (h : Good w.tunnel) :
    Returns (eachSession hmac m) w :=
  Returns.each (fun sid _ => keeps_sessionCall hm sid)
    (fun sid _ _ h => returns_sessionCall hm hret sid onlyIndex_id h) h

/-- The actions of the tunnel machine, with the calls that two of them make. -/
theorem returns_tunnelActions {actions : List TunnelAction}
    (hreg : ∀ avps, .sendMessage avps ∈ actions → Regular avps) {w : World δ} (h : Good w.tunnel) :
    Returns (executeTunnelActions hmac actions) w := by
  refine Returns.each (I := fun w : World δ => Good w.tunnel)
    (fun a _ => keeps_good (goodParts_stable.tunnelAction a)) ?_ h
  intro a ha w h
  cases a with
  | sendMessage avps =>
    obtain ⟨_, _, _, -, -, hrun⟩ := send_ok hmac h.ready (hreg avps ha)
    exact ⟨(), by rw [executeTunnelAction, hrun]⟩
  | setHelloTimer seconds => exact ⟨(), rfl⟩
  | clearHelloTimer => exact ⟨(), rfl⟩
  | established =>
    exact returns_eachSession SessionFSM.method_onTunnelEstablished
      (fun _ hs => SessionFSM.onTunnelEstablished_returns hs.buildable)
      (w := { w with notices := w.notices ++ [.established] }) h
  | tornDown reason =>
    -- the cascade returns, and then at most a call of the dataplane is left
    obtain ⟨w', hdown, -⟩ := eachSession_down hmac { w with notices := w.notices ++ [.tornDown reason] }
    rw [Returns, executeTunnelAction, modify_bind_apply, bind_apply_of_ok _ _ hdown, get_bind_apply]
    split
    · obtain ⟨r, dataplane, faults, hrun⟩ := onDataplane_frame
        (Dataplane.delTunnel (δ := δ) w'.tunnel.cfg.localCcid) w'
      rw [bind_apply_of_ok _ _ hrun]
      exact ⟨(), rfl⟩
    · exact ⟨(), rfl⟩

/-- **A method of the tunnel machine**, with its actions. -/
theorem returns_drive {m : Prog TunnelFSM (List TunnelAction)} (hm : TunnelFSM.Method m) {w : World δ}
    (h : Good w.tunnel) (hret : Returns m w.tunnel.fsm) : Returns (drive hmac m) w := by
  obtain ⟨actions, hactions⟩ := hret
  have hout := hm w.tunnel.fsm
  rw [hactions] at hout
  have hgood : Good (w.withFsm (m w.tunnel.fsm).2).tunnel :=
    ⟨⟨h.ready.sound, h.ready.remoteCcid⟩, h.fsm.of_config hout.config_eq, h.sessions⟩
  rw [Returns, drive_ok hmac hactions]
  exact returns_tunnelActions (fun _ hmem => hout.sent_regular h.fsm hmem) hgood

/-- **The hand-over returns exactly when the Message Type can be read.** -/
theorem dispatch_returns_iff {w : World δ} (h : Good w.tunnel) (msg : ControlMessage)
    (avps : List AVP) :
    Returns (dispatch hmac msg avps) w ↔ ∃ mt, getMessageType avps = .ok mt := by
  obtain ⟨virtual, rfl, ⟨e, he, hrun⟩ | ⟨mt, -, hmt, hrun⟩ | ⟨mt, hmt, -, hrun⟩⟩ :=
    dispatch_cases hmac msg avps w
  · rw [Returns, hrun, he]
    simp
  · refine iff_of_true ?_ ⟨_, hmt⟩
    rw [Returns, hrun]
    -- a message to no session is dropped, and the dropping returns
    rcases dispatchSessionMessage_cases hmac
      ⟨w.tunnel.peer.localCcid, msg.ns, msg.nr, avps⟩ mt w with hrun | ⟨_, _, _, sid, -, -, hrun⟩
    · exact ⟨(), by rw [hrun]⟩
    · rw [hrun]
      exact returns_sessionCall (SessionFSM.method_onMessage _)
        (fun _ hs => SessionFSM.onMessage_returns hs.buildable ⟨_, hmt⟩) sid
        (onlyIndex_indexRemote sid) (w := noted w .session _) h
  · refine iff_of_true ?_ ⟨_, hmt⟩
    rw [Returns, hrun]
    exact returns_drive (TunnelFSM.method_onMessage _) (w := noted w .tunnelFsm _) h
      (TunnelFSM.onMessage_returns h.fsm ⟨_, hmt⟩)

/-- The message that the datagram delivers, with the buffered ones it releases, starts with a
Message Type AVP that is not two bytes long. -/
def Untyped (hmac : Hmac) (t : Tunnel) (buf : Bytes) : Prop :=
  ∃ msg, unwire hmac t.cfg buf = .ok msg ∧ t.peer.inOrder msg = true ∧
    ∃ avp, findAvp ((t.peer.deliverable msg).flatMap (·.avps)) .messageType = some avp ∧
      avp.value.length ≠ 2

/-- **One tunnel** takes every other datagram. -/
theorem handleDatagram_returns_iff {w : World δ} (h : Good w.tunnel) (buf : Bytes) :
    Returns (handleDatagram hmac buf) w ↔ ¬ Untyped hmac w.tunnel buf := by
  cases hmsg : unwire hmac w.tunnel.cfg buf with
  | error e =>
    refine iff_of_true ⟨(), by rw [handleDatagram_undecoded hmac hmsg]⟩ ?_
    rintro ⟨msg, hmsg', -⟩
    rw [hmsg] at hmsg'
    cases hmsg'
  | ok msg =>
    have huntyped : Untyped hmac w.tunnel buf ↔ w.tunnel.peer.inOrder msg = true ∧
        ∃ avp, findAvp ((w.tunnel.peer.deliverable msg).flatMap (·.avps)) .messageType = some avp ∧
          avp.value.length ≠ 2 := by
      constructor
      · rintro ⟨msg', hmsg', hrest⟩
        rw [hmsg] at hmsg'
        cases hmsg'
        exact hrest
      · exact fun hrest => ⟨msg, hmsg, hrest⟩
    rw [huntyped]
    -- a message that is not the next one is not handed over
    cases hin : w.tunnel.peer.inOrder msg with
    | false =>
      obtain ⟨_, _, r, -, hr, hrun⟩ := Dispatch.handleDatagram_idle h.ready.sound hmsg hin
      exact iff_of_true ⟨(), by rw [hrun, hr h.ready.remoteCcid]⟩ (by simp)
    | true =>
      obtain ⟨ccid, acks, peer, hccid, rfl, -, ⟨hnu, -⟩ | ⟨-, hrun⟩⟩ :=
        Dispatch.handleDatagram_next h.ready.sound hmsg hin
      · exact absurd h.ready.remoteCcid hnu
      · have hframe := Peer.receive_frame (w.tunnel.peer.setRemoteCcid ccid) msg
          ⟨h.ready.sound.ns, h.ready.sound.nr⟩
        have hgood : Good (received w ((w.tunnel.peer.setRemoteCcid ccid).receive msg).2 acks).tunnel :=
          ⟨⟨hframe.1, hframe.2.2.1 ▸ hccid.mpr h.ready.remoteCcid⟩, h.fsm, h.sessions⟩
        rw [Returns, hrun]
        refine (dispatch_returns_iff hgood msg _).trans ?_
        rw [getMessageType_ok_iff]
        simp

/-! ## The daemon

A datagram reaches at most one tunnel, and only an exception of that tunnel's handler comes back. -/

/-- The configuration can be served, and every running tunnel is good. -/
structure Serving (d : Daemon δ) : Prop where
  accepted : ∀ t ∈ d.cfg.tunnels, t.Accepted
  encodes : ∀ t ∈ d.cfg.tunnels, t.Encodes
  good : ∀ ccid t, d.tunnels.get? ccid = some t → Good t

/-- **No event, whether its handler returns or raises, leaves a tunnel that cannot send.** -/
theorem serving_of_reach {cfg : DaemonConfig} (hacc : cfg.Accepted)
    (henc : ∀ t ∈ cfg.tunnels, t.Encodes) {dataplane : Option δ} {clock : Nat → ℚ} {d : Daemon δ}
    (hd : Transition.Reach (Daemon.step hmac) (fun _ _ => True)
      (Daemon.init cfg dataplane clock) d) : Serving d := by
  have hruns : d.Runs cfg fun _ => Good := Daemon.runs_of_reach hd
    (fun tcfg hmem => good_init (hacc.tunnels tcfg hmem) (henc tcfg hmem))
    fun _ e => keeps_good (goodParts_stable.handle e)
  exact ⟨hruns.cfg ▸ hacc.tunnels, hruns.cfg ▸ henc, hruns.tunnels⟩

/-- The tunnel that a datagram is addressed to. -/
def addressee (d : Daemon δ) (buf : Bytes) : Option Tunnel :=
  if buf.length < 12 then none else d.tunnels.get? (beNat (slice buf 4 8) : Int)

/-- What `_dispatch_datagram` does with the datagram, by its addressee. -/
theorem dispatchDatagram_cases (hmac : Hmac) (d : Daemon δ) (buf : Bytes) :
    (addressee d buf = none ∧ Daemon.dispatchDatagram hmac buf d = (.ok (), d)) ∨
    ∃ t ccid d', ccid = (beNat (slice buf 4 8) : Int) ∧ addressee d buf = some t ∧
      d.tunnels.get? ccid = some t ∧ d' = { d with clock := fun n => d.clock (n + 1) } ∧
      Daemon.dispatchDatagram hmac buf d = ((handleDatagram hmac buf (d'.world t)).1,
        d'.put ccid (handleDatagram hmac buf (d'.world t)).2) := by
  unfold addressee
  -- a datagram shorter than a header has no addressee
  by_cases hlen : buf.length < 12
  · exact .inl ⟨by rw [if_pos hlen], by simp [Daemon.dispatchDatagram, hlen]⟩
  · rw [if_neg hlen]
    have hccid : unpackFrom 4 buf 4 = .ok (beNat (slice buf 4 8) : Int) :=
      unpackFrom_eq_ok (by omega)
    cases hget : d.tunnels.get? (beNat (slice buf 4 8) : Int) with
    | none =>
      have hno : d.tunnels.contains (beNat (slice buf 4 8) : Int) = false := by
        rw [Bool.eq_false_iff, Ne, Dict.contains_iff, hget]
        simp
      exact .inl ⟨rfl, by simp [Daemon.dispatchDatagram, hlen, hccid, hno]⟩
    | some t =>
      have hyes : d.tunnels.contains (beNat (slice buf 4 8) : Int) = true :=
        Dict.contains_iff.mpr ⟨t, hget⟩
      refine .inr ⟨t, _, _, rfl, rfl, hget, rfl, ?_⟩
      have hcall := Daemon.onTunnel_some (handleDatagram hmac buf)
        (d := { d with clock := fun n => d.clock (n + 1) }) hget
      have hrun : Daemon.dispatchDatagram hmac buf d = (do
          let _ ← Daemon.onTunnel (beNat (slice buf 4 8) : Int) (handleDatagram hmac buf)
            : Prog (Daemon δ) Unit) { d with clock := fun n => d.clock (n + 1) } := by
        rw [Daemon.dispatchDatagram, if_neg hlen, hccid, ofExcept_ok_bind_apply, get_bind_apply,
          if_pos hyes]
        rfl
      rw [hrun, bind_apply, hcall]
      cases (handleDatagram hmac buf
        (Daemon.world { d with clock := fun n => d.clock (n + 1) } t)).1 <;> rfl

/-- **A datagram ends the daemon exactly when its addressee delivers it untyped.** For every
daemon built from an accepted configuration whose texts and speeds fit their AVPs, in every
state it reaches. A datagram without an addressee, or that its addressee cannot decode, is
dropped. -/
theorem dispatchDatagram_returns_iff (hmac : Hmac) (cfg : DaemonConfig) (hacc : cfg.Accepted)
    (henc : ∀ t ∈ cfg.tunnels, t.Encodes) (dataplane : Option δ) (clock : Nat → ℚ) (d : Daemon δ)
    (hd : Transition.Reach (Daemon.step hmac) (fun _ _ => True) (Daemon.init cfg dataplane clock) d)
    (buf : Bytes) :
    (Returns (Daemon.dispatchDatagram hmac buf) d ↔
      ¬ ∃ t, addressee d buf = some t ∧ Untyped hmac t buf) ∧
    ((∀ t, addressee d buf = some t → ∃ e, unwire hmac t.cfg buf = .error e) →
      ∃ d', Daemon.dispatchDatagram hmac buf d = (.ok (), d') ∧ d'.sent = d.sent ∧
        d'.dataplane = d.dataplane ∧ ∀ ccid, d'.tunnels.get? ccid = d.tunnels.get? ccid) := by
  have hserving := serving_of_reach hacc henc hd
  -- nobody's datagram is dropped; somebody's is for that tunnel to take
  rcases dispatchDatagram_cases hmac d buf with ⟨hnone, hrun⟩ |
    ⟨t, ccid, d', -, hsome, hget, rfl, hrun⟩
  · refine ⟨iff_of_true ⟨(), by rw [hrun]⟩ (by simp [hnone]), fun _ => ?_⟩
    exact ⟨d, hrun, rfl, rfl, fun _ => rfl⟩
  · generalize hw : Daemon.world { d with clock := fun n => d.clock (n + 1) } t = w at hrun
    obtain rfl : w.tunnel = t := by rw [← hw]; rfl
    constructor
    · have hiff : Returns (handleDatagram hmac buf) w ↔ ¬ Untyped hmac w.tunnel buf :=
        handleDatagram_returns_iff (hserving.good ccid _ hget) buf
      rw [Returns, hrun, hsome]
      simp only [Option.some.injEq, exists_eq_left']
      exact hiff
    · intro hbad
      obtain ⟨e, he⟩ := hbad _ hsome
      rw [handleDatagram_undecoded hmac he] at hrun
      have hsent : w.sent = [] := by rw [← hw]; rfl
      have hdataplane : w.dataplane = d.dataplane := by rw [← hw]; rfl
      refine ⟨_, hrun, by simp [Daemon.put, hsent], hdataplane, fun ccid' => ?_⟩
      rw [Daemon.put, Dict.get?_set]
      split
      · rename_i heq
        rw [← heq, hget]
      · rfl

/-- A daemon with one tunnel, without a dataplane, after it started. -/
def started : Daemon MockDataplane :=
  Daemon.step ControlMessage.sumHmac (Daemon.init ⟨[Dispatch.spoke]⟩ none fun _ => 0) .start

/-- The example's daemon after `start()`. -/
theorem started_reached : Transition.Reach (Daemon.step ControlMessage.sumHmac) (fun _ _ => True)
    (Daemon.init ⟨[Dispatch.spoke]⟩ none fun _ => 0) started :=
  .next .start trivial

/-- Its configuration passes the checks of the loader. -/
theorem spoke_accepted : DaemonConfig.Accepted ⟨[Dispatch.spoke]⟩ where
  tunnels := by
    intro t ht
    obtain rfl := List.mem_singleton.mp ht
    exact {
      localCcid := by decide
      remoteCcid := by decide
      routerId := by decide
      password := by decide
      helloInterval := by decide +kernel
      retransmitInterval := by decide +kernel
      maxRetries := by decide
      receiveWindow := by decide
      firmwareRevision := by simp [Dispatch.spoke]
      sessions := by simp [Dispatch.spoke]
      sessionNames := by decide
      sessionSids := by decide
      localCcidIsBool := nofun }
  names := by simp

theorem spoke_encodes : ∀ t ∈ [Dispatch.spoke], t.Encodes := by
  intro t ht
  obtain rfl := List.mem_singleton.mp ht
  exact ⟨by decide +kernel, by simp [Dispatch.spoke], by simp [Dispatch.spoke]⟩

/-- The HELLO of its peer is no untyped datagram. -/
theorem dispatchDatagram_returns_hello :
    ¬ ∃ t, addressee started Dispatch.hello = some t ∧
      Untyped ControlMessage.sumHmac t Dispatch.hello :=
  (dispatchDatagram_returns_iff ControlMessage.sumHmac ⟨[Dispatch.spoke]⟩ spoke_accepted spoke_encodes
    none (fun _ => 0) started started_reached Dispatch.hello).1.mp ⟨(), by decide +kernel⟩

/-- A message for `spoke` whose Message Type AVP has one byte. -/
def oddType : Bytes := (ControlMessage.mk 100 0 0 [ietfAvp .messageType [6] true]).wire

/-- A Message Type AVP of one byte, in order, from the same peer. -/
theorem oddType_raises :
    DaemonConfig.Accepted ⟨[Dispatch.spoke]⟩ ∧ (∀ t ∈ [Dispatch.spoke], t.Encodes) ∧
    Transition.Reach (Daemon.step ControlMessage.sumHmac) (fun _ _ => True)
      (Daemon.init ⟨[Dispatch.spoke]⟩ none fun _ => 0) started ∧
    ¬ Returns (Daemon.dispatchDatagram ControlMessage.sumHmac oddType) started := by
  refine ⟨spoke_accepted, spoke_encodes, started_reached, ?_⟩
  have hbad : (Daemon.dispatchDatagram ControlMessage.sumHmac oddType started).1.isOk = false := by
    decide +kernel
  rintro ⟨u, hu⟩
  rw [hu] at hbad
  cases hbad

end Crash

end L2tpv3d
