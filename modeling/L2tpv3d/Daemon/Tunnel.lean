import L2tpv3d.Daemon.Config
import L2tpv3d.Daemon.Dataplane
import L2tpv3d.Transport.Peer
import L2tpv3d.Wire.Auth

/-!
# L2tpv3d — one tunnel at run time (`main.py`, class `Tunnel`)

A `Tunnel` bundles the reliable-delivery `Peer`, the `TunnelFSM`, one `SessionFSM` per
configured session and the HELLO timer. Its methods run in a `World`: the tunnel, the
dataplane, the readings that the loop's clock will give, and a record of what left the
tunnel. A session object is named by its key in `sessionsByLocal`, so the by-remote index
maps peer session IDs to local ones.

`_execute_actions` is one loop over both kinds of action in the source; a session machine
returns no tunnel action, so the loop is two here, the tunnel's calling the session's.

The `World` records the datagrams handed to `Transport.send`, the messages handed to a state
machine, the dataplane exceptions that were caught and logged, and the up and down notices.
-/

namespace L2tpv3d

open Py

/-! ## The HELLO timer

The loop runs a callback once, unless its handle was cancelled before. A handle that is overwritten
without being cancelled would run all the same, so what is live is kept apart from the handle that
is held. -/

/-- `asyncio.TimerHandle`: what `call_later` returns. Two calls return two handles, whatever
their deadlines. -/
structure TimerHandle where
  id : Nat
  deadline : ℚ
  deriving DecidableEq

/-- The HELLO timer of a tunnel: `_hello_handle`, and the loop's share of it. `live` are the
handles whose callback the loop has yet to run: those that were neither cancelled nor run,
in the order of the calls. `made` counts the calls. -/
structure HelloTimer where
  helloHandle : Option TimerHandle := none
  live : List TimerHandle := []
  made : Nat := 0
  deriving DecidableEq

namespace HelloTimer

/-- `self._hello_handle = self._loop.call_later(…)` -/
def callLater (deadline : ℚ) (self : HelloTimer) : HelloTimer :=
  let handle : TimerHandle := ⟨self.made, deadline⟩
  { helloHandle := some handle
    live := self.live ++ [handle]
    made := self.made + 1 }

/-- `handle.cancel()` -/
def cancel (handle : TimerHandle) (self : HelloTimer) : HelloTimer :=
  { self with live := self.live.filter (·.id ≠ handle.id) }

/-- `self._hello_handle = None` -/
def forget (self : HelloTimer) : HelloTimer := { self with helloHandle := none }

/-- The branch of `SetHelloTimer`: whatever is armed is cancelled, but the handle is only
overwritten. -/
def set (deadline : ℚ) (self : HelloTimer) : HelloTimer :=
  match self.helloHandle with
  | some handle => (self.cancel handle).callLater deadline
  | none => self.callLater deadline

/-- The branch of `ClearHelloTimer`, and the end of `close`. -/
def clear (self : HelloTimer) : HelloTimer :=
  match self.helloHandle with
  | some handle => (self.cancel handle).forget
  | none => self

/-- The loop takes out the handle whose callback it is about to run. All of them were armed for
the same interval, so the first one is due first. -/
def elapse (self : HelloTimer) : HelloTimer := { self with live := self.live.tail }

/-- Some callback is still to run. -/
def armed (self : HelloTimer) : Bool := !self.live.isEmpty

/-- The one live timer, if any, is the one that `_hello_handle` holds. -/
def Sole (self : HelloTimer) : Prop := self.live = self.helloHandle.toList

/-- A tunnel that was just constructed has no timer. -/
theorem sole_init : Sole {} := rfl

/-- Cancelling what `_hello_handle` holds leaves nothing armed. -/
theorem live_cancel {self : HelloTimer} (h : self.Sole) {handle : TimerHandle}
    (hheld : self.helloHandle = some handle) : (self.cancel handle).live = [] := by
  unfold Sole at h
  rw [hheld] at h
  simp [cancel, h]

/-- **Arming leaves one timer**, the one just made. -/
theorem live_set {self : HelloTimer} (h : self.Sole) (deadline : ℚ) :
    ∃ handle, (self.set deadline).helloHandle = some handle ∧
      (self.set deadline).live = [handle] := by
  unfold set
  cases hheld : self.helloHandle with
  | some handle => simp [callLater, live_cancel h hheld]
  | none =>
    have hlive : self.live = [] := by rw [show self.live = _ from h, hheld]; rfl
    simp [callLater, hlive]

/-- Setting the timer leaves the one that is held, and no other. -/
theorem Sole.set {self : HelloTimer} (h : self.Sole) (deadline : ℚ) : (self.set deadline).Sole := by
  obtain ⟨handle, hheld, hlive⟩ := live_set h deadline
  unfold Sole
  rw [hheld, hlive]
  rfl

/-- A timer that was set is held. -/
theorem Sole.isSome_set {self : HelloTimer} (h : self.Sole) (deadline : ℚ) :
    (self.set deadline).helloHandle.isSome = true := by
  obtain ⟨handle, hheld, -⟩ := live_set h deadline
  rw [hheld]
  rfl

/-- **Clearing leaves none.** -/
theorem live_clear {self : HelloTimer} (h : self.Sole) :
    self.clear.helloHandle = none ∧ self.clear.live = [] := by
  unfold clear
  cases hheld : self.helloHandle with
  | some handle => exact ⟨rfl, live_cancel h hheld⟩
  | none => exact ⟨hheld, by rw [show self.live = _ from h, hheld]; rfl⟩

/-- Clearing the timer leaves none. -/
theorem Sole.clear {self : HelloTimer} (h : self.Sole) : self.clear.Sole := by
  obtain ⟨hheld, hlive⟩ := live_clear h
  unfold Sole
  rw [hheld, hlive]
  rfl

/-- A timer that was cleared is not held. -/
theorem Sole.isSome_clear {self : HelloTimer} (h : self.Sole) :
    ¬ self.clear.helloHandle.isSome = true := by
  rw [(live_clear h).1]
  exact Bool.false_ne_true

/-- The callback forgets the handle that has just run, so nothing is armed while it runs. -/
theorem Sole.elapse {self : HelloTimer} (h : self.Sole) : self.elapse.forget.Sole := by
  show self.live.tail = []
  rw [show self.live = _ from h]
  cases self.helloHandle <;> rfl

/-- A timer runs if and only if a handle is held. -/
theorem armed_iff {self : HelloTimer} (h : self.Sole) :
    self.armed = true ↔ self.helloHandle.isSome = true := by
  unfold armed
  rw [show self.live = _ from h]
  cases self.helloHandle <;> simp

end HelloTimer

/-- `Tunnel`: the fields that its methods read or write. `timer` holds `_hello_handle`. -/
structure Tunnel where
  cfg : TunnelConfigEntry
  peer : Peer
  fsm : TunnelFSM
  timer : HelloTimer := {}
  sessionsByLocal : Dict Int SessionFSM := .empty
  sessionsByRemote : Dict Int Int := .empty
  tunnelDpAdded : Bool := false

/-- Which machine a message is handed to. -/
inductive Target where
  | tunnelFsm
  | session
  deriving DecidableEq

/-- What a tunnel reports to its owner. -/
inductive Notice where
  | established
  | tornDown (reason : TunnelDownReason)
  deriving DecidableEq

/-- A tunnel with its surroundings. -/
structure World (δ : Type) where
  tunnel : Tunnel
  dataplane : Option δ
  /-- What the next readings of `loop.time()` return. -/
  clock : Nat → ℚ
  sent : List Bytes := []
  dispatched : List (Target × ControlMessage) := []
  faults : List Exn := []
  notices : List Notice := []

/-! ## Construction

The entries of the configuration are turned into the machines' own configurations, field by field.
-/

/-- The machine configuration of a session entry. -/
def SessionConfigEntry.toConfig (scfg : SessionConfigEntry) (cfg : TunnelConfigEntry) :
    SessionConfig where
  name := scfg.name
  localCcid := cfg.localCcid
  localSid := scfg.localSid
  pseudowireType := scfg.pseudowireType.code
  initiator := scfg.initiator
  l2SpecificSublayer := scfg.l2SpecificSublayer
  dataSequencing := scfg.dataSequencing
  circuitStatus := scfg.circuitStatus
  cookie := scfg.cookie
  peerCookie := scfg.peerCookie
  txConnectSpeed := scfg.txConnectSpeed
  rxConnectSpeed := scfg.rxConnectSpeed
  ifname := scfg.ifname
  localCcidIsBool := cfg.localCcidIsBool
  localSidIsBool := scfg.localSidIsBool

/-- The machine configuration of a tunnel entry; the capabilities keep their default. -/
def TunnelConfigEntry.toConfig (cfg : TunnelConfigEntry) : TunnelConfig where
  hostName := cfg.hostName
  routerId := cfg.routerId
  localCcid := cfg.localCcid
  receiveWindow := cfg.receiveWindow
  helloInterval := cfg.helloInterval
  vendorName := cfg.vendorName
  firmwareRevision := cfg.firmwareRevision

/-- `Tunnel.__init__` -/
def Tunnel.init (cfg : TunnelConfigEntry) : Tunnel where
  cfg := cfg
  peer := Peer.init cfg.localCcid cfg.remoteCcid cfg.receiveWindow cfg.retransmitInterval
    cfg.maxRetries
  fsm := { config := cfg.toConfig }
  sessionsByLocal := cfg.sessions.foldl
    (fun d scfg => d.set scfg.localSid { config := scfg.toConfig cfg }) .empty

/-- A tunnel just constructed, with nothing sent yet. -/
def World.init {δ : Type} (cfg : TunnelConfigEntry) (dataplane : Option δ) (clock : Nat → ℚ) :
    World δ where
  tunnel := Tunnel.init cfg
  dataplane := dataplane
  clock := clock

/-! ## Access to the parts

A method reads and writes one part of the tunnel at a time. The rest of a world is left as it is,
which the simp lemmas about these functions say field by field. -/

namespace World

open Prog

variable {δ : Type}

/-- Change the tunnel, and nothing around it. -/
def mapTunnel (f : Tunnel → Tunnel) (w : World δ) : World δ := { w with tunnel := f w.tunnel }

/-- The tunnel with another state of its peer. -/
def withPeer (peer : Peer) (w : World δ) : World δ :=
  w.mapTunnel fun t => { t with peer := peer }

/-- The tunnel with another state of its machine. -/
def withFsm (fsm : TunnelFSM) (w : World δ) : World δ :=
  w.mapTunnel fun t => { t with fsm := fsm }

/-- The tunnel with another state of the session with this local ID. -/
def withSession (sid : Int) (sess : SessionFSM) (w : World δ) : World δ :=
  w.mapTunnel fun t => { t with sessionsByLocal := t.sessionsByLocal.set sid sess }

/-- The tunnel with another index by remote session ID. -/
def withIndex (byRemote : Dict Int Int) (w : World δ) : World δ :=
  w.mapTunnel fun t => { t with sessionsByRemote := byRemote }

/-- Change the HELLO timer. -/
def mapTimer (f : HelloTimer → HelloTimer) (w : World δ) : World δ :=
  w.mapTunnel fun t => { t with timer := f t.timer }

/-- `self._loop.time()` -/
def loopTime : Prog (World δ) ℚ := do
  let w ← get
  modify fun w => { w with clock := fun n => w.clock (n + 1) }
  return w.clock 0

/-- `self._transport.send(self._remote_addr, wire)` -/
def transportSend (wire : Bytes) : Prog (World δ) Unit :=
  modify fun w => { w with sent := w.sent ++ [wire] }

/-- A call of a method of `self._fsm`. -/
def onFsm {α : Type} (m : Prog TunnelFSM α) : Prog (World δ) α :=
  zoom (·.tunnel.fsm) withFsm m

/-- A call of a method of the session object under `sid`. Every `sid` used is a key. -/
def onSession (sid : Int) (m : Prog SessionFSM (List SessionAction)) :
    Prog (World δ) (List SessionAction) := fun w =>
  match w.tunnel.sessionsByLocal.get? sid with
  | none => (.ok [], w)
  | some sess =>
    let (r, sess') := m sess
    (r, w.withSession sid sess')

/-- `try: self._dataplane.… except Exception: log`, skipped without a dataplane; whether the
call went through. -/
def onDataplane {α : Type} (call : Prog δ α) : Prog (World δ) Bool := fun w =>
  match w.dataplane with
  | none => (.ok false, w)
  | some dp =>
    match call dp with
    | (.ok _, dp') => (.ok true, { w with dataplane := some dp' })
    | (.error e, dp') => (.ok false, { w with dataplane := some dp', faults := w.faults ++ [e] })

end World

/-! ## The methods

Each method of `Tunnel` is a `Prog` over `World`. What was done before an exception stays done, as
it does in Python. -/

namespace Tunnel

open Prog World

variable {δ : Type} [Dataplane δ] (hmac : Hmac)

/-- The datagram of a message: signed when a password is configured. -/
def wire (cfg : TunnelConfigEntry) (msg : ControlMessage) : Except Exn Bytes :=
  match cfg.secret with
  | some secret => msg.encodeSigned hmac cfg.digestAlg secret
  | none => msg.encode

/-- The message of a datagram: verified when a password is configured. -/
def unwire (cfg : TunnelConfigEntry) (buf : Bytes) : Except Exn ControlMessage :=
  match cfg.secret with
  | some secret => ControlMessage.decodeAndVerify hmac buf cfg.digestAlg secret
  | none => ControlMessage.decode buf

/-- `_send` -/
def send (avps : List AVP) : Prog (World δ) Unit := do
  let now ← loopTime
  let w ← get
  let (msg, peer) ← ofExcept (w.tunnel.peer.send avps now)
  modify (withPeer peer)
  let wire ← ofExcept (wire hmac w.tunnel.cfg msg)
  transportSend wire

/-- `_ensure_tunnel_dataplane` -/
def ensureTunnelDataplane : Prog (World δ) Unit := do
  let w ← get
  if w.tunnel.tunnelDpAdded ∨ w.dataplane.isNone then return ()
  else
    let params : TunnelParams := {
      localCcid := w.tunnel.cfg.localCcid
      remoteCcid := w.tunnel.peer.remoteCcid
      localAddress := w.tunnel.cfg.localAddress
      remoteAddress := w.tunnel.cfg.remoteAddress
      localCcidIsBool := w.tunnel.cfg.localCcidIsBool }
    if ← onDataplane (Dataplane.addTunnel params) then
      modify (mapTunnel fun t => { t with tunnelDpAdded := true })
    else return ()

/-- `_execute_actions` on an action of a session machine. -/
def executeSessionAction : SessionAction → Prog (World δ) Unit
  | .sendMessage avps => send hmac avps
  | .dataplaneAddSession params => do
    ensureTunnelDataplane
    let _ ← onDataplane (Dataplane.addSession params)
  | .dataplaneDelSession localCcid localSid => do
    let _ ← onDataplane (Dataplane.delSession localCcid localSid)
  | .sessionEstablished => return ()
  | .sessionTornDown _ => return ()

/-- Carry out the actions of a session, in order. -/
def executeSessionActions (actions : List SessionAction) : Prog (World δ) Unit :=
  each (executeSessionAction hmac) actions

/-- Call a method of each session in turn, and execute the actions of each call. -/
def eachSession (m : Prog SessionFSM (List SessionAction)) : Prog (World δ) Unit := do
  let w ← get
  each (fun sid => do
    let actions ← onSession sid m
    executeSessionActions hmac actions) w.tunnel.sessionsByLocal.keys

/-- `_execute_actions` on an action of the tunnel machine. -/
def executeTunnelAction : TunnelAction → Prog (World δ) Unit
  | .sendMessage avps => send hmac avps
  | .setHelloTimer seconds => do
    let now ← loopTime
    modify (mapTimer (HelloTimer.set (now + seconds)))
  | .clearHelloTimer => modify (mapTimer HelloTimer.clear)
  | .established => do
    modify fun w => { w with notices := w.notices ++ [.established] }
    eachSession hmac SessionFSM.onTunnelEstablished
  | .tornDown reason => do
    modify fun w => { w with notices := w.notices ++ [.tornDown reason] }
    eachSession hmac SessionFSM.onTunnelDown
    let w ← get
    if w.tunnel.tunnelDpAdded ∧ w.dataplane.isSome then
      let _ ← onDataplane (Dataplane.delTunnel (δ := δ) w.tunnel.cfg.localCcid)
      modify (mapTunnel fun t => { t with tunnelDpAdded := false })
    else return ()

/-- Carry out the actions of the tunnel machine, in order. -/
def executeTunnelActions (actions : List TunnelAction) : Prog (World δ) Unit :=
  each (executeTunnelAction hmac) actions

/-- Call a method of the tunnel machine and execute the actions it returns. -/
def drive (m : Prog TunnelFSM (List TunnelAction)) : Prog (World δ) Unit := do
  let actions ← onFsm m
  executeTunnelActions hmac actions

/-- `start` -/
def start : Prog (World δ) Unit := drive hmac TunnelFSM.onLocalOpen

/-- `close` -/
def close : Prog (World δ) Unit := do
  drive hmac (TunnelFSM.onLocalClose ResultCode.adminShutdown.code)
  modify (mapTimer HelloTimer.clear)

/-- `_on_hello_timer` -/
def onHelloTimer : Prog (World δ) Unit := do
  modify (mapTimer HelloTimer.forget)
  drive hmac TunnelFSM.onHelloTimer

/-- A session's `on_local_close`, its actions executed through `_execute_actions`. -/
def closeSession (sid resultCode : Int) : Prog (World δ) Unit := do
  let actions ← onSession sid (SessionFSM.onLocalClose resultCode)
  executeSessionActions hmac actions

/-! ### Session dispatch

The choice of a session is a function of the tables and of the keys of a message. The call comes
after it. -/

/-- `_SESSION_MSG_TYPES` -/
def sessionMsgTypes : List Int :=
  [MessageType.icrq.code, MessageType.icrp.code, MessageType.iccn.code, MessageType.cdn.code]

/-- What a session message is routed by: the local session ID it names, the peer's, and the
Remote End ID. -/
def sessionKeys (mt : Int) (avps : List AVP) : Except Exn (Int × Int × Option Bytes) :=
  if mt = MessageType.cdn.code then do
    let fields ← parseCdnFields avps
    return (fields.remoteSid, fields.localSid, none)
  else do
    let fields ← parseSessionFields avps
    return (fields.remoteSid, fields.localSid, fields.remoteEndId)

/-- A session that an inbound call with this Remote End ID may be given to. -/
def candidate (endId : Option Bytes) (sess : SessionFSM) : Bool :=
  sess.state = .idle ∧ ∀ name ∈ endId, utf8 sess.config.name = name

/-- The session that `_dispatch_session_message` picks. -/
def route (t : Tunnel) (mt localTarget remoteKey : Int) (endId : Option Bytes) : Option Int :=
  if localTarget ≠ 0 ∧ t.sessionsByLocal.contains localTarget then some localTarget
  else if mt = MessageType.icrq.code then
    (t.sessionsByLocal.items.find? fun item => candidate endId item.2).map Prod.fst
  else if remoteKey ≠ 0 then t.sessionsByRemote.get? remoteKey
  else none

/-- The refresh of the by-remote index after a session took a message. -/
def indexRemote (sid : Int) (t : Tunnel) : Tunnel :=
  match t.sessionsByLocal.get? sid with
  | none => t
  | some sess =>
    if sess.peerSid ≠ 0 ∧ t.sessionsByRemote.contains sess.peerSid = false then
      { t with sessionsByRemote := t.sessionsByRemote.set sess.peerSid sid }
    else t

/-- `_dispatch_session_message` -/
def dispatchSessionMessage (msg : ControlMessage) (mt : Int) : Prog (World δ) Unit := do
  modify fun w => { w with dispatched := w.dispatched ++ [(.session, msg)] }
  match ← ofExcept (tryValueError (sessionKeys mt msg.avps)) with
  | none => return ()
  | some (localTarget, remoteKey, endId) =>
    let w ← get
    match w.tunnel.route mt localTarget remoteKey endId with
    | none => return ()
    | some sid =>
      let actions ← onSession sid (SessionFSM.onMessage msg)
      modify (mapTunnel (indexRemote sid))
      executeSessionActions hmac actions

/-! ### Datagrams and ticks

What the daemon calls for a datagram of the tunnel, and in every round of the tick loop. Both let
most exceptions through: the only ones caught are those of decoding, which drop the datagram. -/

/-- Learn the peer's CCID from the Assigned Control Connection ID AVP, once. -/
def learnCcid (peer : Peer) (msg : ControlMessage) : Except Exn Peer :=
  if peer.remoteCcid = 0 then
    match findAvp msg.avps .assignedControlConnectionId with
    | none => .ok peer
    | some avp =>
      if avp.value.length = 4 then do
        let assigned ← unpack 4 avp.value
        return if assigned ≠ 0 then peer.setRemoteCcid assigned else peer
      else .ok peer
  else .ok peer

/-- The hand-over of the delivered AVPs, wrapped as one message, to the machine that their
first Message Type AVP names. -/
def dispatch (msg : ControlMessage) (delivered : List AVP) : Prog (World δ) Unit := do
  let w ← get
  let virtual : ControlMessage := ⟨w.tunnel.peer.localCcid, msg.ns, msg.nr, delivered⟩
  match ← ofExcept (getMessageType delivered) with
  | some mt =>
    if mt ∈ sessionMsgTypes then dispatchSessionMessage hmac virtual mt
    else
      modify fun w => { w with dispatched := w.dispatched ++ [(.tunnelFsm, virtual)] }
      drive hmac (TunnelFSM.onMessage virtual)
  | none =>
    modify fun w => { w with dispatched := w.dispatched ++ [(.tunnelFsm, virtual)] }
    drive hmac (TunnelFSM.onMessage virtual)

/-- `handle_datagram` -/
def handleDatagram (buf : Bytes) : Prog (World δ) Unit := do
  let w ← get
  match ← ofExcept (tryValueError (unwire hmac w.tunnel.cfg buf)) with
  | none => return ()
  | some msg =>
    let peer ← ofExcept (learnCcid w.tunnel.peer msg)
    let ((delivered, responses), peer) := peer.receive msg
    modify (withPeer peer)
    each (fun resp => do
      let wire ← ofExcept (ControlMessage.encode resp)
      transportSend wire) responses
    if delivered ≠ [] then dispatch hmac msg delivered else return ()

/-- `tick`: whether the tunnel is to be removed. -/
def tick (now : ℚ) : Prog (World δ) Bool := do
  let w ← get
  let (result, peer) := w.tunnel.peer.tick now
  modify (withPeer peer)
  let (resends, dead) ← ofExcept result
  each transportSend resends
  if dead then
    drive hmac TunnelFSM.onPeerDead
    return true
  else return false

/-! ## Runs

An event is a call that the daemon or the loop makes. The world after it is the same whether the
handler returned or raised. -/

/-- What can happen to a tunnel. -/
inductive Event where
  | start
  | close
  | datagram (buf : Bytes)
  | tick (now : ℚ)
  | helloTimer
  | closeSession (sid resultCode : Int)

/-- The handler of an event. The HELLO callback runs only while a timer is live, and once. -/
def handle : Event → Prog (World δ) Unit
  | .start => start hmac
  | .close => close hmac
  | .datagram buf => handleDatagram hmac buf
  | .tick now => do
    let _ ← tick hmac now
  | .helloTimer => do
    let w ← get
    if w.tunnel.timer.armed then
      modify (mapTimer HelloTimer.elapse)
      onHelloTimer hmac
    else return ()
  | .closeSession sid resultCode => closeSession hmac sid resultCode

/-- The world after an event, whether its handler returned or raised. -/
def step (w : World δ) (e : Event) : World δ := (handle hmac e w).2

end Tunnel

end L2tpv3d
