import L2tpv3d.Daemon.Tunnel

/-!
# L2tpv3d — the daemon (`main.py`, class `Daemon`)

The daemon owns the tunnels, in a table keyed by their local CCID, and shares the transport,
the dataplane and the loop's clock between them. A call of a tunnel's method runs in the
`World` made of that tunnel and of what is shared.

The coroutines are cut at their awaits: one `Event` is what runs between two of them, and
any event may come next. The loops end when `stop` was called; whatever was received by then
is still dispatched, so no event is guarded.

* `Daemon.put`, `Daemon.onTunnel` — a call of a tunnel's method, and what it leaves to the daemon.
* `start`, `stop`, `tickRound`, `dispatchDatagram` — the methods, and the body of each loop.
* `Event`, `step` — what can happen to a daemon, and the daemon after it.
-/

namespace L2tpv3d

open Py Prog

/-- `Daemon`. `sent` records what was handed to the transport, with the address. -/
structure Daemon (δ : Type) where
  cfg : DaemonConfig
  dataplane : Option δ
  clock : Nat → ℚ
  tunnels : Dict Int Tunnel := .empty
  stopping : Bool := false
  sent : List (String × Bytes) := []

namespace Daemon

variable {δ : Type}

/-- `Daemon.__init__` -/
def init (cfg : DaemonConfig) (dataplane : Option δ) (clock : Nat → ℚ) : Daemon δ where
  cfg := cfg
  dataplane := dataplane
  clock := clock

/-- `self._loop.time()` -/
def loopTime : Prog (Daemon δ) ℚ := do
  let self ← get
  modify fun self => { self with clock := fun n => self.clock (n + 1) }
  return self.clock 0

/-- The surroundings of a tunnel of the daemon. -/
def world (self : Daemon δ) (t : Tunnel) : World δ where
  tunnel := t
  dataplane := self.dataplane
  clock := self.clock

/-- The daemon after a method of the tunnel under `ccid` left `w`. -/
def put (ccid : Int) (w : World δ) (self : Daemon δ) : Daemon δ :=
  { self with
    tunnels := self.tunnels.set ccid w.tunnel
    dataplane := w.dataplane
    clock := w.clock
    sent := self.sent ++ w.sent.map fun wire => (w.tunnel.cfg.remoteAddress, wire) }

/-- A call of a method of `self._tunnels.get(ccid)`, unless that is `None`. -/
def onTunnel {α : Type} (ccid : Int) (m : Prog (World δ) α) : Prog (Daemon δ) (Option α) :=
  fun self =>
    match self.tunnels.get? ccid with
    | none => (.ok none, self)
    | some t =>
      let (r, w) := m (self.world t)
      (r.map some, self.put ccid w)

variable [Dataplane δ] (hmac : Hmac)

/-- `start` -/
def start : Prog (Daemon δ) Unit := do
  let self ← get
  each (fun tcfg => do
    modify fun self => { self with tunnels := self.tunnels.set tcfg.localCcid (Tunnel.init tcfg) }
    let _ ← onTunnel tcfg.localCcid (Tunnel.start hmac)) self.cfg.tunnels

/-- `stop` -/
def stop : Prog (Daemon δ) Unit := do
  modify fun self => { self with stopping := true }
  let self ← get
  each (fun ccid => do
    let _ ← onTunnel ccid (Tunnel.close hmac)) self.tunnels.keys

/-- One round of `_tick_loop`. -/
def tickRound : Prog (Daemon δ) Unit := do
  let now ← loopTime
  let self ← get
  each (fun ccid => do
    match ← onTunnel ccid (Tunnel.tick hmac now) with
    | some true => modify fun self => { self with tunnels := self.tunnels.erase ccid }
    | _ => return ()) self.tunnels.keys

/-- `_dispatch_datagram` -/
def dispatchDatagram (buf : Bytes) : Prog (Daemon δ) Unit := do
  if buf.length < 12 then return ()
  else
    let destCcid ← ofExcept (unpackFrom 4 buf 4)
    let self ← get
    if self.tunnels.contains destCcid then
      let _ ← loopTime
      let _ ← onTunnel destCcid (Tunnel.handleDatagram hmac buf)
    else return ()

/-! ## Runs

A step is one event of the daemon, and it leaves a state whether its handler returned or raised: the
effects that an exception leaves behind stay in the tables. A run is a list of events, so that
results about runs are inductions on that list. -/

/-- What can happen to a daemon. -/
inductive Event where
  | start
  | stop
  | tick
  | datagram (buf : Bytes)
  | helloTimer (ccid : Int)

/-- The handler of an event. -/
def handle : Event → Prog (Daemon δ) Unit
  | .start => start hmac
  | .stop => stop hmac
  | .tick => tickRound hmac
  | .datagram buf => dispatchDatagram hmac buf
  | .helloTimer ccid => do
    let _ ← onTunnel ccid (Tunnel.handle hmac .helloTimer)

/-- The daemon after an event, whether its handler returned or raised. -/
def step (self : Daemon δ) (e : Event) : Daemon δ := (handle hmac e self).2

end Daemon

end L2tpv3d
