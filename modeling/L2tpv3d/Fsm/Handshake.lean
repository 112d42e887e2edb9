import L2tpv3d.Fsm.Tunnel
import L2tpv3d.Wire.Builders
import L2tpv3d.Lib.Transition

/-!
# L2tpv3d — two tunnel machines joined by FIFO channels

Two `TunnelFSM`s exchange their `SendMessage`s over two channels that deliver each message
exactly once and in order, while either side may be opened, closed or have its HELLO timer
fire at any time.

The proof forgets what the messages carry. A `Shape` is the two states and the kinds of the
messages in flight, HELLOs left out; `effect_fire` says that a step of a machine is a step of
its shape or leaves it alone. The shapes that runs lead to are `table` and its mirror image
(`Pair.safe_step`), as long as no machine is opened while a StopCCN is in flight.

* **`no_half_open`** — along every run, an established side knows the other side's
  identity; along a run in which no machine is opened while a StopCCN is in flight, two
  empty channels mean that both sides are established or neither is.
* `half_open` — opened while StopCCNs of earlier attempts are in flight, one side ends
  established, the other idle, with nothing left to deliver.
-/

namespace L2tpv3d

open Py

namespace Handshake

/-! ## The two machines

The methods of the machines are called in any order. What they send goes to the end of a channel,
what arrives comes from the front of the other one. -/

/-- What can happen at one side. -/
inductive Event where
  | localOpen
  | localClose (resultCode : Int)
  | helloTimer
  | deliver
  deriving DecidableEq

/-- The AVP lists of the messages an action list sends. -/
def sends (actions : List TunnelAction) : List (List AVP) :=
  actions.filterMap fun
    | .sendMessage avps => some avps
    | _ => none

/-- Run a method: the machine after it, and what it sends (nothing when it raises). -/
def exec (m : Prog TunnelFSM (List TunnelAction)) (self : TunnelFSM) :
    TunnelFSM × List (List AVP) :=
  match m self with
  | (.ok actions, self') => (self', sends actions)
  | (.error _, self') => (self', [])

/-- One event at a machine with the given inbox: the machine, the inbox left, what is sent. -/
def fire (self : TunnelFSM) (inbox : List (List AVP)) (e : Event) :
    TunnelFSM × List (List AVP) × List (List AVP) :=
  match e, inbox with
  | .localOpen, inbox =>
    let (self', sent) := exec TunnelFSM.onLocalOpen self
    (self', inbox, sent)
  | .localClose resultCode, inbox =>
    let (self', sent) := exec (TunnelFSM.onLocalClose resultCode) self
    (self', inbox, sent)
  | .helloTimer, inbox =>
    let (self', sent) := exec TunnelFSM.onHelloTimer self
    (self', inbox, sent)
  | .deliver, [] => (self, [], [])
  | .deliver, avps :: rest =>
    -- the machine reads nothing of the header
    let (self', sent) := exec (TunnelFSM.onMessage ⟨0, 0, 0, avps⟩) self
    (self', rest, sent)

/-- The two machines and the messages in flight, oldest first. -/
structure Pair where
  a : TunnelFSM
  b : TunnelFSM
  toA : List (List AVP)
  toB : List (List AVP)

/-- A call of one of the two machines. -/
inductive PairEvent where
  | atA (e : Event)
  | atB (e : Event)

/-- One call: what the machine sends goes to the end of the other one's channel. -/
def Pair.step (p : Pair) : PairEvent → Pair
  | .atA e =>
    let (a, toA, sent) := fire p.a p.toA e
    { p with a := a, toA := toA, toB := p.toB ++ sent }
  | .atB e =>
    let (b, toB, sent) := fire p.b p.toB e
    { p with b := b, toB := toB, toA := p.toA ++ sent }

/-- Two machines that were just constructed, with nothing in flight. -/
def Pair.init (configA configB : TunnelConfig) : Pair :=
  ⟨{ config := configA }, { config := configB }, [], []⟩

/-- A StopCCN is in flight, in either direction. -/
def Pair.stopInFlight (p : Pair) : Bool :=
  (p.toA ++ p.toB).any fun avps => getMessageType avps == .ok (some MessageType.stopccn.code)

/-- **The condition.** A machine in IDLE is not opened while a StopCCN is in flight. -/
def Pair.Drained (p : Pair) : PairEvent → Prop
  | .atA .localOpen => p.a.state = .idle → p.stopInFlight = false
  | .atB .localOpen => p.b.state = .idle → p.stopInFlight = false
  | _ => True

instance (p : Pair) : (e : PairEvent) → Decidable (p.Drained e)
  | .atA .localOpen =>
    inferInstanceAs (Decidable (p.a.state = .idle → p.stopInFlight = false))
  | .atB .localOpen =>
    inferInstanceAs (Decidable (p.b.state = .idle → p.stopInFlight = false))
  | .atA (.localClose _) | .atA .helloTimer | .atA .deliver => instDecidableTrue
  | .atB (.localClose _) | .atB .helloTimer | .atB .deliver => instDecidableTrue

/-! ## Shapes

The invariant of two machines and their channels is not of a form that could be guessed. As the
contents of the messages do not matter to it, the reachable shapes are finitely many and can be
listed; the kernel checks that the list is closed. -/

/-- The messages that matter to the states. -/
inductive Kind where
  | sccrq
  | sccrp
  | scccn
  | stopccn
  deriving DecidableEq

/-- The kind of a message of the control connection. A HELLO has none: no machine reacts to it. -/
def kindOf (avps : List AVP) : Option Kind :=
  match getMessageType avps with
  | .ok (some 1) => some .sccrq
  | .ok (some 2) => some .sccrp
  | .ok (some 3) => some .scccn
  | .ok (some 4) => some .stopccn
  | _ => none

/-- The kinds of the messages of a channel, in order. -/
def kinds (channel : List (List AVP)) : List Kind := channel.filterMap kindOf

/-- What a machine does with a message, as far as states and kinds go. -/
def react : TunnelState → Kind → TunnelState × List Kind
  | .idle, .sccrq => (.waitCtlConn, [.sccrp])
  | _, .sccrq => (.sendStopccn, [.stopccn])
  | .waitCtlReply, .sccrp => (.established, [.scccn])
  | s, .sccrp => (s, [])
  | .waitCtlConn, .scccn => (.established, [])
  | s, .scccn => (s, [])
  | _, .stopccn => (.idle, [])

/-- The events of a shape: HELLOs are not among them. -/
inductive ShapeEvent where
  | localOpen
  | localClose
  | deliver
  deriving DecidableEq

/-- What an event does to the state of a machine and the kinds of its inbox, and the kinds that it
sends. -/
def fireShape (s : TunnelState) (inbox : List Kind) : ShapeEvent →
    TunnelState × List Kind × List Kind
  | .localOpen => if s = .idle then (.waitCtlReply, inbox, [.sccrq]) else (s, inbox, [])
  | .localClose =>
    if s = .idle ∨ s = .sendStopccn then (s, inbox, []) else (.sendStopccn, inbox, [.stopccn])
  | .deliver =>
    match inbox with
    | [] => (s, [], [])
    | k :: rest => ((react s k).1, rest, (react s k).2)

/-- A pair of machines, as far as states and kinds of messages go. -/
structure Shape where
  a : TunnelState
  b : TunnelState
  toB : List Kind
  toA : List Kind
  deriving DecidableEq

/-- An event of the first machine. The second is the first of the swapped shape. -/
def Shape.stepA (s : Shape) (e : ShapeEvent) : Shape :=
  let (a, toA, sent) := fireShape s.a s.toA e
  { s with a := a, toA := toA, toB := s.toB ++ sent }

/-- The other side's point of view. -/
def Shape.swap (s : Shape) : Shape := ⟨s.b, s.a, s.toA, s.toB⟩

/-- An open in IDLE with a StopCCN in flight is excluded. -/
def Shape.OkA (s : Shape) (e : ShapeEvent) : Prop :=
  e = .localOpen → s.a = .idle → Kind.stopccn ∉ s.toA ++ s.toB

instance (s : Shape) (e : ShapeEvent) : Decidable (s.OkA e) :=
  inferInstanceAs (Decidable (e = .localOpen → s.a = .idle → Kind.stopccn ∉ s.toA ++ s.toB))

/-- Every shape reached with drained opens, up to exchanging the sides. -/
def table : List Shape := [
  ⟨.idle, .idle, [], []⟩,
  ⟨.idle, .idle, [], [.stopccn]⟩,
  ⟨.idle, .idle, [.stopccn], [.stopccn]⟩,
  ⟨.idle, .waitCtlReply, [], [.sccrq]⟩,
  ⟨.idle, .sendStopccn, [], []⟩,
  ⟨.idle, .sendStopccn, [.scccn], []⟩,
  ⟨.idle, .sendStopccn, [.sccrp], []⟩,
  ⟨.idle, .sendStopccn, [.stopccn], []⟩,
  ⟨.idle, .sendStopccn, [], [.sccrq, .stopccn]⟩,
  ⟨.idle, .sendStopccn, [.scccn, .stopccn], []⟩,
  ⟨.idle, .sendStopccn, [.sccrp, .stopccn], []⟩,
  ⟨.idle, .sendStopccn, [.sccrq, .stopccn], []⟩,
  ⟨.idle, .sendStopccn, [.stopccn], [.stopccn]⟩,
  ⟨.idle, .sendStopccn, [.stopccn, .stopccn], []⟩,
  ⟨.idle, .sendStopccn, [.sccrq, .stopccn, .stopccn], []⟩,
  ⟨.idle, .sendStopccn, [.stopccn, .stopccn], [.stopccn]⟩,
  ⟨.waitCtlReply, .waitCtlReply, [.sccrq], [.sccrq]⟩,
  ⟨.waitCtlReply, .waitCtlConn, [], [.sccrp]⟩,
  ⟨.waitCtlReply, .sendStopccn, [], [.stopccn]⟩,
  ⟨.waitCtlReply, .sendStopccn, [.sccrq], []⟩,
  ⟨.waitCtlReply, .sendStopccn, [], [.sccrp, .stopccn]⟩,
  ⟨.waitCtlReply, .sendStopccn, [], [.sccrq, .stopccn]⟩,
  ⟨.waitCtlReply, .sendStopccn, [.scccn, .sccrq], []⟩,
  ⟨.waitCtlReply, .sendStopccn, [.sccrp, .sccrq], []⟩,
  ⟨.waitCtlReply, .sendStopccn, [], [.sccrq, .stopccn, .stopccn]⟩,
  ⟨.waitCtlReply, .sendStopccn, [.sccrq], [.sccrq, .stopccn]⟩,
  ⟨.waitCtlConn, .established, [], [.scccn]⟩,
  ⟨.waitCtlConn, .sendStopccn, [], [.stopccn]⟩,
  ⟨.waitCtlConn, .sendStopccn, [], [.scccn, .stopccn]⟩,
  ⟨.waitCtlConn, .sendStopccn, [.sccrp], [.stopccn]⟩,
  ⟨.established, .established, [], []⟩,
  ⟨.established, .sendStopccn, [], [.stopccn]⟩,
  ⟨.established, .sendStopccn, [.scccn], [.stopccn]⟩,
  ⟨.sendStopccn, .sendStopccn, [], [.sccrq, .stopccn]⟩,
  ⟨.sendStopccn, .sendStopccn, [.stopccn], [.stopccn]⟩,
  ⟨.sendStopccn, .sendStopccn, [], [.scccn, .sccrq, .stopccn]⟩,
  ⟨.sendStopccn, .sendStopccn, [], [.sccrp, .sccrq, .stopccn]⟩,
  ⟨.sendStopccn, .sendStopccn, [.scccn, .stopccn], [.stopccn]⟩,
  ⟨.sendStopccn, .sendStopccn, [.sccrp, .stopccn], [.stopccn]⟩,
  ⟨.sendStopccn, .sendStopccn, [.sccrq, .stopccn], [.stopccn]⟩,
  ⟨.sendStopccn, .sendStopccn, [.stopccn], [.stopccn, .stopccn]⟩,
  ⟨.sendStopccn, .sendStopccn, [.sccrq, .stopccn], [.sccrq, .stopccn]⟩,
  ⟨.sendStopccn, .sendStopccn, [.sccrq, .stopccn, .stopccn], [.stopccn]⟩,
  ⟨.sendStopccn, .sendStopccn, [.stopccn, .stopccn], [.stopccn, .stopccn]⟩]

/-- The shape is in the table, as it stands or swapped. -/
def Safe (s : Shape) : Prop := s ∈ table ∨ s.swap ∈ table

instance (s : Shape) : Decidable (Safe s) :=
  inferInstanceAs (Decidable (s ∈ table ∨ s.swap ∈ table))

/-- The table is closed under the events at side `a`, seen from either side. -/
theorem table_closed : ∀ s ∈ table, ∀ e ∈ [ShapeEvent.localOpen, .localClose, .deliver],
    (s.OkA e → Safe (s.stepA e)) ∧ (s.swap.OkA e → Safe (s.swap.stepA e)) := by
  decide +kernel

/-- An event of the first machine stays in the table, by the table itself. -/
theorem safe_stepA {s : Shape} {e : ShapeEvent} (h : Safe s) (hok : s.OkA e) :
    Safe (s.stepA e) := by
  have he : e ∈ [ShapeEvent.localOpen, .localClose, .deliver] := by cases e <;> decide
  rcases h with h | h
  · exact (table_closed s h e he).1 hok
  · exact (table_closed s.swap h e he).2 hok

/-- Safety does not tell the two machines apart. -/
theorem safe_swap {s : Shape} (h : Safe s) : Safe s.swap := Or.symm h

/-- Safe shapes with nothing in flight are symmetric. -/
theorem safe_established_iff {s : Shape} (h : Safe s) (hA : s.toA = []) (hB : s.toB = []) :
    s.a = .established ↔ s.b = .established := by
  have htable : ∀ s ∈ table, s.toA = [] → s.toB = [] →
      (s.a = .established ↔ s.b = .established) := by
    decide +kernel
  rcases h with h | h
  · exact htable s h hA hB
  · exact (htable s.swap h hB hA).symm

/-! ## The machines refine their shapes

What a message carries decides only whether it can be parsed and whether the answer can be built.
Messages of a machine always parse, and those it builds from its configuration always can be. -/

/-- Every message can be built from the configuration. -/
structure Buildable (config : TunnelConfig) : Prop where
  sccrq : ∃ avps, buildSccrqAvps config.sccrxArgs = .ok avps
  sccrp : ∃ avps, buildSccrpAvps config.sccrxArgs = .ok avps
  stopccn : ∃ avps, buildStopccnAvps config.localCcid ResultCode.generalError.code = .ok avps

/-- A message that a machine with this configuration sends. -/
inductive Emitted (config : TunnelConfig) : List AVP → Prop where
  | sccrq {avps} : buildSccrqAvps config.sccrxArgs = .ok avps → Emitted config avps
  | sccrp {avps} : buildSccrpAvps config.sccrxArgs = .ok avps → Emitted config avps
  | scccn {avps} : buildScccnAvps = .ok avps → Emitted config avps
  | hello {avps} : buildHelloAvps = .ok avps → Emitted config avps
  | stopccn {resultCode avps} : buildStopccnAvps config.localCcid resultCode = .ok avps →
      Emitted config avps

/-- The machine holds the identity that `config` announces. -/
def Knows (self : TunnelFSM) (config : TunnelConfig) : Prop :=
  self.peerCcid = config.localCcid ∧ self.peerRouterId = config.routerId ∧
    self.peerHostName = utf8 config.hostName

/-- What one event does to a machine: its own part of the run's invariant. -/
structure Effect (fsm : TunnelFSM) (config : TunnelConfig) (inbox : List (List AVP)) (e : Event)
    (fsm' : TunnelFSM) (inbox' sent : List (List AVP)) : Prop where
  config_eq : fsm'.config = fsm.config
  inbox_sub : ∀ avps ∈ inbox', avps ∈ inbox
  sent_emitted : ∀ avps ∈ sent, Emitted fsm.config avps
  knows : ((fsm.state = .waitCtlConn ∨ fsm.state = .established) → Knows fsm config) →
    (fsm'.state = .waitCtlConn ∨ fsm'.state = .established) → Knows fsm' config
  shape : (fsm'.state = fsm.state ∧ kinds inbox' = kinds inbox ∧ kinds sent = []) ∨
    ∃ se, (se = .localOpen → e = .localOpen) ∧
      (fsm'.state, kinds inbox', kinds sent) = fireShape fsm.state (kinds inbox) se

/-- The kind of a message, by its type. -/
theorem kindOf_tagged {mt : MessageType} {avps : List AVP} (h : Tagged mt avps) :
    kindOf avps = match mt with
      | .sccrq => some .sccrq
      | .sccrp => some .sccrp
      | .scccn => some .scccn
      | .stopccn => some .stopccn
      | _ => none := by
  rw [kindOf, getMessageType_of_tagged h]
  cases mt <;> rfl

section Fire

variable {self : TunnelFSM} {config : TunnelConfig} {inbox : List (List AVP)}

theorem Effect.idle (e : Event) : Effect self config inbox e self inbox [] :=
  ⟨rfl, fun _ h => h, by simp, fun hk => hk, .inl ⟨rfl, rfl, rfl⟩⟩

/-- An open acts on the machine as on its shape. -/
theorem effect_localOpen (hb : Buildable self.config) :
    let r := fire self inbox .localOpen
    Effect self config inbox .localOpen r.1 r.2.1 r.2.2 := by
  obtain ⟨avps, havps⟩ := hb.sccrq
  by_cases hs : self.state = .idle
  · have hexec : exec TunnelFSM.onLocalOpen self
        = ({ self with state := .waitCtlReply }, [avps]) := by
      simp [exec, TunnelFSM.onLocalOpen, hs, havps, TunnelFSM.transition, sends]
    simp only [fire, hexec]
    refine ⟨rfl, fun _ h => h, by simpa using Emitted.sccrq havps, by simp, .inr ⟨.localOpen, ?_⟩⟩
    have hkind := kindOf_tagged (buildSccrxAvps_tagged havps)
    simp [fireShape, hs, kinds, hkind]
  -- outside `IDLE` an open is ignored
  · have hexec : exec TunnelFSM.onLocalOpen self = (self, []) := by
      simp [exec, TunnelFSM.onLocalOpen, hs, sends]
    simp only [fire, hexec]
    exact .idle _

/-- Sending a StopCCN and leaving for SEND_STOPCCN, on whatever occasion. -/
theorem effect_stop {e : Event} {inbox' : List (List AVP)} {resultCode : Int} {avps : List AVP}
    (havps : buildStopccnAvps self.config.localCcid resultCode = .ok avps)
    (hsub : ∀ m ∈ inbox', m ∈ inbox) (se : ShapeEvent) (hse : se ≠ .localOpen)
    (hshape : fireShape self.state (kinds inbox) se = (.sendStopccn, kinds inbox', [.stopccn])) :
    Effect self config inbox e { self with state := .sendStopccn } inbox' [avps] := by
  refine ⟨rfl, hsub, by simpa using Emitted.stopccn havps, by simp, .inr ⟨se, ?_, ?_⟩⟩
  · exact fun h => absurd h hse
  · rw [hshape]
    simp [kinds, kindOf_tagged (buildStopccnAvps_regular havps).2]

theorem effect_localClose (resultCode : Int) :
    let r := fire self inbox (.localClose resultCode)
    Effect self config inbox (.localClose resultCode) r.1 r.2.1 r.2.2 := by
  -- ignored in `IDLE` and when the StopCCN was sent already
  by_cases hs : self.state = .idle ∨ self.state = .sendStopccn
  · have hexec : exec (TunnelFSM.onLocalClose resultCode) self = (self, []) := by
      simp [exec, TunnelFSM.onLocalClose, hs, sends]
    simp only [fire, hexec]
    exact .idle _
  · cases havps : buildStopccnAvps self.config.localCcid resultCode with
    | error e =>
      -- a result code out of range: the builder raises before anything is written
      have hexec : exec (TunnelFSM.onLocalClose resultCode) self = (self, []) := by
        simp [exec, TunnelFSM.onLocalClose, hs, havps]
      simp only [fire, hexec]
      exact .idle _
    | ok avps =>
      have hexec : exec (TunnelFSM.onLocalClose resultCode) self
          = ({ self with state := .sendStopccn }, [avps]) := by
        by_cases he : self.state = .established <;>
          simp [exec, TunnelFSM.onLocalClose, hs, havps, TunnelFSM.transition,
            TunnelFSM.stopActions, sends, he]
      simp only [fire, hexec]
      exact effect_stop havps (fun _ h => h) .localClose (by decide) (by simp [fireShape, hs])

/-- A HELLO timer leaves the shape as it is. -/
theorem effect_helloTimer :
    let r := fire self inbox .helloTimer
    Effect self config inbox .helloTimer r.1 r.2.1 r.2.2 := by
  by_cases hs : self.state = .established
  · have hexec : exec TunnelFSM.onHelloTimer self = (self, [[messageTypeAvp .hello]]) := by
      simp [exec, TunnelFSM.onHelloTimer, hs, buildHelloAvps_eq, sends]
    simp only [fire, hexec]
    refine ⟨rfl, fun _ h => h, by simpa using Emitted.hello buildHelloAvps_eq, fun hk => hk, .inl ?_⟩
    exact ⟨rfl, rfl, rfl⟩
  · have hexec : exec TunnelFSM.onHelloTimer self = (self, []) := by
      simp [exec, TunnelFSM.onHelloTimer, hs, sends]
    simp only [fire, hexec]
    exact .idle _

/-! ### Deliveries

One lemma for each kind of message. In each the state decides: the message is taken, ignored, or
answered with a StopCCN. -/

/-- `on_message` on a tagged message. -/
theorem exec_onMessage {mt : MessageType} {avps : List AVP} (h : Tagged mt avps) :
    exec (TunnelFSM.onMessage ⟨0, 0, 0, avps⟩) self = match mt with
      | .sccrq => exec (TunnelFSM.onSccrq ⟨0, 0, 0, avps⟩) self
      | .sccrp => exec (TunnelFSM.onSccrp ⟨0, 0, 0, avps⟩) self
      | .scccn => exec (TunnelFSM.onScccn ⟨0, 0, 0, avps⟩) self
      | .stopccn => exec (TunnelFSM.onStopccn ⟨0, 0, 0, avps⟩) self
      | _ => (self, []) := by
  have hmt := getMessageType_of_tagged h
  cases mt <;> simp [exec, TunnelFSM.onMessage, hmt, MessageType.code, TunnelFSM.onHello, sends]

/-- A teardown sends a StopCCN, whether or not the tunnel was up. -/
theorem teardown_apply {resultCode : TunnelDownReason} {avps : List AVP}
    (h : buildStopccnAvps self.config.localCcid ResultCode.generalError.code = .ok avps) :
    exec (TunnelFSM.teardownAndNotify resultCode) self
      = ({ self with state := .sendStopccn }, [avps]) := by
  by_cases he : self.state = .established <;>
    simp [exec, TunnelFSM.teardownAndNotify, h, TunnelFSM.transition, TunnelFSM.stopActions,
      sends, he]

/-- An SCCRQ is answered in `IDLE`, and tears down elsewhere. -/
theorem effect_sccrq {avps : List AVP} {rest : List (List AVP)} (hb : Buildable self.config)
    (havps : buildSccrqAvps config.sccrxArgs = .ok avps) :
    let r := exec (TunnelFSM.onSccrq ⟨0, 0, 0, avps⟩) self
    Effect self config (avps :: rest) .deliver r.1 rest r.2 := by
  have hkind := kindOf_tagged (buildSccrxAvps_tagged havps)
  have hsub : ∀ m ∈ rest, m ∈ avps :: rest := fun m hm => List.mem_cons_of_mem _ hm
  by_cases hs : self.state = .idle
  -- the SCCRQ is what the other machine built, so it parses and carries its identity
  · obtain ⟨fields, hparse, hr, hc, hh⟩ := parseSccrxFields_build havps
    obtain ⟨reply, hreply⟩ := hb.sccrp
    have hexec : exec (TunnelFSM.onSccrq ⟨0, 0, 0, avps⟩) self
        = ({ self with
              state := .waitCtlConn
              peerCcid := fields.assignedCcid
              peerHostName := fields.hostName
              peerRouterId := fields.routerId }, [reply]) := by
      simp [exec, TunnelFSM.onSccrq, hs, hparse, tryValueError, hreply, TunnelFSM.capturePeer,
        TunnelFSM.transition, sends]
    simp only [hexec]
    refine ⟨rfl, hsub, by simpa using Emitted.sccrp hreply, fun _ _ => ⟨hc, hr, hh⟩,
      .inr ⟨.deliver, by simp, ?_⟩⟩
    simp [fireShape, kinds, hkind, hs, react, kindOf_tagged (buildSccrxAvps_tagged hreply)]
  -- a peer that restarted
  · obtain ⟨stop, hstop⟩ := hb.stopccn
    have hexec : exec (TunnelFSM.onSccrq ⟨0, 0, 0, avps⟩) self
        = exec (TunnelFSM.teardownAndNotify .peerRestart) self := by
      simp [exec, TunnelFSM.onSccrq, hs]
    rw [hexec, teardown_apply hstop]
    refine effect_stop hstop hsub .deliver (by decide) ?_
    cases hst : self.state <;> simp_all [fireShape, kinds, react]

/-- An SCCRP ends the handshake of the side that asked, and is ignored elsewhere. -/
theorem effect_sccrp {avps : List AVP} {rest : List (List AVP)}
    (havps : buildSccrpAvps config.sccrxArgs = .ok avps) :
    let r := exec (TunnelFSM.onSccrp ⟨0, 0, 0, avps⟩) self
    Effect self config (avps :: rest) .deliver r.1 rest r.2 := by
  have hkind := kindOf_tagged (buildSccrxAvps_tagged havps)
  have hsub : ∀ m ∈ rest, m ∈ avps :: rest := fun m hm => List.mem_cons_of_mem _ hm
  by_cases hs : self.state = .waitCtlReply
  -- the SCCRP is what the other machine built, so it parses and carries its identity
  · obtain ⟨fields, hparse, hr, hc, hh⟩ := parseSccrxFields_build havps
    have hexec : exec (TunnelFSM.onSccrp ⟨0, 0, 0, avps⟩) self
        = ({ self with
              state := .established
              peerCcid := fields.assignedCcid
              peerHostName := fields.hostName
              peerRouterId := fields.routerId }, [[messageTypeAvp .scccn]]) := by
      simp [exec, TunnelFSM.onSccrp, hs, hparse, tryValueError, buildScccnAvps_eq,
        TunnelFSM.capturePeer, TunnelFSM.transition, sends]
    simp only [hexec]
    refine ⟨rfl, hsub, by simpa using Emitted.scccn buildScccnAvps_eq, fun _ _ => ⟨hc, hr, hh⟩,
      .inr ⟨.deliver, by simp, ?_⟩⟩
    have hreply : kindOf [messageTypeAvp .scccn] = some .scccn := rfl
    simp [fireShape, kinds, hkind, hs, react, hreply]
  · have hexec : exec (TunnelFSM.onSccrp ⟨0, 0, 0, avps⟩) self = (self, []) := by
      simp [exec, TunnelFSM.onSccrp, hs, sends]
    simp only [hexec]
    refine ⟨rfl, hsub, by simp, fun hk => hk, .inr ⟨.deliver, by simp, ?_⟩⟩
    cases hst : self.state <;> simp_all [fireShape, kinds, react]

/-- An SCCCN ends the handshake of the side that answered, and is ignored elsewhere. -/
theorem effect_scccn {avps : List AVP} {rest : List (List AVP)} (htag : Tagged .scccn avps) :
    let r := exec (TunnelFSM.onScccn ⟨0, 0, 0, avps⟩) self
    Effect self config (avps :: rest) .deliver r.1 rest r.2 := by
  have hkind := kindOf_tagged htag
  have hsub : ∀ m ∈ rest, m ∈ avps :: rest := fun m hm => List.mem_cons_of_mem _ hm
  by_cases hs : self.state = .waitCtlConn
  · have hexec : exec (TunnelFSM.onScccn ⟨0, 0, 0, avps⟩) self
        = ({ self with state := .established }, []) := by
      simp [exec, TunnelFSM.onScccn, hs, TunnelFSM.transition, sends]
    simp only [hexec]
    -- the identity was captured on the way into WAIT_CTL_CONN
    refine ⟨rfl, hsub, by simp, fun hk _ => hk (.inl hs), .inr ⟨.deliver, by simp, ?_⟩⟩
    simp [fireShape, kinds, hkind, hs, react]
  · have hexec : exec (TunnelFSM.onScccn ⟨0, 0, 0, avps⟩) self = (self, []) := by
      simp [exec, TunnelFSM.onScccn, hs, sends]
    simp only [hexec]
    refine ⟨rfl, hsub, by simp, fun hk => hk, .inr ⟨.deliver, by simp, ?_⟩⟩
    cases hst : self.state <;> simp_all [fireShape, kinds, react]

/-- A StopCCN leads to `IDLE`, in every state. -/
theorem effect_stopccn {avps : List AVP} {rest : List (List AVP)} (htag : Tagged .stopccn avps) :
    let r := exec (TunnelFSM.onStopccn ⟨0, 0, 0, avps⟩) self
    Effect self config (avps :: rest) .deliver r.1 rest r.2 := by
  have hkind := kindOf_tagged htag
  have hsub : ∀ m ∈ rest, m ∈ avps :: rest := fun m hm => List.mem_cons_of_mem _ hm
  have hexec : exec (TunnelFSM.onStopccn ⟨0, 0, 0, avps⟩) self
      = ({ self with state := .idle }, []) := by
    by_cases hs : self.state = .idle
    · cases self
      simp_all [exec, TunnelFSM.onStopccn, sends]
    · have htry := tryValueError_of_only (parseStopccnFields_onlyValueError avps)
      by_cases he : self.state = .established <;>
        simp [exec, TunnelFSM.onStopccn, hs, htry, TunnelFSM.transition, TunnelFSM.dropActions,
          sends, he]
  simp only [hexec]
  refine ⟨rfl, hsub, by simp, by simp, .inr ⟨.deliver, by simp, ?_⟩⟩
  simp [fireShape, kinds, hkind, react]

/-- A delivery, one case per kind of message the other side sends. -/
theorem effect_deliver (hb : Buildable self.config) (hin : ∀ m ∈ inbox, Emitted config m) :
    let r := fire self inbox .deliver
    Effect self config inbox .deliver r.1 r.2.1 r.2.2 := by
  cases inbox with
  | nil => exact .idle _
  | cons avps rest =>
    simp only [fire]
    cases hin avps List.mem_cons_self with
    | sccrq havps =>
      rw [exec_onMessage (buildSccrxAvps_tagged havps)]
      exact effect_sccrq hb havps
    | sccrp havps =>
      rw [exec_onMessage (buildSccrxAvps_tagged havps)]
      exact effect_sccrp havps
    | scccn havps =>
      obtain rfl : [messageTypeAvp .scccn] = avps := by simpa [buildScccnAvps_eq] using havps
      have htag : Tagged .scccn [messageTypeAvp .scccn] := rfl
      rw [exec_onMessage htag]
      exact effect_scccn htag
    | hello havps =>
      obtain rfl : [messageTypeAvp .hello] = avps := by simpa [buildHelloAvps_eq] using havps
      have htag : Tagged .hello [messageTypeAvp .hello] := rfl
      rw [exec_onMessage htag]
      -- a HELLO has no shape: taking it from the inbox leaves the kinds alone
      exact ⟨rfl, fun m hm => List.mem_cons_of_mem _ hm, by simp, fun hk => hk,
        .inl ⟨rfl, rfl, rfl⟩⟩
    | stopccn havps =>
      have htag := (buildStopccnAvps_regular havps).2
      rw [exec_onMessage htag]
      exact effect_stopccn htag

/-- An event of a machine whose inbox holds what the other machine can send. -/
theorem effect_fire (hb : Buildable self.config) (hin : ∀ m ∈ inbox, Emitted config m) (e : Event) :
    Effect self config inbox e (fire self inbox e).1 (fire self inbox e).2.1
      (fire self inbox e).2.2 := by
  cases e with
  | localOpen => exact effect_localOpen hb
  | localClose resultCode => exact effect_localClose resultCode
  | helloTimer => exact effect_helloTimer
  | deliver => exact effect_deliver hb hin

end Fire

/-! ## Runs

The first clause holds of every run and needs no table. The second one follows from the table, in
which the two states differ only while something is in flight. -/

/-- The shape of a pair. -/
def Pair.shape (p : Pair) : Shape := ⟨p.a.state, p.b.state, kinds p.toB, kinds p.toA⟩

/-- The other side's point of view. -/
def Pair.swap (p : Pair) : Pair := ⟨p.b, p.a, p.toB, p.toA⟩

/-- What every run keeps, drained or not. -/
structure Pair.Inv (configA configB : TunnelConfig) (p : Pair) : Prop where
  config_a : p.a.config = configA
  config_b : p.b.config = configB
  toA_emitted : ∀ avps ∈ p.toA, Emitted configB avps
  toB_emitted : ∀ avps ∈ p.toB, Emitted configA avps
  knows_a : p.a.state = .waitCtlConn ∨ p.a.state = .established → Knows p.a configB
  knows_b : p.b.state = .waitCtlConn ∨ p.b.state = .established → Knows p.b configA

/-- The invariant does not tell the two machines apart. -/
theorem Pair.Inv.swap {configA configB : TunnelConfig} {p : Pair} (h : p.Inv configA configB) :
    p.swap.Inv configB configA :=
  ⟨h.config_b, h.config_a, h.toB_emitted, h.toA_emitted, h.knows_b, h.knows_a⟩

section Runs

variable {configA configB : TunnelConfig} {p : Pair}

/-- It holds at the start, where nothing is in flight. -/
theorem Pair.inv_init : (Pair.init configA configB).Inv configA configB :=
  ⟨rfl, rfl, by simp [init], by simp [init], by simp [init], by simp [init]⟩

/-- An event of the first machine keeps it. -/
theorem Pair.inv_stepA (hA : Buildable configA) (h : p.Inv configA configB) (e : Event) :
    (p.step (.atA e)).Inv configA configB := by
  have heff := effect_fire (h.config_a.symm ▸ hA) h.toA_emitted e
  refine ⟨heff.config_eq.trans h.config_a, h.config_b, ?_, ?_, heff.knows h.knows_a, h.knows_b⟩
  · intro avps havps
    exact h.toA_emitted avps (heff.inbox_sub avps havps)
  · intro avps havps
    rcases List.mem_append.mp havps with hold | hnew
    · exact h.toB_emitted avps hold
    · exact h.config_a ▸ heff.sent_emitted avps hnew

/-- An event of either machine keeps it. -/
theorem Pair.inv_step (hA : Buildable configA) (hB : Buildable configB)
    (h : p.Inv configA configB) (e : PairEvent) : (p.step e).Inv configA configB := by
  cases e with
  | atA e => exact inv_stepA hA h e
  | atB e =>
    have hswap := (inv_stepA hB h.swap e).swap
    exact hswap

/-- What the machines send has a StopCCN in it exactly when its kinds do. -/
theorem stop_mem_kinds {channel : List (List AVP)} (hno : (channel.any fun avps =>
    getMessageType avps == .ok (some MessageType.stopccn.code)) = false) :
    Kind.stopccn ∉ kinds channel := by
  intro hmem
  obtain ⟨avps, havps, hkind⟩ := List.mem_filterMap.mp hmem
  have htype : getMessageType avps = .ok (some MessageType.stopccn.code) := by
    unfold kindOf at hkind
    split at hkind <;> simp_all [MessageType.code]
  rw [List.any_eq_false] at hno
  exact hno avps havps (by simp [htype])

/-- An event of the first machine keeps the shape in the table. -/
theorem Pair.safe_stepA (hA : Buildable configA) (h : p.Inv configA configB) (hs : Safe p.shape)
    {e : Event} (hok : p.Drained (.atA e)) : Safe (p.step (.atA e)).shape := by
  have heff := effect_fire (h.config_a.symm ▸ hA) h.toA_emitted e
  -- the shape after the step, written with the shape's own append
  have hshape : (p.step (.atA e)).shape = ⟨(fire p.a p.toA e).1.state, p.b.state,
      kinds p.toB ++ kinds (fire p.a p.toA e).2.2, kinds (fire p.a p.toA e).2.1⟩ := by
    simp [Pair.shape, Pair.step, kinds]
  rw [hshape]
  rcases heff.shape with ⟨hstate, hinbox, hsent⟩ | ⟨se, hopen, heq⟩
  -- an event without a shape
  · rw [hstate, hinbox, hsent, List.append_nil]
    exact hs
  -- an event of the shape, which the guard of the pair allows
  · have hstep : p.shape.stepA se = ⟨(fire p.a p.toA e).1.state, p.b.state,
        kinds p.toB ++ kinds (fire p.a p.toA e).2.2, kinds (fire p.a p.toA e).2.1⟩ := by
      simp only [Shape.stepA, Pair.shape, ← heq]
    rw [← hstep]
    refine Handshake.safe_stepA hs fun hse hidle => ?_
    obtain rfl := hopen hse
    have hno : (p.toA ++ p.toB).any _ = false := hok hidle
    have hmem := stop_mem_kinds hno
    rwa [kinds, List.filterMap_append] at hmem

/-- An event of either machine keeps the shape in the table. -/
theorem Pair.safe_step (hA : Buildable configA) (hB : Buildable configB)
    (h : p.Inv configA configB) (hs : Safe p.shape) {e : PairEvent} (hok : p.Drained e) :
    Safe (p.step e).shape := by
  cases e with
  | atA e => exact safe_stepA hA h hs hok
  | atB e =>
    -- the guard of the second machine is that of the first one of the swapped pair
    have hok' : p.swap.Drained (.atA e) := by
      cases e with
      | localOpen =>
        intro hidle
        have hno : p.stopInFlight = false := hok hidle
        simpa [stopInFlight, Pair.swap, Bool.or_comm] using hno
      | _ => trivial
    exact safe_swap (safe_stepA hB h.swap (safe_swap hs) hok')

end Runs

/-- **No half-open connection.** An established side knows the other side's identity, along every
run; and along the runs whose opens are drained, nothing in flight means both sides are up or
neither is. The first part is an invariant of the machines and of what is in flight between them,
the second one a finite table of shapes that no step leaves. -/
theorem no_half_open (configA configB : TunnelConfig) (hA : Buildable configA)
    (hB : Buildable configB) :
    (∀ p, Transition.Reach Pair.step (fun _ _ => True) (Pair.init configA configB) p →
      (p.a.state = .established → Knows p.a configB) ∧
      (p.b.state = .established → Knows p.b configA)) ∧
    (∀ p, Transition.Reach Pair.step Pair.Drained (Pair.init configA configB) p →
      p.toA = [] → p.toB = [] → (p.a.state = .established ↔ p.b.state = .established)) := by
  constructor
  · intro p hp
    have hinv := hp.invariant Pair.inv_init fun q e hq _ => Pair.inv_step hA hB hq e
    exact ⟨fun hs => hinv.knows_a (.inr hs), fun hs => hinv.knows_b (.inr hs)⟩
  · intro p hp htoA htoB
    -- the shape stays in the table, and an empty shape of the table is up on both sides or neither
    have hinv : p.Inv configA configB ∧ Safe p.shape := by
      refine Transition.Reach.invariant (I := fun q => q.Inv configA configB ∧ Safe q.shape)
        ⟨Pair.inv_init, ?_⟩ (fun q e hq hok => ?_) hp
      · exact (by decide +kernel : Safe ⟨.idle, .idle, [], []⟩)
      · exact ⟨Pair.inv_step hA hB hq.1 e, Pair.safe_step hA hB hq.1 hq.2 hok⟩
    exact safe_established_iff hinv.2 (by simp [Pair.shape, htoA, kinds])
      (by simp [Pair.shape, htoB, kinds])

/-- Two tunnels that know each other, with their defaults. -/
def left : TunnelConfig := { hostName := "left", routerId := 1, localCcid := 100 }

/-- The other end of `left`. -/
def right : TunnelConfig := { hostName := "right", routerId := 2, localCcid := 200 }

/-- The messages of `left` can be built. -/
theorem buildable_left : Buildable left := ⟨⟨_, rfl⟩, ⟨_, rfl⟩, ⟨_, rfl⟩⟩

/-- The messages of `right` can be built. -/
theorem buildable_right : Buildable right := ⟨⟨_, rfl⟩, ⟨_, rfl⟩, ⟨_, rfl⟩⟩

/-- One clean handshake: both clauses at its end. -/
def cleanRun : Pair :=
  [.atA .localOpen, .atB .deliver, .atA .deliver, .atB .deliver].foldl Pair.step
    (Pair.init left right)

/-- A handshake without a close: both ends are up at its end. -/
theorem no_half_open_cleanRun :
    (cleanRun.a.state = .established ∧ Knows cleanRun.a right) ∧
    (cleanRun.a.state = .established ↔ cleanRun.b.state = .established) := by
  have hany : Transition.Reach Pair.step (fun _ _ => True) (Pair.init left right) cleanRun :=
    Transition.Reach.run .start (by simp [Transition.Guarded])
  have hdrained : Transition.Reach Pair.step Pair.Drained (Pair.init left right) cleanRun :=
    Transition.Reach.run .start (by decide +kernel)
  have h := no_half_open left right buildable_left buildable_right
  have hup : cleanRun.a.state = .established := by decide +kernel
  have hempty : cleanRun.toA = [] ∧ cleanRun.toB = [] := by decide +kernel
  exact ⟨⟨hup, (h.1 _ hany).1 hup⟩, h.2 _ hdrained hempty.1 hempty.2⟩

/-- Three attempts, each abandoned while the StopCCN that ended the one before is still in
flight: the last two StopCCNs arrive in the middle of the handshake that succeeds. -/
def crossedStops : List PairEvent := [
  .atA .localOpen, .atB .localOpen, .atA (.localClose 6), .atA .deliver, .atB .deliver,
  .atA .deliver, .atB .deliver,
  .atB .localOpen, .atB (.localClose 6), .atA .deliver, .atA (.localClose 6),
  .atA .deliver, .atB .deliver,
  .atB .localOpen, .atA .deliver, .atB .deliver, .atA .deliver, .atB .deliver, .atB .deliver]

/-- Without the condition it fails: two closes and opens that cross leave one end up and the other
one idle, with nothing in flight. -/
theorem half_open :
    ∃ p, Buildable left ∧ Buildable right ∧
      Transition.Reach Pair.step (fun _ _ => True) (Pair.init left right) p ∧
      p.toA = [] ∧ p.toB = [] ∧ p.a.state = .established ∧ p.b.state = .idle := by
  refine ⟨crossedStops.foldl Pair.step (Pair.init left right), buildable_left, buildable_right,
    Transition.Reach.run .start ?_, ?_⟩
  · simp [crossedStops, Transition.Guarded]
  · decide +kernel

end Handshake

end L2tpv3d
