import L2tpv3d.Fsm.Handshake
import L2tpv3d.Fsm.Outcome

/-!
# L2tpv3d — runs of the two tunnel machines

Several events of one machine taken together, and what a run of the pair keeps.

* `fires` — what several events at one side do; `fires_ignored` — messages that the machine does
  not react to.
* `exec_merged` — a message with others behind it is taken for itself.
* `Pair.inv_run`, `Pair.safe_run` — the invariants of the pair over a run.
* `Pair.opening_run` — where a run stands in which side `a` asks and nobody closes;
  `Pair.opened_of_empty` — once everything is delivered, both sides are up.
-/

namespace L2tpv3d

open Py Prog

namespace Handshake

deriving instance DecidableEq for PairEvent

variable {self : TunnelFSM}

/-- The machine, what is left of the inbox and what is sent, after several events. -/
def fires (self : TunnelFSM) (inbox : List (List AVP)) : List Event →
    TunnelFSM × List (List AVP) × List (List AVP)
  | [] => (self, inbox, [])
  | e :: es =>
    let (self', inbox', sent) := fire self inbox e
    let (self'', inbox'', more) := fires self' inbox' es
    (self'', inbox'', sent ++ more)

/-- A run of the first machine is the run of its calls on its own channel; what it sends goes to the
other one. -/
theorem Pair.run_atA (p : Pair) (es : List Event) : (es.map PairEvent.atA).foldl Pair.step p =
    { p with
      a := (fires p.a p.toA es).1
      toA := (fires p.a p.toA es).2.1
      toB := p.toB ++ (fires p.a p.toA es).2.2 } := by
  induction es generalizing p with
  | nil => simp [fires]
  | cons e es ih =>
    rw [List.map_cons, List.foldl_cons, ih]
    simp [Pair.step, fires]

theorem Pair.run_atB (p : Pair) (es : List Event) : (es.map PairEvent.atB).foldl Pair.step p =
    { p with
      b := (fires p.b p.toB es).1
      toB := (fires p.b p.toB es).2.1
      toA := p.toA ++ (fires p.b p.toB es).2.2 } := by
  induction es generalizing p with
  | nil => simp [fires]
  | cons e es ih =>
    rw [List.map_cons, List.foldl_cons, ih]
    simp [Pair.step, fires]

/-! ## Calls of the machine

What a call does depends on the type of the message and on what is parsed of it, never on the
header. So a message with others behind it is taken like the first one alone, if the parser finds
its fields there. -/

/-- A call leaves the machine where the method does. -/
theorem exec_fst (m : Prog TunnelFSM (List TunnelAction)) (self : TunnelFSM) :
    (exec m self).1 = (m self).2 := by
  rw [exec]
  split <;> rename_i h <;> rw [h]

/-- A machine that asks for a message asks for it first, and for no other. -/
theorem sends_head {s s' : TunnelFSM} {actions : List TunnelAction}
    (h : TunnelFSM.Outcome s (.ok actions) s') :
    (sends actions = [] ∧ ∀ avps, .sendMessage avps ∉ actions) ∨
    ∃ avps rest, actions = .sendMessage avps :: rest ∧ sends actions = [avps] ∧
      ∀ avps', .sendMessage avps' ∉ rest := by
  cases h with
  | ignored => exact .inl ⟨rfl, by simp⟩
  | opened _ _ => exact .inr ⟨_, _, rfl, rfl, by simp⟩
  | answered _ _ => exact .inr ⟨_, _, rfl, rfl, by simp⟩
  | connected _ => exact .inr ⟨_, _, rfl, rfl, by simp⟩
  | accepted _ => exact .inl ⟨rfl, by simp⟩
  | kept _ => exact .inr ⟨_, _, rfl, rfl, by simp⟩
  -- the StopCCN comes before the timer and the report
  | @stopped _ avps reason _ _ =>
    refine .inr ⟨avps, (TunnelFSM.stopActions s.state avps reason).tail, rfl, ?_, fun avps' => ?_⟩
    · unfold TunnelFSM.stopActions
      split <;> rfl
    · unfold TunnelFSM.stopActions
      split <;> simp
  -- no message, only the timer and the report
  | @dropped reason _ =>
    refine .inl ⟨?_, fun avps => ?_⟩
    · unfold TunnelFSM.dropActions
      split <;> rfl
    · unfold TunnelFSM.dropActions
      split <;> simp

/-- The machine reads nothing of the header. -/
theorem exec_header (msg : ControlMessage) :
    exec (TunnelFSM.onMessage msg) self = exec (TunnelFSM.onMessage ⟨0, 0, 0, msg.avps⟩) self := rfl

/-- A message that is none of the four of the handshake is ignored. -/
theorem exec_ignored {mt : MessageType} {avps : List AVP} (htag : Tagged mt avps)
    (hkind : kindOf avps = none) : exec (TunnelFSM.onMessage ⟨0, 0, 0, avps⟩) self = (self, []) := by
  rw [exec_onMessage htag]
  rw [kindOf_tagged htag] at hkind
  cases mt <;> first | rfl | cases hkind

/-- **A message with others behind it** is taken for itself, unless it is one whose AVPs the
machine keeps. -/
theorem exec_merged {mt : MessageType} {first : List AVP} (htag : Tagged mt first) (rest : List AVP)
    (halone : kindOf first = some .sccrq ∨ kindOf first = some .sccrp → rest = []) :
    exec (TunnelFSM.onMessage ⟨0, 0, 0, first ++ rest⟩) self
      = exec (TunnelFSM.onMessage ⟨0, 0, 0, first⟩) self := by
  have htag' : Tagged mt (first ++ rest) := by
    cases first with
    | nil => cases htag
    | cons avp avps => exact htag
  have hkind := kindOf_tagged htag
  cases mt with
  | sccrq =>
    obtain rfl := halone (.inl hkind)
    rw [List.append_nil]
  | sccrp =>
    obtain rfl := halone (.inr hkind)
    rw [List.append_nil]
  | stopccn =>
    -- the parsed reason only goes into the notice
    have htry := fun avps => tryValueError_of_only (parseStopccnFields_onlyValueError avps)
    rw [exec_onMessage htag', exec_onMessage htag]
    by_cases hs : self.state = .idle
    · simp [exec, TunnelFSM.onStopccn, hs]
    · by_cases he : self.state = .established <;>
        simp [exec, TunnelFSM.onStopccn, hs, htry, TunnelFSM.transition, TunnelFSM.dropActions,
          sends, he]
  | scccn =>
    rw [exec_onMessage htag', exec_onMessage htag]
    rfl
  | _ => rw [exec_onMessage htag', exec_onMessage htag]

/-- Messages that the machine ignores leave it alone. -/
theorem fires_ignored {channel : List (List AVP)} (inbox : List (List AVP))
    (h : ∀ avps ∈ channel, (∃ mt, Tagged mt avps) ∧ kindOf avps = none) :
    fires self (channel ++ inbox) (List.replicate channel.length .deliver) = (self, inbox, []) := by
  induction channel with
  | nil => rfl
  | cons avps channel ih =>
    obtain ⟨⟨⟨mt, htag⟩, hkind⟩, hrest⟩ := List.forall_mem_cons.mp h
    have hfire : fire self (avps :: (channel ++ inbox)) .deliver = (self, channel ++ inbox, []) := by
      simp [fire, exec_ignored htag hkind]
    rw [List.length_cons, List.replicate_succ, List.cons_append, fires, hfire]
    simp [ih hrest]

/-! ## Runs of the two machines

Step lemmas lifted to runs, by induction on the list of the events. -/

section Runs

variable {configA configB config : TunnelConfig} {p : Pair} {inbox : List (List AVP)}

/-- A run of the pair keeps the invariant. -/
theorem Pair.inv_run (hA : Buildable configA) (hB : Buildable configB) (h : p.Inv configA configB)
    (es : List PairEvent) : (es.foldl Pair.step p).Inv configA configB := by
  induction es generalizing p with
  | nil => exact h
  | cons e es ih => exact ih (Pair.inv_step hA hB h e)

/-- A run whose opens are drained keeps the shape in the table. -/
theorem Pair.safe_run (hA : Buildable configA) (hB : Buildable configB) (h : p.Inv configA configB)
    (hs : Safe p.shape) {es : List PairEvent}
    (hes : Transition.Guarded Pair.step Pair.Drained p es) : Safe (es.foldl Pair.step p).shape := by
  induction es generalizing p with
  | nil => exact hs
  | cons e es ih =>
    exact ih (Pair.inv_step hA hB h e) (Pair.safe_step hA hB h hs hes.1) hes.2

/-- Only an open can be one that is not drained. -/
theorem guarded_of_not_open {es : List PairEvent}
    (h : ∀ e ∈ es, e ≠ .atA .localOpen ∧ e ≠ .atB .localOpen) (p : Pair) :
    Transition.Guarded Pair.step Pair.Drained p es := by
  induction es generalizing p with
  | nil => trivial
  | cons e es ih =>
    obtain ⟨⟨hA, hB⟩, hrest⟩ := List.forall_mem_cons.mp h
    refine ⟨?_, ih hrest _⟩
    rcases e with e | e <;> cases e with
    | localOpen => contradiction
    | _ => trivial

/-! ### One end asks

Where only one side is ever opened and neither is closed, five shapes are left of the table. -/

/-- Where an opening stands that side `a` asked for. -/
def opening : List Shape := [
  ⟨.idle, .idle, [], []⟩,
  ⟨.waitCtlReply, .idle, [.sccrq], []⟩,
  ⟨.waitCtlReply, .waitCtlConn, [], [.sccrp]⟩,
  ⟨.established, .waitCtlConn, [.scccn], []⟩,
  ⟨.established, .established, [], []⟩]

/-- Only side `a` is opened, and neither is closed. -/
def Asks : PairEvent → Prop
  | .atA (.localClose _) | .atB (.localClose _) | .atB .localOpen => False
  | _ => True

/-- The five shapes of an opening lead to one another, by evaluation. -/
theorem opening_closed : ∀ s ∈ opening, s.stepA .localOpen ∈ opening ∧ s.stepA .deliver ∈ opening ∧
    (s.swap.stepA .deliver).swap ∈ opening := by
  decide +kernel

/-- Every message that is emitted has a type. -/
theorem Emitted.tagged {avps : List AVP} (h : Emitted config avps) : ∃ mt, Tagged mt avps := by
  cases h with
  | sccrq h => exact ⟨_, buildSccrxAvps_tagged h⟩
  | sccrp h => exact ⟨_, buildSccrxAvps_tagged h⟩
  | scccn h =>
    obtain rfl : [messageTypeAvp .scccn] = avps := by simpa [buildScccnAvps_eq] using h
    exact ⟨.scccn, rfl⟩
  | hello h =>
    obtain rfl : [messageTypeAvp .hello] = avps := by simpa [buildHelloAvps_eq] using h
    exact ⟨.hello, rfl⟩
  | stopccn h => exact ⟨_, (buildStopccnAvps_regular h).2⟩

/-- The states and kinds of a machine, its inbox and what it sends. -/
def shapeOf (r : TunnelFSM × List (List AVP) × List (List AVP)) : TunnelState × List Kind × List Kind :=
  (r.1.state, kinds r.2.1, kinds r.2.2)

/-- An open acts on the shape as it does on the machine. -/
theorem shape_localOpen (hb : Buildable self.config) :
    shapeOf (fire self inbox .localOpen) = fireShape self.state (kinds inbox) .localOpen := by
  obtain ⟨avps, havps⟩ := hb.sccrq
  by_cases hs : self.state = .idle
  · have hkind := kindOf_tagged (buildSccrxAvps_tagged havps)
    simp [shapeOf, fire, exec, TunnelFSM.onLocalOpen, hs, havps, TunnelFSM.transition, sends,
      fireShape, kinds, hkind]
  · simp [shapeOf, fire, exec, TunnelFSM.onLocalOpen, hs, sends, fireShape, kinds]

/-- A HELLO leaves the shape as it is, since a HELLO has no kind. -/
theorem shape_helloTimer :
    shapeOf (fire self inbox .helloTimer) = (self.state, kinds inbox, []) := by
  have hkind : kindOf [messageTypeAvp .hello] = none := rfl
  by_cases hs : self.state = .established
  · simp [shapeOf, fire, exec, TunnelFSM.onHelloTimer, hs, buildHelloAvps_eq, sends, kinds, hkind]
  · simp [shapeOf, fire, exec, TunnelFSM.onHelloTimer, hs, sends, kinds]

/-- A delivery is one of the shape, or of a message that has no kind. -/
theorem shape_deliver (hb : Buildable self.config) (hin : ∀ m ∈ inbox, Emitted config m) :
    shapeOf (fire self inbox .deliver) = (self.state, kinds inbox, []) ∨
    shapeOf (fire self inbox .deliver) = fireShape self.state (kinds inbox) .deliver := by
  cases inbox with
  | nil => exact .inl rfl
  | cons avps rest =>
    obtain ⟨mt, htag⟩ := (hin avps List.mem_cons_self).tagged
    cases hkind : kindOf avps with
    | none =>
      have hfire : fire self (avps :: rest) .deliver = (self, rest, []) := by
        simp [fire, exec_ignored htag hkind]
      exact .inl (by simp [hfire, shapeOf, kinds, hkind])
    | some k =>
      have heffect : Effect self config (avps :: rest) .deliver _ _ _ := effect_deliver hb hin
      rcases heffect.shape with ⟨-, hinbox, -⟩ | ⟨se, hopen, heq⟩
      · have hlen := congrArg List.length hinbox
        simp [fire, kinds, hkind] at hlen
      · cases se with
        | localOpen => cases hopen rfl
        | deliver => exact .inr heq
        | localClose =>
          -- a close leaves the inbox as it is
          have hinbox : kinds rest = kinds (avps :: rest) := by
            have := congrArg (fun r => r.2.1) heq
            simp only [fireShape] at this
            split at this <;> exact this
          have hlen := congrArg List.length hinbox
          simp [kinds, hkind] at hlen

/-- A step of the side that asks stays in the opening. -/
theorem Pair.opening_stepA (hA : Buildable configA) (h : p.Inv configA configB)
    (ho : p.shape ∈ opening) {e : Event} (he : Asks (.atA e)) :
    (p.step (.atA e)).shape ∈ opening := by
  have hA' : Buildable p.a.config := h.config_a.symm ▸ hA
  obtain ⟨hopen, hdeliver, -⟩ := opening_closed p.shape ho
  -- the shape after the step, put together from that of the machine
  have hshape : (p.step (.atA e)).shape = ⟨(shapeOf (fire p.a p.toA e)).1, p.b.state,
      kinds p.toB ++ (shapeOf (fire p.a p.toA e)).2.2, (shapeOf (fire p.a p.toA e)).2.1⟩ := by
    simp [Pair.shape, Pair.step, kinds, shapeOf]
  have hsame : shapeOf (fire p.a p.toA e) = (p.a.state, kinds p.toA, []) →
      (p.step (.atA e)).shape ∈ opening := by
    intro hs
    rw [hshape, hs, List.append_nil]
    exact ho
  cases e with
  | localClose resultCode => exact absurd he id
  | helloTimer => exact hsame shape_helloTimer
  | localOpen =>
    rw [hshape, shape_localOpen hA']
    exact hopen
  | deliver =>
    -- a delivery that has no shape, and one of the opening
    rcases shape_deliver hA' h.toA_emitted with hs | hs
    · exact hsame hs
    · rw [hshape, hs]
      exact hdeliver

/-- A step of the side that is asked stays in the opening. -/
theorem Pair.opening_stepB (hB : Buildable configB) (h : p.Inv configA configB)
    (ho : p.shape ∈ opening) {e : Event} (he : Asks (.atB e)) :
    (p.step (.atB e)).shape ∈ opening := by
  have hB' : Buildable p.b.config := h.config_b.symm ▸ hB
  obtain ⟨-, -, hdeliver⟩ := opening_closed p.shape ho
  -- the same on the other side, with the channels exchanged
  have hshape : (p.step (.atB e)).shape = ⟨p.a.state, (shapeOf (fire p.b p.toB e)).1,
      (shapeOf (fire p.b p.toB e)).2.1, kinds p.toA ++ (shapeOf (fire p.b p.toB e)).2.2⟩ := by
    simp [Pair.shape, Pair.step, kinds, shapeOf]
  have hsame : shapeOf (fire p.b p.toB e) = (p.b.state, kinds p.toB, []) →
      (p.step (.atB e)).shape ∈ opening := by
    intro hs
    rw [hshape, hs, List.append_nil]
    exact ho
  cases e with
  | localClose resultCode => exact absurd he id
  | localOpen => exact absurd he id
  | helloTimer => exact hsame shape_helloTimer
  | deliver =>
    rcases shape_deliver hB' h.toB_emitted with hs | hs
    · exact hsame hs
    · rw [hshape, hs]
      exact hdeliver

/-- A run in which only one side asks stays in the opening. -/
theorem Pair.opening_run (hA : Buildable configA) (hB : Buildable configB)
    (h : p.Inv configA configB) (ho : p.shape ∈ opening) {es : List PairEvent}
    (hes : ∀ e ∈ es, Asks e) : (es.foldl Pair.step p).shape ∈ opening := by
  induction es generalizing p with
  | nil => exact ho
  | cons e es ih =>
    obtain ⟨he, hrest⟩ := List.forall_mem_cons.mp hes
    refine ih (Pair.inv_step hA hB h e) ?_ hrest
    cases e with
    | atA e => exact Pair.opening_stepA hA h ho he
    | atB e => exact Pair.opening_stepB hB h ho he

/-- With nothing in flight, an opening that was asked for is complete. -/
theorem Pair.opened_of_empty (ho : p.shape ∈ opening) (hasked : p.a.state ≠ .idle)
    (htoA : p.toA = []) (htoB : p.toB = []) :
    p.a.state = .established ∧ p.b.state = .established := by
  have hall : ∀ s ∈ opening, s.a ≠ .idle → s.toA = [] → s.toB = [] →
      s.a = .established ∧ s.b = .established := by
    decide +kernel
  exact hall p.shape ho hasked (by simp [Pair.shape, htoA, kinds]) (by simp [Pair.shape, htoB, kinds])

end Runs

end Handshake

end L2tpv3d
