import L2tpv3d.Fsm.Moves

/-!
# L2tpv3d — one call between two sessions

A session that calls and the session it calls, on channels that lose nothing and deliver in
order. Of the messages only their kind is kept, and of a CDN whether it names the session it is
meant for. Either end may close at any time; an ICRQ may be lost before it is sent, and an ICRP
or ICCN may not be built.

* `Call.Step` — every move of a call.
* `Call.Sound` — where a call can stand; **`Sound.step`** keeps it.
* `Sound.agree` — with nothing in flight, both ends are up or neither is.
* `Linked` — two session machines are the ends of a sound call; each method of either machine
  keeps it.
-/

namespace L2tpv3d

/-- A message of a call. A CDN sent before the other's session ID is known names nobody. -/
inductive Signal where
  | icrq
  | icrp
  | iccn
  | cdn (named : Bool)
  deriving DecidableEq

/-- The state of the session that calls and of the one that is called, whether the first knows
the ID of the second, and what is in flight to the second and back. -/
structure Call where
  caller : SessionState := .idle
  callee : SessionState := .idle
  known : Bool := false
  forth : List Signal := []
  back : List Signal := []

namespace Call

/-- One move: an end acts by itself, or the next message arrives. -/
inductive Step : Call → Call → Prop where
  | asked : Step {} { caller := .waitSessionReply, forth := [.icrq] }
  /-- The ICRQ could not be encoded. -/
  | lost : Step {} { caller := .waitSessionReply }
  | callerCloses {i r k f b} : i ≠ .idle → i ≠ .sendCdn →
      Step ⟨i, r, k, f, b⟩ ⟨.sendCdn, r, k, f ++ [.cdn k], b⟩
  | calleeCloses {i r k f b} : r ≠ .idle → r ≠ .sendCdn →
      Step ⟨i, r, k, f, b⟩ ⟨i, .sendCdn, k, f, b ++ [.cdn true]⟩
  | answered {i k f b} :
      Step ⟨i, .idle, k, .icrq :: f, b⟩ ⟨i, .waitSessionConnect, k, f, b ++ [.icrp]⟩
  | unanswered {i r k f b} : Step ⟨i, r, k, .icrq :: f, b⟩ ⟨i, r, k, f, b⟩
  | connected {r k f b} :
      Step ⟨.waitSessionReply, r, k, f, .icrp :: b⟩ ⟨.established, r, true, f ++ [.iccn], b⟩
  /-- The ICCN could not be built. -/
  | unconnected {r k k' f b} :
      Step ⟨.waitSessionReply, r, k, f, .icrp :: b⟩ ⟨.waitSessionReply, r, k', f, b⟩
  | late {i r k f b} : i ≠ .waitSessionReply → Step ⟨i, r, k, f, .icrp :: b⟩ ⟨i, r, k, f, b⟩
  | confirmed {i k f b} :
      Step ⟨i, .waitSessionConnect, k, .iccn :: f, b⟩ ⟨i, .established, k, f, b⟩
  | unconfirmed {i r k f b} : r ≠ .waitSessionConnect →
      Step ⟨i, r, k, .iccn :: f, b⟩ ⟨i, r, k, f, b⟩
  | callerDropped {i r k f b n} : Step ⟨i, r, k, f, .cdn n :: b⟩ ⟨.idle, r, k, f, b⟩
  | calleeDropped {i r k f b n} : Step ⟨i, r, k, .cdn n :: f, b⟩ ⟨i, .idle, k, f, b⟩
  /-- A CDN that names nobody was given to nobody. -/
  | missed {i r k f b} : Step ⟨i, r, k, .cdn false :: f, b⟩ ⟨i, r, k, f, b⟩

/-- **Where a call can stand.** Once both ends are down they stay down, whatever is still in
flight, unless an ICRQ is. -/
inductive Sound : Call → Prop where
  | fresh : Sound {}
  | asked {k f} : f = [] ∨ f = [.icrq] → Sound ⟨.waitSessionReply, .idle, k, f, []⟩
  | cancelled {k n} : Sound ⟨.sendCdn, .idle, k, [.icrq, .cdn n], []⟩
  | answered {k b} : b = [] ∨ b = [.icrp] →
      Sound ⟨.waitSessionReply, .waitSessionConnect, k, [], b⟩
  | withdrawn {k b} : b = [.cdn true] ∨ b = [.icrp, .cdn true] →
      Sound ⟨.waitSessionReply, .sendCdn, k, [], b⟩
  | abandoned {k f b} : f = [] ∨ (∃ n, f = [.cdn n]) → b = [] ∨ b = [.icrp] →
      Sound ⟨.sendCdn, .waitSessionConnect, k, f, b⟩
  | connected : Sound ⟨.established, .waitSessionConnect, true, [.iccn], []⟩
  | up : Sound ⟨.established, .established, true, [], []⟩
  | calleeClosed {f} : f = [] ∨ f = [.iccn] → Sound ⟨.established, .sendCdn, true, f, [.cdn true]⟩
  | callerClosed : Sound ⟨.sendCdn, .waitSessionConnect, true, [.iccn, .cdn true], []⟩
  | callerClosedUp : Sound ⟨.sendCdn, .established, true, [.cdn true], []⟩
  | down {i r k f b} : i = .idle ∨ i = .sendCdn → r = .idle ∨ r = .sendCdn → .icrq ∉ f →
      Sound ⟨i, r, k, f, b⟩

variable {c c' : Call}

/-- A step of a call keeps it sound. One case for each step and each sound call that has it. -/
theorem Sound.step (h : Sound c) (hs : Step c c') : Sound c' := by
  cases hs <;> cases h <;> grind [Sound]

/-- **Agreement.** -/
theorem Sound.agree (h : Sound c) (hforth : c.forth = []) (hback : c.back = []) :
    c.caller = .established ↔ c.callee = .established := by
  cases h <;> grind

/-- A caller that is up knows whom it called. -/
theorem Sound.known (h : Sound c) (hup : c.caller = .established) : c.known = true := by
  cases h <;> grind

end Call

/-! ## The machines

Each lemma is one method call of one end, as a move of the call: what the machine does, and what
goes into the channel or comes out of it. Together they cover every method, so a run of two machines
is a run of a call. -/

/-- The call between two machines, with what is in flight. -/
def callOf (i r : SessionFSM) (forth back : List Signal) : Call :=
  ⟨i.state, r.state, decide (i.peerSid = r.config.localSid), forth, back⟩

/-- The machine `i` calls the machine `r`: the call is sound, and not begun if it is to be
fresh, and each knows nobody or the other. -/
structure Linked (fresh : Prop) (i r : SessionFSM) (forth back : List Signal) : Prop where
  sound : (callOf i r forth back).Sound
  fresh : fresh → callOf i r forth back = {}
  caller : i.peerSid = 0 ∨ i.peerSid = r.config.localSid
  callee : r.peerSid = 0 ∨ r.peerSid = i.config.localSid
  learned : r.state ≠ .idle → r.peerSid = i.config.localSid

namespace Linked

open SessionFSM

variable {fresh : Prop} {i r : SessionFSM} {forth back rest : List Signal} {fields : SessionFields}

/-- A call that is not fresh any more has no need to be. -/
theorem begun (h : Linked fresh i r forth back) (hbegun : callOf i r forth back ≠ {}) : ¬ fresh :=
  fun hfresh => hbegun (h.fresh hfresh)

/-- The condition under which a call is fresh may be weakened. -/
theorem mono {fresh' : Prop} (h : Linked fresh i r forth back) (himp : fresh' → fresh) :
    Linked fresh' i r forth back :=
  ⟨h.sound, fun h' => h.fresh (himp h'), h.caller, h.callee, h.learned⟩

/-- A call whose caller has left `IDLE` has begun. -/
theorem begun_of_caller (h : Linked fresh i r forth back) (hs : i.state ≠ .idle) : ¬ fresh :=
  h.begun fun heq => hs (congrArg Call.caller heq)

/-- So has one whose callee has left `IDLE`. -/
theorem begun_of_callee (h : Linked fresh i r forth back) (hs : r.state ≠ .idle) : ¬ fresh :=
  h.begun fun heq => hs (congrArg Call.callee heq)

/-- So has one with a message on its way to the callee. -/
theorem begun_of_forth {signal : Signal} (h : Linked fresh i r (signal :: rest) back) : ¬ fresh :=
  h.begun fun heq => List.cons_ne_nil _ _ (congrArg Call.forth heq)

/-- So has one with a message on its way to the caller. -/
theorem begun_of_back {signal : Signal} (h : Linked fresh i r forth (signal :: rest)) : ¬ fresh :=
  h.begun fun heq => List.cons_ne_nil _ _ (congrArg Call.back heq)

/-- `on_tunnel_established`, the ICRQ sent or not. -/
theorem starts (h : Linked True i r forth back) {sent : List Signal}
    (hsent : sent = [] ∨ sent = [.icrq]) :
    Linked False { i with state := .waitSessionReply } r (forth ++ sent) back := by
  have hfresh := h.fresh trivial
  obtain ⟨-, hr, hknown, rfl, rfl⟩ : i.state = .idle ∧ r.state = .idle ∧
      decide (i.peerSid = r.config.localSid) = false ∧ forth = [] ∧ back = [] := by
    simpa [callOf, Call.mk.injEq] using hfresh
  refine ⟨?_, False.elim, h.caller, h.callee, h.learned⟩
  simp only [callOf, hr, hknown]
  exact .asked hsent

/-- `on_local_close` of the caller. -/
theorem callerCloses (h : Linked fresh i r forth back) (hidle : i.state ≠ .idle)
    (hcdn : i.state ≠ .sendCdn) : Linked fresh { i with state := .sendCdn } r
      (forth ++ [.cdn (decide (i.peerSid = r.config.localSid))]) back :=
  ⟨h.sound.step (.callerCloses hidle hcdn), fun hf => absurd hf (h.begun_of_caller hidle), h.caller,
    h.callee, h.learned⟩

/-- `on_local_close` of the callee. -/
theorem calleeCloses (h : Linked fresh i r forth back) (hidle : r.state ≠ .idle)
    (hcdn : r.state ≠ .sendCdn) :
    Linked fresh i { r with state := .sendCdn } forth (back ++ [.cdn true]) :=
  ⟨h.sound.step (.calleeCloses hidle hcdn), fun hf => absurd hf (h.begun_of_callee hidle), h.caller,
    h.callee, fun _ => h.learned hidle⟩

/-- The callee answers an ICRQ. -/
theorem answers (h : Linked fresh i r (.icrq :: rest) back) (hidle : r.state = .idle)
    (hsid : fields.localSid = i.config.localSid) :
    Linked fresh i { r.learned fields with state := .waitSessionConnect } rest
      (back ++ [.icrp]) := by
  refine ⟨h.sound.step ?_, fun hf => absurd hf h.begun_of_forth, h.caller, .inr hsid,
    fun _ => hsid⟩
  simp only [callOf, hidle]
  exact .answered

/-- The callee takes an ICRQ and cannot build the answer. -/
theorem refuses (h : Linked fresh i r (.icrq :: rest) back) (hidle : r.state = .idle)
    (hsid : fields.localSid = i.config.localSid) : Linked fresh i (r.learned fields) rest back := by
  refine ⟨h.sound.step ?_, fun hf => absurd hf h.begun_of_forth, h.caller, .inr hsid,
    fun hbusy => absurd hidle hbusy⟩
  exact .unanswered

/-- The callee is not offered the ICRQ. -/
theorem unoffered (h : Linked fresh i r (.icrq :: rest) back) : Linked fresh i r rest back :=
  ⟨h.sound.step .unanswered, fun hf => absurd hf h.begun_of_forth, h.caller, h.callee, h.learned⟩

/-- The caller takes an ICRP. -/
theorem connects (h : Linked fresh i r forth (.icrp :: rest)) (hwait : i.state = .waitSessionReply)
    (hsid : fields.localSid = r.config.localSid) :
    Linked fresh { i.learned fields with state := .established } r (forth ++ [.iccn]) rest := by
  refine ⟨h.sound.step ?_, fun hf => absurd hf h.begun_of_back, .inr hsid, h.callee, h.learned⟩
  simp only [callOf, hwait, learned_peerSid, hsid, decide_true]
  exact .connected

/-- The caller takes an ICRP and cannot build the ICCN. -/
theorem stalls (h : Linked fresh i r forth (.icrp :: rest)) (hwait : i.state = .waitSessionReply)
    (hsid : fields.localSid = r.config.localSid) :
    Linked fresh (i.learned fields) r forth rest := by
  refine ⟨h.sound.step ?_, fun hf => absurd hf h.begun_of_back, .inr hsid, h.callee, h.learned⟩
  simp only [callOf, hwait, learned_state]
  exact .unconnected

/-- The caller does not wait for an ICRP. -/
theorem ignores (h : Linked fresh i r forth (.icrp :: rest)) (hbusy : i.state ≠ .waitSessionReply) :
    Linked fresh i r forth rest :=
  ⟨h.sound.step (.late hbusy), fun hf => absurd hf h.begun_of_back, h.caller, h.callee, h.learned⟩

/-- The callee takes an ICCN. -/
theorem confirms (h : Linked fresh i r (.iccn :: rest) back)
    (hwait : r.state = .waitSessionConnect) :
    Linked fresh i { r with state := .established } rest back := by
  refine ⟨h.sound.step ?_, fun hf => absurd hf h.begun_of_forth, h.caller, h.callee,
    fun _ => h.learned (by simp [hwait])⟩
  simp only [callOf, hwait]
  exact .confirmed

/-- The callee does not wait for an ICCN. -/
theorem disregards (h : Linked fresh i r (.iccn :: rest) back)
    (hbusy : r.state ≠ .waitSessionConnect) : Linked fresh i r rest back :=
  ⟨h.sound.step (.unconfirmed hbusy), fun hf => absurd hf h.begun_of_forth, h.caller, h.callee,
    h.learned⟩

/-- The caller takes a CDN. -/
theorem callerDrops {named : Bool} (h : Linked fresh i r forth (.cdn named :: rest)) :
    Linked fresh { i with state := .idle } r forth rest :=
  ⟨h.sound.step .callerDropped, fun hf => absurd hf h.begun_of_back, h.caller, h.callee, h.learned⟩

/-- The callee takes a CDN. -/
theorem calleeDrops {named : Bool} (h : Linked fresh i r (.cdn named :: rest) back) :
    Linked fresh i { r with state := .idle } rest back :=
  ⟨h.sound.step .calleeDropped, fun hf => absurd hf h.begun_of_forth, h.caller, h.callee,
    fun hbusy => absurd rfl hbusy⟩

/-- A CDN that names nobody reaches nobody. -/
theorem misses (h : Linked fresh i r (.cdn false :: rest) back) : Linked fresh i r rest back :=
  ⟨h.sound.step .missed, fun hf => absurd hf h.begun_of_forth, h.caller, h.callee, h.learned⟩

end Linked

end L2tpv3d
