import L2tpv3d.Fsm.Runs
import L2tpv3d.Daemon.Joined
import L2tpv3d.Daemon.Opening

/-!
# L2tpv3d — the transport as two channels that lose nothing

Two tunnels joined by a network that loses, duplicates, delays and reorders their datagrams, seen
by their tunnel machines. A machine sees the calls made of it and the messages that its peer
delivers; what the network does, the retransmissions, the acknowledgements and the session
messages are nothing to it. So a state of the pair stands for a state of the two machines joined
by FIFO channels: in the channels are the messages of the control connection that were sent and
not delivered yet.

* `Tunnel.Tells` — what an event of a tunnel puts into the queue for the other machine;
  `Tunnel.dispatch_fires` — a batch is the delivery of its messages.
* `Station.act_fires` — a step of one end is a run of its machine.
* **`Joined.simulated`** — a run of the pair is a run of the two machines.
* **`Joined.both_up_or_neither`**, **`Joined.opens`** — what is so carried over from the machines
  to the network: no half-open connection, and an opening that succeeds.

Peers deliver batches, and of a batch the machine sees the first message only. `Station.Unmerged`
leaves out the runs where that makes a difference.
-/

namespace L2tpv3d

open Py Prog

namespace Tunnel

open World Handshake

variable {δ : Type} {hmac : Hmac} {w₀ w : World δ}

/-- The message is none that a session is given. -/
def IsControl (avps : List AVP) : Bool :=
  match getMessageType avps with
  | .ok (some mt) => mt ∉ sessionMsgTypes
  | _ => true

/-- The messages of the control connection among those of a channel. -/
def controls (channel : List (List AVP)) : List (List AVP) := channel.filter IsControl

/-- A message is of the control connection unless its type is one of the four of a session. -/
theorem isControl_of_tagged {mt : MessageType} {avps : List AVP} (h : Tagged mt avps) :
    IsControl avps = decide (mt.code ∉ sessionMsgTypes) := by
  rw [IsControl, getMessageType_of_tagged h]

/-- Of the messages queued since `w₀`, those of the control connection are `msgs`. -/
def Tells (w₀ : World δ) (msgs : List (List AVP)) (w : World δ) : Prop :=
  ∃ more, w.tunnel.peer.sendQueue = w₀.tunnel.peer.sendQueue ++ more ∧
    controls (more.map (·.msg.avps)) = msgs

theorem Tells.refl (w : World δ) : Tells w [] w := ⟨[], by simp, rfl⟩

/-- What is told depends on the retransmit queue alone. -/
theorem Tells.of_eq {msgs : List (List AVP)} (h : Tells w₀ msgs w) {w' : World δ}
    (hqueue : w'.tunnel.peer.sendQueue = w.tunnel.peer.sendQueue) : Tells w₀ msgs w' := by
  rwa [Tells, hqueue]

/-- A message that is queued is told, if it is of the control connection. -/
theorem Tells.queued {msgs : List (List AVP)} (h : Tells w₀ msgs w) {avps : List AVP} {now : ℚ}
    {msg : ControlMessage} {peer : Peer} (hsend : w.tunnel.peer.send avps now = .ok (msg, peer))
    {w' : World δ} (hpeer : w'.tunnel.peer = peer) : Tells w₀ (msgs ++ controls [avps]) w' := by
  obtain ⟨more, hmore, hmsgs⟩ := h
  obtain ⟨-, hmsg, encoded, -, rfl⟩ := Peer.send_eq_ok.mp hsend
  refine ⟨more ++ [⟨msg, encoded, now, 0, w.tunnel.peer.retransmitInterval⟩], ?_, ?_⟩
  · rw [hpeer, ← List.append_assoc, ← hmore]
  · rw [← hmsgs, List.map_append, controls, List.filter_append]
    simp [controls, hmsg]

/-- A session message is not told. -/
theorem keeps_tells_send {msgs : List (List AVP)} {avps : List AVP} {mt : MessageType}
    (htag : Tagged mt avps) (hmt : mt.code ∈ sessionMsgTypes) :
    Keeps (Tells w₀ msgs) (send hmac avps) := by
  have hno : controls [avps] = [] := by simp [controls, isControl_of_tagged htag, hmt]
  intro w h
  -- a message that was numbered is queued whether or not it could be written
  rcases send_cases hmac avps w with ⟨e, -, hrun⟩ | ⟨msg, peer, hsend, hrest⟩
  · rw [hrun]
    exact h.of_eq rfl
  · have htold : Tells w₀ (msgs ++ controls [avps]) ((tocked w).withPeer peer) := h.queued hsend rfl
    rw [hno, List.append_nil] at htold
    rcases hrest with ⟨e, -, hrun⟩ | ⟨bs, -, hrun⟩ <;> rw [hrun]
    · exact htold
    · exact htold.of_eq rfl

/-- The messages of a session machine are session messages. -/
theorem tells_sessions (w₀ : World δ) (msgs : List (List AVP)) :
    StandsSessions hmac (Tells w₀ msgs) := by
  intro s s' actions avps hout hmem
  obtain ⟨mt, hmt, htag⟩ := hout.tagged hmem
  refine keeps_tells_send htag ?_
  simp only [List.mem_cons, List.not_mem_nil, or_false] at hmt
  rcases hmt with rfl | rfl | rfl | rfl <;> decide

variable [Dataplane δ]

/-- A call of a session tells the peer's tunnel machine nothing. -/
theorem tells_callSession {m : Prog SessionFSM (List SessionAction)} (hm : SessionFSM.Method m)
    (sid : Int) {g : Tunnel → Tunnel} (hg : OnlyIndex g) (msgs : List (List AVP)) :
    Keeps (Tells (δ := δ) w₀ msgs) (callSession hmac sid m g) :=
  keeps_callSession hmac (fun _ _ _ _ h => h.of_eq rfl) (fun _ _ _ h => h.of_eq rfl)
    (tells_sessions w₀ msgs) hm sid hg

/-- Actions that send nothing lead to session messages at most. -/
theorem tells_actions {actions : List TunnelAction} (h : ∀ avps, .sendMessage avps ∉ actions)
    (msgs : List (List AVP)) : Keeps (Tells (δ := δ) w₀ msgs) (executeTunnelActions hmac actions) :=
  keeps_executeTunnelActions hmac (fun _ _ _ _ h => h.of_eq rfl) (fun _ _ _ _ h => h.of_eq rfl)
    (fun _ hm => keeps_callSessions hmac (fun _ _ _ _ h => h.of_eq rfl)
      (fun _ _ _ h => h.of_eq rfl) (tells_sessions w₀ msgs) hm)
    fun avps hmem => absurd hmem (h avps)

/-- **A call of the machine** puts what it asks for into the queue. -/
theorem tells_drive {m : Prog TunnelFSM (List TunnelAction)} (hm : TunnelFSM.Method m)
    (hgood : Crash.Good w.tunnel) :
    Tells w (exec m w.tunnel.fsm).2 (drive hmac m w).2 := by
  have hout := hm w.tunnel.fsm
  -- a method that raises asks for nothing
  cases hcall : (m w.tunnel.fsm).1 with
  | error e =>
    have hexec : (exec m w.tunnel.fsm).2 = [] := by
      rw [exec, show m w.tunnel.fsm = (.error e, (m w.tunnel.fsm).2) from Prod.ext hcall rfl]
    rw [hexec, drive_error hmac hcall]
    exact (Tells.refl w).of_eq rfl
  | ok actions =>
    have hexec : (exec m w.tunnel.fsm).2 = sends actions := by
      rw [exec, show m w.tunnel.fsm = (.ok actions, (m w.tunnel.fsm).2) from Prod.ext hcall rfl]
    rw [hcall] at hout
    rw [hexec, drive_ok hmac hcall]
    generalize (m w.tunnel.fsm).2 = s' at hout
    have hself : Tells w [] (w.withFsm s') := (Tells.refl w).of_eq rfl
    -- at most one message, and it is the first action
    rcases sends_head hout with ⟨hnil, hno⟩ | ⟨avps, rest, rfl, hone, hno⟩
    · rw [hnil]
      exact tells_actions hno [] _ hself
    · -- the message comes first; it is of the control connection, and is sent
      obtain ⟨mt, hmt, htag, -⟩ := hout.tagged List.mem_cons_self
      have hmt' : mt.code ∉ sessionMsgTypes := by
        simp only [List.mem_cons, List.not_mem_nil, or_false] at hmt
        rcases hmt with rfl | rfl | rfl | rfl | rfl <;> decide
      have hcontrol : controls [avps] = [avps] := by
        simp [controls, isControl_of_tagged htag, hmt']
      obtain ⟨msg, peer, bs, hsend, -, hrun⟩ := send_ok hmac (w := w.withFsm s')
        ⟨hgood.ready.sound, hgood.ready.remoteCcid⟩ (hout.sent_regular hgood.fsm List.mem_cons_self)
      have htold : Tells w ([] ++ controls [avps]) (send hmac avps (w.withFsm s')).2 := by
        rw [hrun]
        exact hself.queued hsend rfl
      rw [hcontrol, List.nil_append, hrun] at htold
      rw [hone, executeTunnelActions, each, bind_apply_of_ok _ _
        (show executeTunnelAction hmac (.sendMessage avps) (w.withFsm s') = _ from hrun)]
      exact tells_actions hno [avps] _ htold

/-- **The condition on a batch.** No message of the handshake comes behind another message, and
nothing comes behind an SCCRQ or SCCRP. -/
def Apart : List (List AVP) → Prop
  | [] => True
  | first :: rest => (∀ avps ∈ rest, kindOf avps = none) ∧
      (kindOf first = some .sccrq ∨ kindOf first = some .sccrp → rest = [])

instance : (batch : List (List AVP)) → Decidable (Apart batch)
  | [] => instDecidableTrue
  | first :: rest => inferInstanceAs (Decidable ((∀ avps ∈ rest, kindOf avps = none) ∧
      (kindOf first = some .sccrq ∨ kindOf first = some .sccrp → rest = [])))

omit [Dataplane δ] in
/-- The messages behind the first one are ignored by the machine. -/
theorem fires_behind {rest : List (List AVP)} (hrest : ∀ avps ∈ rest, Typed avps)
    (hkind : ∀ avps ∈ rest, kindOf avps = none) (self : TunnelFSM) (inbox : List (List AVP)) :
    fires self (controls rest ++ inbox) (List.replicate (controls rest).length .deliver)
      = (self, inbox, []) :=
  fires_ignored inbox fun avps hmem =>
    ⟨hrest avps (List.mem_of_mem_filter hmem), hkind avps (List.mem_of_mem_filter hmem)⟩

/-- **A batch that is handed over** is the delivery of its messages, one by one. -/
theorem dispatch_fires (hmac : Hmac) (msg : ControlMessage) {first : List AVP}
    {rest : List (List AVP)} (htyped : ∀ avps ∈ first :: rest, Typed avps)
    (hapart : Apart (first :: rest)) (hgood : Crash.Good w.tunnel) (inbox : List (List AVP)) :
    ∃ msgs, fires w.tunnel.fsm (controls (first :: rest) ++ inbox)
        (List.replicate (controls (first :: rest)).length .deliver)
        = ((dispatch hmac msg (first :: rest).flatten w).2.tunnel.fsm, inbox, msgs) ∧
      Tells w msgs (dispatch hmac msg (first :: rest).flatten w).2 := by
  obtain ⟨⟨mt, htag⟩, hrest⟩ := List.forall_mem_cons.mp htyped
  obtain ⟨hkind, halone⟩ := hapart
  have hmt : getMessageType (first :: rest).flatten = .ok (some mt.code) :=
    getMessageType_append (getMessageType_of_tagged htag)
  -- a batch is handed over under the type of its first message
  by_cases hmem : mt.code ∈ sessionMsgTypes
  · -- for a session: the tunnel machine sees nothing
    have hcontrols : controls (first :: rest) = controls rest :=
      List.filter_cons_of_neg (by simp [isControl_of_tagged htag, hmem])
    rw [hcontrols, fires_behind hrest hkind]
    obtain ⟨virtual, -, ⟨e, he, -⟩ | ⟨mt', -, -, hrun⟩ | ⟨mt', hmt', hnot, -⟩⟩ :=
      dispatch_cases hmac msg (first :: rest).flatten w
    · rw [hmt] at he
      cases he
    · refine ⟨[], ?_, ?_⟩
      · rw [hrun, (cascaded_dispatchSession hmac virtual mt' w).fsm]
        rfl
      · rw [hrun]
        rcases dispatchSessionMessage_cases hmac virtual mt' w with hrun | ⟨_, _, _, sid, -, -, hrun⟩
        · exact hrun ▸ (Tells.refl w).of_eq rfl
        · rw [hrun]
          exact tells_callSession (SessionFSM.method_onMessage virtual) sid
            (onlyIndex_indexRemote sid) [] _ ((Tells.refl w).of_eq rfl)
    · rw [hmt, Except.ok.injEq] at hmt'
      exact absurd hmem (hnot mt.code hmt'.symm)
  · -- for the machine: it takes the first message for itself
    have hcontrols : controls (first :: rest) = first :: controls rest :=
      List.filter_cons_of_pos (by simp [isControl_of_tagged htag, hmem])
    obtain ⟨virtual, hvirtual, hrun⟩ := Opening.dispatch_tunnel hmac msg hmt hmem w
    have hexec : exec (TunnelFSM.onMessage virtual) w.tunnel.fsm
        = exec (TunnelFSM.onMessage ⟨0, 0, 0, first⟩) w.tunnel.fsm := by
      rw [exec_header, hvirtual, List.flatten_cons]
      exact exec_merged htag rest.flatten fun h => by rw [halone h]; rfl
    have hfire : fire w.tunnel.fsm (first :: (controls rest ++ inbox)) .deliver
        = ((exec (TunnelFSM.onMessage virtual) w.tunnel.fsm).1, controls rest ++ inbox,
          (exec (TunnelFSM.onMessage virtual) w.tunnel.fsm).2) := by
      rw [hexec]
      rfl
    refine ⟨(exec (TunnelFSM.onMessage virtual) w.tunnel.fsm).2, ?_, ?_⟩
    · rw [hcontrols, List.length_cons, List.replicate_succ, List.cons_append, fires, hfire]
      simp only [fires_behind hrest hkind, List.append_nil]
      rw [hrun, drive_fsm, exec_fst]
      rfl
    · rw [hrun]
      exact tells_drive (TunnelFSM.method_onMessage virtual) (w := noted w .tunnelFsm virtual) hgood

/-! ## One event

An event of the tunnel is a call of its machine, or the delivery of messages to it, or nothing. When
several messages become deliverable at once they are handed over in one piece. The piece is read as
its first message, so the condition on a batch is what makes it the delivery of its messages one by
one. -/

/-- What an event that is no datagram is for the machine. -/
def calls (w : World δ) : Event → List Handshake.Event
  | .start => [.localOpen]
  | .close => [.localClose ResultCode.adminShutdown.code]
  | .helloTimer => if w.tunnel.timer.armed then [.helloTimer] else []
  | .datagram _ | .tick _ | .closeSession _ _ => []

/-- A call of the machine is an event of it, and tells what the machine sends. -/
theorem drive_fires {m : Prog TunnelFSM (List TunnelAction)} (hm : TunnelFSM.Method m)
    (hgood : Crash.Good w.tunnel) {inbox : List (List AVP)} {e : Handshake.Event}
    (hfire : fire w.tunnel.fsm inbox e
      = ((exec m w.tunnel.fsm).1, inbox, (exec m w.tunnel.fsm).2)) :
    fires w.tunnel.fsm inbox [e]
      = ((drive hmac m w).2.tunnel.fsm, inbox, (exec m w.tunnel.fsm).2) ∧
    Tells w (exec m w.tunnel.fsm).2 (drive hmac m w).2 := by
  refine ⟨?_, tells_drive hm hgood⟩
  rw [fires, hfire, drive_fsm, exec_fst]
  simp [fires]

/-- **An event of the tunnel** is one of its machine, or none. -/
theorem step_fires (hmac : Hmac) (hgood : Crash.Good w.tunnel) {te : Event}
    (hbuf : ∀ buf, te ≠ .datagram buf) (htick : ∀ now, te ≠ .tick now) (inbox : List (List AVP)) :
    ∃ msgs, fires w.tunnel.fsm inbox (calls w te)
        = ((Tunnel.step hmac w te).tunnel.fsm, inbox, msgs) ∧
      Tells w msgs (Tunnel.step hmac w te) := by
  -- datagrams and ticks are treated apart
  cases te with
  | datagram buf => exact absurd rfl (hbuf buf)
  | tick now => exact absurd rfl (htick now)
  | start => exact ⟨_, drive_fires TunnelFSM.method_onLocalOpen hgood rfl⟩
  | close =>
    -- the timer is disarmed afterwards, unless the call raises
    have hdrive : fires w.tunnel.fsm inbox [.localClose ResultCode.adminShutdown.code] = (_, inbox, _) ∧
        Tells w _ (drive hmac (TunnelFSM.onLocalClose ResultCode.adminShutdown.code) w).2 :=
      drive_fires (TunnelFSM.method_onLocalClose ResultCode.adminShutdown.code) hgood rfl
    obtain ⟨hfires, htells⟩ := hdrive
    have hclose : ∃ f, Tunnel.step hmac w .close
        = (drive hmac (TunnelFSM.onLocalClose ResultCode.adminShutdown.code) w).2.mapTimer f := by
      rw [Tunnel.step, Tunnel.handle, close, bind_apply]
      rcases drive hmac (TunnelFSM.onLocalClose ResultCode.adminShutdown.code) w with ⟨_ | _, w'⟩
      · exact ⟨id, rfl⟩
      · exact ⟨HelloTimer.clear, rfl⟩
    obtain ⟨f, hrun⟩ := hclose
    rw [hrun]
    exact ⟨_, hfires, htells.of_eq rfl⟩
  -- a handle that has been cancelled does nothing
  | helloTimer =>
    rw [Tunnel.step, Tunnel.handle, get_bind_apply, calls]
    split
    · exact ⟨_, drive_fires TunnelFSM.method_onHelloTimer
        (w := (w.mapTimer HelloTimer.elapse).mapTimer HelloTimer.forget)
        ⟨⟨hgood.ready.sound, hgood.ready.remoteCcid⟩, hgood.fsm, hgood.sessions⟩ rfl⟩
    · exact ⟨[], rfl, .refl w⟩
  | closeSession sid resultCode =>
    refine ⟨[], ?_, tells_callSession (SessionFSM.method_onLocalClose resultCode) sid onlyIndex_id []
      w (.refl w)⟩
    rw [calls, fires, Prod.mk.injEq]
    exact ⟨(cascaded_callSession hmac sid (SessionFSM.onLocalClose resultCode) onlyIndex_id w).fsm.symm,
      rfl⟩

end Tunnel

namespace Station

open Tunnel World Handshake

variable {δ : Type} {hmac : Hmac} {s other : Station δ}

/-- The messages that a datagram of the other side completes: of those that are due, as many as
the peer delivers. -/
def completed (s other : Station δ) (n : Nat) : List (List AVP) :=
  match other.side.out[n]? with
  | none => []
  | some d =>
    match ControlMessage.decode d.bytes with
    | .error _ => []
    | .ok msg => (other.side.sent.drop s.side.count).take (s.side.peer.deliverable msg).length

/-- The history of a side after a datagram. -/
def met (s other : Station δ) (ccid : Int) (n : Nat) : Side :=
  s.side.run other.side [.setRemoteCcid ccid, .receive n]

/-- The transport's part of a datagram: the CCID first, then the message. -/
theorem met_eq {n : Nat} {d : Datagram} (hd : other.side.out[n]? = some d) {msg : ControlMessage}
    (hdec : ControlMessage.decode d.bytes = .ok msg) (ccid : Int) : met s other ccid n
      = Side.process { s.side with peer := s.side.peer.setRemoteCcid ccid } msg := by
  show Side.act { s.side with peer := s.side.peer.setRemoteCcid ccid } other.side (.receive n) = _
  rw [Side.act, hd]
  simp [hdec]

/-- What the datagram completes is delivered. -/
theorem met_completed (hin : Flow other.side s.side) {n : Nat} {d : Datagram}
    (hd : other.side.out[n]? = some d) (hnear : s.side.Near other.side (.receive n)) (ccid : Int) :
    (met s other ccid n).count = s.side.count + (completed s other n).length ∧
    (met s other ccid n).got.flatten = s.side.got.flatten ++ (completed s other n).flatten := by
  obtain ⟨msg, hdec, -⟩ := hin.carries d (List.mem_of_getElem? hd)
  -- the datagram keeps the two ends in step
  have hmet : Flow other.side (met s other ccid n) :=
    (hin.receiver_step (.setRemoteCcid ccid) trivial).receiver_step (.receive n) hnear
  have hcount : (met s other ccid n).count
      = s.side.count + (s.side.peer.deliverable msg).length := by
    rw [met_eq hd hdec]
    simp only [Side.process, Side.emitAll_count]
    rfl
  have hcompleted : completed s other n
      = (other.side.sent.drop s.side.count).take (s.side.peer.deliverable msg).length := by
    simp only [completed, hd, hdec]
  have hle := hmet.count_le
  refine ⟨?_, ?_⟩
  · rw [hcompleted, List.length_take, List.length_drop]
    omega
  · rw [hmet.got, hin.got, hcompleted, hcount, List.take_add, List.flatten_append]

/-- What a datagram completes is what was sent next. -/
theorem completed_prefix (s other : Station δ) (n : Nat) :
    completed s other n <+: other.side.sent.drop s.side.count := by
  unfold completed
  split
  · exact List.nil_prefix
  · split
    · exact List.nil_prefix
    · exact List.take_prefix _ _

variable [Dataplane δ]

/-- **What `handle_datagram` does**: the peer takes the datagram, and what it delivers, if
anything, is handed over. -/
theorem datagram_parts (hmac : Hmac) (h : s.Sound) {n : Nat} {d : Datagram} {ccid : Int}
    (hd : other.side.out[n]? = some d)
    (hccid : (meets hmac s.world.tunnel (.datagram d.bytes)).remoteCcid = ccid) :
    ∃ w₁ delivered, w₁.tunnel.fsm = s.world.tunnel.fsm ∧ Crash.Good w₁.tunnel ∧
      w₁.tunnel.peer = (met s other ccid n).peer ∧
      (met s other ccid n).got.flatten = s.side.got.flatten ++ delivered ∧
      ((delivered = [] ∧ (handleDatagram hmac d.bytes s.world).2 = w₁) ∨
        delivered ≠ [] ∧ ∃ msg,
          handleDatagram hmac d.bytes s.world = dispatch hmac msg delivered w₁) := by
  subst hccid
  have hplain : unwire hmac s.world.tunnel.cfg d.bytes = ControlMessage.decode d.bytes := by
    rw [unwire, h.secret]
  -- what cannot be read leaves both models as they are
  rcases handleDatagram_cases hmac d.bytes s.world with ⟨e, he, hrun⟩ |
    ⟨msg, ccid, peer, delivered, hmsg, hlearn, hrest⟩
  · have hmeets : (meets hmac s.world.tunnel (.datagram d.bytes)).remoteCcid
        = s.side.peer.remoteCcid := by
      rw [meets, he, h.couples.peer]
    have hmet : met s other s.side.peer.remoteCcid n = s.side := by
      rw [hplain] at he
      show Side.act s.side other.side (.receive n) = _
      rw [Side.act, hd]
      simp [he]
    rw [hmeets, hmet]
    exact ⟨s.world, [], rfl, h.good, h.couples.peer.symm, by simp, .inl ⟨rfl, by rw [hrun]⟩⟩
  · rw [meets_received hmsg hlearn, met_eq hd (hplain ▸ hmsg), h.couples.peer]
    have hgood : ∀ acks, Crash.Good (received s.world
        ((s.world.tunnel.peer.setRemoteCcid ccid).receive msg).2 acks).tunnel := by
      intro acks
      obtain ⟨hsound, -, hremote, -⟩ := Peer.receive_frame (s.world.tunnel.peer.setRemoteCcid ccid)
        msg ⟨h.good.ready.sound.ns, h.good.ready.sound.nr⟩
      exact ⟨⟨hsound, hremote ▸ (Dispatch.learnCcid_isU32 hlearn).mpr h.good.ready.remoteCcid⟩,
        h.good.fsm, h.good.sessions⟩
    simp only [Side.process, Side.emitAll_peer, Side.emitAll_got, List.flatten_append]
    -- no response; one that cannot be written; one that is, and the hand-over
    rcases hrest with ⟨hr, hrun⟩ | ⟨hr, ⟨e, henc, -⟩ | ⟨bs, henc, hrun⟩⟩
    · rw [hr] at hgood ⊢
      exact ⟨received s.world peer [], [], rfl, hgood [], rfl, by simp, .inl ⟨rfl, by rw [hrun]⟩⟩
    · exact absurd h.good.ready.remoteCcid
        (not_isU32_of_unacked h.good.ready.sound hlearn hr henc)
    · rw [hr] at hgood ⊢
      refine ⟨received s.world peer [bs], delivered, rfl, hgood [bs], rfl, by simp, ?_⟩
      by_cases hnil : delivered = []
      · exact .inl ⟨hnil, by rw [hrun, if_neg (by simp [hnil])]⟩
      · exact .inr ⟨hnil, msg, by rw [hrun, if_pos hnil]⟩

/-! ## A step of a station

The transport's share of a step is known: which messages it completes, and what it appends to the
history. Here the machine's share is put beside it, and the result is a run of the machine on these
messages. -/

/-- A tick finds the peer dead. -/
def foundDead (p : Peer) (now : ℚ) : Bool :=
  match (p.tick now).1 with
  | .ok (_, dead) => dead
  | .error _ => false

/-- The event is no tick that finds the peer dead. -/
def Alive (s : Station δ) : Event → Prop
  | .own (.tick now) => foundDead s.world.tunnel.peer now = false
  | _ => True

/-- What is completed together can be told apart. -/
def Unmerged (s other : Station δ) : Event → Prop
  | .receive n => Apart (completed s other n)
  | .own _ => True

instance (s : Station δ) : (e : Event) → Decidable (Alive s e)
  | .own (.tick now) => inferInstanceAs (Decidable (foundDead s.world.tunnel.peer now = false))
  | .own .start | .own .close | .own .helloTimer | .own (.datagram _) | .own (.closeSession _ _)
  | .receive _ => instDecidableTrue

instance (s other : Station δ) : (e : Event) → Decidable (Unmerged s other e)
  | .receive n => inferInstanceAs (Decidable (Apart (completed s other n)))
  | .own _ => instDecidableTrue

/-- What an event is for the machine: the calls of it, and the messages that are delivered. -/
def events (s other : Station δ) : Event → List Handshake.Event
  | .own te => calls s.world te
  | .receive n => List.replicate (controls (completed s other n)).length .deliver

/-- **A datagram** is the delivery of the messages it completes. -/
theorem receive_fires (hmac : Hmac) (h : s.Sound) (hother : other.Sound)
    (hin : Flow other.side s.side) {n : Nat} {d : Datagram} {ccid : Int}
    (hd : other.side.out[n]? = some d)
    (hccid : (meets hmac s.world.tunnel (.datagram d.bytes)).remoteCcid = ccid)
    (hnear : s.side.Near other.side (.receive n)) (hapart : Apart (completed s other n)) :
    ∃ w₁ msgs, w₁.tunnel.peer = (met s other ccid n).peer ∧
      fires s.world.tunnel.fsm (controls (other.side.sent.drop s.side.count))
          (List.replicate (controls (completed s other n)).length .deliver)
        = ((handleDatagram hmac d.bytes s.world).2.tunnel.fsm,
          controls (other.side.sent.drop (met s other ccid n).count), msgs) ∧
      Tells w₁ msgs (handleDatagram hmac d.bytes s.world).2 := by
  obtain ⟨w₁, delivered, hfsm, hgood, hpeer, hgot, hrest⟩ := datagram_parts hmac h hd hccid
  obtain ⟨hcount, hgot'⟩ := met_completed hin hd hnear ccid
  -- what is handed over is what is completed
  obtain rfl : delivered = (completed s other n).flatten :=
    List.append_cancel_left (hgot.symm.trans hgot')
  have hpre := completed_prefix s other n
  have htyped : ∀ avps ∈ completed s other n, Typed avps := fun avps hmem =>
    hother.typed avps (List.mem_of_mem_drop (hpre.subset hmem))
  have hinbox : controls (other.side.sent.drop s.side.count)
      = controls (completed s other n)
        ++ controls (other.side.sent.drop (met s other ccid n).count) := by
    rw [controls, controls, controls, ← List.filter_append, hcount, ← List.drop_drop,
      List.prefix_iff_eq_append.mp hpre]
  rw [hinbox]
  -- a datagram that completes nothing is nothing to the machine
  cases hbatch : completed s other n with
  | nil =>
    rw [hbatch] at hrest
    rcases hrest with ⟨-, hrun⟩ | ⟨hne, -⟩
    · rw [hrun]
      exact ⟨w₁, [], hpeer, by rw [hfsm]; rfl, .refl w₁⟩
    · exact absurd rfl hne
  | cons first rest =>
    rw [hbatch] at hrest hapart htyped
    rcases hrest with ⟨hnil, -⟩ | ⟨-, msg, hrun⟩
    · obtain ⟨mt, htag⟩ := htyped first List.mem_cons_self
      exact absurd (List.append_eq_nil_iff.mp hnil).1 htag.ne_nil
    · obtain ⟨msgs, hfires, htells⟩ := dispatch_fires hmac msg htyped hapart hgood
        (controls (other.side.sent.drop (met s other ccid n).count))
      rw [hrun]
      exact ⟨w₁, msgs, hpeer, by rw [← hfsm]; exact hfires, htells⟩

/-- What the tunnel tells is what is added to the history. -/
theorem act_tells (hmac : Hmac) (h : s.Sound) (hother : other.Sound) {e : Event}
    {te : Tunnel.Event} (he : e.toTunnel other.world = some te) (w₁ : World δ)
    {msgs : List (List AVP)} (hqueue : w₁.tunnel.peer.sendQueue
      = (s.side.run other.side (before hmac s.world.tunnel te e)).peer.sendQueue)
    (htells : Tells w₁ msgs (Tunnel.step hmac s.world te)) :
    ∃ new, (s.act hmac other e).side.sent = s.side.sent ++ new ∧ controls new = msgs ∧
      (s.act hmac other e).world = Tunnel.step hmac s.world te ∧ (s.act hmac other e).side.count
        = (s.side.run other.side (before hmac s.world.tunnel te e)).count := by
  obtain ⟨more, hmore, hact, -, hcouples, -⟩ := act_some hmac h.couples h.secret hother.couples he
  obtain ⟨more', hmore', hmsgs⟩ := htells
  -- both describe the same retransmit queue
  obtain rfl : more' = more := by
    rw [hqueue, hmore] at hmore'
    exact (List.append_cancel_left hmore').symm
  obtain ⟨-, hsent⟩ := Side.sent_run_sends
    (s.side.run other.side (before hmac s.world.tunnel te e)) other.side more'
  obtain ⟨-, hcount, -⟩ := Side.run_sends
    (s.side.run other.side (before hmac s.world.tunnel te e)) other.side more'
  rw [hact] at hcouples ⊢
  refine ⟨more'.map (·.msg.avps), ?_, hmsgs, rfl, hcount⟩
  have hpeer : _ = (Tunnel.step hmac s.world te).tunnel.peer := hcouples.peer
  have hall := hsent (by rw [hpeer, hmore, List.length_append])
  rwa [sent_before te e] at hall

/-- An event that is neither a datagram nor a tick. -/
theorem own_fires (hmac : Hmac) (h : s.Sound) (hother : other.Sound) {te : Tunnel.Event}
    (hbuf : ∀ buf, te ≠ .datagram buf) (htick : ∀ now, te ≠ .tick now) :
    ∃ new, (s.act hmac other (.own te)).side.sent = s.side.sent ++ new ∧
      fires s.world.tunnel.fsm (controls (other.side.sent.drop s.side.count)) (calls s.world te)
        = ((s.act hmac other (.own te)).world.tunnel.fsm, controls
          (other.side.sent.drop (s.act hmac other (.own te)).side.count), controls new) := by
  have he : (Event.own te).toTunnel other.world = some te := by
    cases te with
    | datagram buf => exact absurd rfl (hbuf buf)
    | _ => rfl
  -- the transport takes nothing in
  have hbefore : before hmac s.world.tunnel te (.own te) = [] := by
    cases te with
    | tick now => exact absurd rfl (htick now)
    | _ => rfl
  obtain ⟨msgs, hfires, htells⟩ := step_fires hmac h.good hbuf htick
    (controls (other.side.sent.drop s.side.count))
  obtain ⟨new, hsent, hnew, hworld, hcount⟩ := act_tells hmac h hother he s.world
    (by rw [hbefore, ← h.couples.peer]; rfl) htells
  rw [hbefore] at hcount
  refine ⟨new, hsent, ?_⟩
  rw [hworld, hcount, hnew]
  exact hfires

/-- A tick that does not find the peer dead is nothing to the machine. -/
theorem tick_fires (hmac : Hmac) (h : s.Sound) (hother : other.Sound) {now : ℚ}
    (halive : Alive s (.own (.tick now))) :
    ∃ new, (s.act hmac other (.own (.tick now))).side.sent = s.side.sent ++ new ∧
      (s.act hmac other (.own (.tick now))).world.tunnel.fsm = s.world.tunnel.fsm ∧
      (s.act hmac other (.own (.tick now))).side.count = s.side.count ∧ controls new = [] := by
  have hstep : Tunnel.step hmac s.world (.tick now) = (Tunnel.tick hmac now s.world).2 := by
    rw [Tunnel.step, handle, bind_pure_snd]
  -- all a tick does is to resend
  have htick : ∃ acks, Tunnel.step hmac s.world (.tick now)
      = received s.world (s.world.tunnel.peer.tick now).2 acks := by
    rw [hstep]
    rcases tick_cases hmac now s.world with ⟨e, peer, ht, hrun⟩ | ⟨resends, dead, peer, ht, hrun⟩
    · exact ⟨[], by rw [hrun, ht]⟩
    · have hdead : dead = false := by
        cases dead with
        | false => rfl
        | true => simp [Alive, foundDead, ht] at halive
      exact ⟨resends, by rw [hrun, ht, hdead]; rfl⟩
  obtain ⟨acks, hrun⟩ := htick
  have hmet : (s.side.run other.side (before hmac s.world.tunnel (.tick now) (.own (.tick now)))).peer
        = (s.world.tunnel.peer.tick now).2 ∧
      (s.side.run other.side (before hmac s.world.tunnel (.tick now) (.own (.tick now)))).count
        = s.side.count := by
    show (Side.act s.side other.side (.tick now)).peer = _ ∧
      (Side.act s.side other.side (.tick now)).count = _
    rw [Side.act, h.couples.peer]
    rcases s.world.tunnel.peer.tick now with ⟨_ | ⟨_, _⟩, _⟩ <;> exact ⟨rfl, rfl⟩
  obtain ⟨new, hsent, hnew, hworld, hcount⟩ := act_tells hmac h hother
    (e := .own (.tick now)) rfl (Tunnel.step hmac s.world (.tick now))
    (by rw [hmet.1, hrun]; rfl) (.refl _)
  exact ⟨new, hsent, by rw [hworld, hrun]; rfl, hcount.trans hmet.2, hnew⟩

/-- **A step of a station is a run of its machine**, on the messages of the other one that it has
not delivered yet. -/
theorem act_fires (hmac : Hmac) (h : s.Sound) (hother : other.Sound)
    (hin : Flow other.side s.side) {e : Event} (hnear : Bounded s other e) (halive : Alive s e)
    (hapart : Unmerged s other e) :
    ∃ new, (s.act hmac other e).side.sent = s.side.sent ++ new ∧
      fires s.world.tunnel.fsm (controls (other.side.sent.drop s.side.count)) (events s other e)
        = ((s.act hmac other e).world.tunnel.fsm,
          controls (other.side.sent.drop (s.act hmac other e).side.count), controls new) := by
  have hnone : e.toTunnel other.world = none → s.act hmac other e = s := fun he => by rw [act, he]
  -- an event whose datagram is not there changes nothing
  cases e with
  | receive n =>
    cases hd : other.side.out[n]? with
    | none =>
      have he : (Event.receive n).toTunnel other.world = none := by
        simp [Event.toTunnel, ← hother.couples.out, hd]
      rw [hnone he]
      exact ⟨[], by simp, by simp [events, completed, hd, controls, fires]⟩
    | some d =>
      have he : (Event.receive n).toTunnel other.world = some (.datagram d.bytes) := by
        simp [Event.toTunnel, ← hother.couples.out, hd]
      obtain ⟨w₁, msgs, hpeer, hfires, htells⟩ := receive_fires hmac h hother hin hd rfl hnear hapart
      obtain ⟨new, hsent, hnew, hworld, hcount⟩ := act_tells hmac h hother he w₁
        (congrArg Peer.sendQueue hpeer) htells
      refine ⟨new, hsent, ?_⟩
      rw [hworld, hcount, hnew]
      exact hfires
  | own te =>
    cases te with
    | datagram buf =>
      rw [hnone rfl]
      exact ⟨[], by simp, rfl⟩
    | tick now =>
      obtain ⟨new, hsent, hfsm, hcount, hnew⟩ := tick_fires hmac h hother halive
      exact ⟨new, hsent, by rw [hfsm, hcount, hnew]; rfl⟩
    | start | close | helloTimer | closeSession sid resultCode =>
      exact own_fires hmac h hother (by simp) (by simp)

end Station

/-! ## The pair

The channel between the two machines holds what was sent and not yet delivered: a suffix of the
history of the sender. A datagram that is lost, repeated or late changes neither end of that suffix,
and so is no event at all for the machines. -/

namespace Joined

open Tunnel Handshake

variable {δ : Type} {hmac : Hmac}

/-- The two machines, and between them the messages of the control connection that the peer of
the other end has not delivered yet. -/
def machines (j : Joined δ) : Pair where
  a := j.a.world.tunnel.fsm
  b := j.b.world.tunnel.fsm
  toA := controls (j.b.side.sent.drop j.a.side.count)
  toB := controls (j.a.side.sent.drop j.b.side.count)

/-- What an event is for the two machines. -/
def events (j : Joined δ) : Event → List PairEvent
  | .atA e => (Station.events j.a j.b e).map .atA
  | .atB e => (Station.events j.b j.a e).map .atB

/-- The datagram that is processed holds a message near the number delivered, no tick finds the
peer dead, and what a datagram completes can be told apart. -/
def Carried (j : Joined δ) : Event → Prop
  | .atA e => Station.Bounded j.a j.b e ∧ Station.Alive j.a e ∧ Station.Unmerged j.a j.b e
  | .atB e => Station.Bounded j.b j.a e ∧ Station.Alive j.b e ∧ Station.Unmerged j.b j.a e

instance (j : Joined δ) : (e : Event) → Decidable (j.Carried e)
  | .atA e => inferInstanceAs (Decidable (Station.Bounded j.a j.b e ∧ Station.Alive j.a e ∧
      Station.Unmerged j.a j.b e))
  | .atB e => inferInstanceAs (Decidable (Station.Bounded j.b j.a e ∧ Station.Alive j.b e ∧
      Station.Unmerged j.b j.a e))

/-- A step that is carried is within the serial bounds. -/
theorem Carried.bounded {j : Joined δ} {e : Event} (h : j.Carried e) : j.Bounded e := by
  cases e <;> exact h.1

/-- What is sent is appended to what the other end has not delivered yet. -/
theorem controls_drop {sent sent' new : List (List AVP)} (hsent : sent' = sent ++ new) {count : Nat}
    (hle : count ≤ sent.length) :
    controls (sent'.drop count) = controls (sent.drop count) ++ controls new := by
  rw [hsent, List.drop_append_of_le_length hle, controls, List.filter_append]
  rfl

variable [Dataplane δ]

/-- **A step of the pair is a run of its machines** over channels that lose nothing. -/
theorem machines_step (hmac : Hmac) {j : Joined δ} (h : j.Sound) {e : Event} (he : j.Carried e) :
    (j.step hmac e).machines = (j.events e).foldl Pair.step j.machines := by
  -- the two ends are alike; what one sends is what the other has not delivered
  cases e with
  | atA e =>
    obtain ⟨hnear, halive, hapart⟩ := he
    obtain ⟨new, hsent, hfires⟩ := Station.act_fires hmac h.a h.b h.toA hnear halive hapart
    have htoB := controls_drop hsent h.toB.count_le
    rw [events, Pair.run_atA]
    simp only [machines, Joined.step, hfires, htoB]
  | atB e =>
    obtain ⟨hnear, halive, hapart⟩ := he
    obtain ⟨new, hsent, hfires⟩ := Station.act_fires hmac h.b h.a h.toB hnear halive hapart
    have htoA := controls_drop hsent h.toA.count_le
    rw [events, Pair.run_atB]
    simp only [machines, Joined.step, hfires, htoA]

/-! ## Runs

What is known of the two machines over channels that lose nothing is carried over to the pair. The
conditions on a run of the machines become conditions on the events of the pair. -/

/-- What the loader accepts, can be encoded, and has no password. -/
structure Plain (cfg : TunnelConfigEntry) : Prop where
  accepted : cfg.Accepted
  encodes : cfg.Encodes
  secret : cfg.secret = none

/-- The builders of an accepted configuration do not fail. -/
theorem Plain.buildable {cfg : TunnelConfigEntry} (h : Plain cfg) : Buildable cfg.toConfig where
  sccrq := Crash.buildSccrx_of_accepted h.accepted .sccrq
  sccrp := Crash.buildSccrx_of_accepted h.accepted .sccrp
  stopccn := ⟨_, buildStopccnAvps_ok_iff.mpr
    ⟨⟨h.accepted.localCcid.1.le, h.accepted.localCcid.2⟩, by decide, rfl⟩⟩

/-- No idle end starts while a StopCCN has been sent and not delivered. -/
def Settled (j : Joined δ) : Event → Prop
  | .atA (.own .start) => j.machines.Drained (.atA .localOpen)
  | .atB (.own .start) => j.machines.Drained (.atB .localOpen)
  | _ => True

instance (j : Joined δ) : (e : Event) → Decidable (j.Settled e)
  | .atA (.own .start) => inferInstanceAs (Decidable (j.machines.Drained (.atA .localOpen)))
  | .atB (.own .start) => inferInstanceAs (Decidable (j.machines.Drained (.atB .localOpen)))
  | .atA (.receive _) | .atB (.receive _) => instDecidableTrue
  | .atA (.own .close) | .atA (.own .helloTimer) | .atA (.own (.datagram _)) => instDecidableTrue
  | .atA (.own (.tick _)) | .atA (.own (.closeSession _ _)) => instDecidableTrue
  | .atB (.own .close) | .atB (.own .helloTimer) | .atB (.own (.datagram _)) => instDecidableTrue
  | .atB (.own (.tick _)) | .atB (.own (.closeSession _ _)) => instDecidableTrue

/-- Only the end `a` is started, and neither is closed. -/
def AsksOnce : Event → Prop
  | .atA (.own .close) | .atB (.own .close) | .atB (.own .start) => False
  | _ => True

instance : (e : Event) → Decidable (AsksOnce e)
  | .atA (.own .close) | .atB (.own .close) | .atB (.own .start) => instDecidableFalse
  | .atA (.receive _) | .atB (.receive _) => instDecidableTrue
  | .atA (.own .start) | .atA (.own .helloTimer) | .atA (.own (.datagram _)) => instDecidableTrue
  | .atA (.own (.tick _)) | .atA (.own (.closeSession _ _)) => instDecidableTrue
  | .atB (.own .helloTimer) | .atB (.own (.datagram _)) => instDecidableTrue
  | .atB (.own (.tick _)) | .atB (.own (.closeSession _ _)) => instDecidableTrue

section Runs

variable {cfgA cfgB : TunnelConfigEntry} {j : Joined δ} {e : Event}

omit [Dataplane δ] in
/-- Two stations just built are sound, and so are the two flows between them. -/
theorem sound_pair (hA : Plain cfgA) (hB : Plain cfgB) (dpA dpB : Option δ) (clockA clockB : Nat → ℚ) :
    (init cfgA cfgB dpA dpB clockA clockB).Sound :=
  ⟨sound_init hA.accepted hA.encodes hA.secret _ _, sound_init hB.accepted hB.encodes hB.secret _ _,
    Flow.init _ _ rfl rfl rfl rfl, Flow.init _ _ rfl rfl rfl rfl⟩

omit [Dataplane δ] in
/-- An open comes from a start only, and a close from a close. -/
theorem events_cases {s other : Station δ} {e : Station.Event} {ev : Handshake.Event}
    (h : ev ∈ Station.events s other e) : ev = .deliver ∨ ev = .helloTimer ∨
      (e = .own .start ∧ ev = .localOpen) ∨
      e = .own .close ∧ ev = .localClose ResultCode.adminShutdown.code := by
  cases e with
  | receive n => exact .inl (List.eq_of_mem_replicate h)
  | own te =>
    cases te with
    | start => exact .inr (.inr (.inl ⟨rfl, List.mem_singleton.mp h⟩))
    | close => exact .inr (.inr (.inr ⟨rfl, List.mem_singleton.mp h⟩))
    | helloTimer =>
      have hcalls : ev ∈ if s.world.tunnel.timer.armed then [Handshake.Event.helloTimer]
        else [] := h
      split at hcalls
      · exact .inr (.inl (List.mem_singleton.mp hcalls))
      · cases hcalls
    | datagram buf => cases h
    | tick now => cases h
    | closeSession sid resultCode => cases h

omit [Dataplane δ] in
/-- A settled step is a run of the machines in which every open finds the channels drained. -/
theorem guarded_events (hs : j.Settled e) :
    Transition.Guarded Pair.step Pair.Drained j.machines (j.events e) := by
  cases e with
  | atA e =>
    -- only a start is an open
    by_cases he : e = .own .start
    · subst he
      exact ⟨hs, trivial⟩
    · refine guarded_of_not_open (fun e' hmem => ?_) _
      obtain ⟨ev, hev, rfl⟩ := List.mem_map.mp hmem
      rcases events_cases hev with rfl | rfl | ⟨h, -⟩ | ⟨-, rfl⟩
      · simp
      · simp
      · exact absurd h he
      · simp
  | atB e =>
    by_cases he : e = .own .start
    · subst he
      exact ⟨hs, trivial⟩
    · refine guarded_of_not_open (fun e' hmem => ?_) _
      obtain ⟨ev, hev, rfl⟩ := List.mem_map.mp hmem
      rcases events_cases hev with rfl | rfl | ⟨h, -⟩ | ⟨-, rfl⟩
      · simp
      · simp
      · exact absurd h he
      · simp

omit [Dataplane δ] in
/-- A step of a run in which only one end asks is a run of the machines in which only that end asks.
-/
theorem asks_events (ha : AsksOnce e) : ∀ ev ∈ j.events e, Asks ev := by
  intro ev hmem
  cases e with
  | atA e =>
    obtain ⟨ev, hev, rfl⟩ := List.mem_map.mp hmem
    rcases events_cases hev with rfl | rfl | ⟨-, rfl⟩ | ⟨rfl, -⟩
    · trivial
    · trivial
    · trivial
    · exact absurd ha id
  | atB e =>
    obtain ⟨ev, hev, rfl⟩ := List.mem_map.mp hmem
    rcases events_cases hev with rfl | rfl | ⟨rfl, -⟩ | ⟨rfl, -⟩
    · trivial
    · trivial
    · exact absurd ha id
    · exact absurd ha id

end Runs

/-- The spoke of the example is plain. -/
theorem plain_spoke : Plain Dispatch.spoke :=
  ⟨Crash.spoke_accepted.tunnels _ (List.mem_singleton_self _),
    Crash.spoke_encodes _ (List.mem_singleton_self _), rfl⟩

/-- The hub of the example is plain. -/
theorem plain_hub : Plain hub :=
  ⟨{ plain_spoke.accepted with
      localCcid := by decide, remoteCcid := by decide, localCcidIsBool := nofun },
    { plain_spoke.encodes with hostName := by decide +kernel }, rfl⟩

/-- The SCCRQ is lost and arrives twice later, the SCCCN is lost and sent again. -/
def lossyOpening : List Event :=
  [.atA (.own .start), .atA (.own (.tick 1)), .atB (.receive 1), .atB (.receive 0),
    .atA (.receive 1), .atA (.own (.tick 2)), .atB (.receive 4)]

/-- The pair after it. -/
def afterLoss : Joined MockDataplane :=
  lossyOpening.foldl (step ControlMessage.sumHmac)
    (init Dispatch.spoke hub none none (fun _ => 0) fun _ => 0)

/-- **The transport is two channels that lose nothing.** Over a network that loses, duplicates,
delays and reorders the datagrams of two tunnels without a password, as long as no tick finds a
peer dead and no message of the handshake is merged behind another one: the two machines stand
where the run of their own calls leaves them, with every message of the control connection
delivered once and in order, and the messages that are still in those channels are the ones the
peers have not delivered. -/
theorem simulated (hmac : Hmac) (cfgA cfgB : TunnelConfigEntry) (hA : Plain cfgA) (hB : Plain cfgB)
    (dpA dpB : Option δ) (clockA clockB : Nat → ℚ) (es : List Event)
    (hes : Transition.Guarded (step hmac) Carried (init cfgA cfgB dpA dpB clockA clockB) es) :
    (es.foldl (step hmac) (init cfgA cfgB dpA dpB clockA clockB)).machines
      = (Transition.matched (step hmac) events (init cfgA cfgB dpA dpB clockA clockB) es).foldl
          Pair.step (Pair.init cfgA.toConfig cfgB.toConfig) :=
  Transition.stands_run machines (I := Sound) (fun _ _ h he => h.step he.bounded)
    (fun _ _ h he => machines_step hmac h he) (sound_pair hA hB dpA dpB clockA clockB) hes

/-- The example loses the first SCCRQ and repeats datagrams; its machines see four events. -/
theorem simulated_afterLoss : afterLoss.machines = ([.atA .localOpen, .atB .deliver, .atA .deliver,
    .atB .deliver].foldl Pair.step (Pair.init Dispatch.spoke.toConfig hub.toConfig)) := by
  have hevents : Transition.matched (step ControlMessage.sumHmac) events
      (init (δ := MockDataplane) Dispatch.spoke hub none none (fun _ => 0) fun _ => 0) lossyOpening
      = [.atA .localOpen, .atB .deliver, .atA .deliver, .atB .deliver] := by
    decide +kernel
  rw [← hevents]
  exact simulated ControlMessage.sumHmac Dispatch.spoke hub plain_spoke plain_hub none none
    (fun _ => 0) (fun _ => 0) lossyOpening (by decide +kernel)

/-- What the pair keeps, as far as its machines go. -/
structure Kept (cfgA cfgB : TunnelConfigEntry) (j : Joined δ) : Prop where
  sound : j.Sound
  inv : j.machines.Inv cfgA.toConfig cfgB.toConfig

omit [Dataplane δ] in
theorem kept_init {cfgA cfgB : TunnelConfigEntry} (hA : Plain cfgA) (hB : Plain cfgB)
    (dpA dpB : Option δ) (clockA clockB : Nat → ℚ) :
    (init cfgA cfgB dpA dpB clockA clockB).Kept cfgA cfgB :=
  ⟨sound_pair hA hB dpA dpB clockA clockB, Pair.inv_init⟩

/-- **One step** of the pair. -/
theorem Kept.step (hmac : Hmac) {cfgA cfgB : TunnelConfigEntry} (hA : Plain cfgA) (hB : Plain cfgB)
    {j : Joined δ} (h : j.Kept cfgA cfgB) {e : Event} (he : j.Carried e) :
    (j.step hmac e).Kept cfgA cfgB :=
  ⟨h.sound.step he.bounded,
    machines_step hmac h.sound he ▸ Pair.inv_run hA.buildable hB.buildable h.inv (j.events e)⟩

/-- **No half-open connection over a lossy network.** An end that is up knows the identity of the
other one, in every state. And if no idle end starts while a StopCCN is on its way, then whenever
all messages of the control connection are delivered, both ends are up or neither is. -/
theorem both_up_or_neither (hmac : Hmac) (cfgA cfgB : TunnelConfigEntry) (hA : Plain cfgA)
    (hB : Plain cfgB) (dpA dpB : Option δ) (clockA clockB : Nat → ℚ) :
    (∀ j, Transition.Reach (step hmac) Carried (init cfgA cfgB dpA dpB clockA clockB) j →
      (j.a.world.tunnel.fsm.state = .established → Knows j.a.world.tunnel.fsm cfgB.toConfig) ∧
      (j.b.world.tunnel.fsm.state = .established → Knows j.b.world.tunnel.fsm cfgA.toConfig)) ∧
    (∀ j, Transition.Reach (step hmac) (fun j e => j.Carried e ∧ j.Settled e)
        (init cfgA cfgB dpA dpB clockA clockB) j →
      controls (j.b.side.sent.drop j.a.side.count) = [] →
      controls (j.a.side.sent.drop j.b.side.count) = [] →
      (j.a.world.tunnel.fsm.state = .established ↔ j.b.world.tunnel.fsm.state = .established)) := by
  -- the machines are in a state of the pair of machines, of which both are known
  constructor
  · intro j hj
    have hkept : j.Kept cfgA cfgB := hj.invariant (kept_init hA hB dpA dpB clockA clockB)
      fun _ _ h he => h.step hmac hA hB he
    exact ⟨fun hs => hkept.inv.knows_a (.inr hs), fun hs => hkept.inv.knows_b (.inr hs)⟩
  · intro j hj htoA htoB
    have hsafe : j.Kept cfgA cfgB ∧ Safe j.machines.shape := by
      refine hj.invariant (I := fun j => j.Kept cfgA cfgB ∧ Safe j.machines.shape)
        ⟨kept_init hA hB dpA dpB clockA clockB, ?_⟩ fun j e h he => ⟨h.1.step hmac hA hB he.1, ?_⟩
      · exact (by decide +kernel : Safe ⟨.idle, .idle, [], []⟩)
      · rw [machines_step hmac h.1.sound he.1]
        exact Pair.safe_run hA.buildable hB.buildable h.1.inv h.2 (guarded_events he.2)
    exact safe_established_iff hsafe.2 (by simp [Pair.shape, machines, htoA, kinds])
      (by simp [Pair.shape, machines, htoB, kinds])

/-- The example: both ends are up. -/
theorem both_up_or_neither_afterLoss :
    Knows afterLoss.a.world.tunnel.fsm hub.toConfig ∧ (afterLoss.a.world.tunnel.fsm.state = .established ↔
      afterLoss.b.world.tunnel.fsm.state = .established) := by
  have hup : afterLoss.a.world.tunnel.fsm.state = .established := by decide +kernel
  have h := both_up_or_neither (δ := MockDataplane) ControlMessage.sumHmac Dispatch.spoke hub
    plain_spoke plain_hub none none (fun _ => 0) fun _ => 0
  exact ⟨(h.1 afterLoss (Transition.Reach.run .start (by decide +kernel))).1 hup,
    h.2 afterLoss (Transition.Reach.run .start (by decide +kernel)) (by decide +kernel)
      (by decide +kernel)⟩

/-- **The connection opens over a lossy network.** When only the end `a` is started and neither is
closed, then in every state in which `a` has asked and all messages of the control connection are
delivered, whatever was lost, repeated or reordered on the way, both ends are up and know each
other. -/
theorem opens (hmac : Hmac) (cfgA cfgB : TunnelConfigEntry) (hA : Plain cfgA) (hB : Plain cfgB)
    (dpA dpB : Option δ) (clockA clockB : Nat → ℚ) (j : Joined δ)
    (hj : Transition.Reach (step hmac) (fun j e => j.Carried e ∧ AsksOnce e)
      (init cfgA cfgB dpA dpB clockA clockB) j) (hasked : j.a.world.tunnel.fsm.state ≠ .idle)
    (htoA : controls (j.b.side.sent.drop j.a.side.count) = [])
    (htoB : controls (j.a.side.sent.drop j.b.side.count) = []) :
    (j.a.world.tunnel.fsm.state = .established ∧ Knows j.a.world.tunnel.fsm cfgB.toConfig) ∧
    (j.b.world.tunnel.fsm.state = .established ∧ Knows j.b.world.tunnel.fsm cfgA.toConfig) := by
  have hopening : j.Kept cfgA cfgB ∧ j.machines.shape ∈ opening := by
    refine hj.invariant (I := fun j => j.Kept cfgA cfgB ∧ j.machines.shape ∈ opening)
      ⟨kept_init hA hB dpA dpB clockA clockB, ?_⟩ fun j e h he => ⟨h.1.step hmac hA hB he.1, ?_⟩
    · exact List.mem_cons_self
    · rw [machines_step hmac h.1.sound he.1]
      exact Pair.opening_run hA.buildable hB.buildable h.1.inv h.2 (asks_events he.2)
  obtain ⟨hkept, ho⟩ := hopening
  obtain ⟨ha, hb⟩ := Pair.opened_of_empty ho hasked htoA htoB
  exact ⟨⟨ha, hkept.inv.knows_a (.inr ha)⟩, hb, hkept.inv.knows_b (.inr hb)⟩

/-- The example opens over its losses. -/
theorem opens_afterLoss : afterLoss.a.world.tunnel.fsm.state = .established ∧
    afterLoss.b.world.tunnel.fsm.state = .established := by
  have h := opens ControlMessage.sumHmac Dispatch.spoke hub plain_spoke plain_hub none none
    (fun _ => 0) (fun _ => 0) afterLoss (Transition.Reach.run .start (by decide +kernel))
    (by decide +kernel) (by decide +kernel) (by decide +kernel)
  exact ⟨h.1.1, h.2.1⟩

end Joined

end L2tpv3d
