import L2tpv3d.Daemon.Dispatch

/-!
# L2tpv3d — every exchange ends

A message is acknowledged, and may be answered with a message that is acknowledged and answered in
turn. Each datagram is charged for everything that may ever be sent because of it, and whatever it
meets, the tunnel that receives it stays within the charge.

* `typeDebt`, `handDebt`, `messageDebt`, `debt` — the charge; `hoard` — that of what was received
  out of order.
* `receive_debt` — the peer, `yields_tunnel`, `yields_session` — the machines.
* `Spends` — a call stays within a sum, and its rules; `spends_dispatch` — the hand-over,
  `spent_datagram` — a datagram, `spent_own` — what happens at a tunnel of itself.
* `End`, `Pair` — two tunnels and what is on its way between them; **`sent_le`** — what they send
  is bounded by what was begun.
-/

namespace L2tpv3d

open Py Prog

namespace Exchange

/-! ## What a message may lead to

The charge of a message is fixed by its type. It covers the acknowledgement, the answer, and
whatever the answer leads to at the other end. -/

/-- How many datagrams may be sent, on either side, because a message of this type was handed to
a machine, when no tunnel has more than `n` sessions. A SCCRP or a SCCCN that establishes the
tunnel makes every session call. -/
def typeDebt (n : Nat) (mt : Int) : Nat :=
  if mt = MessageType.sccrq.code then 16 * n + 4
  else if mt = MessageType.sccrp.code then 16 * n + 2
  else if mt = MessageType.scccn.code then 8 * n
  else if mt = MessageType.icrq.code then 6
  else if mt = MessageType.icrp.code then 4
  else if mt = MessageType.iccn.code then 2
  else 0

/-- The same of the AVPs that a machine is handed. -/
def handDebt (n : Nat) (avps : List AVP) : Nat :=
  match getMessageType avps with
  | .ok (some mt) => typeDebt n mt
  | _ => 0

/-- A message is acknowledged as well; a ZLB leads to nothing. -/
def messageDebt (n : Nat) (avps : List AVP) : Nat :=
  if avps = [] then 0 else handDebt n avps + 1

/-- How many datagrams may be sent because this one arrives. -/
def debt (n : Nat) (buf : Bytes) : Nat :=
  match ControlMessage.decode buf with
  | .ok msg => messageDebt n msg.avps
  | .error _ => 0

/-- The messages in the reorder buffer may still be handed over. -/
def hoard (n : Nat) (p : Peer) : Nat := p.reorder.total fun msg => handDebt n msg.avps

section Debts

variable {n : Nat} {avps rest : List AVP} {mt : MessageType}

/-- A message whose type is known is charged for that type. -/
theorem handDebt_tagged (h : Tagged mt avps) : handDebt n avps = typeDebt n mt.code := by
  rw [handDebt, getMessageType_of_tagged h]

/-- A digest does not tell which machine a message is for. -/
theorem handDebt_digest {digest : List AVP} (h : ∀ d ∈ digest, d.isDigest = true) :
    handDebt n (avps ++ digest) = handDebt n avps := by
  rw [handDebt, handDebt, getMessageType, getMessageType, findAvp_append_digest h (by decide)]

/-- What is handed over in one piece is taken for the first message of it. -/
theorem handDebt_append (n : Nat) (avps rest : List AVP) :
    handDebt n (avps ++ rest) ≤ handDebt n avps + handDebt n rest := by
  -- the first Message Type AVP is among the first AVPs, or it is not
  cases hfind : findAvp avps .messageType with
  | some avp =>
    have happend : findAvp (avps ++ rest) .messageType = some avp := by
      rw [findAvp, List.find?_append]
      rw [findAvp] at hfind
      rw [hfind]
      rfl
    have heq : handDebt n (avps ++ rest) = handDebt n avps := by
      rw [handDebt, handDebt, getMessageType, getMessageType, happend, hfind]
    omega
  | none =>
    have happend : findAvp (avps ++ rest) .messageType = findAvp rest .messageType := by
      rw [findAvp, List.find?_append]
      rw [findAvp] at hfind
      rw [hfind]
      rfl
    have heq : handDebt n (avps ++ rest) = handDebt n rest := by
      rw [handDebt, handDebt, getMessageType, getMessageType, happend]
    omega

/-- A message costs its acknowledgement and what it is charged for. -/
theorem messageDebt_le (n : Nat) (avps : List AVP) : messageDebt n avps ≤ handDebt n avps + 1 := by
  unfold messageDebt
  split <;> omega

/-- No message costs more than an SCCRQ. -/
theorem handDebt_le (n : Nat) (avps : List AVP) : handDebt n avps ≤ 16 * n + 6 := by
  unfold handDebt typeDebt
  split
  · split_ifs <;> omega
  · exact Nat.zero_le _

/-- Nor does a datagram, with its acknowledgement. -/
theorem debt_le (n : Nat) (buf : Bytes) : debt n buf ≤ 16 * n + 7 := by
  unfold debt
  split
  · rename_i msg _
    have := messageDebt_le n msg.avps
    have := handDebt_le n msg.avps
    omega
  · exact Nat.zero_le _

/-- Datagrams in flight, with what they may lead to. -/
theorem sum_debt_le (n : Nat) (out : List Bytes) :
    (out.map (debt n)).sum + out.length ≤ (16 * n + 8) * out.length := by
  induction out with
  | nil => exact Nat.zero_le _
  | cons buf out ih =>
    have := debt_le n buf
    rw [List.map_cons, List.sum_cons, List.length_cons, Nat.mul_succ]
    omega

/-- What waits to be handed over is charged by the message. -/
theorem hoard_le (n : Nat) (p : Peer) : hoard n p ≤ (16 * n + 6) * p.reorder.size :=
  Dict.total_le (fun msg : ControlMessage => handDebt_le n msg.avps) p.reorder

end Debts

/-! ## The peer

A message that arrives out of order keeps its charge, as it may be handed over later. -/

/-- The drain pays for what it pops. -/
theorem drain_hoard (n : Nat) {fuel : Nat} {nr nr' : Int} {reorder reorder' : Dict Int ControlMessage}
    {popped : List ControlMessage} (h : Peer.drain fuel nr reorder = (popped, nr', reorder')) :
    handDebt n (popped.flatMap (·.avps)) + reorder'.total (fun msg => handDebt n msg.avps)
      ≤ reorder.total fun msg => handDebt n msg.avps := by
  -- on the fuel: each message popped has been paid for when it was buffered
  induction fuel generalizing nr reorder popped with
  | zero =>
    cases h
    exact Nat.le_of_eq (Nat.zero_add _)
  | succ fuel ih =>
    rw [Peer.drain] at h
    cases hget : reorder.get? nr with
    | none =>
      simp only [hget] at h
      cases h
      exact Nat.le_of_eq (Nat.zero_add _)
    | some queued =>
      rcases hrest : Peer.drain fuel (seqAdvance nr) (reorder.erase nr) with ⟨popped₁, nr₁, reorder₁⟩
      simp only [hget, hrest] at h
      cases h
      have hpaid := ih hrest
      have herase := Dict.total_erase_add_le (fun msg : ControlMessage => handDebt n msg.avps) hget
      have happend := handDebt_append n queued.avps (popped₁.flatMap (·.avps))
      rw [List.flatMap_cons]
      omega

/-- **One received message** pays for its acknowledgement and for what it has handed over. -/
theorem receive_debt (n : Nat) (p : Peer) (msg : ControlMessage) :
    (p.receive msg).1.2.length + handDebt n (p.receive msg).1.1 + hoard n (p.receive msg).2
      ≤ messageDebt n msg.avps + hoard n p := by
  have hnil : handDebt n [] = 0 := rfl
  have hbody : msg.isZlb = false → messageDebt n msg.avps = handDebt n msg.avps + 1 := by
    intro hz
    rw [messageDebt, if_neg]
    rintro heq
    rw [ControlMessage.isZlb, heq] at hz
    cases hz
  -- refused; an acknowledgement; the next one, with what it releases; old; buffered; too far ahead
  rcases Peer.receive_cases p msg with ⟨-, hr⟩ | ⟨-, q, rfl, ⟨-, hr⟩ |
    ⟨hin, popped, nr, reorder, hd, hr⟩ | ⟨hz, -, hr⟩ | ⟨hz, -, -, hr⟩ | ⟨hz, -, -, hr⟩⟩
  · rw [hr]
    simp only [List.length_nil, hnil]
    omega
  · rw [hr]
    simp only [List.length_nil, hnil, hoard]
    omega
  · have hz : msg.isZlb = false := by
      rw [Peer.inOrder, Bool.and_eq_true, Bool.and_eq_true, Bool.not_eq_true'] at hin
      exact hin.1.2
    have hpaid := drain_hoard n hd
    have happend := handDebt_append n msg.avps (popped.flatMap (·.avps))
    rw [hr, hbody hz]
    simp only [List.length_singleton, hoard]
    omega
  · rw [hr, hbody hz]
    simp only [List.length_singleton, hnil, hoard]
    omega
  · have hset := p.reorder.total_set_le (fun msg : ControlMessage => handDebt n msg.avps) msg.ns msg
    rw [hr, hbody hz]
    simp only [List.length_nil, hnil, hoard]
    omega
  · rw [hr, hbody hz]
    simp only [List.length_nil, hnil, hoard]
    omega

/-! ## The machines

Each action has a bill, and a method returns actions whose bills add up to no more than the charge
of its message. -/

/-- How many datagrams may be sent because this action is executed: a message is one itself, is
acknowledged, and may be answered. -/
def sessionActionBill (n : Nat) : SessionAction → Nat
  | .sendMessage avps => handDebt n avps + 2
  | _ => 0

/-- What an action of the tunnel machine may send: the ICRQ of every session, after `Established`.
-/
def tunnelActionBill (n : Nat) : TunnelAction → Nat
  | .sendMessage avps => handDebt n avps + 2
  | .established => n * 8
  | _ => 0

/-- What a list of them may send. -/
def sessionBill (n : Nat) (actions : List SessionAction) : Nat :=
  (actions.map (sessionActionBill n)).sum

/-- What a list of them may send. -/
def tunnelBill (n : Nat) (actions : List TunnelAction) : Nat :=
  (actions.map (tunnelActionBill n)).sum

section Machines

variable {n : Nat}

/-- Going down sends nothing. -/
theorem sessionBill_down (s : SessionFSM) (reason : SessionDownReason) :
    sessionBill n (s.downActions reason) = 0 := by
  unfold SessionFSM.downActions
  split <;> rfl

/-- Going down sends nothing. -/
theorem tunnelBill_down (prior : TunnelState) (reason : TunnelDownReason) :
    tunnelBill n (TunnelFSM.dropActions prior reason) = 0 := by
  unfold TunnelFSM.dropActions
  split <;> rfl

/-- A message with what follows it. -/
theorem sessionBill_send {avps : List AVP} {mt : MessageType} (h : Tagged mt avps)
    (rest : List SessionAction) : sessionBill n (.sendMessage avps :: rest)
      = typeDebt n mt.code + 2 + sessionBill n rest := by
  rw [sessionBill, List.map_cons, List.sum_cons, sessionActionBill, handDebt_tagged h]
  rfl

/-- A message with what follows it. -/
theorem tunnelBill_send {avps : List AVP} {mt : MessageType} (h : Tagged mt avps)
    (rest : List TunnelAction) : tunnelBill n (.sendMessage avps :: rest)
      = typeDebt n mt.code + 2 + tunnelBill n rest := by
  rw [tunnelBill, List.map_cons, List.sum_cons, tunnelActionBill, handDebt_tagged h]
  rfl

/-! ### Sessions

One lemma for each method: the state and the message decide what is sent at most. -/

/-- A CDN, and nothing can answer it. -/
theorem yields_teardownCdn (reason : SessionDownReason) :
    Yields (fun actions => sessionBill n actions ≤ 2) (SessionFSM.teardownCdn reason) := by
  refine Yields.bind fun self => Yields.ofExcept_bind fun avps havps => Yields.bind fun _ =>
    Yields.pure ?_
  rw [List.singleton_append, sessionBill_send (buildCdnAvps_regular havps).2, sessionBill_down]
  exact Nat.le_refl 2

/-- The ICRQ of one session. -/
theorem yields_onTunnelEstablished :
    Yields (fun actions => sessionBill n actions ≤ 8) SessionFSM.onTunnelEstablished := by
  refine Yields.bind fun self => ?_
  split
  · exact Yields.pure (Nat.zero_le 8)
  -- only an idle initiator calls
  · split
    · exact Yields.pure (Nat.zero_le 8)
    · refine Yields.ofExcept_bind fun avps havps => Yields.bind fun _ => Yields.pure ?_
      rw [sessionBill_send (buildIcrqAvps_regular havps).1]
      exact Nat.le_refl 8

/-- Nothing is sent when the tunnel is gone. -/
theorem yields_onTunnelDown :
    Yields (fun actions => sessionBill n actions ≤ 0) SessionFSM.onTunnelDown := by
  refine Yields.bind fun self => ?_
  split
  · exact Yields.pure (Nat.le_refl 0)
  · exact Yields.bind fun _ => Yields.pure (Nat.le_of_eq (sessionBill_down self .tunnelDown))

/-- An ICRQ is answered with an ICRP, or with a CDN. -/
theorem yields_onIcrq (msg : ControlMessage) :
    Yields (fun actions => sessionBill n actions ≤ 6) (SessionFSM.onIcrq msg) := by
  refine Yields.bind fun self => ?_
  -- not idle: a CDN
  split
  · exact (yields_teardownCdn _).mono fun _ h => h.trans (by decide)
  · refine Yields.bind fun fields => ?_
    split
    · exact Yields.pure (Nat.zero_le 6)
    · refine Yields.bind fun _ => Yields.ofExcept_bind fun avps havps => Yields.bind fun _ =>
        Yields.pure ?_
      rw [sessionBill_send (buildIcrpAvps_regular havps).2]
      exact Nat.le_refl 6

/-- An ICRP is answered with an ICCN, or with a CDN. -/
theorem yields_onIcrp (msg : ControlMessage) :
    Yields (fun actions => sessionBill n actions ≤ 4) (SessionFSM.onIcrp msg) := by
  refine Yields.bind fun self => ?_
  split
  · exact Yields.pure (Nat.zero_le 4)
  · refine Yields.bind fun fields => ?_
    split
    · exact (yields_teardownCdn _).mono fun _ h => h.trans (by decide)
    · refine Yields.bind fun _ => Yields.ofExcept_bind fun avps havps => Yields.bind fun _ =>
        Yields.bind fun _ => Yields.pure ?_
      rw [sessionBill_send (buildIccnAvps_regular havps).2]
      exact Nat.le_refl 4

/-- An ICCN is answered with a CDN at most. -/
theorem yields_onIccn (msg : ControlMessage) :
    Yields (fun actions => sessionBill n actions ≤ 2) (SessionFSM.onIccn msg) := by
  refine Yields.bind fun self => ?_
  split
  · exact Yields.pure (Nat.zero_le 2)
  · refine Yields.bind fun fields => ?_
    split
    · exact yields_teardownCdn _
    · split
      · exact yields_teardownCdn _
      · exact Yields.bind fun _ => Yields.pure (Nat.zero_le 2)

/-- A CDN is not answered. -/
theorem yields_onCdn (msg : ControlMessage) :
    Yields (fun actions => sessionBill n actions ≤ 0) (SessionFSM.onCdn msg) := by
  refine Yields.bind fun self => ?_
  split
  · exact Yields.pure (Nat.le_refl 0)
  · exact Yields.bind fun _ => Yields.bind fun _ =>
      Yields.pure (Nat.le_of_eq (sessionBill_down self _))

/-- **A session** answers within what its message was charged for. -/
theorem yields_session (msg : ControlMessage) :
    Yields (fun actions => sessionBill n actions ≤ handDebt n msg.avps) (SessionFSM.onMessage msg) := by
  refine Yields.ofExcept_bind fun mt hmt => ?_
  -- by the Message Type, in the order of the handlers
  split
  · rename_i heq
    subst heq
    rw [handDebt, hmt]
    exact yields_onIcrq msg
  · split
    · rename_i heq
      subst heq
      rw [handDebt, hmt]
      exact yields_onIcrp msg
    · split
      · rename_i heq
        subst heq
        rw [handDebt, hmt]
        exact yields_onIccn msg
      · split
        · exact (yields_onCdn msg).mono fun _ h => h.trans (Nat.zero_le _)
        · exact Yields.pure (Nat.zero_le _)

/-! ### The tunnel machine

When the connection comes up, every session may send an ICRQ; so the charge of a message of the
handshake grows with the number of the sessions. -/

/-- A StopCCN, and nothing can answer it. -/
theorem tunnelBill_stop {localCcid resultCode : Int} {avps : List AVP}
    (h : buildStopccnAvps localCcid resultCode = .ok avps) (prior : TunnelState)
    (reason : TunnelDownReason) : tunnelBill n (TunnelFSM.stopActions prior avps reason) = 2 := by
  rw [show TunnelFSM.stopActions prior avps reason
    = .sendMessage avps :: TunnelFSM.dropActions prior reason from rfl,
    tunnelBill_send (buildStopccnAvps_regular h).2, tunnelBill_down]
  rfl

/-- A teardown costs its StopCCN. -/
theorem yields_teardown (reason : TunnelDownReason) :
    Yields (fun actions => tunnelBill n actions ≤ 2) (TunnelFSM.teardownAndNotify reason) := by
  refine Yields.bind fun self => Yields.ofExcept_bind fun avps havps => Yields.bind fun _ =>
    Yields.pure (Nat.le_of_eq (tunnelBill_stop havps self.state reason))

/-- An SCCRQ is answered with an SCCRP, or with a StopCCN. -/
theorem yields_onSccrq (msg : ControlMessage) :
    Yields (fun actions => tunnelBill n actions ≤ 16 * n + 4) (TunnelFSM.onSccrq msg) := by
  refine Yields.bind fun self => ?_
  split
  · exact (yields_teardown _).mono fun _ h => h.trans (by omega)
  · refine Yields.bind fun fields => ?_
    split
    · exact Yields.pure (Nat.zero_le _)
    · refine Yields.bind fun _ => Yields.ofExcept_bind fun avps havps => Yields.bind fun _ =>
        Yields.pure ?_
      rw [tunnelBill_send (buildSccrxAvps_tagged havps)]
      exact Nat.le_refl (16 * n + 4)

/-- An SCCRP is answered with an SCCCN and every ICRQ, or with a StopCCN. -/
theorem yields_onSccrp (msg : ControlMessage) :
    Yields (fun actions => tunnelBill n actions ≤ 16 * n + 2) (TunnelFSM.onSccrp msg) := by
  refine Yields.bind fun self => ?_
  split
  · exact Yields.pure (Nat.zero_le _)
  · refine Yields.bind fun fields => ?_
    split
    · exact (yields_teardown _).mono fun _ h => h.trans (by omega)
    · refine Yields.bind fun _ => Yields.ofExcept_bind fun avps havps => Yields.bind fun _ =>
        Yields.pure ?_
      rw [buildScccnAvps_eq, Except.ok.injEq] at havps
      subst havps
      have htag : Tagged .scccn [messageTypeAvp .scccn] := rfl
      have hbill : tunnelBill n [.setHelloTimer self.config.helloInterval, .established] = n * 8 := by
        simp [tunnelBill, tunnelActionBill]
      rw [tunnelBill_send htag, hbill, show typeDebt n MessageType.scccn.code = 8 * n from rfl]
      omega

/-- An SCCCN is answered with every ICRQ. -/
theorem yields_onScccn (msg : ControlMessage) :
    Yields (fun actions => tunnelBill n actions ≤ 8 * n) (TunnelFSM.onScccn msg) := by
  refine Yields.bind fun self => ?_
  split
  · exact Yields.pure (Nat.zero_le _)
  · refine Yields.bind fun _ => Yields.pure ?_
    have hbill : tunnelBill n [.setHelloTimer self.config.helloInterval, .established] = n * 8 := by
      simp [tunnelBill, tunnelActionBill]
    rw [hbill]
    omega

/-- A StopCCN is not answered. -/
theorem yields_onStopccn (msg : ControlMessage) :
    Yields (fun actions => tunnelBill n actions ≤ 0) (TunnelFSM.onStopccn msg) := by
  refine Yields.bind fun self => ?_
  split
  · exact Yields.pure (Nat.le_refl 0)
  · exact Yields.bind fun _ => Yields.bind fun _ =>
      Yields.pure (Nat.le_of_eq (tunnelBill_down self.state _))

/-- **The tunnel machine** answers within what its message was charged for. -/
theorem yields_tunnel (msg : ControlMessage) :
    Yields (fun actions => tunnelBill n actions ≤ handDebt n msg.avps) (TunnelFSM.onMessage msg) := by
  refine Yields.ofExcept_bind fun mt hmt => ?_
  -- by the Message Type, in the order of the handlers
  split
  · rename_i heq
    subst heq
    rw [handDebt, hmt]
    exact yields_onSccrq msg
  · split
    · rename_i heq
      subst heq
      rw [handDebt, hmt]
      exact yields_onSccrp msg
    · split
      · rename_i heq
        subst heq
        rw [handDebt, hmt]
        exact yields_onScccn msg
      · split
        · exact Yields.pure (Nat.zero_le _)
        · split
          · exact (yields_onStopccn msg).mono fun _ h => h.trans (Nat.zero_le _)
          · exact Yields.pure (Nat.zero_le _)

/-! ### What happens at a tunnel of itself

These answer nothing, so what they send is begun anew. -/

/-- The SCCRQ that opens a tunnel. -/
theorem yields_onLocalOpen :
    Yields (fun actions => tunnelBill n actions ≤ 16 * n + 6) TunnelFSM.onLocalOpen := by
  refine Yields.bind fun self => ?_
  split
  · exact Yields.pure (Nat.zero_le _)
  · refine Yields.ofExcept_bind fun avps havps => Yields.bind fun _ => Yields.pure ?_
    rw [tunnelBill_send (buildSccrxAvps_tagged havps)]
    exact Nat.le_refl (16 * n + 6)

/-- The StopCCN that closes it. -/
theorem yields_onLocalClose (resultCode : Int) :
    Yields (fun actions => tunnelBill n actions ≤ 2) (TunnelFSM.onLocalClose resultCode) := by
  refine Yields.bind fun self => ?_
  split
  · exact Yields.pure (Nat.zero_le 2)
  · refine Yields.ofExcept_bind fun avps havps => Yields.bind fun _ => Yields.pure ?_
    exact Nat.le_of_eq (tunnelBill_stop havps self.state _)

/-- A HELLO. -/
theorem yields_onHelloTimer :
    Yields (fun actions => tunnelBill n actions ≤ 2) TunnelFSM.onHelloTimer := by
  refine Yields.bind fun self => ?_
  split
  · exact Yields.pure (Nat.zero_le 2)
  · refine Yields.ofExcept_bind fun avps havps => Yields.pure ?_
    rw [buildHelloAvps_eq, Except.ok.injEq] at havps
    subst havps
    have htag : Tagged .hello [messageTypeAvp .hello] := rfl
    rw [tunnelBill_send htag]
    exact Nat.le_refl 2

/-- Nothing is sent to a peer that is dead. -/
theorem yields_onPeerDead :
    Yields (fun actions => tunnelBill n actions ≤ 0) TunnelFSM.onPeerDead := by
  refine Yields.bind fun self => ?_
  split
  · exact Yields.pure (Nat.le_refl 0)
  · exact Yields.bind fun _ => Yields.pure (Nat.le_of_eq (tunnelBill_down self.state _))

/-- The CDN of a session that is closed. -/
theorem yields_onSessionClose (resultCode : Int) :
    Yields (fun actions => sessionBill n actions ≤ 2) (SessionFSM.onLocalClose resultCode) := by
  refine Yields.bind fun self => ?_
  split
  · exact Yields.pure (Nat.zero_le 2)
  · refine Yields.ofExcept_bind fun avps havps => Yields.bind fun _ => Yields.pure ?_
    rw [List.singleton_append, sessionBill_send (buildCdnAvps_regular havps).2, sessionBill_down]
    exact Nat.le_refl 2

end Machines

/-! ## One tunnel

A piece of work spends what it sends, with the charge of each datagram. The budgets of two pieces
add up, also where the first one raises. -/

open Tunnel World

variable {δ : Type} {hmac : Hmac} {n : Nat}

/-- From `w` to `w'` datagrams were sent that make at most `b` with those that may be sent because of
them; there are as many sessions as before, and the same messages wait to be handed over. -/
structure Spent (n b : Nat) (w w' : World δ) : Prop where
  sent : ∃ out, w'.sent = w.sent ++ out ∧ (out.map (debt n)).sum + out.length ≤ b
  sessions : w'.tunnel.sessionsByLocal.size = w.tunnel.sessionsByLocal.size
  reorder : w'.tunnel.peer.reorder = w.tunnel.peer.reorder

/-- Nothing was sent. -/
theorem Spent.free {b : Nat} {w w' : World δ} (hsent : w'.sent = w.sent)
    (hsessions : w'.tunnel.sessionsByLocal.size = w.tunnel.sessionsByLocal.size)
    (hreorder : w'.tunnel.peer.reorder = w.tunnel.peer.reorder) : Spent n b w w' :=
  ⟨⟨[], by rw [hsent, List.append_nil], Nat.zero_le b⟩, hsessions, hreorder⟩

/-- Less was spent. -/
theorem Spent.mono {b c : Nat} {w w' : World δ} (h : Spent n b w w') (hbc : b ≤ c) :
    Spent n c w w' := by
  obtain ⟨out, hsent, hout⟩ := h.sent
  exact ⟨⟨out, hsent, hout.trans hbc⟩, h.sessions, h.reorder⟩

/-- One piece of work after another. -/
theorem Spent.trans {b c : Nat} {w w' w'' : World δ} (h : Spent n b w w') (h' : Spent n c w' w'') :
    Spent n (b + c) w w'' := by
  obtain ⟨out, hsent, hout⟩ := h.sent
  obtain ⟨out', hsent', hout'⟩ := h'.sent
  refine ⟨⟨out ++ out', by rw [hsent', hsent, List.append_assoc], ?_⟩,
    h'.sessions.trans h.sessions, h'.reorder.trans h.reorder⟩
  rw [List.map_append, List.sum_append, List.length_append]
  omega

/-- The call is such a move, if there are at most `n` sessions. -/
def Spends {α : Type} (n b : Nat) (m : Prog (World δ) α) : Prop :=
  ∀ w : World δ, w.tunnel.sessionsByLocal.size ≤ n → Spent n b w (m w).2

section Rules

variable {α β : Type} {b c : Nat}

/-- Returning costs nothing. -/
theorem Spends.pure (a : α) : Spends (δ := δ) n 0 (Pure.pure a : Prog (World δ) α) :=
  fun _ _ => .free rfl rfl rfl

/-- A budget may be raised. -/
theorem Spends.mono {m : Prog (World δ) α} (h : Spends n b m) (hbc : b ≤ c) : Spends n c m :=
  fun w hw => (h w hw).mono hbc

/-- **The budgets of two pieces of work add up**, whether the first returns or raises. -/
theorem Spends.bind {m : Prog (World δ) α} {f : α → Prog (World δ) β} (hm : Spends n b m)
    (hf : ∀ a, Spends n c (f a)) : Spends n (b + c) (m >>= f) := by
  intro w hw
  have hspent := hm w hw
  rw [bind_apply]
  rcases hrun : m w with ⟨e | a, w'⟩
  · rw [hrun] at hspent
    exact hspent.mono (Nat.le_add_right b c)
  · rw [hrun] at hspent
    exact hspent.trans (hf a w' (hspent.sessions.trans_le hw))

/-- After a call that sends nothing. -/
theorem Spends.bind_free {m : Prog (World δ) α} {f : α → Prog (World δ) β} (hm : Spends n 0 m)
    (hf : ∀ a, Spends n b (f a)) : Spends n b (m >>= f) :=
  (hm.bind hf).mono (Nat.le_of_eq (Nat.zero_add b))

/-- A piece of work that looks at the state. -/
theorem Spends.get_bind {f : World δ → Prog (World δ) β}
    (h : ∀ w : World δ, w.tunnel.sessionsByLocal.size ≤ n → Spends n b (f w)) :
    Spends n b (get >>= f) := fun w hw => h w hw w hw

/-- A loop costs what its rounds cost. -/
theorem Spends.each {ι : Type} {body : ι → Prog (World δ) Unit} {price : ι → Nat} :
    ∀ {xs : List ι}, (∀ x ∈ xs, Spends n (price x) (body x)) →
      Spends n (xs.map price).sum (each body xs)
  | [], _ => Spends.pure ()
  | x :: _, h => (h x List.mem_cons_self).bind fun _ =>
    Spends.each fun y hy => h y (List.mem_cons_of_mem x hy)

end Rules

/-! ### The calls

The rules applied to the executor and the dispatch, bottom up. -/

section Calls

/-- An assignment that touches neither the tables nor what was sent. -/
theorem spends_modify {f : World δ → World δ} (hsent : ∀ w, (f w).sent = w.sent)
    (hsessions : ∀ w, (f w).tunnel.sessionsByLocal.size = w.tunnel.sessionsByLocal.size)
    (hreorder : ∀ w, (f w).tunnel.peer.reorder = w.tunnel.peer.reorder) :
    Spends n 0 (modify f) :=
  fun w _ => .free (hsent w) (hsessions w) (hreorder w)

/-- A call of the dataplane sends nothing. -/
theorem spends_onDataplane {α : Type} (call : Prog δ α) : Spends n 0 (onDataplane call) := by
  intro w _
  obtain ⟨r, dataplane, faults, hrun⟩ := onDataplane_frame call w
  rw [hrun]
  exact .free rfl rfl rfl

/-- **A message sent** has paid for what it leads to. -/
theorem spends_send (avps : List AVP) :
    Spends (δ := δ) n (handDebt n avps + 2) (send hmac avps) := by
  intro w _
  -- refused by the peer, or queued
  rcases send_cases hmac avps w with ⟨e, -, hrun⟩ | ⟨msg, peer, hok, hwire⟩
  · rw [hrun]
    exact .free rfl rfl rfl
  · have hlink := Peer.sameLink_send hok
    obtain ⟨-, rfl, -⟩ := Peer.send_eq_ok.mp hok
    -- not signed, or on its way
    rcases hwire with ⟨e, -, hrun⟩ | ⟨bs, hbs, hrun⟩
    · rw [hrun]
      exact .free rfl rfl hlink.reorder
    · obtain ⟨digest, hdigest, hdecode⟩ := decode_of_wire hmac hbs
      have hdebt := messageDebt_le n (avps ++ digest)
      rw [handDebt_digest hdigest] at hdebt
      rw [hrun]
      refine ⟨⟨[bs], rfl, ?_⟩, rfl, hlink.reorder⟩
      rw [List.map_singleton, List.sum_singleton, debt, hdecode]
      exact Nat.succ_le_succ hdebt

variable [Dataplane δ]

/-- An action of a session. -/
theorem spends_sessionAction (action : SessionAction) :
    Spends (δ := δ) n (sessionActionBill n action) (executeSessionAction hmac action) := by
  have hcall : ∀ {α : Type} (call : Prog δ α),
      Spends n 0 (do let _ ← onDataplane call : Prog (World δ) Unit) := fun call =>
    (spends_onDataplane call).bind_free fun _ => Spends.pure ()
  cases action with
  | sendMessage avps => exact spends_send avps
  | dataplaneAddSession params =>
    refine Spends.bind_free ?_ fun _ => hcall (Dataplane.addSession params)
    refine Spends.get_bind fun w _ => ?_
    split
    · exact Spends.pure ()
    · refine (spends_onDataplane _).bind_free fun added => ?_
      split
      · exact spends_modify (fun _ => rfl) (fun _ => rfl) fun _ => rfl
      · exact Spends.pure ()
  | dataplaneDelSession localCcid localSid => exact hcall (Dataplane.delSession localCcid localSid)
  | sessionEstablished => exact Spends.pure ()
  | sessionTornDown reason => exact Spends.pure ()

/-- **A call of a session** sends what its machine returned. -/
theorem spends_callSession {m : Prog SessionFSM (List SessionAction)} {b : Nat}
    (hm : Yields (fun actions => sessionBill n actions ≤ b) m) (sid : Int) {g : Tunnel → Tunnel}
    (hg : OnlyIndex g) : Spends (δ := δ) n b (callSession hmac sid m g) := by
  intro w hw
  -- no such session; a method that raised; a method that returned actions
  rcases callSession_cases hmac sid m hg w with ⟨r, -, hrun⟩ | ⟨s, s', e, hget, -, hrun⟩ |
    ⟨s, s', actions, r, hget, hm', hrun⟩
  · rw [hrun]
    exact .free rfl rfl rfl
  · rw [hrun]
    exact .free rfl (Dict.size_set hget) rfl
  · have hset : Spent n 0 w ((w.withSession sid s').withIndex r) :=
      .free rfl (Dict.size_set hget) rfl
    have hexec : Spends (δ := δ) n b (executeSessionActions hmac actions) :=
      (Spends.each fun action _ => spends_sessionAction action).mono (hm s actions (by rw [hm']))
    rw [hrun]
    exact (hset.trans (hexec _ (hset.sessions.trans_le hw))).mono (Nat.le_of_eq (Nat.zero_add b))

/-- The loop over the sessions, of which there are `n` at most. -/
theorem spends_eachSession {m : Prog SessionFSM (List SessionAction)} {b : Nat}
    (hm : Yields (fun actions => sessionBill n actions ≤ b) m) :
    Spends (δ := δ) n (n * b) (eachSession hmac m) := by
  refine Spends.get_bind fun w hw => ?_
  have hloop : Spends (δ := δ) n _ (each (fun sid => callSession hmac sid m id)
      w.tunnel.sessionsByLocal.keys) :=
    Spends.each fun sid _ => spends_callSession hm sid onlyIndex_id
  refine hloop.mono ?_
  rw [List.map_const', List.sum_replicate_nat, Dict.keys, List.length_map]
  exact Nat.mul_le_mul_right b hw

/-- An action of the tunnel machine. -/
theorem spends_tunnelAction (action : TunnelAction) :
    Spends (δ := δ) n (tunnelActionBill n action) (executeTunnelAction hmac action) := by
  cases action with
  | sendMessage avps => exact spends_send avps
  | setHelloTimer seconds =>
    refine Spends.bind_free (fun w _ => .free rfl rfl rfl) fun now => ?_
    exact spends_modify (fun _ => rfl) (fun _ => rfl) fun _ => rfl
  | clearHelloTimer => exact spends_modify (fun _ => rfl) (fun _ => rfl) fun _ => rfl
  | established =>
    refine Spends.bind_free (spends_modify (fun _ => rfl) (fun _ => rfl) fun _ => rfl) fun _ => ?_
    exact spends_eachSession yields_onTunnelEstablished
  | tornDown reason =>
    refine Spends.bind_free (spends_modify (fun _ => rfl) (fun _ => rfl) fun _ => rfl) fun _ => ?_
    refine Spends.bind_free (spends_eachSession yields_onTunnelDown) fun _ => ?_
    refine Spends.get_bind fun w _ => ?_
    split
    · refine (spends_onDataplane _).bind_free fun _ => ?_
      exact spends_modify (fun _ => rfl) (fun _ => rfl) fun _ => rfl
    · exact Spends.pure ()

/-- **A call of the tunnel machine** sends what it returned. -/
theorem spends_drive {m : Prog TunnelFSM (List TunnelAction)} {b : Nat}
    (hm : Yields (fun actions => tunnelBill n actions ≤ b) m) : Spends (δ := δ) n b (drive hmac m) := by
  intro w hw
  -- a method that raised, or one that returned actions
  rcases hrun : m w.tunnel.fsm with ⟨e | actions, fsm⟩
  · rw [show drive hmac m w = (.error e, w.withFsm fsm) by
      rw [drive, bind_apply, onFsm, zoom, hrun]]
    exact .free rfl rfl rfl
  · have hset : Spent n 0 w (w.withFsm fsm) := .free rfl rfl rfl
    have hexec : Spends (δ := δ) n b (executeTunnelActions hmac actions) :=
      (Spends.each fun action _ => spends_tunnelAction action).mono (hm _ actions (by rw [hrun]))
    rw [show drive hmac m w = executeTunnelActions hmac actions (w.withFsm fsm) by
      rw [drive, bind_apply, onFsm, zoom, hrun]]
    exact (hset.trans (hexec (w.withFsm fsm) hw)).mono (Nat.le_of_eq (Nat.zero_add b))

/-- **What is handed over** is answered within what it was charged for. -/
theorem spends_dispatch (msg : ControlMessage) (delivered : List AVP) :
    Spends (δ := δ) n (handDebt n delivered) (dispatch hmac msg delivered) := by
  intro w hw
  have hnoted : ∀ target virtual, Spent n 0 w (noted w target virtual) := fun _ _ =>
    .free rfl rfl rfl
  have hafter : ∀ {target virtual w'}, Spent n (handDebt n delivered) (noted w target virtual) w' →
      Spent n (handDebt n delivered) w w' := fun h =>
    ((hnoted _ _).trans h).mono (Nat.le_of_eq (Nat.zero_add _))
  obtain ⟨virtual, hvirtual, ⟨e, -, hrun⟩ | ⟨mt, -, -, hrun⟩ | ⟨mt, -, -, hrun⟩⟩ :=
    dispatch_cases hmac msg delivered w
  · rw [hrun]
    exact .free rfl rfl rfl
  · have hsession := yields_session (n := n) virtual
    rw [show virtual.avps = delivered by rw [hvirtual]] at hsession
    rw [hrun]
    -- a message to no session is noted and dropped
    rcases dispatchSessionMessage_cases hmac virtual mt w with hnone | ⟨_, _, _, sid, -, -, hcall⟩
    · rw [hnone]
      exact (hnoted _ _).mono (Nat.zero_le _)
    · rw [hcall]
      exact hafter (spends_callSession hsession sid (onlyIndex_indexRemote sid) _ hw)
  · have htunnel := yields_tunnel (n := n) virtual
    rw [show virtual.avps = delivered by rw [hvirtual]] at htunnel
    rw [hrun]
    exact hafter (spends_drive htunnel _ hw)

omit [Dataplane δ] in
/-- A tick leaves what waits to be handed over alone. -/
theorem tick_reorder (p : Peer) (now : ℚ) : (p.tick now).2.reorder = p.reorder := by
  rcases Peer.tick_cases p now with ⟨-, ht⟩ | ⟨-, queue, _, -, ⟨_, _, -, ht⟩ | ⟨_, -, ht⟩⟩
  · rw [ht]
  · rw [ht]
  · rw [ht]

/-- **What happens at a tunnel of itself** leaves what waits to be handed over alone. -/
theorem spent_own {e : Tunnel.Event} (he : ∀ buf, e ≠ .datagram buf) {w : World δ}
    (hw : w.tunnel.sessionsByLocal.size ≤ n) : ∃ b, Spent n b w (Tunnel.step hmac w e) := by
  cases e with
  | start => exact ⟨_, spends_drive yields_onLocalOpen w hw⟩
  | close =>
    have hclose : Spends (δ := δ) n (2 + 0) (close hmac) :=
      (spends_drive (yields_onLocalClose _)).bind fun _ =>
        spends_modify (fun _ => rfl) (fun _ => rfl) fun _ => rfl
    exact ⟨_, hclose w hw⟩
  | datagram buf => exact absurd rfl (he buf)
  | tick now =>
    have hreorder := tick_reorder w.tunnel.peer now
    have hstep : Tunnel.step hmac w (.tick now) = (tick hmac now w).2 := by
      rw [Tunnel.step, handle, bind_pure_snd]
    rw [hstep]
    -- the queue raised, or it was gone through and a dead peer is told
    rcases tick_cases hmac now w with ⟨e, peer, hpeer, hrun⟩ | ⟨resends, dead, peer, hpeer, hrun⟩
    · rw [hpeer] at hreorder
      rw [hrun]
      exact ⟨0, ⟨[], rfl, Nat.le_refl 0⟩, rfl, hreorder⟩
    · rw [hpeer] at hreorder
      have hresent : Spent n ((resends.map (debt n)).sum + resends.length) w (received w peer resends) :=
        ⟨⟨resends, rfl, Nat.le_refl _⟩, rfl, hreorder⟩
      rw [hrun]
      split
      · rw [bind_pure_snd]
        exact ⟨_, hresent.trans (spends_drive yields_onPeerDead _ hw)⟩
      · exact ⟨_, hresent⟩
  | helloTimer =>
    have htimer : Spends (δ := δ) n 2 (handle hmac .helloTimer) := by
      refine Spends.get_bind fun w _ => ?_
      split
      · refine Spends.bind_free (spends_modify (fun _ => rfl) (fun _ => rfl) fun _ => rfl) fun _ => ?_
        exact Spends.bind_free (spends_modify (fun _ => rfl) (fun _ => rfl) fun _ => rfl) fun _ =>
          spends_drive yields_onHelloTimer
      · exact (Spends.pure ()).mono (Nat.zero_le 2)
    exact ⟨_, htimer w hw⟩
  | closeSession sid resultCode =>
    exact ⟨_, spends_callSession (yields_onSessionClose resultCode) sid onlyIndex_id w hw⟩

/-- **A datagram that arrives** pays for what is sent because of it. -/
theorem spent_datagram (hmac : Hmac) (buf : Bytes) {w : World δ}
    (hw : w.tunnel.sessionsByLocal.size ≤ n) :
    ∃ out, (Tunnel.step hmac w (.datagram buf)).sent = w.sent ++ out ∧
      (Tunnel.step hmac w (.datagram buf)).tunnel.sessionsByLocal.size
        = w.tunnel.sessionsByLocal.size ∧
      (out.map (debt n)).sum + out.length
        + hoard n (Tunnel.step hmac w (.datagram buf)).tunnel.peer
        ≤ debt n buf + hoard n w.tunnel.peer := by
  rw [Tunnel.step, handle]
  rcases handleDatagram_cases hmac buf w with ⟨e, -, hrun⟩ |
    ⟨msg, ccid, peer, delivered, hmsg, -, hrecv⟩
  · rw [hrun]
    exact ⟨[], (List.append_nil _).symm, rfl, by simp⟩
  have hdebt := receive_debt n (w.tunnel.peer.setRemoteCcid ccid) msg
  rw [show hoard n (w.tunnel.peer.setRemoteCcid ccid) = hoard n w.tunnel.peer from rfl,
    show messageDebt n msg.avps = debt n buf by rw [debt, Dispatch.unwire_decode hmsg]] at hdebt
  -- no response; one that cannot be written; one that is, and the hand-over
  rcases hrecv with ⟨hr, hrun⟩ | ⟨hr, ⟨e, -, hrun⟩ | ⟨bs, hbs, hrun⟩⟩
  · rw [hr] at hdebt
    rw [hrun]
    refine ⟨[], rfl, rfl, ?_⟩
    simp only [List.length_nil, show handDebt n [] = 0 from rfl] at hdebt
    simp only [List.map_nil, List.sum_nil]
    exact hdebt
  · rw [hr] at hdebt
    rw [hrun]
    refine ⟨[], rfl, rfl, ?_⟩
    simp only [List.map_nil, List.sum_nil]
    exact (Nat.add_le_add_right (Nat.zero_le _) _).trans hdebt
  · have hack : debt n bs = 0 := by
      rw [debt, ControlMessage.decode_of_encode hbs]
      rfl
    rw [hr] at hdebt
    simp only [List.length_singleton] at hdebt
    have hafter : Spent n (handDebt n delivered) (received w peer [bs])
        (handleDatagram hmac buf w).2 := by
      rw [hrun]
      split
      · exact spends_dispatch msg delivered _ hw
      · exact .free rfl rfl rfl
    obtain ⟨out, hsent, hout⟩ := hafter.sent
    refine ⟨bs :: out, ?_, hafter.sessions, ?_⟩
    · rw [hsent]
      exact List.append_assoc ..
    · have hhoard : hoard n (handleDatagram hmac buf w).2.tunnel.peer = hoard n peer := by
        rw [hoard, hafter.reorder]
        rfl
      rw [hhoard, List.map_cons, List.sum_cons, List.length_cons, hack]
      omega

end Calls

/-! ## Two tunnels

The total of what was sent and of what may still be sent because of it grows only by what an event
begins. Induction on the run. -/

/-- What is taken from a list counts for it. -/
theorem sum_eraseIdx {α : Type} (f : α → Nat) {l : List α} {i : Nat} {a : α} (h : l[i]? = some a) :
    ((l.eraseIdx i).map f).sum + f a = (l.map f).sum := by
  induction l generalizing i with
  | nil => cases h
  | cons x l ih =>
    cases i with
    | zero =>
      cases h
      rw [List.eraseIdx_cons_zero, List.map_cons, List.sum_cons, Nat.add_comm]
    | succ i =>
      have hrest := ih h
      rw [List.eraseIdx_cons_succ, List.map_cons, List.sum_cons, List.map_cons, List.sum_cons]
      omega

/-- A tunnel and the datagrams that are on their way to it. -/
structure End (δ : Type) where
  world : World δ
  inbox : List Bytes

namespace End

/-- What can happen at an end. -/
inductive Event where
  /-- Anything but a datagram. -/
  | own (e : Tunnel.Event)
  /-- A datagram is put on its way by someone else, or by the network a second time. -/
  | inject (buf : Bytes)
  /-- The datagram at this position arrives. -/
  | arrive (i : Nat)
  /-- The datagram at this position is lost. -/
  | lose (i : Nat)

variable [Dataplane δ] (hmac : Hmac)

/-- What the tunnel sends is put on its way to the other end. -/
def run (s other : End δ) (e : Tunnel.Event) : End δ × End δ :=
  let world := Tunnel.step hmac s.world e
  ({ s with world := world },
    { other with inbox := other.inbox ++ world.sent.drop s.world.sent.length })

/-- An end and the other one after an event. -/
def act (s other : End δ) : Event → End δ × End δ
  | .own (.datagram _) => (s, other)
  | .own e => run hmac s other e
  | .inject buf => ({ s with inbox := s.inbox ++ [buf] }, other)
  | .arrive i =>
    match s.inbox[i]? with
    | none => (s, other)
    | some buf => run hmac { s with inbox := s.inbox.eraseIdx i } other (.datagram buf)
  | .lose i => ({ s with inbox := s.inbox.eraseIdx i }, other)

/-- How many datagrams an event sends that answer nothing. -/
def spontaneous (s other : End δ) : Event → Nat
  | .own e => (s.act hmac other (.own e)).1.world.sent.length - s.world.sent.length
  | .inject _ => 1
  | .arrive _ => 0
  | .lose _ => 0

/-- What may be sent because of what is on its way to an end, or was received out of order. -/
def standing (n : Nat) (s : End δ) : Nat :=
  (s.inbox.map (debt n)).sum + hoard n s.world.tunnel.peer

/-- What a step of the tunnel sends is owed to the other end. -/
theorem run_debt (n : Nat) {s : End δ} {e : Tunnel.Event} {out : List Bytes}
    (hsent : (Tunnel.step hmac s.world e).sent = s.world.sent ++ out) (other : End δ) :
    (s.run hmac other e).1.world.sent.length + standing n (s.run hmac other e).1
        + standing n (s.run hmac other e).2
      = s.world.sent.length + (s.inbox.map (debt n)).sum
        + hoard n (Tunnel.step hmac s.world e).tunnel.peer + standing n other
        + (out.map (debt n)).sum + out.length := by
  simp only [run, standing, hsent, List.drop_left, List.map_append, List.sum_append,
    List.length_append]
  omega

/-- What one event at an end may have sent in the end, beside what was owed before. -/
theorem act_debt {n : Nat} (s other : End δ) (e : Event) (hs : s.world.tunnel.sessionsByLocal.size ≤ n) :
    (s.act hmac other e).1.world.tunnel.sessionsByLocal.size = s.world.tunnel.sessionsByLocal.size ∧
    (s.act hmac other e).2.world = other.world ∧
    (s.act hmac other e).1.world.sent.length + standing n (s.act hmac other e).1
        + standing n (s.act hmac other e).2
      ≤ s.world.sent.length + standing n s + standing n other
        + (16 * n + 8) * spontaneous hmac s other e := by
  cases e with
  -- what a tunnel does of itself is charged with all that it may lead to
  | own e =>
    by_cases he : ∃ buf, e = .datagram buf
    · obtain ⟨buf, rfl⟩ := he
      exact ⟨rfl, rfl, Nat.le_add_right _ _⟩
    · rw [not_exists] at he
      have hact : s.act hmac other (.own e) = s.run hmac other e := by
        cases e with
        | datagram buf => exact absurd rfl (he buf)
        | _ => rfl
      obtain ⟨b, hspent⟩ : ∃ b, Spent n b s.world (Tunnel.step hmac s.world e) := spent_own he hs
      obtain ⟨out, hsent, -⟩ := hspent.sent
      have hrun := run_debt hmac n hsent other
      have hhoard : hoard n (Tunnel.step hmac s.world e).tunnel.peer = hoard n s.world.tunnel.peer := by
        rw [hoard, hspent.reorder]
        rfl
      have hcount : spontaneous hmac s other (.own e) = out.length := by
        rw [spontaneous, hact, run, hsent, List.length_append, Nat.add_sub_cancel_left]
      have hout := sum_debt_le n out
      rw [hact, hcount]
      refine ⟨hspent.sessions, rfl, ?_⟩
      rw [hrun, hhoard]
      simp only [standing]
      omega
  | inject buf =>
    refine ⟨rfl, rfl, ?_⟩
    have hdebt := debt_le n buf
    simp only [act, standing, spontaneous, List.map_append, List.sum_append, List.map_singleton,
      List.sum_singleton]
    omega
  -- what arrives has been charged before
  | arrive i =>
    cases hget : s.inbox[i]? with
    | none =>
      rw [act, hget]
      exact ⟨rfl, rfl, Nat.le_add_right _ _⟩
    | some buf =>
      obtain ⟨out, hsent, hsessions, hdebt⟩ := spent_datagram hmac buf hs
      have herase := sum_eraseIdx (debt n) hget
      have hrun := run_debt hmac n (s := { s with inbox := s.inbox.eraseIdx i }) hsent other
      have hact : s.act hmac other (.arrive i)
          = run hmac { s with inbox := s.inbox.eraseIdx i } other (.datagram buf) := by
        rw [act, hget]
      rw [hact]
      refine ⟨hsessions, rfl, ?_⟩
      rw [hrun]
      simp only [standing]
      omega
  | lose i =>
    refine ⟨rfl, rfl, ?_⟩
    have herase : ((s.inbox.eraseIdx i).map (debt n)).sum ≤ (s.inbox.map (debt n)).sum := by
      cases hget : s.inbox[i]? with
      | none => rw [List.eraseIdx_of_length_le (List.getElem?_eq_none_iff.mp hget)]
      | some buf =>
        have := sum_eraseIdx (debt n) hget
        omega
    simp only [act, standing]
    omega

end End

variable [Dataplane δ] (hmac : Hmac)

inductive Event where
  | atA (e : End.Event)
  | atB (e : End.Event)

/-- Two tunnels with the network between them. -/
structure Pair (δ : Type) where
  a : End δ
  b : End δ

/-- One step of the pair. -/
def step (x : Pair δ) : Event → Pair δ
  | .atA e => let (a, b) := x.a.act hmac x.b e; ⟨a, b⟩
  | .atB e => let (b, a) := x.b.act hmac x.a e; ⟨a, b⟩

/-- What an event makes of itself, at either end. -/
def spontaneous (x : Pair δ) : Event → Nat
  | .atA e => x.a.spontaneous hmac x.b e
  | .atB e => x.b.spontaneous hmac x.a e

namespace Pair

/-- How many datagrams the two tunnels have sent. -/
def sent (x : Pair δ) : Nat := x.a.world.sent.length + x.b.world.sent.length

/-- How many are on their way, or were received out of order. -/
def pending (x : Pair δ) : Nat :=
  (x.a.inbox.length + x.a.world.tunnel.peer.reorder.size)
    + (x.b.inbox.length + x.b.world.tunnel.peer.reorder.size)

/-- No tunnel has more than `n` sessions. -/
def Within (n : Nat) (x : Pair δ) : Prop :=
  x.a.world.tunnel.sessionsByLocal.size ≤ n ∧ x.b.world.tunnel.sessionsByLocal.size ≤ n

/-- What was sent, with what may be sent because of it. -/
def total (n : Nat) (x : Pair δ) : Nat := x.sent + (x.a.standing n + x.b.standing n)

omit [Dataplane δ] in
/-- What is owed is bounded by what is on its way. -/
theorem total_le (n : Nat) (x : Pair δ) : x.total n ≤ x.sent + (16 * n + 8) * x.pending := by
  have hend : ∀ s : End δ, s.standing n
      ≤ (16 * n + 8) * (s.inbox.length + s.world.tunnel.peer.reorder.size) := by
    intro s
    have hinbox := sum_debt_le n s.inbox
    have hreorder := hoard_le n s.world.tunnel.peer
    rw [End.standing, Nat.mul_add]
    have hround : (16 * n + 6) * s.world.tunnel.peer.reorder.size
        ≤ (16 * n + 8) * s.world.tunnel.peer.reorder.size := Nat.mul_le_mul_right _ (by omega)
    omega
  have ha := hend x.a
  have hb := hend x.b
  rw [total, pending, Nat.mul_add]
  omega

/-- **One event** adds what it sends of itself, with what may be sent because of that. -/
theorem total_step {n : Nat} {x : Pair δ} (h : x.Within n) (e : Event) :
    (step hmac x e).Within n ∧
      (step hmac x e).total n ≤ x.total n + (16 * n + 8) * spontaneous hmac x e := by
  cases e with
  | atA e =>
    obtain ⟨hsessions, hother, hdebt⟩ := End.act_debt hmac x.a x.b e h.1
    refine ⟨⟨hsessions.trans_le h.1, ?_⟩, ?_⟩
    · exact (congrArg (·.tunnel.sessionsByLocal.size) hother).trans_le h.2
    · have hsent := congrArg (·.sent.length) hother
      simp only [total, sent, step, spontaneous] at hdebt hsent ⊢
      omega
  | atB e =>
    obtain ⟨hsessions, hother, hdebt⟩ := End.act_debt hmac x.b x.a e h.2
    refine ⟨⟨?_, hsessions.trans_le h.2⟩, ?_⟩
    · exact (congrArg (·.tunnel.sessionsByLocal.size) hother).trans_le h.1
    · have hsent := congrArg (·.sent.length) hother
      simp only [total, sent, step, spontaneous] at hdebt hsent ⊢
      omega

/-- The sessions of the tunnel with the more sessions. -/
def sessions (x : Pair δ) : Nat :=
  max x.a.world.tunnel.sessionsByLocal.size x.b.world.tunnel.sessionsByLocal.size

end Pair

/-- **Every exchange ends.** However the two tunnels send and however the network loses, delays,
repeats and forges, what they send is at most `16 n + 8` times what was sent or put on its way
without being an answer, `n` being the number of sessions. -/
theorem sent_le (x : Pair δ) (es : List Event) : (es.foldl (step hmac) x).sent
    ≤ x.sent + (16 * x.sessions + 8)
      * (x.pending + Transition.charge (step hmac) (spontaneous hmac) x es) := by
  have hwithin : x.Within x.sessions := ⟨Nat.le_max_left _ _, Nat.le_max_right _ _⟩
  have hrun : (es.foldl (step hmac) x).total x.sessions ≤ x.total x.sessions
      + (16 * x.sessions + 8) * Transition.charge (step hmac) (spontaneous hmac) x es :=
    Transition.potential_le (I := Pair.Within x.sessions)
      (fun _ e h => Pair.total_step hmac h e) es hwithin
  have hstart := x.total_le x.sessions
  have hend : (es.foldl (step hmac) x).sent ≤ (es.foldl (step hmac) x).total x.sessions :=
    Nat.le_add_right _ _
  rw [Nat.mul_add]
  omega

end Exchange

end L2tpv3d
