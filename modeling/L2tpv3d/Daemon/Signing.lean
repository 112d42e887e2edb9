import L2tpv3d.Daemon.Frame
import L2tpv3d.Lib.Transition

/-!
# L2tpv3d — which datagrams of an authenticated tunnel verify

With a password, `_send` signs. The two other ways out do not: `handle_datagram` encodes the
acknowledgements of the peer plainly, and `Peer.tick` re-encodes what it resends plainly. A
message that carries no Message Digest AVP never verifies, so the datagrams of a step all
verify exactly when the step neither acknowledges nor resends.

* `Clean` — the queue holds messages without digest AVPs that encode; every handler keeps it.
* `Emits w₀ w` — what was sent between `w₀` and `w` verifies; executing the actions of a
  machine is such a move.
* **`signed_iff`** — from every reachable state, for every event.
-/

namespace L2tpv3d

open Py Prog

/-! ## What a tick resends

A message is queued as it was before it was signed, and a tick encodes it again with the current Nr.
Whatever Nr that is, no digest is in it. -/

/-- The retransmit timer of a queued message has expired. -/
def PendingSend.Expired (now : ℚ) (pending : PendingSend) : Prop :=
  ¬ now - pending.sentAt < pending.nextRto

/-- A queued message that encodes, whatever the Nr it is given, and that nobody can verify. -/
structure PendingSend.Plain (pending : PendingSend) : Prop where
  wellFormed : pending.msg.WellFormed
  undigested : Undigested pending.msg.avps

/-- A queued message can be written with any Nr. -/
theorem PendingSend.Plain.encode_nr {pending : PendingSend} (h : pending.Plain) {nr : Int}
    (hnr : IsU16 nr) : ∃ bs, ControlMessage.encode { pending.msg with nr := nr } = .ok bs := by
  have hwf := h.wellFormed
  exact ⟨_, ControlMessage.encode_of_wellFormed ⟨hwf.ccid_nonneg, hwf.ccid_le, hwf.ns_nonneg,
    hwf.ns_le, hnr.1, hnr.2, hwf.avps_plain, hwf.size_le⟩⟩

namespace Peer

variable (now : ℚ) {nr : Int} (maxRetries : Int)

/-- **The loop of a tick** over messages that encode: an expired one without retries left
makes the peer dead and nothing is resent; otherwise the expired ones are resent. -/
theorem tickLoop_outcome (hnr : IsU16 nr) (queue : List PendingSend)
    (hplain : ∀ p ∈ queue, p.Plain) :
    ((∃ p ∈ queue, p.Expired now ∧ maxRetries < p.retries + 1) ∧
      ∃ queue', tickLoop now nr maxRetries queue = (queue', .ok ([], true))) ∨
    ((∀ p ∈ queue, p.Expired now → p.retries + 1 ≤ maxRetries) ∧
      ∃ queue' resend, tickLoop now nr maxRetries queue = (queue', .ok (resend, false)) ∧
        (resend = [] ↔ ∀ p ∈ queue, ¬ p.Expired now) ∧
        ∀ bs ∈ resend, ∃ p ∈ queue, ControlMessage.encode { p.msg with nr := nr } = .ok bs) := by
  induction queue with
  | nil => exact .inr ⟨by simp, [], [], rfl, by simp, by simp⟩
  | cons pending rest ih =>
    have ih' := ih fun p hp => hplain p (List.mem_cons_of_mem _ hp)
    rw [tickLoop]
    by_cases hfresh : now - pending.sentAt < pending.nextRto
    · -- not expired: the entry is passed over
      have hne : ¬ pending.Expired now := fun h => h hfresh
      rw [if_pos hfresh]
      rcases ih' with ⟨⟨p, hp, hexp, hmax⟩, queue', hrun⟩ | ⟨hall, queue', resend, hrun, hnil, hres⟩
      · exact .inl ⟨⟨p, List.mem_cons_of_mem _ hp, hexp, hmax⟩, _, by rw [hrun]⟩
      · refine .inr ⟨?_, _, resend, by rw [hrun], ?_, ?_⟩
        · exact List.forall_mem_cons.mpr ⟨fun h => absurd h hne, hall⟩
        · rw [hnil, List.forall_mem_cons]
          exact ⟨fun h => ⟨hne, h⟩, fun h => h.2⟩
        · intro bs hbs
          obtain ⟨p, hp, henc⟩ := hres bs hbs
          exact ⟨p, List.mem_cons_of_mem _ hp, henc⟩
    · rw [if_neg hfresh]
      -- an entry without retries left ends the loop
      by_cases hmax : pending.retries + 1 > maxRetries
      · rw [if_pos hmax]
        exact .inl ⟨⟨pending, List.mem_cons_self, hfresh, hmax⟩, _, rfl⟩
      · obtain ⟨bs, henc⟩ := (hplain pending List.mem_cons_self).encode_nr hnr
        have henc' : (pending.refresh now nr).msg.encode = .ok bs := henc
        rw [if_neg hmax]
        simp only [henc']
        rcases ih' with ⟨⟨p, hp, hexp, hmax'⟩, queue', hrun⟩ | ⟨hall, queue', resend, hrun, hnil, hres⟩
        · exact .inl ⟨⟨p, List.mem_cons_of_mem _ hp, hexp, hmax'⟩, _, by rw [hrun]; rfl⟩
        · refine .inr ⟨?_, _, bs :: resend, by rw [hrun]; rfl, ?_, ?_⟩
          · exact List.forall_mem_cons.mpr ⟨fun _ => by omega, hall⟩
          · exact iff_of_false (by simp) fun h => h pending List.mem_cons_self hfresh
          · intro d hd
            rcases List.mem_cons.mp hd with rfl | hd
            · exact ⟨pending, List.mem_cons_self, henc⟩
            · obtain ⟨p, hp, henc⟩ := hres d hd
              exact ⟨p, List.mem_cons_of_mem _ hp, henc⟩

/-- A tick keeps the messages of the queue; only their Nr moves. -/
theorem tickLoop_plain (hnr : IsU16 nr) (queue : List PendingSend) (hplain : ∀ p ∈ queue, p.Plain) :
    ∀ p ∈ (tickLoop now nr maxRetries queue).1, p.Plain := by
  induction queue with
  | nil => simp [tickLoop]
  | cons pending rest ih =>
    obtain ⟨hhead, hrest⟩ := List.forall_mem_cons.mp hplain
    have ih' := ih hrest
    obtain ⟨bs, henc⟩ := hhead.encode_nr hnr
    have henc' : (pending.refresh now nr).msg.encode = .ok bs := henc
    rw [tickLoop]
    split
    · exact List.forall_mem_cons.mpr ⟨hhead, ih'⟩
    · split
      · exact List.forall_mem_cons.mpr ⟨⟨hhead.wellFormed, hhead.undigested⟩, hrest⟩
      · simp only [henc']
        refine List.forall_mem_cons.mpr ⟨⟨?_, hhead.undigested⟩, ih'⟩
        exact ControlMessage.wellFormed_of_encode henc'

end Peer

namespace Signing

open Tunnel World

variable {δ : Type} (hmac : Hmac)

/-! ## What the execution of actions sends

All messages of the machines leave through `_send`, which signs. None of them carries a digest of
its own, and the queue keeps the message without one. -/

/-- The datagram is accepted by a peer with the same password. -/
def Verified (cfg : TunnelConfigEntry) (secret : Bytes) (d : Bytes) : Prop :=
  ∃ m, ControlMessage.decodeAndVerify hmac d cfg.digestAlg secret = .ok m

/-- The queue of the peer holds messages that encode and carry no digest. -/
structure Clean (peer : Peer) : Prop where
  sound : peer.Sound
  queue : ∀ pending ∈ peer.sendQueue, pending.Plain

/-- From `w₀` to `w` only datagrams that verify were sent. -/
structure Emits (secret : Bytes) (w₀ w : World δ) : Prop where
  cfg : w.tunnel.cfg = w₀.tunnel.cfg
  clean : Clean w.tunnel.peer
  sent : ∃ out, w.sent = w₀.sent ++ out ∧ ∀ d ∈ out, Verified hmac w₀.tunnel.cfg secret d

variable {hmac} {secret : Bytes} {w₀ w w' : World δ}

theorem Emits.refl (h : Clean w.tunnel.peer) : Emits hmac secret w w :=
  ⟨rfl, h, [], by simp, by simp⟩

/-- A change that touches neither the transport nor the configuration. -/
theorem Emits.of_eq (h : Emits hmac secret w₀ w) (hcfg : w'.tunnel.cfg = w.tunnel.cfg)
    (hpeer : w'.tunnel.peer = w.tunnel.peer) (hsent : w'.sent = w.sent) :
    Emits hmac secret w₀ w' :=
  ⟨hcfg.trans h.cfg, hpeer ▸ h.clean, hsent ▸ h.sent⟩

/-- **A message without a digest of its own is sent signed**, and queued as it is. -/
theorem emits_send (hsecret : w₀.tunnel.cfg.secret = some secret) {avps : List AVP}
    (hno : Undigested avps) : Keeps (Emits hmac secret w₀) (Tunnel.send (δ := δ) hmac avps) := by
  intro w h
  -- a queued message is one that was encoded
  have hqueue : ∀ msg peer, w.tunnel.peer.send avps (w.clock 0) = .ok (msg, peer) → Clean peer := by
    intro msg peer hsend
    refine ⟨(Peer.sameLink_send hsend).sound h.clean.sound, ?_⟩
    obtain ⟨-, rfl, encoded, henc, rfl⟩ := Peer.send_eq_ok.mp hsend
    intro pending hmem
    rcases List.mem_append.mp hmem with hold | hnew
    · exact h.clean.queue pending hold
    · obtain rfl := List.mem_singleton.mp hnew
      exact ⟨ControlMessage.wellFormed_of_encode henc, hno⟩
  -- neither queued nor sent; queued only; queued, signed and sent
  rcases send_cases hmac avps w with ⟨e, -, hrun⟩ | ⟨msg, peer, hsend, ⟨e, -, hrun⟩ | ⟨bs, hbs, hrun⟩⟩
  · rw [hrun]
    exact h.of_eq rfl rfl rfl
  · rw [hrun]
    exact ⟨h.cfg, hqueue msg peer hsend, h.sent⟩
  · rw [hrun]
    obtain ⟨out, hout, hver⟩ := h.sent
    refine ⟨h.cfg, hqueue msg peer hsend, out ++ [bs], by simp [hout], ?_⟩
    intro d hd
    rcases List.mem_append.mp hd with hd | hd
    · exact hver d hd
    · obtain rfl := List.mem_singleton.mp hd
      obtain ⟨-, rfl, -⟩ := Peer.send_eq_ok.mp hsend
      rw [wire, h.cfg, hsecret] at hbs
      refine ⟨_, ControlMessage.decodeAndVerify_encodeSigned
        (TunnelConfigEntry.secret_ne_nil hsecret) ?_ hbs⟩
      exact hno

variable [Dataplane δ]

theorem emits_sessionCall (hsecret : w₀.tunnel.cfg.secret = some secret)
    {m : Prog SessionFSM (List SessionAction)} (hm : SessionFSM.Method m) (sid : Int)
    {g : Tunnel → Tunnel} (hg : OnlyIndex g) :
    Keeps (Emits hmac secret w₀) (callSession (δ := δ) hmac sid m g) :=
  keeps_callSession hmac (fun _ _ _ _ h => h.of_eq rfl rfl rfl) (fun _ _ _ h => h.of_eq rfl rfl rfl)
    (fun hout hmem => emits_send hsecret (hout.sent hmem).1) hm sid hg

/-- **The machine of the tunnel**: whatever method is called, what follows is sent signed. -/
theorem emits_drive (hsecret : w₀.tunnel.cfg.secret = some secret)
    {m : Prog TunnelFSM (List TunnelAction)} (hm : TunnelFSM.Method m) :
    Keeps (Emits hmac secret w₀) (drive (δ := δ) hmac m) := by
  intro w h
  refine keeps_callMachine hmac (fun _ _ _ _ h => h.of_eq rfl rfl rfl)
    (fun _ _ _ _ h => h.of_eq rfl rfl rfl) (fun _ _ _ h => h.of_eq rfl rfl rfl)
    (fun hout hmem => emits_send hsecret (hout.sent hmem).1) (h.of_eq rfl rfl rfl) ?_
  intro actions avps hr hmem
  have hout := hm w.tunnel.fsm
  rw [hr] at hout
  exact emits_send hsecret (hout.undigested hmem)

/-- The hand-over of a message sends what verifies. -/
theorem emits_dispatch (hsecret : w₀.tunnel.cfg.secret = some secret) (msg : ControlMessage)
    (delivered : List AVP) : Keeps (Emits hmac secret w₀) (dispatch (δ := δ) hmac msg delivered) := by
  refine keeps_dispatch hmac (fun w _ _ h => h.of_eq rfl rfl rfl) (fun sid virtual => ?_)
    (fun virtual => emits_drive hsecret (TunnelFSM.method_onMessage virtual)) msg delivered
  exact emits_sessionCall hsecret (SessionFSM.method_onMessage virtual) sid
    (onlyIndex_indexRemote sid)

/-! ## The two ways out that do not sign

An acknowledgement and a resent message are written by the peer itself, and go to the transport as
they are. For each of the two handlers concerned, the condition tells from the state before it
whether it writes one. -/

/-- The datagram is acknowledged: it carries a message for this tunnel, expected next or seen
before, and the header of the acknowledgement can be written. -/
def Acknowledges (hmac : Hmac) (t : Tunnel) (buf : Bytes) : Prop :=
  ∃ msg, unwire hmac t.cfg buf = .ok msg ∧ t.peer.accepts msg = true ∧ msg.isZlb = false ∧
    seqDelta msg.ns t.peer.nrExpect ≤ 0 ∧ IsU32 t.peer.remoteCcid

/-- A queued message is resent: one has expired, and none that has is out of retries. -/
def Resends (peer : Peer) (now : ℚ) : Prop :=
  peer.dead = false ∧ (∃ pending ∈ peer.sendQueue, pending.Expired now) ∧
    ∀ pending ∈ peer.sendQueue, pending.Expired now → pending.retries + 1 ≤ peer.maxRetries

/-- The steps that acknowledge or resend. -/
def Unsigned (hmac : Hmac) (w : World δ) : Tunnel.Event → Prop
  | .datagram buf => Acknowledges hmac w.tunnel buf
  | .tick now => Resends w.tunnel.peer now
  | _ => False

omit [Dataplane δ] in
/-- A message that comes in only takes acknowledged ones out of the queue. -/
theorem clean_receive {peer : Peer} (h : Clean peer) (msg : ControlMessage) :
    Clean (peer.receive msg).2 :=
  ⟨(peer.receive_frame msg h.sound).1, fun pending hmem =>
    h.queue pending (Peer.mem_sendQueue_receive hmem)⟩

omit [Dataplane δ] in
/-- Which messages are responded to. -/
theorem responses_eq_nil_iff (peer : Peer) (msg : ControlMessage) :
    (peer.receive msg).1.2 = [] ↔ ¬ (peer.accepts msg = true ∧ msg.isZlb = false ∧
      seqDelta msg.ns peer.nrExpect ≤ 0) := by
  rcases Peer.receive_cases peer msg with ⟨hacc, hr⟩ | ⟨hacc, q, -, ⟨hz, hr⟩ |
      ⟨hin, _, _, _, -, hr⟩ | ⟨hz, hd, hr⟩ | ⟨hz, hd, -, hr⟩ | ⟨hz, hd, -, hr⟩⟩
  · simp [hr, hacc]
  · simp [hr, hz]
  · obtain ⟨⟨-, hz⟩, hd⟩ := by simpa [Peer.inOrder] using hin
    simp [hr, hacc, hz, hd]
  · simp [hr, hacc, hz, hd.le]
  · simp [hr, hacc, hz, hd]
  · simp [hr, hacc, hz, hd]

/-- A step of an authenticated tunnel: the configuration and the clean queue stay, and the
datagrams of the step all verify exactly when it neither acknowledges nor resends. -/
structure Stepped (hmac : Hmac) (secret : Bytes) (w w' : World δ) (unsigned : Prop) : Prop where
  cfg : w'.tunnel.cfg = w.tunnel.cfg
  clean : Clean w'.tunnel.peer
  sent : ∃ out, w'.sent = w.sent ++ out ∧
    ((∀ d ∈ out, Verified hmac w.tunnel.cfg secret d) ↔ ¬ unsigned)

omit [Dataplane δ] in
/-- A step in which all that is sent verifies. -/
theorem Emits.stepped {unsigned : Prop} (h : Emits hmac secret w w') (hno : ¬ unsigned) :
    Stepped hmac secret w w' unsigned := by
  obtain ⟨out, hout, hver⟩ := h.sent
  exact ⟨h.cfg, h.clean, out, hout, iff_of_true hver hno⟩

omit [Dataplane δ] in
/-- After datagrams of which one does not verify, nothing makes up for it. -/
theorem Emits.stepped_unsigned {unsigned : Prop} {peer : Peer} {plain : List Bytes} {d : Bytes}
    (h : Emits hmac secret (received w peer plain) w') (hd : d ∈ plain)
    (hver : ¬ Verified hmac w.tunnel.cfg secret d) (hyes : unsigned) :
    Stepped hmac secret w w' unsigned := by
  obtain ⟨out, hout, -⟩ := h.sent
  refine ⟨h.cfg, h.clean, plain ++ out, by rw [hout, ← List.append_assoc]; rfl, ?_⟩
  exact iff_of_false (fun hall => hver (hall d (List.mem_append_left _ hd))) (not_not.mpr hyes)

omit [Dataplane δ] in
/-- A message without a digest does not verify. -/
theorem not_verified {cfg : TunnelConfigEntry} {m : ControlMessage} {bs : Bytes}
    (hsecret : cfg.secret = some secret) (hno : Undigested m.avps) (h : m.encode = .ok bs) :
    ¬ Verified hmac cfg secret bs := by
  rintro ⟨m', hm'⟩
  exact ControlMessage.decodeAndVerify_unsigned (TunnelConfigEntry.secret_ne_nil hsecret) hno h m' hm'

/-- **A datagram**: its acknowledgement is the one thing sent unsigned. -/
theorem stepped_datagram (hsecret : w.tunnel.cfg.secret = some secret) (h : Clean w.tunnel.peer)
    (buf : Bytes) : Stepped hmac secret w (handleDatagram hmac buf w).2
      (Acknowledges hmac w.tunnel buf) := by
  rcases handleDatagram_cases hmac buf w with ⟨e, he, hrun⟩ |
    ⟨msg, ccid, peer, delivered, hmsg, hlearn, hrest⟩
  · rw [hrun]
    refine (Emits.refl h).stepped ?_
    rintro ⟨msg, hmsg, -⟩
    rw [he] at hmsg
    cases hmsg
  · have hclean : ∀ r, (w.tunnel.peer.setRemoteCcid ccid).receive msg = (r, peer) → Clean peer := by
      intro r hr
      have hset : Clean (w.tunnel.peer.setRemoteCcid ccid) :=
        ⟨⟨h.sound.ns, h.sound.nr⟩, h.queue⟩
      have := clean_receive hset msg
      rwa [hr] at this
    have hacks : Acknowledges hmac w.tunnel buf →
        ((w.tunnel.peer.setRemoteCcid ccid).receive msg).1.2 ≠ [] ∧ IsU32 w.tunnel.peer.remoteCcid := by
      rintro ⟨msg', hmsg', hacc, hz, hd, hu⟩
      obtain rfl : msg = msg' := by rw [hmsg] at hmsg'; cases hmsg'; rfl
      exact ⟨fun hnil => (responses_eq_nil_iff _ msg).mp hnil ⟨hacc, hz, hd⟩, hu⟩
    -- no response; one that cannot be written; one that is, and the hand-over
    rcases hrest with ⟨hr, hrun⟩ | ⟨hr, ⟨e, he, hrun⟩ | ⟨bs, hbs, hrun⟩⟩
    · rw [hrun]
      have hemits : Emits hmac secret w (received w peer []) :=
        ⟨rfl, hclean _ hr, [], rfl, by simp⟩
      exact hemits.stepped fun hack => (hacks hack).1 (by rw [hr])
    · rw [hrun]
      have hemits : Emits hmac secret w (received w peer []) :=
        ⟨rfl, hclean _ hr, [], rfl, by simp⟩
      exact hemits.stepped fun hack => not_isU32_of_unacked h.sound hlearn hr he (hacks hack).2
    · -- the acknowledgement itself is what does not verify
      have hstart : Emits hmac secret (received w peer [bs]) (received w peer [bs]) :=
        Emits.refl (hclean _ hr)
      have hemits : Emits hmac secret (received w peer [bs]) (handleDatagram hmac buf w).2 := by
        rw [hrun]
        split
        · have hsecret' : (received w peer [bs]).tunnel.cfg.secret = some secret := hsecret
          exact emits_dispatch hsecret' msg delivered _ hstart
        · exact hstart
      have hplain : ¬ Verified hmac w.tunnel.cfg secret bs :=
        not_verified hsecret (by simp [Peer.ackOnly, Undigested]) hbs
      refine hemits.stepped_unsigned List.mem_cons_self hplain ⟨msg, hmsg, ?_⟩
      have hresp : ¬ ((w.tunnel.peer.setRemoteCcid ccid).receive msg).1.2 = [] := by simp [hr]
      rw [responses_eq_nil_iff, not_not] at hresp
      exact ⟨hresp.1, hresp.2.1, hresp.2.2, isU32_of_acked h.sound hlearn hr hbs⟩

/-- **A tick**: what is resent goes out unsigned. -/
theorem stepped_tick (hsecret : w.tunnel.cfg.secret = some secret) (h : Clean w.tunnel.peer)
    (now : ℚ) : Stepped hmac secret w (Tunnel.tick hmac now w).2 (Resends w.tunnel.peer now) := by
  -- a dead peer brings the tunnel down, and what that sends is signed
  have hdead : ∀ peer, Clean peer → ¬ Resends w.tunnel.peer now →
      w.tunnel.peer.tick now = (.ok ([], true), peer) →
      Stepped hmac secret w (Tunnel.tick hmac now w).2 (Resends w.tunnel.peer now) := by
    intro peer hclean hno htick
    rcases tick_cases hmac now w with ⟨e, peer', htick', -⟩ | ⟨resends, dead, peer', htick', hrun⟩
    · rw [htick] at htick'
      cases htick'
    · rw [htick] at htick'
      cases htick'
      have hemits : Emits hmac secret w (received w peer []) := ⟨rfl, hclean, [], rfl, by simp⟩
      rw [hrun, if_pos rfl]
      exact (Keeps.bind (emits_drive hsecret TunnelFSM.method_onPeerDead)
        (fun _ => Keeps.pure true) _ hemits).stepped hno
  rcases Peer.tick_cases w.tunnel.peer now with ⟨hd, ht⟩ | ⟨hd, queue, result, hloop, ht⟩
  · exact hdead _ h (fun hres => Bool.false_ne_true (hres.1.symm.trans hd)) ht
  · have hqueue := Peer.tickLoop_plain now w.tunnel.peer.maxRetries h.sound.nr
      w.tunnel.peer.sendQueue h.queue
    rw [hloop] at hqueue
    -- the peer is found dead, or some entries are resent
    rcases Peer.tickLoop_outcome now w.tunnel.peer.maxRetries h.sound.nr
      w.tunnel.peer.sendQueue h.queue with
      ⟨⟨p, hp, hexp, hmax⟩, _, hout⟩ | ⟨hall, _, resend, hout, hnil, hres⟩
    · rw [hloop] at hout
      cases hout
      rcases ht with ⟨_, _, ⟨⟩, ht⟩ | ⟨_, ⟨⟩, -⟩
      have hclean : Clean { w.tunnel.peer with sendQueue := queue, dead := true } :=
        ⟨⟨h.sound.ns, h.sound.nr⟩, hqueue⟩
      refine hdead _ hclean (fun hres => ?_) ht
      have := hres.2.2 p hp hexp
      omega
    · rw [hloop] at hout
      cases hout
      rcases ht with ⟨_, _, ⟨⟩, ht⟩ | ⟨_, ⟨⟩, -⟩
      rcases tick_cases hmac now w with ⟨e, peer', htick', -⟩ | ⟨resends, dead, peer', htick', hrun⟩
      · rw [ht] at htick'
        cases htick'
      · rw [ht] at htick'
        cases htick'
        rw [hrun, if_neg (by simp)]
        refine ⟨rfl, ⟨⟨h.sound.ns, h.sound.nr⟩, hqueue⟩, resend, rfl, ?_⟩
        constructor
        · -- what is resent does not verify, so nothing was resent
          rintro hver ⟨-, ⟨p, hp, hexp⟩, -⟩
          cases resend with
          | nil => exact hnil.mp rfl p hp hexp
          | cons bs rest =>
            obtain ⟨p', hp', henc⟩ := hres bs List.mem_cons_self
            exact not_verified (m := { p'.msg with nr := w.tunnel.peer.nrExpect }) hsecret
              (h.queue p' hp').undigested henc (hver bs List.mem_cons_self)
        · intro hno
          have hempty : resend = [] := hnil.mpr fun p hp hexp => hno ⟨hd, ⟨p, hp, hexp⟩, hall⟩
          simp [hempty]

/-- **One step.** -/
theorem stepped (hsecret : w.tunnel.cfg.secret = some secret) (h : Clean w.tunnel.peer)
    (e : Tunnel.Event) : Stepped hmac secret w (Tunnel.step hmac w e) (Unsigned hmac w e) := by
  have hstart : Emits hmac secret w w := Emits.refl h
  have htimer : ∀ f, Keeps (Emits hmac secret w) (modify (mapTimer f)) :=
    fun _ => Keeps.modify fun w h => h.of_eq rfl rfl rfl
  -- only a datagram and a tick send past the signing
  cases e with
  | start => exact (emits_drive hsecret TunnelFSM.method_onLocalOpen w hstart).stepped id
  | close =>
    exact (Keeps.bind (emits_drive hsecret (TunnelFSM.method_onLocalClose _)) (fun _ => htimer _)
      w hstart).stepped id
  | datagram buf => exact stepped_datagram hsecret h buf
  | tick now =>
    have : Stepped hmac secret w (Tunnel.tick hmac now w).2 _ := stepped_tick hsecret h now
    rw [Tunnel.step, handle, bind_pure_snd]
    exact this
  | helloTimer =>
    refine Emits.stepped ?_ id
    rw [Tunnel.step, handle, get_bind_apply]
    split
    · exact (htimer _).bind (fun _ => (htimer _).bind fun _ =>
        emits_drive hsecret TunnelFSM.method_onHelloTimer) w hstart
    · exact hstart
  | closeSession sid resultCode =>
    exact (emits_sessionCall hsecret (SessionFSM.method_onLocalClose resultCode) sid
      onlyIndex_id w hstart).stepped id

/-! ## Runs

One unsigned datagram is enough, and no later step takes it back. So all that was sent verifies if
and only if no step of the run wrote one. -/

/-- **A run**: all that was sent verifies exactly when no step acknowledged or resent. -/
theorem signed_run (hsecret : w.tunnel.cfg.secret = some secret) (h : Clean w.tunnel.peer)
    (es : List Tunnel.Event) :
    (∀ d ∈ (es.foldl (Tunnel.step hmac) w).sent, Verified hmac w.tunnel.cfg secret d) ↔
      (∀ d ∈ w.sent, Verified hmac w.tunnel.cfg secret d) ∧
        Transition.Guarded (Tunnel.step hmac) (fun w e => ¬ Unsigned hmac w e) w es := by
  -- the queue is clean at every step of the run
  induction es generalizing w with
  | nil => simp [Transition.Guarded]
  | cons e es ih =>
    have hstep : Stepped hmac secret w (Tunnel.step hmac w e) _ := stepped hsecret h e
    obtain ⟨out, hout, hver⟩ := hstep.sent
    have ih' := ih (w := Tunnel.step hmac w e) (hstep.cfg ▸ hsecret) hstep.clean
    rw [hstep.cfg] at ih'
    rw [List.foldl_cons, ih', hout, List.forall_mem_append, hver, Transition.Guarded, and_assoc]

/-- **An authenticated tunnel speaks only authenticated datagrams exactly on the runs that neither
acknowledge nor resend.** By induction on the run (`signed_run`): as long as all was signed the
queue is clean, and `stepped` judges the next step from the state before it. -/
theorem signed_iff (hmac : Hmac) (cfg : TunnelConfigEntry) (secret : Bytes)
    (hsecret : cfg.secret = some secret) (dataplane : Option δ) (clock : Nat → ℚ)
    (es : List Tunnel.Event) :
    (∀ d ∈ (es.foldl (Tunnel.step hmac) (World.init cfg dataplane clock)).sent,
      ∃ m, ControlMessage.decodeAndVerify hmac d cfg.digestAlg secret = .ok m) ↔
    Transition.Guarded (Tunnel.step hmac) (fun w e => ¬ Unsigned hmac w e)
      (World.init cfg dataplane clock) es := by
  have hclean : Clean (Tunnel.init cfg).peer :=
    ⟨Peer.sound_init _ _ _ _ _, by simp [Tunnel.init, Peer.init]⟩
  refine (signed_run (w := World.init cfg dataplane clock) hsecret hclean es).trans ?_
  exact and_iff_right (by simp [World.init])

/-- A tunnel with a password. -/
def trunk : TunnelConfigEntry where
  name := "trunk"
  localAddress := "192.0.2.1"
  remoteAddress := "192.0.2.2"
  localCcid := 100
  hostName := "trunk"
  routerId := 1
  remoteCcid := 200
  password := some [1]

/-- `trunk` after some events, without a dataplane, the loop's clock standing still. -/
def trunkAfter (es : List Tunnel.Event) : World MockDataplane :=
  es.foldl (Tunnel.step ControlMessage.sumHmac) (World.init trunk none fun _ => 0)

/-- Up to its start the tunnel has sent its SCCRQ alone, signed. -/
theorem signed_iff_started : (trunkAfter [.start]).sent.length = 1 ∧
    ∀ d ∈ (trunkAfter [.start]).sent,
      ∃ m, ControlMessage.decodeAndVerify ControlMessage.sumHmac d .hmacMd5 [1] = .ok m :=
  ⟨by decide +kernel, (signed_iff ControlMessage.sumHmac trunk [1] rfl none (fun _ => 0) [.start]).mpr
    ⟨fun h => h, trivial⟩⟩

/-- A HELLO of the peer of `trunk`, signed. -/
def helloDatagram : Bytes :=
  (ControlMessage.signed ⟨100, 0, 1, [messageTypeAvp .hello]⟩ ControlMessage.sumHmac .hmacMd5 [1]).wire

/-- The SCCRQ that is resent after two seconds does not verify, nor does the acknowledgement
of a HELLO. -/
theorem unsigned_resent_and_acked :
    (∃ d ∈ (trunkAfter [.start, .tick 2]).sent,
      ¬ ∃ m, ControlMessage.decodeAndVerify ControlMessage.sumHmac d .hmacMd5 [1] = .ok m) ∧
    ∃ d ∈ (trunkAfter [.start, .datagram helloDatagram]).sent,
      ¬ ∃ m, ControlMessage.decodeAndVerify ControlMessage.sumHmac d .hmacMd5 [1] = .ok m := by
  have hresent : (trunkAfter [.start, .tick 2]).sent.any (fun d =>
      !(ControlMessage.decodeAndVerify ControlMessage.sumHmac d .hmacMd5 [1]).isOk) = true := by
    decide +kernel
  have hacked : (trunkAfter [.start, .datagram helloDatagram]).sent.any (fun d =>
      !(ControlMessage.decodeAndVerify ControlMessage.sumHmac d .hmacMd5 [1]).isOk) = true := by
    decide +kernel
  have hrefused : ∀ {x : Except Exn ControlMessage}, (!x.isOk) = true → ¬ ∃ m, x = .ok m := by
    rintro x hx ⟨m, rfl⟩
    cases hx
  obtain ⟨d, hd, hbad⟩ := List.any_eq_true.mp hresent
  obtain ⟨d', hd', hbad'⟩ := List.any_eq_true.mp hacked
  exact ⟨⟨d, hd, hrefused hbad⟩, d', hd', hrefused hbad'⟩

end Signing

end L2tpv3d
