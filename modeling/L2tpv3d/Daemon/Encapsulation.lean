import L2tpv3d.Daemon.Parts
import L2tpv3d.Daemon.Record

/-!
# L2tpv3d — whether the two ends agree on the encapsulation

ICRQ, ICRP and ICCN announce the Pseudowire Type and the L2-Specific Sublayer of the sender,
and no handler compares them with its own: `_dataplane_params` reads the configuration of its
end alone. What the two dataplanes are handed agrees exactly when the two configurations do.

* `Recorded δ` — the dataplane `δ` with a record of the parameters that `add_session` was last
  called with, for each session.
* `Recording` — a session that is up was handed to the dataplane with its present parameters.
* **`encapsulation_agrees_iff`** — over every run of two tunnels, whatever the network does.
-/

namespace L2tpv3d

open Py Prog

/-- A dataplane with a record of the parameters last handed to `add_session`, by local session
ID. -/
structure Recorded (δ : Type) where
  dataplane : δ
  handed : Dict Int SessionParams := .empty

namespace Recorded

variable {δ α : Type}

/-- A call of the dataplane inside. -/
def inner (m : Prog δ α) : Prog (Recorded δ) α :=
  zoom (·.dataplane) (fun dp self => { self with dataplane := dp }) m

instance [Dataplane δ] : Dataplane (Recorded δ) where
  addTunnel params := inner (Dataplane.addTunnel params)
  addSession params := do
    modify fun self => { self with handed := self.handed.set params.localSid params }
    inner (Dataplane.addSession params)
  delSession localCcid localSid := inner (Dataplane.delSession localCcid localSid)
  delTunnel localCcid := inner (Dataplane.delTunnel localCcid)

/-- The parameters last handed over are what is recorded. -/
def recorder (δ : Type) [Dataplane δ] : Recorder (Recorded δ) (Dict Int SessionParams) where
  told := Recorded.handed
  note call handed :=
    match call with
    | .addSession params => handed.set params.localSid params
    | _ => handed
  addTunnel _ _ := rfl
  addSession _ _ := rfl
  delSession _ _ _ := rfl
  delTunnel _ _ := rfl

end Recorded

/-- The word of the L2-Specific Sublayer that a session entry asks for. -/
def SessionConfigEntry.l2specType (cfg : SessionConfigEntry) : String :=
  if cfg.l2SpecificSublayer = 1 then "default" else "none"

/-- The word of the pseudowire type that a session entry asks for. -/
def SessionConfigEntry.pseudowireText (cfg : SessionConfigEntry) : String :=
  match cfg.pseudowireType with
  | .ethernet => "ethernet"
  | .ethernetVlan => "ethernet-vlan"

namespace Encapsulation

open Tunnel World Recorder

variable {δ : Type} [Dataplane δ] {hmac : Hmac} {w w' : World (Recorded δ)}

/-- What the dataplane was last handed for a session. -/
def handed (w : World (Recorded δ)) (sid : Int) : Option SessionParams :=
  w.dataplane.bind fun dp => dp.handed.get? sid

/-! ## The calls that the actions make

A machine asks for a kernel session with parameters of its own configuration. What is recorded is
what was asked for last. -/

/-- What was handed over is read in the record. -/
theorem handed_eq (w : World (Recorded δ)) (sid : Int) :
    handed w sid = ((Recorded.recorder δ).record w).bind fun told => told.get? sid := by
  rw [handed, record]
  cases w.dataplane <;> rfl

/-- There is a record when there is a dataplane. -/
theorem isSome_record (w : World (Recorded δ)) :
    ((Recorded.recorder δ).record w).isSome = w.dataplane.isSome := Option.isSome_map

/-- The session is recorded, whether its tunnel is added before it or not. -/
theorem notes_calls (t : Tunnel) (params : SessionParams) (told : Dict Int SessionParams) :
    (Recorded.recorder δ).notes (calls t [params]) told = told.set params.localSid params := by
  rw [calls_singleton, opening]
  cases t.tunnelDpAdded <;> rfl

omit [Dataplane δ] in
/-- A call asks for the kernel session of the machine that it brings up, and for no other. -/
theorem requested_of_outcome {s s' : SessionFSM} {actions : List SessionAction}
    (hout : SessionFSM.Outcome s (.ok actions) s') :
    (SessionFSM.requested (.ok actions) = [] ∧ (s'.state = .established → s' = s)) ∨
    (SessionFSM.requested (.ok actions) = [s'.dataplaneParams] ∧ s'.state = .established ∧
      s.state ≠ .established) := by
  cases hout with
  | ignored => exact .inl ⟨rfl, fun _ => rfl⟩
  | called _ _ => exact .inl ⟨rfl, nofun⟩
  | answered _ _ _ => exact .inl ⟨rfl, nofun⟩
  | connected hs _ _ => exact .inr ⟨rfl, rfl, by simp [hs]⟩
  | accepted hs => exact .inr ⟨rfl, rfl, by simp [hs]⟩
  | closed _ _ => exact .inl ⟨SessionFSM.requested_down s _, nofun⟩
  | dropped _ => exact .inl ⟨SessionFSM.requested_down s _, nofun⟩

/-- **The actions of a machine that went from `s` to `s'`**: the other sessions are not recorded,
and if the machine is up it is recorded with its present parameters. -/
theorem handed_execute (hmac : Hmac) {s s' : SessionFSM} {actions : List SessionAction}
    (hout : SessionFSM.Outcome s (.ok actions) s') (hdp : w.dataplane.isSome = true)
    (hready : w.tunnel.Ready ∨ (s'.state = .established → s.state = .established))
    (hup : s.state = .established → handed w s.config.localSid = some s.dataplaneParams) :
    (executeSessionActions hmac actions w).2.dataplane.isSome = true ∧
    (∀ sid, s.config.localSid ≠ sid →
      handed (executeSessionActions hmac actions w).2 sid = handed w sid) ∧
    (s'.state = .established →
      handed (executeSessionActions hmac actions w).2 s.config.localSid
        = some s'.dataplaneParams) := by
  obtain ⟨told, htold⟩ := Option.isSome_iff_exists.mp ((isSome_record w).trans hdp)
  have hrecord : (Recorded.recorder δ).record (executeSessionActions hmac actions w).2
      = some ((Recorded.recorder δ).notes
        (calls w.tunnel (SessionFSM.requested (.ok actions))) told) := by
    rw [(Recorded.recorder δ).record_execute hout, htold, Option.map_some]
    refine hready.imp_right fun hkept => ?_
    rcases requested_of_outcome hout with ⟨hnone, -⟩ | ⟨-, hup', hdown⟩
    · exact hnone
    · exact absurd (hkept hup') hdown
  refine ⟨by rw [← isSome_record, hrecord]; rfl, ?_⟩
  rw [handed_eq w, htold] at hup
  simp only [handed_eq, hrecord, htold]
  -- the actions ask for nothing, or for one session
  rcases requested_of_outcome hout with ⟨hnone, hsame⟩ | ⟨hone, hup', hdown⟩
  · rw [hnone]
    refine ⟨fun _ _ => rfl, fun hs' => ?_⟩
    obtain rfl := hsame hs'
    exact hup hs'
  · -- recorded under the key of the machine
    have hkey : s'.dataplaneParams.localSid = s.config.localSid := by
      rw [← hout.config_eq]
      rfl
    rw [hone, notes_calls]
    refine ⟨fun sid hne => ?_, fun _ => ?_⟩
    · exact (Dict.get?_set _ _ _ _).trans (if_neg (hkey ▸ hne))
    · exact (Dict.get?_set _ _ _ _).trans (if_pos hkey)

/-! ## The invariant

A session comes up in the step in which it asks for its kernel session, and nothing later changes
either. -/

/-- A session that is up was last handed to the dataplane with its present parameters. -/
structure Recording (ccid : Int) (w : World (Recorded δ)) : Prop where
  parts : (Parts.keyed ccid).Holds w.tunnel
  present : w.dataplane.isSome = true
  handed : ∀ sid s, w.tunnel.sessionsByLocal.get? sid = some s → s.state = .established →
    handed w sid = some s.dataplaneParams

variable {ccid : Int}

/-- **A call of a session** keeps the record up to date. -/
theorem Recording.called (h : Recording ccid w) {m : Prog SessionFSM (List SessionAction)}
    (hm : SessionFSM.Method m) (sid : Int) {g : Tunnel → Tunnel} (hg : OnlyIndex g)
    (hccid : IsU32 w.tunnel.peer.remoteCcid ∨ SessionFSM.NeverRises m) :
    Recording ccid (callSession (δ := Recorded δ) hmac sid m g w).2 := by
  have hparts : (Parts.keyed ccid).Holds (callSession (δ := Recorded δ) hmac sid m g w).2.tunnel :=
    (Parts.keyed_stable ccid).sessionCall hm sid hg w h.parts
  -- no such session; a method that raised; a method that returned actions
  rcases callSession_cases hmac sid m hg w with ⟨r, -, hrun⟩ | ⟨s, s', e, hget, hcall, hrun⟩ |
    ⟨s, s', actions, r, hget, hcall, hrun⟩ <;> rw [hrun] at hparts ⊢
  · exact ⟨hparts, h.present, h.handed⟩
  · have hout := hm s
    rw [hcall] at hout
    refine ⟨hparts, h.present, fun sid' t ht hup => ?_⟩
    rw [get?_withSession] at ht
    split at ht
    · rename_i heq
      cases ht
      -- a machine that raised in ESTABLISHED is as it was
      cases hout with
      | raised => exact heq ▸ h.handed sid _ hget hup
      | refused hs _ =>
        rcases hs with hs | hs <;> simp [hs] at hup
    · exact h.handed sid' t ht hup
  · have hout := hm s
    have hnever : SessionFSM.NeverRises m → s.state ≠ .established → s'.state ≠ .established :=
      fun hnever hs => by
        have := hnever s hs
        rwa [hcall] at this
    rw [hcall] at hout
    have hsid : s.config.localSid = sid := (h.parts.sessions sid s hget).1
    -- `w₁` is the world in which the actions are executed
    obtain ⟨w₁, hw₁⟩ : ∃ w₁, w₁ = (w.withSession sid s').withIndex r := ⟨_, rfl⟩
    rw [← hw₁] at hparts ⊢
    have hready : w₁.tunnel.Ready ∨ (s'.state = .established → s.state = .established) := by
      rw [hw₁]
      exact hccid.imp (fun hin => ⟨h.parts.peer, hin⟩) fun hm =>
        not_imp_not.mp (hnever hm)
    have hsame : ∀ sid, Encapsulation.handed w₁ sid = Encapsulation.handed w sid := by
      rw [hw₁]
      exact fun _ => rfl
    obtain ⟨hdp, hothers, hself⟩ := handed_execute hmac hout
      (show w₁.dataplane.isSome = true from hw₁ ▸ h.present) hready
      (fun hs => by rw [hsame, hsid]; exact h.handed sid s hget hs)
    refine ⟨hparts, hdp, fun sid' t ht hup => ?_⟩
    rw [(executed_sessionActions hmac actions w₁).sessionsByLocal, hw₁] at ht
    have ht' : (w.withSession sid s').tunnel.sessionsByLocal.get? sid' = some t := ht
    rw [get?_withSession] at ht'
    split at ht'
    · rename_i heq
      cases ht'
      rw [← heq, ← hsid]
      exact hself hup
    · rename_i hne
      rw [hothers sid' (hsid ▸ hne), hsame]
      exact h.handed sid' t ht' hup

/-- After the teardown of a tunnel no session is up. -/
theorem Recording.tornDown (h : Recording ccid w) (reason : TunnelDownReason) :
    Recording ccid (executeTunnelAction hmac (.tornDown reason) w).2 := by
  have hparts : (Parts.keyed ccid).Holds
      (executeTunnelAction hmac (.tornDown reason) w).2.tunnel :=
    (Parts.keyed_stable ccid).tunnelAction (.tornDown reason) w h.parts
  obtain ⟨w₂, h₂, hidle, hact⟩ := tornDown_apply hmac (I := Recording ccid)
    (fun _ _ h => ⟨h.parts, h.present, h.handed⟩)
    (fun sid w h => h.called SessionFSM.method_onTunnelDown sid onlyIndex_id
      (.inr SessionFSM.neverRises_onTunnelDown)) reason h
  rw [hact] at hparts ⊢
  -- the kernel tunnel is deleted, or there is none
  split
  · rename_i hadded
    rw [if_pos hadded] at hparts
    have hpresent : (onDataplane (Dataplane.delTunnel (δ := Recorded δ) w₂.tunnel.cfg.localCcid)
        w₂).2.dataplane.isSome = true := by
      rw [← isSome_record, (Recorded.recorder δ).record_onDataplane_id
        ((Recorded.recorder δ).delTunnel w₂.tunnel.cfg.localCcid), isSome_record]
      exact h₂.present
    obtain ⟨r, dataplane, faults, hcall⟩ :=
      onDataplane_frame (Dataplane.delTunnel (δ := Recorded δ) w₂.tunnel.cfg.localCcid) w₂
    rw [hcall] at hpresent
    rw [bind_apply_of_ok _ _ hcall] at hparts ⊢
    refine ⟨hparts, hpresent, fun sid s hs hup => ?_⟩
    rw [hidle sid s hs] at hup
    cases hup
  · exact h₂

/-- **Every handler keeps the record up to date.** -/
theorem recording_survives (hmac : Hmac) (ccid : Int) :
    Survives (δ := Recorded δ) hmac (Recording ccid) where
  sound h := h.parts.peer
  moved {w w'} h hw := by
    refine ⟨⟨hw.cfg ▸ h.parts.cfg, hw.sound, trivial, hw.sessionsByLocal ▸ h.parts.sessions⟩,
      hw.dataplane ▸ h.present, fun sid s hs hup => ?_⟩
    rw [hw.sessionsByLocal] at hs
    rw [handed, hw.dataplane]
    exact h.handed sid s hs hup
  called hm sid _ hg _ h hccid := h.called hm sid hg hccid
  tornDown reason _ h := h.tornDown reason

omit [Dataplane δ] in
theorem recording_init (cfg : TunnelConfigEntry) (dp : Recorded δ) (clock : Nat → ℚ) :
    Recording cfg.localCcid (World.init cfg (some dp) clock) := by
  refine ⟨Parts.keyed_holds_init cfg, rfl, fun sid s hs hup => ?_⟩
  obtain ⟨scfg, -, -, rfl⟩ := get?_init hs
  cases hup

/-! ## The two ends

The ends are run on their own: what is delivered may be any datagram that the other end has sent, in
any order and any number of times. -/

/-- Every session of the tunnel is configured by its entry. -/
def configured (cfg : TunnelConfigEntry) : Parts where
  cfg _ := True
  peer _ := True
  fsm _ := True
  session sid s := ∃ scfg ∈ cfg.sessions, scfg.localSid = sid ∧ s.config = scfg.toConfig cfg

/-- Nothing that a handler does changes the configuration of a session. -/
theorem configured_stable (cfg : TunnelConfigEntry) : (configured cfg).Stable where
  link _ _ := trivial
  learn _ _ := trivial
  receive _ _ := trivial
  tick _ _ := trivial
  fsm _ _ := trivial
  session hout h := by
    obtain ⟨scfg, hmem, hsid, hconfig⟩ := h
    exact ⟨scfg, hmem, hsid, hout.config_eq.trans hconfig⟩

/-- At the start every session has the configuration it was built from. -/
theorem configured_init (cfg : TunnelConfigEntry) : (configured cfg).Holds (Tunnel.init cfg) := by
  refine ⟨trivial, trivial, trivial, fun sid s hs => ?_⟩
  obtain ⟨scfg, hmem, hsid, rfl⟩ := get?_init hs
  exact ⟨scfg, hmem, hsid, rfl⟩

/-- Two tunnels. -/
structure Ends (δ : Type) where
  near : World (Recorded δ)
  far : World (Recorded δ)

/-- What happens at an end: an event of its own, among them any datagram at all, or the delivery
of the `i`-th datagram that the other end sent, which the network may repeat, reorder or lose. -/
inductive Move where
  | own (e : Tunnel.Event)
  | deliver (i : Nat)

namespace Ends

/-- The event of an end, given what the other end sent so far. -/
def event (sent : List Bytes) : Move → Option Tunnel.Event
  | .own e => some e
  | .deliver i => sent[i]?.map .datagram

/-- An end after an event, or as it was. -/
def act (hmac : Hmac) (w : World (Recorded δ)) : Option Tunnel.Event → World (Recorded δ)
  | none => w
  | some e => Tunnel.step hmac w e

/-- A move of the near end, or of the far one. -/
def step (hmac : Hmac) (n : Ends δ) : Bool × Move → Ends δ
  | (false, m) => { n with near := act hmac n.near (event n.far.sent m) }
  | (true, m) => { n with far := act hmac n.far (event n.near.sent m) }

/-- Two tunnels just constructed. -/
def init (cfg other : TunnelConfigEntry) (dp dp' : δ) (clock clock' : Nat → ℚ) : Ends δ where
  near := World.init cfg (some ⟨dp, .empty⟩) clock
  far := World.init other (some ⟨dp', .empty⟩) clock'

end Ends

/-- What every run keeps of one end. -/
def Kept (cfg : TunnelConfigEntry) (w : World (Recorded δ)) : Prop :=
  Recording cfg.localCcid w ∧ (configured cfg).Holds w.tunnel

/-- Both invariants survive a move. -/
theorem Kept.act {cfg : TunnelConfigEntry} (h : Kept cfg w) (e : Option Tunnel.Event) :
    Kept cfg (Ends.act hmac w e) := by
  cases e with
  | none => exact h
  | some e =>
    exact ⟨(recording_survives hmac cfg.localCcid).handle e w h.1,
      (configured_stable cfg).handle e w h.2⟩

omit [Dataplane δ] in
/-- A session that is up was handed over with the encapsulation of its own entry. -/
theorem Kept.handed {cfg : TunnelConfigEntry} (h : Kept cfg w)
    (hsids : (cfg.sessions.map (·.localSid)).Nodup) {a : SessionConfigEntry} (ha : a ∈ cfg.sessions)
    {s : SessionFSM} (hs : w.tunnel.sessionsByLocal.get? a.localSid = some s)
    (hup : s.state = .established) : ∃ p, handed w a.localSid = some p ∧
      p.remoteSid = s.peerSid ∧
      p.l2specType = a.l2specType ∧ p.pseudowireType = a.pseudowireText := by
  obtain ⟨scfg, hmem, hsid, hconfig⟩ := h.2.sessions _ _ hs
  obtain rfl : scfg = a := List.inj_on_of_nodup_map hsids hmem ha hsid
  refine ⟨_, h.1.handed _ _ hs hup, rfl, ?_, ?_⟩
  · rw [SessionFSM.dataplaneParams, hconfig]
    rfl
  · simp only [SessionFSM.dataplaneParams, hconfig, SessionConfigEntry.toConfig,
      SessionConfigEntry.pseudowireText]
    cases scfg.pseudowireType <;> rfl

/-- The two entries ask for the same encapsulation. -/
def Alike (a b : SessionConfigEntry) : Prop :=
  a.l2SpecificSublayer = b.l2SpecificSublayer ∧ a.pseudowireType = b.pseudowireType

/-- **Encapsulation agreement.** In every state that a run of two tunnels leads to, whatever the
network does: when two sessions are up with each other, each dataplane was handed the
encapsulation of its own end's entry, and the two agree exactly when the two entries do. -/
theorem encapsulation_agrees_iff (hmac : Hmac) (cfg other : TunnelConfigEntry) (hcfg : cfg.Accepted)
    (hother : other.Accepted) (dp dp' : δ) (clock clock' : Nat → ℚ) (n : Ends δ)
    (hn : Transition.Reach (Ends.step hmac) (fun _ _ => True)
      (Ends.init cfg other dp dp' clock clock') n)
    (a b : SessionConfigEntry) (ha : a ∈ cfg.sessions) (hb : b ∈ other.sessions) (s t : SessionFSM)
    (hs : n.near.tunnel.sessionsByLocal.get? a.localSid = some s)
    (ht : n.far.tunnel.sessionsByLocal.get? b.localSid = some t)
    (hsup : s.state = .established) (htup : t.state = .established)
    (hst : s.peerSid = b.localSid) (hts : t.peerSid = a.localSid) :
    ∃ p q, handed n.near a.localSid = some p ∧ handed n.far b.localSid = some q ∧
      p.remoteSid = b.localSid ∧ q.remoteSid = a.localSid ∧
      p.l2specType = a.l2specType ∧ p.pseudowireType = a.pseudowireText ∧
      q.l2specType = b.l2specType ∧ q.pseudowireType = b.pseudowireText ∧
      (p.l2specType = q.l2specType ∧ p.pseudowireType = q.pseudowireType ↔ Alike a b) := by
  obtain ⟨hnear, hfar⟩ : Kept cfg n.near ∧ Kept other n.far := by
    refine hn.invariant (I := fun n => Kept cfg n.near ∧ Kept other n.far) ⟨?_, ?_⟩ ?_
    · exact ⟨recording_init cfg _ clock, configured_init cfg⟩
    · exact ⟨recording_init other _ clock', configured_init other⟩
    · rintro n ⟨side, m⟩ ⟨hnear, hfar⟩ -
      cases side with
      | false => exact ⟨hnear.act _, hfar⟩
      | true => exact ⟨hnear, hfar.act _⟩
  obtain ⟨p, hp, hpsid, hpl2, hppw⟩ := hnear.handed hcfg.sessionSids ha hs hsup
  obtain ⟨q, hq, hqsid, hql2, hqpw⟩ := hfar.handed hother.sessionSids hb ht htup
  refine ⟨p, q, hp, hq, hpsid.trans hst, hqsid.trans hts, hpl2, hppw, hql2, hqpw, ?_⟩
  rw [hpl2, hppw, hql2, hqpw, Alike]
  refine and_congr ?_ ?_
  · -- the loader lets only 0 and 1 pass, which have different words
    rw [SessionConfigEntry.l2specType, SessionConfigEntry.l2specType]
    rcases (hcfg.sessions a ha).l2SpecificSublayer with h | h <;>
      rcases (hother.sessions b hb).l2SpecificSublayer with h' | h' <;> simp [h, h']
  · rw [SessionConfigEntry.pseudowireText, SessionConfigEntry.pseudowireText]
    cases a.pseudowireType <;> cases b.pseudowireType <;> decide

/-- A tunnel with one session and the defaults of the loader. -/
def endWith (localCcid remoteCcid : Int) (session : SessionConfigEntry) : TunnelConfigEntry where
  name := "to-peer"
  localAddress := "192.0.2.1"
  remoteAddress := "192.0.2.2"
  localCcid := localCcid
  hostName := "end"
  routerId := 1
  remoteCcid := remoteCcid
  sessions := [session]

/-- One session that the loader accepts makes a tunnel that it accepts. -/
theorem endWith_accepted {localCcid remoteCcid : Int} {session : SessionConfigEntry}
    (hlocal : 0 < localCcid ∧ localCcid ≤ 0xFFFFFFFF) (hremote : IsU32 remoteCcid)
    (h : session.Accepted) : (endWith localCcid remoteCcid session).Accepted where
  localCcid := hlocal
  remoteCcid := hremote
  routerId := show IsU32 1 by decide
  password := nofun
  helloInterval := show (1 : ℚ) ≤ 60 ∧ (60 : ℚ) ≤ 3600 by norm_num
  retransmitInterval := show (1 : ℚ) ≤ 1 ∧ (1 : ℚ) ≤ 8 by norm_num
  maxRetries := show (1 : Int) ≤ 5 ∧ (5 : Int) ≤ 10 by decide
  receiveWindow := show (1 : Int) ≤ 4 ∧ (4 : Int) ≤ 1024 by decide
  firmwareRevision := nofun
  sessions := fun s hs => List.mem_singleton.mp hs ▸ h
  sessionNames := List.nodup_singleton _
  sessionSids := List.nodup_singleton _
  localCcidIsBool := nofun

/-- The session that calls, and the one that is called. -/
def calling : SessionConfigEntry where
  name := "pw"
  localSid := 11
  pseudowireType := .ethernet

/-- The session that answers it. -/
def called : SessionConfigEntry where
  name := "pw"
  localSid := 22
  initiator := false
  pseudowireType := .ethernet

/-- The caller wants VLAN frames, and no sublayer. -/
def callingVlan : SessionConfigEntry := { calling with
  pseudowireType := .ethernetVlan
  l2SpecificSublayer := 0 }

/-- The calling end passes the checks of the loader. -/
theorem calling_accepted : (endWith 100 200 calling).Accepted :=
  endWith_accepted (by decide) (by decide)
    ⟨by decide, by decide, by decide, by decide, nofun, nofun, nofun⟩

/-- So does the one with the other pseudowire. -/
theorem callingVlan_accepted : (endWith 100 200 callingVlan).Accepted :=
  endWith_accepted (by decide) (by decide)
    ⟨by decide, by decide, by decide, by decide, nofun, nofun, nofun⟩

theorem called_accepted : (endWith 200 100 called).Accepted :=
  endWith_accepted (by decide) (by decide)
    ⟨by decide, by decide, by decide, by decide, nofun, nofun, nofun⟩

/-- The control connection and the call are set up, every datagram being delivered once and in
order. -/
def setUp : List (Bool × Move) :=
  [(false, .own .start), (true, .deliver 0), (false, .deliver 0), (false, .deliver 1),
    (true, .deliver 1), (true, .deliver 2), (true, .deliver 3), (false, .deliver 2),
    (false, .deliver 3), (false, .deliver 4), (true, .deliver 4), (true, .deliver 5)]

/-- A caller and the called end after the set-up. -/
def endsAfter (a : SessionConfigEntry) : Ends MockDataplane :=
  setUp.foldl (Ends.step ControlMessage.sumHmac)
    (Ends.init (endWith 100 200 a) (endWith 200 100 called) {} {} (fun _ => 0) fun _ => 0)

/-- The set-up is a run. -/
theorem reach_endsAfter (a : SessionConfigEntry) :
    Transition.Reach (Ends.step (δ := MockDataplane) ControlMessage.sumHmac) (fun _ _ => True)
      (Ends.init (endWith 100 200 a) (endWith 200 100 called) {} {} (fun _ => 0) fun _ => 0)
      (endsAfter a) :=
  Transition.Reach.start.run ⟨trivial, trivial, trivial, trivial, trivial, trivial, trivial, trivial,
    trivial, trivial, trivial, trivial, trivial⟩

/-- The session under `sid` is up, and knows the peer's session as `peer`. -/
def UpWith (w : World (Recorded MockDataplane)) (sid peer : Int) : Prop :=
  (w.tunnel.sessionsByLocal.get? sid).map (fun s => (s.state, s.peerSid)) = some (.established, peer)

instance (w : World (Recorded MockDataplane)) (sid peer : Int) : Decidable (UpWith w sid peer) :=
  inferInstanceAs (Decidable (_ = _))

/-- The session that is up. -/
theorem UpWith.session {w : World (Recorded MockDataplane)} {sid peer : Int} (h : UpWith w sid peer) :
    ∃ s, w.tunnel.sessionsByLocal.get? sid = some s ∧ s.state = .established ∧ s.peerSid = peer := by
  obtain ⟨s, hs, heq⟩ := Option.map_eq_some_iff.mp h
  exact ⟨s, hs, (Prod.mk.inj heq).1, (Prod.mk.inj heq).2⟩

/-- Configured alike, the two sessions are handed the same words. -/
theorem encapsulation_agrees_iff_alike :
    ∃ p q, handed (endsAfter calling).near 11 = some p ∧ handed (endsAfter calling).far 22 = some q ∧
      p.l2specType = q.l2specType ∧ p.pseudowireType = q.pseudowireType := by
  have hnear : UpWith (endsAfter calling).near 11 22 := by decide +kernel
  have hfar : UpWith (endsAfter calling).far 22 11 := by decide +kernel
  obtain ⟨s, hs, hsup, hst⟩ := hnear.session
  obtain ⟨t, ht, htup, hts⟩ := hfar.session
  obtain ⟨p, q, hp, hq, -, -, -, -, -, -, hagree⟩ := encapsulation_agrees_iff ControlMessage.sumHmac
    (endWith 100 200 calling) (endWith 200 100 called) calling_accepted called_accepted {} {}
    (fun _ => 0) (fun _ => 0) _ (reach_endsAfter calling) calling called
    (List.mem_singleton.mpr rfl) (List.mem_singleton.mpr rfl) s t hs ht hsup htup hst hts
  exact ⟨p, q, hp, hq, hagree.mpr ⟨rfl, rfl⟩⟩

/-- A session for VLAN frames without a sublayer comes up with one for Ethernet frames with the
default sublayer. -/
theorem mismatch_up :
    (endWith 100 200 callingVlan).Accepted ∧ (endWith 200 100 called).Accepted ∧
    Transition.Reach (Ends.step (δ := MockDataplane) ControlMessage.sumHmac) (fun _ _ => True)
      (Ends.init (endWith 100 200 callingVlan) (endWith 200 100 called) {} {} (fun _ => 0) fun _ => 0)
      (endsAfter callingVlan) ∧
    UpWith (endsAfter callingVlan).near 11 22 ∧ UpWith (endsAfter callingVlan).far 22 11 ∧
    (handed (endsAfter callingVlan).near 11).map (fun p => (p.l2specType, p.pseudowireType))
      = some ("none", "ethernet-vlan") ∧
    (handed (endsAfter callingVlan).far 22).map (fun p => (p.l2specType, p.pseudowireType))
      = some ("default", "ethernet") :=
  ⟨callingVlan_accepted, called_accepted, reach_endsAfter callingVlan, by decide +kernel,
    by decide +kernel, by decide +kernel, by decide +kernel⟩

end Encapsulation

end L2tpv3d
