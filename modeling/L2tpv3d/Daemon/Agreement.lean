import L2tpv3d.Daemon.Calls
import L2tpv3d.Fsm.Call
import L2tpv3d.Lib.Transition

/-!
# L2tpv3d — whether the two ends agree on their sessions

Two tunnels whose control connection is up, with sessions that are configured for each other:
every session has a mate of the same name on the other side, and one of the two calls. All
sessions share the two channels; a message finds its session by the session ID or the name that
it carries, or, if it carries neither, by what the other side learned before.

* `Facing` — what the two configurations promise each other.
* `Says` — the datagram of a signal; `voice` — the signals of one session in a channel.
* `Inv` — every pair of mates is the two ends of a sound `Call`.
* **`sessions_agree`** — in every state that starts, closes and deliveries lead to.
-/

namespace L2tpv3d

open Py Prog

namespace Agreement

open Tunnel World SessionFSM Calls

variable {δ : Type} {w w' x y : World δ} {cfg other : TunnelConfigEntry}
  {a b : SessionConfigEntry} {s s' i r : SessionFSM} {sid : Int}

/-! ## The configurations

What the operator has to arrange for two ends to set up their sessions: every session has one mate,
of its own name, and exactly one of the two calls. -/

/-- What a tunnel promises the other: names and session IDs of its own that are unique, and for
each session a mate of the same name that calls if and only if the session does not. -/
structure Facing (cfg other : TunnelConfigEntry) : Prop where
  names : (cfg.sessions.map (·.name)).Nodup
  sids : (cfg.sessions.map (·.localSid)).Nodup
  range : ∀ a ∈ cfg.sessions, 0 < a.localSid ∧ a.localSid ≤ 0xFFFFFFFF
  mate : ∀ a ∈ cfg.sessions, ∃ b ∈ other.sessions, a.name = b.name ∧ b.initiator = !a.initiator

/-- The session `a` of one tunnel and `b` of the other are mates. -/
structure Mates (cfg other : TunnelConfigEntry) (a b : SessionConfigEntry) : Prop where
  here : a ∈ cfg.sessions
  there : b ∈ other.sessions
  name : a.name = b.name

theorem Mates.symm (h : Mates cfg other a b) : Mates other cfg b a := ⟨h.there, h.here, h.name.symm⟩

/-- An ID names one session of an end. -/
theorem eq_of_sid (hf : Facing cfg other) {a' : SessionConfigEntry} (ha : a ∈ cfg.sessions)
    (ha' : a' ∈ cfg.sessions) (h : a.localSid = a'.localSid) : a = a' :=
  List.inj_on_of_nodup_map hf.sids ha ha' h

theorem eq_of_name (hf : Facing cfg other) {a' : SessionConfigEntry} (ha : a ∈ cfg.sessions)
    (ha' : a' ∈ cfg.sessions) (h : a.name = a'.name) : a = a' :=
  List.inj_on_of_nodup_map hf.names ha ha' h

theorem Mates.initiator (h : Mates cfg other a b) (hf : Facing cfg other) (hf' : Facing other cfg) :
    b.initiator = !a.initiator := by
  obtain ⟨b', hb', hname, hinit⟩ := hf.mate a h.here
  rw [eq_of_name hf' h.there hb' (h.name.symm.trans hname)]
  exact hinit

/-- A session has one mate. -/
theorem Mates.unique {b' : SessionConfigEntry} (h : Mates cfg other a b) (h' : Mates cfg other a b')
    (hf' : Facing other cfg) : b = b' :=
  eq_of_name hf' h.there h'.there (h.name.symm.trans h'.name)

/-! ## The messages

What a datagram carries is read out of its bytes, so the abstract signal and the encoded message are
related once, here, for each of the four types. -/

/-- The AVPs of a message that `a` sends to `b`. Only a caller may not know whom it names. -/
def Carries (a b : SessionConfigEntry) : Signal → List AVP → Prop
  | .icrq, avps => getMessageType avps = .ok (some MessageType.icrq.code) ∧ a.initiator = true ∧
      ∃ fields, parseSessionFields avps = .ok fields ∧ fields.localSid = a.localSid ∧
        fields.remoteSid = 0 ∧ fields.remoteEndId = some (utf8 a.name)
  | .icrp, avps => getMessageType avps = .ok (some MessageType.icrp.code) ∧ a.initiator = false ∧
      ∃ fields, parseSessionFields avps = .ok fields ∧ fields.localSid = a.localSid ∧
        fields.remoteSid = b.localSid
  | .iccn, avps => getMessageType avps = .ok (some MessageType.iccn.code) ∧ a.initiator = true ∧
      ∃ fields, parseSessionFields avps = .ok fields ∧ fields.localSid = a.localSid ∧
        fields.remoteSid = b.localSid
  | .cdn named, avps => getMessageType avps = .ok (some MessageType.cdn.code) ∧
      (named = false → a.initiator = true) ∧
      ∃ fields, parseCdnFields avps = .ok fields ∧ fields.localSid = a.localSid ∧
        fields.remoteSid = if named then b.localSid else 0

/-- The datagram is a message of `a` to `b`. -/
def Says (a b : SessionConfigEntry) (bs : Bytes) (signal : Signal) : Prop :=
  ∃ msg, ControlMessage.decode bs = .ok msg ∧ Carries a b signal msg.avps

theorem Carries.append {signal : Signal} {avps digest : List AVP} (h : Carries a b signal avps)
    (hd : ∀ d ∈ digest, d.isDigest = true) : Carries a b signal (avps ++ digest) := by
  -- the fields that a message is read for stand before the digest
  cases signal with
  | icrq =>
    obtain ⟨hmt, hinit, fields, hparse, hrest⟩ := h
    exact ⟨getMessageType_append hmt, hinit, fields, by rw [parseSessionFields_append hd, hparse],
      hrest⟩
  | icrp =>
    obtain ⟨hmt, hinit, fields, hparse, hrest⟩ := h
    exact ⟨getMessageType_append hmt, hinit, fields, by rw [parseSessionFields_append hd, hparse],
      hrest⟩
  | iccn =>
    obtain ⟨hmt, hinit, fields, hparse, hrest⟩ := h
    exact ⟨getMessageType_append hmt, hinit, fields, by rw [parseSessionFields_append hd, hparse],
      hrest⟩
  | cdn named =>
    obtain ⟨hmt, hinit, fields, hparse, hrest⟩ := h
    exact ⟨getMessageType_append hmt, hinit, fields, by rw [parseCdnFields_append hd, hparse], hrest⟩

/-- What a message carries is read out of its datagram, signed or not. -/
theorem Carries.tells {signal : Signal} {hmac : Hmac} {msg : ControlMessage} {bs : Bytes}
    (h : Carries a b signal msg.avps) (hwire : wire hmac cfg msg = .ok bs) : Says a b bs signal := by
  obtain ⟨digest, hd, hdec⟩ := decode_of_wire hmac hwire
  exact ⟨_, hdec, h.append hd⟩

section Built

variable {cfg : TunnelConfigEntry} {avps : List AVP}

/-- An ICRQ offers the ID of the caller, and names the session. -/
theorem carries_icrq (hconfig : s.config = a.toConfig cfg) (hinit : a.initiator = true)
    (h : buildIcrqAvps s.config.callArgs s.config.pseudowireType (some s.config.name)
      s.config.cookie = .ok avps) : Carries a b .icrq avps := by
  refine ⟨getMessageType_of_tagged (buildIcrqAvps_regular h).1, hinit, _, parse_icrq h, ?_, rfl, ?_⟩
  · rw [hconfig]
    rfl
  · rw [hconfig]
    rfl

/-- An ICRP answers the caller under the ID that it offered. -/
theorem carries_icrp (hconfig : s.config = a.toConfig cfg) (hinit : a.initiator = false)
    (h : buildIcrpAvps s.config.callArgs b.localSid s.config.cookie = .ok avps) :
    Carries a b .icrp avps := by
  refine ⟨getMessageType_of_tagged (buildIcrpAvps_regular h).2, hinit, _, parse_icrp h, ?_, rfl⟩
  rw [hconfig]
  rfl

/-- An ICCN names both sessions. -/
theorem carries_iccn (hconfig : s.config = a.toConfig cfg) (hinit : a.initiator = true)
    (h : buildIccnAvps s.config.callArgs b.localSid = .ok avps) : Carries a b .iccn avps := by
  refine ⟨getMessageType_of_tagged (buildIccnAvps_regular h).2, hinit, _, parse_iccn h, ?_, rfl⟩
  rw [hconfig]
  rfl

/-- A CDN names the session it is for, or nobody when a caller does not know it yet. -/
theorem carries_cdn (hconfig : s.config = a.toConfig cfg) {code : Int} {named : Bool}
    (hinit : named = false → a.initiator = true)
    (hpeer : s.peerSid = if named then b.localSid else 0)
    (h : buildCdnAvps s.config.localSid s.peerSid code = .ok avps) :
    Carries a b (.cdn named) avps := by
  obtain ⟨htag, hparse⟩ := parse_cdn h
  refine ⟨getMessageType_of_tagged htag, hinit, _, hparse, ?_, hpeer⟩
  rw [hconfig]
  rfl

end Built

/-! ## Who is speaking

All sessions of a tunnel share one channel. The signals of one of them, in their order, are what its
mate gets to hear. -/

/-- What the session `sid` says among the signals of its tunnel. -/
def voice (sid : Int) (g : List (Int × Signal)) : List Signal :=
  (g.filter fun e => e.1 = sid).map Prod.snd

@[simp] theorem voice_nil (sid : Int) : voice sid [] = [] := rfl

theorem voice_append (sid : Int) (g g' : List (Int × Signal)) :
    voice sid (g ++ g') = voice sid g ++ voice sid g' := by
  simp [voice]

theorem voice_cons_self (sid : Int) (signal : Signal) (g : List (Int × Signal)) :
    voice sid ((sid, signal) :: g) = signal :: voice sid g := by
  simp [voice]

theorem voice_cons_ne {sid k : Int} (h : k ≠ sid) (signal : Signal) (g : List (Int × Signal)) :
    voice sid ((k, signal) :: g) = voice sid g := by
  simp [voice, h]

/-- A session hears all that it says itself. -/
theorem voice_own (sid : Int) (signals : List Signal) :
    voice sid (signals.map fun signal => (sid, signal)) = signals := by
  induction signals with
  | nil => rfl
  | cons signal signals ih => rw [List.map_cons, voice_cons_self, ih]

/-- Of another session nothing is heard. -/
theorem voice_other {sid k : Int} (h : k ≠ sid) (signals : List Signal) :
    voice sid (signals.map fun signal => (k, signal)) = [] := by
  simp [voice, h]

/-- The datagrams in flight are these signals. -/
def Flight (cfg other : TunnelConfigEntry) (ds : List Bytes) (g : List (Int × Signal)) : Prop :=
  List.Forall₂ (fun bs e => ∃ a b, Mates cfg other a b ∧ a.localSid = e.1 ∧ Says a b bs e.2) ds g

/-- What a session adds to the datagrams in flight. -/
theorem Flight.append {ds ds' : List Bytes} {g : List (Int × Signal)} {signals : List Signal}
    (h : Flight cfg other ds g) (hm : Mates cfg other a b)
    (htells : List.Forall₂ (Says a b) ds' signals) :
    Flight cfg other (ds ++ ds') (g ++ signals.map fun signal => (a.localSid, signal)) := by
  refine List.rel_append h ?_
  rw [List.forall₂_map_right_iff]
  exact htells.imp fun bs signal hs => ⟨a, b, hm, rfl, hs⟩

/-! ## The invariant

Each pair of mates is a sound call whose channels are the voices of the two. A step of one session
leaves every other pair as it was, so it is enough to look at the pair that is touched. -/

/-- The sessions of a tunnel are the ones configured, and its by-remote index maps session IDs
of the other to their mates. -/
structure Seated (cfg other : TunnelConfigEntry) (w : World δ) : Prop where
  ready : w.tunnel.Ready
  table : ∀ sid s, w.tunnel.sessionsByLocal.get? sid = some s →
    ∃ a ∈ cfg.sessions, a.localSid = sid ∧ s.config = a.toConfig cfg
  full : ∀ a ∈ cfg.sessions, ∃ s, w.tunnel.sessionsByLocal.get? a.localSid = some s
  index : ∀ k sid, w.tunnel.sessionsByRemote.get? k = some sid →
    ∃ a b, Mates cfg other a b ∧ a.localSid = sid ∧ b.localSid = k

/-- A session of the table has the configuration of its ID. -/
theorem Seated.config (h : Seated cfg other w) (hf : Facing cfg other) (ha : a ∈ cfg.sessions)
    (hget : w.tunnel.sessionsByLocal.get? a.localSid = some s) :
    s.config = a.toConfig cfg := by
  obtain ⟨a', ha', hsid, hconfig⟩ := h.table _ s hget
  rw [hconfig, eq_of_sid hf ha' ha hsid]

theorem get?_called {out : List Bytes} (h : Called sid s' out w w') (k : Int) :
    w'.tunnel.sessionsByLocal.get? k
      = if sid = k then some s' else w.tunnel.sessionsByLocal.get? k := by
  rw [h.byLocal, Dict.get?_set]

/-- **A call keeps the tables in order**, when the ID that the session learned is that of its mate.
-/
theorem Seated.called {out : List Bytes} (h : Seated cfg other w) (hm : Mates cfg other a b)
    (hget : w.tunnel.sessionsByLocal.get? a.localSid = some s) (hconfig : s'.config = s.config)
    (hpeer : s'.peerSid = 0 ∨ s'.peerSid = b.localSid) (hcalled : Called a.localSid s' out w w') :
    Seated cfg other w' := by
  refine ⟨hcalled.ready h.ready, fun k t ht => ?_, fun a' ha' => ?_, fun k v hk => ?_⟩
  -- the session called, and any other
  · rw [get?_called hcalled] at ht
    split at ht
    · rename_i hk
      cases ht
      obtain ⟨a', ha', hsid, hcfg⟩ := h.table _ s hget
      exact ⟨a', ha', hsid.trans hk, hconfig.trans hcfg⟩
    · exact h.table k t ht
  · rw [get?_called hcalled]
    split
    · exact ⟨s', rfl⟩
    · exact h.full a' ha'
  -- the index is untouched, or has the mate's ID for this session
  · rcases hcalled.byRemote with heq | ⟨hne, -, heq⟩
    · exact h.index k v (heq ▸ hk)
    · rw [heq, Dict.get?_set] at hk
      split at hk
      · rename_i hkey
        cases hk
        exact ⟨a, b, hm, rfl, (hpeer.resolve_left hne).symm.trans hkey⟩
      · exact h.index k v hk

/-- Every caller of `x` and its mate in `y` are linked; the calls of the callers in `fresh` are
not begun. -/
def Half (cfg other : TunnelConfigEntry) (fresh : Int → Prop) (x y : World δ)
    (gxy gyx : List (Int × Signal)) : Prop :=
  ∀ a b, Mates cfg other a b → a.initiator = true → ∀ i r,
    x.tunnel.sessionsByLocal.get? a.localSid = some i →
    y.tunnel.sessionsByLocal.get? b.localSid = some r →
    Linked (fresh a.localSid) i r (voice a.localSid gxy) (voice b.localSid gyx)

/-- **The invariant** of two tunnels with the datagrams in flight between them. -/
structure Inv (cfg other : TunnelConfigEntry) (fresh fresh' : Int → Prop) (x y : World δ)
    (out back : List Bytes) (gout gback : List (Int × Signal)) : Prop where
  near : Seated cfg other x
  far : Seated other cfg y
  out : Flight cfg other out gout
  back : Flight other cfg back gback
  calls : Half cfg other fresh x y gout gback
  answers : Half other cfg fresh' y x gback gout

section Inv

variable {fresh fresh' fresh₁ : Int → Prop} {out back back₁ ds : List Bytes}
  {gout gback gback₁ : List (Int × Signal)} {signals : List Signal}

theorem Inv.swap (h : Inv cfg other fresh fresh' x y out back gout gback) :
    Inv other cfg fresh' fresh y x back out gback gout :=
  ⟨h.far, h.near, h.back, h.out, h.answers, h.calls⟩

theorem Inv.mono (h : Inv cfg other fresh fresh' x y out back gout gback)
    (himp : ∀ k, fresh₁ k → fresh k) : Inv cfg other fresh₁ fresh' x y out back gout gback :=
  ⟨h.near, h.far, h.out, h.back,
    fun a b hm hinit i r hi hr => (h.calls a b hm hinit i r hi hr).mono (himp _), h.answers⟩

/-- **One session was called**: it is enough that it and its mate are still linked. -/
theorem Inv.touched (hf : Facing cfg other) (hf' : Facing other cfg)
    (h : Inv cfg other fresh fresh' x y out back gout gback) (hm : Mates cfg other a b)
    (hget : x.tunnel.sessionsByLocal.get? a.localSid = some s)
    (hcalled : Called a.localSid s' ds x w) (hconfig : s'.config = s.config)
    (hpeer : s'.peerSid = 0 ∨ s'.peerSid = b.localSid)
    (htells : List.Forall₂ (Says a b) ds signals) (hback : Flight other cfg back₁ gback₁)
    (hrest : ∀ k, k ≠ b.localSid → voice k gback₁ = voice k gback)
    (hfresh : ∀ k, k ≠ a.localSid → fresh₁ k → fresh k)
    (hcall : a.initiator = true → ∀ r, y.tunnel.sessionsByLocal.get? b.localSid = some r →
      Linked (fresh₁ a.localSid) s' r (voice a.localSid gout ++ signals) (voice b.localSid gback₁))
    (hanswer : a.initiator = false → ∀ i, y.tunnel.sessionsByLocal.get? b.localSid = some i →
      Linked (fresh' b.localSid) i s' (voice b.localSid gback₁) (voice a.localSid gout ++ signals)) :
    Inv cfg other fresh₁ fresh' w y (out ++ ds) back₁
      (gout ++ signals.map fun signal => (a.localSid, signal)) gback₁ := by
  refine ⟨h.near.called hm hget hconfig hpeer hcalled, h.far, h.out.append hm htells, hback, ?_, ?_⟩
  · intro a' b' hm' hinit i r hi hr
    rw [get?_called hcalled] at hi
    rw [voice_append]
    -- the pair of the call itself
    by_cases hsid : a.localSid = a'.localSid
    · obtain rfl := eq_of_sid hf hm.here hm'.here hsid
      obtain rfl := hm.unique hm' hf'
      rw [if_pos rfl] at hi
      cases hi
      rw [voice_own]
      exact hcall hinit r hr
    · -- another pair: nothing of it was touched
      rw [if_neg hsid] at hi
      have hsid' : b'.localSid ≠ b.localSid := by
        intro heq
        obtain rfl := eq_of_sid hf' hm'.there hm.there heq
        exact hsid (congrArg _ (hm.symm.unique hm'.symm hf))
      rw [voice_other hsid, List.append_nil, hrest _ hsid']
      exact (h.calls a' b' hm' hinit i r hi hr).mono (hfresh _ (Ne.symm hsid))
  · intro b' a' hm' hinit i r hi hr
    rw [get?_called hcalled] at hr
    rw [voice_append]
    by_cases hsid : a.localSid = a'.localSid
    · obtain rfl := eq_of_sid hf hm.here hm'.there hsid
      obtain rfl := hm.unique hm'.symm hf'
      rw [if_pos rfl] at hr
      cases hr
      rw [voice_own]
      refine hanswer ?_ i hi
      have hopp := hm.initiator hf hf'
      rw [hinit] at hopp
      simpa using hopp.symm
    · rw [if_neg hsid] at hr
      have hsid' : b'.localSid ≠ b.localSid := by
        intro heq
        obtain rfl := eq_of_sid hf' hm'.here hm.there heq
        exact hsid (congrArg _ (hm.symm.unique hm' hf))
      rw [voice_other hsid, List.append_nil, hrest _ hsid']
      exact h.answers b' a' hm' hinit i r hi hr

section Steps

variable (hf : Facing cfg other) (hf' : Facing other cfg)
  (h : Inv cfg other fresh fresh' x y out back gout gback) (hm : Mates cfg other a b)
  (hget : x.tunnel.sessionsByLocal.get? a.localSid = some s)
include hf hf' h hm hget

/-- A session that does not call is linked to the one that calls it. -/
theorem Inv.called_by (hinit : a.initiator = false)
    (hi : y.tunnel.sessionsByLocal.get? b.localSid = some i) :
    Linked (fresh' b.localSid) i s (voice b.localSid gback) (voice a.localSid gout) := by
  refine h.answers b a hm.symm ?_ i s hi hget
  rw [hm.initiator hf hf', hinit]
  rfl

/-- A session knows nobody or its mate. -/
theorem Inv.peer : s.peerSid = 0 ∨ s.peerSid = b.localSid := by
  obtain ⟨t, ht⟩ := h.far.full b hm.there
  have hsid : t.config.localSid = b.localSid := by rw [h.far.config hf' hm.there ht]; rfl
  rw [← hsid]
  cases hinit : a.initiator with
  | true => exact (h.calls a b hm hinit s t hget ht).caller
  | false => exact (h.called_by hf hf' hm hget hinit ht).callee

/-- A call that neither moves the session nor sends. -/
theorem Inv.unmoved (hcalled : Called a.localSid s [] x w) :
    Inv cfg other fresh fresh' w y out back gout gback := by
  have hinv := h.touched hf hf' hm hget hcalled rfl (h.peer hf hf' hm hget) .nil h.back
    (fun _ _ => rfl) (fun _ _ hk => hk)
    (fun hinit r hr => by simpa using h.calls a b hm hinit s r hget hr)
    (fun hinit i hi => by simpa using h.called_by hf hf' hm hget hinit hi)
  simpa using hinv

variable [Dataplane δ] (hmac : Hmac)

/-- **A session is closed.** -/
theorem Inv.closes_session (code : Int) : ∃ ds gout₁,
    (closeSession hmac a.localSid code x).2.sent = x.sent ++ ds ∧
    Inv cfg other fresh fresh' (closeSession hmac a.localSid code x).2 y (out ++ ds) back gout₁
      gback := by
  have hconfig := h.near.config hf hm.here hget
  have hpeer := h.peer hf hf' hm hget
  obtain ⟨t, ht⟩ := h.far.full b hm.there
  have hsid : t.config.localSid = b.localSid := by rw [h.far.config hf' hm.there ht]; rfl
  have hspec := fun r s' (hcall : onLocalClose code s = (r, s')) =>
    called_session hmac (method_onLocalClose code) hget h.near.ready hcall (indexes_id _)
  -- nothing to close; a CDN on its way
  rcases onLocalClose_cases s code with ⟨r, hrun, hsilent⟩ | ⟨hidle, hcdn, avps, hbuilt, hrun⟩
  · obtain ⟨ds, hem, hcalled⟩ := hspec r s hrun
    obtain rfl := hem.eq_nil hsilent
    exact ⟨[], gout, hcalled.sent, by rw [List.append_nil]; exact h.unmoved hf hf' hm hget hcalled⟩
  · obtain ⟨ds, hem, hcalled⟩ := hspec _ _ hrun
    obtain ⟨msg, bs, havps, hbs, rfl⟩ := hem.of_regular (buildCdnAvps_regular hbuilt).1
    subst havps
    cases hinit : a.initiator with
    | true =>
      -- a caller may not know yet whom it calls
      have hlink := h.calls a b hm hinit s t hget ht
      have hcarries : Carries a b (.cdn (decide (s.peerSid = t.config.localSid))) msg.avps := by
        refine carries_cdn hconfig (fun _ => hinit) ?_ hbuilt
        rw [hsid]
        rcases hpeer with h0 | hb
        · have hne : s.peerSid ≠ b.localSid := by
            have := (hf'.range b hm.there).1
            omega
          simp [h0, h0 ▸ hne]
        · simp [hb]
      refine ⟨[bs], _, hcalled.sent, h.touched hf hf' hm hget hcalled rfl hpeer
        (.cons (hcarries.tells hbs) .nil) h.back (fun _ _ => rfl) (fun _ _ hk => hk) ?_ ?_⟩
      · intro _ r hr
        rw [ht] at hr
        cases hr
        exact hlink.callerCloses hidle hcdn
      · intro hno
        rw [hinit] at hno
        cases hno
    | false =>
      have hlink := h.called_by hf hf' hm hget hinit ht
      have hcarries : Carries a b (.cdn true) msg.avps :=
        carries_cdn hconfig nofun (by rw [hlink.learned hidle, hsid]; rfl) hbuilt
      refine ⟨[bs], _, hcalled.sent, h.touched hf hf' hm hget hcalled rfl hpeer
        (.cons (hcarries.tells hbs) .nil) h.back (fun _ _ => rfl) (fun _ _ hk => hk) ?_ ?_⟩
      · intro hyes
        rw [hinit] at hyes
        cases hyes
      · intro _ i hi
        rw [ht] at hi
        cases hi
        exact hlink.calleeCloses hidle hcdn

/-- **A session is told that the tunnel is up**, the first time. -/
theorem Inv.starts_session (hfresh : fresh a.localSid) (hfresh₁ : ∀ k, fresh₁ k → fresh k)
    (hnot : ¬ fresh₁ a.localSid) : ∃ ds gout₁,
    ((do
      let actions ← onSession a.localSid onTunnelEstablished
      executeSessionActions hmac actions : Prog (World δ) Unit) x).2.sent = x.sent ++ ds ∧
    Inv cfg other fresh₁ fresh' ((do
      let actions ← onSession a.localSid onTunnelEstablished
      executeSessionActions hmac actions : Prog (World δ) Unit) x).2 y (out ++ ds) back gout₁
      gback := by
  have hconfig := h.near.config hf hm.here hget
  have hpeer := h.peer hf hf' hm hget
  obtain ⟨t, ht⟩ := h.far.full b hm.there
  have hspec := fun r s' (hcall : onTunnelEstablished s = (r, s')) =>
    called_session hmac method_onTunnelEstablished hget h.near.ready hcall (indexes_id _)
  -- a responder, or a session that is not idle; a caller that calls
  rcases onTunnelEstablished_cases s with ⟨r, hrun, hsilent⟩ | ⟨hinit', -, avps, hbuilt, hrun⟩
  · obtain ⟨ds, hem, hcalled⟩ := hspec r s hrun
    obtain rfl := hem.eq_nil hsilent
    refine ⟨[], gout, hcalled.sent, ?_⟩
    rw [List.append_nil]
    exact (h.unmoved hf hf' hm hget hcalled).mono hfresh₁
  · obtain ⟨ds, hem, hcalled⟩ := hspec _ _ hrun
    have hinit : a.initiator = true := by rw [hconfig] at hinit'; exact hinit'
    have hlink := (h.calls a b hm hinit s t hget ht).mono fun _ : True => hfresh
    -- the ICRQ is on its way, or its name did not fit
    obtain ⟨signals, hsignals, htells⟩ : ∃ signals, (signals = [] ∨ signals = [Signal.icrq]) ∧
        List.Forall₂ (Says a b) ds signals := by
      cases hem with
      | silent => exact ⟨[], .inl rfl, .nil⟩
      | sent _ havps hbs =>
        subst havps
        exact ⟨[.icrq], .inr rfl, .cons ((carries_icrq hconfig hinit hbuilt).tells hbs) .nil⟩
      | unsent => exact ⟨[], .inl rfl, .nil⟩
    refine ⟨ds, _, hcalled.sent, h.touched hf hf' hm hget hcalled rfl hpeer htells h.back
      (fun _ _ => rfl) (fun k _ hk => hfresh₁ k hk) ?_ ?_⟩
    · intro _ r hr
      rw [ht] at hr
      cases hr
      exact (hlink.starts hsignals).mono hnot
    · intro hno
      rw [hinit] at hno
      cases hno

end Steps

/-! ### Routing

The receiver finds the session by an ID or by a name. That it finds the mate of the sender, and
nobody else, is where the configurations come in. -/

/-- A message that names a session of the tunnel is for that session. -/
theorem route_named (h : Seated cfg other w) (hf : Facing cfg other) (ha : a ∈ cfg.sessions)
    (mt key : Int) (endId : Option Bytes) : w.tunnel.route mt a.localSid key endId = some a.localSid := by
  have hpos := (hf.range a ha).1
  have hcontains : w.tunnel.sessionsByLocal.contains a.localSid = true :=
    Dict.contains_iff.mpr (h.full a ha)
  rw [route, if_pos ⟨by omega, hcontains⟩]

/-- An inbound call is for the idle session of its name. -/
theorem route_icrq (h : Seated cfg other w) (hf : Facing cfg other) (ha : a ∈ cfg.sessions)
    (key : Int) (hroute : w.tunnel.route MessageType.icrq.code 0 key (some (utf8 a.name)) = some sid) :
    sid = a.localSid ∧ ∃ s, w.tunnel.sessionsByLocal.get? sid = some s ∧ s.state = .idle := by
  rw [route, if_neg (by simp), if_pos rfl, Option.map_eq_some_iff] at hroute
  obtain ⟨⟨sid', s⟩, hfind, rfl⟩ := hroute
  have hget := Dict.mem_items_iff.mp (List.mem_of_find?_eq_some hfind)
  have hcand := List.find?_some hfind
  simp only [candidate, decide_eq_true_eq] at hcand
  -- the candidate has the name that was called, and a name is of one session
  obtain ⟨hidle, hname⟩ := hcand
  obtain ⟨a', ha', hsid, hconfig⟩ := h.table sid' s hget
  have hname' : utf8 s.config.name = utf8 a.name := hname _ rfl
  rw [hconfig] at hname'
  obtain rfl := eq_of_name hf ha' ha (utf8_injective hname')
  exact ⟨hsid.symm, s, hget, hidle⟩

/-- A CDN that names nobody is for the mate of its sender, if for anybody. -/
theorem route_unnamed (h : Seated cfg other w) (hf : Facing cfg other) (hf' : Facing other cfg)
    (hm : Mates cfg other a b)
    (hroute : w.tunnel.route MessageType.cdn.code 0 b.localSid none = some sid) :
    sid = a.localSid := by
  have hpos := (hf'.range b hm.there).1
  have hne : MessageType.cdn.code ≠ MessageType.icrq.code := by decide
  rw [route, if_neg (by simp), if_neg hne, if_pos (by omega)] at hroute
  obtain ⟨a', b', hm', rfl, hb'⟩ := h.index _ _ hroute
  obtain rfl := eq_of_sid hf' hm'.there hm.there hb'
  exact congrArg _ (hm'.symm.unique hm.symm hf)

/-! ### Deliveries

One lemma for each of the four messages. Each delivery is a move of the call that it belongs to, and
puts the answer into flight. -/

/-- A message that was given to nobody. -/
theorem called_dropped (hget : x.tunnel.sessionsByLocal.get? sid = some s) (msg : ControlMessage) :
    Called sid s [] x (noted x .session msg) :=
  ⟨rfl, rfl, fun hready => ⟨hready.sound, hready.remoteCcid⟩, (Dict.set_of_get? hget).symm, .inl rfl,
    (List.append_nil _).symm⟩

section Deliveries

variable {msg : ControlMessage} {signal : Signal} {d : Bytes} (hf : Facing cfg other)
  (hf' : Facing other cfg)
  (h : Inv cfg other fresh fresh' x y out (d :: back₁) gout ((b.localSid, signal) :: gback₁))
  (hm : Mates cfg other a b) (hget : x.tunnel.sessionsByLocal.get? a.localSid = some s)
include hf hf' h hm hget

/-- What is left in flight. -/
theorem Inv.taken (hcalled : Called a.localSid s' ds x w) (hconfig : s'.config = s.config)
    (hpeer : s'.peerSid = 0 ∨ s'.peerSid = b.localSid) (htells : List.Forall₂ (Says a b) ds signals)
    (hcall : a.initiator = true → ∀ r, y.tunnel.sessionsByLocal.get? b.localSid = some r →
      Linked (fresh a.localSid) s r (voice a.localSid gout) (signal :: voice b.localSid gback₁) →
      Linked (fresh a.localSid) s' r (voice a.localSid gout ++ signals) (voice b.localSid gback₁))
    (hanswer : a.initiator = false → ∀ i, y.tunnel.sessionsByLocal.get? b.localSid = some i →
      Linked (fresh' b.localSid) i s (signal :: voice b.localSid gback₁) (voice a.localSid gout) →
      Linked (fresh' b.localSid) i s' (voice b.localSid gback₁)
        (voice a.localSid gout ++ signals)) :
    Inv cfg other fresh fresh' w y (out ++ ds) back₁
      (gout ++ signals.map fun signal => (a.localSid, signal)) gback₁ := by
  have hback : Flight other cfg back₁ gback₁ := by
    cases h.back with
    | cons _ hrest => exact hrest
  refine h.touched hf hf' hm hget hcalled hconfig hpeer htells hback
    (fun k hk => (voice_cons_ne (Ne.symm hk) signal gback₁).symm) (fun _ _ hk => hk) ?_ ?_
  · intro hinit r hr
    have hlink := h.calls a b hm hinit s r hget hr
    rw [voice_cons_self] at hlink
    exact hcall hinit r hr hlink
  · intro hinit i hi
    have hlink := h.called_by hf hf' hm hget hinit hi
    rw [voice_cons_self] at hlink
    exact hanswer hinit i hi hlink

/-- A session that is not moved and sends nothing has taken the message if the link stands it. -/
theorem Inv.taken_silently (hcalled : Called a.localSid s [] x w)
    (hcall : a.initiator = true → ∀ r, y.tunnel.sessionsByLocal.get? b.localSid = some r →
      Linked (fresh a.localSid) s r (voice a.localSid gout) (signal :: voice b.localSid gback₁) →
      Linked (fresh a.localSid) s r (voice a.localSid gout) (voice b.localSid gback₁))
    (hanswer : a.initiator = false → ∀ i, y.tunnel.sessionsByLocal.get? b.localSid = some i →
      Linked (fresh' b.localSid) i s (signal :: voice b.localSid gback₁) (voice a.localSid gout) →
      Linked (fresh' b.localSid) i s (voice b.localSid gback₁) (voice a.localSid gout)) :
    Inv cfg other fresh fresh' w y out back₁ gout gback₁ := by
  have hinv := h.taken hf hf' hm hget hcalled rfl (h.peer hf hf' hm hget) .nil
    (fun hinit r hr hlink => by simpa using hcall hinit r hr hlink)
    (fun hinit i hi hlink => by simpa using hanswer hinit i hi hlink)
  simpa using hinv

end Deliveries

section Handlers

variable {msg : ControlMessage} {d : Bytes} (hf : Facing cfg other) (hf' : Facing other cfg)
  (hm : Mates cfg other a b) (hget : x.tunnel.sessionsByLocal.get? a.localSid = some s)
  [Dataplane δ] (hmac : Hmac)

/-- What a delivery leaves: the invariant, with the answers in flight. -/
def Delivered (cfg other : TunnelConfigEntry) (fresh fresh' : Int → Prop) (x w y : World δ)
    (out back : List Bytes) (gback : List (Int × Signal)) : Prop :=
  ∃ ds gout, w.sent = x.sent ++ ds ∧ Inv cfg other fresh fresh' w y (out ++ ds) back gout gback

include hf hf' hm hget

/-- **An ICRQ.** -/
theorem Inv.takes_icrq
    (h : Inv cfg other fresh fresh' x y out (d :: back₁) gout ((b.localSid, .icrq) :: gback₁))
    (hmsg : Carries b a .icrq msg.avps) : Delivered cfg other fresh fresh' x
      (dispatchSessionMessage hmac msg MessageType.icrq.code x).2 y out back₁ gback₁ := by
  obtain ⟨hmt, hcaller, fields, hparse, hl, hr, hend⟩ := hmsg
  have hinit : a.initiator = false := by rw [hm.symm.initiator hf' hf, hcaller]; rfl
  have hno : a.initiator ≠ true := by simp [hinit]
  have hkeys : sessionKeys MessageType.icrq.code msg.avps
      = .ok (0, b.localSid, some (utf8 a.name)) := by
    rw [sessionKeys, if_neg (by decide), hparse, hm.name, ← hend, ← hl, ← hr]
    rfl
  have hconfig := h.near.config hf hm.here hget
  cases hroute : x.tunnel.route MessageType.icrq.code 0 b.localSid (some (utf8 a.name)) with
  -- no idle session of that name: the offer is lost
  | none =>
    rw [dispatchSessionMessage_unrouted hmac hkeys hroute]
    refine ⟨[], gout, (List.append_nil _).symm, ?_⟩
    rw [List.append_nil]
    exact h.taken_silently hf hf' hm hget (called_dropped hget msg)
      (fun hyes => absurd hyes hno) fun _ _ _ hlink => hlink.unoffered
  | some sid =>
    obtain ⟨rfl, s₁, hget₁, hidle⟩ := route_icrq h.near hf hm.here _ hroute
    rw [hget] at hget₁
    cases hget₁
    -- the answer cannot be built, or it is on its way
    rcases onMessage_icrq s hmt hparse hidle with ⟨e, -, hrun⟩ | ⟨avps, hbuilt, hrun⟩
    · obtain ⟨ds, hem, hcalled⟩ := called_dispatch hmac hkeys hroute hget h.near.ready hrun
      obtain rfl := hem.eq_nil (silent_error e)
      refine ⟨_, _, hcalled.sent, h.taken hf hf' hm hget hcalled rfl (.inr hl) .nil
        (fun hyes => absurd hyes hno) fun _ i hi hlink => ?_⟩
      rw [List.append_nil]
      exact hlink.refuses hidle (by rw [hl, h.far.config hf' hm.there hi]; rfl)
    · obtain ⟨ds, hem, hcalled⟩ := called_dispatch hmac hkeys hroute hget h.near.ready hrun
      obtain ⟨reply, bs, rfl, hbs, rfl⟩ := hem.of_regular (buildIcrpAvps_regular hbuilt).1
      rw [hl] at hbuilt
      have htells := (carries_icrp hconfig hinit hbuilt).tells hbs
      refine ⟨_, _, hcalled.sent, h.taken hf hf' hm hget hcalled rfl (.inr hl) (.cons htells .nil)
        (fun hyes => absurd hyes hno) fun _ i hi hlink => ?_⟩
      exact hlink.answers hidle (by rw [hl, h.far.config hf' hm.there hi]; rfl)

/-- **An ICRP.** -/
theorem Inv.takes_icrp
    (h : Inv cfg other fresh fresh' x y out (d :: back₁) gout ((b.localSid, .icrp) :: gback₁))
    (hmsg : Carries b a .icrp msg.avps) : Delivered cfg other fresh fresh' x
      (dispatchSessionMessage hmac msg MessageType.icrp.code x).2 y out back₁ gback₁ := by
  obtain ⟨hmt, hcallee, fields, hparse, hl, hr⟩ := hmsg
  have hinit : a.initiator = true := by rw [hm.symm.initiator hf' hf, hcallee]; rfl
  have hno : a.initiator ≠ false := by simp [hinit]
  have hkeys : sessionKeys MessageType.icrp.code msg.avps
      = .ok (a.localSid, b.localSid, fields.remoteEndId) := by
    rw [sessionKeys, if_neg (by decide), hparse, ← hl, ← hr]
    rfl
  have hconfig := h.near.config hf hm.here hget
  have hroute := route_named h.near hf hm.here MessageType.icrp.code b.localSid fields.remoteEndId
  -- an answer nobody waits for; one whose ICCN cannot be built; a call connected
  rcases onMessage_icrp s hmt hparse with ⟨hbusy, hrun⟩ | ⟨hwait, e, -, hrun⟩ |
    ⟨hwait, avps, hbuilt, hrun⟩
  · obtain ⟨ds, hem, hcalled⟩ := called_dispatch hmac hkeys hroute hget h.near.ready hrun
    obtain rfl := hem.eq_nil silent_nil
    refine ⟨[], gout, hcalled.sent, ?_⟩
    rw [List.append_nil]
    exact h.taken_silently hf hf' hm hget hcalled (fun _ _ _ hlink => hlink.ignores hbusy)
      fun hyes => absurd hyes hno
  · obtain ⟨ds, hem, hcalled⟩ := called_dispatch hmac hkeys hroute hget h.near.ready hrun
    obtain rfl := hem.eq_nil (silent_error e)
    refine ⟨_, _, hcalled.sent, h.taken hf hf' hm hget hcalled rfl (.inr hl) .nil
      (fun _ r hr' hlink => ?_) fun hyes => absurd hyes hno⟩
    rw [List.append_nil]
    exact hlink.stalls hwait (by rw [hl, h.far.config hf' hm.there hr']; rfl)
  · obtain ⟨ds, hem, hcalled⟩ := called_dispatch hmac hkeys hroute hget h.near.ready hrun
    obtain ⟨reply, bs, rfl, hbs, rfl⟩ := hem.of_regular (buildIccnAvps_regular hbuilt).1
    rw [hl] at hbuilt
    have htells := (carries_iccn hconfig hinit hbuilt).tells hbs
    refine ⟨_, _, hcalled.sent, h.taken hf hf' hm hget hcalled rfl (.inr hl) (.cons htells .nil)
      (fun _ r hr' hlink => ?_) fun hyes => absurd hyes hno⟩
    exact hlink.connects hwait (by rw [hl, h.far.config hf' hm.there hr']; rfl)

/-- **An ICCN.** -/
theorem Inv.takes_iccn
    (h : Inv cfg other fresh fresh' x y out (d :: back₁) gout ((b.localSid, .iccn) :: gback₁))
    (hmsg : Carries b a .iccn msg.avps) : Delivered cfg other fresh fresh' x
      (dispatchSessionMessage hmac msg MessageType.iccn.code x).2 y out back₁ gback₁ := by
  obtain ⟨hmt, hcaller, fields, hparse, hl, hr⟩ := hmsg
  have hinit : a.initiator = false := by rw [hm.symm.initiator hf' hf, hcaller]; rfl
  have hno : a.initiator ≠ true := by simp [hinit]
  have hkeys : sessionKeys MessageType.iccn.code msg.avps
      = .ok (a.localSid, b.localSid, fields.remoteEndId) := by
    rw [sessionKeys, if_neg (by decide), hparse, ← hl, ← hr]
    rfl
  have hroute := route_named h.near hf hm.here MessageType.iccn.code b.localSid fields.remoteEndId
  -- an ICCN nobody waits for; one that confirms; one from a stranger
  rcases onMessage_iccn s hmt hparse with ⟨hbusy, hrun⟩ | ⟨hwait, -, hrun⟩ | ⟨hwait, hbad, -⟩
  · obtain ⟨ds, hem, hcalled⟩ := called_dispatch hmac hkeys hroute hget h.near.ready hrun
    obtain rfl := hem.eq_nil silent_nil
    refine ⟨[], gout, hcalled.sent, ?_⟩
    rw [List.append_nil]
    exact h.taken_silently hf hf' hm hget hcalled (fun hyes => absurd hyes hno)
      fun _ _ _ hlink => hlink.disregards hbusy
  · obtain ⟨ds, hem, hcalled⟩ := called_dispatch hmac hkeys hroute hget h.near.ready hrun
    obtain rfl := hem.eq_nil (by rintro _ ⟨⟩ avps; simp)
    have hpeer := h.peer hf hf' hm hget
    refine ⟨_, _, hcalled.sent, h.taken hf hf' hm hget hcalled rfl hpeer .nil
      (fun hyes => absurd hyes hno) fun _ i hi hlink => ?_⟩
    rw [List.append_nil]
    exact hlink.confirms hwait
  · -- the session learned the ID of its mate when it left `IDLE`
    obtain ⟨i, hi⟩ := h.far.full b hm.there
    have hlearned := (h.called_by hf hf' hm hget hinit hi).learned (by simp [hwait])
    rw [h.far.config hf' hm.there hi] at hlearned
    exact absurd (hl.trans hlearned.symm) hbad

/-- **A CDN.** -/
theorem Inv.takes_cdn {named : Bool}
    (h : Inv cfg other fresh fresh' x y out (d :: back₁) gout ((b.localSid, .cdn named) :: gback₁))
    (hmsg : Carries b a (.cdn named) msg.avps) : Delivered cfg other fresh fresh' x
      (dispatchSessionMessage hmac msg MessageType.cdn.code x).2 y out back₁ gback₁ := by
  obtain ⟨hmt, hcaller, fields, hparse, hl, hr⟩ := hmsg
  have hkeys : sessionKeys MessageType.cdn.code msg.avps
      = .ok (if named then a.localSid else 0, b.localSid, none) := by
    rw [sessionKeys, if_pos rfl, hparse, ← hl, ← hr]
    rfl
  -- a CDN without a name finds a session by the index, or nobody
  cases hroute : x.tunnel.route MessageType.cdn.code (if named then a.localSid else 0) b.localSid
      none with
  | none =>
    cases named with
    | true =>
      rw [if_pos rfl, route_named h.near hf hm.here] at hroute
      cases hroute
    | false =>
      have hinit : a.initiator = false := by rw [hm.symm.initiator hf' hf, hcaller rfl]; rfl
      rw [dispatchSessionMessage_unrouted hmac hkeys hroute]
      refine ⟨[], gout, (List.append_nil _).symm, ?_⟩
      rw [List.append_nil]
      exact h.taken_silently hf hf' hm hget (called_dropped hget msg)
        (fun hyes => by simp [hinit] at hyes) fun _ _ _ hlink => hlink.misses
  | some sid =>
    obtain rfl : sid = a.localSid := by
      cases named with
      | true =>
        rw [if_pos rfl, route_named h.near hf hm.here] at hroute
        exact (Option.some.inj hroute).symm
      | false => exact route_unnamed h.near hf hf' hm hroute
    obtain ⟨actions, hrun, hsilent⟩ := onMessage_cdn s hmt
    obtain ⟨ds, hem, hcalled⟩ := called_dispatch hmac hkeys hroute hget h.near.ready hrun
    obtain rfl := hem.eq_nil hsilent
    have hpeer := h.peer hf hf' hm hget
    refine ⟨_, _, hcalled.sent, h.taken hf hf' hm hget hcalled rfl hpeer .nil
      (fun _ r _ hlink => ?_) fun _ i _ hlink => ?_⟩
    · rw [List.append_nil]
      exact hlink.callerDrops
    · rw [List.append_nil]
      exact hlink.calleeDrops

end Handlers

end Inv

/-! ## The two tunnels

Starts and closes of the near end, and deliveries to it; the far end is the same seen from the other
side. -/

variable [Dataplane δ] (hmac : Hmac)

/-- A datagram whose message is next in order: its AVPs are handed over. -/
def handover (d : Bytes) (w : World δ) : World δ :=
  match ControlMessage.decode d with
  | .error _ => w
  | .ok msg => (dispatch hmac msg msg.avps w).2

/-- Two tunnels, what is in flight between them, and which of them told its sessions that the
tunnel is up. -/
structure Net (δ : Type) where
  near : World δ
  far : World δ
  out : List Bytes := []
  back : List Bytes := []
  nearUp : Bool := false
  farUp : Bool := false

/-- What happens at an end. -/
inductive Move where
  /-- The loop over `on_tunnel_established` that follows `Established`. -/
  | up
  | close (sid resultCode : Int)
  | deliver

namespace Net

/-- The same seen from the other end. -/
def swap (n : Net δ) : Net δ := ⟨n.far, n.near, n.back, n.out, n.farUp, n.nearUp⟩

/-- The near end has become `w`; what it sent meanwhile is in flight. -/
def moved (n : Net δ) (w : World δ) : Net δ :=
  { n with near := w, out := n.out ++ w.sent.drop n.near.sent.length }

/-- A move of the near end. -/
def act (n : Net δ) : Move → Net δ
  | .up => { n.moved (eachSession hmac onTunnelEstablished n.near).2 with nearUp := true }
  | .close sid resultCode => n.moved (closeSession hmac sid resultCode n.near).2
  | .deliver =>
    match n.back with
    | [] => n
    | d :: ds => { n.moved (handover hmac d n.near) with back := ds }

/-- A move of the near end, or of the far one. -/
def step (n : Net δ) : Bool × Move → Net δ
  | (false, m) => n.act hmac m
  | (true, m) => (n.swap.act hmac m).swap

/-- The sessions of an end are told once that the tunnel is up. -/
def Once (n : Net δ) : Bool × Move → Prop
  | (false, .up) => n.nearUp = false
  | (true, .up) => n.farUp = false
  | _ => True

/-- The invariant of a state that a run leads to. -/
def Good (cfg other : TunnelConfigEntry) (n : Net δ) : Prop :=
  ∃ gout gback, Inv cfg other (fun _ => n.nearUp = false) (fun _ => n.farUp = false) n.near n.far
    n.out n.back gout gback

end Net

/-- A tunnel whose control connection has just come up. -/
structure Fresh (cfg : TunnelConfigEntry) (w : World δ) : Prop where
  established : w.tunnel.fsm.state = .established
  ready : w.tunnel.Ready
  byLocal : w.tunnel.sessionsByLocal = (Tunnel.init cfg).sessionsByLocal
  byRemote : w.tunnel.sessionsByRemote = .empty

omit [Dataplane δ] in
/-- Every session configured is there, idle. -/
theorem Fresh.get? (h : Fresh cfg w) (hf : Facing cfg other) (ha : a ∈ cfg.sessions) :
    w.tunnel.sessionsByLocal.get? a.localSid = some { config := a.toConfig cfg } := by
  rw [h.byLocal, ← Dict.mem_items_iff, items_init hf.sids]
  exact List.mem_map.mpr ⟨a, ha, rfl⟩

omit [Dataplane δ] in
/-- The tables of a tunnel that has just been built are in order. -/
theorem Fresh.seated (h : Fresh cfg w) (hf : Facing cfg other) : Seated cfg other w := by
  refine ⟨h.ready, fun sid s hget => ?_, fun a ha => ⟨_, h.get? hf ha⟩, fun k sid hk => ?_⟩
  · rw [h.byLocal] at hget
    obtain ⟨a, ha, hsid, rfl⟩ := get?_init hget
    exact ⟨a, ha, hsid, rfl⟩
  · rw [h.byRemote] at hk
    cases hk

omit [Dataplane δ] in
/-- Nobody has called yet. -/
theorem Fresh.half (hx : Fresh cfg x) (hy : Fresh other y) (hf : Facing cfg other)
    (hf' : Facing other cfg) (fresh : Int → Prop) : Half cfg other fresh x y [] [] := by
  intro a b hm _ i r hi hr
  rw [hx.get? hf hm.here] at hi
  rw [hy.get? hf' hm.there] at hr
  cases hi
  cases hr
  have hne : (0 : Int) ≠ b.localSid := by
    have := (hf'.range b hm.there).1
    omega
  have hcall : callOf { config := a.toConfig cfg } { config := b.toConfig other }
      (voice a.localSid []) (voice b.localSid []) = {} := by
    show Call.mk _ _ (decide ((0 : Int) = b.localSid)) _ _ = _
    rw [decide_eq_false hne]
    rfl
  exact ⟨hcall ▸ .fresh, fun _ => hcall, .inl rfl, .inl rfl, fun hbusy => absurd rfl hbusy⟩

section Runs

variable {n : Net δ} (hf : Facing cfg other) (hf' : Facing other cfg)
include hf hf'

omit [Dataplane δ] in
/-- **The invariant holds at the start.** -/
theorem good_init (hx : Fresh cfg x) (hy : Fresh other y) : Net.Good cfg other ⟨x, y, [], [], false, false⟩ :=
  ⟨[], [], hx.seated hf, hy.seated hf', .nil, .nil, hx.half hy hf hf' _, hy.half hx hf' hf _⟩

/-- The loop over the sessions: the ones ahead are still fresh. -/
theorem Inv.starts {fresh fresh' : Int → Prop} {out back : List Bytes}
    {gout gback : List (Int × Signal)} (sids : List Int) (hnd : sids.Nodup)
    (hsids : ∀ sid ∈ sids, fresh sid)
    (h : Inv cfg other fresh fresh' x y out back gout gback) : ∃ ds gout₁,
      (each (fun sid => do
        let actions ← onSession sid onTunnelEstablished
        executeSessionActions hmac actions) sids x).2.sent = x.sent ++ ds ∧
      Inv cfg other (fun _ => False) fresh' (each (fun sid => do
        let actions ← onSession sid onTunnelEstablished
        executeSessionActions hmac actions) sids x).2 y (out ++ ds) back gout₁ gback := by
  -- on the sessions left: those behind the first are still fresh after its round
  induction sids generalizing x out gout fresh with
  | nil => exact ⟨[], gout, by simp [each], by simpa [each] using h.mono fun _ hno => hno.elim⟩
  | cons sid sids ih =>
    obtain ⟨hnot, hnd'⟩ := List.nodup_cons.mp hnd
    -- one round, with the sessions behind it fresh
    obtain ⟨ds, gout₁, hsent, hinv⟩ : ∃ ds gout₁,
        ((do
          let actions ← onSession sid onTunnelEstablished
          executeSessionActions hmac actions : Prog (World δ) Unit) x).2.sent = x.sent ++ ds ∧
        Inv cfg other (· ∈ sids) fresh' ((do
          let actions ← onSession sid onTunnelEstablished
          executeSessionActions hmac actions : Prog (World δ) Unit) x).2 y (out ++ ds) back gout₁
          gback := by
      have himp : ∀ k, k ∈ sids → fresh k := fun k hk => hsids k (List.mem_cons_of_mem sid hk)
      cases hget : x.tunnel.sessionsByLocal.get? sid with
      | none =>
        rw [bind_apply_of_ok _ _ (onSession_none onTunnelEstablished hget)]
        refine ⟨[], gout, (List.append_nil _).symm, ?_⟩
        rw [List.append_nil]
        exact h.mono himp
      | some s =>
        obtain ⟨a, ha, rfl, -⟩ := h.near.table sid s hget
        obtain ⟨b, hb, hname, -⟩ := hf.mate a ha
        exact h.starts_session hf hf' ⟨ha, hb, hname⟩ hget hmac (hsids _ List.mem_cons_self) himp
          hnot
    rw [each]
    rcases hround : (do
        let actions ← onSession sid onTunnelEstablished
        executeSessionActions hmac actions : Prog (World δ) Unit) x with ⟨e | _, x₁⟩
    · -- the round raised, and the loop ends with it
      rw [hround] at hsent hinv
      rw [bind_apply_of_error _ _ hround]
      exact ⟨ds, gout₁, hsent, hinv.mono fun _ hno => hno.elim⟩
    · rw [hround] at hsent hinv
      rw [bind_apply_of_ok _ _ hround]
      obtain ⟨ds', gout₂, hsent', hinv'⟩ := ih hnd' (fun k hk => hk) hinv
      refine ⟨ds ++ ds', gout₂, ?_, ?_⟩
      · rw [hsent', hsent, List.append_assoc]
      · rw [← List.append_assoc]
        exact hinv'

/-- **A delivery.** -/
theorem Inv.delivers {fresh fresh' : Int → Prop} {out back : List Bytes} {d : Bytes}
    {gout gback : List (Int × Signal)}
    (h : Inv cfg other fresh fresh' x y out (d :: back) gout gback) :
    ∃ gback₁, Delivered cfg other fresh fresh' x (handover hmac d x) y out back gback₁ := by
  obtain ⟨⟨sid, signal⟩, gback₁, htells, -, rfl⟩ := List.forall₂_cons_left_iff.mp h.back
  obtain ⟨b, a, hm', rfl, msg, hdec, hmsg⟩ := htells
  have hm := hm'.symm
  obtain ⟨s, hget⟩ := h.near.full a hm.here
  refine ⟨gback₁, ?_⟩
  -- the hand-over of a session message is its dispatch
  have hrun : ∀ mt : MessageType, mt.code ∈ sessionMsgTypes →
      getMessageType msg.avps = .ok (some mt.code) → ∃ virtual : ControlMessage,
        virtual.avps = msg.avps ∧
        handover hmac d x = (dispatchSessionMessage hmac virtual mt.code x).2 := by
    intro mt hmem hmt
    obtain ⟨virtual, hvirtual, ⟨e, he, -⟩ | ⟨mt', -, hmt', hd⟩ | ⟨mt', hmt', hno, -⟩⟩ :=
      dispatch_cases hmac msg msg.avps x
    · rw [hmt] at he
      cases he
    · rw [hmt] at hmt'
      cases hmt'
      refine ⟨virtual, by rw [hvirtual], ?_⟩
      rw [handover, hdec, ← hd]
    · rw [hmt] at hmt'
      cases hmt'
      exact absurd hmem (hno _ rfl)
  -- by what is at the head of the queue
  cases signal with
  | icrq =>
    obtain ⟨virtual, havps, heq⟩ := hrun .icrq (by decide) hmsg.1
    rw [heq]
    exact h.takes_icrq hf hf' hm hget hmac (havps ▸ hmsg)
  | icrp =>
    obtain ⟨virtual, havps, heq⟩ := hrun .icrp (by decide) hmsg.1
    rw [heq]
    exact h.takes_icrp hf hf' hm hget hmac (havps ▸ hmsg)
  | iccn =>
    obtain ⟨virtual, havps, heq⟩ := hrun .iccn (by decide) hmsg.1
    rw [heq]
    exact h.takes_iccn hf hf' hm hget hmac (havps ▸ hmsg)
  | cdn named =>
    obtain ⟨virtual, havps, heq⟩ := hrun .cdn (by decide) hmsg.1
    rw [heq]
    exact h.takes_cdn hf hf' hm hget hmac (havps ▸ hmsg)

omit hf hf' [Dataplane δ] in
/-- What the near end has sent since is put into flight. -/
theorem moved_eq {ds : List Bytes} (h : w.sent = n.near.sent ++ ds) :
    n.moved w = { n with near := w, out := n.out ++ ds } := by
  simp [Net.moved, h]

theorem good_act (h : n.Good cfg other) {m : Move} (hok : n.Once (false, m)) :
    (n.act hmac m).Good cfg other := by
  obtain ⟨gout, gback, h⟩ := h
  cases m with
  | up =>
    have hnd : n.near.tunnel.sessionsByLocal.keys.Nodup := n.near.tunnel.sessionsByLocal.nodup
    obtain ⟨ds, gout₁, hsent, hinv⟩ := h.starts hmac hf hf' _ hnd fun _ _ => hok
    have hsent' : (eachSession hmac onTunnelEstablished n.near).2.sent = n.near.sent ++ ds := hsent
    simp only [Net.act]
    rw [moved_eq hsent']
    exact ⟨gout₁, gback, hinv.mono fun _ hno => by cases hno⟩
  -- an ID that no session has closes nothing
  | close sid resultCode =>
    simp only [Net.act]
    cases hget : n.near.tunnel.sessionsByLocal.get? sid with
    | none =>
      have hrun : (closeSession hmac sid resultCode n.near).2 = n.near := by
        rw [closeSession, bind_apply_of_ok _ _ (onSession_none (onLocalClose resultCode) hget)]
        rfl
      rw [hrun, moved_eq (List.append_nil _).symm, List.append_nil]
      exact ⟨gout, gback, h⟩
    | some s =>
      obtain ⟨a, ha, rfl, -⟩ := h.near.table sid s hget
      obtain ⟨b, hb, hname, -⟩ := hf.mate a ha
      obtain ⟨ds, gout₁, hsent, hinv⟩ :=
        h.closes_session hf hf' ⟨ha, hb, hname⟩ hget hmac resultCode
      rw [moved_eq hsent]
      exact ⟨gout₁, gback, hinv⟩
  | deliver =>
    simp only [Net.act]
    split
    · exact ⟨gout, gback, h⟩
    · rename_i d ds hback
      rw [hback] at h
      obtain ⟨gback₁, out₁, gout₁, hsent, hinv⟩ := h.delivers hmac hf hf'
      rw [moved_eq hsent]
      exact ⟨gout₁, gback₁, hinv⟩

omit hf hf' [Dataplane δ] in
theorem Net.Good.swap (h : n.Good cfg other) : n.swap.Good other cfg := by
  obtain ⟨gout, gback, h⟩ := h
  exact ⟨gback, gout, h.swap⟩

/-- **A step** of either end. -/
theorem good_step (h : n.Good cfg other) {e : Bool × Move} (hok : n.Once e) :
    (n.step hmac e).Good cfg other := by
  obtain ⟨side, m⟩ := e
  cases side with
  | false => exact good_act hmac hf hf' h hok
  | true =>
    refine (good_act hmac hf' hf h.swap ?_).swap
    cases m with
    | up => exact hok
    | close => trivial
    | deliver => trivial

end Runs

/-- **Session agreement.** Two tunnels whose control connection is up, with sessions configured
for each other: in every state that starts, closes and deliveries lead to, a session that is up
knows the session ID of its mate, and with nothing in flight it is up if and only if its mate
is. -/
theorem sessions_agree (cfg other : TunnelConfigEntry) (hf : Facing cfg other)
    (hf' : Facing other cfg) (x y : World δ) (hx : Fresh cfg x) (hy : Fresh other y) (n : Net δ)
    (hreach : Transition.Reach (Net.step hmac) Net.Once ⟨x, y, [], [], false, false⟩ n)
    (a b : SessionConfigEntry) (ha : a ∈ cfg.sessions) (hb : b ∈ other.sessions)
    (hname : a.name = b.name) : ∃ s t,
      n.near.tunnel.sessionsByLocal.get? a.localSid = some s ∧
      n.far.tunnel.sessionsByLocal.get? b.localSid = some t ∧
      (s.state = .established → s.peerSid = b.localSid) ∧
      (t.state = .established → t.peerSid = a.localSid) ∧
      (n.out = [] → n.back = [] → (s.state = .established ↔ t.state = .established)) := by
  obtain ⟨gout, gback, h⟩ : n.Good cfg other := hreach.invariant (good_init hf hf' hx hy)
    fun n e hn hok => good_step hmac hf hf' hn hok
  have hm : Mates cfg other a b := ⟨ha, hb, hname⟩
  obtain ⟨s, hs⟩ := h.near.full a ha
  obtain ⟨t, ht⟩ := h.far.full b hb
  have hsid : s.config.localSid = a.localSid := by rw [h.near.config hf ha hs]; rfl
  have htid : t.config.localSid = b.localSid := by rw [h.far.config hf' hb ht]; rfl
  -- with nothing in flight no session has anything in flight
  have hquiet : n.out = [] → n.back = [] → gout = [] ∧ gback = [] := by
    intro hout hback
    have hgout := h.out
    have hgback := h.back
    rw [hout] at hgout
    rw [hback] at hgback
    exact ⟨List.forall₂_nil_left_iff.mp hgout, List.forall₂_nil_left_iff.mp hgback⟩
  refine ⟨s, t, hs, ht, ?_⟩
  -- the near session calls, or it is called
  cases hinit : a.initiator with
  | true =>
    have hlink := h.calls a b hm hinit s t hs ht
    refine ⟨fun hup => ?_, fun hup => ?_, fun hout hback => ?_⟩
    · rw [← htid]
      exact of_decide_eq_true (hlink.sound.known hup)
    · rw [← hsid]
      exact hlink.learned (by simp [hup])
    · obtain ⟨rfl, rfl⟩ := hquiet hout hback
      exact hlink.sound.agree rfl rfl
  | false =>
    have hlink := h.called_by hf hf' hm hs hinit ht
    refine ⟨fun hup => ?_, fun hup => ?_, fun hout hback => ?_⟩
    · rw [← htid]
      exact hlink.learned (by simp [hup])
    · rw [← hsid]
      exact of_decide_eq_true (hlink.sound.known hup)
    · obtain ⟨rfl, rfl⟩ := hquiet hout hback
      exact (hlink.sound.agree rfl rfl).symm

/-- The sessions of the first tunnel: it calls the head office and is called by the branch. -/
def callsOffice : SessionConfigEntry where
  name := "office"
  localSid := 11
  pseudowireType := .ethernet

/-- The session that the other end calls. -/
def calledByBranch : SessionConfigEntry where
  name := "branch"
  localSid := 12
  initiator := false
  pseudowireType := .ethernet

/-- Their mates, listed the other way round. -/
def callsBranch : SessionConfigEntry where
  name := "branch"
  localSid := 21
  pseudowireType := .ethernet

/-- The session that the first end calls. -/
def calledByOffice : SessionConfigEntry where
  name := "office"
  localSid := 22
  initiator := false
  pseudowireType := .ethernet

/-- Two tunnels with two sessions each, one called by either side. -/
def leftEnd : TunnelConfigEntry where
  name := "left"
  localAddress := "192.0.2.1"
  remoteAddress := "192.0.2.2"
  localCcid := 100
  hostName := "left"
  routerId := 1
  remoteCcid := 200
  sessions := [callsOffice, calledByBranch]

/-- The other end, with the same names and the roles exchanged. -/
def rightEnd : TunnelConfigEntry where
  name := "right"
  localAddress := "192.0.2.2"
  remoteAddress := "192.0.2.1"
  localCcid := 200
  hostName := "right"
  routerId := 2
  remoteCcid := 100
  sessions := [callsBranch, calledByOffice]

/-- A tunnel whose control connection has just come up, without a dataplane. -/
def upWorld (cfg : TunnelConfigEntry) : World MockDataplane where
  tunnel := { Tunnel.init cfg with fsm := { config := cfg.toConfig, state := .established } }
  dataplane := none
  clock := fun _ => 0

/-- Both calls are set up at once: the ICRQs cross, then the ICRPs and the ICCNs. -/
def setUp : List (Bool × Move) :=
  [(true, .up), (false, .up), (true, .deliver), (false, .deliver), (true, .deliver),
    (false, .deliver), (true, .deliver), (false, .deliver)]

/-- The two ends after a list of moves. -/
def netAfter (cfg other : TunnelConfigEntry) (es : List (Bool × Move)) : Net MockDataplane :=
  es.foldl (Net.step ControlMessage.sumHmac) ⟨upWorld cfg, upWorld other, [], [], false, false⟩

/-- An end whose control connection has just come up. -/
theorem fresh_upWorld {cfg : TunnelConfigEntry} (h : IsU32 cfg.remoteCcid) :
    Fresh cfg (upWorld cfg) :=
  ⟨rfl, ⟨Peer.sound_init .., h⟩, rfl, rfl⟩

/-- Each session of the left end has a mate. -/
theorem facing_left : Facing leftEnd rightEnd :=
  ⟨by decide, by decide, by decide, by decide⟩

/-- Each session of the right end has one. -/
theorem facing_right : Facing rightEnd leftEnd :=
  ⟨by decide, by decide, by decide, by decide⟩

/-- Both calls are up in the end, each with the session ID of its mate: the messages of the one did
not reach the sessions of the other. -/
theorem sessions_agree_setUp :
    (netAfter leftEnd rightEnd setUp).out = [] ∧ (netAfter leftEnd rightEnd setUp).back = [] ∧
    (∃ s t, (netAfter leftEnd rightEnd setUp).near.tunnel.sessionsByLocal.get? 11 = some s ∧
      (netAfter leftEnd rightEnd setUp).far.tunnel.sessionsByLocal.get? 22 = some t ∧
      s.state = .established ∧ t.state = .established ∧ s.peerSid = 22 ∧ t.peerSid = 11) ∧
    ∃ s t, (netAfter leftEnd rightEnd setUp).near.tunnel.sessionsByLocal.get? 12 = some s ∧
      (netAfter leftEnd rightEnd setUp).far.tunnel.sessionsByLocal.get? 21 = some t ∧
      s.state = .established ∧ t.state = .established ∧ s.peerSid = 21 ∧ t.peerSid = 12 := by
  have hrun : Transition.Guarded (Net.step (δ := MockDataplane) ControlMessage.sumHmac) Net.Once
      ⟨upWorld leftEnd, upWorld rightEnd, [], [], false, false⟩ setUp :=
    ⟨rfl, rfl, trivial, trivial, trivial, trivial, trivial, trivial, trivial⟩
  have hreach : Transition.Reach (Net.step ControlMessage.sumHmac) Net.Once
      ⟨upWorld leftEnd, upWorld rightEnd, [], [], false, false⟩
      (netAfter leftEnd rightEnd setUp) := Transition.Reach.start.run hrun
  have hout : (netAfter leftEnd rightEnd setUp).out = [] := by decide +kernel
  have hback : (netAfter leftEnd rightEnd setUp).back = [] := by decide +kernel
  -- the near sessions are up by evaluation, the rest is the agreement of each pair
  have hoffice : ((netAfter leftEnd rightEnd setUp).near.tunnel.sessionsByLocal.get? 11).map
      (·.state) = some .established := by decide +kernel
  have hbranch : ((netAfter leftEnd rightEnd setUp).near.tunnel.sessionsByLocal.get? 12).map
      (·.state) = some .established := by decide +kernel
  refine ⟨hout, hback, ?_, ?_⟩
  · obtain ⟨s, t, hs, ht, hknows, hknown, hagree⟩ := sessions_agree ControlMessage.sumHmac leftEnd
      rightEnd facing_left facing_right _ _ (fresh_upWorld (by decide)) (fresh_upWorld (by decide))
      _ hreach callsOffice calledByOffice (by simp [leftEnd]) (by simp [rightEnd]) rfl
    have hup : s.state = .established := by
      rw [show (netAfter leftEnd rightEnd setUp).near.tunnel.sessionsByLocal.get? 11 = some s
        from hs] at hoffice
      exact Option.some.inj hoffice
    have hup' : t.state = .established := (hagree hout hback).mp hup
    exact ⟨s, t, hs, ht, hup, hup', hknows hup, hknown hup'⟩
  · obtain ⟨s, t, hs, ht, hknows, hknown, hagree⟩ := sessions_agree ControlMessage.sumHmac leftEnd
      rightEnd facing_left facing_right _ _ (fresh_upWorld (by decide)) (fresh_upWorld (by decide))
      _ hreach calledByBranch callsBranch (by simp [leftEnd]) (by simp [rightEnd]) rfl
    have hup : s.state = .established := by
      rw [show (netAfter leftEnd rightEnd setUp).near.tunnel.sessionsByLocal.get? 12 = some s
        from hs] at hbranch
      exact Option.some.inj hbranch
    have hup' : t.state = .established := (hagree hout hback).mp hup
    exact ⟨s, t, hs, ht, hup, hup', hknows hup, hknown hup'⟩

end Agreement

end L2tpv3d
