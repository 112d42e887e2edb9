import L2tpv3d.Daemon.Handlers
import L2tpv3d.Fsm.Moves
import L2tpv3d.Wire.CallFields

/-!
# L2tpv3d — the sessions of a tunnel, call by call

A call of a session method and the execution of what it asks for: the session under its key
moves, at most one datagram leaves, the by-remote index learns at most the peer of that session,
and nothing else that the sessions see is touched.

* `Called` — the effect of such a call on the tunnel; `Emission` — on what was sent.
* **`called_session`** — every call has them.
-/

namespace L2tpv3d

open Py Prog

namespace Calls

open Tunnel World SessionFSM

variable {δ : Type} {w w' : World δ} {sid : Int} {s s' : SessionFSM}
  {r : Except Exn (List SessionAction)} {actions : List SessionAction} {out : List Bytes}

/-- What a call that came back with `r` put on the wire: nothing, or the message that it asked
for first, unless that message does not fit. -/
inductive Emission (hmac : Hmac) (cfg : TunnelConfigEntry) :
    Except Exn (List SessionAction) → List Bytes → Prop where
  | silent {res} : Silent res → Emission hmac cfg res []
  | sent {avps rest msg bs} : Silent (.ok rest) → msg.avps = avps → wire hmac cfg msg = .ok bs →
      Emission hmac cfg (.ok (.sendMessage avps :: rest)) [bs]
  | unsent {avps rest} : Silent (.ok rest) → ¬ Regular avps →
      Emission hmac cfg (.ok (.sendMessage avps :: rest)) []

theorem Emission.eq_nil {hmac : Hmac} {cfg : TunnelConfigEntry} (h : Emission hmac cfg r out)
    (hsilent : Silent r) : out = [] := by
  cases h with
  | silent => rfl
  | sent => exact absurd List.mem_cons_self (hsilent _ rfl _)
  | unsent => rfl

/-- **A regular message is emitted.** -/
theorem Emission.of_regular {hmac : Hmac} {cfg : TunnelConfigEntry} {avps : List AVP}
    {rest : List SessionAction} (h : Emission hmac cfg (.ok (.sendMessage avps :: rest)) out)
    (hreg : Regular avps) : ∃ msg bs, ControlMessage.avps msg = avps ∧ wire hmac cfg msg = .ok bs ∧
      out = [bs] := by
  cases h with
  | silent hsilent => exact absurd List.mem_cons_self (hsilent _ rfl avps)
  | sent _ havps hbs => exact ⟨_, _, havps, hbs, rfl⟩
  | unsent _ hirr => exact absurd hreg hirr

/-- The session under `sid` became `s'`, `out` was sent, and the by-remote index has at most
one entry more, the one for `s'`. -/
structure Called (sid : Int) (s' : SessionFSM) (out : List Bytes) (w w' : World δ) : Prop where
  cfg : w'.tunnel.cfg = w.tunnel.cfg
  fsm : w'.tunnel.fsm = w.tunnel.fsm
  ready : w.tunnel.Ready → w'.tunnel.Ready
  byLocal : w'.tunnel.sessionsByLocal = w.tunnel.sessionsByLocal.set sid s'
  byRemote : w'.tunnel.sessionsByRemote = w.tunnel.sessionsByRemote ∨
    (s'.peerSid ≠ 0 ∧ w.tunnel.sessionsByRemote.contains s'.peerSid = false ∧
      w'.tunnel.sessionsByRemote = w.tunnel.sessionsByRemote.set s'.peerSid sid)
  sent : w'.sent = w.sent ++ out

/-- The index entry of `sid` is brought up to date, or not. -/
def Indexes (sid : Int) (f : Tunnel → Tunnel) : Prop :=
  ∀ t s, t.sessionsByLocal.get? sid = some s → f t = t ∨
    (s.peerSid ≠ 0 ∧ t.sessionsByRemote.contains s.peerSid = false ∧
      f t = { t with sessionsByRemote := t.sessionsByRemote.set s.peerSid sid })

/-- Leaving the tunnel alone is such a function. -/
theorem indexes_id (sid : Int) : Indexes sid id := fun _ _ _ => .inl rfl

/-- So is entering the session under the ID of its peer. -/
theorem indexes_indexRemote (sid : Int) : Indexes sid (indexRemote sid) := by
  intro t s hget
  simp only [indexRemote, hget]
  split
  · rename_i h
    exact .inr ⟨h.1, h.2, rfl⟩
  · exact .inl rfl

variable [Dataplane δ] (hmac : Hmac)

/-- Actions without a message send nothing. -/
theorem execute_silent (h : Silent (.ok actions)) (w : World δ) :
    (executeSessionActions hmac actions w).2.sent = w.sent :=
  keeps_executeSessionActions (I := fun v => v.sent = w.sent) hmac (fun _ _ _ _ hv => hv)
    (fun avps hmem => absurd hmem (h actions rfl avps)) w rfl

/-- The execution of a message and of what follows it. -/
theorem execute_send {avps : List AVP} {rest : List SessionAction} (h : Silent (.ok rest))
    (hready : w.tunnel.Ready) : ∃ out,
      (executeSessionActions hmac (.sendMessage avps :: rest) w).2.sent = w.sent ++ out ∧
      Emission hmac w.tunnel.cfg (.ok (.sendMessage avps :: rest)) out := by
  have hrun : executeSessionActions hmac (.sendMessage avps :: rest) w
      = (send hmac avps >>= fun _ => executeSessionActions hmac rest) w := rfl
  -- a regular message goes out, and the actions after it are silent
  by_cases hreg : Regular avps
  · obtain ⟨msg, peer, bs, hsend, hbs, hok⟩ := send_ok hmac hready hreg
    obtain ⟨-, rfl, -⟩ := Peer.send_eq_ok.mp hsend
    refine ⟨[bs], ?_, .sent h rfl hbs⟩
    rw [hrun, bind_apply_of_ok _ _ hok, execute_silent hmac h]
  -- any other one may be refused, stay unsigned, or go out all the same
  · rcases send_cases hmac avps w with ⟨e, -, hfail⟩ | ⟨msg, peer, hsend, ⟨e, -, hfail⟩ |
      ⟨bs, hbs, hok⟩⟩
    · refine ⟨[], ?_, .unsent h hreg⟩
      rw [hrun, bind_apply_of_error _ _ hfail]
      simp [tocked]
    · refine ⟨[], ?_, .unsent h hreg⟩
      rw [hrun, bind_apply_of_error _ _ hfail]
      simp [tocked, withPeer, mapTunnel]
    · obtain ⟨-, rfl, -⟩ := Peer.send_eq_ok.mp hsend
      refine ⟨[bs], ?_, .sent h rfl hbs⟩
      rw [hrun, bind_apply_of_ok _ _ hok, execute_silent hmac h]

/-- Every result of a method sends nothing, or one message first. -/
def OneMessage (r : Except Exn (List SessionAction)) : Prop :=
  Silent r ∨ ∃ avps rest, r = .ok (.sendMessage avps :: rest) ∧ Silent (.ok rest)

/-- **No method makes more than one message**, and it is the first action. -/
theorem oneMessage_of_outcome (h : Outcome s r s') : OneMessage r := by
  have hadd : ∀ p, Silent (.ok [.dataplaneAddSession p, .sessionEstablished]) := by
    rintro p _ ⟨⟩ avps
    simp
  -- by what the method did
  cases h with
  | ignored => exact .inl silent_nil
  | raised => exact .inl (silent_error _)
  | refused => exact .inl (silent_error _)
  | called => exact .inr ⟨_, _, rfl, silent_nil⟩
  | answered => exact .inr ⟨_, _, rfl, silent_nil⟩
  | connected => exact .inr ⟨_, _, rfl, hadd _⟩
  | accepted => exact .inl (hadd _)
  | closed => exact .inr ⟨_, _, rfl, silent_down s _⟩
  | dropped => exact .inl (silent_down s _)

/-- What such a result emits when it is executed. -/
theorem execute_emission (h : OneMessage (.ok actions)) (hready : w.tunnel.Ready) : ∃ out,
    (executeSessionActions hmac actions w).2.sent = w.sent ++ out ∧
      Emission hmac w.tunnel.cfg (.ok actions) out := by
  rcases h with h | ⟨avps, rest, hr, h⟩
  · exact ⟨[], by rw [execute_silent hmac h, List.append_nil], .silent h⟩
  · cases hr
    exact execute_send hmac h hready

/-- **A call of a session**, with what `_execute_actions` makes of the result. -/
theorem called_session {m : Prog SessionFSM (List SessionAction)} (hm : Method m)
    (hget : w.tunnel.sessionsByLocal.get? sid = some s) (hready : w.tunnel.Ready)
    (hcall : m s = (r, s')) {g : Tunnel → Tunnel} (hg : Indexes sid g) :
    ∃ out, Emission hmac w.tunnel.cfg r out ∧
      Called sid s' out w (callSession hmac sid m g w).2 := by
  have hout := hm s
  rw [hcall] at hout
  -- a method that raised emits nothing and is written back all the same
  cases r with
  | error e =>
    rw [callSession_error hmac hget hcall]
    exact ⟨[], .silent (silent_error e), rfl, rfl, fun h => ⟨h.sound, h.remoteCcid⟩, rfl, .inl rfl,
      (List.append_nil _).symm⟩
  | ok actions =>
    have hset : (w.withSession sid s').tunnel.sessionsByLocal.get? sid = some s' :=
      Dict.get?_set_self _ _ _
    -- the world the actions are executed in
    obtain ⟨v, hv, hcfg, hfsm, hpeer, hlocal, hremote, hsent⟩ : ∃ v : World δ,
        (w.withSession sid s').mapTunnel g = v ∧ v.tunnel.cfg = w.tunnel.cfg ∧
        v.tunnel.fsm = w.tunnel.fsm ∧ v.tunnel.peer = w.tunnel.peer ∧
        v.tunnel.sessionsByLocal = w.tunnel.sessionsByLocal.set sid s' ∧
        (v.tunnel.sessionsByRemote = w.tunnel.sessionsByRemote ∨
          (s'.peerSid ≠ 0 ∧ w.tunnel.sessionsByRemote.contains s'.peerSid = false ∧
            v.tunnel.sessionsByRemote = w.tunnel.sessionsByRemote.set s'.peerSid sid)) ∧
        v.sent = w.sent := by
      refine ⟨_, rfl, ?_⟩
      rcases hg (w.withSession sid s').tunnel s' hset with heq | ⟨hne, hfree, heq⟩
      · rw [mapTunnel, heq]
        exact ⟨rfl, rfl, rfl, rfl, .inl rfl, rfl⟩
      · rw [mapTunnel, heq]
        exact ⟨rfl, rfl, rfl, rfl, .inr ⟨hne, hfree, rfl⟩, rfl⟩
    rw [callSession_ok hmac hget hcall, hv]
    have hready' : v.tunnel.Ready := ⟨hpeer ▸ hready.sound, hpeer ▸ hready.remoteCcid⟩
    obtain ⟨out, hout', hem⟩ := execute_emission hmac (oneMessage_of_outcome hout) hready'
    have hex := executed_sessionActions hmac actions v
    refine ⟨out, hcfg ▸ hem, hex.cfg.trans hcfg, hex.fsm.trans hfsm, fun _ => ?_,
      hex.sessionsByLocal.trans hlocal, ?_, by rw [hout', hsent]⟩
    · exact ⟨hex.link.sound hready'.sound, hex.link.remoteCcid ▸ hready'.remoteCcid⟩
    · rw [hex.sessionsByRemote]
      exact hremote

/-- **A message with a session** is a call of `on_message` of that session. -/
theorem called_dispatch {msg : ControlMessage} {mt target key : Int} {endId : Option Bytes}
    (hkeys : sessionKeys mt msg.avps = .ok (target, key, endId))
    (hroute : w.tunnel.route mt target key endId = some sid)
    (hget : w.tunnel.sessionsByLocal.get? sid = some s) (hready : w.tunnel.Ready)
    (hcall : onMessage msg s = (r, s')) : ∃ out, Emission hmac w.tunnel.cfg r out ∧
      Called sid s' out w (dispatchSessionMessage hmac msg mt w).2 := by
  have hget' : (noted w .session msg).tunnel.sessionsByLocal.get? sid = some s := hget
  obtain ⟨out, hem, hcalled⟩ := called_session hmac (method_onMessage msg) hget' hready hcall
    (indexes_indexRemote sid)
  rw [dispatchSessionMessage_routed hmac hkeys hroute]
  exact ⟨out, hem, hcalled.cfg, hcalled.fsm, hcalled.ready, hcalled.byLocal, hcalled.byRemote,
    hcalled.sent⟩

end Calls

end L2tpv3d
