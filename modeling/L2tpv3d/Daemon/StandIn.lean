import L2tpv3d.Daemon.IpCommand

/-!
# L2tpv3d — the mock as a stand-in for the dataplane that runs `ip`

The same calls are made to a `MockDataplane` and to an `IpCommandDataplane` on a machine that does
what it is asked for whenever it can. The mock refuses to add a tunnel again with other
parameters; `IpCommandDataplane` returns without a word and keeps the old ones.

* `Obliging` — what is assumed of the machine.
* `Both`, `Alike` — the two side by side.
* **`alike_iff`** — they raise on the same calls and hold the same, all along a run, if and only
  if no call of it adds a tunnel that is there with other parameters.
-/

namespace L2tpv3d

open Py Prog

namespace StandIn

/-- The machine adds what is new, a session if its tunnel is there, and deletes or brings up what
exists. -/
structure Obliging (outcome : Nat → List String → Kernel → CompletedProcess) : Prop where
  addTunnel : ∀ n argv k ccid, Request.read argv = some (.addTunnel ccid) →
    ((outcome n argv k).returncode = 0 ↔ ccid ∉ k.tunnels)
  addSession : ∀ n argv k ccid sid name, Request.read argv = some (.addSession ccid sid name) →
    ((outcome n argv k).returncode = 0 ↔
      ccid ∈ k.tunnels ∧ k.sessions.contains (ccid, sid) = false)
  linkUp : ∀ n argv k name, Request.read argv = some (.linkUp name) →
    (∃ key, k.sessions.get? key = some name) → (outcome n argv k).returncode = 0
  delSession : ∀ n argv k ccid sid, Request.read argv = some (.delSession ccid sid) →
    k.sessions.contains (ccid, sid) = true → (outcome n argv k).returncode = 0
  delTunnel : ∀ n argv k ccid, Request.read argv = some (.delTunnel ccid) →
    ccid ∈ k.tunnels → (outcome n argv k).returncode = 0

/-- The two dataplanes, and for every call so far whether the one and the other raised. -/
structure Both where
  mock : MockDataplane := {}
  command : IpCommandDataplane
  raised : List (Bool × Bool) := []

/-- Both take the call, and it is noted which of them raised. -/
def Both.step (b : Both) (call : DataplaneCall) : Both where
  mock := (call.perform b.mock).2
  command := (call.perform b.command).2
  raised := b.raised ++ [(!(call.perform b.mock).1.isOk, !(call.perform b.command).1.isOk)]

/-- They raised on the same calls, and hold the same tunnels and sessions, parameters included. -/
structure Alike (b : Both) : Prop where
  raised : ∀ r ∈ b.raised, r.1 = r.2
  tunnels : b.command.tunnels = b.mock.tunnels
  sessions : b.command.sessions = b.mock.sessions

/-- A tunnel is added that is there with other parameters. -/
def Conflicts (mock : MockDataplane) : DataplaneCall → Prop
  | .addTunnel params => ∃ existing, mock.tunnels.get? params.localCcid = some existing ∧
      ¬ existing.Same params
  | _ => False

/-- What the two have in common, all along a run. -/
structure Matched (outcome : Nat → List String → Kernel → CompletedProcess) (b : Both) : Prop
    extends Alike b where
  tracked : b.command.Tracked
  machine : b.command.host.outcome = outcome

section Matched

variable {outcome : Nat → List String → Kernel → CompletedProcess} {b : Both}

/-- The machine behind the commands is the one the run began with. -/
theorem Matched.obliging (h : Matched outcome b) (ho : Obliging outcome) :
    Obliging b.command.host.outcome := by
  rw [h.machine]
  exact ho

/-- The calls end the same way, and the objects hold the same afterwards. -/
theorem Matched.next (h : Matched outcome b) {call : DataplaneCall} {x y : Except Exn Unit}
    {mock : MockDataplane} {command : IpCommandDataplane} (hmock : call.perform b.mock = (x, mock))
    (hcommand : call.perform b.command = (y, command)) (hraised : x.isOk = y.isOk)
    (htunnels : command.tunnels = mock.tunnels) (hsessions : command.sessions = mock.sessions)
    (hmachine : command.host.outcome = b.command.host.outcome)
    (hno : ¬ b.command.Loses call) : Matched outcome (b.step call) := by
  have htracked := h.tracked.step hno
  rw [IpCommandDataplane.step, hcommand] at htracked
  have hstep : b.step call = ⟨mock, command, b.raised ++ [(!x.isOk, !y.isOk)]⟩ := by
    rw [Both.step, hmock, hcommand]
  rw [hstep]
  refine ⟨⟨fun r hr => ?_, htunnels, hsessions⟩, htracked, hmachine.trans h.machine⟩
  rcases List.mem_append.mp hr with hold | hnew
  · exact h.raised r hold
  · obtain rfl := List.mem_singleton.mp hnew
    simp [hraised]

/-- A tunnel that is new, or added again with the same parameters. -/
theorem Matched.addTunnel (h : Matched outcome b) (ho : Obliging outcome) {params : TunnelParams}
    (hno : ¬ Conflicts b.mock (.addTunnel params)) :
    Matched outcome (b.step (.addTunnel params)) := by
  cases hget : b.mock.tunnels.get? params.localCcid with
  | some existing =>
    -- the same parameters again
    have hsame : existing.Same params := by
      by_contra hne
      exact hno ⟨existing, hget, hne⟩
    have hmock : MockDataplane.addTunnel params b.mock = (.ok (), b.mock) := by
      simp [MockDataplane.addTunnel, hget, hsame]
    rcases IpCommandDataplane.addTunnel_cases params b.command with ⟨-, hrun⟩ | ⟨hnew, -⟩
    · exact h.next hmock hrun rfl h.tunnels h.sessions rfl id
    · simp [h.tunnels, Dict.contains, hget] at hnew
  | none =>
    have hmock : MockDataplane.addTunnel params b.mock = (.ok (), { b.mock with
        calls := b.mock.calls ++ [.addTunnel params]
        tunnels := b.mock.tunnels.set params.localCcid params }) := by
      simp [MockDataplane.addTunnel, hget]
    have hnew : b.command.tunnels.contains params.localCcid = false := by
      simp [h.tunnels, Dict.contains, hget]
    have hok : b.command.Succeeds (IpCommandDataplane.addTunnelArgv b.command.ip params) := by
      refine ((h.obliging ho).addTunnel _ _ _ _ (IpCommandDataplane.read_addTunnel _ _)).mpr ?_
      rw [h.tracked.tunnels, hnew]
      exact Bool.false_ne_true
    -- the command is run, and succeeds
    rcases IpCommandDataplane.addTunnel_cases params b.command with
      ⟨hin, -⟩ | ⟨-, ⟨hfail, -⟩ | ⟨-, hrun⟩⟩
    · rw [hnew] at hin
      cases hin
    · exact absurd hok hfail
    · refine h.next hmock hrun rfl ?_ h.sessions rfl id
      show b.command.tunnels.set _ _ = b.mock.tunnels.set _ _
      rw [h.tunnels]

/-- The mock raises, and the first command fails. -/
theorem Matched.addSession_refused (h : Matched outcome b) {params : SessionParams} {e : Exn}
    (hmock : MockDataplane.addSession params b.mock = (.error e, b.mock))
    (hfail : ¬ b.command.Succeeds (IpCommandDataplane.addSessionArgv b.command.ip params)) :
    Matched outcome (b.step (.addSession params)) := by
  rcases IpCommandDataplane.addSession_cases params b.command with ⟨-, e', hrun⟩ | ⟨hok, -⟩
  · refine h.next (bind_apply_of_error _ _ hmock) (bind_apply_of_error _ _ hrun) rfl h.tunnels
      h.sessions rfl ?_
    rintro ⟨-, hok, -⟩
    exact hfail hok
  · exact absurd hok hfail

/-- A session for which both look for the tunnel and for the place. -/
theorem Matched.addSession (h : Matched outcome b) (ho : Obliging outcome)
    (params : SessionParams) : Matched outcome (b.step (.addSession params)) := by
  have hiff : b.command.Succeeds (IpCommandDataplane.addSessionArgv b.command.ip params) ↔
      b.mock.tunnels.contains params.localCcid = true ∧
      b.mock.sessions.contains (params.localCcid, params.localSid) = false := by
    have hkernel := (h.obliging ho).addSession b.command.host.invocations _ b.command.host.kernel
      _ _ _ (IpCommandDataplane.read_addSession b.command.ip params)
    rw [h.tracked.tunnels, Bool.eq_false_iff, Ne, h.tracked.sessions, h.tunnels, h.sessions,
      ← Ne, ← Bool.eq_false_iff] at hkernel
    exact hkernel
  cases hin : b.mock.sessions.contains (params.localCcid, params.localSid) with
  | true =>
    refine h.addSession_refused (by simp [MockDataplane.addSession, hin]; rfl) fun hok => ?_
    rw [hin] at hiff
    cases (hiff.mp hok).2
  | false =>
    cases htun : b.mock.tunnels.contains params.localCcid with
    | false =>
      refine h.addSession_refused (by simp [MockDataplane.addSession, hin, htun]; rfl) fun hok => ?_
      rw [htun] at hiff
      cases (hiff.mp hok).1
    | true =>
      have hmock : MockDataplane.addSession params b.mock = (.ok params.ifname, { b.mock with
          calls := b.mock.calls ++ [.addSession params]
          sessions := b.mock.sessions.set (params.localCcid, params.localSid) params }) := by
        simp [MockDataplane.addSession, hin, htun]
      have hok := hiff.mpr ⟨htun, hin⟩
      -- the netdev that the first command made is there to be brought up
      have hlink : (b.command.ran (IpCommandDataplane.addSessionArgv b.command.ip params)).Succeeds
          (IpCommandDataplane.linkUpArgv b.command.ip params.ifname) := by
        refine (h.obliging ho).linkUp _ _ _ _ (IpCommandDataplane.read_linkUp _ _)
          ⟨(params.localCcid, params.localSid), ?_⟩
        rw [IpCommandDataplane.kernel_ran hok (IpCommandDataplane.read_addSession _ _)]
        exact Dict.get?_set_self _ _ _
      -- the first command fails, the second one does, or both succeed
      rcases IpCommandDataplane.addSession_cases params b.command with
        ⟨hfail, -⟩ | ⟨-, ⟨hdown, -⟩ | ⟨-, hrun⟩⟩
      · exact absurd hok hfail
      · exact absurd hlink hdown
      · refine h.next (bind_apply_of_ok _ _ hmock) (bind_apply_of_ok _ _ hrun) rfl h.tunnels ?_ rfl ?_
        · show b.command.sessions.set _ _ = b.mock.sessions.set _ _
          rw [h.sessions]
        · rintro ⟨-, -, hdown⟩
          exact hdown hlink

/-- A session that is unknown is passed over by both. -/
theorem Matched.delSession (h : Matched outcome b) (ho : Obliging outcome)
    (localCcid localSid : Int) : Matched outcome (b.step (.delSession localCcid localSid)) := by
  -- unknown, a command that fails, and one that succeeds
  rcases IpCommandDataplane.delSession_cases localCcid localSid b.command with
    ⟨hnot, hrun⟩ | ⟨hin, ⟨hfail, -⟩ | ⟨-, hrun⟩⟩
  · have hmock : MockDataplane.delSession localCcid localSid b.mock = (.ok (), b.mock) := by
      rw [h.sessions] at hnot
      simp [MockDataplane.delSession, hnot]
    exact h.next hmock hrun rfl h.tunnels h.sessions rfl id
  · refine absurd ((h.obliging ho).delSession _ _ _ _ _
      (IpCommandDataplane.read_delSession _ _ _) ?_) hfail
    exact (h.tracked.sessions _).mpr hin
  · have hmock : MockDataplane.delSession localCcid localSid b.mock = (.ok (), { b.mock with
        calls := b.mock.calls ++ [.delSession localCcid localSid]
        sessions := b.mock.sessions.erase (localCcid, localSid) }) := by
      rw [h.sessions] at hin
      simp [MockDataplane.delSession, hin]
    refine h.next hmock hrun rfl h.tunnels ?_ rfl id
    show b.command.sessions.erase _ = b.mock.sessions.erase _
    rw [h.sessions]

/-- A tunnel with live sessions is refused by both. -/
theorem Matched.delTunnel (h : Matched outcome b) (ho : Obliging outcome) (localCcid : Int) :
    Matched outcome (b.step (.delTunnel localCcid)) := by
  have hlive : b.command.live localCcid = b.mock.sessions.keys.filter fun k => k.1 == localCcid := by
    rw [IpCommandDataplane.live, h.sessions]
  -- unknown, still in use, a command that fails, and one that succeeds
  rcases IpCommandDataplane.delTunnel_cases localCcid b.command with
    ⟨hnot, hrun⟩ | ⟨hin, hlive', e, hrun⟩ | ⟨hin, hgone, ⟨hfail, -⟩ | ⟨-, hrun⟩⟩
  · have hmock : MockDataplane.delTunnel localCcid b.mock = (.ok (), b.mock) := by
      rw [h.tunnels] at hnot
      simp [MockDataplane.delTunnel, hnot]
    exact h.next hmock hrun rfl h.tunnels h.sessions rfl id
  · obtain ⟨e', hmock⟩ : ∃ e', MockDataplane.delTunnel localCcid b.mock = (.error e', b.mock) := by
      rw [h.tunnels] at hin
      rw [hlive] at hlive'
      simp only [MockDataplane.delTunnel, get_bind_apply, hin, Bool.true_eq_false, if_false,
        if_pos hlive']
      exact ⟨_, rfl⟩
    exact h.next hmock hrun rfl h.tunnels h.sessions rfl id
  · refine absurd ((h.obliging ho).delTunnel _ _ _ _ (IpCommandDataplane.read_delTunnel _ _) ?_) hfail
    exact (h.tracked.tunnels _).mpr hin
  · have hmock : MockDataplane.delTunnel localCcid b.mock = (.ok (), { b.mock with
        calls := b.mock.calls ++ [.delTunnel localCcid]
        tunnels := b.mock.tunnels.erase localCcid }) := by
      rw [h.tunnels] at hin
      rw [hlive] at hgone
      simp [MockDataplane.delTunnel, hin, hgone]
    refine h.next hmock hrun rfl ?_ h.sessions rfl id
    show b.command.tunnels.erase _ = b.mock.tunnels.erase _
    rw [h.tunnels]

theorem Matched.start (ip : String)
    (outcome : Nat → List String → Kernel → CompletedProcess) :
    Matched outcome { command := { ip, host := { outcome } } } :=
  ⟨⟨nofun, rfl, rfl⟩, .empty, rfl⟩

/-- **One call.** -/
theorem Matched.step (h : Matched outcome b) (ho : Obliging outcome) {call : DataplaneCall}
    (hno : ¬ Conflicts b.mock call) : Matched outcome (b.step call) := by
  cases call with
  | addTunnel params => exact h.addTunnel ho hno
  | addSession params => exact h.addSession ho params
  | delSession localCcid localSid => exact h.delSession ho localCcid localSid
  | delTunnel localCcid => exact h.delTunnel ho localCcid

/-- The mock raises on a conflict, and the other does not. -/
theorem Alike.conflict (h : Alike b) {call : DataplaneCall} (hconflict : Conflicts b.mock call) :
    ¬ Alike (b.step call) := by
  cases call with
  | addTunnel params =>
    obtain ⟨existing, hget, hne⟩ := hconflict
    obtain ⟨e, hmock⟩ : ∃ e, MockDataplane.addTunnel params b.mock = (.error e, b.mock) := by
      simp only [MockDataplane.addTunnel, get_bind_apply, hget, if_pos hne]
      exact ⟨_, rfl⟩
    -- the tunnel is there, so no command is run
    rcases IpCommandDataplane.addTunnel_cases params b.command with ⟨-, hrun⟩ | ⟨hnew, -⟩
    · intro halike
      have hmem : (true, false) ∈ (b.step (.addTunnel params)).raised := by
        rw [Both.step, show DataplaneCall.perform (.addTunnel params) b.mock = _ from hmock,
          show DataplaneCall.perform (.addTunnel params) b.command = _ from hrun]
        exact List.mem_append_right _ (List.mem_singleton.mpr rfl)
      cases halike.raised _ hmem
    · simp [h.tunnels, Dict.contains, hget] at hnew
  | _ => exact hconflict.elim

end Matched

/-- **When the mock is a faithful stand-in.** On a machine that does what it can, the two raise on
the same calls of a run and hold the same after each of them, if and only if no call of it adds a
tunnel that is there with other parameters. `Matched.step` is the one direction, step by step, and
`Alike.conflict` the other. -/
theorem alike_iff (ip : String) {outcome : Nat → List String → Kernel → CompletedProcess}
    (ho : Obliging outcome) (calls : List DataplaneCall) :
    (∀ before, before <+: calls →
      Alike (before.foldl Both.step { command := { ip, host := { outcome } } })) ↔
    Transition.Guarded Both.step (fun b call => ¬ Conflicts b.mock call)
      { command := { ip, host := { outcome } } } calls := by
  refine Transition.guarded_iff_along (I := Matched outcome) (fun _ h => h.toAlike)
    (fun _ _ h hno => h.step ho hno) (fun _ _ h hno => h.toAlike.conflict (not_not.mp hno)) calls ?_
  exact .start ip outcome

/-- Whether a command can be carried out. -/
def possible (k : Kernel) : Request → Bool
  | .addTunnel ccid => ccid ∉ k.tunnels
  | .addSession ccid sid _ => ccid ∈ k.tunnels ∧ k.sessions.contains (ccid, sid) = false
  | .linkUp name => k.sessions.items.any fun item => item.2 = name
  | .delSession ccid sid => k.sessions.contains (ccid, sid)
  | .delTunnel ccid => ccid ∈ k.tunnels

/-- A machine that carries out what it can. -/
def willing (_ : Nat) (argv : List String) (k : Kernel) : CompletedProcess where
  returncode := if (Request.read argv).any (possible k) then 0 else 2

/-- `willing` does what the kernel state allows. -/
theorem obliging_willing : Obliging willing := by
  have hcode : ∀ n argv k request, Request.read argv = some request →
      ((willing n argv k).returncode = 0 ↔ possible k request = true) := by
    intro n argv k request hread
    rw [willing, hread, Option.any_some]
    cases possible k request <;> decide
  -- one promise for each kind of command
  refine ⟨?_, ?_, ?_, ?_, ?_⟩
  · intro n argv k ccid hread
    simpa [possible] using hcode n argv k _ hread
  · intro n argv k ccid sid name hread
    simpa [possible] using hcode n argv k _ hread
  · rintro n argv k name hread ⟨key, hget⟩
    refine (hcode n argv k _ hread).mpr ?_
    simp only [possible, List.any_eq_true, decide_eq_true_eq]
    exact ⟨(key, name), Dict.mem_items_of_get? hget, rfl⟩
  · intro n argv k ccid sid hread hin
    exact (hcode n argv k _ hread).mpr hin
  · intro n argv k ccid hread hin
    exact (hcode n argv k _ hread).mpr (by simpa [possible] using hin)

open IpCommandDataplane (aTunnel aSession)

/-- A session comes and goes. -/
def comeAndGo : List DataplaneCall :=
  [.addTunnel aTunnel, .addSession aSession, .delSession 100 42, .delTunnel 100]

/-- A tunnel and a session that come and go. -/
theorem alike_iff_comeAndGo :
    Alike (comeAndGo.foldl Both.step
      { command := { ip := "/sbin/ip", host := { outcome := willing } } }) := by
  refine (alike_iff "/sbin/ip" obliging_willing comeAndGo).mpr ⟨?_, id, id, id, trivial⟩ _
    (List.prefix_refl _)
  rintro ⟨existing, hget, -⟩
  cases hget

/-- The two with a tunnel. -/
def tunnelled : Both :=
  Both.step { command := { ip := "/sbin/ip", host := { outcome := willing } } } (.addTunnel aTunnel)

/-- The tunnel from another peer. -/
def otherTunnel : TunnelParams := { aTunnel with remoteCcid := 999 }

/-- The mock refuses the other tunnel, and `IpCommandDataplane` takes it for the old one. -/
theorem otherTunnel_unlike :
    ((∃ e, (MockDataplane.addTunnel otherTunnel tunnelled.mock).1 = .error e) ∧
      IpCommandDataplane.addTunnel otherTunnel tunnelled.command = (.ok (), tunnelled.command)) ∧
    ¬ ∀ before, before <+: [.addTunnel aTunnel, .addTunnel otherTunnel] →
      Alike (before.foldl Both.step
        { command := { ip := "/sbin/ip", host := { outcome := willing } } }) := by
  have hmatched : Matched willing tunnelled := by
    refine (Matched.start "/sbin/ip" willing).step obliging_willing ?_
    rintro ⟨existing, hget, -⟩
    cases hget
  have hget : tunnelled.mock.tunnels.get? 100 = some aTunnel := rfl
  refine ⟨⟨⟨_, rfl⟩, ?_⟩, fun hall => ?_⟩
  · rcases IpCommandDataplane.addTunnel_cases otherTunnel tunnelled.command with
      ⟨-, hrun⟩ | ⟨hnew, -⟩
    · exact hrun
    · rw [hmatched.tunnels] at hnew
      cases hnew
  · have hconflict : Conflicts tunnelled.mock (.addTunnel otherTunnel) :=
      ⟨aTunnel, hget, by decide⟩
    exact hmatched.toAlike.conflict hconflict (hall _ (List.prefix_refl _))

end StandIn

end L2tpv3d
