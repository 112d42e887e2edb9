import L2tpv3d.Daemon.Dataplane
import L2tpv3d.Lib.Transition
import L2tpv3d.Py.Text
import Mathlib

/-!
# L2tpv3d — the dataplane that runs `ip` (`dataplane.py`)

`IpCommandDataplane` keeps its own tables of tunnels and sessions and brings them into the kernel
with one or two commands of iproute2 for each call. A command fails and does nothing, or is
carried out; when it fails the call raises, and what it would have written to the tables is not
written.

* `Request` — what a command line asks of the kernel; **`read_addTunnel`** and its siblings read
  the command lines that the dataplane builds.
* `Host` — the machine: its kernel, and how each invocation ends.
* `IpCommandDataplane` — the class; `run_ok`, `run_failed` are all its methods do to the host.
* `Tracked` — the kernel holds what the tables hold.
* **`tracked_iff`** — it does all along a run, if and only if no call adds a session whose netdev
  then cannot be brought up.
-/

namespace L2tpv3d

open Py Prog

/-! ## The kernel

What the commands do to it, as far as the dataplane can see: which tunnels there are, and which
sessions with which netdevs. Everything else about an invocation is left to the machine. -/

/-- The tunnels, and the sessions with the names of their netdevs. -/
structure Kernel where
  tunnels : Finset Int := ∅
  sessions : Dict (Int × Int) String := .empty

/-- What a command line of `ip` asks for. -/
inductive Request where
  | addTunnel (ccid : Int)
  | addSession (ccid sid : Int) (name : String)
  | linkUp (name : String)
  | delSession (ccid sid : Int)
  | delTunnel (ccid : Int)
  deriving DecidableEq

/-- An ID on a command line. -/
def Request.readId (text : String) : Option Int :=
  if text = "True" then some 1 else if text = "False" then some 0 else text.toInt?

/-- A number is read back. -/
@[simp] theorem Request.readId_toString (n : Int) : readId (toString n) = some n := by
  have htrue : toString n ≠ "True" := toString_int_ne (c := 'T') (by decide) rfl (by decide) n
  have hfalse : toString n ≠ "False" := toString_int_ne (c := 'F') (by decide) rfl (by decide) n
  rw [readId, if_neg htrue, if_neg hfalse]
  simp

/-- An ID is read back, whether it is written as a number or as a `bool`. -/
@[simp] theorem Request.readId_intStr (isBool : Bool) (n : Int) :
    readId (intStr isBool n) = some n := by
  unfold intStr
  split
  · rename_i h
    rw [h.2]
    rfl
  · split
    · rename_i h
      rw [h.2]
      rfl
    · exact readId_toString n

/-- The command lines of `ip l2tp` and `ip link`, as far as the kernel state depends on them. -/
def Request.read : List String → Option Request
  | _ :: "l2tp" :: "add" :: "tunnel" :: "remote" :: _ :: "local" :: _ :: "tunnel_id" :: ccid :: _ =>
    (readId ccid).map .addTunnel
  | _ :: "l2tp" :: "add" :: "session" :: "name" :: name :: "tunnel_id" :: ccid ::
      "session_id" :: sid :: _ => do return .addSession (← readId ccid) (← readId sid) name
  | [_, "link", "set", "dev", name, "up"] => some (.linkUp name)
  | [_, "l2tp", "del", "session", "tunnel_id", ccid, "session_id", sid] => do
    return .delSession (← readId ccid) (← readId sid)
  | [_, "l2tp", "del", "tunnel", "tunnel_id", ccid] => (readId ccid).map .delTunnel
  | _ => none

/-- The effect of a command that succeeds. -/
def Kernel.perform (k : Kernel) : Request → Kernel
  | .addTunnel ccid => { k with tunnels := insert ccid k.tunnels }
  | .addSession ccid sid name => { k with sessions := k.sessions.set (ccid, sid) name }
  | .linkUp _ => k
  | .delSession ccid sid => { k with sessions := k.sessions.erase (ccid, sid) }
  | .delTunnel ccid => { k with tunnels := k.tunnels.erase ccid }

/-- `subprocess.CompletedProcess` -/
structure CompletedProcess where
  returncode : Int
  stdout : String := ""
  stderr : String := ""

/-- The machine that the commands run on. How an invocation ends may depend on how many there were
before it, on the command line and on the kernel. -/
structure Host where
  outcome : Nat → List String → Kernel → CompletedProcess
  invocations : Nat := 0
  kernel : Kernel := {}

namespace Host

/-- How the next invocation ends. -/
def next (self : Host) (argv : List String) : CompletedProcess :=
  self.outcome self.invocations argv self.kernel

/-- The machine after an invocation: one that fails has no effect. -/
def after (self : Host) (argv : List String) : Host where
  outcome := self.outcome
  invocations := self.invocations + 1
  kernel := if (self.next argv).returncode = 0 then
      (Request.read argv).elim self.kernel self.kernel.perform
    else self.kernel

end Host

/-- `subprocess.run` -/
def subprocessRun (argv : List String) : Prog Host CompletedProcess := fun self =>
  (.ok (self.next argv), self.after argv)

/-! ## The class

The methods of the class, with the tables they keep. `_run` raises on an exit status other than
zero, and the statements behind it are then not reached. -/

/-- `IpCommandDataplane`, on its machine -/
structure IpCommandDataplane where
  /-- `_ip`: where `ip` is. -/
  ip : String
  tunnels : Dict Int TunnelParams := .empty
  sessions : Dict (Int × Int) SessionParams := .empty
  host : Host

namespace IpCommandDataplane

open MockDataplane (dataplaneError)

/-- `_run` -/
def run (argv : List String) (op : String) : Prog IpCommandDataplane Unit := do
  let r ← zoom host (fun host self => { self with host }) (subprocessRun argv)
  if r.returncode ≠ 0 then
    let rc := r.returncode
    let said := if strStrip r.stderr ≠ "" then strStrip r.stderr
      else if strStrip r.stdout ≠ "" then strStrip r.stdout else "<no output>"
    raise (dataplaneError s!"{op} failed (rc={rc}): {said}")
  else return ()

/-- `ip l2tp add tunnel`: the UDP ports stand there for the `udp` encapsulation only. -/
def addTunnelArgv (ip : String) (params : TunnelParams) : List String :=
  [ip, "l2tp", "add", "tunnel", "remote", params.remoteAddress, "local", params.localAddress,
    "tunnel_id", intStr params.localCcidIsBool params.localCcid,
    "peer_tunnel_id", toString params.remoteCcid,
    "encap", params.encap] ++
  (if params.encap = "udp" then
    ["udp_sport", toString params.udpSport, "udp_dport", toString params.udpDport] else [])

/-- `ip l2tp add session`, with the cookies and the layer-2 header where the parameters have them.
-/
def addSessionArgv (ip : String) (params : SessionParams) : List String :=
  [ip, "l2tp", "add", "session", "name", params.ifname,
    "tunnel_id", intStr params.localCcidIsBool params.localCcid,
    "session_id", intStr params.localSidIsBool params.localSid,
    "peer_session_id", toString params.remoteSid] ++
  (match params.cookie with | none => [] | some cookie => ["cookie", bytesHex cookie]) ++
  (match params.peerCookie with | none => [] | some cookie => ["peer_cookie", bytesHex cookie]) ++
  (if params.l2specType ≠ "" then ["l2spec_type", params.l2specType] else [])

/-- `ip link set dev ... up`. -/
def linkUpArgv (ip ifname : String) : List String := [ip, "link", "set", "dev", ifname, "up"]

/-- `ip l2tp del session`. -/
def delSessionArgv (ip : String) (localCcid localSid : Int) : List String :=
  [ip, "l2tp", "del", "session", "tunnel_id", toString localCcid, "session_id", toString localSid]

/-- `ip l2tp del tunnel`. -/
def delTunnelArgv (ip : String) (localCcid : Int) : List String :=
  [ip, "l2tp", "del", "tunnel", "tunnel_id", toString localCcid]

/-- `add_tunnel()`: a tunnel that the table has already is left alone. -/
def addTunnel (params : TunnelParams) : Prog IpCommandDataplane Unit := do
  let self ← get
  if self.tunnels.contains params.localCcid then return ()
  else
    run (addTunnelArgv self.ip params) "add_tunnel"
    modify fun self => { self with tunnels := self.tunnels.set params.localCcid params }

/-- `add_session()`: two commands, and the table is written after both. -/
def addSession (params : SessionParams) : Prog IpCommandDataplane String := do
  let self ← get
  run (addSessionArgv self.ip params) "add_session"
  -- bring the netdev up
  run (linkUpArgv self.ip params.ifname) "link_up"
  modify fun self => { self with
    sessions := self.sessions.set (params.localCcid, params.localSid) params }
  return params.ifname

/-- `del_session()`: a session that the table does not have is left alone. -/
def delSession (localCcid localSid : Int) : Prog IpCommandDataplane Unit := do
  let self ← get
  let key := (localCcid, localSid)
  if self.sessions.contains key = false then return ()
  else
    run (delSessionArgv self.ip localCcid localSid) "del_session"
    modify fun self => { self with sessions := self.sessions.erase key }

/-- `del_tunnel()`: refused while the table has a session of the tunnel. -/
def delTunnel (localCcid : Int) : Prog IpCommandDataplane Unit := do
  let self ← get
  if self.tunnels.contains localCcid = false then return ()
  else
    let live := self.sessions.keys.filter fun k => k.1 == localCcid
    if live ≠ [] then
      raise (dataplaneError s!"del_tunnel({localCcid}): sessions still live: {live}")
    else
      run (delTunnelArgv self.ip localCcid) "del_tunnel"
      modify fun self => { self with tunnels := self.tunnels.erase localCcid }

instance : Dataplane IpCommandDataplane where
  addTunnel := addTunnel
  addSession := addSession
  delSession := delSession
  delTunnel := delTunnel

/-! ## What a command does

The command lines are built from numbers and texts and read again by the kernel, so what a call asks
for is what it was given. -/

/-- The kernel reads the tunnel's ID back out of the command line. -/
theorem read_addTunnel (ip : String) (params : TunnelParams) :
    Request.read (addTunnelArgv ip params) = some (.addTunnel params.localCcid) := by
  simp [addTunnelArgv, Request.read]

/-- The kernel reads both IDs and the name back out of the command line. -/
theorem read_addSession (ip : String) (params : SessionParams) :
    Request.read (addSessionArgv ip params)
      = some (.addSession params.localCcid params.localSid params.ifname) := by
  simp [addSessionArgv, Request.read]

/-- The kernel reads the interface's name back. -/
theorem read_linkUp (ip ifname : String) :
    Request.read (linkUpArgv ip ifname) = some (.linkUp ifname) := by
  simp [linkUpArgv, Request.read]

/-- The kernel reads back which session to delete. -/
theorem read_delSession (ip : String) (localCcid localSid : Int) :
    Request.read (delSessionArgv ip localCcid localSid) = some (.delSession localCcid localSid) := by
  rw [delSessionArgv, Request.read, Request.readId_toString, Request.readId_toString]
  rfl

/-- The kernel reads back which tunnel to delete. -/
theorem read_delTunnel (ip : String) (localCcid : Int) :
    Request.read (delTunnelArgv ip localCcid) = some (.delTunnel localCcid) := by
  rw [delTunnelArgv, Request.read, Request.readId_toString]
  rfl

/-- The object after its machine ran a command. -/
def ran (self : IpCommandDataplane) (argv : List String) : IpCommandDataplane :=
  { self with host := self.host.after argv }

/-- The next invocation succeeds. -/
def Succeeds (self : IpCommandDataplane) (argv : List String) : Prop :=
  (self.host.next argv).returncode = 0

instance (self : IpCommandDataplane) (argv : List String) : Decidable (self.Succeeds argv) :=
  inferInstanceAs (Decidable (_ = _))

variable {self : IpCommandDataplane} {argv : List String}

/-- A command that succeeds does to the kernel what its line says. -/
theorem kernel_ran {request : Request} (h : self.Succeeds argv)
    (hread : Request.read argv = some request) :
    (self.ran argv).host.kernel = self.host.kernel.perform request := by
  have hok : (self.host.next argv).returncode = 0 := h
  simp [ran, Host.after, hok, hread]

/-- A command that fails does nothing to the kernel. -/
theorem kernel_ran_failed (h : ¬ self.Succeeds argv) :
    (self.ran argv).host.kernel = self.host.kernel := if_neg h

/-- `_run()` returns when the command's exit status is 0. -/
theorem run_ok (op : String) (h : self.Succeeds argv) :
    run argv op self = (.ok (), self.ran argv) := by
  have hok : (self.host.next argv).returncode = 0 := h
  rw [run, bind_apply_of_ok _ _ (show zoom host (fun host self => { self with host })
    (subprocessRun argv) self = (.ok (self.host.next argv), self.ran argv) from rfl)]
  simp [hok]

/-- `_run()` raises when it is not, and the command has been run all the same. -/
theorem run_failed (op : String) (h : ¬ self.Succeeds argv) :
    ∃ e, run argv op self = (.error e, self.ran argv) := by
  have hno : (self.host.next argv).returncode ≠ 0 := h
  rw [run, bind_apply_of_ok _ _ (show zoom host (fun host self => { self with host })
    (subprocessRun argv) self = (.ok (self.host.next argv), self.ran argv) from rfl)]
  simp only [if_pos hno, raise_apply]
  exact ⟨_, rfl⟩

/-! ## What a call does

One specification for each method: the cases are the points at which it can stop. -/

/-- What `add_tunnel()` can do: nothing, run a command that fails, or run one that succeeds and
write the table. -/
theorem addTunnel_cases (params : TunnelParams) (self : IpCommandDataplane) :
    (self.tunnels.contains params.localCcid = true ∧ addTunnel params self = (.ok (), self)) ∨
    (self.tunnels.contains params.localCcid = false ∧
      ((¬ self.Succeeds (addTunnelArgv self.ip params) ∧
        ∃ e, addTunnel params self = (.error e, self.ran (addTunnelArgv self.ip params))) ∨
      (self.Succeeds (addTunnelArgv self.ip params) ∧ addTunnel params self =
        (.ok (), { self.ran (addTunnelArgv self.ip params) with
          tunnels := self.tunnels.set params.localCcid params })))) := by
  cases hin : self.tunnels.contains params.localCcid with
  | true => exact .inl ⟨rfl, by simp [addTunnel, hin]⟩
  | false =>
    refine .inr ⟨rfl, ?_⟩
    -- an unknown tunnel: the command decides
    by_cases hok : self.Succeeds (addTunnelArgv self.ip params)
    · refine .inr ⟨hok, ?_⟩
      have hrun := run_ok "add_tunnel" hok
      simp only [addTunnel, get_bind_apply, hin, Bool.false_eq_true, if_false]
      rw [bind_apply_of_ok _ _ hrun]
      rfl
    · obtain ⟨e, hrun⟩ := run_failed "add_tunnel" hok
      refine .inl ⟨hok, e, ?_⟩
      simp only [addTunnel, get_bind_apply, hin, Bool.false_eq_true, if_false]
      exact bind_apply_of_error _ _ hrun

/-- What `add_session()` can do: fail at the first command, fail at the second one, or write the
table. At the second failure the session is in the kernel. -/
theorem addSession_cases (params : SessionParams) (self : IpCommandDataplane) :
    let added := self.ran (addSessionArgv self.ip params)
    (¬ self.Succeeds (addSessionArgv self.ip params) ∧
      ∃ e, addSession params self = (.error e, added)) ∨
    (self.Succeeds (addSessionArgv self.ip params) ∧
      ((¬ added.Succeeds (linkUpArgv self.ip params.ifname) ∧
        ∃ e, addSession params self = (.error e, added.ran (linkUpArgv self.ip params.ifname))) ∨
      (added.Succeeds (linkUpArgv self.ip params.ifname) ∧ addSession params self =
        (.ok params.ifname, { added.ran (linkUpArgv self.ip params.ifname) with
          sessions := self.sessions.set (params.localCcid, params.localSid) params })))) := by
  intro added
  by_cases hok : self.Succeeds (addSessionArgv self.ip params)
  · refine .inr ⟨hok, ?_⟩
    have hrun := run_ok "add_session" hok
    -- the session is in the kernel, the link is not up yet
    by_cases hlink : added.Succeeds (linkUpArgv self.ip params.ifname)
    · refine .inr ⟨hlink, ?_⟩
      rw [addSession, get_bind_apply, bind_apply_of_ok _ _ hrun,
        bind_apply_of_ok _ _ (run_ok "link_up" hlink)]
      rfl
    · obtain ⟨e, hlink'⟩ := run_failed "link_up" hlink
      refine .inl ⟨hlink, e, ?_⟩
      rw [addSession, get_bind_apply, bind_apply_of_ok _ _ hrun]
      exact bind_apply_of_error _ _ hlink'
  · obtain ⟨e, hrun⟩ := run_failed "add_session" hok
    refine .inl ⟨hok, e, ?_⟩
    rw [addSession, get_bind_apply]
    exact bind_apply_of_error _ _ hrun

/-- What `del_session()` can do, told as for `add_tunnel()`. -/
theorem delSession_cases (localCcid localSid : Int) (self : IpCommandDataplane) :
    (self.sessions.contains (localCcid, localSid) = false ∧
      delSession localCcid localSid self = (.ok (), self)) ∨
    (self.sessions.contains (localCcid, localSid) = true ∧
      ((¬ self.Succeeds (delSessionArgv self.ip localCcid localSid) ∧
        ∃ e, delSession localCcid localSid self =
          (.error e, self.ran (delSessionArgv self.ip localCcid localSid))) ∨
      (self.Succeeds (delSessionArgv self.ip localCcid localSid) ∧
        delSession localCcid localSid self =
          (.ok (), { self.ran (delSessionArgv self.ip localCcid localSid) with
            sessions := self.sessions.erase (localCcid, localSid) })))) := by
  cases hin : self.sessions.contains (localCcid, localSid) with
  | false => exact .inl ⟨rfl, by simp [delSession, hin]⟩
  | true =>
    refine .inr ⟨rfl, ?_⟩
    by_cases hok : self.Succeeds (delSessionArgv self.ip localCcid localSid)
    · refine .inr ⟨hok, ?_⟩
      have hrun := run_ok "del_session" hok
      simp only [delSession, get_bind_apply, hin, Bool.true_eq_false, if_false]
      rw [bind_apply_of_ok _ _ hrun]
      rfl
    · obtain ⟨e, hrun⟩ := run_failed "del_session" hok
      refine .inl ⟨hok, e, ?_⟩
      simp only [delSession, get_bind_apply, hin, Bool.true_eq_false, if_false]
      exact bind_apply_of_error _ _ hrun

/-- The sessions of a tunnel that are still there. -/
def live (self : IpCommandDataplane) (localCcid : Int) : List (Int × Int) :=
  self.sessions.keys.filter fun k => k.1 == localCcid

/-- What `del_tunnel()` can do: one more case, where a session is live. -/
theorem delTunnel_cases (localCcid : Int) (self : IpCommandDataplane) :
    (self.tunnels.contains localCcid = false ∧ delTunnel localCcid self = (.ok (), self)) ∨
    (self.tunnels.contains localCcid = true ∧ self.live localCcid ≠ [] ∧
      ∃ e, delTunnel localCcid self = (.error e, self)) ∨
    (self.tunnels.contains localCcid = true ∧ self.live localCcid = [] ∧
      ((¬ self.Succeeds (delTunnelArgv self.ip localCcid) ∧ ∃ e, delTunnel localCcid self =
        (.error e, self.ran (delTunnelArgv self.ip localCcid))) ∨
      (self.Succeeds (delTunnelArgv self.ip localCcid) ∧ delTunnel localCcid self =
        (.ok (), { self.ran (delTunnelArgv self.ip localCcid) with
          tunnels := self.tunnels.erase localCcid })))) := by
  cases hin : self.tunnels.contains localCcid with
  | false => exact .inl ⟨rfl, by simp [delTunnel, hin]⟩
  | true =>
    by_cases hlive : self.live localCcid = []
    · refine .inr (.inr ⟨rfl, hlive, ?_⟩)
      have hno : ¬ (self.sessions.keys.filter fun k => k.1 == localCcid) ≠ [] := not_not.mpr hlive
      by_cases hok : self.Succeeds (delTunnelArgv self.ip localCcid)
      · refine .inr ⟨hok, ?_⟩
        have hrun := run_ok "del_tunnel" hok
        simp only [delTunnel, get_bind_apply, hin, Bool.true_eq_false, if_false, if_neg hno]
        rw [bind_apply_of_ok _ _ hrun]
        rfl
      · obtain ⟨e, hrun⟩ := run_failed "del_tunnel" hok
        refine .inl ⟨hok, e, ?_⟩
        simp only [delTunnel, get_bind_apply, hin, Bool.true_eq_false, if_false, if_neg hno]
        exact bind_apply_of_error _ _ hrun
    · have hno : (self.sessions.keys.filter fun k => k.1 == localCcid) ≠ [] := hlive
      -- a live session: it raises before any command
      refine .inr (.inl ⟨rfl, hlive, ?_⟩)
      simp only [delTunnel, get_bind_apply, hin, Bool.true_eq_false, if_false, if_pos hno]
      exact ⟨_, rfl⟩

end IpCommandDataplane

/-! ## What the kernel holds

The tables and the kernel agree as long as each call either does both or neither. The exception is a
session that the kernel has added when the second command fails. -/

/-- The kernel holds the tunnels and the sessions of the tables, and no others. -/
structure Kernel.Holds (k : Kernel) (tunnels : Dict Int TunnelParams)
    (sessions : Dict (Int × Int) SessionParams) : Prop where
  tunnels : ∀ ccid, ccid ∈ k.tunnels ↔ tunnels.contains ccid = true
  sessions : ∀ key, k.sessions.contains key = true ↔ sessions.contains key = true

namespace Kernel.Holds

variable {k : Kernel} {tunnels : Dict Int TunnelParams}
  {sessions : Dict (Int × Int) SessionParams}

/-- An empty kernel holds what empty tables hold. -/
theorem empty : ({} : Kernel).Holds .empty .empty :=
  ⟨fun _ => by simp [Dict.contains], fun _ => Iff.rfl⟩

/-- A tunnel added on both sides. -/
theorem addTunnel (h : k.Holds tunnels sessions) (params : TunnelParams) :
    (k.perform (.addTunnel params.localCcid)).Holds (tunnels.set params.localCcid params)
      sessions := by
  refine ⟨fun ccid => ?_, h.sessions⟩
  rw [Dict.contains_set, ← h.tunnels]
  exact Finset.mem_insert

/-- A session added on both sides. -/
theorem addSession (h : k.Holds tunnels sessions) (params : SessionParams) :
    (k.perform (.addSession params.localCcid params.localSid params.ifname)).Holds tunnels
      (sessions.set (params.localCcid, params.localSid) params) := by
  refine ⟨h.tunnels, fun key => ?_⟩
  rw [Dict.contains_set, ← h.sessions]
  exact Dict.contains_set

/-- A session that is in the tables may be added to the kernel again. -/
theorem addSession_again (h : k.Holds tunnels sessions) {params : SessionParams}
    (hin : sessions.contains (params.localCcid, params.localSid) = true) :
    (k.perform (.addSession params.localCcid params.localSid params.ifname)).Holds tunnels
      sessions := by
  refine ⟨h.tunnels, fun key => ?_⟩
  rw [← h.sessions]
  refine Dict.contains_set.trans ⟨?_, .inr⟩
  rintro (rfl | hkey)
  · exact (h.sessions _).mpr hin
  · exact hkey

/-- A session deleted on both sides. -/
theorem delSession (h : k.Holds tunnels sessions) (localCcid localSid : Int) :
    (k.perform (.delSession localCcid localSid)).Holds tunnels
      (sessions.erase (localCcid, localSid)) := by
  refine ⟨h.tunnels, fun key => ?_⟩
  rw [Dict.contains_erase, ← h.sessions]
  exact Dict.contains_erase

/-- A tunnel deleted on both sides. -/
theorem delTunnel (h : k.Holds tunnels sessions) (localCcid : Int) :
    (k.perform (.delTunnel localCcid)).Holds (tunnels.erase localCcid) sessions := by
  refine ⟨fun ccid => ?_, h.sessions⟩
  rw [Dict.contains_erase, ← h.tunnels, and_comm]
  exact Finset.mem_erase

end Kernel.Holds

/-- A call of a dataplane. -/
def DataplaneCall.perform {δ : Type} [Dataplane δ] : DataplaneCall → Prog δ Unit
  | .addTunnel params => Dataplane.addTunnel params
  | .addSession params => do
    let _ ← Dataplane.addSession params
    return ()
  | .delSession localCcid localSid => Dataplane.delSession localCcid localSid
  | .delTunnel localCcid => Dataplane.delTunnel localCcid

namespace IpCommandDataplane

/-- The object after a call, whether that returned or raised. -/
def step (self : IpCommandDataplane) (call : DataplaneCall) : IpCommandDataplane :=
  (call.perform self).2

/-- The kernel holds what the object holds. -/
def Tracked (self : IpCommandDataplane) : Prop :=
  self.host.kernel.Holds self.tunnels self.sessions

/-- A session that the object does not hold is added to the kernel, and its netdev cannot be
brought up. -/
def Loses (self : IpCommandDataplane) : DataplaneCall → Prop
  | .addSession params => self.sessions.contains (params.localCcid, params.localSid) = false ∧
      self.Succeeds (addSessionArgv self.ip params) ∧
      ¬ (self.ran (addSessionArgv self.ip params)).Succeeds (linkUpArgv self.ip params.ifname)
  | _ => False

variable {self : IpCommandDataplane} {argv : List String}

/-- A command that failed leaves everything as it was. -/
theorem Tracked.ran_failed (h : self.Tracked) (hfail : ¬ self.Succeeds argv) :
    (self.ran argv).Tracked := by
  rw [Tracked, kernel_ran_failed hfail]
  exact h

/-- Bringing a netdev up changes neither the tunnels nor the sessions. -/
theorem kernel_linkUp (ifname : String) :
    (self.ran (linkUpArgv self.ip ifname)).host.kernel = self.host.kernel := by
  by_cases hok : self.Succeeds (linkUpArgv self.ip ifname)
  · rw [kernel_ran hok (read_linkUp self.ip ifname)]
    rfl
  · exact kernel_ran_failed hok

/-- The kernel after both commands of `add_session`, of which the first succeeded. -/
theorem kernel_addSession {params : SessionParams}
    (h : self.Succeeds (addSessionArgv self.ip params)) :
    ((self.ran (addSessionArgv self.ip params)).ran (linkUpArgv self.ip params.ifname)).host.kernel
      = self.host.kernel.perform
        (.addSession params.localCcid params.localSid params.ifname) := by
  rw [← kernel_ran h (read_addSession self.ip params)]
  exact kernel_linkUp params.ifname

theorem step_addTunnel (params : TunnelParams) :
    self.step (.addTunnel params) = (addTunnel params self).2 := rfl

/-- The name that `add_session()` returns is dropped. -/
theorem step_addSession (params : SessionParams) :
    self.step (.addSession params) = (addSession params self).2 := bind_pure_snd _ _ _

theorem step_delSession (localCcid localSid : Int) :
    self.step (.delSession localCcid localSid) = (delSession localCcid localSid self).2 := rfl

theorem step_delTunnel (localCcid : Int) :
    self.step (.delTunnel localCcid) = (delTunnel localCcid self).2 := rfl

/-- A call that loses nothing keeps the kernel and the tables together. -/
theorem Tracked.step (h : self.Tracked) {call : DataplaneCall} (hno : ¬ self.Loses call) :
    (self.step call).Tracked := by
  cases call with
  -- nothing asked, a command that failed, a command that succeeded
  | addTunnel params =>
    rcases addTunnel_cases params self with ⟨-, hrun⟩ | ⟨-, ⟨hfail, e, hrun⟩ | ⟨hok, hrun⟩⟩
    · rw [step_addTunnel, hrun]
      exact h
    · rw [step_addTunnel, hrun]
      exact h.ran_failed hfail
    · rw [step_addTunnel, hrun, Tracked]
      show (self.ran _).host.kernel.Holds _ _
      rw [kernel_ran hok (read_addTunnel self.ip params)]
      exact h.addTunnel params
  | addSession params =>
    rcases addSession_cases params self with ⟨hfail, e, hrun⟩ | ⟨hok, ⟨hlink, e, hrun⟩ | ⟨-, hrun⟩⟩
    · rw [step_addSession, hrun]
      exact h.ran_failed hfail
    · -- the netdev stays down: the session was there before
      have hin : self.sessions.contains (params.localCcid, params.localSid) = true := by
        by_contra hnot
        exact hno ⟨by simpa using hnot, hok, hlink⟩
      rw [step_addSession, hrun, Tracked, kernel_addSession hok]
      exact h.addSession_again hin
    · rw [step_addSession, hrun, Tracked]
      show ((self.ran _).ran _).host.kernel.Holds _ _
      rw [kernel_addSession hok]
      exact h.addSession params
  | delSession localCcid localSid =>
    rcases delSession_cases localCcid localSid self with ⟨-, hrun⟩ | ⟨-, ⟨hfail, e, hrun⟩ | ⟨hok, hrun⟩⟩
    · rw [step_delSession, hrun]
      exact h
    · rw [step_delSession, hrun]
      exact h.ran_failed hfail
    · rw [step_delSession, hrun, Tracked]
      show (self.ran _).host.kernel.Holds _ _
      rw [kernel_ran hok (read_delSession self.ip localCcid localSid)]
      exact h.delSession localCcid localSid
  | delTunnel localCcid =>
    -- unknown; sessions live; a command that failed, a command that succeeded
    rcases delTunnel_cases localCcid self with ⟨-, hrun⟩ | ⟨-, -, e, hrun⟩ |
      ⟨-, -, ⟨hfail, e, hrun⟩ | ⟨hok, hrun⟩⟩
    · rw [step_delTunnel, hrun]
      exact h
    · rw [step_delTunnel, hrun]
      exact h
    · rw [step_delTunnel, hrun]
      exact h.ran_failed hfail
    · rw [step_delTunnel, hrun, Tracked]
      show (self.ran _).host.kernel.Holds _ _
      rw [kernel_ran hok (read_delTunnel self.ip localCcid)]
      exact h.delTunnel localCcid

/-- A session that is lost is in the kernel and not in the tables, and deleting it does nothing. -/
theorem lost {params : SessionParams} (hloses : self.Loses (.addSession params)) :
    (self.step (.addSession params)).host.kernel.sessions.contains
      (params.localCcid, params.localSid) = true ∧
    (self.step (.addSession params)).sessions.contains
      (params.localCcid, params.localSid) = false ∧
    (self.step (.addSession params)).step (.delSession params.localCcid params.localSid)
      = self.step (.addSession params) := by
  obtain ⟨hnot, hok, hlink⟩ := hloses
  rcases addSession_cases params self with ⟨hfail, -⟩ | ⟨-, ⟨-, e, hrun⟩ | ⟨hup, -⟩⟩
  · exact absurd hok hfail
  · rw [step_addSession, hrun, step_delSession]
    -- the first command put it into the kernel, no line put it into the table
    refine ⟨?_, hnot, ?_⟩
    · rw [kernel_addSession hok]
      exact Dict.contains_set.mpr (.inl rfl)
    -- so the deletion finds nothing to delete
    · rcases delSession_cases params.localCcid params.localSid
        ((self.ran (addSessionArgv self.ip params)).ran (linkUpArgv self.ip params.ifname)) with
        ⟨-, hdel⟩ | ⟨hin, -⟩
      · rw [hdel]
      · have hin' : self.sessions.contains (params.localCcid, params.localSid) = true := hin
        rw [hnot] at hin'
        cases hin'
  · exact absurd hup hlink

/-- From then on the kernel and the tables disagree. -/
theorem not_tracked_of_loses {call : DataplaneCall} (hloses : self.Loses call) :
    ¬ (self.step call).Tracked := by
  cases call with
  | addSession params =>
    obtain ⟨hkernel, htable, -⟩ := lost hloses
    intro h
    rw [(h.sessions _).mp hkernel] at htable
    cases htable
  | _ => exact hloses.elim

/-- **When `IpCommandDataplane` keeps track of the kernel.** However the commands end, the kernel
holds after every call of a run what the tables hold, if and only if no call of it adds a session
that the object does not hold and then fails to bring its netdev up. -/
theorem tracked_iff (ip : String) (outcome : Nat → List String → Kernel → CompletedProcess)
    (calls : List DataplaneCall) :
    (∀ before, before <+: calls →
      (before.foldl step { ip, host := { outcome } } : IpCommandDataplane).Tracked) ↔
    Transition.Guarded step (fun self call => ¬ self.Loses call) { ip, host := { outcome } } calls :=
  Transition.guarded_iff_along (I := Tracked) (fun _ h => h) (fun _ _ h hno => h.step hno)
    (fun _ _ _ hlost => not_tracked_of_loses (not_not.mp hlost)) calls .empty

/-- A session of the kernel that the object keeps track of can be deleted. -/
theorem Tracked.deletable (h : self.Tracked) {localCcid localSid : Int}
    (hin : self.host.kernel.sessions.contains (localCcid, localSid) = true)
    (hok : self.Succeeds (delSessionArgv self.ip localCcid localSid)) :
    (self.step (.delSession localCcid localSid)).host.kernel.sessions.contains
      (localCcid, localSid) = false := by
  rcases delSession_cases localCcid localSid self with ⟨hno, -⟩ | ⟨-, ⟨hfail, -⟩ | ⟨-, hrun⟩⟩
  · rw [(h.sessions _).mp hin] at hno
    cases hno
  · exact absurd hok hfail
  · rw [step_delSession, hrun]
    show (self.ran _).host.kernel.sessions.contains _ = false
    rw [kernel_ran hok (read_delSession self.ip localCcid localSid), Bool.eq_false_iff]
    intro hstill
    exact (Dict.contains_erase.mp hstill).2 rfl

/-- A machine on which no netdev comes up. -/
def linksDown (_ : Nat) (argv : List String) (_ : Kernel) : CompletedProcess where
  returncode := if argv.contains "link" then 2 else 0

/-- A tunnel over UDP. -/
def aTunnel : TunnelParams := ⟨100, 200, "192.0.2.1", "192.0.2.2", "udp", 1701, 1701, false⟩

/-- Its session without cookies. -/
def aSession : SessionParams :=
  { localCcid := 100, localSid := 42, remoteSid := 43, ifname := "l2tpeth-100-42" }

/-- The object on that machine, with a tunnel. -/
def withTunnel : IpCommandDataplane :=
  step { ip := "/sbin/ip", host := { outcome := linksDown } } (.addTunnel aTunnel)

/-- The kernel keeps the session, the object does not know it, and deleting it does nothing. -/
theorem aSession_lost :
    ((withTunnel.step (.addSession aSession)).host.kernel.sessions.contains (100, 42) = true ∧
      (withTunnel.step (.addSession aSession)).sessions.contains (100, 42) = false ∧
      (withTunnel.step (.addSession aSession)).step (.delSession 100 42)
        = withTunnel.step (.addSession aSession)) ∧
    ¬ ∀ before, before <+: [.addTunnel aTunnel, .addSession aSession] → (before.foldl step
      { ip := "/sbin/ip", host := { outcome := linksDown } } : IpCommandDataplane).Tracked := by
  have hloses : withTunnel.Loses (.addSession aSession) := ⟨by decide, by decide, by decide⟩
  exact ⟨lost hloses, fun hall => not_tracked_of_loses hloses (hall _ (List.prefix_refl _))⟩

end IpCommandDataplane

end L2tpv3d
