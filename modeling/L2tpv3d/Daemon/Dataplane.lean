import L2tpv3d.Fsm.Session
import L2tpv3d.Py.Dict

/-!
# L2tpv3d — the dataplane (`dataplane.py`)

The surface that every dataplane offers to a tunnel, and `MockDataplane`, the in-memory one:
a record of calls, the kernel tunnels by CCID and the kernel sessions by CCID and session ID.
The results about it say what a tunnel may rely on for its own CCID: `addTunnel_apply`,
`addSession_apply`, `delSession_apply`, `delTunnel_apply`.
-/

namespace L2tpv3d

open Py

/-- `TunnelParams`: what the kernel tunnel is created from. -/
structure TunnelParams where
  localCcid : Int
  remoteCcid : Int
  localAddress : String
  remoteAddress : String
  encap : String := "udp"
  udpSport : Int := 1701
  udpDport : Int := 1701
  /-- `local_ccid` is a `bool`, which shows where it is printed. -/
  localCcidIsBool : Bool := false
  deriving DecidableEq

/-- `self == other`, of which it makes no difference that `True` is not written `1`. -/
def TunnelParams.Same (self other : TunnelParams) : Prop :=
  { self with localCcidIsBool := other.localCcidIsBool } = other

instance (self other : TunnelParams) : Decidable (self.Same other) :=
  inferInstanceAs (Decidable (_ = _))

theorem TunnelParams.Same.refl (self : TunnelParams) : self.Same self := rfl

/-- `Dataplane`: the surface every implementation exposes. -/
class Dataplane (δ : Type) where
  addTunnel : TunnelParams → Prog δ Unit
  /-- Returns the name the netdev was given. -/
  addSession : SessionParams → Prog δ String
  delSession : Int → Int → Prog δ Unit
  delTunnel : Int → Prog δ Unit

/-- One entry of `MockDataplane.calls`. -/
inductive DataplaneCall where
  | addTunnel (params : TunnelParams)
  | addSession (params : SessionParams)
  | delSession (localCcid localSid : Int)
  | delTunnel (localCcid : Int)
  deriving DecidableEq

/-- `MockDataplane` -/
structure MockDataplane where
  calls : List DataplaneCall := []
  tunnels : Dict Int TunnelParams := .empty
  sessions : Dict (Int × Int) SessionParams := .empty

namespace MockDataplane

open Prog

/-- `DataplaneError`, a subclass of `RuntimeError`. -/
def dataplaneError (msg : String) : Exn := .runtimeError msg

/-- A kernel tunnel is added once; adding it again with the same parameters does nothing. -/
def addTunnel (params : TunnelParams) : Prog MockDataplane Unit := do
  let self ← get
  let ccid := params.localCcid
  match self.tunnels.get? ccid with
  | some existing =>
    -- re-adding the same parameters is fine, changing them is not
    if ¬ existing.Same params then
      raise (dataplaneError s!"tunnel {ccid} already exists with different params")
    else return ()
  | none =>
    modify fun self => { self with
      calls := self.calls ++ [.addTunnel params]
      tunnels := self.tunnels.set ccid params }

/-- A session is added to a tunnel that is there. -/
def addSession (params : SessionParams) : Prog MockDataplane String := do
  let self ← get
  let key := (params.localCcid, params.localSid)
  let ccid := params.localCcid
  if self.sessions.contains key then raise (dataplaneError s!"session {key} already exists")
  else if self.tunnels.contains ccid = false then
    raise (dataplaneError s!"add_session for unknown tunnel {ccid}")
  else
    modify fun self => { self with
      calls := self.calls ++ [.addSession params]
      sessions := self.sessions.set key params }
    return params.ifname

/-- Deleting a session never fails. -/
def delSession (localCcid localSid : Int) : Prog MockDataplane Unit := do
  let self ← get
  let key := (localCcid, localSid)
  -- deleting what is already gone is a silent no-op
  if self.sessions.contains key = false then return ()
  else
    modify fun self => { self with
      calls := self.calls ++ [.delSession localCcid localSid]
      sessions := self.sessions.erase key }

/-- A kernel tunnel is deleted when none of its sessions is left. -/
def delTunnel (localCcid : Int) : Prog MockDataplane Unit := do
  let self ← get
  if self.tunnels.contains localCcid = false then return ()
  else
    let live := self.sessions.keys.filter fun k => k.1 == localCcid
    if live ≠ [] then
      raise (dataplaneError s!"del_tunnel({localCcid}): sessions still live: {live}")
    else
      modify fun self => { self with
        calls := self.calls ++ [.delTunnel localCcid]
        tunnels := self.tunnels.erase localCcid }

instance : Dataplane MockDataplane where
  addTunnel := addTunnel
  addSession := addSession
  delSession := delSession
  delTunnel := delTunnel

/-! ## What one CCID sees

A tunnel uses only entries of its own CCID, and the results of its calls depend on no others. -/

/-- The remote session ID stored for each session ID of a tunnel. -/
def remoteSid? (self : MockDataplane) (ccid sid : Int) : Option Int :=
  (self.sessions.get? (ccid, sid)).map (·.remoteSid)

variable {self : MockDataplane} {ccid : Int}

theorem addTunnel_apply {params : TunnelParams}
    (h : self.tunnels.contains params.localCcid = false) :
    ∃ self', addTunnel params self = (.ok (), self') ∧
      self'.tunnels.contains params.localCcid = true ∧ self'.sessions = self.sessions := by
  have hnone : self.tunnels.get? params.localCcid = none := by
    simpa [Dict.contains] using h
  refine ⟨{ self with
    calls := self.calls ++ [.addTunnel params]
    tunnels := self.tunnels.set params.localCcid params }, ?_, ?_, rfl⟩
  · simp only [addTunnel, get_bind_apply, hnone, modify_apply]
  · exact Dict.contains_iff.mpr ⟨params, Dict.get?_set_self _ _ _⟩

/-- A session that is not there yet is added to a tunnel that is. -/
theorem addSession_apply {params : SessionParams}
    (hnew : self.sessions.get? (params.localCcid, params.localSid) = none)
    (htun : self.tunnels.contains params.localCcid = true) :
    ∃ self', addSession params self = (.ok params.ifname, self') ∧ self'.tunnels = self.tunnels ∧
      ∀ c sid, self'.remoteSid? c sid = if (params.localCcid, params.localSid) = (c, sid)
        then some params.remoteSid else self.remoteSid? c sid := by
  have hfresh : self.sessions.contains (params.localCcid, params.localSid) = false := by
    simp [Dict.contains, hnew]
  refine ⟨{ self with
    calls := self.calls ++ [.addSession params]
    sessions := self.sessions.set (params.localCcid, params.localSid) params }, ?_, rfl, ?_⟩
  · simp [addSession, hfresh, htun]
  · intro c sid
    simp only [remoteSid?, Dict.get?_set]
    split <;> rfl

/-- A deletion always returns, takes away its own session and leaves the rest. -/
theorem delSession_apply (sid : Int) :
    ∃ self', delSession ccid sid self = (.ok (), self') ∧ self'.tunnels = self.tunnels ∧
      ∀ c sid', self'.remoteSid? c sid' = if (ccid, sid) = (c, sid') then none
        else self.remoteSid? c sid' := by
  cases hin : self.sessions.contains (ccid, sid) with
  -- a session that is not there: nothing is done, and nothing was to be read
  | false =>
    refine ⟨self, by simp [delSession, hin], rfl, ?_⟩
    intro c sid'
    split
    · rename_i heq
      have hnone : self.sessions.get? (ccid, sid) = none := by simpa [Dict.contains] using hin
      rw [remoteSid?, ← heq, hnone]
      rfl
    · rfl
  | true =>
    refine ⟨{ self with
      calls := self.calls ++ [.delSession ccid sid]
      sessions := self.sessions.erase (ccid, sid) }, by simp [delSession, hin], rfl, ?_⟩
    intro c sid'
    simp only [remoteSid?, Dict.get?_erase]
    split <;> rfl

theorem delTunnel_apply (h : ∀ sid, self.remoteSid? ccid sid = none) :
    ∃ self', delTunnel ccid self = (.ok (), self') ∧ self'.tunnels.contains ccid = false ∧
      self'.sessions = self.sessions := by
  -- no key of a session has this CCID
  have hlive : (self.sessions.keys.filter fun k => k.1 == ccid) = [] := by
    rw [List.filter_eq_nil_iff]
    intro k hk hccid
    obtain ⟨params, hget⟩ := Dict.mem_keys_iff.mp hk
    obtain ⟨c, sid⟩ := k
    obtain rfl : c = ccid := by simpa using hccid
    have hnone := h sid
    rw [remoteSid?, hget] at hnone
    cases hnone
  cases hin : self.tunnels.contains ccid with
  | false => exact ⟨self, by simp [delTunnel, hin], hin, rfl⟩
  | true =>
    refine ⟨{ self with
      calls := self.calls ++ [.delTunnel ccid]
      tunnels := self.tunnels.erase ccid }, by simp [delTunnel, hin, hlive], ?_, rfl⟩
    simp [Dict.contains, Dict.get?_erase]

end MockDataplane

end L2tpv3d
