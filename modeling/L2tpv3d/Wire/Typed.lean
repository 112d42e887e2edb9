import L2tpv3d.Wire.CallFields

/-!
# L2tpv3d — typed messages survive the wire

`TypedMessage` is the control message as its sender thinks of it: one constructor for each
builder, with the arguments of that builder. `buildAvps` puts it into an AVP list,
`ReadFrom` says that the parser for its type takes the arguments out of one again.

* `TypedMessage.readFrom_build` — a list that was built is read back, type and arguments.
* **`TypedMessage.survives`** — so is the list of the message that the encoding decodes to.
-/

namespace L2tpv3d

open Py

/-- A control message by its builder and the arguments of that builder. -/
inductive TypedMessage where
  | sccrq (a : SccrxArgs)
  | sccrp (a : SccrxArgs)
  | scccn
  | stopccn (assignedCcid resultCode : Int) (errorCode : Option Int) (errorMessage : String)
  | hello
  | icrq (a : CallArgs) (pseudowireType : Int) (remoteEndId : Option String)
      (assignedCookie : Option Bytes)
  | icrp (a : CallArgs) (remoteSid : Int) (assignedCookie : Option Bytes)
  | iccn (a : CallArgs) (remoteSid : Int)
  | cdn (localSid remoteSid resultCode : Int) (errorCode : Option Int) (errorMessage : String)

namespace TypedMessage

/-- The message type that the builder announces. -/
def messageType : TypedMessage → MessageType
  | sccrq _ => .sccrq
  | sccrp _ => .sccrp
  | scccn => .scccn
  | stopccn .. => .stopccn
  | hello => .hello
  | icrq .. => .icrq
  | icrp .. => .icrp
  | iccn .. => .iccn
  | cdn .. => .cdn

/-- The builder of the message, applied to its arguments. -/
def buildAvps : TypedMessage → Except Exn (List AVP)
  | sccrq a => buildSccrqAvps a
  | sccrp a => buildSccrpAvps a
  | scccn => buildScccnAvps
  | stopccn ccid result errorCode errorMessage =>
    buildStopccnAvps ccid result errorCode errorMessage
  | hello => buildHelloAvps
  | icrq a pw endId cookie => buildIcrqAvps a pw endId cookie
  | icrp a remoteSid cookie => buildIcrpAvps a remoteSid cookie
  | iccn a remoteSid => buildIccnAvps a remoteSid
  | cdn localSid remoteSid result errorCode errorMessage =>
    buildCdnAvps localSid remoteSid result errorCode errorMessage

/-- The parser for the type of the message returns its arguments; a text argument comes back as
its UTF-8 bytes, an argument that was not given as `None`. SCCCN and HELLO have none. -/
def ReadFrom (avps : List AVP) : TypedMessage → Prop
  | sccrq a | sccrp a =>
    parseSccrxFields avps = .ok {
      routerId := a.routerId
      assignedCcid := a.assignedCcid
      hostName := utf8 a.hostName
      pwCapabilities := a.pwCapabilities
      receiveWindow := some a.receiveWindow
      authNonce := a.authNonce }
  | scccn | hello => True
  | stopccn ccid result errorCode errorMessage =>
    parseStopccnFields avps = .ok {
      assignedCcid := ccid
      resultCode := result
      errorCode := errorCode
      errorMessage := utf8 errorMessage }
  | icrq a pw endId cookie =>
    parseSessionFields avps = .ok {
      localSid := a.localSid
      -- the builder puts zero here, whatever the arguments
      remoteSid := 0
      pseudowireType := some pw
      l2SpecificSublayer := some a.l2SpecificSublayer
      dataSequencing := some a.dataSequencing
      circuitStatus := some a.circuitStatus
      assignedCookie := cookie
      remoteEndId := endId.map utf8
      txConnectSpeed := a.txConnectSpeed
      rxConnectSpeed := a.rxConnectSpeed }
  | icrp a remoteSid cookie =>
    parseSessionFields avps = .ok {
      localSid := a.localSid
      remoteSid := remoteSid
      l2SpecificSublayer := some a.l2SpecificSublayer
      dataSequencing := some a.dataSequencing
      circuitStatus := some a.circuitStatus
      assignedCookie := cookie
      txConnectSpeed := a.txConnectSpeed
      rxConnectSpeed := a.rxConnectSpeed }
  | iccn a remoteSid =>
    parseSessionFields avps = .ok {
      localSid := a.localSid
      remoteSid := remoteSid
      l2SpecificSublayer := some a.l2SpecificSublayer
      dataSequencing := some a.dataSequencing
      circuitStatus := some a.circuitStatus
      txConnectSpeed := a.txConnectSpeed
      rxConnectSpeed := a.rxConnectSpeed }
  | cdn localSid remoteSid result errorCode errorMessage =>
    parseCdnFields avps = .ok {
      localSid := localSid
      remoteSid := remoteSid
      resultCode := result
      errorCode := errorCode
      errorMessage := utf8 errorMessage }

/-- **A list that was built is read back.** One case for each builder. -/
theorem readFrom_build {msg : TypedMessage} {avps : List AVP} (h : msg.buildAvps = .ok avps) :
    Tagged msg.messageType avps ∧ msg.ReadFrom avps := by
  cases msg with
  | sccrq a => exact ⟨buildSccrxAvps_tagged h, parseSccrxFields_eq h⟩
  | sccrp a => exact ⟨buildSccrxAvps_tagged h, parseSccrxFields_eq h⟩
  -- SCCCN and HELLO have no AVP but their type, so there is nothing to read
  | scccn =>
    cases buildScccnAvps_eq.symm.trans h
    exact ⟨rfl, trivial⟩
  | stopccn ccid result errorCode errorMessage => exact parse_stopccn h
  | hello =>
    cases buildHelloAvps_eq.symm.trans h
    exact ⟨rfl, trivial⟩
  | icrq a pw endId cookie => exact ⟨(buildIcrqAvps_regular h).1, parse_icrq h⟩
  | icrp a remoteSid cookie => exact ⟨(buildIcrpAvps_regular h).2, parse_icrp h⟩
  | iccn a remoteSid => exact ⟨(buildIccnAvps_regular h).2, parse_iccn h⟩
  | cdn localSid remoteSid result errorCode errorMessage => exact parse_cdn h

/-- **Typed messages survive the wire.** When a builder and the encoding of the message around
its list succeed, decoding the bytes returns that message, with its type and the arguments of
the builder in it. -/
theorem survives {msg : TypedMessage} {ccid ns nr : Int} {avps : List AVP} {bs : Bytes}
    (hbuild : msg.buildAvps = .ok avps)
    (henc : ControlMessage.encode ⟨ccid, ns, nr, avps⟩ = .ok bs) :
    ∃ m, ControlMessage.decode bs = .ok m ∧
      m.controlConnectionId = ccid ∧ m.ns = ns ∧ m.nr = nr ∧
      getMessageType m.avps = .ok (some msg.messageType.code) ∧ msg.ReadFrom m.avps := by
  obtain ⟨htag, hread⟩ := readFrom_build hbuild
  exact ⟨_, ControlMessage.decode_of_encode henc, rfl, rfl, rfl, getMessageType_of_tagged htag,
    hread⟩

/-- An ICRQ with every optional argument, the cookie and the end ID empty. -/
def sampleIcrq : TypedMessage := .icrq ⟨7, 1, 0, 3, some 64000, none⟩ 5 (some "") (some [])

/-- An ICRQ with an empty end ID and an empty cookie, which are both present on the wire. -/
theorem survives_icrq : ∃ avps bs m, sampleIcrq.buildAvps = .ok avps ∧
    ControlMessage.encode ⟨9, 1, 2, avps⟩ = .ok bs ∧ ControlMessage.decode bs = .ok m ∧
    m.controlConnectionId = 9 ∧ m.ns = 1 ∧ m.nr = 2 ∧
    getMessageType m.avps = .ok (some 10) ∧ sampleIcrq.ReadFrom m.avps := by
  obtain ⟨avps, hbuild⟩ : ∃ avps, sampleIcrq.buildAvps = .ok avps := ⟨_, rfl⟩
  have hreg : Regular avps :=
    (buildIcrqAvps_regular hbuild).2 fun n hn => by cases hn; decide
  have hwf : (ControlMessage.mk 9 1 2 avps).WellFormed :=
    (hreg.wellFormed (by decide) (by decide) (by decide)).1
  have henc := ControlMessage.encode_of_wellFormed hwf
  obtain ⟨m, hm⟩ := survives hbuild henc
  exact ⟨avps, _, m, hbuild, henc, hm⟩

end TypedMessage

end L2tpv3d
