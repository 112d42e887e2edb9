import L2tpv3d.Wire.Builders

/-!
# L2tpv3d — what the messages of a call carry

The fields that `parse_session_fields` and `parse_cdn_fields` read from an ICRQ, ICRP, ICCN or
CDN are the ones it was built from, also when a digest stands behind them; those of a StopCCN,
whose layout is the one of a CDN, too.

* `parseSessionFields_call` — the list that the three call messages share.
* **`parse_icrq`**, **`parse_icrp`**, **`parse_iccn`**, **`parse_cdn`**, **`parse_stopccn`** —
  one for each message.
-/

namespace L2tpv3d

open Py

variable {avps digest : List AVP}

theorem parseSessionFields_append (h : ∀ d ∈ digest, d.isDigest = true) :
    parseSessionFields (avps ++ digest) = parseSessionFields avps := by
  unfold parseSessionFields
  simp only [findAvp_append_digest h (by decide : AttrType.localSessionId ≠ .messageDigest),
    findAvp_append_digest h (by decide : AttrType.remoteSessionId ≠ .messageDigest),
    findAvp_append_digest h (by decide : AttrType.pseudowireType ≠ .messageDigest),
    findAvp_append_digest h (by decide : AttrType.l2SpecificSublayer ≠ .messageDigest),
    findAvp_append_digest h (by decide : AttrType.dataSequencing ≠ .messageDigest),
    findAvp_append_digest h (by decide : AttrType.circuitStatus ≠ .messageDigest),
    findAvp_append_digest h (by decide : AttrType.assignedCookie ≠ .messageDigest),
    findAvp_append_digest h (by decide : AttrType.remoteEndId ≠ .messageDigest),
    findAvp_append_digest h (by decide : AttrType.txConnectSpeed ≠ .messageDigest),
    findAvp_append_digest h (by decide : AttrType.rxConnectSpeed ≠ .messageDigest)]

theorem parseCdnFields_append (h : ∀ d ∈ digest, d.isDigest = true) :
    parseCdnFields (avps ++ digest) = parseCdnFields avps := by
  unfold parseCdnFields
  simp only [findAvp_append_digest h (by decide : AttrType.localSessionId ≠ .messageDigest),
    findAvp_append_digest h (by decide : AttrType.remoteSessionId ≠ .messageDigest),
    findAvp_append_digest h (by decide : AttrType.resultCode ≠ .messageDigest)]

/-! ## The messages

The parser returns the arguments of the builder, field by field. The digest that signing appends is
an AVP of another type. -/

/-- A Local Session ID is read as it was written. -/
theorem decodeLocalSessionId_build {sid : Int} (h : 0 ≤ sid ∧ sid ≤ 0xFFFFFFFF) :
    decodeLocalSessionId (ietfAvp .localSessionId (beBytes 4 sid.toNat) true) = .ok sid :=
  decodeUInt_ietfAvp h.1 (by omega)

/-- So is a Remote Session ID, where the message has one. -/
theorem decodeRemoteSid_build {sid : Int} (h : 0 ≤ sid ∧ sid ≤ 0xFFFFFFFF) :
    decodeRemoteSidOrZero (some (ietfAvp .remoteSessionId (beBytes 4 sid.toNat) true)) = .ok sid := by
  have hdec : decodeRemoteSessionId (ietfAvp .remoteSessionId (beBytes 4 sid.toNat) true) = .ok sid :=
    decodeUInt_ietfAvp h.1 (by omega)
  rw [decodeRemoteSidOrZero, decodeIfPresent_some hdec]
  rfl

/-- The AVPs that every message of a call carries, and the ones that it may carry. -/
theorem parseSessionFields_call (mt : MessageType) {lsid rsid l2 ds cs : Int}
    {pw endId cookie tx rx : List AVP} {pwV txV rxV : Option Int} {endIdV cookieV : Option Bytes}
    (hl : 0 ≤ lsid ∧ lsid ≤ 0xFFFFFFFF) (hr : 0 ≤ rsid ∧ rsid ≤ 0xFFFFFFFF)
    (hl2 : 0 ≤ l2 ∧ l2 ≤ 0xFFFF) (hds : 0 ≤ ds ∧ ds ≤ 0xFFFF) (hcs : 0 ≤ cs ∧ cs ≤ 0xFFFF)
    (hpw : Optional .pseudowireType decodePseudowireType pw pwV)
    (hend : Optional .remoteEndId decodeRemoteEndId endId endIdV)
    (hck : Optional .assignedCookie decodeAssignedCookie cookie cookieV)
    (htx : Optional .txConnectSpeed decodeTxConnectSpeed tx txV)
    (hrx : Optional .rxConnectSpeed decodeRxConnectSpeed rx rxV) :
    parseSessionFields ([messageTypeAvp mt, ietfAvp .localSessionId (beBytes 4 lsid.toNat) true,
      ietfAvp .remoteSessionId (beBytes 4 rsid.toNat) true] ++ pw ++
      [ietfAvp .l2SpecificSublayer (beBytes 2 l2.toNat) true,
        ietfAvp .dataSequencing (beBytes 2 ds.toNat) true,
        ietfAvp .circuitStatus (beBytes 2 cs.toNat) true] ++ endId ++ cookie ++ tx ++ rx)
      = .ok ⟨lsid, rsid, pwV, some l2, some ds, some cs, cookieV, endIdV, txV, rxV⟩ := by
  have hmt : ∀ t : AttrType, AttrType.messageType.code ≠ t.code → ∀ rest,
      findAvp (messageTypeAvp mt :: rest) t = findAvp rest t :=
    fun t ht rest => findAvp_cons_ne ht
  have hnil : ∀ t, findAvp [] t = none := fun t => rfl
  have hl2' : decodeIfPresent decodeL2SpecificSublayer
      (some (ietfAvp .l2SpecificSublayer (beBytes 2 l2.toNat) true)) = .ok (some l2) :=
    decodeIfPresent_some (decodeUInt_ietfAvp hl2.1 (by omega))
  have hds' : decodeIfPresent decodeDataSequencing
      (some (ietfAvp .dataSequencing (beBytes 2 ds.toNat) true)) = .ok (some ds) :=
    decodeIfPresent_some (decodeUInt_ietfAvp hds.1 (by omega))
  have hcs' : decodeIfPresent decodeCircuitStatus
      (some (ietfAvp .circuitStatus (beBytes 2 cs.toNat) true)) = .ok (some cs) :=
    decodeIfPresent_some (decodeUInt_ietfAvp hcs.1 (by omega))
  -- every field is found behind the AVPs of other types
  simp (disch := decide) only [parseSessionFields, findAvp_append, hmt, findAvp_cons_self,
    findAvp_cons_ne, hnil, hpw.other, hend.other, hck.other, htx.other, hrx.other, Option.none_or,
    Option.or_none, requireAvp, ok_bind, decodeLocalSessionId_build hl,
    decodeRemoteSid_build hr, hl2', hds', hcs', hpw.own, hend.own, hck.own, htx.own, hrx.own]
  rfl

/-- **ICRQ.** No Remote Session ID but zero: the peer has not assigned one yet. -/
theorem parse_icrq {a : CallArgs} {pw : Int} {endId : Option String} {cookie : Option Bytes}
    (h : buildIcrqAvps a pw endId cookie = .ok avps) :
    parseSessionFields avps = .ok ⟨a.localSid, 0, some pw, some a.l2SpecificSublayer,
      some a.dataSequencing, some a.circuitStatus, cookie, endId.map utf8, a.txConnectSpeed,
      a.rxConnectSpeed⟩ := by
  simp only [buildIcrqAvps, buildMessageType_eq, ok_bind, bind_eq_ok, buildLocalSessionId,
    buildRemoteSessionId, buildPseudowireType, buildL2SpecificSublayer, buildDataSequencing,
    buildCircuitStatus, u32Avp_ok_iff, u16Avp_ok_iff, pure_eq_ok, Except.ok.injEq] at h
  -- every call of a builder succeeded: each field is in range, and its AVP is known
  obtain ⟨_, ⟨hl0, hl1, rfl⟩, _, ⟨hr0, hr1, rfl⟩, _, ⟨hp0, hp1, rfl⟩, _, ⟨h20, h21, rfl⟩,
    _, ⟨hd0, hd1, rfl⟩, _, ⟨hc0, hc1, rfl⟩, id, hend, ck, hck, tx, htx, rx, hrx, rfl⟩ := h
  have hpw : Optional .pseudowireType decodePseudowireType
      [ietfAvp .pseudowireType (beBytes 2 pw.toNat) true] (some pw) :=
    .present (decodeUInt_ietfAvp hp0 (by omega))
  have hparse := parseSessionFields_call .icrq ⟨hl0, hl1⟩ ⟨hr0, hr1⟩ ⟨h20, h21⟩ ⟨hd0, hd1⟩
    ⟨hc0, hc1⟩ hpw (optional_endId hend) (optional_cookie hck) (optional_speed htx)
    (optional_speed hrx)
  exact hparse

/-- **ICRP.** -/
theorem parse_icrp {a : CallArgs} {rsid : Int} {cookie : Option Bytes}
    (h : buildIcrpAvps a rsid cookie = .ok avps) :
    parseSessionFields avps = .ok ⟨a.localSid, rsid, none, some a.l2SpecificSublayer,
      some a.dataSequencing, some a.circuitStatus, cookie, none, a.txConnectSpeed,
      a.rxConnectSpeed⟩ := by
  simp only [buildIcrpAvps, buildMessageType_eq, ok_bind, bind_eq_ok, buildLocalSessionId,
    buildRemoteSessionId, buildL2SpecificSublayer, buildDataSequencing, buildCircuitStatus,
    u32Avp_ok_iff, u16Avp_ok_iff, pure_eq_ok, Except.ok.injEq] at h
  obtain ⟨_, ⟨hl0, hl1, rfl⟩, _, ⟨hr0, hr1, rfl⟩, _, ⟨h20, h21, rfl⟩, _, ⟨hd0, hd1, rfl⟩,
    _, ⟨hc0, hc1, rfl⟩, ck, hck, tx, htx, rx, hrx, rfl⟩ := h
  have hparse := parseSessionFields_call .icrp ⟨hl0, hl1⟩ ⟨hr0, hr1⟩ ⟨h20, h21⟩ ⟨hd0, hd1⟩
    ⟨hc0, hc1⟩ (.absent _ _) (.absent _ _) (optional_cookie hck) (optional_speed htx)
    (optional_speed hrx)
  rwa [List.append_nil, List.append_nil] at hparse

/-- **ICCN.** -/
theorem parse_iccn {a : CallArgs} {rsid : Int} (h : buildIccnAvps a rsid = .ok avps) :
    parseSessionFields avps = .ok ⟨a.localSid, rsid, none, some a.l2SpecificSublayer,
      some a.dataSequencing, some a.circuitStatus, none, none, a.txConnectSpeed,
      a.rxConnectSpeed⟩ := by
  simp only [buildIccnAvps, buildMessageType_eq, ok_bind, bind_eq_ok, buildLocalSessionId,
    buildRemoteSessionId, buildL2SpecificSublayer, buildDataSequencing, buildCircuitStatus,
    u32Avp_ok_iff, u16Avp_ok_iff, pure_eq_ok, Except.ok.injEq] at h
  obtain ⟨_, ⟨hl0, hl1, rfl⟩, _, ⟨hr0, hr1, rfl⟩, _, ⟨h20, h21, rfl⟩, _, ⟨hd0, hd1, rfl⟩,
    _, ⟨hc0, hc1, rfl⟩, tx, htx, rx, hrx, rfl⟩ := h
  have hparse := parseSessionFields_call .iccn ⟨hl0, hl1⟩ ⟨hr0, hr1⟩ ⟨h20, h21⟩ ⟨hd0, hd1⟩
    ⟨hc0, hc1⟩ (.absent _ _) (.absent _ _) (.absent _ _) (optional_speed htx) (optional_speed hrx)
  rwa [List.append_nil, List.append_nil, List.append_nil] at hparse

/-- **CDN.** -/
theorem parse_cdn {lsid rsid code : Int} {errorCode : Option Int} {errorMessage : String}
    (h : buildCdnAvps lsid rsid code errorCode errorMessage = .ok avps) :
    Tagged .cdn avps ∧
      parseCdnFields avps = .ok ⟨lsid, rsid, code, errorCode, utf8 errorMessage⟩ := by
  simp only [buildCdnAvps, buildMessageType_eq, ok_bind, bind_eq_ok, buildLocalSessionId,
    buildRemoteSessionId, u32Avp_ok_iff, pure_eq_ok, Except.ok.injEq] at h
  obtain ⟨_, ⟨hl0, hl1, rfl⟩, _, ⟨hr0, hr1, rfl⟩, avp, hrc, rfl⟩ := h
  obtain ⟨value, rfl, hresult⟩ := decodeResultCode_build hrc
  -- the Message Type in front is none of the AVPs that are looked for
  have hmt : ∀ t : AttrType, AttrType.messageType.code ≠ t.code → ∀ rest,
      findAvp (messageTypeAvp .cdn :: rest) t = findAvp rest t :=
    fun t ht rest => findAvp_cons_ne ht
  refine ⟨rfl, ?_⟩
  simp (disch := decide) only [parseCdnFields, hmt, findAvp_cons_self, findAvp_cons_ne, requireAvp,
    ok_bind, decodeLocalSessionId_build ⟨hl0, hl1⟩, decodeRemoteSid_build ⟨hr0, hr1⟩, hresult]
  rfl

/-- **StopCCN**, which names the control connection where a CDN names two sessions. -/
theorem parse_stopccn {ccid code : Int} {errorCode : Option Int} {errorMessage : String}
    (h : buildStopccnAvps ccid code errorCode errorMessage = .ok avps) :
    Tagged .stopccn avps ∧
      parseStopccnFields avps = .ok ⟨ccid, code, errorCode, utf8 errorMessage⟩ := by
  simp only [buildStopccnAvps, buildMessageType_eq, ok_bind, bind_eq_ok,
    buildAssignedControlConnectionId, u32Avp_ok_iff, pure_eq_ok, Except.ok.injEq] at h
  obtain ⟨_, ⟨hc0, hc1, rfl⟩, avp, hrc, rfl⟩ := h
  obtain ⟨value, rfl, hresult⟩ := decodeResultCode_build hrc
  -- the Message Type in front is none of the AVPs that are looked for
  have hmt : ∀ t : AttrType, AttrType.messageType.code ≠ t.code → ∀ rest,
      findAvp (messageTypeAvp .stopccn :: rest) t = findAvp rest t :=
    fun t ht rest => findAvp_cons_ne ht
  have hccid : decodeAssignedControlConnectionId
      (ietfAvp .assignedControlConnectionId (beBytes 4 ccid.toNat) true) = .ok ccid :=
    decodeUInt_ietfAvp hc0 (by omega)
  refine ⟨rfl, ?_⟩
  simp (disch := decide) only [parseStopccnFields, hmt, findAvp_cons_self, findAvp_cons_ne,
    requireAvp, ok_bind, hccid, hresult]
  rfl

end L2tpv3d
