import Mathlib.Data.Nat.Bitwise
import KsmbdAuth.Ntlmv2
import KsmbdAuth.Conversions

/-!
# The NTLMSSP exchange

`auth.c` serves one NTLMSSP exchange in three calls on a session: the client's NEGOTIATE is
decoded, the server's CHALLENGE built, and the client's AUTHENTICATE, its answer to that
CHALLENGE, decoded and checked. This file puts the three calls together (`challengeRound`,
`ntlmsspExchange`) and states the client's side from the spec: the messages it sends
(`authenticateMessage`) and the responses it computes from the challenge it reads in the
CHALLENGE message (`ntlmv2Client`, `ntlmClient`). On a little-endian host:

* `challenge_round_echoes_request_target`: the CHALLENGE sets the server's flags and echoes
  the client's `NTLMSSP_REQUEST_TARGET`, and no other flag of the client;
* `decode_authenticateMessage_route`: the decoder reads back the security buffers a client
  writes, and routes the message by the length of its response;
* `exchange_accepts_ntlmv2_client`, `exchange_accepts_ntlm_client`: a client that knows the
  user's NT hash and answers the challenge it was sent is accepted, and the session key is
  the one the spec derives from the exchange;
* `exchange_accepts_only_answers`: whatever the client sends, an accepted AUTHENTICATE
  carries the answer to the challenge of this exchange's CHALLENGE message;
* `ntlmv2_replay_needs_collision`: an NTLMv2 AUTHENTICATE accepted under two challenges is
  an HMAC-MD5 collision;
* `ntlmv2_reject_returns_memcmp`: a wrong NTLMv2 proof is rejected with `memcmp`'s result,
  which can be positive, rather than with an errno.
-/

namespace KsmbdAuth

variable {P : Prims} {e : Endian} {w : World}

/-! ## The flags of a CHALLENGE -/

/-- The flags every CHALLENGE of this server sets, whatever the client asked for. -/
def serverFlags : Nat :=
  ntlmsspNegotiateUnicode ||| ntlmsspNegotiateNtlm ||| ntlmsspTargetTypeServer |||
    ntlmsspNegotiateTargetInfo ||| ntlmsspNegotiate128 ||| ntlmsspNegotiate56 |||
    ntlmsspNegotiateVersion

/-- The builder's test of the client's flags adds exactly their `NTLMSSP_REQUEST_TARGET`
bit to the server's flags. -/
theorem challengeFlags_eq (f : Nat) :
    challengeFlags f = serverFlags ||| (f &&& ntlmsspRequestTarget) := by
  have h : f &&& ntlmsspRequestTarget = (f.testBit 2).toNat * 4 := Nat.and_two_pow f 2
  unfold challengeFlags
  rw [h]
  cases f.testBit 2 <;> rfl

theorem challengeFlags_lt (f : Nat) : challengeFlags f < 2 ^ 32 := by
  unfold challengeFlags
  split <;> decide

/-! ## NEGOTIATE -/

/-- The flags `decode_ntlmssp_negotiate_blob` records from a message, `none` when the size
or the signature check fails. -/
def negotiateFlagsOf (e : Endian) (negblob : List UInt8) : Option Nat :=
  if negblob.length < negotiateMessageSize then none
  else if memcmp (negblob.take 8) ntlmsspSignature ≠ 0 then none
  else some (fieldAt e negblob negNegotiateFlags 4)

theorem decodeNtlmsspNegotiateBlob_eq (negblob : List UInt8) :
    decodeNtlmsspNegotiateBlob e negblob =
      match negotiateFlagsOf e negblob with
      | none => fail (-einval)
      | some f => modifySess fun s => { s with clientFlags := f } := by
  unfold decodeNtlmsspNegotiateBlob negotiateFlagsOf
  by_cases hlen : negblob.length < negotiateMessageSize
  · simp only [hlen, if_true]
  · simp only [negotiateMessageSize] at hlen
    simp only [negotiateMessageSize, hlen, if_false, List.drop_zero, defined_some, pure_bind_M,
      readBytes_of_le (show 0 + 8 ≤ negblob.length by omega),
      loadField_of_le (show negNegotiateFlags + 4 ≤ negblob.length by
        simp only [negNegotiateFlags]; omega)]
    split_ifs <;> rfl

/-! ## AUTHENTICATE as a client writes it -/

theorem fieldAt_append_right {a b : List UInt8} {off n : Nat} (h : a.length ≤ off) :
    fieldAt e (a ++ b) off n = fieldAt e b (off - a.length) n := by
  rw [fieldAt, fieldAt, List.drop_append_eq_append_drop, List.drop_eq_nil_of_le h, List.nil_append]

theorem fieldAt_prefix {a b : List UInt8} {n : Nat} (h : a.length = n) :
    fieldAt e (a ++ b) 0 n = e.load a := by
  rw [fieldAt, List.drop_zero, List.take_left' h]

/-- A little-endian host reads back the descriptors written into an AUTHENTICATE message,
and routes it by the length of its response. -/
theorem authRoute_authMessage {ntLen ntOff dLen dOff : Nat} {payload : List UInt8}
    (hnt : ntLen < 2 ^ 16) (hoff : ntOff < 2 ^ 32) (hd : dLen < 2 ^ 16) (hdo : dOff < 2 ^ 32) :
    authRoute .little (authMessage ntLen ntOff dLen dOff payload) =
      some (if ntLen = cifsAuthRespSize then .ntlm ntOff
        else .ntlmv2 ntOff ((ntLen : Int) - cifsEncpwdSize) dOff dLen) := by
  have hlen : ¬(authMessage ntLen ntOff dLen dOff payload).length < authenticateMessageSize := by
    simp [authMessage, authenticateMessageSize]; omega
  have hsig : (authMessage ntLen ntOff dLen dOff payload).take 8 = ntlmsspSignature := by
    simp [authMessage]
  have h1 : ntLen % 65536 = ntLen := Nat.mod_eq_of_lt hnt
  have h2 : ntOff % 4294967296 = ntOff := Nat.mod_eq_of_lt hoff
  have h3 : dLen % 65536 = dLen := Nat.mod_eq_of_lt hd
  have h4 : dOff % 4294967296 = dOff := Nat.mod_eq_of_lt hdo
  have hm : memcmp ntlmsspSignature ntlmsspSignature = 0 := rfl
  rw [authRoute, if_neg hlen, hsig, hm, if_neg (not_not.mpr rfl)]
  simp (disch := first | (simp only [length_leBytes, List.length_replicate,
      length_ntlmsspSignature, List.length_append]; first | done | omega) | omega) only [
    authMessage, List.append_assoc, fieldAt_append_right, fieldAt_prefix, authNtChallengeResponse,
    authDomainName, load_little, leValue_leBytes, length_leBytes, List.length_replicate,
    length_ntlmsspSignature, Nat.reduceAdd, Nat.reduceSub, Nat.reducePow, h1, h2, h3, h4]
  split_ifs <;> rfl

/-- The response length of a message routed to NTLMv2 is a 16-bit field. -/
theorem authRoute_ntlmv2_lt {blob : List UInt8} {off ntLen dOff dLen : Nat}
    (h : authRoute e blob = some (.ntlmv2 off ((ntLen : Int) - cifsEncpwdSize) dOff dLen)) :
    ntLen < 2 ^ 16 := by
  have hb := e.load_lt ((blob.drop authNtChallengeResponse).take 2)
  have hl : 256 ^ ((blob.drop authNtChallengeResponse).take 2).length ≤ 256 ^ 2 :=
    Nat.pow_le_pow_right (by decide) (List.length_take_le _ _)
  simp only [authRoute, fieldAt] at h
  split_ifs at h <;> simp only [Option.some.injEq, AuthRoute.ntlmv2.injEq, reduceCtorEq] at h
  omega

/-- A comparison of a response of `Length` at least 16 read the whole response. -/
theorem readBytes_of_ntlmv2Check {s : Sess} {buf : List UInt8} {off ntLen : Nat}
    {d : List UInt8} {v : Int × ByteBuf 16}
    (hv : ntlmv2Check P s buf off ((ntLen : Int) - cifsEncpwdSize) (some d) = some v)
    (hlen : 16 ≤ ntLen) (hmax : ntLen < 2 ^ 16) : ∃ r, readBytes buf off ntLen = some r := by
  have hblen : toSizeT ((ntLen : Int) - cifsEncpwdSize) = ntLen - 16 := by
    rw [cifsEncpwdSize, toSizeT_of_nonneg (by omega) (by omega)]
    omega
  cases hb : readBytes buf (off + cifsEncpwdSize) (ntLen - 16) with
  | none => simp [ntlmv2Check, hblen, hb] at hv
  | some blob =>
    obtain ⟨hin, -⟩ := readBytes_eq_some.mp hb
    exact ⟨_, readBytes_of_le (by simp only [cifsEncpwdSize] at hin; omega)⟩

/-- An NTLMv2 message with a response of `Length` at least 16 is accepted only when the
response `r` and the domain lie inside it and `r` starts with the proof `P` for the domain
the message names; the session key then starts with `H(K, P)`. -/
theorem okSpec_decode_ntlmv2_response {blob : List UInt8} {off ntLen dOff dLen : Nat}
    (hr : authRoute e blob = some (.ntlmv2 off ((ntLen : Int) - cifsEncpwdSize) dOff dLen))
    (h16 : 16 ≤ ntLen) :
    OkSpec (decodeNtlmsspAuthenticateBlob P e blob)
      (fun _ w' => ∃ r dom, readBytes blob off ntLen = some r ∧
        readBytes blob dOff dLen = some dom ∧
        r.take 16 = (ntlmv2Proof P (ntlmv2Key P w.sess.usr.name w.sess.usr.passkey
          (P.fromUtf16 dom)) w.sess.cryptkey r).bytes ∧
        w'.sess = w.sess.setSessKey 0 (P.hmacmd5 (ntlmv2Key P w.sess.usr.name
          w.sess.usr.passkey (P.fromUtf16 dom)).bytes (r.take 16)) (by decide)) w := by
  have hmax := authRoute_ntlmv2_lt hr
  refine (okSpec_decode_ntlmv2 hr).mono ?_
  rintro _ w' ⟨k, hv, hs⟩
  cases hd : readBytes blob dOff dLen with
  | none => simp [authDomain, hd, ntlmv2Verdict, ntlmv2Check] at hv
  | some dom =>
    rw [authDomain, hd, Option.map_some'] at hv
    obtain ⟨c, hc, -⟩ := ntlmv2Verdict_eq_some.mp hv
    obtain ⟨r, hread⟩ := readBytes_of_ntlmv2Check hc h16 hmax
    rw [ntlmv2Verdict_eq hread h16 hmax, Option.some.injEq, Prod.mk.injEq,
      decide_eq_true_iff] at hv
    obtain ⟨hproof, rfl⟩ := hv
    exact ⟨r, dom, hread, rfl, hproof, by rw [hs, hproof]⟩

/-- Modelled from the spec: the AUTHENTICATE message a client sends with the response `nt`
and the UTF-16 bytes `dom` of its domain, both after the fixed header, the domain first. -/
def authenticateMessage (nt dom : List UInt8) : List UInt8 :=
  authMessage nt.length (authenticateMessageSize + dom.length) dom.length authenticateMessageSize
    (dom ++ nt)

section Client

variable {nt dom : List UInt8}

theorem readBytes_authMessage {ntLen ntOff dLen dOff off n : Nat} {payload : List UInt8} :
    readBytes (authMessage ntLen ntOff dLen dOff payload) (authenticateMessageSize + off) n =
      readBytes payload off n := by
  rw [authMessage, readBytes_append_right (by simp [authenticateMessageSize])]
  simp [authenticateMessageSize]

theorem readBytes_authenticateMessage_response :
    readBytes (authenticateMessage nt dom) (authenticateMessageSize + dom.length) nt.length =
      some nt := by
  rw [authenticateMessage, readBytes_authMessage, readBytes_append_right le_rfl, Nat.sub_self,
    readBytes_self]

theorem readBytes_authenticateMessage_domain :
    readBytes (authenticateMessage nt dom) authenticateMessageSize dom.length = some dom := by
  rw [authenticateMessage, ← Nat.add_zero authenticateMessageSize, readBytes_authMessage,
    readBytes_prefix rfl]

theorem authRoute_authenticateMessage (hnt : nt.length < 2 ^ 16) (hd : dom.length < 2 ^ 16) :
    authRoute .little (authenticateMessage nt dom) =
      some (if nt.length = cifsAuthRespSize then .ntlm (authenticateMessageSize + dom.length)
        else .ntlmv2 (authenticateMessageSize + dom.length) ((nt.length : Int) - cifsEncpwdSize)
          authenticateMessageSize dom.length) :=
  authRoute_authMessage hnt (by simp only [authenticateMessageSize]; omega) hd (by decide)

/-- On a little-endian host the decoder reads back the security buffers a client writes: it
hands a 24-byte response to `process_ntlm`, and any other to `process_ntlmv2` with the blob
length `Length - 16` and the domain string decoded from where the client put it. The
response and the domain are the bytes the client wrote. -/
theorem decode_authenticateMessage_route (hnt : nt.length < 2 ^ 16) (hd : dom.length < 2 ^ 16) :
    decodeNtlmsspAuthenticateBlob P .little (authenticateMessage nt dom) =
        (if nt.length = cifsAuthRespSize then
          processNtlm P (authenticateMessage nt dom) (authenticateMessageSize + dom.length)
        else smbStrndupFromUtf16 P (authenticateMessage nt dom) authenticateMessageSize dom.length >>=
          processNtlmv2 P (authenticateMessage nt dom) (authenticateMessageSize + dom.length)
            ((nt.length : Int) - cifsEncpwdSize)) ∧
      readBytes (authenticateMessage nt dom) (authenticateMessageSize + dom.length) nt.length =
        some nt ∧
      readBytes (authenticateMessage nt dom) authenticateMessageSize dom.length = some dom := by
  refine ⟨?_, readBytes_authenticateMessage_response, readBytes_authenticateMessage_domain⟩
  rw [decodeNtlmsspAuthenticateBlob_eq, authRoute_authenticateMessage hnt hd]
  split_ifs <;> rfl

/-- A 32-byte response and an empty domain: the message goes to `process_ntlmv2`. -/
theorem decode_authenticateMessage_route_sample :
    ((List.replicate 32 (0 : UInt8)).length < 2 ^ 16 ∧ ([] : List UInt8).length < 2 ^ 16) ∧
    (decodeNtlmsspAuthenticateBlob Prims.zeros .little (authenticateMessage (List.replicate 32 0) []) =
        (if (List.replicate 32 (0 : UInt8)).length = cifsAuthRespSize then
          processNtlm Prims.zeros (authenticateMessage (List.replicate 32 0) [])
            (authenticateMessageSize + ([] : List UInt8).length)
        else smbStrndupFromUtf16 Prims.zeros (authenticateMessage (List.replicate 32 0) [])
            authenticateMessageSize ([] : List UInt8).length >>=
          processNtlmv2 Prims.zeros (authenticateMessage (List.replicate 32 0) [])
            (authenticateMessageSize + ([] : List UInt8).length)
            (((List.replicate 32 (0 : UInt8)).length : Int) - cifsEncpwdSize)) ∧
      readBytes (authenticateMessage (List.replicate 32 0) [])
        (authenticateMessageSize + ([] : List UInt8).length) (List.replicate 32 (0 : UInt8)).length =
        some (List.replicate 32 0) ∧
      readBytes (authenticateMessage (List.replicate 32 0) []) authenticateMessageSize
        ([] : List UInt8).length = some []) :=
  ⟨⟨by decide, by decide⟩, decode_authenticateMessage_route (by decide) (by decide)⟩

end Client

/-! ## The clients -/

/-- Modelled from the spec: the server challenge a client reads from the `Challenge` field
of a CHALLENGE message. -/
def challengeOf (chg : List UInt8) : List UInt8 := (chg.drop chgChallenge).take 8

/-- Modelled from the spec: the NTLMv2 response of the user `u` with NT hash `p`, for the
domain `d` and the challenge `c`, around the client's `blob`: `H(K, c ++ blob)`, then the
blob. -/
def ntlmv2Response (P : Prims) (u : List UInt8) (p : ByteBuf 16) (d c blob : List UInt8) :
    List UInt8 :=
  (P.hmacmd5 (ntlmv2Key P u p d).bytes (c ++ blob)).bytes ++ blob

/-- Modelled from the spec: the NTLMv1 response of a user with NT hash `p` to the
challenge `c`, `E_P24` of the hash padded to 21 bytes. -/
def ntlmResponseTo (P : Prims) (p : ByteBuf 16) (c : List UInt8) : List UInt8 :=
  (P.eP24 (p.bytes ++ List.replicate 5 0) c).bytes

/-- Modelled from the spec: an NTLMv2 client of the user `u` with NT hash `p` in the domain
`d`, named by the UTF-16 bytes `dom`, answering the CHALLENGE message `chg`. -/
def ntlmv2Client (P : Prims) (u : List UInt8) (p : ByteBuf 16) (d dom blob chg : List UInt8) :
    List UInt8 :=
  authenticateMessage (ntlmv2Response P u p d (challengeOf chg) blob) dom

/-- Modelled from the spec: an NTLMv1 client of a user with NT hash `p`, answering the
CHALLENGE message `chg`. -/
def ntlmClient (P : Prims) (p : ByteBuf 16) (dom chg : List UInt8) : List UInt8 :=
  authenticateMessage (ntlmResponseTo P p (challengeOf chg)) dom

section Responses

variable {u d c blob : List UInt8} {p : ByteBuf 16}

@[simp] theorem length_ntlmv2Response : (ntlmv2Response P u p d c blob).length = 16 + blob.length := by
  simp [ntlmv2Response, ByteBuf.length_eq]

theorem take_ntlmv2Response :
    (ntlmv2Response P u p d c blob).take 16 = (P.hmacmd5 (ntlmv2Key P u p d).bytes (c ++ blob)).bytes :=
  List.take_left' (ByteBuf.length_eq _)

theorem drop_ntlmv2Response : (ntlmv2Response P u p d c blob).drop 16 = blob :=
  List.drop_left' (ByteBuf.length_eq _)

@[simp] theorem length_ntlmResponseTo : (ntlmResponseTo P p c).length = 24 := ByteBuf.length_eq _

end Responses

/-- `strncmp` finds no difference against a key the buffer agrees with. -/
theorem strncmp_of_agree {buf : List UInt8} : ∀ {key : List UInt8} {off : Nat},
    (∀ j < key.length, buf.get? (off + j) = key.get? j) → strncmp buf off key = some 0
  | [], _, _ => rfl
  | c :: rest, off, h => by
    have h0 : buf.get? off = some c := by simpa using h 0 (by simp)
    rw [strncmp, h0]
    simp only [ne_eq, not_true_eq_false, if_false]
    split_ifs
    · rfl
    · exact strncmp_of_agree fun j hj => by
        simpa [Nat.add_right_comm off 1 j, Nat.add_assoc] using h (j + 1) (by simp; omega)

theorem strncmp_of_readBytes {buf key : List UInt8} {off : Nat}
    (h : readBytes buf off key.length = some key) : strncmp buf off key = some 0 := by
  obtain ⟨-, htake⟩ := readBytes_eq_some.mp h
  refine strncmp_of_agree fun j hj => ?_
  rw [← htake]
  simp [List.getElem?_take, hj, List.getElem?_drop]

/-! ## The exchange -/

/-- The first round of an exchange on the session: the client's NEGOTIATE is decoded and
the CHALLENGE built into `chgblob` for the configured `netbios_name`. The CHALLENGE message,
the first `blob_len` bytes of the buffer, goes back to the client. -/
def challengeRound (P : Prims) (e : Endian) (negblob netbiosName chgblob : List UInt8) :
    M (List UInt8) := do
  decodeNtlmsspNegotiateBlob e negblob
  let (buf, blobLen) ← buildNtlmsspChallengeBlob P e netbiosName chgblob
  pure (buf.take blobLen)

/-- A whole exchange on the session: the first round, then the AUTHENTICATE message
`client chg` with which the client answers the CHALLENGE message `chg`. -/
def ntlmsspExchange (P : Prims) (e : Endian) (negblob netbiosName chgblob : List UInt8)
    (client : List UInt8 → List UInt8) : M (List UInt8) := do
  let chg ← challengeRound P e negblob netbiosName chgblob
  decodeNtlmsspAuthenticateBlob P e (client chg)
  pure chg

theorem length_challengeMessage {flags : Nat} {name reserved : List UInt8}
    {challenge : ByteBuf 8} (hres : reserved.length = 8) :
    (challengeMessage flags name challenge reserved).length =
      challengeMessageSize + name.length + (4 * (4 + name.length) + 4) := by
  simp only [challengeMessage, List.length_append, length_leBytes, length_ntlmsspSignature,
    ByteBuf.length_eq, hres, length_targetInfo, challengeMessageSize]

theorem challengeOf_challengeMessage {flags : Nat} {name reserved : List UInt8}
    {challenge : ByteBuf 8} :
    challengeOf (challengeMessage flags name challenge reserved) = challenge.bytes := by
  simp [challengeOf, challengeMessage, chgChallenge, List.drop_append_eq_append_drop,
    List.take_append_eq_append_take, ByteBuf.length_eq, List.drop_eq_nil_of_le, length_leBytes]

section Round

variable {negblob netbiosName chgblob : List UInt8} {f : Nat}

/-- On a little-endian host the first round records the client's flags, draws the
challenge, and sends the CHALLENGE message with both. -/
theorem runs_challengeRound_little (hneg : negotiateFlagsOf .little negblob = some f)
    (hfit : (P.toUtf16 netbiosName).length + 1 ≤ 8)
    (hroom : challengeMessageSize + unicodeLen (P.toUtf16 netbiosName).length +
      (4 * (4 + unicodeLen (P.toUtf16 netbiosName).length) + 4) ≤ chgblob.length) :
    Runs (challengeRound P .little negblob netbiosName chgblob)
      (fun chg w' => chg = challengeMessage (challengeFlags f) (utf16Bytes (P.toUtf16 netbiosName))
          w.env.random ((chgblob.drop 32).take 8) ∧
        w' = w.withSess { w.sess with clientFlags := f, cryptkey := w.env.random }) w := by
  unfold challengeRound
  rw [runs_bind, decodeNtlmsspNegotiateBlob_eq, hneg, runs_modifySess, runs_bind]
  refine (runs_buildNtlmsspChallengeBlob_little hfit hroom).mono ?_
  rintro ⟨buf, blobLen⟩ w' ⟨h, rfl⟩
  simp only [Prod.mk.injEq] at h
  obtain ⟨rfl, rfl⟩ := h
  have hres : ((chgblob.drop 32).take 8).length = 8 := by
    simp only [challengeMessageSize, unicodeLen] at hroom
    simp only [List.length_take, List.length_drop]
    omega
  rw [runs_pure, List.take_left' (by rw [length_challengeMessage hres, length_utf16Bytes])]
  exact ⟨rfl, rfl⟩

/-- The first round returns only on a NEGOTIATE the decoder accepts and a name the builder
handles, and then as `runs_challengeRound_little` says. -/
theorem okSpec_challengeRound_little
    (hroom : challengeMessageSize + unicodeLen (P.toUtf16 netbiosName).length +
      (4 * (4 + unicodeLen (P.toUtf16 netbiosName).length) + 4) ≤ chgblob.length) :
    OkSpec (challengeRound P .little negblob netbiosName chgblob)
      (fun chg w' => ∃ f, chg = challengeMessage (challengeFlags f)
          (utf16Bytes (P.toUtf16 netbiosName)) w.env.random ((chgblob.drop 32).take 8) ∧
        w' = w.withSess { w.sess with clientFlags := f, cryptkey := w.env.random }) w := by
  cases hneg : negotiateFlagsOf .little negblob with
  | none =>
    unfold challengeRound
    rw [okSpec_bind, decodeNtlmsspNegotiateBlob_eq, hneg]
    exact okSpec_fail
  | some f =>
    by_cases hfit : (P.toUtf16 netbiosName).length + 1 ≤ 8
    · exact (runs_challengeRound_little hneg hfit hroom).toOkSpec.mono fun _ _ h => ⟨f, h⟩
    · unfold challengeRound
      rw [okSpec_bind, decodeNtlmsspNegotiateBlob_eq, hneg, okSpec_modifySess, okSpec_bind]
      intro _ _ h
      rw [buildNtlmsspChallengeBlob_long_name (by omega)] at h
      cases h

/-- The `NegotiateFlags` field of a CHALLENGE message holds its flag word. -/
theorem wireField_challengeMessage_flags {flags : Nat} {name reserved : List UInt8}
    {challenge : ByteBuf 8} :
    wireField (challengeMessage flags name challenge reserved) chgNegotiateFlags 4 =
      some (flags % 2 ^ 32) := by
  simp (disch := first | (simp only [length_leBytes, length_ntlmsspSignature,
      List.length_append]; first | done | omega) | omega) only [wireField, challengeMessage,
    List.append_assoc, readBytes_append_right, readBytes_prefix, length_leBytes,
    length_ntlmsspSignature, chgNegotiateFlags, Option.map_some', leValue_leBytes, Nat.reduceAdd,
    Nat.reduceSub, Nat.reducePow]

/-- On a little-endian host, for every NEGOTIATE message the decoder accepts, with flags `f`,
and every name and buffer the builder handles, the CHALLENGE message sent back sets the
server's flags and, of the client's, exactly its `NTLMSSP_REQUEST_TARGET` bit; the session
records `f`. -/
theorem challenge_round_echoes_request_target (hneg : negotiateFlagsOf .little negblob = some f)
    (hfit : (P.toUtf16 netbiosName).length + 1 ≤ 8)
    (hroom : challengeMessageSize + unicodeLen (P.toUtf16 netbiosName).length +
      (4 * (4 + unicodeLen (P.toUtf16 netbiosName).length) + 4) ≤ chgblob.length) :
    Runs (challengeRound P .little negblob netbiosName chgblob)
      (fun chg w' => wireField chg chgNegotiateFlags 4 =
          some (serverFlags ||| (f &&& ntlmsspRequestTarget)) ∧ w'.sess.clientFlags = f) w := by
  refine (runs_challengeRound_little hneg hfit hroom).mono ?_
  rintro _ _ ⟨rfl, rfl⟩
  rw [wireField_challengeMessage_flags, Nat.mod_eq_of_lt (challengeFlags_lt f), challengeFlags_eq]
  exact ⟨rfl, rfl⟩

/-- A NEGOTIATE message with flags 7, which include `NTLMSSP_REQUEST_TARGET`, and the
server name `FSRV` into a 108-byte buffer on a new connection. -/
theorem challenge_round_echoes_request_target_sample :
    (negotiateFlagsOf .little (negotiateMessage 7) =
        some 7 ∧
      (Prims.zeros.toUtf16 [70, 83, 82, 86]).length + 1 ≤ 8 ∧
      challengeMessageSize + unicodeLen (Prims.zeros.toUtf16 [70, 83, 82, 86]).length +
        (4 * (4 + unicodeLen (Prims.zeros.toUtf16 [70, 83, 82, 86]).length) + 4) ≤
          (List.replicate 108 (0 : UInt8)).length) ∧
    Runs (challengeRound Prims.zeros .little (negotiateMessage 7) [70, 83, 82, 86]
        (List.replicate 108 0))
      (fun chg w' => wireField chg chgNegotiateFlags 4 =
          some (serverFlags ||| (7 &&& ntlmsspRequestTarget)) ∧ w'.sess.clientFlags = 7)
      World.sample :=
  ⟨⟨by decide, by decide, by decide⟩, challenge_round_echoes_request_target (by decide) (by decide) (by decide)⟩

end Round

/-- An NTLMv1 login that gets past `smb_mdfour` leaves the legacy hash of the NT hash and
the expected response in the 40 bytes of the session key. -/
theorem sessKey_ntlmCommit_true (s : Sess) :
    (ntlmCommit P s true).sessKey.bytes =
      (P.mdfour (s.usr.passkey.bytes.take cifsSmb1SesskeySize)).bytes ++ (ntlmResponse P s).bytes := by
  have h := s.sessKey.length_eq
  simp [ntlmCommit, Sess.setSessKey, ByteBuf.length_eq, cifsSmb1SesskeySize, h,
    List.take_append_eq_append_take, List.drop_append_eq_append_drop]

section Exchange

variable {negblob netbiosName chgblob dom blob d : List UInt8} {f : Nat}

/-- On a little-endian host, take a session of any user with NT hash `p`, a NEGOTIATE the
decoder accepts, a name and a buffer the builder handles, and a connection whose HMAC-MD5
slot is empty or populated and whose kernel answers every step with success. A client of
that user in the domain `d`, which it names by UTF-16 bytes the server decodes back to `d`,
answers the challenge `c` it reads in the CHALLENGE message with `H(K, c ++ blob) ++ blob`.
The exchange accepts it: `c` is the challenge the server drew, and the first 16 bytes of the
session key are `H(K, H(K, c ++ blob))`, with `K` the user's NTLMv2 key for `d`. -/
theorem exchange_accepts_ntlmv2_client (hclean : w.env.Clean)
    (hslot : (w.slot .hmacmd5).Empty ∨ (w.slot .hmacmd5).Populated)
    (hneg : negotiateFlagsOf .little negblob = some f)
    (hfit : (P.toUtf16 netbiosName).length + 1 ≤ 8)
    (hroom : challengeMessageSize + unicodeLen (P.toUtf16 netbiosName).length +
      (4 * (4 + unicodeLen (P.toUtf16 netbiosName).length) + 4) ≤ chgblob.length)
    (hdom : P.fromUtf16 dom = d) (hdlen : dom.length < 2 ^ 16)
    (hblob : 16 + blob.length ≠ cifsAuthRespSize) (hbmax : 16 + blob.length < 2 ^ 16) :
    Runs (ntlmsspExchange P .little negblob netbiosName chgblob
        (ntlmv2Client P w.sess.usr.name w.sess.usr.passkey d dom blob))
      (fun chg w' => challengeOf chg = w.env.random.bytes ∧
        w'.sess.sessKey.bytes.take 16 =
          (P.hmacmd5 (ntlmv2Key P w.sess.usr.name w.sess.usr.passkey d).bytes
            (P.hmacmd5 (ntlmv2Key P w.sess.usr.name w.sess.usr.passkey d).bytes
              (w.env.random.bytes ++ blob)).bytes).bytes) w := by
  unfold ntlmsspExchange ntlmv2Client
  rw [runs_bind]
  refine (runs_challengeRound_little hneg hfit hroom).mono ?_
  rintro chg _ ⟨rfl, rfl⟩
  rw [runs_bind, challengeOf_challengeMessage]
  set s₁ : Sess := { w.sess with clientFlags := f, cryptkey := w.env.random }
  set K := ntlmv2Key P w.sess.usr.name w.sess.usr.passkey d
  set r := ntlmv2Response P w.sess.usr.name w.sess.usr.passkey d w.env.random.bytes blob with hrdef
  have hlen : r.length = 16 + blob.length := length_ntlmv2Response
  have hr := authRoute_authenticateMessage (show r.length < 2 ^ 16 by rw [hlen]; exact hbmax) hdlen
  rw [if_neg (by rw [hlen]; exact hblob)] at hr
  have hv : ntlmv2Verdict P (w.withSess s₁).sess (authenticateMessage r dom)
      (authenticateMessageSize + dom.length) ((r.length : Int) - cifsEncpwdSize)
      (authDomain P (authenticateMessage r dom) authenticateMessageSize dom.length) =
        some (true, P.hmacmd5 K.bytes (P.hmacmd5 K.bytes (w.env.random.bytes ++ blob)).bytes) := by
    rw [authDomain, readBytes_authenticateMessage_domain, Option.map_some', hdom,
      ntlmv2Verdict_eq readBytes_authenticateMessage_response (by omega) (by omega)]
    simp only [ntlmv2Proof, hrdef, take_ntlmv2Response, drop_ntlmv2Response, World.withSess_sess,
      s₁, decide_True]
  refine (runs_decode_ntlmv2 (w := w.withSess s₁) hclean hslot hr hv).mono ?_
  rintro _ _ ⟨hs, -⟩
  rw [runs_pure, hs, Sess.setSessKey_zero_take]
  exact ⟨challengeOf_challengeMessage, rfl⟩

/-- The exchange on a new connection, with an NTLMv2 client of the session's user that sends
a 16-byte blob and an empty domain. -/
theorem exchange_accepts_ntlmv2_client_sample :
    (World.sample.env.Clean ∧
      ((World.sample.slot .hmacmd5).Empty ∨
        (World.sample.slot .hmacmd5).Populated) ∧
      negotiateFlagsOf .little (negotiateMessage 7) =
        some 7 ∧
      (Prims.zeros.toUtf16 [70, 83, 82, 86]).length + 1 ≤ 8 ∧
      challengeMessageSize + unicodeLen (Prims.zeros.toUtf16 [70, 83, 82, 86]).length +
        (4 * (4 + unicodeLen (Prims.zeros.toUtf16 [70, 83, 82, 86]).length) + 4) ≤
          (List.replicate 108 (0 : UInt8)).length ∧
      Prims.zeros.fromUtf16 [] = [] ∧ ([] : List UInt8).length < 2 ^ 16 ∧
      16 + (List.replicate 16 (0 : UInt8)).length ≠ cifsAuthRespSize ∧
      16 + (List.replicate 16 (0 : UInt8)).length < 2 ^ 16) ∧
    Runs (ntlmsspExchange Prims.zeros .little (negotiateMessage 7) [70, 83, 82, 86]
        (List.replicate 108 0)
        (ntlmv2Client Prims.zeros World.sample.sess.usr.name
          World.sample.sess.usr.passkey [] []
          (List.replicate 16 0)))
      (fun chg w' => challengeOf chg = World.sample.env.random.bytes ∧
        w'.sess.sessKey.bytes.take 16 =
          (Prims.zeros.hmacmd5 (ntlmv2Key Prims.zeros
              World.sample.sess.usr.name
              World.sample.sess.usr.passkey []).bytes
            (Prims.zeros.hmacmd5 (ntlmv2Key Prims.zeros
                World.sample.sess.usr.name
                World.sample.sess.usr.passkey []).bytes
              (World.sample.env.random.bytes ++
                List.replicate 16 0)).bytes).bytes)
      World.sample :=
  have hneg : negotiateFlagsOf .little (negotiateMessage 7) = some 7 := by decide
  ⟨⟨Env.clean_Clean _, .inl ⟨rfl, rfl⟩, hneg, by decide, by decide, rfl, by decide, by decide,
    by decide⟩,
    exchange_accepts_ntlmv2_client (Env.clean_Clean _) (.inl ⟨rfl, rfl⟩) hneg (by decide)
      (by decide) rfl (by decide) (by decide) (by decide)⟩

/-- On a little-endian host, take a session of any user with NT hash `p`, a NEGOTIATE the
decoder accepts, a name and a buffer the builder handles, and a kernel that answers every
step with success. A client that answers the challenge `c` it reads in the CHALLENGE
message with the 24-byte `E_P24` response of `p` padded to 21 bytes is accepted: `c` is the
challenge the server drew, the session key is the legacy hash of `p` followed by that
response, and the sequence number is 1. -/
theorem exchange_accepts_ntlm_client (hclean : w.env.Clean)
    (hneg : negotiateFlagsOf .little negblob = some f)
    (hfit : (P.toUtf16 netbiosName).length + 1 ≤ 8)
    (hroom : challengeMessageSize + unicodeLen (P.toUtf16 netbiosName).length +
      (4 * (4 + unicodeLen (P.toUtf16 netbiosName).length) + 4) ≤ chgblob.length)
    (hdlen : dom.length < 2 ^ 16) :
    Runs (ntlmsspExchange P .little negblob netbiosName chgblob
        (ntlmClient P w.sess.usr.passkey dom))
      (fun chg w' => challengeOf chg = w.env.random.bytes ∧
        w'.sess.sessKey.bytes = (P.mdfour w.sess.usr.passkey.bytes).bytes ++
          ntlmResponseTo P w.sess.usr.passkey w.env.random.bytes ∧
        w'.sess.sequenceNumber = 1) w := by
  unfold ntlmsspExchange ntlmClient
  rw [runs_bind]
  refine (runs_challengeRound_little hneg hfit hroom).mono ?_
  rintro chg _ ⟨rfl, rfl⟩
  rw [runs_bind, challengeOf_challengeMessage]
  set s₁ : Sess := { w.sess with clientFlags := f, cryptkey := w.env.random }
  set r := ntlmResponseTo P w.sess.usr.passkey w.env.random.bytes
  have hr := authRoute_authenticateMessage (show r.length < 2 ^ 16 by simp [r]) hdlen
  rw [if_pos (by simp [r, cifsAuthRespSize])] at hr
  have hkey : (ntlmResponse P (w.withSess s₁).sess).bytes = r := by
    simp [ntlmResponse, ntlmResponseTo, r, s₁, cifsNthashSize]
  refine (runs_decode_ntlm (w := w.withSess s₁) hclean hr
    (hkey ▸ strncmp_of_readBytes readBytes_authenticateMessage_response)).mono ?_
  rintro _ _ ⟨hs, -⟩
  rw [runs_pure, hs, sessKey_ntlmCommit_true, hkey]
  simp [s₁, cifsSmb1SesskeySize, ntlmCommit, challengeOf_challengeMessage]

/-- The exchange on a new connection, with an NTLMv1 client of the session's user. -/
theorem exchange_accepts_ntlm_client_sample :
    (World.sample.env.Clean ∧
      negotiateFlagsOf .little (negotiateMessage 7) =
        some 7 ∧
      (Prims.zeros.toUtf16 [70, 83, 82, 86]).length + 1 ≤ 8 ∧
      challengeMessageSize + unicodeLen (Prims.zeros.toUtf16 [70, 83, 82, 86]).length +
        (4 * (4 + unicodeLen (Prims.zeros.toUtf16 [70, 83, 82, 86]).length) + 4) ≤
          (List.replicate 108 (0 : UInt8)).length ∧
      ([] : List UInt8).length < 2 ^ 16) ∧
    Runs (ntlmsspExchange Prims.zeros .little (negotiateMessage 7) [70, 83, 82, 86]
        (List.replicate 108 0)
        (ntlmClient Prims.zeros World.sample.sess.usr.passkey []))
      (fun chg w' => challengeOf chg = World.sample.env.random.bytes ∧
        w'.sess.sessKey.bytes = (Prims.zeros.mdfour
            World.sample.sess.usr.passkey.bytes).bytes ++
          ntlmResponseTo Prims.zeros World.sample.sess.usr.passkey
            World.sample.env.random.bytes ∧
        w'.sess.sequenceNumber = 1)
      World.sample :=
  have hneg : negotiateFlagsOf .little (negotiateMessage 7) = some 7 := by decide
  ⟨⟨Env.clean_Clean _, hneg, by decide, by decide, by decide⟩,
    exchange_accepts_ntlm_client (Env.clean_Clean _) hneg (by decide) (by decide) (by decide)⟩

/-- On a little-endian host, for every client (any function from the CHALLENGE message it
receives to the AUTHENTICATE it sends), every NEGOTIATE and every name, with a buffer that
holds the CHALLENGE: when the exchange returns normally, the CHALLENGE message carries the
session's challenge, and the accepted AUTHENTICATE answers it. Routed to NTLMv1, its
response agrees under `strncmp` with the `E_P24` response to that challenge. Routed to
NTLMv2 with a `Length` of at least 16, its response is what the NTLMv2 client computes from
that challenge with the same blob, for the domain the message names. -/
theorem exchange_accepts_only_answers
    (hroom : challengeMessageSize + unicodeLen (P.toUtf16 netbiosName).length +
      (4 * (4 + unicodeLen (P.toUtf16 netbiosName).length) + 4) ≤ chgblob.length)
    (client : List UInt8 → List UInt8) :
    OkSpec (ntlmsspExchange P .little negblob netbiosName chgblob client)
      (fun chg w' => challengeOf chg = w'.sess.cryptkey.bytes ∧
        (∀ off, authRoute .little (client chg) = some (.ntlm off) →
          strncmp (client chg) off (ntlmResponseTo P w.sess.usr.passkey (challengeOf chg)) =
            some 0) ∧
        (∀ off (ntLen : Nat) dOff dLen, authRoute .little (client chg) =
            some (.ntlmv2 off ((ntLen : Int) - cifsEncpwdSize) dOff dLen) → 16 ≤ ntLen →
          ∃ r dom, readBytes (client chg) off ntLen = some r ∧
            readBytes (client chg) dOff dLen = some dom ∧
            r = ntlmv2Response P w.sess.usr.name w.sess.usr.passkey (P.fromUtf16 dom)
              (challengeOf chg) (r.drop 16))) w := by
  unfold ntlmsspExchange
  rw [okSpec_bind]
  intro chg w₁ hround
  obtain ⟨f, rfl, rfl⟩ := okSpec_challengeRound_little hroom chg w₁ hround
  rw [okSpec_bind]
  intro _ w' hdec
  obtain ⟨-, -, hc⟩ := okSpec_decode_accepts _ _ hdec
  rw [okSpec_pure, hc, challengeOf_challengeMessage]
  refine ⟨rfl, fun off hr => ?_, fun off ntLen dOff dLen hr h16 => ?_⟩
  · have hkey : ntlmResponseTo P w.sess.usr.passkey w.env.random.bytes =
        (ntlmResponse P { w.sess with clientFlags := f, cryptkey := w.env.random }).bytes := by
      simp [ntlmResponse, ntlmResponseTo, cifsNthashSize]
    rw [hkey]
    exact (okSpec_decode_ntlm hr _ _ hdec).1
  · obtain ⟨r, dom, hread, hdom, hproof, -⟩ := okSpec_decode_ntlmv2_response hr h16 _ _ hdec
    refine ⟨r, dom, hread, hdom, ?_⟩
    calc r = r.take 16 ++ r.drop 16 := (List.take_append_drop 16 r).symm
      _ = _ := by rw [hproof]; rfl
end Exchange

/-- The exchange on a new connection with an NTLMv1 client that holds the zero NT hash. -/
theorem exchange_accepts_only_answers_sample :
    challengeMessageSize + unicodeLen (Prims.zeros.toUtf16 [70, 83, 82, 86]).length +
        (4 * (4 + unicodeLen (Prims.zeros.toUtf16 [70, 83, 82, 86]).length) + 4) ≤
          (List.replicate 108 (0 : UInt8)).length ∧
    OkSpec (ntlmsspExchange Prims.zeros .little (negotiateMessage 7) [70, 83, 82, 86]
        (List.replicate 108 0) (ntlmClient Prims.zeros (ByteBuf.zero 16) []))
      (fun chg w' => challengeOf chg = w'.sess.cryptkey.bytes ∧
        (∀ off, authRoute .little (ntlmClient Prims.zeros (ByteBuf.zero 16) [] chg) =
            some (.ntlm off) →
          strncmp (ntlmClient Prims.zeros (ByteBuf.zero 16) [] chg) off
            (ntlmResponseTo Prims.zeros
              World.sample.sess.usr.passkey (challengeOf chg)) =
            some 0) ∧
        (∀ off (ntLen : Nat) dOff dLen, authRoute .little
            (ntlmClient Prims.zeros (ByteBuf.zero 16) [] chg) =
            some (.ntlmv2 off ((ntLen : Int) - cifsEncpwdSize) dOff dLen) → 16 ≤ ntLen →
          ∃ r dom, readBytes (ntlmClient Prims.zeros (ByteBuf.zero 16) [] chg) off ntLen = some r ∧
            readBytes (ntlmClient Prims.zeros (ByteBuf.zero 16) [] chg) dOff dLen = some dom ∧
            r = ntlmv2Response Prims.zeros World.sample.sess.usr.name
              World.sample.sess.usr.passkey
              (Prims.zeros.fromUtf16 dom) (challengeOf chg) (r.drop 16)))
      World.sample :=
  ⟨by decide, exchange_accepts_only_answers (by decide) _⟩

/-! ## Replays -/

section Replay

variable {blob : List UInt8} {off ntLen dOff dLen : Nat} {w₁ w₂ w₁' w₂' : World}

/-- One AUTHENTICATE message, routed to NTLMv2 with a response `r` of `Length` at least 16,
accepted on two sessions of one user whose challenges are `c₁` and `c₂`: HMAC-MD5 under the
user's key for the domain the message names gives `c₁ ++ r[16..)` and `c₂ ++ r[16..)` the
same proof, and for `c₁ ≠ c₂` these are different messages. A replay under a fresh
challenge is accepted only on an HMAC-MD5 collision. -/
theorem ntlmv2_replay_needs_collision
    (hr : authRoute e blob = some (.ntlmv2 off ((ntLen : Int) - cifsEncpwdSize) dOff dLen))
    (h16 : 16 ≤ ntLen) (hu : w₂.sess.usr = w₁.sess.usr)
    (h₁ : decodeNtlmsspAuthenticateBlob P e blob w₁ = .ok () w₁')
    (h₂ : decodeNtlmsspAuthenticateBlob P e blob w₂ = .ok () w₂') :
    ∃ r dom, readBytes blob off ntLen = some r ∧ readBytes blob dOff dLen = some dom ∧
      ntlmv2Proof P (ntlmv2Key P w₁.sess.usr.name w₁.sess.usr.passkey (P.fromUtf16 dom))
          w₁.sess.cryptkey r =
        ntlmv2Proof P (ntlmv2Key P w₁.sess.usr.name w₁.sess.usr.passkey (P.fromUtf16 dom))
          w₂.sess.cryptkey r ∧
      (w₁.sess.cryptkey ≠ w₂.sess.cryptkey →
        w₁.sess.cryptkey.bytes ++ r.drop 16 ≠ w₂.sess.cryptkey.bytes ++ r.drop 16) := by
  obtain ⟨r, dom, hread, hdom, hp₁, -⟩ := okSpec_decode_ntlmv2_response hr h16 _ _ h₁
  obtain ⟨r', dom', hread', hdom', hp₂, -⟩ := okSpec_decode_ntlmv2_response hr h16 _ _ h₂
  obtain rfl : r = r' := Option.some.inj (hread.symm.trans hread')
  obtain rfl : dom = dom' := Option.some.inj (hdom.symm.trans hdom')
  rw [hu] at hp₂
  exact ⟨r, dom, hread, hdom, ByteBuf.ext (hp₁.symm.trans hp₂),
    fun hc heq => hc (ByteBuf.ext (List.append_cancel_right heq))⟩

/-- On a kernel whose HMAC-MD5 is constant, the same 32-byte zero response is accepted under
the zero challenge and under another one. -/
theorem ntlmv2_replay_needs_collision_sample :
    ∃ w₁' w₂', (authRoute .little (authenticateMessage (List.replicate 32 0) []) =
          some (.ntlmv2 64 (((32 : Nat) : Int) - cifsEncpwdSize) 64 0) ∧ 16 ≤ 32 ∧
        (World.sample.withSess
          { Sess.sample 0 (ByteBuf.zero 40) with cryptkey := ⟨[1, 0, 0, 0, 0, 0, 0, 0], rfl⟩ }).sess.usr =
          World.sample.sess.usr ∧
        decodeNtlmsspAuthenticateBlob Prims.zeros .little (authenticateMessage (List.replicate 32 0) [])
          World.sample = .ok () w₁' ∧
        decodeNtlmsspAuthenticateBlob Prims.zeros .little (authenticateMessage (List.replicate 32 0) [])
          (World.sample.withSess
          { Sess.sample 0 (ByteBuf.zero 40) with cryptkey := ⟨[1, 0, 0, 0, 0, 0, 0, 0], rfl⟩ }) = .ok () w₂') ∧
      ∃ r dom, readBytes (authenticateMessage (List.replicate 32 0) []) 64 32 = some r ∧
        readBytes (authenticateMessage (List.replicate 32 0) []) 64 0 = some dom ∧
        ntlmv2Proof Prims.zeros (ntlmv2Key Prims.zeros World.sample.sess.usr.name
            World.sample.sess.usr.passkey (Prims.zeros.fromUtf16 dom))
            World.sample.sess.cryptkey r =
          ntlmv2Proof Prims.zeros (ntlmv2Key Prims.zeros World.sample.sess.usr.name
            World.sample.sess.usr.passkey (Prims.zeros.fromUtf16 dom))
            (World.sample.withSess
          { Sess.sample 0 (ByteBuf.zero 40) with cryptkey := ⟨[1, 0, 0, 0, 0, 0, 0, 0], rfl⟩ }).sess.cryptkey r ∧
        (World.sample.sess.cryptkey ≠ (World.sample.withSess
          { Sess.sample 0 (ByteBuf.zero 40) with cryptkey := ⟨[1, 0, 0, 0, 0, 0, 0, 0], rfl⟩ }).sess.cryptkey →
          World.sample.sess.cryptkey.bytes ++ r.drop 16 ≠ (World.sample.withSess
          { Sess.sample 0 (ByteBuf.zero 40) with cryptkey := ⟨[1, 0, 0, 0, 0, 0, 0, 0], rfl⟩ }).sess.cryptkey.bytes ++ r.drop 16) :=
  have hr : authRoute .little (authenticateMessage (List.replicate 32 0) []) =
      some (.ntlmv2 64 (((32 : Nat) : Int) - cifsEncpwdSize) 64 0) := by decide
  let ⟨w₁', h₁⟩ : ∃ w₁', decodeNtlmsspAuthenticateBlob Prims.zeros .little
      (authenticateMessage (List.replicate 32 0) []) World.sample = .ok () w₁' := ⟨_, rfl⟩
  let ⟨w₂', h₂⟩ : ∃ w₂', decodeNtlmsspAuthenticateBlob Prims.zeros .little
      (authenticateMessage (List.replicate 32 0) []) (World.sample.withSess
          { Sess.sample 0 (ByteBuf.zero 40) with cryptkey := ⟨[1, 0, 0, 0, 0, 0, 0, 0], rfl⟩ }) = .ok () w₂' := ⟨_, rfl⟩
  ⟨w₁', w₂', ⟨hr, by decide, rfl, h₁, h₂⟩, ntlmv2_replay_needs_collision hr (by decide) rfl h₁ h₂⟩

end Replay

/-! ## Rejected responses -/

section Reject

variable {blob r dom : List UInt8} {off ntLen dOff dLen : Nat}

/-- An NTLMv2 message whose response `r` and domain lie inside it, and whose proof
`r[0..16)` is not the expected `P`, is rejected on a clean kernel, and the decoder returns
`memcmp(r[0..16), P)`: not an errno but the difference of the first bytes that differ,
which is positive when the client's byte is the larger. -/
theorem ntlmv2_reject_returns_memcmp (hclean : w.env.Clean)
    (hslot : (w.slot .hmacmd5).Empty ∨ (w.slot .hmacmd5).Populated)
    (hr : authRoute e blob = some (.ntlmv2 off ((ntLen : Int) - cifsEncpwdSize) dOff dLen))
    (h16 : 16 ≤ ntLen) (hread : readBytes blob off ntLen = some r)
    (hdom : readBytes blob dOff dLen = some dom)
    (hne : r.take 16 ≠ (ntlmv2Proof P (ntlmv2Key P w.sess.usr.name w.sess.usr.passkey
      (P.fromUtf16 dom)) w.sess.cryptkey r).bytes) :
    ∃ w', decodeNtlmsspAuthenticateBlob P e blob w = .err (memcmp (r.take 16)
      (ntlmv2Proof P (ntlmv2Key P w.sess.usr.name w.sess.usr.passkey (P.fromUtf16 dom))
        w.sess.cryptkey r).bytes) w' := by
  have h := processNtlmv2_rejects_with_memcmp (w := w.allocTick) (P := P) (d := P.fromUtf16 dom)
    (by simpa using hclean) (by simpa using hslot) hread h16 (authRoute_ntlmv2_lt hr)
    (by simpa using hne)
  rw [exists_err_iff_safe] at h ⊢
  rw [decodeNtlmsspAuthenticateBlob_eq, hr, safe_bind]
  refine (runs_smbStrndupFromUtf16.mpr ⟨dom, hdom, by simp [hclean.2], rfl⟩ :
    Runs _ (fun dn w₁ => dn = some (P.fromUtf16 dom) ∧ w₁ = w.allocTick) w).safe ?_
  rintro _ _ ⟨rfl, rfl⟩
  simpa using h

/-- With the zero-answering primitives the expected proof is 16 zero bytes, and a response
whose proof starts with the byte 1 is rejected with the positive code 1. -/
theorem ntlmv2_reject_returns_memcmp_sample :
    (World.sample.env.Clean ∧
      ((World.sample.slot .hmacmd5).Empty ∨
        (World.sample.slot .hmacmd5).Populated) ∧
      authRoute .little (authenticateMessage (1 :: List.replicate 31 0) []) =
        some (.ntlmv2 64 (((32 : Nat) : Int) - cifsEncpwdSize) 64 0) ∧ 16 ≤ 32 ∧
      readBytes (authenticateMessage (1 :: List.replicate 31 0) []) 64 32 =
        some (1 :: List.replicate 31 0) ∧
      readBytes (authenticateMessage (1 :: List.replicate 31 0) []) 64 0 = some [] ∧
      (1 :: List.replicate 31 0 : List UInt8).take 16 ≠
        (ntlmv2Proof Prims.zeros (ntlmv2Key Prims.zeros [] (ByteBuf.zero 16) [])
          (ByteBuf.zero 8) (1 :: List.replicate 31 0)).bytes) ∧
    ∃ w', decodeNtlmsspAuthenticateBlob Prims.zeros .little
      (authenticateMessage (1 :: List.replicate 31 0) [])
      World.sample = .err 1 w' :=
  have hr : authRoute .little (authenticateMessage (1 :: List.replicate 31 0) []) =
      some (.ntlmv2 64 (((32 : Nat) : Int) - cifsEncpwdSize) 64 0) := by decide
  have hne : (1 :: List.replicate 31 0 : List UInt8).take 16 ≠
      (ntlmv2Proof Prims.zeros (ntlmv2Key Prims.zeros [] (ByteBuf.zero 16) [])
        (ByteBuf.zero 8) (1 :: List.replicate 31 0)).bytes := by decide
  ⟨⟨Env.clean_Clean _, .inl ⟨rfl, rfl⟩, hr, by decide, rfl, rfl, hne⟩,
    ntlmv2_reject_returns_memcmp (P := Prims.zeros) (w := World.sample)
      (Env.clean_Clean _) (.inl ⟨rfl, rfl⟩) hr (by decide) rfl rfl hne⟩

end Reject

end KsmbdAuth
