import KsmbdAuth.Blob
import KsmbdAuth.NtlmSpec

/-!
# What an AUTHENTICATE message does

`decode_ntlmssp_authenticate_blob` checks the size and the signature, reads the two
security-buffer descriptors, and hands the message to one of the two verifiers. This file
states that routing once, as the pure function `authRoute`, and proves the decoder equal to
the verifier `authRoute` picks (`decodeNtlmsspAuthenticateBlob_eq`). From there:

* `okSpec_decode_*`: what an accepted message tells about the session it was checked
  against, on each route;
* `runs_decode_*`: when every allocation and step succeeds, a message whose check passes
  is accepted;
* `ntlmResponse_congr`, `ntlmv2Verdict_congr`: both checks read the session only through
  its user and its challenge.

Later files reason about AUTHENTICATE through these lemmas and never unfold the decoder. The
last section defines sample primitives, sessions and messages on which the model runs.
-/

namespace KsmbdAuth

variable {P : Prims} {e : Endian} {w : World} {blob : List UInt8}

/-! ## The route of a message -/

/-- The value a host with byte order `e` reads from the `n`-byte field at `off`. -/
def fieldAt (e : Endian) (blob : List UInt8) (off n : Nat) : Nat :=
  e.load ((blob.drop off).take n)

/-- Where `decode_ntlmssp_authenticate_blob` sends a message that passes its checks. -/
inductive AuthRoute where
  /-- `process_ntlm` on the response at `off` -/
  | ntlm (off : Nat)
  /-- `process_ntlmv2` on the response at `off` with client blob length `blen`, after
  decoding the domain name from `dLen` bytes at `dOff` -/
  | ntlmv2 (off : Nat) (blen : Int) (dOff dLen : Nat)
  deriving DecidableEq, Repr

/-- The decoder's checks and field reads as a function of the message: `none` when the
size or the signature check fails. -/
def authRoute (e : Endian) (blob : List UInt8) : Option AuthRoute :=
  if blob.length < authenticateMessageSize then none
  else if memcmp (blob.take 8) ntlmsspSignature ≠ 0 then none
  else
    let ntLen := fieldAt e blob authNtChallengeResponse 2
    let ntOff := fieldAt e blob (authNtChallengeResponse + 4) 4
    if ntLen = cifsAuthRespSize then some (.ntlm ntOff)
    else some (.ntlmv2 ntOff ((ntLen : Int) - cifsEncpwdSize) (fieldAt e blob (authDomainName + 4) 4)
      (fieldAt e blob authDomainName 2))

/-- The domain string the decoder passes to `process_ntlmv2` when its allocation succeeds. -/
def authDomain (P : Prims) (blob : List UInt8) (dOff dLen : Nat) : Option (List UInt8) :=
  (readBytes blob dOff dLen).map P.fromUtf16

theorem pure_bind_M {α β : Type} (a : α) (f : α → M β) : (pure a >>= f : M β) = f a := rfl

theorem defined_some {α : Type} (why : Ub) (a : α) : defined why (some a) = pure a := rfl

/-- A field inside the buffer reads as `fieldAt`. -/
theorem loadField_of_le {buf : List UInt8} {off n : Nat} (h : off + n ≤ buf.length) :
    loadField e buf off n = pure (fieldAt e buf off n) := by
  rw [loadField, readBytes_of_le h, defined_some, pure_bind_M, fieldAt]

theorem loadField_append_right {a b : List UInt8} {off n : Nat} (h : a.length ≤ off) :
    loadField e (a ++ b) off n = loadField e b (off - a.length) n := by
  simp only [loadField, readBytes_append_right h]

theorem loadField_prefix {a b : List UInt8} {n : Nat} (h : a.length = n) :
    loadField e (a ++ b) 0 n = pure (e.load a) := by
  rw [loadField, readBytes_prefix h]
  rfl

/-- The decoder is the verifier its route picks. -/
theorem decodeNtlmsspAuthenticateBlob_eq :
    decodeNtlmsspAuthenticateBlob P e blob =
      match authRoute e blob with
      | none => fail (-einval)
      | some (.ntlm off) => processNtlm P blob off
      | some (.ntlmv2 off blen dOff dLen) =>
        smbStrndupFromUtf16 P blob dOff dLen >>= processNtlmv2 P blob off blen := by
  unfold decodeNtlmsspAuthenticateBlob authRoute
  by_cases hlen : blob.length < authenticateMessageSize
  · simp only [hlen, if_true]
  · have hin : ∀ off n, off + n ≤ authenticateMessageSize → off + n ≤ blob.length :=
      fun _ _ h => by omega
    simp only [hlen, if_false, readBytes_of_le (hin 0 8 (by decide)), defined_some, pure_bind_M,
      List.drop_zero, loadField_of_le (hin authNtChallengeResponse 2 (by decide)),
      loadField_of_le (hin (authNtChallengeResponse + 4) 4 (by decide)),
      loadField_of_le (hin authDomainName 2 (by decide)),
      loadField_of_le (hin (authDomainName + 4) 4 (by decide))]
    split_ifs <;> rfl

/-! ## Accepted messages -/

theorem okSpec_decode_none (hr : authRoute e blob = none) :
    OkSpec (decodeNtlmsspAuthenticateBlob P e blob) (fun _ _ => False) w := by
  rw [decodeNtlmsspAuthenticateBlob_eq, hr]
  exact okSpec_fail

/-- An NTLMv1 message is accepted only when `strncmp` finds the expected response, and the
session is then committed. -/
theorem okSpec_decode_ntlm {off : Nat} (hr : authRoute e blob = some (.ntlm off)) :
    OkSpec (decodeNtlmsspAuthenticateBlob P e blob)
      (fun _ w' => strncmp blob off (ntlmResponse P w.sess).bytes = some 0 ∧
        ∃ b, w'.sess = ntlmCommit P w.sess b) w := by
  rw [decodeNtlmsspAuthenticateBlob_eq, hr]
  exact okSpec_processNtlm

/-- An NTLMv2 message is accepted only when its verdict accepts, and the front of the
session key is then the verdict's key. -/
theorem okSpec_decode_ntlmv2 {off dOff dLen : Nat} {blen : Int}
    (hr : authRoute e blob = some (.ntlmv2 off blen dOff dLen)) :
    OkSpec (decodeNtlmsspAuthenticateBlob P e blob)
      (fun _ w' => ∃ k, ntlmv2Verdict P w.sess blob off blen (authDomain P blob dOff dLen) =
        some (true, k) ∧ w'.sess = w.sess.setSessKey 0 k (by decide)) w := by
  rw [decodeNtlmsspAuthenticateBlob_eq, hr, okSpec_bind, okSpec_smbStrndupFromUtf16]
  intro src hsrc
  refine okSpec_processNtlmv2.mono ?_
  split
  · simp [authDomain, hsrc]
  · simp [ntlmv2Verdict, ntlmv2Check]

theorem runs_decode_ntlm {off : Nat} (hclean : w.env.Clean)
    (hr : authRoute e blob = some (.ntlm off))
    (hmatch : strncmp blob off (ntlmResponse P w.sess).bytes = some 0) :
    Runs (decodeNtlmsspAuthenticateBlob P e blob)
      (fun _ w' => w'.sess = ntlmCommit P w.sess true ∧ w'.env = w.env ∧ w'.server = w.server) w := by
  rw [decodeNtlmsspAuthenticateBlob_eq, hr]
  exact runs_processNtlm hclean hmatch

theorem runs_decode_ntlmv2 {off dOff dLen : Nat} {blen : Int} {k : ByteBuf 16}
    (hclean : w.env.Clean) (hslot : (w.slot .hmacmd5).Empty ∨ (w.slot .hmacmd5).Populated)
    (hr : authRoute e blob = some (.ntlmv2 off blen dOff dLen))
    (hv : ntlmv2Verdict P w.sess blob off blen (authDomain P blob dOff dLen) = some (true, k)) :
    Runs (decodeNtlmsspAuthenticateBlob P e blob)
      (fun _ w' => w'.sess = w.sess.setSessKey 0 k (by decide) ∧ w'.env = w.env ∧
        (w'.slot .hmacmd5).Populated) w := by
  rw [decodeNtlmsspAuthenticateBlob_eq, hr, runs_bind, runs_smbStrndupFromUtf16]
  obtain ⟨src, hsrc⟩ : ∃ src, readBytes blob dOff dLen = some src := by
    cases h : readBytes blob dOff dLen <;> simp_all [authDomain, ntlmv2Verdict, ntlmv2Check]
  simp only [authDomain, hsrc, Option.map_some'] at hv
  refine ⟨src, hsrc, ?_⟩
  simp only [hclean.2, if_true]
  refine (runs_processNtlmv2 (by simpa using hclean) (by simpa using hslot) (by simpa using hv)).mono ?_
  rintro _ _ ⟨hs, he, hp⟩
  exact ⟨by simpa using hs, by simpa using he, hp⟩

/-! ## What acceptance depends on -/

section Congr

variable {s s' : Sess}

@[simp] theorem ntlmCommit_usr {b : Bool} : (ntlmCommit P s b).usr = s.usr := by
  cases b <;> rfl

@[simp] theorem ntlmCommit_cryptkey {b : Bool} : (ntlmCommit P s b).cryptkey = s.cryptkey := by
  cases b <;> rfl

/-- The NTLMv1 response depends on the session only through the user and the challenge. -/
theorem ntlmResponse_congr (hu : s'.usr = s.usr) (hc : s'.cryptkey = s.cryptkey) :
    ntlmResponse P s' = ntlmResponse P s := by
  simp [ntlmResponse, hu, hc]

/-- The NTLMv2 comparison depends on the session only through the user and the challenge. -/
theorem ntlmv2Check_congr (hu : s'.usr = s.usr) (hc : s'.cryptkey = s.cryptkey)
    {buf : List UInt8} {off : Nat} {blen : Int} {dn : Option (List UInt8)} :
    ntlmv2Check P s' buf off blen dn = ntlmv2Check P s buf off blen dn := by
  simp [ntlmv2Check, ntlmv2Hash, hu, hc]

theorem ntlmv2Verdict_congr (hu : s'.usr = s.usr) (hc : s'.cryptkey = s.cryptkey)
    {buf : List UInt8} {off : Nat} {blen : Int} {dn : Option (List UInt8)} :
    ntlmv2Verdict P s' buf off blen dn = ntlmv2Verdict P s buf off blen dn := by
  rw [ntlmv2Verdict, ntlmv2Verdict, ntlmv2Check_congr hu hc]

end Congr

/-! ## What the decoder checks -/

section Accepts

variable {s s' : Sess}

/-- What the decoder checks of a message on session `s` when every allocation and step
succeeds: routed to NTLMv1, `strncmp` finds the expected response; routed to NTLMv2, the
verdict accepts. -/
def AuthAccepts (P : Prims) (e : Endian) (blob : List UInt8) (s : Sess) : Prop :=
  match authRoute e blob with
  | none => False
  | some (.ntlm off) => strncmp blob off (ntlmResponse P s).bytes = some 0
  | some (.ntlmv2 off blen dOff dLen) =>
    ∃ k, ntlmv2Verdict P s blob off blen (authDomain P blob dOff dLen) = some (true, k)

/-- The check depends on the session only through the user and the challenge. -/
theorem authAccepts_congr (hu : s'.usr = s.usr) (hc : s'.cryptkey = s.cryptkey) :
    AuthAccepts P e blob s' ↔ AuthAccepts P e blob s := by
  unfold AuthAccepts
  split
  · exact Iff.rfl
  · rw [ntlmResponse_congr hu hc]
  · simp only [ntlmv2Verdict_congr hu hc]

/-- A message the decoder accepts passes its check on the session it was given, and the
session keeps its user and its challenge. -/
theorem okSpec_decode_accepts :
    OkSpec (decodeNtlmsspAuthenticateBlob P e blob)
      (fun _ w' => AuthAccepts P e blob w.sess ∧ w'.sess.usr = w.sess.usr ∧
        w'.sess.cryptkey = w.sess.cryptkey) w := by
  match hr : authRoute e blob with
  | none => exact (okSpec_decode_none hr).mono fun _ _ => False.elim
  | some (.ntlm off) =>
    refine (okSpec_decode_ntlm hr).mono fun _ _ ⟨hm, _, hs⟩ => ?_
    simp only [AuthAccepts, hr, hm, hs, ntlmCommit_usr, ntlmCommit_cryptkey, and_self]
  | some (.ntlmv2 off blen dOff dLen) =>
    refine (okSpec_decode_ntlmv2 hr).mono fun _ _ ⟨k, hk, hs⟩ => ?_
    simp only [AuthAccepts, hr, hs]
    exact ⟨⟨k, hk⟩, rfl, rfl⟩

/-- When every allocation and step succeeds, a message that passes the check is accepted,
and the session keeps its user and its challenge. -/
theorem runs_decode_of_accepts (hclean : w.env.Clean)
    (hslot : (w.slot .hmacmd5).Empty ∨ (w.slot .hmacmd5).Populated)
    (ha : AuthAccepts P e blob w.sess) :
    Runs (decodeNtlmsspAuthenticateBlob P e blob)
      (fun _ w' => w'.sess.usr = w.sess.usr ∧ w'.sess.cryptkey = w.sess.cryptkey) w := by
  unfold AuthAccepts at ha
  split at ha
  · exact ha.elim
  · next off hr =>
    exact (runs_decode_ntlm hclean hr ha).mono fun _ _ ⟨hs, _⟩ => by
      simp only [hs, ntlmCommit_usr, ntlmCommit_cryptkey, and_self]
  · next off blen dOff dLen hr =>
    obtain ⟨k, hk⟩ := ha
    exact (runs_decode_ntlmv2 hclean hslot hr hk).mono fun _ _ ⟨hs, _⟩ => by
      rw [hs]
      exact ⟨rfl, rfl⟩

end Accepts

/-! ## Sample inputs -/

/-- Primitives that answer zeros, with the identity as the charset conversions. -/
def Prims.zeros : Prims where
  md5 _ := ByteBuf.zero 16
  hmacmd5 _ _ := ByteBuf.zero 16
  hmacsha256 _ _ := ByteBuf.zero 32
  cmacaes _ _ := ByteBuf.zero 16
  sha512 _ := ByteBuf.zero 64
  eP24 _ _ := ByteBuf.zero 24
  mdfour _ := ByteBuf.zero 16
  toUtf16 s := s.map UInt8.toUInt16
  toUtf16_length_le s := by simp
  toUpper := id
  fromUtf16 := id

/-- A session of the user with the empty name and the zero NT hash, whose challenge is
still the zero `cryptkey` of a new session. -/
def Sess.sample (sequenceNumber : Nat) (sessKey : ByteBuf 40) : Sess :=
  ⟨⟨[], ByteBuf.zero 16⟩, 0, ByteBuf.zero 8, sessKey, sequenceNumber, ByteBuf.zero 64⟩

/-- A new connection with session `s`, before any allocation, where every allocation and
step succeeds. -/
def World.initial (s : Sess) : World :=
  ⟨⟨Secmech.empty, 0, ByteBuf.zero 64⟩, s, Env.clean (ByteBuf.zero 8), 0, 0⟩

/-- The new connection of the sample session, before any exchange. -/
def World.sample : World := World.initial (Sess.sample 0 (ByteBuf.zero 40))

/-- A NEGOTIATE message with the flags `flags`, written little-endian. -/
def negotiateMessage (flags : Nat) : List UInt8 :=
  ntlmsspSignature ++ leBytes 4 1 ++ leBytes 4 flags ++ List.replicate 16 0

/-- An AUTHENTICATE message with the given `NtChallengeResponse` and `DomainName`
descriptors, written little-endian, followed by `payload` from offset 64. -/
def authMessage (ntLen ntOff dLen dOff : Nat) (payload : List UInt8) : List UInt8 :=
  ntlmsspSignature ++ leBytes 4 3 ++ List.replicate 8 0 ++ leBytes 2 ntLen ++ leBytes 2 ntLen ++
    leBytes 4 ntOff ++ leBytes 2 dLen ++ leBytes 2 dLen ++ leBytes 4 dOff ++ List.replicate 28 0 ++
    payload

end KsmbdAuth
