import KsmbdAuth.AuthSpec

/-!
# The NTLMv2 exchange against HMAC-MD5

`process_ntlmv2` chains three HMAC-MD5 computations through the one `hmacmd5` transform
and descriptor of the connection: `calc_ntlmv2_hash` keys it with the NT hash, the expected
proof is keyed with the NTLMv2 hash, and `compute_sess_key` keys it with that hash again.
This file states the exchange as NTLMv2 defines it, with `P.hmacmd5` as the abstract
`H(key, message)`:

* `ntlmv2Key`: `K = H(p, UTF16LE(upper(u)) ++ UTF16LE(d))`;
* `ntlmv2Proof`: `P = H(K, c ++ r[16..Length))` for the response `r`,

and connects it to the code: `ntlmv2Check_eq` computes the verifier's comparison and key in
these terms, `ntlmv2Verdict_eq` its verdict, and `process_ntlmv2_hmac_chain` follows. A response that is not the proof is
rejected with the final `memcmp`'s result itself (`processNtlmv2_rejects_with_memcmp`). The
empty user name, for which the code skips the conversion, needs no case of its own
(`userUnits_eq`).
-/

namespace KsmbdAuth

variable {P : Prims} {w : World}

/-! ## The exchange -/

/-- Modelled from the spec: the NTLMv2 key `K = H(p, UTF16LE(upper(u)) ++ UTF16LE(d))` of
the user `u` with NT hash `p`, for the domain `d`. -/
def ntlmv2Key (P : Prims) (u : List UInt8) (p : ByteBuf 16) (d : List UInt8) : ByteBuf 16 :=
  P.hmacmd5 p.bytes (utf16Bytes (uniStrupr P (P.toUtf16 u)) ++ utf16Bytes (P.toUtf16 d))

/-- Modelled from the spec: the expected proof `P = H(K, c ++ r[16..Length))` for the
challenge `c` and the response `r`, whose first 16 bytes are the client's proof. -/
def ntlmv2Proof (P : Prims) (K : ByteBuf 16) (c : ByteBuf 8) (r : List UInt8) : ByteBuf 16 :=
  P.hmacmd5 K.bytes (c.bytes ++ r.drop 16)

/-- Skipping the conversion of an empty name feeds what converting it would: nothing. -/
theorem userUnits_eq (name : List UInt8) : userUnits P name = uniStrupr P (P.toUtf16 name) := by
  unfold userUnits
  split
  · have h := P.toUtf16_length_le name
    rw [List.length_eq_zero.mp (by omega : (P.toUtf16 name).length = 0)]
    rfl
  · rfl

theorem ntlmv2Hash_eq (s : Sess) (d : List UInt8) :
    ntlmv2Hash P s d = ntlmv2Key P s.usr.name s.usr.passkey d := by
  rw [ntlmv2Hash, ntlmv2Key, userUnits_eq,
    List.take_of_length_le (by simp [s.usr.passkey.length_eq, cifsEncpwdSize])]

/-- `memcmp` of two arrays of one length is 0 exactly when they are equal. -/
theorem memcmp_eq_zero_iff : ∀ {as bs : List UInt8}, as.length = bs.length →
    (memcmp as bs = 0 ↔ as = bs)
  | [], [], _ => by simp [memcmp]
  | a :: as, b :: bs, h => by
    by_cases hab : a = b
    · simp [memcmp, hab, memcmp_eq_zero_iff (by simpa using h)]
    · have hne : (a.toNat : Int) - b.toNat ≠ 0 := fun h' =>
        hab (UInt8.eq_of_val_eq (Fin.eq_of_val_eq (show a.toNat = b.toNat by omega)))
      simp [memcmp, hab, hne]

@[simp] theorem ByteBuf.take_self {n : Nat} (b : ByteBuf n) : b.bytes.take n = b.bytes :=
  List.take_of_length_le (le_of_eq b.length_eq)

/-! ## The verdict of the verifier -/

section Verdict

variable {s : Sess} {buf r : List UInt8} {off ntLen : Nat} {d : List UInt8}

/-- The blob `process_ntlmv2` copies after the challenge is the response after its proof. -/
theorem readBytes_blob (hr : readBytes buf off ntLen = some r) (hlen : 16 ≤ ntLen) :
    readBytes buf (off + cifsEncpwdSize) (ntLen - 16) = some (r.drop 16) := by
  obtain ⟨hin, rfl⟩ := readBytes_eq_some.mp hr
  rw [readBytes_of_le (by simp only [cifsEncpwdSize]; omega), List.drop_take, List.drop_drop,
    cifsEncpwdSize, Nat.add_comm]

/-- The proof `process_ntlmv2` compares is the first 16 bytes of the response. -/
theorem readBytes_proof (hr : readBytes buf off ntLen = some r) (hlen : 16 ≤ ntLen) :
    readBytes buf off cifsHmacMd5HashSize = some (r.take 16) := by
  obtain ⟨hin, rfl⟩ := readBytes_eq_some.mp hr
  rw [readBytes_of_le (by simp only [cifsHmacMd5HashSize]; omega), List.take_take,
    Nat.min_eq_left hlen, cifsHmacMd5HashSize]

/-- The sizes `process_ntlmv2` computes from `blen = Length - 16`, for a `Length` between 16
and `2^16`: the blob's length, and the message length `len = 8 + blen` as `size_t` and as
the `int` count it feeds `crypto_shash_update`. -/
theorem ntlmv2_lengths (hlen : 16 ≤ ntLen) (hmax : ntLen < 2 ^ 16) :
    toSizeT ((ntLen : Int) - cifsEncpwdSize) = ntLen - 16 ∧
      toSizeT ((cifsCryptoKeySize : Int) + ((ntLen : Int) - cifsEncpwdSize)) = ntLen - 8 ∧
      (((cifsCryptoKeySize : Int) + ((ntLen : Int) - cifsEncpwdSize)) % 2 ^ 32).toNat =
        ntLen - 8 := by
  simp only [cifsCryptoKeySize, cifsEncpwdSize]
  refine ⟨?_, ?_, by omega⟩ <;> rw [toSizeT_of_nonneg (by omega) (by omega)] <;> omega

/-- For a response of `Length` between 16 and `2^16` inside the message, the verifier
compares the response's first 16 bytes with the expected proof `P`, and its session key is
`H(K, P)`. -/
theorem ntlmv2Check_eq (hr : readBytes buf off ntLen = some r) (hlen : 16 ≤ ntLen)
    (hmax : ntLen < 2 ^ 16) :
    ntlmv2Check P s buf off ((ntLen : Int) - cifsEncpwdSize) (some d) =
      some (memcmp (r.take 16) (ntlmv2Proof P (ntlmv2Key P s.usr.name s.usr.passkey d)
          s.cryptkey r).bytes,
        P.hmacmd5 (ntlmv2Key P s.usr.name s.usr.passkey d).bytes
          (ntlmv2Proof P (ntlmv2Key P s.usr.name s.usr.passkey d) s.cryptkey r).bytes) := by
  obtain ⟨hblen, hlen8, hcount⟩ := ntlmv2_lengths hlen hmax
  have hrlen := length_of_readBytes hr
  have hmsg : ((s.cryptkey.bytes ++ r.drop 16).take (ntLen - 8)) = s.cryptkey.bytes ++ r.drop 16 :=
    List.take_of_length_le (by simp [s.cryptkey.length_eq, hrlen]; omega)
  have hkey : ¬ntLen - 8 < cifsCryptoKeySize := by rw [cifsCryptoKeySize]; omega
  have hcopy : ¬ntLen - 8 < cifsCryptoKeySize + (ntLen - 16) := by rw [cifsCryptoKeySize]; omega
  have hpr := readBytes_proof hr hlen
  rw [cifsHmacMd5HashSize] at hpr
  simp only [ntlmv2Check, Option.bind_eq_bind, Option.some_bind, hblen, hlen8, hcount, hkey,
    hcopy, lt_irrefl, if_false, readBytes_blob hr hlen, hpr, hmsg, ntlmv2Hash_eq, sessKeyOf, ntlmv2Proof,
    cifsHmacMd5HashSize, smb2NtlmV2SesskeySize, ByteBuf.take_self, Option.pure_def]

/-- For a response of `Length` between 16 and `2^16` inside the message, the verifier
accepts exactly when the response starts with the expected proof `P`, and its session key
is `H(K, P)`. -/
theorem ntlmv2Verdict_eq (hr : readBytes buf off ntLen = some r) (hlen : 16 ≤ ntLen)
    (hmax : ntLen < 2 ^ 16) :
    ntlmv2Verdict P s buf off ((ntLen : Int) - cifsEncpwdSize) (some d) =
      some (decide (r.take 16 = (ntlmv2Proof P (ntlmv2Key P s.usr.name s.usr.passkey d)
          s.cryptkey r).bytes),
        P.hmacmd5 (ntlmv2Key P s.usr.name s.usr.passkey d).bytes
          (ntlmv2Proof P (ntlmv2Key P s.usr.name s.usr.passkey d) s.cryptkey r).bytes) := by
  have hrlen := length_of_readBytes hr
  have hproof : memcmp (r.take 16)
      (ntlmv2Proof P (ntlmv2Key P s.usr.name s.usr.passkey d) s.cryptkey r).bytes = 0 ↔ _ :=
    memcmp_eq_zero_iff (by simp [ByteBuf.length_eq, hrlen]; omega)
  simp only [ntlmv2Verdict, ntlmv2Check_eq hr hlen hmax, Option.map_some', hproof]

end Verdict

/-! ## `process_ntlmv2` -/

/-- Take a user name `u` with NT hash `p`, a challenge `c`, a domain string `d` and a
response `r` of `Length` at least 16 inside the message, and let
`K = H(p, UTF16LE(upper(u)) ++ UTF16LE(d))` and `P = H(K, c ++ r[16..Length))`.
`process_ntlmv2` returns 0 only if `r[0..16) = P`, and then leaves `H(K, P)` in
`sess_key[0..16)`. When `r[0..16) = P` it returns 0 if every allocation and step succeeds
on a connection whose HMAC-MD5 slot is empty or populated, as every reachable one is. -/
theorem process_ntlmv2_hmac_chain {buf r : List UInt8} {off ntLen : Nat} {d : List UInt8}
    {K Pr : ByteBuf 16} (hr : readBytes buf off ntLen = some r) (hlen : 16 ≤ ntLen)
    (hmax : ntLen < 2 ^ 16) (hK : K = ntlmv2Key P w.sess.usr.name w.sess.usr.passkey d)
    (hP : Pr = ntlmv2Proof P K w.sess.cryptkey r) :
    OkSpec (processNtlmv2 P buf off ((ntLen : Int) - cifsEncpwdSize) (some d))
        (fun _ w' => r.take 16 = Pr.bytes ∧
          w'.sess.sessKey.bytes.take 16 = (P.hmacmd5 K.bytes Pr.bytes).bytes) w ∧
      (r.take 16 = Pr.bytes → w.env.Clean →
        ((w.slot .hmacmd5).Empty ∨ (w.slot .hmacmd5).Populated) →
        Runs (processNtlmv2 P buf off ((ntLen : Int) - cifsEncpwdSize) (some d))
          (fun _ w' => w'.sess.sessKey.bytes.take 16 = (P.hmacmd5 K.bytes Pr.bytes).bytes) w) := by
  subst hK hP
  have hv := ntlmv2Verdict_eq (P := P) (s := w.sess) (d := d) hr hlen hmax
  refine ⟨okSpec_processNtlmv2.mono ?_, fun heq hclean hslot => ?_⟩
  · rintro _ w' ⟨k, hk, hs⟩
    rw [hv, Option.some.injEq, Prod.mk.injEq, decide_eq_true_iff] at hk
    rw [hs, hk.2]
    exact ⟨hk.1, Sess.setSessKey_zero_take _ _ _⟩
  · rw [decide_eq_true heq] at hv
    refine (runs_processNtlmv2 hclean hslot hv).mono fun _ w' ⟨hs, _⟩ => ?_
    rw [hs]
    exact Sess.setSessKey_zero_take _ _ _

/-- A 32-byte response of zeros at offset 64, checked with the zero-answering primitives
on a new connection: all the hypotheses hold, and the response is accepted. -/
theorem process_ntlmv2_hmac_chain_sample :
    readBytes (List.replicate 96 0) 64 32 = some (List.replicate 32 0) ∧ 16 ≤ 32 ∧
      32 < 2 ^ 16 ∧
      ByteBuf.zero 16 = ntlmv2Key Prims.zeros [] (ByteBuf.zero 16) [] ∧
      ByteBuf.zero 16 = ntlmv2Proof Prims.zeros (ByteBuf.zero 16) (ByteBuf.zero 8)
        (List.replicate 32 0) ∧
      Runs (processNtlmv2 Prims.zeros (List.replicate 96 0) 64 ((32 : Nat) - cifsEncpwdSize) (some []))
        (fun _ w' => w'.sess.sessKey.bytes.take 16 = (ByteBuf.zero 16).bytes)
        World.sample :=
  ⟨rfl, by decide, by decide, rfl, rfl,
    (process_ntlmv2_hmac_chain (P := Prims.zeros) (w := World.sample)
      (d := []) (K := ByteBuf.zero 16)
      (show readBytes (List.replicate 96 0) 64 32 = some (List.replicate 32 0) from rfl)
      (by decide) (by decide) rfl rfl).2
      rfl (Env.clean_Clean _) (.inl ⟨rfl, rfl⟩)⟩

/-- A response that does not start with the expected proof is rejected with what the final
`memcmp` returns, not with an errno: on a clean kernel, `process_ntlmv2` fails with the
difference of the first bytes where `r[0..16)` and `P` differ, which is positive when the
client's byte is the larger. -/
theorem processNtlmv2_rejects_with_memcmp {buf r : List UInt8} {off ntLen : Nat}
    {d : List UInt8} (hclean : w.env.Clean)
    (hslot : (w.slot .hmacmd5).Empty ∨ (w.slot .hmacmd5).Populated)
    (hr : readBytes buf off ntLen = some r) (hlen : 16 ≤ ntLen) (hmax : ntLen < 2 ^ 16)
    (hne : r.take 16 ≠
      (ntlmv2Proof P (ntlmv2Key P w.sess.usr.name w.sess.usr.passkey d) w.sess.cryptkey r).bytes) :
    ∃ w', processNtlmv2 P buf off ((ntLen : Int) - cifsEncpwdSize) (some d) w =
      .err (memcmp (r.take 16) (ntlmv2Proof P (ntlmv2Key P w.sess.usr.name w.sess.usr.passkey d)
        w.sess.cryptkey r).bytes) w' := by
  have hrlen := length_of_readBytes hr
  have hdiff := mt (memcmp_eq_zero_iff (by simp [ByteBuf.length_eq, hrlen]; omega)).mp hne
  obtain ⟨_, w', hx, rfl, -⟩ :=
    (safe_processNtlmv2_clean hclean hslot (ntlmv2Check_eq hr hlen hmax)).exists_err
      fun _ _ h => hdiff h.1
  exact ⟨w', hx⟩

end KsmbdAuth
