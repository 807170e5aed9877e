import KsmbdAuth.AuthSpec

/-!
# The descriptors of an AUTHENTICATE message

`decode_ntlmssp_authenticate_blob` uses the `NtChallengeResponse` descriptor as it finds
it. This file proves three consequences:

* the decoder never compares an offset with `blob_len`, so an NTLMv1 response descriptor
  that points past the message makes `strncmp` read past it;
* `Length - CIFS_ENCPWD_SIZE` is negative for a `Length` below 16, and such an NTLMv2
  message is never accepted. Below 8, `kzalloc(len)` asks for a `size_t` near `2^64`, which
  a kernel refuses, and `process_ntlmv2` fails with `-ENOMEM` without touching the session;
* the descriptors are read natively, so a big-endian host routes the messages of a
  little-endian client differently.
-/

namespace KsmbdAuth

variable {P : Prims} {e : Endian} {w : World} {blob : List UInt8}

/-! ## Offsets past the message -/

/-- On the NTLMv1 path, a response offset at or past the end of the message makes the
comparison read past it, once `E_P24` succeeds. -/
theorem ntlm_offset_past_message_undefined {off : Nat} (hr : authRoute e blob = some (.ntlm off))
    (hoff : blob.length ≤ off) (hstep : w.env.fault w.steps = none) :
    decodeNtlmsspAuthenticateBlob P e blob w = .ub .readPast := by
  have hkey : (ntlmResponse P w.sess).bytes ≠ [] := fun h => by
    simpa [h] using (ntlmResponse P w.sess).length_eq
  obtain ⟨key, w₁, h₁, rfl, -⟩ : Runs (eP24 P (w.sess.usr.passkey.bytes.take cifsNthashSize ++
      List.replicate 5 0) w.sess.cryptkey.bytes) (fun key _ => key = ntlmResponse P w.sess) w := by
    simp [hstep, ntlmResponse]
  obtain ⟨_, w₂, h₂, -⟩ : Runs (smbMdfour P (w.sess.usr.passkey.bytes.take cifsSmb1SesskeySize))
      (fun _ _ => True) w₁ := by
    simp
  rw [decodeNtlmsspAuthenticateBlob_eq, hr]
  dsimp only
  unfold processNtlm
  rw [bind_of_ok (x := getSess) rfl, bind_of_ok h₁, bind_of_ok h₂, bind_of_ok (x := modifySess _) rfl,
    bind_of_ub]
  simp [defined, strncmp_eq_none_of_le hoff hkey]

/-- A 64-byte message whose NTLMv1 response descriptor points at its end. -/
theorem ntlm_offset_past_message_undefined_sample :
    decodeNtlmsspAuthenticateBlob Prims.zeros .little (authMessage 24 64 0 0 [])
      World.sample = .ub .readPast :=
  ntlm_offset_past_message_undefined (show authRoute .little (authMessage 24 64 0 0 []) =
    some (.ntlm 64) by decide) (by decide) rfl

/-! ## Short NTLMv2 responses -/

/-- The `blen` the decoder computes is at least `-CIFS_ENCPWD_SIZE`. -/
theorem authRoute_blen_ge {off dOff dLen : Nat} {blen : Int}
    (hr : authRoute e blob = some (.ntlmv2 off blen dOff dLen)) : -16 ≤ blen := by
  simp only [authRoute] at hr
  split_ifs at hr <;> simp only [Option.some.injEq, AuthRoute.ntlmv2.injEq, reduceCtorEq] at hr
  simp only [cifsEncpwdSize] at hr
  omega

theorem toSizeT_of_neg {x : Int} (h0 : -2 ^ 64 ≤ x) (h : x < 0) : toSizeT x = (x + 2 ^ 64).toNat := by
  unfold toSizeT
  omega

/-- With a negative `blen` the comparison is undefined: either `construct` is too small for
the challenge, or the copy of `blen` bytes, read as a `size_t`, runs past any message
shorter than `2^31` bytes. -/
theorem ntlmv2Check_of_neg {s : Sess} {buf : List UInt8} {off : Nat} {blen : Int}
    {dn : Option (List UInt8)} (hneg : blen < 0) (hge : -16 ≤ blen) (hlen : buf.length < 2 ^ 31) :
    ntlmv2Check P s buf off blen dn = none := by
  cases dn with
  | none => rfl
  | some d =>
    simp only [ntlmv2Check, Option.bind_eq_bind, Option.some_bind, cifsCryptoKeySize]
    by_cases hb : -8 ≤ blen
    · have : toSizeT (8 + blen) < 8 := by unfold toSizeT; omega
      simp [this]
    · have hread : readBytes buf (off + cifsEncpwdSize) (toSizeT blen) = none := by
        rw [readBytes_eq_none, toSizeT_of_neg (by omega) hneg]
        omega
      simp [hread]

/-- A `NtChallengeResponse.Length` below 16 on the NTLMv2 path gives a negative `blen`,
and the message is never accepted. -/
theorem ntlmv2_short_response_never_accepted {off dOff dLen : Nat} {blen : Int}
    (hr : authRoute e blob = some (.ntlmv2 off blen dOff dLen)) (hneg : blen < 0)
    (hlen : blob.length < 2 ^ 31) :
    OkSpec (decodeNtlmsspAuthenticateBlob P e blob) (fun _ _ => False) w := by
  refine (okSpec_decode_ntlmv2 hr).mono ?_
  rintro _ _ ⟨k, hk, -⟩
  rw [ntlmv2Verdict, ntlmv2Check_of_neg hneg (authRoute_blen_ge hr) hlen] at hk
  cases hk

/-- `Length = 12` gives `blen = -4`: the message is never accepted, and on a new connection
the copy of the challenge into the 4-byte `construct` is undefined. -/
theorem ntlmv2_short_response_sample :
    OkSpec (decodeNtlmsspAuthenticateBlob Prims.zeros .little (authMessage 12 64 0 0 []))
        (fun _ _ => False) World.sample ∧
      decodeNtlmsspAuthenticateBlob Prims.zeros .little (authMessage 12 64 0 0 [])
        World.sample = .ub .writePast :=
  ⟨ntlmv2_short_response_never_accepted (show authRoute .little (authMessage 12 64 0 0 []) =
    some (.ntlmv2 64 (-4) 0 0) by decide) (by decide) (by decide), rfl⟩

/-- On a kernel that refuses every allocation of `2^63` bytes or more, as every kernel's
`KMALLOC_MAX_SIZE` does, a `blen` below `-CIFS_CRYPTO_KEY_SIZE` makes `kzalloc(len)` ask
for a `size_t` near `2^64`. `process_ntlmv2` then never accepts: it fails with a negative
code (`-ENOMEM` once the steps before the allocation succeed), leaves the session as it
was, and never reads or writes past a buffer. -/
theorem ntlmv2_negative_len_enomem {buf : List UInt8} {off : Nat} {blen : Int}
    {dn : Option (List UInt8)} (hneg : cifsCryptoKeySize + blen < 0) (hge : -16 ≤ blen)
    (hrefuse : ∀ n, 2 ^ 63 ≤ n → w.env.refuses n = true) :
    Safe (fun rc w' => rc < 0 ∧ w'.sess = w.sess) (fun why => why = .readPast ∨ why = .writePast)
      (processNtlmv2 P buf off blen dn) (fun _ _ => False) w := by
  have hbig : w.env.refuses (toSizeT (cifsCryptoKeySize + blen)) = true :=
    hrefuse _ (by rw [toSizeT_of_neg (by omega) hneg]; omega)
  unfold processNtlmv2 cryptoHmacmd5Alloc
  rw [safe_bind]
  refine safe_cryptoShashAlloc (fun k s => ?_) fun _ _ _ h => ⟨h, rfl⟩
  rw [safe_bind]
  refine safe_calcNtlmv2Hash.imp (fun _ _ h => by simpa using h) ?_
  rintro _ w₁ ⟨d, rfl, rfl, hsess, henv⟩
  simp only [World.putSlot_sess, World.withAllocs_sess, World.putSlot_env,
    World.withAllocs_env] at hsess henv
  have henomem : -enomem < 0 := by decide
  simp only [safe_bind, safe_ite, safe_fail, safe_undefined, safe_check, safe_defined, safe_final,
    safe_update, safe_getSess, safe_kzalloc, safe_init, safe_setkey, World.putSlot_sess,
    World.withAllocs_sess, World.tick_sess, World.slot_putSlot, World.putSlot_env, World.tick_env,
    World.putSlot_steps, World.tick_steps, World.putSlot_tick, World.allocTick_sess,
    World.slot_allocTick, World.allocTick_env, World.allocTick_steps, World.putSlot_allocs,
    World.tick_allocs, World.putSlot_allocTick, World.putSlot_putSlot, henv, hbig, hsess, henomem,
    Errno.code_pos, Int.neg_neg_iff_pos, Int.ofNat_pos, Int.reducePow, Int.lt_toNat,
    Bool.not_eq_eq_eq_not, Bool.not_true, Bool.not_eq_false, Bool.false_eq_true,
    Option.isNone_eq_false_iff, Option.isNone_iff_eq_none, readBytes_eq_none, ↓reduceIte,
    reduceCtorEq, ne_eq, not_lt, or_true, or_false, or_self, not_true_eq_false, not_false_eq_true,
    imp_false, IsEmpty.forall_iff, forall_const, implies_true, true_and, and_true, and_self]

/-- A kernel that answers every step and allocation with success, but refuses every
allocation of `2^63` bytes or more. -/
def Env.capped (random : ByteBuf 8) : Env :=
  { Env.clean random with refuses := fun n => decide (2 ^ 63 ≤ n) }

/-- `Length = 4` gives `blen = -12` and `len = -4`: on a new connection with a capped
kernel, `process_ntlmv2` fails with `-ENOMEM`. -/
theorem ntlmv2_negative_len_enomem_sample :
    (∀ n, 2 ^ 63 ≤ n → (Env.capped (ByteBuf.zero 8)).refuses n = true) ∧
      Safe (fun rc w' => rc < 0 ∧ w'.sess = World.sample.sess)
        (fun why => why = .readPast ∨ why = .writePast)
        (processNtlmv2 Prims.zeros (authMessage 4 64 0 0 []) 64 (-12) (some []))
        (fun _ _ => False) { World.sample with env := Env.capped (ByteBuf.zero 8) } ∧
      ∃ w', processNtlmv2 Prims.zeros (authMessage 4 64 0 0 []) 64 (-12) (some [])
        { World.sample with env := Env.capped (ByteBuf.zero 8) } = .err (-enomem) w' :=
  ⟨fun _ h => decide_eq_true h,
    ntlmv2_negative_len_enomem (w := { World.sample with env := Env.capped (ByteBuf.zero 8) })
      (by decide) (by decide) fun _ h => decide_eq_true h, _, rfl⟩

/-! ## Byte order -/

theorem take_two_of_le {off : Nat} (h : off + 2 ≤ blob.length) :
    ∃ a b, (blob.drop off).take 2 = [a, b] := by
  have hl : 2 ≤ (blob.drop off).length := by simp only [List.length_drop]; omega
  match blob.drop off, hl with
  | a :: b :: _, _ => exact ⟨a, b, rfl⟩

/-- A message a little-endian host sends to `process_ntlm` goes to `process_ntlmv2` on a
big-endian host, which reads the wire length 24 as 6144. -/
theorem ntlm_route_depends_on_host {off : Nat} (hr : authRoute .little blob = some (.ntlm off)) :
    ∃ off' blen dOff dLen, authRoute .big blob = some (.ntlmv2 off' blen dOff dLen) := by
  have hlen : ¬blob.length < authenticateMessageSize := fun h => by simp [authRoute, h] at hr
  have hsig : ¬memcmp (blob.take 8) ntlmsspSignature ≠ 0 := fun h => by
    simp [authRoute, hlen, h] at hr
  have hnt : fieldAt .little blob authNtChallengeResponse 2 = cifsAuthRespSize := by
    by_contra h
    simp [authRoute, hlen, hsig, h] at hr
  have hbig : fieldAt .big blob authNtChallengeResponse 2 ≠ cifsAuthRespSize := by
    have h22 : authNtChallengeResponse + 2 ≤ blob.length := by
      simp only [authenticateMessageSize, authNtChallengeResponse] at hlen ⊢
      omega
    obtain ⟨a, b, hab⟩ := take_two_of_le h22
    have ha := UInt8.toNat_lt_size a
    have hb := UInt8.toNat_lt_size b
    simp only [fieldAt, hab, Endian.load, List.reverse_cons, List.reverse_nil, List.nil_append,
      List.singleton_append, leValue_cons, leValue_nil, cifsAuthRespSize] at hnt ⊢
    simp only [UInt8.size] at ha hb
    omega
  simp only [authRoute, hlen, hsig, hbig, if_false]
  exact ⟨_, _, _, _, rfl⟩

/-- The message with wire length 24 and offset 64: NTLMv1 on a little-endian host, NTLMv2
with offset `0x40000000` on a big-endian one, where the copy of the client blob reads
past the message. -/
theorem ntlm_route_depends_on_host_sample :
    authRoute .little (authMessage 24 64 0 0 (List.replicate 24 0)) = some (.ntlm 64) ∧
      (∃ off' blen dOff dLen, authRoute .big (authMessage 24 64 0 0 (List.replicate 24 0)) =
        some (.ntlmv2 off' blen dOff dLen)) ∧
      decodeNtlmsspAuthenticateBlob Prims.zeros .little (authMessage 24 64 0 0 (List.replicate 24 0))
        World.sample =
        .ok () (World.sample.tick.tick.withSess
          (ntlmCommit Prims.zeros (Sess.sample 0 (ByteBuf.zero 40)) true)) ∧
      decodeNtlmsspAuthenticateBlob Prims.zeros .big (authMessage 24 64 0 0 (List.replicate 24 0))
        World.sample = .ub .readPast :=
  have hr : authRoute .little (authMessage 24 64 0 0 (List.replicate 24 0)) = some (.ntlm 64) := by
    decide
  ⟨hr, ntlm_route_depends_on_host hr, rfl, rfl⟩

end KsmbdAuth
