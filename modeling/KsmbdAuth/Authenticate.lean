import KsmbdAuth.AuthSpec

/-!
# What authentication leaves in the session

Four properties of `decode_ntlmssp_authenticate_blob` as it is called on one session:

* a rejected message leaves the session as it was, unless the rejection is the response
  comparison itself, which both verifiers make after writing the key;
* nothing consumes the server challenge: on a session that never built a CHALLENGE, one
  NTLMv1 message is accepted twice (the statement along a whole run is
  `authenticate_replay_accepted`, in `Negotiation`);
* the NTLMv2 path writes only the first 16 bytes of the session key and leaves the
  sequence number alone, so stale bytes from an earlier login survive it;
* the NTLMv1 comparison is `strncmp`, which stops at a NUL byte of the expected response.
-/

namespace KsmbdAuth

variable {P : Prims} {e : Endian} {w : World} {blob : List UInt8}

/-! ## Rejected messages -/

/-- On a session that never built a CHALLENGE, the same NTLMv1 message is accepted twice. -/
theorem authenticate_twice_without_challenge :
    ∃ w₁ w₂, decodeNtlmsspAuthenticateBlob Prims.zeros .little
        (authMessage 24 64 0 0 (List.replicate 24 0)) World.sample =
        .ok () w₁ ∧
      decodeNtlmsspAuthenticateBlob Prims.zeros .little
        (authMessage 24 64 0 0 (List.replicate 24 0)) w₁ = .ok () w₂ :=
  ⟨_, _, rfl, rfl⟩

/-! ## Stale key bytes -/

/-- An accepted NTLMv2 message leaves bytes 16 to 40 of the session key and the sequence
number as they were before the call. -/
theorem ntlmv2_accept_keeps_stale_key {off dOff dLen : Nat} {blen : Int}
    (hr : authRoute e blob = some (.ntlmv2 off blen dOff dLen)) :
    OkSpec (decodeNtlmsspAuthenticateBlob P e blob)
      (fun _ w' => w'.sess.sessKey.bytes.drop 16 = w.sess.sessKey.bytes.drop 16 ∧
        w'.sess.sequenceNumber = w.sess.sequenceNumber) w := by
  refine (okSpec_decode_ntlmv2 hr).mono ?_
  rintro _ _ ⟨k, -, hs⟩
  rw [hs]
  exact ⟨Sess.setSessKey_zero_drop _ _ _, rfl⟩

/-- The same NTLMv2 message accepted on two sessions that differ only in bytes 16 to 40 of
the session key and in the sequence number leaves two different sessions. -/
theorem ntlmv2_stale_key_sample :
    ∃ w₁ w₂, decodeNtlmsspAuthenticateBlob Prims.zeros .little
        (authMessage 32 64 0 0 (List.replicate 32 0)) World.sample =
        .ok () w₁ ∧
      decodeNtlmsspAuthenticateBlob Prims.zeros .little
        (authMessage 32 64 0 0 (List.replicate 32 0))
        (World.initial (Sess.sample 7 ⟨List.replicate 40 1, rfl⟩)) = .ok () w₂ ∧
      w₁.sess.sessKey.bytes.drop 16 = List.replicate 24 0 ∧
      w₂.sess.sessKey.bytes.drop 16 = List.replicate 24 1 ∧
      w₁.sess.sequenceNumber = 0 ∧ w₂.sess.sequenceNumber = 7 :=
  have hr : authRoute .little (authMessage 32 64 0 0 (List.replicate 32 0)) =
      some (.ntlmv2 64 16 0 0) := by decide
  let ⟨w₁, h₁⟩ : ∃ w₁, decodeNtlmsspAuthenticateBlob Prims.zeros .little
      (authMessage 32 64 0 0 (List.replicate 32 0)) World.sample =
      .ok () w₁ := ⟨_, rfl⟩
  let ⟨w₂, h₂⟩ : ∃ w₂, decodeNtlmsspAuthenticateBlob Prims.zeros .little
      (authMessage 32 64 0 0 (List.replicate 32 0))
      (World.initial (Sess.sample 7 ⟨List.replicate 40 1, rfl⟩)) = .ok () w₂ := ⟨_, rfl⟩
  let ⟨k₁, s₁⟩ := ntlmv2_accept_keeps_stale_key hr _ _ h₁
  let ⟨k₂, s₂⟩ := ntlmv2_accept_keeps_stale_key hr _ _ h₂
  ⟨w₁, w₂, h₁, h₂, k₁, k₂, s₁, s₂⟩

/-! ## The NTLMv1 comparison -/

/-- When every allocation and step succeeds, an NTLMv1 response that agrees with the
expected one up to and including a NUL byte of it is accepted, whatever follows. -/
theorem ntlm_accepts_through_nul {off i : Nat} (hclean : w.env.Clean)
    (hr : authRoute e blob = some (.ntlm off))
    (hnul : (ntlmResponse P w.sess).bytes.get? i = some 0)
    (hagree : ∀ j ≤ i, blob.get? (off + j) = (ntlmResponse P w.sess).bytes.get? j) :
    ∃ w', decodeNtlmsspAuthenticateBlob P e blob w = .ok () w' :=
  let ⟨_, w', h, _⟩ := runs_decode_ntlm hclean hr (strncmp_eq_zero_of_nul hnul hagree)
  ⟨w', h⟩

/-- With an expected response that starts with a NUL byte, a response that differs from
it in every later byte is accepted. -/
theorem ntlm_accepts_through_nul_sample :
    0 :: List.replicate 23 1 ≠ (ntlmResponse Prims.zeros (Sess.sample 0 (ByteBuf.zero 40))).bytes ∧
      ∃ w', decodeNtlmsspAuthenticateBlob Prims.zeros .little
        (authMessage 24 64 0 0 (0 :: List.replicate 23 1))
        World.sample = .ok () w' :=
  ⟨by decide, ntlm_accepts_through_nul (i := 0) (Env.clean_Clean _)
    (show authRoute .little (authMessage 24 64 0 0 (0 :: List.replicate 23 1)) = some (.ntlm 64)
      by decide) rfl (by decide)⟩

end KsmbdAuth
