import KsmbdAuth.Logic
import KsmbdAuth.Ntlm

/-!
# What the NTLM verifiers compute

For each function of `Ntlm` this file states what it computes, and three lemmas connect
that to the code:

* `okSpec_*`: what every normal return gives. This is soundness;
* `runs_*`: when every allocation and primitive step succeeds, the call returns normally
  with that value. This is completeness;
* `errSpec_*`: what an error exit leaves behind.

The values themselves are the reference functions `sessKeyOf`, `ntlmv2Hash`,
`ntlmResponse`, `ntlmCommit` and `ntlmv2Verdict`. They are pure functions of the session
and the message, so that later files compare runs through them and never unfold the code.
-/

namespace KsmbdAuth

variable {P : Prims} {w : World}

/-! ## Reference values -/

/-- The 16 bytes `compute_sess_key` writes: HMAC-MD5 of `hmac` under `hash`. -/
def sessKeyOf (P : Prims) (hash hmac : ByteBuf 16) : ByteBuf 16 :=
  P.hmacmd5 (hash.bytes.take cifsHmacMd5HashSize) (hmac.bytes.take smb2NtlmV2SesskeySize)

/-- The UTF-16 units `calc_ntlmv2_hash` feeds for the account name: none for an empty
name, otherwise the upper-cased conversion. -/
def userUnits (P : Prims) (name : List UInt8) : List UInt16 :=
  if name.length = 0 then [] else uniStrupr P (P.toUtf16 name)

/-- The NTLMv2 hash of a session's user for the domain `d`. -/
def ntlmv2Hash (P : Prims) (s : Sess) (d : List UInt8) : ByteBuf 16 :=
  P.hmacmd5 (s.usr.passkey.bytes.take cifsEncpwdSize)
    (utf16Bytes (userUnits P s.usr.name) ++ utf16Bytes (P.toUtf16 d))

/-- The `key` of `process_ntlm`: `E_P24` of the NT hash padded to 21 bytes and the
server challenge. -/
def ntlmResponse (P : Prims) (s : Sess) : ByteBuf 24 :=
  P.eP24 (s.usr.passkey.bytes.take cifsNthashSize ++ List.replicate 5 0) s.cryptkey.bytes

/-- The session `process_ntlm` leaves once `E_P24` succeeds: the legacy hash in front of
the key if `smb_mdfour` succeeded, the response after it, and sequence number 1. -/
def ntlmCommit (P : Prims) (s : Sess) (mdfourOk : Bool) : Sess :=
  { (if mdfourOk then s.setSessKey 0 (P.mdfour (s.usr.passkey.bytes.take cifsSmb1SesskeySize))
      (by decide) else s).setSessKey cifsSmb1SesskeySize (ntlmResponse P s) (by decide) with
    sequenceNumber := 1 }

/-- What `process_ntlmv2` computes when every allocation and primitive step succeeds:
`none` where it has undefined behaviour; otherwise the result of its final `memcmp` of the
client's proof with the expected response, and the session key `compute_sess_key` writes
before that comparison. -/
def ntlmv2Check (P : Prims) (s : Sess) (buf : List UInt8) (off : Nat) (blen : Int)
    (dn : Option (List UInt8)) : Option (Int × ByteBuf 16) := do
  let d ← dn
  let hash := ntlmv2Hash P s d
  let len : Int := cifsCryptoKeySize + blen
  if toSizeT len < cifsCryptoKeySize then none else
  let blob ← readBytes buf (off + cifsEncpwdSize) (toSizeT blen)
  if toSizeT len < cifsCryptoKeySize + toSizeT blen then none else
  let count := (len % 2 ^ 32).toNat
  if toSizeT len < count then none else
  let rsp := P.hmacmd5 (hash.bytes.take cifsHmacMd5HashSize) ((s.cryptkey.bytes ++ blob).take count)
  let proof ← readBytes buf off cifsHmacMd5HashSize
  pure (memcmp proof rsp.bytes, sessKeyOf P hash rsp)

/-- What `process_ntlmv2` decides when every allocation and primitive step succeeds:
whether its comparison finds the client's proof equal to the expected response, and the
session key it writes. -/
def ntlmv2Verdict (P : Prims) (s : Sess) (buf : List UInt8) (off : Nat) (blen : Int)
    (dn : Option (List UInt8)) : Option (Bool × ByteBuf 16) :=
  (ntlmv2Check P s buf off blen dn).map fun (c, k) => (c = 0, k)

theorem ntlmv2Verdict_eq_some {s : Sess} {buf : List UInt8} {off : Nat} {blen : Int}
    {dn : Option (List UInt8)} {b : Bool} {k : ByteBuf 16} :
    ntlmv2Verdict P s buf off blen dn = some (b, k) ↔
      ∃ c, ntlmv2Check P s buf off blen dn = some (c, k) ∧ b = decide (c = 0) := by
  simp only [ntlmv2Verdict, Option.map_eq_some', Prod.exists, Prod.mk.injEq]
  constructor
  · rintro ⟨c, k', h, rfl, rfl⟩
    exact ⟨c, h, rfl⟩
  · rintro ⟨c, h, rfl⟩
    exact ⟨c, k, h, rfl, rfl⟩

/-! ## Helpers -/

section Helpers

variable {Q : α → World → Prop}

/-- `kzalloc` returns `NULL` for a size the kernel refuses, without an allocation, and
otherwise says whether the next allocation succeeds. -/
@[simp] theorem okSpec_kzalloc {n : Nat} {Q : Bool → World → Prop} :
    OkSpec (kzalloc n) Q w ↔
      if w.env.refuses n then Q false w else Q (w.env.allocFail w.allocs).isNone w.allocTick := by
  unfold kzalloc
  cases hr : w.env.refuses n
  · simp only [okSpec_bind, okSpec_refusesSize, hr, okSpec_allocate, Bool.false_eq_true,
      ↓reduceIte, World.allocAnswer]
    cases w.env.allocFail w.allocs <;> simp
  · simp [hr]

@[simp] theorem runs_kzalloc {n : Nat} {Q : Bool → World → Prop} :
    Runs (kzalloc n) Q w ↔
      if w.env.refuses n then Q false w else Q (w.env.allocFail w.allocs).isNone w.allocTick := by
  unfold kzalloc
  cases hr : w.env.refuses n
  · simp only [runs_bind, runs_refusesSize, hr, runs_allocate, Bool.false_eq_true,
      ↓reduceIte, World.allocAnswer]
    cases w.env.allocFail w.allocs <;> simp
  · simp [hr]

@[simp] theorem errSpec_kzalloc {n : Nat} {Q : Int → World → Prop} :
    ErrSpec (kzalloc n) Q w := by
  unfold kzalloc
  cases hr : w.env.refuses n
  · simp only [errSpec_bind, okSpec_refusesSize, errSpec_refusesSize, hr, okSpec_allocate,
      errSpec_allocate, Bool.false_eq_true, ↓reduceIte, true_and]
    split <;> simp
  · simp [hr]

@[simp] theorem safe_kzalloc {I : Int → World → Prop} {bad : Ub → Prop} {n : Nat}
    {Q : Bool → World → Prop} :
    Safe I bad (kzalloc n) Q w ↔
      if w.env.refuses n then Q false w else Q (w.env.allocFail w.allocs).isNone w.allocTick := by
  unfold kzalloc
  cases hr : w.env.refuses n
  · simp only [safe_bind, safe_refusesSize, hr, safe_allocate, Bool.false_eq_true,
      ↓reduceIte, World.allocAnswer]
    cases w.env.allocFail w.allocs <;> simp
  · simp [hr]

@[simp] theorem okSpec_smbStrtoUtf16 {size : Nat} {src : List UInt8}
    {Q : List UInt16 → World → Prop} :
    OkSpec (smbStrtoUtf16 P size src) Q w ↔
      (unicodeLen ((P.toUtf16 src).length + 1) ≤ size → Q (P.toUtf16 src) w) := by
  unfold smbStrtoUtf16
  split <;> simp_all

@[simp] theorem runs_smbStrtoUtf16 {size : Nat} {src : List UInt8}
    {Q : List UInt16 → World → Prop} :
    Runs (smbStrtoUtf16 P size src) Q w ↔
      unicodeLen ((P.toUtf16 src).length + 1) ≤ size ∧ Q (P.toUtf16 src) w := by
  unfold smbStrtoUtf16
  split <;> simp_all

@[simp] theorem errSpec_smbStrtoUtf16 {size : Nat} {src : List UInt8} {Q : Int → World → Prop} :
    ErrSpec (smbStrtoUtf16 P size src) Q w := by
  unfold smbStrtoUtf16
  split <;> simp

@[simp] theorem safe_smbStrtoUtf16 {I : Int → World → Prop} {bad : Ub → Prop} {size : Nat}
    {src : List UInt8} {Q : List UInt16 → World → Prop} :
    Safe I bad (smbStrtoUtf16 P size src) Q w ↔
      if unicodeLen ((P.toUtf16 src).length + 1) ≤ size then Q (P.toUtf16 src) w
      else ¬bad .writePast := by
  unfold smbStrtoUtf16
  split <;> simp

/-- The conversion always fits the `2 + UNICODE_LEN(strlen)` buffer `calc_ntlmv2_hash`
allocates for it. -/
theorem smbStrtoUtf16_fits (src : List UInt8) :
    unicodeLen ((P.toUtf16 src).length + 1) ≤ 2 + unicodeLen src.length := by
  have := P.toUtf16_length_le src
  simp only [unicodeLen]
  omega

@[simp] theorem okSpec_eP24 {p21 c8 : List UInt8} {Q : ByteBuf 24 → World → Prop} :
    OkSpec (eP24 P p21 c8) Q w ↔ (w.env.fault w.steps = none → Q (P.eP24 p21 c8) w.tick) := by
  simp [eP24]

@[simp] theorem runs_eP24 {p21 c8 : List UInt8} {Q : ByteBuf 24 → World → Prop} :
    Runs (eP24 P p21 c8) Q w ↔ w.env.fault w.steps = none ∧ Q (P.eP24 p21 c8) w.tick := by
  simp [eP24]

@[simp] theorem errSpec_eP24 {p21 c8 : List UInt8} {Q : Int → World → Prop} :
    ErrSpec (eP24 P p21 c8) Q w ↔ ∀ e, w.env.fault w.steps = some e → Q (-e.code) w.tick := by
  simp [eP24]

@[simp] theorem okSpec_smbStrndupFromUtf16 {buf : List UInt8} {off maxlen : Nat}
    {Q : Option (List UInt8) → World → Prop} :
    OkSpec (smbStrndupFromUtf16 P buf off maxlen) Q w ↔ ∀ src, readBytes buf off maxlen = some src →
      Q (if w.env.allocFail w.allocs = none then some (P.fromUtf16 src) else none) w.allocTick := by
  unfold smbStrndupFromUtf16
  simp only [okSpec_bind, okSpec_defined, okSpec_allocate, World.allocAnswer]
  cases w.env.allocFail w.allocs <;> simp

@[simp] theorem runs_smbStrndupFromUtf16 {buf : List UInt8} {off maxlen : Nat}
    {Q : Option (List UInt8) → World → Prop} :
    Runs (smbStrndupFromUtf16 P buf off maxlen) Q w ↔ ∃ src, readBytes buf off maxlen = some src ∧
      Q (if w.env.allocFail w.allocs = none then some (P.fromUtf16 src) else none) w.allocTick := by
  unfold smbStrndupFromUtf16
  simp only [runs_bind, runs_defined, runs_allocate, World.allocAnswer]
  cases w.env.allocFail w.allocs <;> simp

@[simp] theorem errSpec_smbStrndupFromUtf16 {buf : List UInt8} {off maxlen : Nat}
    {Q : Int → World → Prop} : ErrSpec (smbStrndupFromUtf16 P buf off maxlen) Q w := by
  unfold smbStrndupFromUtf16
  simp only [errSpec_bind, errSpec_defined, okSpec_defined, errSpec_allocate, okSpec_allocate,
    true_and]
  intro _ _
  cases w.allocAnswer <;> simp

/-- `smb_mdfour` returns normally either way, and writes the front of the session key
exactly when its step succeeds. -/
@[simp] theorem okSpec_smbMdfour {src : List UInt8} {Q : Int → World → Prop} :
    OkSpec (smbMdfour P src) Q w ↔
      (∀ e, w.env.fault w.steps = some e → Q (-e.code) w.tick) ∧
      (w.env.fault w.steps = none →
        Q 0 (w.tick.withSess (w.sess.setSessKey 0 (P.mdfour src) (by decide)))) := by
  unfold smbMdfour
  simp only [okSpec_bind, okSpec_nextFault]
  cases w.env.fault w.steps <;> simp

@[simp] theorem runs_smbMdfour {src : List UInt8} {Q : Int → World → Prop} :
    Runs (smbMdfour P src) Q w ↔
      (∀ e, w.env.fault w.steps = some e → Q (-e.code) w.tick) ∧
      (w.env.fault w.steps = none →
        Q 0 (w.tick.withSess (w.sess.setSessKey 0 (P.mdfour src) (by decide)))) := by
  unfold smbMdfour
  simp only [runs_bind, runs_nextFault]
  cases w.env.fault w.steps <;> simp

@[simp] theorem errSpec_smbMdfour {src : List UInt8} {Q : Int → World → Prop} :
    ErrSpec (smbMdfour P src) Q w := by
  unfold smbMdfour
  simp only [errSpec_bind, errSpec_nextFault, okSpec_nextFault, true_and]
  cases w.env.fault w.steps <;> simp

/-- `strncmp` stops with 0 at a NUL byte both strings share: it never compares the bytes
after it. -/
theorem strncmp_eq_zero_of_nul {buf key : List UInt8} {off i : Nat} (hnul : key.get? i = some 0)
    (hagree : ∀ j ≤ i, buf.get? (off + j) = key.get? j) : strncmp buf off key = some 0 := by
  induction key generalizing off i with
  | nil => simp at hnul
  | cons c rest ih =>
    have h0 : buf.get? off = some c := by simpa using hagree 0 (Nat.zero_le _)
    rw [strncmp, h0]
    simp only [ne_eq, not_true_eq_false, if_false]
    split_ifs with hc
    · rfl
    · cases i with
      | zero => simp_all
      | succ i =>
        refine ih (i := i) (by simpa using hnul) fun j hj => ?_
        simpa [Nat.add_right_comm off 1 j, Nat.add_assoc] using hagree (j + 1) (by omega)

/-- `strncmp` from an offset at or past the end of the buffer reads past it. -/
theorem strncmp_eq_none_of_le {buf key : List UInt8} {off : Nat} (hoff : buf.length ≤ off)
    (hkey : key ≠ []) : strncmp buf off key = none := by
  cases key with
  | nil => exact absurd rfl hkey
  | cons c rest => rw [strncmp, List.get?_eq_none.mpr hoff]

end Helpers

/-! ## `compute_sess_key` -/

section ComputeSessKey

variable {hash hmac : ByteBuf 16}

theorem okSpec_computeSessKey :
    OkSpec (computeSessKey P hash hmac)
      (fun _ w' => w'.sess = w.sess.setSessKey 0 (sessKeyOf P hash hmac) (by decide)) w := by
  unfold computeSessKey cryptoHmacmd5Alloc
  rw [okSpec_bind]
  exact okSpec_cryptoShashAlloc fun k s => by simp [sessKeyOf, Prims.digest]

theorem runs_computeSessKey (hclean : w.env.Clean)
    (hslot : (w.slot .hmacmd5).Empty ∨ (w.slot .hmacmd5).Populated) :
    Runs (computeSessKey P hash hmac)
      (fun _ w' => w'.sess = w.sess.setSessKey 0 (sessKeyOf P hash hmac) (by decide) ∧
        w'.env = w.env ∧ (w'.slot .hmacmd5).Populated) w := by
  unfold computeSessKey cryptoHmacmd5Alloc
  rw [runs_bind]
  refine runs_cryptoShashAlloc hclean.2 hslot fun k s ⟨t, d, ht, hd, htd⟩ => ?_
  simp [ht, hd, htd, hclean.1, sessKeyOf, Prims.digest, Slot.Populated]

/-- `compute_sess_key` writes the session only in its last step: every error exit has a
negative code and leaves the session as it was. -/
theorem errSpec_computeSessKey :
    ErrSpec (computeSessKey P hash hmac) (fun rc w' => rc < 0 ∧ w'.sess = w.sess) w := by
  unfold computeSessKey cryptoHmacmd5Alloc
  rw [errSpec_bind]
  exact ⟨errSpec_cryptoShashAlloc fun _ _ _ h => ⟨h, rfl⟩, okSpec_cryptoShashAlloc fun k s => by simp⟩

end ComputeSessKey

/-! ## `calc_ntlmv2_hash` -/

section CalcNtlmv2Hash

/-- `calc_ntlmv2_hash` returns the NTLMv2 hash of the session's user for the domain it was
given; every error exit has a negative code; the call never writes the session or reads or
writes past a buffer. -/
theorem safe_calcNtlmv2Hash {dn : Option (List UInt8)} :
    Safe (fun rc w' => rc < 0 ∧ w'.sess = w.sess) (fun why => why = .readPast ∨ why = .writePast)
      (calcNtlmv2Hash P dn)
      (fun hsh w' => ∃ d, dn = some d ∧ hsh = ntlmv2Hash P w.sess d ∧ w'.sess = w.sess ∧
        w'.env = w.env) w := by
  unfold calcNtlmv2Hash
  simp only [safe_bind, safe_getSlot]
  cases hs : (w.slot .hmacmd5).sdesc with
  | none => exact ⟨by decide, rfl⟩
  | some _ =>
    have henomem : -enomem < 0 := by decide
    cases dn <;> by_cases hn : w.sess.usr.name = [] <;>
      simp only [safe_bind, safe_ite, safe_fail, safe_final, safe_update, safe_smbStrtoUtf16,
        safe_kzalloc, safe_defined, safe_pure, safe_init, safe_setkey, safe_getSess,
        World.tick_sess, World.tick_env, World.tick_steps, World.tick_allocs, World.putSlot_env,
        World.putSlot_steps, World.putSlot_sess, World.putSlot_allocs, World.slot_putSlot,
        World.allocTick_sess, World.slot_allocTick, World.allocTick_env, World.allocTick_steps,
        World.allocTick_allocs, Slot.paired?_mk_some, Option.some_bind,
        hs, hn, henomem, ntlmv2Hash, userUnits, Prims.digest, smbStrtoUtf16_fits,
        Errno.code_pos, Int.neg_neg_iff_pos, Int.ofNat_pos, Bool.not_eq_eq_eq_not, Bool.not_true,
        Bool.not_eq_false, Bool.false_eq_true, Bool.not_eq_true, Option.isNone_eq_false_iff,
        Option.isNone_iff_eq_none, Option.ite_none_right_eq_some, Option.some.injEq,
        Prod.mk.injEq, List.length_eq_zero, List.length_nil, List.append_assoc, List.nil_append,
        ↓reduceIte, reduceCtorEq, if_true_left, ite_self, exists_eq_left', exists_const,
        forall_eq', forall_const, forall_apply_eq_imp_iff₂, forall_apply_eq_imp_iff, and_imp,
        imp_false, imp_self, implies_true, IsEmpty.forall_iff, Classical.imp_and_neg_imp_iff,
        not_true_eq_false, not_false_eq_true, or_self, false_and, true_and, and_true, and_self]

theorem okSpec_calcNtlmv2Hash {dn : Option (List UInt8)} :
    OkSpec (calcNtlmv2Hash P dn)
      (fun hsh w' => ∃ d, dn = some d ∧ hsh = ntlmv2Hash P w.sess d ∧ w'.sess = w.sess) w :=
  safe_calcNtlmv2Hash.okSpec.mono fun _ _ ⟨d, hd, hh, hs, _⟩ => ⟨d, hd, hh, hs⟩

theorem errSpec_calcNtlmv2Hash {dn : Option (List UInt8)} :
    ErrSpec (calcNtlmv2Hash P dn) (fun rc w' => rc < 0 ∧ w'.sess = w.sess) w :=
  safe_calcNtlmv2Hash.errSpec

theorem runs_calcNtlmv2Hash {d : List UInt8} (hclean : w.env.Clean)
    (hslot : (w.slot .hmacmd5).Populated) :
    Runs (calcNtlmv2Hash P (some d))
      (fun hsh w' => hsh = ntlmv2Hash P w.sess d ∧ w'.sess = w.sess ∧ w'.env = w.env ∧
        (w'.slot .hmacmd5).Populated) w := by
  obtain ⟨t, s, ht, hs, hts⟩ := hslot
  unfold calcNtlmv2Hash
  by_cases hn : w.sess.usr.name = [] <;>
    simp only [runs_bind, runs_getSlot, runs_ite, runs_fail, runs_final, runs_update,
      runs_smbStrtoUtf16, runs_kzalloc, runs_defined, runs_pure, runs_init, runs_setkey,
      runs_getSess, World.tick_sess, World.tick_env, World.slot_tick, World.slot_putSlot,
      World.putSlot_env, World.putSlot_steps, World.tick_steps, World.putSlot_sess,
      World.slot_allocTick, World.allocTick_env, World.allocTick_steps, World.allocTick_sess,
      World.putSlot_allocs, World.tick_allocs, World.allocTick_allocs,
      ht, hs, hts, hn, hclean.1, hclean.2, hclean.3, Slot.Populated, ntlmv2Hash, userUnits,
      Prims.digest, smbStrtoUtf16_fits, Int.reduceNeg, Bool.not_eq_eq_eq_not, Bool.not_true,
      Bool.not_eq_false, Bool.false_eq_true, Bool.not_eq_true, Option.some.injEq,
      Option.isNone_iff_eq_none, List.length_eq_zero, List.length_nil, List.append_assoc,
      List.nil_append, ↓reduceIte, if_false_left, exists_and_left, exists_eq_left', false_and,
      true_and, and_self]

end CalcNtlmv2Hash

/-! ## `process_ntlm` -/

section ProcessNtlm

variable {buf : List UInt8} {off : Nat}

/-- An accepted NTLMv1 response is one `strncmp` finds equal to the expected one; the
session is then committed, with or without the legacy hash in front. -/
theorem okSpec_processNtlm :
    OkSpec (processNtlm P buf off)
      (fun _ w' => strncmp buf off (ntlmResponse P w.sess).bytes = some 0 ∧
        ∃ b, w'.sess = ntlmCommit P w.sess b) w := by
  unfold processNtlm
  simp [ntlmResponse, ntlmCommit, Bool.exists_bool]
  exact fun _ => ⟨fun _ _ _ h h0 => h0 ▸ h, fun _ _ h h0 => h0 ▸ h⟩

theorem runs_processNtlm (hclean : w.env.Clean)
    (hmatch : strncmp buf off (ntlmResponse P w.sess).bytes = some 0) :
    Runs (processNtlm P buf off)
      (fun _ w' => w'.sess = ntlmCommit P w.sess true ∧ w'.env = w.env ∧ w'.server = w.server) w := by
  unfold processNtlm
  simp [ntlmResponse] at hmatch
  simp [hclean.1, hmatch, ntlmCommit, ntlmResponse]

/-- An error exit of `process_ntlm` either has a negative code and comes before the session
is touched, or is the comparison failing after the session was committed. -/
theorem errSpec_processNtlm :
    ErrSpec (processNtlm P buf off)
      (fun rc w' => rc < 0 ∧ w'.sess = w.sess ∨ rc = -einval ∧
        (∃ r, strncmp buf off (ntlmResponse P w.sess).bytes = some r ∧ r ≠ 0) ∧
        ∃ b, w'.sess = ntlmCommit P w.sess b) w := by
  unfold processNtlm
  simp [ntlmResponse, ntlmCommit, Bool.exists_bool]
  exact fun _ => ⟨fun _ _ a h ha => .inr ⟨a, h, ha⟩, fun _ a h ha => .inr ⟨a, h, ha⟩⟩

end ProcessNtlm

/-! ## `process_ntlmv2` -/

section ProcessNtlmv2

variable {buf : List UInt8} {off : Nat} {blen : Int} {dn : Option (List UInt8)}

/-- `process_ntlmv2` returns normally only when `ntlmv2Check`'s comparison finds the proof
equal, with the check's session key written. An error exit either has a negative code and
leaves the session as it was, or is the final `memcmp` failing after `compute_sess_key`
wrote the key: its code is then `memcmp`'s result, the first component of `ntlmv2Check`. -/
theorem safe_processNtlmv2 :
    Safe (fun rc w' => rc < 0 ∧ w'.sess = w.sess ∨
        ∃ k, ntlmv2Check P w.sess buf off blen dn = some (rc, k) ∧ rc ≠ 0 ∧
          w'.sess = w.sess.setSessKey 0 k (by decide))
      (fun _ => False) (processNtlmv2 P buf off blen dn)
      (fun _ w' => ∃ k, ntlmv2Check P w.sess buf off blen dn = some (0, k) ∧
        w'.sess = w.sess.setSessKey 0 k (by decide)) w := by
  unfold processNtlmv2 cryptoHmacmd5Alloc
  rw [safe_bind]
  refine .of_spec (okSpec_cryptoShashAlloc fun k s => ?_)
    (errSpec_cryptoShashAlloc fun _ _ _ h => .inl ⟨h, rfl⟩)
  rw [safe_bind]
  refine (safe_calcNtlmv2Hash.weaken fun _ => False.elim).imp (fun _ _ h => .inl h) ?_
  rintro _ w₁ ⟨d, rfl, rfl, hsess, -⟩
  have henomem : -enomem < 0 := by decide
  simp only [World.putSlot_sess, World.withAllocs_sess] at hsess
  simp only [safe_bind, safe_ite, safe_fail, safe_undefined, safe_check, safe_defined, safe_final,
    safe_update, safe_getSess, safe_kzalloc, safe_init, safe_setkey, World.putSlot_sess,
    World.tick_sess, World.slot_putSlot, World.putSlot_env, World.tick_env, World.putSlot_steps,
    World.tick_steps, World.putSlot_tick, World.allocTick_sess, World.slot_allocTick,
    World.allocTick_env, World.allocTick_steps, World.putSlot_allocs, World.tick_allocs,
    World.putSlot_allocTick, World.putSlot_putSlot, Slot.paired?_mk_some, hsess, henomem,
    Errno.code_pos, Int.neg_neg_iff_pos, Int.ofNat_pos, Int.reducePow, Int.lt_toNat,
    Int.natCast_eq_zero, neg_eq_zero, Bool.not_eq_eq_eq_not, Bool.not_true, Bool.not_eq_false,
    Bool.false_eq_true, Bool.not_eq_true, Option.isNone_eq_false_iff, Option.isNone_iff_eq_none,
    Option.some_bind, Option.bind_eq_some, Option.ite_none_right_eq_some, Option.some.injEq,
    Prod.mk.injEq, readBytes_eq_none, List.nil_append, ↓reduceIte, reduceCtorEq, if_true_left,
    ne_eq, not_lt, not_false_eq_true, and_imp, forall_exists_index, forall_apply_eq_imp_iff₂,
    forall_apply_eq_imp_iff, forall_eq', IsEmpty.forall_iff, forall_const, implies_true, true_or,
    true_and, and_true, and_self]
  intros; subst_vars
  refine (Safe.of_spec okSpec_computeSessKey errSpec_computeSessKey).imp
    (fun _ _ h => .inl (by simpa [hsess] using h)) fun _ w' hw' proof hproof => ?_
  simp only [World.putSlot_sess, World.tick_sess, World.allocTick_sess, hsess] at hw'
  exact ⟨fun h0 => ⟨_, by simp_all [ntlmv2Check, Prims.digest, Int.not_lt], hw'⟩,
    fun hne => .inr ⟨_, by simp_all [ntlmv2Check, Prims.digest, Int.not_lt], hne, hw'⟩⟩

/-- An accepted NTLMv2 response is one whose verdict accepts, and the session key is the
verdict's. -/
theorem okSpec_processNtlmv2 :
    OkSpec (processNtlmv2 P buf off blen dn)
      (fun _ w' => ∃ k, ntlmv2Verdict P w.sess buf off blen dn = some (true, k) ∧
        w'.sess = w.sess.setSessKey 0 k (by decide)) w :=
  safe_processNtlmv2.okSpec.mono fun _ _ ⟨k, hk, hs⟩ =>
    ⟨k, ntlmv2Verdict_eq_some.mpr ⟨0, hk, rfl⟩, hs⟩

theorem errSpec_processNtlmv2 :
    ErrSpec (processNtlmv2 P buf off blen dn)
      (fun rc w' => rc < 0 ∧ w'.sess = w.sess ∨
        ∃ k, ntlmv2Check P w.sess buf off blen dn = some (rc, k) ∧ rc ≠ 0 ∧
          w'.sess = w.sess.setSessKey 0 k (by decide)) w :=
  safe_processNtlmv2.errSpec

/-- On a clean kernel, from an empty or populated HMAC-MD5 slot, `process_ntlmv2` does what
`ntlmv2Check` says: it writes the check's session key, then returns normally when the
comparison's result `c` is 0 and fails with `c` itself otherwise. -/
theorem safe_processNtlmv2_clean {c : Int} {k : ByteBuf 16} (hclean : w.env.Clean)
    (hslot : (w.slot .hmacmd5).Empty ∨ (w.slot .hmacmd5).Populated)
    (hc : ntlmv2Check P w.sess buf off blen dn = some (c, k)) :
    Safe (fun rc w' => rc = c ∧ c ≠ 0 ∧ w'.sess = w.sess.setSessKey 0 k (by decide) ∧
        w'.env = w.env ∧ (w'.slot .hmacmd5).Populated)
      (fun _ => True) (processNtlmv2 P buf off blen dn)
      (fun _ w' => c = 0 ∧ w'.sess = w.sess.setSessKey 0 k (by decide) ∧ w'.env = w.env ∧
        (w'.slot .hmacmd5).Populated) w := by
  cases dn with
  | none => simp [ntlmv2Check] at hc
  | some d =>
  simp only [ntlmv2Check, Int.reducePow, Int.lt_toNat, Option.pure_def, Option.bind_eq_bind,
    Option.some_bind, Option.ite_none_left_eq_some, not_lt, Option.bind_eq_some, Option.some.injEq,
    Prod.mk.injEq] at hc
  obtain ⟨h1, blob, hblob, h2, h3, proof, hproof, rfl, rfl⟩ := hc
  unfold processNtlmv2 cryptoHmacmd5Alloc
  rw [safe_bind]
  refine (runs_cryptoShashAlloc hclean.2 hslot fun k' s hs => ?_).safe fun _ _ => id
  rw [safe_bind]
  refine (runs_calcNtlmv2Hash (by simpa using hclean) (by simpa using hs)).safe ?_
  rintro _ w₁ ⟨rfl, hsess, henv, t, d₁, ht, hd, htd⟩
  simp only [safe_bind, safe_ite, safe_fail, safe_undefined, safe_check, safe_defined, safe_final,
    safe_update, safe_getSess, safe_kzalloc, safe_init, safe_setkey, World.putSlot_sess,
    World.withAllocs_sess, World.tick_sess, World.slot_tick, World.slot_putSlot, World.putSlot_env,
    World.tick_env, World.putSlot_steps, World.tick_steps, World.putSlot_tick, World.allocTick_sess,
    World.allocTick_env, World.slot_allocTick, World.allocTick_steps, World.putSlot_allocs,
    World.tick_allocs, World.putSlot_allocTick, World.putSlot_putSlot, World.withAllocs_env,
    Slot.paired?_mk_some, Option.some_bind, hblob, h1, h2, h3, ht, hd, htd, henv, hsess, hclean.1,
    hclean.2, hclean.3, Int.reducePow, Int.lt_toNat, Bool.not_eq_eq_eq_not, Bool.not_true, Bool.not_eq_false,
    Bool.false_eq_true, Option.isNone_eq_false_iff, Option.isNone_iff_eq_none, Option.isSome_none,
    Option.ite_none_right_eq_some, Option.some.injEq, Prod.mk.injEq, readBytes_eq_none,
    List.nil_append, ↓reduceIte, reduceCtorEq, ite_eq_right_iff, Decidable.not_not, ne_eq, not_lt,
    not_true_eq_false, not_false_eq_true, imp_false, and_imp, forall_apply_eq_imp_iff₂,
    forall_apply_eq_imp_iff, forall_eq', IsEmpty.forall_iff, forall_const, imp_self, implies_true,
    true_and, and_true]
  refine (runs_computeSessKey ?_ (.inr ?_)).safe fun _ w₂ h => ?_
  · simpa [henv] using hclean
  · simp [Slot.Populated]
  obtain ⟨hsess₂, henv₂, hpop₂⟩ := h
  refine ⟨(readBytes_eq_some.mp hproof).1, fun a ha => ?_⟩
  obtain rfl : proof = a := by rw [hproof] at ha; exact Option.some.inj ha
  simp only [Prims.digest, hsess₂, hsess, henv₂, henv, hpop₂, World.putSlot_sess, World.tick_sess,
    World.allocTick_sess, World.withAllocs_sess, World.putSlot_env, World.tick_env,
    World.allocTick_env, World.withAllocs_env, and_self, and_true, imp_self, true_and]

theorem runs_processNtlmv2 {k : ByteBuf 16} (hclean : w.env.Clean)
    (hslot : (w.slot .hmacmd5).Empty ∨ (w.slot .hmacmd5).Populated)
    (hv : ntlmv2Verdict P w.sess buf off blen dn = some (true, k)) :
    Runs (processNtlmv2 P buf off blen dn)
      (fun _ w' => w'.sess = w.sess.setSessKey 0 k (by decide) ∧ w'.env = w.env ∧
        (w'.slot .hmacmd5).Populated) w := by
  obtain ⟨c, hc, hc0⟩ := ntlmv2Verdict_eq_some.mp hv
  exact ((safe_processNtlmv2_clean hclean hslot hc).runs
    fun _ _ h => h.2.1 (of_decide_eq_true hc0.symm)).mono fun _ _ h => h.2

end ProcessNtlmv2

end KsmbdAuth
