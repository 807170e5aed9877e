import KsmbdAuth.Logic
import KsmbdAuth.Sign

/-!
# What the signers compute

For each function of `Sign` this file states the value it computes, as a pure function of
the session, the connection fields and the arguments. Two lemmas connect that to the code:

* `okSpec_*`: every normal return gives that value and leaves the session as it was. This
  is soundness;
* `runs_*`: when every allocation and primitive step succeeds, and the slots the function
  uses are empty or populated (populated for `smb3_sign_smbpdu`, which allocates nothing),
  the call returns normally with that value. This is completeness.

The values do not mention the keys or the data an earlier call left in a cached transform.
Each signer sets its key, where the transform is keyed, and initialises the descriptor
before it feeds anything.
-/

namespace KsmbdAuth

variable {P : Prims} {w : World} {buf : List UInt8}

/-! ## Reference values -/

/-- `smb1_sign_smbpdu`: MD5 of the 40-byte session key and the PDU. -/
def smb1Signature (P : Prims) (s : Sess) (buf : List UInt8) : ByteBuf 16 :=
  P.md5 (s.sessKey.bytes.take 40 ++ buf)

/-- `smb2_sign_smbpdu`: HMAC-SHA256 of the PDU under the first 16 bytes of the session key. -/
def smb2Signature (P : Prims) (s : Sess) (buf : List UInt8) : ByteBuf 32 :=
  P.hmacsha256 (s.sessKey.bytes.take smb2NtlmV2SesskeySize) buf

/-- `smb3_sign_smbpdu`: CMAC-AES of the PDU under the channel's signing key. -/
def smb3Signature (P : Prims) (smb3signingkey : ByteBuf 16) (buf : List UInt8) : ByteBuf 16 :=
  P.cmacaes (smb3signingkey.bytes.take smb2CmacAesSize) buf

/-- What `compute_smb3xsigningkey` feeds the KDF: `i ‖ label ‖ 0 ‖ context ‖ L`. SMB 3.1.1
takes the label "SMBSigningKey" and the session's preauth hash as context, the earlier
dialects "SMB2AESCMAC" and "SmbSign". -/
def smb3xsigningkeyInput (dialect : Nat) (s : Sess) : List UInt8 :=
  [0, 0, 0, 1] ++
    (if dialect = smb311ProtId then cString "SMBSigningKey" else cString "SMB2AESCMAC") ++ [0] ++
    (if dialect = smb311ProtId then s.preauthHashValue.bytes else cString "SmbSign") ++
    [0, 0, 0, 128]

/-- The signing key `compute_smb3xsigningkey` derives, cut to `keySize` bytes. -/
def smb3xsigningkey (P : Prims) (dialect : Nat) (s : Sess) (keySize : Nat) : List UInt8 :=
  (P.hmacsha256 (s.sessKey.bytes.take smb2NtlmV2SesskeySize)
    (smb3xsigningkeyInput dialect s)).bytes.take keySize

/-- `calc_preauth_integrity_hash`: SHA-512 of the running hash and the message the RFC1001
length in front of it announces; `none` where it reads past the buffer. -/
def preauthIntegrityHash (P : Prims) (preauth : ByteBuf 64) (buf : List UInt8) :
    Option (ByteBuf 64) := do
  let hdr ← readBytes buf 0 4
  let msg ← readBytes buf 4 (Endian.big.load hdr)
  pure (P.sha512 (preauth.bytes ++ msg))

/-! ## `smb1_sign_smbpdu` -/

theorem okSpec_smb1SignSmbpdu :
    OkSpec (smb1SignSmbpdu P buf)
      (fun sig w' => sig = smb1Signature P w.sess buf ∧ w'.sess = w.sess) w := by
  unfold smb1SignSmbpdu cryptoMd5Alloc
  rw [okSpec_bind]
  exact okSpec_cryptoShashAlloc fun k s => by simp [smb1Signature, Prims.digest]

theorem runs_smb1SignSmbpdu (hclean : w.env.Clean)
    (hslot : (w.slot .md5).Empty ∨ (w.slot .md5).Populated) :
    Runs (smb1SignSmbpdu P buf)
      (fun sig w' => sig = smb1Signature P w.sess buf ∧ w'.sess = w.sess) w := by
  unfold smb1SignSmbpdu cryptoMd5Alloc
  rw [runs_bind]
  refine runs_cryptoShashAlloc hclean.2 hslot fun k s ⟨t, d, ht, hd, htd⟩ => ?_
  simp [ht, hd, htd, hclean.1, smb1Signature, Prims.digest]

/-! ## `smb2_sign_smbpdu` -/

theorem okSpec_smb2SignSmbpdu :
    OkSpec (smb2SignSmbpdu P buf)
      (fun sig w' => sig = smb2Signature P w.sess buf ∧ w'.sess = w.sess) w := by
  unfold smb2SignSmbpdu cryptoHmacsha256Alloc
  rw [okSpec_bind]
  exact okSpec_cryptoShashAlloc fun k s => by simp [smb2Signature, Prims.digest]

theorem runs_smb2SignSmbpdu (hclean : w.env.Clean)
    (hslot : (w.slot .hmacsha256).Empty ∨ (w.slot .hmacsha256).Populated) :
    Runs (smb2SignSmbpdu P buf)
      (fun sig w' => sig = smb2Signature P w.sess buf ∧ w'.sess = w.sess) w := by
  unfold smb2SignSmbpdu cryptoHmacsha256Alloc
  rw [runs_bind]
  refine runs_cryptoShashAlloc hclean.2 hslot fun k s ⟨t, d, ht, hd, htd⟩ => ?_
  simp [ht, hd, htd, hclean.1, smb2Signature, Prims.digest]

/-! ## `smb3_sign_smbpdu` -/

variable {smb3signingkey : ByteBuf 16}

theorem okSpec_smb3SignSmbpdu :
    OkSpec (smb3SignSmbpdu P smb3signingkey buf)
      (fun sig w' => sig = smb3Signature P smb3signingkey buf ∧ w'.sess = w.sess) w := by
  simp [smb3SignSmbpdu, smb3Signature, Prims.digest]

theorem runs_smb3SignSmbpdu (hclean : w.env.Clean) (hslot : (w.slot .cmacaes).Populated) :
    Runs (smb3SignSmbpdu P smb3signingkey buf)
      (fun sig w' => sig = smb3Signature P smb3signingkey buf ∧ w'.sess = w.sess) w := by
  obtain ⟨t, d, ht, hd, htd⟩ := hslot
  simp [smb3SignSmbpdu, ht, hd, htd, hclean.1, smb3Signature, Prims.digest]

/-! ## `compute_smb3xsigningkey` -/

variable {keySize : Nat}

/-- A derived key is cut from a 32-byte digest, so a normal return has `key_size` at most
32; a larger one makes the final `memcpy` read past `prfhash`. -/
theorem okSpec_computeSmb3xsigningkey :
    OkSpec (computeSmb3xsigningkey P keySize)
      (fun key w' => keySize ≤ smb2HmacSha256Size ∧
        key = smb3xsigningkey P w.server.dialect w.sess keySize ∧ w'.sess = w.sess) w := by
  unfold computeSmb3xsigningkey cryptoHmacsha256Alloc cryptoCmacAlloc
  rw [okSpec_bind]
  refine okSpec_cryptoShashAlloc fun k s => ?_
  rw [okSpec_bind]
  refine okSpec_cryptoShashAlloc fun k' s' => ?_
  by_cases hd : w.server.dialect = smb311ProtId <;>
    simp only [smb3xsigningkey, smb3xsigningkeyInput, hd, ↓reduceIte, List.cons_append,
      List.singleton_append, List.append_assoc, List.nil_append, World.putSlot_withAllocs,
      World.withAllocs_withAllocs, okSpec_bind, okSpec_ite, okSpec_undefined, okSpec_pure,
      okSpec_final, okSpec_update, okSpec_init, okSpec_setkey, okSpec_getSess, okSpec_getServer,
      Prims.digest, World.slot_putSlot, World.tick_sess, World.tick_env, World.tick_steps,
      World.tick_server, World.putSlot_env, World.putSlot_steps, World.putSlot_sess,
      World.putSlot_dialect, World.withAllocs_env, World.withAllocs_steps, World.withAllocs_server,
      World.withAllocs_sess, Option.some.injEq, reduceCtorEq, forall_eq', not_lt, implies_true,
      true_and, and_self, and_true, imp_self, not_true_eq_false, not_false_eq_true,
      false_implies]

theorem runs_computeSmb3xsigningkey (hclean : w.env.Clean)
    (hhmac : (w.slot .hmacsha256).Empty ∨ (w.slot .hmacsha256).Populated)
    (hcmac : (w.slot .cmacaes).Empty ∨ (w.slot .cmacaes).Populated)
    (hsize : keySize ≤ smb2HmacSha256Size) :
    Runs (computeSmb3xsigningkey P keySize)
      (fun key w' => key = smb3xsigningkey P w.server.dialect w.sess keySize ∧ w'.sess = w.sess) w := by
  unfold computeSmb3xsigningkey cryptoHmacsha256Alloc cryptoCmacAlloc
  rw [runs_bind]
  refine runs_cryptoShashAlloc hclean.2 hhmac fun k s ⟨t, d, ht, hd, htd⟩ => ?_
  rw [runs_bind]
  refine runs_cryptoShashAlloc hclean.2 (by simpa using hcmac) fun k' s' _ => ?_
  have hlt : ¬smb2HmacSha256Size < keySize := by omega
  by_cases hdia : w.server.dialect = smb311ProtId <;>
    simp only [smb3xsigningkey, smb3xsigningkeyInput, hdia, hlt, ht, hd, htd, hclean.1,
      ↓reduceIte, List.cons_append, List.singleton_append, List.append_assoc, List.nil_append,
      World.putSlot_withAllocs, World.withAllocs_withAllocs, runs_bind, runs_ite, runs_pure,
      runs_final, runs_update, runs_init, runs_setkey, runs_getSess, runs_getServer, Prims.digest,
      World.slot_putSlot, World.tick_sess, World.tick_env, World.tick_steps, World.tick_server,
      World.putSlot_env, World.putSlot_steps, World.putSlot_sess, World.putSlot_dialect,
      World.withAllocs_env, World.withAllocs_steps, World.withAllocs_server, World.withAllocs_sess,
      Option.some.injEq, reduceCtorEq, exists_eq_left', and_self, and_true, true_and]

/-! ## `calc_preauth_integrity_hash` -/

variable {hashId : Int}

/-- `calc_preauth_integrity_hash` returns only for SHA-512, with the SHA-512 of the
connection's running hash and the message, and writes that value through `pi_hash`: into
the connection's `Preauth_HashValue` when `pi_hash` points there. An error exit writes
nothing. Neither exit touches the session or the dialect. -/
theorem safe_calcPreauthIntegrityHash {piHash : PiHash} :
    Safe (fun _ w' => w'.sess = w.sess ∧ w'.server.dialect = w.server.dialect ∧
        w'.server.preauthHashValue = w.server.preauthHashValue)
      (fun _ => False) (calcPreauthIntegrityHash P hashId buf piHash)
      (fun h w' => hashId = smb2PreauthIntegritySha512 ∧
        preauthIntegrityHash P w.server.preauthHashValue buf = some h ∧ w'.sess = w.sess ∧
        w'.server.dialect = w.server.dialect ∧
        w'.server.preauthHashValue = if piHash = .conn then h else w.server.preauthHashValue) w := by
  unfold calcPreauthIntegrityHash cryptoSha512Alloc
  simp only [safe_bind, safe_defined, safe_ite, safe_fail]
  refine ⟨fun _ => id, fun hdr hhdr => ⟨fun _ => by simp, fun hid => ?_⟩⟩
  refine safe_cryptoShashAlloc (fun k s => ?_) fun _ _ _ _ => by simp
  cases hmsg : readBytes buf 4 (Endian.big.load hdr) <;> cases piHash <;>
    simp only [safe_pure, safe_final, safe_update, safe_getServer, safe_init, safe_setPreauth,
      writePiHash, preauthIntegrityHash, not_not.mp hid, hhdr, hmsg, Slot.paired?_mk_some, Prims.digest,
      World.tick_sess, World.tick_server, World.tick_env, World.tick_steps, World.slot_putSlot,
      World.putSlot_env, World.putSlot_steps, World.putSlot_sess, World.putSlot_dialect,
      World.putSlot_preauth, World.putSlot_tick, World.putSlot_putSlot, World.withAllocs_env,
      World.withAllocs_steps, World.withAllocs_tick, World.withAllocs_server,
      World.withAllocs_sess, World.withPreauth_sess, World.withPreauth_dialect,
      World.withPreauth_preauth, readBytes_eq_none, Option.pure_def, Option.bind_eq_bind,
      Option.some_bind, Option.some.injEq, Option.ite_none_right_eq_some, Prod.mk.injEq,
      List.append_assoc, List.nil_append, ↓reduceIte, reduceCtorEq, and_imp,
      forall_apply_eq_imp_iff₂, forall_apply_eq_imp_iff, forall_eq', forall_const,
      IsEmpty.forall_iff, not_false_eq_true, implies_true, imp_self, true_and, and_true, and_self]

theorem okSpec_calcPreauthIntegrityHash {piHash : PiHash} :
    OkSpec (calcPreauthIntegrityHash P hashId buf piHash)
      (fun h w' => hashId = smb2PreauthIntegritySha512 ∧
        preauthIntegrityHash P w.server.preauthHashValue buf = some h ∧ w'.sess = w.sess) w :=
  safe_calcPreauthIntegrityHash.okSpec.mono fun _ _ ⟨hid, hh, hs, _⟩ => ⟨hid, hh, hs⟩

theorem runs_calcPreauthIntegrityHash {h : ByteBuf 64} {piHash : PiHash} (hclean : w.env.Clean)
    (hslot : (w.slot .sha512).Empty ∨ (w.slot .sha512).Populated)
    (hid : hashId = smb2PreauthIntegritySha512)
    (hh : preauthIntegrityHash P w.server.preauthHashValue buf = some h) :
    Runs (calcPreauthIntegrityHash P hashId buf piHash) (fun h' w' => h' = h ∧ w'.sess = w.sess)
      w := by
  simp only [preauthIntegrityHash, Option.bind_eq_bind, Option.bind_eq_some, Option.some_bind,
    Option.pure_def, Option.some.injEq] at hh
  obtain ⟨hdr, hhdr, msg, hmsg, rfl⟩ := hh
  unfold calcPreauthIntegrityHash cryptoSha512Alloc
  simp only [runs_bind, runs_defined, hhdr, hid, ne_eq, not_true_eq_false, if_false, runs_ite,
    true_and]
  refine ⟨hdr, rfl, runs_cryptoShashAlloc hclean.2 hslot fun k s ⟨t, d, ht, hd, htd⟩ => ?_⟩
  cases piHash <;> simp [ht, hd, htd, hclean.1, hmsg, Prims.digest, writePiHash]

end KsmbdAuth
