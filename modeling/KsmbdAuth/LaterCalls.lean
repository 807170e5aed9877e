import KsmbdAuth.Exchange
import KsmbdAuth.Exits

/-!
# What a call gets from the calls before it

A connection serves the calls of `auth.c` one after another, and a call reads state earlier
ones leave: the signers the session key a login writes, `smb3_sign_smbpdu` the CMAC
transform `compute_smb3xsigningkey` allocates, and every call the slots all calls before it
left. This file follows that state from the calls that leave it to the calls that use it.

* `ntlmv2_login_signing_keys`: after an accepted NTLMv2 AUTHENTICATE, SMB2 signatures and
  SMB3 signing keys are keyed by `H(K, P)` alone, with `P` the proof the message carries;
* `smb3_sign_after_key_derivation`: once a key derivation has returned on a connection,
  every later `smb3_sign_smbpdu`, after any run of calls, has its CMAC slot populated;
* `transform_call_served_after_any_run`: no run of calls, whatever failed along it, keeps a
  later call that computes with the cached transforms from returning what `Call.expected`
  says, on a kernel that answers with success;
* `preauth_rolls_along_run`: no call writes the connection's dialect, and its preauth hash
  changes only when `calc_preauth_integrity_hash` writes through a `pi_hash` at it: along
  every run the hash is the fold of SHA-512 over the messages so hashed (`preauthAfter`).
-/

namespace KsmbdAuth

variable {P : Prims} {w : World}

/-! ## Signing after an NTLMv2 login -/

section Login

variable {e : Endian} {blob : List UInt8} {off ntLen dOff dLen : Nat}

/-- Take an AUTHENTICATE message routed to NTLMv2 whose response `r` has a `Length` of at
least 16, let `K` be the user's NTLMv2 key for the domain `dom` the message names, and
`P = r[0..16)` the proof it carries. From the connection an accepted decode leaves,
`smb2_sign_smbpdu` returns HMAC-SHA256 of the PDU under `H(K, P)`, and
`compute_smb3xsigningkey` derives its key under `H(K, P)`: neither depends on the key the
session held before the login. -/
theorem ntlmv2_login_signing_keys
    (hr : authRoute e blob = some (.ntlmv2 off ((ntLen : Int) - cifsEncpwdSize) dOff dLen))
    (h16 : 16 ≤ ntLen) :
    OkSpec (decodeNtlmsspAuthenticateBlob P e blob)
      (fun _ w' => ∃ r dom, readBytes blob off ntLen = some r ∧
        readBytes blob dOff dLen = some dom ∧ ∀ buf keySize,
        OkSpec (smb2SignSmbpdu P buf)
          (fun sig _ => sig = P.hmacsha256 (P.hmacmd5 (ntlmv2Key P w.sess.usr.name
            w.sess.usr.passkey (P.fromUtf16 dom)).bytes (r.take 16)).bytes buf) w' ∧
        OkSpec (computeSmb3xsigningkey P keySize)
          (fun key _ => key = (P.hmacsha256 (P.hmacmd5 (ntlmv2Key P w.sess.usr.name
            w.sess.usr.passkey (P.fromUtf16 dom)).bytes (r.take 16)).bytes
              (smb3xsigningkeyInput w'.server.dialect w.sess)).bytes.take keySize) w') w := by
  refine (okSpec_decode_ntlmv2_response hr h16).mono ?_
  rintro _ w' ⟨r, dom, hread, hdom, -, hs⟩
  refine ⟨r, dom, hread, hdom, fun buf keySize => ⟨?_, ?_⟩⟩
  · exact okSpec_smb2SignSmbpdu.mono fun _ _ ⟨hsig, _⟩ => by
      rw [hsig, smb2Signature, hs, smb2NtlmV2SesskeySize, Sess.setSessKey_zero_take]
  · exact okSpec_computeSmb3xsigningkey.mono fun _ _ ⟨_, hkey, _⟩ => by
      rw [hkey, smb3xsigningkey, hs, smb2NtlmV2SesskeySize, Sess.setSessKey_zero_take]
      rfl

/-- A login with a 32-byte zero response and an empty domain on a new connection. -/
theorem ntlmv2_login_signing_keys_sample :
    (authRoute .little (authenticateMessage (List.replicate 32 0) []) =
        some (.ntlmv2 64 (((32 : Nat) : Int) - cifsEncpwdSize) 64 0) ∧ 16 ≤ 32) ∧
    OkSpec (decodeNtlmsspAuthenticateBlob Prims.zeros .little
        (authenticateMessage (List.replicate 32 0) []))
      (fun _ w' => ∃ r dom, readBytes (authenticateMessage (List.replicate 32 0) []) 64 32 = some r ∧
        readBytes (authenticateMessage (List.replicate 32 0) []) 64 0 = some dom ∧ ∀ buf keySize,
        OkSpec (smb2SignSmbpdu Prims.zeros buf)
          (fun sig _ => sig = Prims.zeros.hmacsha256 (Prims.zeros.hmacmd5 (ntlmv2Key Prims.zeros
            World.sample.sess.usr.name
            World.sample.sess.usr.passkey
            (Prims.zeros.fromUtf16 dom)).bytes (r.take 16)).bytes buf) w' ∧
        OkSpec (computeSmb3xsigningkey Prims.zeros keySize)
          (fun key _ => key = (Prims.zeros.hmacsha256 (Prims.zeros.hmacmd5 (ntlmv2Key Prims.zeros
            World.sample.sess.usr.name
            World.sample.sess.usr.passkey
            (Prims.zeros.fromUtf16 dom)).bytes (r.take 16)).bytes
              (smb3xsigningkeyInput w'.server.dialect
                World.sample.sess)).bytes.take keySize) w')
      World.sample :=
  have hr : authRoute .little (authenticateMessage (List.replicate 32 0) []) =
      some (.ntlmv2 64 (((32 : Nat) : Int) - cifsEncpwdSize) 64 0) := by decide
  ⟨⟨hr, by decide⟩, ntlmv2_login_signing_keys hr (by decide)⟩

end Login

/-! ## SMB3 signing after a key derivation -/

section Derivation

variable {w₀ w₁ w₂ w₃ : World} {keySize : Nat} {key : List UInt8} {s : Sess} {env : Env}

/-- A key derivation that returns leaves the slots a later state of the ones it found, with
the CMAC slot populated. -/
theorem computeSmb3xsigningkey_populates_cmac (hw : SlotsWf w.ptrs)
    (hkdf : computeSmb3xsigningkey P keySize w = .ok key w₁) :
    SlotsLater w.ptrs w₁.ptrs ∧ PtrsPopulated (w₁.ptrs .cmacaes) := by
  have h : Safe _ Ub.OnSlot (computeSmb3xsigningkey P keySize) _ w :=
    slotSafe_computeSmb3xsigningkey_allocates (S := fun _ => False) w hw fun _ => False.elim
  rw [safe_ok hkdf] at h
  exact ⟨h.1, h.2 _ (.inr rfl)⟩

/-- Take a run of calls from a connection whose slots are all empty or populated, then a
`compute_smb3xsigningkey` on any session that returns, then any further run. On the
connection reached, `smb3_sign_smbpdu`, on any session and with any key and PDU, never steps
a slot that is not populated; when the kernel answers its steps with success, it returns the
CMAC of the PDU under the key. -/
theorem smb3_sign_after_key_derivation (h₀ : ∀ a, (w₀.slot a).Empty ∨ (w₀.slot a).Populated)
    (hr₁ : Reachable P w₀ w₁) (hkdf : computeSmb3xsigningkey P keySize (w₁.enter s env) = .ok key w₂)
    (hr₂ : Reachable P w₂ w₃) (s' : Sess) (env' : Env) (smb3signingkey : ByteBuf 16)
    (buf : List UInt8) :
    (∀ a, smb3SignSmbpdu P smb3signingkey buf (w₃.enter s' env') ≠ .ub (.slot a)) ∧
      (env'.Clean → Runs (smb3SignSmbpdu P smb3signingkey buf)
        (fun sig w' => sig = smb3Signature P smb3signingkey buf ∧ w'.sess = s')
        (w₃.enter s' env')) := by
  have hw₁ := (Reachable.slotsLater (fun a => Slot.wf_iff_ptrs.mp (h₀ a)) hr₁).wf
  obtain ⟨hL₂, hcmac⟩ := computeSmb3xsigningkey_populates_cmac (w := w₁.enter s env) hw₁ hkdf
  have hL₃ := Reachable.slotsLater hL₂.wf hr₂
  have hcmac₃ : PtrsPopulated (w₃.ptrs .cmacaes) := hL₃.populated hcmac
  refine ⟨fun a => ?_, fun hclean => runs_smb3SignSmbpdu hclean (Slot.populated_iff_ptrs.mpr hcmac₃)⟩
  exact (slotSafe_smb3SignSmbpdu (S := (· = .cmacaes)) rfl (w₃.enter s' env') hL₃.wf
    (by rintro _ rfl; exact hcmac₃)).ne_ub (show (Ub.slot a).OnSlot from trivial)

/-- A new connection, one key derivation on a kernel that answers everything with success,
and no further call: signing an SMB3 PDU there computes the CMAC. -/
theorem smb3_sign_after_key_derivation_sample :
    ∃ key w₂, computeSmb3xsigningkey Prims.zeros 16
        (World.sample.enter (Sess.sample 0 (ByteBuf.zero 40))
          (Env.clean (ByteBuf.zero 8))) = .ok key w₂ ∧
      (∀ a : Alg, ((World.sample.slot a).Empty ∨
        (World.sample.slot a).Populated)) ∧
      ((∀ a, smb3SignSmbpdu Prims.zeros (ByteBuf.zero 16) [1, 2, 3]
          (w₂.enter (Sess.sample 0 (ByteBuf.zero 40)) (Env.clean (ByteBuf.zero 8))) ≠ .ub (.slot a)) ∧
        ((Env.clean (ByteBuf.zero 8)).Clean → Runs (smb3SignSmbpdu Prims.zeros (ByteBuf.zero 16) [1, 2, 3])
          (fun sig w' => sig = smb3Signature Prims.zeros (ByteBuf.zero 16) [1, 2, 3] ∧
            w'.sess = Sess.sample 0 (ByteBuf.zero 40))
          (w₂.enter (Sess.sample 0 (ByteBuf.zero 40)) (Env.clean (ByteBuf.zero 8))))) :=
  have h₀ : ∀ a : Alg, (World.sample.slot a).Empty ∨
      (World.sample.slot a).Populated :=
    fun a => .inl (by cases a <;> exact ⟨rfl, rfl⟩)
  let ⟨key, w₂, hkdf⟩ : ∃ key w₂, computeSmb3xsigningkey Prims.zeros 16
      (World.sample.enter (Sess.sample 0 (ByteBuf.zero 40))
        (Env.clean (ByteBuf.zero 8))) = .ok key w₂ := ⟨_, _, rfl⟩
  ⟨key, w₂, hkdf, h₀, smb3_sign_after_key_derivation h₀ .refl hkdf .refl _ _ _ _⟩

end Derivation

/-! ## Any call after any run -/

section Served

variable {w₀ : World} {c : Call} {s s' : Sess} {env : Env} {out : List UInt8}

/-- On every connection reached by a run from one whose slots are all empty or populated,
whatever failed along the run: a call that computes with the cached transforms, other than
`smb3_sign_smbpdu`, made on any session with a kernel that answers every allocation and
step with success, returns what `Call.expected` says wherever that is defined. -/
theorem transform_call_served_after_any_run
    (h₀ : ∀ a, (w₀.slot a).Empty ∨ (w₀.slot a).Populated) (hr : Reachable P w₀ w)
    (hc : c.UsesTransforms) (h3 : ∀ k buf, c ≠ .smb3SignSmbpdu k buf) (hclean : env.Clean)
    (he : c.expected P s w.server.dialect w.server.preauthHashValue = some (out, s')) :
    Runs (c.run P) (fun o w' => o = out ∧ w'.sess = s') (w.enter s env) :=
  have hL := Reachable.slotsLater (fun a => Slot.wf_iff_ptrs.mp (h₀ a)) hr
  runs_transformCall_wf hc hclean (fun a => Slot.wf_iff_ptrs.mpr (hL.wf a))
    (fun k buf h => absurd h (h3 k buf)) he

/-- After a key derivation on a new connection, signing an SMB2 PDU on a kernel that answers
with success returns the expected signature. -/
theorem transform_call_served_after_any_run_sample :
    ∃ key w₁, computeSmb3xsigningkey Prims.zeros 16
        (World.sample.enter (Sess.sample 0 (ByteBuf.zero 40))
          (Env.clean (ByteBuf.zero 8))) = .ok key w₁ ∧
      ((∀ a : Alg, ((World.sample.slot a).Empty ∨
        (World.sample.slot a).Populated)) ∧
        Reachable Prims.zeros World.sample w₁ ∧
        (Call.smb2SignSmbpdu [1, 2, 3]).UsesTransforms ∧
        (∀ k buf, Call.smb2SignSmbpdu [1, 2, 3] ≠ .smb3SignSmbpdu k buf) ∧
        (Env.clean (ByteBuf.zero 8)).Clean ∧
        (Call.smb2SignSmbpdu [1, 2, 3]).expected Prims.zeros (Sess.sample 0 (ByteBuf.zero 40))
            w₁.server.dialect w₁.server.preauthHashValue =
          some ((smb2Signature Prims.zeros (Sess.sample 0 (ByteBuf.zero 40)) [1, 2, 3]).bytes,
            Sess.sample 0 (ByteBuf.zero 40))) ∧
      Runs ((Call.smb2SignSmbpdu [1, 2, 3]).run Prims.zeros)
        (fun o w' => o = (smb2Signature Prims.zeros (Sess.sample 0 (ByteBuf.zero 40)) [1, 2, 3]).bytes ∧
          w'.sess = Sess.sample 0 (ByteBuf.zero 40))
        (w₁.enter (Sess.sample 0 (ByteBuf.zero 40)) (Env.clean (ByteBuf.zero 8))) :=
  have h₀ : ∀ a : Alg, (World.sample.slot a).Empty ∨
      (World.sample.slot a).Populated :=
    fun a => .inl (by cases a <;> exact ⟨rfl, rfl⟩)
  have h3 : ∀ k buf, Call.smb2SignSmbpdu [1, 2, 3] ≠ .smb3SignSmbpdu k buf := fun _ _ => nofun
  let ⟨key, w₁, hkdf⟩ : ∃ key w₁, computeSmb3xsigningkey Prims.zeros 16
      (World.sample.enter (Sess.sample 0 (ByteBuf.zero 40))
        (Env.clean (ByteBuf.zero 8))) = .ok key w₁ := ⟨_, _, rfl⟩
  have hr : Reachable Prims.zeros World.sample w₁ :=
    .single (Step.ok (.computeSmb3xsigningkey 16) _ _ _ hkdf)
  ⟨key, w₁, hkdf, ⟨h₀, hr, trivial, h3, Env.clean_Clean _, rfl⟩,
    transform_call_served_after_any_run h₀ hr trivial h3 (Env.clean_Clean _) rfl⟩

end Served

/-! ## The connection's dialect and preauth hash -/

section Preauth

variable {w₀ w₁ : World}

/-- The frame of the connection's dialect and `Preauth_HashValue`, whatever the error code. -/
def connectionFrame : Frame where
  R w w' := w'.server.dialect = w.server.dialect ∧
    w'.server.preauthHashValue = w.server.preauthHashValue
  E _ := True
  refl _ := ⟨rfl, rfl⟩
  trans h₁ h₂ := ⟨h₂.1.trans h₁.1, h₂.2.trans h₁.2⟩
  tick _ := ⟨rfl, rfl⟩
  allocTick _ := ⟨rfl, rfl⟩
  putSlot _ _ _ := ⟨rfl, rfl⟩
  errno _ := trivial
  enomem := trivial
  einval := trivial
  minusOne := trivial

/-- The preauth hash a call leaves when it returns on a connection whose hash is `h`:
`calc_preauth_integrity_hash` with `pi_hash` at the connection's hash rolls the message into
it, and every other call leaves it as it was. -/
def Call.preauthStep (P : Prims) : Call → ByteBuf 64 → ByteBuf 64
  | .calcPreauthIntegrityHash _ buf .conn, h => (preauthIntegrityHash P h buf).getD h
  | _, h => h

theorem Call.preauthStep_of_not_writes {c : Call} (hc : ¬c.WritesPreauth) (h : ByteBuf 64) :
    c.preauthStep P h = h := by
  cases c with
  | calcPreauthIntegrityHash _ _ piHash =>
    cases piHash
    · exact absurd rfl hc
    · rfl
  | _ => rfl

/-- One call, from any world, keeps the dialect. A normal return leaves the preauth hash
`Call.preauthStep` gives, and an error exit leaves it as it was. -/
theorem preauth_step (w : World) (c : Call) :
    Safe (fun _ w' => connectionFrame.R w w') (fun _ => False) (c.run P)
      (fun _ w' => w'.server.dialect = w.server.dialect ∧
        w'.server.preauthHashValue = c.preauthStep P w.server.preauthHashValue) w := by
  by_cases hc : c.WritesPreauth
  · obtain ⟨hashId, buf, rfl⟩ : ∃ hashId buf, c = .calcPreauthIntegrityHash hashId buf .conn := by
      cases c <;> simp only [Call.WritesPreauth] at hc
      exact ⟨_, _, by rw [hc]⟩
    rw [Call.run, safe_bind]
    refine safe_calcPreauthIntegrityHash.imp (fun _ _ h => h.2) fun _ _ ⟨_, hh, _, hd, hp⟩ => ?_
    rw [safe_pure, hp, if_pos rfl, Call.preauthStep, hh]
    exact ⟨hd, rfl⟩
  · rw [Call.preauthStep_of_not_writes hc]
    exact (Frame.keeps_run (F := connectionFrame) (fun _ _ => ⟨rfl, rfl⟩) (fun _ => trivial) c
      fun h => absurd h hc).safe w

/-- One call a connection served: the call, the session it was made on, the kernel's
answers, and whether it returned normally. -/
structure Served where
  call : Call
  sess : Sess
  env : Env
  returned : Bool

/-- A run of calls on a connection, labelled by what it served: each call is made on any
session, with the kernel answering as the label says, and returns or leaves through an
error exit. -/
inductive ConnRun (P : Prims) : World → List Served → World → Prop
  | nil (w : World) : ConnRun P w [] w
  | ok {w w₁ w₂ : World} {c : Call} {s : Sess} {env : Env} {out : List UInt8} {tr : List Served} :
      c.run P (w.enter s env) = .ok out w₁ → ConnRun P w₁ tr w₂ →
        ConnRun P w (⟨c, s, env, true⟩ :: tr) w₂
  | err {w w₁ w₂ : World} {c : Call} {s : Sess} {env : Env} {rc : Int} {tr : List Served} :
      c.run P (w.enter s env) = .err rc w₁ → ConnRun P w₁ tr w₂ →
        ConnRun P w (⟨c, s, env, false⟩ :: tr) w₂

/-- A labelled run is a run of the connection. -/
theorem ConnRun.reachable {tr : List Served} (h : ConnRun P w₀ tr w₁) : Reachable P w₀ w₁ := by
  induction h with
  | nil => exact .refl
  | ok hc _ ih => exact .head (Step.ok _ _ _ _ hc) ih
  | err hc _ ih => exact .head (Step.err _ _ _ _ hc) ih

/-- The preauth hash after the calls of a trace, from `h`: the message of every
`calc_preauth_integrity_hash` into the connection's hash that returned, rolled into it in
order. -/
def preauthAfter (P : Prims) (h : ByteBuf 64) : List Served → ByteBuf 64
  | [] => h
  | ⟨c, _, _, true⟩ :: tr => preauthAfter P (c.preauthStep P h) tr
  | ⟨_, _, _, false⟩ :: tr => preauthAfter P h tr

/-- Along every run of calls on a connection, whatever the calls, the sessions they are made
on and the kernel's answers, and whatever failed: the dialect stays what the SMB layer set,
and the preauth hash is the one the run started from with the message of every
`calc_preauth_integrity_hash` into the connection's hash that returned rolled into it, in
order: `H' = SHA-512(H ‖ m)`. No other call, and no error exit, writes it. -/
theorem preauth_rolls_along_run {tr : List Served} (hr : ConnRun P w₀ tr w₁) :
    w₁.server.dialect = w₀.server.dialect ∧
      w₁.server.preauthHashValue = preauthAfter P w₀.server.preauthHashValue tr := by
  induction hr with
  | nil => exact ⟨rfl, rfl⟩
  | @ok w _ _ c s env _ _ hc _ ih =>
    have h := (preauth_step (P := P) (w.enter s env) c).okSpec _ _ hc
    exact ⟨ih.1.trans h.1, ih.2.trans (by rw [h.2]; rfl)⟩
  | @err w _ _ c s env _ _ hc _ ih =>
    have h := (preauth_step (P := P) (w.enter s env) c).errSpec _ _ hc
    exact ⟨ih.1.trans h.1, ih.2.trans (by rw [h.2]; rfl)⟩

/-- The message of one byte `7` behind its RFC1001 length, hashed on a new connection into
the connection's hash, then with an unknown hash id, which fails, then into a caller's
buffer. -/
def preauthSample : List Served :=
  [⟨.calcPreauthIntegrityHash smb2PreauthIntegritySha512 [0, 0, 0, 1, 7] .conn,
      Sess.sample 0 (ByteBuf.zero 40), Env.clean (ByteBuf.zero 8), true⟩,
    ⟨.calcPreauthIntegrityHash 2 [0, 0, 0, 1, 7] .conn,
      Sess.sample 0 (ByteBuf.zero 40), Env.clean (ByteBuf.zero 8), false⟩,
    ⟨.calcPreauthIntegrityHash smb2PreauthIntegritySha512 [0, 0, 0, 1, 7] .buffer,
      Sess.sample 0 (ByteBuf.zero 40), Env.clean (ByteBuf.zero 8), true⟩]

theorem preauth_rolls_along_run_sample :
    ∃ w, ConnRun Prims.zeros World.sample preauthSample w ∧
      w.server.dialect = World.sample.server.dialect ∧
      w.server.preauthHashValue =
        preauthAfter Prims.zeros World.sample.server.preauthHashValue preauthSample :=
  let ⟨w, h⟩ : ∃ w, ConnRun Prims.zeros World.sample preauthSample w :=
    ⟨_, .ok rfl (.err rfl (.ok rfl (.nil _)))⟩
  ⟨w, h, preauth_rolls_along_run h⟩

end Preauth

end KsmbdAuth
