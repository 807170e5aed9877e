import KsmbdAuth.Conn

/-!
# What every exit of a call keeps

Several facts about `auth.c` along whole runs have one shape: every normal return and every
error exit of a call keeps a relation between the world before and the world after, and
every error code meets a bound, whatever undefined behaviour the call may also reach. A
`Frame` names such a relation and bound, with what the steps that leave the session alone
need of them: the relation is a preorder that every primitive step, allocation and slot
write keeps, and the bound holds of every code `auth.c` and the kernel fail with.
`Frame.Keeps` is the judgment. It is closed under `bind` and `if`, holds of every step of
the crypto API, and so of every function of `auth.c` that leaves the session alone. The
functions that write the session are left to each frame (`Negotiation`, `ErrorCodes`).
-/

namespace KsmbdAuth

variable {α β : Type}

/-- A relation between the worlds before and after a call, and a bound on its error codes,
that the steps leaving the session alone keep. -/
structure Frame where
  R : World → World → Prop
  E : Int → Prop
  refl : ∀ w, R w w
  trans : ∀ {w₁ w₂ w₃}, R w₁ w₂ → R w₂ w₃ → R w₁ w₃
  tick : ∀ w, R w w.tick
  allocTick : ∀ w, R w w.allocTick
  putSlot : ∀ w a s, R w (w.putSlot a s)
  errno : ∀ e : Errno, E (-e.code)
  enomem : E (-enomem)
  einval : E (-einval)
  minusOne : E (-1)

namespace Frame

/-- Every normal return and every error exit of `x`, from every world, keeps `F`. -/
def Keeps (F : Frame) (x : M α) : Prop :=
  ∀ w, Safe (fun rc w' => F.E rc ∧ F.R w w') (fun _ => False) x (fun _ w' => F.R w w') w

variable {F : Frame}

/-! ## Combinators and the primitive steps -/

section Combinators

variable {x y : M α} {f : α → M β}

/-- A step that returns in a world `F` relates to the one it started from. -/
theorem keeps_of_ok (h : ∀ w, ∃ a w', x w = .ok a w' ∧ F.R w w') : F.Keeps x := fun w => by
  obtain ⟨a, w', hx, hr⟩ := h w
  exact (safe_ok hx).mpr hr

theorem Keeps.bind (hx : F.Keeps x) (hf : ∀ a, F.Keeps (f a)) : F.Keeps (x >>= f) := fun w => by
  rw [safe_bind]
  exact (hx w).imp (fun _ _ h => h) fun a w₁ h₁ =>
    (hf a w₁).imp (fun _ _ h => ⟨h.1, F.trans h₁ h.2⟩) fun _ _ h => F.trans h₁ h

/-- A call followed by returning a value of its result, as `Call.run` returns its bytes. -/
theorem Keeps.bind_pure (hx : F.Keeps x) {g : α → β} : F.Keeps (x >>= fun a => pure (g a)) :=
  hx.bind fun _ => keeps_of_ok fun w => ⟨_, w, rfl, F.refl w⟩

/-- The judgment at one world, with the bound on error codes dropped. -/
theorem Keeps.safe (hx : F.Keeps x) (w : World) :
    Safe (fun _ w' => F.R w w') (fun _ => False) x (fun _ w' => F.R w w') w :=
  (hx w).imp (fun _ _ h => h.2) fun _ _ => id

theorem Keeps.ite {c : Prop} [Decidable c] (hx : F.Keeps x) (hy : F.Keeps y) :
    F.Keeps (if c then x else y) := by
  split
  · exact hx
  · exact hy

theorem keeps_pure {a : α} : F.Keeps (pure a : M α) := keeps_of_ok fun w => ⟨a, w, rfl, F.refl w⟩

theorem keeps_fail {rc : Int} (h : F.E rc) : F.Keeps (fail rc : M α) := fun w => ⟨h, F.refl w⟩

theorem keeps_undefined {why : Ub} : F.Keeps (undefined why : M α) := fun _ => id

theorem keeps_defined {why : Ub} {o : Option α} : F.Keeps (defined why o) := by
  cases o
  · exact keeps_undefined
  · exact keeps_pure

theorem keeps_getSess : F.Keeps getSess := keeps_of_ok fun w => ⟨_, w, rfl, F.refl w⟩

theorem keeps_getServer : F.Keeps getServer := keeps_of_ok fun w => ⟨_, w, rfl, F.refl w⟩

theorem keeps_getSlot {a : Alg} : F.Keeps (getSlot a) := keeps_of_ok fun w => ⟨_, w, rfl, F.refl w⟩

theorem keeps_getRandomBytes : F.Keeps getRandomBytes :=
  keeps_of_ok fun w => ⟨_, w, rfl, F.refl w⟩

theorem keeps_setSlot {a : Alg} {s : Slot} : F.Keeps (setSlot a s) :=
  keeps_of_ok fun w => ⟨_, _, rfl, F.putSlot w a s⟩

theorem keeps_nextFault : F.Keeps nextFault := keeps_of_ok fun w => ⟨_, _, rfl, F.tick w⟩

theorem keeps_allocate : F.Keeps allocate := keeps_of_ok fun w => ⟨_, _, rfl, F.allocTick w⟩

theorem keeps_stepAnswer : F.Keeps stepAnswer :=
  keeps_nextFault.bind fun o => by
    cases o with
    | none => exact keeps_pure
    | some e => exact keeps_fail (F.errno e)

theorem keeps_refusesSize {n : Nat} : F.Keeps (refusesSize n) :=
  keeps_of_ok fun w => ⟨_, w, rfl, F.refl w⟩

theorem keeps_kzalloc {n : Nat} : F.Keeps (kzalloc n) :=
  keeps_refusesSize.bind fun _ => .ite keeps_pure <| keeps_allocate.bind fun r => by
    cases r <;> exact keeps_pure

variable {b : Alg}

theorem keeps_descOf : F.Keeps (descOf b) :=
  keeps_getSlot.bind fun s => by
    cases s.paired? with
    | none => exact keeps_undefined
    | some _ => exact keeps_pure

theorem keeps_setkey {k : List UInt8} : F.Keeps (setkey b k) :=
  keeps_getSlot.bind fun s => by
    cases s.tfm with
    | none => exact keeps_undefined
    | some _ => exact keeps_stepAnswer.bind fun _ => keeps_setSlot

theorem keeps_init : F.Keeps (init b) :=
  keeps_descOf.bind fun ⟨_, _⟩ => keeps_stepAnswer.bind fun _ => keeps_setSlot

theorem keeps_update {data : List UInt8} : F.Keeps (update b data) :=
  keeps_descOf.bind fun ⟨_, _⟩ => keeps_stepAnswer.bind fun _ => keeps_setSlot

theorem keeps_final {P : Prims} : F.Keeps (final P b) :=
  keeps_descOf.bind fun ⟨_, _⟩ => keeps_stepAnswer.bind fun _ => keeps_pure

/-- An allocator fails with the negated errno of its first allocation, or `-ENOMEM`. -/
theorem keeps_cryptoShashAlloc {sentinel : Sentinel} : F.Keeps (cryptoShashAlloc b sentinel) :=
  keeps_getSlot.bind fun _ => .ite keeps_pure <| keeps_allocate.bind fun r => by
    cases r with
    | error e => exact keeps_setSlot.bind fun _ => keeps_fail (F.errno e)
    | ok _ =>
      exact keeps_allocate.bind fun r => by
        cases r with
        | error _ => exact keeps_setSlot.bind fun _ => keeps_fail F.enomem
        | ok _ => exact keeps_setSlot

end Combinators

/-! ## The functions of `auth.c` that leave the session alone -/

section Functions

variable {P : Prims} {buf : List UInt8} {off : Nat}

theorem keeps_cryptoAlloc (a : Alg) : F.Keeps (cryptoAlloc a) := by
  cases a <;> exact keeps_cryptoShashAlloc

theorem keeps_smbStrtoUtf16 {size : Nat} {src : List UInt8} :
    F.Keeps (smbStrtoUtf16 P size src) :=
  .ite keeps_pure keeps_undefined

theorem keeps_smbStrndupFromUtf16 {maxlen : Nat} :
    F.Keeps (smbStrndupFromUtf16 P buf off maxlen) :=
  keeps_defined.bind fun _ => keeps_allocate.bind fun r => by
    cases r <;> exact keeps_pure

theorem keeps_eP24 {p21 c8 : List UInt8} : F.Keeps (eP24 P p21 c8) :=
  keeps_stepAnswer.bind fun _ => keeps_pure

theorem keeps_calcNtlmv2Hash {dn : Option (List UInt8)} : F.Keeps (calcNtlmv2Hash P dn) := by
  unfold calcNtlmv2Hash
  refine keeps_getSlot.bind fun s => ?_
  cases s.sdesc with
  | none => exact keeps_fail F.minusOne
  | some _ =>
    refine keeps_getSess.bind fun _ =>
      keeps_setkey.bind fun _ =>
      keeps_init.bind fun _ =>
      keeps_kzalloc.bind fun _ => .ite (keeps_fail F.enomem) ?_
    -- both ways of computing the user's units join in hashing the rest
    refine .ite (keeps_pure.bind ?units) (keeps_smbStrtoUtf16.bind fun _ => keeps_pure.bind ?units)
    exact fun _ =>
      keeps_update.bind fun _ =>
      keeps_defined.bind fun _ =>
      keeps_kzalloc.bind fun _ =>
      .ite (keeps_fail F.enomem) <|
      keeps_smbStrtoUtf16.bind fun _ =>
      keeps_update.bind fun _ =>
      keeps_final

theorem keeps_smb1SignSmbpdu : F.Keeps (smb1SignSmbpdu P buf) :=
  keeps_cryptoShashAlloc.bind fun _ =>
  keeps_init.bind fun _ =>
  keeps_getSess.bind fun _ =>
  keeps_update.bind fun _ =>
  keeps_update.bind fun _ =>
  keeps_final

theorem keeps_smb2SignSmbpdu : F.Keeps (smb2SignSmbpdu P buf) :=
  keeps_cryptoShashAlloc.bind fun _ =>
  keeps_getSess.bind fun _ =>
  keeps_setkey.bind fun _ =>
  keeps_init.bind fun _ =>
  keeps_update.bind fun _ =>
  keeps_final

theorem keeps_smb3SignSmbpdu {smb3signingkey : ByteBuf 16} :
    F.Keeps (smb3SignSmbpdu P smb3signingkey buf) :=
  keeps_setkey.bind fun _ =>
  keeps_init.bind fun _ =>
  keeps_update.bind fun _ =>
  keeps_final

theorem keeps_computeSmb3xsigningkey {keySize : Nat} :
    F.Keeps (computeSmb3xsigningkey P keySize) :=
  keeps_cryptoShashAlloc.bind fun _ =>
  keeps_cryptoShashAlloc.bind fun _ =>
  keeps_getSess.bind fun _ =>
  keeps_setkey.bind fun _ =>
  keeps_init.bind fun _ =>
  keeps_update.bind fun _ =>
  keeps_getServer.bind fun _ => by
  -- each dialect test sends its two updates into one join point
  refine .ite (keeps_update.bind ?label) (keeps_update.bind ?label)
  refine fun _ => keeps_update.bind fun _ => ?_
  refine .ite (keeps_update.bind ?context) (keeps_update.bind ?context)
  exact fun _ =>
    keeps_update.bind fun _ =>
    keeps_final.bind fun _ =>
    .ite keeps_undefined keeps_pure

/-- Writing the digest through `pi_hash` keeps a frame that the connection's preauth hash
is not part of, or that writes it when `pi_hash` is the connection's. -/
theorem keeps_writePiHash {piHash : PiHash} {h : ByteBuf 64}
    (hp : piHash = .conn → ∀ w h, F.R w (w.withPreauth h)) : F.Keeps (writePiHash piHash h) := by
  cases piHash
  · exact keeps_of_ok fun w => ⟨_, _, rfl, hp rfl w h⟩
  · exact keeps_pure

theorem keeps_calcPreauthIntegrityHash {hashId : Int} {piHash : PiHash}
    (hp : piHash = .conn → ∀ w h, F.R w (w.withPreauth h)) :
    F.Keeps (calcPreauthIntegrityHash P hashId buf piHash) :=
  keeps_defined.bind fun _ =>
  .ite (keeps_fail F.minusOne) <|
  keeps_cryptoShashAlloc.bind fun _ =>
  keeps_init.bind fun _ =>
  keeps_getServer.bind fun _ =>
  keeps_update.bind fun _ =>
  keeps_defined.bind fun _ =>
  keeps_update.bind fun _ =>
  keeps_final.bind fun _ =>
  (keeps_writePiHash hp).bind fun _ => keeps_pure

end Functions

/-! ## Frames blind to the session

A frame that relates a world to every world with another session is kept by the calls that
write the session too. With every error code allowed, it is kept by every call. -/

section SessionBlind

variable {P : Prims} {e : Endian} {buf : List UInt8} {off : Nat}

theorem keeps_modifySess (hs : ∀ w s, F.R w (w.withSess s)) {g : Sess → Sess} :
    F.Keeps (modifySess g) :=
  keeps_of_ok fun w => ⟨_, _, rfl, hs w _⟩

theorem keeps_loadField {width : Nat} : F.Keeps (loadField e buf off width) :=
  keeps_defined.bind fun _ => keeps_pure

theorem keeps_storeField {width n : Nat} : F.Keeps (storeField e buf off width n) :=
  keeps_defined

theorem keeps_check (hE : ∀ rc, F.E rc) {rc : Int} : F.Keeps (check rc) :=
  .ite keeps_pure (keeps_fail (hE rc))

theorem keeps_computeSessKey (hs : ∀ w s, F.R w (w.withSess s)) {hash hmac : ByteBuf 16} :
    F.Keeps (computeSessKey P hash hmac) :=
  keeps_cryptoShashAlloc.bind fun _ =>
  keeps_setkey.bind fun _ =>
  keeps_init.bind fun _ =>
  keeps_update.bind fun _ =>
  keeps_final.bind fun _ =>
  keeps_modifySess hs

/-- `smb_mdfour` returns its error code rather than failing with it. -/
theorem keeps_smbMdfour (hs : ∀ w s, F.R w (w.withSess s)) {src : List UInt8} :
    F.Keeps (smbMdfour P src) :=
  keeps_nextFault.bind fun o => by
    cases o with
    | some _ => exact keeps_pure
    | none => exact (keeps_modifySess hs).bind fun _ => keeps_pure

theorem keeps_processNtlm (hs : ∀ w s, F.R w (w.withSess s)) : F.Keeps (processNtlm P buf off) :=
  keeps_getSess.bind fun _ =>
  keeps_eP24.bind fun _ =>
  (keeps_smbMdfour hs).bind fun _ =>
  (keeps_modifySess hs).bind fun _ =>
  keeps_defined.bind fun _ =>
  .ite (keeps_fail F.einval) keeps_pure

theorem keeps_decodeNtlmsspNegotiateBlob (hs : ∀ w s, F.R w (w.withSess s)) :
    F.Keeps (decodeNtlmsspNegotiateBlob e buf) :=
  .ite (keeps_fail F.einval) <|
  keeps_defined.bind fun _ =>
  .ite (keeps_fail F.einval) <|
  keeps_loadField.bind fun _ =>
  keeps_modifySess hs

theorem keeps_addTargetInfo {name : List UInt8} {len : Nat} :
    ∀ types buf off total, F.Keeps (addTargetInfo e name len types buf off total)
  | [], _, _, _ => keeps_pure
  | _ :: types, _, _, _ =>
    keeps_storeField.bind fun _ =>
    keeps_storeField.bind fun _ =>
    keeps_defined.bind fun _ =>
    keeps_storeField.bind fun _ =>
    keeps_addTargetInfo types _ _ _

theorem keeps_buildNtlmsspChallengeBlob (hs : ∀ w s, F.R w (w.withSess s))
    {netbiosName : List UInt8} : F.Keeps (buildNtlmsspChallengeBlob P e netbiosName buf) :=
  keeps_defined.bind fun _ =>
  keeps_storeField.bind fun _ =>
  keeps_getSess.bind fun _ =>
  keeps_storeField.bind fun _ =>
  keeps_smbStrtoUtf16.bind fun _ =>
  keeps_storeField.bind fun _ =>
  keeps_storeField.bind fun _ =>
  keeps_storeField.bind fun _ =>
  keeps_getRandomBytes.bind fun _ =>
  (keeps_modifySess hs).bind fun _ =>
  keeps_defined.bind fun _ =>
  keeps_loadField.bind fun _ =>
  keeps_storeField.bind fun _ =>
  keeps_defined.bind fun _ =>
  keeps_storeField.bind fun _ =>
  (keeps_addTargetInfo _ _ _ _).bind fun (_, _, _) =>
  keeps_storeField.bind fun _ =>
  keeps_storeField.bind fun _ =>
  keeps_storeField.bind fun _ =>
  keeps_storeField.bind fun _ =>
  keeps_pure

theorem keeps_processNtlmv2 (hs : ∀ w s, F.R w (w.withSess s)) (hE : ∀ rc, F.E rc) {blen : Int}
    {dn : Option (List UInt8)} : F.Keeps (processNtlmv2 P buf off blen dn) :=
  keeps_cryptoShashAlloc.bind fun _ =>
  keeps_calcNtlmv2Hash.bind fun _ =>
  keeps_setkey.bind fun _ =>
  keeps_init.bind fun _ =>
  keeps_kzalloc.bind fun _ =>
  .ite (keeps_fail F.enomem) <|
  keeps_getSess.bind fun _ =>
  .ite keeps_undefined <|
  keeps_defined.bind fun _ =>
  .ite keeps_undefined <|
  .ite keeps_undefined <|
  keeps_update.bind fun _ =>
  keeps_final.bind fun _ =>
  (keeps_computeSessKey hs).bind fun _ =>
  keeps_defined.bind fun _ =>
  keeps_check hE

theorem keeps_decodeNtlmsspAuthenticateBlob (hs : ∀ w s, F.R w (w.withSess s))
    (hE : ∀ rc, F.E rc) : F.Keeps (decodeNtlmsspAuthenticateBlob P e buf) :=
  .ite (keeps_fail F.einval) <|
  keeps_defined.bind fun _ =>
  .ite (keeps_fail F.einval) <|
  keeps_loadField.bind fun _ =>
  keeps_loadField.bind fun _ =>
  .ite (keeps_processNtlm hs) <|
  keeps_loadField.bind fun _ =>
  keeps_loadField.bind fun _ =>
  keeps_smbStrndupFromUtf16.bind fun _ =>
  keeps_processNtlmv2 hs hE

/-- A frame blind to the session and to error codes is kept by every call, but one that
writes the connection's preauth hash where the frame is not blind to it. -/
theorem keeps_run (hs : ∀ w s, F.R w (w.withSess s)) (hE : ∀ rc, F.E rc) :
    ∀ c : Call, (c.WritesPreauth → ∀ w h, F.R w (w.withPreauth h)) → F.Keeps (c.run P)
  | .cryptoAlloc a, _ => (keeps_cryptoAlloc a).bind_pure
  | .computeSessKey .., _ => (keeps_computeSessKey hs).bind_pure
  | .processNtlm .., _ => (keeps_processNtlm hs).bind_pure
  | .processNtlmv2 .., _ => (keeps_processNtlmv2 hs hE).bind_pure
  | .decodeNtlmsspNegotiateBlob .., _ => (keeps_decodeNtlmsspNegotiateBlob hs).bind_pure
  | .decodeNtlmsspAuthenticateBlob .., _ => (keeps_decodeNtlmsspAuthenticateBlob hs hE).bind_pure
  | .buildNtlmsspChallengeBlob .., _ =>
    (keeps_buildNtlmsspChallengeBlob hs).bind fun (_, _) => keeps_pure
  | .smb1SignSmbpdu _, _ => keeps_smb1SignSmbpdu.bind_pure
  | .smb2SignSmbpdu _, _ => keeps_smb2SignSmbpdu.bind_pure
  | .smb3SignSmbpdu .., _ => keeps_smb3SignSmbpdu.bind_pure
  | .computeSmb3xsigningkey _, _ => keeps_computeSmb3xsigningkey
  | .calcPreauthIntegrityHash .., hp => (keeps_calcPreauthIntegrityHash hp).bind_pure

end SessionBlind

end Frame

end KsmbdAuth
