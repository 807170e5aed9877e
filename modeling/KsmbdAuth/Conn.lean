import Mathlib.Logic.Relation
import KsmbdAuth.Slots
import KsmbdAuth.SignSpec
import KsmbdAuth.AuthSpec

/-!
# Runs of a connection

A connection serves the calls of `auth.c` one after another. Each call is made on one of
its sessions, and the kernel answers its allocations and primitive steps as it will.
`Call` lists the calls with their arguments, `Step` is one call that returns or leaves
through an error exit, and `Reachable` is a run of steps. Undefined behaviour ends a run,
and nothing is claimed after it.

* `Reachable.slotsLater`: along every run the slots stay a later state of the ones it
  started from. It follows from the step lemma `Step.slotsLater` by induction on the run;
* `secmech_slots_discipline`: every slot stays empty or populated, a populated slot keeps
  its transform and descriptor, and the allocators return 0 exactly when they leave their
  slot populated;
* `slot_step_undefined_iff`: a call steps a slot that is not populated only when it is
  `smb3_sign_smbpdu`, which never allocates the CMAC slot it steps, on an empty one;
* `Call.expected`: what a call that computes with the cached transforms returns, as a
  function of the session and the connection's fields. `okSpec_transformCall` and
  `runs_transformCall` connect it to the code, and `transform_call_history_independent`
  follows: such a call returns what it returns on freshly allocated contexts.
-/

namespace KsmbdAuth

/-! ## Calls and runs -/

/-- The allocator of each transform. -/
def cryptoAlloc : Alg → M Unit
  | .md5 => cryptoMd5Alloc
  | .hmacmd5 => cryptoHmacmd5Alloc
  | .hmacsha256 => cryptoHmacsha256Alloc
  | .cmacaes => cryptoCmacAlloc
  | .sha512 => cryptoSha512Alloc

theorem cryptoAlloc_eq (a : Alg) : ∃ sentinel, cryptoAlloc a = cryptoShashAlloc a sentinel := by
  cases a <;> exact ⟨_, rfl⟩

/-- The calls of `auth.c` on a connection, with their arguments. The allocators are
`static`; they are listed so that runs may also call them directly. -/
inductive Call where
  | cryptoAlloc (a : Alg)
  | computeSessKey (hash hmac : ByteBuf 16)
  | processNtlm (buf : List UInt8) (off : Nat)
  | processNtlmv2 (buf : List UInt8) (off : Nat) (blen : Int) (domainName : Option (List UInt8))
  | decodeNtlmsspNegotiateBlob (e : Endian) (negblob : List UInt8)
  | decodeNtlmsspAuthenticateBlob (e : Endian) (authblob : List UInt8)
  | buildNtlmsspChallengeBlob (e : Endian) (netbiosName chgblob : List UInt8)
  | smb1SignSmbpdu (buf : List UInt8)
  | smb2SignSmbpdu (buf : List UInt8)
  | smb3SignSmbpdu (smb3signingkey : ByteBuf 16) (buf : List UInt8)
  | computeSmb3xsigningkey (keySize : Nat)
  | calcPreauthIntegrityHash (hashId : Int) (buf : List UInt8) (piHash : PiHash)

/-- A call, with the bytes it hands back to its caller: the signature, key or hash it
computes, the CHALLENGE message it builds, and nothing for the others. -/
def Call.run (P : Prims) : Call → M (List UInt8)
  | .cryptoAlloc a => do KsmbdAuth.cryptoAlloc a; pure []
  | .computeSessKey hash hmac => do KsmbdAuth.computeSessKey P hash hmac; pure []
  | .processNtlm buf off => do KsmbdAuth.processNtlm P buf off; pure []
  | .processNtlmv2 buf off blen domainName => do
    KsmbdAuth.processNtlmv2 P buf off blen domainName
    pure []
  | .decodeNtlmsspNegotiateBlob e negblob => do
    KsmbdAuth.decodeNtlmsspNegotiateBlob e negblob
    pure []
  | .decodeNtlmsspAuthenticateBlob e authblob => do
    KsmbdAuth.decodeNtlmsspAuthenticateBlob P e authblob
    pure []
  | .buildNtlmsspChallengeBlob e netbiosName chgblob => do
    let (chg, _) ← KsmbdAuth.buildNtlmsspChallengeBlob P e netbiosName chgblob
    pure chg
  | .smb1SignSmbpdu buf => do let sig ← KsmbdAuth.smb1SignSmbpdu P buf; pure sig.bytes
  | .smb2SignSmbpdu buf => do let sig ← KsmbdAuth.smb2SignSmbpdu P buf; pure sig.bytes
  | .smb3SignSmbpdu smb3signingkey buf => do
    let sig ← KsmbdAuth.smb3SignSmbpdu P smb3signingkey buf
    pure sig.bytes
  | .computeSmb3xsigningkey keySize => KsmbdAuth.computeSmb3xsigningkey P keySize
  | .calcPreauthIntegrityHash hashId buf piHash => do
    let h ← KsmbdAuth.calcPreauthIntegrityHash P hashId buf piHash
    pure h.bytes

/-- The calls that write the connection's preauth hash: `calc_preauth_integrity_hash` with
`pi_hash` at the connection's. -/
def Call.WritesPreauth : Call → Prop
  | .calcPreauthIntegrityHash _ _ piHash => piHash = .conn
  | _ => False

/-- The world of a call made on session `s`, with the kernel answering as `env` says. -/
def World.enter (w : World) (s : Sess) (env : Env) : World := { w with sess := s, env := env }

section Enter

variable (w : World) (s : Sess) (env : Env)

@[simp] theorem World.enter_sess : (w.enter s env).sess = s := rfl
@[simp] theorem World.enter_env : (w.enter s env).env = env := rfl
@[simp] theorem World.enter_server : (w.enter s env).server = w.server := rfl
@[simp] theorem World.slot_enter (a : Alg) : (w.enter s env).slot a = w.slot a := rfl
@[simp] theorem World.ptrs_enter : (w.enter s env).ptrs = w.ptrs := rfl

end Enter

/-- One call on the connection of `w` that returns, or leaves through an error exit, in
`w'`. It is made on any session, with any answers of the kernel. -/
inductive Step (P : Prims) (w w' : World) : Prop
  | ok (c : Call) (s : Sess) (env : Env) (out : List UInt8) :
      c.run P (w.enter s env) = .ok out w' → Step P w w'
  | err (c : Call) (s : Sess) (env : Env) (rc : Int) :
      c.run P (w.enter s env) = .err rc w' → Step P w w'

/-- The worlds a run of calls reaches from `w₀`. -/
def Reachable (P : Prims) : World → World → Prop := Relation.ReflTransGen (Step P)

variable {P : Prims} {w₀ w w' : World}

/-! ## The slot discipline along a run -/

section Run

variable {S : Alg → Prop}

theorem slotSafe_cryptoAlloc (a : Alg) : SlotSafe S S (cryptoAlloc a) := by
  cases a <;> exact slotSafe_cryptoShashAlloc.weaken fun _ => .inl

/-- Every call but `smb3_sign_smbpdu` allocates the slots it steps; that one needs the
CMAC slot populated. -/
theorem slotSafe_run :
    ∀ c : Call, (∀ k buf, c = .smb3SignSmbpdu k buf → S .cmacaes) → SlotSafe S S (c.run P)
  | .cryptoAlloc a, _ => (slotSafe_cryptoAlloc a).bind fun _ => slotSafe_pure
  | .computeSessKey .., _ => slotSafe_computeSessKey.bind fun _ => slotSafe_pure
  | .processNtlm .., _ => slotSafe_processNtlm.bind fun _ => slotSafe_pure
  | .processNtlmv2 .., _ => slotSafe_processNtlmv2.bind fun _ => slotSafe_pure
  | .decodeNtlmsspNegotiateBlob .., _ =>
    slotSafe_decodeNtlmsspNegotiateBlob.bind fun _ => slotSafe_pure
  | .decodeNtlmsspAuthenticateBlob .., _ =>
    slotSafe_decodeNtlmsspAuthenticateBlob.bind fun _ => slotSafe_pure
  | .buildNtlmsspChallengeBlob .., _ =>
    slotSafe_buildNtlmsspChallengeBlob.bind fun (_, _) => slotSafe_pure
  | .smb1SignSmbpdu _, _ => slotSafe_smb1SignSmbpdu.bind fun _ => slotSafe_pure
  | .smb2SignSmbpdu _, _ => slotSafe_smb2SignSmbpdu.bind fun _ => slotSafe_pure
  | .smb3SignSmbpdu .., h => (slotSafe_smb3SignSmbpdu (h _ _ rfl)).bind fun _ => slotSafe_pure
  | .computeSmb3xsigningkey _, _ => slotSafe_computeSmb3xsigningkey
  | .calcPreauthIntegrityHash .., _ =>
    slotSafe_calcPreauthIntegrityHash.bind fun _ => slotSafe_pure

end Run

/-- `smb3_sign_smbpdu` sets the key of the CMAC transform without allocating it first: on a
connection whose CMAC slot is empty, that first step is undefined. -/
theorem run_smb3SignSmbpdu_of_empty {smb3signingkey : ByteBuf 16} {buf : List UInt8}
    (h : (w.slot .cmacaes).Empty) :
    (Call.smb3SignSmbpdu smb3signingkey buf).run P w = .ub (.slot .cmacaes) :=
  bind_of_ub (by simp [smb3SignSmbpdu, setkey, bind_apply, getSlot, h.1, undefined])

theorem keepsSlots_run (c : Call) : KeepsSlots (c.run P) := fun w hw => by
  by_cases hp : PtrsPopulated (w.ptrs .cmacaes)
  · exact (slotSafe_run (S := (· = .cmacaes)) c fun _ _ _ => rfl).keepsSlots_at hw
      (by rintro _ rfl; exact hp)
  · by_cases hc : ∃ k buf, c = .smb3SignSmbpdu k buf
    · obtain ⟨k, buf, rfl⟩ := hc
      have he := Slot.empty_iff_ptrs.mpr ((hw .cmacaes).resolve_right hp)
      simp only [Safe, run_smb3SignSmbpdu_of_empty he, not_false_eq_true]
    · exact (slotSafe_run c fun k buf h => hc ⟨k, buf, h⟩).keepsSlots_at hw
        fun _ => False.elim

/-- One call keeps the slot discipline. -/
theorem Step.slotsLater (hw : SlotsWf w.ptrs) (h : Step P w w') : SlotsLater w.ptrs w'.ptrs := by
  cases h with
  | ok c s env out h =>
    have hs := keepsSlots_run (P := P) c (w.enter s env) hw
    unfold Safe at hs
    rwa [h] at hs
  | err c s env rc h =>
    have hs := keepsSlots_run (P := P) c (w.enter s env) hw
    unfold Safe at hs
    rwa [h] at hs

/-- A run keeps the slot discipline. -/
theorem Reachable.slotsLater (hw : SlotsWf w₀.ptrs) (hr : Reachable P w₀ w) :
    SlotsLater w₀.ptrs w.ptrs := by
  induction hr with
  | refl => exact .refl hw
  | tail _ hstep ih => exact ih.trans (hstep.slotsLater ih.wf)

/-- Along every run from a connection whose slots are all empty or populated, a new one
among them: every slot stays empty or populated; a slot populated at the start keeps its
transform and descriptor; and an allocator called on the connection reached returns 0
exactly when its slot is populated on return, and otherwise a nonzero code with its slot
empty, whatever the kernel answers. -/
theorem secmech_slots_discipline (h₀ : ∀ a, (w₀.slot a).Empty ∨ (w₀.slot a).Populated)
    (hr : Reachable P w₀ w) :
    (∀ a, (w.slot a).Empty ∨ (w.slot a).Populated) ∧
      (∀ a, (w₀.slot a).Populated → (w.slot a).ptrs = (w₀.slot a).ptrs) ∧
      ∀ a s env, Safe (fun rc w' => rc ≠ 0 ∧ (w'.slot a).Empty) (fun _ => True) (cryptoAlloc a)
        (fun _ w' => (w'.slot a).Populated) (w.enter s env) := by
  have hL := Reachable.slotsLater (fun a => Slot.wf_iff_ptrs.mp (h₀ a)) hr
  have hwf : ∀ a, (w.slot a).Empty ∨ (w.slot a).Populated := fun a =>
    Slot.wf_iff_ptrs.mpr (hL a).1
  refine ⟨hwf, fun a hp => (hL a).2 (Slot.populated_iff_ptrs.mp hp), fun a s env => ?_⟩
  obtain ⟨sentinel, h⟩ := cryptoAlloc_eq a
  rw [h]
  exact cryptoShashAlloc_outcome (by simpa using hwf a)

/-- A new connection, then one key derivation on a kernel that answers everything with
success: the slots reached are empty or populated, and the allocators behave as stated. -/
theorem secmech_slots_discipline_sample :
    ∃ w, Reachable Prims.zeros World.sample w ∧
      (w.slot .cmacaes).Populated ∧
      ((∀ a, (w.slot a).Empty ∨ (w.slot a).Populated) ∧
        (∀ a, (World.sample.slot a).Populated →
          (w.slot a).ptrs = (World.sample.slot a).ptrs) ∧
        ∀ a s env, Safe (fun rc w' => rc ≠ 0 ∧ (w'.slot a).Empty) (fun _ => True)
          (cryptoAlloc a) (fun _ w' => (w'.slot a).Populated) (w.enter s env)) :=
  have hr : Reachable Prims.zeros World.sample _ :=
    .single (Step.ok (.computeSmb3xsigningkey 16) (Sess.sample 0 (ByteBuf.zero 40))
      (Env.clean (ByteBuf.zero 8)) _ rfl)
  ⟨_, hr, Slot.fresh_populated _ _,
    secmech_slots_discipline (fun a => .inl (by cases a <;> exact ⟨rfl, rfl⟩)) hr⟩

/-! ## Steps on empty slots -/

/-- On every connection reached from one whose slots are all empty or populated, a call
steps a slot that is not populated exactly when it is `smb3_sign_smbpdu` and the CMAC slot
is empty. Every other call allocates the slots it steps, and `smb3_sign_smbpdu` allocates
none. -/
theorem slot_step_undefined_iff (h₀ : ∀ a, (w₀.slot a).Empty ∨ (w₀.slot a).Populated)
    (hr : Reachable P w₀ w) (c : Call) (s : Sess) (env : Env) :
    (∃ a, c.run P (w.enter s env) = .ub (.slot a)) ↔
      (∃ smb3signingkey buf, c = .smb3SignSmbpdu smb3signingkey buf) ∧ (w.slot .cmacaes).Empty := by
  have hw := (Reachable.slotsLater (fun a => Slot.wf_iff_ptrs.mp (h₀ a)) hr).wf
  constructor
  · rintro ⟨a, hub⟩
    have hsafe : ∀ S : Alg → Prop, (∀ a, S a → PtrsPopulated (w.ptrs a)) →
        (∀ k buf, c = .smb3SignSmbpdu k buf → S .cmacaes) → False :=
      fun S hS hc => (slotSafe_run (P := P) c hc (w.enter s env) hw hS).ne_ub (show (Ub.slot a).OnSlot from trivial) hub
    by_cases hp : PtrsPopulated (w.ptrs .cmacaes)
    · exact (hsafe (· = .cmacaes) (by rintro _ rfl; exact hp) fun _ _ _ => rfl).elim
    · refine ⟨by_contra fun hc => hsafe (fun _ => False) (fun _ => False.elim) fun k buf h =>
        hc ⟨k, buf, h⟩, Slot.empty_iff_ptrs.mpr ((hw .cmacaes).resolve_right hp)⟩
  · rintro ⟨⟨k, buf, rfl⟩, he⟩
    exact ⟨.cmacaes, run_smb3SignSmbpdu_of_empty he⟩

/-- On a new connection, signing an SMB3 PDU before any key derivation steps the empty CMAC
slot. -/
theorem smb3_sign_new_connection :
    ∃ a, (Call.smb3SignSmbpdu (ByteBuf.zero 16) []).run Prims.zeros
      (World.sample.enter (Sess.sample 0 (ByteBuf.zero 40))
        (Env.clean (ByteBuf.zero 8))) = .ub (.slot a) :=
  (slot_step_undefined_iff (fun a => .inl (by cases a <;> exact ⟨rfl, rfl⟩)) .refl _ _ _).mpr
    ⟨⟨_, _, rfl⟩, rfl, rfl⟩

/-! ## Results that do not depend on the history of the contexts -/

/-- The calls that compute with the cached transforms. -/
def Call.UsesTransforms : Call → Prop
  | .computeSessKey .. | .processNtlmv2 .. | .smb1SignSmbpdu _ | .smb2SignSmbpdu _
  | .smb3SignSmbpdu .. | .computeSmb3xsigningkey _ | .calcPreauthIntegrityHash .. => True
  | _ => False

/-- What a call that computes with the cached transforms hands back and the session it
leaves, when it returns normally. It is a function of the session, the connection's dialect
and preauth hash, and the arguments; `none` where the call never returns normally. -/
def Call.expected (P : Prims) (s : Sess) (dialect : Nat) (preauth : ByteBuf 64) :
    Call → Option (List UInt8 × Sess)
  | .computeSessKey hash hmac => some ([], s.setSessKey 0 (sessKeyOf P hash hmac) (by decide))
  | .processNtlmv2 buf off blen domainName =>
    match ntlmv2Verdict P s buf off blen domainName with
    | some (true, k) => some ([], s.setSessKey 0 k (by decide))
    | _ => none
  | .smb1SignSmbpdu buf => some ((smb1Signature P s buf).bytes, s)
  | .smb2SignSmbpdu buf => some ((smb2Signature P s buf).bytes, s)
  | .smb3SignSmbpdu smb3signingkey buf => some ((smb3Signature P smb3signingkey buf).bytes, s)
  | .computeSmb3xsigningkey keySize =>
    if keySize ≤ smb2HmacSha256Size then some (smb3xsigningkey P dialect s keySize, s) else none
  | .calcPreauthIntegrityHash hashId buf _ =>
    if hashId = smb2PreauthIntegritySha512 then
      (preauthIntegrityHash P preauth buf).map fun h => (h.bytes, s)
    else none
  | _ => none

/-- Every normal return of a call that computes with the cached transforms is what
`Call.expected` says. -/
theorem okSpec_transformCall {c : Call} (hc : c.UsesTransforms) :
    OkSpec (c.run P) (fun out w' =>
      c.expected P w.sess w.server.dialect w.server.preauthHashValue = some (out, w'.sess)) w := by
  cases c <;> simp only [Call.UsesTransforms] at hc <;>
    simp only [Call.run, Call.expected, okSpec_bind, okSpec_pure]
  case computeSessKey => exact okSpec_computeSessKey.mono fun _ _ h => by rw [h]
  case processNtlmv2 => exact okSpec_processNtlmv2.mono fun _ _ ⟨k, hk, hs⟩ => by rw [hk, hs]
  case smb1SignSmbpdu => exact okSpec_smb1SignSmbpdu.mono fun _ _ ⟨h, hs⟩ => by rw [h, hs]
  case smb2SignSmbpdu => exact okSpec_smb2SignSmbpdu.mono fun _ _ ⟨h, hs⟩ => by rw [h, hs]
  case smb3SignSmbpdu => exact okSpec_smb3SignSmbpdu.mono fun _ _ ⟨h, hs⟩ => by rw [h, hs]
  case computeSmb3xsigningkey =>
    exact okSpec_computeSmb3xsigningkey.mono fun _ _ ⟨hk, h, hs⟩ => by rw [if_pos hk, h, hs]
  case calcPreauthIntegrityHash =>
    exact okSpec_calcPreauthIntegrityHash.mono fun _ _ ⟨hid, h, hs⟩ => by rw [if_pos hid, h, hs]; rfl

/-- On a connection whose slots are all empty or populated, and where every allocation and
step succeeds, a call that computes with the cached transforms returns what `Call.expected`
says, wherever that is defined; `smb3_sign_smbpdu` also needs its CMAC slot populated. -/
theorem runs_transformCall_wf {c : Call} {out : List UInt8} {s' : Sess} (hc : c.UsesTransforms)
    (hclean : w.env.Clean) (hwf : ∀ a, (w.slot a).Empty ∨ (w.slot a).Populated)
    (hcmac : ∀ k buf, c = .smb3SignSmbpdu k buf → (w.slot .cmacaes).Populated)
    (he : c.expected P w.sess w.server.dialect w.server.preauthHashValue = some (out, s')) :
    Runs (c.run P) (fun o w' => o = out ∧ w'.sess = s') w := by
  cases c <;> simp only [Call.UsesTransforms] at hc <;>
    simp only [Call.run, runs_bind, runs_pure]
  case computeSessKey =>
    simp only [Call.expected, Option.some.injEq, Prod.mk.injEq] at he
    obtain ⟨rfl, rfl⟩ := he
    exact (runs_computeSessKey hclean (hwf _)).mono fun _ _ h => ⟨rfl, h.1⟩
  case processNtlmv2 buf off blen domainName =>
    simp only [Call.expected] at he
    split at he <;> simp only [Option.some.injEq, Prod.mk.injEq, reduceCtorEq] at he
    obtain ⟨rfl, rfl⟩ := he
    exact (runs_processNtlmv2 hclean (hwf _) ‹_›).mono fun _ _ h => ⟨rfl, h.1⟩
  case smb1SignSmbpdu =>
    simp only [Call.expected, Option.some.injEq, Prod.mk.injEq] at he
    obtain ⟨rfl, rfl⟩ := he
    exact (runs_smb1SignSmbpdu hclean (hwf _)).mono fun _ _ h => ⟨by rw [h.1], h.2⟩
  case smb2SignSmbpdu =>
    simp only [Call.expected, Option.some.injEq, Prod.mk.injEq] at he
    obtain ⟨rfl, rfl⟩ := he
    exact (runs_smb2SignSmbpdu hclean (hwf _)).mono fun _ _ h => ⟨by rw [h.1], h.2⟩
  case smb3SignSmbpdu =>
    simp only [Call.expected, Option.some.injEq, Prod.mk.injEq] at he
    obtain ⟨rfl, rfl⟩ := he
    exact (runs_smb3SignSmbpdu hclean (hcmac _ _ rfl)).mono fun _ _ h => ⟨by rw [h.1], h.2⟩
  case computeSmb3xsigningkey keySize =>
    simp only [Call.expected] at he
    split at he <;> simp only [Option.some.injEq, Prod.mk.injEq, reduceCtorEq] at he
    obtain ⟨rfl, rfl⟩ := he
    exact runs_computeSmb3xsigningkey hclean (hwf _) (hwf _) ‹_›
  case calcPreauthIntegrityHash hashId buf piHash =>
    simp only [Call.expected] at he
    split at he <;> simp only [Option.map_eq_some', Prod.mk.injEq, reduceCtorEq] at he
    obtain ⟨h, hh, rfl, rfl⟩ := he
    exact (runs_calcPreauthIntegrityHash hclean (hwf _) ‹_› hh).mono
      fun _ _ h' => ⟨by rw [h'.1], h'.2⟩

theorem runs_transformCall {c : Call} {out : List UInt8} {s' : Sess} (hc : c.UsesTransforms)
    (hclean : w.env.Clean) (hpop : ∀ a, (w.slot a).Populated)
    (he : c.expected P w.sess w.server.dialect w.server.preauthHashValue = some (out, s')) :
    Runs (c.run P) (fun o w' => o = out ∧ w'.sess = s') w :=
  runs_transformCall_wf hc hclean (fun a => .inr (hpop a)) (fun _ _ _ => hpop _) he

/-- `w₀` is the connection of `w` with freshly allocated contexts: the same session and
connection fields, every slot as an allocator leaves it, and a kernel that answers every
step and allocation with success. -/
structure FreshFor (w w₀ : World) : Prop where
  sess : w₀.sess = w.sess
  dialect : w₀.server.dialect = w.server.dialect
  preauth : w₀.server.preauthHashValue = w.server.preauthHashValue
  fresh : ∀ a, ∃ t d, w₀.slot a = Slot.fresh t d
  clean : w₀.env.Clean

theorem FreshFor.populated (hf : FreshFor w w₀) (a : Alg) : (w₀.slot a).Populated := by
  obtain ⟨t, d, h⟩ := hf.fresh a
  rw [h]
  exact Slot.fresh_populated t d

/-- The connection of `w` just after every context was allocated, on a kernel that answers
everything with success. -/
def World.fresh (w : World) : World :=
  ⟨{ w.server with
      secmech := ⟨Slot.fresh 1 2, Slot.fresh 3 4, Slot.fresh 5 6, Slot.fresh 7 8, Slot.fresh 9 10⟩ },
    w.sess, Env.clean w.env.random, 0, 0⟩

theorem World.freshFor_fresh (w : World) : FreshFor w w.fresh :=
  ⟨rfl, rfl, rfl, fun a => by cases a <;> exact ⟨_, _, rfl⟩, Env.clean_Clean _⟩

/-- Whatever the history of the cached transforms, from any connection: when a call that
computes with them returns normally, it hands back what the same call hands back on
freshly allocated contexts, and leaves the same session. -/
theorem transform_call_history_independent {c : Call} {out : List UInt8}
    (hc : c.UsesTransforms) (h : c.run P w = .ok out w') (hf : FreshFor w w₀) :
    ∃ w₀', c.run P w₀ = .ok out w₀' ∧ w₀'.sess = w'.sess := by
  have he := okSpec_transformCall hc out w' h
  rw [← hf.sess, ← hf.dialect, ← hf.preauth] at he
  obtain ⟨_, w₀', hrun, rfl, hs⟩ := runs_transformCall hc hf.clean hf.populated he
  exact ⟨w₀', hrun, hs⟩

/-- An MD5 slot left with a stale key and half-fed data by an aborted call: signing an SMB1
PDU there gives the signature and session the fresh connection gives. -/
theorem transform_call_history_independent_sample :
    ∃ out w', (Call.smb1SignSmbpdu [1, 2, 3]).run Prims.zeros
        (World.sample.putSlot .md5
          ⟨some ⟨1, [9]⟩, some ⟨2, 1, [9], [5, 5]⟩⟩) = .ok out w' ∧
      ∃ w₀', (Call.smb1SignSmbpdu [1, 2, 3]).run Prims.zeros
        (World.sample.putSlot .md5
          ⟨some ⟨1, [9]⟩, some ⟨2, 1, [9], [5, 5]⟩⟩).fresh = .ok out w₀' ∧ w₀'.sess = w'.sess :=
  let ⟨out, w', h⟩ : ∃ out w', (Call.smb1SignSmbpdu [1, 2, 3]).run Prims.zeros
      (World.sample.putSlot .md5
        ⟨some ⟨1, [9]⟩, some ⟨2, 1, [9], [5, 5]⟩⟩) = .ok out w' := ⟨_, _, rfl⟩
  ⟨out, w', h, transform_call_history_independent trivial h (World.freshFor_fresh _)⟩

end KsmbdAuth
