import KsmbdAuth.Logic
import KsmbdAuth.Blob
import KsmbdAuth.Sign

/-!
# The slot discipline

The five slots of `server->secmech` are shared by every call on a connection and filled
lazily by the allocators. Two allocators test the transform pointer for "already
allocated", the other three the descriptor pointer. The tests agree only while every slot
is either empty (both pointers `NULL`) or populated (both set, the descriptor naming the
transform). This file proves that every function of `auth.c` keeps the slots that way:

* `Slot.ptrs`, `World.ptrs`: the pointers of a slot, without the keys and data behind them;
* `SlotsLater p₀ p`: every slot of `p` is empty or populated, and every slot populated in
  `p₀` keeps its pointers in `p`. It is a preorder on well-formed slots;
* `KeepsSlots x`: from well-formed slots, every exit of `x` other than undefined behaviour
  ends in a later state of them. It composes along `>>=` (`KeepsSlots.bind`);
* `cryptoShashAlloc_outcome`: from an empty or populated slot, an allocator returns 0
  exactly when it leaves the slot populated, and otherwise a nonzero code and an empty slot;
* `keepsSlots_*`: one lemma per function, each following the function's own calls.
-/

namespace KsmbdAuth

/-! ## Pointers -/

/-- The pointers of a slot: the transform's address, and the descriptor's address with its
`shash.tfm` field. The crypto steps change keys and data, never these. -/
def Slot.ptrs (s : Slot) : Option Nat × Option (Nat × Nat) :=
  (s.tfm.map Shash.addr, s.sdesc.map fun d => (d.addr, d.tfm))

/-- The pointers of every slot of a world. -/
def World.ptrs (w : World) (a : Alg) : Option Nat × Option (Nat × Nat) := (w.slot a).ptrs

/-- The pointers of a populated slot: both set, and the descriptor names the transform. -/
def PtrsPopulated : Option Nat × Option (Nat × Nat) → Prop
  | (some t, some (_, t')) => t' = t
  | _ => False

/-- The two states the allocators' tests assume: both pointers `NULL`, or populated. -/
def PtrsWf (p : Option Nat × Option (Nat × Nat)) : Prop := p = (none, none) ∨ PtrsPopulated p

theorem Slot.empty_iff_ptrs {s : Slot} : s.Empty ↔ s.ptrs = (none, none) := by
  rcases s with ⟨_ | t, _ | d⟩ <;> simp [Slot.Empty, Slot.ptrs]

theorem Slot.populated_iff_ptrs {s : Slot} : s.Populated ↔ PtrsPopulated s.ptrs := by
  rcases s with ⟨_ | t, _ | d⟩ <;> simp [Slot.Populated, Slot.ptrs, PtrsPopulated, eq_comm]

theorem Slot.wf_iff_ptrs {s : Slot} : s.Empty ∨ s.Populated ↔ PtrsWf s.ptrs := by
  rw [Slot.empty_iff_ptrs, Slot.populated_iff_ptrs, PtrsWf]

section WorldPtrs

variable (w : World) (b : Alg)

theorem World.ptrs_apply : w.ptrs b = (w.slot b).ptrs := rfl

@[simp] theorem World.ptrs_tick : w.tick.ptrs = w.ptrs := rfl
@[simp] theorem World.ptrs_allocTick : w.allocTick.ptrs = w.ptrs := rfl
@[simp] theorem World.ptrs_withSess (s : Sess) : (w.withSess s).ptrs = w.ptrs := rfl
@[simp] theorem World.ptrs_withAllocs (k : Nat) : (w.withAllocs k).ptrs = w.ptrs := rfl
@[simp] theorem World.ptrs_withPreauth (h : ByteBuf 64) : (w.withPreauth h).ptrs = w.ptrs := rfl

@[simp] theorem World.ptrs_putSlot (s : Slot) :
    (w.putSlot b s).ptrs = Function.update w.ptrs b s.ptrs := by
  funext a
  by_cases h : a = b
  · subst h; simp [World.ptrs_apply]
  · simp [World.ptrs_apply, h]

end WorldPtrs

/-! ## Later states of the slots -/

/-- Every slot is empty or populated. -/
def SlotsWf (p : Alg → Option Nat × Option (Nat × Nat)) : Prop := ∀ a, PtrsWf (p a)

/-- The slots `p` are a later state of the slots `p₀`: each is empty or populated, and each
slot populated in `p₀` still holds the same pointers. -/
def SlotsLater (p₀ p : Alg → Option Nat × Option (Nat × Nat)) : Prop :=
  ∀ a, PtrsWf (p a) ∧ (PtrsPopulated (p₀ a) → p a = p₀ a)

section SlotsLater

variable {p₀ p₁ p₂ : Alg → Option Nat × Option (Nat × Nat)}

theorem SlotsLater.wf (h : SlotsLater p₀ p₁) : SlotsWf p₁ := fun a => (h a).1

theorem SlotsLater.refl (h : SlotsWf p₀) : SlotsLater p₀ p₀ := fun a => ⟨h a, fun _ => rfl⟩

theorem SlotsLater.trans (h₁ : SlotsLater p₀ p₁) (h₂ : SlotsLater p₁ p₂) : SlotsLater p₀ p₂ := by
  refine fun a => ⟨(h₂ a).1, fun hp => ?_⟩
  have h01 : p₁ a = p₀ a := (h₁ a).2 hp
  exact ((h₂ a).2 (h01 ▸ hp)).trans h01

/-- A slot populated in `p₀` is populated in every later state. -/
theorem SlotsLater.populated {a : Alg} (h : SlotsLater p₀ p₁) (hp : PtrsPopulated (p₀ a)) :
    PtrsPopulated (p₁ a) := by
  rw [(h a).2 hp]
  exact hp

/-- Filling an empty slot with well-formed pointers gives a later state. -/
theorem SlotsLater.update_of_empty {b : Alg} {q : Option Nat × Option (Nat × Nat)}
    (h : SlotsWf p₀) (he : p₀ b = (none, none)) (hq : PtrsWf q) :
    SlotsLater p₀ (Function.update p₀ b q) := by
  intro a
  by_cases hab : a = b
  · subst hab
    simp [hq, he, PtrsPopulated]
  · simp [Function.update_noteq hab, h a]

end SlotsLater

/-! ## Calls that keep the slot discipline -/

/-- A crypto step on a slot whose pointers are not set. -/
def Ub.OnSlot : Ub → Prop
  | .slot _ => True
  | _ => False

/-- `x` keeps the slot discipline, whatever undefined behaviour it has: from a world whose
slots are all empty or populated, every exit other than undefined behaviour ends in a later
state of those slots. -/
def KeepsSlots {α : Type} (x : M α) : Prop :=
  ∀ w, SlotsWf w.ptrs →
    Safe (fun _ w' => SlotsLater w.ptrs w'.ptrs) (fun _ => False) x
      (fun _ w' => SlotsLater w.ptrs w'.ptrs) w

/-- `x` keeps the slot discipline and never steps a slot that is not populated. This holds
from every world whose slots are all empty or populated and where the slots `S` are
populated; a normal return leaves the slots `S'` populated. -/
def SlotSafe {α : Type} (S S' : Alg → Prop) (x : M α) : Prop :=
  ∀ w, SlotsWf w.ptrs → (∀ a, S a → PtrsPopulated (w.ptrs a)) →
    Safe (fun _ w' => SlotsLater w.ptrs w'.ptrs) Ub.OnSlot x
      (fun _ w' => SlotsLater w.ptrs w'.ptrs ∧ ∀ a, S' a → PtrsPopulated (w'.ptrs a)) w

section SlotSafe

variable {α β : Type} {S S₁ S₂ : Alg → Prop} {x y : M α}

/-- Where the slots `S` are populated, a call safe on them keeps the slot discipline. -/
theorem SlotSafe.keepsSlots_at {w : World} (h : SlotSafe S S₁ x) (hw : SlotsWf w.ptrs)
    (hS : ∀ a, S a → PtrsPopulated (w.ptrs a)) :
    Safe (fun _ w' => SlotsLater w.ptrs w'.ptrs) (fun _ => False) x
      (fun _ w' => SlotsLater w.ptrs w'.ptrs) w :=
  ((h w hw hS).weaken fun _ => False.elim).imp (fun _ _ h' => h') fun _ _ h' => h'.1

theorem SlotSafe.bind {f : α → M β} (hx : SlotSafe S S₁ x) (hf : ∀ a, SlotSafe S₁ S₂ (f a)) :
    SlotSafe S S₂ (x >>= f) := by
  intro w hw hS
  rw [safe_bind]
  exact (hx w hw hS).imp (fun _ _ h => h) fun a w₁ ⟨h₁, hS₁⟩ =>
    (hf a w₁ h₁.wf hS₁).imp (fun _ _ => h₁.trans) fun _ _ ⟨h₂, hS₂⟩ => ⟨h₁.trans h₂, hS₂⟩

theorem SlotSafe.ite {c : Prop} [Decidable c] (hx : SlotSafe S S₁ x) (hy : SlotSafe S S₁ y) :
    SlotSafe S S₁ (if c then x else y) := by
  split
  · exact hx
  · exact hy

theorem SlotSafe.weaken (h : SlotSafe S S₁ x) (hS : ∀ a, S₂ a → S₁ a) : SlotSafe S S₂ x :=
  fun w hw hS₀ => (h w hw hS₀).imp (fun _ _ h' => h') fun _ _ h' => ⟨h'.1, fun a ha => h'.2 a (hS a ha)⟩

/-- A call that changes no pointer, and steps no slot outside `S`, keeps the discipline. -/
theorem slotSafe_of_ptrs
    (h : ∀ w, (∀ a, S a → PtrsPopulated (w.ptrs a)) →
      Safe (fun _ w' => w'.ptrs = w.ptrs) Ub.OnSlot x (fun _ w' => w'.ptrs = w.ptrs) w) :
    SlotSafe S S x := fun w hw hS =>
  (h w hS).imp (fun _ _ h' => by rw [h']; exact .refl hw) fun _ _ h' => by
    rw [h']; exact ⟨.refl hw, hS⟩

theorem slotSafe_pure {a : α} : SlotSafe S S (pure a : M α) := slotSafe_of_ptrs fun _ _ => rfl

theorem slotSafe_fail {rc : Int} : SlotSafe S S (fail rc : M α) := slotSafe_of_ptrs fun _ _ => rfl

theorem slotSafe_undefined {why : Ub} (h : ¬why.OnSlot) : SlotSafe S S (undefined why : M α) :=
  slotSafe_of_ptrs fun _ _ => h

theorem slotSafe_defined {why : Ub} {o : Option α} (h : ¬why.OnSlot) :
    SlotSafe S S (defined why o) :=
  slotSafe_of_ptrs fun _ _ => by simp [h]

theorem slotSafe_check {rc : Int} : SlotSafe S S (check rc) := slotSafe_of_ptrs fun _ _ => by simp

theorem slotSafe_getSess : SlotSafe S S getSess := slotSafe_of_ptrs fun _ _ => rfl

theorem slotSafe_getServer : SlotSafe S S getServer := slotSafe_of_ptrs fun _ _ => rfl

theorem slotSafe_modifySess {f : Sess → Sess} : SlotSafe S S (modifySess f) :=
  slotSafe_of_ptrs fun _ _ => rfl

theorem slotSafe_getSlot {b : Alg} : SlotSafe S S (getSlot b) := slotSafe_of_ptrs fun _ _ => rfl

theorem slotSafe_getRandomBytes : SlotSafe S S getRandomBytes := slotSafe_of_ptrs fun _ _ => rfl

theorem slotSafe_nextFault : SlotSafe S S nextFault := slotSafe_of_ptrs fun _ _ => rfl

theorem slotSafe_allocate : SlotSafe S S allocate := slotSafe_of_ptrs fun _ _ => rfl

theorem slotSafe_refusesSize {n : Nat} : SlotSafe S S (refusesSize n) :=
  slotSafe_of_ptrs fun _ _ => rfl

theorem slotSafe_setPreauth {h : ByteBuf 64} : SlotSafe S S (setPreauth h) :=
  slotSafe_of_ptrs fun _ _ => rfl

theorem slotSafe_stepAnswer : SlotSafe S S stepAnswer := slotSafe_of_ptrs fun _ _ => by simp

/-! The crypto steps need their slot populated, and write it back with the same pointers. -/

variable {b : Alg}

theorem Slot.eq_of_ptrs_populated {s : Slot} (h : PtrsPopulated s.ptrs) :
    ∃ t d, s = ⟨some t, some d⟩ ∧ d.tfm = t.addr := by
  rcases s with ⟨_ | t, _ | d⟩ <;> simp [Slot.ptrs, PtrsPopulated] at h
  exact ⟨t, d, rfl, h⟩

theorem slotSafe_setkey {k : List UInt8} (h : S b) : SlotSafe S S (setkey b k) :=
  slotSafe_of_ptrs fun w hS => by
    obtain ⟨t, d, hs, -⟩ := Slot.eq_of_ptrs_populated (hS b h)
    simp [World.ptrs_apply, Slot.ptrs, hs]

theorem slotSafe_init (h : S b) : SlotSafe S S (init b) :=
  slotSafe_of_ptrs fun w hS => by
    obtain ⟨t, d, hs, hdt⟩ := Slot.eq_of_ptrs_populated (hS b h)
    simp [World.ptrs_apply, Slot.ptrs, Slot.paired?, hs, hdt]

theorem slotSafe_update {data : List UInt8} (h : S b) : SlotSafe S S (update b data) :=
  slotSafe_of_ptrs fun w hS => by
    obtain ⟨t, d, hs, hdt⟩ := Slot.eq_of_ptrs_populated (hS b h)
    simp [World.ptrs_apply, Slot.ptrs, Slot.paired?, hs, hdt]

theorem slotSafe_final {P : Prims} (h : S b) : SlotSafe S S (final P b) :=
  slotSafe_of_ptrs fun w hS => by
    obtain ⟨t, d, hs, hdt⟩ := Slot.eq_of_ptrs_populated (hS b h)
    simp [Slot.paired?, hs, hdt]

end SlotSafe

/-! ## The allocators -/

section Alloc

variable {w : World} {b : Alg} {sentinel : Sentinel} {S : Alg → Prop}

/-- From an empty or populated slot, the allocator's test fails only on an empty one. -/
theorem Slot.empty_of_not_isSet {s : Slot} (hwf : s.Empty ∨ s.Populated)
    (h : ¬sentinel.isSet s) : s.Empty := by
  rcases hwf with he | ⟨t, d, ht, hd, -⟩
  · exact he
  · cases sentinel <;> simp [Sentinel.isSet, ht, hd] at h

theorem keepsSlots_cryptoShashAlloc : KeepsSlots (cryptoShashAlloc b sentinel) := by
  intro w hw
  unfold cryptoShashAlloc
  simp only [safe_bind, safe_getSlot, safe_ite, safe_pure, safe_allocate]
  refine ⟨fun _ => .refl hw, fun hset => ?_⟩
  have he := Slot.empty_of_not_isSet (Slot.wf_iff_ptrs.mpr (hw b)) hset
  have later : ∀ q, PtrsWf q → SlotsLater w.ptrs (Function.update w.ptrs b q) :=
    fun _ => .update_of_empty hw (Slot.empty_iff_ptrs.mp he)
  cases w.allocAnswer with
  | error e => simp [Slot.ptrs, he.2, later, PtrsWf]
  | ok t =>
    simp only [safe_bind, safe_allocate]
    cases w.allocTick.allocAnswer <;> simp [Slot.ptrs, later, Slot.fresh, PtrsWf, PtrsPopulated]

/-- From an empty or populated slot, an allocator returns 0 exactly when the slot is
populated on return. Its error exits return a nonzero code and leave the slot empty, and it
has no undefined behaviour. -/
theorem cryptoShashAlloc_outcome (hwf : (w.slot b).Empty ∨ (w.slot b).Populated) :
    Safe (fun rc w' => rc ≠ 0 ∧ (w'.slot b).Empty) (fun _ => True) (cryptoShashAlloc b sentinel)
      (fun _ w' => (w'.slot b).Populated) w := by
  unfold cryptoShashAlloc
  simp only [safe_bind, safe_getSlot, safe_ite, safe_pure, safe_allocate]
  refine ⟨fun hset => hwf.resolve_left fun ⟨ht, hd⟩ => ?_, fun hset => ?_⟩
  · cases sentinel <;> simp [Sentinel.isSet, ht, hd] at hset
  · have he := Slot.empty_of_not_isSet hwf hset
    have hcode : ∀ e : Errno, -(e.code : Int) ≠ 0 := fun e => by have := e.pos; omega
    cases w.allocAnswer with
    | error e => simp [Slot.Empty, he.2, hcode]
    | ok t =>
      simp only [safe_bind, safe_allocate]
      cases w.allocTick.allocAnswer <;> simp [Slot.Empty, enomem, Slot.fresh_populated]

/-- An allocator adds its slot to the populated ones. -/
theorem slotSafe_cryptoShashAlloc :
    SlotSafe S (fun a => S a ∨ a = b) (cryptoShashAlloc b sentinel) := by
  intro w hw hS
  have hk := (keepsSlots_cryptoShashAlloc : KeepsSlots (cryptoShashAlloc b sentinel)) w hw
  have ho : Safe _ _ (cryptoShashAlloc b sentinel) _ w :=
    cryptoShashAlloc_outcome (Slot.wf_iff_ptrs.mpr (hw b))
  unfold Safe at hk ho ⊢
  split at hk <;> rename_i h <;> rw [h] at ho
  · refine ⟨hk, fun a ha => ha.elim (fun hSa => hk.populated (hS a hSa)) fun hab => ?_⟩
    subst hab
    exact Slot.populated_iff_ptrs.mp ho
  · exact hk
  · exact ho.elim trivial

end Alloc

/-! ## The functions of `auth.c`

Each proof follows the function's calls in order, and `SlotSafe.bind` chains them. A crypto
step names the slot it needs populated: the one an allocator earlier in the function
filled, or for `calc_ntlmv2_hash` and `smb3_sign_smbpdu` one the caller must have filled. -/

section Functions

variable {P : Prims} {e : Endian} {buf : List UInt8} {off : Nat} {S : Alg → Prop}

theorem slotSafe_kzalloc {n : Nat} : SlotSafe S S (kzalloc n) :=
  slotSafe_refusesSize.bind fun _ => .ite slotSafe_pure <|
  slotSafe_allocate.bind fun
    | .ok _ => slotSafe_pure
    | .error _ => slotSafe_pure

theorem slotSafe_smbStrtoUtf16 {size : Nat} {src : List UInt8} :
    SlotSafe S S (smbStrtoUtf16 P size src) :=
  .ite slotSafe_pure (slotSafe_undefined (by nofun))

theorem slotSafe_smbStrndupFromUtf16 {maxlen : Nat} :
    SlotSafe S S (smbStrndupFromUtf16 P buf off maxlen) :=
  (slotSafe_defined (by nofun)).bind fun _ =>
  slotSafe_allocate.bind fun
    | .ok _ => slotSafe_pure
    | .error _ => slotSafe_pure

theorem slotSafe_eP24 {p21 c8 : List UInt8} : SlotSafe S S (eP24 P p21 c8) :=
  slotSafe_stepAnswer.bind fun _ => slotSafe_pure

theorem slotSafe_smbMdfour {src : List UInt8} : SlotSafe S S (smbMdfour P src) :=
  slotSafe_nextFault.bind fun
    | some _ => slotSafe_pure
    | none => slotSafe_modifySess.bind fun _ => slotSafe_pure

theorem slotSafe_computeSessKey {hash hmac : ByteBuf 16} :
    SlotSafe S S (computeSessKey P hash hmac) :=
  (slotSafe_cryptoShashAlloc.bind fun _ =>
  (slotSafe_setkey (.inr rfl)).bind fun _ =>
  (slotSafe_init (.inr rfl)).bind fun _ =>
  (slotSafe_update (.inr rfl)).bind fun _ =>
  (slotSafe_final (.inr rfl)).bind fun _ =>
  slotSafe_modifySess)
    |>.weaken fun _ => .inl

/-- `calc_ntlmv2_hash` steps the HMAC-MD5 slot after checking only its descriptor: its
caller must have filled the slot. -/
theorem slotSafe_calcNtlmv2Hash {dname : Option (List UInt8)} (h : S .hmacmd5) :
    SlotSafe S S (calcNtlmv2Hash P dname) :=
  slotSafe_getSlot.bind fun s =>
  match s.sdesc with
  | none => slotSafe_fail
  | some _ =>
    slotSafe_getSess.bind fun _ =>
    (slotSafe_setkey h).bind fun _ =>
    (slotSafe_init h).bind fun _ =>
    slotSafe_kzalloc.bind fun _ =>
    .ite slotSafe_fail <| by
    -- the two branches for the user name meet in one join point
    refine .ite (slotSafe_pure.bind ?units)
      (slotSafe_smbStrtoUtf16.bind fun _ => slotSafe_pure.bind ?units)
    exact fun _ =>
    (slotSafe_update h).bind fun _ =>
    (slotSafe_defined (by nofun)).bind fun _ =>
    slotSafe_kzalloc.bind fun _ =>
    .ite slotSafe_fail <|
    slotSafe_smbStrtoUtf16.bind fun _ =>
    (slotSafe_update h).bind fun _ =>
    slotSafe_final h

theorem slotSafe_processNtlm : SlotSafe S S (processNtlm P buf off) :=
  slotSafe_getSess.bind fun _ =>
  slotSafe_eP24.bind fun _ =>
  slotSafe_smbMdfour.bind fun _ =>
  slotSafe_modifySess.bind fun _ =>
  (slotSafe_defined (by nofun)).bind fun _ =>
  .ite slotSafe_fail slotSafe_pure

theorem slotSafe_processNtlmv2 {blen : Int} {domainName : Option (List UInt8)} :
    SlotSafe S S (processNtlmv2 P buf off blen domainName) :=
  (slotSafe_cryptoShashAlloc.bind fun _ =>
  (slotSafe_calcNtlmv2Hash (.inr rfl)).bind fun _ =>
  (slotSafe_setkey (.inr rfl)).bind fun _ =>
  (slotSafe_init (.inr rfl)).bind fun _ =>
  slotSafe_kzalloc.bind fun _ =>
  .ite slotSafe_fail <|
  slotSafe_getSess.bind fun _ =>
  .ite (slotSafe_undefined (by nofun)) <|
  (slotSafe_defined (by nofun)).bind fun _ =>
  .ite (slotSafe_undefined (by nofun)) <|
  .ite (slotSafe_undefined (by nofun)) <|
  (slotSafe_update (.inr rfl)).bind fun _ =>
  (slotSafe_final (.inr rfl)).bind fun _ =>
  slotSafe_computeSessKey.bind fun _ =>
  (slotSafe_defined (by nofun)).bind fun _ =>
  slotSafe_check)
    |>.weaken fun _ => .inl

theorem slotSafe_loadField {w : Nat} : SlotSafe S S (loadField e buf off w) :=
  (slotSafe_defined (by nofun)).bind fun _ => slotSafe_pure

theorem slotSafe_storeField {w n : Nat} : SlotSafe S S (storeField e buf off w n) :=
  slotSafe_defined (by nofun)

theorem slotSafe_decodeNtlmsspNegotiateBlob : SlotSafe S S (decodeNtlmsspNegotiateBlob e buf) :=
  .ite slotSafe_fail <|
  (slotSafe_defined (by nofun)).bind fun _ =>
  .ite slotSafe_fail <|
  slotSafe_loadField.bind fun _ =>
  slotSafe_modifySess

theorem slotSafe_decodeNtlmsspAuthenticateBlob :
    SlotSafe S S (decodeNtlmsspAuthenticateBlob P e buf) :=
  .ite slotSafe_fail <|
  (slotSafe_defined (by nofun)).bind fun _ =>
  .ite slotSafe_fail <|
  slotSafe_loadField.bind fun _ =>
  slotSafe_loadField.bind fun _ =>
  .ite slotSafe_processNtlm <|
  slotSafe_loadField.bind fun _ =>
  slotSafe_loadField.bind fun _ =>
  slotSafe_smbStrndupFromUtf16.bind fun _ =>
  slotSafe_processNtlmv2

theorem slotSafe_addTargetInfo {name : List UInt8} {len : Nat} :
    ∀ types buf off total, SlotSafe S S (addTargetInfo e name len types buf off total)
  | [], _, _, _ => slotSafe_pure
  | _ :: types, _, _, _ =>
    slotSafe_storeField.bind fun _ =>
    slotSafe_storeField.bind fun _ =>
    (slotSafe_defined (by nofun)).bind fun _ =>
    slotSafe_storeField.bind fun _ =>
    slotSafe_addTargetInfo types _ _ _

theorem slotSafe_buildNtlmsspChallengeBlob {netbiosName : List UInt8} :
    SlotSafe S S (buildNtlmsspChallengeBlob P e netbiosName buf) :=
  (slotSafe_defined (by nofun)).bind fun _ =>
  slotSafe_storeField.bind fun _ =>
  slotSafe_getSess.bind fun _ =>
  slotSafe_storeField.bind fun _ =>
  slotSafe_smbStrtoUtf16.bind fun _ =>
  slotSafe_storeField.bind fun _ =>
  slotSafe_storeField.bind fun _ =>
  slotSafe_storeField.bind fun _ =>
  slotSafe_getRandomBytes.bind fun _ =>
  slotSafe_modifySess.bind fun _ =>
  (slotSafe_defined (by nofun)).bind fun _ =>
  slotSafe_loadField.bind fun _ =>
  slotSafe_storeField.bind fun _ =>
  (slotSafe_defined (by nofun)).bind fun _ =>
  slotSafe_storeField.bind fun _ =>
  (slotSafe_addTargetInfo _ _ _ _).bind fun (_, _, _) =>
  slotSafe_storeField.bind fun _ =>
  slotSafe_storeField.bind fun _ =>
  slotSafe_storeField.bind fun _ =>
  slotSafe_storeField.bind fun _ =>
  slotSafe_pure

theorem slotSafe_smb1SignSmbpdu : SlotSafe S S (smb1SignSmbpdu P buf) :=
  (slotSafe_cryptoShashAlloc.bind fun _ =>
  (slotSafe_init (.inr rfl)).bind fun _ =>
  slotSafe_getSess.bind fun _ =>
  (slotSafe_update (.inr rfl)).bind fun _ =>
  (slotSafe_update (.inr rfl)).bind fun _ =>
  slotSafe_final (.inr rfl))
    |>.weaken fun _ => .inl

theorem slotSafe_smb2SignSmbpdu : SlotSafe S S (smb2SignSmbpdu P buf) :=
  (slotSafe_cryptoShashAlloc.bind fun _ =>
  slotSafe_getSess.bind fun _ =>
  (slotSafe_setkey (.inr rfl)).bind fun _ =>
  (slotSafe_init (.inr rfl)).bind fun _ =>
  (slotSafe_update (.inr rfl)).bind fun _ =>
  slotSafe_final (.inr rfl))
    |>.weaken fun _ => .inl

/-- `smb3_sign_smbpdu` allocates nothing: it is safe only where the CMAC slot is populated. -/
theorem slotSafe_smb3SignSmbpdu {smb3signingkey : ByteBuf 16} (h : S .cmacaes) :
    SlotSafe S S (smb3SignSmbpdu P smb3signingkey buf) :=
  (slotSafe_setkey h).bind fun _ =>
  (slotSafe_init h).bind fun _ =>
  (slotSafe_update h).bind fun _ =>
  slotSafe_final h

/-- `compute_smb3xsigningkey` allocates both its transforms: a normal return leaves the
HMAC-SHA256 and the CMAC slot populated. -/
theorem slotSafe_computeSmb3xsigningkey_allocates {keySize : Nat} :
    SlotSafe S (fun a => (S a ∨ a = .hmacsha256) ∨ a = .cmacaes)
      (computeSmb3xsigningkey P keySize) :=
  slotSafe_cryptoShashAlloc.bind fun _ =>
  slotSafe_cryptoShashAlloc.bind fun _ =>
  slotSafe_getSess.bind fun _ =>
  (slotSafe_setkey (.inl (.inr rfl))).bind fun _ =>
  (slotSafe_init (.inl (.inr rfl))).bind fun _ =>
  (slotSafe_update (.inl (.inr rfl))).bind fun _ =>
  slotSafe_getServer.bind fun _ => by
  -- each dialect test sends its two updates into one join point
  refine .ite ((slotSafe_update (.inl (.inr rfl))).bind ?label)
    ((slotSafe_update (.inl (.inr rfl))).bind ?label)
  refine fun _ => (slotSafe_update (.inl (.inr rfl))).bind fun _ => ?_
  refine .ite ((slotSafe_update (.inl (.inr rfl))).bind ?context)
    ((slotSafe_update (.inl (.inr rfl))).bind ?context)
  exact fun _ =>
    (slotSafe_update (.inl (.inr rfl))).bind fun _ =>
    (slotSafe_final (.inl (.inr rfl))).bind fun _ =>
    SlotSafe.ite (slotSafe_undefined (by nofun)) slotSafe_pure

theorem slotSafe_computeSmb3xsigningkey {keySize : Nat} :
    SlotSafe S S (computeSmb3xsigningkey P keySize) :=
  slotSafe_computeSmb3xsigningkey_allocates.weaken fun _ h => .inl (.inl h)

theorem slotSafe_writePiHash {piHash : PiHash} {h : ByteBuf 64} :
    SlotSafe S S (writePiHash piHash h) := by
  cases piHash
  · exact slotSafe_setPreauth
  · exact slotSafe_pure

theorem slotSafe_calcPreauthIntegrityHash {hashId : Int} {piHash : PiHash} :
    SlotSafe S S (calcPreauthIntegrityHash P hashId buf piHash) :=
  (slotSafe_defined (by nofun)).bind fun _ =>
  .ite slotSafe_fail <|
  (slotSafe_cryptoShashAlloc.bind fun _ =>
  (slotSafe_init (.inr rfl)).bind fun _ =>
  slotSafe_getServer.bind fun _ =>
  (slotSafe_update (.inr rfl)).bind fun _ =>
  (slotSafe_defined (by nofun)).bind fun _ =>
  (slotSafe_update (.inr rfl)).bind fun _ =>
  (slotSafe_final (.inr rfl)).bind fun _ =>
  slotSafe_writePiHash.bind fun _ => slotSafe_pure)
    |>.weaken fun _ => .inl

end Functions

end KsmbdAuth
