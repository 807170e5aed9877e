import KsmbdAuth.Machine

/-!
# A program logic for `M`

Four judgments over a call `x : M α`, each with its rule for `>>=`, so that the proof
about a C function follows the function's own sequence of calls:

* `OkSpec x Q w`: every normal return of `x` from `w` satisfies `Q`. This is what a
  return value or a final world must be (partial correctness, normal exits only);
* `Runs x Q w`: `x` returns normally from `w`, and `Q` holds of what it returns (total
  correctness, normal exits only);
* `ErrSpec x Q w`: every error exit of `x` from `w` satisfies `Q`;
* `Safe I bad x Q w`: all three exits at once. A normal return satisfies `Q`, an error exit
  ends in a world satisfying `I`, and undefined behaviour is never of a kind `bad` holds
  of. This is the form of the run-long invariants.

Below them are the closed forms of each judgment for the steps of `Machine`, so that `simp`
with these lemmas computes what a call sequence does.
-/

namespace KsmbdAuth

variable {α β : Type}

theorem bind_apply (x : M α) (f : α → M β) (w : World) :
    (x >>= f) w = match x w with
      | .ok a w' => f a w'
      | .err rc w' => .err rc w'
      | .ub why => .ub why := rfl

theorem bind_of_ok {x : M α} {f : α → M β} {a : α} {w w' : World} (h : x w = .ok a w') :
    (x >>= f) w = f a w' := by
  rw [bind_apply, h]

theorem bind_of_ub {x : M α} {f : α → M β} {why : Ub} {w : World} (h : x w = .ub why) :
    (x >>= f) w = .ub why := by
  rw [bind_apply, h]

/-! ## Normal returns -/

/-- Every normal return of `x` from `w` satisfies `Q`. -/
def OkSpec (x : M α) (Q : α → World → Prop) (w : World) : Prop :=
  ∀ a w', x w = .ok a w' → Q a w'

@[simp] theorem okSpec_bind {x : M α} {f : α → M β} {Q : β → World → Prop} {w : World} :
    OkSpec (x >>= f) Q w ↔ OkSpec x (fun a w' => OkSpec (f a) Q w') w := by
  unfold OkSpec
  rw [bind_apply]
  constructor
  · intro h a w' hx b w'' hf
    exact h b w'' (by rw [hx]; exact hf)
  · intro h b w'' hxf
    cases hx : x w with
    | ok a w' => rw [hx] at hxf; exact h a w' hx b w'' hxf
    | err rc w' => rw [hx] at hxf; cases hxf
    | ub why => rw [hx] at hxf; cases hxf

theorem OkSpec.mono {x : M α} {Q Q' : α → World → Prop} {w : World} (h : OkSpec x Q w)
    (hq : ∀ a w', Q a w' → Q' a w') : OkSpec x Q' w :=
  fun a w' hx => hq a w' (h a w' hx)

@[simp] theorem okSpec_pure {a : α} {Q : α → World → Prop} {w : World} :
    OkSpec (pure a) Q w ↔ Q a w := by
  simp [OkSpec, pure]

@[simp] theorem okSpec_fail {rc : Int} {Q : α → World → Prop} {w : World} :
    OkSpec (fail rc) Q w := by
  simp [OkSpec, fail]

@[simp] theorem okSpec_undefined {why : Ub} {Q : α → World → Prop} {w : World} :
    OkSpec (undefined why) Q w := by
  simp [OkSpec, undefined]

@[simp] theorem okSpec_ite {c : Prop} [Decidable c] {x y : M α} {Q : α → World → Prop}
    {w : World} : OkSpec (if c then x else y) Q w ↔ (c → OkSpec x Q w) ∧ (¬c → OkSpec y Q w) := by
  by_cases h : c <;> simp [h]

/-! ## Total normal returns -/

/-- `x` returns normally from `w`, and `Q` holds of its value and final world. -/
def Runs (x : M α) (Q : α → World → Prop) (w : World) : Prop :=
  ∃ a w', x w = .ok a w' ∧ Q a w'

@[simp] theorem runs_bind {x : M α} {f : α → M β} {Q : β → World → Prop} {w : World} :
    Runs (x >>= f) Q w ↔ Runs x (fun a w' => Runs (f a) Q w') w := by
  unfold Runs
  rw [bind_apply]
  constructor
  · rintro ⟨b, w'', h, hq⟩
    cases hx : x w with
    | ok a w' => rw [hx] at h; exact ⟨a, w', rfl, b, w'', h, hq⟩
    | err rc w' => rw [hx] at h; cases h
    | ub why => rw [hx] at h; cases h
  · rintro ⟨a, w', hx, b, w'', hf, hq⟩
    exact ⟨b, w'', by rw [hx]; exact hf, hq⟩

theorem Runs.mono {x : M α} {Q Q' : α → World → Prop} {w : World} (h : Runs x Q w)
    (hq : ∀ a w', Q a w' → Q' a w') : Runs x Q' w :=
  let ⟨a, w', hx, hQ⟩ := h
  ⟨a, w', hx, hq a w' hQ⟩

@[simp] theorem runs_pure {a : α} {Q : α → World → Prop} {w : World} :
    Runs (pure a) Q w ↔ Q a w :=
  ⟨fun ⟨_, _, h, hq⟩ => by cases h; exact hq, fun h => ⟨a, w, rfl, h⟩⟩

@[simp] theorem runs_ite {c : Prop} [Decidable c] {x y : M α} {Q : α → World → Prop}
    {w : World} : Runs (if c then x else y) Q w ↔ if c then Runs x Q w else Runs y Q w := by
  by_cases h : c <;> simp [h]

/-- A call that returns normally returns only what `Runs` names. -/
theorem Runs.toOkSpec {x : M α} {Q : α → World → Prop} {w : World} (h : Runs x Q w) :
    OkSpec x Q w := by
  obtain ⟨a, w', hx, hq⟩ := h
  intro b w'' hb
  obtain ⟨rfl, rfl⟩ := Res.ok.inj (hx.symm.trans hb)
  exact hq

/-! ## Closed forms of the steps -/

section Steps

variable {Q : α → World → Prop} {w w' : World} {a : α}

theorem okSpec_ok {x : M α} (h : x w = .ok a w') : OkSpec x Q w ↔ Q a w' := by
  unfold OkSpec
  rw [h]
  exact ⟨fun hq => hq a w' rfl, fun hq b w'' he => by cases he; exact hq⟩

theorem runs_ok {x : M α} (h : x w = .ok a w') : Runs x Q w ↔ Q a w' := by
  unfold Runs
  rw [h]
  exact ⟨fun ⟨_, _, he, hq⟩ => by cases he; exact hq, fun hq => ⟨a, w', rfl, hq⟩⟩

@[simp] theorem runs_fail {rc : Int} : ¬Runs (fail rc : M α) Q w := fun ⟨_, _, h, _⟩ => nomatch h

@[simp] theorem runs_undefined {why : Ub} : ¬Runs (undefined why : M α) Q w :=
  fun ⟨_, _, h, _⟩ => nomatch h

@[simp] theorem okSpec_defined {why : Ub} {o : Option α} :
    OkSpec (defined why o) Q w ↔ ∀ a, o = some a → Q a w := by
  cases o <;> simp [OkSpec, defined]

@[simp] theorem runs_defined {why : Ub} {o : Option α} :
    Runs (defined why o) Q w ↔ ∃ a, o = some a ∧ Q a w := by
  cases o with
  | none => simp [Runs, defined]
  | some b => exact (runs_ok (x := defined why (some b)) rfl).trans (by simp)

@[simp] theorem okSpec_check {rc : Int} {Q : Unit → World → Prop} :
    OkSpec (check rc) Q w ↔ (rc = 0 → Q () w) := by
  unfold check
  split <;> simp_all

@[simp] theorem runs_check {rc : Int} {Q : Unit → World → Prop} :
    Runs (check rc) Q w ↔ rc = 0 ∧ Q () w := by
  unfold check
  split <;> simp_all

@[simp] theorem okSpec_getSess {Q : Sess → World → Prop} : OkSpec getSess Q w ↔ Q w.sess w :=
  okSpec_ok rfl

@[simp] theorem runs_getSess {Q : Sess → World → Prop} : Runs getSess Q w ↔ Q w.sess w :=
  runs_ok rfl

@[simp] theorem okSpec_getServer {Q : Server → World → Prop} :
    OkSpec getServer Q w ↔ Q w.server w := okSpec_ok rfl

@[simp] theorem runs_getServer {Q : Server → World → Prop} :
    Runs getServer Q w ↔ Q w.server w := runs_ok rfl

@[simp] theorem okSpec_modifySess {f : Sess → Sess} {Q : Unit → World → Prop} :
    OkSpec (modifySess f) Q w ↔ Q () (w.withSess (f w.sess)) := okSpec_ok rfl

@[simp] theorem runs_modifySess {f : Sess → Sess} {Q : Unit → World → Prop} :
    Runs (modifySess f) Q w ↔ Q () (w.withSess (f w.sess)) := runs_ok rfl

@[simp] theorem okSpec_getSlot {b : Alg} {Q : Slot → World → Prop} :
    OkSpec (getSlot b) Q w ↔ Q (w.slot b) w := okSpec_ok rfl

@[simp] theorem runs_getSlot {b : Alg} {Q : Slot → World → Prop} :
    Runs (getSlot b) Q w ↔ Q (w.slot b) w := runs_ok rfl

@[simp] theorem okSpec_setSlot {b : Alg} {s : Slot} {Q : Unit → World → Prop} :
    OkSpec (setSlot b s) Q w ↔ Q () (w.putSlot b s) := okSpec_ok rfl

@[simp] theorem runs_setSlot {b : Alg} {s : Slot} {Q : Unit → World → Prop} :
    Runs (setSlot b s) Q w ↔ Q () (w.putSlot b s) := runs_ok rfl

@[simp] theorem okSpec_setPreauth {h : ByteBuf 64} {Q : Unit → World → Prop} :
    OkSpec (setPreauth h) Q w ↔ Q () (w.withPreauth h) := okSpec_ok rfl

@[simp] theorem runs_setPreauth {h : ByteBuf 64} {Q : Unit → World → Prop} :
    Runs (setPreauth h) Q w ↔ Q () (w.withPreauth h) := runs_ok rfl

@[simp] theorem okSpec_refusesSize {n : Nat} {Q : Bool → World → Prop} :
    OkSpec (refusesSize n) Q w ↔ Q (w.env.refuses n) w := okSpec_ok rfl

@[simp] theorem runs_refusesSize {n : Nat} {Q : Bool → World → Prop} :
    Runs (refusesSize n) Q w ↔ Q (w.env.refuses n) w := runs_ok rfl

@[simp] theorem okSpec_getRandomBytes {Q : ByteBuf 8 → World → Prop} :
    OkSpec getRandomBytes Q w ↔ Q w.env.random w := okSpec_ok rfl

@[simp] theorem runs_getRandomBytes {Q : ByteBuf 8 → World → Prop} :
    Runs getRandomBytes Q w ↔ Q w.env.random w := runs_ok rfl

@[simp] theorem okSpec_nextFault {Q : Option Errno → World → Prop} :
    OkSpec nextFault Q w ↔ Q (w.env.fault w.steps) w.tick := okSpec_ok rfl

@[simp] theorem runs_nextFault {Q : Option Errno → World → Prop} :
    Runs nextFault Q w ↔ Q (w.env.fault w.steps) w.tick := runs_ok rfl

/-- The world after one more allocation. -/
def World.allocTick (w : World) : World := { w with allocs := w.allocs + 1 }

@[simp] theorem World.slot_allocTick (a : Alg) : w.allocTick.slot a = w.slot a := rfl
@[simp] theorem World.allocTick_sess : w.allocTick.sess = w.sess := rfl
@[simp] theorem World.allocTick_env : w.allocTick.env = w.env := rfl
@[simp] theorem World.allocTick_steps : w.allocTick.steps = w.steps := rfl
@[simp] theorem World.allocTick_allocs : w.allocTick.allocs = w.allocs + 1 := rfl
@[simp] theorem World.allocTick_server : w.allocTick.server = w.server := rfl
@[simp] theorem World.putSlot_allocTick {a : Alg} {s : Slot} :
    (w.putSlot a s).allocTick = w.allocTick.putSlot a s := rfl
@[simp] theorem World.withAllocs_allocTick {k : Nat} :
    (w.withAllocs k).allocTick = w.withAllocs (k + 1) := rfl

/-- The kernel's answer to the world's next allocation. -/
def World.allocAnswer (w : World) : Except Errno Nat :=
  match w.env.allocFail w.allocs with
  | none => .ok (w.env.allocAddr w.allocs)
  | some e => .error e

@[simp] theorem okSpec_allocate {Q : Except Errno Nat → World → Prop} :
    OkSpec allocate Q w ↔ Q w.allocAnswer w.allocTick := okSpec_ok rfl

@[simp] theorem runs_allocate {Q : Except Errno Nat → World → Prop} :
    Runs allocate Q w ↔ Q w.allocAnswer w.allocTick := runs_ok rfl

@[simp] theorem okSpec_stepAnswer {Q : Unit → World → Prop} :
    OkSpec stepAnswer Q w ↔ (w.env.fault w.steps = none → Q () w.tick) := by
  unfold stepAnswer
  rw [okSpec_bind, okSpec_nextFault]
  cases w.env.fault w.steps <;> simp

@[simp] theorem runs_stepAnswer {Q : Unit → World → Prop} :
    Runs stepAnswer Q w ↔ w.env.fault w.steps = none ∧ Q () w.tick := by
  unfold stepAnswer
  rw [runs_bind, runs_nextFault]
  cases w.env.fault w.steps <;> simp

theorem okSpec_descOf {b : Alg} {Q : Shash × Sdesc → World → Prop} :
    OkSpec (descOf b) Q w ↔ ∀ t, (w.slot b).tfm = some t → ∀ d, (w.slot b).sdesc = some d →
      d.tfm = t.addr → Q (t, d) w := by
  unfold descOf Slot.paired?
  rw [okSpec_bind, okSpec_getSlot]
  rcases (w.slot b) with ⟨_ | t, _ | d⟩ <;> simp
  split <;> simp_all

theorem runs_descOf {b : Alg} {Q : Shash × Sdesc → World → Prop} :
    Runs (descOf b) Q w ↔ ∃ t, (w.slot b).tfm = some t ∧ ∃ d, (w.slot b).sdesc = some d ∧
      d.tfm = t.addr ∧ Q (t, d) w := by
  unfold descOf Slot.paired?
  rw [runs_bind, runs_getSlot]
  rcases (w.slot b) with ⟨_ | t, _ | d⟩ <;> simp
  split <;> simp_all

@[simp] theorem okSpec_setkey {b : Alg} {k : List UInt8} {Q : Unit → World → Prop} :
    OkSpec (setkey b k) Q w ↔ ∀ t, (w.slot b).tfm = some t → w.env.fault w.steps = none →
      Q () (w.tick.putSlot b { w.slot b with tfm := some { t with key := k } }) := by
  unfold setkey
  rw [okSpec_bind, okSpec_getSlot]
  cases (w.slot b).tfm <;> simp

@[simp] theorem runs_setkey {b : Alg} {k : List UInt8} {Q : Unit → World → Prop} :
    Runs (setkey b k) Q w ↔ ∃ t, (w.slot b).tfm = some t ∧ w.env.fault w.steps = none ∧
      Q () (w.tick.putSlot b { w.slot b with tfm := some { t with key := k } }) := by
  unfold setkey
  rw [runs_bind, runs_getSlot]
  cases (w.slot b).tfm <;> simp

@[simp] theorem okSpec_init {b : Alg} {Q : Unit → World → Prop} :
    OkSpec (init b) Q w ↔ ∀ t, (w.slot b).tfm = some t → ∀ d, (w.slot b).sdesc = some d →
      d.tfm = t.addr → w.env.fault w.steps = none →
      Q () (w.tick.putSlot b ⟨some t, some { d with key := t.key, data := [] }⟩) := by
  simp [init, okSpec_descOf]

@[simp] theorem runs_init {b : Alg} {Q : Unit → World → Prop} :
    Runs (init b) Q w ↔ ∃ t, (w.slot b).tfm = some t ∧ ∃ d, (w.slot b).sdesc = some d ∧
      d.tfm = t.addr ∧ w.env.fault w.steps = none ∧
      Q () (w.tick.putSlot b ⟨some t, some { d with key := t.key, data := [] }⟩) := by
  simp [init, runs_descOf]

@[simp] theorem okSpec_update {b : Alg} {data : List UInt8} {Q : Unit → World → Prop} :
    OkSpec (update b data) Q w ↔ ∀ t, (w.slot b).tfm = some t → ∀ d, (w.slot b).sdesc = some d →
      d.tfm = t.addr → w.env.fault w.steps = none →
      Q () (w.tick.putSlot b ⟨some t, some { d with data := d.data ++ data }⟩) := by
  simp [update, okSpec_descOf]

@[simp] theorem runs_update {b : Alg} {data : List UInt8} {Q : Unit → World → Prop} :
    Runs (update b data) Q w ↔ ∃ t, (w.slot b).tfm = some t ∧ ∃ d, (w.slot b).sdesc = some d ∧
      d.tfm = t.addr ∧ w.env.fault w.steps = none ∧
      Q () (w.tick.putSlot b ⟨some t, some { d with data := d.data ++ data }⟩) := by
  simp [update, runs_descOf]

@[simp] theorem okSpec_final {P : Prims} {b : Alg} {Q : ByteBuf b.digestSize → World → Prop} :
    OkSpec (final P b) Q w ↔ ∀ t, (w.slot b).tfm = some t → ∀ d, (w.slot b).sdesc = some d →
      d.tfm = t.addr → w.env.fault w.steps = none → Q (P.digest b d.key d.data) w.tick := by
  simp [final, okSpec_descOf]

@[simp] theorem runs_final {P : Prims} {b : Alg} {Q : ByteBuf b.digestSize → World → Prop} :
    Runs (final P b) Q w ↔ ∃ t, (w.slot b).tfm = some t ∧ ∃ d, (w.slot b).sdesc = some d ∧
      d.tfm = t.addr ∧ w.env.fault w.steps = none ∧ Q (P.digest b d.key d.data) w.tick := by
  simp [final, runs_descOf]

end Steps

/-! ## Error exits -/

/-- Every error exit of `x` from `w` satisfies `Q`. -/
def ErrSpec (x : M α) (Q : Int → World → Prop) (w : World) : Prop :=
  ∀ rc w', x w = .err rc w' → Q rc w'

section Err

variable {Q : Int → World → Prop} {w w' : World} {a : α}

@[simp] theorem errSpec_bind {x : M α} {f : α → M β} :
    ErrSpec (x >>= f) Q w ↔ ErrSpec x Q w ∧ OkSpec x (fun a w' => ErrSpec (f a) Q w') w := by
  unfold ErrSpec OkSpec
  rw [bind_apply]
  cases hx : x w with
  | ok a w' => simp
  | err rc w' => simp
  | ub why => simp

theorem ErrSpec.mono {x : M α} {Q' : Int → World → Prop} (h : ErrSpec x Q w)
    (hq : ∀ rc w', Q rc w' → Q' rc w') : ErrSpec x Q' w :=
  fun rc w' hx => hq rc w' (h rc w' hx)

theorem errSpec_ok {x : M α} (h : x w = .ok a w') : ErrSpec x Q w := by
  intro rc w'' he
  rw [h] at he
  cases he

@[simp] theorem errSpec_pure : ErrSpec (pure a) Q w := errSpec_ok rfl

@[simp] theorem errSpec_fail {rc : Int} : ErrSpec (fail rc : M α) Q w ↔ Q rc w :=
  ⟨fun h => h rc w rfl, fun h _ _ he => by cases he; exact h⟩

@[simp] theorem errSpec_undefined {why : Ub} : ErrSpec (undefined why : M α) Q w :=
  fun _ _ he => nomatch he

@[simp] theorem errSpec_defined {why : Ub} {o : Option α} : ErrSpec (defined why o) Q w := by
  cases o with
  | none => exact fun _ _ he => nomatch he
  | some b => exact errSpec_ok (x := defined why (some b)) rfl

@[simp] theorem errSpec_ite {c : Prop} [Decidable c] {x y : M α} :
    ErrSpec (if c then x else y) Q w ↔ (c → ErrSpec x Q w) ∧ (¬c → ErrSpec y Q w) := by
  by_cases h : c <;> simp [h]

@[simp] theorem errSpec_check {rc : Int} : ErrSpec (check rc) Q w ↔ (rc ≠ 0 → Q rc w) := by
  unfold check
  split <;> simp_all

@[simp] theorem errSpec_getSess : ErrSpec getSess Q w := errSpec_ok rfl
@[simp] theorem errSpec_getServer : ErrSpec getServer Q w := errSpec_ok rfl
@[simp] theorem errSpec_modifySess {f : Sess → Sess} : ErrSpec (modifySess f) Q w := errSpec_ok rfl
@[simp] theorem errSpec_getSlot {b : Alg} : ErrSpec (getSlot b) Q w := errSpec_ok rfl
@[simp] theorem errSpec_setSlot {b : Alg} {s : Slot} : ErrSpec (setSlot b s) Q w := errSpec_ok rfl
@[simp] theorem errSpec_setPreauth {h : ByteBuf 64} : ErrSpec (setPreauth h) Q w := errSpec_ok rfl
@[simp] theorem errSpec_refusesSize {n : Nat} : ErrSpec (refusesSize n) Q w := errSpec_ok rfl
@[simp] theorem errSpec_getRandomBytes : ErrSpec getRandomBytes Q w := errSpec_ok rfl
@[simp] theorem errSpec_nextFault : ErrSpec nextFault Q w := errSpec_ok rfl
@[simp] theorem errSpec_allocate : ErrSpec allocate Q w := errSpec_ok rfl

@[simp] theorem errSpec_stepAnswer :
    ErrSpec stepAnswer Q w ↔ ∀ e, w.env.fault w.steps = some e → Q (-e.code) w.tick := by
  unfold stepAnswer
  rw [errSpec_bind, okSpec_nextFault]
  cases w.env.fault w.steps <;> simp

theorem errSpec_descOf {b : Alg} : ErrSpec (descOf b) Q w := by
  unfold descOf
  rw [errSpec_bind, okSpec_getSlot]
  cases (w.slot b).paired? <;> simp

@[simp] theorem errSpec_setkey {b : Alg} {k : List UInt8} :
    ErrSpec (setkey b k) Q w ↔ ∀ t, (w.slot b).tfm = some t →
      ∀ e, w.env.fault w.steps = some e → Q (-e.code) w.tick := by
  unfold setkey
  rw [errSpec_bind, okSpec_getSlot]
  cases (w.slot b).tfm <;> simp

@[simp] theorem errSpec_init {b : Alg} :
    ErrSpec (init b) Q w ↔ ∀ t, (w.slot b).tfm = some t → ∀ d, (w.slot b).sdesc = some d →
      d.tfm = t.addr → ∀ e, w.env.fault w.steps = some e → Q (-e.code) w.tick := by
  simp [init, errSpec_descOf, okSpec_descOf]

@[simp] theorem errSpec_update {b : Alg} {data : List UInt8} :
    ErrSpec (update b data) Q w ↔ ∀ t, (w.slot b).tfm = some t → ∀ d, (w.slot b).sdesc = some d →
      d.tfm = t.addr → ∀ e, w.env.fault w.steps = some e → Q (-e.code) w.tick := by
  simp [update, errSpec_descOf, okSpec_descOf]

@[simp] theorem errSpec_final {P : Prims} {b : Alg} :
    ErrSpec (final P b) Q w ↔ ∀ t, (w.slot b).tfm = some t → ∀ d, (w.slot b).sdesc = some d →
      d.tfm = t.addr → ∀ e, w.env.fault w.steps = some e → Q (-e.code) w.tick := by
  simp [final, errSpec_descOf, okSpec_descOf]

end Err

/-! ## Safety: every exit at once -/

/-- From `w`, a normal return of `x` satisfies `Q`, an error exit satisfies `I` with its
return code, and undefined behaviour is never of a kind `bad` holds of. With `Q` and `I`
the same invariant of the final world, this is the form of the run-long invariants. -/
def Safe (I : Int → World → Prop) (bad : Ub → Prop) (x : M α) (Q : α → World → Prop)
    (w : World) : Prop :=
  match x w with
  | .ok a w' => Q a w'
  | .err rc w' => I rc w'
  | .ub why => ¬bad why

section Safe

variable {I : Int → World → Prop} {bad : Ub → Prop} {Q : α → World → Prop} {w w' : World} {a : α}

@[simp] theorem safe_bind {x : M α} {f : α → M β} {Q : β → World → Prop} :
    Safe I bad (x >>= f) Q w ↔ Safe I bad x (fun a w' => Safe I bad (f a) Q w') w := by
  unfold Safe
  rw [bind_apply]
  cases x w <;> exact Iff.rfl

theorem Safe.imp {x : M α} {I' : Int → World → Prop} {Q' : α → World → Prop}
    (h : Safe I bad x Q w) (hi : ∀ rc w', I rc w' → I' rc w') (hq : ∀ a w', Q a w' → Q' a w') :
    Safe I' bad x Q' w := by
  revert h
  unfold Safe
  cases x w with
  | ok a w' => exact hq a w'
  | err rc w' => exact hi rc w'
  | ub _ => exact id

/-- A call safe against more kinds of undefined behaviour is safe against fewer. -/
theorem Safe.weaken {x : M α} {bad' : Ub → Prop} (h : Safe I bad x Q w)
    (hb : ∀ why, bad' why → bad why) : Safe I bad' x Q w := by
  revert h
  unfold Safe
  cases x w with
  | ub why => exact fun h h' => h (hb why h')
  | _ => exact id

theorem safe_ok {x : M α} (h : x w = .ok a w') : Safe I bad x Q w ↔ Q a w' := by
  unfold Safe
  rw [h]

theorem Safe.okSpec {x : M α} (h : Safe I bad x Q w) : OkSpec x Q w := fun _ _ hx => by
  rwa [safe_ok hx] at h

theorem Safe.errSpec {x : M α} (h : Safe I bad x Q w) : ErrSpec x I w := fun _ _ hx => by
  unfold Safe at h
  rwa [hx] at h

/-- Safety against no kind of undefined behaviour is the normal returns and the error exits
together. -/
theorem Safe.of_spec {x : M α} (hq : OkSpec x Q w) (hi : ErrSpec x I w) :
    Safe I (fun _ => False) x Q w := by
  unfold Safe
  cases hx : x w with
  | ok a w' => exact hq a w' hx
  | err rc w' => exact hi rc w' hx
  | ub _ => exact id

/-- A call safe against every kind of undefined behaviour, none of whose error exits is
possible, returns normally. -/
theorem Safe.runs {x : M α} (h : Safe I (fun _ => True) x Q w) (hi : ∀ rc w', ¬I rc w') :
    Runs x Q w := by
  unfold Safe at h
  cases hx : x w with
  | ok a w' => exact ⟨a, w', hx, by rwa [hx] at h⟩
  | err rc w' => rw [hx] at h; exact absurd h (hi rc w')
  | ub _ => rw [hx] at h; exact absurd trivial h

/-- A call safe against every kind of undefined behaviour, none of whose normal returns is
possible, leaves through an error exit. -/
theorem Safe.exists_err {x : M α} (h : Safe I (fun _ => True) x Q w) (hq : ∀ a w', ¬Q a w') :
    ∃ rc w', x w = .err rc w' ∧ I rc w' := by
  unfold Safe at h
  cases hx : x w with
  | ok a w' => rw [hx] at h; exact absurd h (hq a w')
  | err rc w' => exact ⟨rc, w', rfl, by rwa [hx] at h⟩
  | ub _ => rw [hx] at h; exact absurd trivial h

/-- A safe call has no undefined behaviour of a kind `bad` holds of. -/
theorem Safe.ne_ub {x : M α} {why : Ub} (h : Safe I bad x Q w) (hb : bad why) : x w ≠ .ub why :=
  fun hx => by unfold Safe at h; rw [hx] at h; exact h hb

@[simp] theorem safe_pure : Safe I bad (pure a) Q w ↔ Q a w := Iff.rfl

@[simp] theorem safe_fail {rc : Int} : Safe I bad (fail rc : M α) Q w ↔ I rc w := Iff.rfl

@[simp] theorem safe_undefined {why : Ub} : Safe I bad (undefined why : M α) Q w ↔ ¬bad why :=
  Iff.rfl

@[simp] theorem safe_defined {why : Ub} {o : Option α} :
    Safe I bad (defined why o) Q w ↔ (o = none → ¬bad why) ∧ ∀ a, o = some a → Q a w := by
  cases o <;> simp [Safe, defined]

@[simp] theorem safe_ite {c : Prop} [Decidable c] {x y : M α} :
    Safe I bad (if c then x else y) Q w ↔ (c → Safe I bad x Q w) ∧ (¬c → Safe I bad y Q w) := by
  by_cases h : c <;> simp [h]

@[simp] theorem safe_check {rc : Int} {Q : Unit → World → Prop} :
    Safe I bad (check rc) Q w ↔ (rc = 0 → Q () w) ∧ (rc ≠ 0 → I rc w) := by
  unfold check
  split <;> simp_all

@[simp] theorem safe_getSess {Q : Sess → World → Prop} : Safe I bad getSess Q w ↔ Q w.sess w :=
  safe_ok rfl

@[simp] theorem safe_getServer {Q : Server → World → Prop} :
    Safe I bad getServer Q w ↔ Q w.server w := safe_ok rfl

@[simp] theorem safe_modifySess {f : Sess → Sess} {Q : Unit → World → Prop} :
    Safe I bad (modifySess f) Q w ↔ Q () (w.withSess (f w.sess)) := safe_ok rfl

@[simp] theorem safe_getSlot {b : Alg} {Q : Slot → World → Prop} :
    Safe I bad (getSlot b) Q w ↔ Q (w.slot b) w := safe_ok rfl

@[simp] theorem safe_setSlot {b : Alg} {s : Slot} {Q : Unit → World → Prop} :
    Safe I bad (setSlot b s) Q w ↔ Q () (w.putSlot b s) := safe_ok rfl

@[simp] theorem safe_setPreauth {h : ByteBuf 64} {Q : Unit → World → Prop} :
    Safe I bad (setPreauth h) Q w ↔ Q () (w.withPreauth h) := safe_ok rfl

@[simp] theorem safe_refusesSize {n : Nat} {Q : Bool → World → Prop} :
    Safe I bad (refusesSize n) Q w ↔ Q (w.env.refuses n) w := safe_ok rfl

@[simp] theorem safe_getRandomBytes {Q : ByteBuf 8 → World → Prop} :
    Safe I bad getRandomBytes Q w ↔ Q w.env.random w := safe_ok rfl

@[simp] theorem safe_nextFault {Q : Option Errno → World → Prop} :
    Safe I bad nextFault Q w ↔ Q (w.env.fault w.steps) w.tick := safe_ok rfl

@[simp] theorem safe_allocate {Q : Except Errno Nat → World → Prop} :
    Safe I bad allocate Q w ↔ Q w.allocAnswer w.allocTick := safe_ok rfl

@[simp] theorem safe_stepAnswer {Q : Unit → World → Prop} :
    Safe I bad stepAnswer Q w ↔
      (w.env.fault w.steps = none → Q () w.tick) ∧
        ∀ e, w.env.fault w.steps = some e → I (-e.code) w.tick := by
  unfold stepAnswer
  rw [safe_bind, safe_nextFault]
  cases w.env.fault w.steps <;> simp

theorem safe_descOf {b : Alg} {Q : Shash × Sdesc → World → Prop} :
    Safe I bad (descOf b) Q w ↔
      ((w.slot b).paired? = none → ¬bad (.slot b)) ∧ ∀ p, (w.slot b).paired? = some p → Q p w := by
  unfold descOf
  rw [safe_bind, safe_getSlot]
  cases (w.slot b).paired? <;> simp

@[simp] theorem safe_setkey {b : Alg} {k : List UInt8} {Q : Unit → World → Prop} :
    Safe I bad (setkey b k) Q w ↔ ((w.slot b).tfm = none → ¬bad (.slot b)) ∧
      ∀ t, (w.slot b).tfm = some t →
        (w.env.fault w.steps = none →
          Q () (w.tick.putSlot b { w.slot b with tfm := some { t with key := k } })) ∧
        ∀ e, w.env.fault w.steps = some e → I (-e.code) w.tick := by
  unfold setkey
  rw [safe_bind, safe_getSlot]
  cases (w.slot b).tfm <;> simp

@[simp] theorem safe_init {b : Alg} {Q : Unit → World → Prop} :
    Safe I bad (init b) Q w ↔ ((w.slot b).paired? = none → ¬bad (.slot b)) ∧
      ∀ t d, (w.slot b).paired? = some (t, d) →
        (w.env.fault w.steps = none →
          Q () (w.tick.putSlot b ⟨some t, some { d with key := t.key, data := [] }⟩)) ∧
        ∀ e, w.env.fault w.steps = some e → I (-e.code) w.tick := by
  simp [init, safe_descOf]

@[simp] theorem safe_update {b : Alg} {data : List UInt8} {Q : Unit → World → Prop} :
    Safe I bad (update b data) Q w ↔ ((w.slot b).paired? = none → ¬bad (.slot b)) ∧
      ∀ t d, (w.slot b).paired? = some (t, d) →
        (w.env.fault w.steps = none →
          Q () (w.tick.putSlot b ⟨some t, some { d with data := d.data ++ data }⟩)) ∧
        ∀ e, w.env.fault w.steps = some e → I (-e.code) w.tick := by
  simp [update, safe_descOf]

@[simp] theorem safe_final {P : Prims} {b : Alg} {Q : ByteBuf b.digestSize → World → Prop} :
    Safe I bad (final P b) Q w ↔ ((w.slot b).paired? = none → ¬bad (.slot b)) ∧
      ∀ t d, (w.slot b).paired? = some (t, d) →
        (w.env.fault w.steps = none → Q (P.digest b d.key d.data) w.tick) ∧
        ∀ e, w.env.fault w.steps = some e → I (-e.code) w.tick := by
  simp [final, safe_descOf]

/-- A call ends in undefined behaviour `why` exactly when it is safe against every other
outcome. -/
theorem eq_ub_iff_safe {x : M α} {why : Ub} :
    x w = .ub why ↔ Safe (fun _ _ => False) (· ≠ why) x (fun _ _ => False) w := by
  unfold Safe
  cases x w <;> simp

/-- A call leaves through an error exit with code `rc` exactly when it is safe against every
other outcome. -/
theorem exists_err_iff_safe {x : M α} {rc : Int} :
    (∃ w', x w = .err rc w') ↔ Safe (fun rc' _ => rc' = rc) (fun _ => True) x (fun _ _ => False) w := by
  unfold Safe
  cases x w <;> simp

/-- A call that returns normally is safe for whatever holds of its return. -/
theorem Runs.safe {x : M α} {R : α → World → Prop} (hx : Runs x Q w) (hq : ∀ a w', Q a w' → R a w') :
    Safe I bad x R w := by
  obtain ⟨a, w', hx, h⟩ := hx
  rw [safe_ok hx]
  exact hq a w' h

end Safe

/-! ## The allocators -/

section Alloc

variable {w : World} {Q : Unit → World → Prop} {b : Alg} {sentinel : Sentinel}

/-- An allocator has no undefined behaviour. A normal return and an error exit leave the
world as it was apart from the allocation count and the allocator's own slot, and an error
exit has a negative code. -/
theorem safe_cryptoShashAlloc {I : Int → World → Prop} {bad : Ub → Prop}
    (hq : ∀ k s, Q () ((w.withAllocs k).putSlot b s))
    (hi : ∀ rc k s, rc < 0 → I rc ((w.withAllocs k).putSlot b s)) :
    Safe I bad (cryptoShashAlloc b sentinel) Q w := by
  unfold cryptoShashAlloc
  simp only [safe_bind, safe_getSlot, safe_ite, safe_pure, safe_allocate]
  refine ⟨fun _ => by simpa using hq w.allocs (w.slot b), fun _ => ?_⟩
  cases w.allocAnswer with
  | error e => exact hi _ _ _ (Errno.neg_code_lt_zero e)
  | ok _ =>
    simp only [safe_bind, safe_allocate]
    cases w.allocTick.allocAnswer
    · exact hi _ _ _ (by decide)
    · exact hq _ _

theorem okSpec_cryptoShashAlloc (h : ∀ k s, Q () ((w.withAllocs k).putSlot b s)) :
    OkSpec (cryptoShashAlloc b sentinel) Q w :=
  (safe_cryptoShashAlloc h fun _ _ _ _ => trivial :
    Safe (fun _ _ => True) (fun _ => False) _ Q w).okSpec

theorem errSpec_cryptoShashAlloc {Q : Int → World → Prop}
    (h : ∀ rc k s, rc < 0 → Q rc ((w.withAllocs k).putSlot b s)) :
    ErrSpec (cryptoShashAlloc b sentinel) Q w :=
  (safe_cryptoShashAlloc (fun _ _ => trivial) h :
    Safe Q (fun _ => False) _ (fun _ _ => True) w).errSpec

/-- With every allocation succeeding, an allocator returns normally from an empty or a
populated slot, and leaves it populated. -/
theorem runs_cryptoShashAlloc (hclean : ∀ n, w.env.allocFail n = none)
    (hslot : (w.slot b).Empty ∨ (w.slot b).Populated)
    (h : ∀ k s, s.Populated → Q () ((w.withAllocs k).putSlot b s)) :
    Runs (cryptoShashAlloc b sentinel) Q w := by
  unfold cryptoShashAlloc
  simp only [runs_bind, runs_getSlot, runs_ite]
  split
  · rename_i hset
    have hp : (w.slot b).Populated := by
      rcases hslot with ⟨ht, hd⟩ | hp
      · cases sentinel <;> simp_all [Sentinel.isSet]
      · exact hp
    simpa using h w.allocs (w.slot b) hp
  · simp [runs_allocate, World.allocAnswer, World.allocTick, hclean]
    exact h _ _ (Slot.fresh_populated _ _)

end Alloc

end KsmbdAuth
