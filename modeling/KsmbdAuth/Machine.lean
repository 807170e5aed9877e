import KsmbdAuth.Wire

/-!
# The connection, the session, and the kernel calls `auth.c` makes

A function of `auth.c` runs on a connection (`struct tcp_server_info`) and a session
(`struct cifssrv_sess`), and calls out to the kernel: the crypto API
(`crypto_alloc_shash`, `crypto_shash_setkey/init/update/final`), the allocators
(`kmalloc`, `kzalloc`) and `get_random_bytes`. This file models that world:

* `Secmech`, the five cached transforms of `server->secmech`. Each `Slot` holds a transform
  pointer and a descriptor pointer, and the descriptor keeps the key it was initialised
  under and the bytes fed to it since. `Prims.digest` is the hash a `final` returns;
* `Env`, the rest of the kernel's answers: whether the `n`-th allocation or the `n`-th
  primitive step of the call fails, the addresses allocations return, and the random
  bytes. Every pattern of failures is some `Env`;
* `Res` and the monad `M`: a call returns, leaves through an error exit with its C return
  code, or has undefined behaviour (a `NULL` dereference, an access past a buffer);
* the crypto steps `setkey`, `init`, `update`, `final`, and `cryptoShashAlloc`, the body
  the five `crypto_*_alloc` functions share.
-/

namespace KsmbdAuth

/-! ## Errors and the primitives -/

/-- A kernel error number: a call that fails with it returns `-code`. -/
structure Errno where
  code : Nat
  pos : 0 < code
  deriving DecidableEq, Repr

@[simp] theorem Errno.code_pos (e : Errno) : 0 < e.code := e.pos

theorem Errno.neg_code_lt_zero (e : Errno) : -(e.code : Int) < 0 := by
  have := e.pos
  omega

/-- The five transforms a connection caches. -/
inductive Alg where
  | md5
  | hmacmd5
  | hmacsha256
  | cmacaes
  | sha512
  deriving DecidableEq, Repr

/-- The digest size of each transform. -/
def Alg.digestSize : Alg → Nat
  | .md5 => 16
  | .hmacmd5 => 16
  | .hmacsha256 => 32
  | .cmacaes => 16
  | .sha512 => 64

/-- The functions `auth.c` uses as black boxes: the five hashes and MACs of the crypto API,
`E_P24` and `smb_mdfour` of the NTLM code, and the `local_nls` conversions between the
server's charset and UTF-16 (`smb_strtoUTF16`, `UniToupper`, `smb_strndup_from_utf16`). -/
structure Prims where
  md5 : List UInt8 → ByteBuf 16
  hmacmd5 : List UInt8 → List UInt8 → ByteBuf 16
  hmacsha256 : List UInt8 → List UInt8 → ByteBuf 32
  cmacaes : List UInt8 → List UInt8 → ByteBuf 16
  sha512 : List UInt8 → ByteBuf 64
  eP24 : List UInt8 → List UInt8 → ByteBuf 24
  mdfour : List UInt8 → ByteBuf 16
  toUtf16 : List UInt8 → List UInt16
  toUtf16_length_le : ∀ s, (toUtf16 s).length ≤ s.length
  toUpper : UInt16 → UInt16
  fromUtf16 : List UInt8 → List UInt8

/-- What `crypto_shash_final` returns for a descriptor initialised under `key` and fed
`data`. MD5 and SHA-512 take no key. -/
def Prims.digest (P : Prims) : (a : Alg) → List UInt8 → List UInt8 → ByteBuf a.digestSize
  | .md5, _, data => P.md5 data
  | .hmacmd5, key, data => P.hmacmd5 key data
  | .hmacsha256, key, data => P.hmacsha256 key data
  | .cmacaes, key, data => P.cmacaes key data
  | .sha512, _, data => P.sha512 data

/-! ## The secmech slots -/

/-- A transform object, `struct crypto_shash`: its address and the key of its last
`setkey`. -/
structure Shash where
  addr : Nat
  key : List UInt8
  deriving DecidableEq, Repr

/-- A descriptor, `struct sdesc`: its address, its `shash.tfm` field, the key in force
when it was last initialised and the bytes fed to it since. -/
structure Sdesc where
  addr : Nat
  tfm : Nat
  key : List UInt8
  data : List UInt8
  deriving DecidableEq, Repr

/-- One transform's two pointers in `server->secmech`; `none` is `NULL`. -/
structure Slot where
  tfm : Option Shash
  sdesc : Option Sdesc
  deriving DecidableEq, Repr

/-- `server->secmech`. -/
structure Secmech where
  md5 : Slot
  hmacmd5 : Slot
  hmacsha256 : Slot
  cmacaes : Slot
  sha512 : Slot
  deriving DecidableEq, Repr

/-- The slot of a transform. -/
def Secmech.get (m : Secmech) : Alg → Slot
  | .md5 => m.md5
  | .hmacmd5 => m.hmacmd5
  | .hmacsha256 => m.hmacsha256
  | .cmacaes => m.cmacaes
  | .sha512 => m.sha512

/-- Replace the slot of a transform. -/
def Secmech.set (m : Secmech) : Alg → Slot → Secmech
  | .md5, s => { m with md5 := s }
  | .hmacmd5, s => { m with hmacmd5 := s }
  | .hmacsha256, s => { m with hmacsha256 := s }
  | .cmacaes, s => { m with cmacaes := s }
  | .sha512, s => { m with sha512 := s }

@[simp] theorem Secmech.get_set (m : Secmech) (a b : Alg) (s : Slot) :
    (m.set a s).get b = if b = a then s else m.get b := by
  cases a <;> cases b <;> rfl

@[simp] theorem Secmech.set_get (m : Secmech) (a : Alg) : m.set a (m.get a) = m := by
  cases a <;> rfl

@[simp] theorem Secmech.set_set (m : Secmech) (a : Alg) (s s' : Slot) :
    (m.set a s).set a s' = m.set a s' := by
  cases a <;> rfl

/-- Both pointers of a slot are `NULL`. -/
def Slot.Empty (s : Slot) : Prop := s.tfm = none ∧ s.sdesc = none

/-- Both pointers of a slot are set, and the descriptor's `shash.tfm` is the transform. -/
def Slot.Populated (s : Slot) : Prop :=
  ∃ t d, s.tfm = some t ∧ s.sdesc = some d ∧ d.tfm = t.addr

/-- The slot an allocator leaves: the transform at `t` with no key, and the descriptor at
`d` naming it, with nothing fed yet. -/
def Slot.fresh (t d : Nat) : Slot := ⟨some ⟨t, []⟩, some ⟨d, t, [], []⟩⟩

theorem Slot.fresh_populated (t d : Nat) : (Slot.fresh t d).Populated := ⟨_, _, rfl, rfl, rfl⟩

/-- A connection before its first allocation: every pointer `NULL`. -/
def Secmech.empty : Secmech :=
  ⟨⟨none, none⟩, ⟨none, none⟩, ⟨none, none⟩, ⟨none, none⟩, ⟨none, none⟩⟩

@[simp] theorem Secmech.get_empty (a : Alg) : Secmech.empty.get a = ⟨none, none⟩ := by
  cases a <;> rfl

/-! ## Connection, session and environment -/

/-- The fields of `struct tcp_server_info` that `auth.c` uses. -/
structure Server where
  secmech : Secmech
  dialect : Nat
  preauthHashValue : ByteBuf 64

/-- The fields of `struct cifssrv_usr`: the account name (the bytes before its NUL) and
the NT hash. -/
structure User where
  name : List UInt8
  passkey : ByteBuf 16

/-- The fields of `struct cifssrv_sess` that `auth.c` uses. -/
structure Sess where
  usr : User
  clientFlags : Nat
  cryptkey : ByteBuf 8
  sessKey : ByteBuf 40
  sequenceNumber : Nat
  preauthHashValue : ByteBuf 64

/-- `memcpy(sess->sess_key + off, src, k)` (or a digest written there by `final`). -/
def Sess.setSessKey (s : Sess) (off : Nat) {k : Nat} (src : ByteBuf k) (h : off + k ≤ 40) :
    Sess :=
  { s with sessKey := s.sessKey.write off src.bytes (by rw [src.length_eq]; exact h) }

section SetSessKey

variable (s : Sess) (off : Nat) {k : Nat} (src : ByteBuf k) (h : off + k ≤ 40)

@[simp] theorem Sess.setSessKey_usr : (s.setSessKey off src h).usr = s.usr := rfl
@[simp] theorem Sess.setSessKey_cryptkey : (s.setSessKey off src h).cryptkey = s.cryptkey := rfl
@[simp] theorem Sess.setSessKey_sequenceNumber :
    (s.setSessKey off src h).sequenceNumber = s.sequenceNumber := rfl

/-- A write at the front of the session key leaves the bytes after it as they were. -/
theorem Sess.setSessKey_zero_drop (h : 0 + k ≤ 40) :
    (s.setSessKey 0 src h).sessKey.bytes.drop k = s.sessKey.bytes.drop k := by
  simp [Sess.setSessKey, src.length_eq]

/-- A write at the front of the session key is read back by its first `k` bytes. -/
theorem Sess.setSessKey_zero_take (h : 0 + k ≤ 40) :
    (s.setSessKey 0 src h).sessKey.bytes.take k = src.bytes := by
  have hk := src.length_eq
  simp [Sess.setSessKey, List.take_append_eq_append_take, hk]

end SetSessKey

/-- What the kernel answers during one call: whether the `n`-th primitive step and the
`n`-th allocation fail, the address the `n`-th allocation returns, the bytes of
`get_random_bytes`, and the sizes `kzalloc` refuses outright, as a kernel refuses every
size above its `KMALLOC_MAX_SIZE`. -/
structure Env where
  fault : Nat → Option Errno
  allocFail : Nat → Option Errno
  allocAddr : Nat → Nat
  random : ByteBuf 8
  refuses : Nat → Bool

/-- The environment in which every allocation and every primitive step succeeds. -/
def Env.clean (random : ByteBuf 8) : Env :=
  ⟨fun _ => none, fun _ => none, fun n => n + 1, random, fun _ => false⟩

/-- Every allocation, whatever its size, and every primitive step succeeds. -/
structure Env.Clean (env : Env) : Prop where
  fault : ∀ n, env.fault n = none
  alloc : ∀ n, env.allocFail n = none
  size : ∀ n, env.refuses n = false

theorem Env.clean_Clean (random : ByteBuf 8) : (Env.clean random).Clean :=
  ⟨fun _ => rfl, fun _ => rfl, fun _ => rfl⟩

/-- Everything a call of `auth.c` observes or changes, with the number of primitive steps
and allocations made so far. -/
structure World where
  server : Server
  sess : Sess
  env : Env
  steps : Nat
  allocs : Nat

/-- The slot of a transform in the world's connection. -/
def World.slot (w : World) (a : Alg) : Slot := w.server.secmech.get a

/-- The world after one more primitive step. -/
def World.tick (w : World) : World := { w with steps := w.steps + 1 }

/-- The world with the slot of `a` replaced. -/
def World.putSlot (w : World) (a : Alg) (s : Slot) : World :=
  { w with server := { w.server with secmech := w.server.secmech.set a s } }

/-- The world with the session replaced. -/
def World.withSess (w : World) (s : Sess) : World := { w with sess := s }

/-- The world with the connection's `Preauth_HashValue` replaced. -/
def World.withPreauth (w : World) (h : ByteBuf 64) : World :=
  { w with server := { w.server with preauthHashValue := h } }

section WithPreauth

variable (w : World) (h : ByteBuf 64)

@[simp] theorem World.withPreauth_sess : (w.withPreauth h).sess = w.sess := rfl
@[simp] theorem World.withPreauth_env : (w.withPreauth h).env = w.env := rfl
@[simp] theorem World.withPreauth_steps : (w.withPreauth h).steps = w.steps := rfl
@[simp] theorem World.withPreauth_allocs : (w.withPreauth h).allocs = w.allocs := rfl
@[simp] theorem World.withPreauth_dialect : (w.withPreauth h).server.dialect = w.server.dialect :=
  rfl
@[simp] theorem World.withPreauth_preauth : (w.withPreauth h).server.preauthHashValue = h := rfl
@[simp] theorem World.slot_withPreauth (a : Alg) : (w.withPreauth h).slot a = w.slot a := rfl

end WithPreauth

@[simp] theorem World.withSess_sess (w : World) (s : Sess) : (w.withSess s).sess = s := rfl
@[simp] theorem World.withSess_env (w : World) (s : Sess) : (w.withSess s).env = w.env := rfl
@[simp] theorem World.withSess_steps (w : World) (s : Sess) : (w.withSess s).steps = w.steps := rfl
@[simp] theorem World.withSess_allocs (w : World) (s : Sess) :
    (w.withSess s).allocs = w.allocs := rfl
@[simp] theorem World.withSess_server (w : World) (s : Sess) :
    (w.withSess s).server = w.server := rfl
@[simp] theorem World.slot_withSess (w : World) (s : Sess) (a : Alg) :
    (w.withSess s).slot a = w.slot a := rfl

@[simp] theorem World.slot_putSlot (w : World) (a b : Alg) (s : Slot) :
    (w.putSlot a s).slot b = if b = a then s else w.slot b := by
  simp [World.slot, World.putSlot]

@[simp] theorem World.slot_tick (w : World) (a : Alg) : w.tick.slot a = w.slot a := rfl

/-- Ticks move inside slot writes, and a second write of a slot replaces the first, so the
worlds of a symbolic run stay small. -/
@[simp] theorem World.putSlot_tick (w : World) (a : Alg) (s : Slot) :
    (w.putSlot a s).tick = w.tick.putSlot a s := rfl

@[simp] theorem World.putSlot_putSlot (w : World) (a : Alg) (s s' : Slot) :
    (w.putSlot a s).putSlot a s' = w.putSlot a s' := by
  simp [World.putSlot]

@[simp] theorem World.putSlot_slot (w : World) (a : Alg) : w.putSlot a (w.slot a) = w := by
  simp [World.putSlot, World.slot]

/-- The world with the allocation count set to `k`. -/
def World.withAllocs (w : World) (k : Nat) : World := { w with allocs := k }

section WithAllocs

variable (w : World) (k : Nat)

@[simp] theorem World.withAllocs_sess : (w.withAllocs k).sess = w.sess := rfl
@[simp] theorem World.withAllocs_env : (w.withAllocs k).env = w.env := rfl
@[simp] theorem World.withAllocs_steps : (w.withAllocs k).steps = w.steps := rfl
@[simp] theorem World.withAllocs_allocs : (w.withAllocs k).allocs = k := rfl
@[simp] theorem World.withAllocs_server : (w.withAllocs k).server = w.server := rfl
@[simp] theorem World.slot_withAllocs (a : Alg) : (w.withAllocs k).slot a = w.slot a := rfl
@[simp] theorem World.putSlot_withAllocs (a : Alg) (s : Slot) :
    (w.putSlot a s).withAllocs k = (w.withAllocs k).putSlot a s := rfl
@[simp] theorem World.withAllocs_withAllocs (k' : Nat) :
    (w.withAllocs k).withAllocs k' = w.withAllocs k' := rfl
@[simp] theorem World.withAllocs_tick : (w.withAllocs k).tick = w.tick.withAllocs k := rfl
@[simp] theorem World.withAllocs_self : w.withAllocs w.allocs = w := rfl

end WithAllocs

@[simp] theorem World.tick_sess (w : World) : w.tick.sess = w.sess := rfl
@[simp] theorem World.tick_env (w : World) : w.tick.env = w.env := rfl
@[simp] theorem World.tick_steps (w : World) : w.tick.steps = w.steps + 1 := rfl
@[simp] theorem World.tick_allocs (w : World) : w.tick.allocs = w.allocs := rfl
@[simp] theorem World.tick_server (w : World) : w.tick.server = w.server := rfl
@[simp] theorem World.tick_dialect (w : World) : w.tick.server.dialect = w.server.dialect := rfl
@[simp] theorem World.tick_preauth (w : World) :
    w.tick.server.preauthHashValue = w.server.preauthHashValue := rfl
@[simp] theorem World.putSlot_sess (w : World) (a : Alg) (s : Slot) :
    (w.putSlot a s).sess = w.sess := rfl
@[simp] theorem World.putSlot_env (w : World) (a : Alg) (s : Slot) :
    (w.putSlot a s).env = w.env := rfl
@[simp] theorem World.putSlot_steps (w : World) (a : Alg) (s : Slot) :
    (w.putSlot a s).steps = w.steps := rfl
@[simp] theorem World.putSlot_allocs (w : World) (a : Alg) (s : Slot) :
    (w.putSlot a s).allocs = w.allocs := rfl
@[simp] theorem World.putSlot_dialect (w : World) (a : Alg) (s : Slot) :
    (w.putSlot a s).server.dialect = w.server.dialect := rfl
@[simp] theorem World.putSlot_preauth (w : World) (a : Alg) (s : Slot) :
    (w.putSlot a s).server.preauthHashValue = w.server.preauthHashValue := rfl

/-! ## Outcomes and the monad -/

/-- Why a call has undefined behaviour. -/
inductive Ub where
  /-- a crypto step on a slot whose transform or descriptor is `NULL`, or whose descriptor
  names a transform the slot no longer holds -/
  | slot (a : Alg)
  /-- a read past the end of a received buffer -/
  | readPast
  /-- a write past the end of a destination buffer -/
  | writePast
  /-- a `NULL` string given to `strlen` -/
  | nullDeref
  deriving DecidableEq, Repr

/-- How a call ends: it returns, it leaves through an error exit with its C return code,
or it has undefined behaviour. -/
inductive Res (α : Type) where
  | ok (a : α) (w : World)
  | err (rc : Int) (w : World)
  | ub (why : Ub)

/-- A call of `auth.c` from the world it starts in. -/
def M (α : Type) : Type := World → Res α

instance : Monad M where
  pure a := fun w => .ok a w
  bind x f := fun w =>
    match x w with
    | .ok a w' => f a w'
    | .err rc w' => .err rc w'
    | .ub why => .ub why

/-- `rc = ...; goto out;` with a nonzero `rc`. -/
def fail (rc : Int) : M α := fun w => .err rc w

/-- Undefined behaviour. -/
def undefined (why : Ub) : M α := fun _ => .ub why

/-- A value the C code computes, if the access it makes is defined. -/
def defined (why : Ub) (o : Option α) : M α := fun w =>
  match o with
  | some a => .ok a w
  | none => .ub why

/-- `if (rc) goto out;`. -/
def check (rc : Int) : M Unit := if rc = 0 then pure () else fail rc

/-- Read the session. -/
def getSess : M Sess := fun w => .ok w.sess w

/-- Change the session. -/
def modifySess (f : Sess → Sess) : M Unit := fun w => .ok () (w.withSess (f w.sess))

/-- Read the connection. -/
def getServer : M Server := fun w => .ok w.server w

/-- Read a secmech slot. -/
def getSlot (a : Alg) : M Slot := fun w => .ok (w.slot a) w

/-- Write a secmech slot. -/
def setSlot (a : Alg) (s : Slot) : M Unit := fun w => .ok () (w.putSlot a s)

/-- Write the connection's `Preauth_HashValue`. -/
def setPreauth (h : ByteBuf 64) : M Unit := fun w => .ok () (w.withPreauth h)

/-- Whether the kernel refuses an allocation of `size` bytes outright. -/
def refusesSize (size : Nat) : M Bool := fun w => .ok (w.env.refuses size) w

/-- The kernel's answer to the next primitive step, as a value. -/
def nextFault : M (Option Errno) := fun w => .ok (w.env.fault w.steps) w.tick

/-- The next primitive step: success, or an error exit with its code. -/
def stepAnswer : M Unit := do
  match ← nextFault with
  | none => pure ()
  | some e => fail (-e.code)

/-- The kernel's answer to the next allocation: an address, or an error number. -/
def allocate : M (Except Errno Nat) := fun w =>
  .ok (match w.env.allocFail w.allocs with
    | none => .ok (w.env.allocAddr w.allocs)
    | some e => .error e) { w with allocs := w.allocs + 1 }

/-- `get_random_bytes(buf, 8)`. -/
def getRandomBytes : M (ByteBuf 8) := fun w => .ok w.env.random w

/-! ## The crypto API on a slot -/

/-- A slot's transform and descriptor, when both are set and the descriptor names that
transform. -/
def Slot.paired? (s : Slot) : Option (Shash × Sdesc) :=
  match s.tfm, s.sdesc with
  | some t, some d => if d.tfm = t.addr then some (t, d) else none
  | _, _ => none

/-- A slot whose transform is set is paired through its descriptor, if any. -/
theorem Slot.paired?_mk_some (t : Shash) (sd : Option Sdesc) :
    Slot.paired? ⟨some t, sd⟩ = sd.bind fun d => if d.tfm = t.addr then some (t, d) else none := by
  cases sd <;> rfl

/-- The transform and descriptor of a slot, for a step that goes through the descriptor:
undefined when either is `NULL` or the descriptor names a transform the slot does not
hold. -/
def descOf (a : Alg) : M (Shash × Sdesc) := do
  let s ← getSlot a
  match s.paired? with
  | some p => pure p
  | none => undefined (.slot a)

/-- `crypto_shash_setkey(server->secmech.<a>, key, len)`. -/
def setkey (a : Alg) (key : List UInt8) : M Unit := do
  let s ← getSlot a
  match s.tfm with
  | none => undefined (.slot a)
  | some t => do
    stepAnswer
    setSlot a { s with tfm := some { t with key := key } }

/-- `crypto_shash_init(&server->secmech.sdesc<a>->shash)`: start a digest under the
transform's key. -/
def init (a : Alg) : M Unit := do
  let (t, d) ← descOf a
  stepAnswer
  setSlot a ⟨some t, some { d with key := t.key, data := [] }⟩

/-- `crypto_shash_update(&server->secmech.sdesc<a>->shash, data, len)`. -/
def update (a : Alg) (data : List UInt8) : M Unit := do
  let (t, d) ← descOf a
  stepAnswer
  setSlot a ⟨some t, some { d with data := d.data ++ data }⟩

/-- `crypto_shash_final(&server->secmech.sdesc<a>->shash, out)`. -/
def final (P : Prims) (a : Alg) : M (ByteBuf a.digestSize) := do
  let (_, d) ← descOf a
  stepAnswer
  pure (P.digest a d.key d.data)

/-! ## The allocators -/

/-- The pointer an allocator tests for "already allocated". -/
inductive Sentinel where
  | tfm
  | sdesc
  deriving DecidableEq, Repr

/-- Whether the sentinel pointer of a slot is set. -/
def Sentinel.isSet : Sentinel → Slot → Bool
  | .tfm, s => s.tfm.isSome
  | .sdesc, s => s.sdesc.isSome

/-- The body of the five `crypto_*_alloc` functions: return at once if the sentinel is
set; otherwise allocate the transform, then its descriptor, freeing the transform and
clearing both pointers if the descriptor cannot be had. -/
def cryptoShashAlloc (a : Alg) (sentinel : Sentinel) : M Unit := do
  let s ← getSlot a
  if sentinel.isSet s then pure () else do
    match ← allocate with
    | .error e => do
      setSlot a { s with tfm := none }
      fail (-e.code)
    | .ok t => do
      match ← allocate with
      | .error _ => do
        setSlot a ⟨none, none⟩
        fail (-enomem)
      | .ok d => setSlot a (Slot.fresh t d)

/-- `crypto_md5_alloc`: its check reads the transform pointer. -/
def cryptoMd5Alloc : M Unit := cryptoShashAlloc .md5 .tfm

/-- `crypto_hmacmd5_alloc`: its check reads the descriptor pointer. -/
def cryptoHmacmd5Alloc : M Unit := cryptoShashAlloc .hmacmd5 .sdesc

/-- `crypto_hmacsha256_alloc`: its check reads the transform pointer. -/
def cryptoHmacsha256Alloc : M Unit := cryptoShashAlloc .hmacsha256 .tfm

/-- `crypto_cmac_alloc`: its check reads the descriptor pointer. -/
def cryptoCmacAlloc : M Unit := cryptoShashAlloc .cmacaes .sdesc

/-- `crypto_sha512_alloc`: its check reads the descriptor pointer. -/
def cryptoSha512Alloc : M Unit := cryptoShashAlloc .sha512 .sdesc

end KsmbdAuth
