import Mathlib.Data.List.Basic
import Mathlib.Algebra.Group.Nat.Basic
import Mathlib.Algebra.Group.Int

/-!
# Bytes, host byte order and the constants of `auth.c`

`auth.c` reads and writes NTLMSSP messages by overlaying packed structs on a byte
buffer, so what a field holds depends on the host's byte order. This file fixes the
vocabulary every later file is written in:

* `ByteBuf n`, a C array `u8 name[n]`; its length is part of the value;
* `leValue` / `leBytes`, the little-endian reading and writing of an integer field, and
  `Endian.load` / `Endian.store` / `Endian.cpuToLe`, the native loads, native stores and
  `cpu_to_leN` of a host of either byte order;
* `readBytes` / `writeBytes`, access to a received or caller-owned buffer. Both are `none`
  when the access runs past the end of the buffer, which is undefined behaviour in C;
* the sizes, offsets and flag values that `auth.c` takes from headers that are not under
  `src/` (`glob.h`, `ntlmssp.h`, `smb2pdu.h`).
-/

namespace KsmbdAuth

/-! ## Fixed-size byte arrays -/

/-- A C array `u8 name[n]`. -/
structure ByteBuf (n : Nat) where
  bytes : List UInt8
  length_eq : bytes.length = n
  deriving DecidableEq, Repr

/-- Two arrays of one size are equal when their bytes are. -/
@[ext] theorem ByteBuf.ext {n : Nat} {a b : ByteBuf n} (h : a.bytes = b.bytes) : a = b := by
  cases a
  cases b
  cases h
  rfl

/-- The all-zero array, as `memset(buf, 0, n)` or `kzalloc` leave it. -/
def ByteBuf.zero (n : Nat) : ByteBuf n := ⟨List.replicate n 0, List.length_replicate n 0⟩

/-- `memcpy(buf + off, src, len)` for a copy that stays inside the array. -/
def ByteBuf.write (b : ByteBuf n) (off : Nat) (src : List UInt8) (h : off + src.length ≤ n) :
    ByteBuf n :=
  ⟨b.bytes.take off ++ src ++ b.bytes.drop (off + src.length), by
    have := b.length_eq
    simp only [List.length_append, List.length_take, List.length_drop]
    omega⟩

@[simp] theorem ByteBuf.write_bytes (b : ByteBuf n) (off : Nat) (src : List UInt8)
    (h : off + src.length ≤ n) :
    (b.write off src h).bytes = b.bytes.take off ++ src ++ b.bytes.drop (off + src.length) := rfl

/-! ## Integer fields

A wire field of `w` bytes holds its value least significant byte first. A host reads and
writes its own integers in its own order, so a `__le16` field read without
`le16_to_cpu` gives the wire value only on a little-endian host. -/

/-- The value of a little-endian byte string. -/
def leValue : List UInt8 → Nat
  | [] => 0
  | b :: rest => b.toNat + 256 * leValue rest

/-- The `w` bytes, least significant first, of `n` reduced modulo `256 ^ w`. -/
def leBytes : Nat → Nat → List UInt8
  | 0, _ => []
  | w + 1, n => UInt8.ofNat n :: leBytes w (n / 256)

@[simp] theorem leValue_nil : leValue [] = 0 := rfl

@[simp] theorem leValue_cons (b : UInt8) (rest : List UInt8) :
    leValue (b :: rest) = b.toNat + 256 * leValue rest := rfl

@[simp] theorem length_leBytes (w n : Nat) : (leBytes w n).length = w := by
  induction w generalizing n with
  | zero => rfl
  | succ w ih => simp [leBytes, ih]

theorem leValue_leBytes (w n : Nat) : leValue (leBytes w n) = n % 256 ^ w := by
  induction w generalizing n with
  | zero => simp [leBytes, Nat.mod_one]
  | succ w ih =>
    have hbyte : (UInt8.ofNat n).toNat = n % 256 := rfl
    rw [leBytes, leValue_cons, ih, hbyte, Nat.pow_succ', Nat.mod_mul]

/-- A little-endian byte string holds less than `256 ^ length`. -/
theorem leValue_lt : ∀ bs : List UInt8, leValue bs < 256 ^ bs.length
  | [] => by simp
  | b :: rest => by
    have h := leValue_lt rest
    have hb : b.toNat < 256 := b.val.isLt
    rw [leValue_cons, List.length_cons, Nat.pow_succ]
    omega

/-- The bytes of a value are those of its residue. -/
theorem leBytes_mod (w n : Nat) : leBytes w (n % 256 ^ w) = leBytes w n := by
  induction w generalizing n with
  | zero => rfl
  | succ w ih =>
    have hbyte : UInt8.ofNat (n % 256 ^ (w + 1)) = UInt8.ofNat n :=
      UInt8.eq_of_val_eq (Fin.ext (show n % 256 ^ (w + 1) % 256 = n % 256 by
        rw [Nat.pow_succ, Nat.mod_mul_left_mod]))
    have hrest : n % 256 ^ (w + 1) / 256 = n / 256 % 256 ^ w := by
      rw [Nat.pow_succ', Nat.mod_mul_right_div_self]
    rw [leBytes, leBytes, hbyte, hrest, ih]

/-- The byte order of the host `auth.c` is compiled for. -/
inductive Endian where
  | little
  | big
  deriving DecidableEq, Repr

/-- What a native load of the bytes `bs` gives. -/
def Endian.load : Endian → List UInt8 → Nat
  | .little, bs => leValue bs
  | .big, bs => leValue bs.reverse

/-- The bytes a native store of the `w`-byte value `n` writes. -/
def Endian.store : Endian → Nat → Nat → List UInt8
  | .little, w, n => leBytes w n
  | .big, w, n => (leBytes w n).reverse

/-- `cpu_to_leN(x)` (and `leN_to_cpu`, the same byte swap): the native value whose bytes in
memory are the little-endian bytes of `x`. -/
def Endian.cpuToLe (e : Endian) (w x : Nat) : Nat := e.load (leBytes w x)

@[simp] theorem length_store (e : Endian) (w n : Nat) : (e.store w n).length = w := by
  cases e <;> simp [Endian.store]

/-- A little-endian host loads the wire value. -/
@[simp] theorem load_little (bs : List UInt8) : Endian.little.load bs = leValue bs := rfl

/-- A native load of `n` bytes holds less than `256 ^ n`, in either byte order. -/
theorem Endian.load_lt (e : Endian) (bs : List UInt8) : e.load bs < 256 ^ bs.length := by
  cases e
  · exact leValue_lt bs
  · simpa only [Endian.load, List.length_reverse] using leValue_lt bs.reverse

/-- On a little-endian host `cpu_to_leN` is the identity below `256 ^ w`. -/
theorem cpuToLe_little (w x : Nat) : Endian.little.cpuToLe w x = x % 256 ^ w :=
  leValue_leBytes w x

/-! ## Buffers -/

/-- The `n` bytes at `off` of a buffer, or `none` when they run past its end. -/
def readBytes (buf : List UInt8) (off n : Nat) : Option (List UInt8) :=
  if off + n ≤ buf.length then some ((buf.drop off).take n) else none

/-- `memcpy(buf + off, src, src.length)`, or `none` when the copy runs past the buffer. -/
def writeBytes (buf : List UInt8) (off : Nat) (src : List UInt8) : Option (List UInt8) :=
  if off + src.length ≤ buf.length then
    some (buf.take off ++ src ++ buf.drop (off + src.length))
  else none

theorem readBytes_eq_some {buf : List UInt8} {off n : Nat} {bs : List UInt8} :
    readBytes buf off n = some bs ↔ off + n ≤ buf.length ∧ (buf.drop off).take n = bs := by
  unfold readBytes
  split <;> simp_all

theorem readBytes_of_le {buf : List UInt8} {off n : Nat} (h : off + n ≤ buf.length) :
    readBytes buf off n = some ((buf.drop off).take n) :=
  readBytes_eq_some.mpr ⟨h, rfl⟩

@[simp] theorem readBytes_eq_none {buf : List UInt8} {off n : Nat} :
    readBytes buf off n = none ↔ buf.length < off + n := by
  unfold readBytes
  split <;> simp_all

theorem length_of_readBytes {buf : List UInt8} {off n : Nat} {bs : List UInt8}
    (h : readBytes buf off n = some bs) : bs.length = n := by
  obtain ⟨hle, rfl⟩ := readBytes_eq_some.mp h
  simp only [List.length_take, List.length_drop]
  omega

section Parts

/-! Accesses to a buffer made of parts: an access inside one part is an access to that part.
These let a run of writes be followed part by part. -/

variable {a b buf src : List UInt8} {off n : Nat}

theorem writeBytes_of_le (h : off + src.length ≤ buf.length) :
    writeBytes buf off src = some (buf.take off ++ src ++ buf.drop (off + src.length)) :=
  if_pos h

/-- A write at the front replaces as many bytes as it writes. -/
theorem writeBytes_zero (h : src.length ≤ buf.length) :
    writeBytes buf 0 src = some (src ++ buf.drop src.length) := by
  rw [writeBytes_of_le (by omega), List.take_zero, List.nil_append, Nat.zero_add]

/-- A write inside the first part leaves the second part. -/
theorem writeBytes_append_left (h : off + src.length ≤ a.length) :
    writeBytes (a ++ b) off src = (writeBytes a off src).map (· ++ b) := by
  rw [writeBytes_of_le (by simp only [List.length_append]; omega), writeBytes_of_le h,
    List.take_append_of_le_length (by omega), List.drop_append_of_le_length h]
  simp

/-- A write past the first part leaves the first part. -/
theorem writeBytes_append_right (h : a.length ≤ off) :
    writeBytes (a ++ b) off src = (writeBytes b (off - a.length) src).map (a ++ ·) := by
  unfold writeBytes
  by_cases hb : off - a.length + src.length ≤ b.length
  · rw [if_pos (by simp only [List.length_append]; omega), if_pos hb]
    have hoff : off = a.length + (off - a.length) := by omega
    rw [hoff, List.take_append, Nat.add_assoc, List.drop_append, Nat.add_sub_cancel_left]
    simp
  · rw [if_neg (by simp only [List.length_append]; omega), if_neg hb]
    rfl

/-- A buffer reads back whole. -/
theorem readBytes_self : readBytes buf 0 buf.length = some buf := by
  rw [readBytes_of_le (by omega), List.drop_zero, List.take_length]

theorem readBytes_append_left (h : off + n ≤ a.length) :
    readBytes (a ++ b) off n = readBytes a off n := by
  rw [readBytes_of_le (by simp only [List.length_append]; omega), readBytes_of_le h,
    List.drop_append_of_le_length (by omega), List.take_append_of_le_length (by simp; omega)]

theorem readBytes_append_right (h : a.length ≤ off) :
    readBytes (a ++ b) off n = readBytes b (off - a.length) n := by
  have hoff : off = a.length + (off - a.length) := by omega
  unfold readBytes
  rw [hoff, List.drop_append, Nat.add_sub_cancel_left, List.length_append]
  by_cases hb : off - a.length + n ≤ b.length
  · rw [if_pos (by omega), if_pos hb]
  · rw [if_neg (by omega), if_neg hb]

/-- A write into the buffer after its first `k` bytes. -/
theorem writeBytes_drop {l : List UInt8} {k : Nat} (h : k + off + src.length ≤ l.length) :
    writeBytes (l.drop k) off src =
      some ((l.drop k).take off ++ (src ++ l.drop (k + off + src.length))) := by
  rw [writeBytes_of_le (by simp; omega), List.drop_drop, List.append_assoc, ← Nat.add_assoc]

/-- A write into the `n` bytes of the buffer after its first `k` bytes. -/
theorem writeBytes_take_drop {l : List UInt8} {k : Nat} (h : off + src.length ≤ n)
    (h' : k + n ≤ l.length) :
    writeBytes ((l.drop k).take n) off src =
      some ((l.drop k).take off ++
        (src ++ (l.drop (k + off + src.length)).take (n - (off + src.length)))) := by
  rw [writeBytes_of_le (by simp; omega), List.take_take, Nat.min_eq_left (by omega),
    List.drop_take, List.drop_drop, List.append_assoc, Nat.add_comm k, Nat.add_comm (off + _),
    ← Nat.add_assoc]

theorem readBytes_prefix (h : a.length = n) : readBytes (a ++ b) 0 n = some a := by
  rw [readBytes_append_left (by omega), ← h, readBytes_self]

/-- A write that runs past the buffer is undefined. -/
theorem writeBytes_eq_none (h : buf.length < off + src.length) :
    writeBytes buf off src = none :=
  if_neg (by omega)

end Parts

/-- The C conversion of an `int` to the 64-bit `size_t` that `kzalloc` and `memcpy` take. -/
def toSizeT (x : Int) : Nat := (x % 2 ^ 64).toNat

theorem toSizeT_of_nonneg {x : Int} (h0 : 0 ≤ x) (h : x < 2 ^ 64) : toSizeT x = x.toNat := by
  unfold toSizeT
  rw [Int.emod_eq_of_lt h0 h]

/-! ## Constants

The header files of the server are not under `src/`. The sizes below are the key-size table
of the spec (§6). The message layouts and flag values are those of the NTLMSSP wire format
the spec describes there: an 8-byte signature, a 4-byte message type, then
`{length:u16, max_length:u16, offset:u32}` security buffers. -/

/-- Modelled from the spec: `CIFS_CRYPTO_KEY_SIZE`, the server challenge (8 bytes). -/
def cifsCryptoKeySize : Nat := 8

/-- Modelled from the spec: `CIFS_AUTH_RESP_SIZE`, the NTLMv1 response (24 bytes). -/
def cifsAuthRespSize : Nat := 24

/-- Modelled from the spec: `CIFS_NTHASH_SIZE`, the NT hash (16 bytes). -/
def cifsNthashSize : Nat := 16

/-- Modelled from the spec: `CIFS_ENCPWD_SIZE`, the NT hash and the NTLMv2 proof (16 bytes). -/
def cifsEncpwdSize : Nat := 16

/-- Modelled from the spec: `CIFS_HMAC_MD5_HASH_SIZE`, the NTLMv2 hash (16 bytes). -/
def cifsHmacMd5HashSize : Nat := 16

/-- Modelled from the spec: `CIFS_SMB1_SESSKEY_SIZE`, the legacy hash part of the session
key (16 of its 40 bytes). -/
def cifsSmb1SesskeySize : Nat := 16

/-- Modelled from the spec: the size of `sess->sess_key` (40 bytes, 16 + 24 used). -/
def cifsKeySize : Nat := 40

/-- Modelled from the spec: `SMB2_NTLMV2_SESSKEY_SIZE`, the SMB2/3 session key (16 bytes). -/
def smb2NtlmV2SesskeySize : Nat := 16

/-- Modelled from the spec: `SMB2_HMACSHA256_SIZE`, the HMAC-SHA256 output (32 bytes). -/
def smb2HmacSha256Size : Nat := 32

/-- Modelled from the spec: `SMB2_CMACAES_SIZE`, the CMAC-AES key (16 bytes). -/
def smb2CmacAesSize : Nat := 16

/-- Modelled from the spec: the size of a preauth integrity hash value (64 bytes). -/
def preauthHashSize : Nat := 64

/-- Modelled from the spec: `sizeof(NEGOTIATE_MESSAGE)`: signature, type, flags and two
security buffers. -/
def negotiateMessageSize : Nat := 32

/-- Modelled from the spec: `sizeof(AUTHENTICATE_MESSAGE)`: signature, type, six security
buffers and the flags. -/
def authenticateMessageSize : Nat := 64

/-- Modelled from the spec: `sizeof(CHALLENGE_MESSAGE)`: signature, type, target name,
flags, challenge, reserved and target info. -/
def challengeMessageSize : Nat := 48

/-- Modelled from the spec: `NTLMSSP_SIGNATURE`, `"NTLMSSP"` with its terminating NUL. -/
def ntlmsspSignature : List UInt8 := [0x4e, 0x54, 0x4c, 0x4d, 0x53, 0x53, 0x50, 0x00]

/-- Modelled from the spec: `NtLmChallenge`, `cpu_to_le32(2)`, the message type of a
CHALLENGE as the host stores it so that the wire holds 2 little-endian. -/
def ntLmChallenge (e : Endian) : Nat := e.cpuToLe 4 2

/-- Modelled from the spec: `NTLMSSP_NEGOTIATE_UNICODE`. -/
def ntlmsspNegotiateUnicode : Nat := 0x00000001

/-- Modelled from the spec: `NTLMSSP_REQUEST_TARGET`. -/
def ntlmsspRequestTarget : Nat := 0x00000004

/-- Modelled from the spec: `NTLMSSP_NEGOTIATE_NTLM`. -/
def ntlmsspNegotiateNtlm : Nat := 0x00000200

/-- Modelled from the spec: `NTLMSSP_TARGET_TYPE_SERVER`. -/
def ntlmsspTargetTypeServer : Nat := 0x00020000

/-- Modelled from the spec: `NTLMSSP_NEGOTIATE_TARGET_INFO`. -/
def ntlmsspNegotiateTargetInfo : Nat := 0x00800000

/-- Modelled from the spec: `NTLMSSP_NEGOTIATE_VERSION`. -/
def ntlmsspNegotiateVersion : Nat := 0x02000000

/-- Modelled from the spec: `NTLMSSP_NEGOTIATE_128`. -/
def ntlmsspNegotiate128 : Nat := 0x20000000

/-- Modelled from the spec: `NTLMSSP_NEGOTIATE_56`. -/
def ntlmsspNegotiate56 : Nat := 0x80000000

/-- Modelled from the spec: `NTLMSSP_AV_NB_COMPUTER_NAME`, the first target-info type. -/
def ntlmsspAvNbComputerName : Nat := 1

/-- Modelled from the spec: `NTLMSSP_AV_DNS_DOMAIN_NAME`, the last target-info type. -/
def ntlmsspAvDnsDomainName : Nat := 4

/-- Modelled from the spec: `SMB311_PROT_ID`, the SMB 3.1.1 dialect. -/
def smb311ProtId : Nat := 0x0311

/-- Modelled from the spec: `SMB2_PREAUTH_INTEGRITY_SHA512`, the SHA-512 hash id. -/
def smb2PreauthIntegritySha512 : Int := 1

/-- Modelled from the spec: `EINVAL`. -/
def einval : Int := 22

/-- Modelled from the spec: `ENOMEM`. -/
def enomem : Int := 12

end KsmbdAuth
