import KsmbdAuth.Machine

/-!
# The NTLM verifiers

`process_ntlm` checks an NTLMv1 response and `process_ntlmv2` an NTLMv2 one. On the way,
each writes the session key: `process_ntlm` directly, `process_ntlmv2` through
`compute_sess_key`. The helpers they call from outside `auth.c` (`E_P24`, `smb_mdfour`,
the UTF-16 conversions, `strncmp`, `memcmp`, `kzalloc`) are modelled first. Each can fail
or read past its buffer exactly where the C one can.
-/

namespace KsmbdAuth

/-! ## Helpers from outside `auth.c` -/

/-- `UNICODE_LEN(n)`: the bytes of `n` UTF-16 units. -/
def unicodeLen (n : Nat) : Nat := 2 * n

/-- The bytes of UTF-16 units as `put_unaligned_le16` writes them. -/
def utf16Bytes (units : List UInt16) : List UInt8 :=
  units.flatMap fun u => leBytes 2 u.toNat

/-- `UniStrupr`: upper-case the units before the first NUL unit. -/
def uniStrupr (P : Prims) (units : List UInt16) : List UInt16 :=
  (units.takeWhile (· ≠ 0)).map P.toUpper ++ units.dropWhile (· ≠ 0)

/-- The kernel's `strncmp(buf + off, key, key.length)`. It stops at the first difference
or at a NUL byte of both strings, and is `none` when it reads past `buf`. -/
def strncmp (buf : List UInt8) (off : Nat) : List UInt8 → Option Int
  | [] => some 0
  | c :: rest =>
    match buf.get? off with
    | none => none
    | some b =>
      if b ≠ c then some (if b < c then -1 else 1)
      else if b = 0 then some 0
      else strncmp buf (off + 1) rest

/-- The kernel's `memcmp`: the difference of the first pair of bytes that differ. -/
def memcmp : List UInt8 → List UInt8 → Int
  | a :: as, b :: bs => if a = b then memcmp as bs else (a.toNat : Int) - b.toNat
  | _, _ => 0

/-- `kzalloc(size, GFP_KERNEL)`: whether the allocation succeeded. A size the kernel
refuses outright gives `NULL` without an allocation; any other allocation may fail. -/
def kzalloc (size : Nat) : M Bool := do
  if ← refusesSize size then pure false else
  match ← allocate with
  | .ok _ => pure true
  | .error _ => pure false

/-- Modelled from the spec: `smb_strtoUTF16(to, from, len, local_nls)` into a buffer of
`size` bytes. It gives the UTF-16 units of the name, and it is undefined when those units
and the NUL unit written after them do not fit. -/
def smbStrtoUtf16 (P : Prims) (size : Nat) (src : List UInt8) : M (List UInt16) :=
  if unicodeLen ((P.toUtf16 src).length + 1) ≤ size then pure (P.toUtf16 src)
  else undefined .writePast

/-- Modelled from the spec: `smb_strndup_from_utf16(buf + off, maxlen, true, local_nls)`,
the domain string decoded from the UTF-16 bytes of a security buffer into new memory, or
`NULL` when that memory cannot be had. -/
def smbStrndupFromUtf16 (P : Prims) (buf : List UInt8) (off maxlen : Nat) :
    M (Option (List UInt8)) := do
  let src ← defined .readPast (readBytes buf off maxlen)
  match ← allocate with
  | .ok _ => pure (some (P.fromUtf16 src))
  | .error _ => pure none

/-- Modelled from the spec: `E_P24(p21, c8, p24)`, the DES-based NTLMv1 response. It can
fail like any primitive step. -/
def eP24 (P : Prims) (p21 c8 : List UInt8) : M (ByteBuf 24) := do
  stepAnswer
  pure (P.eP24 p21 c8)

/-- Modelled from the spec: `smb_mdfour(sess->sess_key, src, len)`, the legacy hash of the
credential, written into the front of the session key. It returns its error code and
writes nothing when it fails. -/
def smbMdfour (P : Prims) (src : List UInt8) : M Int := do
  match ← nextFault with
  | some e => pure (-e.code)
  | none => do
    modifySess fun s => s.setSessKey 0 (P.mdfour src) (by decide)
    pure 0

/-! ## `auth.c` -/

/-- `compute_sess_key(sess, hash, hmac)`: `sess_key[0..16) = HMAC-MD5(hash, hmac)`. -/
def computeSessKey (P : Prims) (hash hmac : ByteBuf 16) : M Unit := do
  cryptoHmacmd5Alloc
  setkey .hmacmd5 (hash.bytes.take cifsHmacMd5HashSize)
  init .hmacmd5
  update .hmacmd5 (hmac.bytes.take smb2NtlmV2SesskeySize)
  let d ← final P .hmacmd5
  modifySess fun s => s.setSessKey 0 d (by decide)

/-- `calc_ntlmv2_hash(sess, ntlmv2_hash, dname)`: HMAC-MD5 under the NT hash of the
upper-cased UTF-16 user name and the UTF-16 domain name. A `NULL` `dname` makes `strlen`
undefined. -/
def calcNtlmv2Hash (P : Prims) (dname : Option (List UInt8)) :
    M (ByteBuf Alg.hmacmd5.digestSize) := do
  let s ← getSlot .hmacmd5
  match s.sdesc with
  | none => fail (-1)
  | some _ => do
    let sess ← getSess
    setkey .hmacmd5 (sess.usr.passkey.bytes.take cifsEncpwdSize)
    init .hmacmd5
    let len := sess.usr.name.length
    if !(← kzalloc (2 + unicodeLen len)) then fail (-enomem) else do
      let units ← if len = 0 then pure [] else do
        let u ← smbStrtoUtf16 P (2 + unicodeLen len) sess.usr.name
        pure (uniStrupr P u)
      update .hmacmd5 (utf16Bytes units)
      let d ← defined .nullDeref dname
      if !(← kzalloc (2 + unicodeLen d.length)) then fail (-enomem) else do
        let dunits ← smbStrtoUtf16 P (2 + unicodeLen d.length) d
        update .hmacmd5 (utf16Bytes dunits)
        final P .hmacmd5

/-- `process_ntlm(sess, pw_buf)` with `pw_buf` at byte `off` of `buf`. It writes the
session key and the sequence number, then compares the response with `strncmp`. -/
def processNtlm (P : Prims) (buf : List UInt8) (off : Nat) : M Unit := do
  let sess ← getSess
  let p21 := sess.usr.passkey.bytes.take cifsNthashSize ++ List.replicate 5 0
  let key ← eP24 P p21 sess.cryptkey.bytes
  let _ ← smbMdfour P (sess.usr.passkey.bytes.take cifsSmb1SesskeySize)
  modifySess fun s => { s.setSessKey cifsSmb1SesskeySize key (by decide) with
    sequenceNumber := 1 }
  let r ← defined .readPast (strncmp buf off key.bytes)
  if r ≠ 0 then fail (-einval) else pure ()

/-- `process_ntlmv2(sess, ntlmv2, blen, domain_name)` with the response at byte `off` of
`buf`. Both branches of `domain_name == netbios_name` hash the same string. -/
def processNtlmv2 (P : Prims) (buf : List UInt8) (off : Nat) (blen : Int)
    (domainName : Option (List UInt8)) : M Unit := do
  cryptoHmacmd5Alloc
  let ntlmv2Hash ← calcNtlmv2Hash P domainName
  setkey .hmacmd5 (ntlmv2Hash.bytes.take cifsHmacMd5HashSize)
  init .hmacmd5
  let len : Int := cifsCryptoKeySize + blen
  if !(← kzalloc (toSizeT len)) then fail (-enomem) else do
    let sess ← getSess
    if toSizeT len < cifsCryptoKeySize then undefined .writePast else do
      let blob ← defined .readPast (readBytes buf (off + cifsEncpwdSize) (toSizeT blen))
      if toSizeT len < cifsCryptoKeySize + toSizeT blen then undefined .writePast else do
        let count := (len % 2 ^ 32).toNat
        if toSizeT len < count then undefined .readPast else do
          update .hmacmd5 ((sess.cryptkey.bytes ++ blob).take count)
          let ntlmv2Rsp ← final P .hmacmd5
          computeSessKey P ntlmv2Hash ntlmv2Rsp
          let proof ← defined .readPast (readBytes buf off cifsHmacMd5HashSize)
          check (memcmp proof ntlmv2Rsp.bytes)

end KsmbdAuth
