import KsmbdAuth.Machine

/-!
# Packet signing, SMB3 key derivation and the preauth hash

The four functions of `auth.c` that run once per PDU or once per session on a cached
transform. Each one allocates its slot first, sets the key if the transform is keyed,
initialises the descriptor and feeds it, and returns the digest. The exception is
`smb3_sign_smbpdu`, which uses the CMAC slot without allocating it. The preauth hash also
writes its digest through `pi_hash`, which may point at the connection's running hash.
-/

namespace KsmbdAuth

/-- The bytes of a string literal with its terminating NUL. -/
def cString (s : String) : List UInt8 := s.toList.map (fun c => c.toNat.toUInt8) ++ [0]

/-- `smb1_sign_smbpdu(sess, buf, sz, sig)`: MD5 over the first 40 bytes of the session key
and the PDU. -/
def smb1SignSmbpdu (P : Prims) (buf : List UInt8) : M (ByteBuf Alg.md5.digestSize) := do
  cryptoMd5Alloc
  init .md5
  let sess ← getSess
  update .md5 (sess.sessKey.bytes.take 40)
  update .md5 buf
  final P .md5

/-- `smb2_sign_smbpdu(sess, buf, sz, sig)`: HMAC-SHA256 of the PDU under the 16-byte
session key. -/
def smb2SignSmbpdu (P : Prims) (buf : List UInt8) : M (ByteBuf Alg.hmacsha256.digestSize) := do
  cryptoHmacsha256Alloc
  let sess ← getSess
  setkey .hmacsha256 (sess.sessKey.bytes.take smb2NtlmV2SesskeySize)
  init .hmacsha256
  update .hmacsha256 buf
  final P .hmacsha256

/-- `smb3_sign_smbpdu(chann, buf, sz, sig)`: CMAC-AES of the PDU under the channel's
signing key. It does not allocate the CMAC slot. -/
def smb3SignSmbpdu (P : Prims) (smb3signingkey : ByteBuf 16) (buf : List UInt8) :
    M (ByteBuf Alg.cmacaes.digestSize) := do
  setkey .cmacaes (smb3signingkey.bytes.take smb2CmacAesSize)
  init .cmacaes
  update .cmacaes buf
  final P .cmacaes

/-- `compute_smb3xsigningkey(sess, key, key_size)`: the counter-mode KDF, HMAC-SHA256 under
the session key of `i ‖ label ‖ 0 ‖ context ‖ L`, cut to `key_size` bytes. The caller's
`key` buffer is the value returned: the bytes the final `memcpy` writes into it. An error
exit returns no value, so the zeros the opening `memset` leaves there are not modelled. -/
def computeSmb3xsigningkey (P : Prims) (keySize : Nat) : M (List UInt8) := do
  cryptoHmacsha256Alloc
  cryptoCmacAlloc
  let sess ← getSess
  setkey .hmacsha256 (sess.sessKey.bytes.take smb2NtlmV2SesskeySize)
  init .hmacsha256
  update .hmacsha256 [0, 0, 0, 1]
  let server ← getServer
  if server.dialect = smb311ProtId then update .hmacsha256 (cString "SMBSigningKey")
  else update .hmacsha256 (cString "SMB2AESCMAC")
  update .hmacsha256 [0]
  if server.dialect = smb311ProtId then update .hmacsha256 sess.preauthHashValue.bytes
  else update .hmacsha256 (cString "SmbSign")
  update .hmacsha256 [0, 0, 0, 128]
  let prfhash ← final P .hmacsha256
  if smb2HmacSha256Size < keySize then undefined .readPast else pure (prfhash.bytes.take keySize)

/-- What `pi_hash` points at. -/
inductive PiHash where
  /-- `server->Preauth_HashValue`, the connection's running hash, as the SMB layer's
  `update_preauth(conn, msg)` passes it -/
  | conn
  /-- a 64-byte buffer of the caller that no other function of `auth.c` reads -/
  | buffer
  deriving DecidableEq, Repr

/-- `crypto_shash_final(.., pi_hash)`: the digest written through `pi_hash`. -/
def writePiHash : PiHash → ByteBuf 64 → M Unit
  | .conn, h => setPreauth h
  | .buffer, _ => pure ()

/-- `calc_preauth_integrity_hash(server, hash_id, buf, pi_hash)`: SHA-512 of the running
hash and the message, whose length is the big-endian RFC1001 length in front of it,
written through `pi_hash`. The value returned is the 64 bytes written, which the caller
reads back from `pi_hash`. -/
def calcPreauthIntegrityHash (P : Prims) (hashId : Int) (buf : List UInt8) (piHash : PiHash) :
    M (ByteBuf Alg.sha512.digestSize) := do
  let hdr ← defined .readPast (readBytes buf 0 4)
  let msgSize := Endian.big.load hdr
  if hashId ≠ smb2PreauthIntegritySha512 then fail (-1) else do
    cryptoSha512Alloc
    init .sha512
    let server ← getServer
    update .sha512 server.preauthHashValue.bytes
    let msg ← defined .readPast (readBytes buf 4 msgSize)
    update .sha512 msg
    let h ← final P .sha512
    writePiHash piHash h
    pure h

end KsmbdAuth
