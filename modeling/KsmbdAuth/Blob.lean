import KsmbdAuth.Ntlm

/-!
# The NTLMSSP blob codec

`decode_ntlmssp_negotiate_blob`, `decode_ntlmssp_authenticate_blob` and
`build_ntlmssp_challenge_blob` overlay the packed message structs on the buffer and access
the fields natively. Some accesses go through `cpu_to_le16`/`cpu_to_le32` and some do not.
So each function here takes the host's byte order `e`, and every field access is a native
load or store at the field's offset (`Endian.load`, `Endian.store`).

Offsets and lengths taken from a message are used as they are: a read or write past the end
of the buffer is undefined behaviour (`readBytes`, `writeBytes`).
-/

namespace KsmbdAuth

/-! ## Field offsets -/

/-- Modelled from the spec: the offset of `NegotiateFlags` in a NEGOTIATE message. -/
def negNegotiateFlags : Nat := 12

/-- Modelled from the spec: the offset of the `NtChallengeResponse` security buffer in an
AUTHENTICATE message. -/
def authNtChallengeResponse : Nat := 20

/-- Modelled from the spec: the offset of the `DomainName` security buffer in an
AUTHENTICATE message. -/
def authDomainName : Nat := 28

/-- Modelled from the spec: the offset of `MessageType` in a CHALLENGE message. -/
def chgMessageType : Nat := 8

/-- Modelled from the spec: the offset of the `TargetName` security buffer in a CHALLENGE
message. -/
def chgTargetName : Nat := 12

/-- Modelled from the spec: the offset of `NegotiateFlags` in a CHALLENGE message. -/
def chgNegotiateFlags : Nat := 20

/-- Modelled from the spec: the offset of `Challenge` in a CHALLENGE message. -/
def chgChallenge : Nat := 24

/-- Modelled from the spec: the offset of the `TargetInfoArray` security buffer in a
CHALLENGE message. -/
def chgTargetInfoArray : Nat := 40

/-- A native load of the `w`-byte field at `off`. -/
def loadField (e : Endian) (buf : List UInt8) (off w : Nat) : M Nat := do
  let bs ← defined .readPast (readBytes buf off w)
  pure (e.load bs)

/-- A native store of `w` bytes at `off`. -/
def storeField (e : Endian) (buf : List UInt8) (off w n : Nat) : M (List UInt8) :=
  defined .writePast (writeBytes buf off (e.store w n))

/-! ## Decoders -/

/-- `decode_ntlmssp_negotiate_blob(negblob, blob_len, sess)`: check the size and the
signature, then record the client's flags. -/
def decodeNtlmsspNegotiateBlob (e : Endian) (negblob : List UInt8) : M Unit := do
  if negblob.length < negotiateMessageSize then fail (-einval) else do
    let sig ← defined .readPast (readBytes negblob 0 8)
    if memcmp sig ntlmsspSignature ≠ 0 then fail (-einval) else do
      let flags ← loadField e negblob negNegotiateFlags 4
      modifySess fun s => { s with clientFlags := flags }

/-- `decode_ntlmssp_authenticate_blob(authblob, blob_len, sess)`: check the size and the
signature, then route to `process_ntlm` when `NtChallengeResponse.Length` is 24 and to
`process_ntlmv2` otherwise. -/
def decodeNtlmsspAuthenticateBlob (P : Prims) (e : Endian) (authblob : List UInt8) :
    M Unit := do
  if authblob.length < authenticateMessageSize then fail (-einval) else do
    let sig ← defined .readPast (readBytes authblob 0 8)
    if memcmp sig ntlmsspSignature ≠ 0 then fail (-einval) else do
      let ntLen ← loadField e authblob authNtChallengeResponse 2
      let ntOff ← loadField e authblob (authNtChallengeResponse + 4) 4
      if ntLen = cifsAuthRespSize then processNtlm P authblob ntOff else do
        let dLen ← loadField e authblob authDomainName 2
        let dOff ← loadField e authblob (authDomainName + 4) 4
        let domainName ← smbStrndupFromUtf16 P authblob dOff dLen
        processNtlmv2 P authblob ntOff ((ntLen : Int) - cifsEncpwdSize) domainName

/-! ## The CHALLENGE builder -/

/-- The flags of a CHALLENGE: the fixed set, and `NTLMSSP_REQUEST_TARGET` when the
client's native flag word has it. -/
def challengeFlags (clientFlags : Nat) : Nat :=
  let flags := ntlmsspNegotiateUnicode ||| ntlmsspNegotiateNtlm ||| ntlmsspTargetTypeServer |||
    ntlmsspNegotiateTargetInfo ||| ntlmsspNegotiate128 ||| ntlmsspNegotiate56 |||
    ntlmsspNegotiateVersion
  if clientFlags &&& ntlmsspRequestTarget ≠ 0 then flags ||| ntlmsspRequestTarget else flags

/-- The target-info loop of `build_ntlmssp_challenge_blob`, from the attribute at `off`
with the running `TargetInfoArray.Length` `total`: each type writes `Type`, `Length` and
the name, then adds `cpu_to_le16(4 + len)` to the length field. -/
def addTargetInfo (e : Endian) (name : List UInt8) (len : Nat) :
    List Nat → List UInt8 → Nat → Nat → M (List UInt8 × Nat × Nat)
  | [], buf, off, total => pure (buf, off, total)
  | type :: types, buf, off, total => do
    let buf ← storeField e buf off 2 type
    let buf ← storeField e buf (off + 2) 2 len
    let buf ← defined .writePast (writeBytes buf (off + 4) (name.take len))
    let total := (total + e.cpuToLe 2 (4 + len)) % 2 ^ 16
    let buf ← storeField e buf chgTargetInfoArray 2 total
    addTargetInfo e name len types buf (off + 4 + len) total

/-- `build_ntlmssp_challenge_blob(chgblob, sess)` into the buffer `chgblob`, with the
configured `netbios_name`: the buffer after its writes and the returned `blob_len`. It also
draws the session's new server challenge. -/
def buildNtlmsspChallengeBlob (P : Prims) (e : Endian) (netbiosName : List UInt8)
    (chgblob : List UInt8) : M (List UInt8 × Nat) := do
  let buf ← defined .writePast (writeBytes chgblob 0 ntlmsspSignature)
  let buf ← storeField e buf chgMessageType 4 (ntLmChallenge e)
  let sess ← getSess
  let buf ← storeField e buf chgNegotiateFlags 4 (e.cpuToLe 4 (challengeFlags sess.clientFlags))
  let units ← smbStrtoUtf16 P 16 netbiosName
  let name := utf16Bytes units
  let len := unicodeLen units.length
  let buf ← storeField e buf chgTargetName 2 (e.cpuToLe 2 len)
  let buf ← storeField e buf (chgTargetName + 2) 2 (e.cpuToLe 2 len)
  let buf ← storeField e buf (chgTargetName + 4) 4 (e.cpuToLe 4 challengeMessageSize)
  let key ← getRandomBytes
  modifySess fun s => { s with cryptkey := key }
  let buf ← defined .writePast (writeBytes buf chgChallenge key.bytes)
  let nameOff ← loadField e buf (chgTargetName + 4) 4
  let buf ← storeField e buf (chgTargetInfoArray + 4) 4 (nameOff + len)
  let buf ← defined .writePast (writeBytes buf nameOff (name.take len))
  let blobLen := e.cpuToLe 2 (challengeMessageSize + len)
  let buf ← storeField e buf chgTargetInfoArray 2 0
  let types := List.range' ntlmsspAvNbComputerName
    (ntlmsspAvDnsDomainName + 1 - ntlmsspAvNbComputerName)
  let (buf, off, total) ← addTargetInfo e name len types buf (nameOff + len) 0
  let buf ← storeField e buf off 2 0
  let buf ← storeField e buf (off + 2) 2 0
  let total := (total + e.cpuToLe 2 4) % 2 ^ 16
  let buf ← storeField e buf chgTargetInfoArray 2 total
  let buf ← storeField e buf (chgTargetInfoArray + 2) 2 total
  pure (buf, blobLen + total)

end KsmbdAuth
