import KsmbdAuth.AuthSpec
import KsmbdAuth.TargetInfo

/-!
# The CHALLENGE message

`build_ntlmssp_challenge_blob` writes a CHALLENGE message field by field into the caller's
buffer: the fixed header, the UTF-16 server name at `sizeof(CHALLENGE_MESSAGE)`, and after
it one target-info attribute per type in a loop that keeps the running
`TargetInfoArray.Length` in the message itself. This file states the message the builder
is meant to write (`challengeMessage`) and what a reader finds in it (`ChallengeLayout`),
and proves:

* `addTargetInfo_little_step` / `addTargetInfo_little_run`: one pass of the attribute loop
  writes one `AV_PAIR`, and the loop writes them all;
* `runs_buildNtlmsspChallengeBlob_little`: on a little-endian host the builder writes
  exactly `challengeMessage` at the front of the buffer and leaves the rest;
* `challengeMessage_layout`: that message has the layout, its target-info list parsing
  back to the attributes and the terminator;
* `buildNtlmsspChallengeBlob_big`: on a big-endian host the name offset is read back
  natively from a `cpu_to_le32` field, as `0x30000000`, and the copy of the name there
  runs past the buffer.

Offsets that depend on the name are kept as the length of the part of the buffer in front
of them, so that each write is followed part by part.
-/

namespace KsmbdAuth

variable {P : Prims} {w : World}

/-! ## Field stores on a little-endian host -/

theorem storeField_little {buf : List UInt8} {off w n : Nat} :
    storeField .little buf off w n = defined .writePast (writeBytes buf off (leBytes w n)) := rfl

theorem defined_bind_some {α β : Type} {why : Ub} {x : α} {f : α → M β} :
    (defined why (some x) >>= f) = f x := rfl

@[simp] theorem length_ntlmsspSignature : ntlmsspSignature.length = 8 := rfl

@[simp] theorem length_utf16Bytes (units : List UInt16) :
    (utf16Bytes units).length = unicodeLen units.length := by
  induction units with
  | nil => rfl
  | cons u units ih =>
    simp only [utf16Bytes, List.flatMap_cons, List.length_append, length_leBytes,
      List.length_cons, unicodeLen] at ih ⊢
    omega

/-- `cpu_to_leN` on a little-endian host changes no byte of a field. -/
@[simp] theorem leBytes_cpuToLe_little (w x : Nat) :
    leBytes w (Endian.little.cpuToLe w x) = leBytes w x := by
  rw [cpuToLe_little, leBytes_mod]

@[simp] theorem length_flatMap_avPair (types : List Nat) (name : List UInt8) :
    (types.flatMap fun t => avPair t name).length = types.length * (4 + name.length) := by
  induction types with
  | nil => simp
  | cons t types ih =>
    simp only [List.flatMap_cons, List.length_append, length_avPair, ih, List.length_cons,
      Nat.succ_mul]
    omega

theorem avPair_zero_nil : avPair 0 [] = leBytes 2 0 ++ leBytes 2 0 := rfl

/-! ## The attribute loop -/

section Loop

variable {name a f g r : List UInt8} {len o n t : Nat} {types : List Nat}

/-- One pass of the loop, on a buffer whose `TargetInfoArray.Length` field `f` follows the
40 bytes `a` and whose next record goes after `g`: it writes the record and the new length. -/
theorem addTargetInfo_little_step (ha : a.length = chgTargetInfoArray) (hf : f.length = 2)
    (ho : o = chgTargetInfoArray + 2 + g.length) (hlen : name.length = len)
    (hsmall : 4 + len < 2 ^ 16) (hroom : 4 + len ≤ r.length) :
    addTargetInfo .little name len (t :: types) (a ++ (f ++ (g ++ r))) o n =
      addTargetInfo .little name len types
        (a ++ (leBytes 2 ((n + (4 + len)) % 2 ^ 16) ++ (g ++ (avPair t name ++ r.drop (4 + len)))))
        (o + 4 + len) ((n + (4 + len)) % 2 ^ 16) := by
  have hcpu : Endian.little.cpuToLe 2 (4 + len) = 4 + len := by
    rw [cpuToLe_little]
    exact Nat.mod_eq_of_lt hsmall
  subst ho
  simp only [chgTargetInfoArray] at ha ⊢
  simp (disch := first | (simp only [length_leBytes, List.length_drop, List.length_take,
      List.length_append, hlen, ha, hf]; first | done | omega) | omega) only [addTargetInfo,
    storeField_little, hcpu, chgTargetInfoArray, List.take_of_length_le, writeBytes_append_right, writeBytes_zero,
    Option.map_some', defined_bind_some, Nat.sub_self, Nat.add_sub_cancel_left, Nat.add_sub_cancel,
    Nat.sub_add_comm, length_leBytes, List.drop_drop, hlen, ha, hf, avPair, List.append_assoc,
    List.drop_left']

/-- The loop over `types` writes one record each and leaves the running length in the
`TargetInfoArray.Length` field. -/
theorem addTargetInfo_little_run (hlen : name.length = len) (hsmall : 4 + len < 2 ^ 16) :
    ∀ (types : List Nat) (a g r : List UInt8) (o n : Nat), a.length = chgTargetInfoArray →
      o = chgTargetInfoArray + 2 + g.length → n < 2 ^ 16 →
      types.length * (4 + len) ≤ r.length →
      addTargetInfo .little name len types (a ++ (leBytes 2 n ++ (g ++ r))) o n =
        pure (a ++ (leBytes 2 ((n + types.length * (4 + len)) % 2 ^ 16) ++
          (g ++ (types.flatMap (fun t => avPair t name) ++ r.drop (types.length * (4 + len))))),
          o + types.length * (4 + len), (n + types.length * (4 + len)) % 2 ^ 16)
  | [], _, _, _, _, n, _, _, hn, _ => by
    rw [List.length_nil, Nat.zero_mul, Nat.add_zero, Nat.add_zero, Nat.mod_eq_of_lt hn]
    rfl
  | t :: types, a, g, r, o, n, ha, ho, hn, hroom => by
    have hk : (t :: types).length * (4 + len) = 4 + len + types.length * (4 + len) := by
      simp only [List.length_cons, Nat.succ_mul]
      omega
    have hT : ((n + (4 + len)) % 2 ^ 16 + types.length * (4 + len)) % 2 ^ 16 =
        (n + (4 + len + types.length * (4 + len))) % 2 ^ 16 := by omega
    rw [hk] at hroom ⊢
    rw [addTargetInfo_little_step ha (length_leBytes 2 n) ho hlen hsmall (by omega),
      ← List.append_assoc g,
      addTargetInfo_little_run hlen hsmall types a (g ++ avPair t name) _ _ _ ha
        (by simp [ho, hlen]; omega) (Nat.mod_lt _ (by decide)) (by simp; omega)]
    simp only [hT, List.flatMap_cons, List.append_assoc, List.drop_drop, Nat.add_assoc]

end Loop

/-! ## The message -/

/-- Modelled from the spec: the target-info list of a server named by the UTF-16 bytes
`name`, the name under each of `NTLMSSP_AV_NB_COMPUTER_NAME` .. `NTLMSSP_AV_DNS_DOMAIN_NAME`. -/
def targetInfo (name : List UInt8) : List UInt8 :=
  encodeTargetInfo ((List.range' ntlmsspAvNbComputerName
    (ntlmsspAvDnsDomainName + 1 - ntlmsspAvNbComputerName)).map fun t => (t, name))

/-- Modelled from the spec: the CHALLENGE message with flags `flags`, the UTF-16 bytes
`name` of the server's name and the server challenge `challenge`. `reserved` is the
`Reserved` field, which the builder leaves as it finds it. -/
def challengeMessage (flags : Nat) (name : List UInt8) (challenge : ByteBuf 8)
    (reserved : List UInt8) : List UInt8 :=
  ntlmsspSignature ++ leBytes 4 2 ++
    leBytes 2 name.length ++ leBytes 2 name.length ++ leBytes 4 challengeMessageSize ++
    leBytes 4 flags ++ challenge.bytes ++ reserved ++
    leBytes 2 (targetInfo name).length ++ leBytes 2 (targetInfo name).length ++
    leBytes 4 (challengeMessageSize + name.length) ++ name ++ targetInfo name

/-- The value of the little-endian `n`-byte field at `off` of a message, `none` when the
field runs past its end. -/
def wireField (msg : List UInt8) (off n : Nat) : Option Nat :=
  (readBytes msg off n).map leValue

/-- Modelled from the spec: the buffer `msg` starts with a CHALLENGE message of `blobLen`
bytes naming the server by the UTF-16 bytes `name`, with the server challenge
`challenge`. -/
structure ChallengeLayout (msg : List UInt8) (blobLen : Nat) (name : List UInt8)
    (challenge : ByteBuf 8) : Prop where
  targetNameLength : wireField msg chgTargetName 2 = some name.length
  targetNameMaxLength : wireField msg (chgTargetName + 2) 2 = some name.length
  targetNameOffset : wireField msg (chgTargetName + 4) 4 = some challengeMessageSize
  targetName : readBytes msg challengeMessageSize name.length = some name
  targetInfoLength : wireField msg chgTargetInfoArray 2 = some (4 * (4 + name.length) + 4)
  targetInfoMaxLength :
    wireField msg (chgTargetInfoArray + 2) 2 = some (4 * (4 + name.length) + 4)
  targetInfoOffset :
    wireField msg (chgTargetInfoArray + 4) 4 = some (challengeMessageSize + name.length)
  targetInfo : ∃ info,
    readBytes msg (challengeMessageSize + name.length) (4 * (4 + name.length) + 4) = some info ∧
      parseTargetInfo info = some ((List.range' ntlmsspAvNbComputerName
        (ntlmsspAvDnsDomainName + 1 - ntlmsspAvNbComputerName)).map (fun t => (t, name)) ++
          [(0, [])])
  challenge : readBytes msg chgChallenge 8 = some challenge.bytes
  blobLen_eq : blobLen = challengeMessageSize + name.length + (4 * (4 + name.length) + 4)

theorem encodeTargetInfo_map (types : List Nat) (v : List UInt8) :
    encodeTargetInfo (types.map fun t => (t, v)) =
      types.flatMap (fun t => avPair t v) ++ avPair 0 [] := by
  induction types with
  | nil => rfl
  | cons t types ih =>
    simp only [encodeTargetInfo, List.map_cons, List.flatMap_cons, List.append_assoc] at ih ⊢
    rw [ih]

@[simp] theorem length_targetInfo (name : List UInt8) :
    (targetInfo name).length = 4 * (4 + name.length) + 4 := by
  simp only [targetInfo, encodeTargetInfo_map, List.length_append, length_flatMap_avPair,
    length_avPair, List.length_range', List.length_nil, ntlmsspAvDnsDomainName,
    ntlmsspAvNbComputerName]

/-- The target-info list parses back to its attributes and the terminator. -/
theorem parseTargetInfo_targetInfo {name : List UInt8} (h : name.length < 2 ^ 16) :
    parseTargetInfo (targetInfo name) = some ((List.range' ntlmsspAvNbComputerName
      (ntlmsspAvDnsDomainName + 1 - ntlmsspAvNbComputerName)).map (fun t => (t, name)) ++
        [(0, [])]) := by
  refine parseTargetInfo_encodeTargetInfo (fun x hx => ?_) (fun x hx => ?_)
  all_goals
    obtain ⟨t, ht, rfl⟩ := List.mem_map.mp hx
    simp only [List.mem_range', ntlmsspAvDnsDomainName, ntlmsspAvNbComputerName] at ht
  · omega
  · exact h

/-- The message has the layout the spec gives, whatever follows it in the buffer. -/
theorem challengeMessage_layout {flags : Nat} {name reserved rest : List UInt8}
    {challenge : ByteBuf 8} (hres : reserved.length = 8)
    (hname : 4 * (4 + name.length) + 4 < 2 ^ 16) :
    ChallengeLayout (challengeMessage flags name challenge reserved ++ rest)
      (challengeMessageSize + name.length + (4 * (4 + name.length) + 4)) name challenge := by
  have hparse := parseTargetInfo_targetInfo (show name.length < 2 ^ 16 by omega)
  refine ⟨?_, ?_, ?_, ?_, ?_, ?_, ?_, ⟨_, ?_, hparse⟩, ?_, rfl⟩
  all_goals
    simp (disch := first | (simp only [length_leBytes, ByteBuf.length_eq, hres,
        length_ntlmsspSignature, length_targetInfo]; first | done | omega) | omega) only [wireField,
      challengeMessage, List.append_assoc, readBytes_append_right, readBytes_prefix,
      length_leBytes, ByteBuf.length_eq, hres, length_ntlmsspSignature, length_targetInfo,
      Option.map_some', leValue_leBytes, Nat.reducePow, Nat.mod_eq_of_lt, Nat.sub_add_comm,
      Nat.sub_self, Nat.zero_add, Nat.add_sub_cancel_left,
      chgTargetName, chgTargetInfoArray, chgChallenge, challengeMessageSize, Nat.reduceAdd,
      Nat.reduceSub]

/-! ## The builder on a little-endian host -/

section Little

variable {netbiosName chgblob : List UInt8}

/-- On a little-endian host, for a name whose UTF-16 form fits `name[8]` with its
terminator and a buffer that holds the message, the builder writes `challengeMessage` with
the drawn challenge at the front of the buffer, keeps the rest, returns the message's
length, and leaves the challenge in the session. -/
theorem runs_buildNtlmsspChallengeBlob_little (hfit : (P.toUtf16 netbiosName).length + 1 ≤ 8)
    (hroom : challengeMessageSize + unicodeLen (P.toUtf16 netbiosName).length +
      (4 * (4 + unicodeLen (P.toUtf16 netbiosName).length) + 4) ≤ chgblob.length) :
    Runs (buildNtlmsspChallengeBlob P .little netbiosName chgblob)
      (fun r w' => r =
          (challengeMessage (challengeFlags w.sess.clientFlags) (utf16Bytes (P.toUtf16 netbiosName))
              w.env.random ((chgblob.drop 32).take 8) ++
            chgblob.drop (challengeMessageSize + unicodeLen (P.toUtf16 netbiosName).length +
              (4 * (4 + unicodeLen (P.toUtf16 netbiosName).length) + 4)),
            challengeMessageSize + unicodeLen (P.toUtf16 netbiosName).length +
              (4 * (4 + unicodeLen (P.toUtf16 netbiosName).length) + 4)) ∧
        w' = w.withSess { w.sess with cryptkey := w.env.random }) w := by
  have h16 : unicodeLen ((P.toUtf16 netbiosName).length + 1) ≤ 16 := by
    simp only [unicodeLen]; omega
  have h4 : Endian.little.cpuToLe 2 4 = 4 := rfl
  have hoff : Endian.little.load (leBytes 4 48) = 48 := rfl
  have hname : (utf16Bytes (P.toUtf16 netbiosName)).take (unicodeLen (P.toUtf16 netbiosName).length) =
      utf16Bytes (P.toUtf16 netbiosName) := List.take_of_length_le (length_utf16Bytes _).le
  have hT : 4 * (4 + unicodeLen (P.toUtf16 netbiosName).length) % 2 ^ 16 =
      4 * (4 + unicodeLen (P.toUtf16 netbiosName).length) :=
    Nat.mod_eq_of_lt (by simp only [unicodeLen]; omega)
  have hT4 : (4 * (4 + unicodeLen (P.toUtf16 netbiosName).length) + 4) % 2 ^ 16 =
      4 * (4 + unicodeLen (P.toUtf16 netbiosName).length) + 4 :=
    Nat.mod_eq_of_lt (by simp only [unicodeLen]; omega)
  have hroom' := hroom
  simp only [unicodeLen, challengeMessageSize] at hroom'
  -- the attribute loop, on the buffer as the header writes leave it
  have hloop := addTargetInfo_little_run (length_utf16Bytes (P.toUtf16 netbiosName))
    (by simp only [unicodeLen]; omega) (List.range' ntlmsspAvNbComputerName
      (ntlmsspAvDnsDomainName + 1 - ntlmsspAvNbComputerName))
    (ntlmsspSignature ++ (leBytes 4 2 ++
      (leBytes 2 (unicodeLen (P.toUtf16 netbiosName).length) ++
      (leBytes 2 (unicodeLen (P.toUtf16 netbiosName).length) ++ (leBytes 4 challengeMessageSize ++
      (leBytes 4 (challengeFlags w.sess.clientFlags) ++
        (w.env.random.bytes ++ (chgblob.drop 32).take 8)))))))
    ((chgblob.drop 42).take 2 ++
      (leBytes 4 (challengeMessageSize + unicodeLen (P.toUtf16 netbiosName).length) ++
        utf16Bytes (P.toUtf16 netbiosName)))
    (chgblob.drop (challengeMessageSize + unicodeLen (P.toUtf16 netbiosName).length))
    (challengeMessageSize + unicodeLen (P.toUtf16 netbiosName).length) 0
    (by simp [ByteBuf.length_eq, chgTargetInfoArray]; omega)
    (by simp [chgTargetInfoArray, challengeMessageSize]; omega) (by decide)
    (by simp [ntlmsspAvDnsDomainName, ntlmsspAvNbComputerName, challengeMessageSize, unicodeLen]; omega)
  simp only [List.append_assoc, Nat.zero_add, challengeMessageSize, ntlmsspAvDnsDomainName,
    ntlmsspAvNbComputerName, List.length_range', Nat.reduceAdd, Nat.reduceSub, hT] at hloop
  simp (disch := first | (simp only [length_leBytes, List.length_drop, List.length_take,
      List.length_append, ByteBuf.length_eq, length_ntlmsspSignature, length_utf16Bytes,
      unicodeLen, length_flatMap_avPair, List.length_range']; first | done | omega) | omega) only [
    buildNtlmsspChallengeBlob, runs_bind, runs_defined, runs_getSess, runs_smbStrtoUtf16, h16,
    true_and, runs_getRandomBytes, runs_modifySess, runs_pure, ntLmChallenge, leBytes_cpuToLe_little,
    hoff, hname, h4, hT4, Nat.reduceAdd, Nat.reduceSub, storeField_little, writeBytes_zero, writeBytes_append_right, writeBytes_drop,
    writeBytes_take_drop, writeBytes_append_left, loadField_append_right, loadField_prefix,
    chgMessageType, chgNegotiateFlags, chgTargetName, chgChallenge, chgTargetInfoArray,
    challengeMessageSize, ntlmsspAvDnsDomainName, ntlmsspAvNbComputerName, List.take_zero,
    List.nil_append, List.append_nil, List.drop_drop, List.drop_take, List.take_take,
    List.append_assoc, length_leBytes, length_ntlmsspSignature, length_utf16Bytes,
    ByteBuf.length_eq, List.length_take_of_le, List.length_drop, length_flatMap_avPair,
    List.length_range', Option.map_some', Option.some.injEq, exists_eq_left', List.drop_left',
    List.take_left', Nat.add_zero, Nat.sub_add_comm, Nat.sub_self, Nat.zero_add,
    Nat.add_sub_cancel_left, hloop]
  have hL : unicodeLen (P.toUtf16 netbiosName).length < 16 := by simp only [unicodeLen]; omega
  simp only [Prod.mk.injEq, challengeMessage, targetInfo, encodeTargetInfo_map,
    challengeMessageSize, ntlmsspAvDnsDomainName, ntlmsspAvNbComputerName, Nat.reduceAdd,
    Nat.reduceSub, List.append_assoc, avPair_zero_nil, List.length_append, length_leBytes,
    List.length_nil, List.append_nil, length_flatMap_avPair, List.length_range',
    length_utf16Bytes, cpuToLe_little, and_true]
  generalize unicodeLen (P.toUtf16 netbiosName).length = L at hL ⊢
  exact ⟨by rw [show 48 + L + 4 * (4 + L) + 2 + 2 = 48 + L + (4 * (4 + L) + 4) by omega],
    by omega⟩

end Little

/-! ## The builder on a big-endian host -/

section Big

variable {netbiosName chgblob : List UInt8}

/-- A big-endian host stores `cpu_to_le32(sizeof(CHALLENGE_MESSAGE))` as the bytes
`30 00 00 00` and loads them back natively as `0x30000000`. -/
theorem nameOff_big : Endian.big.load (Endian.big.store 4 (Endian.big.cpuToLe 4 48)) = 0x30000000 := by
  decide

/-- On a big-endian host the builder copies the name to offset `0x30000000`: for every
name that fits `name[8]` and every buffer that holds the header but not that offset, the
copy runs past the buffer. -/
theorem buildNtlmsspChallengeBlob_big (hfit : (P.toUtf16 netbiosName).length + 1 ≤ 8)
    (hhead : challengeMessageSize ≤ chgblob.length) (hsmall : chgblob.length < 0x30000000) :
    buildNtlmsspChallengeBlob P .big netbiosName chgblob w = .ub .writePast := by
  have h16 : unicodeLen ((P.toUtf16 netbiosName).length + 1) ≤ 16 := by
    simp only [unicodeLen]; omega
  simp only [challengeMessageSize] at hhead
  have hfar : ∀ buf src : List UInt8, buf.length < 0x30000000 → writeBytes buf 0x30000000 src = none :=
    fun _ _ h => writeBytes_eq_none (by omega)
  rw [eq_ub_iff_safe]
  simp (disch := first | (simp only [length_store, List.length_drop, List.length_take,
      List.length_append, ByteBuf.length_eq, length_ntlmsspSignature, length_utf16Bytes,
      unicodeLen, List.length_take_of_le]; first | done | omega) | omega) only [
    buildNtlmsspChallengeBlob, safe_bind, safe_defined, safe_getSess, safe_getRandomBytes,
    safe_modifySess, safe_pure, smbStrtoUtf16, h16, if_true, storeField, loadField_append_right,
    loadField_prefix, nameOff_big, writeBytes_zero, writeBytes_append_right, writeBytes_drop,
    writeBytes_take_drop, writeBytes_append_left, hfar, chgMessageType,
    chgNegotiateFlags, chgTargetName, chgChallenge, chgTargetInfoArray, challengeMessageSize,
    List.take_zero, List.nil_append, List.append_nil, List.drop_drop, List.drop_take,
    List.take_take, List.append_assoc, length_store, length_ntlmsspSignature, ByteBuf.length_eq,
    List.length_take_of_le, List.length_drop, Option.map_some', Option.some.injEq,
    List.drop_left', Nat.reduceAdd, Nat.reduceSub, reduceCtorEq, forall_eq', ne_eq, not_true_eq_false,
    not_false_eq_true, imp_self, implies_true, and_true, true_and, Option.map_none', false_implies]

end Big

/-! ## `build_ntlmssp_challenge_blob` -/

/-- For every name whose UTF-16 form fits the 8-unit `name` array together with its
terminator, every client flag word, every session and every buffer that holds the message,
a little-endian host's `build_ntlmssp_challenge_blob` draws a new challenge into the session
and writes a CHALLENGE message of the spec's layout, with that challenge, returning its
length. A big-endian host reads the name offset back as `0x30000000` and copies the name
past the end of the buffer. -/
theorem build_challenge_layout (P : Prims) (w : World) (netbiosName chgblob : List UInt8)
    (hfit : (P.toUtf16 netbiosName).length + 1 ≤ 8)
    (hroom : challengeMessageSize + unicodeLen (P.toUtf16 netbiosName).length +
      (4 * (4 + unicodeLen (P.toUtf16 netbiosName).length) + 4) ≤ chgblob.length) :
    Runs (buildNtlmsspChallengeBlob P .little netbiosName chgblob)
        (fun r w' => w'.sess = { w.sess with cryptkey := w.env.random } ∧
          ChallengeLayout r.1 r.2 (utf16Bytes (P.toUtf16 netbiosName)) w'.sess.cryptkey) w ∧
      (chgblob.length < 0x30000000 →
        buildNtlmsspChallengeBlob P .big netbiosName chgblob w = .ub .writePast) := by
  refine ⟨(runs_buildNtlmsspChallengeBlob_little hfit hroom).mono ?_,
    buildNtlmsspChallengeBlob_big hfit (by omega)⟩
  rintro _ _ ⟨rfl, rfl⟩
  refine ⟨rfl, ?_⟩
  rw [← length_utf16Bytes]
  exact challengeMessage_layout (by simp [challengeMessageSize] at hroom ⊢; omega)
    (by simp only [length_utf16Bytes, unicodeLen]; omega)

/-- The server name `FSRV` with the identity conversion, into a 108-byte buffer on a new
connection: the name fits, the buffer holds the message, and the builder writes it. -/
theorem build_challenge_layout_sample :
    ((Prims.zeros.toUtf16 [70, 83, 82, 86]).length + 1 ≤ 8 ∧
      challengeMessageSize + unicodeLen (Prims.zeros.toUtf16 [70, 83, 82, 86]).length +
        (4 * (4 + unicodeLen (Prims.zeros.toUtf16 [70, 83, 82, 86]).length) + 4) ≤
          (List.replicate 108 0).length) ∧
    (Runs (buildNtlmsspChallengeBlob Prims.zeros .little [70, 83, 82, 86] (List.replicate 108 0))
        (fun r w' => w'.sess = { (Sess.sample 0 (ByteBuf.zero 40)) with
            cryptkey := World.sample.env.random } ∧
          ChallengeLayout r.1 r.2 (utf16Bytes (Prims.zeros.toUtf16 [70, 83, 82, 86]))
            w'.sess.cryptkey) World.sample ∧
      ((List.replicate 108 (0 : UInt8)).length < 0x30000000 →
        buildNtlmsspChallengeBlob Prims.zeros .big [70, 83, 82, 86] (List.replicate 108 0)
          World.sample = .ub .writePast)) :=
  ⟨⟨by decide, by decide⟩,
    build_challenge_layout Prims.zeros World.sample
      [70, 83, 82, 86] (List.replicate 108 0) (by decide) (by decide)⟩

end KsmbdAuth
