import KsmbdAuth.Challenge

/-!
# The destinations of the UTF-16 conversions

`auth.c` converts three strings with `smb_strtoUTF16`, each into a buffer the caller
provides: the user name and the domain into the `2 + UNICODE_LEN(strlen)` buffers that
`calc_ntlmv2_hash` allocates, and `netbios_name` into the 8-unit array `name` of
`build_ntlmssp_challenge_blob`. The model's `smbStrtoUtf16` says only whether the units
and the NUL unit fit. This file states the conversion on the bytes of the buffer
(`strtoUtf16Into`), proves that the units read back (`readBytes_strtoUtf16Into`), and then
follows each of the three buffers:

* `calc_ntlmv2_hash` never writes past a buffer (`safe_calcNtlmv2Hash`);
* `strtoUtf16Into_name_iff`: `name[8]` holds a name of fewer than 8 units, and only those;
* `buildNtlmsspChallengeBlob_long_name`: for a longer name the builder writes past `name`,
  on every host.
-/

namespace KsmbdAuth

variable {P : Prims} {w : World}

/-- Modelled from the spec: `smb_strtoUTF16(to, from, len, codepage)` on the bytes of the
destination `dst`. It writes the UTF-16 units of `src` and a NUL unit from the start of
`dst`, and is `none` when they run past it. -/
def strtoUtf16Into (P : Prims) (dst src : List UInt8) : Option (List UInt8) :=
  writeBytes dst 0 (utf16Bytes (P.toUtf16 src ++ [0]))

theorem length_utf16Bytes_nul (units : List UInt16) :
    (utf16Bytes (units ++ [0])).length = unicodeLen (units.length + 1) := by
  rw [length_utf16Bytes, List.length_append, List.length_singleton]

/-- After the conversion, the `UNICODE_LEN(units)` bytes at the start of the buffer are the
units. -/
theorem readBytes_strtoUtf16Into {dst src dst' : List UInt8}
    (h : strtoUtf16Into P dst src = some dst') :
    readBytes dst' 0 (unicodeLen (P.toUtf16 src).length) = some (utf16Bytes (P.toUtf16 src)) := by
  unfold strtoUtf16Into writeBytes at h
  split at h
  · cases h
    simp only [List.take_zero, List.nil_append, utf16Bytes, List.flatMap_append,
      List.append_assoc]
    exact readBytes_prefix (length_utf16Bytes _)
  · cases h

/-- A conversion that fits a buffer of `size` zero bytes writes it and reads back. -/
theorem strtoUtf16Into_replicate {size : Nat} {src : List UInt8}
    (h : unicodeLen ((P.toUtf16 src).length + 1) ≤ size) :
    ∃ dst, strtoUtf16Into P (List.replicate size 0) src = some dst ∧
      readBytes dst 0 (unicodeLen (P.toUtf16 src).length) = some (utf16Bytes (P.toUtf16 src)) := by
  have hw : strtoUtf16Into P (List.replicate size 0) src ≠ none := by
    unfold strtoUtf16Into writeBytes
    rw [if_pos (by rw [length_utf16Bytes_nul, List.length_replicate]; omega)]
    exact Option.some_ne_none _
  obtain ⟨dst, hdst⟩ := Option.ne_none_iff_exists'.mp hw
  exact ⟨dst, hdst, readBytes_strtoUtf16Into hdst⟩

/-! ## The name array of `build_ntlmssp_challenge_blob` -/

/-- `name[8]` is 16 bytes: it holds the conversion of a name exactly when the name has fewer
than 8 units, and then the name's bytes read back from it. -/
theorem strtoUtf16Into_name_iff (netbiosName : List UInt8) :
    (P.toUtf16 netbiosName).length < 8 ↔
      ∃ dst, strtoUtf16Into P (List.replicate 16 0) netbiosName = some dst ∧
        readBytes dst 0 (unicodeLen (P.toUtf16 netbiosName).length) =
          some (utf16Bytes (P.toUtf16 netbiosName)) := by
  refine ⟨fun h => strtoUtf16Into_replicate (by simp only [unicodeLen]; omega), ?_⟩
  rintro ⟨dst, hdst, -⟩
  unfold strtoUtf16Into writeBytes at hdst
  split at hdst
  · rename_i hle
    rw [length_utf16Bytes_nul, List.length_replicate, unicodeLen] at hle
    omega
  · cases hdst

/-- For a name of 8 units or more the builder's conversion writes past `name[8]`, on every
host, for every session and every buffer. -/
theorem buildNtlmsspChallengeBlob_long_name {e : Endian} {netbiosName chgblob : List UInt8}
    (hlong : 8 ≤ (P.toUtf16 netbiosName).length) :
    buildNtlmsspChallengeBlob P e netbiosName chgblob w = .ub .writePast := by
  have h16 : ¬unicodeLen ((P.toUtf16 netbiosName).length + 1) ≤ 16 := by
    simp only [unicodeLen]; omega
  rw [eq_ub_iff_safe]
  simp [buildNtlmsspChallengeBlob, storeField, smbStrtoUtf16, h16]

/-- Each `smb_strtoUTF16` of `calc_ntlmv2_hash` writes inside its `2 + UNICODE_LEN(strlen)`
buffer, NUL unit included, and the `UNICODE_LEN(units)` bytes the hash reads back are the
units; the call never writes past a buffer. The 8-unit `name` array of
`build_ntlmssp_challenge_blob` holds a name and reads back exactly when the name has fewer
than 8 units, and for every longer `netbios_name` the builder writes past it, on every host,
for every session and every buffer. -/
theorem strtoUtf16_destinations (P : Prims) :
    (∀ src : List UInt8, ∃ dst,
      strtoUtf16Into P (List.replicate (2 + unicodeLen src.length) 0) src = some dst ∧
        readBytes dst 0 (unicodeLen (P.toUtf16 src).length) = some (utf16Bytes (P.toUtf16 src))) ∧
    (∀ (dname : Option (List UInt8)) (w : World), calcNtlmv2Hash P dname w ≠ .ub .writePast) ∧
    (∀ netbiosName : List UInt8, (P.toUtf16 netbiosName).length < 8 ↔
      ∃ dst, strtoUtf16Into P (List.replicate 16 0) netbiosName = some dst ∧
        readBytes dst 0 (unicodeLen (P.toUtf16 netbiosName).length) =
          some (utf16Bytes (P.toUtf16 netbiosName))) ∧
    (∀ (e : Endian) (netbiosName chgblob : List UInt8) (w : World),
      8 ≤ (P.toUtf16 netbiosName).length →
        buildNtlmsspChallengeBlob P e netbiosName chgblob w = .ub .writePast) :=
  ⟨fun _ => strtoUtf16Into_replicate (smbStrtoUtf16_fits _),
    fun _ _ => safe_calcNtlmv2Hash.ne_ub (.inr rfl),
    strtoUtf16Into_name_iff,
    fun _ _ _ _ => buildNtlmsspChallengeBlob_long_name⟩

/-- The 8-character server name `FILESERV` with the identity conversion, on a new
connection with a 108-byte buffer: it has 8 units, and the builder writes past `name[8]`. -/
theorem strtoUtf16_destinations_sample :
    8 ≤ (Prims.zeros.toUtf16 [70, 73, 76, 69, 83, 69, 82, 86]).length ∧
      buildNtlmsspChallengeBlob Prims.zeros .little [70, 73, 76, 69, 83, 69, 82, 86]
        (List.replicate 108 0) World.sample = .ub .writePast :=
  ⟨by decide, (strtoUtf16_destinations Prims.zeros).2.2.2 .little _ _ _ (by decide)⟩

end KsmbdAuth
