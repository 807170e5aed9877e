import KsmbdAuth.Wire

/-!
# The target-info attribute list

A CHALLENGE message advertises the server's names in its `TargetInfoArray`: a list of
`AV_PAIR` records `{AvId:u16, AvLen:u16, Value[AvLen]}`, little-endian, ended by the
`MsvAvEOL` record `(0, 0)`. This file defines the encoding of a list of attributes
(`encodeTargetInfo`) and a parser of such a list (`parseTargetInfo`), and proves the round
trip (`parseTargetInfo_encodeTargetInfo`): for identifiers in `[1, 2^16)` and values
shorter than `2^16` bytes, parsing an encoded list gives back its attributes, then the
terminator.
-/

namespace KsmbdAuth

/-- Modelled from the spec: one `AV_PAIR`, its identifier and length little-endian, then
the value. -/
def avPair (type : Nat) (value : List UInt8) : List UInt8 :=
  leBytes 2 type ++ leBytes 2 value.length ++ value

/-- Modelled from the spec: a target-info list, its attributes and then `MsvAvEOL`. -/
def encodeTargetInfo (attrs : List (Nat × List UInt8)) : List UInt8 :=
  attrs.flatMap (fun a => avPair a.1 a.2) ++ avPair 0 []

/-- At most `fuel` records of a target-info list, the terminator included; `none` unless
the bytes end right after the `MsvAvEOL` record. -/
def parseAvPairs : Nat → List UInt8 → Option (List (Nat × List UInt8))
  | 0, _ => none
  | fuel + 1, t0 :: t1 :: l0 :: l1 :: rest =>
    let type := leValue [t0, t1]
    let len := leValue [l0, l1]
    if type = 0 then
      if len = 0 ∧ rest = [] then some [(0, [])] else none
    else if len ≤ rest.length then
      (parseAvPairs fuel (rest.drop len)).map ((type, rest.take len) :: ·)
    else none
  | _ + 1, _ => none

/-- Modelled from the spec: the records of a target-info list, `MsvAvEOL` last, or `none`
when the bytes are not one. A record takes at least four bytes, so as many steps as there
are bytes suffice. -/
def parseTargetInfo (bs : List UInt8) : Option (List (Nat × List UInt8)) :=
  parseAvPairs bs.length bs

/-! ## The round trip -/

theorem leBytes_two (n : Nat) : leBytes 2 n = [UInt8.ofNat n, UInt8.ofNat (n / 256)] := rfl

theorem leBytes_zero (n : Nat) : leBytes 0 n = [] := rfl

/-- A 16-bit field reads back its value. -/
theorem leValue_leBytes_two {n : Nat} (h : n < 2 ^ 16) :
    leValue [UInt8.ofNat n, UInt8.ofNat (n / 256)] = n := by
  rw [← leBytes_two, leValue_leBytes]
  exact Nat.mod_eq_of_lt h

@[simp] theorem length_avPair (type : Nat) (value : List UInt8) :
    (avPair type value).length = 4 + value.length := by
  simp only [avPair, List.length_append, length_leBytes]

/-- One record of a nonzero identifier is read, and parsing goes on after it. -/
theorem parseAvPairs_avPair {fuel type : Nat} {value rest : List UInt8} (ht : 0 < type)
    (ht' : type < 2 ^ 16) (hv : value.length < 2 ^ 16) :
    parseAvPairs (fuel + 1) (avPair type value ++ rest) =
      (parseAvPairs fuel rest).map ((type, value) :: ·) := by
  simp only [avPair, leBytes_two, List.cons_append, List.nil_append, List.append_assoc,
    parseAvPairs, leBytes_zero, List.append_eq, leValue_leBytes_two ht', leValue_leBytes_two hv,
    Nat.pos_iff_ne_zero.mp ht, if_false, List.length_append, Nat.le_add_right, if_true,
    List.take_left, List.drop_left]

theorem parseAvPairs_terminator (fuel : Nat) : parseAvPairs (fuel + 1) (avPair 0 []) = some [(0, [])] :=
  rfl

/-- Every record adds at least a byte. -/
theorem length_lt_length_encodeTargetInfo (attrs : List (Nat × List UInt8)) :
    attrs.length < (encodeTargetInfo attrs).length := by
  induction attrs with
  | nil => simp [encodeTargetInfo]
  | cons a attrs ih =>
    simp only [encodeTargetInfo, List.flatMap_cons, List.append_assoc, List.length_append,
      length_avPair, List.length_cons] at ih ⊢
    omega

section RoundTrip

variable {attrs : List (Nat × List UInt8)}

theorem parseAvPairs_encodeTargetInfo (htype : ∀ a ∈ attrs, 0 < a.1 ∧ a.1 < 2 ^ 16)
    (hlen : ∀ a ∈ attrs, a.2.length < 2 ^ 16) :
    ∀ fuel, attrs.length < fuel →
      parseAvPairs fuel (encodeTargetInfo attrs) = some (attrs ++ [(0, [])]) := by
  induction attrs with
  | nil =>
    rintro (_ | fuel) h
    · cases h
    · exact parseAvPairs_terminator fuel
  | cons a attrs ih =>
    rintro (_ | fuel) h
    · cases h
    · have ha := htype a (.head _)
      have hrest := ih (fun b hb => htype b (.tail _ hb)) (fun b hb => hlen b (.tail _ hb)) fuel
        (by simpa using h)
      simp only [encodeTargetInfo, List.flatMap_cons, List.append_assoc] at hrest ⊢
      rw [parseAvPairs_avPair ha.1 ha.2 (hlen a (.head _)), hrest]
      rfl

/-- Parsing an encoded target-info list gives back its attributes, then `MsvAvEOL`. -/
theorem parseTargetInfo_encodeTargetInfo (htype : ∀ a ∈ attrs, 0 < a.1 ∧ a.1 < 2 ^ 16)
    (hlen : ∀ a ∈ attrs, a.2.length < 2 ^ 16) :
    parseTargetInfo (encodeTargetInfo attrs) = some (attrs ++ [(0, [])]) :=
  parseAvPairs_encodeTargetInfo htype hlen _ (length_lt_length_encodeTargetInfo attrs)

end RoundTrip

end KsmbdAuth
