import QorechainRdk.Bech32.Case

/-!
# Addresses in Go

`bech32.go`. The case of a string is that of its characters, by a table where they are not ASCII. Bytes that are no
UTF-8 are changed by both mappings, so such a string is refused as one of mixed case.
-/

namespace QorechainRdk

open Js Bech32

namespace Go

/-- The cases of the characters beyond ASCII, but for those whose case is ASCII. -/
structure CaseTable where
  lower : Char → Char
  upper : Char → Char
  lower_beyond : ∀ c, 128 ≤ (lower c).toNat
  upper_beyond : ∀ c, 128 ≤ (upper c).toNat
  upper_kelvin : upper KELVIN = KELVIN

def toLowerRune (table : CaseTable) (c : Char) : Char :=
  if c.toNat < 128 then c.toLower
  else if c = KELVIN then 'k'
  else if c = '\u0130' then 'i'
  else table.lower c

def toUpperRune (table : CaseTable) (c : Char) : Char :=
  if c.toNat < 128 then c.toUpper
  else if c = '\u0131' then 'I'
  else if c = '\u017F' then 'S'
  else table.upper c

def toLower (table : CaseTable) (s : List Char) : List Char := s.map (toLowerRune table)

def toUpper (table : CaseTable) (s : List Char) : List Char := s.map (toUpperRune table)

/-- The bytes of a character. -/
def bytesOf (c : Char) : List Nat := (String.utf8EncodeChar c).map UInt8.toNat

def bech32Encode (hrp : List Char) (data8 : Bytes) : Except JsError (List Char) := do
  let data5 ← convertBits none (data8.map UInt8.toNat) 8 5 true
  let checksum := createChecksum (hrp.flatMap bytesOf) data5
  return hrp ++ '1' :: (data5.map charOf ++ checksum.map charOf)

def bech32Decode (table : CaseTable) (addr : List Char) : Except JsError (List Char × Bytes) :=
  let lower := toLower table addr
  let upper := toUpper table addr
  if addr ≠ lower ∧ addr ≠ upper then fail "bech32 string is mixed case"
  else
    match lastSplit lower with
    | none => fail "invalid bech32 separator position"
    | some (hrp, dataPart) =>
      let pos := (hrp.flatMap bytesOf).length
      if pos < 1 ∨ (lower.flatMap bytesOf).length < pos + 7 then fail "invalid bech32 separator position"
      else do
        let data5 ← (dataPart.flatMap bytesOf).mapM readGroup
        if ¬ verifyChecksum (hrp.flatMap bytesOf) data5 then fail "invalid bech32 checksum"
        else do
          let data8 ← convertBits none (data5.take (data5.length - 6)) 5 8 false
          return (hrp, data8.map UInt8.ofNat)

/-! ### Case by case -/

section
variable {table : CaseTable} {c : Char}

theorem toLowerRune_one (h : toLowerRune table c = '1') : c = '1' := by
  unfold toLowerRune at h
  split at h
  · rename_i ascii
    exact (ascii_facts ascii).1 (Or.inl h)
  · split at h
    · exact absurd h (by decide)
    · split at h
      · exact absurd h (by decide)
      · have beyond := table.lower_beyond c
        rw [h] at beyond
        exact absurd beyond (by decide)

theorem toUpperRune_one (h : toUpperRune table c = '1') : c = '1' := by
  unfold toUpperRune at h
  split at h
  · rename_i ascii
    exact (ascii_facts ascii).1 (Or.inr h)
  · split at h
    · exact absurd h (by decide)
    · split at h
      · exact absurd h (by decide)
      · have beyond := table.upper_beyond c
        rw [h] at beyond
        exact absurd beyond (by decide)

theorem toLowerRune_near (near : Near c) : toLowerRune table c = lowerNear 'i' c := by
  unfold toLowerRune lowerNear
  rcases near with ascii | rfl
  · rw [if_pos ascii, if_neg (ne_kelvin ascii)]
    split
    · rename_i capital
      rw [capital]
      rfl
    · rfl
  · rw [if_neg (by decide), if_pos rfl, if_neg (by decide), if_pos rfl]

theorem toUpperRune_near (near : Near c) : toUpperRune table c = upperNear 'I' c := by
  unfold toUpperRune upperNear
  rcases near with ascii | rfl
  · rw [if_pos ascii]
    split
    · rename_i small
      rw [small]
      rfl
    · rfl
  · rw [if_neg (by decide), if_neg (by decide), if_neg (by decide), table.upper_kelvin, if_neg (by decide)]
    decide

theorem toLowerRune_beyond (far : ¬ Near c) : 128 ≤ (toLowerRune table c).toNat ∨ toLowerRune table c = 'i' := by
  unfold Near at far
  rw [not_or] at far
  unfold toLowerRune
  rw [if_neg far.1, if_neg far.2]
  split
  · exact Or.inr rfl
  · exact Or.inl (table.lower_beyond c)

theorem not_mem_map {f : Char → Char} {cs : List Char} (only : ∀ c, f c = '1' → c = '1') (absent : '1' ∉ cs) :
    '1' ∉ cs.map f := by
  intro member
  obtain ⟨c, inside, one⟩ := List.mem_map.mp member
  rw [only c one] at inside
  exact absent inside

end

/-- The mappings of a table are those of a language with the usual `i`. -/
def caseMapping (table : CaseTable) : CaseMapping where
  lower := toLower table
  upper := toUpper table
  lowerI := 'i'
  upperI := 'I'
  lowerI_eq := Or.inl rfl
  upperI_eq := Or.inl rfl
  lower_near := fun near => List.map_congr_left fun c member => toLowerRune_near (near c member)
  upper_near := fun near => List.map_congr_left fun c member => toUpperRune_near (near c member)
  lower_behind := by
    intro front rest absent
    refine ⟨toLower table front, toLower table rest, List.map_append, not_mem_map (fun _ => toLowerRune_one) absent, ?_⟩
    intro c member far
    exact ⟨_, List.mem_map_of_mem member, toLowerRune_beyond far⟩
  upper_behind := by
    intro front rest absent
    exact ⟨List.map_append, not_mem_map (fun _ => toUpperRune_one) absent⟩

/-! ### What is accepted -/

section
variable {table : CaseTable} {hrp s : List Char} {data : Bytes}

theorem settled (front : List Char) : (caseMapping table).Settled front := by
  refine ⟨toLower table front, ?_⟩
  intro rest near absent
  show toLower table (front ++ '1' :: rest) = _
  rw [toLower, List.map_append, List.map_cons]
  congr 1
  rw [show toLowerRune table '1' = '1' from rfl]
  exact congrArg _ (List.map_congr_left fun c member => toLowerRune_near (near c member))

theorem bytesOf_leavesAscii : LeavesAscii bytesOf := utf8EncodeChar_leavesAscii

theorem bech32Encode_eq (hrp : List Char) (data : Bytes) : bech32Encode hrp data = .ok (text bytesOf hrp data) := by
  unfold bech32Encode
  rw [convertBits_five (small_of_bytes data), ok_bind, text, textGroups, List.map_append]
  rfl

/-- A string is accepted if it is in one case and its lower case is the text of what is returned. -/
theorem bech32Decode_ok_iff : bech32Decode table s = .ok (hrp, data) ↔
    (caseMapping table).OneCase s ∧ hrp ≠ [] ∧ toLower table s = text bytesOf hrp data := by
  have oneCase : ¬ (s ≠ toLower table s ∧ s ≠ toUpper table s) ↔ (caseMapping table).OneCase s := by
    rw [not_and_or, not_not, not_not]
    exact Iff.rfl
  unfold bech32Decode
  dsimp only
  rw [guard_ok_iff, oneCase, and_congr_right_iff, eq_text_iff_found bytesOf_leavesAscii]
  intro _
  constructor
  · intro h
    split at h
    · cases h
    · rename_i hrp' dataPart split
      obtain ⟨place, h⟩ := guard_ok_iff.mp h
      obtain ⟨groups, letters, h⟩ := bind_ok h
      obtain ⟨checked, h⟩ := guard_ok_iff.mp h
      obtain ⟨out, bytes, h⟩ := bind_ok h
      obtain ⟨rfl, back⟩ := Prod.mk.inj (pure_ok_iff.mp h)
      have length := length_split bytesOf_leavesAscii split letters
      have long : 6 ≤ groups.length := by omega
      refine ⟨(length_codes bytesOf_leavesAscii).mp (by omega), dataPart, groups, out, ?_, back⟩
      exact ⟨split, letters, long, not_not.mp checked, bytes⟩
  · intro h
    obtain ⟨named, dataPart, groups, out, found, back⟩ := h
    have length := length_split bytesOf_leavesAscii found.split found.letters
    have some_code := (length_codes bytesOf_leavesAscii).mpr named
    have long := found.long
    rw [found.split]
    dsimp only
    rw [if_neg (by omega), found.letters, ok_bind, if_neg (not_not.mpr found.checked), found.bytes, ok_bind, back]
    rfl

end
end Go
end QorechainRdk
