import QorechainRdk.Bech32.Case

/-!
# Addresses on the JVM

`Bech32.java`. Strings are strings of characters, measured and read in code units, and their case is that of the
default locale. The sizes of arrays are computed with an `int`, so a long text is refused where its array is made.
-/

namespace QorechainRdk

open Js Bech32

namespace Jvm

/-- The value of an `int` expression. -/
def int32 (n : Int) : Int := n.bmod (2 ^ 32)

/-- A new array with some values at its front. -/
def newInts (size : Int) (values : List Nat) : Except JsError (List Nat) :=
  if size < 0 then fail "NegativeArraySizeException"
  else if size < values.length then fail "ArrayIndexOutOfBoundsException"
  else .ok (values ++ List.replicate (size.toNat - values.length) 0)

def unitsOf (c : Char) : List Nat := (Utf16.unitsOfChar c).map UInt16.toNat

def hrpExpand (hrp : List Char) : Except JsError (List Nat) :=
  let codes := hrp.flatMap unitsOf
  newInts (int32 (int32 (codes.length * 2) + 1)) (Bech32.hrpExpand codes)

def concat (a b : List Nat) : Except JsError (List Nat) := newInts (int32 (a.length + b.length)) (a ++ b)

def createChecksum (hrp : List Char) (data : List Nat) : Except JsError (List Nat) := do
  let expanded ← hrpExpand hrp
  let values ← concat expanded data
  let padded ← newInts (int32 (values.length + 6)) values
  return sixGroups (polymod padded ^^^ 1#32)

def verifyChecksum (hrp : List Char) (data : List Nat) : Except JsError Bool := do
  let expanded ← hrpExpand hrp
  let values ← concat expanded data
  return polymod values == 1#32

def convertBits (data : List Nat) (fromBits toBits : Nat) (pad : Bool) : Except JsError (List Nat) :=
  let size := int32 ((int32 (data.length * fromBits)).tdiv toBits + 2)
  if size < 0 then fail "NegativeArraySizeException"
  else Bech32.convertBits (some size.toNat) data fromBits toBits pad

def encode (hrp : List Char) (data8 : Bytes) : Except JsError (List Char) := do
  let data5 ← convertBits (data8.map UInt8.toNat) 8 5 true
  let checksum ← createChecksum hrp data5
  return hrp ++ '1' :: (data5.map charOf ++ checksum.map charOf)

def decode (locale : CaseMapping) (addr : List Char) : Except JsError (List Char × Bytes) :=
  let lower := locale.lower addr
  let upper := locale.upper addr
  if addr ≠ lower ∧ addr ≠ upper then fail "bech32 string is mixed case"
  else
    match lastSplit lower with
    | none => fail "invalid bech32 separator position"
    | some (hrp, dataPart) =>
      let pos := (hrp.flatMap unitsOf).length
      if pos < 1 ∨ (lower.flatMap unitsOf).length < int32 (pos + 7) then fail "invalid bech32 separator position"
      else do
        let data5 ← (dataPart.flatMap unitsOf).mapM readGroup
        let checked ← verifyChecksum hrp data5
        if ¬ checked then fail "invalid bech32 checksum"
        else do
          let size := int32 (data5.length - 6)
          let payload ← newInts size (data5.take size.toNat)
          let data8 ← convertBits payload 5 8 false
          return (hrp, data8.map UInt8.ofNat)

/-! ### Sizes -/

section
variable {n bits size : Nat} {values out : List Nat}

/-- An `int` is off by a multiple of 2^32. -/
theorem int32_spec (n : Int) : ∃ turns : Int, int32 n = n - 2 ^ 32 * turns ∧ -2 ^ 31 ≤ int32 n ∧ int32 n < 2 ^ 31 := by
  have low : -((2 ^ 32 : Nat) / 2 : Int) ≤ n.bmod (2 ^ 32) := Int.le_bmod (by decide)
  have high : n.bmod (2 ^ 32) < ((2 ^ 32 : Nat) + 1) / 2 := Int.bmod_lt (by decide)
  refine ⟨n.bdiv (2 ^ 32), Int.bmod_eq_self_sub_mul_bdiv n (2 ^ 32), ?_, ?_⟩
  · unfold int32
    omega
  · unfold int32
    omega

theorem int32_of_lt (small : n < 2 ^ 31) : int32 n = n := by
  obtain ⟨turns, value, low, high⟩ := int32_spec n
  omega

theorem newInts_ok_iff {size : Int} : newInts size values = .ok out ↔
    (values.length : Int) ≤ size ∧ out = values ++ List.replicate (size.toNat - values.length) 0 := by
  unfold newInts
  constructor
  · intro h
    split at h
    · cases h
    · split at h
      · cases h
      · exact ⟨by omega, (Except.ok.inj h).symm⟩
  · intro h
    rw [if_neg (by omega), if_neg (by omega), h.2]

/-- The values fit an array of their own number if that is an `int`. -/
theorem newInts_own {n : Nat} (length : values.length = n) :
    newInts (int32 n) values = .ok out ↔ out = values ∧ n < 2 ^ 31 := by
  obtain ⟨turns, value, low, high⟩ := int32_spec n
  rw [newInts_ok_iff]
  constructor
  · intro h
    have small : n < 2 ^ 31 := by omega
    rw [int32_of_lt small, Int.toNat_natCast, length, Nat.sub_self, List.replicate_zero, List.append_nil] at h
    exact ⟨h.2, small⟩
  · intro h
    rw [int32_of_lt h.2, Int.toNat_natCast, length, Nat.sub_self, List.replicate_zero, List.append_nil]
    exact ⟨Int.le_refl _, h.1⟩

theorem length_hrpExpand (codes : List Nat) : (Bech32.hrpExpand codes).length = codes.length * 2 + 1 := by
  unfold Bech32.hrpExpand
  rw [List.length_append, List.length_cons, List.length_map, List.length_map]
  omega

end

section
variable {hrp : List Char} {a b data expanded values out : List Nat}

theorem hrpExpand_ok_iff : hrpExpand hrp = .ok out ↔
    out = Bech32.hrpExpand (hrp.flatMap unitsOf) ∧ (hrp.flatMap unitsOf).length * 2 + 1 < 2 ^ 31 := by
  have size : int32 (int32 ((hrp.flatMap unitsOf).length * 2) + 1) =
      int32 ((hrp.flatMap unitsOf).length * 2 + 1 : Nat) := Int.bmod_add_bmod
  unfold hrpExpand
  dsimp only
  rw [size]
  exact newInts_own (length_hrpExpand _)

theorem concat_ok_iff : concat a b = .ok out ↔ out = a ++ b ∧ a.length + b.length < 2 ^ 31 :=
  newInts_own List.length_append

theorem verifyChecksum_ok_iff {checked : Bool} : verifyChecksum hrp data = .ok checked ↔
    checked = Bech32.verifyChecksum (hrp.flatMap unitsOf) data ∧
      (hrp.flatMap unitsOf).length * 2 + 1 + data.length < 2 ^ 31 := by
  unfold verifyChecksum
  constructor
  · intro h
    obtain ⟨expanded, first, h⟩ := bind_ok h
    obtain ⟨values, second, h⟩ := bind_ok h
    obtain ⟨rfl, -⟩ := hrpExpand_ok_iff.mp first
    obtain ⟨rfl, size⟩ := concat_ok_iff.mp second
    rw [length_hrpExpand] at size
    exact ⟨(pure_ok_iff.mp h).symm, size⟩
  · intro h
    obtain ⟨rfl, size⟩ := h
    rw [hrpExpand_ok_iff.mpr ⟨rfl, by omega⟩, ok_bind, concat_ok_iff.mpr ⟨rfl, by rw [length_hrpExpand]; omega⟩]
    rfl

theorem createChecksum_ok_iff : createChecksum hrp data = .ok out ↔
    out = Bech32.createChecksum (hrp.flatMap unitsOf) data ∧
      (hrp.flatMap unitsOf).length * 2 + 1 + data.length + 6 < 2 ^ 31 := by
  have pad : ∀ {values padded : List Nat}, newInts (int32 (values.length + 6)) values = .ok padded ↔
      padded = values ++ List.replicate 6 0 ∧ values.length + 6 < 2 ^ 31 := by
    intro values padded
    obtain ⟨turns, value, low, high⟩ := int32_spec (values.length + 6)
    rw [newInts_ok_iff]
    constructor
    · intro h
      have size : (int32 (values.length + 6)).toNat - values.length = 6 := by omega
      rw [size] at h
      exact ⟨h.2, by omega⟩
    · intro h
      have size : (int32 (values.length + 6)).toNat - values.length = 6 := by omega
      rw [size]
      exact ⟨by omega, h.1⟩
  unfold createChecksum
  constructor
  · intro h
    obtain ⟨expanded, first, h⟩ := bind_ok h
    obtain ⟨values, second, h⟩ := bind_ok h
    obtain ⟨padded, third, h⟩ := bind_ok h
    obtain ⟨rfl, -⟩ := hrpExpand_ok_iff.mp first
    obtain ⟨rfl, -⟩ := concat_ok_iff.mp second
    obtain ⟨rfl, size⟩ := pad.mp third
    rw [List.length_append, length_hrpExpand] at size
    exact ⟨(pure_ok_iff.mp h).symm, size⟩
  · intro h
    obtain ⟨rfl, size⟩ := h
    rw [hrpExpand_ok_iff.mpr ⟨rfl, by omega⟩, ok_bind, concat_ok_iff.mpr ⟨rfl, by rw [length_hrpExpand]; omega⟩,
      ok_bind, pad.mpr ⟨rfl, by rw [List.length_append, length_hrpExpand]; omega⟩]
    rfl

/-- The size of the array for the groups: two more than there are in the bits, if these are counted right. -/
theorem groups_size {toBits : Nat} (sizes : toBits = 5 ∨ toBits = 8) (bits : Nat) :
    (bits < 2 ^ 31 → int32 ((int32 bits).tdiv toBits + 2) = bits / toBits + 2) ∧
    (2 ^ 31 ≤ bits → toBits * (int32 ((int32 bits).tdiv toBits + 2) + 2) < bits) := by
  obtain ⟨turns, value, low, high⟩ := int32_spec bits
  obtain ⟨turns', value', low', high'⟩ := int32_spec ((int32 bits).tdiv toBits + 2)
  have quotient : (int32 bits).tdiv toBits = int32 bits / toBits ∨
      int32 bits < 0 ∧ (int32 bits).tdiv toBits = -(-int32 bits / toBits) := by
    rcases lt_or_ge (int32 bits) 0 with negative | nonneg
    · refine Or.inr ⟨negative, ?_⟩
      rw [← Int.tdiv_eq_ediv_of_nonneg (by omega), Int.neg_tdiv, Int.neg_neg]
    · exact Or.inl (Int.tdiv_eq_ediv_of_nonneg nonneg)
  rcases sizes with rfl | rfl
  · omega
  · omega

/-- The array has room for the groups exactly if the number of bits is an `int`. -/
theorem convertBits_ok_iff {fromBits toBits : Nat} {pad : Bool} (sizes : toBits = 5 ∨ toBits = 8)
    (count : Bech32.convertBits none data fromBits toBits pad = .ok out →
      data.length * fromBits < toBits * out.length + toBits ∧ toBits * out.length < data.length * fromBits + toBits) :
    convertBits data fromBits toBits pad = .ok out ↔
      Bech32.convertBits none data fromBits toBits pad = .ok out ∧ data.length * fromBits < 2 ^ 31 := by
  obtain ⟨fits, short⟩ := groups_size sizes (data.length * fromBits)
  rw [Nat.cast_mul] at fits short
  unfold convertBits
  dsimp only
  constructor
  · intro h
    split at h
    · cases h
    · obtain ⟨result, room⟩ := convertBits_some_iff.mp h
      refine ⟨result, ?_⟩
      obtain ⟨enough, -⟩ := count result
      rcases sizes with rfl | rfl
      · omega
      · omega
  · intro h
    obtain ⟨result, small⟩ := h
    obtain ⟨-, few⟩ := count result
    have size := fits small
    rw [size]
    rcases sizes with rfl | rfl
    · rw [if_neg (by omega)]
      exact convertBits_some_iff.mpr ⟨result, by omega⟩
    · rw [if_neg (by omega)]
      exact convertBits_some_iff.mpr ⟨result, by omega⟩

end

/-! ### What is accepted -/

/-- The sizes of all arrays are `int`s. -/
def Fits (hrp : List Char) (data : Bytes) : Prop :=
  data.length < 2 ^ 28 ∧ (hrp.flatMap unitsOf).length * 2 + 1 + (data.length * 8 + 4) / 5 + 6 < 2 ^ 31

section
variable {locale : CaseMapping} {hrp s : List Char} {data : Bytes} {groups out : List Nat}

theorem unitsOf_leavesAscii : LeavesAscii unitsOf := unitsOfChar_leavesAscii

theorem convertBits_five (data : Bytes) : convertBits (data.map UInt8.toNat) 8 5 true = .ok groups ↔
    groups = fiveBits (data.map UInt8.toNat) ∧ data.length < 2 ^ 28 := by
  have five := Bech32.convertBits_five (small_of_bytes data)
  have length := length_fiveBits (data.map UInt8.toNat)
  rw [List.length_map] at length
  rw [convertBits_ok_iff (Or.inl rfl), five, List.length_map]
  · constructor
    · intro h
      exact ⟨(Except.ok.inj h.1).symm, by omega⟩
    · intro h
      exact ⟨by rw [h.1], by omega⟩
  · intro h
    rw [five] at h
    rw [← Except.ok.inj h, length, List.length_map]
    omega

theorem length_data (small : ∀ v ∈ groups, v < 32) (bytes : Bech32.convertBits none groups 5 8 false = .ok out) :
    groups.length = (8 * out.length + 4) / 5 := by
  obtain ⟨-, five⟩ := (convertBits_eight_iff small).mp bytes
  rw [five]
  exact length_fiveBits out

theorem convertBits_eight (small : ∀ v ∈ groups, v < 32) : convertBits groups 5 8 false = .ok out ↔
    Bech32.convertBits none groups 5 8 false = .ok out ∧ groups.length * 5 < 2 ^ 31 := by
  refine convertBits_ok_iff (Or.inr rfl) ?_
  intro h
  have length := length_data small h
  omega

theorem payload_small {cs : List Char} (letters : (cs.flatMap unitsOf).mapM readGroup = .ok groups) :
    ∀ v ∈ groups.take (groups.length - 6), v < 32 := by
  intro v member
  exact ((mapM_readGroup unitsOf_leavesAscii).mp letters).2 v (List.mem_of_mem_take member)

theorem payload_ok_iff (long : 6 ≤ groups.length) (size : groups.length < 2 ^ 31) :
    newInts (int32 (groups.length - 6)) (groups.take (int32 (groups.length - 6)).toNat) = .ok out ↔
      out = groups.take (groups.length - 6) := by
  have length : (groups.take (groups.length - 6)).length = groups.length - 6 := by
    rw [List.length_take]
    omega
  have value : ((groups.length : Int) - 6) = (groups.length - 6 : Nat) := by omega
  rw [value, int32_of_lt (by omega), Int.toNat_natCast, ← int32_of_lt (by omega), newInts_own length]
  exact and_iff_left (by omega)

theorem encode_ok_iff : encode hrp data = .ok s ↔ s = text unitsOf hrp data ∧ Fits hrp data := by
  have length := length_fiveBits (data.map UInt8.toNat)
  rw [List.length_map] at length
  unfold encode Fits
  constructor
  · intro h
    obtain ⟨groups, first, h⟩ := bind_ok h
    obtain ⟨word, second, h⟩ := bind_ok h
    obtain ⟨rfl, few⟩ := (convertBits_five data).mp first
    obtain ⟨rfl, size⟩ := createChecksum_ok_iff.mp second
    refine ⟨?_, few, by omega⟩
    rw [← pure_ok_iff.mp h, text, textGroups, List.map_append]
  · intro h
    obtain ⟨rfl, few, size⟩ := h
    rw [(convertBits_five data).mpr ⟨rfl, few⟩, ok_bind, createChecksum_ok_iff.mpr ⟨rfl, by omega⟩, ok_bind, text,
      textGroups, List.map_append]
    rfl

/-- A string is accepted if it is in one case, its lower case is the text of what is returned, and the arrays for
that can be made. -/
theorem decode_ok_iff : decode locale s = .ok (hrp, data) ↔
    locale.OneCase s ∧ (hrp ≠ [] ∧ locale.lower s = text unitsOf hrp data) ∧ Fits hrp data := by
  have oneCase : ¬ (s ≠ locale.lower s ∧ s ≠ locale.upper s) ↔ locale.OneCase s := by
    rw [not_and_or, not_not, not_not]
    exact Iff.rfl
  unfold decode Fits
  dsimp only
  rw [guard_ok_iff, oneCase, and_congr_right_iff, eq_text_iff_found unitsOf_leavesAscii]
  intro _
  constructor
  · intro h
    split at h
    · cases h
    · rename_i hrp' dataPart split
      obtain ⟨place, h⟩ := guard_ok_iff.mp h
      obtain ⟨groups, letters, h⟩ := bind_ok h
      obtain ⟨checked, verified, h⟩ := bind_ok h
      obtain ⟨closed, h⟩ := guard_ok_iff.mp h
      obtain ⟨payload, copied, h⟩ := bind_ok h
      obtain ⟨out, bytes, h⟩ := bind_ok h
      obtain ⟨rfl, back⟩ := Prod.mk.inj (pure_ok_iff.mp h)
      obtain ⟨rfl, size⟩ := verifyChecksum_ok_iff.mp verified
      have length := length_split unitsOf_leavesAscii split letters
      have inRange := int32_of_lt (show (hrp'.flatMap unitsOf).length + 7 < 2 ^ 31 by omega)
      rw [Nat.cast_add, Nat.cast_ofNat] at inRange
      have long : 6 ≤ groups.length := by omega
      obtain rfl := (payload_ok_iff long (by omega)).mp copied
      have small := payload_small letters
      obtain ⟨bytes, few⟩ := (convertBits_eight small).mp bytes
      have number := length_data small bytes
      rw [List.length_take] at number few
      refine ⟨⟨(length_codes unitsOf_leavesAscii).mp (by omega), dataPart, groups, out, ?_, back⟩, ?_⟩
      · exact ⟨split, letters, long, not_not.mp closed, bytes⟩
      · rw [← back, List.length_map]
        omega
  · intro h
    obtain ⟨⟨named, dataPart, groups, out, found, back⟩, few, size⟩ := h
    have length := length_split unitsOf_leavesAscii found.split found.letters
    have some_code := (length_codes unitsOf_leavesAscii).mpr named
    have long := found.long
    have small := payload_small found.letters
    have number := length_data small found.bytes
    rw [List.length_take] at number
    rw [← back, List.length_map] at few size
    have inRange := int32_of_lt (show (hrp.flatMap unitsOf).length + 7 < 2 ^ 31 by omega)
    rw [Nat.cast_add, Nat.cast_ofNat] at inRange
    rw [found.split]
    dsimp only
    rw [if_neg (by omega), found.letters, ok_bind, verifyChecksum_ok_iff.mpr ⟨rfl, by omega⟩, ok_bind,
      if_neg (not_not.mpr found.checked), (payload_ok_iff long (by omega)).mpr rfl, ok_bind,
      (convertBits_eight small).mpr ⟨found.bytes, by rw [List.length_take]; omega⟩, ok_bind, back]
    rfl

end
end Jvm
end QorechainRdk
