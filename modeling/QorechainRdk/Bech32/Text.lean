import QorechainRdk.Bech32.Checksum
import QorechainRdk.Bech32.Groups
import QorechainRdk.RulesSdks

/-!
# The text of an address

A human-readable part, the last `1` and groups of five bits in the letters of the alphabet. Texts are read by their
bytes in Go and by their units in Java.
-/

namespace QorechainRdk

open Js Regroup

namespace Bech32

/-- What is before the last `1`, and what is behind it. -/
def lastSplit : List Char → Option (List Char × List Char)
  | [] => none
  | c :: cs =>
    match lastSplit cs with
    | some (hrp, dataPart) => some (c :: hrp, dataPart)
    | none => if c = '1' then some ([], cs) else none

def charOf (v : Nat) : Char := CHARSET.getD v 'q'

def readGroup (code : Nat) : Except JsError Nat :=
  match charsetRev code with
  | some v => .ok v
  | none => fail "invalid bech32 character"

/-- The groups of some data and of its checksum. -/
def textGroups (code : Char → List Nat) (hrp : List Char) (data : Bytes) : List Nat :=
  let groups := fiveBits (data.map UInt8.toNat)
  groups ++ createChecksum (hrp.flatMap code) groups

def text (code : Char → List Nat) (hrp : List Char) (data : Bytes) : List Char :=
  hrp ++ '1' :: (textGroups code hrp data).map charOf

/-! ### The alphabet -/

theorem charOf_table : ∀ v : Fin 32, charsetRev (charOf v).toNat = some v.val ∧ (charOf v).toNat < 128 ∧
    charOf v ≠ '1' ∧ charOf v ≠ 'i' ∧ charOf v ∈ CHARSET := by decide

theorem charsetRev_table : ∀ n : Fin 128, ∀ v, charsetRev n = some v → v < 32 ∧ (charOf v).toNat = n := by
  have all : ∀ n : Fin 128, (charsetRev n).all (fun v => decide (v < 32 ∧ (charOf v).toNat = n.val)) = true := by
    decide +kernel
  intro n v found
  have check := all n
  rw [found] at check
  exact of_decide_eq_true check

section
variable {v w code : Nat} {groups : List Nat} {cs hrp dataPart : List Char} {c : Char}

theorem charOf_ascii (small : v < 32) : (charOf v).toNat < 128 := (charOf_table ⟨v, small⟩).2.1

theorem charOf_inj (first : v < 32) (second : w < 32) (same : charOf v = charOf w) : v = w := by
  have left := (charOf_table ⟨v, first⟩).1
  have right := (charOf_table ⟨w, second⟩).1
  dsimp only at left right
  rw [same, right] at left
  exact (Option.some.inj left).symm

theorem charsetRev_beyond (large : 128 ≤ code) : charsetRev code = none := by
  have ascii : CHARSET.all (fun c => decide (c.toNat < 128)) = true := by decide
  unfold charsetRev
  rw [List.findIdx?_eq_none_iff]
  intro c member
  have small := of_decide_eq_true (List.all_eq_true.mp ascii c member)
  exact beq_eq_false_iff_ne.mpr (by omega)

theorem readGroup_ok_iff : readGroup code = .ok v ↔ v < 32 ∧ (charOf v).toNat = code := by
  unfold readGroup
  constructor
  · intro h
    split at h
    · rename_i found
      obtain rfl := Except.ok.inj h
      by_cases ascii : code < 128
      · exact charsetRev_table ⟨code, ascii⟩ _ found
      · rw [charsetRev_beyond (Nat.not_lt.mp ascii)] at found
        cases found
    · cases h
  · intro h
    obtain ⟨small, rfl⟩ := h
    rw [(charOf_table ⟨v, small⟩).1]

/-- Letters have one code each. -/
theorem length_letters {encode : Char → List Nat} (leaves : LeavesAscii encode) (small : ∀ v ∈ groups, v < 32) :
    ((groups.map charOf).flatMap encode).length = groups.length := by
  induction groups with
  | nil => rfl
  | cons v groups ih =>
    rw [List.forall_mem_cons] at small
    rw [List.map_cons, List.flatMap_cons, leaves.1 _ (charOf_ascii small.1), List.singleton_append, List.length_cons,
      ih small.2, List.length_cons]

theorem one_not_mem (groups : List Nat) (small : ∀ v ∈ groups, v < 32) : '1' ∉ groups.map charOf := by
  intro member
  obtain ⟨v, inside, same⟩ := List.mem_map.mp member
  exact (charOf_table ⟨v, small v inside⟩).2.2.1 same

theorem map_charOf_inj {us : List Nat} (first : ∀ v ∈ groups, v < 32) (second : ∀ v ∈ us, v < 32)
    (same : groups.map charOf = us.map charOf) : groups = us := by
  induction groups generalizing us with
  | nil => exact (List.map_eq_nil_iff.mp same.symm).symm
  | cons v groups ih =>
    cases us with
    | nil => cases same
    | cons u us =>
      rw [List.forall_mem_cons] at first second
      obtain ⟨head, tail⟩ := List.cons.inj same
      rw [charOf_inj first.1 second.1 head, ih first.2 second.2 tail]

/-- Letters of the alphabet are read as their groups, and nothing else is read. -/
theorem mapM_readGroup {encode : Char → List Nat} (leaves : LeavesAscii encode) :
    (cs.flatMap encode).mapM readGroup = .ok groups ↔ cs = groups.map charOf ∧ ∀ v ∈ groups, v < 32 := by
  induction cs generalizing groups with
  | nil =>
    rw [List.flatMap_nil, List.mapM_nil, pure_ok_iff]
    constructor
    · rintro rfl
      exact ⟨rfl, by simp⟩
    · intro h
      exact (List.map_eq_nil_iff.mp h.1.symm).symm
  | cons c cs ih =>
    by_cases ascii : c.toNat < 128
    · rw [List.flatMap_cons, leaves.1 c ascii, List.singleton_append, List.mapM_cons, bind_ok_iff]
      constructor
      · intro h
        obtain ⟨v, first, h⟩ := h
        obtain ⟨vs, rest, h⟩ := bind_ok h
        obtain ⟨small, code⟩ := readGroup_ok_iff.mp first
        obtain ⟨tail, smalls⟩ := ih.mp rest
        rw [← pure_ok_iff.mp h, List.map_cons, List.forall_mem_cons, ← tail, Char.toNat_inj.mp code]
        exact ⟨rfl, small, smalls⟩
      · intro h
        obtain ⟨letters, small⟩ := h
        cases groups with
        | nil => cases letters
        | cons v groups =>
          obtain ⟨head, tail⟩ := List.cons.inj letters
          rw [List.forall_mem_cons] at small
          refine ⟨v, readGroup_ok_iff.mpr ⟨small.1, by rw [head]⟩, ?_⟩
          rw [ih.mpr ⟨tail, small.2⟩]
          rfl
    · obtain ⟨n, rest, codes, large⟩ := leaves.2 c (Nat.not_lt.mp ascii)
      rw [List.flatMap_cons, codes, List.cons_append, List.mapM_cons]
      constructor
      · intro h
        obtain ⟨v, first, -⟩ := bind_ok h
        obtain ⟨small, code⟩ := readGroup_ok_iff.mp first
        have below := charOf_ascii small
        omega
      · intro h
        obtain ⟨letters, small⟩ := h
        cases groups with
        | nil => cases letters
        | cons v groups =>
          obtain ⟨rfl, -⟩ := List.cons.inj letters
          exact absurd (charOf_ascii (small v List.mem_cons_self)) ascii

/-! ### The last `1` -/

theorem lastSplit_none : lastSplit cs = none ↔ '1' ∉ cs := by
  induction cs with
  | nil => simp [lastSplit]
  | cons c cs ih =>
    unfold lastSplit
    cases split : lastSplit cs with
    | some parts =>
      have member : '1' ∈ cs := by
        by_contra absent
        rw [ih.mpr absent] at split
        cases split
      simp [member]
    | none =>
      have absent := ih.mp split
      by_cases one : c = '1'
      · simp [one]
      · simp [one, absent, Ne.symm one]

theorem lastSplit_eq_some_iff :
    lastSplit cs = some (hrp, dataPart) ↔ cs = hrp ++ '1' :: dataPart ∧ '1' ∉ dataPart := by
  induction cs generalizing hrp with
  | nil => simp [lastSplit]
  | cons c cs ih =>
    unfold lastSplit
    cases split : lastSplit cs with
    | some parts =>
      obtain ⟨front, rest⟩ := parts
      rw [split] at ih
      dsimp only
      constructor
      · intro h
        obtain ⟨rfl, rfl⟩ := Prod.mk.inj (Option.some.inj h)
        obtain ⟨whole, absent⟩ := ih.mp rfl
        exact ⟨by rw [List.cons_append, ← whole], absent⟩
      · intro h
        obtain ⟨whole, absent⟩ := h
        cases hrp with
        | nil =>
          obtain ⟨-, rfl⟩ := List.cons.inj whole
          rw [lastSplit_none.mpr absent] at split
          cases split
        | cons d hrp =>
          obtain ⟨rfl, tail⟩ := List.cons.inj whole
          obtain ⟨rfl, rfl⟩ := Prod.mk.inj (Option.some.inj (ih.mpr ⟨tail, absent⟩))
          rfl
    | none =>
      have absent := lastSplit_none.mp split
      dsimp only
      constructor
      · intro h
        split at h
        · rename_i one
          obtain ⟨rfl, rfl⟩ := Prod.mk.inj (Option.some.inj h)
          exact ⟨by rw [one]; rfl, absent⟩
        · cases h
      · intro h
        obtain ⟨whole, -⟩ := h
        cases hrp with
        | nil =>
          obtain ⟨rfl, rfl⟩ := List.cons.inj whole
          exact if_pos rfl
        | cons d hrp =>
          obtain ⟨-, rfl⟩ := List.cons.inj whole
          exact absurd (List.mem_append_right hrp List.mem_cons_self) absent

/-! ### What is read is a text -/

theorem small_of_bytes (data : Bytes) : ∀ v ∈ data.map UInt8.toNat, v < 256 := by
  intro v member
  obtain ⟨b, -, rfl⟩ := List.mem_map.mp member
  exact b.toNat_lt

theorem createChecksum_small (codes data : List Nat) : ∀ v ∈ createChecksum codes data, v < 32 := by
  rw [createChecksum_eq]
  exact digits_lt (by decide)

theorem length_createChecksum (codes data : List Nat) : (createChecksum codes data).length = 6 := by
  rw [createChecksum_eq, length_digits]

/-- Groups that are checked and read as bytes are the groups of a text. -/
theorem groups_iff {codes : List Nat} {data : Bytes} (small : ∀ v ∈ groups, v < 32) :
    (6 ≤ groups.length ∧ verifyChecksum codes groups = true ∧
      ∃ out, convertBits none (groups.take (groups.length - 6)) 5 8 false = .ok out ∧
        out.map UInt8.ofNat = data) ↔
    groups = fiveBits (data.map UInt8.toNat) ++ createChecksum codes (fiveBits (data.map UInt8.toNat)) := by
  constructor
  · intro h
    obtain ⟨long, checked, out, read, rfl⟩ := h
    have whole := List.take_append_drop (groups.length - 6) groups
    have front : ∀ v ∈ groups.take (groups.length - 6), v < 32 := fun v member => small v (List.mem_of_mem_take member)
    have word : ∀ v ∈ groups.drop (groups.length - 6), v < 32 := fun v member => small v (List.mem_of_mem_drop member)
    have length : (groups.drop (groups.length - 6)).length = 6 := by
      rw [List.length_drop]
      omega
    rw [← whole, verifyChecksum_iff front length word] at checked
    obtain ⟨bytes, five⟩ := (convertBits_eight_iff front).mp read
    have back : (out.map UInt8.ofNat).map UInt8.toNat = out := by
      rw [List.map_map]
      refine (List.map_congr_left fun v member => ?_).trans (List.map_id out)
      exact (UInt8.toNat_ofNat' ..).trans (Nat.mod_eq_of_lt (bytes v member))
    rw [back, ← five, ← checked, whole]
  · intro whole
    have word := createChecksum_small codes (fiveBits (data.map UInt8.toNat))
    have length := length_createChecksum codes (fiveBits (data.map UInt8.toNat))
    have front := fiveBits_lt (data.map UInt8.toNat)
    have take : groups.take (groups.length - 6) = fiveBits (data.map UInt8.toNat) := by
      rw [whole, List.length_append, length, Nat.add_sub_cancel, List.take_left]
    refine ⟨by rw [whole, List.length_append, length]; omega, ?_, data.map UInt8.toNat, ?_, ?_⟩
    · rw [whole]
      exact (verifyChecksum_iff front length word).mpr rfl
    · rw [take]
      exact (convertBits_eight_iff front).mpr ⟨small_of_bytes data, rfl⟩
    · rw [List.map_map]
      refine (List.map_congr_left fun b _ => ?_).trans (List.map_id data)
      exact UInt8.ofNat_toNat

theorem textGroups_small (code : Char → List Nat) (hrp : List Char) (data : Bytes) :
    ∀ v ∈ textGroups code hrp data, v < 32 := by
  intro v member
  rcases List.mem_append.mp member with five | word
  · exact fiveBits_lt _ v five
  · exact createChecksum_small _ _ v word

/-- Every letter of a text is one of the alphabet. -/
theorem text_letter {code : Char → List Nat} {hrp : List Char} {data : Bytes}
    (letter : c ∈ (textGroups code hrp data).map charOf) : c.toNat < 128 ∧ c ≠ '1' ∧ c ≠ 'i' ∧ c ∈ CHARSET := by
  obtain ⟨v, group, rfl⟩ := List.mem_map.mp letter
  exact (charOf_table ⟨v, textGroups_small code hrp data v group⟩).2

theorem textGroups_checked (code : Char → List Nat) (hrp : List Char) (data : Bytes) :
    verifyChecksum (hrp.flatMap code) (textGroups code hrp data) = true :=
  ((groups_iff (textGroups_small code hrp data)).mpr rfl).2.1

theorem split_inj {hrp' dataPart' : List Char} (absent : '1' ∉ dataPart) (absent' : '1' ∉ dataPart')
    (same : hrp ++ '1' :: dataPart = hrp' ++ '1' :: dataPart') : hrp = hrp' ∧ dataPart = dataPart' := by
  have first : lastSplit (hrp ++ '1' :: dataPart) = some (hrp, dataPart) := lastSplit_eq_some_iff.mpr ⟨rfl, absent⟩
  have second : lastSplit (hrp ++ '1' :: dataPart) = some (hrp', dataPart') :=
    lastSplit_eq_some_iff.mpr ⟨same, absent'⟩
  exact Prod.mk.inj (Option.some.inj (first.symm.trans second))

/-- A text has its parts around its last `1`. -/
theorem eq_text_iff {encode : Char → List Nat} {hrp' : List Char} {data : Bytes} (absent : '1' ∉ dataPart) :
    hrp ++ '1' :: dataPart = text encode hrp' data ↔
      hrp = hrp' ∧ dataPart = (textGroups encode hrp' data).map charOf := by
  constructor
  · exact split_inj absent (one_not_mem _ (textGroups_small encode hrp' data))
  · rintro ⟨rfl, rfl⟩
    rfl

/-- What a decoder finds step by step in a string of one case, if that is a text. -/
structure Found (encode : Char → List Nat) (t hrp dataPart : List Char) (groups out : List Nat) : Prop where
  split : lastSplit t = some (hrp, dataPart)
  letters : (dataPart.flatMap encode).mapM readGroup = .ok groups
  long : 6 ≤ groups.length
  checked : verifyChecksum (hrp.flatMap encode) groups = true
  bytes : convertBits none (groups.take (groups.length - 6)) 5 8 false = .ok out

/-- The units of the whole, once the letters are read. -/
theorem length_split {encode : Char → List Nat} {t : List Char} (leaves : LeavesAscii encode)
    (split : lastSplit t = some (hrp, dataPart)) (read : (dataPart.flatMap encode).mapM readGroup = .ok groups) :
    (t.flatMap encode).length = (hrp.flatMap encode).length + 1 + groups.length := by
  obtain ⟨whole, -⟩ := lastSplit_eq_some_iff.mp split
  obtain ⟨letters, small⟩ := (mapM_readGroup leaves).mp read
  have codes := length_letters leaves small
  rw [← letters] at codes
  rw [whole, List.flatMap_append, List.flatMap_cons, leaves.1 '1' (by decide), List.length_append,
    List.length_append, codes, List.length_singleton, Nat.add_assoc]

theorem length_codes {encode : Char → List Nat} (leaves : LeavesAscii encode) :
    1 ≤ (hrp.flatMap encode).length ↔ hrp ≠ [] := by
  cases hrp with
  | nil => simp
  | cons c cs =>
    have some_code : 1 ≤ (encode c).length := by
      by_cases ascii : c.toNat < 128
      · rw [leaves.1 c ascii]
        exact Nat.le_refl 1
      · obtain ⟨n, rest, codes, -⟩ := leaves.2 c (Nat.not_lt.mp ascii)
        rw [codes]
        exact Nat.le_add_left 1 _
    rw [List.flatMap_cons, List.length_append]
    exact iff_of_true (Nat.le_trans some_code (Nat.le_add_right _ _)) (List.cons_ne_nil c cs)

/-- Exactly texts are found. -/
theorem eq_text_iff_found {encode : Char → List Nat} {t : List Char} {data : Bytes} (leaves : LeavesAscii encode) :
    t = text encode hrp data ↔
      ∃ dataPart groups out, Found encode t hrp dataPart groups out ∧ out.map UInt8.ofNat = data := by
  constructor
  · rintro rfl
    have small := textGroups_small encode hrp data
    obtain ⟨long, checked, out, bytes, back⟩ := (groups_iff small).mpr rfl
    exact ⟨_, _, out, ⟨lastSplit_eq_some_iff.mpr ⟨rfl, one_not_mem _ small⟩, (mapM_readGroup leaves).mpr ⟨rfl, small⟩,
      long, checked, bytes⟩, back⟩
  · intro h
    obtain ⟨dataPart, groups, out, found, back⟩ := h
    obtain ⟨whole, -⟩ := lastSplit_eq_some_iff.mp found.split
    obtain ⟨letters, small⟩ := (mapM_readGroup leaves).mp found.letters
    have same := (groups_iff small).mp ⟨found.long, found.checked, out, found.bytes, back⟩
    rw [whole, letters, same]
    rfl

end
end Bech32
end QorechainRdk
