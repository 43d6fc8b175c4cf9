import QorechainRdk.Lib.Checksum
import QorechainRdk.Lib.Regroup
import Mathlib.Tactic.IntervalCases

/-!
# The checksum of an address

What `bech32.go` and `Bech32.java` have in common: the alphabet and the checksum over groups of five bits, as a linear
register of 30 bits.
-/

namespace QorechainRdk

namespace Bech32

def CHARSET : List Char := "qpzry9x8gf2tvdw0s3jn54khce6mua7l".toList

/-- The place of a code in the alphabet. -/
def charsetRev (code : Nat) : Option Nat := CHARSET.findIdx? fun c => c.toNat == code

def GEN : List (BitVec 32) := [0x3b6a57b2, 0x26508e6d, 0x1ea119fa, 0x3d4233dd, 0x2a1462b3]

def polymodStep (chk : BitVec 32) (v : Nat) : BitVec 32 :=
  let b := chk >>> 25
  GEN.zipIdx.foldl (fun chk g => if (b >>> g.2) &&& 1#32 = 1#32 then chk ^^^ g.1 else chk)
    ((chk &&& 0x1ffffff#32) <<< 5 ^^^ BitVec.ofNat 32 v)

def polymod (values : List Nat) : BitVec 32 := values.foldl polymodStep 1#32

/-- The high and the low bits of the codes of a string; no byte has more than eight high bits. -/
def hrpExpand (hrp : List Nat) : List Nat := hrp.map (fun c => c >>> 5 &&& 0xff) ++ 0 :: hrp.map fun c => c &&& 31

def sixGroups (p : BitVec 32) : List Nat := (List.range 6).map fun i => ((p >>> (5 * (5 - i))) &&& 31#32).toNat

def createChecksum (hrp data : List Nat) : List Nat :=
  sixGroups (polymod (hrpExpand hrp ++ data ++ List.replicate 6 0) ^^^ 1#32)

def verifyChecksum (hrp data : List Nat) : Bool := polymod (hrpExpand hrp ++ data) == 1#32

/-! ### The register -/

/-- What the bits that leave the register bring back. -/
def selected (b : BitVec 32) (g : BitVec 32 × Nat) : BitVec 32 := if b.getLsbD g.2 then g.1 else 0#32

def feedback (b : BitVec 32) : BitVec 32 := (GEN.zipIdx.map (selected b)).foldl (· ^^^ ·) 0#32

def shift (chk : BitVec 32) : BitVec 32 := (chk &&& 0x1ffffff#32) <<< 5 ^^^ feedback (chk >>> 25)

section
variable {a b : BitVec 32}

theorem low_bit (b : BitVec 32) (i : Nat) : (b >>> i) &&& 1#32 = 1#32 ↔ b.getLsbD i = true := by
  have bit := BitVec.and_one_eq_setWidth_ofBool_getLsbD (x := b >>> i)
  rw [BitVec.getLsbD_ushiftRight, Nat.add_zero] at bit
  rw [bit]
  cases b.getLsbD i
  · decide
  · decide

theorem foldl_xor (vs : List (BitVec 32)) (x : BitVec 32) :
    vs.foldl (· ^^^ ·) x = x ^^^ vs.foldl (· ^^^ ·) 0#32 := by
  induction vs generalizing x with
  | nil => rw [List.foldl_nil, List.foldl_nil, BitVec.xor_zero]
  | cons v vs ih => rw [List.foldl_cons, List.foldl_cons, ih, ih (0#32 ^^^ v), BitVec.zero_xor, BitVec.xor_assoc]

theorem foldl_selected (b : BitVec 32) (gs : List (BitVec 32 × Nat)) (x : BitVec 32) :
    gs.foldl (fun chk g => if (b >>> g.2) &&& 1#32 = 1#32 then chk ^^^ g.1 else chk) x =
      (gs.map (selected b)).foldl (· ^^^ ·) x := by
  induction gs generalizing x with
  | nil => rfl
  | cons g gs ih =>
    rw [List.foldl_cons, List.map_cons, List.foldl_cons, ih]
    unfold selected
    by_cases bit : b.getLsbD g.2 = true
    · rw [if_pos ((low_bit b g.2).mpr bit), if_pos bit]
    · rw [if_neg (mt (low_bit b g.2).mp bit), if_neg bit, BitVec.xor_zero]

theorem polymodStep_eq (chk : BitVec 32) (v : Nat) : polymodStep chk v = shift chk ^^^ BitVec.ofNat 32 v := by
  unfold polymodStep shift feedback
  dsimp only
  rw [foldl_selected, foldl_xor]
  ac_rfl

theorem selected_xor (a b : BitVec 32) (g : BitVec 32 × Nat) :
    selected (a ^^^ b) g = selected a g ^^^ selected b g := by
  unfold selected
  rw [BitVec.getLsbD_xor]
  cases a.getLsbD g.2
  · cases b.getLsbD g.2 <;> simp
  · cases b.getLsbD g.2 <;> simp

theorem feedback_xor (a b : BitVec 32) : feedback (a ^^^ b) = feedback a ^^^ feedback b := by
  unfold feedback
  induction GEN.zipIdx with
  | nil => simp
  | cons g gs ih =>
    rw [List.map_cons, List.map_cons, List.map_cons, List.foldl_cons, List.foldl_cons, List.foldl_cons, foldl_xor,
      foldl_xor _ (0#32 ^^^ selected a g), foldl_xor _ (0#32 ^^^ selected b g), ih, selected_xor]
    simp only [BitVec.zero_xor]
    ac_rfl

theorem shift_xor (a b : BitVec 32) : shift (a ^^^ b) = shift a ^^^ shift b := by
  have mask : (a ^^^ b) &&& 0x1ffffff#32 = (a &&& 0x1ffffff#32) ^^^ (b &&& 0x1ffffff#32) := by
    ext i
    simp only [BitVec.getElem_xor, BitVec.getElem_and]
    exact Bool.and_xor_distrib_right ..
  unfold shift
  rw [mask, BitVec.shiftLeft_xor_distrib, BitVec.ushiftRight_xor_distrib, feedback_xor]
  ac_rfl

theorem toNat_top (fits : a.toNat < 2 ^ 30) :
    ∃ n : Fin 32, a >>> 25 = BitVec.ofNat 32 n.val ∧ n.val = a.toNat / 2 ^ 25 := by
  refine ⟨⟨a.toNat / 2 ^ 25, by omega⟩, ?_, rfl⟩
  apply BitVec.eq_of_toNat_eq
  rw [BitVec.toNat_ushiftRight, Nat.shiftRight_eq_div_pow, BitVec.toNat_ofNat, Nat.mod_eq_of_lt (by omega)]

theorem toNat_low (a : BitVec 32) : ((a &&& 0x1ffffff#32) <<< 5).toNat = 32 * (a.toNat % 2 ^ 25) := by
  have low : (a &&& 0x1ffffff#32).toNat = a.toNat % 2 ^ 25 := by
    rw [BitVec.toNat_and]
    exact Nat.and_two_pow_sub_one_eq_mod a.toNat 25
  rw [BitVec.toNat_shiftLeft, low, Nat.shiftLeft_eq]
  omega

/-- The generators fit, and no choice of them cancels in the last five bits. -/
theorem feedback_table : ∀ n : Fin 32, (feedback (BitVec.ofNat 32 n.val)).toNat < 2 ^ 30 ∧
    ((feedback (BitVec.ofNat 32 n.val)).setWidth 5 = 0#5 → n.val = 0) := by decide

theorem shift_lt (fits : a.toNat < 2 ^ 30) : (shift a).toNat < 2 ^ 30 := by
  obtain ⟨n, top, -⟩ := toNat_top fits
  unfold shift
  rw [top, BitVec.toNat_xor]
  refine Nat.xor_lt_two_pow ?_ (feedback_table n).1
  rw [toNat_low]
  omega

/-- Without bits that leave, a shift is a multiplication. -/
theorem toNat_shift (small : a.toNat < 2 ^ 25) : (shift a).toNat = 32 * a.toNat := by
  have top : a >>> 25 = 0#32 := by
    apply BitVec.eq_of_toNat_eq
    rw [BitVec.toNat_ushiftRight, Nat.shiftRight_eq_div_pow, Nat.div_eq_of_lt small]
    rfl
  have nothing : feedback 0#32 = 0#32 := by decide
  unfold shift
  rw [top, nothing, BitVec.xor_zero, toNat_low, Nat.mod_eq_of_lt small]

theorem eq_zero_of_shift (fits : a.toNat < 2 ^ 30) (zero : shift a = 0#32) : a = 0#32 := by
  obtain ⟨n, top, value⟩ := toNat_top fits
  have last : (feedback (BitVec.ofNat 32 n.val)).setWidth 5 = 0#5 := by
    have low : ((a &&& 0x1ffffff#32) <<< 5).setWidth 5 = 0#5 := by
      apply BitVec.eq_of_toNat_eq
      rw [BitVec.toNat_setWidth, toNat_low]
      exact Nat.mul_mod_right 32 _
    have five := congrArg (BitVec.setWidth 5) zero
    rwa [shift, top, BitVec.setWidth_xor, low, BitVec.zero_xor] at five
  have small : a.toNat < 2 ^ 25 := by
    have none := (feedback_table n).2 last
    omega
  have product := congrArg BitVec.toNat zero
  rw [toNat_shift small] at product
  apply BitVec.eq_of_toNat_eq
  rw [BitVec.toNat_zero] at product ⊢
  omega

end

def register : Checksum.Register 32 where
  bits := 30
  shift := shift
  shift_xor := shift_xor
  shift_lt := shift_lt
  eq_zero_of_shift := eq_zero_of_shift

/-! ### Words of six groups -/

def symbols (values : List Nat) : List (BitVec 32) := values.map (BitVec.ofNat 32)

theorem polymod_eq (values : List Nat) : polymod values = register.run 1#32 (symbols values) := by
  have loop : ∀ s, values.foldl polymodStep s = register.run s (symbols values) := by
    induction values with
    | nil => exact fun s => rfl
    | cons v values ih =>
      intro s
      rw [List.foldl_cons, ih, polymodStep_eq]
      rfl
  exact loop 1#32

section
variable {v : Nat} {values word word' hrp data : List Nat}

theorem symbol_fits (small : v < 256) : register.Fits (BitVec.ofNat 32 v) := by
  show (BitVec.ofNat 32 v).toNat < 2 ^ 30
  rw [BitVec.toNat_ofNat]
  omega

theorem symbols_fit (small : ∀ v ∈ values, v < 256) : ∀ s ∈ symbols values, register.Fits s := by
  intro s member
  obtain ⟨v, inside, rfl⟩ := List.mem_map.mp member
  exact symbol_fits (small v inside)

theorem start_fits : register.Fits 1#32 := by
  show (1#32).toNat < 2 ^ 30
  decide

theorem hrpExpand_small (hrp : List Nat) : ∀ v ∈ hrpExpand hrp, v < 256 := by
  intro v member
  rcases List.mem_append.mp member with high | rest
  · obtain ⟨c, -, rfl⟩ := List.mem_map.mp high
    exact Nat.lt_of_le_of_lt Nat.and_le_right (by decide)
  · rcases List.mem_cons.mp rest with rfl | low
    · decide
    · obtain ⟨c, -, rfl⟩ := List.mem_map.mp low
      exact Nat.lt_of_le_of_lt Nat.and_le_right (by decide)

theorem shiftLeft_xor {s x : Nat} (small : x < 32) : 32 * s ^^^ x = 32 * s + x := by
  apply Nat.eq_of_testBit_eq
  intro i
  have sum := Nat.testBit_two_pow_mul_add s (show x < 2 ^ 5 from small) i
  rw [show 32 * s + x = 2 ^ 5 * s + x from rfl, sum, Nat.testBit_xor, show 32 * s = 2 ^ 5 * s from rfl,
    Nat.testBit_two_pow_mul]
  by_cases low : i < 5
  · rw [if_pos low, decide_eq_false (by omega), Bool.false_and, Bool.false_xor]
  · have above : x.testBit i = false := by
      have power : 2 ^ 5 ≤ 2 ^ i := Nat.pow_le_pow_right (by decide) (Nat.not_lt.mp low)
      exact Nat.testBit_lt_two_pow (Nat.lt_of_lt_of_le small power)
    rw [if_neg low, decide_eq_true (by omega), Bool.true_and, above, Bool.xor_false]

/-- Six groups fill the register from zero: nothing leaves it. -/
theorem run_word (length : word.length ≤ 6) (small : ∀ v ∈ word, v < 32) :
    (register.run 0#32 (symbols word)).toNat = Regroup.number 32 word := by
  induction word using List.reverseRecOn with
  | nil => rfl
  | append_singleton word v ih =>
    rw [List.length_append, List.length_singleton] at length
    have front := ih (by omega) fun u member => small u (List.mem_append_left _ member)
    have last := small v (by simp)
    have bound : Regroup.number 32 word < 2 ^ 25 := by
      have below := Regroup.number_lt fun u member => small u (List.mem_append_left _ member)
      have power : 32 ^ word.length ≤ 32 ^ 5 := Nat.pow_le_pow_right (by decide) (by omega)
      omega
    have split : register.run 0#32 (symbols (word ++ [v])) =
        shift (register.run 0#32 (symbols word)) ^^^ BitVec.ofNat 32 v := by
      rw [symbols, List.map_append, Checksum.Register.run_append]
      rfl
    rw [split, BitVec.toNat_xor, toNat_shift (by rw [front]; exact bound), front, BitVec.toNat_ofNat,
      Nat.mod_eq_of_lt (by omega), shiftLeft_xor last, Regroup.number_concat, Nat.mul_comm]

/-- What the last six groups have to be, as a number. -/
def closing (hrp data : List Nat) : BitVec 32 := polymod (hrpExpand hrp ++ data ++ List.replicate 6 0) ^^^ 1#32

theorem closing_fits (small : ∀ v ∈ data, v < 32) : (closing hrp data).toNat < 2 ^ 30 := by
  have values : ∀ v ∈ hrpExpand hrp ++ data ++ List.replicate 6 0, v < 256 := by
    intro v member
    rcases List.mem_append.mp member with front | zero
    · rcases List.mem_append.mp front with high | low
      · exact hrpExpand_small hrp v high
      · exact Nat.lt_trans (small v low) (by decide)
    · rw [(List.mem_replicate.mp zero).2]
      decide
  have state := start_fits.run (symbols_fit values)
  rw [← polymod_eq] at state
  exact state.xor start_fits

theorem createChecksum_eq (hrp data : List Nat) :
    createChecksum hrp data = Regroup.digits 32 6 (closing hrp data).toNat := by
  have group : ∀ i, ((closing hrp data >>> i) &&& 31#32).toNat = (closing hrp data).toNat / 2 ^ i % 32 := by
    intro i
    rw [BitVec.toNat_and, BitVec.toNat_ushiftRight, Nat.shiftRight_eq_div_pow]
    exact Nat.and_two_pow_sub_one_eq_mod _ 5
  show (List.range 6).map (fun i => ((closing hrp data >>> (5 * (5 - i))) &&& 31#32).toNat) = _
  simp only [List.range_succ, List.range_zero, List.map_append, List.map_cons, List.map_nil, List.nil_append,
    Regroup.digits, group, Nat.div_div_eq_div_mul]
  norm_num

/-- Six groups close the data exactly if they are its checksum. -/
theorem verifyChecksum_iff (small : ∀ v ∈ data, v < 32) (length : word.length = 6) (groups : ∀ v ∈ word, v < 32) :
    verifyChecksum hrp (data ++ word) = true ↔ word = createChecksum hrp data := by
  have zeros : symbols (List.replicate 6 0) = List.replicate (symbols word).length 0#32 := by
    rw [symbols, List.map_replicate, symbols, List.length_map, length]
  have closed : polymod (hrpExpand hrp ++ (data ++ word)) = 1#32 ↔
      register.run 0#32 (symbols word) = closing hrp data := by
    have split : ∀ us, polymod (hrpExpand hrp ++ data ++ us) =
        register.run (register.run 1#32 (symbols (hrpExpand hrp ++ data))) (symbols us) := by
      intro us
      rw [polymod_eq, symbols, List.map_append, Checksum.Register.run_append]
      rfl
    rw [← List.append_assoc, split, Checksum.Register.run_eq_iff, closing, split, zeros]
  rw [verifyChecksum, beq_iff_eq, closed, createChecksum_eq]
  have value := run_word (Nat.le_of_eq length) groups
  constructor
  · intro same
    rw [← same, value, ← length, Regroup.digits_number groups]
  · rintro rfl
    apply BitVec.eq_of_toNat_eq
    rw [value]
    exact Regroup.number_digits_of_lt (closing_fits small)

/-- A string of groups that are checked has no neighbour in one group that is. -/
theorem verifyChecksum_substitute {front rest : List Nat} {x y : Nat} (front_small : ∀ v ∈ front, v < 32)
    (first : x < 32) (second : y < 32) (rest_small : ∀ v ∈ rest, v < 32)
    (checked : verifyChecksum hrp (front ++ x :: rest) = true)
    (checked' : verifyChecksum hrp (front ++ y :: rest) = true) : x = y := by
  rw [verifyChecksum, beq_iff_eq, polymod_eq, symbols, ← List.append_assoc, List.map_append, List.map_cons]
    at checked checked'
  have before : ∀ v ∈ hrpExpand hrp ++ front, v < 256 := by
    intro v member
    rcases List.mem_append.mp member with high | low
    · exact hrpExpand_small hrp v high
    · exact Nat.lt_trans (front_small v low) (by decide)
  have same := Checksum.Register.run_substitute start_fits (symbols_fit before) (symbol_fits (by omega))
    (symbol_fits (by omega)) (symbols_fit fun v member => Nat.lt_trans (rest_small v member) (by decide))
    (checked.trans checked'.symm)
  have values := congrArg BitVec.toNat same
  rw [BitVec.toNat_ofNat, BitVec.toNat_ofNat] at values
  omega

end
end Bech32
end QorechainRdk
