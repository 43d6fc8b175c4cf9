import QorechainRdk.Lib.Protobuf
import QorechainRdk.Utils.Go
import QorechainRdk.Utils.Js

/-!
# The hand-written wire writers

`protowire.go`, the helpers of `tx/codecs.py` and `ProtoWriter.java`. Each has its own varint loop, and writes
its fields through that loop in the same way. All three write what the wire format says.
-/

namespace QorechainRdk

open Protobuf

/-! ### Fields, through a varint writer -/

namespace ProtoWriter

section
variable (writeVarint : Nat → Bytes)

def tag (field wireType : Nat) : Bytes := writeVarint (field <<< 3 ||| wireType)

def writeRawBytes (field : Nat) (b : Bytes) : Bytes := tag writeVarint field 2 ++ (writeVarint b.length ++ b)

def writeString (field : Nat) (s : String) : Bytes :=
  if s = "" then [] else writeRawBytes writeVarint field (utf8 s)

def writeBytes (field : Nat) (b : Bytes) : Bytes := if b = [] then [] else writeRawBytes writeVarint field b

def writeRepeatedBytes (field : Nat) (items : List Bytes) : Bytes :=
  items.flatMap (writeRawBytes writeVarint field)

def writeBool (field : Nat) (v : Bool) : Bytes := if v then tag writeVarint field 0 ++ writeVarint 1 else []

/-- A string field that is written when it is empty, too. -/
def writeRawString (field : Nat) (s : String) : Bytes := writeRawBytes writeVarint field (utf8 s)

def writeMessage (field : Nat) (b : Bytes) : Bytes := tag writeVarint field 2 ++ (writeVarint b.length ++ b)

def writeEnum (field v : Nat) : Bytes := tag writeVarint field 0 ++ writeVarint v

end
end ProtoWriter

/-! ### Go -/

namespace Go

/-- `binary.PutUvarint`. -/
def putUvarint (x : Nat) : Bytes :=
  if 0x80 ≤ x then (UInt8.ofNat x ||| 0x80) :: putUvarint (x >>> 7) else [UInt8.ofNat x]
termination_by x
decreasing_by
  rw [Nat.shiftRight_eq_div_pow]
  omega

def writeString := ProtoWriter.writeString putUvarint

def writeBytes := ProtoWriter.writeBytes putUvarint

def writeRepeatedBytes := ProtoWriter.writeRepeatedBytes putUvarint

def writeUint64 (field : Nat) (v : Nat) : Bytes :=
  if v = 0 then [] else ProtoWriter.tag putUvarint field 0 ++ putUvarint v

def writeInt64 (field : Nat) (v : Int) : Bytes :=
  if v = 0 then [] else ProtoWriter.tag putUvarint field 0 ++ putUvarint (uint64 v)

def writeBool := ProtoWriter.writeBool putUvarint

end Go

/-! ### Python -/

namespace Py

/-- The loop of `_varint`, on a value that is not negative. -/
def varintLoop (value : Nat) : Bytes :=
  let byte := value &&& 0x7F
  if value >>> 7 ≠ 0 then UInt8.ofNat (byte ||| 0x80) :: varintLoop (value >>> 7) else [UInt8.ofNat byte]
termination_by value
decreasing_by
  rename_i more
  rw [Nat.shiftRight_eq_div_pow] at more ⊢
  omega

def varint (value : Int) : Bytes := varintLoop (if value < 0 then value + 2 ^ 64 else value).toNat

def unsigned (n : Nat) : Bytes := varint n

def stringField := ProtoWriter.writeString unsigned

def bytesField := ProtoWriter.writeBytes unsigned

def bytesFieldAlways := ProtoWriter.writeRawBytes unsigned

def varintField (field : Nat) (value : Int) : Bytes :=
  if value = 0 then [] else ProtoWriter.tag unsigned field 0 ++ varint value

def boolField := ProtoWriter.writeBool unsigned

end Py

/-! ### Java

A `long` is the integer that it stands for. `>>>` shifts its 64 bits, the sign among them.
-/

namespace Jvm

/-- `value >>> 7`. -/
def shiftRight7 (value : Int) : Int := ((if value < 0 then value + 2 ^ 64 else value).toNat / 128 : Nat)

/-- `(value & ~0x7fL) == 0`: no bit is set above the low seven. -/
def isLow7 (value : Int) : Prop := value / 128 = 0

instance (value : Int) : Decidable (isLow7 value) := inferInstanceAs (Decidable (value / 128 = 0))

/-- `value & 0x7f`. -/
def low7 (value : Int) : Nat := (value % 128).toNat

def writeVarint (value : Int) : Bytes :=
  if isLow7 value then [UInt8.ofNat (low7 value)]
  else UInt8.ofNat (low7 value ||| 0x80) :: writeVarint (shiftRight7 value)
termination_by 2 * (if value < 0 then value + 2 ^ 64 else value).toNat + (if value < 0 then 1 else 0)
decreasing_by
  rename_i high
  unfold isLow7 at high
  have nonneg : ¬ shiftRight7 value < 0 := Int.not_lt.mpr (Int.natCast_nonneg _)
  rw [if_neg nonneg, if_neg nonneg]
  unfold shiftRight7
  split
  · omega
  · omega

/-- The `long` that holds an unsigned number has its 64 bits. -/
def long (v : Int) : Int := if v < 2 ^ 63 then v else v - 2 ^ 64

def unsigned (n : Nat) : Bytes := writeVarint n

def writeString := ProtoWriter.writeString unsigned

def writeBytes := ProtoWriter.writeBytes unsigned

def writeRepeatedBytes := ProtoWriter.writeRepeatedBytes unsigned

/-- `writeUint64` and `writeInt64`, which differ in name only. -/
def writeLong (field : Nat) (v : Int) : Bytes :=
  if v = 0 then [] else ProtoWriter.tag unsigned field 0 ++ writeVarint v

def writeBool := ProtoWriter.writeBool unsigned

theorem toNat_unsigned (v : BitVec 64) :
    (if v.toInt < 0 then v.toInt + 2 ^ 64 else v.toInt).toNat = v.toNat := by
  have width := v.isLt
  rw [BitVec.toInt_eq_toNat_cond]
  split
  · split
    · omega
    · omega
  · split
    · omega
    · omega

theorem and_mask (v : BitVec 64) : (v &&& 0x7f#64).toNat = v.toNat % 128 := by
  rw [BitVec.toNat_and]
  exact Nat.and_two_pow_sub_one_eq_mod v.toNat 7

theorem and_not_mask (v : BitVec 64) : v &&& ~~~0x7f#64 = 0#64 ↔ v.toNat < 128 := by
  have parts : (v &&& 0x7f#64) ||| (v &&& ~~~0x7f#64) = v := by
    rw [← BitVec.and_or_distrib_left, BitVec.or_not_self]
    exact BitVec.and_allOnes
  constructor
  · intro none
    have masked := congrArg BitVec.toNat parts
    rw [none, BitVec.or_zero, and_mask] at masked
    omega
  · intro small
    have masked : v &&& 0x7f#64 = v := by
      apply BitVec.eq_of_toNat_eq
      rw [and_mask]
      omega
    have disjoint : 0x7f#64 &&& ~~~0x7f#64 = 0#64 := by decide
    calc v &&& ~~~0x7f#64 = (v &&& 0x7f#64) &&& ~~~0x7f#64 := by rw [masked]
      _ = v &&& (0x7f#64 &&& ~~~0x7f#64) := BitVec.and_assoc ..
      _ = 0#64 := by rw [disjoint, BitVec.and_zero]

/-- On the bits of a machine word, the three operations are the shift, the test and the mask. -/
theorem word_operations (v : BitVec 64) : shiftRight7 v.toInt = (v >>> 7).toInt ∧
    (isLow7 v.toInt ↔ v &&& ~~~0x7f#64 = 0#64) ∧ low7 v.toInt = (v &&& 0x7f#64).toNat := by
  have width := v.isLt
  have low : (v >>> 7).toNat = v.toNat / 128 := by
    rw [BitVec.toNat_ushiftRight, Nat.shiftRight_eq_div_pow]
  refine ⟨?_, ?_, ?_⟩
  · unfold shiftRight7
    rw [toNat_unsigned, BitVec.toInt_eq_toNat_cond, low, if_pos (by omega)]
  · rw [and_not_mask, isLow7, BitVec.toInt_eq_toNat_cond]
    split
    · omega
    · omega
  · rw [and_mask, low7, BitVec.toInt_eq_toNat_cond]
    split
    · omega
    · omega

/-- The loop on the 64 bits of a `long`, as `ProtoWriter.java` writes it. -/
theorem writeVarint_word (v : BitVec 64) : writeVarint v.toInt =
    if v &&& ~~~0x7f#64 = 0#64 then [UInt8.ofNat (v &&& 0x7f#64).toNat]
    else UInt8.ofNat ((v &&& 0x7f#64).toNat ||| 0x80) :: writeVarint (v >>> 7).toInt := by
  obtain ⟨shifted, tested, masked⟩ := word_operations v
  rw [writeVarint, shifted, masked]
  simp only [tested]

end Jvm

/-! ### What they write -/

theorem or_128 {m : Nat} (low : m < 128) : m ||| 0x80 = m + 128 := by
  have bits := Nat.two_pow_add_eq_or_of_lt (i := 7) low 1
  rw [Nat.or_comm, Nat.add_comm]
  exact bits.symm

theorem byte_or_128 (x : Nat) : UInt8.ofNat x ||| 0x80 = UInt8.ofNat (x % 128 + 128) := by
  have bits : (x % 256 ||| 0x80) = x % 128 + 128 := by
    have low := or_128 (Nat.mod_lt x (show 0 < 128 by decide))
    by_cases set : x % 256 < 128
    · rw [show x % 256 = x % 128 by omega]
      exact low
    · rw [show x % 256 = x % 128 + 128 by omega, ← low, Nat.or_assoc, Nat.or_self]
  apply UInt8.toNat_inj.mp
  rw [UInt8.toNat_or, UInt8.toNat_ofNat', UInt8.toNat_ofNat']
  change (x % 256 ||| 0x80) = (x % 128 + 128) % 256
  omega

theorem Go.putUvarint_eq (n : Nat) : Go.putUvarint n = Protobuf.varint n := by
  induction n using Nat.strongRecOn with
  | ind n ih =>
    rw [Go.putUvarint, varint_step]
    by_cases low : n < 128
    · rw [if_neg (by omega), if_pos low]
    · rw [if_pos (by omega), if_neg low, byte_or_128, Nat.shiftRight_eq_div_pow, ih (n / 2 ^ 7) (by omega)]

theorem Py.varintLoop_eq (n : Nat) : Py.varintLoop n = Protobuf.varint n := by
  induction n using Nat.strongRecOn with
  | ind n ih =>
    have mask : n &&& 0x7F = n % 128 := Nat.and_two_pow_sub_one_eq_mod n 7
    have shift : n >>> 7 = n / 128 := Nat.shiftRight_eq_div_pow n 7
    rw [Py.varintLoop, varint_step]
    simp only [mask, shift]
    by_cases low : n < 128
    · rw [if_neg (by omega), if_pos low, Nat.mod_eq_of_lt low]
    · rw [if_pos (by omega), if_neg low, or_128 (Nat.mod_lt n (by decide)), ih (n / 128) (by omega)]

theorem Jvm.writeVarint_natCast (n : Nat) : Jvm.writeVarint n = Protobuf.varint n := by
  induction n using Nat.strongRecOn with
  | ind n ih =>
    have mask : Jvm.low7 n = n % 128 := by
      unfold Jvm.low7
      omega
    have shift : Jvm.shiftRight7 n = (n / 128 : Nat) := by
      unfold Jvm.shiftRight7
      rw [if_neg (Int.not_lt.mpr (Int.natCast_nonneg n)), Int.toNat_natCast]
    rw [Jvm.writeVarint, varint_step, mask, shift]
    by_cases low : n < 128
    · have none : Jvm.isLow7 n := by
        unfold Jvm.isLow7
        omega
      rw [if_pos none, if_pos low, Nat.mod_eq_of_lt low]
    · have some : ¬ Jvm.isLow7 n := by
        unfold Jvm.isLow7
        omega
      rw [if_neg some, if_neg low, or_128 (Nat.mod_lt n (by decide)), ih (n / 128) (by omega)]

/-- The ten bytes of a negative number: the first step takes its sign into the bits. -/
theorem Jvm.writeVarint_negative {v : Int} (low : -2 ^ 63 ≤ v) (negative : v < 0) :
    Jvm.writeVarint v = Protobuf.varint (v + 2 ^ 64).toNat := by
  have mask : Jvm.low7 v = (v + 2 ^ 64).toNat % 128 := by
    unfold Jvm.low7
    omega
  have shift : Jvm.shiftRight7 v = ((v + 2 ^ 64).toNat / 128 : Nat) := by
    unfold Jvm.shiftRight7
    rw [if_pos negative]
  have some : ¬ Jvm.isLow7 v := by
    unfold Jvm.isLow7
    omega
  rw [Jvm.writeVarint, varint_step, mask, shift, if_neg some, if_neg (by omega),
    or_128 (Nat.mod_lt _ (by decide)), Jvm.writeVarint_natCast]

end QorechainRdk
