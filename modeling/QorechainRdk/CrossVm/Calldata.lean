import QorechainRdk.Lib.Abi
import QorechainRdk.Lib.Rounding
import QorechainRdk.Utils.Hex

/-!
# Calldata of a cross-VM call

`encodeDynamicTuple` and `encodeCrossVmCalldata` of `crossvm/index.ts`, with the rounding of numbers and the limit
of arrays. Keccak-256 is a parameter.
-/

namespace QorechainRdk

open Js

/-! ### Numbers and arrays of the language -/

namespace Js

/-- A sum of natural numbers; one from 2^1024 on is infinite. -/
def plus (a b : Nat) : Nat := Rounding.nearest 53 (a + b)

def times (a b : Nat) : Nat := Rounding.nearest 53 (a * b)

/-- `BigInt` of a number. -/
def bigIntOf (value : Nat) : Except JsError Nat :=
  if 2 ^ 1024 ≤ value then fail "The number Infinity cannot be converted to a BigInt because it is not an integer"
  else .ok value

/-- `new Uint8Array(len)` -/
def newArray (len : Nat) : Except JsError Bytes :=
  if MAX_SAFE_INTEGER < len then fail "Invalid typed array length" else .ok (List.replicate len 0)

/-- `out.set(data, o)` -/
def setAt (out data : Bytes) (o : Nat) : Except JsError Bytes :=
  if out.length < o + data.length then fail "offset is out of bounds"
  else .ok (out.take o ++ data ++ out.drop (o + data.length))

end Js

/-! ### Encoding -/

def CROSS_VM_DEFAULT_SIGNATURE : String := "executeCrossVMCall(uint8,string,bytes)"

def functionSelector (keccak256 : Bytes → Bytes) (signature : String) : String :=
  "0x" ++ bytesToHex ((keccak256 (encode signature)).take 4)

/-- 32 bytes of the loop that writes `v & 0xff` from the last on. -/
def u256be (value : Nat) : Except JsError Bytes := do
  let v ← bigIntOf value
  return u64beLoop 32 v []

def padRight32 (data : Bytes) : Except JsError Bytes := do
  let out ← newArray ((data.length + 31) / 32 * 32)
  setAt out data 0

def concatPart (s : Bytes × Nat) (p : Bytes) : Except JsError (Bytes × Nat) := do
  let out ← setAt s.1 p s.2
  return (out, plus s.2 p.length)

def concat (parts : List Bytes) : Except JsError Bytes := do
  let out ← newArray (parts.foldl (fun n p => plus n p.length) 0)
  let s ← parts.foldlM concatPart (out, 0)
  return s.1

structure TupleState where
  offsets : List Bytes
  tail : List Bytes
  running : Nat
  deriving DecidableEq, Repr

def encodeItem (headLen : Nat) (s : TupleState) (item : Bytes) : Except JsError TupleState := do
  let offset ← u256be (plus headLen s.running)
  let chunk ← concat [← u256be item.length, ← padRight32 item]
  return ⟨s.offsets ++ [offset], s.tail ++ [chunk], plus s.running chunk.length⟩

def encodeDynamicTuple (items : List Bytes) (headWords : Nat) : Except JsError Bytes := do
  let headLen := times (plus headWords items.length) 32
  let s ← items.foldlM (encodeItem headLen) ⟨[], [], 0⟩
  concat (s.offsets ++ s.tail)

inductive CrossVmMsg where
  | text (s : String)
  | bytes (b : Bytes)
  deriving DecidableEq, Repr

def CrossVmMsg.toBytes : CrossVmMsg → Bytes
  | .text s => encode s
  | .bytes b => b

structure CrossVmCall where
  contract : String
  msg : CrossVmMsg
  targetVm : Option Nat
  deriving DecidableEq, Repr

/-- The target, by default the native one. -/
def CrossVmCall.target (call : CrossVmCall) : Nat := call.targetVm.getD 1

def encodeCrossVmCalldata (keccak256 : Bytes → Bytes) (call : CrossVmCall) : Except JsError String :=
  if call.target ≠ 0 ∧ call.target ≠ 1 then
    fail s!"unsupported cross-VM target {call.target}: the precompile accepts 0 (EVM) or 1 (Native)"
  else do
    let selector := (functionSelector keccak256 CROSS_VM_DEFAULT_SIGNATURE).toList.drop 2
    let head ← u256be call.target
    let dynamic ← encodeDynamicTuple [encode call.contract, call.msg.toBytes] 1
    return "0x" ++ String.ofList selector ++ bytesToHex (← concat [head, dynamic])

/-! ### Exact up to the largest integer -/

section
variable {a b n : Nat} {out data : Bytes} {parts items : List Bytes}

theorem plus_eq (small : a + b ≤ 2 ^ 53) : plus a b = a + b :=
  Rounding.nearest_eq_iff.mpr (Rounding.representable_of_le (by decide) small)

theorem times_eq (small : a * b ≤ 2 ^ 53) : times a b = a * b :=
  Rounding.nearest_eq_iff.mpr (Rounding.representable_of_le (by decide) small)

theorem u256be_finite {k : Nat} (small : n < 2 ^ k) (finite : k ≤ 1024) : u256be n = .ok (Abi.word n) := by
  have below : ∀ j, k ≤ j → n < 2 ^ j := fun j more =>
    Nat.lt_of_lt_of_le small (Nat.pow_le_pow_right (by decide) more)
  unfold u256be bigIntOf
  rw [if_neg (Nat.not_le.mpr (below 1024 finite)), ok_bind, u64beLoop_eq, List.append_nil]
  rfl

theorem u256be_eq (small : n ≤ 2 ^ 53) : u256be n = .ok (Abi.word n) :=
  u256be_finite (Nat.lt_of_le_of_lt small (by decide : 2 ^ 53 < 2 ^ 54)) (by decide)

theorem newArray_eq (small : n ≤ MAX_SAFE_INTEGER) : newArray n = .ok (List.replicate n 0) :=
  if_neg (Nat.not_lt.mpr small)

/-- An array that is filled so far, and one part more. -/
theorem setAt_append (written : Bytes) {free : Nat} (room : data.length ≤ free) :
    setAt (written ++ List.replicate free 0) data written.length =
      .ok (written ++ data ++ List.replicate (free - data.length) 0) := by
  have size : ¬ (written ++ List.replicate free (0 : UInt8)).length < written.length + data.length := by
    rw [List.length_append, List.length_replicate]
    omega
  unfold setAt
  rw [if_neg size, List.take_left, List.drop_append, List.drop_of_length_le (by omega), Nat.add_sub_cancel_left,
    List.drop_replicate, List.nil_append]

theorem ceil_words (len : Nat) : (len + 31) / 32 * 32 = len + Abi.padding len := by
  unfold Abi.padding
  omega

theorem padRight32_eq (small : (Abi.padded data).length ≤ MAX_SAFE_INTEGER) :
    padRight32 data = .ok (Abi.padded data) := by
  rw [Abi.length_padded] at small
  unfold padRight32
  rw [ceil_words, newArray_eq small, ok_bind]
  have room : data.length ≤ data.length + Abi.padding data.length := Nat.le_add_right ..
  have set := setAt_append [] room
  rw [List.nil_append, List.nil_append, Nat.add_sub_cancel_left] at set
  exact set

theorem concat_total (small : n + parts.flatten.length ≤ 2 ^ 53) :
    parts.foldl (fun n p => plus n p.length) n = n + parts.flatten.length := by
  induction parts generalizing n with
  | nil => rfl
  | cons p parts ih =>
    rw [List.flatten_cons, List.length_append] at small ⊢
    rw [List.foldl_cons, plus_eq (by omega), ih (by omega)]
    omega

/-- The parts behind what is written fill the array. -/
theorem concat_loop (written : Bytes) (small : written.length + parts.flatten.length ≤ 2 ^ 53) :
    parts.foldlM concatPart (written ++ List.replicate parts.flatten.length 0, written.length) =
      .ok (written ++ parts.flatten, written.length + parts.flatten.length) := by
  induction parts generalizing written with
  | nil => rfl
  | cons p parts ih =>
    rw [List.flatten_cons, List.length_append] at small ⊢
    have step : concatPart (written ++ List.replicate (p.length + parts.flatten.length) 0, written.length) p =
        .ok (written ++ p ++ List.replicate parts.flatten.length 0, (written ++ p).length) := by
      unfold concatPart
      dsimp only
      rw [setAt_append written (Nat.le_add_right _ _), Nat.add_sub_cancel_left, ok_bind, plus_eq (by omega),
        List.length_append]
      rfl
    rw [List.foldlM_cons, step, ok_bind, ih (written ++ p) (by rw [List.length_append]; omega), List.length_append,
      List.append_assoc, Nat.add_assoc]

theorem concat_eq (small : parts.flatten.length ≤ MAX_SAFE_INTEGER) : concat parts = .ok parts.flatten := by
  have below : 0 + parts.flatten.length ≤ 2 ^ 53 := by
    unfold MAX_SAFE_INTEGER at small
    omega
  have loop := concat_loop [] (by rw [List.length_nil]; exact below)
  rw [List.nil_append, List.nil_append] at loop
  unfold concat
  rw [concat_total below, Nat.zero_add, newArray_eq small, ok_bind]
  show (parts.foldlM concatPart (_, ([] : Bytes).length) >>= _) = _
  rw [loop]
  rfl

/-- One item more: its offset, and it itself behind those before it. -/
theorem encodeItem_eq {headLen : Nat} (s : TupleState) (item : Bytes)
    (small : headLen + (s.running + (Abi.dynamic item).length) ≤ MAX_SAFE_INTEGER) :
    encodeItem headLen s item =
      .ok ⟨s.offsets ++ [Abi.word (headLen + s.running)], s.tail ++ [Abi.dynamic item],
        s.running + (Abi.dynamic item).length⟩ := by
  have size := Abi.length_dynamic item
  have limit : MAX_SAFE_INTEGER = 2 ^ 53 - 1 := rfl
  have chunk : concat [Abi.word item.length, Abi.padded item] = .ok (Abi.dynamic item) := by
    have flat : [Abi.word item.length, Abi.padded item].flatten = Abi.dynamic item := by
      simp [Abi.dynamic]
    rw [concat_eq (by rw [flat]; omega), flat]
  unfold encodeItem
  rw [plus_eq (by omega), u256be_eq (by omega), ok_bind, u256be_eq (by omega), ok_bind,
    padRight32_eq (by rw [Abi.length_padded]; omega), ok_bind, chunk, ok_bind, plus_eq (by omega)]
  rfl

/-- The loop over the items, from any state on. -/
theorem encodeItems_eq {headLen : Nat} (s : TupleState)
    (small : headLen + (s.running + (Abi.tails items).length) ≤ MAX_SAFE_INTEGER) :
    items.foldlM (encodeItem headLen) s =
      .ok ⟨s.offsets ++ (Abi.offsets (headLen + s.running) items).map Abi.word, s.tail ++ items.map Abi.dynamic,
        s.running + (Abi.tails items).length⟩ := by
  induction items generalizing s with
  | nil => simp [Abi.offsets, Abi.tails, pure, Except.pure]
  | cons item items ih =>
    have total : (Abi.tails (item :: items)).length = (Abi.dynamic item).length + (Abi.tails items).length := by
      rw [Abi.tails, List.flatMap_cons, List.length_append, Abi.tails]
    rw [List.foldlM_cons, encodeItem_eq s item (by omega), ok_bind, ih _ (by dsimp only; omega)]
    simp only [Abi.offsets, List.map_cons, List.append_assoc, List.singleton_append, Nat.add_assoc, total]

/-- Together with its static words within an array, a tuple is the one of the contract ABI. -/
theorem encodeDynamicTuple_eq {headWords : Nat}
    (small : 32 * headWords + (Abi.tuple headWords items).length ≤ MAX_SAFE_INTEGER) :
    encodeDynamicTuple items headWords = .ok (Abi.tuple headWords items) := by
  have size := Abi.length_tuple headWords items
  have limit : MAX_SAFE_INTEGER = 2 ^ 53 - 1 := rfl
  have head : times (plus headWords items.length) 32 = 32 * (headWords + items.length) := by
    rw [plus_eq (by omega), times_eq (by omega), Nat.mul_comm]
  have flat : ((Abi.offsets (32 * (headWords + items.length)) items).map Abi.word ++
      items.map Abi.dynamic).flatten = Abi.tuple headWords items := by
    rw [List.flatten_append, ← List.flatMap_def, ← List.flatMap_def]
    rfl
  unfold encodeDynamicTuple
  rw [head]
  dsimp only
  rw [encodeItems_eq _ (by dsimp only; omega), ok_bind]
  dsimp only
  rw [List.nil_append, List.nil_append, Nat.add_zero, concat_eq (by rw [flat]; omega), flat]

/-- With 2^53 static words the number of head words is rounded, and the offset is one word too small: it points at
itself, and nothing is read. -/
theorem encodeDynamicTuple_rounded :
    ∃ b, encodeDynamicTuple [[]] (2 ^ 53) = .ok b ∧
      ∀ head : Bytes, head.length = 32 * 2 ^ 53 → Abi.readTuple (2 ^ 53) [([] : Bytes)].length (head ++ b) = none := by
  have headLen : times (plus (2 ^ 53) 1) 32 = 2 ^ 58 := by decide
  have offset : plus (2 ^ 58) 0 = 2 ^ 58 := by decide
  have chunk : concat [Abi.word 0, []] = .ok (Abi.word 0) := concat_eq (by decide)
  have whole : concat [Abi.word (2 ^ 58), Abi.word 0] = .ok (Abi.word (2 ^ 58) ++ (Abi.word 0 ++ [])) :=
    concat_eq (by simp [MAX_SAFE_INTEGER])
  have item : encodeItem (2 ^ 58) ⟨[], [], 0⟩ [] = .ok ⟨[Abi.word (2 ^ 58)], [Abi.word 0], plus 0 32⟩ := by
    have padded : padRight32 [] = .ok [] := padRight32_eq (by decide)
    unfold encodeItem
    rw [offset, u256be_finite (by decide : 2 ^ 58 < 2 ^ 59) (by decide), ok_bind, List.length_nil,
      u256be_eq (by decide), ok_bind, padded, ok_bind, chunk, ok_bind, Abi.length_word]
    rfl
  refine ⟨Abi.word (2 ^ 58) ++ (Abi.word 0 ++ []), ?_, ?_⟩
  · unfold encodeDynamicTuple
    rw [List.length_singleton, headLen]
    dsimp only
    rw [List.foldlM_cons, item, ok_bind]
    exact whole
  · intro head size
    have first : Abi.wordAt (head ++ (Abi.word (2 ^ 58) ++ (Abi.word 0 ++ []))) (2 ^ 58) = some (2 ^ 58) :=
      Abi.wordAt_append (by norm_num) (by omega)
    have rest : ((head ++ (Abi.word (2 ^ 58) ++ (Abi.word 0 ++ []))).drop (2 ^ 58 + 32)).length = 32 := by
      simp only [List.length_drop, List.length_append, Abi.length_word, List.length_nil]
      omega
    have nothing : Abi.itemAt (head ++ (Abi.word (2 ^ 58) ++ (Abi.word 0 ++ []))) (2 ^ 53) = none := by
      unfold Abi.itemAt
      rw [show 32 * 2 ^ 53 = 2 ^ 58 by decide, first]
      simp only [Option.bind_eq_bind, Option.bind_some]
      unfold Abi.dynamicAt
      simp only [first, Option.bind_eq_bind, Option.bind_some]
      rw [if_neg]
      rw [rest]
      omega
    rw [Abi.readTuple, List.length_singleton, List.range'_one, List.mapM_cons, nothing]
    rfl

theorem bytesToHex_append (a b : Bytes) : bytesToHex (a ++ b) = bytesToHex a ++ bytesToHex b := by
  unfold bytesToHex
  rw [List.flatMap_append, String.ofList_append]

/-- The bytes of a call: the selector, the target and the two byte strings. -/
def CrossVmCall.bytes (keccak256 : Bytes → Bytes) (call : CrossVmCall) : Bytes :=
  (keccak256 (encode CROSS_VM_DEFAULT_SIGNATURE)).take 4 ++
    (Abi.word call.target ++ Abi.tuple 1 [encode call.contract, call.msg.toBytes])

section
variable {keccak256 : Bytes → Bytes} {call : CrossVmCall}

theorem CrossVmCall.tuple_fits (call : CrossVmCall) (fits : FitsString ("0x" ++ bytesToHex (call.bytes keccak256))) :
    32 * 1 + (Abi.tuple 1 [encode call.contract, call.msg.toBytes]).length ≤ MAX_SAFE_INTEGER := by
  have size := (toList_length_le _).trans fits
  rw [String.toList_append, bytesToHex_toList, List.length_append, length_flatMap_hexPair, CrossVmCall.bytes,
    List.length_append, List.length_append, Abi.length_word] at size
  omega

theorem encodeCrossVmCalldata_eq (known : call.target = 0 ∨ call.target = 1)
    (fits : FitsString ("0x" ++ bytesToHex (call.bytes keccak256))) :
    encodeCrossVmCalldata keccak256 call = .ok ("0x" ++ bytesToHex (call.bytes keccak256)) := by
  have room := call.tuple_fits fits
  have flat : [Abi.word call.target, Abi.tuple 1 [encode call.contract, call.msg.toBytes]].flatten =
      Abi.word call.target ++ Abi.tuple 1 [encode call.contract, call.msg.toBytes] := by simp
  have text : (functionSelector keccak256 CROSS_VM_DEFAULT_SIGNATURE).toList.drop 2 =
      (bytesToHex ((keccak256 (encode CROSS_VM_DEFAULT_SIGNATURE)).take 4)).toList := by
    rw [functionSelector, String.toList_append]
    rfl
  unfold encodeCrossVmCalldata
  rw [if_neg (by omega), text, u256be_eq (by omega), ok_bind, encodeDynamicTuple_eq room, ok_bind,
    concat_eq (by rw [flat, List.length_append, Abi.length_word]; omega), flat, String.ofList_toList,
    CrossVmCall.bytes, bytesToHex_append, ← String.append_assoc]
  rfl

end
end
end QorechainRdk
