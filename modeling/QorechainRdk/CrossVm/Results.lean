import QorechainRdk.CrossVm.Calldata
import QorechainRdk.Lib.Utf8

/-!
# What a cross-VM call returns

`decodeCrossVmResult` and `decodeRevertReason` of `crossvm/index.ts` on any data: words of 256 bits become numbers
before they are compared with the length.
-/

namespace QorechainRdk

open Js

namespace Js

/-- `Number` of a word. -/
def numberOf (n : Nat) : Nat := Rounding.nearest 53 n

/-- What `BigInt` throws on an index outside an array. -/
def undefinedToBigInt : JsError := ⟨"Cannot convert undefined to a BigInt"⟩

def slice (b : Bytes) (first last : Nat) : Bytes := (b.drop first).take (last - first)

/-- `new TextDecoder().decode(b)` leaves out a byte order mark. -/
def decodeText (b : Bytes) : String :=
  match Utf8.decode b with
  | '\uFEFF' :: cs => String.ofList cs
  | cs => String.ofList cs

end Js

/-- `(v << 8n) | BigInt(b[at + i])` -/
def readByte (b : Bytes) (place v i : Nat) : Except JsError Nat :=
  match b[plus place i]? with
  | some x => .ok (v <<< 8 ||| x.toNat)
  | none => .error undefinedToBigInt

def readWord (b : Bytes) (place : Nat) : Except JsError Nat := (List.range 32).foldlM (readByte b place) 0

def decodeCrossVmResult (ret : HexOrBytes) : Except JsError Bytes := do
  let b ← toBytes ret
  if b.length = 0 then
    fail "empty return data: the cross-VM precompile is not active, so the call did nothing"
  else if b.length < 64 then fail s!"cross-VM return data is {b.length} bytes; abi.encode(bytes) is at least 64"
  else do
    let offset := numberOf (← readWord b 0)
    if b.length < plus offset 32 then fail "cross-VM return data has an out-of-range offset"
    else do
      let len := numberOf (← readWord b offset)
      if b.length < plus (plus offset 32) len then fail "cross-VM return data is shorter than its length word"
      else return slice b (plus offset 32) (plus (plus offset 32) len)

def decodeRevertReason (data : HexOrBytes) : Except JsError (Option String) := do
  let b ← toBytes data
  if b.length < 4 + 64 ∨ bytesToHex (b.take 4) ≠ "08c379a0" then return none
  else do
    let body := b.drop 4
    let offset := numberOf (← readWord body 0)
    if body.length < plus offset 32 then return none
    else do
      let len := numberOf (← readWord body offset)
      if body.length < plus (plus offset 32) len then return none
      else return some (decodeText (slice body (plus offset 32) (plus (plus offset 32) len)))

/-- Data as a string of hex digits or as an array, of a length that the language has. -/
structure ReturnData where
  value : HexOrBytes
  fits : match value with
    | .hex s => FitsString s
    | .bytes b => b.length ≤ MAX_SAFE_INTEGER

/-! ### Words -/

section
variable {b : Bytes} {place v w : Nat}

theorem plus_of_le (small : plus v w ≤ MAX_SAFE_INTEGER) : plus v w = v + w :=
  Rounding.nearest_of_nearest_lt (by decide) (Nat.lt_of_le_of_lt small (by decide))

theorem numberOf_of_le (small : numberOf w ≤ MAX_SAFE_INTEGER) : numberOf w = w :=
  Rounding.nearest_of_nearest_lt (by decide) (Nat.lt_of_le_of_lt small (by decide))

theorem readByte_eq {i : Nat} (fits : b.length ≤ MAX_SAFE_INTEGER) {x : UInt8} {rest : Bytes}
    (here : b.drop (place + i) = x :: rest) : readByte b place v i = .ok (256 * v + x.toNat) := by
  have within : place + i < b.length := by
    by_contra beyond
    rw [List.drop_of_length_le (Nat.not_lt.mp beyond)] at here
    cases here
  have exact : plus place i = place + i := plus_eq (by unfold MAX_SAFE_INTEGER at fits; omega)
  have byte : b[place + i]? = some x := by
    rw [← Nat.add_zero (place + i), ← List.getElem?_drop, here]
    rfl
  unfold readByte
  rw [exact, byte]
  dsimp only
  rw [← Nat.shiftLeft_add_eq_or_of_lt x.toNat_lt, Nat.shiftLeft_eq, Nat.mul_comm]

/-- The loop from the `i`-th byte on. -/
theorem readBytes_eq {i n : Nat} (fits : b.length ≤ MAX_SAFE_INTEGER) (room : place + i + n ≤ b.length) :
    (List.range' i n).foldlM (readByte b place) v =
      .ok (((b.drop (place + i)).take n).foldl (fun v x => 256 * v + x.toNat) v) := by
  induction n generalizing i v with
  | zero => rfl
  | succ n ih =>
    obtain ⟨x, rest, here⟩ := List.exists_cons_of_length_pos
      (show 0 < (b.drop (place + i)).length by rw [List.length_drop]; omega)
    have tail : b.drop (place + (i + 1)) = rest := by
      rw [← Nat.add_assoc, ← List.drop_drop, here]
      rfl
    rw [List.range'_succ, List.foldlM_cons, readByte_eq fits here, ok_bind, ih (by omega), tail, here,
      List.take_succ_cons, List.foldl_cons]

theorem ofBigEndian_eq_foldl (b : Bytes) (v : Nat) :
    b.foldl (fun (v : Int) x => 256 * v + x.toNat) v = (b.foldl (fun v x => 256 * v + x.toNat) v : Nat) := by
  induction b generalizing v with
  | nil => rfl
  | cons x b ih =>
    rw [List.foldl_cons, List.foldl_cons, ← ih]
    push_cast
    rfl

/-- A word within the data is read, and nothing else. -/
theorem readWord_eq (fits : b.length ≤ MAX_SAFE_INTEGER) (room : place + 32 ≤ b.length) :
    ∃ w, readWord b place = .ok w ∧ Abi.wordAt b place = some w := by
  have value : Coding.ofBigEndian ((b.drop place).take 32) = _ := ofBigEndian_eq_foldl ((b.drop place).take 32) 0
  refine ⟨((b.drop place).take 32).foldl (fun v x => 256 * v + x.toNat) 0, ?_, ?_⟩
  · unfold readWord
    rw [List.range_eq_range']
    exact readBytes_eq fits room
  · unfold Abi.wordAt
    rw [if_pos room, value, Int.toNat_natCast]

/-! ### Announced data -/

/-- How the offset and the length of a body are read, and what they announce. -/
inductive Reading (b : Bytes) : Prop
  | outside (w : Nat) (first : readWord b 0 = .ok w) (beyond : b.length < plus (numberOf w) 32)
      (nothing : Abi.announced b = none)
  | short (w len : Nat) (first : readWord b 0 = .ok w) (within : ¬ b.length < plus (numberOf w) 32)
      (second : readWord b (numberOf w) = .ok len) (beyond : b.length < plus (plus (numberOf w) 32) (numberOf len))
      (nothing : Abi.announced b = none)
  | whole (w len : Nat) (first : readWord b 0 = .ok w) (within : ¬ b.length < plus (numberOf w) 32)
      (second : readWord b (numberOf w) = .ok len)
      (within' : ¬ b.length < plus (plus (numberOf w) 32) (numberOf len))
      (data : Abi.announced b =
        some (slice b (plus (numberOf w) 32) (plus (plus (numberOf w) 32) (numberOf len))))

/-- A word that passes a comparison with the length was not rounded, so no read is outside. -/
theorem reading (fits : b.length ≤ MAX_SAFE_INTEGER) (long : 32 ≤ b.length) : Reading b := by
  have limit : MAX_SAFE_INTEGER = 2 ^ 53 - 1 := rfl
  have exact : ∀ n, n ≤ b.length → numberOf n = n := fun n small =>
    Rounding.nearest_eq_iff.mpr (Rounding.representable_of_le (by decide) (by omega))
  obtain ⟨w, first, word⟩ := readWord_eq fits (show 0 + 32 ≤ b.length by omega)
  by_cases beyond : b.length < plus (numberOf w) 32
  · refine .outside w first beyond ?_
    have outside : ¬ w + 32 ≤ b.length := by
      intro room
      rw [exact w (by omega), plus_eq (by omega)] at beyond
      omega
    unfold Abi.announced
    simp only [word, Option.bind_eq_bind, Option.bind_some]
    rw [Abi.wordAt, if_neg outside, Option.bind_none]
  · have sum : plus (numberOf w) 32 = numberOf w + 32 := plus_of_le (by omega)
    have same : numberOf w = w := numberOf_of_le (by omega)
    obtain ⟨len, second, length⟩ := readWord_eq fits (show numberOf w + 32 ≤ b.length by omega)
    have announced : Abi.announced b =
        if w + 32 + len ≤ b.length then some ((b.drop (w + 32)).take len) else none := by
      rw [same] at length
      unfold Abi.announced
      simp only [word, length, Option.bind_eq_bind, Option.bind_some]
    by_cases beyond' : b.length < plus (plus (numberOf w) 32) (numberOf len)
    · refine .short w len first beyond second beyond' ?_
      rw [announced, if_neg]
      intro room
      rw [sum, same, exact len (by omega), plus_eq (by omega)] at beyond'
      omega
    · refine .whole w len first beyond second beyond' ?_
      have sum' : plus (plus (numberOf w) 32) (numberOf len) = plus (numberOf w) 32 + numberOf len :=
        plus_of_le (by omega)
      have same' : numberOf len = len := numberOf_of_le (by omega)
      rw [announced, if_pos (by omega), sum', sum, same, same', slice, Nat.add_sub_cancel_left]

/-! ### The decoders -/

theorem length_hexPairs : ∀ cs : List Char, (hexPairs cs).length ≤ cs.length
  | [] => Nat.le_refl _
  | [_] => Nat.zero_le _
  | high :: low :: rest => by
    have tail := length_hexPairs rest
    rw [hexPairs, List.length_cons, List.length_cons, List.length_cons]
    omega

theorem length_stripHexPrefix (cs : List Char) : (stripHexPrefix cs).length ≤ cs.length := by
  unfold stripHexPrefix
  split
  · simp only [List.length_cons]
    omega
  · simp only [List.length_cons]
    omega
  · exact Nat.le_refl _

theorem ReturnData.length_le (ret : ReturnData) (read : toBytes ret.value = .ok b) :
    b.length ≤ MAX_SAFE_INTEGER := by
  obtain ⟨value, fits⟩ := ret
  cases value with
  | hex s =>
    obtain ⟨-, -, rfl⟩ := hexToBytes_ok_iff.mp read
    exact (length_hexPairs _).trans ((length_stripHexPrefix _).trans ((toList_length_le s).trans fits))
  | bytes c =>
    obtain rfl := Except.ok.inj read
    exact fits

theorem fail_ne {message : String} {c : Char} (first : message.toList.head? = some c) (other : c ≠ 'C') :
    (⟨message⟩ : JsError) ≠ undefinedToBigInt := by
  intro same
  have text : message = undefinedToBigInt.message := congrArg JsError.message same
  rw [text] at first
  exact other (Option.some.inj first).symm

theorem head_append {s t : String} {c : Char} (first : s.toList.head? = some c) :
    (s ++ t).toList.head? = some c := by
  rw [String.toList_append, List.head?_append, first]
  rfl

theorem toBytes_error {ret : HexOrBytes} {e : JsError} (h : toBytes ret = .error e) : e ≠ undefinedToBigInt := by
  cases ret with
  | hex s =>
    unfold toBytes hexToBytes at h
    dsimp only at h
    split at h
    · obtain rfl := Except.error.inj h
      exact fail_ne (c := 'i') (head_append (head_append rfl)) (by decide)
    · cases h
  | bytes c => cases h

/-- Data of 64 bytes or more is decoded to what it announces, or refused. -/
theorem decodeCrossVmResult_cases (ret : ReturnData) :
    (∃ e, decodeCrossVmResult ret.value = .error e ∧ e ≠ undefinedToBigInt ∧
      ∀ b, toBytes ret.value = .ok b → b.length < 64 ∨ Abi.announced b = none) ∨
    ∃ b out, toBytes ret.value = .ok b ∧ Abi.announced b = some out ∧ decodeCrossVmResult ret.value = .ok out := by
  unfold decodeCrossVmResult
  cases read : toBytes ret.value with
  | error e =>
    refine Or.inl ⟨e, rfl, toBytes_error read, ?_⟩
    intro b other
    cases other
  | ok b =>
    have refused : b.length < 64 ∨ Abi.announced b = none →
        ∀ c, (.ok b : Except JsError Bytes) = .ok c → c.length < 64 ∨ Abi.announced c = none := by
      intro nothing c same
      rwa [← Except.ok.inj same]
    rw [ok_bind]
    by_cases empty : b.length = 0
    · rw [if_pos empty]
      refine Or.inl ⟨_, rfl, fail_ne (c := 'e') rfl (by decide), refused (Or.inl (by omega))⟩
    · rw [if_neg empty]
      by_cases few : b.length < 64
      · rw [if_pos few]
        refine Or.inl ⟨_, rfl, fail_ne (c := 'c') (head_append (head_append rfl)) (by decide), refused (Or.inl few)⟩
      · rw [if_neg few]
        cases reading (ret.length_le read) (by omega) with
        | outside w first beyond nothing =>
          rw [first, ok_bind]
          dsimp only
          rw [if_pos beyond]
          refine Or.inl ⟨_, rfl, fail_ne (c := 'c') rfl (by decide), refused (Or.inr nothing)⟩
        | short w len first within second beyond nothing =>
          rw [first, ok_bind]
          dsimp only
          rw [if_neg within, second, ok_bind]
          rw [if_pos beyond]
          refine Or.inl ⟨_, rfl, fail_ne (c := 'c') rfl (by decide), refused (Or.inr nothing)⟩
        | whole w len first within second within' data =>
          refine Or.inr ⟨b, _, rfl, data, ?_⟩
          rw [first, ok_bind]
          dsimp only
          rw [if_neg within, second, ok_bind]
          rw [if_neg within']
          rfl

/-- Data behind the selector is decoded to the text of what it announces; no other data is a reason. -/
theorem decodeRevertReason_cases (ret : ReturnData) :
    (∃ e, decodeRevertReason ret.value = .error e ∧ e ≠ undefinedToBigInt ∧ ∀ b, toBytes ret.value ≠ .ok b) ∨
    (decodeRevertReason ret.value = .ok none ∧ ∀ b, toBytes ret.value = .ok b →
      b.length < 4 + 64 ∨ bytesToHex (b.take 4) ≠ "08c379a0" ∨ Abi.announced (b.drop 4) = none) ∨
    ∃ b out, toBytes ret.value = .ok b ∧ Abi.announced (b.drop 4) = some out ∧
      decodeRevertReason ret.value = .ok (some (decodeText out)) := by
  unfold decodeRevertReason
  cases read : toBytes ret.value with
  | error e =>
    refine Or.inl ⟨e, rfl, toBytes_error read, ?_⟩
    intro b other
    cases other
  | ok b =>
    have refused : (b.length < 4 + 64 ∨ bytesToHex (b.take 4) ≠ "08c379a0" ∨ Abi.announced (b.drop 4) = none) →
        ∀ c, (.ok b : Except JsError Bytes) = .ok c →
          c.length < 4 + 64 ∨ bytesToHex (c.take 4) ≠ "08c379a0" ∨ Abi.announced (c.drop 4) = none := by
      intro nothing c same
      rwa [← Except.ok.inj same]
    rw [ok_bind]
    by_cases foreign : b.length < 4 + 64 ∨ bytesToHex (b.take 4) ≠ "08c379a0"
    · rw [if_pos foreign]
      exact Or.inr (Or.inl ⟨rfl, refused (foreign.imp_right Or.inl)⟩)
    · rw [if_neg foreign]
      dsimp only
      have fits := ret.length_le read
      have size : (b.drop 4).length = b.length - 4 := List.length_drop
      have long : ¬ b.length < 4 + 64 := fun few => foreign (Or.inl few)
      cases reading (by omega : (b.drop 4).length ≤ MAX_SAFE_INTEGER) (by omega) with
      | outside w first beyond nothing =>
        rw [first, ok_bind, if_pos beyond]
        exact Or.inr (Or.inl ⟨rfl, refused (Or.inr (Or.inr nothing))⟩)
      | short w len first within second beyond nothing =>
        rw [first, ok_bind, if_neg within, second, ok_bind, if_pos beyond]
        exact Or.inr (Or.inl ⟨rfl, refused (Or.inr (Or.inr nothing))⟩)
      | whole w len first within second within' data =>
        refine Or.inr (Or.inr ⟨b, _, rfl, data, ?_⟩)
        rw [first, ok_bind, if_neg within, second, ok_bind, if_neg within']
        rfl

/-! ### Round trips -/

theorem decodeText_encode {s : String} (mark : s.toList.head? ≠ some '\uFEFF') : decodeText (encode s) = s := by
  unfold decodeText
  rw [encode_eq_flatMap, Utf8.decode_flatMap]
  split
  · rename_i cs text
    rw [text] at mark
    exact absurd rfl mark
  · exact String.ofList_toList

theorem decodeCrossVmResult_tuple {x : Bytes} (ret : ReturnData)
    (encoded : toBytes ret.value = .ok (Abi.tuple 0 [x])) : decodeCrossVmResult ret.value = .ok x := by
  have fits := ret.length_le encoded
  have limit : MAX_SAFE_INTEGER = 2 ^ 53 - 1 := rfl
  have size := Abi.length_tuple 0 [x]
  have announced : Abi.announced (Abi.tuple 0 [x]) = some x := Abi.announced_tuple (by omega)
  rcases decodeCrossVmResult_cases ret with ⟨-, -, -, nothing⟩ | ⟨b, out, read, data, result⟩
  · rcases nothing _ encoded with few | none
    · simp only [size, Abi.tails, List.length_singleton, List.flatMap_singleton, Abi.length_dynamic] at few
      omega
    · rw [announced] at none
      cases none
  · obtain rfl := Except.ok.inj (encoded.symm.trans read)
    rw [announced] at data
    rw [result, Option.some.inj data]

/-- `0x08c379a0` -/
def ERROR_SELECTOR : Bytes := [0x08, 0xC3, 0x79, 0xA0]

theorem decodeRevertReason_tuple {s : String} (ret : ReturnData) (mark : s.toList.head? ≠ some '\uFEFF')
    (encoded : toBytes ret.value = .ok (ERROR_SELECTOR ++ Abi.tuple 0 [encode s])) :
    decodeRevertReason ret.value = .ok (some s) := by
  have fits := ret.length_le encoded
  have limit : MAX_SAFE_INTEGER = 2 ^ 53 - 1 := rfl
  have size := Abi.length_tuple 0 [encode s]
  have front : (ERROR_SELECTOR ++ Abi.tuple 0 [encode s]).take 4 = ERROR_SELECTOR := List.take_left' rfl
  have body : (ERROR_SELECTOR ++ Abi.tuple 0 [encode s]).drop 4 = Abi.tuple 0 [encode s] := List.drop_left' rfl
  have selector : bytesToHex ERROR_SELECTOR = "08c379a0" := by decide
  have length : (ERROR_SELECTOR ++ Abi.tuple 0 [encode s]).length = 4 + (Abi.tuple 0 [encode s]).length :=
    List.length_append
  have announced : Abi.announced (Abi.tuple 0 [encode s]) = some (encode s) := Abi.announced_tuple (by omega)
  rcases decodeRevertReason_cases ret with ⟨-, -, -, nothing⟩ | ⟨-, nothing⟩ | ⟨b, out, read, data, result⟩
  · exact absurd encoded (nothing _)
  · rcases nothing _ encoded with few | other | none
    · simp only [length, size, Abi.tails, List.length_singleton, List.flatMap_singleton, Abi.length_dynamic] at few
      omega
    · rw [front] at other
      exact absurd selector other
    · rw [body, announced] at none
      cases none
  · obtain rfl := Except.ok.inj (encoded.symm.trans read)
    rw [body, announced] at data
    rw [result, ← Option.some.inj data, decodeText_encode mark]

end

/-- Data announced within a body, with as many bytes as its length says. -/
def Announces (body out : Bytes) : Prop :=
  ∃ offset, Abi.wordAt body 0 = some offset ∧ Abi.wordAt body offset = some out.length ∧
    offset + 32 + out.length ≤ body.length ∧ (body.drop (offset + 32)).take out.length = out

/-- A tuple is read back behind its static words as long as all of it is an array; calldata is the selector, the target
and the tuple; results and reasons are read back; and no data makes a decoder read outside of it. -/
theorem crossVm_exact (keccak256 : Bytes → Bytes) :
    (∀ (items : List Bytes) (headWords : Nat) (head : Bytes), head.length = 32 * headWords →
      head.length + (Abi.tuple headWords items).length ≤ MAX_SAFE_INTEGER →
      ∃ b, encodeDynamicTuple items headWords = .ok b ∧
        Abi.readTuple headWords items.length (head ++ b) = some items) ∧
    (∀ call : CrossVmCall, call.target = 0 ∨ call.target = 1 →
      FitsString ("0x" ++ bytesToHex (call.bytes keccak256)) →
      ∃ dynamic, encodeDynamicTuple [encode call.contract, call.msg.toBytes] 1 = .ok dynamic ∧
        encodeCrossVmCalldata keccak256 call = .ok ("0x" ++ bytesToHex
          ((keccak256 (encode CROSS_VM_DEFAULT_SIGNATURE)).take 4 ++ (Abi.word call.target ++ dynamic)))) ∧
    (∀ (x : Bytes) (ret : ReturnData), toBytes ret.value = .ok (Abi.tuple 0 [x]) →
      decodeCrossVmResult ret.value = .ok x) ∧
    (∀ (s : String) (data : ReturnData), s.toList.head? ≠ some '\uFEFF' →
      toBytes data.value = .ok (ERROR_SELECTOR ++ Abi.tuple 0 [encode s]) →
      decodeRevertReason data.value = .ok (some s)) ∧
    (∀ ret : ReturnData, decodeCrossVmResult ret.value ≠ .error undefinedToBigInt ∧
      ∀ out, decodeCrossVmResult ret.value = .ok out → ∃ b, toBytes ret.value = .ok b ∧ Announces b out) ∧
    ∀ data : ReturnData, decodeRevertReason data.value ≠ .error undefinedToBigInt ∧
      ∀ text, decodeRevertReason data.value = .ok (some text) →
        ∃ b out, toBytes data.value = .ok b ∧ Announces (b.drop 4) out ∧ text = decodeText out := by
  refine ⟨?_, ?_, ?_, ?_, ?_, ?_⟩
  · intro items headWords head front small
    have limit : MAX_SAFE_INTEGER = 2 ^ 53 - 1 := rfl
    exact ⟨_, encodeDynamicTuple_eq (by omega), Abi.readTuple_tuple front (by omega)⟩
  · intro call known fits
    exact ⟨_, encodeDynamicTuple_eq (call.tuple_fits fits), encodeCrossVmCalldata_eq known fits⟩
  · intro x ret encoded
    exact decodeCrossVmResult_tuple ret encoded
  · intro s data mark encoded
    exact decodeRevertReason_tuple data mark encoded
  · intro ret
    rcases decodeCrossVmResult_cases ret with ⟨e, failed, other, -⟩ | ⟨b, out, read, data, result⟩
    · rw [failed]
      exact ⟨fun same => other (Except.error.inj same), nofun⟩
    · rw [result]
      refine ⟨nofun, ?_⟩
      intro out' same
      obtain rfl := Except.ok.inj same
      exact ⟨b, read, Abi.announced_eq_some_iff.mp data⟩
  · intro data
    rcases decodeRevertReason_cases data with ⟨e, failed, other, -⟩ | ⟨none, -⟩ | ⟨b, out, read, found, result⟩
    · rw [failed]
      exact ⟨fun same => other (Except.error.inj same), nofun⟩
    · rw [none]
      exact ⟨nofun, nofun⟩
    · rw [result]
      refine ⟨nofun, ?_⟩
      intro text same
      obtain rfl := Option.some.inj (Except.ok.inj same)
      exact ⟨b, out, read, Abi.announced_eq_some_iff.mp found, rfl⟩

def tupleItems : List Bytes := [[1, 2, 3], List.replicate 33 7, [255]]

def ledgerCall : CrossVmCall where
  contract := "ledger"
  msg := .bytes [10, 11]
  targetVm := some 0

/-- Three items of different lengths behind two words, a call of an EVM contract, a result and a reason. -/
theorem crossVm_exact_sample :
    (∃ b, encodeDynamicTuple tupleItems 2 = .ok b ∧
      Abi.readTuple 2 3 (Abi.word 5 ++ Abi.word 6 ++ b) = some tupleItems) ∧
    (∃ dynamic, encodeDynamicTuple [encode "ledger", [10, 11]] 1 = .ok dynamic ∧
      encodeCrossVmCalldata id ledgerCall = .ok ("0x" ++ bytesToHex
        ((encode CROSS_VM_DEFAULT_SIGNATURE).take 4 ++ (Abi.word 0 ++ dynamic)))) ∧
    decodeCrossVmResult (.bytes (Abi.tuple 0 [List.replicate 33 7])) = .ok (List.replicate 33 7) ∧
    decodeRevertReason (.bytes (ERROR_SELECTOR ++ Abi.tuple 0 [encode "out of gas"])) = .ok (some "out of gas") := by
  obtain ⟨tuples, calls, results, reasons, -⟩ := crossVm_exact id
  refine ⟨?_, ?_, ?_, ?_⟩
  · exact tuples tupleItems 2 (Abi.word 5 ++ Abi.word 6) (by simp) (by decide +kernel)
  · have tail : (Abi.tuple 1 [encode "ledger", [10, 11]]).length = 192 := by decide +kernel
    have size : (ledgerCall.bytes id).length ≤ 228 := by
      change (_ ++ (_ ++ Abi.tuple 1 [encode "ledger", [10, 11]])).length ≤ 228
      rw [List.length_append, List.length_append, List.length_take, Abi.length_word, tail]
      omega
    have fits : FitsString ("0x" ++ bytesToHex (ledgerCall.bytes id)) := by
      refine (length_le_toList _).trans ?_
      have front : "0x".toList.length = 2 := rfl
      have limit : MAX_SAFE_INTEGER = 2 ^ 53 - 1 := rfl
      rw [String.toList_append, bytesToHex_toList, List.length_append, length_flatMap_hexPair, front]
      omega
    exact calls ledgerCall (Or.inl rfl) fits
  · exact results (List.replicate 33 7) ⟨.bytes (Abi.tuple 0 [List.replicate 33 7]), by decide +kernel⟩ rfl
  · exact reasons "out of gas" ⟨.bytes (ERROR_SELECTOR ++ Abi.tuple 0 [encode "out of gas"]), by decide +kernel⟩
      (by decide) rfl

end QorechainRdk
