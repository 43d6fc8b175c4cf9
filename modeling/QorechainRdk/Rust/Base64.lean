import QorechainRdk.Utils.Base64

/-!
# The base64 of the Rust client

`base64_encode` of `tx/client.rs`. An index out of bounds is a panic.
-/

namespace QorechainRdk
namespace Rust

def TABLE : List Char := "ABCDEFGHIJKLMNOPQRSTUVWXYZabcdefghijklmnopqrstuvwxyz0123456789+/".toList

/-- `input.chunks(3)` -/
def chunks3 : Bytes → List Bytes
  | a :: b :: c :: rest => [a, b, c] :: chunks3 rest
  | [a, b] => [[a, b]]
  | [a] => [[a]]
  | [] => []

/-- `TABLE[(n & 0x3f) as usize]` -/
def tableAt (n : UInt32) : Option Char := TABLE[(n &&& 0x3f).toNat]?

/-- One turn of the loop. -/
def pushChunk (out : String) (chunk : Bytes) : Option String := do
  let b0 : UInt32 ← chunk[0]?.map UInt8.toUInt32
  let b1 : UInt32 := (chunk[1]?.getD 0).toUInt32
  let b2 : UInt32 := (chunk[2]?.getD 0).toUInt32
  let n : UInt32 := (b0 <<< 16) ||| (b1 <<< 8) ||| b2
  let out := out.push (← tableAt (n >>> 18))
  let out := out.push (← tableAt (n >>> 12))
  let out ← if chunk.length > 1 then (tableAt (n >>> 6)).map out.push else some (out.push '=')
  if chunk.length > 2 then (tableAt n).map out.push else some (out.push '=')

def base64Encode (input : Bytes) : Option String := (chunks3 input).foldlM pushChunk ""

theorem table_standard : TABLE = Rfc4648.alphabet := by decide +kernel

/-- Six bits are an index of the table. -/
theorem tableAt_eq (n : UInt32) : tableAt n = some (Rfc4648.symbol (n.toNat % 64)) := by
  have index : (n &&& 0x3f).toNat = n.toNat % 64 := by
    rw [UInt32.toNat_and]
    exact Nat.and_two_pow_sub_one_eq_mod n.toNat 6
  rw [tableAt, index, table_standard]
  exact Rfc4648.getElem?_alphabet (Nat.mod_lt _ (by decide))

/-- Bits that do not overlap are added. -/
theorem toNat_word (b0 b1 b2 : UInt8) :
    ((b0.toUInt32 <<< 16) ||| (b1.toUInt32 <<< 8) ||| b2.toUInt32).toNat =
      b0.toNat * 65536 + b1.toNat * 256 + b2.toNat := by
  have h0 := b0.toNat_lt
  have h1 := b1.toNat_lt
  have h2 := b2.toNat_lt
  have high : (b0.toUInt32 <<< 16).toNat = 2 ^ 16 * b0.toNat := by
    rw [UInt32.toNat_shiftLeft, UInt8.toNat_toUInt32]
    show b0.toNat <<< 16 % 2 ^ 32 = _
    rw [Nat.shiftLeft_eq]
    omega
  have middle : (b1.toUInt32 <<< 8).toNat = 2 ^ 8 * b1.toNat := by
    rw [UInt32.toNat_shiftLeft, UInt8.toNat_toUInt32]
    show b1.toNat <<< 8 % 2 ^ 32 = _
    rw [Nat.shiftLeft_eq]
    omega
  have upper : 2 ^ 16 * b0.toNat ||| 2 ^ 8 * b1.toNat = 2 ^ 8 * (2 ^ 8 * b0.toNat + b1.toNat) := by
    rw [← Nat.two_pow_add_eq_or_of_lt (by omega)]
    omega
  rw [UInt32.toNat_or, UInt32.toNat_or, high, middle, UInt8.toNat_toUInt32, upper,
    ← Nat.two_pow_add_eq_or_of_lt h2]
  omega

theorem toNat_shiftRight {n k : UInt32} (h : k.toNat < 32) : (n >>> k).toNat = n.toNat / 2 ^ k.toNat := by
  rw [UInt32.toNat_shiftRight, Nat.mod_eq_of_lt h, Nat.shiftRight_eq_div_pow]

/-- The four symbols of a word. -/
theorem tableAt_word (b0 b1 b2 : UInt8) {n : UInt32}
    (word : n = (b0.toUInt32 <<< 16) ||| (b1.toUInt32 <<< 8) ||| b2.toUInt32) :
    tableAt (n >>> 18) = some (Rfc4648.symbol (b0.toNat / 4)) ∧
      tableAt (n >>> 12) = some (Rfc4648.symbol (b0.toNat % 4 * 16 + b1.toNat / 16)) ∧
      tableAt (n >>> 6) = some (Rfc4648.symbol (b1.toNat % 16 * 4 + b2.toNat / 64)) ∧
      tableAt n = some (Rfc4648.symbol (b2.toNat % 64)) := by
  have h0 := b0.toNat_lt
  have h1 := b1.toNat_lt
  have h2 := b2.toNat_lt
  have value : n.toNat = b0.toNat * 65536 + b1.toNat * 256 + b2.toNat := by
    rw [word, toNat_word]
  have first : n.toNat / 2 ^ 18 % 64 = b0.toNat / 4 := by omega
  have second : n.toNat / 2 ^ 12 % 64 = b0.toNat % 4 * 16 + b1.toNat / 16 := by omega
  have third : n.toNat / 2 ^ 6 % 64 = b1.toNat % 16 * 4 + b2.toNat / 64 := by omega
  have last : n.toNat % 64 = b2.toNat % 64 := by omega
  refine ⟨?_, ?_, ?_, ?_⟩
  · rw [tableAt_eq, toNat_shiftRight (by decide), ← first]
    rfl
  · rw [tableAt_eq, toNat_shiftRight (by decide), ← second]
    rfl
  · rw [tableAt_eq, toNat_shiftRight (by decide), ← third]
    rfl
  · rw [tableAt_eq, last]

/-- No index is out of bounds. -/
theorem pushChunk_cons (out : String) (x : UInt8) (rest : Bytes) :
    pushChunk out (x :: rest) =
      some ((((out.push (Rfc4648.symbol (x.toNat / 4))).push
        (Rfc4648.symbol (x.toNat % 4 * 16 + (rest[0]?.getD 0).toNat / 16))).push
        (if rest.length > 0 then
          Rfc4648.symbol ((rest[0]?.getD 0).toNat % 16 * 4 + (rest[1]?.getD 0).toNat / 64) else '=')).push
        (if rest.length > 1 then Rfc4648.symbol ((rest[1]?.getD 0).toNat % 64) else '=')) := by
  obtain ⟨first, second, third, last⟩ := tableAt_word x (rest[0]?.getD 0) (rest[1]?.getD 0) rfl
  unfold pushChunk
  dsimp only [List.getElem?_cons_zero, List.getElem?_cons_succ, Option.map_some, Option.bind_eq_bind, Option.bind_some,
    List.length_cons]
  rw [first, second, third, last]
  dsimp only [Option.map_some, Option.bind_some]
  by_cases two : rest.length > 0
  · rw [if_pos (by omega), if_pos two]
    by_cases three : rest.length > 1
    · rw [if_pos (by omega), if_pos three]
    · rw [if_neg (by omega), if_neg three]
  · rw [if_neg (by omega), if_neg (by omega), if_neg two, if_neg (by omega)]

/-- A chunk is pushed as the standard writes it. -/
theorem pushChunk_eq (out : String) (chunk : Bytes) (nonempty : chunk ≠ []) (short : chunk.length ≤ 3) :
    ∃ text, pushChunk out chunk = some text ∧ text.toList = out.toList ++ Rfc4648.encode chunk := by
  match chunk with
  | [] => exact absurd rfl nonempty
  | [x] =>
    refine ⟨_, pushChunk_cons out x [], ?_⟩
    simp [Rfc4648.encode]
  | [x, y] =>
    refine ⟨_, pushChunk_cons out x [y], ?_⟩
    simp [Rfc4648.encode]
  | [x, y, z] =>
    refine ⟨_, pushChunk_cons out x [y, z], ?_⟩
    simp [Rfc4648.encode]
  | _ :: _ :: _ :: _ :: rest =>
    simp only [List.length_cons] at short
    omega

/-- The loop, from any text. -/
theorem foldlM_pushChunk (out : String) (input : Bytes) :
    ∃ text, (chunks3 input).foldlM pushChunk out = some text ∧
      text.toList = out.toList ++ Rfc4648.encode input := by
  induction input using chunks3.induct generalizing out with
  | case1 x y z rest ih =>
    obtain ⟨pushed, push, chars⟩ := pushChunk_eq out [x, y, z] nofun (Nat.le_refl 3)
    obtain ⟨text, fold, later⟩ := ih pushed
    refine ⟨text, ?_, ?_⟩
    · rw [chunks3, List.foldlM_cons, push]
      exact fold
    · rw [later, chars, List.append_assoc]
      rfl
  | case2 x y =>
    obtain ⟨text, push, chars⟩ := pushChunk_eq out [x, y] nofun (by simp)
    refine ⟨text, ?_, chars⟩
    rw [chunks3, List.foldlM_cons, push]
    rfl
  | case3 x =>
    obtain ⟨text, push, chars⟩ := pushChunk_eq out [x] nofun (by simp)
    refine ⟨text, ?_, chars⟩
    rw [chunks3, List.foldlM_cons, push]
    rfl
  | case4 => exact ⟨out, rfl, (List.append_nil _).symm⟩

theorem base64Encode_eq (input : Bytes) : base64Encode input = some (String.ofList (Rfc4648.encode input)) := by
  obtain ⟨text, fold, chars⟩ := foldlM_pushChunk "" input
  have same : text = String.ofList (Rfc4648.encode input) := by
    apply String.toList_inj.mp
    rw [chars, String.toList_empty, List.nil_append]
    exact String.toList_ofList.symm
  rw [base64Encode, fold, same]

/-- The text is what the TypeScript SDK writes. -/
theorem base64Encode_bytesToBase64 (input : Bytes) : base64Encode input = some (bytesToBase64 input) := by
  have symbols : base64Char = Rfc4648.symbol := funext base64Char_eq
  have chars : ∀ bytes : Bytes, Rfc4648.encode bytes = (sextets bytes).map base64Char ++ padding bytes.length := by
    intro bytes
    induction bytes using sextets.induct with
    | case1 x y z rest ih =>
      have pads : padding (rest.length + 1 + 1 + 1) = padding rest.length := by
        rw [padding, padding]
        congr 1
        omega
      rw [Rfc4648.encode, sextets, ih, List.length_cons, List.length_cons, List.length_cons, pads, symbols]
      rfl
    | case2 x y =>
      rw [symbols]
      rfl
    | case3 x =>
      rw [symbols]
      rfl
    | case4 => rfl
  rw [base64Encode_eq, chars, bytesToBase64]

/-- Every input is encoded, and the standard decoder gives it back. -/
theorem base64Encode_standard (input : Bytes) : ∃ text, base64Encode input = some text ∧
    Rfc4648.decode text.toList = some input ∧
    text.length = 4 * ((input.length + 2) / 3) ∧
    ∃ symbols pads, text.toList = symbols ++ List.replicate pads '=' ∧ pads ≤ 2 ∧
      ∀ c ∈ symbols, c ∈ Rfc4648.alphabet := by
  obtain ⟨symbols, standard, shape⟩ := Rfc4648.encode_shape input
  refine ⟨_, base64Encode_eq input, ?_, ?_, symbols, (3 - input.length % 3) % 3, ?_, by omega, standard⟩
  · rw [String.toList_ofList, Rfc4648.decode_encode]
  · rw [← String.length_toList, String.toList_ofList, Rfc4648.length_encode]
  · rw [String.toList_ofList, shape]

example : base64Encode [102, 111] = some "Zm8=" := by decide +kernel

end Rust
end QorechainRdk
