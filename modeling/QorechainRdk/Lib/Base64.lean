import Mathlib.Tactic.Basic

/-!
# Base64

The standard alphabet of RFC 4648 with mandatory padding. The decoder is strict: padding stands in the last quantum
only, and the bits that padding leaves over are zero.
-/

namespace Rfc4648

def alphabet : List Char :=
  ['A', 'B', 'C', 'D', 'E', 'F', 'G', 'H', 'I', 'J', 'K', 'L', 'M', 'N', 'O', 'P', 'Q', 'R', 'S', 'T', 'U', 'V',
    'W', 'X', 'Y', 'Z', 'a', 'b', 'c', 'd', 'e', 'f', 'g', 'h', 'i', 'j', 'k', 'l', 'm', 'n', 'o', 'p', 'q', 'r',
    's', 't', 'u', 'v', 'w', 'x', 'y', 'z', '0', '1', '2', '3', '4', '5', '6', '7', '8', '9', '+', '/']

def symbol (n : Nat) : Char := alphabet.getD n 'A'

def value (c : Char) : Option Nat := alphabet.idxOf? c

def encode : List UInt8 → List Char
  | x :: y :: z :: rest =>
    symbol (x.toNat / 4) :: symbol (x.toNat % 4 * 16 + y.toNat / 16) :: symbol (y.toNat % 16 * 4 + z.toNat / 64) ::
      symbol (z.toNat % 64) :: encode rest
  | [x, y] => [symbol (x.toNat / 4), symbol (x.toNat % 4 * 16 + y.toNat / 16), symbol (y.toNat % 16 * 4), '=']
  | [x] => [symbol (x.toNat / 4), symbol (x.toNat % 4 * 16), '=', '=']
  | [] => []

/-- Four symbols are three bytes. -/
def decodeWhole (a b c d : Char) : Option (List UInt8) := do
  let w ← value a
  let x ← value b
  let y ← value c
  let z ← value d
  some [.ofNat (w * 4 + x / 16), .ofNat (x % 16 * 16 + y / 4), .ofNat (y % 4 * 64 + z)]

/-- A quantum that ends in a pad is one byte or two. -/
def decodePadded (a b c : Char) : Option (List UInt8) := do
  let w ← value a
  let x ← value b
  if c = '=' then
    if x % 16 = 0 then some [.ofNat (w * 4 + x / 16)] else none
  else
    let y ← value c
    if y % 4 = 0 then some [.ofNat (w * 4 + x / 16), .ofNat (x % 16 * 16 + y / 4)] else none

def decode : List Char → Option (List UInt8)
  | a :: b :: c :: d :: rest =>
    if d = '=' ∧ rest = [] then decodePadded a b c
    else do
      let bytes ← decodeWhole a b c d
      let later ← decode rest
      some (bytes ++ later)
  | [] => some []
  | _ => none

theorem getElem?_alphabet {n : Nat} (h : n < 64) : alphabet[n]? = some (symbol n) := by
  have inside : n < alphabet.length := h
  rw [symbol, List.getD_eq_getElem?_getD, List.getElem?_eq_getElem inside, Option.getD_some]

theorem symbol_mem {n : Nat} (h : n < 64) : symbol n ∈ alphabet := List.mem_of_getElem? (getElem?_alphabet h)

theorem symbol_ne_pad {n : Nat} (h : n < 64) : symbol n ≠ '=' := by
  have foreign : '=' ∉ alphabet := by decide
  intro same
  exact foreign (same ▸ symbol_mem h)

theorem value_symbol {n : Nat} (h : n < 64) : value (symbol n) = some n := by
  have all : ∀ m : Fin 64, value (symbol m) = some m.1 := by decide +kernel
  exact all ⟨n, h⟩

theorem ofNat_eq_of_toNat {n : Nat} {x : UInt8} (h : n = x.toNat) : UInt8.ofNat n = x := by
  rw [h, UInt8.ofNat_toNat]

theorem decodeWhole_symbols (x y z : UInt8) :
    decodeWhole (symbol (x.toNat / 4)) (symbol (x.toNat % 4 * 16 + y.toNat / 16))
      (symbol (y.toNat % 16 * 4 + z.toNat / 64)) (symbol (z.toNat % 64)) = some [x, y, z] := by
  have hx := x.toNat_lt
  have hy := y.toNat_lt
  have hz := z.toNat_lt
  unfold decodeWhole
  rw [value_symbol (by omega), value_symbol (by omega), value_symbol (by omega), value_symbol (by omega)]
  dsimp only [Option.bind_eq_bind, Option.bind_some]
  rw [ofNat_eq_of_toNat (x := x) (by omega), ofNat_eq_of_toNat (x := y) (by omega),
    ofNat_eq_of_toNat (x := z) (by omega)]

theorem decodePadded_two (x y : UInt8) :
    decodePadded (symbol (x.toNat / 4)) (symbol (x.toNat % 4 * 16 + y.toNat / 16)) (symbol (y.toNat % 16 * 4)) =
      some [x, y] := by
  have hx := x.toNat_lt
  have hy := y.toNat_lt
  unfold decodePadded
  rw [value_symbol (by omega), value_symbol (by omega), value_symbol (by omega)]
  dsimp only [Option.bind_eq_bind, Option.bind_some]
  rw [if_neg (symbol_ne_pad (by omega)), if_pos (by omega), ofNat_eq_of_toNat (x := x) (by omega),
    ofNat_eq_of_toNat (x := y) (by omega)]

theorem decodePadded_one (x : UInt8) :
    decodePadded (symbol (x.toNat / 4)) (symbol (x.toNat % 4 * 16)) '=' = some [x] := by
  have hx := x.toNat_lt
  unfold decodePadded
  rw [value_symbol (by omega), value_symbol (by omega)]
  dsimp only [Option.bind_eq_bind, Option.bind_some]
  rw [if_pos rfl, if_pos (by omega), ofNat_eq_of_toNat (x := x) (by omega)]

theorem decode_encode (bytes : List UInt8) : decode (encode bytes) = some bytes := by
  induction bytes using encode.induct with
  | case1 x y z rest ih =>
    have whole : symbol (z.toNat % 64) ≠ '=' := symbol_ne_pad (by omega)
    rw [encode, decode, if_neg fun both => whole both.1, decodeWhole_symbols, ih]
    rfl
  | case2 x y =>
    rw [encode, decode, if_pos ⟨rfl, rfl⟩]
    exact decodePadded_two x y
  | case3 x =>
    rw [encode, decode, if_pos ⟨rfl, rfl⟩]
    exact decodePadded_one x
  | case4 => rfl

theorem length_encode (bytes : List UInt8) : (encode bytes).length = 4 * ((bytes.length + 2) / 3) := by
  induction bytes using encode.induct with
  | case1 x y z rest ih =>
    rw [encode]
    simp only [List.length_cons, ih]
    omega
  | case2 x y => simp [encode]
  | case3 x => simp [encode]
  | case4 => rfl

/-- Symbols of the alphabet, then as many pads as bytes are missing from the last quantum. -/
theorem encode_shape (bytes : List UInt8) : ∃ symbols, (∀ c ∈ symbols, c ∈ alphabet) ∧
    encode bytes = symbols ++ List.replicate ((3 - bytes.length % 3) % 3) '=' := by
  induction bytes using encode.induct with
  | case1 x y z rest ih =>
    obtain ⟨symbols, standard, text⟩ := ih
    have hx := x.toNat_lt
    have hy := y.toNat_lt
    have hz := z.toNat_lt
    refine ⟨symbol (x.toNat / 4) :: symbol (x.toNat % 4 * 16 + y.toNat / 16) ::
      symbol (y.toNat % 16 * 4 + z.toNat / 64) :: symbol (z.toNat % 64) :: symbols, ?_, ?_⟩
    · simp only [List.forall_mem_cons]
      exact ⟨symbol_mem (by omega), symbol_mem (by omega), symbol_mem (by omega), symbol_mem (by omega), standard⟩
    · have pads : (x :: y :: z :: rest).length % 3 = rest.length % 3 := by
        simp only [List.length_cons]
        omega
      rw [encode, text, pads]
      rfl
  | case2 x y =>
    have hx := x.toNat_lt
    have hy := y.toNat_lt
    refine ⟨[symbol (x.toNat / 4), symbol (x.toNat % 4 * 16 + y.toNat / 16), symbol (y.toNat % 16 * 4)], ?_, rfl⟩
    simp only [List.forall_mem_cons]
    exact ⟨symbol_mem (by omega), symbol_mem (by omega), symbol_mem (by omega), nofun⟩
  | case3 x =>
    have hx := x.toNat_lt
    refine ⟨[symbol (x.toNat / 4), symbol (x.toNat % 4 * 16)], ?_, rfl⟩
    simp only [List.forall_mem_cons]
    exact ⟨symbol_mem (by omega), symbol_mem (by omega), nofun⟩
  | case4 => exact ⟨[], nofun, rfl⟩

end Rfc4648
