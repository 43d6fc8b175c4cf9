import QorechainRdk.Lib.Doubles

/-!
# The language's own operations

What the sources use of JavaScript itself. A `number` is modelled where it is integral, as an `Int`;
a string is well-formed Unicode.
-/

namespace QorechainRdk

abbrev Bytes := List UInt8

structure JsError where
  message : String
  deriving DecidableEq, Repr

section
variable {α β : Type}

def fail (message : String) : Except JsError α := .error ⟨message⟩

@[simp] theorem ok_bind (a : α) (f : α → Except JsError β) : (Except.ok a >>= f) = f a := rfl

@[simp] theorem fail_bind (message : String) (f : α → Except JsError β) :
    (fail message >>= f) = fail message := rfl

@[simp] theorem fail_ne_ok (message : String) (a : α) : fail message ≠ .ok a := nofun

theorem bind_ok {ε : Type} {x : Except ε α} {f : α → Except ε β} {b : β}
    (h : (x >>= f) = .ok b) : ∃ a, x = .ok a ∧ f a = .ok b := by
  cases x with
  | error e => cases h
  | ok a => exact ⟨a, rfl, h⟩

theorem bind_ok_iff {ε : Type} {x : Except ε α} {f : α → Except ε β} {b : β} :
    (x >>= f) = .ok b ↔ ∃ a, x = .ok a ∧ f a = .ok b :=
  ⟨bind_ok, fun ⟨_, read, h⟩ => by rw [read]; exact h⟩

theorem pure_ok_iff {ε : Type} {a b : α} : (pure a : Except ε α) = .ok b ↔ a = b := by
  simp [pure, Except.pure]

theorem guard_ok_iff {p : Prop} [Decidable p] {message : String} {x : Except JsError β} {b : β} :
    (if p then fail message else x) = .ok b ↔ ¬ p ∧ x = .ok b := by
  split <;> simp [*]

end

namespace Js

inductive Integral where
  | number (n : Int)
  | bigint (n : Int)
  | string (s : String)
  deriving DecidableEq, Repr

/-- A `number` where it need not be integral: any other one goes by the text that `String` gives for it. -/
inductive Number where
  | integer (n : Int)
  | other (text : String)
  deriving DecidableEq, Repr

def isInteger : Number → Bool
  | .integer _ => true
  | .other _ => false

def isWhiteSpace (c : Char) : Bool :=
  let n := c.toNat
  (9 ≤ n && n ≤ 13) || n == 0x20 || n == 0xA0 || n == 0xFEFF || n == 0x1680 ||
    (0x2000 ≤ n && n ≤ 0x200A) || n == 0x2028 || n == 0x2029 || n == 0x202F || n == 0x205F ||
    n == 0x3000

def digitValue (c : Char) : Nat :=
  if c.isDigit then c.toNat - 48
  else if 'a' ≤ c && c ≤ 'z' then c.toNat - 87
  else if 'A' ≤ c && c ≤ 'Z' then c.toNat - 55
  else 36

def digits (base : Nat) (cs : List Char) : Option Nat :=
  if cs.isEmpty || cs.any (fun c => base ≤ digitValue c) then none
  else some (cs.foldl (fun n c => n * base + digitValue c) 0)

/-- `StringToBigInt`: a sign goes with decimal digits only, and blanks mean zero. -/
def stringToBigInt (s : String) : Option Int :=
  let trimmed := ((s.toList.dropWhile isWhiteSpace).reverse.dropWhile isWhiteSpace).reverse
  match trimmed with
  | [] => some 0
  | '0' :: 'x' :: ds => (digits 16 ds).map Int.ofNat
  | '0' :: 'X' :: ds => (digits 16 ds).map Int.ofNat
  | '0' :: 'o' :: ds => (digits 8 ds).map Int.ofNat
  | '0' :: 'O' :: ds => (digits 8 ds).map Int.ofNat
  | '0' :: 'b' :: ds => (digits 2 ds).map Int.ofNat
  | '0' :: 'B' :: ds => (digits 2 ds).map Int.ofNat
  | '+' :: ds => (digits 10 ds).map Int.ofNat
  | '-' :: ds => (digits 10 ds).map fun n => -Int.ofNat n
  | ds => (digits 10 ds).map Int.ofNat

def bigInt : Integral → Except JsError Int
  | .number n => .ok n
  | .bigint n => .ok n
  | .string s =>
    match stringToBigInt s with
    | some n => .ok n
    | none => fail s!"Cannot convert {s} to a BigInt"

/-- A string that `!value` takes for missing: `undefined` or empty. -/
def falsy (value : Option String) : Bool := value.getD "" == ""

/-- `toLowerCase` on the ASCII letters; the sources lower hex strings only. -/
def toLowerCase (s : String) : String := s.map Char.toLower

def hexDigit (n : Nat) : Char := "0123456789abcdef".toList.getD n '0'

def escape (c : Char) : List Char :=
  match c with
  | '"' => ['\\', '"']
  | '\\' => ['\\', '\\']
  | '\n' => ['\\', 'n']
  | '\r' => ['\\', 'r']
  | '\t' => ['\\', 't']
  | c =>
    if c.toNat == 8 then ['\\', 'b']
    else if c.toNat == 12 then ['\\', 'f']
    else if c.toNat < 32 then
      ['\\', 'u', '0', '0', hexDigit (c.toNat / 16), hexDigit (c.toNat % 16)]
    else [c]

def stringify (s : String) : String :=
  String.ofList (['"'] ++ s.toList.flatMap escape ++ ['"'])

def MAX_SAFE_INTEGER : Nat := 9007199254740991

/-- `Number::toString` of an integer: the digits that the double does not tell apart are zeros. -/
def numberText (n : Int) : String :=
  if n.natAbs ≤ 2 ^ 53 then toString n
  else (if n < 0 then "-" else "") ++ String.ofList (Doubles.text (Doubles.nearest n.natAbs 1))

def stringifyNumber : Number → String
  | .integer n => numberText n
  | .other text => text

def ofDouble : Doubles.Double → Number
  | .finite negative units =>
    if units % Doubles.one = 0 then .integer (Doubles.signed negative (units / Doubles.one))
    else .other ((if negative then "-" else "") ++ String.ofList (Doubles.text units))
  | .infinite negative => .other (if negative then "-Infinity" else "Infinity")
  | .nan => .other "NaN"

def isFiniteNumber : Number → Bool
  | .integer _ => true
  | .other text => !(["NaN", "Infinity", "-Infinity"].contains text)

/-- `length`: a character beyond the basic plane takes two code units. -/
def length (s : String) : Nat := s.toList.foldr (fun c n => (if c.toNat < 0x10000 then 1 else 2) + n) 0

/-- The language has no longer string. -/
def FitsString (s : String) : Prop := length s ≤ MAX_SAFE_INTEGER

/-- `JSON.stringify` of a number. -/
def jsonNumber (n : Number) : String := if isFiniteNumber n then stringifyNumber n else "null"

theorem numberText_exact {n : Int} (exact : n.natAbs ≤ 2 ^ 53) : numberText n = toString n := if_pos exact

theorem numberText_safe {n : Int} (safe : n.natAbs ≤ MAX_SAFE_INTEGER) : numberText n = toString n :=
  numberText_exact (Nat.le_trans safe (by decide))

theorem ofDouble_whole (negative : Bool) (n : Nat) :
    ofDouble (.finite negative (n * Doubles.one)) = .integer (Doubles.signed negative n) := by
  have rest : n * Doubles.one % Doubles.one = 0 := Nat.mul_mod_left n Doubles.one
  have quotient : n * Doubles.one / Doubles.one = n := Nat.mul_div_cancel n Doubles.one_pos
  unfold ofDouble
  dsimp only
  rw [if_pos rest, quotient]

theorem toList_length_le (s : String) : s.toList.length ≤ length s := by
  unfold length
  induction s.toList with
  | nil => exact Nat.le_refl _
  | cons c cs ih =>
    rw [List.length_cons, List.foldr_cons]
    split
    · omega
    · omega

theorem length_le_toList (s : String) : length s ≤ 2 * s.toList.length := by
  unfold length
  induction s.toList with
  | nil => exact Nat.le_refl _
  | cons c cs ih =>
    rw [List.length_cons, List.foldr_cons]
    split
    · omega
    · omega

def encode (s : String) : Bytes := s.toUTF8.data.toList

theorem encode_inj {s t : String} (h : encode s = encode t) : s = t := by
  have data : s.toUTF8.data = t.toUTF8.data := by simpa [encode] using h
  exact String.toByteArray_inj.mp (ByteArray.ext data)

@[simp] theorem encode_length (s : String) : (encode s).length = s.utf8ByteSize := rfl

theorem utf8Encode_size_le (cs : List Char) : cs.utf8Encode.size ≤ 4 * cs.length := by
  induction cs with
  | nil => simp
  | cons c cs ih =>
    have width := c.utf8Size_le_four
    rw [List.utf8Encode_cons, ByteArray.size_append, List.utf8Encode_singleton]
    simp only [List.size_toByteArray, String.length_utf8EncodeChar, List.length_cons]
    omega

theorem encode_eq_flatMap (s : String) : encode s = s.toList.flatMap String.utf8EncodeChar := by
  have bytes : encode s = s.toList.utf8Encode.data.toList := by
    rw [String.utf8Encode_toList]
    rfl
  rw [bytes]
  simp [List.utf8Encode]

theorem zero_ne_or {x y : UInt8} (h : y ≠ 0) : 0 ≠ x ||| y := by
  intro zero
  exact h (UInt8.or_eq_zero_iff.mp zero.symm).2

theorem zero_not_mem_utf8EncodeChar {c : Char} (h : c ≠ '\x00') : 0 ∉ String.utf8EncodeChar c := by
  rcases c.utf8Size_eq with one | two | three | four
  · rw [String.utf8EncodeChar_eq_singleton one, List.mem_singleton]
    intro zero
    have ascii : c.val.toNat ≤ 127 := UInt32.le_iff_toNat_le.mp (Char.utf8Size_eq_one_iff.mp one)
    have low := congrArg UInt8.toNat zero
    rw [UInt32.toNat_toUInt8] at low
    apply h
    apply Char.ext
    apply UInt32.toNat_inj.mp
    change 0 = c.val.toNat % 256 at low
    change c.val.toNat = 0
    omega
  · rw [String.utf8EncodeChar_eq_cons_cons two]
    simp [zero_ne_or]
  · rw [String.utf8EncodeChar_eq_cons_cons_cons three]
    simp [zero_ne_or]
  · rw [String.utf8EncodeChar_eq_cons_cons_cons_cons four]
    simp [zero_ne_or]

/-- UTF-8 writes the zero byte for the zero character only. -/
theorem zero_not_mem_encode {s : String} (h : '\x00' ∉ s.toList) : 0 ∉ encode s := by
  rw [encode_eq_flatMap]
  intro member
  obtain ⟨c, inside, zero⟩ := List.mem_flatMap.mp member
  refine zero_not_mem_utf8EncodeChar ?_ zero
  rintro rfl
  exact h inside

theorem encode_length_le {s : String} (fits : FitsString s) : (encode s).length ≤ 4 * MAX_SAFE_INTEGER := by
  have bytes : (encode s).length = s.toList.utf8Encode.size := by
    rw [String.utf8Encode_toList]
    rfl
  have width := utf8Encode_size_le s.toList
  have units := toList_length_le s
  unfold FitsString at fits
  omega

theorem encode_length_pos {s : String} (h : s ≠ "") : 0 < (encode s).length := by
  rw [encode_length]
  exact Nat.pos_of_ne_zero (mt String.utf8ByteSize_eq_zero_iff.mp h)

end Js
end QorechainRdk
