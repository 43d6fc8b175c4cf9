import QorechainRdk.Lib.Coding
import QorechainRdk.Lib.Utf16
import QorechainRdk.Utils.Js

/-!
# Bytes, hex and base64

`utils/bytes.ts`, the integer encoders that several sources repeat, and `utils/qorehash.ts`. SHAKE-256
itself is a parameter.
-/

namespace QorechainRdk

open Js

/-! ### Hex -/

def bytesToHex (bytes : Bytes) : String :=
  String.ofList (bytes.flatMap fun b => [hexDigit (b.toNat / 16), hexDigit (b.toNat % 16)])

def isHexDigit (c : Char) : Bool := decide (digitValue c < 16)

def hexPairs : List Char → Bytes
  | high :: low :: rest => UInt8.ofNat (16 * digitValue high + digitValue low) :: hexPairs rest
  | _ => []

def stripHexPrefix : List Char → List Char
  | '0' :: 'x' :: rest => rest
  | '0' :: 'X' :: rest => rest
  | cs => cs

def hexToBytes (hex : String) : Except JsError Bytes :=
  let h := stripHexPrefix hex.toList
  if h.length % 2 ≠ 0 ∨ ¬ h.all isHexDigit then fail s!"invalid hex string: \"{hex}\""
  else .ok (hexPairs h)

inductive HexOrBytes where
  | hex (s : String)
  | bytes (b : Bytes)
  deriving DecidableEq, Repr

def toBytes : HexOrBytes → Except JsError Bytes
  | .hex s => hexToBytes s
  | .bytes b => .ok b

/-! ### Base64 -/

def base64Value (c : Char) : Option Nat :=
  if 'A' ≤ c ∧ c ≤ 'Z' then some (c.toNat - 65)
  else if 'a' ≤ c ∧ c ≤ 'z' then some (c.toNat - 71)
  else if c.isDigit then some (c.toNat + 4)
  else if c = '+' ∨ c = '-' then some 62
  else if c = '/' ∨ c = '_' then some 63
  else none

def base64Groups : List Nat → Bytes
  | a :: b :: c :: d :: rest =>
    UInt8.ofNat (a * 4 + b / 16) :: UInt8.ofNat (b * 16 + c / 4) :: UInt8.ofNat (c * 64 + d) ::
      base64Groups rest
  | [a, b, c] => [UInt8.ofNat (a * 4 + b / 16), UInt8.ofNat (b * 16 + c / 4)]
  | [a, b] => [UInt8.ofNat (a * 4 + b / 16)]
  | _ => []

/-- The low bytes of the code units, each as a character. -/
def lowBytes (cs : List Char) : List Char := (Utf16.units cs).map fun u => Char.ofNat (u.toNat % 256)

/-- `Buffer.from(b64, "base64")`: of a code unit the low byte counts, foreign characters are skipped and `=` ends
the input. -/
def base64ToBytes (b64 : String) : Bytes :=
  base64Groups (((lowBytes b64.toList).takeWhile (· ≠ '=')).filterMap base64Value)

def isBase64Only (c : Char) : Bool :=
  c == '+' || c == '/' || c == '=' || ('g' ≤ c && c ≤ 'z') || ('G' ≤ c && c ≤ 'Z')

def decodeWireBytes (value : String) : Except JsError Bytes :=
  if value = "" then .ok []
  else
    let cs := value.toList
    let isHex := cs.length % 2 == 0 && cs.all isHexDigit
    let looksBase64 := cs.any isBase64Only
    if isHex && !looksBase64 then hexToBytes value else .ok (base64ToBytes value)

theorem stripHexPrefix_of_hex {cs : List Char} (h : cs.all isHexDigit = true) :
    stripHexPrefix cs = cs := by
  unfold stripHexPrefix
  split
  · simp [isHexDigit, digitValue] at h
  · simp [isHexDigit, digitValue] at h
  · rfl

theorem hexToBytes_of_hex {s : String} (even : s.toList.length % 2 = 0)
    (hex : s.toList.all isHexDigit = true) : hexToBytes s = .ok (hexPairs s.toList) := by
  unfold hexToBytes
  rw [stripHexPrefix_of_hex hex]
  exact if_neg (by simp only [even, hex]; decide)

/-- The hex branch is guarded by the test that `hexToBytes` makes, so nothing is thrown. -/
theorem decodeWireBytes_ok (value : String) : ∃ b, decodeWireBytes value = .ok b := by
  unfold decodeWireBytes
  split
  · exact ⟨[], rfl⟩
  · dsimp only
    split
    · rename_i hex
      simp only [Bool.and_eq_true, beq_iff_eq] at hex
      exact ⟨_, hexToBytes_of_hex hex.1.1 hex.1.2⟩
    · exact ⟨_, rfl⟩

/-! ### Integers -/

/-- The loop of `u64be`: byte by byte from the last, `v & 0xff` and `v >>= 8`. -/
def u64beLoop : Nat → Int → Bytes → Bytes
  | 0, _, out => out
  | i + 1, v, out => u64beLoop i (v / 256) (UInt8.ofNat (v % 256).toNat :: out)

def u64be (value : Integral) : Except JsError Bytes := do
  let v ← bigInt value
  return u64beLoop 8 v []

theorem u64beLoop_eq (n : Nat) (v : Int) (out : Bytes) :
    u64beLoop n v out = Coding.bigEndian n v ++ out := by
  induction n generalizing v out with
  | zero => rfl
  | succ n ih => simp [u64beLoop, Coding.bigEndian, ih]

theorem u64be_ok_iff {value : Integral} {b : Bytes} :
    u64be value = .ok b ↔ ∃ v, bigInt value = .ok v ∧ Coding.bigEndian 8 v = b := by
  simp only [u64be, bind_ok_iff, pure_ok_iff, u64beLoop_eq, List.append_nil]

/-- `n >>> s & 0xff`, where `>>>` first reduces to 32 bits. -/
def shiftByte (n s : Nat) : UInt8 := UInt8.ofNat (n % 2 ^ 32 / 2 ^ s % 256)

def u32be (n : Nat) : Bytes := [shiftByte n 24, shiftByte n 16, shiftByte n 8, shiftByte n 0]

theorem u32be_eq (n : Nat) : u32be n = Coding.bigEndian 4 n := by
  have byte : ∀ a b : Nat, a % 256 = b % 256 → UInt8.ofNat a = UInt8.ofNat b := by
    intro a b h
    apply UInt8.toNat_inj.mp
    simpa using h
  simp only [u32be, shiftByte, Coding.bigEndian, List.nil_append, List.cons_append, List.cons.injEq,
    and_true]
  refine ⟨byte _ _ ?_, byte _ _ ?_, byte _ _ ?_, byte _ _ ?_⟩ <;> omega

/-- `lp`, `field`: the two parts of a length-prefixed byte string. -/
def lp (b : Bytes) : List Bytes := [u32be b.length, b]

theorem lp_flatten (b : Bytes) : (lp b).flatten = Coding.lengthPrefixed 4 b := by
  simp [lp, u32be_eq, Coding.lengthPrefixed]

/-! ### Hash and comparison -/

def qorehash (shake256 : Bytes → Bytes) (parts : List Bytes) : Bytes := shake256 parts.flatten

def sameBytes (a b : Bytes) : Bool := a.length == b.length && (a.zip b).all fun p => p.1 == p.2

theorem sameBytes_iff {a b : Bytes} : sameBytes a b = true ↔ a = b := by
  induction a generalizing b with
  | nil => cases b <;> simp [sameBytes]
  | cons x a ih =>
    cases b with
    | nil => simp [sameBytes]
    | cons y b =>
      have tail : _ ↔ a = b := ih
      simp only [sameBytes, Bool.and_eq_true, beq_iff_eq] at tail
      simp only [sameBytes, List.length_cons, List.zip_cons_cons, List.all_cons, Bool.and_eq_true,
        beq_iff_eq, List.cons.injEq, ← tail]
      constructor
      · rintro ⟨length, head, rest⟩
        exact ⟨head, by omega, rest⟩
      · rintro ⟨head, length, rest⟩
        exact ⟨by omega, head, rest⟩

end QorechainRdk
