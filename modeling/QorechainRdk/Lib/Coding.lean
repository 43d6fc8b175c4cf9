import Mathlib.Data.Int.ModEq
import Mathlib.Data.List.Basic
import Mathlib.Tactic.Linarith
import Mathlib.Tactic.Positivity

/-!
# Self-delimiting codes

A code is self-delimiting when a code word can be cut off the front of an input in one way only.
Fixed-width codes are, and so is any byte string behind its length: what is written field after
field can then be read back field by field.
-/

namespace Coding

variable {α β : Type*}

/-- A code word of a value in `P` can be cut off the front of an input in one way only. -/
def SelfDelimiting (P : α → Prop) (enc : α → List β) : Prop :=
  ∀ ⦃a b x y⦄, P a → P b → enc a ++ x = enc b ++ y → a = b ∧ x = y

theorem SelfDelimiting.inj {P : α → Prop} {enc : α → List β} (code : SelfDelimiting P enc)
    {a b : α} (ha : P a) (hb : P b) (h : enc a = enc b) : a = b :=
  (code (x := []) (y := []) ha hb (by simpa using h)).1

/-- Code words of one length cannot run into what follows them. -/
theorem SelfDelimiting.of_length {P : α → Prop} {enc : α → List β}
    (length : ∀ a b, P a → P b → (enc a).length = (enc b).length)
    (inj : ∀ a b, P a → P b → enc a = enc b → a = b) : SelfDelimiting P enc := by
  intro a b x y ha hb h
  obtain ⟨word, rest⟩ := List.append_inj h (length a b ha hb)
  exact ⟨inj a b ha hb word, rest⟩

/-! ### Big-endian integers -/

/-- The low `n` bytes of `v`, most significant first; a negative `v` is in two's complement. -/
def bigEndian : Nat → Int → List UInt8
  | 0, _ => []
  | n + 1, v => bigEndian n (v / 256) ++ [UInt8.ofNat (v % 256).toNat]

@[simp] theorem length_bigEndian (n : Nat) (v : Int) : (bigEndian n v).length = n := by
  induction n generalizing v with
  | zero => rfl
  | succ n ih => simp [bigEndian, ih]

theorem ofNat_mod_inj {v w : Int} (h : UInt8.ofNat (v % 256).toNat = UInt8.ofNat (w % 256).toNat) :
    v % 256 = w % 256 := by
  have same := congrArg UInt8.toNat h
  simp only [UInt8.toNat_ofNat'] at same
  omega

/-- The last digit of a residue, and the rest of it. -/
theorem emod_pow_succ (n : Nat) (u : Int) :
    u % 256 ^ (n + 1) = 256 * (u / 256 % 256 ^ n) + u % 256 := by
  have pos : (0 : Int) < 256 ^ n := by positivity
  rw [pow_succ', Int.emod_def u, Int.emod_def (u / 256), ← Int.ediv_ediv_of_nonneg (by decide)]
  have := Int.mul_ediv_add_emod u 256
  linarith

/-- `n` bytes carry a value modulo `256 ^ n`, no more and no less. -/
theorem bigEndian_eq_iff (n : Nat) (v w : Int) :
    bigEndian n v = bigEndian n w ↔ v % 256 ^ n = w % 256 ^ n := by
  induction n generalizing v w with
  | zero => simp only [bigEndian, pow_zero, Int.emod_one]
  | succ n ih =>
    rw [emod_pow_succ n v, emod_pow_succ n w, bigEndian, bigEndian]
    constructor
    · intro h
      obtain ⟨high, low⟩ := List.append_inj h (by simp)
      rw [(ih _ _).mp high, ofNat_mod_inj (List.singleton_inj.mp low)]
    · intro h
      have low : v % 256 = w % 256 := by
        have hv := Int.emod_nonneg v (show (256 : Int) ≠ 0 by decide)
        have hw := Int.emod_nonneg w (show (256 : Int) ≠ 0 by decide)
        omega
      have high : v / 256 % 256 ^ n = w / 256 % 256 ^ n := by omega
      rw [(ih _ _).mpr high, low]

/-- The value that a byte string carries, most significant byte first. -/
def ofBigEndian (b : List UInt8) : Int := b.foldl (fun v byte => 256 * v + byte.toNat) 0

theorem ofBigEndian_concat (b : List UInt8) (byte : UInt8) :
    ofBigEndian (b ++ [byte]) = 256 * ofBigEndian b + byte.toNat := by
  simp [ofBigEndian]

theorem ofBigEndian_bigEndian (n : Nat) (v : Int) : ofBigEndian (bigEndian n v) = v % 256 ^ n := by
  induction n generalizing v with
  | zero => simp [bigEndian, ofBigEndian]
  | succ n ih =>
    have byte : ((UInt8.ofNat (v % 256).toNat).toNat : Int) = v % 256 := by
      rw [UInt8.toNat_ofNat']
      omega
    rw [bigEndian, ofBigEndian_concat, ih, byte, emod_pow_succ]

/-- The bytes carry the value itself exactly in the range of an unsigned word. -/
theorem ofBigEndian_bigEndian_iff (n : Nat) (v : Int) :
    ofBigEndian (bigEndian n v) = v ↔ 0 ≤ v ∧ v < 256 ^ n := by
  have pos : (0 : Int) < 256 ^ n := by positivity
  rw [ofBigEndian_bigEndian]
  constructor
  · intro same
    rw [← same]
    exact ⟨Int.emod_nonneg _ pos.ne', Int.emod_lt_of_pos _ pos⟩
  · intro range
    exact Int.emod_eq_of_lt range.1 range.2

theorem bigEndian_selfDelimiting (n : Nat) :
    SelfDelimiting (fun v : Int => 0 ≤ v ∧ v < 256 ^ n) (bigEndian n) := by
  refine .of_length (by simp) ?_
  intro v w hv hw h
  have same := (bigEndian_eq_iff n v w).mp h
  rwa [Int.emod_eq_of_lt hv.1 hv.2, Int.emod_eq_of_lt hw.1 hw.2] at same

theorem bigEndian_leading_zero {n : Nat} {v : Int} (nonneg : 0 ≤ v) (small : v < 256 ^ n) :
    bigEndian (n + 1) v = 0 :: bigEndian n v := by
  induction n generalizing v with
  | zero =>
    have zero : v = 0 := by
      rw [pow_zero] at small
      omega
    rw [zero]
    rfl
  | succ n ih =>
    have high : v / 256 < 256 ^ n := by
      rw [pow_succ] at small
      omega
    rw [bigEndian, ih (by omega) high]
    rfl

/-- Every string of `n` bytes is the code of a value. -/
theorem bigEndian_surjective {n : Nat} {b : List UInt8} (length : b.length = n) :
    ∃ v : Int, 0 ≤ v ∧ v < 256 ^ n ∧ bigEndian n v = b := by
  induction n generalizing b with
  | zero =>
    rw [List.length_eq_zero_iff.mp length]
    exact ⟨0, by omega, by simp, rfl⟩
  | succ n ih =>
    have nonempty : b ≠ [] := by
      intro empty
      rw [empty] at length
      cases length
    obtain ⟨front, last, rfl⟩ := (List.eq_nil_or_concat' b).resolve_left nonempty
    obtain ⟨v, nonneg, small, code⟩ := ih (by simpa using length)
    have byte := last.toNat_lt
    refine ⟨256 * v + last.toNat, by omega, ?_, ?_⟩
    · rw [pow_succ]
      omega
    · have high : (256 * v + last.toNat) / 256 = v := by omega
      have low : ((256 * v + last.toNat) % 256).toNat = last.toNat := by omega
      rw [bigEndian, high, low, code, UInt8.ofNat_toNat]

/-! ### Length prefixes -/

def lengthPrefixed (w : Nat) (b : List UInt8) : List UInt8 := bigEndian w b.length ++ b

@[simp] theorem length_lengthPrefixed (w : Nat) (b : List UInt8) :
    (lengthPrefixed w b).length = w + b.length := by
  simp [lengthPrefixed]

theorem lengthPrefixed_selfDelimiting (w : Nat) :
    SelfDelimiting (fun b : List UInt8 => b.length < 256 ^ w) (lengthPrefixed w) := by
  intro a b x y ha hb h
  simp only [lengthPrefixed, List.append_assoc] at h
  have bound : ∀ c : List UInt8, c.length < 256 ^ w → 0 ≤ (c.length : Int) ∧ (c.length : Int) < 256 ^ w :=
    fun c hc => ⟨by omega, by exact_mod_cast hc⟩
  obtain ⟨length, rest⟩ := bigEndian_selfDelimiting w (bound a ha) (bound b hb) h
  exact List.append_inj rest (by exact_mod_cast length)

/-! ### Separators -/

def terminated (sep : β) (as : List β) : List β := as ++ [sep]

theorem terminated_selfDelimiting (sep : β) :
    SelfDelimiting (fun as : List β => sep ∉ as) (terminated sep) := by
  intro as bs x y first second h
  simp only [terminated, List.append_assoc, List.singleton_append] at h
  induction as generalizing bs with
  | nil =>
    cases bs with
    | nil => exact ⟨rfl, (List.cons.inj h).2⟩
    | cons b bs => simp [← (List.cons.inj h).1] at second
  | cons a as ih =>
    cases bs with
    | nil => simp [(List.cons.inj h).1] at first
    | cons b bs =>
      obtain ⟨rfl, rest⟩ := List.cons.inj h
      obtain ⟨rfl, same⟩ := ih (fun k => first (List.mem_cons_of_mem _ k))
        (fun k => second (List.mem_cons_of_mem _ k)) rest
      exact ⟨rfl, same⟩

/-! ### Blanks -/

/-- A text with blanks, each filled in behind its own part. -/
def fill : List (List β) → List (List β) → List β
  | part :: parts, word :: words => part ++ (word ++ fill parts words)
  | parts, _ => parts.flatten

/-- Words of one width can be read back from where they were filled in. -/
theorem fill_inj {n : Nat} {parts words words' : List (List β)} (enough : words.length ≤ parts.length)
    (same : words'.length = words.length) (width : ∀ w ∈ words, w.length = n) (width' : ∀ w ∈ words', w.length = n)
    (h : fill parts words = fill parts words') : words = words' := by
  induction words generalizing parts words' with
  | nil => exact (List.length_eq_zero_iff.mp same).symm
  | cons word words ih =>
    cases parts with
    | nil => cases enough
    | cons part parts =>
      cases words' with
      | nil => cases same
      | cons word' words' =>
        rw [List.forall_mem_cons] at width width'
        obtain ⟨first, rest⟩ := List.append_inj (List.append_cancel_left h) (width.1.trans width'.1.symm)
        rw [first, ih (Nat.le_of_succ_le_succ enough) (Nat.succ.inj same) width.2 width'.2 rest]

end Coding
