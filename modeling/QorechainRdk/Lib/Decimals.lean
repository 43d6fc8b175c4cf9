import Mathlib.Data.List.DropRight
import Mathlib.Data.Rat.Floor
import Mathlib.Tactic.FieldSimp
import Mathlib.Tactic.Ring

/-!
# Decimal texts

Digits before a point and perhaps digits after it: their exact value, and the texts that are written for a value.
-/

namespace Decimals

/-- The value of a string of digits. -/
def value (cs : List Char) : Nat := Nat.ofDigitChars 10 cs 0

def Digits (cs : List Char) : Prop := ∀ c ∈ cs, c.isDigit = true

/-- The digits without leading zeros, but at least one digit. -/
def stripLeading (cs : List Char) : List Char :=
  match cs.dropWhile (· == '0') with
  | [] => ['0']
  | ds => ds

def stripTrailing (cs : List Char) : List Char := cs.rdropWhile (· == '0')

section
variable {cs ds : List Char}

theorem Digits.append (left : Digits cs) (right : Digits ds) : Digits (cs ++ ds) := by
  intro c member
  rcases List.mem_append.mp member with h | h
  · exact left c h
  · exact right c h

theorem Digits.zeros (n : Nat) : Digits (List.replicate n '0') := by
  intro c member
  rw [(List.mem_replicate.mp member).2]
  rfl

theorem value_append (cs ds : List Char) : value (cs ++ ds) = 10 ^ ds.length * value cs + value ds := by
  unfold value
  rw [Nat.ofDigitChars_append, Nat.ofDigitChars_eq_ofDigitChars_zero]

theorem value_zeros (n : Nat) : value (List.replicate n '0') = 0 := by
  rw [value, Nat.ofDigitChars_replicate_zero, Nat.mul_zero]

theorem value_singleton (c : Char) : value [c] = c.toNat - 48 := by
  simp [value, Nat.ofDigitChars_cons]

theorem digit_bounds {c : Char} (h : c.isDigit = true) : 48 ≤ c.toNat ∧ c.toNat ≤ 57 := by
  simp only [Char.isDigit, Bool.and_eq_true, decide_eq_true_iff] at h
  exact ⟨UInt32.le_iff_toNat_le.mp h.1, UInt32.le_iff_toNat_le.mp h.2⟩

theorem value_lt (digits : Digits cs) : value cs < 10 ^ cs.length := by
  induction cs using List.reverseRecOn with
  | nil => simp [value]
  | append_singleton cs c ih =>
    have front := ih fun d member => digits d (List.mem_append_left _ member)
    have last := digit_bounds (digits c (by simp))
    rw [value_append, value_singleton, List.length_append, List.length_singleton, pow_succ]
    omega

/-! ### The text of a value -/

theorem digitChar_of_isDigit {c : Char} (h : c.isDigit = true) : Nat.digitChar (c.toNat - 48) = c := by
  have all : ∀ k : Fin 10, Nat.digitChar k = Char.ofNat (48 + k) := by decide
  have bounds := digit_bounds h
  have same := all ⟨c.toNat - 48, by omega⟩
  rwa [show 48 + (c.toNat - 48) = c.toNat by omega, Char.ofNat_toNat] at same

/-- A digit string that begins with another digit than zero is the text of its value. -/
theorem toDigits_value (digits : Digits cs) (nonempty : cs ≠ []) (leading : cs.head? ≠ some '0') :
    Nat.toDigits 10 (value cs) = cs ∧ 0 < value cs := by
  induction cs using List.reverseRecOn with
  | nil => exact absurd rfl nonempty
  | append_singleton cs c ih =>
    have last := digit_bounds (digits c (by simp))
    have digit : Nat.toDigits 10 (c.toNat - 48) = [c] := by
      rw [Nat.toDigits_of_lt_base (by omega), digitChar_of_isDigit (digits c (by simp))]
    rw [value_append, value_singleton, List.length_singleton, pow_one]
    by_cases empty : cs = []
    · subst empty
      have other : c ≠ '0' := by simpa using leading
      have positive : c.toNat ≠ 48 := fun same => other (Char.toNat_inj.mp same)
      rw [show value [] = 0 from rfl, Nat.mul_zero, Nat.zero_add, digit]
      exact ⟨rfl, by omega⟩
    · rw [List.head?_append_of_ne_nil _ empty] at leading
      obtain ⟨text, positive⟩ := ih (fun d member => digits d (List.mem_append_left _ member)) empty leading
      rw [← Nat.toDigits_append_toDigits (by decide) positive (by omega), text, digit]
      exact ⟨rfl, by omega⟩

theorem zeros_append_dropWhile (cs : List Char) :
    List.replicate (cs.takeWhile (· == '0')).length '0' ++ cs.dropWhile (· == '0') = cs := by
  have zeros : cs.takeWhile (· == '0') = List.replicate (cs.takeWhile (· == '0')).length '0' := by
    apply List.eq_replicate_of_mem
    intro c member
    simpa using List.mem_takeWhile_imp member
  rw [← zeros, List.takeWhile_append_dropWhile]

theorem value_dropWhile (cs : List Char) : value (cs.dropWhile (· == '0')) = value cs := by
  have split := congrArg value (zeros_append_dropWhile cs)
  rwa [value_append, value_zeros, Nat.mul_zero, Nat.zero_add] at split

theorem Digits.dropWhile (digits : Digits cs) : Digits (cs.dropWhile (· == '0')) :=
  fun c member => digits c ((List.dropWhile_sublist _).subset member)

theorem head?_dropWhile_zero (cs : List Char) : (cs.dropWhile (· == '0')).head? ≠ some '0' := by
  intro zero
  have kept := List.head?_dropWhile_not (· == '0') cs
  rw [zero] at kept
  cases kept

theorem toDigits_eq_stripLeading (digits : Digits cs) : Nat.toDigits 10 (value cs) = stripLeading cs := by
  rw [← value_dropWhile]
  unfold stripLeading
  by_cases empty : cs.dropWhile (· == '0') = []
  · rw [empty]
    rfl
  · rw [(toDigits_value digits.dropWhile empty (head?_dropWhile_zero cs)).1]
    split
    · exact absurd ‹_› empty
    · rfl

theorem value_eq_zero_iff (digits : Digits cs) : value cs = 0 ↔ cs.dropWhile (· == '0') = [] := by
  constructor
  · intro zero
    by_contra some
    have positive := (toDigits_value digits.dropWhile some (head?_dropWhile_zero cs)).2
    rw [value_dropWhile] at positive
    omega
  · intro none
    rw [← value_dropWhile, none]
    rfl

theorem Digits.toDigits (n : Nat) : Digits (Nat.toDigits 10 n) :=
  fun _ member => Nat.isDigit_of_mem_toDigits (by decide) (by decide) member

theorem value_toDigits (n : Nat) : value (Nat.toDigits 10 n) = n := Nat.ofDigitChars_ten_toDigits

/-- Of one length there is one string for each value. -/
theorem value_inj (digits : Digits cs) (digits' : Digits ds) (length : cs.length = ds.length)
    (same : value cs = value ds) : cs = ds := by
  induction cs using List.reverseRecOn generalizing ds with
  | nil => exact (List.length_eq_zero_iff.mp length.symm).symm
  | append_singleton cs c ih =>
    rcases List.eq_nil_or_concat' ds with rfl | ⟨ds, d, rfl⟩
    · simp at length
    · have left := digit_bounds (digits c (by simp))
      have right := digit_bounds (digits' d (by simp))
      simp only [value_append, value_singleton, List.length_singleton, pow_one] at same
      have last : c = d := Char.toNat_inj.mp (by omega)
      have front := ih (fun e member => digits e (List.mem_append_left _ member))
        (fun e member => digits' e (List.mem_append_left _ member)) (by simpa using length) (by omega)
      rw [front, last]

/-- Padded to its length again, the text of a value is the digit string. -/
theorem leftpad_toDigits (digits : Digits cs) (nonempty : cs ≠ []) :
    List.leftpad cs.length '0' (Nat.toDigits 10 (value cs)) = cs := by
  have fits : (Nat.toDigits 10 (value cs)).length ≤ cs.length :=
    (Nat.length_toDigits_le_iff (by decide) (List.length_pos_iff.mpr nonempty)).mpr (value_lt digits)
  apply value_inj ((Digits.zeros _).append (.toDigits _)) digits
  · rw [← List.leftpad, List.length_leftpad]
    omega
  · rw [value_append, value_zeros, Nat.mul_zero, Nat.zero_add, value_toDigits]

/-! ### Trailing zeros -/

theorem stripTrailing_append_zeros (cs : List Char) (n : Nat) :
    stripTrailing (cs ++ List.replicate n '0') = stripTrailing cs := by
  unfold stripTrailing
  induction n with
  | zero => rw [List.replicate_zero, List.append_nil]
  | succ n ih => rw [List.replicate_succ', ← List.append_assoc, List.rdropWhile_concat_pos _ _ _ rfl, ih]

theorem stripTrailing_eq_nil_iff (digits : Digits cs) : stripTrailing cs = [] ↔ value cs = 0 := by
  rw [value_eq_zero_iff digits, List.dropWhile_eq_nil_iff]
  exact List.rdropWhile_eq_nil_iff

theorem Digits.stripTrailing (digits : Digits cs) : Digits (stripTrailing cs) :=
  fun c member => digits c ((List.rdropWhile_prefix _ _).subset member)

/-- Zeros at the end of a fraction do not count. -/
theorem stripTrailing_append (cs : List Char) :
    ∃ n, Decimals.stripTrailing cs ++ List.replicate n '0' = cs := by
  induction cs using List.reverseRecOn with
  | nil => exact ⟨0, rfl⟩
  | append_singleton cs c ih =>
    unfold Decimals.stripTrailing at ih ⊢
    by_cases zero : c = '0'
    · obtain ⟨n, back⟩ := ih
      refine ⟨n + 1, ?_⟩
      rw [List.rdropWhile_concat_pos _ _ _ (by simp [zero]), List.replicate_succ', ← List.append_assoc, back, zero]
    · refine ⟨0, ?_⟩
      rw [List.rdropWhile_concat_neg _ _ _ (by simpa using zero), List.replicate_zero, List.append_nil]

/-! ### The point -/

/-- A text is a whole part, or a whole part, a point and a fraction; both are digits. -/
structure DecimalText (cs whole frac : List Char) : Prop where
  nonempty : whole ≠ []
  wholeDigits : Digits whole
  fracDigits : Digits frac
  text : cs = whole ∧ frac = [] ∨ frac ≠ [] ∧ cs = whole ++ '.' :: frac

/-- The exact value of a text. -/
def rational (whole frac : List Char) : ℚ := value whole + value frac / 10 ^ frac.length

theorem rational_eq (whole frac : List Char) : rational whole frac = value (whole ++ frac) / 10 ^ frac.length := by
  rw [rational, value_append]
  push_cast
  field_simp

/-- Moving the point `e` places to the right pads the fraction. -/
theorem value_rightpad {whole frac : List Char} {e : Nat} (fits : frac.length ≤ e) :
    (value (whole ++ frac.rightpad e '0') : ℚ) = rational whole frac * 10 ^ e := by
  obtain ⟨k, rfl⟩ := Nat.exists_eq_add_of_le fits
  have zeros : frac.rightpad (frac.length + k) '0' = frac ++ List.replicate k '0' := by
    unfold List.rightpad
    rw [Nat.add_sub_cancel_left]
  rw [zeros, ← List.append_assoc, value_append, value_zeros, List.length_replicate, rational_eq]
  push_cast
  rw [pow_add]
  field_simp
  ring

/-- The shortest text with the value of `whole.frac`. -/
def shortest (whole frac : List Char) : List Char :=
  stripLeading whole ++ if stripTrailing frac = [] then [] else '.' :: stripTrailing frac

/-- What the regular expression `^\d+(\.\d+)?$` matches. -/
def isDecimal (cs : List Char) : Bool :=
  let rest := cs.dropWhile Char.isDigit
  !(cs.takeWhile Char.isDigit).isEmpty &&
    (rest.isEmpty || (rest.head? == some '.' && !rest.tail.isEmpty && rest.tail.all Char.isDigit))

theorem isDecimal_iff : isDecimal cs = true ↔ ∃ whole frac, DecimalText cs whole frac := by
  constructor
  · intro h
    have split := List.takeWhile_append_dropWhile (p := Char.isDigit) (l := cs)
    have digits : Digits (cs.takeWhile Char.isDigit) := fun c member => List.mem_takeWhile_imp member
    unfold isDecimal at h
    dsimp only at h
    generalize cs.takeWhile Char.isDigit = whole at h split digits
    generalize cs.dropWhile Char.isDigit = rest at h split
    cases rest with
    | nil =>
      refine ⟨whole, [], by simpa using h, digits, by simp [Digits], Or.inl ⟨?_, rfl⟩⟩
      simpa using split.symm
    | cons point frac =>
      simp only [List.isEmpty_cons, Bool.false_or, List.head?_cons, List.tail_cons, Bool.and_eq_true,
        Bool.not_eq_true', List.isEmpty_eq_false_iff, beq_iff_eq, Option.some.injEq, List.all_eq_true] at h
      obtain ⟨nonempty, ⟨rfl, some⟩, fraction⟩ := h
      exact ⟨whole, frac, nonempty, digits, fraction, Or.inr ⟨some, split.symm⟩⟩
  · intro h
    obtain ⟨whole, frac, spells⟩ := h
    have first : whole.isEmpty = false := List.isEmpty_eq_false_iff.mpr spells.nonempty
    rcases spells.text with ⟨rfl, -⟩ | ⟨some, rfl⟩
    · have all : cs.takeWhile Char.isDigit = cs := List.takeWhile_eq_self_iff.mpr spells.wholeDigits
      have none : cs.dropWhile Char.isDigit = [] := List.dropWhile_eq_nil_iff.mpr spells.wholeDigits
      simp [isDecimal, all, none, spells.nonempty]
    · have fraction : frac.all Char.isDigit = true := List.all_eq_true.mpr spells.fracDigits
      simp [isDecimal, List.takeWhile_append_of_pos spells.wholeDigits,
        List.dropWhile_append_of_pos spells.wholeDigits, spells.nonempty, some, fraction]

namespace DecimalText

variable {whole frac : List Char}

theorem digits (h : DecimalText cs whole frac) : Digits (whole ++ frac) := h.wholeDigits.append h.fracDigits

theorem no_point (digits : Digits cs) : ∀ c ∈ cs, (c != '.') = true := by
  intro c member
  have digit := digits c member
  by_contra point
  rw [Bool.not_eq_true, bne_eq_false_iff_eq] at point
  rw [point] at digit
  cases digit

/-- The part before the first point. -/
theorem takeWhile (h : DecimalText cs whole frac) : cs.takeWhile (· != '.') = whole := by
  rcases h.text with ⟨rfl, -⟩ | ⟨-, rfl⟩
  · exact List.takeWhile_eq_self_iff.mpr (no_point h.wholeDigits)
  · simp [List.takeWhile_append_of_pos (no_point h.wholeDigits)]

/-- The part behind the first point. -/
theorem dropWhile (h : DecimalText cs whole frac) : (cs.dropWhile (· != '.')).drop 1 = frac := by
  rcases h.text with ⟨rfl, rfl⟩ | ⟨-, rfl⟩
  · rw [List.dropWhile_eq_nil_iff.mpr (no_point h.wholeDigits)]
    rfl
  · simp [List.dropWhile_append_of_pos (no_point h.wholeDigits)]

theorem chars (h : DecimalText cs whole frac) : ∀ c ∈ cs, c.isDigit = true ∨ c = '.' := by
  intro c member
  rcases h.text with ⟨rfl, -⟩ | ⟨-, rfl⟩
  · exact Or.inl (h.wholeDigits c member)
  · rcases List.mem_append.mp member with inside | inside
    · exact Or.inl (h.wholeDigits c inside)
    · exact (List.mem_cons.mp inside).symm.imp_left (h.fracDigits c)

theorem shortest (digits : Digits whole) (digits' : Digits frac) :
    DecimalText (shortest whole frac) (stripLeading whole) (stripTrailing frac) where
  nonempty := by
    rw [← toDigits_eq_stripLeading digits]
    exact Nat.toDigits_ne_nil
  wholeDigits := by
    rw [← toDigits_eq_stripLeading digits]
    exact .toDigits _
  fracDigits := digits'.stripTrailing
  text := by
    unfold Decimals.shortest
    by_cases none : stripTrailing frac = []
    · rw [if_pos none, List.append_nil]
      exact Or.inl ⟨rfl, none⟩
    · rw [if_neg none]
      exact Or.inr ⟨none, rfl⟩

end DecimalText

theorem value_stripLeading (digits : Digits cs) : value (stripLeading cs) = value cs := by
  rw [← toDigits_eq_stripLeading digits, value_toDigits]

theorem rightpad_stripTrailing (cs : List Char) : (stripTrailing cs).rightpad cs.length '0' = cs := by
  obtain ⟨n, back⟩ := stripTrailing_append cs
  have length := congrArg List.length back
  rw [List.length_append, List.length_replicate] at length
  unfold List.rightpad
  rw [← length, Nat.add_sub_cancel_left, back]

/-- Every value has a text with `e` digits behind the point. -/
theorem exists_digits (v e : Nat) :
    ∃ whole frac, Digits whole ∧ Digits frac ∧ frac.length = e ∧ value (whole ++ frac) = v := by
  have digits : Digits (List.leftpad (e + 1) '0' (Nat.toDigits 10 v)) := (Digits.zeros _).append (.toDigits v)
  have total : value (List.leftpad (e + 1) '0' (Nat.toDigits 10 v)) = v := by
    rw [List.leftpad, value_append, value_zeros, Nat.mul_zero, Nat.zero_add, value_toDigits]
  have long : e ≤ (List.leftpad (e + 1) '0' (Nat.toDigits 10 v)).length := by
    rw [List.length_leftpad]
    omega
  generalize List.leftpad (e + 1) '0' (Nat.toDigits 10 v) = ds at digits total long
  refine ⟨ds.take (ds.length - e), ds.drop (ds.length - e), fun c member => digits c (List.mem_of_mem_take member),
    fun c member => digits c (List.mem_of_mem_drop member), ?_, ?_⟩
  · rw [List.length_drop]
    omega
  · rw [List.take_append_drop, total]
end

end Decimals
