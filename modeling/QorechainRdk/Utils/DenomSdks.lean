import QorechainRdk.Client.Integers
import QorechainRdk.Utils.Denom

/-!
# Display amounts in the other clients

`utils.go`, `utils/denom.py` and `utils/denom.rs`. Each trims by its own set of blanks and tests the text in its own
way. Of the characters beyond ASCII, `%q` leaves the printable ones as they are; the others have no place here.
-/

namespace QorechainRdk

open Js Decimals

/-! ### Trimming -/

/-- A text without the blanks at both ends. -/
def trimBy (blank : Char → Bool) (s : String) : String :=
  String.ofList ((s.toList.dropWhile blank).rdropWhile blank)

section
variable {blank blank' : Char → Bool} {s : String}

/-- What is trimmed away on either side is blank. -/
theorem trimBy_split (blank : Char → Bool) (s : String) :
    ∃ front back, s.toList = front ++ ((trimBy blank s).toList ++ back) ∧ (∀ c ∈ front, blank c = true) ∧
      ∀ c ∈ back, blank c = true := by
  refine ⟨s.toList.takeWhile blank, (s.toList.dropWhile blank).rtakeWhile blank, ?_,
    fun c member => List.mem_takeWhile_imp member, fun c member => List.mem_rtakeWhile_imp member⟩
  unfold trimBy
  rw [String.toList_ofList, List.rdropWhile_append_rtakeWhile, List.takeWhile_append_dropWhile]

theorem trimBy_of_split {front core back : List Char} (text : s.toList = front ++ (core ++ back))
    (left : ∀ c ∈ front, blank c = true) (right : ∀ c ∈ back, blank c = true) (some : core ≠ [])
    (solid : ∀ c ∈ core, blank c = false) : (trimBy blank s).toList = core := by
  have head : (core ++ back).dropWhile blank = core ++ back := by
    cases core with
    | nil => exact absurd rfl some
    | cons c core => rw [List.cons_append, List.dropWhile_cons_of_neg (by simp [solid c List.mem_cons_self])]
  have last : (core ++ back).rdropWhile blank = core := by
    unfold List.rdropWhile
    rw [List.reverse_append, List.dropWhile_append_of_pos fun c member => right c (List.mem_reverse.mp member)]
    have tail : core.reverse.dropWhile blank = core.reverse := by
      have solid' : ∀ c ∈ core.reverse, blank c = false := fun c member => solid c (List.mem_reverse.mp member)
      cases h : core.reverse with
      | nil => rfl
      | cons c rest =>
        rw [h] at solid'
        rw [List.dropWhile_cons_of_neg (by simp [solid' c List.mem_cons_self])]
    rw [tail, List.reverse_reverse]
  unfold trimBy
  rw [String.toList_ofList, text, List.dropWhile_append_of_pos left, head, last]

/-- A larger set of blanks trims a text no further than to what holds none of them. -/
theorem trimBy_of_solid (larger : ∀ c ∈ s.toList, blank c = true → blank' c = true)
    (some : (trimBy blank s).toList ≠ []) (solid : ∀ c ∈ (trimBy blank s).toList, blank' c = false) : trimBy blank' s = trimBy blank s := by
  obtain ⟨front, back, text, left, right⟩ := trimBy_split blank s
  have left' : ∀ c ∈ front, blank' c = true := by
    intro c member
    exact larger c (by rw [text]; exact List.mem_append_left _ member) (left c member)
  have right' : ∀ c ∈ back, blank' c = true := by
    intro c member
    refine larger c ?_ (right c member)
    rw [text]
    exact List.mem_append_right _ (List.mem_append_right _ member)
  exact String.toList_inj.mp (trimBy_of_split text left' right' some solid)

theorem trimBy_congr (same : ∀ c ∈ s.toList, blank c = blank' c) : trimBy blank s = trimBy blank' s := by
  have drop : ∀ cs : List Char, (∀ c ∈ cs, blank c = blank' c) → cs.dropWhile blank = cs.dropWhile blank' := by
    intro cs same
    induction cs with
    | nil => rfl
    | cons c cs ih =>
      rw [List.dropWhile_cons, List.dropWhile_cons, same c List.mem_cons_self,
        ih fun d member => same d (List.mem_cons_of_mem _ member)]
  unfold trimBy List.rdropWhile
  rw [drop _ same]
  rw [drop]
  intro c member
  exact same c ((List.dropWhile_sublist _).subset (List.mem_reverse.mp member))

end

/-! ### Go -/

/-- `unicode.IsSpace`. -/
def Go.isSpace (c : Char) : Bool :=
  let n := c.toNat
  (9 ≤ n && n ≤ 13) || n == 0x20 || n == 0x85 || n == 0xA0 || n == 0x1680 || (0x2000 ≤ n && n ≤ 0x200A) ||
    n == 0x2028 || n == 0x2029 || n == 0x202F || n == 0x205F || n == 0x3000

def Go.trimSpace (s : String) : String := trimBy Go.isSpace s

def Go.quoteChar (c : Char) : List Char :=
  match c with
  | '"' => ['\\', '"']
  | '\\' => ['\\', '\\']
  | '\n' => ['\\', 'n']
  | '\r' => ['\\', 'r']
  | '\t' => ['\\', 't']
  | c =>
    let n := c.toNat
    if n = 7 then ['\\', 'a']
    else if n = 8 then ['\\', 'b']
    else if n = 11 then ['\\', 'v']
    else if n = 12 then ['\\', 'f']
    else if n < 32 ∨ n = 127 then ['\\', 'x', hexDigit (n / 16), hexDigit (n % 16)]
    else [c]

/-- `%q`. -/
def Go.quote (s : String) : String := String.ofList (['"'] ++ s.toList.flatMap Go.quoteChar ++ ['"'])

/-! ### The shared conversion -/

/-- The text up to its first point, and the text behind it. -/
def cutAtPoint (cs : List Char) : List Char × List Char :=
  (cs.takeWhile (· != '.'), (cs.dropWhile (· != '.')).drop 1)

/-- What the three ports do with a trimmed text, each with its own test and messages. -/
def qorToUqorWith (accepts : List Char → Bool) (invalid tooLong : String) (s : List Char) (exponent : Nat) :
    Except JsError String :=
  let (whole, frac) := cutAtPoint s
  if ¬ accepts s = true then fail invalid
  else if exponent < frac.length then fail tooLong
  else .ok (String.ofList (stripLeading (whole ++ frac.rightpad exponent '0')))

/-- An exponent that is not positive means the default. -/
def Go.qorToUqor (amount : String) (exponent : Int) : Except JsError String :=
  let exponent := if exponent ≤ 0 then DENOM_EXPONENT else exponent.toNat
  qorToUqorWith isDecimal s!"invalid QOR amount: {Go.quote amount}"
    s!"QOR amount {Go.quote amount} has more than {exponent} fractional digits" (Go.trimSpace amount).toList exponent

def Py.strip (s : String) : String := trimBy Py.isSpace s

/-- `_QOR_RE.match`, where `$` also matches before a last newline. Of the digits beyond ASCII none is modelled. -/
def Py.matchesQor (cs : List Char) : Bool :=
  isDecimal cs || (cs.getLast? == some '\n' && isDecimal cs.dropLast)

def Py.qorToUqor (amount : String) (exponent : Nat := DENOM_EXPONENT) : Except JsError String :=
  qorToUqorWith Py.matchesQor s!"invalid QOR amount: \"{amount}\""
    s!"QOR amount \"{amount}\" has more than {exponent} fractional digits" (Py.strip amount).toList exponent

/-- `char::is_whitespace`. -/
def Rust.isWhitespace := Go.isSpace

def Rust.trim (s : String) : String := trimBy Rust.isWhitespace s

/-- The two parts are tested apart, and an empty fraction is not tested. -/
def Rust.partsAreDigits (cs : List Char) : Bool :=
  let (whole, frac) := cutAtPoint cs
  isDigitString whole && (frac.isEmpty || isDigitString frac)

def Rust.qorToUqor (amount : String) (exponent : Nat) : Except JsError String :=
  qorToUqorWith Rust.partsAreDigits s!"invalid QOR amount: \"{amount}\""
    s!"QOR amount \"{amount}\" has more than {exponent} fractional digits" (Rust.trim amount).toList exponent

/-! ### What each accepts -/

/-- An amount with at most `e` digits behind the point. -/
def AmountText (cs : List Char) (e : Nat) : Prop := ∃ whole frac, DecimalText cs whole frac ∧ frac.length ≤ e

/-- Digits with nothing behind their point. -/
def LonePoint (cs : List Char) : Prop := ∃ whole, whole ≠ [] ∧ Digits whole ∧ cs = whole ++ ['.']

/-- The base amount of a text, canonically. -/
def baseText (cs : List Char) (e : Nat) : String :=
  toString (value ((cutAtPoint cs).1 ++ (cutAtPoint cs).2.rightpad e '0'))

section
variable {cs whole frac : List Char} {s u : String} {e : Nat} {accepts : List Char → Bool} {invalid tooLong : String}

theorem cutAtPoint_eq (h : DecimalText cs whole frac) : cutAtPoint cs = (whole, frac) := by
  unfold cutAtPoint
  rw [h.takeWhile, h.dropWhile]

theorem isDigitString_iff : isDigitString cs = true ↔ cs ≠ [] ∧ Digits cs := by
  simp [isDigitString, Digits]

theorem qorToUqorWith_ok_iff : qorToUqorWith accepts invalid tooLong cs e = .ok u ↔
    accepts cs = true ∧ (cutAtPoint cs).2.length ≤ e ∧
      String.ofList (stripLeading ((cutAtPoint cs).1 ++ (cutAtPoint cs).2.rightpad e '0')) = u := by
  unfold qorToUqorWith
  dsimp only
  rw [guard_ok_iff, guard_ok_iff, not_not, Nat.not_lt, Except.ok.injEq]

theorem baseText_eq (digits : Digits (cutAtPoint cs).1) (digits' : Digits (cutAtPoint cs).2) :
    String.ofList (stripLeading ((cutAtPoint cs).1 ++ (cutAtPoint cs).2.rightpad e '0')) = baseText cs e := by
  have padded : Digits ((cutAtPoint cs).2.rightpad e '0') := digits'.append (.zeros _)
  rw [← toDigits_eq_stripLeading (digits.append padded)]
  rfl

theorem AmountText.length (h : AmountText cs e) : (cutAtPoint cs).2.length ≤ e := by
  obtain ⟨whole, frac, spells, fits⟩ := h
  rwa [cutAtPoint_eq spells]

theorem qorToUqor_text_iff : qorToUqor (.text s) e = .ok u ↔
    AmountText (trim s).toList e ∧ u = baseText (trim s).toList e := by
  rw [qorToUqor_ok_iff]
  constructor
  · intro h
    obtain ⟨whole, frac, spells, fits, same⟩ := h
    rw [baseText, cutAtPoint_eq spells]
    exact ⟨⟨whole, frac, spells, fits⟩, same⟩
  · intro h
    obtain ⟨⟨whole, frac, spells, fits⟩, same⟩ := h
    rw [baseText, cutAtPoint_eq spells] at same
    exact ⟨whole, frac, spells, fits, same⟩

theorem converted_iff : isDecimal cs = true ∧ (cutAtPoint cs).2.length ≤ e ∧
      String.ofList (stripLeading ((cutAtPoint cs).1 ++ (cutAtPoint cs).2.rightpad e '0')) = u ↔
    AmountText cs e ∧ u = baseText cs e := by
  rw [isDecimal_iff]
  constructor
  · intro h
    obtain ⟨⟨whole, frac, spells⟩, fits, rfl⟩ := h
    have cut := cutAtPoint_eq spells
    rw [baseText_eq (by rw [cut]; exact spells.wholeDigits) (by rw [cut]; exact spells.fracDigits)]
    rw [cut] at fits
    exact ⟨⟨whole, frac, spells, fits⟩, rfl⟩
  · intro h
    obtain ⟨⟨whole, frac, spells, fits⟩, rfl⟩ := h
    have cut := cutAtPoint_eq spells
    rw [baseText_eq (by rw [cut]; exact spells.wholeDigits) (by rw [cut]; exact spells.fracDigits), cut]
    exact ⟨⟨whole, frac, spells⟩, fits, rfl⟩

/-- A text is cut at its first point, or it has none. -/
theorem cutAtPoint_split (cs : List Char) :
    cs = (cutAtPoint cs).1 ∧ (cutAtPoint cs).2 = [] ∨ cs = (cutAtPoint cs).1 ++ '.' :: (cutAtPoint cs).2 := by
  have split := List.takeWhile_append_dropWhile (p := (· != '.')) (l := cs)
  have first := List.head?_dropWhile_not (· != '.') cs
  unfold cutAtPoint
  dsimp only
  cases h : cs.dropWhile (· != '.') with
  | nil =>
    rw [h, List.append_nil] at split
    exact Or.inl ⟨split.symm, rfl⟩
  | cons c rest =>
    rw [h, List.head?_cons] at first
    have point : c = '.' := by simpa using first
    rw [h, point] at split
    exact Or.inr split.symm

theorem cutAtPoint_lonePoint (digits : Digits whole) : cutAtPoint (whole ++ ['.']) = (whole, []) := by
  have front : ∀ c ∈ whole, (c != '.') = true := DecimalText.no_point digits
  simp [cutAtPoint, List.takeWhile_append_of_pos front, List.dropWhile_append_of_pos front]

theorem partsAreDigits_iff : Rust.partsAreDigits cs = true ↔ isDecimal cs = true ∨ LonePoint cs := by
  rw [isDecimal_iff]
  unfold Rust.partsAreDigits
  dsimp only
  rw [Bool.and_eq_true, Bool.or_eq_true, isDigitString_iff, isDigitString_iff, List.isEmpty_iff]
  constructor
  · intro h
    obtain ⟨⟨nonempty, digits⟩, fraction⟩ := h
    rcases cutAtPoint_split cs with ⟨text, none⟩ | text
    · exact Or.inl ⟨_, _, nonempty, digits, by simp [none, Digits], Or.inl ⟨text, none⟩⟩
    · rcases fraction with none | ⟨some, digits'⟩
      · rw [none] at text
        exact Or.inr ⟨_, nonempty, digits, text⟩
      · exact Or.inl ⟨_, _, nonempty, digits, digits', Or.inr ⟨some, text⟩⟩
  · intro h
    rcases h with ⟨whole, frac, text⟩ | ⟨whole, nonempty, digits, rfl⟩
    · rw [cutAtPoint_eq text]
      by_cases none : frac = []
      · exact ⟨⟨text.nonempty, text.wholeDigits⟩, Or.inl none⟩
      · exact ⟨⟨text.nonempty, text.wholeDigits⟩, Or.inr ⟨none, text.fracDigits⟩⟩
    · rw [cutAtPoint_lonePoint digits]
      exact ⟨⟨nonempty, digits⟩, Or.inl rfl⟩

/-- No decimal ends in its point. -/
theorem not_lonePoint_of_decimalText (h : DecimalText cs whole frac) : ¬ LonePoint cs := by
  intro lone
  obtain ⟨whole', -, digits, rfl⟩ := lone
  have cut := cutAtPoint_eq h
  rw [cutAtPoint_lonePoint digits] at cut
  obtain ⟨rfl, rfl⟩ := Prod.mk.inj cut
  rcases h.text with ⟨same, -⟩ | ⟨some, -⟩
  · simp at same
  · exact some rfl

/-- A stripped text has no newline at its end. -/
theorem matchesQor_strip : Py.matchesQor (Py.strip s).toList = isDecimal (Py.strip s).toList := by
  unfold Py.matchesQor
  have last : (Py.strip s).toList.getLast? ≠ some '\n' := by
    intro newline
    unfold Py.strip trimBy at newline
    have kept := List.head?_dropWhile_not Py.isSpace (s.toList.dropWhile Py.isSpace).reverse
    rw [String.toList_ofList, List.rdropWhile, List.getLast?_reverse] at newline
    rw [newline] at kept
    cases kept
  simp [last]

theorem goQorToUqor_iff (positive : 1 ≤ e) : Go.qorToUqor s e = .ok u ↔
    AmountText (Go.trimSpace s).toList e ∧ u = baseText (Go.trimSpace s).toList e := by
  unfold Go.qorToUqor
  rw [if_neg (by omega), Int.toNat_natCast, qorToUqorWith_ok_iff, converted_iff]

theorem pyQorToUqor_iff : Py.qorToUqor s e = .ok u ↔
    AmountText (Py.strip s).toList e ∧ u = baseText (Py.strip s).toList e := by
  unfold Py.qorToUqor
  rw [qorToUqorWith_ok_iff, matchesQor_strip, converted_iff]

theorem rustQorToUqor_iff : Rust.qorToUqor s e = .ok u ↔
    (AmountText (Rust.trim s).toList e ∨ LonePoint (Rust.trim s).toList) ∧ u = baseText (Rust.trim s).toList e := by
  unfold Rust.qorToUqor
  generalize (Rust.trim s).toList = cs
  have lone : LonePoint cs → (cutAtPoint cs).2.length ≤ e ∧
      String.ofList (stripLeading ((cutAtPoint cs).1 ++ (cutAtPoint cs).2.rightpad e '0')) = baseText cs e := by
    intro lone
    obtain ⟨whole, -, digits, rfl⟩ := lone
    have cut := cutAtPoint_lonePoint digits
    constructor
    · rw [cut]
      exact Nat.zero_le e
    · apply baseText_eq
      · rwa [cut]
      · simp [cut, Digits]
  rw [qorToUqorWith_ok_iff, partsAreDigits_iff, or_and_right, or_and_right, converted_iff]
  apply or_congr_right
  apply and_congr_right
  intro h
  obtain ⟨fits, same⟩ := lone h
  rw [same]
  constructor
  · intro both
    exact both.2.symm
  · intro same
    exact ⟨fits, same.symm⟩

end

/-! ### The same text in every client -/

/-- All four refuse the text, or all four return one string. -/
def SameInEveryClient (s : String) (e : Nat) : Prop :=
  (∀ u, qorToUqor (.text s) e ≠ .ok u ∧ Go.qorToUqor s e ≠ .ok u ∧ Py.qorToUqor s e ≠ .ok u ∧
    Rust.qorToUqor s e ≠ .ok u) ∨
  ∃ u, qorToUqor (.text s) e = .ok u ∧ Go.qorToUqor s e = .ok u ∧ Py.qorToUqor s e = .ok u ∧
    Rust.qorToUqor s e = .ok u

section
variable {s : String} {e : Nat}

/-- Over ASCII the blanks are the same, but for four separators that only Python takes for blanks. -/
theorem ascii_blanks (c : Char) (ascii : c.toNat < 128) :
    Go.isSpace c = isWhiteSpace c ∧ (isWhiteSpace c = true → Py.isSpace c = true) := by
  have all : ∀ n : Fin 128, Go.isSpace (Char.ofNat n) = isWhiteSpace (Char.ofNat n) ∧
      (isWhiteSpace (Char.ofNat n) = true → Py.isSpace (Char.ofNat n) = true) := by decide
  have here := all ⟨c.toNat, ascii⟩
  simpa only [Char.ofNat_toNat] using here

theorem goTrimSpace_ascii (ascii : ∀ c ∈ s.toList, c.toNat < 128) : Go.trimSpace s = trim s := by
  show trimBy Go.isSpace s = trimBy isWhiteSpace s
  exact trimBy_congr fun c member => (ascii_blanks c (ascii c member)).1

/-- Nothing that a number is written with is a blank. -/
theorem not_sdkBlank {c : Char} (h : c.isDigit = true ∨ c = '.') : Go.isSpace c = false ∧ Py.isSpace c = false := by
  rcases h with digit | rfl
  · have bounds := digit_bounds digit
    unfold Go.isSpace Py.isSpace
    simp only [Bool.or_eq_false_iff, Bool.and_eq_false_iff, decide_eq_false_iff_not, beq_eq_false_iff_ne]
    omega
  · exact ⟨rfl, rfl⟩

/-- Python strips no more from a text that is left with digits and points. -/
theorem pyStrip_of_solid (ascii : ∀ c ∈ s.toList, c.toNat < 128) (some : (trim s).toList ≠ [])
    (solid : ∀ c ∈ (trim s).toList, c.isDigit = true ∨ c = '.') : Py.strip s = trim s :=
  trimBy_of_solid (fun c member => (ascii_blanks c (ascii c member)).2) some
    fun c member => (not_sdkBlank (solid c member)).2

theorem pyStrip_of_amount (ascii : ∀ c ∈ s.toList, c.toNat < 128) (amount : AmountText (trim s).toList e) :
    Py.strip s = trim s := by
  obtain ⟨whole, frac, text, -⟩ := amount
  refine pyStrip_of_solid ascii ?_ text.chars
  rcases text.text with ⟨same, -⟩ | ⟨-, same⟩
  · rw [same]
    exact text.nonempty
  · simp [same]

/-- The clients agree on a text exactly when it is no number with nothing behind its point, and when the separators
that only Python strips do not hide an amount from the others. -/
theorem sameInEveryClient_iff (ascii : ∀ c ∈ s.toList, c.toNat < 128) (positive : 1 ≤ e) :
    SameInEveryClient s e ↔ ¬ LonePoint (trim s).toList ∧
      (Py.strip s = trim s ∨ ¬ AmountText (Py.strip s).toList e) := by
  have go : Go.trimSpace s = trim s := goTrimSpace_ascii ascii
  have rust : Rust.trim s = trim s := goTrimSpace_ascii ascii
  unfold SameInEveryClient
  simp only [ne_eq, qorToUqor_text_iff, goQorToUqor_iff positive, pyQorToUqor_iff, rustQorToUqor_iff, go, rust]
  constructor
  · intro same
    rcases same with refused | ⟨u, ts, -, py, -⟩
    · -- All four refuse: no lone point, which Rust takes, and no amount under Python's blanks.
      constructor
      · intro lone
        exact (refused _).2.2.2 ⟨Or.inr lone, rfl⟩
      · exact Or.inr fun amount => (refused _).2.2.1 ⟨amount, rfl⟩
    · constructor
      · obtain ⟨whole, frac, text, -⟩ := ts.1
        exact not_lonePoint_of_decimalText text
      · exact Or.inl (pyStrip_of_amount ascii ts.1)
  · intro h
    obtain ⟨notLone, stripped⟩ := h
    by_cases amount : AmountText (trim s).toList e
    · have python := pyStrip_of_amount ascii amount
      rw [python]
      exact Or.inr ⟨_, ⟨amount, rfl⟩, ⟨amount, rfl⟩, ⟨amount, rfl⟩, Or.inl amount, rfl⟩
    · have python : ¬ AmountText (Py.strip s).toList e := by
        rcases stripped with same | hidden
        · rwa [same]
        · exact hidden
      refine Or.inl fun u => ⟨fun h => amount h.1, fun h => amount h.1, fun h => python h.1, fun h => ?_⟩
      exact h.1.elim amount notLone

theorem sameInEveryClient_iff_sample : SameInEveryClient " 1.50 " 6 ↔ ¬ LonePoint (trim " 1.50 ").toList ∧
    (Py.strip " 1.50 " = trim " 1.50 " ∨ ¬ AmountText (Py.strip " 1.50 ").toList 6) := by
  have all : " 1.50 ".toList.all (fun c => decide (c.toNat < 128)) = true := by decide
  exact sameInEveryClient_iff (fun c member => of_decide_eq_true (List.all_eq_true.mp all c member)) (by decide)

/-- Rust takes `5.` for five, which the other clients refuse. -/
theorem fivePoint_differs : ¬ ∀ s : String, (∀ c ∈ s.toList, c.toNat < 128) → ∀ e ≥ 1, SameInEveryClient s e := by
  intro same
  have all : "5.".toList.all (fun c => decide (c.toNat < 128)) = true := by decide
  have rust : Rust.qorToUqor "5." 6 = .ok "5000000" := by decide +kernel
  have ts : qorToUqor (.text "5.") 6 = fail "invalid QOR amount: \"5.\"" := by decide +kernel
  rcases same "5." (fun c member => of_decide_eq_true (List.all_eq_true.mp all c member)) 6 (by decide) with
    refused | ⟨u, read, -⟩
  · exact (refused _).2.2.2 rust
  · rw [ts] at read
    cases read

end
end QorechainRdk
