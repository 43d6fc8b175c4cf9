import QorechainRdk.Lib.Calendar
import QorechainRdk.Client.IntegersAgree
import QorechainRdk.Lib.Decimals
import QorechainRdk.Lifecycle.Windows
import Mathlib.Tactic.IntervalCases

/-!
# The time of a block

`rfc3339_utc_to_unix` of `challenge_window.rs`. An operation on `i64` that overflows has no result.
-/

namespace QorechainRdk

open Js Decimals Calendar

namespace Rust

/-- The numbers of a timestamp as they are parsed. -/
structure TimeFields where
  y : Int
  m : Int
  day : Int
  hh : Int
  mm : Int
  ss : Int
  deriving DecidableEq, Repr

def stripSuffix (suffix : Char) (cs : List Char) : Option (List Char) :=
  if cs.getLast? = some suffix then some cs.dropLast else none

def splitOnce (sep : Char) (cs : List Char) : Option (List Char × List Char) :=
  if sep ∈ cs then some (cs.takeWhile (· != sep), (cs.dropWhile (· != sep)).drop 1) else none

/-- The next three parts of a split text, as numbers. -/
def threeNumbers (parts : List (List Char)) : Option (Int × Int × Int) :=
  match parts with
  | a :: b :: c :: _ => do
    return (← parseI64 (String.ofList a), ← parseI64 (String.ofList b), ← parseI64 (String.ofList c))
  | _ => none

def timeFields (s : String) : Option TimeFields := do
  let s ← stripSuffix 'Z' s.toList
  let (date, time) ← splitOnce 'T' s
  let (y, m, day) ← threeNumbers (date.splitOn '-')
  let time ← (time.splitOn '.').head?
  let (hh, mm, ss) ← threeNumbers (time.splitOn ':')
  if ¬ (1 ≤ m ∧ m ≤ 12) ∨ ¬ (1 ≤ day ∧ day ≤ 31) ∨ 23 < hh ∨ 59 < mm ∨ 60 < ss then none
  else some { y, m, day, hh, mm, ss }

/-- The year that begins in March. -/
def shiftedYear (y m : Int) : Option Int := if m ≤ 2 then checked (y - 1) else some y

def eraOf (y : Int) : Option Int := do
  let y ← if 0 ≤ y then some y else checked (y - 399)
  return y.tdiv 400

def dayOfYear (m day : Int) : Option Int := do
  let mp := (← checked (m + 9)).tmod 12
  let before ← checked ((← checked (153 * mp)) + 2)
  checked ((← checked (before.tdiv 5 + day)) - 1)

def dayOfEra (yoe doy : Int) : Option Int := do
  let doe ← checked ((← checked (yoe * 365)) + yoe.tdiv 4)
  let doe ← checked (doe - yoe.tdiv 100)
  checked (doe + doy)

/-- Days from the civil date. -/
def daysFromCivil (y m day : Int) : Option Int := do
  let y ← shiftedYear y m
  let era ← eraOf y
  let yoe ← checked (y - (← checked (era * 400)))
  let doy ← dayOfYear m day
  let doe ← dayOfEra yoe doy
  let days ← checked ((← checked (era * 146097)) + doe)
  checked (days - 719468)

def unixSeconds (t : TimeFields) : Option Int := do
  let days ← daysFromCivil t.y t.m t.day
  let secs ← checked ((← checked (days * 86400)) + (← checked (t.hh * 3600)))
  let secs ← checked (secs + (← checked (t.mm * 60)))
  checked (secs + t.ss)

/-- No result at all is an overflow; a result of `none` is a refusal. -/
def rfc3339UtcToUnix (s : String) : Option (Option Int) :=
  match timeFields s with
  | none => some none
  | some t => (unixSeconds t).map some

end Rust

/-! ### The closed form of the day count -/

section
variable {y m day yoe doy : Int}

theorem shiftedYear_eq (low : 0 ≤ y) (high : y ≤ 9999) :
    Rust.shiftedYear y m = some (if m ≤ 2 then y - 1 else y) := by
  unfold Rust.shiftedYear
  split
  · exact checked_of_range (by omega) (by omega)
  · rfl

/-- The quotient by 400 is rounded down, also for the year before the year 0. -/
theorem eraOf_eq (low : -1 ≤ y) : Rust.eraOf y = some (y / 400) := by
  unfold Rust.eraOf
  by_cases nonneg : 0 ≤ y
  · rw [if_pos nonneg, ← Int.tdiv_eq_ediv_of_nonneg nonneg]
    rfl
  · have last : y = -1 := by omega
    rw [if_neg nonneg, last]
    rfl

theorem dayOfYear_eq (month : 1 ≤ m ∧ m ≤ 12) (days : 1 ≤ day ∧ day ≤ 31) :
    Rust.dayOfYear m day = some ((153 * ((m + 9) % 12) + 2) / 5 + day - 1) := by
  have shifted : (m + 9).tmod 12 = (m + 9) % 12 := Int.tmod_eq_emod_of_nonneg (by omega)
  have before : (153 * ((m + 9) % 12) + 2).tdiv 5 = (153 * ((m + 9) % 12) + 2) / 5 :=
    Int.tdiv_eq_ediv_of_nonneg (by omega)
  unfold Rust.dayOfYear
  simp only [Option.bind_eq_bind]
  rw [checked_of_range (by omega) (by omega), Option.bind_some, shifted, checked_of_range (by omega) (by omega),
    Option.bind_some, checked_of_range (by omega) (by omega), Option.bind_some, before,
    checked_of_range (by omega) (by omega), Option.bind_some, checked_of_range (by omega) (by omega)]

theorem dayOfEra_eq (year : 0 ≤ yoe ∧ yoe < 400) (days : 0 ≤ doy ∧ doy ≤ 367) :
    Rust.dayOfEra yoe doy = some (yoe * 365 + yoe / 4 - yoe / 100 + doy) := by
  unfold Rust.dayOfEra
  simp only [Option.bind_eq_bind]
  rw [Int.tdiv_eq_ediv_of_nonneg year.1, Int.tdiv_eq_ediv_of_nonneg year.1,
    checked_of_range (by omega) (by omega), Option.bind_some, checked_of_range (by omega) (by omega),
    Option.bind_some, checked_of_range (by omega) (by omega), Option.bind_some,
    checked_of_range (by omega) (by omega)]

/-- The count with the year that begins in March. -/
def marchDays (y m day : Int) : Int :=
  365 * y + y / 4 - y / 100 + y / 400 + ((153 * ((m + 9) % 12) + 2) / 5 + day - 1) - 719468

theorem daysFromCivil_eq (low : 0 ≤ y) (high : y ≤ 9999) (month : 1 ≤ m ∧ m ≤ 12) (days : 1 ≤ day ∧ day ≤ 31) :
    Rust.daysFromCivil y m day = some (marchDays (if m ≤ 2 then y - 1 else y) m day) := by
  have bounds : -1 ≤ (if m ≤ 2 then y - 1 else y) ∧ (if m ≤ 2 then y - 1 else y) ≤ 9999 := by split <;> omega
  unfold Rust.daysFromCivil marchDays
  simp only [Option.bind_eq_bind]
  rw [shiftedYear_eq low high, Option.bind_some]
  generalize (if m ≤ 2 then y - 1 else y) = y at bounds
  rw [eraOf_eq bounds.1, Option.bind_some, checked_of_range (by omega) (by omega), Option.bind_some,
    checked_of_range (by omega) (by omega), Option.bind_some, dayOfYear_eq month days, Option.bind_some,
    dayOfEra_eq (by omega) (by omega), Option.bind_some, checked_of_range (by omega) (by omega), Option.bind_some,
    checked_of_range (by omega) (by omega), Option.bind_some, checked_of_range (by omega) (by omega)]
  congr 1
  omega

end

/-- From March on, five months have 153 days. -/
theorem daysBeforeMonth_march (y : Nat) {m : Nat} (march : 3 ≤ m) (month : m ≤ 12) :
    daysBeforeMonth y (m - 1) = 59 + (if isLeap y then 1 else 0) + (153 * (m - 3) + 2) / 5 := by
  interval_cases m
  all_goals
    simp only [daysBeforeMonth, monthLength]
    split
    · rfl
    · rfl

/-- The closed form is the count year by year and month by month. -/
theorem marchDays_eq (d : Date) :
    marchDays (if (d.month : Int) ≤ 2 then (d.year : Int) - 1 else d.year) d.month d.day =
      (d.ordinal : Int) - unixEpoch.ordinal := by
  have day := d.day_range.1
  have month := d.month_range
  rw [unixEpoch_ordinal]
  unfold marchDays Date.ordinal
  by_cases early : d.month ≤ 2
  · -- January and February belong to the March year before.
    have before : daysBeforeMonth d.year (d.month - 1) = 31 * (d.month - 1) := by
      rcases (show d.month = 1 ∨ d.month = 2 by omega) with first | second
      · rw [first]
        rfl
      · rw [second]
        rfl
    have years := daysBeforeYear_eq d.year
    rw [if_pos (by exact_mod_cast early), before]
    omega
  · have years := daysBeforeYear_leap d.year
    rw [if_neg (by exact_mod_cast early), daysBeforeMonth_march d.year (by omega) month.2]
    omega

/-! ### The text of a timestamp -/

/-- A number in a given width. -/
def inWidth (width n : Nat) : List Char := List.leftpad width '0' (Nat.toDigits 10 n)

def dateText (d : Date) : List Char := inWidth 4 d.year ++ '-' :: (inWidth 2 d.month ++ '-' :: inWidth 2 d.day)

def clockText (a : Moment) : List Char :=
  inWidth 2 a.hour ++ ':' :: (inWidth 2 a.minute ++ ':' :: inWidth 2 a.second)

/-- `YYYY-MM-DDTHH:MM:SS[.fraction]Z`. -/
def timestampText (a : Moment) (fraction : Option (List Char)) : String :=
  String.ofList (dateText a.date ++ 'T' :: (clockText a ++ (fraction.elim [] ('.' :: ·))) ++ ['Z'])

section
variable {cs ds : List Char} {sep : Char} {a : Moment}

theorem inWidth_digits (width n : Nat) : Digits (inWidth width n) := (Digits.zeros _).append (.toDigits n)

theorem inWidth_ne_nil (width n : Nat) : inWidth width n ≠ [] := by
  unfold inWidth List.leftpad
  exact List.append_ne_nil_of_right_ne_nil _ Nat.toDigits_ne_nil

theorem value_inWidth (width n : Nat) : value (inWidth width n) = n := by
  unfold inWidth List.leftpad
  rw [value_append, value_zeros, Nat.mul_zero, Nat.zero_add, value_toDigits]

theorem parseI64_inWidth {width n : Nat} (small : n < 2 ^ 53) :
    Rust.parseI64 (String.ofList (inWidth width n)) = some (n : Int) :=
  Go.parseInt_decimal (inWidth_ne_nil width n) (inWidth_digits width n) (value_inWidth width n) small

theorem not_mem_of_digits (digits : Digits cs) (mark : sep.isDigit = false) : sep ∉ cs := by
  intro member
  rw [digits sep member] at mark
  cases mark

theorem splitOn_three {xs ys zs : List Char} (first : sep ∉ xs) (second : sep ∉ ys) (third : sep ∉ zs) :
    (xs ++ sep :: (ys ++ sep :: zs)).splitOn sep = [xs, ys, zs] := by
  rw [List.splitOn_append_cons_self, List.splitOn_eq_singleton first, List.splitOn_append_cons_self,
    List.splitOn_eq_singleton second, List.splitOn_eq_singleton third]
  rfl

theorem threeNumbers_inWidth {u v w x y z : Nat} (first : x < 2 ^ 53) (second : y < 2 ^ 53) (third : z < 2 ^ 53) :
    Rust.threeNumbers [inWidth u x, inWidth v y, inWidth w z] = some ((x : Int), (y : Int), (z : Int)) := by
  unfold Rust.threeNumbers
  dsimp only
  rw [parseI64_inWidth first, parseI64_inWidth second, parseI64_inWidth third]
  rfl

theorem stripSuffix_concat (cs : List Char) (c : Char) : Rust.stripSuffix c (cs ++ [c]) = some cs := by
  unfold Rust.stripSuffix
  rw [List.getLast?_concat, if_pos rfl, List.dropLast_concat]

theorem splitOnce_append (none : sep ∉ cs) : Rust.splitOnce sep (cs ++ sep :: ds) = some (cs, ds) := by
  have front : ∀ c ∈ cs, (c != sep) = true := by
    intro c member
    rw [bne_iff_ne]
    rintro rfl
    exact none member
  unfold Rust.splitOnce
  rw [if_pos (by simp), List.takeWhile_append_of_pos front, List.dropWhile_append_of_pos front]
  simp

/-- The numbers of a timestamp are read back, whatever its fraction. -/
theorem timeFields_text (year : a.date.year ≤ 9999) (fraction : Option (List Char)) :
    Rust.timeFields (timestampText a fraction) =
      some ⟨a.date.year, a.date.month, a.date.day, a.hour, a.minute, a.second⟩ := by
  have month := a.date.month_range
  have day := a.date.day_range
  have days := monthLength_le a.date.year a.date.month
  have hour := a.hour_range
  have minute := a.minute_range
  have second := a.second_range
  have plain : ∀ (mark : Char), mark.isDigit = false → ∀ width n, mark ∉ inWidth width n :=
    fun mark h width n => not_mem_of_digits (inWidth_digits width n) h
  have date : 'T' ∉ dateText a.date := by simp [dateText, plain 'T' rfl]
  have dateParts := splitOn_three (plain '-' rfl 4 a.date.year) (plain '-' rfl 2 a.date.month)
    (plain '-' rfl 2 a.date.day)
  have clockParts := splitOn_three (plain ':' rfl 2 a.hour) (plain ':' rfl 2 a.minute) (plain ':' rfl 2 a.second)
  have clock : ((clockText a ++ fraction.elim [] ('.' :: ·)).splitOn '.').head? = some (clockText a) := by
    have bare : '.' ∉ clockText a := by simp [clockText, plain '.' rfl]
    cases fraction with
    | none => rw [Option.elim_none, List.append_nil, List.splitOn_eq_singleton bare, List.head?_cons]
    | some ds =>
      rw [Option.elim_some, List.splitOn_append_cons_self, List.splitOn_eq_singleton bare, List.singleton_append,
        List.head?_cons]
  unfold Rust.timeFields timestampText
  rw [String.toList_ofList, stripSuffix_concat]
  simp only [Option.bind_eq_bind, Option.bind_some]
  rw [splitOnce_append date, Option.bind_some]
  dsimp only
  rw [dateText, dateParts, threeNumbers_inWidth (by omega) (by omega) (by omega), Option.bind_some]
  dsimp only
  rw [clock, Option.bind_some, clockText, clockParts, threeNumbers_inWidth (by omega) (by omega) (by omega),
    Option.bind_some]
  dsimp only
  rw [if_neg (by omega)]

/-- The days of ten thousand years are counted without overflow. -/
theorem ordinal_le (year : a.date.year ≤ 9999) : a.date.ordinal < 4000000 := by
  have years := daysBeforeYear_eq a.date.year
  have within := a.date.day_of_year
  have length : yearLength a.date.year ≤ 366 := by
    unfold yearLength
    split <;> decide
  unfold Date.ordinal
  omega

/-- No operation on the numbers of a timestamp overflows. -/
theorem unixSeconds_eq (year : a.date.year ≤ 9999) :
    Rust.unixSeconds ⟨a.date.year, a.date.month, a.date.day, a.hour, a.minute, a.second⟩ = some a.unixSeconds := by
  have month := a.date.month_range
  have day := a.date.day_range
  have days := monthLength_le a.date.year a.date.month
  have hour := a.hour_range
  have minute := a.minute_range
  have second := a.second_range
  have bound := ordinal_le year
  have counted : Rust.daysFromCivil a.date.year a.date.month a.date.day =
      some ((a.date.ordinal : Int) - unixEpoch.ordinal) := by
    rw [daysFromCivil_eq (by omega) (by omega) (by omega) (by omega), marchDays_eq]
  unfold Rust.unixSeconds Moment.unixSeconds Moment.secondOfDay
  dsimp only
  simp only [Option.bind_eq_bind]
  rw [counted, Option.bind_some, unixEpoch_ordinal, checked_of_range (by omega) (by omega), Option.bind_some,
    checked_of_range (by omega) (by omega), Option.bind_some, checked_of_range (by omega) (by omega),
    Option.bind_some, checked_of_range (by omega) (by omega), Option.bind_some,
    checked_of_range (by omega) (by omega), Option.bind_some, checked_of_range (by omega) (by omega)]
  congr 1
  omega

theorem rfc3339UtcToUnix_eq (year : a.date.year ≤ 9999) (fraction : Option (List Char)) :
    Rust.rfc3339UtcToUnix (timestampText a fraction) = some (some a.unixSeconds) := by
  unfold Rust.rfc3339UtcToUnix
  rw [timeFields_text year]
  dsimp only
  rw [unixSeconds_eq year, Option.map_some]

end

/-- A timestamp is read as its seconds since 1970, whatever its fraction; the next day of the calendar has 86400 more;
and timestamps are in order exactly as the numbers they are read as. -/
theorem rfc3339UtcToUnix_exact :
    (∀ (a : Moment), a.date.year ≤ 9999 → ∀ (fraction : Option (List Char)),
      Rust.rfc3339UtcToUnix (timestampText a fraction) = some (some a.unixSeconds)) ∧
    (∀ (a b : Moment), a.date.year ≤ 9999 → b.date.year ≤ 9999 → b.date = a.date.next →
      b.secondOfDay = a.secondOfDay → ∀ (f g : Option (List Char)),
      ∃ s, Rust.rfc3339UtcToUnix (timestampText a f) = some (some s) ∧
        Rust.rfc3339UtcToUnix (timestampText b g) = some (some (s + 86400))) ∧
    ∀ (a b : Moment), a.date.year ≤ 9999 → b.date.year ≤ 9999 → ∀ (f g : Option (List Char)),
      ∃ s t, Rust.rfc3339UtcToUnix (timestampText a f) = some (some s) ∧
        Rust.rfc3339UtcToUnix (timestampText b g) = some (some t) ∧ (s < t ↔ a.Before b) := by
  refine ⟨?_, ?_, ?_⟩
  · intro a year fraction
    exact rfc3339UtcToUnix_eq year fraction
  · intro a b year year' later same f g
    have next : b.unixSeconds = a.unixSeconds + 86400 := by
      unfold Moment.unixSeconds
      rw [later, Date.ordinal_next, same]
      omega
    refine ⟨a.unixSeconds, rfc3339UtcToUnix_eq year f, ?_⟩
    rw [← next]
    exact rfc3339UtcToUnix_eq year' g
  · intro a b year year' f g
    exact ⟨a.unixSeconds, b.unixSeconds, rfc3339UtcToUnix_eq year f, rfc3339UtcToUnix_eq year' g,
      Moment.unixSeconds_lt_iff⟩

/-- A leap day. -/
def leapDay : Moment where
  date := { year := 2024, month := 2, day := 29, month_range := by decide, day_range := by decide }
  hour := 0
  minute := 0
  second := 0
  hour_range := by decide
  minute_range := by decide
  second_range := by decide

theorem rfc3339UtcToUnix_exact_leapDay :
    Rust.rfc3339UtcToUnix "2024-02-29T00:00:00.5Z" = some (some 1709164800) := by
  have seconds : leapDay.unixSeconds = 1709164800 := by decide +kernel
  have text : timestampText leapDay (some ['5']) = "2024-02-29T00:00:00.5Z" := by decide +kernel
  rw [← seconds, ← text]
  exact rfc3339UtcToUnix_exact.1 leapDay (by decide) (some ['5'])

end QorechainRdk
