import Mathlib.Order.Basic

/-!
# The proleptic Gregorian calendar

Days counted year by year and month by month, with the rule for leap years.
-/

namespace Calendar

def isLeap (y : Nat) : Bool := y % 4 == 0 && (y % 100 != 0 || y % 400 == 0)

def yearLength (y : Nat) : Nat := if isLeap y then 366 else 365

def monthLength (y m : Nat) : Nat :=
  match m with
  | 2 => if isLeap y then 29 else 28
  | 4 | 6 | 9 | 11 => 30
  | _ => 31

@[ext] structure Date where
  year : Nat
  month : Nat
  day : Nat
  month_range : 1 ≤ month ∧ month ≤ 12
  day_range : 1 ≤ day ∧ day ≤ monthLength year month

/-- The days of all years before `y`. -/
def daysBeforeYear : Nat → Nat
  | 0 => 0
  | y + 1 => daysBeforeYear y + yearLength y

/-- The days of year `y` before its month `m + 1`. -/
def daysBeforeMonth (y : Nat) : Nat → Nat
  | 0 => 0
  | m + 1 => daysBeforeMonth y m + monthLength y (m + 1)

/-- The days from the first of January of the year 0. -/
def Date.ordinal (d : Date) : Nat := daysBeforeYear d.year + daysBeforeMonth d.year (d.month - 1) + (d.day - 1)

theorem monthLength_pos (y m : Nat) : 1 ≤ monthLength y m := by
  unfold monthLength
  split
  · split <;> decide
  all_goals decide

theorem monthLength_le (y m : Nat) : monthLength y m ≤ 31 := by
  unfold monthLength
  split
  · split <;> decide
  all_goals decide

/-- The day after. -/
def Date.next (d : Date) : Date :=
  if within : d.day < monthLength d.year d.month then
    { d with day := d.day + 1, day_range := ⟨Nat.le_add_left 1 _, within⟩ }
  else if december : d.month < 12 then
    { year := d.year, month := d.month + 1, day := 1
      month_range := ⟨Nat.le_add_left 1 _, december⟩, day_range := ⟨Nat.le_refl 1, monthLength_pos _ _⟩ }
  else
    { year := d.year + 1, month := 1, day := 1
      month_range := by decide, day_range := ⟨Nat.le_refl 1, monthLength_pos _ _⟩ }

/-- The months of a year are its days. -/
theorem daysBeforeMonth_twelve (y : Nat) : daysBeforeMonth y 12 = yearLength y := by
  simp only [daysBeforeMonth, monthLength, yearLength]
  split <;> rfl

/-- The next day is one day later. -/
theorem Date.ordinal_next (d : Date) : d.next.ordinal = d.ordinal + 1 := by
  have month := d.month_range
  have day := d.day_range
  unfold next
  split
  · unfold ordinal
    dsimp only
    omega
  · split
    · have whole : daysBeforeMonth d.year d.month =
          daysBeforeMonth d.year (d.month - 1) + monthLength d.year d.month := by
        obtain ⟨m, shift⟩ := Nat.exists_eq_add_of_le' month.1
        rw [shift, Nat.add_sub_cancel, daysBeforeMonth]
      unfold ordinal
      dsimp only
      rw [Nat.add_sub_cancel, whole]
      omega
    · have last : d.month = 12 := by omega
      have year : daysBeforeMonth d.year 11 + monthLength d.year 12 = yearLength d.year :=
        daysBeforeMonth_twelve d.year
      have length : monthLength d.year d.month = monthLength d.year 12 := by rw [last]
      unfold ordinal
      dsimp only
      rw [daysBeforeYear, last]
      show daysBeforeYear d.year + yearLength d.year + 0 + 0 = daysBeforeYear d.year + daysBeforeMonth d.year 11 + _ + 1
      omega

/-- How many multiples of `p` there are below `y`, counted on by one. -/
theorem multiples_succ (p y : Nat) (pos : 0 < p) :
    (y + 1 + (p - 1)) / p = (y + (p - 1)) / p + if y % p = 0 then 1 else 0 := by
  have next : y + 1 + (p - 1) = y + (p - 1) + 1 := by omega
  have multiple : p ∣ y + (p - 1) + 1 ↔ y % p = 0 := by
    rw [show y + (p - 1) + 1 = y + p by omega, Nat.dvd_iff_mod_eq_zero, Nat.add_mod_right]
  rw [next, Nat.succ_div]
  simp only [multiple]

/-- Leap years come every four years, but for the hundreds that are no four hundreds. -/
theorem daysBeforeYear_eq (y : Nat) :
    daysBeforeYear y + (y + 99) / 100 = 365 * y + (y + 3) / 4 + (y + 399) / 400 := by
  induction y with
  | zero => rfl
  | succ y ih =>
    have fours : (y + 1 + 3) / 4 = (y + 3) / 4 + if y % 4 = 0 then 1 else 0 :=
      multiples_succ 4 y (by decide)
    have hundreds : (y + 1 + 99) / 100 = (y + 99) / 100 + if y % 100 = 0 then 1 else 0 :=
      multiples_succ 100 y (by decide)
    have fourHundreds : (y + 1 + 399) / 400 = (y + 399) / 400 + if y % 400 = 0 then 1 else 0 :=
      multiples_succ 400 y (by decide)
    rw [daysBeforeYear, fours, hundreds, fourHundreds]
    unfold yearLength isLeap
    by_cases leap : y % 4 = 0 ∧ (y % 100 ≠ 0 ∨ y % 400 = 0)
    · rw [if_pos (by simpa using leap), if_pos leap.1]
      rcases leap with ⟨four, hundred | fourHundred⟩
      · rw [if_neg hundred, if_neg (by omega)]
        omega
      · rw [if_pos fourHundred, if_pos (by omega)]
        omega
    · rw [if_neg (by simpa using leap)]
      simp only [not_and_or, not_or, not_not] at leap
      rcases leap with four | ⟨hundred, fourHundred⟩
      · rw [if_neg four, if_neg (by omega), if_neg (by omega)]
        omega
      · rw [if_pos hundred, if_neg fourHundred, if_pos (by omega)]
        omega

/-- The days of all years before `y`, and its leap day. -/
theorem daysBeforeYear_leap (y : Nat) :
    daysBeforeYear y + (if isLeap y then 1 else 0) + y / 100 = 365 * y + y / 4 + y / 400 + 1 := by
  have next := daysBeforeYear_eq (y + 1)
  rw [daysBeforeYear, yearLength] at next
  split
  · rename_i leap
    rw [if_pos leap] at next
    omega
  · rename_i common
    rw [if_neg common] at next
    omega

/-! ### The order of days -/

def Date.Before (d e : Date) : Prop :=
  d.year < e.year ∨ d.year = e.year ∧ (d.month < e.month ∨ d.month = e.month ∧ d.day < e.day)

theorem daysBeforeYear_mono {y z : Nat} (earlier : y < z) : daysBeforeYear y + yearLength y ≤ daysBeforeYear z := by
  induction earlier with
  | refl => exact Nat.le_refl _
  | step _ ih =>
    rw [daysBeforeYear]
    omega

theorem daysBeforeMonth_mono {y m n : Nat} (earlier : m < n) :
    daysBeforeMonth y m + monthLength y (m + 1) ≤ daysBeforeMonth y n := by
  induction earlier with
  | refl => exact Nat.le_refl _
  | step _ ih =>
    rw [daysBeforeMonth]
    omega

/-- A day falls within its own year. -/
theorem Date.day_of_year (d : Date) : daysBeforeMonth d.year (d.month - 1) + d.day ≤ yearLength d.year := by
  have month := d.month_range
  have day := d.day_range
  have whole := daysBeforeMonth_mono (y := d.year) (show d.month - 1 < 12 by omega)
  rw [Nat.sub_add_cancel month.1, daysBeforeMonth_twelve] at whole
  omega

theorem Date.Before.ordinal_lt {d e : Date} (before : d.Before e) : d.ordinal < e.ordinal := by
  have first := d.day_of_year
  have day := d.day_range
  have day' := e.day_range
  unfold ordinal
  rcases before with earlier | ⟨same, earlier | ⟨sameMonth, earlier⟩⟩
  · have years := daysBeforeYear_mono earlier
    omega
  · have month := d.month_range
    have months := daysBeforeMonth_mono (y := d.year) (show d.month - 1 < e.month - 1 by omega)
    rw [Nat.sub_add_cancel month.1] at months
    rw [← same]
    omega
  · rw [← same, ← sameMonth]
    omega

theorem Date.before_or (d e : Date) : d.Before e ∨ d = e ∨ e.Before d := by
  unfold Before
  by_cases same : d.year = e.year ∧ d.month = e.month ∧ d.day = e.day
  · exact Or.inr (Or.inl (Date.ext same.1 same.2.1 same.2.2))
  · omega

theorem Date.ordinal_lt_iff {d e : Date} : d.ordinal < e.ordinal ↔ d.Before e := by
  constructor
  · intro less
    rcases d.before_or e with before | rfl | after
    · exact before
    · exact absurd less (Nat.lt_irrefl _)
    · exact absurd less (Nat.lt_asymm after.ordinal_lt)
  · exact Before.ordinal_lt

/-! ### Times of day -/

@[ext] structure Moment where
  date : Date
  hour : Nat
  minute : Nat
  second : Nat
  hour_range : hour ≤ 23
  minute_range : minute ≤ 59
  second_range : second ≤ 59

def Moment.secondOfDay (a : Moment) : Nat := a.hour * 3600 + a.minute * 60 + a.second

/-- The first moment of 1970. -/
def unixEpoch : Date where
  year := 1970
  month := 1
  day := 1
  month_range := by decide
  day_range := by decide

theorem unixEpoch_ordinal : unixEpoch.ordinal = 719528 := by
  have years := daysBeforeYear_eq unixEpoch.year
  have year : unixEpoch.year = 1970 := rfl
  have months : daysBeforeMonth unixEpoch.year (unixEpoch.month - 1) = 0 := rfl
  have day : unixEpoch.day = 1 := rfl
  rw [Date.ordinal, months, day]
  omega

/-- The seconds from the beginning of 1970, every day having 86400. -/
def Moment.unixSeconds (a : Moment) : Int :=
  ((a.date.ordinal : Int) - unixEpoch.ordinal) * 86400 + a.secondOfDay

def Moment.Before (a b : Moment) : Prop :=
  a.date.Before b.date ∨ a.date = b.date ∧
    (a.hour < b.hour ∨ a.hour = b.hour ∧ (a.minute < b.minute ∨ a.minute = b.minute ∧ a.second < b.second))

/-- Later moments have larger numbers of seconds, and no others do. -/
theorem Moment.unixSeconds_lt_iff {a b : Moment} : a.unixSeconds < b.unixSeconds ↔ a.Before b := by
  have hour := a.hour_range
  have minute := a.minute_range
  have second := a.second_range
  have hour' := b.hour_range
  have minute' := b.minute_range
  have second' := b.second_range
  unfold unixSeconds secondOfDay Before
  rcases a.date.before_or b.date with before | same | after
  · have days := before.ordinal_lt
    exact iff_of_true (by omega) (Or.inl before)
  · have apart : ¬ a.date.Before b.date := by
      rw [same, ← Date.ordinal_lt_iff]
      exact Nat.lt_irrefl _
    rw [same] at apart ⊢
    simp only [apart, false_or, true_and]
    omega
  · have days := after.ordinal_lt
    have apart : a.date ≠ b.date := by
      intro same
      rw [same] at days
      exact absurd days (Nat.lt_irrefl _)
    have order : ¬ a.date.Before b.date := fun before => absurd before.ordinal_lt (Nat.lt_asymm days)
    refine iff_of_false (by omega) ?_
    rintro (before | ⟨same, -⟩)
    · exact order before
    · exact apart same

end Calendar
