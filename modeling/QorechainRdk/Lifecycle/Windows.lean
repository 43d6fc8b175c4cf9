import QorechainRdk.Client.Integers
import QorechainRdk.Lifecycle.ChallengeWindow
import QorechainRdk.Tx.Writers

/-!
# The challenge window in fixed width

`challenge_window.rs` and `ChallengeWindow.java` beside `challenge_window.go`: an unsigned window length meets
signed heights and times of 64 bits.
-/

namespace QorechainRdk

open Js

/-! ### Rust -/

namespace Rust

/-- An `i64` that overflows panics. -/
def checked (v : Int) : Option Int := if -2 ^ 63 ≤ v ∧ v < 2 ^ 63 then some v else none

/-- `v as i64` keeps the low 64 bits. -/
def asI64 (v : Nat) : Int := Go.int64 v

def batchChallengeWindow (batch : BatchIntegers) (windowSecs : Nat) (tip : ChainTip) :
    Option ChallengeWindowStatus :=
  if 0 < batch.submittedTime then do
    let elapsed ← checked (tip.timeSecs - batch.submittedTime)
    -- The chain treats a tip before the submission as not elapsed.
    let elapsedFully := decide (0 ≤ elapsed) && decide (windowSecs ≤ Go.uint64 elapsed)
    let deadline ← checked (batch.submittedTime + asI64 windowSecs)
    return {
      mode := .time
      isOpen := !elapsedFully
      finalizable := elapsedFully
      deadlineSecs := some deadline
      secondsRemaining := some (← checked (deadline - tip.timeSecs)) }
  else do
    let windowBlocks := asI64 (windowSecs / 6)
    let since ← checked (tip.height - batch.submittedAt)
    let deadlineHeight ← checked (batch.submittedAt + windowBlocks)
    return {
      mode := .blocks
      isOpen := decide (since ≤ windowBlocks)
      finalizable := decide (windowBlocks ≤ since)
      windowBlocks := some windowBlocks
      deadlineHeight := some deadlineHeight
      blocksRemaining := some (← checked (deadlineHeight - tip.height)) }

end Rust

/-! ### Java -/

namespace Jvm

/-- What is not set has its zero value. -/
structure ChallengeWindowStatus where
  mode : WindowMode
  isOpen : Bool
  finalizable : Bool
  deadlineSecs : Int := 0
  secondsRemaining : Int := 0
  windowBlocks : Int := 0
  deadlineHeight : Int := 0
  blocksRemaining : Int := 0
  deriving DecidableEq, Repr

/-- `ChallengeWindow.of`: a `long` that overflows wraps around, and a quotient rounds towards zero. -/
def challengeWindow (batch : BatchIntegers) (windowSecs : Int) (tip : ChainTip) : ChallengeWindowStatus :=
  if 0 < batch.submittedTime then
    let elapsed := Go.int64 (tip.timeSecs - batch.submittedTime)
    -- The chain treats a tip before the submission as not elapsed.
    let elapsedFully := decide (0 ≤ elapsed) && decide (windowSecs ≤ elapsed)
    let deadlineSecs := Go.int64 (batch.submittedTime + windowSecs)
    { mode := .time
      isOpen := !elapsedFully
      finalizable := elapsedFully
      deadlineSecs := deadlineSecs
      secondsRemaining := Go.int64 (deadlineSecs - tip.timeSecs) }
  else
    let windowBlocks := windowSecs.tdiv 6
    let since := Go.int64 (tip.height - batch.submittedAt)
    let deadlineHeight := Go.int64 (batch.submittedAt + windowBlocks)
    { mode := .blocks
      isOpen := decide (since ≤ windowBlocks)
      finalizable := decide (windowBlocks ≤ since)
      windowBlocks := windowBlocks
      deadlineHeight := deadlineHeight
      blocksRemaining := Go.int64 (deadlineHeight - tip.height) }

end Jvm

/-! ### The formula and its consequences -/

/-- What is not used in a mode is left out. -/
def windowStatus (mode : WindowMode) (isOpen finalizable : Bool)
    (deadlineSecs secondsRemaining windowBlocks deadlineHeight blocksRemaining : Int) : ChallengeWindowStatus :=
  match mode with
  | .time => { mode, isOpen, finalizable, deadlineSecs, secondsRemaining }
  | .blocks => { mode, isOpen, finalizable, windowBlocks, deadlineHeight, blocksRemaining }

def goStatus (s : Go.ChallengeWindowStatus) : Option ChallengeWindowStatus :=
  s.mode.map fun mode => windowStatus mode s.isOpen s.finalizable s.deadlineSecs s.secondsRemaining s.windowBlocks
    s.deadlineHeight s.blocksRemaining

def jvmStatus (s : Jvm.ChallengeWindowStatus) : ChallengeWindowStatus :=
  windowStatus s.mode s.isOpen s.finalizable s.deadlineSecs s.secondsRemaining s.windowBlocks s.deadlineHeight
    s.blocksRemaining

/-- How a Java client comes by the length of a window: as a `long` with its 64 bits, from the record of the rollup,
or from the module's parameters. -/
inductive WindowSource where
  | passed
  | record
  | params
  deriving DecidableEq, Repr

inductive WindowClient where
  | go
  | rust
  | jvm (source : WindowSource)
  deriving DecidableEq, Repr

/-- An integer as the node writes it. -/
def spelledInt (v : Int) : Option Json := some (.string (toString v))

/-- The `long` that a Java client judges a window by. -/
def javaWindowSecs (source : WindowSource) (windowSecs : Nat) : Int :=
  match source with
  | .passed => Jvm.long windowSecs
  | .record => Jvm.asLong (spelledInt windowSecs) 0
  | .params => Jvm.asNum (spelledInt windowSecs) 0

def BatchView.windowIntegers (batch : BatchView) : BatchIntegers where
  batchIndex := batch.batchIndex
  txCount := batch.txCount
  submittedAt := batch.submittedAt
  finalizedAt := batch.finalizedAt
  submittedTime := batch.submittedTime

/-- The batch in a Java view, as its record is read. -/
def javaBatch (batch : BatchView) : BatchIntegers where
  batchIndex := Jvm.asNum (spelledInt batch.batchIndex) 0
  txCount := Jvm.asNum (spelledInt batch.txCount) 0
  submittedAt := Jvm.asNum (spelledInt batch.submittedAt) 0
  finalizedAt := Jvm.asNum (spelledInt batch.finalizedAt) 0
  submittedTime := Jvm.asLong (spelledInt batch.submittedTime) 0

def windowOf (client : WindowClient) (batch : BatchView) (windowSecs : Nat) (tip : ChainTip) :
    Option ChallengeWindowStatus :=
  match client with
  | .go => goStatus (Go.batchChallengeWindow
      { submittedAt := batch.submittedAt, submittedTime := batch.submittedTime } windowSecs tip)
  | .rust => Rust.batchChallengeWindow batch.windowIntegers windowSecs tip
  | .jvm source => jvmStatus (Jvm.challengeWindow (javaBatch batch) (javaWindowSecs source windowSecs) tip)

/-- The numbers of a status go with its booleans. -/
structure Consistent (w : ChallengeWindowStatus) (tip : ChainTip) : Prop where
  settles : w.isOpen = false → w.finalizable = true
  timed : w.mode = .time →
    w.isOpen = !w.finalizable ∧ ∃ s, w.secondsRemaining = some s ∧ (w.isOpen = true ↔ 0 < s)
  counted : w.mode = .blocks → ∃ r d, w.blocksRemaining = some r ∧ w.deadlineHeight = some d ∧
    (w.isOpen = true ↔ 0 ≤ r) ∧ (w.isOpen = true ∧ w.finalizable = true ↔ tip.height = d)

theorem batchChallengeWindow_consistent (batch : BatchView) (windowSecs : Nat) (tip : ChainTip) :
    Consistent (batchChallengeWindow batch windowSecs tip) tip where
  settles := batchChallengeWindow_settles batch windowSecs tip
  timed := by
    intro mode
    unfold batchChallengeWindow at mode ⊢
    split at mode
    · rename_i timed
      rw [if_pos timed]
      refine ⟨rfl, _, rfl, ?_⟩
      simp only [Bool.not_eq_true', Bool.and_eq_false_iff, decide_eq_false_iff_not]
      omega
    · cases mode
  counted := by
    intro mode
    unfold batchChallengeWindow at mode ⊢
    split at mode
    · cases mode
    · rename_i counted
      rw [if_neg counted]
      refine ⟨_, _, rfl, rfl, ?_, ?_⟩
      · simp only [decide_eq_true_eq]
        omega
      · simp only [decide_eq_true_eq]
        omega

/-- Heights and times are below 2^62. -/
structure InRange (batch : BatchView) (tip : ChainTip) : Prop where
  submittedAt : 0 ≤ batch.submittedAt ∧ batch.submittedAt < 2 ^ 62
  submittedTime : 0 ≤ batch.submittedTime ∧ batch.submittedTime < 2 ^ 62
  height : 0 ≤ tip.height ∧ tip.height < 2 ^ 62
  timeSecs : 0 ≤ tip.timeSecs ∧ tip.timeSecs < 2 ^ 62

/-- The deadline of a timed batch fits. In Java the double nearest to its submission time and the length that is
judged by have the same sum, and the height of any other batch is an `int` and its window as many blocks. -/
def WindowFits (client : WindowClient) (batch : BatchView) (windowSecs : Nat) : Prop :=
  (0 < batch.submittedTime → batch.submittedTime + windowSecs < 2 ^ 63) ∧
    match client with
    | .go => True
    | .rust => True
    | .jvm source =>
      if 0 < batch.submittedTime then
        toDouble batch.submittedTime + javaWindowSecs source windowSecs = batch.submittedTime + windowSecs
      else batch.submittedAt < 2 ^ 31 ∧ (javaWindowSecs source windowSecs).tdiv 6 = windowSecs / 6

section
variable {batch : BatchView} {windowSecs : Nat} {tip : ChainTip}

theorem int64_high (v : Int) : Go.int64 v < 2 ^ 63 := by
  unfold Go.int64
  split
  · assumption
  · omega

theorem int64_natCast {n : Nat} (small : n < 2 ^ 63) : Go.int64 n = n := Go.int64_of_range (by omega) (by omega)

/-! In range, only a deadline can leave the 64 bits. -/

theorem InRange.timePassed (range : InRange batch tip) :
    Go.int64 (tip.timeSecs - batch.submittedTime) = tip.timeSecs - batch.submittedTime := by
  obtain ⟨submitted, time, height, secs⟩ := range
  exact Go.int64_of_range (by omega) (by omega)

/-- The unsigned comparison of the time that has passed. -/
theorem InRange.elapsed_eq (range : InRange batch tip) (windowSecs : Nat) :
    (decide (0 ≤ tip.timeSecs - batch.submittedTime) &&
        decide (windowSecs ≤ Go.uint64 (tip.timeSecs - batch.submittedTime))) =
      (decide (0 ≤ tip.timeSecs - batch.submittedTime) &&
        decide ((windowSecs : Int) ≤ tip.timeSecs - batch.submittedTime)) := by
  obtain ⟨submitted, time, height, secs⟩ := range
  by_cases reached : 0 ≤ tip.timeSecs - batch.submittedTime
  · have whole := Go.uint64_of_range reached (by omega)
    have same : windowSecs ≤ Go.uint64 (tip.timeSecs - batch.submittedTime) ↔
        (windowSecs : Int) ≤ tip.timeSecs - batch.submittedTime := by omega
    simp only [same]
  · simp only [reached, decide_false, Bool.false_and]

theorem InRange.blocksPassed (range : InRange batch tip) :
    Go.int64 (tip.height - batch.submittedAt) = tip.height - batch.submittedAt := by
  obtain ⟨submitted, time, height, secs⟩ := range
  exact Go.int64_of_range (by omega) (by omega)

theorem InRange.timeLeft (range : InRange batch tip) (within : batch.submittedTime + windowSecs < 2 ^ 63) :
    Go.int64 (batch.submittedTime + windowSecs) = batch.submittedTime + windowSecs ∧
      Go.int64 (batch.submittedTime + windowSecs - tip.timeSecs) =
        batch.submittedTime + windowSecs - tip.timeSecs := by
  obtain ⟨submitted, time, height, secs⟩ := range
  exact ⟨Go.int64_of_range (by omega) (by omega), Go.int64_of_range (by omega) (by omega)⟩

theorem InRange.blocksLeft (range : InRange batch tip) (small : windowSecs < 2 ^ 64) :
    Go.int64 (batch.submittedAt + (windowSecs / 6 : Int)) = batch.submittedAt + windowSecs / 6 ∧
      Go.int64 (batch.submittedAt + windowSecs / 6 - tip.height) =
        batch.submittedAt + windowSecs / 6 - tip.height := by
  obtain ⟨submitted, time, height, secs⟩ := range
  exact ⟨Go.int64_of_range (by omega) (by omega), Go.int64_of_range (by omega) (by omega)⟩

theorem goWindow_exact_iff (small : windowSecs < 2 ^ 64) (range : InRange batch tip) :
    windowOf .go batch windowSecs tip = some (batchChallengeWindow batch windowSecs tip) ↔
      (0 < batch.submittedTime → batch.submittedTime + windowSecs < 2 ^ 63) := by
  unfold windowOf goStatus Go.batchChallengeWindow batchChallengeWindow
  dsimp only
  by_cases timed : 0 < batch.submittedTime
  · rw [if_pos timed, if_pos timed]
    have passed := range.elapsed_eq windowSecs
    simp only [Option.map_some, windowStatus, range.timePassed, passed, Option.some.injEq,
      ChallengeWindowStatus.mk.injEq]
    constructor
    · intro same _
      have high := int64_high (batch.submittedTime + Go.int64 windowSecs)
      omega
    · intro fits
      have within := fits timed
      have whole : Go.int64 windowSecs = windowSecs := int64_natCast (by omega)
      obtain ⟨deadline, left⟩ := range.timeLeft within
      simp only [whole, deadline, left, and_self]
  · rw [if_neg timed, if_neg timed]
    have blocks : Go.int64 (windowSecs / 6 : Nat) = windowSecs / 6 := int64_natCast (by omega)
    obtain ⟨deadline, left⟩ := range.blocksLeft small
    simp only [Option.map_some, windowStatus, range.blocksPassed, blocks, deadline, left, timed, false_implies]

theorem checked_of_range {v : Int} (low : -2 ^ 63 ≤ v) (high : v < 2 ^ 63) : Rust.checked v = some v :=
  if_pos ⟨low, high⟩

theorem checked_some {v d : Int} (h : Rust.checked v = some d) : v = d ∧ v < 2 ^ 63 := by
  unfold Rust.checked at h
  split at h
  · rename_i within
    exact ⟨Option.some.inj h, within.2⟩
  · cases h

theorem rustWindow_exact_iff (small : windowSecs < 2 ^ 64) (range : InRange batch tip) :
    windowOf .rust batch windowSecs tip = some (batchChallengeWindow batch windowSecs tip) ↔
      (0 < batch.submittedTime → batch.submittedTime + windowSecs < 2 ^ 63) := by
  have passed := range.elapsed_eq windowSecs
  obtain ⟨submitted, time, height, secs⟩ := range
  unfold windowOf Rust.batchChallengeWindow batchChallengeWindow BatchView.windowIntegers
  dsimp only
  by_cases timed : 0 < batch.submittedTime
  · rw [if_pos timed, if_pos timed]
    rw [checked_of_range (by omega) (by omega), Option.bind_eq_bind, Option.bind_some, passed]
    constructor
    · intro same _
      obtain ⟨deadline, summed, same⟩ := Option.bind_eq_some_iff.mp same
      obtain ⟨remaining, -, same⟩ := Option.bind_eq_some_iff.mp same
      obtain ⟨sum, high⟩ := checked_some summed
      have fields := ChallengeWindowStatus.mk.inj (Option.some.inj same)
      have equal := Option.some.inj fields.2.2.2.1
      omega
    · intro fits
      have within := fits timed
      unfold Rust.asI64
      rw [int64_natCast (by omega), checked_of_range (by omega) (by omega), Option.bind_some,
        checked_of_range (by omega) (by omega)]
      rfl
  · rw [if_neg timed, if_neg timed]
    have blocks : Rust.asI64 (windowSecs / 6) = windowSecs / 6 := int64_natCast (by omega)
    rw [blocks, checked_of_range (by omega) (by omega), Option.bind_eq_bind, Option.bind_some,
      checked_of_range (by omega) (by omega), Option.bind_some, checked_of_range (by omega) (by omega)]
    exact iff_of_true rfl fun h => absurd h timed

/-! What a Java view holds of a batch. -/

theorem asInteger_text {n : Nat} (bits : Nat) (small : n < 2 ^ 64) :
    Jvm.asInteger bits (spelledInt n) 0 = Jvm.narrow bits (Rounding.nearest 53 n) := by
  have rounded : Rounding.nearest 53 n < 2 ^ 1024 :=
    (Rounding.nearest_lt small).trans (pow_lt_pow_right₀ Nat.one_lt_two (by omega))
  have text : toString (n : Int) = String.ofList (Nat.toDigits 10 n) := Nat.toString_eq_ofList_toDigits
  have digits : ∀ c ∈ Nat.toDigits 10 n, c.isDigit = true :=
    fun c member => Nat.isDigit_of_mem_toDigits (by decide) (by decide) member
  have value := Jvm.parseDouble_digits Nat.toDigits_ne_nil digits (by rw [Nat.ofDigitChars_ten_toDigits]; exact rounded)
  unfold Jvm.asInteger spelledInt
  dsimp only
  rw [text, if_neg (by rw [← Nat.toString_eq_ofList_toDigits]; exact Nat.repr_ne_empty), value, Option.map_some,
    Doubles.truncate_whole, Nat.ofDigitChars_ten_toDigits]
  rfl

theorem narrow_range (bits : Nat) (v : Int) :
    -2 ^ (bits - 1) ≤ Jvm.narrow bits v ∧ Jvm.narrow bits v < 2 ^ (bits - 1) := by
  have pos : (0 : Int) < 2 ^ (bits - 1) := Int.pow_pos (by decide)
  unfold Jvm.narrow
  omega

theorem javaWindowSecs_range (small : windowSecs < 2 ^ 64) (source : WindowSource) :
    -2 ^ 63 ≤ javaWindowSecs source windowSecs ∧ javaWindowSecs source windowSecs < 2 ^ 63 ∧
      (windowSecs < 2 ^ 63 → 0 ≤ javaWindowSecs source windowSecs) := by
  unfold javaWindowSecs
  cases source with
  | passed =>
    dsimp only
    unfold Jvm.long
    omega
  | record =>
    dsimp only
    unfold Jvm.asLong
    rw [asInteger_text 64 small]
    unfold Jvm.narrow
    omega
  | params =>
    dsimp only
    unfold Jvm.asNum
    rw [asInteger_text 32 small]
    unfold Jvm.narrow
    omega

theorem toDouble_pos {n : Nat} (positive : 0 < n) : 0 < Rounding.nearest 53 n := by
  by_cases small : n < 2 ^ 53
  · rw [(Doubles.nearest_small small).1]
    exact positive
  · exact Nat.lt_of_lt_of_le (by decide) (Rounding.le_nearest (by decide) (not_lt.mp small))

/-- The submission time of a Java view is the double nearest to it, and only a height that is no `int` is lost. -/
theorem InRange.javaBatch (range : InRange batch tip) :
    (javaBatch batch).submittedTime = toDouble batch.submittedTime ∧
      (0 ≤ toDouble batch.submittedTime ∧ toDouble batch.submittedTime < 2 ^ 63) ∧
      (0 < toDouble batch.submittedTime ↔ 0 < batch.submittedTime) ∧
      ((javaBatch batch).submittedAt = batch.submittedAt ↔ batch.submittedAt < 2 ^ 31) ∧
      (0 ≤ (javaBatch batch).submittedAt ∧ (javaBatch batch).submittedAt < 2 ^ 31) := by
  obtain ⟨⟨low, high⟩, ⟨early, late⟩, -, -⟩ := range
  obtain ⟨time, isTime⟩ := Int.eq_ofNat_of_zero_le early
  obtain ⟨height, isHeight⟩ := Int.eq_ofNat_of_zero_le low
  have rounded := Rounding.nearest_lt (p := 53) (show time < 2 ^ 62 by omega)
  unfold QorechainRdk.javaBatch Jvm.asLong Jvm.asNum
  dsimp only
  rw [isTime, isHeight, toDouble_nat, asInteger_text 64 (by omega), asInteger_text 32 (by omega)]
  refine ⟨?_, by omega, ?_, ?_, ?_⟩
  · unfold Jvm.narrow
    omega
  · constructor
    · intro positive
      by_contra zero
      have none : time = 0 := by omega
      subst none
      exact absurd positive (by decide)
    · intro positive
      have := toDouble_pos (show 0 < time by omega)
      omega
  · constructor
    · intro same
      have capped := (narrow_range 32 (Rounding.nearest 53 height)).2
      omega
    · intro small
      rw [(Doubles.nearest_small (show height < 2 ^ 53 by omega)).1]
      unfold Jvm.narrow
      omega
  · unfold Jvm.narrow
    omega

/-- A Java client judges a timed batch rightly by a time and a length that have the right sum, and any other batch
by its own height and a length of as many blocks. -/
theorem javaWindow_exact_iff (source : WindowSource) (small : windowSecs < 2 ^ 64) (range : InRange batch tip) :
    jvmStatus (Jvm.challengeWindow (javaBatch batch) (javaWindowSecs source windowSecs) tip) =
        batchChallengeWindow batch windowSecs tip ↔
      WindowFits (.jvm source) batch windowSecs := by
  obtain ⟨isTime, ⟨timeLow, timeHigh⟩, positive, own, heightLow, heightHigh⟩ := range.javaBatch
  obtain ⟨secsLow, secsHigh, nonneg⟩ := javaWindowSecs_range small source
  have left := range.blocksLeft small
  obtain ⟨submitted, time, height, secs⟩ := range
  unfold jvmStatus Jvm.challengeWindow batchChallengeWindow WindowFits
  dsimp only
  rw [isTime]
  generalize javaWindowSecs source windowSecs = judged at *
  generalize toDouble batch.submittedTime = rounded at *
  by_cases timed : 0 < batch.submittedTime
  · have passed : Go.int64 (tip.timeSecs - rounded) = tip.timeSecs - rounded :=
      Go.int64_of_range (by omega) (by omega)
    rw [if_pos (positive.mpr timed), if_pos timed, if_pos timed]
    simp only [windowStatus, passed, ChallengeWindowStatus.mk.injEq]
    constructor
    · intro same
      have deadline := Option.some.inj same.2.2.2.1
      have top := int64_high (rounded + judged)
      unfold Go.int64 at deadline
      split at deadline
      · omega
      · omega
    · intro fits
      have within := fits.1 timed
      have sum := fits.2
      have deadline : Go.int64 (rounded + judged) = batch.submittedTime + windowSecs := by
        rw [sum]
        exact Go.int64_of_range (by omega) within
      have remaining : Go.int64 (batch.submittedTime + windowSecs - tip.timeSecs) =
          batch.submittedTime + windowSecs - tip.timeSecs := Go.int64_of_range (by omega) (by omega)
      have judgedNonneg := nonneg (by omega)
      have reached : (decide (0 ≤ tip.timeSecs - rounded) && decide (judged ≤ tip.timeSecs - rounded)) =
          (decide (0 ≤ tip.timeSecs - batch.submittedTime) &&
            decide ((windowSecs : Int) ≤ tip.timeSecs - batch.submittedTime)) := by
        rw [Bool.eq_iff_iff]
        simp only [Bool.and_eq_true, decide_eq_true_eq]
        omega
      simp only [deadline, remaining, reached, and_self]
  · have passed : Go.int64 (tip.height - (javaBatch batch).submittedAt) = tip.height - (javaBatch batch).submittedAt :=
      Go.int64_of_range (by omega) (by omega)
    rw [if_neg (mt positive.mp timed), if_neg timed, if_neg timed]
    simp only [windowStatus, passed, ChallengeWindowStatus.mk.injEq, Option.some.injEq]
    constructor
    · intro same
      have blocks := same.2.2.2.2.2.1
      have deadline := same.2.2.2.2.2.2.1
      refine ⟨fun early => absurd early timed, own.mp ?_, blocks⟩
      rw [blocks] at deadline
      rw [Go.int64_of_range (by omega) (by omega)] at deadline
      omega
    · intro fits
      obtain ⟨-, int, blocks⟩ := fits
      rw [own.mpr int]
      simp only [blocks, left, and_self]

theorem windowOf_exact_iff (client : WindowClient) (small : windowSecs < 2 ^ 64) (range : InRange batch tip) :
    windowOf client batch windowSecs tip = some (batchChallengeWindow batch windowSecs tip) ↔
      WindowFits client batch windowSecs := by
  cases client with
  | go => exact (goWindow_exact_iff small range).trans (and_iff_left trivial).symm
  | rust => exact (rustWindow_exact_iff small range).trans (and_iff_left trivial).symm
  | jvm source =>
    unfold windowOf
    rw [Option.some.injEq]
    exact javaWindow_exact_iff source small range

variable (client : WindowClient) (batch windowSecs tip) in
/-- The client's status is the one of unbounded integers, it is consistent, and it never opens again. -/
structure WindowFaithful : Prop where
  exact : windowOf client batch windowSecs tip = some (batchChallengeWindow batch windowSecs tip)
  consistent : ∀ s, windowOf client batch windowSecs tip = some s → Consistent s tip
  closed : ∀ later s t, tip ≤ later → InRange batch later → windowOf client batch windowSecs tip = some s →
    windowOf client batch windowSecs later = some t → s.isOpen = false → t.isOpen = false

/-- A client computes the challenge window as over unbounded integers exactly where the deadline of a timed
batch stays below 2^63 and, in Java, what the views have kept of the batch and of the length gives the same window. -/
theorem challengeWindow_faithful_iff (client : WindowClient) (small : windowSecs < 2 ^ 64)
    (range : InRange batch tip) :
    WindowFaithful batch windowSecs tip client ↔ WindowFits client batch windowSecs := by
  constructor
  · intro faithful
    exact (windowOf_exact_iff client small range).mp faithful.exact
  · intro fits
    have exact := (windowOf_exact_iff client small range).mpr fits
    refine ⟨exact, ?_, ?_⟩
    · intro s status
      rw [exact, Option.some.injEq] at status
      rw [← status]
      exact batchChallengeWindow_consistent batch windowSecs tip
    · intro later s t after laterRange status laterStatus closed
      rw [exact, Option.some.injEq] at status
      rw [(windowOf_exact_iff client small laterRange).mpr fits, Option.some.injEq] at laterStatus
      rw [← status] at closed
      rw [← laterStatus]
      exact batchChallengeWindow_closed after closed

end

/-- A batch submitted at the time 1700000000. -/
def timedBatch : BatchView where
  batchIndex := 1
  stateRoot := ""
  prevStateRoot := ""
  txCount := 0
  dataHash := ""
  status := "submitted"
  submittedAt := 5
  finalizedAt := 0
  withdrawalsRoot := ""
  submittedTime := 1700000000

theorem timedBatch_inRange : InRange timedBatch ⟨6, 1700000001⟩ := ⟨by decide, by decide, by decide, by decide⟩

/-- Java reads a length of a week from the record as it is; the longest of all is no `long`. -/
theorem challengeWindow_faithful_iff_sample :
    WindowFaithful timedBatch 604800 ⟨6, 1700000001⟩ (.jvm .record) ∧
      ¬ WindowFaithful timedBatch (2 ^ 64 - 1) ⟨6, 1700000001⟩ (.jvm .passed) := by
  constructor
  · apply (challengeWindow_faithful_iff (.jvm .record) (by decide) timedBatch_inRange).mpr
    refine ⟨by decide, ?_⟩
    dsimp only
    rw [if_pos (by decide)]
    decide +kernel
  · rw [challengeWindow_faithful_iff (.jvm .passed) (by decide) timedBatch_inRange]
    rintro ⟨fits, -⟩
    exact absurd (fits (by decide)) (by decide)
/-- With a window of 2^64 − 1 seconds an open batch has a deadline that has passed. -/
theorem deadline_wraps : ¬ ∀ (client : WindowClient) (batch : BatchView) (windowSecs : Nat) (tip : ChainTip),
    windowSecs < 2 ^ 64 → InRange batch tip → WindowFaithful batch windowSecs tip client := by
  intro faithful
  have exact := (faithful .go timedBatch (2 ^ 64 - 1) ⟨6, 1700000001⟩ (by decide) timedBatch_inRange).exact
  revert exact
  decide

end QorechainRdk
