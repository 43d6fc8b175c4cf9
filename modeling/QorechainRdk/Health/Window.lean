import QorechainRdk.Client.Integers
import QorechainRdk.Go.Health

/-!
# The window that the Go snapshot reports

A pending batch is judged by the length that the options give, else the rollup's own, else the global default.
When none of the three is known the snapshot still judges it, by a length of zero.
-/

namespace QorechainRdk.Go

open Js

/-! ### What the node answers -/

def mapParamsView (raw : RawRecord) : ParamsView where
  defaultChallengeWindow := asNum (pick raw ["default_challenge_window", "defaultChallengeWindow"]) 0

section
variable (sprint : Json → String) (get : String → Except JsError RawRecord) (rollupId : String)

def paramsBody : Except JsError RawRecord := do
  let body ← get "/qorechain/rdk/v1/params"
  return nested body "params"

def rollupBody : Except JsError RawRecord := do
  let body ← get s!"/qorechain/rdk/v1/rollup/{pathEscape rollupId}"
  return nested body "rollup"

def getParams : Except JsError ParamsView := do
  return mapParamsView (← paramsBody get)

/-- The reads of a snapshot, with the rollup and the parameters mapped from what the node answers. -/
def answered (reads : HealthReads) : HealthReads :=
  { reads with rollup := getRollup sprint get rollupId, params := getParams get }

end

/-! ### The lengths in the answers -/

/-- The seconds that a number stands for, if they are a length below `limit`. -/
def secondsBelow (limit : Int) : Doubles.Whole → Option Nat
  | .int n => if 0 ≤ n ∧ n < limit then some n.toNat else none
  | _ => none

/-- What the rollup's record holds as its own window; an empty text is not reported. -/
def reported (rollup : RawRecord) : Option Json :=
  match pick rollup ["challenge_window_sec", "challengeWindowSec"] with
  | some (.string "") => none
  | value => value

/-- The rollup's own length, where what it reports is one. -/
def ownLength : Json → Option Nat
  | .number n => secondsBelow (2 ^ 64) (wholePart n)
  | .string s => parseUint s
  | _ => none

/-- The length in the parameters, where there is one. -/
def defaultLength (params : RawRecord) : Option Nat :=
  match pick params ["default_challenge_window", "defaultChallengeWindow"] with
  | some (.number n) => secondsBelow (2 ^ 63) (wholePart n)
  | some (.string s) => (parseFloat s).bind fun n => secondsBelow (2 ^ 63) n.truncate
  | _ => none

/-- The length that was given or read, if any was. The default is asked for where the rollup reports nothing. -/
def knownLength (get : String → Except JsError RawRecord) (options : HealthOptions) (rollup : RawRecord) :
    Option Nat :=
  if options.challengeWindowSecs ≠ 0 then some options.challengeWindowSecs
  else
    match reported rollup, paramsBody get with
    | some value, _ => ownLength value
    | none, .ok params => defaultLength params
    | none, .error _ => none

/-- The node answers with a length: the rollup's own, or the default where the rollup reports nothing. -/
def LengthHeld (get : String → Except JsError RawRecord) (rollup : RawRecord) : Prop :=
  match reported rollup with
  | some value => ∃ secs, ownLength value = some secs
  | none => ∃ params secs, paramsBody get = .ok params ∧ defaultLength params = some secs

/-- A window that is reported is the batch's at the tip, by the known length. -/
def JudgedByKnownLength (sprint : Json → String) (get : String → Except JsError RawRecord) (reads : HealthReads)
    (options : HealthOptions) (rollupId : String) (latest : BatchView) : Prop :=
  ∀ rollup health, rollupBody get rollupId = .ok rollup →
    getRollupHealth (answered sprint get rollupId reads) options rollupId = .ok health →
    health.hasChallengeWindow = true →
    ∃ secs tip, knownLength get options rollup = some secs ∧ (resolveTip reads options).1 = some tip ∧
      health.challengeWindow = batchChallengeWindow latest secs tip

/-! ### The length that is read -/

theorem secondsBelow_some {limit : Int} {number : Doubles.Whole} {secs : Nat}
    (read : secondsBelow limit number = some secs) : number = .int secs ∧ (secs : Int) < limit := by
  cases number with
  | int n =>
    simp only [secondsBelow] at read
    split at read
    · rename_i inside
      obtain ⟨nonneg, below⟩ := inside
      obtain rfl := Option.some.inj read
      rw [Int.toNat_of_nonneg nonneg]
      exact ⟨rfl, below⟩
    · cases read
  | infinite negative => cases read
  | nan => cases read

theorem uint64OfFloat_natCast {n : Nat} (small : (n : Int) < 2 ^ 64) : uint64OfFloat (.int n) = n := by
  have whole := uint64_of_range (Int.natCast_nonneg n) small
  unfold uint64OfFloat
  dsimp only
  rw [if_neg (by omega), if_pos small]
  exact_mod_cast whole

theorem int64OfFloat_natCast {n : Nat} (small : (n : Int) < 2 ^ 63) : int64OfFloat (.int n) = n := by
  unfold int64OfFloat
  dsimp only
  rw [if_pos ⟨by omega, small⟩]

theorem reported_none {rollup : RawRecord} : reported rollup = none ↔
    optionalU64 (pick rollup ["challenge_window_sec", "challengeWindowSec"]) = none := by
  unfold reported optionalU64
  split
  · rename_i empty
    simp [empty]
  · rename_i other
    split
    · rename_i absent
      simp [absent]
    · rename_i empty
      exact absurd empty other
    · rename_i value _ present
      simp [present]

theorem reported_own {rollup : RawRecord} {value : Json} {secs : Nat} (own : reported rollup = some value)
    (length : ownLength value = some secs) :
    optionalU64 (pick rollup ["challenge_window_sec", "challengeWindowSec"]) = some secs := by
  have nonempty : value ≠ .string "" := by
    intro empty
    rw [empty] at length
    cases length
  have picked : pick rollup ["challenge_window_sec", "challengeWindowSec"] = some value := by
    unfold reported at own
    split at own
    · cases own
    · exact own
  rw [picked]
  unfold optionalU64
  split
  · rename_i absent
    cases absent
  · rename_i empty
    exact absurd (Option.some.inj empty) nonempty
  · rename_i present
    obtain rfl := Option.some.inj present
    unfold ownLength at length
    unfold asU64
    split at length
    · obtain ⟨whole, small⟩ := secondsBelow_some length
      simp only [whole]
      rw [uint64OfFloat_natCast small]
    · rename_i text _
      have written : text ≠ "" := fun empty => nonempty (by rw [empty])
      simp [written, length]
    · cases length

theorem uint64_natCast {n : Nat} (small : (n : Int) < 2 ^ 63) : uint64 n = n := by
  have whole : (uint64 n : Int) = n := uint64_of_range (Int.natCast_nonneg n) (by omega)
  exact Int.ofNat_inj.mp whole

theorem parseFloat_empty : parseFloat "" = none := by decide

theorem defaultLength_some {params : RawRecord} {secs : Nat} (length : defaultLength params = some secs) :
    asNum (pick params ["default_challenge_window", "defaultChallengeWindow"]) 0 = secs ∧ (secs : Int) < 2 ^ 63 := by
  unfold defaultLength at length
  split at length
  · rename_i number picked
    obtain ⟨whole, small⟩ := secondsBelow_some length
    rw [picked, asNum, whole]
    exact ⟨int64OfFloat_natCast small, small⟩
  · rename_i text picked
    obtain ⟨number, read, seconds⟩ := Option.bind_eq_some_iff.mp length
    obtain ⟨whole, small⟩ := secondsBelow_some seconds
    have written : text ≠ "" := by
      intro empty
      rw [empty, parseFloat_empty] at read
      cases read
    rw [picked, asNum, if_neg written, read, Option.map_some, Option.getD_some, whole]
    exact ⟨int64OfFloat_natCast small, small⟩
  · cases length

/-! ### The window that is reported -/

section
variable {reads : HealthReads} {options : HealthOptions} {rollup : RollupView} {latest : BatchView}
  {health : RollupHealth} {tip : Option ChainTip}

/-- The window is there exactly with a tip. -/
theorem pendingHealth_window (none : health.hasChallengeWindow = false) :
    (pendingHealth reads options rollup latest tip health).hasChallengeWindow = tip.isSome ∧
      ∀ t, tip = some t → (pendingHealth reads options rollup latest tip health).challengeWindow =
        batchChallengeWindow latest (windowSecs reads options rollup).1 t := by
  unfold pendingHealth
  cases tip with
  | none =>
    constructor
    · dsimp only
      split
      · exact none
      · exact none
    · intro t same
      cases same
  | some t =>
    dsimp only
    constructor
    · split
      · split
        · rfl
        · rfl
      · split
        · rfl
        · rfl
    · intro t' same
      cases same
      split
      · split
        · rfl
        · rfl
      · split
        · rfl
        · rfl

theorem batchHealth_window (none : health.hasChallengeWindow = false) (waiting : pending latest = true) :
    (batchHealth reads options rollup latest health).hasChallengeWindow =
        (resolveTip reads options).1.isSome ∧
      ∀ t, (resolveTip reads options).1 = some t →
        (batchHealth reads options rollup latest health).challengeWindow =
          batchChallengeWindow latest (windowSecs reads options rollup).1 t := by
  unfold batchHealth
  dsimp only
  rw [if_pos waiting]
  apply pendingHealth_window
  cases (resolveTip reads options).1 with
  | none => exact none
  | some t =>
    dsimp only
    split
    · exact none
    · exact none

end

section
variable {sprint : Json → String} {get : String → Except JsError RawRecord} {reads : HealthReads}
  {options : HealthOptions} {rollup : RawRecord} {latest : BatchView} {health : RollupHealth}
  {tip : Option ChainTip} {rollupId : String}

theorem getRollup_body (found : rollupBody get rollupId = .ok rollup) :
    getRollup sprint get rollupId = .ok (mapRollupView sprint rollup) := by
  unfold rollupBody at found
  unfold getRollup
  cases body : get s!"/qorechain/rdk/v1/rollup/{pathEscape rollupId}" with
  | ok record =>
    rw [body] at found
    obtain rfl := Except.ok.inj found
    rfl
  | error e =>
    rw [body] at found
    cases found

theorem windowSecs_known {secs : Nat} (known : knownLength get options rollup = some secs) :
    (windowSecs (answered sprint get rollupId reads) options (mapRollupView sprint rollup)).1 = secs := by
  unfold knownLength at known
  unfold windowSecs
  by_cases given : options.challengeWindowSecs = 0
  · rw [if_neg fun h => h given] at known
    cases own : reported rollup with
    | some value =>
      simp only [own] at known
      have held := reported_own own known
      simp [given, mapRollupView, held]
    | none =>
      have absent := reported_none.mp own
      cases default : paramsBody get with
      | ok params =>
        simp only [own, default] at known
        have length := defaultLength_some known
        have read : getParams get = .ok (mapParamsView params) := by
          unfold getParams
          rw [default]
          rfl
        obtain ⟨number, small⟩ := length
        have default : uint64 (mapParamsView params).defaultChallengeWindow = secs := by
          rw [mapParamsView, number, uint64_natCast small]
        simp [given, mapRollupView, absent, answered, read, default]
      | error e =>
        simp only [own, default] at known
        cases known
  · rw [if_pos given] at known
    simpa [given] using known

theorem knownLength_some : (∃ secs, knownLength get options rollup = some secs) ↔
    options.challengeWindowSecs ≠ 0 ∨ LengthHeld get rollup := by
  unfold knownLength LengthHeld
  by_cases given : options.challengeWindowSecs = 0
  · rw [if_neg fun h => h given]
    cases own : reported rollup with
    | some value => simp [given]
    | none =>
      cases default : paramsBody get with
      | ok params => simp [given]
      | error e => simp [given]
  · simp [given]

variable (sprint options rollupId) in
theorem getRollupHealth_pending (found : rollupBody get rollupId = .ok rollup) (read : reads.latestBatch = .ok latest)
    (height : latest.submittedAt ≠ 0) (waiting : pending latest = true) :
    ∃ health, getRollupHealth (answered sprint get rollupId reads) options rollupId = .ok health ∧
      health.hasChallengeWindow = (resolveTip reads options).1.isSome ∧
      ∀ t, (resolveTip reads options).1 = some t →
        health.challengeWindow = batchChallengeWindow latest
          (windowSecs (answered sprint get rollupId reads) options (mapRollupView sprint rollup)).1 t := by
  have view : (answered sprint get rollupId reads).rollup = .ok (mapRollupView sprint rollup) := getRollup_body found
  have same : (answered sprint get rollupId reads).latestBatch = .ok latest := read
  unfold getRollupHealth
  rw [view, ok_bind, same]
  dsimp only
  rw [if_neg height]
  exact ⟨_, rfl, batchHealth_window rfl waiting⟩

/-- A pending batch is judged by a length that was given or read exactly when there is one, or no tip to judge
it against. -/
theorem challengeWindow_known_iff (read : reads.latestBatch = .ok latest) (height : latest.submittedAt ≠ 0)
    (waiting : pending latest = true) :
    JudgedByKnownLength sprint get reads options rollupId latest ↔
    options.challengeWindowSecs ≠ 0 ∨
      (∀ rollup, rollupBody get rollupId = .ok rollup → LengthHeld get rollup) ∨
      (resolveTip reads options).1 = none := by
  constructor
  · intro judged
    cases tip : (resolveTip reads options).1 with
    | none => exact Or.inr (Or.inr rfl)
    | some t =>
      by_cases given : options.challengeWindowSecs = 0
      · refine Or.inr (Or.inl fun rollup found => ?_)
        obtain ⟨health, result, window, -⟩ :=
          getRollupHealth_pending sprint options rollupId found read height waiting
        rw [tip] at window
        obtain ⟨secs, -, known, -, -⟩ := judged rollup health found result window
        rcases knownLength_some.mp ⟨secs, known⟩ with nonzero | held
        · exact absurd given nonzero
        · exact held
      · exact Or.inl given
  · intro condition rollup health found result window
    obtain ⟨health', result', window', judged⟩ :=
      getRollupHealth_pending sprint options rollupId found read height waiting
    obtain rfl : health' = health := Except.ok.inj (result'.symm.trans result)
    rw [window'] at window
    obtain ⟨t, tip⟩ := Option.isSome_iff_exists.mp window
    obtain ⟨secs, length⟩ : ∃ secs, knownLength get options rollup = some secs := by
      rw [knownLength_some]
      rcases condition with given | held | untold
      · exact Or.inl given
      · exact Or.inr (held rollup found)
      · rw [tip] at untold
        cases untold
    exact ⟨secs, t, length, tip, by rw [judged t tip, windowSecs_known length]⟩

end

def submittedBatch : BatchView where
  batchIndex := 1
  status := "submitted"
  submittedAt := 100

/-- A tip in the block of the batch. -/
def sameBlock : HealthReads where
  rollup := .error ⟨"not read"⟩
  latestBatch := .ok submittedBatch
  tip := .ok { height := 100, timeSecs := 0 }
  params := .error ⟨"not read"⟩
  challengeSettlement := .ok false
  batchesFrom := fun _ => .ok []

/-- A node of a rollup that reports no length of its own, with an answer for the parameters. -/
def nodeWith (params : Except JsError RawRecord) (path : String) : Except JsError RawRecord :=
  if path = "/qorechain/rdk/v1/params" then params else .ok [("status", .string "active")]

def paramsDown : Except JsError RawRecord :=
  .error ⟨"REST GET /qorechain/rdk/v1/params failed: 503 Service Unavailable"⟩

def paramsUp : Except JsError RawRecord := .ok [("default_challenge_window", .string "604800")]

/-- Of the three answers for the parameters, the one that holds a length keeps the law. -/
theorem challengeWindow_known_iff_sample :
    JudgedByKnownLength (fun _ => "") (nodeWith paramsUp) sameBlock {} "r" submittedBatch ∧
      ¬ JudgedByKnownLength (fun _ => "") (nodeWith paramsDown) sameBlock {} "r" submittedBatch ∧
      ¬ JudgedByKnownLength (fun _ => "") (nodeWith (.ok [])) sameBlock {} "r" submittedBatch := by
  have found (params : Except JsError RawRecord) :
      rollupBody (nodeWith params) "r" = .ok [("status", .string "active")] := by
    unfold rollupBody nodeWith
    rw [if_neg (by decide)]
    rfl
  have unheld (params : Except JsError RawRecord) (none : paramsBody (nodeWith params) = .ok [] ∨
      ∃ e, paramsBody (nodeWith params) = .error e) :
      ¬ JudgedByKnownLength (fun _ => "") (nodeWith params) sameBlock {} "r" submittedBatch := by
    rw [challengeWindow_known_iff rfl (by decide) rfl]
    rintro (given | held | tip)
    · exact given rfl
    · obtain ⟨answer, secs, body, length⟩ := held _ (found params)
      rcases none with empty | ⟨e, failed⟩
      · rw [empty] at body
        cases body
        cases length
      · rw [failed] at body
        cases body
    · cases tip
  refine ⟨?_, unheld _ (Or.inr ⟨_, rfl⟩), unheld _ (Or.inl rfl)⟩
  apply (challengeWindow_known_iff rfl (by decide) rfl).mpr
  refine Or.inr (Or.inl fun rollup answer => ?_)
  rw [found] at answer
  cases answer
  exact ⟨_, 604800, rfl, by decide +kernel⟩

/-- With the parameters unread, a batch of this very block is reported as ready to finalize. -/
theorem params_down_finalizable :
    (∃ health, getRollupHealth (answered (fun _ => "") (nodeWith paramsDown) "r" sameBlock) {} "r" = .ok health ∧
      health.hasChallengeWindow = true ∧ health.challengeWindow.finalizable = true) ∧
    ¬ ∀ (sprint : Json → String) (get : String → Except JsError RawRecord) (reads : HealthReads)
      (options : HealthOptions) (rollupId : String) (latest : BatchView),
      reads.latestBatch = .ok latest → latest.submittedAt ≠ 0 → pending latest = true →
        JudgedByKnownLength sprint get reads options rollupId latest := by
  have health : ∃ health, getRollupHealth (answered (fun _ => "") (nodeWith paramsDown) "r" sameBlock) {} "r" =
      .ok health ∧ health.hasChallengeWindow = true ∧ health.challengeWindow.finalizable = true :=
    ⟨_, rfl, rfl, rfl⟩
  refine ⟨health, ?_⟩
  intro law
  obtain ⟨snapshot, result, window, -⟩ := health
  obtain ⟨secs, -, known, -⟩ :=
    law (fun _ => "") (nodeWith paramsDown) sameBlock {} "r" submittedBatch rfl (by decide) rfl
      [("status", .string "active")] snapshot rfl result window
  cases known

end QorechainRdk.Go
