import QorechainRdk.Client.Paging
import QorechainRdk.Health.Model

/-!
# The batch that holds the latest one back

The in-order check of `getRollupHealth`, with the paged list of batches that it reads.
-/

namespace QorechainRdk
namespace Health

open Js

/-- A batch of the rollup, with the record that the node serves and its view. -/
structure RollupBatch where
  index : Nat
  record : RawRecord
  view : BatchView
  indexed : SpellsIndex (record.lookup "batch_index") index
  mapped : mapBatchView record = .ok view

/-- The rollup has the batches 0 to `n`. -/
def Numbered (n : Nat) (batches : List RollupBatch) : Prop := batches.map RollupBatch.index = List.range (n + 1)

/-- The batches that wait are the last ones, and no more than the chain lets wait. -/
def LastWait (n : Nat) (batches : List RollupBatch) : Prop :=
  ∃ k : Nat, k ≤ MAX_PENDING_OPTIMISTIC_BATCHES ∧ ∀ b ∈ batches, pending b.view = true ↔ n < b.index + k

/-- The page request at `s` is answered with the next batches from `s` on, as many as the node likes. -/
def AnswersFrom (fetch : FetchLike) (baseUrl rollupId : String) (batches : List RollupBatch) (size : Int → Nat)
    (s : Int) : Prop :=
  let left := Paging.ahead (fun b => (b.index : Int)) batches s
  ServesPage fetch baseUrl rollupId (toString s) ((left.take (size s)).map RollupBatch.view)
    (nextOf RollupBatch.index (left.drop (size s)))

/-- The snapshot comes to the check of the earlier batches. -/
structure ReachesOrderCheck (reads : HealthReads) (options : HealthOptions) (rollup : RollupStatusView)
    (latest : BatchView) (tip : ChainTip) (secs : Int) : Prop where
  rollupRead : reads.rollup = .ok rollup
  latestRead : reads.latestBatch = .ok latest
  height : latest.submittedAt ≠ 0
  submitted : latest.status = "submitted"
  tipKnown : (resolveTip reads options).1 = some tip
  window : windowSecs reads options rollup = .ok secs
  finalizable : (batchChallengeWindow latest secs tip).finalizable = true
  challengeSettlement : reads.challengeSettlement = .ok true

/-- The one of the waiting batches before `n` that has the smallest index. -/
def IsOldestBefore (n : Nat) (batches : List RollupBatch) : Option HeldBackBy → Prop
  | none => ∀ b ∈ batches, b.index < n → pending b.view = false
  | some blocker => ∃ b ∈ batches, b.index < n ∧ pending b.view = true ∧
      (∀ c ∈ batches, c.index < n → pending c.view = true → b.index ≤ c.index) ∧
      blocker.batchIndex = b.index ∧ blocker.status = b.view.status

section
variable {reads : HealthReads} {options : HealthOptions} {rollup : RollupStatusView} {latest : BatchView}
  {tip : ChainTip} {secs : Int}

/-- At the check, the snapshot says what the search for the oldest batch says. -/
theorem pendingHealth_checked (reaches : ReachesOrderCheck reads options rollup latest tip secs)
    {blocker : Option HeldBackBy} (found : oldestUnsettledBefore reads latest.batchIndex = .ok blocker)
    {health : RollupHealth} (blank : health.heldBackBy = none) :
    ∃ result, pendingHealth reads options rollup latest (some tip) health = .ok result ∧
      result.heldBackBy = blocker := by
  unfold pendingHealth
  rw [reaches.window, ok_bind, found]
  dsimp only
  rw [if_pos ⟨reaches.submitted, by simpa using reaches.finalizable⟩, reaches.challengeSettlement, ok_bind, if_pos rfl,
    ok_bind]
  cases blocker with
  | none => exact ⟨_, rfl, blank⟩
  | some blocker => exact ⟨_, rfl, rfl⟩

theorem getRollupHealth_checked (rollupId : String) (reaches : ReachesOrderCheck reads options rollup latest tip secs)
    {blocker : Option HeldBackBy} (found : oldestUnsettledBefore reads latest.batchIndex = .ok blocker) :
    ∃ health, getRollupHealth reads options rollupId = .ok health ∧ health.heldBackBy = blocker := by
  have waiting : pending latest = true := by
    unfold pending
    rw [reaches.submitted]
    rfl
  unfold getRollupHealth
  rw [reaches.rollupRead, ok_bind, reaches.latestRead]
  dsimp only
  rw [if_neg reaches.height]
  unfold batchHealth
  dsimp only
  rw [if_pos waiting, reaches.tipKnown]
  exact pendingHealth_checked reaches found rfl

/-! ### The search -/

theorem RollupBatch.view_index {b : RollupBatch} (small : b.index ≤ 2 ^ 53) : b.view.batchIndex = b.index :=
  mapped_index b.indexed (num_of_spelled_exact (by omega)
    (Rounding.nearest_eq_iff.mpr (Rounding.representable_of_le (by decide) small)) b.indexed).1 b.mapped

variable {batches : List RollupBatch} {n : Nat}

theorem Numbered.ordered (numbered : Numbered n batches) :
    Paging.Ordered (fun b : RollupBatch => (b.index : Int)) batches := by
  have increasing : (batches.map RollupBatch.index).Pairwise (· < ·) := by
    rw [numbered]
    exact List.pairwise_lt_range
  rw [List.pairwise_map] at increasing
  exact increasing.imp fun less => Int.ofNat_lt.mpr less

theorem Numbered.index_le (numbered : Numbered n batches) {b : RollupBatch} (member : b ∈ batches) : b.index ≤ n := by
  have inside : b.index ∈ List.range (n + 1) := by
    rw [← numbered]
    exact List.mem_map_of_mem member
  have bound := List.mem_range.mp inside
  omega

/-- From `s` on there are the batches `s` to `n`. -/
theorem Numbered.ahead_indexes (numbered : Numbered n batches) {s : Nat} (inside : s ≤ n) :
    (Paging.ahead (fun b : RollupBatch => (b.index : Int)) batches s).map RollupBatch.index =
      List.range' s (n + 1 - s) := by
  have cut : List.range (n + 1) = List.range' 0 s ++ List.range' s (n + 1 - s) := by
    have append := @List.range'_append_1 0 s (n + 1 - s)
    rw [Nat.zero_add] at append
    rw [append, List.range_eq_range', Nat.add_sub_cancel' (by omega)]
  have below : (List.range' 0 s).filter (fun i : Nat => decide ((s : Int) ≤ i)) = [] := by
    rw [List.filter_eq_nil_iff]
    intro i member
    rw [List.mem_range'_1] at member
    rw [decide_eq_true_iff]
    omega
  have from_there : (List.range' s (n + 1 - s)).filter (fun i : Nat => decide ((s : Int) ≤ i)) =
      List.range' s (n + 1 - s) := by
    rw [List.filter_eq_self]
    intro i member
    rw [List.mem_range'_1] at member
    rw [decide_eq_true_iff]
    omega
  have kept : (Paging.ahead (fun b : RollupBatch => (b.index : Int)) batches s).map RollupBatch.index =
      (batches.map RollupBatch.index).filter (fun i : Nat => decide ((s : Int) ≤ i)) := by
    rw [List.filter_map]
    rfl
  rw [kept, numbered, cut, List.filter_append, below, from_there, List.nil_append]

theorem Numbered.ahead_length (numbered : Numbered n batches) {s : Nat} (inside : s ≤ n) :
    (Paging.ahead (fun b : RollupBatch => (b.index : Int)) batches s).length = n + 1 - s := by
  have length := congrArg List.length (numbered.ahead_indexes inside)
  rw [List.length_map, List.length_range'] at length
  exact length

theorem Numbered.next (numbered : Numbered n batches) {s : Nat} (inside : s ≤ n) (k : Nat) :
    nextOf RollupBatch.index ((Paging.ahead (fun b : RollupBatch => (b.index : Int)) batches s).drop k) =
      if n + 1 - s - k = 0 then 0 else s + k := by
  unfold nextOf
  rw [← List.head?_map, List.map_drop, numbered.ahead_indexes inside, List.drop_range', List.head?_range',
    Nat.mul_one]
  split
  · rfl
  · rfl

/-- What stands first in a sorted list has the smallest key. -/
theorem mergeSort_first {α : Type} (key : α → Int) (items : List α) :
    match (items.mergeSort fun a b => decide (key a ≤ key b)).head? with
    | none => items = []
    | some a => a ∈ items ∧ ∀ b ∈ items, key a ≤ key b := by
  have trans : ∀ a b c, decide (key a ≤ key b) = true → decide (key b ≤ key c) = true →
      decide (key a ≤ key c) = true := by
    intro a b c
    simp only [decide_eq_true_eq]
    exact Int.le_trans
  have total : ∀ a b, (decide (key a ≤ key b) || decide (key b ≤ key a)) = true := by
    intro a b
    simp only [Bool.or_eq_true, decide_eq_true_eq]
    exact Int.le_total _ _
  have sorted := List.pairwise_mergeSort trans total items
  have same := List.mergeSort_perm items fun a b => decide (key a ≤ key b)
  cases first : items.mergeSort fun a b => decide (key a ≤ key b) with
  | nil =>
    rw [first] at same
    exact same.symm.eq_nil
  | cons a rest =>
    rw [first] at same sorted
    refine ⟨same.mem_iff.mp List.mem_cons_self, ?_⟩
    intro b member
    rcases List.mem_cons.mp (same.mem_iff.mpr member) with rfl | later
    · exact Int.le_refl _
    · exact of_decide_eq_true ((List.pairwise_cons.mp sorted).1 b later)

/-- The search finds the oldest waiting batch in any list that holds all of those before `n`. -/
theorem oldestUnsettledBefore_found {listed : List BatchView}
    (read : reads.batchesFrom (max 0 (n - MAX_PENDING_OPTIMISTIC_BATCHES)) = .ok listed)
    (views : ∀ v ∈ listed, ∃ b ∈ batches, b.view = v) (indexes : ∀ b ∈ batches, b.view.batchIndex = b.index)
    (complete : ∀ b ∈ batches, b.index < n → pending b.view = true → b.view ∈ listed) :
    ∃ blocker, oldestUnsettledBefore reads n = .ok blocker ∧ IsOldestBefore n batches blocker := by
  have member : ∀ v, v ∈ listed.filter (fun b => decide (b.batchIndex < (n : Int)) && pending b) ↔
      v ∈ listed ∧ v.batchIndex < n ∧ pending v = true := by
    intro v
    rw [List.mem_filter, Bool.and_eq_true, decide_eq_true_iff]
  have first := mergeSort_first BatchView.batchIndex
    (listed.filter fun b => decide (b.batchIndex < (n : Int)) && pending b)
  unfold oldestUnsettledBefore
  rw [read, ok_bind]
  refine ⟨_, rfl, ?_⟩
  split at first
  · rename_i none_waits
    rw [none_waits]
    intro b held before
    cases waits : pending b.view with
    | false => rfl
    | true =>
      have found := (member b.view).mpr ⟨complete b held before waits, by rw [indexes b held]; omega, waits⟩
      rw [first] at found
      cases found
  · rename_i v head
    rw [head]
    obtain ⟨inside, least⟩ := first
    obtain ⟨served, before, waits⟩ := (member v).mp inside
    obtain ⟨b, held, rfl⟩ := views v served
    rw [indexes b held] at before
    refine ⟨b, held, by omega, waits, ?_, indexes b held, rfl⟩
    intro c other earlier pends
    have smaller := least c.view ((member c.view).mpr ⟨complete c other earlier pends,
      by rw [indexes c other]; omega, pends⟩)
    rw [indexes b held, indexes c other] at smaller
    omega

/-! ### The list that is searched -/

variable {fetch : FetchLike} {baseUrl rollupId : String} {size : Int → Nat}

/-- Whatever pages the node cuts, the list has every batch from the start on. -/
theorem listBatches_from (numbered : Numbered n batches) (sizes : ∀ s, 1 ≤ size s) {start : Nat} (inside : start ≤ n)
    (few : n + 1 - start < MAX_PAGES)
    (exact : start ≤ 2 ^ 53) (server : ∀ s : Nat, s ≤ n → s ≤ 2 ^ 53 →
      Pages fetch baseUrl rollupId RollupBatch.index RollupBatch.view batches size s) :
    listBatches fetch baseUrl rollupId (some (.integer start)) =
      .ok ((Paging.ahead (fun b : RollupBatch => (b.index : Int)) batches start).map RollupBatch.view) := by
  have asked : ∀ s' : Int, s' = start ∨ (∃ b ∈ batches, s' = b.index ∧ b.index ≤ 2 ^ 53) →
      Pages fetch baseUrl rollupId RollupBatch.index RollupBatch.view batches size s' := by
    intro s' asked
    rcases asked with rfl | ⟨b, held, rfl, small⟩
    · exact server start inside exact
    · exact server b.index (numbered.index_le held) small
  exact listBatchesLoop_complete numbered.ordered sizes asked
    (Paging.within_of_length sizes (by rw [numbered.ahead_length inside]; exact few))

/-- The client asks for an index up to 2^53 by its decimal text. -/
theorem AnswersFrom.asked {s : Nat} (exact : s ≤ 2 ^ 53) (server : AnswersFrom fetch baseUrl rollupId batches size s)
    (next : nextOf RollupBatch.index ((Paging.ahead (fun b : RollupBatch => (b.index : Int)) batches s).drop
      (size s)) ≤ 2 ^ 53) :
    Pages fetch baseUrl rollupId RollupBatch.index RollupBatch.view batches size s := by
  refine ⟨?_, next⟩
  rw [startText_exact (by omega) (by omega)]
  exact server

theorem AnswersFrom.pages (numbered : Numbered n batches) (small : n ≤ 2 ^ 53) {s : Nat} (inside : s ≤ n)
    (server : AnswersFrom fetch baseUrl rollupId batches size s) :
    Pages fetch baseUrl rollupId RollupBatch.index RollupBatch.view batches size s := by
  have bound : ∀ left : List RollupBatch, (∀ b ∈ left, b ∈ batches) → nextOf RollupBatch.index left ≤ n := by
    intro left held
    cases left with
    | nil => exact Nat.zero_le n
    | cons b left => exact numbered.index_le (held b List.mem_cons_self)
  have next := bound ((Paging.ahead (fun b : RollupBatch => (b.index : Int)) batches s).drop (size s)) (by
    intro b left
    exact (Paging.mem_ahead.mp (List.mem_of_mem_drop left)).1)
  exact server.asked (inside.trans small) (next.trans small)

/-- Where the check of the earlier batches is made, it names the oldest one that waits, and none if none waits. -/
theorem heldBackBy_oldest {latestBatch : RollupBatch} (numbered : Numbered n batches) (small : n ≤ 2 ^ 53)
    (held : latestBatch ∈ batches) (last : latestBatch.index = n) (lastWait : LastWait n batches)
    (sizes : ∀ s, 1 ≤ size s ∧ size s ≤ 100)
    (server : ∀ s : Nat, s ≤ n → AnswersFrom fetch baseUrl rollupId batches size s)
    (list : reads.batchesFrom = fun s => listBatches fetch baseUrl rollupId (some (.integer s)))
    (reaches : ReachesOrderCheck reads options rollup latestBatch.view tip secs) :
    ∃ health, getRollupHealth reads options rollupId = .ok health ∧
      IsOldestBefore n batches health.heldBackBy := by
  have start : max 0 ((n : Int) - MAX_PENDING_OPTIMISTIC_BATCHES) = ((n - 4096 : Nat) : Int) := by
    unfold MAX_PENDING_OPTIMISTIC_BATCHES
    omega
  have indexes : ∀ b ∈ batches, b.view.batchIndex = b.index := fun b member =>
    b.view_index ((numbered.index_le member).trans small)
  have read : reads.batchesFrom (max 0 (n - MAX_PENDING_OPTIMISTIC_BATCHES)) = .ok
      ((Paging.ahead (fun b : RollupBatch => (b.index : Int)) batches ((n - 4096 : Nat) : Int)).map
        RollupBatch.view) := by
    rw [list, start]
    refine listBatches_from numbered (fun s => (sizes s).1) (Nat.sub_le n 4096) ?_ (by omega) ?_
    · unfold MAX_PAGES
      omega
    · intro s within _
      exact (server s within).pages numbered small within
  obtain ⟨k, most, waits⟩ := lastWait
  have found : ∃ blocker, oldestUnsettledBefore reads n = .ok blocker ∧ IsOldestBefore n batches blocker := by
    refine oldestUnsettledBefore_found read ?_ indexes ?_
    · intro v served
      obtain ⟨b, ahead, same⟩ := List.mem_map.mp served
      exact ⟨b, (Paging.mem_ahead.mp ahead).1, same⟩
    · intro b member before pends
      have recent := (waits b member).mp pends
      refine List.mem_map_of_mem (Paging.mem_ahead.mpr ⟨member, ?_⟩)
      unfold MAX_PENDING_OPTIMISTIC_BATCHES at most
      omega
  obtain ⟨blocker, search, oldest⟩ := found
  rw [← last, ← indexes latestBatch held] at search
  obtain ⟨health, result, same⟩ := getRollupHealth_checked rollupId reaches search
  exact ⟨health, result, same ▸ oldest⟩

end

/-! ### A node that pages by text -/

section
variable (status : Nat → String)

def textRecord (i : Nat) : RawRecord :=
  [("batch_index", .string (toString i)), ("status", .string (status i)), ("submitted_at", .number (.integer 100))]

def textView (i : Nat) : BatchView where
  batchIndex := Rounding.nearest 53 i
  stateRoot := ""
  prevStateRoot := ""
  txCount := 0
  dataHash := ""
  status := status i
  submittedAt := 100
  finalizedAt := 0
  withdrawalsRoot := ""
  submittedTime := 0

theorem textRecord_mapped {i : Nat} (wide : i < 2 ^ 64) :
    mapBatchView (textRecord status i) = .ok (textView status i) := by
  have index : pick (textRecord status i) ["batch_index", "batchIndex"] = some (.string (toString i)) := rfl
  unfold mapBatchView
  rw [index, num_toString wide, ok_bind]
  rfl

/-- The batch of an index, with its number as text. -/
def textBatch (i : Nat) (wide : i < 2 ^ 64) : RollupBatch where
  index := i
  record := textRecord status i
  view := textView status i
  indexed := Or.inl rfl
  mapped := textRecord_mapped status wide

variable {n : Nat} (wide : n < 2 ^ 64)

def textBatches : List RollupBatch :=
  (List.range (n + 1)).pmap (textBatch status) fun i member => by
    have bound := List.mem_range.mp member
    omega

theorem textBatches_numbered : Numbered n (textBatches status wide) := by
  unfold Numbered textBatches
  rw [List.map_pmap]
  exact (List.pmap_eq_map _).trans (List.map_id _)

theorem mem_textBatches {b : RollupBatch} :
    b ∈ textBatches status wide ↔ ∃ i small, i ≤ n ∧ textBatch status i small = b := by
  unfold textBatches
  rw [List.mem_pmap]
  constructor
  · rintro ⟨i, member, rfl⟩
    exact ⟨i, _, Nat.lt_succ_iff.mp (List.mem_range.mp member), rfl⟩
  · rintro ⟨i, _, within, rfl⟩
    exact ⟨i, List.mem_range.mpr (Nat.lt_succ_iff.mpr within), rfl⟩

variable (size : Int → Nat)

def textPage (s : Nat) : HttpResponse :=
  let left := Paging.ahead (fun b : RollupBatch => (b.index : Int)) (textBatches status wide) s
  { ok := true
    status := 200
    statusText := "OK"
    json := .ok (.object [("batches", .array (((left.take (size s)).map RollupBatch.record).map Json.object)),
      ("next_index", .string (toString (nextOf RollupBatch.index (left.drop (size s)))))]) }

def textNode : FetchLike := fun url =>
  match (List.range (n + 1)).find? fun s : Nat => url = pageUrl "" "r" (toString (s : Int)) with
  | some s => .ok (textPage status wide size s)
  | none => fail "not found"

theorem pageUrl_inj {s t : Nat} (same : pageUrl "" "r" (toString (s : Int)) = pageUrl "" "r" (toString (t : Int))) :
    s = t := by
  have chars := congrArg String.toList same
  unfold pageUrl at chars
  simp only [String.toList_append] at chars
  have query := List.append_cancel_left (List.append_cancel_left chars)
  have digits := List.append_cancel_left (List.append_cancel_right query)
  have read := congrArg stringToBigInt (String.toList_inj.mp digits)
  have value : ∀ m : Nat, stringToBigInt (toString (m : Int)) = some (m : Int) := stringToBigInt_toString
  rw [value, value] at read
  exact Int.ofNat.inj (Option.some.inj read)

theorem textNode_page {s : Nat} (within : s ≤ n) :
    textNode status wide size (pageUrl "" "r" (toString (s : Int))) = .ok (textPage status wide size s) := by
  unfold textNode
  cases found : (List.range (n + 1)).find? fun t : Nat =>
      pageUrl "" "r" (toString (s : Int)) = pageUrl "" "r" (toString (t : Int)) with
  | none =>
    have missing := List.find?_eq_none.mp found s (List.mem_range.mpr (Nat.lt_succ_iff.mpr within))
    simp at missing
  | some t =>
    have same := List.find?_some found
    rw [decide_eq_true_iff] at same
    rw [pageUrl_inj same]

theorem textNode_answers {s : Nat} (within : s ≤ n) :
    AnswersFrom (textNode status wide size) "" "r" (textBatches status wide) size s := by
  have mapped : ∀ page : List RollupBatch,
      (page.map RollupBatch.record).mapM mapBatchView = .ok (page.map RollupBatch.view) := by
    intro page
    induction page with
    | nil => rfl
    | cons b page ih =>
      rw [List.map_cons, List.mapM_cons, b.mapped, ok_bind, ih]
      rfl
  exact ⟨textPage status wide size s, _, _, textNode_page status wide size within, rfl, rfl, rfl, mapped _,
    Or.inl rfl⟩

/-- A rollup whose window in blocks has long passed. -/
def textReads : HealthReads where
  rollup := .ok { creator := "", daBackend := "", layerId := "", challengeWindowSec := some 60, status := "active" }
  latestBatch := .ok (textView status n)
  tip := .ok { height := 1000, timeSecs := 0 }
  params := fail "not found"
  challengeSettlement := .ok true
  batchesFrom := fun s => listBatches (textNode status wide size) "" "r" (some (.integer s))

theorem textReads_reaches (submitted : status n = "submitted") :
    ReachesOrderCheck (textReads status wide size) {}
      { creator := "", daBackend := "", layerId := "", challengeWindowSec := some 60, status := "active" }
      (textView status n) { height := 1000, timeSecs := 0 } 60 where
  rollupRead := rfl
  latestRead := rfl
  height := by
    show (100 : Int) ≠ 0
    decide
  submitted := submitted
  tipKnown := rfl
  window := rfl
  finalizable := rfl
  challengeSettlement := rfl

end

/-- All batches from `first` on wait. -/
def waitingFrom (first i : Nat) : String := if i < first then "finalized" else "submitted"

theorem pending_waitingFrom {first i : Nat} : pending (textView (waitingFrom first) i) = true ↔ first ≤ i := by
  unfold pending textView waitingFrom
  by_cases settled : i < first
  · simp [settled]
  · simp only [settled, if_false, beq_self_eq_true, Bool.true_or, true_iff]
    omega

theorem waitingFrom_lastWait {n first : Nat} (wide : n < 2 ^ 64) (inside : first ≤ n) (most : n < first + 4096) :
    LastWait n (textBatches (waitingFrom first) wide) := by
  refine ⟨n + 1 - first, ?_, ?_⟩
  · unfold MAX_PENDING_OPTIMISTIC_BATCHES
    omega
  · intro b member
    obtain ⟨i, small, within, rfl⟩ := (mem_textBatches _ wide).mp member
    have index : (textBatch (waitingFrom first) i small).index = i := rfl
    rw [index]
    refine pending_waitingFrom.trans ?_
    omega

theorem heldBackBy_oldest_sample :
    ∃ health, getRollupHealth (textReads (waitingFrom 1) (show 2 < 2 ^ 64 by decide) fun _ => 1) {} "r" = .ok health ∧
      IsOldestBefore 2 (textBatches (waitingFrom 1) (show 2 < 2 ^ 64 by decide)) health.heldBackBy := by
  have wide : 2 < 2 ^ 64 := by decide
  have held := (mem_textBatches (waitingFrom 1) wide).mpr ⟨2, wide, Nat.le_refl 2, rfl⟩
  exact heldBackBy_oldest (textBatches_numbered _ wide) (by decide) held rfl
    (waitingFrom_lastWait wide (by decide) (by decide)) (fun _ => ⟨Nat.le_refl 1, by decide⟩)
    (fun s within => textNode_answers _ wide _ within) rfl (textReads_reaches _ wide _ rfl)

/-! ### An index that no double holds -/

/-- The page at 2^53 is the last one. -/
def lastTwo (s : Int) : Nat := if s = 2 ^ 53 then 2 else 1

theorem wide_index : 2 ^ 53 + 1 < 2 ^ 64 := by decide

/-- The pages name no index beyond 2^53. -/
theorem lastTwo_pages {s : Nat} (within : s ≤ 2 ^ 53 + 1) (exact : s ≤ 2 ^ 53) :
    Pages (textNode (waitingFrom (2 ^ 53)) wide_index lastTwo) "" "r" RollupBatch.index RollupBatch.view
      (textBatches (waitingFrom (2 ^ 53)) wide_index) lastTwo s := by
  have next := (textBatches_numbered (waitingFrom (2 ^ 53)) wide_index).next within (lastTwo s)
  have small : nextOf RollupBatch.index ((Paging.ahead (fun b : RollupBatch => (b.index : Int))
      (textBatches (waitingFrom (2 ^ 53)) wide_index) s).drop (lastTwo s)) ≤ 2 ^ 53 := by
    rw [next]
    unfold lastTwo
    split
    · split
      · omega
      · omega
    · split
      · omega
      · omega
  exact (textNode_answers _ wide_index _ within).asked exact small

/-- The latest index, and the one before it, are both read as 2^53. -/
theorem nearest_odd : Rounding.nearest 53 (2 ^ 53 + 1) = 2 ^ 53 := by decide

theorem nothing_found : oldestUnsettledBefore (textReads (waitingFrom (2 ^ 53)) wide_index lastTwo)
    (textView (waitingFrom (2 ^ 53)) (2 ^ 53 + 1)).batchIndex = .ok none := by
  have numbered := textBatches_numbered (waitingFrom (2 ^ 53)) wide_index
  have index : (textView (waitingFrom (2 ^ 53)) (2 ^ 53 + 1)).batchIndex = ((2 ^ 53 : Nat) : Int) :=
    congrArg Int.ofNat nearest_odd
  have start : max 0 (((2 ^ 53 : Nat) : Int) - MAX_PENDING_OPTIMISTIC_BATCHES) = ((2 ^ 53 - 4096 : Nat) : Int) := by
    unfold MAX_PENDING_OPTIMISTIC_BATCHES
    omega
  have sizes : ∀ s, 1 ≤ lastTwo s := by
    intro s
    unfold lastTwo
    split
    · decide
    · decide
  have few : 2 ^ 53 + 1 + 1 - (2 ^ 53 - 4096) < MAX_PAGES := by
    unfold MAX_PAGES
    omega
  have read := listBatches_from numbered sizes (show 2 ^ 53 - 4096 ≤ 2 ^ 53 + 1 by omega) few (by omega)
    (fun s within exact => lastTwo_pages within exact)
  have empty : ∀ listed : List BatchView, (∀ v ∈ listed, ∃ i, v = textView (waitingFrom (2 ^ 53)) i ∧
      i ≤ 2 ^ 53 + 1) → listed.filter (fun b => decide (b.batchIndex < ((2 ^ 53 : Nat) : Int)) && pending b) = [] := by
    intro listed served
    rw [List.filter_eq_nil_iff]
    intro v member
    obtain ⟨i, rfl, within⟩ := served v member
    rw [Bool.and_eq_true, decide_eq_true_iff, pending_waitingFrom]
    rintro ⟨below, waits⟩
    have rounded : Rounding.nearest 53 i = 2 ^ 53 := by
      rcases waits.lt_or_eq with above | rfl
      · rw [show i = 2 ^ 53 + 1 by omega]
        exact nearest_odd
      · exact Rounding.nearest_eq_iff.mpr (Rounding.representable_of_le (by decide) (Nat.le_refl _))
    have small : Rounding.nearest 53 i < 2 ^ 53 := Int.ofNat_lt.mp below
    omega
  unfold oldestUnsettledBefore
  rw [index, start]
  show (listBatches _ "" "r" _ >>= _) = _
  rw [read, ok_bind, empty]
  · simp [pure, Except.pure]
  · intro v listed
    obtain ⟨b, ahead, rfl⟩ := List.mem_map.mp listed
    obtain ⟨i, _, within, rfl⟩ := (mem_textBatches _ _).mp (Paging.mem_ahead.mp ahead).1
    exact ⟨i, rfl, within⟩

/-- Two batches wait, and the snapshot names none before the latest. -/
theorem odd_index_missed :
    ¬∀ (n : Nat) (batches : List RollupBatch) (latestBatch : RollupBatch) (fetch : FetchLike)
      (baseUrl rollupId : String) (size : Int → Nat) (reads : HealthReads) (options : HealthOptions)
      (rollup : RollupStatusView) (tip : ChainTip) (secs : Int),
      Numbered n batches → latestBatch ∈ batches → latestBatch.index = n → LastWait n batches →
      (∀ s, 1 ≤ size s ∧ size s ≤ 100) →
      (∀ s : Nat, s ≤ n → AnswersFrom fetch baseUrl rollupId batches size s) →
      (reads.batchesFrom = fun s => listBatches fetch baseUrl rollupId (some (.integer s))) →
      ReachesOrderCheck reads options rollup latestBatch.view tip secs →
      ∃ health, getRollupHealth reads options rollupId = .ok health ∧
        IsOldestBefore n batches health.heldBackBy := by
  intro every
  have numbered := textBatches_numbered (waitingFrom (2 ^ 53)) wide_index
  have held := (mem_textBatches (waitingFrom (2 ^ 53)) wide_index).mpr ⟨_, wide_index, Nat.le_refl _, rfl⟩
  have sizes : ∀ s, 1 ≤ lastTwo s ∧ lastTwo s ≤ 100 := by
    intro s
    unfold lastTwo
    split
    · decide
    · decide
  have submitted : waitingFrom (2 ^ 53) (2 ^ 53 + 1) = "submitted" := by
    unfold waitingFrom
    rw [if_neg (by omega)]
  have reaches := textReads_reaches (waitingFrom (2 ^ 53)) wide_index lastTwo submitted
  obtain ⟨health, result, oldest⟩ := every _ _ _ _ "" "r" _ (textReads (waitingFrom (2 ^ 53)) wide_index lastTwo) {}
    _ _ _ numbered held rfl (waitingFrom_lastWait wide_index (by omega) (by omega)) sizes
    (fun s within => textNode_answers _ wide_index _ within) rfl reaches
  obtain ⟨health', result', none_named⟩ := getRollupHealth_checked "r" reaches nothing_found
  rw [result] at result'
  cases result'
  rw [none_named] at oldest
  have before := (mem_textBatches (waitingFrom (2 ^ 53)) wide_index).mpr ⟨2 ^ 53, by omega, by omega, rfl⟩
  have settled : pending (textView (waitingFrom (2 ^ 53)) (2 ^ 53)) = false := oldest _ before (Nat.lt_succ_self _)
  rw [pending_waitingFrom.mpr (Nat.le_refl _)] at settled
  cases settled

end Health
end QorechainRdk
