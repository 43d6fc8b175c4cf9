import QorechainRdk.Health.Model
import QorechainRdk.Go.Health

/-!
# What a snapshot says about a rollup's batches

A rollup has a latest batch on chain or none. A snapshot should see no batch only where there is none, and a
rollup whose latest batch was rejected should not look healthy.
-/

namespace QorechainRdk
namespace Health

open Js

/-- A rollup's latest batch on chain. -/
structure ChainBatch where
  status : String
  submittedAt : Int
  positive : 0 < submittedAt

/-- A record that the node serves is the chain's batch, or a blank one where there is none. -/
def Reports (latest : Option ChainBatch) (status : String) (submittedAt : Int) : Prop :=
  match latest with
  | some batch => status = batch.status ∧ submittedAt = batch.submittedAt
  | none => submittedAt = 0

structure Truthful (latest : Option ChainBatch) (hasBatches healthy : Bool) : Prop where
  noBatches : hasBatches = false → latest = none
  rejected : ∀ batch, latest = some batch → batch.status = "rejected" → healthy = false

/-- The reads that decide whether a batch is seen: a failure of the first one is raised. -/
def LatestRead (latest : Option ChainBatch) {α β : Type} (rollup : Except JsError α)
    (latestBatch : Except JsError β) : Prop :=
  (∃ e, rollup = .error e) ∨ latest = none ∨ ∃ batch, latestBatch = .ok batch

section
variable {latest : Option ChainBatch} {status : String} {submittedAt : Int} {hasBatches healthy : Bool}

theorem truthful_none : Truthful none hasBatches healthy := by
  constructor
  · intro _
    rfl
  · intro batch held
    cases held

theorem not_truthful_some {batch : ChainBatch} : ¬ Truthful (some batch) false healthy := by
  intro truthful
  cases truthful.noBatches rfl

theorem truthful_blank (reports : Reports latest status 0) : Truthful latest hasBatches healthy := by
  cases latest with
  | none => exact truthful_none
  | some batch =>
    obtain ⟨-, height⟩ := reports
    have := batch.positive
    omega

theorem truthful_seen (reports : Reports latest status submittedAt)
    (rejected : status = "rejected" → healthy = false) : Truthful latest true healthy := by
  constructor
  · intro same
    cases same
  · intro batch held rejection
    subst held
    exact rejected (reports.1.trans rejection)

end

/-! ## TypeScript -/

section
variable {reads : HealthReads} {options : HealthOptions} {rollup : RollupStatusView} {batch : BatchView}
  {tip : Option ChainTip} {health result : RollupHealth} {rollupId : String}
  {latest : Option ChainBatch}

theorem pendingHealth_kept (returned : pendingHealth reads options rollup batch tip health = .ok result) :
    result.hasBatches = health.hasBatches ∧ result.healthy = health.healthy := by
  unfold pendingHealth at returned
  obtain ⟨secs, -, returned⟩ := bind_ok returned
  dsimp only at returned
  split at returned
  · obtain ⟨enabled, -, returned⟩ := bind_ok returned
    split at returned
    · obtain ⟨blocker, -, returned⟩ := bind_ok returned
      cases blocker with
      | none => cases returned; exact ⟨rfl, rfl⟩
      | some b => cases returned; exact ⟨rfl, rfl⟩
    · cases returned
      exact ⟨rfl, rfl⟩
  · cases returned
    exact ⟨rfl, rfl⟩

theorem batchHealth_seen (returned : batchHealth reads options rollup batch health = .ok result) :
    result.hasBatches = true ∧ (batch.status = "rejected" → result.healthy = false) := by
  have kept : result.hasBatches = true ∧
      result.healthy = (health.healthy && !(batch.status == "rejected")) := by
    unfold batchHealth at returned
    dsimp only at returned
    split at returned
    · exact pendingHealth_kept returned
    · cases returned
      exact ⟨rfl, rfl⟩
  refine ⟨kept.1, ?_⟩
  intro rejected
  rw [kept.2, rejected]
  simp

/-- A snapshot tells the truth about the batches exactly when the latest one was read, or there is none. -/
theorem getRollupHealth_truthful_iff
    (served : ∀ batch, reads.latestBatch = .ok batch → Reports latest batch.status batch.submittedAt) :
    (∀ health, getRollupHealth reads options rollupId = .ok health →
      Truthful latest health.hasBatches health.healthy) ↔
    LatestRead latest reads.rollup reads.latestBatch := by
  unfold getRollupHealth
  cases found : reads.rollup with
  | error e =>
    refine iff_of_true ?_ (Or.inl ⟨e, rfl⟩)
    intro health returned
    cases returned
  | ok rollup =>
    rw [ok_bind]
    cases read : reads.latestBatch with
    | error e =>
      constructor
      · intro truthful
        cases latest with
        | none => exact Or.inr (Or.inl rfl)
        | some batch => exact absurd (truthful _ rfl) not_truthful_some
      · rintro (⟨e', same⟩ | rfl | ⟨batch, same⟩)
        · cases same
        · intro health _
          exact truthful_none
        · cases same
    | ok batch =>
      refine iff_of_true ?_ (Or.inr (Or.inr ⟨batch, rfl⟩))
      intro health returned
      have reports := served batch read
      dsimp only at returned
      split at returned
      · rename_i blank
        rw [blank] at reports
        exact truthful_blank reports
      · obtain ⟨seen, rejected⟩ := batchHealth_seen returned
        rw [seen]
        exact truthful_seen reports rejected

end

/-! ## Go -/

section
variable {reads : Go.HealthReads} {options : Go.HealthOptions} {rollup : Go.RollupView} {batch : Go.BatchView}
  {tip : Option ChainTip} {health : Go.RollupHealth} {rollupId : String} {latest : Option ChainBatch}

theorem go_pendingHealth_hasBatches :
    (Go.pendingHealth reads options rollup batch tip health).hasBatches = health.hasBatches := by
  unfold Go.pendingHealth
  cases tip with
  | none =>
    dsimp only
    split
    · rfl
    · rfl
  | some t =>
    dsimp only
    split
    · split
      · rfl
      · rfl
    · split
      · rfl
      · rfl

theorem go_batchHealth_hasBatches : (Go.batchHealth reads options rollup batch health).hasBatches = true := by
  unfold Go.batchHealth
  dsimp only
  split
  · rw [go_pendingHealth_hasBatches]
    split
    · rfl
    · split
      · rfl
      · rfl
  · split
    · rfl
    · split
      · rfl
      · rfl

theorem go_batchHealth_rejected (rejected : batch.status = "rejected") :
    (Go.batchHealth reads options rollup batch health).healthy = false := by
  unfold Go.batchHealth
  dsimp only
  rw [rejected]
  simp

theorem go_getRollupHealth_truthful_iff
    (served : ∀ batch, reads.latestBatch = .ok batch → Reports latest batch.status batch.submittedAt) :
    (∀ health, Go.getRollupHealth reads options rollupId = .ok health →
      Truthful latest health.hasBatches health.healthy) ↔
    LatestRead latest reads.rollup reads.latestBatch := by
  unfold Go.getRollupHealth
  cases found : reads.rollup with
  | error e =>
    refine iff_of_true ?_ (Or.inl ⟨e, rfl⟩)
    intro health returned
    cases returned
  | ok rollup =>
    rw [ok_bind]
    cases read : reads.latestBatch with
    | error e =>
      constructor
      · intro truthful
        cases latest with
        | none => exact Or.inr (Or.inl rfl)
        | some batch => exact absurd (truthful _ rfl) not_truthful_some
      · rintro (⟨e', same⟩ | rfl | ⟨batch, same⟩)
        · cases same
        · intro health _
          exact truthful_none
        · cases same
    | ok batch =>
      refine iff_of_true ?_ (Or.inr (Or.inr ⟨batch, rfl⟩))
      intro health returned
      have reports := served batch read
      dsimp only at returned
      split at returned
      · rename_i blank
        rw [blank] at reports
        exact truthful_blank reports
      · cases returned
        rw [go_batchHealth_hasBatches]
        exact truthful_seen reports go_batchHealth_rejected

end

/-! ## A watch -/

/-- A tick with the rollup's latest batch at its time. -/
structure ChainPoll extends Go.Poll where
  latest : Option ChainBatch
  served : ∀ batch, reads.latestBatch = .ok batch → Reports latest batch.status batch.submittedAt

theorem cut_ok {poll : Go.Poll} {α : Type} {position : Nat} {read : Except JsError α} {a : α}
    (answered : poll.cut position read = .ok a) : read = .ok a := by
  unfold Go.Poll.cut at answered
  split at answered
  · cases answered
  · exact answered

theorem tick_update {rollupId : String} {poll : Go.Poll} {health : Go.RollupHealth} :
    Go.tick rollupId poll = .onUpdate health ↔
      Go.getRollupHealth poll.seen { nowSecs := poll.nowSecs } rollupId = .ok health := by
  unfold Go.tick
  cases Go.getRollupHealth poll.seen { nowSecs := poll.nowSecs } rollupId with
  | error e =>
    dsimp only
    split
    · simp
    · simp
  | ok health' => simp

theorem tick_truthful_iff (rollupId : String) (poll : ChainPoll) :
    (∀ health, Go.tick rollupId poll.toPoll = .onUpdate health →
      Truthful poll.latest health.hasBatches health.healthy) ↔
    LatestRead poll.latest poll.seen.rollup poll.seen.latestBatch := by
  rw [← go_getRollupHealth_truthful_iff fun batch read => poll.served batch (cut_ok read)]
  constructor
  · intro truthful health returned
    exact truthful health (tick_update.mpr returned)
  · intro truthful health updated
    exact truthful health (tick_update.mp updated)

/-- What a watch reports at a tick is what the tick gives by itself. -/
theorem watchRollup_tick {rollupId : String} {polls : List ChainPoll} {poll : ChainPoll}
    {result : Go.TickResult}
    (ticked : (poll, result) ∈ polls.zip (Go.watchRollup rollupId (polls.map ChainPoll.toPoll))) :
    result = Go.tick rollupId poll.toPoll := by
  induction polls with
  | nil => cases ticked
  | cons first rest ih =>
    rw [List.map_cons, Go.watchRollup, List.zip_cons_cons] at ticked
    rcases List.mem_cons.mp ticked with same | later
    · cases same
      rfl
    · split at later
      · rw [List.zip_nil_right] at later
        cases later
      · exact ih later

theorem watchRollup_truthful_iff {rollupId : String} {polls : List ChainPoll} :
    (∀ poll health, (poll, .onUpdate health) ∈
        polls.zip (Go.watchRollup rollupId (polls.map ChainPoll.toPoll)) →
      Truthful poll.latest health.hasBatches health.healthy) ↔
    ∀ poll result, (poll, result) ∈ polls.zip (Go.watchRollup rollupId (polls.map ChainPoll.toPoll)) →
      LatestRead poll.latest poll.seen.rollup poll.seen.latestBatch := by
  constructor
  · intro truthful poll result ticked
    rw [← tick_truthful_iff rollupId]
    intro health updated
    rw [watchRollup_tick ticked, updated] at ticked
    exact truthful poll health ticked
  · intro read poll health ticked
    exact (tick_truthful_iff rollupId poll).mpr (read poll _ ticked) health (watchRollup_tick ticked).symm

/-- In both languages, and in every run of a watch, a snapshot tells the truth about the batches exactly when
the latest one was read, or there is none, or the snapshot fails with the read of the rollup. -/
theorem snapshots_truthful_iff (rollupId : String) (latest : Option ChainBatch) (reads : HealthReads)
    (options : HealthOptions) (goReads : Go.HealthReads) (goOptions : Go.HealthOptions) (polls : List ChainPoll)
    (served : ∀ batch, reads.latestBatch = .ok batch → Reports latest batch.status batch.submittedAt)
    (goServed : ∀ batch, goReads.latestBatch = .ok batch → Reports latest batch.status batch.submittedAt) :
    ((∀ health, getRollupHealth reads options rollupId = .ok health →
        Truthful latest health.hasBatches health.healthy) ↔
      LatestRead latest reads.rollup reads.latestBatch) ∧
    ((∀ health, Go.getRollupHealth goReads goOptions rollupId = .ok health →
        Truthful latest health.hasBatches health.healthy) ↔
      LatestRead latest goReads.rollup goReads.latestBatch) ∧
    ((∀ poll health, (poll, .onUpdate health) ∈
          polls.zip (Go.watchRollup rollupId (polls.map ChainPoll.toPoll)) →
        Truthful poll.latest health.hasBatches health.healthy) ↔
      ∀ poll result, (poll, result) ∈
          polls.zip (Go.watchRollup rollupId (polls.map ChainPoll.toPoll)) →
        LatestRead poll.latest poll.seen.rollup poll.seen.latestBatch) := by
  refine ⟨?_, ?_, ?_⟩
  · exact getRollupHealth_truthful_iff served
  · exact go_getRollupHealth_truthful_iff goServed
  · exact watchRollup_truthful_iff

def rejectedBatch : ChainBatch where
  status := "rejected"
  submittedAt := 100
  positive := by decide

/-- A node that answers every read but that of the latest batch. -/
def latestDown : HealthReads where
  rollup := .ok { creator := "c", layerId := "l", status := "active" }
  latestBatch := .error ⟨"REST GET /qorechain/rdk/v1/batch/r/latest failed: 503 Service Unavailable"⟩
  tip := .ok { height := 200, timeSecs := 0 }
  params := .ok { defaultChallengeWindow := 604800 }
  challengeSettlement := .ok false
  batchesFrom := fun _ => .ok []

/-- A node that answers every read, to a watch that is stopped between the first two. -/
def stoppedPoll : ChainPoll where
  reads := {
    rollup := .ok { status := "active" }
    latestBatch := .ok { status := "rejected", submittedAt := 100 }
    tip := .ok { height := 200, timeSecs := 0 }
    params := .ok { defaultChallengeWindow := 604800 }
    challengeSettlement := .ok false
    batchesFrom := fun _ => .ok [] }
  cancelledAfter := some 1
  latest := some rejectedBatch
  served := by
    intro batch read
    cases read
    exact ⟨rfl, rfl⟩

/-- The same, to a watch that goes on. -/
def servedPoll : ChainPoll := { stoppedPoll with cancelledAfter := none }

theorem stopped_unread :
    ¬ LatestRead stoppedPoll.latest stoppedPoll.toPoll.seen.rollup stoppedPoll.toPoll.seen.latestBatch := by
  rintro (⟨e, same⟩ | same | ⟨batch, same⟩)
  · cases same
  · cases same
  · cases same

/-- A snapshot without the read, one with it, and a watch before and after the poll that it is stopped in. -/
theorem snapshots_truthful_iff_sample :
    (¬ ∀ health, getRollupHealth latestDown {} "r" = .ok health →
      Truthful (some rejectedBatch) health.hasBatches health.healthy) ∧
    (∀ health, Go.getRollupHealth stoppedPoll.reads {} "r" = .ok health →
      Truthful (some rejectedBatch) health.hasBatches health.healthy) ∧
    (∀ poll health, (poll, .onUpdate health) ∈ [servedPoll].zip (Go.watchRollup "r" [servedPoll.toPoll]) →
      Truthful poll.latest health.hasBatches health.healthy) ∧
    ¬ ∀ poll health, (poll, .onUpdate health) ∈
        [servedPoll, stoppedPoll].zip (Go.watchRollup "r" [servedPoll.toPoll, stoppedPoll.toPoll]) →
      Truthful poll.latest health.hasBatches health.healthy := by
  have settled (polls : List ChainPoll) := snapshots_truthful_iff "r" (some rejectedBatch) latestDown {}
    stoppedPoll.reads {} polls (fun batch read => by cases read) stoppedPoll.served
  refine ⟨?_, (settled []).2.1.mpr (Or.inr (Or.inr ⟨_, rfl⟩)), ?_, ?_⟩
  · rw [(settled []).1]
    rintro (⟨e, same⟩ | same | ⟨batch, same⟩)
    · cases same
    · cases same
    · cases same
  · apply (settled [servedPoll]).2.2.mpr
    intro poll result ticked
    obtain ⟨rfl, -⟩ := Prod.mk.inj (List.mem_singleton.mp ticked)
    exact Or.inr (Or.inr ⟨_, rfl⟩)
  · intro truthful
    have read := (settled [servedPoll, stoppedPoll]).2.2.mp truthful stoppedPoll (Go.tick "r" stoppedPoll.toPoll)
      (List.mem_cons_of_mem _ (List.mem_singleton_self _))
    exact stopped_unread read

/-- A rollup whose latest batch was rejected is reported as healthy and without batches, by a snapshot that
cannot read the batch and by a watch that is stopped before it does. -/
theorem rejected_batch_healthy :
    (∃ health, getRollupHealth latestDown {} "r" = .ok health ∧
      health.hasBatches = false ∧ health.healthy = true) ∧
    (∃ health, Go.watchRollup "r" [stoppedPoll.toPoll] = [.onUpdate health] ∧
      health.hasBatches = false ∧ health.healthy = true) ∧
    (¬ ∀ (reads : HealthReads) (options : HealthOptions) (rollupId : String) (latest : Option ChainBatch),
      (∀ batch, reads.latestBatch = .ok batch → Reports latest batch.status batch.submittedAt) →
      ∀ health, getRollupHealth reads options rollupId = .ok health →
        Truthful latest health.hasBatches health.healthy) ∧
    ¬ ∀ (rollupId : String) (polls : List ChainPoll) (poll : ChainPoll) (health : Go.RollupHealth),
      (poll, .onUpdate health) ∈ polls.zip (Go.watchRollup rollupId (polls.map ChainPoll.toPoll)) →
        Truthful poll.latest health.hasBatches health.healthy := by
  refine ⟨⟨_, rfl, rfl, rfl⟩, ⟨_, rfl, rfl, rfl⟩, ?_, ?_⟩
  · intro law
    exact not_truthful_some (law latestDown {} "r" (some rejectedBatch) (fun batch read => by cases read) _ rfl)
  · intro law
    exact not_truthful_some (law "r" [stoppedPoll] stoppedPoll _ (List.mem_singleton.mpr rfl))

end Health
end QorechainRdk
