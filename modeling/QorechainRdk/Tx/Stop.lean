import QorechainRdk.Rust.Rest
import QorechainRdk.Tx.Client

/-!
# Stopping a rollup

`stopRollup` of `tx/client.ts` and `stop_rollup` of `tx/client.rs`, up to the message that is broadcast. Both ask
the chain whether the latest batch is settled before the fee is paid.
-/

namespace QorechainRdk

open Js

inductive RollupStatus where
  | pending
  | active
  | paused
  | stopped
  deriving DecidableEq, Repr

def RollupStatus.text : RollupStatus → String
  | .pending => "pending"
  | .active => "active"
  | .paused => "paused"
  | .stopped => "stopped"

inductive RollupAction where
  | pause
  | resume
  | stop
  deriving DecidableEq, Repr

def RollupAction.text : RollupAction → String
  | .pause => "pause"
  | .resume => "resume"
  | .stop => "stop"

def ROLLUP_ACTION_FROM : RollupAction → List RollupStatus
  | .pause => [.active]
  | .resume => [.paused]
  | .stop => [.active, .paused]

def canPerformRollupAction (action : RollupAction) (status : RollupStatus) : Bool :=
  (ROLLUP_ACTION_FROM action).contains status

/-- The text of the error, where the action is not allowed. -/
def rollupActionError (action : RollupAction) (status : RollupStatus) : Option String :=
  if canPerformRollupAction action status then none
  else
    let allowed := ", ".intercalate ((ROLLUP_ACTION_FROM action).map RollupStatus.text)
    some s!"cannot {action.text} a rollup in status \"{status.text}\" (allowed from: {allowed})"

def FEATURE_RDK_CHALLENGE_SETTLEMENT : String := "rdk-challenge-settlement"

def stopRollupError (latestBatchStatus : Option String) : Option String :=
  match latestBatchStatus with
  | none => none
  | some status =>
    if status = "submitted" ∨ status = "challenged" then
      some s!"the rollup's latest batch is {status}; stop it once that batch is finalized or rejected"
    else none

/-- The check of the latest batch, where the chain settles in order. -/
def checkLatest {ε : Type} (refuse : String → ε) (enabled : Except ε Bool) (latest : Option String) :
    Except ε Unit := do
  if ← enabled then
    match stopRollupError latest with
    | some err => .error (refuse err)
    | none => return ()
  else return ()

def stopRefusal (rollupId err : String) : String := s!"cannot stop rollup \"{rollupId}\": {err}"

def stopRollup (fetch : FetchLike) (client : RdkTxClient) (rollupId : String)
    (currentStatus : Option RollupStatus) : Except JsError MsgStopRollup := do
  match currentStatus.bind (rollupActionError .stop) with
  | some err => fail err
  | none =>
    match client.rest with
    | none => return stopRollupMsg client.address rollupId
    | some rest =>
      checkLatest (fun err => ⟨stopRefusal rollupId err⟩)
        (isProtocolFeatureEnabled fetch rest FEATURE_RDK_CHALLENGE_SETTLEMENT)
        ((getLatestBatch fetch rest rollupId).toOption.map BatchView.status)
      return stopRollupMsg client.address rollupId

namespace Rust

inductive TxError where
  | lifecycle (message : String)
  | build (message : String)
  | rest (err : RestError)
  | wouldBeRefused (message : String)
  deriving DecidableEq, Repr

def stopRollup (send : Transport) (baseUrl address rollupId : String) (currentStatus : Option RollupStatus) :
    Except TxError MsgStopRollup := do
  match currentStatus.bind (rollupActionError .stop) with
  | some err => .error (.lifecycle err)
  | none =>
    checkLatest (fun err => .wouldBeRefused (stopRefusal rollupId err))
      ((isProtocolFeatureEnabled send baseUrl FEATURE_RDK_CHALLENGE_SETTLEMENT).mapError .rest)
      (getLatestBatchStatus send baseUrl rollupId).toOption
    return stopRollupMsg address rollupId

end Rust

/-! ### What the chain says -/

/-- A chain that would refuse the stop: it settles in order, and the latest batch waits. -/
structure UnsettledChain where
  features : List ProtocolFeature
  settles : ⟨FEATURE_RDK_CHALLENGE_SETTLEMENT, true⟩ ∈ features
  batch : RawRecord
  view : BatchView
  mapped : mapBatchView batch = .ok view
  spelled : batch.lookup "status" = some (.string view.status)
  waits : view.status = "submitted" ∨ view.status = "challenged"

/-- The record of a feature. -/
def SpellsFeature (item : Json) (f : ProtocolFeature) : Prop :=
  (asRecord item).lookup "name" = some (.string f.name) ∧
    (asRecord item).lookup "enabled" = some (.bool f.enabled)

/-- An answer to either read, if there is one, is the chain's. -/
structure UnsettledChain.Answers (chain : UnsettledChain) (featuresRead latestRead : Option RawRecord) : Prop where
  features : ∀ body, featuresRead = some body →
    ∃ items, body.lookup "features" = some (.array items) ∧ List.Forall₂ SpellsFeature items chain.features
  latest : ∀ body, latestRead = some body → body.lookup "batch" = some (.object chain.batch)

section
variable {ε : Type} {chain : UnsettledChain} {rollupId : String}

theorem stopRollupError_waits (chain : UnsettledChain) : ∃ err, stopRollupError (some chain.view.status) = some err :=
  ⟨_, if_pos chain.waits⟩

theorem checkLatest_error_iff {refuse : String → ε} {enabled : Except ε Bool} {latest : Option String}
    (told : ∀ status, latest = some status → ∃ err, stopRollupError (some status) = some err) :
    (∃ err, checkLatest refuse enabled latest = .error err) ↔
      (∃ err, enabled = .error err) ∨ (enabled = .ok true ∧ ∃ status, latest = some status) := by
  unfold checkLatest
  cases enabled with
  | error err => simp [Bind.bind, Except.bind]
  | ok on =>
    cases on with
    | false => simp [Bind.bind, Except.bind, pure, Except.pure]
    | true =>
      cases latest with
      | none => simp [Bind.bind, Except.bind, pure, Except.pure, stopRollupError]
      | some status =>
        obtain ⟨err, waits⟩ := told status rfl
        simp [Bind.bind, Except.bind, waits]

theorem any_enabled (chain : UnsettledChain) :
    chain.features.any (fun f => f.name == FEATURE_RDK_CHALLENGE_SETTLEMENT && f.enabled) = true :=
  List.any_eq_true.mpr ⟨_, chain.settles, by simp⟩

end

/-! ### The reads of the TypeScript client -/

section
variable (fetch : FetchLike) (rest rollupId : String) (currentStatus : Option RollupStatus)

/-- The node has no feature route, or no batch of the rollup. -/
def ReadAbsent : Prop :=
  RouteAbsent fetch rest ∨ ∃ res, fetch (base rest ++ latestBatchPath rollupId) = .ok res ∧ res.status = 404

/-- The caller does not rule the stop out, and a failed read is taken for an answer: the features by the words of
the failure, the batch by any failure. -/
def StopUnseen : Prop :=
  currentStatus.bind (rollupActionError .stop) = none ∧ ¬ ReadAbsent fetch rest rollupId ∧
    ((∃ err, RestClient.get fetch rest featuresPath = .error err ∧ namesAbsence err.message = true) ∨
      ∃ body err, RestClient.get fetch rest featuresPath = .ok body ∧
        RestClient.get fetch rest (latestBatchPath rollupId) = .error err)

/-- Nothing is broadcast, unless the node has no such route or batch. -/
def StopWithheld (client : RdkTxClient) : Prop :=
  ¬ ReadAbsent fetch rest rollupId → ∃ err, stopRollup fetch client rollupId currentStatus = .error err

end

section
variable {fetch : FetchLike} {rest rollupId : String} {chain : UnsettledChain}
  {featuresRead latestRead : Option RawRecord}

theorem featureOf_spelled {item : Json} {f : ProtocolFeature} (spelled : SpellsFeature item f) :
    featureOf item = .ok f ∧ Rust.featureOf item = f := by
  obtain ⟨named, enabled⟩ := spelled
  constructor
  · unfold featureOf textOrEmpty
    rw [named, enabled]
    simp [strictEq, pure, Except.pure]
  · unfold Rust.featureOf
    rw [named, enabled]
    simp [strictEq]

theorem features_spelled {items : List Json} {features : List ProtocolFeature}
    (spelled : List.Forall₂ SpellsFeature items features) :
    items.mapM featureOf = .ok features ∧ items.map Rust.featureOf = features := by
  induction spelled with
  | nil => exact ⟨rfl, rfl⟩
  | cons first _ ih =>
    obtain ⟨ts, rust⟩ := featureOf_spelled first
    constructor
    · rw [List.mapM_cons, ts, ok_bind, ih.1]
      rfl
    · rw [List.map_cons, rust, ih.2]

theorem UnsettledChain.Answers.featureList (answers : chain.Answers featuresRead latestRead) {body : RawRecord}
    (read : featuresRead = some body) : (featureList body).mapM featureOf = .ok chain.features ∧
      (QorechainRdk.featureList body).map Rust.featureOf = chain.features := by
  obtain ⟨items, listed, spelled⟩ := answers.features body read
  have list : QorechainRdk.featureList body = items := by
    unfold QorechainRdk.featureList
    rw [listed]
  rw [list]
  exact features_spelled spelled

theorem UnsettledChain.Answers.view (answers : chain.Answers featuresRead latestRead) {body : RawRecord}
    (read : latestRead = some body) : mapBatchView (nested body "batch") = .ok chain.view := by
  have record : nested body "batch" = chain.batch := by
    unfold nested
    rw [answers.latest body read]
    rfl
  rw [record]
  exact chain.mapped

theorem error_seq_iff {ε α : Type} {x : Except ε Unit} {a : α} :
    (∃ err, (x >>= fun _ => pure a) = .error err) ↔ ∃ err, x = .error err := by
  cases x with
  | error err => simp [Bind.bind, Except.bind]
  | ok u => simp [Bind.bind, Except.bind, pure, Except.pure]

/-- What the feature read gives where the chain settles in order. -/
theorem settlement_read
    (answers : chain.Answers (RestClient.get fetch rest featuresPath).toOption latestRead) :
    isProtocolFeatureEnabled fetch rest FEATURE_RDK_CHALLENGE_SETTLEMENT =
      match RestClient.get fetch rest featuresPath with
      | .ok _ => .ok true
      | .error err => if namesAbsence err.message then .ok false else .error err := by
  unfold isProtocolFeatureEnabled getProtocolFeatures
  cases read : RestClient.get fetch rest featuresPath with
  | error err => rfl
  | ok body =>
    rw [read] at answers
    rw [ok_bind, (answers.featureList rfl).1]
    dsimp only
    rw [any_enabled]

theorem latest_read
    (answers : chain.Answers featuresRead (RestClient.get fetch rest (latestBatchPath rollupId)).toOption) :
    getLatestBatch fetch rest rollupId =
      (RestClient.get fetch rest (latestBatchPath rollupId)).map fun _ => chain.view := by
  unfold getLatestBatch
  cases read : RestClient.get fetch rest (latestBatchPath rollupId) with
  | error err => rfl
  | ok body =>
    rw [read] at answers
    exact answers.view rfl

theorem stopRollup_error_iff {client : RdkTxClient} {currentStatus : Option RollupStatus}
    (reaches : client.rest = some rest) : (∃ err, stopRollup fetch client rollupId currentStatus = .error err) ↔
      currentStatus.bind (rollupActionError .stop) ≠ none ∨
        ∃ err, checkLatest (fun err => (⟨stopRefusal rollupId err⟩ : JsError))
          (isProtocolFeatureEnabled fetch rest FEATURE_RDK_CHALLENGE_SETTLEMENT)
          ((getLatestBatch fetch rest rollupId).toOption.map BatchView.status) = .error err := by
  unfold stopRollup
  cases currentStatus.bind (rollupActionError .stop) with
  | some err => simp [fail]
  | none =>
    rw [reaches]
    dsimp only
    rw [error_seq_iff]
    simp

/-- Such a stop is withheld exactly when no failed read is taken for an answer. -/
theorem stopWithheld_iff {client : RdkTxClient} {currentStatus : Option RollupStatus}
    (reaches : client.rest = some rest)
    (answers : chain.Answers (RestClient.get fetch rest featuresPath).toOption
      (RestClient.get fetch rest (latestBatchPath rollupId)).toOption) :
    StopWithheld fetch rest rollupId currentStatus client ↔ ¬ StopUnseen fetch rest rollupId currentStatus := by
  have told : ∀ status, (getLatestBatch fetch rest rollupId).toOption.map BatchView.status = some status →
      ∃ err, stopRollupError (some status) = some err := by
    intro status same
    rw [latest_read answers] at same
    cases read : RestClient.get fetch rest (latestBatchPath rollupId) with
    | error err =>
      rw [read] at same
      cases same
    | ok body =>
      rw [read] at same
      cases same
      exact stopRollupError_waits chain
  unfold StopWithheld StopUnseen
  rw [stopRollup_error_iff reaches, checkLatest_error_iff told, settlement_read answers, latest_read answers]
  by_cases absent : ReadAbsent fetch rest rollupId
  · simp [absent]
  · by_cases allowed : currentStatus.bind (rollupActionError .stop) = none
    · cases RestClient.get fetch rest featuresPath with
      | error err =>
        cases names : namesAbsence err.message with
        | true => simp [absent, allowed, names]
        | false => simp [absent, allowed, names]
      | ok body =>
        cases RestClient.get fetch rest (latestBatchPath rollupId) with
        | error err => simp [absent, allowed, Except.map, Except.toOption]
        | ok latest => simp [absent, allowed, Except.map, Except.toOption]
    · simp [absent, allowed]

end

/-! ### The reads of the Rust client -/

namespace Rust

section
variable (send : Transport) (baseUrl rollupId : String) (currentStatus : Option RollupStatus)

def RouteAbsent : Prop :=
  ∃ resp, send (base baseUrl ++ featuresPath) = .ok resp ∧ (resp.status = 404 ∨ resp.status = 501)

def ReadAbsent : Prop :=
  RouteAbsent send baseUrl ∨ ∃ resp, send (base baseUrl ++ latestBatchPath rollupId) = .ok resp ∧ resp.status = 404

/-- Here only a failed read of the batch is taken for an answer. -/
def StopUnseen : Prop :=
  currentStatus.bind (rollupActionError .stop) = none ∧ ¬ ReadAbsent send baseUrl rollupId ∧
    ∃ body err, get send baseUrl featuresPath = .ok body ∧ get send baseUrl (latestBatchPath rollupId) = .error err

def StopWithheld (address : String) : Prop :=
  ¬ ReadAbsent send baseUrl rollupId → ∃ err, stopRollup send baseUrl address rollupId currentStatus = .error err

end

section
variable {send : Transport} {baseUrl rollupId address : String} {currentStatus : Option RollupStatus}
  {chain : UnsettledChain} {featuresRead latestRead : Option RawRecord}

theorem status_answered (answers : chain.Answers featuresRead latestRead) {body : Json}
    (read : latestRead = some (asRecord body)) :
    strOf (pick (asRecord (objOr body "batch")) ["status"]) "" = chain.view.status := by
  have record : objOr body "batch" = .object chain.batch := by
    unfold objOr
    rw [answers.latest _ read]
  rw [record]
  simp only [asRecord, pick, Go.pick, chain.spelled]
  rfl

theorem settlement_read
    (answers : chain.Answers ((get send baseUrl featuresPath).toOption.map asRecord) latestRead)
    (present : ¬ RouteAbsent send baseUrl) :
    isProtocolFeatureEnabled send baseUrl FEATURE_RDK_CHALLENGE_SETTLEMENT =
      (get send baseUrl featuresPath).map fun _ => true := by
  cases read : get send baseUrl featuresPath with
  | error err => exact isProtocolFeatureEnabled_error read present
  | ok body =>
    rw [read] at answers
    unfold isProtocolFeatureEnabled getProtocolFeatures
    rw [read]
    show Except.ok _ = _
    rw [(answers.featureList rfl).2, any_enabled]
    rfl

theorem latest_read
    (answers : chain.Answers featuresRead ((get send baseUrl (latestBatchPath rollupId)).toOption.map asRecord)) :
    getLatestBatchStatus send baseUrl rollupId =
      (get send baseUrl (latestBatchPath rollupId)).map fun _ => chain.view.status := by
  unfold getLatestBatchStatus
  cases read : get send baseUrl (latestBatchPath rollupId) with
  | error err => rfl
  | ok body =>
    rw [read] at answers
    exact congrArg Except.ok (status_answered answers rfl)

theorem stopRollup_error_iff : (∃ err, stopRollup send baseUrl address rollupId currentStatus = .error err) ↔
    currentStatus.bind (rollupActionError .stop) ≠ none ∨
      ∃ err, checkLatest (fun err => TxError.wouldBeRefused (stopRefusal rollupId err))
        ((isProtocolFeatureEnabled send baseUrl FEATURE_RDK_CHALLENGE_SETTLEMENT).mapError .rest)
        (getLatestBatchStatus send baseUrl rollupId).toOption = .error err := by
  unfold stopRollup
  cases currentStatus.bind (rollupActionError .stop) with
  | some err => simp
  | none =>
    dsimp only
    rw [error_seq_iff]
    simp

theorem stopWithheld_iff
    (answers : chain.Answers ((get send baseUrl featuresPath).toOption.map asRecord)
      ((get send baseUrl (latestBatchPath rollupId)).toOption.map asRecord)) :
    StopWithheld send baseUrl rollupId currentStatus address ↔
      ¬ StopUnseen send baseUrl rollupId currentStatus := by
  have told : ∀ status, (getLatestBatchStatus send baseUrl rollupId).toOption = some status →
      ∃ err, stopRollupError (some status) = some err := by
    intro status same
    rw [latest_read answers] at same
    cases read : get send baseUrl (latestBatchPath rollupId) with
    | error err =>
      rw [read] at same
      cases same
    | ok body =>
      rw [read] at same
      cases same
      exact stopRollupError_waits chain
  unfold StopWithheld StopUnseen
  rw [stopRollup_error_iff, checkLatest_error_iff told, latest_read answers]
  by_cases absent : ReadAbsent send baseUrl rollupId
  · simp [absent]
  · rw [settlement_read answers fun route => absent (Or.inl route)]
    by_cases allowed : currentStatus.bind (rollupActionError .stop) = none
    · cases get send baseUrl featuresPath with
      | error err => simp [absent, allowed, Except.map, Except.mapError]
      | ok body =>
        cases get send baseUrl (latestBatchPath rollupId) with
        | error err => simp [absent, allowed, Except.map, Except.mapError, Except.toOption]
        | ok latest => simp [absent, allowed, Except.map, Except.mapError, Except.toOption]
    · simp [absent, allowed]

end
end Rust

/-- A stop that the chain would refuse is withheld by both clients exactly where no failed read is taken for an
answer. -/
theorem stop_withheld_iff {chain : UnsettledChain} {fetch : FetchLike} {client : RdkTxClient} {rest : String}
    {send : Rust.Transport} (baseUrl address rollupId : String) (currentStatus : Option RollupStatus)
    (reaches : client.rest = some rest)
    (answers : chain.Answers (RestClient.get fetch rest featuresPath).toOption
      (RestClient.get fetch rest (latestBatchPath rollupId)).toOption)
    (rustAnswers : chain.Answers ((Rust.get send baseUrl featuresPath).toOption.map asRecord)
      ((Rust.get send baseUrl (Rust.latestBatchPath rollupId)).toOption.map asRecord)) :
    (StopWithheld fetch rest rollupId currentStatus client ↔ ¬ StopUnseen fetch rest rollupId currentStatus) ∧
      (Rust.StopWithheld send baseUrl rollupId currentStatus address ↔
        ¬ Rust.StopUnseen send baseUrl rollupId currentStatus) :=
  ⟨stopWithheld_iff reaches answers, Rust.stopWithheld_iff rustAnswers⟩

/-! ### A batch read that fails -/

/-- The latest batch was submitted at height 5. -/
def openChain : UnsettledChain where
  features := [⟨FEATURE_RDK_CHALLENGE_SETTLEMENT, true⟩]
  settles := List.mem_singleton.mpr rfl
  batch := [("status", .string "submitted"), ("submitted_at", .number (.integer 5))]
  view := {
    batchIndex := 0
    stateRoot := ""
    prevStateRoot := ""
    txCount := 0
    dataHash := ""
    status := "submitted"
    submittedAt := 5
    finalizedAt := 0
    withdrawalsRoot := ""
    submittedTime := 0 }
  mapped := rfl
  spelled := rfl
  waits := Or.inl rfl

def settlementBody : Json :=
  .object [("features", .array [.object
    [("name", .string FEATURE_RDK_CHALLENGE_SETTLEMENT), ("enabled", .bool true)]])]

/-- The node serves the features, and answers the read of the batch with 503. -/
def overloaded : FetchLike := fun url =>
  if url = base "https://lcd.example" ++ featuresPath then
    .ok { ok := true, status := 200, statusText := "OK", json := .ok settlementBody }
  else .ok { ok := false, status := 503, statusText := "Service Unavailable", json := fail "no body" }

def Rust.overloaded : Rust.Transport := fun url =>
  if url = base "https://lcd.example" ++ featuresPath then .ok { status := 200, json := .ok settlementBody }
  else .ok { status := 503, json := .error "no body" }

def lightClient : RdkTxClient where
  address := "qor1creator"
  hybrid := some { pqcKeypair := { publicKey := [], secretKey := [] }, rest := some "https://lcd.example" }

theorem settlementBody_answers : openChain.Answers (some (asRecord settlementBody)) none where
  features := by
    intro body same
    cases same
    exact ⟨_, rfl, List.Forall₂.cons ⟨rfl, rfl⟩ List.Forall₂.nil⟩
  latest := by
    intro body same
    cases same

theorem overloaded_other :
    base "https://lcd.example" ++ latestBatchPath "roll" ≠ base "https://lcd.example" ++ featuresPath := by decide

theorem overloaded_latest : overloaded (base "https://lcd.example" ++ latestBatchPath "roll") =
    .ok { ok := false, status := 503, statusText := "Service Unavailable", json := fail "no body" } :=
  if_neg overloaded_other

theorem overloaded_answers :
    openChain.Answers (RestClient.get overloaded "https://lcd.example" featuresPath).toOption
      (RestClient.get overloaded "https://lcd.example" (latestBatchPath "roll")).toOption := by
  have features : RestClient.get overloaded "https://lcd.example" featuresPath = .ok (asRecord settlementBody) := rfl
  have latest := get_error_iff.mpr (Or.inr ⟨_, overloaded_latest, (if_neg (by decide)).mpr rfl⟩)
  rw [features, latest]
  exact settlementBody_answers

theorem Rust.overloaded_answers :
    openChain.Answers ((Rust.get Rust.overloaded "https://lcd.example" featuresPath).toOption.map asRecord)
      ((Rust.get Rust.overloaded "https://lcd.example" (Rust.latestBatchPath "roll")).toOption.map asRecord) :=
  settlementBody_answers

theorem stop_withheld_iff_sample :
    (StopWithheld overloaded "https://lcd.example" "roll" (some .active) lightClient ↔
        ¬ StopUnseen overloaded "https://lcd.example" "roll" (some .active)) ∧
      (Rust.StopWithheld Rust.overloaded "https://lcd.example" "roll" (some .active) "qor1creator" ↔
        ¬ Rust.StopUnseen Rust.overloaded "https://lcd.example" "roll" (some .active)) :=
  stop_withheld_iff "https://lcd.example" "qor1creator" "roll" (some .active) rfl overloaded_answers
    Rust.overloaded_answers

/-- The stop is broadcast although the latest batch waits. -/
theorem failed_read_stops :
    ¬∀ (chain : UnsettledChain) (fetch : FetchLike) (client : RdkTxClient) (rest rollupId : String)
      (currentStatus : Option RollupStatus), client.rest = some rest →
      chain.Answers (RestClient.get fetch rest featuresPath).toOption
        (RestClient.get fetch rest (latestBatchPath rollupId)).toOption →
      StopWithheld fetch rest rollupId currentStatus client := by
  intro every
  have withheld := every openChain overloaded lightClient _ "roll" (some .active) rfl overloaded_answers
  have present : ¬ ReadAbsent overloaded "https://lcd.example" "roll" := by
    rintro (⟨res, answer, absent⟩ | ⟨res, answer, absent⟩)
    · cases answer
      simp at absent
    · rw [overloaded_latest] at answer
      cases answer
      simp at absent
  have latest := get_error_iff.mpr (Or.inr ⟨_, overloaded_latest, (if_neg (by decide)).mpr rfl⟩)
  exact (stopWithheld_iff rfl overloaded_answers).mp withheld
    ⟨rfl, present, Or.inr ⟨asRecord settlementBody, _, rfl, latest⟩⟩

end QorechainRdk
