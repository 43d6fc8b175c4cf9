import QorechainRdk.Receipts.Untrusted
import QorechainRdk.Receipts.Verify

/-!
# What a receipt file may do to its verification

A verification throws where a field has no text to go into a message, or where the proof is not a string; and it
never compares the index of the batch with the one that the file names.
-/

namespace QorechainRdk.Receipts

open Js

/-- Something is thrown that nothing catches. -/
def Throws {α : Type} (x : Except Exit α) : Prop := ∃ err, x = .error (.thrown err)

section
variable {α β : Type} {x : Except Exit α} {f : α → Except Exit β} {a : α}

theorem not_throws_ok : ¬ Throws (.ok a : Except Exit α) := by
  rintro ⟨err, same⟩
  cases same

theorem not_throws_pure : ¬ Throws (pure a : Except Exit α) := not_throws_ok

theorem throws_bind : Throws (x >>= f) ↔ Throws x ∨ ∃ a, x = .ok a ∧ Throws (f a) := by
  unfold Throws
  constructor
  · rintro ⟨err, h⟩
    rcases bind_error h with first | ⟨a, read, rest⟩
    · exact Or.inl ⟨err, first⟩
    · exact Or.inr ⟨a, read, err, rest⟩
  · rintro (⟨err, h⟩ | ⟨a, read, err, h⟩)
    · exact ⟨err, by rw [h]; rfl⟩
    · exact ⟨err, by rw [read]; exact h⟩

theorem not_throws_bind : ¬ Throws (x >>= f) ↔ ¬ Throws x ∧ ∀ a, x = .ok a → ¬ Throws (f a) := by
  rw [throws_bind, not_or, not_exists]
  simp only [not_and]

theorem throws_stop {result : Except JsError FileVerification} :
    Throws (stop result : Except Exit α) ↔ ∃ err, result = .error err := by
  cases result with
  | ok v => simp [stop, Throws]
  | error err => simp [stop, Throws]

theorem stop_ne_ok {result : Except JsError FileVerification} : (stop result : Except Exit α) ≠ .ok a := by
  cases result with
  | ok v => intro same; cases same
  | error err => intro same; cases same

theorem attempt_ok_iff {read : Except JsError α} {failed : String → Except JsError FileVerification} :
    attempt read failed = .ok a ↔ read = .ok a := by
  cases read with
  | ok b => simp [attempt]
  | error err => simp [attempt, stop_ne_ok]

theorem throws_attempt {read : Except JsError α} {failed : String → Except JsError FileVerification} :
    Throws (attempt read failed) ↔ ∃ err, read = .error err ∧ ∃ err', failed err.message = .error err' := by
  cases read with
  | ok b => simp [attempt, Throws]
  | error err => simp [attempt, throws_stop]

theorem accept_or_stop_ok_iff {p : Prop} [Decidable p] {b : α} {result : Except JsError FileVerification} :
    (if p then pure a else stop result : Except Exit α) = .ok b ↔ p ∧ a = b := by
  split
  · simp [*, pure, Except.pure]
  · simp [*, stop_ne_ok]

theorem throws_accept_or_stop {p : Prop} [Decidable p] {result : Except JsError FileVerification} :
    Throws (if p then pure a else stop result : Except Exit α) ↔ ¬ p ∧ ∃ err, result = .error err := by
  split
  · simp [*, not_throws_pure]
  · simp [*, throws_stop]

theorem refuse_or_stop_ok_iff {p : Prop} [Decidable p] {result : Except JsError FileVerification} :
    (if p then stop result else x) = .ok a ↔ ¬ p ∧ x = .ok a := by
  split
  · simp [*, stop_ne_ok]
  · simp [*]

theorem throws_refuse_or_stop {p : Prop} [Decidable p] {result : Except JsError FileVerification} :
    Throws (if p then stop result else x) ↔ (p ∧ ∃ err, result = .error err) ∨ (¬ p ∧ Throws x) := by
  split
  · simp [*, throws_stop]
  · simp [*]

theorem uncaught_ok_iff {read : Except JsError α} : uncaught read = .ok a ↔ read = .ok a := by
  cases read <;> simp [uncaught]

theorem throws_uncaught {read : Except JsError α} : Throws (uncaught read) ↔ ∃ err, read = .error err := by
  cases read <;> simp [uncaught, Throws]

end

/-- A message with one more value in it throws exactly when that value has no text. -/
theorem template_bind_error {value : Json} {rest : String → Except JsError FileVerification}
    (fine : ∀ text, ∃ v, rest text = .ok v) :
    (∃ err, (template value >>= rest) = .error err) ↔ ¬ value.hasText = true := by
  by_cases given : value.hasText = true
  · obtain ⟨v, result⟩ := fine value.toText
    rw [template_of_hasText given, ok_bind, result]
    simp [given]
  · rw [template_of_missing given, fail_bind]
    simp [given, fail]

/-! ### The steps -/

section
variable (receipt : ReceiptFile) (reads : ReceiptReads)

def OnLayer (rollup : RollupView) : Prop :=
  reads.getRollup receipt.rollupId.toText = .ok rollup ∧ rollup.layerId ≠ "" ∧
    receipt.layerId = .string rollup.layerId

/-- The batch whose root is compared. -/
def RootServed (batch : BatchView) : Prop :=
  ∃ root, reads.getBatch receipt.rollupId.toText receipt.batchIndex.toText = .ok batch ∧
    rootHex batch = .ok root ∧ root ≠ "" ∧ receipt.stateRoot = .string root ∧
    receipt.batchStateRoot = some (.string root)

def Selected (layerId : String) (anchor : AnchorView) : Prop :=
  ∃ anchors, reads.getAnchors layerId = .ok anchors ∧ anchors.find? (selected receipt) = some anchor

end

section
variable {receipt : ReceiptFile} {reads : ReceiptReads} {checks : Checks} {rollup : RollupView}
  {anchor : AnchorView} {key : String}

theorem rollupStep_ok (named : receipt.rollupId.hasText = true) :
    rollupStep receipt reads = .ok rollup ↔ OnLayer receipt reads rollup := by
  unfold rollupStep OnLayer
  rw [bind_ok_iff]
  simp only [template_of_hasText named, ok_bind, attempt_ok_iff, accept_or_stop_ok_iff, strictEq_string]
  constructor
  · rintro ⟨read, found, belongs, rfl⟩
    exact ⟨found, belongs⟩
  · rintro ⟨found, belongs⟩
    exact ⟨rollup, found, belongs, rfl⟩

theorem rollupStep_throws : Throws (rollupStep receipt reads) ↔
    ¬ receipt.rollupId.hasText = true ∨
      ∃ rollup, reads.getRollup receipt.rollupId.toText = .ok rollup ∧ ¬ receipt.layerId.hasText = true := by
  unfold rollupStep
  rw [throws_bind]
  by_cases named : receipt.rollupId.hasText = true
  · simp only [template_of_hasText named, ok_bind, throws_attempt, attempt_ok_iff, throws_accept_or_stop,
      strictEq_string, named, not_true_eq_false, false_or]
    constructor
    · rintro (⟨err, -, err', same⟩ | ⟨rollup, read, -, threw⟩)
      · cases same
      · exact ⟨rollup, read, (template_bind_error fun _ => ⟨_, rfl⟩).mp threw⟩
    · rintro ⟨rollup, read, missing⟩
      refine Or.inr ⟨rollup, read, ?_, (template_bind_error fun _ => ⟨_, rfl⟩).mpr missing⟩
      rintro ⟨-, same⟩
      rw [same] at missing
      exact missing (hasText_string _)
  · refine iff_of_true (Or.inl ?_) (Or.inl named)
    simp only [template_of_missing named, fail_bind]
    exact ⟨_, rfl⟩

theorem batchStep_ok (named : receipt.rollupId.hasText = true) (indexed : receipt.batchIndex.hasText = true) :
    batchStep receipt reads checks = .ok () ↔ ∃ batch, RootServed receipt reads batch := by
  unfold batchStep RootServed
  rw [bind_ok_iff]
  simp only [template_of_hasText named, template_of_hasText indexed, ok_bind, attempt_ok_iff,
    accept_or_stop_ok_iff, strictEq_string, bind_ok_iff, Option.any_eq_true, and_true]
  constructor
  · rintro ⟨root, ⟨batch, read, hex⟩, some, state, copy, given, same⟩
    rw [same] at given
    exact ⟨batch, root, read, hex, some, state, given⟩
  · rintro ⟨batch, root, read, hex, some, state, given⟩
    exact ⟨root, ⟨batch, read, hex⟩, some, state, _, given, rfl⟩

theorem batchStep_throws (named : receipt.rollupId.hasText = true) :
    Throws (batchStep receipt reads checks) ↔ ¬ receipt.batchIndex.hasText = true := by
  unfold batchStep
  rw [throws_bind]
  by_cases indexed : receipt.batchIndex.hasText = true
  · simp only [template_of_hasText named, template_of_hasText indexed, ok_bind, throws_attempt,
      throws_accept_or_stop, indexed, not_true_eq_false, iff_false]
    rintro (⟨err, -, err', same⟩ | ⟨root, -, -, err, same⟩)
    · cases same
    · cases same
  · refine iff_of_true (Or.inl ?_) indexed
    simp only [template_of_hasText named, template_of_missing indexed, ok_bind, fail_bind]
    exact ⟨_, rfl⟩

theorem lowerCase_ok {proof : Json} {lowered : String} :
    lowerCase proof = .ok lowered ↔ ∃ s, proof = .string s ∧ toLowerCase s = lowered := by
  cases proof <;> simp [lowerCase]

variable (anchor) in
theorem loweredProofs_error : (∃ err, loweredProofs receipt anchor = .error err) ↔
    ∃ proof, receipt.compressedStateProof = some proof ∧ ∀ s, proof ≠ .string s := by
  unfold loweredProofs
  cases receipt.compressedStateProof with
  | none => simp
  | some proof =>
    cases lowered : lowerCase proof with
    | ok text =>
      obtain ⟨s, same, -⟩ := lowerCase_ok.mp lowered
      simp only [lowered, ok_bind]
      refine iff_of_false ?_ ?_
      · rintro ⟨err, returned⟩
        cases returned
      · rintro ⟨given, listed, other⟩
        cases listed
        exact other s same
    | error err =>
      refine iff_of_true ⟨err, by simp only [lowered]; rfl⟩ ⟨proof, rfl, ?_⟩
      intro s same
      rw [lowerCase_ok.mpr ⟨s, same, rfl⟩] at lowered
      cases lowered

variable (anchor) in
/-- The proof is lowered before anything is compared, so that no other field keeps it from throwing. -/
theorem fieldMismatch_error : (∃ err, fieldMismatch receipt anchor = .error err) ↔
    ∃ proof, receipt.compressedStateProof = some proof ∧ ∀ s, proof ≠ .string s := by
  rw [← loweredProofs_error anchor]
  unfold fieldMismatch comparedFields
  cases loweredProofs receipt anchor with
  | ok proofs =>
    refine iff_of_false ?_ ?_
    · rintro ⟨err, same⟩
      cases same
    · rintro ⟨err, same⟩
      cases same
  | error err => exact iff_of_true ⟨err, rfl⟩ ⟨err, rfl⟩

theorem anchorStep_ok {layerId : String} (layer : receipt.layerId = .string layerId) :
    anchorStep receipt reads checks = .ok anchor ↔
      Selected receipt reads layerId anchor ∧ fieldMismatch receipt anchor = .ok none := by
  unfold anchorStep Selected
  rw [bind_ok_iff]
  simp only [layer, template_string, ok_bind, attempt_ok_iff]
  constructor
  · rintro ⟨anchors, read, rest⟩
    split at rest
    · exact absurd rest stop_ne_ok
    · rename_i matched found
      obtain ⟨mismatch, compared, rest⟩ := bind_ok rest
      cases mismatch with
      | some text => exact absurd rest stop_ne_ok
      | none =>
        obtain rfl := pure_ok_iff.mp rest
        exact ⟨⟨anchors, read, found⟩, uncaught_ok_iff.mp compared⟩
  · rintro ⟨⟨anchors, read, found⟩, agrees⟩
    refine ⟨anchors, read, ?_⟩
    simp only [found, agrees]
    rfl

theorem anchorStep_throws {layerId : String} (layer : receipt.layerId = .string layerId) :
    Throws (anchorStep receipt reads checks) ↔ (∃ anchor, Selected receipt reads layerId anchor) ∧
      ∃ proof, receipt.compressedStateProof = some proof ∧ ∀ s, proof ≠ .string s := by
  unfold anchorStep Selected
  rw [throws_bind]
  simp only [layer, template_string, ok_bind, throws_attempt, attempt_ok_iff]
  constructor
  · rintro (⟨err, -, err', same⟩ | ⟨anchors, read, threw⟩)
    · cases same
    · split at threw
      · obtain ⟨err, same⟩ := throws_stop.mp threw
        cases same
      · rename_i matched found
        refine ⟨⟨matched, anchors, read, found⟩, ?_⟩
        rcases throws_bind.mp threw with compared | ⟨mismatch, -, threw⟩
        · exact (fieldMismatch_error matched).mp (throws_uncaught.mp compared)
        · cases mismatch with
          | some text =>
            obtain ⟨err, same⟩ := throws_stop.mp threw
            cases same
          | none => exact absurd threw not_throws_pure
  · rintro ⟨⟨anchor, anchors, read, found⟩, other⟩
    refine Or.inr ⟨anchors, read, ?_⟩
    obtain ⟨err, threw⟩ := (fieldMismatch_error anchor).mpr other
    simp only [found, threw]
    exact ⟨err, rfl⟩

theorem creatorStep_ok : creatorStep receipt reads rollup anchor checks = .ok key ↔
    ∃ account, reads.getPqcAccount rollup.creator = .ok account ∧
      receipt.creator = .string rollup.creator ∧ account.publicKey ≠ "" ∧ account.publicKey = key := by
  unfold creatorStep
  rw [bind_ok_iff]
  refine exists_congr fun account => ?_
  rw [attempt_ok_iff, refuse_or_stop_ok_iff, refuse_or_stop_ok_iff, pure_ok_iff]
  simp

theorem creatorStep_throws : Throws (creatorStep receipt reads rollup anchor checks) ↔
    (∃ account, reads.getPqcAccount rollup.creator = .ok account) ∧ ¬ receipt.creator.hasText = true := by
  unfold creatorStep
  rw [throws_bind]
  simp only [throws_attempt, attempt_ok_iff, throws_refuse_or_stop]
  constructor
  · rintro (⟨err, -, err', same⟩ | ⟨account, read, ⟨-, threw⟩ | ⟨-, ⟨-, err, same⟩ | ⟨-, threw⟩⟩⟩)
    · cases same
    · exact ⟨⟨account, read⟩, (template_bind_error fun _ => ⟨_, rfl⟩).mp threw⟩
    · cases same
    · exact absurd threw not_throws_pure
  · rintro ⟨⟨account, read⟩, missing⟩
    refine Or.inr ⟨account, read, Or.inl ⟨?_, (template_bind_error fun _ => ⟨_, rfl⟩).mpr missing⟩⟩
    rw [Bool.not_eq_true', ← Bool.not_eq_true, strictEq_string]
    intro same
    rw [same] at missing
    exact missing (hasText_string _)

theorem chainStep_ok : chainStep receipt reads anchor checks = .ok () ↔
    ∀ chainId, receipt.chainId = some chainId → truthy chainId = true →
      chainId = .string reads.network.chainId := by
  unfold chainStep
  cases receipt.chainId with
  | none => simp [pure, Except.pure]
  | some chainId =>
    dsimp only
    rw [refuse_or_stop_ok_iff]
    simp [pure, Except.pure]

theorem chainStep_throws : Throws (chainStep receipt reads anchor checks) ↔
    ∃ chainId, receipt.chainId = some chainId ∧ ¬ chainId.hasText = true := by
  unfold chainStep
  cases receipt.chainId with
  | none =>
    refine iff_of_false not_throws_pure ?_
    rintro ⟨chainId, same, -⟩
    cases same
  | some chainId =>
    dsimp only
    rw [throws_refuse_or_stop]
    constructor
    · rintro (⟨-, threw⟩ | ⟨-, threw⟩)
      · exact ⟨chainId, rfl, (template_bind_error fun _ => ⟨_, rfl⟩).mp threw⟩
      · exact absurd threw not_throws_pure
    · rintro ⟨named, same, missing⟩
      cases same
      refine Or.inl ⟨?_, (template_bind_error fun _ => ⟨_, rfl⟩).mpr missing⟩
      rw [truthy_of_missing missing, Bool.true_and, Bool.not_eq_true', ← Bool.not_eq_true, strictEq_string]
      intro same
      rw [same] at missing
      exact missing (hasText_string _)

theorem not_signatureStep_throws {pqcVerify : Bytes → Bytes → Bytes → Except JsError Bool} :
    ¬ Throws (signatureStep receipt reads pqcVerify rollup anchor key checks) := by
  unfold signatureStep
  rw [throws_accept_or_stop]
  rintro ⟨-, err, same⟩
  cases same

end

/-! ### A whole verification -/

section
variable (pqcVerify : Bytes → Bytes → Bytes → Except JsError Bool) (receipt : ReceiptFile)
  (reads : ReceiptReads)

/-- Each field that is turned into text has one, as far as the verification gets; so has the proof, which is to be
a string. -/
structure SafeFields : Prop where
  rollupId : receipt.rollupId.hasText = true
  layerId : ∀ rollup, reads.getRollup receipt.rollupId.toText = .ok rollup → receipt.layerId.hasText = true
  batchIndex : ∀ rollup, OnLayer receipt reads rollup → receipt.batchIndex.hasText = true
  compressedStateProof : ∀ rollup batch anchor, OnLayer receipt reads rollup →
    RootServed receipt reads batch → Selected receipt reads rollup.layerId anchor →
    ∀ proof, receipt.compressedStateProof = some proof → ∃ s, proof = .string s
  creator : ∀ rollup batch anchor account, OnLayer receipt reads rollup → RootServed receipt reads batch →
    Selected receipt reads rollup.layerId anchor → fieldMismatch receipt anchor = .ok none →
    reads.getPqcAccount rollup.creator = .ok account → receipt.creator.hasText = true
  chainId : ∀ rollup batch anchor account, OnLayer receipt reads rollup → RootServed receipt reads batch →
    Selected receipt reads rollup.layerId anchor → fieldMismatch receipt anchor = .ok none →
    reads.getPqcAccount rollup.creator = .ok account → receipt.creator = .string rollup.creator →
    account.publicKey ≠ "" → ∀ chainId, receipt.chainId = some chainId → chainId.hasText = true

/-- Everything that a verification compares agrees with the chain. -/
structure AgreesWithChain (rollup : RollupView) (batch : BatchView) (anchor : AnchorView)
    (account : PqcAccountView) : Prop where
  schema : fileSchemaError receipt = none
  rollupId : receipt.rollupId.hasText = true
  batchIndex : receipt.batchIndex.hasText = true
  layer : OnLayer receipt reads rollup
  root : RootServed receipt reads batch
  selects : Selected receipt reads rollup.layerId anchor
  fields : fieldMismatch receipt anchor = .ok none
  keyed : reads.getPqcAccount rollup.creator = .ok account
  creator : receipt.creator = .string rollup.creator
  registered : account.publicKey ≠ ""
  chain : ∀ chainId, receipt.chainId = some chainId → truthy chainId = true →
    chainId = .string reads.network.chainId
  signature : signatureOver pqcVerify anchor account.publicKey reads.network.chainId
    (anchorSignBytesVersionFor anchor.mainChainHeight reads.network.anchorSignV2Height) = true

/-- The index is an integer that is not negative, and the record that is read for it has that index. -/
def NamesItsBatch : Prop :=
  ∃ (n : Nat) (batch : BatchView), receipt.batchIndex = .number (.integer n) ∧
    reads.getBatch receipt.rollupId.toText receipt.batchIndex.toText = .ok batch ∧ batch.batchIndex = n

/-- A record with the receipt's root is served for `batchIndex` only if that is an integer which is not negative,
and the record's own index. -/
def BatchNamed : Prop :=
  ∀ batch, RootServed receipt reads batch →
    ∃ n : Nat, receipt.batchIndex = .number (.integer n) ∧ batch.batchIndex = n

/-- A verification returns a result, and a valid one is about the batch that the file names. -/
def HandledAsData : Prop :=
  ∃ v, verifyReceiptFile receipt reads pqcVerify = .ok v ∧ (v.valid = true → NamesItsBatch receipt reads)

end

section
variable {pqcVerify : Bytes → Bytes → Bytes → Except JsError Bool} {receipt : ReceiptFile}
  {reads : ReceiptReads}

/-- Each step is reached when the ones before it pass, so that no field may be missing that it turns into text. -/
theorem safeFields_of_returns (returns : ¬ Throws (verifySteps receipt reads pqcVerify)) :
    SafeFields receipt reads := by
  unfold verifySteps at returns
  obtain ⟨first, later⟩ := not_throws_bind.mp returns
  rw [rollupStep_throws, not_or, Decidable.not_not] at first
  obtain ⟨rollupId, layerId⟩ := first
  have second := fun rollup (layer : OnLayer receipt reads rollup) =>
    not_throws_bind.mp (later rollup ((rollupStep_ok rollupId).mpr layer))
  have batchIndex : ∀ rollup, OnLayer receipt reads rollup → receipt.batchIndex.hasText = true := by
    intro rollup layer
    exact Decidable.not_not.mp (mt (batchStep_throws rollupId).mpr (second rollup layer).1)
  have third := fun rollup batch (layer : OnLayer receipt reads rollup)
      (root : RootServed receipt reads batch) => not_throws_bind.mp ((second rollup layer).2 ()
    ((batchStep_ok rollupId (batchIndex rollup layer)).mpr ⟨batch, root⟩))
  have fourth := fun rollup batch anchor (layer : OnLayer receipt reads rollup)
      (root : RootServed receipt reads batch) (selects : Selected receipt reads rollup.layerId anchor)
      (fields : fieldMismatch receipt anchor = .ok none) =>
    not_throws_bind.mp ((third rollup batch layer root).2 anchor
      ((anchorStep_ok layer.2.2).mpr ⟨selects, fields⟩))
  refine ⟨rollupId, ?_, batchIndex, ?_, ?_, ?_⟩
  · intro rollup read
    exact Decidable.not_not.mp fun missing => layerId ⟨rollup, read, missing⟩
  · intro rollup batch anchor layer root selects proof given
    cases proof with
    | string s => exact ⟨s, rfl⟩
    | _ =>
      refine absurd ((anchorStep_throws layer.2.2).mpr ⟨⟨anchor, selects⟩, _, given, ?_⟩)
        (third rollup batch layer root).1
      intro s same
      cases same
  · intro rollup batch anchor account layer root selects fields read
    refine Decidable.not_not.mp fun missing => ?_
    exact (fourth rollup batch anchor layer root selects fields).1
      (creatorStep_throws.mpr ⟨⟨account, read⟩, missing⟩)
  · intro rollup batch anchor account layer root selects fields read creator registered chainId given
    refine Decidable.not_not.mp fun missing => ?_
    have fifth := not_throws_bind.mp ((fourth rollup batch anchor layer root selects fields).2 _
      (creatorStep_ok.mpr ⟨account, read, creator, registered, rfl⟩))
    exact fifth.1 (chainStep_throws.mpr ⟨chainId, given, missing⟩)

theorem returns_of_safeFields (safe : SafeFields receipt reads) :
    ¬ Throws (verifySteps receipt reads pqcVerify) := by
  intro threw
  unfold verifySteps at threw
  rcases throws_bind.mp threw with first | ⟨rollup, step, threw⟩
  · rcases rollupStep_throws.mp first with missing | ⟨rollup, read, missing⟩
    · exact missing safe.rollupId
    · exact missing (safe.layerId rollup read)
  have layer := (rollupStep_ok safe.rollupId).mp step
  rcases throws_bind.mp threw with second | ⟨⟨⟩, step, threw⟩
  · exact (batchStep_throws safe.rollupId).mp second (safe.batchIndex rollup layer)
  obtain ⟨batch, root⟩ := (batchStep_ok safe.rollupId (safe.batchIndex rollup layer)).mp step
  rcases throws_bind.mp threw with third | ⟨anchor, step, threw⟩
  · obtain ⟨⟨anchor, selects⟩, proof, given, other⟩ := (anchorStep_throws layer.2.2).mp third
    obtain ⟨s, same⟩ := safe.compressedStateProof rollup batch anchor layer root selects proof given
    exact other s same
  obtain ⟨selects, fields⟩ := (anchorStep_ok layer.2.2).mp step
  rcases throws_bind.mp threw with fourth | ⟨key, step, threw⟩
  · obtain ⟨⟨account, read⟩, missing⟩ := creatorStep_throws.mp fourth
    exact missing (safe.creator rollup batch anchor account layer root selects fields read)
  obtain ⟨account, read, creator, registered, rfl⟩ := creatorStep_ok.mp step
  rcases throws_bind.mp threw with fifth | ⟨⟨⟩, step, threw⟩
  · obtain ⟨chainId, given, missing⟩ := chainStep_throws.mp fifth
    exact missing (safe.chainId rollup batch anchor account layer root selects fields read creator
      registered chainId given)
  · exact not_signatureStep_throws threw

/-! ### Valid results -/

/-- A result that is returned early is not valid. -/
def Refuses {α : Type} (x : Except Exit α) : Prop := ∀ v, x = .error (.returned v) → v.valid = false

section
variable {α β : Type} {x : Except Exit α} {f : α → Except Exit β} {a : α}

theorem refuses_bind (first : Refuses x) (rest : ∀ a, Refuses (f a)) : Refuses (x >>= f) := by
  intro v h
  rcases bind_error h with here | ⟨a, -, later⟩
  · exact first v here
  · exact rest a v later

theorem refuses_pure : Refuses (pure a : Except Exit α) := by
  intro v same
  cases same

theorem refuses_stop {result : Except JsError FileVerification}
    (refused : ∀ v, result = .ok v → v.valid = false) : Refuses (stop result : Except Exit α) := by
  intro v h
  cases result with
  | ok w =>
    cases h
    exact refused v rfl
  | error err => cases h

theorem refuses_attempt {read : Except JsError α} {failed : String → Except JsError FileVerification}
    (refused : ∀ message v, failed message = .ok v → v.valid = false) : Refuses (attempt read failed) := by
  cases read with
  | ok b =>
    intro v same
    cases same
  | error err => exact refuses_stop (refused err.message)

theorem refuses_uncaught {read : Except JsError α} : Refuses (uncaught read) := by
  intro v h
  cases read with
  | ok b => cases h
  | error err => cases h

theorem refuses_ite {p : Prop} [Decidable p] {y : Except Exit α} (yes : Refuses x) (no : Refuses y) :
    Refuses (if p then x else y) := by
  split
  · exact yes
  · exact no

end

/-- A refusal with values in its text. -/
theorem refusal_templates {value : Json} {reason : String → String} {checks : Checks}
    {anchor : Option AnchorView} {v : FileVerification}
    (h : (do return refusal checks anchor (reason (← template value)) : Except JsError FileVerification) =
      .ok v) : v.valid = false := by
  obtain ⟨text, -, h⟩ := bind_ok h
  cases h
  rfl

theorem rollupStep_refuses : Refuses (rollupStep receipt reads) := by
  unfold rollupStep
  apply refuses_bind
  · apply refuses_attempt
    intro message v h
    exact refusal_templates h
  · intro rollup
    apply refuses_ite refuses_pure
    apply refuses_stop
    intro v h
    obtain ⟨rollupId, -, h⟩ := bind_ok h
    exact refusal_templates h

theorem batchStep_refuses {checks : Checks} : Refuses (batchStep receipt reads checks) := by
  unfold batchStep
  apply refuses_bind
  · apply refuses_attempt
    intro message v h
    exact refusal_templates h
  · intro root
    apply refuses_ite refuses_pure
    apply refuses_stop
    rintro v ⟨⟩
    rfl

theorem anchorStep_refuses {checks : Checks} : Refuses (anchorStep receipt reads checks) := by
  unfold anchorStep
  apply refuses_bind
  · apply refuses_attempt
    intro message v h
    exact refusal_templates h
  · intro anchors
    split
    · apply refuses_stop
      rintro v ⟨⟩
      rfl
    · apply refuses_bind refuses_uncaught
      intro mismatch
      cases mismatch with
      | some text =>
        apply refuses_stop
        rintro v ⟨⟩
        rfl
      | none => exact refuses_pure

theorem creatorStep_refuses {rollup : RollupView} {anchor : AnchorView} {checks : Checks} :
    Refuses (creatorStep receipt reads rollup anchor checks) := by
  unfold creatorStep
  apply refuses_bind
  · apply refuses_attempt
    rintro message v ⟨⟩
    rfl
  · intro account
    apply refuses_ite
    · apply refuses_stop
      intro v h
      exact refusal_templates h
    · apply refuses_ite
      · apply refuses_stop
        rintro v ⟨⟩
        rfl
      · exact refuses_pure

theorem chainStep_refuses {anchor : AnchorView} {checks : Checks} :
    Refuses (chainStep receipt reads anchor checks) := by
  unfold chainStep
  split
  · exact refuses_pure
  · apply refuses_ite
    · apply refuses_stop
      intro v h
      exact refusal_templates h
    · exact refuses_pure

theorem signatureStep_refuses {rollup : RollupView} {anchor : AnchorView} {key : String} {checks : Checks} :
    Refuses (signatureStep receipt reads pqcVerify rollup anchor key checks) := by
  unfold signatureStep
  apply refuses_ite refuses_pure
  apply refuses_stop
  rintro v ⟨⟩
  rfl

theorem verifySteps_refuses : Refuses (verifySteps receipt reads pqcVerify) := by
  unfold verifySteps
  apply refuses_bind rollupStep_refuses
  intro rollup
  apply refuses_bind batchStep_refuses
  intro _
  apply refuses_bind anchorStep_refuses
  intro anchor
  apply refuses_bind creatorStep_refuses
  intro key
  apply refuses_bind chainStep_refuses
  intro _
  exact signatureStep_refuses

/-- A verification that passes every step has compared everything with the chain. -/
theorem agrees_of_verified {v : FileVerification} (schema : fileSchemaError receipt = none)
    (verified : verifySteps receipt reads pqcVerify = .ok v) :
    ∃ rollup batch anchor account, AgreesWithChain pqcVerify receipt reads rollup batch anchor account := by
  have safe : SafeFields receipt reads := by
    apply safeFields_of_returns
    rintro ⟨err, threw⟩
    rw [verified] at threw
    cases threw
  unfold verifySteps at verified
  obtain ⟨rollup, step, verified⟩ := bind_ok verified
  have layer := (rollupStep_ok safe.rollupId).mp step
  have indexed := safe.batchIndex rollup layer
  obtain ⟨⟨⟩, step, verified⟩ := bind_ok verified
  obtain ⟨batch, root⟩ := (batchStep_ok safe.rollupId indexed).mp step
  obtain ⟨anchor, step, verified⟩ := bind_ok verified
  obtain ⟨selects, fields⟩ := (anchorStep_ok layer.2.2).mp step
  obtain ⟨key, step, verified⟩ := bind_ok verified
  obtain ⟨account, keyed, creator, registered, rfl⟩ := creatorStep_ok.mp step
  obtain ⟨⟨⟩, step, verified⟩ := bind_ok verified
  have chain := chainStep_ok.mp step
  unfold signatureStep at verified
  obtain ⟨signature, -⟩ := accept_or_stop_ok_iff.mp verified
  exact ⟨rollup, batch, anchor, account,
    { schema, rollupId := safe.rollupId, batchIndex := indexed, layer, root, selects, fields, keyed, creator,
      registered, chain, signature }⟩

theorem AgreesWithChain.verified {rollup : RollupView} {batch : BatchView} {anchor : AnchorView}
    {account : PqcAccountView} (h : AgreesWithChain pqcVerify receipt reads rollup batch anchor account) :
    ∃ v, verifyReceiptFile receipt reads pqcVerify = .ok v ∧ v.valid = true := by
  have rollupPasses : rollupStep receipt reads = .ok rollup := (rollupStep_ok h.rollupId).mpr h.layer
  have batchPasses : ∀ checks, batchStep receipt reads checks = .ok () := by
    intro checks
    exact (batchStep_ok h.rollupId h.batchIndex).mpr ⟨batch, h.root⟩
  have anchorPasses : ∀ checks, anchorStep receipt reads checks = .ok anchor := by
    intro checks
    exact (anchorStep_ok h.layer.2.2).mpr ⟨h.selects, h.fields⟩
  have creatorPasses : ∀ checks, creatorStep receipt reads rollup anchor checks = .ok account.publicKey := by
    intro checks
    exact creatorStep_ok.mpr ⟨account, h.keyed, h.creator, h.registered, rfl⟩
  have chainPasses : ∀ checks, chainStep receipt reads anchor checks = .ok () := by
    intro checks
    exact chainStep_ok.mpr h.chain
  unfold verifyReceiptFile verifySteps signatureStep
  simp only [h.schema, rollupPasses, batchPasses, anchorPasses, creatorPasses, chainPasses, h.signature,
    bind, Except.bind, if_true]
  exact ⟨_, rfl, rfl⟩

theorem verifyReceiptFile_returns_iff : (∃ v, verifyReceiptFile receipt reads pqcVerify = .ok v) ↔
    fileSchemaError receipt ≠ none ∨ SafeFields receipt reads := by
  unfold verifyReceiptFile
  cases schema : fileSchemaError receipt with
  | some text => simp
  | none =>
    constructor
    · rintro ⟨v, verified⟩
      right
      apply safeFields_of_returns
      rintro ⟨err, threw⟩
      rw [threw] at verified
      cases verified
    · rintro (refused | safe)
      · exact absurd rfl refused
      · cases result : verifySteps receipt reads pqcVerify with
        | ok v => exact ⟨v, rfl⟩
        | error early =>
          cases early with
          | returned v => exact ⟨v, rfl⟩
          | thrown err => exact absurd ⟨err, result⟩ (returns_of_safeFields safe)

/-- A receipt is valid exactly when all that is compared agrees. -/
theorem verifyReceiptFile_valid_iff :
    (∃ v, verifyReceiptFile receipt reads pqcVerify = .ok v ∧ v.valid = true) ↔
      ∃ rollup batch anchor account, AgreesWithChain pqcVerify receipt reads rollup batch anchor account := by
  constructor
  · rintro ⟨v, verified, valid⟩
    unfold verifyReceiptFile at verified
    cases schema : fileSchemaError receipt with
    | some text =>
      rw [schema] at verified
      obtain rfl := Except.ok.inj verified
      cases valid
    | none =>
      rw [schema] at verified
      cases result : verifySteps receipt reads pqcVerify with
      | ok w => exact agrees_of_verified schema result
      | error early =>
        cases early with
        | returned w =>
          simp only [result] at verified
          obtain rfl := Except.ok.inj verified
          rw [verifySteps_refuses w result] at valid
          cases valid
        | thrown err =>
          simp only [result] at verified
          cases verified
  · rintro ⟨rollup, batch, anchor, account, agrees⟩
    exact agrees.verified

/-- Of the receipts that verify, those name their batch for which no other record is served. -/
theorem namesItsBatch_iff {v : FileVerification} (verified : verifyReceiptFile receipt reads pqcVerify = .ok v)
    (valid : v.valid = true) : NamesItsBatch receipt reads ↔ BatchNamed receipt reads := by
  obtain ⟨rollup, batch, anchor, account, agrees⟩ := verifyReceiptFile_valid_iff.mp ⟨v, verified, valid⟩
  have served := agrees.root
  constructor
  · rintro ⟨n, record, index, read, own⟩ other ⟨root, again, -⟩
    obtain rfl : record = other := Except.ok.inj (read.symm.trans again)
    exact ⟨n, index, own⟩
  · intro named
    obtain ⟨n, index, own⟩ := named batch served
    obtain ⟨root, read, -⟩ := served
    exact ⟨n, batch, index, read, own⟩

variable (pqcVerify reads) in
/-- A file that is let through gives a result exactly when its fields are safe as far as they are read. It is then
handled as data if no record of another batch is served with its root, which a receipt that verifies needs. -/
theorem receiptFile_handled (file : Json) : ∀ receipt, readReceiptFile (.ok file) = .ok receipt →
    ((∃ v, verifyReceiptFile receipt reads pqcVerify = .ok v) ↔
      fileSchemaError receipt ≠ none ∨ SafeFields receipt reads) ∧
    (fileSchemaError receipt ≠ none ∨ SafeFields receipt reads → BatchNamed receipt reads →
      HandledAsData pqcVerify receipt reads) ∧
    ∀ v, verifyReceiptFile receipt reads pqcVerify = .ok v → v.valid = true →
      (NamesItsBatch receipt reads ↔ BatchNamed receipt reads) := by
  intro receipt _
  refine ⟨verifyReceiptFile_returns_iff, ?_, fun v verified valid => namesItsBatch_iff verified valid⟩
  intro safe named
  obtain ⟨v, verified⟩ := verifyReceiptFile_returns_iff.mpr safe
  exact ⟨v, verified, fun valid => (namesItsBatch_iff verified valid).mpr named⟩

end

/-- A chain with one rollup, one batch and one anchor; the node reads "07" as 7. -/
def auditedReads : ReceiptReads where
  getRollup := fun _ => .ok { creator := "c", layerId := "layer" }
  getBatch := fun _ _ => .ok {
    batchIndex := 7, stateRoot := "ab", prevStateRoot := "", txCount := 0, dataHash := "", status := "finalized"
    submittedAt := 1, finalizedAt := 2, withdrawalsRoot := "", submittedTime := 0 }
  getAnchors := fun _ => .ok [{
    layerId := "layer", layerHeight := 5, stateRoot := "ab", validatorSetHash := "cd", mainChainHeight := 9
    anchoredAt := 3, pqcSignature := "ef", transactionCount := 0, compressedStateProof := "" }]
  getPqcAccount := fun _ => .ok { publicKey := "01" }
  network := { chainId := "qorechain-vladi", anchorSignV2Height := 100 }

def auditedFile (batchIndex : Json) (extra : List (String × Json)) : Json := .object ([
  ("version", .number (.integer 1)), ("rollupId", .string "r"), ("layerId", .string "layer"),
  ("batchIndex", batchIndex), ("creator", .string "c"), ("algorithm", .string "ML-DSA-87"),
  ("stateRoot", .string "ab"), ("layerHeight", .number (.integer 5)), ("validatorSetHash", .string "cd"),
  ("mainChainHeight", .number (.integer 9)), ("anchoredAt", .number (.integer 3)),
  ("pqcSignature", .string "ef"), ("batchStateRoot", .string "ab")] ++ extra)

def auditedReceipt (batchIndex : Json) (proof : Option Json) : ReceiptFile where
  version := .number (.integer 1)
  rollupId := .string "r"
  layerId := .string "layer"
  batchIndex := batchIndex
  creator := .string "c"
  algorithm := .string "ML-DSA-87"
  stateRoot := .string "ab"
  layerHeight := .number (.integer 5)
  validatorSetHash := .string "cd"
  mainChainHeight := .number (.integer 9)
  anchoredAt := .number (.integer 3)
  pqcSignature := .string "ef"
  batchStateRoot := some (.string "ab")
  compressedStateProof := proof

theorem audited_null_read :
    readReceiptFile (.ok (auditedFile (.number (.integer 7)) [("compressedStateProof", .null)])) =
      .ok (auditedReceipt (.number (.integer 7)) (some .null)) := rfl

theorem audited_text_read : readReceiptFile (.ok (auditedFile (.string "07") [])) =
    .ok (auditedReceipt (.string "07") none) := rfl

theorem audited_null_throws :
    ∃ err, verifyReceiptFile (auditedReceipt (.number (.integer 7)) (some .null)) auditedReads
      (fun _ _ _ => .ok true) = .error err := ⟨_, rfl⟩

theorem audited_text_valid :
    ∃ v, verifyReceiptFile (auditedReceipt (.string "07") none) auditedReads (fun _ _ _ => .ok true) = .ok v ∧
      v.valid = true := ⟨_, rfl, rfl⟩

/-- The file that names its batch by the number is handled; the one that names it by a text verifies, and does not
name it. -/
theorem receiptFile_handled_sample :
    HandledAsData (fun _ _ _ => .ok true) (auditedReceipt (.number (.integer 7)) none) auditedReads ∧
      ¬ NamesItsBatch (auditedReceipt (.string "07") none) auditedReads := by
  have number : readReceiptFile (.ok (auditedFile (.number (.integer 7)) [])) =
      .ok (auditedReceipt (.number (.integer 7)) none) := rfl
  constructor
  · obtain ⟨returns, handled, -⟩ := receiptFile_handled (fun _ _ _ => .ok true) auditedReads _ _ number
    refine handled (returns.mp ⟨_, rfl⟩) ?_
    rintro batch ⟨root, served, -⟩
    obtain rfl := Except.ok.inj served
    exact ⟨7, rfl, rfl⟩
  · obtain ⟨v, verified, valid⟩ := audited_text_valid
    obtain ⟨-, -, named⟩ := receiptFile_handled (fun _ _ _ => .ok true) auditedReads _ _ audited_text_read
    rw [named v verified valid]
    intro law
    obtain ⟨n, index, -⟩ := law _ ⟨"ab", rfl, rfl, by decide, rfl, rfl⟩
    cases index

/-- A proof that is `null` makes the verification throw, and a batch named by a text is verified as the number
that the node takes it for. -/
theorem receiptFile_not_handled :
    (¬ ∀ (pqcVerify : Bytes → Bytes → Bytes → Except JsError Bool) (reads : ReceiptReads) (file : Json)
        (receipt : ReceiptFile), readReceiptFile (.ok file) = .ok receipt →
      ∃ v, verifyReceiptFile receipt reads pqcVerify = .ok v) ∧
    ¬ ∀ (pqcVerify : Bytes → Bytes → Bytes → Except JsError Bool) (reads : ReceiptReads) (file : Json)
        (receipt : ReceiptFile) (v : FileVerification), readReceiptFile (.ok file) = .ok receipt →
      verifyReceiptFile receipt reads pqcVerify = .ok v → v.valid = true → NamesItsBatch receipt reads := by
  constructor
  · intro law
    obtain ⟨err, threw⟩ := audited_null_throws
    obtain ⟨v, returned⟩ := law (fun _ _ _ => .ok true) auditedReads _ _ audited_null_read
    rw [threw] at returned
    cases returned
  · intro law
    obtain ⟨v, returned, valid⟩ := audited_text_valid
    obtain ⟨n, batch, index, -⟩ := law _ _ _ _ v audited_text_read returned valid
    cases index

end QorechainRdk.Receipts
