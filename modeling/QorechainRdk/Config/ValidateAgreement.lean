import QorechainRdk.Config.ValidateSdks

/-!
# The clients judge a configuration alike

Every configuration of a client is one of `config/types.ts`, and both validators find as many faults in it. Python
passes one more stake, a number with a newline behind it.
-/

namespace QorechainRdk

open Js

/-! ### Each type as the one of TypeScript -/

def Go.SequencerParams.toTs (params : Go.SequencerParams) : QorechainRdk.SequencerParams where
  sequencerAddress := if params.sequencerAddress = "" then none else some params.sequencerAddress
  sharedSetMinSize := params.sharedSetMinSize.map .integer
  inclusionDelay := params.inclusionDelay.map .integer
  priorityFeeShare := if params.priorityFeeShare = "" then none else some params.priorityFeeShare

/-- What is zero or empty and may be missing is not set. -/
def Go.RollupConfig.toTs (config : Go.RollupConfig) : QorechainRdk.RollupConfig where
  rollupId := some config.rollupID
  profile := some config.profile
  settlement := some config.settlement
  sequencer := some config.sequencer
  sequencerParams := config.sequencerParams.map Go.SequencerParams.toTs
  da := some config.da
  proofSystem := some config.proofSystem
  gasModel := some config.gasModel
  vmType := some config.vmType
  blockTimeMs := some (.integer config.blockTimeMs)
  maxTxPerBlock := some (.integer config.maxTxPerBlock)
  challengeWindowSecs := if config.challengeWindowSecs = 0 then none else some (.integer config.challengeWindowSecs)
  challengeBondUqor := if config.challengeBondUqor = "" then none else some config.challengeBondUqor
  maxDaBlobSize := if config.maxDaBlobSize = 0 then none else some (.integer config.maxDaBlobSize)
  stakeAmountUqor := if config.stakeAmountUqor = "" then none else some config.stakeAmountUqor

def Rust.SequencerParams.toTs (params : Rust.SequencerParams) : QorechainRdk.SequencerParams where
  sequencerAddress := params.sequencerAddress
  sharedSetMinSize := params.sharedSetMinSize.map .integer
  inclusionDelay := params.inclusionDelay.map .integer
  priorityFeeShare := params.priorityFeeShare

def Rust.RollupConfig.toTs (config : Rust.RollupConfig) : QorechainRdk.RollupConfig where
  rollupId := some config.rollupId
  profile := some config.profile.text
  settlement := some config.settlement.text
  sequencer := some config.sequencer.text
  sequencerParams := config.sequencerParams.map Rust.SequencerParams.toTs
  da := some config.da.text
  proofSystem := some config.proofSystem.text
  gasModel := some config.gasModel.text
  vmType := some (Rust.vmTypeAsStr config.vmType)
  blockTimeMs := some (.integer config.blockTimeMs)
  maxTxPerBlock := some (.integer config.maxTxPerBlock)
  challengeWindowSecs := config.challengeWindowSecs.map .integer
  challengeBondUqor := config.challengeBondUqor
  maxDaBlobSize := config.maxDaBlobSize.map .integer
  stakeAmountUqor := config.stakeAmountUqor

def Jvm.SequencerParams.toTs (params : Jvm.SequencerParams) : QorechainRdk.SequencerParams where
  sequencerAddress := params.sequencerAddress
  sharedSetMinSize := params.sharedSetMinSize.map .integer
  inclusionDelay := params.inclusionDelay.map .integer
  priorityFeeShare := params.priorityFeeShare

def Jvm.RollupConfig.toTs (config : Jvm.RollupConfig) : QorechainRdk.RollupConfig where
  rollupId := config.rollupId
  profile := config.profile.map ProfileName.text
  settlement := config.settlement.map SettlementParadigm.text
  sequencer := config.sequencer.map SequencerMode.text
  sequencerParams := config.sequencerParams.map Jvm.SequencerParams.toTs
  da := config.da.map DABackend.text
  proofSystem := config.proofSystem.map ProofSystem.text
  gasModel := config.gasModel.map GasModel.text
  vmType := config.vmType.map VmType.text
  blockTimeMs := some (.integer config.blockTimeMs)
  maxTxPerBlock := some (.integer config.maxTxPerBlock)
  challengeWindowSecs := config.challengeWindowSecs.map .integer
  challengeBondUqor := config.challengeBondUqor
  maxDaBlobSize := config.maxDaBlobSize.map .integer
  stakeAmountUqor := config.stakeAmountUqor

def Py.SequencerParams.toTs (params : Py.SequencerParams) : QorechainRdk.SequencerParams where
  sequencerAddress := params.sequencerAddress
  sharedSetMinSize := params.sharedSetMinSize
  inclusionDelay := params.inclusionDelay
  priorityFeeShare := params.priorityFeeShare

def Py.RollupConfig.toTs (config : Py.RollupConfig) : QorechainRdk.RollupConfig where
  rollupId := some config.rollupId
  profile := some config.profile
  settlement := some config.settlement
  sequencer := some config.sequencer
  sequencerParams := config.sequencerParams.map Py.SequencerParams.toTs
  da := some config.da
  proofSystem := some config.proofSystem
  gasModel := some config.gasModel
  vmType := some config.vmType
  blockTimeMs := some config.blockTimeMs
  maxTxPerBlock := some config.maxTxPerBlock
  challengeWindowSecs := config.challengeWindowSecs
  challengeBondUqor := config.challengeBondUqor
  maxDaBlobSize := config.maxDaBlobSize
  stakeAmountUqor := config.stakeAmountUqor

/-! ### One fault a check -/

/-- How many faults a check finds. -/
def faults (passes : Bool) : Nat := if passes then 0 else 1

section
variable {quote : String → String} {field noun unit : String} {held : Option String} {s id : String}
  {blank : Char → Bool}

theorem closedErrors_length {known : Bool} : (closedErrors field noun known held).length = faults known := by
  cases known <;> rfl

theorem closedErrorsWith_length {known : Bool} : (closedErrorsWith quote field noun known s).length = faults known := by
  cases known <;> rfl

theorem requiredErrors_length {n : Option Number} {message : String} :
    (requiredErrors message n).length = faults (n.any isPositiveInteger) := by
  unfold requiredErrors faults
  split <;> rfl

theorem optionalErrors_length {α : Type} {accepts : α → Bool} {n : Option α} {message : String} :
    (optionalErrors message accepts n).length = faults (n.all accepts) := by
  unfold optionalErrors faults
  split <;> rfl

theorem boundErrors_length {accepted : Bool} : (boundErrors field unit accepted).length = faults accepted := by
  cases accepted <;> rfl

theorem basedErrors_length {violated : Bool} : (basedErrors violated).length = faults !violated := by
  cases violated <;> rfl

theorem basedErrors_ts {settlement sequencer : Option String} {message : String} :
    (if requiresBasedSequencer settlement ∧ sequencer ≠ some SequencerMode.based.text then [message] else []).length =
      faults !(requiresBasedSequencer settlement && sequencer != some SequencerMode.based.text) := by
  by_cases violated : requiresBasedSequencer settlement = true ∧ sequencer ≠ some SequencerMode.based.text
  · rw [if_pos violated]
    simp [faults, violated.1, violated.2]
  · rw [if_neg violated]
    have passes : (requiresBasedSequencer settlement && sequencer != some SequencerMode.based.text) = false := by
      simpa [bne_iff_ne] using violated
    rw [passes]
    rfl

/-- The texts of two values of closed sets are only looked at to print them. -/
theorem matrixErrors_length {settlement proof : Option String} :
    (matrixErrors settlement proof).length =
      (matrixErrorsWith quote (spelled SettlementParadigm.text SETTLEMENT_PARADIGMS settlement)
        (spelled ProofSystem.text PROOF_SYSTEMS proof)).length := by
  unfold matrixErrors matrixErrorsWith
  cases spelled SettlementParadigm.text SETTLEMENT_PARADIGMS settlement with
  | none => rfl
  | some paradigm =>
    cases spelled ProofSystem.text PROOF_SYSTEMS proof with
    | none => rfl
    | some system =>
      show (if isProofCompatible paradigm system then [] else _).length =
        (if isProofCompatible paradigm system then [] else _).length
      cases isProofCompatible paradigm system <;> rfl

/-! ### Ids -/

theorem visible_of_ascii (all : ∀ n : Fin 128, LowerOrDigit (Char.ofNat n) → blank (Char.ofNat n) = false) {c : Char}
    (h : LowerOrDigit c) : blank c = false := by
  have ascii : c.toNat < 128 := code_ascii (Or.inl ((lowerOrDigit_iff c).mp h))
  have same := all ⟨c.toNat, ascii⟩
  simp only [Char.ofNat_toNat] at same
  exact same h

/-- An id that the grammar allows begins with what no client takes for a blank. -/
theorem trimBy_id (all : ∀ n : Fin 128, LowerOrDigit (Char.ofNat n) → blank (Char.ofNat n) = false)
    (clear : rollupIdError id = none) : trimBy blank id ≠ "" := by
  obtain ⟨first, rest, characters, start, -⟩ := rollupIdError_none_iff.mp clear
  have visible := visible_of_ascii all start
  obtain ⟨front, back, text, left, right⟩ := trimBy_split blank id
  intro empty
  rw [empty] at text
  have member : first ∈ front ++ back := by
    rw [characters] at text
    have : first ∈ front ++ ("".toList ++ back) := text ▸ List.mem_cons_self
    simpa using this
  rcases List.mem_append.mp member with member | member
  · exact absurd (left first member) (by simp [visible])
  · exact absurd (right first member) (by simp [visible])

theorem idErrorsWith_length {missing : Bool} {idError : Option String} (same : idError.isNone = isValidRollupId id)
    (visible : rollupIdError id = none → missing = false) :
    (idErrorsWith quote field missing s idError).length = faults (isValidRollupId id) := by
  unfold idErrorsWith
  rw [← same]
  cases idError with
  | none =>
    have clear : rollupIdError id = none := Option.isNone_iff_eq_none.mp same.symm
    rw [visible clear]
    rfl
  | some e => cases missing <;> rfl

theorem rollupIdErrors_length {rollupId : Option String} :
    (rollupIdErrors rollupId).length = faults (rollupId.any isValidRollupId) := by
  cases rollupId with
  | none => rfl
  | some id =>
    rw [Option.any_some]
    cases clear : rollupIdError id with
    | none =>
      have nothing : rollupIdErrors (some id) = [] :=
        rollupIdErrors_nil_iff.mpr ⟨id, rfl, rollupIdError_none_iff.mp clear⟩
      rw [nothing, isValidRollupId, clear]
      rfl
    | some e =>
      unfold rollupIdErrors
      rw [Option.getD_some, isValidRollupId, clear]
      dsimp only
      split
      · rfl
      · rw [clear]
        rfl

theorem goIdError_none :
    (if Go.rollupIDError (encode id) ≠ "" then some (Go.rollupIDError (encode id)) else none).isNone =
      isValidRollupId id := by
  have same : Go.rollupIDError (encode id) = (rollupIdError id).getD "" := by
    unfold Go.rollupIDError
    rw [idError_encode]
  rw [same, isValidRollupId]
  cases given : rollupIdError id with
  | none => rfl
  | some e =>
    have nonempty : e ≠ "" := by
      intro empty
      rw [← idError_encode, empty] at given
      exact idError_ne_empty given
    simp [nonempty]

theorem jvmIdError : Jvm.rollupIdError (some (Utf16.units id.toList)) = rollupIdError id := by
  unfold Jvm.rollupIdError
  rw [Option.getD_some, Utf16.encodeUtf8_units, ← encode_eq_flatMap]
  exact idError_encode id

/-! ### Stakes -/

theorem utf8_digit (c : Char) :
    (String.utf8EncodeChar c).all (fun b => decide (0x30 ≤ b) && decide (b ≤ 0x39)) = c.isDigit := by
  by_cases ascii : c.toNat < 128
  · have all : ∀ n : Fin 128, (String.utf8EncodeChar (Char.ofNat n)).all
        (fun b => decide (0x30 ≤ b) && decide (b ≤ 0x39)) = (Char.ofNat n).isDigit := by decide
    have same := all ⟨c.toNat, ascii⟩
    simpa only [Char.ofNat_toNat] using same
  · obtain ⟨b, rest, text, large⟩ := Utf16.utf8EncodeChar_beyond (Nat.not_lt.mp ascii)
    have foreign : c.isDigit = false := by
      rw [Bool.eq_false_iff]
      intro digit
      have bounds := Decimals.digit_bounds digit
      omega
    have beyond : ¬ b ≤ 0x39 := by
      rw [UInt8.le_iff_toNat_le]
      show ¬ b.toNat ≤ 57
      omega
    rw [text, List.all_cons, foreign]
    simp [beyond]

theorem rust_isPositiveIntegerString : Rust.isPositiveIntegerString s = isPositiveIntegerString s := by
  unfold Rust.isPositiveIntegerString isPositiveIntegerString
  rw [encode_eq_flatMap]
  dsimp only
  rw [List.all_flatMap]
  simp only [utf8_digit]
  cases s.toList with
  | nil => rfl
  | cons c cs =>
    rw [List.flatMap_cons, List.all_cons]
    cases digit : c.isDigit with
    | false =>
      have foreign : ¬ ('1' ≤ c ∧ c ≤ '9') := by
        intro bounds
        have above : '1'.toNat ≤ c.toNat := UInt32.le_iff_toNat_le.mp bounds.1
        have below : c.toNat ≤ '9'.toNat := UInt32.le_iff_toNat_le.mp bounds.2
        have inside : c.isDigit = true := Char.isDigit_iff_toNat.mpr ⟨by simpa using Nat.le_of_lt above, below⟩
        simp [digit] at inside
      simp [foreign]
    | true =>
      have ascii : c.toNat < 128 := Nat.lt_of_le_of_lt (Decimals.digit_bounds digit).2 (by decide)
      have all : ∀ n : Fin 128, (Char.ofNat n).isDigit = true → (some (UInt8.ofNat (Char.ofNat n).toNat) != some 0x30) =
          (decide ('1' ≤ Char.ofNat n) && decide (Char.ofNat n ≤ '9')) := by decide
      have first := all ⟨c.toNat, ascii⟩
      simp only [Char.ofNat_toNat] at first
      rw [Utf16.utf8EncodeChar_ascii ascii, List.singleton_append, List.head?_cons, first digit]
      simp

/-- A text without the newline at its end. -/
def withoutLastNewline (s : String) : String :=
  if s.toList.getLast? = some '\n' then String.ofList s.toList.dropLast else s

theorem py_isPositiveIntegerString : Py.isPositiveIntegerString s = isPositiveIntegerString (withoutLastNewline s) := by
  unfold Py.isPositiveIntegerString withoutLastNewline
  by_cases newline : s.toList.getLast? = some '\n'
  · have refused : isPositiveIntegerString s = false := by
      have member := List.mem_of_getLast? newline
      rw [Bool.eq_false_iff]
      intro positive
      unfold isPositiveIntegerString at positive
      split at positive
      · cases positive
      · rename_i c cs characters
        rw [characters] at member
        simp only [Bool.and_eq_true, decide_eq_true_eq, List.all_eq_true] at positive
        rcases List.mem_cons.mp member with rfl | tail
        · exact absurd positive.1.1 (by decide)
        · exact absurd (positive.2 _ tail) (by decide)
    rw [if_pos newline, refused, newline]
    simp
  · rw [if_neg newline]
    simp [newline]

end

/-! ### One judgement -/

structure SameJudgement (a b : ValidationResult) : Prop where
  valid : a.valid = b.valid
  faults : a.errors.length = b.errors.length
  warnings : a.warnings = b.warnings

theorem sameJudgement_of_faults {a b : ValidationResult} (valid : a.valid = a.errors.isEmpty)
    (valid' : b.valid = b.errors.isEmpty) (same : a.errors.length = b.errors.length)
    (warnings : a.warnings = b.warnings) : SameJudgement a b := by
  refine ⟨?_, same, warnings⟩
  rw [valid, valid', Bool.eq_iff_iff, List.isEmpty_iff_length_eq_zero, List.isEmpty_iff_length_eq_zero, same]

/-- The faults that are found in a configuration, check by check. -/
theorem validateRollupConfig_faults (quote : String → String) (config : RollupConfig) :
    (validateRollupConfig config).errors.length =
      faults (config.rollupId.any isValidRollupId) +
      faults (includes SettlementParadigm.text SETTLEMENT_PARADIGMS config.settlement) +
      faults (includes SequencerMode.text SEQUENCER_MODES config.sequencer) +
      faults (includes ProofSystem.text PROOF_SYSTEMS config.proofSystem) +
      faults (includes DABackend.text DA_BACKENDS config.da) +
      faults (includes GasModel.text GAS_MODELS config.gasModel) +
      faults (isVmType config.vmType) +
      (matrixErrorsWith quote (spelled SettlementParadigm.text SETTLEMENT_PARADIGMS config.settlement)
        (spelled ProofSystem.text PROOF_SYSTEMS config.proofSystem)).length +
      faults (!(requiresBasedSequencer config.settlement && config.sequencer != some SequencerMode.based.text)) +
      faults (config.blockTimeMs.any isPositiveInteger) +
      faults (config.maxTxPerBlock.any isPositiveInteger) +
      faults (config.stakeAmountUqor.all isPositiveIntegerString) +
      faults (config.challengeWindowSecs.all isPositiveInteger) +
      faults (config.maxDaBlobSize.all isPositiveInteger) := by
  unfold validateRollupConfig
  dsimp only
  simp only [List.length_append, rollupIdErrors_length, closedErrors_length, basedErrors_ts,
    requiredErrors_length, optionalErrors_length]
  rw [@matrixErrors_length quote]

theorem validateRollupConfig_valid (config : RollupConfig) :
    (validateRollupConfig config).valid = (validateRollupConfig config).errors.isEmpty := by
  unfold validateRollupConfig
  dsimp only

theorem warnings_ts (config : RollupConfig) : (validateRollupConfig config).warnings =
    celestiaWarnings (config.da == some DABackend.celestia.text || config.da == some DABackend.both.text) := by
  unfold validateRollupConfig celestiaWarnings
  dsimp only
  simp only [Bool.or_eq_true, beq_iff_eq]

theorem goZero_faults (n : Int) :
    faults (decide (0 ≤ n)) = faults ((if n = 0 then none else some (Number.integer n)).all isPositiveInteger) := by
  by_cases zero : n = 0
  · rw [if_pos zero, zero]
    rfl
  · rw [if_neg zero]
    have same : decide (0 ≤ n) = decide (0 < n) := by
      rw [decide_eq_decide]
      omega
    rw [same]
    rfl

theorem goEmpty_faults (s : String) : faults (s == "" || isPositiveIntegerString s) =
    faults ((if s = "" then none else some s).all isPositiveIntegerString) := by
  by_cases empty : s = ""
  · rw [if_pos empty, empty]
    rfl
  · have solid : (s == "") = false := beq_eq_false_iff_ne.mpr empty
    rw [if_neg empty, solid]
    rfl

theorem go_sameJudgement (config : Go.RollupConfig) :
    SameJudgement (Go.validateRollupConfig config) (validateRollupConfig config.toTs) := by
  apply sameJudgement_of_faults
  · unfold Go.validateRollupConfig
    dsimp only
  · exact validateRollupConfig_valid _
  · have visible : rollupIdError config.rollupID = none → (Go.trimSpace config.rollupID == "") = false := by
      intro clear
      exact beq_eq_false_iff_ne.mpr (trimBy_id (by decide) clear)
    rw [validateRollupConfig_faults Go.quote]
    unfold Go.validateRollupConfig
    dsimp only
    simp only [List.length_append, idErrorsWith_length goIdError_none visible, closedErrorsWith_length,
      boundErrors_length, basedErrors_length, goZero_faults, goEmpty_faults]
    rfl
  · rw [warnings_ts]
    rfl

/-! ### Values of closed sets -/

theorem settlement_included (v : SettlementParadigm) :
    includes SettlementParadigm.text SETTLEMENT_PARADIGMS (some v.text) = true := by
  unfold includes
  rw [settlement_spelled]
  rfl

theorem sequencer_included (v : SequencerMode) : includes SequencerMode.text SEQUENCER_MODES (some v.text) = true := by
  cases v <;> decide

theorem proofSystem_included (v : ProofSystem) : includes ProofSystem.text PROOF_SYSTEMS (some v.text) = true := by
  unfold includes
  rw [proofSystem_spelled]
  rfl

theorem da_included (v : DABackend) : includes DABackend.text DA_BACKENDS (some v.text) = true := by
  cases v <;> decide

theorem gasModel_included (v : GasModel) : includes GasModel.text GAS_MODELS (some v.text) = true := by
  cases v <;> decide

theorem rust_vmType_included (v : VmType) : isVmType (some (Rust.vmTypeAsStr v)) = true := by
  cases v <;> decide

theorem requiresBased_text (settlement : SettlementParadigm) :
    requiresBasedSequencer (some settlement.text) = (settlement == .based) := by
  cases settlement <;> decide

theorem notBased_text (sequencer : SequencerMode) :
    (some sequencer.text != some SequencerMode.based.text) = (sequencer != .based) := by
  cases sequencer <;> decide

theorem celestia_text (da : DABackend) :
    (some da.text == some DABackend.celestia.text || some da.text == some DABackend.both.text) =
      (da == .celestia || da == .both) := by
  cases da <;> decide

/-- A field that may be null is in its set where it is not. -/
theorem includes_map {α : Type} {text : α → String} {values : List α}
    (all : ∀ v, includes text values (some (text v)) = true) (held : Option α) :
    includes text values (held.map text) = held.isSome := by
  cases held with
  | none => simp [includes, spelled]
  | some v => exact all v

theorem spelled_map {α : Type} {text : α → String} {values : List α}
    (all : ∀ v, spelled text values (some (text v)) = some v) (held : Option α) :
    spelled text values (held.map text) = held := by
  cases held with
  | none => simp [spelled]
  | some v => exact all v

theorem vmType_map (held : Option VmType) :
    isVmType (held.map VmType.text) = held.any fun vm => isVmType (some vm.text) := by
  cases held with
  | none => decide
  | some vm => rfl

theorem based_map (settlement : Option SettlementParadigm) (sequencer : Option SequencerMode) :
    (requiresBasedSequencer (settlement.map SettlementParadigm.text) &&
      sequencer.map SequencerMode.text != some SequencerMode.based.text) =
      (settlement == some .based && sequencer != some .based) := by
  have required : requiresBasedSequencer (settlement.map SettlementParadigm.text) = (settlement == some .based) := by
    cases settlement with
    | none => rfl
    | some v => exact requiresBased_text v
  have other : (sequencer.map SequencerMode.text != some SequencerMode.based.text) = (sequencer != some .based) := by
    cases sequencer with
    | none => rfl
    | some v => exact notBased_text v
  rw [required, other]

theorem requiresBased_spelled (settlement : String) :
    (spelled SettlementParadigm.text SETTLEMENT_PARADIGMS (some settlement) == some .based) =
      requiresBasedSequencer (some settlement) := by
  cases found : spelled SettlementParadigm.text SETTLEMENT_PARADIGMS (some settlement) with
  | some v =>
    rw [spelled_text found, requiresBased_text]
    rfl
  | none =>
    have other : some settlement ≠ some SettlementParadigm.based.text := by
      intro same
      rw [same, settlement_spelled] at found
      cases found
    exact (beq_eq_false_iff_ne.mpr other).symm

theorem all_integer (n : Option Int) :
    (n.map Number.integer).all isPositiveInteger = n.all fun n => decide (0 < n) := by
  cases n <;> rfl

theorem rust_sameJudgement (config : Rust.RollupConfig) :
    SameJudgement (Rust.validateRollupConfig config) (validateRollupConfig config.toTs) := by
  apply sameJudgement_of_faults
  · unfold Rust.validateRollupConfig
    dsimp only
  · exact validateRollupConfig_valid _
  · have same : (Rust.rollupIdError config.rollupId).isNone = isValidRollupId config.rollupId :=
      congrArg Option.isNone (idError_encode config.rollupId)
    have visible : rollupIdError config.rollupId = none → (Rust.trim config.rollupId).isEmpty = false := by
      intro clear
      have solid : Rust.trim config.rollupId ≠ "" := trimBy_id (by decide) clear
      simpa using solid
    have stakes : Rust.isPositiveIntegerString = isPositiveIntegerString :=
      funext fun s => rust_isPositiveIntegerString
    rw [validateRollupConfig_faults quoted]
    unfold Rust.validateRollupConfig Rust.RollupConfig.toTs
    dsimp only
    simp only [List.length_append, idErrorsWith_length same visible, closedErrorsWith_length, boundErrors_length,
      basedErrors_length, settlement_included, sequencer_included, proofSystem_included, da_included,
      gasModel_included, rust_vmType_included, settlement_spelled, proofSystem_spelled, requiresBased_text,
      notBased_text, all_integer, stakes]
    rfl
  · rw [warnings_ts]
    unfold Rust.validateRollupConfig Rust.RollupConfig.toTs
    dsimp only
    rw [celestia_text]

theorem jvm_sameJudgement (config : Jvm.RollupConfig) :
    SameJudgement (Jvm.validateRollupConfig config) (validateRollupConfig config.toTs) := by
  apply sameJudgement_of_faults
  · unfold Jvm.validateRollupConfig
    dsimp only
  · exact validateRollupConfig_valid _
  · have ids : (idErrorsWith quoted "rollupId"
        (config.rollupId.isNone || (Jvm.trim (config.rollupId.getD "")).isEmpty) (config.rollupId.getD "")
        (Jvm.rollupIdError (some (Utf16.units (config.rollupId.getD "").toList)))).length =
          faults (config.rollupId.any isValidRollupId) := by
      cases config.rollupId with
      | none => rfl
      | some id =>
        refine idErrorsWith_length (congrArg Option.isNone jvmIdError) ?_
        intro clear
        have solid : Jvm.trim id ≠ "" := trimBy_id (by decide) clear
        simpa using solid
    rw [validateRollupConfig_faults quoted]
    unfold Jvm.validateRollupConfig Jvm.RollupConfig.toTs
    dsimp only
    simp only [List.length_append, ids, closedErrorsWith_length, boundErrors_length, basedErrors_length,
      includes_map settlement_included, includes_map sequencer_included, includes_map proofSystem_included,
      includes_map da_included, includes_map gasModel_included, vmType_map, based_map, all_integer,
      spelled_map settlement_spelled, spelled_map proofSystem_spelled]
    rfl
  · rw [warnings_ts]
    unfold Jvm.validateRollupConfig Jvm.RollupConfig.toTs
    dsimp only
    cases config.da with
    | none => rfl
    | some da => exact congrArg celestiaWarnings (celestia_text da).symm

theorem py_sameJudgement (config : Py.RollupConfig) :
    SameJudgement (Py.validateRollupConfig config)
      (validateRollupConfig { config.toTs with
        stakeAmountUqor := config.stakeAmountUqor.map withoutLastNewline }) := by
  apply sameJudgement_of_faults
  · unfold Py.validateRollupConfig
    dsimp only
  · exact validateRollupConfig_valid _
  · have same : (Py.rollupIdError config.rollupId).isNone = isValidRollupId config.rollupId :=
      congrArg Option.isNone (idError_encode config.rollupId)
    have visible : rollupIdError config.rollupId = none →
        (config.rollupId == "" || Py.strip config.rollupId == "") = false := by
      intro clear
      have nonempty : config.rollupId ≠ "" := by
        intro empty
        rw [empty] at clear
        revert clear
        decide
      have solid : Py.strip config.rollupId ≠ "" := trimBy_id (by decide) clear
      simp [beq_eq_false_iff_ne.mpr nonempty, beq_eq_false_iff_ne.mpr solid]
    have stakes : (config.stakeAmountUqor.map withoutLastNewline).all isPositiveIntegerString =
        config.stakeAmountUqor.all Py.isPositiveIntegerString := by
      cases config.stakeAmountUqor with
      | none => rfl
      | some s => exact py_isPositiveIntegerString.symm
    rw [validateRollupConfig_faults quoted]
    unfold Py.validateRollupConfig Py.RollupConfig.toTs
    dsimp only
    simp only [List.length_append, idErrorsWith_length same visible, closedErrorsWith_length, boundErrors_length,
      basedErrors_length, requiresBased_spelled, stakes]
    rfl
  · rw [warnings_ts]
    rfl

/-- Whatever client holds a configuration, it finds the faults that TypeScript finds in it; what Go holds as zero is
not set there, and Python reads a stake without the newline at its end. -/
theorem validators_agree :
    (∀ config : Go.RollupConfig, SameJudgement (Go.validateRollupConfig config) (validateRollupConfig config.toTs)) ∧
    (∀ config : Rust.RollupConfig,
      SameJudgement (Rust.validateRollupConfig config) (validateRollupConfig config.toTs)) ∧
    (∀ config : Jvm.RollupConfig,
      SameJudgement (Jvm.validateRollupConfig config) (validateRollupConfig config.toTs)) ∧
    (∀ config : Py.RollupConfig, SameJudgement (Py.validateRollupConfig config)
      (validateRollupConfig { config.toTs with
        stakeAmountUqor := config.stakeAmountUqor.map withoutLastNewline })) :=
  ⟨go_sameJudgement, rust_sameJudgement, jvm_sameJudgement, py_sameJudgement⟩

end QorechainRdk
