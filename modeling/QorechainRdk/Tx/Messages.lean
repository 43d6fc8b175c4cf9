import QorechainRdk.Tx.Codecs
import QorechainRdk.Utils.Bytes

/-!
# The message builders

`tx/messages.ts`. Every `fromPartial` of the codecs is the identity on what a builder gives it, and the
address of the signing party comes apart from the input.
-/

namespace QorechainRdk

open Js

def big (value : Integral) : Except JsError Int := bigInt value

/-- What `!value` takes for missing: `undefined` and the empty text, but no array. -/
def missing : Option HexOrBytes → Bool
  | none => true
  | some (.hex s) => s == ""
  | some (.bytes _) => false

/-- `value ? toBytes(value) : EMPTY` -/
def toBytesOrEmpty (value : Option HexOrBytes) : Except JsError Bytes :=
  match value with
  | none => .ok []
  | some v => if missing value then .ok [] else toBytes v

structure CreateRollupInput where
  rollupId : String
  profile : String
  vmType : String
  stakeAmount : Integral
  deriving DecidableEq, Repr

structure SubmitBatchInput where
  rollupId : String
  batchIndex : Integral
  stateRoot : HexOrBytes
  prevStateRoot : Option HexOrBytes := none
  txCount : Integral
  dataHash : Option HexOrBytes := none
  proof : Option HexOrBytes := none
  withdrawalsRoot : Option HexOrBytes := none
  anchorSignature : Option HexOrBytes := none
  validatorSetHash : Option HexOrBytes := none
  deriving DecidableEq, Repr

structure ChallengeBatchInput where
  rollupId : String
  batchIndex : Integral
  proof : HexOrBytes
  deriving DecidableEq, Repr

structure ResolveChallengeInput where
  rollupId : String
  batchIndex : Integral
  fraudUpheld : Bool
  deriving DecidableEq, Repr

structure PauseRollupInput where
  rollupId : String
  reason : Option String := none
  deriving DecidableEq, Repr

structure ExecuteWithdrawalInput where
  rollupId : String
  batchIndex : Integral
  withdrawalIndex : Integral
  recipient : String
  denom : String
  amount : Integral
  proof : Option (List HexOrBytes) := none
  deriving DecidableEq, Repr

def vmTypeWireValue (vmType : String) : String := if vmType = "native" then "cosmwasm" else vmType

def createRollupMsg (creator : String) (input : CreateRollupInput) : Except JsError MsgCreateRollup := do
  let stakeAmount ← big input.stakeAmount
  return {
    creator
    rollupId := input.rollupId
    profile := input.profile
    vmType := vmTypeWireValue input.vmType
    stakeAmount }

def submitBatchMsg (sequencer : String) (input : SubmitBatchInput) : Except JsError MsgSubmitBatch := do
  let batchIndex ← big input.batchIndex
  let stateRoot ← toBytes input.stateRoot
  let prevStateRoot ← toBytesOrEmpty input.prevStateRoot
  let txCount ← big input.txCount
  let dataHash ← toBytesOrEmpty input.dataHash
  let proof ← toBytesOrEmpty input.proof
  let withdrawalsRoot ← toBytesOrEmpty input.withdrawalsRoot
  let anchorSignature ← toBytesOrEmpty input.anchorSignature
  let validatorSetHash ← toBytesOrEmpty input.validatorSetHash
  return {
    sequencer
    rollupId := input.rollupId
    batchIndex, stateRoot, prevStateRoot, txCount, dataHash, proof, withdrawalsRoot, anchorSignature
    validatorSetHash }

def challengeBatchMsg (challenger : String) (input : ChallengeBatchInput) :
    Except JsError MsgChallengeBatch := do
  let batchIndex ← big input.batchIndex
  let proof ← toBytes input.proof
  return { challenger, rollupId := input.rollupId, batchIndex, proof }

def resolveChallengeMsg (resolver : String) (input : ResolveChallengeInput) :
    Except JsError MsgResolveChallenge := do
  let batchIndex ← big input.batchIndex
  return { resolver, rollupId := input.rollupId, batchIndex, fraudUpheld := input.fraudUpheld }

def pauseRollupMsg (creator : String) (input : PauseRollupInput) : MsgPauseRollup where
  creator := creator
  rollupId := input.rollupId
  reason := input.reason.getD ""

def resumeRollupMsg (creator rollupId : String) : MsgResumeRollup := { creator, rollupId }

def stopRollupMsg (creator rollupId : String) : MsgStopRollup := { creator, rollupId }

def executeWithdrawalMsg (submitter : String) (input : ExecuteWithdrawalInput) :
    Except JsError MsgExecuteWithdrawal := do
  let batchIndex ← big input.batchIndex
  let withdrawalIndex ← big input.withdrawalIndex
  let amount ← big input.amount
  let proof ← (input.proof.getD []).mapM toBytes
  return {
    submitter
    rollupId := input.rollupId
    batchIndex, withdrawalIndex
    recipient := input.recipient
    denom := input.denom
    amount, proof }

theorem toBytesOrEmpty_missing {value : Option HexOrBytes} (absent : missing value = true) :
    toBytesOrEmpty value = .ok [] := by
  cases value with
  | none => rfl
  | some v => exact if_pos absent

theorem toBytesOrEmpty_given {v : HexOrBytes} (given : missing (some v) = false) :
    toBytesOrEmpty (some v) = toBytes v := by
  unfold toBytesOrEmpty
  rw [given]
  rfl

/-- The message says what the input does, field by field. -/
structure SubmitBatchInput.Becomes (input : SubmitBatchInput) (message : MsgSubmitBatch) : Prop where
  rollupId : message.rollupId = input.rollupId
  batchIndex : bigInt input.batchIndex = .ok message.batchIndex
  stateRoot : toBytes input.stateRoot = .ok message.stateRoot
  prevStateRoot : toBytesOrEmpty input.prevStateRoot = .ok message.prevStateRoot
  txCount : bigInt input.txCount = .ok message.txCount
  dataHash : toBytesOrEmpty input.dataHash = .ok message.dataHash
  proof : toBytesOrEmpty input.proof = .ok message.proof
  withdrawalsRoot : toBytesOrEmpty input.withdrawalsRoot = .ok message.withdrawalsRoot
  anchorSignature : toBytesOrEmpty input.anchorSignature = .ok message.anchorSignature
  validatorSetHash : toBytesOrEmpty input.validatorSetHash = .ok message.validatorSetHash

theorem submitBatchMsg_ok_iff {sequencer : String} {input : SubmitBatchInput} {message : MsgSubmitBatch} :
    submitBatchMsg sequencer input = .ok message ↔
      message.sequencer = sequencer ∧ input.Becomes message := by
  unfold submitBatchMsg big
  simp only [bind_ok_iff, pure_ok_iff]
  constructor
  · intro built
    obtain ⟨_, batchIndex, _, stateRoot, _, prevStateRoot, _, txCount, _, dataHash, _, proof, _,
      withdrawalsRoot, _, anchorSignature, _, validatorSetHash, rfl⟩ := built
    exact ⟨rfl, rfl, batchIndex, stateRoot, prevStateRoot, txCount, dataHash, proof, withdrawalsRoot,
      anchorSignature, validatorSetHash⟩
  · intro becomes
    obtain ⟨rfl, h⟩ := becomes
    refine ⟨_, h.batchIndex, _, h.stateRoot, _, h.prevStateRoot, _, h.txCount, _, h.dataHash, _, h.proof, _,
      h.withdrawalsRoot, _, h.anchorSignature, _, h.validatorSetHash, ?_⟩
    rw [← h.rollupId]

/-- A withdrawal is built from its numbers and its siblings; the rest is handed on. -/
theorem executeWithdrawalMsg_ok_iff {submitter : String} {input : ExecuteWithdrawalInput}
    {message : MsgExecuteWithdrawal} : executeWithdrawalMsg submitter input = .ok message ↔
      ∃ batchIndex withdrawalIndex amount proof, bigInt input.batchIndex = .ok batchIndex ∧
        bigInt input.withdrawalIndex = .ok withdrawalIndex ∧ bigInt input.amount = .ok amount ∧
        (input.proof.getD []).mapM toBytes = .ok proof ∧
        message = ⟨submitter, input.rollupId, batchIndex, withdrawalIndex, input.recipient, input.denom,
          amount, proof⟩ := by
  unfold executeWithdrawalMsg big
  simp only [bind_ok_iff, pure_ok_iff]
  constructor
  · intro built
    obtain ⟨b, batchIndex, w, withdrawalIndex, a, amount, p, proof, same⟩ := built
    exact ⟨b, w, a, p, batchIndex, withdrawalIndex, amount, proof, same.symm⟩
  · intro built
    obtain ⟨b, w, a, p, batchIndex, withdrawalIndex, amount, proof, same⟩ := built
    exact ⟨b, batchIndex, w, withdrawalIndex, a, amount, p, proof, same.symm⟩

end QorechainRdk
