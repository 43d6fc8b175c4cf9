import QorechainRdk.Lib.Protobuf
import QorechainRdk.Utils.Js

/-!
# The transaction messages on the wire

`tx/codecs.ts`: for each message its encoder, field by field with the literal tags, and the cases of its
decoder. The reader and the writer of `cosmjs-types` are those of the wire format.
-/

namespace QorechainRdk

open Protobuf

structure MsgCreateRollup where
  creator : String
  rollupId : String
  profile : String
  vmType : String
  stakeAmount : Int
  deriving DecidableEq, Repr

structure MsgSubmitBatch where
  sequencer : String
  rollupId : String
  batchIndex : Int
  stateRoot : Bytes
  prevStateRoot : Bytes
  txCount : Int
  dataHash : Bytes
  proof : Bytes
  withdrawalsRoot : Bytes
  anchorSignature : Bytes
  validatorSetHash : Bytes
  deriving DecidableEq, Repr

structure MsgChallengeBatch where
  challenger : String
  rollupId : String
  batchIndex : Int
  proof : Bytes
  deriving DecidableEq, Repr

structure MsgResolveChallenge where
  resolver : String
  rollupId : String
  batchIndex : Int
  fraudUpheld : Bool
  deriving DecidableEq, Repr

structure MsgPauseRollup where
  creator : String
  rollupId : String
  reason : String
  deriving DecidableEq, Repr

structure MsgResumeRollup where
  creator : String
  rollupId : String
  deriving DecidableEq, Repr

structure MsgStopRollup where
  creator : String
  rollupId : String
  deriving DecidableEq, Repr

structure MsgExecuteWithdrawal where
  submitter : String
  rollupId : String
  batchIndex : Int
  withdrawalIndex : Int
  recipient : String
  denom : String
  amount : Int
  proof : List Bytes
  deriving DecidableEq, Repr

/-- The fields that are written, and the message and the cases that reading starts from. -/
structure Codec (M : Type) where
  typeUrl : String
  fields : M → List Bytes
  initial : M
  switch : Switch M

def Codec.encode {M : Type} (codec : Codec M) (message : M) : Bytes := (codec.fields message).flatten

def Codec.decode {M : Type} (codec : Codec M) (input : Bytes) : Option M :=
  Protobuf.decode codec.switch codec.initial input

def TYPE_URL_PREFIX : String := "/qorechain.rdk.v1."

def MsgCreateRollup.codec : Codec MsgCreateRollup where
  typeUrl := TYPE_URL_PREFIX ++ "MsgCreateRollup"
  fields := fun message => [
    stringField 10 message.creator,
    stringField 18 message.rollupId,
    stringField 26 message.profile,
    stringField 34 message.vmType,
    integerField 40 message.stakeAmount]
  initial := { creator := "", rollupId := "", profile := "", vmType := "", stakeAmount := 0 }
  switch := fun
    | 1 => some (setting readString fun message v => { message with creator := v })
    | 2 => some (setting readString fun message v => { message with rollupId := v })
    | 3 => some (setting readString fun message v => { message with profile := v })
    | 4 => some (setting readString fun message v => { message with vmType := v })
    | 5 => some (setting readInt64 fun message v => { message with stakeAmount := v })
    | _ => none

def MsgSubmitBatch.codec : Codec MsgSubmitBatch where
  typeUrl := TYPE_URL_PREFIX ++ "MsgSubmitBatch"
  fields := fun message => [
    stringField 10 message.sequencer,
    stringField 18 message.rollupId,
    integerField 24 message.batchIndex,
    bytesField 34 message.stateRoot,
    bytesField 42 message.prevStateRoot,
    integerField 48 message.txCount,
    bytesField 58 message.dataHash,
    bytesField 66 message.proof,
    bytesField 74 message.withdrawalsRoot,
    bytesField 82 message.anchorSignature,
    bytesField 90 message.validatorSetHash]
  initial := {
    sequencer := "", rollupId := "", batchIndex := 0, stateRoot := [], prevStateRoot := [], txCount := 0,
    dataHash := [], proof := [], withdrawalsRoot := [], anchorSignature := [], validatorSetHash := [] }
  switch := fun
    | 1 => some (setting readString fun message v => { message with sequencer := v })
    | 2 => some (setting readString fun message v => { message with rollupId := v })
    | 3 => some (setting readUint64 fun message v => { message with batchIndex := v })
    | 4 => some (setting readBytes fun message v => { message with stateRoot := v })
    | 5 => some (setting readBytes fun message v => { message with prevStateRoot := v })
    | 6 => some (setting readUint64 fun message v => { message with txCount := v })
    | 7 => some (setting readBytes fun message v => { message with dataHash := v })
    | 8 => some (setting readBytes fun message v => { message with proof := v })
    | 9 => some (setting readBytes fun message v => { message with withdrawalsRoot := v })
    | 10 => some (setting readBytes fun message v => { message with anchorSignature := v })
    | 11 => some (setting readBytes fun message v => { message with validatorSetHash := v })
    | _ => none

def MsgChallengeBatch.codec : Codec MsgChallengeBatch where
  typeUrl := TYPE_URL_PREFIX ++ "MsgChallengeBatch"
  fields := fun message => [
    stringField 10 message.challenger,
    stringField 18 message.rollupId,
    integerField 24 message.batchIndex,
    bytesField 34 message.proof]
  initial := { challenger := "", rollupId := "", batchIndex := 0, proof := [] }
  switch := fun
    | 1 => some (setting readString fun message v => { message with challenger := v })
    | 2 => some (setting readString fun message v => { message with rollupId := v })
    | 3 => some (setting readUint64 fun message v => { message with batchIndex := v })
    | 4 => some (setting readBytes fun message v => { message with proof := v })
    | _ => none

def MsgResolveChallenge.codec : Codec MsgResolveChallenge where
  typeUrl := TYPE_URL_PREFIX ++ "MsgResolveChallenge"
  fields := fun message => [
    stringField 10 message.resolver,
    stringField 18 message.rollupId,
    integerField 24 message.batchIndex,
    boolField 32 message.fraudUpheld]
  initial := { resolver := "", rollupId := "", batchIndex := 0, fraudUpheld := false }
  switch := fun
    | 1 => some (setting readString fun message v => { message with resolver := v })
    | 2 => some (setting readString fun message v => { message with rollupId := v })
    | 3 => some (setting readUint64 fun message v => { message with batchIndex := v })
    | 4 => some (setting readBool fun message v => { message with fraudUpheld := v })
    | _ => none

def MsgPauseRollup.codec : Codec MsgPauseRollup where
  typeUrl := TYPE_URL_PREFIX ++ "MsgPauseRollup"
  fields := fun message => [
    stringField 10 message.creator,
    stringField 18 message.rollupId,
    stringField 26 message.reason]
  initial := { creator := "", rollupId := "", reason := "" }
  switch := fun
    | 1 => some (setting readString fun message v => { message with creator := v })
    | 2 => some (setting readString fun message v => { message with rollupId := v })
    | 3 => some (setting readString fun message v => { message with reason := v })
    | _ => none

def MsgResumeRollup.codec : Codec MsgResumeRollup where
  typeUrl := TYPE_URL_PREFIX ++ "MsgResumeRollup"
  fields := fun message => [
    stringField 10 message.creator,
    stringField 18 message.rollupId]
  initial := { creator := "", rollupId := "" }
  switch := fun
    | 1 => some (setting readString fun message v => { message with creator := v })
    | 2 => some (setting readString fun message v => { message with rollupId := v })
    | _ => none

def MsgStopRollup.codec : Codec MsgStopRollup where
  typeUrl := TYPE_URL_PREFIX ++ "MsgStopRollup"
  fields := fun message => [
    stringField 10 message.creator,
    stringField 18 message.rollupId]
  initial := { creator := "", rollupId := "" }
  switch := fun
    | 1 => some (setting readString fun message v => { message with creator := v })
    | 2 => some (setting readString fun message v => { message with rollupId := v })
    | _ => none

def MsgExecuteWithdrawal.codec : Codec MsgExecuteWithdrawal where
  typeUrl := TYPE_URL_PREFIX ++ "MsgExecuteWithdrawal"
  fields := fun message => [
    stringField 10 message.submitter,
    stringField 18 message.rollupId,
    integerField 24 message.batchIndex,
    integerField 32 message.withdrawalIndex,
    stringField 42 message.recipient,
    stringField 50 message.denom,
    integerField 56 message.amount] ++ message.proof.map (bytesEntry 66)
  initial := {
    submitter := "", rollupId := "", batchIndex := 0, withdrawalIndex := 0, recipient := "", denom := "",
    amount := 0, proof := [] }
  switch := fun
    | 1 => some (setting readString fun message v => { message with submitter := v })
    | 2 => some (setting readString fun message v => { message with rollupId := v })
    | 3 => some (setting readUint64 fun message v => { message with batchIndex := v })
    | 4 => some (setting readUint64 fun message v => { message with withdrawalIndex := v })
    | 5 => some (setting readString fun message v => { message with recipient := v })
    | 6 => some (setting readString fun message v => { message with denom := v })
    | 7 => some (setting readInt64 fun message v => { message with amount := v })
    | 8 => some (setting readBytes fun message v => { message with proof := message.proof ++ [v] })
    | _ => none

end QorechainRdk
