import QorechainRdk.Tx.RoundTrip
import QorechainRdk.Tx.Writers

/-!
# One message, four encoders

`messages.go`, `tx/codecs.py` and `Messages.java` beside `tx/codecs.ts`. The `MsgSubmitBatch` of the three has
no anchor signature and no validator set hash.
-/

namespace QorechainRdk

open Protobuf

inductive RdkMsg where
  | createRollup (m : MsgCreateRollup)
  | submitBatch (m : MsgSubmitBatch)
  | challengeBatch (m : MsgChallengeBatch)
  | resolveChallenge (m : MsgResolveChallenge)
  | pauseRollup (m : MsgPauseRollup)
  | resumeRollup (m : MsgResumeRollup)
  | stopRollup (m : MsgStopRollup)
  | executeWithdrawal (m : MsgExecuteWithdrawal)
  deriving DecidableEq, Repr

def RdkMsg.encode : RdkMsg → Bytes
  | .createRollup m => MsgCreateRollup.codec.encode m
  | .submitBatch m => MsgSubmitBatch.codec.encode m
  | .challengeBatch m => MsgChallengeBatch.codec.encode m
  | .resolveChallenge m => MsgResolveChallenge.codec.encode m
  | .pauseRollup m => MsgPauseRollup.codec.encode m
  | .resumeRollup m => MsgResumeRollup.codec.encode m
  | .stopRollup m => MsgStopRollup.codec.encode m
  | .executeWithdrawal m => MsgExecuteWithdrawal.codec.encode m

/-- The values that the fields of all four can hold. -/
def RdkMsg.Shared : RdkMsg → Prop
  | .createRollup m => IsInt64 m.stakeAmount
  | .submitBatch m =>
    IsUint64 m.batchIndex ∧ IsUint64 m.txCount ∧ m.anchorSignature = [] ∧ m.validatorSetHash = []
  | .challengeBatch m => IsUint64 m.batchIndex
  | .resolveChallenge m => IsUint64 m.batchIndex
  | .pauseRollup _ => True
  | .resumeRollup _ => True
  | .stopRollup _ => True
  | .executeWithdrawal m => IsUint64 m.batchIndex ∧ IsUint64 m.withdrawalIndex ∧ IsInt64 m.amount

/-! ### The three encoders -/

namespace Go

def marshal : RdkMsg → Bytes
  | .createRollup m => [
    writeString 1 m.creator,
    writeString 2 m.rollupId,
    writeString 3 m.profile,
    writeString 4 m.vmType,
    writeInt64 5 m.stakeAmount].flatten
  | .submitBatch m => [
    writeString 1 m.sequencer,
    writeString 2 m.rollupId,
    writeUint64 3 m.batchIndex.toNat,
    writeBytes 4 m.stateRoot,
    writeBytes 5 m.prevStateRoot,
    writeUint64 6 m.txCount.toNat,
    writeBytes 7 m.dataHash,
    writeBytes 8 m.proof,
    writeBytes 9 m.withdrawalsRoot].flatten
  | .challengeBatch m => [
    writeString 1 m.challenger,
    writeString 2 m.rollupId,
    writeUint64 3 m.batchIndex.toNat,
    writeBytes 4 m.proof].flatten
  | .resolveChallenge m => [
    writeString 1 m.resolver,
    writeString 2 m.rollupId,
    writeUint64 3 m.batchIndex.toNat,
    writeBool 4 m.fraudUpheld].flatten
  | .pauseRollup m => [
    writeString 1 m.creator,
    writeString 2 m.rollupId,
    writeString 3 m.reason].flatten
  | .resumeRollup m => [
    writeString 1 m.creator,
    writeString 2 m.rollupId].flatten
  | .stopRollup m => [
    writeString 1 m.creator,
    writeString 2 m.rollupId].flatten
  | .executeWithdrawal m => [
    writeString 1 m.submitter,
    writeString 2 m.rollupId,
    writeUint64 3 m.batchIndex.toNat,
    writeUint64 4 m.withdrawalIndex.toNat,
    writeString 5 m.recipient,
    writeString 6 m.denom,
    writeInt64 7 m.amount,
    writeRepeatedBytes 8 m.proof].flatten

end Go

namespace Py

def encode : RdkMsg → Bytes
  | .createRollup m => [
    stringField 1 m.creator,
    stringField 2 m.rollupId,
    stringField 3 m.profile,
    stringField 4 m.vmType,
    varintField 5 m.stakeAmount].flatten
  | .submitBatch m => [
    stringField 1 m.sequencer,
    stringField 2 m.rollupId,
    varintField 3 m.batchIndex,
    bytesField 4 m.stateRoot,
    bytesField 5 m.prevStateRoot,
    varintField 6 m.txCount,
    bytesField 7 m.dataHash,
    bytesField 8 m.proof,
    bytesField 9 m.withdrawalsRoot].flatten
  | .challengeBatch m => [
    stringField 1 m.challenger,
    stringField 2 m.rollupId,
    varintField 3 m.batchIndex,
    bytesField 4 m.proof].flatten
  | .resolveChallenge m => [
    stringField 1 m.resolver,
    stringField 2 m.rollupId,
    varintField 3 m.batchIndex,
    boolField 4 m.fraudUpheld].flatten
  | .pauseRollup m => [
    stringField 1 m.creator,
    stringField 2 m.rollupId,
    stringField 3 m.reason].flatten
  | .resumeRollup m => [
    stringField 1 m.creator,
    stringField 2 m.rollupId].flatten
  | .stopRollup m => [
    stringField 1 m.creator,
    stringField 2 m.rollupId].flatten
  | .executeWithdrawal m => [
    stringField 1 m.submitter,
    stringField 2 m.rollupId,
    varintField 3 m.batchIndex,
    varintField 4 m.withdrawalIndex,
    stringField 5 m.recipient,
    stringField 6 m.denom,
    varintField 7 m.amount].flatten ++ m.proof.flatMap (bytesFieldAlways 8)

end Py

namespace Jvm

def marshal : RdkMsg → Bytes
  | .createRollup m => [
    writeString 1 m.creator,
    writeString 2 m.rollupId,
    writeString 3 m.profile,
    writeString 4 m.vmType,
    writeLong 5 m.stakeAmount].flatten
  | .submitBatch m => [
    writeString 1 m.sequencer,
    writeString 2 m.rollupId,
    writeLong 3 (long m.batchIndex),
    writeBytes 4 m.stateRoot,
    writeBytes 5 m.prevStateRoot,
    writeLong 6 (long m.txCount),
    writeBytes 7 m.dataHash,
    writeBytes 8 m.proof,
    writeBytes 9 m.withdrawalsRoot].flatten
  | .challengeBatch m => [
    writeString 1 m.challenger,
    writeString 2 m.rollupId,
    writeLong 3 (long m.batchIndex),
    writeBytes 4 m.proof].flatten
  | .resolveChallenge m => [
    writeString 1 m.resolver,
    writeString 2 m.rollupId,
    writeLong 3 (long m.batchIndex),
    writeBool 4 m.fraudUpheld].flatten
  | .pauseRollup m => [
    writeString 1 m.creator,
    writeString 2 m.rollupId,
    writeString 3 m.reason].flatten
  | .resumeRollup m => [
    writeString 1 m.creator,
    writeString 2 m.rollupId].flatten
  | .stopRollup m => [
    writeString 1 m.creator,
    writeString 2 m.rollupId].flatten
  | .executeWithdrawal m => [
    writeString 1 m.submitter,
    writeString 2 m.rollupId,
    writeLong 3 (long m.batchIndex),
    writeLong 4 (long m.withdrawalIndex),
    writeString 5 m.recipient,
    writeString 6 m.denom,
    writeLong 7 m.amount,
    writeRepeatedBytes 8 m.proof].flatten

end Jvm

/-! ### Fields -/

section
variable {writeVarint : Nat → Bytes} (standard : writeVarint = varint)
include standard

theorem ProtoWriter.writeString_eq :
    ProtoWriter.writeString writeVarint = fun field s => Protobuf.stringField (field <<< 3 ||| 2) s := by
  subst standard
  rfl

theorem ProtoWriter.writeBytes_eq :
    ProtoWriter.writeBytes writeVarint = fun field b => Protobuf.bytesField (field <<< 3 ||| 2) b := by
  subst standard
  rfl

theorem ProtoWriter.writeRawBytes_eq :
    ProtoWriter.writeRawBytes writeVarint = fun field => Protobuf.bytesEntry (field <<< 3 ||| 2) := by
  subst standard
  rfl

theorem ProtoWriter.writeRepeatedBytes_eq : ProtoWriter.writeRepeatedBytes writeVarint =
    fun field items => items.flatMap (Protobuf.bytesEntry (field <<< 3 ||| 2)) := by
  subst standard
  rfl

theorem ProtoWriter.writeBool_eq :
    ProtoWriter.writeBool writeVarint = fun field v => Protobuf.boolField (field <<< 3 ||| 0) v := by
  subst standard
  funext field v
  cases v
  · rfl
  · rfl

end

theorem Go.standard : Go.putUvarint = varint := funext Go.putUvarint_eq

theorem Py.standard : Py.unsigned = Protobuf.varint := by
  funext n
  unfold Py.unsigned Py.varint
  rw [if_neg (Int.not_lt.mpr (Int.natCast_nonneg n)), Int.toNat_natCast, Py.varintLoop_eq]

theorem Jvm.standard : Jvm.unsigned = varint := funext Jvm.writeVarint_natCast

theorem Go.writeUint64_eq (field : Nat) {v : Int} (range : IsUint64 v) :
    Go.writeUint64 field v.toNat = integerField (field <<< 3 ||| 0) v := by
  obtain ⟨nonneg, small⟩ := range
  unfold Go.writeUint64 integerField
  by_cases zero : v = 0
  · rw [zero]
    rfl
  · rw [if_neg (by omega), if_neg zero, ProtoWriter.tag, Go.standard, writeInteger,
      wrapUint64_of_range nonneg small]

theorem Go.writeInt64_eq (field : Nat) (v : Int) :
    Go.writeInt64 field v = integerField (field <<< 3 ||| 0) v := by
  unfold Go.writeInt64 integerField
  rw [ProtoWriter.tag, Go.standard]
  rfl

theorem Py.varintField_eq (field : Nat) {v : Int} (range : IsUint64 v ∨ IsInt64 v) :
    Py.varintField field v = integerField (field <<< 3 ||| 0) v := by
  have low64 : (if v < 0 then v + 2 ^ 64 else v) = wrapUint64 v := by
    unfold wrapUint64 IsUint64 IsInt64 at *
    split
    · omega
    · omega
  unfold Py.varintField integerField
  rw [ProtoWriter.tag, Py.standard, Py.varint, low64, Py.varintLoop_eq]
  rfl

theorem Jvm.writeLong_eq (field : Nat) {v : Int} (range : IsInt64 v) :
    Jvm.writeLong field v = integerField (field <<< 3 ||| 0) v := by
  obtain ⟨low, high⟩ := range
  have bits : Jvm.writeVarint v = writeInteger v := by
    unfold writeInteger wrapUint64
    by_cases negative : v < 0
    · rw [Jvm.writeVarint_negative low negative]
      congr 2
      omega
    · obtain ⟨n, rfl⟩ : ∃ n : Nat, v = n := ⟨v.toNat, by omega⟩
      rw [Jvm.writeVarint_natCast]
      congr 1
      omega
  unfold Jvm.writeLong integerField
  rw [ProtoWriter.tag, Jvm.standard, bits]

/-- A `long` that holds an unsigned number is written as that number. -/
theorem Jvm.writeLong_unsigned (field : Nat) {v : Int} (range : IsUint64 v) :
    Jvm.writeLong field (Jvm.long v) = integerField (field <<< 3 ||| 0) v := by
  obtain ⟨nonneg, small⟩ := range
  have held : IsInt64 (Jvm.long v) := by
    unfold IsInt64 Jvm.long
    split
    · omega
    · omega
  have zero : Jvm.long v = 0 ↔ v = 0 := by
    unfold Jvm.long
    split
    · omega
    · omega
  have bits : wrapUint64 (Jvm.long v) = wrapUint64 v := by
    unfold wrapUint64 Jvm.long
    split
    · omega
    · omega
  rw [Jvm.writeLong_eq field held]
  unfold integerField writeInteger
  simp only [zero, bits]

/-! ### Messages -/

/-- Without the two fields of its own, the message has the nine of the other SDKs. -/
theorem MsgSubmitBatch.encode_unanchored {m : MsgSubmitBatch} (signature : m.anchorSignature = [])
    (hash : m.validatorSetHash = []) : codec.encode m = ((codec.fields m).take 9).flatten := by
  have tail : (codec.fields m).drop 9 = [[], []] := by
    change [bytesField 82 m.anchorSignature, bytesField 90 m.validatorSetHash] = _
    rw [signature, hash]
    rfl
  unfold Codec.encode
  conv_lhs => rw [← List.take_append_drop 9 (codec.fields m), tail]
  rw [List.flatten_append]
  exact List.append_nil _

theorem MsgExecuteWithdrawal.encode_entries (m : MsgExecuteWithdrawal) : codec.encode m =
    ((codec.fields m).take 7).flatten ++ m.proof.flatMap (bytesEntry 66) := by
  have parts : codec.fields m = (codec.fields m).take 7 ++ m.proof.map (bytesEntry 66) := rfl
  unfold Codec.encode
  conv_lhs => rw [parts]
  rw [List.flatten_append]
  rfl

theorem flatten_concat (fields : List Bytes) (last : Bytes) :
    (fields ++ [last]).flatten = fields.flatten ++ last := by
  rw [List.flatten_append, List.flatten_singleton]

theorem Go.marshal_eq {m : RdkMsg} (shared : m.Shared) : Go.marshal m = m.encode := by
  have string : Go.writeString = _ := ProtoWriter.writeString_eq Go.standard
  have bytes : Go.writeBytes = _ := ProtoWriter.writeBytes_eq Go.standard
  have bool : Go.writeBool = _ := ProtoWriter.writeBool_eq Go.standard
  have entries : Go.writeRepeatedBytes = _ := ProtoWriter.writeRepeatedBytes_eq Go.standard
  cases m with
  | createRollup m =>
    rw [Go.marshal, Go.writeInt64_eq, string]
    rfl
  | submitBatch m =>
    obtain ⟨batchIndex, txCount, signature, hash⟩ := shared
    rw [Go.marshal, Go.writeUint64_eq 3 batchIndex, Go.writeUint64_eq 6 txCount, string, bytes]
    exact (MsgSubmitBatch.encode_unanchored signature hash).symm
  | challengeBatch m =>
    rw [Go.marshal, Go.writeUint64_eq 3 shared, string, bytes]
    rfl
  | resolveChallenge m =>
    rw [Go.marshal, Go.writeUint64_eq 3 shared, string, bool]
    rfl
  | pauseRollup m =>
    rw [Go.marshal, string]
    rfl
  | resumeRollup m =>
    rw [Go.marshal, string]
    rfl
  | stopRollup m =>
    rw [Go.marshal, string]
    rfl
  | executeWithdrawal m =>
    obtain ⟨batchIndex, withdrawalIndex, -⟩ := shared
    rw [Go.marshal, Go.writeUint64_eq 3 batchIndex, Go.writeUint64_eq 4 withdrawalIndex,
      Go.writeInt64_eq, string, entries]
    exact (flatten_concat _ _).trans (MsgExecuteWithdrawal.encode_entries m).symm

theorem Py.encode_eq {m : RdkMsg} (shared : m.Shared) : Py.encode m = m.encode := by
  have string : Py.stringField = _ := ProtoWriter.writeString_eq Py.standard
  have bytes : Py.bytesField = _ := ProtoWriter.writeBytes_eq Py.standard
  have bool : Py.boolField = _ := ProtoWriter.writeBool_eq Py.standard
  have entries : Py.bytesFieldAlways = _ := ProtoWriter.writeRawBytes_eq Py.standard
  cases m with
  | createRollup m =>
    rw [Py.encode, Py.varintField_eq 5 (Or.inr shared), string]
    rfl
  | submitBatch m =>
    obtain ⟨batchIndex, txCount, signature, hash⟩ := shared
    rw [Py.encode, Py.varintField_eq 3 (Or.inl batchIndex), Py.varintField_eq 6 (Or.inl txCount), string, bytes]
    exact (MsgSubmitBatch.encode_unanchored signature hash).symm
  | challengeBatch m =>
    rw [Py.encode, Py.varintField_eq 3 (Or.inl shared), string, bytes]
    rfl
  | resolveChallenge m =>
    rw [Py.encode, Py.varintField_eq 3 (Or.inl shared), string, bool]
    rfl
  | pauseRollup m =>
    rw [Py.encode, string]
    rfl
  | resumeRollup m =>
    rw [Py.encode, string]
    rfl
  | stopRollup m =>
    rw [Py.encode, string]
    rfl
  | executeWithdrawal m =>
    obtain ⟨batchIndex, withdrawalIndex, amount⟩ := shared
    rw [Py.encode, Py.varintField_eq 3 (Or.inl batchIndex), Py.varintField_eq 4 (Or.inl withdrawalIndex),
      Py.varintField_eq 7 (Or.inr amount), string, entries]
    exact (MsgExecuteWithdrawal.encode_entries m).symm

theorem Jvm.marshal_eq {m : RdkMsg} (shared : m.Shared) : Jvm.marshal m = m.encode := by
  have string : Jvm.writeString = _ := ProtoWriter.writeString_eq Jvm.standard
  have bytes : Jvm.writeBytes = _ := ProtoWriter.writeBytes_eq Jvm.standard
  have bool : Jvm.writeBool = _ := ProtoWriter.writeBool_eq Jvm.standard
  have entries : Jvm.writeRepeatedBytes = _ := ProtoWriter.writeRepeatedBytes_eq Jvm.standard
  cases m with
  | createRollup m =>
    rw [Jvm.marshal, Jvm.writeLong_eq 5 shared, string]
    rfl
  | submitBatch m =>
    obtain ⟨batchIndex, txCount, signature, hash⟩ := shared
    rw [Jvm.marshal, Jvm.writeLong_unsigned 3 batchIndex, Jvm.writeLong_unsigned 6 txCount, string, bytes]
    exact (MsgSubmitBatch.encode_unanchored signature hash).symm
  | challengeBatch m =>
    rw [Jvm.marshal, Jvm.writeLong_unsigned 3 shared, string, bytes]
    rfl
  | resolveChallenge m =>
    rw [Jvm.marshal, Jvm.writeLong_unsigned 3 shared, string, bool]
    rfl
  | pauseRollup m =>
    rw [Jvm.marshal, string]
    rfl
  | resumeRollup m =>
    rw [Jvm.marshal, string]
    rfl
  | stopRollup m =>
    rw [Jvm.marshal, string]
    rfl
  | executeWithdrawal m =>
    obtain ⟨batchIndex, withdrawalIndex, amount⟩ := shared
    rw [Jvm.marshal, Jvm.writeLong_unsigned 3 batchIndex, Jvm.writeLong_unsigned 4 withdrawalIndex,
      Jvm.writeLong_eq 7 amount, string, entries]
    exact (flatten_concat _ _).trans (MsgExecuteWithdrawal.encode_entries m).symm

/-- The four encoders write the same bytes. -/
theorem sdks_encode_alike {m : RdkMsg} (shared : m.Shared) :
    Go.marshal m = m.encode ∧ Py.encode m = m.encode ∧ Jvm.marshal m = m.encode :=
  ⟨Go.marshal_eq shared, Py.encode_eq shared, Jvm.marshal_eq shared⟩

theorem sdks_encode_alike_sample :
    let m := RdkMsg.executeWithdrawal ⟨"a", "r", 2 ^ 63, 7, "b", "u", -1, [[], [1]]⟩
    Go.marshal m = m.encode ∧ Py.encode m = m.encode ∧ Jvm.marshal m = m.encode := by
  apply sdks_encode_alike
  refine ⟨⟨?_, ?_⟩, ⟨?_, ?_⟩, ?_, ?_⟩
  · decide
  · decide
  · decide
  · decide
  · decide
  · decide

end QorechainRdk
