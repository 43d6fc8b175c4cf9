import QorechainRdk.Tx.Codecs

/-!
# Messages read back as they were written

Each codec's fields are followed from the decoder's initial message to the one that was encoded.
-/

namespace QorechainRdk

open Protobuf

/-- Reading gives the message back, also with unknown fields before, between and after its own. -/
def Codec.RoundTrips {M : Type} (codec : Codec M) (message : M) : Prop :=
  codec.decode (codec.encode message) = some message ∧
    ∀ input, Padded codec.switch (codec.fields message) input → codec.decode input = some message

theorem Codec.roundTrips {M : Type} {codec : Codec M} {message : M}
    (run : Run codec.switch (codec.fields message) codec.initial message) : codec.RoundTrips message :=
  ⟨decode_flatten run, fun _ padded => decode_padded padded run⟩

def IsUint64 (v : Int) : Prop := 0 ≤ v ∧ v < 2 ^ 64

def IsInt64 (v : Int) : Prop := -2 ^ 63 ≤ v ∧ v < 2 ^ 63

theorem IsUint64.wrap {v : Int} (h : IsUint64 v) : wrapUint64 v = v := wrapUint64_of_range h.1 h.2

theorem IsInt64.wrap {v : Int} (h : IsInt64 v) : wrapInt64 v = v := wrapInt64_of_range h.1 h.2

theorem isUint64_iff_wrap {v : Int} : IsUint64 v ↔ wrapUint64 v = v := by
  unfold IsUint64 wrapUint64
  omega

theorem isInt64_iff_wrap {v : Int} : IsInt64 v ↔ wrapInt64 v = v := by
  unfold IsInt64 wrapInt64 wrapUint64
  split
  · omega
  · omega

/-! ### The runs

Integers are read back by their low 64 bits.
-/

theorem MsgCreateRollup.run (message : MsgCreateRollup) :
    Run codec.switch (codec.fields message) codec.initial
      { message with stakeAmount := wrapInt64 message.stakeAmount } := by
  refine .cons (reads_stringField message.creator rfl rfl) ?_
  refine .cons (reads_stringField message.rollupId rfl rfl) ?_
  refine .cons (reads_stringField message.profile rfl rfl) ?_
  refine .cons (reads_stringField message.vmType rfl rfl) ?_
  refine .cons (reads_int64Field message.stakeAmount rfl rfl) ?_
  exact .nil

theorem MsgSubmitBatch.run (message : MsgSubmitBatch) :
    Run codec.switch (codec.fields message) codec.initial
      { message with batchIndex := wrapUint64 message.batchIndex, txCount := wrapUint64 message.txCount } := by
  refine .cons (reads_stringField message.sequencer rfl rfl) ?_
  refine .cons (reads_stringField message.rollupId rfl rfl) ?_
  refine .cons (reads_uint64Field message.batchIndex rfl rfl) ?_
  refine .cons (reads_bytesField message.stateRoot rfl rfl) ?_
  refine .cons (reads_bytesField message.prevStateRoot rfl rfl) ?_
  refine .cons (reads_uint64Field message.txCount rfl rfl) ?_
  refine .cons (reads_bytesField message.dataHash rfl rfl) ?_
  refine .cons (reads_bytesField message.proof rfl rfl) ?_
  refine .cons (reads_bytesField message.withdrawalsRoot rfl rfl) ?_
  refine .cons (reads_bytesField message.anchorSignature rfl rfl) ?_
  refine .cons (reads_bytesField message.validatorSetHash rfl rfl) ?_
  exact .nil

theorem MsgChallengeBatch.run (message : MsgChallengeBatch) :
    Run codec.switch (codec.fields message) codec.initial
      { message with batchIndex := wrapUint64 message.batchIndex } := by
  refine .cons (reads_stringField message.challenger rfl rfl) ?_
  refine .cons (reads_stringField message.rollupId rfl rfl) ?_
  refine .cons (reads_uint64Field message.batchIndex rfl rfl) ?_
  refine .cons (reads_bytesField message.proof rfl rfl) ?_
  exact .nil

theorem MsgResolveChallenge.run (message : MsgResolveChallenge) :
    Run codec.switch (codec.fields message) codec.initial
      { message with batchIndex := wrapUint64 message.batchIndex } := by
  refine .cons (reads_stringField message.resolver rfl rfl) ?_
  refine .cons (reads_stringField message.rollupId rfl rfl) ?_
  refine .cons (reads_uint64Field message.batchIndex rfl rfl) ?_
  refine .cons (reads_boolField message.fraudUpheld rfl rfl) ?_
  exact .nil

theorem MsgPauseRollup.run (message : MsgPauseRollup) :
    Run codec.switch (codec.fields message) codec.initial message := by
  refine .cons (reads_stringField message.creator rfl rfl) ?_
  refine .cons (reads_stringField message.rollupId rfl rfl) ?_
  refine .cons (reads_stringField message.reason rfl rfl) ?_
  exact .nil

theorem MsgResumeRollup.run (message : MsgResumeRollup) :
    Run codec.switch (codec.fields message) codec.initial message := by
  refine .cons (reads_stringField message.creator rfl rfl) ?_
  refine .cons (reads_stringField message.rollupId rfl rfl) ?_
  exact .nil

theorem MsgStopRollup.run (message : MsgStopRollup) :
    Run codec.switch (codec.fields message) codec.initial message := by
  refine .cons (reads_stringField message.creator rfl rfl) ?_
  refine .cons (reads_stringField message.rollupId rfl rfl) ?_
  exact .nil

theorem MsgExecuteWithdrawal.run (message : MsgExecuteWithdrawal) :
    Run codec.switch (codec.fields message) codec.initial
      { message with
        batchIndex := wrapUint64 message.batchIndex
        withdrawalIndex := wrapUint64 message.withdrawalIndex
        amount := wrapInt64 message.amount } := by
  refine .cons (reads_stringField message.submitter rfl rfl) ?_
  refine .cons (reads_stringField message.rollupId rfl rfl) ?_
  refine .cons (reads_uint64Field message.batchIndex rfl rfl) ?_
  refine .cons (reads_uint64Field message.withdrawalIndex rfl rfl) ?_
  refine .cons (reads_stringField message.recipient rfl rfl) ?_
  refine .cons (reads_stringField message.denom rfl rfl) ?_
  refine .cons (reads_int64Field message.amount rfl rfl) ?_
  -- The entries are pushed one by one onto the empty list of the initial message.
  let read : MsgExecuteWithdrawal := { message with
    batchIndex := wrapUint64 message.batchIndex
    withdrawalIndex := wrapUint64 message.withdrawalIndex
    amount := wrapInt64 message.amount }
  have case : MsgExecuteWithdrawal.codec.switch (66 / 8) = some (Protobuf.setting readBytes fun message v =>
      { message with proof := message.proof ++ [v] }) := rfl
  exact run_entries (fun read proof => { read with proof := proof }) case (m := read) (fun _ _ => rfl) []
    message.proof

/-- Every message of the module, and every one of its fields, survives the wire. -/
theorem codecs_roundTrip :
    (∀ message : MsgCreateRollup, IsInt64 message.stakeAmount → MsgCreateRollup.codec.RoundTrips message) ∧
    (∀ message : MsgSubmitBatch, IsUint64 message.batchIndex → IsUint64 message.txCount →
      MsgSubmitBatch.codec.RoundTrips message) ∧
    (∀ message : MsgChallengeBatch, IsUint64 message.batchIndex →
      MsgChallengeBatch.codec.RoundTrips message) ∧
    (∀ message : MsgResolveChallenge, IsUint64 message.batchIndex →
      MsgResolveChallenge.codec.RoundTrips message) ∧
    (∀ message : MsgPauseRollup, MsgPauseRollup.codec.RoundTrips message) ∧
    (∀ message : MsgResumeRollup, MsgResumeRollup.codec.RoundTrips message) ∧
    (∀ message : MsgStopRollup, MsgStopRollup.codec.RoundTrips message) ∧
    (∀ message : MsgExecuteWithdrawal, IsUint64 message.batchIndex → IsUint64 message.withdrawalIndex →
      IsInt64 message.amount → MsgExecuteWithdrawal.codec.RoundTrips message) := by
  refine ⟨?_, ?_, ?_, ?_, ?_, ?_, ?_, ?_⟩
  · intro message stakeAmount
    have run := message.run
    rw [stakeAmount.wrap] at run
    exact Codec.roundTrips run
  · intro message batchIndex txCount
    have run := message.run
    rw [batchIndex.wrap, txCount.wrap] at run
    exact Codec.roundTrips run
  · intro message batchIndex
    have run := message.run
    rw [batchIndex.wrap] at run
    exact Codec.roundTrips run
  · intro message batchIndex
    have run := message.run
    rw [batchIndex.wrap] at run
    exact Codec.roundTrips run
  · intro message
    exact Codec.roundTrips message.run
  · intro message
    exact Codec.roundTrips message.run
  · intro message
    exact Codec.roundTrips message.run
  · intro message batchIndex withdrawalIndex amount
    have run := message.run
    rw [batchIndex.wrap, withdrawalIndex.wrap, amount.wrap] at run
    exact Codec.roundTrips run

def sampleWithdrawal : MsgExecuteWithdrawal where
  submitter := "s"
  rollupId := "r"
  batchIndex := 18446744073709551615
  withdrawalIndex := 0
  recipient := "qorélie"
  denom := "uqor"
  amount := -9223372036854775808
  proof := [[], [1, 2], []]

theorem codecs_roundTrip_sample : MsgExecuteWithdrawal.codec.RoundTrips sampleWithdrawal := by
  obtain ⟨-, -, -, -, -, -, -, withdrawal⟩ := codecs_roundTrip
  exact withdrawal sampleWithdrawal ⟨by decide, by decide⟩ ⟨by decide, by decide⟩ ⟨by decide, by decide⟩

end QorechainRdk
