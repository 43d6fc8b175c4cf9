import QorechainRdk.Rules
import QorechainRdk.Tx.Messages
import QorechainRdk.Tx.RoundTrip
import QorechainRdk.Utils.Hex

/-!
# A withdrawal as it is checked and as it is sent

The check is on integers of any size, and the wire takes 64 bits of them.
-/

namespace QorechainRdk

open Js

def ExecuteWithdrawalInput.forValidation (submitter : String) (input : ExecuteWithdrawalInput) :
    WithdrawalForValidation where
  submitter := submitter
  rollupId := input.rollupId
  recipient := input.recipient
  denom := input.denom
  amount := input.amount
  proof := input.proof

/-- `RdkTxClient.executeWithdrawal` on a client of `address`, up to the message that it broadcasts. -/
def executeWithdrawal (isBech32 : String → Bool) (address : String) (input : ExecuteWithdrawalInput) :
    Except JsError MsgExecuteWithdrawal :=
  let errors := withdrawalErrors isBech32 (input.forValidation address)
  if 0 < errors.length then fail ("withdrawal would be refused by the chain: " ++ "; ".intercalate errors)
  else executeWithdrawalMsg address input

/-- What is read off the wire is what was checked. -/
def SentAsChecked (input : ExecuteWithdrawalInput) (message : MsgExecuteWithdrawal) : Prop :=
  ∃ read, MsgExecuteWithdrawal.codec.decode (MsgExecuteWithdrawal.codec.encode message) = some read ∧
    bigInt input.amount = .ok read.amount ∧ 0 < read.amount ∧
    bigInt input.batchIndex = .ok read.batchIndex ∧
    bigInt input.withdrawalIndex = .ok read.withdrawalIndex ∧
    read.proof.length ≤ MAX_WITHDRAWAL_PROOF_DEPTH ∧ ∀ sibling ∈ read.proof, sibling.length = 32

/-- The integers that are checked are those that the wire can take. -/
def FitsWire (input : ExecuteWithdrawalInput) : Prop :=
  ∀ amount batchIndex withdrawalIndex, bigInt input.amount = .ok amount →
    bigInt input.batchIndex = .ok batchIndex → bigInt input.withdrawalIndex = .ok withdrawalIndex →
    amount < 2 ^ 63 ∧ IsUint64 batchIndex ∧ IsUint64 withdrawalIndex

/-! ### What the check says -/

theorem positive_iff {amount : Integral} : positive amount = true ↔ ∃ n, bigInt amount = .ok n ∧ 0 < n := by
  unfold positive
  split
  · rename_i n read
    simp [read]
  · rename_i e refused
    simp [refused]

theorem siblingErrors_nil {proof : List HexOrBytes} (h : siblingErrors proof = []) :
    ∀ sibling ∈ proof, byteLength sibling = 32 := by
  intro sibling member
  obtain ⟨i, bound, same⟩ := List.getElem_of_mem member
  have entry : (sibling, i) ∈ proof.zipIdx := by
    rw [List.mem_zipIdx_iff_getElem?, List.getElem?_eq_getElem bound, same]
  have quiet := List.flatMap_eq_nil_iff.mp h _ entry
  by_contra other
  simp [other] at quiet

theorem withdrawalErrors_nil {isBech32 : String → Bool} {w : WithdrawalForValidation}
    (h : withdrawalErrors isBech32 w = []) :
    (∃ n, bigInt w.amount = .ok n ∧ 0 < n) ∧ (w.proof.getD []).length ≤ MAX_WITHDRAWAL_PROOF_DEPTH ∧
      ∀ sibling ∈ w.proof.getD [], byteLength sibling = 32 := by
  unfold withdrawalErrors at h
  simp only [List.append_eq_nil_iff, ite_eq_right_iff, List.cons_ne_nil, imp_false] at h
  obtain ⟨⟨⟨-, amount⟩, depth⟩, siblings⟩ := h
  exact ⟨positive_iff.mp (by simpa using amount), Nat.le_of_not_lt depth, siblingErrors_nil siblings⟩

/-- A length that is not negative is that of the bytes which the text reads as. -/
theorem toBytes_of_byteLength {sibling : HexOrBytes} {n : Nat} (h : byteLength sibling = n) :
    ∃ b, toBytes sibling = .ok b ∧ b.length = n := by
  cases sibling with
  | bytes b => exact ⟨b, rfl, by simpa [byteLength] using h⟩
  | hex s =>
    simp only [byteLength] at h
    split at h
    · rename_i hex
      refine ⟨_, hexToBytes_ok_iff.mpr ⟨hex.1, hex.2, rfl⟩, ?_⟩
      have pairs := congrArg List.length (flatMap_hexPairs hex.1 hex.2)
      rw [length_flatMap_hexPair, List.length_map] at pairs
      omega
    · omega

theorem mapM_toBytes {proof : List HexOrBytes} {n : Nat} (h : ∀ sibling ∈ proof, byteLength sibling = n) :
    ∃ siblings, proof.mapM toBytes = .ok siblings ∧ siblings.length = proof.length ∧
      ∀ sibling ∈ siblings, sibling.length = n := by
  induction proof with
  | nil => exact ⟨[], rfl, rfl, by simp⟩
  | cons first rest ih =>
    obtain ⟨b, read, length⟩ := toBytes_of_byteLength (h first List.mem_cons_self)
    obtain ⟨siblings, reads, count, lengths⟩ := ih fun sibling member => h sibling (List.mem_cons_of_mem _ member)
    refine ⟨b :: siblings, ?_, ?_, ?_⟩
    · rw [List.mapM_cons, read, reads]
      rfl
    · rw [List.length_cons, List.length_cons, count]
    · intro sibling member
      rcases List.mem_cons.mp member with rfl | tail
      · exact length
      · exact lengths sibling tail

/-! ### What the wire says -/

/-- The integers are read back by their low 64 bits, whatever was sent. -/
theorem decode_executeWithdrawal (message : MsgExecuteWithdrawal) :
    MsgExecuteWithdrawal.codec.decode (MsgExecuteWithdrawal.codec.encode message) = some
      { message with
        batchIndex := Protobuf.wrapUint64 message.batchIndex
        withdrawalIndex := Protobuf.wrapUint64 message.withdrawalIndex
        amount := Protobuf.wrapInt64 message.amount } :=
  Protobuf.decode_flatten message.run

section
variable {isBech32 : String → Bool} {address : String} {input : ExecuteWithdrawalInput}
  {message : MsgExecuteWithdrawal}

theorem executeWithdrawal_checked
    (checked : withdrawalErrors isBech32 (input.forValidation address) = []) :
    executeWithdrawal isBech32 address input = executeWithdrawalMsg address input := by
  unfold executeWithdrawal
  rw [checked]
  rfl

theorem sentAsChecked_iff (checked : withdrawalErrors isBech32 (input.forValidation address) = [])
    (built : executeWithdrawalMsg address input = .ok message) :
    SentAsChecked input message ↔
      message.amount < 2 ^ 63 ∧ IsUint64 message.batchIndex ∧ IsUint64 message.withdrawalIndex := by
  obtain ⟨b, w, a, proof, batchIndex, withdrawalIndex, amount, siblings, rfl⟩ :=
    executeWithdrawalMsg_ok_iff.mp built
  obtain ⟨⟨n, checkedAmount, positive⟩, depth, lengths⟩ := withdrawalErrors_nil checked
  change bigInt input.amount = .ok n at checkedAmount
  rw [amount] at checkedAmount
  cases checkedAmount
  obtain ⟨read, siblings', count, sized⟩ := mapM_toBytes (n := 32) lengths
  change (input.proof.getD []).mapM toBytes = .ok read at siblings'
  rw [siblings] at siblings'
  cases siblings'
  unfold SentAsChecked
  rw [decode_executeWithdrawal]
  constructor
  · intro sent
    obtain ⟨read, same, sentAmount, -, sentBatch, sentWithdrawal, -⟩ := sent
    cases same
    have amountKept := Except.ok.inj (amount.symm.trans sentAmount)
    have batchKept := Except.ok.inj (batchIndex.symm.trans sentBatch)
    have withdrawalKept := Except.ok.inj (withdrawalIndex.symm.trans sentWithdrawal)
    exact ⟨(isInt64_iff_wrap.mpr amountKept.symm).2, isUint64_iff_wrap.mpr batchKept.symm,
      isUint64_iff_wrap.mpr withdrawalKept.symm⟩
  · intro fits
    obtain ⟨small, batchFits, withdrawalFits⟩ := fits
    have amountFits : IsInt64 a := ⟨by omega, small⟩
    refine ⟨_, rfl, ?_⟩
    simp only [batchFits.wrap, withdrawalFits.wrap, amountFits.wrap]
    refine ⟨amount, positive, batchIndex, withdrawalIndex, ?_, sized⟩
    rw [count]
    exact depth

end

/-- A withdrawal that passes the check is sent as it was checked exactly where its integers fit the wire. -/
theorem executeWithdrawal_sentAsChecked_iff {isBech32 : String → Bool} {address : String}
    {input : ExecuteWithdrawalInput}
    (checked : withdrawalErrors isBech32 (input.forValidation address) = []) :
    (∀ message, executeWithdrawal isBech32 address input = .ok message → SentAsChecked input message) ↔
      FitsWire input := by
  rw [executeWithdrawal_checked checked]
  constructor
  · intro sent amount batchIndex withdrawalIndex amountRead batchRead withdrawalRead
    obtain ⟨-, -, lengths⟩ := withdrawalErrors_nil checked
    obtain ⟨proof, siblings, -⟩ := mapM_toBytes (n := 32) lengths
    have built : executeWithdrawalMsg address input = .ok _ := executeWithdrawalMsg_ok_iff.mpr
      ⟨batchIndex, withdrawalIndex, amount, proof, batchRead, withdrawalRead, amountRead, siblings, rfl⟩
    exact (sentAsChecked_iff checked built).mp (sent _ built)
  · intro fits message built
    apply (sentAsChecked_iff checked built).mpr
    obtain ⟨b, w, a, proof, batchIndex, withdrawalIndex, amount, -, rfl⟩ :=
      executeWithdrawalMsg_ok_iff.mp built
    exact fits a b w amount batchIndex withdrawalIndex

/-- The one address that the samples use. -/
def sampleAddress : String := "qor19rl4cm2hmr8afy4kldpxz3fka4jguq0agt672h"

def sampleWithdrawalInput : ExecuteWithdrawalInput where
  rollupId := "roll-1"
  batchIndex := .number 7
  withdrawalIndex := .string "0x0"
  recipient := sampleAddress
  denom := ROLLUP_ESCROW_DENOM
  amount := .string "9223372036854775807"
  proof := some [.bytes (List.replicate 32 0xab)]

def sampleWithdrawalMessage : MsgExecuteWithdrawal where
  submitter := sampleAddress
  rollupId := "roll-1"
  batchIndex := 7
  withdrawalIndex := 0
  recipient := sampleAddress
  denom := "uqor"
  amount := 9223372036854775807
  proof := [List.replicate 32 0xab]

theorem executeWithdrawal_sentAsChecked_iff_sample :
    executeWithdrawal (· == sampleAddress) sampleAddress sampleWithdrawalInput = .ok sampleWithdrawalMessage ∧
      SentAsChecked sampleWithdrawalInput sampleWithdrawalMessage := by
  have built : executeWithdrawal (· == sampleAddress) sampleAddress sampleWithdrawalInput =
      .ok sampleWithdrawalMessage := by decide
  refine ⟨built, (executeWithdrawal_sentAsChecked_iff (by decide)).mpr ?_ _ built⟩
  intro amount batchIndex withdrawalIndex amountRead batchRead withdrawalRead
  have amountValue : bigInt sampleWithdrawalInput.amount = .ok 9223372036854775807 := by decide
  have withdrawalValue : bigInt sampleWithdrawalInput.withdrawalIndex = .ok 0 := by decide
  rw [amountValue] at amountRead
  rw [withdrawalValue] at withdrawalRead
  cases amountRead
  cases batchRead
  cases withdrawalRead
  exact ⟨by decide, ⟨by decide, by decide⟩, ⟨by decide, by decide⟩⟩

/-- 2^63 is checked as positive, and the wire reads it as -2^63. -/
theorem amount_past_int64 : ¬ ∀ (isBech32 : String → Bool) (address : String) (input : ExecuteWithdrawalInput),
    withdrawalErrors isBech32 (input.forValidation address) = [] →
    ∀ message, executeWithdrawal isBech32 address input = .ok message → SentAsChecked input message := by
  intro sent
  let input : ExecuteWithdrawalInput := { sampleWithdrawalInput with amount := .bigint 9223372036854775808 }
  have built : executeWithdrawal (· == sampleAddress) sampleAddress input =
      .ok { sampleWithdrawalMessage with amount := 9223372036854775808 } := by decide
  obtain ⟨read, same, -, positive, -⟩ := sent _ _ input (by decide) _ built
  rw [decode_executeWithdrawal] at same
  cases same
  revert positive
  decide

end QorechainRdk
