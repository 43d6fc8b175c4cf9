import QorechainRdk.Bridge.MerkleTree
import QorechainRdk.Transition

/-!
# Withdrawal leaves and proofs

`bridge/withdrawal.ts`: the leaves as the chain hashes them, a batch's tree, and the proof of one
withdrawal.
-/

namespace QorechainRdk

open Js

/-- An index is a `number` or a `bigint`, either way an integer. -/
structure WithdrawalLeafInput where
  rollupId : String
  withdrawalIndex : Int
  recipient : String
  denom : String
  amount : Integral
  deriving DecidableEq, Repr

structure Withdrawal where
  recipient : String
  denom : String
  amount : Integral
  deriving DecidableEq, Repr

structure WithdrawalsTreeOptions where
  rollupId : String
  version : TransitionRootVersion
  chainId : Option String := none
  deriving DecidableEq, Repr

def CHAIN_TREE : MerkleOptions := { hashLeaves := some false, duplicateOdd := some true }

structure WithdrawalProof where
  proof : List Bytes
  withdrawalsRoot : Bytes
  withdrawalIndex : Int
  deriving DecidableEq, Repr

structure WithdrawalsTree where
  root : Bytes
  leaves : List Bytes
  proof : Int → Except JsError WithdrawalProof

section
variable (shake256 : Bytes → Bytes)

def withdrawalLeafV1 (w : WithdrawalLeafInput) : Except JsError Bytes := do
  let zero : Bytes := [0]
  return qorehash shake256
    [encode w.rollupId, zero, ← u64be (.bigint w.withdrawalIndex), encode w.recipient, zero,
      encode w.denom, zero, ← u64be w.amount]

def withdrawalLeafV2 (chainId : String) (w : WithdrawalLeafInput) : Except JsError Bytes :=
  if chainId = "" then fail "a v2 withdrawal leaf names the chain id; pass it" else do
    return qorehash shake256
      (lp (encode "qorechain-rdk-withdrawal/v2") ++ lp (encode chainId) ++ lp (encode w.rollupId) ++
        [← u64be (.bigint w.withdrawalIndex)] ++ lp (encode w.recipient) ++ lp (encode w.denom) ++
        [← u64be w.amount])

def treeInput (opts : WithdrawalsTreeOptions) (i : Nat) (w : Withdrawal) : WithdrawalLeafInput where
  rollupId := opts.rollupId
  withdrawalIndex := i
  recipient := w.recipient
  denom := w.denom
  amount := w.amount

def treeLeaf (opts : WithdrawalsTreeOptions) (i : Nat) (w : Withdrawal) : Except JsError Bytes :=
  match opts.version with
  | .v2 => withdrawalLeafV2 shake256 (opts.chainId.getD "") (treeInput opts i w)
  | .v1 => withdrawalLeafV1 shake256 (treeInput opts i w)

def treeLeaves (opts : WithdrawalsTreeOptions) (i : Nat) : List Withdrawal → Except JsError (List Bytes)
  | [] => .ok []
  | w :: rest => do
    let leaf ← treeLeaf shake256 opts i w
    let leaves ← treeLeaves opts (i + 1) rest
    return leaf :: leaves

def assembleWithdrawalProof (leaves : List Bytes) (withdrawalIndex : Int)
    (options : MerkleOptions := CHAIN_TREE) : Except JsError WithdrawalProof := do
  let { siblings, root, .. } ← binaryMerkleProof shake256 leaves withdrawalIndex options
  return { proof := siblings, withdrawalsRoot := root, withdrawalIndex }

def withdrawalsTree (withdrawals : List Withdrawal) (opts : WithdrawalsTreeOptions) :
    Except JsError WithdrawalsTree :=
  if withdrawals.length = 0 then fail "a withdrawals tree needs at least one withdrawal" else do
    let leaves ← treeLeaves shake256 opts 0 withdrawals
    return {
      root := binaryMerkleRoot shake256 leaves CHAIN_TREE
      leaves
      proof := fun withdrawalIndex => assembleWithdrawalProof shake256 leaves withdrawalIndex }

/-! ### What is hashed -/

/-- The string that `withdrawalLeafV2` hashes, for an amount already read as an integer. -/
def leafBytesV2 (chainId : String) (w : WithdrawalLeafInput) (amount : Int) : Bytes :=
  Coding.lengthPrefixed 4 (encode "qorechain-rdk-withdrawal/v2") ++
    (Coding.lengthPrefixed 4 (encode chainId) ++ (Coding.lengthPrefixed 4 (encode w.rollupId) ++
      (Coding.bigEndian 8 w.withdrawalIndex ++ (Coding.lengthPrefixed 4 (encode w.recipient) ++
        (Coding.lengthPrefixed 4 (encode w.denom) ++ (Coding.bigEndian 8 amount ++ []))))))

theorem withdrawalLeafV2_ok_iff {chainId : String} {w : WithdrawalLeafInput} {leaf : Bytes} :
    withdrawalLeafV2 shake256 chainId w = .ok leaf ↔
      chainId ≠ "" ∧ ∃ amount, bigInt w.amount = .ok amount ∧
        shake256 (leafBytesV2 chainId w amount) = leaf := by
  have index : u64be (.bigint w.withdrawalIndex) = .ok (Coding.bigEndian 8 w.withdrawalIndex) :=
    u64be_ok_iff.mpr ⟨_, rfl, rfl⟩
  unfold withdrawalLeafV2
  rw [guard_ok_iff, index, ok_bind, bind_ok_iff]
  simp only [u64be_ok_iff, pure_ok_iff, and_assoc, ↓existsAndEq, true_and]
  simp [qorehash, lp_flatten, leafBytesV2]

theorem treeLeaves_ok {opts : WithdrawalsTreeOptions} {i : Nat} {ws : List Withdrawal}
    {leaves : List Bytes} (h : treeLeaves shake256 opts i ws = .ok leaves) :
    leaves.length = ws.length ∧
      ∀ j (inside : j < ws.length), ∃ leaf, leaves[j]? = some leaf ∧
        treeLeaf shake256 opts (i + j) ws[j] = .ok leaf := by
  induction ws generalizing i leaves with
  | nil =>
    obtain rfl : [] = leaves := by simpa [treeLeaves] using h
    simp
  | cons w rest ih =>
    obtain ⟨leaf, first, h⟩ := bind_ok h
    obtain ⟨others, tail, h⟩ := bind_ok h
    obtain rfl := pure_ok_iff.mp h
    obtain ⟨length, each⟩ := ih tail
    refine ⟨by simp [length], ?_⟩
    intro j inside
    cases j with
    | zero => exact ⟨leaf, rfl, first⟩
    | succ j =>
      obtain ⟨other, found, read⟩ := each j (by simpa using inside)
      exact ⟨other, by simpa using found, by simpa [Nat.add_assoc, Nat.add_comm 1 j] using read⟩

theorem withdrawalsTree_ok {ws : List Withdrawal} {opts : WithdrawalsTreeOptions}
    {tree : WithdrawalsTree} (h : withdrawalsTree shake256 ws opts = .ok tree) :
    ws ≠ [] ∧ treeLeaves shake256 opts 0 ws = .ok tree.leaves ∧
      tree.root = binaryMerkleRoot shake256 tree.leaves CHAIN_TREE ∧
      tree.proof = fun i => assembleWithdrawalProof shake256 tree.leaves i := by
  obtain ⟨some, h⟩ := guard_ok_iff.mp h
  obtain ⟨leaves, read, h⟩ := bind_ok h
  obtain rfl := pure_ok_iff.mp h
  exact ⟨fun none => some (by simp [none]), read, rfl, rfl⟩

end
end QorechainRdk
