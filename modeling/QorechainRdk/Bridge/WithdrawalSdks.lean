import QorechainRdk.Bridge.MerklePorts
import QorechainRdk.Bridge.WithdrawalProofs
import QorechainRdk.Counters
import QorechainRdk.TransitionSdks
import QorechainRdk.Tx.Messages
import QorechainRdk.Tx.Sdks

/-!
# One withdrawal in every client

`withdrawal.go`, `bridge/withdrawal.py`, `bridge/withdrawal.rs` and `Withdrawal.java` beside `bridge/withdrawal.ts`: the
trees of all five are one tree, and what any of them sends is proved to all of them.
-/

namespace QorechainRdk

open Js Protobuf

/-- An amount is a `uint64`, a `u64`, a `long` or an integer. -/
structure WithdrawalItem where
  recipient : String
  denom : String
  amount : BitVec 64
  deriving DecidableEq, Repr

structure WithdrawalLeaf where
  rollupId : String
  withdrawalIndex : BitVec 64
  recipient : String
  denom : String
  amount : BitVec 64
  deriving DecidableEq, Repr

/-- A tree without the function that proves from it. -/
structure CommittedTree where
  root : Bytes
  leaves : List Bytes
  deriving DecidableEq, Repr

/-! ### The shared layout -/

section
variable (shake256 : Bytes → Bytes)

def leafV1With (counter : BitVec 64 → Except JsError Bytes) (w : WithdrawalLeaf) : Except JsError Bytes := do
  let index ← counter w.withdrawalIndex
  let amount ← counter w.amount
  return qorehash shake256
    [encode w.rollupId, [0], index, encode w.recipient, [0], encode w.denom, [0], amount]

def leafV2With (lp : Bytes → Except JsError Bytes) (counter : BitVec 64 → Except JsError Bytes) (chainId : String)
    (w : WithdrawalLeaf) : Except JsError Bytes :=
  if chainId = "" then fail "a v2 withdrawal leaf names the chain id; pass it"
  else do
    let tag ← lp (encode "qorechain-rdk-withdrawal/v2")
    let chainId ← lp (encode chainId)
    let rollupId ← lp (encode w.rollupId)
    let index ← counter w.withdrawalIndex
    let recipient ← lp (encode w.recipient)
    let denom ← lp (encode w.denom)
    let amount ← counter w.amount
    return qorehash shake256 [tag, chainId, rollupId, index, recipient, denom, amount]

/-- The leaves, each at its index. -/
def leavesWith (leaf : Nat → WithdrawalItem → Except JsError Bytes) (i : Nat) :
    List WithdrawalItem → Except JsError (List Bytes)
  | [] => .ok []
  | w :: rest => do
    let first ← leaf i w
    let leaves ← leavesWith leaf (i + 1) rest
    return first :: leaves

def treeWith (leaf : Nat → WithdrawalItem → Except JsError Bytes) (root : List Bytes → Bytes)
    (withdrawals : List WithdrawalItem) : Except JsError CommittedTree :=
  if withdrawals.length = 0 then fail "a withdrawals tree needs at least one withdrawal"
  else do
    let leaves ← leavesWith leaf 0 withdrawals
    return { root := root leaves, leaves }

def itemLeaf (rollupId : String) (i : Nat) (w : WithdrawalItem) : WithdrawalLeaf where
  rollupId
  withdrawalIndex := BitVec.ofNat 64 i
  recipient := w.recipient
  denom := w.denom
  amount := w.amount

/-! ### Each language -/

namespace Go

def u64Bytes (n : BitVec 64) : Bytes := Coding.bigEndian 8 n.toNat

def lenPrefixed (b : Bytes) : Bytes := Coding.lengthPrefixed 4 b

def withdrawalLeafV1 (w : WithdrawalLeaf) : Except JsError Bytes := leafV1With shake256 (fun n => .ok (u64Bytes n)) w

def withdrawalLeafV2 (chainID : String) (w : WithdrawalLeaf) : Except JsError Bytes :=
  leafV2With shake256 (fun b => .ok (lenPrefixed b)) (fun n => .ok (u64Bytes n)) chainID w

def chainTree : MerkleOptions := { hashLeaves := some false, duplicateOdd := some true }

def newWithdrawalsTree (withdrawals : List WithdrawalItem) (rollupID : String) (version : TransitionRootVersion)
    (chainID : String) : Except JsError CommittedTree :=
  treeWith
    (fun i w => match version with
      | .v2 => withdrawalLeafV2 shake256 chainID (itemLeaf rollupID i w)
      | .v1 => withdrawalLeafV1 shake256 (itemLeaf rollupID i w))
    (fun leaves => binaryMerkleRoot shake256 leaves (some chainTree)) withdrawals

def assembleWithdrawalProof (leaves : List Bytes) (withdrawalIndex : Int) (opts : Option MerkleOptions := none) :
    Except JsError WithdrawalProof := do
  let proof ← binaryMerkleProof shake256 leaves withdrawalIndex (some (opts.getD chainTree))
  return { proof := proof.siblings, withdrawalsRoot := proof.root, withdrawalIndex }

/-- The amount is converted to a signed one; `ExecuteWithdrawalMsg` only renames the type. -/
def buildExecuteWithdrawalInput (submitter rollupID : String) (batchIndex : BitVec 64) (recipient denom : String)
    (amount : BitVec 64) (w : WithdrawalProof) : MsgExecuteWithdrawal where
  submitter
  rollupId := rollupID
  batchIndex := batchIndex.toNat
  withdrawalIndex := (BitVec.ofInt 64 w.withdrawalIndex).toNat
  recipient
  denom
  amount := amount.toInt
  proof := w.proof

end Go

namespace Rust

def lp (b : Bytes) : Bytes := Coding.bigEndian 4 (b.length % 2 ^ 32 : Nat) ++ b

def toBeBytes (n : BitVec 64) : Bytes := Coding.bigEndian 8 n.toNat

def withdrawalLeafV1 (w : WithdrawalLeaf) : Except JsError Bytes := leafV1With shake256 (fun n => .ok (toBeBytes n)) w

def withdrawalLeafV2 (chainId : String) (w : WithdrawalLeaf) : Except JsError Bytes :=
  leafV2With shake256 (fun b => .ok (lp b)) (fun n => .ok (toBeBytes n)) chainId w

def chainTree : MerkleOptions where
  hash := fun data => qorehash shake256 [data]
  hashLeaves := false
  duplicateOdd := true

def withdrawalsTree (withdrawals : List WithdrawalItem) (rollupId : String) (version : TransitionRootVersion)
    (chainId : String) : Except JsError CommittedTree :=
  treeWith
    (fun i w => match version with
      | .v1 => withdrawalLeafV1 shake256 (itemLeaf rollupId i w)
      | .v2 => withdrawalLeafV2 shake256 chainId (itemLeaf rollupId i w))
    (fun leaves => binaryMerkleRoot leaves (chainTree shake256)) withdrawals

/-- An index out of range panics. -/
def assembleWithdrawalProof (leaves : List Bytes) (withdrawalIndex : Nat) (options : Option MerkleOptions := none) :
    Option WithdrawalProof := do
  let proof ← binaryMerkleProof leaves withdrawalIndex (options.getD (chainTree shake256))
  return { proof := proof.siblings, withdrawalsRoot := proof.root, withdrawalIndex }

/-- The amount is an `i64`; `to_msg` copies every field. -/
def buildExecuteWithdrawalInput (submitter rollupId : String) (batchIndex : BitVec 64) (recipient denom : String)
    (amount : BitVec 64) (withdrawal : WithdrawalProof) : MsgExecuteWithdrawal where
  submitter
  rollupId
  batchIndex := batchIndex.toNat
  withdrawalIndex := (BitVec.ofInt 64 withdrawal.withdrawalIndex).toNat
  recipient
  denom
  amount := amount.toInt
  proof := withdrawal.proof

end Rust

namespace Jvm

/-- `putLong` writes the 64 bits of the `long`. -/
def u64be (n : BitVec 64) : Bytes := Coding.bigEndian 8 n.toInt

def lp (b : Bytes) : Bytes := Coding.lengthPrefixed 4 b

def withdrawalLeafV1 (w : WithdrawalLeaf) : Except JsError Bytes := leafV1With shake256 (fun n => .ok (u64be n)) w

def withdrawalLeafV2 (chainId : Option String) (w : WithdrawalLeaf) : Except JsError Bytes :=
  leafV2With shake256 (fun b => .ok (lp b)) (fun n => .ok (u64be n)) (chainId.getD "") w

/-- A null field takes its default, as in Go. -/
abbrev MerkleOptions := Go.MerkleOptions

def resolve (options : Option MerkleOptions) : Merkle.Resolved := Go.resolveMerkleOptions shake256 options

def chainTree : MerkleOptions := { hashLeaves := some false, duplicateOdd := some true }

def binaryMerkleRoot (leaves : List Bytes) (options : Option MerkleOptions) : Bytes :=
  let opts := resolve shake256 options
  if leaves.isEmpty then opts.hash [] else Merkle.rootLoop opts (Merkle.leafNodes leaves opts)

def binaryMerkleProof (leaves : List Bytes) (index : Int) (options : Option MerkleOptions) :
    Except JsError MerkleProof :=
  if index < 0 ∨ index ≥ leaves.length then
    fail s!"leaf index {index} out of range (0..{(leaves.length : Int) - 1})"
  else
    let opts := resolve shake256 options
    let (siblings, root) := Merkle.proofLoop opts (Merkle.leafNodes leaves opts) index.toNat []
    .ok { siblings, root, index }

/-- Remainder and quotient are those of Go. -/
def verifyBinaryMerkleProof (leaf : Bytes) (index : Int) (siblings : List Bytes) (root : Bytes)
    (options : Option MerkleOptions) : Bool :=
  let opts := resolve shake256 options
  let node := if opts.hashLeaves then opts.hash leaf else leaf
  Go.verifyLoop opts.hash node index siblings == root

def withdrawalsTree (withdrawals : List WithdrawalItem) (rollupId : String) (version : TransitionRootVersion)
    (chainId : Option String) : Except JsError CommittedTree :=
  treeWith
    (fun i w => if version = .v2 then withdrawalLeafV2 shake256 chainId (itemLeaf rollupId i w)
      else withdrawalLeafV1 shake256 (itemLeaf rollupId i w))
    (fun leaves => binaryMerkleRoot shake256 leaves (some chainTree)) withdrawals

def assembleWithdrawalProof (leaves : List Bytes) (withdrawalIndex : Int) (options : Option MerkleOptions := none) :
    Except JsError WithdrawalProof := do
  let proof ← binaryMerkleProof shake256 leaves withdrawalIndex (some (options.getD chainTree))
  return { proof := proof.siblings, withdrawalsRoot := proof.root, withdrawalIndex }

/-- The `long` of an amount is the signed one; those of the indexes are kept as the unsigned numbers. -/
def buildExecuteWithdrawalInput (submitter rollupId : String) (batchIndex : BitVec 64) (recipient denom : String)
    (amount : BitVec 64) (withdrawal : WithdrawalProof) : MsgExecuteWithdrawal where
  submitter
  rollupId
  batchIndex := batchIndex.toNat
  withdrawalIndex := (BitVec.ofInt 64 withdrawal.withdrawalIndex).toNat
  recipient
  denom
  amount := amount.toInt
  proof := withdrawal.proof

end Jvm

namespace Py

def itemLeaf (rollupId : String) (i : Nat) (w : WithdrawalItem) : WithdrawalLeafInput where
  rollupId
  withdrawalIndex := .int i
  recipient := w.recipient
  denom := w.denom
  amount := .int w.amount.toNat

def chainTree : MerkleOptions where
  hash := fun data => qorehash shake256 [data]
  hashLeaves := false
  duplicateOdd := true

def withdrawalsTree (readInt : String → Except JsError Int) (withdrawals : List WithdrawalItem) (rollupId : String)
    (version : TransitionRootVersion) (chainId : Option String) : Except JsError CommittedTree :=
  treeWith
    (fun i w => if version = .v2 then withdrawalLeafV2 readInt shake256 (chainId.getD "") (itemLeaf rollupId i w)
      else withdrawalLeafV1 readInt shake256 (itemLeaf rollupId i w))
    (fun leaves => binaryMerkleRoot shake256 leaves (some (chainTree shake256))) withdrawals

def assembleWithdrawalProof (leaves : List Bytes) (withdrawalIndex : Int) (options : Option MerkleOptions := none) :
    Except JsError WithdrawalProof := do
  let result ← binaryMerkleProof shake256 leaves withdrawalIndex (some (options.getD (chainTree shake256)))
  return { proof := result.siblings, withdrawalsRoot := result.root, withdrawalIndex }

def buildExecuteWithdrawalInput (submitter rollupId : String) (batchIndex : BitVec 64) (recipient denom : String)
    (amount : BitVec 64) (withdrawal : WithdrawalProof) : MsgExecuteWithdrawal where
  submitter
  rollupId
  batchIndex := batchIndex.toNat
  withdrawalIndex := withdrawal.withdrawalIndex
  recipient
  denom
  amount := amount.toNat
  proof := withdrawal.proof

end Py

/-! ### TypeScript -/

def WithdrawalItem.toTs (w : WithdrawalItem) : Withdrawal where
  recipient := w.recipient
  denom := w.denom
  amount := .bigint w.amount.toNat

def WithdrawalsTree.committed (tree : WithdrawalsTree) : CommittedTree := ⟨tree.root, tree.leaves⟩

def buildExecuteWithdrawalInput (rollupId : String) (batchIndex : Integral) (recipient denom : String)
    (amount : Integral) (withdrawal : WithdrawalProof) : ExecuteWithdrawalInput where
  rollupId
  batchIndex
  withdrawalIndex := .number withdrawal.withdrawalIndex
  recipient
  denom
  amount
  proof := some (withdrawal.proof.map .bytes)

end
end QorechainRdk
