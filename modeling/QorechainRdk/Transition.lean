import QorechainRdk.Client.Views
import QorechainRdk.Utils.Bytes

/-!
# The canonical transition root

`transition/index.ts`: the state root that the chain judges an optimistic batch by.
-/

namespace QorechainRdk

open Js

/-- Which binding the chain judges a batch by. -/
inductive TransitionRootVersion where
  | v1
  | v2
  deriving DecidableEq, Repr

def WITHDRAWALS_BINDING_UPGRADE : String := "v3.2.5"

structure TransitionInput where
  prevStateRoot : HexOrBytes
  dataHash : Option HexOrBytes := none
  txCount : Int
  chainId : Option String := none
  rollupId : Option String := none
  withdrawalsRoot : Option HexOrBytes := none
  deriving DecidableEq, Repr

def bytesOf : Option HexOrBytes → Except JsError Bytes
  | none => .ok []
  | some b => toBytes b

section
variable (shake256 : Bytes → Bytes)

def batchTransitionRootV1 (input : TransitionInput) : Except JsError Bytes := do
  return qorehash shake256
    [← bytesOf (some input.prevStateRoot), ← bytesOf input.dataHash, ← u64be (.bigint input.txCount)]

def batchTransitionRootV2 (input : TransitionInput) : Except JsError Bytes :=
  if falsy input.chainId || falsy input.rollupId then
    fail "the v2 transition root covers the chain id and the rollup id; pass both"
  else do
    let withdrawalsRoot ← bytesOf input.withdrawalsRoot
    if withdrawalsRoot.length ≠ 0 ∧ withdrawalsRoot.length ≠ 32 then
      fail s!"withdrawalsRoot must be empty or 32 bytes, got {withdrawalsRoot.length}"
    else do
      return qorehash shake256
        (lp (encode "qorechain-rdk-transition/v2") ++ lp (encode (input.chainId.getD "")) ++
          lp (encode (input.rollupId.getD "")) ++ lp (← bytesOf (some input.prevStateRoot)) ++
          lp (← bytesOf input.dataHash) ++ [← u64be (.bigint input.txCount)] ++ lp withdrawalsRoot)

def batchTransitionRoot (input : TransitionInput) (version : TransitionRootVersion) :
    Except JsError Bytes :=
  match version with
  | .v2 => batchTransitionRootV2 shake256 input
  | .v1 => batchTransitionRootV1 shake256 input

end

/-- A batch keeps the binding that was in force at the height it was submitted at. -/
def transitionRootVersionForBatch (rest : RestClient) (batch : BatchView) :
    Except JsError TransitionRootVersion :=
  if batch.withdrawalsBound = some true then .ok .v2
  else do
    let applied ← rest.getAppliedPlanHeight WITHDRAWALS_BINDING_UPGRADE
    return if 0 < applied ∧ applied ≤ batch.submittedAt then .v2 else .v1

/-- `prev_state_root(32) || correct_state_root(32)`. -/
def fraudProof (prevStateRoot correctStateRoot : HexOrBytes) : Except JsError Bytes := do
  let prev ← toBytes prevStateRoot
  let correct ← toBytes correctStateRoot
  if prev.length ≠ 32 ∨ correct.length ≠ 32 then
    fail "a fraud proof needs a 32-byte previous root and a 32-byte correct root"
  else return prev ++ correct

/-! ### The message behind a transition root -/

/-- What is hashed, from the decoded fields. -/
def transitionMessage (version : TransitionRootVersion) (chainId rollupId : String)
    (prevStateRoot dataHash : Bytes) (txCount : Int) (withdrawalsRoot : Bytes) : Bytes :=
  match version with
  | .v1 => prevStateRoot ++ (dataHash ++ Coding.bigEndian 8 txCount)
  | .v2 =>
    Coding.lengthPrefixed 4 (encode "qorechain-rdk-transition/v2") ++ (Coding.lengthPrefixed 4 (encode chainId) ++
      (Coding.lengthPrefixed 4 (encode rollupId) ++ (Coding.lengthPrefixed 4 prevStateRoot ++
        (Coding.lengthPrefixed 4 dataHash ++ (Coding.bigEndian 8 txCount ++
          Coding.lengthPrefixed 4 withdrawalsRoot)))))

/-- The canonical root of a record, under a given binding. -/
def transitionRootOf (shake256 : Bytes → Bytes) (version : TransitionRootVersion) (chainId rollupId : String)
    (prevStateRoot dataHash : Bytes) (txCount : Int) (withdrawalsRoot : Bytes) : Except JsError Bytes :=
  batchTransitionRoot shake256
    { chainId := some chainId
      rollupId := some rollupId
      prevStateRoot := .bytes prevStateRoot
      dataHash := some (.bytes dataHash)
      txCount := txCount
      withdrawalsRoot := some (.bytes withdrawalsRoot) }
    version

section
variable {shake256 : Bytes → Bytes} {version : TransitionRootVersion} {chainId rollupId : String}
  {prev dataHash withdrawalsRoot root : Bytes} {n m : Int}

theorem u64be_bigint (n : Int) : u64be (.bigint n) = .ok (Coding.bigEndian 8 n) :=
  u64be_ok_iff.mpr ⟨n, rfl, rfl⟩

/-- Whether there is a canonical root does not depend on the counter. -/
theorem transitionRootOf_ok_iff :
    transitionRootOf shake256 version chainId rollupId prev dataHash n withdrawalsRoot = .ok root ↔
      (version = .v2 → chainId ≠ "" ∧ rollupId ≠ "" ∧
        (withdrawalsRoot.length = 0 ∨ withdrawalsRoot.length = 32)) ∧
      shake256 (transitionMessage version chainId rollupId prev dataHash n withdrawalsRoot) = root := by
  unfold transitionRootOf batchTransitionRoot
  cases version with
  | v1 =>
    simp [batchTransitionRootV1, bytesOf, toBytes, u64be_bigint, qorehash, transitionMessage, pure, Except.pure]
  | v2 =>
    unfold batchTransitionRootV2
    rw [guard_ok_iff]
    simp only [bytesOf, toBytes, ok_bind, u64be_bigint, guard_ok_iff, pure_ok_iff, qorehash,
      transitionMessage, List.flatten_append, lp_flatten, Option.getD_some]
    simp [falsy, and_assoc, or_iff_not_imp_left]

theorem counter_of_message_eq
    (same : transitionMessage version chainId rollupId prev dataHash n withdrawalsRoot =
      transitionMessage version chainId rollupId prev dataHash m withdrawalsRoot) :
    Coding.bigEndian 8 n = Coding.bigEndian 8 m := by
  cases version with
  | v1 => simpa [transitionMessage] using same
  | v2 =>
    simp only [transitionMessage, List.append_cancel_left_eq] at same
    exact List.append_cancel_right same

theorem counter_mod_of_message_eq
    (same : transitionMessage version chainId rollupId prev dataHash n withdrawalsRoot =
      transitionMessage version chainId rollupId prev dataHash m withdrawalsRoot) :
    n % 2 ^ 64 = m % 2 ^ 64 := by
  have mod := (Coding.bigEndian_eq_iff 8 n m).mp (counter_of_message_eq same)
  have width : (256 : Int) ^ 8 = 2 ^ 64 := by decide
  rwa [width] at mod

end

end QorechainRdk
