import QorechainRdk.Transition
import QorechainRdk.Watchtower.Runs

/-!
# The chain's own rule as the predicate

`transitionRootValidator` and `fraudProofForBatch` of `watchtower/index.ts`.
-/

namespace QorechainRdk

section
variable (shake256 : Bytes → Bytes) (client : RdkClient) (rollupId : String)

def canonicalRootFor (batch : BatchView) : Except JsError Bytes := do
  let version ← transitionRootVersionForBatch client.rest batch
  let prevStateRoot ← decodeWireBytes batch.prevStateRoot
  let dataHash ← decodeWireBytes batch.dataHash
  let withdrawalsRoot ← decodeWireBytes batch.withdrawalsRoot
  batchTransitionRoot shake256
    { chainId := some client.network.chainId
      rollupId := some rollupId
      prevStateRoot := .bytes prevStateRoot
      dataHash := some (.bytes dataHash)
      txCount := batch.txCount
      withdrawalsRoot := some (.bytes withdrawalsRoot) }
    version

def transitionRootValidator (batch : BatchView) : Except JsError Bool := do
  let published ← decodeWireBytes batch.stateRoot
  return sameBytes published (← canonicalRootFor shake256 client rollupId batch)

def fraudProofForBatch (batch : BatchView) : Except JsError (Option Bytes) := do
  let canonical ← canonicalRootFor shake256 client rollupId batch
  let published ← decodeWireBytes batch.stateRoot
  if sameBytes published canonical then return none
  else do
    let prev ← decodeWireBytes batch.prevStateRoot
    return some (← fraudProof (.bytes prev) (.bytes canonical))

end

section
variable {shake256 : Bytes → Bytes} {client : RdkClient} {rollupId : String} {a b : BatchView}

theorem canonicalRootFor_posted (same : Watchtower.posted a = Watchtower.posted b) :
    canonicalRootFor shake256 client rollupId a = canonicalRootFor shake256 client rollupId b := by
  have posted : ∀ c, canonicalRootFor shake256 client rollupId (Watchtower.posted c) =
      canonicalRootFor shake256 client rollupId c := fun _ => rfl
  rw [← posted a, same, posted]

/-- A batch that publishes another root than its canonical one is invalid. -/
theorem transitionRootValidator_ok {published root : Bytes} (root_ok : decodeWireBytes b.stateRoot = .ok published)
    (canonical : canonicalRootFor shake256 client rollupId b = .ok root) :
    transitionRootValidator shake256 client rollupId b = .ok (decide (published = root)) := by
  unfold transitionRootValidator
  rw [root_ok, canonical]
  have verdict : sameBytes published root = decide (published = root) := by
    rw [Bool.eq_iff_iff, sameBytes_iff, decide_eq_true_iff]
  rw [← verdict]
  rfl

end

end QorechainRdk
