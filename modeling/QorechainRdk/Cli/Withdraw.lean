import QorechainRdk.Bridge.WithdrawalProofs
import QorechainRdk.Tx.Withdrawal
import QorechainRdk.Utils.Base64

/-!
# `qorollup withdraw`

`cmdWithdraw` of `commands.ts`. A spec file lists the batch's withdrawals, or only their leaf hashes, and then
says by itself what the withdrawal is.
-/

namespace QorechainRdk
namespace Cli

open Js

structure WithdrawalSpec where
  rollupId : String
  batchIndex : Int
  index : Int
  withdrawals : Option (List Withdrawal) := none
  leaves : Option (List String) := none
  recipient : Option String := none
  denom : Option String := none
  amount : Option Integral := none
  deriving DecidableEq, Repr

structure CliContext where
  rest : RestClient
  /-- Of the client's network. -/
  chainId : String
  /-- The address of the transaction client, once it is connected. -/
  connectTx : Except JsError String

inductive WithdrawOutcome where
  | refused (message : String)
  | dryRun (message : String)
  | submitted (message : MsgExecuteWithdrawal)
  deriving DecidableEq, Repr

structure Assembled where
  proof : WithdrawalProof
  recipient : Option String
  denom : Option String
  amount : Option Integral
  deriving DecidableEq, Repr

def buildExecuteWithdrawalInput (rollupId : String) (batchIndex : Int) (recipient denom : String)
    (amount : Integral) (withdrawal : WithdrawalProof) : ExecuteWithdrawalInput where
  rollupId := rollupId
  batchIndex := .number batchIndex
  withdrawalIndex := .number withdrawal.withdrawalIndex
  recipient := recipient
  denom := denom
  amount := amount
  proof := some (withdrawal.proof.map .bytes)

section
variable (shake256 : Bytes → Bytes) (isBech32 : String → Bool) (ctx : CliContext)

/-- The proof with what it is for, or the text of a refusal. -/
def assemble (spec : WithdrawalSpec) (batch : Option BatchView) :
    Except JsError (Except String Assembled) :=
  match spec.withdrawals, spec.leaves with
  | some withdrawals, _ =>
    match batch with
    | none => .ok (.error "the batch must be readable to know which leaf encoding it commits (v1 or v2)")
    | some batch => do
      let version ← transitionRootVersionForBatch ctx.rest batch
      let tree ← withdrawalsTree shake256 withdrawals
        { rollupId := spec.rollupId, version, chainId := some ctx.chainId }
      let proof ← tree.proof spec.index
      match withdrawals[spec.index.toNat]? with
      | none => fail "Cannot read properties of undefined (reading 'recipient')"
      | some w =>
        return .ok { proof, recipient := some w.recipient, denom := some w.denom, amount := some w.amount }
  | none, some leaves => do
    let hashes ← leaves.mapM hexToBytes
    let proof ← assembleWithdrawalProof shake256 hashes spec.index
    return .ok { proof, recipient := spec.recipient, denom := spec.denom, amount := spec.amount }
  | none, none => .ok (.error "the withdrawal spec needs `withdrawals` (or `leaves`)")

/-- The root that the batch committed, against the one that the proof leads to. -/
def rootRefusal (batch : Option BatchView) (proof : WithdrawalProof) : Except JsError (Option String) :=
  match batch with
  | none => .ok none
  | some batch => do
    let onChain := bytesToHex (← decodeWireBytes batch.withdrawalsRoot)
    let shown := if onChain = "" then "empty" else onChain
    if onChain ≠ bytesToHex proof.withdrawalsRoot then
      return some (s!"the computed withdrawals root {bytesToHex proof.withdrawalsRoot} is not the batch's " ++
        s!"({shown}); the chain would refuse this proof")
    else return none

def submit (spec : WithdrawalSpec) (batch : Option BatchView) (dryRun : Bool) (proof : WithdrawalProof)
    (recipient denom : String) (amount : Integral) : Except JsError WithdrawOutcome := do
  match ← rootRefusal batch proof with
  | some message => return .refused message
  | none =>
    if dryRun then
      return .dryRun (s!"Assembled withdrawal proof ({proof.proof.length} sibling hashes). " ++
        "Dry run — not submitted.")
    else do
      let address ← ctx.connectTx
      let input := buildExecuteWithdrawalInput spec.rollupId spec.batchIndex recipient denom amount proof
      return .submitted (← executeWithdrawal isBech32 address input)

def withdrawFrom (spec : WithdrawalSpec) (batch : Option BatchView) (dryRun : Bool) :
    Except JsError WithdrawOutcome := do
  match ← assemble shake256 ctx spec batch with
  | .error message => return .refused message
  | .ok { proof, recipient := some recipient, denom := some denom, amount := some amount } =>
    submit isBech32 ctx spec batch dryRun proof recipient denom amount
  | .ok _ => return .refused "the withdrawal spec needs recipient, denom and amount (or `withdrawals`)"

def cmdWithdraw (dryRun : Bool) (spec : WithdrawalSpec) : Except JsError WithdrawOutcome :=
  match ctx.rest.getBatch spec.rollupId spec.batchIndex with
  | .ok batch => withdrawFrom shake256 isBech32 ctx spec (some batch) dryRun
  | .error err =>
    if !dryRun then
      .ok (.refused s!"cannot read batch {spec.batchIndex} of {spec.rollupId}: {err.message}")
    else withdrawFrom shake256 isBech32 ctx spec none dryRun

end

/-! ### What is sent -/

section
variable {shake256 : Bytes → Bytes} {isBech32 : String → Bool} {ctx : CliContext} {dryRun : Bool}
  {spec : WithdrawalSpec} {batch : BatchView} {proof : WithdrawalProof} {recipient denom : String}
  {amount : Integral} {message : MsgExecuteWithdrawal}

theorem rootRefusal_none (passed : rootRefusal (some batch) proof = .ok none) :
    decodeWireBytes batch.withdrawalsRoot = .ok proof.withdrawalsRoot := by
  obtain ⟨root, decoded, rest⟩ := bind_ok passed
  dsimp only at rest
  split at rest
  · cases rest
  · rename_i same
    rw [decoded, bytesToHex_inj (Decidable.not_not.mp same)]

theorem mapM_bytes (siblings : List Bytes) : (siblings.map HexOrBytes.bytes).mapM toBytes = .ok siblings := by
  induction siblings with
  | nil => rfl
  | cons first rest ih =>
    rw [List.map_cons, List.mapM_cons, ih]
    rfl

theorem submit_submitted
    (sent : submit isBech32 ctx spec (some batch) dryRun proof recipient denom amount =
      .ok (.submitted message)) :
    decodeWireBytes batch.withdrawalsRoot = .ok proof.withdrawalsRoot ∧
      ∃ address a, bigInt amount = .ok a ∧
        message = ⟨address, spec.rollupId, spec.batchIndex, proof.withdrawalIndex, recipient, denom, a,
          proof.proof⟩ := by
  obtain ⟨refusal, checked, sent⟩ := bind_ok sent
  cases refusal with
  | some text => cases sent
  | none =>
    refine ⟨rootRefusal_none checked, ?_⟩
    dsimp only at sent
    split at sent
    · cases sent
    · obtain ⟨address, -, sent⟩ := bind_ok sent
      obtain ⟨built, executed, sent⟩ := bind_ok sent
      cases sent
      unfold executeWithdrawal at executed
      obtain ⟨-, executed⟩ := guard_ok_iff.mp executed
      obtain ⟨batchIndex, index, a, siblings, batchRead, indexRead, amountRead, proofRead, same⟩ :=
        executeWithdrawalMsg_ok_iff.mp executed
      cases batchRead
      cases indexRead
      change (proof.proof.map HexOrBytes.bytes).mapM toBytes = .ok siblings at proofRead
      rw [mapM_bytes] at proofRead
      cases proofRead
      exact ⟨address, a, amountRead, same⟩

/-- Whatever is sent was assembled for the batch that was read, and leads to its root. -/
theorem cmdWithdraw_submitted (read : ctx.rest.getBatch spec.rollupId spec.batchIndex = .ok batch)
    (sent : cmdWithdraw shake256 isBech32 ctx dryRun spec = .ok (.submitted message)) :
    ∃ address a proof recipient denom amount,
      assemble shake256 ctx spec (some batch) =
        .ok (.ok ⟨proof, some recipient, some denom, some amount⟩) ∧
      decodeWireBytes batch.withdrawalsRoot = .ok proof.withdrawalsRoot ∧ bigInt amount = .ok a ∧
      message = ⟨address, spec.rollupId, spec.batchIndex, proof.withdrawalIndex, recipient, denom, a,
        proof.proof⟩ := by
  unfold cmdWithdraw at sent
  rw [read] at sent
  obtain ⟨result, assembled, sent⟩ := bind_ok sent
  split at sent
  · cases sent
  · rename_i proof recipient denom amount
    obtain ⟨root, address, a, whole, same⟩ := submit_submitted sent
    exact ⟨address, a, proof, recipient, denom, amount, assembled, root, whole, same⟩
  · cases sent

end

/-! ### What the chain takes -/

section
variable (shake256 : Bytes → Bytes) (version : TransitionRootVersion) (chainId : String)

/-- The leaf of what is sent, as the chain computes it for a batch of the version. -/
def messageLeaf (message : MsgExecuteWithdrawal) : Except JsError Bytes :=
  let w : WithdrawalLeafInput :=
    { rollupId := message.rollupId, withdrawalIndex := message.withdrawalIndex
      recipient := message.recipient, denom := message.denom, amount := .bigint message.amount }
  match version with
  | .v2 => withdrawalLeafV2 shake256 chainId w
  | .v1 => withdrawalLeafV1 shake256 w

def ProofAccepted (message : MsgExecuteWithdrawal) (root : Bytes) : Prop :=
  ∃ leaf, messageLeaf shake256 version chainId message = .ok leaf ∧
    verifyBinaryMerkleProof shake256 leaf message.withdrawalIndex message.proof root CHAIN_TREE = true

/-- The leaf at the index is that of the withdrawal that the spec describes by itself. -/
def ListsItsLeaf (spec : WithdrawalSpec) : Prop :=
  ∃ leaves text leaf recipient denom amount, spec.leaves = some leaves ∧
    leaves[spec.index.toNat]? = some text ∧ hexToBytes text = .ok leaf ∧
    spec.recipient = some recipient ∧ spec.denom = some denom ∧ spec.amount = some amount ∧
    treeLeaf shake256 { rollupId := spec.rollupId, version, chainId := some chainId } spec.index.toNat
      ⟨recipient, denom, amount⟩ = .ok leaf

/-- The leaf that is listed and the one of the message do not collide on the way up. -/
def PathsApart (spec : WithdrawalSpec) (message : MsgExecuteWithdrawal) : Prop :=
  ∀ leaves text listed leaf, spec.leaves = some leaves → leaves[spec.index.toNat]? = some text →
    hexToBytes text = .ok listed → messageLeaf shake256 version chainId message = .ok leaf →
    ¬ Merkle.Collision shake256
      (Merkle.verifyLoopHashed shake256 leaf message.withdrawalIndex message.proof)
      (Merkle.verifyLoopHashed shake256 listed message.withdrawalIndex message.proof)

end

section
variable {shake256 : Bytes → Bytes} {isBech32 : String → Bool} {ctx : CliContext} {dryRun : Bool}
  {spec : WithdrawalSpec} {batch : BatchView} {version : TransitionRootVersion} {chainId : String}
  {message : MsgExecuteWithdrawal}

theorem u64be_of_bigInt {amount : Integral} {a : Int} (whole : bigInt amount = .ok a) :
    u64be (.bigint a) = u64be amount := by
  unfold u64be
  rw [whole]
  rfl

/-- An amount goes into a leaf by its value, however it is spelled. -/
theorem messageLeaf_eq {address rollupId recipient denom : String} {batchIndex a : Int} {i : Nat}
    {amount : Integral} {siblings : List Bytes} (whole : bigInt amount = .ok a) :
    messageLeaf shake256 version chainId
        ⟨address, rollupId, batchIndex, i, recipient, denom, a, siblings⟩ =
      treeLeaf shake256 { rollupId, version, chainId := some chainId } i ⟨recipient, denom, amount⟩ := by
  unfold messageLeaf treeLeaf treeInput
  cases version with
  | v1 =>
    unfold withdrawalLeafV1
    dsimp only
    rw [u64be_of_bigInt whole]
  | v2 =>
    unfold withdrawalLeafV2
    dsimp only
    rw [u64be_of_bigInt whole]
    rfl

theorem mapM_hexToBytes {texts : List String} {hashes : List Bytes} (read : texts.mapM hexToBytes = .ok hashes)
    {i : Nat} {hash : Bytes} (found : hashes[i]? = some hash) :
    ∃ text, texts[i]? = some text ∧ hexToBytes text = .ok hash := by
  induction texts generalizing hashes i with
  | nil =>
    cases read
    cases found
  | cons first rest ih =>
    rw [List.mapM_cons] at read
    obtain ⟨b, head, read⟩ := bind_ok read
    obtain ⟨others, tail, read⟩ := bind_ok read
    cases read
    cases i with
    | zero =>
      cases found
      exact ⟨first, rfl, head⟩
    | succ i => exact ih tail found

/-- A proof that was assembled takes the leaf at its index to the root, and another leaf there only by a
collision. -/
theorem assembled_verifies_iff {leaves : List Bytes} {index : Int} {proof : WithdrawalProof} {listed leaf : Bytes}
    (assembled : assembleWithdrawalProof shake256 leaves index = .ok proof)
    (found : leaves[index.toNat]? = some listed)
    (apart : ¬ Merkle.Collision shake256 (Merkle.verifyLoopHashed shake256 leaf index proof.proof)
      (Merkle.verifyLoopHashed shake256 listed index proof.proof)) :
    verifyBinaryMerkleProof shake256 leaf index proof.proof proof.withdrawalsRoot CHAIN_TREE = true ↔
      leaf = listed := by
  obtain ⟨-, root⟩ := assembleWithdrawalProof_fields assembled
  obtain ⟨held, found', -, verified⟩ := assembleWithdrawalProof_verifies assembled
  obtain rfl := Option.some.inj (found.symm.trans found')
  rw [← root] at verified
  constructor
  · intro accepted
    rw [verify_chainTree] at accepted verified
    exact (Merkle.verifyLoop_inj (accepted.trans verified.symm)).resolve_right apart
  · rintro rfl
    exact verified

/-- The list of withdrawals: the leaf at the index is hashed from the fields that are sent. -/
theorem withdrawals_accepted {ws : List Withdrawal} {address recipient denom : String} {a : Int}
    {amount : Integral} {proof : WithdrawalProof} (listing : spec.withdrawals = some ws)
    (assembled : assemble shake256 ctx spec (some batch) =
      .ok (.ok ⟨proof, some recipient, some denom, some amount⟩))
    (binding : transitionRootVersionForBatch ctx.rest batch = .ok version)
    (whole : bigInt amount = .ok a) :
    ProofAccepted shake256 version ctx.chainId
      ⟨address, spec.rollupId, spec.batchIndex, proof.withdrawalIndex, recipient, denom, a, proof.proof⟩
      proof.withdrawalsRoot := by
  unfold assemble at assembled
  rw [listing] at assembled
  obtain ⟨version', binding', assembled⟩ := bind_ok assembled
  obtain rfl := Except.ok.inj (binding.symm.trans binding')
  obtain ⟨tree, built, assembled⟩ := bind_ok assembled
  obtain ⟨proof', proved, assembled⟩ := bind_ok assembled
  obtain ⟨-, -, -, proves⟩ := withdrawalsTree_ok shake256 built
  rw [proves] at proved
  obtain ⟨index, root⟩ := assembleWithdrawalProof_fields proved
  obtain ⟨leaf, found, nonneg, verified⟩ := assembleWithdrawalProof_verifies proved
  obtain ⟨w, listed, computed⟩ := tree_leaf_read built found
  rw [listed] at assembled
  cases assembled
  obtain ⟨i, position⟩ : ∃ i : Nat, spec.index = i := ⟨spec.index.toNat, by omega⟩
  rw [position] at index computed verified
  rw [Int.toNat_natCast] at computed
  refine ⟨leaf, ?_, ?_⟩
  · rw [index, messageLeaf_eq whole]
    exact computed
  · rw [index, root]
    exact verified

/-- The list of leaves: the fields that are sent are the spec's own. -/
theorem leaves_accepted_iff {address recipient denom : String} {a : Int} {amount : Integral}
    {proof : WithdrawalProof} (unlisted : spec.withdrawals = none)
    (assembled : assemble shake256 ctx spec (some batch) =
      .ok (.ok ⟨proof, some recipient, some denom, some amount⟩))
    (whole : bigInt amount = .ok a)
    (apart : PathsApart shake256 version ctx.chainId spec
      ⟨address, spec.rollupId, spec.batchIndex, proof.withdrawalIndex, recipient, denom, a, proof.proof⟩) :
    ProofAccepted shake256 version ctx.chainId
      ⟨address, spec.rollupId, spec.batchIndex, proof.withdrawalIndex, recipient, denom, a, proof.proof⟩
      proof.withdrawalsRoot ↔ ListsItsLeaf shake256 version ctx.chainId spec := by
  unfold assemble at assembled
  rw [unlisted] at assembled
  cases texts : spec.leaves with
  | none =>
    rw [texts] at assembled
    cases assembled
  | some leaves =>
    rw [texts] at assembled
    obtain ⟨hashes, hex, assembled⟩ := bind_ok assembled
    obtain ⟨proof', proved, assembled⟩ := bind_ok assembled
    obtain ⟨rfl, recipientGiven, denomGiven, amountGiven⟩ :=
      Assembled.mk.inj (Except.ok.inj (Except.ok.inj assembled))
    obtain ⟨index, -⟩ := assembleWithdrawalProof_fields proved
    obtain ⟨listed, found, nonneg, -⟩ := assembleWithdrawalProof_verifies proved
    obtain ⟨text, given, read⟩ := mapM_hexToBytes hex found
    obtain ⟨i, position⟩ : ∃ i : Nat, spec.index = i := ⟨spec.index.toNat, by omega⟩
    have own : messageLeaf shake256 version ctx.chainId
        ⟨address, spec.rollupId, spec.batchIndex, i, recipient, denom, a, proof'.proof⟩ =
        treeLeaf shake256 { rollupId := spec.rollupId, version, chainId := some ctx.chainId } i
          ⟨recipient, denom, amount⟩ := messageLeaf_eq whole
    rw [← position, ← index] at own
    unfold ProofAccepted
    constructor
    · rintro ⟨leaf, computed, verified⟩
      have clear := apart leaves text listed leaf texts given read computed
      dsimp only at clear verified
      rw [index] at clear verified
      obtain rfl := (assembled_verifies_iff proved found clear).mp verified
      refine ⟨leaves, text, leaf, recipient, denom, amount, texts, given, read, recipientGiven,
        denomGiven, amountGiven, ?_⟩
      rw [position, Int.toNat_natCast, ← own]
      exact computed
    · rintro ⟨leaves', text', leaf, recipient', denom', amount', texts', given', read',
        recipientGiven', denomGiven', amountGiven', computed⟩
      cases texts.symm.trans texts'
      cases given.symm.trans given'
      cases read.symm.trans read'
      cases recipientGiven.symm.trans recipientGiven'
      cases denomGiven.symm.trans denomGiven'
      cases amountGiven.symm.trans amountGiven'
      rw [position, Int.toNat_natCast, ← own] at computed
      have clear := apart leaves text listed listed texts given read computed
      refine ⟨listed, computed, ?_⟩
      dsimp only at clear ⊢
      rw [index] at clear ⊢
      exact (assembled_verifies_iff proved found clear).mpr rfl

/-- What is sent from a list of withdrawals is taken; what is sent from a list of leaves is taken exactly when
the leaf at the index is that of the withdrawal. -/
theorem cmdWithdraw_accepted_iff {root : Bytes}
    (sent : cmdWithdraw shake256 isBech32 ctx dryRun spec = .ok (.submitted message))
    (read : ctx.rest.getBatch spec.rollupId spec.batchIndex = .ok batch)
    (binding : transitionRootVersionForBatch ctx.rest batch = .ok version)
    (onChain : decodeWireBytes batch.withdrawalsRoot = .ok root)
    (apart : PathsApart shake256 version ctx.chainId spec message) :
    ProofAccepted shake256 version ctx.chainId message root ↔
      spec.withdrawals ≠ none ∨ ListsItsLeaf shake256 version ctx.chainId spec := by
  obtain ⟨address, a, proof, recipient, denom, amount, assembled, decoded, whole, rfl⟩ :=
    cmdWithdraw_submitted read sent
  obtain rfl := Except.ok.inj (decoded.symm.trans onChain)
  cases form : spec.withdrawals with
  | some ws =>
    apply iff_of_true
    · exact withdrawals_accepted form assembled binding whole
    · exact Or.inl (Option.some_ne_none ws)
  | none =>
    rw [leaves_accepted_iff form assembled whole apart]
    constructor
    · exact Or.inr
    · rintro (listing | listed)
      · exact absurd rfl listing
      · exact listed

end

def zeroShake (_ : Bytes) : Bytes := List.replicate 32 0

/-- A batch of one withdrawal, with the given leaf. -/
def singleBatch (leaf : Bytes) : BatchView where
  batchIndex := 7
  stateRoot := ""
  prevStateRoot := ""
  txCount := 1
  dataHash := ""
  status := "finalized"
  submittedAt := 100
  finalizedAt := 200
  withdrawalsRoot := bytesToHex leaf
  submittedTime := 0

def singleContext (leaf : Bytes) : CliContext where
  rest := {
    getRollup := fun _ => fail "unused"
    getBatch := fun _ _ => .ok (singleBatch leaf)
    getAnchors := fun _ => .ok []
    getLatestAnchor := fun _ => fail "unused"
    getPqcAccount := fun _ => fail "unused"
    getAppliedPlanHeight := fun _ => .ok 0 }
  chainId := "qorechain-vladi"
  connectTx := .ok sampleAddress

def singleSpec (leaf : Bytes) : WithdrawalSpec where
  rollupId := "roll-1"
  batchIndex := 7
  index := 0
  leaves := some [bytesToHex leaf]
  recipient := some sampleAddress
  denom := some "uqor"
  amount := some (.string "5")

def singleMessage : MsgExecuteWithdrawal where
  submitter := sampleAddress
  rollupId := "roll-1"
  batchIndex := 7
  withdrawalIndex := 0
  recipient := sampleAddress
  denom := "uqor"
  amount := 5
  proof := []

def listSpec (leaves : List Bytes) (index : Nat) : WithdrawalSpec where
  rollupId := "roll-1"
  batchIndex := 7
  index := index
  leaves := some (leaves.map bytesToHex)
  recipient := some sampleAddress
  denom := some "uqor"
  amount := some (.string "5")

theorem mapM_bytesToHex (leaves : List Bytes) : (leaves.map bytesToHex).mapM hexToBytes = .ok leaves := by
  induction leaves with
  | nil => rfl
  | cons leaf leaves ih =>
    rw [List.map_cons, List.mapM_cons, hexToBytes_bytesToHex, ok_bind, ih]
    rfl

/-- Whatever the leaves are, the command sends the withdrawal of five with the proof of the place. -/
theorem leaves_sent {shake256 : Bytes → Bytes} {leaves : List Bytes} {i : Nat} {proof : WithdrawalProof}
    {message : MsgExecuteWithdrawal} (proved : assembleWithdrawalProof shake256 leaves i = .ok proof)
    (executed : executeWithdrawal (· == sampleAddress) sampleAddress
      (buildExecuteWithdrawalInput "roll-1" 7 sampleAddress "uqor" (.string "5") proof) = .ok message) :
    cmdWithdraw shake256 (· == sampleAddress) (singleContext proof.withdrawalsRoot) false (listSpec leaves i) =
      .ok (.submitted message) := by
  have assembled : assemble shake256 (singleContext proof.withdrawalsRoot) (listSpec leaves i)
      (some (singleBatch proof.withdrawalsRoot)) =
        .ok (.ok ⟨proof, some sampleAddress, some "uqor", some (.string "5")⟩) := by
    unfold assemble
    change ((leaves.map bytesToHex).mapM hexToBytes >>= _) = _
    rw [mapM_bytesToHex, ok_bind]
    change (assembleWithdrawalProof shake256 leaves i >>= _) = _
    rw [proved]
    rfl
  have root : rootRefusal (some (singleBatch proof.withdrawalsRoot)) proof = .ok none := by
    unfold rootRefusal
    change (decodeWireBytes (bytesToHex proof.withdrawalsRoot) >>= _) = _
    rw [decodeWireBytes_bytesToHex, ok_bind]
    dsimp only
    rw [if_neg (fun different => different rfl)]
    rfl
  unfold cmdWithdraw withdrawFrom
  change (assemble shake256 _ (listSpec leaves i) (some (singleBatch proof.withdrawalsRoot)) >>= _) = _
  rw [assembled, ok_bind]
  unfold submit
  dsimp only
  rw [root, ok_bind]
  change (Except.ok sampleAddress >>= _) = _
  rw [ok_bind]
  change (executeWithdrawal (· == sampleAddress) sampleAddress
    (buildExecuteWithdrawalInput "roll-1" 7 sampleAddress "uqor" (.string "5") proof) >>= _) = _
  rw [executed]
  rfl

theorem single_proved (leaf : Bytes) : assembleWithdrawalProof zeroShake [leaf] (0 : Nat) = .ok ⟨[], leaf, 0⟩ := by
  have path : Merkle.proofLoop (resolved zeroShake CHAIN_TREE) [leaf] 0 [] = ([], leaf) := by
    rw [Merkle.proofLoop]
    rfl
  unfold assembleWithdrawalProof binaryMerkleProof
  rw [if_neg (by simp)]
  change (.ok ⟨_, _, 0⟩ : Except JsError WithdrawalProof) = _
  exact congrArg (fun p : List Bytes × Bytes => Except.ok (WithdrawalProof.mk p.1 p.2 0)) path

theorem single_sent (leaf : Bytes) :
    cmdWithdraw zeroShake (· == sampleAddress) (singleContext leaf) false (singleSpec leaf) =
      .ok (.submitted singleMessage) := by
  refine leaves_sent (single_proved leaf) ?_
  change executeWithdrawal (· == sampleAddress) sampleAddress
    ⟨"roll-1", .number 7, .number 0, sampleAddress, "uqor", .string "5", some []⟩ = _
  decide

theorem single_binding (leaf : Bytes) :
    transitionRootVersionForBatch (singleContext leaf).rest (singleBatch leaf) = .ok .v1 := rfl

/-- A hash that tells the strings of the sample apart. -/
def sumShake (b : Bytes) : Bytes := b.foldl (fun sum x => 31 * sum + x) 7 :: List.replicate 31 0

def otherLeaf (x : UInt8) : Bytes := List.replicate 32 x

/-- The second of three leaves. -/
def middleSpec (leaf : Bytes) : WithdrawalSpec := listSpec [otherLeaf 4, leaf, otherLeaf 9] 1

def middleSiblings : List Bytes := [otherLeaf 4, sumShake (otherLeaf 9 ++ otherLeaf 9)]

def middleRoot (leaf : Bytes) : Bytes :=
  sumShake (sumShake (otherLeaf 4 ++ leaf) ++ sumShake (otherLeaf 9 ++ otherLeaf 9))

def middleMessage : MsgExecuteWithdrawal :=
  { singleMessage with withdrawalIndex := 1, proof := middleSiblings }

theorem middle_proved (leaf : Bytes) : assembleWithdrawalProof sumShake [otherLeaf 4, leaf, otherLeaf 9] (1 : Nat) =
    .ok ⟨middleSiblings, middleRoot leaf, 1⟩ := by
  let pair := sumShake (otherLeaf 9 ++ otherLeaf 9)
  have bottom : Merkle.nextLevel (resolved sumShake CHAIN_TREE) [otherLeaf 4, leaf, otherLeaf 9] =
      [sumShake (otherLeaf 4 ++ leaf), pair] := by
    simp [Merkle.nextLevel, chainTree_hash, chainTree_duplicate, pair]
  have top : Merkle.nextLevel (resolved sumShake CHAIN_TREE) [sumShake (otherLeaf 4 ++ leaf), pair] =
      [middleRoot leaf] := by
    simp [Merkle.nextLevel, chainTree_hash, middleRoot, pair]
  have path : Merkle.proofLoop (resolved sumShake CHAIN_TREE) [otherLeaf 4, leaf, otherLeaf 9] 1 [] =
      (middleSiblings, middleRoot leaf) := by
    rw [Merkle.proofLoop, if_pos (by simp), bottom]
    change Merkle.proofLoop (resolved sumShake CHAIN_TREE) [sumShake (otherLeaf 4 ++ leaf), pair] 0 [otherLeaf 4] = _
    rw [Merkle.proofLoop, if_pos (by simp), top]
    change Merkle.proofLoop (resolved sumShake CHAIN_TREE) [middleRoot leaf] 0 middleSiblings = _
    rw [Merkle.proofLoop, if_neg (by simp)]
    rfl
  unfold assembleWithdrawalProof binaryMerkleProof
  rw [if_neg (by simp)]
  change (.ok ⟨_, _, 1⟩ : Except JsError WithdrawalProof) = _
  exact congrArg (fun p : List Bytes × Bytes => Except.ok (WithdrawalProof.mk p.1 p.2 1)) path

theorem middle_sent (leaf : Bytes) :
    cmdWithdraw sumShake (· == sampleAddress) (singleContext (middleRoot leaf)) false (middleSpec leaf) =
      .ok (.submitted middleMessage) := by
  have input : buildExecuteWithdrawalInput "roll-1" 7 sampleAddress "uqor" (.string "5")
      ⟨middleSiblings, middleRoot leaf, 1⟩ = ⟨"roll-1", .number 7, .number 1, sampleAddress, "uqor", .string "5",
        some (middleSiblings.map .bytes)⟩ := rfl
  have executed : executeWithdrawal (· == sampleAddress) sampleAddress ⟨"roll-1", .number 7, .number 1,
      sampleAddress, "uqor", .string "5", some (middleSiblings.map .bytes)⟩ = .ok middleMessage := by
    decide +kernel
  have sent := @leaves_sent sumShake _ _ _ middleMessage (middle_proved leaf)
  rw [input] at sent
  exact sent executed

/-- The leaf of five at the second place. -/
def middleLeaf : Bytes := 20 :: List.replicate 31 0

theorem middle_leaf : messageLeaf sumShake .v1 "qorechain-vladi" middleMessage = .ok middleLeaf := by
  decide +kernel

theorem middle_apart (leaf : Bytes) (clear : ¬ Merkle.Collision sumShake
      (Merkle.verifyLoopHashed sumShake middleLeaf (1 : Int) middleSiblings)
      (Merkle.verifyLoopHashed sumShake leaf (1 : Int) middleSiblings)) :
    PathsApart sumShake .v1 "qorechain-vladi" (middleSpec leaf) middleMessage := by
  intro leaves text listed own given found read computed
  cases given
  cases found
  rw [hexToBytes_bytesToHex] at read
  cases read
  rw [middle_leaf] at computed
  cases computed
  exact clear

/-- Of three leaves the second is that of the withdrawal, or another one. -/
theorem cmdWithdraw_accepted_iff_sample :
    ProofAccepted sumShake .v1 "qorechain-vladi" middleMessage (middleRoot middleLeaf) ∧
      ¬ ProofAccepted sumShake .v1 "qorechain-vladi" middleMessage (middleRoot (otherLeaf 1)) := by
  have accepted : ∀ leaf, PathsApart sumShake .v1 "qorechain-vladi" (middleSpec leaf) middleMessage →
      (ProofAccepted sumShake .v1 "qorechain-vladi" middleMessage (middleRoot leaf) ↔
        (middleSpec leaf).withdrawals ≠ none ∨ ListsItsLeaf sumShake .v1 "qorechain-vladi" (middleSpec leaf)) := by
    intro leaf apart
    exact cmdWithdraw_accepted_iff (middle_sent leaf) rfl (single_binding _) (decodeWireBytes_bytesToHex _) apart
  constructor
  · rw [accepted middleLeaf (middle_apart _ (by unfold Merkle.Collision; decide +kernel))]
    exact Or.inr ⟨_, _, _, _, _, _, rfl, rfl, hexToBytes_bytesToHex _, rfl, rfl, rfl, by decide +kernel⟩
  · rw [accepted (otherLeaf 1) (middle_apart _ (by unfold Merkle.Collision; decide +kernel))]
    rintro (listing | ⟨leaves, text, leaf, recipient, denom, amount, given, found, read, own, unit, five,
      computed⟩)
    · exact listing rfl
    · cases given
      cases found
      cases own
      cases unit
      cases five
      rw [hexToBytes_bytesToHex] at read
      cases read
      revert computed
      decide +kernel

/-- A leaf that is not of the withdrawal is its own root, so that the command pays for a proof that fails. -/
theorem unrelated_leaf_sent :
    cmdWithdraw zeroShake (· == sampleAddress) (singleContext (List.replicate 32 1)) false
        (singleSpec (List.replicate 32 1)) = .ok (.submitted singleMessage) ∧
    ¬ ∀ (shake256 : Bytes → Bytes) (isBech32 : String → Bool) (ctx : CliContext) (dryRun : Bool)
        (spec : WithdrawalSpec) (batch : BatchView) (version : TransitionRootVersion)
        (message : MsgExecuteWithdrawal) (root : Bytes),
      cmdWithdraw shake256 isBech32 ctx dryRun spec = .ok (.submitted message) →
      ctx.rest.getBatch spec.rollupId spec.batchIndex = .ok batch →
      transitionRootVersionForBatch ctx.rest batch = .ok version →
      decodeWireBytes batch.withdrawalsRoot = .ok root →
        ProofAccepted shake256 version ctx.chainId message root := by
  refine ⟨single_sent _, ?_⟩
  intro law
  obtain ⟨leaf, computed, verified⟩ := law _ _ _ _ _ _ _ _ _ (single_sent (List.replicate 32 1)) rfl
    (single_binding _) (decodeWireBytes_bytesToHex _)
  cases computed
  rw [verify_chainTree] at verified
  revert verified
  decide

end Cli
end QorechainRdk
