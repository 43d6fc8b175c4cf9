import QorechainRdk.Receipts.Agreement
import QorechainRdk.Receipts.Rebuild
import QorechainRdk.Receipts.Typed
import QorechainRdk.Utils.JsonParse

/-!
# `qorollup receipt`

`cmdReceipt` and `cmdReceiptVerify` of `commands.ts`: a receipt is built from the chain and written to a file, and a
file that was handed over is read and verified. A written receipt is read back as it was built.
-/

namespace QorechainRdk

open Js

namespace Receipts

/-- The object that the receipt is; a field that is not set is not written. -/
def SettlementReceipt.toJson (receipt : SettlementReceipt) : Json :=
  record [
    ("version", some (.number receipt.version)),
    ("chainId", receipt.chainId.map .string),
    ("rollupId", some (.string receipt.rollupId)),
    ("layerId", some (.string receipt.layerId)),
    ("batchIndex", some (.number (.integer receipt.batchIndex))),
    ("creator", some (.string receipt.creator)),
    ("algorithm", some (.string receipt.algorithm)),
    ("stateRoot", some (.string receipt.stateRoot)),
    ("layerHeight", some (.number (.integer receipt.layerHeight))),
    ("validatorSetHash", some (.string receipt.validatorSetHash)),
    ("mainChainHeight", some (.number (.integer receipt.mainChainHeight))),
    ("anchoredAt", some (.number (.integer receipt.anchoredAt))),
    ("pqcSignature", some (.string receipt.pqcSignature)),
    ("batchStateRoot", some (.string receipt.batchStateRoot)),
    ("transactionCount", receipt.transactionCount.map fun count => .number (.integer count)),
    ("compressedStateProof", receipt.compressedStateProof.map .string)]

/-- Every number of the receipt is a safe integer. -/
structure SettlementReceipt.Safe (receipt : SettlementReceipt) : Prop where
  version : ∃ v : Int, receipt.version = .integer v ∧ v.natAbs ≤ MAX_SAFE_INTEGER
  batchIndex : receipt.batchIndex.natAbs ≤ MAX_SAFE_INTEGER
  layerHeight : receipt.layerHeight.natAbs ≤ MAX_SAFE_INTEGER
  mainChainHeight : receipt.mainChainHeight.natAbs ≤ MAX_SAFE_INTEGER
  anchoredAt : receipt.anchoredAt.natAbs ≤ MAX_SAFE_INTEGER
  transactionCount : ∀ count, receipt.transactionCount = some count → count.natAbs ≤ MAX_SAFE_INTEGER

theorem readReceiptFile_toJson (receipt : SettlementReceipt) :
    readReceiptFile (.ok receipt.toJson) = .ok receipt.toFile := by
  unfold SettlementReceipt.toJson SettlementReceipt.toFile
  cases receipt.chainId <;> cases receipt.transactionCount <;> cases receipt.compressedStateProof <;> rfl

theorem SettlementReceipt.Safe.plain {receipt : SettlementReceipt} (safe : receipt.Safe) : receipt.toJson.Plain := by
  obtain ⟨version, batchIndex, layerHeight, mainChainHeight, anchoredAt, transactionCount⟩ := safe
  have held : ∀ value : Json, value.Plain → ∀ v, some value = some v → v.Plain := by
    rintro value plain _ ⟨⟩
    exact plain
  have text : ∀ s : String, ∀ v, some (Json.string s) = some v → v.Plain := fun s => held _ trivial
  have integer : ∀ n : Int, n.natAbs ≤ MAX_SAFE_INTEGER → ∀ v, some (Json.number (.integer n)) = some v → v.Plain :=
    fun n safe => held _ ⟨n, rfl, safe⟩
  refine record_plain (by simp only [List.map_cons, List.map_nil]; decide) ?_
  simp only [List.forall_mem_cons]
  refine ⟨held _ version, ?_, text _, text _, integer _ batchIndex, text _, text _, text _, integer _ layerHeight,
    text _, integer _ mainChainHeight, integer _ anchoredAt, text _, text _, ?_, ?_, ?_⟩
  · intro v set
    obtain ⟨chainId, -, rfl⟩ := Option.map_eq_some_iff.mp set
    trivial
  · intro v set
    obtain ⟨count, given, rfl⟩ := Option.map_eq_some_iff.mp set
    exact ⟨count, rfl, transactionCount count given⟩
  · intro v set
    obtain ⟨proof, -, rfl⟩ := Option.map_eq_some_iff.mp set
    trivial
  · intro field member
    cases member

end Receipts

namespace Cli

open Receipts

/-- What a command leaves behind: its exit code, and a file with its text. -/
structure ReceiptRun where
  exitCode : Nat
  written : Option (String × String)
  deriving DecidableEq, Repr

/-- The text of a receipt file. -/
def receiptText (receipt : SettlementReceipt) : String := receipt.toJson.stringifyPretty ++ "\n"

section
variable (pqcVerify : Bytes → Bytes → Bytes → Except JsError Bool)

/-- `qorollup receipt <rollup-id> <batch-index> [--verify] [--out <file>]`; an empty file name is none. -/
def cmdReceipt (client : RdkClient) (rollupId : String) (batchIndex : Int) (verify : Bool)
    (outFile : Option String) : Except JsError ReceiptRun := do
  let receipt ← buildSettlementReceipt client rollupId batchIndex
  let verification :=
    if verify then some (verifySettlementReceipt pqcVerify receipt ⟨some client, none⟩) else none
  let outFile := outFile.filter fun file => file ≠ ""
  return {
    exitCode := if verification.any fun v => !v.valid then 1 else 0
    written := outFile.map fun file => (file, receiptText receipt) }

/-- What `qorollup receipt verify <file>` says: that the file is no receipt, or its verification. -/
inductive ReceiptVerdict where
  | unreadable (message : String)
  | verified (verification : FileVerification)

def ReceiptVerdict.exitCode : ReceiptVerdict → Nat
  | .unreadable _ => 1
  | .verified v => if v.valid then 0 else 1

/-- The text of the file is given; the engine words its own syntax error. -/
def cmdReceiptVerify (syntaxError : String) (reads : ReceiptReads) (text : String) :
    Except JsError ReceiptVerdict :=
  match readReceiptFile (parseJson syntaxError text) with
  | .error err => .ok (.unreadable err.message)
  | .ok receipt => (verifyReceiptFile receipt reads pqcVerify).map .verified

/-! ### A written receipt -/

section
variable {pqcVerify}

/-- The file that was written is read as the receipt that was built. -/
theorem readReceiptFile_receiptText {receipt : SettlementReceipt} (safe : receipt.Safe) (syntaxError : String) :
    readReceiptFile (parseJson syntaxError (receiptText receipt)) = .ok receipt.toFile := by
  unfold receiptText
  rw [parseJson_stringifyPretty safe.plain, readReceiptFile_toJson]

/-- A receipt in a file is verified as the receipt in memory, and nothing is thrown. -/
theorem cmdReceiptVerify_receiptText {receipt : SettlementReceipt} (safe : receipt.Safe) (syntaxError : String)
    (fetch : FetchLike) (baseUrl : String) (network : Network) :
    cmdReceiptVerify pqcVerify syntaxError (fileReads fetch baseUrl network) (receiptText receipt) =
      .ok (.verified (verifySettlementReceipt pqcVerify receipt
        ⟨some ⟨restClient fetch baseUrl, network⟩, none⟩).toFile) := by
  unfold cmdReceiptVerify
  rw [readReceiptFile_receiptText safe]
  dsimp only
  rw [verifyReceiptFile_typed]
  rfl

/-- Whoever is handed the file reads every field back, and comes to the exit code that `--verify` left when it
was written. -/
theorem receiptFile_verifies_as_built {fetch : FetchLike} {baseUrl : String} {network : Network} {rollupId : String}
    {n : Int} {receipt : SettlementReceipt} {file : String}
    (build : buildSettlementReceipt ⟨restClient fetch baseUrl, network⟩ rollupId n = .ok receipt)
    (safe : receipt.Safe) (named : file ≠ "") (syntaxError : String) :
    ∃ run v, cmdReceipt pqcVerify ⟨restClient fetch baseUrl, network⟩ rollupId n true (some file) = .ok run ∧
      run.written = some (file, receiptText receipt) ∧
      readReceiptFile (parseJson syntaxError (receiptText receipt)) = .ok receipt.toFile ∧
      cmdReceiptVerify pqcVerify syntaxError (fileReads fetch baseUrl network) (receiptText receipt) =
        .ok (.verified v) ∧
      (ReceiptVerdict.verified v).exitCode = run.exitCode ∧
      (run.exitCode = 0 → v.verifiedReceipt = some receipt.toFile) := by
  let client : RdkClient := ⟨restClient fetch baseUrl, network⟩
  let verification := verifySettlementReceipt pqcVerify receipt ⟨some client, none⟩
  have written : (some file).filter (fun file => file ≠ "") = some file := by
    simp [named]
  refine ⟨⟨if verification.valid then 0 else 1, some (file, receiptText receipt)⟩, verification.toFile, ?_, rfl,
    readReceiptFile_receiptText safe syntaxError,
    cmdReceiptVerify_receiptText safe syntaxError fetch baseUrl network, rfl, ?_⟩
  · unfold cmdReceipt
    rw [build]
    dsimp only [bind, Except.bind]
    rw [written, if_pos rfl, Option.any_some]
    change Except.ok (ReceiptRun.mk (if !verification.valid then 1 else 0) (some (file, receiptText receipt))) = _
    cases verification.valid with
    | true => rfl
    | false => rfl
  · intro success
    have valid : verification.valid = true := by
      by_contra invalid
      rw [if_neg invalid] at success
      cases success
    obtain ⟨R, root, anchors, A, published, found, rfl⟩ := buildSettlementReceipt_ok.mp build
    have same : verification.verifiedReceipt = some _ := built_verifiedReceipt published found rfl valid
    change verification.verifiedReceipt.map SettlementReceipt.toFile = _
    rw [same]
    rfl

end

end

/-- A receipt from a node, verified from its file. -/
theorem receiptFile_verifies_as_built_sample :
    ∃ run v, cmdReceipt Go.samplePqcVerify ⟨restClient Go.sampleFetch "", Go.sampleNetwork.toTs⟩ "r" 3 true
        (some "receipt.json") = .ok run ∧
      run.written = some ("receipt.json", receiptText Go.sampleReceipt.toTs) ∧
      readReceiptFile (parseJson "" (receiptText Go.sampleReceipt.toTs)) = .ok Go.sampleReceipt.toTs.toFile ∧
      cmdReceiptVerify Go.samplePqcVerify "" (fileReads Go.sampleFetch "" Go.sampleNetwork.toTs)
        (receiptText Go.sampleReceipt.toTs) = .ok (.verified v) ∧
      (ReceiptVerdict.verified v).exitCode = run.exitCode ∧
      (run.exitCode = 0 → v.verifiedReceipt = some Go.sampleReceipt.toTs.toFile) := by
  apply receiptFile_verifies_as_built
  · decide +kernel
  · exact ⟨⟨2, rfl, by decide⟩, by decide, by decide, by decide, by decide, fun count given => by
      cases given
      decide⟩
  · decide

end Cli
end QorechainRdk
