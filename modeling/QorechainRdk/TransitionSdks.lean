import QorechainRdk.Client.Integers
import QorechainRdk.Go.Receipts
import QorechainRdk.Transition

/-!
# What the other clients hash

The transition roots of `transition.go`, `transition.rs`, `transition/__init__.py` and `Transition.java`, and their
anchor messages: one layout, with each language's own writing of the counters.
-/

namespace QorechainRdk

open Js

/-- What the transition root covers besides the transaction count. -/
structure TransitionFacts where
  chainId : String
  rollupId : String
  prevStateRoot : Bytes
  dataHash : Bytes
  withdrawalsRoot : Bytes
  deriving DecidableEq, Repr

/-- What the anchor message covers besides its counters, bytes as hex. -/
structure AnchorFacts where
  chainId : String
  layerId : String
  stateRoot : String
  validatorSetHash : String
  compressedStateProof : String
  deriving DecidableEq, Repr

/-! ### The shared layout -/

def missingIds : String := "the v2 transition root covers the chain id and the rollup id; pass both"

section
variable (shake256 : Bytes → Bytes)

def rootV1With (count : Bytes) (i : TransitionFacts) : Bytes :=
  qorehash shake256 [i.prevStateRoot, i.dataHash, count]

def rootV2With (badRoot : Nat → String) (count : Bytes) (i : TransitionFacts) : Except JsError Bytes :=
  if i.chainId = "" ∨ i.rollupId = "" then fail missingIds
  else if i.withdrawalsRoot.length ≠ 0 ∧ i.withdrawalsRoot.length ≠ 32 then fail (badRoot i.withdrawalsRoot.length)
  else .ok (qorehash shake256
    [Coding.lengthPrefixed 4 (encode "qorechain-rdk-transition/v2"), Coding.lengthPrefixed 4 (encode i.chainId),
      Coding.lengthPrefixed 4 (encode i.rollupId), Coding.lengthPrefixed 4 i.prevStateRoot,
      Coding.lengthPrefixed 4 i.dataHash, count, Coding.lengthPrefixed 4 i.withdrawalsRoot])

def rootWith (badRoot : Nat → String) (count : Bytes) (i : TransitionFacts) (version : TransitionRootVersion) :
    Except JsError Bytes :=
  match version with
  | .v1 => .ok (rootV1With shake256 count i)
  | .v2 => rootV2With shake256 badRoot count i

end

/-- The message over decoded bytes, with its counters written. -/
def anchorMessageWith (height count : Bytes) (chainId layerId : String) (stateRoot vsh proof : Bytes) : Bytes :=
  encode Receipts.ANCHOR_SIGN_DOMAIN_V2 ++ Coding.lengthPrefixed 8 (encode chainId) ++
    Coding.lengthPrefixed 8 (encode layerId) ++ height ++ Coding.lengthPrefixed 8 stateRoot ++
    Coding.lengthPrefixed 8 vsh ++ count ++ Coding.lengthPrefixed 8 proof

/-! ### Each language -/

def badWithdrawalsRoot (n : Nat) : String := s!"withdrawals root must be empty or 32 bytes, got {n}"

section
variable (shake256 : Bytes → Bytes)

/-- `TxCount` is a `uint64`. -/
def Go.batchTransitionRoot (i : TransitionFacts) (txCount : Nat) (version : TransitionRootVersion) :
    Except JsError Bytes :=
  rootWith shake256 badWithdrawalsRoot (Go.bigEndianU64 txCount) i version

/-- `tx_count` is a `u64`. -/
def Rust.batchTransitionRoot (i : TransitionFacts) (txCount : Nat) (version : TransitionRootVersion) :
    Except JsError Bytes :=
  rootWith shake256 badWithdrawalsRoot (Coding.bigEndian 8 txCount) i version

/-- `txCount` is a `long`, of which `putLong` writes the 64 bits. -/
def Jvm.root (i : TransitionFacts) (txCount : Int) (version : TransitionRootVersion) : Except JsError Bytes :=
  rootWith shake256 badWithdrawalsRoot (Coding.bigEndian 8 txCount) i version

/-- `struct.pack(">Q", n)`. -/
def Py.packQ (n : Int) : Except JsError Bytes :=
  if 0 ≤ n ∧ n < 2 ^ 64 then .ok (Coding.bigEndian 8 n) else fail "argument out of range"

def Py.batchTransitionRoot (i : TransitionFacts) (txCount : Int) (version : TransitionRootVersion) :
    Except JsError Bytes := do
  let count ← Py.packQ txCount
  rootWith shake256 (fun n => s!"withdrawals_root must be empty or 32 bytes, got {n}") count i version

end

def Rust.anchorSignBytesV2 (a : AnchorFacts) (layerHeight transactionCount : Nat) : Bytes :=
  anchorMessageWith (Coding.bigEndian 8 layerHeight) (Coding.bigEndian 8 transactionCount) a.chainId a.layerId
    (Go.hexOrEmpty a.stateRoot) (Go.hexOrEmpty a.validatorSetHash) (Go.hexOrEmpty a.compressedStateProof)

def Jvm.anchorSignBytesV2 (a : AnchorFacts) (layerHeight transactionCount : Int) : Except JsError Bytes := do
  let stateRoot ← hexToBytes a.stateRoot
  let vsh ← hexToBytes a.validatorSetHash
  let proof ← hexToBytes a.compressedStateProof
  return anchorMessageWith (Coding.bigEndian 8 layerHeight) (Coding.bigEndian 8 transactionCount) a.chainId a.layerId
    stateRoot vsh proof

def Py.anchorSignBytesV2 (a : AnchorFacts) (layerHeight transactionCount : Int) : Except JsError Bytes := do
  let height ← Py.packQ layerHeight
  let stateRoot ← hexToBytes a.stateRoot
  let vsh ← hexToBytes a.validatorSetHash
  let count ← Py.packQ transactionCount
  let proof ← hexToBytes a.compressedStateProof
  return anchorMessageWith height count a.chainId a.layerId stateRoot vsh proof

/-! ### One root and one message -/

/-- The root of `transition/index.ts`, from the same facts. -/
def TransitionFacts.root (shake256 : Bytes → Bytes) (i : TransitionFacts) (txCount : Int)
    (version : TransitionRootVersion) : Except JsError Bytes :=
  transitionRootOf shake256 version i.chainId i.rollupId i.prevStateRoot i.dataHash txCount i.withdrawalsRoot

/-- The message of `receipts/index.ts`, from the same facts. -/
def AnchorFacts.signBytes (a : AnchorFacts) (layerHeight transactionCount : Int) : Except JsError Bytes :=
  Receipts.anchorSignBytesV2 a.chainId a.layerId (.number layerHeight) a.stateRoot a.validatorSetHash
    (.number transactionCount) (some a.compressedStateProof)

/-- The hex strings of an anchor's view are those of byte strings. -/
structure AnchorFacts.Decodes (a : AnchorFacts) (stateRoot vsh proof : Bytes) : Prop where
  stateRoot : a.stateRoot = bytesToHex stateRoot
  validatorSetHash : a.validatorSetHash = bytesToHex vsh
  compressedStateProof : a.compressedStateProof = bytesToHex proof

section
variable {shake256 : Bytes → Bytes} {i : TransitionFacts} {version : TransitionRootVersion} {root : Bytes} {n : Int}

theorem rootWith_ok_iff (badRoot : Nat → String) :
    rootWith shake256 badRoot (Coding.bigEndian 8 n) i version = .ok root ↔
      i.root shake256 n version = .ok root := by
  unfold TransitionFacts.root
  rw [transitionRootOf_ok_iff]
  cases version with
  | v1 => simp [rootWith, rootV1With, qorehash, transitionMessage]
  | v2 =>
    unfold rootWith rootV2With
    dsimp only
    rw [guard_ok_iff, guard_ok_iff, Except.ok.injEq]
    simp only [qorehash, transitionMessage, List.flatten_cons, List.flatten_nil, List.append_nil, forall_const]
    constructor
    · intro h
      obtain ⟨named, width, same⟩ := h
      exact ⟨⟨fun c => named (Or.inl c), fun r => named (Or.inr r), by omega⟩, same⟩
    · intro h
      obtain ⟨⟨chain, rollup, width⟩, same⟩ := h
      exact ⟨fun missing => missing.elim chain rollup, by omega, same⟩

theorem Py.packQ_of_range (low : 0 ≤ n) (high : n < 2 ^ 64) : Py.packQ n = .ok (Coding.bigEndian 8 n) :=
  if_pos ⟨low, high⟩

variable {a : AnchorFacts} {height count : Int} {message : Bytes}

variable {stateRoot vsh proof : Bytes} (decodes : a.Decodes stateRoot vsh proof)
include decodes

theorem AnchorFacts.Decodes.signBytes : a.signBytes height count =
    .ok (anchorMessageWith (Coding.bigEndian 8 height) (Coding.bigEndian 8 count) a.chainId a.layerId stateRoot vsh
      proof) := by
  have written : ∀ v : Int, u64be (.number v) = .ok (Coding.bigEndian 8 v) := fun v => u64be_ok_iff.mpr ⟨v, rfl, rfl⟩
  unfold AnchorFacts.signBytes Receipts.anchorSignBytesV2 Receipts.lengthPrefixed
  rw [decodes.stateRoot, decodes.validatorSetHash, decodes.compressedStateProof, Option.getD_some]
  simp only [written, hexToBytes_bytesToHex, ok_bind, pure, Except.pure]
  simp [anchorMessageWith, Coding.lengthPrefixed]

theorem Go.anchorSignBytesV2_eq {height count : Nat} :
    .ok (Go.anchorSignBytesV2 a.chainId a.layerId height a.stateRoot a.validatorSetHash count
      a.compressedStateProof) = a.signBytes height count := by
  rw [decodes.signBytes, Go.anchorSignBytesV2, decodes.stateRoot, decodes.validatorSetHash,
    decodes.compressedStateProof]
  simp only [Go.hexOrEmpty, Go.hexToBytes_bytesToHex, Option.getD_some]
  rfl

theorem Rust.anchorSignBytesV2_eq {height count : Nat} :
    .ok (Rust.anchorSignBytesV2 a height count) = a.signBytes height count := by
  rw [decodes.signBytes, Rust.anchorSignBytesV2, decodes.stateRoot, decodes.validatorSetHash,
    decodes.compressedStateProof]
  simp only [Go.hexOrEmpty, Go.hexToBytes_bytesToHex, Option.getD_some]

theorem Jvm.anchorSignBytesV2_eq : Jvm.anchorSignBytesV2 a height count = a.signBytes height count := by
  rw [decodes.signBytes, Jvm.anchorSignBytesV2, decodes.stateRoot, decodes.validatorSetHash,
    decodes.compressedStateProof]
  simp only [hexToBytes_bytesToHex, ok_bind, pure, Except.pure]

theorem Py.anchorSignBytesV2_eq (heightRange : 0 ≤ height ∧ height < 2 ^ 64)
    (countRange : 0 ≤ count ∧ count < 2 ^ 64) : Py.anchorSignBytesV2 a height count = a.signBytes height count := by
  rw [decodes.signBytes, Py.anchorSignBytesV2, decodes.stateRoot, decodes.validatorSetHash,
    decodes.compressedStateProof, Py.packQ_of_range heightRange.1 heightRange.2,
    Py.packQ_of_range countRange.1 countRange.2]
  simp only [hexToBytes_bytesToHex, ok_bind, pure, Except.pure]

end
end QorechainRdk
