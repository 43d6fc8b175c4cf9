import QorechainRdk.Client.Views
import QorechainRdk.Utils.Base64
import QorechainRdk.Utils.Json

/-!
# Views of what arrives on the wire

The mappers of `client/views.ts`. A field that holds a number without being an integer has no place in the
views, and the mapper stops at it.
-/

namespace QorechainRdk

open Js

abbrev RawRecord := List (String × Json)

def pick (obj : RawRecord) : List String → Option Json
  | [] => none
  | key :: keys =>
    match obj.lookup key with
    | some value => some value
    | none => pick obj keys

def str (value : Option Json) (fallback : String := "") : String :=
  match value with
  | none => fallback
  | some .null => fallback
  | some value => value.toText

def num (value : Option Json) (fallback : Int := 0) : Except JsError Int :=
  match value with
  | none => .ok fallback
  | some .null => .ok fallback
  | some (.string "") => .ok fallback
  | some value =>
    match value.toNumber with
    | none => .ok fallback
    | some (.integer n) => .ok n
    | some (.other text) => fail s!"{text} is not an integer"

/-- Bytes from the wire as hex. -/
def hexBytes (value : Option Json) : Except JsError String :=
  let s := str value
  if s = "" then .ok "" else do return bytesToHex (← decodeWireBytes s)

def optionalNum (value : Option Json) : Except JsError (Option Int) :=
  match value with
  | none => .ok none
  | some .null => .ok none
  | some (.string "") => .ok none
  | some value => do return some (← num (some value))

def isTrue : Option Json → Bool
  | some (.bool true) => true
  | _ => false

def mapAnchorView (raw : RawRecord) : Except JsError AnchorView := do
  return {
    layerId := str (pick raw ["layer_id", "layerId"])
    layerHeight := ← num (pick raw ["layer_height", "layerHeight"])
    stateRoot := ← hexBytes (pick raw ["state_root", "stateRoot"])
    validatorSetHash := ← hexBytes (pick raw ["validator_set_hash", "validatorSetHash"])
    mainChainHeight := ← num (pick raw ["main_chain_height", "mainChainHeight"])
    anchoredAt := ← num (pick raw ["anchored_at", "anchoredAt"])
    pqcSignature := ← hexBytes (pick raw ["pqc_aggregate_signature", "pqcAggregateSignature"])
    transactionCount := ← num (pick raw ["transaction_count", "transactionCount"])
    compressedStateProof := ← hexBytes (pick raw ["compressed_state_proof", "compressedStateProof"]) }

def mapPqcAccountView (raw : RawRecord) : Except JsError PqcAccountView := do
  return { publicKey := ← hexBytes (pick raw ["public_key", "publicKey"]) }

def mapParamsView (raw : RawRecord) : Except JsError ParamsView := do
  return {
    defaultChallengeWindow := ← num (pick raw ["default_challenge_window", "defaultChallengeWindow"]) }

def mapRollupView (raw : RawRecord) : Except JsError RollupView := do
  return {
    creator := str (pick raw ["creator"])
    daBackend := str (pick raw ["da_backend", "daBackend"])
    layerId := str (pick raw ["layer_id", "layerId"])
    challengeWindowSec := ← optionalNum (pick raw ["challenge_window_sec", "challengeWindowSec"]) }

def mapBatchView (raw : RawRecord) : Except JsError BatchView := do
  return {
    batchIndex := ← num (pick raw ["batch_index", "batchIndex"])
    stateRoot := str (pick raw ["state_root", "stateRoot"])
    prevStateRoot := str (pick raw ["prev_state_root", "prevStateRoot"])
    txCount := ← num (pick raw ["tx_count", "txCount"])
    dataHash := str (pick raw ["data_hash", "dataHash"])
    status := str (pick raw ["status"])
    submittedAt := ← num (pick raw ["submitted_at", "submittedAt"])
    finalizedAt := ← num (pick raw ["finalized_at", "finalizedAt"])
    withdrawalsRoot := str (pick raw ["withdrawals_root", "withdrawalsRoot"])
    withdrawalsBound := if isTrue (pick raw ["withdrawals_bound", "withdrawalsBound"]) then some true else none
    submittedTime := ← num (pick raw ["submitted_time", "submittedTime"]) }

/-! ### Records as the node serves them -/

/-- A text that spells bytes: standard base64, or hex without a prefix. -/
def Spells (text : String) (b : Bytes) : Prop :=
  text = bytesToBase64 b ∨ (text.toList.all isHexDigit = true ∧ hexToBytes text = .ok b)

theorem spells_bytesToHex (b : Bytes) : Spells (bytesToHex b) b := by
  refine Or.inr ⟨?_, hexToBytes_bytesToHex b⟩
  rw [bytesToHex_toList]
  exact all_isHexDigit_flatMap b

theorem decodeWireBytes_spelled {text : String} {b : Bytes} (padded : b.length % 3 ≠ 0 ∨ b = [])
    (spelled : Spells text b) : decodeWireBytes text = .ok b := by
  rcases spelled with rfl | ⟨digits, read⟩
  · rcases padded with padded | rfl
    · exact decodeWireBytes_padded padded
    · rfl
  · obtain ⟨even, -, pairs⟩ := hexToBytes_ok_iff.mp read
    rw [stripHexPrefix_of_hex digits] at even pairs
    rw [decodeWireBytes_hex even digits, pairs]

/-- Without that bound, a base64 text may still be taken for hex, and then gives fewer bytes. -/
theorem decodeWireBytes_spells {text : String} {b : Bytes} (spelled : Spells text b) :
    ∃ held, decodeWireBytes text = .ok held ∧ (held = b ∨ 3 * held.length = 2 * b.length) := by
  rcases spelled with rfl | ⟨digits, read⟩
  · rcases decodeWireBytes_bytesToBase64 b with same | ⟨held, other, shorter⟩
    · exact ⟨b, same, Or.inl rfl⟩
    · exact ⟨held, other, Or.inr shorter⟩
  · obtain ⟨even, -, pairs⟩ := hexToBytes_ok_iff.mp read
    rw [stripHexPrefix_of_hex digits] at even pairs
    exact ⟨_, decodeWireBytes_hex even digits, Or.inl pairs⟩

theorem hexBytes_ok {value : Option Json} {held : Bytes} (read : decodeWireBytes (str value) = .ok held) :
    hexBytes value = .ok (bytesToHex held) := by
  unfold hexBytes
  dsimp only
  split
  · rename_i empty
    rw [empty] at read
    cases read
    rfl
  · rw [read]
    rfl

theorem num_toString {n : Nat} (small : n < 2 ^ 64) (fallback : Int) :
    num (some (.string (toString n))) fallback = .ok (Rounding.nearest 53 n) := by
  have text : toString n ≠ "" := Nat.repr_ne_empty
  have read : Json.toNumber (.string (toString n)) = some (.integer (Rounding.nearest 53 n)) := by
    rw [Json.toNumber]
    exact stringToNumber_toString small
  unfold num
  split
  · rename_i same
    cases same
  · rename_i same
    cases same
  · rename_i same
    exact absurd (Json.string.inj (Option.some.inj same)) text
  · rename_i value _ _ _ same
    cases same
    rw [read]

end QorechainRdk
