import QorechainRdk.Client.Literals
import QorechainRdk.Lib.JsonText

/-!
# The integers of the other clients

The number readers of `client.go`, `client/Views.java`, `client/views.py` and `client/views.rs`, and what their
mappers make of the integer fields of a batch and of an anchor. Rust tells an integer from a float by the literal,
so its readers are on a record as it is written.
-/

namespace QorechainRdk

open Js

/-- The integer fields of `BatchView`. -/
structure BatchIntegers where
  batchIndex : Int
  txCount : Int
  submittedAt : Int
  finalizedAt : Int
  submittedTime : Int
  deriving DecidableEq, Repr

/-- The integer fields of `AnchorView`. -/
structure AnchorIntegers where
  layerHeight : Int
  mainChainHeight : Int
  anchoredAt : Int
  transactionCount : Int
  deriving DecidableEq, Repr

/-- A record as it is written: a number is its literal. -/
abbrev WireRecord := List (String × JsonText.Value)

namespace Go

def asNum (value : Option Json) (fallback : Int) : Int :=
  match value with
  | some (.number n) => int64OfFloat (wholePart n)
  | some (.string s) =>
    if s = "" then fallback else ((parseFloat s).map fun n => int64OfFloat n.truncate).getD fallback
  | _ => fallback

def batchIntegers (raw : RawRecord) : BatchIntegers where
  batchIndex := asNum (pick raw ["batch_index", "batchIndex"]) 0
  txCount := asNum (pick raw ["tx_count", "txCount"]) 0
  submittedAt := asNum (pick raw ["submitted_at", "submittedAt"]) 0
  finalizedAt := asNum (pick raw ["finalized_at", "finalizedAt"]) 0
  submittedTime := int64 (asU64 (pick raw ["submitted_time", "submittedTime"]) 0)

def anchorIntegers (raw : RawRecord) : AnchorIntegers where
  layerHeight := asU64 (pick raw ["layer_height", "layerHeight"]) 0
  mainChainHeight := asU64 (pick raw ["main_chain_height", "mainChainHeight"]) 0
  anchoredAt := asI64 (pick raw ["anchored_at", "anchoredAt"]) 0
  transactionCount := asU64 (pick raw ["transaction_count", "transactionCount"]) 0

end Go

namespace Jvm

/-- A double is narrowed to the nearest value that the type holds. -/
def narrow (bits : Nat) (v : Int) : Int := max (-2 ^ (bits - 1)) (min v (2 ^ (bits - 1) - 1))

def narrowed (bits : Nat) : Doubles.Whole → Int
  | .int v => narrow bits v
  | .infinite negative => if negative then -2 ^ (bits - 1) else 2 ^ (bits - 1) - 1
  | .nan => 0

def pick := Go.pick

/-- `asNum` and `asLong`, by the width of what they return. -/
def asInteger (bits : Nat) (value : Option Json) (fallback : Int) : Int :=
  match value with
  | some (.number n) => narrowed bits (wholePart n)
  | some (.string s) =>
    if s = "" then fallback else ((parseDouble s).map fun n => narrowed bits n.truncate).getD fallback
  | _ => fallback

def asNum := asInteger 32

def asLong := asInteger 64

def batchIntegers (raw : RawRecord) : BatchIntegers where
  batchIndex := asNum (pick raw ["batch_index", "batchIndex"]) 0
  txCount := asNum (pick raw ["tx_count", "txCount"]) 0
  submittedAt := asNum (pick raw ["submitted_at", "submittedAt"]) 0
  finalizedAt := asNum (pick raw ["finalized_at", "finalizedAt"]) 0
  submittedTime := asLong (pick raw ["submitted_time", "submittedTime"]) 0

def anchorIntegers (raw : RawRecord) : AnchorIntegers where
  layerHeight := asLong (pick raw ["layer_height", "layerHeight"]) 0
  mainChainHeight := asLong (pick raw ["main_chain_height", "mainChainHeight"]) 0
  anchoredAt := asLong (pick raw ["anchored_at", "anchoredAt"]) 0
  transactionCount := asNum (pick raw ["transaction_count", "transactionCount"]) 0

end Jvm

namespace Py

/-- `int(value)` of a double: that it is infinite is an error of its own. -/
def int : Doubles.Whole → Except JsError (Option Int)
  | .int n => .ok (some n)
  | .infinite _ => fail "cannot convert float infinity to integer"
  | .nan => .ok none

def pick := Go.pick

/-- `_num`. An array or an object is a `TypeError`, and a text that is not a number a `ValueError`. -/
def num (value : Option Json) (fallback : Int := 0) : Except JsError Int :=
  match value with
  | some (.number n) => return (← int (wholePart n)).getD fallback
  | some (.bool b) => .ok (if b then 1 else 0)
  | some (.string s) =>
    if s = "" then .ok fallback
    else match float s with
      | some n => return (← int n.truncate).getD fallback
      | none => .ok fallback
  | _ => .ok fallback

def batchIntegers (raw : RawRecord) : Except JsError BatchIntegers := do
  return {
    batchIndex := ← num (pick raw ["batch_index", "batchIndex"])
    txCount := ← num (pick raw ["tx_count", "txCount"])
    submittedAt := ← num (pick raw ["submitted_at", "submittedAt"])
    finalizedAt := ← num (pick raw ["finalized_at", "finalizedAt"])
    submittedTime := ← num (pick raw ["submitted_time", "submittedTime"]) }

def anchorIntegers (raw : RawRecord) : Except JsError AnchorIntegers := do
  return {
    layerHeight := ← num (pick raw ["layer_height", "layerHeight"])
    mainChainHeight := ← num (pick raw ["main_chain_height", "mainChainHeight"])
    anchoredAt := ← num (pick raw ["anchored_at", "anchoredAt"])
    transactionCount := ← num (pick raw ["transaction_count", "transactionCount"]) }

end Py

namespace Rust

/-- `s.parse::<i64>()`, which takes and refuses the texts that `strconv.ParseInt` does. -/
def parseI64 := Go.parseInt

/-- `as_i64` of a number: one with a fraction or an exponent is a float, and so is a negative zero. -/
def literalI64 (literal : List Char) : Option Int :=
  let (negative, ds) := JsonText.minus literal
  let n : Int := Nat.ofDigitChars 10 ds 0
  if ds.all Char.isDigit = false then none
  else if negative = [] then if n < 2 ^ 63 then some n else none
  else if 0 < n ∧ n ≤ 2 ^ 63 then some (-n) else none

def pick := Go.pick

def pickWritten (raw : WireRecord) : List String → Option JsonText.Value
  | [] => none
  | key :: keys =>
    match raw.lookup key with
    | none => pickWritten raw keys
    | some .null => pickWritten raw keys
    | some value => some value

def numOf (value : Option JsonText.Value) (fallback : Int) : Int :=
  match value with
  | some (.number literal) => (literalI64 literal).getD fallback
  | some (.string s) => (parseI64 s).getD fallback
  | _ => fallback

def batchIntegers (raw : WireRecord) : BatchIntegers where
  batchIndex := numOf (pickWritten raw ["batch_index", "batchIndex"]) 0
  txCount := numOf (pickWritten raw ["tx_count", "txCount"]) 0
  submittedAt := numOf (pickWritten raw ["submitted_at", "submittedAt"]) 0
  finalizedAt := numOf (pickWritten raw ["finalized_at", "finalizedAt"]) 0
  submittedTime := numOf (pickWritten raw ["submitted_time", "submittedTime"]) 0

def anchorIntegers (raw : WireRecord) : AnchorIntegers where
  layerHeight := max (numOf (pickWritten raw ["layer_height", "layerHeight"]) 0) 0
  mainChainHeight := numOf (pickWritten raw ["main_chain_height", "mainChainHeight"]) 0
  anchoredAt := numOf (pickWritten raw ["anchored_at", "anchoredAt"]) 0
  transactionCount := numOf (pickWritten raw ["transaction_count", "transactionCount"]) 0

end Rust
end QorechainRdk
