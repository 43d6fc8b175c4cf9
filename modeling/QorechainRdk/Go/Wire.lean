import QorechainRdk.Client.Rest
import QorechainRdk.Go.Views

/-!
# What the Go client makes of the wire

The byte helpers of `utils.go`, and the mappers and reads of `client.go` as far as receipts are verified with
them. What a path answers is a parameter: the record of its body, or the failure of the read.
-/

namespace QorechainRdk.Go

open Js

/-! ### Bytes -/

def hexToBytes (h : String) : Option Bytes :=
  let h := stripHexPrefix h.toList
  if h.length % 2 ≠ 0 ∨ ¬ h.all isHexDigit then none else some (hexPairs h)

/-- The standard alphabet, which has no `-` and no `_`. -/
def stdValue (c : Char) : Option Nat := if c = '-' ∨ c = '_' then none else base64Value c

def stdGroups : List Char → Option Bytes
  | [] => some []
  | [a, b, '=', '='] => do
    let a ← stdValue a
    let b ← stdValue b
    return [UInt8.ofNat (a * 4 + b / 16)]
  | [a, b, c, '='] => do
    let a ← stdValue a
    let b ← stdValue b
    let c ← stdValue c
    return [UInt8.ofNat (a * 4 + b / 16), UInt8.ofNat (b * 16 + c / 4)]
  | a :: b :: c :: d :: rest => do
    let a ← stdValue a
    let b ← stdValue b
    let c ← stdValue c
    let d ← stdValue d
    return UInt8.ofNat (a * 4 + b / 16) :: UInt8.ofNat (b * 16 + c / 4) :: UInt8.ofNat (c * 64 + d) ::
      (← stdGroups rest)
  | _ => none

/-- `base64.StdEncoding.DecodeString`: the padding is required, and line ends are passed over. -/
def stdDecode (s : String) : Option Bytes := stdGroups (s.toList.filter fun c => c ≠ '\r' && c ≠ '\n')

def decodeWireBytes (value : String) : Option Bytes :=
  if value = "" then some []
  else
    let cs := value.toList
    let isHex := cs.length % 2 == 0 && cs.all isHexDigit
    let looksBase64 := cs.any isBase64Only
    if isHex && !looksBase64 then some (hexPairs cs) else stdDecode value

/-- What cannot be decoded counts as empty. -/
def hexWireBytes (value : String) : String :=
  if value = "" then ""
  else
    match decodeWireBytes value with
    | some b => bytesToHex b
    | none => ""

/-! ### Numbers -/

def parseUint (s : String) : Option Nat :=
  match digits 10 s.toList with
  | some n => if n < 2 ^ 64 then some n else none
  | none => none

def parseInt (s : String) : Option Int :=
  match s.toList with
  | '-' :: ds =>
    match digits 10 ds with
    | some n => if n ≤ 2 ^ 63 then some (-n) else none
    | none => none
  | '+' :: ds =>
    match digits 10 ds with
    | some n => if n < 2 ^ 63 then some n else none
    | none => none
  | ds =>
    match digits 10 ds with
    | some n => if n < 2 ^ 63 then some n else none
    | none => none

/-- What a conversion to the 64 bits of `uint64` gives; where the language leaves it open, what amd64 gives. -/
def uint64OfFloat : Doubles.Whole → Nat
  | .int n =>
    if n < -2 ^ 63 then 2 ^ 63
    else if n < 2 ^ 64 then uint64 n
    else 0
  | .infinite negative => if negative then 2 ^ 63 else 0
  | .nan => 0

/-- The same for `int64`. -/
def int64OfFloat : Doubles.Whole → Int
  | .int n => if -2 ^ 63 ≤ n ∧ n < 2 ^ 63 then n else -2 ^ 63
  | _ => -2 ^ 63

def asU64 (value : Option Json) (fallback : Nat) : Nat :=
  match value with
  | some (.number n) => uint64OfFloat (wholePart n)
  | some (.string s) => if s = "" then fallback else (parseUint s).getD fallback
  | _ => fallback

def asI64 (value : Option Json) (fallback : Int) : Int :=
  match value with
  | some (.number n) => int64OfFloat (wholePart n)
  | some (.string s) => if s = "" then fallback else (parseInt s).getD fallback
  | _ => fallback

/-! ### Records -/

def pick (raw : RawRecord) : List String → Option Json
  | [] => none
  | key :: keys =>
    match raw.lookup key with
    | none => pick raw keys
    | some .null => pick raw keys
    | some value => some value

def optionalU64 (value : Option Json) : Option Nat :=
  match value with
  | none => none
  | some (.string "") => none
  | some value => some (asU64 (some value) 0)

/-- `strconv.FormatFloat(t, 'f', -1, 64)`. -/
def formatFloat : Number → String
  | .integer n =>
    if n.natAbs ≤ 2 ^ 53 then toString n
    else (if n < 0 then "-" else "") ++ String.ofList (Doubles.plain (Doubles.nearest n.natAbs 1))
  | .other text =>
    match Doubles.readDecimal text.toList with
    | some (.finite negative units) => (if negative then "-" else "") ++ String.ofList (Doubles.plain units)
    | _ => text

section
variable (sprint : Json → String)

/-- `sprint` is what `fmt.Sprintf("%v", t)` gives for an array or an object. -/
def asStr (value : Option Json) (fallback : String) : String :=
  match value with
  | none => fallback
  | some .null => fallback
  | some (.string s) => s
  | some (.number n) => formatFloat n
  | some (.bool b) => toString b
  | some value => sprint value

def mapRollupView (raw : RawRecord) : RollupView where
  creator := asStr sprint (pick raw ["creator"]) ""
  status := asStr sprint (pick raw ["status"]) ""
  layerId := asStr sprint (pick raw ["layer_id", "layerId"]) ""
  challengeWindowSec := optionalU64 (pick raw ["challenge_window_sec", "challengeWindowSec"])

/-- The one field of `MapBatchView` that a receipt is compared with. -/
def batchStateRoot (raw : RawRecord) : String := asStr sprint (pick raw ["state_root", "stateRoot"]) ""

def mapAnchorView (raw : RawRecord) : AnchorView where
  layerId := asStr sprint (pick raw ["layer_id", "layerId"]) ""
  layerHeight := asU64 (pick raw ["layer_height", "layerHeight"]) 0
  stateRoot := hexWireBytes (asStr sprint (pick raw ["state_root", "stateRoot"]) "")
  validatorSetHash := hexWireBytes (asStr sprint (pick raw ["validator_set_hash", "validatorSetHash"]) "")
  mainChainHeight := asU64 (pick raw ["main_chain_height", "mainChainHeight"]) 0
  anchoredAt := asI64 (pick raw ["anchored_at", "anchoredAt"]) 0
  pqcSignature :=
    hexWireBytes (asStr sprint (pick raw ["pqc_aggregate_signature", "pqcAggregateSignature"]) "")
  transactionCount := asU64 (pick raw ["transaction_count", "transactionCount"]) 0
  compressedStateProof :=
    hexWireBytes (asStr sprint (pick raw ["compressed_state_proof", "compressedStateProof"]) "")

def mapPqcAccountView (raw : RawRecord) : PqcAccountView where
  publicKey := hexWireBytes (asStr sprint (pick raw ["public_key", "publicKey"]) "")

end

/-! ### Reads -/

/-- `shouldEscape` for a path segment. -/
def isPathUnreserved (c : Char) : Bool := c.isAlphanum || "-_.~$&+=:@".toList.contains c

def pathEscape (s : String) : String :=
  String.ofList (s.toList.flatMap fun c =>
    if isPathUnreserved c then [c]
    else (String.utf8EncodeChar c).flatMap fun b => '%' :: (bytesToHex [b]).toList.map Char.toUpper)

/-- `body` itself, unless it holds a record under `key`. -/
def nested (body : RawRecord) (key : String) : RawRecord :=
  match pick body [key] with
  | some value => asRecord value
  | none => body

structure RestClient where
  getRollup : String → Except JsError RollupView
  getBatchStateRoot : String → Nat → Except JsError String
  getAnchors : String → Except JsError (List AnchorView)
  getPqcAccount : String → Except JsError PqcAccountView

structure Network where
  chainId : String
  anchorSignV2Height : Nat
  deriving DecidableEq, Repr

structure RdkClient where
  rest : RestClient
  network : Network

section
variable (sprint : Json → String) (get : String → Except JsError RawRecord)

def getRollup (rollupId : String) : Except JsError RollupView := do
  let body ← get s!"/qorechain/rdk/v1/rollup/{pathEscape rollupId}"
  return mapRollupView sprint (nested body "rollup")

def getBatchStateRoot (rollupId : String) (batchIndex : Nat) : Except JsError String := do
  let body ← get s!"/qorechain/rdk/v1/batch/{pathEscape rollupId}/{batchIndex}"
  return batchStateRoot sprint (nested body "batch")

def getAnchors (layerId : String) : Except JsError (List AnchorView) := do
  let body ← get s!"/qorechain/multilayer/v1/anchors/{pathEscape layerId}"
  return (asArray (pick body ["anchors"])).map fun item => mapAnchorView sprint (asRecord item)

def getPqcAccount (address : String) : Except JsError PqcAccountView := do
  let body ← get s!"/qorechain/pqc/v1/account/{pathEscape address}"
  return mapPqcAccountView sprint (nested body "account")

def restClient : RestClient where
  getRollup := getRollup sprint get
  getBatchStateRoot := getBatchStateRoot sprint get
  getAnchors := getAnchors sprint get
  getPqcAccount := getPqcAccount sprint get

end

/-! ### Texts that both clients decode alike -/

/-- No sextet is written as a sign of the URL alphabet or as a line end. -/
theorem base64Char_standard {n : Nat} (h : n < 64) :
    base64Char n ≠ '-' ∧ base64Char n ≠ '_' ∧ base64Char n ≠ '\r' ∧ base64Char n ≠ '\n' := by
  have all : ∀ m : Fin 64, base64Char m ≠ '-' ∧ base64Char m ≠ '_' ∧ base64Char m ≠ '\r' ∧
      base64Char m ≠ '\n' := by decide +kernel
  exact all ⟨n, h⟩

theorem stdValue_base64Char {n : Nat} (h : n < 64) : stdValue (base64Char n) = some n := by
  obtain ⟨minus, underscore, -, -⟩ := base64Char_standard h
  unfold stdValue
  rw [if_neg (not_or.mpr ⟨minus, underscore⟩)]
  exact base64Value_base64Char h

theorem stdGroups_sextets (b : Bytes) :
    stdGroups ((sextets b).map base64Char ++ padding b.length) = some b := by
  induction b using sextets.induct with
  | case1 x y z rest ih =>
    have hx := x.toNat_lt
    have hy := y.toNat_lt
    have hz := z.toNat_lt
    have pad : padding (x :: y :: z :: rest).length = padding rest.length := by
      unfold padding
      rw [List.length_cons, List.length_cons, List.length_cons]
      congr 2
      omega
    have last : base64Char (z.toNat % 64) ≠ '=' := base64Char_ne_pad (by omega)
    rw [pad, sextets]
    simp only [List.map_cons, List.cons_append]
    rw [stdGroups]
    · rw [stdValue_base64Char (by omega), stdValue_base64Char (by omega), stdValue_base64Char (by omega),
        stdValue_base64Char (by omega), ih]
      simp only [Option.bind_eq_bind, Option.bind_some, Option.pure_def]
      rw [ofNat_eq (x := x) (by omega), ofNat_eq (x := y) (by omega), ofNat_eq (x := z) (by omega)]
    · intro _ same _
      exact absurd same last
    · intro same _
      exact absurd same last
  | case2 x y =>
    have hx := x.toNat_lt
    have hy := y.toNat_lt
    have last : base64Char (y.toNat % 16 * 4) ≠ '=' := base64Char_ne_pad (by omega)
    change stdGroups [base64Char (x.toNat / 4), base64Char (x.toNat % 4 * 16 + y.toNat / 16),
      base64Char (y.toNat % 16 * 4), '='] = some [x, y]
    rw [stdGroups]
    · rw [stdValue_base64Char (by omega), stdValue_base64Char (by omega), stdValue_base64Char (by omega)]
      simp only [Option.bind_eq_bind, Option.bind_some, Option.pure_def]
      rw [ofNat_eq (x := x) (by omega), ofNat_eq (x := y) (by omega)]
    · exact last
  | case3 x =>
    have hx := x.toNat_lt
    change stdGroups [base64Char (x.toNat / 4), base64Char (x.toNat % 4 * 16), '=', '='] = some [x]
    rw [stdGroups, stdValue_base64Char (by omega), stdValue_base64Char (by omega)]
    simp only [Option.bind_eq_bind, Option.bind_some, Option.pure_def]
    rw [ofNat_eq (x := x) (by omega)]
  | case4 => rfl

theorem stdDecode_bytesToBase64 (b : Bytes) : stdDecode (bytesToBase64 b) = some b := by
  have text : (bytesToBase64 b).toList = (sextets b).map base64Char ++ padding b.length :=
    String.toList_ofList
  have kept : ((sextets b).map base64Char ++ padding b.length).filter (fun c => c ≠ '\r' && c ≠ '\n') =
      (sextets b).map base64Char ++ padding b.length := by
    rw [List.filter_eq_self]
    intro c member
    rcases List.mem_append.mp member with sextet | pad
    · obtain ⟨n, inside, rfl⟩ := List.mem_map.mp sextet
      obtain ⟨-, -, carriage, line⟩ := base64Char_standard (sextets_lt n inside)
      simp [carriage, line]
    · rw [(List.mem_replicate.mp pad).2]
      rfl
  unfold stdDecode
  rw [text, kept, stdGroups_sextets]

/-- The two decoders take the same branch, and read the same bytes there. -/
theorem decodeWireBytes_spelled_alike {text : String} {b : Bytes} (spelled : Spells text b) :
    ∃ held, QorechainRdk.decodeWireBytes text = .ok held ∧ decodeWireBytes text = some held := by
  by_cases empty : text = ""
  · refine ⟨[], ?_, ?_⟩
    · rw [empty]
      rfl
    · rw [decodeWireBytes, if_pos empty]
  · unfold QorechainRdk.decodeWireBytes decodeWireBytes
    rw [if_neg empty, if_neg empty]
    dsimp only
    split
    · rename_i hex
      simp only [Bool.and_eq_true, beq_iff_eq] at hex
      exact ⟨_, hexToBytes_of_hex hex.1.1 hex.1.2, rfl⟩
    · rename_i other
      rcases spelled with rfl | ⟨digits, read⟩
      · exact ⟨b, by rw [base64ToBytes_bytesToBase64], stdDecode_bytesToBase64 b⟩
      · exfalso
        apply other
        obtain ⟨even, -, -⟩ := hexToBytes_ok_iff.mp read
        rw [stripHexPrefix_of_hex digits] at even
        have plain : text.toList.any isBase64Only = false := by
          rw [List.any_eq_false]
          intro c member
          rw [not_isBase64Only (List.all_eq_true.mp digits c member)]
          decide
        rw [even, digits, plain]
        rfl

theorem hexBytes_spelled {text : String} {b : Bytes} (spelled : Spells text b) :
    hexBytes (some (.string text)) = .ok (hexWireBytes text) := by
  obtain ⟨held, read, alike⟩ := decodeWireBytes_spelled_alike spelled
  have hex : hexBytes (some (.string text)) = .ok (bytesToHex held) := hexBytes_ok read
  rw [hex]
  unfold hexWireBytes
  rw [alike]
  by_cases empty : text = ""
  · rw [if_pos empty]
    rw [empty] at read
    cases read
    rfl
  · rw [if_neg empty]

/-- Whatever is decoded, the result is the hex of some bytes. -/
theorem hexWireBytes_hex (value : String) : ∃ b, hexWireBytes value = bytesToHex b := by
  unfold hexWireBytes
  split
  · exact ⟨[], rfl⟩
  · split
    · exact ⟨_, rfl⟩
    · exact ⟨[], rfl⟩

theorem hexToBytes_bytesToHex (b : Bytes) : hexToBytes (bytesToHex b) = some b := by
  obtain ⟨even, digits, pairs⟩ := hexToBytes_ok_iff.mp (QorechainRdk.hexToBytes_bytesToHex b)
  unfold hexToBytes
  dsimp only
  rw [if_neg (by simp [even, digits]), pairs]

end QorechainRdk.Go
