import QorechainRdk.TransitionSdks
import QorechainRdk.Utils.JsonParse

/-!
# Integers that all clients read alike

A record spells an integer as a JSON number or in decimal digits. Up to 2^53 every client reads it as it is, but
for the fields that Java keeps in an `int` and the literals that Rust takes for a float.
-/

namespace QorechainRdk

open Js
open JsonText (Value)

/-! ### What a record spells -/

/-- A JSON literal of the value `n`, with a fraction or an exponent or without. -/
def LiteralIs (literal : List Char) (n : Nat) : Prop :=
  ∃ d, Doubles.Decimal.read (JsonText.minus literal).2 = some d ∧ d.Is n ∧
    ((JsonText.minus literal).1 = [] ∨ n = 0)

/-- A JSON number, or a text of decimal digits. -/
def Decimal (value : Value) (n : Nat) : Prop :=
  (∃ literal, value = .number literal ∧ LiteralIs literal n) ∨
    ∃ cs : List Char, cs ≠ [] ∧ (∀ c ∈ cs, c.isDigit = true) ∧ Nat.ofDigitChars 10 cs 0 = n ∧
      value = .string (String.ofList cs)

/-- A field by its snake-case name, or else by its camel-case name. -/
def Field (raw : WireRecord) (snake camel : String) (n : Int) : Prop :=
  ∃ (m : Nat) (value : Value), n = m ∧ m < 2 ^ 53 ∧ Decimal value m ∧
    (raw.lookup snake = some value ∨ (raw.lookup snake = none ∧ raw.lookup camel = some value))

structure GivenBatch (raw : WireRecord) (b : BatchIntegers) : Prop where
  batchIndex : Field raw "batch_index" "batchIndex" b.batchIndex
  txCount : Field raw "tx_count" "txCount" b.txCount
  submittedAt : Field raw "submitted_at" "submittedAt" b.submittedAt
  finalizedAt : Field raw "finalized_at" "finalizedAt" b.finalizedAt
  submittedTime : Field raw "submitted_time" "submittedTime" b.submittedTime

structure GivenAnchor (raw : WireRecord) (a : AnchorIntegers) : Prop where
  layerHeight : Field raw "layer_height" "layerHeight" a.layerHeight
  mainChainHeight : Field raw "main_chain_height" "mainChainHeight" a.mainChainHeight
  anchoredAt : Field raw "anchored_at" "anchoredAt" a.anchoredAt
  transactionCount : Field raw "transaction_count" "transactionCount" a.transactionCount

/-- What the clients that read every number as a double have of a record. -/
def parsed (raw : WireRecord) : RawRecord := raw.map fun field => (field.1, Json.ofValue field.2)

/-- What Rust reads of a JSON number: a literal of digits alone, or zero. -/
def Plain (raw : WireRecord) (snake camel : String) (n : Int) : Prop :=
  ∀ literal, Rust.pickWritten raw [snake, camel] = some (.number literal) →
    (JsonText.minus literal).2.all Char.isDigit = true ∨ n = 0

section
variable {value : Value} {raw : WireRecord} {snake camel : String} {n : Nat}

theorem lookup_parsed (raw : WireRecord) (key : String) :
    (parsed raw).lookup key = (raw.lookup key).map Json.ofValue := by
  induction raw with
  | nil => rfl
  | cons field raw ih =>
    show List.lookup key ((field.1, Json.ofValue field.2) :: parsed raw) = _
    rw [List.lookup_cons, List.lookup_cons, ih]
    split
    · rfl
    · rfl

theorem Decimal.not_null (given : Decimal value n) : value ≠ .null ∧ Json.ofValue value ≠ .null := by
  obtain ⟨literal, rfl, -⟩ | ⟨cs, -, -, -, rfl⟩ := given
  · exact ⟨nofun, by rw [Json.ofValue]; exact nofun⟩
  · exact ⟨nofun, by rw [Json.ofValue]; exact nofun⟩

theorem Decimal.pick (given : Decimal value n)
    (spelled : raw.lookup snake = some value ∨ (raw.lookup snake = none ∧ raw.lookup camel = some value)) :
    pick (parsed raw) [snake, camel] = some (Json.ofValue value) ∧
      Go.pick (parsed raw) [snake, camel] = some (Json.ofValue value) ∧
      Rust.pickWritten raw [snake, camel] = some value := by
  obtain ⟨written, read⟩ := given.not_null
  rcases spelled with first | ⟨absent, second⟩
  · unfold QorechainRdk.pick Go.pick Rust.pickWritten
    rw [lookup_parsed, first, Option.map_some]
    exact ⟨rfl, by split <;> simp_all, by split <;> simp_all⟩
  · unfold QorechainRdk.pick Go.pick Rust.pickWritten
    rw [lookup_parsed, absent, Option.map_none]
    unfold QorechainRdk.pick Go.pick Rust.pickWritten
    rw [lookup_parsed, second, Option.map_some]
    exact ⟨rfl, by dsimp only; split <;> simp_all, by dsimp only; split <;> simp_all⟩

/-! ### The readers -/

theorem ofList_ne_empty {cs : List Char} (filled : cs ≠ []) : String.ofList cs ≠ "" := by
  intro empty
  exact filled (by simpa using congrArg String.toList empty)

theorem sign_free {cs : List Char} (decimal : ∀ c ∈ cs, c.isDigit = true) {c : Char} {ds : List Char}
    (text : cs = c :: ds) : c ≠ '-' ∧ c ≠ '+' := by
  have digit := decimal c (by rw [text]; exact List.mem_cons_self)
  constructor
  · rintro rfl
    exact absurd digit (by decide)
  · rintro rfl
    exact absurd digit (by decide)

theorem exact_double {n : Nat} (small : n < 2 ^ 53) : toDouble n = n := by
  rw [toDouble_nat, Rounding.nearest_eq_iff.mpr (Rounding.representable_of_lt small)]

/-- What `JSON.parse` makes of a literal with this value. -/
theorem ofLiteral_is {literal : List Char} (small : n < 2 ^ 53) (spelled : LiteralIs literal n) :
    ofLiteral literal = .integer n := by
  obtain ⟨d, read, value, sign⟩ := spelled
  obtain ⟨same, finite⟩ := Doubles.nearest_small small
  unfold ofLiteral
  dsimp only
  rw [read]
  dsimp only
  rw [Doubles.Decimal.toDouble_whole value finite, same, ofDouble_whole]
  unfold Doubles.signed
  rcases sign with positive | rfl
  · simp [positive]
  · simp

theorem toNumber_digits {cs : List Char} (filled : cs ≠ []) (decimal : ∀ c ∈ cs, c.isDigit = true)
    (sum : Nat.ofDigitChars 10 cs 0 = n) (small : n < 2 ^ 53) :
    Json.toNumber (.string (String.ofList cs)) = some (.integer n) := by
  have finite : isFinite n = true := by
    unfold isFinite
    rw [exact_double small, decide_eq_true_eq]
    exact small.trans (pow_lt_pow_right₀ Nat.one_lt_two (by omega))
  unfold Json.toNumber stringToNumber
  dsimp only
  rw [stringToBigInt_decimal filled decimal, sum]
  dsimp only
  rw [show Int.ofNat n = (n : Int) from rfl, finite, if_pos rfl, exact_double small]

theorem num_decimal (small : n < 2 ^ 53) (given : Decimal value n) :
    num (some (Json.ofValue value)) = .ok (n : Int) := by
  obtain ⟨literal, rfl, spelled⟩ | ⟨cs, filled, decimal, sum, rfl⟩ := given
  · rw [Json.ofValue, ofLiteral_is small spelled]
    rfl
  · rw [Json.ofValue]
    unfold num
    split
    · rename_i same
      cases same
    · rename_i same
      cases same
    · rename_i same
      exact absurd (Json.string.inj (Option.some.inj same)) (ofList_ne_empty filled)
    · rename_i value _ _ _ same
      cases same
      rw [toNumber_digits filled decimal sum small]

/-- Digits below 2^53, as a double. -/
theorem digits_double {cs : List Char} (sum : Nat.ofDigitChars 10 cs 0 = n) (small : n < 2 ^ 53) :
    Rounding.nearest 53 (Nat.ofDigitChars 10 cs 0) < 2 ^ 1024 ∧
      (Doubles.Double.finite false (Rounding.nearest 53 (Nat.ofDigitChars 10 cs 0) * Doubles.one)).truncate = .int n := by
  obtain ⟨same, finite⟩ := Doubles.nearest_small small
  rw [sum, Doubles.truncate_whole, same]
  rw [same] at finite
  exact ⟨finite, rfl⟩

theorem Go.int64OfFloat_int {v : Int} (low : -2 ^ 63 ≤ v) (high : v < 2 ^ 63) : Go.int64OfFloat (.int v) = v := by
  unfold Go.int64OfFloat
  dsimp only
  rw [if_pos ⟨low, high⟩]

theorem Go.asNum_decimal (small : n < 2 ^ 53) (given : Decimal value n) :
    Go.asNum (some (Json.ofValue value)) 0 = n := by
  have whole : Go.int64OfFloat (.int n) = n := Go.int64OfFloat_int (by omega) (by omega)
  obtain ⟨literal, rfl, spelled⟩ | ⟨cs, filled, decimal, sum, rfl⟩ := given
  · rw [Json.ofValue, ofLiteral_is small spelled]
    exact whole
  · obtain ⟨finite, truncated⟩ := digits_double sum small
    rw [Json.ofValue]
    unfold Go.asNum
    dsimp only
    rw [if_neg (ofList_ne_empty filled), Go.parseFloat_digits filled decimal finite, Option.map_some, truncated,
      Option.getD_some, whole]

theorem Go.asU64_decimal (small : n < 2 ^ 53) (given : Decimal value n) :
    Go.asU64 (some (Json.ofValue value)) 0 = n := by
  obtain ⟨literal, rfl, spelled⟩ | ⟨cs, filled, decimal, sum, rfl⟩ := given
  · have whole : (Go.uint64 n : Int) = n := Go.uint64_of_range (by omega) (by omega)
    rw [Json.ofValue, ofLiteral_is small spelled]
    unfold Go.asU64 wholePart Go.uint64OfFloat
    dsimp only
    rw [if_neg (by omega), if_pos (by omega)]
    exact Int.ofNat.inj whole
  · have read : Go.parseUint (String.ofList cs) = some n := by
      unfold Go.parseUint
      rw [String.toList_ofList, digits_decimal filled decimal, sum]
      exact if_pos (by omega)
    rw [Json.ofValue]
    unfold Go.asU64
    dsimp only
    rw [if_neg (ofList_ne_empty filled), read]
    rfl

theorem Go.parseInt_decimal {cs : List Char} (filled : cs ≠ []) (decimal : ∀ c ∈ cs, c.isDigit = true)
    (sum : Nat.ofDigitChars 10 cs 0 = n) (small : n < 2 ^ 53) :
    Go.parseInt (String.ofList cs) = some (n : Int) := by
  unfold Go.parseInt
  rw [String.toList_ofList]
  split
  · exact absurd rfl (sign_free decimal rfl).1
  · exact absurd rfl (sign_free decimal rfl).2
  · rw [digits_decimal filled decimal, sum]
    exact if_pos (by omega)

theorem Go.asI64_decimal (small : n < 2 ^ 53) (given : Decimal value n) :
    Go.asI64 (some (Json.ofValue value)) 0 = n := by
  obtain ⟨literal, rfl, spelled⟩ | ⟨cs, filled, decimal, sum, rfl⟩ := given
  · rw [Json.ofValue, ofLiteral_is small spelled]
    unfold Go.asI64 wholePart
    dsimp only
    exact Go.int64OfFloat_int (by omega) (by omega)
  · rw [Json.ofValue]
    unfold Go.asI64
    dsimp only
    rw [if_neg (ofList_ne_empty filled), Go.parseInt_decimal filled decimal sum small]
    rfl

/-- Rust reads a text of digits, and of the literals those of digits alone. -/
theorem Rust.numOf_decimal (small : n < 2 ^ 53) (given : Decimal value n) :
    Rust.numOf (some value) 0 = n ↔
      ∀ literal, value = .number literal → (JsonText.minus literal).2.all Char.isDigit = true ∨ n = 0 := by
  obtain ⟨literal, rfl, d, read, spelled, sign⟩ | ⟨cs, filled, decimal, sum, rfl⟩ := given
  · have only : (∀ other, Value.number literal = .number other →
        (JsonText.minus other).2.all Char.isDigit = true ∨ n = 0) ↔
        (JsonText.minus literal).2.all Char.isDigit = true ∨ n = 0 :=
      ⟨fun every => every literal rfl, by rintro holds other ⟨⟩; exact holds⟩
    rw [only]
    unfold Rust.numOf Rust.literalI64
    dsimp only
    by_cases whole : (JsonText.minus literal).2.all Char.isDigit = true
    · have filled : (JsonText.minus literal).2 ≠ [] := by
        intro empty
        rw [empty] at read
        cases read
      have value := Doubles.Decimal.read_digits filled (List.all_eq_true.mp whole)
      obtain rfl := Option.some.inj (read.symm.trans value)
      have sum : Nat.ofDigitChars 10 (JsonText.minus literal).2 0 = n := by
        unfold Doubles.Decimal.Is Doubles.Decimal.num Doubles.Decimal.den at spelled
        simpa using spelled
      refine iff_of_true ?_ (Or.inl whole)
      rw [if_neg (by rw [whole]; decide), sum]
      rcases sign with positive | rfl
      · rw [if_pos positive, if_pos (by omega), Option.getD_some]
      · split
        · rfl
        · rfl
    · rw [if_pos (by simpa using whole), Option.getD_none]
      simp only [whole, Bool.false_eq_true, false_or]
      omega
  · refine iff_of_true ?_ nofun
    unfold Rust.numOf Rust.parseI64
    dsimp only
    rw [Go.parseInt_decimal filled decimal sum small]
    rfl

theorem Rust.numOf_nonneg (small : n < 2 ^ 53) (given : Decimal value n) : 0 ≤ Rust.numOf (some value) 0 := by
  by_cases plain : Rust.numOf (some value) 0 = n
  · rw [plain]
    omega
  · obtain ⟨literal, rfl, spelled⟩ | ⟨cs, filled, decimal, sum, rfl⟩ := given
    · rw [Rust.numOf_decimal small (Or.inl ⟨literal, rfl, spelled⟩)] at plain
      have fractional : (JsonText.minus literal).2.all Char.isDigit = false := by
        by_contra whole
        apply plain
        rintro other ⟨⟩
        exact Or.inl (by simpa using whole)
      unfold Rust.numOf Rust.literalI64
      dsimp only
      rw [if_pos fractional, Option.getD_none]
    · exact absurd ((Rust.numOf_decimal small (Or.inr ⟨cs, filled, decimal, sum, rfl⟩)).mpr nofun) plain

theorem Py.num_decimal (small : n < 2 ^ 53) (given : Decimal value n) :
    Py.num (some (Json.ofValue value)) = .ok (n : Int) := by
  obtain ⟨literal, rfl, spelled⟩ | ⟨cs, filled, decimal, sum, rfl⟩ := given
  · rw [Json.ofValue, ofLiteral_is small spelled]
    rfl
  · obtain ⟨finite, truncated⟩ := digits_double sum small
    rw [Json.ofValue]
    unfold Py.num
    dsimp only
    rw [if_neg (ofList_ne_empty filled), Py.float_digits filled decimal finite]
    dsimp only
    rw [truncated]
    rfl

/-- Java narrows what it has read to the width of the field. -/
theorem Jvm.asInteger_decimal (bits : Nat) (small : n < 2 ^ 53) (given : Decimal value n) :
    Jvm.asInteger bits (some (Json.ofValue value)) 0 = Jvm.narrow bits n := by
  obtain ⟨literal, rfl, spelled⟩ | ⟨cs, filled, decimal, sum, rfl⟩ := given
  · rw [Json.ofValue, ofLiteral_is small spelled]
    rfl
  · obtain ⟨finite, truncated⟩ := digits_double sum small
    rw [Json.ofValue]
    unfold Jvm.asInteger
    dsimp only
    rw [if_neg (ofList_ne_empty filled), Jvm.parseDouble_digits filled decimal finite, Option.map_some, truncated]
    rfl

end

/-! ### The views -/

def BatchView.integers (v : BatchView) : BatchIntegers where
  batchIndex := v.batchIndex
  txCount := v.txCount
  submittedAt := v.submittedAt
  finalizedAt := v.finalizedAt
  submittedTime := v.submittedTime

def AnchorView.integers (v : AnchorView) : AnchorIntegers where
  layerHeight := v.layerHeight
  mainChainHeight := v.mainChainHeight
  anchoredAt := v.anchoredAt
  transactionCount := v.transactionCount

inductive ViewsClient where
  | go
  | rust
  | py
  | jvm
  deriving DecidableEq, Repr

def batchIntegersOf (client : ViewsClient) (raw : WireRecord) : Except JsError BatchIntegers :=
  match client with
  | .go => .ok (Go.batchIntegers (parsed raw))
  | .rust => .ok (Rust.batchIntegers raw)
  | .py => Py.batchIntegers (parsed raw)
  | .jvm => .ok (Jvm.batchIntegers (parsed raw))

def anchorIntegersOf (client : ViewsClient) (raw : WireRecord) : Except JsError AnchorIntegers :=
  match client with
  | .go => .ok (Go.anchorIntegers (parsed raw))
  | .rust => .ok (Rust.anchorIntegers raw)
  | .py => Py.anchorIntegers (parsed raw)
  | .jvm => .ok (Jvm.anchorIntegers (parsed raw))

/-- The transition root with the count of a view; Go and Rust convert it to the unsigned type. -/
def rootOf (client : ViewsClient) (shake256 : Bytes → Bytes) (i : TransitionFacts) (version : TransitionRootVersion)
    (view : BatchIntegers) : Except JsError Bytes :=
  match client with
  | .go => Go.batchTransitionRoot shake256 i (Go.uint64 view.txCount) version
  | .rust => Rust.batchTransitionRoot shake256 i (Go.uint64 view.txCount) version
  | .py => Py.batchTransitionRoot shake256 i view.txCount version
  | .jvm => Jvm.root shake256 i view.txCount version

def signBytesOf (client : ViewsClient) (facts : AnchorFacts) (view : AnchorIntegers) : Except JsError Bytes :=
  match client with
  | .go => .ok (Go.anchorSignBytesV2 facts.chainId facts.layerId (Go.uint64 view.layerHeight) facts.stateRoot
      facts.validatorSetHash (Go.uint64 view.transactionCount) facts.compressedStateProof)
  | .rust => .ok (Rust.anchorSignBytesV2 facts (Go.uint64 view.layerHeight) (Go.uint64 view.transactionCount))
  | .py => Py.anchorSignBytesV2 facts view.layerHeight view.transactionCount
  | .jvm => Jvm.anchorSignBytesV2 facts view.layerHeight view.transactionCount

/-- A client's views carry these integers, as the views of the TypeScript client do, and what it hashes with
them is the same. -/
structure ReadsAlike (client : ViewsClient) (batch anchor : WireRecord) (b : BatchIntegers) (a : AnchorIntegers) :
    Prop where
  batchRead : batchIntegersOf client batch = .ok b
  anchorRead : anchorIntegersOf client anchor = .ok a
  tsBatch : (mapBatchView (parsed batch)).map BatchView.integers = .ok b
  tsAnchor : ∀ view, mapAnchorView (parsed anchor) = .ok view → view.integers = a
  root : ∀ shake256 i version root,
    (batchIntegersOf client batch >>= rootOf client shake256 i version) = .ok root ↔
      i.root shake256 b.txCount version = .ok root
  signBytes : ∀ facts stateRoot vsh proof, AnchorFacts.Decodes facts stateRoot vsh proof →
    (anchorIntegersOf client anchor >>= signBytesOf client facts) = facts.signBytes a.layerHeight a.transactionCount

/-- What Java keeps in an `int`. -/
structure FitsInt (b : BatchIntegers) (a : AnchorIntegers) : Prop where
  batchIndex : b.batchIndex < 2 ^ 31
  txCount : b.txCount < 2 ^ 31
  submittedAt : b.submittedAt < 2 ^ 31
  finalizedAt : b.finalizedAt < 2 ^ 31
  transactionCount : a.transactionCount < 2 ^ 31

/-- What Rust reads of a batch. -/
structure PlainBatch (raw : WireRecord) (b : BatchIntegers) : Prop where
  batchIndex : Plain raw "batch_index" "batchIndex" b.batchIndex
  txCount : Plain raw "tx_count" "txCount" b.txCount
  submittedAt : Plain raw "submitted_at" "submittedAt" b.submittedAt
  finalizedAt : Plain raw "finalized_at" "finalizedAt" b.finalizedAt
  submittedTime : Plain raw "submitted_time" "submittedTime" b.submittedTime

/-- What Rust reads of an anchor. -/
structure PlainAnchor (raw : WireRecord) (a : AnchorIntegers) : Prop where
  layerHeight : Plain raw "layer_height" "layerHeight" a.layerHeight
  mainChainHeight : Plain raw "main_chain_height" "mainChainHeight" a.mainChainHeight
  anchoredAt : Plain raw "anchored_at" "anchoredAt" a.anchoredAt
  transactionCount : Plain raw "transaction_count" "transactionCount" a.transactionCount

section
variable {raw batch anchor : WireRecord} {snake camel : String} {n : Int} {b : BatchIntegers} {a : AnchorIntegers}

/-- One field, as all readers read it. -/
structure FieldRead (raw : WireRecord) (snake camel : String) (n : Int) : Prop where
  range : 0 ≤ n ∧ n < 2 ^ 53
  ts : num (pick (parsed raw) [snake, camel]) = .ok n
  goNum : Go.asNum (Go.pick (parsed raw) [snake, camel]) 0 = n
  goU64 : (Go.asU64 (Go.pick (parsed raw) [snake, camel]) 0 : Int) = n
  goI64 : Go.asI64 (Go.pick (parsed raw) [snake, camel]) 0 = n
  rust : Rust.numOf (Rust.pickWritten raw [snake, camel]) 0 = n ↔ Plain raw snake camel n
  rustNonneg : 0 ≤ Rust.numOf (Rust.pickWritten raw [snake, camel]) 0
  py : Py.num (Py.pick (parsed raw) [snake, camel]) = .ok n
  jvm : ∀ bits, Jvm.asInteger bits (Jvm.pick (parsed raw) [snake, camel]) 0 = Jvm.narrow bits n

theorem Field.read (given : Field raw snake camel n) : FieldRead raw snake camel n := by
  obtain ⟨m, value, rfl, small, decimal, spelled⟩ := given
  obtain ⟨ts, others, written⟩ := decimal.pick spelled
  have plain : Plain raw snake camel m ↔
      ∀ literal, value = .number literal → (JsonText.minus literal).2.all Char.isDigit = true ∨ m = 0 := by
    unfold Plain
    rw [written]
    simp only [Option.some.injEq, Int.natCast_eq_zero]
  exact
    { range := by omega
      ts := by rw [ts]; exact num_decimal small decimal
      goNum := by rw [others]; exact Go.asNum_decimal small decimal
      goU64 := by rw [others, Go.asU64_decimal small decimal]
      goI64 := by rw [others]; exact Go.asI64_decimal small decimal
      rust := by rw [written, plain]; exact Rust.numOf_decimal small decimal
      rustNonneg := by rw [written]; exact Rust.numOf_nonneg small decimal
      py := by unfold Py.pick; rw [others]; exact Py.num_decimal small decimal
      jvm := by
        intro bits
        unfold Jvm.pick
        rw [others]
        exact Jvm.asInteger_decimal bits small decimal }

theorem jvm_imp_iff {p : Prop} : (ViewsClient.jvm = .jvm → p) ↔ p := ⟨fun h => h rfl, fun h _ => h⟩

theorem narrow_eq_iff (nonneg : 0 ≤ n) : Jvm.narrow 32 n = n ↔ n < 2 ^ 31 := by
  unfold Jvm.narrow
  omega

theorem narrow_long (range : 0 ≤ n ∧ n < 2 ^ 53) : Jvm.narrow 64 n = n := by
  unfold Jvm.narrow
  omega

theorem mapBatchView_integers (given : GivenBatch batch b) :
    (mapBatchView (parsed batch)).map BatchView.integers = .ok b := by
  unfold mapBatchView
  rw [given.batchIndex.read.ts, given.txCount.read.ts, given.submittedAt.read.ts, given.finalizedAt.read.ts,
    given.submittedTime.read.ts]
  rfl

theorem mapAnchorView_integers (given : GivenAnchor anchor a) {view : AnchorView}
    (mapped : mapAnchorView (parsed anchor) = .ok view) : view.integers = a := by
  unfold mapAnchorView at mapped
  rw [given.layerHeight.read.ts, given.mainChainHeight.read.ts, given.anchoredAt.read.ts,
    given.transactionCount.read.ts, ok_bind] at mapped
  obtain ⟨_, -, mapped⟩ := bind_ok mapped
  obtain ⟨_, -, mapped⟩ := bind_ok mapped
  rw [ok_bind, ok_bind] at mapped
  obtain ⟨_, -, mapped⟩ := bind_ok mapped
  rw [ok_bind] at mapped
  obtain ⟨_, -, mapped⟩ := bind_ok mapped
  rw [← pure_ok_iff.mp mapped]
  rfl

theorem rust_imp_iff {p : Prop} : (ViewsClient.rust = .rust → p) ↔ p := ⟨fun h => h rfl, fun h _ => h⟩

theorem max_zero_eq_iff {m : Int} (nonneg : 0 ≤ m) : max m 0 = n ↔ m = n := by
  rw [max_eq_left nonneg]

/-- Go and Python read every such batch; Java reads those whose `int` fields fit, and Rust those with plain
literals. -/
theorem batchIntegersOf_iff (client : ViewsClient) (given : GivenBatch batch b) :
    batchIntegersOf client batch = .ok b ↔
      (client = .jvm →
        b.batchIndex < 2 ^ 31 ∧ b.txCount < 2 ^ 31 ∧ b.submittedAt < 2 ^ 31 ∧ b.finalizedAt < 2 ^ 31) ∧
        (client = .rust → PlainBatch batch b) := by
  have index := given.batchIndex.read
  have count := given.txCount.read
  have height := given.submittedAt.read
  have final := given.finalizedAt.read
  have time := given.submittedTime.read
  cases client with
  | go =>
    refine iff_of_true ?_ ⟨nofun, nofun⟩
    unfold batchIntegersOf Go.batchIntegers
    dsimp only
    rw [index.goNum, count.goNum, height.goNum, final.goNum, time.goU64,
      Go.int64_of_range (by have := time.range; omega) (by have := time.range; omega)]
  | rust =>
    unfold batchIntegersOf Rust.batchIntegers
    dsimp only
    obtain ⟨batchIndex, txCount, submittedAt, finalizedAt, submittedTime⟩ := b
    rw [Except.ok.injEq, BatchIntegers.mk.injEq, index.rust, count.rust, height.rust, final.rust, time.rust,
      rust_imp_iff]
    constructor
    · intro plain
      obtain ⟨first, second, third, fourth, fifth⟩ := plain
      exact ⟨nofun, first, second, third, fourth, fifth⟩
    · intro plain
      obtain ⟨-, first, second, third, fourth, fifth⟩ := plain
      exact ⟨first, second, third, fourth, fifth⟩
  | py =>
    refine iff_of_true ?_ ⟨nofun, nofun⟩
    unfold batchIntegersOf Py.batchIntegers
    dsimp only
    rw [index.py, count.py, height.py, final.py, time.py]
    rfl
  | jvm =>
    unfold batchIntegersOf Jvm.batchIntegers Jvm.asNum Jvm.asLong
    dsimp only
    rw [index.jvm, count.jvm, height.jvm, final.jvm, time.jvm, narrow_long time.range, Except.ok.injEq]
    obtain ⟨batchIndex, txCount, submittedAt, finalizedAt, submittedTime⟩ := b
    rw [BatchIntegers.mk.injEq, narrow_eq_iff index.range.1, narrow_eq_iff count.range.1,
      narrow_eq_iff height.range.1, narrow_eq_iff final.range.1, jvm_imp_iff, and_iff_left rfl]
    exact ⟨fun small => ⟨small, nofun⟩, fun small => small.1⟩

theorem anchorIntegersOf_iff (client : ViewsClient) (given : GivenAnchor anchor a) :
    anchorIntegersOf client anchor = .ok a ↔
      (client = .jvm → a.transactionCount < 2 ^ 31) ∧ (client = .rust → PlainAnchor anchor a) := by
  have layer := given.layerHeight.read
  have main := given.mainChainHeight.read
  have at_ := given.anchoredAt.read
  have count := given.transactionCount.read
  cases client with
  | go =>
    refine iff_of_true ?_ ⟨nofun, nofun⟩
    unfold anchorIntegersOf Go.anchorIntegers
    dsimp only
    rw [layer.goU64, main.goU64, at_.goI64, count.goU64]
  | rust =>
    unfold anchorIntegersOf Rust.anchorIntegers
    dsimp only
    obtain ⟨layerHeight, mainChainHeight, anchoredAt, transactionCount⟩ := a
    rw [Except.ok.injEq, AnchorIntegers.mk.injEq, max_zero_eq_iff layer.rustNonneg, layer.rust, main.rust, at_.rust,
      count.rust, rust_imp_iff]
    constructor
    · intro plain
      obtain ⟨first, second, third, fourth⟩ := plain
      exact ⟨nofun, first, second, third, fourth⟩
    · intro plain
      obtain ⟨-, first, second, third, fourth⟩ := plain
      exact ⟨first, second, third, fourth⟩
  | py =>
    refine iff_of_true ?_ ⟨nofun, nofun⟩
    unfold anchorIntegersOf Py.anchorIntegers
    dsimp only
    rw [layer.py, main.py, at_.py, count.py]
    rfl
  | jvm =>
    unfold anchorIntegersOf Jvm.anchorIntegers Jvm.asNum Jvm.asLong
    dsimp only
    rw [layer.jvm, main.jvm, at_.jvm, count.jvm, narrow_long layer.range, narrow_long main.range,
      narrow_long at_.range, Except.ok.injEq]
    obtain ⟨layerHeight, mainChainHeight, anchoredAt, transactionCount⟩ := a
    rw [AnchorIntegers.mk.injEq, narrow_eq_iff count.range.1, jvm_imp_iff]
    exact ⟨fun same => ⟨same.2.2.2, nofun⟩, fun small => ⟨rfl, rfl, rfl, small.1⟩⟩

theorem uint64_of_small (range : 0 ≤ n ∧ n < 2 ^ 53) : (Go.uint64 n : Int) = n :=
  Go.uint64_of_range range.1 (by omega)

theorem rootOf_iff (client : ViewsClient) (range : 0 ≤ b.txCount ∧ b.txCount < 2 ^ 53) {shake256 : Bytes → Bytes}
    {i : TransitionFacts} {version : TransitionRootVersion} {root : Bytes} :
    rootOf client shake256 i version b = .ok root ↔ i.root shake256 b.txCount version = .ok root := by
  cases client with
  | go =>
    unfold rootOf Go.batchTransitionRoot Go.bigEndianU64
    dsimp only
    rw [uint64_of_small range]
    exact rootWith_ok_iff _
  | rust =>
    unfold rootOf Rust.batchTransitionRoot
    dsimp only
    rw [uint64_of_small range]
    exact rootWith_ok_iff _
  | py =>
    unfold rootOf Py.batchTransitionRoot
    dsimp only
    rw [Py.packQ_of_range range.1 (by omega)]
    exact rootWith_ok_iff _
  | jvm => exact rootWith_ok_iff _

theorem signBytesOf_eq (client : ViewsClient) (height : 0 ≤ a.layerHeight ∧ a.layerHeight < 2 ^ 53)
    (count : 0 ≤ a.transactionCount ∧ a.transactionCount < 2 ^ 53) {facts : AnchorFacts}
    {stateRoot vsh proof : Bytes} (decodes : facts.Decodes stateRoot vsh proof) :
    signBytesOf client facts a = facts.signBytes a.layerHeight a.transactionCount := by
  have writtenHeight := uint64_of_small height
  have writtenCount := uint64_of_small count
  cases client with
  | go => exact (Go.anchorSignBytesV2_eq decodes).trans (by rw [writtenHeight, writtenCount])
  | rust => exact (Rust.anchorSignBytesV2_eq decodes).trans (by rw [writtenHeight, writtenCount])
  | py => exact Py.anchorSignBytesV2_eq decodes ⟨height.1, by omega⟩ ⟨count.1, by omega⟩
  | jvm => exact Jvm.anchorSignBytesV2_eq decodes

/-- A client reads a batch and an anchor as the TypeScript client does, and hashes the same for them, always in Go
and Python, in Java exactly when what it keeps in an `int` is below 2^31, and in Rust exactly when the numbers that
are not zero are written without a fraction and an exponent. -/
theorem integers_alike_iff (client : ViewsClient) (givenBatch : GivenBatch batch b)
    (givenAnchor : GivenAnchor anchor a) :
    ReadsAlike client batch anchor b a ↔
      (client = .jvm → FitsInt b a) ∧ (client = .rust → PlainBatch batch b ∧ PlainAnchor anchor a) := by
  have batchIff := batchIntegersOf_iff client givenBatch
  have anchorIff := anchorIntegersOf_iff client givenAnchor
  constructor
  · intro alike
    obtain ⟨ints, plainBatch⟩ := batchIff.mp alike.batchRead
    obtain ⟨int, plainAnchor⟩ := anchorIff.mp alike.anchorRead
    refine ⟨?_, fun rust => ⟨plainBatch rust, plainAnchor rust⟩⟩
    intro java
    obtain ⟨index, count, height, final⟩ := ints java
    exact ⟨index, count, height, final, int java⟩
  · intro condition
    obtain ⟨fits, plain⟩ := condition
    have batchRead : batchIntegersOf client batch = .ok b := by
      refine batchIff.mpr ⟨?_, fun rust => (plain rust).1⟩
      intro java
      have small := fits java
      exact ⟨small.batchIndex, small.txCount, small.submittedAt, small.finalizedAt⟩
    have anchorRead : anchorIntegersOf client anchor = .ok a :=
      anchorIff.mpr ⟨fun java => (fits java).transactionCount, fun rust => (plain rust).2⟩
    refine ⟨batchRead, anchorRead, mapBatchView_integers givenBatch, ?_, ?_, ?_⟩
    · intro view mapped
      exact mapAnchorView_integers givenAnchor mapped
    · intro shake256 i version root
      rw [batchRead, ok_bind]
      exact rootOf_iff client givenBatch.txCount.read.range
    · intro facts stateRoot vsh proof decodes
      rw [anchorRead, ok_bind]
      exact signBytesOf_eq client givenAnchor.layerHeight.read.range givenAnchor.transactionCount.read.range decodes

end

/-! ### Two records -/

def countsOf (txCount : String) : WireRecord :=
  [("batch_index", .number ['7']), ("tx_count", .number txCount.toList), ("submittedAt", .string "1200"),
    ("finalized_at", .number ['1', '.', '3', 'e', '3']), ("submitted_time", .string "1760000000")]

def heights : WireRecord :=
  [("layer_height", .number "9007199254740991".toList), ("mainChainHeight", .number ['4', '1', '.', '0']),
    ("anchored_at", .number "1760000000".toList), ("transaction_count", .string "12")]

def heightsRead : AnchorIntegers := ⟨9007199254740991, 41, 1760000000, 12⟩

theorem decimal_number {literal : List Char} {n : Nat} (spelled : LiteralIs literal n) :
    Decimal (.number literal) n := Or.inl ⟨literal, rfl, spelled⟩

theorem decimal_text {s : String} {n : Nat} (filled : s.toList ≠ []) (decimal : s.toList.all Char.isDigit = true)
    (sum : Nat.ofDigitChars 10 s.toList 0 = n) : Decimal (.string s) n :=
  Or.inr ⟨s.toList, filled, List.all_eq_true.mp decimal, sum, by rw [String.ofList_toList]⟩

theorem countsOf_given {txCount : String} {n : Nat} (small : n < 2 ^ 53) (spelled : LiteralIs txCount.toList n) :
    GivenBatch (countsOf txCount) ⟨7, n, 1200, 1300, 1760000000⟩ where
  batchIndex := ⟨7, _, rfl, by decide, decimal_number ⟨⟨7, 0⟩, by decide, by decide, by decide⟩, Or.inl rfl⟩
  txCount := ⟨n, _, rfl, small, decimal_number spelled, Or.inl rfl⟩
  submittedAt := ⟨1200, _, rfl, by decide, decimal_text (by decide) (by decide) (by decide), Or.inr ⟨rfl, rfl⟩⟩
  finalizedAt := ⟨1300, _, rfl, by decide, decimal_number ⟨⟨13, 2⟩, by decide, by decide, by decide⟩, Or.inl rfl⟩
  submittedTime := ⟨1760000000, _, rfl, by decide, decimal_text (by decide) (by decide) (by decide), Or.inl rfl⟩

theorem heights_given : GivenAnchor heights heightsRead where
  layerHeight := ⟨9007199254740991, _, rfl, by decide,
    decimal_number ⟨⟨9007199254740991, 0⟩, by decide, by decide, by decide⟩, Or.inl rfl⟩
  mainChainHeight := ⟨41, _, rfl, by decide, decimal_number ⟨⟨410, -1⟩, by decide, by decide, by decide⟩,
    Or.inr ⟨rfl, rfl⟩⟩
  anchoredAt := ⟨1760000000, _, rfl, by decide,
    decimal_number ⟨⟨1760000000, 0⟩, by decide, by decide, by decide⟩, Or.inl rfl⟩
  transactionCount := ⟨12, _, rfl, by decide, decimal_text (by decide) (by decide) (by decide), Or.inl rfl⟩

/-- Java reads the two records as they are; Rust takes `1.3e3` for a missing number. -/
theorem integers_alike_iff_sample :
    ReadsAlike .jvm (countsOf "2147483647") heights ⟨7, 2147483647, 1200, 1300, 1760000000⟩ heightsRead ∧
      ¬ ReadsAlike .rust (countsOf "2147483647") heights ⟨7, 2147483647, 1200, 1300, 1760000000⟩ heightsRead := by
  have given : GivenBatch (countsOf "2147483647") ⟨7, 2147483647, 1200, 1300, 1760000000⟩ :=
    countsOf_given (by decide) ⟨⟨2147483647, 0⟩, by decide, by decide, by decide⟩
  constructor
  · apply (integers_alike_iff .jvm given heights_given).mpr
    refine ⟨fun _ => ⟨by decide, by decide, by decide, by decide, by decide⟩, fun rust => ?_⟩
    cases rust
  · rw [integers_alike_iff .rust given heights_given]
    rintro ⟨-, plain⟩
    rcases (plain rfl).1.finalizedAt ['1', '.', '3', 'e', '3'] rfl with digits | zero
    · exact absurd digits (by decide)
    · cases zero

/-- One transaction more, and Java reads the count one lower. -/
theorem count_saturates :
    ¬∀ (client : ViewsClient) (batch anchor : WireRecord) (b : BatchIntegers) (a : AnchorIntegers),
      GivenBatch batch b → GivenAnchor anchor a → ReadsAlike client batch anchor b a := by
  intro every
  have given : GivenBatch (countsOf "2147483648") ⟨7, 2147483648, 1200, 1300, 1760000000⟩ :=
    countsOf_given (by decide) ⟨⟨2147483648, 0⟩, by decide, by decide, by decide⟩
  have alike := every .jvm _ _ _ _ given heights_given
  have fits := (batchIntegersOf_iff .jvm given).mp alike.batchRead
  exact absurd (fits.1 rfl).2.1 (by decide)

end QorechainRdk
