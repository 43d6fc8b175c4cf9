import QorechainRdk.Bridge.Withdrawal
import QorechainRdk.Receipts.SignBytes
import QorechainRdk.TransitionSdks

/-!
# What a 64-bit field carries

Every commitment and signature has amounts, indexes, counts or heights among its bytes. The encoders of
`bridge/withdrawal.ts`, `transition/index.ts` and `receipts/index.ts` keep the low 64 bits of any integer; the
encoder of `bridge/withdrawal.py` raises where they are not the whole of it.
-/

namespace QorechainRdk

open Js

/-! ### Messages with blanks -/

/-- A message whose integers are still to be written, each behind its own part. -/
structure Form where
  parts : List Bytes
  counters : List Int
  blanks : parts.length = counters.length + 1

namespace Form

def message (f : Form) (words : List Bytes) : Bytes := Coding.fill f.parts words

/-- The message with the low 64 bits of each integer. -/
def written (f : Form) : Bytes := f.message (f.counters.map (Coding.bigEndian 8))

def InRange (f : Form) : Prop := ∀ v ∈ f.counters, 0 ≤ v ∧ v < 2 ^ 64

end Form

/-- Eight bytes whose value is the given one. -/
def Carries (word : Bytes) (v : Int) : Prop := word.length = 8 ∧ Coding.ofBigEndian word = v

/-- What a call returns is the digest of the form with words that carry its integers. -/
def WrittenAsGiven (digest : Bytes → Bytes) (result : Except JsError Bytes) (form : Except JsError Form) : Prop :=
  ∀ b, result = .ok b →
    ∃ f words, form = .ok f ∧ List.Forall₂ Carries words f.counters ∧ digest (f.message words) = b

/-- A call succeeds where its fields are read, and writes the low bits of its integers. -/
def WritesLowBits (digest : Bytes → Bytes) (result : Except JsError Bytes) (form : Except JsError Form) : Prop :=
  ∀ b, result = .ok b ↔ ∃ f, form = .ok f ∧ digest f.written = b

section
variable {digest : Bytes → Bytes} {result result' : Except JsError Bytes} {form form' : Except JsError Form}
  {f g : Form} {words : List Bytes} {b : Bytes}

theorem carries_bigEndian_iff {v : Int} : Carries (Coding.bigEndian 8 v) v ↔ 0 ≤ v ∧ v < 2 ^ 64 := by
  have width : (256 : Int) ^ 8 = 2 ^ 64 := by decide
  rw [Carries, Coding.ofBigEndian_bigEndian_iff, width]
  exact and_iff_right (Coding.length_bigEndian 8 v)

theorem carries_map_iff {vs : List Int} :
    List.Forall₂ Carries (vs.map (Coding.bigEndian 8)) vs ↔ ∀ v ∈ vs, 0 ≤ v ∧ v < 2 ^ 64 := by
  induction vs with
  | nil => simp
  | cons v vs ih => rw [List.map_cons, List.forall₂_cons, List.forall_mem_cons, ih, carries_bigEndian_iff]

theorem Form.width_map (f : Form) : ∀ word ∈ f.counters.map (Coding.bigEndian 8), word.length = 8 := by
  intro word member
  obtain ⟨v, -, rfl⟩ := List.mem_map.mp member
  exact Coding.length_bigEndian 8 v

theorem Carries.width {vs : List Int} (carries : List.Forall₂ Carries words vs) : ∀ word ∈ words, word.length = 8 := by
  induction carries with
  | nil => simp
  | cons first rest ih =>
    rw [List.forall_mem_cons]
    exact ⟨first.1, ih⟩

/-- In range, the low bits are the integers; beyond it no eight bytes carry them. -/
theorem Form.inRange_iff_carried :
    f.InRange ↔ ∃ words, List.Forall₂ Carries words f.counters ∧ f.message words = f.written := by
  constructor
  · intro range
    exact ⟨_, carries_map_iff.mpr range, rfl⟩
  · intro carried
    obtain ⟨words, carries, same⟩ := carried
    have length := carries.length_eq
    have blanks := f.blanks
    have read : words = f.counters.map (Coding.bigEndian 8) :=
      Coding.fill_inj (by omega) (by simpa using length.symm) (Carries.width carries) f.width_map same
    rw [read] at carries
    exact carries_map_iff.mp carries

theorem Form.counters_of_written (parts : g.parts = f.parts) (rangeF : f.InRange) (rangeG : g.InRange)
    (same : g.written = f.written) : g.counters = f.counters := by
  have blanksF := f.blanks
  have blanksG := g.blanks
  rw [parts] at blanksG
  unfold Form.written Form.message at same
  rw [parts] at same
  have words : g.counters.map (Coding.bigEndian 8) = f.counters.map (Coding.bigEndian 8) := by
    refine Coding.fill_inj ?_ ?_ g.width_map f.width_map same
    · rw [List.length_map]
      omega
    · rw [List.length_map, List.length_map]
      omega
  have read : ∀ vs : List Int, (∀ v ∈ vs, 0 ≤ v ∧ v < 2 ^ 64) →
      (vs.map (Coding.bigEndian 8)).map Coding.ofBigEndian = vs := by
    intro vs range
    have each : ∀ v ∈ vs, (Coding.ofBigEndian ∘ Coding.bigEndian 8) v = v := by
      intro v member
      have carried := carries_bigEndian_iff.mpr (range v member)
      rw [Function.comp_apply, carried.2]
    rw [List.map_map, List.map_congr_left each, List.map_id']
  rw [← read _ rangeG, words, read _ rangeF]

/-- Whatever the digest, the integers are carried exactly when they fit. -/
theorem writtenAsGiven_iff {call : (Bytes → Bytes) → Except JsError Bytes} {via : (Bytes → Bytes) → Bytes → Bytes}
    (plain : via id = id) (writes : ∀ hash, WritesLowBits (via hash) (call hash) form) :
    (∀ hash, WrittenAsGiven (via hash) (call hash) form) ↔ ∀ f, form = .ok f → f.InRange := by
  constructor
  · intro asGiven f read
    have accepted : call id = .ok (via id f.written) := (writes id _).mpr ⟨f, read, rfl⟩
    obtain ⟨g, words, other, carries, same⟩ := asGiven id _ accepted
    obtain rfl : f = g := Except.ok.inj (read.symm.trans other)
    rw [plain] at same
    exact Form.inRange_iff_carried.mpr ⟨words, carries, same⟩
  · intro inRange hash b accepted
    obtain ⟨f, read, rfl⟩ := (writes hash b).mp accepted
    exact ⟨f, _, read, carries_map_iff.mpr (inRange f read), rfl⟩

/-- Two calls that differ in integers that fit differ in what is hashed. -/
theorem counters_eq_or_collide (writes : WritesLowBits digest result form)
    (writes' : WritesLowBits digest result' form') (accepted : result = .ok b) (accepted' : result' = .ok b)
    (read : form = .ok f) (read' : form' = .ok g) (parts : g.parts = f.parts) (rangeF : f.InRange)
    (rangeG : g.InRange) :
    g.counters = f.counters ∨ g.written ≠ f.written ∧ digest g.written = digest f.written := by
  obtain ⟨f', again, hashed⟩ := (writes b).mp accepted
  obtain ⟨g', again', hashed'⟩ := (writes' b).mp accepted'
  obtain rfl : f = f' := Except.ok.inj (read.symm.trans again)
  obtain rfl : g = g' := Except.ok.inj (read'.symm.trans again')
  by_cases same : g.written = f.written
  · exact Or.inl (Form.counters_of_written parts rangeF rangeG same)
  · exact Or.inr ⟨same, hashed'.trans hashed.symm⟩

end

/-! ### The forms of the sources -/

/-- `rollup_id || 0x00 || withdrawal_index || recipient || 0x00 || denom || 0x00 || amount`. -/
def leafFormV1 (rollupId recipient denom : String) (withdrawalIndex amount : Int) : Form where
  parts := [encode rollupId ++ [0], encode recipient ++ ([0] ++ (encode denom ++ [0])), []]
  counters := [withdrawalIndex, amount]
  blanks := rfl

/-- The same fields with their lengths, behind the tag and the chain id. -/
def leafFormV2 (chainId rollupId recipient denom : String) (withdrawalIndex amount : Int) : Form where
  parts :=
    [Coding.lengthPrefixed 4 (encode "qorechain-rdk-withdrawal/v2") ++ (Coding.lengthPrefixed 4 (encode chainId) ++
        Coding.lengthPrefixed 4 (encode rollupId)),
      Coding.lengthPrefixed 4 (encode recipient) ++ Coding.lengthPrefixed 4 (encode denom), []]
  counters := [withdrawalIndex, amount]
  blanks := rfl

/-- `prev_state_root || data_hash || tx_count`. -/
def rootFormV1 (prevStateRoot dataHash : Bytes) (txCount : Int) : Form where
  parts := [prevStateRoot ++ dataHash, []]
  counters := [txCount]
  blanks := rfl

def rootFormV2 (chainId rollupId : String) (prevStateRoot dataHash : Bytes) (txCount : Int)
    (withdrawalsRoot : Bytes) : Form where
  parts :=
    [Coding.lengthPrefixed 4 (encode "qorechain-rdk-transition/v2") ++ (Coding.lengthPrefixed 4 (encode chainId) ++
        (Coding.lengthPrefixed 4 (encode rollupId) ++ (Coding.lengthPrefixed 4 prevStateRoot ++
          Coding.lengthPrefixed 4 dataHash))),
      Coding.lengthPrefixed 4 withdrawalsRoot]
  counters := [txCount]
  blanks := rfl

/-- `layer_id || layer_height || state_root || validator_set_hash`. -/
def anchorFormV1 (layerId : String) (layerHeight : Int) (stateRoot vsh : Bytes) : Form where
  parts := [encode layerId, stateRoot ++ vsh]
  counters := [layerHeight]
  blanks := rfl

def anchorFormV2 (chainId layerId : String) (layerHeight : Int) (stateRoot vsh : Bytes) (transactionCount : Int)
    (proof : Bytes) : Form where
  parts :=
    [encode Receipts.ANCHOR_SIGN_DOMAIN_V2 ++ (Coding.lengthPrefixed 8 (encode chainId) ++
        Coding.lengthPrefixed 8 (encode layerId)),
      Coding.lengthPrefixed 8 stateRoot ++ Coding.lengthPrefixed 8 vsh, Coding.lengthPrefixed 8 proof]
  counters := [layerHeight, transactionCount]
  blanks := rfl

/-! ### The calls -/

/-- A call of one of the functions that hash or sign 64-bit fields. -/
inductive CounterCall where
  | withdrawalLeafV1 (w : WithdrawalLeafInput)
  | withdrawalLeafV2 (chainId : String) (w : WithdrawalLeafInput)
  | batchTransitionRootV1 (input : TransitionInput)
  | batchTransitionRootV2 (input : TransitionInput)
  | anchorSignBytesV1 (layerId : String) (layerHeight : Integral) (stateRoot validatorSetHash : String)
  | anchorSignBytesV2 (chainId layerId : String) (layerHeight : Integral) (stateRoot validatorSetHash : String)
      (transactionCount : Integral) (compressedStateProof : Option String)
  deriving DecidableEq, Repr

namespace CounterCall

def run (shake256 : Bytes → Bytes) : CounterCall → Except JsError Bytes
  | withdrawalLeafV1 w => QorechainRdk.withdrawalLeafV1 shake256 w
  | withdrawalLeafV2 chainId w => QorechainRdk.withdrawalLeafV2 shake256 chainId w
  | batchTransitionRootV1 input => QorechainRdk.batchTransitionRootV1 shake256 input
  | batchTransitionRootV2 input => QorechainRdk.batchTransitionRootV2 shake256 input
  | anchorSignBytesV1 layerId height root vsh => Receipts.anchorSignBytesV1 layerId height root vsh
  | anchorSignBytesV2 chainId layerId height root vsh count proof =>
    Receipts.anchorSignBytesV2 chainId layerId height root vsh count proof

/-- Leaves and roots are digests; a message to be signed is returned as it is. -/
def hashed : CounterCall → Bool
  | anchorSignBytesV1 .. => false
  | anchorSignBytesV2 .. => false
  | _ => true

def digest (shake256 : Bytes → Bytes) (call : CounterCall) : Bytes → Bytes :=
  if call.hashed then shake256 else id

/-- What the call is to write, its other fields being readable. -/
def form : CounterCall → Except JsError Form
  | withdrawalLeafV1 w => do
    let amount ← bigInt w.amount
    return leafFormV1 w.rollupId w.recipient w.denom w.withdrawalIndex amount
  | withdrawalLeafV2 chainId w =>
    if chainId = "" then fail "a v2 withdrawal leaf names the chain id; pass it" else do
      let amount ← bigInt w.amount
      return leafFormV2 chainId w.rollupId w.recipient w.denom w.withdrawalIndex amount
  | batchTransitionRootV1 input => do
    let prev ← toBytes input.prevStateRoot
    let dataHash ← bytesOf input.dataHash
    return rootFormV1 prev dataHash input.txCount
  | batchTransitionRootV2 input =>
    if falsy input.chainId || falsy input.rollupId then fail missingIds else do
      let withdrawalsRoot ← bytesOf input.withdrawalsRoot
      if withdrawalsRoot.length ≠ 0 ∧ withdrawalsRoot.length ≠ 32 then
        fail s!"withdrawalsRoot must be empty or 32 bytes, got {withdrawalsRoot.length}"
      else do
        let prev ← toBytes input.prevStateRoot
        let dataHash ← bytesOf input.dataHash
        return rootFormV2 (input.chainId.getD "") (input.rollupId.getD "") prev dataHash input.txCount withdrawalsRoot
  | anchorSignBytesV1 layerId height root vsh => do
    let height ← bigInt height
    let root ← hexToBytes root
    let vsh ← hexToBytes vsh
    return anchorFormV1 layerId height root vsh
  | anchorSignBytesV2 chainId layerId height root vsh count proof => do
    let height ← bigInt height
    let root ← hexToBytes root
    let vsh ← hexToBytes vsh
    let count ← bigInt count
    let proof ← hexToBytes (proof.getD "")
    return anchorFormV2 chainId layerId height root vsh count proof

/-- The integers of a call that is not refused for another reason all fit their 64 bits. -/
def InRange (call : CounterCall) : Prop := ∀ f, call.form = .ok f → f.InRange

theorem writesLowBits (shake256 : Bytes → Bytes) (call : CounterCall) :
    WritesLowBits (call.digest shake256) (call.run shake256) call.form := by
  intro b
  cases call with
  | withdrawalLeafV1 w =>
    simp only [run, form, digest, hashed, QorechainRdk.withdrawalLeafV1, u64be_bigint, ok_bind, bind_ok_iff,
      u64be_ok_iff, pure_ok_iff, ↓existsAndEq, and_assoc, true_and]
    simp [qorehash, Form.written, Form.message, leafFormV1, Coding.fill]
  | withdrawalLeafV2 chainId w =>
    simp only [run, form, digest, hashed, withdrawalLeafV2_ok_iff, guard_ok_iff, bind_ok_iff, pure_ok_iff,
      ↓existsAndEq, and_assoc, true_and]
    simp [leafBytesV2, Form.written, Form.message, leafFormV2, Coding.fill]
  | batchTransitionRootV1 input =>
    simp only [run, form, digest, hashed, QorechainRdk.batchTransitionRootV1, bytesOf, u64be_bigint, ok_bind,
      bind_ok_iff, pure_ok_iff, ↓existsAndEq, and_assoc, true_and]
    simp [qorehash, Form.written, Form.message, rootFormV1, Coding.fill]
  | batchTransitionRootV2 input =>
    simp only [run, form, digest, hashed, QorechainRdk.batchTransitionRootV2, guard_ok_iff, u64be_bigint, ok_bind,
      bind_ok_iff, pure_ok_iff, ↓existsAndEq, and_assoc, true_and]
    simp [qorehash, lp_flatten, Form.written, Form.message, rootFormV2, Coding.fill, bytesOf]
  | anchorSignBytesV1 layerId height root vsh =>
    simp only [run, form, digest, hashed, Receipts.anchorSignBytesV1, bind_ok_iff, u64be_ok_iff, pure_ok_iff,
      ↓existsAndEq, and_assoc, true_and]
    simp [Form.written, Form.message, anchorFormV1, Coding.fill]
  | anchorSignBytesV2 chainId layerId height root vsh count proof =>
    simp only [run, form, digest, hashed, Receipts.anchorSignBytesV2, Receipts.lengthPrefixed_ok, ok_bind,
      bind_ok_iff, u64be_ok_iff, pure_ok_iff, ↓existsAndEq, and_assoc, true_and]
    simp [Form.written, Form.message, anchorFormV2, Coding.fill, Coding.lengthPrefixed]

theorem asGiven_iff (call : CounterCall) :
    (∀ shake256, WrittenAsGiven (call.digest shake256) (call.run shake256) call.form) ↔ call.InRange := by
  have plain : call.digest id = id := ite_self _
  exact writtenAsGiven_iff plain fun hash => call.writesLowBits hash

end CounterCall

/-! ### A tree's leaves -/

/-- The call that makes the leaf of withdrawal `i`. -/
def treeCall (opts : WithdrawalsTreeOptions) (i : Nat) (w : Withdrawal) : CounterCall :=
  match opts.version with
  | .v2 => .withdrawalLeafV2 (opts.chainId.getD "") (treeInput opts i w)
  | .v1 => .withdrawalLeafV1 (treeInput opts i w)

/-- Every leaf of a tree is the digest of a form with words that carry its index and its amount. -/
def TreeWrittenAsGiven (shake256 : Bytes → Bytes) (ws : List Withdrawal) (opts : WithdrawalsTreeOptions) : Prop :=
  ∀ tree, withdrawalsTree shake256 ws opts = .ok tree →
    ∀ i w, ws[i]? = some w → ∃ leaf, tree.leaves[i]? = some leaf ∧
      WrittenAsGiven shake256 (.ok leaf) (treeCall opts i w).form

/-- Where every leaf can be made, every index and amount fits its 64 bits. -/
def TreeInRange (ws : List Withdrawal) (opts : WithdrawalsTreeOptions) : Prop :=
  (∀ i w, ws[i]? = some w → ∃ f, (treeCall opts i w).form = .ok f) →
    ∀ i w, ws[i]? = some w → (treeCall opts i w).InRange

section
variable {shake256 : Bytes → Bytes} {ws : List Withdrawal} {opts : WithdrawalsTreeOptions}

theorem treeLeaf_eq_run (i : Nat) (w : Withdrawal) :
    treeLeaf shake256 opts i w = (treeCall opts i w).run shake256 := by
  unfold treeLeaf treeCall
  cases opts.version with
  | v1 => rfl
  | v2 => rfl

theorem treeCall_digest (i : Nat) (w : Withdrawal) : (treeCall opts i w).digest shake256 = shake256 := by
  unfold treeCall
  cases opts.version with
  | v1 => rfl
  | v2 => rfl

theorem treeLeaves_total {i : Nat}
    (each : ∀ j w, ws[j]? = some w → ∃ leaf, treeLeaf shake256 opts (i + j) w = .ok leaf) :
    ∃ leaves, treeLeaves shake256 opts i ws = .ok leaves := by
  induction ws generalizing i with
  | nil => exact ⟨[], rfl⟩
  | cons w rest ih =>
    obtain ⟨leaf, first⟩ := each 0 w rfl
    obtain ⟨leaves, tail⟩ := ih fun j v found => by
      have next := each (j + 1) v (by simpa using found)
      rwa [show i + (j + 1) = i + 1 + j by omega] at next
    exact ⟨leaf :: leaves, bind_ok_iff.mpr ⟨leaf, first, bind_ok_iff.mpr ⟨leaves, tail, rfl⟩⟩⟩

theorem treeWrittenAsGiven_iff :
    (∀ shake256, TreeWrittenAsGiven shake256 ws opts) ↔ TreeInRange ws opts := by
  constructor
  · intro asGiven readable i w found f read
    -- The messages themselves, under the digest that leaves them as they are.
    have each : ∀ j v, ws[j]? = some v → ∃ leaf, treeLeaf id opts (0 + j) v = .ok leaf := by
      intro j v inside
      obtain ⟨g, read⟩ := readable j v inside
      rw [Nat.zero_add, treeLeaf_eq_run]
      exact ⟨_, ((treeCall opts j v).writesLowBits id _).mpr ⟨g, read, rfl⟩⟩
    obtain ⟨leaves, made⟩ := treeLeaves_total each
    have nonempty : ¬ ws.length = 0 := by
      intro empty
      rw [List.length_eq_zero_iff.mp empty] at found
      cases found
    have tree : withdrawalsTree id ws opts = .ok ⟨_, leaves, _⟩ :=
      guard_ok_iff.mpr ⟨nonempty, bind_ok_iff.mpr ⟨leaves, made, rfl⟩⟩
    obtain ⟨leaf, place, carried⟩ := asGiven id _ tree i w found
    obtain ⟨inside, rfl⟩ := List.getElem?_eq_some_iff.mp found
    obtain ⟨leaf', place', run⟩ := (treeLeaves_ok id made).2 i inside
    obtain rfl : leaf' = leaf := Option.some.inj (place'.symm.trans place)
    rw [Nat.zero_add, treeLeaf_eq_run] at run
    obtain ⟨f', again, hashed⟩ := ((treeCall opts i ws[i]).writesLowBits id _).mp run
    obtain rfl : f = f' := Except.ok.inj (read.symm.trans again)
    obtain ⟨g, words, other, carries, same⟩ := carried _ rfl
    obtain rfl : f = g := Except.ok.inj (read.symm.trans other)
    rw [treeCall_digest] at hashed
    exact Form.inRange_iff_carried.mpr ⟨words, carries, same.trans hashed.symm⟩
  · intro inRange shake256 tree built i w found
    obtain ⟨-, made, -⟩ := withdrawalsTree_ok shake256 built
    have each := (treeLeaves_ok shake256 made).2
    have readable : ∀ j v, ws[j]? = some v → ∃ f, (treeCall opts j v).form = .ok f := by
      intro j v there
      obtain ⟨inside, rfl⟩ := List.getElem?_eq_some_iff.mp there
      obtain ⟨leaf, -, run⟩ := each j inside
      rw [Nat.zero_add, treeLeaf_eq_run] at run
      obtain ⟨f, read, -⟩ := ((treeCall opts j ws[j]).writesLowBits shake256 leaf).mp run
      exact ⟨f, read⟩
    have fits := inRange readable i w found
    obtain ⟨inside, rfl⟩ := List.getElem?_eq_some_iff.mp found
    obtain ⟨leaf, place, run⟩ := each i inside
    rw [Nat.zero_add, treeLeaf_eq_run] at run
    obtain ⟨f, read, hashed⟩ := ((treeCall opts i ws[i]).writesLowBits shake256 leaf).mp run
    rw [treeCall_digest] at hashed
    refine ⟨leaf, place, ?_⟩
    intro b same
    obtain rfl : leaf = b := Except.ok.inj same
    exact ⟨f, _, read, carries_map_iff.mpr (fits f read), hashed⟩

end

/-! ### The Python port -/

namespace Py

/-- `Numeric`: an integer or a text. -/
inductive Numeric where
  | int (n : Int)
  | str (s : String)
  deriving DecidableEq, Repr

structure WithdrawalLeafInput where
  rollupId : String
  withdrawalIndex : Numeric
  recipient : String
  denom : String
  amount : Numeric
  deriving DecidableEq, Repr

section
variable (readInt : String → Except JsError Int) (shake256 : Bytes → Bytes)

/-- `int(value)`. -/
def intOfNumeric : Numeric → Except JsError Int
  | .int n => .ok n
  | .str s => readInt s

def u64be (value : Numeric) : Except JsError Bytes := do packQ (← intOfNumeric readInt value)

/-- `struct.pack(">I", len(b)) + b`. -/
def lp (b : Bytes) : Except JsError Bytes :=
  if b.length < 2 ^ 32 then .ok (Coding.lengthPrefixed 4 b) else fail "argument out of range"

def withdrawalLeafV1 (w : WithdrawalLeafInput) : Except JsError Bytes := do
  let zero : Bytes := [0]
  return qorehash shake256
    [Js.encode w.rollupId, zero, ← u64be readInt w.withdrawalIndex, Js.encode w.recipient, zero, Js.encode w.denom,
      zero, ← u64be readInt w.amount]

def withdrawalLeafV2 (chainId : String) (w : WithdrawalLeafInput) : Except JsError Bytes :=
  if chainId = "" then fail "a v2 withdrawal leaf names the chain id; pass it" else do
    return qorehash shake256
      [← lp (Js.encode "qorechain-rdk-withdrawal/v2"), ← lp (Js.encode chainId), ← lp (Js.encode w.rollupId),
        ← u64be readInt w.withdrawalIndex, ← lp (Js.encode w.recipient), ← lp (Js.encode w.denom),
        ← u64be readInt w.amount]

/-- The two integers of a leaf, with the form that is theirs. -/
def leafForm (layout : Int → Int → Form) (w : WithdrawalLeafInput) : Except JsError Form := do
  let index ← intOfNumeric readInt w.withdrawalIndex
  let amount ← intOfNumeric readInt w.amount
  return layout index amount

end

section
variable {readInt : String → Except JsError Int} {shake256 : Bytes → Bytes} {b word : Bytes}

theorem u64be_carries {value : Numeric} (h : u64be readInt value = .ok word) :
    ∃ v, intOfNumeric readInt value = .ok v ∧ Carries word v := by
  obtain ⟨v, read, packed⟩ := bind_ok h
  unfold packQ at packed
  split at packed
  · rename_i range
    obtain rfl := Except.ok.inj packed
    exact ⟨v, read, carries_bigEndian_iff.mpr range⟩
  · cases packed

theorem lp_ok (h : lp b = .ok word) : Coding.lengthPrefixed 4 b = word := by
  unfold lp at h
  split at h
  · exact Except.ok.inj h
  · cases h

theorem leafForm_ok {layout : Int → Int → Form} {w : WithdrawalLeafInput} {index amount : Int}
    (first : intOfNumeric readInt w.withdrawalIndex = .ok index) (second : intOfNumeric readInt w.amount = .ok amount) :
    leafForm readInt layout w = .ok (layout index amount) :=
  bind_ok_iff.mpr ⟨index, first, bind_ok_iff.mpr ⟨amount, second, rfl⟩⟩

theorem withdrawalLeafV1_asGiven (w : WithdrawalLeafInput) :
    WrittenAsGiven shake256 (withdrawalLeafV1 readInt shake256 w)
      (leafForm readInt (leafFormV1 w.rollupId w.recipient w.denom) w) := by
  intro b h
  obtain ⟨index, first, h⟩ := bind_ok h
  obtain ⟨amount, second, h⟩ := bind_ok h
  obtain rfl := pure_ok_iff.mp h
  obtain ⟨i, readIndex, carriesIndex⟩ := u64be_carries first
  obtain ⟨a, readAmount, carriesAmount⟩ := u64be_carries second
  refine ⟨leafFormV1 w.rollupId w.recipient w.denom i a, [index, amount], leafForm_ok readIndex readAmount,
    .cons carriesIndex (.cons carriesAmount .nil), ?_⟩
  simp [qorehash, Form.message, leafFormV1, Coding.fill]

theorem withdrawalLeafV2_asGiven (chainId : String) (w : WithdrawalLeafInput) :
    WrittenAsGiven shake256 (withdrawalLeafV2 readInt shake256 chainId w)
      (leafForm readInt (leafFormV2 chainId w.rollupId w.recipient w.denom) w) := by
  intro b h
  obtain ⟨-, h⟩ := guard_ok_iff.mp h
  obtain ⟨tag, tagLp, h⟩ := bind_ok h
  obtain ⟨chain, chainLp, h⟩ := bind_ok h
  obtain ⟨rollup, rollupLp, h⟩ := bind_ok h
  obtain ⟨index, first, h⟩ := bind_ok h
  obtain ⟨recipient, recipientLp, h⟩ := bind_ok h
  obtain ⟨denom, denomLp, h⟩ := bind_ok h
  obtain ⟨amount, second, h⟩ := bind_ok h
  obtain rfl := pure_ok_iff.mp h
  obtain ⟨i, readIndex, carriesIndex⟩ := u64be_carries first
  obtain ⟨a, readAmount, carriesAmount⟩ := u64be_carries second
  refine ⟨leafFormV2 chainId w.rollupId w.recipient w.denom i a, [index, amount], leafForm_ok readIndex readAmount,
    .cons carriesIndex (.cons carriesAmount .nil), ?_⟩
  rw [← lp_ok tagLp, ← lp_ok chainLp, ← lp_ok rollupLp, ← lp_ok recipientLp, ← lp_ok denomLp]
  simp [qorehash, Form.message, leafFormV2, Coding.fill]

end
end Py

/-! ### Hashed as given or refused -/

/-- The integers of every call are carried exactly when they fit 64 bits, and then calls that differ in them
differ in what is hashed. A leaf of the Python port carries its integers always. -/
theorem counters_asGiven_iff_inRange (call : CounterCall) (ws : List Withdrawal) (opts : WithdrawalsTreeOptions) :
    ((∀ shake256, WrittenAsGiven (call.digest shake256) (call.run shake256) call.form) ↔ call.InRange) ∧
    ((∀ shake256, TreeWrittenAsGiven shake256 ws opts) ↔ TreeInRange ws opts) ∧
    (∀ (call' : CounterCall) (shake256 : Bytes → Bytes) (f g : Form) (b : Bytes),
      call.InRange → call'.InRange → call'.hashed = call.hashed → call.form = .ok f → call'.form = .ok g →
      g.parts = f.parts → call.run shake256 = .ok b → call'.run shake256 = .ok b →
      g.counters = f.counters ∨
        g.written ≠ f.written ∧ call.digest shake256 g.written = call.digest shake256 f.written) ∧
    (∀ readInt shake256 w, WrittenAsGiven shake256 (Py.withdrawalLeafV1 readInt shake256 w)
      (Py.leafForm readInt (leafFormV1 w.rollupId w.recipient w.denom) w)) ∧
    (∀ readInt shake256 chainId w, WrittenAsGiven shake256 (Py.withdrawalLeafV2 readInt shake256 chainId w)
      (Py.leafForm readInt (leafFormV2 chainId w.rollupId w.recipient w.denom) w)) := by
  refine ⟨call.asGiven_iff, treeWrittenAsGiven_iff, ?_,
    fun readInt shake256 w => Py.withdrawalLeafV1_asGiven w,
    fun readInt shake256 chainId w => Py.withdrawalLeafV2_asGiven chainId w⟩
  · intro call' shake256 f g b range range' kind read read' parts accepted accepted'
    have writes' := call'.writesLowBits shake256
    have same : call'.digest shake256 = call.digest shake256 := by
      unfold CounterCall.digest
      rw [kind]
    rw [same] at writes'
    exact counters_eq_or_collide (call.writesLowBits shake256) writes' accepted accepted' read read' parts
      (range f read) (range' g read')

/-- Two amounts that are `2^64` apart share one leaf, and one of them is in no eight bytes of it. -/
theorem withdrawalLeafV1_shared :
    (∀ shake256 : Bytes → Bytes,
      withdrawalLeafV1 shake256 ⟨"r1", 0, "qor1x", "uqor", .string "18446744073709551617"⟩ =
        withdrawalLeafV1 shake256 ⟨"r1", 0, "qor1x", "uqor", .string "1"⟩) ∧
    ¬ ∀ (call : CounterCall) (shake256 : Bytes → Bytes),
      WrittenAsGiven (call.digest shake256) (call.run shake256) call.form := by
  have huge : bigInt (.string "18446744073709551617") = .ok (2 ^ 64 + 1) := by decide +kernel
  have one : bigInt (.string "1") = .ok 1 := by decide +kernel
  constructor
  · intro shake256
    have word : u64be (.string "18446744073709551617") = u64be (.string "1") := by
      rw [u64be, u64be, huge, one]
      rfl
    unfold withdrawalLeafV1
    rw [word]
  · intro asGiven
    let w : WithdrawalLeafInput := ⟨"r1", 0, "qor1x", "uqor", .string "18446744073709551617"⟩
    have read : (CounterCall.withdrawalLeafV1 w).form = .ok (leafFormV1 "r1" "qor1x" "uqor" 0 (2 ^ 64 + 1)) :=
      bind_ok_iff.mpr ⟨_, huge, rfl⟩
    have range := (CounterCall.asGiven_iff _).mp (asGiven (.withdrawalLeafV1 w)) _ read
    have last := range (2 ^ 64 + 1) (by simp [leafFormV1])
    omega

end QorechainRdk
