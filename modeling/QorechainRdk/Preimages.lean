import QorechainRdk.Bridge.WithdrawalProofsV1
import QorechainRdk.Receipts.SignBytes

/-!
# What is hashed and what is signed

The strings behind transition roots, withdrawal leaves and anchor signatures: one transition root, one batch,
and no string of one kind is of another.
-/

namespace QorechainRdk

open Js

/-! ### Transition roots -/

/-- The fields that a v2 transition root covers, as bytes. -/
structure TransitionFields where
  chainId : String
  rollupId : String
  prevStateRoot : Bytes
  dataHash : Bytes
  txCount : Int
  withdrawalsRoot : Bytes
  deriving DecidableEq, Repr

def TransitionFields.message (f : TransitionFields) : Bytes :=
  transitionMessage .v2 f.chainId f.rollupId f.prevStateRoot f.dataHash f.txCount f.withdrawalsRoot

structure TransitionFields.InRange (f : TransitionFields) : Prop where
  chainId : f.chainId.utf8ByteSize < 2 ^ 32
  rollupId : f.rollupId.utf8ByteSize < 2 ^ 32
  prevStateRoot : f.prevStateRoot.length < 2 ^ 32
  dataHash : f.dataHash.length < 2 ^ 32
  txCount : 0 ≤ f.txCount ∧ f.txCount < 2 ^ 64
  withdrawalsRoot : f.withdrawalsRoot.length < 2 ^ 32

/-- What an input says of the fields, its texts being there and its byte fields being read. -/
structure TransitionInput.Covers (i : TransitionInput) (f : TransitionFields) : Prop where
  chainId : i.chainId = some f.chainId
  rollupId : i.rollupId = some f.rollupId
  prevStateRoot : toBytes i.prevStateRoot = .ok f.prevStateRoot
  dataHash : bytesOf i.dataHash = .ok f.dataHash
  txCount : i.txCount = f.txCount
  withdrawalsRoot : bytesOf i.withdrawalsRoot = .ok f.withdrawalsRoot

theorem TransitionFields.message_inj {f g : TransitionFields} (hf : f.InRange) (hg : g.InRange)
    (same : f.message = g.message) : f = g := by
  have field := Coding.lengthPrefixed_selfDelimiting 4
  obtain ⟨-, rest⟩ := field (by decide) (by decide) same
  obtain ⟨chainId, rest⟩ := field hf.chainId hg.chainId rest
  obtain ⟨rollupId, rest⟩ := field hf.rollupId hg.rollupId rest
  obtain ⟨prevStateRoot, rest⟩ := field hf.prevStateRoot hg.prevStateRoot rest
  obtain ⟨dataHash, rest⟩ := field hf.dataHash hg.dataHash rest
  obtain ⟨txCount, rest⟩ := Coding.bigEndian_selfDelimiting 8 hf.txCount hg.txCount rest
  have withdrawalsRoot := field.inj hf.withdrawalsRoot hg.withdrawalsRoot rest
  have chain := encode_inj chainId
  have rollup := encode_inj rollupId
  cases f
  cases g
  simp_all

section
variable {shake256 : Bytes → Bytes} {i j : TransitionInput} {f g : TransitionFields} {root b : Bytes}

theorem TransitionInput.Covers.unique (first : i.Covers f) (second : i.Covers g) : f = g := by
  have chainId := first.chainId.symm.trans second.chainId
  have rollupId := first.rollupId.symm.trans second.rollupId
  have prevStateRoot := first.prevStateRoot.symm.trans second.prevStateRoot
  have dataHash := first.dataHash.symm.trans second.dataHash
  have txCount := first.txCount.symm.trans second.txCount
  have withdrawalsRoot := first.withdrawalsRoot.symm.trans second.withdrawalsRoot
  cases f
  cases g
  simp_all

theorem named_of_not_falsy {value : Option String} (h : falsy value = false) :
    ∃ s, value = some s ∧ s ≠ "" := by
  cases value with
  | none => cases h
  | some s => exact ⟨s, rfl, by simpa [falsy] using h⟩

theorem batchTransitionRootV2_ok_iff : batchTransitionRootV2 shake256 i = .ok root ↔
    ∃ f, i.Covers f ∧ f.chainId ≠ "" ∧ f.rollupId ≠ "" ∧
      (f.withdrawalsRoot.length = 0 ∨ f.withdrawalsRoot.length = 32) ∧ shake256 f.message = root := by
  have flat : ∀ f : TransitionFields, qorehash shake256
      (lp (encode "qorechain-rdk-transition/v2") ++ lp (encode f.chainId) ++ lp (encode f.rollupId) ++
        lp f.prevStateRoot ++ lp f.dataHash ++ [Coding.bigEndian 8 f.txCount] ++ lp f.withdrawalsRoot) =
      shake256 f.message := by
    intro f
    simp [qorehash, lp_flatten, TransitionFields.message, transitionMessage]
  unfold batchTransitionRootV2
  rw [guard_ok_iff]
  constructor
  · intro h
    obtain ⟨named, h⟩ := h
    simp only [Bool.or_eq_true, not_or, Bool.not_eq_true] at named
    obtain ⟨chainId, chain, chainNamed⟩ := named_of_not_falsy named.1
    obtain ⟨rollupId, rollup, rollupNamed⟩ := named_of_not_falsy named.2
    obtain ⟨withdrawalsRoot, wrRead, h⟩ := bind_ok h
    obtain ⟨width, h⟩ := guard_ok_iff.mp h
    obtain ⟨prev, prevRead, h⟩ := bind_ok h
    obtain ⟨dataHash, dataRead, h⟩ := bind_ok h
    rw [u64be_bigint, ok_bind, chain, rollup] at h
    have width' : withdrawalsRoot.length = 0 ∨ withdrawalsRoot.length = 32 := by omega
    refine ⟨⟨chainId, rollupId, prev, dataHash, i.txCount, withdrawalsRoot⟩,
      ⟨chain, rollup, prevRead, dataRead, rfl, wrRead⟩, chainNamed, rollupNamed, width', ?_⟩
    rw [← flat]
    exact pure_ok_iff.mp h
  · intro h
    obtain ⟨f, covers, chainNamed, rollupNamed, width, rfl⟩ := h
    have prevRead : bytesOf (some i.prevStateRoot) = .ok f.prevStateRoot := covers.prevStateRoot
    refine ⟨by simp [covers.chainId, covers.rollupId, falsy, chainNamed, rollupNamed], ?_⟩
    rw [covers.withdrawalsRoot, ok_bind, guard_ok_iff]
    refine ⟨by omega, ?_⟩
    rw [prevRead, ok_bind, covers.dataHash, ok_bind, u64be_bigint, ok_bind, covers.chainId, covers.rollupId,
      covers.txCount]
    exact pure_ok_iff.mpr (flat f)

/-- Two inputs of one root cover the same fields, or the strings that were hashed for them collide. -/
theorem batchTransitionRootV2_inj (rangeI : ∀ f, i.Covers f → f.InRange)
    (rangeJ : ∀ f, j.Covers f → f.InRange) (first : batchTransitionRootV2 shake256 i = .ok root)
    (second : batchTransitionRootV2 shake256 j = .ok root) :
    (∃ f, i.Covers f ∧ j.Covers f) ∨
      ∃ b c, batchTransitionRootV2 id i = .ok b ∧ batchTransitionRootV2 id j = .ok c ∧ b ≠ c ∧
        shake256 b = shake256 c := by
  obtain ⟨f, coversI, chainF, rollupF, widthF, hashedF⟩ := batchTransitionRootV2_ok_iff.mp first
  obtain ⟨g, coversJ, chainG, rollupG, widthG, hashedG⟩ := batchTransitionRootV2_ok_iff.mp second
  by_cases same : f.message = g.message
  · have equal := TransitionFields.message_inj (rangeI f coversI) (rangeJ g coversJ) same
    rw [← equal] at coversJ
    exact Or.inl ⟨f, coversI, coversJ⟩
  · refine Or.inr ⟨f.message, g.message, ?_, ?_, same, hashedF.trans hashedG.symm⟩
    · exact batchTransitionRootV2_ok_iff.mpr ⟨f, coversI, chainF, rollupF, widthF, rfl⟩
    · exact batchTransitionRootV2_ok_iff.mpr ⟨g, coversJ, chainG, rollupG, widthG, rfl⟩

/-! ### Kinds of strings

What a function hashes is what it gives when the hash gives its input back.
-/

def TransitionString (b : Bytes) : Prop := ∃ i, batchTransitionRootV2 id i = .ok b

def LeafStringV2 (b : Bytes) : Prop := ∃ chainId w, withdrawalLeafV2 id chainId w = .ok b

def LeafStringV1 (b : Bytes) : Prop :=
  ∃ w, w.rollupId ≠ "" ∧ '\x00' ∉ w.rollupId.toList ∧ withdrawalLeafV1 id w = .ok b

def AnchorString (b : Bytes) : Prop := ∃ i : Receipts.AnchorSignInput, i.signBytes = .ok b

theorem TransitionString.tagged (h : TransitionString b) :
    ∃ rest, b = Coding.lengthPrefixed 4 (encode "qorechain-rdk-transition/v2") ++ rest := by
  obtain ⟨i, h⟩ := h
  obtain ⟨f, -, -, -, -, rfl⟩ := batchTransitionRootV2_ok_iff.mp h
  exact ⟨_, rfl⟩

theorem LeafStringV2.tagged (h : LeafStringV2 b) :
    ∃ rest, b = Coding.lengthPrefixed 4 (encode "qorechain-rdk-withdrawal/v2") ++ rest := by
  obtain ⟨chainId, w, h⟩ := h
  obtain ⟨-, amount, -, rfl⟩ := (withdrawalLeafV2_ok_iff id).mp h
  exact ⟨_, rfl⟩

/-- A length of four bytes begins with a zero byte. -/
theorem TransitionString.head (h : TransitionString b) : b.head? = some 0 := by
  obtain ⟨rest, rfl⟩ := h.tagged
  rfl

theorem LeafStringV2.head (h : LeafStringV2 b) : b.head? = some 0 := by
  obtain ⟨rest, rfl⟩ := h.tagged
  rfl

theorem AnchorString.head (h : AnchorString b) : b.head? = some 113 := by
  obtain ⟨i, h⟩ := h
  obtain ⟨f, -, rfl⟩ := Receipts.signBytes_ok_iff.mp h
  rfl

theorem LeafStringV1.head (h : LeafStringV1 b) : b.head? ≠ some 0 := by
  obtain ⟨w, named, nulFree, h⟩ := h
  obtain ⟨amount, -, rfl⟩ := withdrawalLeafV1_ok_iff.mp h
  have clean := zero_not_mem_encode nulFree
  have length := encode_length_pos named
  cases text : encode w.rollupId with
  | nil =>
    rw [text] at length
    cases length
  | cons x rest =>
    rw [text] at clean
    unfold leafBytesV1 Coding.terminated
    rw [text]
    intro zero
    obtain rfl : x = 0 := Option.some.inj zero
    exact clean List.mem_cons_self

theorem not_transition_and_leaf : ¬ (TransitionString b ∧ LeafStringV2 b) := by
  intro h
  obtain ⟨rest, first⟩ := h.1.tagged
  obtain ⟨rest', second⟩ := h.2.tagged
  have tags := Coding.lengthPrefixed_selfDelimiting 4 (by decide) (by decide) (first.symm.trans second)
  exact absurd tags.1 (by decide)

end

/-- One transition root, one batch; and transition roots, withdrawal leaves and anchor messages are made from
strings of different kinds. -/
theorem hashed_strings_unambiguous (shake256 : Bytes → Bytes) :
    (∀ (i j : TransitionInput) (root : Bytes), (∀ f, i.Covers f → f.InRange) →
      (∀ f, j.Covers f → f.InRange) → batchTransitionRootV2 shake256 i = .ok root →
      batchTransitionRootV2 shake256 j = .ok root →
      (∃ f, i.Covers f ∧ j.Covers f) ∨
        ∃ b c, batchTransitionRootV2 id i = .ok b ∧ batchTransitionRootV2 id j = .ok c ∧ b ≠ c ∧
          shake256 b = shake256 c) ∧
    (∀ b, ¬ (TransitionString b ∧ LeafStringV2 b)) ∧ (∀ b, ¬ (TransitionString b ∧ AnchorString b)) ∧
    (∀ b, ¬ (LeafStringV2 b ∧ AnchorString b)) ∧ (∀ b, ¬ (LeafStringV1 b ∧ LeafStringV2 b)) ∧
    (∀ b, ¬ (LeafStringV1 b ∧ TransitionString b)) := by
  refine ⟨?_, ?_, ?_, ?_, ?_, ?_⟩
  · intro i j root rangeI rangeJ first second
    exact batchTransitionRootV2_inj rangeI rangeJ first second
  · intro b
    exact not_transition_and_leaf
  · intro b h
    have heads := h.1.head.symm.trans h.2.head
    cases heads
  · intro b h
    have heads := h.1.head.symm.trans h.2.head
    cases heads
  · intro b h
    exact h.1.head h.2.head
  · intro b h
    exact h.1.head h.2.head

def sampleTransition : TransitionInput where
  prevStateRoot := .hex "0x01"
  txCount := 3
  chainId := some "q"
  rollupId := some "r"

def respelledTransition : TransitionInput where
  prevStateRoot := .bytes [1]
  dataHash := some (.bytes [])
  txCount := 3
  chainId := some "q"
  rollupId := some "r"
  withdrawalsRoot := some (.hex "")

def sampleFields : TransitionFields := ⟨"q", "r", [1], [], 3, []⟩

theorem sampleFields_inRange : sampleFields.InRange :=
  ⟨by decide, by decide, by decide, by decide, by decide, by decide⟩

/-- One batch in two spellings. -/
theorem hashed_strings_unambiguous_sample : (∃ f, sampleTransition.Covers f ∧ respelledTransition.Covers f) ∨
    ∃ b c, batchTransitionRootV2 id sampleTransition = .ok b ∧
      batchTransitionRootV2 id respelledTransition = .ok c ∧ b ≠ c ∧ id b = id c := by
  have first : sampleTransition.Covers sampleFields := ⟨rfl, rfl, rfl, rfl, rfl, rfl⟩
  have second : respelledTransition.Covers sampleFields := ⟨rfl, rfl, rfl, rfl, rfl, rfl⟩
  refine (hashed_strings_unambiguous id).1 sampleTransition respelledTransition _ ?_ ?_ rfl rfl
  · intro f covers
    rw [covers.unique first]
    exact sampleFields_inRange
  · intro f covers
    rw [covers.unique second]
    exact sampleFields_inRange

end QorechainRdk
