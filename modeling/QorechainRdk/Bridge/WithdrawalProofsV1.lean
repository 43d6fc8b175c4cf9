import QorechainRdk.Bridge.WithdrawalProofs
import QorechainRdk.Lib.Utf16

/-!
# The v1 withdrawal leaf

A v1 leaf separates its texts by zero bytes, around integers of a fixed width. It is read back all the same
when no text has the zero character, and a verified leaf at the depth of the tree is then a withdrawal of it. The
texts are well-formed: of a surrogate that stands alone the leaf has the replacement character only.
-/

namespace QorechainRdk

open Js

/-- The string that `withdrawalLeafV1` hashes, for an amount already read as an integer. -/
def leafBytesV1 (w : WithdrawalLeafInput) (amount : Int) : Bytes :=
  Coding.terminated 0 (encode w.rollupId) ++ (Coding.bigEndian 8 w.withdrawalIndex ++
    (Coding.terminated 0 (encode w.recipient) ++ (Coding.terminated 0 (encode w.denom) ++
      Coding.bigEndian 8 amount)))

/-- No text has the zero character, and the amount fits its eight bytes. -/
structure NulFree (rollupId recipient denom : String) (amount : Int) : Prop where
  rollupId : '\x00' ∉ rollupId.toList
  recipient : '\x00' ∉ recipient.toList
  denom : '\x00' ∉ denom.toList
  amount : 0 ≤ amount ∧ amount < 2 ^ 64

section
variable {shake256 : Bytes → Bytes}

theorem withdrawalLeafV1_ok_iff {w : WithdrawalLeafInput} {leaf : Bytes} :
    withdrawalLeafV1 shake256 w = .ok leaf ↔
      ∃ amount, bigInt w.amount = .ok amount ∧ shake256 (leafBytesV1 w amount) = leaf := by
  have index : u64be (.bigint w.withdrawalIndex) = .ok (Coding.bigEndian 8 w.withdrawalIndex) :=
    u64be_ok_iff.mpr ⟨_, rfl, rfl⟩
  unfold withdrawalLeafV1
  dsimp only
  rw [index, ok_bind, bind_ok_iff]
  simp only [u64be_ok_iff, pure_ok_iff, and_assoc, ↓existsAndEq, true_and]
  simp [qorehash, leafBytesV1, Coding.terminated]

/-- An integer may hold zero bytes of its own: it is cut off by its width, the texts by their ends. -/
theorem leafBytesV1_inj {w w' : WithdrawalLeafInput} {amount amount' : Int}
    (nulFree : NulFree w.rollupId w.recipient w.denom amount)
    (nulFree' : NulFree w'.rollupId w'.recipient w'.denom amount')
    (h : leafBytesV1 w amount = leafBytesV1 w' amount') :
    w.rollupId = w'.rollupId ∧ w.withdrawalIndex % 2 ^ 64 = w'.withdrawalIndex % 2 ^ 64 ∧
      w.recipient = w'.recipient ∧ w.denom = w'.denom ∧ amount = amount' := by
  have text := Coding.terminated_selfDelimiting (0 : UInt8)
  obtain ⟨rollup, h⟩ :=
    text (zero_not_mem_encode nulFree.rollupId) (zero_not_mem_encode nulFree'.rollupId) h
  obtain ⟨index, h⟩ := List.append_inj h (by simp)
  obtain ⟨recipient, h⟩ :=
    text (zero_not_mem_encode nulFree.recipient) (zero_not_mem_encode nulFree'.recipient) h
  obtain ⟨denom, h⟩ := text (zero_not_mem_encode nulFree.denom) (zero_not_mem_encode nulFree'.denom) h
  have amounts := (Coding.bigEndian_selfDelimiting 8).inj nulFree.amount nulFree'.amount h
  exact ⟨encode_inj rollup, (Coding.bigEndian_eq_iff 8 _ _).mp index, encode_inj recipient,
    encode_inj denom, amounts⟩

def withdrawalLeafV1Hashed (w : WithdrawalLeafInput) : List Bytes :=
  match bigInt w.amount with
  | .ok amount => [leafBytesV1 w amount]
  | .error _ => []

/-- What is hashed while the tree is built, and while a leaf is made and its path verified. -/
def withdrawalsTreeV1Hashed (shake256 : Bytes → Bytes) (ws : List Withdrawal)
    (opts : WithdrawalsTreeOptions) (tree : WithdrawalsTree) : List Bytes :=
  (ws.zipIdx.flatMap fun (w, i) => withdrawalLeafV1Hashed (treeInput opts i w)) ++
    Merkle.rootLoopHashed (resolved shake256 CHAIN_TREE) tree.leaves

def withdrawalVerifyV1Hashed (shake256 : Bytes → Bytes) (w : WithdrawalLeafInput) (leaf : Bytes)
    (siblings : List Bytes) : List Bytes :=
  withdrawalLeafV1Hashed w ++ Merkle.verifyLoopHashed shake256 leaf w.withdrawalIndex siblings

theorem clog_of_least {n d : Nat} (enough : n ≤ 2 ^ d) (least : ∀ e, n ≤ 2 ^ e → d ≤ e) :
    d = Nat.clog 2 n :=
  Nat.le_antisymm (least _ (Nat.le_pow_clog (by decide) n)) (Nat.clog_le_of_le_pow enough)

section
variable {ws : List Withdrawal} {rollupId : String} {chainId : Option String} {tree : WithdrawalsTree}
  (built : withdrawalsTree shake256 ws { rollupId, version := .v1, chainId } = .ok tree)
include built

theorem treeV1_leaf {j : Nat} {leaf : Bytes} (found : tree.leaves[j]? = some leaf) :
    ∃ w amount, ws[j]? = some w ∧ bigInt w.amount = .ok amount ∧
      let input := treeInput { rollupId, version := .v1, chainId } j w
      shake256 (leafBytesV1 input amount) = leaf ∧
      leafBytesV1 input amount ∈ withdrawalsTreeV1Hashed shake256 ws
        { rollupId, version := .v1, chainId } tree := by
  obtain ⟨w, here, read⟩ := tree_leaf_read built found
  obtain ⟨amount, whole, hashed⟩ := withdrawalLeafV1_ok_iff.mp read
  refine ⟨w, amount, here, whole, hashed, ?_⟩
  apply List.mem_append_left
  refine List.mem_flatMap.mpr ⟨(w, j), List.mem_zipIdx_iff_getElem?.mpr here, ?_⟩
  have whole' : bigInt (treeInput { rollupId, version := .v1, chainId } j w).amount = .ok amount := whole
  simp [withdrawalLeafV1Hashed, whole']

theorem treeV1_leaves32 (digest : ∀ b, (shake256 b).length = 32) : ∀ l ∈ tree.leaves, l.length = 32 := by
  intro l member
  obtain ⟨j, inside, found⟩ := List.getElem_of_mem member
  obtain ⟨_, _, _, _, hashed, _⟩ := treeV1_leaf built (List.getElem?_eq_some_iff.mpr ⟨inside, found⟩)
  rw [← hashed]
  exact digest _

/-- At the depth of the tree, whatever verifies as a v1 leaf is a withdrawal of the tree, or two strings that
were hashed on the way collide. -/
theorem withdrawalLeafV1_sound (digest : ∀ b, (shake256 b).length = 32)
    (nulFree : ∀ w ∈ ws, ∀ amount, bigInt w.amount = .ok amount →
      NulFree rollupId w.recipient w.denom amount)
    {d : Nat} (enough : ws.length ≤ 2 ^ d) (least : ∀ e, ws.length ≤ 2 ^ e → d ≤ e)
    {w' : WithdrawalLeafInput} {leaf : Bytes} {siblings : List Bytes}
    (index' : 0 ≤ w'.withdrawalIndex ∧ w'.withdrawalIndex < 2 ^ 64)
    (nulFree' : ∀ amount, bigInt w'.amount = .ok amount →
      NulFree w'.rollupId w'.recipient w'.denom amount)
    (depth : siblings.length = d) (sibling32 : ∀ s ∈ siblings, s.length = 32)
    (claimed : withdrawalLeafV1 shake256 w' = .ok leaf)
    (verified : verifyBinaryMerkleProof shake256 leaf w'.withdrawalIndex siblings tree.root
      CHAIN_TREE = true) :
    (w'.rollupId = rollupId ∧
      ∃ (i : Nat) (inside : i < ws.length), w'.withdrawalIndex = i ∧
        w'.recipient = ws[i].recipient ∧ w'.denom = ws[i].denom ∧
        bigInt w'.amount = bigInt ws[i].amount) ∨
    Merkle.Collision shake256
      (withdrawalsTreeV1Hashed shake256 ws { rollupId, version := .v1, chainId } tree)
      (withdrawalVerifyV1Hashed shake256 w' leaf siblings) := by
  have full : siblings.length = Nat.clog 2 tree.leaves.length := by
    rw [depth, tree_leaves_length built]
    exact clog_of_least enough least
  rw [verify_chainTree] at verified
  obtain ⟨amount', whole', hashed'⟩ := withdrawalLeafV1_ok_iff.mp claimed
  have leaf32 : leaf.length = 32 := by
    rw [← hashed']
    exact digest _
  have inVerified : leafBytesV1 w' amount' ∈ withdrawalVerifyV1Hashed shake256 w' leaf siblings :=
    List.mem_append_left _ (by simp [withdrawalLeafV1Hashed, whole'])
  have root : Merkle.verifyLoop shake256 leaf w'.withdrawalIndex siblings =
      Merkle.rootLoop (resolved shake256 CHAIN_TREE) tree.leaves := by
    rw [verified, tree_root built]
  have sound := Merkle.verifyLoop_sound (chainTree_duplicate shake256) (chainTree_digest digest)
    (tree_leaves_ne_nil built) (treeV1_leaves32 built digest) leaf32 sibling32
    (by rw [chainTree_hash]; exact root)
  rw [chainTree_hash] at sound
  rcases sound with clash | ⟨-, member⟩ | ⟨short, -⟩ | ⟨long, -⟩
  · exact Or.inr (clash.mono (List.subset_append_right _ _) (List.subset_append_right _ _))
  · rcases leaf_at_index digest (treeV1_leaves32 built digest) index' leaf32 sibling32 full member root with
      clash | ⟨j, found, index⟩
    · exact Or.inr (clash.mono (List.subset_append_right _ _) (List.subset_append_right _ _))
    obtain ⟨w, amount, here, whole, hashed, inBuilt⟩ := treeV1_leaf built found
    obtain ⟨inside, rfl⟩ := List.getElem?_eq_some_iff.mp here
    by_cases equal : leafBytesV1 (treeInput { rollupId, version := .v1, chainId } j ws[j]) amount =
      leafBytesV1 w' amount'
    · obtain ⟨sameRollup, sameIndex, recipient, denom, sameAmount⟩ :=
        leafBytesV1_inj (nulFree _ (List.getElem_mem inside) _ whole) (nulFree' _ whole') equal
      refine Or.inl ⟨sameRollup.symm, j, inside, index sameIndex, recipient.symm, denom.symm, ?_⟩
      rw [whole', whole, sameAmount]
    · exact Or.inr ⟨_, inBuilt, _, inVerified, equal, hashed.trans hashed'.symm⟩
  · omega
  · omega

end
end

def sampleShakeV1 (b : Bytes) : Bytes :=
  if b = leafBytesV1 ⟨"r", 0, "a", "u", .number 5⟩ 5 then sampleDigest0
  else if b = leafBytesV1 sampleClaim 7 then sampleDigest1
  else if b = sampleDigest0 ++ sampleDigest1 then sampleRoot
  else List.replicate 32 0

theorem sampleShakeV1_length (b : Bytes) : (sampleShakeV1 b).length = 32 := by
  unfold sampleShakeV1
  split
  · decide
  · split
    · decide
    · split
      · decide
      · simp

def sampleTreeV1 : WithdrawalsTree where
  root := sampleRoot
  leaves := [sampleDigest0, sampleDigest1]
  proof := fun i => assembleWithdrawalProof sampleShakeV1 [sampleDigest0, sampleDigest1] i

theorem sampleTreeV1_built :
    withdrawalsTree sampleShakeV1 sampleWithdrawals ⟨"r", .v1, none⟩ = .ok sampleTreeV1 := by
  have leaves : treeLeaves sampleShakeV1 ⟨"r", .v1, none⟩ 0 sampleWithdrawals =
    .ok [sampleDigest0, sampleDigest1] := by decide
  have top : Merkle.nextLevel (resolved sampleShakeV1 CHAIN_TREE) [sampleDigest0, sampleDigest1] =
    [sampleRoot] := by decide
  have root : binaryMerkleRoot sampleShakeV1 [sampleDigest0, sampleDigest1] CHAIN_TREE = sampleRoot := by
    change Merkle.rootLoop (resolved sampleShakeV1 CHAIN_TREE) [sampleDigest0, sampleDigest1] = sampleRoot
    rw [Merkle.rootLoop, if_pos (by decide), top, Merkle.rootLoop, if_neg (by decide)]
    rfl
  rw [withdrawalsTree, if_neg (by decide), leaves, ok_bind, root]
  rfl

theorem withdrawalLeafV1_sound_sample :
    (sampleClaim.rollupId = "r" ∧ ∃ (i : Nat) (inside : i < sampleWithdrawals.length),
      sampleClaim.withdrawalIndex = i ∧ sampleClaim.recipient = sampleWithdrawals[i].recipient ∧
        sampleClaim.denom = sampleWithdrawals[i].denom ∧
        bigInt sampleClaim.amount = bigInt sampleWithdrawals[i].amount) ∨
      Merkle.Collision sampleShakeV1
        (withdrawalsTreeV1Hashed sampleShakeV1 sampleWithdrawals ⟨"r", .v1, none⟩ sampleTreeV1)
        (withdrawalVerifyV1Hashed sampleShakeV1 sampleClaim sampleDigest1 [sampleDigest0]) := by
  have claimed : withdrawalLeafV1 sampleShakeV1 sampleClaim = .ok sampleDigest1 := by decide
  have least : ∀ e, sampleWithdrawals.length ≤ 2 ^ e → 1 ≤ e := by
    intro e enough
    cases e with
    | zero => exact absurd enough (by decide)
    | succ e => omega
  refine withdrawalLeafV1_sound sampleTreeV1_built sampleShakeV1_length ?_ (Nat.le_refl 2) least
    (by decide) ?_ rfl (by simp [sampleDigest0]) claimed ?_
  · intro w member amount whole
    simp only [sampleWithdrawals, List.mem_cons, List.not_mem_nil, or_false] at member
    rcases member with rfl | rfl
    · obtain rfl : 5 = amount := Except.ok.inj whole
      exact ⟨by decide, by decide, by decide, by decide⟩
    · obtain rfl : 7 = amount := Except.ok.inj whole
      exact ⟨by decide, by decide, by decide, by decide⟩
  · intro amount whole
    obtain rfl : 7 = amount := Except.ok.inj whole
    exact ⟨by decide, by decide, by decide, by decide⟩
  · rw [verify_chainTree]
    decide

/-! ### Surrogates that stand alone -/

/-- What `te.encode` sees of a string of code units. -/
def seen (text : List UInt16) : String := String.ofList (Utf16.wellFormed '\uFFFD' text)

theorem seen_units (s : String) : seen (Utf16.units s.toList) = s := by
  rw [seen, Utf16.wellFormed_units, String.ofList_toList]

theorem encode_seen (text : List UInt16) : encode (seen text) = Utf16.encodeUtf8 [0xEF, 0xBF, 0xBD] text := by
  have replacement : String.utf8EncodeChar '\uFFFD' = [0xEF, 0xBF, 0xBD] := by decide
  rw [encode_eq_flatMap, seen, String.toList_ofList, ← replacement, Utf16.encodeUtf8_wellFormed]

structure UnitsWithdrawal where
  recipient : List UInt16
  denom : List UInt16
  amount : Integral
  deriving DecidableEq, Repr

structure UnitsLeafInput extends UnitsWithdrawal where
  rollupId : List UInt16
  withdrawalIndex : Int
  deriving DecidableEq, Repr

def UnitsWithdrawal.seen (w : UnitsWithdrawal) : Withdrawal where
  recipient := QorechainRdk.seen w.recipient
  denom := QorechainRdk.seen w.denom
  amount := w.amount

def UnitsLeafInput.seen (w : UnitsLeafInput) : WithdrawalLeafInput where
  rollupId := QorechainRdk.seen w.rollupId
  withdrawalIndex := w.withdrawalIndex
  recipient := QorechainRdk.seen w.recipient
  denom := QorechainRdk.seen w.denom
  amount := w.amount

/-- A withdrawal whose recipient is one high surrogate. -/
def surrogateWithdrawal : UnitsWithdrawal where
  recipient := [0xD800]
  denom := [0x75]
  amount := .number 5

/-- The same, but to the replacement character. -/
def replacedClaim : UnitsLeafInput where
  recipient := [0xFFFD]
  denom := [0x75]
  amount := .number 5
  rollupId := [0x72]
  withdrawalIndex := 0

theorem replaced_alike : replacedClaim.seen =
    treeInput ⟨seen [0x72], .v1, none⟩ 0 surrogateWithdrawal.seen := by
  have recipient : seen [0xFFFD] = seen [0xD800] := by decide
  rw [UnitsLeafInput.seen, show seen replacedClaim.recipient = seen [0xD800] from recipient]
  rfl

theorem oneLeafV1_built (shake256 : Bytes → Bytes) : ∃ tree,
    withdrawalsTree shake256 [surrogateWithdrawal.seen] ⟨seen [0x72], .v1, none⟩ = .ok tree ∧
      tree.leaves = [shake256 (leafBytesV1 replacedClaim.seen 5)] ∧
      tree.root = shake256 (leafBytesV1 replacedClaim.seen 5) := by
  have leaf : treeLeaf shake256 ⟨seen [0x72], .v1, none⟩ 0 surrogateWithdrawal.seen =
      .ok (shake256 (leafBytesV1 replacedClaim.seen 5)) := by
    rw [replaced_alike]
    exact withdrawalLeafV1_ok_iff.mpr ⟨5, rfl, rfl⟩
  have leaves : treeLeaves shake256 ⟨seen [0x72], .v1, none⟩ 0 [surrogateWithdrawal.seen] =
      .ok [shake256 (leafBytesV1 replacedClaim.seen 5)] := by
    rw [treeLeaves, leaf, ok_bind, treeLeaves, ok_bind]
    rfl
  have root : binaryMerkleRoot shake256 [shake256 (leafBytesV1 replacedClaim.seen 5)] CHAIN_TREE =
      shake256 (leafBytesV1 replacedClaim.seen 5) := by
    change Merkle.rootLoop (resolved shake256 CHAIN_TREE) [shake256 (leafBytesV1 replacedClaim.seen 5)] = _
    rw [Merkle.rootLoop, if_neg (by simp)]
    rfl
  rw [withdrawalsTree, if_neg (by decide), leaves, ok_bind]
  exact ⟨_, rfl, rfl, root⟩

/-- The claim to the replacement character verifies in the tree of the withdrawal to the surrogate. -/
theorem surrogate_verifies (shake256 : Bytes → Bytes) : ∃ tree leaf,
    withdrawalsTree shake256 [surrogateWithdrawal.seen] ⟨seen [0x72], .v1, none⟩ = .ok tree ∧
      withdrawalLeafV1 shake256 replacedClaim.seen = .ok leaf ∧
      verifyBinaryMerkleProof shake256 leaf 0 [] tree.root CHAIN_TREE = true ∧
      ¬ Merkle.Collision shake256
        (withdrawalsTreeV1Hashed shake256 [surrogateWithdrawal.seen] ⟨seen [0x72], .v1, none⟩ tree)
        (withdrawalVerifyV1Hashed shake256 replacedClaim.seen leaf []) := by
  obtain ⟨tree, built, leaves, root⟩ := oneLeafV1_built shake256
  refine ⟨tree, shake256 (leafBytesV1 replacedClaim.seen 5), built,
    withdrawalLeafV1_ok_iff.mpr ⟨5, rfl, rfl⟩, ?_, ?_⟩
  · rw [verify_chainTree, root]
    rfl
  · have treeHashed : withdrawalsTreeV1Hashed shake256 [surrogateWithdrawal.seen] ⟨seen [0x72], .v1, none⟩ tree =
        [leafBytesV1 replacedClaim.seen 5] := by
      rw [withdrawalsTreeV1Hashed, leaves, replaced_alike, Merkle.rootLoopHashed, if_neg (by simp)]
      rfl
    have claimHashed (leaf : Bytes) : withdrawalVerifyV1Hashed shake256 replacedClaim.seen leaf [] =
        [leafBytesV1 replacedClaim.seen 5] := rfl
    rw [treeHashed, claimHashed]
    rintro ⟨x, inTree, y, inClaim, different, -⟩
    rw [List.mem_singleton] at inTree inClaim
    exact different (inTree.trans inClaim.symm)

/-- Over strings of code units the leaf does not settle the recipient. -/
theorem surrogate_recipient_unsound :
    ¬ ∀ (shake256 : Bytes → Bytes) (ws : List UnitsWithdrawal) (rollupId : List UInt16) (tree : WithdrawalsTree)
        (d : Nat) (w' : UnitsLeafInput) (leaf : Bytes) (siblings : List Bytes),
      (∀ b, (shake256 b).length = 32) →
      withdrawalsTree shake256 (ws.map UnitsWithdrawal.seen) ⟨seen rollupId, .v1, none⟩ = .ok tree →
      (∀ w ∈ w'.toUnitsWithdrawal :: ws, (0 : UInt16) ∉ rollupId ++ w'.rollupId ++ w.recipient ++ w.denom ∧
        ∃ amount, bigInt w.amount = .ok amount ∧ 0 ≤ amount ∧ amount < 2 ^ 64) →
      ws.length ≤ 2 ^ d → (∀ e, ws.length ≤ 2 ^ e → d ≤ e) →
      0 ≤ w'.withdrawalIndex ∧ w'.withdrawalIndex < 2 ^ 64 →
      siblings.length = d → (∀ s ∈ siblings, s.length = 32) →
      withdrawalLeafV1 shake256 w'.seen = .ok leaf →
      verifyBinaryMerkleProof shake256 leaf w'.withdrawalIndex siblings tree.root CHAIN_TREE = true →
      (w'.rollupId = rollupId ∧ ∃ (i : Nat) (inside : i < ws.length), w'.withdrawalIndex = i ∧
        w'.recipient = ws[i].recipient ∧ w'.denom = ws[i].denom ∧ bigInt w'.amount = bigInt ws[i].amount) ∨
      Merkle.Collision shake256
        (withdrawalsTreeV1Hashed shake256 (ws.map UnitsWithdrawal.seen) ⟨seen rollupId, .v1, none⟩ tree)
        (withdrawalVerifyV1Hashed shake256 w'.seen leaf siblings) := by
  intro law
  obtain ⟨tree, leaf, built, claimed, verified, apart⟩ := surrogate_verifies fun _ => List.replicate 32 0
  have nulFree : ∀ w ∈ [replacedClaim.toUnitsWithdrawal, surrogateWithdrawal],
      (0 : UInt16) ∉ [0x72] ++ replacedClaim.rollupId ++ w.recipient ++ w.denom ∧
        ∃ amount, bigInt w.amount = .ok amount ∧ 0 ≤ amount ∧ amount < 2 ^ 64 := by
    intro w member
    simp only [List.mem_cons, List.not_mem_nil, or_false] at member
    rcases member with rfl | rfl
    · exact ⟨by decide, 5, rfl, by decide⟩
    · exact ⟨by decide, 5, rfl, by decide⟩
  rcases law _ [surrogateWithdrawal] [0x72] tree 0 replacedClaim leaf [] (by simp) built nulFree (by decide)
    (by omega) (by decide) rfl (by simp) claimed verified with ⟨-, i, inside, -, recipient, -⟩ | clash
  · obtain rfl : i = 0 := by simpa using inside
    cases recipient
  · exact apart clash

end QorechainRdk
