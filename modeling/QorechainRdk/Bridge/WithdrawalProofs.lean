import QorechainRdk.Bridge.MerkleSoundness
import QorechainRdk.Bridge.Withdrawal
import QorechainRdk.Rules

/-!
# Withdrawal proofs are complete and sound

`binaryMerkleProof_complete`: every proof that is built verifies.
`withdrawalLeafV2_sound`: whatever verifies as a v2 leaf against a v2 tree is a withdrawal of the
tree, or two strings that were hashed on the way collide.
-/

namespace QorechainRdk

open Js

section
variable {shake256 : Bytes → Bytes}

/-! ### Completeness -/

theorem length_leafNodes (leaves : List Bytes) (opts : Merkle.Resolved) :
    (Merkle.leafNodes leaves opts).length = leaves.length := by
  unfold Merkle.leafNodes
  split <;> simp

theorem getElem_leafNodes (leaves : List Bytes) (opts : Merkle.Resolved) (i : Nat)
    (inside : i < leaves.length) (node : i < (Merkle.leafNodes leaves opts).length) :
    (Merkle.leafNodes leaves opts)[i] = if opts.hashLeaves then opts.hash leaves[i] else leaves[i] := by
  simp only [Merkle.leafNodes]
  split <;> simp

variable (shake256) in
theorem binaryMerkleProof_verifies (options : MerkleOptions)
    (duplicate : (resolved shake256 options).duplicateOdd = true) (leaves : List Bytes) (i : Nat)
    (inside : i < leaves.length) :
    ∃ p, binaryMerkleProof shake256 leaves i options = .ok p ∧
      p.root = binaryMerkleRoot shake256 leaves options ∧
      verifyBinaryMerkleProof shake256 leaves[i] i p.siblings p.root options = true ∧
      p.siblings.length = Nat.clog 2 leaves.length := by
  have range : ¬ ((i : Int) < 0 ∨ (i : Int) ≥ leaves.length) := by omega
  have some : leaves.length ≠ 0 := by omega
  have node : i < (Merkle.leafNodes leaves (resolved shake256 options)).length := by
    rwa [length_leafNodes]
  obtain ⟨path, collected, length, verified⟩ := Merkle.proofLoop_verifies duplicate _ i [] node
  have root := Merkle.proofLoop_root (resolved shake256 options)
    (Merkle.leafNodes leaves (resolved shake256 options)) i []
  rw [length_leafNodes] at length
  rw [getElem_leafNodes leaves _ i inside node] at verified
  refine ⟨⟨path, Merkle.rootLoop (resolved shake256 options)
    (Merkle.leafNodes leaves (resolved shake256 options)), i⟩, ?_, ?_, ?_, length⟩
  · rw [binaryMerkleProof, if_neg range]
    simp only [Int.toNat_natCast, collected, root, List.nil_append]
  · simp only [binaryMerkleRoot, if_neg some]
  · rw [verifyBinaryMerkleProof, sameBytes_iff]
    exact verified

theorem assembleWithdrawalProof_verifies {leaves : List Bytes} {j : Int} {w : WithdrawalProof}
    (h : assembleWithdrawalProof shake256 leaves j = .ok w) :
    ∃ leaf, leaves[j.toNat]? = some leaf ∧ 0 ≤ j ∧
      verifyBinaryMerkleProof shake256 leaf j w.proof
        (binaryMerkleRoot shake256 leaves CHAIN_TREE) CHAIN_TREE = true := by
  obtain ⟨p, proved, h⟩ := bind_ok h
  obtain rfl := pure_ok_iff.mp h
  have range : ¬ (j < 0 ∨ j ≥ leaves.length) := by
    intro out
    rw [binaryMerkleProof, if_pos out] at proved
    cases proved
  obtain ⟨i, rfl⟩ : ∃ i : Nat, j = i := ⟨j.toNat, by omega⟩
  have inside : i < leaves.length := by omega
  obtain ⟨q, again, root, verified, -⟩ :=
    binaryMerkleProof_verifies shake256 CHAIN_TREE rfl leaves i inside
  obtain rfl := Except.ok.inj (proved.symm.trans again)
  exact ⟨leaves[i], by simp [inside], by omega, by rwa [root] at verified⟩

theorem assembleWithdrawalProof_fields {leaves : List Bytes} {j : Int} {w : WithdrawalProof}
    (h : assembleWithdrawalProof shake256 leaves j = .ok w) :
    w.withdrawalIndex = j ∧ w.withdrawalsRoot = binaryMerkleRoot shake256 leaves CHAIN_TREE := by
  obtain ⟨p, proved, h⟩ := bind_ok h
  obtain rfl := pure_ok_iff.mp h
  refine ⟨rfl, ?_⟩
  unfold binaryMerkleProof at proved
  split at proved
  · cases proved
  · rename_i range
    obtain rfl := Except.ok.inj proved
    have some : leaves.length ≠ 0 := by omega
    simp only [Merkle.proofLoop_root, binaryMerkleRoot, if_neg some]

/-- Every index has a proof, it verifies against the root, and its length is the least that the
number of leaves allows; and so do the proofs of a withdrawals tree. -/
theorem binaryMerkleProof_complete (shake256 : Bytes → Bytes) (hash : Option (Bytes → Bytes))
    (hashLeaves : Option Bool) :
    (∀ (leaves : List Bytes) (i : Nat) (inside : i < leaves.length),
      let options : MerkleOptions := { hash, hashLeaves, duplicateOdd := some true }
      ∃ p, binaryMerkleProof shake256 leaves i options = .ok p ∧
        p.root = binaryMerkleRoot shake256 leaves options ∧
        verifyBinaryMerkleProof shake256 leaves[i] i p.siblings p.root options = true ∧
        leaves.length ≤ 2 ^ p.siblings.length ∧
        (∀ d, leaves.length ≤ 2 ^ d → p.siblings.length ≤ d) ∧
        (leaves.length ≤ 2 ^ 64 → p.siblings.length ≤ MAX_WITHDRAWAL_PROOF_DEPTH)) ∧
    (∀ ws opts tree (j : Int) w, withdrawalsTree shake256 ws opts = .ok tree → tree.proof j = .ok w →
      ∃ leaf, tree.leaves[j.toNat]? = some leaf ∧ 0 ≤ j ∧
        verifyBinaryMerkleProof shake256 leaf j w.proof tree.root CHAIN_TREE = true) := by
  constructor
  · intro leaves i inside
    obtain ⟨p, proved, root, verified, length⟩ := binaryMerkleProof_verifies shake256
      { hash, hashLeaves, duplicateOdd := some true } rfl leaves i inside
    have least : ∀ d, leaves.length ≤ 2 ^ d → p.siblings.length ≤ d := by
      intro d fits
      rw [length]
      exact Nat.clog_le_of_le_pow fits
    refine ⟨p, proved, root, verified, ?_, least, least 64⟩
    rw [length]
    exact Nat.le_pow_clog (by decide) _
  · intro ws opts tree j w built proved
    obtain ⟨-, -, root, proof⟩ := withdrawalsTree_ok shake256 built
    rw [proof] at proved
    rw [root]
    exact assembleWithdrawalProof_verifies proved

/-! ### Soundness -/

/-- The fields that are written behind a length, or in eight bytes, fit there. -/
structure Fits (chainId rollupId recipient denom : String) (amount : Int) : Prop where
  chainId : chainId.utf8ByteSize < 2 ^ 32
  rollupId : rollupId.utf8ByteSize < 2 ^ 32
  recipient : recipient.utf8ByteSize < 2 ^ 32
  denom : denom.utf8ByteSize < 2 ^ 32
  amount : 0 ≤ amount ∧ amount < 2 ^ 64

/-- The string of a leaf is read back field by field, the index modulo its eight bytes. -/
theorem leafBytesV2_inj {chainId chainId' : String} {w w' : WithdrawalLeafInput} {amount amount' : Int}
    (fits : Fits chainId w.rollupId w.recipient w.denom amount)
    (fits' : Fits chainId' w'.rollupId w'.recipient w'.denom amount')
    (h : leafBytesV2 chainId w amount = leafBytesV2 chainId' w' amount') :
    chainId = chainId' ∧ w.rollupId = w'.rollupId ∧
      w.withdrawalIndex % 2 ^ 64 = w'.withdrawalIndex % 2 ^ 64 ∧ w.recipient = w'.recipient ∧
      w.denom = w'.denom ∧ amount = amount' := by
  have field := Coding.lengthPrefixed_selfDelimiting 4
  obtain ⟨-, h⟩ := field (by decide) (by decide) h
  obtain ⟨chain, h⟩ := field fits.chainId fits'.chainId h
  obtain ⟨rollup, h⟩ := field fits.rollupId fits'.rollupId h
  obtain ⟨index, h⟩ := List.append_inj h (by simp)
  obtain ⟨recipient, h⟩ := field fits.recipient fits'.recipient h
  obtain ⟨denom, h⟩ := field fits.denom fits'.denom h
  obtain ⟨amount, -⟩ := Coding.bigEndian_selfDelimiting 8 fits.amount fits'.amount h
  exact ⟨encode_inj chain, encode_inj rollup, (Coding.bigEndian_eq_iff 8 _ _).mp index,
    encode_inj recipient, encode_inj denom, amount⟩

/-- A leaf of a named rollup on a named chain is hashed from more bytes than a node is. -/
theorem leafBytesV2_length {chainId : String} (w : WithdrawalLeafInput) (amount : Int)
    (chain : chainId ≠ "") (rollup : w.rollupId ≠ "") :
    64 < (leafBytesV2 chainId w amount).length := by
  have hc := encode_length_pos chain
  have hr := encode_length_pos rollup
  have tag : (encode "qorechain-rdk-withdrawal/v2").length = 27 := by decide
  simp only [leafBytesV2, List.length_append, Coding.length_lengthPrefixed, Coding.length_bigEndian,
    List.length_nil, tag]
  omega

def withdrawalLeafV2Hashed (chainId : String) (w : WithdrawalLeafInput) : List Bytes :=
  match bigInt w.amount with
  | .ok amount => [leafBytesV2 chainId w amount]
  | .error _ => []

def withdrawalsTreeHashed (shake256 : Bytes → Bytes) (ws : List Withdrawal)
    (opts : WithdrawalsTreeOptions) (tree : WithdrawalsTree) : List Bytes :=
  (ws.zipIdx.flatMap fun (w, i) => withdrawalLeafV2Hashed (opts.chainId.getD "") (treeInput opts i w)) ++
    Merkle.rootLoopHashed (resolved shake256 CHAIN_TREE) tree.leaves

def withdrawalVerifyHashed (shake256 : Bytes → Bytes) (chainId : String) (w : WithdrawalLeafInput)
    (leaf : Bytes) (siblings : List Bytes) : List Bytes :=
  withdrawalLeafV2Hashed chainId w ++ Merkle.verifyLoopHashed shake256 leaf w.withdrawalIndex siblings

theorem chainTree_hash : (resolved shake256 CHAIN_TREE).hash = shake256 := by
  funext b
  simp [resolved, CHAIN_TREE, qorehash]

theorem chainTree_duplicate (shake256 : Bytes → Bytes) :
    (resolved shake256 CHAIN_TREE).duplicateOdd = true := rfl

theorem chainTree_digest (digest : ∀ b, (shake256 b).length = 32) (b : Bytes) :
    ((resolved shake256 CHAIN_TREE).hash b).length = 32 := by
  rw [chainTree_hash]
  exact digest b

theorem verify_chainTree {leaf root : Bytes} {idx : Int} {siblings : List Bytes} :
    verifyBinaryMerkleProof shake256 leaf idx siblings root CHAIN_TREE = true ↔
      Merkle.verifyLoop shake256 leaf idx siblings = root := by
  rw [verifyBinaryMerkleProof, sameBytes_iff, chainTree_hash]
  rfl

section
variable {ws : List Withdrawal} {opts : WithdrawalsTreeOptions} {tree : WithdrawalsTree}
  (built : withdrawalsTree shake256 ws opts = .ok tree)
include built

theorem tree_leaves_length : tree.leaves.length = ws.length :=
  (treeLeaves_ok shake256 (withdrawalsTree_ok shake256 built).2.1).1

theorem tree_leaf_read {j : Nat} {leaf : Bytes} (found : tree.leaves[j]? = some leaf) :
    ∃ w, ws[j]? = some w ∧ treeLeaf shake256 opts j w = .ok leaf := by
  obtain ⟨length, each⟩ := treeLeaves_ok shake256 (withdrawalsTree_ok shake256 built).2.1
  have inside : j < ws.length := by
    rw [← length]
    exact (List.getElem?_eq_some_iff.mp found).1
  obtain ⟨leaf', found', read⟩ := each j inside
  obtain rfl : leaf = leaf' := Option.some.inj (found.symm.trans found')
  rw [Nat.zero_add] at read
  exact ⟨ws[j], List.getElem?_eq_getElem inside, read⟩

theorem tree_root : tree.root =
    Merkle.rootLoop (resolved shake256 CHAIN_TREE) tree.leaves := by
  obtain ⟨some, read, root, -⟩ := withdrawalsTree_ok shake256 built
  have length := (treeLeaves_ok shake256 read).1
  rw [root, binaryMerkleRoot, if_neg (by rw [length]; exact fun none => some (List.length_eq_zero_iff.mp none))]
  rfl

theorem tree_leaves_ne_nil : tree.leaves ≠ [] := by
  have some := (withdrawalsTree_ok shake256 built).1
  apply List.ne_nil_of_length_pos
  rw [tree_leaves_length built]
  exact List.length_pos_iff.mpr some

end

/-- A verified leaf of full depth sits at a position of the tree, and at the claimed one when the
eight bytes of the two indices agree. -/
theorem leaf_at_index (digest : ∀ b, (shake256 b).length = 32) {leaves : List Bytes}
    (leaves32 : ∀ l ∈ leaves, l.length = 32) {leaf : Bytes} {idx : Int}
    {siblings : List Bytes} (index : 0 ≤ idx ∧ idx < 2 ^ 64) (leaf32 : leaf.length = 32)
    (sibling32 : ∀ s ∈ siblings, s.length = 32)
    (full : siblings.length = Nat.clog 2 leaves.length) (member : leaf ∈ leaves)
    (h : Merkle.verifyLoop shake256 leaf idx siblings =
      Merkle.rootLoop (resolved shake256 CHAIN_TREE) leaves) :
    Merkle.Collision shake256 (Merkle.rootLoopHashed (resolved shake256 CHAIN_TREE) leaves)
        (Merkle.verifyLoopHashed shake256 leaf idx siblings) ∨
      ∃ j : Nat, leaves[j]? = some leaf ∧ ((j : Int) % 2 ^ 64 = idx % 2 ^ 64 → idx = j) := by
  by_cases small : leaves.length ≤ 2 ^ 64
  · obtain ⟨j, inside, found⟩ := List.getElem_of_mem member
    refine Or.inr ⟨j, by rw [← found]; exact List.getElem?_eq_getElem inside, ?_⟩
    intro same
    have jSmall : (j : Int) < 2 ^ 64 := by
      have : j < 2 ^ 64 := by omega
      exact_mod_cast this
    rw [Int.emod_eq_of_lt (by omega) jSmall, Int.emod_eq_of_lt index.1 index.2] at same
    exact same.symm
  · obtain ⟨i, rfl⟩ : ∃ i : Nat, idx = i := ⟨idx.toNat, by omega⟩
    have inside : i < leaves.length := by
      have : i < 2 ^ 64 := by exact_mod_cast index.2
      omega
    have placed := Merkle.verifyLoop_at (chainTree_duplicate shake256) (chainTree_digest digest)
      leaves32 leaf32 sibling32 full inside (by rw [chainTree_hash, h])
    rw [chainTree_hash] at placed
    rcases placed with clash | found
    · exact Or.inl clash
    · exact Or.inr ⟨i, found, fun _ => rfl⟩

section
variable {ws : List Withdrawal} {rollupId chainId : String} {tree : WithdrawalsTree}
  (built : withdrawalsTree shake256 ws { rollupId, version := .v2, chainId := some chainId } = .ok tree)
include built

theorem tree_leaf {j : Nat} {leaf : Bytes} (found : tree.leaves[j]? = some leaf) :
    ∃ w amount, ws[j]? = some w ∧ bigInt w.amount = .ok amount ∧ chainId ≠ "" ∧
      let input := treeInput { rollupId, version := .v2, chainId := some chainId } j w
      shake256 (leafBytesV2 chainId input amount) = leaf ∧
      leafBytesV2 chainId input amount ∈ withdrawalsTreeHashed shake256 ws
        { rollupId, version := .v2, chainId := some chainId } tree := by
  obtain ⟨w, here, read⟩ := tree_leaf_read built found
  obtain ⟨chain, amount, whole, hashed⟩ := (withdrawalLeafV2_ok_iff shake256).mp read
  refine ⟨w, amount, here, whole, chain, hashed, ?_⟩
  apply List.mem_append_left
  refine List.mem_flatMap.mpr ⟨(w, j), List.mem_zipIdx_iff_getElem?.mpr here, ?_⟩
  have whole' : bigInt (treeInput { rollupId, version := .v2, chainId := some chainId } j w).amount =
    .ok amount := whole
  simp [withdrawalLeafV2Hashed, whole']

theorem tree_leaves32 (digest : ∀ b, (shake256 b).length = 32) : ∀ l ∈ tree.leaves, l.length = 32 := by
  intro l member
  obtain ⟨j, inside, found⟩ := List.getElem_of_mem member
  obtain ⟨_, _, _, _, _, hashed, _⟩ := tree_leaf built (List.getElem?_eq_some_iff.mpr ⟨inside, found⟩)
  rw [← hashed]
  exact digest _

theorem withdrawalLeafV2_sound (digest : ∀ b, (shake256 b).length = 32) (named : rollupId ≠ "")
    (fits : ∀ w ∈ ws, ∀ amount, bigInt w.amount = .ok amount →
      Fits chainId rollupId w.recipient w.denom amount)
    {chainId' : String} {w' : WithdrawalLeafInput} {leaf : Bytes} {siblings : List Bytes}
    (named' : w'.rollupId ≠ "") (index' : 0 ≤ w'.withdrawalIndex ∧ w'.withdrawalIndex < 2 ^ 64)
    (fits' : ∀ amount, bigInt w'.amount = .ok amount →
      Fits chainId' w'.rollupId w'.recipient w'.denom amount)
    (sibling32 : ∀ s ∈ siblings, s.length = 32)
    (claimed : withdrawalLeafV2 shake256 chainId' w' = .ok leaf)
    (verified : verifyBinaryMerkleProof shake256 leaf w'.withdrawalIndex siblings tree.root
      CHAIN_TREE = true) :
    (chainId' = chainId ∧ w'.rollupId = rollupId ∧
      ∃ (i : Nat) (inside : i < ws.length), w'.withdrawalIndex = i ∧
        w'.recipient = ws[i].recipient ∧ w'.denom = ws[i].denom ∧
        bigInt w'.amount = bigInt ws[i].amount) ∨
    Merkle.Collision shake256
      (withdrawalsTreeHashed shake256 ws { rollupId, version := .v2, chainId := some chainId } tree)
      (withdrawalVerifyHashed shake256 chainId' w' leaf siblings) := by
  rw [verify_chainTree] at verified
  obtain ⟨chain', amount', whole', hashed'⟩ := (withdrawalLeafV2_ok_iff shake256).mp claimed
  have leaf32 : leaf.length = 32 := by rw [← hashed']; exact digest _
  have long' := leafBytesV2_length w' amount' chain' named'
  have inVerified : leafBytesV2 chainId' w' amount' ∈
      withdrawalVerifyHashed shake256 chainId' w' leaf siblings :=
    List.mem_append_left _ (by simp [withdrawalLeafV2Hashed, whole'])
  have root : Merkle.verifyLoop (resolved shake256 CHAIN_TREE).hash leaf w'.withdrawalIndex siblings =
      Merkle.rootLoop (resolved shake256 CHAIN_TREE) tree.leaves := by
    rw [chainTree_hash, verified, tree_root built]
  have sound := Merkle.verifyLoop_sound (chainTree_duplicate shake256) (chainTree_digest digest)
    (tree_leaves_ne_nil built) (tree_leaves32 built digest) leaf32 sibling32 root
  rw [chainTree_hash] at sound
  rcases sound with
    clash | ⟨full, member⟩ | ⟨-, s, inBuilt, short, same⟩ | ⟨-, s, inPath, short, member⟩
  · exact Or.inr (clash.mono (List.subset_append_right _ _) (List.subset_append_right _ _))
  · rcases leaf_at_index digest (tree_leaves32 built digest) index' leaf32 sibling32 full member
      (by rw [verified, tree_root built]) with clash | ⟨j, found, index⟩
    · exact Or.inr (clash.mono (List.subset_append_right _ _) (List.subset_append_right _ _))
    obtain ⟨w, amount, here, whole, chain, hashed, inBuilt⟩ := tree_leaf built found
    obtain ⟨inside, rfl⟩ := List.getElem?_eq_some_iff.mp here
    by_cases equal : leafBytesV2 chainId
        (treeInput { rollupId, version := .v2, chainId := some chainId } j ws[j]) amount =
      leafBytesV2 chainId' w' amount'
    · obtain ⟨sameChain, sameRollup, sameIndex, recipient, denom, sameAmount⟩ :=
        leafBytesV2_inj (fits _ (List.getElem_mem inside) _ whole) (fits' _ whole') equal
      refine Or.inl ⟨sameChain.symm, sameRollup.symm, j, inside, index sameIndex, recipient.symm,
        denom.symm, ?_⟩
      rw [whole', whole, sameAmount]
    · exact Or.inr ⟨_, inBuilt, _, inVerified, equal, hashed.trans hashed'.symm⟩
  · -- The leaf poses as an inner node of the tree.
    refine Or.inr ⟨s, List.mem_append_right _ inBuilt, _, inVerified, ?_, same.trans hashed'.symm⟩
    rintro rfl
    omega
  · -- An inner node of the path poses as a leaf of the tree.
    obtain ⟨j, inside, found⟩ := List.getElem_of_mem member
    obtain ⟨w, amount, here, whole, chain, hashed, inBuilt⟩ :=
      tree_leaf built (List.getElem?_eq_some_iff.mpr ⟨inside, found⟩)
    have long := leafBytesV2_length
      (treeInput { rollupId, version := .v2, chainId := some chainId } j w) amount chain named
    refine Or.inr ⟨_, inBuilt, s, List.mem_append_right _ inPath, ?_, hashed⟩
    intro equal
    rw [equal] at long
    omega

end

end

def sampleWithdrawals : List Withdrawal := [⟨"a", "u", .number 5⟩, ⟨"b", "u", .string "7"⟩]

def sampleClaim : WithdrawalLeafInput := ⟨"r", 1, "b", "u", .bigint 7⟩

def sampleDigest0 : Bytes :=
  [78, 51, 81, 36, 135, 231, 156, 25, 183, 112, 30, 16, 62, 229, 28, 207, 127, 111, 216, 116, 162, 20,
    97, 32, 117, 34, 111, 120, 191, 147, 219, 206]

def sampleDigest1 : Bytes :=
  [19, 115, 213, 108, 17, 168, 143, 192, 85, 25, 236, 4, 144, 207, 118, 134, 245, 30, 22, 128, 79, 182,
    127, 50, 161, 40, 153, 64, 48, 161, 239, 187]

def sampleRoot : Bytes :=
  [69, 39, 62, 255, 105, 216, 211, 219, 236, 39, 161, 72, 35, 42, 173, 227, 181, 59, 108, 4, 173, 147,
    120, 114, 109, 14, 251, 32, 123, 87, 166, 47]

def sampleShake256 (b : Bytes) : Bytes :=
  if b = leafBytesV2 "q" ⟨"r", 0, "a", "u", .number 5⟩ 5 then sampleDigest0
  else if b = leafBytesV2 "q" sampleClaim 7 then sampleDigest1
  else if b = sampleDigest0 ++ sampleDigest1 then sampleRoot
  else List.replicate 32 0

theorem sampleShake256_length (b : Bytes) : (sampleShake256 b).length = 32 := by
  unfold sampleShake256
  split
  · decide
  · split
    · decide
    · split
      · decide
      · simp

def sampleTree : WithdrawalsTree where
  root := sampleRoot
  leaves := [sampleDigest0, sampleDigest1]
  proof := fun i => assembleWithdrawalProof sampleShake256 [sampleDigest0, sampleDigest1] i

theorem sampleTree_built :
    withdrawalsTree sampleShake256 sampleWithdrawals ⟨"r", .v2, some "q"⟩ = .ok sampleTree := by
  have leaves : treeLeaves sampleShake256 ⟨"r", .v2, some "q"⟩ 0 sampleWithdrawals =
    .ok [sampleDigest0, sampleDigest1] := by decide
  have top : Merkle.nextLevel (resolved sampleShake256 CHAIN_TREE) [sampleDigest0, sampleDigest1] =
    [sampleRoot] := by decide
  have root : binaryMerkleRoot sampleShake256 [sampleDigest0, sampleDigest1] CHAIN_TREE = sampleRoot := by
    change Merkle.rootLoop (resolved sampleShake256 CHAIN_TREE) [sampleDigest0, sampleDigest1] = sampleRoot
    rw [Merkle.rootLoop, if_pos (by decide), top, Merkle.rootLoop, if_neg (by decide)]
    rfl
  rw [withdrawalsTree, if_neg (by decide), leaves, ok_bind, root]
  rfl

theorem withdrawalLeafV2_sound_sample :
    ("q" = "q" ∧ sampleClaim.rollupId = "r" ∧ ∃ (i : Nat) (inside : i < sampleWithdrawals.length),
      sampleClaim.withdrawalIndex = i ∧ sampleClaim.recipient = sampleWithdrawals[i].recipient ∧
        sampleClaim.denom = sampleWithdrawals[i].denom ∧
        bigInt sampleClaim.amount = bigInt sampleWithdrawals[i].amount) ∨
      Merkle.Collision sampleShake256
        (withdrawalsTreeHashed sampleShake256 sampleWithdrawals ⟨"r", .v2, some "q"⟩ sampleTree)
        (withdrawalVerifyHashed sampleShake256 "q" sampleClaim sampleDigest1 [sampleDigest0]) := by
  have claimed : withdrawalLeafV2 sampleShake256 "q" sampleClaim = .ok sampleDigest1 := by decide
  refine withdrawalLeafV2_sound sampleTree_built sampleShake256_length (by decide) ?_ (by decide)
    (by decide) ?_ (by simp [sampleDigest0]) claimed ?_
  · intro w member amount whole
    simp only [sampleWithdrawals, List.mem_cons, List.not_mem_nil, or_false] at member
    rcases member with rfl | rfl
    · obtain rfl : 5 = amount := Except.ok.inj whole
      exact ⟨by decide, by decide, by decide, by decide, by decide⟩
    · obtain rfl : 7 = amount := Except.ok.inj whole
      exact ⟨by decide, by decide, by decide, by decide, by decide⟩
  · intro amount whole
    obtain rfl : 7 = amount := Except.ok.inj whole
    exact ⟨by decide, by decide, by decide, by decide, by decide⟩
  · rw [verify_chainTree]
    decide

end QorechainRdk
