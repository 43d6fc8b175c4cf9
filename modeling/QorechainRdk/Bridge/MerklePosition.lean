import QorechainRdk.Bridge.WithdrawalProofs

/-!
# What a verified index says

The verifier takes as many bits of the index as there are siblings and is not told how many leaves there
are. A proof of the tree's depth verifies at the leaf that these bits lead to.
-/

namespace QorechainRdk

section
variable {shake256 hash : Bytes → Bytes} {leaves siblings : List Bytes} {leaf : Bytes} {index : Nat}

/-- The strings that are hashed for the root, and those that are hashed for a proof. -/
def rootHashed (hash : Bytes → Bytes) (leaves : List Bytes) : List Bytes :=
  leaves ++ Merkle.rootLoopHashed ⟨hash, true, true⟩ (leaves.map hash)

def proofHashed (hash : Bytes → Bytes) (leaf : Bytes) (index : Int) (siblings : List Bytes) : List Bytes :=
  leaf :: Merkle.verifyLoopHashed hash (hash leaf) index siblings

/-- A verified leaf is the one where the bits of the index lead, which is the index itself if it is one
of the tree's, unless two strings that were hashed collide. -/
theorem verified_leaf_lands (digest : ∀ b, (hash b).length = 32) (given : leaves ≠ [])
    (full : siblings.length = Nat.clog 2 leaves.length) (sibling32 : ∀ s ∈ siblings, s.length = 32)
    (verified : verifyBinaryMerkleProof shake256 leaf index siblings
      (binaryMerkleRoot shake256 leaves { hash }) { hash } = true) :
    (leaves[PairTree.landing leaves.length index]? = some leaf ∧
        (index < leaves.length → PairTree.landing leaves.length index = index)) ∨
      Merkle.Collision hash (rootHashed hash leaves) (proofHashed hash leaf index siblings) := by
  have some : leaves.length ≠ 0 := mt List.length_eq_zero_iff.mp given
  rw [verifyBinaryMerkleProof, sameBytes_iff, binaryMerkleRoot, if_neg some] at verified
  change Merkle.verifyLoop hash (hash leaf) index siblings =
    Merkle.rootLoop ⟨hash, true, true⟩ (leaves.map hash) at verified
  have nodes : ∀ node ∈ leaves.map hash, node.length = 32 := by
    intro node member
    obtain ⟨l, -, rfl⟩ := List.mem_map.mp member
    exact digest l
  have above : leaves.map hash ≠ [] := mt List.map_eq_nil_iff.mp given
  have depth : siblings.length = Nat.clog 2 (leaves.map hash).length := by rwa [List.length_map]
  have lands := @Merkle.verifyLoop_landing ⟨hash, true, true⟩
  rcases lands rfl digest nodes (digest leaf) sibling32 depth above verified with clash | found
  · exact Or.inr (clash.mono (List.subset_append_right _ _) (List.subset_cons_self _ _))
  · rw [List.length_map, List.getElem?_map, Option.map_eq_some_iff] at found
    obtain ⟨held, at_landing, same⟩ := found
    by_cases equal : held = leaf
    · rw [← equal]
      exact Or.inl ⟨at_landing, PairTree.landing_of_lt⟩
    · exact Or.inr ⟨held, List.mem_append_left _ (List.mem_of_getElem? at_landing), leaf, List.mem_cons_self,
        equal, same⟩

end

/-- A hash that keeps the first 32 bytes. -/
def firstBytes (b : Bytes) : Bytes := (b ++ List.replicate 32 0).take 32

theorem firstBytes_length (b : Bytes) : (firstBytes b).length = 32 := by
  simp [firstBytes]

theorem only_leaf_verifies (index : Nat) : verifyBinaryMerkleProof id [7] index []
    (binaryMerkleRoot id [[7]] { hash := firstBytes }) { hash := firstBytes } = true := by
  rw [verifyBinaryMerkleProof, sameBytes_iff]
  show firstBytes [7] = Merkle.rootLoop ⟨firstBytes, true, true⟩ [firstBytes [7]]
  rw [Merkle.rootLoop]
  rfl

/-- A checksum in the first of 32 bytes. -/
def checkByte (b : Bytes) : Bytes := b.foldl (fun sum x => 31 * sum + x) 7 :: List.replicate 31 0

def threeLeaves : List Bytes := [[7], [8], [9]]

/-- The path of the place after the last leaf, which holds that leaf again. -/
def lastSiblings : List Bytes := [checkByte [9], checkByte (checkByte [7] ++ checkByte [8])]

theorem last_leaf_verifies : verifyBinaryMerkleProof id [9] (7 : Nat) lastSiblings
    (binaryMerkleRoot id threeLeaves { hash := checkByte }) { hash := checkByte } = true := by
  let left := checkByte (checkByte [7] ++ checkByte [8])
  let right := checkByte (checkByte [9] ++ checkByte [9])
  have middle : Merkle.nextLevel ⟨checkByte, true, true⟩ (threeLeaves.map checkByte) = [left, right] := rfl
  have top : Merkle.nextLevel ⟨checkByte, true, true⟩ [left, right] = [checkByte (left ++ right)] := rfl
  have root : Merkle.rootLoop ⟨checkByte, true, true⟩ (threeLeaves.map checkByte) = checkByte (left ++ right) := by
    rw [Merkle.rootLoop, if_pos (by simp [threeLeaves]), middle, Merkle.rootLoop, if_pos (by simp), top,
      Merkle.rootLoop, if_neg (by simp)]
    rfl
  rw [verifyBinaryMerkleProof, sameBytes_iff]
  exact root.symm

/-- Index 7 has the bits of place 3, where the third of three leaves stands again. -/
theorem verified_leaf_lands_sample :
    (threeLeaves[PairTree.landing 3 7]? = some [9] ∧ (7 < 3 → PairTree.landing 3 7 = 7)) ∨
      Merkle.Collision checkByte (rootHashed checkByte threeLeaves)
        (proofHashed checkByte [9] (7 : Nat) lastSiblings) :=
  @verified_leaf_lands id checkByte threeLeaves lastSiblings [9] 7 (fun b => by simp [checkByte]) (by decide)
    (by decide) (by simp [lastSiblings, checkByte]) last_leaf_verifies

/-- The only leaf of a tree verifies at every index. -/
theorem index_not_bound : ¬ ∀ (hash : Bytes → Bytes) (leaves siblings : List Bytes) (leaf : Bytes) (index : Nat),
    (∀ b, (hash b).length = 32) → leaves ≠ [] → siblings.length = Nat.clog 2 leaves.length →
    (∀ s ∈ siblings, s.length = 32) →
    verifyBinaryMerkleProof id leaf index siblings (binaryMerkleRoot id leaves { hash }) { hash } = true →
    (index < leaves.length ∧ leaves[index]? = some leaf) ∨
      Merkle.Collision hash (rootHashed hash leaves) (proofHashed hash leaf index siblings) := by
  intro binds
  rcases binds firstBytes [[7]] [] [7] 5 firstBytes_length (by decide) (by decide) nofun (only_leaf_verifies 5)
    with ⟨inside, -⟩ | ⟨b₁, built, b₂, verified, different, -⟩
  · exact absurd inside (by decide)
  · have empty : Merkle.rootLoopHashed ⟨firstBytes, true, true⟩ [firstBytes [7]] = [] := by
      rw [Merkle.rootLoopHashed]
      rfl
    simp only [rootHashed, List.map_cons, List.map_nil, empty, List.append_nil, List.mem_singleton] at built
    simp only [proofHashed, Merkle.verifyLoopHashed, List.mem_singleton] at verified
    exact different (built.trans verified.symm)

end QorechainRdk
