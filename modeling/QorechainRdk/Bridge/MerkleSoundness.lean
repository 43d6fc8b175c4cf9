import QorechainRdk.Bridge.MerkleTree

/-!
# What a verified path proves

A path of any length that verifies against a tree's root starts at a leaf, starts at an inner node,
or passes through a leaf, unless two strings that were really hashed collide: one while the tree was
built, the other while the path was verified.
-/

namespace QorechainRdk.Merkle

def levelHashed (opts : Resolved) : List Bytes → List Bytes
  | [] => []
  | [left] => if opts.duplicateOdd then [left ++ left] else []
  | left :: right :: rest => (left ++ right) :: levelHashed opts rest

def rootLoopHashed (opts : Resolved) (level : List Bytes) : List Bytes :=
  if 1 < level.length then levelHashed opts level ++ rootLoopHashed opts (nextLevel opts level) else []
termination_by level.length
decreasing_by simp; omega

def verifyLoopHashed (hash : Bytes → Bytes) (node : Bytes) (idx : Int) : List Bytes → List Bytes
  | [] => []
  | sibling :: rest =>
    let input := if idx.tmod 2 == 1 then sibling ++ node else node ++ sibling
    input :: verifyLoopHashed hash (hash input) (idx / 2) rest

theorem levelHashed_eq {opts : Resolved} (duplicate : opts.duplicateOdd = true) (level : List Bytes) :
    levelHashed opts level = (PairTree.pairs level).map fun p => p.1 ++ p.2 := by
  fun_induction levelHashed opts level with
  | case1 => rfl
  | case2 left => simp [PairTree.pairs]
  | case3 left off => contradiction
  | case4 left right rest ih => simp [PairTree.pairs, ih]

theorem mem_rootLoopHashed {opts : Resolved} (duplicate : opts.duplicateOdd = true)
    {level : List Bytes} {p : Bytes × Bytes}
    (h : p ∈ PairTree.joined (nodeOf opts.hash) level (Nat.clog 2 level.length)) :
    p.1 ++ p.2 ∈ rootLoopHashed opts level := by
  fun_induction rootLoopHashed opts level with
  | case1 level more ih =>
    rw [PairTree.clog_two_step more, PairTree.joined_succ', List.mem_append] at h
    rcases h with here | above
    · rw [levelHashed_eq duplicate]
      exact List.mem_append_left _ (List.mem_map.mpr ⟨p, here, rfl⟩)
    · refine List.mem_append_right _ (ih ?_)
      rwa [length_nextLevel, nextLevel_eq_pairUp duplicate]
  | case2 level single =>
    rw [Nat.clog_of_right_le_one (by omega)] at h
    simp [PairTree.joined] at h

theorem verifyLoopHashed_eq (hash : Bytes → Bytes) (node : Bytes) (idx : Int) (siblings : List Bytes) :
    verifyLoopHashed hash node idx siblings =
      (PairTree.climbed (nodeOf hash) node (route idx siblings)).map fun q => q.1 ++ q.2 := by
  induction siblings generalizing node idx with
  | nil => rfl
  | cons sibling rest ih =>
    by_cases isRight : (idx.tmod 2 == 1) = true
    · simp [verifyLoopHashed, route, PairTree.climbed, PairTree.join, nodeOf, isRight, ih]
    · rw [Bool.not_eq_true] at isRight
      simp [verifyLoopHashed, route, PairTree.climbed, PairTree.join, nodeOf, isRight, ih]

/-- Two different strings with one hash, one of each list. -/
def Collision (hash : Bytes → Bytes) (built verified : List Bytes) : Prop :=
  ∃ b₁ ∈ built, ∃ b₂ ∈ verified, b₁ ≠ b₂ ∧ hash b₁ = hash b₂

theorem Collision.mono {hash : Bytes → Bytes} {built built' verified verified' : List Bytes}
    (h : Collision hash built verified) (left : built ⊆ built') (right : verified ⊆ verified') :
    Collision hash built' verified' := by
  obtain ⟨b₁, h₁, b₂, h₂, clash⟩ := h
  exact ⟨b₁, left h₁, b₂, right h₂, clash⟩

section
variable {opts : Resolved} {leaves siblings : List Bytes} {node : Bytes} {idx : Int}

theorem collision_of_clash (duplicate : opts.duplicateOdd = true)
    (digest : ∀ b, (opts.hash b).length = 32) (leaf32 : ∀ l ∈ leaves, l.length = 32)
    (node32 : node.length = 32) (sibling32 : ∀ s ∈ siblings, s.length = 32)
    (clash : PairTree.Clash (nodeOf opts.hash)
      (PairTree.joined (nodeOf opts.hash) leaves (Nat.clog 2 leaves.length))
      (PairTree.climbed (nodeOf opts.hash) node (route idx siblings))) :
    Collision opts.hash (rootLoopHashed opts leaves) (verifyLoopHashed opts.hash node idx siblings) := by
  obtain ⟨p, hp, q, hq, different, same⟩ := clash
  have nodes : ∀ a b, (nodeOf opts.hash a b).length = 32 := fun a b => digest _
  have left := PairTree.joined_forall _ (P := fun b => b.length = 32) leaf32 nodes _ p hp
  have right := PairTree.climbed_forall _ (P := fun b => b.length = 32) node32
    (route_forall sibling32 idx) nodes q hq
  refine ⟨p.1 ++ p.2, mem_rootLoopHashed duplicate hp, q.1 ++ q.2, ?_, ?_, same⟩
  · rw [verifyLoopHashed_eq]
    exact List.mem_map.mpr ⟨q, hq, rfl⟩
  · intro equal
    obtain ⟨first, second⟩ := List.append_inj equal (by rw [left.1, right.1])
    exact different (Prod.ext first second)

/-- Soundness for siblings of any number: with as many as the tree has levels the path starts at a
leaf, with fewer it starts at an inner node, with more it passes through a leaf. -/
theorem verifyLoop_sound (duplicate : opts.duplicateOdd = true)
    (digest : ∀ b, (opts.hash b).length = 32) (some : leaves ≠ [])
    (leaf32 : ∀ l ∈ leaves, l.length = 32) (node32 : node.length = 32)
    (sibling32 : ∀ s ∈ siblings, s.length = 32)
    (h : verifyLoop opts.hash node idx siblings = rootLoop opts leaves) :
    Collision opts.hash (rootLoopHashed opts leaves) (verifyLoopHashed opts.hash node idx siblings) ∨
      (siblings.length = Nat.clog 2 leaves.length ∧ node ∈ leaves) ∨
      (siblings.length < Nat.clog 2 leaves.length ∧
        ∃ s ∈ rootLoopHashed opts leaves, s.length = 64 ∧ opts.hash s = node) ∨
      (Nat.clog 2 leaves.length < siblings.length ∧
        ∃ s ∈ verifyLoopHashed opts.hash node idx siblings, s.length = 64 ∧ opts.hash s ∈ leaves) := by
  have nodes : ∀ a b, (nodeOf opts.hash a b).length = 32 := fun a b => digest _
  have top : PairTree.climb (nodeOf opts.hash) node (route idx siblings) ∈
      PairTree.level (nodeOf opts.hash) leaves (Nat.clog 2 leaves.length) := by
    rw [← verifyLoop_eq_climb, h, rootLoop_eq_level duplicate some]
    exact List.mem_singleton_self _
  rcases PairTree.climb_to_level _ top with start | clash
  · refine Or.inr ?_
    rw [length_route] at start
    rcases Nat.lt_trichotomy siblings.length (Nat.clog 2 leaves.length) with less | equal | more
    · -- The path starts `k + 1` levels above the leaves.
      obtain ⟨k, hk⟩ : ∃ k, Nat.clog 2 leaves.length - siblings.length = k + 1 :=
        ⟨Nat.clog 2 leaves.length - siblings.length - 1, by omega⟩
      rw [show siblings.length - Nat.clog 2 leaves.length = 0 by omega, List.take_zero, hk] at start
      obtain ⟨p, member, -, -, same⟩ := PairTree.mem_joined_of_level _ start
      have inside := PairTree.joined_mono _ leaves (by omega : k + 1 ≤ Nat.clog 2 leaves.length) member
      have length := PairTree.joined_forall _ (P := fun b => b.length = 32) leaf32 nodes _ p member
      refine Or.inr (Or.inl ⟨less, p.1 ++ p.2, mem_rootLoopHashed duplicate inside, ?_, same⟩)
      rw [List.length_append, length.1, length.2]
    · rw [equal, Nat.sub_self, List.take_zero] at start
      exact Or.inl ⟨equal, start⟩
    · -- The first `siblings.length - depth` steps end at a leaf.
      rw [show Nat.clog 2 leaves.length - siblings.length = 0 by omega] at start
      have steps : (route idx siblings).take (siblings.length - Nat.clog 2 leaves.length) ≠ [] := by
        intro none
        have := congrArg List.length none
        rw [List.length_take, length_route, List.length_nil] at this
        omega
      obtain ⟨q, member, same⟩ := PairTree.climb_of_climbed (nodeOf opts.hash) (x := node) steps
      have whole : q ∈ PairTree.climbed (nodeOf opts.hash) node (route idx siblings) := by
        rw [← List.take_append_drop (siblings.length - Nat.clog 2 leaves.length) (route idx siblings),
          PairTree.climbed_append]
        exact List.mem_append_left _ member
      have length := PairTree.climbed_forall _ (P := fun b => b.length = 32) node32
        (route_forall sibling32 idx) nodes q whole
      refine Or.inr (Or.inr ⟨more, q.1 ++ q.2, ?_, ?_, ?_⟩)
      · rw [verifyLoopHashed_eq]
        exact List.mem_map.mpr ⟨q, whole, rfl⟩
      · rw [List.length_append, length.1, length.2]
      · change nodeOf opts.hash q.1 q.2 ∈ leaves
        rw [same]
        exact start
  · exact Or.inl (collision_of_clash duplicate digest leaf32 node32 sibling32 clash)

/-- With as many siblings as the tree has levels, the path of an index starts where its bits lead. -/
theorem verifyLoop_landing (duplicate : opts.duplicateOdd = true)
    (digest : ∀ b, (opts.hash b).length = 32) (leaf32 : ∀ l ∈ leaves, l.length = 32)
    (node32 : node.length = 32) (sibling32 : ∀ s ∈ siblings, s.length = 32)
    (full : siblings.length = Nat.clog 2 leaves.length) (given : leaves ≠ []) {i : Nat}
    (h : verifyLoop opts.hash node i siblings = rootLoop opts leaves) :
    Collision opts.hash (rootLoopHashed opts leaves) (verifyLoopHashed opts.hash node i siblings) ∨
      leaves[PairTree.landing leaves.length i]? = some node := by
  have top := rootLoop_eq_level duplicate given
  rw [← h, ← full, verifyLoop_eq_climb, route_natCast] at top
  rcases PairTree.climb_landing (nodeOf opts.hash) siblings i given full top with found | clash
  · exact Or.inr found
  · rw [full, ← route_natCast] at clash
    exact Or.inl (collision_of_clash duplicate digest leaf32 node32 sibling32 clash)

theorem verifyLoop_at (duplicate : opts.duplicateOdd = true)
    (digest : ∀ b, (opts.hash b).length = 32) (leaf32 : ∀ l ∈ leaves, l.length = 32)
    (node32 : node.length = 32) (sibling32 : ∀ s ∈ siblings, s.length = 32)
    (full : siblings.length = Nat.clog 2 leaves.length) {i : Nat} (inside : i < leaves.length)
    (h : verifyLoop opts.hash node i siblings = rootLoop opts leaves) :
    Collision opts.hash (rootLoopHashed opts leaves) (verifyLoopHashed opts.hash node i siblings) ∨
      leaves[i]? = some node := by
  have given : leaves ≠ [] := List.ne_nil_of_length_pos (by omega)
  have lands := verifyLoop_landing duplicate digest leaf32 node32 sibling32 full given h
  rwa [PairTree.landing_of_lt inside] at lands

/-- One path leads two nodes to one root only if they are the same. -/
theorem verifyLoop_inj {hash : Bytes → Bytes} {node node' : Bytes} {idx : Int} {siblings : List Bytes}
    (same : verifyLoop hash node idx siblings = verifyLoop hash node' idx siblings) :
    node = node' ∨
      Collision hash (verifyLoopHashed hash node idx siblings) (verifyLoopHashed hash node' idx siblings) := by
  induction siblings generalizing node node' idx with
  | nil => exact Or.inl same
  | cons sibling rest ih =>
    unfold verifyLoopHashed
    rcases ih same with equal | clash
    · by_cases isRight : (idx.tmod 2 == 1) = true
      · simp only [isRight, if_true] at equal ⊢
        by_cases joined : sibling ++ node = sibling ++ node'
        · exact Or.inl (List.append_cancel_left joined)
        · exact Or.inr ⟨_, List.mem_cons_self, _, List.mem_cons_self, joined, equal⟩
      · simp only [isRight] at equal ⊢
        by_cases joined : node ++ sibling = node' ++ sibling
        · exact Or.inl (List.append_cancel_right joined)
        · exact Or.inr ⟨_, List.mem_cons_self, _, List.mem_cons_self, joined, equal⟩
    · right
      have parents : ∀ n : Bytes, (if (idx.tmod 2 == 1) = true then hash (sibling ++ n) else hash (n ++ sibling)) =
          hash (if (idx.tmod 2 == 1) = true then sibling ++ n else n ++ sibling) := by
        intro n
        split
        · rfl
        · rfl
      dsimp only at clash ⊢
      rw [parents, parents] at clash
      exact clash.mono (List.subset_cons_self _ _) (List.subset_cons_self _ _)

end
end QorechainRdk.Merkle
