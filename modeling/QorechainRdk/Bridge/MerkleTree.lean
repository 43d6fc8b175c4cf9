import QorechainRdk.Bridge.Merkle

/-!
# The chain's tree is the pairing tree

With odd nodes duplicated, the levels of the three loops are the levels of `PairTree`, and the
verifier climbs it.
-/

namespace QorechainRdk.Merkle

def nodeOf (hash : Bytes → Bytes) (left right : Bytes) : Bytes := hash (left ++ right)

/-- The steps that the verifier takes from index `idx`. -/
def route (idx : Int) : List Bytes → List (Bool × Bytes)
  | [] => []
  | sibling :: rest => (idx.tmod 2 == 1, sibling) :: route (idx / 2) rest

@[simp] theorem length_route (idx : Int) (siblings : List Bytes) :
    (route idx siblings).length = siblings.length := by
  induction siblings generalizing idx with
  | nil => rfl
  | cons sibling rest ih => simp [route, ih]

theorem tmod_two_natCast (idx : Nat) : ((idx : Int).tmod 2 == 1) = decide (idx % 2 = 1) := by
  rw [show (idx : Int).tmod 2 = ((idx % 2 : Nat) : Int) from rfl]
  by_cases odd : idx % 2 = 1
  · simp [odd]
  · simp only [odd, decide_false, beq_eq_false_iff_ne]
    omega

theorem route_natCast (idx : Nat) (siblings : List Bytes) :
    route idx siblings = PairTree.pathAt idx siblings := by
  induction siblings generalizing idx with
  | nil => rfl
  | cons sibling rest ih => simp only [route, PairTree.pathAt, tmod_two_natCast, ← ih, Int.natCast_ediv, Nat.cast_ofNat]

theorem route_forall {P : Bytes → Prop} {siblings : List Bytes} (h : ∀ s ∈ siblings, P s)
    (idx : Int) : ∀ step ∈ route idx siblings, P step.2 := by
  induction siblings generalizing idx with
  | nil => simp [route]
  | cons sibling rest ih =>
    intro step member
    rcases List.mem_cons.mp member with rfl | member
    · exact h _ (by simp)
    · exact ih (fun s hs => h s (List.mem_cons_of_mem _ hs)) _ step member

theorem verifyLoop_eq_climb (hash : Bytes → Bytes) (node : Bytes) (idx : Int) (siblings : List Bytes) :
    verifyLoop hash node idx siblings = PairTree.climb (nodeOf hash) node (route idx siblings) := by
  induction siblings generalizing node idx with
  | nil => rfl
  | cons sibling rest ih =>
    by_cases isRight : (idx.tmod 2 == 1) = true
    · simp [verifyLoop, route, PairTree.climb, PairTree.join, nodeOf, isRight, ih]
    · rw [Bool.not_eq_true] at isRight
      simp [verifyLoop, route, PairTree.climb, PairTree.join, nodeOf, isRight, ih]

theorem nextLevel_eq_pairUp {opts : Resolved} (duplicate : opts.duplicateOdd = true)
    (level : List Bytes) : nextLevel opts level = PairTree.pairUp (nodeOf opts.hash) level := by
  fun_induction nextLevel opts level with
  | case1 => rfl
  | case2 left => simp [PairTree.pairUp, PairTree.pairs, nodeOf, duplicate]
  | case3 left right rest ih => simp [PairTree.pairUp, PairTree.pairs, nodeOf, ih]

theorem rootLoop_eq_level {opts : Resolved} (duplicate : opts.duplicateOdd = true)
    {level : List Bytes} (h : level ≠ []) :
    PairTree.level (nodeOf opts.hash) level (Nat.clog 2 level.length) = [rootLoop opts level] := by
  fun_induction rootLoop opts level with
  | case1 level more ih =>
    have above : nextLevel opts level ≠ [] :=
      List.ne_nil_of_length_pos (by rw [length_nextLevel]; omega)
    rw [PairTree.clog_two_step more, PairTree.level_succ', ← nextLevel_eq_pairUp duplicate,
      ← length_nextLevel opts level]
    exact ih above
  | case2 level single =>
    obtain ⟨node, rfl⟩ : ∃ node, level = [node] := by
      have := List.length_pos_iff.mpr h
      exact List.length_eq_one_iff.mp (by omega)
    simp

/-! ### Honest proofs -/

theorem proofLoop_root (opts : Resolved) (level : List Bytes) (idx : Nat) (siblings : List Bytes) :
    (proofLoop opts level idx siblings).2 = rootLoop opts level := by
  fun_induction proofLoop opts level idx siblings with
  | case1 level idx siblings more isRight siblingIdx next ih =>
    rw [ih, rootLoop.eq_1 opts level, if_pos more]
  | case2 level idx siblings single =>
    rw [rootLoop, if_neg single]

/-- What one turn of the proof loop collects is the neighbour that the tree joins. -/
theorem collected_sibling (level : List Bytes) (idx : Nat) (inside : idx < level.length) :
    (let siblingIdx := if (idx % 2 == 1) = true then idx - 1 else idx + 1
     if siblingIdx < level.length then level.getD siblingIdx [] else level.getD idx []) =
      PairTree.sibling level idx inside := by
  unfold PairTree.sibling
  by_cases odd : idx % 2 = 1
  · have before : idx - 1 < level.length := by omega
    simp [odd, before]
  · by_cases after : idx + 1 < level.length
    · simp [odd, after]
    · simp [odd, after, inside]

theorem verifyLoop_parent {opts : Resolved} (duplicate : opts.duplicateOdd = true)
    {level : List Bytes} {idx : Nat} (inside : idx < level.length) (rest : List Bytes)
    (above : idx / 2 < (nextLevel opts level).length) :
    verifyLoop opts.hash level[idx] idx (PairTree.sibling level idx inside :: rest) =
      verifyLoop opts.hash (nextLevel opts level)[idx / 2] (idx / 2 : Nat) rest := by
  have parent := PairTree.getElem?_pairUp (nodeOf opts.hash) level idx inside
  rw [← nextLevel_eq_pairUp duplicate, List.getElem?_eq_getElem above, Option.some.injEq] at parent
  rw [parent, verifyLoop_eq_climb, verifyLoop_eq_climb, route, tmod_two_natCast]
  rfl

/-- The loop invariant of `binaryMerkleProof`: what is still to be collected leads from the current
node to the root, one sibling a level. -/
theorem proofLoop_verifies {opts : Resolved} (duplicate : opts.duplicateOdd = true)
    (level : List Bytes) (idx : Nat) (siblings : List Bytes) (inside : idx < level.length) :
    ∃ path, (proofLoop opts level idx siblings).1 = siblings ++ path ∧
      path.length = Nat.clog 2 level.length ∧
      verifyLoop opts.hash level[idx] idx path = rootLoop opts level := by
  fun_induction proofLoop opts level idx siblings with
  | case1 level idx siblings more isRight siblingIdx next ih =>
    have above : idx / 2 < (nextLevel opts level).length := by rw [length_nextLevel]; omega
    obtain ⟨path, collected, length, verified⟩ := ih above
    have one : next = siblings ++ [PairTree.sibling level idx inside] := by
      rw [← collected_sibling level idx inside]
      simp only [next, siblingIdx, isRight, duplicate]
      split <;> split <;> rfl
    refine ⟨PairTree.sibling level idx inside :: path, ?_, ?_, ?_⟩
    · rw [collected, one, List.append_assoc, List.singleton_append]
    · rw [List.length_cons, length, length_nextLevel, ← PairTree.clog_two_step more]
    · rw [verifyLoop_parent duplicate inside path above, verified, rootLoop.eq_1 opts level, if_pos more]
  | case2 level idx siblings single =>
    obtain ⟨node, rfl⟩ : ∃ node, level = [node] := List.length_eq_one_iff.mp (by omega)
    obtain rfl : idx = 0 := by simpa using inside
    exact ⟨[], by simp, by simp, by simp [verifyLoop, rootLoop]⟩

end QorechainRdk.Merkle
