import Mathlib.Data.List.GetD
import QorechainRdk.Bridge.MerklePorts
import QorechainRdk.Bridge.WithdrawalProofs

/-!
# Trees that pass an odd last node on

Without duplication a promoted node has no sibling at its level, while the verifier takes the bits of
the index one by one. The two agree exactly on the paths that are never promoted.
-/

namespace QorechainRdk

namespace Merkle

/-- The path from position `idx` of `count` passes through an odd last node. -/
def promoted (count idx : Nat) : Bool :=
  if 1 < count then (count % 2 == 1 && idx + 1 == count) || promoted ((count + 1) / 2) (idx / 2)
  else false
termination_by count

/-- The position that a node is paired with. -/
def partner (idx : Nat) : Nat := if idx % 2 = 1 then idx - 1 else idx + 1

theorem getElem?_nextLevel (opts : Resolved) (level : List Bytes) (i : Nat) (inside : i < level.length) :
    (nextLevel opts level)[i / 2]? = some (
      if i % 2 = 1 then opts.hash (level[i - 1] ++ level[i])
      else match level[i + 1]? with
        | some right => opts.hash (level[i] ++ right)
        | none => if opts.duplicateOdd then opts.hash (level[i] ++ level[i]) else level[i]) := by
  fun_induction nextLevel opts level generalizing i with
  | case1 => simp at inside
  | case2 left =>
    obtain rfl : i = 0 := by simp at inside; omega
    simp
  | case3 left right rest ih =>
    cases i with
    | zero => simp
    | succ i =>
      cases i with
      | zero => simp
      | succ i =>
        have within : i < rest.length := by simp at inside; omega
        rw [show (i + 1 + 1) / 2 = i / 2 + 1 by omega, show (i + 1 + 1) % 2 = i % 2 by omega,
          List.getElem?_cons_succ, ih i within]
        by_cases odd : i % 2 = 1
        · obtain ⟨j, rfl⟩ : ∃ j, i = j + 1 := ⟨i - 1, by omega⟩
          simp [odd]
        · simp [odd]

section
variable {opts : Resolved} {level : List Bytes} {idx : Nat}

/-! ### Paths that are never promoted -/

/-- The verifier's first step from a paired node leads to its parent. -/
theorem verifyLoop_paired (inside : idx < level.length) (paired : idx % 2 = 1 ∨ idx + 1 < level.length)
    (rest : List Bytes) (above : idx / 2 < (nextLevel opts level).length) :
    verifyLoop opts.hash level[idx] idx
        (level.getD (partner idx) [] :: rest) =
      verifyLoop opts.hash (nextLevel opts level)[idx / 2] (idx / 2 : Nat) rest := by
  have parent := getElem?_nextLevel opts level idx inside
  rw [List.getElem?_eq_getElem above, Option.some.injEq] at parent
  rw [parent, verifyLoop, tmod_two_natCast, show (idx : Int) / 2 = ((idx / 2 : Nat) : Int) by omega]
  unfold partner
  by_cases odd : idx % 2 = 1
  · have before : idx - 1 < level.length := by omega
    simp [odd, before]
  · have after : idx + 1 < level.length := paired.resolve_left odd
    simp [odd, after]

theorem promoted_step (more : 1 < level.length) (kept : promoted level.length idx = false) :
    ¬ (level.length % 2 = 1 ∧ idx + 1 = level.length) ∧
      promoted ((level.length + 1) / 2) (idx / 2) = false := by
  rw [promoted, if_pos more, Bool.or_eq_false_iff, Bool.and_eq_false_iff] at kept
  refine ⟨?_, kept.2⟩
  intro last
  simp [last.1, last.2] at kept

theorem proofLoop_verifies_unpromoted (siblings : List Bytes) (inside : idx < level.length)
    (kept : promoted level.length idx = false) :
    ∃ path, (proofLoop opts level idx siblings).1 = siblings ++ path ∧
      verifyLoop opts.hash level[idx] idx path = rootLoop opts level := by
  fun_induction proofLoop opts level idx siblings with
  | case1 level idx siblings more isRight siblingIdx next ih =>
    have above : idx / 2 < (nextLevel opts level).length := by rw [length_nextLevel]; omega
    obtain ⟨unpaired, later⟩ := promoted_step more kept
    rw [← length_nextLevel opts level] at later
    obtain ⟨path, collected, verified⟩ := ih above later
    have paired : idx % 2 = 1 ∨ idx + 1 < level.length := by omega
    have beside : siblingIdx = partner idx := by simp [siblingIdx, isRight, partner]
    have there : siblingIdx < level.length := by
      rw [beside, partner]
      split
      · omega
      · omega
    have one : next = siblings ++ [level.getD (partner idx) []] := by
      rw [← beside]
      exact if_pos there
    refine ⟨level.getD (partner idx) [] :: path, ?_, ?_⟩
    · rw [collected, one, List.append_assoc, List.singleton_append]
    · rw [verifyLoop_paired inside paired path above, verified, rootLoop.eq_1 opts level, if_pos more]
  | case2 level idx siblings single =>
    obtain ⟨node, rfl⟩ : ∃ node, level = [node] := List.length_eq_one_iff.mp (by omega)
    obtain rfl : idx = 0 := by simpa using inside
    exact ⟨[], by simp, by simp [verifyLoop, rootLoop]⟩

end

/-! ### Paths that are promoted

With the identity for a hash the root is all leaves in a row, and the verifier puts the leaf where the
lengths of its left siblings say. A byte `mark` in that leaf only shows the place. -/

/-- How far the verifier moves a node to the right. -/
def offset (idx : Nat) : List Bytes → Nat
  | [] => 0
  | sibling :: rest => (if idx % 2 = 1 then sibling.length else 0) + offset (idx / 2) rest

/-- The number of bytes in front of a position. -/
def before (level : List Bytes) (idx : Nat) : Nat := (level.take idx).flatten.length

/-- The bytes of all siblings. -/
def total (siblings : List Bytes) : Nat := siblings.flatten.length

structure Tagged (mark : UInt8) (level : List Bytes) (idx : Nat) : Prop where
  inside : idx < level.length
  elsewhere : ∀ j node, j ≠ idx → level[j]? = some node → mark ∉ node
  nonempty : ∀ node ∈ level, node ≠ []

theorem offset_le (idx : Nat) (siblings : List Bytes) : offset idx siblings ≤ total siblings := by
  induction siblings generalizing idx with
  | nil => exact Nat.le_refl 0
  | cons sibling rest ih =>
    have later := ih (idx / 2)
    simp only [offset, total, List.flatten_cons, List.length_append] at later ⊢
    split
    · omega
    · omega

/-- An even position leaves the first sibling on the right. -/
theorem offset_lt {idx : Nat} {siblings : List Bytes} (even : idx % 2 = 0)
    (nonempty : ∀ s ∈ siblings, s ≠ []) (some : 0 < total siblings) : offset idx siblings < total siblings := by
  cases siblings with
  | nil => exact absurd some (Nat.lt_irrefl 0)
  | cons sibling rest =>
    have later := offset_le (idx / 2) rest
    have size := List.length_pos_iff.mpr (nonempty sibling List.mem_cons_self)
    simp only [offset, total, List.flatten_cons, List.length_append] at later ⊢
    rw [if_neg (by omega)]
    omega

theorem idxOf_verifyLoop {mark : UInt8} {node : Bytes} {siblings : List Bytes} (idx : Nat) (here : mark ∈ node)
    (free : ∀ s ∈ siblings, mark ∉ s) :
    (verifyLoop id node idx siblings).idxOf mark = node.idxOf mark + offset idx siblings := by
  induction siblings generalizing node idx with
  | nil => rfl
  | cons sibling rest ih =>
    have absent := free sibling List.mem_cons_self
    have later : ∀ s ∈ rest, mark ∉ s := fun s member => free s (List.mem_cons_of_mem _ member)
    rw [verifyLoop, tmod_two_natCast, show (idx : Int) / 2 = ((idx / 2 : Nat) : Int) by omega, offset]
    by_cases odd : idx % 2 = 1
    · simp only [odd, decide_true, id_eq, if_true]
      rw [ih _ (List.mem_append_right _ here) later, List.idxOf_append_of_notMem absent]
      omega
    · simp only [odd, decide_false, id_eq, Bool.false_eq_true, if_false]
      rw [ih _ (List.mem_append_left _ here) later, List.idxOf_append_of_mem here]
      omega

section
variable {hashLeaves : Bool} {level : List Bytes} {idx : Nat} {mark : UInt8}

/-- Nodes are joined and not hashed, and an odd last one is passed on. -/
def joining (hashLeaves : Bool) : Resolved := { hash := id, hashLeaves, duplicateOdd := false }

variable (hashLeaves) in
theorem flatten_take_nextLevel (level : List Bytes) (k : Nat) :
    ((nextLevel (joining hashLeaves) level).take k).flatten = (level.take (2 * k)).flatten := by
  fun_induction nextLevel (joining hashLeaves) level generalizing k with
  | case1 => simp
  | case2 left =>
    cases k with
    | zero => simp
    | succ k => simp [joining, Nat.mul_succ]
  | case3 left right rest ih =>
    cases k with
    | zero => simp
    | succ k =>
      rw [Nat.mul_succ, List.take_succ_cons, List.take_succ_cons, List.take_succ_cons, List.flatten_cons, ih]
      simp [joining]

theorem rootLoop_joining (some : level ≠ []) : rootLoop (joining hashLeaves) level = level.flatten := by
  fun_induction rootLoop (joining hashLeaves) level with
  | case1 level more ih =>
    have above : nextLevel (joining hashLeaves) level ≠ [] :=
      List.ne_nil_of_length_pos (by rw [length_nextLevel]; omega)
    have whole := flatten_take_nextLevel hashLeaves level level.length
    rw [List.take_of_length_le (by rw [length_nextLevel]; omega), List.take_of_length_le (by omega)] at whole
    rw [ih above, whole]
  | case2 level single =>
    obtain ⟨node, rfl⟩ : ∃ node, level = [node] := by
      have := List.length_pos_iff.mpr some
      exact List.length_eq_one_iff.mp (by omega)
    simp

variable (hashLeaves) in
theorem before_odd (inside : idx < level.length) (odd : idx % 2 = 1) :
    before level idx =
      before (nextLevel (joining hashLeaves) level) (idx / 2) + (level.getD (partner idx) []).length := by
  obtain ⟨k, rfl⟩ : ∃ k, idx = 2 * k + 1 := ⟨idx / 2, by omega⟩
  have left : 2 * k < level.length := by omega
  unfold before partner
  rw [flatten_take_nextLevel hashLeaves, show 2 * ((2 * k + 1) / 2) = 2 * k by omega,
    List.take_succ_eq_append_getElem left]
  simp [left, odd]

variable (hashLeaves) in
theorem before_even (even : idx % 2 = 0) :
    before level idx = before (nextLevel (joining hashLeaves) level) (idx / 2) := by
  unfold before
  rw [flatten_take_nextLevel hashLeaves, show 2 * (idx / 2) = idx by omega]

theorem before_pos (nonempty : ∀ node ∈ level, node ≠ []) (inside : idx < level.length) (later : 0 < idx) :
    0 < before level idx := by
  cases level with
  | nil => cases inside
  | cons node rest =>
    obtain ⟨k, rfl⟩ : ∃ k, idx = k + 1 := ⟨idx - 1, by omega⟩
    have size := List.length_pos_iff.mpr (nonempty node List.mem_cons_self)
    rw [before, List.take_succ_cons, List.flatten_cons, List.length_append]
    omega

/-- Every node of the next level is a node, or two neighbours joined. -/
theorem mem_nextLevel {j : Nat} {node : Bytes} (found : (nextLevel (joining hashLeaves) level)[j]? = some node) :
    ∃ left, level[2 * j]? = some left ∧
      (node = left ∨ ∃ right, level[2 * j + 1]? = some right ∧ node = left ++ right) := by
  have within : 2 * j < level.length := by
    have bound := (List.getElem?_eq_some_iff.mp found).1
    rw [length_nextLevel] at bound
    omega
  have parent := getElem?_nextLevel (joining hashLeaves) level (2 * j) within
  rw [show 2 * j / 2 = j by omega, found, if_neg (by omega), Option.some.injEq] at parent
  refine ⟨level[2 * j], List.getElem?_eq_getElem within, ?_⟩
  cases right : level[2 * j + 1]? with
  | none =>
    rw [right] at parent
    exact Or.inl parent
  | some right' =>
    rw [right] at parent
    exact Or.inr ⟨right', rfl, parent⟩

theorem Tagged.next (tagged : Tagged mark level idx) :
    Tagged mark (nextLevel (joining hashLeaves) level) (idx / 2) where
  inside := by
    have inside := tagged.inside
    rw [length_nextLevel]
    omega
  elsewhere := by
    intro j node other found
    obtain ⟨left, first, alone | ⟨right, second, both⟩⟩ := mem_nextLevel found
    · rw [alone]
      exact tagged.elsewhere _ left (by omega) first
    · rw [both, List.mem_append, not_or]
      exact ⟨tagged.elsewhere _ left (by omega) first, tagged.elsewhere _ right (by omega) second⟩
  nonempty := by
    intro node member
    obtain ⟨j, found⟩ := List.mem_iff_getElem?.mp member
    obtain ⟨left, first, shape⟩ := mem_nextLevel found
    have some := tagged.nonempty left (List.mem_of_getElem? first)
    rcases shape with rfl | ⟨right, -, rfl⟩
    · exact some
    · simp [some]

/-- What is collected from a tagged level on: the path moves the node no further than the root has it,
and less far if it is promoted. From a last position on, all siblings stand to its left. -/
structure Collected (mark : UInt8) (level : List Bytes) (idx : Nat) (path : List Bytes) : Prop where
  nonempty : ∀ s ∈ path, s ≠ []
  free : ∀ s ∈ path, mark ∉ s
  within : offset idx path ≤ before level idx
  short : promoted level.length idx = true → offset idx path < before level idx
  last : idx + 1 = level.length → total path = before level idx

theorem Tagged.partner_free (tagged : Tagged mark level idx) (there : partner idx < level.length) :
    level.getD (partner idx) [] ≠ [] ∧ mark ∉ level.getD (partner idx) [] := by
  have found : level[partner idx]? = some level[partner idx] := List.getElem?_eq_getElem there
  have other : partner idx ≠ idx := by
    unfold partner
    split
    · omega
    · omega
  rw [List.getD_eq_getElem?_getD, found, Option.getD_some]
  exact ⟨tagged.nonempty _ (List.getElem_mem there), tagged.elsewhere _ _ other found⟩

variable (hashLeaves) in
theorem promoted_paired (more : 1 < level.length) (paired : idx % 2 = 1 ∨ idx + 1 < level.length) :
    promoted level.length idx = promoted (nextLevel (joining hashLeaves) level).length (idx / 2) := by
  have unpaired : (level.length % 2 == 1 && idx + 1 == level.length) = false := by
    rw [Bool.and_eq_false_iff, beq_eq_false_iff_ne, beq_eq_false_iff_ne]
    omega
  rw [promoted, if_pos more, unpaired, Bool.false_or, length_nextLevel]

variable {path : List Bytes}

/-- A paired node: its neighbour goes in front of the path. -/
theorem Collected.paired (tagged : Tagged mark level idx) (more : 1 < level.length)
    (there : partner idx < level.length)
    (above : Collected mark (nextLevel (joining hashLeaves) level) (idx / 2) path) :
    Collected mark level idx (level.getD (partner idx) [] :: path) := by
  obtain ⟨some, free⟩ := tagged.partner_free there
  have inside := tagged.inside
  have paired : idx % 2 = 1 ∨ idx + 1 < level.length := by
    unfold partner at there
    split at there
    · exact Or.inl (by assumption)
    · exact Or.inr there
  have same := promoted_paired hashLeaves more paired
  have within := above.within
  refine ⟨?_, ?_, ?_, ?_, ?_⟩
  · exact List.forall_mem_cons.mpr ⟨some, above.nonempty⟩
  · exact List.forall_mem_cons.mpr ⟨free, above.free⟩
  · rw [offset]
    by_cases odd : idx % 2 = 1
    · rw [if_pos odd, before_odd hashLeaves inside odd]
      omega
    · rw [if_neg odd, before_even hashLeaves (by omega)]
      omega
  · intro passed
    have short := above.short (same ▸ passed)
    rw [offset]
    by_cases odd : idx % 2 = 1
    · rw [if_pos odd, before_odd hashLeaves inside odd]
      omega
    · rw [if_neg odd, before_even hashLeaves (by omega)]
      omega
  · intro final
    have odd : idx % 2 = 1 := by omega
    have sum := above.last (by rw [length_nextLevel]; omega)
    rw [before_odd hashLeaves inside odd, ← sum, total, total, List.flatten_cons, List.length_append]
    omega

/-- A promoted node: the path of its parent serves it too, a bit behind. -/
theorem Collected.unpaired (tagged : Tagged mark level idx) (more : 1 < level.length)
    (even : idx % 2 = 0) (final : idx + 1 = level.length)
    (above : Collected mark (nextLevel (joining hashLeaves) level) (idx / 2) path) :
    Collected mark level idx path := by
  have sum := above.last (by rw [length_nextLevel]; omega)
  rw [← before_even hashLeaves even] at sum
  have some := before_pos tagged.nonempty tagged.inside (show 0 < idx by omega)
  have short : offset idx path < before level idx := by
    rw [← sum]
    exact offset_lt even above.nonempty (by omega)
  exact ⟨above.nonempty, above.free, Nat.le_of_lt short, fun _ => short, fun _ => sum⟩

variable (hashLeaves) in
theorem proofLoop_collected (siblings : List Bytes) (tagged : Tagged mark level idx) :
    ∃ path, (proofLoop (joining hashLeaves) level idx siblings).1 = siblings ++ path ∧
      Collected mark level idx path := by
  fun_induction proofLoop (joining hashLeaves) level idx siblings with
  | case1 level idx siblings more isRight siblingIdx next ih =>
    obtain ⟨path, collected, above⟩ := ih tagged.next
    have inside := tagged.inside
    have beside : siblingIdx = partner idx := by simp [siblingIdx, isRight, partner]
    by_cases there : partner idx < level.length
    · have one : next = siblings ++ [level.getD (partner idx) []] := by
        rw [← beside] at there ⊢
        exact if_pos there
      refine ⟨level.getD (partner idx) [] :: path, ?_, Collected.paired tagged more there above⟩
      rw [collected, one, List.append_assoc, List.singleton_append]
    · have none : next = siblings := by
        rw [← beside] at there
        simp only [next, dif_neg there]
        rfl
      have final : idx % 2 = 0 ∧ idx + 1 = level.length := by
        unfold partner at there
        split at there
        · omega
        · omega
      exact ⟨path, by rw [collected, none], Collected.unpaired tagged more final.1 final.2 above⟩
  | case2 level idx siblings single =>
    have inside := tagged.inside
    have first : idx = 0 := by omega
    refine ⟨[], by simp, by simp, by simp, Nat.zero_le _, ?_, ?_⟩
    · intro passed
      rw [promoted, if_neg single] at passed
      cases passed
    · intro _
      rw [first]
      rfl

theorem idxOf_flatten (inside : idx < level.length) (tagged : Tagged mark level idx) (here : mark ∈ level[idx]) :
    level.flatten.idxOf mark = level[idx].idxOf mark + before level idx := by
  have split : level.flatten = (level.take idx).flatten ++ (level[idx] ++ (level.drop (idx + 1)).flatten) := by
    rw [← List.flatten_cons, List.getElem_cons_drop, ← List.flatten_append, List.take_append_drop]
  have absent : mark ∉ (level.take idx).flatten := by
    intro found
    obtain ⟨node, member, found⟩ := List.mem_flatten.mp found
    obtain ⟨j, at_j⟩ := List.mem_iff_getElem?.mp member
    rw [List.getElem?_take] at at_j
    split at at_j
    · exact tagged.elsewhere j node (by omega) at_j found
    · cases at_j
  rw [split, List.idxOf_append_of_notMem absent, List.idxOf_append_of_mem here, before]
  omega

variable (hashLeaves) in
/-- The path of a promoted leaf puts the leaf elsewhere than the root has it. -/
theorem verifyLoop_promoted (inside : idx < level.length) (tagged : Tagged mark level idx)
    (here : mark ∈ level[idx]) (passed : promoted level.length idx = true) :
    verifyLoop id level[idx] idx (proofLoop (joining hashLeaves) level idx []).1 ≠
      rootLoop (joining hashLeaves) level := by
  obtain ⟨path, collected, shape⟩ := proofLoop_collected hashLeaves [] tagged
  rw [collected, List.nil_append, rootLoop_joining (List.ne_nil_of_length_pos (by omega))]
  intro same
  have place := congrArg (List.idxOf mark) same
  rw [idxOf_verifyLoop idx here shape.free, idxOf_flatten inside tagged here] at place
  have short := shape.short passed
  omega

end

/-- As many zero bytes as leaves, but for a one at `index`. -/
def oneOf (count index : Nat) : List Bytes := (List.replicate count [0]).set index [1]

theorem oneOf_tagged {count index : Nat} (inside : index < count) : Tagged 1 (oneOf count index) index where
  inside := by simp [oneOf, inside]
  elsewhere := by
    intro j node other found
    rw [oneOf, List.getElem?_set_ne (Ne.symm other), List.getElem?_replicate] at found
    split at found
    · rw [← Option.some.inj found]
      decide
    · cases found
  nonempty := by
    intro node member
    rcases List.mem_or_eq_of_mem_set member with zero | one
    · rw [List.eq_of_mem_replicate zero]
      decide
    · rw [one]
      decide

end Merkle

/-! ### The proofs of all languages -/

inductive MerkleSdk where
  | ts
  | go
  | py
  | rust
  deriving DecidableEq, Repr

section
variable (shake256 : Bytes → Bytes)

/-- A leaf's proof is built and verified in one language, with odd nodes passed on. -/
def provesLeaf (sdk : MerkleSdk) (hash : Bytes → Bytes) (hashLeaves : Bool) (leaves : List Bytes) (index : Nat) :
    Bool :=
  let leaf := leaves.getD index []
  match sdk with
  | .ts =>
    let options : MerkleOptions := { hash, hashLeaves, duplicateOdd := some false }
    match binaryMerkleProof shake256 leaves index options with
    | .error _ => false
    | .ok p => verifyBinaryMerkleProof shake256 leaf index p.siblings
        (binaryMerkleRoot shake256 leaves options) options
  | .go =>
    let opts : Go.MerkleOptions := { hash, hashLeaves, duplicateOdd := some false }
    match Go.binaryMerkleProof shake256 leaves index opts with
    | .error _ => false
    | .ok p => Go.verifyBinaryMerkleProof shake256 leaf index p.siblings
        (Go.binaryMerkleRoot shake256 leaves opts) opts
  | .py =>
    let options : Py.MerkleOptions := { hash, hashLeaves, duplicateOdd := false }
    match Py.binaryMerkleProof shake256 leaves index options with
    | .error _ => false
    | .ok p => Py.verifyBinaryMerkleProof shake256 leaf index p.siblings
        (Py.binaryMerkleRoot shake256 leaves options) options
  | .rust =>
    let options : Rust.MerkleOptions := { hash, hashLeaves, duplicateOdd := false }
    match Rust.binaryMerkleProof leaves index options with
    | none => false
    | some p => Rust.verifyBinaryMerkleProof leaf index p.siblings (Rust.binaryMerkleRoot leaves options) options

variable {shake256} {hash : Bytes → Bytes} {hashLeaves : Bool} {leaves : List Bytes} {index : Nat}

/-- The proofs of all languages take the same path. -/
theorem provesLeaf_iff (sdk : MerkleSdk) (inside : index < leaves.length) :
    provesLeaf shake256 sdk hash hashLeaves leaves index = true ↔
      let opts : Merkle.Resolved := { hash, hashLeaves, duplicateOdd := false }
      let level := Merkle.leafNodes leaves opts
      Merkle.verifyLoop hash (level.getD index []) index (Merkle.proofLoop opts level index []).1 =
        Merkle.rootLoop opts level := by
  have range : ¬ ((index : Int) < 0 ∨ (index : Int) ≥ leaves.length) := by omega
  have some : leaves.length ≠ 0 := by omega
  have found : (Merkle.leafNodes leaves ⟨hash, hashLeaves, false⟩).getD index [] =
      if hashLeaves then hash (leaves.getD index []) else leaves.getD index [] := by
    have node : index < (Merkle.leafNodes leaves ⟨hash, hashLeaves, false⟩).length := by rwa [length_leafNodes]
    rw [List.getD_eq_getElem _ _ node, List.getD_eq_getElem _ _ inside, getElem_leafNodes leaves _ index inside node]
  dsimp only
  rw [found]
  cases sdk with
  | ts =>
    simp only [provesLeaf, binaryMerkleProof, if_neg range, verifyBinaryMerkleProof, binaryMerkleRoot, if_neg some,
      resolved, Option.getD_some, Int.toNat_natCast, sameBytes_iff]
    exact Iff.rfl
  | go =>
    simp only [provesLeaf, Go.binaryMerkleProof, if_neg range, Go.verifyBinaryMerkleProof, Go.binaryMerkleRoot,
      if_neg some, Go.resolveMerkleOptions, Option.getD_some, Int.toNat_natCast, Go.verifyLoop_natCast, beq_iff_eq]
    exact Iff.rfl
  | py =>
    simp only [provesLeaf, Py.binaryMerkleProof, if_neg range, Py.verifyBinaryMerkleProof, Py.binaryMerkleRoot,
      if_neg some, Py.resolved, Option.getD_some, Int.toNat_natCast, Py.verifyLoop_natCast, beq_iff_eq]
    exact Iff.rfl
  | rust =>
    simp only [provesLeaf, Rust.binaryMerkleProof, if_pos inside, Rust.verifyBinaryMerkleProof,
      Rust.binaryMerkleRoot, if_neg some, Rust.verifyLoop_eq, beq_iff_eq]

end

/-- Every proof of position `index` of `count` verifies exactly if no node on its way is promoted. -/
theorem unduplicated_complete_iff (shake256 : Bytes → Bytes) (sdk : MerkleSdk) (hashLeaves : Bool)
    {count index : Nat} (inside : index < count) :
    (∀ hash leaves, leaves.length = count → provesLeaf shake256 sdk hash hashLeaves leaves index = true) ↔
      Merkle.promoted count index = false := by
  constructor
  · intro complete
    have size : (Merkle.oneOf count index).length = count := by simp [Merkle.oneOf]
    have proved := complete id (Merkle.oneOf count index) size
    rw [provesLeaf_iff sdk (by omega)] at proved
    have level : Merkle.leafNodes (Merkle.oneOf count index) (Merkle.joining hashLeaves) =
        Merkle.oneOf count index := by simp [Merkle.leafNodes, Merkle.joining]
    by_contra passed
    rw [Bool.not_eq_false] at passed
    have within : index < (Merkle.oneOf count index).length := by omega
    have here : 1 ∈ (Merkle.oneOf count index)[index] := by simp [Merkle.oneOf]
    apply Merkle.verifyLoop_promoted hashLeaves within (Merkle.oneOf_tagged inside) here
    · rw [size]
      exact passed
    · change Merkle.verifyLoop id ((Merkle.leafNodes _ (Merkle.joining hashLeaves)).getD index []) index
        (Merkle.proofLoop (Merkle.joining hashLeaves) (Merkle.leafNodes _ (Merkle.joining hashLeaves)) index []).1 =
          Merkle.rootLoop (Merkle.joining hashLeaves) (Merkle.leafNodes _ (Merkle.joining hashLeaves)) at proved
      rw [level, List.getD_eq_getElem _ _ (by omega)] at proved
      exact proved
  · intro kept hash leaves size
    rw [provesLeaf_iff sdk (by omega)]
    dsimp only
    have nodes := length_leafNodes leaves ⟨hash, hashLeaves, false⟩
    have within : index < (Merkle.leafNodes leaves ⟨hash, hashLeaves, false⟩).length := by omega
    obtain ⟨path, collected, verified⟩ := @Merkle.proofLoop_verifies_unpromoted ⟨hash, hashLeaves, false⟩ _ _ []
      within (by rw [nodes, size]; exact kept)
    rw [collected, List.nil_append, List.getD_eq_getElem _ _ within]
    exact verified

theorem unduplicated_complete_iff_sample :
    (∀ hash leaves, leaves.length = 3 → provesLeaf id .go hash true leaves 1 = true) ↔
      Merkle.promoted 3 1 = false := unduplicated_complete_iff id .go true (by decide)

/-- Of three leaves, the last is promoted, and every verifier takes its sibling for a right one. -/
theorem last_of_three_refused : ¬ ∃ sdk, ∀ (hash : Bytes → Bytes) (hashLeaves : Bool) (leaves : List Bytes)
    (index : Nat), index < leaves.length → provesLeaf id sdk hash hashLeaves leaves index = true := by
  intro verifies
  obtain ⟨sdk, complete⟩ := verifies
  have proved := complete id false [[0], [1], [2]] 2 (by decide)
  rw [provesLeaf_iff sdk (by decide)] at proved
  simp [Merkle.leafNodes, Merkle.verifyLoop, Merkle.proofLoop, Merkle.rootLoop, Merkle.nextLevel] at proved

end QorechainRdk
