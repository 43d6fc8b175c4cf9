import QorechainRdk.Lib.PairTree
import QorechainRdk.Utils.Bytes

/-!
# Binary Merkle trees

`bridge/merkle.ts`. The root, the proof and the verifier are three loops over the levels of one
tree; `PairTree` is that tree when odd nodes are duplicated.
-/

namespace QorechainRdk

/-- The options as a caller writes them; `resolved` fills in the defaults. -/
structure MerkleOptions where
  hash : Option (Bytes → Bytes) := none
  hashLeaves : Option Bool := none
  duplicateOdd : Option Bool := none

namespace Merkle

structure Resolved where
  hash : Bytes → Bytes
  hashLeaves : Bool
  duplicateOdd : Bool

def leafNodes (leaves : List Bytes) (opts : Resolved) : List Bytes :=
  if opts.hashLeaves then leaves.map opts.hash else leaves

/-- The inner loop of `binaryMerkleRoot` and of `binaryMerkleProof`. -/
def nextLevel (opts : Resolved) : List Bytes → List Bytes
  | [] => []
  | [left] => [if opts.duplicateOdd then opts.hash (left ++ left) else left]
  | left :: right :: rest => opts.hash (left ++ right) :: nextLevel opts rest

@[simp] theorem length_nextLevel (opts : Resolved) (level : List Bytes) :
    (nextLevel opts level).length = (level.length + 1) / 2 := by
  fun_induction nextLevel opts level with
  | case1 => simp
  | case2 left => simp
  | case3 left right rest ih => simp only [List.length_cons, ih]; omega

def rootLoop (opts : Resolved) (level : List Bytes) : Bytes :=
  if 1 < level.length then rootLoop opts (nextLevel opts level) else level.headD []
termination_by level.length
decreasing_by simp; omega

/-- The levels of the proof loop: the siblings collected so far, and the root at the end. -/
def proofLoop (opts : Resolved) (level : List Bytes) (idx : Nat) (siblings : List Bytes) :
    List Bytes × Bytes :=
  if 1 < level.length then
    let isRight := idx % 2 == 1
    let siblingIdx := if isRight then idx - 1 else idx + 1
    let siblings :=
      if siblingIdx < level.length then siblings ++ [level.getD siblingIdx []]
      else if opts.duplicateOdd then siblings ++ [level.getD idx []]
      else siblings
    proofLoop opts (nextLevel opts level) (idx / 2) siblings
  else (siblings, level.headD [])
termination_by level.length
decreasing_by simp; omega

/-- The verifier's index may be any number: `%` keeps the sign of the dividend. -/
def verifyLoop (hash : Bytes → Bytes) (node : Bytes) (idx : Int) : List Bytes → Bytes
  | [] => node
  | sibling :: rest =>
    let isRight := idx.tmod 2 == 1
    let node := if isRight then hash (sibling ++ node) else hash (node ++ sibling)
    verifyLoop hash node (idx / 2) rest

end Merkle

structure MerkleProof where
  siblings : List Bytes
  root : Bytes
  index : Int
  deriving DecidableEq, Repr

section
variable (shake256 : Bytes → Bytes)

def resolved (options : MerkleOptions) : Merkle.Resolved where
  hash := options.hash.getD fun data => qorehash shake256 [data]
  hashLeaves := options.hashLeaves.getD true
  duplicateOdd := options.duplicateOdd.getD true

def binaryMerkleRoot (leaves : List Bytes) (options : MerkleOptions := {}) : Bytes :=
  let opts := resolved shake256 options
  if leaves.length = 0 then opts.hash []
  else Merkle.rootLoop opts (Merkle.leafNodes leaves opts)

def binaryMerkleProof (leaves : List Bytes) (index : Int) (options : MerkleOptions := {}) :
    Except JsError MerkleProof :=
  if index < 0 ∨ index ≥ leaves.length then
    fail s!"leaf index {index} out of range (0..{(leaves.length : Int) - 1})"
  else
    let opts := resolved shake256 options
    let (siblings, root) := Merkle.proofLoop opts (Merkle.leafNodes leaves opts) index.toNat []
    .ok { siblings, root, index }

def verifyBinaryMerkleProof (leaf : Bytes) (index : Int) (siblings : List Bytes) (root : Bytes)
    (options : MerkleOptions := {}) : Bool :=
  let opts := resolved shake256 options
  let node := if opts.hashLeaves then opts.hash leaf else leaf
  sameBytes (Merkle.verifyLoop opts.hash node index siblings) root

end
end QorechainRdk
