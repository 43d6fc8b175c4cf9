import QorechainRdk.Bridge.Merkle

/-!
# Merkle trees in the other languages

`merkle.go`, `bridge/merkle.py` and `bridge/merkle.rs`. The loops over the levels are those of
`bridge/merkle.ts`; the verifiers halve the index by their own division.
-/

namespace QorechainRdk

namespace Go

/-- A nil field takes its default. -/
structure MerkleOptions where
  hash : Option (Bytes → Bytes) := none
  hashLeaves : Option Bool := none
  duplicateOdd : Option Bool := none

/-- Remainder and quotient take the sign of the dividend. -/
def verifyLoop (hash : Bytes → Bytes) (node : Bytes) (idx : Int) : List Bytes → Bytes
  | [] => node
  | sibling :: rest =>
    let node := if idx.tmod 2 = 1 then hash (sibling ++ node) else hash (node ++ sibling)
    verifyLoop hash node (idx.tdiv 2) rest

section
variable (shake256 : Bytes → Bytes)

def resolveMerkleOptions (opts : Option MerkleOptions) : Merkle.Resolved :=
  match opts with
  | none => { hash := fun data => qorehash shake256 [data], hashLeaves := true, duplicateOdd := true }
  | some opts =>
    { hash := opts.hash.getD fun data => qorehash shake256 [data]
      hashLeaves := opts.hashLeaves.getD true
      duplicateOdd := opts.duplicateOdd.getD true }

def binaryMerkleRoot (leaves : List Bytes) (opts : Option MerkleOptions) : Bytes :=
  let o := resolveMerkleOptions shake256 opts
  if leaves.length = 0 then o.hash [] else Merkle.rootLoop o (Merkle.leafNodes leaves o)

def binaryMerkleProof (leaves : List Bytes) (index : Int) (opts : Option MerkleOptions) :
    Except JsError MerkleProof :=
  if index < 0 ∨ index ≥ leaves.length then
    fail s!"leaf index {index} out of range (0..{(leaves.length : Int) - 1})"
  else
    let o := resolveMerkleOptions shake256 opts
    let (siblings, root) := Merkle.proofLoop o (Merkle.leafNodes leaves o) index.toNat []
    .ok { siblings, root, index }

def verifyBinaryMerkleProof (leaf : Bytes) (index : Int) (siblings : List Bytes) (root : Bytes)
    (opts : Option MerkleOptions) : Bool :=
  let o := resolveMerkleOptions shake256 opts
  let node := if o.hashLeaves then o.hash leaf else leaf
  verifyLoop o.hash node index siblings == root

end
end Go

namespace Py

structure MerkleOptions where
  hash : Bytes → Bytes
  hashLeaves : Bool := true
  duplicateOdd : Bool := true

/-- Remainder and quotient round down. -/
def verifyLoop (hash : Bytes → Bytes) (node : Bytes) (idx : Int) : List Bytes → Bytes
  | [] => node
  | sibling :: rest =>
    let isRight := idx % 2 == 1
    let node := if isRight then hash (sibling ++ node) else hash (node ++ sibling)
    verifyLoop hash node (idx / 2) rest

section
variable (shake256 : Bytes → Bytes)

def resolved (options : Option MerkleOptions) : Merkle.Resolved :=
  let options := options.getD { hash := fun data => qorehash shake256 [data] }
  { hash := options.hash, hashLeaves := options.hashLeaves, duplicateOdd := options.duplicateOdd }

def binaryMerkleRoot (leaves : List Bytes) (options : Option MerkleOptions) : Bytes :=
  let opts := resolved shake256 options
  if leaves.length = 0 then opts.hash [] else Merkle.rootLoop opts (Merkle.leafNodes leaves opts)

def binaryMerkleProof (leaves : List Bytes) (index : Int) (options : Option MerkleOptions) :
    Except JsError MerkleProof :=
  if index < 0 ∨ index ≥ leaves.length then
    fail s!"leaf index {index} out of range (0..{(leaves.length : Int) - 1})"
  else
    let opts := resolved shake256 options
    let (siblings, root) := Merkle.proofLoop opts (Merkle.leafNodes leaves opts) index.toNat []
    .ok { siblings, root, index }

def verifyBinaryMerkleProof (leaf : Bytes) (index : Int) (siblings : List Bytes) (root : Bytes)
    (options : Option MerkleOptions) : Bool :=
  let opts := resolved shake256 options
  let node := if opts.hashLeaves then opts.hash leaf else leaf
  verifyLoop opts.hash node index siblings == root

end
end Py

namespace Rust

abbrev MerkleOptions := Merkle.Resolved

def verifyLoop (hash : Bytes → Bytes) (node : Bytes) (idx : Nat) : List Bytes → Bytes
  | [] => node
  | sibling :: rest =>
    let isRight := idx % 2 == 1
    let node := if isRight then hash (sibling ++ node) else hash (node ++ sibling)
    verifyLoop hash node (idx / 2) rest

def binaryMerkleRoot (leaves : List Bytes) (options : MerkleOptions) : Bytes :=
  if leaves.length = 0 then options.hash [] else Merkle.rootLoop options (Merkle.leafNodes leaves options)

/-- An index out of range panics. -/
def binaryMerkleProof (leaves : List Bytes) (index : Nat) (options : MerkleOptions) : Option MerkleProof :=
  if index < leaves.length then
    let (siblings, root) := Merkle.proofLoop options (Merkle.leafNodes leaves options) index []
    some { siblings, root, index }
  else none

def verifyBinaryMerkleProof (leaf : Bytes) (index : Nat) (siblings : List Bytes) (root : Bytes)
    (options : MerkleOptions) : Bool :=
  let node := if options.hashLeaves then options.hash leaf else leaf
  verifyLoop options.hash node index siblings == root

end Rust

/-! ### One index, one path -/

section
variable {hash : Bytes → Bytes}

theorem Go.verifyLoop_natCast (node : Bytes) (idx : Nat) (siblings : List Bytes) :
    Go.verifyLoop hash node idx siblings = Merkle.verifyLoop hash node idx siblings := by
  induction siblings generalizing node idx with
  | nil => rfl
  | cons sibling rest ih =>
    have halved : (idx : Int).tdiv 2 = ((idx / 2 : Nat) : Int) := rfl
    have floored : (idx : Int) / 2 = ((idx / 2 : Nat) : Int) := by omega
    simp only [Go.verifyLoop, Merkle.verifyLoop, halved, floored, ih, beq_iff_eq]

theorem Py.verifyLoop_natCast (node : Bytes) (idx : Nat) (siblings : List Bytes) :
    Py.verifyLoop hash node idx siblings = Merkle.verifyLoop hash node idx siblings := by
  induction siblings generalizing node idx with
  | nil => rfl
  | cons sibling rest ih =>
    have floored : (idx : Int) / 2 = ((idx / 2 : Nat) : Int) := by omega
    have parity : (idx : Int).tmod 2 = (idx : Int) % 2 := Int.tmod_eq_emod_of_nonneg (by omega)
    simp only [Py.verifyLoop, Merkle.verifyLoop, parity, floored, ih]

theorem Rust.verifyLoop_eq (node : Bytes) (idx : Nat) (siblings : List Bytes) :
    Rust.verifyLoop hash node idx siblings = Merkle.verifyLoop hash node idx siblings := by
  induction siblings generalizing node idx with
  | nil => rfl
  | cons sibling rest ih =>
    have floored : (idx : Int) / 2 = ((idx / 2 : Nat) : Int) := by omega
    have parity : ((idx : Int).tmod 2 == 1) = (idx % 2 == 1) := by
      have cast : (idx : Int).tmod 2 = ((idx % 2 : Nat) : Int) := rfl
      rw [cast, Bool.eq_iff_iff, beq_iff_eq, beq_iff_eq]
      omega
    simp only [Rust.verifyLoop, Merkle.verifyLoop, parity, floored, ih]

end
end QorechainRdk
