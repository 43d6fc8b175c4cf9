import QorechainRdk.Bridge.WithdrawalSdks
import QorechainRdk.Tx.Withdrawal

/-!
# The clients agree on withdrawals

Where every string has a length that 32 bits can hold, the five trees are one, and a withdrawal that any client puts on
the wire is read back as one that all of them prove against the root.
-/

namespace QorechainRdk

open Js Protobuf

variable {shake256 : Bytes → Bytes} {opts : WithdrawalsTreeOptions} {ws : List WithdrawalItem} {w : WithdrawalItem}
  {readInt : String → Except JsError Int} {counter : BitVec 64 → Except JsError Bytes}
  {lp : Bytes → Except JsError Bytes} {i : Nat}

def Short (s : String) : Prop := (encode s).length < 2 ^ 32

/-- Every length fits the prefix that it gets, and every index its counter. -/
structure Held (opts : WithdrawalsTreeOptions) (ws : List WithdrawalItem) : Prop where
  rollupId : Short opts.rollupId
  chainId : Short (opts.chainId.getD "")
  items : ∀ w ∈ ws, Short w.recipient ∧ Short w.denom
  few : ws.length ≤ 2 ^ 64

/-! ### One tree -/

theorem itemLeaf_index (small : i < 2 ^ 64) : (itemLeaf opts.rollupId i w).withdrawalIndex.toNat = i :=
  Nat.mod_eq_of_lt small

theorem leafV1With_eq (writes : ∀ n, counter n = .ok (Coding.bigEndian 8 n.toNat)) (small : i < 2 ^ 64) :
    leafV1With shake256 counter (itemLeaf opts.rollupId i w) = withdrawalLeafV1 shake256 (treeInput opts i w.toTs) := by
  have index : (itemLeaf opts.rollupId i w).withdrawalIndex.toNat = i := itemLeaf_index small
  unfold leafV1With withdrawalLeafV1
  rw [writes, writes, index]
  simp only [treeInput, WithdrawalItem.toTs, u64be_bigint, ok_bind]
  rfl

theorem leafV2With_eq (writes : ∀ n, counter n = .ok (Coding.bigEndian 8 n.toNat))
    (prefixes : ∀ b, b.length < 2 ^ 32 → lp b = .ok (Coding.lengthPrefixed 4 b)) (held : Held opts ws) (member : w ∈ ws)
    (small : i < 2 ^ 64) :
    leafV2With shake256 lp counter (opts.chainId.getD "") (itemLeaf opts.rollupId i w) =
      withdrawalLeafV2 shake256 (opts.chainId.getD "") (treeInput opts i w.toTs) := by
  have index : (itemLeaf opts.rollupId i w).withdrawalIndex.toNat = i := itemLeaf_index small
  obtain ⟨recipient, denom⟩ := held.items w member
  have tag := prefixes (encode "qorechain-rdk-withdrawal/v2") (by decide)
  have chain := prefixes (encode (opts.chainId.getD "")) held.chainId
  have rollup : lp (encode (itemLeaf opts.rollupId i w).rollupId) = _ := prefixes (encode opts.rollupId) held.rollupId
  have payee : lp (encode (itemLeaf opts.rollupId i w).recipient) = _ := prefixes (encode w.recipient) recipient
  have unit : lp (encode (itemLeaf opts.rollupId i w).denom) = _ := prefixes (encode w.denom) denom
  unfold leafV2With withdrawalLeafV2
  split
  · rfl
  · rw [writes, writes, index, tag, chain, rollup, payee, unit]
    simp only [treeInput, WithdrawalItem.toTs, u64be_bigint, ok_bind, qorehash, List.flatten_append, lp_flatten,
      List.flatten_cons, List.flatten_nil, List.append_nil, List.append_assoc]
    rfl

theorem leavesWith_eq {leaf : Nat → WithdrawalItem → Except JsError Bytes}
    (same : ∀ i w, w ∈ ws → i < 2 ^ 64 → leaf i w = treeLeaf shake256 opts i w.toTs) (few : i + ws.length ≤ 2 ^ 64) :
    leavesWith leaf i ws = treeLeaves shake256 opts i (ws.map WithdrawalItem.toTs) := by
  induction ws generalizing i with
  | nil => rfl
  | cons w ws ih =>
    rw [List.length_cons] at few
    have first := same i w List.mem_cons_self (by omega)
    have rest := ih (i := i + 1) (fun i v member => same i v (List.mem_cons_of_mem _ member)) (by omega)
    rw [leavesWith, List.map_cons, treeLeaves, first, rest]

theorem treeWith_eq {leaf : Nat → WithdrawalItem → Except JsError Bytes} {root : List Bytes → Bytes}
    (same : ∀ i w, w ∈ ws → i < 2 ^ 64 → leaf i w = treeLeaf shake256 opts i w.toTs)
    (roots : ∀ leaves, root leaves = binaryMerkleRoot shake256 leaves CHAIN_TREE) (few : ws.length ≤ 2 ^ 64) :
    treeWith leaf root ws =
      (withdrawalsTree shake256 (ws.map WithdrawalItem.toTs) opts).map WithdrawalsTree.committed := by
  have leaves := leavesWith_eq (i := 0) same (by omega)
  unfold treeWith withdrawalsTree
  rw [List.length_map, leaves]
  split
  · rfl
  · cases treeLeaves shake256 opts 0 (ws.map WithdrawalItem.toTs) with
    | error e => rfl
    | ok read =>
      simp only [ok_bind, roots]
      rfl

theorem bigEndian_toInt (n : BitVec 64) : Coding.bigEndian 8 n.toInt = Coding.bigEndian 8 n.toNat := by
  have bits : (256 : Int) ^ 8 = ((2 ^ 64 : Nat) : Int) := by norm_num
  rw [Coding.bigEndian_eq_iff, BitVec.toInt_eq_toNat_bmod, bits, Int.bmod_emod]

theorem Py.u64be_int {n : Nat} (small : n < 2 ^ 64) : Py.u64be readInt (.int n) = .ok (Coding.bigEndian 8 n) := by
  have fits : (n : Int) < 2 ^ 64 := by exact_mod_cast small
  unfold Py.u64be Py.intOfNumeric
  rw [ok_bind]
  exact Py.packQ_of_range (Int.natCast_nonneg n) fits

theorem Py.lp_eq {b : Bytes} (short : b.length < 2 ^ 32) : Py.lp b = .ok (Coding.lengthPrefixed 4 b) := if_pos short

theorem Py.withdrawalLeafV1_eq (small : i < 2 ^ 64) :
    Py.withdrawalLeafV1 readInt shake256 (Py.itemLeaf opts.rollupId i w) =
      QorechainRdk.withdrawalLeafV1 shake256 (treeInput opts i w.toTs) := by
  unfold Py.withdrawalLeafV1 QorechainRdk.withdrawalLeafV1 Py.itemLeaf
  rw [Py.u64be_int small, Py.u64be_int w.amount.isLt]
  simp only [treeInput, WithdrawalItem.toTs, u64be_bigint, ok_bind]

theorem Py.withdrawalLeafV2_eq (held : Held opts ws) (member : w ∈ ws) (small : i < 2 ^ 64) :
    Py.withdrawalLeafV2 readInt shake256 (opts.chainId.getD "") (Py.itemLeaf opts.rollupId i w) =
      QorechainRdk.withdrawalLeafV2 shake256 (opts.chainId.getD "") (treeInput opts i w.toTs) := by
  obtain ⟨recipient, denom⟩ := held.items w member
  have tag : Py.lp (Js.encode "qorechain-rdk-withdrawal/v2") = _ := Py.lp_eq (by decide)
  unfold Py.withdrawalLeafV2 QorechainRdk.withdrawalLeafV2 Py.itemLeaf
  split
  · rfl
  · rw [Py.u64be_int small, Py.u64be_int w.amount.isLt, tag, Py.lp_eq held.chainId, Py.lp_eq held.rollupId,
      Py.lp_eq recipient, Py.lp_eq denom]
    simp only [treeInput, WithdrawalItem.toTs, u64be_bigint, ok_bind, qorehash, List.flatten_append, lp_flatten,
      List.flatten_cons, List.flatten_nil, List.append_nil, List.append_assoc]

theorem Rust.lp_eq (b : Bytes) : Rust.lp b = Coding.lengthPrefixed 4 b := by
  have cut : Coding.bigEndian 4 ((b.length % 2 ^ 32 : Nat) : Int) = Coding.bigEndian 4 b.length := by
    rw [Coding.bigEndian_eq_iff]
    omega
  unfold Rust.lp Coding.lengthPrefixed
  rw [cut]

theorem Go.chainTree_eq : resolveMerkleOptions shake256 (some chainTree) = resolved shake256 CHAIN_TREE := rfl

theorem Py.chainTree_eq : resolved shake256 (some (chainTree shake256)) = QorechainRdk.resolved shake256 CHAIN_TREE := rfl

theorem Jvm.chainTree_eq : resolve shake256 (some chainTree) = resolved shake256 CHAIN_TREE := rfl

theorem Rust.chainTree_eq : chainTree shake256 = resolved shake256 CHAIN_TREE := rfl

section
variable (leaves : List Bytes)

theorem Go.binaryMerkleRoot_eq :
    binaryMerkleRoot shake256 leaves (some chainTree) = QorechainRdk.binaryMerkleRoot shake256 leaves CHAIN_TREE := by
  unfold binaryMerkleRoot
  rw [chainTree_eq]
  rfl

theorem Rust.binaryMerkleRoot_eq :
    binaryMerkleRoot leaves (chainTree shake256) = QorechainRdk.binaryMerkleRoot shake256 leaves CHAIN_TREE := by
  rw [chainTree_eq]
  rfl

theorem Jvm.binaryMerkleRoot_eq :
    binaryMerkleRoot shake256 leaves (some chainTree) = QorechainRdk.binaryMerkleRoot shake256 leaves CHAIN_TREE := by
  unfold binaryMerkleRoot
  rw [chainTree_eq]
  cases leaves with
  | nil => rfl
  | cons leaf leaves => rfl

theorem Py.binaryMerkleRoot_eq : binaryMerkleRoot shake256 leaves (some (chainTree shake256)) =
    QorechainRdk.binaryMerkleRoot shake256 leaves CHAIN_TREE := by
  unfold binaryMerkleRoot
  rw [chainTree_eq]
  rfl

end

section
variable (held : Held opts ws)
include held

theorem Go.newWithdrawalsTree_eq :
    newWithdrawalsTree shake256 ws opts.rollupId opts.version (opts.chainId.getD "") =
      (withdrawalsTree shake256 (ws.map WithdrawalItem.toTs) opts).map WithdrawalsTree.committed := by
  refine treeWith_eq ?_ Go.binaryMerkleRoot_eq held.few
  intro i w member small
  unfold treeLeaf
  cases opts.version with
  | v1 => exact leafV1With_eq (fun n => rfl) small
  | v2 => exact leafV2With_eq (fun n => rfl) (fun b _ => rfl) held member small

theorem Rust.withdrawalsTree_eq :
    withdrawalsTree shake256 ws opts.rollupId opts.version (opts.chainId.getD "") =
      (QorechainRdk.withdrawalsTree shake256 (ws.map WithdrawalItem.toTs) opts).map WithdrawalsTree.committed := by
  refine treeWith_eq ?_ Rust.binaryMerkleRoot_eq held.few
  intro i w member small
  unfold treeLeaf
  cases opts.version with
  | v1 => exact leafV1With_eq (fun n => rfl) small
  | v2 => exact leafV2With_eq (fun n => rfl) (fun b _ => congrArg Except.ok (Rust.lp_eq b)) held member small

theorem Jvm.withdrawalsTree_eq :
    withdrawalsTree shake256 ws opts.rollupId opts.version opts.chainId =
      (QorechainRdk.withdrawalsTree shake256 (ws.map WithdrawalItem.toTs) opts).map WithdrawalsTree.committed := by
  refine treeWith_eq ?_ Jvm.binaryMerkleRoot_eq held.few
  intro i w member small
  have counters : ∀ n, (.ok (Jvm.u64be n) : Except JsError Bytes) = .ok (Coding.bigEndian 8 n.toNat) :=
    fun n => congrArg Except.ok (bigEndian_toInt n)
  unfold treeLeaf
  cases opts.version with
  | v1 =>
    rw [if_neg (by decide)]
    exact leafV1With_eq counters small
  | v2 =>
    rw [if_pos rfl]
    exact leafV2With_eq counters (fun b _ => rfl) held member small

theorem Py.withdrawalsTree_eq :
    withdrawalsTree shake256 readInt ws opts.rollupId opts.version opts.chainId =
      (QorechainRdk.withdrawalsTree shake256 (ws.map WithdrawalItem.toTs) opts).map WithdrawalsTree.committed := by
  refine treeWith_eq ?_ Py.binaryMerkleRoot_eq held.few
  intro i w member small
  unfold treeLeaf
  cases opts.version with
  | v1 =>
    rw [if_neg (by decide)]
    exact Py.withdrawalLeafV1_eq small
  | v2 =>
    rw [if_pos rfl]
    exact Py.withdrawalLeafV2_eq held member small

end

/-! ### One proof -/

section
variable (leaves : List Bytes)

theorem Go.assembleWithdrawalProof_eq (j : Int) :
    assembleWithdrawalProof shake256 leaves j = QorechainRdk.assembleWithdrawalProof shake256 leaves j := by
  have proof : Go.binaryMerkleProof shake256 leaves j (some chainTree) =
      QorechainRdk.binaryMerkleProof shake256 leaves j CHAIN_TREE := by
    unfold binaryMerkleProof
    rw [chainTree_eq]
    rfl
  unfold assembleWithdrawalProof
  rw [Option.getD_none, proof]
  rfl

theorem Jvm.assembleWithdrawalProof_eq (j : Int) :
    assembleWithdrawalProof shake256 leaves j = QorechainRdk.assembleWithdrawalProof shake256 leaves j := by
  have proof : Jvm.binaryMerkleProof shake256 leaves j (some chainTree) =
      QorechainRdk.binaryMerkleProof shake256 leaves j CHAIN_TREE := by
    unfold binaryMerkleProof
    rw [chainTree_eq]
    rfl
  unfold assembleWithdrawalProof
  rw [Option.getD_none, proof]
  rfl

theorem Py.assembleWithdrawalProof_eq (j : Int) :
    assembleWithdrawalProof shake256 leaves j = QorechainRdk.assembleWithdrawalProof shake256 leaves j := by
  have proof : Py.binaryMerkleProof shake256 leaves j (some (chainTree shake256)) =
      QorechainRdk.binaryMerkleProof shake256 leaves j CHAIN_TREE := by
    unfold binaryMerkleProof
    rw [chainTree_eq]
    rfl
  unfold assembleWithdrawalProof
  rw [Option.getD_none, proof]
  rfl

theorem Rust.assembleWithdrawalProof_eq (j : Nat) :
    assembleWithdrawalProof shake256 leaves j = (QorechainRdk.assembleWithdrawalProof shake256 leaves j).toOption := by
  unfold assembleWithdrawalProof binaryMerkleProof QorechainRdk.assembleWithdrawalProof QorechainRdk.binaryMerkleProof
  rw [Option.getD_none, chainTree_eq]
  by_cases inside : j < leaves.length
  · rw [if_pos inside, if_neg (show ¬ ((j : Int) < 0 ∨ (j : Int) ≥ leaves.length) by omega)]
    rfl
  · rw [if_neg inside, if_pos (show (j : Int) < 0 ∨ (j : Int) ≥ leaves.length by omega)]
    rfl

end

/-- The verifiers of all five accept. -/
structure Verified (shake256 : Bytes → Bytes) (leaf : Bytes) (index : Nat) (proof : List Bytes) (root : Bytes) :
    Prop where
  ts : verifyBinaryMerkleProof shake256 leaf index proof root CHAIN_TREE = true
  go : Go.verifyBinaryMerkleProof shake256 leaf index proof root (some Go.chainTree) = true
  rust : Rust.verifyBinaryMerkleProof leaf index proof root (Rust.chainTree shake256) = true
  jvm : Jvm.verifyBinaryMerkleProof shake256 leaf index proof root (some Jvm.chainTree) = true
  py : Py.verifyBinaryMerkleProof shake256 leaf index proof root (some (Py.chainTree shake256)) = true

/-- Each verifier climbs the same path. -/
theorem verified_of_ts {leaf root : Bytes} {index : Nat} {proof : List Bytes}
    (accepted : verifyBinaryMerkleProof shake256 leaf index proof root CHAIN_TREE = true) :
    Verified shake256 leaf index proof root := by
  have climbed : Merkle.verifyLoop (resolved shake256 CHAIN_TREE).hash leaf index proof = root :=
    sameBytes_iff.mp accepted
  refine ⟨accepted, ?_, ?_, ?_, ?_⟩
  · unfold Go.verifyBinaryMerkleProof
    rw [Go.chainTree_eq]
    exact beq_iff_eq.mpr ((Go.verifyLoop_natCast leaf index proof).trans climbed)
  · unfold Rust.verifyBinaryMerkleProof
    rw [Rust.chainTree_eq]
    exact beq_iff_eq.mpr ((Rust.verifyLoop_eq leaf index proof).trans climbed)
  · unfold Jvm.verifyBinaryMerkleProof
    rw [Jvm.chainTree_eq]
    exact beq_iff_eq.mpr ((Go.verifyLoop_natCast leaf index proof).trans climbed)
  · unfold Py.verifyBinaryMerkleProof
    rw [Py.chainTree_eq]
    exact beq_iff_eq.mpr ((Py.verifyLoop_natCast leaf index proof).trans climbed)

/-! ### One message -/

/-- The leaf that a message claims. -/
def claimedLeaf (shake256 : Bytes → Bytes) (opts : WithdrawalsTreeOptions) (m : MsgExecuteWithdrawal) :
    Except JsError Bytes :=
  let w : WithdrawalLeafInput := ⟨m.rollupId, m.withdrawalIndex, m.recipient, m.denom, .bigint m.amount⟩
  match opts.version with
  | .v2 => withdrawalLeafV2 shake256 (opts.chainId.getD "") w
  | .v1 => withdrawalLeafV1 shake256 w

/-- What was put on the wire is read as the message, and what it claims is proved against the root. -/
structure Redeems (shake256 : Bytes → Bytes) (opts : WithdrawalsTreeOptions) (root wire : Bytes)
    (m : MsgExecuteWithdrawal) : Prop where
  read : MsgExecuteWithdrawal.codec.decode wire = some m
  proved : ∃ leaf, claimedLeaf shake256 opts m = .ok leaf ∧
    ∃ index : Nat, m.withdrawalIndex = index ∧ Verified shake256 leaf index m.proof root

theorem executeWithdrawal_kept {m : MsgExecuteWithdrawal} (batchIndex : IsUint64 m.batchIndex)
    (withdrawalIndex : IsUint64 m.withdrawalIndex) (amount : IsInt64 m.amount) :
    MsgExecuteWithdrawal.codec.decode (RdkMsg.executeWithdrawal m).encode = some m := by
  have read := decode_executeWithdrawal m
  rw [batchIndex.wrap, withdrawalIndex.wrap, amount.wrap] at read
  exact read

def withdrawalMessage (submitter rollupId : String) (batchIndex : BitVec 64) (w : WithdrawalItem) (p : WithdrawalProof) :
    MsgExecuteWithdrawal where
  submitter
  rollupId
  batchIndex := batchIndex.toNat
  withdrawalIndex := p.withdrawalIndex
  recipient := w.recipient
  denom := w.denom
  amount := w.amount.toNat
  proof := p.proof

theorem executeWithdrawalMsg_built (submitter rollupId : String) (batchIndex : BitVec 64) (w : WithdrawalItem)
    (p : WithdrawalProof) :
    executeWithdrawalMsg submitter (buildExecuteWithdrawalInput rollupId (.bigint batchIndex.toNat) w.recipient w.denom
      (.bigint w.amount.toNat) p) = .ok (withdrawalMessage submitter rollupId batchIndex w p) := by
  have entries : (p.proof.map HexOrBytes.bytes).mapM toBytes = .ok p.proof := by
    induction p.proof with
    | nil => rfl
    | cons b rest ih =>
      rw [List.map_cons, List.mapM_cons, ih]
      rfl
  unfold executeWithdrawalMsg
  simp only [buildExecuteWithdrawalInput, big, bigInt, Option.getD_some, entries, ok_bind]
  rfl

theorem toInt_of_small {n : BitVec 64} (small : n.toNat < 2 ^ 63) : n.toInt = n.toNat := by
  rw [BitVec.toInt_eq_toNat_cond, if_pos (by omega)]

/-- Every client proves withdrawal `i` by `p` and claims it by `m`, and what any of them puts on the wire redeems it. -/
structure Interchanged (shake256 : Bytes → Bytes) (opts : WithdrawalsTreeOptions) (tree : CommittedTree) (i : Nat)
    (w : WithdrawalItem) (submitter : String) (batchIndex : BitVec 64) (p : WithdrawalProof)
    (m : MsgExecuteWithdrawal) : Prop where
  proofs : assembleWithdrawalProof shake256 tree.leaves i = .ok p ∧
    Go.assembleWithdrawalProof shake256 tree.leaves i = .ok p ∧
    Rust.assembleWithdrawalProof shake256 tree.leaves i = some p ∧
    Jvm.assembleWithdrawalProof shake256 tree.leaves i = .ok p ∧
    Py.assembleWithdrawalProof shake256 tree.leaves i = .ok p
  messages : executeWithdrawalMsg submitter (buildExecuteWithdrawalInput opts.rollupId (.bigint batchIndex.toNat)
      w.recipient w.denom (.bigint w.amount.toNat) p) = .ok m ∧
    Go.buildExecuteWithdrawalInput submitter opts.rollupId batchIndex w.recipient w.denom w.amount p = m ∧
    Rust.buildExecuteWithdrawalInput submitter opts.rollupId batchIndex w.recipient w.denom w.amount p = m ∧
    Jvm.buildExecuteWithdrawalInput submitter opts.rollupId batchIndex w.recipient w.denom w.amount p = m ∧
    Py.buildExecuteWithdrawalInput submitter opts.rollupId batchIndex w.recipient w.denom w.amount p = m
  wires : Go.marshal (.executeWithdrawal m) = (RdkMsg.executeWithdrawal m).encode ∧
    Jvm.marshal (.executeWithdrawal m) = (RdkMsg.executeWithdrawal m).encode ∧
    Py.encode (.executeWithdrawal m) = (RdkMsg.executeWithdrawal m).encode
  redeems : Redeems shake256 opts tree.root (RdkMsg.executeWithdrawal m).encode m

theorem interchanged_of_built {tree : WithdrawalsTree} (held : Held opts ws)
    (built : withdrawalsTree shake256 (ws.map WithdrawalItem.toTs) opts = .ok tree) (item : ws[i]? = some w)
    (small : w.amount.toNat < 2 ^ 63) (submitter : String) (batchIndex : BitVec 64) :
    ∃ p m, Interchanged shake256 opts tree.committed i w submitter batchIndex p m := by
  obtain ⟨-, read, root, -⟩ := withdrawalsTree_ok shake256 built
  obtain ⟨length, each⟩ := treeLeaves_ok shake256 read
  rw [List.length_map] at length
  obtain ⟨inside, here⟩ := List.getElem?_eq_some_iff.mp item
  obtain ⟨leaf, found, hashed⟩ := each i (by rwa [List.length_map])
  rw [Nat.zero_add, List.getElem_map, here] at hashed
  -- The honest proof, and what it proves.
  obtain ⟨q, collected, rooted, verified, -⟩ :=
    binaryMerkleProof_verifies shake256 CHAIN_TREE rfl tree.leaves i (by omega)
  let p : WithdrawalProof := ⟨q.siblings, q.root, i⟩
  have proof : assembleWithdrawalProof shake256 tree.leaves i = .ok p := by
    unfold assembleWithdrawalProof
    rw [collected]
    rfl
  have index : i < 2 ^ 64 := by
    have few := held.few
    omega
  let m := withdrawalMessage submitter opts.rollupId batchIndex w p
  have shared : (RdkMsg.executeWithdrawal m).Shared := by
    have batch := batchIndex.isLt
    change (0 ≤ (batchIndex.toNat : Int) ∧ (batchIndex.toNat : Int) < 2 ^ 64) ∧ (0 ≤ (i : Int) ∧ (i : Int) < 2 ^ 64) ∧
      -2 ^ 63 ≤ (w.amount.toNat : Int) ∧ (w.amount.toNat : Int) < 2 ^ 63
    omega
  have unsigned : (BitVec.ofInt 64 (i : Int)).toNat = i := by
    rw [BitVec.toNat_ofInt]
    omega
  refine ⟨p, m, ⟨proof, ?_, ?_, ?_, ?_⟩, ⟨?_, ?_, ?_, ?_, ?_⟩, ⟨?_, ?_, ?_⟩, ?_, ?_⟩
  · exact (Go.assembleWithdrawalProof_eq tree.leaves i).trans proof
  · exact (Rust.assembleWithdrawalProof_eq tree.leaves i).trans (congrArg Except.toOption proof)
  · exact (Jvm.assembleWithdrawalProof_eq tree.leaves i).trans proof
  · exact (Py.assembleWithdrawalProof_eq tree.leaves i).trans proof
  · exact executeWithdrawalMsg_built submitter opts.rollupId batchIndex w p
  · unfold Go.buildExecuteWithdrawalInput
    rw [unsigned, toInt_of_small small]
    rfl
  · unfold Rust.buildExecuteWithdrawalInput
    rw [unsigned, toInt_of_small small]
    rfl
  · unfold Jvm.buildExecuteWithdrawalInput
    rw [unsigned, toInt_of_small small]
    rfl
  · rfl
  · exact Go.marshal_eq shared
  · exact Jvm.marshal_eq shared
  · exact Py.encode_eq shared
  · exact executeWithdrawal_kept shared.1 shared.2.1 shared.2.2
  · have leafOf : tree.leaves[i] = leaf := (List.getElem?_eq_some_iff.mp found).2
    refine ⟨leaf, ?_, i, rfl, ?_⟩
    · exact hashed
    · change Verified shake256 leaf i q.siblings tree.root
      rw [root, ← leafOf, ← rooted]
      exact verified_of_ts verified

/-- Whatever client builds a tree, and whatever client proves from it and sends, the withdrawal is the same one. -/
theorem withdrawals_interchangeable (held : Held opts ws) :
    let built := (withdrawalsTree shake256 (ws.map WithdrawalItem.toTs) opts).map WithdrawalsTree.committed
    (Go.newWithdrawalsTree shake256 ws opts.rollupId opts.version (opts.chainId.getD "") = built ∧
      Rust.withdrawalsTree shake256 ws opts.rollupId opts.version (opts.chainId.getD "") = built ∧
      Jvm.withdrawalsTree shake256 ws opts.rollupId opts.version opts.chainId = built ∧
      Py.withdrawalsTree shake256 readInt ws opts.rollupId opts.version opts.chainId = built) ∧
    ∀ tree, built = .ok tree → ∀ i w, ws[i]? = some w → w.amount.toNat < 2 ^ 63 → ∀ submitter batchIndex,
      ∃ p m, Interchanged shake256 opts tree i w submitter batchIndex p m := by
  refine ⟨⟨Go.newWithdrawalsTree_eq held, Rust.withdrawalsTree_eq held, Jvm.withdrawalsTree_eq held,
    Py.withdrawalsTree_eq held⟩, ?_⟩
  intro tree built i w item small submitter batchIndex
  cases made : withdrawalsTree shake256 (ws.map WithdrawalItem.toTs) opts with
  | error e =>
    rw [made] at built
    cases built
  | ok whole =>
    rw [made] at built
    cases built
    exact interchanged_of_built held made item small submitter batchIndex

def sampleItems : List WithdrawalItem := [⟨"qor1a", "uqor", 5⟩, ⟨"qor1b", "uqor", 7⟩, ⟨"qor1c", "uqor", 9⟩]

def sampleTreeOptions : WithdrawalsTreeOptions := { rollupId := "r", version := .v2, chainId := some "q" }

/-- The third of three withdrawals, whose sibling is its own leaf. -/
theorem withdrawals_interchangeable_sample :
    ∃ tree, Go.newWithdrawalsTree id sampleItems "r" .v2 "q" = .ok tree ∧ ∀ submitter batchIndex, ∃ p m,
      Interchanged id sampleTreeOptions tree 2 ⟨"qor1c", "uqor", 9⟩ submitter batchIndex p m := by
  have short : ∀ w ∈ sampleItems, (encode w.recipient).length < 2 ^ 32 ∧ (encode w.denom).length < 2 ^ 32 := by
    decide
  have held : Held sampleTreeOptions sampleItems :=
    ⟨show (encode "r").length < 2 ^ 32 by decide, show (encode "q").length < 2 ^ 32 by decide, short, by decide⟩
  obtain ⟨⟨go, -⟩, proved⟩ := @withdrawals_interchangeable id _ _ (fun _ => fail "") held
  have made : (Go.newWithdrawalsTree id sampleItems "r" .v2 "q").isOk = true := by decide +kernel
  cases tree : Go.newWithdrawalsTree id sampleItems "r" .v2 "q" with
  | error e =>
    rw [tree] at made
    cases made
  | ok built =>
    refine ⟨built, rfl, fun submitter batchIndex => ?_⟩
    exact proved built (go.symm.trans tree) 2 _ rfl (by decide) submitter batchIndex

end QorechainRdk
