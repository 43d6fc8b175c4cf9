import QorechainRdk.Receipts.Verify
import QorechainRdk.Rules
import QorechainRdk.Utils.Hex

/-!
# The anchor messages

The v2 message is read back from the left, each length giving the next boundary. The v1 message has no
boundaries, and its first bytes are an id of the caller's.
-/

namespace QorechainRdk.Receipts

open Js

/-- The input of `anchorSignBytesV2`. -/
structure AnchorSignInput where
  chainId : String
  layerId : String
  layerHeight : Integral
  stateRoot : String
  validatorSetHash : String
  transactionCount : Integral
  compressedStateProof : Option String := none
  deriving DecidableEq, Repr

def AnchorSignInput.signBytes (i : AnchorSignInput) : Except JsError Bytes :=
  anchorSignBytesV2 i.chainId i.layerId i.layerHeight i.stateRoot i.validatorSetHash i.transactionCount
    i.compressedStateProof

def IsU64 (value : Integral) : Prop := ∃ n : Int, bigInt value = .ok n ∧ 0 ≤ n ∧ n < 2 ^ 64

structure AnchorSignInput.Bounded (i : AnchorSignInput) : Prop where
  chainId : FitsString i.chainId
  layerId : FitsString i.layerId
  layerHeight : IsU64 i.layerHeight
  stateRoot : FitsString i.stateRoot
  validatorSetHash : FitsString i.validatorSetHash
  transactionCount : IsU64 i.transactionCount
  compressedStateProof : FitsString (i.compressedStateProof.getD "")

/-- Byte fields agree when their texts do, up to case and prefix. -/
structure AnchorSignInput.Agrees (i j : AnchorSignInput) : Prop where
  chainId : i.chainId = j.chainId
  layerId : i.layerId = j.layerId
  layerHeight : bigInt i.layerHeight = bigInt j.layerHeight
  stateRoot : normalHex i.stateRoot = normalHex j.stateRoot
  validatorSetHash : normalHex i.validatorSetHash = normalHex j.validatorSetHash
  transactionCount : bigInt i.transactionCount = bigInt j.transactionCount
  compressedStateProof : normalHex (i.compressedStateProof.getD "") =
    normalHex (j.compressedStateProof.getD "")

/-! ### The fields as bytes -/

structure SignedFields where
  chainId : Bytes
  layerId : Bytes
  layerHeight : Int
  stateRoot : Bytes
  validatorSetHash : Bytes
  transactionCount : Int
  compressedStateProof : Bytes

structure SignedFields.InRange (f : SignedFields) : Prop where
  chainId : f.chainId.length < 256 ^ 8
  layerId : f.layerId.length < 256 ^ 8
  layerHeight : 0 ≤ f.layerHeight ∧ f.layerHeight < 256 ^ 8
  stateRoot : f.stateRoot.length < 256 ^ 8
  validatorSetHash : f.validatorSetHash.length < 256 ^ 8
  transactionCount : 0 ≤ f.transactionCount ∧ f.transactionCount < 256 ^ 8
  compressedStateProof : f.compressedStateProof.length < 256 ^ 8

def SignedFields.message (f : SignedFields) : Bytes :=
  encode ANCHOR_SIGN_DOMAIN_V2 ++ (Coding.lengthPrefixed 8 f.chainId ++ (Coding.lengthPrefixed 8 f.layerId ++
    (Coding.bigEndian 8 f.layerHeight ++ (Coding.lengthPrefixed 8 f.stateRoot ++
      (Coding.lengthPrefixed 8 f.validatorSetHash ++ (Coding.bigEndian 8 f.transactionCount ++
        Coding.lengthPrefixed 8 f.compressedStateProof))))))

/-- The message is read from the left, field by field. -/
theorem SignedFields.message_inj {f g : SignedFields} (hf : f.InRange) (hg : g.InRange)
    (same : f.message = g.message) : f = g := by
  have prefixed := Coding.lengthPrefixed_selfDelimiting 8
  have integer := Coding.bigEndian_selfDelimiting 8
  unfold message at same
  have rest := List.append_cancel_left same
  obtain ⟨chainId, rest⟩ := prefixed hf.chainId hg.chainId rest
  obtain ⟨layerId, rest⟩ := prefixed hf.layerId hg.layerId rest
  obtain ⟨layerHeight, rest⟩ := integer hf.layerHeight hg.layerHeight rest
  obtain ⟨stateRoot, rest⟩ := prefixed hf.stateRoot hg.stateRoot rest
  obtain ⟨validatorSetHash, rest⟩ := prefixed hf.validatorSetHash hg.validatorSetHash rest
  obtain ⟨transactionCount, rest⟩ := integer hf.transactionCount hg.transactionCount rest
  have proof := prefixed.inj hf.compressedStateProof hg.compressedStateProof rest
  cases f
  cases g
  simp_all

/-- What the message says of an input. -/
structure Reads (i : AnchorSignInput) (f : SignedFields) : Prop where
  chainId : f.chainId = encode i.chainId
  layerId : f.layerId = encode i.layerId
  layerHeight : bigInt i.layerHeight = .ok f.layerHeight
  stateRoot : hexToBytes i.stateRoot = .ok f.stateRoot
  validatorSetHash : hexToBytes i.validatorSetHash = .ok f.validatorSetHash
  transactionCount : bigInt i.transactionCount = .ok f.transactionCount
  compressedStateProof : hexToBytes (i.compressedStateProof.getD "") = .ok f.compressedStateProof

theorem lengthPrefixed_ok (b : Bytes) : lengthPrefixed b = .ok [Coding.bigEndian 8 b.length, b] := by
  have length : u64be (.number b.length) = .ok (Coding.bigEndian 8 b.length) :=
    u64be_ok_iff.mpr ⟨b.length, rfl, rfl⟩
  unfold lengthPrefixed
  rw [length]
  rfl

section
variable {i j : AnchorSignInput} {f g : SignedFields} {b : Bytes}

theorem signBytes_ok_iff : i.signBytes = .ok b ↔ ∃ f, Reads i f ∧ f.message = b := by
  unfold AnchorSignInput.signBytes anchorSignBytesV2
  simp only [lengthPrefixed_ok, ok_bind, bind_ok_iff, pure_ok_iff, u64be_ok_iff]
  constructor
  · intro h
    obtain ⟨height, ⟨h, heightRead, rfl⟩, root, rootRead, vsh, vshRead, count, ⟨c, countRead, rfl⟩, proof,
      proofRead, rfl⟩ := h
    refine ⟨⟨encode i.chainId, encode i.layerId, h, root, vsh, c, proof⟩,
      ⟨rfl, rfl, heightRead, rootRead, vshRead, countRead, proofRead⟩, ?_⟩
    simp [SignedFields.message, Coding.lengthPrefixed]
  · intro h
    obtain ⟨f, reads, rfl⟩ := h
    refine ⟨_, ⟨_, reads.layerHeight, rfl⟩, _, reads.stateRoot, _, reads.validatorSetHash, _,
      ⟨_, reads.transactionCount, rfl⟩, _, reads.compressedStateProof, ?_⟩
    simp [SignedFields.message, Coding.lengthPrefixed, reads.chainId, reads.layerId]

theorem hexToBytes_length {hex : String} (read : hexToBytes hex = .ok b) (fits : FitsString hex) :
    b.length < 256 ^ 8 := by
  obtain ⟨even, digits, rfl⟩ := hexToBytes_ok_iff.mp read
  have pairs := congrArg List.length (flatMap_hexPairs even digits)
  rw [length_flatMap_hexPair, List.length_map] at pairs
  have shorter : (stripHexPrefix hex.toList).length ≤ hex.toList.length := by
    unfold stripHexPrefix
    split
    · rename_i same
      simp [same]
      omega
    · rename_i same
      simp [same]
      omega
    · exact Nat.le_refl _
  have units := toList_length_le hex
  unfold FitsString MAX_SAFE_INTEGER at fits
  omega

theorem encode_fits {s : String} (fits : FitsString s) : (encode s).length < 256 ^ 7 := by
  have bound := encode_length_le fits
  unfold MAX_SAFE_INTEGER at bound
  omega

theorem IsU64.range {value : Integral} {n : Int} (h : IsU64 value) (read : bigInt value = .ok n) :
    0 ≤ n ∧ n < 256 ^ 8 := by
  obtain ⟨m, same, range⟩ := h
  rw [read] at same
  cases same
  omega

theorem Reads.inRange (reads : Reads i f) (bounded : i.Bounded) : f.InRange where
  chainId := by
    have short := encode_fits bounded.chainId
    rw [reads.chainId]
    omega
  layerId := by
    have short := encode_fits bounded.layerId
    rw [reads.layerId]
    omega
  layerHeight := bounded.layerHeight.range reads.layerHeight
  stateRoot := hexToBytes_length reads.stateRoot bounded.stateRoot
  validatorSetHash := hexToBytes_length reads.validatorSetHash bounded.validatorSetHash
  transactionCount := bounded.transactionCount.range reads.transactionCount
  compressedStateProof := hexToBytes_length reads.compressedStateProof bounded.compressedStateProof

theorem Reads.agrees (first : Reads i f) (second : Reads j f) : i.Agrees j where
  chainId := encode_inj (first.chainId.symm.trans second.chainId)
  layerId := encode_inj (first.layerId.symm.trans second.layerId)
  layerHeight := first.layerHeight.trans second.layerHeight.symm
  stateRoot := normalHex_inj first.stateRoot second.stateRoot
  validatorSetHash := normalHex_inj first.validatorSetHash second.validatorSetHash
  transactionCount := first.transactionCount.trans second.transactionCount.symm
  compressedStateProof := normalHex_inj first.compressedStateProof second.compressedStateProof

end

/-- One v2 message, one input. -/
theorem anchorSignBytesV2_inj {i j : AnchorSignInput} {b : Bytes} (hi : i.Bounded) (hj : j.Bounded)
    (first : i.signBytes = .ok b) (second : j.signBytes = .ok b) : i.Agrees j := by
  obtain ⟨f, reads, rfl⟩ := signBytes_ok_iff.mp first
  obtain ⟨g, reads', same⟩ := signBytes_ok_iff.mp second
  have equal := SignedFields.message_inj (reads'.inRange hj) (reads.inRange hi) same
  rw [equal] at reads'
  exact reads.agrees reads'

def sampleInput : AnchorSignInput where
  chainId := "q"
  layerId := "r"
  layerHeight := .number 3
  stateRoot := "0xAB12"
  validatorSetHash := ""
  transactionCount := .bigint 10

def respelled : AnchorSignInput :=
  { sampleInput with
    layerHeight := .bigint 3
    stateRoot := "ab12"
    compressedStateProof := some "0x" }

theorem sampleInput_bounded : sampleInput.Bounded where
  chainId := by unfold FitsString; decide
  layerId := by unfold FitsString; decide
  layerHeight := ⟨3, rfl, by decide, by decide⟩
  stateRoot := by unfold FitsString; decide
  validatorSetHash := by unfold FitsString; decide
  transactionCount := ⟨10, rfl, by decide, by decide⟩
  compressedStateProof := by unfold FitsString; decide

theorem respelled_bounded : respelled.Bounded where
  chainId := by unfold FitsString; decide
  layerId := by unfold FitsString; decide
  layerHeight := ⟨3, rfl, by decide, by decide⟩
  stateRoot := by unfold FitsString; decide
  validatorSetHash := by unfold FitsString; decide
  transactionCount := ⟨10, rfl, by decide, by decide⟩
  compressedStateProof := by unfold FitsString; decide

theorem anchorSignBytesV2_inj_sample :
    ∃ b, sampleInput.signBytes = .ok b ∧ respelled.signBytes = .ok b ∧ sampleInput.Agrees respelled := by
  obtain ⟨b, signed⟩ : ∃ b, sampleInput.signBytes = .ok b ∧ respelled.signBytes = .ok b :=
    ⟨_, rfl, by decide⟩
  exact ⟨b, signed.1, signed.2, anchorSignBytesV2_inj sampleInput_bounded respelled_bounded signed.1 signed.2⟩

/-! ### The two versions -/

section
variable {layerId : String} {i : AnchorSignInput} {b : Bytes}

theorem anchorSignBytesV1_ok_iff {layerHeight : Integral} {stateRoot validatorSetHash : String} :
    anchorSignBytesV1 layerId layerHeight stateRoot validatorSetHash = .ok b ↔
      ∃ h root vsh, bigInt layerHeight = .ok h ∧ hexToBytes stateRoot = .ok root ∧
        hexToBytes validatorSetHash = .ok vsh ∧ encode layerId ++ Coding.bigEndian 8 h ++ root ++ vsh = b := by
  unfold anchorSignBytesV1
  simp only [bind_ok_iff, pure_ok_iff, u64be_ok_iff]
  constructor
  · intro signed
    obtain ⟨_, ⟨h, height, rfl⟩, root, rootRead, vsh, vshRead, rfl⟩ := signed
    exact ⟨h, root, vsh, height, rootRead, vshRead, rfl⟩
  · intro signed
    obtain ⟨h, root, vsh, height, rootRead, vshRead, rfl⟩ := signed
    exact ⟨_, ⟨h, height, rfl⟩, root, rootRead, vsh, vshRead, rfl⟩

theorem idChar_ne_nul {c : Char}
    (h : ('a' ≤ c ∧ c ≤ 'z') ∨ ('0' ≤ c ∧ c ≤ '9') ∨ c = '.' ∨ c = '_' ∨ c = '-') : c ≠ '\x00' := by
  rintro rfl
  revert h
  decide

theorem rollupId_no_nul (grammar : rollupIdError layerId = none) : (0 : UInt8) ∉ encode layerId := by
  apply zero_not_mem_encode
  intro member
  exact idChar_ne_nul (rollupIdErrorLoop_none (rollupIdError_none grammar).2.2 member) rfl

/-- Past the tag comes the first byte of a length, which is zero, and no id has that byte. -/
theorem prefix_of_shared (grammar : rollupIdError layerId = none) (fits : FitsString i.chainId) {rest : Bytes}
    (signed : i.signBytes = .ok b) (shared : b = encode layerId ++ rest) :
    encode layerId <+: encode ANCHOR_SIGN_DOMAIN_V2 := by
  obtain ⟨f, reads, rfl⟩ := signBytes_ok_iff.mp signed
  have short := encode_fits fits
  have leading : ∃ tail, f.message = encode ANCHOR_SIGN_DOMAIN_V2 ++ 0 :: tail := by
    have zero := Coding.bigEndian_leading_zero (n := 7) (v := f.chainId.length) (by omega) (by
      rw [reads.chainId]
      exact_mod_cast short)
    unfold SignedFields.message
    rw [Coding.lengthPrefixed, zero]
    exact ⟨_, rfl⟩
  obtain ⟨tail, message⟩ := leading
  rw [message] at shared
  rcases List.append_eq_append_iff.mp shared with ⟨beyond, id, after⟩ | ⟨beyond, tag, -⟩
  · cases beyond with
    | nil =>
      rw [id, List.append_nil]
    | cons x beyond =>
      obtain ⟨rfl, -⟩ := List.cons.inj after
      exact absurd (id ▸ List.mem_append_right _ List.mem_cons_self) (rollupId_no_nul grammar)
  · exact ⟨beyond, tag.symm⟩

/-- Any eight bytes are a height, and any bytes behind them a state root. -/
theorem v1_of_prefix (tagged : encode layerId <+: encode ANCHOR_SIGN_DOMAIN_V2)
    (signed : i.signBytes = .ok b) : ∃ layerHeight stateRoot, IsU64 layerHeight ∧
      anchorSignBytesV1 layerId layerHeight stateRoot "" = .ok b := by
  obtain ⟨f, -, rfl⟩ := signBytes_ok_iff.mp signed
  obtain ⟨beyond, tag⟩ := tagged
  unfold SignedFields.message
  rw [← tag, List.append_assoc]
  generalize more : beyond ++ _ = rest
  have long : 8 ≤ rest.length := by
    rw [← more]
    simp only [List.length_append, Coding.length_lengthPrefixed, Coding.length_bigEndian]
    omega
  obtain ⟨h, nonneg, small, height⟩ := Coding.bigEndian_surjective (n := 8) (b := rest.take 8) (by
    rw [List.length_take]
    omega)
  refine ⟨.bigint h, bytesToHex (rest.drop 8), ⟨h, rfl, nonneg, small⟩, ?_⟩
  apply anchorSignBytesV1_ok_iff.mpr
  refine ⟨h, rest.drop 8, [], rfl, hexToBytes_bytesToHex _, rfl, ?_⟩
  rw [height, List.append_nil, List.append_assoc, List.take_append_drop]

end

/-- The ids of the grammar under which a v1 message can be a v2 message are those that begin the v2 tag, and
under them every v2 message is one. -/
theorem anchorSignBytes_shared_iff {layerId : String} (grammar : rollupIdError layerId = none)
    {i : AnchorSignInput} (fits : FitsString i.chainId) {b : Bytes} (signed : i.signBytes = .ok b) :
    (∃ layerHeight stateRoot validatorSetHash, IsU64 layerHeight ∧
        anchorSignBytesV1 layerId layerHeight stateRoot validatorSetHash = .ok b) ↔
      encode layerId <+: encode ANCHOR_SIGN_DOMAIN_V2 := by
  constructor
  · intro shared
    obtain ⟨layerHeight, stateRoot, vsh, -, v1⟩ := shared
    obtain ⟨h, root, vsh, -, -, -, same⟩ := anchorSignBytesV1_ok_iff.mp v1
    rw [List.append_assoc, List.append_assoc] at same
    exact prefix_of_shared grammar fits signed same.symm
  · intro tagged
    obtain ⟨layerHeight, stateRoot, range, v1⟩ := v1_of_prefix tagged signed
    exact ⟨layerHeight, stateRoot, "", range, v1⟩

theorem anchorSignBytes_shared_iff_sample : rollupIdError "rollup-1" = none ∧
    ∃ b, sampleInput.signBytes = .ok b ∧
      ¬ ∃ layerHeight stateRoot validatorSetHash, IsU64 layerHeight ∧
        anchorSignBytesV1 "rollup-1" layerHeight stateRoot validatorSetHash = .ok b := by
  have grammar : rollupIdError "rollup-1" = none := by decide
  refine ⟨grammar, _, rfl, ?_⟩
  rw [anchorSignBytes_shared_iff grammar sampleInput_bounded.chainId rfl]
  decide

/-- The tag is itself an id of the grammar: a v1 message under it continues as a v2 message does. -/
theorem tag_layer_shares : ¬ ∀ (layerId : String) (layerHeight : Integral)
    (stateRoot validatorSetHash : String) (i : AnchorSignInput) (b : Bytes), rollupIdError layerId = none →
      IsU64 layerHeight → i.Bounded →
      anchorSignBytesV1 layerId layerHeight stateRoot validatorSetHash = .ok b → i.signBytes ≠ .ok b := by
  intro separated
  refine separated ANCHOR_SIGN_DOMAIN_V2 (.bigint 1)
    ("71" ++ "000000000000000172" ++ "0000000000000003" ++ "0000000000000002ab12" ++ "0000000000000000" ++
      "000000000000000a" ++ "0000000000000000") "" sampleInput _ ?_ ?_ sampleInput_bounded rfl ?_
  · decide
  · exact ⟨1, rfl, by decide, by decide⟩
  · decide +kernel

end QorechainRdk.Receipts
