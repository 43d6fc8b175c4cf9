import QorechainRdk.Receipts.SignBytes
import QorechainRdk.Tx.Client
import QorechainRdk.Tx.RoundTrip

/-!
# What is anchored and what is broadcast

The signed bytes and the message are converted from one input by two paths, which give the same bytes.
-/

namespace QorechainRdk

open Js Receipts

/-! ### The parts of a submission -/

theorem hexOrEmpty_ok_iff {value : Option HexOrBytes} {hex : String} :
    hexOrEmpty value = .ok hex ↔ ∃ b, toBytesOrEmpty value = .ok b ∧ bytesToHex b = hex := by
  cases value with
  | none => simp [hexOrEmpty, toBytesOrEmpty, bytesToHex]
  | some v =>
    unfold hexOrEmpty toBytesOrEmpty
    dsimp only
    split
    · simp [bytesToHex]
    · simp only [bind_ok_iff, pure_ok_iff]

section
variable {pqcSign : PqcSign} {fetch : FetchLike} {fetchAt : Nat → FetchLike} {client : RdkTxClient}
  {input anchored : SubmitBatchInput} {mode : AnchorMode} {message : MsgSubmitBatch}

theorem anchorSignBytesForBatch_ok {chainId layerId : String} {signBytes : Bytes}
    (signed : anchorSignBytesForBatch chainId layerId input.batchIndex input.stateRoot input.txCount
      input.validatorSetHash = .ok signBytes) :
    ∃ h root vsh count, bigInt input.batchIndex = .ok h ∧ toBytes input.stateRoot = .ok root ∧
      toBytesOrEmpty input.validatorSetHash = .ok vsh ∧ bigInt input.txCount = .ok count ∧
      anchorSignBytesV2 chainId layerId (.bigint h) (bytesToHex root) (bytesToHex vsh) (.bigint count)
        (some "") = .ok signBytes := by
  unfold anchorSignBytesForBatch at signed
  obtain ⟨h, height, signed⟩ := bind_ok signed
  obtain ⟨root, rootRead, signed⟩ := bind_ok signed
  obtain ⟨hex, hexRead, signed⟩ := bind_ok signed
  obtain ⟨count, countRead, signed⟩ := bind_ok signed
  obtain ⟨vsh, vshRead, rfl⟩ := hexOrEmpty_ok_iff.mp hexRead
  exact ⟨h, root, vsh, count, height, rootRead, vshRead, countRead, signed⟩

/-- A signature is made by the rollup's creator, on a rollup that has a layer, of the batch's sign bytes. -/
theorem tryAnchorSignature_signed {signature : Bytes} {reason : String}
    (signed : tryAnchorSignature pqcSign fetch client input = .ok ⟨some signature, reason⟩) :
    ∃ hybrid rest chainId rollup signBytes, client.hybrid = some hybrid ∧ client.rest = some rest ∧
      client.getChainId = some (.ok chainId) ∧ getRollup fetch rest input.rollupId = .ok rollup ∧
      rollup.creator = client.address ∧
      anchorSignBytesForBatch chainId rollup.layerId input.batchIndex input.stateRoot input.txCount
        input.validatorSetHash = .ok signBytes ∧
      pqcSign hybrid.pqcKeypair.secretKey signBytes = .ok signature := by
  unfold tryAnchorSignature at signed
  split at signed
  · cases signed
  · rename_i hybrid config
    split at signed
    · cases signed
    · rename_i rest endpoint
      split at signed
      · cases signed
      · rename_i getChainId transport
        split at signed
        · cases signed
        · rename_i rollup read
          split at signed
          · cases signed
          · split at signed
            · cases signed
            · rename_i creator
              obtain ⟨chainId, chain, signed⟩ := bind_ok signed
              obtain ⟨signBytes, bytes, signed⟩ := bind_ok signed
              obtain ⟨signature', made, signed⟩ := bind_ok signed
              cases signed
              rw [chain] at transport
              exact ⟨hybrid, rest, chainId, rollup, signBytes, config, endpoint, transport, read,
                not_not.mp creator, bytes, made⟩

theorem submitBatch_ok_iff : submitBatch pqcSign fetchAt client input mode = .ok message ↔
    withdrawalsRootError input.withdrawalsRoot = none ∧ checkDataHash (fetchAt 0) client input = .ok () ∧
      ∃ anchored, withAnchor pqcSign (fetchAt 1) client input mode = .ok anchored ∧
        submitBatchMsg client.address anchored = .ok message := by
  unfold submitBatch
  split
  · rename_i rootErr refused
    simp [refused]
  · rename_i accepted
    simp only [accepted, bind_ok_iff, true_and]
    constructor
    · intro sent
      obtain ⟨⟨⟩, checked, anchored, anchor, built⟩ := sent
      exact ⟨checked, anchored, anchor, built⟩
    · intro sent
      obtain ⟨checked, anchored, anchor, built⟩ := sent
      exact ⟨(), checked, anchored, anchor, built⟩

/-- Without a signature of the caller's, the anchor is signed or, unless it is required, left out. -/
theorem withAnchor_unsupplied (unsupplied : missing input.anchorSignature = true) (signing : mode ≠ .off)
    (anchor : withAnchor pqcSign fetch client input mode = .ok anchored) :
    (∃ signature reason, tryAnchorSignature pqcSign fetch client input = .ok ⟨some signature, reason⟩ ∧
      anchored = { input with anchorSignature := some (.bytes signature) }) ∨
    (∃ reason, tryAnchorSignature pqcSign fetch client input = .ok ⟨none, reason⟩ ∧ mode ≠ .require ∧
      anchored = input) := by
  unfold withAnchor at anchor
  rw [if_pos ⟨unsupplied, signing⟩] at anchor
  obtain ⟨⟨signature, reason⟩, attempt, anchor⟩ := bind_ok anchor
  cases signature with
  | some signature =>
    cases anchor
    exact Or.inl ⟨signature, reason, attempt, rfl⟩
  | none =>
    obtain ⟨optional, anchor⟩ := guard_ok_iff.mp anchor
    cases anchor
    exact Or.inr ⟨reason, attempt, optional, rfl⟩

theorem withAnchor_supplied (supplied : missing input.anchorSignature = false) :
    withAnchor pqcSign fetch client input mode = .ok input := by
  unfold withAnchor
  exact if_neg (by simp [supplied])

end

/-! ### The anchor of a batch -/

/-- No signature of the scheme is empty. -/
def SignsNonempty (pqcSign : PqcSign) : Prop :=
  ∀ secretKey message signature, pqcSign secretKey message = .ok signature → signature ≠ []

/-- The client makes a signature of its own for the batch. -/
def Signs (pqcSign : PqcSign) (fetch : FetchLike) (client : RdkTxClient) (input : SubmitBatchInput) : Prop :=
  ∃ signature reason, tryAnchorSignature pqcSign fetch client input = .ok ⟨some signature, reason⟩

/-- The client's address is that of the rollup's creator, as the read has it. -/
def IsCreator (fetch : FetchLike) (client : RdkTxClient) (rollupId : String) : Prop :=
  ∃ rest rollup, client.rest = some rest ∧ getRollup fetch rest rollupId = .ok rollup ∧
    rollup.creator = client.address

/-- The message carries the client's signature over the v2 sign bytes of its own fields, on the chain and
under the layer that were read, and comes off the wire as it is. -/
def SelfAnchored (pqcSign : PqcSign) (fetch : FetchLike) (client : RdkTxClient) (message : MsgSubmitBatch) :
    Prop :=
  ∃ hybrid rest chainId rollup signBytes, client.hybrid = some hybrid ∧ client.rest = some rest ∧
    client.getChainId = some (.ok chainId) ∧ getRollup fetch rest message.rollupId = .ok rollup ∧
    anchorSignBytesV2 chainId rollup.layerId (.bigint message.batchIndex) (bytesToHex message.stateRoot)
      (bytesToHex message.validatorSetHash) (.bigint message.txCount) (some "") = .ok signBytes ∧
    pqcSign hybrid.pqcKeypair.secretKey signBytes = .ok message.anchorSignature ∧
    message.anchorSignature ≠ [] ∧
    MsgSubmitBatch.codec.decode (MsgSubmitBatch.codec.encode message) = some message

theorem isUint64_of_isU64 {value : Integral} {n : Int} (h : IsU64 value) (read : bigInt value = .ok n) :
    IsUint64 n := h.range read

section
variable {pqcSign : PqcSign} {fetch : FetchLike} {client : RdkTxClient} {input : SubmitBatchInput}
  {message : MsgSubmitBatch}

theorem selfAnchored_of_built (nonempty : SignsNonempty pqcSign) (batchIndex : IsU64 input.batchIndex)
    (txCount : IsU64 input.txCount) {signature : Bytes} {reason : String}
    (signed : tryAnchorSignature pqcSign fetch client input = .ok ⟨some signature, reason⟩)
    (built : submitBatchMsg client.address { input with anchorSignature := some (.bytes signature) } = .ok
      message) : SelfAnchored pqcSign fetch client message := by
  obtain ⟨hybrid, rest, chainId, rollup, signBytes, config, endpoint, transport, read, -, bytes, made⟩ :=
    tryAnchorSignature_signed signed
  obtain ⟨h, root, vsh, count, height, rootRead, vshRead, countRead, signBytes_eq⟩ :=
    anchorSignBytesForBatch_ok bytes
  have becomes := (submitBatchMsg_ok_iff.mp built).2
  -- Both paths read the same values, so the signed ones are those of the message.
  cases Except.ok.inj (height.symm.trans becomes.batchIndex)
  cases Except.ok.inj (rootRead.symm.trans becomes.stateRoot)
  cases Except.ok.inj (countRead.symm.trans becomes.txCount)
  cases Except.ok.inj (vshRead.symm.trans becomes.validatorSetHash)
  cases becomes.anchorSignature
  have run := message.run
  rw [(isUint64_of_isU64 batchIndex height).wrap, (isUint64_of_isU64 txCount countRead).wrap] at run
  refine ⟨hybrid, rest, chainId, rollup, signBytes, config, endpoint, transport, ?_, signBytes_eq, made,
    nonempty _ _ _ made, Protobuf.decode_flatten run⟩
  rw [becomes.rollupId]
  exact read

theorem isCreator_of_signs (signs : Signs pqcSign fetch client input) :
    IsCreator fetch client input.rollupId := by
  obtain ⟨signature, reason, signed⟩ := signs
  obtain ⟨hybrid, rest, chainId, rollup, signBytes, -, endpoint, -, read, creator, -⟩ :=
    tryAnchorSignature_signed signed
  exact ⟨rest, rollup, endpoint, read, creator⟩

end

/-- What is anchored is what is broadcast, and only the creator anchors. -/
theorem submitBatch_anchors {pqcSign : PqcSign} (nonempty : SignsNonempty pqcSign) {fetch : Nat → FetchLike}
    {client : RdkTxClient} {input : SubmitBatchInput} {mode : AnchorMode}
    (unsupplied : missing input.anchorSignature = true) (signing : mode ≠ .off)
    (batchIndex : IsU64 input.batchIndex) (txCount : IsU64 input.txCount) :
    (Signs pqcSign (fetch 1) client input → IsCreator (fetch 1) client input.rollupId) ∧
    ∀ message, submitBatch pqcSign fetch client input mode = .ok message →
      (Signs pqcSign (fetch 1) client input ↔ message.anchorSignature ≠ []) ∧
      (Signs pqcSign (fetch 1) client input → SelfAnchored pqcSign (fetch 1) client message) := by
  refine ⟨isCreator_of_signs, ?_⟩
  intro message sent
  obtain ⟨-, -, anchored, anchor, built⟩ := submitBatch_ok_iff.mp sent
  rcases withAnchor_unsupplied unsupplied signing anchor with
    ⟨signature, reason, signed, rfl⟩ | ⟨reason, unsigned, -, rfl⟩
  · have whole := selfAnchored_of_built nonempty batchIndex txCount signed built
    obtain ⟨_, _, _, _, _, _, _, _, _, _, _, present, _⟩ := id whole
    exact ⟨⟨fun _ => present, fun _ => ⟨signature, reason, signed⟩⟩, fun _ => whole⟩
  · have idle : ¬ Signs pqcSign (fetch 1) client anchored := by
      intro signs
      obtain ⟨signature, reason', signed⟩ := signs
      rw [unsigned] at signed
      cases signed
    have becomes := (submitBatchMsg_ok_iff.mp built).2
    have empty := Except.ok.inj (becomes.anchorSignature.symm.trans (toBytesOrEmpty_missing unsupplied))
    exact ⟨⟨fun signs => absurd signs idle, fun present => absurd empty present⟩,
      fun signs => absurd signs idle⟩

/-- A stand-in for the scheme, with short signatures. -/
def samplePqcSign : PqcSign := fun secretKey message => .ok (1 :: secretKey ++ message.take 8)

theorem samplePqcSign_nonempty : SignsNonempty samplePqcSign := by
  intro secretKey message signature made
  cases made
  exact List.cons_ne_nil _ _

def sampleRollupJson : Json := .object [("rollup", .object [
  ("rollup_id", .string "roll-1"), ("creator", .string "qor1creator"), ("layer_id", .string "layer-1"),
  ("da_backend", .string "native")])]

def sampleFetch : FetchLike := fun url =>
  if url = "https://node/qorechain/rdk/v1/rollup/roll-1" then
    .ok { ok := true, status := 200, statusText := "OK", json := .ok sampleRollupJson }
  else .ok { ok := false, status := 404, statusText := "Not Found", json := fail "no body" }

def creatorClient : RdkTxClient where
  address := "qor1creator"
  hybrid := some { pqcKeypair := ⟨[1], [2]⟩, rest := some "https://node/" }
  getChainId := some (.ok "qorechain-1")

def sampleBatchInput : SubmitBatchInput where
  rollupId := "roll-1"
  batchIndex := .string "0x07"
  stateRoot := .hex "0XAB12"
  txCount := .number 3
  anchorSignature := some (.hex "")

def sampleMessage : MsgSubmitBatch where
  sequencer := "qor1creator"
  rollupId := "roll-1"
  batchIndex := 7
  stateRoot := [0xab, 0x12]
  prevStateRoot := []
  txCount := 3
  dataHash := []
  proof := []
  withdrawalsRoot := []
  anchorSignature := [1, 2, 113, 111, 114, 101, 99, 104, 97, 105]
  validatorSetHash := []

theorem sampleMessage_sent : ∀ mode, mode ≠ .off →
    submitBatch samplePqcSign (fun _ => sampleFetch) creatorClient sampleBatchInput mode = .ok sampleMessage := by
  intro mode signing
  cases mode with
  | auto => decide
  | require => decide
  | off => exact absurd rfl signing

theorem submitBatch_anchors_sample :
    submitBatch samplePqcSign (fun _ => sampleFetch) creatorClient sampleBatchInput .auto = .ok sampleMessage ∧
      SelfAnchored samplePqcSign sampleFetch creatorClient sampleMessage := by
  have whole := @submitBatch_anchors samplePqcSign samplePqcSign_nonempty (fun _ => sampleFetch) creatorClient
    sampleBatchInput .auto (by decide) (by decide) ⟨7, by decide, by decide, by decide⟩
    ⟨3, rfl, by decide, by decide⟩
  have sent := sampleMessage_sent .auto (by decide)
  obtain ⟨signs, anchored⟩ := whole.2 _ sent
  exact ⟨sent, anchored (signs.mpr (List.cons_ne_nil _ _))⟩

/-! ### The anchor that is required -/

/-- A signature that is there, but has no bytes. -/
def EmptySpelling (signature : Option HexOrBytes) : Prop :=
  signature = some (.bytes []) ∨ signature = some (.hex "0x") ∨ signature = some (.hex "0X")

/-- No rule of the chain's is found broken by the data hash. -/
def DataHashPasses (fetch : FetchLike) (client : RdkTxClient) (input : SubmitBatchInput) : Prop :=
  ∃ bytes, toBytesOrEmpty input.dataHash = .ok bytes ∧ (bytes = [] ∨ client.rest = none ∨
    ∃ rest rollup, client.rest = some rest ∧ getRollup fetch rest input.rollupId = .ok rollup ∧
      dataHashError rollup.daBackend input.dataHash = none)

/-- Each field but the signature is a number or bytes, as it has to be. -/
structure SubmitBatchInput.Parses (input : SubmitBatchInput) : Prop where
  batchIndex : ∃ n, bigInt input.batchIndex = .ok n
  stateRoot : ∃ b, toBytes input.stateRoot = .ok b
  prevStateRoot : ∃ b, toBytesOrEmpty input.prevStateRoot = .ok b
  txCount : ∃ n, bigInt input.txCount = .ok n
  dataHash : ∃ b, toBytesOrEmpty input.dataHash = .ok b
  proof : ∃ b, toBytesOrEmpty input.proof = .ok b
  withdrawalsRoot : ∃ b, toBytesOrEmpty input.withdrawalsRoot = .ok b
  validatorSetHash : ∃ b, toBytesOrEmpty input.validatorSetHash = .ok b

theorem hexToBytes_eq_nil_iff {s : String} : hexToBytes s = .ok [] ↔ s = "" ∨ s = "0x" ∨ s = "0X" := by
  rw [hexToBytes_ok_iff]
  constructor
  · intro read
    obtain ⟨even, -, empty⟩ := read
    have stripped : stripHexPrefix s.toList = [] := by
      match cs : stripHexPrefix s.toList with
      | [] => rfl
      | [_] => simp [cs] at even
      | _ :: _ :: _ => simp [cs, hexPairs] at empty
    unfold stripHexPrefix at stripped
    split at stripped
    · rename_i same
      rw [stripped] at same
      exact Or.inr (Or.inl (String.toList_inj.mp same))
    · rename_i same
      rw [stripped] at same
      exact Or.inr (Or.inr (String.toList_inj.mp same))
    · exact Or.inl (String.toList_inj.mp stripped)
  · intro spelled
    rcases spelled with rfl | rfl | rfl
    · decide
    · decide
    · decide

theorem emptySpelling_iff {signature : Option HexOrBytes} :
    EmptySpelling signature ↔ missing signature = false ∧ toBytesOrEmpty signature = .ok [] := by
  unfold EmptySpelling
  cases signature with
  | none => simp [missing]
  | some v =>
    cases v with
    | bytes b => simp [missing, toBytesOrEmpty, toBytes]
    | hex s =>
      by_cases blank : s = ""
      · subst blank
        decide
      · simp [missing, toBytesOrEmpty, toBytes, blank, hexToBytes_eq_nil_iff]

section
variable {pqcSign : PqcSign} {fetch : FetchLike} {fetchAt : Nat → FetchLike} {client : RdkTxClient}
  {input : SubmitBatchInput}

theorem checkDataHash_ok_iff : checkDataHash fetch client input = .ok () ↔ DataHashPasses fetch client input := by
  unfold checkDataHash DataHashPasses
  cases given : input.dataHash with
  | none => simp [toBytesOrEmpty]
  | some dataHash =>
    dsimp only
    split
    · rename_i absent
      simp [toBytesOrEmpty_missing absent]
    · rename_i present
      rw [toBytesOrEmpty_given (by simpa using present), bind_ok_iff]
      apply exists_congr
      intro bytes
      apply and_congr_right
      intro read
      cases endpoint : client.rest with
      | none => simp [pure_ok_iff]
      | some rest =>
        dsimp only
        split
        · rename_i empty
          simp [pure_ok_iff, List.length_eq_zero_iff.mp empty]
        · rename_i long
          have nonempty : bytes ≠ [] := fun empty => long (by rw [empty]; rfl)
          rw [bind_ok_iff]
          simp only [nonempty, false_or, reduceCtorEq, Option.some.injEq, exists_and_left,
            exists_eq_left']
          apply exists_congr
          intro rollup
          apply and_congr_right
          intro _
          split
          · rename_i err refused
            simp [refused]
          · rename_i accepted
            simp [accepted, pure_ok_iff]

theorem submitBatchMsg_built {sequencer : String} (parses : input.Parses) {signature : Bytes}
    (signatureRead : toBytesOrEmpty input.anchorSignature = .ok signature) :
    ∃ message, submitBatchMsg sequencer input = .ok message := by
  obtain ⟨⟨batchIndex, batchRead⟩, ⟨stateRoot, rootRead⟩, ⟨prevStateRoot, prevRead⟩, ⟨txCount, countRead⟩,
    ⟨dataHash, dataRead⟩, ⟨proof, proofRead⟩, ⟨withdrawalsRoot, withdrawalsRead⟩,
    ⟨validatorSetHash, vshRead⟩⟩ := parses
  refine ⟨⟨sequencer, input.rollupId, batchIndex, stateRoot, prevStateRoot, txCount, dataHash, proof,
    withdrawalsRoot, signature, validatorSetHash⟩, submitBatchMsg_ok_iff.mpr ⟨rfl, ?_⟩⟩
  exact ⟨rfl, batchRead, rootRead, prevRead, countRead, dataRead, proofRead, withdrawalsRead, signatureRead,
    vshRead⟩

theorem parses_of_becomes {message : MsgSubmitBatch} (h : input.Becomes message) : input.Parses where
  batchIndex := ⟨_, h.batchIndex⟩
  stateRoot := ⟨_, h.stateRoot⟩
  prevStateRoot := ⟨_, h.prevStateRoot⟩
  txCount := ⟨_, h.txCount⟩
  dataHash := ⟨_, h.dataHash⟩
  proof := ⟨_, h.proof⟩
  withdrawalsRoot := ⟨_, h.withdrawalsRoot⟩
  validatorSetHash := ⟨_, h.validatorSetHash⟩

end

/-- A submission that requires its anchor goes out without one exactly on a signature that is there but
empty, and on nothing else to refuse. -/
theorem require_anchors_iff {pqcSign : PqcSign} (nonempty : SignsNonempty pqcSign) (fetch : Nat → FetchLike)
    (client : RdkTxClient) (input : SubmitBatchInput) :
    (∀ message, submitBatch pqcSign fetch client input .require = .ok message →
      message.anchorSignature ≠ []) ↔
    ¬ (EmptySpelling input.anchorSignature ∧ withdrawalsRootError input.withdrawalsRoot = none ∧
      DataHashPasses (fetch 0) client input ∧ input.Parses) := by
  constructor
  · intro anchors unanchored
    obtain ⟨spelled, root, dataHash, parses⟩ := unanchored
    obtain ⟨supplied, empty⟩ := emptySpelling_iff.mp spelled
    obtain ⟨message, built⟩ : ∃ message, submitBatchMsg client.address input = .ok message :=
      submitBatchMsg_built parses empty
    have sent : submitBatch pqcSign fetch client input .require = .ok message := submitBatch_ok_iff.mpr
      ⟨root, checkDataHash_ok_iff.mpr dataHash, input, withAnchor_supplied supplied, built⟩
    have becomes := (submitBatchMsg_ok_iff.mp built).2
    exact anchors message sent (Except.ok.inj (becomes.anchorSignature.symm.trans empty))
  · intro others message sent unanchored
    obtain ⟨root, dataHash, anchored, anchor, built⟩ := submitBatch_ok_iff.mp sent
    have becomes := (submitBatchMsg_ok_iff.mp built).2
    have signature := becomes.anchorSignature
    rw [unanchored] at signature
    cases supplied : missing input.anchorSignature with
    | true =>
      rcases withAnchor_unsupplied supplied (by simp) anchor with
        ⟨made, reason, signed, rfl⟩ | ⟨reason, -, optional, -⟩
      · obtain ⟨_, _, _, _, _, -, -, -, -, -, -, signs⟩ := tryAnchorSignature_signed signed
        exact nonempty _ _ _ signs (Except.ok.inj signature)
      · exact optional rfl
    | false =>
      rw [withAnchor_supplied supplied] at anchor
      cases anchor
      exact others ⟨emptySpelling_iff.mpr ⟨supplied, signature⟩, root, checkDataHash_ok_iff.mp dataHash,
        parses_of_becomes becomes⟩

theorem require_anchors_iff_sample : ∃ message,
    submitBatch samplePqcSign (fun _ => sampleFetch) creatorClient sampleBatchInput .require = .ok message ∧
      message.anchorSignature ≠ [] := by
  have anchors := (require_anchors_iff samplePqcSign_nonempty (fun _ => sampleFetch) creatorClient
    sampleBatchInput).mpr (by
      intro unanchored
      obtain ⟨supplied, -⟩ := emptySpelling_iff.mp unanchored.1
      cases supplied)
  exact ⟨sampleMessage, sampleMessage_sent .require (by decide), anchors _ (sampleMessage_sent .require (by decide))⟩

/-- On a classical client, the prefix alone is sent in place of a signature. -/
theorem prefix_unanchored : ¬ ∀ (pqcSign : PqcSign) (fetch : Nat → FetchLike) (client : RdkTxClient)
    (input : SubmitBatchInput) (message : MsgSubmitBatch), SignsNonempty pqcSign →
    submitBatch pqcSign fetch client input .require = .ok message → message.anchorSignature ≠ [] := by
  intro anchors
  let input : SubmitBatchInput := { sampleBatchInput with anchorSignature := some (.hex "0x") }
  have sent : submitBatch samplePqcSign (fun _ => sampleFetch) { address := "qor1creator" } input .require = .ok
      { sampleMessage with anchorSignature := [] } := by decide
  exact anchors _ _ _ _ _ samplePqcSign_nonempty sent rfl

end QorechainRdk
