import Mathlib.Data.Option.Basic
import QorechainRdk.Tx.Envelope

/-!
# What a signature commits to

The sign bytes are read back part by part, down to the fields of the messages, with the decoders of
`tx/registry.ts`. So two different transactions have different sign bytes, in one SDK and across the two.
-/

namespace QorechainRdk

open Protobuf

/-! ### The registry -/

/-- The decoder of each type URL. -/
def RDK_TYPES : List (String × (Bytes → Option RdkMsg)) := [
  (MsgCreateRollup.codec.typeUrl, fun b => (MsgCreateRollup.codec.decode b).map .createRollup),
  (MsgSubmitBatch.codec.typeUrl, fun b => (MsgSubmitBatch.codec.decode b).map .submitBatch),
  (MsgChallengeBatch.codec.typeUrl, fun b => (MsgChallengeBatch.codec.decode b).map .challengeBatch),
  (MsgResolveChallenge.codec.typeUrl, fun b => (MsgResolveChallenge.codec.decode b).map .resolveChallenge),
  (MsgPauseRollup.codec.typeUrl, fun b => (MsgPauseRollup.codec.decode b).map .pauseRollup),
  (MsgResumeRollup.codec.typeUrl, fun b => (MsgResumeRollup.codec.decode b).map .resumeRollup),
  (MsgStopRollup.codec.typeUrl, fun b => (MsgStopRollup.codec.decode b).map .stopRollup),
  (MsgExecuteWithdrawal.codec.typeUrl, fun b => (MsgExecuteWithdrawal.codec.decode b).map .executeWithdrawal)]

/-- `registry.decode`. -/
def registryDecode (any : Cosmos.Any) : Option RdkMsg :=
  (RDK_TYPES.lookup any.typeUrl).bind fun decode => decode any.value

def RdkMsg.decoder : RdkMsg → Bytes → Option RdkMsg
  | .createRollup _ => fun b => (MsgCreateRollup.codec.decode b).map .createRollup
  | .submitBatch _ => fun b => (MsgSubmitBatch.codec.decode b).map .submitBatch
  | .challengeBatch _ => fun b => (MsgChallengeBatch.codec.decode b).map .challengeBatch
  | .resolveChallenge _ => fun b => (MsgResolveChallenge.codec.decode b).map .resolveChallenge
  | .pauseRollup _ => fun b => (MsgPauseRollup.codec.decode b).map .pauseRollup
  | .resumeRollup _ => fun b => (MsgResumeRollup.codec.decode b).map .resumeRollup
  | .stopRollup _ => fun b => (MsgStopRollup.codec.decode b).map .stopRollup
  | .executeWithdrawal _ => fun b => (MsgExecuteWithdrawal.codec.decode b).map .executeWithdrawal

theorem RdkMsg.registered (m : RdkMsg) : RDK_TYPES.lookup m.typeURL = some m.decoder := by
  cases m <;> rfl

theorem RdkMsg.decoder_encode {m : RdkMsg} (shared : m.Shared) : m.decoder m.encode = some m := by
  have read {M : Type} {codec : Codec M} {message last : M} (mk : M → RdkMsg)
      (run : Run codec.switch (codec.fields message) codec.initial last) (kept : last = message) :
      (codec.decode (codec.encode message)).map mk = some (mk message) := by
    rw [kept] at run
    rw [(Codec.roundTrips run).1]
    rfl
  cases m with
  | createRollup m => exact read _ m.run (by rw [IsInt64.wrap shared])
  | submitBatch m => exact read _ m.run (by rw [IsUint64.wrap shared.1, IsUint64.wrap shared.2.1])
  | challengeBatch m => exact read _ m.run (by rw [IsUint64.wrap shared])
  | resolveChallenge m => exact read _ m.run (by rw [IsUint64.wrap shared])
  | pauseRollup m => exact read _ m.run rfl
  | resumeRollup m => exact read _ m.run rfl
  | stopRollup m => exact read _ m.run rfl
  | executeWithdrawal m =>
    obtain ⟨batchIndex, withdrawalIndex, amount⟩ := shared
    exact read _ m.run (by rw [batchIndex.wrap, withdrawalIndex.wrap, amount.wrap])

theorem registryDecode_encode {m : RdkMsg} (shared : m.Shared) :
    registryDecode ⟨m.typeURL, m.encode⟩ = some m := by
  unfold registryDecode
  rw [m.registered]
  exact RdkMsg.decoder_encode shared

/-! ### The parts

Each part is read from what the one writer wrote, also where it wrote a field that is empty.
-/

namespace Envelope

theorem decode_any (typeURL : String) (value : Bytes) :
    Cosmos.Any.codec.decode (encodeAny standard typeURL value) = some ⟨typeURL, value⟩ := by
  have run : Run Cosmos.Any.codec.switch [varint 10 ++ writeString typeURL, bytesEntry 18 value]
      Cosmos.Any.codec.initial ⟨typeURL, value⟩ := by
    refine .cons (reads_written rfl (readsBack_string typeURL)) ?_
    refine .cons (reads_bytesEntry value rfl) ?_
    exact .nil
  have read := decode_flatten run
  rwa [List.flatten_cons, List.flatten_singleton] at read

def anyOf (m : RdkMsg) : Cosmos.Any := ⟨m.typeURL, m.encode⟩

theorem decode_body (messages : List RdkMsg) (memo : String) :
    Cosmos.TxBody.codec.decode (encodeTxBody standard RdkMsg.encode messages memo) =
      some ⟨messages.map anyOf, memo⟩ := by
  have anys : Run Cosmos.TxBody.codec.switch
      ((messages.map anyOf).map fun any => bytesEntry 10 (encodeAny standard any.typeUrl any.value))
      Cosmos.TxBody.codec.initial ⟨messages.map anyOf, ""⟩ :=
    run_messages (m := ⟨[], ""⟩) (fun (m : Cosmos.TxBody) messages => { m with messages := messages }) rfl
      (fun _ _ => rfl) [] (messages.map anyOf) fun any _ => decode_any any.typeUrl any.value
  have note : Run Cosmos.TxBody.codec.switch [stringField 18 memo] ⟨messages.map anyOf, ""⟩
      ⟨messages.map anyOf, memo⟩ := by
    refine .cons (reads_stringField memo rfl rfl) ?_
    exact .nil
  have run := anys.append note
  have read := decode_flatten run
  rw [List.flatten_append, List.map_map, List.flatten_singleton] at read
  exact read

theorem decode_pubKey (compressed : Bytes) :
    Cosmos.PubKey.codec.decode (encodePubKey standard compressed) = some ⟨compressed⟩ := by
  have run : Run Cosmos.PubKey.codec.switch [bytesEntry 10 compressed] Cosmos.PubKey.codec.initial ⟨compressed⟩ :=
    .cons (reads_bytesEntry compressed rfl) .nil
  have read := decode_flatten run
  rwa [List.flatten_singleton] at read

theorem decode_modeInfo :
    Cosmos.ModeInfo.codec.decode (encodeModeInfoSingle standard signModeDirect) = some ⟨some ⟨1⟩⟩ := by
  decide

/-- A 64-bit field is read as the unsigned number. -/
theorem reads_uint64 {M : Type} {switch : Switch M} {m : M} {set : M → Int → M} (field : Nat) (v : BitVec 64)
    (case : switch ((field <<< 3 ||| 0) / 8) = some (setting readUint64 set)) (elided : set m 0 = m) :
    Reads switch (standard.writeUint64 field v) m (set m v.toNat) := by
  have read : Reads switch (integerField (field <<< 3 ||| 0) v.toNat) m (set m (wrapUint64 v.toNat)) :=
    reads_uint64Field v.toNat case elided
  rwa [wrapUint64_of_range (by omega) (by exact_mod_cast v.isLt)] at read

def signerOf (compressedPubKey : Bytes) (sequence : BitVec 64) : Cosmos.SignerInfo where
  publicKey := some ⟨typeURLSecp256k1PubKey, encodePubKey standard compressedPubKey⟩
  modeInfo := some ⟨some ⟨1⟩⟩
  sequence := sequence.toNat

theorem decode_signer (compressedPubKey : Bytes) (sequence : BitVec 64) :
    Cosmos.SignerInfo.codec.decode (encodeSignerInfo standard compressedPubKey sequence) =
      some (signerOf compressedPubKey sequence) := by
  let pubAny := encodeAny standard typeURLSecp256k1PubKey (encodePubKey standard compressedPubKey)
  have run : Run Cosmos.SignerInfo.codec.switch
      [bytesEntry 10 pubAny, bytesEntry 18 (encodeModeInfoSingle standard signModeDirect),
        standard.writeUint64 3 sequence]
      Cosmos.SignerInfo.codec.initial (signerOf compressedPubKey sequence) := by
    refine .cons (reads_message rfl (decode_any _ _)) ?_
    refine .cons (reads_message rfl decode_modeInfo) ?_
    refine .cons (reads_uint64 3 sequence rfl rfl) ?_
    exact .nil
  have read := decode_flatten run
  rwa [List.flatten_cons, List.flatten_cons, List.flatten_singleton, ← List.append_assoc] at read

theorem decode_coin (c : Cosmos.Coin) : Cosmos.Coin.codec.decode (encodeCoin standard c) = some c := by
  have run : Run Cosmos.Coin.codec.switch [stringField 10 c.denom, stringField 18 c.amount]
      Cosmos.Coin.codec.initial c := by
    refine .cons (reads_stringField c.denom rfl rfl) ?_
    refine .cons (reads_stringField c.amount rfl rfl) ?_
    exact .nil
  have read := decode_flatten run
  rwa [List.flatten_cons, List.flatten_singleton] at read

def feeOf (fee : Fee) : Cosmos.Fee := ⟨fee.amount, fee.gasLimit.toNat⟩

theorem decode_fee (fee : Fee) : Cosmos.Fee.codec.decode (encodeFee standard fee) = some (feeOf fee) := by
  have coins : Run Cosmos.Fee.codec.switch (fee.amount.map fun c => bytesEntry 10 (encodeCoin standard c))
      Cosmos.Fee.codec.initial ⟨fee.amount, 0⟩ :=
    run_messages (m := ⟨[], 0⟩) (fun (m : Cosmos.Fee) amount => { m with amount := amount }) rfl
      (fun _ _ => rfl) [] fee.amount fun c _ => decode_coin c
  have run := coins.append (.cons (reads_uint64 2 fee.gasLimit rfl rfl) .nil)
  have read := decode_flatten run
  rw [List.flatten_append, List.flatten_singleton] at read
  exact read

theorem writeMessage_entry (field : Nat) (b : Bytes) :
    ProtoWriter.writeMessage standard.writeVarint field b = bytesEntry (field <<< 3 ||| 2) b := rfl

theorem encodeAuthInfo_fields (compressedPubKey : Bytes) (sequence : BitVec 64) (fee : Fee) :
    encodeAuthInfo standard compressedPubKey sequence fee =
      bytesEntry 10 (encodeSignerInfo standard compressedPubKey sequence) ++
        bytesEntry 18 (encodeFee standard fee) := by
  unfold encodeAuthInfo
  rw [writeMessage_entry, writeMessage_entry, show 1 <<< 3 ||| 2 = 10 from rfl, show 2 <<< 3 ||| 2 = 18 from rfl]

theorem decode_authInfo (compressedPubKey : Bytes) (sequence : BitVec 64) (fee : Fee) :
    Cosmos.AuthInfo.codec.decode (encodeAuthInfo standard compressedPubKey sequence fee) =
      some ⟨[signerOf compressedPubKey sequence], some (feeOf fee)⟩ := by
  have run : Run Cosmos.AuthInfo.codec.switch
      [bytesEntry 10 (encodeSignerInfo standard compressedPubKey sequence), bytesEntry 18 (encodeFee standard fee)]
      Cosmos.AuthInfo.codec.initial ⟨[signerOf compressedPubKey sequence], some (feeOf fee)⟩ := by
    refine .cons (reads_message rfl (decode_signer compressedPubKey sequence)) ?_
    refine .cons (reads_message rfl (decode_fee fee)) ?_
    exact .nil
  have read := decode_flatten run
  rw [List.flatten_cons, List.flatten_singleton] at read
  rw [encodeAuthInfo_fields]
  exact read

theorem decode_signDoc (bodyBytes authInfoBytes : Bytes) (chainID : String) (accountNumber : BitVec 64) :
    Cosmos.SignDoc.codec.decode (encodeSignDoc standard bodyBytes authInfoBytes chainID accountNumber) =
      some ⟨bodyBytes, authInfoBytes, chainID, accountNumber.toNat⟩ := by
  have run : Run Cosmos.SignDoc.codec.switch
      [bytesEntry 10 bodyBytes, bytesEntry 18 authInfoBytes, stringField 26 chainID,
        standard.writeUint64 4 accountNumber]
      Cosmos.SignDoc.codec.initial ⟨bodyBytes, authInfoBytes, chainID, accountNumber.toNat⟩ := by
    refine .cons (reads_bytesEntry bodyBytes rfl) ?_
    refine .cons (reads_bytesEntry authInfoBytes rfl) ?_
    refine .cons (reads_stringField chainID rfl rfl) ?_
    refine .cons (reads_uint64 4 accountNumber rfl rfl) ?_
    exact .nil
  have read := decode_flatten run
  simp only [List.flatten_cons, List.flatten_nil, List.append_nil, ← List.append_assoc] at read
  exact read

theorem decode_txRaw (bodyBytes authInfoBytes : Bytes) (signatures : List Bytes) :
    Cosmos.TxRaw.codec.decode (encodeTxRaw standard bodyBytes authInfoBytes signatures) =
      some ⟨bodyBytes, authInfoBytes, signatures⟩ := by
  have entries : Run Cosmos.TxRaw.codec.switch (signatures.map (bytesEntry 26)) ⟨bodyBytes, authInfoBytes, []⟩
      ⟨bodyBytes, authInfoBytes, signatures⟩ :=
    run_entries (m := ⟨bodyBytes, authInfoBytes, []⟩)
      (fun (m : Cosmos.TxRaw) signatures => { m with signatures := signatures }) rfl (fun _ _ => rfl) [] signatures
  have run : Run Cosmos.TxRaw.codec.switch
      (bytesEntry 10 bodyBytes :: bytesEntry 18 authInfoBytes :: signatures.map (bytesEntry 26))
      Cosmos.TxRaw.codec.initial ⟨bodyBytes, authInfoBytes, signatures⟩ := by
    refine .cons (reads_bytesEntry bodyBytes rfl) ?_
    refine .cons (reads_bytesEntry authInfoBytes rfl) ?_
    exact entries
  have read := decode_flatten run
  rw [List.flatten_cons, List.flatten_cons, ← List.append_assoc] at read
  exact read

/-! ### The whole -/

def readPubKey (any : Cosmos.Any) : Option Bytes :=
  if any.typeUrl = typeURLSecp256k1PubKey then (Cosmos.PubKey.codec.decode any.value).map Cosmos.PubKey.key
  else none

/-- What the two parts of a transaction say; the chain knows the rest. -/
def readContent (bodyBytes authInfoBytes : Bytes) (chainID : String) (accountNumber : BitVec 64) :
    Option Content := do
  let body ← Cosmos.TxBody.codec.decode bodyBytes
  let messages ← body.messages.mapM registryDecode
  let authInfo ← Cosmos.AuthInfo.codec.decode authInfoBytes
  let fee ← authInfo.fee
  let [signer] := authInfo.signerInfos | none
  let publicKey ← signer.publicKey
  let compressedPubKey ← readPubKey publicKey
  guard (signer.modeInfo = some ⟨some ⟨signModeDirect⟩⟩)
  return {
    messages
    memo := body.memo
    fee := ⟨fee.amount, BitVec.ofInt 64 fee.gasLimit⟩
    compressedPubKey
    sequence := BitVec.ofInt 64 signer.sequence
    chainID, accountNumber }

def readSignDoc (signDoc : Bytes) : Option Content := do
  let doc ← Cosmos.SignDoc.codec.decode signDoc
  readContent doc.bodyBytes doc.authInfoBytes doc.chainId (BitVec.ofInt 64 doc.accountNumber)

/-- Every message is one that all SDKs can hold. -/
def Content.Shared (c : Content) : Prop := ∀ m ∈ c.messages, m.Shared

theorem readPubKey_encode (compressedPubKey : Bytes) :
    readPubKey ⟨typeURLSecp256k1PubKey, encodePubKey standard compressedPubKey⟩ = some compressedPubKey := by
  unfold readPubKey
  rw [if_pos rfl, decode_pubKey]
  rfl

theorem registryDecode_all {messages : List RdkMsg} (shared : ∀ m ∈ messages, m.Shared) :
    (messages.map anyOf).mapM registryDecode = some messages := by
  induction messages with
  | nil => rfl
  | cons m messages ih =>
    rw [List.forall_mem_cons] at shared
    rw [List.map_cons, List.mapM_cons, anyOf, registryDecode_encode shared.1, ih shared.2]
    rfl

theorem readContent_encoded {c : Content} (shared : c.Shared) :
    readContent (encodeTxBody standard RdkMsg.encode c.messages c.memo)
      (encodeAuthInfo standard c.compressedPubKey c.sequence c.fee) c.chainID c.accountNumber = some c := by
  have numbers : ∀ v : BitVec 64, BitVec.ofInt 64 (v.toNat : Int) = v := by
    intro v
    rw [BitVec.ofInt_natCast, BitVec.ofNat_toNat, BitVec.setWidth_eq]
  unfold readContent
  rw [decode_body, decode_authInfo]
  simp only [Option.bind_eq_bind, Option.bind_some, registryDecode_all shared, feeOf, signerOf, readPubKey_encode,
    numbers]
  rfl

theorem readSignDoc_signDocBytes {c : Content} (shared : c.Shared) :
    readSignDoc (signDocBytes standard RdkMsg.encode c) = some c := by
  have number : BitVec.ofInt 64 (c.accountNumber.toNat : Int) = c.accountNumber := by
    rw [BitVec.ofInt_natCast, BitVec.ofNat_toNat, BitVec.setWidth_eq]
  unfold readSignDoc signDocBytes
  rw [decode_signDoc]
  simp only [Option.bind_eq_bind, Option.bind_some, number]
  exact readContent_encoded shared

/-- The body depends on the encoder of the messages only through the messages it has. -/
theorem encodeTxBody_congr {w : Wire} {marshal marshal' : RdkMsg → Bytes} {messages : List RdkMsg}
    (alike : ∀ m ∈ messages, marshal m = marshal' m) (memo : String) :
    encodeTxBody w marshal messages memo = encodeTxBody w marshal' messages memo := by
  unfold encodeTxBody
  congr 1
  apply List.flatMap_congr
  intro m member
  rw [alike m member]

end Envelope

theorem Go.signDocBytes_eq {c : Envelope.Content} (shared : c.Shared) :
    Go.signDocBytes c = Envelope.signDocBytes Envelope.standard RdkMsg.encode c := by
  unfold Go.signDocBytes Envelope.signDocBytes
  rw [Go.wire_standard]
  dsimp only
  rw [Envelope.encodeTxBody_congr (fun m member => Go.marshal_eq (shared m member))]

theorem Jvm.signDocBytes_eq {c : Envelope.Content} (shared : c.Shared) :
    Jvm.signDocBytes c = Envelope.signDocBytes Envelope.standard RdkMsg.encode c := by
  unfold Jvm.signDocBytes Envelope.signDocBytes
  rw [Jvm.wire_standard]
  dsimp only
  rw [Envelope.encodeTxBody_congr (fun m member => Jvm.marshal_eq (shared m member))]

/-- The sign bytes are the same exactly for the same transaction, whichever SDK writes them. -/
theorem signDocBytes_commit {c c' : Envelope.Content} (shared : c.Shared) (shared' : c'.Shared) :
    (Go.signDocBytes c = Go.signDocBytes c' ↔ c = c') ∧ (Jvm.signDocBytes c = Jvm.signDocBytes c' ↔ c = c') ∧
    (Go.signDocBytes c = Jvm.signDocBytes c' ↔ c = c') := by
  have one : Envelope.signDocBytes Envelope.standard RdkMsg.encode c =
      Envelope.signDocBytes Envelope.standard RdkMsg.encode c' ↔ c = c' := by
    constructor
    · intro same
      have read := Envelope.readSignDoc_signDocBytes shared
      rw [same, Envelope.readSignDoc_signDocBytes shared'] at read
      exact (Option.some.inj read).symm
    · rintro rfl
      rfl
  rw [Go.signDocBytes_eq shared, Go.signDocBytes_eq shared', Jvm.signDocBytes_eq shared,
    Jvm.signDocBytes_eq shared']
  exact ⟨one, one, one⟩

/-- One transaction, but for its sequence. -/
def sampleContent (sequence : BitVec 64) : Envelope.Content where
  messages := [.submitBatch ⟨"qor1", "r", 2 ^ 64 - 1, [1], [], 0, [], [], [], [], []⟩, .pauseRollup ⟨"qor1", "r", ""⟩]
  memo := "é"
  fee := ⟨[⟨"uqor", "10"⟩, ⟨"", ""⟩], 200000#64⟩
  compressedPubKey := [2, 3]
  sequence := sequence
  chainID := "qorechain-1"
  accountNumber := 7

theorem sampleContent_shared (sequence : BitVec 64) : (sampleContent sequence).Shared := by
  intro m member
  rcases List.mem_pair.mp member with rfl | rfl
  · exact ⟨⟨by decide, by decide⟩, ⟨by decide, by decide⟩, rfl, rfl⟩
  · exact True.intro

theorem signDocBytes_commit_sample :
    Go.signDocBytes (sampleContent 0) = Jvm.signDocBytes (sampleContent 0) ∧
    Go.signDocBytes (sampleContent 0) ≠ Jvm.signDocBytes (sampleContent 0x8000000000000000) := by
  obtain ⟨-, -, same⟩ := signDocBytes_commit (sampleContent_shared 0) (sampleContent_shared 0)
  obtain ⟨-, -, apart⟩ := signDocBytes_commit (sampleContent_shared 0) (sampleContent_shared 0x8000000000000000)
  refine ⟨same.mpr rfl, ?_⟩
  intro equal
  have sequences : 0#64 = 0x8000000000000000#64 := congrArg Envelope.Content.sequence (apart.mp equal)
  exact absurd sequences (by decide)

end QorechainRdk
