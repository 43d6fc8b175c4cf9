import QorechainRdk.Tx.SignDoc

/-!
# The canonical sign bytes

Other encoders leave an empty byte field out, also in `Any`, `PubKey` and `SignDoc`, where the writers of Go and
Java write it. The sign bytes are the canonical ones exactly where no such field is empty.
-/

namespace QorechainRdk

open Protobuf

theorem bytesEntry_inj {tag : Nat} {a b x y : Bytes} (same : bytesEntry tag a ++ x = bytesEntry tag b ++ y) :
    a = b ∧ x = y := by
  unfold bytesEntry at same
  rw [List.append_assoc, List.append_assoc] at same
  have read := readsBack_bytes a x
  rw [List.append_cancel_left same, readsBack_bytes b y] at read
  cases read
  exact ⟨rfl, rfl⟩

theorem bytesEntry_head {tag : Nat} (small : tag < 128) (b rest : Bytes) :
    (bytesEntry tag b ++ rest).head? = some (UInt8.ofNat tag) := by
  unfold bytesEntry
  rw [varint_step, if_pos small]
  rfl

theorem bytesEntry_ne_nil (tag : Nat) (b : Bytes) : bytesEntry tag b ≠ [] := by
  intro empty
  exact varint_ne_nil tag (List.append_eq_nil_iff.mp empty).1

namespace Envelope

def canonicalBody (c : Content) : Bytes := Cosmos.TxBody.codec.encode ⟨c.messages.map anyOf, c.memo⟩

def canonicalSigner (c : Content) : Cosmos.SignerInfo where
  publicKey := some ⟨typeURLSecp256k1PubKey, Cosmos.PubKey.codec.encode ⟨c.compressedPubKey⟩⟩
  modeInfo := some ⟨some ⟨1⟩⟩
  sequence := c.sequence.toNat

def canonicalAuthInfo (c : Content) : Bytes := Cosmos.AuthInfo.codec.encode ⟨[canonicalSigner c], some (feeOf c.fee)⟩

/-- The sign bytes with every default field left out. -/
def canonicalSignDoc (c : Content) : Bytes := Cosmos.SignDoc.codec.encode
  ⟨canonicalBody c, canonicalAuthInfo c, c.chainID, c.accountNumber.toNat⟩

/-- No byte field that is written unconditionally is empty. -/
structure Filled (c : Content) : Prop where
  body : c.messages ≠ [] ∨ c.memo ≠ ""
  messages : ∀ m ∈ c.messages, m.encode ≠ []
  publicKey : c.compressedPubKey ≠ []

theorem encodeAny_canonical {typeURL : String} (given : typeURL ≠ "") (value : Bytes) :
    encodeAny standard typeURL value = Cosmos.Any.codec.encode ⟨typeURL, value⟩ ↔ value ≠ [] := by
  have url : stringField 10 typeURL = varint 10 ++ writeString typeURL := if_neg given
  change (varint 10 ++ writeString typeURL) ++ bytesEntry 18 value =
    [stringField 10 typeURL, bytesField 18 value].flatten ↔ _
  rw [List.flatten_cons, List.flatten_singleton, url, List.append_right_inj]
  unfold bytesField
  split
  · rename_i empty
    simp [empty, bytesEntry_ne_nil]
  · rename_i nonempty
    exact ⟨fun _ => nonempty, fun _ => rfl⟩

theorem typeURL_ne_empty (m : RdkMsg) : m.typeURL ≠ "" := by
  have prefixed : ∀ name : String, TYPE_URL_PREFIX ++ name ≠ "" := by
    intro name empty
    exact absurd (String.append_eq_empty_iff.mp empty).1 (by decide)
  cases m <;> exact prefixed _

theorem encodeTxBody_canonical (c : Content) : encodeTxBody standard RdkMsg.encode c.messages c.memo =
    canonicalBody c ↔ ∀ m ∈ c.messages, m.encode ≠ [] := by
  have shape : canonicalBody c = (c.messages.flatMap fun m => bytesEntry 10 (Cosmos.Any.codec.encode (anyOf m))) ++
      stringField 18 c.memo := by
    change ((c.messages.map anyOf).map (fun any => bytesEntry 10 (Cosmos.Any.codec.encode any)) ++
      [stringField 18 c.memo]).flatten = _
    rw [List.flatten_append, List.map_map, List.flatten_singleton]
    rfl
  have entries : ∀ messages : List RdkMsg,
      messages.flatMap (fun m => bytesEntry 10 (encodeAny standard m.typeURL m.encode)) ++ stringField 18 c.memo =
        messages.flatMap (fun m => bytesEntry 10 (Cosmos.Any.codec.encode (anyOf m))) ++ stringField 18 c.memo ↔
      ∀ m ∈ messages, m.encode ≠ [] := by
    intro messages
    induction messages with
    | nil => simp
    | cons m messages ih =>
      rw [List.forall_mem_cons, ← ih, ← encodeAny_canonical (typeURL_ne_empty m)]
      simp only [List.flatMap_cons, List.append_assoc]
      constructor
      · exact bytesEntry_inj
      · rintro ⟨first, rest⟩
        rw [first, rest]
        rfl
  rw [shape]
  exact entries c.messages

theorem encodeCoin_canonical (c : Cosmos.Coin) : encodeCoin standard c = Cosmos.Coin.codec.encode c := by
  change stringField 10 c.denom ++ stringField 18 c.amount = [stringField 10 c.denom, stringField 18 c.amount].flatten
  rw [List.flatten_cons, List.flatten_singleton]

theorem encodeFee_canonical (fee : Fee) : encodeFee standard fee = Cosmos.Fee.codec.encode (feeOf fee) := by
  change (fee.amount.flatMap fun c => bytesEntry 10 (encodeCoin standard c)) ++ integerField 16 fee.gasLimit.toNat =
    (fee.amount.map (fun c => bytesEntry 10 (Cosmos.Coin.codec.encode c)) ++
      [integerField 16 fee.gasLimit.toNat]).flatten
  simp only [encodeCoin_canonical, List.flatten_append, List.flatten_singleton, List.flatMap_def]

theorem encodeModeInfo_canonical : encodeModeInfoSingle standard signModeDirect =
    Cosmos.ModeInfo.codec.encode ⟨some ⟨1⟩⟩ := by
  decide

theorem encodePubKey_canonical (compressed : Bytes) : encodePubKey standard compressed =
    Cosmos.PubKey.codec.encode ⟨compressed⟩ ↔ compressed ≠ [] := by
  change bytesEntry 10 compressed = [bytesField 10 compressed].flatten ↔ _
  rw [List.flatten_singleton]
  unfold bytesField
  split
  · rename_i empty
    simp [empty, bytesEntry_ne_nil]
  · rename_i nonempty
    exact ⟨fun _ => nonempty, fun _ => rfl⟩

/-- The key's `Any` is canonical when the key is: it is not empty then. -/
theorem encodeKeyAny_canonical (compressed : Bytes) :
    encodeAny standard typeURLSecp256k1PubKey (encodePubKey standard compressed) =
      Cosmos.Any.codec.encode ⟨typeURLSecp256k1PubKey, Cosmos.PubKey.codec.encode ⟨compressed⟩⟩ ↔ compressed ≠ [] := by
  have named : typeURLSecp256k1PubKey ≠ "" := by decide
  constructor
  · intro same empty
    subst empty
    have url : stringField 10 typeURLSecp256k1PubKey = varint 10 ++ writeString typeURLSecp256k1PubKey := if_neg named
    change (varint 10 ++ writeString typeURLSecp256k1PubKey) ++ bytesEntry 18 _ =
      [stringField 10 typeURLSecp256k1PubKey, []].flatten at same
    rw [List.flatten_cons, List.flatten_singleton, url, List.append_right_inj] at same
    exact bytesEntry_ne_nil 18 _ same
  · intro given
    rw [← (encodePubKey_canonical compressed).mpr given]
    exact (encodeAny_canonical named _).mpr (bytesEntry_ne_nil 10 compressed)

theorem encodeAuthInfo_canonical (c : Content) :
    encodeAuthInfo standard c.compressedPubKey c.sequence c.fee = canonicalAuthInfo c ↔ c.compressedPubKey ≠ [] := by
  let modeInfo := bytesEntry 18 (Cosmos.ModeInfo.codec.encode ⟨some ⟨1⟩⟩)
  let sequence := integerField 24 c.sequence.toNat
  let fee := bytesEntry 18 (Cosmos.Fee.codec.encode (feeOf c.fee))
  let pubAny := encodeAny standard typeURLSecp256k1PubKey (encodePubKey standard c.compressedPubKey)
  let canonicalAny :=
    Cosmos.Any.codec.encode ⟨typeURLSecp256k1PubKey, Cosmos.PubKey.codec.encode ⟨c.compressedPubKey⟩⟩
  have written : encodeAuthInfo standard c.compressedPubKey c.sequence c.fee =
      bytesEntry 10 (bytesEntry 10 pubAny ++ (modeInfo ++ sequence)) ++ fee := by
    rw [encodeAuthInfo_fields, encodeFee_canonical]
    unfold encodeSignerInfo
    rw [encodeModeInfo_canonical, List.append_assoc, writeMessage_entry, writeMessage_entry,
      show 1 <<< 3 ||| 2 = 10 from rfl, show 2 <<< 3 ||| 2 = 18 from rfl]
    rfl
  have canonical : canonicalAuthInfo c =
      bytesEntry 10 (bytesEntry 10 canonicalAny ++ (modeInfo ++ sequence)) ++ fee := by
    have signer : Cosmos.SignerInfo.codec.encode (canonicalSigner c) =
        bytesEntry 10 canonicalAny ++ (modeInfo ++ sequence) := by
      change [bytesEntry 10 canonicalAny, modeInfo, sequence].flatten = _
      rw [List.flatten_cons, List.flatten_cons, List.flatten_singleton]
    change [bytesEntry 10 (Cosmos.SignerInfo.codec.encode (canonicalSigner c)), fee].flatten = _
    rw [List.flatten_cons, List.flatten_singleton, signer]
  rw [written, canonical, ← encodeKeyAny_canonical]
  constructor
  · intro same
    exact (bytesEntry_inj (bytesEntry_inj same).1).1
  · intro same
    rw [show pubAny = canonicalAny from same]

theorem canonicalAuthInfo_ne_nil (c : Content) : canonicalAuthInfo c ≠ [] := by
  change [bytesEntry 10 (Cosmos.SignerInfo.codec.encode (canonicalSigner c)),
    bytesEntry 18 (Cosmos.Fee.codec.encode (feeOf c.fee))].flatten ≠ []
  rw [List.flatten_cons]
  intro empty
  exact bytesEntry_ne_nil 10 _ (List.append_eq_nil_iff.mp empty).1

theorem stringField_eq_nil {tag : Nat} {s : String} : stringField tag s = [] ↔ s = "" := by
  unfold stringField
  split
  · rename_i empty
    simp [empty]
  · rename_i given
    exact ⟨fun none => absurd (List.append_eq_nil_iff.mp none).1 (varint_ne_nil tag), fun empty => absurd empty given⟩

theorem canonicalBody_eq_nil {c : Content} : canonicalBody c = [] ↔ c.messages = [] ∧ c.memo = "" := by
  change ((c.messages.map anyOf).map (fun any => bytesEntry 10 (Cosmos.Any.codec.encode any)) ++
    [stringField 18 c.memo]).flatten = [] ↔ _
  rw [List.flatten_append, List.append_eq_nil_iff, List.flatten_singleton, stringField_eq_nil]
  apply and_congr_left
  intro _
  cases c.messages with
  | nil => simp
  | cons m messages => simp [bytesEntry_ne_nil]

theorem encodeSignDoc_fields (bodyBytes authInfoBytes : Bytes) (chainID : String) (accountNumber : BitVec 64) :
    encodeSignDoc standard bodyBytes authInfoBytes chainID accountNumber = bytesEntry 10 bodyBytes ++
      (bytesEntry 18 authInfoBytes ++ (stringField 26 chainID ++ integerField 32 accountNumber.toNat)) := by
  change bytesEntry 10 bodyBytes ++ bytesEntry 18 authInfoBytes ++ stringField 26 chainID ++
    integerField 32 accountNumber.toNat = _
  rw [List.append_assoc, List.append_assoc]

theorem signDocBytes_canonical (c : Content) :
    signDocBytes standard RdkMsg.encode c = canonicalSignDoc c ↔ Filled c := by
  let body := encodeTxBody standard RdkMsg.encode c.messages c.memo
  let authInfo := encodeAuthInfo standard c.compressedPubKey c.sequence c.fee
  let rest := stringField 26 c.chainID ++ integerField 32 c.accountNumber.toNat
  have written : signDocBytes standard RdkMsg.encode c = bytesEntry 10 body ++ (bytesEntry 18 authInfo ++ rest) := by
    exact encodeSignDoc_fields body authInfo c.chainID c.accountNumber
  have canonical : canonicalSignDoc c =
      bytesField 10 (canonicalBody c) ++ (bytesEntry 18 (canonicalAuthInfo c) ++ rest) := by
    have second : bytesField 18 (canonicalAuthInfo c) = bytesEntry 18 (canonicalAuthInfo c) :=
      if_neg (canonicalAuthInfo_ne_nil c)
    change [bytesField 10 (canonicalBody c), bytesField 18 (canonicalAuthInfo c), stringField 26 c.chainID,
      integerField 32 c.accountNumber.toNat].flatten = _
    rw [second, List.flatten_cons, List.flatten_cons, List.flatten_cons, List.flatten_singleton]
  rw [written, canonical]
  constructor
  · intro same
    by_cases empty : canonicalBody c = []
    · -- The first tag of the canonical bytes is then that of the second field.
      rw [empty] at same
      have first := congrArg List.head? same
      rw [bytesEntry_head (by decide)] at first
      exact absurd (first.trans (bytesEntry_head (by decide) _ rest)) (by decide)
    · have field : bytesField 10 (canonicalBody c) = bytesEntry 10 (canonicalBody c) := if_neg empty
      rw [field] at same
      obtain ⟨bodies, after⟩ := bytesEntry_inj same
      obtain ⟨authInfos, -⟩ := bytesEntry_inj after
      refine ⟨?_, (encodeTxBody_canonical c).mp bodies, (encodeAuthInfo_canonical c).mp authInfos⟩
      rwa [canonicalBody_eq_nil, not_and_or] at empty
  · rintro ⟨given, messages, publicKey⟩
    have nonempty : canonicalBody c ≠ [] := by
      rwa [ne_eq, canonicalBody_eq_nil, not_and_or]
    have field : bytesField 10 (canonicalBody c) = bytesEntry 10 (canonicalBody c) := if_neg nonempty
    have bodies : body = canonicalBody c := (encodeTxBody_canonical c).mpr messages
    have authInfos : authInfo = canonicalAuthInfo c := (encodeAuthInfo_canonical c).mpr publicKey
    rw [field, bodies, authInfos]

end Envelope

/-- Both SDKs sign the canonical bytes exactly of a transaction with nothing left empty that they write. -/
theorem signDocBytes_canonical_iff {c : Envelope.Content} (shared : c.Shared) :
    (Go.signDocBytes c = Envelope.canonicalSignDoc c ↔ Envelope.Filled c) ∧
    (Jvm.signDocBytes c = Envelope.canonicalSignDoc c ↔ Envelope.Filled c) := by
  rw [Go.signDocBytes_eq shared, Jvm.signDocBytes_eq shared]
  exact ⟨Envelope.signDocBytes_canonical c, Envelope.signDocBytes_canonical c⟩

/-- A message of empty fields only is not packed as other encoders pack it. -/
theorem signDocBytes_canonical_iff_sample :
    Go.signDocBytes (sampleContent 0) = Envelope.canonicalSignDoc (sampleContent 0) ∧
    Go.signDocBytes { sampleContent 0 with messages := [.stopRollup ⟨"", ""⟩] } ≠
      Envelope.canonicalSignDoc { sampleContent 0 with messages := [.stopRollup ⟨"", ""⟩] } := by
  obtain ⟨filled, -⟩ := signDocBytes_canonical_iff (sampleContent_shared 0)
  have shared : ({ sampleContent 0 with messages := [.stopRollup ⟨"", ""⟩] } : Envelope.Content).Shared := by
    intro m member
    obtain rfl := List.mem_singleton.mp member
    trivial
  obtain ⟨empty, -⟩ := signDocBytes_canonical_iff shared
  refine ⟨filled.mpr ⟨Or.inr (by decide), ?_, by decide⟩, ?_⟩
  · intro m member
    rcases List.mem_pair.mp member with rfl | rfl
    · decide
    · decide
  · intro same
    exact (empty.mp same).messages _ (List.mem_singleton.mpr rfl) rfl

end QorechainRdk
