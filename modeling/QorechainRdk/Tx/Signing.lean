import QorechainRdk.Lib.Coding
import QorechainRdk.Tx.Canonical

/-!
# Signed transactions

`SignTx`, `SignSignDoc` and `VerifySignature` of `tx.go` and `Tx.java`, with `Ecdsa.toFixed`. The curve and the
hash are those of the libraries; the signature is their two scalars in 32 bytes each.
-/

namespace QorechainRdk

open Protobuf

/-- `sha256`, and what the libraries do with a 32-byte digest: `sign` is the one of Go, `signCanonicalised` the one of
Java, made canonical. -/
structure Secp256k1 (Point : Type) where
  sha256 : Bytes → Bytes
  sign : (digest priv : Bytes) → Nat × Nat
  signCanonicalised : (digest priv : Bytes) → Nat × Nat
  parsePubKey : Bytes → Option Point
  verify : (digest : Bytes) → (r s : Nat) → Point → Bool

namespace Secp256k1

/-- The order of the group. -/
def order : Nat := 0xFFFFFFFFFFFFFFFFFFFFFFFFFFFFFFFEBAAEDCE6AF48A03BBFD25E8CD0364141

/-- The two keys belong together: what the one signs, the other accepts. Both libraries draw the nonce from digest and
key as RFC 6979 has it and take the lower of the two values of `s`, so they come to one signature. -/
structure Signs {Point : Type} (curve : Secp256k1 Point) (priv pub : Bytes) : Prop where
  accepts : ∃ point, curve.parsePubKey pub = some point ∧
    ∀ digest, curve.verify digest (curve.sign digest priv).1 (curve.sign digest priv).2 point = true
  scalar : ∀ digest, (curve.sign digest priv).1 < order
  lowS : ∀ digest, (curve.sign digest priv).2 ≤ order / 2
  rfc6979 : ∀ digest, curve.signCanonicalised digest priv = curve.sign digest priv

theorem Signs.scalars {Point : Type} {curve : Secp256k1 Point} {priv pub : Bytes} (keys : curve.Signs priv pub)
    (digest : Bytes) : (curve.sign digest priv).1 < order ∧ (curve.sign digest priv).2 < order :=
  ⟨keys.scalar digest, Nat.lt_of_le_of_lt (keys.lowS digest) (by decide)⟩

end Secp256k1

structure KeyPair where
  publicKey : Bytes
  privateKey : Bytes
  deriving DecidableEq

namespace Envelope

section
variable (w : Wire) (marshal : RdkMsg → Bytes) (signSignDoc : (signDoc priv : Bytes) → Bytes)

def signTx (account : KeyPair) (messages : List RdkMsg) (memo : String) (fee : Fee) (sequence : BitVec 64)
    (chainID : String) (accountNumber : BitVec 64) : Bytes :=
  let body := encodeTxBody w marshal messages memo
  let authInfo := encodeAuthInfo w account.publicKey sequence fee
  let signDoc := encodeSignDoc w body authInfo chainID accountNumber
  let signature := signSignDoc signDoc account.privateKey
  encodeTxRaw w body authInfo [signature]

end
end Envelope

section
variable {Point : Type} (curve : Secp256k1 Point)

namespace Go

/-- `PutBytesUnchecked` writes a scalar as 32 bytes. -/
def signSignDoc (signDocBytes priv : Bytes) : Bytes :=
  let digest := curve.sha256 signDocBytes
  let (r, s) := curve.sign digest priv
  Coding.bigEndian 32 r ++ Coding.bigEndian 32 s

/-- `SetByteSlice` reports a number that is not below the order as an overflow. -/
def verifySignature (message signature compressedPubKey : Bytes) : Bool :=
  if signature.length ≠ 64 then false
  else match curve.parsePubKey compressedPubKey with
  | none => false
  | some pub =>
    let r := (Coding.ofBigEndian (signature.take 32)).toNat
    let s := (Coding.ofBigEndian (signature.drop 32)).toNat
    if Secp256k1.order ≤ r then false
    else if Secp256k1.order ≤ s then false
    else curve.verify (curve.sha256 message) r s pub

def signTx := Envelope.signTx wire marshal (signSignDoc curve)

end Go

namespace Jvm

/-- `BigInteger.bitLength`, of a number that is not negative. -/
def bitLength (value : Nat) : Nat := if value = 0 then 0 else value.log2 + 1

/-- `BigInteger.toByteArray`: two's complement in as few bytes as hold a sign bit, too. -/
def toByteArray (value : Nat) : Bytes := Coding.bigEndian (bitLength value / 8 + 1) value

/-- `Ecdsa.toFixed`. -/
def toFixed (value length : Nat) : Bytes :=
  let raw := toByteArray value
  if raw.length = length then raw
  else if raw.length = length + 1 ∧ raw.head? = some 0 then raw.drop 1
  else if raw.length < length then List.replicate (length - raw.length) 0 ++ raw
  else raw.drop (raw.length - length)

def signSignDoc (signDocBytes priv : Bytes) : Bytes :=
  let digest := curve.sha256 signDocBytes
  let (r, s) := curve.signCanonicalised digest priv
  toFixed r 32 ++ toFixed s 32

def verifySignature (message signature compressedPubKey : Bytes) : Bool :=
  if signature.length ≠ 64 then false
  else
    let digest := curve.sha256 message
    let r := (Coding.ofBigEndian (signature.take 32)).toNat
    let s := (Coding.ofBigEndian (signature.drop 32)).toNat
    match curve.parsePubKey compressedPubKey with
    | none => false
    | some pub => curve.verify digest r s pub

def signTx := Envelope.signTx wire marshal (signSignDoc curve)

end Jvm
end

/-! ### Scalars in 32 bytes -/

theorem bigEndian_padded {k n : Nat} {v : Int} (nonneg : 0 ≤ v) (small : v < 256 ^ k) (le : k ≤ n) :
    Coding.bigEndian n v = List.replicate (n - k) 0 ++ Coding.bigEndian k v := by
  induction n, le using Nat.le_induction with
  | base =>
    rw [Nat.sub_self]
    rfl
  | succ n le ih =>
    have wide : v < 256 ^ n := Int.lt_of_lt_of_le small (by exact_mod_cast Nat.pow_le_pow_right (by decide) le)
    rw [Coding.bigEndian_leading_zero nonneg wide, ih, Nat.succ_sub le, List.replicate_succ]
    rfl

theorem lt_pow_bitLength (value : Nat) : value < 2 ^ Jvm.bitLength value := by
  unfold Jvm.bitLength
  split
  · rename_i zero
    simp [zero]
  · exact Nat.lt_log2_self

theorem bitLength_le {value n : Nat} (small : value < 2 ^ n) : Jvm.bitLength value ≤ n := by
  unfold Jvm.bitLength
  split
  · exact Nat.zero_le n
  · rename_i positive
    exact (Nat.log2_lt positive).mpr small

/-- A number that fits is written in just that many bytes, whatever bytes it has of its own. -/
theorem Jvm.toFixed_eq {value length : Nat} (small : value < 256 ^ length) :
    Jvm.toFixed value length = Coding.bigEndian length value := by
  have bits : Jvm.bitLength value ≤ 8 * length := by
    apply bitLength_le
    rwa [pow_mul]
  have size : (Jvm.toByteArray value).length = Jvm.bitLength value / 8 + 1 := Coding.length_bigEndian _ _
  have fits : (value : Int) < 256 ^ (Jvm.bitLength value / 8 + 1) := by
    have wide := lt_pow_bitLength value
    have : (2 : Nat) ^ Jvm.bitLength value ≤ 256 ^ (Jvm.bitLength value / 8 + 1) := by
      rw [show 256 = 2 ^ 8 from rfl, ← pow_mul]
      exact Nat.pow_le_pow_right (by decide) (by omega)
    exact_mod_cast Nat.lt_of_lt_of_le wide this
  unfold Jvm.toFixed
  dsimp only
  rw [size]
  by_cases same : Jvm.bitLength value / 8 + 1 = length
  · rw [if_pos same, Jvm.toByteArray, same]
  · rw [if_neg same]
    by_cases longer : Jvm.bitLength value / 8 + 1 = length + 1
    · have leading : Jvm.toByteArray value = 0 :: Coding.bigEndian length value := by
        rw [Jvm.toByteArray, longer]
        exact Coding.bigEndian_leading_zero (Int.natCast_nonneg value) (by exact_mod_cast small)
      rw [leading, if_pos ⟨longer, rfl⟩]
      rfl
    · have shorter : Jvm.bitLength value / 8 + 1 < length := by omega
      rw [if_neg (fun h => longer h.1), if_pos shorter]
      exact (bigEndian_padded (Int.natCast_nonneg value) fits (Nat.le_of_lt shorter)).symm

/-! ### What is signed is accepted -/

section
variable {Point : Type} {curve : Secp256k1 Point} {account : KeyPair}

theorem order_lt : Secp256k1.order < 256 ^ 32 := by decide

theorem Jvm.signSignDoc_eq (keys : curve.Signs account.privateKey account.publicKey) (signDoc : Bytes) :
    Jvm.signSignDoc curve signDoc account.privateKey = Go.signSignDoc curve signDoc account.privateKey := by
  obtain ⟨r, s⟩ := keys.scalars (curve.sha256 signDoc)
  change Jvm.toFixed (curve.signCanonicalised (curve.sha256 signDoc) account.privateKey).1 32 ++
    Jvm.toFixed (curve.signCanonicalised (curve.sha256 signDoc) account.privateKey).2 32 = _
  unfold Go.signSignDoc
  dsimp only
  rw [keys.rfc6979, Jvm.toFixed_eq (r.trans order_lt), Jvm.toFixed_eq (s.trans order_lt)]

/-- Each scalar is read back from its half. -/
theorem signature_halves {r s : Nat} (first : r < Secp256k1.order) (second : s < Secp256k1.order) :
    (Coding.ofBigEndian ((Coding.bigEndian 32 r ++ Coding.bigEndian 32 s).take 32)).toNat = r ∧
    (Coding.ofBigEndian ((Coding.bigEndian 32 r ++ Coding.bigEndian 32 s).drop 32)).toNat = s := by
  have scalar : ∀ n : Nat, n < Secp256k1.order → (Coding.ofBigEndian (Coding.bigEndian 32 n)).toNat = n := by
    intro n small
    rw [(Coding.ofBigEndian_bigEndian_iff 32 n).mpr ⟨Int.natCast_nonneg n, by exact_mod_cast small.trans order_lt⟩]
    exact Int.toNat_natCast n
  rw [List.take_left' (Coding.length_bigEndian 32 r), List.drop_left' (Coding.length_bigEndian 32 r)]
  exact ⟨scalar r first, scalar s second⟩

theorem Go.verifySignature_signed (keys : curve.Signs account.privateKey account.publicKey) (message : Bytes) :
    Go.verifySignature curve message (Go.signSignDoc curve message account.privateKey) account.publicKey = true := by
  obtain ⟨point, parsed, accepted⟩ := keys.accepts
  obtain ⟨first, second⟩ := keys.scalars (curve.sha256 message)
  obtain ⟨r, s⟩ := signature_halves first second
  have length : (Go.signSignDoc curve message account.privateKey).length = 64 := by
    unfold Go.signSignDoc
    dsimp only
    rw [List.length_append, Coding.length_bigEndian, Coding.length_bigEndian]
  unfold Go.verifySignature
  rw [if_neg (not_not.mpr length), parsed]
  unfold Go.signSignDoc
  dsimp only
  rw [r, s, if_neg (Nat.not_le.mpr first), if_neg (Nat.not_le.mpr second)]
  exact accepted _

/-- Java makes no range check of its own, so it accepts whatever Go does. -/
theorem Jvm.verifySignature_of_go {message signature pub : Bytes}
    (accepted : Go.verifySignature curve message signature pub = true) :
    Jvm.verifySignature curve message signature pub = true := by
  unfold Go.verifySignature at accepted
  unfold Jvm.verifySignature
  split
  · rename_i short
    rw [if_pos short] at accepted
    exact accepted
  · rename_i length
    rw [if_neg length] at accepted
    dsimp only
    cases parsed : curve.parsePubKey pub with
    | none =>
      rw [parsed] at accepted
      exact accepted
    | some point =>
      rw [parsed] at accepted
      dsimp only at accepted ⊢
      split at accepted
      · cases accepted
      · split at accepted
        · cases accepted
        · exact accepted

/-- The bytes that the chain holds a signature against, from the two parts as they came. -/
def chainSignBytes (raw : Cosmos.TxRaw) (chainID : String) (accountNumber : BitVec 64) : Bytes :=
  Cosmos.SignDoc.codec.encode ⟨raw.bodyBytes, raw.authInfoBytes, chainID, accountNumber.toNat⟩

/-- The chain reads the content out of the transaction, and its one signature stands under the bytes it checks. -/
def Accepted (curve : Secp256k1 Point) (tx : Bytes) (c : Envelope.Content) : Prop :=
  ∃ raw signature, Cosmos.TxRaw.codec.decode tx = some raw ∧ raw.signatures = [signature] ∧
    Envelope.readContent raw.bodyBytes raw.authInfoBytes c.chainID c.accountNumber = some c ∧
    Go.verifySignature curve (chainSignBytes raw c.chainID c.accountNumber) signature c.compressedPubKey = true ∧
    Jvm.verifySignature curve (chainSignBytes raw c.chainID c.accountNumber) signature c.compressedPubKey = true

theorem encodeTxBody_ne_nil {messages : List RdkMsg} {memo : String} (given : messages ≠ [] ∨ memo ≠ "") :
    Envelope.encodeTxBody Envelope.standard RdkMsg.encode messages memo ≠ [] := by
  intro empty
  obtain ⟨entries, last⟩ := List.append_eq_nil_iff.mp empty
  rcases given with given | given
  · cases messages with
    | nil => exact given rfl
    | cons m messages => exact bytesEntry_ne_nil 10 _ (List.append_eq_nil_iff.mp entries).1
  · exact given (Envelope.stringField_eq_nil.mp last)

theorem chainSignBytes_eq {body authInfo : Bytes} (bodyGiven : body ≠ []) (authInfoGiven : authInfo ≠ [])
    (signatures : List Bytes) (chainID : String) (accountNumber : BitVec 64) :
    chainSignBytes ⟨body, authInfo, signatures⟩ chainID accountNumber =
      Envelope.encodeSignDoc Envelope.standard body authInfo chainID accountNumber := by
  have first : bytesField 10 body = bytesEntry 10 body := if_neg bodyGiven
  have second : bytesField 18 authInfo = bytesEntry 18 authInfo := if_neg authInfoGiven
  rw [Envelope.encodeSignDoc_fields]
  change [bytesField 10 body, bytesField 18 authInfo, stringField 26 chainID,
    integerField 32 accountNumber.toNat].flatten = _
  rw [first, second, List.flatten_cons, List.flatten_cons, List.flatten_cons, List.flatten_singleton]

/-- One transaction from both SDKs, and the chain accepts it for what was asked for. -/
theorem signTx_accepted {c : Envelope.Content} (keys : curve.Signs account.privateKey account.publicKey)
    (own : c.compressedPubKey = account.publicKey) (shared : c.Shared) (given : c.messages ≠ [] ∨ c.memo ≠ "") :
    let tx := Go.signTx curve account c.messages c.memo c.fee c.sequence c.chainID c.accountNumber
    Jvm.signTx curve account c.messages c.memo c.fee c.sequence c.chainID c.accountNumber = tx ∧
      Accepted curve tx c := by
  let body := Envelope.encodeTxBody Envelope.standard RdkMsg.encode c.messages c.memo
  let authInfo := Envelope.encodeAuthInfo Envelope.standard account.publicKey c.sequence c.fee
  let signDoc := Envelope.encodeSignDoc Envelope.standard body authInfo c.chainID c.accountNumber
  let signature := Go.signSignDoc curve signDoc account.privateKey
  have go : Go.signTx curve account c.messages c.memo c.fee c.sequence c.chainID c.accountNumber =
      Envelope.encodeTxRaw Envelope.standard body authInfo [signature] := by
    unfold Go.signTx Envelope.signTx
    rw [Go.wire_standard, Envelope.encodeTxBody_congr (fun m member => Go.marshal_eq (shared m member))]
  have jvm : Jvm.signTx curve account c.messages c.memo c.fee c.sequence c.chainID c.accountNumber =
      Envelope.encodeTxRaw Envelope.standard body authInfo [signature] := by
    unfold Jvm.signTx Envelope.signTx
    rw [Jvm.wire_standard, Envelope.encodeTxBody_congr (fun m member => Jvm.marshal_eq (shared m member))]
    dsimp only
    rw [Jvm.signSignDoc_eq keys]
  have authInfoGiven : authInfo ≠ [] := by
    intro empty
    rw [show authInfo = _ from Envelope.encodeAuthInfo_fields account.publicKey c.sequence c.fee] at empty
    exact bytesEntry_ne_nil 10 _ (List.append_eq_nil_iff.mp empty).1
  have content : Envelope.readContent body authInfo c.chainID c.accountNumber = some c := by
    have read := Envelope.readContent_encoded shared
    rwa [own] at read
  have signed := chainSignBytes_eq (encodeTxBody_ne_nil given) authInfoGiven [signature] c.chainID c.accountNumber
  have verified : Go.verifySignature curve (chainSignBytes ⟨body, authInfo, [signature]⟩ c.chainID c.accountNumber)
      signature c.compressedPubKey = true := by
    rw [signed, own]
    exact Go.verifySignature_signed keys signDoc
  dsimp only
  rw [go, jvm]
  exact ⟨rfl, ⟨body, authInfo, [signature]⟩, signature, Envelope.decode_txRaw body authInfo [signature], rfl, content,
    verified, Jvm.verifySignature_of_go verified⟩

end

/-- The numbers below the order as a group of their own, with the nonce one: a public key holds the private one. -/
def toyCurve : Secp256k1 Nat where
  sha256 := fun bytes => Coding.bigEndian 32 (Coding.ofBigEndian bytes)
  sign := fun digest priv =>
    let s := ((Coding.ofBigEndian digest).toNat + (Coding.ofBigEndian priv).toNat) % Secp256k1.order
    (1, min s (Secp256k1.order - s))
  signCanonicalised := fun digest priv =>
    let s := ((Coding.ofBigEndian digest).toNat + (Coding.ofBigEndian priv).toNat) % Secp256k1.order
    if s ≤ Secp256k1.order / 2 then (1, s) else (1, Secp256k1.order - s)
  parsePubKey := fun pub => if pub.length = 33 then some (Coding.ofBigEndian (pub.drop 1)).toNat else none
  verify := fun digest r s point =>
    let expected := ((Coding.ofBigEndian digest).toNat + point) % Secp256k1.order
    r == 1 && (s == expected || s == Secp256k1.order - expected)

def toyKeys : KeyPair := ⟨2 :: List.replicate 32 1, List.replicate 32 1⟩

theorem toyKeys_sign : toyCurve.Signs toyKeys.privateKey toyKeys.publicKey := by
  have odd : Secp256k1.order = 2 * (Secp256k1.order / 2) + 1 := by decide
  have some : 1 < Secp256k1.order := by decide
  refine ⟨⟨(Coding.ofBigEndian toyKeys.privateKey).toNat, rfl, ?_⟩, fun digest => some, ?_, ?_⟩
  · intro digest
    unfold toyCurve
    dsimp only
    rcases Nat.le_total (((Coding.ofBigEndian digest).toNat + (Coding.ofBigEndian toyKeys.privateKey).toNat) %
        Secp256k1.order) (Secp256k1.order - ((Coding.ofBigEndian digest).toNat +
          (Coding.ofBigEndian toyKeys.privateKey).toNat) % Secp256k1.order) with low | high
    · simp [Nat.min_eq_left low]
    · simp [Nat.min_eq_right high]
  · intro digest
    unfold toyCurve
    dsimp only
    omega
  · intro digest
    unfold toyCurve
    dsimp only
    split
    · rw [Nat.min_eq_left (by omega)]
    · rw [Nat.min_eq_right (by omega)]

theorem signTx_accepted_sample :
    let c := { sampleContent 5 with compressedPubKey := toyKeys.publicKey }
    let tx := Go.signTx toyCurve toyKeys c.messages c.memo c.fee c.sequence c.chainID c.accountNumber
    Jvm.signTx toyCurve toyKeys c.messages c.memo c.fee c.sequence c.chainID c.accountNumber = tx ∧
      Accepted toyCurve tx c :=
  signTx_accepted (c := { sampleContent 5 with compressedPubKey := toyKeys.publicKey }) toyKeys_sign rfl
    (sampleContent_shared 5) (Or.inr (by decide))

end QorechainRdk
