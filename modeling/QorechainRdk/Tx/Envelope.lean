import QorechainRdk.Tx.Cosmos
import QorechainRdk.Tx.Sdks

/-!
# The transaction envelope

`tx.go` and `Tx.java`: the hand-encoded envelope around the messages, and the bytes that are signed. The two
SDKs write field for field the same calls, each through its own writer. Nested messages and the byte fields of
the envelope are written when they are empty, too.
-/

namespace QorechainRdk

open Protobuf

def RdkMsg.typeURL : RdkMsg → String
  | .createRollup _ => MsgCreateRollup.codec.typeUrl
  | .submitBatch _ => MsgSubmitBatch.codec.typeUrl
  | .challengeBatch _ => MsgChallengeBatch.codec.typeUrl
  | .resolveChallenge _ => MsgResolveChallenge.codec.typeUrl
  | .pauseRollup _ => MsgPauseRollup.codec.typeUrl
  | .resumeRollup _ => MsgResumeRollup.codec.typeUrl
  | .stopRollup _ => MsgStopRollup.codec.typeUrl
  | .executeWithdrawal _ => MsgExecuteWithdrawal.codec.typeUrl

/-! ### The encoders -/

namespace Envelope

def typeURLSecp256k1PubKey : String := "/cosmos.crypto.secp256k1.PubKey"

/-- `SIGN_MODE_DIRECT`. -/
def signModeDirect : Nat := 1

/-- The gas limit is a `uint64`, or a `long` of the same 64 bits. -/
structure Fee where
  amount : List Cosmos.Coin
  gasLimit : BitVec 64
  deriving DecidableEq

/-- What the arguments of `SignDocBytes` say. -/
structure Content where
  messages : List RdkMsg
  memo : String
  fee : Fee
  compressedPubKey : Bytes
  sequence : BitVec 64
  chainID : String
  accountNumber : BitVec 64
  deriving DecidableEq

/-- The writer of an SDK. -/
structure Wire where
  writeVarint : Nat → Bytes
  writeUint64 : Nat → BitVec 64 → Bytes

section
variable (w : Wire) (marshal : RdkMsg → Bytes)

def encodeAny (typeURL : String) (value : Bytes) : Bytes :=
  ProtoWriter.writeRawString w.writeVarint 1 typeURL ++ ProtoWriter.writeRawBytes w.writeVarint 2 value

def encodeTxBody (messages : List RdkMsg) (memo : String) : Bytes :=
  messages.flatMap (fun m => ProtoWriter.writeMessage w.writeVarint 1 (encodeAny w m.typeURL (marshal m))) ++
    ProtoWriter.writeString w.writeVarint 2 memo

def encodePubKey (compressed : Bytes) : Bytes := ProtoWriter.writeRawBytes w.writeVarint 1 compressed

def encodeModeInfoSingle (signMode : Nat) : Bytes :=
  ProtoWriter.writeMessage w.writeVarint 1 (ProtoWriter.writeEnum w.writeVarint 1 signMode)

def encodeSignerInfo (compressedPubKey : Bytes) (sequence : BitVec 64) : Bytes :=
  let pubAny := encodeAny w typeURLSecp256k1PubKey (encodePubKey w compressedPubKey)
  ProtoWriter.writeMessage w.writeVarint 1 pubAny ++
    ProtoWriter.writeMessage w.writeVarint 2 (encodeModeInfoSingle w signModeDirect) ++ w.writeUint64 3 sequence

def encodeCoin (c : Cosmos.Coin) : Bytes :=
  ProtoWriter.writeString w.writeVarint 1 c.denom ++ ProtoWriter.writeString w.writeVarint 2 c.amount

def encodeFee (fee : Fee) : Bytes :=
  fee.amount.flatMap (fun c => ProtoWriter.writeMessage w.writeVarint 1 (encodeCoin w c)) ++
    w.writeUint64 2 fee.gasLimit

def encodeAuthInfo (compressedPubKey : Bytes) (sequence : BitVec 64) (fee : Fee) : Bytes :=
  ProtoWriter.writeMessage w.writeVarint 1 (encodeSignerInfo w compressedPubKey sequence) ++
    ProtoWriter.writeMessage w.writeVarint 2 (encodeFee w fee)

def encodeSignDoc (bodyBytes authInfoBytes : Bytes) (chainID : String) (accountNumber : BitVec 64) : Bytes :=
  ProtoWriter.writeRawBytes w.writeVarint 1 bodyBytes ++ ProtoWriter.writeRawBytes w.writeVarint 2 authInfoBytes ++
    ProtoWriter.writeString w.writeVarint 3 chainID ++ w.writeUint64 4 accountNumber

def encodeTxRaw (bodyBytes authInfoBytes : Bytes) (signatures : List Bytes) : Bytes :=
  ProtoWriter.writeRawBytes w.writeVarint 1 bodyBytes ++ ProtoWriter.writeRawBytes w.writeVarint 2 authInfoBytes ++
    ProtoWriter.writeRepeatedBytes w.writeVarint 3 signatures

def signDocBytes (c : Content) : Bytes :=
  let body := encodeTxBody w marshal c.messages c.memo
  let authInfo := encodeAuthInfo w c.compressedPubKey c.sequence c.fee
  encodeSignDoc w body authInfo c.chainID c.accountNumber

end
end Envelope

namespace Go

def wire : Envelope.Wire where
  writeVarint := putUvarint
  writeUint64 := fun field v => writeUint64 field v.toNat

def encodeAny := Envelope.encodeAny wire

def encodeTxBody := Envelope.encodeTxBody wire marshal

def encodePubKey := Envelope.encodePubKey wire

def encodeModeInfoSingle := Envelope.encodeModeInfoSingle wire

def encodeSignerInfo := Envelope.encodeSignerInfo wire

def encodeCoin := Envelope.encodeCoin wire

def encodeFee := Envelope.encodeFee wire

def encodeAuthInfo := Envelope.encodeAuthInfo wire

def encodeSignDoc := Envelope.encodeSignDoc wire

def encodeTxRaw := Envelope.encodeTxRaw wire

def signDocBytes := Envelope.signDocBytes wire marshal

end Go

namespace Jvm

def wire : Envelope.Wire where
  writeVarint := unsigned
  writeUint64 := fun field v => writeLong field v.toInt

def encodeAny := Envelope.encodeAny wire

def encodeTxBody := Envelope.encodeTxBody wire marshal

def encodePubKey := Envelope.encodePubKey wire

def encodeModeInfoSingle := Envelope.encodeModeInfoSingle wire

def encodeSignerInfo := Envelope.encodeSignerInfo wire

def encodeCoin := Envelope.encodeCoin wire

def encodeFee := Envelope.encodeFee wire

def encodeAuthInfo := Envelope.encodeAuthInfo wire

def encodeSignDoc := Envelope.encodeSignDoc wire

def encodeTxRaw := Envelope.encodeTxRaw wire

def signDocBytes := Envelope.signDocBytes wire marshal

end Jvm

/-! ### One writer

Both writers are that of the wire format, a `long` through the 64 bits it has.
-/

namespace Envelope

def standard : Wire where
  writeVarint := varint
  writeUint64 := fun field v => integerField (field <<< 3 ||| 0) v.toNat

end Envelope

theorem Go.wire_standard : Go.wire = Envelope.standard := by
  have integers : (fun field (v : BitVec 64) => Go.writeUint64 field v.toNat) =
      fun field (v : BitVec 64) => integerField (field <<< 3 ||| 0) v.toNat := by
    funext field v
    have range : IsUint64 (v.toNat : Int) := ⟨by omega, by exact_mod_cast v.isLt⟩
    simpa using Go.writeUint64_eq field range
  unfold Go.wire Envelope.standard
  rw [Go.standard, integers]

theorem Jvm.long_toNat (v : BitVec 64) : Jvm.long v.toNat = v.toInt := by
  have width := v.isLt
  unfold Jvm.long
  rw [BitVec.toInt_eq_toNat_cond]
  split
  · split
    · rfl
    · omega
  · split
    · omega
    · rfl

theorem Jvm.wire_standard : Jvm.wire = Envelope.standard := by
  have integers : (fun field (v : BitVec 64) => Jvm.writeLong field v.toInt) =
      fun field (v : BitVec 64) => integerField (field <<< 3 ||| 0) v.toNat := by
    funext field v
    have range : IsUint64 (v.toNat : Int) := ⟨by omega, by exact_mod_cast v.isLt⟩
    rw [← Jvm.long_toNat]
    exact Jvm.writeLong_unsigned field range
  unfold Jvm.wire Envelope.standard
  rw [Jvm.standard, integers]

end QorechainRdk
