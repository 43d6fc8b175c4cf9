import QorechainRdk.Tx.Codecs

/-!
# The transaction envelope as Cosmos reads it

The envelope's messages, with the fields that the SDKs write; the canonical encoding leaves default fields out.
Nothing here is code of the SDKs: it is the layout that the comments of `tx.go` and `Tx.java` name, against
which their encoders are held.
-/

namespace QorechainRdk
namespace Cosmos

open Protobuf

structure Any where
  typeUrl : String
  value : Bytes
  deriving DecidableEq, Repr

structure TxBody where
  messages : List Any
  memo : String
  deriving DecidableEq, Repr

structure PubKey where
  key : Bytes
  deriving DecidableEq, Repr

structure Single where
  mode : Int
  deriving DecidableEq, Repr

structure ModeInfo where
  single : Option Single
  deriving DecidableEq, Repr

structure SignerInfo where
  publicKey : Option Any
  modeInfo : Option ModeInfo
  sequence : Int
  deriving DecidableEq, Repr

structure Coin where
  denom : String
  amount : String
  deriving DecidableEq, Repr

structure Fee where
  amount : List Coin
  gasLimit : Int
  deriving DecidableEq, Repr

structure AuthInfo where
  signerInfos : List SignerInfo
  fee : Option Fee
  deriving DecidableEq, Repr

structure SignDoc where
  bodyBytes : Bytes
  authInfoBytes : Bytes
  chainId : String
  accountNumber : Int
  deriving DecidableEq, Repr

structure TxRaw where
  bodyBytes : Bytes
  authInfoBytes : Bytes
  signatures : List Bytes
  deriving DecidableEq, Repr

/-- A message field that may be absent. -/
def optionalField {M : Type} (tag : Nat) (encode : M → Bytes) : Option M → List Bytes
  | none => []
  | some m => [bytesEntry tag (encode m)]

def Any.codec : Codec Any where
  typeUrl := "/google.protobuf.Any"
  fields := fun m => [stringField 10 m.typeUrl, bytesField 18 m.value]
  initial := { typeUrl := "", value := [] }
  switch := fun
    | 1 => some (setting readString fun m v => { m with typeUrl := v })
    | 2 => some (setting readBytes fun m v => { m with value := v })
    | _ => none

def TxBody.codec : Codec TxBody where
  typeUrl := "/cosmos.tx.v1beta1.TxBody"
  fields := fun m => m.messages.map (fun any => bytesEntry 10 (Any.codec.encode any)) ++ [stringField 18 m.memo]
  initial := { messages := [], memo := "" }
  switch := fun
    | 1 => some (setting (readMessage Any.codec.decode) fun m v => { m with messages := m.messages ++ [v] })
    | 2 => some (setting readString fun m v => { m with memo := v })
    | _ => none

def PubKey.codec : Codec PubKey where
  typeUrl := "/cosmos.crypto.secp256k1.PubKey"
  fields := fun m => [bytesField 10 m.key]
  initial := { key := [] }
  switch := fun
    | 1 => some (setting readBytes fun m v => { m with key := v })
    | _ => none

def Single.codec : Codec Single where
  typeUrl := "/cosmos.tx.v1beta1.ModeInfo.Single"
  fields := fun m => [integerField 8 m.mode]
  initial := { mode := 0 }
  switch := fun
    | 1 => some (setting readUint64 fun m v => { m with mode := v })
    | _ => none

def ModeInfo.codec : Codec ModeInfo where
  typeUrl := "/cosmos.tx.v1beta1.ModeInfo"
  fields := fun m => optionalField 10 Single.codec.encode m.single
  initial := { single := none }
  switch := fun
    | 1 => some (setting (readMessage Single.codec.decode) fun m v => { m with single := some v })
    | _ => none

def SignerInfo.codec : Codec SignerInfo where
  typeUrl := "/cosmos.tx.v1beta1.SignerInfo"
  fields := fun m => optionalField 10 Any.codec.encode m.publicKey ++
    optionalField 18 ModeInfo.codec.encode m.modeInfo ++ [integerField 24 m.sequence]
  initial := { publicKey := none, modeInfo := none, sequence := 0 }
  switch := fun
    | 1 => some (setting (readMessage Any.codec.decode) fun m v => { m with publicKey := some v })
    | 2 => some (setting (readMessage ModeInfo.codec.decode) fun m v => { m with modeInfo := some v })
    | 3 => some (setting readUint64 fun m v => { m with sequence := v })
    | _ => none

def Coin.codec : Codec Coin where
  typeUrl := "/cosmos.base.v1beta1.Coin"
  fields := fun m => [stringField 10 m.denom, stringField 18 m.amount]
  initial := { denom := "", amount := "" }
  switch := fun
    | 1 => some (setting readString fun m v => { m with denom := v })
    | 2 => some (setting readString fun m v => { m with amount := v })
    | _ => none

def Fee.codec : Codec Fee where
  typeUrl := "/cosmos.tx.v1beta1.Fee"
  fields := fun m => m.amount.map (fun coin => bytesEntry 10 (Coin.codec.encode coin)) ++
    [integerField 16 m.gasLimit]
  initial := { amount := [], gasLimit := 0 }
  switch := fun
    | 1 => some (setting (readMessage Coin.codec.decode) fun m v => { m with amount := m.amount ++ [v] })
    | 2 => some (setting readUint64 fun m v => { m with gasLimit := v })
    | _ => none

def AuthInfo.codec : Codec AuthInfo where
  typeUrl := "/cosmos.tx.v1beta1.AuthInfo"
  fields := fun m => m.signerInfos.map (fun info => bytesEntry 10 (SignerInfo.codec.encode info)) ++
    optionalField 18 Fee.codec.encode m.fee
  initial := { signerInfos := [], fee := none }
  switch := fun
    | 1 => some (setting (readMessage SignerInfo.codec.decode) fun m v =>
        { m with signerInfos := m.signerInfos ++ [v] })
    | 2 => some (setting (readMessage Fee.codec.decode) fun m v => { m with fee := some v })
    | _ => none

def SignDoc.codec : Codec SignDoc where
  typeUrl := "/cosmos.tx.v1beta1.SignDoc"
  fields := fun m => [
    bytesField 10 m.bodyBytes,
    bytesField 18 m.authInfoBytes,
    stringField 26 m.chainId,
    integerField 32 m.accountNumber]
  initial := { bodyBytes := [], authInfoBytes := [], chainId := "", accountNumber := 0 }
  switch := fun
    | 1 => some (setting readBytes fun m v => { m with bodyBytes := v })
    | 2 => some (setting readBytes fun m v => { m with authInfoBytes := v })
    | 3 => some (setting readString fun m v => { m with chainId := v })
    | 4 => some (setting readUint64 fun m v => { m with accountNumber := v })
    | _ => none

def TxRaw.codec : Codec TxRaw where
  typeUrl := "/cosmos.tx.v1beta1.TxRaw"
  fields := fun m => [bytesField 10 m.bodyBytes, bytesField 18 m.authInfoBytes] ++
    m.signatures.map (bytesEntry 26)
  initial := { bodyBytes := [], authInfoBytes := [], signatures := [] }
  switch := fun
    | 1 => some (setting readBytes fun m v => { m with bodyBytes := v })
    | 2 => some (setting readBytes fun m v => { m with authInfoBytes := v })
    | 3 => some (setting readBytes fun m v => { m with signatures := m.signatures ++ [v] })
    | _ => none

end Cosmos
end QorechainRdk
