import QorechainRdk.Tx.Client

/-!
# The broadcast

`resolveFee`, `broadcastHybrid` and `broadcast` of `tx/client.ts`, for the one message of a batch. What the connected
client, `calculateFee` and the signer of the SDK answer is a parameter, and so are prices, fees and responses.
-/

namespace QorechainRdk

open Js
open Doubles (Double)

inductive TxFee (Fee : Type) where
  | stdFee (fee : Fee)
  | gas (limit : Double)
  | auto

structure TxOptions (Fee : Type) where
  fee : Option (TxFee Fee) := none
  memo : Option String := none

/-- What `signAndBroadcastHybrid` is given, besides the client's own configuration. -/
structure HybridTx (Fee : Type) where
  message : MsgSubmitBatch
  fee : Fee
  memo : String
  chainId : String
  accountNumber : Nat
  sequence : Nat

/-- The answers to the calls of one broadcast; a function that the connected client lacks is missing. The chain id is
asked for again. -/
structure Transport (Price Fee Response : Type) where
  gasPrice : Option Price := none
  calculateFee : Double → Price → Except JsError Fee
  simulate : Option (MsgSubmitBatch → Option String → Except JsError Double) := none
  getChainId : Except JsError String
  getSequence : Option (Except JsError (Nat × Nat)) := none
  broadcastTx : Bool := false
  signAndBroadcastHybrid : HybridTx Fee → Except JsError Response
  signAndBroadcast : MsgSubmitBatch → TxFee Fee → String → Except JsError Response

/-- 1.4, in the units of a double. -/
def GAS_MULTIPLIER : Nat := Doubles.nearest 14 10

section
variable {Price Fee Response : Type} (transport : Transport Price Fee Response)

def simulate (message : MsgSubmitBatch) (memo : Option String) : Except JsError Double :=
  match transport.simulate with
  | none => fail "the underlying client does not support simulation"
  | some simulate => simulate message memo

def resolveFee (message : MsgSubmitBatch) (fee : TxFee Fee) (memo : Option String) : Except JsError Fee :=
  match fee, transport.gasPrice with
  | .stdFee fee, _ => return fee
  | _, none =>
    fail ("hybrid signing needs an explicit fee: pass `fee` as an StdFee in the transaction " ++
      "options, or set `gasPrice` on connect (e.g. \"0.15uqor\") so a gas limit or \"auto\" " ++
      "can be priced.")
  | .gas limit, some gasPrice => transport.calculateFee limit gasPrice
  | .auto, some gasPrice => do
    let gas ← simulate transport message memo
    transport.calculateFee (gas.scaled GAS_MULTIPLIER).round gasPrice

variable (client : RdkTxClient) (message : MsgSubmitBatch) (opts : TxOptions Fee)

def broadcastHybrid : Except JsError Response :=
  match client.getChainId, transport.getSequence, transport.broadcastTx with
  | some _, some getSequence, true => do
    let memo := opts.memo.getD ""
    let fee ← resolveFee transport message (opts.fee.getD .auto) opts.memo
    let chainId ← transport.getChainId
    let (accountNumber, sequence) ← getSequence
    transport.signAndBroadcastHybrid { message, fee, memo, chainId, accountNumber, sequence }
  | _, _, _ =>
    fail ("the underlying client cannot sign hybrid transactions: it must provide " ++
      "getChainId, getSequence, and broadcastTx (a connected StargateClient does).")

def broadcast : Except JsError Response :=
  match client.hybrid with
  | some _ => broadcastHybrid transport client message opts
  | none => transport.signAndBroadcast message (opts.fee.getD .auto) (opts.memo.getD "")

end

section
variable {Price Fee Response : Type} {transport : Transport Price Fee Response} {client : RdkTxClient}
  {message : MsgSubmitBatch} {opts : TxOptions Fee} {fee : TxFee Fee} {memo : Option String}

end

end QorechainRdk
