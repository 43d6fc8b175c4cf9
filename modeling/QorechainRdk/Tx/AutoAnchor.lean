import QorechainRdk.Tx.Anchoring
import QorechainRdk.Tx.Broadcast

/-!
# Anchoring on the side

`submitBatch` in the mode `auto`, with the broadcast that follows. An anchor that cannot be made is to be left out.
-/

namespace QorechainRdk

open Js Receipts

/-! ### What the mode promises -/

/-- The message with the signature of an attempt, if there is one. -/
def AnchorAttempt.anchor (attempt : AnchorAttempt) (message : MsgSubmitBatch) : MsgSubmitBatch :=
  match attempt.signature with
  | some signature => { message with anchorSignature := signature }
  | none => message

section
variable {Price Fee Response : Type} (pqcSign : PqcSign) (fetch : Nat → FetchLike) (client : RdkTxClient)
  (transport : Transport Price Fee Response) (input : SubmitBatchInput) (opts : TxOptions Fee)

end

section
variable {pqcSign : PqcSign} {fetchAt : Nat → FetchLike} {fetch : FetchLike} {client : RdkTxClient}
  {input : SubmitBatchInput} {attempt : AnchorAttempt} {message : MsgSubmitBatch}

section
variable {Price Fee Response : Type} {transport : Transport Price Fee Response} {opts : TxOptions Fee}
  {response : Response}

end

end

end QorechainRdk
