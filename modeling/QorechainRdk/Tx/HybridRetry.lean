import QorechainRdk.Rust.Rest
import QorechainRdk.Tx.Stop

/-!
# One retry of a hybrid transaction

The hybrid broadcasts of `hybrid.go`, `tx/client.py` and `tx/client.rs`. The builder of the SDK, its resolver and its
test of a rejection are parameters, and a run keeps what it has posted.
-/

namespace QorechainRdk

open Js

inductive SignBytesVersion where
  | v1
  | v2
  deriving DecidableEq, Repr

/-- The configured form. -/
inductive SignBytesMode where
  | auto
  | fixed (version : SignBytesVersion)
  deriving DecidableEq, Repr

/-- What the hybrid builder is given besides the keys and the form. -/
structure HybridTxArgs where
  messages : List (String × Bytes)
  feeAmount : List (String × String)
  gas : String
  memo : String
  chainId : String
  accountNumber : Int
  sequence : Int
  includePqcPublicKey : Bool
  deriving DecidableEq, Repr

structure BuiltTx where
  txRaw : Bytes
  signBytesVersion : SignBytesVersion
  deriving DecidableEq, Repr

/-- An answer to a posted transaction, with its body as parsed. -/
structure TxAnswer where
  status : Nat
  statusText : String
  bodyText : String
  json : Except String Json

def TxAnswer.ok (answer : TxAnswer) : Bool := 200 ≤ answer.status && answer.status < 300

/-- What one broadcast has posted, in order, and what it returns. -/
structure Broadcast (ε ρ : Type) where
  posted : List BuiltTx
  result : Except ε ρ

section
variable {ε ρ : Type} (build : HybridTxArgs → SignBytesVersion → Except ε BuiltTx)
  (post : Nat → BuiltTx → Except ε ρ)

/-- Sign under a form and post, after what was posted before. -/
def signAndPost (args : HybridTxArgs) (posted : List BuiltTx) (version : SignBytesVersion) : Broadcast ε ρ :=
  match build args version with
  | .error err => ⟨posted, .error err⟩
  | .ok built => ⟨posted ++ [built], post posted.length built⟩

end

/-! ### Go -/

namespace Go

structure TxParams where
  sequence : Nat
  accountNumber : Nat
  feeAmount : List (String × String)
  gasLimit : Nat
  memo : String
  deriving DecidableEq, Repr

/-- The client's own data, and what its calls give. -/
structure HybridClient where
  chainId : String
  includePqcPublicKey : Bool
  /-- Empty for the default. -/
  signBytesVersion : Option SignBytesMode
  build : HybridTxArgs → SignBytesVersion → Except String BuiltTx
  resolve : SignBytesMode → Except String SignBytesVersion
  refresh : SignBytesMode → Except String SignBytesVersion
  send : Nat → BuiltTx → Except String TxAnswer
  isHybridRejection : String → Nat → String → Bool
  sprint : Json → String

def broadcastTxBytes (sent : Except String TxAnswer) : Except String RawRecord :=
  match sent with
  | .error err => .error err
  | .ok answer =>
    if !answer.ok then .error s!"broadcast failed: {answer.status} {answer.statusText}"
    else answer.json.map asRecord

section
variable (c : HybridClient)

def requestedSignBytes : SignBytesMode := c.signBytesVersion.getD .auto

def resolveSignBytes (refresh : Bool) : Except String SignBytesVersion :=
  if refresh then c.refresh (requestedSignBytes c) else c.resolve (requestedSignBytes c)

def hybridArgs (messages : List (String × Bytes)) (p : TxParams) : HybridTxArgs where
  messages := messages
  feeAmount := p.feeAmount
  gas := toString p.gasLimit
  memo := p.memo
  chainId := c.chainId
  accountNumber := p.accountNumber
  sequence := p.sequence
  includePqcPublicKey := c.includePqcPublicKey

def isHybridRejection (res : RawRecord) : Bool :=
  let nested := match pick res ["tx_response", "txResponse"] with
    | some value => asRecord value
    | none => []
  let r := if nested = [] then res else nested
  let code := asU64 (pick r ["code"]) 0
  if code = 0 ∨ 0xffffffff < code then false
  else c.isHybridRejection (asStr c.sprint (pick r ["codespace"]) "") code
    (asStr c.sprint (pick r ["raw_log", "rawLog"]) "")

/-- The retry is left out where the form stays the same. -/
def broadcastHybrid (messages : List (String × Bytes)) (p : TxParams) : Broadcast String RawRecord :=
  let post := fun n built => broadcastTxBytes (c.send n built)
  match resolveSignBytes c false with
  | .error err => ⟨[], .error err⟩
  | .ok version =>
    match c.build (hybridArgs c messages p) version with
    | .error err => ⟨[], .error err⟩
    | .ok built =>
      match post 0 built with
      | .error err => ⟨[built], .error err⟩
      | .ok res =>
        if requestedSignBytes c ≠ .auto ∨ isHybridRejection c res = false then ⟨[built], .ok res⟩
        else
          match resolveSignBytes c true with
          | .error _ => ⟨[built], .ok res⟩
          | .ok fresh =>
            if fresh = built.signBytesVersion then ⟨[built], .ok res⟩
            else signAndPost c.build post (hybridArgs c messages p) [built] fresh

end
end Go

/-! ### Python -/

namespace Py

/-- An exception, and whether it is a `RuntimeError`. -/
structure PyError where
  runtime : Bool
  message : String
  deriving DecidableEq, Repr

structure TxOptions where
  gasLimit : Nat := 200000
  feeAmount : String := "5000"
  feeDenom : String := "uqor"
  memo : String := ""
  deriving DecidableEq, Repr

structure BroadcastResult where
  txHash : String
  code : Int
  rawLog : String
  raw : RawRecord

structure HybridClient where
  chainId : String
  includePqcPublicKey : Bool
  signBytesVersion : SignBytesMode
  build : HybridTxArgs → SignBytesVersion → Except PyError BuiltTx
  resolve : SignBytesMode → Except PyError SignBytesVersion
  refresh : SignBytesMode → Except PyError SignBytesVersion
  fetchAccount : Except PyError (Int × Int)
  transport : Nat → BuiltTx → Except PyError TxAnswer
  rejectionError : PyError → Bool
  rejectionRaw : RawRecord → Bool
  /-- `str` of an array or of an object. -/
  repr : Json → String

def str (repr : Json → String) : Json → String
  | .null => "None"
  | .bool b => if b then "True" else "False"
  | .number (.integer n) => toString n
  | .number (.other text) => text
  | .string s => s
  | value => repr value

/-- `int(value)`. -/
def intOf (value : Json) : Except PyError Int :=
  match value with
  | .number n =>
    match wholePart n with
    | .int i => .ok i
    | .infinite _ => .error ⟨false, "cannot convert float infinity to integer"⟩
    | .nan => .error ⟨false, "cannot convert float NaN to integer"⟩
  | .bool b => .ok (if b then 1 else 0)
  | .string s =>
    match parseInt s with
    | some i => .ok i
    | none => .error ⟨false, "invalid literal for int() with base 10"⟩
  | _ => .error ⟨false, "int() argument must be a string, a bytes-like object or a real number"⟩

/-- `resp.json() or {}`, of which `get` is asked. -/
def asDict (value : Json) : Except PyError RawRecord :=
  match value with
  | .object fields => .ok fields
  | .null => .ok []
  | .bool false => .ok []
  | .number n => if n = .integer 0 then .ok [] else .error ⟨false, "object has no attribute get"⟩
  | .string s => if s = "" then .ok [] else .error ⟨false, "object has no attribute get"⟩
  | .array items => if items.isEmpty then .ok [] else .error ⟨false, "object has no attribute get"⟩
  | .bool true => .error ⟨false, "object has no attribute get"⟩

/-- A value of its own that is not a record has no `get` either. -/
def txResponse (body : RawRecord) : Except PyError RawRecord :=
  match body.lookup "tx_response" with
  | none => .ok body
  | some (.object fields) => .ok fields
  | some _ => .error ⟨false, "object has no attribute get"⟩

section
variable (c : HybridClient)

def postTx (sent : Except PyError TxAnswer) : Except PyError BroadcastResult := do
  let resp ← sent
  if !resp.ok then .error ⟨true, s!"broadcast failed: {resp.status} {resp.statusText}: {resp.bodyText}"⟩
  else do
    let parsed ← resp.json.mapError fun message => (⟨false, message⟩ : PyError)
    let body ← asDict parsed
    let raw ← txResponse body
    let code ← intOf ((raw.lookup "code").getD (.number (.integer 0)))
    return {
      txHash := str c.repr ((raw.lookup "txhash").getD (.string ""))
      code
      rawLog := str c.repr ((raw.lookup "raw_log").getD (.string ""))
      raw }

def hybridArgs (messages : List (String × Bytes)) (account : Int × Int) (opts : TxOptions) : HybridTxArgs where
  messages := messages
  feeAmount := [(opts.feeDenom, opts.feeAmount)]
  gas := toString opts.gasLimit
  memo := opts.memo
  chainId := c.chainId
  accountNumber := account.1
  sequence := account.2
  includePqcPublicKey := c.includePqcPublicKey

/-- Sign and post under what the resolver says, after what was posted before. -/
def attempt (args : HybridTxArgs) (posted : List BuiltTx) (version : Except PyError SignBytesVersion) :
    Broadcast PyError BroadcastResult :=
  match version with
  | .error err => ⟨posted, .error err⟩
  | .ok version => signAndPost c.build (fun n built => postTx c (c.transport n built)) args posted version

/-- The outcome of the first attempt calls for another one. -/
def rejected (outcome : Except PyError BroadcastResult) : Bool :=
  match outcome with
  | .error err => err.runtime && c.rejectionError err
  | .ok result => c.rejectionRaw result.raw

def broadcastMessages (messages : List (String × Bytes)) (opts : TxOptions) : Broadcast PyError BroadcastResult :=
  match c.fetchAccount with
  | .error err => ⟨[], .error err⟩
  | .ok account =>
    let args := hybridArgs c messages account opts
    let first := attempt c args [] (c.resolve c.signBytesVersion)
    if c.signBytesVersion = .auto ∧ rejected c first.result = true then
      attempt c args first.posted (c.refresh .auto)
    else first

end
end Py

/-! ### Rust -/

namespace Rust

def RestError.text : RestError → String
  | .transport text => text
  | .status method path code => s!"REST {method} {path} failed: {code}"
  | .json text => s!"REST response was not valid JSON: {text}"

structure TxOptions where
  gasLimit : Nat := 200000
  feeAmountUqor : Nat := 0
  memo : String := ""
  deriving DecidableEq, Repr

/-- `cached` is the form that is kept and not yet too old; each round of questions has its own answers. -/
structure HybridClient where
  chainId : String
  accountNumber : Nat
  sequence : Nat
  includePqcPublicKey : Bool
  signBytes : SignBytesMode
  cached : Option SignBytesVersion
  isLegacyChain : String → Bool
  upgrades : List String
  versionFor : String → Int → SignBytesVersion
  build : HybridTxArgs → SignBytesVersion → Except String BuiltTx
  getAppliedPlanHeight : Bool → String → Except RestError Int
  send : Nat → BuiltTx → Except String TxAnswer
  isRejection : Json → Bool

/-- The first positive height of the plans. -/
def appliedHeight (ask : String → Except RestError Int) : List String → Int → Except TxError Int
  | [], height => .ok height
  | plan :: plans, _ =>
    match ask plan with
    | .error err => .error (.build
        (s!"cannot ask the node whether upgrade {plan} is applied ({err.text}); pass an " ++
          "explicit sign-bytes version (v1 or v2)"))
    | .ok height => if 0 < height then .ok height else appliedHeight ask plans height

section
variable (c : HybridClient)

def resolveSignBytesVersionWith (mode : SignBytesMode) (refresh : Bool) : Except TxError SignBytesVersion :=
  match mode with
  | .fixed version => .ok version
  | .auto =>
    if !c.isLegacyChain c.chainId then .ok .v2
    else
      match if refresh then none else c.cached with
      | some version => .ok version
      | none => do
        let height ← appliedHeight (c.getAppliedPlanHeight refresh) c.upgrades 0
        return c.versionFor c.chainId height

def hybridArgs (message : String × Bytes) (opts : TxOptions) : HybridTxArgs where
  messages := [message]
  feeAmount := [("uqor", toString opts.feeAmountUqor)]
  gas := toString opts.gasLimit
  memo := opts.memo
  chainId := c.chainId
  accountNumber := c.accountNumber
  sequence := c.sequence
  includePqcPublicKey := c.includePqcPublicKey

def signHybrid (args : HybridTxArgs) (version : SignBytesVersion) : Except TxError BuiltTx :=
  (c.build args version).mapError .build

def postTx (sent : Except String TxAnswer) : Except TxError Json :=
  match sent with
  | .error message => .error (.rest (.transport message))
  | .ok answer =>
    if !answer.ok then .error (.rest (.status "POST" "/cosmos/tx/v1beta1/txs" answer.status))
    else answer.json.mapError fun message => .rest (.json message)

def broadcast (message : String × Bytes) (opts : TxOptions) : Broadcast TxError Json :=
  let post := fun n built => postTx (c.send n built)
  let args := hybridArgs c message opts
  match resolveSignBytesVersionWith c c.signBytes false with
  | .error err => ⟨[], .error err⟩
  | .ok version =>
    let first := signAndPost (signHybrid c) post args [] version
    match first.result with
    | .error err => ⟨first.posted, .error err⟩
    | .ok resp =>
      if c.signBytes ≠ .auto ∨ c.isRejection resp = false then ⟨first.posted, .ok resp⟩
      else
        match resolveSignBytesVersionWith c c.signBytes true with
        | .error err => ⟨first.posted, .error err⟩
        | .ok fresh => signAndPost (signHybrid c) post args first.posted fresh

end
end Rust
/-! ### At most one retry -/

/-- At most two transactions are posted, of the same messages, fee, memo, account number and sequence. The second one
follows a rejection, is signed under a form that was asked for anew, and never comes after a form of the caller's. -/
structure RetriesOnce {ε : Type} (build : HybridTxArgs → SignBytesVersion → Except ε BuiltTx) (args : HybridTxArgs)
    (mode : SignBytesMode) (rejected : BuiltTx → Prop) (refreshed : SignBytesVersion → Prop) (posted : List BuiltTx) :
    Prop where
  atMostTwo : posted.length ≤ 2
  sameArgs : ∀ tx ∈ posted, ∃ version, build args version = .ok tx
  retry : ∀ first second, posted = [first, second] →
    mode = .auto ∧ rejected first ∧ ∃ version, refreshed version ∧ build args version = .ok second
  fixedOnce : ∀ version, mode = .fixed version → posted.length ≤ 1

section
variable {ε ρ : Type} {build : HybridTxArgs → SignBytesVersion → Except ε BuiltTx} {post : Nat → BuiltTx → Except ε ρ}
  {args : HybridTxArgs} {mode : SignBytesMode} {rejected : BuiltTx → Prop} {refreshed : SignBytesVersion → Prop}
  {version fresh : SignBytesVersion} {posted : List BuiltTx} {tx : BuiltTx}

theorem signAndPost_posted (build : HybridTxArgs → SignBytesVersion → Except ε BuiltTx)
    (post : Nat → BuiltTx → Except ε ρ) (args : HybridTxArgs) (before : List BuiltTx) (version : SignBytesVersion) :
    (∃ err, signAndPost build post args before version = ⟨before, .error err⟩) ∨
      ∃ built, build args version = .ok built ∧
        signAndPost build post args before version = ⟨before ++ [built], post before.length built⟩ := by
  unfold signAndPost
  cases build args version with
  | error err => exact Or.inl ⟨err, rfl⟩
  | ok built => exact Or.inr ⟨built, rfl, rfl⟩

theorem RetriesOnce.none : RetriesOnce build args mode rejected refreshed [] where
  atMostTwo := Nat.zero_le 2
  sameArgs := by
    intro tx member
    cases member
  retry := by
    intro first second same
    cases same
  fixedOnce := fun _ _ => Nat.zero_le 1

theorem RetriesOnce.one (built : build args version = .ok tx) :
    RetriesOnce build args mode rejected refreshed [tx] where
  atMostTwo := Nat.le_succ 1
  sameArgs := by
    intro other member
    rw [List.mem_singleton.mp member]
    exact ⟨version, built⟩
  retry := by
    intro first second same
    cases same
  fixedOnce := fun _ _ => Nat.le_refl 1

theorem RetriesOnce.two {second : BuiltTx} (automatic : mode = .auto) (built : build args version = .ok tx)
    (refused : rejected tx) (anew : refreshed fresh) (rebuilt : build args fresh = .ok second) :
    RetriesOnce build args mode rejected refreshed [tx, second] where
  atMostTwo := Nat.le_refl 2
  sameArgs := by
    intro other member
    rcases List.mem_cons.mp member with rfl | later
    · exact ⟨version, built⟩
    · rw [List.mem_singleton.mp later]
      exact ⟨fresh, rebuilt⟩
  retry := by
    intro first other same
    cases same
    exact ⟨automatic, refused, fresh, anew, rebuilt⟩
  fixedOnce := by
    intro version given
    rw [automatic] at given
    cases given

/-- A second signing and posting, after a first one that was rejected. -/
theorem RetriesOnce.again (automatic : mode = .auto) (built : build args version = .ok tx) (refused : rejected tx)
    (anew : refreshed fresh) :
    RetriesOnce build args mode rejected refreshed (signAndPost build post args [tx] fresh).posted := by
  rcases signAndPost_posted build post args [tx] fresh with ⟨err, failed⟩ | ⟨second, rebuilt, sent⟩
  · rw [failed]
    exact RetriesOnce.one built
  · rw [sent]
    exact RetriesOnce.two automatic built refused anew rebuilt

end

theorem Go.broadcastHybrid_retriesOnce (c : Go.HybridClient) (messages : List (String × Bytes)) (p : Go.TxParams) :
    RetriesOnce c.build (Go.hybridArgs c messages p) (Go.requestedSignBytes c)
      (fun tx => ∃ res, Go.broadcastTxBytes (c.send 0 tx) = .ok res ∧ Go.isHybridRejection c res = true)
      (fun version => c.refresh (Go.requestedSignBytes c) = .ok version)
      (Go.broadcastHybrid c messages p).posted := by
  unfold Go.broadcastHybrid
  dsimp only
  split
  · exact RetriesOnce.none
  · rename_i version _
    split
    · exact RetriesOnce.none
    · rename_i built signed
      split
      · exact RetriesOnce.one signed
      · rename_i res answer
        split
        · exact RetriesOnce.one signed
        · rename_i rejection
          rw [not_or, not_not, Bool.not_eq_false] at rejection
          split
          · exact RetriesOnce.one signed
          · rename_i fresh anew
            split
            · exact RetriesOnce.one signed
            · exact RetriesOnce.again rejection.1 signed ⟨res, answer, rejection.2⟩ anew

theorem Py.attempt_posted (c : Py.HybridClient) (args : HybridTxArgs) (posted : List BuiltTx)
    (version : Except Py.PyError SignBytesVersion) :
    (∃ err, Py.attempt c args posted version = ⟨posted, .error err⟩) ∨
      ∃ form built, version = .ok form ∧ c.build args form = .ok built ∧
        Py.attempt c args posted version =
          ⟨posted ++ [built], Py.postTx c (c.transport posted.length built)⟩ := by
  unfold Py.attempt
  cases version with
  | error err => exact Or.inl ⟨err, rfl⟩
  | ok form =>
    rcases signAndPost_posted c.build (fun n built => Py.postTx c (c.transport n built)) args posted form with
      failed | ⟨built, signed, sent⟩
    · exact Or.inl failed
    · exact Or.inr ⟨form, built, rfl, signed, sent⟩

/-- An attempt that fails before it posts may still be repeated; the transaction posted then is the first one. -/
theorem Py.broadcastMessages_retriesOnce (c : Py.HybridClient) (messages : List (String × Bytes))
    (opts : Py.TxOptions) {account : Int × Int} (read : c.fetchAccount = .ok account) :
    RetriesOnce c.build (Py.hybridArgs c messages account opts) c.signBytesVersion
      (fun tx => Py.rejected c (Py.postTx c (c.transport 0 tx)) = true)
      (fun version => c.refresh .auto = .ok version)
      (Py.broadcastMessages c messages opts).posted := by
  unfold Py.broadcastMessages
  rw [read]
  dsimp only
  rcases Py.attempt_posted c (Py.hybridArgs c messages account opts) [] (c.resolve c.signBytesVersion) with
    ⟨err, failed⟩ | ⟨form, built, -, signed, sent⟩
  · rw [failed]
    dsimp only
    split
    · rcases Py.attempt_posted c (Py.hybridArgs c messages account opts) [] (c.refresh .auto) with
        ⟨err, failed⟩ | ⟨form, built, -, signed, sent⟩
      · rw [failed]
        exact RetriesOnce.none
      · rw [sent]
        exact RetriesOnce.one signed
    · exact RetriesOnce.none
  · rw [sent]
    dsimp only
    split
    · rename_i again
      rcases Py.attempt_posted c (Py.hybridArgs c messages account opts) ([] ++ [built]) (c.refresh .auto) with
        ⟨err, failed⟩ | ⟨fresh, second, anew, rebuilt, resent⟩
      · rw [failed]
        exact RetriesOnce.one signed
      · rw [resent]
        exact RetriesOnce.two again.1 signed again.2 anew rebuilt
    · exact RetriesOnce.one signed

/-- What is asked for anew does not look at the kept form. -/
theorem Rust.broadcast_retriesOnce (c : Rust.HybridClient) (message : String × Bytes) (opts : Rust.TxOptions) :
    RetriesOnce (Rust.signHybrid c) (Rust.hybridArgs c message opts) c.signBytes
      (fun tx => ∃ resp, Rust.postTx (c.send 0 tx) = .ok resp ∧ c.isRejection resp = true)
      (fun version => ∀ cached, Rust.resolveSignBytesVersionWith { c with cached } c.signBytes true = .ok version)
      (Rust.broadcast c message opts).posted := by
  unfold Rust.broadcast
  dsimp only
  split
  · exact RetriesOnce.none
  · rename_i version _
    rcases signAndPost_posted (Rust.signHybrid c) (fun n built => Rust.postTx (c.send n built))
      (Rust.hybridArgs c message opts) [] version with ⟨err, failed⟩ | ⟨built, signed, sent⟩
    · rw [failed]
      exact RetriesOnce.none
    · rw [sent]
      dsimp only
      split
      · exact RetriesOnce.one signed
      · rename_i resp answer
        split
        · exact RetriesOnce.one signed
        · rename_i rejection
          rw [not_or, not_not, Bool.not_eq_false] at rejection
          split
          · exact RetriesOnce.one signed
          · rename_i fresh anew
            exact RetriesOnce.again rejection.1 signed ⟨resp, answer, rejection.2⟩ fun _ => anew

/-- In all three clients, a hybrid broadcast retries at most once, and with the same transaction. -/
theorem hybrid_retries_once :
    (∀ (c : Go.HybridClient) (messages : List (String × Bytes)) (p : Go.TxParams),
      RetriesOnce c.build (Go.hybridArgs c messages p) (Go.requestedSignBytes c)
        (fun tx => ∃ res, Go.broadcastTxBytes (c.send 0 tx) = .ok res ∧ Go.isHybridRejection c res = true)
        (fun version => c.refresh (Go.requestedSignBytes c) = .ok version)
        (Go.broadcastHybrid c messages p).posted) ∧
    (∀ (c : Py.HybridClient) (messages : List (String × Bytes)) (opts : Py.TxOptions),
      (∀ err, c.fetchAccount = .error err → (Py.broadcastMessages c messages opts).posted = []) ∧
      ∀ account, c.fetchAccount = .ok account →
        RetriesOnce c.build (Py.hybridArgs c messages account opts) c.signBytesVersion
          (fun tx => Py.rejected c (Py.postTx c (c.transport 0 tx)) = true)
          (fun version => c.refresh .auto = .ok version)
          (Py.broadcastMessages c messages opts).posted) ∧
    (∀ (c : Rust.HybridClient) (message : String × Bytes) (opts : Rust.TxOptions),
      RetriesOnce (Rust.signHybrid c) (Rust.hybridArgs c message opts) c.signBytes
        (fun tx => ∃ resp, Rust.postTx (c.send 0 tx) = .ok resp ∧ c.isRejection resp = true)
        (fun version => ∀ cached, Rust.resolveSignBytesVersionWith { c with cached } c.signBytes true = .ok version)
        (Rust.broadcast c message opts).posted) := by
  refine ⟨Go.broadcastHybrid_retriesOnce, ?_, Rust.broadcast_retriesOnce⟩
  intro c messages opts
  constructor
  · intro err failed
    unfold Py.broadcastMessages
    rw [failed]
  · intro account read
    exact Py.broadcastMessages_retriesOnce c messages opts read

end QorechainRdk
