import QorechainRdk.Client.Features
import QorechainRdk.Client.Integers

/-!
# The reads of the Rust client

`client/rest.rs`, as far as the stop of a rollup needs it. A refused read carries its status as a number.
-/

namespace QorechainRdk
namespace Rust

open Js

/-- An answer and its body, as `serde_json` parses it. -/
structure HttpResponse where
  status : Nat
  json : Except String Json

def HttpResponse.ok (resp : HttpResponse) : Bool := 200 ≤ resp.status && resp.status < 300

abbrev Transport := String → Except String HttpResponse

inductive RestError where
  | transport (message : String)
  | status (method path : String) (status : Nat)
  | json (message : String)
  deriving DecidableEq, Repr

def isUnreserved (b : UInt8) : Bool :=
  let c := Char.ofNat b.toNat
  c.isAlphanum || "-_.~".toList.contains c

def urlencode (s : String) : String :=
  String.ofList ((encode s).flatMap fun b =>
    if isUnreserved b then [Char.ofNat b.toNat] else '%' :: (bytesToHex [b]).toList.map Char.toUpper)

/-- `Self::obj_or(&body, &[key])` -/
def objOr (body : Json) (key : String) : Json :=
  match (asRecord body).lookup key with
  | none => body
  | some .null => body
  | some value => value

def strOf (value : Option Json) (fallback : String) : String :=
  match value with
  | some (.string s) => s
  | some (.number (.integer n)) => toString n
  | some (.number (.other text)) => text
  | some (.bool b) => toString b
  | _ => fallback

def featureOf (item : Json) : ProtocolFeature where
  name := match (asRecord item).lookup "name" with
    | some (.string s) => s
    | _ => ""
  enabled := ((asRecord item).lookup "enabled").any (strictEq · (.bool true))

def latestBatchPath (rollupId : String) : String := s!"/qorechain/rdk/v1/latest_batch/{urlencode rollupId}"

section
variable (send : Transport) (baseUrl : String)

def get (path : String) : Except RestError Json :=
  match send (base baseUrl ++ path) with
  | .error message => .error (.transport message)
  | .ok resp =>
    if !resp.ok then .error (.status "GET" path resp.status)
    else match resp.json with
      | .error message => .error (.json message)
      | .ok body => .ok body

def getProtocolFeatures : Except RestError (List ProtocolFeature) := do
  let body ← get send baseUrl featuresPath
  return (featureList (asRecord body)).map featureOf

def isProtocolFeatureEnabled (name : String) : Except RestError Bool :=
  match getProtocolFeatures send baseUrl with
  | .ok list => .ok (list.any fun f => f.name == name && f.enabled)
  | .error (.status method path status) =>
    if status = 404 ∨ status = 501 then .ok false else .error (.status method path status)
  | .error err => .error err

/-- The status of what `get_latest_batch` returns. -/
def getLatestBatchStatus (rollupId : String) : Except RestError String := do
  let body ← get send baseUrl (latestBatchPath rollupId)
  return strOf (pick (asRecord (objOr body "batch")) ["status"]) ""

end

section
variable {send : Transport} {baseUrl path : String}

/-- A refused read names the status that the server answered with. -/
theorem get_status {method asked : String} {status : Nat}
    (refused : get send baseUrl path = .error (.status method asked status)) :
    ∃ resp, send (base baseUrl ++ path) = .ok resp ∧ resp.status = status := by
  unfold get at refused
  split at refused
  · cases refused
  · rename_i resp answer
    split at refused
    · cases refused
      exact ⟨resp, answer, rfl⟩
    · split at refused
      · cases refused
      · cases refused

/-- A feature read fails as `get` does, but for an absent route. -/
theorem isProtocolFeatureEnabled_error {name : String} {err : RestError}
    (failed : get send baseUrl featuresPath = .error err)
    (present : ¬∃ resp, send (base baseUrl ++ featuresPath) = .ok resp ∧ (resp.status = 404 ∨ resp.status = 501)) :
    isProtocolFeatureEnabled send baseUrl name = .error err := by
  have read : getProtocolFeatures send baseUrl = .error err := by
    unfold getProtocolFeatures
    rw [failed]
    rfl
  unfold isProtocolFeatureEnabled
  rw [read]
  cases err with
  | transport message => rfl
  | json message => rfl
  | status method path status =>
    obtain ⟨resp, answer, same⟩ := get_status failed
    dsimp only
    rw [if_neg]
    rw [← same]
    intro absent
    exact present ⟨resp, answer, absent⟩

end
end Rust
end QorechainRdk
