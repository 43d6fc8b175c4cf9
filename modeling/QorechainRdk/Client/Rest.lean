import QorechainRdk.Client.Wire

/-!
# Reads over REST

`client/rest.ts`. `fetch` is a parameter: it rejects, or answers with a status and a body.
-/

namespace QorechainRdk

open Js

structure HttpResponse where
  ok : Bool
  status : Nat
  statusText : String
  json : Except JsError Json

abbrev FetchLike := String → Except JsError HttpResponse

def asRecord : Json → RawRecord
  | .object fields => fields
  | _ => []

def asArray : Option Json → List Json
  | some (.array items) => items
  | _ => []

/-- A mapper on an item of a list: `null` has no fields, not even the first one that is read. -/
def mapItem {α : Type} (first : String) (map : RawRecord → Except JsError α) : Json → Except JsError α
  | .null => fail s!"Cannot read properties of null (reading '{first}')"
  | item => map (asRecord item)

/-- `body.key ?? body`, as a record. -/
def nested (body : RawRecord) (key : String) : RawRecord :=
  match body.lookup key with
  | none => body
  | some .null => body
  | some value => asRecord value

def isUriUnreserved (c : Char) : Bool :=
  c.isAlphanum || "-_.!~*'()".toList.contains c

def encodeURIComponent (s : String) : String :=
  String.ofList (s.toList.flatMap fun c =>
    if isUriUnreserved c then [c]
    else (String.utf8EncodeChar c).flatMap fun b => '%' :: (bytesToHex [b]).toList.map Char.toUpper)

section
variable (fetch : FetchLike) (baseUrl : String)

def base : String := String.ofList (baseUrl.toList.reverse.dropWhile (· == '/')).reverse

def RestClient.get (path : String) : Except JsError RawRecord := do
  let res ← fetch (base baseUrl ++ path)
  if !res.ok then fail s!"REST GET {path} failed: {res.status} {res.statusText}"
  else do return asRecord (← res.json)

def getRollup (rollupId : String) : Except JsError RollupView := do
  let body ← RestClient.get fetch baseUrl s!"/qorechain/rdk/v1/rollup/{encodeURIComponent rollupId}"
  mapRollupView (nested body "rollup")

def getBatch (rollupId : String) (batchIndex : Int) : Except JsError BatchView := do
  let path := s!"/qorechain/rdk/v1/batch/{encodeURIComponent rollupId}/{numberText batchIndex}"
  let body ← RestClient.get fetch baseUrl path
  mapBatchView (nested body "batch")

def latestBatchPath (rollupId : String) : String :=
  s!"/qorechain/rdk/v1/latest_batch/{encodeURIComponent rollupId}"

def getLatestBatch (rollupId : String) : Except JsError BatchView := do
  let body ← RestClient.get fetch baseUrl (latestBatchPath rollupId)
  mapBatchView (nested body "batch")

def getAppliedPlanHeight (name : String) : Except JsError Int := do
  let body ← RestClient.get fetch baseUrl s!"/cosmos/upgrade/v1beta1/applied_plan/{encodeURIComponent name}"
  match body.lookup "height" with
  | none => return 0
  | some height => do
    let h ← num (some height)
    return if 0 < h then h else 0

def getAnchor (layerId : String) : Except JsError AnchorView := do
  let body ← RestClient.get fetch baseUrl s!"/qorechain/multilayer/v1/anchor/{encodeURIComponent layerId}"
  mapAnchorView (nested body "anchor")

def getLatestAnchor (layerId : String) : Except JsError AnchorView := getAnchor fetch baseUrl layerId

def getAnchors (layerId : String) : Except JsError (List AnchorView) := do
  let body ← RestClient.get fetch baseUrl s!"/qorechain/multilayer/v1/anchors/{encodeURIComponent layerId}"
  (asArray (body.lookup "anchors")).mapM (mapItem "layer_id" mapAnchorView)

def getPqcAccount (address : String) : Except JsError PqcAccountView := do
  let body ← RestClient.get fetch baseUrl s!"/qorechain/pqc/v1/account/{encodeURIComponent address}"
  mapPqcAccountView (nested body "account")

def restClient : RestClient where
  getRollup := getRollup fetch baseUrl
  getBatch := getBatch fetch baseUrl
  getAnchors := getAnchors fetch baseUrl
  getLatestAnchor := getLatestAnchor fetch baseUrl
  getPqcAccount := getPqcAccount fetch baseUrl
  getAppliedPlanHeight := getAppliedPlanHeight fetch baseUrl

end

section
variable {fetch : FetchLike} {baseUrl path : String}

/-- A read gives a record exactly on an answer that is `ok` and parses. -/
theorem get_ok_iff {body : RawRecord} : RestClient.get fetch baseUrl path = .ok body ↔
    ∃ res value, fetch (base baseUrl ++ path) = .ok res ∧ res.ok = true ∧ res.json = .ok value ∧
      asRecord value = body := by
  unfold RestClient.get
  rw [bind_ok_iff]
  constructor
  · intro h
    obtain ⟨res, answer, rest⟩ := h
    obtain ⟨ok, rest⟩ := guard_ok_iff.mp rest
    obtain ⟨value, parsed, rest⟩ := bind_ok rest
    exact ⟨res, value, answer, by simpa using ok, parsed, pure_ok_iff.mp rest⟩
  · intro h
    obtain ⟨res, value, answer, ok, parsed, same⟩ := h
    refine ⟨res, answer, guard_ok_iff.mpr ⟨by simp [ok], ?_⟩⟩
    rw [parsed]
    exact pure_ok_iff.mpr same

/-- A failure is that of the request, of the status or of the body. -/
theorem get_error_iff {err : JsError} : RestClient.get fetch baseUrl path = .error err ↔
    fetch (base baseUrl ++ path) = .error err ∨ ∃ res, fetch (base baseUrl ++ path) = .ok res ∧
      (if res.ok then res.json = .error err
      else err = ⟨s!"REST GET {path} failed: {res.status} {res.statusText}"⟩) := by
  unfold RestClient.get
  cases fetch (base baseUrl ++ path) with
  | error e => simp [Bind.bind, Except.bind]
  | ok res =>
    rw [ok_bind]
    by_cases ok : res.ok = true
    · cases body : res.json with
      | error e => simp [ok, body, Bind.bind, Except.bind]
      | ok value => simp [ok, body, pure, Except.pure]
    · rw [if_pos (by simpa using ok)]
      constructor
      · intro failed
        cases failed
        exact Or.inr ⟨res, rfl, (if_neg ok).mpr rfl⟩
      · intro h
        obtain rejected | ⟨r, answer, failure⟩ := h
        · cases rejected
        · cases answer
          rw [if_neg ok] at failure
          rw [failure]
          rfl

end

end QorechainRdk
