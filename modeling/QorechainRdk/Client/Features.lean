import QorechainRdk.Client.Rest
import QorechainRdk.Lib.Words
import QorechainRdk.Transition
import QorechainRdk.Utils.JsonText

/-!
# Protocol switches

`getProtocolFeatures` and `isProtocolFeatureEnabled` of `client/rest.ts`. An absent route is told from other
failures by the text of the error, wherever that text comes from.
-/

namespace QorechainRdk

open Js

structure ProtocolFeature where
  name : String
  enabled : Bool
  deriving DecidableEq, Repr

def FEATURE_RDK_WITHDRAWALS_BINDING : String := "rdk-withdrawals-binding"

def featuresPath : String := "/qorechain/pqc/v1/protocol_features"

/-- `String(value ?? "")` -/
def textOrEmpty (value : Option Json) : Except JsError String :=
  match value with
  | none => .ok ""
  | some .null => .ok ""
  | some value => template value

def featureOf (item : Json) : Except JsError ProtocolFeature := do
  let name ← textOrEmpty ((asRecord item).lookup "name")
  return { name, enabled := ((asRecord item).lookup "enabled").any (strictEq · (.bool true)) }

/-- `Array.isArray(body.features) ? body.features : []` -/
def featureList (body : RawRecord) : List Json :=
  match body.lookup "features" with
  | some (.array items) => items
  | _ => []

/-- The word characters of `\b`. -/
def isWordChar (c : Char) : Bool := c.isAlphanum || c == '_'

/-- `/\b(404|501)\b/.test(message)` -/
def namesAbsence (message : String) : Bool :=
  Words.search isWordChar ["404".toList, "501".toList] message.toList

section
variable (fetch : FetchLike) (baseUrl : String)

def getProtocolFeatures : Except JsError (List ProtocolFeature) := do
  let body ← RestClient.get fetch baseUrl featuresPath
  (featureList body).mapM featureOf

def isProtocolFeatureEnabled (name : String) : Except JsError Bool :=
  match getProtocolFeatures fetch baseUrl with
  | .ok features => .ok (features.any fun f => f.name == name && f.enabled)
  | .error err => if namesAbsence err.message then .ok false else .error err

end

def transitionRootVersionFor (isProtocolFeatureEnabled : String → Except JsError Bool) :
    Except JsError TransitionRootVersion := do
  return if ← isProtocolFeatureEnabled FEATURE_RDK_WITHDRAWALS_BINDING then .v2 else .v1

/-! ### What the search finds -/

theorem statuses_proper : Words.Proper isWordChar ["404".toList, "501".toList] := by
  intro w member
  simp only [List.mem_cons, List.not_mem_nil, or_false] at member
  rcases member with rfl | rfl
  · exact ⟨by decide, List.all_eq_true.mp (by decide)⟩
  · exact ⟨by decide, List.all_eq_true.mp (by decide)⟩

theorem namesAbsence_separated (s t : String) :
    namesAbsence (s ++ " " ++ t) = (namesAbsence s || namesAbsence t) := by
  unfold namesAbsence
  rw [String.toList_append, String.toList_append, List.append_assoc]
  exact Words.search_separated statuses_proper (by decide)

theorem namesAbsence_status (status : Nat) :
    namesAbsence (toString status) = true ↔ status = 404 ∨ status = 501 := by
  have word : ∀ c ∈ (toString status).toList, isWordChar c = true := by
    intro c member
    rw [Nat.toString_eq_ofList_toDigits, String.toList_ofList] at member
    have digit := Nat.isDigit_of_mem_toDigits (by decide) (by decide) member
    simp [isWordChar, Char.isAlphanum, digit]
  have injective : ∀ n : Nat, (toString status).toList = (toString n).toList ↔ status = n := by
    intro n
    rw [String.toList_inj]
    constructor
    · intro same
      have read := congrArg stringToBigInt same
      rw [stringToBigInt_toString, stringToBigInt_toString] at read
      exact Int.ofNat.inj (Option.some.inj read)
    · rintro rfl
      rfl
  unfold namesAbsence
  rw [Words.search_word_iff statuses_proper word, List.mem_cons, List.mem_singleton]
  exact or_congr (injective 404) (injective 501)

/-- The message of a refused read names the status, or what the status text brings along. -/
theorem namesAbsence_refused (res : HttpResponse) :
    namesAbsence s!"REST GET {featuresPath} failed: {res.status} {res.statusText}" = true ↔
      res.status = 404 ∨ res.status = 501 ∨ namesAbsence res.statusText = true := by
  have parts : s!"REST GET {featuresPath} failed: {res.status} {res.statusText}" =
      s!"REST GET {featuresPath} failed:" ++ " " ++ toString res.status ++ " " ++ res.statusText := by
    have space : " failed: " = " failed:" ++ " " := by decide
    simp only [toString, String.append_assoc, space]
  have first : namesAbsence s!"REST GET {featuresPath} failed:" = false := by decide
  rw [parts, namesAbsence_separated, namesAbsence_separated, first, Bool.false_or, Bool.or_eq_true,
    namesAbsence_status, or_assoc]

/-! ### What a failure is taken for -/

section
variable (fetch : FetchLike) (baseUrl name : String)

/-- The route answered that it is not there. -/
def RouteAbsent : Prop :=
  ∃ res, fetch (base baseUrl ++ featuresPath) = .ok res ∧ (res.status = 404 ∨ res.status = 501)

/-- The route answered with this list. -/
def Lists (items : List Json) : Prop :=
  ∃ body, RestClient.get fetch baseUrl featuresPath = .ok body ∧ body.lookup "features" = some (.array items)

def EnabledIn (items : List Json) : Prop :=
  ∃ item ∈ items, (asRecord item).lookup "name" = some (.string name) ∧
    (asRecord item).lookup "enabled" = some (.bool true)

/-- The chain says that the feature is not enabled. -/
def SaysDisabled : Prop := RouteAbsent fetch baseUrl ∨ ∃ items, Lists fetch baseUrl items ∧ ¬ EnabledIn name items

/-- A feature goes for disabled only where the chain says so, and other failures are raised. -/
structure FailuresRaised : Prop where
  onlyDisabled : isProtocolFeatureEnabled fetch baseUrl name = .ok false → SaysDisabled fetch baseUrl name
  raised : ∀ err, getProtocolFeatures fetch baseUrl = .error err → ¬ RouteAbsent fetch baseUrl →
    isProtocolFeatureEnabled fetch baseUrl name = .error err
  rootVersion : transitionRootVersionFor (isProtocolFeatureEnabled fetch baseUrl) = .ok .v1 →
    SaysDisabled fetch baseUrl FEATURE_RDK_WITHDRAWALS_BINDING

/-- An answer that goes for a disabled feature without saying so. -/
def HttpResponse.Misread (res : HttpResponse) : Prop :=
  res.status ≠ 404 ∧ res.status ≠ 501 ∧
    if res.ok then
      match res.json with
      | .error err => namesAbsence err.message = true
      | .ok body => ∀ items, (asRecord body).lookup "features" ≠ some (.array items)
    else namesAbsence res.statusText = true

/-- The request failed with a text that names one of the two numbers, or its answer is misread. -/
def FeaturesMisread : Prop :=
  match fetch (base baseUrl ++ featuresPath) with
  | .error err => namesAbsence err.message = true
  | .ok res => res.Misread

end

section
variable {fetch : FetchLike} {baseUrl name : String}

theorem mapM_error {α β : Type} {f : α → Except JsError β} {err : JsError} {items : List α}
    (threw : items.mapM f = .error err) : ∃ item ∈ items, f item = .error err := by
  induction items with
  | nil => cases threw
  | cons item items ih =>
    rw [List.mapM_cons] at threw
    cases first : f item with
    | error e =>
      rw [first] at threw
      cases threw
      exact ⟨item, List.mem_cons_self, first⟩
    | ok a =>
      rw [first, ok_bind] at threw
      cases others : items.mapM f with
      | error e =>
        rw [others] at threw
        cases threw
        obtain ⟨i, member, failed⟩ := ih others
        exact ⟨i, List.mem_cons_of_mem _ member, failed⟩
      | ok as =>
        rw [others] at threw
        cases threw

theorem mapM_mem {α β : Type} {f : α → Except JsError β} {items : List α} {bs : List β}
    (mapped : items.mapM f = .ok bs) {item : α} (member : item ∈ items) : ∃ b ∈ bs, f item = .ok b := by
  induction items generalizing bs with
  | nil => cases member
  | cons i items ih =>
    rw [List.mapM_cons] at mapped
    obtain ⟨b, first, mapped⟩ := bind_ok mapped
    obtain ⟨others, rest, mapped⟩ := bind_ok mapped
    obtain rfl := pure_ok_iff.mp mapped
    rcases List.mem_cons.mp member with rfl | later
    · exact ⟨b, List.mem_cons_self, first⟩
    · obtain ⟨c, inside, read⟩ := ih rest later
      exact ⟨c, List.mem_cons_of_mem _ inside, read⟩

/-- A name without text is raised: its message names no status. -/
theorem featureOf_error {item : Json} {err : JsError} (threw : featureOf item = .error err) :
    namesAbsence err.message = false := by
  unfold featureOf textOrEmpty at threw
  split at threw
  · cases threw
  · cases threw
  · rename_i value _ _
    by_cases given : value.hasText = true
    · rw [template_of_hasText given] at threw
      cases threw
    · rw [template_of_missing given] at threw
      cases threw
      decide

theorem featureOf_enabled {item : Json} (named : (asRecord item).lookup "name" = some (.string name))
    (enabled : (asRecord item).lookup "enabled" = some (.bool true)) : featureOf item = .ok ⟨name, true⟩ := by
  unfold featureOf textOrEmpty
  rw [named, enabled]
  simp [strictEq, pure, Except.pure]

theorem isProtocolFeatureEnabled_false : isProtocolFeatureEnabled fetch baseUrl name = .ok false ↔
    (∃ features, getProtocolFeatures fetch baseUrl = .ok features ∧
      features.any (fun f => f.name == name && f.enabled) = false) ∨
    ∃ err, getProtocolFeatures fetch baseUrl = .error err ∧ namesAbsence err.message = true := by
  unfold isProtocolFeatureEnabled
  cases getProtocolFeatures fetch baseUrl with
  | ok features => simp
  | error err => simp

/-- The chain's list without the feature, where it answered with a list. -/
theorem listed_disabled {body : RawRecord} {features : List ProtocolFeature} {items : List Json}
    (read : RestClient.get fetch baseUrl featuresPath = .ok body)
    (listed : body.lookup "features" = some (.array items))
    (mapped : (featureList body).mapM featureOf = .ok features)
    (none : features.any (fun f => f.name == name && f.enabled) = false) : SaysDisabled fetch baseUrl name := by
  refine Or.inr ⟨items, ⟨body, read, listed⟩, ?_⟩
  rintro ⟨item, member, named, enabled⟩
  have list : featureList body = items := by
    unfold featureList
    rw [listed]
  rw [list] at mapped
  obtain ⟨feature, inside, reads⟩ := mapM_mem mapped member
  rw [featureOf_enabled named enabled] at reads
  cases reads
  have found := List.any_eq_false.mp none _ inside
  simp at found

theorem getProtocolFeatures_error {err : JsError} : getProtocolFeatures fetch baseUrl = .error err →
    RestClient.get fetch baseUrl featuresPath = .error err ∨ namesAbsence err.message = false := by
  intro threw
  unfold getProtocolFeatures at threw
  cases read : RestClient.get fetch baseUrl featuresPath with
  | error e =>
    rw [read] at threw
    cases threw
    exact Or.inl rfl
  | ok body =>
    rw [read, ok_bind] at threw
    obtain ⟨item, -, failed⟩ := mapM_error threw
    exact Or.inr (featureOf_error failed)

/-- A failed read that names one of the two numbers came of an absent route, or is misread. -/
theorem absent_of_failure (legible : ¬ FeaturesMisread fetch baseUrl) {err : JsError}
    (failed : RestClient.get fetch baseUrl featuresPath = .error err) (names : namesAbsence err.message = true) :
    RouteAbsent fetch baseUrl := by
  unfold FeaturesMisread at legible
  rcases get_error_iff.mp failed with rejected | ⟨res, answer, failure⟩
  · rw [rejected] at legible
    exact absurd names legible
  · rw [answer] at legible
    by_contra present
    have not404 : res.status ≠ 404 := fun e => present ⟨res, answer, Or.inl e⟩
    have not501 : res.status ≠ 501 := fun e => present ⟨res, answer, Or.inr e⟩
    apply legible
    refine ⟨not404, not501, ?_⟩
    by_cases ok : res.ok = true
    · rw [if_pos ok] at failure ⊢
      rw [failure]
      exact names
    · rw [if_neg ok] at failure ⊢
      rw [failure] at names
      rcases (namesAbsence_refused res).mp names with e | e | texted
      · exact absurd e not404
      · exact absurd e not501
      · exact texted

/-- An answer that was read has a list, or is misread. -/
theorem listed_of_read (legible : ¬ FeaturesMisread fetch baseUrl) {body : RawRecord}
    (read : RestClient.get fetch baseUrl featuresPath = .ok body) (present : ¬ RouteAbsent fetch baseUrl) :
    ∃ items, body.lookup "features" = some (.array items) := by
  obtain ⟨res, value, answer, ok, parsed, rfl⟩ := get_ok_iff.mp read
  unfold FeaturesMisread at legible
  rw [answer] at legible
  by_contra unlisted
  apply legible
  refine ⟨fun e => present ⟨res, answer, Or.inl e⟩, fun e => present ⟨res, answer, Or.inr e⟩, ?_⟩
  rw [if_pos ok, parsed]
  intro items same
  exact unlisted ⟨items, same⟩

theorem says_disabled (legible : ¬ FeaturesMisread fetch baseUrl)
    (off : isProtocolFeatureEnabled fetch baseUrl name = .ok false) : SaysDisabled fetch baseUrl name := by
  rcases isProtocolFeatureEnabled_false.mp off with ⟨features, read, none⟩ | ⟨err, threw, names⟩
  · obtain ⟨body, got, mapped⟩ := bind_ok read
    by_cases absent : RouteAbsent fetch baseUrl
    · exact Or.inl absent
    · obtain ⟨items, listed⟩ := listed_of_read legible got absent
      exact listed_disabled got listed mapped none
  · rcases getProtocolFeatures_error threw with failed | silent
    · exact Or.inl (absent_of_failure legible failed names)
    · rw [silent] at names
      cases names

/-- A failure that names no status is raised, as is. -/
theorem raised_of_legible (legible : ¬ FeaturesMisread fetch baseUrl) (present : ¬ RouteAbsent fetch baseUrl)
    {err : JsError} (threw : getProtocolFeatures fetch baseUrl = .error err) :
    isProtocolFeatureEnabled fetch baseUrl name = .error err := by
  cases names : namesAbsence err.message with
  | false =>
    unfold isProtocolFeatureEnabled
    rw [threw]
    simp [names]
  | true =>
    rcases getProtocolFeatures_error threw with failed | silent
    · exact absurd (absent_of_failure legible failed names) present
    · rw [silent] at names
      cases names

/-- Where the read failed, a message that names a number turns the feature off, and the chain has said nothing. -/
theorem off_of_failure {err : JsError} (failed : RestClient.get fetch baseUrl featuresPath = .error err)
    (names : namesAbsence err.message = true) (present : ¬ RouteAbsent fetch baseUrl) :
    isProtocolFeatureEnabled fetch baseUrl name = .ok false ∧ ¬ SaysDisabled fetch baseUrl name := by
  constructor
  · refine isProtocolFeatureEnabled_false.mpr (Or.inr ⟨err, ?_, names⟩)
    unfold getProtocolFeatures
    rw [failed]
    rfl
  · rintro (absent | ⟨items, ⟨body, read, -⟩, -⟩)
    · exact present absent
    · rw [failed] at read
      cases read

/-- An answer without a list turns every feature off. -/
theorem off_of_unlisted {body : RawRecord} (read : RestClient.get fetch baseUrl featuresPath = .ok body)
    (unlisted : ∀ items, body.lookup "features" ≠ some (.array items)) (present : ¬ RouteAbsent fetch baseUrl) :
    isProtocolFeatureEnabled fetch baseUrl name = .ok false ∧ ¬ SaysDisabled fetch baseUrl name := by
  have list : featureList body = [] := by
    unfold featureList
    split
    · rename_i items same
      exact absurd same (unlisted items)
    · rfl
  constructor
  · refine isProtocolFeatureEnabled_false.mpr (Or.inl ⟨[], ?_, rfl⟩)
    unfold getProtocolFeatures
    rw [read, ok_bind, list]
    rfl
  · rintro (absent | ⟨items, ⟨other, again, listed⟩, -⟩)
    · exact present absent
    · rw [read] at again
      cases again
      exact unlisted items listed

/-- A misread failure or answer goes for a disabled feature. -/
theorem off_of_misread (misread : FeaturesMisread fetch baseUrl) :
    isProtocolFeatureEnabled fetch baseUrl name = .ok false ∧ ¬ SaysDisabled fetch baseUrl name := by
  unfold FeaturesMisread at misread
  cases answer : fetch (base baseUrl ++ featuresPath) with
  | error err =>
    rw [answer] at misread
    refine off_of_failure (get_error_iff.mpr (Or.inl answer)) misread ?_
    rintro ⟨res, given, -⟩
    rw [answer] at given
    cases given
  | ok res =>
    rw [answer] at misread
    obtain ⟨not404, not501, misread⟩ := misread
    have present : ¬ RouteAbsent fetch baseUrl := by
      rintro ⟨other, given, absent⟩
      rw [answer] at given
      cases given
      exact absent.elim not404 not501
    by_cases ok : res.ok = true
    · rw [if_pos ok] at misread
      cases parsed : res.json with
      | error err =>
        rw [parsed] at misread
        have failed : RestClient.get fetch baseUrl featuresPath = .error err :=
          get_error_iff.mpr (Or.inr ⟨res, answer, (if_pos ok).mpr parsed⟩)
        exact off_of_failure failed misread present
      | ok value =>
        rw [parsed] at misread
        exact off_of_unlisted (get_ok_iff.mpr ⟨res, value, answer, ok, parsed, rfl⟩) misread present
    · rw [if_neg ok] at misread
      have failed : RestClient.get fetch baseUrl featuresPath =
          .error ⟨s!"REST GET {featuresPath} failed: {res.status} {res.statusText}"⟩ :=
        get_error_iff.mpr (Or.inr ⟨res, answer, (if_neg ok).mpr rfl⟩)
      exact off_of_failure failed ((namesAbsence_refused res).mpr (Or.inr (Or.inr misread))) present

/-- A feature goes for disabled only where the chain says so, unless a failure names one of the two numbers or an
answer carries no list. -/
theorem failuresRaised_iff (fetch : FetchLike) (baseUrl name : String) :
    FailuresRaised fetch baseUrl name ↔ ¬ FeaturesMisread fetch baseUrl := by
  constructor
  · intro raised misread
    obtain ⟨off, silent⟩ := off_of_misread misread
    exact silent (raised.onlyDisabled off)
  · intro legible
    refine ⟨says_disabled legible, ?_, ?_⟩
    · intro err threw present
      exact raised_of_legible legible present threw
    · intro v1
      obtain ⟨on, asked, version⟩ := bind_ok v1
      cases on with
      | true => cases version
      | false => exact says_disabled legible asked

end

def unresolved : FetchLike := fun _ => fail "getaddrinfo ENOTFOUND node-501.example"

/-- The name of the host holds the number, and does not resolve. -/
theorem host_name_disables : ¬∀ (fetch : FetchLike) (baseUrl name : String), FailuresRaised fetch baseUrl name := by
  intro every
  have misread : FeaturesMisread unresolved "https://node-501.example" := by
    show namesAbsence "getaddrinfo ENOTFOUND node-501.example" = true
    decide
  have raised := every unresolved "https://node-501.example" FEATURE_RDK_WITHDRAWALS_BINDING
  obtain ⟨off, silent⟩ := off_of_misread misread
  exact silent (raised.onlyDisabled off)

end QorechainRdk
