import Mathlib.Data.List.Induction
import QorechainRdk.Lib.Coding
import QorechainRdk.Watchtower.Model

/-!
# Reading a trace of the watchtower

What was called, what was read last and whether the watch was stopped, and from these which event
may come next: the discipline of the callbacks.
-/

namespace QorechainRdk.Watchtower

open Async

/-! ### Keys -/

theorem toList_toString (i : Int) : (toString i).toList =
    if i < 0 then '-' :: Nat.toDigits 10 i.natAbs else Nat.toDigits 10 i.natAbs := by
  change (Int.repr i).toList = _
  cases i with
  | ofNat n => simp [Int.repr, Nat.repr]
  | negSucc n => simp [Int.repr, Nat.repr, Int.negSucc_lt_zero]

theorem digit_of_mem {n : Nat} {c : Char} (h : c ∈ Nat.toDigits 10 n) : c.isDigit = true :=
  Nat.isDigit_of_mem_toDigits (by decide) (by decide) h

theorem colon_notMem (i : Int) : ':' ∉ (toString i).toList := by
  have digits : ':' ∉ Nat.toDigits 10 i.natAbs := fun h => absurd (digit_of_mem h) (by decide)
  rw [toList_toString]
  split
  · simp [digits]
  · exact digits

theorem toDigits_inj {m n : Nat} (h : Nat.toDigits 10 m = Nat.toDigits 10 n) : m = n := by
  have read := congrArg (fun ds => Nat.ofDigitChars 10 ds 0) h
  simpa [Nat.ofDigitChars_toDigits] using read

theorem toString_inj {i j : Int} (h : toString i = toString j) : i = j := by
  have lists := congrArg String.toList h
  rw [toList_toString, toList_toString] at lists
  have minus : ∀ n, '-' ∉ Nat.toDigits 10 n := fun n k => absurd (digit_of_mem k) (by decide)
  split at lists <;> split at lists
  · have same := toDigits_inj (List.cons.inj lists).2
    omega
  · exact absurd (lists ▸ List.mem_cons_self) (minus _)
  · exact absurd (lists ▸ List.mem_cons_self) (minus _)
  · have same := toDigits_inj lists
    omega

theorem keyOf_inj {a b : BatchView} (h : keyOf a = keyOf b) :
    a.batchIndex = b.batchIndex ∧ a.stateRoot = b.stateRoot := by
  have chars := congrArg String.toList h
  change (toString a.batchIndex ++ ":" ++ a.stateRoot).toList =
    (toString b.batchIndex ++ ":" ++ b.stateRoot).toList at chars
  simp only [String.toList_append, List.append_assoc] at chars
  obtain ⟨index, root⟩ := Coding.terminated_selfDelimiting ':' (colon_notMem _) (colon_notMem _)
    (by simpa [Coding.terminated] using chars)
  exact ⟨toString_inj (String.toList_inj.mp index), String.toList_inj.mp root⟩

/-! ### What was asked -/

variable {γ : Type} {tr : Trace} {q : Query} {xs : List Interrupt} {r : Except JsError (Reply q)}

def asks (p : Query → Option γ) (tr : Trace) : List γ :=
  tr.filterMap fun
    | .asked q => p q
    | _ => none

def onBatchOf : Query → Option BatchView
  | .onBatch b => some b
  | _ => none

def onInvalidOf : Query → Option BatchDeadline
  | .onInvalid info => some info
  | _ => none

def onDeadlineOf : Query → Option BatchDeadline
  | .onDeadline info => some info
  | _ => none

def validateOf : Query → Option BatchView
  | .validate b => some b
  | _ => none

abbrev onBatchCalls (tr : Trace) : List BatchView := asks onBatchOf tr

abbrev onInvalidCalls (tr : Trace) : List BatchDeadline := asks onInvalidOf tr

abbrev onDeadlineCalls (tr : Trace) : List BatchDeadline := asks onDeadlineOf tr

abbrev validateCalls (tr : Trace) : List BatchView := asks validateOf tr

def StoppedIn (tr : Trace) : Prop := ∃ x, Async.Event.acted x ∈ tr

/-! ### What was answered -/

def isRead : Query → Bool
  | .getRollup _ | .getParams | .listBatches _ _ | .readTip => true
  | _ => false

def Threw (tr : Trace) : Prop := ∃ q e, isRead q = false ∧ Async.Event.answered q (.error e) ∈ tr

def thrownIn : Event → Bool
  | .answered q (.error _) => !isRead q
  | _ => false

theorem threw_iff (tr : Trace) : Threw tr ↔ tr.any thrownIn = true := by
  rw [List.any_eq_true]
  constructor
  · rintro ⟨q, e, notRead, member⟩
    exact ⟨_, member, by simp [thrownIn, notRead]⟩
  · rintro ⟨e, member, thrown⟩
    cases e with
    | answered q r =>
      cases r with
      | ok a => simp [thrownIn] at thrown
      | error e => exact ⟨q, e, by simpa [thrownIn] using thrown, member⟩
    | _ => simp [thrownIn] at thrown

instance (tr : Trace) : Decidable (Threw tr) := decidable_of_iff _ (threw_iff tr).symm

def listedIn : Event → List BatchView
  | .answered (.listBatches _ _) (.ok batches) => batches
  | _ => []

def listed (tr : Trace) : List BatchView := tr.flatMap listedIn

/-- The batch as it was the first time that its key was listed. -/
def FirstListed (tr : Trace) (b : BatchView) : Prop :=
  (listed tr).find? (fun a => keyOf a == keyOf b) = some b

instance (tr : Trace) (b : BatchView) : Decidable (FirstListed tr b) :=
  inferInstanceAs (Decidable ((listed tr).find? (fun a => keyOf a == keyOf b) = some b))

/-! ### What the poll in progress has read -/

def listingStep (L : List BatchView) : Event → List BatchView
  | .started => []
  | .answered (.listBatches _ _) (.ok batches) => batches
  | _ => L

def pollListing (tr : Trace) : List BatchView := tr.foldl listingStep []

def tipStep (tip : Option ChainTip) : Event → Option ChainTip
  | .started => none
  | .answered .readTip (.ok tip) => some tip
  | .answered .readTip (.error _) => none
  | _ => tip

def pollTip (tr : Trace) : Option ChainTip := tr.foldl tipStep none

def windowStep (secs : Option Int) : Event → Option Int
  | .answered (.getRollup _) (.ok rollup) => rollup.challengeWindowSec.or secs
  | .answered .getParams (.ok params) => some params.defaultChallengeWindow
  | _ => secs

def windowRead (options : WatchtowerOptions) (tr : Trace) : Option Int :=
  tr.foldl windowStep options.challengeWindowSecs

/-! ### What one query adds -/

theorem asks_append (p : Query → Option γ) (tr tr' : Trace) :
    asks p (tr ++ tr') = asks p tr ++ asks p tr' := List.filterMap_append

@[simp] theorem asks_waiting (p : Query → Option γ) :
    asks p (waiting tr q xs) = asks p tr ++ (p q).toList := by
  have here : asks p (Async.Event.asked q :: xs.map Async.Event.acted) = (p q).toList := by
    cases h : p q <;> simp [asks, h, List.filterMap_map]
  rw [waiting, asks_append, here]

@[simp] theorem asks_answered (p : Query → Option γ) : asks p (tr ++ [.answered q r]) = asks p tr := by
  simp [asks]

@[simp] theorem asks_started (p : Query → Option γ) : asks p (tr ++ [.started]) = asks p tr := by
  simp [asks]

@[simp] theorem asks_acted_one (p : Query → Option γ) (x : Interrupt) :
    asks p (tr ++ [.acted x]) = asks p tr := by
  simp [asks]

theorem stoppedIn_nil : ¬ StoppedIn [] := by
  rintro ⟨x, h⟩
  simp at h

@[simp] theorem stoppedIn_waiting : StoppedIn (waiting tr q xs) ↔ StoppedIn tr ∨ xs ≠ [] := by
  simp only [StoppedIn, waiting, List.mem_append, List.mem_cons, List.mem_map, reduceCtorEq, false_or,
    exists_or]
  refine or_congr_right ?_
  cases xs <;> simp

@[simp] theorem stoppedIn_answered : StoppedIn (tr ++ [.answered q r]) ↔ StoppedIn tr := by
  simp [StoppedIn]

@[simp] theorem stoppedIn_started : StoppedIn (tr ++ [.started]) ↔ StoppedIn tr := by
  simp [StoppedIn]

@[simp] theorem stoppedIn_acted (x : Interrupt) : StoppedIn (tr ++ [.acted x]) := ⟨x, by simp⟩

theorem listed_acted (xs : List Interrupt) : listed (xs.map Async.Event.acted) = [] := by
  induction xs with
  | nil => rfl
  | cons x xs ih => exact ih

@[simp] theorem listed_answered :
    listed (waiting tr q xs ++ [.answered q r]) = listed tr ++ listedIn (.answered q r) := by
  have quiet : listed (Async.Event.asked q :: xs.map Async.Event.acted) = [] := listed_acted xs
  simp only [listed, waiting, List.flatMap_append] at quiet ⊢
  rw [quiet]
  simp

@[simp] theorem listed_started : listed (tr ++ [.started]) = listed tr := by simp [listed, listedIn]

theorem Threw.mono {tr tr' : Trace} (h : Threw tr) (longer : tr <+: tr') : Threw tr' := by
  obtain ⟨q, e, notRead, threw⟩ := h
  exact ⟨q, e, notRead, longer.subset threw⟩

theorem threw_answered {e : JsError} (notRead : isRead q = false) :
    Threw (waiting tr q xs ++ [.answered q (.error e)]) := ⟨q, e, notRead, by simp⟩

theorem FirstListed.mono {tr tr' : Trace} {b : BatchView} (h : FirstListed tr b) (longer : tr <+: tr') :
    FirstListed tr' b := by
  obtain ⟨more, rfl⟩ := longer
  unfold FirstListed listed at h ⊢
  rw [List.flatMap_append, List.find?_append, h]
  rfl

theorem FirstListed.unique {a b : BatchView} (ha : FirstListed tr a) (hb : FirstListed tr b)
    (key : keyOf a = keyOf b) : a = b := by
  unfold FirstListed at ha hb
  rw [key] at ha
  exact Option.some.inj (ha.symm.trans hb)

theorem firstListed_of_fresh {old rest : List BatchView} {b : BatchView}
    (split : listed tr = old ++ b :: rest) (fresh : ∀ a ∈ old, keyOf a ≠ keyOf b) : FirstListed tr b := by
  have none : old.find? (fun a => keyOf a == keyOf b) = none := by
    rw [List.find?_eq_none]
    intro a member
    simpa using fresh a member
  unfold FirstListed
  rw [split, List.find?_append, none]
  simp

theorem foldl_waiting {β : Type} (f : β → Event → β) (b : β) (asked : ∀ b q, f b (.asked q) = b)
    (acted : ∀ b x, f b (.acted x) = b) : (waiting tr q xs).foldl f b = tr.foldl f b := by
  have quiet : ∀ b, (xs.map Async.Event.acted).foldl f b = b := by
    intro b
    induction xs with
    | nil => rfl
    | cons x xs ih => rw [List.map_cons, List.foldl_cons, acted, ih]
  rw [waiting, List.foldl_append, List.foldl_cons, asked, quiet]

@[simp] theorem pollListing_answered :
    pollListing (waiting tr q xs ++ [.answered q r]) = listingStep (pollListing tr) (.answered q r) := by
  rw [pollListing, List.foldl_append, foldl_waiting _ _ (fun _ _ => rfl) fun _ _ => rfl]
  rfl

@[simp] theorem pollTip_answered :
    pollTip (waiting tr q xs ++ [.answered q r]) = tipStep (pollTip tr) (.answered q r) := by
  rw [pollTip, List.foldl_append, foldl_waiting _ _ (fun _ _ => rfl) fun _ _ => rfl]
  rfl

@[simp] theorem windowRead_answered (options : WatchtowerOptions) :
    windowRead options (waiting tr q xs ++ [.answered q r]) =
      windowStep (windowRead options tr) (.answered q r) := by
  rw [windowRead, List.foldl_append, foldl_waiting _ _ (fun _ _ => rfl) fun _ _ => rfl]
  rfl

/-! ### The discipline -/

/-- The batch of an alert is live, and by the tip of this poll its window is open and closes within
the warning distance. -/
def Closing (options : WatchtowerOptions) (tr : Trace) (info : BatchDeadline) : Prop :=
  live info.batch = true ∧ ∃ secs tip, windowRead options tr = some secs ∧ pollTip tr = some tip ∧
    info = deadlineFor (some secs) info.batch (some tip) ∧
    (batchChallengeWindow info.batch secs tip).isOpen = true ∧ nearDeadline options info = true

/-- What may come after a trace: nothing after a stop, each callback once for a key, and the
predicate and the alerts on live batches of this poll's listing only. Unless something threw, a batch
is handed over as it was first listed. -/
def Permitted (options : WatchtowerOptions) (pre : Trace) : Event → Prop
  | .started => ¬ StoppedIn pre
  | .asked (.onBatch b) =>
    ¬ StoppedIn pre ∧ b ∈ pollListing pre ∧ keyOf b ∉ (onBatchCalls pre).map keyOf ∧
      (Threw pre ∨ FirstListed pre b)
  | .asked (.validate b) => live b = true ∧ b ∈ pollListing pre
  | .asked (.onInvalid info) =>
    ¬ StoppedIn pre ∧ live info.batch = true ∧ info.batch ∈ pollListing pre ∧
      keyOf info.batch ∉ (onInvalidCalls pre).map fun i => keyOf i.batch
  | .asked (.onDeadline info) =>
    ¬ StoppedIn pre ∧ info.batch ∈ pollListing pre ∧ Closing options pre info ∧
      keyOf info.batch ∉ (onDeadlineCalls pre).map fun i => keyOf i.batch
  | .asked (.onError _) => ¬ StoppedIn pre
  | _ => True

theorem obeys_waiting {options : WatchtowerOptions} (obeys : Obeys (Permitted options) tr)
    (permitted : Permitted options tr (.asked q)) : Obeys (Permitted options) (waiting tr q xs) := by
  induction xs using List.reverseRecOn with
  | nil => exact obeys_concat.mpr ⟨obeys, permitted⟩
  | append_singleton xs x ih =>
    have split : waiting tr q (xs ++ [x]) = waiting tr q xs ++ [.acted x] := by simp [waiting]
    rw [split]
    exact obeys_concat.mpr ⟨ih, trivial⟩

/-- Calls that are permitted only for fresh keys are made once for each key. -/
theorem nodup_of_obeys {options : WatchtowerOptions} (p : Query → Option γ) (key : γ → String)
    (fresh : ∀ pre q c, Permitted options pre (.asked q) → p q = some c → key c ∉ (asks p pre).map key)
    (obeys : Obeys (Permitted options) tr) : ((asks p tr).map key).Nodup := by
  induction tr using List.reverseRecOn with
  | nil => simp [asks]
  | append_singleton tr e ih =>
    obtain ⟨before, last⟩ := obeys_concat.mp obeys
    rw [asks_append, List.map_append]
    cases e with
    | asked q =>
      cases called : p q with
      | none => simpa [asks, called] using ih before
      | some c =>
        have new := fresh tr q c last called
        have one : asks p [Async.Event.asked q] = [c] := by simp [asks, called]
        rw [one, List.map_singleton, List.nodup_append]
        refine ⟨ih before, by simp, ?_⟩
        rintro k member _ only rfl
        rw [List.mem_singleton.mp only] at member
        exact new member
    | _ => simpa [asks] using ih before

end QorechainRdk.Watchtower
