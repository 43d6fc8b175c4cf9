import QorechainRdk.Client.Rest
import QorechainRdk.Lib.Paging

/-!
# Paged lists of batches

`listBatchesPage` and `listBatches` of `client/rest.ts`. A page that follows its predecessor is asked for by
the index that the predecessor names, and the list ends at the index zero or at an empty page.
-/

namespace QorechainRdk

open Js

structure BatchesPage where
  batches : List BatchView
  nextIndex : Number
  deriving DecidableEq, Repr

structure BatchesPageOptions where
  startIndex : Option Number := none
  limit : Option Nat := none
  deriving DecidableEq, Repr

/-- `value ?? other`. -/
def nullish (value : Option Json) (other : Option Json) : Option Json :=
  match value with
  | none => other
  | some .null => other
  | some value => some value

/-- `Number(value)`, where what is not finite goes by the name `NaN`. -/
def numberOf (value : Json) : Number := value.toNumber.getD (.other "NaN")

def isFormUnreserved (c : Char) : Bool := c.isAlphanum || "*-._".toList.contains c

/-- A value of `URLSearchParams`, as its `toString` writes it. -/
def formEncode (s : String) : String :=
  String.ofList (s.toList.flatMap fun c =>
    if isFormUnreserved c then [c]
    else if c = ' ' then ['+']
    else (String.utf8EncodeChar c).flatMap fun b => '%' :: (bytesToHex [b]).toList.map Char.toUpper)

def searchParams (params : List (String × Option String)) : String :=
  "&".intercalate (params.filterMap fun p => p.2.map fun value => p.1 ++ "=" ++ formEncode value)

section
variable (fetch : FetchLike) (baseUrl rollupId : String)

def batchesPath (opts : BatchesPageOptions) : String :=
  let qs := searchParams
    [("start_index", opts.startIndex.map stringifyNumber), ("limit", opts.limit.map toString)]
  "/qorechain/rdk/v1/batches/" ++ encodeURIComponent rollupId ++ (if qs = "" then "" else "?" ++ qs)

def listBatchesPage (opts : BatchesPageOptions) : Except JsError BatchesPage := do
  let body ← RestClient.get fetch baseUrl (batchesPath rollupId opts)
  let next := nullish (nullish (body.lookup "next_index") (body.lookup "nextIndex"))
    (some (.number (.integer 0)))
  return {
    batches := ← (asArray (body.lookup "batches")).mapM (mapItem "rollup_id" mapBatchView)
    nextIndex := (next.map numberOf).getD (.integer 0) }

/-- The loop of `listBatches`, for the pages that it may still ask for. -/
def listBatchesLoop : Nat → Option Number → List BatchView → Except JsError (List BatchView)
  | 0, _, out => .ok out
  | pages + 1, start, out => do
    let page ← listBatchesPage fetch baseUrl rollupId { startIndex := start, limit := some 100 }
    let out := out ++ page.batches
    if page.nextIndex = .integer 0 ∨ page.batches.length = 0 then return out
    else listBatchesLoop pages (some page.nextIndex) out

def MAX_PAGES : Nat := 100000

def listBatches (startIndex : Option Number) : Except JsError (List BatchView) :=
  listBatchesLoop fetch baseUrl rollupId MAX_PAGES startIndex []

end

/-! ### A node that pages -/

/-- An index as the node writes it, as text or as a number. -/
def SpellsIndex (value : Option Json) (n : Nat) : Prop :=
  value = some (.string (toString n)) ∨ value = some (.number (.integer n))

/-- A batch that the node holds: its index, the record that it serves, and the view of that record. -/
structure HeldBatch where
  index : Nat
  record : RawRecord
  view : BatchView
  small : index < 2 ^ 53
  indexed : SpellsIndex (record.lookup "batch_index") index
  mapped : mapBatchView record = .ok view

def HeldBatch.key (b : HeldBatch) : Int := b.index

/-- The index of the first batch that was not returned, or zero. -/
def indexAfter (left : List HeldBatch) : Nat := (left.head?.map HeldBatch.index).getD 0

/-- The request of a page, by the text of its start index. -/
def pageUrl (baseUrl rollupId start : String) : String :=
  base baseUrl ++ ("/qorechain/rdk/v1/batches/" ++ encodeURIComponent rollupId ++
    ("?start_index=" ++ start ++ "&limit=100"))

/-- How the client writes a start index. -/
def startText (s : Int) : String := formEncode (numberText s)

/-- The page request at `s` is answered with the first `size s` of the batches from `s` on. -/
def AnswersPage (fetch : FetchLike) (baseUrl rollupId : String) (chain : List HeldBatch)
    (size : Int → Nat) (s : Int) : Prop :=
  ∃ res body, fetch (pageUrl baseUrl rollupId (startText s)) = .ok res ∧ res.ok = true ∧
    res.json = .ok (.object body) ∧
    body.lookup "batches" = some (.array (((Paging.ahead HeldBatch.key chain s).take (size s)).map
      fun b => .object b.record)) ∧
    SpellsIndex (body.lookup "next_index") (indexAfter ((Paging.ahead HeldBatch.key chain s).drop (size s)))

/-- The page request at `start` is answered with records of these views, and with this next index. -/
def ServesPage (fetch : FetchLike) (baseUrl rollupId start : String) (views : List BatchView) (next : Nat) :
    Prop :=
  ∃ (res : HttpResponse) (body : RawRecord) (records : List RawRecord),
    fetch (pageUrl baseUrl rollupId start) = .ok res ∧ res.ok = true ∧ res.json = .ok (.object body) ∧
    body.lookup "batches" = some (.array (records.map Json.object)) ∧ records.mapM mapBatchView = .ok views ∧
      SpellsIndex (body.lookup "next_index") next

section
variable {fetch : FetchLike} {baseUrl rollupId : String} {chain : List HeldBatch} {size : Int → Nat}

theorem formEncode_unreserved {s : String} (h : ∀ c ∈ s.toList, isFormUnreserved c = true) :
    formEncode s = s := by
  unfold formEncode
  have each : ∀ cs : List Char, (∀ c ∈ cs, isFormUnreserved c = true) →
      (cs.flatMap fun c => if isFormUnreserved c then [c] else if c = ' ' then ['+']
        else (String.utf8EncodeChar c).flatMap fun b =>
          '%' :: (bytesToHex [b]).toList.map Char.toUpper) = cs := by
    intro cs
    induction cs with
    | nil =>
      intro _
      rfl
    | cons c cs ih =>
      intro h
      have tail := ih fun d member => h d (List.mem_cons_of_mem _ member)
      rw [List.flatMap_cons, if_pos (h c List.mem_cons_self), tail]
      rfl
  rw [each s.toList h, String.ofList_toList]

theorem toString_nat_unreserved (n : Nat) : ∀ c ∈ (toString n).toList, isFormUnreserved c = true := by
  rw [Nat.toString_eq_ofList_toDigits, String.toList_ofList]
  intro c member
  have digit : c.isDigit = true := Nat.isDigit_of_mem_toDigits (by decide) (by decide) member
  unfold isFormUnreserved Char.isAlphanum
  rw [digit, Bool.or_true, Bool.true_or]

theorem searchParams_page (start : String) :
    searchParams [("start_index", some start), ("limit", some (toString 100))] =
      "start_index=" ++ formEncode start ++ "&limit=100" := by
  have limit : formEncode (toString 100) = "100" := formEncode_unreserved (toString_nat_unreserved 100)
  simp only [searchParams, List.filterMap_cons, List.filterMap_nil, Option.map_some, limit]
  simp [String.append_assoc]

theorem startText_exact {s : Int} (nonneg : 0 ≤ s) (exact : s ≤ 2 ^ 53) : startText s = toString s := by
  obtain ⟨n, rfl⟩ := Int.eq_ofNat_of_zero_le nonneg
  unfold startText
  rw [numberText_exact (by omega)]
  exact formEncode_unreserved (toString_nat_unreserved n)

theorem batchesPath_integer (s : Int) : base baseUrl ++ batchesPath rollupId ⟨some (.integer s), some 100⟩ =
    pageUrl baseUrl rollupId (startText s) := by
  have query := searchParams_page (numberText s)
  have present : "start_index=" ++ formEncode (numberText s) ++ "&limit=100" ≠ "" := by
    intro empty
    have length := congrArg String.length empty
    simp [String.length_append] at length
  have mark : "?" ++ "start_index=" = "?start_index=" := by decide
  unfold batchesPath stringifyNumber
  simp only [Option.map_some]
  rw [query, if_neg present, pageUrl, startText, ← @String.append_assoc "?", ← @String.append_assoc "?", mark]

/-! ### One page -/

theorem num_of_spelled_exact {value : Option Json} {n : Nat} (wide : n < 2 ^ 64)
    (exact_double : Rounding.nearest 53 n = n) (spelled : SpellsIndex value n) :
    num value = .ok (n : Int) ∧ value.map numberOf = some (.integer n) := by
  rcases spelled with rfl | rfl
  · constructor
    · rw [num_toString wide, exact_double]
    · rw [Option.map_some, numberOf, Json.toNumber, stringToNumber_toString wide, exact_double]
      rfl
  · exact ⟨rfl, rfl⟩

theorem num_of_spelled {value : Option Json} {n : Nat} (small : n < 2 ^ 53) (spelled : SpellsIndex value n) :
    num value = .ok (n : Int) ∧ value.map numberOf = some (.integer n) :=
  num_of_spelled_exact (by omega) (Rounding.nearest_eq_iff.mpr (Rounding.representable_of_lt small)) spelled

theorem nullish_of_spelled {value other : Option Json} {n : Nat} (spelled : SpellsIndex value n) :
    nullish value other = value := by
  rcases spelled with rfl | rfl
  · rfl
  · rfl

/-- The index of a view is the number that the record spells. -/
theorem mapped_index {record : RawRecord} {view : BatchView} {n : Nat} {m : Int}
    (indexed : SpellsIndex (record.lookup "batch_index") n) (read : num (record.lookup "batch_index") = .ok m)
    (mapped : mapBatchView record = .ok view) : view.batchIndex = m := by
  have picked : pick record ["batch_index", "batchIndex"] = record.lookup "batch_index" := by
    rcases indexed with text | number
    · simp only [pick, text]
    · simp only [pick, number]
  unfold mapBatchView at mapped
  rw [picked, read, ok_bind] at mapped
  obtain ⟨_, -, mapped⟩ := bind_ok mapped
  obtain ⟨_, -, mapped⟩ := bind_ok mapped
  obtain ⟨_, -, mapped⟩ := bind_ok mapped
  obtain ⟨_, -, mapped⟩ := bind_ok mapped
  rw [← pure_ok_iff.mp mapped]

theorem HeldBatch.view_index (b : HeldBatch) : b.view.batchIndex = b.index :=
  mapped_index b.indexed (num_of_spelled b.small b.indexed).1 b.mapped

theorem mapM_records (page : List HeldBatch) :
    (page.map HeldBatch.record).mapM mapBatchView = .ok (page.map HeldBatch.view) := by
  induction page with
  | nil => rfl
  | cons b page ih =>
    rw [List.map_cons, List.mapM_cons, b.mapped, ok_bind, ih]
    rfl

/-- The page of a node that holds these batches. -/
theorem AnswersPage.serves {s : Int} (server : AnswersPage fetch baseUrl rollupId chain size s) :
    ServesPage fetch baseUrl rollupId (startText s)
      (((Paging.ahead HeldBatch.key chain s).take (size s)).map HeldBatch.view)
      (indexAfter ((Paging.ahead HeldBatch.key chain s).drop (size s))) := by
  obtain ⟨res, body, answer, ok, parsed, batches, next⟩ := server
  refine ⟨res, body, _, answer, ok, parsed, ?_, mapM_records _, next⟩
  rw [batches, List.map_map]
  rfl

theorem listBatchesPage_served {s : Int} {views : List BatchView} {next : Nat}
    (server : ServesPage fetch baseUrl rollupId (startText s) views next) (exact : next ≤ 2 ^ 53) :
    listBatchesPage fetch baseUrl rollupId { startIndex := some (.integer s), limit := some 100 } =
      .ok { batches := views, nextIndex := .integer next } := by
  obtain ⟨res, body, records, answer, ok, parsed, batches, mapped, spelled⟩ := server
  have read : RestClient.get fetch baseUrl (batchesPath rollupId ⟨some (.integer s), some 100⟩) =
      .ok body := by
    apply get_ok_iff.mpr
    exact ⟨res, .object body, by rw [batchesPath_integer]; exact answer, ok, parsed, rfl⟩
  have objects : (asArray (some (.array (records.map Json.object)))).mapM (mapItem "rollup_id" mapBatchView) =
      records.mapM mapBatchView := by
    unfold asArray
    rw [List.mapM_map]
    rfl
  unfold listBatchesPage
  rw [read, ok_bind, batches, objects, mapped, ok_bind, nullish_of_spelled spelled, nullish_of_spelled spelled,
    (num_of_spelled_exact (by omega)
      (Rounding.nearest_eq_iff.mpr (Rounding.representable_of_le (by decide) exact)) spelled).2]
  rfl

/-! ### The whole list -/

section
variable {α : Type} {index : α → Nat} {view : α → BatchView} {items : List α}

/-- The index of the first item that was left out, or zero. -/
def nextOf (index : α → Nat) (left : List α) : Nat := (left.head?.map index).getD 0

/-- The page at `s` of a listing of such items, with a next index up to which doubles are exact. -/
def Pages (fetch : FetchLike) (baseUrl rollupId : String) (index : α → Nat) (view : α → BatchView) (items : List α)
    (size : Int → Nat) (s : Int) : Prop :=
  let left := Paging.ahead (fun a => (index a : Int)) items s
  ServesPage fetch baseUrl rollupId (startText s) ((left.take (size s)).map view)
      (nextOf index (left.drop (size s))) ∧
    nextOf index (left.drop (size s)) ≤ 2 ^ 53

/-- One turn of the loop at `s` reads the page at `s`, and the rest of the list if there is one. -/
theorem listBatchesLoop_complete (ordered : Paging.Ordered (fun a => (index a : Int)) items)
    (sizes : ∀ s, 1 ≤ size s) {pages : Nat} {s : Int} {out : List BatchView}
    (server : ∀ s', s' = s ∨ (∃ a ∈ items, s' = index a ∧ index a ≤ 2 ^ 53) →
      Pages fetch baseUrl rollupId index view items size s')
    (within : Paging.Within (fun a => (index a : Int)) size pages s
      (Paging.ahead (fun a => (index a : Int)) items s)) :
    listBatchesLoop fetch baseUrl rollupId pages (some (.integer s)) out =
      .ok (out ++ (Paging.ahead (fun a => (index a : Int)) items s).map view) := by
  induction pages generalizing s out with
  | zero => cases within
  | succ pages ih =>
    have split := List.take_append_drop (size s) (Paging.ahead (fun a => (index a : Int)) items s)
    obtain ⟨served, exact⟩ := server s (Or.inl rfl)
    unfold listBatchesLoop
    rw [listBatchesPage_served served exact, ok_bind]
    cases left : (Paging.ahead (fun a => (index a : Int)) items s).drop (size s) with
    | nil =>
      rw [left, List.append_nil] at split
      dsimp only
      rw [split]
      exact if_pos (Or.inl rfl)
    | cons next left' =>
      rw [left] at split exact
      obtain ⟨following, member, rest⟩ := Paging.within_next within ordered left
      have answered : ∀ s', s' = (index next : Int) ∨ (∃ a ∈ items, s' = index a ∧ index a ≤ 2 ^ 53) →
          Pages fetch baseUrl rollupId index view items size s' := by
        intro s' asked
        rcases asked with rfl | later
        · exact server _ (Or.inr ⟨next, member, rfl, exact⟩)
        · exact server s' (Or.inr later)
      obtain ⟨first, page, taken, above⟩ := Paging.page_below ordered (sizes s) left
      -- An index stands below the next one, which is therefore not the end marker.
      have more : ¬ (Number.integer (nextOf index (next :: left')) = .integer 0 ∨
          (((Paging.ahead (fun a => (index a : Int)) items s).take (size s)).map view).length = 0) := by
        intro stop
        rcases stop with marker | empty
        · have zero : (index next : Int) = 0 := Number.integer.inj marker
          omega
        · rw [taken] at empty
          cases empty
      have tail := @ih (index next)
        (out ++ ((Paging.ahead (fun a => (index a : Int)) items s).take (size s)).map view) answered rest
      rw [following, List.append_assoc, ← List.map_append, split] at tail
      dsimp only
      rw [if_neg more]
      exact tail

end

theorem indexAfter_small (left : List HeldBatch) : indexAfter left < 2 ^ 53 := by
  unfold indexAfter
  cases left with
  | nil => exact Nat.two_pow_pos 53
  | cons b left => exact b.small

theorem AnswersPage.pages {s : Int} (server : AnswersPage fetch baseUrl rollupId chain size s) :
    Pages fetch baseUrl rollupId HeldBatch.index HeldBatch.view chain size s := by
  have small := indexAfter_small ((Paging.ahead HeldBatch.key chain s).drop (size s))
  exact ⟨server.serves, Nat.le_of_lt small⟩

/-- Whatever pages the node cuts, the list has every batch from the start index on, once and in order. -/
theorem listBatches_complete (ordered : Paging.Ordered HeldBatch.key chain) (sizes : ∀ s, 1 ≤ size s)
    {startIndex : Int}
    (server : ∀ s, s = startIndex ∨ (∃ b ∈ chain, s = b.index) →
      AnswersPage fetch baseUrl rollupId chain size s)
    (within : Paging.Within HeldBatch.key size MAX_PAGES startIndex
      (Paging.ahead HeldBatch.key chain startIndex)) :
    ∃ batches, listBatches fetch baseUrl rollupId (some (.integer startIndex)) = .ok batches ∧
      batches.Pairwise (fun a b => a.batchIndex < b.batchIndex) ∧
      ∀ b, b ∈ batches ↔ ∃ held ∈ chain, startIndex ≤ held.index ∧ held.view = b := by
  have whole : listBatches fetch baseUrl rollupId (some (.integer startIndex)) =
      .ok ([] ++ (Paging.ahead HeldBatch.key chain startIndex).map HeldBatch.view) :=
    listBatchesLoop_complete ordered sizes
      (fun s asked => (server s (asked.imp_right fun ⟨a, member, same, _⟩ => ⟨a, member, same⟩)).pages) within
  refine ⟨_, whole, ?_, ?_⟩
  · rw [List.nil_append, List.pairwise_map]
    apply (Paging.Ordered.ahead ordered).imp
    intro a b less
    rw [a.view_index, b.view_index]
    exact less
  · intro b
    rw [List.nil_append, List.mem_map]
    constructor
    · intro h
      obtain ⟨held, member, same⟩ := h
      obtain ⟨inside, reached⟩ := Paging.mem_ahead.mp member
      exact ⟨held, inside, reached, same⟩
    · intro h
      obtain ⟨held, inside, reached, same⟩ := h
      exact ⟨held, Paging.mem_ahead.mpr ⟨inside, reached⟩, same⟩

end

def numberedView (n : Nat) : BatchView where
  batchIndex := n
  stateRoot := ""
  prevStateRoot := ""
  txCount := 0
  dataHash := ""
  status := ""
  submittedAt := 0
  finalizedAt := 0
  withdrawalsRoot := ""
  submittedTime := 0

def numberedBatch (n : Nat) (small : n < 2 ^ 53) : HeldBatch where
  index := n
  record := [("batch_index", .number (.integer n))]
  view := numberedView n
  small := small
  indexed := Or.inr rfl
  mapped := rfl

def twoBatches : List HeldBatch := [numberedBatch 0 (by decide), numberedBatch 7 (by decide)]

def pageBody (batches : List HeldBatch) (next : Nat) : HttpResponse where
  ok := true
  status := 200
  statusText := "OK"
  json := .ok (.object [("batches", .array (batches.map fun b => .object b.record)),
    ("next_index", .string (toString next))])

/-- One batch a page. -/
def twoPages : FetchLike := fun url =>
  if url = pageUrl "" "r" "7" then .ok (pageBody [numberedBatch 7 (by decide)] 0)
  else .ok (pageBody [numberedBatch 0 (by decide)] 7)

theorem twoPages_answers (s : Int) (asked : s = 0 ∨ ∃ b ∈ twoBatches, s = b.index) :
    AnswersPage twoPages "" "r" twoBatches (fun _ => 1) s := by
  have either : s = 0 ∨ s = 7 := by
    rcases asked with rfl | ⟨b, member, rfl⟩
    · exact Or.inl rfl
    · simp only [twoBatches, List.mem_cons, List.not_mem_nil, or_false] at member
      rcases member with rfl | rfl
      · exact Or.inl rfl
      · exact Or.inr rfl
  rcases either with rfl | rfl
  · have text : startText 0 = "0" := startText_exact (by decide) (by decide)
    have other : pageUrl "" "r" (startText 0) ≠ pageUrl "" "r" "7" := by
      rw [text]
      decide
    exact ⟨_, _, if_neg other, rfl, rfl, rfl, Or.inl rfl⟩
  · have text : startText 7 = "7" := startText_exact (by decide) (by decide)
    have same : pageUrl "" "r" (startText 7) = pageUrl "" "r" "7" := by rw [text]
    exact ⟨_, _, if_pos same, rfl, rfl, rfl, Or.inl rfl⟩

theorem listBatches_complete_sample :
    ∃ batches, listBatches twoPages "" "r" (some (.integer 0)) = .ok batches ∧
      batches.Pairwise (fun a b => a.batchIndex < b.batchIndex) ∧
      ∀ b, b ∈ batches ↔ ∃ held ∈ twoBatches, (0 : Int) ≤ held.index ∧ held.view = b := by
  have ordered : Paging.Ordered HeldBatch.key twoBatches := by
    simp [twoBatches, Paging.Ordered, HeldBatch.key, numberedBatch]
  exact listBatches_complete ordered (fun _ => Nat.le_refl 1) twoPages_answers trivial

end QorechainRdk
