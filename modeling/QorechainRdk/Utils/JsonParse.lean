import QorechainRdk.Lib.JsonRoundTrip
import QorechainRdk.Utils.JsonText

/-!
# `JSON.parse` and `JSON.stringify` on whole texts

A literal goes to the nearest double, and of two members with one name the later one counts. What is written of safe
integers, strings and objects without repeated names is parsed as what was written. The order that engines give
to names that look like array indices is not kept here, and nothing reads it.
-/

namespace QorechainRdk
namespace Js

open JsonText (Value Blank IsNumber)

/-- The number of a literal, which may be too large to be finite. -/
def ofLiteral (literal : List Char) : Number :=
  let (negative, ds) := JsonText.minus literal
  match Doubles.Decimal.read ds with
  | some d => ofDouble (d.toDouble (negative ≠ []))
  | none => .other (String.ofList literal)

/-- A member of an object that is being parsed. -/
def assign (fields : List (String × Json)) (field : String × Json) : List (String × Json) :=
  if fields.any (fun f => f.1 == field.1) then fields.map fun f => if f.1 = field.1 then field else f
  else fields ++ [field]

mutual

def Json.ofValue : Value → Json
  | .null => .null
  | .bool b => .bool b
  | .number literal => .number (ofLiteral literal)
  | .string s => .string s
  | .array vs => .array (itemsOfValues vs)
  | .object fs => .object ((fieldsOfValues fs).foldl assign [])

def itemsOfValues : List Value → List Json
  | [] => []
  | v :: vs => Json.ofValue v :: itemsOfValues vs

def fieldsOfValues : List (String × Value) → List (String × Json)
  | [] => []
  | (key, v) :: fs => (key, Json.ofValue v) :: fieldsOfValues fs

end

mutual

def Json.toValue : Json → Value
  | .null => .null
  | .bool b => .bool b
  | .number n => if isFiniteNumber n then .number (stringifyNumber n).toList else .null
  | .string s => .string s
  | .array items => .array (valuesOfItems items)
  | .object fields => .object (valuesOfFields fields)

def valuesOfItems : List Json → List Value
  | [] => []
  | item :: items => item.toValue :: valuesOfItems items

def valuesOfFields : List (String × Json) → List (String × Value)
  | [] => []
  | (key, value) :: fields => (key, value.toValue) :: valuesOfFields fields

end

/-- `JSON.parse`; the engine words its own syntax error. -/
def parseJson (syntaxError text : String) : Except JsError Json :=
  match JsonText.parse text.toList with
  | some v => .ok (Json.ofValue v)
  | none => fail syntaxError

/-- `JSON.stringify(value, null, 2)`. -/
def Json.stringifyPretty (value : Json) : String := String.ofList (JsonText.print [' ', ' '] [] value.toValue)

mutual

/-- Safe integers, and no name twice in an object. -/
def Json.Plain : Json → Prop
  | .number n => ∃ v : Int, n = .integer v ∧ v.natAbs ≤ MAX_SAFE_INTEGER
  | .array items => itemsPlain items
  | .object fields => (fields.map Prod.fst).Nodup ∧ fieldsPlain fields
  | _ => True

def itemsPlain : List Json → Prop
  | [] => True
  | item :: items => item.Plain ∧ itemsPlain items

def fieldsPlain : List (String × Json) → Prop
  | [] => True
  | (_, value) :: fields => value.Plain ∧ fieldsPlain fields

end

/-- An object literal: a field that is not set is not written. -/
def record (fields : List (String × Option Json)) : Json :=
  .object (fields.filterMap fun field => field.2.map fun value => (field.1, value))

/-! ### Integers -/

theorem head_toDigits {n : Nat} (positive : 0 < n) : (Nat.toDigits 10 n).head? ≠ some '0' := by
  induction n using Nat.strongRecOn with
  | ind n ih =>
    by_cases small : n < 10
    · rw [Nat.toDigits_of_lt_base small]
      have digits : ∀ m : Fin 10, 0 < m.val → [m.val.digitChar].head? ≠ some '0' := by decide
      exact digits ⟨n, small⟩ positive
    · rw [Nat.toDigits_of_base_le (by decide) (by omega), List.head?_append_of_ne_nil _ Nat.toDigits_ne_nil]
      exact ih (n / 10) (by omega) (by omega)

theorem isDigit_toDigits (n : Nat) : ∀ c ∈ Nat.toDigits 10 n, c.isDigit = true :=
  fun _ member => Nat.isDigit_of_mem_toDigits (by decide) (by decide) member

/-- What an integer is written as. -/
theorem toList_int (v : Int) :
    (toString v).toList = if 0 ≤ v then Nat.toDigits 10 v.toNat else '-' :: Nat.toDigits 10 (-v).toNat := by
  rw [Int.toString_eq_repr, Int.repr_eq_if]
  split
  · rw [Nat.toList_repr]
  · rw [String.toList_append, Nat.toList_repr]
    rfl

theorem digits_all {ds : List Char} (decimal : ∀ c ∈ ds, c.isDigit = true) : JsonText.digits ds = (ds, []) := by
  unfold JsonText.digits
  rw [List.takeWhile_eq_self_iff.mpr decimal, List.dropWhile_eq_nil_iff.mpr decimal]

theorem minus_toDigits (n : Nat) : JsonText.minus (Nat.toDigits 10 n) = ([], Nat.toDigits 10 n) := by
  unfold JsonText.minus
  split
  · rename_i ds dash
    exact absurd (isDigit_toDigits n '-' (by rw [dash]; exact List.mem_cons_self)) (by decide)
  · rfl

theorem isNumber_toDigits (n : Nat) : IsNumber (Nat.toDigits 10 n) ∧ IsNumber ('-' :: Nat.toDigits 10 n) := by
  have leading : ¬ (Nat.toDigits 10 n = [] ∨
      ((Nat.toDigits 10 n).head? = some '0' ∧ (Nat.toDigits 10 n).length ≠ 1)) := by
    rintro (empty | ⟨zero, long⟩)
    · exact Nat.toDigits_ne_nil empty
    · rcases Nat.eq_zero_or_pos n with rfl | positive
      · exact long (by decide)
      · exact head_toDigits positive zero
  constructor
  · unfold IsNumber JsonText.number
    rw [minus_toDigits]
    dsimp only
    rw [digits_all (isDigit_toDigits n)]
    dsimp only
    rw [if_neg leading]
    simp [JsonText.fraction, JsonText.exponent]
  · have dash : JsonText.minus ('-' :: Nat.toDigits 10 n) = (['-'], Nat.toDigits 10 n) := rfl
    unfold IsNumber JsonText.number
    rw [dash]
    dsimp only
    rw [digits_all (isDigit_toDigits n)]
    dsimp only
    rw [if_neg leading]
    simp [JsonText.fraction, JsonText.exponent]

/-- The digits of a safe integer, behind its sign. -/
theorem toDouble_digits {v : Int} (negative : Bool) (safe : v.natAbs ≤ MAX_SAFE_INTEGER) :
    (Doubles.Decimal.read (Nat.toDigits 10 v.natAbs)).map (fun d => ofDouble (d.toDouble negative)) =
      some (.integer (Doubles.signed negative v.natAbs)) := by
  have small : v.natAbs < 2 ^ 53 := Nat.lt_of_le_of_lt safe (by decide)
  obtain ⟨same, finite⟩ := Doubles.nearest_small small
  have digits := Doubles.Decimal.read_digits Nat.toDigits_ne_nil (isDigit_toDigits v.natAbs)
  rw [Nat.ofDigitChars_ten_toDigits] at digits
  rw [digits, Option.map_some, Doubles.Decimal.toDouble_whole (Doubles.Decimal.is_digits _) finite, same,
    ofDouble_whole]

theorem ofLiteral_int {v : Int} (safe : v.natAbs ≤ MAX_SAFE_INTEGER) :
    ofLiteral (toString v).toList = .integer v ∧ IsNumber (toString v).toList := by
  rw [toList_int]
  split
  · rename_i nonneg
    have size : v.toNat = v.natAbs := by omega
    refine ⟨?_, (isNumber_toDigits v.toNat).1⟩
    unfold ofLiteral
    rw [minus_toDigits, size]
    obtain ⟨d, read, value⟩ := Option.map_eq_some_iff.mp (toDouble_digits false safe)
    dsimp only
    rw [read]
    refine value.trans (congrArg Number.integer ?_)
    unfold Doubles.signed
    rw [if_neg Bool.false_ne_true]
    omega
  · rename_i negative
    have size : (-v).toNat = v.natAbs := by omega
    refine ⟨?_, (isNumber_toDigits (-v).toNat).2⟩
    have dash : JsonText.minus ('-' :: Nat.toDigits 10 (-v).toNat) = (['-'], Nat.toDigits 10 (-v).toNat) := rfl
    unfold ofLiteral
    rw [dash, size]
    obtain ⟨d, read, value⟩ := Option.map_eq_some_iff.mp (toDouble_digits true safe)
    dsimp only
    rw [read]
    refine value.trans (congrArg Number.integer ?_)
    unfold Doubles.signed
    rw [if_pos rfl]
    omega

/-! ### Objects -/

theorem foldl_assign (done fields : List (String × Json)) (distinct : ((done ++ fields).map Prod.fst).Nodup) :
    fields.foldl assign done = done ++ fields := by
  induction fields generalizing done with
  | nil => rw [List.foldl_nil, List.append_nil]
  | cons field fields ih =>
    have fresh : done.any (fun f => f.1 == field.1) = false := by
      rw [List.any_eq_false]
      intro f member same
      rw [List.map_append, List.nodup_append] at distinct
      exact distinct.2.2 _ (List.mem_map_of_mem member) _ (List.mem_map_of_mem List.mem_cons_self)
        (beq_iff_eq.mp same)
    have first : assign done field = done ++ [field] := by
      unfold assign
      rw [fresh]
      rfl
    have after := ih (done ++ [field]) (by rwa [List.append_assoc])
    rw [List.foldl_cons, first, after, List.append_assoc]
    rfl

mutual

/-- What is written of a plain value stands for the value. -/
theorem ofValue_toValue : ∀ value : Json, value.Plain → Json.ofValue value.toValue = value ∧ value.toValue.Good
  | .null, _ => ⟨by rw [Json.toValue, Json.ofValue], by rw [Json.toValue]; trivial⟩
  | .bool _, _ => ⟨by rw [Json.toValue, Json.ofValue], by rw [Json.toValue]; trivial⟩
  | .string _, _ => ⟨by rw [Json.toValue, Json.ofValue], by rw [Json.toValue]; trivial⟩
  | .number n, plain => by
    obtain ⟨v, rfl, safe⟩ := plain
    obtain ⟨value, good⟩ := ofLiteral_int safe
    rw [Json.toValue, isFiniteNumber, if_pos rfl, Json.ofValue, stringifyNumber, numberText_safe safe]
    exact ⟨congrArg _ value, good⟩
  | .array items, plain => by
    obtain ⟨back, good⟩ := itemsOfValues_back items plain
    rw [Json.toValue, Json.ofValue, back]
    exact ⟨rfl, good⟩
  | .object fields, plain => by
    obtain ⟨distinct, fieldsPlain⟩ := plain
    obtain ⟨back, good⟩ := fieldsOfValues_back fields fieldsPlain
    rw [Json.toValue, Json.ofValue, back, foldl_assign [] fields distinct]
    exact ⟨rfl, good⟩

theorem itemsOfValues_back : ∀ items : List Json, itemsPlain items →
    itemsOfValues (valuesOfItems items) = items ∧ JsonText.goodItems (valuesOfItems items)
  | [], _ => ⟨rfl, trivial⟩
  | item :: items, plain => by
    obtain ⟨back, good⟩ := ofValue_toValue item plain.1
    obtain ⟨others, goods⟩ := itemsOfValues_back items plain.2
    rw [valuesOfItems, itemsOfValues, back, others]
    exact ⟨rfl, good, goods⟩

theorem fieldsOfValues_back : ∀ fields : List (String × Json), fieldsPlain fields →
    fieldsOfValues (valuesOfFields fields) = fields ∧ JsonText.goodFields (valuesOfFields fields)
  | [], _ => ⟨rfl, trivial⟩
  | (key, value) :: fields, plain => by
    obtain ⟨back, good⟩ := ofValue_toValue value plain.1
    obtain ⟨others, goods⟩ := fieldsOfValues_back fields plain.2
    rw [valuesOfFields, fieldsOfValues, back, others]
    exact ⟨rfl, good, goods⟩

end

/-- A plain value is parsed back from its text, with the line end that a file has behind it. -/
theorem parseJson_stringifyPretty {value : Json} (plain : value.Plain) (syntaxError : String) :
    parseJson syntaxError (value.stringifyPretty ++ "\n") = .ok value := by
  obtain ⟨back, good⟩ := ofValue_toValue value plain
  have gap : Blank [' ', ' '] := by
    intro c member
    rcases List.mem_pair.mp member with rfl | rfl
    · decide
    · decide
  have lineEnd : Blank ['\n'] := by
    intro c member
    rw [List.mem_singleton.mp member]
    decide
  have read : JsonText.parse ([] ++ (JsonText.print [' ', ' '] [] value.toValue ++ ['\n'])) = some value.toValue :=
    JsonText.parse_print gap good (by intro c member; cases member) lineEnd
  have text : (value.stringifyPretty ++ "\n").toList =
      [] ++ (JsonText.print [' ', ' '] [] value.toValue ++ ['\n']) := by
    rw [Json.stringifyPretty, String.toList_append, String.toList_ofList]
    rfl
  unfold parseJson
  rw [text, read]
  exact congrArg Except.ok back

/-! ### Records -/

theorem fieldsPlain_iff {fields : List (String × Json)} :
    fieldsPlain fields ↔ ∀ field ∈ fields, field.2.Plain := by
  induction fields with
  | nil => simp [fieldsPlain]
  | cons field fields ih =>
    obtain ⟨key, value⟩ := field
    rw [fieldsPlain, ih, List.forall_mem_cons]

theorem record_names (fields : List (String × Option Json)) :
    ((fields.filterMap fun field => field.2.map fun value => (field.1, value)).map Prod.fst).Sublist
      (fields.map Prod.fst) := by
  induction fields with
  | nil => exact List.Sublist.slnil
  | cons field fields ih =>
    obtain ⟨key, value⟩ := field
    cases value with
    | none => exact ih.cons key
    | some value => exact ih.cons_cons key

theorem record_plain {fields : List (String × Option Json)} (distinct : (fields.map Prod.fst).Nodup)
    (plain : ∀ field ∈ fields, ∀ value, field.2 = some value → value.Plain) : (record fields).Plain := by
  refine ⟨distinct.sublist (record_names fields), fieldsPlain_iff.mpr ?_⟩
  intro field member
  obtain ⟨source, present, same⟩ := List.mem_filterMap.mp member
  obtain ⟨value, held, rfl⟩ := Option.map_eq_some_iff.mp same
  exact plain source present value held

end Js
end QorechainRdk
