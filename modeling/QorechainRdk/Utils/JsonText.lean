import QorechainRdk.Utils.Json

/-!
# Parsed JSON as text

What a template string, `===`, `JSON.stringify` and a truth test make of a parsed value. An object has no text
when a field of its own stands in front of `toString`, which no field of a parsed object can replace.
-/

namespace QorechainRdk
namespace Js

mutual

def Json.hasText : Json → Bool
  | .null => true
  | .bool _ => true
  | .number _ => true
  | .string _ => true
  | .array items => itemsHaveText items
  | .object fields => (fields.lookup "toString").isNone

def itemsHaveText : List Json → Bool
  | [] => true
  | item :: items => item.hasText && itemsHaveText items

end

/-- A value in a template string. -/
def template (value : Json) : Except JsError String :=
  if value.hasText then .ok value.toText else fail "Cannot convert object to primitive value"

/-- `===`: two arrays or two objects are never the same here. -/
def strictEq : Json → Json → Bool
  | .null, .null => true
  | .bool a, .bool b => a == b
  | .number m, .number n => m == n
  | .string s, .string t => s == t
  | _, _ => false

def truthy : Json → Bool
  | .null => false
  | .bool b => b
  | .number n => n ≠ .integer 0 && n ≠ .other "NaN"
  | .string s => s ≠ ""
  | .array _ => true
  | .object _ => true

def Json.isInteger : Json → Bool
  | .number n => Js.isInteger n
  | _ => false

mutual

/-- `JSON.stringify(value)`. -/
def Json.stringify : Json → String
  | .null => "null"
  | .bool b => toString b
  | .number n => jsonNumber n
  | .string s => Js.stringify s
  | .array items => "[" ++ ",".intercalate (stringifyItems items) ++ "]"
  | .object fields => "\x7b" ++ ",".intercalate (stringifyFields fields) ++ "\x7d"

def stringifyItems : List Json → List String
  | [] => []
  | item :: items => item.stringify :: stringifyItems items

def stringifyFields : List (String × Json) → List String
  | [] => []
  | (key, value) :: fields => (Js.stringify key ++ ":" ++ value.stringify) :: stringifyFields fields

end

theorem template_ok_iff {value : Json} {text : String} :
    template value = .ok text ↔ value.hasText = true ∧ value.toText = text := by
  unfold template
  split
  · rename_i given
    simp [given]
  · rename_i missing
    simp [missing]

theorem template_of_hasText {value : Json} (given : value.hasText = true) :
    template value = .ok value.toText := template_ok_iff.mpr ⟨given, rfl⟩

theorem template_of_missing {value : Json} (missing : ¬ value.hasText = true) :
    template value = fail "Cannot convert object to primitive value" := if_neg missing

@[simp] theorem template_string (s : String) : template (.string s) = .ok s := by
  unfold template
  rw [Json.hasText, if_pos rfl, Json.toText]

@[simp] theorem strictEq_string {value : Json} {s : String} :
    strictEq value (.string s) = true ↔ value = .string s := by
  cases value <;> simp [strictEq]

@[simp] theorem hasText_string (s : String) : (Json.string s).hasText = true := by rw [Json.hasText]

/-- A value without text is an object, or an array that holds one. -/
theorem truthy_of_missing {value : Json} (missing : ¬ value.hasText = true) : truthy value = true := by
  cases value with
  | null => exact absurd (by rw [Json.hasText]) missing
  | bool b => exact absurd (by rw [Json.hasText]) missing
  | number n => exact absurd (by rw [Json.hasText]) missing
  | string s => exact absurd (by rw [Json.hasText]) missing
  | array items => rfl
  | object fields => rfl

end Js
end QorechainRdk
