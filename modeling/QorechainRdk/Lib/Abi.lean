import QorechainRdk.Lib.Coding

/-!
# Tuples of byte strings in the contract ABI

Words of 32 bytes. A tuple has its static words and an offset for each of its byte strings in front, and then each
byte string behind its length, with zeros up to whole words. Offsets count from the first static word.
-/

namespace Abi

def word (n : Nat) : List UInt8 := Coding.bigEndian 32 n

/-- What is missing to a whole number of words. -/
def padding (n : Nat) : Nat := (32 - n % 32) % 32

def padded (data : List UInt8) : List UInt8 := data ++ List.replicate (padding data.length) 0

def dynamic (data : List UInt8) : List UInt8 := word data.length ++ padded data

/-- Where each byte string begins, the first of them at a given place. -/
def offsets : Nat → List (List UInt8) → List Nat
  | _, [] => []
  | place, item :: items => place :: offsets (place + (dynamic item).length) items

def tails (items : List (List UInt8)) : List UInt8 := items.flatMap dynamic

/-- The offsets and byte strings of a tuple that has so many static words in front. -/
def tuple (headWords : Nat) (items : List (List UInt8)) : List UInt8 :=
  (offsets (32 * (headWords + items.length)) items).flatMap word ++ tails items

/-! ### Reading -/

/-- The value of a whole word within the input. -/
def wordAt (b : List UInt8) (place : Nat) : Option Nat :=
  if place + 32 ≤ b.length then some (Coding.ofBigEndian ((b.drop place).take 32)).toNat else none

/-- A length, as much data and zeros up to whole words. -/
def dynamicAt (b : List UInt8) (place : Nat) : Option (List UInt8) := do
  let length ← wordAt b place
  let rest := b.drop (place + 32)
  if length + padding length ≤ rest.length ∧
      (rest.drop length).take (padding length) = List.replicate (padding length) 0 then
    some (rest.take length)
  else none

/-- The byte string whose offset is the `i`-th word. -/
def itemAt (b : List UInt8) (i : Nat) : Option (List UInt8) := do dynamicAt b (← wordAt b (32 * i))

/-- The byte strings of a tuple behind its static words. -/
def readTuple (headWords count : Nat) (b : List UInt8) : Option (List (List UInt8)) :=
  (List.range' headWords count).mapM (itemAt b)

/-- The data whose offset is the first word, whatever is behind it. -/
def announced (b : List UInt8) : Option (List UInt8) := do
  let offset ← wordAt b 0
  let length ← wordAt b offset
  if offset + 32 + length ≤ b.length then some ((b.drop (offset + 32)).take length) else none

/-! ### Sizes -/

section
variable {n place : Nat} {front rest data b : List UInt8} {items : List (List UInt8)}

@[simp] theorem length_word (n : Nat) : (word n).length = 32 := Coding.length_bigEndian 32 n

@[simp] theorem length_padded (data : List UInt8) : (padded data).length = data.length + padding data.length := by
  simp [padded]

@[simp] theorem length_dynamic (data : List UInt8) :
    (dynamic data).length = 32 + (data.length + padding data.length) := by
  simp [dynamic]

@[simp] theorem length_offsets (place : Nat) (items : List (List UInt8)) :
    (offsets place items).length = items.length := by
  induction items generalizing place with
  | nil => rfl
  | cons item items ih => rw [offsets, List.length_cons, ih, List.length_cons]

theorem length_flatMap_word (ns : List Nat) : (ns.flatMap word).length = 32 * ns.length := by
  induction ns with
  | nil => rfl
  | cons n ns ih =>
    rw [List.flatMap_cons, List.length_append, length_word, ih, List.length_cons]
    omega

theorem length_tuple (headWords : Nat) (items : List (List UInt8)) :
    (tuple headWords items).length = 32 * items.length + (tails items).length := by
  rw [tuple, List.length_append, length_flatMap_word, length_offsets]

/-! ### Reading back -/

theorem ofBigEndian_word (fits : n < 2 ^ 256) : (Coding.ofBigEndian (word n)).toNat = n := by
  have same : Coding.ofBigEndian (word n) = n := by
    refine (Coding.ofBigEndian_bigEndian_iff 32 n).mpr ⟨Int.natCast_nonneg n, ?_⟩
    rw [show (256 : Int) ^ 32 = ((2 ^ 256 : Nat) : Int) by norm_num]
    exact_mod_cast fits
  rw [same, Int.toNat_natCast]

theorem wordAt_append (fits : n < 2 ^ 256) (here : front.length = place) :
    wordAt (front ++ (word n ++ rest)) place = some n := by
  have room : place + 32 ≤ (front ++ (word n ++ rest)).length := by
    simp only [List.length_append, length_word]
    omega
  unfold wordAt
  rw [if_pos room, List.drop_left' here, List.take_left' (length_word n), ofBigEndian_word fits]

theorem dynamicAt_append (fits : data.length < 2 ^ 256) (here : front.length = place) :
    dynamicAt (front ++ (dynamic data ++ rest)) place = some data := by
  have split : front ++ (dynamic data ++ rest) = (front ++ word data.length) ++ (padded data ++ rest) := by
    simp only [dynamic, List.append_assoc]
  have behind : (front ++ (dynamic data ++ rest)).drop (place + 32) = padded data ++ rest := by
    rw [split]
    exact List.drop_left' (by rw [List.length_append, length_word, here])
  unfold dynamicAt
  rw [behind, dynamic, List.append_assoc, wordAt_append fits here]
  simp only [Option.bind_eq_bind, Option.bind_some]
  have zeros : ((padded data ++ rest).drop data.length).take (padding data.length) =
      List.replicate (padding data.length) 0 := by
    rw [padded, List.append_assoc, List.drop_left, List.take_left' List.length_replicate]
  have text : (padded data ++ rest).take data.length = data := by
    rw [padded, List.append_assoc, List.take_left]
  rw [if_pos ⟨by simp, zeros⟩, text]

/-- The byte strings from some place on, behind offsets that are read already and byte strings that are. -/
theorem mapM_itemAt {k : Nat} {middle : List UInt8} (first : front.length = 32 * k)
    (here : (front ++ (offsets place items).flatMap word ++ middle).length = place)
    (fits : place + (tails items).length < 2 ^ 256) :
    (List.range' k items.length).mapM
      (itemAt (front ++ (offsets place items).flatMap word ++ middle ++ tails items)) = some items := by
  induction items generalizing k place front middle with
  | nil => rfl
  | cons item items ih =>
    have total : (tails (item :: items)).length = (dynamic item).length + (tails items).length := by
      rw [tails, List.flatMap_cons, List.length_append, tails]
    have text : front ++ (offsets place (item :: items)).flatMap word ++ middle ++ tails (item :: items) =
        (front ++ word place) ++ (offsets (place + (dynamic item).length) items).flatMap word ++
          (middle ++ dynamic item) ++ tails items := by
      simp only [offsets, List.flatMap_cons, tails, List.append_assoc]
    have small : item.length < 2 ^ 256 := by
      rw [length_dynamic] at total
      omega
    have offset : wordAt (front ++ (offsets place (item :: items)).flatMap word ++ middle ++ tails (item :: items))
        (32 * k) = some place := by
      simp only [offsets, List.flatMap_cons, List.append_assoc]
      exact wordAt_append (by omega) first
    have read : itemAt (front ++ (offsets place (item :: items)).flatMap word ++ middle ++ tails (item :: items)) k =
        some item := by
      unfold itemAt
      rw [offset]
      simp only [Option.bind_eq_bind, Option.bind_some]
      rw [tails, List.flatMap_cons]
      exact dynamicAt_append small here
    rw [List.length_cons, List.range'_succ, List.mapM_cons, read]
    simp only [Option.bind_eq_bind, Option.bind_some]
    rw [text, ih]
    · rfl
    · rw [List.length_append, length_word, first]
      omega
    · simp only [offsets, List.flatMap_cons, List.length_append] at here ⊢
      omega
    · omega

/-- A tuple is read back behind any static words. -/
theorem readTuple_tuple {headWords : Nat} (head : front.length = 32 * headWords)
    (fits : front.length + (tuple headWords items).length < 2 ^ 256) :
    readTuple headWords items.length (front ++ tuple headWords items) = some items := by
  have size := length_tuple headWords items
  have words := length_flatMap_word (offsets (32 * (headWords + items.length)) items)
  rw [length_offsets] at words
  have read := mapM_itemAt head
    (by rw [List.append_nil, List.length_append, words]; omega) (by omega)
  rw [List.append_nil, List.append_assoc] at read
  exact read

/-- Announced data is where its offset and length say, within the input. -/
theorem announced_eq_some_iff : announced b = some data ↔
    ∃ offset, wordAt b 0 = some offset ∧ wordAt b offset = some data.length ∧
      offset + 32 + data.length ≤ b.length ∧ (b.drop (offset + 32)).take data.length = data := by
  unfold announced
  simp only [Option.bind_eq_bind, Option.bind_eq_some_iff]
  constructor
  · intro h
    obtain ⟨offset, first, length, second, h⟩ := h
    split at h
    · rename_i within
      obtain rfl := Option.some.inj h
      have size : ((b.drop (offset + 32)).take length).length = length := by
        rw [List.length_take, List.length_drop]
        omega
      rw [size]
      exact ⟨offset, first, second, within, rfl⟩
    · cases h
  · intro h
    obtain ⟨offset, first, second, within, text⟩ := h
    exact ⟨offset, first, data.length, second, by rw [if_pos within, text]⟩

theorem announced_tuple (fits : (tuple 0 [data]).length < 2 ^ 256) : announced (tuple 0 [data]) = some data := by
  have size := length_tuple 0 [data]
  have text : tuple 0 [data] = word 32 ++ (dynamic data ++ []) := by
    simp [tuple, offsets, tails]
  have rest : (tails [data]).length = 32 + (data.length + padding data.length) := by
    simp [tails]
  have first : wordAt ([] ++ (word 32 ++ (dynamic data ++ []))) 0 = some 32 := wordAt_append (by norm_num) rfl
  rw [List.length_singleton] at size
  refine announced_eq_some_iff.mpr ⟨32, ?_, ?_, ?_, ?_⟩
  · rw [text]
    exact first
  · rw [text, dynamic, List.append_assoc]
    exact wordAt_append (by omega) (length_word 32)
  · omega
  · rw [text, dynamic, List.append_assoc, ← List.append_assoc, List.drop_left' (by simp), padded, List.append_assoc,
      List.take_left]

end
end Abi
