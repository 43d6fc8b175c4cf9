import Mathlib.Algebra.Group.Int.Defs
import Mathlib.Algebra.Group.Nat.Defs
import Mathlib.Data.List.Basic

/-!
# Protocol buffers on the wire

Varints, byte strings, tagged fields, and messages that are read field by field with unknown fields skipped.
A field whose value is the default is not written.
-/

namespace Protobuf

abbrev Reader := StateT (List UInt8) Option

/-! ### Varints -/

def varintLoop : Nat → Nat → List UInt8
  | 0, n => [UInt8.ofNat n]
  | k + 1, n => if n < 128 then [UInt8.ofNat n] else UInt8.ofNat (n % 128 + 128) :: varintLoop k (n / 128)

/-- Seven bits to a byte, the low ones first; the fuel is more than the bytes needed. -/
def varint (n : Nat) : List UInt8 := varintLoop n.log2 n

def takeVarint : List UInt8 → Option (Nat × List UInt8)
  | [] => none
  | b :: bytes =>
    if b.toNat < 128 then some (b.toNat, bytes)
    else do
      let (high, bytes) ← takeVarint bytes
      return (b.toNat - 128 + 128 * high, bytes)

theorem takeVarint_varintLoop (k n : Nat) (small : n < 128 ^ (k + 1)) (rest : List UInt8) :
    takeVarint (varintLoop k n ++ rest) = some (n, rest) := by
  have last : ∀ m, m < 128 → takeVarint ([UInt8.ofNat m] ++ rest) = some (m, rest) := by
    intro m low
    have byte : (UInt8.ofNat m).toNat = m := by
      rw [UInt8.toNat_ofNat']
      exact Nat.mod_eq_of_lt (by omega)
    simp [takeVarint, byte, low]
  induction k generalizing n with
  | zero => exact last n (by simpa using small)
  | succ k ih =>
    unfold varintLoop
    split
    · rename_i low
      exact last n low
    · have byte : (UInt8.ofNat (n % 128 + 128)).toNat = n % 128 + 128 := by
        rw [UInt8.toNat_ofNat']
        omega
      have high : n / 128 < 128 ^ (k + 1) := by
        rw [pow_succ] at small
        omega
      have whole : n % 128 + 128 - 128 + 128 * (n / 128) = n := by omega
      rw [List.cons_append, takeVarint, byte, if_neg (by omega), ih _ high]
      simp only [Option.bind_eq_bind, Option.bind_some, whole]
      rfl

theorem lt_pow_log2 (n : Nat) : n < 128 ^ (n.log2 + 1) :=
  calc n < 2 ^ (n.log2 + 1) := Nat.lt_log2_self
    _ ≤ 128 ^ (n.log2 + 1) := Nat.pow_le_pow_left (by decide) _

theorem takeVarint_varint (n : Nat) (rest : List UInt8) : takeVarint (varint n ++ rest) = some (n, rest) :=
  takeVarint_varintLoop _ n (lt_pow_log2 n) rest

/-- Fuel beyond what is needed changes nothing. -/
theorem varintLoop_fuel {k l n : Nat} (first : n < 128 ^ (k + 1)) (second : n < 128 ^ (l + 1)) :
    varintLoop k n = varintLoop l n := by
  induction k generalizing l n with
  | zero =>
    have low : n < 128 := by simpa using first
    cases l with
    | zero => rfl
    | succ l => exact (if_pos low).symm
  | succ k ih =>
    cases l with
    | zero =>
      have low : n < 128 := by simpa using second
      exact if_pos low
    | succ l =>
      have high : n / 128 < 128 ^ (k + 1) := by
        rw [pow_succ] at first
        omega
      have high' : n / 128 < 128 ^ (l + 1) := by
        rw [pow_succ] at second
        omega
      unfold varintLoop
      rw [ih high high']

theorem varint_step (n : Nat) :
    varint n = if n < 128 then [UInt8.ofNat n] else UInt8.ofNat (n % 128 + 128) :: varint (n / 128) := by
  have fits := lt_pow_log2 n
  have more : n < 128 ^ (n.log2 + 1 + 1) :=
    Nat.lt_of_lt_of_le fits (Nat.pow_le_pow_right (by decide) (by omega))
  have high : n / 128 < 128 ^ (n.log2 + 1) := by
    rw [pow_succ] at more
    omega
  change varintLoop n.log2 n = _
  rw [varintLoop_fuel fits more]
  change (if n < 128 then [UInt8.ofNat n] else UInt8.ofNat (n % 128 + 128) :: varintLoop n.log2 (n / 128)) = _
  rw [varintLoop_fuel high (lt_pow_log2 (n / 128))]
  rfl

theorem takeVarint_append {bytes rest more : List UInt8} {n : Nat} (h : takeVarint bytes = some (n, rest)) :
    takeVarint (bytes ++ more) = some (n, rest ++ more) := by
  induction bytes generalizing n with
  | nil => cases h
  | cons b bytes ih =>
    unfold takeVarint at h
    rw [List.cons_append, takeVarint]
    split at h
    · rename_i low
      cases h
      exact if_pos low
    · rename_i continued
      rw [if_neg continued]
      simp only [Option.bind_eq_bind, Option.bind_eq_some_iff] at h ⊢
      obtain ⟨⟨high, left⟩, read, same⟩ := h
      cases same
      exact ⟨(high, left ++ more), ih read, rfl⟩

theorem varintLoop_ne_nil (k n : Nat) : varintLoop k n ≠ [] := by
  cases k with
  | zero => simp [varintLoop]
  | succ k =>
    unfold varintLoop
    split
    · simp
    · simp

theorem varint_ne_nil (n : Nat) : varint n ≠ [] := varintLoop_ne_nil _ n

/-! ### Readers -/

def readVarint : Reader Nat := takeVarint

def take (n : Nat) : Reader (List UInt8) := fun bytes =>
  if n ≤ bytes.length then some (bytes.take n, bytes.drop n) else none

def readBytes : Reader (List UInt8) := do take (← readVarint)

def readString : Reader String := do
  match String.fromUTF8? ⟨(← readBytes).toArray⟩ with
  | some s => return s
  | none => failure

/-- The low 64 bits, as they are and in two's complement. -/
def wrapUint64 (v : Int) : Int := v % 2 ^ 64

def wrapInt64 (v : Int) : Int := if wrapUint64 v < 2 ^ 63 then wrapUint64 v else wrapUint64 v - 2 ^ 64

def readUint64 : Reader Int := do return wrapUint64 (← readVarint)

def readInt64 : Reader Int := do return wrapInt64 (← readVarint)

def readBool : Reader Bool := do return wrapUint64 (← readVarint) ≠ 0

/-- What follows the tag of an unknown field; a group ends at its own end tag. -/
def skipType : Nat → Nat → Reader Unit
  | _, 0 => do
    let _ ← readVarint
    return ()
  | _, 1 => do
    let _ ← take 8
    return ()
  | _, 2 => do
    let _ ← readBytes
    return ()
  | fuel + 1, 3 => do
    let tag ← readVarint
    if tag % 8 = 4 then return ()
    else do
      skipType fuel (tag % 8)
      skipType fuel 3
  | _, 5 => do
    let _ ← take 4
    return ()
  | _, _ => failure

section
variable {α M : Type} {rest : List UInt8}

/-- The payload is read off the front of an input, and no more. -/
def ReadsBack (read : Reader α) (payload : List UInt8) (v : α) : Prop :=
  ∀ rest, read (payload ++ rest) = some (v, rest)

theorem reader_bind {β : Type} {read : Reader α} {next : α → Reader β} {payload : List UInt8} {a : α}
    (front : ReadsBack read payload a) (rest : List UInt8) :
    (read >>= next) (payload ++ rest) = next a rest := by
  change (read (payload ++ rest)).bind (fun p => next p.1 p.2) = _
  rw [front rest]
  rfl

theorem readsBack_varint (n : Nat) : ReadsBack readVarint (varint n) n := takeVarint_varint n

theorem readsBack_take (b : List UInt8) : ReadsBack (take b.length) b b := by
  intro rest
  unfold take
  rw [if_pos (by simp)]
  simp

theorem readsBack_sized {size b : List UInt8} (sized : takeVarint size = some (b.length, [])) :
    ReadsBack readBytes (size ++ b) b := by
  intro rest
  have front : ReadsBack readVarint size b.length := fun rest => takeVarint_append sized
  rw [List.append_assoc]
  exact (reader_bind front _).trans (readsBack_take b rest)

def writeBytes (b : List UInt8) : List UInt8 := varint b.length ++ b

theorem readsBack_bytes (b : List UInt8) : ReadsBack readBytes (writeBytes b) b := by
  apply readsBack_sized
  have read := takeVarint_varint b.length []
  rwa [List.append_nil] at read

def utf8 (s : String) : List UInt8 := s.toUTF8.data.toList

def writeString (s : String) : List UInt8 := writeBytes (utf8 s)

theorem fromUTF8_utf8 (s : String) : String.fromUTF8? ⟨(utf8 s).toArray⟩ = some s := by
  have bytes : (⟨(utf8 s).toArray⟩ : ByteArray) = s.toByteArray := rfl
  rw [bytes]
  unfold String.fromUTF8?
  rw [dif_pos s.isValidUTF8]
  rfl

theorem readsBack_string (s : String) : ReadsBack readString (writeString s) s := by
  intro rest
  refine (reader_bind (readsBack_bytes (utf8 s)) rest).trans ?_
  rw [fromUTF8_utf8]
  rfl

/-- Both 64-bit types write the low 64 bits. -/
def writeInteger (v : Int) : List UInt8 := varint (wrapUint64 v).toNat

theorem toNat_wrapUint64 (v : Int) : ((wrapUint64 v).toNat : Int) = wrapUint64 v := by
  unfold wrapUint64
  omega

theorem wrapUint64_idem (v : Int) : wrapUint64 (wrapUint64 v) = wrapUint64 v := by
  unfold wrapUint64
  omega

theorem wrapInt64_wrapUint64 (v : Int) : wrapInt64 (wrapUint64 v) = wrapInt64 v := by
  unfold wrapInt64
  rw [wrapUint64_idem]

theorem wrapUint64_of_range {v : Int} (nonneg : 0 ≤ v) (small : v < 2 ^ 64) : wrapUint64 v = v :=
  Int.emod_eq_of_lt nonneg small

theorem wrapInt64_of_range {v : Int} (low : -2 ^ 63 ≤ v) (high : v < 2 ^ 63) : wrapInt64 v = v := by
  unfold wrapInt64 wrapUint64
  split
  · omega
  · omega

theorem readsBack_uint64 (v : Int) : ReadsBack readUint64 (writeInteger v) (wrapUint64 v) := by
  intro rest
  refine (reader_bind (readsBack_varint _) rest).trans ?_
  rw [toNat_wrapUint64, wrapUint64_idem]
  rfl

theorem readsBack_int64 (v : Int) : ReadsBack readInt64 (writeInteger v) (wrapInt64 v) := by
  intro rest
  refine (reader_bind (readsBack_varint _) rest).trans ?_
  rw [toNat_wrapUint64, wrapInt64_wrapUint64]
  rfl

def writeBool (b : Bool) : List UInt8 := [if b then 1 else 0]

theorem readsBack_bool (b : Bool) : ReadsBack readBool (writeBool b) b := by
  intro rest
  cases b
  · rfl
  · rfl

/-! ### Messages -/

/-- The cases of a message's decoder, by field number. -/
abbrev Switch (M : Type) := Nat → Option (M → Reader M)

def setting (read : Reader α) (set : M → α → M) (message : M) : Reader M := do
  return set message (← read)

def readField (switch : Switch M) (message : M) : Reader M := do
  let tag ← readVarint
  match switch (tag / 8) with
  | some read => read message
  | none => do
    let left ← get
    skipType left.length (tag % 8)
    return message

def decodeLoop (switch : Switch M) : Nat → M → List UInt8 → Option M
  | _, message, [] => some message
  | 0, _, _ :: _ => none
  | fuel + 1, message, b :: bytes => do
    let (message, rest) ← readField switch message (b :: bytes)
    decodeLoop switch fuel message rest

/-- Each field takes a byte or more, so the length is fuel enough. -/
def decode (switch : Switch M) (message : M) (bytes : List UInt8) : Option M :=
  decodeLoop switch bytes.length message bytes

def stringField (tag : Nat) (v : String) : List UInt8 := if v = "" then [] else varint tag ++ writeString v

def bytesField (tag : Nat) (v : List UInt8) : List UInt8 := if v = [] then [] else varint tag ++ writeBytes v

/-- A field of type `uint64` or `int64`. -/
def integerField (tag : Nat) (v : Int) : List UInt8 := if v = 0 then [] else varint tag ++ writeInteger v

def boolField (tag : Nat) (v : Bool) : List UInt8 := if v then varint tag ++ writeBool v else []

/-- One entry of a repeated field; an empty one is written too. -/
def bytesEntry (tag : Nat) (v : List UInt8) : List UInt8 := varint tag ++ writeBytes v

variable {switch : Switch M} {m m' m'' : M} {set : M → α → M} {read : Reader α} {tag : Nat}
  {chunk payload : List UInt8} {chunks more : List (List UInt8)}

/-- A chunk of the input takes the message that is being read from `m` to `m'`. -/
def Reads (switch : Switch M) (chunk : List UInt8) (m m' : M) : Prop :=
  (chunk = [] ∧ m' = m) ∨ (chunk ≠ [] ∧ ∀ rest, readField switch m (chunk ++ rest) = some (m', rest))

theorem reads_written {v : α} (case : switch (tag / 8) = some (setting read set))
    (back : ReadsBack read payload v) : Reads switch (varint tag ++ payload) m (set m v) := by
  refine Or.inr ⟨?_, ?_⟩
  · intro empty
    exact varint_ne_nil tag (List.append_eq_nil_iff.mp empty).1
  · intro rest
    rw [List.append_assoc]
    refine (reader_bind (readsBack_varint tag) _).trans ?_
    rw [case]
    exact reader_bind back rest

theorem reads_stringField {set : M → String → M} (v : String)
    (case : switch (tag / 8) = some (setting readString set)) (elided : set m "" = m) :
    Reads switch (stringField tag v) m (set m v) := by
  unfold stringField
  split
  · rename_i empty
    rw [empty, elided]
    exact Or.inl ⟨rfl, rfl⟩
  · exact reads_written case (readsBack_string v)

theorem reads_bytesField {set : M → List UInt8 → M} (v : List UInt8)
    (case : switch (tag / 8) = some (setting readBytes set)) (elided : set m [] = m) :
    Reads switch (bytesField tag v) m (set m v) := by
  unfold bytesField
  split
  · rename_i empty
    rw [empty, elided]
    exact Or.inl ⟨rfl, rfl⟩
  · exact reads_written case (readsBack_bytes v)

theorem reads_uint64Field {set : M → Int → M} (v : Int)
    (case : switch (tag / 8) = some (setting readUint64 set)) (elided : set m 0 = m) :
    Reads switch (integerField tag v) m (set m (wrapUint64 v)) := by
  unfold integerField
  split
  · rename_i zero
    have none : wrapUint64 0 = 0 := by decide
    rw [zero, none, elided]
    exact Or.inl ⟨rfl, rfl⟩
  · exact reads_written case (readsBack_uint64 v)

theorem reads_int64Field {set : M → Int → M} (v : Int)
    (case : switch (tag / 8) = some (setting readInt64 set)) (elided : set m 0 = m) :
    Reads switch (integerField tag v) m (set m (wrapInt64 v)) := by
  unfold integerField
  split
  · rename_i zero
    have none : wrapInt64 0 = 0 := by decide
    rw [zero, none, elided]
    exact Or.inl ⟨rfl, rfl⟩
  · exact reads_written case (readsBack_int64 v)

theorem reads_boolField {set : M → Bool → M} (v : Bool)
    (case : switch (tag / 8) = some (setting readBool set)) (elided : set m false = m) :
    Reads switch (boolField tag v) m (set m v) := by
  unfold boolField
  cases v
  · rw [elided]
    exact Or.inl ⟨rfl, rfl⟩
  · exact reads_written case (readsBack_bool true)

theorem reads_bytesEntry {set : M → List UInt8 → M} (v : List UInt8)
    (case : switch (tag / 8) = some (setting readBytes set)) :
    Reads switch (bytesEntry tag v) m (set m v) := reads_written case (readsBack_bytes v)

/-- An embedded message stands behind its length. -/
def readMessage (decode : List UInt8 → Option α) : Reader α := do
  match decode (← readBytes) with
  | some v => return v
  | none => failure

theorem readsBack_message {decode : List UInt8 → Option α} {v : α} (back : decode payload = some v) :
    ReadsBack (readMessage decode) (writeBytes payload) v := by
  intro rest
  refine (reader_bind (readsBack_bytes payload) rest).trans ?_
  rw [back]
  rfl

theorem reads_message {decode : List UInt8 → Option α} {v : α}
    (case : switch (tag / 8) = some (setting (readMessage decode) set)) (back : decode payload = some v) :
    Reads switch (bytesEntry tag payload) m (set m v) := reads_written case (readsBack_message back)

/-- The chunks of a message, one after the other. -/
inductive Run (switch : Switch M) : List (List UInt8) → M → M → Prop
  | nil {m : M} : Run switch [] m m
  | cons {chunk : List UInt8} {chunks : List (List UInt8)} {m m' m'' : M} (first : Reads switch chunk m m')
      (after : Run switch chunks m' m'') : Run switch (chunk :: chunks) m m''

theorem Run.append (front : Run switch chunks m m') (back : Run switch more m' m'') :
    Run switch (chunks ++ more) m m'' := by
  induction front with
  | nil => exact back
  | cons first _ ih => exact .cons first (ih back)

/-- A repeated field is read entry by entry. -/
theorem run_entries (set : M → List (List UInt8) → M) {push : M → List UInt8 → M}
    (case : switch (tag / 8) = some (setting readBytes push))
    (pushed : ∀ done v, push (set m done) v = set m (done ++ [v])) (done vs : List (List UInt8)) :
    Run switch (vs.map (bytesEntry tag)) (set m done) (set m (done ++ vs)) := by
  induction vs generalizing done with
  | nil =>
    rw [List.append_nil]
    exact .nil
  | cons v vs ih =>
    have first : Reads switch (bytesEntry tag v) (set m done) (push (set m done) v) :=
      reads_bytesEntry v case
    rw [pushed] at first
    have after := ih (done ++ [v])
    rw [List.append_assoc] at after
    exact .cons first after

/-- A repeated field of embedded messages. -/
theorem run_messages {write : α → List UInt8} {decode : List UInt8 → Option α} (set : M → List α → M)
    {push : M → α → M} (case : switch (tag / 8) = some (setting (readMessage decode) push))
    (pushed : ∀ done v, push (set m done) v = set m (done ++ [v])) (done vs : List α)
    (back : ∀ v ∈ vs, decode (write v) = some v) :
    Run switch (vs.map fun v => bytesEntry tag (write v)) (set m done) (set m (done ++ vs)) := by
  induction vs generalizing done with
  | nil =>
    rw [List.append_nil]
    exact .nil
  | cons v vs ih =>
    have first : Reads switch (bytesEntry tag (write v)) (set m done) (push (set m done) v) :=
      reads_message case (back v List.mem_cons_self)
    rw [pushed] at first
    have after := ih (done ++ [v]) fun w member => back w (List.mem_cons_of_mem _ member)
    rw [List.append_assoc] at after
    exact .cons first after

/-! ### Unknown fields -/

/-- What may follow a tag of the wire type. -/
inductive Payload : Nat → List UInt8 → Prop
  | varint {b : List UInt8} {v : Nat} (read : takeVarint b = some (v, [])) : Payload 0 b
  | fixed64 {b : List UInt8} (width : b.length = 8) : Payload 1 b
  | delimited {size b : List UInt8} (sized : takeVarint size = some (b.length, [])) : Payload 2 (size ++ b)
  | fixed32 {b : List UInt8} (width : b.length = 4) : Payload 5 b

/-- A well-formed field with a number that the switch has no case for. -/
inductive Unknown (switch : Switch M) : List UInt8 → Prop
  | field {tag payload : List UInt8} {number wireType : Nat} (positive : 0 < number)
      (small : number < 2 ^ 29) (type : wireType < 8) (read : takeVarint tag = some (8 * number + wireType, []))
      (unknown : switch number = none) (payload_ok : Payload wireType payload) :
      Unknown switch (tag ++ payload)

theorem skipType_payload {wireType : Nat} (ok : Payload wireType payload) (fuel : Nat) :
    ReadsBack (skipType fuel wireType) payload () := by
  intro rest
  cases ok with
  | varint read =>
    have front : ReadsBack readVarint payload _ := fun rest => takeVarint_append read
    cases fuel with
    | zero => exact reader_bind front rest
    | succ fuel => exact reader_bind front rest
  | fixed64 width =>
    have front := readsBack_take payload
    rw [width] at front
    cases fuel with
    | zero => exact reader_bind front rest
    | succ fuel => exact reader_bind front rest
  | delimited sized =>
    cases fuel with
    | zero => exact reader_bind (readsBack_sized sized) rest
    | succ fuel => exact reader_bind (readsBack_sized sized) rest
  | fixed32 width =>
    have front := readsBack_take payload
    rw [width] at front
    cases fuel with
    | zero => exact reader_bind front rest
    | succ fuel => exact reader_bind front rest

theorem takeVarint_ne_nil {bytes : List UInt8} {p : Nat × List UInt8} (h : takeVarint bytes = some p) :
    bytes ≠ [] := by
  rintro rfl
  cases h

theorem Unknown.reads (unknown : Unknown switch chunk) : Reads switch chunk m m := by
  obtain @⟨tag, payload, number, wireType, -, -, type, read, missing, ok⟩ := unknown
  refine Or.inr ⟨?_, ?_⟩
  · intro empty
    exact takeVarint_ne_nil read (List.append_eq_nil_iff.mp empty).1
  · intro rest
    have front : ReadsBack readVarint tag (8 * number + wireType) := fun rest => takeVarint_append read
    have field : (8 * number + wireType) / 8 = number := by omega
    have low : (8 * number + wireType) % 8 = wireType := by omega
    rw [List.append_assoc]
    refine (reader_bind front _).trans ?_
    rw [field, missing, low]
    change (skipType (payload ++ rest).length wireType >>= fun _ => (pure m : Reader M)) (payload ++ rest) = _
    exact reader_bind (skipType_payload ok _) rest

/-- Chunks in their order, with unknown fields before, between and after them. -/
inductive Padded (switch : Switch M) : List (List UInt8) → List UInt8 → Prop
  | nil : Padded switch [] []
  | chunk {chunk bytes : List UInt8} {chunks : List (List UInt8)} (after : Padded switch chunks bytes) :
      Padded switch (chunk :: chunks) (chunk ++ bytes)
  | unknown {field bytes : List UInt8} {chunks : List (List UInt8)} (unknown : Unknown switch field)
      (after : Padded switch chunks bytes) : Padded switch chunks (field ++ bytes)

theorem padded_flatten (switch : Switch M) (chunks : List (List UInt8)) :
    Padded switch chunks chunks.flatten := by
  induction chunks with
  | nil => exact .nil
  | cons chunk chunks ih => exact .chunk ih

theorem decodeLoop_reads {bytes : List UInt8} {fuel : Nat} (first : Reads switch chunk m m')
    (enough : (chunk ++ bytes).length ≤ fuel) :
    ∃ left, bytes.length ≤ left ∧ decodeLoop switch fuel m (chunk ++ bytes) = decodeLoop switch left m' bytes := by
  rcases first with ⟨rfl, rfl⟩ | ⟨nonempty, step⟩
  · exact ⟨fuel, enough, rfl⟩
  · cases chunk with
    | nil => exact absurd rfl nonempty
    | cons b chunk =>
      cases fuel with
      | zero => simp at enough
      | succ fuel =>
        refine ⟨fuel, ?_, ?_⟩
        · simp only [List.cons_append, List.length_cons, List.length_append] at enough
          omega
        · have step := step bytes
          rw [List.cons_append] at step ⊢
          rw [decodeLoop, step]
          rfl

/-- Unknown fields do not put the reader out of step. -/
theorem decodeLoop_padded {bytes : List UInt8} (padded : Padded switch chunks bytes) {m m' : M}
    (run : Run switch chunks m m') (fuel : Nat) (enough : bytes.length ≤ fuel) :
    decodeLoop switch fuel m bytes = some m' := by
  induction padded generalizing m fuel with
  | nil =>
    cases run
    cases fuel with
    | zero => rfl
    | succ fuel => rfl
  | chunk _ ih =>
    obtain _ | ⟨first, after⟩ := run
    obtain ⟨left, enough, same⟩ := decodeLoop_reads first enough
    rw [same]
    exact ih after left enough
  | unknown unknown _ ih =>
    obtain ⟨left, enough, same⟩ := decodeLoop_reads unknown.reads enough
    rw [same]
    exact ih run left enough

theorem decode_padded {bytes : List UInt8} (padded : Padded switch chunks bytes) (run : Run switch chunks m m') :
    decode switch m bytes = some m' := decodeLoop_padded padded run bytes.length (Nat.le_refl _)

theorem decode_flatten (run : Run switch chunks m m') : decode switch m chunks.flatten = some m' :=
  decode_padded (padded_flatten switch chunks) run

end
end Protobuf
