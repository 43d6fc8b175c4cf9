import QorechainRdk.Lib.Regroup
import QorechainRdk.Utils.Js
import Mathlib.Data.Nat.ModEq
import Mathlib.Tactic.Ring

/-!
# Groups of eight bits and of five

`convertBits` of `bech32.go` and `Bech32.java`. No accumulator has more than 20 bits, so 32 are as good as any number.
-/

namespace QorechainRdk

open Js Regroup

namespace Bech32

/-- Groups are appended to a slice, or written into an array of some size. -/
def write (room : Option Nat) (out : List Nat) (group : Nat) : Except JsError (List Nat) :=
  match room with
  | none => .ok (out ++ [group])
  | some n => if out.length < n then .ok (out ++ [group]) else fail "ArrayIndexOutOfBoundsException"

/-- `bits >= to`: every turn takes bits away, so there are no more turns than bits. -/
def emit (room : Option Nat) (toBits acc : Nat) : Nat → Nat → List Nat → Except JsError (Nat × List Nat)
  | 0, bits, out => .ok (bits, out)
  | turns + 1, bits, out =>
    if toBits ≤ bits then do
      let out ← write room out (acc >>> (bits - toBits) &&& 2 ^ toBits - 1)
      emit room toBits acc turns (bits - toBits) out
    else .ok (bits, out)

structure Groups where
  acc : Nat
  bits : Nat
  out : List Nat
  deriving DecidableEq, Repr

def takeIn (room : Option Nat) (fromBits toBits : Nat) (s : Groups) (value : Nat) : Except JsError Groups :=
  if value >>> fromBits ≠ 0 then fail "invalid data range in bit conversion"
  else do
    let acc := (s.acc <<< fromBits ||| value) &&& 2 ^ (fromBits + toBits - 1) - 1
    let bits := s.bits + fromBits
    let r ← emit room toBits acc bits bits s.out
    return ⟨acc, r.1, r.2⟩

def convertBits (room : Option Nat) (data : List Nat) (fromBits toBits : Nat) (pad : Bool) :
    Except JsError (List Nat) := do
  let s ← data.foldlM (takeIn room fromBits toBits) ⟨0, 0, []⟩
  let last := s.acc <<< (toBits - s.bits) &&& 2 ^ toBits - 1
  if pad then
    if 0 < s.bits then write room s.out last else return s.out
  else if fromBits ≤ s.bits ∨ last ≠ 0 then fail "invalid padding in bit conversion"
  else return s.out

/-! ### The loop -/

section
variable {fromBits toBits acc bits turns total N value : Nat} {out done rest data : List Nat} {s : Groups}

theorem group_eq (same : acc ≡ N [MOD 2 ^ bits]) (enough : toBits ≤ bits) :
    acc >>> (bits - toBits) &&& 2 ^ toBits - 1 = N / 2 ^ (bits - toBits) % 2 ^ toBits := by
  have power : 2 ^ bits = 2 ^ (bits - toBits) * 2 ^ toBits := by rw [← pow_add, Nat.sub_add_cancel enough]
  rw [Nat.and_two_pow_sub_one_eq_mod, Nat.shiftRight_eq_div_pow, ← Nat.mod_mul_right_div_self, ← power, same,
    power, Nat.mod_mul_right_div_self]

/-- The turns put out digits until fewer bits than one of them are in hand. -/
theorem emit_grouped (pos : 0 < toBits) (grouped : Grouped toBits total N out bits) (same : acc ≡ N [MOD 2 ^ bits])
    (enough : bits ≤ turns) :
    ∃ r, emit none toBits acc turns bits out = .ok r ∧ Grouped toBits total N r.2 r.1 ∧ r.1 < toBits ∧
      r.1 ≤ bits := by
  induction turns generalizing bits out with
  | zero => exact ⟨(bits, out), rfl, grouped, by dsimp only; omega, Nat.le_refl bits⟩
  | succ turns ih =>
    unfold emit
    by_cases more : toBits ≤ bits
    · have less : acc ≡ N [MOD 2 ^ (bits - toBits)] := same.of_dvd (pow_dvd_pow 2 (Nat.sub_le bits toBits))
      obtain ⟨r, result, after, few, fewer⟩ := ih (grouped.put more) less (by omega)
      rw [if_pos more, write, ok_bind, group_eq same more]
      exact ⟨r, result, after, few, by omega⟩
    · rw [if_neg more]
      exact ⟨(bits, out), rfl, grouped, Nat.not_le.mp more, Nat.le_refl bits⟩

/-- After some groups: what is out, and what is still in hand. -/
structure Taken (fromBits toBits : Nat) (done : List Nat) (s : Groups) : Prop where
  grouped : Grouped toBits (fromBits * done.length) (number (2 ^ fromBits) done) s.out s.bits
  few : s.bits < toBits
  inHand : s.acc ≡ number (2 ^ fromBits) done [MOD 2 ^ s.bits]

/-- One group more. -/
theorem takeIn_taken (taken : Taken fromBits toBits done s) (small : value < 2 ^ fromBits) :
    ∃ s', takeIn none fromBits toBits s value = .ok s' ∧ Taken fromBits toBits (done ++ [value]) s' := by
  have pos : 0 < toBits := Nat.zero_lt_of_lt taken.few
  have range : ¬ value >>> fromBits ≠ 0 := by
    rw [Nat.shiftRight_eq_div_pow, Nat.div_eq_of_lt small]
    exact fun wrong => wrong rfl
  have grouped : Grouped toBits (fromBits * (done ++ [value]).length) (number (2 ^ fromBits) (done ++ [value]))
      s.out (s.bits + fromBits) := by
    rw [number_concat, List.length_append, List.length_singleton, Nat.mul_add, Nat.mul_one]
    exact taken.grouped.take small
  have acc : (s.acc <<< fromBits ||| value) &&& 2 ^ (fromBits + toBits - 1) - 1 ≡
      number (2 ^ fromBits) (done ++ [value]) [MOD 2 ^ (s.bits + fromBits)] := by
    have wide : 2 ^ (s.bits + fromBits) ∣ 2 ^ (fromBits + toBits - 1) := by
      have few := taken.few
      exact pow_dvd_pow 2 (by omega)
    rw [Nat.and_two_pow_sub_one_eq_mod, ← Nat.shiftLeft_add_eq_or_of_lt small, Nat.shiftLeft_eq, number_concat]
    refine (Nat.ModEq.of_dvd wide (Nat.mod_modEq _ _)).trans (Nat.ModEq.add_right value ?_)
    rw [pow_add]
    exact taken.inHand.mul_right' (2 ^ fromBits)
  obtain ⟨r, result, after, few, fewer⟩ := emit_grouped pos grouped acc (Nat.le_refl _)
  refine ⟨⟨_, r.1, r.2⟩, ?_, after, few, acc.of_dvd (pow_dvd_pow 2 fewer)⟩
  unfold takeIn
  rw [if_neg range]
  dsimp only
  rw [result]
  rfl

/-- All groups, from any point on. -/
theorem takeIn_loop (taken : Taken fromBits toBits done s) (small : ∀ v ∈ rest, v < 2 ^ fromBits) :
    ∃ s', rest.foldlM (takeIn none fromBits toBits) s = .ok s' ∧ Taken fromBits toBits (done ++ rest) s' := by
  induction rest generalizing done s with
  | nil => exact ⟨s, rfl, by rwa [List.append_nil]⟩
  | cons v rest ih =>
    rw [List.forall_mem_cons] at small
    obtain ⟨middle, first, after⟩ := takeIn_taken taken small.1
    obtain ⟨s', second, last⟩ := ih after small.2
    refine ⟨s', ?_, ?_⟩
    · rw [List.foldlM_cons, first, ok_bind, second]
    · rwa [List.append_assoc, List.singleton_append] at last

theorem takeIn_all (pos : 0 < toBits) (small : ∀ v ∈ data, v < 2 ^ fromBits) :
    ∃ s, data.foldlM (takeIn none fromBits toBits) ⟨0, 0, []⟩ = .ok s ∧ Taken fromBits toBits data s := by
  have start : Taken fromBits toBits [] ⟨0, 0, []⟩ := ⟨Grouped.start, pos, Nat.ModEq.refl _⟩
  exact takeIn_loop start small

/-- The rest of the bits with zeros behind them. -/
theorem last_eq (same : acc ≡ N [MOD 2 ^ bits]) (few : bits < toBits) :
    acc <<< (toBits - bits) &&& 2 ^ toBits - 1 = N % 2 ^ bits * 2 ^ (toBits - bits) := by
  have power : 2 ^ toBits = 2 ^ bits * 2 ^ (toBits - bits) := by rw [← pow_add, Nat.add_sub_cancel' few.le]
  rw [Nat.and_two_pow_sub_one_eq_mod, Nat.shiftLeft_eq, power, Nat.mul_mod_mul_right, same]

/-! ### Bytes and groups of five bits -/

/-- The groups of five bits that bytes are written as, the last one filled up with zeros. -/
def fiveBits (data : List Nat) : List Nat :=
  digits 32 ((8 * data.length + 4) / 5)
    (number 256 data * 2 ^ (5 * ((8 * data.length + 4) / 5) - 8 * data.length))

theorem convertBits_five (bytes : ∀ v ∈ data, v < 256) : convertBits none data 8 5 true = .ok (fiveBits data) := by
  obtain ⟨s, loop, taken⟩ := takeIn_all (show 0 < 5 by decide) (show ∀ v ∈ data, v < 2 ^ 8 from bytes)
  have width := taken.grouped.width
  have few := taken.few
  unfold convertBits
  rw [loop, ok_bind]
  dsimp only
  rw [if_pos rfl]
  by_cases some_bits : 0 < s.bits
  · have count : (8 * data.length + 4) / 5 = s.out.length + 1 := by omega
    have zeros : 5 * (s.out.length + 1) - 8 * data.length = 5 - s.bits := by omega
    rw [if_pos some_bits, write, last_eq taken.inHand few, taken.grouped.fill few, fiveBits, count, zeros]
    rfl
  · have none_left : s.bits = 0 := by omega
    have count : (8 * data.length + 4) / 5 = s.out.length := by omega
    have zeros : 5 * s.out.length - 8 * data.length = 0 := by omega
    have out := taken.grouped.number
    rw [none_left, pow_zero, Nat.div_one] at out
    rw [if_neg some_bits, fiveBits, count, zeros, pow_zero, Nat.mul_one]
    exact congrArg Except.ok out

/-- Groups of five bits are read as bytes if fewer than five bits are left, all of them zero. -/
theorem convertBits_eight (groups : ∀ v ∈ data, v < 32) : convertBits none data 5 8 false = .ok out ↔
    5 * data.length % 8 < 5 ∧ number 32 data % 2 ^ (5 * data.length % 8) = 0 ∧
      out = digits 256 (5 * data.length / 8) (number 32 data / 2 ^ (5 * data.length % 8)) := by
  obtain ⟨s, loop, taken⟩ := takeIn_all (show 0 < 8 by decide) (show ∀ v ∈ data, v < 2 ^ 5 from groups)
  have width := taken.grouped.width
  have few := taken.few
  have bits : 5 * data.length % 8 = s.bits := by omega
  have count : 5 * data.length / 8 = s.out.length := by omega
  have text : s.out = digits 256 s.out.length (number 32 data / 2 ^ s.bits) := taken.grouped.number
  have last := last_eq taken.inHand few
  have zero : number (2 ^ 5) data % 2 ^ s.bits * 2 ^ (8 - s.bits) = 0 ↔ number 32 data % 2 ^ s.bits = 0 := by
    rw [Nat.mul_eq_zero]
    exact or_iff_left (Nat.two_pow_pos _).ne'
  unfold convertBits
  rw [loop, ok_bind, bits, count, ← text]
  dsimp only
  rw [if_neg (by decide), guard_ok_iff, last, ne_eq, zero, not_or, not_not, Nat.not_le, pure_ok_iff, and_assoc]
  exact and_congr_right fun _ => and_congr_right fun _ => eq_comm

theorem fiveBits_lt (data : List Nat) : ∀ v ∈ fiveBits data, v < 32 := digits_lt (by decide)

theorem length_fiveBits (data : List Nat) : (fiveBits data).length = (8 * data.length + 4) / 5 := length_digits ..

theorem number_fiveBits (bytes : ∀ v ∈ data, v < 256) :
    number 32 (fiveBits data) = number 256 data * 2 ^ (5 * ((8 * data.length + 4) / 5) - 8 * data.length) := by
  apply number_digits_of_lt
  calc number 256 data * 2 ^ (5 * ((8 * data.length + 4) / 5) - 8 * data.length)
      < 256 ^ data.length * 2 ^ (5 * ((8 * data.length + 4) / 5) - 8 * data.length) :=
        Nat.mul_lt_mul_of_pos_right (number_lt bytes) (Nat.two_pow_pos _)
    _ = 32 ^ ((8 * data.length + 4) / 5) := by
        rw [show 256 = 2 ^ 8 by rfl, show 32 = 2 ^ 5 by rfl, ← pow_mul, ← pow_mul, ← pow_add]
        congr 1
        omega

/-- The groups that are read as bytes are those that bytes are written as. -/
theorem convertBits_eight_iff (groups : ∀ v ∈ data, v < 32) : convertBits none data 5 8 false = .ok out ↔
    (∀ v ∈ out, v < 256) ∧ data = fiveBits out := by
  rw [convertBits_eight groups]
  constructor
  · intro h
    obtain ⟨few, zero, rfl⟩ := h
    refine ⟨digits_lt (by decide), ?_⟩
    have size : number 32 data / 2 ^ (5 * data.length % 8) < 256 ^ (5 * data.length / 8) := by
      apply Nat.div_lt_of_lt_mul
      have all := number_lt groups
      rw [show 256 = 2 ^ 8 by rfl, ← pow_mul, ← pow_add]
      rw [show 32 = 2 ^ 5 by rfl, ← pow_mul] at all
      have exponent : 5 * data.length % 8 + 8 * (5 * data.length / 8) = 5 * data.length := by omega
      rwa [exponent]
    have count : (8 * (5 * data.length / 8) + 4) / 5 = data.length := by omega
    have zeros : 5 * data.length - 8 * (5 * data.length / 8) = 5 * data.length % 8 := by omega
    rw [fiveBits, length_digits, count, zeros, number_digits_of_lt size,
      Nat.div_mul_cancel (Nat.dvd_of_mod_eq_zero zero), digits_number groups]
  · intro h
    obtain ⟨bytes, rfl⟩ := h
    have left : 5 * ((8 * out.length + 4) / 5) % 8 = 5 * ((8 * out.length + 4) / 5) - 8 * out.length := by omega
    have count : 5 * ((8 * out.length + 4) / 5) / 8 = out.length := by omega
    rw [length_fiveBits, number_fiveBits bytes, left, count]
    refine ⟨by omega, Nat.mul_mod_left _ _, ?_⟩
    rw [Nat.mul_div_cancel _ (Nat.two_pow_pos _), digits_number bytes]

/-! ### Room for the groups -/

theorem write_some_iff {n group : Nat} {o : List Nat} :
    write (some n) out group = .ok o ↔ write none out group = .ok o ∧ o.length ≤ n := by
  unfold write
  dsimp only
  constructor
  · intro h
    split at h
    · obtain rfl := Except.ok.inj h
      exact ⟨rfl, by rw [List.length_append, List.length_singleton]; omega⟩
    · cases h
  · intro h
    obtain ⟨same, room⟩ := h
    obtain rfl := Except.ok.inj same
    rw [List.length_append, List.length_singleton] at room
    exact if_pos (by omega)

theorem emit_length {room : Option Nat} {r : Nat × List Nat} (h : emit room toBits acc turns bits out = .ok r) :
    out.length ≤ r.2.length := by
  induction turns generalizing bits out with
  | zero =>
    obtain rfl := Except.ok.inj h
    exact Nat.le_refl _
  | succ turns ih =>
    unfold emit at h
    split at h
    · obtain ⟨o, written, rest⟩ := bind_ok h
      have longer : o.length = out.length + 1 := by
        unfold write at written
        split at written
        · rw [← Except.ok.inj written, List.length_append, List.length_singleton]
        · split at written
          · rw [← Except.ok.inj written, List.length_append, List.length_singleton]
          · cases written
      have tail := ih rest
      omega
    · obtain rfl := Except.ok.inj h
      exact Nat.le_refl _

theorem emit_some_iff {n : Nat} {r : Nat × List Nat} (fits : out.length ≤ n) :
    emit (some n) toBits acc turns bits out = .ok r ↔
      emit none toBits acc turns bits out = .ok r ∧ r.2.length ≤ n := by
  induction turns generalizing bits out with
  | zero =>
    constructor
    · intro h
      obtain rfl := Except.ok.inj h
      exact ⟨rfl, fits⟩
    · exact And.left
  | succ turns ih =>
    unfold emit
    split
    · rw [bind_ok_iff, bind_ok_iff]
      constructor
      · intro h
        obtain ⟨o, written, rest⟩ := h
        obtain ⟨written, room⟩ := write_some_iff.mp written
        obtain ⟨rest, room⟩ := (ih room).mp rest
        exact ⟨⟨o, written, rest⟩, room⟩
      · intro h
        obtain ⟨⟨o, written, rest⟩, room⟩ := h
        have room' := (emit_length rest).trans room
        exact ⟨o, write_some_iff.mpr ⟨written, room'⟩, (ih room').mpr ⟨rest, room⟩⟩
    · constructor
      · intro h
        obtain rfl := Except.ok.inj h
        exact ⟨rfl, fits⟩
      · exact And.left

theorem takeIn_length {room : Option Nat} {s' : Groups} (h : takeIn room fromBits toBits s value = .ok s') :
    s.out.length ≤ s'.out.length := by
  unfold takeIn at h
  split at h
  · cases h
  · obtain ⟨r, emitted, rest⟩ := bind_ok h
    obtain rfl := pure_ok_iff.mp rest
    exact emit_length emitted

theorem takeIn_some_iff {n : Nat} {s' : Groups} (fits : s.out.length ≤ n) :
    takeIn (some n) fromBits toBits s value = .ok s' ↔
      takeIn none fromBits toBits s value = .ok s' ∧ s'.out.length ≤ n := by
  unfold takeIn
  split
  · simp
  · dsimp only
    rw [bind_ok_iff, bind_ok_iff]
    simp only [pure_ok_iff]
    constructor
    · intro h
      obtain ⟨r, emitted, rfl⟩ := h
      obtain ⟨emitted, room⟩ := (emit_some_iff fits).mp emitted
      exact ⟨⟨r, emitted, rfl⟩, room⟩
    · intro h
      obtain ⟨⟨r, emitted, rfl⟩, room⟩ := h
      exact ⟨r, (emit_some_iff fits).mpr ⟨emitted, room⟩, rfl⟩

theorem takeInAll_length {room : Option Nat} {s' : Groups}
    (h : data.foldlM (takeIn room fromBits toBits) s = .ok s') : s.out.length ≤ s'.out.length := by
  induction data generalizing s with
  | nil =>
    obtain rfl := Except.ok.inj h
    exact Nat.le_refl _
  | cons v data ih =>
    rw [List.foldlM_cons] at h
    obtain ⟨middle, first, rest⟩ := bind_ok h
    exact (takeIn_length first).trans (ih rest)

theorem takeInAll_some_iff {n : Nat} {s' : Groups} (fits : s.out.length ≤ n) :
    data.foldlM (takeIn (some n) fromBits toBits) s = .ok s' ↔
      data.foldlM (takeIn none fromBits toBits) s = .ok s' ∧ s'.out.length ≤ n := by
  induction data generalizing s with
  | nil =>
    constructor
    · intro h
      obtain rfl := Except.ok.inj h
      exact ⟨rfl, fits⟩
    · exact And.left
  | cons v data ih =>
    rw [List.foldlM_cons, List.foldlM_cons, bind_ok_iff, bind_ok_iff]
    constructor
    · intro h
      obtain ⟨middle, first, rest⟩ := h
      obtain ⟨first, room⟩ := (takeIn_some_iff fits).mp first
      obtain ⟨rest, room⟩ := (ih room).mp rest
      exact ⟨⟨middle, first, rest⟩, room⟩
    · intro h
      obtain ⟨⟨middle, first, rest⟩, room⟩ := h
      have room' := (takeInAll_length rest).trans room
      exact ⟨middle, (takeIn_some_iff fits).mpr ⟨first, room'⟩, (ih room').mpr ⟨rest, room⟩⟩

/-- An array only refuses what it has no room for. -/
theorem convertBits_some_iff {n : Nat} {pad : Bool} : convertBits (some n) data fromBits toBits pad = .ok out ↔
    convertBits none data fromBits toBits pad = .ok out ∧ out.length ≤ n := by
  have empty : (⟨0, 0, []⟩ : Groups).out.length ≤ n := Nat.zero_le n
  unfold convertBits
  rw [bind_ok_iff, bind_ok_iff]
  constructor
  · intro h
    obtain ⟨s, loop, rest⟩ := h
    obtain ⟨loop, room⟩ := (takeInAll_some_iff empty).mp loop
    dsimp only at rest
    split at rest
    · split at rest
      · rename_i pads more
        obtain ⟨written, room⟩ := write_some_iff.mp rest
        exact ⟨⟨s, loop, by dsimp only; rw [if_pos pads, if_pos more]; exact written⟩, room⟩
      · rename_i pads none_left
        rw [← pure_ok_iff.mp rest]
        exact ⟨⟨s, loop, by dsimp only; rw [if_pos pads, if_neg none_left]; rfl⟩, room⟩
    · rename_i pads
      obtain ⟨fine, same⟩ := guard_ok_iff.mp rest
      rw [← pure_ok_iff.mp same]
      exact ⟨⟨s, loop, by dsimp only; rw [if_neg pads, if_neg fine]; rfl⟩, room⟩
  · intro h
    obtain ⟨⟨s, loop, rest⟩, room⟩ := h
    dsimp only at rest
    split at rest
    · split at rest
      · rename_i pads more
        have shorter : s.out.length ≤ n := by
          rw [← Except.ok.inj rest, List.length_append] at room
          omega
        refine ⟨s, (takeInAll_some_iff empty).mpr ⟨loop, shorter⟩, ?_⟩
        dsimp only
        rw [if_pos pads, if_pos more]
        exact write_some_iff.mpr ⟨rest, room⟩
      · rename_i pads none_left
        obtain rfl := pure_ok_iff.mp rest
        refine ⟨s, (takeInAll_some_iff empty).mpr ⟨loop, room⟩, ?_⟩
        dsimp only
        rw [if_pos pads, if_neg none_left]
        rfl
    · rename_i pads
      obtain ⟨fine, same⟩ := guard_ok_iff.mp rest
      obtain rfl := pure_ok_iff.mp same
      refine ⟨s, (takeInAll_some_iff empty).mpr ⟨loop, room⟩, ?_⟩
      dsimp only
      rw [if_neg pads, if_neg fine]
      rfl

end
end Bech32
end QorechainRdk
