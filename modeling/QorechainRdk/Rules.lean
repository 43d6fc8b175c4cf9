import QorechainRdk.Utils.Bytes

/-!
# The chain's rules, checked before a fee is paid

`rules/index.ts`. The `bech32` package is a parameter.
-/

namespace QorechainRdk

open Js

/-! ### Ids -/

def ID_MIN_LENGTH : Nat := 3

def ID_MAX_LENGTH : Nat := 64

/-- The loop of `rollupIdError` from the `i`-th character on. -/
def rollupIdErrorLoop : Nat → List Char → Option String
  | _, [] => none
  | i, c :: cs =>
    if ('a' ≤ c ∧ c ≤ 'z') ∨ ('0' ≤ c ∧ c ≤ '9') then rollupIdErrorLoop (i + 1) cs
    else if (c = '.' ∨ c = '_' ∨ c = '-') ∧ 0 < i then rollupIdErrorLoop (i + 1) cs
    else if i = 0 then some "must start with a lowercase letter or a digit"
    else some "may contain only lowercase letters, digits, '.', '_' and '-'"

def rollupIdError (id : String) : Option String :=
  let len := (encode id).length
  if len < ID_MIN_LENGTH ∨ ID_MAX_LENGTH < len then
    some s!"must be {ID_MIN_LENGTH} to {ID_MAX_LENGTH} characters"
  else rollupIdErrorLoop 0 id.toList

def isValidRollupId (id : String) : Bool := (rollupIdError id).isNone

/-! ### Withdrawals -/

def ROLLUP_ESCROW_DENOM : String := "uqor"

/-- The longest withdrawal Merkle path the chain accepts. -/
def MAX_WITHDRAWAL_PROOF_DEPTH : Nat := 64

structure WithdrawalForValidation where
  submitter : String
  rollupId : String
  recipient : String
  denom : String
  amount : Integral
  proof : Option (List HexOrBytes) := none
  deriving DecidableEq, Repr

def byteLength : HexOrBytes → Int
  | .bytes b => b.length
  | .hex s =>
    let hex := stripHexPrefix s.toList
    if hex.length % 2 = 0 ∧ hex.all isHexDigit = true then (hex.length / 2 : Nat) else -1

def positive (amount : Integral) : Bool :=
  match bigInt amount with
  | .ok n => 0 < n
  | .error _ => false

def siblingErrors (proof : List HexOrBytes) : List String :=
  proof.zipIdx.flatMap fun (sibling, i) =>
    let n := byteLength sibling
    let text := if n < 0 then "not valid hex" else s!"{n} bytes"
    if n ≠ 32 then [s!"proof level {i} is {text}, want 32"] else []

def withdrawalErrors (isBech32 : String → Bool) (w : WithdrawalForValidation) : List String :=
  let proof := w.proof.getD []
  (if !isBech32 w.submitter then [s!"invalid submitter address \"{w.submitter}\""] else []) ++
  (if w.rollupId = "" then ["rollup_id cannot be empty"] else []) ++
  (if !isBech32 w.recipient then [s!"invalid recipient address \"{w.recipient}\""] else []) ++
  (if w.denom ≠ ROLLUP_ESCROW_DENOM then
    [s!"denom \"{w.denom}\": rollup escrow is held in {ROLLUP_ESCROW_DENOM} only"] else []) ++
  (if !positive w.amount then ["amount must be a positive integer"] else []) ++
  (if MAX_WITHDRAWAL_PROOF_DEPTH < proof.length then
    [s!"proof has {proof.length} levels, at most {MAX_WITHDRAWAL_PROOF_DEPTH}"] else []) ++
  siblingErrors proof

/-! ### Batches -/

def dataHashError (daBackend : String) (dataHash : Option HexOrBytes) : Option String :=
  let empty : Bool := match dataHash with
    | none => true
    | some (.hex s) => (stripHexPrefix s.toList).isEmpty
    | some (.bytes b) => b.isEmpty
  if empty ∨ (daBackend ≠ "native" ∧ daBackend ≠ "both") then none
  else
    some (s!"dataHash must be empty on a rollup with {daBackend} data availability: no transaction stores " ++
      "a data-availability blob on chain, so the chain refuses a batch that claims one")

/-- Half of a length, as a `number` is printed. -/
def halfText (units : Nat) : String :=
  if units % 2 = 0 then toString (units / 2) else s!"{units / 2}.5"

/-- A text is measured in code units, two to a byte. -/
def withdrawalsRootError : Option HexOrBytes → Option String
  | none => none
  | some root =>
    let units := match root with
      | .hex s => length (String.ofList (stripHexPrefix s.toList))
      | .bytes b => 2 * b.length
    if units = 0 ∨ units = 64 then none
    else some s!"withdrawalsRoot must be empty or 32 bytes, got {halfText units}"

/-! ### What the id grammar rules out -/

theorem rollupIdErrorLoop_none {cs : List Char} {i : Nat} (h : rollupIdErrorLoop i cs = none) {c : Char}
    (member : c ∈ cs) : ('a' ≤ c ∧ c ≤ 'z') ∨ ('0' ≤ c ∧ c ≤ '9') ∨ c = '.' ∨ c = '_' ∨ c = '-' := by
  induction cs generalizing i with
  | nil => cases member
  | cons d cs ih =>
    unfold rollupIdErrorLoop at h
    split at h
    · rename_i plain
      rcases List.mem_cons.mp member with rfl | tail
      · exact plain.imp_right Or.inl
      · exact ih h tail
    · split at h
      · rename_i mark
        rcases List.mem_cons.mp member with rfl | tail
        · exact Or.inr (Or.inr mark.1)
        · exact ih h tail
      · split at h
        · cases h
        · cases h

theorem rollupIdError_none {id : String} (h : rollupIdError id = none) :
    ID_MIN_LENGTH ≤ (encode id).length ∧ (encode id).length ≤ ID_MAX_LENGTH ∧
      rollupIdErrorLoop 0 id.toList = none := by
  unfold rollupIdError at h
  dsimp only at h
  split at h
  · cases h
  · rename_i within
    rw [not_or, Nat.not_lt, Nat.not_lt] at within
    exact ⟨within.1, within.2, h⟩

/-! ### The id grammar -/

abbrev LowerOrDigit (c : Char) : Prop := ('a' ≤ c ∧ c ≤ 'z') ∨ ('0' ≤ c ∧ c ≤ '9')

abbrev IdMark (c : Char) : Prop := c = '.' ∨ c = '_' ∨ c = '-'

/-- `^[a-z0-9][a-z0-9._-]{2,63}$` -/
def IdGrammar (id : String) : Prop :=
  ∃ first rest, id.toList = first :: rest ∧ LowerOrDigit first ∧ (∀ c ∈ rest, LowerOrDigit c ∨ IdMark c) ∧
    2 ≤ rest.length ∧ rest.length ≤ 63

theorem lowerOrDigit_ascii {c : Char} (h : LowerOrDigit c) : c.utf8Size = 1 := by
  apply Char.utf8Size_eq_one_iff.mpr
  apply UInt32.le_iff_toNat_le.mpr
  have bound : c.toNat ≤ 127 := by
    rcases h with lower | digit
    · exact Nat.le_trans (UInt32.le_iff_toNat_le.mp lower.2) (by decide)
    · exact Nat.le_trans (UInt32.le_iff_toNat_le.mp digit.2) (by decide)
  exact bound

theorem idMark_ascii {c : Char} (h : IdMark c) : c.utf8Size = 1 := by
  rcases h with rfl | rfl | rfl
  · rfl
  · rfl
  · rfl

/-- Where every character is one byte, bytes are counted as characters. -/
theorem encode_length_ascii {id : String} (ascii : ∀ c ∈ id.toList, c.utf8Size = 1) :
    (encode id).length = id.toList.length := by
  rw [encode_eq_flatMap]
  generalize id.toList = cs at ascii
  induction cs with
  | nil => rfl
  | cons c cs ih =>
    rw [List.flatMap_cons, List.length_append, ih fun d member => ascii d (List.mem_cons_of_mem _ member),
      String.length_utf8EncodeChar, ascii c List.mem_cons_self, List.length_cons, Nat.add_comm]

theorem rollupIdErrorLoop_rest {i : Nat} (later : 0 < i) (cs : List Char) :
    rollupIdErrorLoop i cs = none ↔ ∀ c ∈ cs, LowerOrDigit c ∨ IdMark c := by
  induction cs generalizing i with
  | nil => simp [rollupIdErrorLoop]
  | cons c cs ih =>
    unfold rollupIdErrorLoop
    rw [List.forall_mem_cons]
    by_cases plain : LowerOrDigit c
    · rw [if_pos plain, ih (Nat.succ_pos i)]
      exact (and_iff_right (Or.inl plain)).symm
    · rw [if_neg plain]
      by_cases mark : IdMark c
      · rw [if_pos ⟨mark, later⟩, ih (Nat.succ_pos i)]
        exact (and_iff_right (Or.inr mark)).symm
      · rw [if_neg (fun both => mark both.1), if_neg (by omega)]
        constructor
        · intro wrong
          cases wrong
        · intro both
          exact absurd both.1 (not_or.mpr ⟨plain, mark⟩)

theorem rollupIdErrorLoop_first (c : Char) (cs : List Char) :
    rollupIdErrorLoop 0 (c :: cs) = none ↔ LowerOrDigit c ∧ ∀ d ∈ cs, LowerOrDigit d ∨ IdMark d := by
  unfold rollupIdErrorLoop
  by_cases plain : LowerOrDigit c
  · rw [if_pos plain, rollupIdErrorLoop_rest (Nat.succ_pos 0)]
    exact (and_iff_right plain).symm
  · rw [if_neg plain, if_neg (fun both => Nat.lt_irrefl 0 both.2), if_pos rfl]
    constructor
    · intro wrong
      cases wrong
    · intro both
      exact absurd both.1 plain

theorem idCharacters_length {id : String} {first : Char} {rest : List Char} (characters : id.toList = first :: rest)
    (start : LowerOrDigit first) (tail : ∀ c ∈ rest, LowerOrDigit c ∨ IdMark c) :
    (encode id).length = rest.length + 1 := by
  have ascii : ∀ c ∈ id.toList, c.utf8Size = 1 := by
    rw [characters]
    exact List.forall_mem_cons.mpr ⟨lowerOrDigit_ascii start,
      fun c member => (tail c member).elim lowerOrDigit_ascii idMark_ascii⟩
  rw [encode_length_ascii ascii, characters, List.length_cons]

theorem rollupIdError_none_iff {id : String} : rollupIdError id = none ↔ IdGrammar id := by
  constructor
  · intro clear
    obtain ⟨long, short, loop⟩ := rollupIdError_none clear
    unfold ID_MIN_LENGTH at long
    unfold ID_MAX_LENGTH at short
    cases characters : id.toList with
    | nil =>
      rw [encode_eq_flatMap, characters] at long
      exact absurd long (by decide)
    | cons first rest =>
      rw [characters] at loop
      obtain ⟨start, tail⟩ := (rollupIdErrorLoop_first first rest).mp loop
      have count := idCharacters_length characters start tail
      exact ⟨first, rest, characters, start, tail, by omega, by omega⟩
  · intro grammar
    obtain ⟨first, rest, characters, start, tail, long, short⟩ := grammar
    have count := idCharacters_length characters start tail
    have within : ¬ ((encode id).length < ID_MIN_LENGTH ∨ ID_MAX_LENGTH < (encode id).length) := by
      unfold ID_MIN_LENGTH ID_MAX_LENGTH
      omega
    unfold rollupIdError
    dsimp only
    rw [if_neg within, characters]
    exact (rollupIdErrorLoop_first first rest).mpr ⟨start, tail⟩

end QorechainRdk
