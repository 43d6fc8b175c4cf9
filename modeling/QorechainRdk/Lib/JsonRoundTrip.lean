import Mathlib.Data.List.TakeWhile
import QorechainRdk.Lib.JsonText

/-!
# JSON texts read back

What the writer makes of a document is read as that document, with a gap and without one. A reader is followed
over the text that was written and over any text behind it that does not go on with a number.
-/

namespace JsonText

/-! ### Numbers -/

/-- A character that could go on with a number. -/
def goesOn (c : Char) : Bool :=
  c.isDigit || c == '.' || c == 'e' || c == 'E' || c == '+' || c == '-'

/-- What may follow a number. -/
def Stops (rest : List Char) : Prop := ∀ c, rest.head? = some c → goesOn c = false

def IsNumber (literal : List Char) : Prop := number literal = some (literal, [])

section
variable {cs rest t r : List Char}

theorem stops_cons {c : Char} (stop : goesOn c = false) : Stops (c :: rest) := by
  intro d first
  cases first
  exact stop

theorem Stops.digit (stops : Stops rest) (c : Char) (first : rest.head? = some c) : c.isDigit = false := by
  have none := stops c first
  unfold goesOn at none
  simp only [Bool.or_eq_false_iff] at none
  exact none.1.1.1.1.1

theorem digits_append (stop : ∀ c, rest.head? = some c → c.isDigit = false) :
    digits (cs ++ rest) = ((digits cs).1, (digits cs).2 ++ rest) := by
  unfold digits
  induction cs with
  | nil =>
    cases rest with
    | nil => rfl
    | cons c rest =>
      have first := stop c rfl
      simp [first]
  | cons c cs ih =>
    rw [List.cons_append, List.takeWhile_cons, List.dropWhile_cons, List.takeWhile_cons, List.dropWhile_cons]
    cases c.isDigit with
    | false => rfl
    | true =>
      obtain ⟨taken, dropped⟩ := Prod.mk.inj ih
      simp [taken, dropped]

theorem fraction_append (stops : Stops rest) (read : fraction cs = some (t, r)) :
    fraction (cs ++ rest) = some (t, r ++ rest) := by
  cases cs with
  | nil =>
    cases read
    cases rest with
    | nil => rfl
    | cons c rest =>
      have none := stops c rfl
      unfold fraction
      split
      · rename_i same
        cases same
        exact absurd none (by decide)
      · rfl
  | cons c cs =>
    unfold fraction at read ⊢
    split at read
    · rename_i cs' same
      cases same
      rw [List.cons_append]
      simp only [digits_append stops.digit] at read ⊢
      split at read
      · cases read
      · rename_i given
        cases read
        rw [if_neg given]
    · rename_i other
      cases read
      rw [List.cons_append]
      split
      · rename_i cs' same
        cases same
        exact absurd rfl (other cs)
      · rfl

theorem sign_append (stops : Stops rest) :
    sign (cs ++ rest) = ((sign cs).1, (sign cs).2 ++ rest) := by
  cases cs with
  | nil =>
    cases rest with
    | nil => rfl
    | cons c rest =>
      have none := stops c rfl
      rw [List.nil_append]
      unfold sign
      split
      · rename_i same
        cases same
        exact absurd none (by decide)
      · rename_i same
        cases same
        exact absurd none (by decide)
      · rfl
  | cons c cs =>
    rw [List.cons_append]
    by_cases plus : c = '+'
    · subst plus
      rfl
    · by_cases dash : c = '-'
      · subst dash
        rfl
      · unfold sign
        simp [plus, dash]

theorem exponent_append (stops : Stops rest) (read : exponent cs = some (t, r)) :
    exponent (cs ++ rest) = some (t, r ++ rest) := by
  cases cs with
  | nil =>
    cases read
    cases rest with
    | nil => rfl
    | cons c rest =>
      have none := stops c rfl
      have other : ¬ (c = 'e' ∨ c = 'E') := by
        rintro (rfl | rfl)
        · exact absurd none (by decide)
        · exact absurd none (by decide)
      rw [List.nil_append, exponent, if_neg other]
  | cons e cs =>
    rw [exponent] at read
    rw [List.cons_append, exponent]
    split
    · rename_i letter
      rw [if_pos letter] at read
      rw [sign_append stops]
      dsimp only at read ⊢
      rw [digits_append stops.digit]
      dsimp only
      split at read
      · cases read
      · rename_i given
        cases read
        rw [if_neg given]
    · rename_i other
      rw [if_neg other] at read
      cases read
      rfl

theorem minus_append (nonempty : cs ≠ []) : minus (cs ++ rest) = ((minus cs).1, (minus cs).2 ++ rest) := by
  cases cs with
  | nil => exact absurd rfl nonempty
  | cons c cs =>
    rw [List.cons_append]
    by_cases dash : c = '-'
    · subst dash
      rfl
    · unfold minus
      simp [dash]

theorem number_ne_nil (read : number cs = some (t, r)) : cs ≠ [] := by
  rintro rfl
  cases read

/-- A number is read to its end, and no further. -/
theorem number_append (stops : Stops rest) (read : number cs = some (t, r)) :
    number (cs ++ rest) = some (t, r ++ rest) := by
  have nonempty := number_ne_nil read
  unfold number at read ⊢
  rw [minus_append nonempty]
  dsimp only at read ⊢
  rw [digits_append stops.digit]
  dsimp only
  split at read
  · cases read
  · rename_i whole
    rw [if_neg whole]
    simp only [Option.bind_eq_bind, Option.bind_eq_some_iff] at read ⊢
    obtain ⟨⟨decimals, first⟩, fractional, ⟨power, second⟩, exponential, same⟩ := read
    cases same
    exact ⟨_, fraction_append stops fractional, _, exponent_append stops exponential, rfl⟩

/-- A literal begins with a digit, or with its sign. -/
theorem number_head (read : number cs = some (t, r)) : ∃ c ds, cs = c :: ds ∧ (c = '-' ∨ c.isDigit = true) := by
  cases cs with
  | nil => cases read
  | cons c cs =>
    refine ⟨c, cs, rfl, ?_⟩
    by_contra neither
    obtain ⟨dash, digit⟩ := not_or.mp neither
    have whole : (digits (minus (c :: cs)).2).1 = [] := by
      have same : minus (c :: cs) = ([], c :: cs) := by
        unfold minus
        simp [dash]
      rw [same, digits, List.takeWhile_cons, if_neg digit]
    unfold number at read
    dsimp only at read
    rw [if_pos (Or.inl whole)] at read
    cases read

/-! ### Strings -/

theorem escaped_append {u : UInt16} (read : escaped cs = some (u, r)) :
    escaped (cs ++ rest) = some (u, r ++ rest) := by
  unfold escaped at read
  split at read
  · rw [Option.map_eq_some_iff] at read
    obtain ⟨v, value, same⟩ := read
    cases same
    simp [escaped, value]
  · rename_i e cs short
    rw [Option.map_eq_some_iff] at read
    obtain ⟨v, value, same⟩ := read
    cases same
    have letter : e ≠ 'u' := by
      rintro rfl
      cases value
    simp [escaped, letter, value]
  · cases read

/-- The escape of a character that has one. -/
def spelled (c : Char) : Bool :=
  match escape c with
  | '\\' :: more => escaped more == some (UInt16.ofNat c.toNat, [])
  | _ => false

theorem spelled_special {c : Char} (special : c.toNat < 32 ∨ c = '"' ∨ c = '\\') : spelled c = true := by
  have control : ∀ n : Fin 32, spelled (Char.ofNat n) = true := by decide
  rcases special with small | rfl | rfl
  · have same := control ⟨c.toNat, small⟩
    rwa [Char.ofNat_toNat] at same
  · decide
  · decide

/-- An escape stands for the units of its character, and does not look like the end of the string. -/
theorem element_escape (c : Char) (rest : List Char) : ∃ first more, escape c = first :: more ∧ first ≠ '"' ∧
    element first (more ++ rest) = some (Utf16.unitsOfChar c, rest) := by
  by_cases special : c.toNat < 32 ∨ c = '"' ∨ c = '\\'
  · have ascii : c.toNat < 128 := by
      rcases special with small | rfl | rfl
      · omega
      · decide
      · decide
    have check := spelled_special special
    unfold spelled at check
    split at check
    · rename_i more spelling
      refine ⟨_, _, spelling, by decide, ?_⟩
      rw [element, if_pos rfl, escaped_append (beq_iff_eq.mp check), Utf16.unitsOfChar_ascii ascii]
      rfl
    · cases check
  · obtain ⟨large, quoted, slash⟩ : ¬ c.toNat < 32 ∧ c ≠ '"' ∧ c ≠ '\\' := by
      rwa [not_or, not_or] at special
    have plain : ∀ d : Char, d.toNat < 32 → c ≠ d := by
      rintro d small rfl
      exact large small
    refine ⟨c, [], ?_, quoted, ?_⟩
    · unfold escape
      rw [if_neg quoted, if_neg slash, if_neg (plain _ (by decide)), if_neg (plain _ (by decide)),
        if_neg (plain _ (by decide)), if_neg (by omega), if_neg (by omega), if_neg large]
    · rw [element, if_neg slash, if_neg large]
      rfl

theorem stringLoop_escaped (chars rest : List Char) (fuel : Nat) (enough : chars.length < fuel) :
    stringLoop fuel (chars.flatMap escape ++ '"' :: rest) = some (Utf16.units chars, rest) := by
  induction chars generalizing fuel with
  | nil =>
    cases fuel with
    | zero => cases enough
    | succ fuel => rfl
  | cons c chars ih =>
    cases fuel with
    | zero => cases enough
    | succ fuel =>
      obtain ⟨first, more, spelling, inside, read⟩ := element_escape c (chars.flatMap escape ++ '"' :: rest)
      have after := ih fuel (Nat.lt_of_succ_lt_succ enough)
      rw [List.flatMap_cons, spelling, List.append_assoc, List.cons_append, stringLoop, if_neg inside]
      simp only [read, after, Option.bind_eq_bind, Option.bind_some, Utf16.units, List.flatMap_cons]
      rfl

theorem characters_units (chars : List Char) : characters (Utf16.units chars) = some chars := by
  unfold characters
  rw [Utf16.decode_units]
  induction chars with
  | nil => rfl
  | cons c chars ih =>
    rw [List.map_cons, List.mapM_cons, ih]
    rfl

theorem length_le_escaped (chars : List Char) : chars.length ≤ (chars.flatMap escape).length := by
  induction chars with
  | nil => exact Nat.le_refl 0
  | cons c chars ih =>
    obtain ⟨first, more, spelling, -, -⟩ := element_escape c []
    rw [List.flatMap_cons, spelling, List.length_append, List.length_cons, List.length_cons]
    omega

/-- A quoted string is read as the string, whatever comes behind its closing quote. -/
theorem string_quoted (s : String) (rest : List Char) :
    string (s.toList.flatMap escape ++ '"' :: rest) = some (s, rest) := by
  have enough : s.toList.length < (s.toList.flatMap escape ++ '"' :: rest).length := by
    have size := length_le_escaped s.toList
    rw [List.length_append, List.length_cons]
    omega
  unfold string
  rw [stringLoop_escaped s.toList rest _ enough]
  simp only [Option.bind_eq_bind, Option.bind_some, characters_units, String.ofList_toList]
  rfl

/-! ### Lists -/

def Blank (w : List Char) : Prop := ∀ c ∈ w, isBlank c = true

theorem skip_blank {w : List Char} (blank : Blank w) {c : Char} (head : isBlank c = false) (rest : List Char) :
    skip (w ++ c :: rest) = c :: rest := by
  unfold skip
  rw [List.dropWhile_append_of_pos blank, List.dropWhile_cons, if_neg (by rw [head]; decide)]

theorem blank_stops {c : Char} (blank : isBlank c = true) : goesOn c = false := by
  unfold isBlank at blank
  simp only [Bool.or_eq_true, beq_iff_eq] at blank
  rcases blank with ((rfl | rfl) | rfl) | rfl
  · decide
  · decide
  · decide
  · decide

/-- Blanks, and then a character that no number goes on with. -/
theorem stops_blank {w : List Char} (blank : Blank w) {c : Char} (stop : goesOn c = false) (rest : List Char) :
    Stops (w ++ c :: rest) := by
  cases w with
  | nil => exact stops_cons stop
  | cons b w => exact stops_cons (blank_stops (blank b List.mem_cons_self))

variable {α : Type} {item : Parser α} {write : α → List Char} {close : Char}

/-- The reader takes back what is written, behind blanks and before a text that stops it. -/
def Written (item : Parser α) (write : α → List Char) (v : α) : Prop :=
  ∀ w rest, Blank w → Stops rest → item (w ++ (write v ++ rest)) = some (v, rest)

/-- The items behind the first one, each behind a comma. -/
def following (write : α → List Char) (w : List Char) (vs : List α) : List Char :=
  vs.flatMap fun v => ',' :: (w ++ write v)

theorem length_le_following (write : α → List Char) (w : List Char) (vs : List α) :
    vs.length ≤ (following write w vs).length := by
  unfold following
  induction vs with
  | nil => exact Nat.le_refl 0
  | cons v vs ih =>
    rw [List.flatMap_cons, List.length_append, List.length_cons, List.length_cons]
    omega

structure Closing (close : Char) : Prop where
  solid : isBlank close = false
  comma : close ≠ ','
  stop : goesOn close = false

theorem stops_following (closing : Closing close) {w w' : List Char} (blank' : Blank w') (vs : List α) :
    Stops (following write w vs ++ (w' ++ close :: rest)) := by
  cases vs with
  | nil => exact stops_blank blank' closing.stop rest
  | cons v vs => exact stops_cons (by decide)

theorem itemsLoop_written (closing : Closing close) {w w' : List Char} (blank : Blank w) (blank' : Blank w')
    (v : α) (vs : List α) (written : ∀ x ∈ v :: vs, Written item write x) (fuel : Nat) (enough : vs.length < fuel) :
    itemsLoop item close fuel (w ++ (write v ++ (following write w vs ++ (w' ++ close :: rest)))) =
      some (v :: vs, rest) := by
  induction vs generalizing v fuel with
  | nil =>
    cases fuel with
    | zero => cases enough
    | succ fuel =>
      have read := written v List.mem_cons_self w (w' ++ close :: rest) blank (stops_blank blank' closing.stop rest)
      rw [following, List.flatMap_nil, List.nil_append, itemsLoop, read]
      simp only [Option.bind_eq_bind, Option.bind_some, skip_blank blank' closing.solid]
      rw [if_neg closing.comma, if_pos trivial]
  | cons u us ih =>
    cases fuel with
    | zero => cases enough
    | succ fuel =>
      have more : following write w (u :: us) ++ (w' ++ close :: rest) =
          [] ++ ',' :: (w ++ (write u ++ (following write w us ++ (w' ++ close :: rest)))) := by
        simp only [following, List.flatMap_cons, List.cons_append, List.append_assoc, List.nil_append]
      have stops : Stops (following write w (u :: us) ++ (w' ++ close :: rest)) :=
        stops_following closing blank' (u :: us)
      have read := written v List.mem_cons_self w _ blank stops
      have after := ih u (fun x member => written x (List.mem_cons_of_mem _ member)) fuel
        (Nat.lt_of_succ_lt_succ enough)
      rw [itemsLoop, read]
      simp only [Option.bind_eq_bind, Option.bind_some]
      rw [more, skip_blank (by intro c member; cases member) (by decide)]
      dsimp only
      rw [if_pos rfl, after]
      rfl

/-- A list is read back; its first item does not look like its end. -/
theorem items_written (closing : Closing close) {w w' : List Char} (blank : Blank w) (blank' : Blank w')
    (v : α) (vs : List α) (written : ∀ x ∈ v :: vs, Written item write x)
    (head : ∃ c cs, write v = c :: cs ∧ isBlank c = false ∧ c ≠ close) :
    items item close (w ++ (write v ++ (following write w vs ++ (w' ++ close :: rest)))) = some (v :: vs, rest) := by
  obtain ⟨c, cs, first, solid, apart⟩ := head
  have enough : vs.length <
      (w ++ (write v ++ (following write w vs ++ (w' ++ close :: rest)))).length := by
    have size := length_le_following write w vs
    simp only [List.length_append, List.length_cons]
    omega
  unfold items
  rw [itemsLoop_written closing blank blank' v vs written _ enough, first, List.cons_append, skip_blank blank solid]
  exact if_neg apart

/-! ### Values -/

mutual

/-- Every number is a literal of the grammar. -/
def Value.Good : Value → Prop
  | .number literal => IsNumber literal
  | .array vs => goodItems vs
  | .object fs => goodFields fs
  | _ => True

def goodItems : List Value → Prop
  | [] => True
  | v :: vs => v.Good ∧ goodItems vs

def goodFields : List (String × Value) → Prop
  | [] => True
  | (_, v) :: fs => v.Good ∧ goodFields fs

end

mutual

def Value.depth : Value → Nat
  | .array vs => depthItems vs + 1
  | .object fs => depthFields fs + 1
  | _ => 0

def depthItems : List Value → Nat
  | [] => 0
  | v :: vs => max v.depth (depthItems vs)

def depthFields : List (String × Value) → Nat
  | [] => 0
  | (_, v) :: fs => max v.depth (depthFields fs)

end

theorem item_facts {vs : List Value} (good : goodItems vs) {x : Value} (member : x ∈ vs) :
    x.Good ∧ x.depth ≤ depthItems vs := by
  induction vs with
  | nil => cases member
  | cons v vs ih =>
    obtain ⟨first, others⟩ := good
    rw [depthItems]
    rcases List.mem_cons.mp member with rfl | member
    · exact ⟨first, Nat.le_max_left ..⟩
    · obtain ⟨good, depth⟩ := ih others member
      exact ⟨good, Nat.le_trans depth (Nat.le_max_right ..)⟩

theorem field_facts {fs : List (String × Value)} (good : goodFields fs) {f : String × Value} (member : f ∈ fs) :
    f.2.Good ∧ f.2.depth ≤ depthFields fs := by
  induction fs with
  | nil => cases member
  | cons g fs ih =>
    obtain ⟨key, v⟩ := g
    obtain ⟨first, others⟩ := good
    rw [depthFields]
    rcases List.mem_cons.mp member with rfl | member
    · exact ⟨first, Nat.le_max_left ..⟩
    · obtain ⟨good, depth⟩ := ih others member
      exact ⟨good, Nat.le_trans depth (Nat.le_max_right ..)⟩

section
variable {gap indent : List Char}

theorem printItems_eq (vs : List Value) :
    printItems gap indent vs = following (print gap indent) (newline gap indent) vs := by
  induction vs with
  | nil => rfl
  | cons v vs ih =>
    rw [printItems, ih, following, following, List.flatMap_cons, List.cons_append, List.append_assoc]

theorem printFields_eq (fs : List (String × Value)) :
    printFields gap indent fs = following (printField gap indent) (newline gap indent) fs := by
  induction fs with
  | nil => rfl
  | cons f fs ih =>
    rw [printFields, ih, following, following, List.flatMap_cons, List.cons_append, List.append_assoc]

theorem newline_blank (blank : Blank indent) : Blank (newline gap indent) := by
  unfold newline
  split
  · intro c member
    cases member
  · intro c member
    rcases List.mem_cons.mp member with rfl | member
    · decide
    · exact blank c member

theorem append_blank (first : Blank gap) (second : Blank indent) : Blank (gap ++ indent) := by
  intro c member
  exact (List.mem_append.mp member).elim (first c) (second c)

/-- What a value is written as begins with the sign of its kind. -/
theorem print_head {v : Value} (good : v.Good) :
    ∃ c cs, print gap indent v = c :: cs ∧ isBlank c = false ∧ c ≠ ']' := by
  cases v with
  | null => exact ⟨_, _, by rw [print], by decide, by decide⟩
  | bool b =>
    cases b with
    | false => exact ⟨_, _, by rw [print], by decide, by decide⟩
    | true => exact ⟨_, _, by rw [print], by decide, by decide⟩
  | number literal =>
    obtain ⟨c, ds, same, kind⟩ := number_head (show number literal = _ from good)
    refine ⟨c, ds, by rw [print, same], ?_, ?_⟩
    · rcases kind with rfl | digit
      · decide
      · rw [← Bool.not_eq_true]
        intro blank
        have := blank_stops blank
        simp [goesOn, digit] at this
    · rintro rfl
      revert kind
      decide
  | string s => exact ⟨_, _, by rw [print, quote], by decide, by decide⟩
  | array vs =>
    cases vs with
    | nil => exact ⟨_, _, by rw [print], by decide, by decide⟩
    | cons v vs => exact ⟨_, _, by rw [print], by decide, by decide⟩
  | object fs =>
    cases fs with
    | nil => exact ⟨_, _, by rw [print], by decide, by decide⟩
    | cons f fs => exact ⟨_, _, by rw [print], by decide, by decide⟩

theorem keyword_read (word rest : List Char) (v : Value) : keyword word v (word ++ rest) = some (v, rest) := by
  unfold keyword
  rw [if_pos (by simp), List.drop_left]

theorem member_written {p : Parser Value} {v : Value} (written : Written p (print gap indent) v) (key : String) :
    Written (member p) (printField gap indent) (key, v) := by
  intro w rest blank stops
  have text : printField gap indent (key, v) ++ rest = '"' :: (key.toList.flatMap escape ++ '"' ::
      ([] ++ ':' :: ((if gap = [] then [] else [' ']) ++ (print gap indent v ++ rest)))) := by
    simp only [printField, quote, List.cons_append, List.append_assoc, List.nil_append]
  have colon : Blank (if gap = [] then [] else [' ']) := by
    split
    · intro c member
      cases member
    · intro c member
      rw [List.mem_singleton.mp member]
      decide
  unfold member
  rw [text, skip_blank blank (by decide)]
  dsimp only
  rw [if_neg (not_not.mpr rfl), string_quoted]
  simp only [Option.bind_eq_bind, Option.bind_some]
  rw [skip_blank (by intro c member; cases member) (by decide)]
  dsimp only
  rw [if_neg (not_not.mpr rfl), written _ rest colon stops]
  rfl

theorem closing_array : Closing ']' := ⟨by decide, by decide, by decide⟩

theorem closing_object : Closing '\x7d' := ⟨by decide, by decide, by decide⟩

/-- With fuel beyond its depth, a value is read back, whatever blanks stand before it. -/
theorem value_written (gapBlank : Blank gap) (fuel : Nat) (v : Value) (good : v.Good) (deep : v.depth < fuel)
    (indent : List Char) (indentBlank : Blank indent) : Written (value fuel) (print gap indent) v := by
  induction fuel generalizing v indent with
  | zero => cases deep
  | succ fuel ih =>
    have inner : Blank (indent ++ gap) := append_blank indentBlank gapBlank
    intro w rest blank stops
    rw [value]
    cases v with
    | null =>
      rw [print, List.cons_append, skip_blank blank (by decide)]
      exact keyword_read ['u', 'l', 'l'] rest .null
    | bool b =>
      cases b with
      | false =>
        rw [print, List.cons_append, skip_blank blank (by decide)]
        exact keyword_read ['a', 'l', 's', 'e'] rest (.bool false)
      | true =>
        rw [print, List.cons_append, skip_blank blank (by decide)]
        exact keyword_read ['r', 'u', 'e'] rest (.bool true)
    | string s =>
      rw [print, quote, List.cons_append, List.append_assoc, List.singleton_append, skip_blank blank (by decide)]
      dsimp only
      rw [if_pos rfl, string_quoted]
      rfl
    | number literal =>
      obtain ⟨c, ds, same, kind⟩ := number_head (show number literal = _ from good)
      have head : ∃ c cs, print gap indent (.number literal) = c :: cs ∧ isBlank c = false ∧ c ≠ ']' :=
        print_head good
      obtain ⟨d, es, written, solid, -⟩ := head
      have whole : number (literal ++ rest) = some (literal, rest) := number_append stops good
      rw [print, same] at written
      cases written
      have other : ∀ e : Char, e ≠ '-' → e.isDigit = false → c ≠ e := by
        rintro e dash digit rfl
        rcases kind with rfl | kind
        · exact dash rfl
        · rw [digit] at kind
          cases kind
      rw [print, same, List.cons_append, skip_blank blank solid]
      rw [same, List.cons_append] at whole
      dsimp only
      rw [if_neg (other _ (by decide) (by decide)), if_neg (other _ (by decide) (by decide)),
        if_neg (other _ (by decide) (by decide)), if_neg (other _ (by decide) (by decide)),
        if_neg (other _ (by decide) (by decide)), if_neg (other _ (by decide) (by decide)), whole]
      rfl
    | array vs =>
      cases vs with
      | nil =>
        rw [print, List.cons_append, skip_blank blank (by decide)]
        rfl
      | cons x vs =>
        rw [Value.depth] at deep
        have written : ∀ y ∈ x :: vs, Written (value fuel) (print gap (indent ++ gap)) y := by
          intro y member
          obtain ⟨good, depth⟩ := item_facts good member
          exact ih y good (by omega) _ inner
        have head : ∃ c cs, print gap (indent ++ gap) x = c :: cs ∧ isBlank c = false ∧ c ≠ ']' :=
          print_head (item_facts good List.mem_cons_self).1
        have list : items (value fuel) ']' (newline gap (indent ++ gap) ++ (print gap (indent ++ gap) x ++
            (following (print gap (indent ++ gap)) (newline gap (indent ++ gap)) vs ++
              (newline gap indent ++ ']' :: rest)))) = some (x :: vs, rest) :=
          items_written closing_array (newline_blank inner) (newline_blank indentBlank) x vs written head
        rw [print, printItems_eq, List.cons_append, skip_blank blank (by decide)]
        simp only [List.append_assoc, List.singleton_append]
        rw [if_neg (by decide), if_pos trivial, list]
        rfl
    | object fs =>
      cases fs with
      | nil =>
        rw [print, List.cons_append, skip_blank blank (by decide)]
        rfl
      | cons f fs =>
        rw [Value.depth] at deep
        have written : ∀ g ∈ f :: fs, Written (member (value fuel)) (printField gap (indent ++ gap)) g := by
          intro g present
          obtain ⟨good, depth⟩ := field_facts good present
          exact member_written (ih g.2 good (by omega) _ inner) g.1
        have head : ∃ c cs, printField gap (indent ++ gap) f = c :: cs ∧ isBlank c = false ∧ c ≠ '\x7d' :=
          ⟨_, _, by rw [printField, quote, List.cons_append], by decide, by decide⟩
        have list : items (member (value fuel)) '\x7d' (newline gap (indent ++ gap) ++
            (printField gap (indent ++ gap) f ++
              (following (printField gap (indent ++ gap)) (newline gap (indent ++ gap)) fs ++
                (newline gap indent ++ '\x7d' :: rest)))) = some (f :: fs, rest) :=
          items_written closing_object (newline_blank inner) (newline_blank indentBlank) f fs written head
        rw [print, printFields_eq, List.cons_append, skip_blank blank (by decide)]
        simp only [List.append_assoc, List.singleton_append]
        rw [if_neg (by decide), if_neg (by decide), if_pos trivial, list]
        rfl

/-! ### Texts -/

mutual

theorem depth_le_length (gap indent : List Char) : ∀ v : Value, v.depth ≤ (print gap indent v).length
  | .null => Nat.zero_le _
  | .bool _ => Nat.zero_le _
  | .number _ => Nat.zero_le _
  | .string _ => Nat.zero_le _
  | .array [] => by
    rw [print]
    decide
  | .array (v :: vs) => by
    have first := depth_le_length gap (indent ++ gap) v
    have others := depthItems_le_length gap (indent ++ gap) vs
    rw [Value.depth, depthItems, print]
    simp only [List.length_cons, List.length_append]
    omega
  | .object [] => by
    rw [print]
    decide
  | .object ((key, v) :: fs) => by
    have first := depth_le_length gap (indent ++ gap) v
    have others := depthFields_le_length gap (indent ++ gap) fs
    rw [Value.depth, depthFields, print, printField]
    simp only [List.length_cons, List.length_append]
    omega

theorem depthItems_le_length (gap indent : List Char) : ∀ vs : List Value,
    depthItems vs ≤ (printItems gap indent vs).length
  | [] => Nat.zero_le _
  | v :: vs => by
    have first := depth_le_length gap indent v
    have others := depthItems_le_length gap indent vs
    rw [depthItems, printItems]
    simp only [List.length_cons, List.length_append]
    omega

theorem depthFields_le_length (gap indent : List Char) : ∀ fs : List (String × Value),
    depthFields fs ≤ (printFields gap indent fs).length
  | [] => Nat.zero_le _
  | (key, v) :: fs => by
    have first := depth_le_length gap indent v
    have others := depthFields_le_length gap indent fs
    rw [depthFields, printFields, printField]
    simp only [List.length_cons, List.length_append]
    omega

end

/-- A written text is read as the document, with blanks around it. -/
theorem parse_print (gapBlank : Blank gap) {v : Value} (good : v.Good) {before after : List Char}
    (front : Blank before) (back : Blank after) : parse (before ++ (print gap [] v ++ after)) = some v := by
  have deep : v.depth < (before ++ (print gap [] v ++ after)).length + 1 := by
    have size := depth_le_length gap [] v
    simp only [List.length_append]
    omega
  have stops : Stops after := by
    intro c first
    exact blank_stops (back c (List.mem_of_head? first))
  have read := value_written gapBlank _ v good deep [] (by intro c member; cases member) before after front stops
  have ended : skip after = [] := List.dropWhile_eq_nil_iff.mpr back
  unfold parse
  rw [read]
  simp only [Option.bind_eq_bind, Option.bind_some, ended]
  rfl

end

end
end JsonText
