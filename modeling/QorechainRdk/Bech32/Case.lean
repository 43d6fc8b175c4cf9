import QorechainRdk.Bech32.Text

/-!
# Upper and lower case of an address

Both decoders fold the case of the whole string with the mappings of the language before they look at its characters.
What of ASCII and of the detection of errors is left then.
-/

namespace QorechainRdk

namespace Bech32

/-- A letter beyond ASCII whose lower case is `k`. -/
def KELVIN : Char := '\u212A'

def Near (c : Char) : Prop := c.toNat < 128 ∨ c = KELVIN

def lowerNear (lowerI c : Char) : Char := if c = 'I' then lowerI else if c = KELVIN then 'k' else c.toLower

def upperNear (upperI c : Char) : Char := if c = 'i' then upperI else c.toUpper

/-- The mappings of strings to lower and to upper case. Languages differ in the case of `i`; of the characters beyond
ASCII only the Kelvin sign becomes a letter of the alphabet; a digit is its own case and no other character's. -/
structure CaseMapping where
  lower : List Char → List Char
  upper : List Char → List Char
  lowerI : Char
  upperI : Char
  lowerI_eq : lowerI = 'i' ∨ lowerI = '\u0131'
  upperI_eq : upperI = 'I' ∨ upperI = '\u0130'
  lower_near : ∀ {cs}, (∀ c ∈ cs, Near c) → lower cs = cs.map (lowerNear lowerI)
  upper_near : ∀ {cs}, (∀ c ∈ cs, Near c) → upper cs = cs.map (upperNear upperI)
  lower_behind : ∀ front {rest}, '1' ∉ rest → ∃ front' rest',
    lower (front ++ '1' :: rest) = front' ++ '1' :: rest' ∧ '1' ∉ rest' ∧
      ∀ c ∈ rest, ¬ Near c → ∃ x ∈ rest', 128 ≤ x.toNat ∨ x = 'i'
  upper_behind : ∀ front {rest}, '1' ∉ rest →
    upper (front ++ '1' :: rest) = upper front ++ '1' :: upper rest ∧ '1' ∉ upper rest

/-- The lower case of what is before a `1` does not depend on what is behind it. -/
def CaseMapping.Settled (m : CaseMapping) (front : List Char) : Prop :=
  ∃ hrp, ∀ {rest}, (∀ c ∈ rest, Near c) → '1' ∉ rest →
    m.lower (front ++ '1' :: rest) = hrp ++ '1' :: rest.map (lowerNear m.lowerI)

/-- One case throughout, as the decoders test it. -/
def CaseMapping.OneCase (m : CaseMapping) (s : List Char) : Prop := s = m.lower s ∨ s = m.upper s

/-- A letter of the alphabet in the case of a string. -/
def CaseMapping.SameCase (m : CaseMapping) (s : List Char) (d : Char) : Prop :=
  (s = m.lower s ∧ d ∈ CHARSET) ∨ (s = m.upper s ∧ d ∈ CHARSET.map Char.toUpper)

/-- Any change of a single character behind the last `1` to another letter in the same case is refused. -/
def CaseMapping.Detects (m : CaseMapping) (Accepts : List Char → Prop) (front data : List Char) : Prop :=
  ∀ before c after d, data = before ++ c :: after → d ≠ c → m.SameCase (front ++ '1' :: data) d →
    ¬ Accepts (front ++ '1' :: (before ++ d :: after))

/-! ### Letters -/

theorem ascii_table : ∀ n : Fin 128,
    ((Char.ofNat n).toLower = '1' ∨ (Char.ofNat n).toUpper = '1' → Char.ofNat n = '1') ∧
    ((Char.ofNat n).isUpper = false → (Char.ofNat n).toLower = Char.ofNat n ∧ Char.ofNat n ≠ 'I') ∧
    ((Char.ofNat n).toLower = Char.ofNat n → (Char.ofNat n).isUpper = false) ∧
    ((Char.ofNat n).toUpper = Char.ofNat n →
      (Char.ofNat n).isLower = false ∧ (Char.ofNat n).toLower.toUpper = Char.ofNat n) := by
  decide +kernel

/-- No letter of the alphabet has its case in question. -/
theorem alphabet_table : CHARSET.all (fun c => decide (c.toNat < 128 ∧ c ≠ 'I' ∧ c.toLower = c ∧ c ≠ '1' ∧
    c.toUpper.toNat < 128 ∧ c.toUpper ≠ 'I' ∧ c.toUpper.toUpper = c.toUpper ∧ c.toUpper.toLower = c ∧
    c.toUpper ≠ '1' ∧ c.toUpper ≠ 'i')) = true := by
  decide +kernel

section
variable {c d : Char}

theorem ascii_facts (ascii : c.toNat < 128) :
    (c.toLower = '1' ∨ c.toUpper = '1' → c = '1') ∧ (c.isUpper = false → c.toLower = c ∧ c ≠ 'I') ∧
    (c.toLower = c → c.isUpper = false) ∧ (c.toUpper = c → c.isLower = false ∧ c.toLower.toUpper = c) := by
  have facts := ascii_table ⟨c.toNat, ascii⟩
  simp only [Char.ofNat_toNat] at facts
  exact facts

theorem alphabet_facts (letter : c ∈ CHARSET) : c.toNat < 128 ∧ c ≠ 'I' ∧ c.toLower = c ∧ c ≠ '1' ∧
    c.toUpper.toNat < 128 ∧ c.toUpper ≠ 'I' ∧ c.toUpper.toUpper = c.toUpper ∧ c.toUpper.toLower = c ∧
    c.toUpper ≠ '1' ∧ c.toUpper ≠ 'i' :=
  of_decide_eq_true (List.all_eq_true.mp alphabet_table c letter)

theorem ne_kelvin (ascii : c.toNat < 128) : c ≠ KELVIN := by
  rintro rfl
  exact absurd ascii (by decide)

theorem lowerNear_ascii {i : Char} (ascii : c.toNat < 128) (other : c ≠ 'I') : lowerNear i c = c.toLower := by
  unfold lowerNear
  rw [if_neg other, if_neg (ne_kelvin ascii)]

theorem lowerNear_letter {i : Char} (letter : c ∈ CHARSET) : lowerNear i c = c := by
  have facts := alphabet_facts letter
  rw [lowerNear_ascii facts.1 facts.2.1, facts.2.2.1]

end

section
variable {m : CaseMapping} {cs s front data : List Char} {c d : Char}

/-- In no language the case of `i` is a letter of the alphabet, or the same as that of another language. -/
theorem lowerI_facts (m : CaseMapping) : m.lowerI ∉ CHARSET ∧ m.lowerI ≠ 'I' ∧ m.lowerI ≠ '1' := by
  rcases m.lowerI_eq with plain | dotless
  · rw [plain]
    decide
  · rw [dotless]
    decide

theorem upperI_ne (m : CaseMapping) : m.upperI ≠ 'i' := by
  rcases m.upperI_eq with plain | dotted
  · rw [plain]
    decide
  · rw [dotted]
    decide

/-- Without capital letters a string of ASCII is its own lower case. -/
theorem lower_of_no_upper (ascii : ∀ c ∈ cs, c.toNat < 128) (no_upper : ∀ c ∈ cs, c.isUpper = false) :
    m.lower cs = cs := by
  rw [m.lower_near fun c member => Or.inl (ascii c member)]
  refine (List.map_congr_left fun c member => ?_).trans (List.map_id cs)
  obtain ⟨same, other⟩ := (ascii_facts (ascii c member)).2.1 (no_upper c member)
  rw [lowerNear_ascii (ascii c member) other, same]
  rfl

/-! ### ASCII strings of one case -/

/-- Visible ASCII that does not mix cases: the characters that every decoder takes. -/
def BipChars (s : List Char) : Prop :=
  (∀ c ∈ s, 33 ≤ c.toNat ∧ c.toNat ≤ 126) ∧ ¬ ((∃ c ∈ s, c.isUpper = true) ∧ ∃ c ∈ s, c.isLower = true)

theorem no_upper_of_lower (ascii : ∀ c ∈ s, c.toNat < 128) (same : s = m.lower s) (member : c ∈ s) :
    c.isUpper = false := by
  rw [m.lower_near fun c inside => Or.inl (ascii c inside)] at same
  have fixed : c = lowerNear m.lowerI c := (List.map_id s).trans same |> List.map_inj_left.mp |> (· c member)
  have other : c ≠ 'I' := by
    rintro rfl
    rw [lowerNear, if_pos rfl] at fixed
    exact (lowerI_facts m).2.1 fixed.symm
  rw [lowerNear_ascii (ascii c member) other] at fixed
  exact (ascii_facts (ascii c member)).2.2.1 fixed.symm

theorem no_lower_of_upper (ascii : ∀ c ∈ s, c.toNat < 128) (same : s = m.upper s) (member : c ∈ s) :
    c.isLower = false := by
  rw [m.upper_near fun c inside => Or.inl (ascii c inside)] at same
  have fixed : c = upperNear m.upperI c := (List.map_id s).trans same |> List.map_inj_left.mp |> (· c member)
  unfold upperNear at fixed
  split at fixed
  · rename_i small
    exact absurd (fixed.symm.trans small) (upperI_ne m)
  · exact ((ascii_facts (ascii c member)).2.2.2 fixed.symm).1

theorem bipChars_iff (case : m.OneCase s) : BipChars s ↔ ∀ c ∈ s, 33 ≤ c.toNat ∧ c.toNat ≤ 126 := by
  constructor
  · exact And.left
  · intro visible
    have ascii : ∀ c ∈ s, c.toNat < 128 := fun c member => Nat.lt_of_le_of_lt (visible c member).2 (by decide)
    refine ⟨visible, ?_⟩
    rintro ⟨⟨c, member, upper⟩, d, member', lower⟩
    rcases case with same | same
    · rw [no_upper_of_lower ascii same member] at upper
      cases upper
    · rw [no_lower_of_upper ascii same member'] at lower
      cases lower

/-- The lower case of ASCII is that of its letters, but perhaps for `I`. -/
theorem lower_ascii_iff (ascii : ∀ c ∈ s, c.toNat < 128) :
    m.lower s = s.map Char.toLower ↔ ('I' ∈ s → m.lowerI = 'i') := by
  rw [m.lower_near fun c member => Or.inl (ascii c member), List.map_inj_left]
  constructor
  · intro same member
    have here := same 'I' member
    rwa [lowerNear, if_pos rfl] at here
  · intro plain c member
    by_cases capital : c = 'I'
    · rw [capital] at member ⊢
      rw [lowerNear, if_pos rfl, plain member]
      decide
    · exact lowerNear_ascii (ascii c member) capital

end

/-! ### The detection of errors -/

section
variable {m : CaseMapping} {code : Char → List Nat} {Accepts Read : List Char → Prop}
  {front data before after hrp : List Char} {c d : Char}

/-- Behind the last `1` an accepted string has ASCII and Kelvin signs only. -/
theorem near_of_accepted (absent : '1' ∉ data) {bytes : Bytes}
    (read : m.lower (front ++ '1' :: data) = text code hrp bytes) : ∀ c ∈ data, Near c := by
  obtain ⟨front', rest', lowered, absent', beyond⟩ := m.lower_behind front absent
  rw [lowered] at read
  obtain ⟨-, letters⟩ := (eq_text_iff absent').mp read
  intro c member
  by_contra other
  obtain ⟨x, inside, wrong⟩ := beyond c member other
  rw [letters] at inside
  obtain ⟨ascii, -, plain, -⟩ := text_letter inside
  rcases wrong with large | dotted
  · exact absurd ascii (Nat.not_lt.mpr large)
  · exact plain dotted

/-- Two texts that differ in one letter have that letter in common. -/
theorem letter_eq {xs ys : List Char} {x y : Char} {bytes bytes' : Bytes}
    (first : xs ++ x :: ys = (textGroups code hrp bytes).map charOf)
    (second : xs ++ y :: ys = (textGroups code hrp bytes').map charOf) : x = y := by
  obtain ⟨us, rest, split, rfl, tail⟩ := List.map_eq_append_iff.mp first.symm
  obtain ⟨u, ws, rfl, rfl, rfl⟩ := List.map_eq_cons_iff.mp tail
  obtain ⟨us', rest', split', same, tail'⟩ := List.map_eq_append_iff.mp second.symm
  obtain ⟨u', ws', rfl, rfl, same'⟩ := List.map_eq_cons_iff.mp tail'
  have small := textGroups_small code hrp bytes
  have small' := textGroups_small code hrp bytes'
  have checked := textGroups_checked code hrp bytes
  have checked' := textGroups_checked code hrp bytes'
  rw [split] at small checked
  rw [split'] at small' checked'
  simp only [List.forall_mem_append, List.forall_mem_cons] at small small'
  obtain rfl := map_charOf_inj small'.1 small.1 same
  obtain rfl := map_charOf_inj small'.2.2 small.2.2 same'
  rw [verifyChecksum_substitute small.1 small.2.1 small'.2.1 small.2.2 checked checked']

theorem one_not_mem_lower (near : ∀ c ∈ data, Near c) (absent : '1' ∉ data) :
    '1' ∉ data.map (lowerNear m.lowerI) := by
  intro member
  obtain ⟨c, inside, one⟩ := List.mem_map.mp member
  unfold lowerNear at one
  split at one
  · exact (lowerI_facts m).2.2 one
  · split at one
    · exact absurd one (by decide)
    · rename_i other
      have ascii := (near c inside).resolve_right other
      rw [(ascii_facts ascii).1 (Or.inl one)] at inside
      exact absent inside

/-- Letters in the case of a string with one lower case are the same. -/
theorem eq_of_lower (near : ∀ c ∈ data, Near c) (absent : '1' ∉ data) (settled : m.Settled front)
    (member : c ∈ data) (ascii : c.toNat < 128) (letter : lowerNear m.lowerI c ∈ CHARSET)
    (same : m.SameCase (front ++ '1' :: data) d) (lowered : lowerNear m.lowerI c = lowerNear m.lowerI d) :
    d = c := by
  have notI : c ≠ 'I' := by
    rintro rfl
    rw [lowerNear, if_pos rfl] at letter
    exact (lowerI_facts m).1 letter
  rcases same with ⟨lower, alphabet⟩ | ⟨upper, alphabet⟩
  · obtain ⟨hrp, split⟩ := settled
    rw [split near absent] at lower
    obtain ⟨-, whole⟩ := split_inj absent (one_not_mem_lower near absent) lower
    have fixed : c = lowerNear m.lowerI c := List.map_inj_left.mp ((List.map_id data).trans whole) c member
    rw [lowerNear_letter alphabet] at lowered
    rw [fixed, lowered]
  · obtain ⟨split, absent'⟩ := m.upper_behind front absent
    rw [split] at upper
    obtain ⟨-, whole⟩ := split_inj absent absent' upper
    rw [m.upper_near near] at whole
    have fixed : c = upperNear m.upperI c := List.map_inj_left.mp ((List.map_id data).trans whole) c member
    obtain ⟨e, inside, rfl⟩ := List.mem_map.mp alphabet
    obtain ⟨-, -, -, -, small, other, -, back, -, -⟩ := alphabet_facts inside
    rw [lowerNear_ascii ascii notI, lowerNear_ascii small other, back] at lowered
    have capital : c.toUpper = c := by
      unfold upperNear at fixed
      split at fixed
      · rename_i small
        exact absurd (fixed.symm.trans small) (upperI_ne m)
      · exact fixed.symm
    rw [← lowered, ((ascii_facts ascii).2.2.2 capital).2]

theorem sameCase_ascii (same : m.SameCase (front ++ '1' :: data) d) : d.toNat < 128 ∧ d ≠ '1' := by
  rcases same with ⟨-, alphabet⟩ | ⟨-, alphabet⟩
  · have facts := alphabet_facts alphabet
    exact ⟨facts.1, facts.2.2.2.1⟩
  · obtain ⟨e, inside, rfl⟩ := List.mem_map.mp alphabet
    obtain ⟨-, -, -, -, small, -, -, -, other, -⟩ := alphabet_facts inside
    exact ⟨small, other⟩

/-- The capital `K` in place of a Kelvin sign leaves an accepted string accepted. -/
theorem kelvin_unnoticed (accepts_iff : ∀ s, Accepts s ↔ m.OneCase s ∧ Read (m.lower s)) (settled : m.Settled front)
    (near : ∀ c ∈ before ++ KELVIN :: after, Near c) (absent : '1' ∉ before ++ KELVIN :: after)
    (accepted : Accepts (front ++ '1' :: (before ++ KELVIN :: after))) :
    m.SameCase (front ++ '1' :: (before ++ KELVIN :: after)) 'K' ∧
      Accepts (front ++ '1' :: (before ++ 'K' :: after)) := by
  obtain ⟨case, read⟩ := (accepts_iff _).mp accepted
  obtain ⟨hrp, split⟩ := settled
  have near' : ∀ c ∈ before ++ 'K' :: after, Near c := by
    simp only [List.forall_mem_append, List.forall_mem_cons] at near ⊢
    exact ⟨near.1, Or.inl (by decide), near.2.2⟩
  have absent' : '1' ∉ before ++ 'K' :: after := by
    simp only [List.mem_append, List.mem_cons, not_or] at absent ⊢
    exact ⟨absent.1, by decide, absent.2.2⟩
  have lowered : m.lower (front ++ '1' :: (before ++ 'K' :: after)) =
      m.lower (front ++ '1' :: (before ++ KELVIN :: after)) := by
    have letter : lowerNear m.lowerI 'K' = lowerNear m.lowerI KELVIN := by
      rw [lowerNear, if_neg (by decide), if_neg (by decide), lowerNear, if_neg (by decide), if_pos rfl]
      decide
    rw [split near absent, split near' absent', List.map_append, List.map_append, List.map_cons, List.map_cons, letter]
  -- Its own lower case has no Kelvin sign.
  have upper : front ++ '1' :: (before ++ KELVIN :: after) = m.upper (front ++ '1' :: (before ++ KELVIN :: after)) := by
    rcases case with lower | upper
    · rw [split near absent] at lower
      obtain ⟨-, whole⟩ := split_inj absent (one_not_mem_lower near absent) lower
      have fixed : KELVIN = lowerNear m.lowerI KELVIN :=
        List.map_inj_left.mp ((List.map_id _).trans whole) KELVIN (by simp)
      rw [lowerNear, if_neg (by decide), if_pos rfl] at fixed
      exact absurd fixed (by decide)
    · exact upper
  have upper' : front ++ '1' :: (before ++ 'K' :: after) = m.upper (front ++ '1' :: (before ++ 'K' :: after)) := by
    obtain ⟨parts, none⟩ := m.upper_behind front absent
    obtain ⟨parts', -⟩ := m.upper_behind front absent'
    rw [parts] at upper
    obtain ⟨front_upper, whole⟩ := split_inj absent none upper
    rw [m.upper_near near, List.map_append, List.map_cons] at whole
    have letter : upperNear m.upperI KELVIN = KELVIN := by
      rw [upperNear, if_neg (by decide)]
      decide
    have letter' : upperNear m.upperI 'K' = 'K' := by
      rw [upperNear, if_neg (by decide)]
      decide
    rw [letter] at whole
    obtain ⟨first, second⟩ := List.append_inj whole (by rw [List.length_map])
    rw [parts', ← front_upper, m.upper_near near', List.map_append, List.map_cons, letter', ← first,
      ← (List.cons.inj second).2]
  refine ⟨Or.inr ⟨upper, by decide⟩, (accepts_iff _).mpr ⟨Or.inr upper', ?_⟩⟩
  rw [lowered]
  exact read

/-- Every change of one character is detected exactly if what is behind the last `1` is ASCII. -/
theorem detects_iff (accepts_iff : ∀ s, Accepts s ↔ m.OneCase s ∧ Read (m.lower s))
    (reads : ∀ t, Read t → ∃ hrp bytes, t = text code hrp bytes) (settled : m.Settled front) (absent : '1' ∉ data)
    (accepted : Accepts (front ++ '1' :: data)) :
    m.Detects Accepts front data ↔ ∀ c ∈ data, c.toNat < 128 := by
  obtain ⟨case, read⟩ := (accepts_iff _).mp accepted
  obtain ⟨hrp, bytes, whole⟩ := reads _ read
  have near := near_of_accepted absent whole
  constructor
  · intro detects c member
    rcases near c member with ascii | rfl
    · exact ascii
    · obtain ⟨before, after, rfl⟩ := List.append_of_mem member
      obtain ⟨same, unnoticed⟩ := kelvin_unnoticed accepts_iff settled near absent accepted
      exact absurd unnoticed (detects before KELVIN after 'K' rfl (by decide) same)
  · rintro ascii before c after d rfl differs same accepted'
    have member : c ∈ before ++ c :: after := by simp
    obtain ⟨small, other⟩ := sameCase_ascii same
    have near' : ∀ x ∈ before ++ d :: after, Near x := by
      simp only [List.forall_mem_append, List.forall_mem_cons] at near ⊢
      exact ⟨near.1, Or.inl small, near.2.2⟩
    have absent' : '1' ∉ before ++ d :: after := by
      simp only [List.mem_append, List.mem_cons, not_or] at absent ⊢
      exact ⟨absent.1, Ne.symm other, absent.2.2⟩
    obtain ⟨-, read'⟩ := (accepts_iff _).mp accepted'
    obtain ⟨hrp', bytes', whole'⟩ := reads _ read'
    have settled' := settled
    obtain ⟨part, split⟩ := settled'
    rw [split near absent] at whole
    rw [split near' absent'] at whole'
    obtain ⟨rfl, letters⟩ := (eq_text_iff (one_not_mem_lower near absent)).mp whole
    obtain ⟨rfl, letters'⟩ := (eq_text_iff (one_not_mem_lower near' absent')).mp whole'
    rw [List.map_append, List.map_cons] at letters letters'
    have lowered := letter_eq letters letters'
    have alphabet : lowerNear m.lowerI c ∈ CHARSET := by
      have inside : lowerNear m.lowerI c ∈ (textGroups code part bytes).map charOf := by
        rw [← letters]
        simp
      exact (text_letter inside).2.2.2
    exact differs (eq_of_lower near absent settled member (ascii c member) alphabet same lowered)

end
end Bech32
end QorechainRdk
