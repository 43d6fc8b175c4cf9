import QorechainRdk.Bech32.Go
import QorechainRdk.Bech32.Jvm
import Mathlib.Data.Bool.AllAny

/-!
# Round trips and the detection of errors

What is encoded is decoded in Go, and on the JVM as long as its arrays can be made. Behind the last `1` every change of
one letter is detected, but for that of a Kelvin sign, which both decoders take for a `k`.
-/

namespace QorechainRdk

open Js Bech32

def Go.Accepts (table : Go.CaseTable) (s : List Char) : Prop := ∃ r, Go.bech32Decode table s = .ok r

def Jvm.Accepts (locale : CaseMapping) (s : List Char) : Prop := ∃ r, Jvm.decode locale s = .ok r

section
variable {locale : CaseMapping} {table : Go.CaseTable} {hrp s front rest : List Char} {data : Bytes}

/-- A text in lower case is in one case, and is its own lower case. -/
theorem lower_text {code : Char → List Nat} (plain : ∀ c ∈ hrp, c.toNat < 128 ∧ c.isUpper = false) :
    locale.lower (text code hrp data) = text code hrp data := by
  have chars : ∀ c ∈ text code hrp data, c.toNat < 128 ∧ c.isUpper = false := by
    intro c member
    rcases List.mem_append.mp member with front | behind
    · exact plain c front
    · rcases List.mem_cons.mp behind with rfl | letter
      · exact ⟨by decide, by decide⟩
      · obtain ⟨ascii, -, -, alphabet⟩ := text_letter letter
        exact ⟨ascii, (ascii_facts ascii).2.2.1 (alphabet_facts alphabet).2.2.1⟩
  exact lower_of_no_upper (fun c member => (chars c member).1) fun c member => (chars c member).2

/-- A lower case that Go finds an address in. -/
def Go.Reads (t : List Char) : Prop := ∃ hrp data, hrp ≠ [] ∧ t = text Go.bytesOf hrp data

def Jvm.Reads (t : List Char) : Prop :=
  ∃ hrp data, (hrp ≠ [] ∧ t = text Jvm.unitsOf hrp data) ∧ Jvm.Fits hrp data

theorem Go.accepts_iff (table : Go.CaseTable) (s : List Char) : Go.Accepts table s ↔
    (Go.caseMapping table).OneCase s ∧ Go.Reads ((Go.caseMapping table).lower s) := by
  constructor
  · intro h
    obtain ⟨⟨hrp, data⟩, accepted⟩ := h
    obtain ⟨case, named, lowered⟩ := Go.bech32Decode_ok_iff.mp accepted
    exact ⟨case, hrp, data, named, lowered⟩
  · intro h
    obtain ⟨case, hrp, data, named, lowered⟩ := h
    exact ⟨(hrp, data), Go.bech32Decode_ok_iff.mpr ⟨case, named, lowered⟩⟩

theorem Jvm.accepts_iff (locale : CaseMapping) (s : List Char) : Jvm.Accepts locale s ↔
    locale.OneCase s ∧ Jvm.Reads (locale.lower s) := by
  constructor
  · intro h
    obtain ⟨⟨hrp, data⟩, accepted⟩ := h
    obtain ⟨case, found, fits⟩ := Jvm.decode_ok_iff.mp accepted
    exact ⟨case, hrp, data, found, fits⟩
  · intro h
    obtain ⟨case, hrp, data, found, fits⟩ := h
    exact ⟨(hrp, data), Jvm.decode_ok_iff.mpr ⟨case, found, fits⟩⟩

/-- Of ASCII, characters and units are counted alike. -/
theorem Jvm.fits_iff (ascii : ∀ c ∈ hrp, c.toNat < 128) : Jvm.Fits hrp data ↔ data.length < 2 ^ 28 ∧
    hrp.length * 2 + 1 + (data.length * 8 + 4) / 5 + 6 < 2 ^ 31 := by
  have length : (hrp.flatMap Jvm.unitsOf).length = hrp.length := by
    induction hrp with
    | nil => rfl
    | cons c cs ih =>
      rw [List.forall_mem_cons] at ascii
      rw [List.flatMap_cons, Jvm.unitsOf_leavesAscii.1 c ascii.1, List.singleton_append, List.length_cons, ih ascii.2,
        List.length_cons]
  rw [Jvm.Fits, length]

end

/-! ### Both decoders -/

/-- Lower-case ASCII in front of any bytes comes back in Go always, and on the JVM if the arrays can be made; the
detection of a changed letter fails for both decoders exactly if there is a character beyond ASCII behind the last
`1`. -/
theorem bech32_exact (table : Go.CaseTable) (locale : CaseMapping) (hrp : List Char) (bytes : Bytes)
    (front data : List Char) :
    (hrp ≠ [] → (∀ c ∈ hrp, c.toNat < 128 ∧ c.isUpper = false) →
      ∃ s, Go.bech32Encode hrp bytes = .ok s ∧ Go.bech32Decode table s = .ok (hrp, bytes)) ∧
    ('1' ∉ data → Go.Accepts table (front ++ '1' :: data) →
      ((Go.caseMapping table).Detects (Go.Accepts table) front data ↔ ∀ c ∈ data, c.toNat < 128)) ∧
    (hrp ≠ [] → (∀ c ∈ hrp, c.toNat < 128 ∧ c.isUpper = false) →
      ((∃ s, Jvm.encode hrp bytes = .ok s ∧ Jvm.decode locale s = .ok (hrp, bytes)) ↔ bytes.length < 2 ^ 28 ∧
        hrp.length * 2 + 1 + (bytes.length * 8 + 4) / 5 + 6 < 2 ^ 31)) ∧
    ('1' ∉ data → locale.Settled front → Jvm.Accepts locale (front ++ '1' :: data) →
      (locale.Detects (Jvm.Accepts locale) front data ↔ ∀ c ∈ data, c.toNat < 128)) := by
  refine ⟨?_, ?_, ?_, ?_⟩
  · intro named plain
    have lowered : (Go.caseMapping table).lower (text Go.bytesOf hrp bytes) = text Go.bytesOf hrp bytes :=
      lower_text plain
    exact ⟨_, Go.bech32Encode_eq hrp bytes, Go.bech32Decode_ok_iff.mpr ⟨Or.inl lowered.symm, named, lowered⟩⟩
  · intro absent accepted
    have reads : ∀ t, Go.Reads t → ∃ hrp bytes, t = text Go.bytesOf hrp bytes := by
      intro t h
      obtain ⟨hrp, bytes, -, whole⟩ := h
      exact ⟨hrp, bytes, whole⟩
    exact detects_iff (Go.accepts_iff table) reads (Go.settled front) absent accepted
  · intro named plain
    have lowered : locale.lower (text Jvm.unitsOf hrp bytes) = text Jvm.unitsOf hrp bytes := lower_text plain
    rw [← Jvm.fits_iff fun c member => (plain c member).1]
    constructor
    · intro h
      obtain ⟨s, encoded, -⟩ := h
      exact (Jvm.encode_ok_iff.mp encoded).2
    · intro fits
      exact ⟨_, Jvm.encode_ok_iff.mpr ⟨rfl, fits⟩,
        Jvm.decode_ok_iff.mpr ⟨Or.inl lowered.symm, ⟨named, lowered⟩, fits⟩⟩
  · intro absent settled accepted
    have reads : ∀ t, Jvm.Reads t → ∃ hrp bytes, t = text Jvm.unitsOf hrp bytes := by
      intro t h
      obtain ⟨hrp, bytes, ⟨-, whole⟩, -⟩ := h
      exact ⟨hrp, bytes, whole⟩
    exact detects_iff (Jvm.accepts_iff locale) reads settled absent accepted

/-- The characters beyond ASCII that a sample uses have no other case, but for the Kelvin sign. -/
def Go.sampleTable : Go.CaseTable where
  lower := fun c => if c.toNat < 128 then KELVIN else c
  upper := fun c => if c.toNat < 128 then KELVIN else c
  lower_beyond := by
    intro c
    split
    · decide
    · omega
  upper_beyond := by
    intro c
    split
    · decide
    · omega
  upper_kelvin := by decide

theorem sample_accepted :
    Go.bech32Decode Go.sampleTable ("QOR".toList ++ '1' :: "KSFA8VYX".toList) = .ok ("qor".toList, [180]) ∧
    Jvm.decode (Go.caseMapping Go.sampleTable) ("QOR".toList ++ '1' :: "KSFA8VYX".toList) =
      .ok ("qor".toList, [180]) := by
  decide +kernel

theorem bech32_exact_sample :
    (∃ s, Go.bech32Encode "qor".toList [180] = .ok s ∧
      Go.bech32Decode Go.sampleTable s = .ok ("qor".toList, [180])) ∧
    (Go.caseMapping Go.sampleTable).Detects (Go.Accepts Go.sampleTable) "QOR".toList "KSFA8VYX".toList ∧
    (∃ s, Jvm.encode "qor".toList [180] = .ok s ∧
      Jvm.decode (Go.caseMapping Go.sampleTable) s = .ok ("qor".toList, [180])) ∧
    (Go.caseMapping Go.sampleTable).Detects (Jvm.Accepts (Go.caseMapping Go.sampleTable)) "QOR".toList
      "KSFA8VYX".toList := by
  obtain ⟨go_round, go_detects, jvm_round, jvm_detects⟩ :=
    bech32_exact Go.sampleTable (Go.caseMapping Go.sampleTable) "qor".toList [180] "QOR".toList "KSFA8VYX".toList
  have plain : ∀ c ∈ "qor".toList, c.toNat < 128 ∧ c.isUpper = false := List.all_iff_forall_prop.mp (by decide)
  have ascii : ∀ c ∈ "KSFA8VYX".toList, c.toNat < 128 := List.all_iff_forall_prop.mp (by decide)
  refine ⟨?_, ?_, ?_, ?_⟩
  · exact go_round (by decide) plain
  · exact (go_detects (by decide) ⟨_, sample_accepted.1⟩).mpr ascii
  · exact (jvm_round (by decide) plain).mpr (by decide)
  · exact (jvm_detects (by decide) (Go.settled _) ⟨_, sample_accepted.2⟩).mpr ascii

/-- The address with a Kelvin sign for its `K` is accepted as well, so that the change into it goes unnoticed; and an
array of 2^28 bytes is not encoded on the JVM. -/
theorem kelvin_undetected :
    (Go.bech32Decode Go.sampleTable ("QOR".toList ++ '1' :: "\u212ASFA8VYX".toList) = .ok ("qor".toList, [180]) ∧
      ¬ (Go.caseMapping Go.sampleTable).Detects (Go.Accepts Go.sampleTable) "QOR".toList
        "\u212ASFA8VYX".toList) ∧
    (Jvm.decode (Go.caseMapping Go.sampleTable) ("QOR".toList ++ '1' :: "\u212ASFA8VYX".toList) =
        .ok ("qor".toList, [180]) ∧
      ¬ (Go.caseMapping Go.sampleTable).Detects (Jvm.Accepts (Go.caseMapping Go.sampleTable)) "QOR".toList
        "\u212ASFA8VYX".toList) ∧
    ∀ s, Jvm.encode "qor".toList (List.replicate (2 ^ 28) 0) ≠ .ok s := by
  have same : (Go.caseMapping Go.sampleTable).SameCase ("QOR".toList ++ '1' :: "\u212ASFA8VYX".toList) 'K' :=
    Or.inr ⟨by decide +kernel, by decide +kernel⟩
  refine ⟨⟨by decide +kernel, ?_⟩, ⟨by decide +kernel, ?_⟩, ?_⟩
  · intro detects
    exact detects [] KELVIN "SFA8VYX".toList 'K' (by decide) (by decide) same ⟨_, sample_accepted.1⟩
  · intro detects
    exact detects [] KELVIN "SFA8VYX".toList 'K' (by decide) (by decide) same ⟨_, sample_accepted.2⟩
  · intro s encoded
    have fits := (Jvm.encode_ok_iff.mp encoded).2.1
    rw [List.length_replicate] at fits
    exact absurd fits (Nat.lt_irrefl _)

end QorechainRdk
