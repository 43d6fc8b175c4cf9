import QorechainRdk.Bech32.Detection
import QorechainRdk.Tx.Codecs
import QorechainRdk.Utils.DenomSdks

/-!
# Canonical addresses

What is accepted is what its parts are encoded to, in one case, if it is visible ASCII and the locale has the usual
case of `I`. `WithdrawalErrors` of `rules.go` passes what `bech32Decode` accepts.
-/

namespace QorechainRdk

open Js Bech32

namespace Bech32

/-- The characters that BIP-173 takes: visible ASCII of one case, and the alphabet behind the last `1`. -/
def BipText (s : List Char) : Prop :=
  BipChars s ∧ ∀ front data, s = front ++ '1' :: data → '1' ∉ data → ∀ c ∈ data, c.toLower ∈ CHARSET

section
variable {m : CaseMapping} {code : Char → List Nat} {s front data hrp : List Char} {bytes : Bytes}

/-- Behind the last `1` of ASCII there are letters, if its lower case is a text. -/
theorem letters_of_text (ascii : ∀ c ∈ front ++ '1' :: data, c.toNat < 128) (absent : '1' ∉ data)
    (whole : m.lower (front ++ '1' :: data) = text code hrp bytes) : ∀ c ∈ data, c.toLower ∈ CHARSET := by
  intro c member
  have near : ∀ c ∈ data, Near c := fun c member => Or.inl (ascii c (by simp [member]))
  rw [m.lower_near fun c member => Or.inl (ascii c member), List.map_append, List.map_cons] at whole
  have one : lowerNear m.lowerI '1' = '1' := by
    rw [lowerNear, if_neg (by decide), if_neg (by decide)]
    decide
  rw [one] at whole
  obtain ⟨-, letters⟩ := (eq_text_iff (one_not_mem_lower near absent)).mp whole
  have inside : lowerNear m.lowerI c ∈ (textGroups code hrp bytes).map charOf := by
    rw [← letters]
    exact List.mem_map_of_mem member
  have alphabet := (text_letter inside).2.2.2
  have other : c ≠ 'I' := by
    rintro rfl
    rw [lowerNear, if_pos rfl] at alphabet
    exact (lowerI_facts m).1 alphabet
  rwa [lowerNear_ascii (ascii c (by simp [member])) other] at alphabet

theorem bipText_iff (case : m.OneCase s) (whole : m.lower s = text code hrp bytes) :
    BipText s ↔ ∀ c ∈ s, 33 ≤ c.toNat ∧ c.toNat ≤ 126 := by
  rw [BipText, bipChars_iff case]
  constructor
  · exact And.left
  · intro visible
    refine ⟨visible, ?_⟩
    rintro front data rfl absent
    have ascii : ∀ c ∈ front ++ '1' :: data, c.toNat < 128 :=
      fun c member => Nat.lt_of_le_of_lt (visible c member).2 (by decide)
    exact letters_of_text ascii absent whole

/-- A string of one case is all that canonical addresses are exactly if it is visible ASCII, its `I`s having the usual
lower case. -/
theorem canonical_iff (case : m.OneCase s) (whole : m.lower s = text code hrp bytes) :
    ((∀ c ∈ s, c.toNat < 128) ∧ m.lower s = s.map Char.toLower ∧ BipText s) ↔
      (∀ c ∈ s, 33 ≤ c.toNat ∧ c.toNat ≤ 126) ∧ ('I' ∈ s → m.lowerI = 'i') := by
  rw [bipText_iff case whole]
  constructor
  · intro h
    obtain ⟨ascii, same, visible⟩ := h
    exact ⟨visible, (lower_ascii_iff ascii).mp same⟩
  · intro h
    obtain ⟨visible, plain⟩ := h
    have ascii : ∀ c ∈ s, c.toNat < 128 := fun c member => Nat.lt_of_le_of_lt (visible c member).2 (by decide)
    exact ⟨ascii, (lower_ascii_iff ascii).mpr plain, visible⟩

end
end Bech32

/-! ### Withdrawals -/

namespace Go

/-- `%q` of a character: what is not printable beyond ASCII is escaped by its number. -/
def quoteRune (isPrint : Char → Bool) (c : Char) : List Char :=
  let n := c.toNat
  let hex := fun i => hexDigit (n / 16 ^ i % 16)
  if n < 128 ∨ isPrint c = true then quoteChar c
  else if n < 0x10000 then ['\\', 'u', hex 3, hex 2, hex 1, hex 0]
  else ['\\', 'U', hex 7, hex 6, hex 5, hex 4, hex 3, hex 2, hex 1, hex 0]

def quoteAny (isPrint : Char → Bool) (s : String) : String :=
  String.ofList ('"' :: s.toList.flatMap (quoteRune isPrint) ++ ['"'])

def siblingErrors (proof : List Bytes) : List String :=
  proof.zipIdx.flatMap fun (sib, i) =>
    if sib.length ≠ 32 then [s!"proof level {i} is {sib.length} bytes, want 32"] else []

def withdrawalErrors (table : CaseTable) (isPrint : Char → Bool) (m : MsgExecuteWithdrawal) : List String :=
  let quote := quoteAny isPrint
  (if ¬ (bech32Decode table m.submitter.toList).isOk then [s!"invalid submitter address {quote m.submitter}"]
    else []) ++
  (if m.rollupId = "" then ["rollup_id cannot be empty"] else []) ++
  (if ¬ (bech32Decode table m.recipient.toList).isOk then [s!"invalid recipient address {quote m.recipient}"]
    else []) ++
  (if m.denom ≠ ROLLUP_ESCROW_DENOM then
    [s!"denom {quote m.denom}: rollup escrow is held in {ROLLUP_ESCROW_DENOM} only"] else []) ++
  (if m.amount ≤ 0 then ["amount must be positive"] else []) ++
  (if MAX_WITHDRAWAL_PROOF_DEPTH < m.proof.length then
    [s!"proof has {m.proof.length} levels, at most {MAX_WITHDRAWAL_PROOF_DEPTH}"] else []) ++
  siblingErrors m.proof

section
variable {table : CaseTable} {isPrint : Char → Bool} {m : MsgExecuteWithdrawal}

theorem accepts_of_isOk {s : List Char} (ok : (bech32Decode table s).isOk = true) : Accepts table s := by
  unfold Accepts
  cases result : bech32Decode table s with
  | ok r => exact ⟨r, rfl⟩
  | error e =>
    rw [result] at ok
    cases ok

/-- Both addresses of a withdrawal without errors are accepted. -/
theorem accepts_of_withdrawal (h : withdrawalErrors table isPrint m = []) :
    Accepts table m.submitter.toList ∧ Accepts table m.recipient.toList := by
  unfold withdrawalErrors at h
  simp only [List.append_eq_nil_iff] at h
  obtain ⟨⟨⟨⟨⟨⟨submitter, -⟩, recipient⟩, -⟩, -⟩, -⟩, -⟩ := h
  constructor
  · split at submitter
    · cases submitter
    · rename_i ok
      exact accepts_of_isOk (not_not.mp ok)
  · split at recipient
    · cases recipient
    · rename_i ok
      exact accepts_of_isOk (not_not.mp ok)

theorem bipText_of_accepted {s : List Char} (accepted : Accepts table s) :
    BipText s ↔ ∀ c ∈ s, 33 ≤ c.toNat ∧ c.toNat ≤ 126 := by
  obtain ⟨case, hrp, data, -, whole⟩ := (accepts_iff table s).mp accepted
  exact bipText_iff case whole

end
end Go

/-! ### Both decoders -/

/-- An accepted string is ASCII, is encoded again to its lower case and has the characters of BIP-173 exactly if it is
visible ASCII, on the JVM with the usual case of its `I`s; and a withdrawal without errors has addresses in these
characters exactly if both are visible ASCII. -/
theorem canonical_exact (table : Go.CaseTable) (locale : CaseMapping) (isPrint : Char → Bool) (s hrp : List Char)
    (data : Bytes) (m : MsgExecuteWithdrawal) :
    (Go.bech32Decode table s = .ok (hrp, data) →
      (((∀ c ∈ s, c.toNat < 128) ∧ Go.bech32Encode hrp data = .ok (s.map Char.toLower) ∧ BipText s) ↔
        ∀ c ∈ s, 33 ≤ c.toNat ∧ c.toNat ≤ 126)) ∧
    (Jvm.decode locale s = .ok (hrp, data) →
      (((∀ c ∈ s, c.toNat < 128) ∧ Jvm.encode hrp data = .ok (s.map Char.toLower) ∧ BipText s) ↔
        (∀ c ∈ s, 33 ≤ c.toNat ∧ c.toNat ≤ 126) ∧ ('I' ∈ s → locale.lowerI = 'i'))) ∧
    (Go.withdrawalErrors table isPrint m = [] →
      (BipText m.submitter.toList ∧ BipText m.recipient.toList ↔
        (∀ c ∈ m.submitter.toList, 33 ≤ c.toNat ∧ c.toNat ≤ 126) ∧
          ∀ c ∈ m.recipient.toList, 33 ≤ c.toNat ∧ c.toNat ≤ 126)) := by
  refine ⟨?_, ?_, ?_⟩
  · intro accepted
    obtain ⟨case, -, whole⟩ := Go.bech32Decode_ok_iff.mp accepted
    have encoded : Go.bech32Encode hrp data = .ok (s.map Char.toLower) ↔
        (Go.caseMapping table).lower s = s.map Char.toLower := by
      rw [Go.bech32Encode_eq, ← whole, Except.ok.injEq]
      exact Iff.rfl
    rw [encoded, canonical_iff case whole]
    exact and_iff_left fun _ => rfl
  · intro accepted
    obtain ⟨case, ⟨-, whole⟩, fits⟩ := Jvm.decode_ok_iff.mp accepted
    have encoded : Jvm.encode hrp data = .ok (s.map Char.toLower) ↔ locale.lower s = s.map Char.toLower := by
      rw [Jvm.encode_ok_iff, ← whole, and_iff_left fits]
      exact eq_comm
    rw [encoded, canonical_iff case whole]
  · intro passed
    obtain ⟨submitter, recipient⟩ := Go.accepts_of_withdrawal passed
    rw [Go.bipText_of_accepted submitter, Go.bipText_of_accepted recipient]

/-- A withdrawal that is in order but perhaps for its addresses. -/
def Go.sampleWithdrawal (submitter recipient : String) : MsgExecuteWithdrawal where
  submitter := submitter
  rollupId := "rollup"
  batchIndex := 1
  withdrawalIndex := 0
  recipient := recipient
  denom := "uqor"
  amount := 5
  proof := [List.replicate 32 7]

theorem canonical_exact_sample :
    ((∀ c ∈ "QOR".toList ++ '1' :: "KSFA8VYX".toList, c.toNat < 128) ∧
      Go.bech32Encode "qor".toList [180] =
        .ok (("QOR".toList ++ '1' :: "KSFA8VYX".toList).map Char.toLower) ∧
      BipText ("QOR".toList ++ '1' :: "KSFA8VYX".toList)) ∧
    ((∀ c ∈ "QOR".toList ++ '1' :: "KSFA8VYX".toList, c.toNat < 128) ∧
      Jvm.encode "qor".toList [180] = .ok (("QOR".toList ++ '1' :: "KSFA8VYX".toList).map Char.toLower) ∧
      BipText ("QOR".toList ++ '1' :: "KSFA8VYX".toList)) ∧
    BipText "qor1ksfa8vyx".toList ∧ BipText "QOR1KSFA8VYX".toList := by
  obtain ⟨go, jvm, withdrawal⟩ :=
    canonical_exact Go.sampleTable (Go.caseMapping Go.sampleTable) (fun _ => true)
      ("QOR".toList ++ '1' :: "KSFA8VYX".toList) "qor".toList [180] (Go.sampleWithdrawal "qor1ksfa8vyx" "QOR1KSFA8VYX")
  have visible : ∀ c ∈ "QOR".toList ++ '1' :: "KSFA8VYX".toList, 33 ≤ c.toNat ∧ c.toNat ≤ 126 :=
    List.all_iff_forall_prop.mp (by decide)
  refine ⟨?_, ?_, ?_⟩
  · exact (go sample_accepted.1).mpr visible
  · exact (jvm sample_accepted.2).mpr ⟨visible, fun _ => rfl⟩
  · have passed : Go.withdrawalErrors Go.sampleTable (fun _ => true)
        (Go.sampleWithdrawal "qor1ksfa8vyx" "QOR1KSFA8VYX") = [] := by
      decide +kernel
    exact (withdrawal passed).mpr
      ⟨List.all_iff_forall_prop.mp (by decide +kernel), List.all_iff_forall_prop.mp (by decide +kernel)⟩

/-- Both decoders accept an address with a Kelvin sign for its `k`, and Go one whose human-readable part is a control
character; a withdrawal with them passes. -/
theorem kelvin_accepted :
    (Go.bech32Decode Go.sampleTable "QOR1\u212ASFA8VYX".toList = .ok ("qor".toList, [180]) ∧
      ¬ ∀ c ∈ "QOR1\u212ASFA8VYX".toList, c.toNat < 128) ∧
    (Jvm.decode (Go.caseMapping Go.sampleTable) "QOR1\u212ASFA8VYX".toList = .ok ("qor".toList, [180]) ∧
      ¬ ∀ c ∈ "QOR1\u212ASFA8VYX".toList, c.toNat < 128) ∧
    Go.withdrawalErrors Go.sampleTable (fun _ => true)
      (Go.sampleWithdrawal "QOR1\u212ASFA8VYX" "\x011qqvwd5hr") = [] ∧
    ¬ BipText "QOR1\u212ASFA8VYX".toList ∧ ¬ BipText "\x011qqvwd5hr".toList := by
  have outside : ∀ {s : List Char}, (∃ c ∈ s, ¬ (33 ≤ c.toNat ∧ c.toNat ≤ 126)) → ¬ BipText s := by
    rintro s ⟨c, member, wrong⟩ text
    exact wrong (text.1.1 c member)
  have foreign : ¬ ∀ c ∈ "QOR1\u212ASFA8VYX".toList, c.toNat < 128 := by
    intro ascii
    exact absurd (ascii KELVIN (by decide +kernel)) (by decide)
  refine ⟨⟨by decide +kernel, foreign⟩, ⟨by decide +kernel, foreign⟩, by decide +kernel, ?_, ?_⟩
  · exact outside ⟨KELVIN, by decide +kernel, by decide⟩
  · exact outside ⟨'\x01', by decide +kernel, by decide⟩

end QorechainRdk
