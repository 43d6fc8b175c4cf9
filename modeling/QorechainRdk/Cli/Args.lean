import QorechainRdk.Lib.Lookahead
import Mathlib.Tactic.ByContra

/-!
# The command line

`args.ts`, and the arguments that `cmdWatchtower` of `commands.ts` reads. A switch is read by `flagBool` and documented
without a value; the parser knows it as one if it is in its own list.
-/

namespace QorechainRdk
namespace Cli

/-- `string | boolean`. -/
inductive FlagValue where
  | text (s : String)
  | bool (b : Bool)
  deriving DecidableEq, Repr

abbrev Flags := List (String × FlagValue)

structure ParsedCli where
  command : Option String := none
  positionals : List String := []
  flags : Flags := []
  help : Bool := false
  version : Bool := false
  deriving DecidableEq, Repr

def BOOLEAN_FLAGS : List String := ["json", "yes", "dry-run", "verify", "help", "version"]

/-- What is assigned to `__proto__` is dropped, as it is no object. -/
def setFlag (flags : Flags) (key : String) (value : FlagValue) : Flags :=
  if key = "__proto__" then flags else (key, value) :: flags.filter (·.1 ≠ key)

def ParsedCli.withFlag (out : ParsedCli) (key : String) (value : FlagValue) : ParsedCli :=
  { out with flags := setFlag out.flags key value }

def ParsedCli.withWord (out : ParsedCli) (token : String) : ParsedCli :=
  if out.command = none then { out with command := some token }
  else { out with positionals := out.positionals ++ [token] }

def startsWithDash (token : String) : Bool := token.toList.head? == some '-'

/-- The next token, if it is the value of a flag. -/
def valueOf (next : Option String) : Option String := next.filter fun token => !startsWithDash token

/-- One turn of the loop, and whether it takes the next token. -/
def readToken (out : ParsedCli) (token : String) (next : Option String) : ParsedCli × Bool :=
  if token = "-h" ∨ token = "--help" then ({ out with help := true }, false)
  else if token = "-v" ∨ token = "--version" then ({ out with version := true }, false)
  else if token = "-y" then (out.withFlag "yes" (.bool true), false)
  else
    match token.toList with
    | '-' :: '-' :: body =>
      if '=' ∈ body then
        (out.withFlag (String.ofList (body.takeWhile (· != '=')))
          (.text (String.ofList ((body.dropWhile (· != '=')).drop 1))), false)
      else if String.ofList body ∈ BOOLEAN_FLAGS then (out.withFlag (String.ofList body) (.bool true), false)
      else
        match valueOf next with
        | some value => (out.withFlag (String.ofList body) (.text value), true)
        | none => (out.withFlag (String.ofList body) (.bool true), false)
    | _ => (out.withWord token, false)

def truthy : Option FlagValue → Bool
  | some (.text s) => s ≠ ""
  | some (.bool b) => b
  | none => false

def withGlobals (out : ParsedCli) : ParsedCli :=
  { out with
    help := out.help || truthy (out.flags.lookup "help")
    version := out.version || truthy (out.flags.lookup "version") }

def parseCli (argv : List String) : ParsedCli := withGlobals (Lookahead.run readToken false {} argv)

def flagStr (flags : Flags) (key : String) : Option String :=
  match flags.lookup key with
  | some (.text s) => some s
  | _ => none

def flagBool (flags : Flags) (key : String) : Bool :=
  flags.lookup key == some (.bool true) || flags.lookup key == some (.text "true")

/-! ### A command with a switch -/

def rollupIdArg (parsed : ParsedCli) : Option String :=
  (flagStr parsed.flags "rollup-id").or parsed.positionals.head?

structure WatchtowerArgs where
  rollupId : String
  /-- As it is given to `Number`. -/
  interval : String
  canonical : Bool
  deriving DecidableEq, Repr

/-- What the watchtower is run with, or the text of a refusal. -/
def watchtowerArgs (parsed : ParsedCli) : Except String WatchtowerArgs :=
  match rollupIdArg parsed with
  | none | some "" => .error "usage: qorollup watchtower <rollup-id> [--interval <ms>] [--canonical]"
  | some rollupId => .ok {
      rollupId
      interval := (flagStr parsed.flags "interval").getD "5000"
      canonical := flagBool parsed.flags "canonical" }

/-- The switches that the commands read with `flagBool`, all of them documented without a value. -/
def SWITCHES : List String := ["json", "yes", "dry-run", "verify", "canonical"]

/-! ### Positions -/

/-- A flag that looks for a value in the next token. -/
def TakesValue (token : String) : Prop :=
  ∃ body, token.toList = '-' :: '-' :: body ∧ '=' ∉ body ∧ String.ofList body ∉ BOOLEAN_FLAGS

/-- A flag that is given with a value, and is no switch. -/
def ValuedFlag (token : String) : Prop := TakesValue token ∧ ∀ switch ∈ SWITCHES, token ≠ "--" ++ switch

/-- The place is between a valued flag and its value. -/
def Separates (before after : List String) : Prop :=
  ∃ flag value, before.getLast? = some flag ∧ valueOf after.head? = some value ∧ ValuedFlag flag

/-- Nothing but a switch is read differently. -/
structure SameBut (switch : String) (p q : ParsedCli) : Prop where
  command : q.command = p.command
  positionals : q.positionals = p.positionals
  flags : ∀ key, key ≠ switch → q.flags.lookup key = p.flags.lookup key
  help : q.help = p.help
  version : q.version = p.version

structure SwitchedOn (switch : String) (p q : ParsedCli) : Prop extends SameBut switch p q where
  set : q.flags.lookup switch = some (.bool true)

/-- What a token gives a switch. -/
def gives (switch token : String) (next : Option String) : Option FlagValue :=
  if token = "-y" then if switch = "yes" then some (.bool true) else none
  else if token = "--" ++ switch then
    if switch ∈ BOOLEAN_FLAGS then some (.bool true)
    else
      match valueOf next with
      | some value => some (.text value)
      | none => some (.bool true)
  else if '=' ∈ token.toList ∧ token.toList.takeWhile (· != '=') = ("--" ++ switch).toList then
    some (.text (String.ofList ((token.toList.dropWhile (· != '=')).drop 1)))
  else none

/-- What the tokens give a switch last. -/
def given (switch : String) : List String → Option FlagValue
  | [] => none
  | token :: rest => (given switch rest).or (gives switch token rest.head?)

/-! ### One token -/

section
variable {switch key token value : String} {next next' : Option String} {out p q : ParsedCli} {flags : Flags}
  {v : FlagValue}

theorem lookup_setFlag (own : key ≠ "__proto__") : (setFlag flags key v).lookup key = some v := by
  rw [setFlag, if_neg own, List.lookup_cons_self]

/-- The other flags are as they were. -/
theorem lookup_setFlag_other (other : key ≠ switch) : (setFlag flags key v).lookup switch = flags.lookup switch := by
  unfold setFlag
  split
  · rfl
  · have first : (switch == key) = false := beq_eq_false_iff_ne.mpr (Ne.symm other)
    rw [List.lookup_cons, first]
    induction flags with
    | nil => rfl
    | cons entry rest ih =>
      obtain ⟨k, w⟩ := entry
      by_cases same : k = key
      · have foreign : (switch == k) = false := by rw [same, first]
        rw [List.filter_cons_of_neg (by simp [same]), List.lookup_cons, foreign]
        exact ih
      · rw [List.filter_cons_of_pos (by simp [same]), List.lookup_cons, List.lookup_cons]
        cases switch == k with
        | true => rfl
        | false => exact ih

/-- Everything that a token can do. -/
theorem readToken_cases (token : String) (next : Option String) :
    (∀ out, readToken out token next = ({ out with help := true }, false)) ∨
    (∀ out, readToken out token next = ({ out with version := true }, false)) ∨
    (∃ key v takes, (∀ out, readToken out token next = (out.withFlag key v, takes)) ∧
      (takes = true → TakesValue token ∧ ∃ value, valueOf next = some value)) ∨
    (∀ out, readToken out token next = (out.withWord token, false)) := by
  unfold readToken
  split
  · exact Or.inl fun _ => rfl
  · split
    · exact Or.inr (Or.inl fun _ => rfl)
    · split
      · exact Or.inr (Or.inr (Or.inl ⟨_, _, _, fun _ => rfl, nofun⟩))
      · split
        · rename_i body text
          split
          · exact Or.inr (Or.inr (Or.inl ⟨_, _, _, fun _ => rfl, nofun⟩))
          · rename_i bare
            split
            · exact Or.inr (Or.inr (Or.inl ⟨_, _, _, fun _ => rfl, nofun⟩))
            · rename_i valued
              split
              · rename_i value found
                exact Or.inr (Or.inr (Or.inl ⟨_, _, _, fun _ => rfl,
                  fun _ => ⟨⟨body, text, bare, valued⟩, value, found⟩⟩))
              · exact Or.inr (Or.inr (Or.inl ⟨_, _, _, fun _ => rfl, nofun⟩))
        · exact Or.inr (Or.inr (Or.inr fun _ => rfl))

/-- A token that is taken is a value. -/
theorem taken_of_read (h : (readToken out token next).2 = true) : ∃ value, valueOf next = some value := by
  rcases readToken_cases token next with help | version | ⟨key, v, takes, read, taken⟩ | word
  · rw [help] at h
    cases h
  · rw [version] at h
    cases h
  · rw [read] at h
    exact (taken h).2
  · rw [word] at h
    cases h

theorem readToken_alone (out : ParsedCli) (token : String) : (readToken out token none).2 = false := by
  apply Bool.eq_false_iff.mpr
  intro takes
  obtain ⟨value, found⟩ := taken_of_read takes
  cases found

/-- A token looks no further than to a value, and only where it takes one. -/
theorem readToken_congr (same : TakesValue token → valueOf next = valueOf next') :
    readToken out token next = readToken out token next' := by
  unfold readToken
  split
  · rfl
  · split
    · rfl
    · split
      · rfl
      · split
        · rename_i body text
          split
          · rfl
          · rename_i bare
            split
            · rfl
            · rename_i valued
              rw [same ⟨body, text, bare, valued⟩]
        · rfl

theorem readToken_other (help : ¬ (token = "-h" ∨ token = "--help")) (version : ¬ (token = "-v" ∨ token = "--version"))
    (short : token ≠ "-y") (undashed : ¬ ∃ body, token.toList = '-' :: '-' :: body) :
    readToken out token next = (out.withWord token, false) := by
  unfold readToken
  rw [if_neg help, if_neg version, if_neg short]
  split
  · rename_i body text
    exact absurd ⟨body, text⟩ undashed
  · rfl

theorem readToken_word (plain : startsWithDash token = false) :
    readToken out token next = (out.withWord token, false) := by
  have other : ∀ dashed : String, startsWithDash dashed = true → token ≠ dashed := by
    rintro dashed dash rfl
    rw [plain] at dash
    cases dash
  refine readToken_other (not_or.mpr ⟨other _ (by decide), other _ (by decide)⟩)
    (not_or.mpr ⟨other _ (by decide), other _ (by decide)⟩) (other _ (by decide)) ?_
  rintro ⟨body, text⟩
  rw [startsWithDash, text] at plain
  cases plain

/-! ### The switch -/

/-- A name that the parser gives no meaning of its own. -/
structure Plain (switch : String) : Prop where
  no_equals : '=' ∉ switch.toList
  own : switch ≠ "__proto__"
  help : switch ≠ "help"
  version : switch ≠ "version"

theorem plain_of_known (known : switch ∈ SWITCHES) : Plain switch := by
  have all : ∀ s ∈ SWITCHES, '=' ∉ s.toList ∧ s ≠ "__proto__" ∧ s ≠ "help" ∧ s ≠ "version" := by decide +kernel
  obtain ⟨no_equals, own, help, version⟩ := all switch known
  exact ⟨no_equals, own, help, version⟩

theorem toList_switch (switch : String) : ("--" ++ switch).toList = '-' :: '-' :: switch.toList := by
  rw [String.toList_append]
  rfl

theorem bare_ne (plain : Plain switch) : ("--" ++ switch ≠ "-h" ∧ "--" ++ switch ≠ "--help") ∧
    ("--" ++ switch ≠ "-v" ∧ "--" ++ switch ≠ "--version") ∧ "--" ++ switch ≠ "-y" := by
  have short : ∀ c, c ≠ '-' → "--" ++ switch ≠ String.ofList ['-', c] := by
    intro c other same
    have chars := congrArg String.toList same
    rw [toList_switch, String.toList_ofList] at chars
    injection chars with _ chars
    injection chars with wrong _
    exact other wrong.symm
  have long : ∀ name, switch ≠ name → "--" ++ switch ≠ "--" ++ name := by
    intro name other same
    have chars := congrArg String.toList same
    rw [toList_switch, toList_switch] at chars
    injection chars with _ chars
    injection chars with _ chars
    exact other (String.toList_inj.mp chars)
  exact ⟨⟨short 'h' (by decide), long "help" plain.help⟩, ⟨short 'v' (by decide), long "version" plain.version⟩,
    short 'y' (by decide)⟩

/-- A token of two dashes that is not read as a whole. -/
theorem readToken_dashes {body : List Char} (text : token.toList = '-' :: '-' :: body)
    (help : ¬ (token = "-h" ∨ token = "--help")) (version : ¬ (token = "-v" ∨ token = "--version"))
    (short : token ≠ "-y") :
    readToken out token next =
      if '=' ∈ body then
        (out.withFlag (String.ofList (body.takeWhile (· != '=')))
          (.text (String.ofList ((body.dropWhile (· != '=')).drop 1))), false)
      else if String.ofList body ∈ BOOLEAN_FLAGS then (out.withFlag (String.ofList body) (.bool true), false)
      else
        match valueOf next with
        | some value => (out.withFlag (String.ofList body) (.text value), true)
        | none => (out.withFlag (String.ofList body) (.bool true), false) := by
  unfold readToken
  rw [if_neg help, if_neg version, if_neg short, text]
  rfl

/-- What the bare switch does. -/
theorem readToken_switch (plain : Plain switch) (next : Option String) :
    readToken out ("--" ++ switch) next =
      if switch ∈ BOOLEAN_FLAGS then (out.withFlag switch (.bool true), false)
      else
        match valueOf next with
        | some value => (out.withFlag switch (.text value), true)
        | none => (out.withFlag switch (.bool true), false) := by
  obtain ⟨help, version, yes⟩ := bare_ne plain
  rw [readToken_dashes (toList_switch switch) (not_or.mpr help) (not_or.mpr version) yes, if_neg plain.no_equals,
    String.ofList_toList]

theorem lookup_withFlag (plain : Plain switch) (out : ParsedCli) (v : FlagValue) :
    (out.withFlag switch v).flags.lookup switch = some v := lookup_setFlag plain.own

theorem assigns_iff {body : List Char} :
    ('=' ∈ '-' :: '-' :: body ∧ ('-' :: '-' :: body).takeWhile (· != '=') = ("--" ++ switch).toList) ↔
      '=' ∈ body ∧ body.takeWhile (· != '=') = switch.toList := by
  rw [toList_switch, List.takeWhile_cons_of_pos (by decide), List.takeWhile_cons_of_pos (by decide)]
  simp

/-- A token that assigns to a flag begins with two dashes. -/
theorem dashes_of_assigns {cs : List Char} (same : cs.takeWhile (· != '=') = ("--" ++ switch).toList) :
    ∃ body, cs = '-' :: '-' :: body := by
  have whole := List.takeWhile_append_dropWhile (p := (· != '=')) (l := cs)
  rw [same, toList_switch, List.cons_append, List.cons_append] at whole
  exact ⟨_, whole.symm⟩

/-- A flag with a value behind `=`, or another flag. -/
theorem lookup_readToken_dashes (plain : Plain switch) {body : List Char} (text : token.toList = '-' :: '-' :: body)
    (bare : token ≠ "--" ++ switch) (help : ¬ (token = "-h" ∨ token = "--help"))
    (version : ¬ (token = "-v" ∨ token = "--version")) (short : token ≠ "-y") :
    (readToken out token next).1.flags.lookup switch = (gives switch token next).or (out.flags.lookup switch) := by
  have other : String.ofList body ≠ switch := by
    rintro rfl
    apply bare
    rw [← String.toList_inj, toList_switch, String.toList_ofList, text]
  rw [readToken_dashes text help version short, gives, if_neg short, if_neg bare, text]
  by_cases assigned : '=' ∈ body
  · rw [if_pos assigned]
    by_cases same : body.takeWhile (· != '=') = switch.toList
    · rw [if_pos (assigns_iff.mpr ⟨assigned, same⟩), same, String.ofList_toList]
      exact lookup_withFlag plain out _
    · rw [if_neg fun both => same (assigns_iff.mp both).2, Option.none_or]
      refine lookup_setFlag_other ?_
      rintro rfl
      exact same String.toList_ofList.symm
  · rw [if_neg assigned, if_neg fun both => assigned (assigns_iff.mp both).1, Option.none_or]
    split
    · exact lookup_setFlag_other other
    · split
      · exact lookup_setFlag_other other
      · exact lookup_setFlag_other other

/-- After a token the switch has what the token gives it, or what it had. -/
theorem lookup_readToken (plain : Plain switch) (out : ParsedCli) (token : String) (next : Option String) :
    (readToken out token next).1.flags.lookup switch = (gives switch token next).or (out.flags.lookup switch) := by
  obtain ⟨-, -, yes⟩ := bare_ne plain
  by_cases bare : token = "--" ++ switch
  · rw [bare, readToken_switch plain, gives, if_neg yes, if_pos rfl]
    split
    · exact lookup_withFlag plain out _
    · split
      · exact lookup_withFlag plain out _
      · exact lookup_withFlag plain out _
  · have nothing : token ≠ "-y" →
        ¬ ('=' ∈ token.toList ∧ token.toList.takeWhile (· != '=') = ("--" ++ switch).toList) →
        gives switch token next = none := fun short unassigned => by
      rw [gives, if_neg short, if_neg bare, if_neg unassigned]
    by_cases help : token = "-h" ∨ token = "--help"
    · have foreign : token ≠ "-y" ∧ '=' ∉ token.toList := by
        rcases help with rfl | rfl
        · decide
        · decide
      rw [nothing foreign.1 fun both => foreign.2 both.1, readToken, if_pos help, Option.none_or]
    · by_cases version : token = "-v" ∨ token = "--version"
      · have foreign : token ≠ "-y" ∧ '=' ∉ token.toList := by
          rcases version with rfl | rfl
          · decide
          · decide
        rw [nothing foreign.1 fun both => foreign.2 both.1, readToken, if_neg help, if_pos version, Option.none_or]
      · by_cases short : token = "-y"
        · rw [readToken, if_neg help, if_neg version, if_pos short, gives, if_pos short]
          split
          · rename_i same
            rw [same]
            exact lookup_setFlag (by decide)
          · rename_i other
            exact lookup_setFlag_other (Ne.symm other)
        · by_cases dashes : ∃ body, token.toList = '-' :: '-' :: body
          · obtain ⟨body, text⟩ := dashes
            exact lookup_readToken_dashes plain text bare help version short
          · rw [nothing short fun both => dashes (dashes_of_assigns both.2), Option.none_or,
              readToken_other help version short dashes]
            unfold ParsedCli.withWord
            split
            · rfl
            · rfl

/-! ### The loop -/

theorem valueOf_eq_some_iff : valueOf next = some value ↔ next = some value ∧ startsWithDash value = false := by
  unfold valueOf
  rw [Option.filter_eq_some_iff]
  simp

theorem gives_word (word : startsWithDash token = false) : gives switch token next = none := by
  have undashed : ¬ ∃ body, token.toList = '-' :: '-' :: body := by
    rintro ⟨body, text⟩
    rw [startsWithDash, text] at word
    cases word
  have short : token ≠ "-y" := by
    rintro rfl
    exact absurd word (by decide)
  have bare : token ≠ "--" ++ switch := by
    rintro rfl
    exact undashed ⟨_, toList_switch switch⟩
  rw [gives, if_neg short, if_neg bare, if_neg fun both => undashed (dashes_of_assigns both.2)]

/-- After the loop the switch has what the tokens give it last. -/
theorem lookup_run (plain : Plain switch) {tokens : List String} {skip : Bool} (out : ParsedCli)
    (skipped : skip = true → ∃ value, valueOf tokens.head? = some value) :
    (Lookahead.run readToken skip out tokens).flags.lookup switch =
      (given switch tokens).or (out.flags.lookup switch) := by
  induction tokens generalizing skip out with
  | nil =>
    cases skip with
    | false => rfl
    | true => rfl
  | cons token rest ih =>
    cases skip with
    | true =>
      obtain ⟨value, found⟩ := skipped rfl
      obtain ⟨same, word⟩ := valueOf_eq_some_iff.mp found
      rw [← Option.some.inj same] at word
      have rest_given : (Lookahead.run readToken false out rest).flags.lookup switch =
          (given switch rest).or (out.flags.lookup switch) := ih out nofun
      rw [Lookahead.run, rest_given, given, gives_word word, Option.or_none]
    | false =>
      rw [Lookahead.run, ih _ taken_of_read, lookup_readToken plain, given, Option.or_assoc]

theorem SameBut.symm (same : SameBut switch p q) : SameBut switch q p :=
  ⟨same.command.symm, same.positionals.symm, fun key other => (same.flags key other).symm, same.help.symm,
    same.version.symm⟩

theorem SameBut.trans {r : ParsedCli} (same : SameBut switch p q) (same' : SameBut switch q r) : SameBut switch p r :=
  ⟨same'.command.trans same.command, same'.positionals.trans same.positionals,
    fun key other => (same'.flags key other).trans (same.flags key other), same'.help.trans same.help,
    same'.version.trans same.version⟩

theorem SameBut.lookup_withFlag (same : SameBut switch p q) (key : String) (v : FlagValue) {k : String}
    (other : k ≠ switch) : (q.withFlag key v).flags.lookup k = (p.withFlag key v).flags.lookup k := by
  show (setFlag q.flags key v).lookup k = (setFlag p.flags key v).lookup k
  by_cases here : key = k
  · by_cases proto : key = "__proto__"
    · rw [setFlag, setFlag, if_pos proto, if_pos proto]
      exact same.flags k other
    · rw [here] at proto ⊢
      rw [lookup_setFlag proto, lookup_setFlag proto]
  · rw [lookup_setFlag_other here, lookup_setFlag_other here]
    exact same.flags k other

/-- Two states that agree but for the switch stay so. -/
theorem SameBut.read (same : SameBut switch p q) (token : String) (next : Option String) :
    SameBut switch (readToken p token next).1 (readToken q token next).1 ∧
      (readToken p token next).2 = (readToken q token next).2 := by
  rcases readToken_cases token next with help | version | ⟨key, v, takes, read, -⟩ | word
  · rw [help, help]
    exact ⟨⟨same.command, same.positionals, same.flags, rfl, same.version⟩, rfl⟩
  · rw [version, version]
    exact ⟨⟨same.command, same.positionals, same.flags, same.help, rfl⟩, rfl⟩
  · rw [read, read]
    exact ⟨⟨same.command, same.positionals, fun k => same.lookup_withFlag key v, same.help, same.version⟩, rfl⟩
  · rw [word, word]
    refine ⟨?_, rfl⟩
    unfold ParsedCli.withWord
    rw [same.command, same.positionals]
    split
    · exact ⟨rfl, rfl, same.flags, same.help, same.version⟩
    · exact ⟨rfl, rfl, same.flags, same.help, same.version⟩

theorem SameBut.run (same : SameBut switch p q) (tokens : List String) :
    SameBut switch (Lookahead.run readToken false p tokens) (Lookahead.run readToken false q tokens) :=
  Lookahead.run_rel (fun token next related => related.read token next) same false tokens

theorem SameBut.withGlobals (plain : Plain switch) (same : SameBut switch p q) :
    SameBut switch (withGlobals p) (withGlobals q) := by
  have help := same.flags "help" (Ne.symm plain.help)
  have version := same.flags "version" (Ne.symm plain.version)
  refine ⟨same.command, same.positionals, same.flags, ?_, ?_⟩
  · show (q.help || truthy (q.flags.lookup "help")) = (p.help || truthy (p.flags.lookup "help"))
    rw [help, same.help]
  · show (q.version || truthy (q.flags.lookup "version")) = (p.version || truthy (p.flags.lookup "version"))
    rw [version, same.version]

theorem SameBut.withFlag (out : ParsedCli) (switch : String) (v : FlagValue) :
    SameBut switch out (out.withFlag switch v) :=
  ⟨rfl, rfl, fun _ other => lookup_setFlag_other (Ne.symm other), rfl, rfl⟩

/-! ### Words -/

/-- How many words are read as the command and its positionals. -/
def ParsedCli.words (out : ParsedCli) : Nat := out.command.toList.length + out.positionals.length

theorem words_withWord (out : ParsedCli) (token : String) : (out.withWord token).words = out.words + 1 := by
  unfold ParsedCli.withWord ParsedCli.words
  split
  · rename_i none
    rw [none]
    show 1 + out.positionals.length = 0 + out.positionals.length + 1
    omega
  · show out.command.toList.length + (out.positionals ++ [token]).length = _
    rw [List.length_append, List.length_singleton, Nat.add_assoc]

/-- A token adds as many words to any state, so that a difference between two states stays. -/
theorem words_run {n m : Nat} (apart : p.words + n = q.words + m) (tokens : List String) :
    (Lookahead.run readToken false p tokens).words + n = (Lookahead.run readToken false q tokens).words + m := by
  refine Lookahead.run_rel (R := fun p q : ParsedCli => p.words + n = q.words + m) ?_ apart false tokens
  intro p q token next apart
  rcases readToken_cases token next with help | version | ⟨key, v, takes, read, -⟩ | word
  · rw [help, help]
    exact ⟨apart, rfl⟩
  · rw [version, version]
    exact ⟨apart, rfl⟩
  · rw [read, read]
    exact ⟨apart, rfl⟩
  · rw [word, word]
    refine ⟨?_, rfl⟩
    rw [words_withWord, words_withWord]
    omega

theorem SameBut.words (same : SameBut switch p q) : q.words = p.words := by
  unfold ParsedCli.words
  rw [same.command, same.positionals]

/-! ### A switch between two tokens -/

/-- Between two tokens that are not a flag and its value the loop can be cut. -/
theorem run_cut {before after : List String}
    (whole : ∀ flag, before.getLast? = some flag → TakesValue flag → valueOf after.head? = none) (s : ParsedCli) :
    Lookahead.run readToken false s (before ++ after) =
      Lookahead.run readToken false (Lookahead.run readToken false s before) after :=
  Lookahead.run_append readToken_alone
    (fun token last _ => readToken_congr fun takes => whole token last takes) s nofun

theorem valueOf_switch (switch : String) : valueOf (some ("--" ++ switch)) = none := by
  rw [valueOf, Option.filter_some, startsWithDash, toList_switch]
  rfl

/-- No switch is the value of what is before it. -/
theorem run_cut_switch (before rest : List String) (switch : String) (s : ParsedCli) :
    Lookahead.run readToken false s (before ++ ("--" ++ switch) :: rest) =
      Lookahead.run readToken false (Lookahead.run readToken false s before) (("--" ++ switch) :: rest) := by
  refine run_cut (fun _ _ _ => ?_) s
  exact valueOf_switch switch

/-- A switch sets itself, if the parser knows it or no word follows. -/
theorem readToken_sets (plain : Plain switch) (clear : switch ∈ BOOLEAN_FLAGS ∨ valueOf next = none)
    (out : ParsedCli) : readToken out ("--" ++ switch) next = (out.withFlag switch (.bool true), false) := by
  rw [readToken_switch plain]
  split
  · rfl
  · rename_i unknown
    rw [clear.resolve_left unknown]

theorem unlisted_of_takes (takes : TakesValue ("--" ++ switch)) : switch ∉ BOOLEAN_FLAGS := by
  obtain ⟨body, text, -, unlisted⟩ := takes
  rw [toList_switch] at text
  injection text with _ text
  injection text with _ text
  rwa [← text, String.ofList_toList] at unlisted

theorem eq_canonical (known : switch ∈ SWITCHES) (unlisted : switch ∉ BOOLEAN_FLAGS) : switch = "canonical" := by
  have all : ∀ s ∈ SWITCHES, s ∉ BOOLEAN_FLAGS → s = "canonical" := by decide +kernel
  exact all switch known unlisted

/-- Else it takes the word for its value. -/
theorem readToken_takes (plain : Plain switch) (unknown : switch ∉ BOOLEAN_FLAGS) (found : valueOf next = some value)
    (out : ParsedCli) : readToken out ("--" ++ switch) next = (out.withFlag switch (.text value), true) := by
  rw [readToken_switch plain, if_neg unknown, found]

/-- What is set last stays. -/
theorem lookup_set (plain : Plain switch) (s : ParsedCli) (v : FlagValue) (rest : List String) :
    (withGlobals (Lookahead.run readToken false (s.withFlag switch v) rest)).flags.lookup switch =
      (given switch rest).or (some v) := by
  rw [← lookup_withFlag plain s v]
  exact lookup_run plain _ fun skipped => absurd skipped Bool.false_ne_true

/-- Two states with other numbers of words are not made alike by the same tokens. -/
theorem not_sameBut_of_words (apart : p.words ≠ q.words) (rest : List String) :
    ¬ SameBut switch (withGlobals (Lookahead.run readToken false p rest))
        (withGlobals (Lookahead.run readToken false q rest)) := by
  intro same
  have kept := words_run (Nat.add_comm p.words q.words) rest
  have equal : (Lookahead.run readToken false q rest).words = (Lookahead.run readToken false p rest).words :=
    same.words
  omega

theorem switchedOn_of_clear {after : List String} (plain : Plain switch)
    (clear : switch ∈ BOOLEAN_FLAGS ∨ valueOf after.head? = none) (s : ParsedCli) :
    SwitchedOn switch (withGlobals (Lookahead.run readToken false s after))
        (withGlobals (Lookahead.run readToken false s (("--" ++ switch) :: after))) ↔
      ∀ v, given switch after = some v → v = .bool true := by
  have read := readToken_sets plain clear s
  have last := lookup_set plain s (.bool true) after
  rw [Lookahead.run, read]
  constructor
  · intro on v later
    have set := last.symm.trans on.set
    rw [later] at set
    exact Option.some.inj set
  · intro later
    refine ⟨((SameBut.withFlag s switch (.bool true)).run after).withGlobals plain, last.trans ?_⟩
    cases found : given switch after with
    | none => rfl
    | some v => rw [later v found, Option.some_or]

/-- A word that the switch takes is one word less. -/
theorem not_sameBut_of_taken {after : List String} (plain : Plain switch) (unknown : switch ∉ BOOLEAN_FLAGS)
    (found : valueOf after.head? = some value) (s : ParsedCli) :
    ¬ SameBut switch (withGlobals (Lookahead.run readToken false s after))
        (withGlobals (Lookahead.run readToken false s (("--" ++ switch) :: after))) := by
  obtain ⟨head, word⟩ := valueOf_eq_some_iff.mp found
  obtain ⟨rest, rfl⟩ : ∃ rest, after = value :: rest := List.head?_eq_some_iff.mp head
  have taken := readToken_takes plain unknown found s
  have fewer : (s.withWord value).words ≠ (s.withFlag switch (.text value)).words := by
    rw [words_withWord]
    exact Nat.succ_ne_self s.words
  rw [Lookahead.run, Lookahead.run, taken, readToken_word word]
  exact not_sameBut_of_words fewer rest

theorem given_word {rest : List String} (word : startsWithDash value = false) :
    given switch (value :: rest) = given switch rest := by
  rw [given, gives_word word, Option.or_none]

/-- Behind another canonical switch, which takes the word if this one is not there. -/
theorem switchedOn_behind_canonical {after : List String} (known : switch ∈ SWITCHES)
    (found : valueOf after.head? = some value) (s : ParsedCli) :
    SwitchedOn switch (withGlobals (Lookahead.run readToken false s (("--" ++ "canonical") :: after)))
        (withGlobals (Lookahead.run readToken false s (("--" ++ "canonical") :: ("--" ++ switch) :: after))) ↔
      switch = "canonical" ∧ given switch after = some (.bool true) := by
  have unlisted : "canonical" ∉ BOOLEAN_FLAGS := by decide
  have canonical : Plain "canonical" := plain_of_known (by decide)
  obtain ⟨head, word⟩ := valueOf_eq_some_iff.mp found
  obtain ⟨rest, rfl⟩ : ∃ rest, after = value :: rest := List.head?_eq_some_iff.mp head
  have without : readToken s ("--" ++ "canonical") (some value) = (s.withFlag "canonical" (.text value), true) :=
    readToken_takes canonical unlisted found s
  have first := readToken_sets canonical (Or.inr (valueOf_switch switch)) s
  simp only [Lookahead.run, List.head?_cons, without, first, given_word word]
  generalize set : s.withFlag "canonical" (.bool true) = t
  have sameWords : t.words = s.words := by
    rw [← set]
    rfl
  by_cases listed : switch ∈ BOOLEAN_FLAGS
  · -- The word is left over and is read as one.
    have second : readToken t ("--" ++ switch) (some value) = (t.withFlag switch (.bool true), false) :=
      readToken_sets (plain_of_known known) (Or.inl listed) t
    have more : (s.withFlag "canonical" (.text value)).words ≠
        ((t.withFlag switch (.bool true)).withWord value).words := by
      rw [words_withWord]
      show s.words ≠ t.words + 1
      omega
    rw [second, Lookahead.run, readToken_word word]
    exact iff_of_false (fun on => not_sameBut_of_words more rest on.toSameBut) fun both => unlisted (both.1 ▸ listed)
  · -- The second one takes the word.
    obtain rfl := eq_canonical known listed
    have second : readToken t ("--" ++ "canonical") (some value) = (t.withFlag "canonical" (.text value), true) :=
      readToken_takes canonical unlisted found t
    have same : SameBut "canonical" (s.withFlag "canonical" (.text value)) (t.withFlag "canonical" (.text value)) := by
      rw [← set]
      have once := SameBut.withFlag s "canonical" (.text value)
      exact once.symm.trans ((SameBut.withFlag s _ _).trans (SameBut.withFlag _ _ _))
    have last := lookup_set canonical t (.text value) rest
    rw [second, Lookahead.run]
    constructor
    · intro on
      have final := last.symm.trans on.set
      cases later : given "canonical" rest with
      | none =>
        rw [later] at final
        cases final
      | some v =>
        rw [later] at final
        exact ⟨rfl, final⟩
    · rintro ⟨-, later⟩
      rw [later] at last
      exact ⟨(same.run rest).withGlobals canonical, last⟩

theorem canonical_spelled : "--" ++ "canonical" = "--canonical" := by decide +kernel

/-- The place is between a canonical switch and a word. -/
theorem switch_behind_iff {front after : List String} (known : switch ∈ SWITCHES)
    (found : valueOf after.head? = some value) :
    SwitchedOn switch (parseCli (front ++ ["--canonical"] ++ after))
        (parseCli (front ++ ["--canonical"] ++ ("--" ++ switch) :: after)) ↔
      switch = "canonical" ∧ given switch after = some (.bool true) := by
  have cut : ∀ tokens, Lookahead.run readToken false {} (front ++ ["--canonical"] ++ tokens) =
      Lookahead.run readToken false (Lookahead.run readToken false {} front) (("--" ++ "canonical") :: tokens) := by
    intro tokens
    rw [List.append_assoc, ← canonical_spelled]
    exact run_cut_switch front tokens "canonical" {}
  unfold parseCli
  rw [cut, cut, switchedOn_behind_canonical known found]

/-- The place is not between a flag and a word that the flag takes. -/
theorem switch_apart_iff {before after : List String} (known : switch ∈ SWITCHES)
    (uncut : ∀ flag, before.getLast? = some flag → TakesValue flag → valueOf after.head? = none) :
    SwitchedOn switch (parseCli (before ++ after)) (parseCli (before ++ ("--" ++ switch) :: after)) ↔
      (switch ∈ BOOLEAN_FLAGS ∨ valueOf after.head? = none) ∧ ∀ v, given switch after = some v → v = .bool true := by
  have plain := plain_of_known known
  unfold parseCli
  rw [run_cut uncut, run_cut_switch]
  constructor
  · intro on
    have clear : switch ∈ BOOLEAN_FLAGS ∨ valueOf after.head? = none := by
      by_contra taken
      obtain ⟨unlisted, word⟩ := not_or.mp taken
      obtain ⟨value, found⟩ := Option.ne_none_iff_exists'.mp word
      exact not_sameBut_of_taken plain unlisted found _ on.toSameBut
    exact ⟨clear, (switchedOn_of_clear plain clear _).mp on⟩
  · rintro ⟨clear, later⟩
    exact (switchedOn_of_clear plain clear _).mpr later

/-- Where no word follows, or one that neither the switch nor a canonical switch before it takes, the switch is set if
nothing behind it takes it back; elsewhere only the canonical switch is, behind itself and given again further on. -/
theorem switch_anywhere_iff {before after : List String} {switch : String} (known : switch ∈ SWITCHES)
    (whole : ¬ Separates before after) :
    SwitchedOn switch (parseCli (before ++ after)) (parseCli (before ++ ("--" ++ switch) :: after)) ↔
      ((valueOf after.head? = none ∨ switch ∈ BOOLEAN_FLAGS ∧ before.getLast? ≠ some "--canonical") ∧
          ∀ v, given switch after = some v → v = .bool true) ∨
        (switch = "canonical" ∧ before.getLast? = some "--canonical" ∧ given switch after = some (.bool true)) := by
  by_cases behind : before.getLast? = some "--canonical" ∧ valueOf after.head? ≠ none
  · obtain ⟨last, word⟩ := behind
    obtain ⟨value, found⟩ := Option.ne_none_iff_exists'.mp word
    obtain ⟨front, rfl⟩ := List.getLast?_eq_some_iff.mp last
    rw [switch_behind_iff known found]
    constructor
    · rintro ⟨same, later⟩
      exact Or.inr ⟨same, last, later⟩
    · rintro (⟨none | ⟨-, apart⟩, -⟩ | ⟨same, -, later⟩)
      · exact absurd none word
      · exact absurd last apart
      · exact ⟨same, later⟩
  · have uncut : ∀ flag, before.getLast? = some flag → TakesValue flag → valueOf after.head? = none := by
      intro flag last takes
      by_contra word
      obtain ⟨value, found⟩ := Option.ne_none_iff_exists'.mp word
      refine whole ⟨flag, value, last, found, takes, ?_⟩
      rintro other listed rfl
      obtain rfl := eq_canonical listed (unlisted_of_takes takes)
      exact behind ⟨canonical_spelled ▸ last, word⟩
    rw [switch_apart_iff known uncut]
    constructor
    · rintro ⟨clear, later⟩
      refine Or.inl ⟨?_, later⟩
      by_cases word : valueOf after.head? = none
      · exact Or.inl word
      · exact Or.inr ⟨clear.resolve_right word, fun last => behind ⟨last, word⟩⟩
    · rintro (⟨clear, later⟩ | ⟨-, last, later⟩)
      · exact ⟨clear.symm.imp_left And.left, later⟩
      · have end_of_words : valueOf after.head? = none := by_contra fun word => behind ⟨last, word⟩
        exact ⟨Or.inr end_of_words, fun v found => Option.some.inj (found.symm.trans later)⟩

theorem switch_before_a_word :
    "json" ∈ SWITCHES ∧ ¬ Separates ["watchtower", "--interval", "1000"] ["my-roll"] ∧
      SwitchedOn "json" (parseCli ["watchtower", "--interval", "1000", "my-roll"])
        (parseCli ["watchtower", "--interval", "1000", "--json", "my-roll"]) := by
  have known : "json" ∈ SWITCHES := by decide
  have whole : ¬ Separates ["watchtower", "--interval", "1000"] ["my-roll"] := by
    rintro ⟨flag, value, last, -, ⟨body, text, -⟩, -⟩
    cases last
    exact absurd text (by simp)
  refine ⟨known, whole, (switch_anywhere_iff known whole).mpr (Or.inl ⟨Or.inr ⟨by decide, by decide⟩, ?_⟩)⟩
  intro v later
  have none : given "json" ["my-roll"] = none := by decide +kernel
  rw [none] at later
  cases later

/-- The canonical switch before the rollup takes the rollup for its value. -/
theorem canonical_takes_the_rollup :
    watchtowerArgs (parseCli ["watchtower", "my-roll"]) = .ok ⟨"my-roll", "5000", false⟩ ∧
      watchtowerArgs (parseCli ["watchtower", "my-roll", "--canonical"]) = .ok ⟨"my-roll", "5000", true⟩ ∧
      watchtowerArgs (parseCli ["watchtower", "--canonical", "my-roll"]) =
        .error "usage: qorollup watchtower <rollup-id> [--interval <ms>] [--canonical]" ∧
      "canonical" ∈ SWITCHES ∧ ¬ Separates ["watchtower"] ["my-roll"] ∧
      ¬ SwitchedOn "canonical" (parseCli ["watchtower", "my-roll"])
        (parseCli ["watchtower", "--canonical", "my-roll"]) := by
  refine ⟨by decide +kernel, by decide +kernel, by decide +kernel, by decide, ?_, ?_⟩
  · rintro ⟨flag, value, last, -, ⟨body, text, -⟩, -⟩
    cases last
    exact absurd text (by simp)
  · intro on
    have set := on.set
    have text : (parseCli ["watchtower", "--canonical", "my-roll"]).flags.lookup "canonical" =
        some (.text "my-roll") := by
      decide +kernel
    rw [text] at set
    cases set

end

end Cli
end QorechainRdk
