import QorechainRdk.Client.Rest

/-!
# Which post-quantum key an account signs with

`accounts/index.ts`. The derivations of `@qorechain/sdk` are parameters.
-/

namespace QorechainRdk

open Js

structure PqcKeypair where
  publicKey : Bytes
  secretKey : Bytes
  deriving DecidableEq, Repr

inductive PqcDerivation where
  | canonical
  | legacy
  | seed
  deriving DecidableEq, Repr

structure ResolvedPqcKeypair where
  keypair : PqcKeypair
  derivation : PqcDerivation
  registered : Bool
  includePqcPublicKey : Bool
  deriving DecidableEq, Repr

/-- What the SDK derives: from an address and a mnemonic, from a mnemonic, and from a seed. -/
structure PqcSdk where
  derivePqcCanonical : String → String → Except JsError PqcKeypair
  derivePqcLegacy : String → Except JsError PqcKeypair
  generatePqcKeypair : Bytes → Except JsError PqcKeypair

structure Env where
  QORE_PQC_SEED_HEX : Option String := none
  QORE_MNEMONIC : Option String := none

section
variable (sdk : PqcSdk) (client : RdkClient) (address : String)

/-- Whatever the read throws, there is no key. -/
def registeredPqcKey : String :=
  match client.rest.getPqcAccount address with
  | .ok account => toLowerCase account.publicKey
  | .error _ => ""

def resolvePqcKeypair (mnemonic : String) : Except JsError ResolvedPqcKeypair := do
  let canonical ← sdk.derivePqcCanonical address mnemonic
  let legacy ← sdk.derivePqcLegacy mnemonic
  let registeredKey := registeredPqcKey client address
  if registeredKey = "" then return ⟨canonical, .canonical, false, true⟩
  else if registeredKey = toLowerCase (bytesToHex canonical.publicKey) then
    return ⟨canonical, .canonical, true, false⟩
  else if registeredKey = toLowerCase (bytesToHex legacy.publicKey) then
    return ⟨legacy, .legacy, true, false⟩
  else
    fail (s!"account {address} has a post-quantum key on chain that neither the canonical nor the legacy " ++
      "derivation of this mnemonic produces, so it was registered from another secret. Supply that " ++
      "keypair explicitly (QORE_PQC_SEED_HEX), or check that the mnemonic belongs to this account.")

def seedKeypair (seedHex : String) : Except JsError PqcKeypair := do
  let seed ← hexToBytes seedHex
  if seed.length ≠ 32 then fail s!"QORE_PQC_SEED_HEX must be 32 bytes, got {seed.length}"
  else sdk.generatePqcKeypair seed

/-- A variable that is not set reads as one that is blank. -/
def setting (value : Option String) : String := (value.map trim).getD ""

def pqcKeypairFromEnv (env : Env) : Except JsError (Option ResolvedPqcKeypair) :=
  let seedHex := setting env.QORE_PQC_SEED_HEX
  let mnemonic := setting env.QORE_MNEMONIC
  if seedHex ≠ "" then do
    let keypair ← seedKeypair sdk seedHex
    let registeredKey := registeredPqcKey client address
    if registeredKey = "" then return some ⟨keypair, .seed, false, true⟩
    else if registeredKey = toLowerCase (bytesToHex keypair.publicKey) then
      return some ⟨keypair, .seed, true, false⟩
    else
      fail (s!"QORE_PQC_SEED_HEX does not produce the post-quantum key registered for {address}; " ++
        "every hybrid transaction signed with it would be refused")
  else if mnemonic ≠ "" then do
    return some (← resolvePqcKeypair sdk client address mnemonic)
  else return none

end

/-! ### The chain behind the read -/

def accountPath (address : String) : String := s!"/qorechain/pqc/v1/account/{encodeURIComponent address}"

/-- What a read of the account may come to, on a chain that holds `key` for it: none where it is empty. Only
a chain without the key answers 404. -/
inductive Answers (key : Bytes) : Except JsError HttpResponse → Prop
  | record {res : HttpResponse} {value : Json} (ok : res.ok = true) (parsed : res.json = .ok value)
      (holds : Spells (str (pick (nested (asRecord value) "account") ["public_key", "publicKey"])) key) :
      Answers key (.ok res)
  | garbled {res : HttpResponse} {e : JsError} (ok : res.ok = true) (parsed : res.json = .error e) :
      Answers key (.ok res)
  | notFound {res : HttpResponse} (ok : res.ok = false) (status : res.status = 404) (none : key = []) :
      Answers key (.ok res)
  | refused {res : HttpResponse} (ok : res.ok = false) (status : res.status ≠ 404) : Answers key (.ok res)
  | rejected (e : JsError) : Answers key (.error e)

/-- The read gives a record. -/
def Readable (answer : Except JsError HttpResponse) : Prop :=
  ∃ res value, answer = .ok res ∧ res.ok = true ∧ res.json = .ok value

/-- A resolved key is the one on chain, if there is one there. -/
def RightFor (key : Bytes) (resolved : ResolvedPqcKeypair) : Prop :=
  (key ≠ [] → resolved.keypair.publicKey = key ∧ resolved.registered = true ∧
    resolved.includePqcPublicKey = false) ∧
  (resolved.registered = false → resolved.includePqcPublicKey = true → key = [])

def ML_DSA_87_PUBLIC_KEY_BYTES : Nat := 2592

/-- Every derivation gives keys of the scheme's one size. -/
structure PqcSdk.Sized (sdk : PqcSdk) : Prop where
  canonical : ∀ address mnemonic k, sdk.derivePqcCanonical address mnemonic = .ok k →
    k.publicKey.length = ML_DSA_87_PUBLIC_KEY_BYTES
  legacy : ∀ mnemonic k, sdk.derivePqcLegacy mnemonic = .ok k →
    k.publicKey.length = ML_DSA_87_PUBLIC_KEY_BYTES
  seed : ∀ seed k, sdk.generatePqcKeypair seed = .ok k → k.publicKey.length = ML_DSA_87_PUBLIC_KEY_BYTES

section
variable {sdk : PqcSdk} {client : RdkClient} {fetch : FetchLike} {baseUrl address : String} {key : Bytes}

theorem registeredPqcKey_unread (rest : client.rest = restClient fetch baseUrl)
    (unread : ¬ Readable (fetch (base baseUrl ++ accountPath address))) : registeredPqcKey client address = "" := by
  unfold registeredPqcKey
  rw [rest]
  change (match getPqcAccount fetch baseUrl address with
    | .ok account => toLowerCase account.publicKey
    | .error _ => "") = ""
  split
  · rename_i account read
    obtain ⟨body, got, -⟩ := bind_ok read
    obtain ⟨res, value, answer, ok, parsed, -⟩ := get_ok_iff.mp got
    exact absurd ⟨res, value, answer, ok, parsed⟩ unread
  · rfl

theorem registeredPqcKey_decoded {res : HttpResponse} {value : Json} {held : Bytes}
    (rest : client.rest = restClient fetch baseUrl)
    (answer : fetch (base baseUrl ++ accountPath address) = .ok res) (ok : res.ok = true)
    (parsed : res.json = .ok value)
    (read : decodeWireBytes (str (pick (nested (asRecord value) "account") ["public_key", "publicKey"])) =
      .ok held) : registeredPqcKey client address = bytesToHex held := by
  have got := get_ok_iff.mpr ⟨res, value, answer, ok, parsed, rfl⟩
  have account : client.rest.getPqcAccount address = .ok ⟨bytesToHex held⟩ := by
    rw [rest]
    change getPqcAccount fetch baseUrl address = _
    unfold getPqcAccount mapPqcAccountView
    change (RestClient.get fetch baseUrl (accountPath address) >>= _) = _
    rw [got, ok_bind, hexBytes_ok read]
    rfl
  unfold registeredPqcKey
  rw [account]
  exact toLowerCase_bytesToHex held

/-- A record gives the key that the chain holds, or a shorter one in its place. -/
theorem registeredPqcKey_read (rest : client.rest = restClient fetch baseUrl)
    (answers : Answers key (fetch (base baseUrl ++ accountPath address)))
    (readable : Readable (fetch (base baseUrl ++ accountPath address))) :
    ∃ held, registeredPqcKey client address = bytesToHex held ∧
      (held = key ∨ 3 * held.length = 2 * key.length) := by
  obtain ⟨res, value, answer, ok, parsed⟩ := readable
  have spelled : Spells (str (pick (nested (asRecord value) "account") ["public_key", "publicKey"])) key := by
    rw [answer] at answers
    cases answers with
    | record _ parsed' holds =>
      rw [parsed] at parsed'
      cases parsed'
      exact holds
    | garbled _ parsed' =>
      rw [parsed] at parsed'
      cases parsed'
    | notFound refused _ _ =>
      rw [ok] at refused
      cases refused
    | refused refused _ =>
      rw [ok] at refused
      cases refused
  obtain ⟨held, read, sized⟩ := decodeWireBytes_spells spelled
  exact ⟨held, registeredPqcKey_decoded rest answer ok parsed read, sized⟩

/-! ### What is returned -/

def Derived (sdk : PqcSdk) (address mnemonic : String) : Prop :=
  ∃ canonical legacy, sdk.derivePqcCanonical address mnemonic = .ok canonical ∧
    sdk.derivePqcLegacy mnemonic = .ok legacy

/-- There is a source, and a key comes of it. -/
def EnvDerived (sdk : PqcSdk) (address : String) (env : Env) : Prop :=
  if setting env.QORE_PQC_SEED_HEX ≠ "" then ∃ k, seedKeypair sdk (setting env.QORE_PQC_SEED_HEX) = .ok k
  else setting env.QORE_MNEMONIC ≠ "" ∧ Derived sdk address (setting env.QORE_MNEMONIC)

/-- A key that was found registered is the one of the read; otherwise the read found none. -/
def Compared (held : Bytes) (resolved : ResolvedPqcKeypair) : Prop :=
  (held = [] ∧ resolved.registered = false ∧ resolved.includePqcPublicKey = true) ∨
    (resolved.keypair.publicKey = held ∧ resolved.registered = true ∧ resolved.includePqcPublicKey = false ∧
      held.length = ML_DSA_87_PUBLIC_KEY_BYTES)

variable {held : Bytes} {resolved : ResolvedPqcKeypair} {mnemonic : String} {env : Env}

theorem Compared.rightFor (compared : Compared held resolved)
    (sized : held = key ∨ 3 * held.length = 2 * key.length)
    (keyed : key = [] ∨ key.length = ML_DSA_87_PUBLIC_KEY_BYTES) : RightFor key resolved := by
  unfold ML_DSA_87_PUBLIC_KEY_BYTES at keyed
  rcases compared with ⟨rfl, unregistered, included⟩ | ⟨same, registered, excluded, width⟩
  · have none : key = [] := by
      rcases sized with same | shorter
      · exact same.symm
      · apply List.length_eq_zero_iff.mp
        simp only [List.length_nil] at shorter
        omega
    exact ⟨fun some_key => absurd none some_key, fun _ _ => none⟩
  · unfold ML_DSA_87_PUBLIC_KEY_BYTES at width
    have found : held = key := by
      rcases sized with same | shorter
      · exact same
      · rcases keyed with rfl | full
        · simp only [List.length_nil] at shorter
          omega
        · omega
    refine ⟨fun _ => ⟨same.trans found, registered, excluded⟩, ?_⟩
    intro unregistered
    rw [registered] at unregistered
    cases unregistered

theorem resolvePqcKeypair_compared (sdkSized : sdk.Sized)
    (read : registeredPqcKey client address = bytesToHex held)
    (result : resolvePqcKeypair sdk client address mnemonic = .ok resolved) : Compared held resolved := by
  obtain ⟨canonical, derived, result⟩ := bind_ok result
  obtain ⟨legacy, derived', result⟩ := bind_ok result
  simp only [read, toLowerCase_bytesToHex, bytesToHex_eq_empty] at result
  split at result
  · rename_i none
    obtain rfl := pure_ok_iff.mp result
    exact Or.inl ⟨none, rfl, rfl⟩
  · split at result
    · rename_i same
      obtain rfl := pure_ok_iff.mp result
      have found := bytesToHex_inj same
      exact Or.inr ⟨found.symm, rfl, rfl, found ▸ sdkSized.canonical _ _ _ derived⟩
    · split at result
      · rename_i same
        obtain rfl := pure_ok_iff.mp result
        have found := bytesToHex_inj same
        exact Or.inr ⟨found.symm, rfl, rfl, found ▸ sdkSized.legacy _ _ derived'⟩
      · cases result

theorem resolvePqcKeypair_legacy {canonical legacy : PqcKeypair}
    (canonicalDerived : sdk.derivePqcCanonical address mnemonic = .ok canonical)
    (legacyDerived : sdk.derivePqcLegacy mnemonic = .ok legacy)
    (registered : registeredPqcKey client address = bytesToHex legacy.publicKey)
    (nonempty : legacy.publicKey ≠ []) (other : legacy.publicKey ≠ canonical.publicKey) :
    resolvePqcKeypair sdk client address mnemonic = .ok ⟨legacy, .legacy, true, false⟩ := by
  unfold resolvePqcKeypair
  rw [canonicalDerived, ok_bind, legacyDerived, ok_bind]
  dsimp only
  rw [registered, if_neg (mt bytesToHex_eq_empty.mp nonempty), toLowerCase_bytesToHex,
    if_neg (mt bytesToHex_inj other), toLowerCase_bytesToHex, if_pos rfl]
  rfl

theorem resolvePqcKeypair_unread (read : registeredPqcKey client address = "")
    (derived : Derived sdk address mnemonic) :
    ∃ resolved, resolvePqcKeypair sdk client address mnemonic = .ok resolved ∧ resolved.registered = false := by
  obtain ⟨canonical, legacy, first, second⟩ := derived
  refine ⟨⟨canonical, .canonical, false, true⟩, ?_, rfl⟩
  unfold resolvePqcKeypair
  rw [first, ok_bind, second, ok_bind, read]
  rfl

theorem resolvePqcKeypair_derived (result : resolvePqcKeypair sdk client address mnemonic = .ok resolved) :
    Derived sdk address mnemonic := by
  obtain ⟨canonical, derived, result⟩ := bind_ok result
  obtain ⟨legacy, derived', -⟩ := bind_ok result
  exact ⟨canonical, legacy, derived, derived'⟩

theorem seedKeypair_sized (sdkSized : sdk.Sized) {seedHex : String} {k : PqcKeypair}
    (result : seedKeypair sdk seedHex = .ok k) : k.publicKey.length = ML_DSA_87_PUBLIC_KEY_BYTES := by
  obtain ⟨seed, -, result⟩ := bind_ok result
  obtain ⟨-, result⟩ := guard_ok_iff.mp result
  exact sdkSized.seed _ _ result

theorem pqcKeypairFromEnv_compared (sdkSized : sdk.Sized)
    (read : registeredPqcKey client address = bytesToHex held)
    (result : pqcKeypairFromEnv sdk client address env = .ok (some resolved)) : Compared held resolved := by
  unfold pqcKeypairFromEnv at result
  dsimp only at result
  split at result
  · obtain ⟨k, derived, result⟩ := bind_ok result
    simp only [read, toLowerCase_bytesToHex, bytesToHex_eq_empty] at result
    split at result
    · rename_i none
      cases pure_ok_iff.mp result
      exact Or.inl ⟨none, rfl, rfl⟩
    · split at result
      · rename_i same
        cases pure_ok_iff.mp result
        have found := bytesToHex_inj same
        exact Or.inr ⟨found.symm, rfl, rfl, found ▸ seedKeypair_sized sdkSized derived⟩
      · cases result
  · split at result
    · obtain ⟨r, result, same⟩ := bind_ok result
      cases pure_ok_iff.mp same
      exact resolvePqcKeypair_compared sdkSized read result
    · cases pure_ok_iff.mp result

theorem pqcKeypairFromEnv_unread (read : registeredPqcKey client address = "")
    (derived : EnvDerived sdk address env) :
    ∃ resolved, pqcKeypairFromEnv sdk client address env = .ok (some resolved) ∧
      resolved.registered = false := by
  unfold EnvDerived at derived
  unfold pqcKeypairFromEnv
  dsimp only
  split at derived
  · obtain ⟨k, derived⟩ := derived
    refine ⟨⟨k, .seed, false, true⟩, ?_, rfl⟩
    rename_i seed
    rw [if_pos seed, derived, ok_bind, read]
    rfl
  · rename_i seed
    obtain ⟨mnemonic, derived⟩ := derived
    obtain ⟨resolved, result, unregistered⟩ := resolvePqcKeypair_unread read derived
    refine ⟨resolved, ?_, unregistered⟩
    rw [if_neg seed, if_pos mnemonic, result]
    rfl

theorem pqcKeypairFromEnv_derived (result : pqcKeypairFromEnv sdk client address env = .ok (some resolved)) :
    EnvDerived sdk address env := by
  unfold pqcKeypairFromEnv at result
  unfold EnvDerived
  dsimp only at result
  split at result
  · rename_i seed
    obtain ⟨k, derived, -⟩ := bind_ok result
    rw [if_pos seed]
    exact ⟨k, derived⟩
  · rename_i seed
    rw [if_neg seed]
    split at result
    · rename_i mnemonic
      obtain ⟨r, result, -⟩ := bind_ok result
      exact ⟨mnemonic, resolvePqcKeypair_derived result⟩
    · cases pure_ok_iff.mp result

theorem pqcKeypairFromEnv_none (result : pqcKeypairFromEnv sdk client address env = .ok none) :
    setting env.QORE_PQC_SEED_HEX = "" ∧ setting env.QORE_MNEMONIC = "" := by
  unfold pqcKeypairFromEnv at result
  dsimp only at result
  split at result
  · obtain ⟨k, -, result⟩ := bind_ok result
    split at result
    · cases pure_ok_iff.mp result
    · split at result
      · cases pure_ok_iff.mp result
      · cases result
  · rename_i seed
    split at result
    · obtain ⟨r, -, same⟩ := bind_ok result
      cases pure_ok_iff.mp same
    · rename_i mnemonic
      exact ⟨not_not.mp seed, not_not.mp mnemonic⟩

/-- What both resolvers have in common: a result is compared with the read, and a failed read passes for a
chain without the key. -/
theorem right_iff {returns : ResolvedPqcKeypair → Prop} {derives : Prop}
    (rest : client.rest = restClient fetch baseUrl)
    (answers : Answers key (fetch (base baseUrl ++ accountPath address)))
    (keyed : key = [] ∨ key.length = ML_DSA_87_PUBLIC_KEY_BYTES)
    (compared : ∀ held r, registeredPqcKey client address = bytesToHex held → returns r → Compared held r)
    (unread : registeredPqcKey client address = "" → derives → ∃ r, returns r ∧ r.registered = false)
    (derived : ∀ r, returns r → derives) :
    (∀ r, returns r → RightFor key r) ↔
      key = [] ∨ Readable (fetch (base baseUrl ++ accountPath address)) ∨ ¬ derives := by
  constructor
  · intro right
    by_contra fails
    simp only [not_or, not_not] at fails
    obtain ⟨some_key, unreadable, derives⟩ := fails
    obtain ⟨r, returned, unregistered⟩ := unread (registeredPqcKey_unread rest unreadable) derives
    have registered := ((right r returned).1 some_key).2.1
    rw [unregistered] at registered
    cases registered
  · intro h r returned
    rcases h with rfl | readable | fails
    · exact ⟨fun some_key => absurd rfl some_key, fun _ _ => rfl⟩
    · obtain ⟨held, read, sized⟩ := registeredPqcKey_read rest answers readable
      exact (compared held r read returned).rightFor sized keyed
    · exact absurd (derived r returned) fails

end

/-- On a chain that holds a key, the key is found exactly where the account can be read, or where no key is
derived to compare it with. -/
theorem resolved_right_iff {sdk : PqcSdk} {client : RdkClient} {fetch : FetchLike} {baseUrl : String}
    {key : Bytes} (sized : sdk.Sized) (keyed : key = [] ∨ key.length = ML_DSA_87_PUBLIC_KEY_BYTES)
    (rest : client.rest = restClient fetch baseUrl) (address mnemonic : String) (env : Env)
    (answers : Answers key (fetch (base baseUrl ++ accountPath address))) :
    ((∀ resolved, resolvePqcKeypair sdk client address mnemonic = .ok resolved → RightFor key resolved) ↔
      key = [] ∨ Readable (fetch (base baseUrl ++ accountPath address)) ∨ ¬ Derived sdk address mnemonic) ∧
    ((∀ resolved, pqcKeypairFromEnv sdk client address env = .ok (some resolved) → RightFor key resolved) ↔
      key = [] ∨ Readable (fetch (base baseUrl ++ accountPath address)) ∨ ¬ EnvDerived sdk address env) ∧
    (pqcKeypairFromEnv sdk client address env = .ok none →
      setting env.QORE_PQC_SEED_HEX = "" ∧ setting env.QORE_MNEMONIC = "") := by
  refine ⟨?_, ?_, pqcKeypairFromEnv_none⟩
  · apply right_iff rest answers keyed
    · intro held r read result
      exact resolvePqcKeypair_compared sized read result
    · exact resolvePqcKeypair_unread
    · intro r result
      exact resolvePqcKeypair_derived result
  · apply right_iff rest answers keyed
    · intro held r read result
      exact pqcKeypairFromEnv_compared sized read result
    · exact pqcKeypairFromEnv_unread
    · intro r result
      exact pqcKeypairFromEnv_derived result

def sampleKeypair (n : UInt8) : PqcKeypair where
  publicKey := List.replicate ML_DSA_87_PUBLIC_KEY_BYTES n
  secretKey := [n]

def sampleSdk : PqcSdk where
  derivePqcCanonical := fun _ _ => .ok (sampleKeypair 1)
  derivePqcLegacy := fun _ => .ok (sampleKeypair 2)
  generatePqcKeypair := fun _ => .ok (sampleKeypair 3)

theorem sampleSdk_sized : sampleSdk.Sized where
  canonical := by
    rintro _ _ k ⟨⟩
    exact List.length_replicate
  legacy := by
    rintro _ k ⟨⟩
    exact List.length_replicate
  seed := by
    rintro _ k ⟨⟩
    exact List.length_replicate

/-- A node that is down for maintenance. -/
def unavailable : FetchLike := fun _ => .ok ⟨false, 503, "Service Unavailable", .ok .null⟩

def accountBody (key : Bytes) : Json :=
  .object [("account", .object [("public_key", .string (bytesToHex key))])]

def accountRecord (key : Bytes) : FetchLike := fun _ => .ok ⟨true, 200, "OK", .ok (accountBody key)⟩

theorem accountRecord_answers (key : Bytes) (url : String) : Answers key (accountRecord key url) :=
  @Answers.record key _ (accountBody key) rfl rfl (spells_bytesToHex key)

theorem accountRecord_readable (key : Bytes) (url : String) : Readable (accountRecord key url) :=
  ⟨_, _, rfl, rfl, rfl⟩

def accountClient (fetch : FetchLike) : RdkClient where
  rest := restClient fetch "http://node"
  network := { chainId := "q", anchorSignV2Height := 4000 }

theorem sampleKeypair_ne_nil (n : UInt8) : (sampleKeypair n).publicKey ≠ [] := by
  intro empty
  have width : (sampleKeypair n).publicKey.length = ML_DSA_87_PUBLIC_KEY_BYTES := List.length_replicate
  rw [empty] at width
  cases width

/-- The chain holds the legacy key, and it is the one that is resolved. -/
theorem accountRecord_resolved :
    resolvePqcKeypair sampleSdk (accountClient (accountRecord (sampleKeypair 2).publicKey)) "a" "m" =
      .ok ⟨sampleKeypair 2, .legacy, true, false⟩ := by
  apply resolvePqcKeypair_legacy rfl rfl
  · exact registeredPqcKey_decoded rfl rfl rfl rfl (decodeWireBytes_bytesToHex _)
  · exact sampleKeypair_ne_nil 2
  · intro same
    have digits := (List.replicate_right_inj (by decide)).mp same
    cases digits

theorem resolved_right_iff_sample : ∃ resolved,
    resolvePqcKeypair sampleSdk (accountClient (accountRecord (sampleKeypair 2).publicKey)) "a" "m" = .ok resolved ∧
      RightFor (sampleKeypair 2).publicKey resolved := by
  have rest : (accountClient (accountRecord (sampleKeypair 2).publicKey)).rest =
    restClient (accountRecord (sampleKeypair 2).publicKey) "http://node" := rfl
  have right := (resolved_right_iff sampleSdk_sized (Or.inr List.length_replicate) rest "a" "m" {}
    (accountRecord_answers (sampleKeypair 2).publicKey _)).1.mpr (Or.inr (Or.inl (accountRecord_readable _ _)))
  exact ⟨_, accountRecord_resolved, right _ accountRecord_resolved⟩

/-- While the node is down, an account with a key is told to register another one. -/
theorem unavailable_unregistered : ¬ ∀ (fetch : FetchLike) (key : Bytes) (address mnemonic : String),
    Answers key (fetch (base "http://node" ++ accountPath address)) →
      ∀ resolved, resolvePqcKeypair sampleSdk (accountClient fetch) address mnemonic = .ok resolved →
        RightFor key resolved := by
  intro right
  have answers : Answers (sampleKeypair 2).publicKey (unavailable (base "http://node" ++ accountPath "a")) :=
    .refused rfl (by decide)
  have result : resolvePqcKeypair sampleSdk (accountClient unavailable) "a" "m" =
      .ok ⟨sampleKeypair 1, .canonical, false, true⟩ := rfl
  have registered := ((right unavailable _ "a" "m" answers _ result).1 (sampleKeypair_ne_nil 2)).2.1
  cases registered

end QorechainRdk
