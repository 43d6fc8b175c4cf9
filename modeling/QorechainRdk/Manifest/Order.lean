import QorechainRdk.Manifest.Model

/-!
# Manifests in another order

A library may hand on the members of an object in another order than it found them. What is written is then still the
same manifest.
-/

namespace QorechainRdk

open Js

mutual

/-- The same value up to the order of the members of its objects. -/
inductive Reordered : Json → Json → Prop
  | same (value : Json) : Reordered value value
  | array {items others : List Json} : ReorderedItems items others → Reordered (.array items) (.array others)
  | object {fs hs gs : List (String × Json)} :
      ReorderedFields fs hs → hs.Perm gs → Reordered (.object fs) (.object gs)

inductive ReorderedItems : List Json → List Json → Prop
  | nil : ReorderedItems [] []
  | cons {item other : Json} {items others : List Json} :
      Reordered item other → ReorderedItems items others → ReorderedItems (item :: items) (other :: others)

inductive ReorderedFields : List (String × Json) → List (String × Json) → Prop
  | nil : ReorderedFields [] []
  | cons {key : String} {value other : Json} {fs gs : List (String × Json)} :
      Reordered value other → ReorderedFields fs gs → ReorderedFields ((key, value) :: fs) ((key, other) :: gs)

end

theorem ReorderedFields.forall₂ {fs gs : List (String × Json)} (related : ReorderedFields fs gs) :
    List.Forall₂ (fun a b => a.1 = b.1 ∧ Reordered a.2 b.2) fs gs := by
  induction fs generalizing gs with
  | nil =>
    cases related
    exact .nil
  | cons f fs ih =>
    cases related with
    | cons here rest => exact .cons ⟨rfl, here⟩ (ih rest)

/-- A value without members in it. -/
def Leaf (value : Json) : Prop := ∀ other, Reordered value other → other = value

theorem string_leaf (s : String) : Leaf (.string s) := by
  intro other reordered
  cases reordered
  rfl

theorem number_leaf (n : Number) : Leaf (.number n) := by
  intro other reordered
  cases reordered
  rfl

theorem strings_kept {texts : List String} {others : List Json}
    (related : ReorderedItems (texts.map Json.string) others) : others = texts.map Json.string := by
  induction texts generalizing others with
  | nil =>
    cases related
    rfl
  | cons s texts ih =>
    rw [List.map_cons] at related ⊢
    cases related with
    | cons here rest => rw [string_leaf s _ here, ih rest]

theorem texts_leaf (texts : List String) : Leaf (textsJson texts) := by
  intro other reordered
  unfold textsJson at reordered ⊢
  cases reordered with
  | same => rfl
  | array items => rw [strings_kept items]

section
variable {fields others : List (String × Option Json)} {fs : List (String × Json)} {value other : Json}

theorem Reordered.object_inv (reordered : Reordered (.object fs) other) :
    ∃ hs gs, other = .object gs ∧ List.Forall₂ (fun a b => a.1 = b.1 ∧ Reordered a.2 b.2) fs hs ∧ hs.Perm gs := by
  cases reordered with
  | same => exact ⟨fs, fs, rfl, List.forall₂_same.mpr fun f _ => ⟨rfl, .same f.2⟩, List.Perm.refl _⟩
  | object related perm => exact ⟨_, _, rfl, related.forall₂, perm⟩

theorem IsRecord.reordered (written : IsRecord value fields) (reordered : Reordered value other) :
    ∃ others, IsRecord other others ∧ List.Forall₂ (Records.FieldRel Reordered) fields others := by
  obtain ⟨fs, rfl, spells⟩ := written
  obtain ⟨hs, gs, rfl, related, perm⟩ := reordered.object_inv
  obtain ⟨others, spelled, rel⟩ := spells.related related perm
  exact ⟨others, ⟨gs, rfl, spelled⟩, rel⟩

def LeafField (field : String × Option Json) : Prop := ∀ value, field.2 = some value → Leaf value

theorem leafField_map {α : Type} {write : α → Json} (leaf : ∀ a, Leaf (write a)) (name : String) (held : Option α) :
    LeafField (name, held.map write) := by
  intro value given
  obtain ⟨a, -, rfl⟩ := Option.map_eq_some_iff.mp given
  exact leaf a

theorem leaves_first {front tail : List (String × Option Json)}
    (related : List.Forall₂ (Records.FieldRel Reordered) (front ++ tail) others)
    (leaves : ∀ field ∈ front, LeafField field) :
    ∃ rest, others = front ++ rest ∧ List.Forall₂ (Records.FieldRel Reordered) tail rest := by
  induction front generalizing others with
  | nil => exact ⟨others, rfl, related⟩
  | cons field front ih =>
    obtain ⟨⟨name, held⟩, rest, ⟨named, here⟩, related', rfl⟩ := List.forall₂_cons_left_iff.mp related
    obtain ⟨leaf, others⟩ := List.forall_mem_cons.mp leaves
    obtain ⟨key, value⟩ := field
    have named : key = name := named
    have kept : held = value := by
      cases here with
      | none => rfl
      | some reordered => rw [leaf _ rfl _ reordered]
    obtain ⟨rest, rfl, tails⟩ := ih related' others
    exact ⟨rest, by rw [kept, named]; rfl, tails⟩

theorem leaves_kept (related : List.Forall₂ (Records.FieldRel Reordered) fields others)
    (leaves : ∀ field ∈ fields, LeafField field) : others = fields := by
  rw [← List.append_nil fields] at related
  obtain ⟨rest, rfl, nothing⟩ := leaves_first related leaves
  cases nothing
  exact List.append_nil fields

theorem rel_reordered {α : Type} {written : α → Json → Prop} {held : Option α} {value other : Option Json}
    (kept : ∀ a v w, written a v → Reordered v w → written a w) (given : Option.Rel written held value)
    (reordered : Option.Rel Reordered value other) : Option.Rel written held other := by
  cases given with
  | none =>
    cases reordered
    exact .none
  | some given =>
    cases reordered with
    | some reordered => exact .some (kept _ _ _ given reordered)

end

theorem TextMap.Written.reordered {m : TextMap} {value other : Json} (written : m.Written value)
    (reordered : Reordered value other) : m.Written other := by
  obtain ⟨es, perm, rfl⟩ := written
  obtain ⟨hs, gs, rfl, related, moved⟩ := reordered.object_inv
  have kept : hs = es.map fun e => (e.1, Json.string e.2) := by
    clear moved perm reordered
    induction es generalizing hs with
    | nil =>
      cases related
      rfl
    | cons e es ih =>
      obtain ⟨⟨name, v⟩, rest, ⟨named, here⟩, inner, rfl⟩ := List.forall₂_cons_left_iff.mp related
      have named : e.1 = name := named
      rw [ih rest inner, List.map_cons, ← string_leaf e.2 v here, named]
  rw [kept] at moved
  have image := iff_of_eq (congrFun (congrFun (List.eq_map_comp_perm fun e : String × String => (e.1, Json.string e.2))
    gs) es)
  obtain ⟨es', same, perm'⟩ := image.mpr moved.symm
  exact ⟨es', perm'.trans perm, congrArg Json.object same⟩

theorem SequencerParams.Written.reordered {params : SequencerParams} {value other : Json}
    (written : params.Written value) (reordered : Reordered value other) : params.Written other := by
  obtain ⟨others, record, related⟩ := IsRecord.reordered written reordered
  have leaves : ∀ field ∈ params.fields, LeafField field := by
    simp only [fields, List.forall_mem_cons]
    exact ⟨leafField_map string_leaf _ _, leafField_map number_leaf _ _, leafField_map number_leaf _ _,
      leafField_map string_leaf _ _, List.forall_mem_nil _⟩
  rw [leaves_kept related leaves] at record
  exact record

theorem PartialEndpoints.Written.reordered {endpoints : PartialEndpoints} {value other : Json}
    (written : endpoints.Written value) (reordered : Reordered value other) : endpoints.Written other := by
  obtain ⟨others, record, related⟩ := IsRecord.reordered written reordered
  have leaves : ∀ field ∈ endpoints.fields, LeafField field := by
    simp only [fields, List.forall_mem_cons]
    exact ⟨leafField_map string_leaf _ _, leafField_map string_leaf _ _, leafField_map string_leaf _ _,
      leafField_map string_leaf _ _, List.forall_mem_nil _⟩
  rw [leaves_kept related leaves] at record
  exact record

theorem RollupConfig.Written.reordered {config : RollupConfig} {value other : Json}
    (written : config.Written value) (reordered : Reordered value other) : config.Written other := by
  obtain ⟨params, given, record⟩ := written
  obtain ⟨others, record, related⟩ := record.reordered reordered
  have text : ∀ name held, LeafField (name, Option.map Json.string held) := leafField_map string_leaf
  have number : ∀ name held, LeafField (name, Option.map Json.number held) := leafField_map number_leaf
  obtain ⟨rest, rfl, tail⟩ := @leaves_first _ [_, _, _, _] _ related (by
    simp only [List.forall_mem_cons]
    exact ⟨text _ _, text _ _, text _ _, text _ _, List.forall_mem_nil _⟩)
  obtain ⟨⟨name, params'⟩, back, ⟨rfl, moved⟩, last, rfl⟩ := List.forall₂_cons_left_iff.mp tail
  have kept := leaves_kept last (by
    simp only [List.forall_mem_cons]
    exact ⟨text _ _, text _ _, text _ _, text _ _, number _ _, number _ _, number _ _, text _ _, number _ _, text _ _,
      List.forall_mem_nil _⟩)
  subst kept
  exact ⟨params', rel_reordered (fun _ _ _ => SequencerParams.Written.reordered) given moved, record⟩

theorem RollupManifest.Written.reordered {manifest : RollupManifest} {value other : Json}
    (written : manifest.Written value) (reordered : Reordered value other) : manifest.Written other := by
  obtain ⟨endpoints, config, addresses, givenEndpoints, givenConfig, givenAddresses, record⟩ := written
  obtain ⟨others, record, related⟩ := record.reordered reordered
  have text : ∀ name held, LeafField (name, Option.map Json.string held) := leafField_map string_leaf
  have number : ∀ name held, LeafField (name, Option.map Json.number held) := leafField_map number_leaf
  obtain ⟨rest, rfl, tail⟩ := @leaves_first _ [_, _, _, _] _ related (by
    simp only [List.forall_mem_cons]
    exact ⟨text _ _, number _ _, text _ _, text _ _, List.forall_mem_nil _⟩)
  obtain ⟨⟨_, endpoints'⟩, _, ⟨rfl, movedEndpoints⟩, second, rfl⟩ := List.forall₂_cons_left_iff.mp tail
  obtain ⟨⟨_, config'⟩, _, ⟨rfl, movedConfig⟩, third, rfl⟩ := List.forall₂_cons_left_iff.mp second
  obtain ⟨⟨_, addresses'⟩, _, ⟨rfl, movedAddresses⟩, last, rfl⟩ := List.forall₂_cons_left_iff.mp third
  have kept := leaves_kept last (by
    simp only [List.forall_mem_cons]
    exact ⟨text _ _, leafField_map texts_leaf _ _, List.forall_mem_nil _⟩)
  subst kept
  cases movedConfig with
  | some movedConfig =>
    exact ⟨endpoints', _, addresses',
      rel_reordered (fun _ _ _ => PartialEndpoints.Written.reordered) givenEndpoints movedEndpoints,
      givenConfig.reordered movedConfig,
      rel_reordered (fun _ _ _ => TextMap.Written.reordered) givenAddresses movedAddresses, record⟩

end QorechainRdk
