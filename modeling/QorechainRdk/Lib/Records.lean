import Mathlib.Data.List.Nodup
import Mathlib.Data.List.Perm.Basic

/-!
# Records as lists of named values

A record is written as a list of its set fields and may be read in any order. A reader takes the values under a name,
or under every name that it does not tell apart; of a record without repeated names it finds what was written.
-/

namespace Records

variable {κ V : Type}

/-- The fields that are set. -/
def set (fields : List (κ × Option V)) : List (κ × V) :=
  fields.filterMap fun field => field.2.map fun value => (field.1, value)

/-- The values under the names that pass a test, in order. -/
def under (same : κ → Bool) (fs : List (κ × V)) : List V := (fs.filter fun f => same f.1).map Prod.snd

/-- `fs` has the set fields of a record, in some order. -/
def Spells (fs : List (κ × V)) (fields : List (κ × Option V)) : Prop := fs.Perm (set fields)

section
variable {fields : List (κ × Option V)} {fs : List (κ × V)} {name : κ} {value : Option V} {same : κ → Bool}

theorem spells_set : Spells (set fields) fields := List.Perm.refl _

theorem set_cons (value : Option V) :
    set ((name, value) :: fields) = (value.toList.map fun v => (name, v)) ++ set fields := by
  cases value <;> rfl

theorem names_sublist (fields : List (κ × Option V)) :
    ((set fields).map Prod.fst).Sublist (fields.map Prod.fst) := by
  induction fields with
  | nil => exact List.Sublist.slnil
  | cons field fields ih =>
    obtain ⟨key, value⟩ := field
    cases value with
    | none => exact ih.cons key
    | some value => exact ih.cons_cons key

theorem mem_set {v : V} : (name, v) ∈ set fields ↔ (name, some v) ∈ fields := by
  unfold set
  rw [List.mem_filterMap]
  constructor
  · intro h
    obtain ⟨⟨key, held⟩, member, same⟩ := h
    obtain ⟨w, rfl, same⟩ := Option.map_eq_some_iff.mp same
    cases same
    exact member
  · intro member
    exact ⟨(name, some v), member, rfl⟩

theorem under_nil (none : ∀ f ∈ fs, same f.1 = false) : under same fs = [] := by
  have empty : (fs.filter fun f => same f.1) = [] := by
    rw [List.filter_eq_nil_iff]
    intro f member
    rw [none f member]
    exact Bool.false_ne_true
  unfold under
  rw [empty, List.map_nil]

theorem under_append {gs : List (κ × V)} : under same (fs ++ gs) = under same fs ++ under same gs := by
  unfold under
  rw [List.filter_append, List.map_append]

theorem under_perm {gs : List (κ × V)} (perm : fs.Perm gs) : (under same fs).Perm (under same gs) :=
  (perm.filter _).map _

/-- A test that only one field of the record passes finds the value of that field. -/
theorem under_set (distinct : (fields.map Prod.fst).Nodup) (member : (name, value) ∈ fields)
    (only : ∀ f ∈ fields, same f.1 = true ↔ f.1 = name) : under same (set fields) = value.toList := by
  induction fields with
  | nil => cases member
  | cons field fields ih =>
    obtain ⟨key, held⟩ := field
    obtain ⟨fresh, distinct⟩ := List.nodup_cons.mp distinct
    have only' := fun f inside => only f (List.mem_cons_of_mem _ inside)
    rw [set_cons, under_append]
    rcases List.mem_cons.mp member with here | inside
    · cases here
      have others : under same (set fields) = [] := by
        apply under_nil
        intro f inside
        have listed : (f.1, some f.2) ∈ fields := mem_set.mp inside
        rw [Bool.eq_false_iff]
        intro passes
        have named : f.1 = name := (only' _ listed).mp passes
        have again : name ∈ fields.map Prod.fst := named ▸ List.mem_map.mpr ⟨_, listed, rfl⟩
        exact fresh again
      have passes : same name = true := (only _ List.mem_cons_self).mpr rfl
      rw [others, List.append_nil]
      cases value with
      | none => rfl
      | some v => simp [under, passes]
    · have other : same key = false := by
        rw [Bool.eq_false_iff]
        intro passes
        have named : key = name := (only _ List.mem_cons_self).mp passes
        have again : key ∈ fields.map Prod.fst := named ▸ List.mem_map.mpr ⟨_, inside, rfl⟩
        exact fresh again
      have nothing : under same (held.toList.map fun v => (key, v)) = [] := by
        apply under_nil
        intro f inside
        obtain ⟨v, -, rfl⟩ := List.mem_map.mp inside
        exact other
      rw [nothing, List.nil_append]
      exact ih distinct inside only'

theorem Spells.under (spells : Spells fs fields) (distinct : (fields.map Prod.fst).Nodup)
    (member : (name, value) ∈ fields) (only : ∀ f ∈ fields, same f.1 = true ↔ f.1 = name) :
    under same fs = value.toList := by
  have perm : (Records.under same fs).Perm (Records.under same (set fields)) := under_perm spells
  rw [under_set distinct member only] at perm
  cases value with
  | none => exact List.perm_nil.mp perm
  | some v => exact List.perm_singleton.mp perm

theorem Spells.distinct (spells : Spells fs fields) (distinct : (fields.map Prod.fst).Nodup) :
    (fs.map Prod.fst).Nodup :=
  (spells.map Prod.fst).nodup_iff.mpr (distinct.sublist (names_sublist fields))

/-! ### Values of another type -/

section
variable {W : Type} {f : V → W} {R : V → W → Prop} {hs gs : List (κ × W)}

theorem set_map (fields : List (κ × Option V)) :
    set (fields.map fun field => (field.1, field.2.map f)) = (set fields).map fun e => (e.1, f e.2) := by
  induction fields with
  | nil => rfl
  | cons field fields ih =>
    obtain ⟨key, value⟩ := field
    rw [List.map_cons, set_cons, set_cons, ih]
    cases value <;> rfl

/-- Fields whose values are images are spelled by an image. -/
theorem Spells.of_map (spells : Spells hs (fields.map fun field => (field.1, field.2.map f))) :
    ∃ es, Spells es fields ∧ hs = es.map fun e => (e.1, f e.2) := by
  unfold Spells at spells
  rw [set_map] at spells
  have image := iff_of_eq (congrFun (congrFun (List.eq_map_comp_perm fun e : κ × V => (e.1, f e.2)) hs) (set fields))
  obtain ⟨es, same, perm⟩ := image.mpr spells
  exact ⟨es, perm, same⟩

/-- One of the fields of the same names, each with its value or without one as well. -/
def FieldRel (R : V → W → Prop) (a : κ × Option V) (b : κ × Option W) : Prop := a.1 = b.1 ∧ Option.Rel R a.2 b.2

/-- The members that stand in a relation to those of a record are a record of the same names. -/
theorem related_set (related : List.Forall₂ (fun a b => a.1 = b.1 ∧ R a.2 b.2) (set fields) hs) :
    ∃ others, hs = set others ∧ List.Forall₂ (FieldRel R) fields others := by
  induction fields generalizing hs with
  | nil =>
    cases related
    exact ⟨[], rfl, .nil⟩
  | cons field fields ih =>
    obtain ⟨key, value⟩ := field
    cases value with
    | none =>
      obtain ⟨others, rfl, rest⟩ := ih related
      exact ⟨(key, none) :: others, rfl, .cons ⟨rfl, .none⟩ rest⟩
    | some v =>
      obtain ⟨⟨name, w⟩, tail, ⟨named, here⟩, inner, rfl⟩ := List.forall₂_cons_left_iff.mp related
      obtain ⟨others, rfl, rest⟩ := ih inner
      have first : key = name := named
      subst first
      exact ⟨(key, some w) :: others, rfl, .cons ⟨rfl, .some here⟩ rest⟩

theorem Spells.related (spells : Spells fs fields)
    (related : List.Forall₂ (fun a b => a.1 = b.1 ∧ R a.2 b.2) fs hs) (perm : hs.Perm gs) :
    ∃ others, Spells gs others ∧ List.Forall₂ (FieldRel R) fields others := by
  obtain ⟨ks, first, second⟩ := List.perm_comp_forall₂ spells.symm related
  obtain ⟨others, rfl, rest⟩ := related_set first
  exact ⟨others, perm.symm.trans second.symm, rest⟩

end

variable [DecidableEq κ]

theorem lookup_eq_head? (fs : List (κ × V)) : fs.lookup name = (Records.under (· == name) fs).head? := by
  induction fs with
  | nil => rfl
  | cons f fs ih =>
    obtain ⟨key, v⟩ := f
    by_cases named : key = name
    · subst named
      simp [Records.under]
    · have other : (name == key) = false := beq_eq_false_iff_ne.mpr (Ne.symm named)
      rw [List.lookup_cons, other, ih]
      simp [Records.under, named]

theorem Spells.under_name (spells : Spells fs fields) (distinct : (fields.map Prod.fst).Nodup)
    (member : (name, value) ∈ fields) : Records.under (· == name) fs = value.toList :=
  spells.under distinct member fun _ _ => beq_iff_eq

theorem Spells.lookup (spells : Spells fs fields) (distinct : (fields.map Prod.fst).Nodup)
    (member : (name, value) ∈ fields) : fs.lookup name = value := by
  rw [lookup_eq_head?, spells.under_name distinct member]
  cases value <;> rfl

theorem lookup_eq_some_iff (distinct : (fs.map Prod.fst).Nodup) {v : V} :
    fs.lookup name = some v ↔ (name, v) ∈ fs := by
  have own : set (fs.map fun f => (f.1, some f.2)) = fs := by
    induction fs with
    | nil => rfl
    | cons f fs ih =>
      rw [List.map_cons, set_cons, ih (List.nodup_cons.mp distinct).2]
      rfl
  have spells : Spells fs (fs.map fun f => (f.1, some f.2)) := by
    unfold Spells
    rw [own]
  have names : ((fs.map fun f => (f.1, some f.2)).map Prod.fst).Nodup := by
    rw [List.map_map]
    exact distinct
  constructor
  · intro found
    obtain ⟨front, back, split, -⟩ := List.lookup_eq_some_iff.mp found
    rw [split]
    simp
  · intro member
    exact spells.lookup names (List.mem_map.mpr ⟨_, member, rfl⟩)

/-- A record has the values that are found in it under the names that it may have. -/
theorem spells_lookup {names : List κ} (all : names.Nodup) (distinct : (fs.map Prod.fst).Nodup)
    (inside : ∀ f ∈ fs, f.1 ∈ names) : Spells fs (names.map fun n => (n, fs.lookup n)) := by
  have listed : ((names.map fun n => (n, fs.lookup n)).map Prod.fst).Nodup := by
    have same : (names.map fun n => (n, fs.lookup n)).map Prod.fst = names := by
      rw [List.map_map]
      exact List.map_id _
    rw [same]
    exact all
  refine (List.perm_ext_iff_of_nodup distinct.of_map ?_).mpr ?_
  · exact (listed.sublist (names_sublist _)).of_map
  · intro f
    obtain ⟨n, v⟩ := f
    rw [mem_set, List.mem_map, ← lookup_eq_some_iff distinct]
    constructor
    · intro found
      exact ⟨n, inside _ ((lookup_eq_some_iff distinct).mp found), by rw [found]⟩
    · intro h
      obtain ⟨m, -, same⟩ := h
      obtain ⟨rfl, found⟩ := Prod.mk.inj same
      exact found

end
end Records
