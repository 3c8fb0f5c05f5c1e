import LiveModels.Proofs.Keys
import LiveModels.Proofs.Result
import LiveModels.Proofs.Text.Order
import LiveModels.Registry.Basic
import Mathlib.Data.List.Induction
import Mathlib.Data.List.Sort

/-!
# Outcomes of registering a module

Which modules can be registered, what their registries answer, and which error is reported about a
module that cannot be registered. Types are registered in the order in which they are exported, so
that the first one that does not go together with those before it decides about the error.
-/

namespace LiveModels

/-- The exported types that are models. -/
def Module.models (m : Module) : List ExportedType :=
  m.types.filter (·.isModel)

namespace ExportedType

/-- The form of the alias of a type under which its model is looked up. -/
def key (t : ExportedType) : String :=
  Text.lower t.effectiveAlias

/-- The number of public constructors that take one element. -/
def choices (t : ExportedType) : Nat :=
  t.constructors.countP Constructor.isAccepted

/-- Whether models can be registered together: each one has one constructor to choose, and no two
of them want the same alias. -/
structure AreRegistrable (models : List ExportedType) : Prop where
  constructors : ∀ t ∈ models, t.choices = 1
  aliases : (models.map key).Nodup

/-- What is wrong with a model that cannot be registered after others. -/
inductive Fault (before : List ExportedType) (t : ExportedType) : ShapeError → Prop
  /-- There is no constructor to choose. -/
  | missing (hchoices : t.choices = 0) : Fault before t (.missing t.typeName)
  /-- There are several constructors to choose from. -/
  | ambiguous (hchoices : 1 < t.choices) : Fault before t (.ambiguous t.typeName t.choices)
  /-- There is one constructor, but the alias is that of a model before. -/
  | duplicate {first : ExportedType} (hchoices : t.choices = 1) (hfirst : first ∈ before)
    (hkey : first.key = t.key) :
    Fault before t (.duplicateAlias t.effectiveAlias first.typeName t.typeName)

variable {before models : List ExportedType} {t : ExportedType}

theorem AreRegistrable.nil :
  AreRegistrable []
  := ⟨nofun, List.nodup_nil⟩

theorem areRegistrable_concat_iff :
  AreRegistrable (before ++ [t]) ↔
    AreRegistrable before ∧ t.choices = 1 ∧ ∀ first ∈ before, first.key ≠ t.key
  := by
  have hkeys : ((before ++ [t]).map key).Nodup ↔
      (before.map key).Nodup ∧ ∀ first ∈ before, first.key ≠ t.key := by
    rw [List.map_append, List.map_singleton, ← List.concat_eq_append, List.nodup_concat,
      List.mem_map, not_exists, and_comm]
    simp only [not_and, ne_eq]
  constructor
  · rintro ⟨hchoices, hnodup⟩
    obtain ⟨haliases, hnew⟩ := hkeys.mp hnodup
    exact ⟨⟨fun t' ht' => hchoices t' (List.mem_append_left _ ht'), haliases⟩,
      hchoices t List.mem_concat_self, hnew⟩
  · rintro ⟨⟨hchoices, haliases⟩, ht, hnew⟩
    refine ⟨?_, hkeys.mpr ⟨haliases, hnew⟩⟩
    intro t' ht'
    rcases List.mem_append.mp ht' with ht' | ht'
    · apply hchoices t' ht'
    · rw [List.mem_singleton.mp ht', ht]

/-- A model that cannot be registered after others has a fault. -/
theorem exists_fault (hbefore : AreRegistrable before) (h : ¬ AreRegistrable (before ++ [t])) :
  ∃ e, t.Fault before e
  := by
  rcases Nat.lt_trichotomy t.choices 1 with hlt | hone | hgt
  · exact ⟨_, .missing (Nat.lt_one_iff.mp hlt)⟩
  · obtain ⟨first, hfirst, hkey⟩ : ∃ first ∈ before, first.key = t.key := by
      by_contra hnew
      apply h (areRegistrable_concat_iff.mpr ⟨hbefore, hone, ?_⟩)
      intro first hfirst hkey
      apply hnew ⟨first, hfirst, hkey⟩
    exact ⟨_, .duplicate hone hfirst hkey⟩
  · exact ⟨_, .ambiguous hgt⟩

/-- Of models that cannot be registered together, one is the first to have a fault. -/
theorem exists_first_fault (h : ¬ AreRegistrable models) :
  ∃ before t after e, models = before ++ t :: after ∧ AreRegistrable before ∧ t.Fault before e
  := by
  induction models using List.reverseRecOn with
  | nil => exact absurd .nil h
  | append_singleton models t ih =>
    by_cases hmodels : AreRegistrable models
    · obtain ⟨e, he⟩ := exists_fault hmodels h
      exact ⟨models, t, [], e, rfl, hmodels, he⟩
    · obtain ⟨before, t', after, e, rfl, hbefore, he⟩ := ih hmodels
      exact ⟨before, t', after ++ [t], e, by simp, hbefore, he⟩

end ExportedType

open ExportedType (AreRegistrable)

/-- What the entry of a model says about it; the constructor is the only one to choose. -/
structure RegistryEntry.Describes (e : RegistryEntry) (t : ExportedType) : Prop where
  aliasName : e.aliasName = t.effectiveAlias
  typeName : e.typeName = t.typeName
  type : e.type = t.type
  constructor : t.constructors.filter Constructor.isAccepted = [e.constructor]

theorem RegistryEntry.Describes.key {e : RegistryEntry} {t : ExportedType} (h : e.Describes t) :
  e.key = t.key
  := congrArg Text.lower h.aliasName

namespace Registry

variable {r : Registry} {models before : List ExportedType} {t : ExportedType}
  {entry : RegistryEntry} {aliasName : String} {e : ShapeError}

/-! ### Lookups -/

/-- If no two models have the same key, a lookup finds the model with the key. -/
theorem get?_eq_some_iff (h : (r.entries.map (·.key)).Nodup) :
  r.get? aliasName = some entry ↔ entry ∈ r.entries ∧ entry.key = Text.lower aliasName
  := Keys.find?_eq_some_iff h

/-- A lookup finds nothing if no model has the key. -/
theorem get?_eq_none_iff :
  r.get? aliasName = none ↔ ∀ entry ∈ r.entries, entry.key ≠ Text.lower aliasName
  := by
  rw [get?, List.find?_eq_none]
  simp only [beq_iff_eq, ne_eq]

/-! ### One model -/

/-- A registry that has been built from models has an entry for each of them, in their order. -/
def Holds (r : Registry) (models : List ExportedType) : Prop :=
  List.Forall₂ RegistryEntry.Describes r.entries models

theorem Holds.map_key (h : r.Holds models) :
  r.entries.map (·.key) = models.map (·.key)
  := by
  rw [← List.forall₂_eq_eq_eq, List.forall₂_map_left_iff, List.forall₂_map_right_iff]
  apply h.imp
  intro entry t hentry
  apply hentry.key

/-- A model that goes together with those before it is registered. -/
theorem Holds.register (h : r.Holds before) (hmodels : AreRegistrable (before ++ [t])) :
  ∃ r', r.register t = .ok r' ∧ r'.Holds (before ++ [t])
  := by
  obtain ⟨-, hchoices, hnew⟩ := ExportedType.areRegistrable_concat_iff.mp hmodels
  obtain ⟨c, hc⟩ : ∃ c, t.constructors.filter Constructor.isAccepted = [c] := by
    rwa [← List.length_eq_one_iff, ← List.countP_eq_length_filter]
  have hget : r.get? t.effectiveAlias = none := by
    rw [get?_eq_none_iff]
    intro entry hentry hkey
    have hkey' : t.key ∈ before.map (·.key) := by
      rw [← h.map_key]
      exact List.mem_map.mpr ⟨entry, hentry, hkey⟩
    obtain ⟨first, hfirst, hsame⟩ := List.mem_map.mp hkey'
    apply hnew first hfirst hsame
  refine ⟨⟨r.entries ++ [⟨t.effectiveAlias, t.typeName, t.type, c⟩]⟩, ?_, ?_⟩
  · simp only [Registry.register, hc, hget]
  · apply List.rel_append h
    exact .cons ⟨rfl, rfl, rfl, hc⟩ .nil

/-- A model with a fault is refused with that fault. -/
theorem Holds.register_eq_error (h : r.Holds before) (hbefore : AreRegistrable before)
    (hfault : t.Fault before e) :
  r.register t = .error e
  := by
  have hlength : t.choices = (t.constructors.filter Constructor.isAccepted).length :=
    List.countP_eq_length_filter
  cases hfault with
  | missing hchoices =>
    rw [hlength, List.length_eq_zero_iff] at hchoices
    simp only [Registry.register, hchoices]
  | ambiguous hchoices =>
    rw [hlength] at hchoices ⊢
    unfold Registry.register
    split
    case h_3 => rfl
    all_goals
      rename_i heq
      rw [heq] at hchoices
      contradiction
  | @duplicate first hchoices hfirst hkey =>
    rw [hlength, List.length_eq_one_iff] at hchoices
    obtain ⟨c, hc⟩ := hchoices
    obtain ⟨existing, hexisting, hdescribes⟩ := Result.exists_of_forall₂ h.flip hfirst
    have hget : r.get? t.effectiveAlias = some existing := by
      rw [get?_eq_some_iff (h.map_key ▸ hbefore.aliases)]
      exact ⟨hexisting, hdescribes.key.trans hkey⟩
    simp only [Registry.register, hc, hget, hdescribes.typeName]

/-! ### All models -/

/-- Models that can be registered together are. -/
theorem exists_holds (h : AreRegistrable models) :
  ∃ r, models.foldlM register empty = .ok r ∧ r.Holds models
  := by
  induction models using List.reverseRecOn with
  | nil => exact ⟨empty, rfl, .nil⟩
  | append_singleton before t ih =>
    obtain ⟨r, hr, hholds⟩ := ih (ExportedType.areRegistrable_concat_iff.mp h).1
    obtain ⟨r', hr', hholds'⟩ := hholds.register h
    refine ⟨r', ?_, hholds'⟩
    rw [List.foldlM_append, hr, Result.ok_bind, List.foldlM_cons, hr', Result.ok_bind]
    rfl

/-- The first fault ends the registration. -/
theorem foldlM_eq_error {after : List ExportedType} (hbefore : AreRegistrable before)
    (hfault : t.Fault before e) :
  (before ++ t :: after).foldlM register empty = .error e
  := by
  obtain ⟨r, hr, hholds⟩ := exists_holds hbefore
  rw [List.foldlM_append, hr, Result.ok_bind, List.foldlM_cons,
    hholds.register_eq_error hbefore hfault, Result.error_bind]

/-- No two models of a registry that has been built have the same key. -/
theorem nodup_key_of_build {m : Module} (h : build m = .ok r) :
  (r.entries.map (·.key)).Nodup
  := by
  have hbuild : m.models.foldlM register empty = .ok r := h
  by_cases hmodels : AreRegistrable m.models
  · obtain ⟨r', hr', hholds⟩ := exists_holds hmodels
    cases hbuild.symm.trans hr'
    rw [hholds.map_key]
    exact hmodels.aliases
  · obtain ⟨before, t, after, e, hsplit, hbefore, hfault⟩ := ExportedType.exists_first_fault hmodels
    rw [hsplit, foldlM_eq_error hbefore hfault] at hbuild
    cases hbuild

/-! ### Outcomes -/

/-- What a registry answers that serves models which can be registered together. -/
structure Serves (r : Registry) (models : List ExportedType) : Prop where
  get : ∀ aliasName, ∀ t ∈ models, t.key = Text.lower aliasName →
    ∃ entry, r.get? aliasName = some entry ∧ entry.Describes t
  get_unknown : ∀ aliasName, (∀ t ∈ models, t.key ≠ Text.lower aliasName) →
    r.get? aliasName = none
  aliases_perm : r.aliases.Perm (models.map (·.effectiveAlias))
  aliases_ascend : r.aliases.Pairwise (· < ·)
  create : ∀ element, ∀ t ∈ models, t.key = Text.lower element.contentTypeAlias →
    ∀ c ∈ t.constructors, c.isAccepted = true → r.createModel element = c.invoke element
  create_unknown : ∀ element, (∀ t ∈ models, t.key ≠ Text.lower element.contentTypeAlias) →
    r.createModel element = element

theorem Holds.serves (h : r.Holds models) (hmodels : AreRegistrable models) :
  r.Serves models
  := by
  have hget : ∀ aliasName, ∀ t ∈ models, t.key = Text.lower aliasName →
      ∃ entry, r.get? aliasName = some entry ∧ entry.Describes t := by
    intro aliasName t ht hkey
    obtain ⟨entry, hentry, hdescribes⟩ := Result.exists_of_forall₂ h.flip ht
    refine ⟨entry, ?_, hdescribes⟩
    rw [get?_eq_some_iff (h.map_key ▸ hmodels.aliases)]
    exact ⟨hentry, hdescribes.key.trans hkey⟩
  have hunknown : ∀ aliasName, (∀ t ∈ models, t.key ≠ Text.lower aliasName) →
      r.get? aliasName = none := by
    intro aliasName hkeys
    rw [get?_eq_none_iff]
    intro entry hentry hkey
    obtain ⟨t, ht, hdescribes⟩ := Result.exists_of_forall₂ h hentry
    apply hkeys t ht (hdescribes.key.symm.trans hkey)
  have haliases : r.entries.map (·.aliasName) = models.map (·.effectiveAlias) := by
    rw [← List.forall₂_eq_eq_eq, List.forall₂_map_left_iff, List.forall₂_map_right_iff]
    apply h.imp
    intro entry t hentry
    apply hentry.aliasName
  have hnodup : (models.map (·.effectiveAlias)).Nodup := by
    apply List.Nodup.of_map Text.lower
    rw [List.map_map]
    apply hmodels.aliases
  refine ⟨hget, hunknown, ?_, ?_, ?_, ?_⟩
  · rw [← haliases]
    apply List.mergeSort_perm
  · rw [aliases, haliases]
    apply Text.pairwise_lt_mergeSort (k := id)
    rwa [List.map_id]
  · intro element t ht hkey c hc haccepted
    obtain ⟨entry, hentry, hdescribes⟩ := hget element.contentTypeAlias t ht hkey
    have hmem : c ∈ t.constructors.filter Constructor.isAccepted :=
      List.mem_filter.mpr ⟨hc, haccepted⟩
    rw [hdescribes.constructor, List.mem_singleton] at hmem
    simp only [createModel, hentry, hmem]
  · intro element hkeys
    simp only [createModel, hunknown element.contentTypeAlias hkeys]

/-- A module is registered if and only if its models can be registered together, and then its
registry serves all of them. Otherwise the error is that of the first model with a fault. -/
theorem build_exact (m : Module) :
  ((∃ r, build m = .ok r) ↔ AreRegistrable m.models)
    ∧ (∀ r, build m = .ok r → r.Serves m.models)
    ∧ ∀ e, build m = .error e ↔
      ∃ before t after, m.models = before ++ t :: after ∧ AreRegistrable before
        ∧ t.Fault before e
  := by
  have hbuild : build m = m.models.foldlM register empty := rfl
  have hfault : ∀ before t after e, m.models = before ++ t :: after → AreRegistrable before →
      t.Fault before e → build m = .error e := by
    intro before t after e hmodels hbefore hfault
    rw [hbuild, hmodels, foldlM_eq_error hbefore hfault]
  rw [hbuild] at hfault ⊢
  by_cases h : AreRegistrable m.models
  · obtain ⟨r, hr, hholds⟩ := exists_holds h
    rw [hr] at hfault ⊢
    refine ⟨iff_of_true ⟨r, rfl⟩ h, ?_, ?_⟩
    · rintro r' ⟨⟩
      apply hholds.serves h
    · intro e
      constructor
      · exact nofun
      · rintro ⟨before, t, after, hmodels, hbefore, hfirst⟩
        cases hfault before t after e hmodels hbefore hfirst
  · obtain ⟨before, t, after, e, hmodels, hbefore, hfirst⟩ := ExportedType.exists_first_fault h
    have he := hfault before t after e hmodels hbefore hfirst
    refine ⟨iff_of_false ?_ h, ?_, ?_⟩
    · rintro ⟨r, hr⟩
      cases he.symm.trans hr
    · intro r hr
      cases he.symm.trans hr
    · intro e'
      constructor
      · intro he'
        cases he.symm.trans he'
        exact ⟨before, t, after, hmodels, hbefore, hfirst⟩
      · rintro ⟨before, t, after, hmodels, hbefore, hfirst⟩
        apply hfault before t after e' hmodels hbefore hfirst

/-! ### A module -/

/-- The model that a blog exports for its posts; only one of its constructors can be chosen. -/
def blogPost : ExportedType where
  typeName := "BlogPost"
  aliasName := some "blogPost"
  isModel := true
  type := .named "BlogPost"
  constructors := [⟨false, [.element], "BlogPost"⟩, ⟨true, [.content], "BlogPost"⟩,
    ⟨true, [.other "String"], "BlogPost"⟩]

/-- The model that a blog exports for its authors, under the name of the type. -/
def author : ExportedType where
  typeName := "Author"
  aliasName := none
  isModel := true
  type := .named "Author"
  constructors := [⟨true, [.element], "Author"⟩]

/-- A module that exports the models of a blog, after a type that is not a model. -/
def blog : Module :=
  ⟨"Blog.Models", ⟨"blog.module"⟩, "00000000", 1,
    [⟨"Helpers", none, false, .named "Helpers", []⟩, blogPost, author]⟩

/-- The module of the blog with one more model, which wants the alias of the posts. -/
def blogWithLegacy : Module :=
  { blog with types := blog.types ++ [{ author with typeName := "BLOGPOST" }] }

theorem build_blog :
  (∃ r, build blog = .ok r ∧ r.Serves [blogPost, author]) ∧
    build blogWithLegacy = .error (.duplicateAlias "BLOGPOST" "BlogPost" "BLOGPOST")
  := by
  have hmodels : AreRegistrable [blogPost, author] := ⟨by decide, by decide +kernel⟩
  constructor
  · obtain ⟨r, hr⟩ := (build_exact blog).1.mpr hmodels
    exact ⟨r, hr, (build_exact blog).2.1 r hr⟩
  · apply ((build_exact blogWithLegacy).2.2 _).mpr
    refine ⟨[blogPost, author], { author with typeName := "BLOGPOST" }, [], rfl, hmodels, ?_⟩
    have hkey : blogPost.key = ExportedType.key { author with typeName := "BLOGPOST" } := by
      decide +kernel
    exact ExportedType.Fault.duplicate (by decide) List.mem_cons_self hkey

end Registry

end LiveModels
