import LiveModels.Proofs.Schema.RuntimeType
import LiveModels.Proofs.Source.Declared

/-!
# Texts that declare nothing

Two snapshots may have the same skeleton, which is all of their types and links, and differ in the
texts that editors write: display names, descriptions, and the names and the types of properties.
The emitted source of both declares the same models beside any files of users, if no such text
mentions an attribute. A text that mentions one declares a model itself, or swallows one.
-/

namespace LiveModels

open Text Declaration

/-- Whether two types are the same but for their texts and their properties. -/
structure TypeDescriptor.SameSkeleton (t t' : TypeDescriptor) : Prop where
  id : t.id = t'.id
  aliasName : t.aliasName = t'.aliasName
  bindingName : t.bindingName = t'.bindingName
  kind : t.kind = t'.kind
  base : t.base = t'.base
  mixins : t.mixins = t'.mixins

/-- The same types are declared as the same models. -/
theorem TypeDescriptor.SameSkeleton.model_eq {t t' : TypeDescriptor} (h : t.SameSkeleton t') :
  t.model = t'.model
  := by
  rw [model, model, h.aliasName, h.bindingName]

theorem TypeDescriptor.IsDeclarable.of_sameSkeleton {t t' : TypeDescriptor} (h : t.IsDeclarable)
    (hsame : t.SameSkeleton t') :
  t'.IsDeclarable
  := by
  constructor
  · rw [← hsame.aliasName]
    apply h.aliasName
  · rw [← hsame.bindingName]
    apply h.bindingName
  · rw [← hsame.bindingName]
    apply h.isWord

/-- Whether two snapshots are the same but for their texts and their properties. -/
def Snapshot.SameSkeleton (s s' : Snapshot) : Prop :=
  List.Forall₂ TypeDescriptor.SameSkeleton s.types s'.types

namespace Emission

variable {s s' : Snapshot}

/-- The models are in the order of their aliases because the types are. -/
theorem map_model_byAlias (s : Snapshot) :
  s.byAlias.map TypeDescriptor.model =
    (s.types.map TypeDescriptor.model).mergeSort fun d d' =>
      decide (d.effectiveAlias ≤ d'.effectiveAlias)
  := List.map_mergeSort fun _ _ _ _ => rfl

/-- The models that are emitted are determined by the models of all types. -/
theorem map_model_emittedTypes (s : Snapshot) (files : UserFiles) :
  (emittedTypes s files).map TypeDescriptor.model =
    (s.byAlias.map TypeDescriptor.model).filter fun d =>
      !(declaredAliases files).contains (lower d.effectiveAlias)
  := by
  rw [List.filter_map]
  rfl

/-- Texts and properties make no difference to the models that are emitted. -/
theorem map_model_emittedTypes_eq (h : s.SameSkeleton s') (files : UserFiles) :
  (emittedTypes s files).map TypeDescriptor.model = (emittedTypes s' files).map TypeDescriptor.model
  := by
  have hmodels : s.types.map TypeDescriptor.model = s'.types.map TypeDescriptor.model := by
    rw [← List.forall₂_eq_eq_eq, List.forall₂_map_left_iff, List.forall₂_map_right_iff]
    apply List.Forall₂.imp _ h
    intro t t' ht
    exact ht.model_eq
  rw [map_model_emittedTypes, map_model_emittedTypes, map_model_byAlias, map_model_byAlias, hmodels]

/-- Whether types can be declared depends on their skeletons alone. -/
theorem AreDeclarable.of_sameSkeleton (h : AreDeclarable s) (hsame : s.SameSkeleton s') :
  AreDeclarable s'
  := by
  obtain ⟨types⟩ := s
  obtain ⟨types'⟩ := s'
  simp only [AreDeclarable, Snapshot.SameSkeleton] at h hsame ⊢
  induction hsame with
  | nil => exact h
  | cons ht _ ih =>
    rw [List.forall_mem_cons] at h ⊢
    exact ⟨h.1.of_sameSkeleton ht, ih h.2⟩

/-- Snapshots with the same skeleton declare the same models in their emitted source, if none of
their texts mentions an attribute. -/
theorem texts_declare_nothing (hsame : s.SameSkeleton s') (hdeclarable : AreDeclarable s)
    (hfree : s.IsFreeOf attributeWord) (hfree' : s'.IsFreeOf attributeWord) (files : UserFiles) :
  Declaration.declared (emit s files) = Declaration.declared (emit s' files)
  := by
  rw [declared_emit hdeclarable hfree, declared_emit (hdeclarable.of_sameSkeleton hsame) hfree',
    map_model_emittedTypes_eq hsame]

/-- A type with texts that look like the ends of comments, declarations and quoted texts. -/
def oddType : TypeDescriptor where
  id := 1
  aliasName := "page"
  bindingName := "Page"
  parentId := 0
  displayName := "Landing\npub struct Injected;"
  description := some "\")]\npub struct Described; /*"
  kind := .content
  properties := [⟨"odd", "x\n#[mode", "odd", none, .named "l]\npub struct Typed;"⟩]

/-- The same type without odd texts. -/
def plainType : TypeDescriptor where
  id := 1
  aliasName := "page"
  bindingName := "Page"
  parentId := 0
  displayName := "Page"
  description := none
  kind := .content

theorem odd_texts_declare_nothing :
  Declaration.declared (emit ⟨[oddType]⟩ []) = Declaration.declared (emit ⟨[plainType]⟩ [])
  := by
  have hsame : Snapshot.SameSkeleton ⟨[oddType]⟩ ⟨[plainType]⟩ :=
    .cons ⟨rfl, rfl, rfl, rfl, rfl, rfl⟩ .nil
  have hdeclarable : AreDeclarable ⟨[oddType]⟩ := by
    intro t ht
    obtain rfl := List.mem_singleton.mp ht
    exact ⟨by decide, by decide, List.all_eq_true.mp rfl⟩
  have hfree : Snapshot.IsFreeOf ⟨[oddType]⟩ attributeWord := by
    refine ⟨⟨?_, ?_, ?_⟩, ?_⟩
    · simp only [List.forall_mem_singleton]
      decide
    · simp only [List.forall_mem_singleton, oddType, Option.some.injEq, forall_eq']
      decide
    · simp only [List.forall_mem_singleton, oddType, RuntimeType.mapModels, RuntimeType.text_named]
      decide
    · simp only [List.forall_mem_singleton, oddType]
      decide
  have hfree' : Snapshot.IsFreeOf ⟨[plainType]⟩ attributeWord := by
    refine ⟨⟨?_, ?_, ?_⟩, ?_⟩
    · simp only [List.forall_mem_singleton]
      decide
    · simp only [List.forall_mem_singleton, plainType]
      exact nofun
    · simp only [List.forall_mem_singleton, plainType]
      exact nofun
    · simp only [List.forall_mem_singleton, plainType]
      exact nofun
  apply texts_declare_nothing hsame hdeclarable hfree hfree'

end Emission

end LiveModels
