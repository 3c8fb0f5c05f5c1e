import LiveModels.Proofs.Registry.Outcome
import LiveModels.Proofs.Snapshot.Builder
import LiveModels.Proofs.Text.Casing

/-!
# Lookups of aliases

An alias is looked up in three places. Binding names and models are found by the lower-case form of
the alias, which is also what has to be unique. The type itself is found by the alias up to the case
of ASCII letters. So whatever finds the type finds the binding name and the model as well, and no
other type is ever found in its place; but an alias with capitals beyond ASCII is not found by its
lower-case form.
-/

namespace LiveModels

namespace Snapshot

variable {s : Snapshot} {t : TypeDescriptor} {q : String}

/-! ### Types -/

/-- Aliases that are different whatever their letter case are different whatever the case of their
ASCII letters. -/
theorem IsNamed.nodup_lowerAscii (hs : s.IsNamed) :
  (s.types.map fun t => Text.lowerAscii t.aliasName).Nodup
  := by
  apply List.Nodup.of_map Text.lower
  rw [List.map_map]
  simp only [Function.comp_def, Text.lower_lowerAscii]
  apply hs.nodup

/-- The type with an alias is found by the texts that agree with it up to the case of ASCII letters.
-/
theorem findAlias?_eq_some_iff (hs : s.IsNamed) (ht : t ∈ s.types) :
  s.findAlias? q = some t ↔ Text.lowerAscii q = Text.lowerAscii t.aliasName
  := by
  rw [findAlias?, Keys.find?_eq_some_iff hs.nodup_lowerAscii, eq_comm]
  apply and_iff_right ht

/-- No other type is found by an alias that agrees with that of a type up to letter case. -/
theorem findAlias?_eq_none (hs : s.IsNamed) (ht : t ∈ s.types)
    (hlower : Text.lower q = Text.lower t.aliasName) (hother : s.findAlias? q ≠ some t) :
  s.findAlias? q = none
  := by
  rw [Option.eq_none_iff_forall_ne_some]
  intro u hu
  obtain ⟨hmem, halias⟩ := Keys.of_find? hu
  have hsame : Text.lower u.aliasName = Text.lower t.aliasName :=
    (Text.lower_eq_of_lowerAscii_eq halias).trans hlower
  rw [List.inj_on_of_nodup_map hs.nodup hmem ht hsame] at hu
  exact hother hu

/-! ### Binding names -/

theorem mem_bindingNames_iff {key name : String} :
  (key, name) ∈ s.bindingNames ↔ s.bindingName? key = some name
  := by
  rw [bindingNames, List.mem_filterMap]
  constructor
  · rintro ⟨key', -, h⟩
    obtain ⟨name', hname, heq⟩ := Option.map_eq_some_iff.mp h
    cases heq
    exact hname
  · intro h
    refine ⟨key, ?_, by rw [h, Option.map_some]⟩
    obtain ⟨t, hfind, -⟩ := Option.map_eq_some_iff.mp h
    obtain ⟨hmem, hkey⟩ := Keys.of_find? hfind
    rw [List.mem_eraseDups, List.mem_map]
    exact ⟨t, List.mem_reverse.mp hmem, hkey⟩

/-- The binding name of a type belongs to the lower-case form of its alias only. -/
theorem mem_bindingNames_iff_of_mem (hs : s.IsNamed) (hnames : (s.types.map (·.bindingName)).Nodup)
    (ht : t ∈ s.types) {key : String} :
  (key, t.bindingName) ∈ s.bindingNames ↔ key = Text.lower t.aliasName
  := by
  rw [mem_bindingNames_iff, bindingName?_eq_some_iff hs, keys, List.mem_map]
  constructor
  · rintro ⟨u, hu, heq⟩
    obtain ⟨halias, hname⟩ := Prod.mk.inj heq
    rw [← halias, List.inj_on_of_nodup_map hnames (mem_byAlias.mp hu) ht hname]
  · rintro rfl
    exact ⟨t, mem_byAlias.mpr ht, rfl⟩

/-! ### Uniqueness -/

/-- No fault of a property is about an alias of a type. -/
theorem describeProperties_ne_duplicateAlias (view : SchemaView) (policy : NamingPolicy) (e : Entry)
    (labels : List String) :
  describeProperties view policy e ≠ .error (.duplicateAlias labels)
  := by
  intro h
  rcases Result.bind_eq_error_iff.mp h with h | ⟨ps, -, h⟩
  · obtain ⟨r, hr, -⟩ := Result.exists_of_mapM_eq_error h
    unfold describeProperty at hr
    split at hr <;> cases hr
  · split at h <;> cases h

/-- Aliases are refused only if two of them agree up to letter case. -/
theorem aliasCollisions_of_ofView {view : SchemaView} {policy : NamingPolicy} {es : List Entry}
    {labels : List String} (hes : entries view = .ok es)
    (h : ofView view policy = .error (.duplicateAlias labels)) :
  aliasCollisions (es.map (describe policy)) ≠ []
  := by
  intro hempty
  have hpassed : (aliasCollisions (es.map (describe policy))).isEmpty = true :=
    List.isEmpty_iff.mpr hempty
  rw [ofView, hes, Result.ok_bind] at h
  simp only [if_pos hpassed] at h
  split at h
  case isFalse => cases h
  case isTrue =>
    rcases Result.bind_eq_error_iff.mp h with h | ⟨-, -, h⟩
    · obtain ⟨e, he, -⟩ := Result.exists_of_forM_eq_error h
      split at he <;> cases he
    · rcases Result.bind_eq_error_iff.mp h with h | ⟨properties, -, h⟩
      · obtain ⟨e, he, -⟩ := Result.exists_of_mapM_eq_error h
        apply describeProperties_ne_duplicateAlias view policy e labels he
      · cases h

/-- Of a schema whose records can be read, the aliases are refused if and only if two of them agree
up to letter case. -/
theorem exists_duplicateAlias_iff {view : SchemaView} {policy : NamingPolicy} {es : List Entry}
    (hes : entries view = .ok es) :
  (∃ labels, ofView view policy = .error (.duplicateAlias labels)) ↔
    ¬ (es.map fun e => Text.lower e.record.aliasName).Nodup
  := by
  have hiff : aliasCollisions (es.map (describe policy)) = [] ↔
      (es.map fun e => Text.lower e.record.aliasName).Nodup := by
    rw [aliasCollisions_eq_nil_iff, List.map_map]
    rfl
  rw [← hiff]
  constructor
  · rintro ⟨labels, hlabels⟩
    apply aliasCollisions_of_ofView hes hlabels
  · intro hcollide
    rw [ofView, hes, Result.ok_bind]
    simp only [if_neg (mt List.isEmpty_iff.mp hcollide)]
    exact ⟨_, rfl⟩

/-! ### All lookups -/

/-- In a snapshot that has been built, the binding name of a type and the model for its alias are
found by the texts that agree with the alias up to letter case, which is also how different the
aliases of a schema have to be. The type itself is found by those that agree with its alias up to
the case of ASCII letters. They are among the former, and the same if neither the text nor the alias
has other capitals; by the rest of the former no type is found. -/
theorem lookups_agree {tree : Tree} {store : Store} {policy : NamingPolicy}
    (h : build tree store policy = .ok s) (ht : t ∈ s.types) (q : String) :
  (s.findAlias? q = some t ↔ Text.lowerAscii q = Text.lowerAscii t.aliasName) ∧
    (s.findAlias? q = some t → Text.lower q = Text.lower t.aliasName) ∧
    (Text.IsSmallBeyondAscii q → Text.IsSmallBeyondAscii t.aliasName →
      (s.findAlias? q = some t ↔ Text.lower q = Text.lower t.aliasName)) ∧
    (Text.lower q = Text.lower t.aliasName → s.findAlias? q ≠ some t → s.findAlias? q = none) ∧
    ((Text.lower q, t.bindingName) ∈ s.bindingNames ↔ Text.lower q = Text.lower t.aliasName) ∧
    (∀ view es, entries view = .ok es →
      ((∃ labels, ofView view policy = .error (.duplicateAlias labels)) ↔
        ¬ (es.map fun e => Text.lower e.record.aliasName).Nodup)) ∧
    ∀ m r, Registry.build m = .ok r → ∀ entry ∈ r.entries, entry.aliasName = t.aliasName →
      (r.get? q = some entry ↔ Text.lower q = Text.lower t.aliasName)
  := by
  obtain ⟨view, -, hview⟩ := Result.bind_eq_ok_iff.mp h
  have hs := isNamed_of_ofView hview
  have hfind := findAlias?_eq_some_iff (q := q) hs ht
  refine ⟨hfind, ?_, ?_, findAlias?_eq_none hs ht, ?_, ?_, ?_⟩
  · intro hq
    apply Text.lower_eq_of_lowerAscii_eq (hfind.mp hq)
  · intro hq halias
    rw [hfind, hq.lower_eq, halias.lower_eq]
  · apply mem_bindingNames_iff_of_mem hs (nodup_bindingName_of_ofView hview) ht
  · intro view es hes
    apply exists_duplicateAlias_iff hes
  · intro m r hr entry hentry halias
    rw [Registry.get?_eq_some_iff (Registry.nodup_key_of_build hr), RegistryEntry.key, halias,
      eq_comm]
    apply and_iff_right hentry

/-! ### A schema -/

/-- A schema of a country, whose alias begins with a capital beyond ASCII, and a page. -/
def atlas : Document where
  contentTypes := [⟨1, "État", "Country", none, -1, false, [], []⟩,
    ⟨2, "page", "Page", none, -1, false, [], []⟩]

/-- The type of the country. -/
def country : TypeDescriptor :=
  ⟨1, "État", "Country", -1, "Country", none, .content, none, [], false, []⟩

/-- The type of the page. -/
def page : TypeDescriptor :=
  ⟨2, "page", "Page", -1, "Page", none, .content, none, [], false, []⟩

/-- The country is found by its alias in capitals, but not by its alias in small letters, although
its binding name is. The page is found by all forms of its alias. -/
theorem country_looked_up :
  build ⟨[]⟩ (.memory atlas) .pascalName = .ok ⟨[country, page]⟩ ∧
    findAlias? ⟨[country, page]⟩ "ÉTAT" = some country ∧
    findAlias? ⟨[country, page]⟩ "état" = none ∧
    ("état", "Country") ∈ bindingNames ⟨[country, page]⟩ ∧
    ∀ q, Text.IsSmallBeyondAscii q →
      (findAlias? ⟨[country, page]⟩ q = some page ↔ Text.lower q = "page")
  := by
  have hbuild : build ⟨[]⟩ (.memory atlas) .pascalName = .ok ⟨[country, page]⟩ := by
    decide +kernel
  have hsmall : Text.lower "état" = "état" ∧ Text.lower "État" = "état" ∧
      Text.lower "page" = "page" := by
    decide +kernel
  have hcountry : country ∈ [country, page] := List.mem_cons_self
  have hpage : page ∈ [country, page] := List.mem_cons_of_mem _ List.mem_cons_self
  obtain ⟨hcapitals, -⟩ := lookups_agree hbuild hcountry "ÉTAT"
  obtain ⟨hfind, -, -, hnone, hname, -⟩ := lookups_agree hbuild hcountry "état"
  rw [country, hsmall.1, hsmall.2.1] at hname
  refine ⟨hbuild, hcapitals.mpr (by decide +kernel), ?_, hname.mpr rfl, ?_⟩
  · apply hnone (hsmall.1.trans hsmall.2.1.symm)
    rw [ne_eq, hfind]
    decide +kernel
  · intro q hq
    obtain ⟨-, -, hiff, -⟩ := lookups_agree hbuild hpage q
    rw [hiff hq (by decide +kernel), page, hsmall.2.2]

end Snapshot

end LiveModels
