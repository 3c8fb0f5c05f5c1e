import LiveModels.Proofs.Cache.Stored

/-!
# What is found when artifacts change

A lookup reads the marker, the pointer, the bundle and the module to which the pointer leads. What
it reads of the artifacts that are spared stays as it is when the others are written, and so does the
module, unless the pointer leads to one of those that are written.
-/

namespace LiveModels.Cache

open LiveModels.Tree

variable {c : Cache} {t t' : Tree} {p : Place} {m : Module} {a : Artifact} {as : List Artifact}
variable {location : Path} {fingerprint : String}

/-! ### Changes of artifacts -/

/-- Changes of the files of some artifacts. -/
def Touches (as : List Artifact) (p q : Place) (n : Option Node) : Prop :=
  n ≠ some .directory ∧ ∃ a ∈ as, q = p ++ [a.fileName]

theorem not_touches (ha : a ∉ as) (n : Option Node) :
  ¬ Touches as p (p ++ [a.fileName]) n
  := by
  rintro ⟨-, b, hb, heq⟩
  have hname : a.fileName = b.fileName := by simpa using heq
  rw [Artifact.fileName_inj.mp hname] at ha
  exact ha hb

theorem get?_eq_of_touches {q : Place} (h : Becomes (Touches as p) t t')
    (hq : ∀ a ∈ as, q ≠ p ++ [a.fileName]) :
  t'.get? q = t.get? q
  := by
  apply h.get?_eq
  rintro ⟨-, a, ha, heq⟩
  exact hq a ha heq

/-- Other artifacts are read as before. -/
theorem read?_eq_of_touches (hp : t.Leads c.directory p) (h : Becomes (Touches as p) t t')
    (ha : a ∉ as) :
  c.read? t' a = c.read? t a
  := read?_eq_of_becomes hp h (not_touches ha)

theorem isMarked_eq_of_touches (hp : t.Leads c.directory p) (h : Becomes (Touches as p) t t')
    (hmarker : .marker ∉ as) :
  c.isMarked t' fingerprint = c.isMarked t fingerprint
  := by
  rw [isMarked, read?_eq_of_touches hp h hmarker, isMarked]

/-! ### Modules -/

/-- The module to which the pointer leads, if it was compiled for a fingerprint. -/
def module? (c : Cache) (t : Tree) (fingerprint : String) : Option Module :=
  (c.modulePath? t).bind (moduleFor? t fingerprint)

/-- Whether the pointer names an artifact in place of a compiled module. -/
def PointsTo (c : Cache) (t : Tree) (a : Artifact) : Prop :=
  ∃ text location p, c.read? t .pointer = some text ∧
    location = c.directory.join (Text.trimmed text) ∧ t.Leads c.directory p ∧
    t.place location location.route = .ok (p ++ [a.fileName])

/-- The pointer names no artifact if it leads to something with another name. -/
theorem not_pointsTo {text : String} {q : Place} (hread : c.read? t .pointer = some text)
    (hplace : t.place (c.directory.join (Text.trimmed text))
      (c.directory.join (Text.trimmed text)).route = .ok q)
    (hname : q.getLast? ≠ some a.fileName) :
  ¬ c.PointsTo t a
  := by
  rintro ⟨text', location, p, hread', hlocation, -, hplace'⟩
  rw [hlocation, ← Option.some.inj (hread.symm.trans hread'), hplace, Except.ok.injEq] at hplace'
  rw [hplace', List.getLast?_concat] at hname
  exact hname rfl

/-- No artifact marks a file for removal. -/
theorem place_mark_ne (a : Artifact) :
  t.place (location.withEnding removalEnding) (location.withEnding removalEnding).route ≠
    .ok (p ++ [a.fileName])
  := by
  obtain ⟨front, last, hroute⟩ :=
    location.exists_route_withEnding (show removalEnding ≠ "" by decide) (by decide)
  have hending : ∀ text, text.toList.getLast? ≠ some 'e' → last ++ removalEnding ≠ text := by
    rintro _ hlast rfl
    apply hlast
    simp [removalEnding]
  intro hplace
  unfold place at hplace
  split at hplace
  · cases hplace
  rw [hroute, walk_append] at hplace
  cases hwalk : t.walk [] front with
  | error fault =>
    rw [hwalk] at hplace
    cases hplace
  | ok q =>
    simp only [hwalk, Except.bind, walk] at hplace
    split at hplace
    · split at hplace
      · cases hplace
      · rw [after, if_neg (hending _ (by decide)), if_neg (hending _ (by decide))] at hplace
        have hname : q = p ∧ last ++ removalEnding = a.fileName := by simpa using hplace
        apply hending a.fileName _ hname.2
        cases a <;> decide
    · cases hplace
    · cases hplace

/-- The module at a path depends on the text of the file only. -/
theorem moduleFor?_congr
    (h : ∀ text, t'.readText location = .ok text ↔ t.readText location = .ok text) :
  moduleFor? t' fingerprint location = moduleFor? t fingerprint location
  := by
  rw [moduleFor?, moduleFor?, Manifest.load, Manifest.load]
  cases hread : t.readText location with
  | ok text => rw [(h text).mpr hread]
  | error fault =>
    cases hread' : t'.readText location with
    | ok text => cases hread.symm.trans ((h text).mp hread')
    | error fault' => rfl

/-- The module stays as it is, unless the pointer leads to an artifact that is written. -/
theorem module?_eq_of_touches (hp : t.Leads c.directory p) (h : Becomes (Touches as p) t t')
    (hpointer : .pointer ∉ as) (hplace : ∀ a ∈ as, ¬ c.PointsTo t a) :
  c.module? t' fingerprint = c.module? t fingerprint
  := by
  have hfile : ∀ q, ¬ Touches as p q (some .directory) := fun q h => h.1 rfl
  rw [module?, module?, modulePath?, modulePath?, read?_eq_of_touches hp h hpointer]
  cases hread : c.read? t .pointer with
  | none => rfl
  | some text =>
    generalize hlocation : c.directory.join (Text.trimmed text) = location
    have hspared : ∀ a ∈ as, t.place location location.route ≠ .ok (p ++ [a.fileName]) := by
      intro a ha hq
      exact hplace a ha ⟨text, location, p, hread, hlocation.symm, hp, hq⟩
    have hhas : t'.has (location.withEnding removalEnding) =
        t.has (location.withEnding removalEnding) := by
      apply h.has_eq hfile
      rintro q hq _ ⟨-, a, -, rfl⟩
      exact place_mark_ne a hq
    have hhasFile : t'.hasFile location = t.hasFile location := by
      apply h.hasFile_eq hfile
      rintro q hq _ ⟨-, a, ha, rfl⟩
      exact hspared a ha hq
    have hmodule : moduleFor? t' fingerprint location = moduleFor? t fingerprint location := by
      apply moduleFor?_congr
      intro text
      rw [readText_eq_ok_iff, readText_eq_ok_iff, h.node_eq_ok_iff hfile]
      rintro q hq _ ⟨-, a, ha, rfl⟩
      exact hspared a ha hq
    simp only [hlocation, hhas, hhasFile]
    split
    · apply hmodule
    · rfl

/-- Where the pointer leads if a module is found. -/
theorem location_of_pointsTo (h : c.PointsTo t a)
    (hmodule : c.module? t fingerprint = some m) :
  ∃ p, t.Leads c.directory p ∧ t.place m.location m.location.route = .ok (p ++ [a.fileName])
  := by
  obtain ⟨text, location, p, hread, hlocation, hp, hplace⟩ := h
  obtain ⟨location', hpath, hm⟩ := Option.bind_eq_some_iff.mp hmodule
  obtain ⟨text', hread', hlocation', -⟩ := modulePath?_eq_some_iff.mp hpath
  obtain ⟨-, manifest, -, -, hmanifest, -⟩ := moduleFor?_eq_some hm
  have hsame : m.location = location := by
    rw [hmanifest, hlocation, Option.some.inj (hread.symm.trans hread'), ← hlocation']
    rfl
  rw [← hsame] at hplace
  exact ⟨p, hp, hplace⟩

/-! ### Lookups -/

theorem choose_eq_source_iff {module : Option Module} {bundle : Option String} {text : String} :
  choose module bundle = .source text ↔ module = none ∧ bundle = some text
  := by
  cases module with
  | none => cases bundle <;> simp [choose]
  | some m => simp [choose]

theorem choose_eq_miss_iff {module : Option Module} {bundle : Option String} :
  choose module bundle = .miss ↔ module = none ∧ bundle = none
  := by
  cases module with
  | none => cases bundle <;> simp [choose]
  | some m => simp [choose]

theorem tryLoad_of_marked (h : c.isMarked t fingerprint = true) :
  c.tryLoad t fingerprint = choose (c.module? t fingerprint) (c.bundleFor? t fingerprint)
  := if_pos h

theorem tryLoad_of_not_marked (h : c.isMarked t fingerprint ≠ true) :
  c.tryLoad t fingerprint = .miss
  := if_neg h

theorem exists_tryLoad_eq_module?_iff :
  (∃ source, c.tryLoad t fingerprint = .module m source) ↔
    c.isMarked t fingerprint = true ∧ c.module? t fingerprint = some m
  := by
  rw [exists_tryLoad_eq_module_iff, module?, Option.bind_eq_some_iff]

end LiveModels.Cache
