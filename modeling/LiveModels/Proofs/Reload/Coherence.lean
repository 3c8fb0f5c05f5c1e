import LiveModels.Proofs.Reload.Stages

/-!
# Generations are coherent

Whatever stands in the models directory, and whatever others do to it while a build goes on, the
parts of a generation that is published belong together: the fingerprint is that of the files and
the types that the build has read, the module was compiled for it and is the one that is registered,
and the source is empty or a bundle with this fingerprint in its header. If the build has compiled,
then the header, the module and the generation agree in the revision, and the types of the module
are what the source declares.

What carries this is what a build knows in each of its stages. A bundle that is found has been
looked at for its header, and a module for its fingerprint; a bundle that is compiled has the
reserved version in its header, because it was rendered or restamped with it.
-/

namespace LiveModels.Staged

variable {l : List Sight} {i j k : Nat} {e : Sight} {c : Service.Capture} {origin : Origin}
  {p : Service.Product} {g : Generation} {stage stage' : Stage} {s s' : Service}

/-! ### What is known of sources and modules -/

/-- Whether the header of a text gives a fingerprint. -/
def IsFor (text fingerprint : String) : Prop :=
  (Bundle.header? text).map (·.fingerprint) = some fingerprint

/-- Whether a module has been compiled from a source for a fingerprint, as a revision. -/
structure IsCompiled (fingerprint source : String) (revision : UInt64) (module : Module) : Prop where
  header : Bundle.header? source = some ⟨fingerprint, revision⟩
  fingerprint : module.fingerprint = fingerprint
  revision : module.revision = revision
  types : module.types = (Declaration.declared source).map Declaration.exported

/-- Whether a product belongs to a capture. -/
structure IsProper (c : Service.Capture) (origin : Origin) (p : Service.Product) : Prop where
  fingerprint : p.module.fingerprint = c.fingerprint
  source : p.source = "" ∨ IsFor p.source c.fingerprint
  compiled : origin = .compiled → IsCompiled c.fingerprint p.source p.version p.module

theorem isFor_of_bundleFor? {cache : Cache} {tree : Tree} {fingerprint text : String}
    (h : cache.bundleFor? tree fingerprint = some text) :
  IsFor text fingerprint
  := by
  have hheader := (Option.filter_eq_some_iff.mp h).2
  simpa [IsFor] using hheader

theorem fingerprint_of_moduleFor? {tree : Tree} {fingerprint : String} {location : Path}
    {module : Module} (h : Cache.moduleFor? tree fingerprint location = some module) :
  module.fingerprint = fingerprint
  := by
  obtain ⟨text, manifest, -, -, rfl, hfingerprint⟩ := Cache.moduleFor?_eq_some h
  apply hfingerprint

/-- A source is compiled as what its header says. -/
theorem isCompiled_of_compile {tree tree' : Tree} {moduleName source fingerprint : String}
    {output : Path} {module : Module} {revision : UInt64}
    (hheader : Bundle.header? source = some ⟨fingerprint, revision⟩)
    (h : Manifest.compile tree moduleName source output = (tree', .ok module)) :
  IsCompiled fingerprint source revision module
  := by
  obtain ⟨manifest, hmanifest, rfl⟩ := Manifest.ofSource_of_compile h
  obtain ⟨header, hsame, rfl⟩ := Manifest.ofSource_eq_ok hmanifest
  rw [hheader, Option.some.injEq] at hsame
  subst hsame
  exact ⟨hheader, rfl, rfl, rfl⟩

/-- A stored text that is compiled again has a header with the version. -/
theorem header?_ofSource {text : String} {version : UInt64} {job : Cache.Job}
    (htext : IsFor text c.fingerprint)
    (h : Cache.Job.ofSource c.fingerprint (Bundle.restamp text version) = .ok job) :
  job.fingerprint = c.fingerprint ∧ Bundle.header? job.source = some ⟨c.fingerprint, version⟩
  := by
  obtain ⟨header, hheader, hfingerprint⟩ := Option.map_eq_some_iff.mp htext
  have hrestamped := Bundle.header?_restamp hheader version
  rw [hfingerprint] at hrestamped
  unfold Cache.Job.ofSource at h
  rw [hrestamped] at h
  cases h
  exact ⟨rfl, hrestamped⟩

/-! ### What a build knows -/

/-- Whether the build under way has read a capture. -/
structure IsRead (l : List Sight) (c : Service.Capture) : Prop where
  fingerprint : c.fingerprint = Fingerprint.compute c.files c.snapshot.types
  read : ∃ k, At l k (.read c) ∧ ∀ j, At l j .cleared → j < k

/-- What a build knows in a stage. -/
def Knows (l : List Sight) : Stage → Prop
  | .captured c | .emitting c _ | .found c .miss => IsRead l c
  | .pointed c bundle _ => IsRead l c ∧ ∀ text, bundle = some text → IsFor text c.fingerprint
  | .found c (.module module source) | .skipped c module source =>
    IsRead l c ∧ module.fingerprint = c.fingerprint ∧ (source = "" ∨ IsFor source c.fingerprint)
  | .found c (.source text) => IsRead l c ∧ IsFor text c.fingerprint
  | .storing c version job _ => IsRead l c ∧ job.fingerprint = c.fingerprint ∧
    Bundle.header? job.source = some ⟨c.fingerprint, version⟩
  | .committing c version job module _ => IsRead l c ∧ job.fingerprint = c.fingerprint ∧
    IsCompiled c.fingerprint job.source version module
  | .produced c origin p => IsRead l c ∧ IsProper c origin p
  | .built origin g => ∃ c p registry now, IsRead l c ∧ IsProper c origin p ∧
    Registry.build p.module = .ok registry ∧ g = generation c p registry now
  | .standing g => g.isDegraded = true
  | _ => True

/-- Whether a generation was published at a position of a log by a build that has read a capture,
and is made of a product that belongs to it. -/
def Coheres (l : List Sight) (i : Nat) (origin : Origin) (g : Generation) : Prop :=
  ∃ c p registry now k, At l k (.read c) ∧ k < i ∧ (∀ j, At l j .cleared → j < k ∨ i < j) ∧
    c.fingerprint = Fingerprint.compute c.files c.snapshot.types ∧ IsProper c origin p ∧
    Registry.build p.module = .ok registry ∧ g = generation c p registry now

theorem IsRead.append (h : IsRead l c) (he : e ≠ .cleared) :
  IsRead (l ++ [e]) c
  := by
  obtain ⟨k, hk, hafter⟩ := h.read
  use h.fingerprint, k, hk.append e
  intro j hj
  apply hafter j (hj.of_append he)

theorem isRead_append_read (h : c.fingerprint = Fingerprint.compute c.files c.snapshot.types) :
  IsRead (l ++ [.read c]) c
  := by
  use h, l.length, at_length l _
  intro j hj
  apply (hj.of_append (by simp)).lt

/-- What a build knows stays known until the next one clears the flag of staleness. -/
theorem Knows.append (h : Knows l stage) (he : e ≠ .cleared) :
  Knows (l ++ [e]) stage
  := by
  cases stage with
  | captured c => exact IsRead.append h he
  | emitting c version => exact IsRead.append h he
  | pointed c bundle location => exact ⟨h.1.append he, h.2⟩
  | found c lookup =>
    cases lookup with
    | module module source => exact ⟨h.1.append he, h.2⟩
    | source text => exact ⟨h.1.append he, h.2⟩
    | miss => exact IsRead.append h he
  | skipped c module source => exact ⟨h.1.append he, h.2⟩
  | storing c version job steps => exact ⟨h.1.append he, h.2⟩
  | committing c version job module steps => exact ⟨h.1.append he, h.2⟩
  | produced c origin p => exact ⟨h.1.append he, h.2⟩
  | built origin g =>
    obtain ⟨c, p, registry, now, hread, hproper⟩ := h
    exact ⟨c, p, registry, now, hread.append he, hproper⟩
  | standing g => exact h
  | idle | begun | cleared | locked | viewed | published | tidied | failed | noted | announcing
  | settled => trivial

theorem Coheres.append (h : Coheres l i origin g) (hi : i < l.length) (e : Sight) :
  Coheres (l ++ [e]) i origin g
  := by
  obtain ⟨c, p, registry, now, k, hk, hlt, hcleared, hproper⟩ := h
  refine ⟨c, p, registry, now, k, hk.append e, hlt, ?_, hproper⟩
  intro j hj
  rcases at_append_iff.mp hj with hold | ⟨rfl, -⟩
  · apply hcleared j hold
  · exact .inr hi

/-- What is found is the module or the bundle of the fingerprint, if there is one. -/
theorem knows_found {module : Option Module} {bundle : Option String} (hread : IsRead l c)
    (hmodule : ∀ m, module = some m → m.fingerprint = c.fingerprint)
    (hbundle : ∀ text, bundle = some text → IsFor text c.fingerprint) :
  Knows l (.found c (Cache.choose module bundle))
  := by
  cases module with
  | some m =>
    refine ⟨hread, hmodule m rfl, ?_⟩
    cases bundle with
    | none => exact .inl rfl
    | some text => exact .inr (hbundle text rfl)
  | none =>
    cases bundle with
    | none => exact hread
    | some text => exact ⟨hread, hbundle text rfl⟩

/-- A build knows in the next stage what it has to. -/
theorem Work.knows {sight : Option Sight} (h : Work stage s sight stage' s') (hk : Knows l stage) :
  Knows (l ++ sight.toList) stage'
  := by
  cases h with
  | view => trivial
  | failView => trivial
  | read => exact isRead_append_read rfl
  | failRead => trivial
  | lackMarker =>
    rw [Option.toList_none, List.append_nil]
    exact hk
  | lackModule =>
    rw [Option.toList_none, List.append_nil]
    apply knows_found hk
    · simp
    · intro text
      apply isFor_of_bundleFor?
  | point =>
    rw [Option.toList_none, List.append_nil]
    use hk
    intro text
    apply isFor_of_bundleFor?
  | load =>
    rw [Option.toList_none, List.append_nil]
    apply knows_found hk.1 _ hk.2
    intro module
    apply fingerprint_of_moduleFor?
  | failLoad =>
    rw [Option.toList_none, List.append_nil]
    apply knows_found hk.1 _ hk.2
    simp
  | skip => exact ⟨hk.1.append (by simp), hk.2⟩
  | reserveReuse =>
    refine ⟨hk.1.append (by simp), hk.2.1, hk.2.2, ?_⟩
    intro horigin
    cases horigin
  | reserveSource hjob => exact ⟨hk.1.append (by simp), header?_ofSource hk.2 hjob⟩
  | failSource => trivial
  | reserveEmission => exact IsRead.append hk (by simp)
  | emit _ c version =>
    rw [Option.toList_none, List.append_nil]
    exact ⟨hk, rfl, header?_bundle hk.fingerprint version⟩
  | failEmit => trivial
  | store =>
    rw [Option.toList_none, List.append_nil]
    exact hk
  | failStore => trivial
  | compile hcompile =>
    exact ⟨hk.1.append (by simp), hk.2.1, isCompiled_of_compile hk.2.2 hcompile⟩
  | reject => trivial
  | failCompile => trivial
  | commit =>
    rw [Option.toList_none, List.append_nil]
    exact hk
  | failCommit => trivial
  | prune =>
    obtain ⟨hread, -, hcompiled⟩ := hk
    rw [Option.toList_none, List.append_nil]
    refine ⟨hread, hcompiled.fingerprint, .inr ?_, fun _ => hcompiled⟩
    simp [IsFor, hcompiled.header]
  | register hregistry =>
    rw [Option.toList_none, List.append_nil]
    exact ⟨_, _, _, _, hk.1, hk.2, hregistry, rfl⟩
  | misshape => trivial

/-! ### The invariant -/

/-- What is kept in the course of builds: a build knows what it has to, and all generations that
have been published are coherent, unless they stand in for a build that failed. -/
structure Coherent (m : Staged) : Prop where
  knows : Knows m.log m.stage
  coheres : ∀ i origin g, At m.log i (.published origin g) →
    g.isDegraded = true ∨ Coheres m.log i origin g

namespace Coherent

/-- A change of the stage about which enough is known, with nothing published. -/
theorem observe (h : Coherent ⟨s, stage, l⟩) (sight : Option Sight)
    (hknows : Knows (l ++ sight.toList) stage')
    (hsight : ∀ origin g, sight ≠ some (.published origin g)) :
  Coherent ⟨s', stage', l ++ sight.toList⟩
  := by
  use hknows
  cases sight with
  | none =>
    rw [Option.toList_none, List.append_nil]
    apply h.coheres
  | some e =>
    intro i origin g hi
    have hi' : At l i (.published origin g) := by
      apply hi.of_append
      intro heq
      apply hsight origin g
      rw [heq]
    apply (h.coheres i origin g hi').imp_right
    intro hcoheres
    apply hcoheres.append hi'.lt

/-- A generation that is published is coherent if the build knows that it is. -/
theorem publish (h : Coherent ⟨s, stage, l⟩)
    (hknows : Knows (l ++ [.published origin g]) stage')
    (hg : g.isDegraded = true ∨ Coheres (l ++ [.published origin g]) l.length origin g) :
  Coherent ⟨s', stage', l ++ [.published origin g]⟩
  := by
  use hknows
  intro i origin' g' hi
  rcases at_append_iff.mp hi with hold | ⟨rfl, heq⟩
  · apply (h.coheres i origin' g' hold).imp_right
    intro hcoheres
    apply hcoheres.append hold.lt
  · cases heq
    apply hg

theorem move {sight : Option Sight} (h : Coherent ⟨s, stage, l⟩)
    (hmove : Move stage s sight stage' s') :
  Coherent ⟨s', stage', l ++ sight.toList⟩
  := by
  have hknows := h.knows
  cases hmove with
  | begin => exact h.observe _ trivial (by simp)
  | clear => exact h.observe _ trivial (by simp)
  | lock => exact h.observe _ trivial (by simp)
  | failLock => exact h.observe _ trivial (by simp)
  | work hwork =>
    apply h.observe _ (hwork.knows hknows)
    intro origin g hsight
    cases hwork <;> cases hsight
  | call =>
    apply h.observe none _ (by simp)
    rw [Option.toList_none, List.append_nil]
    apply hknows
  | publish origin g =>
    obtain ⟨c, p, registry, now, hread, hproper, hregistry, hg⟩ := hknows
    obtain ⟨k, hk, hafter⟩ := hread.read
    refine h.publish trivial (.inr ⟨c, p, registry, now, k, hk.append _, hk.lt, ?_, hread.fingerprint,
      hproper, hregistry, hg⟩)
    intro j hj
    exact .inl (hafter j (hj.of_append (by simp)))
  | tidy => exact h.observe _ trivial (by simp)
  | unflag => exact h.observe _ trivial (by simp)
  | note => exact h.observe _ trivial (by simp)
  | keep => exact h.observe _ trivial (by simp)
  | degrade => exact h.observe _ rfl (by simp)
  | standIn => exact h.publish trivial (.inl hknows)
  | announce => exact h.observe _ trivial (by simp)
  | finish => exact h.observe _ trivial (by simp)

theorem step {r : Cache → Tree → Tree → Prop} {m m' : Staged} (h : Coherent m)
    (hstep : Step r m m') :
  Coherent m'
  := by
  cases hstep with
  | move hmove => apply h.move hmove
  | invalidate =>
    apply h.observe (some (.invalidated _ _))
    · apply h.knows.append (by simp)
    · simp
  | elsewhere => exact ⟨h.knows, h.coheres⟩

end Coherent

theorem Reached.coherent {r : Cache → Tree → Tree → Prop} {m : Staged} (h : Reached r s m) :
  Coherent m
  := by
  induction h with
  | start hnew =>
    use trivial
    intro i origin g hi
    cases hi
  | step h hstep ih => apply ih.step hstep

/-! ### Published generations -/

/-- Whatever the models directory holds at first, and whatever others do to it at any time, a
generation that is published and has models is coherent. -/
theorem Reached.publishes_coherent {r : Cache → Tree → Tree → Prop} {m : Staged}
    (h : Reached r s m) (hi : At m.log i (.published origin g)) (hg : g.isDegraded = false) :
  ∃ c module k, At m.log k (.read c) ∧ k < i ∧ (∀ j, At m.log j .cleared → j < k ∨ i < j) ∧
    g.snapshot = some c.snapshot ∧
    g.fingerprint = some (Fingerprint.compute c.files c.snapshot.types) ∧
    g.module = some module ∧ some module.fingerprint = g.fingerprint ∧
    Registry.build module = .ok g.registry ∧
    (g.source = "" ∨ (Bundle.header? g.source).map (·.fingerprint) = g.fingerprint) ∧
    (origin = .compiled →
      Bundle.header? g.source =
        some ⟨Fingerprint.compute c.files c.snapshot.types, g.version⟩ ∧
      module.revision = g.version ∧
      module.types = (Declaration.declared g.source).map Declaration.exported)
  := by
  rcases h.coherent.coheres i origin g hi with hdegraded | hcoheres
  · rw [hg] at hdegraded
    cases hdegraded
  · obtain ⟨c, p, registry, now, k, hk, hlt, hcleared, hfingerprint, hproper, hregistry, rfl⟩ :=
      hcoheres
    refine ⟨c, p.module, k, hk, hlt, hcleared, rfl, congrArg some hfingerprint, rfl,
      congrArg some hproper.fingerprint, hregistry, hproper.source, ?_⟩
    intro horigin
    have hcompiled := hproper.compiled horigin
    rw [← hfingerprint]
    exact ⟨hcompiled.header, hcompiled.revision, hcompiled.types⟩

/-- The stored module that is published belongs to its generation, whatever others do. -/
theorem shelvedGeneration_coherent :
  Reached (fun _ _ _ => True) shelved ⟨shelvedSettled, .idle, shelvedLog⟩ ∧
    At shelvedLog 5 (.published .reused shelvedGeneration) ∧
    shelvedGeneration.isDegraded = false ∧
    ∃ c module k, At shelvedLog k (.read c) ∧ k < 5 ∧
      shelvedGeneration.fingerprint = some (Fingerprint.compute c.files c.snapshot.types) ∧
      shelvedGeneration.module = some module ∧
      some module.fingerprint = shelvedGeneration.fingerprint ∧
      Registry.build module = .ok shelvedGeneration.registry
  := by
  use reached_shelvedSettled, rfl, rfl
  obtain ⟨c, module, k, hk, hlt, -, -, hfingerprint, hmodule, hsame, hregistry, -⟩ :=
    (reached_shelvedSettled (r := fun _ _ _ => True)).publishes_coherent (i := 5) rfl rfl
  use c, module, k, hk, hlt, hfingerprint, hmodule, hsame, hregistry

end LiveModels.Staged
