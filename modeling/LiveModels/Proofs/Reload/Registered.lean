import LiveModels.Proofs.Registry.Emission
import LiveModels.Proofs.Reload.History

/-!
# No type is missing

Nothing compares the registry of a generation with the snapshot that is published beside it. Still
the registry has a model for every type of the snapshot, whether the module was compiled by the build
that published the generation or by an earlier one, if there are no files of users, every alias has a
character and no text mentions an attribute.
-/

namespace LiveModels

open Text Declaration

namespace Service

variable {p : Place} {s : Service} {c : Capture} {met : List Capture} {g : Generation}

/-! ### Registries of captures -/

theorem Capture.source_of_nil (hfiles : c.files = []) (revision : UInt64) :
  c.source revision = Bundle.render ⟨c.fingerprint, revision, [], Emission.emit c.snapshot []⟩
  := by
  rw [source, Staged.bundle, hfiles]

/-- Without files of users, what is registered for a capture are the models of its types, unless its
source asks for a compile error. -/
theorem Capture.IsSound.registered?_eq (h : c.IsSound) (hfiles : c.files = [])
    (hdeclarable : Emission.AreDeclarable c.snapshot)
    (hattribute : c.snapshot.Avoids attributeWord) :
  c.registered? =
    if hasError (c.source 0).toList then none
    else some ⟨c.snapshot.byAlias.map Registry.entryOf⟩
  := by
  have hdeclared : declared (c.source 0) = c.snapshot.byAlias.map TypeDescriptor.model := by
    rw [source_of_nil hfiles, Bundle.declared_render h.named hdeclarable hattribute h.isLowerHex,
      Emission.emittedTypes_nil]
  rw [registered?, exports?, hdeclared, List.map_map]
  split
  · rfl
  · exact congrArg Except.toOption (Registry.ofTypes_models (Emission.nodup_byAlias h.named))

/-! ### Generations -/

/-- Whether a generation has been built from a capture, with the registry that the capture gives. -/
structure IsBuiltFrom (g : Generation) (c : Capture) : Prop where
  snapshot : g.snapshot = some c.snapshot
  registered : c.registered? = some g.registry
  isDegraded : g.isDegraded = false

/-- A build that succeeds gives a generation that is built from what it captures. -/
theorem Kept.isBuiltFrom {s' : Service} (h : Kept met p s) (hinput : s.input = .ok c)
    (hclear : Capture.AreClear (met ++ [c])) (hbuild : s.rebuild = (s', .ok g)) :
  IsBuiltFrom g c
  := by
  have hcontent := h.rebuild.2
  simp only [hbuild, hinput, Except.toOption, Option.toList_some] at hcontent
  rw [h.rebuild_eq, hinput] at hbuild
  obtain ⟨-, -, -, -, -, hsnapshot, hmodels⟩ := exists_of_generationOf_eq_ok hbuild
  obtain ⟨r, hr, heq⟩ := Option.map_eq_some_iff.mp (hcontent hclear).symm
  refine ⟨hsnapshot, ?_, hmodels⟩
  rw [hr, (Prod.mk.inj heq).2]

theorem current_invalidate (s : Service) :
  s.invalidate.coordinator.current = s.coordinator.current
  := by
  rw [coordinator_invalidate]

/-- Models that are in use have been built from a capture that was made. -/
theorem History.isBuiltFrom (h : History p met s) (hclear : Capture.AreClear met)
    (hcurrent : s.coordinator.current = some g) (hmodels : g.isDegraded = false) :
  ∃ c ∈ met, IsBuiltFrom g c
  := by
  induction h with
  | start hnew =>
    rw [← hnew.renew_eq] at hcurrent
    cases hcurrent
  | edit h store hedit now ih => apply ih hclear hcurrent
  | @invalidate met s h ih =>
    rw [current_invalidate] at hcurrent
    apply ih hclear hcurrent
  | restart h ih => cases hcurrent
  | @request met s h ih =>
    -- Either the models stay in use, or the request has published others.
    have hkeeps : s.coordinator.current = some g → ∃ c ∈ met ++ s.captures, IsBuiltFrom g c := by
      intro hbefore
      obtain ⟨c, hc, hfrom⟩ := ih (hclear.mono fun c => List.mem_append_left _) hbefore
      exact ⟨c, List.mem_append_left _ hc, hfrom⟩
    rcases s.ensureReady_cases with
      ⟨g', -, heq⟩ | ⟨hfresh, ⟨built, g', hbuild, heq⟩ | ⟨built, e, hbuild, heq⟩⟩
    · rw [heq] at hcurrent
      apply hkeeps hcurrent
    · simp only [heq, endBuild, coordinator_succeed, Option.some.injEq] at hcurrent
      subst hcurrent
      obtain ⟨-, c, -, hinput, -⟩ := exists_of_rebuild_eq_ok hbuild
      have hcaptures : s.captures = [c] := by
        have hinput' : s.input = .ok c := hinput
        simp only [captures, hfresh, hinput']
        rfl
      rw [hcaptures] at hclear ⊢
      exact ⟨c, List.mem_append_right _ (List.mem_singleton_self c),
        h.kept.beginBuild.isBuiltFrom hinput hclear hbuild⟩
    · have hbuilds := builds_rebuild s.beginBuild
      rw [hbuild] at hbuilds
      have hbefore : built.coordinator.current = s.coordinator.current := hbuilds.current
      rw [heq] at hcurrent
      cases hprevious : built.coordinator.current with
      | some previous =>
        rw [fail_of_some hprevious] at hcurrent
        apply hkeeps
        rw [← hbefore]
        apply hcurrent
      | none =>
        rw [fail_of_none hprevious] at hcurrent
        cases hcurrent
        cases hmodels

/-! ### Histories -/

/-- What has been captured was made of a view of the schema. -/
theorem History.exists_view (h : History p met s) :
  ∀ c ∈ met, ∃ view policy, Snapshot.ofView view policy = .ok c.snapshot
  := by
  induction h with
  | start hnew => exact nofun
  | edit h store hedit now ih => apply ih
  | invalidate h ih => apply ih
  | restart h ih => apply ih
  | request h ih =>
    intro c hc
    rcases List.mem_append.mp hc with hc | hc
    · apply ih c hc
    · obtain ⟨hschema, -⟩ := input_eq_ok_iff.mp (mem_captures hc)
      obtain ⟨view, -, hview⟩ := Result.bind_eq_ok_iff.mp hschema
      exact ⟨view, _, hview⟩

/-- Captures of one snapshot, made where users have no files, are told apart by nothing. -/
theorem History.areClear (h : History p met s) {snapshot : Snapshot}
    (hmet : ∀ c ∈ met, c.snapshot = snapshot ∧ c.files = []) :
  Capture.AreClear met
  := by
  apply Capture.areClear_of_eq
  intro c hc c' hc'
  have hsnapshot := (hmet c hc).1.trans (hmet c' hc').1.symm
  have hfiles := (hmet c hc).2.trans (hmet c' hc').2.symm
  have hfingerprint : c.fingerprint = c'.fingerprint := by
    rw [(h.kept.sound c hc).fingerprint, (h.kept.sound c' hc').fingerprint, hsnapshot, hfiles]
  obtain ⟨snapshot, files, fingerprint⟩ := c
  cases hsnapshot
  cases hfiles
  cases hfingerprint
  rfl

/-- However often one schema has been built in a directory that was empty and in which users have no
files, models that are in use are published with the snapshot of the schema and have a model for
every type of it, if every alias has a character and no text mentions an attribute. -/
theorem History.misses_no_type (h : History p met s) {snapshot : Snapshot}
    (hmet : ∀ c ∈ met, c.snapshot = snapshot ∧ c.files = [])
    (hnames : ∀ t ∈ snapshot.types, t.aliasName ≠ "") (hattribute : snapshot.Avoids attributeWord)
    (hcurrent : s.coordinator.current = some g) (hmodels : g.isDegraded = false) :
  g.snapshot = some snapshot ∧ ∀ t ∈ snapshot.types,
    (∃ entry, g.registry.get? t.aliasName = some entry) ∧
    ∀ e : Element, e.contentTypeAlias = t.aliasName →
      g.registry.createModel e = .typed t.bindingName e
  := by
  obtain ⟨c, hc, hfrom⟩ := h.isBuiltFrom (h.areClear hmet) hcurrent hmodels
  obtain ⟨rfl, hfiles⟩ := hmet c hc
  obtain ⟨view, policy, hview⟩ := h.exists_view c hc
  have hsound := h.kept.sound c hc
  have hregistered := hfrom.registered
  rw [hsound.registered?_eq hfiles (Snapshot.areDeclarable_of_ofView hview hnames) hattribute]
    at hregistered
  use hfrom.snapshot
  intro t ht
  have hentry : g.registry.get? t.aliasName = some (Registry.entryOf t) := by
    split at hregistered
    · cases hregistered
    · rw [← Option.some.inj hregistered, Registry.get?_byAlias_eq_some_iff hsound.named]
      exact ⟨t, ht, rfl, rfl⟩
  use ⟨_, hentry⟩
  intro e he
  rw [Registry.createModel, he, hentry]
  rfl

/-- A new service with the journal as its schema, and a file that is not one of users. -/
def journaled : Service :=
  started Document.journal ("notes.txt", "")

theorem isNew_journaled :
  IsNew ["models"] journaled
  := isNew_started (by decide) (by decide)

/-- What is captured of the journal. -/
theorem exists_input_journaled :
  ∃ c, journaled.input = .ok c ∧ c.files = [] ∧
    List.Forall₂ (Document.journal.Describes .rawAlias) Document.journal.stored c.snapshot.types
  := by
  obtain ⟨snapshot, hbuild, hdescribes⟩ := Document.isConsistent_journal.exists_snapshot
  have hfiles : journaled.coordinator.cache.userFiles journaled.entered.tree = .ok [] := by
    rw [userFiles_entered isNew_journaled.sound isNew_journaled.leads]
    apply Cache.userFiles_eq isNew_journaled.leads isNew_journaled.fits.faultOf?_eq_none
    · simp
    · rw [journaled, inside_started]
      decide
  use ⟨snapshot, [], Fingerprint.compute [] snapshot.types⟩
  rw [input_eq_ok_iff, schema_of_memory rfl]
  exact ⟨⟨hbuild, hfiles, rfl⟩, rfl, hdescribes⟩

/-- The first build of the journal succeeds. -/
theorem current_ensureReady_journaled {c : Capture} (hinput : journaled.input = .ok c)
    (hfiles : c.files = []) (hdescribes : List.Forall₂ (Document.journal.Describes .rawAlias)
      Document.journal.stored c.snapshot.types) :
  ∃ g, journaled.ensureReady.1.coordinator.current = some g ∧ g.isDegraded = false
  := by
  have hcaptures : journaled.captures = [c] := by
    simp only [captures, isNew_journaled.fresh?_eq, hinput]
    rfl
  obtain ⟨view, policy, hview⟩ := (History.start isNew_journaled).request.exists_view c (by
    rw [hcaptures]
    simp)
  have hsound := Capture.isSound_of_capture hinput
  obtain ⟨hattribute, hnames⟩ := Emission.avoids_journal isMarked_attributeWord hdescribes
  obtain ⟨herror, haliases⟩ := Emission.avoids_journal isMarked_errorWord hdescribes
  have hdeclarable := Snapshot.areDeclarable_of_ofView hview fun t ht => (hnames t ht).1
  have hregistered := hsound.registered?_eq hfiles hdeclarable hattribute
  rw [Capture.source_of_nil hfiles, Bundle.hasError_render hsound.named herror
    (fun t ht => (haliases t ht).2) hsound.isLowerHex, if_neg (by simp)] at hregistered
  have houtcome := isNew_journaled.outcome_eq hinput
  rw [hregistered] at houtcome
  obtain ⟨built, g, hbuild, hready⟩ :=
    exists_of_lastError_eq_none isNew_journaled.fresh?_eq (lastError_eq_none_of_outcome houtcome)
  have hclear : Capture.AreClear ([] ++ [c]) := by
    apply Capture.areClear_of_eq
    simp
  use g
  constructor
  · rw [hready]
    simp only [endBuild, coordinator_succeed]
  · exact (isNew_journaled.kept.beginBuild.isBuiltFrom hinput hclear hbuild).isDegraded

/-- The build of the journal misses neither of its types. -/
theorem journal_misses_no_type :
  ∃ met g snapshot, History ["models"] met journaled.ensureReady.1 ∧
    (∀ c ∈ met, c.snapshot = snapshot ∧ c.files = []) ∧
    journaled.ensureReady.1.coordinator.current = some g ∧ g.isDegraded = false ∧
    g.snapshot = some snapshot ∧ snapshot.types.length = 2 ∧ ∀ t ∈ snapshot.types,
      (∃ entry, g.registry.get? t.aliasName = some entry) ∧
      ∀ e : Element, e.contentTypeAlias = t.aliasName →
        g.registry.createModel e = .typed t.bindingName e
  := by
  obtain ⟨c, hinput, hfiles, hdescribes⟩ := exists_input_journaled
  obtain ⟨g, hcurrent, hmodels⟩ := current_ensureReady_journaled hinput hfiles hdescribes
  have hhistory : History ["models"] ([] ++ journaled.captures) journaled.ensureReady.1 :=
    (History.start isNew_journaled).request
  have hmet : ∀ c' ∈ [] ++ journaled.captures, c'.snapshot = c.snapshot ∧ c'.files = [] := by
    intro c' hc'
    rw [Except.ok.inj ((mem_captures hc').symm.trans hinput)]
    exact ⟨rfl, hfiles⟩
  obtain ⟨hattribute, hnames⟩ := Emission.avoids_journal isMarked_attributeWord hdescribes
  obtain ⟨hsnapshot, htypes⟩ := hhistory.misses_no_type hmet (fun t ht => (hnames t ht).1) hattribute
    hcurrent hmodels
  have hlength : c.snapshot.types.length = 2 := by
    rw [← hdescribes.length_eq]
    decide +kernel
  exact ⟨_, g, c.snapshot, hhistory, hmet, hcurrent, hmodels, hsnapshot, hlength, htypes⟩

end Service

end LiveModels
