import LiveModels.Proofs.Reload.Stages
import LiveModels.Proofs.Snapshot.Builder
import LiveModels.Proofs.Source.Agreement

/-!
# What a capture determines

What a build captures determines what its bundle declares and whether the bundle asks for a compile
error, and with this the registry, if the models can be registered. The revision is of no account,
and neither is it from which of several captures with one fingerprint the bundle was emitted, unless
the fingerprint hides a difference between them that the bundle shows.
-/

namespace LiveModels

/-! ### Sources -/

/-- The types that a source exports, unless it asks for a compile error. -/
def exports? (source : String) : Option (List ExportedType) :=
  if hasError source.toList then none
  else some ((Declaration.declared source).map Declaration.exported)

theorem Declaration.Alike.exports?_eq {source source' : String}
    (h : Declaration.Alike source.toList source'.toList) :
  exports? source = exports? source'
  := by
  rw [exports?, exports?, Declaration.declared, Declaration.declared, h.scan_eq, h.hasError_eq]

/-- A source with a header is refused only if it asks for a compile error. -/
theorem Manifest.types_ofSource {source : String} {header : Header}
    (h : Bundle.header? source = some header) (moduleName : String) :
  (ofSource moduleName source).toOption.map (fun m => m.types.map Declaration.exported) =
    exports? source
  := by
  rw [ofSource, exports?, hasError, h]
  cases findCompileError? source.toList with
  | some message => rfl
  | none => rfl

namespace Service

variable {c c' : Capture} {s : Service} {met : List Capture}

/-! ### Input -/

/-- A service that has tried to take the lock. -/
def entered (s : Service) : Service :=
  let c := s.coordinator
  { s with tree := (c.cache.acquireLock s.tree s.lockHeld c.options.lockTimeout).1 }

/-- What a build reads of the schema once it has the lock. -/
def schema (s : Service) : Except SchemaError Snapshot :=
  Snapshot.build s.entered.tree s.coordinator.store s.coordinator.policy

/-- What a build captures once it has the lock. -/
def input (s : Service) : Except ModelsError Capture :=
  s.entered.capture

/-- A capture is made of the schema and the files of users. -/
theorem input_def (s : Service) :
  s.input =
    match s.schema with
    | .error e => .error (.schema e)
    | .ok snapshot =>
      match s.coordinator.cache.userFiles s.entered.tree with
      | .error e => .error e
      | .ok files => .ok ⟨snapshot, files, Fingerprint.compute files snapshot.types⟩
  := rfl

theorem input_eq_ok_iff :
  s.input = .ok c ↔
    s.schema = .ok c.snapshot ∧ s.coordinator.cache.userFiles s.entered.tree = .ok c.files ∧
      c.fingerprint = Fingerprint.compute c.files c.snapshot.types
  := by
  rw [input_def]
  cases s.schema with
  | error e => simp
  | ok snapshot =>
    cases s.coordinator.cache.userFiles s.entered.tree with
    | error e => simp
    | ok files =>
      obtain ⟨snapshot', files', fingerprint'⟩ := c
      simp only [Except.ok.injEq, Capture.mk.injEq]
      constructor
      · rintro ⟨rfl, rfl, rfl⟩
        exact ⟨rfl, rfl, rfl⟩
      · rintro ⟨rfl, rfl, rfl⟩
        exact ⟨rfl, rfl, rfl⟩

namespace Capture

/-- The bundle of what is emitted for a capture, as a revision. -/
def source (c : Capture) (revision : UInt64) : String :=
  (Staged.bundle c revision).render

/-- The registry of the models that are emitted for a capture, if they can be compiled and
registered. -/
def registered? (c : Capture) : Option Registry :=
  (exports? (c.source 0)).bind fun types => (Registry.ofTypes types).toOption

/-- The tokens of what has been captured. -/
def tokens (c : Capture) : List Token :=
  Fingerprint.tokens c.files c.snapshot.types

/-! ### Captures -/

/-- Whether a capture is one that a build can have made: it has the fingerprint of its files and
types, and the names in its snapshot are fit for emission. -/
structure IsSound (c : Capture) : Prop where
  fingerprint : c.fingerprint = Fingerprint.compute c.files c.snapshot.types
  named : c.snapshot.IsNamed

theorem isSound_of_capture (h : s.capture = .ok c) :
  c.IsSound
  := by
  unfold Service.capture at h
  simp only at h
  split at h
  · cases h
  case h_2 snapshot hsnapshot =>
    obtain ⟨view, -, hof⟩ := Result.bind_eq_ok_iff.mp hsnapshot
    split at h
    · cases h
    · cases h
      exact ⟨rfl, Snapshot.isNamed_of_ofView hof⟩

theorem IsSound.isLowerHex (h : c.IsSound) :
  ∀ d ∈ c.fingerprint.toList, Text.isLowerHex d = true
  := by
  rw [h.fingerprint]
  apply Combiner.isLowerHex_of_mem_text

theorem IsSound.length_fingerprint (h : c.IsSound) :
  c.fingerprint.toList.length = 8
  := by
  rw [h.fingerprint]
  apply Combiner.length_text

theorem IsSound.fingerprint_ne_empty (h : c.IsSound) :
  c.fingerprint ≠ ""
  := by
  rw [h.fingerprint]
  apply Combiner.text_ne_empty

theorem IsSound.header?_source (h : c.IsSound) (revision : UInt64) :
  Bundle.header? (c.source revision) = some ⟨c.fingerprint, revision⟩
  := Staged.header?_bundle h.fingerprint revision

theorem IsSound.restamp_source (h : c.IsSound) (revision revision' : UInt64) :
  Bundle.restamp (c.source revision) revision' = c.source revision'
  := Bundle.restamp_render (b := Staged.bundle c revision) h.isLowerHex revision'

/-! ### Captures with one fingerprint -/

/-- Whether the types of all properties that have been captured were read from texts. -/
def AreRead (c : Capture) : Prop :=
  ∀ t ∈ c.snapshot.types, ∀ p ∈ t.properties, p.type.IsRead

/-- Whether captures are told apart by their fingerprints as far as it matters: different tokens have
different hashes, the tokens hide no difference between files, and where they hide one between
snapshots, the types of properties were read, and mention no attribute and no compile error. -/
structure AreClear (met : List Capture) : Prop where
  hash : ∀ c ∈ met, ∀ c' ∈ met, c.fingerprint = c'.fingerprint → c.tokens = c'.tokens
  files : ∀ c ∈ met, ∀ c' ∈ met, c.tokens = c'.tokens → c.files = c'.files
  read : ∀ c ∈ met, ∀ c' ∈ met, c.tokens = c'.tokens → c.snapshot ≠ c'.snapshot → c.AreRead
  mute : ∀ c ∈ met, ∀ c' ∈ met, c.tokens = c'.tokens → c.snapshot ≠ c'.snapshot →
    c.snapshot.IsMute

theorem AreClear.mono {met' : List Capture} (h : AreClear met) (hmet : ∀ c ∈ met', c ∈ met) :
  AreClear met'
  := by
  constructor
  · intro c hc c' hc'
    apply h.hash c (hmet c hc) c' (hmet c' hc')
  · intro c hc c' hc'
    apply h.files c (hmet c hc) c' (hmet c' hc')
  · intro c hc c' hc'
    apply h.read c (hmet c hc) c' (hmet c' hc')
  · intro c hc c' hc'
    apply h.mute c (hmet c hc) c' (hmet c' hc')

/-- Captures that are all the same are not told apart. -/
theorem areClear_of_eq (h : ∀ c ∈ met, ∀ c' ∈ met, c = c') :
  AreClear met
  := by
  constructor
  · intro c hc c' hc' _
    rw [h c hc c' hc']
  · intro c hc c' hc' _
    rw [h c hc c' hc']
  · intro c hc c' hc' _ hne
    rw [h c hc c' hc'] at hne
    exact absurd rfl hne
  · intro c hc c' hc' _ hne
    rw [h c hc c' hc'] at hne
    exact absurd rfl hne

/-- The revision is of no account for what a source declares. -/
theorem IsSound.alike_source (h : c.IsSound) (revision revision' : UInt64) :
  Declaration.Alike (c.source revision).toList (c.source revision').toList
  := by
  have hbody : (Staged.bundle c revision).body = (Staged.bundle c revision').body :=
    Bundle.body_congr rfl
  apply (Bundle.alike_body _ h.isLowerHex).trans
  rw [hbody]
  apply (Bundle.alike_body _ h.isLowerHex).symm

/-- Captures of the same files that have the same tokens have types that match. -/
theorem AreRead.matches (h : c.AreRead) (h' : c'.AreRead) (hfiles : c.files = c'.files)
    (heq : c.tokens = c'.tokens) :
  List.Forall₂ TypeDescriptor.Matches c.snapshot.byAlias c'.snapshot.byAlias
  := by
  rw [tokens, tokens, hfiles] at heq
  apply Fingerprint.flatMap_typeTokens_inj _ _ (List.append_cancel_left heq)
  · intro t ht
    apply h t (Snapshot.mem_byAlias.mp ht)
  · intro t ht
    apply h' t (Snapshot.mem_byAlias.mp ht)

/-- Captures that have the same fingerprint have sources that declare the same. -/
theorem AreClear.alike_source (h : AreClear met) (hc : c ∈ met) (hc' : c' ∈ met) (hs : c.IsSound)
    (hs' : c'.IsSound) (heq : c.fingerprint = c'.fingerprint) (revision revision' : UInt64) :
  Declaration.Alike (c.source revision).toList (c'.source revision').toList
  := by
  have htokens := h.hash c hc c' hc' heq
  have hfiles := h.files c hc c' hc' htokens
  have hmatch := fun hne => (h.read c hc c' hc' htokens hne).matches
    (h.read c' hc' c hc htokens.symm (Ne.symm hne)) hfiles htokens
  obtain ⟨snapshot, files, fingerprint⟩ := c
  obtain ⟨snapshot', files', fingerprint'⟩ := c'
  obtain rfl : files = files' := hfiles
  obtain rfl : fingerprint = fingerprint' := heq
  by_cases hsame : snapshot = snapshot'
  · subst hsame
    apply hs.alike_source
  · apply Bundle.alike_render _ hs.named hs'.named
    · apply h.mute _ hc _ hc' htokens hsame
    · apply h.mute _ hc' _ hc htokens.symm (Ne.symm hsame)
    · apply hs.isLowerHex
    · apply (hmatch hsame).imp
      intro t t' ht
      apply ht.agrees

end Capture

end Service

end LiveModels
