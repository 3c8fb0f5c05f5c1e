import LiveModels.Proofs.Reload.History

/-!
# Changes that the tokens hide

That different tokens have different hashes is not enough for history to be of no account. What is
stored for a fingerprint is used for all captures that have it, so a change that leaves the tokens as
they are is missed until the next one that does not. There are three such changes: a part of a file
can move from its name to its text if there is a colon in the name, properties can change places, and
a reference to a model can become a name that is written like a reference. The first shows in the
bundle, which has the name of a file on a line of its own; the second shows if the types of properties
read as pieces of a program; the third shows because only a reference is replaced when it is emitted.
-/

namespace LiveModels

namespace Service

open LiveModels.Tree

variable {p : Place} {s s' f : Service} {c c' : Capture} {met : List Capture} {tree : Tree}

/-! ### Stored bundles -/

/-- What is produced from something stored does not depend on what has been captured. -/
theorem produce_eq_of_lookUp {fingerprint : String} (h : (s.lookUp fingerprint).2 ≠ .miss)
    (snapshot snapshot' : Snapshot) (files files' : UserFiles) :
  s.produce snapshot files fingerprint = s.produce snapshot' files' fingerprint
  := by
  unfold produce
  cases hlookUp : s.lookUp fingerprint with
  | mk s₁ found =>
    rw [hlookUp] at h
    cases found with
    | module module source => rfl
    | source text => rfl
    | miss => exact absurd rfl h

/-- A generation that is built from something stored shows the same for all captures with one
fingerprint. -/
theorem content_generationOf_eq (h : (s.lookUp c.fingerprint).2 ≠ .miss)
    (heq : c'.fingerprint = c.fingerprint) :
  content (s.generationOf c').2 = content (s.generationOf c).2
  := by
  unfold generationOf
  rw [heq, produce_eq_of_lookUp h c'.snapshot c.snapshot c'.files c.files]
  split
  · rfl
  · split <;> rfl

/-- A bundle that is stored for a capture is used for another one with the same fingerprint. -/
theorem Kept.outcome_of_stored (h : Kept [c] p s) (hbuilds : s.coordinator.fresh? = none)
    (hstored : s.coordinator.cache.IsStored s.tree c.fingerprint) (hinput : s.input = .ok c')
    (heq : c'.fingerprint = c.fingerprint) :
  s.outcome = c.registered?.map fun r => (some c.fingerprint, r)
  := by
  have hinput' : s.beginBuild.input = .ok c' := hinput
  have hclear : Capture.AreClear [c] := by
    apply Capture.areClear_of_eq
    simp
  have hlocked : Becomes (fun q _ => q = p ++ [Artifact.lock.fileName]) s.tree s.entered.tree :=
    Cache.becomes_acquireLock h.files.sound h.files.leads _ _ rfl
  have hfound : (s.beginBuild.entered.lookUp c.fingerprint).2 ≠ .miss := by
    apply lookUp_ne_miss
    apply hstored.of_becomes h.files.leads hlocked
    intro a ha n hlock
    have hname : a.fileName = Artifact.lock.fileName := by simpa using hlock
    rw [Artifact.fileName_inj.mp hname] at ha
    simp at ha
  rw [Service.outcome_eq hbuilds, h.beginBuild.rebuild_eq, hinput', content_generationOf_eq hfound heq]
  exact (h.beginBuild.entered.1.generationOf (by simp)).2 hclear

/-- An edit leaves a bundle stored. -/
theorem isStored_of_edit {cache : Cache} {t : Tree} {fingerprint : String}
    (h : cache.IsStored t fingerprint) (hp : t.Leads cache.directory p)
    (hedit : Becomes (IsEdit p) t tree) :
  cache.IsStored tree fingerprint
  := by
  apply h.of_becomes hp hedit
  rintro a - n (hown | ⟨-, name, heq⟩)
  · apply hown (Cache.isOwn_artifact a)
  · have hlength := congrArg List.length heq
    simp at hlength

/-- Nothing is stored for a new coordinator. -/
theorem IsNew.isMarked_eq (h : IsNew p s) (fingerprint : String) :
  s.coordinator.cache.isMarked s.entered.tree fingerprint = false
  := by
  have hlocked : Becomes (fun q _ => q = p ++ [Artifact.lock.fileName]) s.tree s.entered.tree :=
    Cache.becomes_acquireLock h.sound h.leads _ _ rfl
  have hread : s.coordinator.cache.read? s.entered.tree .marker = none := by
    rw [Cache.read?_eq_of_becomes h.leads hlocked, Option.eq_none_iff_forall_ne_some]
    · intro text htext
      rw [Cache.read?_eq_some_iff h.leads, h.bare _ (by decide)] at htext
      cases htext.2
    · simp [Artifact.fileName]
  rw [Cache.isMarked, hread]
  rfl

/-- What is stored stays so when the models become stale. -/
theorem isStored_invalidate {fingerprint : String} (hs : s.tree.Sound)
    (hp : s.tree.Leads s.coordinator.cache.directory p)
    (h : s.coordinator.cache.IsStored s.tree fingerprint) :
  s.invalidate.coordinator.cache.IsStored s.invalidate.tree fingerprint
  := by
  rw [(Coordinator.renew_inj.mp (renew_invalidate s)).2.2.2]
  apply h.of_notes hp (notes_invalidate hs hp)

/-- The first build of a new coordinator stores the bundle of what it has captured. -/
theorem IsNew.isStored (h : IsNew p s) (hinput : s.input = .ok c) {r : Registry}
    (hregistry : c.registered? = some r) :
  s.ensureReady.1.coordinator.cache.IsStored s.ensureReady.1.tree c.fingerprint
  := by
  have houtcome : s.outcome = some (some c.fingerprint, r) := by
    rw [h.outcome_eq hinput, hregistry]
    rfl
  obtain ⟨built, g, c₁, product, q, hmade⟩ :=
    exists_makes h.sound h.fresh?_eq (lastError_eq_none_of_outcome houtcome)
  obtain rfl : c = c₁ := Except.ok.inj (hinput.symm.trans hmade.input)
  have hmissed : s.beginBuild.entered.lookUp c.fingerprint = (s.beginBuild.entered, .miss) := by
    rcases s.beginBuild.entered.lookUp_cases c.fingerprint with ⟨-, heq⟩ | ⟨hmarked, -⟩
    · apply heq
    · cases (h.isMarked_eq c.fingerprint).symm.trans hmarked
  have hproduce := hmade.produce
  unfold produce at hproduce
  rw [hmissed] at hproduce
  have hcompiles : Compiles q s.beginBuild.entered c.fingerprint built product.module :=
    compiles_of_emitAndCompile (s := s.beginBuild.entered) hmade.sound hmade.leads
      hmade.isSound.isLowerHex hmade.isSound.fingerprint_ne_empty hproduce
  obtain ⟨-, hstored, -⟩ := hcompiles.finds hmade.leads hmade.isSound.isLowerHex
  rw [hmade.ensureReady_eq.1, hmade.ready]
  apply hstored.of_notes hmade.leads_built hmade.notes

/-! ### Hidden changes -/

/-- Whether history is of account for a service, although different tokens have different hashes: a
new coordinator has another outcome. -/
structure IsMisled (p : Place) (met : List Capture) (s f : Service) : Prop where
  history : History p met s
  builds : s.coordinator.fresh? = none
  hash : ∀ c ∈ met ++ s.captures, ∀ c' ∈ met ++ s.captures,
    c.fingerprint = c'.fingerprint → c.tokens = c'.tokens
  new : IsNew p f
  resembles : f.Resembles p s
  outcome : s.outcome ≠ f.outcome

/-- An edit that the tokens hide misleads the next build, if another registry should come of it. -/
theorem IsNew.isMisled_edit (h : IsNew p s) (hf : IsNew p f) (hinput : s.input = .ok c)
    (hinput' : f.input = .ok c') (htokens : c'.tokens = c.tokens) (hregistry : c.registered? ≠ none)
    (hne : c'.registered? ≠ c.registered?)
    (hedit : Becomes (IsEdit p) s.ensureReady.1.tree tree) {now : String}
    (hsame : f.Resembles p (s.ensureReady.1.edit f.coordinator.store tree now).invalidate) :
  IsMisled p [c] (s.ensureReady.1.edit f.coordinator.store tree now).invalidate f
  := by
  obtain ⟨r, hr⟩ := Option.ne_none_iff_exists'.mp hregistry
  have hcaptures : s.captures = [c] := by
    simp only [captures, h.fresh?_eq, hinput]
    rfl
  have hfirst : History p ([] ++ s.captures) s.ensureReady.1 := (History.start h).request
  rw [List.nil_append, hcaptures] at hfirst
  have hhistory := (hfirst.edit f.coordinator.store hedit now).invalidate
  have hbuilds := fresh?_invalidate (s.ensureReady.1.edit f.coordinator.store tree now)
  have hinput₁ : (s.ensureReady.1.edit f.coordinator.store tree now).invalidate.input = .ok c' := by
    rw [← hhistory.kept.input_eq hf.kept hsame, hinput']
  have hfingerprint : c'.fingerprint = c.fingerprint := by
    rw [(input_eq_ok_iff.mp hinput).2.2, (input_eq_ok_iff.mp hinput').2.2]
    exact congrArg (fun tokens => Combiner.text (Combiner.run tokens)) htokens
  have hleads := hfirst.kept.files.leads
  have hstored := isStored_of_edit (h.isStored hinput hr) hleads hedit
  have houtcome := hhistory.kept.outcome_of_stored hbuilds
    (isStored_invalidate (s := s.ensureReady.1.edit f.coordinator.store tree now) hedit.sound
      (hleads.mono hedit.keeps) hstored) hinput₁ hfingerprint
  constructor
  · apply hhistory
  · apply hbuilds
  · have hall : ∀ c₁ ∈ [c] ++ (s.ensureReady.1.edit f.coordinator.store tree now).invalidate.captures,
        c₁.tokens = c.tokens := by
      intro c₁ hc₁
      rcases List.mem_append.mp hc₁ with hc₁ | hc₁
      · rw [List.mem_singleton.mp hc₁]
      · rw [← htokens, Except.ok.inj (hinput₁.symm.trans (mem_captures hc₁))]
    intro c₁ hc₁ c₂ hc₂ _
    rw [hall c₁ hc₁, hall c₂ hc₂]
  · apply hf
  · apply hsame
  · rw [houtcome, hf.outcome_eq hinput', hfingerprint]
    intro heq
    apply hne
    apply Option.map_injective _ heq.symm
    intro r r' hpair
    apply (Prod.mk.inj hpair).2

/-! ### Replaced files -/

/-- Whether a file can be one of users. -/
structure IsWritten (file : String × String) : Prop where
  name : IsName file.1
  user : Cache.isUserFile file.1 (.file (.text file.2)) = true

/-- A tree with one file of users in place of another. -/
def replaced (t : Tree) (old file : String × String) : Tree :=
  (t.erase (["models"] ++ [old.1])).set (["models"] ++ [file.1]) (.file (.text file.2))

/-- A service whose schema and file of users have been replaced after the first build. -/
def changed (d d' : Document) (file file' : String × String) : Service :=
  let s := (started d file).ensureReady.1
  (s.edit (.memory d') (replaced s.tree file file') "later").invalidate

/-- The capture of a snapshot and one file of users. -/
def captureOf (snapshot : Snapshot) (file : String × String) : Capture :=
  ⟨snapshot, [file], Fingerprint.compute [file] snapshot.types⟩

section

variable {d d' : Document} {file file' : String × String} {snapshot snapshot' : Snapshot}

theorem get?_started (d : Document) (file : String × String) (name : String) :
  (started d file).tree.get? (["models"] ++ [name]) =
    if name = file.1 then some (.file (.text file.2)) else none
  := by
  split
  case isTrue heq =>
    rw [heq]
    apply get?_set_self _ (by simp)
  case isFalse hne =>
    rw [started, get?_set_of_ne _ (by simpa using hne)]
    simp [Tree.get?]

theorem get?_replaced (hs : tree.Sound)
    (hold : tree.get? (["models"] ++ [file.1]) = some (.file (.text file.2))) (name : String) :
  (replaced tree file file').get? (["models"] ++ [name]) =
    if name = file'.1 then some (.file (.text file'.2))
    else if name = file.1 then none else tree.get? (["models"] ++ [name])
  := by
  split
  case isTrue heq =>
    rw [heq]
    apply get?_set_self _ (by simp)
  case isFalse hne =>
    rw [replaced, get?_set_of_ne _ (by simpa using hne)]
    split
    case isTrue heq =>
      rw [heq]
      apply hs.get?_erase_self (by simp)
    case isFalse hne' => apply hs.get?_erase_of_ne hold (by simpa using hne')

theorem isEdit_user (h : IsWritten file) (n : Option Node) :
  IsEdit p (p ++ [file.1]) n
  := .inl (Cache.not_isOwn_of_isUserFile h.user)

/-- Replacing one file of users by another is an edit. -/
theorem becomes_replaced (h : IsWritten file) (h' : IsWritten file') (hs : tree.Sound)
    (hmodels : tree.get? ["models"] = some .directory)
    (hold : tree.get? (["models"] ++ [file.1]) = some (.file (.text file.2)))
    (hfree : tree.get? (["models"] ++ [file'.1]) ≠ some .directory) :
  Becomes (IsEdit ["models"]) tree (replaced tree file file')
  := by
  have herased : Becomes (IsEdit ["models"]) tree (tree.erase (["models"] ++ [file.1])) :=
    hs.becomes_erase hold (isEdit_user h _)
  apply herased.trans
  apply herased.sound.becomes_set (herased.keeps _ hmodels) h'.name _ (isEdit_user h' _)
  apply Or.inr
  by_cases heq : file'.1 = file.1
  · rw [heq, hs.get?_erase_self (by simp)]
    simp
  · rwa [hs.get?_erase_of_ne hold (by simpa using heq)]

theorem input_started (hnew : IsNew ["models"] (started d file)) (h : IsWritten file)
    (hbuild : Snapshot.build ⟨[]⟩ (.memory d) .rawAlias = .ok snapshot) :
  (started d file).input = .ok (captureOf snapshot file)
  := by
  have hfiles : (started d file).coordinator.cache.userFiles (started d file).tree = .ok [file] := by
    apply Cache.userFiles_eq hnew.leads hnew.fits.faultOf?_eq_none
    · simp
    · rw [inside_started]
      simp [h.user]
  rw [input_eq_ok_iff, schema_of_memory rfl, userFiles_entered hnew.sound hnew.leads]
  exact ⟨hbuild, hfiles, rfl⟩

/-- A change of schema and file that the tokens hide misleads a service. -/
theorem isMisled_changed (h : IsWritten file) (h' : IsWritten file')
    (hbuild : Snapshot.build ⟨[]⟩ (.memory d) .rawAlias = .ok snapshot)
    (hbuild' : Snapshot.build ⟨[]⟩ (.memory d') .rawAlias = .ok snapshot')
    (htokens : (captureOf snapshot' file').tokens = (captureOf snapshot file).tokens)
    (hregistry : (captureOf snapshot file).registered? ≠ none)
    (hne : (captureOf snapshot' file').registered? ≠ (captureOf snapshot file).registered?) :
  IsMisled ["models"] [captureOf snapshot file] (changed d d' file file') (started d' file')
  := by
  have hnew : IsNew ["models"] (started d file) :=
    isNew_started h.name (Cache.isArtifactName_of_isUserFile h.user)
  have hnew' : IsNew ["models"] (started d' file') :=
    isNew_started h'.name (Cache.isArtifactName_of_isUserFile h'.user)
  have hown := own_ensureReady hnew.sound hnew.leads
  have hget : ∀ {name n}, Cache.isUserFile name n = true →
      (started d file).ensureReady.1.tree.get? (["models"] ++ [name]) =
        if name = file.1 then some (.file (.text file.2)) else none := by
    intro name n huser
    rw [hown.get?_eq (Cache.not_isOwn_of_isUserFile huser), get?_started]
  have hold := hget h.user
  rw [if_pos rfl] at hold
  have hfree : (started d file).ensureReady.1.tree.get? (["models"] ++ [file'.1]) ≠ some .directory := by
    rw [hget h'.user]
    split <;> simp
  have hedit := becomes_replaced h h' hown.sound (hown.keeps _ hnew.leads.directory) hold hfree
  apply hnew.isMisled_edit hnew' (input_started hnew h hbuild) (input_started hnew' h' hbuild') htokens
    hregistry hne hedit
  apply hnew.resembles_edit (f := started d' file') rfl rfl rfl hedit
  intro name n huser
  rw [get?_started, get?_replaced hown.sound hold, hget huser]
  split
  · rfl
  · split <;> simp

/-! ### Three changes -/

/-- The text after the header of a bundle whose imports are in ascending order. -/
theorem body_of_imports {b : Bundle} (imports : List String)
    (h : (b.allLines.filter Bundle.isImport).map (fun line => String.ofList (Text.trim line)) = imports)
    (hsorted : imports.Pairwise fun text text' => decide (text ≤ text') = true) :
  b.body = Text.joinLines ((b.attributes ++ (if b.attributes.isEmpty then [] else [""])
    ++ imports.eraseDups ++ b.sections.flatMap Bundle.sectionLines ++ ["", "// EOF"]).map String.toList)
  := by
  rw [Bundle.body, Bundle.bodyLines, Bundle.imports, Bundle.sortedOnce, h, sortedTexts,
    List.mergeSort_of_pairwise hsorted]

/-- The registry of a capture depends on what follows the header of its bundle. -/
theorem registered?_captureOf {body : List Char}
    (h : Bundle.body ⟨"", 0, [file], Emission.emit snapshot [file]⟩ = body) :
  (captureOf snapshot file).registered? =
    (if hasError body then none else some ((Declaration.scan body).map Declaration.exported)).bind
      fun types => (Registry.ofTypes types).toOption
  := by
  have hhex : ∀ d ∈ (captureOf snapshot file).fingerprint.toList, Text.isLowerHex d = true := by
    rw [captureOf]
    apply Combiner.isLowerHex_of_mem_text
  have halike := Bundle.alike_body (Staged.bundle (captureOf snapshot file) 0) hhex
  have hsections : (Staged.bundle (captureOf snapshot file) 0).sections =
      Bundle.sections ⟨"", 0, [file], Emission.emit snapshot [file]⟩ := by
    rw [Bundle.sections, Bundle.sections]
    rfl
  have hbody := (Bundle.body_congr hsections).trans h
  rw [hbody] at halike
  change Declaration.Alike ((captureOf snapshot file).source 0).toList body at halike
  rw [Capture.registered?, exports?, Declaration.declared, halike.scan_eq, halike.hasError_eq]

end

/-- A document with a page, which has properties. -/
def program (properties : List PropertyRecord) (editors : List (String × RuntimeType)) : Document where
  contentTypes := [⟨1, "page", "Page", none, -1, false, [], properties⟩]
  editors := editors

/-- Editors that give types which read as pieces of a program. -/
def pieces : List (String × RuntimeType) :=
  [("Open", .named "compile_error!(\""), ("Close", .named "\")")]

/-- The snapshot of such a page. -/
def page (properties : List PropertyDescriptor) : Snapshot :=
  ⟨[{ id := 1, aliasName := "page", bindingName := "page", parentId := -1, kind := .content,
      displayName := "Page", description := none, properties := properties }]⟩

def opening : PropertyRecord :=
  ⟨"first", "First", none, "Open"⟩

def closing : PropertyRecord :=
  ⟨"last", "Last", none, "Close"⟩

def openingType : PropertyDescriptor :=
  ⟨"first", "first", "First", none, .named "compile_error!(\""⟩

def closingType : PropertyDescriptor :=
  ⟨"last", "last", "Last", none, .named "\")"⟩

/-- A reference to a model whose alias has a line that reads as an import. -/
def reference : RuntimeType :=
  .model "page\nuse page\");"

/-- A name with the same text. -/
def lookalike : RuntimeType :=
  .named "@page\nuse page\");"

/-- A file that declares a model. -/
def plain : String × String :=
  ("a.rs", "#[model(alias = \"a.rs::b\")]\npub struct B;\n")

/-- A file with the same token, of which a part has moved into the name. -/
def moved : String × String :=
  ("a.rs::#[model(alias = \"a.rs", "b\")]\npub struct B;\n")

/-- The imports of such a file and of the emitted source. -/
def unfinishedImports : List String :=
  ["use compile_error!(\";", "use crate::models::prelude::*;"]

/-- A file that declares nothing. -/
def blank : String × String :=
  ("a.rs", "")

/-- A file with an import that begins to ask for a compile error. -/
def unfinished : String × String :=
  ("a.rs", "use compile_error!(\";\n")

theorem isWritten_blank :
  IsWritten blank
  := ⟨by decide, by decide⟩

theorem isWritten_unfinished :
  IsWritten unfinished
  := ⟨by decide, by decide⟩

theorem isWritten_plain :
  IsWritten plain
  := ⟨by decide, by decide⟩

theorem isWritten_moved :
  IsWritten moved
  := ⟨by decide, by decide⟩

/-- Three changes mislead a service although different tokens have different hashes: two properties
change places, so that a compile error is asked for where the first build has succeeded; a part of a
file moves into its name, so that a model has another alias; and a reference becomes a name that is
written like it, so that an import is emitted which completes a compile error. -/
theorem tokens_hide_changes :
  IsMisled ["models"] [captureOf (page [closingType, openingType]) blank]
      (changed (program [closing, opening] pieces) (program [opening, closing] pieces) blank blank)
      (started (program [opening, closing] pieces) blank) ∧
    IsMisled ["models"] [captureOf ⟨[]⟩ plain] (changed {} {} plain moved) (started {} moved) ∧
    IsMisled ["models"] [captureOf (page [{ openingType with type := reference }]) unfinished]
      (changed (program [opening] [("Open", reference)]) (program [opening] [("Open", lookalike)])
        unfinished unfinished)
      (started (program [opening] [("Open", lookalike)]) unfinished)
  := by
  refine ⟨?_, ?_, ?_⟩
  · have hsome : (captureOf (page [closingType, openingType]) blank).registered?.isSome = true := by
      rw [registered?_captureOf rfl]
      decide +kernel
    have hnone : (captureOf (page [openingType, closingType]) blank).registered?.isSome = false := by
      rw [registered?_captureOf rfl]
      decide +kernel
    apply isMisled_changed isWritten_blank isWritten_blank
    · exact (show Snapshot.build ⟨[]⟩ (.memory (program [closing, opening] pieces)) .rawAlias =
        .ok (page [closingType, openingType]) by decide +kernel)
    · exact (show Snapshot.build ⟨[]⟩ (.memory (program [opening, closing] pieces)) .rawAlias =
        .ok (page [openingType, closingType]) by decide +kernel)
    · simp [captureOf, Capture.tokens, Fingerprint.tokens, Snapshot.byAlias, page,
        Fingerprint.typeTokens, Fingerprint.sortedProperties, openingType, closingType,
        List.mergeSort, List.MergeSort.Internal.splitInTwo, Fingerprint.propertyTokens]
    · intro h
      rw [h] at hsome
      cases hsome
    · intro h
      rw [h, hsome] at hnone
      cases hnone
  · have hplain : (captureOf ⟨[]⟩ plain).registered?.map (·.aliases) = some ["a.rs::b"] := by
      rw [registered?_captureOf rfl]
      decide +kernel
    have hmoved : (captureOf ⟨[]⟩ moved).registered?.map (·.aliases) = some ["a.rs\nb"] := by
      rw [registered?_captureOf rfl]
      decide +kernel
    have hbuild : Snapshot.build ⟨[]⟩ (.memory {}) .rawAlias = .ok ⟨[]⟩ := by decide +kernel
    apply isMisled_changed isWritten_plain isWritten_moved hbuild hbuild
    · simp [captureOf, Capture.tokens, Fingerprint.tokens, Fingerprint.fileToken, plain, moved]
    · intro h
      rw [h] at hplain
      cases hplain
    · intro h
      rw [h, hplain] at hmoved
      revert hmoved
      decide
  · have hsome : (captureOf (page [{ openingType with type := reference }])
        unfinished).registered?.isSome = true := by
      rw [registered?_captureOf (body_of_imports unfinishedImports (by decide +kernel)
        (by decide +kernel))]
      decide +kernel
    have hnone : (captureOf (page [{ openingType with type := lookalike }])
        unfinished).registered?.isSome = false := by
      rw [registered?_captureOf (body_of_imports (unfinishedImports ++ ["use page\");"])
        (by decide +kernel) (by decide +kernel))]
      decide +kernel
    apply isMisled_changed isWritten_unfinished isWritten_unfinished
    · exact (show Snapshot.build ⟨[]⟩ (.memory (program [opening] [("Open", reference)])) .rawAlias =
        .ok (page [{ openingType with type := reference }]) by decide +kernel)
    · exact (show Snapshot.build ⟨[]⟩ (.memory (program [opening] [("Open", lookalike)])) .rawAlias =
        .ok (page [{ openingType with type := lookalike }]) by decide +kernel)
    · decide +kernel
    · intro h
      rw [h] at hsome
      cases hsome
    · intro h
      rw [h, hsome] at hnone
      cases hnone

end Service

end LiveModels
