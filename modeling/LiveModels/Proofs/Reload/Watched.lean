import LiveModels.Proofs.Cache.Refused
import LiveModels.Proofs.Cache.Users
import LiveModels.Proofs.Reload.Failure
import LiveModels.Reload.Watcher

/-!
# Watching a models directory

A watcher tells what users do in a models directory from what is done there by operations. What an
operation touches in the directory is ignored, so that no build is the cause of another one; every
file of users is noticed; and what is ignored is no file of users, whatever becomes of it.

The path of the directory must not lead back before the directory exists, and the fingerprint of what
is stored must not lead back out of the directory of compiled modules.
-/

namespace LiveModels

open LiveModels.Tree

namespace Watcher

variable {d : Path} {name : String}

/-- The last name of a joined path. -/
theorem fileName?_join (hname : IsStep name) :
  (d.join name).fileName? = some name
  := by
  have hlast : (d.join name).names.getLast? = some name := by
    rw [Path.names_eq, Path.steps_join_name d hname, List.filter_append,
      List.filter_cons_of_pos (by simpa using hname.ne_dot)]
    simp
  rw [Path.fileName?, hlast]
  simp [hname.ne_dots]

/-- A change under a name in a directory matters unless the name is one of an artifact. -/
theorem concerns_join (hname : IsStep name) :
  concerns (d.join name).text = !isArtifactName name
  := by
  have hlast : (Path.mk (d.join name).text).fileName? = some name := fileName?_join hname
  rw [concerns, hlast]

end Watcher

namespace Cache

variable {c : Cache} {t t' : Tree} {p : Place} {name : String} {temporary : Artifact → String}

theorem IsOwnName.fileChanged_eq (h : IsOwnName name) (d : Path) (s : Service) :
  Watcher.fileChanged (d.join name).text s = s
  := by
  rw [Watcher.fileChanged, Watcher.concerns_join h.toIsStep, h.artifact]
  rfl

/-- A change of a file of users invalidates. -/
theorem fileChanged_of_isUserFile {n : Node} (hname : IsStep name) (h : isUserFile name n = true)
    (d : Path) (s : Service) :
  Watcher.fileChanged (d.join name).text s = s.invalidate
  := by
  rw [Watcher.fileChanged, Watcher.concerns_join hname, isArtifactName_of_isUserFile h]
  rfl

/-- What is in a directory has a name. -/
theorem isName_of_mem_list {d : Path} {entries : List (String × Node)} {e : String × Node}
    (hs : t.Sound) (hlist : t.list d = .ok entries) (he : e ∈ entries) :
  IsName e.1
  := by
  obtain ⟨q, -, rfl⟩ := exists_leads_of_list hlist
  apply hs.isName_of_get? (hs.mem_children.mp he)

/-- The files of users are the same where all that the watcher notices is the same. -/
theorem userFiles_eq_of_concerns (hs : t.Sound) (hs' : t'.Sound) (hp : t.Leads c.directory p)
    (hp' : t'.Leads c.directory p)
    (hsame : ∀ name, Watcher.concerns (c.directory.join name).text = true →
      t'.get? (p ++ [name]) = t.get? (p ++ [name])) :
  c.userFiles t' = c.userFiles t
  := by
  apply userFiles_congr hs' hs hp' hp
  intro name n huser
  by_cases hname : IsStep name
  · rw [hsame name]
    rw [Watcher.concerns_join hname, isArtifactName_of_isUserFile huser]
    rfl
  · -- nothing has a name that is none
    constructor
    · intro hget
      exact absurd (hs'.isName_of_get? hget).toIsStep hname
    · intro hget
      exact absurd (hs.isName_of_get? hget).toIsStep hname

/-- An operation on a models directory leaves the files of users as they are, and whatever it creates,
replaces, renames or removes in the directory itself is ignored by the watcher, the temporary names of
files included. A change of a file of users invalidates, and what is ignored may change without a
change of the files of users. -/
theorem Operation.watched (hs : t.Sound) (htemporary : ∀ a, IsTemporary (temporary a))
    (operation : Operation) :
  (c.IsSteady t → c.userFiles (operation.run c t) = c.userFiles t
    ∧ (c.userFiles (operation.run c t)).map (fun files => files.map Fingerprint.fileToken)
      = (c.userFiles t).map (fun files => files.map Fingerprint.fileToken))
  ∧ Call.runAll t (operation.calls c temporary t) = operation.run c t
  ∧ (∀ q, q ∉ Call.allTouched t (operation.calls c temporary t) →
      (operation.run c t).get? q = t.get? q)
  ∧ (operation.IsForward → ∀ p, Lies t c.directory p → ∀ name,
      p ++ [name] ∈ Call.allTouched t (operation.calls c temporary t) →
        ∀ s, Watcher.fileChanged (c.directory.join name).text s = s)
  ∧ (∀ entries, t.list c.directory = .ok entries → ∀ e ∈ entries, isUserFile e.1 e.2 = true →
      ∀ s, Watcher.fileChanged (c.directory.join e.1).text s = s.invalidate
        ∧ s.invalidate.coordinator.stale = true)
  ∧ ∀ p t', t.Leads c.directory p → t'.Sound → t'.Leads c.directory p →
      (∀ name, Watcher.concerns (c.directory.join name).text = true →
        t'.get? (p ++ [name]) = t.get? (p ++ [name])) →
      c.userFiles t' = c.userFiles t
  := by
  have hown : ∀ call ∈ operation.calls c temporary t, c.IsOwnCall operation.IsForward call :=
    fun call hcall => operation.isOwnCall htemporary hs hcall
  refine ⟨?_, operation.runAll_calls c temporary t, ?_, ?_, ?_, ?_⟩
  · intro hsteady
    have hsame := userFiles_runAll hown hs hsteady
    rw [operation.runAll_calls c temporary t] at hsame
    rw [hsame]
    exact ⟨rfl, rfl⟩
  · intro q hq
    rw [← operation.runAll_calls c temporary t]
    apply (Call.becomes_runAll hs _).get?_eq hq
  · intro hforward p hlies name hq s
    apply (isOwnName_of_mem_allTouched hown hforward hs hlies hq).fileChanged_eq
  · intro entries hlist e he huser s
    use fileChanged_of_isUserFile (isName_of_mem_list hs hlist he).toIsStep huser c.directory s
    rw [Service.coordinator_invalidate]
  · intro p t' hp hs' hp' hsame
    apply userFiles_eq_of_concerns hs hs' hp hp' hsame

/-! ### Directories that are watched -/

/-- A name of a file that is being written. -/
def temporaryName (_ : Artifact) : String :=
  ".tmpA1b2C3"

theorem isTemporary_temporaryName (a : Artifact) :
  IsTemporary (temporaryName a)
  := by
  have hname : IsTemporary ".tmpA1b2C3" := ⟨by decide, by decide⟩
  exact hname

/-- A models directory with one file of users. -/
def authored : Tree :=
  holding [("Author.rs", "pub struct Author;")]

theorem sound_authored :
  authored.Sound
  := by
  decide +kernel

theorem leads_authored :
  authored.Leads (cacheAt "m").directory ["m"]
  := by
  constructor <;> decide +kernel

theorem userFiles_authored :
  (cacheAt "m").userFiles authored = .ok [("Author.rs", "pub struct Author;")]
  := by
  apply Cache.userFiles_eq leads_authored (by decide) (by decide)
  decide +kernel

/-- The file of users stays the same and is noticed, and the files that come and go when the models
are noted to be out of date are ignored, as is an emitted source that comes from elsewhere. -/
theorem authored_watched :
  (∀ a, IsTemporary (temporaryName a))
    ∧ Call.allTouched authored ((Operation.flagOutOfDate "noon").calls (cacheAt "m") temporaryName
        authored) = [["m", ".tmpA1b2C3"], ["m", "ood.flag"]]
    ∧ (cacheAt "m").userFiles ((Operation.flagOutOfDate "noon").run (cacheAt "m") authored) =
      .ok [("Author.rs", "pub struct Author;")]
    ∧ (∀ s, Watcher.fileChanged "m/.tmpA1b2C3" s = s ∧ Watcher.fileChanged "m/ood.flag" s = s)
    ∧ (∀ s, Watcher.fileChanged "m/Author.rs" s = s.invalidate)
    ∧ (cacheAt "m").userFiles (authored.set ["m", "Page.generated.rs"] (.file (.text ""))) =
      .ok [("Author.rs", "pub struct Author;")]
  := by
  have htouched : Call.allTouched authored ((Operation.flagOutOfDate "noon").calls (cacheAt "m")
      temporaryName authored) = [["m", ".tmpA1b2C3"], ["m", "ood.flag"]] := by
    decide +kernel
  obtain ⟨hkept, -, -, hnames, hnoticed, hignored⟩ :=
    Operation.watched (c := cacheAt "m") sound_authored isTemporary_temporaryName
      (.flagOutOfDate "noon")
  refine ⟨isTemporary_temporaryName, htouched, ?_, ?_, ?_, ?_⟩
  · rw [(hkept (.inl ⟨_, leads_authored⟩)).1, userFiles_authored]
  · intro s
    constructor
    · apply hnames trivial _ (.inl leads_authored) ".tmpA1b2C3"
      rw [htouched]
      decide
    · apply hnames trivial _ (.inl leads_authored) "ood.flag"
      rw [htouched]
      decide
  · intro s
    apply (hnoticed _ (leads_authored.list (by decide))
      ("Author.rs", .file (.text "pub struct Author;"))
      (sound_authored.mem_children.mpr (by decide +kernel)) (by decide) s).1
  · have hname : IsName "Page.generated.rs" := by decide
    have hset : (authored.set ["m", "Page.generated.rs"] (.file (.text ""))).Sound :=
      sound_authored.set leads_authored.directory hname (.inr (by decide +kernel))
    rw [hignored ["m"] _ leads_authored hset (by constructor <;> decide +kernel),
      userFiles_authored]
    intro name hconcerns
    apply get?_set_of_ne
    intro hsame
    obtain rfl : name = "Page.generated.rs" := by simpa using hsame
    exact absurd hconcerns (by decide +kernel)

/-- A directory `x` beside which none is named `miss`. -/
def besideMiss : Tree :=
  Tree.set (Tree.set ⟨[]⟩ ["x"] .directory) ["x", "Author.rs"] (.file (.text "pub struct Author;"))

/-- A name of so many letters. -/
def letters (n : Nat) : String :=
  String.ofList (List.replicate n 'x')

theorem toList_letters (n : Nat) :
  (letters n).toList = List.replicate n 'x'
  := String.toList_ofList

theorem isStep_letters {n : Nat} (hn : 2 < n) :
  IsStep (letters n)
  := by
  have hne : ∀ {text : String}, text.toList.length ≤ 2 → letters n ≠ text := by
    rintro _ hlength rfl
    rw [toList_letters, List.length_replicate] at hlength
    omega
  constructor
  · exact hne (by decide)
  · simp [toList_letters, List.mem_replicate]
  · simp [toList_letters, List.mem_replicate]
  · exact hne (by decide)
  · exact hne (by decide)

theorem utf8ByteSize_letters (n : Nat) :
  (letters n).utf8ByteSize = n
  := by
  rw [utf8ByteSize_of_ascii]
  · simp [toList_letters]
  · simp [toList_letters, List.mem_replicate]

/-- A models directory with such a name in a directory that does not exist. -/
def lettered (n : Nat) : Cache :=
  ⟨(Path.mk "miss").join (letters n)⟩

/-- The path to a name that is too long leads nowhere, since the directory before it does not exist
or since the name is too long. -/
theorem place_lettered {n : Nat} (hn : mostNameOctets < n) (hroom : n ≤ 4000) (t : Tree) :
  (t.get? ["miss"] = none →
    t.place (lettered n).directory ["miss", letters n] = .error .notFound)
    ∧ (t.get? ["miss"] = some .directory →
      t.place (lettered n).directory ["miss", letters n] = .error .nameTooLong)
  := by
  have hfits : (Path.mk "miss").Fits 4001 := ⟨by decide, by decide⟩
  have hfault : faultOf? (lettered n).directory = none := by
    apply (hfits.join (isStep_letters (Nat.lt_trans (by decide) hn)) _).faultOf?_eq_none
    rw [utf8ByteSize_letters]
    omega
  have hmiss : ¬ mostNameOctets < "miss".utf8ByteSize := by decide
  have hafter : after [] "miss" = ["miss"] := by decide
  have hwalk : t.place (lettered n).directory ["miss", letters n] = t.walk ["miss"] [letters n] := by
    simp [place, hfault, walk, get?_nil, hmiss, hafter]
  rw [hwalk]
  constructor
  · intro hget
    simp [walk, hget]
  · intro hget
    simp [walk, hget, utf8ByteSize_letters, hn]

theorem userFiles_lettered {n : Nat} (hn : mostNameOctets < n) (hroom : n ≤ 4000) :
  (lettered n).userFiles ⟨[]⟩ = .ok []
    ∧ (lettered n).userFiles ((Operation.flagOutOfDate "noon").run (lettered n) ⟨[]⟩) ≠ .ok []
  := by
  have hstep : IsStep (letters n) := isStep_letters (Nat.lt_trans (by decide) hn)
  have hsteps : (lettered n).directory.steps = ["miss", letters n] :=
    Path.steps_join_name _ hstep
  have hroute : (lettered n).directory.route = ["miss", letters n] :=
    Path.route_join _ hstep
  have hbefore := (place_lettered hn hroom ⟨[]⟩).1 rfl
  have hafter := (place_lettered hn hroom (Tree.set ⟨[]⟩ ["miss"] .directory)).2 rfl
  obtain ⟨above, hparents⟩ : ∃ above, (lettered n).directory.parents = ⟨"miss"⟩ :: above := by
    have hname : IsStep "miss" := by decide
    have hjoin : (Path.mk "").join "miss" = ⟨"miss"⟩ := by decide
    have hparent := Path.parent?_join_join ⟨""⟩ hname hstep
    rw [hjoin] at hparent
    exact List.head?_eq_some_iff.mp hparent
  have hmade : (Tree.mk []).makeDirectories (lettered n).directory =
      (Tree.set ⟨[]⟩ ["miss"] .directory, .error .nameTooLong) := by
    have hfirst : (Tree.mk []).makeDirectory (lettered n).directory = .error .notFound := by
      rw [makeDirectory, hsteps, hbefore]
      rfl
    have hmiss : (Tree.mk []).makeDirectory ⟨"miss"⟩ = .ok (Tree.set ⟨[]⟩ ["miss"] .directory) := by
      rfl
    have hagain : (Tree.set ⟨[]⟩ ["miss"] .directory).makeDirectory (lettered n).directory =
        .error .nameTooLong := by
      rw [makeDirectory, hsteps, hafter]
      rfl
    have hnone : (Tree.set ⟨[]⟩ ["miss"] .directory).hasDirectory (lettered n).directory =
        false := by
      rw [hasDirectory, node, hroute, hafter]
      rfl
    simp [makeDirectories, makeFirst, hparents, hfirst, hmiss, hagain, hnone]
  have hrun : (Operation.flagOutOfDate "noon").run (lettered n) ⟨[]⟩ =
      Tree.set ⟨[]⟩ ["miss"] .directory := by
    have hparent : (lettered n).parent .outOfDate = (lettered n).directory := by
      rw [Cache.parent, path, Path.parent, lettered,
        Path.parent?_join_join _ hstep Artifact.outOfDate.isName.toIsStep, Option.getD_some]
    rw [Operation.run, flagOutOfDate, replace, hparent, hmade]
  constructor
  · apply userFiles_eq_nil (.inl _)
    rw [Tree.list, hroute, hbefore]
    rfl
  · rw [hrun, userFiles, Tree.list, hroute, hafter]
    intro h
    cases h

/-- A fingerprint that leads back has a module written beside the files of users, where it is
noticed. A path that leads back comes to lead to files of users once a directory on its way is made,
or has that one made where it leads, where it is noticed; and a name that is too long is found to be
so once the directory before it is made. -/
theorem operations_noticed :
  (["m", "x.1.module"] ∈ Call.allTouched (holding []) ((Operation.storeSource "/../../x"
        "// fingerprint: ab\n// revision: 1\n" "").calls (cacheAt "m") temporaryName (holding []))
      ∧ Watcher.concerns "m/x.1.module" = true)
    ∧ ((cacheAt "miss/../x").userFiles besideMiss = .ok []
      ∧ (cacheAt "miss/../x").userFiles ((Operation.flagOutOfDate "noon").run (cacheAt "miss/../x")
        besideMiss) = .ok [("Author.rs", "pub struct Author;")])
    ∧ (["m", "x"] ∈ Call.allTouched ⟨[]⟩ ((Operation.flagOutOfDate "noon").calls (cacheAt "m/x/..")
        temporaryName ⟨[]⟩)
      ∧ ((Operation.flagOutOfDate "noon").run (cacheAt "m/x/..") ⟨[]⟩).Leads
        (cacheAt "m/x/..").directory ["m"]
      ∧ Watcher.concerns "m/x/../x" = true)
    ∧ ((lettered 256).userFiles ⟨[]⟩ = .ok []
      ∧ (lettered 256).userFiles ((Operation.flagOutOfDate "noon").run (lettered 256) ⟨[]⟩) ≠ .ok [])
  := by
  refine ⟨⟨?_, ?_⟩, ⟨?_, ?_⟩, ⟨?_, ?_, ?_⟩, userFiles_lettered (by decide) (by decide)⟩
  · decide +kernel
  · decide +kernel
  · have hlist : besideMiss.list (cacheAt "miss/../x").directory = .error .notFound := rfl
    rw [userFiles, hlist]
  · have hleads : ((Operation.flagOutOfDate "noon").run (cacheAt "miss/../x") besideMiss).Leads
        (cacheAt "miss/../x").directory ["x"] := by
      constructor <;> decide +kernel
    apply Cache.userFiles_eq hleads (by decide) (by decide)
    decide +kernel
  · decide +kernel
  · constructor <;> decide +kernel
  · decide +kernel

end Cache

end LiveModels
