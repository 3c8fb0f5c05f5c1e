import LiveModels.Proofs.Keys
import LiveModels.Proofs.Naming.Identifier
import LiveModels.Proofs.Source.Bundle
import LiveModels.Proofs.Source.Mute
import Mathlib.Data.List.Forall2
import Mathlib.Data.List.Nodup

/-!
# What emitted source declares

The emitted source of two snapshots declares the same models, wherever it stands in a bundle, if
their types agree in what is declared and in what is commented on before a declaration. The notes
after the declarations may differ, as they are mute, except that properties with their types are
only rearranged: a line of a note can be an import or an attribute, which is moved to the beginning
of the bundle.
-/

namespace LiveModels

open Text Declaration

/-! ### Types -/

/-- A property as a note on it tells it. -/
def PropertyDescriptor.told (p : PropertyDescriptor) : String × RuntimeType :=
  (p.bindingName, p.type)

/-- Whether two types agree in all that is emitted for them but the notes on their links. -/
structure TypeDescriptor.Agrees (t t' : TypeDescriptor) : Prop where
  aliasName : t.aliasName = t'.aliasName
  bindingName : t.bindingName = t'.bindingName
  displayName : t.displayName = t'.displayName
  description : t.description.getD "" = t'.description.getD ""
  properties : (t.properties.map PropertyDescriptor.told).Perm
    (t'.properties.map PropertyDescriptor.told)

namespace Snapshot

/-- Whether the binding names of a snapshot are made of identifier characters, and its aliases are
different. -/
structure IsNamed (s : Snapshot) : Prop where
  types : ∀ t ∈ s.types, Identifier.IsPlain t.bindingName
  properties : ∀ t ∈ s.types, ∀ p ∈ t.properties, Identifier.IsPlain p.bindingName
  nodup : (s.types.map fun t => lower t.aliasName).Nodup

/-- Whether no alias of a type and no type of a property mentions an attribute or a compile error. -/
structure IsMute (s : Snapshot) : Prop where
  aliases : ∀ t ∈ s.types, LiveModels.IsMute t.aliasName.toList
  properties : ∀ t ∈ s.types, ∀ p ∈ t.properties, LiveModels.IsMute p.type.render

/-- Whether two snapshots have agreeing types in the order of their aliases. -/
def Agrees (s s' : Snapshot) : Prop :=
  List.Forall₂ TypeDescriptor.Agrees s.byAlias s'.byAlias

variable {s s' : Snapshot}

theorem mem_byAlias {t : TypeDescriptor} :
  t ∈ s.byAlias ↔ t ∈ s.types
  := List.mem_mergeSort

/-- The names of a snapshot: the lower-case forms of the aliases, and the binding names. -/
def keys (s : Snapshot) : List (String × String) :=
  s.byAlias.map fun t => (lower t.aliasName, t.bindingName)

/-- The binding name for an alias is that of the only type with it. -/
theorem bindingName?_eq_some_iff (h : s.IsNamed) {lowered name : String} :
  s.bindingName? lowered = some name ↔ (lowered, name) ∈ s.keys
  := by
  have hnodup : (s.types.reverse.map fun t => lower t.aliasName).Nodup := by
    rw [List.map_reverse, List.nodup_reverse]
    apply h.nodup
  rw [bindingName?, Option.map_eq_some_iff, keys, List.mem_map]
  simp only [Keys.find?_eq_some_iff hnodup, List.mem_reverse, mem_byAlias]
  constructor
  · rintro ⟨t, ⟨hmem, rfl⟩, rfl⟩
    exact ⟨t, hmem, rfl⟩
  · rintro ⟨t, hmem, heq⟩
    obtain ⟨halias, hname⟩ := Prod.mk.inj heq
    exact ⟨t, ⟨hmem, halias⟩, hname⟩

theorem IsNamed.isWord (h : s.IsNamed) :
  ∀ t ∈ s.types, IsWord t.bindingName
  := fun t ht => (h.types t ht).isWord

/-- Agreeing snapshots have the same binding names. -/
theorem Agrees.bindingName?_eq (h : s.Agrees s') (hs : s.IsNamed) (hs' : s'.IsNamed)
    (lowered : String) :
  s.bindingName? lowered = s'.bindingName? lowered
  := by
  have hkeys : s.keys = s'.keys := by
    rw [keys, keys, ← List.forall₂_eq_eq_eq, List.forall₂_map_left_iff, List.forall₂_map_right_iff]
    apply List.Forall₂.imp _ h
    intro t t' ht
    rw [ht.aliasName, ht.bindingName]
  ext name
  rw [bindingName?_eq_some_iff hs, bindingName?_eq_some_iff hs', hkeys]

end Snapshot

/-! ### Notes -/

theorem not_mem_intercalate {k : Char} {sep : String} {names : List String} (hsep : k ∉ sep.toList)
    (h : ∀ name ∈ names, k ∉ name.toList) :
  k ∉ (sep.intercalate names).toList
  := by
  induction names with
  | nil => simp
  | cons name rest ih =>
    have hrest := ih fun name' hname' => h name' (List.mem_cons_of_mem _ hname')
    cases rest with
    | nil => simpa using h
    | cons next others =>
      rw [String.intercalate_cons_of_ne_nil (by simp), String.toList_append, String.toList_append,
        List.mem_append, List.mem_append, not_or, not_or]
      exact ⟨⟨h name List.mem_cons_self, hsep⟩, hrest⟩

namespace Emission

variable {s s' : Snapshot} {t t' : TypeDescriptor} {files : UserFiles}

/-- The lines for a type up to its declaration. -/
def frontLines (t : TypeDescriptor) : List String :=
  "" :: comments t ++ declaration t

/-- The notes on a type but those on its properties. -/
def linkNotes (s : Snapshot) (t : TypeDescriptor) : List String :=
  ["// kind: " ++ t.kind.label]
    ++ ((s.baseOf? t).map fun b => "// extends: " ++ b.bindingName).toList
    ++ (match s.mixinsOf t with
      | [] => []
      | mixins => ["// mixes: " ++ ", ".intercalate (mixins.map (·.bindingName))])

/-- The note on a property with a name and a type. -/
def noteOf (resolve : String → RuntimeType) (told : String × RuntimeType) : String :=
  "// property " ++ told.1 ++ ": " ++ (told.2.mapModels resolve).text

theorem notes_eq (s : Snapshot) (t : TypeDescriptor) :
  notes s t = linkNotes s t ++ (t.properties.map PropertyDescriptor.told).map (noteOf (resolve s))
  := by
  rw [List.map_map]
  rfl

theorem typeLines_eq (s : Snapshot) (t : TypeDescriptor) :
  typeLines s t = frontLines t ++ notes s t
  := rfl

theorem mem_stops {k : Char} (h : k ∈ ['#', '!', '\n']) :
  k = '#' ∨ k = '!' ∨ k = '\n'
  := by
  simpa using h

/-- A note begins like a comment and has none of the characters that mentions and lines need. -/
theorem of_mem_linkNotes (hs : ∀ u ∈ s.types, IsWord u.bindingName) {note : String}
    (h : note ∈ linkNotes s t) :
  (∃ rest, note.toList = '/' :: rest) ∧ ∀ k ∈ ['#', '!', '\n'], k ∉ note.toList
  := by
  have hname : ∀ u ∈ s.types, ∀ k ∈ ['#', '!', '\n'], k ∉ u.bindingName.toList := by
    intro u hu k hk
    apply (hs u hu).not_mem
    rcases mem_stops hk with rfl | rfl | rfl <;> decide
  have hget : ∀ id u, s.get? id = some u → u ∈ s.types := by
    intro id u hu
    apply List.mem_reverse.mp (List.mem_of_find?_eq_some hu)
  simp only [linkNotes, List.mem_append, List.mem_singleton, Option.mem_toList,
    Option.map_eq_some_iff] at h
  rcases h with (rfl | ⟨u, hu, rfl⟩) | h
  · use ⟨_, String.toList_append⟩
    intro k hk
    rcases mem_stops hk with rfl | rfl | rfl <;> cases t.kind <;> decide
  · obtain ⟨id, -, hid⟩ := Option.bind_eq_some_iff.mp hu
    use ⟨_, String.toList_append⟩
    intro k hk
    rw [String.toList_append, List.mem_append, not_or]
    refine ⟨?_, hname u (hget id u hid) k hk⟩
    rcases mem_stops hk with rfl | rfl | rfl <;> decide
  · split at h
    · cases h
    · rw [List.mem_singleton] at h
      subst h
      use ⟨_, String.toList_append⟩
      intro k hk
      rw [String.toList_append, List.mem_append, not_or]
      constructor
      · rcases mem_stops hk with rfl | rfl | rfl <;> decide
      · apply not_mem_intercalate
        · rcases mem_stops hk with rfl | rfl | rfl <;> decide
        · intro name hmem
          obtain ⟨u, hu, rfl⟩ := List.mem_map.mp hmem
          obtain ⟨id, -, hid⟩ := List.mem_filterMap.mp hu
          apply hname u (hget id u hid) k hk

/-- The types that references stand for are names of types, or no model at all. -/
theorem isMute_resolve (hs : s.IsNamed) (aliasName : String) :
  IsMute (resolve s aliasName).render
  := by
  unfold resolve
  split
  case h_1 name hname =>
    obtain ⟨t, hmem, heq⟩ := List.mem_map.mp ((Snapshot.bindingName?_eq_some_iff hs).mp hname)
    obtain ⟨-, rfl⟩ := Prod.mk.inj heq
    have hplain := hs.types t (Snapshot.mem_byAlias.mp hmem)
    apply isMute_of_not_mem (hplain.not_mem rfl) (hplain.not_mem rfl)
  · apply isMute_of_not_mem (by decide) (by decide)

/-- All notes on a type are mute. -/
theorem isMute_of_mem_notes (hs : s.IsNamed) (hmute : s.IsMute) (ht : t ∈ s.types) {note : String}
    (h : note ∈ notes s t) :
  IsMute note.toList
  := by
  rw [notes_eq, List.mem_append, List.map_map, List.mem_map] at h
  rcases h with h | ⟨p, hp, rfl⟩
  · have hnone := (of_mem_linkNotes hs.isWord h).2
    apply isMute_of_not_mem (hnone '#' (by simp)) (hnone '!' (by simp))
  · have hname := hs.properties t ht p hp
    have hfront : IsMute ("// property ".toList ++ (p.bindingName.toList ++ [':'])) := by
      apply isMute_of_not_mem
      · have := hname.not_mem (k := '#') rfl
        simp_all
      · have := hname.not_mem (k := '!') rfl
        simp_all
    have htype := (hmute.properties t ht p hp).mapModels (isMute_resolve hs)
    have hnote := hfront.append_cons htype (k := ' ') (by decide)
    unfold noteOf
    simp only [PropertyDescriptor.told, RuntimeType.text, String.toList_append,
      String.toList_ofList, Function.comp_apply]
    have hcolon : ": ".toList = [':', ' '] := rfl
    rw [hcolon]
    simpa using hnote

/-! ### Lines -/

/-- The lines of a text that was made of lines, which may contain line feeds themselves. -/
def linesOf (ls : List String) : List (List Char) :=
  ls.flatMap fun l => cut l.toList

theorem linesOf_append (ls ls' : List String) :
  linesOf (ls ++ ls') = linesOf ls ++ linesOf ls'
  := List.flatMap_append

/-- Lines without line feeds are the lines of their text. -/
theorem linesOf_of_not_mem {ls : List String} (h : ∀ l ∈ ls.map String.toList, '\n' ∉ l) :
  linesOf ls = (ls.map String.toList).map chomp
  := by
  induction ls with
  | nil => rfl
  | cons l ls ih =>
    simp only [List.map_cons, List.forall_mem_cons] at h
    rw [← List.singleton_append, linesOf_append, ih h.2]
    simp [linesOf, cut_of_not_mem h.1]

theorem lines_emit (s : Snapshot) (files : UserFiles) :
  lines (emit s files).toList = linesOf (emittedLines s files)
  := by
  rw [emit, toList_unlines, lines_joinLines, List.flatMap_map, linesOf]

/-- Whether a line stays in its section. -/
def isKept (line : List Char) : Bool :=
  !Bundle.isHoisted line

/-- The part of a section that is made of lines. -/
def sectionText (ls : List String) : List Char :=
  joinLines ((linesOf ls).filter isKept)

theorem sectionText_append (ls ls' : List String) :
  sectionText (ls ++ ls') = sectionText ls ++ sectionText ls'
  := by
  rw [sectionText, linesOf_append, List.filter_append, joinLines_append, sectionText, sectionText]

theorem sectionText_flatMap {α : Type} (xs : List α) (f : α → List String) :
  sectionText (xs.flatMap f) = xs.flatMap fun x => sectionText (f x)
  := by
  induction xs with
  | nil => rfl
  | cons x xs ih => rw [List.flatMap_cons, sectionText_append, ih, List.flatMap_cons]

/-! ### Declarations -/

/-- What stands between the alias and the end of a declaration. -/
def closing (t : TypeDescriptor) : List Char :=
  ')' :: ']' :: '\n' :: ("pub struct ".toList ++ t.bindingName.toList)

theorem toList_declaration (t : TypeDescriptor) :
  (declaration t).map String.toList =
    ['#' :: (aliasWord ++ '=' :: ' ' :: '"' :: escape t.aliasName.toList ++ ['"', ')']) ++ [']'],
      "pub struct ".toList ++ t.bindingName.toList ++ [';']]
  := by
  have hword : "#[model(alias = ".toList = '#' :: (aliasWord ++ ['=', ' ']) := rfl
  have hclose : ")]".toList = [')', ']'] := rfl
  have hsemicolon : ";".toList = [';'] := rfl
  simp only [declaration, List.map_cons, List.map_nil, String.toList_append, quote,
    String.toList_ofList, hword, hclose, hsemicolon, List.append_assoc, List.cons_append,
    List.nil_append]

theorem not_mem_declaration (h : Identifier.IsPlain t.bindingName) :
  ∀ l ∈ (declaration t).map String.toList, '\n' ∉ l
  := by
  have halias := not_mem_escape t.aliasName.toList
  have hname := h.not_mem (k := '\n') rfl
  have hword : '\n' ∉ aliasWord := by decide
  rw [toList_declaration]
  simp [hword, halias, hname]

/-- A declaration stays in its section. -/
theorem sectionText_declaration (h : Identifier.IsPlain t.bindingName) :
  sectionText (declaration t) =
    opened (escape t.aliasName.toList ++ '"' :: closing t) ++ [';', '\n']
  := by
  have hkept : ∀ x, isKept ('#' :: (aliasWord ++ x)) = true := by
    intro x
    simp [isKept, Bundle.isHoisted, Bundle.isInnerAttribute, Bundle.isImport, afterWord?, aliasWord]
  have hkept' : ∀ x, isKept ("pub struct ".toList ++ x) = true := by
    intro x
    simp [isKept, Bundle.isHoisted, Bundle.isInnerAttribute, Bundle.isImport, afterWord?]
  rw [sectionText, linesOf_of_not_mem (not_mem_declaration h), toList_declaration]
  simp only [List.map_cons, List.map_nil, chomp_append_singleton (show ']' ≠ '\r' by decide),
    chomp_append_singleton (show ';' ≠ '\r' by decide)]
  simp only [List.cons_append, List.append_assoc, List.filter_cons, hkept, hkept', if_true,
    List.filter_nil, joinLines_cons]
  simp only [joinLines, opened, openedTail, closing, List.append_assoc, List.cons_append,
    List.nil_append, List.flatMap_nil]

/-! ### Texts of types -/

/-- Whatever stands before it, nothing that begins up to the declaration of a type goes on after
it. -/
theorem closed_frontLines (h : Identifier.IsPlain t.bindingName) (hmute : IsMute t.aliasName.toList)
    (x : List Char) :
  Closed (x ++ sectionText (frontLines t))
  := by
  rw [frontLines, sectionText_append, sectionText_declaration h, ← List.append_assoc,
    ← List.append_assoc]
  apply closed_opened
  have hword : IsMute (aliasWord ++ ['=', ' ']) := isMute_of_not_mem (by decide) (by decide)
  have hlast : IsMute (closing t ++ [';']) := by
    apply isMute_of_not_mem
    · simp [closing, h.not_mem (k := '#') rfl]
    · simp [closing, h.not_mem (k := '!') rfl]
  have hquoted := hword.append_cons (hmute.escape.append_cons hlast (k := '"') (by decide))
    (k := '"') (by decide)
  simpa [openedTail] using hquoted

/-- The notes on a type declare nothing. -/
theorem silent_notes (hs : s.IsNamed) (hmute : s.IsMute) (ht : t ∈ s.types) :
  Silent (sectionText (notes s t))
  := by
  apply Silent.joinLines
  intro line hline
  obtain ⟨note, hnote, hcut⟩ := List.mem_flatMap.mp (List.mem_filter.mp hline).1
  apply (isMute_of_mem_notes hs hmute ht hnote).mono (infix_of_mem_cut hcut)

/-- The comments on a type depend on its description only as far as there is one. -/
theorem comments_eq (t : TypeDescriptor) :
  comments t = commentLines t.displayName ++
    if t.description.getD "" = "" then []
    else "///" :: commentLines (t.description.getD "")
  := by
  rw [comments]
  cases t.description with
  | none => rfl
  | some d => simp [String.isEmpty_iff]

theorem frontLines_eq (h : t.Agrees t') :
  frontLines t = frontLines t'
  := by
  rw [frontLines, frontLines, comments_eq, comments_eq, declaration, declaration, h.aliasName,
    h.bindingName, h.displayName, h.description]

/-- In the emitted source of agreeing types the same is declared, whatever stands around it. -/
theorem alike_types (hs : s.IsNamed) (hs' : s'.IsNamed) (hmute : s.IsMute) (hmute' : s'.IsMute)
    {ts ts' : List TypeDescriptor} (h : List.Forall₂ TypeDescriptor.Agrees ts ts')
    (hts : ∀ t ∈ ts, t ∈ s.types) (hts' : ∀ t ∈ ts', t ∈ s'.types) (front rest : List Char) :
  Alike (front ++ sectionText (ts.flatMap (typeLines s)) ++ rest)
    (front ++ sectionText (ts'.flatMap (typeLines s')) ++ rest)
  := by
  induction h generalizing front with
  | nil => apply Alike.refl
  | @cons t t' ts ts' ht h ih =>
    rw [List.forall_mem_cons] at hts hts'
    have hcut : ∀ (s : Snapshot) (t : TypeDescriptor) (ts : List TypeDescriptor),
        front ++ sectionText ((t :: ts).flatMap (typeLines s)) ++ rest =
          (front ++ sectionText (frontLines t)) ++ (sectionText (notes s t) ++
            ([] ++ sectionText (ts.flatMap (typeLines s)) ++ rest)) := by
      intro s t ts
      simp [typeLines_eq, sectionText_append]
    rw [hcut, hcut, ← frontLines_eq ht]
    apply Closed.alike_append
    · apply closed_frontLines (hs.types t hts.1) (hmute.aliases t hts.1)
    · apply ((silent_notes hs hmute hts.1).alike_append _).trans
      apply Alike.trans _ ((silent_notes hs' hmute' hts'.1).alike_append _).symm
      apply ih hts.2 hts'.2

/-! ### Lines that move -/

section Moved

variable {q : List Char → Bool} (hq : ∀ x, q ('/' :: x) = false)

include hq

theorem filter_linkNotes (hs : s.IsNamed) :
  (linesOf (linkNotes s t)).filter q = []
  := by
  rw [List.filter_eq_nil_iff]
  intro line hline
  obtain ⟨note, hnote, hcut⟩ := List.mem_flatMap.mp hline
  obtain ⟨⟨rest, hrest⟩, hnone⟩ := of_mem_linkNotes hs.isWord hnote
  rw [cut_of_not_mem (hnone '\n' (by simp)), List.mem_singleton, hrest] at hcut
  obtain ⟨rest', hrest'⟩ := exists_chomp_cons (c := '/') (by decide) rest
  rw [hcut, hrest', hq]
  simp

/-- The lines that move out of agreeing types are rearranged at most. -/
theorem perm_filter_typeLines (hs : s.IsNamed) (hs' : s'.IsNamed) (hresolve : resolve s = resolve s')
    (h : t.Agrees t') :
  ((linesOf (typeLines s t)).filter q).Perm ((linesOf (typeLines s' t')).filter q)
  := by
  simp only [typeLines_eq, notes_eq, linesOf_append, List.filter_append, filter_linkNotes hq hs,
    filter_linkNotes hq hs', frontLines_eq h, hresolve, List.nil_append]
  apply List.Perm.append_left
  apply List.Perm.filter
  apply List.Perm.flatMap_right
  apply h.properties.map

theorem perm_filter_types (hs : s.IsNamed) (hs' : s'.IsNamed) (hresolve : resolve s = resolve s')
    {ts ts' : List TypeDescriptor} (h : List.Forall₂ TypeDescriptor.Agrees ts ts') :
  ((linesOf (ts.flatMap (typeLines s))).filter q).Perm
    ((linesOf (ts'.flatMap (typeLines s'))).filter q)
  := by
  induction h with
  | nil => apply List.Perm.refl
  | cons ht h ih =>
    simp only [List.flatMap_cons, linesOf_append, List.filter_append]
    apply (perm_filter_typeLines hq hs hs' hresolve ht).append ih

end Moved

end Emission

end LiveModels
