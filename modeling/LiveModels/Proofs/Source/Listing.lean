import LiveModels.Proofs.Snapshot.Outcome
import LiveModels.Proofs.Source.Declared

/-!
# Lines of emitted source

What editors write stays in comments and in quoted texts: after the import with which it begins, the
emitted source has empty lines, comments, and attributes with one closed quoted text, each of which
is followed by the declaration of a type of the snapshot. The only lines beside these are those with
which the note on a property goes on, as the text of its type is written into the note without being
cut into lines; there are none if no named type contains a line feed.
-/

namespace LiveModels

open Text Declaration

/-- Resolving the models in a type brings in no character that stands neither in its name nor in what
models are resolved to. -/
theorem RuntimeType.not_mem_mapModels {k : Char} {resolve : String → RuntimeType}
    (hresolve : ∀ aliasName, k ∉ (resolve aliasName).render) {type : RuntimeType}
    (hname : ∀ name, type.innermost = .named name → k ∉ name.toList)
    (hk : k ∉ "Element".toList ∧ k ∉ "List<>".toList) :
  k ∉ (type.mapModels resolve).render
  := by
  induction type with
  | element => apply hk.1
  | named name => apply hname name rfl
  | model aliasName => apply hresolve
  | list inner ih =>
    have htext : ((list inner).mapModels resolve).render =
        "List<".toList ++ (inner.mapModels resolve).render ++ ['>'] := rfl
    have hlist : "List<>".toList = "List<".toList ++ ['>'] := rfl
    rw [hlist, List.mem_append, not_or] at hk
    rw [htext, List.mem_append, List.mem_append, not_or, not_or]
    exact ⟨⟨hk.2.1, ih hname⟩, hk.2.2⟩

namespace Emission

variable {s : Snapshot} {t : TypeDescriptor} {files : UserFiles} {line : List Char}

/-! ### Listings -/

/-- Whether a line is an attribute with one quoted text, which is closed on the line. -/
def IsAttribute (line : List Char) : Prop :=
  ∃ body, readLiteral? (body ++ ['"']) = some (body, []) ∧
    line = "#[model(alias = ".toList ++ '"' :: (body ++ ['"', ')', ']'])

/-- Whether a line is empty or a comment. -/
def IsAside (line : List Char) : Prop :=
  line = [] ∨ "//".toList <+: line

/-- Whether a line is the declaration of a type of a snapshot. -/
def IsStructure (s : Snapshot) (line : List Char) : Prop :=
  ∃ t ∈ s.types, line = ("pub struct " ++ t.bindingName ++ ";").toList

/-- Whether a line is one with which the note on a property of an emitted type goes on. -/
def IsContinued (s : Snapshot) (files : UserFiles) (line : List Char) : Prop :=
  ∃ t ∈ emittedTypes s files, ∃ p ∈ t.properties,
    line ∈ (pieces '\n' (propertyNote s p).toList).tail

/-- Lines that are asides or go on with a note, but for attributes that are each followed by the
declaration of a type. -/
inductive Listing (s : Snapshot) (files : UserFiles) : List (List Char) → Prop
  | nil : Listing s files []
  | aside {line : List Char} {rest : List (List Char)} (h : IsAside line ∨ IsContinued s files line)
      (hrest : Listing s files rest) :
    Listing s files (line :: rest)
  | declare {line next : List Char} {rest : List (List Char)} (h : IsAttribute line)
      (hnext : IsStructure s next) (hrest : Listing s files rest) :
    Listing s files (line :: next :: rest)

/-- Whether a line may stand after others in a listing. -/
inductive IsPlaced (s : Snapshot) (before : List (List Char)) : List Char → Prop
  | blank : IsPlaced s before []
  | comment {line : List Char} (h : "//".toList <+: line) : IsPlaced s before line
  | attributeLine {line : List Char} (h : IsAttribute line) : IsPlaced s before line
  | declaration {line last : List Char} {front : List (List Char)} (hbefore : before = front ++ [last])
      (hlast : IsAttribute last) (h : IsStructure s line) :
    IsPlaced s before line

theorem IsAside.isPlaced (h : IsAside line) (before : List (List Char)) :
  IsPlaced s before line
  := by
  rcases h with rfl | h
  · apply IsPlaced.blank
  · apply IsPlaced.comment h

/-- A line that may stand after others may stand after more of them. -/
theorem IsPlaced.append {before : List (List Char)} (h : IsPlaced s before line)
    (front : List (List Char)) :
  IsPlaced s (front ++ before) line
  := by
  cases h with
  | blank => apply blank
  | comment h => apply comment h
  | attributeLine h => apply attributeLine h
  | declaration hbefore hlast h =>
    rw [hbefore, ← List.append_assoc]
    apply declaration rfl hlast h

namespace Listing

variable {ls ls' : List (List Char)}

theorem append (h : Listing s files ls) (h' : Listing s files ls') :
  Listing s files (ls ++ ls')
  := by
  induction h with
  | nil => apply h'
  | aside h _ ih => apply aside h ih
  | declare h hnext _ ih => apply declare h hnext ih

theorem of_forall (h : ∀ l ∈ ls, IsAside l ∨ IsContinued s files l) :
  Listing s files ls
  := by
  induction ls with
  | nil => apply nil
  | cons l ls ih =>
    rw [List.forall_mem_cons] at h
    apply aside h.1 (ih h.2)

theorem flatMap {α : Type} {xs : List α} {f : α → List (List Char)}
    (h : ∀ x ∈ xs, Listing s files (f x)) :
  Listing s files (xs.flatMap f)
  := by
  induction xs with
  | nil => apply nil
  | cons x xs ih =>
    rw [List.forall_mem_cons] at h
    rw [List.flatMap_cons]
    apply h.1.append (ih h.2)

/-- Every line of a listing may stand where it does, or goes on with a note. -/
theorem isPlaced (h : Listing s files ls) {before back : List (List Char)}
    (hline : ls = before ++ line :: back) :
  IsPlaced s before line ∨ IsContinued s files line
  := by
  induction h generalizing before with
  | nil =>
    rw [eq_comm, List.append_eq_nil_iff] at hline
    cases hline.2
  | @aside first rest h _ ih =>
    cases before with
    | nil =>
      obtain ⟨rfl, -⟩ := List.cons.inj hline
      apply h.imp_left fun h => h.isPlaced []
    | cons _ before =>
      obtain ⟨rfl, hrest⟩ := List.cons.inj hline
      apply (ih hrest).imp_left fun h => h.append [first]
  | @declare first next rest h hnext _ ih =>
    rcases before with _ | ⟨_, _ | ⟨_, before⟩⟩
    · obtain ⟨rfl, -⟩ := List.cons.inj hline
      apply Or.inl (.attributeLine h)
    · obtain ⟨rfl, hrest⟩ := List.cons.inj hline
      obtain ⟨rfl, -⟩ := List.cons.inj hrest
      apply Or.inl (.declaration (List.nil_append _).symm h hnext)
    · rw [List.cons_append, List.cons_append] at hline
      obtain ⟨rfl, htail⟩ := List.cons.inj hline
      obtain ⟨rfl, hrest⟩ := List.cons.inj htail
      apply (ih hrest).imp_left fun h => h.append [first, next]

end Listing

/-! ### Comments and notes -/

theorem isAside_of_mem_commentLines {text l : String} (hl : l ∈ commentLines text) :
  IsAside l.toList ∧ '\n' ∉ l.toList
  := by
  obtain ⟨line, hline, rfl⟩ := List.mem_map.mp hl
  have hmark : "//".toList <+: "/// ".toList ∧ '\n' ∉ "/// ".toList := by decide
  have hfeed : '\n' ∉ line := not_mem_of_mem_lines hline
  have htext : ("/// " ++ String.ofList line).toList = "/// ".toList ++ line := by
    rw [String.toList_append, @String.toList_ofList line]
  rw [htext, List.mem_append, not_or]
  exact ⟨.inr (hmark.1.trans (List.prefix_append _ _)), hmark.2, hfeed⟩

theorem isAside_of_mem_comments {l : String} (hl : l ∈ "" :: comments t) :
  IsAside l.toList ∧ '\n' ∉ l.toList
  := by
  rw [comments, List.mem_cons, List.mem_append] at hl
  rcases hl with rfl | hl | hl
  · exact ⟨.inl rfl, by decide⟩
  · apply isAside_of_mem_commentLines hl
  · split at hl
    · split at hl
      · cases hl
      · rcases List.mem_cons.mp hl with rfl | hl
        · exact ⟨.inr (by decide), by decide⟩
        · apply isAside_of_mem_commentLines hl
    · cases hl

theorem isAside_of_mem_linkNotes (hs : s.IsNamed) {l : String} (hl : l ∈ linkNotes s t) :
  IsAside l.toList ∧ '\n' ∉ l.toList
  := by
  have hnote : ∀ front rest : String, "//".toList <+: front.toList →
      IsAside (front ++ rest).toList := by
    intro front rest hfront
    rw [String.toList_append]
    apply Or.inr (hfront.trans (List.prefix_append _ _))
  refine ⟨?_, (of_mem_linkNotes hs.isWord hl).2 '\n' (by simp)⟩
  simp only [linkNotes, List.mem_append, List.mem_singleton, Option.mem_toList,
    Option.map_eq_some_iff] at hl
  rcases hl with (rfl | ⟨u, hu, rfl⟩) | hl
  · apply hnote _ _ (by decide)
  · apply hnote _ _ (by decide)
  · split at hl
    · cases hl
    · rw [List.mem_singleton.mp hl]
      apply hnote _ _ (by decide)

/-- The note on a property begins with a comment, which the text of the type is a part of. -/
theorem toList_propertyNote (s : Snapshot) (p : PropertyDescriptor) :
  (propertyNote s p).toList = "// property ".toList ++ p.bindingName.toList ++ ": ".toList ++
    (p.type.mapModels (resolve s)).render
  := by
  rw [propertyNote, RuntimeType.text, String.toList_append, String.toList_append,
    String.toList_append, @String.toList_ofList (RuntimeType.render _)]

/-- The lines of the note on a property: a comment, and those with which it goes on. -/
theorem listing_propertyNote (ht : t ∈ emittedTypes s files)
    {p : PropertyDescriptor} (hp : p ∈ t.properties) :
  Listing s files (pieces '\n' (propertyNote s p).toList)
  := by
  have hmark : "//".toList <+: "// property ".toList ∧ '\n' ∉ "// property ".toList := by decide
  obtain ⟨first, others, hpieces⟩ := exists_pieces_append hmark.2
    (p.bindingName.toList ++ ": ".toList ++ (p.type.mapModels (resolve s)).render)
  have hnote : pieces '\n' (propertyNote s p).toList = ("// property ".toList ++ first) :: others := by
    rw [toList_propertyNote, List.append_assoc, List.append_assoc, ← List.append_assoc _ ": ".toList,
      hpieces]
  rw [hnote]
  apply Listing.aside
  · apply Or.inl (.inr (hmark.1.trans (List.prefix_append _ _)))
  · apply Listing.of_forall
    intro line hline
    apply Or.inr
    use t, ht, p, hp
    rwa [hnote]

/-- Models are resolved to types on one line. -/
theorem not_mem_resolve (hs : s.IsNamed) (aliasName : String) :
  '\n' ∉ (resolve s aliasName).render
  := by
  unfold resolve
  split
  case h_1 name hname =>
    obtain ⟨u, hu, heq⟩ := List.mem_map.mp ((Snapshot.bindingName?_eq_some_iff hs).mp hname)
    obtain ⟨-, rfl⟩ := Prod.mk.inj heq
    apply (hs.types u (Snapshot.mem_byAlias.mp hu)).not_mem rfl
  · decide

/-- Whether every named type of a property of a type is on one line. -/
def TypesOnOneLine (t : TypeDescriptor) : Prop :=
  ∀ p ∈ t.properties, ∀ name, p.type.innermost = .named name → '\n' ∉ name.toList

/-- The notes on properties do not go on if their types are on one line. -/
theorem not_isContinued (hs : s.IsNamed) (htypes : ∀ t ∈ emittedTypes s files, TypesOnOneLine t)
    (line : List Char) :
  ¬ IsContinued s files line
  := by
  rintro ⟨t, ht, p, hp, hline⟩
  have hname := (hs.properties t (mem_types_of_mem_emittedTypes ht) p hp).not_mem (k := '\n') rfl
  have htype := RuntimeType.not_mem_mapModels (not_mem_resolve hs) (htypes t ht p hp) (by decide)
  have hmark : '\n' ∉ "// property ".toList ∧ '\n' ∉ ": ".toList := by decide
  have hfeed : '\n' ∉ (propertyNote s p).toList := by
    rw [toList_propertyNote]
    simp only [List.mem_append, not_or]
    exact ⟨⟨⟨hmark.1, hname⟩, hmark.2⟩, htype⟩
  rw [pieces_of_not_mem hfeed] at hline
  cases hline

/-! ### Types -/

theorem isAttribute_of_declaration (t : TypeDescriptor) :
  IsAttribute ("#[model(alias = " ++ quote t.aliasName ++ ")]").toList
  := by
  have hline := (List.cons.inj (toList_declaration t)).1
  have hword : "#[model(alias = ".toList = '#' :: (aliasWord ++ ['=', ' ']) := rfl
  use escape t.aliasName.toList, readLiteral?_escape _ _
  rw [hline, hword]
  simp only [List.append_assoc, List.cons_append, List.nil_append]

/-- The lines for a type are a listing. -/
theorem listing_typeLines (hs : s.IsNamed) (ht : t ∈ emittedTypes s files) :
  Listing s files ((typeLines s t).flatMap fun l => pieces '\n' l.toList)
  := by
  have haside : ∀ {ls : List String}, (∀ l ∈ ls, IsAside l.toList ∧ '\n' ∉ l.toList) →
      Listing s files (ls.flatMap fun l => pieces '\n' l.toList) := by
    intro ls hls
    apply Listing.flatMap
    intro l hl
    rw [pieces_of_not_mem (hls l hl).2]
    apply Listing.aside (.inl (hls l hl).1) .nil
  have htypes := mem_types_of_mem_emittedTypes ht
  rw [typeLines_eq, frontLines, notes_eq, List.map_map, List.flatMap_append, List.flatMap_append,
    List.flatMap_append]
  apply Listing.append (Listing.append (haside fun l hl => isAside_of_mem_comments hl) _)
  · apply Listing.append (haside fun l hl => isAside_of_mem_linkNotes hs hl)
    rw [List.flatMap_map]
    apply Listing.flatMap
    intro p hp
    apply listing_propertyNote ht hp
  · have hplain := hs.types t htypes
    rw [← List.flatMap_map String.toList, flatMap_pieces_of_not_mem (not_mem_declaration hplain)]
    apply Listing.declare (isAttribute_of_declaration t) ⟨t, htypes, rfl⟩ .nil

/-- The lines of emitted source: the import with which it begins, and a listing. -/
theorem exists_listing_emit (hs : s.IsNamed) (files : UserFiles) :
  ∃ rest, pieces '\n' (emit s files).toList = preamble.toList :: rest ∧ Listing s files rest
  := by
  have hpreamble : '\n' ∉ preamble.toList := by decide
  use ((emittedTypes s files).flatMap (typeLines s)).flatMap (fun l => pieces '\n' l.toList) ++ [[]]
  constructor
  · rw [emit, toList_unlines, pieces_joinLines, List.flatMap_map, emittedLines, List.flatMap_cons,
      pieces_of_not_mem hpreamble]
    rfl
  · apply Listing.append
    · rw [List.flatMap_assoc]
      apply Listing.flatMap
      intro t ht
      apply listing_typeLines hs ht
    · apply Listing.aside (.inl (.inl rfl)) .nil

/-- In the emitted source of a snapshot that is built, whatever its texts and the files of users are,
the first line is the import, and every other line is empty, a comment, an attribute with one closed
quoted text, or the declaration of a type directly after such an attribute, except for lines with
which the note on a property goes on. There are none of these if no named type of a property contains
a line feed. -/
theorem nothing_escapes {tree : Tree} {store : Store} {policy : NamingPolicy}
    (hbuild : Snapshot.build tree store policy = .ok s) (files : UserFiles) :
  ∃ rest, pieces '\n' (emit s files).toList = preamble.toList :: rest ∧
    (∀ before line back, rest = before ++ line :: back →
      IsPlaced s before line ∨ IsContinued s files line) ∧
    ((∀ t ∈ emittedTypes s files, TypesOnOneLine t) →
      ∀ before line back, rest = before ++ line :: back → IsPlaced s before line)
  := by
  obtain ⟨view, -, hview⟩ := Result.bind_eq_ok_iff.mp hbuild
  have hs := Snapshot.isNamed_of_ofView hview
  obtain ⟨rest, hrest, hlisting⟩ := exists_listing_emit hs files
  refine ⟨rest, hrest, fun before line back => hlisting.isPlaced, ?_⟩
  intro htypes before line back hline
  apply (hlisting.isPlaced hline).resolve_right (not_isContinued hs htypes line)

theorem journal_escapes_nothing :
  ∃ s, Snapshot.build ⟨[]⟩ (.memory Document.journal) .rawAlias = .ok s ∧
    (∀ t ∈ emittedTypes s [], TypesOnOneLine t) ∧
    ∃ rest, pieces '\n' (emit s []).toList = preamble.toList :: rest ∧
      ∀ before line back, rest = before ++ line :: back → IsPlaced s before line
  := by
  obtain ⟨s, hbuild, hdescribes⟩ := Document.build_journal.2
  have htypes : ∀ t ∈ emittedTypes s [], TypesOnOneLine t := by
    intro t ht p hp name hname
    obtain ⟨e, -, he⟩ :=
      Result.exists_of_forall₂ hdescribes.flip (mem_types_of_mem_emittedTypes ht)
    obtain ⟨r, -, hr⟩ := Result.exists_of_forall₂ he.properties.flip hp
    obtain ⟨editor, heditor, htype⟩ := Option.map_eq_some_iff.mp hr.type
    have hmem : editor ∈ Document.journal.editors := List.mem_of_find?_eq_some heditor
    rw [← htype, List.mem_singleton.mp hmem] at hname
    cases hname
    decide
  obtain ⟨rest, hrest, -, hplaced⟩ := nothing_escapes hbuild []
  exact ⟨s, hbuild, htypes, rest, hrest, hplaced htypes⟩

end Emission

end LiveModels
