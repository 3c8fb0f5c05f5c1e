import LiveModels.Files.Tree
import LiveModels.Proofs.Text.Lines
import Mathlib.Tactic.Linarith

/-!
# Names and steps

A name is a text that leads from a directory to one entry of it. Joining a name to a path adds one
step at the end, whether or not the path ends with a slash, and joining two names one after the
other is joining the text of both with a slash between them. None of this depends on how long a name
may be.
-/

namespace LiveModels

/-- A text that leads from a directory to one entry of it, if it is not too long. -/
structure IsStep (name : String) : Prop where
  ne_empty : name ≠ ""
  no_slash : '/' ∉ name.toList
  no_null : '\x00' ∉ name.toList
  ne_dot : name ≠ "."
  ne_dots : name ≠ ".."

/-- A text that names an entry of a directory. -/
structure IsName (name : String) : Prop extends IsStep name where
  size_le : name.utf8ByteSize ≤ Tree.mostNameOctets

instance (name : String) : Decidable (IsStep name) :=
  decidable_of_iff
    (name ≠ "" ∧ '/' ∉ name.toList ∧ '\x00' ∉ name.toList ∧ name ≠ "." ∧ name ≠ "..")
    ⟨fun ⟨hempty, hslash, hnull, hdot, hdots⟩ => ⟨hempty, hslash, hnull, hdot, hdots⟩,
      fun h => ⟨h.ne_empty, h.no_slash, h.no_null, h.ne_dot, h.ne_dots⟩⟩

instance (name : String) : Decidable (IsName name) :=
  decidable_of_iff (IsStep name ∧ name.utf8ByteSize ≤ Tree.mostNameOctets)
    ⟨fun ⟨hstep, hsize⟩ => ⟨hstep, hsize⟩, fun h => ⟨h.toIsStep, h.size_le⟩⟩

namespace IsStep

variable {name : String} (h : IsStep name)

include h

theorem toList_ne_nil :
  name.toList ≠ []
  := by
  intro hnil
  apply h.ne_empty
  rw [← String.toList_inj, hnil]
  rfl

theorem isAbsolute_eq :
  (Path.mk name).isAbsolute = false
  := by
  obtain ⟨c, rest, hc⟩ := List.exists_cons_of_ne_nil h.toList_ne_nil
  have hslash := h.no_slash
  rw [hc] at hslash
  simp only [List.mem_cons, not_or] at hslash
  simp only [Path.isAbsolute, hc, List.head?_cons]
  simpa using Ne.symm hslash.1

theorem pieces_eq :
  (Path.mk name).pieces = [name.toList]
  := Text.pieces_of_not_mem h.no_slash

theorem steps_eq :
  (Path.mk name).steps = [name]
  := by
  simp [Path.steps, h.pieces_eq, h.toList_ne_nil]

theorem isIdle_eq :
  Path.isIdle name.toList = false
  := by
  simp only [Path.isIdle, Bool.or_eq_false_iff, beq_eq_false_iff_ne]
  constructor
  · apply h.toList_ne_nil
  · intro hdot
    apply h.ne_dot
    rw [← String.toList_inj, hdot]
    rfl

end IsStep

/-- A text of ASCII characters has one octet for each of them. -/
theorem utf8ByteSize_of_ascii {text : String} (h : ∀ c ∈ text.toList, c.toNat < 0x80) :
  text.utf8ByteSize = text.toList.length
  := by
  rw [← String.ofList_toList (s := text), String.toList_ofList]
  generalize text.toList = cs at h
  induction cs with
  | nil => rfl
  | cons c cs ih =>
    rw [List.forall_mem_cons] at h
    have hcons : String.ofList (c :: cs) = String.singleton c ++ String.ofList cs := by
      rw [← String.toList_inj]
      simp
    have hsize : c.utf8Size = 1 := by
      rw [Char.utf8Size_eq_one_iff, UInt32.le_iff_toNat_le]
      exact Nat.lt_succ_iff.mp h.1
    rw [hcons, String.utf8ByteSize_append, String.utf8ByteSize_singleton, hsize, ih h.2,
      List.length_cons, Nat.add_comm]

namespace Path

/-! ### Joining -/

/-- The text of a path as it is joined to a relative one. -/
theorem toList_join {text : String} (p : Path) (h : (Path.mk text).isAbsolute = false) :
  (p.join text).text.toList =
    p.text.toList ++ (if p.text.isEmpty || p.endsInSlash then [] else ['/']) ++ text.toList
  := by
  rw [join, if_neg (by simp [h])]
  split
  · simp_all
  · simp_all

/-- Joining a relative path adds its steps at the end. -/
theorem steps_join {text : String} (p : Path) (h : (Path.mk text).isAbsolute = false) :
  (p.join text).steps = p.steps ++ (Path.mk text).steps
  := by
  simp only [steps, pieces, toList_join p h]
  split
  case isFalse =>
    simp [Text.pieces_append_sep]
  case isTrue hend =>
    simp only [Bool.or_eq_true, endsInSlash, String.isEmpty_iff] at hend
    rcases hend with hempty | hslash
    · simp [hempty]
    · obtain ⟨front, hfront⟩ : ∃ front, p.text.toList = front ++ ['/'] :=
        List.getLast?_eq_some_iff.mp (by simpa using hslash)
      simp [hfront, Text.pieces_append_sep]

/-- Joining one relative path after another is joining both with a slash between them. -/
theorem join_join {name text : String} (p : Path) (hname : IsStep name)
    (htext : (Path.mk text).isAbsolute = false) :
  (p.join name).join text = p.join (name ++ "/" ++ text)
  := by
  have hboth : (Path.mk (name ++ "/" ++ text)).isAbsolute = false := by
    obtain ⟨c, rest, hc⟩ := List.exists_cons_of_ne_nil hname.toList_ne_nil
    have habsolute := hname.isAbsolute_eq
    simp only [isAbsolute, hc] at habsolute
    simpa [isAbsolute, hc] using habsolute
  have hlast : (p.join name).text.toList.getLast? = name.toList.getLast? := by
    rw [toList_join p hname.isAbsolute_eq, List.getLast?_append]
    simp [List.getLast?_eq_some_getLast hname.toList_ne_nil]
  have hslash : name.toList.getLast? ≠ some '/' := by
    intro hmem
    exact hname.no_slash (List.mem_of_getLast? hmem)
  have hends : ((p.join name).text.isEmpty || (p.join name).endsInSlash) = false := by
    simp only [Bool.or_eq_false_iff, endsInSlash, hlast]
    constructor
    · rw [Bool.eq_false_iff, Ne, String.isEmpty_iff]
      intro hempty
      rw [hempty] at hlast
      exact hname.toList_ne_nil (List.getLast?_eq_none_iff.mp hlast.symm)
    · simpa using hslash
  have hlists : ((p.join name).join text).text.toList = (p.join (name ++ "/" ++ text)).text.toList := by
    rw [toList_join _ htext, hends, toList_join p hname.isAbsolute_eq, toList_join p hboth]
    simp
  have htexts := String.toList_inj.mp hlists
  cases hl : (p.join name).join text
  cases hr : p.join (name ++ "/" ++ text)
  simp_all

/-- The pieces of a path that stay pieces when a name is joined to it: an empty one at the end does
not. -/
def front (p : Path) : List (List Char) :=
  if p.text.isEmpty || p.endsInSlash then p.pieces.dropLast else p.pieces

section Name

variable {name : String} (p : Path) (h : IsStep name)

include h

theorem steps_join_name :
  (p.join name).steps = p.steps ++ [name]
  := by
  rw [steps_join p h.isAbsolute_eq, h.steps_eq]

theorem endsInSlash_join :
  (p.join name).endsInSlash = false
  := by
  have hlast : (p.join name).text.toList.getLast? = name.toList.getLast? := by
    rw [toList_join p h.isAbsolute_eq, List.getLast?_append]
    simp [List.getLast?_eq_some_getLast h.toList_ne_nil]
  rw [endsInSlash, hlast]
  simp only [beq_eq_false_iff_ne, ne_eq]
  intro hmem
  apply h.no_slash (List.mem_of_getLast? hmem)

theorem endsInDots_join :
  (p.join name).endsInDots = false
  := by
  simp [endsInDots, steps_join_name p h, h.ne_dot, h.ne_dots]

theorem route_join :
  (p.join name).route = p.steps ++ [name]
  := by
  simp [route, steps_join_name p h, endsInSlash_join p h]

/-- The last piece of a joined path is the name. -/
theorem pieces_join :
  (p.join name).pieces = p.front ++ [name.toList]
  := by
  have hname := Text.pieces_of_not_mem h.no_slash
  rw [pieces, toList_join p h.isAbsolute_eq, front]
  split
  case isFalse =>
    simp [pieces, Text.pieces_append_sep, hname]
  case isTrue hend =>
    simp only [Bool.or_eq_true, endsInSlash, String.isEmpty_iff] at hend
    rcases hend with hempty | hslash
    · simp [pieces, hempty, hname]
    · obtain ⟨before, hbefore⟩ : ∃ before, p.text.toList = before ++ ['/'] :=
        List.getLast?_eq_some_iff.mp (by simpa using hslash)
      simp [pieces, hbefore, Text.pieces_append_sep, hname]

/-- An entry of a named directory lies in that directory. -/
theorem parent?_join_join {inner : String} (hinner : IsStep inner) :
  ((p.join name).join inner).parent? = some (p.join name)
  := by
  have hends : ((p.join name).text.isEmpty || (p.join name).endsInSlash) = false := by
    rw [endsInSlash_join p h, Bool.or_false, Bool.eq_false_iff, Ne, String.isEmpty_iff]
    intro hnil
    have hlist := congrArg String.toList hnil
    rw [toList_join p h.isAbsolute_eq] at hlist
    simp only [String.toList_empty, List.append_eq_nil_iff] at hlist
    apply h.toList_ne_nil hlist.2
  have hpieces : ((p.join name).join inner).pieces = (p.join name).pieces ++ [inner.toList] := by
    rw [pieces, toList_join _ hinner.isAbsolute_eq, hends]
    simp [Text.pieces_append_sep, Text.pieces_of_not_mem hinner.no_slash, pieces]
  have hjoin : Text.join ['/'] (p.front ++ [name.toList]) = (p.join name).text.toList := by
    rw [← pieces_join p h]
    apply Text.join_pieces
  simp [parent?, parents, hpieces, pieces_join p h, stems, h.isIdle_eq, hinner.isIdle_eq, hjoin]

end Name

/-- A step of a path is a name unless it leads back or nowhere. -/
theorem isStep_of_mem_steps {p : Path} {step : String} (h : step ∈ p.steps)
    (hnull : '\x00' ∉ p.text.toList) (hdot : step ≠ ".") (hdots : step ≠ "..") :
  IsStep step
  := by
  obtain ⟨piece, hpiece, rfl⟩ := List.mem_map.mp h
  rw [List.mem_filter] at hpiece
  obtain ⟨hslash, hin⟩ := Text.of_mem_pieces hpiece.1
  constructor
  · intro hempty
    have hnil : piece ≠ [] := by simpa using hpiece.2
    apply hnil
    simpa using congrArg String.toList hempty
  · simpa using hslash
  · rw [String.toList_ofList]
    intro hnull'
    apply hnull (hin.subset hnull')
  · apply hdot
  · apply hdots

/-! ### Paths that never lead back -/

/-- The names on a path are its steps that lead somewhere. -/
theorem names_eq (p : Path) :
  p.names = p.steps.filter (· ≠ ".")
  := by
  have hidle : ∀ piece : List Char,
      (decide (String.ofList piece ≠ ".") && decide (piece ≠ [])) = !isIdle piece := by
    intro piece
    have hdot : String.ofList piece = "." ↔ piece = ['.'] := by
      rw [← String.toList_inj, String.toList_ofList]
      rfl
    simp only [isIdle, ne_eq, hdot, decide_not, Bool.not_or, beq_eq_decide]
    apply Bool.and_comm
  rw [names, steps, List.filter_map, List.filter_filter]
  congr 2
  funext piece
  apply (hidle piece).symm

theorem dots_mem_names_iff {p : Path} :
  ".." ∈ p.names ↔ ".." ∈ p.steps
  := by
  rw [names_eq, List.mem_filter]
  simp

/-- What is left of reversed pieces is their end. -/
theorem of_mem_stems {ps stem : List (List Char)} (h : stem ∈ stems ps) :
  stem ≠ [] ∧ stem <:+ ps
  := by
  induction ps with
  | nil => cases h
  | cons piece rest ih =>
    have hrest : stem ∈ stems rest → stem ≠ [] ∧ stem <:+ piece :: rest := by
      intro hmem
      obtain ⟨hne, hsuffix⟩ := ih hmem
      exact ⟨hne, hsuffix.trans (List.suffix_cons _ _)⟩
    rw [stems] at h
    split at h
    · apply hrest h
    · rcases List.mem_cons.mp h with rfl | h
      · exact ⟨List.cons_ne_nil _ _, List.suffix_rfl⟩
      · apply hrest h

/-- The pieces of the path that is left of another one come first in it. -/
theorem pieces_of_stem {p : Path} {stem : List (List Char)} (h : stem ∈ stems p.pieces.reverse) :
  pieces ⟨String.ofList (Text.join ['/'] stem.reverse)⟩ = stem.reverse ∧ stem.reverse <+: p.pieces
  := by
  obtain ⟨hne, hsuffix⟩ := of_mem_stems h
  have hbegin : stem.reverse <+: p.pieces := by
    rwa [← List.reverse_suffix, List.reverse_reverse]
  refine ⟨?_, hbegin⟩
  rw [pieces, String.toList_ofList, Text.pieces_join]
  · simpa using hne
  · intro piece hpiece
    apply (Text.of_mem_pieces (hbegin.subset hpiece)).1

/-- The path of a directory through which a path leads is its beginning, or the root. -/
theorem pieces_of_mem_parents {p d : Path} (h : d ∈ p.parents) :
  d.pieces <+: p.pieces ∨ d = ⟨"/"⟩
  := by
  rw [parents] at h
  split at h
  case h_1 => cases h
  case h_2 innermost above hstems =>
    rcases List.mem_append.mp h with h | h
    · obtain ⟨stem, hstem, rfl⟩ := List.mem_map.mp h
      have hmem : stem ∈ stems p.pieces.reverse := by
        rw [hstems]
        apply List.mem_cons_of_mem _ hstem
      obtain ⟨hpieces, hbegin⟩ := pieces_of_stem hmem
      rw [hpieces]
      exact .inl hbegin
    · right
      split at h
      · apply List.mem_singleton.mp h
      · cases h

/-- The text of the path of a directory through which a path leads comes first in its text. -/
theorem text_of_mem_parents {p d : Path} (h : d ∈ p.parents) :
  d = ⟨"/"⟩ ∨ ∃ rest, p.text = d.text ++ rest
  := by
  rcases pieces_of_mem_parents h with ⟨more, hmore⟩ | hroot
  · obtain ⟨rest, hrest⟩ := Text.prefix_join ['/'] d.pieces more
    right
    use String.ofList rest
    rw [← String.toList_inj, String.toList_append, String.toList_ofList,
      ← Text.join_pieces '/' p.text.toList, ← Text.join_pieces '/' d.text.toList]
    rw [hmore] at hrest
    exact hrest.symm
  · exact .inl hroot

/-- The steps of a path to a directory through which a path leads come first on the path. -/
theorem steps_of_mem_parents {p d : Path} (h : d ∈ p.parents) :
  d.steps <+: p.steps
  := by
  rcases pieces_of_mem_parents h with hbegin | rfl
  · apply (hbegin.filter _).map
  · apply List.nil_prefix

theorem names_of_mem_parents {p d : Path} (h : d ∈ p.parents) :
  d.names <+: p.names
  := by
  rw [names_eq, names_eq]
  apply (steps_of_mem_parents h).filter

/-! ### The directory of a name -/

/-- What comes before the first of the stems of reversed pieces leads nowhere. -/
theorem exists_idle_append_stem (ps : List (List Char)) :
  ∃ idle, ps = idle ++ (stems ps).headD [] ∧ ∀ piece ∈ idle, isIdle piece = true
  := by
  induction ps with
  | nil => exact ⟨[], rfl, nofun⟩
  | cons piece rest ih =>
    cases hidle : isIdle piece with
    | false => exact ⟨[], by simp [stems, hidle], nofun⟩
    | true =>
      obtain ⟨idle, hrest, hall⟩ := ih
      refine ⟨piece :: idle, ?_, List.forall_mem_cons.mpr ⟨hidle, hall⟩⟩
      simp only [stems, hidle, if_true, List.cons_append]
      rw [← hrest]

/-- What is left of a joined path when its name is taken away. -/
theorem stems_join {name : String} (p : Path) (h : IsStep name) :
  stems (p.join name).pieces.reverse = (name.toList :: p.front.reverse) :: stems p.front.reverse
  := by
  simp [pieces_join p h, stems, h.isIdle_eq]

/-- Names that are joined to the same path lie in the same directory. -/
theorem parent_join_eq {name name' : String} (p : Path) (h : IsStep name) (h' : IsStep name') :
  (p.join name).parent = (p.join name').parent
  := by
  have habsolute : ∀ {name : String}, IsStep name → (p.join name).isAbsolute = p.isAbsolute := by
    intro name hname
    have hfirst := hname.isAbsolute_eq
    rw [isAbsolute, toList_join p hname.isAbsolute_eq]
    cases htext : p.text.toList with
    | nil =>
      have hempty : p.text = "" := String.toList_inj.mp htext
      simpa [isAbsolute, hempty] using hfirst
    | cons c rest => simp [isAbsolute, htext]
  simp only [parent, parent?, parents, stems_join p h, stems_join p h', habsolute h, habsolute h']

/-- The steps of a path are those of the directory in which a name lies that is joined to it, but for
steps that lead nowhere. -/
theorem steps_parent_join {name : String} (p : Path) (h : IsStep name) :
  ∃ idle, p.steps = (p.join name).parent.steps ++ idle ∧ ∀ step ∈ idle, step = "."
  := by
  have hstems := stems_join p h
  have hsteps : p.steps = (p.front.filter (· ≠ [])).map String.ofList := by
    have hjoin := steps_join_name p h
    rw [steps, pieces_join p h] at hjoin
    simp only [List.filter_append, List.map_append] at hjoin
    simpa [h.toList_ne_nil] using hjoin.symm
  have hparent : (p.join name).parent.steps =
      (((stems p.front.reverse).headD []).reverse.filter (· ≠ [])).map String.ofList := by
    cases habove : stems p.front.reverse with
    | nil =>
      rw [habove] at hstems
      simp only [parent, parent?, parents, hstems]
      split <;> rfl
    | cons stem rest =>
      have hpieces : pieces ⟨String.ofList (Text.join ['/'] stem.reverse)⟩ = stem.reverse := by
        apply (pieces_of_stem (p := p.join name) _).1
        rw [hstems, habove]
        simp
      rw [habove] at hstems
      simp only [parent, parent?, parents, hstems, List.map_cons, List.cons_append, List.head?_cons,
        Option.getD_some, List.headD_cons]
      rw [steps, hpieces]
  obtain ⟨idle, hidle, hall⟩ := exists_idle_append_stem p.front.reverse
  refine ⟨(idle.reverse.filter (· ≠ [])).map String.ofList, ?_, ?_⟩
  · rw [hsteps, hparent, ← List.map_append, ← List.filter_append, ← List.reverse_append, ← hidle,
      List.reverse_reverse]
  · intro step hstep
    obtain ⟨piece, hpiece, rfl⟩ := List.mem_map.mp hstep
    rw [List.mem_filter, List.mem_reverse, decide_eq_true_eq] at hpiece
    have hdot : piece = ['.'] := by
      simpa [isIdle, hpiece.2] using hall piece hpiece.1
    rw [hdot]

/-- The directory in which a joined name lies is named as the path is. -/
theorem names_parent_join {name : String} (p : Path) (h : IsStep name) :
  (p.join name).parent.names = p.names
  := by
  obtain ⟨idle, hsteps, hidle⟩ := steps_parent_join p h
  have hnone : idle.filter (· ≠ ".") = [] := by
    simpa using hidle
  rw [names_eq, names_eq, hsteps, List.filter_append, hnone, List.append_nil]

/-- The directory in which a path lies is one through which it leads, or has no text. -/
theorem parent_cases (p : Path) :
  p.parent = ⟨""⟩ ∨ p.parent ∈ p.parents
  := by
  rw [parent, parent?]
  cases hparents : p.parents with
  | nil => exact .inl rfl
  | cons d above => exact .inr List.mem_cons_self

/-- An ending without a slash is added to the last step. -/
theorem exists_route_withEnding (p : Path) {ending : String} (hne : ending ≠ "")
    (hslash : '/' ∉ ending.toList) :
  ∃ front last, (p.withEnding ending).route = front ++ [last ++ ending]
  := by
  obtain ⟨front, last, -, hpieces⟩ := Text.pieces_append_of_not_mem p.text.toList hslash
  have hlist : ending.toList ≠ [] := by
    intro hnil
    apply hne
    rw [← String.toList_inj, hnil]
    rfl
  have hends : (p.withEnding ending).endsInSlash = false := by
    simp only [endsInSlash, withEnding, String.toList_append, List.getLast?_append]
    rw [List.getLast?_eq_some_getLast hlist, Option.some_or, beq_eq_false_iff_ne]
    intro heq
    apply hslash
    rw [← Option.some.inj heq]
    apply List.getLast_mem
  have hends' : last ++ ending.toList ≠ [] := by simp [hlist]
  use (front.filter (· ≠ [])).map String.ofList, String.ofList last
  rw [route, hends, steps, pieces, withEnding, String.toList_append, hpieces]
  simp [List.filter_append, hends']

/-! ### Length -/

/-- Whether a path can be looked at, with a number of octets to spare. -/
structure Fits (p : Path) (room : Nat) : Prop where
  no_null : '\x00' ∉ p.text.toList
  size_le : p.text.utf8ByteSize + room ≤ Tree.mostPathOctets

theorem Fits.faultOf?_eq_none {p : Path} {room : Nat} (h : p.Fits room) :
  Tree.faultOf? p = none
  := by
  have hsize : ¬ Tree.mostPathOctets < p.text.utf8ByteSize := by
    have := h.size_le
    omega
  simp [Tree.faultOf?, h.no_null, hsize]

/-- A joined name takes its own octets and one for the slash. -/
theorem Fits.join {p : Path} {room : Nat} {name : String} (h : p.Fits room) (hname : IsStep name)
    (hroom : name.utf8ByteSize + 1 ≤ room) :
  (p.join name).Fits (room - (name.utf8ByteSize + 1))
  := by
  constructor
  · rw [toList_join p hname.isAbsolute_eq]
    simp only [List.mem_append, not_or]
    refine ⟨⟨h.no_null, ?_⟩, hname.no_null⟩
    split
    · simp
    · simp
  · have hsize := h.size_le
    rw [Path.join, if_neg (by simp [hname.isAbsolute_eq])]
    simp only [String.utf8ByteSize_append]
    split
    · simp only [String.utf8ByteSize_empty]
      omega
    · have hslash : "/".utf8ByteSize = 1 := rfl
      omega

/-- A path is fit for being looked at if one whose text goes on from its text is. -/
theorem faultOf?_of_text {p d : Path} {rest : String} (htext : p.text = d.text ++ rest)
    (h : Tree.faultOf? p = none) :
  Tree.faultOf? d = none
  := by
  simp only [Tree.faultOf?, htext, String.toList_append, String.utf8ByteSize_append] at h ⊢
  split at h
  · cases h
  case isFalse hnull =>
    split at h
    · cases h
    case isFalse hsize =>
      have hnull' : ¬ d.text.toList.contains '\x00' = true := by
        intro hmem
        apply hnull
        simp_all
      rw [if_neg hnull', if_neg (by omega)]

theorem faultOf?_of_join {d : Path} {name : String} (hname : IsStep name)
    (h : Tree.faultOf? (d.join name) = none) :
  Tree.faultOf? d = none
  := by
  have htext : ∃ rest, (d.join name).text = d.text ++ rest := by
    rw [join, if_neg (by simp [hname.isAbsolute_eq])]
    exact ⟨_, String.append_assoc ..⟩
  obtain ⟨rest, hrest⟩ := htext
  apply faultOf?_of_text hrest h

/-- The directory in which a path lies is fit for being looked at if the path is. -/
theorem faultOf?_parent {p : Path} (h : Tree.faultOf? p = none) :
  Tree.faultOf? p.parent = none
  := by
  rcases parent_cases p with hparent | hmem
  · rw [hparent]
    decide
  · rcases text_of_mem_parents hmem with hroot | ⟨rest, hrest⟩
    · rw [hroot]
      decide
    · apply faultOf?_of_text hrest h

end Path

end LiveModels
