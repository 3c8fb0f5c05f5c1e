import LiveModels.Proofs.Source.Endings

/-!
# What bundles declare

A bundle declares what its sections declare by themselves if every quoted alias in their texts is
closed, and nothing that begins before a line which moves to the beginning of the bundle goes on
after it. In general it does not: when an import between an attribute and a structure moves away,
the two make a declaration that the text of the section does not have. The emitted source declares
the same in a bundle as by itself if the texts that are emitted as comments mention no attribute.
-/

namespace LiveModels

open Text

/-! ### Readings that stop -/

namespace Declaration

variable {s rest : List Char} {k : Char}

theorem isStop_slash :
  IsStop '/'
  := by
  constructor <;> decide

/-- A quoted text that is closed is read in the same way whatever follows. -/
theorem readLiteral?_append_of_some {body : List Char} (h : readLiteral? s = some (body, rest))
    (t : List Char) :
  readLiteral? (s ++ t) = some (body, rest ++ t)
  := by
  fun_induction readLiteral? s generalizing body with
  | case1 => cases h
  | case2 s =>
    cases h
    rfl
  | case3 => cases h
  | case4 => cases h
  | case5 c s hc body' last hlast ih =>
    cases h
    rw [List.cons_append, List.cons_append, readLiteral?_escaped hc, ih hlast]
    rfl
  | case6 => cases h
  | case7 c s hquote hlast' hslash body' last hlast ih =>
    cases h
    rw [List.cons_append, readLiteral?_cons hquote (ne_backslash hlast' hslash), ih hlast]
    rfl
  | case8 => cases h

/-- An annotation stops at a character at which other readers stop, if its alias is closed. -/
theorem readAnnotation?_stop (hk : IsStop k) (hparen : k ≠ '(')
    (hs : ∀ w ∈ (afterWord? ['('] s).bind openAlias?, ∃ r, readLiteral? w = some r)
    (rest : List Char) :
  readAnnotation? (s ++ k :: rest) = (readAnnotation? s).map (extend (k :: rest))
  := by
  cases s with
  | nil => apply readAnnotation?_of_ne hparen
  | cons c s =>
    by_cases hc : c = '('
    · subst hc
      have halias : readAlias? (s ++ k :: rest) = (readAlias? s).map (extend (k :: rest)) := by
        rw [readAlias?_eq, readAlias?_eq, openAlias?_stop hk]
        cases hw : openAlias? s with
        | none => rfl
        | some w =>
          obtain ⟨⟨body, last⟩, hread⟩ := hs w hw
          rw [Option.map_some, Option.bind_some, Option.bind_some,
            readLiteral?_append_of_some hread, hread]
          apply closeAlias?_stop hk
      rw [List.cons_append, readAnnotation?, readAnnotation?, halias]
      simp [Function.comp_def, extend]
    · rw [List.cons_append, readAnnotation?_of_ne hc, readAnnotation?_of_ne hc]
      rfl

/-- A declaration stops at a character at which readers of words stop, if its alias is closed. -/
theorem read?_stop (hk : IsStop k) (hparen : k ≠ '(') (hword : k ∉ attributeWord)
    (hs : ∀ w ∈ quoted? s, ∃ r, readLiteral? w = some r) (rest : List Char) :
  read? (s ++ k :: rest) = (read? s).map (extend (k :: rest))
  := by
  rw [read?_eq, read?_eq, afterWord?_stop hword]
  cases hx : afterWord? attributeWord s with
  | none => rfl
  | some x =>
    have hannotation := readAnnotation?_stop (s := x) hk hparen (by
      intro w hw
      apply hs w
      rwa [quoted?, hx, Option.bind_some]) rest
    rw [Option.map_some, Option.bind_some, Option.bind_some, hannotation]
    cases readAnnotation? x with
    | none => rfl
    | some r => apply finish?_stop hk

/-- Whether no declaration that begins in a text goes on after it, whatever follows. -/
def IsSettled (s : List Char) : Prop :=
  ∀ y, y ≠ [] → y <:+ s → ∀ rest, read? (y ++ rest) = (read? y).map (extend rest)

theorem IsSettled.suffix (h : IsSettled s) {y : List Char} (hy : y <:+ s) :
  IsSettled y
  := fun x hx hxy => h x hx (hxy.trans hy)

/-- Nothing begins on lines that do not mention an attribute. -/
theorem isSettled_joinLines {ls : List (List Char)} (h : ∀ l ∈ ls, ¬ attributeWord <:+: l) :
  IsSettled (joinLines ls)
  := by
  intro y hy hsuffix rest
  obtain ⟨x, rfl⟩ : ∃ x, y = x ++ ['\n'] := by
    cases ls using List.reverseRecOn with
    | nil => exact absurd (List.suffix_nil.mp hsuffix) hy
    | append_singleton ls l =>
      have hconcat : joinLines (ls ++ [l]) = joinLines ls ++ l ++ ['\n'] := by simp [joinLines]
      rw [hconcat] at hsuffix
      rcases List.suffix_concat_iff.mp hsuffix with rfl | ⟨x, rfl, -⟩
      · exact absurd rfl hy
      · exact ⟨x, rfl⟩
  have hfeed : '\n' ∉ attributeWord := by decide
  have hx : ¬ attributeWord <:+: x := by
    intro hin
    apply isMarked_attributeWord.not_infix_joinLines h
    exact (hin.trans (List.prefix_append x ['\n']).isInfix).trans hsuffix.isInfix
  have hnone : ∀ rest, read? (x ++ '\n' :: rest) = none := by
    intro rest
    rw [read?_eq, afterWord?_stop hfeed, afterWord?_eq_none hx]
    rfl
  rw [List.append_assoc, List.singleton_append, hnone, hnone]
  rfl

end Declaration

/-! ### Separate sections -/

namespace Bundle

open Declaration Emission

variable {b : Bundle} {text : List Char} {word : List Char}

/-- Whether a text declares the same when it is a section of a bundle: every alias that is opened in
it is closed, and the lines that move to the beginning of the bundle neither mention an attribute nor
stand inside of a declaration. -/
structure IsSeparate (text : List Char) : Prop where
  closes : ClosesAliases text
  hoisted : ∀ line ∈ lines text, isHoisted line = true → ¬ attributeWord <:+: line
  settled : ∀ front line back, lines text = front ++ line :: back → isHoisted line = true →
    IsSettled (joinLines front)

/-- A text is separate if the lines that move away stand before the first mention of an
attribute. -/
theorem IsSeparate.of_lines (front back : List (List Char)) (hlines : lines text = front ++ back)
    (hcloses : ClosesAliases text) (hfront : ∀ line ∈ front, ¬ attributeWord <:+: line)
    (hback : ∀ line ∈ back, isHoisted line = false) :
  IsSeparate text
  := by
  have hmoves : ∀ line ∈ back, isHoisted line ≠ true := by
    intro line hline hhoisted
    rw [hback line hline] at hhoisted
    cases hhoisted
  constructor
  · apply hcloses
  · intro line hline hhoisted
    rw [hlines, List.mem_append] at hline
    rcases hline with hline | hline
    · apply hfront line hline
    · exact absurd hhoisted (hmoves line hline)
  · intro front' line back' heq hhoisted
    apply isSettled_joinLines
    intro l hl
    rw [hlines] at heq
    rcases List.append_eq_append_iff.mp heq with ⟨ls, rfl, hls⟩ | ⟨ls, rfl, -⟩
    · apply absurd hhoisted (hmoves line _)
      rw [hls]
      simp
    · apply hfront l (List.mem_append_left ls hl)

/-- The part of a section that stays in a bundle declares what the text declares, if a comment
follows. -/
structure Carries (text : List Char) : Prop where
  hoisted : ∀ line ∈ lines text, isHoisted line = true → ¬ attributeWord <:+: line
  scan_append : ∀ rest, scan (joinLines ((lines text).filter isKept) ++ '\n' :: '/' :: rest) =
    scan text ++ scan ('/' :: rest)

/-- Lines that move away can be left out when a text is scanned. The induction is on the lines; `kept`
are those since the last line that moved away. -/
theorem scan_filter {kept ls : List (List Char)}
    (hcloses : ClosesAliases (joinLines (kept ++ ls) ++ ['\n']))
    (hhoisted : ∀ line ∈ ls, isHoisted line = true → ¬ attributeWord <:+: line)
    (hsettled : ∀ front line back, ls = front ++ line :: back → isHoisted line = true →
      IsSettled (joinLines (kept ++ front))) (rest : List Char) :
  scan (joinLines (kept ++ ls.filter isKept) ++ '\n' :: '/' :: rest) =
    scan (joinLines (kept ++ ls) ++ ['\n']) ++ scan ('/' :: rest)
  := by
  induction ls generalizing kept with
  | nil =>
    rw [List.append_nil] at hcloses
    rw [List.filter_nil, List.append_nil]
    have hread : ∀ y, y ≠ [] → y <:+ joinLines kept ++ ['\n'] →
        read? (y ++ '/' :: rest) = (read? y).map (extend ('/' :: rest)) := by
      intro y _ hy
      apply read?_stop isStop_slash (by decide) (by decide)
      intro w hw
      obtain ⟨r, hr, -⟩ := hcloses y hy w hw
      exact ⟨r, hr⟩
    rw [← Declaration.scan_append hread, List.append_assoc, List.singleton_append]
  | cons line ls ih =>
    rw [List.forall_mem_cons] at hhoisted
    have hnext : ∀ front line' back, ls = front ++ line' :: back → isHoisted line' = true →
        IsSettled (joinLines (kept ++ line :: front)) := by
      intro front line' back heq
      apply hsettled (line :: front) line' back
      rw [heq, List.cons_append]
    cases hline : isHoisted line with
    | true =>
      have hmoves : isKept line = false := by rw [isKept, hline, Bool.not_true]
      have hkept : ∀ t, scan (joinLines kept ++ t) = scan (joinLines kept) ++ scan t := by
        intro t
        have hempty := hsettled [] line ls rfl hline
        rw [List.append_nil] at hempty
        apply Declaration.scan_append fun y hy hsuffix => hempty y hy hsuffix t
      have hsuffix : ∀ ls', joinLines ls' <:+ joinLines (kept ++ line :: ls') := by
        intro ls'
        rw [← List.singleton_append, ← List.append_assoc, joinLines_append]
        apply List.suffix_append
      have hrest := @ih []
        (hcloses.suffix ((List.suffix_append_inj_of_length_eq rfl).mpr ⟨hsuffix ls, rfl⟩)) hhoisted.2
        fun front line' back heq hline' => (hnext front line' back heq hline').suffix (hsuffix front)
      calc scan (joinLines (kept ++ (line :: ls).filter isKept) ++ '\n' :: '/' :: rest)
        _ = scan (joinLines kept) ++
            scan (joinLines (ls.filter isKept) ++ '\n' :: '/' :: rest) := by
          rw [List.filter_cons_of_neg (by simp [hmoves]), joinLines_append, List.append_assoc, hkept]
        _ = scan (joinLines kept) ++ (scan (joinLines ls ++ ['\n']) ++ scan ('/' :: rest)) :=
          congrArg _ hrest
        _ = scan (joinLines (kept ++ line :: ls) ++ ['\n']) ++ scan ('/' :: rest) := by
          rw [joinLines_append, joinLines_cons, List.append_assoc _ _ ['\n'], hkept,
            List.append_assoc _ _ ['\n'], List.cons_append, scan_line (hhoisted.1 hline),
            List.append_assoc]
    | false =>
      have hstays : isKept line = true := by rw [isKept, hline, Bool.not_false]
      have hrest := @ih (kept ++ [line]) (by simpa using hcloses) hhoisted.2 (by simpa using hnext)
      rw [List.filter_cons_of_pos hstays]
      simpa using hrest

/-- A separate text declares the same as a section. -/
theorem IsSeparate.carries (h : IsSeparate text) :
  Carries text
  := by
  refine ⟨h.hoisted, ?_⟩
  intro rest
  have hcloses := h.closes.copies (Copies.joinLines_lines text)
  have hscan : scan (joinLines ((lines text).filter isKept) ++ '\n' :: '/' :: rest) =
      scan (joinLines (lines text) ++ ['\n']) ++ scan ('/' :: rest) :=
    @scan_filter [] (lines text) hcloses h.hoisted h.settled rest
  rw [hscan, scan_lines h.closes]

/-! ### Bundles -/

/-- The lines of a bundle before its sections. -/
def headLines (b : Bundle) : List String :=
  [fingerprintLabel ++ b.fingerprint, revisionLine b.revision]
    ++ b.attributes ++ (if b.attributes.isEmpty then [] else [""]) ++ b.imports

/-- The lines of a bundle from its sections on. -/
def tailLines (ss : List (String × String)) : List String :=
  ss.flatMap sectionLines ++ ["", "// EOF"]

theorem toList_render_eq (b : Bundle) :
  b.render.toList =
    joinLines (b.headLines.map String.toList) ++ joinLines ((tailLines b.sections).map String.toList)
  := by
  rw [render, toList_unlines, ← joinLines_append, ← List.map_append, renderedLines, headLines,
    tailLines, List.append_assoc _ (b.sections.flatMap sectionLines)]

/-- A line at the beginning of a bundle is a part of one that moves there. -/
theorem exists_of_mem_sortedOnce {lines : List (List Char)} {l : String}
    (h : l ∈ sortedOnce (lines.map fun line => String.ofList (trim line))) :
  ∃ line ∈ lines, l.toList <:+: line
  := by
  have hmem := List.mem_mergeSort.mp (List.mem_eraseDups.mp h)
  obtain ⟨line, hline, rfl⟩ := List.mem_map.mp hmem
  use line, hline
  rw [String.toList_ofList]
  apply (isPrefix_trimEnd _).isInfix.trans (trimStart_suffix line).isInfix

/-- The lines before the sections mention no marked word if neither the fingerprint nor a line that
moves there does. -/
theorem not_infix_of_mem_headLines (hword : IsMarked word)
    (hfingerprint : ¬ word <:+: b.fingerprint.toList)
    (hhoisted : ∀ line ∈ b.allLines, isHoisted line = true → ¬ word <:+: line) {l : String}
    (hl : l ∈ b.headLines) :
  ¬ word <:+: l.toList
  := by
  simp only [headLines, List.mem_append, List.mem_cons, List.not_mem_nil, or_false] at hl
  rcases hl with (((rfl | rfl) | hl) | hl) | hl
  · have hlabel : (fingerprintLabel ++ b.fingerprint).toList =
        "// fingerprint:".toList ++ ' ' :: b.fingerprint.toList := by
      rw [String.toList_append]
      rfl
    rw [hlabel]
    apply hword.not_infix_append_space _ hfingerprint
    apply hword.not_infix (by decide) (by decide)
  · apply hword.not_infix
    · apply not_mem_revisionLine _ (by decide) rfl
    · apply not_mem_revisionLine _ (by decide) rfl
  · obtain ⟨line, hline, hin⟩ := exists_of_mem_sortedOnce hl
    obtain ⟨hline, hattribute⟩ := List.mem_filter.mp hline
    intro hmention
    apply hhoisted line hline _ (hmention.trans hin)
    rw [isHoisted, hattribute, Bool.true_or]
  · split at hl
    · cases hl
    · rw [List.mem_singleton.mp hl]
      apply hword.not_infix (by decide) (by decide)
  · obtain ⟨line, hline, hin⟩ := exists_of_mem_sortedOnce hl
    obtain ⟨hline, himport⟩ := List.mem_filter.mp hline
    intro hmention
    apply hhoisted line hline _ (hmention.trans hin)
    rw [isHoisted, himport, Bool.or_true]

/-- The name of a section mentions no marked word as a comment if it mentions none by itself. -/
theorem not_infix_of_mem_title (hword : IsMarked word) {name : String} (hname : ¬ word <:+: name.toList)
    {line : List Char} (hline : line ∈ ["", "// FILE: " ++ name].map String.toList) :
  ¬ word <:+: line
  := by
  simp only [List.map_cons, List.map_nil, List.mem_cons, List.not_mem_nil, or_false] at hline
  rcases hline with rfl | rfl
  · apply hword.not_infix (by decide) (by decide)
  · have htitle : ("// FILE: " ++ name).toList = "// FILE:".toList ++ ' ' :: name.toList := by
      rw [String.toList_append]
      rfl
    rw [htitle]
    apply hword.not_infix_append_space _ hname
    apply hword.not_infix (by decide) (by decide)

theorem not_infix_of_mem_end (hword : IsMarked word) {line : List Char}
    (hline : line ∈ ["", "// EOF"].map String.toList) :
  ¬ word <:+: line
  := by
  simp only [List.map_cons, List.map_nil, List.mem_cons, List.not_mem_nil, or_false] at hline
  rcases hline with rfl | rfl
  · apply hword.not_infix (by decide) (by decide)
  · apply hword.not_infix (by decide) (by decide)

/-- A section begins with its name as a comment, and the end of a bundle is a comment, too. -/
theorem slash_prefix_tailLines (ss : List (String × String)) :
  ['\n', '/'] <+: joinLines ((tailLines ss).map String.toList)
  := by
  cases ss with
  | nil => decide
  | cons s ss =>
    have htitle : joinLines (["", "// FILE: " ++ s.1].map String.toList) =
        ['\n', '/'] ++ ("/ FILE: ".toList ++ s.1.toList ++ ['\n']) := by
      simp [joinLines]
    rw [tailLines, List.flatMap_cons, List.append_assoc, List.map_append, joinLines_append,
      toList_sectionLines, joinLines_append, htitle, List.append_assoc, List.append_assoc]
    apply List.prefix_append

/-- Sections that carry their texts declare what these declare. -/
theorem scan_tailLines {ss : List (String × String)}
    (hnames : ∀ s ∈ ss, ¬ attributeWord <:+: s.1.toList) (hcarries : ∀ s ∈ ss, Carries s.2.toList) :
  scan (joinLines ((tailLines ss).map String.toList)) = ss.flatMap fun s => declared s.2
  := by
  induction ss with
  | nil =>
    have hend := scan_joinLines
      (fun line hline => not_infix_of_mem_end isMarked_attributeWord hline) []
    rw [List.append_nil, scan_nil] at hend
    apply hend
  | cons s ss ih =>
    rw [List.forall_mem_cons] at hnames hcarries
    obtain ⟨rest, hrest⟩ := slash_prefix_tailLines ss
    rw [List.cons_append, List.singleton_append] at hrest
    have hnext : scan ('/' :: rest) = ss.flatMap fun s => declared s.2 := by
      have hfeed : scan ('\n' :: '/' :: rest) = scan ('/' :: rest) := scan_line (s := []) (by decide) _
      rw [← hfeed, hrest, ih hnames.2 hcarries.2]
    rw [tailLines, List.flatMap_cons, List.append_assoc, List.map_append, joinLines_append,
      toList_sectionLines, joinLines_append, List.append_assoc, ← tailLines, ← hrest,
      scan_joinLines (fun line hline =>
        not_infix_of_mem_title isMarked_attributeWord hnames.1 hline),
      hcarries.1.scan_append, hnext, List.flatMap_cons, declared]

/-- A bundle declares what its sections declare if these carry their texts. -/
theorem declared_render_of_carries (hfingerprint : ¬ attributeWord <:+: b.fingerprint.toList)
    (hnames : ∀ s ∈ b.sections, ¬ attributeWord <:+: s.1.toList)
    (hcarries : ∀ s ∈ b.sections, Carries s.2.toList) :
  declared b.render = b.sections.flatMap fun s => declared s.2
  := by
  rw [declared, toList_render_eq, scan_joinLines, scan_tailLines hnames hcarries]
  rw [List.forall_mem_map]
  intro l hl
  apply not_infix_of_mem_headLines isMarked_attributeWord hfingerprint _ hl
  intro line hline
  obtain ⟨s, hs, hline⟩ := List.mem_flatMap.mp hline
  apply (hcarries s hs).hoisted line hline

/-- A bundle asks for no compile error if neither its fingerprint nor its sections mention one. -/
theorem hasError_render_of_not_infix (hfingerprint : ¬ errorWord <:+: b.fingerprint.toList)
    (hnames : ∀ s ∈ b.sections, ¬ errorWord <:+: s.1.toList)
    (hsections : ∀ s ∈ b.sections, ∀ line ∈ lines s.2.toList, ¬ errorWord <:+: line) :
  hasError b.render.toList = false
  := by
  apply hasError_eq_false
  rw [toList_render_eq, ← joinLines_append, tailLines, List.map_append]
  apply isMarked_errorWord.not_infix_joinLines
  intro line hline
  rw [List.mem_append, List.mem_append, List.map_flatMap, List.mem_flatMap] at hline
  rcases hline with hline | ⟨s, hs, hline⟩ | hline
  · obtain ⟨l, hl, rfl⟩ := List.mem_map.mp hline
    apply not_infix_of_mem_headLines isMarked_errorWord hfingerprint _ hl
    intro line hline _
    obtain ⟨s, hs, hline⟩ := List.mem_flatMap.mp hline
    apply hsections s hs line hline
  · rw [toList_sectionLines, List.mem_append] at hline
    rcases hline with hline | hline
    · apply not_infix_of_mem_title isMarked_errorWord (hnames s hs) hline
    · apply hsections s hs line (List.mem_filter.mp hline).1
  · apply not_infix_of_mem_end isMarked_errorWord hline

end Bundle

/-! ### Emitted source in bundles -/

namespace Emission

open Declaration

variable {s : Snapshot} {word : List Char} {files : UserFiles}

/-- A line of a declaration stays in its section. -/
theorem isHoisted_of_mem_declaration {t : TypeDescriptor} (h : Identifier.IsPlain t.bindingName)
    {line : List Char} (hline : line ∈ linesOf (declaration t)) :
  Bundle.isHoisted line = false
  := by
  rw [linesOf_of_not_mem (not_mem_declaration h), toList_declaration] at hline
  simp only [List.map_cons, List.map_nil, chomp_append_singleton (show ']' ≠ '\r' by decide),
    chomp_append_singleton (show ';' ≠ '\r' by decide), List.mem_cons, List.not_mem_nil,
    or_false] at hline
  rcases hline with rfl | rfl
  · simp [Bundle.isHoisted, Bundle.isInnerAttribute, Bundle.isImport, afterWord?, aliasWord]
  · simp [Bundle.isHoisted, Bundle.isInnerAttribute, Bundle.isImport, afterWord?]

/-- A line of emitted source belongs to a declaration, or mentions no word that the snapshot
avoids. -/
theorem of_mem_lines_emit (hword : IsMarked word) (hs : s.IsNamed) (havoids : s.Avoids word)
    {line : List Char} (hline : line ∈ lines (emit s files).toList) :
  (∃ t ∈ s.types, line ∈ linesOf (declaration t)) ∨ ¬ word <:+: line
  := by
  rw [lines_emit, emittedLines, ← List.singleton_append, linesOf_append, List.mem_append] at hline
  rcases hline with hline | hline
  · apply Or.inr (not_infix_of_mem_linesOf _ hline)
    intro l hl
    rw [List.mem_singleton.mp hl]
    apply hword.not_infix (by decide) (by decide)
  · obtain ⟨l, hl, hcut⟩ := List.mem_flatMap.mp hline
    obtain ⟨t, ht, hl⟩ := List.mem_flatMap.mp hl
    have htypes := mem_types_of_mem_emittedTypes ht
    have hpart : ¬ word <:+: l.toList → ¬ word <:+: line :=
      fun hl hin => hl (hin.trans (infix_of_mem_cut hcut))
    rw [typeLines_eq, frontLines, List.mem_append, List.mem_append] at hl
    rcases hl with (hl | hl) | hl
    · apply Or.inr (hpart (not_infix_of_mem_comments hword havoids htypes hl))
    · exact .inl ⟨t, htypes, List.mem_flatMap.mpr ⟨l, hl, hcut⟩⟩
    · apply Or.inr (hpart (not_infix_of_mem_notes hword hs.isWord (havoids.isFreeOf hword hs) htypes hl))

/-- The emitted source declares the same as a section of a bundle. -/
theorem carries_emit (hs : s.IsNamed) (hdeclarable : AreDeclarable s)
    (havoids : s.Avoids attributeWord) (files : UserFiles) :
  Bundle.Carries (emit s files).toList
  := by
  constructor
  · intro line hline hhoisted
    apply (of_mem_lines_emit isMarked_attributeWord hs havoids hline).resolve_left
    rintro ⟨t, ht, hdeclaration⟩
    rw [isHoisted_of_mem_declaration (hs.types t ht) hdeclaration] at hhoisted
    cases hhoisted
  · intro rest
    have htypes : ∀ t ∈ emittedTypes s files, ∀ rest,
        scan (sectionText (typeLines s t) ++ rest) = t.model :: scan rest := by
      intro t ht
      apply scan_sectionText hs hdeclarable havoids (mem_types_of_mem_emittedTypes ht)
    have hpreamble : ∀ line ∈ (linesOf [preamble]).filter isKept, ¬ attributeWord <:+: line := by
      intro line hline
      apply not_infix_of_mem_linesOf _ (List.mem_filter.mp hline).1
      intro l hl
      rw [List.mem_singleton.mp hl]
      apply isMarked_attributeWord.not_infix (by decide) (by decide)
    have hscan : scan (emit s files).toList = (emittedTypes s files).map TypeDescriptor.model :=
      declared_emit hdeclarable (havoids.isFreeOf isMarked_attributeWord hs) files
    have hfeed : scan ('\n' :: '/' :: rest) = scan ('/' :: rest) := scan_line (s := []) (by decide) _
    rw [lines_emit, ← sectionText, emittedLines, ← List.singleton_append, sectionText_append,
      sectionText_flatMap, List.append_assoc, sectionText, scan_joinLines hpreamble,
      scan_flatMap htypes, hscan, hfeed]

/-- A declaration asks for a compile error only if its alias does. -/
theorem not_infix_of_mem_declaration {t : TypeDescriptor} (h : Identifier.IsPlain t.bindingName)
    (halias : ¬ errorWord <:+: t.aliasName.toList) {l : String} (hl : l ∈ declaration t) :
  ¬ errorWord <:+: l.toList
  := by
  have hmem := List.mem_map_of_mem (f := String.toList) hl
  rw [toList_declaration, List.mem_cons, List.mem_singleton] at hmem
  rcases hmem with hmem | hmem
  · have hescape : ¬ errorWord <:+: escape t.aliasName.toList := by
      intro hin
      apply halias (IsMute.isUnescaped_errorWord.infix_of_escape hin)
    have hquote : '"' ∉ errorWord := by decide
    have hline : l.toList = ('#' :: (aliasWord ++ ['=', ' '])) ++
        '"' :: (escape t.aliasName.toList ++ '"' :: [')', ']']) := by
      rw [hmem]
      simp
    rw [hline, infix_append_cons_iff hquote isMarked_errorWord.ne_nil,
      infix_append_cons_iff hquote isMarked_errorWord.ne_nil, not_or, not_or]
    refine ⟨?_, hescape, ?_⟩
    · decide
    · decide
  · rw [hmem]
    apply isMarked_errorWord.not_infix
    · simp [h.not_mem (k := '#') rfl]
    · simp [h.not_mem (k := '!') rfl]

end Emission

namespace Bundle

open Declaration Emission

variable {s : Snapshot} {files : UserFiles} {fingerprint : String} {revision : UInt64}

theorem not_infix_of_isLowerHex {word : List Char} (hword : IsMarked word)
    (hhex : ∀ c ∈ fingerprint.toList, isLowerHex c = true) :
  ¬ word <:+: fingerprint.toList
  := by
  have hmark : ∀ k, isLowerHex k = false → k ∉ fingerprint.toList := by
    intro k hk hmem
    rw [hhex k hmem] at hk
    cases hk
  apply hword.not_infix (hmark '#' rfl) (hmark '!' rfl)

theorem not_infix_generatedName {word : List Char} (hword : IsMarked word) :
  ¬ word <:+: generatedName.toList
  := by
  apply hword.not_infix (by decide) (by decide)

/-- A bundle of files and emitted source declares what the files declare, and the models of the types
that they do not declare. -/
theorem declared_render_emit (hs : s.IsNamed) (hdeclarable : AreDeclarable s)
    (havoids : s.Avoids attributeWord) (hfingerprint : ¬ attributeWord <:+: fingerprint.toList)
    (hnames : ∀ f ∈ files, ¬ attributeWord <:+: f.1.toList)
    (hfiles : ∀ f ∈ files, Carries f.2.toList) :
  declared (render ⟨fingerprint, revision, files, emit s files⟩) =
    files.flatMap (fun f => declared f.2) ++ (emittedTypes s files).map TypeDescriptor.model
  := by
  have hemit := declared_emit hdeclarable (havoids.isFreeOf isMarked_attributeWord hs) files
  rw [declared_render_of_carries hfingerprint, sections, List.flatMap_append,
    List.flatMap_singleton, hemit]
  · rw [sections, List.forall_mem_append, List.forall_mem_singleton]
    exact ⟨hnames, not_infix_generatedName isMarked_attributeWord⟩
  · rw [sections, List.forall_mem_append, List.forall_mem_singleton]
    exact ⟨hfiles, carries_emit hs hdeclarable havoids files⟩

/-- A bundle of emitted source declares the models of all types. -/
theorem declared_render (hs : s.IsNamed) (hdeclarable : AreDeclarable s)
    (havoids : s.Avoids attributeWord) (hhex : ∀ c ∈ fingerprint.toList, isLowerHex c = true) :
  Declaration.declared (render ⟨fingerprint, revision, [], emit s []⟩) =
    (emittedTypes s []).map TypeDescriptor.model
  := declared_render_emit hs hdeclarable havoids
    (not_infix_of_isLowerHex isMarked_attributeWord hhex) nofun nofun

/-- A bundle of files and emitted source asks for no compile error if no text in it mentions one. -/
theorem hasError_render_emit (hs : s.IsNamed) (havoids : s.Avoids errorWord)
    (haliases : ∀ t ∈ s.types, ¬ errorWord <:+: t.aliasName.toList)
    (hhex : ∀ c ∈ fingerprint.toList, isLowerHex c = true)
    (hfiles : ∀ f ∈ files, ¬ errorWord <:+: f.1.toList ∧ ¬ errorWord <:+: f.2.toList) :
  hasError (render ⟨fingerprint, revision, files, emit s files⟩).toList = false
  := by
  apply hasError_render_of_not_infix (not_infix_of_isLowerHex isMarked_errorWord hhex)
  · rw [sections, List.forall_mem_append, List.forall_mem_singleton]
    exact ⟨fun f hf => (hfiles f hf).1, not_infix_generatedName isMarked_errorWord⟩
  · rw [sections, List.forall_mem_append, List.forall_mem_singleton]
    constructor
    · intro f hf line hline hin
      apply (hfiles f hf).2 (hin.trans (infix_of_mem_lines hline))
    · intro line hline
      rcases of_mem_lines_emit isMarked_errorWord hs havoids hline with ⟨t, ht, hdeclaration⟩ | hline
      · apply not_infix_of_mem_linesOf _ hdeclaration
        intro l hl
        apply not_infix_of_mem_declaration (hs.types t ht) (haliases t ht) hl
      · apply hline

/-- A bundle of emitted source asks for no compile error. -/
theorem hasError_render (hs : s.IsNamed) (havoids : s.Avoids errorWord)
    (haliases : ∀ t ∈ s.types, ¬ errorWord <:+: t.aliasName.toList)
    (hhex : ∀ c ∈ fingerprint.toList, isLowerHex c = true) :
  hasError (render ⟨fingerprint, revision, [], emit s []⟩).toList = false
  := hasError_render_emit hs havoids haliases hhex nofun

end Bundle

end LiveModels
