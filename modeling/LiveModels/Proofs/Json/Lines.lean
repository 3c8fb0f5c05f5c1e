import LiveModels.Json.Decoding
import LiveModels.Proofs.Result
import LiveModels.Proofs.Text.Lines

/-!
# Lines of JSON texts

No line of a JSON text begins with a slash. Outside of strings there is no slash at all, and a string
does not go on over a line feed, so that a slash in a string has a character before it on its line.

What carries this is that a reader takes away a part of the text in which no line begins with a
slash. The part that is taken away next begins a line only if the one before it ends in a line feed,
and it never begins with a slash.
-/

namespace LiveModels.Json

open LiveModels.Text

variable {s rest last used used' : List Char} {fuel : Nat}

/-- Whether every slash of a text has a character other than a line feed before it. -/
def IsCalm (s : List Char) : Prop :=
  ∀ u v, s = u ++ '/' :: v → ∃ w c, u = w ++ [c] ∧ c ≠ '\n'

theorem isCalm_of_not_mem_slash (h : '/' ∉ s) :
  IsCalm s
  := by
  intro u v hs
  rw [hs] at h
  exact absurd (List.mem_append_right _ List.mem_cons_self) h

theorem isCalm_of_not_mem_feed (h : '\n' ∉ s) (hhead : s.head? ≠ some '/') :
  IsCalm s
  := by
  intro u v hs
  rcases List.eq_nil_or_concat u with rfl | ⟨w, c, rfl⟩
  · rw [hs] at hhead
    exact absurd rfl hhead
  · rw [List.concat_eq_append] at hs ⊢
    use w, c, rfl
    rintro rfl
    apply h
    simp [hs]

theorem IsCalm.append (h : IsCalm used) (h' : IsCalm used') :
  IsCalm (used ++ used')
  := by
  intro u v hs
  rcases List.append_eq_append_iff.mp hs with ⟨front, rfl, hfront⟩ | ⟨front, hfront, hv⟩
  · obtain ⟨w, c, rfl, hc⟩ := h' front v hfront
    use used ++ w, c
    rw [List.append_assoc]
    use rfl
  · cases front with
    | nil =>
      obtain ⟨w, c, hnil, -⟩ := h' [] v hv.symm
      simp at hnil
    | cons d front =>
      obtain ⟨rfl, -⟩ := List.cons.inj hv
      apply h u front hfront

/-! ### What is taken away -/

/-- Whether a text goes on as another one after a part in which no line begins with a slash. -/
def Passes (s rest : List Char) : Prop :=
  ∃ used, s = used ++ rest ∧ IsCalm used

theorem Passes.refl (s : List Char) :
  Passes s s
  := ⟨[], rfl, isCalm_of_not_mem_slash List.not_mem_nil⟩

theorem Passes.trans (h : Passes s rest) (h' : Passes rest last) :
  Passes s last
  := by
  obtain ⟨used, rfl, hused⟩ := h
  obtain ⟨used', rfl, hused'⟩ := h'
  exact ⟨used ++ used', (List.append_assoc _ _ _).symm, hused.append hused'⟩

theorem passes_cons {c : Char} (hc : c ≠ '/') (rest : List Char) :
  Passes (c :: rest) rest
  := ⟨[c], rfl, isCalm_of_not_mem_slash (by simpa using hc.symm)⟩

theorem passes_dropWhile {skip : Char → Bool} (hskip : skip '/' = false) (s : List Char) :
  Passes s (s.dropWhile skip)
  := by
  use s.takeWhile skip, List.takeWhile_append_dropWhile.symm
  apply isCalm_of_not_mem_slash
  intro hmem
  have hslash := List.all_eq_true.mp List.all_takeWhile _ hmem
  rw [hskip] at hslash
  cases hslash

theorem passes_skipSeparators (s : List Char) :
  Passes s (skipSeparators s)
  := passes_dropWhile (by decide) s

/-- A token after separators. -/
theorem passes_of_skipSeparators {c : Char} (h : skipSeparators s = c :: rest) (hc : c ≠ '/') :
  Passes s rest
  := by
  have hskip := passes_skipSeparators s
  rw [h] at hskip
  apply hskip.trans (passes_cons hc rest)

/-! ### Strings -/

/-- Whether a text goes on as another one on the same line. -/
def Stays (s rest : List Char) : Prop :=
  ∃ used, s = used ++ rest ∧ '\n' ∉ used

theorem Stays.trans (h : Stays s rest) (h' : Stays rest last) :
  Stays s last
  := by
  obtain ⟨used, rfl, hused⟩ := h
  obtain ⟨used', rfl, hused'⟩ := h'
  use used ++ used', (List.append_assoc _ _ _).symm
  rw [List.mem_append, not_or]
  use hused, hused'

theorem stays_cons {c : Char} (hc : c ≠ '\n') (rest : List Char) :
  Stays (c :: rest) rest
  := ⟨[c], rfl, by simpa using hc.symm⟩

theorem feed_not_mem_of_hexFrom {most value n : Nat} (h : hexFrom most value s = some n) :
  '\n' ∉ s
  := by
  induction s generalizing value with
  | nil => apply List.not_mem_nil
  | cons c rest ih =>
    rw [hexFrom] at h
    split at h
    · cases h
    case h_2 d hd =>
      split at h
      · rw [List.mem_cons, not_or]
        constructor
        · rintro rfl
          have hnone : hexValue? '\n' = none := by decide
          rw [hnone] at hd
          cases hd
        · apply ih h
      · cases h

theorem stays_of_readUnit {n : Nat} (h : readUnit s = some (n, rest)) :
  Stays s rest
  := by
  unfold readUnit at h
  split at h
  · split at h
    case h_1 hn =>
      cases h
      exact ⟨[_, _, _, _], rfl, feed_not_mem_of_hexFrom hn⟩
    case h_2 => cases h
  · cases h

theorem stays_of_readEscape {u : Unit16} (h : readEscape s = some (u, rest)) :
  Stays s rest
  := by
  unfold readEscape at h
  split at h
  case h_9 more =>
    split at h
    case h_1 => cases h
    case h_2 high after hunit =>
      have hafter := (stays_cons (c := 'u') (by decide) more).trans (stays_of_readUnit hunit)
      split at h
      · cases h
        apply hafter
      · split at h
        · split at h
          case h_1 tail =>
            split at h
            case h_1 => cases h
            case h_2 low final hlow =>
              have hfinal := (stays_cons (c := '\\') (by decide) _).trans
                ((stays_cons (c := 'u') (by decide) _).trans (stays_of_readUnit hlow))
              split at h
              · cases h
                apply hafter.trans hfinal
              · cases h
                apply hafter
          case h_2 =>
            cases h
            apply hafter
        · cases h
          apply hafter
  case h_10 => cases h
  all_goals
    cases h
    apply stays_cons
    decide

theorem stays_of_readString {text : Option (List Char)} (h : readString s = some (text, rest)) :
  Stays s rest
  := by
  fun_induction readString s generalizing text rest
  case case1 => cases h
  case case2 =>
    cases h
    apply stays_cons
    decide
  case case3 => cases h
  case case4 u after hescape _ _ final hafter ih =>
    cases h
    apply (stays_cons (by decide) _).trans
    apply (stays_of_readEscape hescape).trans (ih hafter)
  case case5 => cases h
  case case6 => cases h
  case case7 c _ _ _ hshown _ final hafter ih =>
    cases h
    apply (stays_cons _ _).trans (ih hafter)
    rintro rfl
    apply hshown
    decide
  case case8 => cases h

/-- A string begins with a quote and has no line feed. -/
theorem passes_of_readString {text : Option (List Char)}
    (h : readString s = some (text, rest)) :
  Passes ('"' :: s) rest
  := by
  obtain ⟨used, rfl, hused⟩ := stays_of_readString h
  use '"' :: used, rfl
  apply isCalm_of_not_mem_feed
  · rw [List.mem_cons, not_or]
    use by decide
  · simp

/-! ### Numbers and words -/

theorem passes_of_readFraction {digits : List Char} (h : readFraction s = some (digits, rest)) :
  Passes s rest
  := by
  unfold readFraction at h
  split at h
  case h_1 more =>
    dsimp only at h
    split at h
    · cases h
    · cases h
      apply (passes_cons (by decide) more).trans (passes_dropWhile (by decide) more)
  case h_2 =>
    cases h
    apply Passes.refl

theorem passes_of_readExponent {exponent : Option Int}
    (h : readExponent s = some (exponent, rest)) :
  Passes s rest
  := by
  have hdigits : ∀ {sign : Int} {more : List Char},
      (if (more.takeWhile Char.isDigit).isEmpty then none
        else some (some (sign * (decimalValue (more.takeWhile Char.isDigit) : Int)),
          more.dropWhile Char.isDigit)) = some (exponent, rest) → Passes more rest := by
    intro sign more hmore
    split at hmore
    · cases hmore
    · cases hmore
      apply passes_dropWhile
      decide
  have htwo : ∀ {a b : Char} {more : List Char}, a ≠ '/' → b ≠ '/' → Passes more rest →
      Passes (a :: b :: more) rest := by
    intro a b more ha hb hmore
    apply (passes_cons ha _).trans
    apply (passes_cons hb _).trans hmore
  unfold readExponent at h
  dsimp only at h
  split at h
  case h_1 | h_2 | h_3 | h_4 =>
    apply htwo (by decide) (by decide) (hdigits h)
  case h_5 | h_6 =>
    apply (passes_cons (by decide) _).trans (hdigits h)
  case h_7 =>
    cases h
    apply Passes.refl

/-- The sign of a number, which may be left out. -/
theorem passes_sign (s : List Char) :
  Passes s (match s with
    | '-' :: more => (true, more)
    | more => (false, more) : Bool × List Char).2
  := by
  split
  case h_1 more => exact passes_cons (by decide) more
  case h_2 => exact Passes.refl s

theorem passes_of_readNumeral {n : Numeral} (h : readNumeral s = some (n, rest)) :
  Passes s rest
  := by
  have hwhole := (passes_sign s).trans (passes_dropWhile (by decide : Char.isDigit '/' = false) _)
  unfold readNumeral at h
  rw [ite_eq_iff] at h
  rcases h with ⟨-, h⟩ | ⟨-, h⟩
  · cases h
  · split at h
    case h_1 => cases h
    case h_2 fraction more hfraction =>
      split at h
      case h_1 => cases h
      case h_2 exponent last hexponent =>
        cases h
        apply (hwhole.trans (passes_of_readFraction hfraction)).trans
        apply passes_of_readExponent hexponent

theorem passes_of_afterWord? {word : List Char} (hword : '/' ∉ word)
    (h : afterWord? word s = some rest) :
  Passes s rest
  := ⟨word, eq_append_of_afterWord? h, isCalm_of_not_mem_slash hword⟩

/-! ### Values -/

theorem passes_of_readScalar {value : Json} (h : readScalar s = (value, rest))
    (hvalue : value.isWellFormed = true) :
  Passes s rest
  := by
  have hword : ∀ {word : List Char} {j : Json}, '/' ∉ word →
      ((afterWord? word s).map fun r => (j, r)).getD (.broken, []) = (value, rest) →
      Passes s rest := by
    intro word j hslash hread
    cases hafter : afterWord? word s with
    | none =>
      rw [hafter] at hread
      cases hread
      cases hvalue
    | some more =>
      rw [hafter] at hread
      cases hread
      apply passes_of_afterWord? hslash hafter
  unfold readScalar at h
  split at h
  case h_1 more =>
    split at h
    case h_1 hstring =>
      cases h
      apply passes_of_readString hstring
    case h_2 hstring =>
      cases h
      apply passes_of_readString hstring
    case h_3 =>
      cases h
      cases hvalue
  case h_2 | h_3 | h_4 => apply hword (by decide) h
  case h_5 =>
    split at h
    case h_1 hnumeral =>
      cases h
      apply passes_of_readNumeral hnumeral
    case h_2 =>
      cases h
      cases hvalue

theorem membersWellFormed_cons (key : Option (List Char)) (value : Json)
    (members : List (String × Json)) :
  membersWellFormed (member key value :: members)
    = (value.isWellFormed && membersWellFormed members)
  := by
  cases key <;> simp [member, membersWellFormed, isWellFormed]

/-- Whether readers of values, items and members take away parts in which no line begins with a
slash, as far as some fuel takes them. -/
structure PassReaders (fuel : Nat) : Prop where
  values : ∀ {s rest : List Char} {value : Json}, readValue fuel s = (value, rest) →
    value.isWellFormed = true → Passes s rest
  items : ∀ {s rest : List Char} {items : List Json}, readItems fuel s = (items, rest) →
    itemsWellFormed items = true → Passes s rest
  members : ∀ {s rest : List Char} {members : List (String × Json)},
    readMembers fuel s = (members, rest) → membersWellFormed members = true → Passes s rest

namespace PassReaders

variable {fuel : Nat} (h : PassReaders fuel)

include h

/-- A value is a list or a record, which is empty or has parts, or is a single one. -/
theorem of_readValue {value : Json} (hread : readValue (fuel + 1) s = (value, rest))
    (hvalue : value.isWellFormed = true) :
  Passes s rest
  := by
  rw [readValue] at hread
  split at hread
  case h_1 =>
    cases hread
    cases hvalue
  case h_2 more hskip =>
    have hopen := passes_of_skipSeparators hskip (by decide)
    split at hread
    case h_1 last hclose =>
      cases hread
      apply hopen.trans (passes_of_skipSeparators hclose (by decide))
    case h_2 =>
      cases hread
      apply hopen.trans (h.items rfl hvalue)
  case h_3 more hskip =>
    have hopen := passes_of_skipSeparators hskip (by decide)
    split at hread
    case h_1 last hclose =>
      cases hread
      apply hopen.trans (passes_of_skipSeparators hclose (by decide))
    case h_2 =>
      cases hread
      apply hopen.trans (h.members rfl hvalue)
  case h_4 =>
    apply (passes_skipSeparators s).trans
    apply passes_of_readScalar hread hvalue

/-- An item is followed by the end of the list, or by a comma and other items. -/
theorem of_readItems {items : List Json} (hread : readItems (fuel + 1) s = (items, rest))
    (hitems : itemsWellFormed items = true) :
  Passes s rest
  := by
  rw [readItems] at hread
  dsimp only at hread
  cases hitem : readValue fuel s with
  | mk item more =>
    rw [hitem] at hread
    dsimp only at hread
    split at hread
    case h_1 last hclose =>
      cases hread
      rw [itemsWellFormed, Bool.and_eq_true] at hitems
      apply (h.values hitem hitems.1).trans (passes_of_skipSeparators hclose (by decide))
    case h_2 next hcomma =>
      cases hread
      rw [itemsWellFormed, Bool.and_eq_true] at hitems
      apply (h.values hitem hitems.1).trans
      apply (passes_of_skipSeparators hcomma (by decide)).trans (h.items rfl hitems.2)
    case h_3 =>
      cases hread
      simp [itemsWellFormed, isWellFormed] at hitems

/-- A member is followed by the end of the record, or by a comma and other members. -/
theorem of_readMembers {members : List (String × Json)}
    (hread : readMembers (fuel + 1) s = (members, rest))
    (hmembers : membersWellFormed members = true) :
  Passes s rest
  := by
  rw [readMembers] at hread
  split at hread
  case h_1 named hquote =>
    split at hread
    case h_1 key after hkey =>
      have hname : Passes s after := by
        apply (passes_skipSeparators s).trans
        rw [hquote]
        apply passes_of_readString hkey
      split at hread
      case h_1 start hcolon =>
        have hstart := hname.trans (passes_of_skipSeparators hcolon (by decide))
        dsimp only at hread
        cases hvalue : readValue fuel start with
        | mk value more =>
          rw [hvalue] at hread
          dsimp only at hread
          split at hread
          case h_1 last hclose =>
            cases hread
            rw [membersWellFormed_cons, Bool.and_eq_true] at hmembers
            apply (hstart.trans (h.values hvalue hmembers.1)).trans
            apply passes_of_skipSeparators hclose (by decide)
          case h_2 next hcomma =>
            cases hread
            rw [membersWellFormed_cons, Bool.and_eq_true] at hmembers
            apply (hstart.trans (h.values hvalue hmembers.1)).trans
            apply (passes_of_skipSeparators hcomma (by decide)).trans (h.members rfl hmembers.2)
          case h_3 =>
            cases hread
            simp [membersWellFormed, isWellFormed] at hmembers
      case h_2 =>
        cases hread
        simp [membersWellFormed_cons, isWellFormed] at hmembers
    case h_2 =>
      cases hread
      cases hmembers
  case h_2 =>
    cases hread
    cases hmembers

end PassReaders

theorem passReaders (fuel : Nat) :
  PassReaders fuel
  := by
  induction fuel with
  | zero =>
    constructor
    · intro s rest value h hvalue
      cases h
      cases hvalue
    · intro s rest items h hitems
      cases h
      cases hitems
    · intro s rest members h hmembers
      cases h
      cases hmembers
  | succ fuel ih => exact ⟨ih.of_readValue, ih.of_readItems, ih.of_readMembers⟩

/-- No line of a text that is JSON begins with a slash. -/
theorem isCalm_of_read {value : Json} (h : read s = (value, true))
    (hvalue : value.isWellFormed = true) :
  IsCalm s
  := by
  rw [read] at h
  cases hread : readValue (s.length + 1) s with
  | mk j rest =>
    rw [hread] at h
    obtain ⟨rfl, hend⟩ := Prod.mk.inj h
    obtain ⟨used, hused, hcalm⟩ := ((passReaders _).values hread hvalue).trans
      (passes_skipSeparators rest)
    rw [List.isEmpty_iff.mp hend, List.append_nil] at hused
    rw [hused]
    apply hcalm

/-- No line of a calm text begins with a slash. -/
theorem head?_of_mem_pieces (h : IsCalm s) {line : List Char} (hline : line ∈ pieces '\n' s) :
  line.head? ≠ some '/'
  := by
  obtain ⟨first, others, hpieces⟩ := List.exists_cons_of_ne_nil (pieces_ne_nil '\n' s)
  rw [hpieces] at hline
  rcases List.mem_cons.mp hline with rfl | hline
  · have hfirst : line ∈ (pieces '\n' s).head? := by
      rw [hpieces]
      rfl
    apply head?_of_mem_head?_pieces _ hfirst
    intro v hs
    obtain ⟨w, c, hnil, -⟩ := h [] v hs
    simp at hnil
  · have htail : line ∈ (pieces '\n' s).tail := by
      rw [hpieces]
      apply hline
    apply head?_of_mem_tail_pieces _ htail
    intro u v hs
    obtain ⟨w, c, hw, hc⟩ := h (u ++ ['\n']) v (by rw [hs, List.append_assoc]; rfl)
    obtain ⟨-, hfeed⟩ := List.append_inj' hw rfl
    apply hc (List.singleton_inj.mp hfeed).symm

/-! ### Shapes -/

theorem itemsWellFormed_iff {items : List Json} :
  itemsWellFormed items = true ↔ ∀ j ∈ items, j.isWellFormed = true
  := by
  induction items with
  | nil => simp [itemsWellFormed]
  | cons j rest ih => simp [itemsWellFormed, ih]

theorem membersWellFormed_iff {members : List (String × Json)} :
  membersWellFormed members = true ↔ ∀ m ∈ members, m.2.isWellFormed = true
  := by
  induction members with
  | nil => simp [membersWellFormed]
  | cons m rest ih =>
    obtain ⟨key, j⟩ := m
    simp [membersWellFormed, ih]

theorem exists_of_fill {α : Type} {place : Option α} {value : Except Fault α} {filled : Option α}
    (h : fill place value = .ok filled) :
  ∃ a, value = .ok a
  := by
  unfold fill at h
  split at h
  · cases h
  · obtain ⟨a, ha, -⟩ := Result.map_eq_ok_iff.mp h
    use a, ha

theorem isWellFormed_of_asText {j : Json} {text : String} (h : j.asText = .ok text) :
  j.isWellFormed = true
  := by
  unfold asText at h
  split at h
  · rfl
  · cases h

theorem isWellFormed_of_asOptionalText {j : Json} {text : Option String}
    (h : j.asOptionalText = .ok text) :
  j.isWellFormed = true
  := by
  unfold asOptionalText at h
  split at h
  · rfl
  · obtain ⟨s, hs, -⟩ := Result.map_eq_ok_iff.mp h
    apply isWellFormed_of_asText hs

theorem isWellFormed_of_asInteger {j : Json} {least most n : Int}
    (h : j.asInteger least most = .ok n) :
  j.isWellFormed = true
  := by
  unfold asInteger at h
  split at h
  · rfl
  · cases h

theorem isWellFormed_of_asList {α : Type} {item : Json → Except Fault α} {j : Json} {as : List α}
    (hitem : ∀ {j a}, item j = .ok a → j.isWellFormed = true) (h : j.asList item = .ok as) :
  j.isWellFormed = true
  := by
  unfold asList at h
  split at h
  case h_1 items =>
    rw [isWellFormed, itemsWellFormed_iff]
    intro k hk
    obtain ⟨a, -, ha⟩ := Result.exists_of_mapM_of_mem h hk
    apply hitem ha
  case h_2 => cases h

theorem isWellFormed_of_skip {j : Json} {u : Unit} (h : j.skip = .ok u) :
  j.isWellFormed = true
  := by
  unfold skip at h
  split at h
  · cases h
  · split at h
    case isTrue hwell => apply hwell
    · cases h

/-- A record whose members are well-formed is. -/
theorem isWellFormed_of_asRecord {names : List String} {j : Json} {members : List (String × Json)}
    (h : j.asRecord names = .ok members) (hmembers : ∀ m ∈ members, m.2.isWellFormed = true) :
  j.isWellFormed = true
  := by
  unfold asRecord at h
  split at h
  case h_1 =>
    cases h
    rw [isWellFormed, membersWellFormed_iff]
    apply hmembers
  case h_2 items =>
    cases h
    -- an item too many would be a member that is not well-formed
    have hall : items.drop names.length = [] := by
      cases hdrop : items.drop names.length with
      | nil => rfl
      | cons k rest =>
        have hbroken : ("", Json.broken) ∈ names.zip items ++
            ((items.drop names.length).take 1).map fun _ => ("", Json.broken) := by
          simp [hdrop]
        cases hmembers _ hbroken
    have hlength : items.length ≤ names.length := List.drop_eq_nil_iff.mp hall
    rw [isWellFormed, itemsWellFormed_iff]
    intro k hk
    obtain ⟨i, hi, rfl⟩ := List.mem_iff_getElem.mp hk
    have hzip : (names[i], items[i]) ∈ names.zip items := by
      have hin : i < (names.zip items).length := by
        rw [List.length_zip]
        omega
      rw [← List.getElem_zip (h := hin)]
      apply List.getElem_mem
    apply hmembers (names[i], items[i]) (List.mem_append_left _ hzip)
  case h_3 => cases h

/-- No line of a text begins with a slash if it is decoded to a shape that wants all of it to be
well-formed. -/
theorem isCalm_of_decode {α : Type} {shape : Json → Except Fault α} {text : String} {a : α}
    (hshape : ∀ {j a}, shape j = .ok a → j.isWellFormed = true) (h : decode shape text = .ok a) :
  IsCalm text.toList
  := by
  unfold decode at h
  cases hread : read text.toList with
  | mk value atEnd =>
    rw [hread] at h
    dsimp only at h
    split at h
    case h_1 a' ha =>
      split at h
      case isTrue hend =>
        rw [hend] at hread
        apply isCalm_of_read hread (hshape ha)
      · cases h
    case h_2 => cases h

end LiveModels.Json
