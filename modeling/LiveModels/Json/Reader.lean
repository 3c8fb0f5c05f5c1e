import LiveModels.Json.Numeral
import LiveModels.Text.Affix

/-!
# Reading JSON

`Json.read` turns any text into a tree. The tree of a text that is not JSON holds `Json.broken`
where the first fault of syntax is, and nothing after it.
-/

namespace LiveModels.Json

open Text

/-- Whether a character separates the tokens of a JSON text. -/
def isSeparator (c : Char) : Bool :=
  c == ' ' || c == '\n' || c == '\t' || c == '\r'

/-- The text from its next token. -/
def skipSeparators (s : List Char) : List Char :=
  s.dropWhile isSeparator

/-! ### Strings -/

/-- What one step inside quotes reads: a character, or half of a surrogate pair without the other
half. -/
inductive Unit16
  | character (c : Char)
  | unpaired

/-- The code unit that four hexadecimal digits write. -/
def readUnit : List Char → Option (Nat × List Char)
  | a :: b :: c :: d :: rest =>
    match hexFrom 0xffff 0 [a, b, c, d] with
    | some n => some (n, rest)
    | none => none
  | _ => none

/-- Reads the escape whose backslash has been read: one of the short escapes, or a code point given
by one code unit or by a pair of surrogates. -/
def readEscape : List Char → Option (Unit16 × List Char)
  | '"' :: rest => some (.character '"', rest)
  | '\\' :: rest => some (.character '\\', rest)
  | '/' :: rest => some (.character '/', rest)
  | 'b' :: rest => some (.character '\x08', rest)
  | 'f' :: rest => some (.character '\x0c', rest)
  | 'n' :: rest => some (.character '\n', rest)
  | 'r' :: rest => some (.character '\r', rest)
  | 't' :: rest => some (.character '\t', rest)
  | 'u' :: rest =>
    match readUnit rest with
    | none => none
    | some (high, rest) =>
      if 0xdc00 ≤ high ∧ high < 0xe000 then some (.unpaired, rest)
      else if 0xd800 ≤ high ∧ high < 0xdc00 then
        match rest with
        | '\\' :: 'u' :: more =>
          match readUnit more with
          | none => none
          | some (low, after) =>
            if 0xdc00 ≤ low ∧ low < 0xe000 then
              some (.character (Char.ofNat (0x10000 + (high - 0xd800) * 0x400 + (low - 0xdc00))),
                after)
            else some (.unpaired, rest)
        | _ => some (.unpaired, rest)
      else some (.character (Char.ofNat high), rest)
  | _ => none

theorem readUnit_length {s rest : List Char} {n : Nat} (h : readUnit s = some (n, rest)) :
  rest.length < s.length
  := by
  unfold readUnit at h
  split at h
  · split at h
    · simp only [Option.some.injEq, Prod.mk.injEq] at h
      rw [← h.2]
      simp only [List.length_cons]
      omega
    · simp at h
  · simp at h

theorem readEscape_length {s rest : List Char} {u : Unit16} (h : readEscape s = some (u, rest)) :
  rest.length < s.length
  := by
  unfold readEscape at h
  split at h
  all_goals try (simp only [Option.some.injEq, Prod.mk.injEq, reduceCtorEq] at h)
  all_goals try (obtain ⟨-, rfl⟩ := h; simp only [List.length_cons]; omega)
  split at h
  · simp at h
  · rename_i high after hunit
    have hlen := readUnit_length hunit
    split at h
    · simp only [Option.some.injEq, Prod.mk.injEq] at h
      rw [← h.2]
      simp only [List.length_cons]
      omega
    · split at h
      · split at h
        · split at h
          · simp at h
          · rename_i hunit'
            have hlen' := readUnit_length hunit'
            simp only [List.length_cons] at hlen hlen'
            split at h <;>
            · simp only [Option.some.injEq, Prod.mk.injEq] at h
              rw [← h.2]
              simp only [List.length_cons]
              omega
        · simp only [Option.some.injEq, Prod.mk.injEq] at h
          rw [← h.2]
          simp only [List.length_cons]
          omega
      · simp only [Option.some.injEq, Prod.mk.injEq] at h
        rw [← h.2]
        simp only [List.length_cons]
        omega

/-- Adds what one step has read to the text after it, which has no value if the step found an
unpaired surrogate. -/
def Unit16.prepend : Unit16 → Option (List Char) → Option (List Char)
  | .character c, some text => some (c :: text)
  | _, _ => none

/-- Reads a string after its opening quote: the text, if it has a value, and what follows the
closing quote. There is no result if the string does not end, holds a control character or an
unknown escape. -/
def readString (s : List Char) : Option (Option (List Char) × List Char) :=
  match s with
  | [] => none
  | '"' :: rest => some (some [], rest)
  | '\\' :: rest =>
    match h : readEscape rest with
    | none => none
    | some (u, after) =>
      have := readEscape_length h
      match readString after with
      | some (text, last) => some (u.prepend text, last)
      | none => none
  | c :: rest =>
    if c.toNat < 0x20 then none
    else match readString rest with
      | some (text, last) => some ((Unit16.character c).prepend text, last)
      | none => none
  termination_by s.length
  decreasing_by all_goals simp_wf; try omega

/-! ### Values -/

/-- Reads a value that is neither an array nor an object. -/
def readScalar (s : List Char) : Json × List Char :=
  match s with
  | '"' :: rest =>
    match readString rest with
    | some (some text, last) => (.string (String.ofList text), last)
    | some (none, last) => (.invalid, last)
    | none => (.broken, [])
  | 't' :: _ => ((afterWord? "true".toList s).map fun r => (Json.bool true, r)).getD (.broken, [])
  | 'f' :: _ => ((afterWord? "false".toList s).map fun r => (Json.bool false, r)).getD (.broken, [])
  | 'n' :: _ => ((afterWord? "null".toList s).map fun r => (Json.null, r)).getD (.broken, [])
  | _ =>
    match readNumeral s with
    | some (n, last) => (n.value, last)
    | none => (.broken, [])

/-- A member with a key that has been read, which may be one without a value. -/
def member (key : Option (List Char)) (value : Json) : String × Json :=
  match key with
  | some name => (String.ofList name, value)
  | none => ("", .unnamed value)

mutual

/-- Reads a value from the next token; `fuel` bounds the number of steps. -/
def readValue : Nat → List Char → Json × List Char
  | 0, _ => (.broken, [])
  | fuel + 1, s =>
    match skipSeparators s with
    | [] => (.broken, [])
    | '[' :: rest =>
      match skipSeparators rest with
      | ']' :: last => (.array [], last)
      | _ =>
        let (items, last) := readItems fuel rest
        (.array items, last)
    | '{' :: rest =>
      match skipSeparators rest with
      | '}' :: last => (.object [], last)
      | _ =>
        let (members, last) := readMembers fuel rest
        (.object members, last)
    | tokens => readScalar tokens

/-- Reads the items of an array up to its closing bracket. -/
def readItems : Nat → List Char → List Json × List Char
  | 0, _ => ([.broken], [])
  | fuel + 1, s =>
    let (item, rest) := readValue fuel s
    match skipSeparators rest with
    | ']' :: last => ([item], last)
    | ',' :: more =>
      let (items, last) := readItems fuel more
      (item :: items, last)
    | _ => ([item, .broken], [])

/-- Reads the members of an object up to its closing brace. -/
def readMembers : Nat → List Char → List (String × Json) × List Char
  | 0, _ => ([("", .broken)], [])
  | fuel + 1, s =>
    match skipSeparators s with
    | '"' :: rest =>
      match readString rest with
      | some (key, rest) =>
        match skipSeparators rest with
        | ':' :: rest =>
          let (value, rest) := readValue fuel rest
          match skipSeparators rest with
          | '}' :: last => ([member key value], last)
          | ',' :: more =>
            let (members, last) := readMembers fuel more
            (member key value :: members, last)
          | _ => ([member key value, ("", .broken)], [])
        | _ => ([member key .broken], [])
      | none => ([("", .broken)], [])
    | _ => ([("", .broken)], [])

end

/-- The tree of a text, and whether nothing but separators follows it. -/
def read (s : List Char) : Json × Bool :=
  let (value, rest) := readValue (s.length + 1) s
  (value, (skipSeparators rest).isEmpty)

end LiveModels.Json
