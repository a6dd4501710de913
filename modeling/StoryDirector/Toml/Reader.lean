import StoryDirector.Toml.Scalar
import StoryDirector.Toml.Table
/-!
# StoryDirector.Toml.Reader

TOML documents to values. **A document is a list of lines, each with a heading, a named value, a
comment or nothing**; a named value goes into the table of the heading above it. `Toml.parse?`
refuses every document that does not follow the form or writes something twice, and does not say
why.
-/

namespace StoryDirector.Toml

/-- How deep lists, tables and names may be nested. -/
def depthLimit : Nat := 80

/-! ### Names -/

/-- Whether a character may stand in a name without quotation marks. -/
def isBare (c : Char) : Bool :=
  c.isAlphanum || c = '_' || c = '-'

/-- A name without dots. -/
def readName (s : List Char) : Read String :=
  match s with
  | '"' :: _ => readLine s
  | '\'' :: _ => readLine s
  | _ =>
    let found := s.takeWhile isBare
    if found.isEmpty then none else some (String.ofList found, s.dropWhile isBare)

/-- Names with dots between them. -/
def readNames : (fuel : Nat) → List Char → Read (List String)
  | 0, _ => none
  | fuel + 1, s =>
    match readName (skipBlank s) with
    | none => none
    | some (name, rest) =>
      match skipBlank rest with
      | '.' :: after => (readNames fuel after).map fun (names, left) => (name :: names, left)
      | left => some ([name], left)

/-- A path: the names on the way and the last name. -/
def readPath (s : List Char) : Read (List String × String) :=
  match readNames depthLimit s with
  | some (names, rest) =>
    match names.getLast? with
    | some last =>
      if names.length < depthLimit then some ((names.dropLast, last), rest) else none
    | none => none
  | none => none

/-! ### Values -/

/-- A value that is neither a list nor a table. -/
def readScalar (s : List Char) : Read Json :=
  match s with
  | 't' :: 'r' :: 'u' :: 'e' :: rest => some (.bool true, rest)
  | 'f' :: 'a' :: 'l' :: 's' :: 'e' :: rest => some (.bool false, rest)
  | '"' :: _ => (readString s).map fun (t, rest) => (.text t, rest)
  | '\'' :: _ => (readString s).map fun (t, rest) => (.text t, rest)
  | _ => if looksLikeDate s then readDateTime s else readNumber s

mutual

/-- A value at the front of a text, in which lists and tables go no deeper than allowed. -/
def readValue : (fuel depth : Nat) → List Char → Read Json
  | 0, _, _ => none
  | fuel + 1, depth, s =>
    match s with
    | '[' :: rest =>
      match depth with
      | 0 => none
      | depth + 1 => readItems fuel depth [] rest
    | '\x7b' :: rest =>
      match depth with
      | 0 => none
      | depth + 1 =>
        match skipBlank rest with
        | '\x7d' :: after => some (.object [], after)
        | _ => readFields fuel depth [] rest
    | _ => readScalar s

/-- The items of a list up to its end; a comma may stand after the last. -/
def readItems : (fuel depth : Nat) → (before : List Json) → List Char → Read Json
  | 0, _, _, _ => none
  | fuel + 1, depth, before, s =>
    match skipLines (s.length + 1) s with
    | ']' :: after => some (.array before.reverse, after)
    | t =>
      match readValue fuel depth t with
      | none => none
      | some (item, rest) =>
        match skipLines (rest.length + 1) rest with
        | ',' :: after => readItems fuel depth (item :: before) after
        | ']' :: after => some (.array (item :: before).reverse, after)
        | _ => none

/-- The named values of a table in one line, up to its end. -/
def readFields : (fuel depth : Nat) → (before : Entries) → List Char → Read Json
  | 0, _, _, _ => none
  | fuel + 1, depth, before, s =>
    match readPath s with
    | some ((path, name), '=' :: rest) =>
      match readValue fuel depth (skipBlank rest) with
      | none => none
      | some (value, rest) =>
        match before.assign path name value .heading with
        | none => none
        | some entries =>
          match skipBlank rest with
          | ',' :: after => readFields fuel depth entries after
          | '\x7d' :: after => some (Entries.json entries, after)
          | _ => none
    | _ => none

end

/-! ### Documents -/

/-- A document as far as it was read. -/
structure Draft where
  /-- All that was written. -/
  root : Entries := []
  /-- The path of the table to which named values go. -/
  place : List String := []

/-- Reads a named value. -/
def readAssignment (draft : Draft) (s : List Char) : Option (Draft × List Char) := do
  let ((path, name), rest) ← readPath s
  let rest ← expect? '=' rest
  let rest := skipBlank rest
  let (value, rest) ← readValue (rest.length + 1) (depthLimit - 1) rest
  let rest ← lineRest? rest
  let root ← draft.root.within false draft.place
    (fun _ entries => entries.assign path name value .heading) .heading
  some ({ draft with root }, rest)

/-- Reads a heading after its first bracket. -/
def readHeading (draft : Draft) (s : List Char) : Option (Draft × List Char) :=
  match s with
  | '[' :: rest => do
    let ((path, name), rest) ← readPath rest
    let rest ← expect? ']' rest
    let rest ← expect? ']' rest
    let rest ← lineRest? rest
    let root ← draft.root.appendTable path name
    some (⟨root, path ++ [name]⟩, rest)
  | _ => do
    let ((path, name), rest) ← readPath s
    let rest ← expect? ']' rest
    let rest ← lineRest? rest
    let root ← draft.root.openTable path name
    some (⟨root, path ++ [name]⟩, rest)

/-- Reads line after line. -/
def readLinesFrom : (fuel : Nat) → Draft → List Char → Option Draft
  | 0, _, _ => none
  | fuel + 1, draft, s =>
    match skipBlank s with
    | [] => some draft
    | '[' :: rest =>
      match readHeading draft rest with
      | some (draft, rest) => readLinesFrom fuel draft rest
      | none => none
    | c :: rest =>
      if c = '#' ∨ c = '\n' ∨ c = '\r' then
        match lineRest? (c :: rest) with
        | some rest => readLinesFrom fuel draft rest
        | none => none
      else
        match readAssignment draft (c :: rest) with
        | some (draft, rest) => readLinesFrom fuel draft rest
        | none => none

/-- The mark that may stand before a document. -/
def byteOrderMark : Char := Char.ofNat 0xFEFF

/-- The value that a document writes. -/
def parse? (s : String) : Option Json :=
  let chars := match s.toList with
    | c :: rest => if c = byteOrderMark then rest else c :: rest
    | [] => []
  (readLinesFrom (chars.length + 1) {} chars).map fun draft => draft.root.json

end StoryDirector.Toml
