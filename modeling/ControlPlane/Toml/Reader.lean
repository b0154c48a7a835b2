import ControlPlane.Toml.Quotation
import ControlPlane.Toml.Scalar

/-!
# Reading documents

A document is a list of lines: headers of tables, keys with values, comments and blank lines. Every
reader takes a bound on its steps, which the length of the text supplies.
-/

namespace ControlPlane.Toml

/-- The text without the blanks at its start. -/
def skipBlanks (text : List Char) : List Char :=
  text.dropWhile fun c => c == ' ' || c == '\t'

/-- The text behind a line end. -/
def lineEnd? : List Char → Option (List Char)
  | '\n' :: rest => some rest
  | '\r' :: '\n' :: rest => some rest
  | _ => none

/-- The text behind the rest of a line that holds nothing but blanks and a comment. -/
def endLine? (text : List Char) : Option (List Char) :=
  match skipBlanks text with
  | [] => some []
  | '#' :: comment =>
    match comment.dropWhile isPlain with
    | [] => some []
    | rest => lineEnd? rest
  | rest => lineEnd? rest

/-- Skips blanks, comments and line ends. -/
def skipGap : Nat → List Char → Option (List Char)
  | 0, _ => none
  | fuel + 1, text =>
    match skipBlanks text with
    | [] => some []
    | c :: rest =>
      if c = '#' ∨ c = '\n' ∨ c = '\r' then (endLine? (c :: rest)).bind (skipGap fuel)
      else some (c :: rest)

/-- The characters of a key without quotes. -/
def isKeyChar (c : Char) : Bool :=
  c.isAlphanum || c == '-' || c == '_'

/-- Reads one part of a key. -/
def readKeyPart (text : List Char) : Option (String × List Char) :=
  match readShort text with
  | some found => some found
  | none =>
    let (part, rest) := text.span isKeyChar
    if part.isEmpty then none else some (String.ofList part, rest)

/-- Reads a key of parts with dots between them, and the blanks behind it. -/
def readParts : Nat → List Char → Option (List String × List Char)
  | 0, _ => none
  | fuel + 1, text =>
    match readKeyPart (skipBlanks text) with
    | none => none
    | some (part, rest) =>
      match skipBlanks rest with
      | '.' :: rest => (readParts fuel rest).map fun (parts, rest) => (part :: parts, rest)
      | rest => some ([part], rest)

/-- Reads a key as the way to its table and its last part. -/
def readKey (text : List Char) : Option (List String × String × List Char) := do
  let (parts, rest) ← readParts (text.length + 1) text
  guard (parts.length < depthLimit)
  return (parts.dropLast, ← parts.getLast?, rest)

/-- Reads a key and the equals sign behind it. -/
def readAssignment (text : List Char) : Option (List String × String × List Char) := do
  let (path, key, rest) ← readKey text
  match rest with
  | '=' :: rest => return (path, key, skipBlanks rest)
  | _ => none

mutual

/-- Reads a value inside so many arrays and inline tables. -/
def readValue (depth : Nat) : Nat → List Char → Option (Value × List Char)
  | 0, _ => none
  | fuel + 1, text =>
    match text with
    | '[' :: rest =>
      if depth + 1 < depthLimit then readItems (depth + 1) fuel [] rest else none
    | '\x7b' :: rest =>
      if depth + 1 < depthLimit then
        match skipBlanks rest with
        | '\x7d' :: rest => some (.table [], rest)
        | rest => readEntries (depth + 1) fuel ⟨.header, []⟩ rest
      else none
    | _ =>
      match readQuotation text with
      | some (contents, rest) => some (.string contents, rest)
      | none => readScalar text

/-- Reads the items of an array up to its closing bracket; a comma may stand behind the last one. -/
def readItems (depth : Nat) : Nat → List Value → List Char → Option (Value × List Char)
  | 0, _, _ => none
  | fuel + 1, read, text =>
    match skipGap fuel text with
    | none => none
    | some (']' :: rest) => some (.array read.reverse, rest)
    | some text =>
      match readValue depth fuel text with
      | none => none
      | some (item, rest) =>
        match skipGap fuel rest with
        | some (',' :: rest) => readItems depth fuel (item :: read) rest
        | some (']' :: rest) => some (.array (item :: read).reverse, rest)
        | _ => none

/-- Reads the entries of an inline table up to its closing brace; no comma may stand behind the
last one. -/
def readEntries (depth : Nat) : Nat → Node.Open → List Char → Option (Value × List Char)
  | 0, _, _ => none
  | fuel + 1, read, text =>
    match readAssignment text with
    | none => none
    | some (path, key, rest) =>
      match readValue depth fuel rest with
      | none => none
      | some (item, rest) =>
        match Node.define path key item read, skipBlanks rest with
        | some read, ',' :: rest => readEntries depth fuel read rest
        | some read, '\x7d' :: rest => some (.table (Node.finishEntries read.entries), rest)
        | _, _ => none

end

/-- A document that is being read: its tables, and the way to the table of the latest header. -/
structure Draft where
  root : Node.Open := ⟨.header, []⟩
  header : List String := []

/-- Reads a header up to the marks that close it, and the rest of its line. -/
def readHeader (close : List Char) (text : List Char) :
    Option (List String × String × List Char) := do
  let (path, key, rest) ← readKey text
  guard (close.isPrefixOf rest)
  return (path, key, ← endLine? (rest.drop close.length))

/-- Reads one line that is neither blank nor a comment. -/
def readLineInto (draft : Draft) (text : List Char) : Option (Draft × List Char) :=
  match text with
  | '[' :: '[' :: rest => do
    let (path, key, rest) ← readHeader [']', ']'] rest
    return ({ root := ← Node.openItem path key draft.root, header := path ++ [key] }, rest)
  | '[' :: rest => do
    let (path, key, rest) ← readHeader [']'] rest
    return ({ root := ← Node.openTable path key draft.root, header := path ++ [key] }, rest)
  | _ => do
    let (path, key, rest) ← readAssignment text
    let (item, rest) ← readValue 0 (2 * rest.length + 2) rest
    let root ← Node.alter false (Node.define path key item) draft.header draft.root
    return ({ draft with root }, ← endLine? rest)

/-- Reads lines up to the end of the text. -/
def readDocument : Nat → Draft → List Char → Option Draft
  | 0, _, _ => none
  | fuel + 1, draft, text =>
    match skipGap (text.length + 1) text with
    | none => none
    | some [] => some draft
    | some text => (readLineInto draft text).bind fun (draft, rest) => readDocument fuel draft rest

/-- The entries of a document, which may begin with a byte order mark. -/
def parse? (text : String) : Option (List (String × Value)) :=
  let chars :=
    match text.toList with
    | '\ufeff' :: rest => rest
    | chars => chars
  (readDocument (chars.length + 1) {} chars).map fun draft => Node.finishEntries draft.root.entries

end ControlPlane.Toml
