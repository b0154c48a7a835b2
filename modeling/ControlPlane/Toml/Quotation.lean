import ControlPlane.Number.Numeral

/-!
# Quotations

Strings stand between single or double quotes, on one line or, with the quotes tripled, on many.
Escapes have a meaning between double quotes only.
-/

namespace ControlPlane.Toml

/-- Whether a character may stand in a quotation or in a comment: a tab, or no control character. -/
def isPlain (c : Char) : Bool :=
  c == '\t' || (0x20 ≤ c.val && c.val != 0x7f)

/-- The character with a code point that is not a surrogate. -/
def scalarChar? (digits : List Char) : Option Char := do
  let values ← digits.mapM Number.hexDigit?
  let code := values.foldl (fun code value => code * 16 + value) 0
  if h : code.isValidChar then some (Char.ofNatAux code h) else none

/-- Reads the escape behind a backslash. -/
def readEscape : List Char → Option (Char × List Char)
  | 'b' :: rest => some ('\x08', rest)
  | 't' :: rest => some ('\t', rest)
  | 'n' :: rest => some ('\n', rest)
  | 'f' :: rest => some ('\x0c', rest)
  | 'r' :: rest => some ('\r', rest)
  | '"' :: rest => some ('"', rest)
  | '\\' :: rest => some ('\\', rest)
  | 'u' :: rest =>
    if rest.length < 4 then none else (scalarChar? (rest.take 4)).map (·, rest.drop 4)
  | 'U' :: rest =>
    if rest.length < 8 then none else (scalarChar? (rest.take 8)).map (·, rest.drop 8)
  | _ => none

/-- Skips the blanks and the line ends behind a backslash at the end of a line, which there has to
be at least one of. -/
def skipFold (text : List Char) : Option (List Char) :=
  match text.dropWhile fun c => c == ' ' || c == '\t' with
  | '\n' :: rest => some (skipBlank rest.length rest)
  | '\r' :: '\n' :: rest => some (skipBlank rest.length rest)
  | _ => none
where
  /-- Skips blanks and line ends. -/
  skipBlank : Nat → List Char → List Char
    | fuel + 1, ' ' :: rest => skipBlank fuel rest
    | fuel + 1, '\t' :: rest => skipBlank fuel rest
    | fuel + 1, '\n' :: rest => skipBlank fuel rest
    | fuel + 1, '\r' :: '\n' :: rest => skipBlank fuel rest
    | _, rest => rest

/-- Reads a one-line quotation behind its opening quote, with what is already read in reverse. -/
def readLine (quote : Char) (escapes : Bool) :
    Nat → List Char → List Char → Option (String × List Char)
  | 0, _, _ => none
  | _ + 1, _, [] => none
  | fuel + 1, read, c :: rest =>
    if c = quote then some (String.ofList read.reverse, rest)
    else if c = '\\' ∧ escapes then
      match readEscape rest with
      | some (escaped, rest) => readLine quote escapes fuel (escaped :: read) rest
      | none => none
    else if isPlain c then readLine quote escapes fuel (c :: read) rest
    else none

/-- Reads a quotation of many lines behind its opening quotes. Up to two quotes may stand inside it,
also just before the closing ones. -/
def readLines (quote : Char) (escapes : Bool) :
    Nat → List Char → List Char → Option (String × List Char)
  | 0, _, _ => none
  | _ + 1, _, [] => none
  | fuel + 1, read, c :: rest =>
    if c = quote then
      let more := (rest.takeWhile (· == quote)).length
      if more < 2 then readLines quote escapes fuel (c :: read) rest
      else
        let inner := min (more - 2) 2
        some (String.ofList (List.replicate inner quote ++ read).reverse, rest.drop (inner + 2))
    else if c = '\\' ∧ escapes then
      match skipFold rest with
      | some rest => readLines quote escapes fuel read rest
      | none =>
        match readEscape rest with
        | some (escaped, rest) => readLines quote escapes fuel (escaped :: read) rest
        | none => none
    else if c = '\n' then readLines quote escapes fuel (c :: read) rest
    else if c = '\r' then
      match rest with
      | '\n' :: rest => readLines quote escapes fuel ('\n' :: read) rest
      | _ => none
    else if isPlain c then readLines quote escapes fuel (c :: read) rest
    else none

/-- A line end just behind the opening quotes of many lines does not count. -/
def dropFirstLineEnd : List Char → List Char
  | '\n' :: rest => rest
  | '\r' :: '\n' :: rest => rest
  | text => text

/-- Reads a quotation of one line. -/
def readShort : List Char → Option (String × List Char)
  | '"' :: rest => readLine '"' true (rest.length + 1) [] rest
  | '\x27' :: rest => readLine '\x27' false (rest.length + 1) [] rest
  | _ => none

/-- Reads a quotation of one line or of many. -/
def readQuotation : List Char → Option (String × List Char)
  | '"' :: '"' :: '"' :: rest => readLines '"' true (rest.length + 1) [] (dropFirstLineEnd rest)
  | '\x27' :: '\x27' :: '\x27' :: rest =>
    readLines '\x27' false (rest.length + 1) [] (dropFirstLineEnd rest)
  | text => readShort text

end ControlPlane.Toml
