import AccessPolicy.Toml.Item
import AccessPolicy.Toml.Scalar

/-!
# Reading TOML

A reader of TOML texts. A text is a list of statements, one a line: the header of a table, the
header of an element of an array of tables, or a key with its value. `statement` reads one of them,
and `fields?` builds the tables that the statements of a whole text describe.

Each step of the reader takes at least one character off the text, so the length of the text bounds
their number; that bound is the first argument of the functions that recur.
-/

namespace AccessPolicy.Toml

/-! ## Blanks, comments and ends of lines -/

/-- A blank within a line. -/
def isSpace (c : Char) : Bool :=
  c = ' ' || c = '\t'

/-- The text without the blanks it starts with. -/
def skipSpace (cs : List Char) : List Char :=
  cs.dropWhile isSpace

/-- A character that may stand in a comment or in a string. -/
def isTextChar (c : Char) : Bool :=
  c = '\t' || (0x20 ≤ c.toNat && c.toNat ≠ 0x7F)

/-- The text behind the end of a line at its front. -/
def endOfLine? : List Char → Option (List Char)
  | [] => some []
  | '\n' :: cs => some cs
  | '\r' :: '\n' :: cs => some cs
  | _ => none

/-- The text behind the rest of a line, which holds nothing more than a comment. -/
def restOfLine? (cs : List Char) : Option (List Char) :=
  match skipSpace cs with
  | '#' :: cs => endOfLine? (cs.dropWhile isTextChar)
  | cs => endOfLine? cs

/-- The text without the blanks, comments and ends of lines it starts with; none if a comment holds
something that it may not hold. -/
def skipLines (inComment : Bool) : List Char → Option (List Char)
  | [] => some []
  | '\n' :: cs => skipLines false cs
  | '\r' :: '\n' :: cs => skipLines false cs
  | c :: cs =>
    if inComment then (if isTextChar c then skipLines true cs else none)
    else if isSpace c then skipLines false cs
    else if c = '#' then skipLines true cs
    else some (c :: cs)

/-! ## Strings -/

/-- The characters that a string ends with before its closing quotes, and the text behind these, if
the string is closed at the front of a text. A string over several lines is closed by three quotes,
before which it may end in up to two quotes of its own. -/
def closing? (quote : Char) (multi : Bool) (cs : List Char) : Option (List Char × List Char) :=
  if multi then
    let n := min 5 (cs.takeWhile (· = quote)).length
    if n < 3 then none else some (List.replicate (n - 3) quote, cs.drop n)
  else
    match cs with
    | c :: rest => if c = quote then some ([], rest) else none
    | [] => none

/-- The character with the code point that hexadecimal digits denote, if it is one. -/
def charOfHex? (ds : List Char) : Option Char :=
  if ds.all (isDigitIn 16) then
    let n := valueIn 16 ds
    if n < 0xD800 ∨ (0xE000 ≤ n ∧ n < 0x110000) then some (Char.ofNat n) else none
  else none

/-- The character of exactly `width` hexadecimal digits at the front of a text, and the rest. -/
def hexChar? (width : Nat) (cs : List Char) : Option (List Char × List Char) :=
  if (cs.take width).length = width then
    (charOfHex? (cs.take width)).map fun c => ([c], cs.drop width)
  else none

/-- The character behind a backslash that stands for another one. -/
def unescaped? (c : Char) : Option Char :=
  match c with
  | 'b' => some '\x08'
  | 't' => some '\t'
  | 'n' => some '\n'
  | 'f' => some '\x0c'
  | 'r' => some '\r'
  | 'e' => some '\x1b'
  | '"' => some '"'
  | '\\' => some '\\'
  | _ => none

/-- The blanks and ends of lines that a text starts with, taken off. -/
def skipBlankLines : List Char → List Char
  | '\n' :: cs => skipBlankLines cs
  | '\r' :: '\n' :: cs => skipBlankLines cs
  | c :: cs => if isSpace c then skipBlankLines cs else c :: cs
  | [] => []

/-- The text behind a backslash that ends a line, and behind the blanks and empty lines after it. -/
def continued? (cs : List Char) : Option (List Char) :=
  match skipSpace cs with
  | '\n' :: rest => some (skipBlankLines rest)
  | '\r' :: '\n' :: rest => some (skipBlankLines rest)
  | _ => none

/-- The characters that the text behind a backslash stands for, and the rest. -/
def escape? (multi : Bool) : List Char → Option (List Char × List Char)
  | [] => none
  | 'x' :: cs => hexChar? 2 cs
  | 'u' :: cs => hexChar? 4 cs
  | 'U' :: cs => hexChar? 8 cs
  | c :: cs =>
    match unescaped? c with
    | some d => some ([d], cs)
    | none => if multi then (continued? (c :: cs)).map fun rest => ([], rest) else none

/-- The characters of a string up to its closing quotes, and the text behind them. Between double
quotes a backslash stands for something else. `seen` holds the characters so far, last one first. -/
def stringChars (quote : Char) (multi : Bool) :
    (bound : Nat) → (seen : List Char) → List Char → Option (List Char × List Char)
  | 0, _, _ => none
  | _ + 1, _, [] => none
  | bound + 1, seen, c :: cs =>
    match closing? quote multi (c :: cs) with
    | some (extra, rest) => some (seen.reverse ++ extra, rest)
    | none =>
      if quote = '"' ∧ c = '\\' then
        match escape? multi cs with
        | some (ds, rest) => stringChars quote multi bound (ds ++ seen) rest
        | none => none
      else if isTextChar c then stringChars quote multi bound (c :: seen) cs
      else
        match multi, c :: cs with
        | true, '\n' :: rest => stringChars quote multi bound ('\n' :: seen) rest
        | true, '\r' :: '\n' :: rest => stringChars quote multi bound ('\n' :: '\r' :: seen) rest
        | _, _ => none

/-- The text behind an end of line right behind opening quotes, which does not count. -/
def skipFirstEnd : List Char → List Char
  | '\n' :: cs => cs
  | '\r' :: '\n' :: cs => cs
  | cs => cs

/-- The string behind its first quote, and the rest. -/
def string? (quote : Char) (cs : List Char) : Option (String × List Char) :=
  let read :=
    match cs with
    | q :: r :: rest =>
      if q = quote ∧ r = quote then
        stringChars quote true (rest.length + 1) [] (skipFirstEnd rest)
      else stringChars quote false (cs.length + 1) [] cs
    | _ => stringChars quote false (cs.length + 1) [] cs
  read.map fun p => (String.ofList p.1, p.2)

/-! ## Keys -/

/-- A character of a key without quotes. -/
def isKeyChar (c : Char) : Bool :=
  c.isAlphanum || c = '_' || c = '-'

/-- A string on one line behind its quote, and the rest. -/
def quotedKey? (quote : Char) (cs : List Char) : Option (String × List Char) :=
  (stringChars quote false (cs.length + 1) [] cs).map fun p => (String.ofList p.1, p.2)

/-- One part of a key, and the rest. -/
def keyPart? : List Char → Option (String × List Char)
  | [] => none
  | c :: cs =>
    if c = '"' ∨ c = '\x27' then quotedKey? c cs
    else
      let name := (c :: cs).takeWhile isKeyChar
      if name = [] then none else some (String.ofList name, (c :: cs).dropWhile isKeyChar)

/-- The number of parts that a key may have. -/
def maxParts : Nat := 80

/-- The parts of a key between dots, and the rest without the blanks it starts with. There are at
most `bound` of them. -/
def keyPath : (bound : Nat) → List Char → Option (List String × List Char)
  | 0, _ => none
  | bound + 1, cs =>
    match keyPart? cs with
    | none => none
    | some (k, rest) =>
      match skipSpace rest with
      | '.' :: rest => (keyPath bound (skipSpace rest)).map fun p => (k :: p.1, p.2)
      | rest => some ([k], rest)

/-- A key, the equals sign behind it, and the blanks around that; and the rest. -/
def keyAndSign? (cs : List Char) : Option (List String × List Char) :=
  match keyPath maxParts cs with
  | some (path, '=' :: rest) => some (path, skipSpace rest)
  | _ => none

/-- A key of an inline table and the equals sign behind it, with the blanks, comments and ends of
lines around that; and the rest. -/
def inlineKeyAndSign? (cs : List Char) : Option (List String × List Char) := do
  let (path, rest) ← keyPath maxParts cs
  match ← skipLines false rest with
  | '=' :: rest => return (path, ← skipLines false rest)
  | _ => none

/-! ## Values -/

/-- How deep arrays and inline tables may nest. -/
def maxDepth : Nat := 80

mutual

/-- Reads a value off the front of a text, which has no blanks in front. -/
def value : (bound depth : Nat) → List Char → Option (Json × List Char)
  | 0, _, _ => none
  | bound + 1, depth, cs =>
    match cs with
    | '"' :: rest => (string? '"' rest).map fun p => (.str p.1, p.2)
    | '\x27' :: rest => (string? '\x27' rest).map fun p => (.str p.1, p.2)
    | '[' :: rest =>
      match depth with
      | 0 => none
      | depth + 1 => (items bound depth [] rest).map fun p => (.arr p.1, p.2)
    | '\x7b' :: rest =>
      match depth with
      | 0 => none
      | depth + 1 =>
        match pairs bound depth [] rest with
        | some (ps, rest) => (inlineTable? ps).map fun v => (v, rest)
        | none => none
    | _ =>
      let (token, rest) := splitScalar cs
      (scalar? token).map fun v => (v, rest)

/-- Reads the values of an array up to its closing bracket. `seen` holds the values so far, last one
first. -/
def items : (bound depth : Nat) → List Json → List Char → Option (List Json × List Char)
  | 0, _, _, _ => none
  | bound + 1, depth, seen, cs =>
    match skipLines false cs with
    | none => none
    | some (']' :: rest) => some (seen.reverse, rest)
    | some cs =>
      match value bound depth cs with
      | none => none
      | some (v, rest) =>
        match skipLines false rest with
        | some (',' :: rest) => items bound depth (v :: seen) rest
        | some (']' :: rest) => some ((v :: seen).reverse, rest)
        | _ => none

/-- Reads the pairs of an inline table up to its closing brace. `seen` holds the pairs so far, last
one first. -/
def pairs : (bound depth : Nat) → List (List String × Json) → List Char →
    Option (List (List String × Json) × List Char)
  | 0, _, _, _ => none
  | bound + 1, depth, seen, cs =>
    match skipLines false cs with
    | none => none
    | some ('\x7d' :: rest) => some (seen.reverse, rest)
    | some cs =>
      match inlineKeyAndSign? cs with
      | none => none
      | some (path, rest) =>
        match value bound depth rest with
        | none => none
        | some (v, rest) =>
          let seen := (path, v) :: seen
          match skipLines false rest with
          | some (',' :: rest) => pairs bound depth seen rest
          | some ('\x7d' :: rest) => some (seen.reverse, rest)
          | _ => none

end

/-! ## Statements -/

/-- A line of a text. -/
inductive Statement where
  | table (path : List String)
  | element (path : List String)
  | pair (path : List String) (v : Json)

/-- The key of a header behind its opening brackets. -/
def headerKey? (cs : List Char) : Option (List String × List Char) :=
  keyPath maxParts (skipSpace cs)

/-- Reads a statement off the front of a text, which has no blanks in front. -/
def statement? (cs : List Char) : Option (Statement × List Char) :=
  match cs with
  | '[' :: '[' :: rest =>
    match headerKey? rest with
    | some (path, ']' :: ']' :: rest) => some (.element path, rest)
    | _ => none
  | '[' :: rest =>
    match headerKey? rest with
    | some (path, ']' :: rest) => some (.table path, rest)
    | _ => none
  | _ =>
    match keyAndSign? cs with
    | none => none
    | some (path, rest) =>
      (value (2 * rest.length + 1) maxDepth rest).map fun p => (.pair path p.1, p.2)

/-- The statements of a text. -/
def statements : (bound : Nat) → List Char → Option (List Statement)
  | 0, _ => none
  | bound + 1, cs =>
    match skipLines false cs with
    | none => none
    | some [] => some []
    | some cs =>
      match statement? cs with
      | none => none
      | some (s, rest) =>
        match restOfLine? rest with
        | none => none
        | some rest => (statements bound rest).map (s :: ·)

/-- The tables so far, and the path of the table that keys are added to. -/
structure State where
  path : List String
  items : Items

/-- The tables after one more statement; none if it clashes with those before it. -/
def State.add? (s : State) : Statement → Option State
  | .table path => (s.items.addHeader? false path).map (⟨path, ·⟩)
  | .element path => (s.items.addHeader? true path).map (⟨path, ·⟩)
  | .pair path v => (s.items.change? false (Items.addPair? path v) s.path).map (⟨s.path, ·⟩)

/-- The text without the byte order mark that it may start with. -/
def skipMark : List Char → List Char
  | c :: cs => if c.toNat = 0xFEFF then cs else c :: cs
  | [] => []

/-- The fields of the table that a text describes; none if it is not a TOML text. -/
def fields? (s : String) : Option Json.Fields := do
  let cs := skipMark s.toList
  let lines ← statements (cs.length + 1) cs
  let state ← lines.foldlM State.add? ⟨[], []⟩
  return fieldsOf state.items

end AccessPolicy.Toml
