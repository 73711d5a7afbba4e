import AccessPolicy.Decimal.Integer
import AccessPolicy.Pattern.CaseFold
import AccessPolicy.Pattern.Regex
import AccessPolicy.Text.Alphanumeric
import AccessPolicy.Text.Character

/-!
# Reading regular expressions

The reader of the written form of regular expressions. It has the usual operators, groups with or
without names and flags, classes with ranges, nested classes and set operators, and escapes; it has
no look-around and no references to groups. What it cannot read is no expression (`Regex.ofChars?`).

The reader is a `Step`: a state with the rest of the text, which may fail. Every call of the
recursive steps is made behind at least one character, so the length of the text bounds how deep
they go.
-/

namespace AccessPolicy.Pattern

open Text (isBlank Ranges)

/-- The flags in force at a place in an expression. -/
structure Flags where
  ignoreCase : Bool := false
  multiLine : Bool := false
  dotAll : Bool := false
  unicode : Bool := true
  /-- Blanks and comments in the expression do not count. -/
  spaced : Bool := false
  /-- Lines may end in a carriage return. -/
  crlf : Bool := false
  /-- Repetitions prefer fewer copies, and more of them with a question mark behind. -/
  swapGreed : Bool := false

/-- The state of the reader. -/
structure Cursor where
  flags : Flags
  /-- The number of groups so far, and the names of those that have one. -/
  groups : Nat
  names : List (List Char)
  rest : List Char

/-- A step of the reader. -/
abbrev Step := StateT Cursor Option

/-- How deep an expression may nest. -/
def nestLimit : Nat := 250

/-- An expression that has been read, with its depth. -/
structure Parsed where
  regex : Regex
  depth : Nat
  /-- Whether a repetition may follow; it may not follow a mere setting of flags. -/
  repeatable : Bool := true

namespace Step

/-- The step that fails. -/
def fail {α : Type} : Step α :=
  fun _ => none

/-- The flags in force. -/
def flags : Step Flags := do
  return (← get).flags

/-- Brings other flags into force. -/
def setFlags (f : Flags) : Step Unit :=
  modify fun c => { c with flags := f }

/-- The rest of the text. -/
def rest : Step (List Char) := do
  return (← get).rest

/-- Goes on with another text. -/
def goto (cs : List Char) : Step Unit :=
  modify fun c => { c with rest := cs }

/-- The text behind the blanks and comments it starts with. A comment runs from a number sign to the
end of the line. -/
def skipSpaced (comment : Bool) : List Char → List Char
  | [] => []
  | c :: cs =>
    if comment then skipSpaced (c ≠ '\n') cs
    else if isBlank c then skipSpaced false cs
    else if c = '#' then skipSpaced true cs
    else c :: cs

/-- Skips what does not count. -/
def space : Step Unit :=
  modify fun c => if c.flags.spaced then { c with rest := skipSpaced false c.rest } else c

/-- The next character, which is not taken. -/
def peek? : Step (Option Char) := do
  return (← get).rest.head?

/-- The next character, which is not taken; fails at the end. -/
def peek : Step Char := do
  match (← get).rest with
  | [] => fail
  | c :: _ => return c

/-- Takes one character. -/
def bump : Step Unit :=
  modify fun c => { c with rest := c.rest.drop 1 }

/-- Takes one character, and skips what does not count behind it. -/
def bumpSpace : Step Unit := do
  bump
  space

/-- Takes a text if it is the next one, and says whether it was. -/
def take? (text : List Char) : Step Bool := do
  let cs ← rest
  if text.isPrefixOf cs then
    goto (cs.drop text.length)
    return true
  else return false

/-- Fails unless the condition holds. -/
def require (b : Bool) : Step Unit :=
  if b then pure () else fail

/-- The characters of a class that a text starts with, and what is left. Behind each of them, if
`spaced`, what does not count is skipped: `skipping` says that this may happen at the place at hand,
and `comment` that it is within a comment. -/
def spanSpaced (p : Char → Bool) (spaced : Bool) :
    (skipping comment : Bool) → List Char → List Char × List Char
  | _, _, [] => ([], [])
  | skipping, comment, c :: cs =>
    if comment then spanSpaced p spaced skipping (c ≠ '\n') cs
    else if skipping && isBlank c then spanSpaced p spaced skipping false cs
    else if skipping && c = '#' then spanSpaced p spaced skipping true cs
    else if p c then
      let (taken, left) := spanSpaced p spaced spaced false cs
      (c :: taken, left)
    else ([], c :: cs)

/-- Takes the characters of a class, skipping what does not count behind each. -/
def takeSpaced (p : Char → Bool) : Step (List Char) := do
  let (taken, left) := spanSpaced p (← flags).spaced false false (← rest)
  goto left
  return taken

end Step

open Step

/-! ## Characters and sets -/

/-- What an escape or a plain character stands for. -/
inductive Primitive where
  /-- A character; `byte` says that it was given as a byte. -/
  | literal (n : Nat) (byte : Bool)
  | set (s : Ranges)
  | look (l : Look)

/-- The set without regard to case, if the flags ask for that. -/
def foldedBy (f : Flags) (s : Ranges) : Ranges :=
  if f.ignoreCase then (if f.unicode then folded s else asciiFolded s) else s

/-- The set or, if `negated`, its complement. -/
def negatedIf (negated : Bool) (s : Ranges) : Ranges :=
  if negated then s.complement else s

/-- Whether the set holds more than characters of ASCII. -/
def exceedsAscii (s : Ranges) : Bool :=
  s.any fun r => 0x80 ≤ r.2

/-- The character with a code point in hexadecimal. -/
def codePoint? (ds : List Char) : Option Nat :=
  let n := ds.foldl (fun n c => 16 * n + (Text.hexValue? c).getD 0) 0
  if ds ≠ [] ∧ n < 0x110000 ∧ ¬(0xD800 ≤ n ∧ n < 0xE000) then some n else none

/-- Whether a character is a hexadecimal digit. -/
def isHex (c : Char) : Bool :=
  (Text.hexValue? c).isSome

/-- Reads a code point: a fixed number of hexadecimal digits, or any number of them in braces. -/
def hexPrimitive (count : Nat) : Step Primitive := do
  bumpSpace
  if (← peek) = '\x7b' then
    bumpSpace
    let ds ← takeSpaced isHex
    require ((← peek) = '\x7d')
    bumpSpace
    match codePoint? ds with
    | some n => return .literal n false
    | none => fail
  else
    let spaced := (← flags).spaced
    let rec digits : Nat → List Char → Option (List Char × List Char)
      | 0, cs => some ([], cs)
      | _ + 1, [] => none
      | k + 1, c :: cs =>
        if isHex c then
          (digits k (if spaced then skipSpaced false cs else cs)).map fun (ds, left) =>
            (c :: ds, left)
        else none
    match digits count (← rest) with
    | none => fail
    | some (ds, left) =>
      goto left
      match codePoint? ds with
      | some n => return .literal n (count = 2)
      | none => fail

/-- The text before and behind the first occurrence of a text. -/
def cutAt? (mark : List Char) : List Char → Option (List Char × List Char)
  | [] => none
  | c :: cs =>
    if mark.isPrefixOf (c :: cs) then some ([], (c :: cs).drop mark.length)
    else (cutAt? mark cs).map fun (head, tail) => (c :: head, tail)

/-- The set of a property named in braces, and whether its complement is meant. -/
def propertySet? (text : List Char) : Option (Ranges × Bool) :=
  match cutAt? ['!', '='] text with
  | some (p, v) => (valueSet? (looseName p) (looseName v)).map fun s => (s, true)
  | none =>
    match cutAt? [':'] text with
    | some (p, v) => (valueSet? (looseName p) (looseName v)).map fun s => (s, false)
    | none =>
      match cutAt? ['='] text with
      | some (p, v) => (valueSet? (looseName p) (looseName v)).map fun s => (s, false)
      | none => (namedSet? (looseName text)).map fun s => (s, false)

/-- Reads a property of Unicode behind `p` or `P`. -/
def propertyPrimitive : Step Primitive := do
  let upper := (← peek) = 'P'
  bumpSpace
  let text ←
    if (← peek) = '\x7b' then do
      bumpSpace
      let text ← takeSpaced (· ≠ '\x7d')
      let _ ← peek
      bump
      pure text
    else do
      let c ← peek
      require (c ≠ '\\')
      bumpSpace
      pure [c]
  let f ← flags
  require f.unicode
  match propertySet? text with
  | some (s, negated) => return .set (negatedIf (upper != negated) (foldedBy f s))
  | none => fail

/-- Whether a backslash before the character makes it stand for itself: all of ASCII but letters,
digits and angle brackets. -/
def isEscapable (c : Char) : Bool :=
  c.toNat < 0x80 && !(c.isAlphanum || c = '<' || c = '>')

/-- The control character that a letter behind a backslash stands for. -/
def controlChar? (c : Char) : Option Nat :=
  match c with
  | 'a' => some 0x07
  | 'f' => some 0x0C
  | 't' => some 0x09
  | 'n' => some 0x0A
  | 'r' => some 0x0D
  | 'v' => some 0x0B
  | _ => none

/-- Reads what may stand in braces behind `\b`. Braces that hold no word belong to a repetition. -/
def boundaryPrimitive : Step Primitive := do
  let u := (← flags).unicode
  let before ← rest
  match before with
  | '\x7b' :: _ =>
    bumpSpace
    let isWordChar (c : Char) : Bool := c.isAlpha || c = '-'
    if isWordChar (← peek) then
      let word ← takeSpaced isWordChar
      require ((← peek) = '\x7d')
      bump
      match String.ofList word with
      | "start" => return .look (.wordStart u)
      | "end" => return .look (.wordEnd u)
      | "start-half" => return .look (.wordStartHalf u)
      | "end-half" => return .look (.wordEndHalf u)
      | _ => fail
    else
      goto before
      return .look (.wordBoundary u)
  | _ => return .look (.wordBoundary u)

/-- Reads an escape, the backslash being next. -/
def escape : Step Primitive := do
  bump
  let c ← peek
  let f ← flags
  if c = 'x' then hexPrimitive 2
  else if c = 'u' then hexPrimitive 4
  else if c = 'U' then hexPrimitive 8
  else if c = 'p' ∨ c = 'P' then propertyPrimitive
  else
    match letterSet? f.unicode c.toLower with
    | some rs =>
      bump
      let negated := c.isUpper
      -- The complement of a set of bytes would hold bytes that are no characters.
      require (f.unicode || !negated)
      return .set (negatedIf negated rs)
    | none =>
      bump
      if isEscapable c then return .literal c.toNat false
      else
        match controlChar? c with
        | some n => return .literal n false
        | none =>
          match c with
          | 'A' => return .look .textStart
          | 'z' => return .look .textEnd
          | 'b' => boundaryPrimitive
          | 'B' => return .look (.noWordBoundary f.unicode)
          | '<' => return .look (.wordStart f.unicode)
          | '>' => return .look (.wordEnd f.unicode)
          | _ => fail

/-! ## Classes -/

/-- The operators between the parts of a class. -/
inductive SetOp where
  | intersection
  | difference
  | symmetricDifference

/-- What an operator makes of two sets. -/
def SetOp.apply (op : SetOp) (f : Flags) (a b : Ranges) : Ranges :=
  let a := foldedBy f a
  let b := foldedBy f b
  match op with
  | intersection => a.intersection b
  | difference => a.difference b
  | symmetricDifference => a.symmetricDifference b

/-- The parts of a class so far: their union, their number, and how deep they nest. -/
structure ClassParts where
  set : Ranges := []
  count : Nat := 0
  depth : Nat := 0

/-- The parts with one more. -/
def ClassParts.add (p : ClassParts) (s : Ranges) (depth : Nat) : ClassParts :=
  ⟨p.set.union s, p.count + 1, max p.depth depth⟩

/-- How deep the union of the parts nests. -/
def ClassParts.unionDepth (p : ClassParts) : Nat :=
  if 2 ≤ p.count then p.depth + 1 else p.depth

/-- The left operand and the operator that wait for their right operand. -/
abbrev Pending := Option (Ranges × Nat × SetOp)

/-- The set of the parts, joined to what was waiting for it; and its depth. -/
def joined (f : Flags) (p : ClassParts) : Pending → Ranges × Nat
  | none => (p.set, p.unionDepth)
  | some (left, depth, op) => (op.apply f left p.set, max depth p.unionDepth + 1)

/-- A character of a class, on its own or as the end of a range. Without Unicode it must be a byte
or an ASCII character. -/
def classLiteral (n : Nat) (byte : Bool) : Step Nat := do
  require ((← flags).unicode || n < 0x80 || (byte && n < 0x100))
  return n

/-- Reads an item of a class: an escape or a plain character. -/
def classItem : Step Primitive := do
  let c ← peek
  if c = '\\' then escape
  else
    bump
    return .literal c.toNat false

/-- Whether the hyphen that is next stands between the ends of a range. -/
def rangeFollows : Step Bool := do
  match ← rest with
  | '-' :: cs =>
    let after := if (← flags).spaced then skipSpaced false cs else cs
    return !(after.head? == some ']' || after.head? == some '-')
  | _ => return false

/-- Reads an item of a class or a range between two items. -/
def classRange : Step Ranges := do
  let first ← classItem
  space
  let _ ← peek
  if ← rangeFollows then
    bumpSpace
    let _ ← peek
    let last ← classItem
    match first, last with
    | .literal a ab, .literal b bb =>
      let a ← classLiteral a ab
      let b ← classLiteral b bb
      require (a ≤ b)
      return .between a b
    | _, _ => fail
  else
    match first with
    | .literal n byte =>
      let n ← classLiteral n byte
      return [(n, n)]
    | .set s => return s
    | _ => fail

/-- Reads a class of ASCII such as `[:alpha:]`, the bracket being next; none if there is no such
class, in which case nothing is taken. -/
def asciiClass : Step (Option Ranges) := do
  match ← rest with
  | '[' :: ':' :: cs =>
    let (negated, cs) :=
      match cs with
      | '^' :: cs => (true, cs)
      | _ => (false, cs)
    match cs.dropWhile (· ≠ ':') with
    | ':' :: ']' :: left =>
      match asciiClass? (String.ofList (cs.takeWhile (· ≠ ':'))) with
      | some rs =>
        goto left
        let f ← flags
        let s := negatedIf negated (foldedBy f rs)
        require (f.unicode || !exceedsAscii s)
        return some s
      | none => return none
    | _ => return none
  | _ => return none

/-- Takes the hyphens at the start of a class, which stand for themselves. -/
def leadingHyphens : (bound : Nat) → ClassParts → Step ClassParts
  | 0, parts => return parts
  | bound + 1, parts => do
    if (← peek) = '-' then
      bumpSpace
      leadingHyphens bound (parts.add [(0x2D, 0x2D)] 0)
    else return parts

/-- Takes the opening bracket of a class and what has its own meaning right behind it: a caret, and
then hyphens or a closing bracket that stand for themselves. -/
def classStart (bound : Nat) : Step (Bool × ClassParts) := do
  bumpSpace
  let negated := (← peek) = '^'
  if negated then bumpSpace
  let parts ← leadingHyphens bound {}
  let c ← peek
  if parts.count = 0 ∧ c = ']' then
    bumpSpace
    let _ ← peek
    return (negated, parts.add [(0x5D, 0x5D)] 0)
  else return (negated, parts)

/-- Reads the parts of a class up to its closing bracket, and gives the set with its depth. -/
def classBody : (bound : Nat) → Bool → Pending → ClassParts → Step (Ranges × Nat)
  | 0, _, _, _ => fail
  | bound + 1, negated, pending, parts => do
    space
    let f ← flags
    match ← rest with
    | [] => fail
    | '[' :: _ =>
      match ← asciiClass with
      | some s => classBody bound negated pending (parts.add s 0)
      | none =>
        let (innerNegated, innerParts) ← classStart bound
        let (s, depth) ← classBody bound innerNegated none innerParts
        classBody bound negated pending (parts.add s (depth + 1))
    | ']' :: _ =>
      bump
      let (s, depth) := joined f parts pending
      let s := negatedIf negated (foldedBy f s)
      require (f.unicode || !exceedsAscii s)
      return (s, depth)
    | '&' :: '&' :: cs =>
      goto cs
      let (s, depth) := joined f parts pending
      classBody bound negated (some (s, depth, .intersection)) {}
    | '-' :: '-' :: cs =>
      goto cs
      let (s, depth) := joined f parts pending
      classBody bound negated (some (s, depth, .difference)) {}
    | '~' :: '~' :: cs =>
      goto cs
      let (s, depth) := joined f parts pending
      classBody bound negated (some (s, depth, .symmetricDifference)) {}
    | _ =>
      let s ← classRange
      classBody bound negated pending (parts.add s 0)

/-- Reads a class, its opening bracket being next. -/
def bracketed (bound : Nat) : Step Parsed := do
  let (negated, parts) ← classStart bound
  let (s, depth) ← classBody bound negated none parts
  return { regex := .ofSet s, depth := depth + 1 }

/-! ## Expressions -/

/-- The expression of a literal character. Without Unicode, bytes that are no ASCII characters are
refused, and case counts for other characters that are not ASCII. -/
def literalRegex (f : Flags) (n : Nat) (byte : Bool) : Step Regex := do
  require (f.unicode || n < 0x80 || !byte)
  if f.ignoreCase ∧ f.unicode then return .ofSet (variantSet n)
  else if f.ignoreCase then return .ofSet (asciiFolded [(n, n)])
  else return .literal [Char.ofNat n]

/-- The expression of a dot. -/
def dotRegex (f : Flags) : Step Regex := do
  require f.unicode
  let excluded : Ranges :=
    if f.dotAll then [] else if f.crlf then [(0xA, 0xA), (0xD, 0xD)] else [(0xA, 0xA)]
  return .ofSet excluded.complement

/-- The condition of a caret. -/
def caretLook (f : Flags) : Look :=
  if f.multiLine then (if f.crlf then .crlfLineStart else .lineStart) else .textStart

/-- The condition of a dollar sign. -/
def dollarLook (f : Flags) : Look :=
  if f.multiLine then (if f.crlf then .crlfLineEnd else .lineEnd) else .textEnd

/-- The expression of an escape. -/
def primitiveRegex (f : Flags) : Primitive → Step Regex
  | .literal n byte => literalRegex f n byte
  | .set s => return .ofSet s
  | .look l => return .look l

/-- Reads a primitive expression: an escape or a character. -/
def primitive : Step Parsed := do
  let f ← flags
  let c ← peek
  if c = '\\' then
    let p ← escape
    return { regex := ← primitiveRegex f p, depth := 0 }
  else
    bump
    match c with
    | '.' => return { regex := ← dotRegex f, depth := 0 }
    | '^' => return { regex := .look (caretLook f), depth := 0 }
    | '$' => return { regex := .look (dollarLook f), depth := 0 }
    | c => return { regex := ← literalRegex f c.toNat false, depth := 0 }

/-- The flags with one of them set or cleared. -/
def Flags.with? (f : Flags) (on : Bool) (c : Char) : Option Flags :=
  match c with
  | 'i' => some { f with ignoreCase := on }
  | 'm' => some { f with multiLine := on }
  | 's' => some { f with dotAll := on }
  | 'u' => some { f with unicode := on }
  | 'x' => some { f with spaced := on }
  | 'R' => some { f with crlf := on }
  | 'U' => some { f with swapGreed := on }
  | _ => none

/-- Reads flags up to the colon or parenthesis behind them. Each letter may stand only once, and so
may the hyphen, behind which flags are cleared. -/
def flagLetters : List Char → (seen : List Char) → (on : Bool) → Flags →
    Option (Flags × List Char × List Char)
  | [], _, _, _ => none
  | c :: cs, seen, on, f =>
    if c = ':' ∨ c = ')' then
      if seen.head? = some '-' then none else some (f, seen, c :: cs)
    else if seen.contains c then none
    else if c = '-' then flagLetters cs (c :: seen) false f
    else
      match f.with? on c with
      | some f => flagLetters cs (c :: seen) on f
      | none => none

/-- A character that the name of a group can start with. -/
def isNameStart (c : Char) : Bool :=
  c = '_' || Text.isAlphabetic c

/-- A character that the name of a group can go on with. -/
def isNameChar (c : Char) : Bool :=
  c = '_' || c = '.' || c = '[' || c = ']' || Text.isAlphanumeric c

/-- Reads the name of a group and the angle bracket behind it. No two groups may share a name. -/
def groupName : Step Unit := do
  let cs ← rest
  let name := cs.takeWhile (· ≠ '>')
  let names := (← get).names
  match name, cs.dropWhile (· ≠ '>') with
  | c :: more, '>' :: left =>
    require (isNameStart c && more.all isNameChar && !names.contains name)
    modify fun s => { s with names := name :: s.names, rest := left }
  | _, _ => fail

/-- What stands behind an opening parenthesis. -/
inductive Opening where
  /-- A group whose expression follows, with its number. -/
  | group (index : Nat)
  /-- An expression that follows with flags of its own, without being a group. -/
  | flagged (f : Flags)
  /-- A setting of flags for the rest of the group around it. -/
  | setting (f : Flags)

/-- Counts one more group. -/
def newGroup : Step Opening := do
  modify fun s => { s with groups := s.groups + 1 }
  return .group (← get).groups

/-- Reads the opening of a group, the parenthesis being next. -/
def opening : Step Opening := do
  bump
  space
  for ahead in ["?=", "?!", "?<=", "?<!"] do
    require (!(ahead.toList.isPrefixOf (← rest)))
  if ← take? "?P<".toList then
    groupName
    newGroup
  else if ← take? "?<".toList then
    groupName
    newGroup
  else if ← take? ['?'] then
    match flagLetters (← rest) [] true (← flags) with
    | some (f, _, ':' :: left) =>
      goto left
      return .flagged f
    | some (f, seen, _ :: left) =>
      require (seen ≠ [])
      goto left
      return .setting f
    | _ => fail
  else newGroup

/-- The items of a sequence as one expression. The items are given last one first. -/
def sequence (items : List Parsed) : Parsed :=
  match items with
  | [] => { regex := .empty, depth := 0 }
  | [p] => p
  | p :: ps =>
    { regex := .sequence ((p :: ps).reverse.map (·.regex))
      depth := (items.map (·.depth)).foldl max 0 + 1 }

/-- The alternatives as one expression. They are given last one first. -/
def alternatives (branches : List Parsed) : Parsed :=
  match branches with
  | [] => { regex := .empty, depth := 0 }
  | [p] => p
  | p :: ps =>
    { regex := .alternatives ((p :: ps).reverse.map (·.regex))
      depth := (branches.map (·.depth)).foldl max 0 + 1 }

/-- Repeats the last item, taking the question mark behind the bounds that swaps what
is preferred. -/
def repeated (items : List Parsed) (least : Nat) (most : Option Nat) : Step (List Parsed) := do
  let swapped ← take? ['?']
  let greedy := swapped == (← flags).swapGreed
  match items with
  | [] => fail
  | p :: ps =>
    require p.repeatable
    return { regex := p.regex.repeated least most greedy, depth := p.depth + 1 } :: ps

/-- Reads a bound of a repetition between any blanks. -/
def boundNumber : Step (Option Nat) := do
  goto ((← rest).dropWhile isBlank)
  let ds ← takeSpaced Char.isDigit
  goto ((← rest).dropWhile isBlank)
  space
  if ds = [] then return none
  else
    let n := Decimal.valueOf ds
    require (n < 0x100000000)
    return some n

/-- Reads the bounds of a repetition, the opening brace being next. -/
def bounds : Step (Nat × Option Nat) := do
  bumpSpace
  let _ ← peek
  match ← boundNumber with
  | none => fail
  | some least =>
    if (← peek) = ',' then
      bumpSpace
      if (← peek) = '\x7d' then
        bumpSpace
        return (least, none)
      else
        match ← boundNumber with
        | none => fail
        | some most =>
          require ((← peek) = '\x7d' && least ≤ most)
          bumpSpace
          return (least, some most)
    else
      require ((← peek) = '\x7d')
      bumpSpace
      return (least, some least)

/-- Reads the alternatives up to a closing parenthesis or the end of the text. `items` are those of
the present sequence and `branches` the alternatives before it, both last one first. -/
def expression : (bound : Nat) → (items branches : List Parsed) → Step Parsed
  | 0, _, _ => fail
  | bound + 1, items, branches => do
    space
    match ← peek? with
    | none => return alternatives (sequence items :: branches)
    | some ')' => return alternatives (sequence items :: branches)
    | some '|' =>
      bump
      expression bound [] (sequence items :: branches)
    | some '(' =>
      let outer ← flags
      match ← opening with
      | .setting f =>
        setFlags f
        expression bound ({ regex := .empty, depth := 0, repeatable := false } :: items) branches
      | start =>
        let (f, enclose) : Flags × (Regex → Regex) :=
          match start with
          | .flagged f => (f, id)
          | .group index => (outer, .group index)
          | .setting f => (f, id)
        setFlags f
        let inner ← expression bound [] []
        require ((← peek) = ')')
        bump
        setFlags outer
        let item := { regex := enclose inner.regex, depth := inner.depth + 1 }
        expression bound (item :: items) branches
    | some '[' => expression bound ((← bracketed (bound + 1)) :: items) branches
    | some '?' =>
      bump
      expression bound (← repeated items 0 (some 1)) branches
    | some '*' =>
      bump
      expression bound (← repeated items 0 none) branches
    | some '+' =>
      bump
      expression bound (← repeated items 1 none) branches
    | some '\x7b' =>
      require (!items.isEmpty)
      let (least, most) ← bounds
      expression bound (← repeated items least most) branches
    | some _ => expression bound ((← primitive) :: items) branches

/-- Reads a text as a regular expression; none if it is not one, or nests too deep. -/
def Regex.ofChars? (f : Flags) (cs : List Char) : Option Regex :=
  match (expression (cs.length + 1) [] []).run ⟨f, 0, [], cs⟩ with
  | some (p, c) => if c.rest = [] ∧ p.depth ≤ nestLimit then some p.regex else none
  | none => none

end AccessPolicy.Pattern
