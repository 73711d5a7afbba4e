import AccessPolicy.Pattern.NamedSet

/-!
# Regular expressions

The syntax trees of regular expressions, and how larger ones are put together from smaller ones.
Besides characters they ask for what stands around a place in the subject (`Look`).
-/

namespace AccessPolicy.Pattern

open Text (Ranges)

/-- A condition on the characters around a place in the subject. -/
inductive Look where
  | textStart
  | textEnd
  | lineStart
  | lineEnd
  /-- As `lineStart`, where lines may end in a carriage return with or without a line feed. -/
  | crlfLineStart
  | crlfLineEnd
  /-- The characters on the two sides differ in being word characters. -/
  | wordBoundary (unicode : Bool)
  | noWordBoundary (unicode : Bool)
  | wordStart (unicode : Bool)
  | wordEnd (unicode : Bool)
  /-- There is no word character in front. -/
  | wordStartHalf (unicode : Bool)
  /-- There is no word character behind. -/
  | wordEndHalf (unicode : Bool)
  deriving DecidableEq

/-- Whether there is a word character on one side of a place. -/
def isWordAt (unicode : Bool) (c : Option Char) : Bool :=
  c.any fun c => (if unicode then Binary.word else asciiWord).has c.toNat

/-- Whether a condition holds between two characters, of which either may be absent. -/
def Look.holds (front back : Option Char) : Look → Bool
  | textStart => front.isNone
  | textEnd => back.isNone
  | lineStart => front.isNone || front == some '\n'
  | lineEnd => back.isNone || back == some '\n'
  | crlfLineStart =>
    front.isNone || front == some '\n' || (front == some '\r' && back != some '\n')
  | crlfLineEnd =>
    back.isNone || back == some '\r' || (back == some '\n' && front != some '\r')
  | wordBoundary u => isWordAt u front != isWordAt u back
  | noWordBoundary u => isWordAt u front == isWordAt u back
  | wordStart u => !isWordAt u front && isWordAt u back
  | wordEnd u => isWordAt u front && !isWordAt u back
  | wordStartHalf u => !isWordAt u front
  | wordEndHalf u => !isWordAt u back

/-- A regular expression. The functions below that put expressions together keep to a normal form:
sequences and alternatives nest to the right, adjacent literals are one, and a set of one character
is a literal. -/
inductive Regex where
  /-- The empty text. -/
  | empty
  /-- A text that stands for itself. -/
  | literal (text : List Char)
  /-- One character of a set. -/
  | chars (rs : Ranges)
  | look (l : Look)
  | seq (a b : Regex)
  | alt (a b : Regex)
  /-- A group, with its number. -/
  | group (index : Nat) (a : Regex)
  /-- As many copies as the bounds allow; there may be no upper bound. A greedy one prefers more
  copies to fewer. -/
  | repetition (a : Regex) (least : Nat) (most : Option Nat) (greedy : Bool)
  deriving DecidableEq

namespace Regex

/-! ## Putting expressions together -/

/-- One character of a set. -/
def ofSet (rs : Ranges) : Regex :=
  match rs with
  | [(a, b)] => if a = b then literal [Char.ofNat a] else chars rs
  | _ => chars rs

/-- The parts of a sequence. -/
def factors : Regex → List Regex
  | empty => []
  | seq a b => a :: b.factors
  | r => [r]

/-- Puts an expression in front of the parts of a sequence. -/
def joinLiteral : Regex → List Regex → List Regex
  | literal a, literal b :: rest => literal (a ++ b) :: rest
  | r, rest => r :: rest

/-- The sequence with the given parts, as they are. -/
def ofFactors : List Regex → Regex
  | [] => empty
  | [r] => r
  | r :: rest => seq r (ofFactors rest)

/-- One expression behind the other. -/
def sequence (rs : List Regex) : Regex :=
  ofFactors ((rs.flatMap factors).foldr joinLiteral [])

/-- The branches of an expression. -/
def branches : Regex → List Regex
  | alt a b => a :: b.branches
  | r => [r]

/-- The alternatives with the given branches, as they are; without a branch nothing matches. -/
def ofBranches : List Regex → Regex
  | [] => chars []
  | [r] => r
  | r :: rest => alt r (ofBranches rest)

/-- The set of an expression that is a set. -/
def set? : Regex → Option Ranges
  | chars rs => some rs
  | _ => none

/-- The set of an expression that is a literal of one character. -/
def single? : Regex → Option Ranges
  | literal [c] => some [(c.toNat, c.toNat)]
  | _ => none

/-- The length of the common front of two lists. -/
def commonFront : List Regex → List Regex → Nat
  | a :: as, b :: bs => if a = b then commonFront as bs + 1 else 0
  | _, _ => 0

/-- How many factors all the branches start with in common. A branch that is no sequence has none
to share. -/
def sharedFactors : List Regex → Nat
  | [] => 0
  | first :: rest =>
    if (first :: rest).any (·.factors.length < 2) then 0
    else
      rest.foldl (fun n r => min n (commonFront first.factors r.factors)) first.factors.length

/-- The number of constructors in an expression. -/
def weight : Regex → Nat
  | seq a b => a.weight + b.weight + 1
  | alt a b => a.weight + b.weight + 1
  | group _ a => a.weight + 1
  | repetition a _ _ _ => a.weight + 1
  | _ => 1

/-- One expression or the other. Characters and sets become one set, and what all branches start
with is taken out, which leaves less in them, so that `bound` steps suffice. -/
def alternativesWithin : (bound : Nat) → List Regex → Regex
  | 0, rs => ofBranches rs
  | bound + 1, rs =>
    let rs := rs.flatMap branches
    if rs.length < 2 then ofBranches rs
    else
      match (rs.mapM single?).or (rs.mapM set?) with
      | some sets => ofSet (.unions sets)
      | none =>
        let n := sharedFactors rs
        if n = 0 then ofBranches rs
        else
          let rests := rs.map fun r => sequence (r.factors.drop n)
          let shared := (rs.head?.map fun r => r.factors.take n).getD []
          sequence (shared ++ [alternativesWithin bound rests])

/-- One of several expressions. -/
def alternatives (rs : List Regex) : Regex :=
  alternativesWithin (rs.foldl (fun n r => n + r.weight) 1) rs

/-- Whether an expression matches nothing but the empty text. -/
def isBare : Regex → Bool
  | empty | look _ => true
  | literal _ | chars _ => false
  | seq a b | alt a b => a.isBare && b.isBare
  | group _ a | repetition a _ _ _ => a.isBare

/-- Copies of an expression. More than one copy makes no difference to what matches only the empty
text. -/
def repeated (a : Regex) (least : Nat) (most : Option Nat) (greedy : Bool) : Regex :=
  let (least, most) :=
    if a.isBare then (min least 1, some (min (most.getD 1) 1)) else (least, most)
  if most = some 0 then empty
  else if least = 1 ∧ most = some 1 then a
  else repetition a least most greedy

end Regex

end AccessPolicy.Pattern
