import AccessPolicy.Pattern.ByteRange
import AccessPolicy.Pattern.Regex

/-!
# The size of a regular expression

An expression is accepted only if the two automata that read its texts byte by byte, one forwards
and one backwards, each take no more room than `roomLimit` (`Regex.fits`). A state takes 32 bytes. A
state that tells apart ranges of bytes takes 8 more for each range, and one that forks without
taking a byte 4 more for each way.

`Regex.plan` gives the states of an automaton in the order in which they are made. The states of a
set of characters that are not all of ASCII depend on the direction. Forwards, equal states are
shared within the set, so that a plan has a size of its own (`Plan.room`). Backwards, a state is
shared if it was made for the same range of bytes in front of the same state and a table of limited
size still remembers it, so that the plan has to be carried out (`Plan.carryOut`).
-/

namespace AccessPolicy.Pattern

open Text (Ranges)

/-- The room that an automaton may take, in bytes. -/
def roomLimit : Nat := 10 * 0x100000

/-- The states of an automaton. -/
inductive Plan where
  /-- A number of states, and the room they take for the ways that they fork to. -/
  | states (count : Nat) (extra : Nat)
  /-- The states of a set of characters that are not all of ASCII, given by its encodings. -/
  | set (encodings : List ByteRanges)
  | both (a b : Plan)
  | copies (n : Nat) (a : Plan)

namespace Plan

/-- A state that goes on in one way. -/
def step : Plan :=
  states 1 0

/-- A state that forks to `n` others without taking a byte. -/
def fork (n : Nat) : Plan :=
  states 1 (4 * n)

/-- A state that tells apart `n` ranges of bytes. -/
def choice (n : Nat) : Plan :=
  states 1 (8 * n)

/-- One plan after the other. -/
def all : List Plan → Plan
  | [] => states 0 0
  | [p] => p
  | p :: ps => both p (all ps)

end Plan

/-! ## From expressions to plans -/

/-- The parts of a list of words between those that end: a word that ends separates those before it
from those behind it. -/
def partsBetweenEnds : List (List Nat) → List (List (List Nat))
  | [] => [[]]
  | w :: ws =>
    match partsBetweenEnds ws with
    | [] => [[w]]
    | part :: parts => if w = [] then [] :: part :: parts else (w :: part) :: parts

/-- What is left of the words behind each of their first bytes. -/
def tailsByFirst (words : List (List Nat)) : List (List (List Nat)) :=
  (words.filterMap List.head?).eraseDups.map fun a =>
    words.filterMap fun w => if w.head? = some a then some w.tail else none

/-- The states for words of at most `depth` bytes, of which the first in the list is preferred.
Words with the same first byte share the state that takes it, unless a word in between ends
there. -/
def wordPlan : (depth : Nat) → List (List Nat) → Plan
  | 0, _ => .states 0 0
  | depth + 1, words =>
    if words.all (· = []) then .states 0 0
    else
      -- Where several words in front end, one of them counts.
      let words := if words.head? = some [] then [] :: words.dropWhile (· = []) else words
      let parts := partsBetweenEnds words
      let filled := parts.filter (· ≠ [])
      let plans := filled.flatMap fun part =>
        let tails := tailsByFirst part
        (if tails.length = 1 then .step else .choice tails.length) :: tails.map (wordPlan depth)
      .all (plans ++ [.fork (filled.length + parts.length - 1)])

namespace Regex

/-- The text of an expression that is a literal. -/
def text? : Regex → Option (List Char)
  | literal text => some text
  | _ => none

/-- The number of characters that a text has to have at least to match; none if nothing matches, as
far as the parts of the expression tell. -/
def leastLength : Regex → Option Nat
  | empty | look _ => some 0
  | literal text => some text.length
  | chars rs => if rs = [] then none else some 1
  | seq a b => do return (← a.leastLength) + (← b.leastLength)
  | alt a b => do return min (← a.leastLength) (← b.leastLength)
  | group _ a => a.leastLength
  | repetition a least _ _ => a.leastLength.map (least * ·)

/-- The plan of a repetition of the expression `a`, whose plan is `p`. -/
def repetitionPlan (a : Regex) (p : Plan) (least : Nat) (most : Option Nat) : Plan :=
  match least, most with
  | 0, none =>
    if a.leastLength.any (0 < ·) then .both (.fork 2) p else .all [p, .fork 2, .fork 2, .step]
  | n, none => .both (.copies n p) (.fork 2)
  | 0, some 1 => .all [.fork 2, p, .step]
  | n, some m =>
    if n = m then .copies n p
    else
      .all [if n = 0 then .step else .copies n p, .step, .copies (m - n) (.both (.fork 2) p)]

/-- The plan of an expression whose branches have the given plans. Branches that are all literals
are taken together. -/
def branchPlan (backward : Bool) (r : Regex) (plans : List Plan) : Plan :=
  match plans with
  | first :: second :: rest =>
    match r.branches.mapM text? with
    | some texts =>
      let words := texts.map fun text =>
        let bytes := text.flatMap encodedBytes
        if backward then bytes.reverse else bytes
      .both .step (wordPlan words.flatten.length words)
    | none => .all ([first, second, .fork plans.length, .step] ++ rest)
  | _ => .all plans

/-- The plans of the branches of an expression. Only forwards does a group have states of
its own. -/
def plans (backward : Bool) : Regex → List Plan
  | empty | look _ => [.step]
  | literal text => [.states (text.map Char.utf8Size).sum 0]
  | chars rs =>
    if rs.all (·.2 < 0x80) then [.both .step (.choice rs.length)] else [.set (encodings rs)]
  | seq a b =>
    let p := a.branchPlan backward (a.plans backward)
    let q := b.branchPlan backward (b.plans backward)
    [if backward then .both q p else .both p q]
  | alt a b => a.plans backward ++ b.plans backward
  | group _ a =>
    let p := a.branchPlan backward (a.plans backward)
    [if backward then p else .all [.step, p, .step]]
  | repetition a least most _ =>
    [a.repetitionPlan (a.branchPlan backward (a.plans backward)) least most]

/-- Whether every match has to start where the subject starts or, backwards, to end where
it ends. -/
def isAnchored (backward : Bool) : Regex → Bool
  | look l => l = if backward then .textEnd else .textStart
  | seq a b =>
    if backward then b.isAnchored true || (b.isBare && a.isAnchored true)
    else a.isAnchored false || (a.isBare && b.isAnchored false)
  | alt a b => a.isAnchored backward && b.isAnchored backward
  | group _ a => a.isAnchored backward
  | repetition a least _ _ => 0 < least && a.isAnchored backward
  | _ => false

/-- The states of the automaton of an expression. Unless the expression is anchored, a loop in front
skips what does not belong to a match; forwards, the whole match is a group; and a last state
accepts. -/
def plan (backward : Bool) (r : Regex) : Plan :=
  let body := r.branchPlan backward (r.plans backward)
  .all [
    if r.isAnchored backward then .step else .all [.fork 2, .step, .choice 1],
    if backward then body else .all [.step, body, .step],
    .step]

end Regex

/-! ## Forwards -/

/-- The states that the encodings of a set need, added to those that have been made: the list of
states, each with its ranges of bytes and the states they lead to. Returns the number of the first
one; the last one, zero, is none of these. -/
def sharedStates : (depth : Nat) → List ByteRanges → (made : List (List Nat)) →
    Nat × List (List Nat)
  | 0, _, made => (0, made)
  | depth + 1, sequences, made =>
    if sequences = [[]] then (0, made)
    else
      let step (ways : List Nat × List (List Nat)) (group : List ByteRanges) :=
        let (next, made) := sharedStates depth (group.map List.tail) ways.2
        let range := (group.head?.bind List.head?).getD (0, 0)
        (ways.1 ++ [range.1, range.2, next], made)
      let groups := sequences.splitBy fun a b => a.head? == b.head?
      let (ways, made) := groups.foldl step ([], made)
      match made.idxOf? ways with
      | some i => (i + 1, made)
      | none => (made.length + 1, made ++ [ways])

/-- The room that a set of characters takes forwards: one state at the end, and one for each
different way to go on. -/
def forwardRoom (encodings : List ByteRanges) : Nat :=
  let (_, made) := sharedStates 4 encodings []
  made.foldl (fun room ways => room + 32 + 8 * (ways.length / 3)) 32

/-- The room of an automaton that reads forwards. -/
def Plan.room : Plan → Nat
  | states count extra => 32 * count + extra
  | set encodings => forwardRoom encodings
  | both a b => a.room + b.room
  | copies n a => n * a.room

/-! ## Backwards -/

/-- What the table remembers: the state that was made for a range of bytes in front of another. -/
structure Remembered where
  next : Nat
  low : Nat
  high : Nat
  state : Nat

/-- The table, as a binary tree. The root is place zero; to its left are the odd places, to its
right the other even ones, in each case in ascending order. -/
inductive Slots where
  | vacant
  | node (here : Option Remembered) (odd even : Slots)

namespace Slots

/-- What the table has at a place. -/
def get? : Slots → Nat → Option Remembered
  | vacant, _ => none
  | node here odd even, i =>
    if i = 0 then here else if i % 2 = 1 then odd.get? (i / 2) else even.get? (i / 2 - 1)

/-- Puts something at a place, which is at most so deep in the tree as `bound` says. -/
def put (r : Remembered) : (bound : Nat) → Slots → Nat → Slots
  | 0, t, _ => t
  | bound + 1, t, i =>
    let (here, odd, even) :=
      match t with
      | vacant => (none, vacant, vacant)
      | node here odd even => (here, odd, even)
    if i = 0 then node (some r) odd even
    else if i % 2 = 1 then node here (put r bound odd (i / 2)) even
    else node here odd (put r bound even (i / 2 - 1))

end Slots

/-- The number of places in the table. -/
def slotCount : Nat := 1000

/-- The depth of a tree that has all these places. -/
def slotDepth : Nat := 10

/-- The place in the table for a range of bytes in front of a state: a hash of the three numbers. -/
def slot (next low high : Nat) : Nat :=
  let mix (h : UInt64) (n : Nat) : UInt64 := (h ^^^ n.toUInt64) * 1099511628211
  (mix (mix (mix 14695981039346656037 next) low) high).toNat % slotCount

/-- An automaton that reads backwards, as far as it has been made. States are numbered as they are
made, so what the table remembers of an earlier set is never found again. -/
structure Builder where
  count : Nat := 0
  extra : Nat := 0
  slots : Slots := .vacant

namespace Builder

/-- The automaton, unless it takes too much room. -/
def within? (b : Builder) : Option Builder :=
  if 32 * b.count + b.extra ≤ roomLimit then some b else none

/-- The state for a range of bytes in front of the state `next`, made unless the table remembers
it. -/
def addRange (b : Builder) (next : Nat) (range : Nat × Nat) : Builder × Nat :=
  let (low, high) := range
  let i := slot next low high
  match (b.slots.get? i).filter fun r => r.next = next ∧ r.low = low ∧ r.high = high with
  | some r => (b, r.state)
  | none =>
    let slots := b.slots.put ⟨next, low, high, b.count⟩ slotDepth i
    ({ b with count := b.count + 1, slots := slots }, b.count)

/-- Adds the states for one of the encodings of a set, whose last state is `last`. The way into them
is one more of those that the first state of the set forks to. -/
def addEncoding (last : Nat) (b : Builder) (ranges : ByteRanges) : Builder :=
  let b := (ranges.foldl (fun (b, next) range => b.addRange next range) (b, last)).1
  { b with extra := b.extra + 4 }

/-- Adds the states for a set of characters: the one that forks, the last one, and those between. -/
def addSet (b : Builder) (encodings : List ByteRanges) : Builder :=
  encodings.foldl (addEncoding (b.count + 1)) { b with count := b.count + 2 }

/-- Does something to the automaton a number of times, unless it grows too large before. -/
def times (f : Builder → Option Builder) : Nat → Builder → Option Builder
  | 0, b => some b
  | n + 1, b => (f b).bind (times f n)

end Builder

/-- Makes the states of a plan; none if they take too much room. -/
def Plan.carryOut : Plan → Builder → Option Builder
  | states count extra, b => { b with count := b.count + count, extra := b.extra + extra }.within?
  | set encodings, b => (b.addSet encodings).within?
  | both p q, b => (p.carryOut b).bind q.carryOut
  | copies n p, b => Builder.times p.carryOut n b

/-- Whether an expression is not too large. -/
def Regex.fits (r : Regex) : Bool :=
  (r.plan false).room ≤ roomLimit && ((r.plan true).carryOut {}).isSome

end AccessPolicy.Pattern
