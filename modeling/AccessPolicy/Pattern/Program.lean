import AccessPolicy.Pattern.Regex

/-!
# Running regular expressions

A regular expression is laid out as a program whose instructions take a character, ask for what
stands around a place, or fork. All ways through the program are followed at once, character by
character, so the time is bounded by the product of the lengths of the program and of the subject.
-/

namespace AccessPolicy.Pattern

open Text (Ranges)

/-- An instruction; the numbers are those of the instructions to go on with. -/
inductive Instruction where
  | take (rs : Ranges) (next : Nat)
  | look (l : Look) (next : Nat)
  | fork (a b : Nat)
  | accept

/-- A program, and the number of the instruction to start with. -/
structure Program where
  code : Array Instruction
  start : Nat

/-- Adds an instruction at the end. -/
def Program.push : Program → Instruction → Program
  | ⟨code, _⟩, i =>
    let n := code.size
    ⟨code.push i, n⟩

/-- Lays out an expression in front of the start of a program. -/
def Regex.layout : Regex → Program → Program
  | .empty, p => p
  | .literal text, p => text.foldr (fun c q => q.push (.take [(c.toNat, c.toNat)] q.start)) p
  | .chars rs, p => p.push (.take rs p.start)
  | .look l, p => p.push (.look l p.start)
  | .seq a b, p => a.layout (b.layout p)
  | .alt a b, p =>
    let exit := p.start
    let ⟨code, first⟩ := a.layout p
    let right := b.layout ⟨code, exit⟩
    right.push (.fork first right.start)
  | .group _ a, p => a.layout p
  | .repetition a least most _, p =>
    let exit := p.start
    let tail :=
      match most with
      | none =>
        -- The fork comes first, so that the body can lead back to it.
        let opened := p.push .accept
        let loop := opened.start
        let ⟨code, first⟩ := a.layout opened
        ⟨code.setIfInBounds loop (.fork first exit), loop⟩
      | some most =>
        (List.range (most - least)).foldl
          (fun q _ =>
            let body := a.layout q
            body.push (.fork body.start exit))
          p
    (List.range least).foldl (fun q _ => a.layout q) tail

/-- The program of an expression. -/
def Regex.program (r : Regex) : Program :=
  r.layout ⟨#[.accept], 0⟩

/-- The ways that lie open at a place in the subject. -/
structure Ways where
  /-- The sets of which the next character may be a member, each with where to go on. -/
  takes : List (Ranges × Nat) := []
  accepted : Bool := false

/-- Follows the instructions in `open` up to where they take a character. `seen` marks the
instructions that have been followed before. Each step follows an instruction for the first time and
opens two more at most, or closes one, so `bound` steps suffice. -/
def Program.follow (p : Program) (front back : Option Char) :
    (bound : Nat) → List Nat → Array Bool → Ways → Ways
  | 0, _, _, ways => ways
  | _, [], _, ways => ways
  | bound + 1, i :: rest, seen, ways =>
    if seen.getD i true then p.follow front back bound rest seen ways
    else
      let seen := seen.setIfInBounds i true
      match p.code[i]? with
      | none => p.follow front back bound rest seen ways
      | some (.take rs next) =>
        p.follow front back bound rest seen { ways with takes := (rs, next) :: ways.takes }
      | some (.look l next) =>
        if l.holds front back then p.follow front back bound (next :: rest) seen ways
        else p.follow front back bound rest seen ways
      | some (.fork a b) => p.follow front back bound (a :: b :: rest) seen ways
      | some .accept => p.follow front back bound rest seen { ways with accepted := true }

/-- The ways that lie open at a place, given where to go on. -/
def Program.waysFrom (p : Program) (front back : Option Char) (starts : List Nat) : Ways :=
  let size := p.code.size
  p.follow front back (2 * size + starts.length + 1) starts (Array.replicate size false) {}

/-- Whether the program accepts somewhere in the rest of a subject. `starts` are the places in the
program that the text in front leads to; besides, a match may start at any place of the subject. -/
def Program.search (p : Program) (front : Option Char) (starts : List Nat) : List Char → Bool
  | [] => (p.waysFrom front none (p.start :: starts)).accepted
  | c :: cs =>
    let ways := p.waysFrom front (some c) (p.start :: starts)
    if ways.accepted then true
    else
      let onward := ways.takes.filterMap fun (rs, next) =>
        if rs.has c.toNat then some next else none
      p.search (some c) onward cs

/-- Whether an expression matches a part of a subject. -/
def Regex.search (r : Regex) (subject : List Char) : Bool :=
  r.program.search none [] subject

end AccessPolicy.Pattern
