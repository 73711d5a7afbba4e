import AccessPolicy.Calendar.Instant
import AccessPolicy.Decimal.Integer
import AccessPolicy.Text.Character

/-!
# Reading instants

The written forms in which an instant is accepted, tried in turn by `instant?`: seconds behind an
at-sign, the internet date and time, the date of a mail header, and several plain forms of date and
time or of a date alone, which are taken to be universal time.
-/

namespace AccessPolicy.Calendar

open Decimal (valueOf)
open Text (isBlank trimStart)

/-- What has been read of an instant. -/
structure Reading where
  year : Int := 0
  month : Nat := 0
  day : Nat := 0
  hour : Nat := 0
  minute : Nat := 0
  second : Nat := 0
  nanos : Nat := 0
  /-- How many seconds local clocks are ahead of universal time. -/
  offset : Int := 0

/-- The instant that has been read. The second 60 is the leap second after second 59. -/
def Reading.instant? (r : Reading) : Option Instant :=
  let second := min r.second 59
  let leap := if r.second = 60 then secondNanos else 0
  if r.hour ≤ 23 ∧ r.minute ≤ 59 ∧ r.second ≤ 60 then
    Instant.ofLocal? ⟨r.year, r.month, r.day⟩ ((r.hour * 60 + r.minute) * 60 + second)
      (r.nanos + leap) r.offset
  else none

/-- The date that has been read. -/
def Reading.date (r : Reading) : Date :=
  ⟨r.year, r.month, r.day⟩

/-- The text behind a given character. -/
def skip? (c : Char) : List Char → Option (List Char)
  | [] => none
  | d :: cs => if d = c then some cs else none

/-- The number that the digits at the front of a text denote, at least `least` and at most `most` of
them, and the rest. -/
def number? (least most : Nat) (cs : List Char) : Option (Nat × List Char) :=
  let ds := (cs.take most).takeWhile Char.isDigit
  if least ≤ ds.length then some (valueOf ds, cs.drop ds.length) else none

/-- A number of any length. -/
def longNumber? (least : Nat) (cs : List Char) : Option (Nat × List Char) :=
  number? least cs.length cs

/-! ## The internet date and time -/

/-- The fraction of a second in nanoseconds, digits after the ninth not counting. -/
def fraction? : List Char → Option (Nat × List Char)
  | '.' :: cs =>
    let ds := cs.takeWhile Char.isDigit
    if ds = [] then none
    else
      let kept := ds.take 9
      some (valueOf kept * Nat.pow 10 (9 - kept.length), cs.dropWhile Char.isDigit)
  | cs => some (0, cs)

/-- A distance from universal time in seconds: a sign, two digits of hours, the separator, and two
digits of minutes. -/
def offset? (minus : List Char) (separator : List Char) (cs : List Char) :
    Option (Int × List Char) :=
  match cs with
  | [] => none
  | s :: cs => do
    let negative ← if s = '+' then some false else if minus.contains s then some true else none
    let (hours, cs) ← number? 2 2 cs
    let cs ← separator.foldlM (fun cs c => skip? c cs) cs
    let (minutes, cs) ← number? 2 2 cs
    let secs : Int := hours * 3600 + minutes * 60
    if minutes ≤ 59 then some (if negative then -secs else secs, cs) else none

/-- The zone of an internet date and time. -/
def internetZone? (cs : List Char) : Option (Int × List Char) :=
  match cs with
  | 'Z' :: cs => some (0, cs)
  | 'z' :: cs => some (0, cs)
  | cs => do
    let (offset, cs) ← offset? ['-', '−'] [':'] cs
    if offset.natAbs < 86400 then some (offset, cs) else none

/-- Reads an internet date and time. -/
def internet? (cs : List Char) : Option Instant := do
  let (year, cs) ← number? 4 4 cs
  let cs ← skip? '-' cs
  let (month, cs) ← number? 2 2 cs
  let cs ← skip? '-' cs
  let (day, cs) ← number? 2 2 cs
  let cs ←
    match cs with
    | c :: cs => if c = 'T' ∨ c = 't' ∨ c = ' ' then some cs else none
    | [] => none
  let (hour, cs) ← number? 2 2 cs
  let cs ← skip? ':' cs
  let (minute, cs) ← number? 2 2 cs
  let cs ← skip? ':' cs
  let (second, cs) ← number? 2 2 cs
  let (nanos, cs) ← fraction? cs
  let (offset, cs) ← internetZone? cs
  if cs = [] then Reading.instant? ⟨year, month, day, hour, minute, second, nanos, offset⟩ else none

/-! ## The date of a mail header -/

/-- The place in a list of names of the one whose first three letters, in either case, the text
starts with; and the rest. -/
def shortName? (names : List String) (cs : List Char) : Option (Nat × List Char) :=
  let letters (w : List Char) := (w.take 3).map Char.toLower
  if cs.length < 3 then none
  else (names.findIdx? fun n => letters n.toList = letters cs).map fun i => (i, cs.drop 3)

/-- The text behind one or more blanks. -/
def blanks? (cs : List Char) : Option (List Char) :=
  match cs with
  | [] => none
  | c :: _ => if isBlank c then some (trimStart cs) else none

/-- The weekday and the comma in front of a date, if they are there. -/
def mailWeekday? (cs : List Char) : Option (Option Nat × List Char) :=
  match shortName? weekdayNames cs with
  | none => some (none, cs)
  | some (i, rest) => (skip? ',' rest).map fun rest => (some i, rest)

/-- The year of a mail header. Two digits stand for the years 1950 to 2049, three for the years
since 1900. -/
def mailYear? (cs : List Char) : Option (Nat × List Char) := do
  let (n, rest) ← longNumber? 2 cs
  let count := cs.length - rest.length
  let year :=
    if count = 2 then (if n ≤ 49 then n + 2000 else n + 1900)
    else if count = 3 then n + 1900
    else n
  return (year, rest)

/-- The hours by which a named zone is ahead of universal time. Single letters other than `J` are
names of zones too, but of no certain ones, and count as universal time. -/
def zoneHours? (name : List Char) : Option Int :=
  match name.map Char.toLower with
  | ['g', 'm', 't'] => some 0
  | ['u', 't'] => some 0
  | ['e', 'd', 't'] => some (-4)
  | ['e', 's', 't'] => some (-5)
  | ['c', 'd', 't'] => some (-5)
  | ['c', 's', 't'] => some (-6)
  | ['m', 'd', 't'] => some (-6)
  | ['m', 's', 't'] => some (-7)
  | ['p', 'd', 't'] => some (-7)
  | ['p', 's', 't'] => some (-8)
  | [c] => if c = 'j' then none else some 0
  | _ => none

/-- The zone of a mail header, by name or by its distance. -/
def mailZone? (cs : List Char) : Option (Int × List Char) :=
  let name := cs.takeWhile Char.isAlpha
  if name = [] then do
    let (offset, cs) ← offset? ['-'] [] cs
    if offset.natAbs < 86400 then some (offset, cs) else none
  else (zoneHours? name).map fun h => (h * 3600, cs.dropWhile Char.isAlpha)

/-- The text behind the closing parenthesis of a comment that is `depth` deep. -/
def commentEnd? : (depth : Nat) → List Char → Option (List Char)
  | _, [] => none
  | depth, '\\' :: _ :: cs => commentEnd? depth cs
  | depth, c :: cs =>
    if c = '(' then commentEnd? (depth + 1) cs
    else if c = ')' then
      match depth with
      | 0 => some cs
      | depth + 1 => commentEnd? depth cs
    else if c = '\\' then none
    else commentEnd? depth cs

/-- The end of a comment takes at least one character, which is why reading comments ends. -/
theorem length_commentEnd? {depth : Nat} {cs rest : List Char}
    (h : commentEnd? depth cs = some rest) : rest.length < cs.length := by
  fun_induction commentEnd? depth cs <;> simp_all <;> omega

/-- Whether a text is nothing but comments, each with blanks in front of it or not. -/
def isComments (cs : List Char) : Bool :=
  if cs = [] then true
  else
    match _ht : trimStart cs with
    | '(' :: inner =>
      match _h : commentEnd? 0 inner with
      | some rest => isComments rest
      | none => false
    | _ => false
termination_by cs.length
decreasing_by
  have h1 := length_commentEnd? _h
  have h2 : (trimStart cs).length ≤ cs.length := (List.dropWhile_suffix _).length_le
  rw [_ht, List.length_cons] at h2
  omega

/-- Reads the date of a mail header. -/
def mail? (cs : List Char) : Option Instant := do
  let (weekday, cs) ← mailWeekday? (trimStart cs)
  let (day, cs) ← number? 1 2 (trimStart cs)
  let cs ← blanks? cs
  let (month, cs) ← shortName? monthNames cs
  let cs ← blanks? cs
  let (year, cs) ← mailYear? cs
  let cs ← blanks? cs
  let (hour, cs) ← number? 2 2 cs
  let cs ← skip? ':' (trimStart cs)
  let (minute, cs) ← number? 2 2 (trimStart cs)
  let (second, cs) ←
    match skip? ':' (trimStart cs) with
    | some cs => number? 2 2 cs
    | none => some (0, cs)
  let cs ← blanks? cs
  let (offset, cs) ← mailZone? cs
  let r : Reading := ⟨year, month + 1, day, hour, minute, second, 0, offset⟩
  let weekdayFits := weekday.all fun w => w = r.date.weekday
  if isComments cs ∧ weekdayFits then r.instant? else none

/-! ## Plain forms -/

/-- A part of a plain form. -/
inductive Part where
  | year
  | month
  | day
  | hour
  | minute
  | second
  /-- Any blanks, or none. -/
  | blanks
  | literal (c : Char)

/-- The part that a character of a form's spelling stands for. -/
def Part.ofChar (c : Char) : Part :=
  match c with
  | 'Y' => .year
  | 'm' => .month
  | 'd' => .day
  | 'H' => .hour
  | 'M' => .minute
  | 'S' => .second
  | ' ' => .blanks
  | c => .literal c

/-- A year of up to four digits, or of any number of them behind a sign. -/
def plainYear? (cs : List Char) : Option (Int × List Char) :=
  match cs with
  | '-' :: cs => (longNumber? 1 cs).map fun (n, rest) => (-(n : Int), rest)
  | '+' :: cs => (longNumber? 1 cs).map fun (n, rest) => ((n : Int), rest)
  | cs => (number? 1 4 cs).map fun (n, rest) => ((n : Int), rest)

/-- Reads one part off the front of a text; blanks in front of numbers are skipped. -/
def Part.read? (r : Reading) (cs : List Char) : Part → Option (Reading × List Char)
  | .year => (plainYear? (trimStart cs)).map fun (n, rest) => ({ r with year := n }, rest)
  | .month => (number? 1 2 (trimStart cs)).map fun (n, rest) => ({ r with month := n }, rest)
  | .day => (number? 1 2 (trimStart cs)).map fun (n, rest) => ({ r with day := n }, rest)
  | .hour => (number? 1 2 (trimStart cs)).map fun (n, rest) => ({ r with hour := n }, rest)
  | .minute => (number? 1 2 (trimStart cs)).map fun (n, rest) => ({ r with minute := n }, rest)
  | .second => (number? 1 2 (trimStart cs)).map fun (n, rest) => ({ r with second := n }, rest)
  | .blanks => some (r, trimStart cs)
  | .literal c => (skip? c cs).map fun rest => (r, rest)

/-- Reads a text in a plain form. -/
def plain? (form : String) (cs : List Char) : Option Instant := do
  let (r, rest) ← (form.toList.map Part.ofChar).foldlM (fun (r, cs) p => p.read? r cs)
    (({} : Reading), cs)
  if rest = [] then r.instant? else none

/-- The plain forms, in the order in which they are tried. -/
def plainForms : List String :=
  ["Y-m-d H:M:S", "Y-m-dTH:M:S", "Y-m-d H:M", "Y/m/d H:M:S", "Y-m-d", "Y/m/d", "m/d/Y", "d.m.Y"]

/-! ## All forms -/

/-- Reads seconds behind an at-sign. -/
def seconds? (cs : List Char) : Option Instant :=
  (Decimal.int64? cs).bind fun secs => Instant.ofUnix? secs 0

/-- Reads an instant in any of the accepted forms, without regard to blanks on either side. -/
def instant? (s : String) : Option Instant :=
  match Text.trim s.toList with
  | '@' :: cs => seconds? cs
  | cs =>
    (internet? cs).or ((mail? cs).or (plainForms.findSome? fun form => plain? form cs))

end AccessPolicy.Calendar
