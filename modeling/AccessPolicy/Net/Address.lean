import AccessPolicy.Decimal.Integer
import AccessPolicy.Text.Cut
import AccessPolicy.Text.Ranges

/-!
# Internet addresses

Addresses of version 4 and 6, their order, their written form and its reader. Version 6 is written
in the recommended way: groups without leading zeros, the first of the longest runs of two or more
zero groups left out, and mapped addresses of version 4 in their own form.
-/

namespace AccessPolicy.Net

/-- An internet address. -/
inductive Address where
  | v4 (bits : BitVec 32)
  | v6 (bits : BitVec 128)
  deriving DecidableEq

/-- The order of addresses: version 4 before version 6, and by number within a version. -/
def Address.order : Address → Address → Ordering
  | .v4 a, .v4 b => compare a.toNat b.toNat
  | .v4 _, .v6 _ => .lt
  | .v6 _, .v4 _ => .gt
  | .v6 a, .v6 b => compare a.toNat b.toNat

/-- Exchanged addresses compare the other way round. -/
theorem Address.order_swap (a b : Address) : b.order a = (a.order b).swap := by
  cases a <;> cases b <;> simp [order, Nat.compare_swap]

/-! ## Writing -/

/-- The four bytes of an address, from the front. -/
def bytes (a : BitVec 32) : List Nat :=
  [24, 16, 8, 0].map fun shift => (a.toNat >>> shift) % 256

/-- The eight groups of an address, from the front. -/
def groups (a : BitVec 128) : List Nat :=
  [112, 96, 80, 64, 48, 32, 16, 0].map fun shift => (a.toNat >>> shift) % 65536

/-- Four numbers with points in between. -/
def dotted (a : BitVec 32) : List Char :=
  Text.join '.' ((bytes a).map Decimal.digits)

/-- Groups in hexadecimal with colons in between. -/
def colonized (gs : List Nat) : List Char :=
  Text.join ':' (gs.map (Nat.toDigits 16))

/-- The number of zeros at the front of a list. -/
def zerosAtFront (gs : List Nat) : Nat :=
  (gs.takeWhile (· = 0)).length

/-- The start and the length of the first of the longest runs of zeros. -/
def longestZeros (gs : List Nat) : Nat × Nat :=
  (List.range gs.length).foldl
    (fun best i =>
      let n := zerosAtFront (gs.drop i)
      if best.2 < n then (i, n) else best)
    (0, 0)

/-- The written form of an address of version 6. -/
def colonForm (a : BitVec 128) : List Char :=
  if a.toNat / 0x100000000 = 0xFFFF then "::ffff:".toList ++ dotted (a.truncate 32)
  else
    let gs := groups a
    let (start, length) := longestZeros gs
    if 2 ≤ length then
      colonized (gs.take start) ++ "::".toList ++ colonized (gs.drop (start + length))
    else colonized gs

/-- The written form of an address. -/
def Address.chars : Address → List Char
  | .v4 a => dotted a
  | .v6 a => colonForm a

/-- The written form of an address. -/
def Address.text (a : Address) : String :=
  String.ofList a.chars

/-! ## Reading -/

/-- Reads a number below 256, without needless zeros in front. -/
def byte? (cs : List Char) : Option Nat :=
  (Decimal.nat? cs).filter fun n => decide (n < 256 ∧ cs = Decimal.digits n)

/-- Reads an address of version 4. -/
def v4? (cs : List Char) : Option (BitVec 32) :=
  match (Text.pieces '.' cs).mapM byte? with
  | some [a, b, c, d] => some (BitVec.ofNat 32 (((a * 256 + b) * 256 + c) * 256 + d))
  | _ => none

/-- Reads a group of one to four hexadecimal digits. -/
def group? (cs : List Char) : Option Nat :=
  if cs = [] ∨ 4 < cs.length then none
  else cs.foldlM (fun n c => (Text.hexValue? c).map fun d => 16 * n + d) 0

/-- Reads the groups between colons. The last two of them may be written as an address of version 4
if `dottedEnd` allows it. -/
def groupsOf? (dottedEnd : Bool) : List (List Char) → Option (List Nat)
  | [] => some []
  | [p] =>
    match group? p with
    | some g => some [g]
    | none =>
      if dottedEnd then (v4? p).map fun a => [a.toNat / 65536, a.toNat % 65536] else none
  | p :: q :: ps => do
    let g ← group? p
    let gs ← groupsOf? dottedEnd (q :: ps)
    return g :: gs

/-- Reads groups with colons in between, of which there may be none. -/
def groupList? (dottedEnd : Bool) (cs : List Char) : Option (List Nat) :=
  if cs = [] then some [] else groupsOf? dottedEnd (Text.pieces ':' cs)

/-- The text before and behind the first double colon. -/
def cutDoubleColon : List Char → Option (List Char × List Char)
  | ':' :: ':' :: cs => some ([], cs)
  | c :: cs => (cutDoubleColon cs).map fun (head, tail) => (c :: head, tail)
  | [] => none

/-- The address with the given groups, if they are eight. -/
def ofGroups? (gs : List Nat) : Option (BitVec 128) :=
  if gs.length = 8 then some (BitVec.ofNat 128 (gs.foldl (fun n g => 65536 * n + g) 0)) else none

/-- Reads an address of version 6. A double colon stands for at least one group of zeros. -/
def v6? (cs : List Char) : Option (BitVec 128) :=
  match cutDoubleColon cs with
  | none => (groupList? true cs).bind ofGroups?
  | some (head, tail) => do
    let front ← groupList? false head
    let back ← groupList? true tail
    if front.length + back.length ≤ 7 then
      ofGroups? (front ++ List.replicate (8 - front.length - back.length) 0 ++ back)
    else none

/-- Reads an address. -/
def Address.ofChars? (cs : List Char) : Option Address :=
  match v4? cs with
  | some a => some (.v4 a)
  | none => (v6? cs).map .v6

example : (Address.ofChars? "::ffff:1.2.3.4".toList).map Address.text = some "::ffff:1.2.3.4" := by
  decide +kernel

example : (Address.ofChars? "1:0:0:2:0:0:0:3".toList).map Address.text = some "1:0:0:2::3" := by
  decide +kernel

example : Address.ofChars? "1.2.3.04".toList = none := by decide +kernel

end AccessPolicy.Net
