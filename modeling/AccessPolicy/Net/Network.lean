import AccessPolicy.Net.Address

/-!
# Networks

A network is an address and the number of its leading bits that the addresses of the network share.
The remaining bits of the address are kept as they were written, and do not matter for `contains`.
-/

namespace AccessPolicy.Net

/-- A range of addresses that agree in their first bits. -/
inductive Network where
  | v4 (bits : BitVec 32) (shared : Fin 33)
  | v6 (bits : BitVec 128) (shared : Fin 129)
  deriving DecidableEq

namespace Network

/-- Whether two addresses agree in their first `shared` bits. -/
def agree {width : Nat} (shared : Nat) (a b : BitVec width) : Bool :=
  a.toNat >>> (width - shared) = b.toNat >>> (width - shared)

/-- Whether an address lies in a network; the versions must be the same. -/
def contains : Network → Address → Bool
  | .v4 a shared, .v4 b => agree shared.val a b
  | .v6 a shared, .v6 b => agree shared.val a b
  | _, _ => false

/-- A network lies around its own address. -/
theorem contains_self (n : Network) :
    n.contains (match n with | .v4 a _ => .v4 a | .v6 a _ => .v6 a) := by
  cases n <;> simp [contains, agree]

/-- The written form: the address, a slash, and the number of shared bits. -/
def text : Network → String
  | .v4 a shared => String.ofList (dotted a ++ '/' :: Decimal.digits shared.val)
  | .v6 a shared => String.ofList (colonForm a ++ '/' :: Decimal.digits shared.val)

/-- The number of shared bits that a mask stands for: ones in front and zeros behind. -/
def maskLength? (mask : BitVec 32) : Option Nat :=
  (List.range 33).find? fun n => mask.toNat = 0x100000000 - Nat.pow 2 (32 - n)

/-- Reads the part behind the slash of a network of version 4: a mask or a number. -/
def shared4? (cs : List Char) : Option Nat :=
  match v4? cs with
  | some mask => maskLength? mask
  | none => Decimal.signedNat? cs

/-- Reads a network of version 4; an address alone is a network of its own. -/
def v4? (address : List Char) (shared : Option (List Char)) : Option Network := do
  let a ← Net.v4? address
  let n ← shared.elim (some 32) shared4?
  if h : n < 33 then some (.v4 a ⟨n, h⟩) else none

/-- Reads a network of version 6; an address alone is a network of its own. -/
def v6? (address : List Char) (shared : Option (List Char)) : Option Network := do
  let a ← Net.v6? address
  let n ← shared.elim (some 128) Decimal.signedNat?
  if h : n < 129 then some (.v6 a ⟨n, h⟩) else none

/-- Reads a network. -/
def ofChars? (cs : List Char) : Option Network :=
  let (address, shared) := Text.cut '/' cs
  (v4? address shared).or (v6? address shared)

example : (ofChars? "10.1.2.3/255.0.0.0".toList).map text = some "10.1.2.3/8" := by decide +kernel

end Network

end AccessPolicy.Net
