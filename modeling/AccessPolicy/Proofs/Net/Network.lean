import AccessPolicy.Net.Network
import AccessPolicy.Proofs.Net.Address

/-!
# Networks read back

The written form of a network is read as that network (`Network.ofChars?_text`), whatever form its
mask was given in and whether or not its address has bits behind the shared ones. The slash parts
the address from the number of shared bits, which is no address of version 4 and hence no mask.
-/

namespace AccessPolicy.Net

open Decimal (digits)

namespace Network

/-- The address of a network. -/
def address : Network → Address
  | .v4 a _ => .v4 a
  | .v6 a _ => .v6 a

/-- The number of leading bits that the addresses of a network share. -/
def shared : Network → Nat
  | .v4 _ n => n
  | .v6 _ n => n

/-- The written form of a network in its two parts. -/
theorem text_toList (n : Network) : n.text.toList = n.address.chars ++ '/' :: digits n.shared := by
  cases n <;> exact String.toList_ofList

/-- The written form of a network is cut at the slash. -/
theorem cut_text (n : Network) :
    Text.cut '/' n.text.toList = (n.address.chars, some (digits n.shared)) := by
  rw [text_toList]
  exact Text.cut_append_cons (fun h => (Address.isAddressChar_of_mem_chars h).spec.2 rfl) _

/-- The written form of a network is read as that network. -/
theorem ofChars?_text (n : Network) : ofChars? n.text.toList = some n := by
  simp only [ofChars?, cut_text]
  cases n with
  | v4 a n =>
    have hshared : shared4? (digits n.val) = some n.val := by
      rw [shared4?, Net.v4?_digits, Decimal.signedNat?_digits]
    simp only [v4?, address, shared, Address.chars, v4?_dotted, Option.elim_some, hshared,
      Option.bind_eq_bind, Option.bind_some]
    rw [dif_pos n.isLt, Option.some_or]
  | v6 a n =>
    -- An address of version 6 is none of version 4, which is tried first.
    simp only [v4?, v6?, address, shared, Address.chars, v4?_colonForm, v6?_colonForm,
      Option.elim_some,
      Decimal.signedNat?_digits, Option.bind_eq_bind, Option.bind_some, Option.bind_none]
    rw [dif_pos n.isLt, Option.none_or]

/-- The written form of a network has no blanks on either side. -/
theorem trim_text (n : Network) : Text.trim n.text.toList = n.text.toList := by
  rw [text_toList]
  refine Text.trim_eq_self (fun c hc => ?_) fun c hc => ?_
  · -- A character of the address stands in front.
    cases hchars : n.address.chars with
    | nil =>
      rw [hchars] at hc
      exact Option.some_inj.mp hc ▸ (by decide)
    | cons d ds =>
      rw [hchars] at hc
      refine (Address.isAddressChar_of_mem_chars (a := n.address) ?_).spec.1
      rw [hchars, ← Option.some_inj.mp hc]
      exact List.mem_cons_self
  · -- A digit stands at the end.
    have hsplit : n.address.chars ++ '/' :: digits n.shared =
        (n.address.chars ++ ['/']) ++ digits n.shared := by
      rw [List.append_assoc]
      rfl
    rw [hsplit] at hc
    exact Text.isBlank_of_isDigit (Decimal.isDigit_of_mem_getLast? hc)

end Network

/-- The written form of an address has no blanks on either side. -/
theorem Address.trim_chars (a : Address) : Text.trim a.chars = a.chars :=
  Text.trim_eq_self
    (fun _ hc => (isAddressChar_of_mem_chars (List.mem_of_head? hc)).spec.1)
    fun _ hc => (isAddressChar_of_mem_chars (List.mem_of_getLast? hc)).spec.1

end AccessPolicy.Net
