import AccessPolicy.Proofs.Decimal.Positional
import AccessPolicy.Proofs.Net.Network
import AccessPolicy.Proofs.Value.LeadingInteger
import AccessPolicy.Proofs.Value.LeadingNumeral
import AccessPolicy.Proofs.Value.OfJson

/-!
# Literals read back

The literal of a value that came of a literal stands for that value (`ofLiteral_literal`). There is
a case for each kind of value: the literal names the type, and what stands behind it is read as the
value that it was written for. Instants are left out here, since not all of them can be written. Of
the floating-point numbers that stand in arrays and objects it is asked that their JSON texts are
read back, which the quick reader of JSON does not do for all of them.
-/

namespace AccessPolicy

open Literal (HasKind Kind leadingInt leadingFloat)

namespace Literal

/-! ## Integers -/

/-- The text of an integer that fits a signed word has that integer at its front. -/
theorem leadingInt_intChars {i : Int} (h : Decimal.FitsInt64 i) :
    leadingInt (Decimal.intChars i) = i := by
  let p : IntegerText :=
    ⟨[], if i < 0 then .minus else .absent, Decimal.digits i.natAbs, nofun, fun _ =>
      Decimal.isDigit_of_mem_digits⟩
  -- The text is spelled as an integer without blanks, so that the reader takes all of it.
  have hchars : Decimal.intChars i = p.chars := by
    show (if i < 0 then '-' :: Decimal.digits i.natAbs else Decimal.digits i.natAbs) =
      (if i < 0 then Decimal.Sign.minus else .absent).chars ++ Decimal.digits i.natAbs
    split <;> rfl
  have hvalue : p.value = i := by
    show (if i < 0 then Decimal.Sign.minus else .absent).apply
      (Nat.ofDigitChars 10 (Decimal.digits i.natAbs) 0) = i
    rw [← Decimal.valueOf_eq_ofDigitChars, Decimal.valueOf_digits]
    split
    · next hneg =>
      show -(i.natAbs : Int) = i
      omega
    · next hnonneg =>
      show (i.natAbs : Int) = i
      omega
  obtain ⟨hmin, hmax⟩ := h
  unfold Decimal.minInt64 at hmin
  unfold Decimal.maxInt64 at hmax
  rw [hchars, leadingInt_eq_clamp_atFront, IntegerText.atFront_chars, hvalue]
  omega

/-! ## Floating-point numbers -/

/-- The number at the front of a text is finite. -/
theorem isFinite_leadingFloat (cs : List Char) : Decimal.isFinite (leadingFloat cs) = true := by
  rw [leadingFloat]
  cases hread : Decimal.number? (numeralPrefix (Text.trimStart cs)) with
  | none => decide +kernel
  | some x => exact Decimal.isFinite_of_number? hread

/-- The text of a finite number has that number at its front. -/
theorem leadingFloat_write {x : Float} (h : Decimal.isFinite x = true) :
    leadingFloat (Value.numberLayout.write x).toList = x := by
  have hread := Decimal.number?_write (l := Value.numberLayout) rfl rfl h
  obtain ⟨negative, whole, fraction, htext, hplaces, -⟩ :=
    Decimal.write_eq_pointed (l := Value.numberLayout) rfl rfl h
  rw [htext, ← hplaces.chars_spelling] at hread ⊢
  rw [leadingFloat_chars, ← Decimal.NumeralText.number?_chars, hread, Option.getD_some]

/-! ## Addresses and networks -/

/-- The text of an address is read as that address. -/
theorem address?_address (a : Net.Address) : address? a.text.toList = .ok (.address a) := by
  have hslash : ¬a.chars.contains '/' = true := by
    rw [List.contains_iff_mem]
    exact fun h => (Net.Address.isAddressChar_of_mem_chars h).spec.2 rfl
  rw [Net.Address.text, String.toList_ofList, address?, if_neg hslash, a.trim_chars,
    a.ofChars?_chars]

/-- The text of a network is read as that network, where an address may stand too. -/
theorem address?_network (n : Net.Network) : address? n.text.toList = .ok (.network n) := by
  have hslash : n.text.toList.contains '/' = true := by
    rw [Net.Network.text_toList, List.contains_iff_mem]
    exact List.mem_append_right _ List.mem_cons_self
  rw [address?, if_pos hslash, network?, n.trim_text, n.ofChars?_text]

end Literal

/-! ## Arrays and objects -/

/-- Whether a JSON value is an array or an object. -/
def Json.isNested : Json → Bool
  | .arr _ => true
  | .obj _ => true
  | _ => false

/-- A scalar still has the shape of what is read where it is the one element of an array. -/
theorem Json.Shaped.singleton {P : Float → Prop} {depth : Nat} {w : Json} (h : w.Shaped P depth)
    (hdepth : 0 < depth) (hitems : ∀ items, w ≠ .arr items) (hfields : ∀ fields, w ≠ .obj fields) :
    (Json.arr [w]).Shaped P depth := by
  refine ⟨hdepth, ?_, trivial⟩
  cases w with
  | arr items => exact absurd rfl (hitems items)
  | obj fields => exact absurd rfl (hfields fields)
  | null | bool | int | float | str => exact h

namespace Value

open Json (FloatReadsBack)

/-- The JSON text of an array or an object is a literal of its value. -/
theorem ofLiteral_text {w : Json} (h : w.Shaped FloatReadsBack Json.maxDepth)
    (hnested : w.isNested = true) : ofLiteral (Kind.array.front ++ w.text) = ofJson w := by
  refine (Literal.hasKind_front .array _).ofLiteral_eq ?_
  rw [Literal.readAs, Literal.array?, String.ofList_toList, Json.parse?_text h]
  cases w with
  | arr items => rfl
  | obj fields => rfl
  | null | bool | int | float | str => exact absurd hnested Bool.false_ne_true

/-- The literal of an array or an object that comes of JSON stands for it. -/
theorem ofLiteral_literal_ofJson {w : Json} (h : w.Shaped (fun _ => True) Json.maxDepth)
    (hnested : w.isNested = true) (hfloats : ∀ x ∈ (ofJson w).nestedFloats, FloatReadsBack x) :
    ofLiteral (ofJson w).literal = ofJson w := by
  cases w with
  | arr items =>
    obtain ⟨hshaped, heq⟩ := toJson_ofJson h hfloats
    exact (ofLiteral_text hshaped rfl).trans heq
  | obj fields =>
    obtain ⟨hshaped, heq⟩ := toJson_ofJson h hfloats
    exact (ofLiteral_text hshaped rfl).trans heq
  | null | bool | int | float | str => exact absurd hnested Bool.false_ne_true

/-- The literal of a value that a literal stands for stands for that value, unless it is an
instant. -/
theorem ofLiteral_literal_of_denotes {raw : String} {v : Value} (h : Literal.Denotes raw v)
    (hraw : ofLiteral raw = v) (hinstant : ∀ t, v ≠ .instant t)
    (hfloats : ∀ x ∈ v.nestedFloats, FloatReadsBack x) : ofLiteral v.literal = v := by
  -- Each type has a literal of its own, behind which the value is read as it was written.
  cases h with
  | null => exact (Literal.hasKind_front .null "").ofLiteral_eq rfl
  | bool b =>
    cases b with
    | false => exact (Literal.hasKind_front .bool "false").ofLiteral_eq (by rfl)
    | true => exact (Literal.hasKind_front .bool "true").ofLiteral_eq (by rfl)
  | int cs =>
    refine (Literal.hasKind_front .int _).ofLiteral_eq ?_
    rw [Literal.readAs, Decimal.intText, String.toList_ofList,
      Literal.leadingInt_intChars (Literal.fitsInt64_leadingInt cs)]
  | float cs =>
    refine (Literal.hasKind_front .float _).ofLiteral_eq ?_
    rw [Literal.readAs, Literal.leadingFloat_write (Literal.isFinite_leadingFloat cs)]
  | str hsuffix =>
    refine (Literal.hasKind_front .string _).ofLiteral_eq ?_
    rw [Literal.readAs, String.ofList_toList]
  | @items cs items hkind hparse =>
    exact ofLiteral_literal_ofJson (w := .arr items) (Json.shaped_of_parse? hparse) rfl hfloats
  | @fields cs fields hkind hparse =>
    exact ofLiteral_literal_ofJson (w := .obj fields) (Json.shaped_of_parse? hparse) rfl hfloats
  | @scalar cs w hkind hparse hitems hfields =>
    have hshaped := (Json.shaped_of_parse? hparse).singleton (by decide) hitems hfields
    exact ofLiteral_literal_ofJson (w := .arr [w]) hshaped rfl hfloats
  | noItems => exact ofLiteral_literal_ofJson (w := .arr []) ⟨by decide, trivial⟩ rfl hfloats
  | address a => exact (Literal.hasKind_front .address _).ofLiteral_eq (Literal.address?_address a)
  | network n => exact (Literal.hasKind_front .address _).ofLiteral_eq (Literal.address?_network n)
  | instant => exact absurd rfl (hinstant _)
  | invalid => exact hraw

/-- A value that a literal stands for equals itself, unless the literal could not be read. -/
theorem equals_self_of_denotes {raw : String} {v : Value} (h : Literal.Denotes raw v)
    (hinvalid : ∀ s, v ≠ .invalid s) (hfloats : ∀ x ∈ v.nestedFloats, FloatReadsBack x) :
    equals v v = true := by
  have hfinite : ∀ x ∈ v.nestedFloats, Decimal.isFinite x := fun x hx => (hfloats x hx).isFinite
  -- A value that could not be read is excluded, and so are numbers that are none.
  cases h with
  | null => rfl
  | bool | int | str | address | network | instant => exact beq_self_eq_true _
  | float cs => exact Decimal.sameNumber_self (Literal.isFinite_leadingFloat cs)
  | @items cs items hkind hparse =>
    exact equals_ofJson_self (w := .arr items) (Json.shaped_of_parse? hparse) hfinite
  | @fields cs fields hkind hparse =>
    exact equals_ofJson_self (w := .obj fields) (Json.shaped_of_parse? hparse) hfinite
  | @scalar cs w hkind hparse hitems hfields =>
    have hshaped := (Json.shaped_of_parse? hparse).singleton (by decide) hitems hfields
    exact equals_ofJson_self (w := .arr [w]) hshaped hfinite
  | noItems => rfl
  | invalid => exact absurd rfl (hinvalid raw)

/-- The literal of the value of a literal stands for that value, and the two are equal in the sense
of conditions unless they could not be read. This goes for all values but instants, and supposes
that the numbers in an array or an object are read back from their JSON texts. -/
theorem ofLiteral_literal (raw : String) (hinstant : ∀ t, ofLiteral raw ≠ .instant t)
    (hfloats : ∀ x ∈ (ofLiteral raw).nestedFloats, FloatReadsBack x) :
    ofLiteral (ofLiteral raw).literal = ofLiteral raw ∧
      ((∀ s, ofLiteral raw ≠ .invalid s) →
        equals (ofLiteral raw) (ofLiteral (ofLiteral raw).literal) = true) := by
  have hdenotes := Literal.denotes_ofLiteral raw
  have hself := ofLiteral_literal_of_denotes hdenotes rfl hinstant hfloats
  refine ⟨hself, fun hinvalid => ?_⟩
  rw [hself]
  exact equals_self_of_denotes hdenotes hinvalid hfloats

/-- One half in an array within an array is read back. -/
theorem ofLiteral_literal_half :
    ofLiteral (ofLiteral "(*array)[[0.5],1]").literal = ofLiteral "(*array)[[0.5],1]" ∧
      equals (ofLiteral "(*array)[[0.5],1]") (ofLiteral (ofLiteral "(*array)[[0.5],1]").literal) =
        true := by
  have hvalue : ofLiteral "(*array)[[0.5],1]" = .arr [.arr [.float 0.5], .int 1] := by
    have hread : FloatReadsBack 0.5 := by decide +kernel
    -- The text of the literal is that of its JSON value behind the type.
    have htext : "(*array)[[0.5],1]" =
        Kind.array.front ++ (Json.arr [.arr [.float 0.5], .int 1]).text := by
      decide +kernel
    have hshaped : (Json.arr [.arr [.float 0.5], .int 1]).Shaped FloatReadsBack Json.maxDepth :=
      ⟨by decide, ⟨by decide, hread, trivial⟩, (by decide : Json.FitsWord 1), trivial⟩
    rw [htext, ofLiteral_text hshaped rfl]
    rfl
  have hfloats : ∀ x ∈ (ofLiteral "(*array)[[0.5],1]").nestedFloats, FloatReadsBack x := by
    rw [hvalue]
    decide +kernel
  obtain ⟨hself, hequal⟩ := ofLiteral_literal "(*array)[[0.5],1]"
    (by rw [hvalue]; exact fun t ht => nomatch ht) hfloats
  exact ⟨hself, hequal (by rw [hvalue]; exact fun s hs => nomatch hs)⟩

end Value

end AccessPolicy
