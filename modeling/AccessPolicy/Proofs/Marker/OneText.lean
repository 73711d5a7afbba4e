import AccessPolicy.Condition.Basic
import AccessPolicy.Proofs.Decimal.Agreement
import AccessPolicy.Proofs.Marker.Division
import AccessPolicy.Proofs.Pattern.Wildcard
import AccessPolicy.Proofs.Value.Literal

/-!
# The text of a marker on its own and in the midst of other text

A marker in the midst of other text is replaced by the text of its value, in which a number is
written as in JSON. An operand that is a marker on its own becomes a typed value, and the text of
that shows neither an exponent nor the point of a whole number; besides, an integer beyond the
signed words is a floating-point number there. `HasOneText` says which scalars have the same text
both ways (`text?_ofJson_iff`). For these, and for no other numbers, literal text can be put in
front of a marker and of all wildcard patterns for it without a difference (`spliced_agrees`).
-/

namespace AccessPolicy.Marker

open Condition (operand isLike)
open Decimal (Binary FitsInt64 IsPlain IsWhole ofInteger)
open Literal (HasKind)

/-! ## Scalars with one text -/

/-- The scalars whose text in the midst of other text is the text that they have as values. -/
inductive HasOneText : Json → Prop where
  | null : HasOneText .null
  | bool (b : Bool) : HasOneText (.bool b)
  | str (s : String) : HasOneText (.str s)
  | word {i : Int} : FitsInt64 i → HasOneText (.int i)
  /-- An integer beyond the signed words becomes a floating-point number, whose shortest decimal it
  has to be. -/
  | whole {i : Int} {negative : Bool} {m : Nat} {q : Int} :
    Binary.ofFloat (ofInteger i) = .finite negative m q →
    IsWhole Value.numberLayout negative m q i → HasOneText (.int i)
  | plain {x : Float} {negative : Bool} {m : Nat} {q : Int} :
    Binary.ofFloat x = .finite negative m q →
    IsPlain Value.numberLayout Json.numberLayout m q → HasOneText (.float x)

/-- Every integer is near to a finite number. -/
theorem isFinite_ofInteger (i : Int) : Decimal.isFinite (ofInteger i) = true := by
  unfold ofInteger
  cases hnear : Decimal.nearest? (i < 0) i.natAbs 1 with
  | some x => exact Decimal.isFinite_of_nearest? hnear
  | none => decide +kernel

/-- The value of an integer has the text that is spliced for it exactly when there is one text. -/
theorem text?_ofInt_iff (i : Int) :
    (Value.ofInt i).text? = some (Decimal.intText i) ↔ HasOneText (.int i) := by
  by_cases hfits : FitsInt64 i
  · rw [Value.ofInt, if_pos hfits]
    exact iff_of_true rfl (.word hfits)
  · -- An integer beyond a word is not zero, so that its digits spell it.
    have hne : i ≠ 0 := by
      rintro rfl
      exact hfits (by decide)
    obtain ⟨negative, m, q, hparts, -⟩ := Decimal.parts_of_isFinite (isFinite_ofInteger i)
    rw [Value.ofInt, if_neg hfits, Value.text?, Option.some.injEq,
      Decimal.write_eq_intText_iff rfl rfl hparts hne]
    constructor
    · exact fun h => .whole hparts h
    · intro h
      cases h with
      | word hword => exact absurd hword hfits
      | whole hparts' h =>
        obtain ⟨rfl, rfl, rfl⟩ := Binary.finite.inj (hparts.symm.trans hparts')
        exact h

/-- The two layouts write a number alike exactly when it has one text. -/
theorem write_eq_floatText_iff (x : Float) :
    Value.numberLayout.write x = Json.floatText x ↔ HasOneText (.float x) := by
  rw [Json.floatText]
  by_cases hfinite : Decimal.isFinite x = true
  · obtain ⟨negative, m, q, hparts, -⟩ := Decimal.parts_of_isFinite hfinite
    rw [if_pos hfinite, Decimal.write_eq_write_iff rfl rfl rfl hparts]
    constructor
    · exact fun h => .plain hparts h
    · -- A number with a fraction has one text only in the way that is left.
      rintro (_ | _ | _ | _ | _ | ⟨hparts', h⟩)
      obtain ⟨-, rfl, rfl⟩ := Binary.finite.inj (hparts.symm.trans hparts')
      exact h
  · rw [if_neg hfinite]
    refine iff_of_false ?_ ?_
    · -- What is no finite number is written as a word, which is another one in each layout.
      rcases Decimal.write_of_not_isFinite hfinite with hwrite | hwrite | hwrite
      all_goals
        rw [hwrite]
        decide
    · rintro (_ | _ | _ | _ | _ | ⟨hparts, -⟩)
      exact hfinite (by rw [Decimal.isFinite, hparts])

/-- The text that a value of JSON has as a value is the one that it has in the midst of other text
for the scalars with one text, and for no others. -/
theorem text?_ofJson_iff (v : Json) :
    (Value.ofJson v).text? = some (spliced v) ↔ HasOneText v := by
  cases v with
  | null => exact iff_of_true rfl .null
  | bool b => exact iff_of_true rfl (.bool b)
  | str s => exact iff_of_true rfl (.str s)
  | int i => exact text?_ofInt_iff i
  | float x =>
    rw [← write_eq_floatText_iff, Value.ofJson, Value.text?, Option.some.injEq]
    rfl
  | arr items => exact iff_of_false nofun nofun
  | obj fields => exact iff_of_false nofun nofun

/-! ## Operands -/

section

variable {r : Resolver} {args : Args} {token front : List Char} {alone within : String}

/-- An operand that is a single marker is the value of the marker, read as a literal. -/
theorem operand_alone (h : Divides alone.toList [.marker token]) :
    operand r args (.str alone) = .ofLiterals (r.lookup args token) := by
  have hsegments := divides_iff.mp h
  have hmarker : hasMarker alone = true := by
    rw [hasMarker, ← hsegments]
    rfl
  rw [operand, Resolver.resolveAll, if_pos hmarker, Resolver.resolve, ← hsegments]

/-- An operand that is a marker behind literal text is the text of both, read as a literal. -/
theorem operand_within (h : Divides within.toList [.text front, .marker token]) :
    operand r args (.str within) =
      .ofLiteral (String.ofList front ++ spliced (r.lookup args token)) := by
  have hmarker : hasMarker within = true := by
    rw [hasMarker, ← divides_iff.mp h]
    rfl
  rw [operand, Resolver.resolveAll, if_pos hmarker, r.resolve_behind args h]
  rfl

end

/-- A text without a type stands for itself. -/
theorem ofLiteral_of_not_hasKind {raw : String} (h : ∀ kind rest, ¬HasKind raw kind rest) :
    Value.ofLiteral raw = .str raw := by
  rw [Value.ofLiteral, Literal.read?_of_not_hasKind h]

/-- Scalars are read as they are, apart from texts with a type. -/
theorem text?_ofLiterals {v : Json} (h : ∀ s, v = .str s → ∀ kind rest, ¬HasKind s kind rest)
    {text : String} (htext : (Value.ofJson v).text? = some text) :
    (Value.ofLiterals v).text? = some text := by
  cases v with
  | str s =>
    rw [Value.ofLiterals, ofLiteral_of_not_hasKind (h s rfl)]
    exact htext
  | arr items => exact absurd htext nofun
  | obj fields => exact absurd htext nofun
  | _ => exact htext

/-! ## Patterns -/

/-- There is no asterisk in a number. -/
theorem asterisk_not_mem_write (x : Float) : '*' ∉ (Value.numberLayout.write x).toList := by
  by_cases hfinite : Decimal.isFinite x = true
  · obtain ⟨negative, whole, fraction, htext, hplaces, -⟩ :=
      Decimal.write_eq_pointed (l := Value.numberLayout) rfl rfl hfinite
    -- The sign, the digits and the point are all the characters of a finite number.
    have hbody : '*' ∉ Decimal.pointed whole fraction := by
      intro hmem
      rcases hplaces.mem_pointed hmem with hdigit | ⟨hpoint, -⟩
      · exact absurd hdigit (by decide)
      · exact absurd hpoint (by decide)
    rw [htext]
    cases negative with
    | true => exact List.not_mem_cons_of_ne_of_not_mem (by decide) hbody
    | false => exact hbody
  · rcases Decimal.write_of_not_isFinite hfinite with hwrite | hwrite | hwrite
    all_goals
      rw [hwrite]
      decide

/-- Only numbers have more than one text. -/
theorem asterisk_not_mem_text? {v : Json} (h : ¬HasOneText v) {text : String}
    (htext : (Value.ofJson v).text? = some text) : '*' ∉ text.toList := by
  cases v with
  | null => exact absurd .null h
  | bool b => exact absurd (.bool b) h
  | str s => exact absurd (.str s) h
  | int i =>
    have hfits : ¬FitsInt64 i := fun hfits => h (.word hfits)
    rw [Value.ofJson, Value.ofInt, if_neg hfits] at htext
    exact Option.some.inj htext ▸ asterisk_not_mem_write _
  | float x => exact Option.some.inj htext ▸ asterisk_not_mem_write x
  | arr items => exact absurd htext nofun
  | obj fields => exact absurd htext nofun

/-- To match a pattern, a value is taken by its text. -/
theorem isLike_str {v : Value} {subject : String} (h : v.text? = some subject) (pattern : String) :
    isLike v (.str pattern) = Pattern.like pattern subject := by
  unfold isLike
  rw [h]
  rfl

/-- Two operands of a marker: the marker alone, and the marker behind literal text. Neither comes to
be a text with a type. -/
structure AloneAndWithin (r : Resolver) (args : Args) (token : List Char)
    (front alone within : String) : Prop where
  alone : Divides alone.toList [.marker token]
  within : Divides within.toList [.text front.toList, .marker token]
  not_hasKind_alone : ∀ s, r.lookup args token = .str s → ∀ kind rest, ¬HasKind s kind rest
  not_hasKind_within : ∀ kind rest, ¬HasKind (front ++ spliced (r.lookup args token)) kind rest

/-- Alone, the token's value is matched by its own text; within a text, by the front and the spliced
value. -/
theorem AloneAndWithin.text? {r : Resolver} {args : Args} {token : List Char}
    {front alone within text : String} (h : AloneAndWithin r args token front alone within)
    (htext : (Value.ofJson (r.lookup args token)).text? = some text) :
    (operand r args (.str alone)).text? = some text ∧
      (operand r args (.str within)).text? = some (front ++ spliced (r.lookup args token)) := by
  rw [operand_alone h.alone, operand_within h.within, String.ofList_toList,
    ofLiteral_of_not_hasKind h.not_hasKind_within]
  exact ⟨text?_ofLiterals h.not_hasKind_alone htext, rfl⟩

/-- A marker with a scalar value gives the same text on its own and behind literal text exactly if
the value has one text. With such a value a wildcard pattern covers the marker on its own exactly if
the literal text and the pattern cover the marker behind the literal text; with any other scalar,
the text that the marker has on its own is a pattern for which this fails. -/
theorem spliced_agrees (v : Json) :
    ((Value.ofJson v).text? = some (spliced v) ↔ HasOneText v) ∧
      ∀ (r : Resolver) (args : Args) (token : List Char) (front alone within text : String),
        r.lookup args token = v → (Value.ofJson v).text? = some text →
        AloneAndWithin r args token front alone within →
          (operand r args (.str alone)).text? = some text ∧
            (operand r args (.str within)).text? = some (front ++ spliced v) ∧
            ∀ pattern : String, '*' ∉ front.toList → (Pattern.wildcard? pattern).isSome = true →
              (Pattern.wildcard? (front ++ pattern)).isSome = true →
              (HasOneText v → isLike (operand r args (.str within)) (.str (front ++ pattern)) =
                isLike (operand r args (.str alone)) (.str pattern)) ∧
              (¬HasOneText v → pattern = text →
                isLike (operand r args (.str within)) (.str (front ++ pattern)) = false ∧
                isLike (operand r args (.str alone)) (.str pattern) = true) := by
  refine ⟨text?_ofJson_iff v, ?_⟩
  rintro r args token front alone within text rfl htext h
  obtain ⟨halone, hwithin⟩ := h.text? htext
  refine ⟨halone, hwithin, fun pattern hfront hp hp' => ⟨fun hone => ?_, ?_⟩⟩
  · -- With one text, the literal text stands in front of the subject and of the pattern.
    have hsame := (text?_ofJson_iff _).mpr hone
    rw [htext, Option.some.injEq] at hsame
    rw [isLike_str hwithin, isLike_str halone, Pattern.like_append hfront hp hp', hsame]
  · -- The value alone is covered by its own text, and behind the literal text it has another one.
    rintro hmany rfl
    have hpattern := asterisk_not_mem_text? hmany htext
    rw [isLike_str hwithin, isLike_str halone, Pattern.like_append hfront hp hp']
    refine ⟨Bool.eq_false_iff.mpr fun hlike => hmany ?_, (Pattern.like_iff_eq hpattern hp).mpr rfl⟩
    rw [← text?_ofJson_iff, htext, (Pattern.like_iff_eq hpattern hp).mp hlike]

/-- The resolver that has the arguments as its only source. -/
def argsOnly : Resolver :=
  ⟨(∅ : Table Source).insert "ARGS" Source.args⟩

/-- One half has one text, and a pattern on it answers alike alone and within a text. -/
theorem spliced_agrees_half :
    (Value.ofJson (.float 0.5)).text? = some (spliced (.float 0.5)) ∧
      isLike (operand argsOnly [("x", .float 0.5)] (.str "v$\x7bARGS.x\x7d"))
        (.str ("v" ++ "0.*")) =
        isLike (operand argsOnly [("x", .float 0.5)] (.str "$\x7bARGS.x\x7d")) (.str "0.*") := by
  have hone : HasOneText (.float 0.5) :=
    .plain (by decide +kernel : Binary.ofFloat 0.5 = .finite false 0x10000000000000 (-53))
      ⟨by decide, by decide +kernel, by decide +kernel, by decide +kernel⟩
  -- A letter in front of the value leaves it without a type.
  have huntyped : ∀ kind rest, ¬HasKind ("v" ++ spliced (.float 0.5)) kind rest := by
    have hsplit : Literal.split? ("v" ++ spliced (.float 0.5)).toList = none := by decide +kernel
    rintro kind rest ⟨name, hsome, -⟩
    exact absurd (hsplit.symm.trans hsome) nofun
  obtain ⟨htext, hoperands⟩ := spliced_agrees (.float 0.5)
  have hoperand : AloneAndWithin argsOnly [("x", .float 0.5)] "ARGS.x".toList "v" "$\x7bARGS.x\x7d"
      "v$\x7bARGS.x\x7d" :=
    ⟨divides_iff.mpr (by decide +kernel), divides_iff.mpr (by decide +kernel), nofun, huntyped⟩
  obtain ⟨-, -, hpatterns⟩ := hoperands _ _ _ _ _ _ _ rfl (htext.mpr hone) hoperand
  exact ⟨htext.mpr hone,
    (hpatterns "0.*" (by decide) (by decide +kernel) (by decide +kernel)).1 hone⟩

/-- A whole floating-point number is written with its point in the midst of other text, and without
it on its own. -/
theorem spliced_disagrees :
    (Value.ofJson (.float 1.0)).text? = some "1" ∧ spliced (.float 1.0) = "1.0" ∧
      isLike (operand argsOnly [("x", .float 1.0)] (.str "$\x7bARGS.x\x7d")) (.str "1") = true ∧
      isLike (operand argsOnly [("x", .float 1.0)] (.str "v$\x7bARGS.x\x7d")) (.str "v1") =
        false := by
  decide +kernel

end AccessPolicy.Marker
