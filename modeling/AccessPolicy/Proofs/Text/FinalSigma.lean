import AccessPolicy.Text.LowerCase
import Mathlib.Data.List.TakeWhile

/-!
# The lower case of a text that goes on

Lower-casing goes character by character, but for the capital sigma, which looks at what stands
behind it. So the lower-case form of a text need not be the beginning of that of a longer text:
`ΟΔΟΣ` ends in `ς`, and in `ΟΔΟΣ:ΑΒ` the same letter is a `σ`, because the colon does not count as
the end of a word.

`lowerBetween` is the form of a text with other text on both sides, and `lowerAfter_append` puts the
form of a longer text together from it. Only a sigma that ends the first text can be affected by
what follows (`EndsInSigma`), and only if a cased character follows (`lowerBetween_eq_iff`). Hence
`lowercase_colon_iff` says which texts with a colon start, in lower case, with what stands before
it.
-/

namespace AccessPolicy.Text

/-! ## Cased neighbours -/

/-- In a text of case-ignorable characters there is no cased neighbour. -/
theorem meetsCased_of_forall {cs : List Char} (h : ∀ c ∈ cs, isCaseIgnorable c = true) :
    meetsCased cs = false := by
  have hnil : cs.dropWhile isCaseIgnorable = [] := List.dropWhile_eq_nil_iff.mpr h
  rw [meetsCased, hnil]

/-- Behind case-ignorable characters the neighbour is that of the text that follows. -/
theorem meetsCased_append_of_forall {cs : List Char} (h : ∀ c ∈ cs, isCaseIgnorable c = true)
    (ds : List Char) : meetsCased (cs ++ ds) = meetsCased ds := by
  unfold meetsCased
  rw [List.dropWhile_append_of_pos h]

/-- A text that does not consist of case-ignorable characters has its neighbour in itself. -/
theorem meetsCased_append_of_not_forall {cs : List Char}
    (h : ¬∀ c ∈ cs, isCaseIgnorable c = true) (ds : List Char) :
    meetsCased (cs ++ ds) = meetsCased cs := by
  have hne : cs.dropWhile isCaseIgnorable ≠ [] := fun hnil => h (List.dropWhile_eq_nil_iff.mp hnil)
  obtain ⟨c, rest, hrest⟩ := List.exists_cons_of_ne_nil hne
  unfold meetsCased
  rw [List.dropWhile_append, hrest]
  rfl

/-- Whether a sigma is final is changed by what follows the text behind it only if that text is
passed over and what follows is cased. -/
theorem sigmaIsFinal_append_iff (before cs ds : List Char) :
    sigmaIsFinal before (cs ++ ds) = sigmaIsFinal before cs ↔
      ¬((∀ c ∈ cs, isCaseIgnorable c = true) ∧ meetsCased before = true ∧
        meetsCased ds = true) := by
  unfold sigmaIsFinal
  by_cases h : ∀ c ∈ cs, isCaseIgnorable c = true
  · rw [meetsCased_append_of_forall h, meetsCased_of_forall h, and_iff_right h]
    cases meetsCased before <;> cases meetsCased ds <;> decide
  · rw [meetsCased_append_of_not_forall h]
    exact iff_of_true rfl fun hall => h hall.1

/-! ## Texts between other texts -/

/-- Lower-casing of a text that stands between `before`, which is given nearest character first, and
`after`. -/
def lowerBetween (before after : List Char) : List Char → List Char
  | [] => []
  | c :: cs =>
    let lowered :=
      if c = 'Σ' then [if sigmaIsFinal before (cs ++ after) then 'ς' else 'σ'] else lowerChar c
    lowered ++ lowerBetween (c :: before) after cs

/-- The lower-case form of a text is that of its first part, before the second one, and that of the
second part, after the first one. -/
theorem lowerAfter_append (before cs ds : List Char) :
    lowerAfter before (cs ++ ds) =
      lowerBetween before ds cs ++ lowerAfter (cs.reverse ++ before) ds := by
  induction cs generalizing before with
  | nil => rfl
  | cons c cs ih =>
    rw [List.cons_append, lowerAfter, lowerBetween, ih, List.reverse_cons, List.append_assoc,
      List.append_assoc, List.singleton_append]

/-- What follows a text does not change the length of its lower-case form. -/
theorem length_lowerBetween (before after cs : List Char) :
    (lowerBetween before after cs).length = (lowerAfter before cs).length := by
  induction cs generalizing before with
  | nil => rfl
  | cons c cs ih =>
    rw [lowerBetween, lowerAfter, List.length_append, List.length_append, ih]
    split
    · rfl
    · rfl

/-- Whether a text that stands after `before` ends in a capital sigma that ends a word: only
case-ignorable characters follow it, and a cased one stands before it. -/
def EndsInSigma (before cs : List Char) : Prop :=
  ∃ front back, cs = front ++ 'Σ' :: back ∧ (∀ c ∈ back, isCaseIgnorable c = true) ∧
    meetsCased (front.reverse ++ before) = true

/-- The sigma is the first character of the text, or it is found in the rest. -/
theorem endsInSigma_cons {before cs : List Char} {c : Char} :
    EndsInSigma before (c :: cs) ↔
      c = 'Σ' ∧ (∀ d ∈ cs, isCaseIgnorable d = true) ∧ meetsCased before = true ∨
        EndsInSigma (c :: before) cs := by
  constructor
  · -- The text in front of the sigma is empty, or takes the first character with it.
    rintro ⟨front, back, hcs, hback, hfront⟩
    cases front with
    | nil =>
      obtain ⟨rfl, rfl⟩ := List.cons.inj hcs
      exact .inl ⟨rfl, hback, hfront⟩
    | cons f front =>
      obtain ⟨rfl, rfl⟩ := List.cons.inj hcs
      rw [List.reverse_cons, List.append_assoc, List.singleton_append] at hfront
      exact .inr ⟨front, back, rfl, hback, hfront⟩
  · rintro (⟨rfl, hback, hbefore⟩ | ⟨front, back, rfl, hback, hfront⟩)
    · exact ⟨[], cs, rfl, hback, hbefore⟩
    · refine ⟨c :: front, back, rfl, hback, ?_⟩
      rw [List.reverse_cons, List.append_assoc, List.singleton_append]
      exact hfront

/-- What follows a text changes its lower-case form exactly if the text ends in a sigma that ends a
word and a cased character follows. -/
theorem lowerBetween_eq_iff (before after cs : List Char) :
    lowerBetween before after cs = lowerAfter before cs ↔
      ¬(EndsInSigma before cs ∧ meetsCased after = true) := by
  induction cs generalizing before with
  | nil =>
    refine iff_of_true rfl fun h => ?_
    obtain ⟨front, back, hcs, -⟩ := h.1
    exact List.append_ne_nil_of_right_ne_nil front (List.cons_ne_nil _ back) hcs.symm
  | cons c cs ih =>
    rw [lowerBetween, lowerAfter, endsInSigma_cons]
    by_cases hc : c = 'Σ'
    · -- Both forms start with one of the two small sigmas, which is the same one or not.
      have hsigma : ∀ b b' : Bool, (if b then 'ς' else 'σ') = (if b' then 'ς' else 'σ') ↔
          b = b' := by
        decide
      rw [if_pos hc, if_pos hc, List.singleton_append, List.singleton_append, List.cons.injEq,
        hsigma, sigmaIsFinal_append_iff, ih, ← not_or, and_iff_right hc, or_and_right, and_assoc]
    · rw [if_neg hc, if_neg hc, List.append_cancel_left_eq, ih,
        or_iff_right fun hfirst => hc hfirst.1]

/-! ## Texts with a colon -/

/-- The colon is case-ignorable. -/
theorem meetsCased_colon (cs : List Char) : meetsCased (':' :: cs) = meetsCased cs := by
  have hcolon : ∀ c ∈ [':'], isCaseIgnorable c = true :=
    List.forall_mem_singleton.mpr (by decide +kernel)
  exact meetsCased_append_of_forall hcolon cs

/-- In lower case, a text with a colon consists of the form of what stands before the colon, the
colon and the form of what stands behind it. -/
theorem lowercase_colon_toList (front back : String) :
    (lowercase (front ++ ":" ++ back)).toList =
      lowerBetween [] (':' :: back.toList) front.toList ++
        ':' :: lowerAfter (':' :: front.toList.reverse) back.toList := by
  have hcolon : (front ++ ":" ++ back).toList = front.toList ++ ':' :: back.toList := by
    rw [String.toList_append, String.toList_append, List.append_assoc]
    rfl
  rw [lowercase, String.toList_ofList, hcolon, lowerAfter_append, List.append_nil, lowerAfter]
  rfl

/-- In lower case, a text with a colon starts with what stands before the colon unless that ends in
a sigma that ends a word and what follows is cased. -/
theorem lowercase_colon_iff {front back rest : String} :
    lowercase (front ++ ":" ++ back) = lowercase front ++ ":" ++ rest ↔
      ¬(EndsInSigma [] front.toList ∧ meetsCased back.toList = true) ∧
        rest = String.ofList (lowerAfter (':' :: front.toList.reverse) back.toList) := by
  -- Up to the colon, both sides are as long as the front, so that they agree part by part.
  have hrest : (lowercase front ++ ":" ++ rest).toList =
      lowerAfter [] front.toList ++ ':' :: rest.toList := by
    rw [String.toList_append, String.toList_append, List.append_assoc, lowercase,
      String.toList_ofList]
    rfl
  have hback : ∀ cs, rest = String.ofList cs ↔ cs = rest.toList := by
    intro cs
    rw [← String.toList_inj, String.toList_ofList, eq_comm]
  rw [← String.toList_inj, lowercase_colon_toList, hrest,
    List.append_eq_append_iff_of_size_eq_left (length_lowerBetween [] _ _), lowerBetween_eq_iff,
    meetsCased_colon, List.cons.injEq, and_iff_right rfl, hback]

/-- A text with a colon is longer, in lower case, than what stands before the colon. -/
theorem lowercase_colon_ne (front back : String) :
    lowercase (front ++ ":" ++ back) ≠ lowercase front := by
  intro h
  have hfront : (lowercase front).toList.length = (lowerAfter [] front.toList).length := by
    rw [lowercase, String.toList_ofList]
  have hlength : (lowercase (front ++ ":" ++ back)).toList.length =
      (lowercase front).toList.length := by rw [h]
  rw [lowercase_colon_toList, hfront, List.length_append, List.length_cons,
    length_lowerBetween] at hlength
  omega

end AccessPolicy.Text
