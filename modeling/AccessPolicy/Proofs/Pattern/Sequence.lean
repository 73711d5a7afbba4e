import AccessPolicy.Proofs.Pattern.Meaning

/-!
# Sequences of expressions

Putting expressions in a sequence takes apart those that are sequences themselves and joins literals
that come to stand side by side. What the sequence matches is what its parts match one behind the
other (`Regex.leads_sequence`).
-/

namespace AccessPolicy.Pattern.Regex

/-- Whether expressions match the text between two places, each behind the one before. -/
def LeadAll : List Regex → Place → Place → Prop
  | [] => Eq
  | r :: rs => Relation.Comp r.Leads (LeadAll rs)

/-- Joined lists of expressions lead through the first list and then the second. -/
theorem leadAll_append (rs ss : List Regex) :
    LeadAll (rs ++ ss) = Relation.Comp (LeadAll rs) (LeadAll ss) := by
  induction rs with
  | nil => exact Relation.eq_comp.symm
  | cons r rs ih =>
    show Relation.Comp r.Leads (LeadAll (rs ++ ss)) =
      Relation.Comp (Relation.Comp r.Leads (LeadAll rs)) (LeadAll ss)
    rw [ih, Relation.comp_assoc]

/-- One expression leads as it does alone. -/
theorem leadAll_singleton (r : Regex) : LeadAll [r] = r.Leads :=
  Relation.comp_eq

/-- A sequence made of factors leads as the factors one behind the other. -/
theorem leads_ofFactors (rs : List Regex) : (ofFactors rs).Leads = LeadAll rs := by
  induction rs with
  | nil => rfl
  | cons r rs ih =>
    cases rs with
    | nil => exact (leadAll_singleton r).symm
    | cons s rs =>
      show Relation.Comp r.Leads (ofFactors (s :: rs)).Leads = _
      rw [ih]
      rfl

/-- The factors of an expression lead as it does. -/
theorem leadAll_factors (r : Regex) : LeadAll r.factors = r.Leads := by
  induction r with
  | empty => rfl
  | seq a b _ ihb =>
    show Relation.Comp a.Leads (LeadAll b.factors) = Relation.Comp a.Leads b.Leads
    rw [ihb]
  | _ => exact leadAll_singleton _

/-- Two literals side by side are one. -/
theorem leadAll_joinLiteral (r : Regex) (rs : List Regex) :
    LeadAll (joinLiteral r rs) = LeadAll (r :: rs) := by
  unfold joinLiteral
  split
  · next a b rest =>
    have hboth : (literal (a ++ b)).Leads = Relation.Comp (literal a).Leads (literal b).Leads :=
      funext fun p => funext fun q => propext Place.reads_append_iff
    show Relation.Comp (literal (a ++ b)).Leads (LeadAll rest) =
      Relation.Comp (literal a).Leads (Relation.Comp (literal b).Leads (LeadAll rest))
    rw [hboth, Relation.comp_assoc]
  · rfl

/-- Joined literals lead as the single ones. -/
theorem leadAll_foldr_joinLiteral (rs : List Regex) :
    LeadAll (rs.foldr joinLiteral []) = LeadAll rs := by
  induction rs with
  | nil => rfl
  | cons r rs ih =>
    rw [List.foldr_cons, leadAll_joinLiteral]
    show Relation.Comp r.Leads (LeadAll (rs.foldr joinLiteral [])) =
      Relation.Comp r.Leads (LeadAll rs)
    rw [ih]

/-- A sequence matches what its parts match one behind the other. -/
theorem leads_sequence (rs : List Regex) : (sequence rs).Leads = LeadAll rs := by
  rw [sequence, leads_ofFactors, leadAll_foldr_joinLiteral]
  induction rs with
  | nil => rfl
  | cons r rs ih =>
    rw [List.flatMap_cons, leadAll_append, leadAll_factors, ih]
    rfl

end AccessPolicy.Pattern.Regex
