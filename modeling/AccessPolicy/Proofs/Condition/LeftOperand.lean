import AccessPolicy.Condition.Block
import AccessPolicy.Proofs.Decimal.Canonical
import Mathlib.Data.Fintype.Card
import Mathlib.Data.Fintype.Fin
import Mathlib.Data.List.NodupEquivFin
import Mathlib.Order.Hom.Set

/-!
# Left operands

The name of a field is a text, and as a left operand it may stand for an integer. It does so exactly
if it is the canonical decimal text of one that fits a signed 64-bit word
(`leftOperand_eq_int_iff`); `+1`, `01` and `-0` stand for themselves. An integer has only one
canonical text, so names that differ are different operands (`leftOperand_injective`).

The pairs of a set are then the fields of its object, less those that name a combinator: there is
one pair for each field, in the order of the fields (`PairSet.exists_orderIso_pairs`), and no two of
them compare the same operand (`PairSet.nodup_ofFields`).
-/

/-! ## The places of the elements that a filter keeps -/

section Filter

variable {α : Type} (p : α → Bool) (l : List α)

/-- As many places have an element that passes as there are elements that are kept. -/
theorem List.card_places_filter :
    Fintype.card {i : Fin l.length // p l[i] = true} = (l.filter p).length := by
  have hall : (Finset.univ : Finset (Fin l.length)).val.map l.get = l := by
    rw [Fin.univ_val_map, List.ofFn_get]
  -- The places are counted first, and then the elements at them.
  calc Fintype.card {i : Fin l.length // p l[i] = true}
      = Multiset.countP (fun i : Fin l.length => p l[i] = true) Finset.univ.val := by
        rw [Fintype.card_subtype, Multiset.countP_eq_card_filter]
        rfl
    _ = Multiset.countP (fun a => p a = true) (Finset.univ.val.map l.get) := by
        rw [Multiset.countP_map, Multiset.countP_eq_card_filter]
        rfl
    _ = (l.filter p).length := by
        rw [hall, Multiset.coe_countP, List.countP_eq_length_filter]
        simp only [Bool.decide_eq_true]

/-- The elements that are kept are those at the places with an element that passes, in order. -/
theorem List.exists_orderIso_filter :
    ∃ φ : {i : Fin l.length // p l[i] = true} ≃o Fin (l.filter p).length,
      ∀ i, (l.filter p)[φ i] = l[i.1] := by
  obtain ⟨f, hf⟩ := List.sublist_iff_exists_fin_orderEmbedding_get_eq.mp
    (List.filter_sublist (p := p) (l := l))
  have hpass : ∀ j, p l[f j] = true := by
    intro j
    have hkept : p ((l.filter p).get j) = true := List.of_mem_filter (List.get_mem _ j)
    rwa [hf j] at hkept
  let place : Fin (l.filter p).length → {i : Fin l.length // p l[i] = true} :=
    fun j => ⟨f j, hpass j⟩
  have hmono : StrictMono place := fun _ _ hij => f.strictMono hij
  -- The places of the kept elements are places that pass, and as many as all of these.
  have hsurj : Function.Surjective place := by
    have hcard := List.card_places_filter p l
    rw [← Fintype.card_fin (l.filter p).length] at hcard
    exact ((Fintype.bijective_iff_injective_and_card place).mpr ⟨hmono.injective, hcard.symm⟩).2
  refine ⟨(hmono.orderIsoOfSurjective place hsurj).symm, fun i => ?_⟩
  have hplace : place ((hmono.orderIsoOfSurjective place hsurj).symm i) = i :=
    hmono.orderIsoOfSurjective_self_symm_apply place hsurj i
  calc (l.filter p).get ((hmono.orderIsoOfSurjective place hsurj).symm i)
      = l.get (place ((hmono.orderIsoOfSurjective place hsurj).symm i)).1 := hf _
    _ = l.get i.1 := by rw [hplace]

end Filter

namespace AccessPolicy.Condition

open Decimal (FitsInt64 IsCanonical)

/-! ## Names -/

/-- A name stands for an integer exactly if it is the canonical text of one that fits a 64-bit
word. -/
theorem leftOperand_eq_int_iff {name : String} {n : Int} :
    leftOperand name = .int n ↔ FitsInt64 n ∧ IsCanonical name.toList n := by
  rw [Decimal.isCanonical_iff]
  unfold leftOperand
  constructor
  · intro h
    -- The integer that is read has to be written as the name again.
    split at h
    · next i hread =>
      split at h
      · next htext =>
        obtain rfl : i = n := Json.int.inj h
        have hfits : FitsInt64 i := by
          have := (Option.filter_eq_some_iff.mp hread).2
          exact of_decide_eq_true this
        exact ⟨hfits, by rw [← htext, Decimal.intText, String.toList_ofList]⟩
      · exact Json.noConfusion h
    · exact Json.noConfusion h
  · rintro ⟨hfits, hname⟩
    have htext : Decimal.intText n = name := by
      rw [Decimal.intText, ← hname, String.ofList_toList]
    rw [hname, Decimal.int64?_intChars hfits]
    exact if_pos htext

/-- A name that stands for no integer stands for itself. -/
theorem leftOperand_eq_int_or_str (name : String) :
    (∃ n, leftOperand name = .int n) ∨ leftOperand name = .str name := by
  unfold leftOperand
  split
  · next n _ =>
    split
    · exact .inl ⟨n, rfl⟩
    · exact .inr rfl
  · exact .inr rfl

/-- A name that is no canonical text of an integer which fits a 64-bit word stands for itself. -/
theorem leftOperand_eq_str {name : String}
    (h : ∀ n, ¬(FitsInt64 n ∧ IsCanonical name.toList n)) : leftOperand name = .str name := by
  obtain ⟨n, hn⟩ | hname := leftOperand_eq_int_or_str name
  · exact absurd (leftOperand_eq_int_iff.mp hn) (h n)
  · exact hname

/-- Different names are different operands. -/
theorem leftOperand_injective : Function.Injective leftOperand := by
  intro a b h
  obtain ⟨n, ha⟩ | ha := leftOperand_eq_int_or_str a
  · -- Both names are the canonical text of the one integer.
    have htext : ∀ {name}, leftOperand name = .int n → name.toList = Decimal.intChars n :=
      fun hname => Decimal.isCanonical_iff.mp (leftOperand_eq_int_iff.mp hname).2
    exact String.toList_inj.mp ((htext ha).trans (htext (h ▸ ha)).symm)
  · obtain ⟨n, hb⟩ | hb := leftOperand_eq_int_or_str b
    · exact Json.noConfusion (ha.symm.trans (h.trans hb))
    · exact Json.str.inj (ha.symm.trans (h.trans hb))

/-! ## Pairs -/

namespace PairSet

/-- The pairs of a set are the fields of its object that name no combinator, in order. -/
theorem exists_orderIso_pairs (fields : Json.Fields) :
    ∃ φ : {i : Fin fields.length // !isCombinatorName fields[i].1} ≃o
        Fin (ofFields fields).pairs.length,
      ∀ i, (ofFields fields).pairs[φ i] = (leftOperand fields[i.1].1, fields[i.1].2) := by
  obtain ⟨φ, hφ⟩ := List.exists_orderIso_filter (fun e => !isCombinatorName e.1) fields
  have hlength : (members fields).length = (ofFields fields).pairs.length :=
    (List.length_map _).symm
  refine ⟨φ.trans (Fin.castOrderIso hlength), fun i => ?_⟩
  have hmember : (members fields)[φ i] = fields[i.1] := hφ i
  rw [← hmember]
  exact List.getElem_map _

/-- The left operands of a set differ, as the names of the fields do. -/
theorem nodup_ofFields {fields : Json.Fields} (h : (fields.map Prod.fst).Nodup) :
    ((ofFields fields).pairs.map Prod.fst).Nodup := by
  have hmembers : ((members fields).map Prod.fst).Nodup :=
    h.sublist (List.filter_sublist.map Prod.fst)
  have hpairs : (ofFields fields).pairs.map Prod.fst =
      ((members fields).map Prod.fst).map leftOperand := by
    rw [List.map_map]
    exact List.map_map
  rw [hpairs]
  exact hmembers.map leftOperand_injective

end PairSet

/-! ## All names and all sets -/

/-- A name stands for an integer exactly if it is the canonical decimal text of one that fits a
signed 64-bit word, and for itself otherwise, so different names are different operands. The pairs
of a set are in an order-preserving correspondence with the fields that name no combinator, each
pair made of the operand of its field's name and of the field's value. Of fields with different
names no two pairs compare the same operand. -/
theorem leftOperand_exact :
    (∀ name n, leftOperand name = .int n ↔ FitsInt64 n ∧ IsCanonical name.toList n) ∧
    (∀ name, (∀ n, ¬(FitsInt64 n ∧ IsCanonical name.toList n)) → leftOperand name = .str name) ∧
    Function.Injective leftOperand ∧
    ∀ fields : Json.Fields,
      (∃ φ : {i : Fin fields.length // !isCombinatorName fields[i].1} ≃o
          Fin (PairSet.ofFields fields).pairs.length,
        ∀ i, (PairSet.ofFields fields).pairs[φ i] =
          (leftOperand fields[i.1].1, fields[i.1].2)) ∧
      ((fields.map Prod.fst).Nodup → ((PairSet.ofFields fields).pairs.map Prod.fst).Nodup) :=
  ⟨fun _ _ => leftOperand_eq_int_iff, fun _ => leftOperand_eq_str, leftOperand_injective,
    fun fields => ⟨PairSet.exists_orderIso_pairs fields, PairSet.nodup_ofFields⟩⟩

/-- The least integer of a word stands for itself, the same digits behind a zero do not, and a set
that compares both, among others, compares different operands. -/
theorem leftOperand_exact_zero_in_front :
    leftOperand "-9223372036854775808" = .int Decimal.minInt64 ∧
    leftOperand "-09223372036854775808" = .str "-09223372036854775808" ∧
    ((PairSet.ofFields [("-0", .int 1), ("-09223372036854775808", .null),
      ("-9223372036854775808", .null), ("0", .int 1), ("oPERATOR", .str "and")]).pairs.map
        Prod.fst).Nodup := by
  obtain ⟨hint, hstr, -, hsets⟩ := leftOperand_exact
  refine ⟨(hint _ _).mpr ⟨by decide, ?_⟩, hstr _ ?_, (hsets _).2 (by decide)⟩
  · exact Decimal.isCanonical_iff.mpr (by decide)
  · -- A canonical text would start with the minus sign and no zero, or with a digit.
    rintro n ⟨-, ds, hds, htext⟩
    split at htext
    · obtain rfl : "09223372036854775808".toList = ds := (List.cons_eq_cons.mp htext).2
      exact hds.head?_ne_zero (by decide) rfl
    · subst htext
      exact absurd (hds.isDigit '-' List.mem_cons_self) (by decide)

end AccessPolicy.Condition
