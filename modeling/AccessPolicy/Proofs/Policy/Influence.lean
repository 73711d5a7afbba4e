import AccessPolicy.Policy.Basic
import AccessPolicy.Proofs.Marker.Influence
import Mathlib.Data.List.Basic

/-!
# What a decision depends on

The arguments of a decision, and the answers of the sources, reach it through the markers that are
written in a condition and through nothing else. `Condition.tokens` lists the tokens of these
markers: those in the left operands and, at any depth, in the right ones. If two resolvers give them
the same values, the condition holds under both or under neither (`Condition.holds_congr`), and a
slot with this condition is decided in the same way (`Policy.decide?_congr`).

So a value that is put in the place of a marker is data. It may hold text of the form of a marker,
or be a literal that stands for such text: no source is asked for what that marker names.
-/

namespace AccessPolicy

open Marker (Agree Resolver)

namespace Condition

/-! ## The tokens of a condition -/

/-- The tokens in the operands of a set. -/
def PairSet.tokens (set : PairSet) : List (List Char) :=
  set.pairs.flatMap fun p => Marker.tokensOf p.1 ++ Marker.tokensOf p.2

/-- The tokens in the operands of a group. -/
def Group.tokens (g : Group) : List (List Char) :=
  g.sets.flatMap fun set => set.elim [] PairSet.tokens

/-- The tokens in the operands of a condition. -/
def tokens (condition : Condition) : List (List Char) :=
  match Block.ofJson? condition with
  | some b => b.groups.flatMap Group.tokens
  | none => []

/-! ## From operands to conditions -/

section Agree

variable {r q : Resolver} {args others : Args}

/-- The values of the operands of a set depend on the values of its tokens only. -/
theorem PairSet.values_congr {set : PairSet} (h : Agree r args q others set.tokens) :
    set.values r args = set.values q others := by
  refine List.map_congr_left fun p hp => ?_
  obtain ⟨hleft, hright⟩ := Marker.agree_append.mp (Marker.agree_flatMap.mp h p hp)
  rw [operand, operand, operand, operand, Resolver.resolveAll_congr hleft,
    Resolver.resolveAll_congr hright]

/-- Whether an operator holds of a set depends on the values of its tokens only. -/
theorem setHolds_congr (op : Operator) {set : Option PairSet}
    (h : Agree r args q others (set.elim [] PairSet.tokens)) :
    setHolds r args op set = setHolds q others op set := by
  rcases set with _ | set
  · rfl
  · rw [setHolds, setHolds, PairSet.values_congr h]

/-- Whether a group holds depends on the values of its tokens only. -/
theorem Group.holds_congr {g : Group} (h : Agree r args q others g.tokens) :
    g.holds r args = g.holds q others := by
  unfold Group.holds
  rcases g.operator? with _ | op
  · rfl
  · have hsets : g.sets.all (setHolds r args op) = g.sets.all (setHolds q others op) := by
      rw [Bool.eq_iff_iff, List.all_eq_true, List.all_eq_true]
      refine forall₂_congr fun set hset => ?_
      rw [setHolds_congr op (Marker.agree_flatMap.mp h set hset)]
    simp only [hsets]

/-- Whether a condition holds depends on the values of its tokens only. -/
theorem holds_congr {condition : Condition} (h : Agree r args q others condition.tokens) :
    condition.holds r args = condition.holds q others := by
  rcases hblock : Block.ofJson? condition with _ | b
  · rw [Condition.holds, Condition.holds, hblock]
  · have htokens : condition.tokens = b.groups.flatMap Group.tokens := by
      rw [Condition.tokens, hblock]
    rw [htokens, Marker.agree_flatMap] at h
    have hgroups : b.groups.map (fun g => g.holds r args) =
        b.groups.map fun g => g.holds q others :=
      List.map_congr_left fun g hg => Group.holds_congr (h g hg)
    rw [Condition.holds, Condition.holds, hblock]
    simp only [Block.holds, hgroups]

end Agree

end Condition

namespace Policy

/-! ## Decisions -/

/-- How a slot is decided depends on the arguments and the sources only by the values that they give
to the tokens written in the condition of the slot: with the same values it is decided in the same
way, be it under other arguments or in a policy of the same tree with other sources. -/
theorem decide?_congr {p q : Policy} (htree : p.tree = q.tree) (args others : Args) (slot : String)
    (h : ∀ s condition, p.tree.statement? slot = some s → s.condition = some condition →
      ∀ token ∈ condition.tokens, p.resolver.lookup args token = q.resolver.lookup others token) :
    p.decide? args slot = q.decide? others slot := by
  rw [decide?, decide?, applicable?, applicable?, ← htree]
  rcases hheld : p.tree.statement? slot with _ | s
  · rw [Option.filter_none, Option.filter_none]
  · have happlies : p.applies args s.condition = q.applies others s.condition := by
      rcases hcondition : s.condition with _ | condition
      · rw [applies, applies, Option.all_none, Option.all_none]
      · rw [applies, applies, Option.all_some, Option.all_some]
        exact Condition.holds_congr (h s condition hheld hcondition)
    rw [Option.filter_some, Option.filter_some, happlies]

/-- The condition that one argument is an element of another. -/
def membership : Condition :=
  .obj [("In", .obj [("$\x7bARGS.item\x7d", .str "$\x7bARGS.list\x7d")])]

/-- A policy that knows arguments only, with one statement under that condition. -/
def ofMembers : Policy :=
  ⟨Tree.addStatement ∅ "Post" ⟨some .allow, some membership, false, []⟩,
    ⟨Table.ofPairs [("ARGS", Marker.Source.args)]⟩, ∅⟩

/-- Arguments with a marker for a third argument: as a text, and in a literal of a list. -/
def withSecret (secret : String) : Args :=
  [("item", .str "$\x7bARGS.secret\x7d"), ("list", .str "(*array)[\"$\x7bARGS.secret\x7d\"]"),
    ("secret", .str secret)]

/-- The marker in the arguments is taken for the text that it is, so that the text is in the list
whatever the third argument may be. -/
theorem decide?_congr_withSecret :
    (∀ token ∈ membership.tokens, ofMembers.resolver.lookup (withSecret "x") token =
      ofMembers.resolver.lookup (withSecret "y") token) ∧
    ofMembers.decide? (withSecret "x") "post" = some true ∧
    ofMembers.decide? (withSecret "y") "post" = some true := by
  -- The marker in the arguments is no token of the condition.
  have htokens : membership.tokens = ["ARGS.item".toList, "ARGS.list".toList] := by
    decide +kernel
  have hagree : ∀ token ∈ membership.tokens, ofMembers.resolver.lookup (withSecret "x") token =
      ofMembers.resolver.lookup (withSecret "y") token := by
    -- The secret is under a name that neither token has.
    rw [htokens]
    intro token htoken
    rcases List.mem_pair.mp htoken with rfl | rfl
    · rfl
    · rfl
  have hheld : ofMembers.tree.statement? "post" =
      some ⟨some .allow, some membership, false, []⟩ := rfl
  have happlies : ofMembers.applies (withSecret "x") (some membership) = true := by
    decide +kernel
  have hopen : ofMembers.decide? (withSecret "x") "post" = some true := by
    rw [decide?, applicable?, hheld, Option.filter_some, happlies]
    rfl
  refine ⟨hagree, hopen, ?_⟩
  rw [← hopen]
  refine (decide?_congr rfl (withSecret "x") (withSecret "y") "post" fun s condition hs hc =>
    ?_).symm
  obtain rfl := Option.some_inj.mp (hheld.symm.trans hs)
  obtain rfl := Option.some_inj.mp hc
  exact hagree

end Policy

end AccessPolicy
