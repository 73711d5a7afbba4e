import AccessPolicy.Policy.Basic
import AccessPolicy.Proofs.Condition.Composition

/-!
# Groups that compare nothing

A group may have no pair at all: it is an empty list, a set with no field but those that name a
combinator, or a list of such sets (`Condition.Pairless`). Under one of the nine operators that
assert a relation such a group does not hold, since a relation holds of some pairs only if there are
any.

A negated operator denies its relation, and so it holds of no pairs at all. Only the empty list is
kept from that, because a group without sets is refused before its operator is asked. So a group
under `NotEquals`, `NotIn` or `NotLike` that compares nothing holds, unless it is the empty list
(`Condition.holds_pairless`), and a statement guarded by it decides
(`Condition.holds_notEquals_nothing`).
-/

namespace AccessPolicy.Condition

open Marker (Resolver)

/-! ## Groups without pairs -/

/-- Whether a group has no pair: it is a set without pairs, or a list of such sets, which may be
empty. -/
def Pairless : Json → Prop
  | .obj fields => members fields = []
  | .arr items => ∀ v ∈ items, ∃ fields, v = .obj fields ∧ members fields = []
  | _ => False

/-- The operators that deny a relation. -/
theorem Operator.negated_iff {op : Operator} :
    op.negated = true ↔ op = .notEquals ∨ op = .notIn ∨ op = .notLike := by
  cases op <;> decide

/-- An operator holds of no pairs exactly if it is negated. -/
theorem Operator.holds_nil (op : Operator) (c : Combinator) : op.holds c [] = op.negated := by
  rw [holds, affirms]
  cases op.negated <;> rfl

/-- The only group of a block comes to what it does in a block of its own, whatever combinator the
block names. -/
theorem holds_of_members_eq_singleton (r : Resolver) (args : Args) {k : String} {op : Operator}
    (hk : Text.sameIgnoringCase op.name k) {block : Json.Fields} {v : Json}
    (hblock : members block = [(k, v)]) :
    Condition.holds r args (.obj block) = Condition.holds r args (.obj [(k, v)]) := by
  have hknown : ∀ e ∈ members block, ∃ op : Operator, Text.sameIgnoringCase op.name e.1 := by
    rw [hblock]
    exact List.forall_mem_singleton.mpr ⟨op, hk⟩
  rw [holds_eq_fold r args (by rw [hblock]; exact List.cons_ne_nil _ _) hknown, hblock,
    List.map_singleton, Combinator.fold_singleton]

section Group

variable (r : Resolver) (args : Args) {k : String} {op : Operator}
  (hk : Text.sameIgnoringCase op.name k)

include hk

/-- A set without pairs holds exactly if the operator is negated. -/
theorem holds_set_of_members_eq_nil {fields : Json.Fields} (h : members fields = []) :
    Condition.holds r args (.obj [(k, .obj fields)]) = op.negated := by
  have hpairs : (PairSet.ofFields fields).values r args = [] := by
    rw [PairSet.values, PairSet.ofFields, h]
    rfl
  rw [holds_set r args hk, hpairs, Operator.holds_nil]

/-- In a list of sets, one without pairs makes an operator fail that asserts a relation. For a
negated one it is as if the set were not there, except that the list is not empty. -/
theorem holds_list_of_members_eq_nil {fields : Json.Fields} (h : members fields = [])
    (before behind : List Json) :
    Condition.holds r args (.obj [(k, .arr (before ++ .obj fields :: behind))]) = true ↔
      op.negated = true ∧ ∀ v ∈ before ++ behind,
        (∃ fields, v = .obj fields) ∧ Condition.holds r args (.obj [(k, v)]) = true := by
  have hne : before ++ .obj fields :: behind ≠ [] :=
    List.append_ne_nil_of_right_ne_nil _ (List.cons_ne_nil _ _)
  -- A set without pairs holds under a negated operator only, which asks it to hold like the others.
  have hset : ((∃ others, Json.obj fields = .obj others) ∧
      Condition.holds r args (.obj [(k, .obj fields)]) = true) ↔ op.negated = true := by
    rw [holds_set_of_members_eq_nil r args hk h]
    exact and_iff_right ⟨fields, rfl⟩
  rw [holds_list_iff r args hk, and_iff_right hne, List.forall_mem_append, List.forall_mem_cons,
    List.forall_mem_append, hset]
  exact and_left_comm

/-- A group without pairs holds exactly if the operator is negated and the group is not the empty
list. -/
theorem holds_of_pairless {v : Json} (h : Pairless v) :
    Condition.holds r args (.obj [(k, v)]) = true ↔ op.negated = true ∧ v ≠ .arr [] := by
  cases v with
  | obj fields =>
    rw [holds_set_of_members_eq_nil r args hk h]
    exact (and_iff_left nofun).symm
  | arr items =>
    -- Under a negated operator every set without pairs holds.
    have hsets : op.negated = true → ∀ v ∈ items,
        (∃ fields, v = .obj fields) ∧ Condition.holds r args (.obj [(k, v)]) = true := by
      intro hnegated v hv
      obtain ⟨fields, rfl, hfields⟩ := h v hv
      exact ⟨⟨fields, rfl⟩, (holds_set_of_members_eq_nil r args hk hfields).trans hnegated⟩
    rw [holds_list_iff r args hk]
    constructor
    · rintro ⟨hne, hall⟩
      obtain ⟨v, behind, rfl⟩ := List.exists_cons_of_ne_nil hne
      obtain ⟨fields, rfl, hfields⟩ := h v List.mem_cons_self
      have hfirst := (hall _ List.mem_cons_self).2
      rw [holds_set_of_members_eq_nil r args hk hfields] at hfirst
      exact ⟨hfirst, nofun⟩
    · rintro ⟨hnegated, hne⟩
      exact ⟨fun hnil => hne (congrArg Json.arr hnil), hsets hnegated⟩
  | _ => exact h.elim

end Group

/-! ## What becomes of a condition of such a group -/

/-- A condition whose only group has no pair holds exactly if its operator is negated and the group
is not the empty list, and then a statement with this condition decides as if it had none; otherwise
it does not decide. If the only group is a list with a set without pairs, the condition does not
hold under an operator that asserts a relation, and under a negated one it is up to the other sets
of the list. -/
theorem holds_pairless (r : Resolver) (args : Args) {k : String} {op : Operator}
    (hk : Text.sameIgnoringCase op.name k) {block : Json.Fields} {v : Json}
    (hblock : members block = [(k, v)]) :
    (Pairless v → (Condition.holds r args (.obj block) = true ↔
      (op = .notEquals ∨ op = .notIn ∨ op = .notLike) ∧ v ≠ .arr [])) ∧
    (∀ before fields behind, v = .arr (before ++ .obj fields :: behind) → members fields = [] →
      (Condition.holds r args (.obj block) = true ↔
        (op = .notEquals ∨ op = .notIn ∨ op = .notLike) ∧ ∀ w ∈ before ++ behind,
          (∃ fields, w = .obj fields) ∧ Condition.holds r args (.obj [(k, w)]) = true)) ∧
    ∀ (p : Policy) slot s, p.resolver = r → p.tree.statement? slot = some s →
      s.condition = some (.obj block) → Pairless v →
      ((op = .notEquals ∨ op = .notIn ∨ op = .notLike) ∧ v ≠ .arr [] →
        p.decide? args slot = some s.allows) ∧
      (¬((op = .notEquals ∨ op = .notIn ∨ op = .notLike) ∧ v ≠ .arr []) →
        p.decide? args slot = none) := by
  -- The block has one group only, so that it holds as that group does.
  have hholds : Pairless v → (Condition.holds r args (.obj block) = true ↔
      (op = .notEquals ∨ op = .notIn ∨ op = .notLike) ∧ v ≠ .arr []) := fun hv => by
    rw [holds_of_members_eq_singleton r args hk hblock, holds_of_pairless r args hk hv,
      Operator.negated_iff]
  refine ⟨hholds, fun before fields behind hlist hfields => ?_,
    fun p slot s hp hs hcondition hv => ?_⟩
  · rw [holds_of_members_eq_singleton r args hk hblock, hlist,
      holds_list_of_members_eq_nil r args hk hfields, Operator.negated_iff]
  · subst hp
    -- The slot decides by the condition of its statement.
    have happlies : p.applies args s.condition =
        Condition.holds p.resolver args (.obj block) := by
      rw [hcondition]
      rfl
    rw [Policy.decide?_of_statement? hs, happlies]
    refine ⟨fun h => ?_, fun h => ?_⟩
    · rw [(hholds hv).mpr h]
      rfl
    · rw [Bool.eq_false_iff.mpr (mt (hholds hv).mp h)]
      rfl

/-- The policy with a statement that opens posts under a condition. -/
def guarded (condition : Condition) : Policy :=
  ⟨Tree.addStatement ∅ "Post" ⟨some .allow, some condition, false, []⟩, ⟨∅⟩, ∅⟩

/-- A list of two sets without pairs opens posts under `NotLike`, and keeps them closed under
`Like`. -/
theorem holds_pairless_twice :
    (guarded (.obj [("NOTLIKE", .arr [.obj [], .obj [("Operator", .str "and")]]),
      ("Operator", .str "or")])).decide? [] "post" = some true ∧
    (guarded (.obj [("like", .arr [.obj [], .obj [("Operator", .str "and")]])])).decide? [] "post" =
      none := by
  have hpairless : Pairless (.arr [.obj [], .obj [("Operator", .str "and")]]) := by
    intro v hv
    rcases List.mem_pair.mp hv with rfl | rfl
    · exact ⟨_, rfl, rfl⟩
    · exact ⟨_, rfl, by decide⟩
  obtain ⟨-, -, hopen⟩ := @holds_pairless ⟨∅⟩ [] "NOTLIKE" .notLike (by decide)
    [("NOTLIKE", .arr [.obj [], .obj [("Operator", .str "and")]]), ("Operator", .str "or")] _ rfl
  obtain ⟨-, -, hclosed⟩ := @holds_pairless ⟨∅⟩ [] "like" .like (by decide)
    [("like", .arr [.obj [], .obj [("Operator", .str "and")]])] _ rfl
  refine ⟨(hopen (guarded _) "post" _ rfl rfl rfl hpairless).1 ⟨by decide, nofun⟩,
    (hclosed (guarded _) "post" _ rfl rfl rfl hpairless).2 fun h => absurd h.1 (by decide)⟩

/-- Posts are open under the condition that nothing is unequal, although the same condition with an
empty list keeps them closed. -/
theorem holds_notEquals_nothing :
    Condition.holds ⟨∅⟩ [] (.obj [("NotEquals", .obj [])]) = true ∧
      (guarded (.obj [("NotEquals", .obj [])])).decide? [] "post" = some true ∧
      (guarded (.obj [("NotEquals", .arr [])])).decide? [] "post" = none := by
  decide +kernel

end AccessPolicy.Condition
