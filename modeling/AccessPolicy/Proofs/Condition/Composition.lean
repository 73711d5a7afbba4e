import AccessPolicy.Condition.Basic
import Mathlib.Data.List.Basic
import Mathlib.Data.List.Induction

/-!
# Conditions are evaluated part by part

What a condition comes to is determined by its parts alone: a block by its groups, a group by its
sets, and a set by its pairs, each part being taken as a condition of its own
(`holds_compositional`). The parts are taken together in a different way on each level. All groups
of a block have to hold unless the block says otherwise, all sets of a group have to hold, and of
the pairs of a set one is enough unless the set says otherwise.

A negated operator turns the last of these around. It denies its relation of the whole set, and to
deny that one pair is in the relation is to deny it of every pair (`Operator.holds_eq_fold`).
-/

namespace AccessPolicy.Condition

open Marker (Resolver)

/-! ## Names of operators -/

namespace Operator

/-- The names of operators differ in more than case. -/
theorem eq_of_sameIgnoringCase {op op' : Operator} (h : Text.sameIgnoringCase op.name op'.name) :
    op = op' := by
  revert h
  cases op <;> cases op' <;> decide

/-- An operator that is found under a name has that name. -/
theorem sameIgnoringCase_of_ofName? {k : String} {op : Operator} (h : ofName? k = some op) :
    Text.sameIgnoringCase op.name k :=
  List.find?_some (p := fun op : Operator => Text.sameIgnoringCase op.name k) h

/-- An operator is found under its name, in any case, and under no other. -/
theorem ofName?_eq_some_iff {k : String} {op : Operator} :
    ofName? k = some op ↔ Text.sameIgnoringCase op.name k := by
  refine ⟨sameIgnoringCase_of_ofName?, fun h => ?_⟩
  have hfound : (ofName? k).isSome := List.find?_isSome.mpr ⟨op, mem_all op, h⟩
  obtain ⟨op', hop'⟩ := Option.isSome_iff_exists.mp hfound
  have hsame : Text.sameIgnoringCase op'.name op.name := by
    have hname := sameIgnoringCase_of_ofName? hop'
    rw [Text.sameIgnoringCase_iff] at hname h ⊢
    exact hname.trans h.symm
  rw [hop', eq_of_sameIgnoringCase hsame]

/-- A name under which no operator is found is that of none. -/
theorem ofName?_eq_none_iff {k : String} :
    ofName? k = none ↔ ∀ op : Operator, ¬Text.sameIgnoringCase op.name k := by
  rw [Option.eq_none_iff_forall_ne_some]
  simp only [ne_eq, ofName?_eq_some_iff]

/-- The name of an operator does not say how fields are taken together. -/
theorem isCombinatorName_eq_false {k : String} {op : Operator}
    (h : Text.sameIgnoringCase op.name k) : isCombinatorName k = false := by
  have hop : Text.sameIgnoringCase op.name "operator" = false := by cases op <;> decide
  rw [Bool.eq_false_iff] at hop ⊢
  intro hk
  rw [isCombinatorName, Text.sameIgnoringCase_iff] at hk
  rw [ne_eq, Text.sameIgnoringCase_iff] at hop
  exact hop ((Text.sameIgnoringCase_iff.mp h).trans hk)

/-! ## Operators on several pairs -/

/-- The relation of an operator holds of some pairs if it holds of all of them, or of any one, as
the combinator says. -/
theorem affirms_eq_fold (op : Operator) (c : Combinator) {pairs : List (Value × Value)}
    (h : pairs ≠ []) : op.affirms c pairs = c.fold (pairs.map fun p => op.relates p.1 p.2) := by
  rw [affirms, List.isEmpty_eq_false_iff.mpr h]
  rfl

/-- An operator on one pair is its relation or, if it is negated, the opposite of it. -/
theorem holds_singleton (op : Operator) (c : Combinator) (p : Value × Value) :
    op.holds c [p] = (op.relates p.1 p.2 != op.negated) := by
  rw [holds, affirms_eq_fold op c (List.cons_ne_nil p []), List.map_singleton,
    Combinator.fold_singleton]

/-- An operator on some pairs is made of what it is on each of them. Those of a negated operator are
taken together the other way round. -/
theorem holds_eq_fold (op : Operator) (c : Combinator) {pairs : List (Value × Value)}
    (h : pairs ≠ []) :
    op.holds c pairs =
      (if op.negated then c.dual else c).fold (pairs.map fun p => op.holds .any [p]) := by
  simp only [holds_singleton]
  rw [holds, affirms_eq_fold op c h]
  rcases hneg : op.negated
  · simp
  · -- Each result on the right is the opposite of the relation, so duality takes the negation out.
    have hdual := c.fold_dual (pairs.map fun p => op.relates p.1 p.2)
    rw [List.map_map, Function.comp_def] at hdual
    simp only [if_true, Bool.bne_true]
    exact hdual.symm

end Operator

/-! ## The combinator of an object -/

/-- The combinator that the last field names of those that can name one. -/
def lastCombinator? (fields : Json.Fields) : Option Combinator :=
  (fields.filter fun e => isCombinatorName e.1).getLast?.bind fun e =>
    e.2.str?.bind Combinator.ofText?

/-- The last field counts, and the usual combinator if that field names none. -/
theorem combinatorAmong_eq (usual : Combinator) (fields : Json.Fields) :
    combinatorAmong usual fields = (lastCombinator? fields).getD usual := by
  -- Fields are read from the left, so the induction takes them off at the right.
  induction fields using List.reverseRecOn with
  | nil => rfl
  | append_singleton fields e ih =>
    unfold combinatorAmong at ih ⊢
    unfold lastCombinator? at ih ⊢
    rw [List.foldl_append, List.foldl_cons, List.foldl_nil, ih, List.filter_append]
    by_cases he : isCombinatorName e.1 = true
    · simp [he, combinatorOf]
    · simp [he]

/-- The usual combinator stands unless the last field names the other one. -/
theorem getD_eq_ite (named : Option Combinator) (usual : Combinator) :
    named.getD usual = if named = some usual.dual then usual.dual else usual := by
  cases usual <;> rcases named with _ | _ | _ <;> rfl

/-! ## Single fields -/

/-- A field that names no combinator is all that there is of the object with this field alone. -/
theorem members_singleton {k : String} (hk : isCombinatorName k = false) (v : Json) :
    members [(k, v)] = [(k, v)] := by
  rw [members, List.filter_cons_of_pos (by rw [hk]; rfl), List.filter_nil]

/-- The object with one field that names no combinator has the usual one. -/
theorem combinatorAmong_singleton {k : String} (hk : isCombinatorName k = false)
    (usual : Combinator) (v : Json) : combinatorAmong usual [(k, v)] = usual := by
  rw [combinatorAmong, List.foldl_cons, List.foldl_nil, hk]
  rfl

/-- Members name no combinator. -/
theorem isCombinatorName_of_mem_members {fields : Json.Fields} {e : String × Json}
    (he : e ∈ members fields) : isCombinatorName e.1 = false := by
  simpa [members] using (List.mem_filter.mp he).2

/-- The set of one pair has that pair and the usual combinator. -/
theorem PairSet.ofFields_singleton {l : String} (hl : isCombinatorName l = false) (v : Json) :
    PairSet.ofFields [(l, v)] = ⟨.any, [(leftOperand l, v)]⟩ := by
  rw [PairSet.ofFields, members_singleton hl, combinatorAmong_singleton hl]
  rfl

/-- A condition of one group comes to what the group does. -/
theorem holds_singleton (r : Resolver) (args : Args) {k : String} {op : Operator}
    (hk : Text.sameIgnoringCase op.name k) (v : Json) :
    Condition.holds r args (.obj [(k, v)]) = (Group.ofJson k v).holds r args := by
  have hname := Operator.isCombinatorName_eq_false hk
  have hgroup : (Group.ofJson k v).operator? = some op := by
    have hop := Operator.ofName?_eq_some_iff.mpr hk
    cases v <;> exact hop
  have hblock : Block.ofFields [(k, v)] = ⟨.all, [Group.ofJson k v]⟩ := by
    rw [Block.ofFields, members_singleton hname, combinatorAmong_singleton hname]
    rfl
  show (Block.ofFields [(k, v)]).holds r args = _
  rw [hblock, Block.holds]
  simp [hgroup]

/-! ## Blocks -/

section Block

variable (r : Resolver) (args : Args)

/-- An object without groups always holds. -/
theorem holds_of_members_eq_nil {fields : Json.Fields} (h : members fields = []) :
    Condition.holds r args (.obj fields) = true := by
  show (Block.ofFields fields).holds r args = true
  rw [Block.ofFields, h]
  rfl

/-- An object with a group under a name that no operator has does not hold. -/
theorem holds_of_unknown {fields : Json.Fields} {e : String × Json} (he : e ∈ members fields)
    (hunknown : ∀ op : Operator, ¬Text.sameIgnoringCase op.name e.1) :
    Condition.holds r args (.obj fields) = false := by
  -- The name is looked for in any case, and finds no operator.
  have hgroup : (Group.ofJson e.1 e.2).operator? = none := by
    have hnone := Operator.ofName?_eq_none_iff.mpr hunknown
    obtain ⟨k, v⟩ := e
    cases v <;> exact hnone
  have hmem : Group.ofJson e.1 e.2 ∈ (Block.ofFields fields).groups :=
    List.mem_map.mpr ⟨e, he, rfl⟩
  have hsome : (Block.ofFields fields).groups.isEmpty = false :=
    List.isEmpty_eq_false_iff.mpr (List.ne_nil_of_mem hmem)
  have hall : (Block.ofFields fields).groups.all (fun g => g.operator?.isSome) = false := by
    rw [List.all_eq_false]
    exact ⟨_, hmem, by rw [hgroup]; exact Bool.false_ne_true⟩
  show (Block.ofFields fields).holds r args = false
  rw [Block.holds, hsome, hall]
  rfl

/-- An object whose groups all have operators holds if they all do, or any one of them, as its
combinator says. -/
theorem holds_eq_fold {fields : Json.Fields} (h : members fields ≠ [])
    (hknown : ∀ e ∈ members fields, ∃ op : Operator, Text.sameIgnoringCase op.name e.1) :
    Condition.holds r args (.obj fields) =
      (combinatorAmong .all fields).fold
        ((members fields).map fun e => Condition.holds r args (.obj [e])) := by
  -- A group of the object is the only group of an object with its field alone.
  have hsingle : (members fields).map (fun e => Condition.holds r args (.obj [e])) =
      (Block.ofFields fields).groups.map fun g => g.holds r args := by
    rw [Block.ofFields, List.map_map]
    refine List.map_congr_left fun e he => ?_
    obtain ⟨op, hop⟩ := hknown e he
    exact holds_singleton r args hop e.2
  have hsome : (Block.ofFields fields).groups.isEmpty = false := by
    rw [List.isEmpty_eq_false_iff]
    exact fun hnil => h (List.map_eq_nil_iff.mp hnil)
  -- No group is without an operator, which alone would make the object fail.
  have hall : (Block.ofFields fields).groups.all (fun g => g.operator?.isSome) = true := by
    rw [List.all_eq_true]
    intro g hg
    obtain ⟨⟨k, v⟩, he, rfl⟩ := List.mem_map.mp hg
    obtain ⟨op, hop⟩ := hknown (k, v) he
    have hfound := Option.isSome_iff_exists.mpr ⟨op, Operator.ofName?_eq_some_iff.mpr hop⟩
    cases v <;> exact hfound
  show (Block.ofFields fields).holds r args = _
  rw [hsingle, Block.holds, hsome, hall]
  rfl

end Block

/-! ## Groups and sets -/

section Group

variable (r : Resolver) (args : Args) {k : String} {op : Operator}
  (hk : Text.sameIgnoringCase op.name k)

include hk

/-- A group holds if it has sets and its operator holds of each of them. -/
theorem Group.holds_eq (v : Json) :
    (Group.ofJson k v).holds r args =
      (!(Group.ofJson k v).sets.isEmpty &&
        (Group.ofJson k v).sets.all (setHolds r args op)) := by
  have hop := Operator.ofName?_eq_some_iff.mpr hk
  have hgroup : (Group.ofJson k v).operator? = some op := by
    cases v <;> exact hop
  rw [Group.holds, hgroup]

/-- A group of one set comes to what its operator is on the pairs of the set. -/
theorem holds_set (fields : Json.Fields) :
    Condition.holds r args (.obj [(k, .obj fields)]) =
      op.holds (combinatorAmong .any fields) ((PairSet.ofFields fields).values r args) := by
  rw [holds_singleton r args hk, Group.holds_eq r args hk]
  show (true && (setHolds r args op (some (PairSet.ofFields fields)) && true)) = _
  rw [Bool.true_and, Bool.and_true]
  rfl

/-- A group of one pair comes to what its operator is on the pair. -/
theorem holds_pair {l : String} (hl : isCombinatorName l = false) (v : Json) :
    Condition.holds r args (.obj [(k, .obj [(l, v)])]) =
      op.holds .any [(operand r args (leftOperand l), operand r args v)] := by
  rw [holds_set r args hk, combinatorAmong_singleton hl, PairSet.ofFields_singleton hl]
  rfl

/-- A set that has pairs comes to what each of them does, taken together as the set says, or the
other way round if the operator is negated. -/
theorem holds_set_eq_fold {fields : Json.Fields} (h : members fields ≠ []) :
    Condition.holds r args (.obj [(k, .obj fields)]) =
      (if op.negated then (combinatorAmong .any fields).dual else combinatorAmong .any fields).fold
        ((members fields).map fun e => Condition.holds r args (.obj [(k, .obj [e])])) := by
  have hpairs : (members fields).map (fun e => Condition.holds r args (.obj [(k, .obj [e])])) =
      ((PairSet.ofFields fields).values r args).map fun p => op.holds .any [p] := by
    rw [PairSet.values, PairSet.ofFields, List.map_map, List.map_map]
    refine List.map_congr_left fun e he => ?_
    exact holds_pair r args hk (isCombinatorName_of_mem_members he) e.2
  have hne : (PairSet.ofFields fields).values r args ≠ [] := by
    rw [PairSet.values, PairSet.ofFields, List.map_map]
    exact fun hnil => h (List.map_eq_nil_iff.mp hnil)
  rw [holds_set r args hk, Operator.holds_eq_fold op _ hne, hpairs]

/-- A set of a list holds if it is an object that holds as a group of its own. -/
theorem setHolds_ofJson? (v : Json) :
    setHolds r args op (PairSet.ofJson? v) = true ↔
      (∃ fields, v = .obj fields) ∧ Condition.holds r args (.obj [(k, v)]) = true := by
  cases v with
  | obj fields =>
    rw [holds_set r args hk]
    exact ⟨fun h => ⟨⟨fields, rfl⟩, h⟩, fun h => h.2⟩
  | _ => exact ⟨fun h => absurd h Bool.false_ne_true, fun h => nomatch h.1⟩

/-- A group of a list of sets holds if there are any and each of them is an object that holds as a
group of its own. -/
theorem holds_list_iff (items : List Json) :
    Condition.holds r args (.obj [(k, .arr items)]) = true ↔
      items ≠ [] ∧ ∀ v ∈ items,
        (∃ fields, v = .obj fields) ∧ Condition.holds r args (.obj [(k, v)]) = true := by
  have hsets : (Group.ofJson k (.arr items)).sets = items.map PairSet.ofJson? := rfl
  rw [holds_singleton r args hk, Group.holds_eq r args hk, hsets, Bool.and_eq_true,
    Bool.not_eq_true', List.isEmpty_eq_false_iff, List.all_eq_true, List.forall_mem_map]
  refine and_congr (not_congr List.map_eq_nil_iff) (forall₂_congr fun v _ => ?_)
  exact setHolds_ofJson? r args hk v

/-- A group that is neither a set nor a list of sets does not hold. -/
theorem holds_scalar {v : Json} (hobj : ∀ fields, v ≠ .obj fields)
    (harr : ∀ items, v ≠ .arr items) :
    Condition.holds r args (.obj [(k, v)]) = false := by
  rw [holds_singleton r args hk, Group.holds_eq r args hk]
  cases v with
  | obj fields => exact absurd rfl (hobj fields)
  | arr items => exact absurd rfl (harr items)
  | _ => rfl

end Group

/-! ## All levels together -/

/-- What a condition comes to, level by level, in terms of single groups, single sets and single
pairs.

What is no object does not hold, and an object without groups does. A group under a name that no
operator has makes any other object fail; if there is none, all groups have to hold, or one of them
if the last field that can name a combinator says so. A group of a list holds if the list is not
empty and has only objects, each of which holds as a group of its own; a scalar is no group that
holds. Of a set with pairs one has to hold as a set of its own, or all of them if the last field
that can name a combinator says so, and for the negated operators it is the other way round. -/
theorem holds_compositional (r : Resolver) (args : Args) :
    (∀ raw : Json, (∀ fields, raw ≠ .obj fields) → Condition.holds r args raw = false) ∧
    (∀ fields, members fields = [] → Condition.holds r args (.obj fields) = true) ∧
    (∀ fields, (∃ e ∈ members fields, ∀ op : Operator, ¬Text.sameIgnoringCase op.name e.1) →
      Condition.holds r args (.obj fields) = false) ∧
    (∀ fields, members fields ≠ [] →
      (∀ e ∈ members fields, ∃ op : Operator, Text.sameIgnoringCase op.name e.1) →
      Condition.holds r args (.obj fields) =
        (if lastCombinator? fields = some .any then Combinator.any else .all).fold
          ((members fields).map fun e => Condition.holds r args (.obj [e]))) ∧
    ∀ (k : String) (op : Operator), Text.sameIgnoringCase op.name k →
      (∀ items, Condition.holds r args (.obj [(k, .arr items)]) = true ↔
        items ≠ [] ∧ ∀ v ∈ items,
          (∃ fields, v = .obj fields) ∧ Condition.holds r args (.obj [(k, v)]) = true) ∧
      (∀ v, (∀ fields, v ≠ .obj fields) → (∀ items, v ≠ .arr items) →
        Condition.holds r args (.obj [(k, v)]) = false) ∧
      ∀ fields, members fields ≠ [] →
        Condition.holds r args (.obj [(k, .obj fields)]) =
          (let c := if lastCombinator? fields = some .all then Combinator.all else .any
          if op = .notEquals ∨ op = .notIn ∨ op = .notLike then c.dual else c).fold
            ((members fields).map fun e => Condition.holds r args (.obj [(k, .obj [e])])) := by
  refine ⟨fun raw hraw => ?_, fun fields h => holds_of_members_eq_nil r args h,
    fun fields ⟨e, he, hunknown⟩ => holds_of_unknown r args he hunknown,
    fun fields h hknown => ?_,
    fun k op hk => ⟨holds_list_iff r args hk, fun v => holds_scalar r args hk, fun fields h => ?_⟩⟩
  · cases raw with
    | obj fields => exact absurd rfl (hraw fields)
    | _ => rfl
  · rw [holds_eq_fold r args h hknown, combinatorAmong_eq, getD_eq_ite]
    rfl
  · -- These three are the negated operators, at which the connective is the dual one.
    have hnegated : op.negated = decide (op = .notEquals ∨ op = .notIn ∨ op = .notLike) := by
      cases op <;> rfl
    rw [holds_set_eq_fold r args hk h, combinatorAmong_eq, getD_eq_ite, hnegated]
    simp only [decide_eq_true_eq]
    rfl

/-- At a negated operator the pairs of a set that asks for all of them are alternatives, and at a
block with two fields that can name a combinator the last one counts. -/
theorem holds_compositional_negated :
    Condition.holds ⟨∅⟩ [] (.obj [("notin", .obj
      [("Operator", .str " and "), ("x", .str "x"), ("y", .str "z")])]) =
      [Condition.holds ⟨∅⟩ [] (.obj [("notin", .obj [("x", .str "x")])]),
        Condition.holds ⟨∅⟩ [] (.obj [("notin", .obj [("y", .str "z")])])].any id ∧
    Condition.holds ⟨∅⟩ [] (.obj
      [("Equals", .obj [("x", .str "x")]), ("OPERATOR", .str "And"), ("notin", .arr []),
        ("operator", .str "or")]) =
      [Condition.holds ⟨∅⟩ [] (.obj [("Equals", .obj [("x", .str "x")])]),
        Condition.holds ⟨∅⟩ [] (.obj [("notin", .arr [])])].any id := by
  obtain ⟨-, -, -, hblock, hgroup⟩ := holds_compositional ⟨∅⟩ []
  -- The negated operator turns the words of the set round, and the block takes the last word.
  obtain ⟨-, -, hset⟩ := hgroup "notin" .notIn (by decide)
  refine ⟨hset [("Operator", .str " and "), ("x", .str "x"), ("y", .str "z")] (by decide),
    hblock [("Equals", .obj [("x", .str "x")]), ("OPERATOR", .str "And"), ("notin", .arr []),
      ("operator", .str "or")] (by decide) fun e he => ?_⟩
  rcases List.mem_pair.mp he with rfl | rfl
  · exact ⟨.equals, by decide⟩
  · exact ⟨.notIn, by decide⟩

end AccessPolicy.Condition
