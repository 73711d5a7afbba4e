import AccessPolicy.Proofs.Condition.Invalid

/-!
# Lists of ranges

What a value is asked to lie in is a range of two bounds, a single bound, or a list of these.
Whether a list is one range or a list of them is seen from its first element alone. If that is a
range, a value lies in the list exactly if it lies in one of the elements, single bounds included,
and the other elements may as well stand in another order (`between_iff_exists_mem`,
`between_eq_of_perm`). If it is a bound, the list is one range from the first element to the last
one, and the elements in between do not count (`between_iff_of_isBound`). So a list of a bound and
ranges behind it is not read as a list of ranges: no value lies in it if a range is the last of
them.
-/

namespace AccessPolicy.Condition

/-! ## Bounds and ranges -/

/-- Whether a value can be a bound: it is no list. -/
def isBound : Value → Bool
  | .arr _ => false
  | _ => true

/-- Whether a value is a range: a list of two bounds. -/
def isRange : Value → Bool
  | .arr [low, high] => isBound low && isBound high
  | _ => false

/-- A range is a pair of bounds. -/
theorem exists_of_isRange {range : Value} (h : isRange range = true) :
    ∃ low high, range = .arr [low, high] ∧ isBound low = true ∧ isBound high = true := by
  unfold isRange at h
  split at h
  · next low high =>
    obtain ⟨hlow, hhigh⟩ := Bool.and_eq_true_iff.mp h
    exact ⟨low, high, rfl, hlow, hhigh⟩
  · exact absurd h Bool.false_ne_true

/-- No list is comparable to any value. -/
theorem order?_arr (v : Value) (items : List Value) : v.order? (.arr items) = none := by
  cases v <;> simp [Value.order?, Value.number?]

/-- What a value is at most can be a bound. -/
theorem isBound_of_atMost {v bound : Value} (h : v.atMost bound = true) : isBound bound = true := by
  cases bound with
  | arr items =>
    rw [Value.atMost, order?_arr] at h
    exact absurd h Bool.false_ne_true
  | _ => rfl

/-! ## Reading a range -/

/-- A value lies in a single bound if it is level with it. -/
theorem between_of_isBound (v : Value) {bound : Value} (h : isBound bound = true) :
    between v bound = (v.atLeast bound && v.atMost bound) := by
  cases bound with
  | arr items => exact absurd h Bool.false_ne_true
  | _ => rfl

/-- A list that begins with a bound is a range from there to its last element. -/
theorem between_cons_of_isBound (v : Value) {low : Value} (h : isBound low = true)
    (rest : List Value) :
    between v (.arr (low :: rest)) = (v.atLeast low && v.atMost ((low :: rest).getLastD low)) := by
  cases low with
  | arr items => exact absurd h Bool.false_ne_true
  | _ => rfl

/-- A range or a bound in a list of ranges is read as it is alone. -/
theorem withinRange_eq_between (v : Value) {x : Value} (h : isRange x = true ∨ isBound x = true) :
    withinRange v x = between v x := by
  rcases h with hrange | hbound
  · -- Alone, a range begins with a bound, and is not taken for a list of ranges.
    obtain ⟨low, high, rfl, hlow, -⟩ := exists_of_isRange hrange
    rw [between_cons_of_isBound v hlow]
    rfl
  · rw [between_of_isBound v hbound]
    cases x with
    | arr items => exact absurd hbound Bool.false_ne_true
    | _ => rfl

/-! ## Reading a list of ranges -/

section
variable (v : Value) {head : Value} {rest : List Value}

/-- A list that begins with a range is a list of ranges. -/
theorem between_cons_of_isRange (h : isRange head = true) :
    between v (.arr (head :: rest)) = (head :: rest).any (withinRange v) := by
  obtain ⟨low, high, rfl, -, -⟩ := exists_of_isRange h
  rfl

/-- A value lies in a list of ranges and bounds that begins with a range exactly if it lies in one
of the elements. -/
theorem between_iff_exists_mem (h : isRange head = true)
    (hitems : ∀ x ∈ head :: rest, isRange x = true ∨ isBound x = true) :
    between v (.arr (head :: rest)) = true ↔ ∃ x ∈ head :: rest, between v x = true := by
  rw [between_cons_of_isRange v h, List.any_eq_true]
  refine exists_congr fun x => and_congr_right fun hx => ?_
  rw [withinRange_eq_between v (hitems x hx)]

/-- The elements of a list of ranges may be put in any order that begins with a range. -/
theorem between_eq_of_perm {head' : Value} {rest' : List Value} (h : isRange head = true)
    (h' : isRange head' = true) (hperm : (head' :: rest').Perm (head :: rest)) :
    between v (.arr (head' :: rest')) = between v (.arr (head :: rest)) := by
  rw [between_cons_of_isRange v h, between_cons_of_isRange v h']
  exact hperm.any_eq

/-- A value lies in a list that begins with a bound exactly if the last element is a bound too and
the value is at least the one and at most the other. -/
theorem between_iff_of_isBound (h : isBound head = true) :
    between v (.arr (head :: rest)) = true ↔
      isBound ((head :: rest).getLastD head) = true ∧ v.atLeast head = true ∧
        v.atMost ((head :: rest).getLastD head) = true := by
  rw [between_cons_of_isBound v h, Bool.and_eq_true_iff]
  exact ⟨fun hboth => ⟨isBound_of_atMost hboth.2, hboth⟩, fun hall => hall.2⟩

end

namespace Operator

/-- Of a value and a list of ranges and bounds that begins with a range `Between` holds exactly if
it holds of the value and one of the elements, and it holds of every order of the elements that
begins with a range or of none. Of a list that begins with a bound it holds exactly if the last
element is a bound too and the value is at least the first one and at most the last one. -/
theorem holds_between_list (c : Combinator) (v : Value) {head : Value} {rest : List Value}
    (hitems : ∀ x ∈ head :: rest, isRange x = true ∨ isBound x = true) :
    (isRange head = true →
      (Operator.between.holds c [(v, .arr (head :: rest))] = true ↔
        ∃ x ∈ head :: rest, Operator.between.holds c [(v, x)] = true) ∧
      ∀ head' rest', (head' :: rest').Perm (head :: rest) → isRange head' = true →
        Operator.between.holds c [(v, .arr (head' :: rest'))] =
          Operator.between.holds c [(v, .arr (head :: rest))]) ∧
    (isBound head = true →
      (Operator.between.holds c [(v, .arr (head :: rest))] = true ↔
        isBound ((head :: rest).getLastD head) = true ∧
          Operator.greaterOrEquals.holds c [(v, head)] = true ∧
          Operator.lessOrEquals.holds c [(v, (head :: rest).getLastD head)] = true)) := by
  simp only [@holds_singleton_of_not_negated .between rfl,
    @holds_singleton_of_not_negated .greaterOrEquals rfl,
    @holds_singleton_of_not_negated .lessOrEquals rfl]
  -- Behind a range the elements are alternatives, whose order makes no difference.
  refine ⟨fun hrange => ⟨between_iff_exists_mem v hrange hitems, ?_⟩, between_iff_of_isBound v⟩
  intro head' rest' hperm hrange'
  exact between_eq_of_perm v hrange hrange' hperm

/-- Two lies in the range of a list that has a bound behind it, and six lies from the first bound to
the last one of a list, though in no element of it. -/
theorem holds_between_behind :
    Operator.between.holds .any [(.int 2, .arr [.arr [.int 1, .int 3], .int 5])] = true ∧
      Operator.between.holds .any [(.int 6, .arr [.int 5, .arr [.int 1, .int 3], .int 7])] =
        true := by
  obtain ⟨hrange, -⟩ :=
    @holds_between_list .any (.int 2) (.arr [.int 1, .int 3]) [.int 5] (by decide)
  obtain ⟨-, hbound⟩ :=
    @holds_between_list .any (.int 6) (.int 5) [.arr [.int 1, .int 3], .int 7] (by decide)
  refine ⟨(hrange rfl).1.mpr ⟨.arr [.int 1, .int 3], List.mem_cons_self, rfl⟩, ?_⟩
  exact (hbound rfl).mpr ⟨rfl, rfl, rfl⟩

/-- Two does not lie in a list of a bound and a range, although it lies in the range, and in the
list with the range in front. -/
theorem holds_between_in_front :
    Operator.between.holds .any [(.int 2, .arr [.int 5, .arr [.int 1, .int 3]])] = false ∧
      Operator.between.holds .any [(.int 2, .arr [.int 1, .int 3])] = true ∧
      Operator.between.holds .any [(.int 2, .arr [.arr [.int 1, .int 3], .int 5])] = true := by
  decide

end Operator
end AccessPolicy.Condition
