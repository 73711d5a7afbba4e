import AccessPolicy.Proofs.Value.Literal
import AccessPolicy.Proofs.Value.OfJson

/-!
# Values within values

The parts of a value are the value itself and, at any depth, the elements of its arrays and the
values of the fields of its objects. Facts about all of them go by induction over the elements and
the fields (`nestedInduction`). A value is well formed if its integers fit a signed word and its
objects have their fields in the order of the names, with no name twice; `wellFormed_ofLiterals`
says that all values are which come of what is read as JSON.
-/

namespace AccessPolicy

namespace Value

open Json (Shaped ShapedItems ShapedFields)

/-- Whether a value is neither an array nor an object. -/
def isScalar : Value → Bool
  | .arr _ => false
  | .obj _ => false
  | _ => true

/-! ## Induction -/

/-- Induction over a value, through the elements of arrays and the fields of objects. -/
@[elab_as_elim]
theorem nestedInduction {motive : Value → Prop} (scalar : ∀ v, v.isScalar = true → motive v)
    (arr : ∀ items, (∀ v ∈ items, motive v) → motive (.arr items))
    (obj : ∀ fields : List (String × Value), (∀ f ∈ fields, motive f.2) → motive (.obj fields)) :
    ∀ v : Value, motive v
  | .arr items => arr items fun v _ => nestedInduction scalar arr obj v
  | .obj fields => obj fields fun f _ => nestedInduction scalar arr obj f.2
  | .null => scalar _ rfl
  | .bool _ => scalar _ rfl
  | .int _ => scalar _ rfl
  | .float _ => scalar _ rfl
  | .str _ => scalar _ rfl
  | .address _ => scalar _ rfl
  | .instant _ => scalar _ rfl
  | .network _ => scalar _ rfl
  | .invalid _ => scalar _ rfl
termination_by v => sizeOf v
decreasing_by
  · -- An element is smaller than its array.
    decreasing_tactic
  · have hlt := List.sizeOf_lt_of_mem ‹f ∈ fields›
    obtain ⟨k, v⟩ := f
    simp only [Prod.mk.sizeOf_spec, Value.obj.sizeOf_spec] at hlt ⊢
    omega

/-! ## Parts -/

mutual

/-- The value itself and the values within it, at any depth. -/
def parts : Value → List Value
  | .arr items => .arr items :: partsOfItems items
  | .obj fields => .obj fields :: partsOfFields fields
  | v => [v]

/-- The parts of the elements of an array. -/
def partsOfItems : List Value → List Value
  | [] => []
  | v :: vs => v.parts ++ partsOfItems vs

/-- The parts of the fields of an object. -/
def partsOfFields : List (String × Value) → List Value
  | [] => []
  | (_, v) :: fs => v.parts ++ partsOfFields fs

end

/-- A scalar's only part is itself. -/
theorem parts_of_isScalar {v : Value} (h : v.isScalar = true) : v.parts = [v] := by
  cases v with
  | arr items => exact absurd h Bool.false_ne_true
  | obj fields => exact absurd h Bool.false_ne_true
  | _ => rw [parts] <;> exact nofun

/-- A part of an array is the array or a part of an element. -/
theorem mem_parts_arr {w : Value} {items : List Value} :
    w ∈ (arr items).parts ↔ w = .arr items ∨ ∃ v ∈ items, w ∈ v.parts := by
  have hitems : partsOfItems items = items.flatMap parts := by
    induction items with
    | nil => rfl
    | cons v vs ih => rw [partsOfItems, ih, List.flatMap_cons]
  rw [parts, List.mem_cons, hitems, List.mem_flatMap]

/-- A part of an object is the object or a part of the value of a field. -/
theorem mem_parts_obj {w : Value} {fields : List (String × Value)} :
    w ∈ (obj fields).parts ↔ w = .obj fields ∨ ∃ f ∈ fields, w ∈ f.2.parts := by
  have hfields : partsOfFields fields = fields.flatMap fun f => f.2.parts := by
    induction fields with
    | nil => rfl
    | cons f fs ih =>
      obtain ⟨k, v⟩ := f
      rw [partsOfFields, ih, List.flatMap_cons]
  rw [parts, List.mem_cons, hfields, List.mem_flatMap]

/-- What holds of the parts of an array holds of the parts of its elements. -/
theorem forall_parts_of_mem_items {P : Value → Prop} {items : List Value}
    (h : ∀ w ∈ (arr items).parts, P w) {v : Value} (hv : v ∈ items) : ∀ w ∈ v.parts, P w :=
  fun w hw => h w (mem_parts_arr.mpr (.inr ⟨v, hv, hw⟩))

/-- What holds of the parts of an object holds of the parts of its fields. -/
theorem forall_parts_of_mem_fields {P : Value → Prop} {fields : List (String × Value)}
    (h : ∀ w ∈ (obj fields).parts, P w) {f : String × Value} (hf : f ∈ fields) :
    ∀ w ∈ f.2.parts, P w :=
  fun w hw => h w (mem_parts_obj.mpr (.inr ⟨f, hf, hw⟩))

/-! ## Well-formed values -/

/-- An integer that fits a signed word, fields in the order of their names, or any other value. -/
def isInForm : Value → Prop
  | .int i => Decimal.FitsInt64 i
  | .obj fields => Entries.Sorted fields
  | _ => True

/-- The integers in a value fit a signed word, and the fields of its objects are in the order of
their names. -/
def WellFormed (v : Value) : Prop :=
  ∀ w ∈ v.parts, w.isInForm

/-- A scalar is well-formed when it is in form itself. -/
theorem wellFormed_scalar {v : Value} (hv : v.isScalar = true) (h : v.isInForm) : v.WellFormed := by
  intro w hw
  rw [parts_of_isScalar hv, List.mem_singleton] at hw
  exact hw ▸ h

/-- A list is well-formed when its items are. -/
theorem wellFormed_arr {items : List Value} (h : ∀ v ∈ items, v.WellFormed) :
    (arr items).WellFormed := by
  intro w hw
  rcases mem_parts_arr.mp hw with rfl | ⟨v, hv, hw⟩
  · exact trivial
  · exact h v hv w hw

/-- An object is well-formed when its names are in order and its values are well-formed. -/
theorem wellFormed_obj {fields : List (String × Value)} (hsorted : Entries.Sorted fields)
    (h : ∀ f ∈ fields, f.2.WellFormed) : (obj fields).WellFormed := by
  intro w hw
  rcases mem_parts_obj.mp hw with rfl | ⟨f, hf, hw⟩
  · exact hsorted
  · exact h f hf w hw

/-- The value of a JSON integer fits a word, as what does not is a floating-point number. -/
theorem wellFormed_ofInt (i : Int) : (ofInt i).WellFormed := by
  rw [ofInt]
  split
  · next hfits => exact wellFormed_scalar rfl hfits
  · exact wellFormed_scalar rfl trivial

mutual

/-- The value of what is read as JSON is well formed. -/
theorem wellFormed_ofJson {P : Float → Prop} :
    ∀ {w : Json} {depth : Nat}, w.Shaped P depth → (ofJson w).WellFormed
  | .null, _, _ => wellFormed_scalar rfl trivial
  | .bool _, _, _ => wellFormed_scalar rfl trivial
  | .int i, _, _ => wellFormed_ofInt i
  | .float _, _, _ => wellFormed_scalar rfl trivial
  | .str _, _, _ => wellFormed_scalar rfl trivial
  | .arr _, _, h => wellFormed_arr (wellFormed_ofItems h.2)
  | .obj fields, _, h =>
    wellFormed_obj (h.2.1.of_keys (keys_ofFields fields)) (wellFormed_ofFields h.2.2)

/-- The same for the elements of an array. -/
theorem wellFormed_ofItems {P : Float → Prop} :
    ∀ {items : List Json} {depth : Nat}, ShapedItems P depth items →
      ∀ v ∈ ofItems items, v.WellFormed
  | [], _, _ => fun _ hv => absurd hv List.not_mem_nil
  | _ :: _, _, h => List.forall_mem_cons.mpr ⟨wellFormed_ofJson h.1, wellFormed_ofItems h.2⟩

/-- The same for the fields of an object. -/
theorem wellFormed_ofFields {P : Float → Prop} :
    ∀ {fields : List (String × Json)} {depth : Nat}, ShapedFields P depth fields →
      ∀ f ∈ ofFields fields, f.2.WellFormed
  | [], _, _ => fun _ hf => absurd hf List.not_mem_nil
  | (_, _) :: _, _, h => List.forall_mem_cons.mpr ⟨wellFormed_ofJson h.1, wellFormed_ofFields h.2⟩

end

/-- The value of a literal is well formed, whatever its text is. -/
theorem wellFormed_ofLiteral (raw : String) : (ofLiteral raw).WellFormed := by
  have hdenotes := Literal.denotes_ofLiteral raw
  generalize ofLiteral raw = v at hdenotes ⊢
  cases hdenotes with
  | int cs => exact wellFormed_scalar rfl (Literal.fitsInt64_leadingInt cs)
  | items _ hparse => exact wellFormed_ofJson (Json.shaped_of_parse? hparse)
  | fields _ hparse => exact wellFormed_ofJson (Json.shaped_of_parse? hparse)
  | scalar _ hparse =>
    have hone := wellFormed_ofJson (Json.shaped_of_parse? hparse)
    exact wellFormed_arr (List.forall_mem_singleton.mpr hone)
  | noItems => exact wellFormed_arr fun _ hv => absurd hv List.not_mem_nil
  | _ => exact wellFormed_scalar rfl trivial

/-- The value of an object has the names of the object, its strings being read as literals. -/
theorem keys_ofLiteralFields (fields : List (String × Json)) :
    (ofLiteralFields fields).map Prod.fst = fields.map Prod.fst := by
  induction fields with
  | nil => rfl
  | cons f fs ih =>
    obtain ⟨k, v⟩ := f
    rw [ofLiteralFields, List.map_cons, List.map_cons, ih]

mutual

/-- The value of what is read as JSON is well formed, its strings being read as literals. -/
theorem wellFormed_ofLiterals {P : Float → Prop} :
    ∀ {w : Json} {depth : Nat}, w.Shaped P depth → (ofLiterals w).WellFormed
  | .null, _, _ => wellFormed_scalar rfl trivial
  | .bool _, _, _ => wellFormed_scalar rfl trivial
  | .int i, _, _ => wellFormed_ofInt i
  | .float _, _, _ => wellFormed_scalar rfl trivial
  | .str s, _, _ => wellFormed_ofLiteral s
  | .arr _, _, h => wellFormed_arr (wellFormed_ofLiteralItems h.2)
  | .obj fields, _, h =>
    wellFormed_obj (h.2.1.of_keys (keys_ofLiteralFields fields)) (wellFormed_ofLiteralFields h.2.2)

/-- The same for the elements of an array. -/
theorem wellFormed_ofLiteralItems {P : Float → Prop} :
    ∀ {items : List Json} {depth : Nat}, ShapedItems P depth items →
      ∀ v ∈ ofLiteralItems items, v.WellFormed
  | [], _, _ => fun _ hv => absurd hv List.not_mem_nil
  | _ :: _, _, h =>
    List.forall_mem_cons.mpr ⟨wellFormed_ofLiterals h.1, wellFormed_ofLiteralItems h.2⟩

/-- The same for the fields of an object. -/
theorem wellFormed_ofLiteralFields {P : Float → Prop} :
    ∀ {fields : List (String × Json)} {depth : Nat}, ShapedFields P depth fields →
      ∀ f ∈ ofLiteralFields fields, f.2.WellFormed
  | [], _, _ => fun _ hf => absurd hf List.not_mem_nil
  | (_, _) :: _, _, h =>
    List.forall_mem_cons.mpr ⟨wellFormed_ofLiterals h.1, wellFormed_ofLiteralFields h.2⟩

end

end Value

end AccessPolicy
