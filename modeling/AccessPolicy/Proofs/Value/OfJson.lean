import AccessPolicy.Proofs.Decimal.Binary
import AccessPolicy.Proofs.Json.ReadBack
import AccessPolicy.Value.Order

/-!
# Values of JSON

The JSON form of a value that comes of JSON is not always what the value came of: an integer that
fits no signed word is a floating-point number by then. But it has the same value again
(`toJson_ofJson`), and it has the shape of what is read if the floating-point numbers are read back.
Such a value also equals itself, as instants and addresses do and what could not be read does not
(`equals_ofJson_self`).
-/

namespace AccessPolicy

/-- Entries with the names of entries in order are in order. -/
theorem Entries.Sorted.of_keys {α β : Type} {es : Entries α} {fs : Entries β} (h : Sorted es)
    (hkeys : fs.map Prod.fst = es.map Prod.fst) : Sorted fs := by
  have hpairwise := List.pairwise_map.mpr h
  rw [← hkeys] at hpairwise
  exact List.pairwise_map.mp hpairwise

namespace Json

/-- Only the texts of finite numbers are read back. -/
theorem FloatReadsBack.isFinite {x : Float} (h : FloatReadsBack x) : Decimal.isFinite x = true := by
  refine Decidable.byContradiction fun hfinite => ?_
  rw [FloatReadsBack, floatText, if_neg hfinite] at h
  exact nomatch h

end Json

namespace Value

open Json (FloatReadsBack Shaped ShapedItems ShapedFields)

/-! ## Floating-point numbers within values -/

mutual

/-- The floating-point numbers in a value, at any depth. -/
def floats : Value → List Float
  | .float x => [x]
  | .arr items => floatsOfItems items
  | .obj fields => floatsOfFields fields
  | _ => []

/-- The floating-point numbers in the elements of an array. -/
def floatsOfItems : List Value → List Float
  | [] => []
  | v :: vs => v.floats ++ floatsOfItems vs

/-- The floating-point numbers in the fields of an object. -/
def floatsOfFields : List (String × Value) → List Float
  | [] => []
  | (_, v) :: fs => v.floats ++ floatsOfFields fs

end

/-- The floating-point numbers that stand in an array or in an object. -/
def nestedFloats : Value → List Float
  | .arr items => floatsOfItems items
  | .obj fields => floatsOfFields fields
  | _ => []

/-! ## The JSON form of what comes of JSON -/

/-- The value of an object has the names of the object. -/
theorem keys_ofFields (fields : List (String × Json)) :
    (ofFields fields).map Prod.fst = fields.map Prod.fst := by
  induction fields with
  | nil => rfl
  | cons f fs ih =>
    obtain ⟨k, v⟩ := f
    rw [ofFields, List.map_cons, List.map_cons, ih]

/-- The JSON form of an object has the names of the object. -/
theorem keys_toFields (fields : List (String × Value)) :
    (toFields fields).map Prod.fst = fields.map Prod.fst := by
  induction fields with
  | nil => rfl
  | cons f fs ih =>
    obtain ⟨k, v⟩ := f
    rw [toFields, List.map_cons, List.map_cons, ih]

mutual

/-- The JSON form of a value that comes of JSON has the shape of what is read, and has that
value. -/
theorem toJson_ofJson : ∀ {w : Json} {depth : Nat}, w.Shaped (fun _ => True) depth →
    (∀ x ∈ (ofJson w).floats, FloatReadsBack x) →
    (ofJson w).toJson.Shaped FloatReadsBack depth ∧ ofJson (ofJson w).toJson = ofJson w
  | .null, _, _, _ | .bool _, _, _, _ | .str _, _, _, _ => ⟨trivial, rfl⟩
  | .int i, depth, _, hfloats => by
    rw [ofJson, ofInt] at hfloats ⊢
    -- An integer beyond a word is a number that is near to it, and is written as that.
    by_cases hfits : Decimal.FitsInt64 i
    · rw [if_pos hfits, toJson, ofJson, ofInt, if_pos hfits, Shaped, Json.FitsWord]
      obtain ⟨hlow, hhigh⟩ := hfits
      simp only [Decimal.minInt64, Decimal.maxInt64] at hlow hhigh
      exact ⟨by omega, rfl⟩
    · rw [if_neg hfits] at hfloats ⊢
      have hread := hfloats _ (List.mem_singleton_self _)
      rw [toJson, if_pos hread.isFinite]
      exact ⟨hread, rfl⟩
  | .float x, depth, _, hfloats => by
    have hread : FloatReadsBack x := hfloats x (List.mem_singleton_self x)
    rw [ofJson, toJson, if_pos hread.isFinite]
    exact ⟨hread, rfl⟩
  | .arr items, depth, h, hfloats => by
    -- Every number in the items is one in the array.
    obtain ⟨hshaped, heq⟩ := toItems_ofItems h.2 hfloats
    rw [ofJson, toJson, ofJson, heq]
    exact ⟨⟨h.1, hshaped⟩, rfl⟩
  | .obj fields, depth, h, hfloats => by
    obtain ⟨hshaped, heq⟩ := toFields_ofFields h.2.2 hfloats
    rw [ofJson, toJson, ofJson, heq]
    -- The names are those of the object that was read, in the same order.
    have hkeys := (keys_toFields (ofFields fields)).trans (keys_ofFields fields)
    exact ⟨⟨h.1, h.2.1.of_keys hkeys, hshaped⟩, rfl⟩

/-- The same for the elements of an array. -/
theorem toItems_ofItems : ∀ {items : List Json} {depth : Nat},
    ShapedItems (fun _ => True) depth items →
    (∀ x ∈ floatsOfItems (ofItems items), FloatReadsBack x) →
    ShapedItems FloatReadsBack depth (toItems (ofItems items)) ∧
      ofItems (toItems (ofItems items)) = ofItems items
  | [], _, _, _ => ⟨trivial, rfl⟩
  | w :: ws, depth, h, hfloats => by
    obtain ⟨hw, hws⟩ := List.forall_mem_append.mp hfloats
    obtain ⟨hshaped, heq⟩ := toJson_ofJson h.1 hw
    obtain ⟨hshapeds, heqs⟩ := toItems_ofItems h.2 hws
    rw [ofItems, toItems, ofItems, heq, heqs]
    exact ⟨⟨hshaped, hshapeds⟩, rfl⟩

/-- The same for the fields of an object. -/
theorem toFields_ofFields : ∀ {fields : List (String × Json)} {depth : Nat},
    ShapedFields (fun _ => True) depth fields →
    (∀ x ∈ floatsOfFields (ofFields fields), FloatReadsBack x) →
    ShapedFields FloatReadsBack depth (toFields (ofFields fields)) ∧
      ofFields (toFields (ofFields fields)) = ofFields fields
  | [], _, _, _ => ⟨trivial, rfl⟩
  | (k, w) :: fs, depth, h, hfloats => by
    obtain ⟨hw, hfs⟩ := List.forall_mem_append.mp hfloats
    obtain ⟨hshaped, heq⟩ := toJson_ofJson h.1 hw
    obtain ⟨hshapeds, heqs⟩ := toFields_ofFields h.2 hfs
    rw [ofFields, toFields, ofFields, heq, heqs]
    exact ⟨⟨hshaped, hshapeds⟩, rfl⟩

end

/-! ## Values that equal themselves -/

mutual

/-- A value that comes of JSON equals itself, if its numbers are finite. -/
theorem equals_ofJson_self : ∀ {w : Json} {depth : Nat}, w.Shaped (fun _ => True) depth →
    (∀ x ∈ (ofJson w).floats, Decimal.isFinite x) → equals (ofJson w) (ofJson w) = true
  | .null, _, _, _ => rfl
  | .bool b, _, _, _ => beq_self_eq_true b
  | .str s, _, _, _ => beq_self_eq_true s
  | .int i, _, _, hfloats => by
    rw [ofJson, ofInt] at hfloats ⊢
    -- An integer beyond a word is a finite number, which is the same as itself.
    split
    · exact beq_self_eq_true i
    · next hfits =>
      rw [if_neg hfits] at hfloats
      exact Decimal.sameNumber_self (hfloats _ (List.mem_singleton_self _))
  | .float x, _, _, hfloats => Decimal.sameNumber_self (hfloats x (List.mem_singleton_self x))
  | .arr items, _, h, hfloats => equalItems_ofItems_self h.2 hfloats
  | .obj fields, _, h, hfloats => by
    rw [ofJson, equals, beq_self_eq_true, Bool.true_and]
    exact equalFields_ofFields h.2.2 hfloats (h.2.1.of_keys (keys_ofFields fields)) fun _ hf => hf

/-- The same for the elements of an array. -/
theorem equalItems_ofItems_self : ∀ {items : List Json} {depth : Nat},
    ShapedItems (fun _ => True) depth items →
    (∀ x ∈ floatsOfItems (ofItems items), Decimal.isFinite x) →
    equalItems (ofItems items) (ofItems items) = true
  | [], _, _, _ => rfl
  | w :: ws, _, h, hfloats => by
    obtain ⟨hw, hws⟩ := List.forall_mem_append.mp hfloats
    rw [ofItems, equalItems, equals_ofJson_self h.1 hw, equalItems_ofItems_self h.2 hws]
    rfl

/-- Fields that are among those of an object have equal ones of their names there. -/
theorem equalFields_ofFields : ∀ {fields : List (String × Json)} {depth : Nat}
    {all : List (String × Value)}, ShapedFields (fun _ => True) depth fields →
    (∀ x ∈ floatsOfFields (ofFields fields), Decimal.isFinite x) → Entries.Sorted all →
    (∀ f ∈ ofFields fields, f ∈ all) → equalFields (ofFields fields) all = true
  | [], _, _, _, _, _, _ => rfl
  | (k, w) :: fs, _, all, h, hfloats, hsorted, hall => by
    obtain ⟨hw, hfs⟩ := List.forall_mem_append.mp hfloats
    obtain ⟨hmem, hmems⟩ := List.forall_mem_cons.mp hall
    have hget : Entries.get? all k = some (ofJson w) := Entries.get?_of_mem hsorted hmem
    rw [ofFields, equalFields, hget, equalFields_ofFields h.2 hfs hsorted hmems, Bool.and_true]
    exact equals_ofJson_self h.1 hw

end

end Value

end AccessPolicy
