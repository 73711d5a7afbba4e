import AccessPolicy.Marker.Resolver

/-!
# The strings of a value and their markers

The strings of a value of JSON, at any depth, are all that resolving its markers can change. A value
with no marker in any of them resolves to itself (`Resolver.resolveAll_of_forall_hasMarker`), and
the fields of an object are resolved one by one, each under its own name
(`Resolver.resolveFields_eq_mapValues`).
-/

namespace AccessPolicy

open Marker (hasMarker)

/-! ## Strings -/

namespace Json

mutual

/-- The strings of a value at any depth; names of fields do not count. -/
def strings : Json → List String
  | .str s => [s]
  | .arr items => stringsOfItems items
  | .obj fields => stringsOfFields fields
  | _ => []

/-- The strings of the elements of an array. -/
def stringsOfItems : List Json → List String
  | [] => []
  | v :: vs => v.strings ++ stringsOfItems vs

/-- The strings of the fields of an object. -/
def stringsOfFields : List (String × Json) → List String
  | [] => []
  | (_, v) :: fs => v.strings ++ stringsOfFields fs

end

end Json

/-! ## Resolving -/

namespace Marker.Resolver

variable (r : Resolver) (args : Args)

mutual

/-- A JSON value without markers resolves to itself. -/
theorem resolveAll_of_forall_hasMarker : ∀ {v : Json}, (∀ s ∈ v.strings, hasMarker s = false) →
    r.resolveAll args v = v
  | .str s, h => by
    rw [resolveAll, h s (List.mem_singleton_self s)]
    rfl
  | .arr items, h => by
    rw [resolveAll, resolveItems_of_forall_hasMarker h]
  | .obj fields, h => by
    rw [resolveAll, resolveFields_of_forall_hasMarker h]
  | .null, _ | .bool _, _ | .int _, _ | .float _, _ => by simp only [resolveAll]

/-- The same for the elements of an array. -/
theorem resolveItems_of_forall_hasMarker : ∀ {items : List Json},
    (∀ s ∈ Json.stringsOfItems items, hasMarker s = false) → r.resolveItems args items = items
  | [], _ => rfl
  | v :: vs, h => by
    obtain ⟨hv, hvs⟩ := List.forall_mem_append.mp h
    rw [resolveItems, resolveAll_of_forall_hasMarker hv, resolveItems_of_forall_hasMarker hvs]

/-- The same for the fields of an object. -/
theorem resolveFields_of_forall_hasMarker : ∀ {fields : List (String × Json)},
    (∀ s ∈ Json.stringsOfFields fields, hasMarker s = false) →
    r.resolveFields args fields = fields
  | [], _ => rfl
  | (k, v) :: fs, h => by
    obtain ⟨hv, hfs⟩ := List.forall_mem_append.mp h
    rw [resolveFields, resolveAll_of_forall_hasMarker hv, resolveFields_of_forall_hasMarker hfs]

end

/-- The markers in the fields of an object are resolved field by field. -/
theorem resolveFields_eq_mapValues (fields : Json.Fields) :
    r.resolveFields args fields = Entries.mapValues (r.resolveAll args) fields := by
  induction fields with
  | nil => rfl
  | cons field fields ih =>
    rw [resolveFields, ih]
    rfl

end Marker.Resolver

end AccessPolicy
