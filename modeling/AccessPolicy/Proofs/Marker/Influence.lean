import AccessPolicy.Marker.Resolver
import AccessPolicy.Marker.Segment

/-!
# What a resolved value depends on

A text is divided into literal text and markers before anything is looked up, and what a source
answers is put in the place of its marker as it is. So two resolvers, each with arguments of its
own, resolve a text in the same way if they give the tokens of that text the same values
(`Resolver.resolve_congr`), whatever they would answer to a token that stands in one of these
values. For the values of JSON the same holds of the tokens in all their strings
(`Resolver.resolveAll_congr`).
-/

namespace AccessPolicy.Marker

/-- Whether two resolvers, each with its arguments, give some tokens the same values. -/
def Agree (r : Resolver) (args : Args) (q : Resolver) (others : Args)
    (tokens : List (List Char)) : Prop :=
  ∀ token ∈ tokens, r.lookup args token = q.lookup others token

section Agree

variable {r q : Resolver} {args others : Args}

/-- To agree on two lists of tokens is to agree on each of them. -/
theorem agree_append {ts us : List (List Char)} :
    Agree r args q others (ts ++ us) ↔ Agree r args q others ts ∧ Agree r args q others us :=
  List.forall_mem_append

/-- To agree on the tokens of several things is to agree on those of each of them. -/
theorem agree_flatMap {α : Type} {f : α → List (List Char)} {xs : List α} :
    Agree r args q others (xs.flatMap f) ↔ ∀ x ∈ xs, Agree r args q others (f x) := by
  unfold Agree
  simp only [List.mem_flatMap]
  exact ⟨fun h x hx token ht => h token ⟨x, hx, ht⟩, fun h token ⟨x, hx, ht⟩ => h x hx token ht⟩

namespace Resolver

/-- A part of a text resolves in the same way if its token, should it have one, has the same
value. -/
theorem segmentChars_congr {seg : Segment}
    (h : ∀ token, seg.token? = some token → r.lookup args token = q.lookup others token) :
    r.segmentChars args seg = q.segmentChars others seg := by
  cases seg with
  | text cs => rfl
  | marker token => rw [segmentChars, segmentChars, h token rfl]

/-- What a text resolves to depends on the values of its tokens only. -/
theorem resolve_congr {s : String} (h : Agree r args q others (tokens s)) :
    r.resolve args s = q.resolve others s := by
  have hparts : ∀ seg ∈ segments s.toList, r.segmentChars args seg = q.segmentChars others seg :=
    fun seg hseg => segmentChars_congr fun token ht =>
      h token (List.mem_filterMap.mpr ⟨seg, hseg, ht⟩)
  have hspliced : (segments s.toList).flatMap (r.segmentChars args) =
      (segments s.toList).flatMap (q.segmentChars others) := by
    rw [List.flatMap_def, List.flatMap_def, List.map_congr_left hparts]
  unfold resolve
  -- A text that is a single marker resolves to the value itself, and any other one to a string.
  split
  · next token hsegments =>
    refine h token (List.mem_filterMap.mpr ⟨.marker token, ?_, rfl⟩)
    rw [hsegments]
    exact List.mem_singleton_self _
  · rw [hspliced]

mutual

/-- What a value resolves to depends on the values of the tokens in its strings only. -/
theorem resolveAll_congr : ∀ {v : Json}, Agree r args q others (tokensOf v) →
    r.resolveAll args v = q.resolveAll others v
  | .str s, h => by
    rw [resolveAll, resolveAll, resolve_congr h]
  | .arr items, h => by
    rw [resolveAll, resolveAll, resolveItems_congr h]
  | .obj fields, h => by
    rw [resolveAll, resolveAll, resolveFields_congr h]
  | .null, _ | .bool _, _ | .int _, _ | .float _, _ => rfl

/-- The same for the elements of an array. -/
theorem resolveItems_congr : ∀ {items : List Json}, Agree r args q others (tokensOfItems items) →
    r.resolveItems args items = q.resolveItems others items
  | [], _ => rfl
  | v :: vs, h => by
    obtain ⟨hv, hvs⟩ := agree_append.mp h
    rw [resolveItems, resolveItems, resolveAll_congr hv, resolveItems_congr hvs]

/-- The same for the fields of an object. -/
theorem resolveFields_congr : ∀ {fields : List (String × Json)},
    Agree r args q others (tokensOfFields fields) →
    r.resolveFields args fields = q.resolveFields others fields
  | [], _ => rfl
  | (k, v) :: fs, h => by
    obtain ⟨hv, hfs⟩ := agree_append.mp h
    rw [resolveFields, resolveFields, resolveAll_congr hv, resolveFields_congr hfs]

end

end Resolver

end Agree

end AccessPolicy.Marker
