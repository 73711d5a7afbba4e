import AccessPolicy.Proofs.Policy.Nameless
import AccessPolicy.Proofs.Text.FinalSigma

/-!
# Listing by a resource as it is written

A slot is lower-cased as a whole, with the resource, the colon and the action, and the prefix of a
listing on its own. The two forms of the resource are the same but for the capital sigma, whose
small letter depends on whether its word goes on behind the colon. A statement about a resource and
an action is therefore listed under the resource unless the resource ends in a sigma that ends a
word and the action starts with a cased character; then it is not listed, although it decides about
its slot (`Policy.resources_declared`).
-/

namespace AccessPolicy

open Marker (Resolver)

/-- A resource without markers that is no mapping stands for itself. -/
theorem Resource.names_of_plain {r : Resolver} {args : Args} {resource : String}
    (hresource : resource ≠ "") (hmarker : Marker.hasMarker resource = false)
    (hmapping : mapping? resource.toList = none) : names r args resource = [resource] := by
  have hcandidates : candidates r args resource = [resource] := by
    rw [candidates, hmapping, resolved, hmarker]
    rfl
  rw [names, hcandidates, List.filter_eq_self]
  exact List.forall_mem_singleton.mpr (decide_eq_true hresource)

/-- The slot of a resource and an action is that of the two with a colon in between. -/
theorem slotOf_of_ne {resource action : String} (haction : action ≠ "") :
    slotOf resource action = Text.lowercase (resource ++ ":" ++ action) := by
  rw [slotOf, if_neg haction]

namespace Policy

variable {p : Policy} {args : Args} {start : String}

/-- Of the only statement in a tree, a listing has the one entry that there is to its slot. -/
theorem entries_resources_of_single {slot : String} {s : Statement}
    (hslots : ∀ k held, p.tree.statements.get? k = some held ↔ k = slot ∧ held = s)
    (happlies : p.applies args s.condition = true) :
    (p.resources args start).entries =
      ((suffix? (Text.lowercase start) slot).map fun suffix =>
        (suffix, p.resolveMetadata args s)).toList := by
  -- A table that holds one entry is the empty one with that entry put in.
  have htable : p.tree.statements = (∅ : Table Statement).insert slot s := by
    refine Table.ext_get? fun k => Option.ext fun held => ?_
    rw [hslots, Table.get?_insert]
    by_cases hk : slot = k
    · rw [if_pos hk, Option.some_inj, and_iff_right hk.symm]
      exact eq_comm
    · rw [if_neg hk]
      exact iff_of_false (fun h => hk h.1.symm) nofun
  have hentries : p.tree.statements.entries = [(slot, s)] := by
    rw [htable]
    rfl
  have hlisted : p.listed? args (Text.lowercase start) (slot, s) =
      (suffix? (Text.lowercase start) slot).map fun suffix =>
        (suffix, p.resolveMetadata args s) := if_pos happlies
  rw [resources, hentries, List.filterMap_cons, hlisted]
  rcases suffix? (Text.lowercase start) slot with _ | suffix
  · rfl
  · rfl

/-- A statement without a condition about a resource and an action decides about them, whatever the
arguments. It is also all that is listed under the resource, by what its slot has behind the
resource, unless the resource ends in a sigma that ends a word and a cased character follows in the
action; then nothing is listed. -/
theorem resources_declared {r : Resolver} {built : Args} {d : Document} {resource action : String}
    {s : Statement} (hp : p.tree = .ofDocuments r built [d])
    (hd : d.statements = [⟨[resource], [action], s⟩]) (hresource : resource ≠ "")
    (haction : action ≠ "") (hmarker : Marker.hasMarker resource = false)
    (hmapping : Resource.mapping? resource.toList = none) (hcondition : s.condition = none)
    (args : Args) :
    p.decide? args (resource ++ ":" ++ action) = some s.allows ∧
    p.decisionFails args (resource ++ ":" ++ action) = false ∧
    (¬(Text.EndsInSigma [] resource.toList ∧ Text.meetsCased action.toList = true) →
      ∃ suffix,
        Text.lowercase (resource ++ ":" ++ action) = Text.lowercase resource ++ ":" ++ suffix ∧
        (p.resources args resource).entries = [(suffix, p.resolveMetadata args s)] ∧
        p.listingFails args resource =
          p.resolver.failsAny args (Marker.tokensOfFields s.metadata)) ∧
    (Text.EndsInSigma [] resource.toList ∧ Text.meetsCased action.toList = true →
      (p.resources args resource).entries = [] ∧ p.listingFails args resource = false) := by
  have hslots : ∀ slot held, p.tree.statements.get? slot = some held ↔
      slot = Text.lowercase (resource ++ ":" ++ action) ∧ held = s := by
    intro slot held
    rw [hp, Tree.statements_get?_ofDocuments_singleton hd, StatementDeclaration.slots,
      StatementDeclaration.names, List.flatMap_singleton,
      Resource.names_of_plain hresource hmarker hmapping, List.flatMap_singleton,
      List.map_singleton, List.mem_singleton, slotOf_of_ne haction]
  have hfound : p.tree.statement? (resource ++ ":" ++ action) = some s :=
    (hslots _ _).mpr ⟨rfl, rfl⟩
  have happlies : p.applies args s.condition = true := by rw [hcondition]; rfl
  have hentry : ∀ tokens,
      p.entryFails args s.condition tokens = p.resolver.failsAny args tokens := by
    intro tokens
    rw [entryFails, happlies, hcondition]
    rfl
  have hlists : p.listingFails args resource = true ↔
      (∃ suffix,
        Text.lowercase (resource ++ ":" ++ action) = Text.lowercase resource ++ ":" ++ suffix) ∧
        p.resolver.failsAny args (Marker.tokensOfFields s.metadata) = true := by
    rw [listingFails_iff]
    constructor
    · rintro ⟨slot, held, hheld, hunder, hfails⟩
      obtain ⟨rfl, rfl⟩ := (hslots slot held).mp hheld
      rw [hentry] at hfails
      exact ⟨hunder.resolve_left (Text.lowercase_colon_ne resource action), hfails⟩
    · rintro ⟨hunder, hfails⟩
      rw [← hentry] at hfails
      exact ⟨_, s, hfound, .inr hunder, hfails⟩
  refine ⟨?_, ?_, fun hfree => ?_, fun hsigma => ?_⟩
  · rw [decide?_of_statement? hfound, if_pos happlies]
  · rw [decisionFails, hfound, Option.any_some, hcondition]
    rfl
  · -- The slot starts with the prefix and a colon.
    have hslot := Text.lowercase_colon_iff.mpr ⟨hfree, rfl⟩
    refine ⟨_, hslot, ?_, ?_⟩
    · rw [entries_resources_of_single hslots happlies, suffix?_eq_some_iff.mpr (.inr hslot)]
      rfl
    · rw [Bool.eq_iff_iff, hlists]
      exact and_iff_right ⟨_, hslot⟩
  · -- The slot has another small sigma than the prefix.
    have hslot : ∀ suffix,
        Text.lowercase (resource ++ ":" ++ action) ≠ Text.lowercase resource ++ ":" ++ suffix :=
      fun suffix heq => (Text.lowercase_colon_iff.mp heq).1 hsigma
    have hsuffix : suffix? (Text.lowercase resource)
        (Text.lowercase (resource ++ ":" ++ action)) = none := by
      refine Option.eq_none_iff_forall_ne_some.mpr fun suffix hsuffix => ?_
      rcases suffix?_eq_some_iff.mp hsuffix with ⟨hbare, -⟩ | hcolon
      · exact Text.lowercase_colon_ne resource action hbare
      · exact hslot suffix hcolon
    refine ⟨?_, ?_⟩
    · rw [entries_resources_of_single hslots happlies, hsuffix]
      rfl
    · rw [Bool.eq_false_iff, Ne, hlists]
      rintro ⟨⟨suffix, hcolon⟩, -⟩
      exact hslot suffix hcolon

/-- A document that opens a road to an action. -/
def roads (action : String) : Document :=
  ⟨[⟨["ΟΔΟΣ"], [action], ⟨some .allow, none, false, []⟩⟩], []⟩

/-- The third lane of a road is listed under the road, since a digit is not cased, and the right to
read it is not. -/
theorem resources_declared_roads :
    (compiled (roads "3")).decide? [] "ΟΔΟΣ:3" = some true ∧
    (∃ suffix, ((compiled (roads "3")).resources [] "ΟΔΟΣ").entries.map
      (fun e => (e.1, e.2.allows)) = [(suffix, true)]) ∧
    (compiled (roads "read")).decide? [] "ΟΔΟΣ:read" = some true ∧
    ((compiled (roads "read")).resources [] "ΟΔΟΣ").entries.map (fun e => (e.1, e.2.allows)) =
      [] := by
  have hroad : Text.EndsInSigma [] "ΟΔΟΣ".toList :=
    ⟨['Ο', 'Δ', 'Ο'], [], by decide +kernel, nofun, by decide +kernel⟩
  have hmarker : Marker.hasMarker "ΟΔΟΣ" = false := by decide +kernel
  have hmapping : Resource.mapping? "ΟΔΟΣ".toList = none := by decide +kernel
  have hdigit : "3" ≠ "" := by decide
  have hverb : "read" ≠ "" := by decide
  -- A digit behind the colon is not cased, so that the sigma stays final. A letter is.
  obtain ⟨hlane, -, hlisted, -⟩ := resources_declared (p := compiled (roads "3"))
    rfl rfl (by decide) hdigit hmarker hmapping rfl []
  obtain ⟨hread, -, -, hmissing⟩ := resources_declared (p := compiled (roads "read"))
    rfl rfl (by decide) hverb hmarker hmapping rfl []
  refine ⟨hlane, ?_, hread, ?_⟩
  · obtain ⟨suffix, -, hentries, -⟩ := hlisted fun h => absurd h.2 (by decide +kernel)
    refine ⟨suffix, ?_⟩
    rw [hentries]
    rfl
  · rw [(hmissing ⟨hroad, by decide +kernel⟩).1]
    rfl

/-- The same document as it is written. -/
def writtenRoads : Json :=
  .obj [("Statement", .obj [("Action", .str "read"), ("Effect", .str "Allow"),
    ("Resource", .str "ΟΔΟΣ")])]

/-- The road, which has no marker and is no mapping, may be read, but nothing is listed under it. -/
theorem resources_roads_eq_nil :
    Marker.hasMarker "ΟΔΟΣ" = false ∧ Resource.mapping? "ΟΔΟΣ".toList = none ∧
      ∃ d, Document.ofJson writtenRoads = .ok d ∧
      (compiled d).decide? [] "ΟΔΟΣ:read" = some true ∧
      ((compiled d).resources [] "ΟΔΟΣ").entries.map (fun e => (e.1, e.2.allows)) = [] := by
  refine ⟨by decide +kernel, by decide +kernel, _, rfl, ?_, ?_⟩
  · decide +kernel
  · decide +kernel

end Policy

end AccessPolicy
