import AccessPolicy.Engine.Basic
import AccessPolicy.Proofs.Tree.Merge

/-!
# What a chain holds and decides

Resolving a chain compiles every set of documents of every level, merges the sets of a level and
then the levels, from the root to the leaf. By the laws of merging this is all the trees merged in a
row, leaf level first and the siblings of a level in order (`ofChain_eq_mergeAll`), so a slot of the
chain holds the foremost of the statements that these trees hold there (`ofChain_holds_foremost`).

What a policy of the chain decides depends on the preferred effect in one direction only
(`decide?_preferred_mono`). A statement that is foremost without having the preferred effect is
foremost under either preference, and it is the same statement, with the same condition. So what is
allowed with denials preferred, and what is denied with permissions preferred, stays as it is when
the preference is changed.
-/

namespace AccessPolicy

open Marker (Resolver)

namespace Tree

/-- The trees of all sets of documents of a chain: leaf level first, and those of a level in
order. -/
def siblings (r : Resolver) (chain : Chain) : List Tree :=
  chain.flatMap fun level => level.siblings.map (ofDocuments r [])

/-- The slots of the trees of a chain are in lower case. -/
theorem slotsLowered_of_mem_siblings {r : Resolver} {chain : Chain} {t : Tree}
    (ht : t ∈ siblings r chain) : t.SlotsLowered := by
  obtain ⟨level, -, ht⟩ := List.mem_flatMap.mp ht
  obtain ⟨documents, -, rfl⟩ := List.mem_map.mp ht
  exact (Reachable.ofDocuments r [] documents).slotsLowered

/-- The tree of a chain is that of all its sets of documents merged in a row. -/
theorem ofChain_eq_mergeAll (r : Resolver) (preferred : Effect) (chain : Chain) :
    ofChain r preferred chain = mergeAll preferred (siblings r chain) := by
  -- Both the merged levels and the compiled siblings have their slots in lower case.
  have hlevels : ∀ t ∈ chain.map (ofLevel r preferred), t.SlotsLowered := by
    intro t ht
    obtain ⟨level, -, rfl⟩ := List.mem_map.mp ht
    exact (Reachable.ofLevel r preferred level).slotsLowered
  have hsets : ∀ ts ∈ chain.map (fun level => level.siblings.map (ofDocuments r [])),
      ∀ t ∈ ts, t.SlotsLowered := by
    intro ts hts t ht
    obtain ⟨level, hlevel, rfl⟩ := List.mem_map.mp hts
    exact slotsLowered_of_mem_siblings (List.mem_flatMap.mpr ⟨level, hlevel, ht⟩)
  calc ofChain r preferred chain
      = mergeAll preferred (chain.map (ofLevel r preferred)) := mergeUp_eq_mergeAll hlevels
    _ = mergeAll preferred ((chain.map fun level => level.siblings.map (ofDocuments r [])).map
          (mergeAll preferred)) := by rw [List.map_map]; rfl
    _ = mergeAll preferred (siblings r chain) := by
        rw [mergeAll_map_mergeAll hsets, ← List.flatMap_def]
        rfl

/-- A slot of a chain holds the foremost of the statements that its trees hold there. -/
theorem statement?_ofChain (r : Resolver) (preferred : Effect) (chain : Chain) (slot : String) :
    (ofChain r preferred chain).statement? slot =
      foremost Statement.standing preferred
        ((siblings r chain).filterMap fun t => t.statement? slot) := by
  rw [ofChain_eq_mergeAll]
  exact statements_get?_mergeAll (fun t ht => slotsLowered_of_mem_siblings ht) _

/-- In each slot a chain leaves the foremost of the statements of its trees, by whether they are
enforced and then by their effect, and nothing exactly if no tree has one; under each key it leaves
the first enforced param and, if there is none, the first of all. -/
theorem ofChain_holds_foremost (r : Resolver) (preferred : Effect) (chain : Chain) :
    (∀ slot, (ofChain r preferred chain).statement? slot =
      foremost (fun s => ⟨s.enforced, s.effect⟩) preferred
        ((siblings r chain).filterMap fun t => t.statement? slot)) ∧
    (∀ slot, (ofChain r preferred chain).statement? slot = none ↔
      ∀ t ∈ siblings r chain, t.statement? slot = none) ∧
    ∀ key, (ofChain r preferred chain).param? key =
      (((siblings r chain).filterMap fun t => t.param? key).find? Param.enforced).or
        ((siblings r chain).filterMap fun t => t.param? key).head? := by
  refine ⟨statement?_ofChain r preferred chain, fun slot => ?_, fun key => ?_⟩
  · rw [statement?_ofChain, foremost, List.argmax_eq_none, List.filterMap_eq_nil_iff]
  · rw [ofChain_eq_mergeAll, ← foremost_param preferred]
    exact params_get?_mergeAll (fun t ht => slotsLowered_of_mem_siblings ht) key

/-- A statement that a chain leaves in a slot without its having the preferred effect is left there
whichever effect is preferred. -/
theorem statement?_ofChain_of_effect_ne {r : Resolver} {preferred : Effect} {chain : Chain}
    {slot : String} {s : Statement} (h : (ofChain r preferred chain).statement? slot = some s)
    (hs : s.effect ≠ some preferred) (other : Effect) :
    (ofChain r other chain).statement? slot = some s := by
  rw [statement?_ofChain] at h ⊢
  exact foremost_of_effect_ne Statement.standing preferred h hs other

end Tree

namespace Engine

/-- To prefer permissions instead of denials never closes what was open, and to prefer denials
instead of permissions never opens what was closed. -/
theorem decide?_preferred_mono (e : Engine) (chain : Chain) (args : Args) (slot : String) :
    (({ e with preferred := .deny }.resolveChain chain).decide? args slot = some true →
      ({ e with preferred := .allow }.resolveChain chain).decide? args slot = some true) ∧
    (({ e with preferred := .allow }.resolveChain chain).decide? args slot = some false →
      ({ e with preferred := .deny }.resolveChain chain).decide? args slot = some false) := by
  refine ⟨fun h => ?_, fun h => ?_⟩
  · obtain ⟨s, hs, happlies, hallows⟩ := Policy.decide?_eq_some_iff.mp h
    -- The statement that allows is no denial, so that preferring permissions leaves it foremost.
    have heffect : s.effect ≠ some .deny := by
      rw [Statement.allows_iff.mp hallows]
      exact fun h => nomatch h
    exact Policy.decide?_eq_some_iff.mpr
      ⟨s, Tree.statement?_ofChain_of_effect_ne hs heffect .allow, happlies, hallows⟩
  · obtain ⟨s, hs, happlies, hallows⟩ := Policy.decide?_eq_some_iff.mp h
    -- The statement that does not allow is no permission, so that preferring denials leaves it
    -- foremost.
    have heffect : s.effect ≠ some .allow := fun h =>
      Bool.eq_false_iff.mp hallows (Statement.allows_iff.mpr h)
    exact Policy.decide?_eq_some_iff.mpr
      ⟨s, Tree.statement?_ofChain_of_effect_ne hs heffect .deny, happlies, hallows⟩

/-- A chain of a leaf and a root that disagree on one slot, where the statement of the root is
enforced. -/
def overruled (leaf root : Effect) : Chain :=
  [⟨"leaf", [[⟨[⟨["Post"], ["edit"], ⟨some leaf, none, false, []⟩⟩], []⟩]]⟩,
    ⟨"root", [[⟨[⟨["Post"], ["edit"], ⟨some root, none, true, []⟩⟩], []⟩]]⟩]

/-- An enforced statement at the root opens or closes a slot under either preference. -/
theorem decide?_overruled :
    ((bare .deny).resolveChain (overruled .deny .allow)).decide? [] "post:edit" = some true ∧
    ((bare .allow).resolveChain (overruled .deny .allow)).decide? [] "post:edit" = some true ∧
    ((bare .allow).resolveChain (overruled .allow .deny)).decide? [] "post:edit" = some false ∧
    ((bare .deny).resolveChain (overruled .allow .deny)).decide? [] "post:edit" = some false := by
  have hopen : ((bare .deny).resolveChain (overruled .deny .allow)).decide? [] "post:edit" =
      some true := by
    decide +kernel
  have hclosed : ((bare .allow).resolveChain (overruled .allow .deny)).decide? [] "post:edit" =
      some false := by
    decide +kernel
  exact ⟨hopen, (decide?_preferred_mono (bare .deny) _ [] "post:edit").1 hopen,
    hclosed, (decide?_preferred_mono (bare .allow) _ [] "post:edit").2 hclosed⟩

end Engine

end AccessPolicy
