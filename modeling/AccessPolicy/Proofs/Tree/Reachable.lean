import AccessPolicy.Proofs.Tree.Writes
import AccessPolicy.Tree.Merge

/-!
# The trees that can be built

A tree is built from the empty one by adding statements under any slots and params under any keys,
and by merging trees (`Reachable`). Compiling documents, merging siblings and resolving chains are
made of these steps.

The invariant of all these trees is that their slots are in lower case (`SlotsLowered`). A merge
collects the slots of both sides and looks each of them up in any case, so it is only under the
invariant that it finds on each side what that side holds (`statements_get?_merge`). Keys of params
are looked up as they are, and need none.
-/

namespace AccessPolicy.Tree

open Marker (Resolver)

/-- A tree that can be built. -/
inductive Reachable : Tree → Prop where
  | empty : Reachable ∅
  | addStatement {t : Tree} (h : Reachable t) (slot : String) (s : Statement) :
      Reachable (t.addStatement slot s)
  | addParam {t : Tree} (h : Reachable t) (key : String) (p : Param) :
      Reachable (t.addParam key p)
  | merge {child parent : Tree} (hc : Reachable child) (hp : Reachable parent)
      (preferred : Effect) : Reachable (child.merge preferred parent)

/-! ## What is built from the steps -/

/-- Compiling a document is a number of steps. -/
theorem Reachable.addDocument {t : Tree} (h : Reachable t) (r : Resolver) (args : Args)
    (d : Document) : Reachable (Tree.addDocument r args t d) := by
  unfold Tree.addDocument
  have hstatements : Reachable
      ((d.statementWrites r args).foldl (fun t w => t.addStatement w.1 w.2) t) :=
    List.foldlRecOn _ _ h fun _ ht w _ => ht.addStatement w.1 w.2
  exact List.foldlRecOn _ _ hstatements fun _ ht w _ => ht.addParam w.1 w.2

/-- The tree of some documents can be built. -/
theorem Reachable.ofDocuments (r : Resolver) (args : Args) (documents : List Document) :
    Reachable (Tree.ofDocuments r args documents) :=
  List.foldlRecOn _ _ .empty fun _ ht d _ => ht.addDocument r args d

/-- Merging siblings is a number of steps. -/
theorem Reachable.mergeAll {ts : List Tree} (h : ∀ t ∈ ts, Reachable t) (preferred : Effect) :
    Reachable (Tree.mergeAll preferred ts) := by
  rcases ts with _ | ⟨t, ts⟩
  · exact .empty
  · have ht := h t List.mem_cons_self
    exact List.foldlRecOn _ _ ht fun _ hu v hv =>
      .merge hu (h v (List.mem_cons_of_mem t hv)) preferred

/-- Merging levels upwards is a number of steps. -/
theorem Reachable.mergeUp {ts : List Tree} (h : ∀ t ∈ ts, Reachable t) (preferred : Effect) :
    Reachable (Tree.mergeUp preferred ts) := by
  induction ts with
  | nil => exact .empty
  | cons t ts ih =>
    have ht := h t List.mem_cons_self
    have hts := ih fun u hu => h u (List.mem_cons_of_mem t hu)
    rcases ts with _ | ⟨u, ts⟩
    · exact ht
    · exact .merge ht hts preferred

/-- The tree of a level can be built. -/
theorem Reachable.ofLevel (r : Resolver) (preferred : Effect) (level : Level) :
    Reachable (Tree.ofLevel r preferred level) := by
  refine .mergeAll (fun t ht => ?_) preferred
  obtain ⟨documents, -, rfl⟩ := List.mem_map.mp ht
  exact .ofDocuments r [] documents

/-- The tree of a chain can be built. -/
theorem Reachable.ofChain (r : Resolver) (preferred : Effect) (chain : Chain) :
    Reachable (Tree.ofChain r preferred chain) := by
  refine .mergeUp (fun t ht => ?_) preferred
  obtain ⟨level, -, rfl⟩ := List.mem_map.mp ht
  exact .ofLevel r preferred level

/-! ## Slots in lower case -/

/-- All slots of a tree are in lower case. -/
def SlotsLowered (t : Tree) : Prop :=
  ∀ slot s, t.statements.get? slot = some s → Text.lowercase slot = slot

/-- The empty tree has no slots. -/
theorem SlotsLowered.empty : SlotsLowered ∅ := by
  intro slot s hs
  exact absurd hs (Option.some_ne_none s).symm

/-- A statement is added to a slot in lower case. -/
theorem SlotsLowered.addStatement {t : Tree} (h : t.SlotsLowered) (slot : String) (s : Statement) :
    (t.addStatement slot s).SlotsLowered := by
  intro k v hv
  rw [addStatement_eq] at hv
  change (t.statements.write _ _ _).get? k = some v at hv
  rw [Table.get?_write] at hv
  split_ifs at hv with hk
  · rw [← hk.1, Text.lowercase_lowercase]
  · exact h k v hv

/-- Adding a param leaves the slots as they are. -/
theorem SlotsLowered.addParam {t : Tree} (h : t.SlotsLowered) (key : String) (p : Param) :
    (t.addParam key p).SlotsLowered := by
  rw [addParam_eq]
  exact h

/-- The names of the table of statements are in lower case. -/
theorem SlotsLowered.lowercase_of_mem_keys {t : Tree} (h : t.SlotsLowered) {slot : String}
    (hslot : slot ∈ t.statements.keys) : Text.lowercase slot = slot := by
  obtain ⟨s, hs⟩ := (t.statements.mem_keys_iff slot).mp hslot
  exact h slot s hs

/-- The slots of a merged tree are those of its sides. -/
theorem SlotsLowered.merge {child parent : Tree} (hc : child.SlotsLowered)
    (hp : parent.SlotsLowered) (preferred : Effect) :
    (child.merge preferred parent).SlotsLowered := by
  intro slot s hs
  rw [Tree.merge, Table.get?_ofKeys] at hs
  split_ifs at hs with hmem
  rcases List.mem_append.mp hmem with hslot | hslot
  · exact hc.lowercase_of_mem_keys hslot
  · exact hp.lowercase_of_mem_keys hslot

/-- All slots of a tree that can be built are in lower case. -/
theorem Reachable.slotsLowered {t : Tree} (h : Reachable t) : t.SlotsLowered := by
  induction h with
  | empty => exact .empty
  | addStatement _ slot s ih => exact ih.addStatement slot s
  | addParam _ key p ih => exact ih.addParam key p
  | merge _ _ preferred ihc ihp => exact ihc.merge ihp preferred

/-! ## What a merged tree holds -/

/-- There is nothing to pick for a name that neither of two tables has. -/
theorem pick_get?_of_not_mem {α : Type} (standing : α → Standing) (preferred : Effect)
    {child parent : Table α} {k : String} (h : k ∉ child.keys ++ parent.keys) :
    pick standing preferred (child.get? k) (parent.get? k) = none := by
  rw [List.mem_append, not_or] at h
  rw [Table.get?_eq_none_of_not_mem h.1, Table.get?_eq_none_of_not_mem h.2]
  rfl

/-- A merged tree holds in each slot what is picked between the two sides. -/
theorem statements_get?_merge {child parent : Tree} (hc : child.SlotsLowered)
    (hp : parent.SlotsLowered) (preferred : Effect) (slot : String) :
    (child.merge preferred parent).statements.get? slot =
      pick Statement.standing preferred (child.statements.get? slot)
        (parent.statements.get? slot) := by
  rw [merge, Table.get?_ofKeys]
  by_cases hmem : slot ∈ child.statements.keys ++ parent.statements.keys
  · -- A slot of either side is in lower case, so the look-up in any case finds it as it is.
    have hslot : Text.lowercase slot = slot := by
      rcases List.mem_append.mp hmem with hslot | hslot
      · exact hc.lowercase_of_mem_keys hslot
      · exact hp.lowercase_of_mem_keys hslot
    rw [if_pos hmem, statement?, statement?, hslot]
  · rw [if_neg hmem, pick_get?_of_not_mem Statement.standing preferred hmem]

/-- A merged tree holds under each key what is picked between the two sides. -/
theorem params_get?_merge (child parent : Tree) (preferred : Effect) (key : String) :
    (child.merge preferred parent).params.get? key =
      pick Param.standing preferred (child.params.get? key) (parent.params.get? key) := by
  rw [merge, Table.get?_ofKeys]
  by_cases hmem : key ∈ child.params.keys ++ parent.params.keys
  · rw [if_pos hmem, param?, param?]
  · rw [if_neg hmem, pick_get?_of_not_mem Param.standing preferred hmem]

/-- Trees that hold the same everywhere are equal. -/
theorem ext_get? {a b : Tree}
    (hs : ∀ slot, a.statements.get? slot = b.statements.get? slot)
    (hp : ∀ key, a.params.get? key = b.params.get? key) : a = b := by
  obtain ⟨statements, params⟩ := a
  obtain ⟨statements', params'⟩ := b
  rw [mk.injEq]
  exact ⟨Table.ext_get? hs, Table.ext_get? hp⟩

end AccessPolicy.Tree
