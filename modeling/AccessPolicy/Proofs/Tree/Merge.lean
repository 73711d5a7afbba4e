import AccessPolicy.Proofs.Tree.Reachable
import AccessPolicy.Proofs.Tree.Standing

/-!
# The laws of merging

Merging is pairwise, and a chain nests merges of siblings in merges of levels. On the trees that can
be built it is associative and idempotent with the empty tree as its identity, for either preferred
effect, since in each slot and under each key it picks the entry of the greater rank. So siblings
may be merged in any groups (`mergeAll_map_mergeAll`), and a chain of levels is the same as all its
trees merged in a row (`mergeUp_eq_mergeAll`).

Merging is not commutative: of two statements with the same standing the first one is picked, and
the two may differ in their conditions. Their standings do not depend on the order
(`statements_standing_mergeAll_perm`). `merge_laws` puts these facts together.
-/

namespace AccessPolicy.Tree

variable {preferred : Effect}

/-! ## Two and three trees -/

/-- Merging does not depend on how three trees are grouped. -/
theorem merge_assoc {a b c : Tree} (ha : a.SlotsLowered) (hb : b.SlotsLowered)
    (hc : c.SlotsLowered) :
    (a.merge preferred b).merge preferred c = a.merge preferred (b.merge preferred c) := by
  refine ext_get? (fun slot => ?_) fun key => ?_
  · rw [statements_get?_merge (ha.merge hb preferred) hc, statements_get?_merge ha hb,
      statements_get?_merge ha (hb.merge hc preferred), statements_get?_merge hb hc, pick_assoc]
  · rw [params_get?_merge, params_get?_merge, params_get?_merge, params_get?_merge, pick_assoc]

/-- A tree merged with itself is itself. -/
theorem merge_self {a : Tree} (ha : a.SlotsLowered) : a.merge preferred a = a := by
  refine ext_get? (fun slot => ?_) fun key => ?_
  · rw [statements_get?_merge ha ha, pick_self]
  · rw [params_get?_merge, pick_self]

/-- The empty tree as a child leaves the parent as it is. -/
theorem empty_merge {a : Tree} (ha : a.SlotsLowered) : merge preferred ∅ a = a := by
  refine ext_get? (fun slot => ?_) fun key => ?_
  · rw [statements_get?_merge .empty ha]
    exact pick_none_left _ _ _
  · rw [params_get?_merge]
    exact pick_none_left _ _ _

/-- The empty tree as a parent leaves the child as it is. -/
theorem merge_empty {a : Tree} (ha : a.SlotsLowered) : merge preferred a ∅ = a := by
  refine ext_get? (fun slot => ?_) fun key => ?_
  · rw [statements_get?_merge ha .empty]
    exact pick_none_right _ _ _
  · rw [params_get?_merge]
    exact pick_none_right _ _ _

/-! ## Many trees -/

/-- The slots of siblings are in lower case in their merged tree. -/
theorem SlotsLowered.mergeAll {ts : List Tree} (h : ∀ t ∈ ts, t.SlotsLowered) :
    (Tree.mergeAll preferred ts).SlotsLowered := by
  rcases ts with _ | ⟨t, ts⟩
  · exact .empty
  · have ht := h t List.mem_cons_self
    exact List.foldlRecOn _ _ ht fun _ hu v hv => hu.merge (h v (List.mem_cons_of_mem t hv)) _

/-- The first sibling is merged with the merged tree of the others. -/
theorem mergeAll_cons {t : Tree} {ts : List Tree} (h : ∀ u ∈ t :: ts, u.SlotsLowered) :
    mergeAll preferred (t :: ts) = t.merge preferred (mergeAll preferred ts) := by
  have ht := h t List.mem_cons_self
  -- Siblings are merged from the left, so the tree in front grows along the list.
  induction ts generalizing t with
  | nil => exact (merge_empty ht).symm
  | cons u ts ih =>
    have hu := h u (List.mem_cons_of_mem t List.mem_cons_self)
    have hts : ∀ v ∈ ts, v.SlotsLowered := fun v hv =>
      h v (List.mem_cons_of_mem t (List.mem_cons_of_mem u hv))
    calc mergeAll preferred (t :: u :: ts)
        = mergeAll preferred (t.merge preferred u :: ts) := rfl
      _ = (t.merge preferred u).merge preferred (mergeAll preferred ts) :=
        ih (List.forall_mem_cons.mpr ⟨ht.merge hu preferred, hts⟩) (ht.merge hu preferred)
      _ = t.merge preferred (u.merge preferred (mergeAll preferred ts)) :=
        merge_assoc ht hu (.mergeAll hts)
      _ = t.merge preferred (mergeAll preferred (u :: ts)) := by
        rw [ih (List.forall_mem_cons.mpr ⟨hu, hts⟩) hu]

/-- Two groups of siblings may be merged each by itself first. -/
theorem mergeAll_append {ts us : List Tree} (hts : ∀ t ∈ ts, t.SlotsLowered)
    (hus : ∀ u ∈ us, u.SlotsLowered) :
    mergeAll preferred (ts ++ us) =
      (mergeAll preferred ts).merge preferred (mergeAll preferred us) := by
  induction ts with
  | nil => exact (empty_merge (.mergeAll hus)).symm
  | cons t ts ih =>
    obtain ⟨ht, hts'⟩ := List.forall_mem_cons.mp hts
    rw [List.cons_append, mergeAll_cons (List.forall_mem_cons.mpr
        ⟨ht, List.forall_mem_append.mpr ⟨hts', hus⟩⟩), ih hts', mergeAll_cons hts,
      merge_assoc ht (.mergeAll hts') (.mergeAll hus)]

/-- Groups of siblings may be merged each by itself first. -/
theorem mergeAll_map_mergeAll {tss : List (List Tree)}
    (h : ∀ ts ∈ tss, ∀ t ∈ ts, t.SlotsLowered) :
    mergeAll preferred (tss.map (mergeAll preferred)) = mergeAll preferred tss.flatten := by
  induction tss with
  | nil => rfl
  | cons ts tss ih =>
    obtain ⟨hts, htss⟩ := List.forall_mem_cons.mp h
    -- All trees on both sides have their slots in lower case, as merging needs.
    have hflat : ∀ t ∈ tss.flatten, t.SlotsLowered := by
      intro t ht
      obtain ⟨us, hus, ht⟩ := List.mem_flatten.mp ht
      exact htss us hus t ht
    have hmap : ∀ t ∈ (ts :: tss).map (mergeAll preferred), t.SlotsLowered := by
      intro t ht
      obtain ⟨us, hus, rfl⟩ := List.mem_map.mp ht
      exact .mergeAll (h us hus)
    rw [List.flatten_cons, mergeAll_append hts hflat, ← ih htss]
    exact mergeAll_cons hmap

/-- Levels merged upwards are the same as merged in a row. -/
theorem mergeUp_eq_mergeAll {ts : List Tree} (h : ∀ t ∈ ts, t.SlotsLowered) :
    mergeUp preferred ts = mergeAll preferred ts := by
  induction ts with
  | nil => rfl
  | cons t ts ih =>
    rcases ts with _ | ⟨u, ts⟩
    · rfl
    · rw [mergeAll_cons h, ← ih fun v hv => h v (List.mem_cons_of_mem t hv)]
      rfl

/-! ## What merged siblings hold -/

/-- Merged siblings hold in each slot the foremost of the statements that they hold there. -/
theorem statements_get?_mergeAll {ts : List Tree} (h : ∀ t ∈ ts, t.SlotsLowered) (slot : String) :
    (mergeAll preferred ts).statements.get? slot =
      foremost Statement.standing preferred (ts.filterMap fun t => t.statements.get? slot) := by
  induction ts with
  | nil => rfl
  | cons t ts ih =>
    obtain ⟨ht, hts⟩ := List.forall_mem_cons.mp h
    rw [mergeAll_cons h, statements_get?_merge ht (.mergeAll hts), ih hts, foremost_filterMap_cons]

/-- Merged siblings hold under each key the foremost of the params that they hold there. -/
theorem params_get?_mergeAll {ts : List Tree} (h : ∀ t ∈ ts, t.SlotsLowered) (key : String) :
    (mergeAll preferred ts).params.get? key =
      foremost Param.standing preferred (ts.filterMap fun t => t.params.get? key) := by
  induction ts with
  | nil => rfl
  | cons t ts ih =>
    obtain ⟨-, hts⟩ := List.forall_mem_cons.mp h
    rw [mergeAll_cons h, params_get?_merge, ih hts, foremost_filterMap_cons]

/-- The order of siblings makes no difference to the standing of the statement in a slot. -/
theorem statements_standing_mergeAll_perm {ts us : List Tree} (hperm : ts.Perm us)
    (h : ∀ t ∈ ts, t.SlotsLowered) (slot : String) :
    ((mergeAll preferred ts).statements.get? slot).map Statement.standing =
      ((mergeAll preferred us).statements.get? slot).map Statement.standing := by
  rw [statements_get?_mergeAll h, statements_get?_mergeAll fun u hu => h u (hperm.mem_iff.mpr hu)]
  exact map_standing_foremost_perm _ _ (hperm.filterMap _)

/-! ## The laws -/

/-- Merging is associative and idempotent, and the empty tree is its identity, so that regrouping
merges changes nothing; and what is enforced in a slot, and to which effect, does not depend on the
order of the trees. -/
theorem merge_laws (preferred : Effect) {a b c : Tree} (ha : a.Reachable) (hb : b.Reachable)
    (hc : c.Reachable) :
    (a.merge preferred b).merge preferred c = a.merge preferred (b.merge preferred c) ∧
    a.merge preferred a = a ∧ merge preferred ∅ a = a ∧ a.merge preferred ∅ = a ∧
    (∀ slot, ((a.merge preferred b).statement? slot).map Statement.standing =
      ((b.merge preferred a).statement? slot).map Statement.standing) ∧
    (∀ tss : List (List Tree), (∀ ts ∈ tss, ∀ t ∈ ts, t.Reachable) →
      mergeAll preferred (tss.map (mergeAll preferred)) = mergeAll preferred tss.flatten) ∧
    ∀ ts us : List Tree, ts.Perm us → (∀ t ∈ ts, t.Reachable) → ∀ slot,
      ((mergeAll preferred ts).statement? slot).map Statement.standing =
        ((mergeAll preferred us).statement? slot).map Statement.standing := by
  have ha' := ha.slotsLowered
  have hb' := hb.slotsLowered
  refine ⟨merge_assoc ha' hb' hc.slotsLowered, merge_self ha', empty_merge ha', merge_empty ha',
    fun slot => ?_, fun tss h => ?_, fun ts us hperm h slot => ?_⟩
  · -- What is left of a merge in a slot is picked of two, and its standing is the same either way.
    rw [statement?, statement?, statements_get?_merge ha' hb', statements_get?_merge hb' ha']
    exact map_standing_pick_comm _ _ _ _
  · exact mergeAll_map_mergeAll fun ts hts t ht => (h ts hts t ht).slotsLowered
  · exact statements_standing_mergeAll_perm hperm (fun t ht => (h t ht).slotsLowered) _

/-- The tree with one unconditional statement. -/
def single (slot : String) (effect : Option Effect) (enforced : Bool) : Tree :=
  addStatement ∅ slot ⟨effect, none, enforced, []⟩

/-- The laws at three trees that write to one slot, with statements that differ in effect and
enforcement. -/
theorem merge_laws_single :
    (single "Post" (some .allow) false).Reachable ∧ (single "post" (some .deny) false).Reachable ∧
    (single "POST" none true).Reachable ∧
    ((single "Post" (some .allow) false).merge .allow
        (single "post" (some .deny) false)).merge .allow (single "POST" none true) =
      (single "Post" (some .allow) false).merge .allow
        ((single "post" (some .deny) false).merge .allow (single "POST" none true)) ∧
    (((single "post" (some .deny) false).merge .allow
        (single "Post" (some .allow) false)).statement? "post").map Statement.standing =
      some ⟨false, some .allow⟩ := by
  have ha : (single "Post" (some .allow) false).Reachable := .addStatement .empty _ _
  have hb : (single "post" (some .deny) false).Reachable := .addStatement .empty _ _
  have hc : (single "POST" none true).Reachable := .addStatement .empty _ _
  obtain ⟨hassoc, -, -, -, hstanding, -⟩ := merge_laws .allow ha hb hc
  -- The preferred effect decides between two statements that are not enforced.
  have hpreferred : (((single "Post" (some .allow) false).merge .allow
      (single "post" (some .deny) false)).statement? "post").map Statement.standing =
      some ⟨false, some .allow⟩ := rfl
  exact ⟨ha, hb, hc, hassoc, (hstanding "post").symm.trans hpreferred⟩

end AccessPolicy.Tree
