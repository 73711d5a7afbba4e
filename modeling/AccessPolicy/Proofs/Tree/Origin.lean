import AccessPolicy.Proofs.Tree.Chain

/-!
# Where the entries of a tree come from

`BuiltFrom S P` says that a tree has come about by the operations on trees, in any number and order:
documents are compiled into it, single statements and params are put into it, trees are merged and
chains are resolved. It also keeps account of what has gone in: each statement satisfies `S` and
each param satisfies `P`. A tree of this kind can be built by the steps of `Reachable`, so that its
slots are in lower case.

Nothing comes out of a tree that has not gone in (`BuiltFrom.holdsOnly`). A single write brings in
what is written and nothing else, so a document brings in what it declares. Merges choose in each
place between what the trees hold there: what is picked, or is the foremost, is one of those. What
the slots and keys of a merged tree are, and that a look-up finds what the tree lists, is in
`entry_laws`.
-/

namespace AccessPolicy

open Marker (Resolver)

/-! ## Chosen entries are among those that they are chosen from -/

section Chosen

variable {α : Type}

variable (standing : α → Standing) (preferred : Effect)

/-- What is picked between two entries is one of them. -/
theorem eq_some_or_of_pick {child parent : Option α} {v : α}
    (h : pick standing preferred child parent = some v) : child = some v ∨ parent = some v := by
  rcases child with _ | a
  · rw [pick_none_left] at h
    exact .inr h
  rcases parent with _ | b
  · rw [pick_none_right] at h
    exact .inl h
  rw [pick_some_some, Option.some_inj] at h
  split_ifs at h with hle
  · exact .inl (congrArg some h)
  · exact .inr (congrArg some h)

/-- Something is picked if there is an entry on either side. -/
theorem pick_isSome (child parent : Option α) :
    (pick standing preferred child parent).isSome ↔ child.isSome ∨ parent.isSome := by
  rcases child with _ | a
  · rw [pick_none_left]
    simp
  rcases parent with _ | b
  · rw [pick_none_right]
    simp
  rw [pick_some_some]
  simp

end Chosen

namespace Table

variable {α : Type}

/-- If a table has entries of one kind only, so it has after another one is written to it. -/
theorem forall_write {enforced : α → Bool} {Q : α → Prop} {t : Table α}
    (ht : ∀ k v, t.get? k = some v → Q v) (name : String) {w : α} (hw : Q w) (k : String) (v : α)
    (h : (t.write enforced name w).get? k = some v) : Q v := by
  rw [get?_write] at h
  split_ifs at h with hk
  · exact Option.some_inj.mp h ▸ hw
  · exact ht k v h

/-- Whether a table has a name is told by a look-up. -/
theorem mem_keys_iff_isSome (t : Table α) (k : String) : k ∈ t.keys ↔ (t.get? k).isSome := by
  rw [mem_keys_iff, Option.isSome_iff_exists]

section Picked

variable {standing : α → Standing} {preferred : Effect} {child parent merged : Table α}

/-- A table that holds what is picked between two tables has the names of both. -/
theorem mem_keys_of_picked
    (h : ∀ k, merged.get? k = pick standing preferred (child.get? k) (parent.get? k))
    (k : String) : k ∈ merged.keys ↔ k ∈ child.keys ∨ k ∈ parent.keys := by
  rw [mem_keys_iff_isSome, mem_keys_iff_isSome, mem_keys_iff_isSome, h, pick_isSome]

/-- A table that holds what is picked between two tables has no entries but theirs. -/
theorem mem_entries_of_picked
    (h : ∀ k, merged.get? k = pick standing preferred (child.get? k) (parent.get? k))
    {e : String × α} (he : e ∈ merged.entries) : e ∈ child.entries ∨ e ∈ parent.entries := by
  obtain ⟨k, v⟩ := e
  rw [mem_entries_iff, h] at he
  rw [mem_entries_iff, mem_entries_iff]
  exact eq_some_or_of_pick standing preferred he

end Picked

end Table

/-! ## What has gone into a tree -/

/-- The statements and params that a document declares are of some kinds only. -/
def Document.DeclaresOnly (S : Statement → Prop) (P : Param → Prop) (d : Document) : Prop :=
  (∀ declared ∈ d.statements, S declared.statement) ∧ ∀ declared ∈ d.params, P declared.param

namespace Tree

variable {S : Statement → Prop} {P : Param → Prop}

/-- A tree that the operations on trees have given, from statements and params of some kinds. -/
inductive BuiltFrom (S : Statement → Prop) (P : Param → Prop) : Tree → Prop where
  | empty : BuiltFrom S P ∅
  | addDocument {t : Tree} (h : BuiltFrom S P t) (r : Resolver) (args : Args) {d : Document}
      (hd : d.DeclaresOnly S P) : BuiltFrom S P (t.addDocument r args d)
  | addStatement {t : Tree} (h : BuiltFrom S P t) (slot : String) {s : Statement} (hs : S s) :
      BuiltFrom S P (t.addStatement slot s)
  | addParam {t : Tree} (h : BuiltFrom S P t) (key : String) {p : Param} (hp : P p) :
      BuiltFrom S P (t.addParam key p)
  | merge {child parent : Tree} (hc : BuiltFrom S P child) (hp : BuiltFrom S P parent)
      (preferred : Effect) : BuiltFrom S P (child.merge preferred parent)
  | mergeAll {ts : List Tree} (h : ∀ t ∈ ts, BuiltFrom S P t) (preferred : Effect) :
      BuiltFrom S P (Tree.mergeAll preferred ts)
  | ofChain {chain : Chain}
      (h : ∀ level ∈ chain, ∀ documents ∈ level.siblings, ∀ d ∈ documents, d.DeclaresOnly S P)
      (r : Resolver) (preferred : Effect) : BuiltFrom S P (Tree.ofChain r preferred chain)

/-- Every operation on trees is made of the steps of `Reachable`. -/
theorem BuiltFrom.reachable {t : Tree} (h : t.BuiltFrom S P) : t.Reachable := by
  induction h with
  | empty => exact .empty
  | addDocument _ r args _ ih => exact ih.addDocument r args _
  | addStatement _ slot _ ih => exact ih.addStatement slot _
  | addParam _ key _ ih => exact ih.addParam key _
  | merge _ _ preferred ihc ihp => exact ihc.merge ihp preferred
  | mergeAll _ preferred ih => exact .mergeAll ih preferred
  | ofChain _ r preferred => exact .ofChain r preferred _

/-! ## What a tree holds has gone into it -/

/-- All statements and params of a tree are of some kinds. -/
def HoldsOnly (S : Statement → Prop) (P : Param → Prop) (t : Tree) : Prop :=
  (∀ slot s, t.statements.get? slot = some s → S s) ∧
    ∀ key p, t.params.get? key = some p → P p

/-- The empty tree holds nothing of any kind. -/
theorem HoldsOnly.empty : HoldsOnly S P ∅ :=
  ⟨fun _ s hs => absurd hs (Option.some_ne_none s).symm,
    fun _ p hp => absurd hp (Option.some_ne_none p).symm⟩

/-- A single statement adds nothing but itself. -/
theorem HoldsOnly.addStatement {t : Tree} (h : t.HoldsOnly S P) (slot : String) {s : Statement}
    (hs : S s) : (t.addStatement slot s).HoldsOnly S P := by
  rw [addStatement_eq]
  exact ⟨Table.forall_write h.1 (Text.lowercase slot) hs, h.2⟩

/-- A single param adds nothing but itself. -/
theorem HoldsOnly.addParam {t : Tree} (h : t.HoldsOnly S P) (key : String) {p : Param}
    (hp : P p) : (t.addParam key p).HoldsOnly S P := by
  rw [addParam_eq]
  exact ⟨h.1, Table.forall_write h.2 key hp⟩

/-- A document adds nothing but what it declares. -/
theorem HoldsOnly.addDocument {t : Tree} (h : t.HoldsOnly S P) (r : Resolver) (args : Args)
    {d : Document} (hd : d.DeclaresOnly S P) : (t.addDocument r args d).HoldsOnly S P := by
  -- The statements come first, and then the params, each written one by one.
  have hstatements : ((d.statementWrites r args).foldl (fun t w => t.addStatement w.1 w.2)
      t).HoldsOnly S P := by
    refine List.foldlRecOn _ _ h fun t ht w hw => ht.addStatement w.1 ?_
    obtain ⟨declared, hdeclared, hw⟩ := List.mem_flatMap.mp hw
    obtain ⟨slot, -, rfl⟩ := List.mem_map.mp hw
    exact hd.1 declared hdeclared
  refine List.foldlRecOn _ _ hstatements fun t ht w hw => ht.addParam w.1 ?_
  obtain ⟨declared, hdeclared, hw⟩ := List.mem_flatMap.mp hw
  -- A param without a key is not written.
  rw [ParamDeclaration.writes] at hw
  split_ifs at hw
  · exact absurd hw List.not_mem_nil
  · rw [List.mem_singleton.mp hw]
    exact hd.2 declared hdeclared

/-- Merged trees hold what is foremost of their entries, and so nothing but these. -/
theorem HoldsOnly.mergeAll {ts : List Tree} (hlower : ∀ t ∈ ts, t.SlotsLowered)
    (h : ∀ t ∈ ts, t.HoldsOnly S P) (preferred : Effect) :
    (Tree.mergeAll preferred ts).HoldsOnly S P := by
  refine ⟨fun slot s hs => ?_, fun key p hp => ?_⟩
  · rw [statements_get?_mergeAll hlower] at hs
    obtain ⟨t, ht, hheld⟩ := List.mem_filterMap.mp (List.argmax_mem hs)
    exact (h t ht).1 slot s hheld
  · rw [params_get?_mergeAll hlower] at hp
    obtain ⟨t, ht, hheld⟩ := List.mem_filterMap.mp (List.argmax_mem hp)
    exact (h t ht).2 key p hheld

/-- A chain leaves nothing but what its documents declare. -/
theorem HoldsOnly.ofChain {chain : Chain}
    (h : ∀ level ∈ chain, ∀ documents ∈ level.siblings, ∀ d ∈ documents, d.DeclaresOnly S P)
    (r : Resolver) (preferred : Effect) : (Tree.ofChain r preferred chain).HoldsOnly S P := by
  rw [ofChain_eq_mergeAll]
  refine .mergeAll (fun t ht => slotsLowered_of_mem_siblings ht) (fun t ht => ?_) preferred
  obtain ⟨level, hlevel, ht⟩ := List.mem_flatMap.mp ht
  obtain ⟨documents, hdocuments, rfl⟩ := List.mem_map.mp ht
  exact List.foldlRecOn _ _ .empty fun t ht d hd =>
    ht.addDocument r [] (h level hlevel documents hdocuments d hd)

/-- A tree holds nothing but what has gone into it. -/
theorem BuiltFrom.holdsOnly {t : Tree} (h : t.BuiltFrom S P) : t.HoldsOnly S P := by
  induction h with
  | empty => exact .empty
  | addDocument _ r args hd ih => exact ih.addDocument r args hd
  | addStatement _ slot hs ih => exact ih.addStatement slot hs
  | addParam _ key hp ih => exact ih.addParam key hp
  | @merge child parent hc hp preferred ihc ihp =>
    -- A merge of two is that of a list of two, for which the lemma is stated.
    have hlower : ∀ t ∈ [child, parent], t.SlotsLowered :=
      List.forall_mem_cons.mpr ⟨hc.reachable.slotsLowered,
        List.forall_mem_singleton.mpr hp.reachable.slotsLowered⟩
    have hheld : ∀ t ∈ [child, parent], t.HoldsOnly S P :=
      List.forall_mem_cons.mpr ⟨ihc, List.forall_mem_singleton.mpr ihp⟩
    exact .mergeAll hlower hheld preferred
  | mergeAll h preferred ih =>
    exact .mergeAll (fun t ht => (h t ht).reachable.slotsLowered) ih preferred
  | ofChain h r preferred => exact .ofChain h r preferred

end Tree

/-! ## What is read from documents -/

/-- Whether an entry is in a section of a JSON value. -/
def Document.IsEntry (part : Part) (v : Json) (entry : Json.Fields) : Prop :=
  ∃ root entries, v = .obj root ∧ entriesOf part root = .ok entries ∧ entry ∈ entries

/-- Whether a statement is that of an entry of some JSON values. -/
def Statement.ReadFrom (documents : List Json) (s : Statement) : Prop :=
  ∃ v ∈ documents, ∃ entry, Document.IsEntry .statement v entry ∧ s = Document.statementOf entry

/-- Whether a param is that of an entry of some JSON values. -/
def Param.ReadFrom (documents : List Json) (p : Param) : Prop :=
  ∃ v ∈ documents, ∃ entry declared, Document.IsEntry .param v entry ∧
    Document.paramOf? entry = some declared ∧ p = declared.param

/-- A document declares what is read from the entries of its JSON value. -/
theorem Document.declaresOnly_of_ofJson {documents : List Json} {v : Json} (hv : v ∈ documents)
    {d : Document} (h : ofJson v = .ok d) :
    d.DeclaresOnly (Statement.ReadFrom documents) (Param.ReadFrom documents) := by
  cases v with
  | obj root =>
    rw [ofJson] at h
    -- Both sections have been read, as there would be an error otherwise.
    rcases hstatements : entriesOf .statement root with _ | statements
    · rw [hstatements] at h
      exact nomatch h
    rcases hparams : entriesOf .param root with _ | params
    · rw [hstatements, hparams] at h
      exact nomatch h
    rw [hstatements, hparams] at h
    obtain rfl := Except.ok.inj h
    refine ⟨fun declared hdeclared => ?_, fun declared hdeclared => ?_⟩
    · obtain ⟨entry, hentry, rfl⟩ := List.mem_map.mp hdeclared
      exact ⟨.obj root, hv, entry, ⟨root, statements, rfl, hstatements, hentry⟩, rfl⟩
    · obtain ⟨entry, hentry, hparam⟩ := List.mem_filterMap.mp hdeclared
      exact ⟨.obj root, hv, entry, declared, ⟨root, params, rfl, hparams, hentry⟩, hparam, rfl⟩
  | _ => exact nomatch h

namespace Tree

variable {S : Statement → Prop} {P : Param → Prop}

/-! ## Listing, looking up and merging -/

/-- A tree lists each statement under a slot in lower case where a look-up finds it, and look-ups
find nothing else; all that it lists has gone into it. A merged tree has the slots and the keys of
both sides and no others, and each of its entries is that of one side in the same place. -/
theorem entry_laws {child parent : Tree} (hc : child.BuiltFrom S P) (hp : parent.BuiltFrom S P)
    (preferred : Effect) :
    (∀ slot s, (slot, s) ∈ child.statements.entries →
      Text.lowercase slot = slot ∧ child.statement? slot = some s ∧ S s) ∧
    (∀ slot s, child.statement? slot = some s →
      (Text.lowercase slot, s) ∈ child.statements.entries) ∧
    (∀ key p, (key, p) ∈ child.params.entries ↔ child.param? key = some p) ∧
    (∀ slot, slot ∈ (child.merge preferred parent).statements.keys ↔
      slot ∈ child.statements.keys ∨ slot ∈ parent.statements.keys) ∧
    (∀ key, key ∈ (child.merge preferred parent).params.keys ↔
      key ∈ child.params.keys ∨ key ∈ parent.params.keys) ∧
    (∀ e ∈ (child.merge preferred parent).statements.entries,
      e ∈ child.statements.entries ∨ e ∈ parent.statements.entries) ∧
    ∀ e ∈ (child.merge preferred parent).params.entries,
      e ∈ child.params.entries ∨ e ∈ parent.params.entries := by
  have hlower := hc.reachable.slotsLowered
  -- The entries of a merge are picked of the two under each key.
  have hstatements := statements_get?_merge hlower hp.reachable.slotsLowered preferred
  have hparams := params_get?_merge child parent preferred
  refine ⟨fun slot s hs => ?_, fun slot s hs => ?_, fun key p => ?_,
    Table.mem_keys_of_picked hstatements, Table.mem_keys_of_picked hparams,
    fun _ => Table.mem_entries_of_picked hstatements, fun _ => Table.mem_entries_of_picked hparams⟩
  · rw [Table.mem_entries_iff] at hs
    have hslot := hlower slot s hs
    exact ⟨hslot, by rw [statement?, hslot, hs], hc.holdsOnly.1 slot s hs⟩
  · rw [Table.mem_entries_iff]
    exact hs
  · rw [Table.mem_entries_iff, param?]

/-- The document with one statement and one param. -/
def brief (resource : String) (effect : Effect) (key : String) (v : Json) : Document :=
  ⟨[⟨[resource], [""], ⟨some effect, none, false, []⟩⟩], [⟨key, v, none, false, []⟩]⟩

/-- The laws at a tree with a slot put in by hand and one with a compiled document, which have a
slot in common that they were given in different case. -/
theorem entry_laws_overlapping :
    ("post", ⟨some .allow, none, false, []⟩) ∈
        (addStatement ∅ "POST" ⟨some .allow, none, false, []⟩).statements.entries ∧
      Text.lowercase "post" = "post" ∧
      "post" ∈ ((addStatement ∅ "POST" ⟨some .allow, none, false, []⟩).merge .deny
        (ofDocuments ⟨∅⟩ [] [brief "Post" .deny "limit" (.int 3)])).statements.keys ∧
      "limit" ∈ ((addStatement ∅ "POST" ⟨some .allow, none, false, []⟩).merge .deny
        (ofDocuments ⟨∅⟩ [] [brief "Post" .deny "limit" (.int 3)])).params.keys := by
  have hchild : BuiltFrom (fun _ => True) (fun _ => True)
      (addStatement ∅ "POST" ⟨some .allow, none, false, []⟩) :=
    .addStatement .empty "POST" trivial
  have hparent : BuiltFrom (fun _ => True) (fun _ => True)
      (ofDocuments ⟨∅⟩ [] [brief "Post" .deny "limit" (.int 3)]) :=
    .addDocument .empty ⟨∅⟩ [] ⟨fun _ _ => trivial, fun _ _ => trivial⟩
  obtain ⟨hlisted, hfound, -, hslots, hkeys, -⟩ := entry_laws hchild hparent .deny
  -- The slot is looked up as it was written, in any case, and listed in lower case.
  have hentry := hfound "Post" ⟨some .allow, none, false, []⟩ rfl
  have hlower : Text.lowercase "Post" = "post" := by decide
  rw [hlower] at hentry
  refine ⟨hentry, (hlisted _ _ hentry).1, (hslots "post").mpr (.inr ?_),
    (hkeys "limit").mpr (.inr ?_)⟩
  · decide +kernel
  · decide +kernel

end Tree

end AccessPolicy
