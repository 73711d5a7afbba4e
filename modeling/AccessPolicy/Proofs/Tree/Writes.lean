import AccessPolicy.Policy.Basic
import AccessPolicy.Proofs.Text.LowerCase

/-!
# What a tree holds after its writes

Compiling documents is a sequence of writes to slots and keys: documents in order, in each its
statements in order, and for a statement each name that its resources stand for with each action.
`slotWrites` and `keyWrites` are these sequences, written down without the compiler.
`ofDocuments_holds_lasting` shows that a place holds the first enforced entry that is written to it
and, if there is none, the last one (`lasting`), and what a policy of the tree decides on that
account.

The invariant is that of one table. What a place holds, followed by what is still to be written to
it, has the same lasting entry before and after each write: an enforced occupant stays in front of
all that follows, and any other gives way to the next entry (`get?_writeAll`). Writes to other
places leave it as it is.
-/

namespace AccessPolicy

open Marker (Resolver)

/-! ## Writing to one place -/

section Lasting

variable {α : Type} (enforced : α → Bool)

/-- The entry that stays of those written to one place in order: the first one that is enforced and,
if there is none, the last one. -/
def lasting (written : List α) : Option α :=
  (written.find? enforced).or written.getLast?

/-- A single entry stays, and without entries the place is empty. -/
theorem lasting_toList (held : Option α) : lasting enforced held.toList = held := by
  rcases held with _ | v
  · rfl
  · by_cases hv : enforced v = true <;> simp [lasting, hv]

/-- An enforced entry is not displaced. -/
theorem lasting_cons_of_enforced {v : α} (hv : enforced v = true) (written : List α) :
    lasting enforced (v :: written) = some v := by
  rw [lasting, List.find?_cons_of_pos hv, Option.some_or]

/-- An entry that is not enforced gives way to the next one. -/
theorem lasting_cons_cons {v : α} (hv : enforced v = false) (w : α) (written : List α) :
    lasting enforced (v :: w :: written) = lasting enforced (w :: written) := by
  have hv' : ¬enforced v = true := by rw [hv]; exact Bool.false_ne_true
  rw [lasting, lasting, List.find?_cons_of_neg hv', List.getLast?_cons_cons]

/-- Of entries that are all the same, that one stays. -/
theorem lasting_of_forall_eq {written : List α} {v : α} (hne : written ≠ [])
    (h : ∀ w ∈ written, w = v) : lasting enforced written = some v := by
  rw [lasting]
  rcases hfind : written.find? enforced with _ | w
  · rw [Option.none_or, List.getLast?_eq_some_getLast hne, h _ (List.getLast_mem hne)]
  · rw [Option.some_or, h w (List.mem_of_find?_eq_some hfind)]

end Lasting

namespace Table

variable {α : Type} (enforced : α → Bool)

/-- The entries that some writes put to a place, in order. -/
def writtenTo (k : String) (writes : List (String × α)) : List α :=
  (writes.filter fun w => w.1 = k).map (·.2)

/-- The entries put to a place are those of the writes that name it. -/
theorem mem_writtenTo_iff {k : String} {v : α} {writes : List (String × α)} :
    v ∈ writtenTo k writes ↔ (k, v) ∈ writes := by
  simp [writtenTo]

/-- A write to a place comes before the later ones to it. -/
theorem writtenTo_cons_self (w : String × α) (writes : List (String × α)) :
    writtenTo w.1 (w :: writes) = w.2 :: writtenTo w.1 writes := by
  simp [writtenTo]

/-- A write to another place does not count. -/
theorem writtenTo_cons_of_ne {k : String} {w : String × α} (h : w.1 ≠ k)
    (writes : List (String × α)) : writtenTo k (w :: writes) = writtenTo k writes := by
  simp [writtenTo, h]

/-- The table after some writes in order. -/
def writeAll (t : Table α) (writes : List (String × α)) : Table α :=
  writes.foldl (fun t w => t.write enforced w.1 w.2) t

/-- Writes in a row are those of the first part followed by those of the second. -/
theorem writeAll_append (t : Table α) (ws vs : List (String × α)) :
    t.writeAll enforced (ws ++ vs) = (t.writeAll enforced ws).writeAll enforced vs := by
  rw [writeAll, writeAll, writeAll, List.foldl_append]

/-- After some writes a place holds the lasting entry of its former occupant and those written. -/
theorem get?_writeAll (t : Table α) (writes : List (String × α)) (k : String) :
    (t.writeAll enforced writes).get? k =
      lasting enforced ((t.get? k).toList ++ writtenTo k writes) := by
  induction writes generalizing t with
  | nil =>
    show t.get? k = lasting enforced ((t.get? k).toList ++ [])
    rw [List.append_nil, lasting_toList]
  | cons w writes ih =>
    have hstep := ih (t.write enforced w.1 w.2)
    rw [get?_write] at hstep
    rw [writeAll, List.foldl_cons, ← writeAll, hstep]
    by_cases hk : w.1 = k
    · -- The occupant stays for good if it is enforced, and gives way to the write if not.
      subst hk
      rw [writtenTo_cons_self]
      rcases hheld : t.get? w.1 with _ | v
      · simp
      · by_cases hv : enforced v = true
        · simp [hv, lasting_cons_of_enforced]
        · simp [Bool.eq_false_iff.mpr hv, lasting_cons_cons]
    · rw [if_neg fun h => hk h.1, writtenTo_cons_of_ne hk]

end Table

/-! ## The writes of documents -/

namespace Document

/-- The statements that some documents write, in order, each with its slot: the name of a resource,
in lower case, and the action behind a colon unless it is empty. -/
def slotWrites (r : Resolver) (args : Args) (documents : List Document) :
    List (String × Statement) :=
  documents.flatMap fun d => d.statements.flatMap fun declared =>
    (declared.resources.flatMap (Resource.names r args)).flatMap fun name =>
      declared.actions.map fun action =>
        (Text.lowercase (if action = "" then name else name ++ ":" ++ action), declared.statement)

/-- The params that some documents write, in order, each with its key. -/
def keyWrites (r : Resolver) (args : Args) (documents : List Document) : List (String × Param) :=
  documents.flatMap fun d =>
    (d.params.filter fun declared => Resource.resolved r args declared.key ≠ "").map
      fun declared => (Resource.resolved r args declared.key, declared.param)

/-- The compiler writes statements in the order of `slotWrites`. -/
theorem flatMap_statementWrites (r : Resolver) (args : Args) (documents : List Document) :
    documents.flatMap (fun d => d.statementWrites r args) = slotWrites r args documents := by
  simp only [slotWrites, statementWrites, StatementDeclaration.writes, StatementDeclaration.slots,
    StatementDeclaration.names, slotOf, List.map_flatMap, List.map_map, Function.comp_def]

/-- The compiler writes params in the order of `keyWrites`. -/
theorem flatMap_paramWrites (r : Resolver) (args : Args) (documents : List Document) :
    documents.flatMap (fun d => d.paramWrites r args) = keyWrites r args documents := by
  have hparams : ∀ ps : List ParamDeclaration, ps.flatMap (fun p => p.writes r args) =
      (ps.filter fun p => Resource.resolved r args p.key ≠ "").map
        fun p => (Resource.resolved r args p.key, p.param) := by
    intro ps
    induction ps with
    | nil => rfl
    | cons p ps ih =>
      rw [List.flatMap_cons, ih, ParamDeclaration.writes]
      by_cases hkey : Resource.resolved r args p.key = "" <;> simp [hkey]
  simp only [keyWrites, paramWrites, hparams]

/-- The slots of statements are in lower case already. -/
theorem lowercase_of_mem_slotWrites {r : Resolver} {args : Args} {documents : List Document}
    {w : String × Statement} (hw : w ∈ slotWrites r args documents) : Text.lowercase w.1 = w.1 := by
  simp only [slotWrites, List.mem_flatMap, List.mem_map] at hw
  obtain ⟨d, -, declared, -, name, -, action, -, rfl⟩ := hw
  exact Text.lowercase_lowercase _

end Document

namespace Tree

/-- Adding a statement writes to the table of statements, under the slot in lower case. -/
theorem addStatement_eq (t : Tree) (slot : String) (s : Statement) :
    t.addStatement slot s =
      ⟨t.statements.write Statement.enforced (Text.lowercase slot) s, t.params⟩ := by
  unfold addStatement insertStatement? Table.write
  rcases t.statements.write? Statement.enforced (Text.lowercase slot) s with _ | statements <;> rfl

/-- Adding a param writes to the table of params. -/
theorem addParam_eq (t : Tree) (key : String) (p : Param) :
    t.addParam key p = ⟨t.statements, t.params.write Param.enforced key p⟩ := by
  unfold addParam insertParam? Table.write
  rcases t.params.write? Param.enforced key p with _ | params <;> rfl

/-- Adding statements to slots in lower case writes them to the table of statements in order. -/
theorem foldl_addStatement {writes : List (String × Statement)}
    (h : ∀ w ∈ writes, Text.lowercase w.1 = w.1) (t : Tree) :
    writes.foldl (fun t w => t.addStatement w.1 w.2) t =
      ⟨t.statements.writeAll Statement.enforced writes, t.params⟩ := by
  induction writes generalizing t with
  | nil => rfl
  | cons w writes ih =>
    rw [List.foldl_cons, ih fun v hv => h v (List.mem_cons_of_mem w hv), addStatement_eq,
      h w List.mem_cons_self]
    rfl

/-- Adding params writes them to the table of params in order. -/
theorem foldl_addParam (writes : List (String × Param)) (t : Tree) :
    writes.foldl (fun t w => t.addParam w.1 w.2) t =
      ⟨t.statements, t.params.writeAll Param.enforced writes⟩ := by
  induction writes generalizing t with
  | nil => rfl
  | cons w writes ih =>
    rw [List.foldl_cons, ih, addParam_eq]
    rfl

/-- Compiling documents one after the other into a tree makes all their writes in order. -/
theorem foldl_addDocument (r : Resolver) (args : Args) (documents : List Document) (t : Tree) :
    documents.foldl (addDocument r args) t =
      ⟨t.statements.writeAll Statement.enforced (Document.slotWrites r args documents),
        t.params.writeAll Param.enforced (Document.keyWrites r args documents)⟩ := by
  induction documents generalizing t with
  | nil => rfl
  | cons d documents ih =>
    -- A single document writes what it declares.
    have hstatements : Document.slotWrites r args [d] = d.statementWrites r args := by
      rw [← Document.flatMap_statementWrites, List.flatMap_singleton]
    have hparams : Document.keyWrites r args [d] = d.paramWrites r args := by
      rw [← Document.flatMap_paramWrites, List.flatMap_singleton]
    have hlower : ∀ w ∈ d.statementWrites r args, Text.lowercase w.1 = w.1 := fun w hw =>
      Document.lowercase_of_mem_slotWrites (hstatements ▸ hw)
    have hslots : Document.slotWrites r args (d :: documents) =
        d.statementWrites r args ++ Document.slotWrites r args documents := by
      rw [← hstatements]
      simp [Document.slotWrites]
    have hkeys : Document.keyWrites r args (d :: documents) =
        d.paramWrites r args ++ Document.keyWrites r args documents := by
      rw [← hparams]
      simp [Document.keyWrites]
    -- The statements and the params of the document go in first, and then those of the others.
    rw [List.foldl_cons, ih, addDocument, foldl_addStatement hlower, foldl_addParam, hslots, hkeys,
      Table.writeAll_append, Table.writeAll_append]

/-- The tree of a document that declares one statement holds that statement in the slots that are
declared, and no other. -/
theorem statements_get?_ofDocuments_singleton {r : Resolver} {args : Args} {d : Document}
    {declared : StatementDeclaration} (hd : d.statements = [declared]) {slot : String}
    {held : Statement} :
    (ofDocuments r args [d]).statements.get? slot = some held ↔
      slot ∈ declared.slots r args ∧ held = declared.statement := by
  have hwrites : Document.slotWrites r args [d] = declared.writes r args := by
    rw [← Document.flatMap_statementWrites, List.flatMap_singleton, Document.statementWrites, hd,
      List.flatMap_singleton]
  -- Whatever is written to the slot is the one statement that is declared.
  have hmem : ∀ v, v ∈ Table.writtenTo slot (declared.writes r args) ↔
      slot ∈ declared.slots r args ∧ v = declared.statement := by
    intro v
    rw [Table.mem_writtenTo_iff, StatementDeclaration.writes, List.mem_map]
    constructor
    · rintro ⟨slot, hslot, heq⟩
      obtain ⟨rfl, rfl⟩ := Prod.mk.inj heq
      exact ⟨hslot, rfl⟩
    · rintro ⟨hslot, rfl⟩
      exact ⟨slot, hslot, rfl⟩
  have hget : (ofDocuments r args [d]).statements.get? slot =
      lasting Statement.enforced (Table.writtenTo slot (declared.writes r args)) := by
    rw [ofDocuments, foldl_addDocument, Table.get?_writeAll, hwrites]
    rfl
  rw [hget]
  -- Of equal statements that one is held, and of none there is nothing to hold.
  by_cases hslot : slot ∈ declared.slots r args
  · have hne := List.ne_nil_of_mem ((hmem declared.statement).mpr ⟨hslot, rfl⟩)
    rw [lasting_of_forall_eq _ hne fun v hv => ((hmem v).mp hv).2, Option.some_inj,
      and_iff_right hslot]
    exact eq_comm
  · have hnil : Table.writtenTo slot (declared.writes r args) = [] :=
      List.eq_nil_iff_forall_not_mem.mpr fun v hv => hslot ((hmem v).mp hv).1
    rw [hnil]
    exact iff_of_false nofun fun h => hslot h.1

/-- The tree of some documents holds in each place the lasting entry of those that the documents
write to it, and a policy of the tree decides by what its slots hold: nothing if a slot is empty or
the condition of its statement does not hold, and otherwise by whether the effect is to allow. -/
theorem ofDocuments_holds_lasting (r : Resolver) (args : Args) (documents : List Document) :
    (∀ slot, (ofDocuments r args documents).statements.get? slot =
      lasting Statement.enforced (Table.writtenTo slot (Document.slotWrites r args documents))) ∧
    (∀ key, (ofDocuments r args documents).params.get? key =
      lasting Param.enforced (Table.writtenTo key (Document.keyWrites r args documents))) ∧
    ∀ (q : Resolver) (handlers : Handlers) (now : Args) (slot : String),
      (Policy.mk (ofDocuments r args documents) q handlers).decide? now slot =
        match lasting Statement.enforced
            (Table.writtenTo (Text.lowercase slot) (Document.slotWrites r args documents)) with
        | none => none
        | some s =>
          if s.condition.all (fun c => c.holds q now) then some (decide (s.effect = some .allow))
          else none := by
  have hstatements : ∀ slot, (ofDocuments r args documents).statements.get? slot =
      lasting Statement.enforced
        (Table.writtenTo slot (Document.slotWrites r args documents)) := by
    intro slot
    rw [ofDocuments, foldl_addDocument, Table.get?_writeAll]
    rfl
  refine ⟨hstatements, fun key => ?_, fun q handlers now slot => ?_⟩
  · rw [ofDocuments, foldl_addDocument, Table.get?_writeAll]
    rfl
  · -- The slot is looked up in lower case, in which it was written.
    rw [← hstatements, Policy.decide?, Policy.applicable?, statement?]
    rcases (ofDocuments r args documents).statements.get? (Text.lowercase slot) with _ | s
    · rfl
    · have hallows : s.allows = decide (s.effect = some .allow) := by
        rw [Bool.eq_iff_iff, Statement.allows_iff, decide_eq_true_iff]
      by_cases hc : s.condition.all (fun c => c.holds q now) = true
      · simp [Policy.applies, hc, hallows]
      · simp [Policy.applies, hc]

end Tree

end AccessPolicy
