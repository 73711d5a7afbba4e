import AccessPolicy.Policy.Basic
import AccessPolicy.Proofs.Condition.Composition
import AccessPolicy.Proofs.Tree.Origin

/-!
# Conditions that cannot be understood

A condition that is no object, or that has a group under a name that no operator has, cannot be
understood (`Condition.Unreadable`). An entry with such a condition is as good as none: whatever it
says, and wherever it ends up in the course of compiling, inserting and merging, no question is
answered from it (`Policy.unreadable_never_applies`).

There are two ways to miss this. A condition that is empty is dropped when an entry is read, so that
the entry applies always, and an unreadable condition has no groups that could fail either; but it
is not empty, and so it is kept (`Document.conditionOf_of_refuses`). And an entry is copied to many
slots and from tree to tree; but a tree holds nothing that was not read as it is
(`Tree.BuiltFrom.holdsOnly`).
-/

namespace AccessPolicy

open Marker (Resolver)

/-! ## Unreadable conditions -/

namespace Condition

/-- Whether a condition cannot be understood: it is no object, or one of its groups has a name that
no operator has. -/
def Unreadable (condition : Condition) : Prop :=
  ∀ fields, condition = .obj fields → ∃ e ∈ fields, isCombinatorName e.1 = false ∧
    ∀ op : Operator, ¬Text.sameIgnoringCase op.name e.1

/-- An unreadable condition never holds. -/
theorem Unreadable.holds_eq_false {condition : Condition} (h : condition.Unreadable)
    (r : Resolver) (args : Args) : condition.holds r args = false := by
  cases condition with
  | obj fields =>
    obtain ⟨e, he, hname, hunknown⟩ := h fields rfl
    have hmember : e ∈ members fields :=
      List.mem_filter.mpr ⟨he, by rw [hname]; rfl⟩
    exact holds_of_unknown r args hmember hunknown
  | _ => rfl

/-- An unreadable condition is not empty. -/
theorem Unreadable.isEmpty_eq_false {condition : Condition} (h : condition.Unreadable) :
    condition.isEmpty = false := by
  rw [Bool.eq_false_iff]
  intro hempty
  have hholds := holds_of_isEmpty ⟨∅⟩ [] hempty
  rw [h.holds_eq_false] at hholds
  exact Bool.false_ne_true hholds

end Condition

namespace Document

/-- Whether an entry is written with a condition that cannot be understood. -/
def Refuses (entry : Json.Fields) : Prop :=
  ∃ raw, Entries.get? entry "Condition" = some raw ∧ raw ≠ .null ∧ Condition.Unreadable raw

/-- An unreadable condition is kept when an entry is read. -/
theorem conditionOf_of_refuses {entry : Json.Fields} (h : Refuses entry) :
    ∃ condition, conditionOf entry = some condition ∧ condition.Unreadable := by
  obtain ⟨raw, hraw, hnull, hunreadable⟩ := h
  refine ⟨raw, ?_, hunreadable⟩
  rw [conditionOf, hraw]
  split
  · next hnone => exact absurd hnone (Option.some_ne_none raw)
  · next hsome => exact absurd (Option.some_inj.mp hsome) hnull
  · next raw' _ hsome =>
    obtain rfl := Option.some_inj.mp hsome
    rw [hunreadable.isEmpty_eq_false]
    rfl

/-- The condition of a param is that of its entry. -/
theorem condition_of_paramOf? {entry : Json.Fields} {declared : ParamDeclaration}
    (h : paramOf? entry = some declared) : declared.condition = conditionOf entry := by
  unfold paramOf? at h
  split at h
  · split_ifs at h
    rw [← Option.some_inj.mp h]
  · exact nomatch h

end Document

/-- Whether a statement was given a condition that cannot be understood, by the entry that it was
read from or by hand. -/
def Statement.Refused (s : Statement) : Prop :=
  (∃ entry, s = Document.statementOf entry ∧ Document.Refuses entry) ∨
    ∃ condition, s.condition = some condition ∧ condition.Unreadable

/-- Whether a param was given a condition that cannot be understood, by the entry that it was read
from or by hand. -/
def Param.Refused (p : Param) : Prop :=
  (∃ entry declared, Document.paramOf? entry = some declared ∧ p = declared.param ∧
      Document.Refuses entry) ∨
    ∃ condition, p.condition = some condition ∧ condition.Unreadable

/-- The condition that a refused statement was given is its condition. -/
theorem Statement.Refused.condition_unreadable {s : Statement} (h : s.Refused) :
    ∃ condition, s.condition = some condition ∧ condition.Unreadable := by
  rcases h with ⟨entry, rfl, hrefused⟩ | hgiven
  · exact Document.conditionOf_of_refuses hrefused
  · exact hgiven

/-- The condition that a refused param was given is its condition. -/
theorem Param.Refused.condition_unreadable {p : Param} (h : p.Refused) :
    ∃ condition, p.condition = some condition ∧ condition.Unreadable := by
  rcases h with ⟨entry, declared, hdeclared, rfl, hrefused⟩ | hgiven
  · obtain ⟨condition, hkept, hunreadable⟩ := Document.conditionOf_of_refuses hrefused
    exact ⟨condition, (Document.condition_of_paramOf? hdeclared).trans hkept, hunreadable⟩
  · exact hgiven

/-! ## Entries that do not apply -/

/-- The tree with nothing in a slot. -/
def Tree.vacate (t : Tree) (slot : String) : Tree :=
  { t with
    statements :=
      ⟨t.statements.entries.erase (Text.lowercase slot), t.statements.sorted.erase _⟩ }

namespace Policy

section Applies

variable {p : Policy} {args : Args} {slot : String} {s : Statement}

/-- An entry with an unreadable condition does not apply. -/
theorem applies_eq_false {condition : Condition} (h : condition.Unreadable) :
    p.applies args (some condition) = false :=
  h.holds_eq_false p.resolver args

/-- A slot whose statement does not apply is not decided. -/
theorem decide?_eq_none (hs : p.tree.statement? slot = some s)
    (happlies : p.applies args s.condition = false) : p.decide? args slot = none := by
  rw [decide?_of_statement? hs, happlies]
  rfl

/-- What is listed under a prefix is what is listed without a slot whose statement does not
apply. -/
theorem resources_vacate (hs : p.tree.statement? slot = some s)
    (happlies : p.applies args s.condition = false) (start : String) :
    { p with tree := p.tree.vacate slot }.resources args start = p.resources args start := by
  have hlisted : ∀ e ∈ p.tree.statements.entries, e.1 = Text.lowercase slot →
      p.listed? args (Text.lowercase start) e = none := by
    -- A table lists one entry for a slot, so what is listed of this one is what a look-up finds.
    intro e he hslot
    have hget := (p.tree.statements.mem_entries_iff e.1 e.2).mp he
    rw [hslot, ← Tree.statement?, hs] at hget
    rw [listed?, ← Option.some_inj.mp hget, happlies]
    rfl
  show Table.ofPairs ((p.tree.statements.entries.erase (Text.lowercase slot)).filterMap
    (p.listed? args (Text.lowercase start))) = p.resources args start
  rw [resources, Entries.erase, List.filterMap_filter]
  refine congrArg Table.ofPairs (List.filterMap_congr fun e he => ?_)
  by_cases hslot : e.1 = Text.lowercase slot
  · rw [hlisted e he hslot]
    simp
  · simp [hslot]

/-- Whatever is listed under a prefix applies. -/
theorem applies_of_resources {start suffix : String} {listed : Statement}
    (h : (p.resources args start).get? suffix = some listed) :
    p.applies args listed.condition = true := by
  have hpair := Entries.mem_of_mem_ofPairs (Entries.mem_of_get? h)
  obtain ⟨e, -, he⟩ := List.mem_filterMap.mp hpair
  obtain ⟨happlies, -, rfl⟩ := listed?_eq_some_iff.mp he
  exact happlies

/-- A param that does not apply has no value. -/
theorem param?_eq_none {key : String} {param : Param} (hp : p.tree.param? key = some param)
    (happlies : p.applies args param.condition = false) : p.param? args key = none := by
  rw [param?, hp, Option.filter_some, happlies]
  rfl

end Applies

/-! ## Whole policies -/

/-- However a tree has come about from the entries of documents, and from statements and params of
any kinds put in by hand: it holds nothing else, and where it holds a statement or a param that was
given an unreadable condition, no question is answered from that. The slot is not decided, all
listings are as if it were vacant and have no statement with such a condition, and the param has no
value. -/
theorem unreadable_never_applies {documents : List Json} {S : Statement → Prop} {P : Param → Prop}
    {t : Tree} (ht : t.BuiltFrom (fun s => s.ReadFrom documents ∨ S s)
      (fun p => p.ReadFrom documents ∨ P p)) (r : Resolver) (handlers : Handlers) (args : Args) :
    (∀ slot s, t.statement? slot = some s → (s.ReadFrom documents ∨ S s) ∧ (s.Refused →
      (Policy.mk t r handlers).decide? args slot = none ∧
      (∀ start, (Policy.mk t r handlers).resources args start =
        (Policy.mk (t.vacate slot) r handlers).resources args start) ∧
      ∀ start suffix listed,
        ((Policy.mk t r handlers).resources args start).get? suffix = some listed →
          listed.condition ≠ s.condition)) ∧
    ∀ key p, t.param? key = some p → (p.ReadFrom documents ∨ P p) ∧ (p.Refused →
      (Policy.mk t r handlers).param? args key = none) := by
  refine ⟨fun slot s hs => ⟨ht.holdsOnly.1 _ s hs, fun hrefused => ?_⟩,
    fun key p hp => ⟨ht.holdsOnly.2 key p hp, fun hrefused => ?_⟩⟩
  · obtain ⟨condition, hcondition, hunreadable⟩ := hrefused.condition_unreadable
    -- The condition that the statement was given is unreadable, so that it does not hold.
    have happlies : (Policy.mk t r handlers).applies args s.condition = false := by
      rw [hcondition]
      exact applies_eq_false hunreadable
    refine ⟨decide?_eq_none hs happlies, fun start => (resources_vacate hs happlies start).symm,
      fun start suffix listed hlisted heq => ?_⟩
    -- What is listed has a condition that holds.
    have hopen := applies_of_resources hlisted
    rw [heq, happlies] at hopen
    exact Bool.false_ne_true hopen
  · obtain ⟨condition, hcondition, hunreadable⟩ := hrefused.condition_unreadable
    refine param?_eq_none hp ?_
    rw [hcondition]
    exact applies_eq_false hunreadable

/-- The entry of a statement that lets everyone read posts, but for a misspelt group. -/
def misspelt : Json.Fields :=
  [("Action", .str "Read"),
    ("Condition", .obj [("Eqals", .obj []), ("Equals", .obj [("a", .str "a")]),
      ("Operator", .str "OR")]),
    ("Effect", .str "Allow"), ("Resource", .str "Post")]

/-- The entry of a param with a condition that is no object. -/
def misplaced : Json.Fields :=
  [("Condition", .bool true), ("Key", .str "limit"), ("Value", .int 3)]

/-- The misspelt statement, put in by hand and merged with what a document of both entries says. -/
def ofMistakes : Tree :=
  (Tree.addStatement ∅ "POST:read" (Document.statementOf misspelt)).merge .deny
    (Tree.addDocument ⟨∅⟩ [] ∅ ⟨[Document.declarationOf misspelt],
      [misplaced].filterMap Document.paramOf?⟩)

/-- Neither of the entries is of any effect in that tree. -/
theorem unreadable_never_applies_ofMistakes :
    (Policy.mk ofMistakes ⟨∅⟩ ∅).decide? [] "Post:Read" = none ∧
      (Policy.mk ofMistakes ⟨∅⟩ ∅).param? [] "limit" = none := by
  -- The document has both mistakes, and only the statement is put in by hand besides.
  let v : Json := .obj [("Param", .obj misplaced), ("Statement", .obj misspelt)]
  have hread : (Document.statementOf misspelt).ReadFrom [v] :=
    ⟨v, List.mem_singleton_self v, misspelt, ⟨_, [misspelt], rfl, rfl, List.mem_singleton_self _⟩,
      rfl⟩
  have hdeclares := Document.declaresOnly_of_ofJson (List.mem_singleton_self v)
    (d := ⟨[Document.declarationOf misspelt], [misplaced].filterMap Document.paramOf?⟩) rfl
  have hbuilt : ofMistakes.BuiltFrom (fun s => s.ReadFrom [v] ∨ False)
      (fun p => p.ReadFrom [v] ∨ False) :=
    .merge (.addStatement .empty "POST:read" (.inl hread))
      (.addDocument .empty ⟨∅⟩ [] ⟨fun declared hdeclared => .inl (hdeclares.1 declared hdeclared),
        fun declared hdeclared => .inl (hdeclares.2 declared hdeclared)⟩) .deny
  obtain ⟨hstatements, hparams⟩ := unreadable_never_applies hbuilt ⟨∅⟩ ∅ []
  have hmisspelt : Document.Refuses misspelt := by
    refine ⟨_, rfl, nofun, fun fields hfields => ?_⟩
    obtain rfl := Json.obj.inj hfields
    exact ⟨("Eqals", .obj []), List.mem_cons_self, by decide, fun op => by cases op <;> decide⟩
  have hmisplaced : Document.Refuses misplaced := ⟨.bool true, rfl, nofun, nofun⟩
  refine ⟨?_, ?_⟩
  · have hheld : (ofMistakes.statement? "Post:Read").isSome := by decide +kernel
    obtain ⟨s, hs⟩ := Option.isSome_iff_exists.mp hheld
    obtain ⟨hfrom, hsilent⟩ := hstatements "Post:Read" s hs
    -- What the tree holds was read from an entry of the document, of which there is one.
    obtain ⟨w, hw, entry, ⟨root, entries, rfl, hentries, hentry⟩, rfl⟩ :=
      hfrom.resolve_right not_false
    obtain rfl := Json.obj.inj (List.mem_singleton.mp hw)
    obtain rfl := Except.ok.inj hentries
    obtain rfl := List.mem_singleton.mp hentry
    exact (hsilent (.inl ⟨misspelt, rfl, hmisspelt⟩)).1
  · have hheld : (ofMistakes.param? "limit").isSome := by decide +kernel
    obtain ⟨p, hp⟩ := Option.isSome_iff_exists.mp hheld
    obtain ⟨hfrom, hsilent⟩ := hparams "limit" p hp
    obtain ⟨w, hw, entry, declared, ⟨root, entries, rfl, hentries, hentry⟩, hdeclared, rfl⟩ :=
      hfrom.resolve_right not_false
    obtain rfl := Json.obj.inj (List.mem_singleton.mp hw)
    obtain rfl := Except.ok.inj hentries
    obtain rfl := List.mem_singleton.mp hentry
    exact hsilent (.inl ⟨misplaced, declared, hdeclared, rfl, hmisplaced⟩)

end Policy

end AccessPolicy
