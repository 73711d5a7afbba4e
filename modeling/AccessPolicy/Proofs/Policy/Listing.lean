import AccessPolicy.Policy.Failure
import AccessPolicy.Proofs.Marker.Strings
import AccessPolicy.Proofs.Tree.Reachable
import Mathlib.Data.List.Induction

/-!
# Listing agrees with deciding

To list what is under a prefix, every slot of a tree is stripped of the prefix and of the colon
behind it, and what is left over becomes the name of an entry (`Policy.suffix?`). To decide about a
slot, the slot is looked up. If something is left over, it is left over of one slot only, the prefix
with a colon and the name behind it (`Policy.suffix?_eq_some_iff`), so entries with such a name do
not displace each other, whatever colons the prefix itself has. The statements that are listed under
a name are then those that decide about its slot, with the markers in their metadata resolved
(`Policy.resources_agree`).
-/

namespace AccessPolicy

open Marker (Resolver hasMarker)

/-! ## Tables of pairs -/

namespace Table

variable {α : Type}

/-- Under each name a table has the last entry of the pairs that it is made of. -/
theorem get?_ofPairs (pairs : List (String × α)) (k : String) :
    (ofPairs pairs).get? k = (writtenTo k pairs).getLast? := by
  induction pairs using List.reverseRecOn with
  | nil => rfl
  | append_singleton pairs last ih =>
    -- The last pair is inserted last, into the table of those before it.
    have hlookup : (ofPairs (pairs ++ [last])).get? k =
        ((ofPairs pairs).insert last.1 last.2).get? k := by
      show Entries.get? (Entries.ofPairs (pairs ++ [last])) k = _
      rw [Entries.ofPairs, List.foldl_append]
      rfl
    rw [hlookup, get?_insert, ih]
    by_cases hk : last.1 = k
    · simp [writtenTo, hk]
    · simp [writtenTo, hk]

/-- If the pairs of a name agree, the table has the entry of any of them. -/
theorem get?_ofPairs_eq_some_iff {pairs : List (String × α)} {k : String}
    (h : ∀ v w, (k, v) ∈ pairs → (k, w) ∈ pairs → v = w) {v : α} :
    (ofPairs pairs).get? k = some v ↔ (k, v) ∈ pairs := by
  rw [get?_ofPairs]
  constructor
  · intro hv
    exact mem_writtenTo_iff.mp (List.mem_of_getLast? hv)
  · intro hv
    have hne : writtenTo k pairs ≠ [] := List.ne_nil_of_mem (mem_writtenTo_iff.mpr hv)
    rw [List.getLast?_eq_some_getLast hne, Option.some_inj]
    exact h _ _ (mem_writtenTo_iff.mp (List.getLast_mem hne)) hv

end Table

/-! ## Metadata -/

namespace Entries

variable {α β : Type}

/-- Changing the values keeps the names. -/
theorem keys_mapValues (f : α → β) (es : Entries α) : keys (mapValues f es) = keys es := by
  rw [keys, mapValues, List.map_map]
  rfl

end Entries

/-- Whether an entry of a listing is a statement but for the markers in its metadata. -/
structure Statement.ListedAs (r : Resolver) (args : Args) (held entry : Statement) : Prop where
  effect : entry.effect = held.effect
  condition : entry.condition = held.condition
  enforced : entry.enforced = held.enforced
  names : Entries.keys entry.metadata = Entries.keys held.metadata
  resolved : ∀ k v, Entries.get? held.metadata k = some v →
    Entries.get? entry.metadata k = some (r.resolveAll args v)
  markerFree : ∀ k v, Entries.get? held.metadata k = some v →
    (∀ s ∈ v.strings, hasMarker s = false) → Entries.get? entry.metadata k = some v

namespace Policy

variable {p : Policy} {args : Args} {start suffix slot : String}

/-- To resolve the metadata of a statement changes nothing but the markers in it. -/
theorem listedAs_resolveMetadata (p : Policy) (args : Args) (held : Statement) :
    held.ListedAs p.resolver args (p.resolveMetadata args held) := by
  have hfields : (p.resolveMetadata args held).metadata =
      Entries.mapValues (p.resolver.resolveAll args) held.metadata :=
    p.resolver.resolveFields_eq_mapValues args held.metadata
  have hresolved : ∀ k v, Entries.get? held.metadata k = some v →
      Entries.get? (p.resolveMetadata args held).metadata k =
        some (p.resolver.resolveAll args v) := by
    intro k v hv
    rw [hfields, Entries.get?_mapValues, hv, Option.map_some]
  refine ⟨rfl, rfl, rfl, ?_, hresolved, fun k v hv hfree => ?_⟩
  · rw [hfields, Entries.keys_mapValues]
  · rw [hresolved k v hv, p.resolver.resolveAll_of_forall_hasMarker args hfree]

/-! ## Names of entries -/

/-- A slot is listed without a name if it is the prefix, and otherwise under what is behind the
prefix and a colon. -/
theorem suffix?_eq_some_iff :
    suffix? start slot = some suffix ↔
      slot = start ∧ suffix = "" ∨ slot = start ++ ":" ++ suffix := by
  have hcolon : (start ++ ":" ++ suffix).toList = start.toList ++ ':' :: suffix.toList := by
    rw [String.toList_append, String.toList_append, List.append_assoc]
    rfl
  constructor
  · intro h
    unfold suffix? at h
    split at h
    · -- The prefix is all of the slot.
      next hfront =>
      refine .inl ⟨?_, (Option.some_inj.mp h).symm⟩
      rw [List.isPrefixOf?_eq_some_iff_append_eq, List.append_nil] at hfront
      exact (String.toList_inj.mp hfront).symm
    · -- There is a colon behind the prefix.
      next rest hfront =>
      obtain rfl := Option.some_inj.mp h
      rw [List.isPrefixOf?_eq_some_iff_append_eq] at hfront
      refine .inr (String.toList_inj.mp ?_)
      rw [hcolon, String.toList_ofList, hfront]
    · exact nomatch h
  · rintro (⟨rfl, rfl⟩ | rfl)
    · have hfront := List.isPrefixOf?_eq_some_iff_append_eq.mpr (List.append_nil slot.toList)
      rw [suffix?, hfront]
    · have hfront := List.isPrefixOf?_eq_some_iff_append_eq.mpr hcolon.symm
      rw [suffix?, hfront]
      exact congrArg some String.ofList_toList

/-- A slot is listed under a name that is not empty if it is the prefix with a colon and the
name. -/
theorem suffix?_eq_some_iff_of_ne (h : suffix ≠ "") :
    suffix? start slot = some suffix ↔ slot = start ++ ":" ++ suffix := by
  rw [suffix?_eq_some_iff]
  exact or_iff_right fun hself => h hself.2

/-! ## Listings -/

/-- The statement that is listed under a name is the one in the slot of the prefix and that name, if
it applies. -/
theorem get?_resources (p : Policy) (args : Args) (start : String) (h : suffix ≠ "")
    (entry : Statement) :
    (p.resources args start).get? suffix = some entry ↔
      ∃ held, p.tree.statements.get? (Text.lowercase start ++ ":" ++ suffix) = some held ∧
        p.applies args held.condition = true ∧ p.resolveMetadata args held = entry := by
  have hpairs : ∀ entry, (suffix, entry) ∈
        p.tree.statements.entries.filterMap (p.listed? args (Text.lowercase start)) ↔
      ∃ held, p.tree.statements.get? (Text.lowercase start ++ ":" ++ suffix) = some held ∧
        p.applies args held.condition = true ∧ p.resolveMetadata args held = entry := by
    intro entry
    simp only [List.mem_filterMap, Prod.exists, Table.mem_entries_iff, listed?_eq_some_iff,
      suffix?_eq_some_iff_of_ne h]
    constructor
    · rintro ⟨slot, held, hheld, happlies, rfl, hentry⟩
      exact ⟨held, hheld, happlies, hentry⟩
    · rintro ⟨held, hheld, happlies, hentry⟩
      exact ⟨_, held, hheld, happlies, rfl, hentry⟩
  rw [resources, Table.get?_ofPairs_eq_some_iff fun v w hv hw => ?_, hpairs]
  -- Both entries are of the same slot, which holds one statement.
  obtain ⟨held, hheld, -, rfl⟩ := (hpairs v).mp hv
  obtain ⟨other, hother, -, rfl⟩ := (hpairs w).mp hw
  rw [Option.some_inj.mp (hheld.symm.trans hother)]

/-- If all under a prefix can be listed, it can be told whether a statement under it applies. -/
theorem conditionFails_of_listingFails (h : p.listingFails args start = false) {held : Statement}
    (hheld : p.tree.statements.get? (Text.lowercase start ++ ":" ++ suffix) = some held) :
    p.conditionFails args held.condition = false := by
  rw [listingFails, List.any_eq_false] at h
  have hentry := h _ ((p.tree.statements.mem_entries_iff _ _).mpr hheld)
  rw [suffix?_eq_some_iff.mpr (.inr rfl), Option.isSome_some, Bool.true_and, entryFails,
    Bool.or_eq_true] at hentry
  exact Bool.eq_false_iff.mpr fun hfails => hentry (.inl hfails)

/-- Under a name that is not empty a listing has an entry only if the slot of the prefix and the
name holds a statement, and then exactly if that slot is decided. The decision is that of the entry,
and the entry is the statement with the markers in its metadata resolved. Where the listing can be
answered, so can the decision. -/
theorem resources_agree {p : Policy} (hp : p.tree.Reachable) (args : Args)
    {start suffix slot : String} (hslot : slot = Text.lowercase start ++ ":" ++ suffix)
    (hsuffix : suffix ≠ "") :
    (∀ held, p.tree.statements.get? slot = some held →
      ((∃ entry, (p.resources args start).get? suffix = some entry) ↔
        ∃ b, p.decide? args slot = some b) ∧
      (∀ entry, (p.resources args start).get? suffix = some entry →
        p.decide? args slot = some entry.allows ∧ held.ListedAs p.resolver args entry) ∧
      (p.listingFails args start = false → p.decisionFails args slot = false)) ∧
    (suffix ∈ (p.resources args start).keys → slot ∈ p.tree.statements.keys) := by
  subst hslot
  have hlisted := get?_resources p args start hsuffix
  refine ⟨fun held hheld => ?_, fun hmem => ?_⟩
  · -- What is stored is found when it is asked for, since slots are in lower case.
    have hfound : p.tree.statement? (Text.lowercase start ++ ":" ++ suffix) = some held := by
      rw [Tree.statement?, hp.slotsLowered _ held hheld, hheld]
    have hentries : ∀ entry, (p.resources args start).get? suffix = some entry →
        p.applies args held.condition = true ∧ p.resolveMetadata args held = entry := by
      intro entry hentry
      obtain ⟨other, hother, hentry⟩ := (hlisted entry).mp hentry
      exact Option.some_inj.mp (hother.symm.trans hheld) ▸ hentry
    refine ⟨⟨?_, ?_⟩, fun entry hentry => ?_, fun hlists => ?_⟩
    · rintro ⟨entry, hentry⟩
      exact ⟨held.allows, decide?_eq_some_iff.mpr ⟨held, hfound, (hentries entry hentry).1, rfl⟩⟩
    · rintro ⟨b, hb⟩
      obtain ⟨other, hother, happlies, -⟩ := decide?_eq_some_iff.mp hb
      obtain rfl := Option.some_inj.mp (hother.symm.trans hfound)
      exact ⟨_, (hlisted _).mpr ⟨other, hheld, happlies, rfl⟩⟩
    · obtain ⟨happlies, rfl⟩ := hentries entry hentry
      exact ⟨decide?_eq_some_iff.mpr ⟨held, hfound, happlies, rfl⟩,
        listedAs_resolveMetadata p args held⟩
    · rw [decisionFails, hfound, Option.any_some]
      exact conditionFails_of_listingFails hlists hheld
  · obtain ⟨entry, hentry⟩ := (Table.mem_keys_iff _ _).mp hmem
    obtain ⟨held, hheld, -⟩ := (hlisted entry).mp hentry
    exact (Table.mem_keys_iff _ _).mpr ⟨held, hheld⟩

/-- An entry of one menu, which names somebody, and an entry of another menu, whose name begins with
that of the first. -/
def menuTree : Tree :=
  (Tree.addStatement ∅ "BackendMenu:Plugins"
    ⟨some .allow, none, false,
      [("Label", .str "$\x7bARGS.name\x7d"), ("Order", .int 3)]⟩).addStatement
    "BackendMenuExtra:x" ⟨some .deny, none, false, []⟩

/-- The policy of these entries that knows arguments only. -/
def menus : Policy :=
  ⟨menuTree, ⟨Table.ofPairs [("ARGS", Marker.Source.args)]⟩, ∅⟩

/-- The entry of the first menu is listed as it is decided, with the name that is given, and the
entry of the other menu is not listed. -/
theorem resources_agree_menus :
    (∃ entry, (menus.resources [("name", .str "Lucy")] "BackendMenu").get? "plugins" = some entry ∧
      menus.decide? [("name", .str "Lucy")] "backendmenu:plugins" = some entry.allows ∧
      (Entries.get? entry.metadata "Label").bind Json.str? = some "Lucy" ∧
      Entries.get? entry.metadata "Order" = some (.int 3)) ∧
    "x" ∉ (menus.resources [("name", .str "Lucy")] "BackendMenu").keys := by
  have hreachable : menuTree.Reachable := .addStatement (.addStatement .empty _ _) _ _
  have hmenu : "backendmenu:plugins" = Text.lowercase "BackendMenu" ++ ":" ++ "plugins" := by
    decide +kernel
  have hextra : "backendmenu:x" = Text.lowercase "BackendMenu" ++ ":" ++ "x" := by decide +kernel
  -- The first slot has the prefix and a colon in front, and the second one has not.
  obtain ⟨hheld, -⟩ :=
    resources_agree (p := menus) hreachable [("name", .str "Lucy")] hmenu (by decide)
  obtain ⟨-, hname⟩ :=
    resources_agree (p := menus) hreachable [("name", .str "Lucy")] hextra (by decide)
  obtain ⟨hlisted, hentries, -⟩ := hheld _ rfl
  obtain ⟨entry, hentry⟩ := hlisted.mpr ⟨true, by decide +kernel⟩
  obtain ⟨hdecided, hlistedAs⟩ := hentries entry hentry
  refine ⟨⟨entry, hentry, hdecided, ?_, ?_⟩, fun hmem => absurd (hname hmem) (by decide +kernel)⟩
  · -- The label has a marker and is resolved, and the number is left as it is.
    rw [hlistedAs.resolved "Label" (.str "$\x7bARGS.name\x7d") rfl]
    decide +kernel
  · exact hlistedAs.markerFree "Order" (.int 3) rfl nofun

end Policy

end AccessPolicy
