import AccessPolicy.Engine.Basic
import AccessPolicy.Proofs.Policy.Listing
import Mathlib.Data.List.Lex

/-!
# The entry without a name

Two slots are listed without a name under a prefix: the prefix itself, which is the bare resource,
and the prefix with a colon and nothing behind it. The second kind comes about when the last part of
a resource resolves to nothing. A listing has room for one of the two, and since slots are gone
through in order it is the one with the colon that stays (`Policy.get?_resources_colon`). The bare
resource is listed where that slot holds no statement that applies, and every other statement under
the prefix is listed in any case, since its name is that of no other slot
(`Policy.resources_nameless`).
-/

namespace AccessPolicy

namespace Table

variable {α : Type}

/-- Of the pairs that a table is made of, the last one of its name is what the table has. -/
theorem get?_ofPairs_append_cons {before behind : List (String × α)} {k : String} {v : α}
    (h : ∀ w, (k, w) ∉ behind) : (ofPairs (before ++ (k, v) :: behind)).get? k = some v := by
  have hbehind : writtenTo k behind = [] := by
    refine List.eq_nil_iff_forall_not_mem.mpr fun w hw => ?_
    exact h w (mem_writtenTo_iff.mp hw)
  have hwritten : writtenTo k (before ++ (k, v) :: behind) = writtenTo k before ++ [v] := by
    calc writtenTo k (before ++ (k, v) :: behind)
        = writtenTo k before ++ writtenTo k ((k, v) :: behind) := by
          simp only [writtenTo, List.filter_append, List.map_append]
      _ = writtenTo k before ++ v :: writtenTo k behind := by
          rw [show k = (k, v).1 from rfl, writtenTo_cons_self]
      _ = writtenTo k before ++ [v] := by rw [hbehind]
  rw [get?_ofPairs, hwritten, List.getLast?_concat]

/-- What a table has is one of the pairs that it is made of. -/
theorem mem_of_get?_ofPairs {pairs : List (String × α)} {k : String} {v : α}
    (h : (ofPairs pairs).get? k = some v) : (k, v) ∈ pairs := by
  rw [get?_ofPairs] at h
  exact mem_writtenTo_iff.mp (List.mem_of_getLast? h)

end Table

namespace Policy

variable {p : Policy} {args : Args} {start : String}

/-- A text comes before the same text with a colon behind it. -/
theorem lt_append_colon (slot : String) : slot < slot ++ ":" := by
  have hlex : List.Lex (· < ·) (slot.toList ++ []) (slot.toList ++ [':']) :=
    List.Lex.append_left _ .nil _
  rw [List.append_nil] at hlex
  show slot.toList < (slot ++ ":").toList
  rw [String.toList_append]
  exact hlex

/-- The entries that a listing is made of are those of the statements that apply, each under the
name that its slot has under the prefix. -/
theorem mem_listed_iff {bare suffix : String} {entry : Statement} :
    (suffix, entry) ∈ p.tree.statements.entries.filterMap (p.listed? args bare) ↔
      ∃ slot held, p.tree.statements.get? slot = some held ∧ p.applies args held.condition = true ∧
        (slot = bare ∧ suffix = "" ∨ slot = bare ++ ":" ++ suffix) ∧
        p.resolveMetadata args held = entry := by
  simp only [List.mem_filterMap, Prod.exists, Table.mem_entries_iff, listed?_eq_some_iff,
    suffix?_eq_some_iff]

/-- A statement in the slot of the prefix with a colon and a name is listed under that name if it
applies, even if the name is empty. -/
theorem get?_resources_colon {suffix : String} {held : Statement}
    (hheld : p.tree.statements.get? (Text.lowercase start ++ ":" ++ suffix) = some held)
    (happlies : p.applies args held.condition = true) :
    (p.resources args start).get? suffix = some (p.resolveMetadata args held) := by
  by_cases hsuffix : suffix = ""
  · subst hsuffix
    rw [String.append_empty] at hheld
    obtain ⟨before, behind, hentries⟩ :=
      List.append_of_mem ((p.tree.statements.mem_entries_iff _ _).mpr hheld)
    -- Slots are in order, so neither of the two without a name stands behind the one with the
    -- colon.
    have hlast : ∀ entry, ("", entry) ∉
        behind.filterMap (p.listed? args (Text.lowercase start)) := by
      intro entry hentry
      obtain ⟨⟨slot, other⟩, hmem, hlisted⟩ := List.mem_filterMap.mp hentry
      have hsorted := p.tree.statements.sorted
      rw [hentries] at hsorted
      have hlt : Text.lowercase start ++ ":" < slot :=
        List.rel_of_pairwise_cons (List.pairwise_append.mp hsorted).2.1 hmem
      rcases suffix?_eq_some_iff.mp (listed?_eq_some_iff.mp hlisted).2.1 with ⟨rfl, -⟩ | rfl
      · exact String.lt_irrefl _ (String.lt_trans hlt (lt_append_colon _))
      · rw [String.append_empty] at hlt
        exact String.lt_irrefl _ hlt
    have hown : p.listed? args (Text.lowercase start) (Text.lowercase start ++ ":", held) =
        some ("", p.resolveMetadata args held) := by
      refine listed?_eq_some_iff.mpr ⟨happlies, suffix?_eq_some_iff.mpr (.inr ?_), rfl⟩
      rw [String.append_empty]
    rw [resources, hentries, List.filterMap_append, List.filterMap_cons_some hown]
    exact Table.get?_ofPairs_append_cons hlast
  · exact (get?_resources p args start hsuffix _).mpr ⟨held, hheld, happlies, rfl⟩

/-- The bare resource is listed unless a statement in the slot with the colon takes its place. -/
theorem get?_resources_bare {held : Statement}
    (hheld : p.tree.statements.get? (Text.lowercase start) = some held)
    (happlies : p.applies args held.condition = true) :
    (p.resources args start).get? "" = some (p.resolveMetadata args held) ↔
      ∀ other, p.tree.statements.get? (Text.lowercase start ++ ":") = some other →
        p.applies args other.condition = true →
        p.resolveMetadata args other = p.resolveMetadata args held := by
  constructor
  · -- The other statement is listed without a name as well, so that it is the one that is found.
    intro hlisted other hother hothers
    rw [← String.append_empty (s := Text.lowercase start ++ ":")] at hother
    have hplace := get?_resources_colon hother hothers
    exact Option.some_inj.mp (hplace.symm.trans hlisted)
  · intro hothers
    -- Whatever else is listed without a name is resolved to the same entry.
    have hagree : ∀ entry, ("", entry) ∈
          p.tree.statements.entries.filterMap (p.listed? args (Text.lowercase start)) →
        entry = p.resolveMetadata args held := by
      intro entry hentry
      obtain ⟨slot, other, hother, happlies, hslot, rfl⟩ := mem_listed_iff.mp hentry
      rcases hslot with ⟨rfl, -⟩ | rfl
      · rw [Option.some_inj.mp (hother.symm.trans hheld)]
      · rw [String.append_empty] at hother
        exact hothers other hother happlies
    rw [resources, Table.get?_ofPairs_eq_some_iff fun v w hv hw =>
      (hagree v hv).trans (hagree w hw).symm]
    exact mem_listed_iff.mpr ⟨_, held, hheld, happlies, .inl ⟨rfl, rfl⟩, rfl⟩

/-- A listing cannot be answered exactly if there is a statement, in the slot of the prefix or of
the prefix with a colon and anything behind it, of which it cannot be told whether it applies, or
which applies and has a marker in its metadata that cannot be answered. -/
theorem listingFails_iff :
    p.listingFails args start = true ↔
      ∃ slot held, p.tree.statements.get? slot = some held ∧
        (slot = Text.lowercase start ∨ ∃ suffix, slot = Text.lowercase start ++ ":" ++ suffix) ∧
        p.entryFails args held.condition (Marker.tokensOfFields held.metadata) = true := by
  have hunder : ∀ slot, (suffix? (Text.lowercase start) slot).isSome = true ↔
      slot = Text.lowercase start ∨ ∃ suffix, slot = Text.lowercase start ++ ":" ++ suffix := by
    intro slot
    simp only [Option.isSome_iff_exists, suffix?_eq_some_iff, exists_or, exists_and_left,
      exists_eq, and_true]
  simp only [listingFails, List.any_eq_true, Prod.exists, Table.mem_entries_iff, Bool.and_eq_true,
    hunder]

/-- Under a prefix, the statements that apply are listed by what their slots have behind the prefix
and a colon, and nothing else is listed. The bare resource is listed without a name exactly if no
other statement takes its place, which is one that applies in the slot of the prefix with only a
colon behind it; that one is listed without a name as well. The listing can be answered exactly if
that is so of each statement in it. -/
theorem resources_nameless (p : Policy) (args : Args) (start : String) :
    (∀ held, p.tree.statements.get? (Text.lowercase start) = some held →
      p.applies args held.condition = true →
      ((p.resources args start).get? "" = some (p.resolveMetadata args held) ↔
        ∀ other, p.tree.statements.get? (Text.lowercase start ++ ":") = some other →
          p.applies args other.condition = true →
          p.resolveMetadata args other = p.resolveMetadata args held)) ∧
    (∀ suffix held,
      p.tree.statements.get? (Text.lowercase start ++ ":" ++ suffix) = some held →
      p.applies args held.condition = true →
      (p.resources args start).get? suffix = some (p.resolveMetadata args held)) ∧
    (∀ suffix entry, (p.resources args start).get? suffix = some entry →
      ∃ slot held, p.tree.statements.get? slot = some held ∧
        p.applies args held.condition = true ∧
        (slot = Text.lowercase start ∧ suffix = "" ∨ slot = Text.lowercase start ++ ":" ++ suffix) ∧
        p.resolveMetadata args held = entry) ∧
    (p.listingFails args start = true ↔
      ∃ slot held, p.tree.statements.get? slot = some held ∧
        (slot = Text.lowercase start ∨ ∃ suffix, slot = Text.lowercase start ++ ":" ++ suffix) ∧
        p.entryFails args held.condition (Marker.tokensOfFields held.metadata) = true) := by
  refine ⟨fun held => get?_resources_bare, fun suffix held => get?_resources_colon,
    fun suffix entry hentry => ?_, listingFails_iff⟩
  exact mem_listed_iff.mp (Table.mem_of_get?_ofPairs hentry)

/-- All posts are open, a post without a name is closed while it is a draft, and the first post is
closed. -/
def draftsTree : Tree :=
  ((Tree.addStatement ∅ "Post" ⟨some .allow, none, false, []⟩).addStatement "Post:"
    ⟨some .deny, some (.obj [("Equals", .obj [("$\x7bARGS.draft\x7d", .bool true)])]), false,
      []⟩).addStatement "Post:1" ⟨some .deny, none, false, []⟩

/-- The policy of these posts. -/
def drafts : Policy :=
  ⟨draftsTree, ⟨Table.ofPairs [("ARGS", Marker.Source.args)]⟩, ∅⟩

/-- A draft takes the place of the bare resource in the listing of posts, and leaves the first post
alone. Where there is no draft the bare resource is listed. -/
theorem resources_nameless_drafts :
    ((drafts.resources [("draft", .bool true)] "Post").get? "").map Statement.allows = some false ∧
    ((drafts.resources [("draft", .bool true)] "Post").get? "1").map Statement.allows =
      some false ∧
    ((drafts.resources [] "Post").get? "").map Statement.allows = some true := by
  have hbare : Text.lowercase "Post" = "post" := by decide +kernel
  have hcolon : Text.lowercase "Post" ++ ":" ++ "" = "post:" := by decide +kernel
  have hfirst : Text.lowercase "Post" ++ ":" ++ "1" = "post:1" := by decide +kernel
  -- With a draft both slots apply, and the one with the colon takes the place.
  obtain ⟨-, hdraft, -⟩ := resources_nameless drafts [("draft", .bool true)] "Post"
  obtain ⟨hplain, -⟩ := resources_nameless drafts [] "Post"
  refine ⟨?_, ?_, ?_⟩
  · rw [hdraft "" _ (by rw [hcolon]; rfl) (by decide +kernel)]
    rfl
  · rw [hdraft "1" _ (by rw [hfirst]; rfl) (by decide +kernel)]
    rfl
  · -- Without a draft the condition of that slot does not hold.
    rw [(hplain _ (by rw [hbare]; rfl) (by decide +kernel)).mpr ?_]
    · rfl
    · intro other hother happlies
      rw [hbare] at hother
      obtain rfl := Option.some_inj.mp hother
      exact absurd happlies (by decide +kernel)

/-- A document that opens posts, and closes those of an author who may not be given. -/
def authorship : Json :=
  .obj [("Statement", .arr [
    .obj [("Effect", .str "Allow"), ("Resource", .str "Post")],
    .obj [("Effect", .str "Deny"), ("Resource", .str "Post:$\x7bARGS.author\x7d")]])]

/-- The policy of a document that is compiled without arguments. -/
def compiled (document : Document) : Policy :=
  let e := (Engine.bare .deny).registerSource "ARGS" .args
  e.policy (e.compile [] [document])

/-- Without an author posts are open, but all that is listed under them is that they are closed. -/
theorem resources_authorless :
    ∃ d, Document.ofJson authorship = .ok d ∧ (compiled d).decide? [] "Post" = some true ∧
      ((compiled d).tree.statements.get? (Text.lowercase "Post")).map Statement.allows =
        some true ∧
      ((compiled d).resources [] "Post").entries.map (fun e => (e.1, e.2.allows)) =
        [("", false)] := by
  refine ⟨_, rfl, ?_, ?_, ?_⟩
  · decide +kernel
  · decide +kernel
  · decide +kernel

end Policy

end AccessPolicy
