import AccessPolicy.Engine.Basic

/-!
# Texts that are no documents

An engine compiles texts in two ways. `Engine.compileTexts` goes through them one by one, writes to
the tree what the documents among them say, and skips the rest. `Engine.compileStrict` reads all of
them before it writes anything, and gives up at the first one that is no document.

Reading is all or nothing: both sections of a text are read before either is written
(`Document.ofText_of_entriesOf`), so a text that is skipped has left nothing behind. Hence the tree
of some texts is that of the documents among them (`Engine.compileTexts_eq`), and where there is no
other text the two ways come to the same tree. `Engine.compileStrict_compileTexts` puts this
together.
-/

namespace AccessPolicy

open Marker (Resolver)

/-! ## Reading texts -/

namespace Document

/-- The document that a text is, if it is one. -/
def ofText? (s : String) : Option Document :=
  (ofText s).toOption

/-- A text that reads as a document is one. -/
theorem ofText?_of_ok {s : String} {d : Document} (h : ofText s = .ok d) : ofText? s = some d := by
  rw [ofText?, h]
  rfl

/-- A text that does not read is no document. -/
theorem ofText?_of_error {s : String} {fault : Error} (h : ofText s = .error fault) :
    ofText? s = none := by
  rw [ofText?, h]
  rfl

/-- What is wrong with a text; nothing if it is a document. -/
def fault? (s : String) : Option Error :=
  match ofText s with
  | .ok _ => none
  | .error fault => some fault

/-- A text is a document exactly if nothing is wrong with it. -/
theorem fault?_eq_none_iff {s : String} : fault? s = none ↔ ∃ d, ofText s = .ok d := by
  unfold fault?
  rcases ofText s with fault | d
  · simp
  · simp

/-- What is wrong with a text is the error of reading it. -/
theorem fault?_eq_some_iff {s : String} {fault : Error} :
    fault? s = some fault ↔ ofText s = .error fault := by
  unfold fault?
  rcases ofText s with error | d
  · simp
  · simp

/-- A text that has a section which is no list of entries is no document, whatever the other section
may be. -/
theorem ofText_of_entriesOf {s : String} {root : Json.Fields} {part : Part} {fault : Error}
    (hs : Json.parse? s = some (.obj root)) (hpart : entriesOf part root = .error fault) :
    ∃ error, ofText s = .error error := by
  rw [ofText, hs]
  show ∃ error, ofJson (.obj root) = .error error
  rw [ofJson]
  rcases hstatements : entriesOf .statement root with error | statements
  · exact ⟨error, rfl⟩
  -- The section of statements is in order, so it is that of params which is not.
  cases part with
  | statement => exact nomatch hstatements.symm.trans hpart
  | param =>
    rw [hpart]
    exact ⟨fault, rfl⟩

/-- Reading several texts gives what is wrong with the first one that is no document and, if there
is none, the documents that they are. -/
theorem mapM_ofText (texts : List String) :
    texts.mapM ofText =
      match texts.findSome? fault? with
      | some fault => .error fault
      | none => .ok (texts.filterMap ofText?) := by
  induction texts with
  | nil => rfl
  | cons s texts ih =>
    rw [List.mapM_cons, ih, List.findSome?_cons, fault?]
    -- What is wrong with the first text goes before what is wrong with the others.
    rcases hs : ofText s with fault | d
    · rfl
    · rw [List.filterMap_cons_some (ofText?_of_ok hs)]
      rcases texts.findSome? fault? with _ | fault
      · rfl
      · rfl

end Document

/-! ## Compiling texts -/

namespace Tree

variable (r : Resolver) (args : Args)

/-- A text that is no document leaves a tree as it is. -/
theorem addText_of_error {s : String} {fault : Document.Error}
    (h : Document.ofText s = .error fault) (t : Tree) : addText r args t s = t := by
  rw [addText, h]

/-- Compiling texts one after the other into a tree compiles the documents among them. -/
theorem foldl_addText (texts : List String) (t : Tree) :
    texts.foldl (addText r args) t =
      (texts.filterMap Document.ofText?).foldl (addDocument r args) t := by
  induction texts generalizing t with
  | nil => rfl
  | cons s texts ih =>
    rw [List.foldl_cons, ih]
    rcases hs : Document.ofText s with fault | d
    · rw [List.filterMap_cons_none (Document.ofText?_of_error hs), addText_of_error r args hs]
    · rw [List.filterMap_cons_some (Document.ofText?_of_ok hs), List.foldl_cons, addText, hs]

end Tree

namespace Engine

/-- The tree of some texts is that of the documents among them. -/
theorem compileTexts_eq (e : Engine) (texts : List String) :
    e.compileTexts texts = e.compile [] (texts.filterMap Document.ofText?) :=
  Tree.foldl_addText e.resolver [] texts ∅

/-- Strict compiling fails with what is wrong with the first text that is no document and, if there
is none, gives the tree of the documents. -/
theorem compileStrict_eq (e : Engine) (texts : List String) :
    e.compileStrict texts =
      match texts.findSome? Document.fault? with
      | some fault => .error (.document fault)
      | none => .ok (e.compileTexts texts) := by
  rw [compileStrict, Document.mapM_ofText, compileTexts_eq]
  rcases texts.findSome? Document.fault? with _ | fault
  · rfl
  · rfl

/-- Some texts compile strictly exactly if each of them is a document, and then to the tree that
they compile to in any case. If not, the error is that of the first one that is none. Otherwise the
tree of some texts is that of the documents among them: a text that is none, even if it is only for
one of its sections, may be taken out. -/
theorem compileStrict_compileTexts (e : Engine) (texts : List String) :
    ((∃ t, e.compileStrict texts = .ok t) ↔ ∀ s ∈ texts, ∃ d, Document.ofText s = .ok d) ∧
    (∀ t, e.compileStrict texts = .ok t → t = e.compileTexts texts) ∧
    (∀ cause, e.compileStrict texts = .error cause ↔
      ∃ before s behind fault, texts = before ++ s :: behind ∧
        (∀ b ∈ before, ∃ d, Document.ofText b = .ok d) ∧
        Document.ofText s = .error fault ∧ cause = .document fault) ∧
    e.compileTexts texts =
      e.compile [] (texts.filterMap fun s => (Document.ofText s).toOption) ∧
    (∀ before s behind fault, texts = before ++ s :: behind → Document.ofText s = .error fault →
      e.compileTexts texts = e.compileTexts (before ++ behind)) ∧
    ∀ s root part fault, Json.parse? s = some (.obj root) →
      Document.entriesOf part root = .error fault → ∃ error, Document.ofText s = .error error := by
  -- Nothing is found wrong exactly if every text is a document.
  have hnone : texts.findSome? Document.fault? = none ↔
      ∀ s ∈ texts, ∃ d, Document.ofText s = .ok d := by
    rw [List.findSome?_eq_none_iff]
    simp only [Document.fault?_eq_none_iff]
  refine ⟨?_, fun t ht => ?_, fun cause => ?_, compileTexts_eq e texts,
    fun before s behind fault htexts hs => ?_,
    fun s root part fault => Document.ofText_of_entriesOf⟩
  · rw [compileStrict_eq, ← hnone]
    rcases texts.findSome? Document.fault? with _ | fault
    · simp
    · simp
  · rw [compileStrict_eq] at ht
    split at ht
    · exact nomatch ht
    · exact (Except.ok.inj ht).symm
  · -- What is found wrong first is the error.
    have hfirst : e.compileStrict texts = .error cause ↔
        ∃ fault, texts.findSome? Document.fault? = some fault ∧ cause = .document fault := by
      rw [compileStrict_eq]
      rcases texts.findSome? Document.fault? with _ | fault
      · simp
      · simp [eq_comm]
    rw [hfirst]
    simp only [List.findSome?_eq_some_iff, Document.fault?_eq_some_iff,
      Document.fault?_eq_none_iff]
    constructor
    · rintro ⟨fault, ⟨before, s, behind, htexts, hs, hbefore⟩, hcause⟩
      exact ⟨before, s, behind, fault, htexts, hbefore, hs, hcause⟩
    · rintro ⟨before, s, behind, fault, htexts, hbefore, hs, hcause⟩
      exact ⟨fault, ⟨before, s, behind, htexts, hs, hbefore⟩, hcause⟩
  · -- A text that is no document leaves the tree as the texts before it made it.
    rw [htexts, compileTexts, compileTexts, Tree.ofTexts, Tree.ofTexts, List.foldl_append,
      List.foldl_append, List.foldl_cons, Tree.addText_of_error e.resolver [] hs]

/-- A text with a statement. -/
def orderly : String :=
  "\x7b\"Statement\": \x7b\"Effect\": \"Allow\", \"Resource\": \"Post\"\x7d\x7d"

/-- A text with a statement about the same resource, and with a section of params that is none. -/
def disorderly : String :=
  "\x7b\"Param\": 5, \"Statement\": \x7b\"Effect\": \"Deny\", \"Resource\": \"Post\"\x7d\x7d"

/-- The section of params costs the second text its statement too, and it is what strict compiling
complains about, although the third text is not even JSON. -/
theorem compileStrict_compileTexts_disorderly :
    (bare .deny).compileStrict [orderly, disorderly, "["] =
        .error (.document (.notEntries .param)) ∧
      (bare .deny).compileTexts [orderly, disorderly, "["] =
        (bare .deny).compileTexts [orderly, "["] ∧
      ∃ t, (bare .deny).compileStrict [orderly] = .ok t ∧
        t = (bare .deny).compileTexts [orderly] := by
  have horderly : ∃ d, Document.ofText orderly = .ok d :=
    Document.fault?_eq_none_iff.mp (by decide +kernel)
  have hdisorderly : Document.ofText disorderly = .error (.notEntries .param) :=
    Document.fault?_eq_some_iff.mp (by decide +kernel)
  obtain ⟨-, -, herror, -, hskip, -⟩ :=
    compileStrict_compileTexts (bare .deny) [orderly, disorderly, "["]
  -- The first text alone compiles strictly, to the same tree.
  obtain ⟨hok, htree, -⟩ := compileStrict_compileTexts (bare .deny) [orderly]
  refine ⟨(herror _).mpr ⟨[orderly], disorderly, ["["], .notEntries .param, rfl, ?_, hdisorderly,
    rfl⟩, hskip [orderly] disorderly ["["] (.notEntries .param) rfl hdisorderly, ?_⟩
  · exact List.forall_mem_singleton.mpr horderly
  · obtain ⟨t, ht⟩ := hok.mpr (List.forall_mem_singleton.mpr horderly)
    exact ⟨t, ht, htree t ht⟩

end Engine

end AccessPolicy
