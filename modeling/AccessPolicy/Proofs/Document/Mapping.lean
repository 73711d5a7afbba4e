import AccessPolicy.Policy.Failure
import AccessPolicy.Proofs.Document.Directive
import AccessPolicy.Proofs.Marker.Division
import AccessPolicy.Proofs.Tree.Writes
import Mathlib.Tactic.LinearCombination
import Mathlib.Tactic.Ring

/-!
# The names of a mapping

A form is a text with places for a value (`Resource.Form`). A template becomes a form in two ways.
As it is written, its literal text has a place at each `%s`, and the answers to its markers have
none (`Resource.writtenForm`). The names of a mapping are made from the other form, for which the
places are looked for when the markers are resolved already (`Resource.resolvedForm`). What is put
in the places is not looked through again.

The two forms are the same unless an answer helps to spell a placeholder, that is, unless the
written form has a percent sign with an `s` behind it (`Resource.Form.Spells`). Then their texts
differ for every value but the placeholder itself (`Resource.filled_resolvedForm_iff`). For a value
of another length they differ in length, since there is a place more in the resolved form. For any
other value the first placeholder that is spelled stands in the one text where the value stands in
the other.
-/

namespace AccessPolicy

open Marker (Resolver)

namespace Resource

/-! ## Forms -/

/-- What stands for the value in a template. -/
def placeholder : List Char :=
  ['%', 's']

/-- A text with places for a value: its characters, and `none` for each place. -/
abbrev Form := List (Option Char)

namespace Form

/-- The text of a form with a value in its places. -/
def filled (form : Form) (value : List Char) : List Char :=
  form.flatMap fun
    | some c => [c]
    | none => value

/-- Whether two neighbouring characters of a form spell a placeholder. -/
def Spells (form : Form) : Prop :=
  [some '%', some 's'] <:+: form

/-- A form spells a placeholder with its first two characters or further on. -/
theorem spells_cons_iff {part : Option Char} {form : Form} :
    Spells (part :: form) ↔ part = some '%' ∧ form.head? = some (some 's') ∨ Spells form := by
  rw [Spells, Spells, List.infix_cons_iff, List.cons_prefix_cons,
    List.singleton_prefix_iff_head?_eq_some, eq_comm]

/-- A text without places is the same with any value. -/
theorem filled_map_some (cs value : List Char) : filled (cs.map some) value = cs := by
  rw [filled, List.flatMap_map, List.flatMap_singleton']

/-- A form starts with an `s` if its text does, since a place is filled with a percent sign in
front. -/
theorem head?_filled {form : Form} :
    (form.filled placeholder).head? = some 's' ↔ form.head? = some (some 's') := by
  rcases form with _ | ⟨_ | c, form⟩
  · exact iff_of_false nofun nofun
  · exact iff_of_false (by simp [filled, placeholder]) (by simp)
  · simp [filled]

/-- Each place makes a text longer by as much as the value is longer than a placeholder. -/
theorem length_filled (form : Form) (value : List Char) : ((form.filled value).length : ℤ) =
    (form.filled placeholder).length + form.count none * (value.length - 2) := by
  induction form with
  | nil => exact (zero_add _).symm.trans (congrArg _ (zero_mul _).symm)
  | cons part form ih =>
    rw [filled, filled, List.flatMap_cons, List.flatMap_cons, ← filled, ← filled,
      List.length_append, List.length_append]
    -- A fixed character counts alike on both sides, and a place as the difference.
    cases part with
    | some c =>
      rw [List.count_cons_of_ne (Option.some_ne_none c)]
      push_cast
      rw [ih]
      ring
    | none =>
      have hplaceholder : placeholder.length = 2 := rfl
      rw [List.count_cons_self, hplaceholder]
      push_cast
      rw [ih]
      ring

end Form

/-- The form of a text, with a place at each placeholder. -/
def formOf : List Char → Form
  | '%' :: 's' :: cs => none :: formOf cs
  | c :: cs => some c :: formOf cs
  | [] => []

/-- A character with which no placeholder starts is part of the form. -/
theorem formOf_cons {c : Char} {cs : List Char} (h : ¬(c = '%' ∧ cs.head? = some 's')) :
    formOf (c :: cs) = some c :: formOf cs := by
  rw [formOf.eq_def]
  split
  · next heq =>
    obtain ⟨rfl, rfl⟩ := List.cons.inj heq
    exact absurd ⟨rfl, rfl⟩ h
  · next heq =>
    obtain ⟨rfl, rfl⟩ := List.cons.inj heq
    rfl
  · next heq => exact absurd heq (List.cons_ne_nil c cs)

/-- The form of a text is that text with a placeholder in each place. -/
theorem filled_formOf (cs : List Char) : (formOf cs).filled placeholder = cs := by
  fun_induction formOf cs with
  | case1 cs ih => exact congrArg (placeholder ++ ·) ih
  | case2 c cs _ ih => exact congrArg (c :: ·) ih
  | case3 => rfl

/-- To put a value in place of every placeholder is to fill the form of the text. -/
theorem fill_eq_filled (value cs : List Char) : fill value cs = (formOf cs).filled value := by
  fun_induction formOf cs with
  | case1 cs ih =>
    rw [fill, ih]
    rfl
  | case2 c cs hstart ih =>
    rw [fill, ih]
    · rfl
    · exact hstart
  | case3 => rfl

variable {form : Form} {part : Option Char}

/-- Two characters that spell a placeholder make a place when the text is read again. -/
theorem formOf_filled_spelled (rest : Form) :
    formOf (Form.filled (some '%' :: some 's' :: rest) placeholder) =
      none :: formOf (rest.filled placeholder) :=
  rfl

/-- Any other part stays what it is when the text is read again. -/
theorem formOf_filled_cons (h : ¬(part = some '%' ∧ form.head? = some (some 's'))) :
    formOf (Form.filled (part :: form) placeholder) = part :: formOf (form.filled placeholder) := by
  cases part with
  | none => rfl
  | some c =>
    refine formOf_cons fun hstart => h ?_
    exact ⟨congrArg some hstart.1, Form.head?_filled.mp hstart.2⟩

/-- No place is lost when the text of a form is read again. -/
theorem count_le_count_formOf (form : Form) :
    form.count none ≤ (formOf (form.filled placeholder)).count none := by
  induction form with
  | nil => exact Nat.le_refl 0
  | cons part form ih =>
    by_cases hfront : part = some '%' ∧ form.head? = some (some 's')
    · -- The form without its percent sign has the places of what stands behind the two characters.
      obtain ⟨rfl, hhead⟩ := hfront
      obtain ⟨rest, rfl⟩ : ∃ rest : Form, form = some 's' :: rest := List.head?_eq_some_iff.mp hhead
      have hletter : formOf (Form.filled (some 's' :: rest) placeholder) =
          some 's' :: formOf (rest.filled placeholder) :=
        formOf_filled_cons fun h => absurd h.1 (by decide)
      have hkept : ∀ (c : Char) (form : Form), List.count none (some c :: form) = form.count none :=
        fun c _ => List.count_cons_of_ne (Option.some_ne_none c)
      rw [hletter, hkept, hkept] at ih
      rw [formOf_filled_spelled, List.count_cons_self, hkept, hkept]
      exact Nat.le_succ_of_le ih
    · rw [formOf_filled_cons hfront, List.count_cons, List.count_cons]
      exact Nat.add_le_add_right ih _

/-- A form comes back from its text unless it spells a placeholder. -/
theorem formOf_filled_iff : formOf (form.filled placeholder) = form ↔ ¬form.Spells := by
  induction form with
  | nil => exact iff_of_true rfl fun h => nomatch List.infix_nil.mp h
  | cons part form ih =>
    rw [Form.spells_cons_iff, not_or, ← ih]
    by_cases hfront : part = some '%' ∧ form.head? = some (some 's')
    · -- Read again, the form starts with a place.
      refine iff_of_false (fun heq => ?_) fun h => h.1 hfront
      obtain ⟨rfl, hhead⟩ := hfront
      obtain ⟨rest, rfl⟩ : ∃ rest : Form, form = some 's' :: rest := List.head?_eq_some_iff.mp hhead
      exact nomatch (List.cons.inj heq).1
    · rw [formOf_filled_cons hfront, List.cons_inj_right]
      exact (and_iff_right hfront).symm

/-- A value in front of the places that are found in the text of a form makes the same text as the
placeholder in front of the places of the form only if it is as long as the placeholder: no fewer
places are found than there are. -/
theorem length_eq_of_filled_append {value : List Char} {rest : Form}
    (h : value ++ (formOf (rest.filled placeholder)).filled value =
      placeholder ++ rest.filled value) : value.length = placeholder.length := by
  have hlengths := congrArg (fun cs => (cs.length : ℤ)) h
  have hfound := Form.length_filled (formOf (rest.filled placeholder)) value
  have hrest := Form.length_filled rest value
  have hcount := count_le_count_formOf rest
  have hplaceholder : placeholder.length = 2 := rfl
  rw [filled_formOf] at hfound
  simp only [List.length_append, hplaceholder] at hlengths
  push_cast at hlengths
  -- Each place adds as much as the value is longer than the placeholder, and so does the value
  -- itself.
  have hzero : ((value.length : ℤ) - 2) *
      ((formOf (rest.filled placeholder)).count none - rest.count none + 1) = 0 := by
    linear_combination hlengths - hfound + hrest
  rcases mul_eq_zero.mp hzero with hvalue | hplaces
  · omega
  · omega

/-- If a form spells a placeholder, only the placeholder itself gives the same text when it is put
in the places of the form and when it is put in those that are found in the text of the form. -/
theorem eq_placeholder_of_spells {value : List Char} (hspells : form.Spells)
    (h : (formOf (form.filled placeholder)).filled value = form.filled value) :
    value = placeholder := by
  induction form with
  | nil => exact nomatch List.infix_nil.mp hspells
  | cons part form ih =>
    by_cases hfront : part = some '%' ∧ form.head? = some (some 's')
    · -- The value stands here where the placeholder is spelled, so it is the placeholder if it has
      -- the same length. Otherwise the one place more would have made the text longer or shorter.
      obtain ⟨rfl, hhead⟩ := hfront
      obtain ⟨rest, rfl⟩ : ∃ rest : Form, form = some 's' :: rest := List.head?_eq_some_iff.mp hhead
      have htexts : value ++ (formOf (rest.filled placeholder)).filled value =
          placeholder ++ rest.filled value := h
      exact (List.append_inj htexts (length_eq_of_filled_append htexts)).1
    · refine ih ((Form.spells_cons_iff.mp hspells).resolve_left hfront) ?_
      rw [formOf_filled_cons hfront] at h
      exact List.append_cancel_left h

/-! ## The two forms of a template -/

variable (r : Resolver) (args : Args) (template : List Char)

/-- The form of a template as it is written: the literal text has a place at each placeholder, and
the texts of the answers to the markers have none. -/
def writtenForm : Form :=
  (Marker.segments template).flatMap fun
    | .text literal => formOf literal
    | .marker token => (Marker.spliced (r.lookup args token)).toList.map some

/-- The form of a template when its markers are resolved. -/
def resolvedForm : Form :=
  formOf ((Marker.segments template).flatMap (r.segmentChars args))

/-- With a placeholder in its places, the written form is what the template resolves to. -/
theorem filled_writtenForm : (writtenForm r args template).filled placeholder =
    (Marker.segments template).flatMap (r.segmentChars args) := by
  rw [writtenForm, Form.filled, List.flatMap_assoc]
  refine congrArg (List.flatMap · (Marker.segments template)) (funext fun seg => ?_)
  cases seg with
  | text literal => exact filled_formOf literal
  | marker token => exact Form.filled_map_some _ placeholder

/-- The two forms are the same unless an answer helps to spell a placeholder. -/
theorem resolvedForm_eq_iff :
    resolvedForm r args template = writtenForm r args template ↔
      ¬(writtenForm r args template).Spells := by
  rw [resolvedForm, ← filled_writtenForm]
  exact formOf_filled_iff

/-- A value gives the same text in both forms unless an answer helps to spell a placeholder; then
only the placeholder itself does. -/
theorem filled_resolvedForm_iff {value : List Char} :
    (resolvedForm r args template).filled value = (writtenForm r args template).filled value ↔
      value = placeholder ∨ ¬(writtenForm r args template).Spells := by
  constructor
  · intro h
    rw [resolvedForm, ← filled_writtenForm] at h
    by_cases hspells : (writtenForm r args template).Spells
    · exact .inl (eq_placeholder_of_spells hspells h)
    · exact .inr hspells
  · rintro (rfl | hspells)
    · rw [resolvedForm, filled_formOf, filled_writtenForm]
    · rw [(resolvedForm_eq_iff r args template).mpr hspells]

/-- A text resolves to the texts of its parts, whether it has markers or not. -/
theorem resolved_toList (raw : String) : (resolved r args raw).toList =
    (Marker.segments raw.toList).flatMap (r.segmentChars args) := by
  rw [resolved]
  split
  · exact r.resolveText_toList args raw
  · next hmarker =>
    -- Without a marker the parts are literal text and make up the text itself.
    have htexts : (Marker.segments raw.toList).flatMap (r.segmentChars args) =
        (Marker.segments raw.toList).flatMap Marker.Segment.source := by
      refine List.flatMap_congr fun seg hseg => ?_
      cases seg with
      | text literal => rfl
      | marker token => exact absurd (List.any_eq_true.mpr ⟨_, hseg, rfl⟩) hmarker
    rw [htexts, Marker.source_segments]

/-! ## Names and slots -/

variable {raw : String} {template expression : List Char}

/-- The names of a mapping are made from the form of its template when the markers are resolved. -/
theorem names_of_isMapping (h : IsMapping raw.toList template expression) :
    names r args raw = ((mappedTexts (expressionValue r args expression)).map fun text =>
      String.ofList ((resolvedForm r args template).filled text.toList)).filter
        fun name => name ≠ "" := by
  -- The markers of the template are resolved before the placeholder is looked for.
  have htemplate : (resolved r args (String.ofList template)).toList =
      (Marker.segments template).flatMap (r.segmentChars args) := by
    rw [resolved_toList, String.toList_ofList]
  have hcandidates : candidates r args raw =
      (mappedTexts (expressionValue r args expression)).map fun text =>
        String.ofList ((resolvedForm r args template).filled text.toList) := by
    rw [candidates, mapping?_eq_some_iff.mpr h]
    refine List.map_congr_left fun text _ => ?_
    rw [htemplate, fill_eq_filled, resolvedForm]
  rw [names, hcandidates]

/-- The names of a mapping depend on the tokens of the expression, which is a token itself if it has
no marker, and on those of the template. -/
theorem tokens_of_isMapping (h : IsMapping raw.toList template expression) :
    tokens raw = (if Marker.hasMarker (String.ofList expression) then
        Marker.tokens (String.ofList expression) else [expression]) ++
      Marker.tokens (String.ofList template) := by
  rw [tokens, mapping?_eq_some_iff.mpr h]

/-- The names of a mapping are, in order, the texts of the resolved form with each text that the
expression stands for, the empty one being dropped. The form does not depend on what is put in, and
it is the written form unless an answer to a marker helps to spell a placeholder; then every value
but the placeholder itself gives another text than in the written form. A statement about the
mapping takes just the slots of these names with its actions, and can be compiled unless an answer
to the expression or to a marker of the template cannot be written. -/
theorem names_mapping (h : IsMapping raw.toList template expression) :
    names r args raw = ((mappedTexts (expressionValue r args expression)).map fun text =>
      String.ofList ((resolvedForm r args template).filled text.toList)).filter
        (fun name => name ≠ "") ∧
    (resolvedForm r args template = writtenForm r args template ↔
      ¬(writtenForm r args template).Spells) ∧
    (∀ value,
      (resolvedForm r args template).filled value = (writtenForm r args template).filled value ↔
        value = placeholder ∨ ¬(writtenForm r args template).Spells) ∧
    ∀ (d : Document) (actions : List String) (s : Statement),
      d.statements = [⟨[raw], actions, s⟩] →
      (∀ slot held, (Tree.ofDocuments r args [d]).statements.get? slot = some held ↔
        (∃ name ∈ names r args raw, ∃ action ∈ actions, slot = slotOf name action) ∧ held = s) ∧
      (d.params = [] → (d.fails r args = true ↔
        (∃ token ∈ if Marker.hasMarker (String.ofList expression) then
            Marker.tokens (String.ofList expression) else [expression], r.fails args token = true) ∨
          ∃ token ∈ Marker.tokens (String.ofList template), r.fails args token = true)) := by
  refine ⟨names_of_isMapping r args h, resolvedForm_eq_iff r args template,
    fun value => filled_resolvedForm_iff r args template,
    fun d actions s hd => ⟨?_, fun hparams => ?_⟩⟩
  · -- The one statement takes the slots of its names with each of its actions.
    intro slot held
    rw [Tree.statements_get?_ofDocuments_singleton hd, StatementDeclaration.slots,
      StatementDeclaration.names, List.flatMap_singleton]
    refine and_congr_left fun _ => ?_
    simp only [List.mem_flatMap, List.mem_map, eq_comm]
  · -- Nothing else is resolved in a document with this statement alone.
    have hfails : d.fails r args = (tokens raw).any (r.fails args) := by
      rw [Document.fails, hd, hparams, List.any_cons, List.any_nil, List.any_nil, List.any_cons,
        List.any_nil, Bool.or_false, Bool.or_false, Bool.or_false, Resolver.failsAny]
    rw [hfails, tokens_of_isMapping h, List.any_append, Bool.or_eq_true, List.any_eq_true,
      List.any_eq_true]

/-- A resolver that knows arguments only. -/
def argumentsOnly : Resolver :=
  ⟨Table.ofPairs [("ARGS", .args)]⟩

/-- The posts whose numbers are given. -/
def numberedPosts : String :=
  "Post:%s\tMAP  to $\x7bARGS.ids\x7d "

/-- Three things given for numbers, two of which look like something else. -/
def numbers : Args :=
  [("ids", .arr [.int 1, .null, .str "%s", .str "$\x7bARGS.ids\x7d"])]

/-- A document that makes a statement about these posts and about editing them. -/
def aboutPosts (s : Statement) : Document :=
  ⟨[⟨[numberedPosts], ["", "edit"], s⟩], []⟩

/-- There is a post for each number, under the number as it is given. The statement takes the slots
of all of them, and no others. -/
theorem names_mapping_posts :
    names argumentsOnly numbers numberedPosts = ["Post:1", "Post:%s", "Post:$\x7bARGS.ids\x7d"] ∧
    ∀ s : Statement,
      (Tree.ofDocuments argumentsOnly numbers [aboutPosts s]).statements.get? "post:%s:edit" =
        some s ∧
      (Tree.ofDocuments argumentsOnly numbers [aboutPosts s]).statements.get? "post:2" ≠
        some s := by
  have hmapping : IsMapping numberedPosts.toList "Post:%s".toList "$\x7bARGS.ids\x7d".toList :=
    mapping?_eq_some_iff.mp (by decide +kernel)
  obtain ⟨hmapped, -, -, hstatement⟩ := names_mapping argumentsOnly numbers hmapping
  have hnames : names argumentsOnly numbers numberedPosts =
      ["Post:1", "Post:%s", "Post:$\x7bARGS.ids\x7d"] := by
    rw [hmapped]
    decide +kernel
  refine ⟨hnames, fun s => ?_⟩
  -- The slots are the three names with and without the action, in lower case.
  obtain ⟨hslots, -⟩ := hstatement (aboutPosts s) ["", "edit"] s rfl
  simp only [hnames] at hslots
  refine ⟨(hslots _ _).mpr ⟨by decide +kernel, rfl⟩, fun hheld => ?_⟩
  exact absurd ((hslots _ _).mp hheld).1 (by decide +kernel)

/-- The posts of a kind, whose numbers are given. -/
def kindPosts : String :=
  "Post:%s:$\x7bARGS.kind\x7d map to $\x7bARGS.ids\x7d"

/-- A number for posts of a kind that is called like a placeholder. -/
def oddKind : Args :=
  [("ids", .arr [.str "1"]), ("kind", .str "%s")]

/-- The number of a post also replaces the kind if that is called like a placeholder. As the
resource is written, the number has one place and the kind keeps its name. -/
theorem names_mapping_kind :
    ∃ template expression, IsMapping kindPosts.toList template expression ∧
      names argumentsOnly oddKind kindPosts = ["Post:1:1"] ∧
      ((mappedTexts (expressionValue argumentsOnly oddKind expression)).map fun text =>
        String.ofList ((writtenForm argumentsOnly oddKind template).filled text.toList)) =
        ["Post:1:%s"] := by
  refine ⟨"Post:%s:$\x7bARGS.kind\x7d".toList, "$\x7bARGS.ids\x7d".toList,
    mapping?_eq_some_iff.mp ?_, ?_, ?_⟩
  · decide +kernel
  · decide +kernel
  · decide +kernel

end Resource

end AccessPolicy
