import AccessPolicy.Engine.Basic
import AccessPolicy.Proofs.Marker.Division
import AccessPolicy.Proofs.Marker.Strings
import AccessPolicy.Proofs.Tree.Writes
import AccessPolicy.Proofs.Value.Literal

/-!
# Params are read in two phases

When a param is compiled, the strings of its value without markers are read as literals, and when it
is read, the markers in the strings that are left are resolved (`Value.ofMarkerFree`,
`Value.resolveMarkers`). An operand of a condition is resolved first and read as a literal
afterwards. The two orders agree on every value that hides no marker
(`Value.resolveMarkers_ofMarkerFree`).

A string hides a marker if it holds none itself, but the value that it is a literal of does. Only
the literal of an array can (`Value.markerFree_ofLiteral`): its text is JSON, in which a dollar sign
or a brace may be written as an escape, and the text behind any other type is kept as it is. What
was hidden is taken for a marker when the param is read, so that the value then depends on the
arguments. Where there is no source at all, no text with a marker resolves to itself, and so every
hidden marker makes a difference to some engine (`Engine.param?_two_phases`).
-/

namespace AccessPolicy

open Marker (Resolver Segment hasMarker segments)

/-! ## The strings of values -/

namespace Value

mutual

/-- The strings of a value at any depth; names of fields do not count. -/
def strings : Value → List String
  | .str s => [s]
  | .arr items => stringsOfItems items
  | .obj fields => stringsOfFields fields
  | _ => []

/-- The strings of the elements of an array. -/
def stringsOfItems : List Value → List String
  | [] => []
  | v :: vs => v.strings ++ stringsOfItems vs

/-- The strings of the fields of an object. -/
def stringsOfFields : List (String × Value) → List String
  | [] => []
  | (_, v) :: fs => v.strings ++ stringsOfFields fs

end

/-- Whether no string of a value holds a marker. -/
def MarkerFree (v : Value) : Prop :=
  ∀ s ∈ v.strings, hasMarker s = false

/-! ## Values without markers -/

section Resolve

variable (r : Resolver) (args : Args)

mutual

/-- A value without markers resolves to itself. -/
theorem resolveMarkers_of_markerFree : ∀ {v : Value}, (∀ s ∈ v.strings, hasMarker s = false) →
    v.resolveMarkers r args = v
  | .str s, h => by
    rw [resolveMarkers, h s (List.mem_singleton_self s)]
    rfl
  | .arr items, h => by
    rw [resolveMarkers, resolveMarkersItems_of_markerFree h]
  | .obj fields, h => by
    rw [resolveMarkers, resolveMarkersFields_of_markerFree h]
  | .null, _ | .bool _, _ | .int _, _ | .float _, _ | .address _, _ | .instant _, _
  | .network _, _ | .invalid _, _ => by simp only [resolveMarkers]

/-- The same for the elements of an array. -/
theorem resolveMarkersItems_of_markerFree : ∀ {items : List Value},
    (∀ s ∈ stringsOfItems items, hasMarker s = false) → resolveMarkersItems r args items = items
  | [], _ => rfl
  | v :: vs, h => by
    obtain ⟨hv, hvs⟩ := List.forall_mem_append.mp h
    rw [resolveMarkersItems, resolveMarkers_of_markerFree hv, resolveMarkersItems_of_markerFree hvs]

/-- The same for the fields of an object. -/
theorem resolveMarkersFields_of_markerFree : ∀ {fields : List (String × Value)},
    (∀ s ∈ stringsOfFields fields, hasMarker s = false) →
    resolveMarkersFields r args fields = fields
  | [], _ => rfl
  | (k, v) :: fs, h => by
    obtain ⟨hv, hfs⟩ := List.forall_mem_append.mp h
    rw [resolveMarkersFields, resolveMarkers_of_markerFree hv,
      resolveMarkersFields_of_markerFree hfs]

end

end Resolve

/-! ## Values with markers -/

/-- A string that a text is a literal of is no longer than the text. -/
theorem length_le_of_ofLiteral {raw s : String} (h : ofLiteral raw = .str s) :
    s.toList.length ≤ raw.toList.length := by
  have hdenotes := Literal.denotes_ofLiteral raw
  rw [h] at hdenotes
  cases hdenotes with
  | str hsuffix =>
    rw [String.toList_ofList]
    exact hsuffix.length_le

/-- Without sources nothing is put in the place of a marker. -/
theorem length_segmentChars_empty (segs : List Segment) :
    (segs.flatMap (Resolver.segmentChars ⟨∅⟩ [])).length + segs.countP Segment.isMarker ≤
      (segs.flatMap Segment.source).length := by
  induction segs with
  | nil => exact Nat.le_refl 0
  | cons seg segs ih =>
    rw [List.flatMap_cons, List.flatMap_cons, List.length_append, List.length_append,
      List.countP_cons]
    -- Text stays as it is. A marker leaves nothing, and was longer than nothing.
    cases seg with
    | text cs =>
      rw [Resolver.segmentChars, Segment.source, Segment.isMarker]
      simp only [Bool.false_eq_true, if_false]
      omega
    | marker token =>
      have hempty : Resolver.segmentChars ⟨∅⟩ [] (.marker token) = [] := rfl
      rw [hempty, Segment.source, Segment.isMarker, List.length_cons, List.length_cons,
        List.length_append]
      simp only [List.length_nil, if_true]
      omega

/-- Without sources a text with a marker never resolves to a literal of itself: what it resolves to
is shorter. -/
theorem ofLiterals_resolve_empty_ne {s : String} (h : hasMarker s = true) :
    ofLiterals (Resolver.resolve ⟨∅⟩ [] s) ≠ .str s := by
  intro heq
  by_cases hsingle : ∃ token, Marker.MarkerAt s.toList token []
  · -- A marker that stands alone resolves to null, which is no text.
    obtain ⟨token, hat⟩ := hsingle
    rw [Resolver.resolve_of_markerAt _ _ hat] at heq
    exact nomatch heq
  · rw [Resolver.resolve_of_not_markerAt _ _ (not_exists.mp hsingle), ofLiterals] at heq
    have hlength := length_le_of_ofLiteral heq
    have hshorter := length_segmentChars_empty (segments s.toList)
    -- The text has a marker, and each of them makes it shorter.
    have hcount : 0 < (segments s.toList).countP Segment.isMarker :=
      List.countP_pos_iff.mpr (List.any_eq_true.mp h)
    rw [Marker.source_segments] at hshorter
    rw [String.toList_ofList] at hlength
    omega

mutual

/-- Only values without markers resolve to themselves where there are no sources. -/
theorem markerFree_of_resolveMarkers_eq : ∀ {v : Value}, v.resolveMarkers ⟨∅⟩ [] = v →
    ∀ s ∈ v.strings, hasMarker s = false
  | .str s, h => by
    intro t ht
    obtain rfl := List.mem_singleton.mp ht
    rw [resolveMarkers] at h
    -- A text with a marker would not have come out as itself.
    by_contra hmarker
    rw [Bool.not_eq_false] at hmarker
    rw [if_pos hmarker] at h
    exact ofLiterals_resolve_empty_ne hmarker h
  | .arr items, h => by
    rw [resolveMarkers] at h
    exact markerFree_of_resolveMarkersItems_eq (Value.arr.inj h)
  | .obj fields, h => by
    rw [resolveMarkers] at h
    exact markerFree_of_resolveMarkersFields_eq (Value.obj.inj h)
  | .null, _ | .bool _, _ | .int _, _ | .float _, _ | .address _, _ | .instant _, _
  | .network _, _ | .invalid _, _ => fun _ hs => absurd hs List.not_mem_nil

/-- The same for the elements of an array. -/
theorem markerFree_of_resolveMarkersItems_eq : ∀ {items : List Value},
    resolveMarkersItems ⟨∅⟩ [] items = items → ∀ s ∈ stringsOfItems items, hasMarker s = false
  | [], _ => fun _ hs => absurd hs List.not_mem_nil
  | v :: vs, h => by
    rw [resolveMarkersItems] at h
    obtain ⟨hv, hvs⟩ := List.cons.inj h
    exact List.forall_mem_append.mpr
      ⟨markerFree_of_resolveMarkers_eq hv, markerFree_of_resolveMarkersItems_eq hvs⟩

/-- The same for the fields of an object. -/
theorem markerFree_of_resolveMarkersFields_eq : ∀ {fields : List (String × Value)},
    resolveMarkersFields ⟨∅⟩ [] fields = fields →
    ∀ s ∈ stringsOfFields fields, hasMarker s = false
  | [], _ => fun _ hs => absurd hs List.not_mem_nil
  | (k, v) :: fs, h => by
    rw [resolveMarkersFields] at h
    obtain ⟨hv, hfs⟩ := List.cons.inj h
    exact List.forall_mem_append.mpr ⟨markerFree_of_resolveMarkers_eq (Prod.mk.inj hv).2,
      markerFree_of_resolveMarkersFields_eq hfs⟩

end

/-- A literal other than that of an array holds no marker that its text does not show. -/
theorem markerFree_ofLiteral {raw : String} (h : hasMarker raw = false)
    (hkind : ∀ rest, ¬Literal.HasKind raw .array rest) : (ofLiteral raw).MarkerFree := by
  have hdenotes := Literal.denotes_ofLiteral raw
  generalize ofLiteral raw = v at hdenotes
  intro s hs
  cases hdenotes with
  | str hsuffix =>
    obtain rfl := List.mem_singleton.mp hs
    -- A marker in the end of a text is one in the text.
    obtain ⟨front, hfront⟩ := hsuffix
    rw [← Bool.not_eq_true, Marker.hasMarker_iff] at h ⊢
    rintro ⟨before, behind, heq, hstart⟩
    rw [String.toList_ofList] at heq
    exact h ⟨front ++ before, behind, by rw [← hfront, heq, List.append_assoc], hstart⟩
  | items harray | fields harray | scalar harray => exact absurd harray (hkind _)
  | null | bool | int | float | noItems | address | network | instant | invalid =>
    exact absurd hs List.not_mem_nil

end Value

/-! ## The two orders -/

/-- Whether no string of a value that has no marker itself is a literal of a value with markers. -/
def Json.HidesNoMarker (v : Json) : Prop :=
  ∀ s ∈ v.strings, hasMarker s = false → (Value.ofLiteral s).MarkerFree

namespace Value

variable (r : Resolver) (args : Args)

mutual

/-- The two orders agree on a value that hides no marker. -/
theorem resolveMarkers_ofMarkerFree : ∀ {v : Json},
    (∀ s ∈ v.strings, hasMarker s = false → (ofLiteral s).MarkerFree) →
    (ofMarkerFree v).resolveMarkers r args = ofLiterals (r.resolveAll args v)
  | .str s, h => by
    rw [ofMarkerFree, Resolver.resolveAll]
    -- A text with a marker is kept for later. One without is read now, and resolved again later.
    rcases hmarker : hasMarker s with _ | _
    · exact resolveMarkers_of_markerFree r args (h s (List.mem_singleton_self s) hmarker)
    · simp only [if_true, resolveMarkers, hmarker]
  | .arr items, h => by
    rw [ofMarkerFree, Resolver.resolveAll, resolveMarkers, ofLiterals,
      resolveMarkersItems_ofMarkerFree h]
  | .obj fields, h => by
    rw [ofMarkerFree, Resolver.resolveAll, resolveMarkers, ofLiterals,
      resolveMarkersFields_ofMarkerFree h]
  | .int i, _ => by
    rw [ofMarkerFree, Resolver.resolveAll, ofLiterals, ofInt]
    split <;> simp only [resolveMarkers]
  | .null, _ | .bool _, _ | .float _, _ => by
    simp only [ofMarkerFree, Resolver.resolveAll, ofLiterals, resolveMarkers]

/-- The same for the elements of an array. -/
theorem resolveMarkersItems_ofMarkerFree : ∀ {items : List Json},
    (∀ s ∈ Json.stringsOfItems items, hasMarker s = false → (ofLiteral s).MarkerFree) →
    resolveMarkersItems r args (ofMarkerFreeItems items) =
      ofLiteralItems (r.resolveItems args items)
  | [], _ => rfl
  | v :: vs, h => by
    obtain ⟨hv, hvs⟩ := List.forall_mem_append.mp h
    rw [ofMarkerFreeItems, Resolver.resolveItems, resolveMarkersItems, ofLiteralItems,
      resolveMarkers_ofMarkerFree hv, resolveMarkersItems_ofMarkerFree hvs]

/-- The same for the fields of an object. -/
theorem resolveMarkersFields_ofMarkerFree : ∀ {fields : List (String × Json)},
    (∀ s ∈ Json.stringsOfFields fields, hasMarker s = false → (ofLiteral s).MarkerFree) →
    resolveMarkersFields r args (ofMarkerFreeFields fields) =
      ofLiteralFields (r.resolveFields args fields)
  | [], _ => rfl
  | (k, v) :: fs, h => by
    obtain ⟨hv, hfs⟩ := List.forall_mem_append.mp h
    rw [ofMarkerFreeFields, Resolver.resolveFields, resolveMarkersFields, ofLiteralFields,
      resolveMarkers_ofMarkerFree hv, resolveMarkersFields_ofMarkerFree hfs]

end

mutual

/-- Where there are no sources, the two orders agree only on values that hide no marker. -/
theorem hidesNoMarker_of_resolveMarkers_eq : ∀ {v : Json},
    (ofMarkerFree v).resolveMarkers ⟨∅⟩ [] = ofLiterals (Resolver.resolveAll ⟨∅⟩ [] v) →
    ∀ s ∈ v.strings, hasMarker s = false → (ofLiteral s).MarkerFree
  | .str s, h => by
    intro t ht hmarker
    obtain rfl := List.mem_singleton.mp ht
    -- What is read now comes out of resolving as it was, so that there is no marker in it.
    rw [ofMarkerFree, Resolver.resolveAll, hmarker] at h
    exact markerFree_of_resolveMarkers_eq h
  | .arr items, h => by
    rw [ofMarkerFree, Resolver.resolveAll, resolveMarkers, ofLiterals] at h
    exact hidesNoMarker_of_resolveMarkersItems_eq (Value.arr.inj h)
  | .obj fields, h => by
    rw [ofMarkerFree, Resolver.resolveAll, resolveMarkers, ofLiterals] at h
    exact hidesNoMarker_of_resolveMarkersFields_eq (Value.obj.inj h)
  | .null, _ | .bool _, _ | .int _, _ | .float _, _ => fun _ hs => absurd hs List.not_mem_nil

/-- The same for the elements of an array. -/
theorem hidesNoMarker_of_resolveMarkersItems_eq : ∀ {items : List Json},
    resolveMarkersItems ⟨∅⟩ [] (ofMarkerFreeItems items) =
      ofLiteralItems (Resolver.resolveItems ⟨∅⟩ [] items) →
    ∀ s ∈ Json.stringsOfItems items, hasMarker s = false → (ofLiteral s).MarkerFree
  | [], _ => fun _ hs => absurd hs List.not_mem_nil
  | v :: vs, h => by
    rw [ofMarkerFreeItems, Resolver.resolveItems, resolveMarkersItems, ofLiteralItems] at h
    obtain ⟨hv, hvs⟩ := List.cons.inj h
    exact List.forall_mem_append.mpr
      ⟨hidesNoMarker_of_resolveMarkers_eq hv, hidesNoMarker_of_resolveMarkersItems_eq hvs⟩

/-- The same for the fields of an object. -/
theorem hidesNoMarker_of_resolveMarkersFields_eq : ∀ {fields : List (String × Json)},
    resolveMarkersFields ⟨∅⟩ [] (ofMarkerFreeFields fields) =
      ofLiteralFields (Resolver.resolveFields ⟨∅⟩ [] fields) →
    ∀ s ∈ Json.stringsOfFields fields, hasMarker s = false → (ofLiteral s).MarkerFree
  | [], _ => fun _ hs => absurd hs List.not_mem_nil
  | (k, v) :: fs, h => by
    rw [ofMarkerFreeFields, Resolver.resolveFields, resolveMarkersFields, ofLiteralFields] at h
    obtain ⟨hv, hfs⟩ := List.cons.inj h
    exact List.forall_mem_append.mpr ⟨hidesNoMarker_of_resolveMarkers_eq (Prod.mk.inj hv).2,
      hidesNoMarker_of_resolveMarkersFields_eq hfs⟩

end

end Value

/-! ## Reading a param -/

/-- The document with one param, given by its fields. -/
def Document.ofParam (fields : Json.Fields) : Json :=
  .obj [(Part.param.name, .obj fields)]

namespace Engine

section Entry

variable {fields : Json.Fields} {key : String} {document : Document}

/-- A param with a key that has no markers, and without a condition, is read with the markers of its
compiled value resolved. -/
theorem param?_compile_ofParam
    (hdocument : Document.ofJson (Document.ofParam fields) = .ok document)
    (hkey : Entries.get? fields "Key" = some (.str key)) (hne : key ≠ "")
    (hclear : hasMarker key = false) (hcondition : Document.conditionOf fields = none)
    (e : Engine) (buildArgs args : Args) :
    (e.policy (e.compile buildArgs [document])).param? args key =
      some ((Value.ofMarkerFree ((Entries.get? fields "Value").getD .null)).resolveMarkers
        e.resolver args) := by
  obtain ⟨declared, hdeclared, hvalue, hunconditional⟩ : ∃ declared : ParamDeclaration,
      Document.paramOf? fields = some declared ∧
        declared.value = (Entries.get? fields "Value").getD .null ∧ declared.condition = none := by
    rw [Document.paramOf?, hkey]
    simp only [if_neg hne]
    exact ⟨_, rfl, rfl, hcondition⟩
  have hdeclaredKey : declared.key = key := by
    rw [Document.paramOf?, hkey] at hdeclared
    simp only [if_neg hne] at hdeclared
    rw [← Option.some_inj.mp hdeclared]
  -- The param is all that the document declares.
  have hparams : document = ⟨[], [declared]⟩ := by
    have hread : Document.ofJson (Document.ofParam fields) =
        .ok ⟨[], [fields].filterMap Document.paramOf?⟩ := rfl
    rw [hread, List.filterMap_cons, hdeclared] at hdocument
    exact (Except.ok.inj hdocument).symm
  -- The key has no markers, so that it is written as it is.
  have hwrites : declared.writes e.resolver buildArgs = [(key, declared.param)] := by
    rw [ParamDeclaration.writes, hdeclaredKey, Resource.resolved, hclear]
    simp only [Bool.false_eq_true, if_false, if_neg hne]
  have hheld : (e.compile buildArgs [document]).param? key = some declared.param := by
    have hcompile : e.compile buildArgs [document] =
        Tree.addParam ∅ key declared.param := by
      rw [hparams]
      simp only [compile, Tree.ofDocuments, List.foldl_cons, List.foldl_nil, Tree.addDocument,
        Document.statementWrites, Document.paramWrites, List.flatMap_cons, List.flatMap_nil,
        hwrites, List.append_nil]
    rw [hcompile, Tree.addParam_eq, Tree.param?, Table.get?_write]
    exact if_pos ⟨rfl, rfl⟩
  rw [Policy.param?, policy, hheld, Option.filter_some, ParamDeclaration.param, hunconditional]
  simp only [Policy.applies, Option.all_none, if_true, Option.map_some, hvalue]

/-- A param with a key that has no markers, and without a condition, has the value of an operand,
with its markers resolved before its strings are read as literals, under all engines and arguments
just if that value hides no marker. If it has no markers either, no arguments change it. What hides
a marker is the literal of an array. -/
theorem param?_two_phases (hdocument : Document.ofJson (Document.ofParam fields) = .ok document)
    (hkey : Entries.get? fields "Key" = some (.str key)) (hne : key ≠ "")
    (hclear : hasMarker key = false) (hcondition : Document.conditionOf fields = none) {v : Json}
    (hvalue : (Entries.get? fields "Value").getD .null = v) :
    ((∀ (e : Engine) (buildArgs args : Args),
        (e.policy (e.compile buildArgs [document])).param? args key =
          some (.ofLiterals (e.resolver.resolveAll args v))) ↔ v.HidesNoMarker) ∧
    (v.HidesNoMarker → (∀ s ∈ v.strings, hasMarker s = false) →
      ∀ (e : Engine) (buildArgs args : Args),
        (e.policy (e.compile buildArgs [document])).param? args key = some (.ofLiterals v)) ∧
    ((∀ s ∈ v.strings, hasMarker s = false → ∀ rest, ¬Literal.HasKind s .array rest) →
      v.HidesNoMarker) := by
  have hread := param?_compile_ofParam hdocument hkey hne hclear hcondition
  rw [hvalue] at hread
  have hagree : v.HidesNoMarker → ∀ (e : Engine) (buildArgs args : Args),
      (e.policy (e.compile buildArgs [document])).param? args key =
        some (.ofLiterals (e.resolver.resolveAll args v)) := fun hhides e buildArgs args => by
    rw [hread, Value.resolveMarkers_ofMarkerFree e.resolver args hhides]
  refine ⟨⟨fun h => ?_, hagree⟩, fun hhides hmarkers e buildArgs args => ?_,
    fun harray s hs hs' => ?_⟩
  · -- Without sources a marker that is hidden is resolved to nothing in one order only.
    have hbare := h (bare .allow) [] []
    rw [hread] at hbare
    exact Value.hidesNoMarker_of_resolveMarkers_eq (Option.some_inj.mp hbare)
  · rw [hagree hhides, Resolver.resolveAll_of_forall_hasMarker _ _ hmarkers]
  · exact Value.markerFree_ofLiteral hs' (harray s hs hs')

end Entry

/-- An engine that knows arguments only. -/
def ofArgs : Engine :=
  (bare .deny).registerSource "ARGS" .args

/-- The fields of a param with markers, one of them in the midst of the literal of an array. -/
def greeting : Json.Fields :=
  [("Key", .str "greeting"), ("Value", .arr [.str "$\x7bARGS.who\x7d",
    .str "(*array)[\"to $\x7bARGS.who\x7d\"]", .str "(*int)7"])]

/-- A value that shows all its markers is read like an operand. -/
theorem param?_two_phases_greeting :
    ∃ document, Document.ofJson (Document.ofParam greeting) = .ok document ∧
      Document.conditionOf greeting = none ∧ hasMarker "greeting" = false ∧
      ∀ (e : Engine) (buildArgs args : Args),
        (e.policy (e.compile buildArgs [document])).param? args "greeting" =
          some (.ofLiterals (e.resolver.resolveAll args
            ((Entries.get? greeting "Value").getD .null))) := by
  have hclear : hasMarker "greeting" = false := by decide +kernel
  have hseven : ¬∃ rest, Literal.HasKind "(*int)7" .array rest := by
    rintro ⟨rest, name, hsplit, hkind⟩
    have hint : Literal.split? "(*int)7".toList = some ("int".toList, ['7']) := by decide +kernel
    obtain ⟨rfl, -⟩ := Prod.mk.inj (Option.some_inj.mp (hint.symm.trans hsplit))
    exact absurd hkind (by decide +kernel)
  obtain ⟨hiff, -, harray⟩ :=
    @param?_two_phases greeting "greeting" _ rfl rfl (by decide) hclear rfl _ rfl
  refine ⟨_, rfl, rfl, hclear, hiff.mpr (harray fun s hs hmarker rest => ?_)⟩
  have hstrings : ((Entries.get? greeting "Value").getD .null).strings =
      ["$\x7bARGS.who\x7d", "(*array)[\"to $\x7bARGS.who\x7d\"]", "(*int)7"] := by
    decide +kernel
  rw [hstrings] at hs
  -- The other two strings have markers.
  have hseven' : s = "(*int)7" := by
    by_contra hne
    revert hmarker
    simp only [List.mem_cons, List.not_mem_nil, or_false, hne] at hs
    rcases hs with rfl | rfl <;> decide +kernel
  exact fun hkind => hseven ⟨rest, hseven' ▸ hkind⟩

/-- A literal of an array with a dollar sign that is written as an escape. -/
def escapedLiteral : String :=
  "(*array)[\"\\u0024\x7bARGS.x\x7d\"]"

/-- The document with a param of that value. -/
def escaped : Document :=
  ⟨[], [⟨"k", .str escapedLiteral, none, false, []⟩]⟩

/-- What is hidden in a literal of an array is taken for a marker when the param is read, but not in
an operand: the value shows no marker, and yet it changes with the arguments. -/
theorem param?_escaped :
    Document.ofJson (Document.ofParam [("Key", .str "k"), ("Value", .str escapedLiteral)]) =
      .ok escaped ∧
    hasMarker "k" = false ∧ hasMarker escapedLiteral = false ∧
    ((ofArgs.policy (ofArgs.compile [] [escaped])).param? [("x", .str "a")] "k").map
      Value.strings = some ["a"] ∧
    ((ofArgs.policy (ofArgs.compile [] [escaped])).param? [("x", .str "b")] "k").map
      Value.strings = some ["b"] ∧
    (ofArgs.policy (ofArgs.compile [] [escaped])).param? [("x", .str "a")] "k" ≠
      some (.ofLiterals (ofArgs.resolver.resolveAll [("x", .str "a")] (.str escapedLiteral))) := by
  have hread : ((ofArgs.policy (ofArgs.compile [] [escaped])).param? [("x", .str "a")] "k").map
      Value.strings = some ["a"] := by
    decide +kernel
  have hoperand : (Value.ofLiterals (ofArgs.resolver.resolveAll [("x", .str "a")]
      (.str escapedLiteral))).strings = ["$\x7bARGS.x\x7d"] := by
    decide +kernel
  refine ⟨rfl, by decide +kernel, by decide +kernel, hread, by decide +kernel, fun heq => ?_⟩
  rw [heq, Option.map_some, hoperand] at hread
  exact absurd hread (by decide)

end Engine

end AccessPolicy
