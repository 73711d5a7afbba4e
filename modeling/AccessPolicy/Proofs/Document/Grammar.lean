import AccessPolicy.Document.Basic
import Mathlib.Data.List.Forall2

/-!
# The grammar of documents

A section of a document may be left out or null, and then it has no entries; otherwise it is one
object, which is its only entry, or a list of objects (`Document.Section`). Anything else is a flaw,
and a list is flawed at the first element that is not an object (`Document.Flawed`). Reading accepts
just the objects whose two sections are in order, and reports a flaw of the statements before one of
the params (`Document.ofJson_grammar`).

Every section is in order or flawed, and not both (`Document.section_or_flawed`), so it is enough to
say what reading gives in either case. The entries become statements and params in order: each
statement, and the params that have a key. What an entry has beside the fields with a meaning stays
as it is.
-/

namespace AccessPolicy.Document

/-! ## Sections -/

/-- The entries of a section, by the ways to write it: it is left out or null, one object, or a list
of objects. -/
inductive Section (root : Json.Fields) (part : Part) : List Json.Fields → Prop where
  | absent : Entries.get? root part.name = none → Section root part []
  | null : Entries.get? root part.name = some .null → Section root part []
  | single {entry : Json.Fields} :
    Entries.get? root part.name = some (.obj entry) → Section root part [entry]
  | list {entries : List Json.Fields} :
    Entries.get? root part.name = some (.arr (entries.map .obj)) → Section root part entries

/-- What is wrong with a section that is written in another way: its shape, or the first element
that is not an object. -/
inductive Flawed (root : Json.Fields) (part : Part) : Error → Prop where
  | shape {v : Json} : Entries.get? root part.name = some v → v ≠ .null →
    (∀ entry, v ≠ .obj entry) → (∀ items, v ≠ .arr items) → Flawed root part (.notEntries part)
  | element {before : List Json.Fields} {v : Json} {behind : List Json} :
    Entries.get? root part.name = some (.arr (before.map .obj ++ v :: behind)) →
    (∀ entry, v ≠ .obj entry) → Flawed root part (.notAnEntry part before.length)

/-- Objects are entries. -/
theorem entriesFrom_map (part : Part) (index : Nat) (entries : List Json.Fields) :
    entriesFrom part index (entries.map .obj) = .ok entries := by
  induction entries generalizing index with
  | nil => rfl
  | cons entry entries ih =>
    rw [List.map_cons, entriesFrom, ih]
    rfl

/-- The first element that is not an object is reported with its index. -/
theorem entriesFrom_append (part : Part) (index : Nat) (before : List Json.Fields) {v : Json}
    (hv : ∀ entry, v ≠ .obj entry) (behind : List Json) :
    entriesFrom part index (before.map .obj ++ v :: behind) =
      .error (.notAnEntry part (index + before.length)) := by
  induction before generalizing index with
  | nil =>
    cases v with
    | obj entry => exact absurd rfl (hv entry)
    | _ => rfl
  | cons entry before ih =>
    rw [List.map_cons, List.cons_append, entriesFrom, ih, List.length_cons, Nat.add_right_comm,
      Nat.add_assoc]
    rfl

/-- A list consists of objects, or it has a first element that is none. -/
theorem eq_map_or_append (items : List Json) :
    (∃ entries : List Json.Fields, items = entries.map .obj) ∨
      ∃ (before : List Json.Fields) (v : Json) (behind : List Json),
        items = before.map .obj ++ v :: behind ∧ ∀ entry, v ≠ .obj entry := by
  induction items with
  | nil => exact .inl ⟨[], rfl⟩
  | cons v items ih =>
    cases v with
    | obj entry =>
      rcases ih with ⟨entries, rfl⟩ | ⟨before, v, behind, rfl, hv⟩
      · exact .inl ⟨entry :: entries, rfl⟩
      · exact .inr ⟨entry :: before, v, behind, rfl, hv⟩
    | _ => exact .inr ⟨[], _, items, rfl, nofun⟩

variable {root : Json.Fields} {part : Part}

/-- The entries of a section that is in order are read. -/
theorem entriesOf_of_section {entries : List Json.Fields} (h : Section root part entries) :
    entriesOf part root = .ok entries := by
  unfold entriesOf
  cases h with
  | absent h => rw [h]
  | null h => rw [h]
  | single h => rw [h]
  | list h =>
    rw [h]
    exact entriesFrom_map part 0 entries

/-- What is wrong with a section is reported. -/
theorem entriesOf_of_flawed {fault : Error} (h : Flawed root part fault) :
    entriesOf part root = .error fault := by
  unfold entriesOf
  cases h with
  | @shape v h hnull hobj harr =>
    -- The shape of the section is none of those that are read.
    rw [h]
    cases v with
    | null => exact absurd rfl hnull
    | obj entry => exact absurd rfl (hobj entry)
    | arr items => exact absurd rfl (harr items)
    | _ => rfl
  -- The entries in front are read, and the error counts them.
  | @element before v behind h hv =>
    rw [h]
    show entriesFrom part 0 (before.map .obj ++ v :: behind) = _
    rw [entriesFrom_append part 0 before hv, Nat.zero_add]

/-- A section is in order or flawed. -/
theorem section_or_flawed (root : Json.Fields) (part : Part) :
    (∃ entries, Section root part entries) ∨ ∃ fault, Flawed root part fault := by
  rcases hget : Entries.get? root part.name with _ | v
  · exact .inl ⟨[], .absent hget⟩
  · cases v with
    | null => exact .inl ⟨[], .null hget⟩
    | obj entry => exact .inl ⟨[entry], .single hget⟩
    | arr items =>
      rcases eq_map_or_append items with ⟨entries, rfl⟩ | ⟨before, v, behind, rfl, hv⟩
      · exact .inl ⟨entries, .list hget⟩
      · exact .inr ⟨_, .element hget hv⟩
    | _ => exact .inr ⟨_, .shape hget nofun nofun nofun⟩

/-- A section is in order exactly if it can be read. -/
theorem entriesOf_eq_ok_iff {entries : List Json.Fields} :
    entriesOf part root = .ok entries ↔ Section root part entries := by
  refine ⟨fun hread => ?_, entriesOf_of_section⟩
  rcases section_or_flawed root part with ⟨others, hsection⟩ | ⟨fault, hflawed⟩
  · rw [entriesOf_of_section hsection] at hread
    exact Except.ok.inj hread ▸ hsection
  · exact nomatch (entriesOf_of_flawed hflawed).symm.trans hread

/-- A section is flawed exactly if it cannot be read, and the flaw is what is reported. -/
theorem entriesOf_eq_error_iff {fault : Error} :
    entriesOf part root = .error fault ↔ Flawed root part fault := by
  refine ⟨fun hread => ?_, entriesOf_of_flawed⟩
  rcases section_or_flawed root part with ⟨entries, hsection⟩ | ⟨other, hflawed⟩
  · exact nomatch (entriesOf_of_section hsection).symm.trans hread
  · rw [entriesOf_of_flawed hflawed] at hread
    exact Except.error.inj hread ▸ hflawed

/-- A flaw of a section says which section it is of. -/
theorem Flawed.message {fault : Error} (h : Flawed root part fault) :
    ∃ detail, ∀ reason,
      fault.message reason = "Invalid '" ++ part.name ++ "' section: " ++ detail := by
  cases h with
  | shape =>
    refine ⟨"expected an object or an array of objects", fun reason => ?_⟩
    -- Both messages begin alike, with the name of the section.
    have hsplit : "' section: expected an object or an array of objects" =
        "' section: " ++ "expected an object or an array of objects" := by decide
    rw [Error.message, hsplit, String.append_assoc, String.append_assoc, String.append_assoc]
  | @element before =>
    refine ⟨"entry " ++ Decimal.natText before.length ++ " is not an object", fun reason => ?_⟩
    have hsplit : "' section: entry " = "' section: " ++ "entry " := by decide
    rw [Error.message, hsplit]
    simp only [String.append_assoc]

/-! ## Entries -/

/-- The names of the metadata are those of an entry but for the recognised ones. -/
theorem keys_metadataOf (recognised : List String) (fields : Json.Fields) :
    Entries.keys (metadataOf recognised fields) =
      (Entries.keys fields).filter fun k => k ∉ recognised := by
  rw [Entries.keys, Entries.keys, metadataOf, List.filter_map]
  refine congrArg (List.map Prod.fst) (List.filter_congr fun e _ => ?_)
  rw [List.contains_eq_mem, Function.comp_apply, decide_not]

/-- The metadata has what an entry has under a name that is not recognised. -/
theorem get?_metadataOf {recognised : List String} (fields : Json.Fields) {k : String}
    (hk : k ∉ recognised) :
    Entries.get? (metadataOf recognised fields) k = Entries.get? fields k := by
  induction fields with
  | nil => rfl
  | cons e fields ih =>
    rw [metadataOf, List.filter_cons]
    by_cases he : e.1 ∈ recognised
    · -- A recognised field is left out, and it is not the one that is looked up.
      have hne : e.1 ≠ k := fun h => hk (h ▸ he)
      rw [List.contains_eq_mem, decide_eq_true he, Bool.not_true, if_neg Bool.false_ne_true,
        Entries.get?, if_neg hne]
      exact ih
    · rw [List.contains_eq_mem, decide_eq_false he, Bool.not_false, if_pos rfl, Entries.get?,
        Entries.get?, ← metadataOf, ih]

/-- Whether an entry has a key: a string that is not empty. -/
def hasKey (entry : Json.Fields) : Bool :=
  ((Entries.get? entry "Key").bind Json.str?).any fun key => key ≠ ""

/-- How a statement is declared by an entry. It has at least one action, and keeps as metadata what
the entry has under other names. -/
structure DeclaresStatement (entry : Json.Fields) (declared : StatementDeclaration) : Prop where
  read : declared = declarationOf entry
  actions : declared.actions ≠ []
  names : Entries.keys declared.statement.metadata = (Entries.keys entry).filter fun k =>
    k ∉ ["Resource", "Action", "Effect", "Condition", "Enforce"]
  values : ∀ k, k ∉ ["Resource", "Action", "Effect", "Condition", "Enforce"] →
    Entries.get? declared.statement.metadata k = Entries.get? entry k

/-- How a param is declared by an entry. It has the key of the entry, and keeps as metadata what the
entry has under other names. -/
structure DeclaresParam (entry : Json.Fields) (declared : ParamDeclaration) : Prop where
  read : paramOf? entry = some declared
  key : Entries.get? entry "Key" = some (.str declared.key)
  value : declared.value = (Entries.get? entry "Value").getD .null
  names : Entries.keys declared.metadata = (Entries.keys entry).filter fun k =>
    k ∉ ["Key", "Value", "Condition", "Enforce"]
  values : ∀ k, k ∉ ["Key", "Value", "Condition", "Enforce"] →
    Entries.get? declared.metadata k = Entries.get? entry k

/-- Each entry declares a statement. -/
theorem declaresStatement (entry : Json.Fields) :
    DeclaresStatement entry (declarationOf entry) where
  read := rfl
  actions := by
    unfold declarationOf
    split
    · exact List.cons_ne_nil "" []
    · assumption
  names := keys_metadataOf statementFields entry
  values _ hk := get?_metadataOf entry hk

/-- An entry with a key declares a param. -/
theorem declaresParam {entry : Json.Fields} {declared : ParamDeclaration}
    (h : paramOf? entry = some declared) : DeclaresParam entry declared := by
  have hread := h
  unfold paramOf? at h
  split at h
  · next key hkey =>
    split at h
    · exact nomatch h
    · obtain rfl := Option.some_inj.mp h
      exact ⟨hread, hkey, rfl, keys_metadataOf paramFields entry,
        fun _ hk => get?_metadataOf entry hk⟩
  · exact nomatch h

/-- An entry declares a param exactly if it has a key. -/
theorem paramOf?_isSome (entry : Json.Fields) : (paramOf? entry).isSome = hasKey entry := by
  unfold paramOf? hasKey
  split
  · next key hkey =>
    rw [hkey]
    -- A key that is empty counts as none.
    by_cases hempty : key = ""
    · rw [if_pos hempty]
      simp [Json.str?, hempty]
    · rw [if_neg hempty]
      simp [Json.str?, hempty]
  · next hkey =>
    rcases hget : Entries.get? entry "Key" with _ | v
    · rfl
    · cases v with
      | str key => exact absurd hget (hkey key)
      | _ => rfl

/-- The params of a section are declared by the entries with a key, in order. -/
theorem forall₂_paramOf? (entries : List Json.Fields) :
    List.Forall₂ DeclaresParam (entries.filter hasKey) (entries.filterMap paramOf?) := by
  induction entries with
  | nil => exact .nil
  | cons entry entries ih =>
    rcases hparam : paramOf? entry with _ | declared
    · have hkey : ¬hasKey entry = true := by rw [← paramOf?_isSome, hparam]; exact nofun
      rw [List.filter_cons_of_neg hkey, List.filterMap_cons_none hparam]
      exact ih
    · have hkey : hasKey entry = true := by rw [← paramOf?_isSome, hparam]; rfl
      rw [List.filter_cons_of_pos hkey, List.filterMap_cons_some hparam]
      exact .cons (declaresParam hparam) ih

/-- The statements of a section are declared by its entries, in order. -/
theorem forall₂_declarationOf (entries : List Json.Fields) :
    List.Forall₂ DeclaresStatement entries (entries.map declarationOf) :=
  List.forall₂_map_right_iff.mpr (List.forall₂_same.mpr fun entry _ => declaresStatement entry)

/-! ## Documents -/

/-- The object with two sections that are in order is the document of their entries. -/
theorem ofJson_of_section {statements params : List Json.Fields}
    (hstatements : Section root .statement statements) (hparams : Section root .param params) :
    ofJson (.obj root) = .ok ⟨statements.map declarationOf, params.filterMap paramOf?⟩ := by
  rw [ofJson, entriesOf_of_section hstatements, entriesOf_of_section hparams]
  rfl

/-- A flaw of the statements is what is wrong with a document. -/
theorem ofJson_of_flawed_statement {fault : Error} (h : Flawed root .statement fault) :
    ofJson (.obj root) = .error fault := by
  rw [ofJson, entriesOf_of_flawed h]
  rfl

/-- A flaw of the params is what is wrong with a document if its statements are in order. -/
theorem ofJson_of_flawed_param {statements : List Json.Fields} {fault : Error}
    (hstatements : Section root .statement statements) (h : Flawed root .param fault) :
    ofJson (.obj root) = .error fault := by
  rw [ofJson, entriesOf_of_section hstatements, entriesOf_of_flawed h]
  rfl

/-- An object is a document exactly if both of its sections are in order, and then it is that of
their entries. -/
theorem ofJson_eq_ok_iff {d : Document} :
    ofJson (.obj root) = .ok d ↔
      ∃ statements params, Section root .statement statements ∧ Section root .param params ∧
        d = ⟨statements.map declarationOf, params.filterMap paramOf?⟩ := by
  constructor
  · -- Both sections have been read, as there would be an error otherwise.
    intro hread
    rcases hstatements : entriesOf .statement root with fault | statements
    · rw [ofJson, hstatements] at hread
      exact nomatch hread
    · rcases hparams : entriesOf .param root with fault | params
      · rw [ofJson, hstatements, hparams] at hread
        exact nomatch hread
      · rw [ofJson, hstatements, hparams] at hread
        exact ⟨statements, params, entriesOf_eq_ok_iff.mp hstatements,
          entriesOf_eq_ok_iff.mp hparams, (Except.ok.inj hread).symm⟩
  · rintro ⟨statements, params, hstatements, hparams, rfl⟩
    exact ofJson_of_section hstatements hparams

/-- What is wrong with an object is a flaw of its statements or, if these are in order, of its
params. -/
theorem ofJson_eq_error_iff {fault : Error} :
    ofJson (.obj root) = .error fault ↔ Flawed root .statement fault ∨
      (∃ entries, Section root .statement entries) ∧ Flawed root .param fault := by
  constructor
  · -- The statements are read first, so that a flaw of the params is told only if they are in
    -- order.
    intro hread
    rcases hstatements : entriesOf .statement root with other | statements
    · rw [ofJson, hstatements] at hread
      exact .inl (entriesOf_eq_error_iff.mp (Except.error.inj hread ▸ hstatements))
    · rcases hparams : entriesOf .param root with other | params
      · rw [ofJson, hstatements, hparams] at hread
        exact .inr ⟨⟨statements, entriesOf_eq_ok_iff.mp hstatements⟩,
          entriesOf_eq_error_iff.mp (Except.error.inj hread ▸ hparams)⟩
      · rw [ofJson, hstatements, hparams] at hread
        exact nomatch hread
  · rintro (hflawed | ⟨⟨statements, hstatements⟩, hflawed⟩)
    · exact ofJson_of_flawed_statement hflawed
    · exact ofJson_of_flawed_param hstatements hflawed

/-- A section with one entry reads the same as an object and as a list of one object. -/
theorem entriesOf_insert (root : Json.Fields) (part other : Part) (entry : Json.Fields) :
    entriesOf other (Entries.insert root part.name (.obj entry)) =
      entriesOf other (Entries.insert root part.name (.arr [.obj entry])) := by
  by_cases hpart : part.name = other.name
  · rw [entriesOf, entriesOf, Entries.get?_insert, Entries.get?_insert, if_pos hpart, if_pos hpart]
    rfl
  · rw [entriesOf, entriesOf, Entries.get?_insert, Entries.get?_insert, if_neg hpart, if_neg hpart]

/-- A value that is not an object is refused for that. An object is a document exactly if both of
its sections are in order; if not, the error is the flaw of the statements or, if these are in
order, that of the params, and it names the section. The statements of a document are those of the
entries, and the params those of the entries with a key, both in order. Whatever else there is, a
section may be written as one object or as a list of that object. -/
theorem ofJson_grammar :
    (∀ v, ofJson v = .error .notAnObject ↔ ∀ root, v ≠ .obj root) ∧
    ∀ root : Json.Fields,
      ((∃ d, ofJson (.obj root) = .ok d) ↔ ∀ part, ∃ entries, Section root part entries) ∧
      (∀ fault, ofJson (.obj root) = .error fault ↔ Flawed root .statement fault ∨
        (∃ entries, Section root .statement entries) ∧ Flawed root .param fault) ∧
      (∀ part fault, Flawed root part fault → ∃ detail, ∀ reason,
        fault.message reason = "Invalid '" ++ part.name ++ "' section: " ++ detail) ∧
      (∀ d, ofJson (.obj root) = .ok d → ∃ statements params,
        Section root .statement statements ∧ Section root .param params ∧
        List.Forall₂ DeclaresStatement statements d.statements ∧
        List.Forall₂ DeclaresParam (params.filter hasKey) d.params) ∧
      ∀ (part : Part) (entry : Json.Fields),
        ofJson (.obj (Entries.insert root part.name (.obj entry))) =
          ofJson (.obj (Entries.insert root part.name (.arr [.obj entry]))) := by
  refine ⟨fun v => ?_, fun root => ⟨?_, fun fault => ofJson_eq_error_iff,
    fun part fault hflawed => hflawed.message, fun d hd => ?_, fun part entry => ?_⟩⟩
  · cases v with
    | obj root =>
      -- The flaw of an object is one of a section, and none of these is that it is no object.
      refine iff_of_false (fun hread => ?_) fun h => h root rfl
      rcases ofJson_eq_error_iff.mp hread with hflawed | ⟨-, hflawed⟩
      · exact nomatch hflawed
      · exact nomatch hflawed
    | _ => exact iff_of_true rfl nofun
  · constructor
    · rintro ⟨d, hd⟩ part
      obtain ⟨statements, params, hstatements, hparams, -⟩ := ofJson_eq_ok_iff.mp hd
      cases part with
      | statement => exact ⟨statements, hstatements⟩
      | param => exact ⟨params, hparams⟩
    · intro h
      obtain ⟨statements, hstatements⟩ := h .statement
      obtain ⟨params, hparams⟩ := h .param
      exact ⟨_, ofJson_of_section hstatements hparams⟩
  · obtain ⟨statements, params, hstatements, hparams, rfl⟩ := ofJson_eq_ok_iff.mp hd
    exact ⟨statements, params, hstatements, hparams, forall₂_declarationOf statements,
      forall₂_paramOf? params⟩
  · rw [ofJson, ofJson, entriesOf_insert, entriesOf_insert]

/-- The statements of a notice board, the second of which says nothing. -/
def noticeStatements : List Json.Fields :=
  [[("Effect", .str "Allow"), ("Label", .str "Notices"), ("Resource", .str "Notice")], []]

/-- The params of a notice board, only the last of which has a key. -/
def noticeParams : List Json.Fields :=
  [[("Value", .int 1)], [("Key", .str "")],
    [("Key", .str "limit"), ("Unit", .str "pages"), ("Value", .int 20)]]

/-- A notice board with these entries. -/
def notices : Json.Fields :=
  [("Param", .arr (noticeParams.map .obj)), ("Statement", .arr (noticeStatements.map .obj))]

/-- A notice board with something else behind its statements, and a number for its params. -/
def brokenNotices : Json.Fields :=
  [("Param", .int 5), ("Statement", .arr (noticeStatements.map .obj ++ [.int 3]))]

/-- The notice board has both of its statements, and the param with a key together with its unit.
What is wrong with the broken one is the third of its statements. -/
theorem ofJson_grammar_notices :
    (∃ d, ofJson (.obj notices) = .ok d ∧ d.statements.length = 2 ∧
      d.params.map (fun p => (p.key, Entries.keys p.metadata)) = [("limit", ["Unit"])]) ∧
    ofJson (.obj brokenNotices) = .error (.notAnEntry .statement 2) ∧
    ∃ detail, ∀ reason, (Error.notAnEntry .statement 2).message reason =
      "Invalid '" ++ Part.statement.name ++ "' section: " ++ detail := by
  obtain ⟨-, hroots⟩ := ofJson_grammar
  -- The sections are lists, and the broken one has a number in the third place.
  obtain ⟨haccepted, -, -, hdeclares, -⟩ := hroots notices
  obtain ⟨-, hrefused, hmessage, -⟩ := hroots brokenNotices
  have hstatements : Section notices .statement noticeStatements := .list rfl
  have hparams : Section notices .param noticeParams := .list rfl
  have hflawed : Flawed brokenNotices .statement (.notAnEntry .statement 2) :=
    @Flawed.element _ _ noticeStatements (.int 3) [] rfl nofun
  refine ⟨?_, (hrefused _).mpr (.inl hflawed), hmessage _ _ hflawed⟩
  obtain ⟨d, hd⟩ := haccepted.mpr fun part =>
    match part with
    | .statement => ⟨_, hstatements⟩
    | .param => ⟨_, hparams⟩
  -- What is read are just these entries, in both sections.
  obtain ⟨statements, params, hstatements', hparams', hdeclared, hkeyed⟩ := hdeclares d hd
  obtain rfl : noticeStatements = statements := Except.ok.inj
    ((entriesOf_of_section hstatements).symm.trans (entriesOf_of_section hstatements'))
  obtain rfl : noticeParams = params := Except.ok.inj
    ((entriesOf_of_section hparams).symm.trans (entriesOf_of_section hparams'))
  have hlimit : noticeParams.filter hasKey =
      [[("Key", .str "limit"), ("Unit", .str "pages"), ("Value", .int 20)]] := rfl
  rw [hlimit] at hkeyed
  -- One of the params has a key, and it comes with its unit.
  obtain ⟨limit, others, hdeclares, hnone, hkeys⟩ := List.forall₂_cons_left_iff.mp hkeyed
  obtain rfl := List.forall₂_nil_left_iff.mp hnone
  refine ⟨d, hd, hdeclared.length_eq.symm, ?_⟩
  have hkey : limit.key = "limit" := (Json.str.inj (Option.some_inj.mp hdeclares.key)).symm
  rw [hkeys, List.map_singleton, hdeclares.names, hkey]
  decide +kernel

end AccessPolicy.Document
