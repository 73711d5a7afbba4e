import AccessPolicy.Marker.Source
import AccessPolicy.Proofs.Text.Cut

/-!
# Sources that are asked by paths

Three sources answer a path with a part of what they hold: the arguments, a value, and named
constants. The arguments and the constants look the first segment up by themselves and hand on what
stands behind its dot, and a value walks down all the segments. They agree but for one kind of path.
Behind a name with a dot at its end, and no other dot, the empty path is left, which to a value
stands for the whole of it, whereas the pieces of the path are the name and the empty segment, which
only an object can have a part for (`at?_eq_iff`).
-/

namespace AccessPolicy

/-! ## Parts of a value -/

namespace Json

/-- A path goes down by its first segment, and then by the segments of the rest. -/
theorem at?_of_ne_nil (root : Json) {path : List Char} (h : path ≠ []) :
    root.at? path =
      match Text.cut '.' path with
      | (head, none) => root.segment? head
      | (head, some tail) => (root.segment? head).bind (·.descend? (Text.pieces '.' tail)) := by
  rw [at?, if_neg h, descend?, Text.pieces_eq_cut]
  rcases Text.cut '.' path with ⟨head, tail⟩
  cases tail with
  | none =>
    show (root.segment? head >>= fun v => pure v) = root.segment? head
    rw [bind_pure]
  | some tail => rfl

/-- The empty segment is the name of a field. -/
theorem segment?_nil (v : Json) : v.segment? [] = v.field? "" := by
  cases v <;> rfl

/-- The empty path has one piece, the empty name. -/
theorem descend?_pieces_nil (v : Json) : v.descend? (Text.pieces '.' []) = v.field? "" := by
  show (v.segment? [] >>= fun w => pure w) = v.field? ""
  rw [bind_pure, segment?_nil]

/-- A field's value is smaller than its object, which carries the induction along a path. -/
theorem sizeOf_lt_of_get? {fields : Fields} {name : String} {v : Json}
    (h : Entries.get? fields name = some v) : sizeOf v < sizeOf (obj fields) := by
  have hmem : sizeOf (name, v) < sizeOf fields := List.sizeOf_lt_of_mem (Entries.mem_of_get? h)
  simp only [Prod.mk.sizeOf_spec, obj.sizeOf_spec] at hmem ⊢
  omega

/-- No value is a field of its own. -/
theorem field?_ne_self (v : Json) (name : String) : v.field? name ≠ some v := by
  intro h
  cases v with
  | obj fields => exact Nat.lt_irrefl _ (sizeOf_lt_of_get? h)
  | _ => exact absurd h nofun

end Json

/-! ## Parts of the arguments -/

namespace Args

/-- Whether a path is the name of an argument with a dot behind it, the name having none. -/
def EndsInDot (args : Args) (path : List Char) (v : Json) : Prop :=
  ∃ name, path = name ++ ['.'] ∧ '.' ∉ name ∧ Entries.get? args (String.ofList name) = some v

/-- A path that is not empty takes its first piece at the arguments and the others below it. -/
theorem at?_of_ne_nil (args : Args) {path : List Char} (h : path ≠ []) :
    args.at? path =
      (Entries.get? args (String.ofList (Text.cut '.' path).1)).bind
        (·.at? ((Text.cut '.' path).2.getD [])) := by
  rw [at?, if_neg h]

/-- A path that is cut behind its last character ends in the dot. -/
theorem endsInDot_iff {args : Args} {path : List Char} {v : Json} :
    args.EndsInDot path v ↔
      ∃ name, Text.cut '.' path = (name, some []) ∧
        Entries.get? args (String.ofList name) = some v := by
  simp only [EndsInDot, Text.cut_eq_some_iff, and_assoc]

/-- Of a name with a dot behind it, the arguments give the argument, and the object of them the
field of it that has no name. -/
theorem EndsInDot.at? {args : Args} {path : List Char} {v : Json} (h : args.EndsInDot path v) :
    args.at? path = some v ∧ Json.at? (.obj args) path = v.field? "" := by
  obtain ⟨name, hcut, hget⟩ := endsInDot_iff.mp h
  have hne : path ≠ [] := by
    rintro rfl
    exact absurd hcut nofun
  constructor
  · rw [at?_of_ne_nil args hne, hcut, hget]
    rfl
  · have hfield : (Json.obj args).segment? name = some v := hget
    rw [Json.at?_of_ne_nil _ hne, hcut]
    dsimp only
    rw [hfield, Option.bind_some, Json.descend?_pieces_nil]

/-- On every other path the arguments and the object of them agree. -/
theorem at?_eq_of_forall {args : Args} {path : List Char} (h : ∀ v, ¬args.EndsInDot path v) :
    args.at? path = Json.at? (.obj args) path := by
  by_cases hne : path = []
  · rw [hne]
    rfl
  rw [at?_of_ne_nil args hne, Json.at?_of_ne_nil _ hne]
  rcases hcut : Text.cut '.' path with ⟨name, tail⟩
  have hsegment : (Json.obj args).segment? name = Entries.get? args (String.ofList name) := rfl
  cases tail with
  | none =>
    -- The whole path is the name, and the empty path that is left stands for the argument.
    show (Entries.get? args (String.ofList name)).bind (·.at? []) = (Json.obj args).segment? name
    simp only [hsegment, Json.at?_nil, Option.bind_fun_some]
  | some tail =>
    dsimp only
    rw [hsegment, Option.getD_some]
    cases hget : Entries.get? args (String.ofList name) with
    | none => rfl
    | some v =>
      have htail : tail ≠ [] := by
        rintro rfl
        exact h v (endsInDot_iff.mpr ⟨name, hcut, hget⟩)
      rw [Option.bind_some, Option.bind_some, Json.at?, if_neg htail]

/-- The arguments and the object of them agree on a path unless it is the name of an argument with a
dot behind it. -/
theorem at?_eq_iff {args : Args} {path : List Char} :
    args.at? path = Json.at? (.obj args) path ↔ ∀ v, ¬args.EndsInDot path v := by
  refine ⟨fun heq v hdot => ?_, at?_eq_of_forall⟩
  obtain ⟨hargs, hobj⟩ := hdot.at?
  rw [hargs, hobj] at heq
  exact Json.field?_ne_self v "" heq.symm

end Args

/-! ## Sources -/

namespace Marker.Source

/-- The arguments answer a path as a value does that is the object of the same entries, unless the
path is the name of an entry with a dot behind it. Of such a path the arguments give the entry, and
the value gives the field of the entry that has no name, if it is an object with such a field.
Constants with the same entries answer every path but the empty one as the arguments do, and the
empty one as an entry without a name, where the others give all entries. -/
theorem paths_agree (entries given : Args) (path : List Char) :
    (Source.args entries path = Source.value (.obj entries) given path ↔
      ∀ v, ¬entries.EndsInDot path v) ∧
    (∀ v, entries.EndsInDot path v →
      Source.args entries path = .ok (some v) ∧
        Source.value (.obj entries) given path = .ok (v.field? "")) ∧
    (path ≠ [] → Source.constants entries given path = Source.args entries path) ∧
    Source.constants entries given [] = .ok (Entries.get? entries "") ∧
    Source.args entries [] = .ok (some (.obj entries)) := by
  refine ⟨?_, fun v hdot => ?_, fun hne => ?_, ?_, rfl⟩
  · -- Both sources answer alike unless the path ends in the dot of an entry.
    rw [Source.args, Source.value, Except.ok.injEq]
    exact Args.at?_eq_iff
  · obtain ⟨hargs, hobj⟩ := hdot.at?
    exact ⟨congrArg Except.ok hargs, congrArg Except.ok hobj⟩
  · rw [Source.constants, Source.args, Args.at?_of_ne_nil entries hne]
  · show Except.ok ((Entries.get? entries "").bind (·.at? [])) = _
    simp only [Json.at?_nil, Option.bind_fun_some]

/-- Behind a name and a dot the arguments and the constants give the whole of what the name stands
for, and a value with the same field gives nothing. -/
theorem paths_disagree :
    Source.args [("a", .int 1)] ['a', '.'] = .ok (some (.int 1)) ∧
      Source.constants [("a", .int 1)] [] ['a', '.'] = .ok (some (.int 1)) ∧
      Source.value (.obj [("a", .int 1)]) [] ['a', '.'] = .ok none :=
  ⟨rfl, rfl, rfl⟩

end Marker.Source

end AccessPolicy
