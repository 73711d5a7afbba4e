import AccessPolicy.Policy.Failure

/-!
# Evaluation with errors

A source answers a token, or it says why the answer cannot be written. The questions that a policy
is asked carry no such error: next to each of them stands a function that tells whether it can be
answered (`Policy.decisionFails` next to `Policy.decide?`). Here the evaluation is written with the
error of the source in it, from a token up to a decision, a param, a listing and the compilation of
a document. It takes its steps in order and makes tests only until the matter is settled.

`Yields` says what the two have to do with each other: the evaluation ends in an error exactly if
the one function says so, and otherwise in what the other one gives. That holds of a token by
definition, and each construct of the evaluation keeps it: one step after another (`Yields.bind`), a
step for each element of a list (`Yields.mapM`), and tests in a row of which the first settling one
is the last (`Yields.allM`, `Yields.anyM`, `Yields.findSomeM?`).
-/

namespace AccessPolicy

open Marker (Resolver Segment)

/-! ## Errors and values -/

/-- Whether a computation ends in an error if `fails` is true, and in the value if not. -/
def Yields {ε α : Type} (x : Except ε α) (fails : Bool) (v : α) : Prop :=
  if fails then ∃ e, x = .error e else x = .ok v

namespace Yields

variable {ε α β : Type}

/-- A value that is at hand. -/
theorem ok (v : α) : Yields (.ok v : Except ε α) false v :=
  rfl

/-- One step after another fails if the first one does, or if the second one does on its result. -/
theorem bind {x : Except ε α} {f : α → Except ε β} {p q : Bool} {v : α} {w : β}
    (hx : Yields x p v) (hf : Yields (f v) q w) : Yields (x >>= f) (p || q) w := by
  cases p with
  | true =>
    obtain ⟨e, rfl⟩ : ∃ e, x = .error e := hx
    exact ⟨e, rfl⟩
  | false =>
    obtain rfl : x = .ok v := hx
    exact hf

/-- What is made of a result fails where the result does. -/
theorem map {x : Except ε α} {fails : Bool} {v : α} (f : α → β) (h : Yields x fails v) :
    Yields (x.map f) fails (f v) := by
  cases fails with
  | true =>
    obtain ⟨e, rfl⟩ : ∃ e, x = .error e := h
    exact ⟨e, rfl⟩
  | false =>
    obtain rfl : x = .ok v := h
    rfl

section Lists

variable {xs : List α} {p : α → Bool}

/-- A step for each element of a list fails if one of them does. -/
theorem mapM {f : α → Except ε β} {g : α → β} (h : ∀ a ∈ xs, Yields (f a) (p a) (g a)) :
    Yields (xs.mapM f) (xs.any p) (xs.map g) := by
  induction xs with
  | nil => rfl
  | cons a xs ih =>
    obtain ⟨ha, hxs⟩ := List.forall_mem_cons.mp h
    have hrest := (ih hxs).map (g a :: ·)
    rw [List.mapM_cons]
    exact ha.bind hrest

variable {f : α → Except ε Bool} {g : α → Bool}

/-- Tests in a row that all have to succeed are made up to the first one that does not. -/
theorem allM (h : ∀ a ∈ xs, Yields (f a) (p a) (g a)) :
    Yields (xs.allM f) (failsBefore false (xs.map fun a => (p a, g a))) (xs.all g) := by
  induction xs with
  | nil => rfl
  | cons a xs ih =>
    obtain ⟨ha, hxs⟩ := List.forall_mem_cons.mp h
    refine ha.bind ?_
    rw [List.all_cons]
    cases g a with
    | true => exact ih hxs
    | false => rfl

/-- Tests in a row of which one has to succeed are made up to the first one that does. -/
theorem anyM (h : ∀ a ∈ xs, Yields (f a) (p a) (g a)) :
    Yields (xs.anyM f) (failsBefore true (xs.map fun a => (p a, g a))) (xs.any g) := by
  induction xs with
  | nil => rfl
  | cons a xs ih =>
    obtain ⟨ha, hxs⟩ := List.forall_mem_cons.mp h
    refine ha.bind ?_
    rw [List.any_cons]
    cases g a with
    | true => rfl
    | false => exact ih hxs

/-- Of several questions in a row the first one that has an answer is the last one that is asked. -/
theorem findSomeM? {f : α → Except ε (Option β)} {g : α → Option β}
    (h : ∀ a ∈ xs, Yields (f a) (p a) (g a)) :
    Yields (xs.findSomeM? f) (failsBefore true (xs.map fun a => (p a, (g a).isSome)))
      (xs.findSome? g) := by
  induction xs with
  | nil => rfl
  | cons a xs ih =>
    obtain ⟨ha, hxs⟩ := List.forall_mem_cons.mp h
    refine ha.bind ?_
    rw [List.findSome?_cons]
    cases g a with
    | some v => rfl
    | none => exact ih hxs

end Lists

end Yields

/-! ## Markers -/

namespace Marker

/-- A text without a marker has no tokens. -/
theorem tokens_eq_nil {s : String} (h : ¬hasMarker s = true) : tokens s = [] := by
  refine List.filterMap_eq_nil_iff.mpr fun seg hseg => ?_
  cases seg with
  | text cs => rfl
  | marker token => exact absurd (List.any_eq_true.mpr ⟨_, hseg, rfl⟩) h

namespace Resolver

variable (r : Resolver) (args : Args)

/-- The value of a token, or why it cannot be written. -/
def tryLookup (token : List Char) : Except Calendar.Unwritable Json :=
  (r.ask args token).map fun answer => answer.getD .null

/-- The text that a part of a text resolves to, or why it cannot be written. -/
def trySegment : Segment → Except Calendar.Unwritable (List Char)
  | .text cs => .ok cs
  | .marker token => (r.tryLookup args token).map fun v => (spliced v).toList

/-- The value that a text resolves to, or why it cannot be written. -/
def tryResolve (template : String) : Except Calendar.Unwritable Json :=
  match segments template.toList with
  | [.marker token] => r.tryLookup args token
  | segs => (segs.mapM (r.trySegment args)).map fun parts => .str (String.ofList parts.flatten)

mutual

/-- The value with the markers in its strings resolved, or why one of them cannot be written. -/
def tryResolveAll : Json → Except Calendar.Unwritable Json
  | .str s => if hasMarker s then r.tryResolve args s else .ok (.str s)
  | .arr items => (tryResolveItems items).map .arr
  | .obj fields => (tryResolveFields fields).map .obj
  | v => .ok v

/-- The elements of an array with their markers resolved. -/
def tryResolveItems : List Json → Except Calendar.Unwritable (List Json)
  | [] => .ok []
  | v :: vs => do
    let w ← tryResolveAll v
    (tryResolveItems vs).map (w :: ·)

/-- The fields of an object with the markers in their values resolved. -/
def tryResolveFields : List (String × Json) → Except Calendar.Unwritable (List (String × Json))
  | [] => .ok []
  | (k, v) :: fs => do
    let w ← tryResolveAll v
    (tryResolveFields fs).map ((k, w) :: ·)

end

/-- A token fails if its answer cannot be written, and has the value of the answer if not. -/
theorem tryLookup_yields (token : List Char) :
    Yields (r.tryLookup args token) (r.fails args token) (r.lookup args token) := by
  unfold tryLookup fails lookup
  rcases r.ask args token with e | answer
  · exact ⟨e, rfl⟩
  · cases answer <;> rfl

/-- A text fails if one of its tokens does. -/
theorem tryResolve_yields (s : String) :
    Yields (r.tryResolve args s) (r.failsAny args (tokens s)) (r.resolve args s) := by
  have hsegment : ∀ seg, Yields (r.trySegment args seg) (seg.token?.any (r.fails args))
      (r.segmentChars args seg) := by
    intro seg
    cases seg with
    | text cs => rfl
    | marker token => exact (r.tryLookup_yields args token).map _
  have hany : (segments s.toList).any (fun seg => seg.token?.any (r.fails args)) =
      r.failsAny args (tokens s) := by
    rw [failsAny, tokens, List.any_filterMap]
    exact congrArg _ (funext fun seg => by cases seg.token? <;> rfl)
  have hparts : ∀ segs : List Segment,
      Yields
        ((segs.mapM (r.trySegment args)).map fun parts => Json.str (String.ofList parts.flatten))
        (segs.any fun seg => seg.token?.any (r.fails args))
        (.str (String.ofList (segs.flatMap (r.segmentChars args)))) := by
    intro segs
    rw [List.flatMap_def]
    exact (Yields.mapM fun seg _ => hsegment seg).map fun parts =>
      Json.str (String.ofList parts.flatten)
  unfold tryResolve resolve
  rw [← hany]
  generalize segments s.toList = segs
  -- A text that is a single marker resolves to the value itself, and any other one to a string.
  cases segs with
  | nil => exact hparts []
  | cons seg segs =>
    cases seg with
    | text cs => exact hparts (.text cs :: segs)
    | marker token =>
      cases segs with
      | nil =>
        rw [List.any_cons, List.any_nil, Bool.or_false]
        exact r.tryLookup_yields args token
      | cons other segs => exact hparts (.marker token :: other :: segs)

variable {r args} in
/-- What is made of a text fails where its tokens do, if a text without a marker is left as it
is. -/
theorem unlessMarker_yields {α : Type} {s : String} {x : Except Calendar.Unwritable α} {v w : α}
    (hx : Yields x (r.failsAny args (tokens s)) v) :
    Yields (if hasMarker s then x else .ok w) (r.failsAny args (tokens s))
      (if hasMarker s then v else w) := by
  by_cases hmarker : hasMarker s = true
  · rwa [if_pos hmarker, if_pos hmarker]
  · -- Such a text has no tokens that could fail.
    rw [if_neg hmarker, if_neg hmarker, tokens_eq_nil hmarker]
    rfl

mutual

/-- A value fails if one of the tokens in its strings does. -/
theorem tryResolveAll_yields : ∀ v : Json,
    Yields (r.tryResolveAll args v) (r.failsAny args (tokensOf v)) (r.resolveAll args v)
  | .str s => by
    rw [tryResolveAll, resolveAll, tokensOf]
    exact unlessMarker_yields (r.tryResolve_yields args s)
  | .arr items => by
    rw [tryResolveAll, resolveAll]
    exact (tryResolveItems_yields items).map Json.arr
  | .obj fields => by
    rw [tryResolveAll, resolveAll]
    exact (tryResolveFields_yields fields).map Json.obj
  | .null | .bool _ | .int _ | .float _ => rfl

/-- The same for the elements of an array. -/
theorem tryResolveItems_yields : ∀ items : List Json,
    Yields (r.tryResolveItems args items) (r.failsAny args (tokensOfItems items))
      (r.resolveItems args items)
  | [] => rfl
  | v :: vs => by
    rw [tokensOfItems, failsAny, List.any_append]
    exact (tryResolveAll_yields v).bind ((tryResolveItems_yields vs).map _)

/-- The same for the fields of an object. -/
theorem tryResolveFields_yields : ∀ fields : List (String × Json),
    Yields (r.tryResolveFields args fields) (r.failsAny args (tokensOfFields fields))
      (r.resolveFields args fields)
  | [] => rfl
  | (k, v) :: fs => by
    rw [tokensOfFields, failsAny, List.any_append]
    exact (tryResolveAll_yields v).bind ((tryResolveFields_yields fs).map _)

end

end Resolver

end Marker

/-! ## Conditions -/

namespace Condition

variable (r : Resolver) (args : Args)

/-- The value of an operand, or why one of its tokens cannot be written. -/
def tryOperand (raw : Json) : Except Calendar.Unwritable Value :=
  (r.tryResolveAll args raw).map Value.ofLiterals

/-- Whether an operator holds of a set, or why one of its operands cannot be written. All pairs are
resolved before the operator looks at them. -/
def trySetHolds (op : Operator) : Option PairSet → Except Calendar.Unwritable Bool
  | some set => do
    let pairs ← set.pairs.mapM fun p => do
      let left ← tryOperand r args p.1
      (tryOperand r args p.2).map (left, ·)
    return op.holds set.combinator pairs
  | none => .ok false

/-- Whether a group holds, its sets being looked at up to the first one that does not. -/
def Group.tryHolds (g : Group) : Except Calendar.Unwritable Bool :=
  match g.operator? with
  | some op => if g.sets.isEmpty then .ok false else g.sets.allM (trySetHolds r args op)
  | none => .ok false

/-- Whether a block holds. If all its operators are known, its groups are looked at until they
settle the matter. -/
def Block.tryHolds (b : Block) : Except Calendar.Unwritable Bool :=
  if b.groups.isEmpty then .ok true
  else if b.groups.all (fun g => g.operator?.isSome) then
    match b.combinator with
    | .all => b.groups.allM fun g => g.tryHolds r args
    | .any => b.groups.anyM fun g => g.tryHolds r args
  else .ok false

/-- Whether a condition holds, or why that cannot be told. -/
def tryHolds (condition : Condition) : Except Calendar.Unwritable Bool :=
  match Block.ofJson? condition with
  | some b => b.tryHolds r args
  | none => .ok false

/-- An operand fails if one of its tokens does. -/
theorem tryOperand_yields (raw : Json) :
    Yields (tryOperand r args raw) (r.failsAny args (Marker.tokensOf raw)) (operand r args raw) :=
  (r.tryResolveAll_yields args raw).map Value.ofLiterals

/-- A set fails if one of its operands does. -/
theorem trySetHolds_yields (op : Operator) (set : Option PairSet) :
    Yields (trySetHolds r args op set) (setFails r args set) (setHolds r args op set) := by
  cases set with
  | none => rfl
  | some set =>
    -- Both operands are resolved, the left one first.
    have hpair : ∀ p ∈ set.pairs, Yields (do
          let left ← tryOperand r args p.1
          (tryOperand r args p.2).map (left, ·))
        (r.failsAny args (Marker.tokensOf p.1 ++ Marker.tokensOf p.2))
        (operand r args p.1, operand r args p.2) := by
      intro p _
      rw [Marker.Resolver.failsAny, List.any_append]
      exact (tryOperand_yields r args p.1).bind ((tryOperand_yields r args p.2).map _)
    exact (Yields.mapM hpair).map (op.holds set.combinator)

/-- A group fails if a set does that is reached. -/
theorem Group.tryHolds_yields (g : Group) :
    Yields (g.tryHolds r args) (g.fails r args) (g.holds r args) := by
  unfold Group.tryHolds Group.fails Group.holds
  cases g.operator? with
  | none => rfl
  | some op =>
    dsimp only
    by_cases hempty : g.sets.isEmpty = true
    · rw [if_pos hempty, List.isEmpty_iff.mp hempty]
      rfl
    · rw [if_neg hempty, Bool.eq_false_iff.mpr hempty, Bool.not_false, Bool.true_and]
      exact Yields.allM fun set _ => trySetHolds_yields r args op set

/-- A block fails if its operators are known and a group does that is reached. -/
theorem Block.tryHolds_yields (b : Block) :
    Yields (b.tryHolds r args) (b.fails r args) (b.holds r args) := by
  have hgroups : ∀ g ∈ b.groups, Yields (g.tryHolds r args) (g.fails r args) (g.holds r args) :=
    fun g _ => g.tryHolds_yields r args
  unfold Block.tryHolds Block.fails Block.holds
  by_cases hempty : b.groups.isEmpty = true
  · rw [if_pos hempty, List.isEmpty_iff.mp hempty]
    rfl
  · -- The groups are only asked if all of them have an operator.
    rw [if_neg hempty, Bool.eq_false_iff.mpr hempty, Bool.false_or]
    by_cases hknown : (b.groups.all fun g => g.operator?.isSome) = true
    · rw [if_pos hknown, hknown, Bool.true_and, Bool.true_and]
      cases b.combinator with
      | all =>
        -- All groups are asked until one does not hold.
        rw [Combinator.fold, List.all_map]
        exact Yields.allM hgroups
      | any =>
        -- All groups are asked until one holds.
        rw [Combinator.fold, List.any_map]
        exact Yields.anyM hgroups
    · rw [if_neg hknown, Bool.eq_false_iff.mpr hknown]
      rfl

/-- A condition fails if its block does. -/
theorem tryHolds_yields (condition : Condition) :
    Yields (tryHolds r args condition) (condition.fails r args) (condition.holds r args) := by
  unfold tryHolds fails holds
  cases Block.ofJson? condition with
  | none => rfl
  | some b => exact b.tryHolds_yields r args

end Condition

/-! ## Params -/

namespace Value

variable (r : Resolver) (args : Args)

mutual

/-- The value with the markers that its strings still hold resolved, or why one of them cannot be
written. -/
def tryResolveMarkers : Value → Except Calendar.Unwritable Value
  | .str s => if Marker.hasMarker s then (r.tryResolve args s).map ofLiterals else .ok (.str s)
  | .arr items => (tryResolveMarkersItems items).map .arr
  | .obj fields => (tryResolveMarkersFields fields).map .obj
  | v => .ok v

/-- The elements of an array with their markers resolved. -/
def tryResolveMarkersItems : List Value → Except Calendar.Unwritable (List Value)
  | [] => .ok []
  | v :: vs => do
    let w ← tryResolveMarkers v
    (tryResolveMarkersItems vs).map (w :: ·)

/-- The fields of an object with the markers in their values resolved. -/
def tryResolveMarkersFields :
    List (String × Value) → Except Calendar.Unwritable (List (String × Value))
  | [] => .ok []
  | (k, v) :: fs => do
    let w ← tryResolveMarkers v
    (tryResolveMarkersFields fs).map ((k, w) :: ·)

end

mutual

/-- A value fails if one of the tokens in its strings does. -/
theorem tryResolveMarkers_yields : ∀ v : Value,
    Yields (tryResolveMarkers r args v) (r.failsAny args v.tokens) (v.resolveMarkers r args)
  | .str s => by
    rw [tryResolveMarkers, resolveMarkers, tokens]
    exact Resolver.unlessMarker_yields ((r.tryResolve_yields args s).map ofLiterals)
  | .arr items => by
    rw [tryResolveMarkers, resolveMarkers]
    exact (tryResolveMarkersItems_yields items).map Value.arr
  | .obj fields => by
    rw [tryResolveMarkers, resolveMarkers]
    exact (tryResolveMarkersFields_yields fields).map Value.obj
  | .null | .bool _ | .int _ | .float _ | .address _ | .instant _ | .network _ | .invalid _ => rfl

/-- The same for the elements of an array. -/
theorem tryResolveMarkersItems_yields : ∀ items : List Value,
    Yields (tryResolveMarkersItems r args items) (r.failsAny args (tokensOfItems items))
      (resolveMarkersItems r args items)
  | [] => rfl
  | v :: vs => by
    rw [tokensOfItems, Marker.Resolver.failsAny, List.any_append]
    exact (tryResolveMarkers_yields v).bind ((tryResolveMarkersItems_yields vs).map _)

/-- The same for the fields of an object. -/
theorem tryResolveMarkersFields_yields : ∀ fields : List (String × Value),
    Yields (tryResolveMarkersFields r args fields) (r.failsAny args (tokensOfFields fields))
      (resolveMarkersFields r args fields)
  | [] => rfl
  | (k, v) :: fs => by
    rw [tokensOfFields, Marker.Resolver.failsAny, List.any_append]
    exact (tryResolveMarkers_yields v).bind ((tryResolveMarkersFields_yields fs).map _)

end

end Value

/-! ## Policies -/

namespace Policy

variable (p : Policy) (args : Args)

/-- Whether an entry with a condition applies, or why that cannot be told. -/
def tryApplies : Option Condition → Except Calendar.Unwritable Bool
  | some condition => condition.tryHolds p.resolver args
  | none => .ok true

/-- Whether access to a slot is allowed, or why that cannot be told. -/
def tryDecide (slot : String) : Except Calendar.Unwritable (Option Bool) :=
  match p.tree.statement? slot with
  | some s => (p.tryApplies args s.condition).map fun applies =>
    if applies then some s.allows else none
  | none => .ok none

/-- Whether an action on an instance is allowed, its names being asked for up to the first one that
is decided. -/
def tryDecideInstance (category inst action : String) :
    Except Calendar.Unwritable (Option Bool) :=
  (p.handlers.names category inst args).findSomeM? fun name => p.tryDecide args (slotOf name action)

/-- What an entry gives if it applies, or why that cannot be told. -/
def tryEntry {α : Type} (condition : Option Condition) (x : Except Calendar.Unwritable α) :
    Except Calendar.Unwritable (Option α) := do
  if ← p.tryApplies args condition then x.map some else return none

/-- The value of a param, or why it cannot be given. -/
def tryParam (key : String) : Except Calendar.Unwritable (Option Value) :=
  match p.tree.param? key with
  | some param =>
    p.tryEntry args param.condition (param.value.tryResolveMarkers p.resolver args)
  | none => .ok none

/-- What a slot contributes to the listing of a prefix, or why that cannot be told. -/
def tryListed (start : String) (slot : String × Statement) :
    Except Calendar.Unwritable (Option (String × Statement)) :=
  match suffix? start slot.1 with
  | some suffix =>
    p.tryEntry args slot.2.condition
      ((p.resolver.tryResolveFields args slot.2.metadata).map fun metadata =>
        (suffix, { slot.2 with metadata }))
  | none => .ok none

/-- The statements that apply to the resources under a prefix, or why they cannot be told. -/
def tryResources (start : String) : Except Calendar.Unwritable (Table Statement) :=
  (p.tree.statements.entries.mapM (p.tryListed args (Text.lowercase start))).map fun listed =>
    .ofPairs (listed.filterMap id)

/-- An entry fails if its condition does. -/
theorem tryApplies_yields (condition : Option Condition) :
    Yields (p.tryApplies args condition) (p.conditionFails args condition)
      (p.applies args condition) := by
  cases condition with
  | none => rfl
  | some condition => exact Condition.tryHolds_yields p.resolver args condition

/-- A decision fails if the condition of the statement in the slot does. -/
theorem tryDecide_yields (slot : String) :
    Yields (p.tryDecide args slot) (p.decisionFails args slot) (p.decide? args slot) := by
  unfold tryDecide decisionFails
  rcases hs : p.tree.statement? slot with _ | s
  · rw [decide?, applicable?, hs]
    rfl
  · rw [decide?_of_statement? hs]
    exact (p.tryApplies_yields args s.condition).map _

/-- A decision on an instance fails if the decision under one of its names does that is reached. -/
theorem tryDecideInstance_yields (category inst action : String) :
    Yields (p.tryDecideInstance args category inst action)
      (p.instanceFails args category inst action) (p.decideInstance? args category inst action) :=
  Yields.findSomeM? fun name _ => p.tryDecide_yields args (slotOf name action)

/-- An entry fails if its condition does or, where that holds, one of the tokens in what it
gives. -/
theorem tryEntry_yields {α : Type} (condition : Option Condition) {tokens : List (List Char)}
    {x : Except Calendar.Unwritable α} {v : α} (hx : Yields x (p.resolver.failsAny args tokens) v) :
    Yields (p.tryEntry args condition x) (p.entryFails args condition tokens)
      (if p.applies args condition then some v else none) := by
  refine (p.tryApplies_yields args condition).bind ?_
  cases p.applies args condition with
  | true => exact hx.map some
  | false => rfl

/-- The value of a param fails if its entry does. -/
theorem tryParam_yields (key : String) :
    Yields (p.tryParam args key) (p.paramFails args key) (p.param? args key) := by
  unfold tryParam paramFails param?
  rcases p.tree.param? key with _ | param
  · rfl
  · rw [Option.filter_some, apply_ite (Option.map _)]
    exact p.tryEntry_yields args _ (param.value.tryResolveMarkers_yields p.resolver args)

/-- A slot fails to be listed if it is under the prefix and its entry fails. -/
theorem tryListed_yields (start : String) (slot : String × Statement) :
    Yields (p.tryListed args start slot)
      ((suffix? start slot.1).isSome &&
        p.entryFails args slot.2.condition (Marker.tokensOfFields slot.2.metadata))
      (p.listed? args start slot) := by
  unfold tryListed listed?
  rcases suffix? start slot.1 with _ | suffix
  · rw [Option.map_none, ite_self]
    rfl
  · have hmetadata := (p.resolver.tryResolveFields_yields args slot.2.metadata).map
      fun metadata => (suffix, { slot.2 with metadata })
    rw [Option.isSome_some, Bool.true_and]
    exact p.tryEntry_yields args slot.2.condition hmetadata

/-- A listing fails if one of the slots under the prefix does. -/
theorem tryResources_yields (start : String) :
    Yields (p.tryResources args start) (p.listingFails args start) (p.resources args start) := by
  have hlisted : Yields (p.tree.statements.entries.mapM (p.tryListed args (Text.lowercase start)))
      (p.listingFails args start)
      (p.tree.statements.entries.map (p.listed? args (Text.lowercase start))) :=
    Yields.mapM fun slot _ => p.tryListed_yields args (Text.lowercase start) slot
  have htable := hlisted.map fun listed => (Table.ofPairs (listed.filterMap id) : Table Statement)
  rw [List.filterMap_map] at htable
  exact htable

end Policy

/-! ## Documents -/

namespace Resource

variable (r : Resolver) (args : Args)

/-- The text that a text resolves to, or why it cannot be written. -/
def tryResolved (raw : String) : Except Calendar.Unwritable String :=
  if Marker.hasMarker raw then (r.tryResolve args raw).map Marker.spliced else .ok raw

/-- The value of an expression, or why it cannot be written. -/
def tryExpressionValue (expression : List Char) : Except Calendar.Unwritable Json :=
  if Marker.hasMarker (String.ofList expression) then r.tryResolve args (String.ofList expression)
  else r.tryLookup args expression

/-- The names that a resource stands for, or why they cannot be told. The expression of a mapping is
resolved before the template. -/
def tryNames (raw : String) : Except Calendar.Unwritable (List String) :=
  match mapping? raw.toList with
  | some (template, expression) => do
    let value ← tryExpressionValue r args expression
    let template ← tryResolved r args (String.ofList template)
    return ((mappedTexts value).map fun text =>
      String.ofList (fill text.toList template.toList)).filter fun name => name ≠ ""
  | none => (tryResolved r args raw).map fun name => [name].filter fun name => name ≠ ""

/-- A text fails if one of its tokens does. -/
theorem tryResolved_yields (raw : String) :
    Yields (tryResolved r args raw) (r.failsAny args (Marker.tokens raw))
      (resolved r args raw) :=
  Resolver.unlessMarker_yields ((r.tryResolve_yields args raw).map Marker.spliced)

/-- An expression fails if one of its tokens does or, where it has none, the token that it is. -/
theorem tryExpressionValue_yields (expression : List Char) :
    Yields (tryExpressionValue r args expression)
      (r.failsAny args (if Marker.hasMarker (String.ofList expression)
        then Marker.tokens (String.ofList expression) else [expression]))
      (expressionValue r args expression) := by
  unfold tryExpressionValue expressionValue
  by_cases hmarker : Marker.hasMarker (String.ofList expression) = true
  · rw [if_pos hmarker, if_pos hmarker, if_pos hmarker]
    exact r.tryResolve_yields args _
  · rw [if_neg hmarker, if_neg hmarker, if_neg hmarker, Marker.Resolver.failsAny, List.any_cons,
      List.any_nil, Bool.or_false]
    exact r.tryLookup_yields args expression

/-- A resource fails if one of the tokens does that its names depend on. -/
theorem tryNames_yields (raw : String) :
    Yields (tryNames r args raw) (r.failsAny args (tokens raw)) (names r args raw) := by
  unfold tryNames tokens names candidates
  rcases mapping? raw.toList with _ | ⟨template, expression⟩
  · exact (tryResolved_yields r args raw).map _
  · rw [Marker.Resolver.failsAny, List.any_append]
    exact (tryExpressionValue_yields r args expression).bind
      ((tryResolved_yields r args (String.ofList template)).map _)

end Resource

namespace Document

variable (r : Resolver) (args : Args)

/-- The slots that a declaration writes, or why they cannot be told. -/
def tryWrites (declared : StatementDeclaration) :
    Except Calendar.Unwritable (List (String × Statement)) :=
  (declared.resources.mapM (Resource.tryNames r args)).map fun names =>
    (names.flatten.flatMap fun name => declared.actions.map (slotOf name)).map
      fun slot => (slot, declared.statement)

/-- The param that a declaration writes, or why its key cannot be told. -/
def tryParamWrites (declared : ParamDeclaration) :
    Except Calendar.Unwritable (List (String × Param)) :=
  (Resource.tryResolved r args declared.key).map fun key =>
    if key = "" then [] else [(key, declared.param)]

/-- The tree after the writes of a document, or why these cannot be told. -/
def tryAdd (t : Tree) (d : Document) : Except Calendar.Unwritable Tree := do
  let statements ← d.statements.mapM (tryWrites r args)
  let params ← d.params.mapM (tryParamWrites r args)
  return params.flatten.foldl (fun t w => t.addParam w.1 w.2)
    (statements.flatten.foldl (fun t w => t.addStatement w.1 w.2) t)

/-- A declaration of a statement fails if one of its resources does. -/
theorem tryWrites_yields (declared : StatementDeclaration) :
    Yields (tryWrites r args declared)
      (declared.resources.any fun raw => r.failsAny args (Resource.tokens raw))
      (declared.writes r args) := by
  have hnames : Yields (declared.resources.mapM (Resource.tryNames r args))
      (declared.resources.any fun raw => r.failsAny args (Resource.tokens raw))
      (declared.resources.map (Resource.names r args)) :=
    Yields.mapM fun raw _ => Resource.tryNames_yields r args raw
  rw [StatementDeclaration.writes, StatementDeclaration.slots, StatementDeclaration.names,
    List.flatMap_def]
  exact hnames.map _

/-- A document fails to be compiled if one of its resources or keys does. -/
theorem tryAdd_yields (t : Tree) (d : Document) :
    Yields (tryAdd r args t d) (d.fails r args) (t.addDocument r args d) := by
  have hstatements : Yields (d.statements.mapM (tryWrites r args))
      (d.statements.any fun s => s.resources.any fun raw => r.failsAny args (Resource.tokens raw))
      (d.statements.map fun s => s.writes r args) :=
    Yields.mapM fun declared _ => tryWrites_yields r args declared
  have hparams : Yields (d.params.mapM (tryParamWrites r args))
      (d.params.any fun declared => r.failsAny args (Marker.tokens declared.key))
      (d.params.map fun declared => declared.writes r args) :=
    Yields.mapM fun declared _ => (Resource.tryResolved_yields r args declared.key).map _
  rw [Tree.addDocument, statementWrites, paramWrites, List.flatMap_def, List.flatMap_def]
  exact hstatements.bind (hparams.map _)

end Document

end AccessPolicy
