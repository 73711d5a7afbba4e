import AccessPolicy.Policy.Failure
import AccessPolicy.Proofs.Text.LowerCase

/-!
# Decisions on instances

An instance of a category goes by the identifiers that the handler of the category lists. They are
made into names, empty ones left out and repeated ones taken once, and the first name that is
decided gives the decision. `Policy.decideInstance?_first` shows that this is the plain search: to
ask about each identifier in the handler's order, as a host would that wrote
`category:identifier:action`, and to stop at the first answer.

The search is done on names without repetitions, and the argument is that a name left out could not
have changed it (`findSome?_eraseDups`): if it was decided the first time, the search is over, and
if it was not, it is not decided the second time either. It is the same argument for the questions
that cannot be answered, since these end the search as well.
-/

namespace AccessPolicy

/-! ## Searching a list for the first answer -/

section Search

variable {α β : Type}

/-- A search asks only the elements that are kept. -/
theorem findSome?_filter (keep : α → Bool) (f : α → Option β) (as : List α) :
    (as.filter keep).findSome? f = as.findSome? fun a => if keep a then f a else none := by
  induction as with
  | nil => rfl
  | cons a as ih =>
    by_cases ha : keep a = true
    · rw [List.filter_cons_of_pos ha, List.findSome?_cons, List.findSome?_cons, if_pos ha, ih]
    · rw [List.filter_cons_of_neg ha, List.findSome?_cons, if_neg ha, ih]

/-- A search finds the same in a list without its repetitions. -/
theorem findSome?_eraseDups [BEq α] [LawfulBEq α] (f : α → Option β) :
    ∀ as : List α, as.eraseDups.findSome? f = as.findSome? f
  | [] => rfl
  | a :: as => by
    rw [List.eraseDups_cons, List.findSome?_cons, List.findSome?_cons]
    cases ha : f a with
    | some b => rfl
    | none =>
      -- Whatever is left out is `a` again, and has no answer either.
      have hleftOut : (fun b => if !b == a then f b else none) = f := by
        funext b
        by_cases hb : b = a
        · subst hb
          rw [ha, ite_self]
        · rw [if_pos (by simpa using hb)]
      show (as.filter fun b => !b == a).eraseDups.findSome? f = as.findSome? f
      rw [findSome?_eraseDups f (as.filter fun b => !b == a), findSome?_filter, hleftOut]
  termination_by as => as.length
  decreasing_by exact Nat.lt_succ_of_le (List.length_filter_le _ as)

/-- A search finds the same in two lists that differ in their repetitions only. -/
theorem findSome?_eq_of_eraseDups_eq [BEq α] [LawfulBEq α] {as bs : List α}
    (h : as.eraseDups = bs.eraseDups) (f : α → Option β) : as.findSome? f = bs.findSome? f := by
  calc as.findSome? f = as.eraseDups.findSome? f := (findSome?_eraseDups f as).symm
    _ = bs.eraseDups.findSome? f := by rw [h]
    _ = bs.findSome? f := findSome?_eraseDups f bs

/-- A search that asks only the elements with a property finds an answer at the first one of them
that has one. -/
theorem findSome?_ite_eq_some_iff {p : α → Prop} [DecidablePred p] {f : α → Option β} {as : List α}
    {b : β} :
    (as.findSome? fun a => if p a then f a else none) = some b ↔
      ∃ before a after, as = before ++ a :: after ∧ p a ∧ f a = some b ∧
        ∀ x ∈ before, p x → f x = none := by
  rw [List.findSome?_eq_some_iff]
  refine exists_congr fun before => exists_congr fun a => exists_congr fun after =>
    and_congr_right fun _ => ?_
  rw [← and_assoc]
  refine and_congr ?_ (forall₂_congr fun x _ => ite_eq_right_iff)
  by_cases ha : p a
  · simp only [ha, if_true, true_and]
  · simp only [ha, if_false, false_and, reduceCtorEq]

/-- How a test ends a row of tests, if it does: whether it fails, or else settles the matter. -/
def ending? (fails settles : Bool) : Option Bool :=
  if fails then some true else if settles then some false else none

/-- A row of tests ends by failing at a test that fails. -/
theorem ending?_eq_some_true_iff {fails settles : Bool} :
    ending? fails settles = some true ↔ fails = true := by
  cases fails <;> cases settles <;> decide

/-- A row of tests goes on behind a test that neither fails nor settles the matter. -/
theorem ending?_eq_none_iff {fails settles : Bool} :
    ending? fails settles = none ↔ fails = false ∧ settles = false := by
  cases fails <;> cases settles <;> decide

/-- A row of tests fails if the first test that ends it does. -/
theorem failsBefore_eq_findSome? (settled : Bool) (tests : List (Bool × Bool)) :
    failsBefore settled tests =
      ((tests.findSome? fun t => ending? t.1 (t.2 == settled)) == some true) := by
  induction tests with
  | nil => rfl
  | cons t tests ih =>
    obtain ⟨fails, result⟩ := t
    rw [failsBefore, ih, List.findSome?_cons]
    cases fails
    · by_cases hresult : result = settled <;> simp [ending?, hresult]
    · rfl

end Search

/-! ## The names of an instance -/

namespace Handlers

/-- A search among the names of an instance asks about its identifiers in order, except the empty
ones. -/
theorem findSome?_names {β : Type} (hs : Handlers) (category inst : String) (args : Args)
    (f : String → Option β) :
    (hs.names category inst args).findSome? f =
      (hs.identifiers category inst args).findSome? fun id =>
        if id ≠ "" then f (category ++ ":" ++ id) else none := by
  rw [names, findSome?_eraseDups, List.findSome?_map, findSome?_filter]
  simp only [decide_eq_true_eq, Function.comp_apply]

end Handlers

/-! ## Asking about one identifier -/

/-- The case of a slot that is asked about does not count. -/
theorem Tree.statement?_lowercase (t : Tree) (slot : String) :
    t.statement? (Text.lowercase slot) = t.statement? slot := by
  rw [statement?, statement?, Text.lowercase_lowercase]

namespace Policy

/-- What a host writes to ask about an action on the instance with an identifier; the empty action
is left out. -/
def question (category action id : String) : String :=
  if action = "" then category ++ ":" ++ id else category ++ ":" ++ id ++ ":" ++ action

section Question

variable (p : Policy) (args : Args)

/-- The slot of a name and an action is decided as the question about them. -/
theorem decide?_slotOf (category action id : String) :
    p.decide? args (slotOf (category ++ ":" ++ id) action) =
      p.decide? args (question category action id) := by
  rw [decide?, applicable?, slotOf, Tree.statement?_lowercase]
  rfl

/-- The slot of a name and an action cannot be decided if the question about them cannot be
answered. -/
theorem decisionFails_slotOf (category action id : String) :
    p.decisionFails args (slotOf (category ++ ":" ++ id) action) =
      p.decisionFails args (question category action id) := by
  rw [decisionFails, slotOf, Tree.statement?_lowercase]
  rfl

end Question

/-! ## Asking about all identifiers -/

section Instance

variable (p : Policy) (args : Args) (category inst action : String)

/-- The decision on an instance is the first answer about its identifiers. -/
theorem decideInstance?_eq : p.decideInstance? args category inst action =
    (p.handlers.identifiers category inst args).findSome? fun id =>
      if id ≠ "" then p.decide? args (question category action id) else none := by
  rw [decideInstance?, Handlers.findSome?_names]
  simp only [decide?_slotOf]

/-- The decision on an instance cannot be made if the first identifier that ends the search is one
about which the question cannot be answered. -/
theorem instanceFails_eq : p.instanceFails args category inst action =
    (((p.handlers.identifiers category inst args).findSome? fun id =>
      if id ≠ "" then
        ending? (p.decisionFails args (question category action id))
          (p.decide? args (question category action id)).isSome
      else none) == some true) := by
  rw [instanceFails, failsBefore_eq_findSome?, List.findSome?_map, Handlers.findSome?_names]
  simp only [Function.comp_apply, decisionFails_slotOf, decide?_slotOf, beq_true]

/-- The policy with other handlers. -/
def withHandlers (hs : Handlers) : Policy :=
  { p with handlers := hs }

/-- Whether an action on an instance is allowed is the first answer there is to the question about
it, asked for each of its identifiers in turn: those that the handler lists which is registered
under the lower-case form of the category, or the instance itself, and of these the ones that are
not empty. The search goes on behind an identifier without an answer and ends at the first one with
an answer, or with a question that cannot be answered. Identifiers that are repeated in a handler's
list make no difference. -/
theorem decideInstance?_first :
    p.decideInstance? args category inst action =
      ((p.handlers.identifiers category inst args).filter (· ≠ "")).findSome?
        (fun id => p.decide? args (question category action id)) ∧
    (∀ b, p.decideInstance? args category inst action = some b ↔
      ∃ before id after, p.handlers.identifiers category inst args = before ++ id :: after ∧
        id ≠ "" ∧ p.decide? args (question category action id) = some b ∧
        ∀ x ∈ before, x ≠ "" → p.decide? args (question category action x) = none) ∧
    (p.instanceFails args category inst action = true ↔
      ∃ before id after, p.handlers.identifiers category inst args = before ++ id :: after ∧
        id ≠ "" ∧ p.decisionFails args (question category action id) = true ∧
        ∀ x ∈ before, x ≠ "" → p.decisionFails args (question category action x) = false ∧
          p.decide? args (question category action x) = none) ∧
    ∀ hs : Handlers, (hs.identifiers category inst args).eraseDups =
        (p.handlers.identifiers category inst args).eraseDups →
      (p.withHandlers hs).decideInstance? args category inst action =
        p.decideInstance? args category inst action ∧
      (p.withHandlers hs).instanceFails args category inst action =
        p.instanceFails args category inst action := by
  have hdecide := p.decideInstance?_eq args category inst action
  have hfails := p.instanceFails_eq args category inst action
  refine ⟨?_, fun b => ?_, ?_, fun hs hrepeated => ⟨?_, ?_⟩⟩
  · -- Identifiers that are empty are skipped, whether they are taken out before or not.
    rw [hdecide, findSome?_filter]
    simp only [decide_eq_true_eq]
  · rw [hdecide, findSome?_ite_eq_some_iff]
  · -- A failure ends the search just as an answer does.
    rw [hfails, beq_iff_eq, findSome?_ite_eq_some_iff]
    simp only [ending?_eq_some_true_iff, ending?_eq_none_iff, Option.isSome_eq_false_iff,
      Option.isNone_iff_eq_none]
  · -- What is found first does not depend on what is repeated later.
    rw [hdecide, decideInstance?_eq]
    exact findSome?_eq_of_eraseDups_eq hrepeated _
  · rw [hfails, instanceFails_eq]
    exact congrArg (· == some true) (findSome?_eq_of_eraseDups_eq hrepeated _)

end Instance

/-- A policy about a post under its slug, with a handler that lists a number, the slug and the
number again. -/
def bySlug : Policy :=
  ⟨Tree.addStatement ∅ "Post:hello-world:read" ⟨some .deny, none, false, []⟩, ⟨∅⟩,
    Handlers.register ∅ "Post" fun inst _ => [inst, "", "hello-world", inst]⟩

/-- The same handler without the repetition. -/
def listedOnce : Handlers :=
  Handlers.register ∅ "Post" fun inst _ => [inst, "", "hello-world"]

/-- The number is not decided and the slug is, and that the number is listed twice makes no
difference. -/
theorem decideInstance?_first_bySlug :
    (listedOnce.identifiers "POST" "42" []).eraseDups =
        (bySlug.handlers.identifiers "POST" "42" []).eraseDups ∧
      (bySlug.withHandlers listedOnce).decideInstance? [] "POST" "42" "Read" = some false := by
  obtain ⟨-, hdecided, -, hrepeated⟩ := decideInstance?_first bySlug [] "POST" "42" "Read"
  have honce : (listedOnce.identifiers "POST" "42" []).eraseDups =
      (bySlug.handlers.identifiers "POST" "42" []).eraseDups := by
    decide +kernel
  refine ⟨honce, (hrepeated listedOnce honce).1.trans ((hdecided false).mpr ?_)⟩
  refine ⟨["42", ""], "hello-world", ["42"], ?_, by decide, by decide +kernel, by decide +kernel⟩
  decide +kernel

end Policy

end AccessPolicy
