import AccessPolicy.Tree.Merge
import Mathlib.Data.List.MinMax
import Mathlib.Data.Prod.Lex

/-!
# The order behind a merge

`Standing.prevails` decides between two entries in five steps. Behind the steps is a total preorder:
standings are ranked by enforcement first and then by effect, the preferred one above the other one
and that above none, and an entry prevails over the next one exactly if its rank is not lower
(`prevails_iff`). So to pick an entry in each of several merges is to take the first entry of the
greatest rank among all (`foremost`, `foremost_cons`), however the merges are nested (`pick_assoc`).

`foremost_of_effect_ne` is what a change of the preferred effect leaves alone. An entry that is
foremost without having the preferred effect has no rival with that effect, and so it stays foremost
whichever effect is preferred.
-/

namespace AccessPolicy

namespace Standing

/-- The grade of an effect: the preferred effect is above the other one, and that is above none. -/
def grade (preferred : Effect) : Option Effect → ℕ
  | none => 0
  | some e => if e = preferred then 2 else 1

/-- The rank of a standing: enforcement counts first, and then the effect. -/
def rank (preferred : Effect) (s : Standing) : Bool ×ₗ ℕ :=
  toLex (s.enforced, grade preferred s.effect)

/-- Grades tell effects apart. -/
theorem grade_injective (preferred : Effect) : Function.Injective (grade preferred) := by
  intro e f h
  cases preferred <;> rcases e with _ | _ | _ <;> rcases f with _ | _ | _ <;> simp_all [grade]

/-- Ranks tell standings apart. -/
theorem rank_injective (preferred : Effect) : Function.Injective (rank preferred) := by
  rintro ⟨enforced, e⟩ ⟨enforced', f⟩ h
  obtain ⟨henforced, hgrade⟩ := Prod.mk.inj (toLex.injective h)
  rw [mk.injEq]
  exact ⟨henforced, grade_injective preferred hgrade⟩

/-- Between entries that are both enforced or both not, the steps of a merge compare grades. -/
theorem grade_le_grade_iff (preferred : Effect) (child parent : Option Effect) :
    grade preferred parent ≤ grade preferred child ↔
      (child = parent ∨ child = some preferred) ∨ ¬(parent = some preferred ∨ child = none) := by
  cases preferred <;> rcases child with _ | _ | _ <;> rcases parent with _ | _ | _ <;> decide

/-- A child prevails exactly if its rank is not below that of its parent. -/
theorem prevails_iff (preferred : Effect) (child parent : Standing) :
    child.prevails preferred parent ↔ parent.rank preferred ≤ child.rank preferred := by
  unfold prevails rank
  rw [Prod.Lex.toLex_le_toLex]
  by_cases henforced : child.enforced = parent.enforced
  · rw [if_neg (by simpa using henforced), henforced]
    simp only [lt_self_iff_false, true_and, false_or, grade_le_grade_iff]
    split_ifs <;> simp_all
  · rw [if_pos henforced]
    have hne : ¬parent.enforced = child.enforced := fun h => henforced h.symm
    simp only [hne, false_and, or_false]
    rcases hc : child.enforced <;> rcases hp : parent.enforced <;> simp_all

/-- A standing without the preferred effect is compared in the same way whatever is preferred, with
all that is not above it. -/
theorem grade_mono_of_ne {preferred : Effect} {e : Option Effect} (he : e ≠ some preferred)
    (other : Effect) (f : Option Effect) :
    (grade preferred f ≤ grade preferred e → grade other f ≤ grade other e) ∧
      (grade preferred f < grade preferred e → grade other f < grade other e) := by
  revert he
  cases preferred <;> cases other <;> rcases e with _ | _ | _ <;> rcases f with _ | _ | _ <;> decide

/-- What is not above a standing without the preferred effect is not above it whatever is
preferred. -/
theorem rank_le_of_effect_ne {preferred : Effect} {a b : Standing}
    (ha : a.effect ≠ some preferred) (h : b.rank preferred ≤ a.rank preferred) (other : Effect) :
    b.rank other ≤ a.rank other := by
  unfold rank at h ⊢
  rw [Prod.Lex.toLex_le_toLex] at h ⊢
  rcases h with h | ⟨henforced, hgrade⟩
  · exact .inl h
  · exact .inr ⟨henforced, (grade_mono_of_ne ha other b.effect).1 hgrade⟩

/-- What is below a standing without the preferred effect is below it whatever is preferred. -/
theorem rank_lt_of_effect_ne {preferred : Effect} {a b : Standing}
    (ha : a.effect ≠ some preferred) (h : b.rank preferred < a.rank preferred) (other : Effect) :
    b.rank other < a.rank other := by
  unfold rank at h ⊢
  rw [Prod.Lex.toLex_lt_toLex] at h ⊢
  rcases h with h | ⟨henforced, hgrade⟩
  · exact .inl h
  · exact .inr ⟨henforced, (grade_mono_of_ne ha other b.effect).2 hgrade⟩

end Standing

/-! ## Picking between two entries -/

section Pick

variable {α : Type} (standing : α → Standing) (preferred : Effect)

/-- Against nothing the second entry is picked. -/
@[simp]
theorem pick_none_left (y : Option α) : pick standing preferred none y = y := by
  rcases y with _ | b <;> rfl

/-- Against nothing the first entry is picked. -/
@[simp]
theorem pick_none_right (x : Option α) : pick standing preferred x none = x := by
  rcases x with _ | a <;> rfl

/-- Of two entries the first one is picked unless the second one has a greater rank. -/
theorem pick_some_some (a b : α) :
    pick standing preferred (some a) (some b) =
      some (if (standing b).rank preferred ≤ (standing a).rank preferred then a else b) := by
  unfold pick
  simp only [Standing.prevails_iff]

/-- Picking between equals makes no difference. -/
theorem pick_self (x : Option α) : pick standing preferred x x = x := by
  rcases x with _ | a
  · rfl
  · rw [pick_some_some, if_pos le_rfl]

/-- Picking does not depend on how three entries are grouped. -/
theorem pick_assoc (x y z : Option α) :
    pick standing preferred (pick standing preferred x y) z =
      pick standing preferred x (pick standing preferred y z) := by
  rcases x with _ | a
  · rw [pick_none_left, pick_none_left]
  rcases y with _ | b
  · rw [pick_none_left, pick_none_right]
  rcases z with _ | c
  · rw [pick_none_right, pick_none_right]
  rw [pick_some_some standing preferred a b, pick_some_some standing preferred b c]
  -- Where `b` wins on one side and loses on the other, both sides are the same pick already; the
  -- order is transitive in the two cases that are left.
  by_cases hab : (standing b).rank preferred ≤ (standing a).rank preferred
  · rw [if_pos hab]
    by_cases hbc : (standing c).rank preferred ≤ (standing b).rank preferred
    · rw [if_pos hbc, pick_some_some, pick_some_some, if_pos hab, if_pos (hbc.trans hab)]
    · rw [if_neg hbc]
  · rw [if_neg hab]
    by_cases hbc : (standing c).rank preferred ≤ (standing b).rank preferred
    · rw [if_pos hbc, pick_some_some, pick_some_some, if_pos hbc, if_neg hab]
    · have hac : ¬(standing c).rank preferred ≤ (standing a).rank preferred :=
        not_le.mpr ((not_le.mp hab).trans (not_le.mp hbc))
      rw [if_neg hbc, pick_some_some, pick_some_some, if_neg hbc, if_neg hac]

/-- Which of two entries comes first makes no difference to the standing of the one picked. -/
theorem map_standing_pick_comm (x y : Option α) :
    (pick standing preferred x y).map standing = (pick standing preferred y x).map standing := by
  rcases x with _ | a
  · rw [pick_none_left, pick_none_right]
  rcases y with _ | b
  · rw [pick_none_left, pick_none_right]
  rw [pick_some_some, pick_some_some, Option.map_some, Option.map_some, Option.some_inj]
  -- Only entries of the same rank are picked by their place, and those have the same standing.
  rcases lt_trichotomy ((standing a).rank preferred) ((standing b).rank preferred) with h | h | h
  · rw [if_neg (not_le.mpr h), if_pos h.le]
  · rw [if_pos h.ge, if_pos h.le]
    exact Standing.rank_injective preferred h
  · rw [if_pos h.le, if_neg (not_le.mpr h)]

end Pick

/-! ## The foremost entry -/

section Foremost

variable {α : Type} (standing : α → Standing) (preferred : Effect)

/-- The foremost of some entries: the first one among those of the greatest rank. -/
def foremost (entries : List α) : Option α :=
  entries.argmax fun a => (standing a).rank preferred

/-- Among more entries, the one in front is foremost unless a later one has a greater rank. -/
theorem foremost_cons (a : α) (entries : List α) :
    foremost standing preferred (a :: entries) =
      pick standing preferred (some a) (foremost standing preferred entries) := by
  unfold foremost
  rw [List.argmax_cons]
  rcases entries.argmax _ with _ | b
  · rfl
  · show (if (standing a).rank preferred < (standing b).rank preferred then some b else some a) = _
    rw [pick_some_some]
    by_cases h : (standing b).rank preferred ≤ (standing a).rank preferred
    · rw [if_neg (not_lt.mpr h), if_pos h]
    · rw [if_pos (not_le.mp h), if_neg h]

/-- The foremost entry is above those in front of it and not below those behind it. -/
theorem foremost_eq_some_iff {entries : List α} {a : α} :
    foremost standing preferred entries = some a ↔
      ∃ before after, entries = before ++ a :: after ∧
        (∀ b ∈ before, (standing b).rank preferred < (standing a).rank preferred) ∧
        ∀ b ∈ after, (standing b).rank preferred ≤ (standing a).rank preferred := by
  constructor
  · -- The entry in front is foremost itself, or it is one more below that of the rest.
    intro h
    induction entries generalizing a with
    | nil => simp [foremost] at h
    | cons b entries ih =>
      rw [foremost_cons] at h
      rcases hrest : foremost standing preferred entries with _ | c
      · rw [hrest, pick_none_right, Option.some_inj] at h
        have hnil : entries = [] := List.argmax_eq_none.mp hrest
        exact ⟨[], [], by rw [h, hnil]; rfl, by simp, by simp⟩
      · rw [hrest, pick_some_some, Option.some_inj] at h
        split_ifs at h with hle
        · refine ⟨[], entries, by rw [h]; rfl, by simp, fun d hd => ?_⟩
          rw [← h]
          exact (List.le_of_mem_argmax hd hrest).trans hle
        · subst h
          obtain ⟨before, after, rfl, hbefore, hafter⟩ := ih hrest
          refine ⟨b :: before, after, rfl, fun d hd => ?_, hafter⟩
          rcases List.mem_cons.mp hd with rfl | hd
          · exact not_le.mp hle
          · exact hbefore d hd
  · -- The entries in front give way one by one.
    rintro ⟨before, after, rfl, hbefore, hafter⟩
    induction before with
    | nil =>
      rw [List.nil_append, foremost_cons]
      rcases hrest : foremost standing preferred after with _ | c
      · rfl
      · rw [pick_some_some, if_pos (hafter c (List.argmax_mem hrest))]
    | cons b before ih =>
      have hb := hbefore b List.mem_cons_self
      rw [List.cons_append, foremost_cons, ih fun d hd => hbefore d (List.mem_cons_of_mem b hd),
        pick_some_some, if_neg (not_le.mpr hb)]

/-- The order of some entries makes no difference to the standing of the foremost one. -/
theorem map_standing_foremost_perm {entries others : List α} (h : entries.Perm others) :
    (foremost standing preferred entries).map standing =
      (foremost standing preferred others).map standing := by
  -- If one list is empty, so is the other. Otherwise the ranks of both foremost entries are equal.
  rcases ha : foremost standing preferred entries with _ | a
  · have hnil : entries = [] := List.argmax_eq_none.mp ha
    subst hnil
    rw [List.nil_perm.mp h, foremost, List.argmax_nil]
  rcases hb : foremost standing preferred others with _ | b
  · have hnil : others = [] := List.argmax_eq_none.mp hb
    subst hnil
    rw [List.perm_nil.mp h, foremost, List.argmax_nil] at ha
    exact absurd ha (Option.some_ne_none a).symm
  · have hle := List.le_of_mem_argmax (h.mem_iff.mp (List.argmax_mem ha)) hb
    have hge := List.le_of_mem_argmax (h.mem_iff.mpr (List.argmax_mem hb)) ha
    rw [Option.map_some, Option.map_some, Standing.rank_injective preferred (hle.antisymm hge)]

/-- An entry that is foremost without having the preferred effect is foremost whichever effect is
preferred. -/
theorem foremost_of_effect_ne {entries : List α} {a : α}
    (h : foremost standing preferred entries = some a) (ha : (standing a).effect ≠ some preferred)
    (other : Effect) : foremost standing other entries = some a := by
  obtain ⟨before, after, hentries, hbefore, hafter⟩ :=
    (foremost_eq_some_iff standing preferred).mp h
  exact (foremost_eq_some_iff standing other).mpr ⟨before, after, hentries,
    fun b hb => Standing.rank_lt_of_effect_ne ha (hbefore b hb) other,
    fun b hb => Standing.rank_le_of_effect_ne ha (hafter b hb) other⟩

/-- In front of the entries that some places hold, one more place counts if it holds an entry. -/
theorem foremost_filterMap_cons {β : Type} (held : β → Option α) (place : β) (places : List β) :
    foremost standing preferred ((place :: places).filterMap held) =
      pick standing preferred (held place)
        (foremost standing preferred (places.filterMap held)) := by
  rcases hheld : held place with _ | a
  · rw [List.filterMap_cons_none hheld, pick_none_left]
  · rw [List.filterMap_cons_some hheld, foremost_cons]

end Foremost

/-- Params have no effects, so the foremost one is the first that is enforced and, if there is none,
the first of all. -/
theorem foremost_param (preferred : Effect) (params : List Param) :
    foremost Param.standing preferred params = (params.find? Param.enforced).or params.head? := by
  induction params with
  | nil => rfl
  | cons p params ih =>
    rw [foremost_cons, ih, List.head?_cons]
    -- An enforced param in front prevails over whatever is foremost behind it.
    by_cases hp : p.enforced = true
    · rw [List.find?_cons_of_pos hp]
      rcases (params.find? Param.enforced).or params.head? with _ | q
      · rfl
      · simp [pick, Standing.prevails, Param.standing, hp]
    · rw [List.find?_cons_of_neg hp]
      -- Any other gives way to an enforced one behind it, and to no other.
      rcases hfind : params.find? Param.enforced with _ | q
      · rcases hhead : params.head? with _ | q
        · rfl
        · have hq := List.find?_eq_none.mp hfind q (List.mem_of_mem_head? hhead)
          simp [pick, Standing.prevails, Param.standing, hp, hq]
      · have hq := List.find?_some hfind
        simp [pick, Standing.prevails, Param.standing, hp, hq]

end AccessPolicy
