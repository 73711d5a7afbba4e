import AccessPolicy.Pattern.Regex
import Mathlib.Logic.Relation

/-!
# What regular expressions match

An expression matches the text between two places of a subject. `Regex.Leads` says between which, by
the structure of the expression: parts in a sequence lead from one place to the next, and a
condition leads nowhere but asks for what stands around a place. An expression is found in a subject
if it leads from some place in it to another one (`Regex.Occurs`).
-/

namespace AccessPolicy.Pattern

/-! ## Places -/

/-- A place in a subject: the character in front of it, if there is one, and the text behind it. -/
structure Place where
  front : Option Char
  rest : List Char

namespace Place

/-- The place in front of a subject. -/
def first (subject : List Char) : Place :=
  ⟨none, subject⟩

/-- Whether the second place is behind a text that begins at the first one. -/
def Reads (text : List Char) (p q : Place) : Prop :=
  p.rest = text ++ q.rest ∧ q.front = text.getLast?.or p.front

/-- Whether the second place is behind a character of a set at the first one. -/
def Takes (rs : Text.Ranges) (p q : Place) : Prop :=
  ∃ c, rs.has c.toNat = true ∧ Reads [c] p q

/-- Whether the second place is the first one or behind it. -/
def Ahead (p q : Place) : Prop :=
  ∃ text, Reads text p q

/-- To read the empty text is to stay. -/
theorem reads_nil_iff {p q : Place} : Reads [] p q ↔ p = q := by
  obtain ⟨front, rest⟩ := p
  obtain ⟨front', rest'⟩ := q
  simp only [mk.injEq, Reads, List.nil_append, List.getLast?_nil, Option.none_or]
  exact ⟨fun h => ⟨h.2.symm, h.1⟩, fun h => ⟨h.2, h.1.symm⟩⟩

/-- Behind one text and then another one is behind both of them together. -/
theorem reads_append_iff {a b : List Char} {p q : Place} :
    Reads (a ++ b) p q ↔ Relation.Comp (Reads a) (Reads b) p q := by
  constructor
  · rintro ⟨hrest, hfront⟩
    rw [List.append_assoc] at hrest
    refine ⟨⟨a.getLast?.or p.front, b ++ q.rest⟩, ⟨hrest, rfl⟩, rfl, ?_⟩
    rw [hfront, List.getLast?_append, Option.or_assoc]
  · rintro ⟨m, ⟨hrest, hfront⟩, hrest', hfront'⟩
    refine ⟨?_, ?_⟩
    · rw [hrest, hrest', List.append_assoc]
    · rw [hfront', hfront, List.getLast?_append, Option.or_assoc]

/-- To read a text is to read its first character and then the others. -/
theorem reads_cons_iff {c : Char} {text : List Char} {p q : Place} :
    Reads (c :: text) p q ↔ Relation.Comp (Reads [c]) (Reads text) p q :=
  reads_append_iff (a := [c])

/-- A set of one character. -/
theorem takes_singleton_iff {c : Char} {p q : Place} :
    Takes [(c.toNat, c.toNat)] p q ↔ Reads [c] p q := by
  constructor
  · rintro ⟨d, hd, hreads⟩
    have hcode : c.toNat = d.toNat := by simpa [Text.Ranges.has, ← Nat.le_antisymm_iff] using hd
    rwa [Char.toNat_inj.mp hcode]
  · intro h
    exact ⟨c, by simp [Text.Ranges.has], h⟩

/-- At the end there is no place behind. -/
theorem ahead_nil_iff {front : Option Char} {q : Place} :
    Ahead ⟨front, []⟩ q ↔ ⟨front, []⟩ = q := by
  constructor
  · rintro ⟨text, hrest, hfront⟩
    obtain ⟨rfl, -⟩ := List.append_eq_nil_iff.mp hrest.symm
    exact reads_nil_iff.mp ⟨hrest, hfront⟩
  · exact fun h => ⟨[], reads_nil_iff.mpr h⟩

/-- A place ahead is the place itself, or ahead of the place behind the next character. -/
theorem ahead_cons_iff {front : Option Char} {c : Char} {cs : List Char} {q : Place} :
    Ahead ⟨front, c :: cs⟩ q ↔ ⟨front, c :: cs⟩ = q ∨ Ahead ⟨some c, cs⟩ q := by
  constructor
  · rintro ⟨text, h⟩
    cases text with
    | nil => exact .inl (reads_nil_iff.mp h)
    | cons d text =>
      -- What is read first is the character in front of the others.
      obtain ⟨m, ⟨hrest, hfront⟩, htext⟩ := reads_cons_iff.mp h
      obtain ⟨rfl, hcs⟩ := List.cons.inj hrest
      have hm : m = ⟨some c, cs⟩ := by
        rw [mk.injEq]
        exact ⟨hfront, hcs.symm⟩
      exact .inr ⟨text, hm ▸ htext⟩
  · rintro (h | ⟨text, h⟩)
    · exact ⟨[], reads_nil_iff.mpr h⟩
    · exact ⟨c :: text, reads_cons_iff.mpr ⟨⟨some c, cs⟩, ⟨rfl, rfl⟩, h⟩⟩

end Place

/-! ## Expressions -/

/-- As many steps of a relation, one after the other. -/
def Times {α : Type} (r : α → α → Prop) : Nat → α → α → Prop
  | 0 => Eq
  | n + 1 => Relation.Comp r (Times r n)

/-- A relation taken `m + n` times is taken `m` times and then `n` times. -/
theorem times_add {α : Type} {r : α → α → Prop} {m n : Nat} :
    Times r (m + n) = Relation.Comp (Times r m) (Times r n) := by
  induction m with
  | zero =>
    rw [Nat.zero_add]
    exact (Relation.eq_comp).symm
  | succ m ih =>
    rw [Nat.succ_add]
    show Relation.Comp r (Times r (m + n)) = Relation.Comp (Relation.Comp r (Times r m)) (Times r n)
    rw [ih, Relation.comp_assoc]

/-- Whether an expression matches the text between two places. -/
def Regex.Leads : Regex → Place → Place → Prop
  | empty => Eq
  | literal text => Place.Reads text
  | chars rs => Place.Takes rs
  | look l => fun p q => l.holds p.front p.rest.head? = true ∧ p = q
  | seq a b => Relation.Comp a.Leads b.Leads
  | alt a b => fun p q => a.Leads p q ∨ b.Leads p q
  | group _ a => a.Leads
  | repetition a least most _ => fun p q =>
    ∃ n, (∀ m ∈ most, n ≤ m - least) ∧ Times a.Leads (least + n) p q

/-- Whether an expression matches a part of a subject. -/
def Regex.Occurs (r : Regex) (subject : List Char) : Prop :=
  ∃ p q, (Place.first subject).Ahead p ∧ r.Leads p q

end AccessPolicy.Pattern
