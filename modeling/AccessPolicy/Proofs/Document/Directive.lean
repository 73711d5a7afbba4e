import AccessPolicy.Document.Resource
import AccessPolicy.Proofs.Text.Cut
import AccessPolicy.Proofs.Text.LowerCase
import Mathlib.Data.List.TakeWhile

/-!
# How a mapping is written

A directive is the words `map to`, in any case, with blanks before, between and behind them
(`Resource.IsDirective`). A resource with a directive that has something behind it is a mapping. It
is divided where the first such directive starts: the template stands before that place and the
expression behind the directive, either without the blanks around it (`Resource.IsMapping`). This is
the division that `mapping?` finds, and there is no other (`Resource.mapping?_eq_some_iff`).

Each function that takes something off the front of a text is described by what it takes off and by
what is left. Blanks are taken off as far as they reach, which loses no division because a word of a
directive does not start with a blank, and because the blanks in front of the expression are
trimmed.
-/

namespace AccessPolicy

/-! ## Blanks -/

namespace Text

/-- Blanks, and at least one of them. -/
def Blanks (cs : List Char) : Prop :=
  cs ≠ [] ∧ ∀ c ∈ cs, isBlank c = true

/-- Blanks in front of a text are taken off. -/
theorem trimStart_append {blanks : List Char} (h : ∀ c ∈ blanks, isBlank c = true)
    (rest : List Char) : trimStart (blanks ++ rest) = trimStart rest :=
  List.dropWhile_append_of_pos h

/-- A text consists of the blanks it starts with and of what is left without them. -/
theorem exists_trimStart (cs : List Char) :
    ∃ blanks, cs = blanks ++ trimStart cs ∧ ∀ c ∈ blanks, isBlank c = true :=
  ⟨cs.takeWhile isBlank, List.takeWhile_append_dropWhile.symm, fun _ => List.mem_takeWhile_imp⟩

/-- What is left of a text without the blanks it starts with does not start with one. -/
theorem isBlank_of_mem_head?_trimStart {cs : List Char} {c : Char} (h : c ∈ (trimStart cs).head?) :
    isBlank c = false := by
  have hhead := List.head?_dropWhile_not isBlank cs
  rw [← trimStart, h] at hhead
  exact hhead

/-- The blanks a text starts with do not count for what it is without blanks. -/
theorem trim_trimStart (cs : List Char) : trim (trimStart cs) = trim cs := by
  rw [trim, trimStart_eq_self fun c hc => isBlank_of_mem_head?_trimStart hc, ← trim]

/-- No blank is a capital letter, so none has another small form. -/
theorem toLower_of_isBlank {c : Char} (h : isBlank c = true) : c.toLower = c := by
  refine toLower_of_not_capital fun hcapital => ?_
  simp only [isBlank, blankRanges, Ranges.has, List.any_cons, List.any_nil, Bool.or_false,
    Bool.or_eq_true, Bool.and_eq_true, decide_eq_true_eq] at h
  omega

end Text

namespace Resource

open Text (isBlank Blanks)

variable {cs rest : List Char}

/-- The blanks in front of a text are taken off as far as they reach. -/
theorem behindBlanks?_append {blanks : List Char} (h : Blanks blanks) (rest : List Char) :
    behindBlanks? (blanks ++ rest) = some (Text.trimStart rest) := by
  obtain ⟨hne, hblanks⟩ := h
  rw [← Text.trimStart_append hblanks rest]
  cases blanks with
  | nil => exact absurd rfl hne
  | cons c blanks =>
    rw [List.cons_append, behindBlanks?]
    exact if_pos (hblanks c List.mem_cons_self)

/-- What is behind the blanks in front of a text does not start with another one. -/
theorem behindBlanks?_eq_some_iff : behindBlanks? cs = some rest ↔
    ∃ blanks, cs = blanks ++ rest ∧ Blanks blanks ∧ ∀ c ∈ rest.head?, isBlank c = false := by
  constructor
  · intro h
    unfold behindBlanks? at h
    split at h
    · next c cs =>
      split at h
      · next hc =>
        obtain rfl := Option.some_inj.mp h
        obtain ⟨blanks, heq, hblanks⟩ := Text.exists_trimStart (c :: cs)
        refine ⟨blanks, heq, ⟨?_, hblanks⟩, fun _ => Text.isBlank_of_mem_head?_trimStart⟩
        -- With no blank taken off, the text would still start with the one that it starts with.
        rintro rfl
        have hhead : c ∈ (Text.trimStart (c :: cs)).head? := by
          rw [← List.nil_append (Text.trimStart _), ← heq]
          rfl
        exact Bool.false_ne_true ((Text.isBlank_of_mem_head?_trimStart hhead).symm.trans hc)
      · exact nomatch h
    · exact nomatch h
  · rintro ⟨blanks, rfl, hblanks, hhead⟩
    rw [behindBlanks?_append hblanks, Text.trimStart_eq_self hhead]

/-- A word is taken off in any case. -/
theorem behindWord?_eq_some_iff {word : List Char} : behindWord? word cs = some rest ↔
    ∃ written, cs = written ++ rest ∧ written.map Char.toLower = word := by
  induction word generalizing cs with
  | nil =>
    rw [behindWord?]
    constructor
    · intro h
      exact ⟨[], Option.some_inj.mp h, rfl⟩
    · rintro ⟨written, rfl, hwritten⟩
      rw [List.map_eq_nil_iff.mp hwritten, List.nil_append]
  | cons w word ih =>
    cases cs with
    | nil =>
      -- The word has a character left, and the text has none.
      rw [behindWord?]
      refine iff_of_false nofun ?_
      rintro ⟨written, heq, hwritten⟩
      rw [(List.append_eq_nil_iff.mp heq.symm).1] at hwritten
      exact nomatch hwritten
    | cons c cs =>
      rw [behindWord?]
      constructor
      · intro h
        split at h
        · next hc =>
          obtain ⟨written, rfl, hwritten⟩ := ih.mp h
          exact ⟨c :: written, rfl, by rw [List.map_cons, ← hc, hwritten]⟩
        · exact nomatch h
      · rintro ⟨written, heq, hwritten⟩
        cases written with
        | nil => exact nomatch hwritten
        | cons d written =>
          obtain ⟨rfl, rfl⟩ := List.cons.inj heq
          obtain ⟨hc, hwritten⟩ := List.cons.inj hwritten
          rw [if_pos hc.symm]
          exact ih.mpr ⟨written, rfl, hwritten⟩

/-- A word that starts with a letter does not start with a blank. -/
theorem isBlank_of_mem_head?_written {w : Char} {word written : List Char} (hw : isBlank w = false)
    (hwritten : written.map Char.toLower = w :: word) :
    ∀ c ∈ (written ++ rest).head?, isBlank c = false := by
  intro c hc
  cases written with
  | nil => exact nomatch hwritten
  | cons d written =>
    obtain rfl := Option.some_inj.mp hc
    obtain ⟨rfl, -⟩ := List.cons.inj hwritten
    by_contra hblank
    rw [Bool.not_eq_false] at hblank
    rw [Text.toLower_of_isBlank hblank, hblank] at hw
    exact nomatch hw

/-- The expression is what stands behind one or more blanks, without the blanks around it. If there
is nothing but blanks, all but the first may be taken for it. -/
theorem expression?_eq_some_iff {expression : List Char} : expression? cs = some expression ↔
    ∃ blanks behind, cs = blanks ++ behind ∧ Blanks blanks ∧ behind ≠ [] ∧
      expression = Text.trim behind := by
  constructor
  · intro h
    unfold expression? at h
    split at h
    · exact nomatch h
    · next hbehind =>
      split at h
      · next hlength =>
        -- There are only blanks: one stands behind the words, and the others are the expression.
        obtain rfl := Option.some_inj.mp h
        obtain ⟨blanks, rfl, ⟨-, hblanks⟩, -⟩ := behindBlanks?_eq_some_iff.mp hbehind
        rw [List.append_nil] at hlength ⊢
        obtain ⟨c, behind, rfl⟩ := List.exists_cons_of_ne_nil
          (List.ne_nil_of_length_pos (Nat.zero_lt_of_lt hlength))
        refine ⟨[c], behind, rfl, ⟨List.cons_ne_nil c [], ?_⟩, ?_, ?_⟩
        · exact List.forall_mem_singleton.mpr (hblanks c List.mem_cons_self)
        · rintro rfl
          exact Nat.lt_irrefl 1 hlength
        · have hempty := Text.trimStart_append
            (fun d hd => hblanks d (List.mem_cons_of_mem c hd)) []
          rw [List.append_nil] at hempty
          rw [← Text.trim_trimStart, hempty]
          rfl
      · exact nomatch h
    · next behind hne hbehind =>
      obtain rfl := Option.some_inj.mp h
      obtain ⟨blanks, rfl, hblanks, -⟩ := behindBlanks?_eq_some_iff.mp hbehind
      exact ⟨blanks, behind, rfl, hblanks, hne, rfl⟩
  · rintro ⟨blanks, behind, rfl, hblanks, hne, rfl⟩
    have hlength : 1 < (blanks ++ behind).length := by
      have hfirst := List.length_pos_iff.mpr hblanks.1
      have hsecond := List.length_pos_iff.mpr hne
      rw [List.length_append]
      omega
    rw [expression?, behindBlanks?_append hblanks, ← Text.trim_trimStart behind]
    rcases Text.trimStart behind with _ | ⟨c, behind⟩
    · exact if_pos hlength
    · rfl

/-! ## Directives -/

/-- The words `map to`, in any case, with blanks on either side of both. -/
inductive IsDirective : List Char → Prop where
  | intro {first verb second target third : List Char} :
    Blanks first → verb.map Char.toLower = ['m', 'a', 'p'] → Blanks second →
    target.map Char.toLower = ['t', 'o'] → Blanks third →
    IsDirective (first ++ (verb ++ (second ++ (target ++ third))))

/-- Whether a text starts with a directive that has something behind it. -/
def StartsDirective (cs : List Char) : Prop :=
  ∃ directive behind, cs = directive ++ behind ∧ IsDirective directive ∧ behind ≠ []

/-- The expression behind a directive is what stands behind it, without the blanks around it. -/
theorem directive?_eq_some_iff {expression : List Char} : directive? cs = some expression ↔
    ∃ directive behind, cs = directive ++ behind ∧ IsDirective directive ∧ behind ≠ [] ∧
      expression = Text.trim behind := by
  simp only [directive?, Option.bind_eq_bind, Option.bind_eq_some_iff, behindBlanks?_eq_some_iff,
    behindWord?_eq_some_iff, expression?_eq_some_iff]
  constructor
  · -- The parts follow each other as the reader takes them: blanks, the verb, blanks, and the
    -- target.
    rintro ⟨_, ⟨first, rfl, hfirst, -⟩, _, ⟨verb, rfl, hverb⟩, _, ⟨second, rfl, hsecond, -⟩, _,
      ⟨target, rfl, htarget⟩, third, behind, rfl, hthird, hne, rfl⟩
    refine ⟨_, behind, ?_, .intro hfirst hverb hsecond htarget hthird, hne, rfl⟩
    simp only [List.append_assoc]
  · rintro ⟨_, behind, rfl, ⟨hfirst, hverb, hsecond, htarget, hthird⟩, hne, rfl⟩
    simp only [List.append_assoc]
    exact ⟨_, ⟨_, rfl, hfirst, isBlank_of_mem_head?_written (by decide) hverb⟩,
      _, ⟨_, rfl, hverb⟩, _, ⟨_, rfl, hsecond, isBlank_of_mem_head?_written (by decide) htarget⟩,
      _, ⟨_, rfl, htarget⟩, _, behind, rfl, hthird, hne, rfl⟩

/-- Where no directive starts there is no expression behind one. -/
theorem directive?_eq_none_iff : directive? cs = none ↔ ¬StartsDirective cs := by
  rw [Option.eq_none_iff_forall_ne_some, StartsDirective]
  simp only [ne_eq, directive?_eq_some_iff]
  constructor
  · rintro h ⟨directive, behind, heq, hdirective, hne⟩
    exact h _ ⟨directive, behind, heq, hdirective, hne, rfl⟩
  · rintro h _ ⟨directive, behind, heq, hdirective, hne, -⟩
    exact h ⟨directive, behind, heq, hdirective, hne⟩

/-! ## Mappings -/

/-- A resource that is a mapping, divided at the first place where a directive starts that has
something behind it: into the template before that place and the expression behind the directive,
either without the blanks around it. -/
inductive IsMapping : (raw template expression : List Char) → Prop where
  | intro {before directive behind : List Char} (hdirective : IsDirective directive)
    (nonempty : behind ≠ [])
    (first : ∀ front back, before = front ++ back → back ≠ [] →
      ¬StartsDirective (back ++ (directive ++ behind))) :
    IsMapping (before ++ (directive ++ behind)) (Text.trim before) (Text.trim behind)

/-- A text that starts with a directive is split there. -/
theorem splitMapping?_of_directive {c : Char} {expression : List Char}
    (h : directive? (c :: cs) = some expression) :
    splitMapping? (c :: cs) = some ([], expression) := by
  rw [splitMapping?, h]

/-- A text that does not start with a directive is split where the rest of it is. -/
theorem splitMapping?_cons {c : Char} (h : directive? (c :: cs) = none) :
    splitMapping? (c :: cs) = (splitMapping? cs).map fun p => (c :: p.1, p.2) := by
  rw [splitMapping?, h]

/-- A text is split where a directive starts and none does before. -/
theorem splitMapping?_eq_some_iff {raw before expression : List Char} :
    splitMapping? raw = some (before, expression) ↔ ∃ rest, raw = before ++ rest ∧
      directive? rest = some expression ∧ ∀ front back, before = front ++ back → back ≠ [] →
        directive? (back ++ rest) = none := by
  induction raw generalizing before with
  | nil =>
    refine iff_of_false nofun ?_
    rintro ⟨rest, heq, hrest, -⟩
    rw [(List.append_eq_nil_iff.mp heq.symm).2] at hrest
    exact nomatch hrest
  | cons c cs ih =>
    cases hstart : directive? (c :: cs) with
    | none =>
      rw [splitMapping?_cons hstart, Option.map_eq_some_iff]
      constructor
      · rintro ⟨⟨before, expression⟩, hbefore, heq⟩
        obtain ⟨rfl, rfl⟩ := Prod.mk.inj heq
        obtain ⟨rest, rfl, hrest, hfirst⟩ := ih.mp hbefore
        refine ⟨rest, rfl, hrest, fun front back hback hne => ?_⟩
        -- No directive starts at the first character, nor at a later one before the place.
        cases front with
        | nil =>
          obtain rfl : c :: before = back := hback
          exact hstart
        | cons d front => exact hfirst front back (List.cons.inj hback).2 hne
      · rintro ⟨rest, heq, hrest, hfirst⟩
        cases before with
        | nil =>
          obtain rfl : c :: cs = rest := heq
          exact nomatch hstart.symm.trans hrest
        | cons d before =>
          obtain ⟨rfl, rfl⟩ := List.cons.inj heq
          exact ⟨(before, expression), ih.mpr ⟨rest, rfl, hrest, fun front back hback =>
            hfirst (c :: front) back (by rw [hback, List.cons_append])⟩, rfl⟩
    | some found =>
      rw [splitMapping?_of_directive hstart]
      constructor
      · intro h
        obtain ⟨rfl, rfl⟩ := Prod.mk.inj (Option.some_inj.mp h)
        refine ⟨c :: cs, rfl, hstart, fun front back hback hne => ?_⟩
        exact absurd (List.append_eq_nil_iff.mp hback.symm).2 hne
      · rintro ⟨rest, heq, hrest, hfirst⟩
        cases before with
        | nil =>
          obtain rfl : c :: cs = rest := heq
          rw [Option.some_inj.mp (hstart.symm.trans hrest)]
        | cons d before =>
          have hnone := hfirst [] (d :: before) rfl (List.cons_ne_nil d before)
          rw [← heq] at hnone
          exact nomatch hnone.symm.trans hstart

/-- The template and the expression that are found are those of the only division there is. -/
theorem mapping?_eq_some_iff {raw template expression : List Char} :
    mapping? raw = some (template, expression) ↔ IsMapping raw template expression := by
  rw [mapping?, Option.map_eq_some_iff]
  constructor
  · rintro ⟨⟨before, expression⟩, hsplit, heq⟩
    -- The directive is that of the first place at which there is one.
    obtain ⟨rfl, rfl⟩ := Prod.mk.inj heq
    obtain ⟨rest, rfl, hrest, hfirst⟩ := splitMapping?_eq_some_iff.mp hsplit
    obtain ⟨directive, behind, rfl, hdirective, hne, rfl⟩ := directive?_eq_some_iff.mp hrest
    exact .intro hdirective hne fun front back hback hback' =>
      directive?_eq_none_iff.mp (hfirst front back hback hback')
  · rintro ⟨hdirective, hne, hfirst⟩
    refine ⟨(_, _), splitMapping?_eq_some_iff.mpr ⟨_, rfl, ?_, fun front back hback hback' => ?_⟩,
      rfl⟩
    · exact directive?_eq_some_iff.mpr ⟨_, _, rfl, hdirective, hne, rfl⟩
    · exact directive?_eq_none_iff.mpr (hfirst front back hback hback')

end Resource

end AccessPolicy
