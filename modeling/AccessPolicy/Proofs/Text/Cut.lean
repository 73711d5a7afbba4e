import AccessPolicy.Text.Character
import AccessPolicy.Text.Cut

/-!
# Cutting a text that was put together

`Text.cut` and `Text.pieces` take a text apart at a separator. A text that was joined from parts
without the separator falls into just these parts again (`cut_append_cons`, `pieces_join`). Nor is
anything taken off a text that has no blanks on either side (`trim_eq_self`).
-/

namespace AccessPolicy.Text

variable {sep : Char}

/-- A text without the separator is not cut. -/
theorem cut_of_not_mem {cs : List Char} (h : sep ∉ cs) : cut sep cs = (cs, none) := by
  induction cs with
  | nil => rfl
  | cons c cs ih =>
    obtain ⟨hc, hcs⟩ := List.ne_and_not_mem_of_not_mem_cons h
    rw [cut, if_neg hc.symm, ih hcs]

/-- The first separator of a text is the one behind a part that has none. -/
theorem cut_append_cons {head : List Char} (h : sep ∉ head) (tail : List Char) :
    cut sep (head ++ sep :: tail) = (head, some tail) := by
  induction head with
  | nil => rw [List.nil_append, cut, if_pos rfl]
  | cons c head ih =>
    obtain ⟨hc, hhead⟩ := List.ne_and_not_mem_of_not_mem_cons h
    rw [List.cons_append, cut, if_neg hc.symm, ih hhead]

/-- What stands before a cut has no separator, and is parted by one from what stands behind it. -/
theorem cut_eq_some_iff {cs head tail : List Char} :
    cut sep cs = (head, some tail) ↔ cs = head ++ sep :: tail ∧ sep ∉ head := by
  refine ⟨fun h => ?_, fun ⟨heq, hmem⟩ => heq ▸ cut_append_cons hmem tail⟩
  -- The cut is at the first separator, so that it ends the text or moves on by a character.
  induction cs generalizing head with
  | nil => simp [cut] at h
  | cons c cs ih =>
    rw [cut] at h
    split at h
    · next hc =>
      obtain ⟨rfl, htail⟩ := Prod.mk.inj h
      obtain rfl := Option.some.inj htail
      exact ⟨by rw [hc, List.nil_append], List.not_mem_nil⟩
    · next hc =>
      obtain ⟨rfl, htail⟩ := Prod.mk.inj h
      obtain ⟨hcs, hmem⟩ := ih (Prod.ext rfl htail)
      refine ⟨by rw [List.cons_append, ← hcs], List.not_mem_cons_of_ne_of_not_mem ?_ hmem⟩
      exact Ne.symm hc

/-- Parts without the separator, joined by it, are the pieces of the text that they make up. -/
theorem pieces_join {parts : List (List Char)} (hne : parts ≠ []) (h : ∀ p ∈ parts, sep ∉ p) :
    pieces sep (join sep parts) = parts := by
  induction parts with
  | nil => exact absurd rfl hne
  | cons p parts ih =>
    have hp : sep ∉ p := h p List.mem_cons_self
    cases parts with
    | nil => rw [join, pieces_eq_cut, cut_of_not_mem hp]
    | cons q parts =>
      have hrest : pieces sep (join sep (q :: parts)) = q :: parts :=
        ih (List.cons_ne_nil q parts) fun r hr => h r (List.mem_cons_of_mem p hr)
      rw [join, pieces_eq_cut, cut_append_cons hp]
      exact congrArg (p :: ·) hrest

/-- A joined text consists of the characters of its parts and of separators. -/
theorem mem_join {parts : List (List Char)} {c : Char} (h : c ∈ join sep parts) :
    c = sep ∨ ∃ p ∈ parts, c ∈ p := by
  induction parts with
  | nil => exact absurd h List.not_mem_nil
  | cons p parts ih =>
    cases parts with
    | nil => exact .inr ⟨p, List.mem_cons_self, h⟩
    | cons q parts =>
      rw [join, List.mem_append, List.mem_cons] at h
      -- The character is in the first part, or the separator behind it, or in one of the others.
      rcases h with hp | rfl | hrest
      · exact .inr ⟨p, List.mem_cons_self, hp⟩
      · exact .inl rfl
      · refine (ih hrest).imp_right fun hmem => ?_
        obtain ⟨r, hr, hc⟩ := hmem
        exact ⟨r, List.mem_cons_of_mem p hr, hc⟩

/-- No digit is a blank. -/
theorem isBlank_of_isDigit {c : Char} (h : c.isDigit) : isBlank c = false := by
  have hrange : 0x30 ≤ c.toNat ∧ c.toNat ≤ 0x39 := by
    simpa [Char.isDigit, UInt32.le_iff_toNat_le] using h
  simp only [isBlank, blankRanges, Ranges.has, List.any_cons, List.any_nil, Bool.or_false,
    Bool.or_eq_false_iff, Bool.and_eq_false_iff, decide_eq_false_iff_not]
  omega

/-- Among the characters of ASCII the digits of all scripts are those of ASCII. -/
theorem isDigit_of_lt {c : Char} (h : c.toNat < 0x80) : isDigit c = c.isDigit := by
  -- The rows of the table as lists: to take a string apart is work for the kernel.
  have hrows : digitRanges = Ranges.ofRows [String.ofList _, String.ofList _, String.ofList _,
      String.ofList _, String.ofList _, String.ofList _, String.ofList _, String.ofList _,
      String.ofList _] := rfl
  have hranges : ∀ r ∈ digitRanges, r = (0x30, 0x39) ∨ 0x80 ≤ r.1 := by
    rw [hrows, Ranges.ofRows]
    simp only [List.flatMap_cons, String.toList_ofList]
    decide +kernel
  rw [Bool.eq_iff_iff]
  constructor
  · intro hdigit
    obtain ⟨r, hr, hlower, hupper⟩ := Ranges.has_iff.mp hdigit
    rcases hranges r hr with rfl | hfar
    · exact Char.isDigit_iff_toNat.mpr ⟨hlower, hupper⟩
    · omega
  · exact isDigit_of_isDigit

/-- The point is no digit of any script. -/
theorem isDigit_point : isDigit '.' = false :=
  isDigit_of_lt (by decide)

/-- A text that starts with another character has no blanks to take off in front. -/
theorem trimStart_eq_self {cs : List Char} (h : ∀ c ∈ cs.head?, isBlank c = false) :
    trimStart cs = cs := by
  cases cs with
  | nil => rfl
  | cons c cs =>
    have hc : ¬isBlank c = true := by
      rw [h c rfl]
      exact Bool.false_ne_true
    rw [trimStart, List.dropWhile_cons_of_neg hc]

/-- A text that starts and ends with other characters has no blanks to take off. -/
theorem trim_eq_self {cs : List Char} (hhead : ∀ c ∈ cs.head?, isBlank c = false)
    (hlast : ∀ c ∈ cs.getLast?, isBlank c = false) : trim cs = cs := by
  have hreverse : trimStart cs.reverse = cs.reverse :=
    trimStart_eq_self (by rwa [List.head?_reverse])
  rw [trim, trimStart_eq_self hhead, trimEnd, ← trimStart, hreverse, List.reverse_reverse]

end AccessPolicy.Text
