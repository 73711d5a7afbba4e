import AccessPolicy.Calendar.Letters
import Mathlib.Algebra.Group.Nat.Even
import Mathlib.Tactic.SplitIfs

/-!
# Formats of letters that cannot be written

The letter `r` asks for the date of a mail header, which only the years 0 to 9999 have. In all other
years a format cannot be written if it has an `r` that is not escaped (`lettersChars_of_unescaped`),
and every other format can (`exists_lettersChars`).

What is escaped is found out from left to right: a backslash escapes the character behind it, be
that another backslash or not (`unescaped`). Looked at from the character itself, it is not escaped
if the number of backslashes right before it is even (`mem_unescaped_iff`). What comes before these
backslashes does not matter, since the scan is between two characters wherever a character other
than a backslash has just been passed.
-/

namespace AccessPolicy.Calendar

/-! ## Escaping -/

/-- The characters of a format that are not escaped, without the backslashes that escape others. -/
def unescaped : List Char → List Char
  | [] => []
  | '\\' :: [] => []
  | '\\' :: _ :: cs => unescaped cs
  | c :: cs => c :: unescaped cs

/-- A character that neither escapes another nor is a backslash at the end is no backslash. -/
theorem ne_backslash {c : Char} {cs : List Char} (hlast : c = '\\' → cs = [] → False)
    (hpair : ∀ d rest, c = '\\' → cs = d :: rest → False) : c ≠ '\\' := by
  intro hc
  cases cs with
  | nil => exact hlast hc rfl
  | cons d rest => exact hpair d rest hc rfl

/-- The number of backslashes at the end of a text. -/
def backslashes (cs : List Char) : Nat :=
  (cs.reverse.takeWhile fun c => c = '\\').length

/-- A character in front that is no backslash does not count. -/
theorem backslashes_cons_of_ne {c : Char} (h : c ≠ '\\') (cs : List Char) :
    backslashes (c :: cs) = backslashes cs := by
  rw [backslashes, backslashes, List.reverse_cons, List.takeWhile_append]
  split_ifs with hall
  · rw [List.takeWhile_cons_of_neg (by simpa using h), List.append_nil, hall]
  · rfl

/-- A backslash in front counts if there are only backslashes. -/
theorem backslashes_cons_backslash (cs : List Char) :
    backslashes ('\\' :: cs) =
      if backslashes cs = cs.length then backslashes cs + 1 else backslashes cs := by
  rw [backslashes, backslashes, List.reverse_cons, List.takeWhile_append, List.length_reverse]
  split_ifs with hall
  · simp [hall]
  · rfl

/-- There are no more backslashes than characters. -/
theorem backslashes_le (cs : List Char) : backslashes cs ≤ cs.length := by
  calc backslashes cs ≤ cs.reverse.length := (List.takeWhile_prefix _).length_le
    _ = cs.length := List.length_reverse

/-- A backslash and the character that it escapes do not change whether the backslashes at the end
of a text are even in number. -/
theorem even_backslashes_escape (c : Char) (cs : List Char) :
    Even (backslashes ('\\' :: c :: cs)) ↔ Even (backslashes cs) := by
  have hle := backslashes_le cs
  rw [backslashes_cons_backslash, List.length_cons]
  by_cases hc : c = '\\'
  · -- The pair goes to the run as a whole or not at all.
    subst hc
    rw [backslashes_cons_backslash]
    by_cases hall : backslashes cs = cs.length
    · rw [if_pos hall, if_pos (by omega), Nat.even_add_one, Nat.even_add_one, not_not]
    · rw [if_neg hall, if_neg (by omega)]
  · rw [backslashes_cons_of_ne hc, if_neg (by omega)]

/-- A character other than a backslash is left unescaped where an even number of backslashes stands
right before it. -/
theorem mem_unescaped_iff {c : Char} (h : c ≠ '\\') (cs : List Char) :
    c ∈ unescaped cs ↔
      ∃ before after, cs = before ++ c :: after ∧ Even (backslashes before) := by
  fun_induction unescaped cs with
  | case1 => simp
  | case2 =>
    refine iff_of_false List.not_mem_nil ?_
    rintro ⟨before, after, heq, -⟩
    have hmem : c ∈ ['\\'] := heq ▸ List.mem_append_right before List.mem_cons_self
    exact h (List.mem_singleton.mp hmem)
  | case3 d cs ih =>
    rw [ih]
    constructor
    · rintro ⟨before, after, rfl, heven⟩
      exact ⟨'\\' :: d :: before, after, rfl, (even_backslashes_escape d before).mpr heven⟩
    · rintro ⟨before, after, heq, heven⟩
      match before with
      | [] => exact absurd (List.cons.inj heq).1.symm h
      | [b] =>
        -- The character is the one that the backslash escapes.
        obtain rfl := (List.cons.inj heq).1
        exact absurd heven (by decide)
      | b :: e :: before =>
        obtain ⟨rfl, hpair⟩ := List.cons.inj heq
        obtain ⟨rfl, htail⟩ := List.cons.inj hpair
        exact ⟨before, after, htail, (even_backslashes_escape d before).mp heven⟩
  | case4 d cs hlast hpair ih =>
    have hd : d ≠ '\\' := ne_backslash hlast hpair
    rw [List.mem_cons, ih]
    constructor
    · rintro (rfl | ⟨before, after, rfl, heven⟩)
      · exact ⟨[], cs, rfl, by decide⟩
      · exact ⟨d :: before, after, rfl, by rwa [backslashes_cons_of_ne hd]⟩
    · rintro ⟨before, after, heq, heven⟩
      cases before with
      | nil => exact .inl (List.cons.inj heq).1.symm
      | cons b before =>
        obtain ⟨rfl, htail⟩ := List.cons.inj heq
        exact .inr ⟨before, after, htail, by rwa [backslashes_cons_of_ne hd] at heven⟩

/-! ## Writing -/

variable {t : Instant}

/-- The letter `r` is the date of a mail header. -/
theorem letterChars_mail (t : Instant) :
    letterChars t 'r' = (mailChars? t).elim (.error (.mailYear t.date.year)) .ok := by
  unfold letterChars
  cases mailChars? t <;> rfl

/-- The letter `r` can be written in the years 0 to 9999. -/
theorem letterChars_mail_of_year (h : 0 ≤ t.date.year ∧ t.date.year ≤ 9999) :
    ∃ written, letterChars t 'r' = .ok written := by
  obtain ⟨cs, hmail⟩ : ∃ cs, mailChars? t = some cs := ⟨_, if_pos h⟩
  rw [letterChars_mail, hmail]
  exact ⟨cs, rfl⟩

/-- The letter `r` cannot be written in years that have a sign or more than four digits. -/
theorem letterChars_mail_of_not_year (h : ¬(0 ≤ t.date.year ∧ t.date.year ≤ 9999)) :
    letterChars t 'r' = .error (.mailYear t.date.year) := by
  have hmail : mailChars? t = none := if_neg h
  rw [letterChars_mail, hmail]
  rfl

/-- Every letter but `r` can be written. -/
theorem exists_letterChars {c : Char} (h : c ≠ 'r') : ∃ written, letterChars t c = .ok written := by
  unfold letterChars
  split
  case h_32 => exact absurd rfl h
  all_goals exact ⟨_, rfl⟩

/-- A letter that is not escaped is written, and then what stands behind it. -/
theorem lettersChars_cons {c : Char} (h : c ≠ '\\') (cs : List Char) :
    lettersChars t (c :: cs) = (do
      let written ← letterChars t c
      let rest ← lettersChars t cs
      return written ++ rest) := by
  rw [lettersChars]
  · exact fun hc _ => h hc
  · exact fun _ _ hc _ => h hc

/-- In years that mail headers do not have, a format with an unescaped `r` cannot be written. -/
theorem lettersChars_of_unescaped (hyear : ¬(0 ≤ t.date.year ∧ t.date.year ≤ 9999))
    {format : List Char} (h : 'r' ∈ unescaped format) :
    lettersChars t format = .error (.mailYear t.date.year) := by
  fun_induction unescaped format with
  | case1 => exact absurd h List.not_mem_nil
  | case2 => exact absurd h List.not_mem_nil
  | case3 c cs ih =>
    rw [lettersChars, ih h]
    rfl
  | case4 c cs hlast hpair ih =>
    rw [lettersChars_cons (ne_backslash hlast hpair)]
    by_cases hc : c = 'r'
    · -- The scan has come to the letter, and nothing behind it counts any more.
      rw [hc, letterChars_mail_of_not_year hyear]
      rfl
    · obtain ⟨written, hwritten⟩ := exists_letterChars (t := t) hc
      rw [hwritten, ih ((List.mem_cons.mp h).resolve_left fun heq => hc heq.symm)]
      rfl

/-- All other formats can be written: those without an unescaped `r`, and any in the years that mail
headers have. -/
theorem exists_lettersChars {format : List Char}
    (h : 'r' ∈ unescaped format → 0 ≤ t.date.year ∧ t.date.year ≤ 9999) :
    ∃ written, lettersChars t format = .ok written := by
  fun_induction unescaped format with
  | case1 => exact ⟨[], rfl⟩
  | case2 => exact ⟨[], rfl⟩
  | case3 c cs ih =>
    obtain ⟨written, hwritten⟩ := ih h
    rw [lettersChars, hwritten]
    exact ⟨c :: written, rfl⟩
  | case4 c cs hlast hpair ih =>
    obtain ⟨rest, hrest⟩ := ih fun hr => h (List.mem_cons_of_mem c hr)
    -- The only letter that may be refused is the one of mail headers.
    have hletter : ∃ written, letterChars t c = .ok written := by
      by_cases hc : c = 'r'
      · subst hc
        exact letterChars_mail_of_year (h List.mem_cons_self)
      · exact exists_letterChars hc
    obtain ⟨written, hwritten⟩ := hletter
    rw [lettersChars_cons (ne_backslash hlast hpair), hwritten, hrest]
    exact ⟨written ++ rest, rfl⟩

end AccessPolicy.Calendar
