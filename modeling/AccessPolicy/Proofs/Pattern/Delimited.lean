import AccessPolicy.Pattern.Basic

/-!
# Delimited patterns

A pattern is delimited if it is a delimiter, a body, the same delimiter and letters (`Delimited`).
The body may hold the delimiter itself, since the letters cannot: the second delimiter is the last
one in the pattern, so that it and all parts are found again (`Delimited.unique`,
`delimited?_eq_some_iff`). A pattern that is not delimited is read whole.
-/

namespace AccessPolicy.Pattern

/-! ## The last occurrence of a character -/

variable {d : Char} {cs head tail body flags pattern : List Char}

/-- A text without the character is not cut. -/
theorem cutLast?_of_not_mem (h : d ∉ cs) : cutLast? d cs = none := by
  induction cs with
  | nil => rfl
  | cons c cs ih =>
    obtain ⟨hc, hcs⟩ := List.ne_and_not_mem_of_not_mem_cons h
    rw [cutLast?, ih hcs]
    exact if_neg (Ne.symm hc)

/-- The last occurrence in a text is the one behind which there is none. -/
theorem cutLast?_append_cons (h : d ∉ tail) (head : List Char) :
    cutLast? d (head ++ d :: tail) = some (head, tail) := by
  induction head with
  | nil =>
    rw [List.nil_append, cutLast?, cutLast?_of_not_mem h]
    exact if_pos rfl
  | cons c head ih => rw [List.cons_append, cutLast?, ih]

/-- A text that is not cut has no such character. -/
theorem not_mem_of_cutLast? (h : cutLast? d cs = none) : d ∉ cs := by
  induction cs with
  | nil => exact List.not_mem_nil
  | cons c cs ih =>
    rw [cutLast?] at h
    cases hcut : cutLast? d cs with
    | some parts =>
      rw [hcut] at h
      exact absurd h nofun
    | none =>
      rw [hcut] at h
      refine List.not_mem_cons_of_ne_of_not_mem ?_ (ih hcut)
      rintro rfl
      exact absurd ((if_pos rfl).symm.trans h) nofun

/-- What stands behind a cut has no such character, and is parted by one from what stands before
it. -/
theorem cutLast?_eq_some_iff :
    cutLast? d cs = some (head, tail) ↔ cs = head ++ d :: tail ∧ d ∉ tail := by
  refine ⟨fun h => ?_, fun ⟨heq, hmem⟩ => heq ▸ cutLast?_append_cons hmem head⟩
  induction cs generalizing head with
  | nil => exact absurd h nofun
  | cons c cs ih =>
    rw [cutLast?] at h
    cases hcut : cutLast? d cs with
    | some parts =>
      obtain ⟨front, back⟩ := parts
      rw [hcut] at h
      obtain ⟨rfl, rfl⟩ := Prod.mk.inj (Option.some.inj h)
      obtain ⟨hcs, hmem⟩ := ih hcut
      exact ⟨by rw [hcs, List.cons_append], hmem⟩
    | none =>
      -- The rest has no such character, so the one that was found is the first of all.
      rw [hcut] at h
      by_cases hc : c = d
      · rw [if_pos hc] at h
        obtain ⟨rfl, rfl⟩ := Prod.mk.inj (Option.some.inj h)
        exact ⟨by rw [hc, List.nil_append], not_mem_of_cutLast? hcut⟩
      · rw [if_neg hc] at h
        exact absurd h nofun

/-! ## Delimiters and letters -/

/-- Whether a pattern is a body between two equal delimiters with letters behind the second one. -/
structure Delimited (d : Char) (body flags pattern : List Char) : Prop where
  isDelimiter : d ∈ delimiters
  eq : pattern = d :: (body ++ d :: flags)
  areLetters : ∀ c ∈ flags, c.isAlpha = true

namespace Delimited

/-- No letter is a delimiter. -/
theorem not_mem_flags (h : Delimited d body flags pattern) : d ∉ flags := by
  have hnone : delimiters.all (fun d => !d.isAlpha) = true := by decide
  intro hmem
  have hdelimiter : (!d.isAlpha) = true := List.all_eq_true.mp hnone d h.isDelimiter
  rw [h.areLetters d hmem] at hdelimiter
  exact Bool.false_ne_true hdelimiter

/-- Behind the first delimiter of a delimited pattern the last one is the second one. -/
theorem cutLast? (h : Delimited d body flags pattern) :
    Pattern.cutLast? d (body ++ d :: flags) = some (body, flags) :=
  cutLast?_append_cons h.not_mem_flags body

/-- A pattern is delimited in one way at most. -/
theorem unique {d' : Char} {body' flags' : List Char} (h : Delimited d body flags pattern)
    (h' : Delimited d' body' flags' pattern) : d = d' ∧ body = body' ∧ flags = flags' := by
  obtain ⟨rfl, hrest⟩ := List.cons.inj (h.eq.symm.trans h'.eq)
  have hparts : (body, flags) = (body', flags') := by
    rw [← Option.some.injEq, ← h.cutLast?, ← h'.cutLast?, hrest]
  obtain ⟨rfl, rfl⟩ := Prod.mk.inj hparts
  exact ⟨rfl, rfl, rfl⟩

end Delimited

/-- The parts of a delimited pattern are found, and nothing else is taken for one. -/
theorem delimited?_eq_some_iff :
    delimited? pattern = some (body, flags) ↔ ∃ d, Delimited d body flags pattern := by
  constructor
  · intro h
    cases pattern with
    | nil => exact absurd h.symm (Option.some_ne_none _)
    | cons d rest =>
      -- The text is cut at the last character that equals the first one, and only letters may
      -- follow.
      rw [delimited?] at h
      split at h
      · next hd =>
        cases hcut : cutLast? d rest with
        | none =>
          rw [hcut] at h
          exact absurd h.symm (Option.some_ne_none _)
        | some parts =>
          obtain ⟨front, back⟩ := parts
          rw [hcut] at h
          dsimp only at h
          split at h
          · next hletters =>
            obtain ⟨rfl, rfl⟩ := Prod.mk.inj (Option.some.inj h)
            obtain ⟨rfl, -⟩ := cutLast?_eq_some_iff.mp hcut
            exact ⟨d, List.contains_iff_mem.mp hd, rfl, List.all_eq_true.mp hletters⟩
          · exact absurd h.symm (Option.some_ne_none _)
      · exact absurd h.symm (Option.some_ne_none _)
  · rintro ⟨d, h⟩
    rw [h.eq, delimited?, if_pos (List.contains_iff_mem.mpr h.isDelimiter), h.cutLast?]
    exact if_pos (List.all_eq_true.mpr h.areLetters)

/-- A pattern that is not delimited has no parts. -/
theorem delimited?_eq_none_iff :
    delimited? pattern = none ↔ ∀ d body flags, ¬Delimited d body flags pattern := by
  rw [Option.eq_none_iff_forall_ne_some, Prod.forall]
  simp only [ne_eq, delimited?_eq_some_iff, not_exists]
  exact ⟨fun h d body flags => h body flags d, fun h body flags d => h d body flags⟩

/-! ## Compiling -/

/-- A delimited pattern is its body under the flags of its letters. -/
theorem compile?_of_delimited {pattern : String} (h : Delimited d body flags pattern.toList) :
    compile? pattern = (Regex.ofChars? (flagsOf flags) body).filter Regex.fits := by
  have hparts : bodyAndFlags pattern.toList = (body, flags) := by
    rw [bodyAndFlags, delimited?_eq_some_iff.mpr ⟨d, h⟩, Option.getD_some]
  rw [compile?, hparts]

/-- Any other pattern is all body, under no flags. -/
theorem compile?_of_forall {pattern : String}
    (h : ∀ d body flags, ¬Delimited d body flags pattern.toList) :
    compile? pattern = (Regex.ofChars? {} pattern.toList).filter Regex.fits := by
  have hparts : bodyAndFlags pattern.toList = (pattern.toList, []) := by
    rw [bodyAndFlags, delimited?_eq_none_iff.mpr h, Option.getD_none]
  have hflags : flagsOf [] = {} := rfl
  rw [compile?, hparts]
  dsimp only
  rw [hflags]

/-- A pattern has a body and flags exactly if it is a body between two equal delimiters with ASCII
letters, or none, behind the second one. The delimiter and the parts are then determined by the
pattern, and it compiles as its body does under the flags; from a body, whatever it holds, a
delimiter and letters they are found again. A pattern that is not so made has none, and compiles
whole under no flags. -/
theorem delimited?_exact (pattern : String) :
    (∀ body flags, delimited? pattern.toList = some (body, flags) ↔
      ∃ d, Delimited d body flags pattern.toList) ∧
    (∀ d body flags, Delimited d body flags pattern.toList →
      (∀ d' body' flags', Delimited d' body' flags' pattern.toList →
        d' = d ∧ body' = body ∧ flags' = flags) ∧
      compile? pattern = (Regex.ofChars? (flagsOf flags) body).filter Regex.fits) ∧
    (∀ d ∈ delimiters, ∀ body flags : List Char, (∀ c ∈ flags, c.isAlpha = true) →
      delimited? (d :: (body ++ d :: flags)) = some (body, flags)) ∧
    ((∀ d body flags, ¬Delimited d body flags pattern.toList) →
      delimited? pattern.toList = none ∧
        compile? pattern = (Regex.ofChars? {} pattern.toList).filter Regex.fits) := by
  refine ⟨fun body flags => delimited?_eq_some_iff, ?_, ?_, ?_⟩
  · intro d body flags h
    exact ⟨fun d' body' flags' h' => h'.unique h, compile?_of_delimited h⟩
  · intro d hd body flags hletters
    exact delimited?_eq_some_iff.mpr ⟨d, hd, rfl, hletters⟩
  · intro h
    exact ⟨delimited?_eq_none_iff.mpr h, compile?_of_forall h⟩

/-- The body `a/b` is found between slashes with the letter `i` behind them; without delimiters
around it the same text is all body. -/
theorem delimited?_exact_slashes :
    Delimited '/' ['a', '/', 'b'] ['i'] "/a/b/i".toList ∧
      delimited? "/a/b/i".toList = some (['a', '/', 'b'], ['i']) ∧
      compile? "/a/b/i" = (Regex.ofChars? (flagsOf ['i']) ['a', '/', 'b']).filter Regex.fits ∧
      compile? "a/b" = (Regex.ofChars? {} "a/b".toList).filter Regex.fits := by
  have hslashes : Delimited '/' ['a', '/', 'b'] ['i'] "/a/b/i".toList :=
    ⟨by decide, rfl, List.forall_mem_singleton.mpr rfl⟩
  have hbare : ∀ d body flags, ¬Delimited d body flags "a/b".toList :=
    delimited?_eq_none_iff.mp rfl
  obtain ⟨hfound, hcompiled, -, -⟩ := delimited?_exact "/a/b/i"
  obtain ⟨-, -, -, hwhole⟩ := delimited?_exact "a/b"
  exact ⟨hslashes, (hfound _ _).mpr ⟨'/', hslashes⟩, (hcompiled _ _ _ hslashes).2, (hwhole hbare).2⟩

end AccessPolicy.Pattern
