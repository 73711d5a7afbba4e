import AccessPolicy.Proofs.Pattern.EmptyText
import AccessPolicy.Proofs.Pattern.Search
import AccessPolicy.Proofs.Pattern.Sequence
import Mathlib.Data.List.Infix

/-!
# What wildcard patterns cover

A wildcard pattern covers a subject if the subject is the pattern with a text in the place of each
asterisk (`Covers`). The matcher keeps what a front of the pattern can leave of the subject: behind
an asterisk these are all suffixes of the longest text, and since all the others are among them no
other text has to be tried (`mem_leftOver_iff`, `glob_iff_covers`).

The regular expression of a pattern asks for the start of the subject, leads over what each
character of the pattern covers, and asks for the end. So what it matches is the whole of a subject
that the pattern covers (`occurs_wildcardRegex_iff`), and the matcher agrees with a search for it
(`glob_eq_search`).
-/

namespace AccessPolicy.Pattern

/-! ## Deciding what a pattern covers -/

/-- The suffixes are the library's tails. -/
theorem suffixes_eq_tails (s : List Char) : suffixes s = s.tails := by
  induction s with
  | nil => rfl
  | cons c s ih => rw [suffixes, List.tails, ih]

/-- Texts of which each is a suffix of those before it. -/
def Nested (rests : List (List Char)) : Prop :=
  rests.Pairwise fun a b => b <:+ a

/-- The list of suffixes has exactly the suffixes. -/
theorem mem_suffixes_iff {s t : List Char} : t ∈ suffixes s ↔ t <:+ s := by
  rw [suffixes_eq_tails, List.mem_tails]

/-- Of two suffixes one is a suffix of the other. -/
theorem nested_suffixes (s : List Char) : Nested (suffixes s) := by
  induction s with
  | nil => exact List.pairwise_singleton _ _
  | cons c s ih =>
    exact List.pairwise_cons.mpr
      ⟨fun t ht => (mem_suffixes_iff.mp ht).trans (List.suffix_cons c s), ih⟩

/-- A text is behind a character when the two make up the whole. -/
theorem behind?_eq_some_iff {c : Char} {s t : List Char} : behind? c s = some t ↔ s = c :: t := by
  cases s with
  | nil => exact iff_of_false nofun nofun
  | cons d s =>
    rw [behind?, Option.ite_none_right_eq_some, Option.some.injEq, List.cons.injEq]

/-- Behind a character nested texts are nested. -/
theorem Nested.behind {rests : List (List Char)} (h : Nested rests) (c : Char) :
    Nested (rests.filterMap (behind? c)) := by
  refine List.Pairwise.filterMap _ ?_ h
  intro a b hab a' ha b' hb
  rw [behind?_eq_some_iff] at ha hb
  subst ha hb
  rcases List.suffix_cons_iff.mp hab with heq | hsuffix
  · exact (List.cons.inj heq).2 ▸ List.suffix_refl b'
  · exact (List.suffix_cons c b').trans hsuffix

/-- The empty pattern covers the empty text only. -/
theorem covers_nil_iff {s : List Char} : Covers [] s ↔ s = [] := by
  constructor
  · intro h
    cases h
    rfl
  · rintro rfl
    exact .nil

/-- A star covers any beginning. -/
theorem covers_star_iff {p s : List Char} :
    Covers ('*' :: p) s ↔ ∃ u t, s = u ++ t ∧ Covers p t := by
  constructor
  · intro h
    cases h with
    | star ht => exact ⟨_, _, rfl, ht⟩
    | char hne _ => exact absurd rfl hne
  · rintro ⟨u, t, rfl, ht⟩
    exact .star ht

/-- Any other character covers itself only. -/
theorem covers_cons_iff {c : Char} {p s : List Char} (hc : c ≠ '*') :
    Covers (c :: p) s ↔ ∃ t, s = c :: t ∧ Covers p t := by
  constructor
  · intro h
    cases h with
    | star ht => exact absurd rfl hc
    | char _ ht => exact ⟨_, rfl, ht⟩
  · rintro ⟨t, rfl, ht⟩
    exact .char hc ht

/-- Characters other than asterisks cover themselves. -/
theorem covers_append_iff {front p s : List Char} (h : '*' ∉ front) :
    Covers (front ++ p) s ↔ ∃ t, s = front ++ t ∧ Covers p t := by
  induction front generalizing s with
  | nil => simp only [List.nil_append, exists_eq_left']
  | cons c front ih =>
    obtain ⟨hc, hfront⟩ := List.ne_and_not_mem_of_not_mem_cons h
    rw [List.cons_append, covers_cons_iff hc.symm]
    simp only [ih hfront, List.cons_append]
    constructor
    · rintro ⟨_, rfl, t, rfl, ht⟩
      exact ⟨t, rfl, ht⟩
    · rintro ⟨t, rfl, ht⟩
      exact ⟨_, rfl, t, rfl, ht⟩

/-- Behind a star every suffix of the longest rest is left over. -/
theorem leftOver_star (p s : List Char) (rests : List (List Char)) :
    leftOver ('*' :: p) (s :: rests) = leftOver p (suffixes s) := by
  rw [leftOver.eq_def]
  exact if_pos rfl

/-- Behind a character the rests that begin with it are left over, without it. -/
theorem leftOver_char {c : Char} (hc : c ≠ '*') (p : List Char) (rests : List (List Char)) :
    leftOver (c :: p) rests = leftOver p (rests.filterMap (behind? c)) := by
  rw [leftOver.eq_def]
  exact if_neg hc

/-- What a pattern leaves of nested texts is what stands behind a text that it covers in one of
them. An asterisk covers what is in front of any suffix of the first text, which all the others
are. -/
theorem mem_leftOver_iff {p t : List Char} {rests : List (List Char)} (h : Nested rests) :
    t ∈ leftOver p rests ↔ ∃ r ∈ rests, ∃ u, Covers p u ∧ r = u ++ t := by
  induction p generalizing rests with
  | nil =>
    simp only [leftOver, covers_nil_iff, exists_eq_left, List.nil_append, exists_eq_right]
  | cons c p ih =>
    by_cases hc : c = '*'
    · subst hc
      cases rests with
      | nil => simp only [leftOver_nil, List.not_mem_nil, false_and, exists_false]
      | cons s rests =>
        rw [leftOver_star, ih (nested_suffixes s)]
        constructor
        · rintro ⟨r, hr, u, hu, rfl⟩
          obtain ⟨front, hfront⟩ := mem_suffixes_iff.mp hr
          refine ⟨s, List.mem_cons_self, front ++ u, .star hu, ?_⟩
          rw [List.append_assoc, hfront]
        · rintro ⟨r, hr, v, hv, rfl⟩
          obtain ⟨front, u, rfl, hu⟩ := covers_star_iff.mp hv
          -- The other texts are suffixes of the first one, so the asterisk can take what is in
          -- front of them.
          have hsuffix : front ++ u ++ t <:+ s := by
            rcases List.mem_cons.mp hr with rfl | hr
            · exact List.suffix_refl _
            · exact (List.pairwise_cons.mp h).1 _ hr
          refine ⟨u ++ t, mem_suffixes_iff.mpr ?_, u, hu, rfl⟩
          rw [List.append_assoc] at hsuffix
          exact (List.suffix_append front (u ++ t)).trans hsuffix
    · rw [leftOver_char hc, ih (h.behind c)]
      simp only [List.mem_filterMap, behind?_eq_some_iff]
      constructor
      · rintro ⟨_, ⟨r, hr, rfl⟩, u, hu, rfl⟩
        exact ⟨_, hr, c :: u, .char hc hu, rfl⟩
      · rintro ⟨r, hr, v, hv, rfl⟩
        obtain ⟨u, rfl, hu⟩ := (covers_cons_iff hc).mp hv
        exact ⟨u ++ t, ⟨_, hr, rfl⟩, u, hu, rfl⟩

/-- The matcher of wildcard patterns decides what they cover. -/
theorem glob_iff_covers {p s : List Char} : glob p s = true ↔ Covers p s := by
  rw [glob, List.contains_iff_mem, mem_leftOver_iff (List.pairwise_singleton _ _)]
  simp only [List.mem_singleton, exists_eq_left, List.append_nil, exists_eq_right']

/-! ## Literal text in a pattern -/

/-- A pattern has a test exactly when its expression fits the size limit. -/
theorem isSome_wildcard?_iff {pattern : String} :
    (wildcard? pattern).isSome = true ↔ (wildcardRegex pattern.toList).fits = true := by
  rw [wildcard?, Option.isSome_ite]

/-- A wildcard pattern that has a matcher is like the subjects that it covers. -/
theorem like_iff_covers {pattern subject : String} (h : (wildcard? pattern).isSome = true) :
    like pattern subject = true ↔ Covers pattern.toList subject.toList := by
  rw [like_iff, and_iff_right (isSome_wildcard?_iff.mp h), glob_iff_covers]

/-- Literal text in front of a pattern covers itself in front of the subject. -/
theorem like_append {front pattern subject : String} (hfront : '*' ∉ front.toList)
    (h : (wildcard? pattern).isSome = true)
    (h' : (wildcard? (front ++ pattern)).isSome = true) :
    like (front ++ pattern) (front ++ subject) = like pattern subject := by
  rw [Bool.eq_iff_iff, like_iff_covers h, like_iff_covers h', String.toList_append,
    String.toList_append, covers_append_iff hfront]
  simp only [List.append_cancel_left_eq, exists_eq_left']

/-- A pattern without asterisks covers itself alone. -/
theorem like_iff_eq {pattern subject : String} (hpattern : '*' ∉ pattern.toList)
    (h : (wildcard? pattern).isSome = true) :
    like pattern subject = true ↔ subject = pattern := by
  rw [like_iff_covers h, ← List.append_nil pattern.toList, covers_append_iff hpattern]
  simp only [covers_nil_iff, exists_eq_right, List.append_nil, String.toList_inj]

/-! ## The expression of a pattern -/

/-- Any character is one of the set of all characters. -/
theorem has_complement_nil (c : Char) : (Text.Ranges.complement []).has c.toNat = true := by
  have hall : Text.Ranges.complement [] = [(0, 0xD7FF), (0xE000, 0x10FFFF)] := by decide
  have hvalid : c.toNat < 0xD800 ∨ 0xDFFF < c.toNat ∧ c.toNat < 0x110000 := c.valid
  rw [hall, Text.Ranges.has_iff]
  simp only [List.mem_cons, List.not_mem_nil, or_false, exists_eq_or_imp, exists_eq_left]
  omega

/-- Copies of any character lead to all places ahead. -/
theorem exists_times_takes_iff {p q : Place} :
    (∃ n, Times (Place.Takes (.complement [])) n p q) ↔ p.Ahead q := by
  constructor
  · rintro ⟨n, h⟩
    induction n generalizing p with
    | zero => exact ⟨[], Place.reads_nil_iff.mpr h⟩
    | succ n ih =>
      obtain ⟨m, ⟨c, -, hpm⟩, hmq⟩ := h
      obtain ⟨text, htext⟩ := ih hmq
      exact ⟨c :: text, Place.reads_cons_iff.mpr ⟨m, hpm, htext⟩⟩
  · rintro ⟨text, h⟩
    induction text generalizing p with
    | nil => exact ⟨0, Place.reads_nil_iff.mp h⟩
    | cons c text ih =>
      obtain ⟨m, hpm, hmq⟩ := Place.reads_cons_iff.mp h
      obtain ⟨n, hn⟩ := ih hmq
      exact ⟨n + 1, m, ⟨c, has_complement_nil c, hpm⟩, hn⟩

/-- The part of the expression that a character of a pattern becomes. -/
def wildcardPart (c : Char) : Regex :=
  if c = '*' then .repetition (.chars (Text.Ranges.complement [])) 0 none true else .literal [c]

/-- The expression asks for the start of the subject, the parts of the pattern, and the end. -/
theorem wildcardRegex_eq (p : List Char) :
    wildcardRegex p =
      .sequence (.look .textStart :: (p.map wildcardPart ++ [.look .textEnd])) :=
  rfl

/-- The part of an asterisk leads anywhere ahead. -/
theorem leads_wildcardPart_star {p q : Place} : (wildcardPart '*').Leads p q ↔ p.Ahead q := by
  rw [← exists_times_takes_iff]
  simp [wildcardPart, Regex.Leads]

/-- The part of any other character leads over that character. -/
theorem leads_wildcardPart {c : Char} (hc : c ≠ '*') {p q : Place} :
    (wildcardPart c).Leads p q ↔ p.Reads [c] q := by
  rw [wildcardPart, if_neg hc]
  exact Iff.rfl

/-- The parts of a pattern lead over the texts that it covers. -/
theorem leadAll_wildcardPart_iff {p : List Char} {a b : Place} :
    Regex.LeadAll (p.map wildcardPart) a b ↔ ∃ text, Covers p text ∧ a.Reads text b := by
  induction p generalizing a with
  | nil =>
    simp only [covers_nil_iff, exists_eq_left, Place.reads_nil_iff]
    exact Iff.rfl
  | cons c p ih =>
    show Relation.Comp (wildcardPart c).Leads (Regex.LeadAll (p.map wildcardPart)) a b ↔ _
    -- An asterisk leads over any text, and another character over itself.
    by_cases hc : c = '*'
    · subst hc
      constructor
      · rintro ⟨m, hm, hb⟩
        obtain ⟨u, hu⟩ := leads_wildcardPart_star.mp hm
        obtain ⟨t, ht, hread⟩ := ih.mp hb
        exact ⟨u ++ t, .star ht, Place.reads_append_iff.mpr ⟨m, hu, hread⟩⟩
      · rintro ⟨text, htext, hread⟩
        obtain ⟨u, t, rfl, ht⟩ := covers_star_iff.mp htext
        obtain ⟨m, hu, hb⟩ := Place.reads_append_iff.mp hread
        exact ⟨m, leads_wildcardPart_star.mpr ⟨u, hu⟩, ih.mpr ⟨t, ht, hb⟩⟩
    · constructor
      · rintro ⟨m, hm, hb⟩
        obtain ⟨t, ht, hread⟩ := ih.mp hb
        exact ⟨c :: t, .char hc ht,
          Place.reads_cons_iff.mpr ⟨m, (leads_wildcardPart hc).mp hm, hread⟩⟩
      · rintro ⟨text, htext, hread⟩
        obtain ⟨t, rfl, ht⟩ := (covers_cons_iff hc).mp htext
        obtain ⟨m, hm, hb⟩ := Place.reads_cons_iff.mp hread
        exact ⟨m, (leads_wildcardPart hc).mpr hm, ih.mpr ⟨t, ht, hb⟩⟩

/-- What the expression of a pattern matches starts where the subject does and ends where it
ends. -/
theorem leads_wildcardRegex_iff {p : List Char} {a b : Place} :
    (wildcardRegex p).Leads a b ↔
      a.front = none ∧ b.rest = [] ∧ Regex.LeadAll (p.map wildcardPart) a b := by
  -- The two assertions stay where they are.
  have hstart : ∀ m, (Regex.look .textStart).Leads a m ↔ a.front = none ∧ a = m := by
    intro m
    rw [← Option.isNone_iff_eq_none]
    exact Iff.rfl
  have hend : ∀ m, (Regex.look .textEnd).Leads m b ↔ m.rest = [] ∧ m = b := by
    intro m
    rw [← List.head?_eq_none_iff, ← Option.isNone_iff_eq_none]
    exact Iff.rfl
  rw [wildcardRegex_eq, Regex.leads_sequence]
  show Relation.Comp _ (Regex.LeadAll (p.map wildcardPart ++ [.look .textEnd])) a b ↔ _
  rw [Regex.leadAll_append, Regex.leadAll_singleton]
  constructor
  · rintro ⟨m, hm, n, hparts, hn⟩
    obtain ⟨hfront, rfl⟩ := (hstart m).mp hm
    obtain ⟨hrest, rfl⟩ := (hend n).mp hn
    exact ⟨hfront, hrest, hparts⟩
  · rintro ⟨hfront, hrest, hparts⟩
    exact ⟨a, (hstart a).mpr ⟨hfront, rfl⟩, b, hparts, (hend b).mpr ⟨hrest, rfl⟩⟩

/-- Only the first place of a subject has no character in front. -/
theorem Place.ahead_first_iff {s : List Char} {p : Place} (hp : p.front = none) :
    (Place.first s).Ahead p ↔ p = Place.first s := by
  constructor
  · rintro ⟨text, hrest, hfront⟩
    rw [hp] at hfront
    have hnil : text = [] := List.getLast?_eq_none_iff.mp (Option.or_eq_none_iff.mp hfront.symm).1
    subst hnil
    exact (Place.reads_nil_iff.mp ⟨hrest, by rw [hp]; rfl⟩).symm
  · rintro rfl
    exact ⟨[], Place.reads_nil_iff.mpr rfl⟩

/-- The expression of a wildcard pattern is found in the subjects that the pattern covers. -/
theorem occurs_wildcardRegex_iff {p s : List Char} : (wildcardRegex p).Occurs s ↔ Covers p s := by
  constructor
  · rintro ⟨a, b, ha, hab⟩
    obtain ⟨hfront, hrest, hparts⟩ := leads_wildcardRegex_iff.mp hab
    -- The match starts in front and ends at the end, so that its text is the whole subject.
    obtain rfl := (Place.ahead_first_iff hfront).mp ha
    obtain ⟨text, htext, hread, -⟩ := leadAll_wildcardPart_iff.mp hparts
    have hs : s = text := by rw [← List.append_nil text, ← hrest, ← hread, Place.first]
    rwa [hs]
  · intro h
    have hread : (Place.first s).Reads s ⟨s.getLast?, []⟩ := by
      refine ⟨(List.append_nil s).symm, ?_⟩
      exact (Option.or_none).symm
    have hparts : Regex.LeadAll (p.map wildcardPart) (Place.first s) ⟨s.getLast?, []⟩ :=
      leadAll_wildcardPart_iff.mpr ⟨s, h, hread⟩
    exact ⟨_, _, (Place.ahead_first_iff rfl).mpr rfl,
      leads_wildcardRegex_iff.mpr ⟨rfl, rfl, hparts⟩⟩

/-- The matcher of wildcard patterns agrees with the search for their expression. -/
theorem glob_eq_search (p s : List Char) : glob p s = (wildcardRegex p).search s := by
  rw [Bool.eq_iff_iff, glob_iff_covers, Regex.search_iff, occurs_wildcardRegex_iff]

end AccessPolicy.Pattern
