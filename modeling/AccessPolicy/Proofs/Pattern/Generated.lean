import AccessPolicy.Proofs.Pattern.Capacity
import AccessPolicy.Text.Cut
import Mathlib.Tactic.SplitIfs

/-!
# The matcher of a wildcard pattern

A wildcard pattern is turned into a regular expression as a text: its pieces between asterisks, with
a backslash in front of every operator, are joined by `.*`; a caret and a dollar sign ask for the
ends of the subject, and a flag in front lets the dot stand for every character. The reader of
expressions makes of this text the expression that the pattern stands for (`ofChars?_wildcardText`),
so nothing but the asterisks of a pattern comes to be an operator.

The text is the concatenation of what each character of the pattern becomes (`wildcardText_eq`), and
the reader goes on behind each of these parts as if it had read a single item
(`exists_expression_part`). What the matcher accepts then follows from what the expression matches
(`wildcard?_covers`).
-/

namespace AccessPolicy.Pattern

/-! ## The text -/

/-- The characters that do not stand for themselves everywhere in an expression, unless there is a
backslash in front of them. -/
def operators : List Char :=
  "\\.+*?()|[]\x7b\x7d^$#&-~".toList

/-- A text with a backslash in front of every operator. -/
def escaped (text : List Char) : List Char :=
  text.flatMap fun c => if c ∈ operators then ['\\', c] else [c]

/-- The written expression of a pattern. -/
def wildcardText (pattern : List Char) : List Char :=
  "(?s)^".toList ++ List.intercalate ".*".toList ((Text.pieces '*' pattern).map escaped) ++ ['$']

/-- What a character of a pattern becomes in the text. -/
def partText (c : Char) : List Char :=
  if c = '*' then ".*".toList else if c ∈ operators then ['\\', c] else [c]

/-- The joined pieces are what the characters of the pattern become. -/
theorem intercalate_pieces (pattern : List Char) :
    List.intercalate ".*".toList ((Text.pieces '*' pattern).map escaped) =
      pattern.flatMap partText := by
  induction pattern with
  | nil => rfl
  | cons c pattern ih =>
    -- A character stands in front of the first piece, but an asterisk ends a piece that is empty.
    obtain ⟨piece, rest, hpieces⟩ := List.exists_cons_of_ne_nil (Text.pieces_ne_nil '*' pattern)
    rw [List.flatMap_cons, ← ih, Text.pieces, partText, hpieces]
    by_cases hc : c = '*'
    · rw [if_pos hc, if_pos hc]
      rfl
    · rw [if_neg hc, if_neg hc]
      have hescaped : escaped (c :: piece) =
          (if c ∈ operators then ['\\', c] else [c]) ++ escaped piece := rfl
      cases rest with
      | nil => simp only [List.map_cons, List.map_nil, List.intercalate_singleton, hescaped]
      | cons next rest =>
        simp only [List.map_cons, List.intercalate_cons_cons, hescaped, List.append_assoc]

/-- The generated text is the flag and the anchor, the parts of the pattern and the end. -/
theorem wildcardText_eq (pattern : List Char) :
    wildcardText pattern = "(?s)^".toList ++ (pattern.flatMap partText ++ ['$']) := by
  show "(?s)^".toList ++ List.intercalate ".*".toList ((Text.pieces '*' pattern).map escaped) ++
    ['$'] = _
  rw [intercalate_pieces, List.append_assoc]

/-! ## Reading it -/

/-- The reader behind the flag that the text starts with. -/
def Cursor.behindFlag (rest : List Char) : Cursor :=
  ⟨{ dotAll := true }, 0, [], rest⟩

open Cursor (behindFlag)

/-- Behind the flag no space is skipped. -/
theorem space_behindFlag (rest : List Char) :
    Step.space.run (behindFlag rest) = some ((), behindFlag rest) :=
  rfl

/-- Behind the flag the dot stands for every character. -/
theorem flags_behindFlag (rest : List Char) :
    Step.flags.run (behindFlag rest) = some ({ dotAll := true }, behindFlag rest) :=
  rfl

/-- Behind the flag the reader may look at the next character. -/
theorem peek?_behindFlag (c : Char) (rest : List Char) :
    Step.peek?.run (behindFlag (c :: rest)) = some (some c, behindFlag (c :: rest)) :=
  rfl

/-- Behind the flag the reader sees the next character. -/
theorem peek_behindFlag (c : Char) (rest : List Char) :
    Step.peek.run (behindFlag (c :: rest)) = some (c, behindFlag (c :: rest)) :=
  rfl

/-- Behind the flag the reader moves over one character. -/
theorem bump_behindFlag (c : Char) (rest : List Char) :
    Step.bump.run (behindFlag (c :: rest)) = some ((), behindFlag rest) :=
  rfl

/-- A character that is read for itself is its literal. -/
theorem literalRegex_dotAll (c : Char) :
    literalRegex { dotAll := true } c.toNat false = pure (.literal [c]) := by
  have h : literalRegex { dotAll := true } c.toNat false = pure (.literal [Char.ofNat c.toNat]) :=
    rfl
  rw [h, Char.ofNat_toNat]

/-- A character that is no operator stands for itself. -/
theorem primitive_plain {c : Char} (hc : c ∉ operators) (rest : List Char) :
    primitive.run (behindFlag (c :: rest)) =
      some ({ regex := .literal [c], depth := 0 }, behindFlag rest) := by
  have hslash : c ≠ '\\' := by
    rintro rfl
    exact hc (by decide)
  simp only [primitive, StateT.run_bind, flags_behindFlag, peek_behindFlag, bump_behindFlag,
    Option.bind_eq_bind, Option.bind_some, if_neg hslash]
  split
  case h_4 =>
    rw [literalRegex_dotAll]
    rfl
  all_goals exact absurd hc (by decide)

/-- Behind a backslash an operator stands for itself: none is a letter or a digit. -/
theorem escape_operator {c : Char} (hc : c ∈ operators) (rest : List Char) :
    escape.run (behindFlag ('\\' :: c :: rest)) =
      some (.literal c.toNat false, behindFlag rest) := by
  have hall : operators.all (fun c =>
      decide (isEscapable c = true ∧ letterSet? true c.toLower = none ∧
        c ≠ 'x' ∧ c ≠ 'u' ∧ c ≠ 'U' ∧ ¬(c = 'p' ∨ c = 'P'))) = true := by decide
  obtain ⟨hescapable, hset, hx, hu, hU, hp⟩ := of_decide_eq_true (List.all_eq_true.mp hall c hc)
  simp only [escape, StateT.run_bind, flags_behindFlag, peek_behindFlag, bump_behindFlag,
    Option.bind_eq_bind, Option.bind_some, if_neg hx, if_neg hu, if_neg hU, if_neg hp, hset,
    if_pos hescapable]
  rfl

/-- An escaped character is read as itself. -/
theorem primitive_escaped {c : Char} (hc : c ∈ operators) (rest : List Char) :
    primitive.run (behindFlag ('\\' :: c :: rest)) =
      some ({ regex := .literal [c], depth := 0 }, behindFlag rest) := by
  simp only [primitive, StateT.run_bind, flags_behindFlag, peek_behindFlag, Option.bind_eq_bind,
    Option.bind_some, if_pos, escape_operator hc, primitiveRegex, literalRegex_dotAll]
  rfl

/-- The dot behind the flag is read as every character. -/
theorem primitive_dot (rest : List Char) :
    primitive.run (behindFlag ('.' :: rest)) =
      some ({ regex := .chars (Text.Ranges.complement []), depth := 0 }, behindFlag rest) :=
  rfl

/-- In front of a character that does not act on what has been read, a primitive expression is
read. -/
theorem expression_primitive {c : Char} {rest left : List Char} {item : Parsed}
    (hc : c ∉ ")|([?*+\x7b".toList)
    (hread : primitive.run (behindFlag (c :: rest)) = some (item, behindFlag left)) (bound : Nat)
    (items : List Parsed) :
    (expression (bound + 1) items []).run (behindFlag (c :: rest)) =
      (expression bound (item :: items) []).run (behindFlag left) := by
  simp only [expression, StateT.run_bind, space_behindFlag, peek?_behindFlag, Option.bind_eq_bind,
    Option.bind_some]
  split
  case h_10 heq =>
    obtain rfl := Option.some.inj heq
    rw [StateT.run_bind, hread]
    rfl
  case h_1 heq => exact absurd heq nofun
  -- The other characters act on what has been read.
  all_goals next heq =>
    obtain rfl := Option.some.inj heq
    exact absurd hc (by decide)

/-- An asterisk repeats the last item, unless a question mark follows. -/
theorem expression_asterisk {item : Parsed} (hitem : item.repeatable = true) (bound : Nat)
    (items : List Parsed) {rest : List Char} (hrest : rest.head? ≠ some '?') :
    (expression (bound + 1) (item :: items) []).run (behindFlag ('*' :: rest)) =
      (expression bound
        ({ regex := item.regex.repeated 0 none true, depth := item.depth + 1 } :: items) []).run
        (behindFlag rest) := by
  -- No question mark follows, so that the item is repeated greedily.
  have htake : (Step.take? ['?']).run (behindFlag rest) = some (false, behindFlag rest) := by
    cases rest with
    | nil => rfl
    | cons c rest =>
      have hc : ¬(['?'].isPrefixOf (c :: rest)) = true := by
        rw [List.isPrefixOf_iff_prefix, List.cons_prefix_cons]
        rintro ⟨rfl, -⟩
        exact hrest rfl
      simp only [Step.take?, StateT.run_bind, Option.bind_eq_bind]
      show StateT.run (if ['?'].isPrefixOf (c :: rest) = true then _ else _) _ = _
      rw [if_neg hc]
      rfl
  have hrepeated : (repeated (item :: items) 0 none).run (behindFlag rest) =
      some ({ regex := item.regex.repeated 0 none true, depth := item.depth + 1 } :: items,
        behindFlag rest) := by
    simp only [repeated, StateT.run_bind, htake, flags_behindFlag, Option.bind_eq_bind,
      Option.bind_some, hitem]
    rfl
  simp only [expression, StateT.run_bind, space_behindFlag, peek?_behindFlag, bump_behindFlag,
    hrepeated, Option.bind_eq_bind, Option.bind_some]

/-! ## Its parts -/

/-- What the reader makes of a character of a pattern. -/
def partItem (c : Char) : Parsed :=
  { regex := wildcardPart c, depth := if c = '*' then 1 else 0 }

/-- No part of the text starts with a question mark, and neither does what is behind them. -/
theorem head?_parts_ne (pattern : List Char) :
    (pattern.flatMap partText ++ ['$']).head? ≠ some '?' := by
  cases pattern with
  | nil => decide
  | cons c pattern =>
    rw [List.flatMap_cons, partText]
    split_ifs with hstar hop
    · exact fun h => absurd (Option.some.inj h) (by decide)
    · exact fun h => absurd (Option.some.inj h) (by decide)
    · intro h
      obtain rfl : c = '?' := Option.some.inj h
      exact hop (by decide)

/-- The reader takes the part of a character as one item, in at most as many steps as it is long. -/
theorem exists_expression_part (c : Char) :
    ∃ steps ≤ (partText c).length, ∀ (bound : Nat) (items : List Parsed) (rest : List Char),
      rest.head? ≠ some '?' →
        (expression (bound + steps) items []).run (behindFlag (partText c ++ rest)) =
          (expression bound (partItem c :: items) []).run (behindFlag rest) := by
  by_cases hstar : c = '*'
  · subst hstar
    refine ⟨2, Nat.le_refl 2, fun bound items rest hrest => ?_⟩
    have htext : partText '*' ++ rest = '.' :: '*' :: rest := rfl
    rw [htext, expression_primitive (by decide) (primitive_dot _),
      expression_asterisk (by rfl) _ _ hrest]
    rfl
  · have hitem : partItem c = { regex := .literal [c], depth := 0 } := by
      rw [partItem, wildcardPart, if_neg hstar, if_neg hstar]
    -- Operators are escaped, and the other characters are written as they are.
    by_cases hop : c ∈ operators
    · have htext : partText c = ['\\', c] := by rw [partText, if_neg hstar, if_pos hop]
      refine ⟨1, htext ▸ Nat.succ_le_succ (Nat.zero_le _), fun bound items rest _ => ?_⟩
      rw [hitem, htext]
      exact expression_primitive (by decide) (primitive_escaped hop rest) bound items
    · have htext : partText c = [c] := by rw [partText, if_neg hstar, if_neg hop]
      refine ⟨1, htext ▸ Nat.succ_le_succ (Nat.zero_le _), fun bound items rest _ => ?_⟩
      have hall : ")|([?*+\x7b".toList.all (fun d => operators.contains d) = true := by decide
      have hacts : c ∉ ")|([?*+\x7b".toList := fun h =>
        hop (List.contains_iff_mem.mp (List.all_eq_true.mp hall c h))
      rw [hitem, htext]
      exact expression_primitive hacts (primitive_plain hop rest) bound items

/-- The reader takes the parts of a pattern one after the other, and the dollar sign behind them. -/
theorem expression_parts (pattern : List Char) {bound : Nat} (items : List Parsed)
    (hbound : (pattern.flatMap partText).length + 2 ≤ bound) :
    (expression bound items []).run (behindFlag (pattern.flatMap partText ++ ['$'])) =
      some (sequence ({ regex := .look .textEnd, depth := 0 } ::
        ((pattern.map partItem).reverse ++ items)), behindFlag []) := by
  induction pattern generalizing bound items with
  | nil =>
    obtain ⟨left, rfl⟩ : ∃ left, bound = left + 2 := ⟨bound - 2, (Nat.sub_add_cancel hbound).symm⟩
    rfl
  | cons c pattern ih =>
    obtain ⟨steps, hsteps, hpart⟩ := exists_expression_part c
    rw [List.flatMap_cons, List.length_append] at hbound
    -- A part takes no more steps than it has characters, so the bound suffices for the rest.
    obtain ⟨left, rfl⟩ : ∃ left, bound = left + steps := ⟨bound - steps, by omega⟩
    rw [List.flatMap_cons, List.append_assoc, hpart _ _ _ (head?_parts_ne pattern),
      ih _ (by omega)]
    simp only [List.map_cons, List.reverse_cons, List.append_assoc, List.cons_append,
      List.nil_append]

/-- What the flag and the caret in front of the parts are read as, last one first. -/
def frontItems : List Parsed :=
  [{ regex := .look .textStart, depth := 0 }, { regex := .empty, depth := 0, repeatable := false }]

/-- The flag and the anchor are read first, in two steps. -/
theorem expression_front (bound : Nat) (rest : List Char) :
    (expression (bound + 2) [] []).run ⟨{}, 0, [], "(?s)^".toList ++ rest⟩ =
      (expression bound frontItems []).run (behindFlag rest) :=
  rfl

/-- A running maximum stays below a common bound. -/
theorem foldl_max_le {ns : List Nat} {start most : Nat} (hstart : start ≤ most)
    (h : ∀ n ∈ ns, n ≤ most) : ns.foldl max start ≤ most := by
  induction ns generalizing start with
  | nil => exact hstart
  | cons n ns ih =>
    obtain ⟨hn, hns⟩ := List.forall_mem_cons.mp h
    exact ih (Nat.max_le.mpr ⟨hstart, hn⟩) hns

/-- The items of the written expression of a pattern are a sequence of depth two at most, which is
the expression that the pattern stands for. -/
theorem sequence_items (pattern : List Char) :
    (sequence ({ regex := .look .textEnd, depth := 0 } ::
      ((pattern.map partItem).reverse ++ frontItems))).regex = wildcardRegex pattern ∧
    (sequence ({ regex := .look .textEnd, depth := 0 } ::
      ((pattern.map partItem).reverse ++ frontItems))).depth ≤ 2 := by
  obtain ⟨item, items, hitems⟩ : ∃ item items,
      (pattern.map partItem).reverse ++ frontItems = item :: items :=
    List.exists_cons_of_ne_nil (List.append_ne_nil_of_right_ne_nil _ (List.cons_ne_nil _ _))
  rw [hitems, sequence]
  · rw [← hitems]
    constructor
    · have hparts : ∀ c, (partItem c).regex = wildcardPart c := fun _ => rfl
      simp only [List.reverse_cons, List.reverse_append, List.reverse_reverse, frontItems,
        List.reverse_nil, List.nil_append, List.cons_append, List.map_cons, List.map_append,
        List.map_map, Function.comp_def, List.map_nil, hparts]
      rfl
    · -- Each item is flat or one repetition, and the sequence is one deeper than its deepest item.
      have hpart : ∀ c, (partItem c).depth ≤ 1 := by
        intro c
        rw [partItem]
        split_ifs
        · exact Nat.le_refl 1
        · exact Nat.zero_le 1
      have hall : ∀ n ∈ ((({ regex := .look .textEnd, depth := 0 } : Parsed) ::
          ((pattern.map partItem).reverse ++ frontItems)).map (·.depth)), n ≤ 1 := by
        simp only [frontItems, List.map_cons, List.map_append, List.map_reverse, List.map_map,
          List.map_nil, List.mem_cons, List.mem_append, List.mem_reverse, List.mem_map,
          List.not_mem_nil, or_false, Function.comp_apply]
        rintro n (rfl | ⟨c, -, rfl⟩ | rfl | rfl)
        · exact Nat.zero_le 1
        · exact hpart c
        · exact Nat.zero_le 1
        · exact Nat.zero_le 1
      exact Nat.succ_le_succ (foldl_max_le (Nat.zero_le 1) hall)
  · exact nofun

/-- The reader makes of the written expression of a pattern the expression that the pattern stands
for. -/
theorem ofChars?_wildcardText (pattern : List Char) :
    Regex.ofChars? {} (wildcardText pattern) = some (wildcardRegex pattern) := by
  obtain ⟨hregex, hdepth⟩ := sequence_items pattern
  have hlength : (wildcardText pattern).length + 1 = (pattern.flatMap partText).length + 5 + 2 := by
    rw [wildcardText_eq, List.length_append, List.length_append]
    show 5 + (_ + 1) + 1 = _
    omega
  have hread := (expression_front _ _).trans
    (expression_parts pattern frontItems (Nat.add_le_add_left (by decide : 2 ≤ 5) _))
  rw [← hlength, ← wildcardText_eq] at hread
  have hlimit : 2 ≤ nestLimit := by decide
  rw [Regex.ofChars?, hread]
  exact (if_pos ⟨rfl, hdepth.trans hlimit⟩).trans (congrArg some hregex)

/-! ## The matcher -/

/-- The matcher of a wildcard pattern is the search for its written expression. It accepts the
subjects that the pattern covers, and no pattern of up to ten thousand characters is without one. -/
theorem wildcard?_covers (pattern : String) :
    wildcard? pattern =
        ((Regex.ofChars? {} (wildcardText pattern.toList)).filter Regex.fits).map
          (fun r subject => r.search subject.toList) ∧
      (∀ test, wildcard? pattern = some test →
        ∀ subject : String, test subject = true ↔ Covers pattern.toList subject.toList) ∧
      (pattern.toList.length ≤ 10000 → (wildcard? pattern).isSome = true) := by
  rw [ofChars?_wildcardText, wildcard?]
  refine ⟨?_, fun test htest subject => ?_, fun hlength => ?_⟩
  · -- The matcher is the search of the expression, if there is room for that.
    simp only [glob_eq_search]
    split_ifs with hfits
    · rw [Option.filter_some_pos hfits]
      rfl
    · rw [Option.filter_some_neg (Bool.eq_false_iff.mpr hfits)]
      rfl
  · rw [Option.ite_none_right_eq_some] at htest
    obtain ⟨-, htest⟩ := htest
    obtain rfl := Option.some.inj htest
    exact glob_iff_covers
  · rw [if_pos (fits_wildcardRegex hlength)]
    rfl

/-- A pattern with a dot and a bracket matches them as they are, a new line through its star, and
nothing in another case. -/
theorem wildcard?_covers_dots : ∃ test, wildcard? "a.*]" = some test ∧
    test "a.\n*]]" = true ∧ test "ab]" = false ∧ test "A.]" = false := by
  obtain ⟨-, htest, hsome⟩ := wildcard?_covers "a.*]"
  obtain ⟨test, h⟩ := Option.isSome_iff_exists.mp (hsome (by decide))
  have hfalse : ∀ subject : String,
      glob "a.*]".toList subject.toList = false → test subject = false :=
    fun subject hglob => by
      rw [Bool.eq_false_iff, ne_eq, htest test h, ← glob_iff_covers, hglob]
      exact Bool.false_ne_true
  exact ⟨test, h, (htest test h _).mpr (glob_iff_covers.mp (by decide)), hfalse _ (by decide),
    hfalse _ (by decide)⟩

end AccessPolicy.Pattern
