import AccessPolicy.Proofs.Json.Scalar
import AccessPolicy.Proofs.Text.Cut

/-!
# JSON values read back

The compact text of a value is read as that value (`parse?_text`). A value has to be of the shape in
which the reader gives values (`Shaped`): fields in the order of their names, integers that fit a
word, and no more than `maxDepth` arrays and objects within one another; and its floating-point
numbers have to be read back themselves. The induction is on the value, with any text behind it at
which a number ends, and with a bound on the steps of at least twice the length of the text. All
values that are read have that shape (`shaped_of_parse?`).
-/

namespace AccessPolicy

/-! ## Entries in order -/

namespace Entries

variable {α : Type}

/-- An entry with the greatest name comes last. -/
theorem insert_of_forall_lt {es : Entries α} {k : String} (h : ∀ e ∈ es, e.1 < k) (v : α) :
    insert es k v = es ++ [(k, v)] := by
  induction es with
  | nil => rfl
  | cons e es ih =>
    have hlt : e.1 < k := h e List.mem_cons_self
    have hnot : ¬k < e.1 := fun hgt => String.lt_irrefl k (String.lt_trans hgt hlt)
    have hne : e.1 ≠ k := fun heq => String.lt_irrefl k (heq ▸ hlt)
    rw [insert, if_neg hnot, if_neg hne, ih fun e' he' => h e' (List.mem_cons_of_mem e he')]
    rfl

/-- Entries that are in order stay as they are. -/
theorem ofPairs_of_sorted {es : Entries α} (h : Sorted es) : ofPairs es = es := by
  -- The entries taken in so far are all in front of those that follow.
  have hfold : ∀ (rest front : Entries α), Sorted (front ++ rest) →
      rest.foldl (fun es e => insert es e.1 e.2) front = front ++ rest := by
    intro rest
    induction rest with
    | nil => exact fun front _ => (List.append_nil front).symm
    | cons e rest ih =>
      intro front hsorted
      have hlt : ∀ e' ∈ front, e'.1 < e.1 := fun e' he' =>
        (List.pairwise_append.mp hsorted).2.2 e' he' e List.mem_cons_self
      rw [List.foldl_cons, insert_of_forall_lt hlt, ih]
      · rw [List.append_assoc, List.singleton_append]
      · rwa [List.append_assoc, List.singleton_append]
  exact hfold es [] h

end Entries

namespace Json

/-! ## The shape of values -/

mutual

/-- Whether a value has the shape of one that was read at some depth, and its floating-point numbers
a property. -/
def Shaped (P : Float → Prop) (depth : Nat) : Json → Prop
  | .int i => FitsWord i
  | .float x => P x
  | .arr items => 0 < depth ∧ ShapedItems P (depth - 1) items
  | .obj fields => 0 < depth ∧ Entries.Sorted fields ∧ ShapedFields P (depth - 1) fields
  | _ => True

/-- The same for the elements of an array. -/
def ShapedItems (P : Float → Prop) (depth : Nat) : List Json → Prop
  | [] => True
  | v :: vs => v.Shaped P depth ∧ ShapedItems P depth vs

/-- The same for the fields of an object. -/
def ShapedFields (P : Float → Prop) (depth : Nat) : List (String × Json) → Prop
  | [] => True
  | (_, v) :: fs => v.Shaped P depth ∧ ShapedFields P depth fs

end

/-- The elements of an array have the shape if each of them does. -/
theorem shapedItems_iff {P : Float → Prop} {depth : Nat} {items : List Json} :
    ShapedItems P depth items ↔ ∀ v ∈ items, v.Shaped P depth := by
  induction items with
  | nil => exact ⟨fun _ _ hv => absurd hv List.not_mem_nil, fun _ => trivial⟩
  | cons v vs ih => rw [ShapedItems, ih, List.forall_mem_cons]

/-- The fields of an object have the shape if the value of each of them does. -/
theorem shapedFields_iff {P : Float → Prop} {depth : Nat} {fields : List (String × Json)} :
    ShapedFields P depth fields ↔ ∀ f ∈ fields, f.2.Shaped P depth := by
  induction fields with
  | nil => exact ⟨fun _ _ hv => absurd hv List.not_mem_nil, fun _ => trivial⟩
  | cons f fs ih =>
    obtain ⟨k, v⟩ := f
    rw [ShapedFields, ih, List.forall_mem_cons]

/-! ## Texts -/

/-- Texts with commas in between. -/
theorem toList_intercalate (texts : List String) :
    (String.intercalate "," texts).toList = Text.join ',' (texts.map String.toList) := by
  induction texts with
  | nil => rfl
  | cons t texts ih =>
    cases texts with
    | nil => rfl
    | cons u texts =>
      rw [String.intercalate_cons_cons, String.toList_append, String.toList_append, ih,
        List.append_assoc]
      rfl

/-- The characters of the text of a value. -/
def chars (v : Json) : List Char :=
  v.text.toList

/-- The characters of the text of a field. -/
def fieldChars (f : String × Json) : List Char :=
  (stringText f.1).toList ++ ':' :: f.2.chars

/-- The text of an array. -/
theorem chars_arr (items : List Json) :
    chars (.arr items) = '[' :: (Text.join ',' (items.map chars) ++ [']']) := by
  have htexts : (itemTexts items).map String.toList = items.map chars := by
    induction items with
    | nil => rfl
    | cons v vs ih => rw [itemTexts, List.map_cons, List.map_cons, ih, chars]
  rw [chars, text, String.toList_append, String.toList_append, toList_intercalate, htexts]
  rfl

/-- The text of an object. -/
theorem chars_obj (fields : List (String × Json)) :
    chars (.obj fields) = '\x7b' :: (Text.join ',' (fields.map fieldChars) ++ ['\x7d']) := by
  have htexts : (fieldTexts fields).map String.toList = fields.map fieldChars := by
    induction fields with
    | nil => rfl
    | cons f fs ih =>
      rw [fieldTexts, List.map_cons, List.map_cons, ih, String.toList_append, String.toList_append,
        List.append_assoc]
      rfl
  rw [chars, text, String.toList_append, String.toList_append, toList_intercalate, htexts]
  rfl

/-! ## Steps of the reader -/

/-- Whether the text of a floating-point number is read as that number. -/
def FloatReadsBack (x : Float) : Prop :=
  numberValue (floatText x).toList = some (.float x, [])

/-- Whether a floating-point number was read and nothing is left. -/
def isFloat (x : Float) : Option (Json × List Char) → Bool
  | some (.float y, []) => y = x
  | _ => false

/-- What was read is that number if the test says so. -/
theorem isFloat_iff {x : Float} {result : Option (Json × List Char)} :
    isFloat x result = true ↔ result = some (.float x, []) := by
  unfold isFloat
  split
  · next y => simp
  · next hne => exact iff_of_false Bool.false_ne_true (hne x)

instance (x : Float) : Decidable (FloatReadsBack x) :=
  decidable_of_iff (isFloat x (numberValue (floatText x).toList) = true) isFloat_iff

-- The quick reader misses some of the numbers that the shortest decimals stand for.
example : FloatReadsBack 0.1 ∧ ¬FloatReadsBack 1.2345e-300 := by decide +kernel

/-- The first character of a number. -/
def StartsNumber (c : Char) : Prop :=
  c.isDigit ∨ c = '-'

instance (c : Char) : Decidable (StartsNumber c) :=
  inferInstanceAs (Decidable (_ ∨ _))

/-- What is read as a number starts with a digit or a minus sign. -/
theorem startsNumber_of_numberValue {cs rest : List Char} {v : Json}
    (h : numberValue cs = some (v, rest)) : ∃ c tail, cs = c :: tail ∧ StartsNumber c := by
  obtain ⟨whole, behind, -, -, -, -, -, hwhole, -⟩ := numberValue_eq_some_iff.mp h
  cases cs with
  | nil => cases hwhole
  | cons c cs =>
    refine ⟨c, cs, rfl, ?_⟩
    -- What is no minus sign is the first digit of the whole part, which has one.
    by_cases hminus : c = '-'
    · exact .inr hminus
    · refine .inl ?_
      rw [splitMinus] at hwhole
      · refine Decidable.byContradiction fun hdigit => ?_
        rw [wholeDigits?, List.takeWhile_cons_of_neg hdigit] at hwhole
        cases hwhole
      · exact fun _ heq => hminus (List.cons.inj heq).1

/-- A text that starts like a number is read as one. -/
theorem value_of_startsNumber {c : Char} (h : StartsNumber c) (bound depth : Nat) (cs : List Char) :
    value (bound + 1) depth (c :: cs) = numberValue (c :: cs) := by
  have hne : ∀ d, ¬StartsNumber d → c ≠ d := fun d hd heq => hd (heq ▸ h)
  rw [value]
  all_goals
    intros
    rename_i heq
    exact hne _ (by decide) (List.cons.inj heq).1

/-- The end of a text ends a number. -/
theorem endsNumber_nil : EndsNumber [] :=
  fun _ hc => nomatch hc

/-- What follows the text of an element or a field ends a number. -/
theorem endsNumber_cons {c : Char} (h : c = ',' ∨ c = ']' ∨ c = '\x7d') (rest : List Char) :
    EndsNumber (c :: rest) := by
  intro d hd
  obtain rfl := Option.some_inj.mp hd
  rcases h with rfl | rfl | rfl <;> decide

/-- A number that is read as a whole is read as a value in front of what ends it. -/
theorem value_of_numberValue {cs : List Char} {v : Json} (h : numberValue cs = some (v, []))
    (bound depth : Nat) {rest : List Char} (hrest : EndsNumber rest) :
    value (bound + 1) depth (cs ++ rest) = some (v, rest) := by
  obtain ⟨c, tail, rfl, hc⟩ := startsNumber_of_numberValue h
  rw [List.cons_append, value_of_startsNumber hc, ← List.cons_append, numberValue_append hrest h]

/-- Whether a text starts neither with a blank nor with the end of an array or an object. -/
def StartsValue (cs : List Char) : Prop :=
  ∃ c tail, cs = c :: tail ∧ isSpace c = false ∧ c ≠ ']' ∧ c ≠ '\x7d'

/-- No blanks are taken off in front of such a text. -/
theorem StartsValue.skipSpace {cs : List Char} (h : StartsValue cs) (rest : List Char) :
    Json.skipSpace (cs ++ rest) = cs ++ rest := by
  obtain ⟨c, tail, rfl, hc, -⟩ := h
  rw [List.cons_append, Json.skipSpace, List.dropWhile_cons_of_neg]
  rw [hc]
  exact Bool.false_ne_true

/-- A joined text starts as its first part does. -/
theorem StartsValue.join {α : Type} {f : α → List Char} {a : α} (h : StartsValue (f a))
    (as : List α) : StartsValue (Text.join ',' ((a :: as).map f)) := by
  obtain ⟨c, tail, ha, hc⟩ := h
  rw [List.map_cons, ha, Text.join_cons_cons]
  exact ⟨c, _, rfl, hc⟩

/-- A number starts like a value. -/
theorem startsValue_of_numberValue {cs rest : List Char} {v : Json}
    (h : numberValue cs = some (v, rest)) : StartsValue cs := by
  obtain ⟨c, tail, rfl, hc⟩ := startsNumber_of_numberValue h
  have hne : ∀ d, ¬StartsNumber d → c ≠ d := fun d hd heq => hd (heq ▸ hc)
  refine ⟨c, tail, rfl, ?_, hne _ (by decide), hne _ (by decide)⟩
  rw [isSpace, decide_eq_false (hne ' ' (by decide)), decide_eq_false (hne '\t' (by decide)),
    decide_eq_false (hne '\n' (by decide)), decide_eq_false (hne '\r' (by decide))]
  rfl

/-- The text of a value starts like a value. -/
theorem startsValue_chars {v : Json} {depth : Nat} (h : v.Shaped FloatReadsBack depth) :
    StartsValue v.chars := by
  have hfirst : ∀ c cs, isSpace c = false ∧ c ≠ ']' ∧ c ≠ '\x7d' → StartsValue (c :: cs) :=
    fun c cs hc => ⟨c, cs, rfl, hc⟩
  cases v with
  | null => exact hfirst 'n' ['u', 'l', 'l'] (by decide)
  | bool b =>
    cases b with
    | false => exact hfirst 'f' ['a', 'l', 's', 'e'] (by decide)
    | true => exact hfirst 't' ['r', 'u', 'e'] (by decide)
  | int i =>
    rw [chars, text, Decimal.intText, String.toList_ofList]
    exact startsValue_of_numberValue (numberValue_intChars h)
  | float x =>
    rw [chars, text]
    exact startsValue_of_numberValue h
  | str s =>
    rw [chars, text, stringText_toList]
    exact hfirst _ _ (by decide)
  | arr items =>
    rw [chars_arr]
    exact hfirst _ _ (by decide)
  | obj fields =>
    rw [chars_obj]
    exact hfirst _ _ (by decide)

/-- The text of a field starts like a value. -/
theorem startsValue_fieldChars (f : String × Json) : StartsValue (fieldChars f) := by
  rw [fieldChars, stringText_toList]
  exact ⟨_, _, rfl, by decide⟩

/-- An element in front of a closing bracket is the last one. -/
theorem items_last {bound depth : Nat} {v : Json} {cs rest : List Char}
    (hv : value bound depth (cs ++ ']' :: rest) = some (v, ']' :: rest)) (seen : List Json) :
    items (bound + 1) depth seen (cs ++ ']' :: rest) = some ((v :: seen).reverse, rest) := by
  have hend : skipSpace (']' :: rest) = ']' :: rest := rfl
  rw [items, hv]
  simp only [hend]

/-- An element in front of a comma is not the last one. -/
theorem items_comma {bound depth : Nat} {v : Json} {cs rest : List Char}
    (hv : value bound depth (cs ++ ',' :: rest) = some (v, ',' :: rest)) (seen : List Json) :
    items (bound + 1) depth seen (cs ++ ',' :: rest) =
      items bound depth (v :: seen) (skipSpace rest) := by
  have hcomma : skipSpace (',' :: rest) = ',' :: rest := rfl
  rw [items, hv]
  simp only [hcomma]

/-- The text of a field: its name between quotes, a colon, and its value. -/
theorem fieldChars_append (k : String) (v : Json) (rest : List Char) :
    fieldChars (k, v) ++ rest =
      '"' :: (k.toList.flatMap escapedChar ++ '"' :: ':' :: (v.chars ++ rest)) := by
  rw [fieldChars, stringText_toList]
  simp only [List.cons_append, List.append_assoc, List.nil_append]

/-- A field in front of a closing brace is the last one. -/
theorem fields_last {bound depth : Nat} {k : String} {v : Json} {rest : List Char}
    (hstart : StartsValue v.chars)
    (hv : value bound depth (v.chars ++ '\x7d' :: rest) = some (v, '\x7d' :: rest))
    (seen : List (String × Json)) :
    fields (bound + 1) depth seen (fieldChars (k, v) ++ '\x7d' :: rest) =
      some (((k, v) :: seen).reverse, rest) := by
  have hcolon : ∀ cs, skipSpace (':' :: cs) = ':' :: cs := fun cs => rfl
  have hend : skipSpace ('\x7d' :: rest) = '\x7d' :: rest := rfl
  rw [fieldChars_append, fields, stringChars_flatMap]
  simp only [hcolon, hstart.skipSpace, hv, hend, List.reverse_nil, List.nil_append,
    String.ofList_toList]

/-- A field in front of a comma is not the last one. -/
theorem fields_comma {bound depth : Nat} {k : String} {v : Json} {rest : List Char}
    (hstart : StartsValue v.chars)
    (hv : value bound depth (v.chars ++ ',' :: rest) = some (v, ',' :: rest))
    (seen : List (String × Json)) :
    fields (bound + 1) depth seen (fieldChars (k, v) ++ ',' :: rest) =
      fields bound depth ((k, v) :: seen) (skipSpace rest) := by
  have hcolon : ∀ cs, skipSpace (':' :: cs) = ':' :: cs := fun cs => rfl
  have hcomma : skipSpace (',' :: rest) = ',' :: rest := rfl
  rw [fieldChars_append, fields, stringChars_flatMap]
  simp only [hcolon, hstart.skipSpace, hv, hcomma, List.reverse_nil, List.nil_append,
    String.ofList_toList]

/-! ## Values -/

/-- Whether the text of a value is read as that value in front of what ends a number, in as many
steps as twice the length of the text. -/
def ReadsBack (v : Json) : Prop :=
  ∀ {depth : Nat}, v.Shaped FloatReadsBack depth → ∀ (bound : Nat), 2 * v.chars.length ≤ bound + 1 →
    ∀ {rest : List Char}, EndsNumber rest → value bound depth (v.chars ++ rest) = some (v, rest)

/-- The texts of elements, up to the closing bracket, are read as these elements. -/
theorem items_chars {v : Json} {vs : List Json} (hread : ∀ w ∈ v :: vs, w.ReadsBack) {depth : Nat}
    (h : ShapedItems FloatReadsBack depth (v :: vs)) (bound : Nat)
    (hbound : 2 * (Text.join ',' ((v :: vs).map chars)).length + 2 ≤ bound) (seen : List Json)
    (rest : List Char) :
    items bound depth seen (Text.join ',' ((v :: vs).map chars) ++ ']' :: rest) =
      some (seen.reverse ++ v :: vs, rest) := by
  induction vs generalizing v bound seen with
  | nil =>
    -- An element takes one step of the bound, which allows two for each character.
    obtain ⟨bound, rfl⟩ : ∃ b, bound = b + 1 := ⟨bound - 1, by omega⟩
    rw [List.map_cons, List.map_nil, Text.join] at hbound ⊢
    have hv := hread v List.mem_cons_self h.1 bound (by omega)
      (endsNumber_cons (.inr (.inl rfl)) rest)
    rw [items_last hv, List.reverse_cons]
  | cons w vs ih =>
    obtain ⟨bound, rfl⟩ : ∃ b, bound = b + 1 := ⟨bound - 1, by omega⟩
    have hjoin : Text.join ',' ((v :: w :: vs).map chars) =
        v.chars ++ ',' :: Text.join ',' ((w :: vs).map chars) := by
      rw [List.map_cons, List.map_cons, Text.join]
    rw [hjoin, List.length_append, List.length_cons] at hbound
    -- The comma behind the element ends a number that may stand there.
    have hv := hread v List.mem_cons_self h.1 bound (by omega)
      (endsNumber_cons (.inl rfl) (Text.join ',' ((w :: vs).map chars) ++ ']' :: rest))
    have hvs := ih (fun x hx => hread x (List.mem_cons_of_mem v hx)) h.2 bound (by omega)
      (v :: seen)
    rw [hjoin, List.append_assoc, List.cons_append, items_comma hv,
      ((startsValue_chars h.2.1).join vs).skipSpace, hvs, List.reverse_cons, List.append_assoc,
      List.singleton_append]

/-- The texts of fields, up to the closing brace, are read as these fields. -/
theorem fields_chars {f : String × Json} {fs : List (String × Json)}
    (hread : ∀ g ∈ f :: fs, g.2.ReadsBack) {depth : Nat}
    (h : ∀ g ∈ f :: fs, g.2.Shaped FloatReadsBack depth) (bound : Nat)
    (hbound : 2 * (Text.join ',' ((f :: fs).map fieldChars)).length + 2 ≤ bound)
    (seen : List (String × Json)) (rest : List Char) :
    fields bound depth seen (Text.join ',' ((f :: fs).map fieldChars) ++ '\x7d' :: rest) =
      some (seen.reverse ++ f :: fs, rest) := by
  -- The name of a field takes characters too, so that the bound leaves more than enough for its
  -- value.
  have hlength : f.2.chars.length ≤ (fieldChars f).length := by
    rw [fieldChars, List.length_append, List.length_cons]
    omega
  have hf := h f List.mem_cons_self
  induction fs generalizing f bound seen with
  | nil =>
    obtain ⟨bound, rfl⟩ : ∃ b, bound = b + 1 := ⟨bound - 1, by omega⟩
    rw [List.map_cons, List.map_nil, Text.join] at hbound ⊢
    have hv := hread f List.mem_cons_self hf bound (by omega)
      (endsNumber_cons (.inr (.inr rfl)) rest)
    rw [fields_last (startsValue_chars hf) hv, List.reverse_cons]
  | cons g fs ih =>
    obtain ⟨bound, rfl⟩ : ∃ b, bound = b + 1 := ⟨bound - 1, by omega⟩
    have hjoin : Text.join ',' ((f :: g :: fs).map fieldChars) =
        fieldChars f ++ ',' :: Text.join ',' ((g :: fs).map fieldChars) := by
      rw [List.map_cons, List.map_cons, Text.join]
    rw [hjoin, List.length_append, List.length_cons] at hbound
    -- The comma behind the value ends a number that may stand there.
    have hv := hread f List.mem_cons_self hf bound (by omega)
      (endsNumber_cons (.inl rfl) (Text.join ',' ((g :: fs).map fieldChars) ++ '\x7d' :: rest))
    have hfs := ih (fun x hx => hread x (List.mem_cons_of_mem f hx))
      (fun x hx => h x (List.mem_cons_of_mem f hx)) bound (by omega) (f :: seen)
      (by rw [fieldChars, List.length_append, List.length_cons]; omega)
      (h g (List.mem_cons_of_mem f List.mem_cons_self))
    rw [hjoin, List.append_assoc, List.cons_append, fields_comma (startsValue_chars hf) hv,
      ((startsValue_fieldChars g).join fs).skipSpace, hfs, List.reverse_cons, List.append_assoc,
      List.singleton_append]

/-- The text of an array is read as that array if the texts of its elements are read. -/
theorem readsBack_arr {items : List Json} (hread : ∀ v ∈ items, v.ReadsBack) :
    ReadsBack (.arr items) := by
  intro depth h bound hbound rest hrest
  obtain ⟨hdepth, hitems⟩ := h
  obtain ⟨depth, rfl⟩ : ∃ d, depth = d + 1 := ⟨depth - 1, by omega⟩
  rw [chars_arr, List.length_cons, List.length_append, List.length_singleton] at hbound
  obtain ⟨bound, rfl⟩ : ∃ b, bound = b + 1 := ⟨bound - 1, by omega⟩
  cases items with
  | nil =>
    show value (bound + 1) (depth + 1) ('[' :: ']' :: rest) = _
    rw [value]
    rfl
  | cons v vs =>
    have hstart := (startsValue_chars hitems.1).join vs
    have hlist := items_chars hread hitems bound (by omega) [] rest
    rw [chars_arr, List.cons_append, List.append_assoc, List.singleton_append, value,
      hstart.skipSpace]
    -- The first character is that of an element and not the bracket that would close the array.
    split
    · next heq =>
      obtain ⟨c, tail, hchars, -, hne, -⟩ := hstart
      rw [hchars] at heq
      exact absurd (List.cons.inj heq).1 hne
    · rw [Nat.add_sub_cancel] at hlist
      rw [hlist, Option.map_some, List.reverse_nil, List.nil_append]

/-- The text of an object is read as that object if the texts of its fields are read. -/
theorem readsBack_obj {fs : List (String × Json)} (hread : ∀ f ∈ fs, f.2.ReadsBack) :
    ReadsBack (.obj fs) := by
  intro depth h bound hbound rest hrest
  obtain ⟨hdepth, hsorted, hfields⟩ := h
  obtain ⟨depth, rfl⟩ : ∃ d, depth = d + 1 := ⟨depth - 1, by omega⟩
  rw [chars_obj, List.length_cons, List.length_append, List.length_singleton] at hbound
  obtain ⟨bound, rfl⟩ : ∃ b, bound = b + 1 := ⟨bound - 1, by omega⟩
  cases fs with
  | nil =>
    show value (bound + 1) (depth + 1) ('\x7b' :: '\x7d' :: rest) = _
    rw [value]
    rfl
  | cons f fs =>
    have hstart := (startsValue_fieldChars f).join fs
    have hlist := fields_chars hread (shapedFields_iff.mp hfields) bound (by omega) [] rest
    rw [chars_obj, List.cons_append, List.append_assoc, List.singleton_append, value,
      hstart.skipSpace]
    -- The first character is the quotation mark of a name and not the brace that would close the
    -- object.
    split
    · next heq =>
      obtain ⟨c, tail, hchars, -, -, hne⟩ := hstart
      rw [hchars] at heq
      exact absurd (List.cons.inj heq).1 hne
    · rw [Nat.add_sub_cancel] at hlist
      rw [hlist, Option.map_some, ofPairs, List.reverse_nil, List.nil_append,
        Entries.ofPairs_of_sorted hsorted]

/-- The text of a scalar is read as that scalar. -/
theorem readsBack_of_step {v : Json} (h : ∀ {depth : Nat}, v.Shaped FloatReadsBack depth →
    ∀ (bound : Nat) {rest : List Char}, EndsNumber rest →
      value (bound + 1) depth (v.chars ++ rest) = some (v, rest)) : v.ReadsBack := by
  intro depth hshaped bound hbound rest hrest
  obtain ⟨c, cs, hchars, -⟩ := startsValue_chars hshaped
  rw [hchars, List.length_cons] at hbound
  obtain ⟨bound, rfl⟩ : ∃ b, bound = b + 1 := ⟨bound - 1, by omega⟩
  exact h hshaped bound hrest

/-- The text of every value is read as that value in front of what ends a number. -/
theorem readsBack (v : Json) : v.ReadsBack := by
  induction hn : sizeOf v using Nat.strongRecOn generalizing v with
  | ind n ih =>
    cases v with
    | null =>
      refine readsBack_of_step fun {depth} _ bound {rest} _ => ?_
      show value (bound + 1) depth ('n' :: 'u' :: 'l' :: 'l' :: rest) = _
      rw [value]
    | bool b =>
      refine readsBack_of_step fun {depth} _ bound {rest} _ => ?_
      cases b with
      | false =>
        show value (bound + 1) depth ('f' :: 'a' :: 'l' :: 's' :: 'e' :: rest) = _
        rw [value]
      | true =>
        show value (bound + 1) depth ('t' :: 'r' :: 'u' :: 'e' :: rest) = _
        rw [value]
    | int i =>
      refine readsBack_of_step fun {depth} h bound {rest} hrest => ?_
      rw [chars, text, Decimal.intText, String.toList_ofList]
      exact value_of_numberValue (numberValue_intChars h) bound depth hrest
    | float x =>
      refine readsBack_of_step fun {depth} h bound {rest} hrest => ?_
      rw [chars, text]
      exact value_of_numberValue h bound depth hrest
    | str s =>
      refine readsBack_of_step fun {depth} _ bound {rest} _ => ?_
      rw [chars, text, stringText_toList, List.cons_append, value, List.append_assoc,
        List.singleton_append, stringChars_flatMap]
      simp only [Option.map_some, List.reverse_nil, List.nil_append, String.ofList_toList]
    | arr items =>
      -- The elements are smaller than the array, and are read back as it is.
      refine readsBack_arr fun w hw => ih (sizeOf w) ?_ w rfl
      have := List.sizeOf_lt_of_mem hw
      rw [← hn, Json.arr.sizeOf_spec]
      omega
    | obj fs =>
      refine readsBack_obj fun ⟨k, w⟩ hf => ih (sizeOf w) ?_ w rfl
      have := List.sizeOf_lt_of_mem hf
      rw [Prod.mk.sizeOf_spec] at this
      rw [← hn, Json.obj.sizeOf_spec]
      omega

/-- The text of a value is read as that value. -/
theorem parse?_text {v : Json} (h : v.Shaped FloatReadsBack maxDepth) : parse? v.text = some v := by
  have hskip := (startsValue_chars h).skipSpace []
  have hread := v.readsBack h (2 * v.chars.length + 1) (by omega) endsNumber_nil
  rw [List.append_nil] at hskip hread
  rw [parse?, ← chars, hskip]
  simp only [hread]
  exact if_pos rfl

/-! ## The shape of what is read -/

/-- A number that is read is an integer that fits a word, or a floating-point number. -/
theorem shaped_of_numberValue {cs rest : List Char} {v : Json} (h : numberValue cs = some (v, rest))
    (depth : Nat) : v.Shaped (fun _ => True) depth := by
  obtain ⟨whole, behindWhole, pointed, fraction, behindFraction, scaled, exponent, -, -, -, hv⟩ :=
    numberValue_eq_some_iff.mp h
  -- Without a fraction and an exponent the number is a word if it fits one.
  unfold partsValue? at hv
  split at hv
  · next i hword =>
    obtain rfl := Option.some_inj.mp hv
    split at hword
    · exact nomatch hword
    · generalize Decimal.valueOf whole = n at hword
      rw [Shaped, FitsWord]
      unfold wordInteger? at hword
      split at hword
      · split at hword
        · obtain rfl := Option.some_inj.mp hword
          omega
        · exact nomatch hword
      · split at hword
        · obtain rfl := Option.some_inj.mp hword
          omega
        · exact nomatch hword
  · obtain ⟨x, -, rfl⟩ := Option.map_eq_some_iff.mp hv
    trivial

/-- One more step of the reader gives values of the shape, if the steps before it do. -/
theorem shaped_of_value {bound depth : Nat} {cs rest : List Char} {v : Json}
    (hitems : ∀ {depth : Nat} {cs rest : List Char} {vs : List Json},
      items bound depth [] cs = some (vs, rest) → ∀ w ∈ vs, w.Shaped (fun _ => True) depth)
    (hfields : ∀ {depth : Nat} {cs rest : List Char} {fs : List (String × Json)},
      fields bound depth [] cs = some (fs, rest) → ∀ f ∈ fs, f.2.Shaped (fun _ => True) depth)
    (h : value (bound + 1) depth cs = some (v, rest)) : v.Shaped (fun _ => True) depth := by
  unfold value at h
  split at h
  -- The three names.
  · obtain ⟨rfl, -⟩ := Prod.mk.inj (Option.some_inj.mp h)
    trivial
  · obtain ⟨rfl, -⟩ := Prod.mk.inj (Option.some_inj.mp h)
    trivial
  · obtain ⟨rfl, -⟩ := Prod.mk.inj (Option.some_inj.mp h)
    trivial
  · -- A string.
    obtain ⟨p, -, heq⟩ := Option.map_eq_some_iff.mp h
    obtain ⟨rfl, -⟩ := Prod.mk.inj heq
    trivial
  · -- An array: none at depth zero, or an empty one, or one with elements.
    split at h
    · exact nomatch h
    · split at h
      · obtain ⟨rfl, -⟩ := Prod.mk.inj (Option.some_inj.mp h)
        exact ⟨Nat.succ_pos _, trivial⟩
      · obtain ⟨⟨vs, behind⟩, hread, heq⟩ := Option.map_eq_some_iff.mp h
        obtain ⟨rfl, -⟩ := Prod.mk.inj heq
        exact ⟨Nat.succ_pos _, shapedItems_iff.mpr (hitems hread)⟩
  · -- An object, in the same way.
    split at h
    · exact nomatch h
    · split at h
      · obtain ⟨rfl, -⟩ := Prod.mk.inj (Option.some_inj.mp h)
        exact ⟨Nat.succ_pos _, Entries.sorted_nil, trivial⟩
      · obtain ⟨⟨fs, behind⟩, hread, heq⟩ := Option.map_eq_some_iff.mp h
        obtain ⟨rfl, -⟩ := Prod.mk.inj heq
        refine ⟨Nat.succ_pos _, .ofPairs fs, shapedFields_iff.mpr fun f hf => ?_⟩
        exact hfields hread f (Entries.mem_of_mem_ofPairs hf)
  · exact shaped_of_numberValue h depth

/-- What the reader gives has the shape of values that were read. -/
theorem shaped_of_read (bound : Nat) :
    (∀ {depth : Nat} {cs rest : List Char} {v : Json}, value bound depth cs = some (v, rest) →
      v.Shaped (fun _ => True) depth) ∧
    (∀ {depth : Nat} {seen : List Json} {cs rest : List Char} {vs : List Json},
      items bound depth seen cs = some (vs, rest) →
      (∀ w ∈ seen, w.Shaped (fun _ => True) depth) → ∀ w ∈ vs, w.Shaped (fun _ => True) depth) ∧
    (∀ {depth : Nat} {seen : List (String × Json)} {cs rest : List Char}
        {fs : List (String × Json)},
      fields bound depth seen cs = some (fs, rest) →
      (∀ f ∈ seen, f.2.Shaped (fun _ => True) depth) →
      ∀ f ∈ fs, f.2.Shaped (fun _ => True) depth) := by
  induction bound with
  | zero =>
    refine ⟨fun h => ?_, fun h => ?_, fun h => ?_⟩
    · exact nomatch h
    · exact nomatch h
    · exact nomatch h
  | succ bound ih =>
    obtain ⟨hvalue, hitems, hfields⟩ := ih
    refine ⟨fun h => shaped_of_value (fun hread => hitems hread fun _ hw => nomatch hw)
      (fun hread => hfields hread fun _ hf => nomatch hf) h, fun h hseen => ?_, fun h hseen => ?_⟩
    · -- An element is read and then a comma, after which there are more, or the end.
      unfold items at h
      split at h
      · exact nomatch h
      · next v behind hread =>
        have hseen' := List.forall_mem_cons.mpr ⟨hvalue hread, hseen⟩
        split at h
        · exact hitems h hseen'
        · obtain ⟨rfl, -⟩ := Prod.mk.inj (Option.some_inj.mp h)
          exact fun w hw => hseen' w (List.mem_reverse.mp hw)
        · exact nomatch h
    · -- A name, a colon and a value are read, and then the same.
      unfold fields at h
      split at h
      · split at h
        · exact nomatch h
        · next k behind _ =>
          split at h
          · split at h
            · exact nomatch h
            · next v _ hread =>
              have hseen' : ∀ f ∈ (String.ofList k, v) :: _, f.2.Shaped (fun _ => True) _ :=
                List.forall_mem_cons.mpr ⟨hvalue hread, hseen⟩
              simp only at h
              split at h
              · exact hfields h hseen'
              · obtain ⟨rfl, -⟩ := Prod.mk.inj (Option.some_inj.mp h)
                exact fun f hf => hseen' f (List.mem_reverse.mp hf)
              · exact nomatch h
          · exact nomatch h
      · exact nomatch h

/-- Every value that is read has the shape. -/
theorem shaped_of_parse? {s : String} {v : Json} (h : parse? s = some v) :
    v.Shaped (fun _ => True) maxDepth := by
  unfold parse? at h
  simp only at h
  split at h
  · next w rest hread =>
    split at h
    · obtain rfl := Option.some_inj.mp h
      exact (shaped_of_read _).1 hread
    · exact nomatch h
  · exact nomatch h

end Json

end AccessPolicy
