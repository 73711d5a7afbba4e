import AccessPolicy.Proofs.Decimal.Digits
import AccessPolicy.Value.Literal

/-!
# What a literal stands for

`HasKind` says that a text carries a known type and what stands behind it. The value of such a text
is what `Literal.readAs` makes of the rest; any other text stands for itself. `Denotes` lists the
values that can come of it, and `denotes_ofLiteral` is the one place where the cases of the reader
are taken apart.
-/

namespace AccessPolicy

namespace Literal

/-- The name of a type and the text behind it are what a text is divided into. -/
theorem split?_eq_some {cs name rest : List Char} (h : split? cs = some (name, rest)) :
    cs = '(' :: '*' :: (name ++ ')' :: rest) := by
  -- The name ends at a closing parenthesis, and what could be part of it is all taken.
  unfold split? at h
  split at h
  · next cs =>
    have htake : cs.takeWhile isTypeChar ++ cs.dropWhile isTypeChar = cs :=
      List.takeWhile_append_dropWhile
    simp only at h
    split at h
    · exact nomatch h
    · next hdrop _ =>
      obtain ⟨rfl, rfl⟩ := Prod.mk.inj (Option.some_inj.mp h)
      rw [← hdrop, htake]
    · exact nomatch h
  · exact nomatch h

/-- Whether a text carries a type in front, and what stands behind it. -/
def HasKind (raw : String) (kind : Kind) (rest : List Char) : Prop :=
  ∃ name, split? raw.toList = some (name, rest) ∧ Kind.ofName? name = some kind

/-- The text behind a type is the end of a text. -/
theorem HasKind.suffix {raw : String} {kind : Kind} {rest : List Char} (h : HasKind raw kind rest) :
    rest <:+ raw.toList := by
  obtain ⟨name, hsplit, -⟩ := h
  refine ⟨'(' :: '*' :: (name ++ [')']), ?_⟩
  rw [split?_eq_some hsplit]
  simp

/-- A text with a type is read as one of that type. -/
theorem HasKind.read?_eq {raw : String} {kind : Kind} {rest : List Char}
    (h : HasKind raw kind rest) :
    read? raw = readAs rest kind := by
  obtain ⟨name, hsplit, hkind⟩ := h
  rw [read?, hsplit]
  simp only [hkind]

/-- A text with a type stands for the value that is read of the rest as one of that type. -/
theorem HasKind.ofLiteral_eq {raw : String} {kind : Kind} {rest : List Char}
    (h : HasKind raw kind rest)
    {v : Value} (hread : readAs rest kind = .ok v) : Value.ofLiteral raw = v := by
  rw [Value.ofLiteral, h.read?_eq, hread]

/-- A type as it is written in front of a text. -/
def Kind.front : Kind → String
  | .string => "(*string)"
  | .address => "(*ip)"
  | .network => "(*iprange)"
  | .int => "(*int)"
  | .float => "(*float)"
  | .bool => "(*bool)"
  | .array => "(*array)"
  | .null => "(*null)"
  | .date => "(*date)"

/-- A text behind a type carries that type. -/
theorem hasKind_front (kind : Kind) (s : String) : HasKind (kind.front ++ s) kind s.toList := by
  cases kind <;> exact ⟨_, by rw [String.toList_append]; rfl, rfl⟩

/-- A text without a known type stands for itself. -/
theorem read?_of_not_hasKind {raw : String} (h : ∀ kind rest, ¬HasKind raw kind rest) :
    read? raw = .ok (.str raw) := by
  unfold read?
  split
  · rfl
  · next name rest hsplit =>
    split
    · rfl
    · next kind hkind => exact absurd ⟨name, hsplit, hkind⟩ (h kind rest)

/-- The integer at the front of a text is the one that its digits and its sign denote, brought into
the range of a signed word. The least value of the word is reached on the way of the values that do
not fit, since its digits alone do not fit either. -/
theorem leadingInt_eq_clamp {cs unsigned : List Char} {negative : Bool}
    (h : Decimal.splitSign (Text.trimStart cs) = (negative, unsigned)) :
    leadingInt cs = Decimal.clampInt64 (if negative
      then -(Decimal.valueOf (unsigned.takeWhile Char.isDigit) : Int)
      else Decimal.valueOf (unsigned.takeWhile Char.isDigit)) := by
  unfold leadingInt
  rw [h]
  simp only
  generalize hrun : unsigned.takeWhile Char.isDigit = ds
  have hds : ∀ c ∈ ds, c.isDigit := by
    rw [← hrun]
    exact fun c hc => List.all_eq_true.mp List.all_takeWhile c hc
  by_cases hne : ds = []
  · rw [if_pos hne, hne]
    cases negative <;> decide
  · rw [if_neg hne, Decimal.int64?_of_isDigit hne hds]
    unfold Decimal.clampInt64 Decimal.minInt64 Decimal.maxInt64
    -- A number that fits has a negative that fits as well, for the word reaches further down than
    -- up.
    by_cases hfits : (Decimal.valueOf ds : Int) ≤ 0x7FFFFFFFFFFFFFFF
    · rw [if_pos hfits]
      cases negative <;> simp only [Bool.false_eq_true, if_true, if_false] <;> omega
    · rw [if_neg hfits]
      cases negative <;> simp only [Bool.false_eq_true, if_true, if_false] <;> omega

/-- The integer at the front of a text fits a signed word. -/
theorem fitsInt64_leadingInt (cs : List Char) : Decimal.FitsInt64 (leadingInt cs) := by
  rw [leadingInt_eq_clamp rfl]
  exact Decimal.fitsInt64_clampInt64 _

/-- The values that a text can stand for. -/
inductive Denotes (raw : String) : Value → Prop where
  | null : Denotes raw .null
  | bool (b : Bool) : Denotes raw (.bool b)
  | int (cs : List Char) : Denotes raw (.int (leadingInt cs))
  | float (cs : List Char) : Denotes raw (.float (leadingFloat cs))
  | str {cs : List Char} (h : cs <:+ raw.toList) : Denotes raw (.str (String.ofList cs))
  | items {cs : List Char} {items : List Json} (hkind : HasKind raw .array cs)
    (hparse : Json.parse? (String.ofList cs) = some (.arr items)) :
    Denotes raw (.ofJson (.arr items))
  | fields {cs : List Char} {fields : List (String × Json)} (hkind : HasKind raw .array cs)
    (hparse : Json.parse? (String.ofList cs) = some (.obj fields)) :
    Denotes raw (.ofJson (.obj fields))
  /-- A scalar, as the one element of an array. -/
  | scalar {cs : List Char} {v : Json} (hkind : HasKind raw .array cs)
    (hparse : Json.parse? (String.ofList cs) = some v) (hitems : ∀ items, v ≠ .arr items)
    (hfields : ∀ fields, v ≠ .obj fields) : Denotes raw (.arr [.ofJson v])
  /-- An array that could not be read. -/
  | noItems : Denotes raw (.arr [])
  | address (a : Net.Address) : Denotes raw (.address a)
  | network (n : Net.Network) : Denotes raw (.network n)
  | instant {cs : List Char} {t : Calendar.Instant} (hkind : HasKind raw .date cs)
    (hread : Calendar.instant? (String.ofList cs) = some t) : Denotes raw (.instant t)
  | invalid : Denotes raw (.invalid raw)

/-- The value of a literal of a network. -/
theorem denotes_network? (raw : String) (cs : List Char) :
    (∃ v, network? cs = .ok v ∧ Denotes raw v) ∨
      ∃ e, network? cs = .error e ∧ Denotes raw (substitute raw e) := by
  unfold network?
  split
  · next n _ => exact .inl ⟨_, rfl, .network n⟩
  · exact .inr ⟨_, rfl, .invalid⟩

/-- The value of a text that is read as one of a type, or what stands in for it. -/
theorem denotes_readAs {raw : String} {kind : Kind} {cs : List Char} (h : HasKind raw kind cs) :
    (∃ v, readAs cs kind = .ok v ∧ Denotes raw v) ∨
      ∃ e, readAs cs kind = .error e ∧ Denotes raw (substitute raw e) := by
  cases kind with
  | string => exact .inl ⟨_, rfl, .str h.suffix⟩
  | address =>
    -- A slash makes the text a network, and everything else is tried as an address.
    rw [readAs, address?]
    split
    · exact denotes_network? raw cs
    · split
      · next a _ => exact .inl ⟨_, rfl, .address a⟩
      · exact .inr ⟨_, rfl, .invalid⟩
  | network => exact denotes_network? raw cs
  | int => exact .inl ⟨_, rfl, .int cs⟩
  | float => exact .inl ⟨_, rfl, .float cs⟩
  | bool => exact .inl ⟨_, rfl, .bool _⟩
  | array =>
    -- A scalar is made the one element of an array, and what is no JSON is made an empty one.
    rw [readAs, array?]
    split
    · exact .inr ⟨_, rfl, .noItems⟩
    · next items hparse => exact .inl ⟨_, rfl, .items h hparse⟩
    · next fields hparse => exact .inl ⟨_, rfl, .fields h hparse⟩
    · next v hitems hfields hparse => exact .inl ⟨_, rfl, .scalar h hparse hitems hfields⟩
  | null =>
    rw [readAs]
    split
    · exact .inl ⟨_, rfl, .null⟩
    · exact .inl ⟨_, rfl, .str h.suffix⟩
  | date =>
    rw [readAs, date?]
    split
    · next t hread => exact .inl ⟨_, rfl, .instant h hread⟩
    · exact .inr ⟨_, rfl, .null⟩

/-- What the value of a text is one of. -/
theorem denotes_ofLiteral (raw : String) : Denotes raw (Value.ofLiteral raw) := by
  rw [Value.ofLiteral]
  -- Without a type in front the text is a string, with everything in it.
  by_cases h : ∃ kind cs, HasKind raw kind cs
  · obtain ⟨kind, cs, hkind⟩ := h
    rw [hkind.read?_eq]
    rcases denotes_readAs hkind with ⟨v, hread, hv⟩ | ⟨e, hread, he⟩
    · rw [hread]
      exact hv
    · rw [hread]
      exact he
  · rw [read?_of_not_hasKind fun kind cs hkind => h ⟨kind, cs, hkind⟩]
    have hself := Denotes.str (List.suffix_refl raw.toList)
    rw [String.ofList_toList] at hself
    exact hself

end Literal

end AccessPolicy
