import AccessPolicy.Json.Basic

/-!
# Markers in a text

A text may hold markers of the form `${token}`. A marker starts at a dollar sign and an opening
brace that a closing brace follows later, but not at once; its token reaches up to the first closing
brace, and the search goes on behind it. `segments` divides a text into markers and the literal text
between them, and `source_segments` says that the division loses nothing.

The tokens of the markers in a text (`tokens`), and in the strings of a value at any depth
(`tokensOf`), are all that the value a text or a value resolves to depends on.
-/

namespace AccessPolicy.Marker

/-- A part of a text. -/
inductive Segment where
  | text (cs : List Char)
  | marker (token : List Char)
  deriving DecidableEq

/-- The text that a part was taken from. -/
def Segment.source : Segment → List Char
  | .text cs => cs
  | .marker token => '$' :: '\x7b' :: (token ++ ['\x7d'])

/-- The token at the front of a text that stands behind a dollar sign and an opening brace, and the
text behind its closing brace. -/
def token? (cs : List Char) : Option (List Char × List Char) :=
  match Text.cut '\x7d' cs with
  | (c :: token, some rest) => some (c :: token, rest)
  | _ => none

/-- A cut at a separator gives the text in front of it and the text behind it. -/
theorem cut_append {sep : Char} {cs head tail : List Char}
    (h : Text.cut sep cs = (head, some tail)) : cs = head ++ sep :: tail := by
  induction cs generalizing head with
  | nil => simp [Text.cut] at h
  | cons c cs ih =>
    unfold Text.cut at h
    split at h
    · next hc =>
      simp only [Prod.mk.injEq, Option.some.injEq] at h
      simp [← h.1, ← h.2, hc]
    · rcases hcut : Text.cut sep cs with ⟨front, back⟩
      rw [hcut] at h
      simp only [Prod.mk.injEq] at h
      obtain ⟨rfl, rfl⟩ := h
      simp [ih hcut]

/-- Token and closing brace are what is taken off the text. -/
theorem token?_append {cs token rest : List Char} (h : token? cs = some (token, rest)) :
    cs = token ++ '\x7d' :: rest := by
  unfold token? at h
  split at h
  · next hc =>
    simp only [Option.some.injEq, Prod.mk.injEq] at h
    obtain ⟨rfl, rfl⟩ := h
    exact cut_append hc
  · simp at h

/-- The parts with one more character of literal text in front. -/
def consChar (c : Char) : List Segment → List Segment
  | .text cs :: segs => .text (c :: cs) :: segs
  | segs => .text [c] :: segs

/-- The parts of a text, from left to right. -/
def segments : List Char → List Segment
  | [] => []
  | '$' :: '\x7b' :: cs =>
    match _h : token? cs with
    | some (token, rest) => .marker token :: segments rest
    | none => consChar '$' (segments ('\x7b' :: cs))
  | c :: cs => consChar c (segments cs)
termination_by cs => cs.length
decreasing_by
  · have := congrArg List.length (token?_append _h)
    simp only [List.length_append, List.length_cons] at this ⊢
    omega
  · simp
  · simp

/-- A character put in front of the segments stands in front of their source. -/
theorem source_consChar (c : Char) (segs : List Segment) :
    (consChar c segs).flatMap Segment.source = c :: segs.flatMap Segment.source := by
  unfold consChar
  split <;> simp [Segment.source]

/-- The parts put together are the text. -/
theorem source_segments (cs : List Char) : (segments cs).flatMap Segment.source = cs := by
  fun_induction segments cs with
  | case1 => rfl
  | case2 cs token rest h ih => simp [Segment.source, ih, token?_append h]
  | case3 cs h ih => rw [source_consChar, ih]
  | case4 c cs _ ih => rw [source_consChar, ih]

/-- Whether a part is a marker. -/
def Segment.isMarker : Segment → Bool
  | .marker _ => true
  | .text _ => false

/-- Whether a text holds a marker. -/
def hasMarker (s : String) : Bool :=
  (segments s.toList).any Segment.isMarker

/-! ## Tokens -/

/-- The token of a part that is a marker. -/
def Segment.token? : Segment → Option (List Char)
  | .marker token => some token
  | .text _ => none

/-- The tokens of a text, from left to right. -/
def tokens (s : String) : List (List Char) :=
  (segments s.toList).filterMap Segment.token?

mutual

/-- The tokens in the strings of a value; names of fields do not count. -/
def tokensOf : Json → List (List Char)
  | .str s => tokens s
  | .arr items => tokensOfItems items
  | .obj fields => tokensOfFields fields
  | _ => []

/-- The tokens in the elements of an array. -/
def tokensOfItems : List Json → List (List Char)
  | [] => []
  | v :: vs => tokensOf v ++ tokensOfItems vs

/-- The tokens in the values of the fields of an object. -/
def tokensOfFields : List (String × Json) → List (List Char)
  | [] => []
  | (_, v) :: fs => tokensOf v ++ tokensOfFields fs

end

end AccessPolicy.Marker
