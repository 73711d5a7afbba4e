/-!
# Cutting a text at a separator

`cut` divides a text at the first separator, `pieces` at every one. `join_pieces` says that joining
the pieces gives the text back, so nothing is lost.
-/

namespace AccessPolicy.Text

/-- The text before the first `sep`, and the text after it if there is one. -/
def cut (sep : Char) : List Char → List Char × Option (List Char)
  | [] => ([], none)
  | c :: cs =>
    if c = sep then ([], some cs)
    else
      let (head, tail) := cut sep cs
      (c :: head, tail)

/-- The parts of a text between separators; there is always at least one. -/
def pieces (sep : Char) : List Char → List (List Char)
  | [] => [[]]
  | c :: cs =>
    if c = sep then [] :: pieces sep cs
    else
      match pieces sep cs with
      | [] => [[c]]
      | p :: ps => (c :: p) :: ps

/-- There is always a piece, the empty text's being the empty one. -/
theorem pieces_ne_nil (sep : Char) (cs : List Char) : pieces sep cs ≠ [] := by
  cases cs with
  | nil => simp [pieces]
  | cons c cs =>
    unfold pieces
    split
    · simp
    · split <;> simp

/-- The parts joined by separators. -/
def join (sep : Char) : List (List Char) → List Char
  | [] => []
  | [p] => p
  | p :: q :: ps => p ++ sep :: join sep (q :: ps)

/-- A character in front of the first piece stands in front of the joined text. -/
theorem join_cons_cons (sep c : Char) (p : List Char) (ps : List (List Char)) :
    join sep ((c :: p) :: ps) = c :: join sep (p :: ps) := by
  cases ps <;> simp [join]

/-- Cutting at every separator loses nothing. -/
theorem join_pieces (sep : Char) (cs : List Char) : join sep (pieces sep cs) = cs := by
  induction cs with
  | nil => rfl
  | cons c cs ih =>
    unfold pieces
    split
    · next h =>
      have hne := pieces_ne_nil sep cs
      match hp : pieces sep cs, hne with
      | p :: ps, _ => simp [join, ← hp, ih, h]
    · match hp : pieces sep cs with
      | [] => exact absurd hp (pieces_ne_nil sep cs)
      | p :: ps => simp [join_cons_cons, ← hp, ih]

/-- The first cut is the first of the pieces, and the rest are the pieces of what follows. -/
theorem pieces_eq_cut (sep : Char) (cs : List Char) :
    pieces sep cs =
      match cut sep cs with
      | (head, none) => [head]
      | (head, some tail) => head :: pieces sep tail := by
  induction cs with
  | nil => rfl
  | cons c cs ih =>
    by_cases h : c = sep
    · simp [pieces, cut, h]
    · simp only [pieces, cut, h, if_false, ih]
      rcases cut sep cs with ⟨head, _ | tail⟩ <;> rfl

end AccessPolicy.Text
