import AccessPolicy.Proofs.Pattern.Wildcard
import Mathlib

/-!
# The room that wildcard patterns take

Expressions may take only so much room, and so may the expressions of wildcard patterns. A bound on
the room of a plan that holds in both directions is additive (`Plan.most`), and a plan is carried
out whenever there is as much room left (`Plan.carryOut_le`). Each character of a pattern adds at
most that of an asterisk, so a pattern of up to ten thousand characters always has an expression
that fits (`fits_wildcardRegex`).
-/

namespace AccessPolicy.Pattern

/-! ## Plans -/

/-- The room that an automaton takes so far. -/
def Builder.room (b : Builder) : Nat :=
  32 * b.count + b.extra

/-- Room that suffices for the states of a plan in either direction. A set is taken to share none
backwards. -/
def Plan.most : Plan → Nat
  | states count extra => 32 * count + extra
  | set encodings =>
    max (forwardRoom encodings) (64 + (encodings.map fun ranges => 32 * ranges.length + 4).sum)
  | both a b => a.most + b.most
  | copies n a => n * a.most

/-- The room of a plan forwards suffices in either direction. -/
theorem Plan.room_le_most (p : Plan) : p.room ≤ p.most := by
  induction p with
  | states count extra => exact Nat.le_refl _
  | set encodings => exact Nat.le_max_left _ _
  | both a b iha ihb => exact Nat.add_le_add iha ihb
  | copies n a ih => exact Nat.mul_le_mul_left n ih

namespace Builder

/-- A range of bytes takes one state at most. -/
theorem room_addRange_le (b : Builder) (next : Nat) (range : Nat × Nat) :
    (b.addRange next range).1.room ≤ b.room + 32 := by
  obtain ⟨low, high⟩ := range
  unfold addRange
  dsimp only
  split
  · exact Nat.le_add_right _ _
  · show 32 * (b.count + 1) + b.extra ≤ 32 * b.count + b.extra + 32
    omega

/-- Ranges of bytes take a state each at most. -/
theorem room_foldl_addRange_le (ranges : ByteRanges) (made : Builder × Nat) :
    (ranges.foldl (fun (b, next) range => b.addRange next range) made).1.room ≤
      made.1.room + 32 * ranges.length := by
  induction ranges generalizing made with
  | nil => exact Nat.le_refl _
  | cons range ranges ih =>
    have hrange := room_addRange_le made.1 made.2 range
    have hrest := ih (made.1.addRange made.2 range)
    rw [List.foldl_cons, List.length_cons]
    show (ranges.foldl _ (made.1.addRange made.2 range)).1.room ≤ _
    omega

/-- An encoding takes a state for each of its ranges at most, and one way into them. -/
theorem room_addEncoding_le (last : Nat) (b : Builder) (ranges : ByteRanges) :
    (addEncoding last b ranges).room ≤ b.room + (32 * ranges.length + 4) := by
  have hranges := room_foldl_addRange_le ranges (b, last)
  have hway : (addEncoding last b ranges).room =
      (ranges.foldl (fun (b, next) range => b.addRange next range) (b, last)).1.room + 4 :=
    (Nat.add_assoc _ _ 4).symm
  rw [hway, ← Nat.add_assoc]
  exact Nat.add_le_add_right hranges 4

/-- A set takes the states at its two ends and what its encodings take. -/
theorem room_addSet_le (b : Builder) (encodings : List ByteRanges) :
    (b.addSet encodings).room ≤
      b.room + (64 + (encodings.map fun ranges => 32 * ranges.length + 4).sum) := by
  -- The encodings are added one after the other, behind the two states of the set itself.
  have hstates : ∀ (last : Nat) (b : Builder),
      (encodings.foldl (addEncoding last) b).room ≤
        b.room + (encodings.map fun ranges => 32 * ranges.length + 4).sum := by
    intro last
    induction encodings with
    | nil => exact fun b => Nat.le_refl _
    | cons ranges encodings ih =>
      intro b
      have hranges := room_addEncoding_le last b ranges
      have hrest := ih (addEncoding last b ranges)
      rw [List.foldl_cons, List.map_cons, List.sum_cons]
      omega
  have h := hstates (b.count + 1) { b with count := b.count + 2 }
  have hfirst : room { b with count := b.count + 2 } = b.room + 64 := by
    show 32 * (b.count + 2) + b.extra = 32 * b.count + b.extra + 64
    omega
  rw [hfirst, Nat.add_assoc] at h
  exact h

/-- What there is room for is gone on with. -/
theorem within?_of_le {b : Builder} (h : b.room ≤ roomLimit) : b.within? = some b :=
  if_pos h

end Builder

/-- A plan is carried out if there is room for it, and takes no more than that. -/
theorem Plan.carryOut_le {p : Plan} {b : Builder} (h : b.room + p.most ≤ roomLimit) :
    ∃ b', p.carryOut b = some b' ∧ b'.room ≤ b.room + p.most := by
  induction p generalizing b with
  | states count extra =>
    have hroom : Builder.room { b with count := b.count + count, extra := b.extra + extra } =
        b.room + (states count extra).most := by
      show 32 * (b.count + count) + (b.extra + extra) =
        32 * b.count + b.extra + (32 * count + extra)
      omega
    exact ⟨_, Builder.within?_of_le (hroom.trans_le h), hroom.le⟩
  | set encodings =>
    -- Whatever the table remembers, no more states are made than the encodings have ranges.
    have hroom : (b.addSet encodings).room ≤ b.room + (set encodings).most :=
      (b.room_addSet_le encodings).trans (Nat.add_le_add_left (Nat.le_max_right _ _) _)
    exact ⟨_, Builder.within?_of_le (hroom.trans h), hroom⟩
  | both a c iha ihc =>
    have hmost : (both a c).most = a.most + c.most := rfl
    obtain ⟨b₁, hb₁, hroom₁⟩ := iha (b := b) (by omega)
    obtain ⟨b₂, hb₂, hroom₂⟩ := ihc (b := b₁) (by omega)
    refine ⟨b₂, ?_, by omega⟩
    rw [carryOut, hb₁]
    exact hb₂
  | copies n a ih =>
    have hmost : (copies n a).most = n * a.most := rfl
    rw [hmost] at h ⊢
    show ∃ b', Builder.times a.carryOut n b = some b' ∧ _
    induction n generalizing b with
    | zero => exact ⟨b, rfl, Nat.le_add_right _ _⟩
    | succ n ihn =>
      -- One copy is made with room left for the others.
      rw [Nat.succ_mul] at h ⊢
      obtain ⟨b₁, hb₁, hroom₁⟩ := ih (b := b) (by omega)
      obtain ⟨b₂, hb₂, hroom₂⟩ := ihn (b := b₁) (by omega) rfl
      refine ⟨b₂, ?_, by omega⟩
      rw [Builder.times, hb₁]
      exact hb₂

/-! ## Expressions -/

namespace Regex

/-- The plan of an expression within a larger one. -/
def innerPlan (backward : Bool) (r : Regex) : Plan :=
  r.branchPlan backward (r.plans backward)

/-- Room that suffices for expressions within a larger one. -/
def mostOf (backward : Bool) (rs : List Regex) : Nat :=
  (rs.map fun r => (r.innerPlan backward).most).sum

/-- One more expression takes its own room. -/
theorem mostOf_cons (backward : Bool) (r : Regex) (rs : List Regex) :
    mostOf backward (r :: rs) = (r.innerPlan backward).most + mostOf backward rs :=
  rfl

/-- A sequence takes the room of its two parts, in either direction. -/
theorem most_innerPlan_seq (backward : Bool) (a b : Regex) :
    ((seq a b).innerPlan backward).most =
      (a.innerPlan backward).most + (b.innerPlan backward).most := by
  cases backward with
  | false => rfl
  | true => exact Nat.add_comm _ _

/-- Factors one behind the other take what they take alone, or one state if there are none. -/
theorem most_ofFactors_le (backward : Bool) (rs : List Regex) :
    ((ofFactors rs).innerPlan backward).most ≤ mostOf backward rs + 32 := by
  induction rs with
  | nil => exact Nat.le_refl 32
  | cons r rs ih =>
    cases rs with
    | nil => exact Nat.le_add_right _ 32
    | cons s rs =>
      rw [ofFactors, most_innerPlan_seq, mostOf_cons]
      · omega
      · exact nofun

/-- A joined literal takes as much room as its parts. -/
theorem mostOf_joinLiteral (backward : Bool) (r : Regex) (rs : List Regex) :
    mostOf backward (joinLiteral r rs) = mostOf backward (r :: rs) := by
  unfold joinLiteral
  split
  · next a b rest =>
    have hliteral : ∀ text, ((literal text).innerPlan backward).most =
        32 * (text.map Char.utf8Size).sum := fun _ => rfl
    rw [mostOf_cons, mostOf_cons, mostOf_cons, hliteral, hliteral, hliteral, List.map_append,
      List.sum_append]
    omega
  · rfl

/-- Joining all the literals of a list leaves the room that it takes as it is. -/
theorem mostOf_foldr_joinLiteral (backward : Bool) (rs : List Regex) :
    mostOf backward (rs.foldr joinLiteral []) = mostOf backward rs := by
  induction rs with
  | nil => rfl
  | cons r rs ih => rw [List.foldr_cons, mostOf_joinLiteral, mostOf_cons, ih, mostOf_cons]

/-- What is in front of an expression and behind it takes little room. -/
theorem most_plan_le (backward : Bool) (r : Regex) :
    (r.plan backward).most ≤ (r.innerPlan backward).most + 256 := by
  have hplan : (r.plan backward).most =
      (if r.isAnchored backward then Plan.step else .all [.fork 2, .step, .choice 1]).most +
        ((if backward then r.innerPlan backward
          else .all [.step, r.innerPlan backward, .step]).most + Plan.step.most) :=
    rfl
  have hfront : (if r.isAnchored backward then Plan.step
      else .all [.fork 2, .step, .choice 1]).most ≤ 112 := by
    split
    · decide
    · decide
  have hbody : (if backward then r.innerPlan backward
      else .all [.step, r.innerPlan backward, .step]).most ≤ (r.innerPlan backward).most + 64 := by
    cases backward with
    | false =>
      show 32 + ((r.innerPlan false).most + 32) ≤ _
      omega
    | true => exact Nat.le_add_right _ _
  have hstep : Plan.step.most = 32 := rfl
  omega

/-- An expression fits if there is room for what it takes in each direction. -/
theorem fits_of_most_le {r : Regex} (h : ∀ backward, (r.plan backward).most ≤ roomLimit) :
    r.fits = true := by
  obtain ⟨b, hb, -⟩ := Plan.carryOut_le (b := {}) ((Nat.zero_add _).trans_le (h true))
  rw [fits, hb, Bool.and_eq_true, decide_eq_true_iff]
  exact ⟨(Plan.room_le_most _).trans (h false), rfl⟩

end Regex

/-! ## Wildcard patterns -/

/-- The part of an asterisk takes more room than any literal of one character. -/
theorem most_wildcardPart_le (backward : Bool) (c : Char) :
    ((wildcardPart c).innerPlan backward).most ≤ 1004 := by
  by_cases hc : c = '*'
  · subst hc
    cases backward with
    | false => decide +kernel
    | true => decide +kernel
  · have hpart : ((wildcardPart c).innerPlan backward).most = 32 * c.utf8Size := by
      rw [wildcardPart, if_neg hc]
      rfl
    have hsize := c.utf8Size_le_four
    omega

/-- The parts of a pattern take room in proportion to its length. -/
theorem mostOf_wildcardPart_le (backward : Bool) (pattern : List Char) :
    Regex.mostOf backward (pattern.map wildcardPart ++ [.look .textEnd]) ≤
      1004 * pattern.length + 32 := by
  induction pattern with
  | nil => exact Nat.le_refl 32
  | cons c pattern ih =>
    have hpart := most_wildcardPart_le backward c
    rw [List.map_cons, List.cons_append, Regex.mostOf_cons, List.length_cons]
    omega

/-- The expression of a pattern takes room in proportion to its length. -/
theorem most_wildcardRegex_le (backward : Bool) (pattern : List Char) :
    ((wildcardRegex pattern).innerPlan backward).most ≤ 1004 * pattern.length + 96 := by
  -- No part of a pattern is a sequence itself, so that the parts are the factors.
  have hfactors : ∀ c, (wildcardPart c).factors = [wildcardPart c] := by
    intro c
    rw [wildcardPart]
    split <;> rfl
  have hparts : (pattern.map wildcardPart).flatMap Regex.factors = pattern.map wildcardPart := by
    rw [List.flatMap_map, List.map_eq_flatMap]
    simp only [hfactors]
  have hrest := mostOf_wildcardPart_le backward pattern
  rw [wildcardRegex_eq, Regex.sequence, List.flatMap_cons, List.flatMap_append, hparts]
  refine (Regex.most_ofFactors_le _ _).trans ?_
  rw [Regex.mostOf_foldr_joinLiteral]
  show 32 + Regex.mostOf backward (pattern.map wildcardPart ++ [.look .textEnd]) + 32 ≤ _
  omega

/-- A pattern of up to ten thousand characters is not too large. -/
theorem fits_wildcardRegex {pattern : List Char} (h : pattern.length ≤ 10000) :
    (wildcardRegex pattern).fits = true := by
  refine Regex.fits_of_most_le fun backward => ?_
  have hplan := Regex.most_plan_le backward (wildcardRegex pattern)
  have hinner := most_wildcardRegex_le backward pattern
  have hlimit : roomLimit = 10485760 := rfl
  omega

end AccessPolicy.Pattern
