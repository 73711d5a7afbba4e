import AccessPolicy.Proofs.Pattern.Layout
import Mathlib.Data.List.Basic

/-!
# Searching with a program

The search follows all ways through a program at once. Between two characters it collects the ways
that lie open, each with the set of characters that may come next, and `Program.waysFrom_spec` says
that it finds those and no others. So after each character it stands at the instructions from which
a run can still accept (`Program.search_iff`), and an expression is found in a subject exactly if it
matches a part of it (`Regex.search_iff`).
-/

namespace AccessPolicy.Pattern

/-- The instructions that one opens the way to without a character. -/
def Instruction.opened (front back : Option Char) : Instruction → List Nat
  | .look l next => if l.holds front back then [next] else []
  | .fork a b => [a, b]
  | _ => []

namespace Ways

/-- The ways with those of one more instruction. -/
def add (w : Ways) : Instruction → Ways
  | .take rs next => { w with takes := (rs, next) :: w.takes }
  | .accept => { w with accepted := true }
  | _ => w

/-- Whether the way that an instruction gives is among the ways. -/
def Has (w : Ways) : Instruction → Prop
  | .take rs next => (rs, next) ∈ w.takes
  | .accept => w.accepted = true
  | _ => True

/-- The way of an instruction that was added is among the ways. -/
theorem has_add_self (w : Ways) (x : Instruction) : (w.add x).Has x := by
  cases x with
  | take rs next => exact List.mem_cons_self
  | accept => rfl
  | _ => trivial

/-- What is among the ways stays there. -/
theorem Has.add {w : Ways} {x : Instruction} (h : w.Has x) (y : Instruction) : (w.add y).Has x := by
  cases x with
  | take rs next =>
    cases y with
    | take rs' next' => exact List.mem_cons_of_mem _ h
    | _ => exact h
  | accept =>
    cases y with
    | accept => rfl
    | _ => exact h
  | _ => trivial

/-- Whether instructions of a set give all the ways. -/
structure Only (w : Ways) (code : Array Instruction) (s : Nat → Prop) : Prop where
  takes : ∀ way ∈ w.takes, ∃ i, s i ∧ code[i]? = some (.take way.1 way.2)
  accepted : w.accepted = true → ∃ i, s i ∧ code[i]? = some .accept

/-- An instruction of the set may add its way. -/
theorem Only.add {w : Ways} {code : Array Instruction} {s : Nat → Prop} (h : w.Only code s)
    {i : Nat} {x : Instruction} (hi : s i) (hx : code[i]? = some x) : (w.add x).Only code s := by
  cases x with
  | take rs next =>
    refine ⟨?_, h.accepted⟩
    rintro way (_ | ⟨_, hmem⟩)
    · exact ⟨i, hi, hx⟩
    · exact h.takes way hmem
  | accept => exact ⟨h.takes, fun _ => ⟨i, hi, hx⟩⟩
  | _ => exact h

end Ways

/-! ## Following the open ways -/

/-- Whether one instruction opens the way to another one between two characters. -/
def Opens (code : Array Instruction) (front back : Option Char) (i j : Nat) : Prop :=
  ∃ x, code[i]? = some x ∧ j ∈ x.opened front back

namespace Program

variable {p : Program} {front back : Option Char} {bound i : Nat} {starts rest : List Nat}
  {seen : Array Bool} {ways : Ways} {s : Nat → Prop}

/-- An instruction that was followed before is skipped. -/
theorem follow_seen (hi : seen.getD i true = true) :
    p.follow front back (bound + 1) (i :: rest) seen ways =
      p.follow front back bound rest seen ways := by
  rw [follow, if_pos hi]

/-- An instruction that was not followed before is left for those that it opens. -/
theorem follow_unseen {x : Instruction} (hi : ¬seen.getD i true = true) (hx : p.code[i]? = some x) :
    p.follow front back (bound + 1) (i :: rest) seen ways =
      p.follow front back bound (x.opened front back ++ rest) (seen.setIfInBounds i true)
        (ways.add x) := by
  rw [follow, if_neg hi]
  dsimp only
  rw [hx]
  cases x with
  | look l next =>
    dsimp only [Instruction.opened, Ways.add]
    split <;> rfl
  | _ => rfl

/-- Only instructions of the code are unseen. -/
theorem exists_of_not_seen (hsize : seen.size = p.code.size) (hi : ¬seen.getD i true = true) :
    ∃ x, p.code[i]? = some x := by
  have hlt : i < seen.size := by
    refine Decidable.byContradiction fun hge => hi ?_
    rw [Array.getD_eq_getD_getElem?, Array.getElem?_eq_none (Nat.le_of_not_lt hge),
      Option.getD_none]
  rw [hsize] at hlt
  exact ⟨p.code[i], Array.getElem?_eq_getElem hlt⟩

/-- Nothing is found but what lies open. -/
theorem only_follow (hclosed : ∀ i j, s i → Opens p.code front back i j → s j)
    (hsize : seen.size = p.code.size) (hstarts : ∀ i ∈ starts, s i) (hways : ways.Only p.code s) :
    (p.follow front back bound starts seen ways).Only p.code s := by
  induction bound generalizing starts seen ways with
  | zero =>
    rw [follow]
    exact hways
  | succ bound ih =>
    cases starts with
    | nil =>
      rw [follow]
      · exact hways
      · exact nofun
    | cons i rest =>
      obtain ⟨hi, hrest⟩ := List.forall_mem_cons.mp hstarts
      by_cases hseen : seen.getD i true = true
      · rw [follow_seen hseen]
        exact ih hsize hrest hways
      · -- The instruction leaves its way, and those that it opens are followed in its place.
        obtain ⟨x, hx⟩ := exists_of_not_seen hsize hseen
        rw [follow_unseen hseen hx]
        refine ih (by rw [Array.size_setIfInBounds, hsize]) ?_ (hways.add hi hx)
        intro j hj
        rcases List.mem_append.mp hj with hopened | hj
        · exact hclosed i j hi ⟨x, hx, hopened⟩
        · exact hrest j hj

/-- What is out of bounds counts as seen, so that something unseen is noted as such. -/
theorem not_getD_true_iff {seen : Array Bool} {i : Nat} :
    ¬seen.getD i true = true ↔ seen[i]? = some false := by
  rw [Array.getD_eq_getD_getElem?]
  cases seen[i]? with
  | none => simp
  | some b => simp

/-- Seen is now what was seen before, and one more instruction. -/
theorem getD_setIfInBounds {seen : Array Bool} {i j : Nat} (hi : ¬seen.getD i true = true) :
    (seen.setIfInBounds i true).getD j true = true ↔ j = i ∨ seen.getD j true = true := by
  obtain ⟨hlt, -⟩ := Array.getElem?_eq_some_iff.mp (not_getD_true_iff.mp hi)
  by_cases hij : i = j
  · subst hij
    rw [Array.getD_eq_getD_getElem?, Array.getElem?_setIfInBounds_self_of_lt hlt]
    exact iff_of_true rfl (.inl rfl)
  · rw [Array.getD_eq_getD_getElem?, Array.getElem?_setIfInBounds_ne hij,
      ← Array.getD_eq_getD_getElem?]
    exact (or_iff_right (Ne.symm hij)).symm

/-- One instruction fewer is left that was not seen. -/
theorem count_setIfInBounds {seen : Array Bool} {i : Nat} (hi : ¬seen.getD i true = true) :
    (seen.setIfInBounds i true).toList.count false + 1 = seen.toList.count false := by
  obtain ⟨hlt, hfalse⟩ := Array.getElem?_eq_some_iff.mp (not_getD_true_iff.mp hi)
  have hmem : false ∈ seen.toList := Array.mem_toList_iff.mpr (hfalse ▸ Array.getElem_mem hlt)
  have hpos : 0 < seen.toList.count false := List.count_pos_iff.mpr hmem
  rw [Array.toList_setIfInBounds, List.count_set (by simpa using hlt)]
  simp only [Array.getElem_toList, hfalse, beq_self_eq_true, if_true, Bool.true_beq,
    Bool.false_eq_true, if_false]
  omega

/-- An instruction opens the way to two others at most. -/
theorem length_opened_le (x : Instruction) : (x.opened front back).length ≤ 2 := by
  cases x with
  | look l next =>
    rw [Instruction.opened]
    split
    · exact Nat.le_succ 1
    · exact Nat.zero_le 2
  | fork a b => exact Nat.le_refl 2
  | _ => exact Nat.zero_le 2

/-- Whether an instruction has been seen or is still to be followed. -/
def Known (starts : List Nat) (seen : Array Bool) (i : Nat) : Prop :=
  i ∈ starts ∨ seen.getD i true = true

/-- Whether what has been followed so far is in order: the ways are those of the instructions that
have been seen, and what these open is known too. -/
def InOrder (p : Program) (front back : Option Char) (starts : List Nat) (seen : Array Bool)
    (ways : Ways) : Prop :=
  ∀ i x, seen.getD i true = true → p.code[i]? = some x →
    ways.Has x ∧ ∀ j ∈ x.opened front back, Known starts seen j

/-- What has been seen need not be followed to be known. -/
theorem Known.of_seen {j : Nat} (h : Known (i :: rest) seen j) (hi : seen.getD i true = true) :
    Known rest seen j := by
  rcases h with hmem | hj
  · rcases List.mem_cons.mp hmem with rfl | hj
    · exact .inr hi
    · exact .inl hj
  · exact .inr hj

/-- What is followed now has been seen from then on. -/
theorem Known.unseen {j : Nat} (h : Known (i :: rest) seen j) (hi : ¬seen.getD i true = true)
    (opened : List Nat) : Known (opened ++ rest) (seen.setIfInBounds i true) j := by
  rw [Known, List.mem_append, getD_setIfInBounds hi]
  rcases h with hmem | hj
  · rcases List.mem_cons.mp hmem with rfl | hj
    · exact .inr (.inl rfl)
    · exact .inl (.inr hj)
  · exact .inr (.inr hj)

/-- What has been seen stays in order when an instruction is left out that has been seen before. -/
theorem InOrder.of_seen (h : p.InOrder front back (i :: rest) seen ways)
    (hi : seen.getD i true = true) : p.InOrder front back rest seen ways := by
  intro j x hj hx
  obtain ⟨hhas, hopened⟩ := h j x hj hx
  exact ⟨hhas, fun k hk => (hopened k hk).of_seen hi⟩

/-- What has been seen stays in order when the next instruction is followed. -/
theorem InOrder.unseen {x : Instruction} (h : p.InOrder front back (i :: rest) seen ways)
    (hi : ¬seen.getD i true = true) (hx : p.code[i]? = some x) :
    p.InOrder front back (x.opened front back ++ rest) (seen.setIfInBounds i true)
      (ways.add x) := by
  intro j y hj hy
  rcases (getD_setIfInBounds hi).mp hj with rfl | hseen
  · obtain rfl := Option.some.inj (hx.symm.trans hy)
    exact ⟨ways.has_add_self x, fun k hk => .inl (List.mem_append_left rest hk)⟩
  · obtain ⟨hhas, hopened⟩ := h j y hseen hy
    exact ⟨hhas.add x, fun k hk => (hopened k hk).unseen hi _⟩

/-- Whether a set is closed under what its instructions open, and the ways are all that they
give. -/
structure Closes (p : Program) (front back : Option Char) (s : Nat → Prop) (ways : Ways) :
    Prop where
  closed : ∀ i j, s i → Opens p.code front back i j → s j
  has : ∀ i x, s i → p.code[i]? = some x → ways.Has x

/-- Where nothing is left to follow, the instructions that have been seen are closed. -/
theorem InOrder.exists_closes (h : p.InOrder front back [] seen ways) :
    ∃ s, (∀ i, Known [] seen i → s i) ∧ p.Closes front back s ways := by
  refine ⟨fun i => seen.getD i true = true, fun i hi => hi.resolve_left List.not_mem_nil, ?_,
    fun i x hi hx => (h i x hi hx).1⟩
  rintro i j hi ⟨x, hx, hj⟩
  exact ((h i x hi hx).2 j hj).resolve_left List.not_mem_nil

/-- All is found that lies open: the instructions that have been seen in the end are closed. An
instruction that was not seen takes one off those that were not, and adds two at most to those to
follow. -/
theorem exists_closes_follow (hsize : seen.size = p.code.size)
    (hbound : starts.length + 2 * seen.toList.count false ≤ bound)
    (horder : p.InOrder front back starts seen ways) :
    ∃ s, (∀ i, Known starts seen i → s i) ∧
      p.Closes front back s (p.follow front back bound starts seen ways) := by
  induction bound generalizing starts seen ways with
  | zero =>
    obtain rfl : starts = [] := List.length_eq_zero_iff.mp (by omega)
    rw [follow]
    exact horder.exists_closes
  | succ bound ih =>
    cases starts with
    | nil =>
      rw [follow]
      · exact horder.exists_closes
      · exact nofun
    | cons i rest =>
      rw [List.length_cons] at hbound
      by_cases hseen : seen.getD i true = true
      · rw [follow_seen hseen]
        obtain ⟨s, hs, hcloses⟩ := ih hsize (by omega) (horder.of_seen hseen)
        exact ⟨s, fun j hj => hs j (hj.of_seen hseen), hcloses⟩
      · obtain ⟨x, hx⟩ := exists_of_not_seen hsize hseen
        -- The unseen instruction that is used up makes up for the two that may be opened.
        have hcount := count_setIfInBounds hseen
        have hopened : (x.opened front back).length ≤ 2 := length_opened_le x
        rw [follow_unseen hseen hx]
        obtain ⟨s, hs, hcloses⟩ := ih (by rw [Array.size_setIfInBounds, hsize])
          (by rw [List.length_append]; omega) (horder.unseen hseen hx)
        exact ⟨s, fun j hj => hs j (hj.unseen hseen _), hcloses⟩

/-- Whether an instruction lies open between two characters, given those to go on with. -/
def Reached (p : Program) (front back : Option Char) (starts : List Nat) (i : Nat) : Prop :=
  ∃ start ∈ starts, Relation.ReflTransGen (Opens p.code front back) start i

/-- The ways from some instructions are those of the instructions that lie open. -/
theorem waysFrom_spec (p : Program) (front back : Option Char) (starts : List Nat) :
    (p.waysFrom front back starts).Only p.code (p.Reached front back starts) ∧
      ∀ i x, p.Reached front back starts i → p.code[i]? = some x →
        (p.waysFrom front back starts).Has x := by
  have hsize : (Array.replicate p.code.size false).size = p.code.size := Array.size_replicate
  constructor
  · -- Only what is reached is followed.
    refine only_follow ?_ hsize ?_ ⟨fun way hmem => absurd hmem List.not_mem_nil, nofun⟩
    · rintro i j ⟨start, hmem, hreach⟩ hopens
      exact ⟨start, hmem, hreach.tail hopens⟩
    · exact fun i hi => ⟨i, hi, .refl⟩
  · -- Nothing is seen at first, which is in order and within the bound.
    have hcount : (Array.replicate p.code.size false).toList.count false = p.code.size := by
      rw [Array.toList_replicate, List.count_replicate_self]
    have horder : p.InOrder front back starts (Array.replicate p.code.size false) {} := by
      intro i x hi hx
      obtain ⟨hlt, -⟩ := Array.getElem?_eq_some_iff.mp hx
      refine absurd hi (not_getD_true_iff.mpr ?_)
      rw [Array.getElem?_replicate, if_pos hlt]
    have hbound : starts.length + 2 * (Array.replicate p.code.size false).toList.count false ≤
        2 * p.code.size + starts.length + 1 := by omega
    obtain ⟨s, hs, hcloses⟩ := exists_closes_follow hsize hbound horder
    rintro i x ⟨start, hmem, hreach⟩ hx
    -- The closed set has the starts, and with them all that is reached from there.
    have hi : s i := by
      clear hx
      induction hreach with
      | refl => exact hs start (.inl hmem)
      | tail _ hopens ih => exact hcloses.closed _ _ ih hopens
    exact hcloses.has i x hi hx

end Program

/-! ## Searching -/

/-- A step from an instruction goes to one that it opens, or behind a character that it takes. -/
theorem Instruction.Steps.cases {x : Instruction} {p q : Place} {j : Nat} (h : x.Steps p j q) :
    (j ∈ x.opened p.front p.rest.head? ∧ q = p) ∨ ∃ rs, x = .take rs j ∧ p.Takes rs q := by
  cases h with
  | take hpq => exact .inr ⟨_, rfl, hpq⟩
  | look hl =>
    refine .inl ⟨?_, rfl⟩
    rw [opened, if_pos hl]
    exact List.mem_cons_self
  | left => exact .inl ⟨List.mem_cons_self, rfl⟩
  | right => exact .inl ⟨List.mem_cons_of_mem _ List.mem_cons_self, rfl⟩

/-- What an instruction opens is reached without reading a character. -/
theorem Instruction.steps_of_mem_opened {x : Instruction} {p : Place} {j : Nat}
    (h : j ∈ x.opened p.front p.rest.head?) : x.Steps p j p := by
  cases x with
  | take rs next => exact absurd h List.not_mem_nil
  | look l next =>
    rw [opened] at h
    split at h
    · next hl =>
      obtain rfl := List.mem_singleton.mp h
      exact .look hl
    · exact absurd h List.not_mem_nil
  | fork a b =>
    rcases List.mem_cons.mp h with rfl | h
    · exact .left
    · obtain rfl := List.mem_singleton.mp h
      exact .right
  | accept => exact absurd h List.not_mem_nil

/-- A run that accepts goes through open instructions to one that accepts, or to one that takes the
next character. -/
theorem accepts_iff {code : Array Instruction} {i : Nat} {p : Place} :
    Accepts code i p ↔ ∃ j, Relation.ReflTransGen (Opens code p.front p.rest.head?) i j ∧
      (code[j]? = some .accept ∨ ∃ rs next q, code[j]? = some (.take rs next) ∧ p.Takes rs q ∧
        Accepts code next q) := by
  constructor
  · rintro ⟨n, hn⟩
    induction hn with
    | accept hi => exact ⟨_, .refl, .inl hi⟩
    | step hi hstep hn ih =>
      -- A step opens an instruction at the same place, or takes a character behind the open ways.
      rcases hstep.cases with ⟨hopened, rfl⟩ | ⟨rs, rfl, htakes⟩
      · obtain ⟨k, hreach, hk⟩ := ih
        exact ⟨k, .head ⟨_, hi, hopened⟩ hreach, hk⟩
      · exact ⟨_, .refl, .inr ⟨rs, _, _, hi, htakes, _, hn⟩⟩
  · rintro ⟨j, hreach, hj⟩
    -- Nothing is read along the open ways, so that the run is led back to where they start.
    induction hreach using Relation.ReflTransGen.head_induction_on with
    | refl =>
      rcases hj with hj | ⟨rs, next, q, hj, htakes, hq⟩
      · exact ⟨0, .accept hj⟩
      · exact hq.step hj (.take htakes)
    | head hopens _ ih =>
      obtain ⟨x, hx, hopened⟩ := hopens
      exact ih.step hx (Instruction.steps_of_mem_opened hopened)

/-- A character is taken at the next place. -/
theorem takes_iff {rs : Text.Ranges} {front : Option Char} {text : List Char} {q : Place} :
    Place.Takes rs ⟨front, text⟩ q ↔
      ∃ c cs, text = c :: cs ∧ rs.has c.toNat = true ∧ q = ⟨some c, cs⟩ := by
  constructor
  · rintro ⟨c, hc, hrest, hfront⟩
    exact ⟨c, q.rest, hrest, hc, by rw [Place.mk.injEq]; exact ⟨hfront, rfl⟩⟩
  · rintro ⟨c, cs, rfl, hc, rfl⟩
    exact ⟨c, hc, rfl, rfl⟩

namespace Program

variable {p : Program} {front : Option Char} {starts : List Nat}

/-- At the end a run accepts if an open instruction does. -/
theorem accepted_iff_nil :
    (p.waysFrom front none starts).accepted = true ↔
      ∃ i ∈ starts, Accepts p.code i ⟨front, []⟩ := by
  obtain ⟨honly, hall⟩ := waysFrom_spec p front none starts
  constructor
  · intro h
    obtain ⟨j, ⟨i, hi, hreach⟩, hj⟩ := honly.accepted h
    exact ⟨i, hi, accepts_iff.mpr ⟨j, hreach, .inl hj⟩⟩
  · rintro ⟨i, hi, haccepts⟩
    obtain ⟨j, hreach, hj | ⟨rs, next, q, -, htakes, -⟩⟩ := accepts_iff.mp haccepts
    · exact hall j _ ⟨i, hi, hreach⟩ hj
    · obtain ⟨c, cs, hnil, -⟩ := takes_iff.mp htakes
      exact absurd hnil nofun

/-- Where to go on behind a character. -/
def onward (ways : Ways) (c : Char) : List Nat :=
  ways.takes.filterMap fun (rs, next) => if rs.has c.toNat then some next else none

/-- The places behind a character are those of the ways whose ranges have it. -/
theorem mem_onward_iff {ways : Ways} {c : Char} {next : Nat} :
    next ∈ onward ways c ↔ ∃ rs, (rs, next) ∈ ways.takes ∧ rs.has c.toNat = true := by
  simp only [onward, List.mem_filterMap, Prod.exists, Option.ite_none_right_eq_some,
    Option.some.injEq]
  exact ⟨fun ⟨rs, _, hmem, hc, rfl⟩ => ⟨rs, hmem, hc⟩,
    fun ⟨rs, hmem, hc⟩ => ⟨rs, next, hmem, hc, rfl⟩⟩

/-- In front of a character a run accepts if an open instruction does, or if one that is gone on
with behind the character does. -/
theorem accepted_or_iff_cons {c : Char} {cs : List Char} :
    ((p.waysFrom front (some c) starts).accepted = true ∨
      ∃ i ∈ onward (p.waysFrom front (some c) starts) c, Accepts p.code i ⟨some c, cs⟩) ↔
      ∃ i ∈ starts, Accepts p.code i ⟨front, c :: cs⟩ := by
  obtain ⟨honly, hall⟩ := waysFrom_spec p front (some c) starts
  constructor
  · rintro (h | ⟨next, hnext, haccepts⟩)
    · obtain ⟨j, ⟨i, hi, hreach⟩, hj⟩ := honly.accepted h
      exact ⟨i, hi, accepts_iff.mpr ⟨j, hreach, .inl hj⟩⟩
    · obtain ⟨rs, hmem, hc⟩ := mem_onward_iff.mp hnext
      obtain ⟨j, ⟨i, hi, hreach⟩, hj⟩ := honly.takes _ hmem
      exact ⟨i, hi, accepts_iff.mpr
        ⟨j, hreach, .inr ⟨rs, next, _, hj, takes_iff.mpr ⟨c, cs, rfl, hc, rfl⟩, haccepts⟩⟩⟩
  · rintro ⟨i, hi, haccepts⟩
    -- The run ends among the open instructions, or one of them takes the character.
    obtain ⟨j, hreach, hj | ⟨rs, next, q, hj, htakes, hq⟩⟩ := accepts_iff.mp haccepts
    · exact .inl (hall j _ ⟨i, hi, hreach⟩ hj)
    · obtain ⟨d, ds, heq, hd, rfl⟩ := takes_iff.mp htakes
      obtain ⟨rfl, rfl⟩ := List.cons.inj heq
      exact .inr ⟨next, mem_onward_iff.mpr ⟨rs, hall j _ ⟨i, hi, hreach⟩ hj, hd⟩, hq⟩

/-- A search succeeds exactly if a run accepts from where the text in front led to, or one from the
start at any place ahead. -/
theorem search_iff {rest : List Char} :
    p.search front starts rest = true ↔
      (∃ i ∈ starts, Accepts p.code i ⟨front, rest⟩) ∨
        ∃ q, Place.Ahead ⟨front, rest⟩ q ∧ Accepts p.code p.start q := by
  induction rest generalizing front starts with
  | nil =>
    rw [search, accepted_iff_nil, List.exists_mem_cons_iff]
    simp only [Place.ahead_nil_iff, exists_eq_left', or_comm]
  | cons c cs ih =>
    -- A match goes on that started in front, or one starts here.
    have hhere :
        ((p.waysFrom front (some c) (p.start :: starts)).accepted = true ∨
          ∃ i ∈ onward (p.waysFrom front (some c) (p.start :: starts)) c,
            Accepts p.code i ⟨some c, cs⟩) ↔
        Accepts p.code p.start ⟨front, c :: cs⟩ ∨
          ∃ i ∈ starts, Accepts p.code i ⟨front, c :: cs⟩ := by
      rw [accepted_or_iff_cons, List.exists_mem_cons_iff]
    -- A match that is complete ends the search, which goes on behind the character otherwise.
    have hsearch : p.search front starts (c :: cs) = true ↔
        (p.waysFrom front (some c) (p.start :: starts)).accepted = true ∨
          p.search (some c) (onward (p.waysFrom front (some c) (p.start :: starts)) c) cs =
            true := by
      rw [search]
      dsimp only
      split
      · next h => exact iff_of_true rfl (.inl h)
      · next h => exact (or_iff_right h).symm
    rw [hsearch, ih, ← or_assoc, hhere]
    simp only [Place.ahead_cons_iff, or_and_right, exists_or, exists_eq_left']
    rw [or_assoc, or_left_comm]

end Program

/-- The search finds an expression exactly if it matches a part of the subject. -/
theorem Regex.search_iff {r : Regex} {subject : List Char} :
    r.search subject = true ↔ r.Occurs subject := by
  rw [search, Program.search_iff]
  simp only [List.not_mem_nil, false_and, exists_false, false_or, Regex.accepts_program_iff]
  exact ⟨fun ⟨p, hp, q, hpq⟩ => ⟨p, q, hp, hpq⟩, fun ⟨p, q, hp, hpq⟩ => ⟨p, hp, q, hpq⟩⟩

end AccessPolicy.Pattern
