import AccessPolicy.Text.LowerCase
import Mathlib.Data.List.Basic
import Mathlib.Tactic.SplitIfs

/-!
# Lower-casing is idempotent

`lowercase_lowercase` shows that a text in lower case is its own lower-case form. Slots are
lower-cased on every way into a tree and again on every look-up, so the equality of slots rests on
it.

The proof is about characters. A lowered character (`IsLowered`) is one that lower-casing leaves as
it is, wherever it stands, and every character that lower-casing gives is lowered. For the table of
runs this is a statement about intervals: what one run maps to lies outside of all runs, or, where
capital and small letters alternate, between the letters of its own run. `evades` is that statement
for two runs, in a form that the kernel evaluates on the table's ends and not on its letters.
-/

namespace AccessPolicy.Text

namespace CaseRun

/-- What a run maps a code point to. -/
def image (r : CaseRun) (n : Nat) : Nat :=
  ((n : Int) + r.shift).toNat

/-- Whether the images of `r` miss the code points that `r'` maps: they lie below them, above them,
or, if `r'` maps every second code point, between them. -/
def evades (r r' : CaseRun) : Bool :=
  (r.image r.last).blt r'.first || r'.last.blt (r.image r.first) ||
    (r'.step == 2 && (r.step == 2 || r.first == r.last) && (r'.first + 1).ble (r.image r.first) &&
      (r.image r.first - r'.first) % 2 == 1)

/-- A run maps no image of a run that evades it. -/
theorem maps_image_eq_false {r r' : CaseRun} (h : r.evades r') {n : Nat} (hn : r.maps n) :
    r'.maps (r.image n) = false := by
  simp only [maps, Bool.and_eq_true, decide_eq_true_eq, beq_iff_eq] at hn
  obtain ⟨⟨hfirst, hlast⟩, hstep⟩ := hn
  rw [Bool.eq_false_iff]
  intro hm
  simp only [maps, Bool.and_eq_true, decide_eq_true_eq, beq_iff_eq] at hm
  obtain ⟨⟨hfirst', hlast'⟩, hstep'⟩ := hm
  simp only [evades, image, Bool.or_eq_true, Bool.and_eq_true, Nat.blt_eq, Nat.ble_eq,
    beq_iff_eq] at h hfirst' hlast' hstep'
  -- Images rise with the code points, so the ends of `r` bound all of them from both sides.
  rcases h with (hbelow | habove) | ⟨⟨⟨htwo, hspan⟩, hafter⟩, hodd⟩
  · omega
  · omega
  · -- All images have the parity of the first one, which is not that of the letters of `r'`.
    rw [htwo] at hstep'
    rcases hspan with hspan | hspan
    · rw [hspan] at hstep
      omega
    · omega

/-- A code point that no run maps is its own image. -/
theorem apply_of_forall {runs : List CaseRun} {n : Nat} (h : ∀ r ∈ runs, r.maps n = false) :
    apply runs n = n := by
  have hnone : runs.find? (·.maps n) = none :=
    List.find?_eq_none.mpr fun r hr => by rw [h r hr]; exact Bool.false_ne_true
  rw [apply, hnone]

/-- A code point is its own image, or it is mapped by a run that gives its image. -/
theorem apply_eq_or (runs : List CaseRun) (n : Nat) :
    (∀ r ∈ runs, r.maps n = false) ∨ ∃ r ∈ runs, r.maps n ∧ apply runs n = r.image n := by
  rcases hfind : runs.find? (·.maps n) with _ | r
  · exact .inl fun r hr => Bool.eq_false_iff.mpr (List.find?_eq_none.mp hfind r hr)
  · have hmaps : r.maps n := by simpa using List.find?_some hfind
    refine .inr ⟨r, List.mem_of_find?_eq_some hfind, hmaps, ?_⟩
    rw [apply, hfind]
    rfl

end CaseRun

/-! ## The table of lower-case mappings -/

/-- The dotted capital I, which has a lower-case form of two characters, as a run. -/
def dottedCapital : CaseRun :=
  ⟨0x130, 0x130, 1, 0⟩

/-- Nothing that has a lower-case form other than itself is the image of a run. -/
theorem evades_lowerRuns :
    (lowerRuns.all fun r => (dottedCapital :: lowerRuns).all r.evades) = true := by
  decide +kernel

/-- The images of a run are characters. -/
theorem image_isValidChar :
    (lowerRuns.all fun r => (r.image r.last).blt 0xD800 ||
      (Nat.blt 0xDFFF (r.image r.first) && (r.image r.last).blt 0x110000)) = true := by
  decide +kernel

/-- No run maps the image of a run, and neither is it the dotted capital I. -/
theorem maps_image_lowerRuns {r : CaseRun} (hr : r ∈ lowerRuns) {n : Nat} (hn : r.maps n) :
    ∀ r' ∈ dottedCapital :: lowerRuns, r'.maps (r.image n) = false := by
  intro r' hr'
  have hall := List.all_eq_true.mp evades_lowerRuns r hr
  exact CaseRun.maps_image_eq_false (List.all_eq_true.mp hall r' hr') hn

/-- The image of a code point that a run maps is a character. -/
theorem isValidChar_image {r : CaseRun} (hr : r ∈ lowerRuns) {n : Nat} (hn : r.maps n) :
    (r.image n).isValidChar := by
  have hvalid := List.all_eq_true.mp image_isValidChar r hr
  simp only [CaseRun.maps, Bool.and_eq_true, decide_eq_true_eq] at hn
  simp only [CaseRun.image, Bool.or_eq_true, Bool.and_eq_true, Nat.blt_eq] at hvalid
  simp only [Nat.isValidChar, CaseRun.image]
  omega

/-! ## Lowered characters -/

/-- A character that lower-casing leaves as it is, wherever it stands. -/
def IsLowered (c : Char) : Prop :=
  c ≠ 'Σ' ∧ lowerChar c = [c]

instance : DecidablePred IsLowered :=
  fun c => inferInstanceAs (Decidable (c ≠ 'Σ' ∧ lowerChar c = [c]))

/-- A character that is not a capital letter of ASCII has itself as its lower-case form. -/
theorem toLower_of_not_capital {c : Char} (h : ¬(0x41 ≤ c.toNat ∧ c.toNat ≤ 0x5A)) :
    c.toLower = c := by
  unfold Char.toLower
  exact dif_neg h

/-- A character is lowered if its code point has no lower-case form other than itself. -/
theorem isLowered_of_forall {c : Char}
    (h : ∀ r ∈ dottedCapital :: lowerRuns, r.maps c.toNat = false) : IsLowered c := by
  have hdotted : dottedCapital.maps c.toNat = false := h dottedCapital List.mem_cons_self
  have hruns : ∀ r ∈ lowerRuns, r.maps c.toNat = false := fun r hr =>
    h r (List.mem_cons_of_mem _ hr)
  refine ⟨?_, ?_⟩
  · rintro rfl
    -- A sigma has a lower-case form, so that it is ruled out by its run.
    have hsigma : lowerRuns.any (·.maps 'Σ'.toNat) = true := by decide
    obtain ⟨r, hr, hmaps⟩ := List.any_eq_true.mp hsigma
    exact absurd hmaps (Bool.eq_false_iff.mp (hruns r hr))
  · have hcapital : CaseRun.maps ⟨0x41, 0x5A, 1, 32⟩ c.toNat = false :=
      hruns _ List.mem_cons_self
    unfold lowerChar
    -- The letters of ASCII are lowered on their own, the dotted capital and the others by the runs.
    split_ifs with hascii hdot
    · simp only [CaseRun.maps, Nat.mod_one, beq_self_eq_true, Bool.and_true, Bool.and_eq_false_iff,
        decide_eq_false_iff_not] at hcapital
      rw [toLower_of_not_capital (by omega)]
    · subst hdot
      exact absurd hdotted (by decide)
    · rw [CaseRun.apply_of_forall hruns, Char.ofNat_toNat]

/-- The lower-case form of a letter of ASCII is lowered. -/
theorem isLowered_toLower : ∀ n < 0x80, IsLowered (Char.ofNat n).toLower := by
  decide

/-- The lower-case form of a character is made of lowered characters. -/
theorem isLowered_of_mem_lowerChar {c d : Char} (hd : d ∈ lowerChar c) : IsLowered d := by
  unfold lowerChar at hd
  -- The same three cases: ASCII, the dotted capital, and what a run of code points maps.
  split_ifs at hd with hascii hdot
  · rw [List.mem_singleton.mp hd, ← Char.ofNat_toNat c]
    exact isLowered_toLower c.toNat hascii
  · rcases List.mem_pair.mp hd with rfl | rfl <;> decide
  · obtain rfl := List.mem_singleton.mp hd
    rcases CaseRun.apply_eq_or lowerRuns c.toNat with hnone | ⟨r, hr, hmaps, himage⟩
    · -- What no run maps stays as it is.
      rw [CaseRun.apply_of_forall hnone, Char.ofNat_toNat]
      refine isLowered_of_forall fun r hr => ?_
      rcases List.mem_cons.mp hr with rfl | hr
      · refine Bool.eq_false_iff.mpr fun hmaps => hdot (Char.toNat_inj.mp ?_)
        obtain ⟨⟨hlow, hhigh⟩, -⟩ := by
          simpa only [CaseRun.maps, Bool.and_eq_true, decide_eq_true_eq] using hmaps
        exact Nat.le_antisymm hhigh hlow
      · exact hnone r hr
    · -- What a run maps comes to a code point that no run maps again.
      have hvalid := isValidChar_image hr hmaps
      have htoNat : (Char.ofNat (r.image c.toNat)).toNat = r.image c.toNat := by
        rw [Char.ofNat, dif_pos hvalid]
        rfl
      rw [himage]
      refine isLowered_of_forall ?_
      rw [htoNat]
      exact maps_image_lowerRuns hr hmaps

/-- Whatever stands before it, a text in lower case is made of lowered characters. -/
theorem isLowered_of_mem_lowerAfter {before cs : List Char} {d : Char}
    (hd : d ∈ lowerAfter before cs) : IsLowered d := by
  induction cs generalizing before with
  | nil => simp [lowerAfter] at hd
  | cons c cs ih =>
    rw [lowerAfter, List.mem_append] at hd
    rcases hd with hd | hd
    · -- A sigma is written as one of two letters, which both are lowered.
      split_ifs at hd
      · rw [List.mem_singleton.mp hd]
        decide
      · rw [List.mem_singleton.mp hd]
        decide
      · exact isLowered_of_mem_lowerChar hd
    · exact ih hd

/-- Lower-casing leaves a text of lowered characters as it is. -/
theorem lowerAfter_of_isLowered {cs : List Char} (h : ∀ c ∈ cs, IsLowered c)
    (before : List Char) : lowerAfter before cs = cs := by
  induction cs generalizing before with
  | nil => rfl
  | cons c cs ih =>
    obtain ⟨hsigma, hlower⟩ := h c List.mem_cons_self
    rw [lowerAfter, if_neg hsigma, hlower, ih fun d hd => h d (List.mem_cons_of_mem c hd)]
    rfl

/-- A text in lower case is its own lower-case form. -/
theorem lowercase_lowercase (s : String) : lowercase (lowercase s) = lowercase s := by
  have h : ∀ c ∈ lowerAfter [] s.toList, IsLowered c := fun c hc => isLowered_of_mem_lowerAfter hc
  rw [lowercase, lowercase, String.toList_ofList, lowerAfter_of_isLowered h]

end AccessPolicy.Text
