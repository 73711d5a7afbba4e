import AccessPolicy.Proofs.Value.Parts
import AccessPolicy.Value.Order

/-!
# Equality of values

Conditions compare objects by looking each field of the first one up in the second one, besides the
number of fields. The names of either are distinct, so by counting they are the same names, and as
they stand in order, the objects are compared field by field (`equals_obj_iff`), just as arrays are
element by element. From that shape follow, each by induction over the values, that equality is
symmetric, that it fails where a literal that could not be read occurs at any depth, and that it is
equality of type and content where neither addresses nor networks nor such literals occur.
-/

namespace AccessPolicy

/-- A relation of lists may be exchanged for one that agrees with it on their elements. -/
theorem forall₂_congr_of_mem {α β : Type} {R S : α → β → Prop} {xs : List α} {ys : List β}
    (h : ∀ x ∈ xs, ∀ y ∈ ys, (R x y ↔ S x y)) : List.Forall₂ R xs ys ↔ List.Forall₂ S xs ys := by
  rw [List.forall₂_iff_zip, List.forall₂_iff_zip]
  refine and_congr_right fun _ => ⟨fun hR x y hxy => ?_, fun hS x y hxy => ?_⟩
  · obtain ⟨hx, hy⟩ := List.of_mem_zip hxy
    exact (h x hx y hy).mp (hR hxy)
  · obtain ⟨hx, hy⟩ := List.of_mem_zip hxy
    exact (h x hx y hy).mpr (hS hxy)

/-- In related lists each element of the first has one of the second to which it is related. -/
theorem exists_of_forall₂ {α β : Type} {R : α → β → Prop} {xs : List α} {ys : List β}
    (h : List.Forall₂ R xs ys) {x : α} (hx : x ∈ xs) : ∃ y ∈ ys, R x y := by
  induction h with
  | nil => exact absurd hx List.not_mem_nil
  | @cons x' y xs ys hxy _ ih =>
    rcases List.mem_cons.mp hx with rfl | hx
    · exact ⟨y, List.mem_cons_self, hxy⟩
    · obtain ⟨z, hz, hxz⟩ := ih hx
      exact ⟨z, List.mem_cons_of_mem y hz, hxz⟩

/-- A relation of lists, read from the other side. -/
theorem forall₂_swap {α β : Type} {R : α → β → Prop} {xs : List α} {ys : List β} :
    List.Forall₂ R xs ys ↔ List.Forall₂ (fun y x => R x y) ys xs :=
  ⟨List.Forall₂.flip, List.Forall₂.flip⟩

namespace Entries

variable {α β : Type}

/-- Entries in order with as many others, among which all of their names occur, have the same names
as these. -/
theorem Sorted.keys_eq {es : Entries α} {fs : Entries β} (hes : Sorted es) (hfs : Sorted fs)
    (hlength : es.length = fs.length) (hnames : ∀ e ∈ es, ∃ v, get? fs e.1 = some v) :
    es.map Prod.fst = fs.map Prod.fst := by
  have hes' : (es.map Prod.fst).Pairwise (· < ·) := List.pairwise_map.mpr hes
  have hfs' : (fs.map Prod.fst).Pairwise (· < ·) := List.pairwise_map.mpr hfs
  have hnodup : (es.map Prod.fst).Nodup := by
    refine hes'.imp fun {k l} hlt => ?_
    rintro rfl
    exact String.lt_irrefl k hlt
  have hsubset : es.map Prod.fst ⊆ fs.map Prod.fst := by
    intro k hk
    obtain ⟨e, he, rfl⟩ := List.mem_map.mp hk
    obtain ⟨v, hv⟩ := hnames e he
    exact List.mem_map.mpr ⟨_, mem_of_get? hv, rfl⟩
  -- Distinct names among as many others leave none of these out.
  have hperm : (es.map Prod.fst).Perm (fs.map Prod.fst) := by
    refine (List.subperm_of_subset hnodup hsubset).perm_of_length_le ?_
    rw [List.length_map, List.length_map, hlength]
  refine hperm.eq_of_pairwise (fun a b _ _ hab hba => ?_) hes' hfs'
  exact absurd (String.lt_trans hab hba) (String.lt_irrefl a)

/-- Two lists of entries with the same names, looked up from one in the other, are compared entry by
entry. -/
theorem forall₂_of_keys_eq {R : α → β → Prop} {es : Entries α} {fs : Entries β} (hfs : Sorted fs)
    (hkeys : es.map Prod.fst = fs.map Prod.fst)
    (h : ∀ e ∈ es, ∃ v, get? fs e.1 = some v ∧ R e.2 v) :
    List.Forall₂ (fun e f => e.1 = f.1 ∧ R e.2 f.2) es fs := by
  -- Entries at the same place have the same name, so that the look-up finds just that entry.
  have hnames : List.Forall₂ (fun e f => e.1 = f.1) es fs := by
    have hforall : List.Forall₂ (· = ·) (es.map Prod.fst) (fs.map Prod.fst) := by
      rw [List.forall₂_eq_eq_eq, hkeys]
    exact List.forall₂_map_right_iff.mp (List.forall₂_map_left_iff.mp hforall)
  rw [List.forall₂_iff_zip] at hnames ⊢
  refine ⟨hnames.1, fun {e f} hef => ?_⟩
  obtain ⟨he, hf⟩ := List.of_mem_zip hef
  have hname := hnames.2 hef
  obtain ⟨v, hget, hv⟩ := h e he
  rw [hname, get?_of_mem hfs hf] at hget
  exact ⟨hname, Option.some_inj.mp hget ▸ hv⟩

end Entries

namespace Value

open Decimal (sameNumber)

/-! ## Arrays and objects -/

/-- Arrays are equal if their elements are, one by one. -/
theorem equals_arr_iff {xs ys : List Value} :
    equals (.arr xs) (.arr ys) = true ↔ List.Forall₂ (fun x y => x.equals y = true) xs ys := by
  rw [equals]
  induction xs generalizing ys with
  | nil => cases ys <;> simp [equalItems]
  | cons x xs ih =>
    cases ys with
    | nil => simp [equalItems]
    | cons y ys => rw [equalItems, Bool.and_eq_true, ih, List.forall₂_cons]

/-- Arrays are the same if their elements are, one by one. -/
theorem same_arr_iff {xs ys : List Value} :
    same (.arr xs) (.arr ys) = true ↔ List.Forall₂ (fun x y => x.same y = true) xs ys := by
  rw [same]
  induction xs generalizing ys with
  | nil => cases ys <;> simp [sameItems]
  | cons x xs ih =>
    cases ys with
    | nil => simp [sameItems]
    | cons y ys => rw [sameItems, Bool.and_eq_true, ih, List.forall₂_cons]

/-- Objects are the same if their fields are, one by one. -/
theorem same_obj_iff {fs gs : List (String × Value)} :
    same (.obj fs) (.obj gs) = true ↔
      List.Forall₂ (fun f g => f.1 = g.1 ∧ f.2.same g.2 = true) fs gs := by
  rw [same]
  induction fs generalizing gs with
  | nil => cases gs <;> simp [sameFields]
  | cons f fs ih =>
    obtain ⟨k, x⟩ := f
    cases gs with
    | nil => simp [sameFields]
    | cons g gs =>
      obtain ⟨l, y⟩ := g
      rw [sameFields, Bool.and_eq_true, Bool.and_eq_true, beq_iff_eq, ih, List.forall₂_cons]

/-- Each of the first fields has an equal one of its name among the second. -/
theorem equalFields_iff {fs gs : List (String × Value)} :
    equalFields fs gs = true ↔
      ∀ f ∈ fs, ∃ y, Entries.get? gs f.1 = some y ∧ f.2.equals y = true := by
  induction fs with
  | nil => exact iff_of_true rfl fun f hf => absurd hf List.not_mem_nil
  | cons f fs ih =>
    obtain ⟨k, x⟩ := f
    rw [equalFields, Bool.and_eq_true, ih, List.forall_mem_cons]
    refine and_congr_left fun _ => ?_
    cases Entries.get? gs k with
    | none => exact iff_of_false Bool.false_ne_true nofun
    | some y => simp only [Option.some.injEq, exists_eq_left']

/-- Objects with their fields in order are equal if their fields are, one by one. -/
theorem equals_obj_iff {fs gs : List (String × Value)} (hfs : Entries.Sorted fs)
    (hgs : Entries.Sorted gs) :
    equals (.obj fs) (.obj gs) = true ↔
      List.Forall₂ (fun f g => f.1 = g.1 ∧ f.2.equals g.2 = true) fs gs := by
  rw [equals, Bool.and_eq_true, beq_iff_eq, equalFields_iff]
  constructor
  · rintro ⟨hlength, hequal⟩
    have hkeys := hfs.keys_eq hgs hlength fun f hf =>
      (hequal f hf).imp fun y hy => hy.1
    exact Entries.forall₂_of_keys_eq (R := fun x y => x.equals y = true) hgs hkeys hequal
  · intro h
    refine ⟨h.length_eq, fun f hf => ?_⟩
    -- The field at the same position is the one that is found.
    obtain ⟨g, hg, hname, hequal⟩ := exists_of_forall₂ h hf
    exact ⟨g.2, hname ▸ Entries.get?_of_mem hgs hg, hequal⟩

/-! ## Symmetry -/

/-- To be the same number does not depend on the order. -/
theorem sameNumber_comm (x y : Float) : sameNumber x y = sameNumber y x := by
  rw [sameNumber, sameNumber, Decimal.order?_swap x y]
  cases Decimal.order? x y with
  | none => rfl
  | some o => cases o <;> rfl

/-- Equality of a scalar is symmetric. -/
theorem equals_comm_of_isScalar {v : Value} (hv : v.isScalar = true) (w : Value) :
    v.equals w = w.equals v := by
  cases v <;> cases w
  case bool.bool | int.int | str.str | address.address | instant.instant | network.network =>
    simp only [equals]
    exact BEq.comm
  case float.float x y =>
    simp only [equals]
    exact sameNumber_comm x y
  case arr.arr | obj.obj => exact absurd hv Bool.false_ne_true
  all_goals simp only [equals]

/-- Equality of well-formed values is symmetric. -/
theorem equals_comm {v w : Value} (hv : v.WellFormed) (hw : w.WellFormed) :
    v.equals w = w.equals v := by
  induction v using nestedInduction generalizing w with
  | scalar v hscalar => exact equals_comm_of_isScalar hscalar w
  | arr xs ih =>
    -- Lists are equal element by element, and the elements are compared the other way round.
    cases w with
    | arr ys =>
      rw [Bool.eq_iff_iff, equals_arr_iff, equals_arr_iff, forall₂_swap]
      refine forall₂_congr_of_mem fun y hy x hx => ?_
      rw [ih x hx (forall_parts_of_mem_items hv hx) (forall_parts_of_mem_items hw hy)]
    | _ => simp only [equals]
  | obj fs ih =>
    cases w with
    | obj gs =>
      -- In order, both objects have their names at the same places.
      have hfs : Entries.Sorted fs := hv _ (mem_parts_obj.mpr (.inl rfl))
      have hgs : Entries.Sorted gs := hw _ (mem_parts_obj.mpr (.inl rfl))
      rw [Bool.eq_iff_iff, equals_obj_iff hfs hgs, equals_obj_iff hgs hfs, forall₂_swap]
      refine forall₂_congr_of_mem fun g hg f hf => ?_
      rw [ih f hf (forall_parts_of_mem_fields hv hf) (forall_parts_of_mem_fields hw hg), eq_comm]
    | _ => simp only [equals]

/-! ## Literals that could not be read -/

/-- Such a literal is no part of a value that equals another one. -/
theorem not_invalid_mem_parts {v w : Value} (h : v.equals w = true) (raw : String) :
    .invalid raw ∉ v.parts := by
  induction v using nestedInduction generalizing w with
  | scalar v hscalar =>
    rw [parts_of_isScalar hscalar, List.mem_singleton]
    rintro rfl
    -- What could not be read equals no value at all.
    cases w <;> simp only [equals, Bool.false_eq_true] at h
  | arr xs ih =>
    rw [mem_parts_arr]
    rintro (heq | ⟨x, hx, hmem⟩)
    · exact nomatch heq
    · cases w with
      | arr ys =>
        -- The part is in some element, which has an equal one on the other side.
        obtain ⟨y, -, hequal⟩ := exists_of_forall₂ (equals_arr_iff.mp h) hx
        exact ih x hx hequal hmem
      | _ => simp only [equals, Bool.false_eq_true] at h
  | obj fs ih =>
    rw [mem_parts_obj]
    rintro (heq | ⟨f, hf, hmem⟩)
    · exact nomatch heq
    · cases w with
      | obj gs =>
        rw [equals, Bool.and_eq_true, equalFields_iff] at h
        obtain ⟨y, -, hequal⟩ := h.2 f hf
        exact ih f hf hequal hmem
      | _ => simp only [equals, Bool.false_eq_true] at h

/-! ## Equality of type and content -/

/-- Whether a value is neither an address nor a network nor a literal that could not be read. -/
def isPlain : Value → Bool
  | .address _ => false
  | .network _ => false
  | .invalid _ => false
  | _ => true

/-- Where no address, no network and no literal that could not be read occurs, equality is equality
of type and content. -/
theorem equals_eq_same {v w : Value} (hv : v.WellFormed) (hw : w.WellFormed)
    (hplain : ∀ u ∈ v.parts, u.isPlain = true) : v.equals w = v.same w := by
  induction v using nestedInduction generalizing w with
  | scalar v hscalar =>
    -- A scalar is its own only part, so that the hypothesis is about itself.
    have hself : v.isPlain = true := hplain v (by rw [parts_of_isScalar hscalar]; simp)
    cases v with
    | arr => exact absurd hscalar Bool.false_ne_true
    | obj => exact absurd hscalar Bool.false_ne_true
    | address | network | invalid => exact absurd hself Bool.false_ne_true
    | null | bool | int | float | str | instant => cases w <;> simp only [equals, same]
  | arr xs ih =>
    cases w with
    | arr ys =>
      rw [Bool.eq_iff_iff, equals_arr_iff, same_arr_iff]
      refine forall₂_congr_of_mem fun x hx y hy => ?_
      rw [ih x hx (forall_parts_of_mem_items hv hx) (forall_parts_of_mem_items hw hy)
        (forall_parts_of_mem_items hplain hx)]
    | _ => simp only [equals, same]
  | obj fs ih =>
    cases w with
    | obj gs =>
      have hfs : Entries.Sorted fs := hv _ (mem_parts_obj.mpr (.inl rfl))
      have hgs : Entries.Sorted gs := hw _ (mem_parts_obj.mpr (.inl rfl))
      rw [Bool.eq_iff_iff, equals_obj_iff hfs hgs, same_obj_iff]
      refine forall₂_congr_of_mem fun f hf g hg => ?_
      rw [ih f hf (forall_parts_of_mem_fields hv hf) (forall_parts_of_mem_fields hw hg)
        (forall_parts_of_mem_fields hplain hf)]
    | _ => simp only [equals, same]

/-- Where no floating-point number occurs, values of the same type and content are identical. -/
theorem same_iff_eq {v w : Value} (hfloat : ∀ u ∈ v.parts, ∀ x, u ≠ .float x) :
    v.same w = true ↔ v = w := by
  induction v using nestedInduction generalizing w with
  | scalar v hscalar =>
    -- A scalar is its own only part, so that the hypothesis is about itself.
    have hself : ∀ x, v ≠ .float x := hfloat v (by rw [parts_of_isScalar hscalar]; simp)
    cases v with
    | arr => exact absurd hscalar Bool.false_ne_true
    | obj => exact absurd hscalar Bool.false_ne_true
    | float x => exact absurd rfl (hself x)
    | null | bool | int | str | address | instant | network | invalid => cases w <;> simp [same]
  | arr xs ih =>
    cases w with
    | arr ys =>
      have helements : ∀ x ∈ xs, ∀ y ∈ ys, (x.same y = true ↔ x = y) := fun x hx _ _ =>
        ih x hx (forall_parts_of_mem_items hfloat hx)
      rw [same_arr_iff, forall₂_congr_of_mem helements, List.forall₂_eq_eq_eq, arr.injEq]
    | _ => exact iff_of_false (by simp [same]) nofun
  | obj fs ih =>
    cases w with
    | obj gs =>
      have hfields : ∀ f ∈ fs, ∀ g ∈ gs, (f.1 = g.1 ∧ f.2.same g.2 = true ↔ f = g) := by
        intro f hf g _
        rw [ih f hf (forall_parts_of_mem_fields hfloat hf), Prod.ext_iff]
      rw [same_obj_iff, forall₂_congr_of_mem hfields, List.forall₂_eq_eq_eq, obj.injEq]
    | _ => exact iff_of_false (by simp [same]) nofun

/-- Equality of well-formed values is symmetric, and fails if a literal that could not be read is
part of either. If neither addresses nor networks nor such literals are parts of one of them,
equality is equality of type and content, and if no floating-point numbers are either, it is
identity. -/
theorem equals_laws {v w : Value} (hv : v.WellFormed) (hw : w.WellFormed) :
    v.equals w = w.equals v ∧
    (∀ raw, .invalid raw ∈ v.parts ∨ .invalid raw ∈ w.parts → v.equals w = false) ∧
    ((∀ u ∈ v.parts, u.isPlain = true) → v.equals w = v.same w ∧
      ((∀ u ∈ v.parts, ∀ x, u ≠ .float x) → (v.equals w = true ↔ v = w))) := by
  have hcomm := equals_comm hv hw
  refine ⟨hcomm, fun raw hmem => ?_, fun hplain => ?_⟩
  · -- In the second case the equation is turned round first.
    refine Bool.eq_false_iff.mpr fun hequal => ?_
    rcases hmem with hmem | hmem
    · exact not_invalid_mem_parts hequal raw hmem
    · exact not_invalid_mem_parts (hcomm ▸ hequal) raw hmem
  · have hsame := equals_eq_same hv hw hplain
    refine ⟨hsame, fun hfloat => ?_⟩
    rw [hsame]
    exact same_iff_eq hfloat

/-- A list with a network in it equals one with an address of that network in its place, whichever
stands first. With an address that cannot be read in it, it does not even equal itself. -/
theorem equals_laws_hosts :
    (ofLiterals (.obj [("hosts", .arr [.str "(*ip)10.1.2.3", .int 443])])).equals
        (ofLiterals (.obj [("hosts", .arr [.str "(*ip)10.0.0.0/8", .int 443])])) = true ∧
      (ofLiterals (.obj [("hosts", .arr [.str "(*ip)10.0.0.0/8", .int 443])])).equals
        (ofLiterals (.obj [("hosts", .arr [.str "(*ip)10.1.2.3", .int 443])])) = true ∧
      (ofLiterals (.arr [.str "(*ip)10.1.2.300"])).equals
        (ofLiterals (.arr [.str "(*ip)10.1.2.300"])) = false ∧
      ((ofLiterals (.arr [.str "db", .int 443])).equals (ofLiterals (.arr [.str "db", .int 443])) =
        true) := by
  have hport : (Json.int 443).Shaped (fun _ => True) 0 := (by decide : Json.FitsWord 443)
  have hshaped : ∀ host,
      (Json.obj [("hosts", .arr [.str host, .int 443])]).Shaped (fun _ => True) 2 :=
    fun host =>
      ⟨by decide, List.pairwise_singleton _ _, ⟨by decide, trivial, hport, trivial⟩, trivial⟩
  have hlist : ∀ items, Json.ShapedItems (fun _ => True) 0 items →
      (ofLiterals (.arr items)).WellFormed := by
    intro items hitems
    have harr : (Json.arr items).Shaped (fun _ => True) 1 := ⟨by decide, hitems⟩
    exact wellFormed_ofLiterals harr
  -- The address that cannot be read makes its list differ from itself.
  have hunread := hlist [.str "(*ip)10.1.2.300"] ⟨trivial, trivial⟩
  have hplain := hlist [.str "db", .int 443] ⟨trivial, hport, trivial⟩
  have hparts : (ofLiterals (.arr [.str "db", .int 443])).parts =
      [.arr [.str "db", .int 443], .str "db", .int 443] := rfl
  obtain ⟨hcomm, -, -⟩ := equals_laws (wellFormed_ofLiterals (hshaped "(*ip)10.1.2.3"))
    (wellFormed_ofLiterals (hshaped "(*ip)10.0.0.0/8"))
  obtain ⟨-, hinvalid, -⟩ := equals_laws hunread hunread
  obtain ⟨-, -, hsame⟩ := equals_laws hplain hplain
  have hequal : (ofLiterals (.obj [("hosts", .arr [.str "(*ip)10.1.2.3", .int 443])])).equals
      (ofLiterals (.obj [("hosts", .arr [.str "(*ip)10.0.0.0/8", .int 443])])) = true := by
    decide +kernel
  refine ⟨hequal, hcomm ▸ hequal, hinvalid "(*ip)10.1.2.300" (.inl ?_), ?_⟩
  · exact mem_parts_arr.mpr (.inr ⟨_, List.mem_singleton_self _, List.mem_singleton_self _⟩)
  · exact ((hsame (by decide)).2 (by rw [hparts]; simp)).mpr rfl

end Value

end AccessPolicy
