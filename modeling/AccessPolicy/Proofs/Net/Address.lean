import AccessPolicy.Net.Address
import AccessPolicy.Proofs.Decimal.Digits
import AccessPolicy.Proofs.Text.Cut

/-!
# Addresses read back

The written form of an address is read as that address (`Address.ofChars?_chars`). The parts between
points or colons are read one by one (`byte?_digits`, `group?_toDigits`), and the parts of a joined
text are those that it was joined from. In version 6 the reader looks for a double colon first. None
arises between groups, each of which has a digit, so the first one stands where zeros were left out
(`cutDoubleColon_join`); what it stands for is the run of zeros that the writer has chosen
(`longestZeros_spec`).
-/

namespace AccessPolicy.Net

open Decimal (digits)

/-! ## Version 4 -/

/-- The digits of a byte are read as it. -/
theorem byte?_digits {n : Nat} (h : n < 256) : byte? (digits n) = some n := by
  rw [byte?, Decimal.nat?_digits, Option.filter_some, if_pos (decide_eq_true ⟨h, rfl⟩)]

/-- Where a part of a text holds more than digits, the text is no address of version 4. -/
theorem v4?_eq_none {cs : List Char} {c : Char} (hc : c ∈ cs) (hpoint : c ≠ '.')
    (hdigit : c.isDigit = false) : v4? cs = none := by
  -- The character is in a piece between two points, and no byte has it.
  obtain ⟨p, hp, hcp⟩ : ∃ p ∈ Text.pieces '.' cs, c ∈ p := by
    rw [← Text.join_pieces '.' cs] at hc
    exact (Text.mem_join hc).resolve_left hpoint
  have hbyte : byte? p = none := by
    have hall : ¬(p ≠ [] ∧ p.all Char.isDigit = true) := fun h => by
      rw [List.all_eq_true.mp h.2 c hcp] at hdigit
      exact nomatch hdigit
    rw [byte?, Decimal.nat?, if_neg hall, Option.filter_none]
  have hnone : (Text.pieces '.' cs).mapM byte? = none := by
    generalize Text.pieces '.' cs = ps at hp
    induction ps with
    | nil => exact absurd hp List.not_mem_nil
    | cons q ps ih =>
      rw [List.mapM_cons]
      rcases List.mem_cons.mp hp with rfl | hps
      · rw [hbyte]
        rfl
      · rw [ih hps]
        cases byte? q <;> rfl
  rw [v4?, hnone]

/-- A single number is no address of version 4. -/
theorem v4?_digits (n : Nat) : v4? (digits n) = none := by
  have hpoint : '.' ∉ digits n := fun h => absurd (Decimal.isDigit_of_mem_digits h) (by decide)
  rw [v4?, Text.pieces_eq_cut, Text.cut_of_not_mem hpoint]
  simp only [List.mapM_cons, List.mapM_nil]
  cases byte? (digits n) <;> rfl

/-- The written form of an address of version 4 is read as that address. -/
theorem v4?_dotted (a : BitVec 32) : v4? (dotted a) = some a := by
  -- The digits of a byte have no point, so that the pieces are the bytes.
  have hpieces : Text.pieces '.' (dotted a) = (bytes a).map digits := by
    refine Text.pieces_join (List.cons_ne_nil _ _) fun p hp => ?_
    obtain ⟨n, -, rfl⟩ := List.mem_map.mp hp
    exact fun h => absurd (Decimal.isDigit_of_mem_digits h) (by decide)
  have hbytes : ((bytes a).map digits).mapM byte? = some (bytes a) := by
    have hlt : ∀ m, m % 256 < 256 := fun m => Nat.mod_lt m (by decide)
    simp only [bytes, List.map_cons, List.map_nil, List.mapM_cons, List.mapM_nil,
      byte?_digits (hlt _)]
    rfl
  rw [v4?, hpieces, hbytes]
  refine congrArg some (BitVec.eq_of_toNat_eq ?_)
  -- The four bytes make up the address.
  have hlt : a.toNat < 4294967296 := a.isLt
  simp only [BitVec.toNat_ofNat, Nat.shiftRight_eq_div_pow, Nat.reducePow]
  omega

/-! ## Groups -/

/-- A hexadecimal digit has the value that it was written for. -/
theorem hexValue?_digitChar {n : Nat} (h : n < 16) : Text.hexValue? n.digitChar = some n := by
  revert n
  decide

/-- Hexadecimal digits are read as their number, which counts on from what was read before. -/
theorem foldlM_hexValue? (n : Nat) : ((Nat.toDigits 16 n).foldlM
    (fun m c => (Text.hexValue? c).map fun d => 16 * m + d) 0) = some n := by
  induction n using Nat.strongRecOn with
  | ind n ih =>
    by_cases h : n < 16
    · rw [Nat.toDigits_of_lt_base h, List.foldlM_cons, hexValue?_digitChar h]
      rw [Option.map_some, Nat.mul_zero, Nat.zero_add]
      rfl
    · rw [Nat.toDigits_of_base_le (by decide) (by omega), List.foldlM_append,
        ih (n / 16) (by omega)]
      have hmod : n % 16 < 16 := Nat.mod_lt n (by decide)
      simp only [List.foldlM_cons, List.foldlM_nil, hexValue?_digitChar hmod, Option.map_some]
      exact congrArg some (Nat.div_add_mod n 16)

/-- The digits of a group are read as it. -/
theorem group?_toDigits {g : Nat} (h : g < 65536) : group? (Nat.toDigits 16 g) = some g := by
  have hlength : (Nat.toDigits 16 g).length ≤ 4 :=
    (Nat.length_toDigits_le_iff (by decide) (by decide)).mpr h
  rw [group?, if_neg (not_or.mpr ⟨Nat.toDigits_ne_nil, by omega⟩), foldlM_hexValue?]

/-- A character that is no hexadecimal digit stops the reader of a group, wherever it stands. -/
theorem foldlM_hexValue?_eq_none {cs : List Char} {c : Char} (hc : c ∈ cs)
    (hhex : Text.hexValue? c = none) (n : Nat) :
    cs.foldlM (fun m c => (Text.hexValue? c).map fun d => 16 * m + d) n = none := by
  induction cs generalizing n with
  | nil => exact absurd hc List.not_mem_nil
  | cons d cs ih =>
    rw [List.foldlM_cons]
    rcases List.mem_cons.mp hc with rfl | hcs
    · rw [hhex]
      rfl
    · cases Text.hexValue? d with
      | none => rfl
      | some m => exact ih hcs _

/-- What holds another character than hexadecimal digits is no group. -/
theorem group?_eq_none {cs : List Char} {c : Char} (hc : c ∈ cs) (hhex : Text.hexValue? c = none) :
    group? cs = none := by
  rw [group?, foldlM_hexValue?_eq_none hc hhex]
  exact ite_self none

/-- Groups are written in hexadecimal digits. -/
theorem hexValue?_isSome_of_mem {n : Nat} {c : Char} (h : c ∈ Nat.toDigits 16 n) :
    (Text.hexValue? c).isSome := by
  induction n using Nat.strongRecOn with
  | ind n ih =>
    by_cases hlt : n < 16
    · rw [Nat.toDigits_of_lt_base hlt, List.mem_singleton] at h
      rw [h, hexValue?_digitChar hlt, Option.isSome_some]
    · rw [Nat.toDigits_of_base_le (by decide) (by omega), List.mem_append, List.mem_singleton] at h
      rcases h with h | rfl
      · exact ih (n / 16) (by omega) h
      · rw [hexValue?_digitChar (Nat.mod_lt n (by decide)), Option.isSome_some]

/-- No colon is among the digits of a group. -/
theorem colon_not_mem_toDigits (g : Nat) : ':' ∉ Nat.toDigits 16 g :=
  fun h => absurd (hexValue?_isSome_of_mem h) (by decide)

/-- Groups that were written one by one are read one by one. -/
theorem groupsOf?_map_toDigits (dottedEnd : Bool) {gs : List Nat} (h : ∀ g ∈ gs, g < 65536) :
    groupsOf? dottedEnd (gs.map (Nat.toDigits 16)) = some gs := by
  induction gs with
  | nil => rfl
  | cons g gs ih =>
    have hg := group?_toDigits (h g List.mem_cons_self)
    have hgs := ih fun g' hg' => h g' (List.mem_cons_of_mem g hg')
    cases gs with
    | nil =>
      rw [List.map_cons, List.map_nil, groupsOf?, hg]
    | cons g' gs =>
      rw [List.map_cons] at hgs
      rw [List.map_cons, List.map_cons, groupsOf?, hg, hgs]
      rfl

/-- Groups with colons in between are read as these groups. -/
theorem groupList?_colonized (dottedEnd : Bool) {gs : List Nat} (h : ∀ g ∈ gs, g < 65536) :
    groupList? dottedEnd (colonized gs) = some gs := by
  cases gs with
  | nil => rfl
  | cons g gs =>
    -- The digits of a group have no colon, so that the pieces are the groups.
    have hpieces : Text.pieces ':' (colonized (g :: gs)) = (g :: gs).map (Nat.toDigits 16) := by
      refine Text.pieces_join (List.cons_ne_nil _ _) fun p hp => ?_
      obtain ⟨g', -, rfl⟩ := List.mem_map.mp hp
      exact colon_not_mem_toDigits g'
    have hne : colonized (g :: gs) ≠ [] := by
      intro hnil
      rw [hnil, List.map_cons] at hpieces
      exact Nat.toDigits_ne_nil (List.cons.inj hpieces).1.symm
    rw [groupList?, if_neg hne, hpieces, groupsOf?_map_toDigits dottedEnd h]

/-! ## The double colon -/

/-- A text without colons lies before any double colon. -/
theorem cutDoubleColon_append {p : List Char} (h : ':' ∉ p) (rest : List Char) :
    cutDoubleColon (p ++ rest) = (cutDoubleColon rest).map fun q => (p ++ q.1, q.2) := by
  induction p with
  | nil =>
    rw [List.nil_append]
    cases cutDoubleColon rest <;> rfl
  | cons c p ih =>
    obtain ⟨hc, hp⟩ := List.ne_and_not_mem_of_not_mem_cons h
    rw [List.cons_append, cutDoubleColon, ih hp, Option.map_map]
    · rfl
    · exact fun _ hcolon _ => hc hcolon.symm

/-- A single colon is no double one. -/
theorem cutDoubleColon_cons {c : Char} (h : c ≠ ':') (rest : List Char) :
    cutDoubleColon (':' :: c :: rest) =
      (cutDoubleColon (c :: rest)).map fun q => (':' :: q.1, q.2) := by
  rw [cutDoubleColon]
  exact fun _ _ heq => h (List.cons.inj heq).1

/-- Parts that are not empty have no double colon between them. -/
theorem cutDoubleColon_join {parts : List (List Char)} (h : ∀ p ∈ parts, p ≠ [] ∧ ':' ∉ p)
    (rest : List Char) : cutDoubleColon (Text.join ':' parts ++ rest) =
      (cutDoubleColon rest).map fun q => (Text.join ':' parts ++ q.1, q.2) := by
  induction parts with
  | nil =>
    rw [Text.join, List.nil_append]
    cases cutDoubleColon rest <;> rfl
  | cons p parts ih =>
    have hp : ':' ∉ p := (h p List.mem_cons_self).2
    cases parts with
    | nil => exact cutDoubleColon_append hp rest
    | cons q parts =>
      have hrest := ih fun r hr => h r (List.mem_cons_of_mem p hr)
      obtain ⟨hqne, hq⟩ := h q (List.mem_cons_of_mem p List.mem_cons_self)
      -- The next part is not empty, so that its first character makes no double colon.
      obtain ⟨c, q, rfl⟩ := List.exists_cons_of_ne_nil hqne
      have hc : c ≠ ':' := fun heq => hq (heq ▸ List.mem_cons_self)
      rw [Text.join_cons_cons, List.cons_append] at hrest
      rw [Text.join, Text.join_cons_cons, List.append_assoc, List.cons_append, List.cons_append,
        cutDoubleColon_append hp, cutDoubleColon_cons hc, hrest, Option.map_map, Option.map_map]
      refine congrArg (Option.map · (cutDoubleColon rest)) (funext fun q' => ?_)
      simp

/-- Groups have no double colon between them. -/
theorem cutDoubleColon_colonized (gs : List Nat) (rest : List Char) :
    cutDoubleColon (colonized gs ++ rest) =
      (cutDoubleColon rest).map fun q => (colonized gs ++ q.1, q.2) := by
  refine cutDoubleColon_join (fun p hp => ?_) rest
  obtain ⟨g, -, rfl⟩ := List.mem_map.mp hp
  exact ⟨Nat.toDigits_ne_nil, colon_not_mem_toDigits g⟩

/-! ## The run of zeros -/

/-- A run of zeros at the front of a list is as long as it is counted. -/
theorem take_of_le_zerosAtFront {gs : List Nat} {n : Nat} (h : n ≤ zerosAtFront gs) :
    gs.take n = List.replicate n 0 := by
  have hsplit : gs.takeWhile (· = 0) ++ gs.dropWhile (· = 0) = gs := List.takeWhile_append_dropWhile
  have htake : gs.take n = (gs.takeWhile (· = 0)).take n :=
    calc gs.take n = (gs.takeWhile (· = 0) ++ gs.dropWhile (· = 0)).take n := by rw [hsplit]
      _ = (gs.takeWhile (· = 0)).take n := List.take_append_of_le_length h
  rw [htake, List.eq_replicate_iff]
  refine ⟨List.length_take_of_le h, fun g hg => ?_⟩
  exact of_decide_eq_true (List.all_eq_true.mp List.all_takeWhile g (List.mem_of_mem_take hg))

/-- The run that the writer chooses consists of zeros. -/
theorem longestZeros_le (gs : List Nat) :
    (longestZeros gs).2 ≤ zerosAtFront (gs.drop (longestZeros gs).1) := by
  rw [longestZeros]
  -- Each run that takes the place of the best one so far is counted where it starts.
  have hfold : ∀ (places : List Nat) (best : Nat × Nat), best.2 ≤ zerosAtFront (gs.drop best.1) →
      let found := places.foldl
        (fun best i =>
          if best.2 < zerosAtFront (gs.drop i) then (i, zerosAtFront (gs.drop i)) else best)
        best
      found.2 ≤ zerosAtFront (gs.drop found.1) := by
    intro places
    induction places with
    | nil => exact fun best h => h
    | cons i places ih =>
      intro best h
      rw [List.foldl_cons]
      apply ih
      split
      · exact Nat.le_refl _
      · exact h
  exact hfold _ (0, 0) (Nat.zero_le _)

/-- A list of groups is what stands before the chosen run, the run, and what stands behind it. -/
theorem longestZeros_spec (gs : List Nat) :
    gs.take (longestZeros gs).1 ++ List.replicate (longestZeros gs).2 0 ++
      gs.drop ((longestZeros gs).1 + (longestZeros gs).2) = gs := by
  rw [← take_of_le_zerosAtFront (longestZeros_le gs), ← List.take_add, List.take_append_drop]

/-! ## Version 6 -/

/-- The groups of an address make it up. -/
theorem ofGroups?_groups (a : BitVec 128) : ofGroups? (groups a) = some a := by
  have hlength : (groups a).length = 8 := rfl
  rw [ofGroups?, if_pos hlength]
  refine congrArg some (BitVec.eq_of_toNat_eq ?_)
  have hlt : a.toNat < 340282366920938463463374607431768211456 := a.isLt
  simp only [groups, List.map_cons, List.map_nil, List.foldl_cons, List.foldl_nil,
    BitVec.toNat_ofNat, Nat.shiftRight_eq_div_pow, Nat.reducePow]
  omega

/-- A group is below `2 ^ 16`. -/
theorem lt_of_mem_groups {a : BitVec 128} {g : Nat} (h : g ∈ groups a) : g < 65536 := by
  obtain ⟨shift, -, rfl⟩ := List.mem_map.mp h
  exact Nat.mod_lt _ (by decide)

/-- The end of a mapped address, which is written in the form of version 4, is read as two
groups. -/
theorem groupList?_mapped (a : BitVec 32) :
    groupList? true ("ffff:".toList ++ dotted a) =
      some [65535, a.toNat / 65536, a.toNat % 65536] := by
  have hcolon : ':' ∉ dotted a := by
    intro h
    rcases Text.mem_join h with h | ⟨p, hp, h⟩
    · exact absurd h (by decide)
    · obtain ⟨n, -, rfl⟩ := List.mem_map.mp hp
      exact absurd (Decimal.isDigit_of_mem_digits h) (by decide)
  have hpieces : Text.pieces ':' ("ffff:".toList ++ dotted a) = ["ffff".toList, dotted a] := by
    have hjoin : "ffff:".toList ++ dotted a = Text.join ':' ["ffff".toList, dotted a] := rfl
    rw [hjoin]
    refine Text.pieces_join (List.cons_ne_nil _ _) fun p hp => ?_
    rcases List.mem_cons.mp hp with rfl | hp
    · decide
    · exact List.mem_singleton.mp hp ▸ hcolon
  -- The point in the last part is no digit of a group.
  have hgroup : group? (dotted a) = none := by
    refine group?_eq_none (c := '.') ?_ (by decide)
    simp [dotted, bytes, Text.join]
  have hffff : group? "ffff".toList = some 65535 := by decide
  rw [groupList?, if_neg (by exact List.cons_ne_nil _ _), hpieces, groupsOf?, hffff, groupsOf?,
    hgroup, v4?_dotted]
  rfl

/-- The three written forms of version 6: a mapped address, groups with a run of zeros left out, and
all groups. -/
theorem colonForm_cases (a : BitVec 128) :
    (a.toNat / 0x100000000 = 0xFFFF ∧
      colonForm a = "::ffff:".toList ++ dotted (a.truncate 32)) ∨
    (∃ front length back, 2 ≤ length ∧ groups a = front ++ List.replicate length 0 ++ back ∧
      colonForm a = colonized front ++ "::".toList ++ colonized back) ∨
    colonForm a = colonized (groups a) := by
  by_cases hmapped : a.toNat / 0x100000000 = 0xFFFF
  · exact .inl ⟨hmapped, by rw [colonForm, if_pos hmapped]⟩
  · refine .inr ?_
    rw [colonForm, if_neg hmapped]
    by_cases hrun : 2 ≤ (longestZeros (groups a)).2
    · exact .inl ⟨_, _, _, hrun, (longestZeros_spec (groups a)).symm, if_pos hrun⟩
    · exact .inr (if_neg hrun)

/-- The written form of an address of version 6 is read as that address. -/
theorem v6?_colonForm (a : BitVec 128) : v6? (colonForm a) = some a := by
  have hgroups : ∀ g ∈ groups a, g < 65536 := fun g hg => lt_of_mem_groups hg
  rcases colonForm_cases a with
    ⟨hmapped, hform⟩ | ⟨front, length, back, hrun, hsplit, hform⟩ | hform
  · -- A mapped address: a double colon, a group of ones, and four bytes.
    have hcut : cutDoubleColon (colonForm a) =
        some ([], "ffff:".toList ++ dotted (a.truncate 32)) := by
      rw [hform]
      rfl
    have hnone : groupList? false [] = some [] := rfl
    rw [v6?, hcut]
    simp only [hnone, groupList?_mapped, Option.bind_eq_bind, Option.bind_some]
    refine congrArg some (BitVec.eq_of_toNat_eq ?_)
    have hlt : a.toNat < 340282366920938463463374607431768211456 := a.isLt
    have htruncate : (a.truncate 32).toNat = a.toNat % 4294967296 := BitVec.toNat_setWidth 32 a
    rw [BitVec.toNat_ofNat, htruncate]
    simp only [List.nil_append, List.length_nil, List.length_cons, List.replicate, List.cons_append,
      List.foldl_cons, List.foldl_nil]
    omega
  · -- A run of zeros is left out at the double colon, and as many groups are missing.
    have hcut : cutDoubleColon (colonForm a) = some (colonized front, colonized back) := by
      rw [hform, List.append_assoc, cutDoubleColon_colonized]
      exact congrArg (fun cs => some (cs, _)) (List.append_nil _)
    have hmem : ∀ g, g ∈ front ∨ g ∈ back → g < 65536 := fun g hg => hgroups g (by
      rw [hsplit, List.mem_append, List.mem_append]
      exact hg.imp_left .inl)
    have hfront := groupList?_colonized false fun g hg => hmem g (.inl hg)
    have hback := groupList?_colonized true fun g hg => hmem g (.inr hg)
    have hcount : front.length + length + back.length = 8 := by
      have hlength : (groups a).length = 8 := rfl
      rwa [hsplit, List.length_append, List.length_append, List.length_replicate] at hlength
    have hzeros : 8 - front.length - back.length = length := by omega
    rw [v6?, hcut]
    simp only [hfront, hback, Option.bind_eq_bind, Option.bind_some]
    rw [if_pos (by omega), hzeros, ← hsplit, ofGroups?_groups]
  · -- All eight groups are written, with no double colon.
    have hcut : cutDoubleColon (colonForm a) = none := by
      have hjoin := cutDoubleColon_colonized (groups a) []
      rwa [List.append_nil, ← hform] at hjoin
    rw [v6?, hcut]
    simp only [hform, groupList?_colonized true hgroups, Option.bind_some, ofGroups?_groups]

/-! ## Addresses -/

/-- The written form of an address of version 6 has a colon. -/
theorem colon_mem_colonForm (a : BitVec 128) : ':' ∈ colonForm a := by
  rcases colonForm_cases a with ⟨-, hform⟩ | ⟨front, length, back, -, -, hform⟩ | hform
  · rw [hform]
    exact List.mem_append_left _ (by decide)
  · rw [hform]
    exact List.mem_append_left _ (List.mem_append_right _ (by decide))
  · rw [hform]
    simp [colonized, groups, Text.join]

/-- The written form of an address of version 6 is none of version 4. -/
theorem v4?_colonForm (a : BitVec 128) : v4? (colonForm a) = none :=
  v4?_eq_none (colon_mem_colonForm a) (by decide) (by decide)

/-- The written form of an address is read as that address. -/
theorem Address.ofChars?_chars (a : Address) : Address.ofChars? a.chars = some a := by
  cases a with
  | v4 a => rw [Address.ofChars?, Address.chars, v4?_dotted]
  | v6 a =>
    rw [Address.ofChars?, Address.chars, v4?_colonForm]
    simp only [v6?_colonForm, Option.map_some]

/-- The characters of addresses: hexadecimal digits, points and colons. -/
def IsAddressChar (c : Char) : Prop :=
  (Text.hexValue? c).isSome ∨ c = '.' ∨ c = ':'

instance (c : Char) : Decidable (IsAddressChar c) :=
  inferInstanceAs (Decidable (_ ∨ _))

/-- No blank and no slash is a character of an address. -/
theorem IsAddressChar.spec {c : Char} (h : IsAddressChar c) : Text.isBlank c = false ∧ c ≠ '/' := by
  rcases h with h | rfl | rfl
  · -- The hexadecimal digits are in three ranges, which have neither a blank nor the slash.
    have hrange : 0x30 ≤ c.toNat ∧ c.toNat ≤ 0x39 ∨ 0x41 ≤ c.toNat ∧ c.toNat ≤ 0x46 ∨
        0x61 ≤ c.toNat ∧ c.toNat ≤ 0x66 := by
      simp only [Text.hexValue?, Char.le_def, UInt32.le_iff_toNat_le] at h
      split at h
      · next hdigit => exact .inl hdigit
      · split at h
        · next hlower => exact .inr (.inr hlower)
        · split at h
          · next hupper => exact .inr (.inl hupper)
          · exact nomatch h
    constructor
    · simp only [Text.isBlank, Text.blankRanges, Text.Ranges.has, List.any_cons, List.any_nil,
        Bool.or_false, Bool.or_eq_false_iff, Bool.and_eq_false_iff, decide_eq_false_iff_not]
      omega
    · rintro rfl
      exact absurd hrange (by decide)
  · decide
  · decide

/-- Version 4 is written in digits and points. -/
theorem isAddressChar_of_mem_dotted {a : BitVec 32} {c : Char} (h : c ∈ dotted a) :
    IsAddressChar c := by
  rcases Text.mem_join h with h | ⟨p, hp, h⟩
  · exact .inr (.inl h)
  · obtain ⟨n, -, rfl⟩ := List.mem_map.mp hp
    have hdigit := Decimal.isDigit_of_mem_digits h
    rw [Char.isDigit, Bool.and_eq_true, decide_eq_true_iff, decide_eq_true_iff] at hdigit
    have hrange : '0' ≤ c ∧ c ≤ '9' := hdigit
    refine .inl ?_
    rw [Text.hexValue?, if_pos hrange, Option.isSome_some]

/-- Groups are written in hexadecimal digits and colons. -/
theorem isAddressChar_of_mem_colonized {gs : List Nat} {c : Char} (h : c ∈ colonized gs) :
    IsAddressChar c := by
  rcases Text.mem_join h with h | ⟨p, hp, h⟩
  · exact .inr (.inr h)
  · obtain ⟨g, -, rfl⟩ := List.mem_map.mp hp
    exact .inl (hexValue?_isSome_of_mem h)

/-- The written form of an address consists of these characters. -/
theorem Address.isAddressChar_of_mem_chars {a : Address} {c : Char} (h : c ∈ a.chars) :
    IsAddressChar c := by
  cases a with
  | v4 a => exact isAddressChar_of_mem_dotted h
  | v6 a =>
    rw [Address.chars] at h
    rcases colonForm_cases a with ⟨-, hform⟩ | ⟨front, length, back, -, -, hform⟩ | hform
    · rw [hform, List.mem_append] at h
      rcases h with h | h
      · have hmem : c ∈ [':', ':', 'f', 'f', 'f', 'f', ':'] := h
        simp only [List.mem_cons, List.not_mem_nil, or_false] at hmem
        rcases hmem with rfl | rfl | rfl | rfl | rfl | rfl | rfl <;> decide
      · exact isAddressChar_of_mem_dotted h
    · rw [hform, List.mem_append, List.mem_append] at h
      rcases h with (h | h) | h
      · exact isAddressChar_of_mem_colonized h
      · exact .inr (.inr (List.eq_of_mem_replicate (n := 2) h))
      · exact isAddressChar_of_mem_colonized h
    · rw [hform] at h
      exact isAddressChar_of_mem_colonized h

end AccessPolicy.Net
