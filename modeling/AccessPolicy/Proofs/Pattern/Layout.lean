import AccessPolicy.Pattern.Program
import AccessPolicy.Proofs.Pattern.Meaning

/-!
# The programs of regular expressions

The program of an expression accepts from a place exactly if the expression leads from it to some
place (`Regex.accepts_program_iff`). An expression is laid out in front of a program that is there
already, so what is proved of a layout is relative to it (`LaysOut`): the runs from its start that
accept are those that come to the old start at a place to which the expression leads. As later
layouts put a fork where an earlier one left a mark for it, this is said of every code in which the
new instructions stand (`Within`), and not of the program as it has been laid out so far.
-/

namespace AccessPolicy.Pattern

/-! ## Running a program -/

/-- What one instruction does at a place: the instruction to go on with, and the place. -/
inductive Instruction.Steps : Instruction → Place → Nat → Place → Prop where
  | take {rs : Text.Ranges} {next : Nat} {p q : Place} :
    p.Takes rs q → Steps (.take rs next) p next q
  | look {l : Look} {next : Nat} {p : Place} :
    l.holds p.front p.rest.head? = true → Steps (.look l next) p next p
  | left {a b : Nat} {p : Place} : Steps (.fork a b) p a p
  | right {a b : Nat} {p : Place} : Steps (.fork a b) p b p

/-- Whether a run of `n` steps from an instruction and a place accepts. -/
inductive AcceptsIn (code : Array Instruction) : Nat → Nat → Place → Prop where
  | accept {i : Nat} {p : Place} : code[i]? = some .accept → AcceptsIn code 0 i p
  | step {n i j : Nat} {p q : Place} {x : Instruction} :
    code[i]? = some x → x.Steps p j q → AcceptsIn code n j q → AcceptsIn code (n + 1) i p

/-- Whether some run from an instruction and a place accepts. -/
def Accepts (code : Array Instruction) (i : Nat) (p : Place) : Prop :=
  ∃ n, AcceptsIn code n i p

variable {code : Array Instruction}

/-- A place accepts when one instruction leads to a place that does. -/
theorem Accepts.step {i j : Nat} {p q : Place} {x : Instruction} (hi : code[i]? = some x)
    (hx : x.Steps p j q) (h : Accepts code j q) : Accepts code i p := by
  obtain ⟨n, hn⟩ := h
  exact ⟨n + 1, .step hi hx hn⟩

/-- A run that stands at an instruction other than `accept` goes on from it. -/
theorem AcceptsIn.next {n i : Nat} {p : Place} {x : Instruction} (h : AcceptsIn code n i p)
    (hi : code[i]? = some x) (hx : x ≠ .accept) :
    ∃ m j q, m < n ∧ x.Steps p j q ∧ AcceptsIn code m j q := by
  cases h with
  | accept hi' => exact absurd (Option.some.inj (hi.symm.trans hi')) hx
  | step hi' hy hn =>
    obtain rfl := Option.some.inj (hi.symm.trans hi')
    exact ⟨_, _, _, Nat.lt_succ_self _, hy, hn⟩

/-! ## Parts of a program -/

/-- Whether a part of a program matches as a relation says: from the instruction `entry`, the runs
that accept are those that come to the instruction `exit` at a place that is related. -/
structure Carries (code : Array Instruction) (r : Place → Place → Prop) (entry exit : Nat) :
    Prop where
  through : ∀ {n p}, AcceptsIn code n entry p → ∃ m ≤ n, ∃ q, r p q ∧ AcceptsIn code m exit q
  along : ∀ {p q}, r p q → Accepts code exit q → Accepts code entry p

namespace Carries

variable {r s : Place → Place → Prop} {i j k : Nat}

/-- No code carries the equality. -/
theorem refl (i : Nat) : Carries code Eq i i where
  through h := ⟨_, Nat.le_refl _, _, rfl, h⟩
  along := by
    rintro p _ rfl h
    exact h

/-- What is carried depends on the relation's pairs only. -/
theorem congr (h : Carries code r i j) (heq : ∀ p q, r p q ↔ s p q) : Carries code s i j := by
  have hrs : r = s := funext fun p => funext fun q => propext (heq p q)
  exact hrs ▸ h

/-- Code behind code carries the composition. -/
theorem comp (hr : Carries code r i j) (hs : Carries code s j k) :
    Carries code (Relation.Comp r s) i k where
  through h := by
    obtain ⟨m, hm, q, hpq, hq⟩ := hr.through h
    obtain ⟨l, hl, t, hqt, ht⟩ := hs.through hq
    exact ⟨l, Nat.le_trans hl hm, t, ⟨q, hpq, hqt⟩, ht⟩
  along := by
    rintro p t ⟨q, hpq, hqt⟩ h
    exact hr.along hpq (hs.along hqt h)

/-- An instruction that takes a character carries the step over it. -/
theorem take {rs : Text.Ranges} (hi : code[i]? = some (.take rs j)) :
    Carries code (Place.Takes rs) i j where
  through h := by
    obtain ⟨m, j', q, hm, hstep, hq⟩ := h.next hi nofun
    cases hstep with
    | take hpq => exact ⟨m, Nat.le_of_lt hm, q, hpq, hq⟩
  along hpq h := h.step hi (.take hpq)

/-- An instruction that looks carries the assertion. -/
theorem look {l : Look} (hi : code[i]? = some (.look l j)) :
    Carries code (Regex.look l).Leads i j where
  through h := by
    obtain ⟨m, j', q, hm, hstep, hq⟩ := h.next hi nofun
    cases hstep with
    | look hl => exact ⟨m, Nat.le_of_lt hm, _, ⟨hl, rfl⟩, hq⟩
  along := by
    rintro p _ ⟨hl, rfl⟩ h
    exact h.step hi (.look hl)

/-- A fork carries the union of its two branches. -/
theorem fork {a b : Nat} (hi : code[i]? = some (.fork a b)) (ha : Carries code r a j)
    (hb : Carries code s b j) : Carries code (fun p q => r p q ∨ s p q) i j where
  through h := by
    obtain ⟨n, j', p, hn, hstep, hp⟩ := h.next hi nofun
    -- The run has gone one of the two ways, and what is left of it is shorter.
    cases hstep with
    | left =>
      obtain ⟨m, hm, q, hpq, hq⟩ := ha.through hp
      exact ⟨m, Nat.le_trans hm (Nat.le_of_lt hn), q, .inl hpq, hq⟩
    | right =>
      obtain ⟨m, hm, q, hpq, hq⟩ := hb.through hp
      exact ⟨m, Nat.le_trans hm (Nat.le_of_lt hn), q, .inr hpq, hq⟩
  along := by
    rintro p q (hpq | hpq) h
    · exact (ha.along hpq h).step hi .left
    · exact (hb.along hpq h).step hi .right

/-- A fork to a part that leads back to it makes as many copies of the part as are wanted. -/
theorem loop {a : Nat} (hi : code[i]? = some (.fork a j)) (ha : Carries code r a i) :
    Carries code (fun p q => ∃ n, Times r n p q) i j where
  through := by
    intro n
    -- Each time round the loop leaves a shorter run.
    induction n using Nat.strongRecOn with
    | ind n ih =>
      intro p h
      obtain ⟨m, j', p', hm, hstep, hp⟩ := h.next hi nofun
      cases hstep with
      | left =>
        obtain ⟨l, hl, t, hpt, ht⟩ := ha.through hp
        obtain ⟨k, hk, q, ⟨c, htq⟩, hq⟩ := ih l (Nat.lt_of_le_of_lt hl hm) ht
        exact ⟨k, Nat.le_trans hk (Nat.le_trans hl (Nat.le_of_lt hm)), q, ⟨c + 1, t, hpt, htq⟩, hq⟩
      | right => exact ⟨m, Nat.le_of_lt hm, _, ⟨0, rfl⟩, hp⟩
  along := by
    rintro p q ⟨n, hpq⟩ h
    induction n generalizing p with
    | zero =>
      obtain rfl := hpq
      exact h.step hi .right
    | succ n ih =>
      obtain ⟨t, hpt, htq⟩ := hpq
      exact (ha.along hpt (ih htq)).step hi .left

end Carries

/-! ## Laying out -/

/-- Whether a code begins with the instructions of another one. -/
structure Extends (b a : Array Instruction) : Prop where
  size_le : a.size ≤ b.size
  getElem?_eq : ∀ i < a.size, b[i]? = a[i]?

/-- Whether the instructions that `b` has beyond those of `a` stand in `code`. -/
def Within (code a b : Array Instruction) : Prop :=
  ∀ i, a.size ≤ i → i < b.size → code[i]? = b[i]?

section
variable {a b c : Array Instruction}

/-- Code extends itself. -/
theorem Extends.refl (a : Array Instruction) : Extends a a :=
  ⟨Nat.le_refl _, fun _ _ => rfl⟩

/-- What extends an extension extends the first code. -/
theorem Extends.trans (hc : Extends c b) (hb : Extends b a) : Extends c a where
  size_le := Nat.le_trans hb.size_le hc.size_le
  getElem?_eq i hi :=
    (hc.getElem?_eq i (Nat.lt_of_lt_of_le hi hb.size_le)).trans (hb.getElem?_eq i hi)

/-- A pushed instruction leaves the code in front of it as it was. -/
theorem extends_push (a : Array Instruction) (x : Instruction) : Extends (a.push x) a where
  size_le := by
    rw [Array.size_push]
    exact Nat.le_succ _
  getElem?_eq i hi := by rw [Array.getElem?_push, if_neg (Nat.ne_of_lt hi)]

/-- Instructions may be replaced where the other code has none. -/
theorem Extends.set (h : Extends b a) {i : Nat} (hi : a.size ≤ i) (x : Instruction) :
    Extends (b.setIfInBounds i x) a where
  size_le := by
    rw [Array.size_setIfInBounds]
    exact h.size_le
  getElem?_eq j hj := by
    rw [Array.getElem?_setIfInBounds_ne (Nat.ne_of_gt (Nat.lt_of_lt_of_le hj hi))]
    exact h.getElem?_eq j hj

/-- Instructions within a larger stretch are within its beginning. -/
theorem Within.lower (h : Within code a c) (hc : Extends c b) : Within code a b := fun i hi hb =>
  (h i hi (Nat.lt_of_lt_of_le hb hc.size_le)).trans (hc.getElem?_eq i hb)

/-- Instructions within a larger stretch are within its end. -/
theorem Within.upper (h : Within code a c) (hb : Extends b a) : Within code b c := fun i hi hc =>
  h i (Nat.le_trans hb.size_le hi) hc

/-- An instruction that was added stands behind all the others. -/
theorem Within.pushed {x : Instruction} (h : Within code a (b.push x)) (hb : Extends b a) :
    code[b.size]? = some x := by
  have hsize : b.size < (b.push x).size := by
    rw [Array.size_push]
    exact Nat.lt_succ_self _
  exact (h b.size hb.size_le hsize).trans Array.getElem?_push_size

end

/-- A way of laying something out in front of a program that keeps what is there, and whose
instructions match as a relation says wherever they stand. -/
structure LaysOut (f : Program → Program) (r : Place → Place → Prop) : Prop where
  keeps : ∀ p, Extends (f p).code p.code
  carries : ∀ p code, Within code p.code (f p).code → Carries code r (f p).start p.start

namespace LaysOut

variable {f g : Program → Program} {r s : Place → Place → Prop}

/-- Nothing laid out carries the equality. -/
theorem id : LaysOut (fun p => p) Eq where
  keeps p := .refl p.code
  carries p _ _ := .refl p.start

/-- What is laid out last comes first. -/
theorem comp (hf : LaysOut f r) (hg : LaysOut g s) :
    LaysOut (fun p => f (g p)) (Relation.Comp r s) where
  keeps p := (hf.keeps (g p)).trans (hg.keeps p)
  carries p code h :=
    (hf.carries (g p) code (h.upper (hg.keeps p))).comp
      (hg.carries p code (h.lower (hf.keeps (g p))))

/-- What is laid out depends on the relation's pairs only. -/
theorem congr (hf : LaysOut f r) (heq : ∀ p q, r p q ↔ s p q) : LaysOut f s where
  keeps := hf.keeps
  carries p code h := (hf.carries p code h).congr heq

/-- Copies laid out one in front of the other. -/
theorem times (hf : LaysOut f r) (n : Nat) :
    LaysOut (fun p => (List.range n).foldl (fun q _ => f q) p) (Times r n) := by
  induction n with
  | zero => exact .id
  | succ n ih =>
    simp only [List.range_succ, List.foldl_append, List.foldl_cons, List.foldl_nil]
    exact hf.comp ih

/-- An instruction that goes on with the start of what is there. -/
theorem push (make : Nat → Instruction)
    (h : ∀ (code : Array Instruction) (i j : Nat), code[i]? = some (make j) → Carries code r i j) :
    LaysOut (fun p => p.push (make p.start)) r where
  keeps p := extends_push p.code _
  carries p code hcode := h code _ _ (hcode.pushed (.refl p.code))

/-- One instruction lays out the step over a character. -/
theorem take (rs : Text.Ranges) : LaysOut (fun p => p.push (.take rs p.start)) (Place.Takes rs) :=
  push (fun next => .take rs next) fun _ _ _ => .take

/-- One instruction lays out an assertion. -/
theorem look (l : Look) : LaysOut (fun p => p.push (.look l p.start)) (Regex.look l).Leads :=
  push (fun next => .look l next) fun _ _ _ => .look

/-- Two layouts with a fork to both of them in front. -/
theorem fork (hf : LaysOut f r) (hg : LaysOut g s) :
    LaysOut
      (fun p =>
        let right := g ⟨(f p).code, p.start⟩
        right.push (.fork (f p).start right.start))
      (fun p q => r p q ∨ s p q) where
  keeps p := (extends_push _ _).trans ((hg.keeps ⟨(f p).code, p.start⟩).trans (hf.keeps p))
  carries p code h := by
    have hright : Extends (g ⟨(f p).code, p.start⟩).code (f p).code := hg.keeps ⟨_, _⟩
    have hbelow : Within code p.code (g ⟨(f p).code, p.start⟩).code := h.lower (extends_push _ _)
    have hupper : Within code (f p).code (g ⟨(f p).code, p.start⟩).code := hbelow.upper (hf.keeps p)
    exact .fork (h.pushed (hright.trans (hf.keeps p))) (hf.carries p code (hbelow.lower hright))
      (hg.carries ⟨(f p).code, p.start⟩ code hupper)

/-- Up to `n` copies, each behind a fork that leaves it and all behind it out. -/
theorem upTo (hf : LaysOut f r) (n : Nat) :
    LaysOut
      (fun p => (List.range n).foldl (fun q _ => (f q).push (.fork (f q).start p.start)) p)
      (fun p q => ∃ k ≤ n, Times r k p q) := by
  induction n with
  | zero =>
    refine LaysOut.congr .id fun p q => ⟨fun h => ⟨0, Nat.le_refl 0, h⟩, ?_⟩
    rintro ⟨k, hk, h⟩
    obtain rfl := Nat.le_zero.mp hk
    exact h
  | succ n ih =>
    simp only [List.range_succ, List.foldl_append, List.foldl_cons, List.foldl_nil]
    constructor
    · exact fun p => (extends_push _ _).trans ((hf.keeps _).trans (ih.keeps p))
    · intro p code h
      have hkeeps := ih.keeps p
      have hinner := ih.carries p code
      generalize (List.range n).foldl (fun q _ => (f q).push (.fork (f q).start p.start)) p = q
        at h hkeeps hinner ⊢
      -- One more copy stands behind a fork of its own, and the layout of the others behind the
      -- copy.
      have hbody : Within code p.code (f q).code := h.lower (extends_push _ _)
      have hcopy : Carries code r (f q).start q.start := hf.carries q code (hbody.upper hkeeps)
      refine (Carries.fork (h.pushed ((hf.keeps q).trans hkeeps))
        (hcopy.comp (hinner (hbody.lower (hf.keeps q)))) (.refl p.start)).congr fun x y => ?_
      constructor
      · rintro (⟨t, hxt, k, hk, hty⟩ | rfl)
        · exact ⟨k + 1, Nat.succ_le_succ hk, t, hxt, hty⟩
        · exact ⟨0, Nat.zero_le _, rfl⟩
      · rintro ⟨k, hk, hxy⟩
        cases k with
        | zero => exact .inr hxy
        | succ k =>
          obtain ⟨t, hxt, hty⟩ := hxy
          exact .inl ⟨t, hxt, k, Nat.le_of_succ_le_succ hk, hty⟩

/-- Any number of copies: one that leads back to a fork in front of it. -/
theorem star (hf : LaysOut f r) :
    LaysOut
      (fun p =>
        let body := f (p.push .accept)
        ⟨body.code.setIfInBounds p.code.size (.fork body.start p.start), p.code.size⟩)
      (fun p q => ∃ n, Times r n p q) where
  keeps p := ((hf.keeps (p.push .accept)).trans (extends_push p.code _)).set (Nat.le_refl _) _
  carries p code h := by
    have hbody : Extends (f (p.push .accept)).code (p.code.push .accept) :=
      hf.keeps (p.push .accept)
    have hcarries := hf.carries (p.push .accept) code
    dsimp only at h ⊢
    generalize f (p.push .accept) = body at h hbody hcarries ⊢
    have hsize : p.code.size < body.code.size := by
      have hle := hbody.size_le
      rw [Array.size_push] at hle
      exact hle
    have hfork : code[p.code.size]? = some (.fork body.start p.start) := by
      rw [h p.code.size (Nat.le_refl _) (by rwa [Array.size_setIfInBounds]),
        Array.getElem?_setIfInBounds_self_of_lt hsize]
    -- The fork stands in front of the body, in place of what marked where it would be.
    have hwithin : Within code (p.code.push .accept) body.code := by
      intro i hi hlt
      rw [Array.size_push] at hi
      rw [h i (Nat.le_of_succ_le hi) (by rwa [Array.size_setIfInBounds]),
        Array.getElem?_setIfInBounds_ne (Nat.ne_of_lt hi)]
    exact .loop hfork (hcarries hwithin)

/-- A text is taken character by character. -/
theorem literal (text : List Char) :
    LaysOut (fun p => text.foldr (fun c q => q.push (.take [(c.toNat, c.toNat)] q.start)) p)
      (Place.Reads text) := by
  induction text with
  | nil =>
    exact LaysOut.congr .id fun p q => Place.reads_nil_iff.symm
  | cons c text ih =>
    refine LaysOut.congr ((take [(c.toNat, c.toNat)]).comp ih) fun p q => ?_
    rw [Place.reads_cons_iff]
    exact exists_congr fun m => and_congr_left fun _ => Place.takes_singleton_iff

end LaysOut

/-- An expression is laid out as it matches. -/
theorem laysOut_layout (r : Regex) : LaysOut r.layout r.Leads := by
  induction r with
  | empty => exact .id
  | literal text => exact .literal text
  | chars rs => exact .take rs
  | look l => exact .look l
  | seq a b iha ihb => exact iha.comp ihb
  | alt a b iha ihb => exact iha.fork ihb
  | group _ a ih => exact ih
  | repetition a least most greedy ih =>
    -- The least number of copies comes first, and then as many more as are allowed.
    cases most with
    | none =>
      refine LaysOut.congr ((ih.times least).comp ih.star) fun p q => ?_
      simp only [Regex.Leads, Option.mem_def, reduceCtorEq, false_implies, implies_true, true_and,
        times_add]
      exact ⟨fun ⟨m, h, n, h'⟩ => ⟨n, m, h, h'⟩, fun ⟨n, m, h, h'⟩ => ⟨m, h, n, h'⟩⟩
    | some most =>
      refine LaysOut.congr ((ih.times least).comp (ih.upTo (most - least))) fun p q => ?_
      simp only [Regex.Leads, Option.mem_def, Option.some.injEq, forall_eq', times_add]
      exact ⟨fun ⟨m, h, n, hn, h'⟩ => ⟨n, hn, m, h, h'⟩, fun ⟨n, hn, m, h, h'⟩ => ⟨m, h, n, hn, h'⟩⟩

/-- The program of an expression accepts from the places from which the expression leads
somewhere. -/
theorem Regex.accepts_program_iff (r : Regex) (p : Place) :
    Accepts r.program.code r.program.start p ↔ ∃ q, r.Leads p q := by
  have hlays := laysOut_layout r
  have haccept : r.program.code[0]? = some .accept :=
    (hlays.keeps ⟨#[.accept], 0⟩).getElem?_eq 0 Nat.zero_lt_one
  have hcarries : Carries r.program.code r.Leads r.program.start 0 :=
    hlays.carries ⟨#[.accept], 0⟩ r.program.code fun i _ _ => rfl
  constructor
  · rintro ⟨n, hn⟩
    obtain ⟨m, -, q, hpq, -⟩ := hcarries.through hn
    exact ⟨q, hpq⟩
  · rintro ⟨q, hpq⟩
    exact hcarries.along hpq ⟨0, .accept haccept⟩

end AccessPolicy.Pattern
