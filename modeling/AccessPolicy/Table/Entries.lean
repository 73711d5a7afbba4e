/-!
# Entries in key order

A list of named entries, kept in the order of their names and with no name twice. `get?` looks a
name up, `insert` writes an entry and keeps the order, `erase` drops one. The lemmas say what each
operation does to a look-up; `ext_of_get?` says that a look-up sees all there is.
-/

namespace AccessPolicy

/-- Named entries. -/
abbrev Entries (α : Type) := List (String × α)

namespace Entries

variable {α β : Type}

/-- The entry under a name. -/
def get? : Entries α → String → Option α
  | [], _ => none
  | e :: es, k => if e.1 = k then some e.2 else get? es k

/-- The entries with `v` under the name `k`, in place of what was there. -/
def insert : Entries α → String → α → Entries α
  | [], k, v => [(k, v)]
  | e :: es, k, v =>
    if k < e.1 then (k, v) :: e :: es
    else if e.1 = k then (k, v) :: es
    else e :: insert es k v

/-- The entries without the one under `k`. -/
def erase (es : Entries α) (k : String) : Entries α :=
  es.filter fun e => !decide (e.1 = k)

/-- The entries of a list of pairs in any order; of pairs with one name the last one counts. -/
def ofPairs (pairs : List (String × α)) : Entries α :=
  pairs.foldl (fun es e => insert es e.1 e.2) []

/-- The names. -/
def keys (es : Entries α) : List String :=
  es.map (·.1)

/-- Whether the names are in strictly increasing order. -/
def Sorted (es : Entries α) : Prop :=
  es.Pairwise fun a b => a.1 < b.1

/-- No entries are in order. -/
theorem sorted_nil : Sorted ([] : Entries α) :=
  List.Pairwise.nil

/-- Nothing is found under a key in front of all others. -/
theorem get?_eq_none_of_lt {es : Entries α} {k : String} (h : ∀ e ∈ es, k < e.1) :
    get? es k = none := by
  induction es with
  | nil => rfl
  | cons e es ih =>
    have hk : e.1 ≠ k := fun he => String.lt_irrefl k (he ▸ h e List.mem_cons_self)
    simp only [get?, hk, if_false]
    exact ih fun e' he' => h e' (List.mem_cons_of_mem e he')

/-- An insertion is seen under its own key and nowhere else. -/
theorem get?_insert (es : Entries α) (k k' : String) (v : α) :
    get? (insert es k v) k' = if k = k' then some v else get? es k' := by
  induction es with
  | nil => rfl
  | cons e es ih =>
    unfold insert
    split
    · rfl
    · split
      · next h =>
        subst h
        by_cases h : e.1 = k' <;> simp [get?, h]
      · next hne =>
        by_cases h : e.1 = k'
        · have : k ≠ k' := fun hk => hne (h.trans hk.symm)
          simp [get?, h, this]
        · simp [get?, h, ih]

/-- An entry found after an insertion is the inserted one or was there before. -/
theorem mem_insert {es : Entries α} {k : String} {v : α} {e : String × α}
    (h : e ∈ insert es k v) : e = (k, v) ∨ e ∈ es := by
  induction es with
  | nil => simpa [insert] using h
  | cons e' es ih =>
    unfold insert at h
    split at h
    · simpa using h
    · split at h
      · rcases List.mem_cons.1 h with h | h
        · exact .inl h
        · exact .inr (List.mem_cons_of_mem _ h)
      · rcases List.mem_cons.1 h with h | h
        · exact .inr (h ▸ List.mem_cons_self)
        · exact (ih h).imp_right (List.mem_cons_of_mem _)

/-- An insertion keeps the order of the keys. -/
theorem Sorted.insert {es : Entries α} (h : Sorted es) (k : String) (v : α) :
    Sorted (insert es k v) := by
  induction es with
  | nil => exact List.pairwise_singleton _ _
  | cons e es ih =>
    obtain ⟨hlt, hs⟩ := List.pairwise_cons.1 h
    unfold Entries.insert
    split
    · next hk =>
      refine List.pairwise_cons.2 ⟨fun e' he' => ?_, h⟩
      rcases List.mem_cons.1 he' with rfl | he'
      · exact hk
      · exact String.lt_trans hk (hlt e' he')
    · next hk =>
      split
      · next he =>
        subst he
        exact List.pairwise_cons.2 ⟨hlt, hs⟩
      · next hne =>
        refine List.pairwise_cons.2 ⟨fun e' he' => ?_, ih hs⟩
        rcases mem_insert he' with rfl | he'
        · exact Decidable.byContradiction fun hlt =>
            hne (String.le_antisymm (String.not_lt.1 hk) (String.not_lt.1 hlt))
        · exact hlt e' he'

/-- Entries made of pairs in any order are in order. -/
theorem Sorted.ofPairs (pairs : List (String × α)) : Sorted (Entries.ofPairs pairs) := by
  suffices h : ∀ es : Entries α, Sorted es →
      Sorted (pairs.foldl (fun es e => Entries.insert es e.1 e.2) es) from h [] sorted_nil
  induction pairs with
  | nil => exact fun es h => h
  | cons p ps ih => exact fun es h => ih _ (h.insert p.1 p.2)

/-- Entries made of pairs are among the pairs. -/
theorem mem_of_mem_ofPairs {pairs : List (String × α)} {e : String × α}
    (h : e ∈ ofPairs pairs) : e ∈ pairs := by
  suffices hall : ∀ es : Entries α, e ∈ pairs.foldl (fun es e => insert es e.1 e.2) es →
      e ∈ es ∨ e ∈ pairs from (hall [] h).resolve_left List.not_mem_nil
  clear h
  induction pairs with
  | nil => exact fun es h => .inl h
  | cons p ps ih =>
    intro es h
    rcases ih _ h with hes | hps
    · rcases mem_insert hes with rfl | hes
      · exact .inr List.mem_cons_self
      · exact .inl hes
    · exact .inr (List.mem_cons_of_mem p hps)

/-- An erasure keeps the order of the keys. -/
theorem Sorted.erase {es : Entries α} (h : Sorted es) (k : String) : Sorted (erase es k) :=
  List.Pairwise.filter _ h

/-- An erasure is seen under its own key and nowhere else. -/
theorem get?_erase (es : Entries α) (k k' : String) :
    get? (erase es k) k' = if k = k' then none else get? es k' := by
  induction es with
  | nil => simp [erase, get?]
  | cons e es ih =>
    unfold erase at ih ⊢
    by_cases he : e.1 = k
    · by_cases hk : k = k'
      · subst hk
        simpa [he] using ih
      · simpa [he, hk, get?] using ih
    · by_cases hk : e.1 = k'
      · have : k ≠ k' := fun h => he (hk.trans h.symm)
        simp [hk, Ne.symm this, this, get?]
      · simp [he, hk, get?, ih]

/-- Among entries in order, each is found under its key. -/
theorem get?_of_mem {es : Entries α} (h : Sorted es) {e : String × α} (he : e ∈ es) :
    get? es e.1 = some e.2 := by
  induction es with
  | nil => simp at he
  | cons e' es ih =>
    obtain ⟨hlt, hs⟩ := List.pairwise_cons.1 h
    rcases List.mem_cons.1 he with rfl | he
    · simp [get?]
    · have : e'.1 ≠ e.1 := fun hk => String.lt_irrefl e.1 (hk ▸ hlt e he)
      simp [get?, this, ih hs he]

/-- What is found is one of the entries. -/
theorem mem_of_get? {es : Entries α} {k : String} {v : α} (h : get? es k = some v) :
    (k, v) ∈ es := by
  induction es with
  | nil => simp [get?] at h
  | cons e es ih =>
    unfold get? at h
    split at h
    · next hk =>
      obtain rfl := Option.some.inj h
      exact hk ▸ List.mem_cons_self
    · exact List.mem_cons_of_mem _ (ih h)

/-- Entries in order that agree on every look-up are the same. -/
theorem ext_of_get? {es fs : Entries α} (he : Sorted es) (hf : Sorted fs)
    (h : ∀ k, get? es k = get? fs k) : es = fs := by
  induction es generalizing fs with
  | nil =>
    cases fs with
    | nil => rfl
    | cons f fs => simpa [get?] using h f.1
  | cons e es ih =>
    cases fs with
    | nil => simpa [get?] using h e.1
    | cons f fs =>
      obtain ⟨hel, hes⟩ := List.pairwise_cons.1 he
      obtain ⟨hfl, hfs⟩ := List.pairwise_cons.1 hf
      -- Neither first name is below the other, or it would be missing on the other side.
      have hk : e.1 = f.1 := by
        refine String.le_antisymm (String.not_lt.1 fun hlt => ?_) (String.not_lt.1 fun hlt => ?_)
        · have hn : get? (e :: es) f.1 = none := by
            refine get?_eq_none_of_lt fun e' he' => ?_
            rcases List.mem_cons.1 he' with rfl | he'
            · exact hlt
            · exact String.lt_trans hlt (hel e' he')
          have := h f.1
          rw [hn] at this
          simp [get?] at this
        · have hn : get? (f :: fs) e.1 = none := by
            refine get?_eq_none_of_lt fun f' hf' => ?_
            rcases List.mem_cons.1 hf' with rfl | hf'
            · exact hlt
            · exact String.lt_trans hlt (hfl f' hf')
          have := h e.1
          rw [hn] at this
          simp [get?] at this
      have hv : e.2 = f.2 := by simpa [get?, hk] using h f.1
      have hrest : ∀ k, get? es k = get? fs k := by
        intro k
        by_cases hek : e.1 = k
        · have h1 : get? es k = none := get?_eq_none_of_lt fun e' he' => hek ▸ hel e' he'
          have h2 : get? fs k = none :=
            get?_eq_none_of_lt fun f' hf' => hek ▸ hk ▸ hfl f' hf'
          rw [h1, h2]
        · have hfk : f.1 ≠ k := hk ▸ hek
          simpa [get?, hek, hfk] using h k
      rw [ih hes hfs hrest, Prod.ext hk hv]

/-- The entries with each value changed. -/
def mapValues (f : α → β) (es : Entries α) : Entries β :=
  es.map fun e => (e.1, f e.2)

/-- The values may be changed before or after the look-up. -/
theorem get?_mapValues (f : α → β) (es : Entries α) (k : String) :
    get? (mapValues f es) k = (get? es k).map f := by
  induction es with
  | nil => rfl
  | cons e es ih =>
    unfold mapValues at ih ⊢
    simp only [List.map_cons, get?, ih]
    split <;> rfl

end Entries

end AccessPolicy
