import AccessPolicy.Marker.Resolver
import AccessPolicy.Proofs.Text.Cut
import Mathlib.Data.List.Basic

/-!
# How a text divides into markers and literal text

`MarkerAt` says of a place in a text that a marker starts there, and `Divides` reads a text from
left to right by it: where a marker starts it is taken as a whole, and elsewhere the literal text
reaches up to the next place where one starts, or to the end. Each text has one division of this
kind, which is that of `segments` (`divides_iff`), so `Resolver.resolve_divided` can say what a text
resolves to by its division alone. A dollar sign and an opening brace within a token are part of the
token, and those of an empty marker, or of one that is not closed, are literal text. A token divides
in turn, at its first dot, into the name of the source that it asks (`sourceName`) and the path that
it asks for (`sourcePath`).

There are two ways to resolve a text. One takes the value of a marker that stands alone and the
other puts the texts of values in the place of markers; they agree on the text
(`Resolver.resolveText_toList`).
-/

namespace AccessPolicy.Marker

/-! ## Where markers start -/

/-- Whether a marker with a token starts at the front of a text, and what stands behind it. -/
def MarkerAt (cs token rest : List Char) : Prop :=
  cs = '$' :: '\x7b' :: (token ++ '\x7d' :: rest) ∧ token ≠ [] ∧ '\x7d' ∉ token

/-- A marker is a dollar sign and an opening brace with a token behind them. -/
theorem markerAt_iff {cs token rest : List Char} :
    MarkerAt cs token rest ↔ ∃ behind, cs = '$' :: '\x7b' :: behind ∧
      token? behind = some (token, rest) := by
  constructor
  · rintro ⟨rfl, hne, hmem⟩
    refine ⟨_, rfl, ?_⟩
    -- The token is not empty, so that no closing brace stands at its front.
    obtain ⟨c, token, rfl⟩ := List.exists_cons_of_ne_nil hne
    rw [token?, Text.cut_append_cons hmem]
  · rintro ⟨behind, rfl, h⟩
    unfold token? at h
    split at h
    · next c front back hcut =>
      obtain ⟨rfl, rfl⟩ := Prod.mk.inj (Option.some_inj.mp h)
      obtain ⟨rfl, hmem⟩ := Text.cut_eq_some_iff.mp hcut
      exact ⟨rfl, List.cons_ne_nil c front, hmem⟩
    · exact nomatch h

/-- Whether a marker starts at the front of a text. -/
def StartsMarker (cs : List Char) : Prop :=
  ∃ token rest, MarkerAt cs token rest

/-- A marker starts where the dollar sign and the opening brace are not followed by a closing brace
at once, but by one later on. -/
theorem startsMarker_iff {cs : List Char} :
    StartsMarker cs ↔ ∃ behind, cs = '$' :: '\x7b' :: behind ∧ behind.head? ≠ some '\x7d' ∧
      '\x7d' ∈ behind := by
  constructor
  · rintro ⟨token, rest, rfl, hne, hmem⟩
    obtain ⟨c, token, rfl⟩ := List.exists_cons_of_ne_nil hne
    refine ⟨_, rfl, ?_, by simp⟩
    rw [List.cons_append, List.head?_cons]
    exact fun h => hmem (Option.some_inj.mp h ▸ List.mem_cons_self)
  · rintro ⟨behind, rfl, hhead, hmem⟩
    -- The first closing brace ends the token.
    obtain ⟨token, rest, rfl, hfirst⟩ := List.eq_append_cons_of_mem hmem
    refine ⟨token, rest, rfl, ?_, hfirst⟩
    rintro rfl
    exact hhead rfl

/-! ## Divisions -/

/-- The division of a text into markers and literal text, from left to right: a marker where one
starts, and literal text up to the next marker or the end elsewhere. -/
inductive Divides : List Char → List Segment → Prop where
  | nil : Divides [] []
  | marker {cs token rest : List Char} {segs : List Segment} :
    MarkerAt cs token rest → Divides rest segs → Divides cs (.marker token :: segs)
  | text {literal rest : List Char} {segs : List Segment} (nonempty : literal ≠ [])
    (clear : ∀ before behind, literal = before ++ behind → behind ≠ [] →
      ¬StartsMarker (behind ++ rest))
    (stop : rest = [] ∨ StartsMarker rest) :
    Divides rest segs → Divides (literal ++ rest) (.text literal :: segs)

/-- A marker at the front of a text is its first part. -/
theorem segments_of_markerAt {cs token rest : List Char} (h : MarkerAt cs token rest) :
    segments cs = .marker token :: segments rest := by
  obtain ⟨behind, rfl, htoken⟩ := markerAt_iff.mp h
  rw [segments]
  split
  · next token' rest' htoken' =>
    obtain ⟨rfl, rfl⟩ := Prod.mk.inj (Option.some_inj.mp (htoken.symm.trans htoken'))
    rfl
  · next hnone => exact absurd (htoken.symm.trans hnone) (Option.some_ne_none _)

/-- A character at which no marker starts goes to the literal text in front of the parts that
follow. -/
theorem segments_cons {c : Char} {cs : List Char} (h : ¬StartsMarker (c :: cs)) :
    segments (c :: cs) = consChar c (segments cs) := by
  rw [segments.eq_def]
  split
  · next heq => exact absurd heq (List.cons_ne_nil c cs)
  · next behind heq =>
    obtain ⟨rfl, rfl⟩ := List.cons.inj heq
    split
    · next token rest htoken => exact absurd ⟨token, rest, markerAt_iff.mpr ⟨_, rfl, htoken⟩⟩ h
    · rfl
  · next heq =>
    obtain ⟨rfl, rfl⟩ := List.cons.inj heq
    rfl

/-- The parts of a text start with literal text unless a marker starts there. -/
theorem startsMarker_of_segments {cs token : List Char} {segs : List Segment}
    (h : segments cs = .marker token :: segs) : StartsMarker cs := by
  by_contra hno
  cases cs with
  | nil => simp [segments] at h
  | cons c cs =>
    rw [segments_cons hno] at h
    unfold consChar at h
    split at h <;> cases h

/-- One more character, at which no marker starts, in front of a divided text. -/
theorem Divides.consChar {c : Char} {cs : List Char} (h : ¬StartsMarker (c :: cs))
    (hd : Divides cs (segments cs)) : Divides (c :: cs) (Marker.consChar c (segments cs)) := by
  generalize hsegs : segments cs = segs at hd
  -- The character is a literal text of its own unless the next part is literal text as well.
  have hsingle : ∀ before behind, [c] = before ++ behind → behind ≠ [] →
      ¬StartsMarker (behind ++ cs) := by
    intro before behind heq hne
    rcases List.append_eq_singleton_iff.mp heq.symm with ⟨-, rfl⟩ | ⟨-, rfl⟩
    · exact h
    · exact absurd rfl hne
  cases hd with
  | nil => exact .text (List.cons_ne_nil c []) hsingle (.inl rfl) .nil
  | marker hat hrest =>
    exact .text (List.cons_ne_nil c []) hsingle (.inr ⟨_, _, hat⟩) (.marker hat hrest)
  | @text literal rest segs hne hclear hstop hrest =>
    refine .text (List.cons_ne_nil c literal) (fun before behind heq hbehind => ?_) hstop hrest
    cases before with
    | nil =>
      rw [List.nil_append] at heq
      rw [← heq]
      exact h
    | cons b before => exact hclear before behind (List.cons.inj heq).2 hbehind

/-- The parts that `segments` finds are a division of the text. -/
theorem divides_segments (cs : List Char) : Divides cs (segments cs) := by
  induction hn : cs.length using Nat.strongRecOn generalizing cs with
  | _ n ih =>
    by_cases hstart : StartsMarker cs
    · -- A marker is taken off the front, and what follows it is divided in the same way.
      obtain ⟨token, rest, hat⟩ := hstart
      rw [segments_of_markerAt hat]
      refine .marker hat (ih rest.length ?_ rest rfl)
      rw [← hn, hat.1]
      simp only [List.length_cons, List.length_append]
      omega
    · cases cs with
      | nil =>
        rw [segments]
        exact .nil
      -- Where no marker starts, one character of literal text is taken off.
      | cons c cs =>
        rw [segments_cons hstart]
        refine .consChar hstart (ih cs.length ?_ cs rfl)
        rw [← hn, List.length_cons]
        omega

/-- Literal text at which no marker starts is the first part, as a whole, of a text that goes on
with a marker or not at all. -/
theorem segments_append {literal rest : List Char} (hne : literal ≠ [])
    (hclear : ∀ before behind, literal = before ++ behind → behind ≠ [] →
      ¬StartsMarker (behind ++ rest))
    (hstop : rest = [] ∨ StartsMarker rest) :
    segments (literal ++ rest) = .text literal :: segments rest := by
  induction literal with
  | nil => exact absurd rfl hne
  | cons c literal ih =>
    -- Nowhere in the literal text does a marker start, and so neither at its front.
    have hstart : ¬StartsMarker (c :: (literal ++ rest)) :=
      hclear [] (c :: literal) rfl (List.cons_ne_nil c literal)
    rw [List.cons_append, segments_cons hstart]
    by_cases hlast : literal = []
    · subst hlast
      rw [List.nil_append]
      -- Behind the last character of the literal text there is nothing, or a marker.
      rcases hstop with rfl | ⟨token, behind, hat⟩
      · rw [segments, Marker.consChar.eq_def]
      · rw [segments_of_markerAt hat, Marker.consChar.eq_def]
    · rw [ih hlast fun before behind heq =>
        hclear (c :: before) behind (by rw [heq, List.cons_append]), Marker.consChar]

/-- A text has one division, which is that of `segments`. -/
theorem divides_iff {cs : List Char} {segs : List Segment} :
    Divides cs segs ↔ segs = segments cs := by
  refine ⟨fun h => ?_, fun h => h ▸ divides_segments cs⟩
  induction h with
  | nil => rw [segments]
  | marker hat _ ih => rw [segments_of_markerAt hat, ih]
  | text hne hclear hstop _ ih => rw [segments_append hne hclear hstop, ih]

/-! ## Texts with a marker -/

/-- Literal text in front does not make or unmake a marker. -/
theorem any_consChar (c : Char) (segs : List Segment) :
    (consChar c segs).any Segment.isMarker = segs.any Segment.isMarker := by
  unfold consChar
  split <;> simp [Segment.isMarker]

/-- The parts of a text have a marker among them if a marker starts anywhere in the text: what is
taken for a token before that place does not reach beyond it without being a marker itself. -/
theorem any_segments_iff (cs : List Char) :
    (segments cs).any Segment.isMarker = true ↔ ∃ before behind, cs = before ++ behind ∧
      StartsMarker behind := by
  induction cs with
  | nil =>
    rw [segments]
    simp [StartsMarker, MarkerAt]
  | cons c cs ih =>
    -- A marker at the front is the first part, and the empty text stands before it.
    by_cases hstart : StartsMarker (c :: cs)
    · obtain ⟨token, rest, hat⟩ := hstart
      rw [segments_of_markerAt hat]
      simp only [List.any_cons, Segment.isMarker, Bool.true_or, true_iff]
      exact ⟨[], c :: cs, rfl, token, rest, hat⟩
    · rw [segments_cons hstart, any_consChar, ih]
      constructor
      · rintro ⟨before, behind, rfl, hbehind⟩
        exact ⟨c :: before, behind, rfl, hbehind⟩
      · rintro ⟨before, behind, heq, hbehind⟩
        -- At the front none starts, so that what stands before it has the first character.
        cases before with
        | nil => exact absurd (heq ▸ hbehind) hstart
        | cons b before => exact ⟨before, behind, (List.cons.inj heq).2, hbehind⟩

/-- A text holds a marker if one starts anywhere in it. -/
theorem hasMarker_iff {s : String} :
    hasMarker s = true ↔ ∃ before behind, s.toList = before ++ behind ∧ StartsMarker behind :=
  any_segments_iff s.toList

/-- A marker that stands alone is all of a text. -/
theorem segments_eq_singleton_iff {cs token : List Char} :
    segments cs = [.marker token] ↔ MarkerAt cs token [] := by
  constructor
  · intro h
    obtain ⟨token', rest, hat⟩ := startsMarker_of_segments h
    rw [segments_of_markerAt hat] at h
    obtain ⟨htoken, hrest⟩ := List.cons.inj h
    obtain rfl := Segment.marker.inj htoken
    have hsource := source_segments rest
    rw [hrest, List.flatMap_nil] at hsource
    exact hsource ▸ hat
  · intro hat
    rw [segments_of_markerAt hat, segments]

/-! ## Tokens and what answers them -/

/-- The name of the source that a token asks. -/
def sourceName (token : List Char) : String :=
  String.ofList (Text.cut '.' token).1

/-- The path that a token asks for. -/
def sourcePath (token : List Char) : List Char :=
  (Text.cut '.' token).2.getD []

/-- What a source answers to a token; nothing if there is no source. -/
def Source.answer (source? : Option Source) (args : Args) (token : List Char) :
    Except Calendar.Unwritable (Option Json) :=
  match source? with
  | none => .ok none
  | some source => source args (sourcePath token)

/-- A token is answered by what stands under its name. -/
theorem Resolver.ask_eq (r : Resolver) (args : Args) (token : List Char) :
    r.ask args token = Source.answer (r.sources.get? (sourceName token)) args token :=
  rfl

/-- The name of a token with a path is what stands before the path. -/
theorem sourceName_append {name : List Char} (h : '.' ∉ name) (path : List Char) :
    sourceName (name ++ '.' :: path) = String.ofList name := by
  rw [sourceName, Text.cut_append_cons h]

/-- The path of a token is all that stands behind its name. -/
theorem sourcePath_append {name : List Char} (h : '.' ∉ name) (path : List Char) :
    sourcePath (name ++ '.' :: path) = path := by
  rw [sourcePath, Text.cut_append_cons h]
  rfl

/-! ## What a text resolves to -/

namespace Resolver

variable (r : Resolver) (args : Args)

/-- A marker that stands alone resolves to its value. -/
theorem resolve_of_markerAt {template : String} {token : List Char}
    (h : MarkerAt template.toList token []) : r.resolve args template = r.lookup args token := by
  rw [resolve, segments_eq_singleton_iff.mpr h]

/-- Any other text resolves to the texts of its parts, one after the other. -/
theorem resolve_of_not_markerAt {template : String}
    (h : ∀ token, ¬MarkerAt template.toList token []) :
    r.resolve args template =
      .str (String.ofList ((segments template.toList).flatMap (r.segmentChars args))) := by
  unfold resolve
  split
  · next token hsegs => exact absurd (segments_eq_singleton_iff.mp hsegs) (h token)
  · rfl

/-- A marker behind literal text resolves to the text of both. -/
theorem resolve_behind {template : String} {front token : List Char}
    (h : Divides template.toList [.text front, .marker token]) :
    r.resolve args template = .str (String.ofList front ++ spliced (r.lookup args token)) := by
  have htext : String.ofList ([Segment.text front, .marker token].flatMap (r.segmentChars args)) =
      String.ofList front ++ spliced (r.lookup args token) := by
    rw [List.flatMap_cons, List.flatMap_singleton, segmentChars, segmentChars, String.ofList_append,
      String.ofList_toList]
  rw [resolve, ← divides_iff.mp h]
  exact congrArg Json.str htext

/-- The text that a text resolves to is made up of the texts of its parts, whether it is a single
marker or not. -/
theorem resolveText_toList (template : String) :
    (r.resolveText args template).toList =
      (segments template.toList).flatMap (r.segmentChars args) := by
  rw [resolveText]
  by_cases h : ∃ token, MarkerAt template.toList token []
  · obtain ⟨token, hat⟩ := h
    rw [resolve_of_markerAt r args hat, segments_eq_singleton_iff.mpr hat, List.flatMap_singleton,
      segmentChars]
  · rw [resolve_of_not_markerAt r args (not_exists.mp h), spliced, String.toList_ofList]

/-- A text has one division into markers and literal text, by which it is resolved. Its text is that
of the parts in order, literal text being left as it is and the text of a value put in the place of
each marker. It resolves to the value itself if it is a marker that stands alone, and to its text
otherwise. It holds a marker if its division does, or if anywhere in it a dollar sign and an opening
brace are followed by a closing brace, but not at once. -/
theorem resolve_divided (template : String) :
    ∃ segs, (∀ parts, Divides template.toList parts ↔ parts = segs) ∧
      (r.resolveText args template).toList = segs.flatMap (fun
        | .text literal => literal
        | .marker token => (spliced (r.lookup args token)).toList) ∧
      (∀ token, MarkerAt template.toList token [] →
        r.resolve args template = r.lookup args token ∧
          r.resolveText args template = spliced (r.lookup args token)) ∧
      ((∀ token, ¬MarkerAt template.toList token []) →
        r.resolve args template = .str (r.resolveText args template)) ∧
      (hasMarker template = true ↔ ∃ token, .marker token ∈ segs) ∧
      (hasMarker template = true ↔ ∃ before behind,
        template.toList = before ++ '$' :: '\x7b' :: behind ∧ behind.head? ≠ some '\x7d' ∧
          '\x7d' ∈ behind) := by
  refine ⟨segments template.toList, fun parts => divides_iff, ?_, fun token hat => ?_,
    fun hno => ?_, ?_, ?_⟩
  · rw [resolveText_toList]
    -- Each part gives the same characters in either reading.
    refine congrArg (List.flatMap · (segments template.toList)) (funext fun seg => ?_)
    cases seg <;> rfl
  · exact ⟨resolve_of_markerAt r args hat, by rw [resolveText, resolve_of_markerAt r args hat]⟩
  · rw [resolve_of_not_markerAt r args hno, ← resolveText_toList, String.ofList_toList]
  · rw [hasMarker, List.any_eq_true]
    constructor
    · rintro ⟨seg, hmem, hmarker⟩
      cases seg with
      | text literal => exact nomatch hmarker
      | marker token => exact ⟨token, hmem⟩
    · rintro ⟨token, hmem⟩
      exact ⟨.marker token, hmem, rfl⟩
  · rw [hasMarker_iff]
    constructor
    · rintro ⟨before, cs, heq, hstart⟩
      obtain ⟨behind, rfl, hhead, hmem⟩ := startsMarker_iff.mp hstart
      exact ⟨before, behind, heq, hhead, hmem⟩
    · rintro ⟨before, behind, heq, hhead, hmem⟩
      exact ⟨before, _, heq, startsMarker_iff.mpr ⟨behind, rfl, hhead, hmem⟩⟩

end Resolver

end AccessPolicy.Marker
