import AccessPolicy.Engine.Basic
import AccessPolicy.Proofs.Marker.Division
import Mathlib.Data.List.Induction
import Mathlib.Tactic.SplitIfs

/-!
# What registrations leave in place

A host registers sources of marker values, callbacks, clocks and handlers with an engine, in any
order and as often as it likes (`Engine.registerAll`). `Engine.registerAll_answers` says what
answers for each name of sources in the end: the source that was registered under it last, and for
`CALLBACK`, if a callback was what touched it last, all callbacks that were ever registered.

Callbacks are held in two places: a table of their own, which keeps them for good, and the source
under `CALLBACK`, which another source may displace. The two need not be in step all the time, and
the invariant does not ask for it. The source is that of the table whenever a callback was the last
to touch the name (`Engine.callbackSource_registerAll`), since whatever changes the table installs
it too; and the table holds the most recent callback under each name
(`Engine.callbacks_registerAll`), since nothing is ever taken out of it.
-/

namespace AccessPolicy

open Marker (Callback Resolver Source)

/-! ## Registrations -/

/-- Something that a host registers with an engine. -/
inductive Registration where
  | source (name : String) (source : Source)
  | callback (name : String) (callback : Callback)
  | clock (t : Calendar.Instant)
  | handler (category : String) (handler : Handler)

namespace Registration

/-- The name of sources that a registration touches. -/
def touched? : Registration → Option String
  | .source name _ => some name
  | .callback _ _ => some "CALLBACK"
  | .clock _ => some "DATETIME"
  | .handler _ _ => none

/-- The registration, if it touches a name of sources. -/
def touching? (name : String) (r : Registration) : Option Registration :=
  if r.touched? = some name then some r else none

/-- The source that is registered under a name. -/
def source? (name : String) : Registration → Option Source
  | .source n given => if n = name then some given else none
  | .clock t => if "DATETIME" = name then some (.clock t) else none
  | _ => none

/-- The callback that is registered under a name. -/
def callback? (name : String) : Registration → Option Callback
  | .callback n given => if n = name then some given else none
  | _ => none

section Latest

variable {α : Type} (of? : Registration → Option α)

/-- What the last of some registrations that has something of a kind has of it. -/
def latest? (rs : List Registration) : Option α :=
  (rs.filterMap of?).getLast?

/-- The last registration comes before all others. -/
theorem latest?_concat (rs : List Registration) (r : Registration) :
    latest? of? (rs ++ [r]) = (of? r).or (latest? of? rs) := by
  rw [latest?, latest?, List.filterMap_append, List.getLast?_append]
  rcases hr : of? r with _ | a <;> simp [hr]

end Latest

end Registration

namespace Engine

open Marker (sourceName sourcePath)
open Registration (callback? latest? latest?_concat source? touching?)

/-- The engine after a registration. -/
def register (e : Engine) : Registration → Engine
  | .source name source => e.registerSource name source
  | .callback name callback => e.registerCallback name callback
  | .clock t => e.setClock t
  | .handler category handler => e.registerHandler category handler

/-- The engine after some registrations in order. -/
def registerAll (e : Engine) (rs : List Registration) : Engine :=
  rs.foldl register e

/-- The source that a registration has left behind in an engine that no other one has changed
since. -/
def left? (e : Engine) : Registration → Option Source
  | .source _ given => some given
  | .callback _ _ => some (.callbacks e.callbacks)
  | .clock t => some (.clock t)
  | .handler _ _ => none

/-- What a registration has left behind is up to the callbacks that there are. -/
theorem left?_congr {e e' : Engine} (h : e.callbacks = e'.callbacks) (r : Registration) :
    e.left? r = e'.left? r := by
  cases r <;> simp only [left?, h]

/-! ## One registration -/

section Step

variable (e : Engine) (r : Registration)

/-- A registration changes nothing under the names that it does not touch. -/
theorem sources_register_of_ne {name : String} (h : r.touched? ≠ some name) :
    (e.register r).resolver.sources.get? name = e.resolver.sources.get? name := by
  have hinsert : ∀ n source, n ≠ name →
      (e.resolver.sources.insert n source).get? name = e.resolver.sources.get? name :=
    fun n source hn => by rw [Table.get?_insert, if_neg hn]
  cases r with
  | source n source => exact hinsert n source fun hn => h (congrArg some hn)
  | callback n callback => exact hinsert "CALLBACK" _ fun hn => h (congrArg some hn)
  | clock t => exact hinsert "DATETIME" _ fun hn => h (congrArg some hn)
  | handler category handler => rfl

/-- A registration leaves a source under the name that it touches. -/
theorem sources_register_self {name : String} (h : r.touched? = some name) :
    (e.register r).resolver.sources.get? name = (e.register r).left? r := by
  cases r with
  | source n given =>
    obtain rfl := Option.some_inj.mp h
    exact Table.get?_insert_self _ n given
  | callback n given =>
    obtain rfl := Option.some_inj.mp h
    exact Table.get?_insert_self _ "CALLBACK" _
  | clock t =>
    obtain rfl := Option.some_inj.mp h
    exact Table.get?_insert_self _ "DATETIME" _
  | handler category given => exact nomatch h

/-- A registration puts its source under its name, and a clock its own. Under `CALLBACK` this holds
of all registrations but those of callbacks. -/
theorem sources_register {name : String} (h : name ≠ "CALLBACK") :
    (e.register r).resolver.sources.get? name =
      (source? name r).or (e.resolver.sources.get? name) := by
  have hinsert : ∀ n source, (e.resolver.sources.insert n source).get? name =
      (if n = name then some source else none).or (e.resolver.sources.get? name) := by
    intro n source
    rw [Table.get?_insert]
    split_ifs <;> rfl
  cases r with
  | source n source => exact hinsert n source
  | callback n callback => exact e.sources_register_of_ne _ fun hn => h (Option.some_inj.mp hn).symm
  | clock t => exact hinsert "DATETIME" (.clock t)
  | handler category handler => rfl

/-- A callback is kept in the table of callbacks until another one is registered under its name. -/
theorem callbacks_register (name : String) :
    (e.register r).callbacks.get? name = (callback? name r).or (e.callbacks.get? name) := by
  cases r with
  | callback n callback =>
    show (e.callbacks.insert n callback).get? name = _
    rw [Table.get?_insert, callback?]
    split_ifs <;> rfl
  | _ => rfl

/-- The table of callbacks is changed by what touches the source of callbacks, and by nothing
else. -/
theorem callbacks_register_of_ne (h : r.touched? ≠ some "CALLBACK") :
    (e.register r).callbacks = e.callbacks := by
  cases r with
  | callback n given => exact absurd rfl h
  | _ => rfl

/-- The preference in merges is not for registrations to change. -/
theorem preferred_register : (e.register r).preferred = e.preferred := by
  cases r <;> rfl

end Step

/-! ## Registrations in a row -/

section Run

variable (e : Engine)

/-- The last registration is made after all others. -/
theorem registerAll_concat (rs : List Registration) (r : Registration) :
    e.registerAll (rs ++ [r]) = (e.registerAll rs).register r := by
  rw [registerAll, registerAll, List.foldl_append]
  rfl

/-- Any other name than `CALLBACK` has the source that was registered under it last. -/
theorem sources_registerAll {name : String} (h : name ≠ "CALLBACK") (rs : List Registration) :
    (e.registerAll rs).resolver.sources.get? name =
      (latest? (source? name) rs).or (e.resolver.sources.get? name) := by
  induction rs using List.reverseRecOn with
  | nil => rfl
  | append_singleton rs r ih =>
    rw [registerAll_concat, sources_register _ r h, ih, latest?_concat, Option.or_assoc]

/-- The table of callbacks has the callback that was registered last under each name. -/
theorem callbacks_registerAll (name : String) (rs : List Registration) :
    (e.registerAll rs).callbacks.get? name =
      (latest? (callback? name) rs).or (e.callbacks.get? name) := by
  induction rs using List.reverseRecOn with
  | nil => rfl
  | append_singleton rs r ih =>
    rw [registerAll_concat, callbacks_register, ih, latest?_concat, Option.or_assoc]

/-- The preference in merges is that of the engine. -/
theorem preferred_registerAll (rs : List Registration) :
    (e.registerAll rs).preferred = e.preferred := by
  induction rs using List.reverseRecOn with
  | nil => rfl
  | append_singleton rs r ih => rw [registerAll_concat, preferred_register, ih]

/-- Under `CALLBACK` is what the last registration that touched the name has left there. -/
theorem callbackSource_registerAll (rs : List Registration) :
    (e.registerAll rs).resolver.sources.get? "CALLBACK" =
      match latest? (touching? "CALLBACK") rs with
      | some r => (e.registerAll rs).left? r
      | none => e.resolver.sources.get? "CALLBACK" := by
  induction rs using List.reverseRecOn with
  | nil => rfl
  | append_singleton rs r ih =>
    rw [registerAll_concat, latest?_concat, touching?]
    by_cases hr : r.touched? = some "CALLBACK"
    · rw [if_pos hr]
      exact sources_register_self _ r hr
    · -- Neither the name nor the table of callbacks is touched, so both are still what they were.
      have hcallbacks := callbacks_register_of_ne (e.registerAll rs) r hr
      rw [if_neg hr, Option.none_or, sources_register_of_ne _ r hr, ih]
      rcases latest? (touching? "CALLBACK") rs with _ | s
      · rfl
      · exact (left?_congr hcallbacks s).symm

end Run

/-! ## Answers -/

/-- Engines with the same source under the name of a token answer it alike. -/
theorem ask_congr {e e' : Engine} {token : List Char}
    (h : e.resolver.sources.get? (sourceName token) = e'.resolver.sources.get? (sourceName token))
    (args : Args) : e.resolver.ask args token = e'.resolver.ask args token := by
  rw [Resolver.ask_eq, Resolver.ask_eq, h]

/-- What settings register with an engine that has nothing yet. -/
def registrationsOf (s : Settings) (now : Calendar.Instant) (environment : Table String) :
    List Registration :=
  [.source "ARGS" .args, .clock now, .source "CONST" (.constants s.constants)] ++
    if s.envEnabled then [.source "ENV" (.environment environment)] else []

/-- An engine of some settings is one with which they have registered their sources. -/
theorem ofSettings_eq (s : Settings) (now : Calendar.Instant) (environment : Table String) :
    ofSettings s now environment =
      (bare s.preferred).registerAll (registrationsOf s now environment) := by
  rw [ofSettings, registrationsOf]
  split <;> rfl

/-- Settings leave callbacks alone. -/
theorem latest?_registrationsOf (s : Settings) (now : Calendar.Instant)
    (environment : Table String) :
    latest? (touching? "CALLBACK") (registrationsOf s now environment) = none ∧
      ∀ name, latest? (callback? name) (registrationsOf s now environment) = none := by
  rw [registrationsOf]
  split <;> exact ⟨rfl, fun name => rfl⟩

/-- In an engine of any settings the clock stands under `DATETIME`. -/
theorem clock_ofSettings (s : Settings) (now : Calendar.Instant) (environment : Table String) :
    (ofSettings s now environment).resolver.sources.get? "DATETIME" = some (.clock now) := by
  have hlatest : latest? (source? "DATETIME") (registrationsOf s now environment) =
      some (.clock now) := by
    rw [registrationsOf]
    split <;> rfl
  rw [ofSettings_eq, sources_registerAll _ (by decide), hlatest, Option.some_or]

/-- The engine of some settings after some registrations. -/
def afterAll (s : Settings) (now : Calendar.Instant) (environment : Table String)
    (rs : List Registration) : Engine :=
  (ofSettings s now environment).registerAll rs

/-- After any registrations with an engine of any settings: a token is answered by the source that
was registered last under its name, or by the one of the settings, unless that name is `CALLBACK`.
If a callback was the last to touch `CALLBACK`, the callbacks are asked, all that were registered in
the meantime or before, and of those with one name the last; if a source was, it is asked alone; and
if nothing was, there is no answer. No registration changes the answers under a name that it does
not touch, nor the preference in merges. -/
theorem registerAll_answers (s : Settings) (now : Calendar.Instant) (environment : Table String)
    (rs : List Registration) :
    (∀ args token, sourceName token ≠ "CALLBACK" →
      (afterAll s now environment rs).resolver.ask args token =
        Source.answer ((latest? (source? (sourceName token)) rs).or
          ((ofSettings s now environment).resolver.sources.get? (sourceName token))) args token) ∧
    (∀ name last, latest? (touching? "CALLBACK") rs = some (.callback name last) →
      ∀ args (n : String),
        (afterAll s now environment rs).resolver.ask args ("CALLBACK".toList ++ '.' :: n.toList) =
          .ok ((latest? (callback? n) rs).map fun callback => callback args)) ∧
    (∀ name last, latest? (touching? "CALLBACK") rs = some (.source name last) →
      ∀ args token, sourceName token = "CALLBACK" →
        (afterAll s now environment rs).resolver.ask args token = last args (sourcePath token)) ∧
    (latest? (touching? "CALLBACK") rs = none →
      ∀ args token, sourceName token = "CALLBACK" →
        (afterAll s now environment rs).resolver.ask args token = .ok none) ∧
    (afterAll s now environment rs).preferred = s.preferred ∧
    ∀ (e : Engine) (r : Registration), (e.register r).preferred = e.preferred ∧
      ∀ args token, r.touched? ≠ some (sourceName token) →
        (e.register r).resolver.ask args token = e.resolver.ask args token := by
  have hconfigured := ofSettings_eq s now environment
  have hsettings := latest?_registrationsOf s now environment
  have hsource := (ofSettings s now environment).callbackSource_registerAll rs
  unfold afterAll
  refine ⟨fun args token hname => ?_, fun name last hlast args n => ?_,
    fun name last hlast args token hname => ?_, fun hlast args token hname => ?_, ?_,
    fun e r => ⟨e.preferred_register r, fun args token hname => ?_⟩⟩
  · rw [Resolver.ask_eq, sources_registerAll _ hname rs]
  · -- What a callback leaves under the name is the table with all callbacks that there are by now.
    have hdot : '.' ∉ "CALLBACK".toList := by decide
    have htable : ((ofSettings s now environment).registerAll rs).callbacks.get? n =
        latest? (callback? n) rs := by
      have hempty : (ofSettings s now environment).callbacks.get? n = none := by
        rw [hconfigured, callbacks_registerAll, hsettings.2]
        rfl
      rw [callbacks_registerAll, hempty, Option.or_none]
    rw [hlast] at hsource
    rw [Resolver.ask_eq, Marker.sourceName_append hdot, String.ofList_toList, hsource]
    show Source.callbacks _ args (sourcePath ("CALLBACK".toList ++ '.' :: n.toList)) = _
    rw [Marker.sourcePath_append hdot, Source.callbacks, String.ofList_toList, htable]
  · rw [hlast] at hsource
    rw [Resolver.ask_eq, hname, hsource]
    rfl
  · have hnone : (ofSettings s now environment).resolver.sources.get? "CALLBACK" = none := by
      rw [hconfigured, callbackSource_registerAll, hsettings.1]
      rfl
    rw [hlast] at hsource
    rw [Resolver.ask_eq, hname, hsource, hnone]
    rfl
  · rw [preferred_registerAll, hconfigured, preferred_registerAll]
    rfl
  · exact ask_congr (e.sources_register_of_ne r hname) args

/-- Two callbacks, and between them a source that displaces the first one. -/
def displacing : List Registration :=
  [.callback "owner" fun _ => .int 1,
    .source "CALLBACK" fun _ _ => .ok (some (.str "none of them")),
    .callback "guest.name" fun _ => .int 2]

/-- An engine without settings after some registrations. -/
def afterOnly (now : Calendar.Instant) (rs : List Registration) : Engine :=
  afterAll {} now ∅ rs

/-- The second callback brings the first one back. Before it the source answers for all callbacks,
after all of them other names are answered as the settings have it, and a handler changes
nothing. -/
theorem registerAll_answers_displacing : ∃ now : Calendar.Instant,
    (afterOnly now displacing).resolver.ask [] "CALLBACK.owner".toList = .ok (some (.int 1)) ∧
    (afterOnly now displacing).resolver.ask [] "CALLBACK.guest.name".toList = .ok (some (.int 2)) ∧
    (afterOnly now (displacing.take 2)).resolver.ask [] "CALLBACK.owner".toList =
      .ok (some (.str "none of them")) ∧
    (afterOnly now []).resolver.ask [] "CALLBACK.owner".toList = .ok none ∧
    (afterOnly now displacing).resolver.ask [] "DATETIME.U".toList = .ok (some (.int 0)) ∧
    ((afterOnly now displacing).register (.handler "Post" fun inst _ => [inst])).resolver.ask []
      "CALLBACK.owner".toList =
        (afterOnly now displacing).resolver.ask [] "CALLBACK.owner".toList := by
  have hanswers := registerAll_answers {} ⟨0, 0, by decide, by decide⟩ ∅
  -- The answer is that of the last registration under the name, whatever came before.
  have hcallbacks := (hanswers displacing).2.1 "guest.name" (fun _ => .int 2) rfl []
  refine ⟨_, hcallbacks "owner", hcallbacks "guest.name", ?_, ?_, ?_, ?_⟩
  · exact (hanswers (displacing.take 2)).2.2.1 "CALLBACK" _ rfl [] "CALLBACK.owner".toList
      (by decide +kernel)
  · exact (hanswers []).2.2.2.1 rfl [] "CALLBACK.owner".toList (by decide +kernel)
  · -- No registration names the clock, so that the settings answer.
    have hname : sourceName "DATETIME.U".toList = "DATETIME" := by decide +kernel
    refine ((hanswers displacing).1 [] "DATETIME.U".toList (by decide +kernel)).trans ?_
    rw [hname, clock_ofSettings]
    rfl
  · exact ((hanswers displacing).2.2.2.2.2 _ _).2 [] _ nofun

end Engine

end AccessPolicy
