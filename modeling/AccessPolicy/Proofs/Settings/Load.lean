import AccessPolicy.Settings.Load
import Mathlib.Data.List.Basic

/-!
# Settings from a file and from a text

The settings of a file and those of its text come of the same layers, as long as no variable adds
one of its own (`load_eq_ofToml`). Of the files only one counts: the one that is asked for, which
has to exist (`load_eq_of_path`), or else the first default one that does (`load_eq_of_first`).
Whatever the layers are, settings pass a last check, so settings that are returned at all are usable
(`usable_of_load`).

A file and a text differ in one respect. A byte order mark is taken off a file before it is read as
TOML, and the reader of TOML takes one off as well, so a file may start with two of them and a text
may not.
-/

namespace AccessPolicy.Settings

open Toml (skipMark)

/-! ## Byte order marks -/

/-- Whether a text starts with two byte order marks. -/
def StartsWithTwoMarks (text : String) : Prop :=
  ∃ rest, text.toList = '\uFEFF' :: '\uFEFF' :: rest

/-- Another character than a byte order mark is not taken off. -/
theorem skipMark_cons_of_ne {c : Char} (hc : c ≠ '\uFEFF') (cs : List Char) :
    skipMark (c :: cs) = c :: cs :=
  if_neg fun h => hc (Char.toNat_inj.mp h)

/-- When a byte order mark has been taken off, no other is left in front, unless there were two. -/
theorem skipMark_skipMark {text : String} (h : ¬StartsWithTwoMarks text) :
    skipMark (skipMark text.toList) = skipMark text.toList := by
  cases hcs : text.toList with
  | nil => rfl
  | cons c cs =>
    by_cases hc : c = '\uFEFF'
    · subst hc
      -- A second mark behind the first one would make two of them.
      show skipMark cs = cs
      cases cs with
      | nil => rfl
      | cons d ds =>
        apply skipMark_cons_of_ne
        rintro rfl
        exact h ⟨ds, hcs⟩
    · rw [skipMark_cons_of_ne hc, skipMark_cons_of_ne hc]

/-- A text is read as TOML with or without the byte order mark in front of it. -/
theorem fields?_skipMark {text : String} (h : ¬StartsWithTwoMarks text) :
    Toml.fields? (String.ofList (skipMark text.toList)) = Toml.fields? text := by
  unfold Toml.fields?
  rw [String.toList_ofList, skipMark_skipMark h]

/-- No statement starts with a byte order mark. -/
theorem statement?_mark (rest : List Char) : Toml.statement? ('\uFEFF' :: rest) = none := by
  have hkey : Toml.keyPart? ('\uFEFF' :: rest) = none := by
    have hname : ('\uFEFF' :: rest).takeWhile Toml.isKeyChar = [] :=
      List.takeWhile_cons_of_neg (by decide)
    unfold Toml.keyPart?
    simp only [hname, if_true]
    exact if_neg (by decide)
  have hsign : Toml.keyAndSign? ('\uFEFF' :: rest) = none := by
    unfold Toml.keyAndSign?
    rw [Toml.maxParts, Toml.keyPath, hkey]
  unfold Toml.statement?
  rw [hsign]
  rfl

/-- A text that starts with two byte order marks is not a TOML text. -/
theorem fields?_of_startsWithTwoMarks {text : String} (h : StartsWithTwoMarks text) :
    Toml.fields? text = none := by
  obtain ⟨rest, htext⟩ := h
  have hskip : skipMark text.toList = '\uFEFF' :: rest := by rw [htext]; rfl
  -- The mark is no blank either, so it is left where the first statement is looked for.
  have hlines : Toml.skipLines false ('\uFEFF' :: rest) = some ('\uFEFF' :: rest) := rfl
  unfold Toml.fields?
  simp only [hskip]
  rw [Toml.statements, hlines]
  simp only [statement?_mark]
  rfl

/-! ## Variables -/

/-- A variable is no setting if its name, in lower case, does not start as those of settings do. -/
theorem variableKey?_eq_none {name : String} (h : ¬variableStart <+: (Text.lowercase name).toList) :
    variableKey? name = none := by
  unfold variableKey?
  rw [Option.map_eq_none_iff]
  cases hfront : variableStart.isPrefixOf? (Text.lowercase name).toList with
  | none => rfl
  | some rest =>
    have happend := List.isPrefixOf?_eq_some_iff_append_eq.mp hfront
    exact absurd ⟨rest, happend⟩ h

/-- Without such variables there are no settings from variables. -/
theorem ofVariables_eq_nil {environment : Table String}
    (h : ∀ name ∈ environment.keys, ¬variableStart <+: (Text.lowercase name).toList) :
    ofVariables environment = [] := by
  have hnone : environment.entries.filterMap
      (fun e => (variableKey? e.1).map fun key => (key, variableValue e.2)) = [] := by
    rw [List.filterMap_eq_nil_iff]
    intro e he
    have hname : e.1 ∈ environment.keys := List.mem_map_of_mem he
    rw [variableKey?_eq_none (h e.1 hname)]
    rfl
  unfold ofVariables
  rw [hnone]
  rfl

/-- A layer without settings changes nothing. -/
theorem read_append_nil (layers : List (List (String × Json))) :
    read (layers ++ [[]]) = read layers := by
  have hlayers : ofLayers (layers ++ [[]]) = ofLayers layers := by
    unfold ofLayers
    rw [List.foldl_append]
    rfl
  unfold read
  rw [hlayers]

/-! ## Files -/

/-- What there is to read where a file is. -/
theorem text?_of_node? {files : Files} {place : Place} {text : String}
    (h : files.node? place = some (.file text)) : files.text? place = some text := by
  unfold Files.text?
  rw [h]

/-- A file that is asked for has the same settings as its text without a byte order mark in front,
if no variable is a setting. -/
theorem load_eq_ofToml {files : Files} {environment : Table String} {path text : String}
    (hvariables : ∀ name ∈ environment.keys, ¬variableStart <+: (Text.lowercase name).toList)
    (hpath : path ≠ "") (hfile : files.node? (.ofPath path) = some (.file text)) :
    load files environment (some path) = ofToml (String.ofList (skipMark text.toList)) := by
  have hhas : files.has (.ofPath path) = true := by
    unfold Files.has
    rw [hfile]
    rfl
  -- A file that is asked for is the only layer of the files.
  have hlayers : fileLayers files (some path) =
      (fileLayer files (.ofPath path)).map fun layer => [layer] := if_pos ⟨hpath, hhas⟩
  unfold load
  rw [hlayers, ofVariables_eq_nil hvariables]
  unfold fileLayer ofToml
  simp only [text?_of_node? hfile]
  -- The variables make up a layer without settings.
  cases Toml.fields? (String.ofList (skipMark text.toList)) with
  | none => rfl
  | some fields => exact read_append_nil [fields]

/-- Files count by what is read at the one place that is chosen. -/
theorem fileLayer_congr {files others : Files} {place : Place}
    (h : files.text? place = others.text? place) :
    fileLayer files place = fileLayer others place := by
  unfold fileLayer
  rw [h]

/-- If a file is asked for, the files count by whether it is there and what is read in its place. -/
theorem load_eq_of_path {files others : Files} (environment : Table String) {path : String}
    (hhas : files.has (.ofPath path) = others.has (.ofPath path))
    (htext : files.text? (.ofPath path) = others.text? (.ofPath path)) :
    load files environment (some path) = load others environment (some path) := by
  have hlayers : fileLayers files (some path) = fileLayers others (some path) := by
    unfold fileLayers
    simp only [hhas, fileLayer_congr htext]
  unfold load
  rw [hlayers]

/-- If no file is asked for, the files count by what is read in the first default place where there
is something. -/
theorem load_eq_of_first {files others : Files} (environment : Table String)
    (hplace : defaultPlaces.find? files.has = defaultPlaces.find? others.has)
    (htext : ∀ place, defaultPlaces.find? files.has = some place →
      files.text? place = others.text? place) :
    load files environment none = load others environment none := by
  -- The files count by the first place only, and by what is read there.
  have hlayers : fileLayers files none = fileLayers others none := by
    unfold fileLayers
    rw [← hplace]
    cases hfirst : defaultPlaces.find? files.has with
    | none => rfl
    | some place =>
      exact congrArg (Except.map fun layer => [layer]) (fileLayer_congr (htext place hfirst))
  unfold load
  rw [hlayers]

/-- A path under which there is nothing is an error. -/
theorem load_of_not_has {files : Files} (environment : Table String) {path : String}
    (h : path = "" ∨ files.has (.ofPath path) = false) :
    load files environment (some path) = .error (.load (.notFound path)) := by
  have hmissing : ¬(path ≠ "" ∧ files.has (.ofPath path) = true) := by
    rintro ⟨hpath, hhas⟩
    rcases h with rfl | hnot
    · exact hpath rfl
    · rw [hhas] at hnot
      exact Bool.noConfusion hnot
  have hlayers : fileLayers files (some path) = .error (.load (.notFound path)) := if_neg hmissing
  unfold load
  rw [hlayers]
  rfl

/-! ## The last check -/

/-- Whether the level of the log is known and all constants have names. -/
structure Usable (s : Settings) : Prop where
  level_mem :
    Text.asciiLower (Text.trimmed s.level) ∈ ["trace", "debug", "info", "warn", "error", "off"]
  name_ne_empty : ∀ e ∈ s.constants, Text.trimmed e.1 ≠ ""

/-- Settings that pass the check are usable. -/
theorem usable_of_check {s s' : Settings} (h : s.check = .ok s') : Usable s' := by
  unfold check at h
  split at h
  · exact nomatch h
  · split at h
    · exact nomatch h
    · next hlevel =>
      split at h
      · exact nomatch h
      · next hnames =>
        obtain rfl : s = s' := Except.ok.inj h
        refine ⟨not_not.mp hlevel, fun e he hblank => hnames ?_⟩
        exact List.any_eq_true.mpr ⟨e, he, beq_iff_eq.mpr hblank⟩

/-- Settings that are read from some layers are usable. -/
theorem usable_of_read {layers : List (List (String × Json))} {s : Settings}
    (h : read layers = .ok s) : Usable s := by
  unfold read at h
  split at h
  · exact usable_of_check h
  · exact nomatch h

/-- Settings that are read from a text are usable. -/
theorem usable_of_ofToml {text : String} {s : Settings} (h : ofToml text = .ok s) : Usable s := by
  unfold ofToml at h
  split at h
  · exact usable_of_read h
  · exact nomatch h

/-- Settings that are loaded are usable, wherever they come from. -/
theorem usable_of_load {files : Files} {environment : Table String} {path : Option String}
    {s : Settings} (h : load files environment path = .ok s) : Usable s := by
  unfold load at h
  cases hlayers : fileLayers files path with
  | error fault =>
    rw [hlayers] at h
    exact nomatch h
  | ok layers =>
    rw [hlayers] at h
    exact usable_of_read h

/-! ## Files and texts -/

/-- If no variable is a setting, a file has the settings of its text without the byte order mark
that it may start with. These are the settings of the text itself unless it starts with two such
marks; then it is not a TOML text. Besides the variables only one file counts, by what is read in
its place: the one that is asked for, or else the one in the first default place where there is
something. What is read where there is a file is its text, and a path under which there is nothing
is an error. Settings that are returned have a known level and no constant without a name. -/
theorem load_agrees :
    (∀ (files : Files) (environment : Table String) (path text : String),
      (∀ name ∈ environment.keys, ¬"latch__".toList <+: (Text.lowercase name).toList) →
      path ≠ "" → files.node? (.ofPath path) = some (.file text) →
        load files environment (some path) = ofToml (String.ofList (skipMark text.toList)) ∧
        (¬StartsWithTwoMarks text → load files environment (some path) = ofToml text)) ∧
    (∀ text, StartsWithTwoMarks text → ofToml text = .error (.load .notToml)) ∧
    (∀ (files others : Files) (environment : Table String),
      (∀ path, files.has (.ofPath path) = others.has (.ofPath path) →
        files.text? (.ofPath path) = others.text? (.ofPath path) →
        load files environment (some path) = load others environment (some path)) ∧
      (defaultPlaces.find? files.has = defaultPlaces.find? others.has →
        (∀ place, defaultPlaces.find? files.has = some place →
          files.text? place = others.text? place) →
        load files environment none = load others environment none)) ∧
    (∀ (files : Files) (place : Place) (text : String),
      files.node? place = some (.file text) → files.text? place = some text) ∧
    (∀ (files : Files) (environment : Table String) (path : String),
      path = "" ∨ files.has (.ofPath path) = false →
      load files environment (some path) = .error (.load (.notFound path))) ∧
    (∀ (files : Files) (environment : Table String) (path : Option String) (s : Settings),
      load files environment path = .ok s → Usable s) ∧
    (∀ (text : String) (s : Settings), ofToml text = .ok s → Usable s) := by
  refine ⟨fun files environment path text hvariables hpath hfile => ?_, fun text htwo => ?_,
    fun _ _ environment => ⟨fun _ => load_eq_of_path environment, load_eq_of_first environment⟩,
    fun _ _ _ => text?_of_node?, fun _ environment _ => load_of_not_has environment,
    fun _ _ _ _ => usable_of_load, fun _ _ => usable_of_ofToml⟩
  · have hload := load_eq_ofToml hvariables hpath hfile
    refine ⟨hload, fun hmarks => ?_⟩
    -- Without two marks, what is read is the text either way.
    rw [hload]
    unfold ofToml
    rw [fields?_skipMark hmarks]
  · unfold ofToml
    rw [fields?_of_startsWithTwoMarks htwo]

/-- The files of the current directory alone. -/
def Files.ofCurrent (pairs : List (String × String)) : Files :=
  ⟨.ofPairs pairs, ∅, ∅⟩

/-- A file that starts with one byte order mark has the settings of its text. They are usable, and a
file in a later default place changes nothing. -/
theorem load_agrees_marked :
    let marked := "\uFEFF[merge]\npreference = \"allow\"\n"
    let files := Files.ofCurrent [("latch.toml", marked)]
    let others :=
      Files.ofCurrent [(".latch.toml", "[logging]\nlevel = \"loud\"\n"), ("latch.toml", marked)]
    let environment : Table String := .ofPairs [("HOME", "/root"), ("LATCH_LOGGING", "off")]
    load files environment (some "latch.toml") = ofToml marked ∧
      load files environment none = load others environment none ∧
      ∃ s, ofToml marked = .ok s ∧ s.preferred = .allow ∧ Usable s := by
  intro marked files others environment
  obtain ⟨hfile, -, hone, -, -, -, husable⟩ := load_agrees
  have hmarks : ¬StartsWithTwoMarks marked := by
    rintro ⟨rest, hrest⟩
    have hsecond : marked.toList[1]? = some '\uFEFF' := by rw [hrest]; rfl
    exact absurd hsecond (by decide)
  have hfirst : defaultPlaces.find? files.has = some (.current "latch.toml") := by decide +kernel
  refine ⟨(hfile files environment "latch.toml" marked (by decide +kernel) (by decide)
      (by decide +kernel)).2 hmarks,
    (hone files others environment).2 (by decide +kernel) ?_, ?_⟩
  · intro place hplace
    obtain rfl := Option.some_inj.mp (hfirst.symm.trans hplace)
    decide +kernel
  · -- The settings are named by what they are read from, since two of them cannot be compared.
    have hpreferred : (ofToml marked).toOption.map (·.preferred) = some .allow := by decide +kernel
    cases hread : ofToml marked with
    | error fault =>
      rw [hread] at hpreferred
      exact nomatch hpreferred
    | ok s =>
      rw [hread] at hpreferred
      exact ⟨s, rfl, Option.some_inj.mp hpreferred, husable marked s hread⟩

/-- A file that starts with two byte order marks has settings, and its text has none. A variable
whose name is in lower case is a setting like any other. Where the first default place is a
directory, a file beside it counts that has the ending of the format besides. -/
theorem load_disagrees :
    let allowing := "[merge]\npreference = \"allow\"\n"
    let marked := "\uFEFF\uFEFF" ++ allowing
    let files := Files.ofCurrent [("latch.toml", marked)]
    let bare := Files.ofCurrent [("latch.toml", "")]
    let directory := Files.ofCurrent [("latch.toml/notes", "")]
    let beside := Files.ofCurrent [("latch.toml/notes", ""), ("latch.toml.toml", allowing)]
    (files.node? (.ofPath "latch.toml") = some (.file marked) ∧
      (load files ∅ (some "latch.toml")).toOption.map (·.preferred) = some .allow ∧
      (ofToml marked).toOption.map (·.preferred) = none) ∧
    (bare.node? (.ofPath "latch.toml") = some (.file "") ∧
      (load bare (.ofPairs [("latch__merge__preference", "allow")])
        (some "latch.toml")).toOption.map (·.preferred) = some .allow ∧
      (ofToml "").toOption.map (·.preferred) = some .deny) ∧
    (defaultPlaces.find? directory.has = some (.current "latch.toml") ∧
      defaultPlaces.find? beside.has = some (.current "latch.toml") ∧
      directory.node? (.current "latch.toml") = beside.node? (.current "latch.toml") ∧
      (load directory ∅ none).toOption.map (·.preferred) = none ∧
      (load beside ∅ none).toOption.map (·.preferred) = some .allow) := by
  decide +kernel

end AccessPolicy.Settings
