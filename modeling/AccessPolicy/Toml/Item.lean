import AccessPolicy.Json.Basic

/-!
# Tables under construction

A TOML text builds its tables piece by piece: a key with dots makes the tables on its way, and so
does a header. Which tables may still be added to depends on how they came about, so that is kept
with each of them (`Origin`). A table that has a header cannot be reached by a dotted key of another
table, one that a dotted key has entered can no longer have a header, no table has two, and inline
tables and plain arrays are closed at once.
-/

namespace AccessPolicy.Toml

/-- How a table came about. -/
inductive Origin where
  /-- It is on the way of a header, and has none of its own yet. -/
  | passed
  /-- It is on the way of a dotted key, whether or not it is on that of a header too. -/
  | dotted
  /-- It has a header. -/
  | header
  deriving DecidableEq

/-- What a key of a table under construction stands for. -/
inductive Item where
  | value (v : Json)
  | table (origin : Origin) (items : List (String × Item))
  /-- An array of tables; only the last of them can be added to. -/
  | tables (done : List Json) (last : List (String × Item))

/-- The items of a table, by key. -/
abbrev Items := Entries Item

mutual

/-- The value that an item has come to be. -/
def Item.toJson : Item → Json
  | .value v => v
  | .table _ items => .obj (fieldsOf items)
  | .tables done last => .arr (done ++ [.obj (fieldsOf last)])

/-- The fields that the items of a table have come to be. -/
def fieldsOf : List (String × Item) → List (String × Json)
  | [] => []
  | (k, item) :: items => (k, item.toJson) :: fieldsOf items

end

namespace Items

/-- Whether a table may be entered on the way of a header or, if `byDots`, of a dotted key. -/
def mayEnter (byDots : Bool) (origin : Origin) : Bool :=
  !byDots || origin ≠ .header

/-- How a table has come about once a header or a dotted key has entered it. -/
def entered (byDots : Bool) (origin : Origin) : Origin :=
  if byDots then .dotted else origin

/-- The items with the table that a path leads to changed. Tables that are missing on the way are
made; none if the path leads through something that may not be entered. A dotted key can pass
through the last table of an array, but not add to it. -/
def change? (byDots : Bool) (f : Items → Option Items) : List String → Items → Option Items
  | [], items => f items
  | k :: path, items =>
    match Entries.get? items k with
    | none =>
      (change? byDots f path []).map fun inner =>
        Entries.insert items k (.table (entered byDots .passed) inner)
    | some (.value _) => none
    | some (.table origin inner) =>
      if mayEnter byDots origin then
        (change? byDots f path inner).map fun inner =>
          Entries.insert items k (.table (entered byDots origin) inner)
      else none
    | some (.tables done last) =>
      if byDots ∧ path = [] then none
      else (change? byDots f path last).map fun last => Entries.insert items k (.tables done last)

/-- The items with a value under a new key. -/
def addValue? (k : String) (v : Json) (items : Items) : Option Items :=
  match Entries.get? items k with
  | none => some (Entries.insert items k (.value v))
  | some _ => none

/-- The items with a value under a dotted key. -/
def addPair? (path : List String) (v : Json) (items : Items) : Option Items :=
  match path.getLast? with
  | none => none
  | some k => change? true (addValue? k v) path.dropLast items

/-- The items with a table under a key that has no header yet. -/
def openTable? (k : String) (items : Items) : Option Items :=
  match Entries.get? items k with
  | none => some (Entries.insert items k (.table .header []))
  | some (.table .passed inner) => some (Entries.insert items k (.table .header inner))
  | _ => none

/-- The items with one more table in an array of tables. -/
def openElement? (k : String) (items : Items) : Option Items :=
  match Entries.get? items k with
  | none => some (Entries.insert items k (.tables [] []))
  | some (.tables done last) =>
    some (Entries.insert items k (.tables (done ++ [.obj (fieldsOf last)]) []))
  | _ => none

/-- The items after a header. -/
def addHeader? (ofArray : Bool) (path : List String) (items : Items) : Option Items :=
  match path.getLast? with
  | none => none
  | some k => change? false (if ofArray then openElement? k else openTable? k) path.dropLast items

end Items

/-- The inline table of some pairs of dotted keys and values; none if they clash. -/
def inlineTable? (pairs : List (List String × Json)) : Option Json :=
  (pairs.foldlM (fun items p => Items.addPair? p.1 p.2 items) []).map fun items =>
    .obj (fieldsOf items)

end AccessPolicy.Toml
