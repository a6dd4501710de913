import StoryDirector.Json
/-!
# StoryDirector.Toml.Table

Building a document statement by statement. **A table can be written once: by a heading, by dotted
names or as a value, and never by two of these**; only a table that merely lies on the way to
another may get a heading of its own later. Whatever breaks this rule makes the document unreadable,
so every operation may fail.
-/

namespace StoryDirector.Toml

/-- How a table came into being. -/
inductive Origin where
  /-- By a heading. -/
  | heading
  /-- On the way of a heading to another table. -/
  | passing
  /-- By a dotted name. -/
  | dotted
  deriving DecidableEq

/-- What stands under a name in a document. -/
inductive Node where
  /-- A value, to which nothing can be added. -/
  | value (j : Json)
  /-- A table. -/
  | table (origin : Origin) (entries : List (String × Node))
  /-- A list of tables, to the last of which more can be added. -/
  | tables (items : List (List (String × Node)))

/-- The entries of a table. -/
abbrev Entries := List (String × Node)

namespace Entries

/-- The entries with something else under a name that has something already. -/
def replace (entries : Entries) (name : String) (node : Node) : Entries :=
  entries.map fun entry => if entry.1 = name then (name, node) else entry

/-- Changes the table at the end of a path and makes the tables missing on the way. Dotted names do
not lead into tables with a heading. The change is told how its table came into being. -/
def within (dotted : Bool) : (path : List String) → (Origin → Entries → Option Entries) → Origin →
    Entries → Option Entries
  | [], change, origin, entries => change origin entries
  | name :: rest, change, _, entries =>
    match Dict.value? entries name with
    | none =>
      let origin : Origin := if dotted then .dotted else .passing
      (within dotted rest change origin []).map fun made => entries ++ [(name, .table origin made)]
    | some (.value _) => none
    | some (.table origin inner) =>
      if dotted ∧ origin = .heading then none
      else (within dotted rest change origin inner).map fun changed =>
        entries.replace name (.table origin changed)
    | some (.tables items) =>
      match items.getLast? with
      | none => none
      | some last => (within dotted rest change .heading last).map fun changed =>
        entries.replace name (.tables (items.dropLast ++ [changed]))

/-- Gives a value a name in a table that came into being in some way. -/
def assign (path : List String) (name : String) (value : Json) (origin : Origin)
    (entries : Entries) : Option Entries :=
  within true path (fun origin entries =>
    if decide (origin = .dotted) = path.isEmpty then none
    else if (Dict.value? entries name).isSome then none
    else some (entries ++ [(name, .value value)])) origin entries

/-- Writes the heading of a table. -/
def openTable (path : List String) (name : String) (entries : Entries) : Option Entries :=
  within false path (fun _ entries =>
    match Dict.value? entries name with
    | none => some (entries ++ [(name, .table .heading [])])
    | some (.table .passing inner) => some (entries.replace name (.table .heading inner))
    | some _ => none) .heading entries

/-- Writes the heading of one more table in a list of tables. -/
def appendTable (path : List String) (name : String) (entries : Entries) : Option Entries :=
  within false path (fun _ entries =>
    match Dict.value? entries name with
    | none => some (entries ++ [(name, .tables [[]])])
    | some (.tables items) => some (entries.replace name (.tables (items ++ [[]])))
    | some _ => none) .heading entries

end Entries

mutual

/-- What stands under a name, as a value. -/
def Node.json : Node → Json
  | .value j => j
  | .table _ entries => .object (Dict.ofEntries (entriesJson entries))
  | .tables items => .array (tablesJson items)

/-- The entries of a table as values. -/
def entriesJson : List (String × Node) → List (String × Json)
  | [] => []
  | entry :: rest => entryJson entry :: entriesJson rest

/-- An entry of a table as a value. -/
def entryJson : String × Node → String × Json
  | (name, node) => (name, node.json)

/-- The tables of a list as values. -/
def tablesJson : List (List (String × Node)) → List Json
  | [] => []
  | entries :: rest => .object (Dict.ofEntries (entriesJson entries)) :: tablesJson rest

end

/-- The entries of a table as one value. -/
def Entries.json (entries : Entries) : Json :=
  (Node.table .heading entries).json

end StoryDirector.Toml
