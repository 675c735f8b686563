import BayesLex.Text.Basic

/-!
# Values of a TOML document

A configuration consists of truth values, so a document keeps these and the
tables around them; any other value is only checked for its form.

A table can be added to according to how it came about: a header may open a
table once, and a dotted key may add only to tables that dotted keys made.
-/

namespace BayesLex.Toml

/-- How a table came about. -/
inductive TableForm where
  /-- By the header of a table inside it. -/
  | implicit
  /-- By a header of its own. -/
  | explicit
  /-- By a dotted key. -/
  | dotted
  deriving DecidableEq

/-- A value as far as a configuration needs it. -/
inductive Value where
  | boolean (value : Bool)
  /-- Any other value to which nothing can be added. -/
  | closed
  | table (form : TableForm) (entries : List (Text × Value))
  /-- Tables opened one after the other under the same name. -/
  | tables (items : List (List (Text × Value)))

/-- Keys with their values. -/
abbrev Entries := List (Text × Value)

namespace Entries

/-- Add a value under a new key. -/
def add (entries : Entries) (key : Text) (value : Value) : Entries :=
  entries ++ [(key, value)]

/-- Put a value in the place of another one. -/
def replace (entries : Entries) (key : Text) (value : Value) : Entries :=
  entries.map fun entry => if entry.1 = key then (key, value) else entry

/-- Change the last of some tables. -/
def changeLast (change : Entries → Option Entries) :
    List Entries → Option (List Entries)
  | [] => none
  | [last] => (change last).map ([·])
  | first :: rest => (changeLast change rest).map (first :: ·)

/--
Change the table at a path of headers.  Tables that are missing on the way
come about, and of several tables under one name the last is meant.
-/
def modify (change : Entries → Option Entries) :
    List Text → Entries → Option Entries
  | [], entries => change entries
  | key :: path, entries =>
      match entries.lookup key with
      | none =>
          (modify change path []).map fun inner =>
            entries.add key (.table .implicit inner)
      | some (.table form inner) =>
          (modify change path inner).map fun inner =>
            entries.replace key (.table form inner)
      | some (.tables items) =>
          (changeLast (modify change path) items).map fun items =>
            entries.replace key (.tables items)
      | some _ => none

/-- Open a table by its header. -/
def openTable (key : Text) (entries : Entries) : Option Entries :=
  match entries.lookup key with
  | none => some (entries.add key (.table .explicit []))
  | some (.table .implicit inner) =>
      some (entries.replace key (.table .explicit inner))
  | some _ => none

/-- Open another table under the same name. -/
def openItem (key : Text) (entries : Entries) : Option Entries :=
  match entries.lookup key with
  | none => some (entries.add key (.tables [[]]))
  | some (.tables items) =>
      some (entries.replace key (.tables (items ++ [[]])))
  | some _ => none

/--
Insert a value at a path of keys.  The last key must be new, and the table
that takes it must be `ready` for it: the table of the line itself, or one
made by dotted keys.
-/
def insert (value : Value) : Bool → List Text → Entries → Option Entries
  | _, [], _ => none
  | ready, [key], entries =>
      if ready && (entries.lookup key).isNone then
        some (entries.add key value)
      else
        none
  | _, key :: next :: path, entries =>
      match entries.lookup key with
      | none =>
          (insert value true (next :: path) []).map fun inner =>
            entries.add key (.table .dotted inner)
      | some (.table .dotted inner) =>
          (insert value true (next :: path) inner).map fun inner =>
            entries.replace key (.table .dotted inner)
      | some (.table .implicit inner) =>
          (insert value false (next :: path) inner).map fun inner =>
            entries.replace key (.table .implicit inner)
      | some (.tables items) =>
          (changeLast (insert value false (next :: path)) items).map
            fun items => entries.replace key (.tables items)
      | some _ => none

end Entries

end BayesLex.Toml
