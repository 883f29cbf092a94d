import EntityForms.Binary64.Basic

/-!
# TOML values

A configuration file is a table in the TOML format. A table remembers how it came about, because
that decides what may still be added to it: an inline table is complete, a table with a header of
its own is written once, a table that only longer headers imply can still get its header, and a
table that dotted keys made takes more dotted keys.
-/

namespace EntityForms

/-- How a table came about. -/
inductive Toml.Origin where
  /-- It is written between braces. -/
  | inline
  /-- It has a header. -/
  | header
  /-- It is part of the path in the header of another table. -/
  | implied
  /-- It is part of a dotted key. -/
  | dotted
  deriving DecidableEq, Repr

/-- A TOML value; a table lists its entries in the order in which they were made. -/
inductive Toml where
  | text (s : String)
  | integer (n : Int64)
  | float (x : Binary64)
  | bool (value : Bool)
  /-- A date, a time or both. -/
  | moment
  | array (items : List Toml)
  | table (origin : Toml.Origin) (entries : List (String × Toml))
  /-- The tables that repeated headers in double brackets make. -/
  | tables (items : List (List (String × Toml)))

namespace Toml

/-- The entries of a table, in order. -/
abbrev Entries := List (String × Toml)

/-! ## Adding to a table -/

/-- Replace the value of a key that has one. -/
def replace (key : String) (value : Toml) : Entries → Entries
  | [] => []
  | (k, v) :: rest => if k = key then (k, value) :: rest else (k, v) :: replace key value rest

/-- Give the last of several tables other entries. -/
def replaceLast (entries : Entries) : List Entries → List Entries
  | [] => []
  | [_] => [entries]
  | t :: ts => t :: replaceLast entries ts

/-- Apply `f` to the table at the end of a path of headers, making the tables that are missing. -/
def atHeader (f : Entries → Option Entries) : List String → Entries → Option Entries
  | [], entries => f entries
  | key :: path, entries =>
    match entries.lookup key with
    | none => (atHeader f path []).map fun inner ↦ entries ++ [(key, .table .implied inner)]
    | some (.table .inline _) => none
    | some (.table origin inner) =>
      (atHeader f path inner).map fun inner ↦ replace key (.table origin inner) entries
    | some (.tables items) => match items.getLast? with
      | some inner => (atHeader f path inner).map fun inner ↦
          replace key (.tables (replaceLast inner items)) entries
      | none => none
    | some _ => none

/-- Give a key of a table its only value. -/
def define (key : String) (value : Toml) (entries : Entries) : Option Entries :=
  if (entries.lookup key).isSome then none else some (entries ++ [(key, value)])

/--
Give a dotted key its value. The table that the value goes to is the one to which the whole path is
relative, or one that dotted keys made.
-/
def assign (key : String) (value : Toml) : List String → Entries → Option Entries
  | [], entries => define key value entries
  | part :: path, entries =>
    match entries.lookup part with
    | none => (assign key value path []).map fun inner ↦
        entries ++ [(part, .table .dotted inner)]
    | some (.table .dotted inner) =>
      (assign key value path inner).map fun inner ↦
        replace part (.table .dotted inner) entries
    | some (.table .implied inner) =>
      if path.isEmpty then none
      else (assign key value path inner).map fun inner ↦
        replace part (.table .implied inner) entries
    | some (.tables items) =>
      if path.isEmpty then none
      else match items.getLast? with
        | some inner => (assign key value path inner).map fun inner ↦
            replace part (.tables (replaceLast inner items)) entries
        | none => none
    | some _ => none

/-- A dotted key, its last part apart, with its value. -/
structure Pair where
  path : List String
  key : String
  value : Toml

/-- Give several dotted keys their values. -/
def assignAll : List Pair → Entries → Option Entries
  | [], entries => some entries
  | p :: pairs, entries => do
    let entries ← assign p.key p.value p.path entries
    assignAll pairs entries

/-! ## Documents -/

/-- A header with the pairs below it. -/
structure Section where
  /-- Whether the header is in double brackets. -/
  isItem : Bool
  path : List String
  key : String
  pairs : List Pair

/-- Add the table of a section to the table that its header names. -/
def Section.addTo (s : Section) (entries : Entries) : Option Entries :=
  match s.isItem, entries.lookup s.key with
  | false, none => do
    let inner ← assignAll s.pairs []
    some (entries ++ [(s.key, .table .header inner)])
  | false, some (.table .implied old) => do
    let inner ← assignAll s.pairs old
    some ((entries.filter fun e ↦ e.1 != s.key) ++ [(s.key, .table .header inner)])
  | true, none => do
    let inner ← assignAll s.pairs []
    some (entries ++ [(s.key, .tables [inner])])
  | true, some (.tables items) => do
    let inner ← assignAll s.pairs []
    some (replace s.key (.tables (items ++ [inner])) entries)
  | _, _ => none

/-- A document: the pairs before the first header and the sections. -/
structure Document where
  pairs : List Pair
  sections : List Section

/-- Add the tables of several sections. -/
def addSections : List Section → Entries → Option Entries
  | [], entries => some entries
  | s :: rest, entries => do
    let entries ← atHeader s.addTo s.path entries
    addSections rest entries

/-- The table that a document stands for, unless it defines something twice. -/
def Document.root? (d : Document) : Option Entries := do
  let entries ← assignAll d.pairs []
  addSections d.sections entries

end Toml

end EntityForms
