import SeriesQuery.Toml.Value

set_option autoImplicit false

/-!
# Building tables

How the tables of a document come about from headers and dotted keys. A table may be defined once. A
table that was only passed through on the way to another one can still be defined by its header, and
one that dotted keys made can be extended by further dotted keys of the same section. Nothing may be
added to a value that was written out, inline tables among them.
-/

namespace SeriesQuery.Toml

/-- A table or a value of a document that is being built. -/
inductive Node where
  | value (value : Toml)
  /-- A table: whether it was only passed through so far, whether dotted keys made it, and what it
  holds. -/
  | table (implicit dotted : Bool) (entries : List (String × Node))
  /-- An array of tables, the latest first, with what each holds. -/
  | tables (latest : List (String × Node)) (earlier : List (List (String × Node)))

/-- What a table that is being built holds. -/
abbrev Entries := List (String × Node)

/-- The entries with the one of a name replaced, or added after the others. -/
def put (name : String) (node : Node) : Entries → Entries
  | [] => [(name, node)]
  | (other, old) :: rest =>
    if other = name then (other, node) :: rest else (other, old) :: put name node rest

/-- Adds a value under a dotted key. `dotted` says whether dotted keys made the table: only such a
table may be reached through a dotted key. -/
def addValue (path : List String) (value : Toml) (through dotted : Bool) (entries : Entries) :
    Option Entries :=
  match path with
  | [] => none
  | [name] =>
    if through && !dotted then none
    else match entries.lookup name with
      | none => some (entries ++ [(name, .value value)])
      | some _ => none
  | name :: next :: rest =>
    match entries.lookup name with
    | none => do
      let inner ← addValue (next :: rest) value true true []
      return entries ++ [(name, .table true true inner)]
    | some (.table true made inner) => do
      let inner ← addValue (next :: rest) value true made inner
      return put name (.table true made inner) entries
    | some (.table false _ _) => none
    | some (.tables latest earlier) => do
      let latest ← addValue (next :: rest) value true false latest
      return put name (.tables latest earlier) entries
    | some (.value _) => none

def addValues (entries : Entries) (pairs : List (List String × Toml)) : Option Entries :=
  pairs.foldlM (fun entries (path, value) => addValue path value false false entries) entries

/-- Changes what the table at the end of a path of headers holds. Tables on the way that are not
there are made, and of an array of tables the latest is taken. -/
def within (path : List String) (change : Entries → Option Entries) (entries : Entries) :
    Option Entries :=
  match path with
  | [] => change entries
  | name :: rest =>
    match entries.lookup name with
    | none => do
      let inner ← within rest change []
      return put name (.table true false inner) entries
    | some (.table implicit dotted inner) => do
      let inner ← within rest change inner
      return put name (.table implicit dotted inner) entries
    | some (.tables latest earlier) => do
      let latest ← within rest change latest
      return put name (.tables latest earlier) entries
    | some (.value _) => none

inductive Header where
  /-- The front of the document, before any header. -/
  | root
  | table (path : List String) (name : String)
  /-- A further table of an array of tables. -/
  | item (path : List String) (name : String)

/-- A section of a document: a header, and the pairs of dotted keys and values after it. -/
structure Section where
  header : Header
  pairs : List (List String × Toml)

/-- Defines a table. It may not be there yet, unless it was only passed through by headers. -/
def defineTable (name : String) (pairs : List (List String × Toml)) (entries : Entries) :
    Option Entries :=
  match entries.lookup name with
  | none => do
    let inner ← addValues [] pairs
    return put name (.table false false inner) entries
  | some (.table true false inner) => do
    let inner ← addValues inner pairs
    return put name (.table false false inner) entries
  | some _ => none

/-- Adds a table to an array of tables, which may not be there yet. -/
def addItem (name : String) (pairs : List (List String × Toml)) (entries : Entries) :
    Option Entries :=
  match entries.lookup name with
  | none => do
    let inner ← addValues [] pairs
    return put name (.tables inner []) entries
  | some (.tables latest earlier) => do
    let inner ← addValues [] pairs
    return put name (.tables inner (latest :: earlier)) entries
  | some _ => none

def addSection (entries : Entries) (part : Section) : Option Entries :=
  match part.header with
  | .root => addValues entries part.pairs
  | .table path name => within path (defineTable name part.pairs) entries
  | .item path name => within path (addItem name part.pairs) entries

mutual

def Node.toValue : Node → Toml
  | .value value => value
  | .table _ _ entries => .table (toEntries entries)
  | .tables latest earlier => .array ((toTables earlier).reverse ++ [.table (toEntries latest)])

def toEntries : List (String × Node) → List (String × Toml)
  | [] => []
  | (name, node) :: rest => (name, node.toValue) :: toEntries rest

/-- The tables of an array of tables, in the order in which they are kept. -/
def toTables : List (List (String × Node)) → List Toml
  | [] => []
  | entries :: rest => .table (toEntries entries) :: toTables rest

end

def inlineTable? (pairs : List (List String × Toml)) : Option Toml :=
  (addValues [] pairs).map fun entries => .table (toEntries entries)

def ofSections? (sections : List Section) : Option Toml :=
  (sections.foldlM addSection []).map fun entries => .table (toEntries entries)

end SeriesQuery.Toml
