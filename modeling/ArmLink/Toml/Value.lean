/-!
Values of TOML documents, and the tables that a document builds up line by line.

Each part of a document may add to tables that earlier parts began, but only in certain ways, so a
table under construction (`Node`) remembers how it came about.  `Node.value` forgets it again.
-/

namespace ArmLink.Toml

/-- A value of a document. -/
inductive Value where
  | text (text : String)
  | integer (n : Int)
  | float (x : Float)
  | boolean (b : Bool)
  /-- A date, a time, or both, as written. -/
  | moment (text : String)
  | array (items : List Value)
  | table (entries : List (String × Value))

/-- How a table came about. -/
inductive Origin where
  /-- A header names a table inside it. -/
  | implied
  | header
  /-- A dotted key leads through it. -/
  | dotted
deriving DecidableEq, Repr

/-- A value under construction. -/
inductive Node where
  /-- A value that is complete. -/
  | value (value : Value)
  | table (origin : Origin) (entries : List (String × Node))
  /-- Tables with one name, of which the last may grow; the last one comes first. -/
  | tables (last : List (String × Node)) (earlier : List (List (String × Node)))

/-- The entries of a table under construction. -/
abbrev Entries := List (String × Node)

mutual

def Node.toValue : Node → Value
  | .value value => value
  | .table _ entries => .table (entryValues entries)
  | .tables last earlier => .array (tableValues earlier [.table (entryValues last)])

def entryValues : List (String × Node) → List (String × Value)
  | [] => []
  | (key, node) :: rest => (key, node.toValue) :: entryValues rest

/-- The values of tables that are listed last one first, in front of further ones. -/
def tableValues : List (List (String × Node)) → List Value → List Value
  | [], behind => behind
  | entries :: earlier, behind => tableValues earlier (.table (entryValues entries) :: behind)

end

namespace Entries

def find? (entries : Entries) (key : String) : Option Node :=
  (List.find? (fun entry => entry.1 == key) entries).map (·.2)

/-- Replaces the node under a key, or adds it at the end. -/
def put (entries : Entries) (key : String) (node : Node) : Entries :=
  if entries.any (·.1 == key) then
    entries.map fun entry => if entry.1 == key then (key, node) else entry
  else
    entries ++ [(key, node)]

/-- Changes the table that a path leads to, making the tables on the way that are missing.  The
change is told how the table came about that it is made in, which is `here` for the empty path.  A
path goes through any table and through the last of several, but a dotted key goes through no table
that a header names. -/
def within (origin : Origin) (change : Origin → Entries → Option Entries) (here : Origin) :
    List String → Entries → Option Entries
  | [], entries => change here entries
  | key :: path, entries =>
    match entries.find? key with
    | none => do
      let inner ← within origin change origin path []
      return entries.put key (.table origin inner)
    | some (.table found inner) =>
      if origin = .dotted ∧ found = .header then none
      else do
        let inner ← within origin change found path inner
        return entries.put key (.table found inner)
    | some (.tables last earlier) => do
      let last ← within origin change .header path last
      return entries.put key (.tables last earlier)
    | some (.value _) => none

/-- Adds a value under a key that must be new. -/
def addNew (key : String) (value : Value) (entries : Entries) : Option Entries :=
  match entries.find? key with
  | none => some (entries.put key (.value value))
  | some _ => none

/-- Adds a value under a dotted key.  With dots, the table that gets it must have come about by
dotted keys as well. -/
def addPair (keys : List String) (value : Value) (here : Origin) (entries : Entries) :
    Option Entries :=
  let add (origin : Origin) (entries : Entries) : Option Entries :=
    if 1 < keys.length ∧ origin ≠ .dotted then none
    else addNew (keys.getLast?.getD "") value entries
  within .dotted add here keys.dropLast entries

/-- Begins the table that a header names.  It must be new, or known only because headers name tables
inside it. -/
def beginTable (key : String) (entries : Entries) : Option Entries :=
  match entries.find? key with
  | none => some (entries.put key (.table .header []))
  | some (.table .implied inner) => some (entries.put key (.table .header inner))
  | some _ => none

/-- Begins one more of the tables that a double header names. -/
def beginNext (key : String) (entries : Entries) : Option Entries :=
  match entries.find? key with
  | none => some (entries.put key (.tables [] []))
  | some (.tables last earlier) => some (entries.put key (.tables [] (last :: earlier)))
  | some _ => none

end Entries

end ArmLink.Toml
