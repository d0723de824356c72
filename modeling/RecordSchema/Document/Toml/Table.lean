import RecordSchema.Document.Basic

namespace RecordSchema.Toml

/-- A value under construction. `pending` tables were only passed through on the way to another key;
`dotted` ones were made by a dotted key. -/
inductive Node where
  | value (document : Document)
  | table (pending dotted : Bool) (entries : List (String × Node))
  | tables (items : List (List (String × Node)))

abbrev Entries := List (String × Node)

def Entries.replace (entries : Entries) (key : String) (node : Node) : Entries :=
  entries.map fun entry => if entry.1 = key then (key, node) else entry

def descend (byDots : Bool) (change : Bool → Entries → Option Entries) :
    (here : Bool) → Entries → List String → Option Entries
  | here, entries, [] => change here entries
  | _, entries, key :: path =>
    match entries.lookup key with
    | none => do
      let inner ← descend byDots change byDots [] path
      some (entries ++ [(key, .table true byDots inner)])
    | some (.value _) => none
    | some (.table pending dotted inner) =>
      if byDots && !pending then none
      else do
        let inner ← descend byDots change dotted inner path
        some (entries.replace key (.table pending dotted inner))
    | some (.tables items) =>
      match items.getLast? with
      | none => none
      | some last => do
        let last ← descend byDots change false last path
        some (entries.replace key (.tables (items.dropLast ++ [last])))

/-- Adds a value under a dotted key. A table with a header of its own cannot be added to in this way. -/
def addValue (entries : Entries) (keys : List String) (value : Document) : Option Entries := do
  let key ← keys.getLast?
  let path := keys.dropLast
  descend true (fun dotted inner =>
    if dotted == path.isEmpty || (inner.lookup key).isSome then none
    else some (inner ++ [(key, .value value)])) false entries path

mutual

def Node.toDocument : Node → Document
  | .value d => d
  | .table _ _ entries => .table (entriesToDocument entries)
  | .tables items => .list (itemsToDocument items)

def entriesToDocument : List (String × Node) → List (String × Document)
  | [] => []
  | (key, node) :: rest => (key, node.toDocument) :: entriesToDocument rest

def itemsToDocument : List (List (String × Node)) → List Document
  | [] => []
  | entries :: rest => .table (entriesToDocument entries) :: itemsToDocument rest

end

end RecordSchema.Toml
