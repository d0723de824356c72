import RecordSchema.Document.Basic
import RecordSchema.Document.Toml.Number
import RecordSchema.Document.Toml.Table

namespace RecordSchema

namespace Toml

def plainValue? (text : List Char) : Option (Document × List Char) :=
  match string? text, Moment.skip? text with
  | some (s, rest), _ => some (.text s, rest)
  | none, some rest => some (.table [], rest)
  | none, none =>
    let (word, rest) := text.span fun c => isBareKey c || c = '+' || c = '.'
    (scalar word).map (·, rest)

mutual

/-- A value and the text behind it. `room` more brackets may be opened inside one another. -/
def value : (fuel room : Nat) → List Char → Option (Document × List Char)
  | 0, _, _ => none
  | fuel + 1, room, text =>
    match text with
    | '[' :: rest => do
      if room = 0 then none
      let (items, rest) ← arrayItems fuel (room - 1) (← skipLines false rest)
      some (.list items, rest)
    | '\x7b' :: rest => do
      if room = 0 then none
      match skipBlanks rest with
      | '\x7d' :: rest => some (.table [], rest)
      | rest => do
        let (entries, rest) ← inlineEntries fuel (room - 1) [] rest
        some (.table (entriesToDocument entries), rest)
    | _ => plainValue? text

def arrayItems : (fuel room : Nat) → List Char → Option (List Document × List Char)
  | _, _, ']' :: rest => some ([], rest)
  | 0, _, _ => none
  | fuel + 1, room, text => do
    let (item, rest) ← value fuel room text
    match ← skipLines false rest with
    | ']' :: rest => some ([item], rest)
    | ',' :: rest => do
      let (items, rest) ← arrayItems fuel room (← skipLines false rest)
      some (item :: items, rest)
    | _ => none

def inlineEntries : (fuel room : Nat) → Entries → List Char → Option (Entries × List Char)
  | 0, _, _, _ => none
  | fuel + 1, room, entries, text => do
    match ← dottedKey maxDepth text with
    | (keys, '=' :: rest) => do
      let (document, rest) ← value fuel room (skipBlanks rest)
      let entries ← addValue entries keys document
      match skipBlanks rest with
      | '\x7d' :: rest => some (entries, rest)
      | ',' :: rest => inlineEntries fuel room entries (skipBlanks rest)
      | _ => none
    | _ => none

end

inductive Header where
  | root
  | table (path : List String)
  | item (path : List String)

structure Builder where
  root : Entries := []
  header : Header := .root
  current : Entries := []

def Builder.close (b : Builder) : Option Entries :=
  match b.header with
  | .root => some b.current
  | .table path => do
    let key ← path.getLast?
    descend false (fun _ inner =>
      if (inner.lookup key).isSome then none else some (inner ++ [(key, .table false false b.current)]))
      false b.root path.dropLast
  | .item path => do
    let key ← path.getLast?
    descend false (fun _ inner =>
      match inner.lookup key with
      | none => some (inner ++ [(key, .tables [b.current])])
      | some (.tables items) => some (inner.replace key (.tables (items ++ [b.current])))
      | some _ => none) false b.root path.dropLast

/-- Opens the section of a table. A table that was only passed through may be opened once and is moved
to the end. -/
def openTable (root : Entries) (path : List String) : Option Builder := do
  let key ← path.getLast?
  let holder ← holderOf root path.dropLast
  match holder.lookup key with
  | none => some ⟨root, .table path, []⟩
  | some (.table true false inner) => do
    let root ← descend false (fun _ entries => some (entries.filter (·.1 != key))) false root path.dropLast
    some ⟨root, .table path, inner⟩
  | some _ => none
where
  holderOf : Entries → List String → Option Entries
    | entries, [] => some entries
    | entries, key :: path =>
      match entries.lookup key with
      | none => some []
      | some (.table _ _ inner) => holderOf inner path
      | some (.tables items) => holderOf (items.getLast?.getD []) path
      | some (.value _) => none

def lines : (fuel : Nat) → Builder → List Char → Option Entries
  | 0, _, _ => none
  | fuel + 1, b, text => do
    match ← skipLines false text with
    | [] => b.close
    | '[' :: '[' :: rest => do
      match ← dottedKey maxDepth (skipBlanks rest) with
      | (path, ']' :: ']' :: rest) => lines fuel ⟨← b.close, .item path, []⟩ (← endLine false rest)
      | _ => none
    | '[' :: rest => do
      match ← dottedKey maxDepth (skipBlanks rest) with
      | (path, ']' :: rest) => lines fuel (← openTable (← b.close) path) (← endLine false rest)
      | _ => none
    | text => do
      match ← dottedKey maxDepth text with
      | (keys, '=' :: rest) => do
        let (document, rest) ← value fuel maxDepth (skipBlanks rest)
        lines fuel { b with current := ← addValue b.current keys document } (← endLine false rest)
      | _ => none

end Toml

def Document.ofToml? (text : String) : Option Document := do
  let chars := match text.toList with
    | '\uFEFF' :: rest => rest
    | chars => chars
  let entries ← Toml.lines (chars.length + 2) {} chars
  some (.table (Toml.entriesToDocument entries))

end RecordSchema
