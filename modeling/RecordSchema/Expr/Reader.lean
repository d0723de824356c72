import RecordSchema.Expr.Problem
import RecordSchema.Text.Ranges

namespace RecordSchema

namespace Expr.Reader

/-- The place of the next character: `offset` counts bytes, `line` and `column` count from one in 32 bits, and behind
the last number comes zero. -/
structure Cursor where
  line : UInt32 := 1
  column : UInt32 := 1
  offset : Nat := 0
deriving DecidableEq, Repr

namespace Cursor

def advance (here : Cursor) (c : Char) : Cursor :=
  if c = '\n' then ⟨here.line + 1, 1, here.offset + c.utf8Size⟩
  else ⟨here.line, here.column + 1, here.offset + c.utf8Size⟩

def upTo (start stop : Cursor) (file : FileId) : Position :=
  ⟨file, start.line.toNat, start.column.toNat, ⟨start.offset, stop.offset⟩⟩

def position (here : Cursor) (file : FileId) : Position :=
  here.upTo here file

end Cursor

/-- What the next character belongs to. The texts of unfinished tokens are held back to front. -/
inductive Mode where
  | between
  | comment
  | atom (start : Cursor) (text : List Char)
  | string (start : Cursor) (text : List Char)
  | escape (start backslash : Cursor) (text : List Char)
deriving DecidableEq, Repr

structure OpenList where
  bracket : Bracket
  position : Position
  before : List Expr
deriving Repr

/-- A reader that has met no fault: `items` are the expressions of the innermost open list, the last one
first, and `enclosing` are the open lists, the innermost first. -/
structure Progress where
  cursor : Cursor := {}
  mode : Mode := .between
  items : List Expr := []
  enclosing : List OpenList := []
deriving Repr

inductive Trailing where
  | between
  | comment
  | halted
deriving DecidableEq, Repr

inductive State where
  | reading (progress : Progress)
  | failed (exprs : List Expr) (error : ReadError) (cursor : Cursor) (trailing : Trailing)
deriving Repr

namespace Progress

def complete (p : Progress) : List Expr :=
  match p.enclosing.getLast? with
  | none => p.items.reverse
  | some outermost => outermost.before.reverse

def fail (p : Progress) (problem : ReadProblem) (position : Position) (cursor : Cursor) : State :=
  .failed p.complete ⟨problem, position⟩ cursor .between

def endAtom (p : Progress) (file : FileId) (start : Cursor) (text : List Char) : Progress :=
  let atom := Expr.atom (String.ofList text.reverse) (start.upTo p.cursor file)
  { p with mode := .between, items := atom :: p.items }

def enter (p : Progress) (file : FileId) (bracket : Bracket) (next : Cursor) : Progress where
  cursor := next
  items := []
  enclosing := ⟨bracket, p.cursor.upTo next file, p.items⟩ :: p.enclosing

def close (p : Progress) (file : FileId) (found : Bracket) (next : Cursor) : State :=
  let position := p.cursor.upTo next file
  match p.enclosing with
  | [] => p.fail (.unexpectedClose found) position next
  | ⟨bracket, opened, before⟩ :: outer =>
    if bracket = found then
      let list := Expr.list bracket p.items.reverse { opened with span := opened.span.cover position.span }
      .reading { cursor := next, items := list :: before, enclosing := outer }
    else p.fail (.mismatchedClose bracket found) position next

def start (p : Progress) (file : FileId) (c : Char) : State :=
  let next := p.cursor.advance c
  if Text.isBlank c then .reading { p with cursor := next }
  else match c with
    | ';' => .reading { p with cursor := next, mode := .comment }
    | '"' => .reading { p with cursor := next, mode := .string p.cursor [] }
    | '(' => .reading (p.enter file .round next)
    | '[' => .reading (p.enter file .square next)
    | ')' => p.close file .round next
    | ']' => p.close file .square next
    | c => .reading { p with cursor := next, mode := .atom p.cursor [c] }

def isDelimiter (c : Char) : Bool :=
  Text.isBlank c || c = '(' || c = ')' || c = '[' || c = ']' || c = '"' || c = ';'

def step (p : Progress) (file : FileId) (c : Char) : State :=
  let next := p.cursor.advance c
  match p.mode with
  | .between => p.start file c
  | .comment => .reading { p with cursor := next, mode := if c = '\n' then .between else .comment }
  | .atom start text =>
    if isDelimiter c then (p.endAtom file start text).start file c
    else .reading { p with cursor := next, mode := .atom start (c :: text) }
  | .string start text =>
    if c = '"' then
      let string := Expr.quoted (String.ofList text.reverse) (start.upTo next file)
      .reading { p with cursor := next, mode := .between, items := string :: p.items }
    else if c = '\\' then .reading { p with cursor := next, mode := .escape start p.cursor text }
    else .reading { p with cursor := next, mode := .string start (c :: text) }
  | .escape start backslash text =>
    if c = '"' ∨ c = '\\' then .reading { p with cursor := next, mode := .string start (c :: text) }
    else p.fail (.invalidEscape c) (backslash.position file) next

end Progress

def State.step (file : FileId) (s : State) (c : Char) : State :=
  match s with
  | .reading p => p.step file c
  | .failed exprs error cursor trailing =>
    match trailing with
    | .between =>
      if Text.isBlank c then .failed exprs error (cursor.advance c) .between
      else if c = ';' then .failed exprs error (cursor.advance c) .comment
      else .failed exprs error cursor .halted
    | .comment => .failed exprs error (cursor.advance c) (if c = '\n' then .between else .comment)
    | .halted => .failed exprs error cursor .halted

def run (file : FileId) (s : State) (text : List Char) : State :=
  text.foldl (State.step file) s

end Expr.Reader

/-- What a text holds: the expressions before the first fault, the fault, and the place where white
space and comments end after the last character read. -/
structure Reading where
  exprs : List Expr
  error : Option ReadError
  finish : Position
deriving Repr

namespace Expr.Reader

def Progress.finish (p : Progress) (file : FileId) : Reading :=
  let position := p.cursor.position file
  let p := match p.mode with
    | .atom start text => p.endAtom file start text
    | _ => p
  let fault : Option ReadError := match p.mode, p.enclosing with
    | .string start _, _ => some ⟨.unterminatedString, start.position file⟩
    | .escape start _ _, _ => some ⟨.unterminatedString, start.position file⟩
    | _, innermost :: _ => some ⟨.unclosedList innermost.bracket, innermost.position⟩
    | _, [] => none
  ⟨p.complete, fault, position⟩

def State.finish (file : FileId) : State → Reading
  | .reading p => p.finish file
  | .failed exprs error cursor _ => ⟨exprs, some error, cursor.position file⟩

end Expr.Reader

def Expr.readChars (file : FileId) (text : List Char) : Reading :=
  (Reader.run file (.reading {}) text).finish file

def Expr.read (file : FileId) (text : String) : Reading :=
  readChars file text.toList

end RecordSchema
