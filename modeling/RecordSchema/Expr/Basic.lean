import RecordSchema.Source.Position
import RecordSchema.Text.Quoted
import RecordSchema.Text.Split

namespace RecordSchema

inductive Bracket where
  | round
  | square
deriving DecidableEq, Repr

namespace Bracket

def opening : Bracket → Char
  | round => '('
  | square => '['

def closing : Bracket → Char
  | round => ')'
  | square => ']'

def ofOpening? : Char → Option Bracket
  | '(' => some round
  | '[' => some square
  | _ => none

def ofClosing? : Char → Option Bracket
  | ')' => some round
  | ']' => some square
  | _ => none

end Bracket

inductive Expr where
  | atom (text : String) (position : Position)
  | quoted (text : String) (position : Position)
  | list (bracket : Bracket) (items : List Expr) (position : Position)
deriving Repr, Inhabited

namespace Expr

def position : Expr → Position
  | atom _ p => p
  | quoted _ p => p
  | list _ _ p => p

def describe : Expr → String
  | atom .. => "symbol"
  | quoted .. => "string"
  | list .round .. => "list"
  | list .square .. => "square list"

mutual

def chars : Expr → List Char
  | atom text _ => text.toList
  | quoted text _ => Text.Quoted.encode text.toList
  | list bracket items _ => bracket.opening :: Text.joinWith [' '] (charsEach items) ++ [bracket.closing]

def charsEach : List Expr → List (List Char)
  | [] => []
  | e :: es => e.chars :: charsEach es

end

theorem charsEach_eq_map : ∀ es : List Expr, charsEach es = es.map chars
  | [] => rfl
  | e :: es => by simp [charsEach, charsEach_eq_map es]

def render (e : Expr) : String :=
  String.ofList e.chars

mutual

def withPositions (p : Position) : Expr → Expr
  | atom text _ => atom text p
  | quoted text _ => quoted text p
  | list bracket items _ => list bracket (withPositionsEach p items) p

def withPositionsEach (p : Position) : List Expr → List Expr
  | [] => []
  | e :: es => e.withPositions p :: withPositionsEach p es

end

end Expr

end RecordSchema
