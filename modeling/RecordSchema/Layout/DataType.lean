import RecordSchema.Expr.Basic
import RecordSchema.Schema.TypeExpr

namespace RecordSchema

inductive DataType where
  | integer (kind : IntegerKind) (bits : Nat)
  | float (bits : Nat)
  | vector (element : DataType) (count : Nat)
  | matrix (element : DataType) (width height : Nat)
  | booleanSet (flags : List FieldName) (octets : Nat)
  | string (encoding : String) (octets : Nat)
  | declared (target : Target) (bits : Nat)
deriving DecidableEq, Repr

namespace DataType

def bits : DataType → Nat
  | integer _ bits => bits
  | float bits => bits
  | vector element count => element.bits * count
  | matrix element width height => element.bits * width * height
  | booleanSet _ octets => octets * 8
  | string _ octets => octets * 8
  | declared _ bits => bits

def isInteger : DataType → Bool
  | integer .. => true
  | _ => false

def isScalar : DataType → Bool
  | integer .. => true
  | float _ => true
  | _ => false

def identifier? : DataType → Option Identifier
  | declared target _ => some target.identifier
  | _ => none

def toExpr : DataType → Expr
  | integer kind bits => form [word "integer", word kind.keyword, number bits]
  | float bits => form [word "float", number bits]
  | vector element count => form [word "vector", element.toExpr, number count]
  | matrix element width height => form [word "matrix", element.toExpr, number width, number height]
  | booleanSet flags octets =>
    form [word "boolean-set", number octets, .list .square (flags.map fun flag => word flag.text) default]
  | string encoding octets => form [word "string", number octets, .quoted encoding default]
  | declared target _ => word (target.package.render ++ "." ++ target.name.text)
where
  form (items : List Expr) : Expr := .list .round items default
  word (text : String) : Expr := .atom text default
  number (n : Nat) : Expr := .atom (toString n) default

def render (t : DataType) : String :=
  t.toExpr.render

end DataType

end RecordSchema
