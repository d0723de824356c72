import RecordSchema.Schema.Problem
import RecordSchema.Schema.Statement

namespace RecordSchema

namespace Expr

def toName (g : NameGrammar) (wanted : String) : Expr → Except ParseError (Name g)
  | atom text p => (Name.parse g text).mapError fun error => ⟨.invalidName error, p⟩
  | e => .error (e.unexpected wanted)

def toPackageName : Expr → Except ParseError PackageName
  | atom text p => (PackageName.parse text).mapError fun error => ⟨.invalidName error, p⟩
  | e => .error (e.unexpected "package name")

def toMention : Expr → Except ParseError Mention
  | atom text p => do
    let invalid := fun error : NameError => (⟨.invalidName error, p⟩ : ParseError)
    match text.toList.span (· ≠ '.') with
    | (before, _ :: after) =>
      let qualifier ← (Name.parse _ (String.ofList before)).mapError invalid
      let name ← (Name.parse _ (String.ofList after)).mapError invalid
      .ok ⟨some qualifier, name⟩
    | (_, []) =>
      let name ← (Name.parse _ text).mapError invalid
      .ok ⟨none, name⟩
  | e => .error (e.unexpected "type name")

def toFieldPath : Expr → Except ParseError (List FieldName)
  | atom text p => (Text.splitOn '.' text.toList).mapM fun word =>
      (Name.parse _ (String.ofList word)).mapError fun error => (⟨.invalidName error, p⟩ : ParseError)
  | e => .error (e.unexpected "field path")

def toIntegerKind : Expr → Except ParseError IntegerKind
  | atom text p =>
    match IntegerKind.ofKeyword? text with
    | some kind => .ok kind
    | none => .error ⟨.unknownKind text, p⟩
  | e => .error (e.unexpected "integer kind")

def toFlags : Expr → Except ParseError (List (FieldName × Position))
  | list .square items _ => items.mapM fun flag => do .ok (← flag.toName _ "flag name", flag.position)
  | e => .error (e.unexpected "flag list in `[...]`")

def toEncoding : Expr → Except ParseError String
  | quoted text _ => .ok text
  | e => .error (e.unexpected "encoding string")

def toNumber? (text : String) : Option Nat :=
  let digits := text.toList
  if digits ≠ [] ∧ digits.all Char.isDigit then
    some (digits.foldl (fun n c => 10 * n + (c.toNat - '0'.toNat)) 0)
  else none

/-- A form with a known keyword fails by the number of its arguments, any other by its keyword. -/
def badForm (forms : List (String × Nat)) (unknown : ParseProblem) (keyword : String) (args : List Expr)
    (p : Position) : ParseError :=
  match forms.lookup keyword with
  | some takes => ⟨.arity keyword takes args.length, p⟩
  | none => ⟨unknown, p⟩

def noForm (wanted : String) : Expr → ParseError
  | list .round [] p => ⟨.expected wanted "empty list", p⟩
  | list .round (head :: _) _ => head.unexpected "keyword"
  | e => e.unexpected wanted

def typeForms : List (String × Nat) :=
  [("integer", 2), ("float", 1), ("vector", 2), ("matrix", 3), ("boolean-set", 2), ("string", 2),
    ("type-of", 2)]

def sizeForms : List (String × Nat) :=
  [("size-in-bits", 1), ("size-in-octets", 1)]

mutual

def toType : Expr → Except ParseError (TypeExpr Mention)
  | atom text p => do .ok (.reference (← (atom text p).toMention) p)
  | list .round (atom keyword _ :: args) p =>
    match keyword, args with
    | "integer", [kind, bits] => do
      let kind ← kind.toIntegerKind
      .ok (.integer kind (← bits.toSize) p)
    | "float", [bits] => do .ok (.float (← bits.toSize) p)
    | "vector", [element, count] => do
      let element ← element.toType
      .ok (.vector element (← count.toSize) p)
    | "matrix", [element, width, height] => do
      let element ← element.toType
      let width ← width.toSize
      .ok (.matrix element width (← height.toSize) p)
    | "boolean-set", [octets, flags] => do
      let flags ← flags.toFlags
      .ok (.booleanSet (← octets.toSize) flags p)
    | "string", [octets, encoding] => do
      let encoding ← encoding.toEncoding
      .ok (.string (← octets.toSize) encoding p)
    | "type-of", [target, path] => do
      let mention ← target.toMention
      .ok (.typeOf mention target.position (← path.toFieldPath) p)
    | _, _ => .error (badForm typeForms (.unknownType keyword) keyword args p)
  | e => .error (e.noForm "type")

def toSize : Expr → Except ParseError (SizeExpr Mention)
  | atom text p =>
    match toNumber? text with
    | some value => .ok (.constant value p)
    | none => .error ⟨.invalidSize text, p⟩
  | list .round (atom keyword _ :: args) p =>
    match keyword, args with
    | "size-in-bits", [of] => do .ok (.inBits (← of.toType) p)
    | "size-in-octets", [of] => do .ok (.inOctets (← of.toType) p)
    | _, _ => .error (badForm sizeForms (.unknownSize keyword) keyword args p)
  | e => .error (e.noForm "size")

end

def recordForms : List (String × Nat) :=
  [("field", 2), ("padding-octets", 1)]

def packedForms : List (String × Nat) :=
  [("field", 2), ("padding-bits", 1)]

def toRecordItem : Expr → Except ParseError (RecordItem Mention)
  | list .round (atom keyword _ :: args) p =>
    match keyword, args with
    | "field", [name, type] => do
      let name ← name.toName _ "field name"
      .ok (.field name (← type.toType) p)
    | "padding-octets", [octets] => do .ok (.padding (← octets.toSize) p)
    | _, _ => .error (badForm recordForms (.unknownMember keyword "record") keyword args p)
  | e => .error (e.noForm "record member")

def toPackedItem : Expr → Except ParseError (PackedItem Mention)
  | list .round (atom keyword _ :: args) p =>
    match keyword, args with
    | "field", [name, type] => do
      let name ← name.toName _ "field name"
      .ok (.field name (← type.toType) p)
    | "padding-bits", [bits] => do .ok (.padding (← bits.toSize) p)
    | _, _ => .error (badForm packedForms (.unknownMember keyword "packed record") keyword args p)
  | e => .error (e.noForm "packed member")

def toCaseItem : Expr → Except ParseError (CaseItem Mention)
  | list .round (atom keyword _ :: args) p =>
    match keyword, args with
    | "case", [name, type] => do
      let name ← name.toName _ "case name"
      .ok ⟨name, ← type.toType, p⟩
    | _, _ => .error (badForm [("case", 2)] (.unknownMember keyword "union") keyword args p)
  | e => .error (e.noForm "union case")

def toMembers : Expr → Except ParseError (List Expr)
  | list .square items _ => .ok items
  | e => .error (e.unexpected "member list in `[...]`")

def toRecord (items : List Expr) : Except ParseError (Body Mention) := do
  .ok (.record (← items.mapM toRecordItem))

def toPacked (items : List Expr) : Except ParseError (Body Mention) := do
  .ok (.packed (← items.mapM toPackedItem))

def toUnion (items : List Expr) : Except ParseError (Body Mention) := do
  .ok (.union (← items.mapM toCaseItem))

def toDefinition (toBody : List Expr → Except ParseError (Body Mention)) (name members : Expr)
    (p : Position) : Except ParseError Statement := do
  let name ← name.toName _ "type name"
  let members ← members.toMembers
  .ok (.define ⟨name, ← toBody members, p⟩)

def statementForms : List (String × Nat) :=
  [("package-begin", 1), ("package-end", 0), ("import", 3), ("record", 2), ("packed", 2), ("union", 2),
    (":type", 1), (":size", 1)]

def toStatement : Expr → Except ParseError Statement
  | list .round (atom keyword _ :: args) p =>
    match keyword, args with
    | "package-begin", [name] => do .ok (.packageBegin (← name.toPackageName) p)
    | "package-end", [] => .ok (.packageEnd p)
    | "import", [package, atom "as" _, qualifier] => do
      let package ← package.toPackageName
      .ok (.importPackage package (← qualifier.toName _ "import alias") p)
    | "import", [_, word, _] => .error (word.unexpected "`as`")
    | "record", [name, members] => toDefinition toRecord name members p
    | "packed", [name, members] => toDefinition toPacked name members p
    | "union", [name, members] => toDefinition toUnion name members p
    | ":type", [type] => do .ok (.showType (← type.toType) p)
    | ":size", [size] => do .ok (.showSize (← size.toSize) p)
    | _, _ => .error (badForm statementForms (.unknownStatement keyword) keyword args p)
  | e => .error (e.noForm "statement")

end Expr

end RecordSchema
