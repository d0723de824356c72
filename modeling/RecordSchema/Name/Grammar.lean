import RecordSchema.Text.Alphabetic
import RecordSchema.Text.Lowercase
import RecordSchema.Text.Ranges
import RecordSchema.Text.Uppercase

namespace RecordSchema

structure NameGrammar where
  kind : String
  first : Char → Bool
  firstRule : String
  rest : Char → Bool
  restRule : String

inductive NameError where
  | empty (kind : String)
  | invalid (kind name reason : String)
deriving DecidableEq, Repr

def NameError.message : NameError → String
  | empty kind => kind ++ " must not be empty"
  | invalid kind name reason => "invalid " ++ kind ++ " `" ++ name ++ "`: " ++ reason

def NameGrammar.accepts (g : NameGrammar) : List Char → Bool
  | [] => false
  | c :: cs => g.first c && cs.all g.rest

structure Name (g : NameGrammar) where
  text : String
  valid : g.accepts text.toList = true
deriving DecidableEq

namespace Name

variable {g : NameGrammar}

instance : Repr (Name g) := ⟨fun n _ => n.text.quote⟩

theorem ext_text {a b : Name g} (h : a.text = b.text) : a = b := by
  cases a; cases b; cases h; rfl

def parse (g : NameGrammar) (text : String) : Except NameError (Name g) :=
  if valid : g.accepts text.toList = true then .ok ⟨text, valid⟩
  else .error <| match text.toList with
    | [] => .empty g.kind
    | c :: _ => .invalid g.kind text (if g.first c then g.restRule else g.firstRule)

theorem parse_text (n : Name g) : parse g n.text = .ok n := by
  simp [parse, n.valid]

theorem text_of_parse {text : String} {n : Name g} (h : parse g text = .ok n) : n.text = text := by
  unfold parse at h
  split at h <;> cases h
  rfl

theorem parse_eq_ok_iff {text : String} {n : Name g} : parse g text = .ok n ↔ n.text = text :=
  ⟨text_of_parse, fun h => h ▸ parse_text n⟩

end Name

/-- Numerals that look like letters are no letters, and only the ASCII digits are digits. -/
def isLowerLetter (c : Char) : Bool :=
  Text.isLowercase c && !Text.isNumeral c

def isUpperLetter (c : Char) : Bool :=
  Text.isUppercase c && !Text.isNumeral c

def isLowerOrDigit (c : Char) : Bool :=
  isLowerLetter c || c.isDigit || c = '_'

def isLetterOrDigit (c : Char) : Bool :=
  (Text.isAlphabetic c && !Text.isNumeral c) || c.isDigit || c = '_'

def segmentGrammar : NameGrammar where
  kind := "package name"
  first := isLowerLetter
  firstRule := "must start with a lowercase letter"
  rest := isLowerOrDigit
  restRule := "may only contain lowercase letters, digits and `_`"

def typeNameGrammar : NameGrammar where
  kind := "type name"
  first := isUpperLetter
  firstRule := "must start with an uppercase letter"
  rest := isLetterOrDigit
  restRule := "may only contain letters, digits and `_`"

def fieldNameGrammar : NameGrammar where
  kind := "field name"
  first := isLowerLetter
  firstRule := "must start with a lowercase letter"
  rest := isLetterOrDigit
  restRule := "may only contain letters, digits and `_`"

def caseNameGrammar : NameGrammar :=
  { fieldNameGrammar with kind := "union case name" }

abbrev Segment := Name segmentGrammar

abbrev TypeName := Name typeNameGrammar

abbrev FieldName := Name fieldNameGrammar

abbrev CaseName := Name caseNameGrammar

def FieldName.toCase (n : FieldName) : CaseName :=
  ⟨n.text, n.valid⟩

end RecordSchema
