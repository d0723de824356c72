import RecordSchema.Document.Decimal
import RecordSchema.Document.Toml.Text

namespace RecordSchema.Toml

def groupedDigits (isDigit : Char → Bool) : List Char → Bool
  | [] => false
  | [c] => isDigit c
  | c :: '_' :: rest => isDigit c && groupedDigits isDigit rest
  | c :: rest => isDigit c && groupedDigits isDigit rest

def isDecimal (digits : List Char) : Bool :=
  groupedDigits Char.isDigit digits && (digits.length = 1 || digits.head? != some '0')

def unsigned (word : List Char) : List Char :=
  match word with
  | '+' :: rest => rest
  | '-' :: rest => rest
  | _ => word

def isNegative (word : List Char) : Bool :=
  word.head? = some '-'

def exponent? : List Char → Option Int
  | e :: digits => do
    let n ← digitsValue? 10 (unsigned digits)
    if (e = 'e' ∨ e = 'E') ∧ groupedDigits Char.isDigit (unsigned digits) then
      some (if isNegative digits then -n else n)
    else none
  | [] => none

def decimal? (word : List Char) : Option Decimal :=
  let isWhole := fun c : Char => c.isDigit || c = '_'
  match (unsigned word).span isWhole with
  | (whole, '.' :: rest) => do
    let (fraction, rest) := rest.span isWhole
    let coefficient ← digitsValue? 10 (whole ++ fraction)
    let exponent ← if rest = [] then some 0 else exponent? rest
    if isDecimal whole ∧ groupedDigits Char.isDigit fraction then
      some ⟨coefficient, exponent - fraction.countP (· != '_')⟩
    else none
  | (whole, rest) => do
    let coefficient ← digitsValue? 10 whole
    let exponent ← exponent? rest
    if isDecimal whole then some ⟨coefficient, exponent⟩ else none

def isFloat (word : List Char) : Bool :=
  unsigned word = ['i', 'n', 'f'] || unsigned word = ['n', 'a', 'n'] ||
    (decimal? word).any fun d => isNegative word || !d.overflows

def isInRange (n : Int) : Bool :=
  -9223372036854775808 ≤ n && n ≤ 9223372036854775807

def integer? (word : List Char) : Option Int :=
  let based (base : Nat) (digits : List Char) : Option Int := do
    let n ← digitsValue? base digits
    if groupedDigits (fun c => (hexDigit? c).any (· < base)) digits ∧ isInRange n then some n else none
  match word with
  | '0' :: 'x' :: digits => based 16 digits
  | '0' :: 'o' :: digits => based 8 digits
  | '0' :: 'b' :: digits => based 2 digits
  | _ => do
    let digits := unsigned word
    let n ← digitsValue? 10 digits
    let value : Int := if isNegative word then -n else n
    if isDecimal digits ∧ isInRange value then some value else none

def scalar (word : List Char) : Option Document :=
  if word = "true".toList then some (.boolean true)
  else if word = "false".toList then some (.boolean false)
  else match integer? word with
    | some n => some (.integer n)
    | none => if isFloat word then some .float else none

end RecordSchema.Toml
