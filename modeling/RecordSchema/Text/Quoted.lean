import RecordSchema.Text.Extender
import RecordSchema.Text.Unprintable

namespace RecordSchema.Text.Quoted

def isFiller (c : Char) : Bool :=
  c = '\u115F' || c = '\u1160' || c = '\u3164' || c = '\uFFA0'

/-- The halfwidth voicing marks. They extend the letter before them but have a column of their own. -/
def isHalfwidthMark (c : Char) : Bool :=
  c = '\uFF9E' || c = '\uFF9F'

def isVisible (c : Char) : Bool :=
  !(isUnprintable c || isFiller c || (isExtender c && !isHalfwidthMark c))

def isPlain (c : Char) : Bool :=
  c = ' ' || (isVisible c && c != '"' && c != '\\')

def codePoint (c : Char) : List Char :=
  ['\\', 'u', '\x7b'] ++ Nat.toDigits 16 c.toNat ++ ['\x7d']

def escape (c : Char) : List Char :=
  if isPlain c then [c]
  else match c with
    | '"' => ['\\', '"']
    | '\\' => ['\\', '\\']
    | '\x00' => ['\\', '0']
    | '\t' => ['\\', 't']
    | '\r' => ['\\', 'r']
    | '\n' => ['\\', 'n']
    | c => codePoint c

def encode (text : List Char) : List Char :=
  '"' :: text.flatMap escape ++ ['"']

theorem escape_plain {c : Char} (h : isPlain c = true) : escape c = [c] := by
  simp [escape, h]

end RecordSchema.Text.Quoted
