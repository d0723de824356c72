namespace RecordSchema

/-- A structured value, whichever notation it was written in. Tables keep the order of their keys;
nothing depends on the value of a float. -/
inductive Document where
  | null
  | boolean (value : Bool)
  | integer (value : Int)
  | float
  | text (value : String)
  | list (items : List Document)
  | table (entries : List (String × Document))
deriving Repr, Inhabited

namespace Moment

-- Dates such as `1979-05-27`, times such as `07:32:00.5`, and both with a `T` or a blank between them, where the
-- distance from universal time may follow. Nothing asks when they are, so they are only passed over.

def number? (width lower upper : Nat) (text : List Char) : Option (Nat × List Char) :=
  let digits := text.take width
  let n := digits.foldl (fun n c => 10 * n + (c.toNat - '0'.toNat)) 0
  if digits.length = width ∧ digits.all Char.isDigit ∧ lower ≤ n ∧ n ≤ upper then some (n, text.drop width)
  else none

def skipMark (mark : Char) : List Char → Option (List Char)
  | c :: rest => if c = mark then some rest else none
  | [] => none

def daysIn (year month : Nat) : Nat :=
  let isLeap := year % 4 = 0 ∧ (year % 100 ≠ 0 ∨ year % 400 = 0)
  if month = 2 then if isLeap then 29 else 28
  else if month ∈ [4, 6, 9, 11] then 30
  else 31

def skipDate (text : List Char) : Option (List Char) := do
  let (year, rest) ← number? 4 0 9999 text
  let (month, rest) ← number? 2 1 12 (← skipMark '-' rest)
  let (_, rest) ← number? 2 1 (daysIn year month) (← skipMark '-' rest)
  some rest

def skipMinutes (text : List Char) : Option (List Char) := do
  let (_, rest) ← number? 2 0 23 text
  let (_, rest) ← number? 2 0 59 (← skipMark ':' rest)
  some rest

def skipTime (text : List Char) : Option (List Char) := do
  let (_, rest) ← number? 2 0 60 (← skipMark ':' (← skipMinutes text))
  match rest with
  | '.' :: c :: fraction => some (if c.isDigit then fraction.dropWhile Char.isDigit else rest)
  | _ => some rest

def skipZone (text : List Char) : List Char :=
  match text with
  | [] => []
  | c :: rest =>
    if c = 'Z' ∨ c = 'z' then rest
    else if c = '+' ∨ c = '-' then (skipMinutes rest).getD text
    else text

def skip? (text : List Char) : Option (List Char) :=
  match skipDate text with
  | none => skipTime text
  | some [] => some []
  | some (c :: rest) =>
    match if c = 'T' ∨ c = 't' ∨ c = ' ' then skipTime rest else none with
    | some rest => some (skipZone rest)
    | none => some (c :: rest)

end Moment

end RecordSchema
