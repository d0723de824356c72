import RecordSchema.Document.Basic

namespace RecordSchema.Toml

def isControl (c : Char) : Bool :=
  (c.toNat < 0x20 && c != '\t') || c.toNat = 0x7F

def isBareKey (c : Char) : Bool :=
  c.isAlphanum || c = '_' || c = '-'

def skipBlanks (text : List Char) : List Char :=
  text.dropWhile fun c => c = ' ' || c = '\t'

def skipLines : (inComment : Bool) → List Char → Option (List Char)
  | _, [] => some []
  | _, '\n' :: rest => skipLines false rest
  | _, '\r' :: '\n' :: rest => skipLines false rest
  | true, c :: rest => if isControl c then none else skipLines true rest
  | false, '#' :: rest => skipLines true rest
  | false, c :: rest => if c = ' ' || c = '\t' then skipLines false rest else some (c :: rest)

def endLine : (inComment : Bool) → List Char → Option (List Char)
  | _, [] => some []
  | _, '\n' :: rest => some rest
  | _, '\r' :: '\n' :: rest => some rest
  | true, c :: rest => if isControl c then none else endLine true rest
  | false, '#' :: rest => endLine true rest
  | false, c :: rest => if c = ' ' || c = '\t' then endLine false rest else none

def hexDigit? (c : Char) : Option Nat :=
  if c.isDigit then some (c.toNat - '0'.toNat)
  else if 'a' ≤ c ∧ c ≤ 'f' then some (c.toNat - 'a'.toNat + 10)
  else if 'A' ≤ c ∧ c ≤ 'F' then some (c.toNat - 'A'.toNat + 10)
  else none

def digitsValue? (base : Nat) (digits : List Char) : Option Nat :=
  (digits.filter (· != '_')).foldlM (fun n c => do
    let d ← hexDigit? c
    if d < base then some (base * n + d) else none) 0

def codePoint? (digits : List Char) : Option Char := do
  let n ← digitsValue? 16 digits
  if digits.all (· != '_') ∧ n.isValidChar then some (Char.ofNat n) else none

/-- The text that escapes stand for. After an escaped line end, `trim` drops blanks and further line ends. -/
def unescape : (trim : Bool) → List Char → Option (List Char)
  | _, [] => some []
  | _, ['\\'] => none
  | _, '\\' :: 'u' :: a :: b :: c :: d :: rest => do
    some ((← codePoint? [a, b, c, d]) :: (← unescape false rest))
  | _, '\\' :: 'U' :: a :: b :: c :: d :: e :: f :: g :: h :: rest => do
    some ((← codePoint? [a, b, c, d, e, f, g, h]) :: (← unescape false rest))
  | _, '\\' :: escaped :: rest =>
    match escaped with
    | 'b' => (unescape false rest).map ('\x08' :: ·)
    | 't' => (unescape false rest).map ('\t' :: ·)
    | 'n' => (unescape false rest).map ('\n' :: ·)
    | 'f' => (unescape false rest).map ('\x0c' :: ·)
    | 'r' => (unescape false rest).map ('\r' :: ·)
    | '"' => (unescape false rest).map ('"' :: ·)
    | '\\' => (unescape false rest).map ('\\' :: ·)
    | c => if (skipBlanks (c :: rest)).head? = some '\n' then unescape true rest else none
  | trim, c :: rest =>
    if trim && (c = ' ' || c = '\t' || c = '\n') then unescape true rest
    else (unescape false rest).map (c :: ·)

def lineBody (quote : Char) : List Char → Option (List Char × List Char)
  | [] => none
  | '\\' :: '"' :: rest => (lineBody quote rest).map fun (cs, rest) => ('\\' :: '"' :: cs, rest)
  | '\\' :: '\\' :: rest => (lineBody quote rest).map fun (cs, rest) => ('\\' :: '\\' :: cs, rest)
  | c :: rest =>
    if c = quote then some ([], rest)
    else if isControl c then none
    else (lineBody quote rest).map fun (cs, rest) => (c :: cs, rest)

/-- Three quotes close a block. Up to two more in front of them are part of it. -/
def closing? (quote : Char) (text : List Char) : Option (List Char × List Char) :=
  let quotes := text.takeWhile (· = quote)
  if quotes.length < 3 then none
  else
    let kept := quotes.take (min (quotes.length - 3) 2)
    some (kept, text.drop (kept.length + 3))

def blockBody (quote : Char) : List Char → Option (List Char × List Char)
  | [] => none
  | '\\' :: '"' :: rest => (blockBody quote rest).map fun (cs, rest) => ('\\' :: '"' :: cs, rest)
  | '\\' :: '\\' :: rest => (blockBody quote rest).map fun (cs, rest) => ('\\' :: '\\' :: cs, rest)
  | '\r' :: '\n' :: rest => (blockBody quote rest).map fun (cs, rest) => ('\n' :: cs, rest)
  | c :: rest =>
    match closing? quote (c :: rest) with
    | some closed => some closed
    | none =>
      if isControl c && c != '\n' then none
      else (blockBody quote rest).map fun (cs, rest) => (c :: cs, rest)

def skipLineEnd : List Char → List Char
  | '\n' :: rest => rest
  | '\r' :: '\n' :: rest => rest
  | text => text

def lineString? : List Char → Option (String × List Char)
  | '"' :: rest => do
    let (body, rest) ← lineBody '"' rest
    some (String.ofList (← unescape false body), rest)
  | '\'' :: rest => (lineBody '\'' rest).map fun (body, rest) => (String.ofList body, rest)
  | _ => none

def string? : List Char → Option (String × List Char)
  | '"' :: '"' :: '"' :: rest => do
    let (body, rest) ← blockBody '"' (skipLineEnd rest)
    some (String.ofList (← unescape false body), rest)
  | '\'' :: '\'' :: '\'' :: rest =>
    (blockBody '\'' (skipLineEnd rest)).map fun (body, rest) => (String.ofList body, rest)
  | text => lineString? text

def simpleKey (text : List Char) : Option (String × List Char) :=
  match text.span isBareKey with
  | ([], _) => lineString? text
  | (cs, rest) => some (String.ofList cs, rest)

def maxDepth : Nat := 79

def dottedKey : (limit : Nat) → List Char → Option (List String × List Char)
  | 0, _ => none
  | limit + 1, text => do
    let (key, rest) ← simpleKey text
    match skipBlanks rest with
    | '.' :: rest => do
      let (keys, rest) ← dottedKey limit (skipBlanks rest)
      some (key :: keys, rest)
    | rest => some ([key], rest)

end RecordSchema.Toml
