import Rowbase.Json

/-!
# Reading JSON

`Json.read?` takes a whole text. The grammar is strict: four blank characters, no comma before
a closing bracket, no control character inside a text, and nothing after the value.
-/

namespace Rowbase.Json

/-- What is read off the front of some characters, and the characters that are left. -/
abbrev Reader (α : Type) := List Char → Option (α × List Char)

/-- The blanks between the parts of a document. -/
def isSpace (c : Char) : Bool :=
  c = ' ' || c = '\t' || c = '\n' || c = '\r'

/-- The characters from the first that is not blank. -/
def skip (line : List Char) : List Char :=
  line.dropWhile isSpace

/-! ## Texts -/

/-- The value of a hexadecimal digit. -/
def hexDigit? (c : Char) : Option Nat :=
  if c.isDigit then some (c.toNat - '0'.toNat)
  else if 'a' ≤ c ∧ c ≤ 'f' then some (c.toNat - 'a'.toNat + 10)
  else if 'A' ≤ c ∧ c ≤ 'F' then some (c.toNat - 'A'.toNat + 10)
  else none

/-- The code unit that four hexadecimal digits write. -/
def codeUnit? (a b c d : Char) : Option Nat := do
  return ((← hexDigit? a) * 16 + (← hexDigit? b)) * 256 + (← hexDigit? c) * 16 + (← hexDigit? d)

/-- The character that a letter stands for after a backslash. -/
def escape? : Char → Option Char
  | '"' => some '"'
  | '\\' => some '\\'
  | '/' => some '/'
  | 'b' => some '\x08'
  | 'f' => some '\x0c'
  | 'n' => some '\n'
  | 'r' => some '\r'
  | 't' => some '\t'
  | _ => none

/-- Takes the code units of a text up to its closing quote. A character that is not escaped
counts as one unit, whatever its size. -/
def units : Reader (List Nat)
  | [] => none
  | '"' :: rest => some ([], rest)
  | '\\' :: 'u' :: a :: b :: c :: d :: rest => do
    let unit ← codeUnit? a b c d
    let (others, rest) ← units rest
    return (unit :: others, rest)
  | '\\' :: letter :: rest => do
    let c ← escape? letter
    let (others, rest) ← units rest
    return (c.toNat :: others, rest)
  | c :: rest => do
    guard (0x20 ≤ c.toNat)
    let (others, rest) ← units rest
    return (c.toNat :: others, rest)

/-- The first unit of a surrogate pair. -/
def isHigh (unit : Nat) : Bool :=
  0xD800 ≤ unit && unit < 0xDC00

/-- The second unit of a surrogate pair. -/
def isLow (unit : Nat) : Bool :=
  0xDC00 ≤ unit && unit < 0xE000

/-- The characters that code units stand for. Surrogates must come in pairs. -/
def characters? : List Nat → Option (List Char)
  | [] => some []
  | high :: low :: rest =>
    if isHigh high && isLow low then
      (characters? rest).map (Char.ofNat (0x10000 + (high - 0xD800) * 0x400 + (low - 0xDC00)) :: ·)
    else if isHigh high || isLow high then none
    else (characters? (low :: rest)).map (Char.ofNat high :: ·)
  | [unit] => if isHigh unit || isLow unit then none else some [Char.ofNat unit]

/-- Takes a text after its opening quote. One with a lone surrogate has no content. -/
def content : Reader (Option String) := fun line => do
  let (units, rest) ← units line
  return ((characters? units).map String.ofList, rest)

/-! ## Numbers -/

/-- Takes digits, one at least. -/
def digits : Reader (List Char) := fun line =>
  let digits := line.takeWhile Char.isDigit
  if digits.isEmpty then none else some (digits, line.dropWhile Char.isDigit)

/-- Takes the part of a number before the point, which starts with a zero only if it is zero. -/
def whole : Reader (List Char)
  | '0' :: rest => some (['0'], rest)
  | line => digits line

/-- Takes the point and the digits after it, if there is a point. -/
def fraction : Reader (List Char)
  | '.' :: rest => (digits rest).map fun (digits, rest) => ('.' :: digits, rest)
  | line => some ([], line)

/-- Takes a sign if there is one. -/
def sign : List Char → List Char × List Char
  | '+' :: rest => (['+'], rest)
  | '-' :: rest => (['-'], rest)
  | line => ([], line)

/-- Takes an exponent, if there is one. -/
def exponent : Reader (List Char)
  | [] => some ([], [])
  | mark :: rest =>
    if mark = 'e' || mark = 'E' then
      let (sign, rest) := sign rest
      (digits rest).map fun (digits, rest) => (mark :: sign ++ digits, rest)
    else some ([], mark :: rest)

/-- Takes a number. -/
def numeral : Reader String := fun line => do
  let (minus, line) := match line with
    | '-' :: rest => (['-'], rest)
    | line => ([], line)
  let (whole, line) ← whole line
  let (fraction, line) ← fraction line
  let (exponent, line) ← exponent line
  return (String.ofList (minus ++ whole ++ fraction ++ exponent), line)

/-! ## Values -/

/-- Takes items with commas between them and the bracket that closes them, at most the given
number. -/
def sequence {α : Type} (item : Reader α) (close : Char) : Nat → Reader (List α)
  | 0, _ => none
  | n + 1, line => do
    let (first, rest) ← item line
    match skip rest with
    | [] => none
    | c :: rest =>
      if c = close then return ([first], rest)
      else if c = ',' then do
        let (others, rest) ← sequence item close n rest
        return (first :: others, rest)
      else none

/-- Takes items after their opening bracket, at most the given number. -/
def bracketed {α : Type} (item : Reader α) (close : Char) (most : Nat) : Reader (List α) :=
  fun line =>
  match skip line with
  | [] => none
  | c :: rest => if c = close then some ([], rest) else sequence item close most (c :: rest)

/-- Takes a member of an object, its value with the given reader. -/
def member (value : Reader Json) : Reader (Option String × Json) := fun line =>
  match skip line with
  | '"' :: rest => do
    let (key, rest) ← content rest
    match skip rest with
    | ':' :: rest => do
      let (value, rest) ← value rest
      return ((key, value), rest)
    | _ => none
  | _ => none

/-- The object of some members, if all their keys are readable. -/
def ofMembers (members : List (Option String × Json)) : Json :=
  match members.mapM fun (key, value) => key.map fun key => (key, value) with
  | some members => object members
  | none => unreadable

/-- The value of a text, if it is readable. -/
def ofContent : Option String → Json
  | some content => text content
  | none => unreadable

/-- Takes a value in which brackets are nested less deep than the second number, and no
bracket holds more items than the first. -/
def valueWithin (most : Nat) : Nat → Reader Json
  | 0, _ => none
  | depth + 1, line =>
    match skip line with
    | '{' :: rest =>
      (bracketed (member (valueWithin most depth)) '}' most rest).map fun (members, rest) =>
        (ofMembers members, rest)
    | '[' :: rest =>
      (bracketed (valueWithin most depth) ']' most rest).map fun (items, rest) =>
        (array items, rest)
    | '"' :: rest => (content rest).map fun (content, rest) => (ofContent content, rest)
    | 'n' :: 'u' :: 'l' :: 'l' :: rest => some (null, rest)
    | 't' :: 'r' :: 'u' :: 'e' :: rest => some (boolean true, rest)
    | 'f' :: 'a' :: 'l' :: 's' :: 'e' :: rest => some (boolean false, rest)
    | rest => (numeral rest).map fun (numeral, rest) => (number numeral, rest)

/-- The value that a whole text is. Neither the nesting nor the items are more than the
characters. -/
def read? (document : String) : Option Json :=
  let line := document.toList
  match valueWithin line.length (line.length + 1) line with
  | some (json, rest) => if (skip rest).isEmpty then some json else none
  | none => none

end Rowbase.Json
