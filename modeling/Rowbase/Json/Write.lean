import Rowbase.Json

/-!
# Writing JSON

`Json.write` puts every item and member on a line of its own, two spaces deeper than the
bracket before it. Only quotes, backslashes and control characters below the space are
escaped.
-/

namespace Rowbase.Json

/-- A code unit below 256 as four hexadecimal digits in lower case. -/
def shortUnit (unit : Nat) : List Char :=
  ['0', '0', Nat.digitChar (unit / 16), Nat.digitChar (unit % 16)]

/-- A character as it stands in a text. -/
def escaped (c : Char) : List Char :=
  match c with
  | '"' => ['\\', '"']
  | '\\' => ['\\', '\\']
  | '\x08' => ['\\', 'b']
  | '\x0c' => ['\\', 'f']
  | '\n' => ['\\', 'n']
  | '\r' => ['\\', 'r']
  | '\t' => ['\\', 't']
  | _ => if c.toNat < 0x20 then '\\' :: 'u' :: shortUnit c.toNat else [c]

/-- A text between quotes. -/
def quoted (content : String) : List Char :=
  '"' :: content.toList.flatMap escaped ++ ['"']

/-- A new line at the given depth. -/
def newLine (depth : Nat) : List Char :=
  '\n' :: List.replicate (2 * depth) ' '

mutual

/-- A value at the given depth. An unreadable value has no spelling of its own and is written
as null. -/
def lines (depth : Nat) : Json → List Char
  | null | unreadable => "null".toList
  | boolean true => "true".toList
  | boolean false => "false".toList
  | number numeral => numeral.toList
  | text content => quoted content
  | array [] => ['[', ']']
  | array (first :: rest) =>
    '[' :: newLine (depth + 1) ++ lines (depth + 1) first ++ itemLines (depth + 1) rest
      ++ newLine depth ++ [']']
  | object [] => ['{', '}']
  | object ((key, value) :: rest) =>
    '{' :: newLine (depth + 1) ++ quoted key ++ [':', ' '] ++ lines (depth + 1) value
      ++ memberLines (depth + 1) rest ++ newLine depth ++ ['}']

/-- The items after the first. -/
def itemLines (depth : Nat) : List Json → List Char
  | [] => []
  | item :: rest => ',' :: newLine depth ++ lines depth item ++ itemLines depth rest

/-- The members after the first. -/
def memberLines (depth : Nat) : List (String × Json) → List Char
  | [] => []
  | (key, value) :: rest =>
    ',' :: newLine depth ++ quoted key ++ [':', ' '] ++ lines depth value ++ memberLines depth rest

end

/-- A value as a document. -/
def write (json : Json) : String :=
  String.ofList (json.lines 0)

example : write (.object [("a", .array [.text "b\n"]), ("c", .array [])]) =
    "\x7b\n  \"a\": [\n    \"b\\n\"\n  ],\n  \"c\": []\n\x7d" := by
  decide +kernel

end Rowbase.Json
