import Rowbase.Token

/-!
# Writing tokens

Tokens are written with a space between any two of them, so that reading them again finds the
same tokens. A text stands between quotes that it does not contain; one that contains both
kinds of quote has no written form that can be read.
-/

namespace Rowbase.Token

/-- The quote to write a text with. -/
def quoteFor (content : String) : Char :=
  if '\'' ∈ content.toList then '"' else '\''

/-- A token as it stands in a line. -/
def written : Token → List Char
  | .text content => quoteFor content :: content.toList ++ [quoteFor content]
  | token => token.spelling.toList

/-- A line of tokens, each followed by a space. -/
def line : List Token → List Char
  | [] => []
  | token :: rest => token.written ++ ' ' :: line rest

/-- A line of tokens. -/
def write (tokens : List Token) : String :=
  String.ofList (line tokens)

end Rowbase.Token
