/-!
# JSON values

Documents are trees of JSON values. A number keeps its text and an object all its members in
order, as what they mean is for the reader of the document to say.
-/

namespace Rowbase

/-- A JSON value. -/
inductive Json where
  | null
  | boolean (value : Bool)
  | number (numeral : String)
  | text (content : String)
  | array (items : List Json)
  | object (members : List (String × Json))
  /-- A text, or an object with a key, that escapes half of a surrogate pair and so stands for no
  characters. It can be passed over and not be used. -/
  | unreadable

end Rowbase
