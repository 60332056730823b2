import Rowbase.Response
import Rowbase.Text.Split

/-!
# Reading responses

A client finds the listing in a response by cutting it into lines and those into fields.
-/

namespace Rowbase.Response

/-- The fields of one line. -/
def fields (line : List Char) : List String :=
  (Text.splitAt '\t' line).map String.ofList

/-- The listing that a response shows: under the mark of success a header and the rows. -/
def listing? (response : String) : Option Listing :=
  match Text.splitAt '\n' response.toList with
  | mark :: header :: rows =>
    if mark = okMark.toList then some { header := fields header, rows := rows.map fields } else none
  | _ => none

end Rowbase.Response
