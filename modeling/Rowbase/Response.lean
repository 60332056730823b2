import Rowbase.Session

/-!
# Responses

The text that answers a command: a mark of success or failure, and under it the listing, one
line for the header and one for each row, with tabs between the fields.
-/

namespace Rowbase.Response

/-- The mark of success. -/
def okMark : String :=
  "[OK]"

/-- The mark of failure. -/
def errorMark : String :=
  "[ERROR]"

/-- The names or fields of one line. -/
def line (fields : List String) : String :=
  String.intercalate "\t" fields

/-- A listing under the mark of success. -/
def ofListing (listing : Listing) : String :=
  String.intercalate "\n" (okMark :: line listing.header :: listing.rows.map line)

/-- A failure in words. -/
def ofFailure (words : String) : String :=
  errorMark ++ ": " ++ words

/-- The response to what a command came to. Of one that was cut off nothing more is told. -/
def ofOutcome : Outcome → String
  | .done => okMark
  | .listing listing => ofListing listing
  | .failed error => ofFailure error.message
  | .stopped => ofFailure "Query Failed"

example :
    ofListing { header := ["id", "name"], rows := [["1", "Ada"]] } = "[OK]\nid\tname\n1\tAda" := by
  decide +kernel

end Rowbase.Response

namespace Rowbase.Session

/-- Runs one line and gives the response to it. -/
def respond (session : Session) (store : Store) (line : String) : Session × Store × String :=
  let (session, store, outcome) := session.run store line
  (session, store, Response.ofOutcome outcome)

end Rowbase.Session
