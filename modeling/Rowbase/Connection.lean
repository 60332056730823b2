import Rowbase.Response
import Rowbase.Settings

/-!
# Connections

A client sends lines of bytes and gets one framed response to each. The reply is a function of
the bytes: a line that is too long is answered and ends the connection, and a line that is no
text ends it without an answer.
-/

namespace Rowbase.Connection

/-- The byte that ends a line. -/
def newline : UInt8 :=
  10

/-- The byte that may stand before it. -/
def carriageReturn : UInt8 :=
  13

/-- The lines of some bytes that a newline ends, and the bytes after the last newline. -/
def split (bytes : List UInt8) : List (List UInt8) × List UInt8 :=
  match _h : bytes.dropWhile (· ≠ newline) with
  | [] => ([], bytes)
  | _ :: rest =>
    let (ended, last) := split rest
    (bytes.takeWhile (· ≠ newline) :: ended, last)
termination_by bytes.length
decreasing_by
  have hdrop := (bytes.dropWhile_sublist (· ≠ newline)).length_le
  rw [_h, List.length_cons] at hdrop
  exact hdrop

/-- The lines that a client sent. The last may lack its newline; then it does not count if it
is empty or a lone carriage return. -/
def lines (bytes : List UInt8) : List (List UInt8) :=
  let (ended, last) := split bytes
  if last = [] ∨ last = [carriageReturn] then ended else ended ++ [last]

/-- A line without the carriage return that may end it. -/
def withoutReturn (line : List UInt8) : List UInt8 :=
  if line.getLast? = some carriageReturn then line.dropLast else line

/-- The text of a line. -/
def decode? (line : List UInt8) : Option String :=
  String.fromUTF8? (ByteArray.mk (withoutReturn line).toArray)

/-- The mark that stands on a line of its own after every response. -/
def endMark : String :=
  "\x04"

/-- A response with its end mark. -/
def frame (response : String) : String :=
  response ++ "\n" ++ endMark ++ "\n"

/-- The response to a line that is too long. -/
def tooLong : String :=
  Response.ofFailure ("command longer than " ++ toString Settings.lineLimit ++ " bytes")

/-- What a line makes of a connection. -/
inductive Reaction where
  /-- The line is answered and the connection stays open. -/
  | answered (session : Session) (store : Store) (reply : String)
  /-- The connection ends, with a last reply or none. -/
  | closed (reply : String)

/-- The reaction to one line. -/
def react (session : Session) (store : Store) (line : List UInt8) : Reaction :=
  if Settings.lineLimit < line.length then .closed (frame tooLong)
  else
    match decode? line with
    | none => .closed ""
    | some text =>
      let (session, store, response) := session.respond store text
      .answered session store (frame response)

/-- Answers lines one after the other, up to the first that ends the connection. -/
def answer (session : Session) (store : Store) : List (List UInt8) → Store × String
  | [] => (store, "")
  | line :: rest =>
    match react session store line with
    | .closed reply => (store, reply)
    | .answered session store reply =>
      let (store, replies) := answer session store rest
      (store, reply ++ replies)

/-- Serves a client that sends the given bytes, in a new session. -/
def serve (store : Store) (bytes : List UInt8) : Store × String :=
  answer .create store (lines bytes)

end Rowbase.Connection
