/-
  CallSites.CommandLine.Environment

  What a run of the program depends on besides its arguments: the files, the library that reads
  documents, and what the system prints of an exception that ends the program.
-/
import CallSites.Document.Value
import CallSites.Text.Utf8

namespace CallSites.CommandLine

/-! ## Files -/

/-- What opening and reading a file comes to: its bytes, or why the system fails. -/
abbrev Contents := Except String (List UInt8)

/-- What stands at a path. -/
inductive Entry where
  | missing
  | directory
  /-- A file without the permission to read it. -/
  | unreadable
  | file (contents : Contents)

/-! ## Documents -/

/-- Why a file holds no document. -/
inductive ReadFailure where
  /-- The bytes are no text, for this reason. -/
  | undecodable (reason : String)
  /-- The text is no document, as the reader describes it. -/
  | invalid (description : String)
  /-- The reader raised an exception of another kind. -/
  | raised (exception : Exception)
  deriving DecidableEq, Repr

/-- A library that reads documents. It is free in what it takes for one, in the order in which a
    process goes through sets, and in the failure that it reports first; but it finds documents in
    texts only. -/
structure DocumentReader where
  /-- The document in a text. -/
  read : List Char → Except ReadFailure Value
  /-- What is reported of bytes that are no text, for the given reason. Since they are read in
      pieces, another failure may come first. -/
  refuse : List UInt8 → Text.Utf8.Refusal → ReadFailure

/-- The document in the bytes of a file. -/
def DocumentReader.readBytes (reader : DocumentReader) (bytes : List UInt8) :
    Except ReadFailure Value :=
  match Text.Utf8.decode bytes with
  | .ok text => reader.read text
  | .error refusal => .error (reader.refuse bytes refusal)

/-! ## Environments -/

/-- What a run depends on besides its arguments. -/
structure Environment where
  /-- What stands at each path. -/
  files : String → Entry
  reader : DocumentReader
  /-- What is printed of an exception that nothing catches. -/
  traceback : Exception → String

end CallSites.CommandLine
