/-!
The lines of a worker's output. Output is a sequence of bytes; a line feed ends a line, a carriage return right
before it belongs to the ending, and a last line without an ending counts once the output is at its end.
-/

namespace QueryFrames.Output

/-- The bytes of the lines that are complete, and those after the last line feed. -/
def splitLines : List UInt8 → List (List UInt8) × List UInt8
  | [] => ([], [])
  | byte :: bytes =>
    let (lines, rest) := splitLines bytes
    if byte = 10 then ([] :: lines, rest)
    else
      match lines with
      | [] => ([], byte :: rest)
      | line :: lines => ((byte :: line) :: lines, rest)

/-- A line without the carriage return of its ending. -/
def dropReturn (line : List UInt8) : List UInt8 :=
  if line.getLast? = some 13 then line.dropLast else line

/-- The text that bytes encode, if they are well formed. -/
def decode? (bytes : List UInt8) : Option String :=
  String.fromUTF8? bytes.toByteArray

/-- The bytes that encode a text. -/
def encode (text : String) : List UInt8 :=
  text.toUTF8.toList

end QueryFrames.Output
