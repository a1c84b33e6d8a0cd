/-! # Lines of a byte stream

* **`lines`** — the lines of a stream, each without its end, which is a line feed, perhaps with a
  carriage return before it. The last line may lack its end.
* **`lineText?`** — the text of a line. -/

namespace Pursuit

/-- The line feed. -/
def lineFeed : UInt8 := 10

/-- The carriage return. -/
def carriageReturn : UInt8 := 13

/-- A line, given backwards, without the carriage return at its end. -/
def closeLine : List UInt8 → List UInt8
  | b :: rest => if b = carriageReturn then rest.reverse else (b :: rest).reverse
  | [] => []

/-- The lines of a stream, where `line` holds the bytes of the line that is being read, the last one
first. -/
def linesFrom (line : List UInt8) : List UInt8 → List (List UInt8)
  | [] => if line.isEmpty then [] else [line.reverse]
  | b :: rest =>
    if b = lineFeed then closeLine line :: linesFrom [] rest else linesFrom (b :: line) rest

/-- The lines of a stream. -/
def lines (stream : List UInt8) : List (List UInt8) := linesFrom [] stream

/-- The text of a line, if it is one. -/
def lineText? (line : List UInt8) : Option String := String.fromUTF8? ⟨line.toArray⟩

@[simp] theorem lines_nil : lines [] = [] := rfl

/-- A line feed ends an empty line. -/
theorem lines_lineFeed (stream : List UInt8) : lines (lineFeed :: stream) = [] :: lines stream := by
  simp [lines, linesFrom, closeLine]

end Pursuit
