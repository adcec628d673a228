/-!
# The lines of a text

A line ends at a line feed, or at a carriage return with a line feed after it.
The last line need not be ended, and a text that ends with a line feed has no
empty line after it.
-/

namespace SlottedFile.Text

/-- The lines of a text, given the characters of the current line so far, the
last one first. -/
def linesFrom : List Char → List Char → List String
  | [], [] => []
  | line, [] => [String.ofList line.reverse]
  | line, c :: cs =>
    if c = '\n' then
      let ended := match line with
        | '\r' :: before => before
        | _ => line
      String.ofList ended.reverse :: linesFrom [] cs
    else linesFrom (c :: line) cs

/-- **The lines of a text**, without what ends them. -/
def lines (s : String) : List String := linesFrom [] s.toList

end SlottedFile.Text
