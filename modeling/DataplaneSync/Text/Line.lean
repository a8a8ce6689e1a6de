namespace DataplaneSync.Text

/-!
# Lines

The lines of a text.  A line ends at a line feed, and a carriage return right before it belongs
to the line end.  Behind the last line feed there is a line only if there are characters.
-/

/-- A line without the carriage return at its end. -/
def dropReturn (line : List Char) : List Char :=
  if line.getLast? = some '\r' then line.dropLast else line

/-- The lines of a text given by its characters. -/
def linesOf (cs : List Char) : List (List Char) :=
  let parts := cs.splitOn '\n'
  parts.dropLast.map dropReturn ++ (parts.getLast?.filter (!·.isEmpty)).toList

/-- The lines of a text. -/
def lines (s : String) : List String := (linesOf s.toList).map String.ofList

end DataplaneSync.Text
