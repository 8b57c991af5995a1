/-!
# Lines

A line ends at a line feed, and one carriage return just before the line feed belongs to the line
end. Text after the last line feed is a line of its own unless it is empty, so the empty text has
no lines; a carriage return at the very end of the text stays in its line.
-/

namespace StylesheetBuild.Text

def dropCarriageReturn (line : List Char) : List Char :=
  if line.getLast? = some '\r' then line.dropLast else line

def lines (cs : List Char) : List (List Char) :=
  let pieces := cs.splitOn '\n'
  let last := pieces.getLastD []
  pieces.dropLast.map dropCarriageReturn ++ if last.isEmpty then [] else [last]

/-- The empty line for the empty text. -/
def firstLine (cs : List Char) : List Char :=
  match cs.dropWhile (· != '\n') with
  | [] => cs
  | _ :: _ => dropCarriageReturn (cs.takeWhile (· != '\n'))

end StylesheetBuild.Text
