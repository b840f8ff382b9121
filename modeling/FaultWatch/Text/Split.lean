/-! Cutting text into pieces. A separator ends one piece and starts the next, so `pieces` always
yields one piece more than there are separators; joined by the separators the pieces are the text.
Lines end at a line feed, one carriage return before it belongs to the ending, and an empty piece
after the last line feed is no line. -/
namespace FaultWatch.Text

def extendFirst (c : Char) : List (List Char) → List (List Char)
  | [] => [[c]]
  | first :: rest => (c :: first) :: rest

def pieces (separates : Char → Bool) : List Char → List (List Char)
  | [] => [[]]
  | c :: rest =>
    if separates c then [] :: pieces separates rest else extendFirst c (pieces separates rest)

def fields (separates : Char → Bool) (cs : List Char) : List (List Char) :=
  (pieces separates cs).filter (· ≠ [])

def dropReturn (line : List Char) : List Char :=
  if line.getLast? = some '\r' then line.dropLast else line

/-- The lines of the pieces between line feeds: all but the last were ended by one. -/
def linesOf : List (List Char) → List (List Char)
  | [] => []
  | [last] => if last = [] then [] else [last]
  | line :: next :: rest => dropReturn line :: linesOf (next :: rest)

def lines (cs : List Char) : List (List Char) := linesOf (pieces (· == '\n') cs)

end FaultWatch.Text
