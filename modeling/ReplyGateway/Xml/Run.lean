import ReplyGateway.Xml.Element

namespace ReplyGateway.Xml

/-- The text of a part, with references replaced. -/
def Piece.text? : Piece → Option (List Char)
  | .text raw => unescape raw
  | .verbatim raw => some raw

/-- The text of a run with all its spaces. -/
def runText? (pieces : List Piece) : Option (List Char) := (pieces.mapM Piece.text?).map List.flatten

/-- Drops the spaces at the start of a run, and the text that consists of them. -/
def trimRunStart : List Piece → List Piece
  | .text raw :: rest =>
    match raw.dropWhile isSpace with
    | [] => trimRunStart rest
    | raw => .text raw :: rest
  | run => run

/-- Drops the spaces at the end of the last text of a run. -/
def trimRunEnd (run : List Piece) : List Piece :=
  match run.getLast? with
  | some (.text raw) => run.dropLast ++ [.text (raw.reverse.dropWhile isSpace).reverse]
  | _ => run

/-- A run without the spaces that do not count: those of text next to a tag, at the start only if `trimsStart` tells
so, but not those of verbatim sections. `none` if it is nothing but such spaces. -/
def trimRun? (trimsStart : Bool) (run : List Piece) : Option (List Piece) :=
  match trimRunEnd (if trimsStart then trimRunStart run else run) with
  | [] | [.text []] => none
  | run => some run

def isBlankRun (run : List Piece) : Bool := (trimRunStart run).isEmpty

/-- Whether the references in a run can be replaced. -/
def isReadableRun (run : List Piece) : Bool := (runText? run).isSome

end ReplyGateway.Xml
