/-!
Lines of a text: each ends at a line feed, which goes together with one carriage return in front
of it. A last line without a line feed is kept as it stands.
-/

namespace PolicyGate.Text

/-- The line whose characters are given backwards, without one carriage return at its end. -/
def closeLine : List Char → List Char
  | '\r' :: line => line.reverse
  | line => line.reverse

def linesFrom (line : List Char) : List Char → List (List Char)
  | [] => if line = [] then [] else [line.reverse]
  | c :: rest =>
    if c = '\n' then closeLine line :: linesFrom [] rest else linesFrom (c :: line) rest

def lines (text : List Char) : List (List Char) := linesFrom [] text

end PolicyGate.Text
