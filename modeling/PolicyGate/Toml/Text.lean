import PolicyGate.Text.Digit

/-!
The parts of a TOML text below its values: blanks, comments, line ends, strings and keys. Each
reader gives what it read and the text behind it, or nothing if that is not there.
-/

namespace PolicyGate.Toml

def isGap (c : Char) : Bool := c = ' ' || c = '\t'

def skipGap (text : List Char) : List Char := text.dropWhile isGap

def isPlain (c : Char) : Bool := c = '\t' || (0x20 ≤ c.toNat && c.toNat ≠ 0x7F)

def lineEnd? : List Char → Option (List Char)
  | '\n' :: rest => some rest
  | '\r' :: '\n' :: rest => some rest
  | _ => none

def skipComment : List Char → List Char
  | '#' :: rest => rest.dropWhile isPlain
  | text => text

def finishLine (text : List Char) : Option (List Char) :=
  match skipComment (skipGap text) with
  | [] => some []
  | rest => lineEnd? rest

def skipLinesFrom : Nat → List Char → Option (List Char)
  | 0, _ => none
  | fuel + 1, text =>
    match skipGap text with
    | '#' :: rest => do skipLinesFrom fuel (← lineEnd? (skipComment ('#' :: rest)))
    | '\n' :: rest => skipLinesFrom fuel rest
    | '\r' :: rest => do skipLinesFrom fuel (← lineEnd? ('\r' :: rest))
    | rest => some rest

def skipLines (text : List Char) : Option (List Char) := skipLinesFrom (text.length + 1) text

def codePoint (count : Nat) (text : List Char) : Option (Char × List Char) := do
  let digits := text.take count
  if digits.length = count then
    let c ← (Text.number? 16 digits).bind Text.character?
    some (c, text.drop count)
  else none

def escape : List Char → Option (Char × List Char)
  | 'b' :: rest => some ('\x08', rest)
  | 't' :: rest => some ('\t', rest)
  | 'n' :: rest => some ('\n', rest)
  | 'f' :: rest => some ('\x0c', rest)
  | 'r' :: rest => some ('\r', rest)
  | '"' :: rest => some ('"', rest)
  | '\\' :: rest => some ('\\', rest)
  | 'u' :: rest => codePoint 4 rest
  | 'U' :: rest => codePoint 8 rest
  | _ => none

def basicFrom : Nat → List Char → List Char → Option (String × List Char)
  | 0, _, _ => none
  | _ + 1, _, [] => none
  | fuel + 1, found, c :: rest =>
    if c = '"' then some (.ofList found.reverse, rest)
    else if c = '\\' then do
      let (c, rest) ← escape rest
      basicFrom fuel (c :: found) rest
    else if isPlain c then basicFrom fuel (c :: found) rest
    else none

def literalFrom (found : List Char) : List Char → Option (String × List Char)
  | [] => none
  | c :: rest =>
    if c = '\x27' then some (.ofList found.reverse, rest)
    else if isPlain c then literalFrom (c :: found) rest
    else none

/-- The end of a string in triple quotes that follows here, with the one or two quotes that may
still belong to it. -/
def tripleEnd? (quote : Char) (text : List Char) : Option (List Char × List Char) :=
  let quotes := (text.takeWhile (· = quote)).length
  if quotes < 3 then none
  else if quotes < 6 then some (List.replicate (quotes - 3) quote, text.drop quotes)
  else some ([quote, quote], text.drop 5)

def skipFoldedFrom : Nat → List Char → List Char
  | 0, text => text
  | fuel + 1, text =>
    let rest := skipGap text
    match lineEnd? rest with
    | some rest => skipFoldedFrom fuel rest
    | none => rest

/-- A backslash at the end of its line, blanks apart, leaves out all white space behind it. -/
def foldedLine? (text : List Char) : Option (List Char) := do
  let rest ← lineEnd? (skipGap text)
  some (skipFoldedFrom (rest.length + 1) rest)

def longBasicFrom : Nat → List Char → List Char → Option (String × List Char)
  | 0, _, _ => none
  | fuel + 1, found, text =>
    match tripleEnd? '"' text with
    | some (quotes, rest) => some (.ofList (found.reverse ++ quotes), rest)
    | none =>
      match lineEnd? text with
      | some rest => longBasicFrom fuel ('\n' :: found) rest
      | none =>
        match text with
        | '\\' :: rest =>
          match foldedLine? rest with
          | some rest => longBasicFrom fuel found rest
          | none => do
            let (c, rest) ← escape rest
            longBasicFrom fuel (c :: found) rest
        | c :: rest => if isPlain c then longBasicFrom fuel (c :: found) rest else none
        | [] => none

def longLiteralFrom : Nat → List Char → List Char → Option (String × List Char)
  | 0, _, _ => none
  | fuel + 1, found, text =>
    match tripleEnd? '\x27' text with
    | some (quotes, rest) => some (.ofList (found.reverse ++ quotes), rest)
    | none =>
      match lineEnd? text with
      | some rest => longLiteralFrom fuel ('\n' :: found) rest
      | none =>
        match text with
        | c :: rest => if isPlain c then longLiteralFrom fuel (c :: found) rest else none
        | [] => none

def skipFirstLineEnd (text : List Char) : List Char := (lineEnd? text).getD text

def shortString : List Char → Option (String × List Char)
  | '"' :: rest => basicFrom (rest.length + 1) [] rest
  | '\x27' :: rest => literalFrom [] rest
  | _ => none

def string : List Char → Option (String × List Char)
  | '"' :: '"' :: '"' :: rest => longBasicFrom (rest.length + 1) [] (skipFirstLineEnd rest)
  | '\x27' :: '\x27' :: '\x27' :: rest =>
    longLiteralFrom (rest.length + 1) [] (skipFirstLineEnd rest)
  | text => shortString text

def isBareKeyChar (c : Char) : Bool := c.isAlphanum || c = '_' || c = '-'

def simpleKey (text : List Char) : Option (String × List Char) :=
  match text with
  | '"' :: _ | '\x27' :: _ => shortString text
  | _ =>
    let bare := text.takeWhile isBareKeyChar
    if bare = [] then none else some (.ofList bare, text.drop bare.length)

def keyFrom : Nat → List String → List Char → Option (List String × List Char)
  | 0, _, _ => none
  | fuel + 1, found, text =>
    match skipGap text with
    | '.' :: rest => do
      let (part, rest) ← simpleKey (skipGap rest)
      keyFrom fuel (part :: found) rest
    | rest => some (found.reverse, rest)

def depthLimit : Nat := 80

def key (text : List Char) : Option (List String × List Char) := do
  let (first, rest) ← simpleKey (skipGap text)
  let (parts, rest) ← keyFrom (rest.length + 1) [first] rest
  if parts.length < depthLimit then some (parts, rest) else none

end PolicyGate.Toml
