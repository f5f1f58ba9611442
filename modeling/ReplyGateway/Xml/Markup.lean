namespace ReplyGateway.Xml

/-- Space, tab and line ends. -/
def isSpace (c : Char) : Bool := c = ' ' || c = '\t' || c = '\r' || c = '\n'

/-- The pieces of an XML text in their order. Only what tells one piece from the next is looked at. -/
inductive Markup
  /-- A start tag, with the characters after its name, and whether it is closed at once. -/
  | opening (name attributes : List Char) (closed : Bool)
  | closing (name : List Char)
  | text (raw : List Char)
  /-- The characters of a CDATA section. -/
  | verbatim (raw : List Char)
  | doctype
  /-- A comment or a processing instruction. -/
  | aside
  deriving DecidableEq, Repr

namespace Markup

/-- Splits at the first occurrence of `mark`, which belongs to neither part. `done` holds the characters
before, last first. -/
def cut (mark done : List Char) : List Char → Option (List Char × List Char)
  | [] => none
  | c :: cs =>
    if mark.isPrefixOf (c :: cs) then some (done.reverse, (c :: cs).drop mark.length) else cut mark (c :: done) cs

/-- Splits a tag off at the first `>` outside quotes; `quote` is the one that is open. -/
def cutTag (quote : Option Char) (done : List Char) : List Char → Option (List Char × List Char)
  | [] => none
  | c :: cs =>
    match quote with
    | none =>
      if c = '>' then some (done.reverse, cs)
      else cutTag (if c = '"' ∨ c = '\'' then some c else none) (c :: done) cs
    | some q => cutTag (if c = q then none else some q) (c :: done) cs

/-- Splits a document type off at the `>` that no `<` inside it needs; `opened` counts those. -/
def cutDoctype (opened : Nat) (done : List Char) : List Char → Option (List Char × List Char)
  | [] => none
  | '<' :: cs => cutDoctype (opened + 1) ('<' :: done) cs
  | '>' :: cs => if opened = 0 then some (done.reverse, cs) else cutDoctype (opened - 1) ('>' :: done) cs
  | c :: cs => cutDoctype opened (c :: done) cs

/-- Drops the spaces at the end, unless there is nothing else. -/
def trimNameEnd (cs : List Char) : List Char :=
  if cs.all isSpace then cs else (cs.reverse.dropWhile isSpace).reverse

/-- A start tag from what stands between its angle brackets. -/
def ofStartTag (content : List Char) : Markup :=
  let closed := content.getLast? == some '/'
  let content := if closed then content.dropLast else content
  let (name, attributes) := content.span fun c => !isSpace c
  opening name attributes closed

/-- The letters that open a document type, in either case. -/
def isDoctypeKeyword (cs : List Char) : Bool := cs.map Char.toUpper == "DOCTYPE".toList

/-- The piece in front of a text that is not empty, and what follows it. -/
def next : List Char → Option (Markup × List Char)
  | '<' :: '/' :: cs => (cutTag none [] cs).map fun (content, rest) => (closing (trimNameEnd content), rest)
  | '<' :: '?' :: cs =>
    match cs with
    | '>' :: _ => none
    | _ => (cut ['?', '>'] [] cs).map fun (_, rest) => (aside, rest)
  | '<' :: '!' :: '-' :: '-' :: cs => (cut ['-', '-', '>'] [] cs).map fun (_, rest) => (aside, rest)
  | '<' :: '!' :: '[' :: 'C' :: 'D' :: 'A' :: 'T' :: 'A' :: '[' :: cs =>
    (cut [']', ']', '>'] [] cs).map fun (raw, rest) => (verbatim raw, rest)
  | '<' :: '!' :: cs =>
    if isDoctypeKeyword (cs.take 7) then
      match cutDoctype 0 [] (cs.drop 7) with
      | some (content, rest) => if content.all isSpace then none else some (doctype, rest)
      | none => none
    else none
  | '<' :: cs => (cutTag none [] cs).map fun (content, rest) => (ofStartTag content, rest)
  | cs =>
    let (raw, rest) := cs.span (· ≠ '<')
    some (text raw, rest)

end Markup
end ReplyGateway.Xml
