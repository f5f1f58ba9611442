import ReplyGateway.Xml.Markup

namespace ReplyGateway.Xml

/-- An attribute of a start tag. Those whose names begin with `xmlns` bind prefixes of names to namespaces. -/
structure Attribute where
  name : List Char
  /-- The characters between the quotes, as they stand. -/
  value : List Char
  deriving DecidableEq, Repr

namespace Attribute

/-- The attribute in front, which does not begin with a space, and what follows it: a name, an equals sign and
a value between quotes. -/
def scan : List Char → Option (Attribute × List Char)
  | [] => none
  | c :: cs =>
    let (more, rest) := cs.span fun c => c ≠ '=' && !isSpace c
    match rest.dropWhile isSpace with
    | '=' :: rest =>
      match rest.dropWhile isSpace with
      | q :: rest =>
        if q = '"' ∨ q = '\'' then
          match rest.span (· ≠ q) with
          | (value, _ :: rest) => some (⟨c :: more, value⟩, rest)
          | (_, []) => none
        else none
      | [] => none
    | _ => none

/-- The attributes up to the first that is malformed, and whether none is. The fuel is the number of
characters. -/
def scanAll : Nat → List Char → List Attribute × Bool
  | 0, cs => ([], cs.all isSpace)
  | fuel + 1, cs =>
    match cs.dropWhile isSpace with
    | [] => ([], true)
    | cs =>
      match scan cs with
      | none => ([], false)
      | some (a, rest) =>
        let (more, complete) := scanAll fuel rest
        (a :: more, complete)

/-- The prefix that an attribute binds to a namespace, if it binds one. -/
def boundPrefix? (a : Attribute) : Option (List Char) :=
  if "xmlns:".toList.isPrefixOf a.name then some (a.name.drop 6) else none

/-- A namespace of the standards for XML. -/
def standardNamespace (path : String) : List Char := ("http:" ++ "//www.w3.org/" ++ path).toList

def xmlNamespace : List Char := standardNamespace "XML/1998/namespace"

def xmlnsNamespace : List Char := standardNamespace "2000/xmlns/"

/-- Whether an attribute leaves the reserved prefixes alone: it binds `xml` to nothing but its own namespace,
`xmlns` to nothing at all, and no other prefix to a namespace of these two. -/
def respectsReserved (a : Attribute) : Bool :=
  match a.boundPrefix? with
  | none => true
  | some bound =>
    if bound = "xml".toList then a.value = xmlNamespace
    else if bound = "xmlns".toList then false
    else a.value ≠ xmlNamespace && a.value ≠ xmlnsNamespace

/-- What binds no prefix binds nothing amiss. -/
theorem respectsReserved_of_boundPrefix? {a : Attribute} (h : a.boundPrefix? = none) : a.respectsReserved = true := by
  simp [respectsReserved, h]

end Attribute

/-- Whether the characters after the name of an element are attributes, each name at most once. -/
def areAttributes (cs : List Char) : Bool :=
  let (attributes, complete) := Attribute.scanAll cs.length cs
  complete && decide (attributes.map Attribute.name).Nodup

/-- Whether the attributes after the name of an element leave the reserved prefixes alone, as far as they can
be read. -/
def bindsLawfully (cs : List Char) : Bool := (Attribute.scanAll cs.length cs).1.all Attribute.respectsReserved

end ReplyGateway.Xml
