import ReplyGateway.Json.Document
import ReplyGateway.Json.Reader
import ReplyGateway.Text.Blank

namespace ReplyGateway

open Json (Document)

/-- A keyword definition: which texts a rule answers. -/
structure Keyword where
  keyword : String
  /-- Whether a text has to be the keyword, and not just contain it. -/
  exact : Bool
  deriving DecidableEq, Repr

namespace Keyword

/-- Whether a text is one that the definition means. -/
def isMatch (k : Keyword) (text : String) : Bool :=
  if k.exact then text == k.keyword else occursIn k.keyword.toList text.toList

/-- A definition means the texts that equal its keyword, or that contain it. -/
theorem isMatch_iff {k : Keyword} {text : String} :
    k.isMatch text = true ↔ if k.exact then text = k.keyword else k.keyword.toList <:+: text.toList := by
  unfold isMatch
  split
  · simp
  · exact occursIn_iff

def fieldNames : List String := ["keyword", "exact"]

/-- Reads a definition. The keyword has to be there. -/
def ofDocument? (d : Document) : Option Keyword := do
  match ← d.record? fieldNames with
  | [some keyword, exact] =>
    let exact ← match exact with
      | none => some false
      | some given => given.bool?
    return ⟨← keyword.text?, exact⟩
  | _ => none

def ofText? (s : String) : Option Keyword := Document.ofString? s >>= ofDocument?

/-- Reads the text of a list of definitions; a blank text is an empty list. -/
def listOfText? (s : String) : Option (List Keyword) :=
  if allBlank s then some [] else Document.ofString? s >>= Json.Tree.array? >>= List.mapM ofDocument?

end Keyword
end ReplyGateway
