import ReplyGateway.Text.Blank

namespace ReplyGateway

/-- The two formats of request bodies, and of the replies to them. -/
inductive Format
  | xml
  | json
  deriving DecidableEq, Repr

namespace Format

def xmlMarker : String := "text/xml"

/-- The format that a content type announces: XML where it contains the marker, and otherwise, also without
a content type, JSON. -/
def ofContentType (contentType : Option String) : Format :=
  match contentType with
  | some t => if occursIn xmlMarker.toList t.toList then xml else json
  | none => json

def mime : Format → String
  | xml => "application/xml"
  | json => "application/json"

end Format
end ReplyGateway
