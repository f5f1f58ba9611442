import ReplyGateway.Xml.Reference

namespace ReplyGateway.Xml

/-- An element with content that is written already. One without content is closed at once. -/
def writeElement (name content : List Char) : List Char :=
  if content.isEmpty then '<' :: (name ++ ['/', '>'])
  else '<' :: (name ++ '>' :: (content ++ '<' :: '/' :: (name ++ ['>'])))

end ReplyGateway.Xml
