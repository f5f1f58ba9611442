namespace ReplyGateway.Store

/-- What keeps the store from answering. -/
inductive Fault
  /-- A row that cannot be read, or any other failure of the database. -/
  | database
  | notFound
  | migration (reason : String)
  | malformedDocument
  deriving DecidableEq, Repr

def Fault.message : Fault → String
  | database => "Database error"
  | notFound => "Record not found"
  | migration reason => s!"Migration error: {reason}"
  | malformedDocument => "Malformed stored document"

end ReplyGateway.Store
