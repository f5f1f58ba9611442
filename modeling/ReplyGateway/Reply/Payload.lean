import ReplyGateway.Json.Document
import ReplyGateway.Reply.Stored

namespace ReplyGateway

open Json (Document Tree Value)

/-- The replies that a rule stores, and whether all of them are sent or one by chance. -/
structure Payload where
  /-- Whether all replies are sent; otherwise one is, by chance. -/
  replyAll : Bool
  replies : List Reply
  deriving DecidableEq, Repr

namespace Payload

/-- The replies to send; `draw` decides which one if only one is. -/
def select (p : Payload) (draw : Nat) : List Reply :=
  if p.replyAll then p.replies else (p.replies[draw % p.replies.length]?).toList

/-- A choice takes the whole list or one of its elements. -/
theorem select_eq (p : Payload) (draw : Nat) :
    p.select draw = [] ∨ p.replyAll = true ∧ p.select draw = p.replies ∨
      p.replyAll = false ∧ ∃ r ∈ p.replies, p.select draw = [r] := by
  unfold select
  split
  · simp_all
  · rcases h : p.replies[draw % p.replies.length]? with _ | r
    · simp
    · simp_all only [Option.toList_some]
      exact .inr (.inr ⟨by simp_all, r, List.mem_of_getElem? h, rfl⟩)

def fieldNames : List String := ["reply_all", "msg_list"]

/-- Reads a stored payload from any tree, given how to read its names and replies. Fields that are left out
are false and empty. -/
def ofTree? {Text Num : Type} (readName : Text → Option String) (readReply : Tree Text Num → Option Reply)
    (t : Tree Text Num) : Option Payload := do
  match ← t.record? readName fieldNames with
  | [replyAll, replies] =>
    let replyAll ← match replyAll with
      | none => some false
      | some given => given.bool?
    let replies ← match replies with
      | none => some []
      | some given => given.array? >>= List.mapM readReply
    return ⟨replyAll, replies⟩
  | _ => none

def ofValue? (v : Value) : Option Payload := ofTree? some Reply.ofValue? v

/-- Reads a stored payload. Only its replies are read throughout, and they lie inside an array inside an
object. -/
def ofDocument? (d : Document) : Option Payload :=
  ofTree? Json.Quoted.decode (fun d => Document.value? (Json.depthLimit - 2) d >>= Reply.ofValue?) d

def ofText? (s : String) : Option Payload := Document.ofString? s >>= ofDocument?

def toValue (p : Payload) : Value :=
  .object [("reply_all", .bool p.replyAll), ("msg_list", .array (p.replies.map Reply.toValue))]

end Payload
end ReplyGateway
