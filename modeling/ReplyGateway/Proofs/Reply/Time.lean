import Mathlib
import ReplyGateway.Proofs.Text.Integer
import ReplyGateway.Reply.Passive

namespace ReplyGateway

theorem Xml.writeElement_of_ne_nil {name content : List Char} (some' : content ≠ []) :
    writeElement name content = ('<' :: (name ++ ['>'])) ++ content ++ ('<' :: '/' :: (name ++ ['>'])) := by
  simp [writeElement, some']

namespace Reply

/-- What stands in front of the time in a passive reply. -/
def timeMark : Format → String
  | .xml => "<CreateTime>"
  | .json => "\"CreateTime\":"

/-- The parts of a passive reply, of which the first four are the same for all kinds. -/
def partsAt (time : Int) (toUser fromUser kindName : String) (own : List (String × Part)) : List (String × Part) :=
  [("ToUserName", .text toUser), ("FromUserName", .text fromUser), ("CreateTime", .number time),
    ("MsgType", .text kindName)] ++ own

theorem exists_writeXml_eq (toUser fromUser kindName : String) (own : List (String × Part)) :
    ∃ before after, ∀ time, writeXml (partsAt time toUser fromUser kindName own) =
      before ++ (timeMark .xml).toList ++ (toString time).toList ++ after := by
  let write (parts : List (String × Part)) : List Char :=
    parts.flatMap fun part => Xml.writeElement part.1.toList part.2.writeXml
  refine ⟨"<xml>".toList ++ write [("ToUserName", .text toUser), ("FromUserName", .text fromUser)],
    "</CreateTime>".toList ++ write (("MsgType", .text kindName) :: own) ++ "</xml>".toList, fun time => ?_⟩
  have created : Xml.writeElement "CreateTime".toList (Part.number time).writeXml =
      (timeMark .xml).toList ++ (toString time).toList ++ "</CreateTime>".toList :=
    Xml.writeElement_of_ne_nil (toList_toString_ne_nil time)
  have split : write (partsAt time toUser fromUser kindName own) =
      write [("ToUserName", .text toUser), ("FromUserName", .text fromUser)] ++
        ((timeMark .xml).toList ++ (toString time).toList ++ "</CreateTime>".toList) ++
        write (("MsgType", .text kindName) :: own) := by
    simp only [← created, write, partsAt]
    simp
  have some' : write (partsAt time toUser fromUser kindName own) ≠ [] := by
    rw [split]
    simp [timeMark]
  rw [writeXml, Xml.writeElement_of_ne_nil some']
  change "<xml>".toList ++ write _ ++ "</xml>".toList = _
  rw [split]
  simp

theorem exists_writeJson_eq (toUser fromUser kindName : String) (own : List (String × Part)) :
    ∃ before after, ∀ time, writeJson (partsAt time toUser fromUser kindName own) =
      before ++ (timeMark .json).toList ++ (toString time).toList ++ after := by
  let write (parts : List (String × Part)) : List Char :=
    Json.Value.writeMembers (parts.map fun part => (part.1, part.2.toValue))
  refine ⟨'\x7b' :: (Json.Quoted.encode "ToUserName" ++ ':' :: (Json.Quoted.encode toUser ++ ',' ::
    (Json.Quoted.encode "FromUserName" ++ ':' :: (Json.Quoted.encode fromUser ++ [','])))),
    ',' :: write (("MsgType", .text kindName) :: own), fun time => ?_⟩
  have mark : (timeMark .json).toList = Json.Quoted.encode "CreateTime" ++ [':'] := by decide +kernel
  simp [writeJson, partsAt, write, mark, Json.Value.write, Json.Value.writeMembers, Part.toValue, Json.Number.write]

/-- The text of a passive reply holds the time in one place, and is the same around it whatever the time is. -/
theorem exists_passiveText?_eq (format : Format) (toUser fromUser : String) {r : Reply}
    (passive : r.kind.isPassive = true) :
    ∃ before after, ∀ time, r.passiveText? format ⟨toUser, fromUser, time⟩ =
      some (before ++ timeMark format ++ toString time ++ after) := by
  obtain ⟨own, ownParts⟩ : ∃ own, r.ownParts? = some own := by
    cases r <;> first | exact ⟨_, rfl⟩ | cases passive
  have parts (time : Int) :
      r.passiveParts? ⟨toUser, fromUser, time⟩ = some (partsAt time toUser fromUser r.kind.name own) := by
    rw [passiveParts?, ownParts]
    rfl
  have text {cs before after : List Char} {time : Int}
      (written : cs = before ++ (timeMark format).toList ++ (toString time).toList ++ after) :
      String.ofList cs = String.ofList before ++ timeMark format ++ toString time ++ String.ofList after := by
    simp only [written, String.ofList_append, String.ofList_toList]
  cases format with
  | xml =>
    obtain ⟨before, after, written⟩ := exists_writeXml_eq toUser fromUser r.kind.name own
    refine ⟨.ofList before, .ofList after, fun time => ?_⟩
    rw [passiveText?, parts, ← text (written time)]
    rfl
  | json =>
    obtain ⟨before, after, written⟩ := exists_writeJson_eq toUser fromUser r.kind.name own
    refine ⟨.ofList before, .ofList after, fun time => ?_⟩
    rw [passiveText?, parts, ← text (written time)]
    rfl

end Reply
end ReplyGateway
