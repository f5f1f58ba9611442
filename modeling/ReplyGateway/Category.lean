namespace ReplyGateway

/-- The categories of replies. -/
inductive Category
  /-- Replies to a user who subscribes. -/
  | subscribe
  /-- Replies to texts with certain words. -/
  | keyword
  /-- Replies to messages in general. -/
  | message
  /-- Replies to a click on a menu button. -/
  | menuClick
  deriving DecidableEq, Repr

namespace Category

def all : List Category := [subscribe, keyword, message, menuClick]

def name : Category → String
  | subscribe => "subscribe"
  | keyword => "keyword"
  | message => "message"
  | menuClick => "menu_click"

def ofName? (name : String) : Option Category := all.find? (·.name == name)

theorem ofName?_name (c : Category) : ofName? c.name = some c := by cases c <;> decide +kernel

/-- A category is found by its name and by no other. -/
theorem ofName?_eq_some_iff {name : String} {c : Category} : ofName? name = some c ↔ name = c.name :=
  ⟨fun h => (by simpa using List.find?_some h : c.name = name).symm, fun h => h ▸ ofName?_name c⟩

/-- The category with a name, or a text that says that there is none. -/
def ofName (name : String) : Except String Category :=
  match ofName? name with
  | some c => .ok c
  | none => .error s!"unknown reply category: {name}"

end Category
end ReplyGateway
