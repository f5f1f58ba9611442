import Mathlib
import ReplyGateway.Proofs.Menu
import ReplyGateway.Proofs.Resolution.Isolation

namespace ReplyGateway

namespace Menu

/-- What a search through texts for a button comes to. What is after the text that ends it may be anything. -/
inductive Finds (key : String) : List String → Option Payload → Prop
  | nothing {texts : List String} : (∀ s ∈ texts, Skips key s) → Finds key texts none
  | payload {before after : List String} {s : String} {p : Payload} : (∀ earlier ∈ before, Skips key earlier) →
      Holds s key p → Finds key (before ++ s :: after) (some p)

variable {key : String} {texts texts' : List String} {found : Option Payload}

/-- What a search comes to is the first payload that one of the texts has for the button. -/
theorem finds_iff : Finds key texts found ↔ texts.findSome? (fun s => (menuPayload? key s).join) = found := by
  constructor
  · rintro (skips | ⟨skips, holds⟩)
    · exact List.findSome?_eq_none_iff.2 fun s mem => skips_iff.1 (skips s mem)
    · exact List.findSome?_eq_some_iff.2
        ⟨_, _, _, rfl, join_menuPayload?_eq_some_iff.2 holds, fun s mem => skips_iff.1 (skips s mem)⟩
  · rintro rfl
    cases found : texts.findSome? fun s => (menuPayload? key s).join with
    | none => exact .nothing fun s mem => skips_iff.2 (List.findSome?_eq_none_iff.1 found s mem)
    | some p =>
      obtain ⟨before, s, after, rfl, holds, skips⟩ := List.findSome?_eq_some_iff.1 found
      exact .payload (fun s mem => skips_iff.2 (skips s mem)) (join_menuPayload?_eq_some_iff.1 holds)

/-- Any number of entries of other buttons may be replaced. -/
theorem menuPayload?_eq_of_replaces {s s' : String} (replaces : Relation.ReflTransGen (Replaces key) s s') :
    menuPayload? key s = menuPayload? key s' := by
  induction replaces with
  | refl => rfl
  | tail _ last ih => exact ih.trans last.menuPayload?_eq

theorem findSome?_eq_of_replaces (replaces : List.Forall₂ (Relation.ReflTransGen (Replaces key)) texts texts') :
    texts.findSome? (fun s => (menuPayload? key s).join) = texts'.findSome? fun s => (menuPayload? key s).join := by
  induction replaces with
  | nil => rfl
  | cons first _ ih => rw [List.findSome?_cons, List.findSome?_cons, menuPayload?_eq_of_replaces first, ih]

end Menu

/-- The texts of the menus of a tenant, in the order in which they were added. -/
def Store.Database.menus (db : Database) (tenantId : String) : List String :=
  (db.rules.select tenantId .menuClick).map RuleRow.replyData

namespace Resolution

variable {c : Configuration} {tenantId : String}

/-- The payload of a button is looked for in the texts of the menus, as they are stored. -/
theorem menu?_of_rows (key : String)
    (readable : ∀ row ∈ c.database.rules.select tenantId .menuClick, row.rule?.isSome = true) :
    menu? c tenantId key = .ok ((c.database.menus tenantId).findSome? fun s => (menuPayload? key s).join) := by
  rw [menu?_eq_map_contents, Configuration.contents_of_select readable, Except.map, Store.Database.menus,
    List.findSome?_map, List.findSome?_map]
  rfl

/-- What the replies to a click on a button are. The rules for menus are searched in the order in which they were
added for the first one whose text is a menu with a payload for the button. The replies are taken from this payload,
even if it holds none, and there are no replies if no rule has such a text; one of both is the case. Any entries of
other buttons may be replaced by any others that can be read inside a menu, in any of the rules, without a change of
the replies. -/
theorem replies_to_click {m : Inbound.Message} {key ticket : String} (click : m.content = .event "CLICK" key ticket)
    (readable : ∀ row ∈ c.database.rules.select tenantId .menuClick, row.rule?.isSome = true) (draw : Nat) :
    (∃ found, Menu.Finds key (c.database.menus tenantId) found) ∧
      (∀ found, Menu.Finds key (c.database.menus tenantId) found →
        replies c tenantId m draw = .ok (found.elim [] (·.select draw))) ∧
      ∀ c' : Configuration,
        (∀ row ∈ c'.database.rules.select tenantId .menuClick, row.rule?.isSome = true) →
          List.Forall₂ (Relation.ReflTransGen (Menu.Replaces key)) (c.database.menus tenantId)
            (c'.database.menus tenantId) →
          replies c' tenantId m draw = replies c tenantId m draw := by
  have resolved (c : Configuration)
      (readable : ∀ row ∈ c.database.rules.select tenantId .menuClick, row.rule?.isSome = true) :
      replies c tenantId m draw =
        .ok (((c.database.menus tenantId).findSome? fun s => (menuPayload? key s).join).elim [] (·.select draw)) := by
    rw [replies, payload?_of_click click, menu?_of_rows key readable]
    rfl
  refine ⟨⟨_, Menu.finds_iff.2 rfl⟩, fun found finds => ?_, fun c' readable' replaces => ?_⟩
  · rw [resolved c readable, Menu.finds_iff.1 finds]
  · rw [resolved c readable, resolved c' readable', Menu.findSome?_eq_of_replaces replaces]

/-- The rules before the one that counts are skipped for five reasons, and that one has two entries for the button, of
which the last holds no replies. Its entry for another button is replaced. -/
theorem replies_to_click_of_repeated :
    let payload (replies : String) := "\x7b\"reply_all\":true,\"msg_list\":[" ++ replies ++ "]\x7d"
    let hi := payload "\x7b\"msg_type\":\"text\",\"content\":\"hi\"\x7d"
    let menu (other : String) := "\x7b\"k\":" ++ hi ++ ",\"other\":" ++ other ++ ",\"k\":" ++ payload "" ++ "\x7d"
    let skipped : List String :=
      ["", "no menu", "[" ++ hi ++ "]", "\x7b\"other\":" ++ hi ++ "\x7d", "\x7b\"k\":" ++ payload "1" ++ "\x7d"]
    let row (id : Nat) (replyData : String) : Store.RuleRow :=
      ⟨id, "wx1", .menuClick, "", replyData, "", "", "", "2024-01-01T00:00:00Z"⟩
    let rows (other : String) : List Store.RuleRow :=
      (skipped ++ [menu other, "\x7b\"k\":" ++ hi ++ "\x7d"]).zipIdx.map fun s => row s.2 s.1
    let c : Configuration := ⟨⟨.current, .empty, .empty, ⟨rows "7", 6, by decide, by decide⟩⟩, none⟩
    let c' : Configuration := ⟨⟨.current, .empty, .empty, ⟨rows "[null,-0.5]", 6, by decide, by decide⟩⟩, none⟩
    let m : Inbound.Message := ⟨"gh_tenant", "o_user", 1700000000, .event "CLICK" "k" ""⟩
    m.content = .event "CLICK" "k" "" ∧ (∀ row ∈ c.database.rules.select "wx1" .menuClick, row.rule?.isSome = true) ∧
      replies c "wx1" m 0 = .ok [] ∧ replies c' "wx1" m 0 = .ok [] := by
  intro payload hi menu skipped row rows c c' m
  have readable : ∀ row ∈ c.database.rules.select "wx1" .menuClick, row.rule?.isSome = true := by decide +kernel
  have readable' : ∀ row ∈ c'.database.rules.select "wx1" .menuClick, row.rule?.isSome = true := by decide +kernel
  obtain ⟨_, answers, replaced⟩ := replies_to_click (c := c) (m := m) rfl readable 0
  let single := "\x7b\"k\":" ++ hi ++ "\x7d"
  have finds : Menu.Finds "k" (skipped ++ menu "7" :: [single]) (some ⟨true, []⟩) :=
    .payload (fun s mem => Menu.skips_iff.2 (by revert s; decide +kernel))
      (Menu.join_menuPayload?_eq_some_iff.1 (by decide +kernel))
  have first : replies c "wx1" m 0 = .ok [] := answers _ finds
  refine ⟨rfl, readable, first, (replaced c' readable' ?_).trans first⟩
  have other : Menu.Replaces "k" (menu "7") (menu "[null,-0.5]") :=
    @Menu.Replaces.entry _ _ _ "other" [_] [_] (Bytes.ofString "other") _ _ rfl rfl (by decide +kernel) (by decide)
      rfl (by decide +kernel)
  have each : List.Forall₂ (Relation.ReflTransGen (Menu.Replaces "k")) (skipped ++ [menu "7", single])
      (skipped ++ [menu "[null,-0.5]", single]) :=
    List.rel_append (List.forall₂_same.2 fun _ _ => .refl) (.cons (.single other) (.cons .refl .nil))
  exact each

end Resolution
end ReplyGateway
