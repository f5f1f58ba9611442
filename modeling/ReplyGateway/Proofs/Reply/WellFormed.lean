import Mathlib
import ReplyGateway.Proofs.Inbound.TextReply
import ReplyGateway.Proofs.Xml.WellFormed

namespace ReplyGateway

open Xml (AreChars Carries IsDocument IsName)

def Article.texts (a : Article) : List String := [a.title, a.description, a.pictureUrl, a.url]

namespace Reply

/-- The texts inside a part. -/
def Part.texts : Part → List String
  | text s => [s]
  | number _ => []
  | record fields => fields.map Prod.snd
  | items records => records.flatMap (List.map Prod.snd)

/-- The texts of a reply that go into its passive form. -/
def ownTexts : Reply → List String
  | text content => [content]
  | image mediaId | voice mediaId => [mediaId]
  | video mediaId title description _ => [mediaId, title, description]
  | music title description musicUrl hqMusicUrl thumb => [title, description, thumb, musicUrl, hqMusicUrl]
  | news articles => articles.flatMap Article.texts
  | _ => []

/-- All texts that a passive reply is given. -/
def passiveTexts (address : Address) (r : Reply) : List String := address.toUser :: address.fromUser :: r.ownTexts

variable {address : Address} {r : Reply} {parts : List (String × Part)}

theorem isName_of_mem_passiveNames : ∀ name ∈ passiveNames, IsName name.toList := by decide

theorem isName_of_passiveParts? (found : r.passiveParts? address = some parts) :
    ∀ part ∈ parts, IsName part.1.toList ∧ ∀ name ∈ part.2.names, IsName name.toList := fun part mem =>
  (names_subset_of_passiveParts? found part mem).imp (isName_of_mem_passiveNames part.1) fun inside name within =>
    isName_of_mem_passiveNames name (inside within)

theorem carries_toString (n : Int) : Carries (toString n).toList [] := by
  have chars : AreChars (toString n).toList := by
    intro c mem
    rcases isDigit_or_minus_of_mem_toString mem with digit | rfl
    · exact Xml.isChar_of_isDigit digit
    · decide
  refine ⟨fun _ => ?_, iff_of_true chars (List.forall_mem_nil _)⟩
  rw [← Inbound.Entry.escape_xmlText_number]
  exact .escape chars

theorem carries_writeXmlRecord {fields : List (String × String)}
    (named : ∀ name ∈ fields.map Prod.fst, IsName name.toList) :
    Carries (writeXmlRecord fields) (fields.map Prod.snd) := by
  rw [List.map_eq_flatMap]
  exact .elements (fun _ mem => named _ (List.mem_map_of_mem mem)) fun field _ => Xml.carries_escape field.2

theorem Part.carries_writeXml {part : Part} (named : ∀ name ∈ part.names, IsName name.toList) :
    Carries part.writeXml part.texts := by
  cases part with
  | text s => exact Xml.carries_escape s
  | number n => exact carries_toString n
  | record fields => exact carries_writeXmlRecord named
  | items records =>
    have item := isName_of_mem_passiveNames "item" (by decide)
    exact .elements (fun _ _ => item) fun fields mem =>
      carries_writeXmlRecord fun name inside => named name (List.mem_flatMap.2 ⟨fields, mem, inside⟩)

theorem texts_of_passiveParts? (found : r.passiveParts? address = some parts) :
    (parts.flatMap fun part => part.2.texts) = [address.toUser, address.fromUser, r.kind.name] ++ r.ownTexts := by
  cases r with
  | mediaNews | publishedArticle | card | miniAppPage => cases found
  | news articles =>
    obtain rfl := Option.some.inj found
    simp only [List.cons_append, List.nil_append, List.flatMap_cons, Part.texts, List.flatMap_nil, List.append_nil,
      List.flatMap_map]
    rfl
  | text | image | voice | video | music => obtain rfl := Option.some.inj found; rfl

theorem areChars_name (kind : Kind) : AreChars kind.name.toList := by cases kind <;> decide

/-- A text is well-formed exactly if it has no other characters than those of XML, which is up to the texts given. -/
theorem isDocument_writeXml (found : r.passiveParts? address = some parts) :
    (IsDocument (writeXml parts) ↔ AreChars (writeXml parts)) ∧
      (AreChars (writeXml parts) ↔ ∀ s ∈ r.passiveTexts address, AreChars s.toList) := by
  have named := isName_of_passiveParts? found
  have inner : Carries _ (parts.flatMap fun part => part.2.texts) :=
    .elements (fun part mem => (named part mem).1) fun part mem => Part.carries_writeXml (named part mem).2
  obtain ⟨document, chars⟩ := inner.isDocument_iff (isName_of_mem_passiveNames rootName (by decide))
  refine ⟨document, chars.trans ?_⟩
  rw [texts_of_passiveParts? found]
  simp [passiveTexts, areChars_name]

theorem passiveText?_eq_writeXml (found : r.passiveParts? address = some parts) :
    r.passiveText? .xml address = some (String.ofList (writeXml parts)) := by
  rw [passiveText?, found]
  rfl

/-- A passive reply is always written in XML, as a well-formed document if and only if it is given no characters that
XML does not have; then nothing else can be wrong with it. -/
theorem passiveText?_wellFormed (passive : r.kind.isPassive = true) (address : Address) :
    ∃ body, r.passiveText? .xml address = some body ∧ (IsDocument body.toList ↔ AreChars body.toList) ∧
      (AreChars body.toList ↔ ∀ s ∈ r.passiveTexts address, AreChars s.toList) := by
  rw [← passiveText?_isSome .xml address, passiveText?, Option.isSome_map] at passive
  obtain ⟨parts, found⟩ := Option.isSome_iff_exists.1 passive
  refine ⟨String.ofList (writeXml parts), passiveText?_eq_writeXml found, ?_⟩
  rw [String.toList_ofList]
  exact isDocument_writeXml found

/-- Markup in a text does no harm, as it is escaped, but a control character does: it is written as it is. -/
theorem passiveText?_wellFormed_of_control :
    let address : Address := ⟨"]]>", "<!--", -1⟩
    (∀ s, (text s).kind.isPassive = true) ∧
      (∃ body, (text "a\r&#1;b").passiveText? .xml address = some body ∧ IsDocument body.toList) ∧
      ∃ body, (text "a\x01b").passiveText? .xml address = some body ∧ ¬ IsDocument body.toList := by
  intro address
  have passive (s : String) : (text s).kind.isPassive = true := rfl
  obtain ⟨escaped, written, document, chars⟩ := passiveText?_wellFormed (passive "a\r&#1;b") address
  obtain ⟨control, written', document', chars'⟩ := passiveText?_wellFormed (passive "a\x01b") address
  refine ⟨passive, ⟨escaped, written, document.2 (chars.2 (by decide))⟩, control, written', fun wellFormed => ?_⟩
  exact absurd (chars'.1 (document'.1 wellFormed)) (by decide)

/-- A passive reply that is written is not always a well-formed document. -/
theorem not_isDocument_passiveText? :
    ¬ ∀ (r : Reply) (address : Address) (body : String), r.kind.isPassive = true →
      r.passiveText? .xml address = some body → IsDocument body.toList := by
  intro all
  let address : Address := ⟨"u", "g", 1⟩
  obtain ⟨parts, found⟩ : ∃ parts, (text "a\x01b").passiveParts? address = some parts := ⟨_, rfl⟩
  have document := all _ address _ rfl (passiveText?_eq_writeXml found)
  rw [String.toList_ofList] at document
  exact absurd ((isDocument_writeXml found).2.1 document.areChars) (by decide)

end Reply
end ReplyGateway
