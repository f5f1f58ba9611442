import Mathlib
import ReplyGateway.Proofs.Outline
import ReplyGateway.Reply.Passive

namespace ReplyGateway

def Article.outline (a : Article) : Outline :=
  .ofParts [("Title", .leaf a.title), ("Description", .leaf a.description), ("PicUrl", .leaf a.pictureUrl),
    ("Url", .leaf a.url)]

theorem Article.outline_injective : Function.Injective Article.outline := by
  intro a b same
  simp only [Article.outline, Outline.ofParts, Outline.leaf, Outline.node.injEq, List.cons.injEq, Prod.mk.injEq,
    true_and, and_true] at same
  obtain ⟨title, description, pictureUrl, url⟩ := same
  cases a
  cases b
  simp_all

/-- A text in one of the formats has some parts. -/
def Format.Shows : Format → String → List (String × Outline) → Prop
  | .xml, s, parts => Xml.IsElement s "xml" parts
  | .json, s, parts => Json.IsObject s parts

theorem Format.Shows.parts_eq {format : Format} {s : String} {parts parts' : List (String × Outline)}
    (shows : format.Shows s parts) (shows' : format.Shows s parts') : parts = parts' :=
  match format with
  | .xml => Xml.IsElement.parts_eq shows shows'
  | .json => Json.IsObject.parts_eq shows shows'

namespace Reply

/-- What a passive reply of each kind has of its own. -/
def ownOutline : Reply → List (String × Outline)
  | text content => [("Content", .leaf content)]
  | image mediaId => [("Image", .ofParts [("MediaId", .leaf mediaId)])]
  | voice mediaId => [("Voice", .ofParts [("MediaId", .leaf mediaId)])]
  | video mediaId title description _ =>
    [("Video", .ofParts [("MediaId", .leaf mediaId), ("Title", .leaf title), ("Description", .leaf description)])]
  | music title description musicUrl hqMusicUrl thumb =>
    [("Music", .ofParts [("Title", .leaf title), ("Description", .leaf description), ("ThumbMediaId", .leaf thumb),
      ("MusicUrl", .leaf musicUrl), ("HQMusicUrl", .leaf hqMusicUrl)])]
  | news articles =>
    [("ArticleCount", .leaf (toString articles.length)),
      ("Articles", .ofParts (articles.map fun a => ("item", a.outline)))]
  | _ => []

def outline (address : Address) (r : Reply) : List (String × Outline) :=
  [("ToUserName", .leaf address.toUser), ("FromUserName", .leaf address.fromUser),
    ("CreateTime", .leaf (toString address.createTime)), ("MsgType", .leaf r.kind.name)] ++ r.ownOutline

/-- A reply without the thumbnail of a video. -/
def withoutThumb : Reply → Reply
  | video mediaId title description _ => video mediaId title description ""
  | r => r

def recordOutline (fields : List (String × String)) : Outline :=
  .ofParts (fields.map fun field => (field.1, .leaf field.2))

/-- The outline that a part has in both formats. -/
def Part.outline : Part → Outline
  | text s => .leaf s
  | number n => .leaf (toString n)
  | record fields => recordOutline fields
  | items records => .ofParts (records.map fun fields => ("item", recordOutline fields))

/-- The names inside a part. -/
def Part.names : Part → List String
  | text _ | number _ => []
  | record fields => fields.map Prod.fst
  | items records => records.flatMap (List.map Prod.fst)

variable {address address' : Address} {r r' : Reply} {parts : List (String × Part)}

/-- The parts of a reply are those of its outline. -/
theorem outline_eq_of_passiveParts? (found : r.passiveParts? address = some parts) :
    r.outline address = parts.map fun part => (part.1, part.2.outline) := by
  cases r with
  | news articles =>
    obtain rfl := Option.some.inj found
    have items : articles.map (fun a => ("item", a.outline)) =
        (articles.map Article.passiveFields).map fun fields => ("item", recordOutline fields) := by
      rw [List.map_map]
      rfl
    rw [outline, ownOutline, items]
    rfl
  | text | image | voice | video | music => obtain rfl := Option.some.inj found; rfl
  | mediaNews | publishedArticle | card | miniAppPage => cases found

/-- The names in passive replies. -/
def passiveNames : List String :=
  ["xml", "ToUserName", "FromUserName", "CreateTime", "MsgType", "Content", "Image", "Voice", "Video", "Music",
    "ArticleCount", "Articles", "item", "MediaId", "ThumbMediaId", "Title", "Description", "PicUrl", "Url", "MusicUrl",
    "HQMusicUrl"]

theorem isPlain_of_mem_passiveNames : ∀ name ∈ passiveNames, Xml.IsPlain name.toList := by
  simp [passiveNames, Xml.IsPlain, Xml.isNameEnd, Xml.isSpace]

theorem names_subset_of_passiveParts? (found : r.passiveParts? address = some parts) :
    ∀ part ∈ parts, part.1 ∈ passiveNames ∧ part.2.names ⊆ passiveNames := by
  cases r with
  | mediaNews | publishedArticle | card | miniAppPage => cases found
  | news articles =>
    obtain rfl := Option.some.inj found
    have inside : (articles.map Article.passiveFields).flatMap (List.map Prod.fst) ⊆ passiveNames := by
      intro name mem
      obtain ⟨fields, given, named⟩ := List.mem_flatMap.1 mem
      obtain ⟨a, _, rfl⟩ := List.mem_map.1 given
      -- every article has the same names, whatever it holds
      have all : ["Title", "Description", "PicUrl", "Url"] ⊆ passiveNames := by decide
      exact all named
    simp only [List.cons_append, List.nil_append, List.forall_mem_cons, Part.names, inside, and_true]
    decide
  | _ =>
    obtain rfl := Option.some.inj found
    simp only [List.cons_append, List.nil_append, List.forall_mem_cons, Part.names, List.map_cons, List.map_nil]
    decide

section Formats

theorem escapes_toString (n : Int) : Xml.Escapes (toString n).toList (toString n).toList := by
  refine .self fun c mem => ?_
  rw [toList_toString, List.mem_append] at mem
  rcases mem with sign | digit
  · split at sign
    · obtain rfl := List.mem_singleton.1 sign
      decide
    · cases sign
  · have digit := isDigit_of_mem_toDigits digit
    constructor <;> rintro rfl <;> cases digit

theorem encodes_escape (s : String) : Xml.Encodes (Xml.escape s.toList) (.leaf s) := by
  have encodes := Xml.Encodes.text (Xml.escapes_escape s.toList)
  rwa [String.ofList_toList] at encodes

theorem encodes_writeXmlRecord {fields : List (String × String)}
    (plain : ∀ name ∈ fields.map Prod.fst, Xml.IsPlain name.toList) :
    Xml.Encodes (writeXmlRecord fields) (recordOutline fields) :=
  .elements (fun _ mem => plain _ (List.mem_map_of_mem mem)) fun field _ => encodes_escape field.2

/-- A part has the same outline in XML as in JSON. -/
theorem Part.encodes_writeXml {part : Part} (plain : ∀ name ∈ part.names, Xml.IsPlain name.toList) :
    Xml.Encodes part.writeXml part.outline := by
  cases part with
  | text s => exact encodes_escape s
  | number n =>
    have encodes := Xml.Encodes.text (escapes_toString n)
    rwa [String.ofList_toList] at encodes
  | record fields => exact encodes_writeXmlRecord plain
  | items records =>
    have item := isPlain_of_mem_passiveNames "item" (by decide)
    exact .elements (fun _ _ => item) fun fields mem =>
      encodes_writeXmlRecord fun name named => plain name (List.mem_flatMap.2 ⟨fields, mem, named⟩)

theorem encodes_recordValue (fields : List (String × String)) :
    (recordValue fields).Encodes [recordOutline fields] := by
  rw [recordOutline, List.map_eq_flatMap]
  exact .object Prod.fst fun field _ => .string field.2

theorem Part.encodes_toValue (part : Part) : part.toValue.Encodes [part.outline] := by
  cases part with
  | text s => exact .string s
  | number n => exact .integer n
  | record fields => exact encodes_recordValue fields
  | items records =>
    have items : Json.Value.Encodes (.array (records.map recordValue)) (records.map recordOutline) := by
      rw [List.map_eq_flatMap (f := recordOutline)]
      exact .array fun fields _ => encodes_recordValue fields
    have object := Json.Value.Encodes.object (fun _ => "item") fun _ (_ : () ∈ [()]) => items
    simp only [List.map_cons, List.map_nil, List.flatMap_cons, List.flatMap_nil, List.append_nil,
      List.map_map] at object
    exact object

/-- The text of a passive reply, in either format, has the outline of the reply. -/
theorem exists_passiveText? (format : Format) (found : r.passiveParts? address = some parts) :
    ∃ body, r.passiveText? format address = some body ∧ format.Shows body (r.outline address) := by
  rw [passiveText?, found, outline_eq_of_passiveParts? found]
  refine ⟨_, rfl, ?_⟩
  have plain (part : String × Part) (mem : part ∈ parts) := (names_subset_of_passiveParts? found part mem).imp
    (isPlain_of_mem_passiveNames part.1) fun inside name mem => isPlain_of_mem_passiveNames name (inside mem)
  cases format with
  | xml =>
    have encodes := Xml.Encodes.elements (fun part mem => (plain part mem).1) fun part mem =>
      Part.encodes_writeXml (plain part mem).2
    have root := isPlain_of_mem_passiveNames "xml" (by decide)
    exact encodes.isElement root
  | json =>
    rw [List.map_eq_flatMap]
    exact Json.Value.isObject_text Prod.fst fun (part : String × Part) _ => part.2.encodes_toValue

end Formats

section Injectivity

/-- A reply of a passive kind is known by what it has of its own, but for the thumbnail of a video. -/
theorem ownOutline_injective (passive : r.kind.isPassive = true) (kinds : r.kind = r'.kind)
    (same : r.ownOutline = r'.ownOutline) : r.withoutThumb = r'.withoutThumb := by
  cases r with
  | text | image | voice | video | music =>
    cases r' <;> try contradiction
    simp_all [ownOutline, withoutThumb, Outline.ofParts, Outline.leaf]
  | news articles =>
    cases r' with
    | news articles' =>
      simp only [ownOutline, Outline.ofParts, Outline.leaf, List.cons.injEq, Prod.mk.injEq, Outline.node.injEq,
        true_and, and_true] at same
      have item : Function.Injective fun a : Article => ("item", a.outline) :=
        fun a b equal => Article.outline_injective (Prod.mk.inj equal).2
      rw [List.map_injective_iff.2 item same.2]
    | _ => cases kinds
  | mediaNews | publishedArticle | card | miniAppPage => cases passive

theorem outline_injective (passive : r.kind.isPassive = true) (same : r.outline address = r'.outline address') :
    address = address' ∧ r.withoutThumb = r'.withoutThumb := by
  simp only [outline, Outline.leaf, List.cons_append, List.nil_append, List.cons.injEq, Prod.mk.injEq,
    Outline.node.injEq, true_and, and_true] at same
  obtain ⟨toUser, fromUser, time, name, own⟩ := same
  have createTime : address.createTime = address'.createTime := Int.repr_injective time
  -- the parts before the own ones tell the kind, and so which parts are to follow
  have kinds : r.kind = r'.kind := by
    have found := Kind.ofName?_name r'.kind
    rw [← name, Kind.ofName?_name] at found
    exact Option.some.inj found
  refine ⟨?_, ownOutline_injective passive kinds own⟩
  cases address
  cases address'
  simp_all

end Injectivity

/-- The thumbnail of a video is not in the answer. -/
theorem passiveText?_withoutThumb (format : Format) (address : Address) (r : Reply) :
    r.withoutThumb.passiveText? format address = r.passiveText? format address := by cases r <;> rfl

/-- The text of a passive reply shows the same parts in both formats: who it goes to and comes from, when, its kind,
and what its kind has of its own, of which each is the text or the number that the reply has. So two replies have the
same text only if they are the same, but for the thumbnail of a video. -/
theorem passiveText?_faithful (passive : r.kind.isPassive = true) (address : Address) :
    (∀ format, ∃ body, r.passiveText? format address = some body ∧ format.Shows body (r.outline address)) ∧
      ∀ (format : Format) (r' : Reply) (address' : Address),
        r.passiveText? format address = r'.passiveText? format address' ↔
          address = address' ∧ r.withoutThumb = r'.withoutThumb := by
  have shown {r : Reply} (passive : r.kind.isPassive = true) (format : Format) (address : Address) :
      ∃ body, r.passiveText? format address = some body ∧ format.Shows body (r.outline address) := by
    rw [← passiveText?_isSome format address, passiveText?, Option.isSome_map] at passive
    obtain ⟨parts, found⟩ := Option.isSome_iff_exists.1 passive
    exact exists_passiveText? format found
  refine ⟨fun format => shown passive format address, fun format r' address' => ⟨fun same => ?_, ?_⟩⟩
  · have passive' : r'.kind.isPassive = true := by
      rw [← passiveText?_isSome format address', ← same, passiveText?_isSome, passive]
    obtain ⟨body, written, shows⟩ := shown passive format address
    obtain ⟨body', written', shows'⟩ := shown passive' format address'
    obtain rfl : body = body' := Option.some.inj (written.symm.trans (same.trans written'))
    exact outline_injective passive (shows.parts_eq shows')
  · rintro ⟨rfl, same⟩
    rw [← passiveText?_withoutThumb, same, passiveText?_withoutThumb]

/-- A tag, an entity, quotes and empty fields read back as they are, and the entity is not taken for what it stands
for. -/
theorem passiveText?_of_markup :
    let address : Address := ⟨"</ToUserName>", "", -1⟩
    let reply (title : String) : Reply := .news [⟨title, "\"\n\\", "", "?a&b"⟩, {}]
    (reply "&lt;").kind.isPassive = true ∧
      (∃ body, (reply "&lt;").passiveText? .xml address = some body ∧
        Xml.IsElement body "xml" ((reply "&lt;").outline address)) ∧
      (∃ body, (reply "&lt;").passiveText? .json address = some body ∧
        Json.IsObject body ((reply "&lt;").outline address)) ∧
      (reply "&lt;").passiveText? .xml address ≠ (reply "<").passiveText? .xml address := by
  intro address reply
  obtain ⟨shown, tells⟩ := passiveText?_faithful (r := reply "&lt;") rfl address
  have other : (reply "&lt;").withoutThumb ≠ (reply "<").withoutThumb := by decide
  exact ⟨rfl, shown .xml, shown .json, fun same => other ((tells .xml _ _).1 same).2⟩

end Reply
end ReplyGateway
