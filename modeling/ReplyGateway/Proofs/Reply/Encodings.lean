import Mathlib
import ReplyGateway.Lists
import ReplyGateway.Platform.Client
import ReplyGateway.Proofs.Reply.Passive
import ReplyGateway.Proofs.Reply.Stored
import ReplyGateway.Reply.Push

namespace ReplyGateway

open Json (Value)

/-- The text of a member, as the platform reads it. -/
def memberText? (name : String) (v : Value) : Option String := (Platform.member? name v).bind Json.Tree.string?

def Article.ofPush? (v : Value) : Option Article := do
  return ⟨← memberText? "title" v, ← memberText? "description" v, ← memberText? "picurl" v, ← memberText? "url" v⟩

theorem Article.ofPush?_pushValue (a : Article) : ofPush? a.pushValue = some a := rfl

theorem Article.isPlain_pushValue (a : Article) (depth : Nat) : a.pushValue.IsPlain (depth + 1) := by
  refine .object ?_
  simp [Value.IsPlain.string]

namespace Reply

/-- The articles of a member, as the platform reads them. -/
def memberArticles? (name : String) (v : Value) : Option (List Article) :=
  ((Platform.member? name v).bind Json.Tree.array?).bind (List.mapM Article.ofPush?)

/-- The reply of a kind with fields by the platform's names. -/
def ofPushFields? (fields : Value) : Kind → Option Reply
  | .text => (memberText? "content" fields).map .text
  | .image => (memberText? "media_id" fields).map .image
  | .voice => (memberText? "media_id" fields).map .voice
  | .video => do
    return .video (← memberText? "media_id" fields) (← memberText? "title" fields) (← memberText? "description" fields)
      (← memberText? "thumb_media_id" fields)
  | .music => do
    return .music (← memberText? "title" fields) (← memberText? "description" fields) (← memberText? "musicurl" fields)
      (← memberText? "hqmusicurl" fields) (← memberText? "thumb_media_id" fields)
  | .news => (memberArticles? "articles" fields).map .news
  | .mediaNews => (memberText? "media_id" fields).map .mediaNews
  | .publishedArticle => (memberText? "article_id" fields).map .publishedArticle
  | .card => (memberText? "card_id" fields).map .card
  | .miniAppPage => do
    return .miniAppPage (← memberText? "title" fields) (← memberText? "appid" fields) (← memberText? "pagepath" fields)
      (← memberText? "thumb_media_id" fields)

/-- The reply that the body of a push tells, as the platform reads it. -/
def ofPush? (body : Value) : Option Reply := do
  let kind ← Kind.ofName? (← memberText? "msgtype" body)
  ofPushFields? (← Platform.member? kind.name body) kind

theorem ofPushFields?_pushFields (r : Reply) : ofPushFields? (.object r.pushFields) r.kind = some r := by
  cases r with
  | news articles =>
    have read : memberArticles? "articles" (.object (news articles).pushFields) = some articles :=
      mapM_eq_some_of_map Article.ofPush?_pushValue articles
    exact congrArg (Option.map news) read
  | _ => rfl

theorem nodup_pushNames (k : Kind) : ["msgtype", k.name, "touser"].Nodup := by cases k <;> decide

/-- A reader that knows the names of the platform gets back what was pushed. -/
theorem ofPush?_pushBodyTo (r : Reply) (toUser : String) : ofPush? (r.pushBodyTo toUser) = some r := by
  have kind : memberText? "msgtype" (r.pushBodyTo toUser) = some r.kind.name := by cases r <;> rfl
  have fields : Platform.member? r.kind.name (r.pushBodyTo toUser) = some (.object r.pushFields) := by cases r <;> rfl
  rw [ofPush?, kind]
  simp only [Option.bind_eq_bind, Option.bind_some, Kind.ofName?_name, fields, ofPushFields?_pushFields]

theorem isPlain_pushFields (r : Reply) (depth : Nat) : ∀ m ∈ r.pushFields, m.2.IsPlain (depth + 2) := by
  cases r with
  | news articles =>
    refine List.forall_mem_singleton.2 (.array ?_)
    rw [List.forall_mem_map]
    exact fun a _ => a.isPlain_pushValue depth
  | _ => simp [pushFields, Value.IsPlain.string]

theorem isPlain_pushBodyTo (r : Reply) (toUser : String) (depth : Nat) :
    (r.pushBodyTo toUser).IsPlain (depth + 4) := by
  refine .object ?_
  simp only [pushMembers, List.cons_append, List.nil_append, List.forall_mem_cons]
  exact ⟨.string _, .object (r.isPlain_pushFields depth), .string _, by simp⟩

/-- A push tells the reply and its receiver from all others. -/
theorem pushBodyTo_inj {r r' : Reply} {toUser toUser' : String} :
    r.pushBodyTo toUser = r'.pushBodyTo toUser' ↔ r = r' ∧ toUser = toUser' := by
  refine ⟨fun same => ?_, fun ⟨reply, receiver⟩ => by rw [reply, receiver]⟩
  have reply := congrArg ofPush? same
  rw [ofPush?_pushBodyTo, ofPush?_pushBodyTo, Option.some.injEq] at reply
  refine ⟨reply, ?_⟩
  simpa [pushBodyTo, reply] using same

theorem pushBody_inj {r r' : Reply} : r.pushBody = r'.pushBody ↔ r = r' := by
  refine ⟨fun same => ?_, congrArg pushBody⟩
  have members : r.pushMembers = r'.pushMembers := Json.Tree.object.inj same
  have withReceiver : r.pushBodyTo "" = r'.pushBodyTo "" := by rw [pushBodyTo, pushBodyTo, members]
  exact (pushBodyTo_inj.1 withReceiver).1

/-- No name stands twice in a passive reply. -/
theorem nodup_outline (address : Address) (r : Reply) : ((r.outline address).map Prod.fst).Nodup := by
  cases r <;> simp [outline, ownOutline]

/-- The form in which a reply is stored, the push and the passive reply name the same kind, each once. A push has
nothing but the kind, the receiver and what stands under the kind, and all of the reply can be read from it by the
platform's names. There is a passive reply exactly for the passive kinds. -/
theorem encodings_agree (r : Reply) (toUser : String) (address : Address) :
    (∃ members, Value.ofText? r.toValue.text = some (.object members) ∧ (members.map Prod.fst).Nodup ∧
        (tagName, .string r.kind.name) ∈ members) ∧
      (∃ fields, r.pushBodyTo toUser = .object [("msgtype", .string r.kind.name), (r.kind.name, .object fields),
        ("touser", .string toUser)]) ∧
      ["msgtype", r.kind.name, "touser"].Nodup ∧
      Value.ofText? (r.pushBodyTo toUser).text = some (r.pushBodyTo toUser) ∧
      ofPush? (r.pushBodyTo toUser) = some r ∧
      (∀ r' toUser', r.pushBodyTo toUser = r'.pushBodyTo toUser' ↔ r = r' ∧ toUser = toUser') ∧
      (∀ r', r.pushBody = r'.pushBody ↔ r = r') ∧
      ∀ format, r.kind.isPassive = false ∧ r.passiveText? format address = none ∨
        r.kind.isPassive = true ∧ ∃ body parts, r.passiveText? format address = some body ∧ format.Shows body parts ∧
          (parts.map Prod.fst).Nodup ∧ ("MsgType", .leaf r.kind.name) ∈ parts := by
  refine ⟨⟨_, (r.isPlain_toValue 124).ofText?_eq, ?_, .head _⟩, ⟨_, rfl⟩, nodup_pushNames r.kind,
    (r.isPlain_pushBodyTo toUser 123).ofText?_eq, r.ofPush?_pushBodyTo toUser, fun _ _ => pushBodyTo_inj,
    fun _ => pushBody_inj, fun format => ?_⟩
  · have names : (r.kind.fieldNames.zip r.fieldValues).map Prod.fst = r.kind.fieldNames :=
      List.map_fst_zip r.length_fieldValues.ge
    rw [List.map_cons, names]
    exact List.nodup_cons.2 ⟨r.kind.tagName_notMem_fieldNames, r.kind.nodup_fieldNames⟩
  · have written := passiveText?_isSome format address r
    cases found : r.passiveParts? address with
    | none =>
      have nothing : r.passiveText? format address = none := by rw [passiveText?, found]; rfl
      rw [nothing] at written
      exact .inl ⟨written.symm, nothing⟩
    | some parts =>
      obtain ⟨body, is, shows⟩ := exists_passiveText? format found
      rw [is] at written
      refine .inr ⟨written.symm, body, _, is, shows, nodup_outline address r, ?_⟩
      exact .tail _ (.tail _ (.tail _ (.head _)))

end Reply
end ReplyGateway
