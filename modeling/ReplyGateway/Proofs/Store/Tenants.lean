import Mathlib
import ReplyGateway.Configuration
import ReplyGateway.Proofs.Store.Deeds

namespace ReplyGateway.Store

namespace Deed

/-- Whether a deed is about a tenant: it puts the tenant into the store, or writes over its instant. -/
def concernsTenant (id : String) (deed : Deed) : Bool := (deed.upserted? id).isSome || (deed.tenantText? id).isSome

/-- Whether a deed sets a flag. -/
def concernsFlag (tenantId : String) (category : Category) (deed : Deed) : Bool := (deed.flag? tenantId category).isSome

variable {id : String} {deed : Deed} {tenant : Tenant}

theorem upserted?_eq_some_iff :
    deed.upserted? id = some tenant ↔ deed = .operation (.upsertTenant tenant) ∧ tenant.id = id := by
  constructor
  · intro upserts
    unfold upserted? at upserts
    split at upserts
    · split at upserts
      · rename_i same
        obtain rfl := Option.some.inj upserts
        exact ⟨rfl, same⟩
      · cases upserts
    · cases upserts
  · rintro ⟨rfl, same⟩
    exact if_pos same

theorem tenantText?_eq_none (untouched : ∀ createdAt, deed ≠ .overwriteTenant id createdAt) :
    deed.tenantText? id = none := by
  unfold tenantText?
  split
  · rename_i other createdAt
    refine if_neg ?_
    rintro rfl
    exact untouched createdAt rfl
  · rfl

theorem of_not_concernsTenant (other : deed.concernsTenant id = false) :
    deed.upserted? id = none ∧ deed.tenantText? id = none := by
  simpa [concernsTenant] using other

end Deed

section History

/-- What a store has to tell of a tenant: what was put there last, with the instant of the first time. -/
def told? (id : String) (past : List Deed) : Option Tenant :=
  (past.findSome? (Deed.upserted? id)).bind fun first =>
    (last? (Deed.upserted? id) past).map fun last => { last with createdAt := first.createdAt }

/-- The instant of a tenant that is there can be read: its year has four digits, and no text was written over it. -/
structure Dated (id : String) (past : List Deed) : Prop where
  year : ∀ first ∈ past.findSome? (Deed.upserted? id), first.createdAt.HasFourDigitYear
  untouched : ∀ createdAt, .overwriteTenant id createdAt ∉ past

variable {id text : String} {past later : List Deed} {tenant : Tenant}

theorem last?_eq_none_iff {α β : Type} {f : α → Option β} {past : List α} :
    last? f past = none ↔ ∀ a ∈ past, f a = none := by
  rw [last?, List.getLast?_eq_none_iff, List.filterMap_eq_nil_iff]

theorem exists_of_last? {α β : Type} {f : α → Option β} {past : List α} {b : β} (last : last? f past = some b) :
    ∃ a ∈ past, f a = some b := List.mem_filterMap.1 (List.mem_of_getLast? last)

/-- What does not count can be left out. -/
theorem last?_filter {α β : Type} {f : α → Option β} {keep : α → Bool} (drops : ∀ a, keep a = false → f a = none)
    (past : List α) : last? f (past.filter keep) = last? f past := by
  rw [last?, List.filterMap_filter, last?]
  congr 2
  funext a
  cases kept : keep a
  · exact (drops a kept).symm
  · rfl

theorem last?_upserted?_eq_none_iff :
    last? (Deed.upserted? id) past = none ↔ ∀ tenant, .operation (.upsertTenant tenant) ∈ past → tenant.id ≠ id := by
  rw [last?_eq_none_iff]
  constructor
  · intro none tenant mem same
    have upserts : Deed.upserted? id (.operation (.upsertTenant tenant)) = some tenant := if_pos same
    rw [none _ mem] at upserts
    cases upserts
  · intro others deed mem
    by_contra upserts
    obtain ⟨tenant, found⟩ := Option.ne_none_iff_exists'.1 upserts
    obtain ⟨rfl, same⟩ := Deed.upserted?_eq_some_iff.1 found
    exact others tenant mem same

theorem creationText?_eq_none_iff : creationText? id past = none ↔ last? (Deed.upserted? id) past = none := by
  rw [← Option.not_isSome_iff_eq_none, isSome_creationText?, Option.not_isSome_iff_eq_none]

/-- Nothing but another text that is written over it changes the instant of a tenant. -/
theorem creationText?_append (there : creationText? id past = some text)
    (untouched : ∀ createdAt, .overwriteTenant id createdAt ∉ later) :
    creationText? id (past ++ later) = some text := by
  induction later using List.reverseRecOn with
  | nil => simpa using there
  | append_singleton later deed ih =>
    have before := ih fun createdAt mem => untouched createdAt (List.mem_append_left _ mem)
    have silent : deed.tenantText? id = none := by
      refine Deed.tenantText?_eq_none ?_
      rintro createdAt rfl
      exact untouched createdAt (List.mem_append_right _ (List.mem_singleton_self _))
    rw [← List.append_assoc, creationText?_concat, before]
    simp [silent]

/-- Where no text was written over it, the instant of a tenant is the one that was put into the store first. -/
theorem creationText?_of_untouched (untouched : ∀ createdAt, .overwriteTenant id createdAt ∉ past) :
    creationText? id past = (past.findSome? (Deed.upserted? id)).map fun first => first.createdAt.storedText := by
  induction past with
  | nil => rfl
  | cons deed later ih =>
    have after : ∀ createdAt, .overwriteTenant id createdAt ∉ later := fun createdAt mem =>
      untouched createdAt (List.mem_cons_of_mem _ mem)
    rw [creationText?, List.findSome?_cons]
    cases deed.upserted? id with
    | none => exact ih after
    | some tenant =>
      have silent : last? (Deed.tenantText? id) later = none := by
        refine last?_eq_none_iff.2 fun other mem => Deed.tenantText?_eq_none ?_
        rintro createdAt rfl
        exact after createdAt mem
      rw [silent]
      rfl

theorem creationText?_filter (id : String) (past : List Deed) :
    creationText? id (past.filter (Deed.concernsTenant id)) = creationText? id past := by
  induction past with
  | nil => rfl
  | cons deed later ih =>
    cases concerns : deed.concernsTenant id with
    | false =>
      rw [List.filter_cons_of_neg (by simp [concerns]), ih, creationText?, (Deed.of_not_concernsTenant concerns).1]
    | true =>
      rw [List.filter_cons_of_pos concerns, creationText?, creationText?, ih,
        last?_filter fun _ other => (Deed.of_not_concernsTenant other).2]

/-- What is not about a tenant can be left out of its history. -/
theorem tenantRow?_filter (id : String) (past : List Deed) :
    tenantRow? id (past.filter (Deed.concernsTenant id)) = tenantRow? id past := by
  rw [tenantRow?, creationText?_filter, last?_filter fun _ other => (Deed.of_not_concernsTenant other).1, tenantRow?]

end History

namespace Database

variable {db : Database} {past : List Event} {place : Place} {deeds : List Deed} {id text : String} {tenant : Tenant}

/-- A tenant is found as it was put into the store last, if the text of its instant can be read. -/
theorem Follows.tenant_eq (follows : Follows db past)
    (last : last? (Deed.upserted? id) (past.map Event.deed) = some tenant)
    (creation : creationText? id (past.map Event.deed) = some text) :
    db.tenant id =
      (Instant.ofText? text).elim (.error .database) fun createdAt => .ok { tenant with createdAt } := by
  obtain ⟨_, _, upserts⟩ := exists_of_last? last
  obtain ⟨_, rfl⟩ := Deed.upserted?_eq_some_iff.1 upserts
  rw [Database.tenant, follows.tenants, tenantRow?, last, creation]
  simp only [Option.bind_some, Option.map_some, TenantRow.tenant?, TenantRow.ofTenant]
  cases Instant.ofText? text <;> rfl

/-- A tenant is not found if and only if it was never put into the store. -/
theorem Follows.tenant_eq_notFound_iff (follows : Follows db past) :
    db.tenant id = .error .notFound ↔ last? (Deed.upserted? id) (past.map Event.deed) = none := by
  constructor
  · intro missing
    by_contra upserted
    obtain ⟨tenant, last⟩ := Option.ne_none_iff_exists'.1 upserted
    obtain ⟨text, creation⟩ := Option.ne_none_iff_exists'.1 (mt creationText?_eq_none_iff.1 upserted)
    rw [follows.tenant_eq last creation] at missing
    revert missing
    cases Instant.ofText? text <;> exact nofun
  · intro never
    rw [Database.tenant, follows.tenants, tenantRow?, never]
    rfl

/-- A flag has its last value, and is off before its first. -/
theorem Follows.isEnabled_eq (follows : Follows db past) (tenantId : String) (category : Category) :
    db.isEnabled tenantId category = (last? (Deed.flag? tenantId category) (past.map Event.deed)).getD false := by
  rw [isEnabled, follows.flags]

theorem follows_after (stays : .operation .reopen ∈ deeds → place = .file) :
    Follows (empty.after place deeds) (empty.events place deeds) := follows_empty.after stays

/-- No other tenant matters to a tenant: it would be found the same if nothing had been done to others. -/
theorem tenant_after_filter (stays : .operation .reopen ∈ deeds → place = .file) (id : String) :
    (empty.after place (deeds.filter (Deed.concernsTenant id))).tenant id = (empty.after place deeds).tenant id := by
  have fewer : .operation .reopen ∈ deeds.filter (Deed.concernsTenant id) → place = .file := fun mem =>
    stays (List.mem_of_mem_filter mem)
  rw [Database.tenant, Database.tenant, (follows_after fewer).tenants, (follows_after stays).tenants, map_deed_events,
    map_deed_events, tenantRow?_filter]

/-- No other flag matters to a flag. -/
theorem isEnabled_after_filter (stays : .operation .reopen ∈ deeds → place = .file) (tenantId : String)
    (category : Category) :
    (empty.after place (deeds.filter (Deed.concernsFlag tenantId category))).isEnabled tenantId category =
      (empty.after place deeds).isEnabled tenantId category := by
  have fewer : .operation .reopen ∈ deeds.filter (Deed.concernsFlag tenantId category) → place = .file := fun mem =>
    stays (List.mem_of_mem_filter mem)
  have drops (deed : Deed) (other : deed.concernsFlag tenantId category = false) :
      deed.flag? tenantId category = none := Option.not_isSome_iff_eq_none.1 (ne_true_of_eq_false other)
  rw [(follows_after fewer).isEnabled_eq, (follows_after stays).isEnabled_eq, map_deed_events, map_deed_events,
    last?_filter drops]

theorem Follows.tenant_eq_of_dated (follows : Follows db past) (dated : Dated id (past.map Event.deed)) :
    db.tenant id = (told? id (past.map Event.deed)).elim (.error .notFound) .ok := by
  have creation := creationText?_of_untouched dated.untouched
  cases first : (past.map Event.deed).findSome? (Deed.upserted? id) with
  | none =>
    rw [first] at creation
    rw [follows.tenant_eq_notFound_iff.2 (creationText?_eq_none_iff.1 creation), told?, first]
    rfl
  | some tenant =>
    rw [first] at creation
    have upserted : last? (Deed.upserted? id) (past.map Event.deed) ≠ none :=
      mt creationText?_eq_none_iff.2 (by simp [creation])
    obtain ⟨last, found⟩ := Option.ne_none_iff_exists'.1 upserted
    rw [follows.tenant_eq found creation, Instant.ofText?_storedText (dated.year tenant first), told?, first, found]
    rfl

/-- A tenant that is configured outside of the store hides those under its name only. -/
theorem credentials?_of_other {outside : Option Credentials} (other : ∀ tenant ∈ outside, tenant.tenantId ≠ id)
    {found : Option Tenant} (tells : db.tenant id = found.elim (.error .notFound) .ok) :
    Configuration.credentials? ⟨db, outside⟩ id = .ok (found.map Tenant.credentials) := by
  have hides : outside.filter (fun tenant => decide (tenant.tenantId = id)) = none :=
    Option.filter_eq_none_iff.2 fun tenant mem => by simpa using other tenant mem
  rw [Configuration.credentials?, hides, tells]
  cases found <;> rfl

/-- After anything that was done to a store that was empty, over any number of migrations, and for a database in a file
if it is closed and opened again: a tenant is not found if it was never put there, and else has the data of the last
time and the instant of the first; a flag has its last value; nothing that is done to other tenants or other flags
matters. A tenant that is configured outside of the store hides the credentials of the one under its name, and no flag
and no rule. -/
theorem tenants_after (place : Place) (deeds : List Deed) (stays : .operation .reopen ∈ deeds → place = .file) :
    let db := empty.after place deeds
    (∀ id, db.tenant id = .error .notFound ↔ ∀ tenant, .operation (.upsertTenant tenant) ∈ deeds → tenant.id ≠ id) ∧
      (∀ id, Dated id deeds → db.tenant id = (told? id deeds).elim (.error .notFound) .ok) ∧
      (∀ tenantId category,
        db.isEnabled tenantId category = (last? (Deed.flag? tenantId category) deeds).getD false) ∧
      (∀ id, (empty.after place (deeds.filter (Deed.concernsTenant id))).tenant id = db.tenant id) ∧
      (∀ tenantId category,
        (empty.after place (deeds.filter (Deed.concernsFlag tenantId category))).isEnabled tenantId category =
          db.isEnabled tenantId category) ∧
      ∀ outside : Option Credentials,
        let c : Configuration := ⟨db, outside⟩
        (∀ tenant ∈ outside, c.credentials? tenant.tenantId = .ok (some tenant)) ∧
          (∀ id, Dated id deeds → (∀ tenant ∈ outside, tenant.tenantId ≠ id) →
            c.credentials? id = .ok ((told? id deeds).map Tenant.credentials)) ∧
          (∀ tenantId category,
            c.isEnabled tenantId category = (last? (Deed.flag? tenantId category) deeds).getD false) ∧
          ∀ tenantId category, c.rules tenantId category = (db.listRules tenantId category).mapError .store := by
  intro db
  have follows : Follows db (empty.events place deeds) := follows_after stays
  have told (id : String) (dated : Dated id deeds) : db.tenant id = (told? id deeds).elim (.error .notFound) .ok := by
    rw [follows.tenant_eq_of_dated (map_deed_events .. ▸ dated), map_deed_events]
  have flag (tenantId : String) (category : Category) :
      db.isEnabled tenantId category = (last? (Deed.flag? tenantId category) deeds).getD false := by
    rw [follows.isEnabled_eq, map_deed_events]
  refine ⟨fun id => ?_, told, flag, tenant_after_filter stays, isEnabled_after_filter stays, fun outside => ?_⟩
  · rw [follows.tenant_eq_notFound_iff, map_deed_events, last?_upserted?_eq_none_iff]
  · exact ⟨fun tenant configured => Configuration.credentials?_default configured,
      fun id dated other => credentials?_of_other other (told id dated), flag, fun _ _ => rfl⟩

/-- A tenant that was created in the middle of a leap second. -/
def leapTenant (apiSecret : String) : Tenant where
  id := "wx1"
  name := "Shop"
  apiKey := "wx1"
  apiSecret := apiSecret
  token := "token"
  encodingKey := ""
  createdAt := (leapRule "").createdAt

/-- The secret of a tenant is replaced after the database was closed and opened again, at an instant of a year with
five digits. -/
def rotated : List Deed :=
  [.operation (.upsertTenant (leapTenant "old")), .operation (.setFeature "wx1" .subscribe true), .operation .reopen,
    .operation (.upsertTenant { leapTenant "new" with
      createdAt := ⟨⟨12016, 1, 1, by decide, by decide⟩, 0, 0, by decide, by decide⟩ }),
    .operation (.setFeature "wx2" .subscribe false), .operation .migrate]

/-- The tenant has the new secret and the old instant, the leap second kept. -/
theorem tenants_after_rotated :
    (.operation .reopen ∈ rotated → Place.file = .file) ∧ Dated "wx1" rotated ∧
      (empty.after .file rotated).tenant "wx1" = .ok (leapTenant "new") ∧
      (empty.after .file rotated).tenant "wx2" = .error .notFound ∧
      (empty.after .file rotated).isEnabled "wx1" .subscribe = true ∧
      Configuration.credentials? ⟨empty.after .file rotated, some (leapTenant "outside").credentials⟩ "wx1" =
        .ok (some (leapTenant "outside").credentials) ∧
      Configuration.isEnabled ⟨empty.after .file rotated, some (leapTenant "outside").credentials⟩ "wx1" .subscribe =
        true := by
  obtain ⟨missing, told, flag, _, _, outside⟩ := tenants_after .file rotated fun _ => rfl
  obtain ⟨hides, _, flags, _⟩ := outside (some (leapTenant "outside").credentials)
  have dated : Dated "wx1" rotated := by
    refine ⟨?_, by simp [rotated]⟩
    rintro first ⟨⟩
    exact ⟨by decide, by decide⟩
  refine ⟨fun _ => rfl, dated, told "wx1" dated, (missing "wx2").2 ?_, flag .., hides _ rfl, flags ..⟩
  simp only [rotated, List.mem_cons, Deed.operation.injEq, Operation.upsertTenant.injEq, reduceCtorEq, false_or,
    or_false, List.not_mem_nil]
  rintro tenant (rfl | rfl) <;> decide

end Database
end ReplyGateway.Store
