import Turnstile.Database.Accounts
import Turnstile.Proofs.Dialogue
import Turnstile.Proofs.Json.Arrangement

/-!
The table of accounts as a relation that answers the statements of a store. A constraint of
uniqueness compares a new row with every other one, whether that is deleted or not; the conditions
of the statements leave deleted rows out. Limits on the size of a value are not part of it.
-/

namespace Turnstile.Json

mutual

def texts : Json → List String
  | null => []
  | bool _ => []
  | number _ => []
  | string content => content.toList
  | array items => itemTexts items
  | object members => memberTexts members

def itemTexts : List Json → List String
  | [] => []
  | item :: rest => texts item ++ itemTexts rest

def memberTexts : List (Content × Json) → List String
  | [] => []
  | (name, value) :: rest => name.toList ++ texts value ++ memberTexts rest

end

end Turnstile.Json

namespace Turnstile.Database

open Turnstile.Time

def isPlainText (text : String) : Bool :=
  !text.toList.contains '\x00'

namespace Value

/-- What a database says of a parameter that it cannot take: text or documents with a zero
character, and times before the year -4713 or after the year 294276. -/
def complaint? : Value → Option Complaint
  | text value =>
      if isPlainText value then none
      else some ⟨"22021", "invalid byte sequence for encoding \"UTF8\": 0x00", none⟩
  | document json =>
      if json.texts.all isPlainText then none
      else some ⟨"22P05", "unsupported Unicode escape sequence", none⟩
  | time microseconds =>
      if -211813488000000000 ≤ microseconds ∧ microseconds < 9223371331200000000 then none
      else some ⟨"22008", "timestamp out of range", none⟩
  | _ => none

end Value

theorem Value.complaint?_text_eq_none_iff (value : String) :
    (text value).complaint? = none ↔ isPlainText value = true := by
  rw [complaint?]
  split
  · rename_i plain
    exact iff_of_true rfl plain
  · rename_i notPlain
    exact iff_of_false (Option.some_ne_none _) notPlain

def Statement.complaint? (statement : Statement) : Option Complaint :=
  statement.parameters.findSome? Value.complaint?

theorem Statement.complaint?_of_single {statement : Statement} {value : Value}
    (single : statement.parameters = [value]) : statement.complaint? = value.complaint? := by
  rw [complaint?, single, List.findSome?_singleton]

theorem Statement.complaint?_eq_none_iff (statement : Statement) :
    statement.complaint? = none ↔ ∀ value ∈ statement.parameters, value.complaint? = none :=
  List.findSome?_eq_none_iff

theorem Statement.complaint?_insert {id : Account.Id} {account : NewAccount}
    (name : isPlainText account.name = true)
    (email : isPlainText account.email = true)
    (phoneNumber : isPlainText account.phoneNumber = true)
    (passwordHash : isPlainText account.passwordHash = true)
    (details : account.details.toJson.texts.all isPlainText = true)
    (createdAt : (Value.ofInstant account.createdAt).complaint? = none)
    (updatedAt : (Value.ofInstant account.updatedAt).complaint? = none) :
    (insert id account).complaint? = none := by
  rw [complaint?_eq_none_iff, parameters]
  simp only [List.forall_mem_cons, List.not_mem_nil, false_imp_iff, implies_true, and_true,
    Value.complaint?_text_eq_none_iff]
  exact ⟨rfl, name, email, phoneNumber, passwordHash, rfl, if_pos details, createdAt, updatedAt⟩

theorem Statement.complaint?_update {account : Account} {updatedAt : Instant}
    (name : isPlainText account.name = true)
    (email : isPlainText account.email = true)
    (phoneNumber : isPlainText account.phoneNumber = true)
    (details : account.details.toJson.texts.all isPlainText = true)
    (kept : (Value.ofInstant updatedAt).complaint? = none) :
    (update account updatedAt).complaint? = none := by
  rw [complaint?_eq_none_iff, parameters]
  simp only [List.forall_mem_cons, List.not_mem_nil, false_imp_iff, implies_true, and_true,
    Value.complaint?_text_eq_none_iff]
  exact ⟨rfl, name, email, phoneNumber, rfl, if_pos details, kept⟩

structure Tuple where
  id : Account.Id
  name : String
  email : String
  phoneNumber : String
  passwordHash : String
  status : Int
  details : Json
  createdAt : Int
  updatedAt : Int
  deletedAt : Option Int

namespace Tuple

def isLive (tuple : Tuple) : Bool :=
  tuple.deletedAt.isNone

def meets (tuple : Tuple) : Lookup → Bool
  | .id wanted => tuple.id == wanted
  | .email wanted => tuple.email == wanted
  | .phoneNumber wanted => tuple.phoneNumber == wanted

def isSelectedBy (tuple : Tuple) (lookup : Lookup) : Bool :=
  tuple.isLive && tuple.meets lookup

/-- What no other tuple may have, in the order in which the constraints are looked at. -/
def keys (tuple : Tuple) : List Lookup :=
  [.id tuple.id, .email tuple.email, .phoneNumber tuple.phoneNumber]

def accountRow (tuple : Tuple) : Row :=
  [("id", .uuid tuple.id), ("name", .text tuple.name), ("email", .text tuple.email),
   ("phone_number", .text tuple.phoneNumber), ("status", .integer tuple.status),
   ("meta", .document tuple.details), ("created_at", .time tuple.createdAt),
   ("updated_at", .time tuple.updatedAt)]

def credentialsRow (tuple : Tuple) : Row :=
  [("id", .uuid tuple.id), ("email", .text tuple.email),
   ("password_hash", .text tuple.passwordHash)]

def ofNew (arrangement : Json.Arrangement) (id : Account.Id) (account : NewAccount) : Tuple :=
  { id, name := account.name, email := account.email, phoneNumber := account.phoneNumber
    passwordHash := account.passwordHash, status := account.status.number
    details := arrangement.arrange account.details.toJson
    createdAt := account.createdAt.databaseMicroseconds
    updatedAt := account.updatedAt.databaseMicroseconds, deletedAt := none }

/-- An update sets neither the hash nor the time of the creation. -/
def updated (arrangement : Json.Arrangement) (account : Account) (updatedAt : Instant)
    (tuple : Tuple) : Tuple :=
  { tuple with
    name := account.name, email := account.email, phoneNumber := account.phoneNumber
    status := account.status.number, details := arrangement.arrange account.details.toJson
    updatedAt := updatedAt.databaseMicroseconds }

end Tuple

def Lookup.constraint : Lookup → String
  | id _ => "accounts_pkey"
  | email _ => "accounts_email_key"
  | phoneNumber _ => "accounts_phone_number_key"

def Lookup.field (key : Lookup) : Store.UniqueField :=
  uniqueField (some key.constraint)

def Complaint.ofCollision (key : Lookup) : Complaint :=
  ⟨uniqueViolationCode,
    "duplicate key value violates unique constraint \"" ++ key.constraint ++ "\"",
    some key.constraint⟩

structure Relation where
  tuples : List Tuple := []

namespace Relation

def selected (relation : Relation) (lookup : Lookup) : List Tuple :=
  relation.tuples.filter fun tuple => tuple.isSelectedBy lookup

/-- The first of these values that one of the tuples has already, be it deleted or not. -/
def collision? (tuples : List Tuple) (keys : List Lookup) : Option Lookup :=
  keys.find? fun key => tuples.any fun tuple => tuple.meets key

theorem collision?_of_fresh {tuples : List Tuple} {freshId : Account.Id}
    (fresh : ∀ tuple ∈ tuples, tuple.id ≠ freshId) (keys : List Lookup) :
    collision? tuples (.id freshId :: keys) = collision? tuples keys := by
  apply List.find?_cons_of_neg
  rw [Bool.not_eq_true, List.any_eq_false]
  intro tuple member same
  exact fresh tuple member (eq_of_beq same)

theorem collision?_contacts (tuples : List Tuple) (email phoneNumber : String) :
    collision? tuples [.email email, .phoneNumber phoneNumber] =
      if tuples.any fun tuple => tuple.meets (.email email) then some (.email email)
      else if tuples.any fun tuple => tuple.meets (.phoneNumber phoneNumber) then
        some (.phoneNumber phoneNumber)
      else none := by
  rw [collision?, List.find?_cons, List.find?_cons]
  cases tuples.any fun tuple => tuple.meets (.email email) with
  | true => rfl
  | false => cases tuples.any fun tuple => tuple.meets (.phoneNumber phoneNumber) <;> rfl

def insert (relation : Relation) (tuple : Tuple) : Reply × Relation :=
  match collision? relation.tuples tuple.keys with
  | some key => (.refused (.ofCollision key), relation)
  | none => (.result [] 1, { tuples := relation.tuples ++ [tuple] })

def others (relation : Relation) (id : Account.Id) : List Tuple :=
  relation.tuples.filter fun tuple => !tuple.isSelectedBy (.id id)

def replace (relation : Relation) (arrangement : Json.Arrangement) (account : Account)
    (updatedAt : Instant) : Relation :=
  { tuples := relation.tuples.map fun tuple =>
      if tuple.isSelectedBy (.id account.id) then tuple.updated arrangement account updatedAt
      else tuple }

theorem selected_replace (relation : Relation) (arrangement : Json.Arrangement)
    (account : Account) (updatedAt : Instant) :
    (relation.replace arrangement account updatedAt).selected (.id account.id) =
      (relation.selected (.id account.id)).map (Tuple.updated arrangement account updatedAt) := by
  have keeps : ∀ tuple : Tuple,
      (if tuple.isSelectedBy (.id account.id) then tuple.updated arrangement account updatedAt
        else tuple).isSelectedBy (.id account.id) = tuple.isSelectedBy (.id account.id) := by
    intro tuple
    split
    · rfl
    · rfl
  rw [selected, replace, List.filter_map]
  simp only [Function.comp_def, keeps]
  apply List.map_congr_left
  intro tuple member
  rw [if_pos (List.mem_filter.mp member).right]

/-- Without a tuple to update, no constraint is looked at. -/
def update (relation : Relation) (arrangement : Json.Arrangement) (account : Account)
    (updatedAt : Instant) : Reply × Relation :=
  match relation.selected (.id account.id) with
  | [] => (.result [] 0, relation)
  | tuple :: more =>
      match collision? (relation.others account.id)
          [.email account.email, .phoneNumber account.phoneNumber] with
      | some key => (.refused (.ofCollision key), relation)
      | none =>
          (.result [] (tuple :: more).length, relation.replace arrangement account updatedAt)

def execute (arrangement : Json.Arrangement) (relation : Relation) :
    Statement → Reply × Relation
  | .createTable => (.result [] 0, relation)
  | .selectCredentials email =>
      let rows := (relation.selected (.email email)).map Tuple.credentialsRow
      (.result rows rows.length, relation)
  | .selectAccount lookup =>
      let rows := (relation.selected lookup).map Tuple.accountRow
      (.result rows rows.length, relation)
  | .selectExists lookup =>
      (.result [[("exists", .boolean (!(relation.selected lookup).isEmpty))]] 1, relation)
  | .insert id account => relation.insert (.ofNew arrangement id account)
  | .update account updatedAt => relation.update arrangement account updatedAt

/-- Parameters are looked at before the statement is executed. -/
def respond (arrangement : Json.Arrangement) : Dialogue.Responder Statement.Answer Relation :=
  fun statement relation =>
    match statement.complaint? with
    | some complaint => (.refused complaint, relation)
    | none => relation.execute arrangement statement

def answer (arrangement : Json.Arrangement) (now : Instant) (freshId : Account.Id) :
    Dialogue.Responder Store.Call.Answer Relation :=
  fun call relation => (perform now freshId call).run (respond arrangement) relation

/-! ## What the store makes of it -/

def taken (relation : Relation) (operation : String) (lookup : Lookup) :
    Except Store.Error Bool :=
  match lookup.value.complaint? with
  | some complaint => .error (complaint.toError operation)
  | none => .ok (!(relation.selected lookup).isEmpty)

theorem taken_eq_ok_false_iff (relation : Relation) (operation : String) (lookup : Lookup) :
    relation.taken operation lookup = .ok false ↔
      lookup.value.complaint? = none ∧ relation.selected lookup = [] := by
  rw [taken]
  cases lookup.value.complaint? with
  | some complaint => simp
  | none => simp

section Runs

variable (arrangement : Json.Arrangement) (relation : Relation)

theorem send_run (operation : String) (statement : Statement) :
    (send operation statement).run (respond arrangement) relation =
      match statement.complaint? with
      | some complaint => (.error (complaint.toError operation), relation)
      | none =>
          ((relation.execute arrangement statement).1.outcome operation,
            (relation.execute arrangement statement).2) := by
  rw [send, Dialogue.run, respond]
  cases statement.complaint? with
  | some complaint => rfl
  | none => exact Dialogue.run_ofExcept (respond arrangement) _ (Reply.outcome operation _)

theorem fetch_run (operation : String) {statement : Statement} {rows : List Row} {count : Nat}
    (selects : relation.execute arrangement statement = (.result rows count, relation)) :
    (fetch operation statement).run (respond arrangement) relation =
      (match statement.complaint?, rows.head? with
        | some complaint, _ => .error (complaint.toError operation)
        | none, some row => .ok row
        | none, none => .error .noRows, relation) := by
  rw [fetch, Dialogue.run_bind, send_run, selects]
  cases statement.complaint? with
  | some complaint => rfl
  | none =>
      cases rows with
      | nil => rfl
      | cons row rows => rfl

theorem isTaken_run (operation : String) (lookup : Lookup) :
    (isTaken operation lookup).run (respond arrangement) relation =
      (relation.taken operation lookup, relation) := by
  rw [isTaken, Dialogue.run_bind, fetch_run arrangement relation operation rfl,
    Statement.complaint?_of_single rfl, taken]
  cases lookup.value.complaint? with
  | some complaint => rfl
  | none => rfl

theorem requireVacant_run (email phoneNumber : String) :
    (requireVacant email phoneNumber).run (respond arrangement) relation =
      (do
        if ← relation.taken "exists" (.email email) then .error (.uniqueViolation .email)
        else if ← relation.taken "exists" (.phoneNumber phoneNumber) then
          .error (.uniqueViolation .phoneNumber)
        else .ok (), relation) := by
  rw [requireVacant, Dialogue.run_bind, isTaken_run]
  cases relation.taken "exists" (.email email) with
  | error error => rfl
  | ok isTaken =>
      cases isTaken with
      | true => rfl
      | false =>
          dsimp only
          rw [if_neg (by decide), Dialogue.run_bind, isTaken_run]
          cases relation.taken "exists" (.phoneNumber phoneNumber) with
          | error error => rfl
          | ok isTaken => cases isTaken <;> rfl

theorem find_run (operation : String) {lookup : Lookup}
    (storable : lookup.value.complaint? = none) :
    (find operation lookup).run (respond arrangement) relation =
      (match (relation.selected lookup).head? with
        | some tuple => tuple.accountRow.account
        | none => .error .noRows, relation) := by
  rw [find, Dialogue.run_bind, fetch_run arrangement relation operation rfl,
    Statement.complaint?_of_single rfl, storable, List.head?_map]
  cases (relation.selected lookup).head? with
  | none => rfl
  | some tuple => exact Dialogue.run_ofExcept (respond arrangement) relation _

theorem authenticate_run {email : String}
    (storable : (Lookup.email email).value.complaint? = none) :
    (authenticate email).run (respond arrangement) relation =
      (match (relation.selected (.email email)).head? with
        | some tuple =>
            .ok { id := tuple.id, email := tuple.email, passwordHash := tuple.passwordHash }
        | none => .error .noRows, relation) := by
  rw [authenticate, Dialogue.run_bind, fetch_run arrangement relation "authenticate" rfl,
    Statement.complaint?_of_single rfl, storable, List.head?_map]
  cases (relation.selected (.email email)).head? with
  | none => rfl
  | some tuple => rfl

theorem create_run (id : Account.Id) (account : NewAccount) :
    (create id account).run (respond arrangement) relation =
      match (Statement.insert id account).complaint?,
        collision? relation.tuples (Tuple.ofNew arrangement id account).keys with
      | some complaint, _ => (.error (complaint.toError "create"), relation)
      | none, some key =>
          (.error (.uniqueViolation key.field), relation)
      | none, none =>
          (.ok (account.withId id),
            { tuples := relation.tuples ++ [.ofNew arrangement id account] }) := by
  rw [create, Dialogue.run_bind, send_run, execute, insert]
  cases (Statement.insert id account).complaint? with
  | some complaint => rfl
  | none =>
      cases collision? relation.tuples (Tuple.ofNew arrangement id account).keys with
      | some key => rfl
      | none => rfl

theorem update_run (now : Instant) (account : Account) :
    (Database.update now account).run (respond arrangement) relation =
      match (Statement.update account now).complaint?, relation.selected (.id account.id),
        collision? (relation.others account.id)
          [.email account.email, .phoneNumber account.phoneNumber] with
      | some complaint, _, _ => (.error (complaint.toError "update"), relation)
      | none, [], _ => (.error .noRows, relation)
      | none, _ :: _, some key => (.error (.uniqueViolation key.field), relation)
      | none, _ :: _, none =>
          (.ok { account with updatedAt := now }, relation.replace arrangement account now) := by
  rw [Database.update, Dialogue.run_bind, send_run, execute, update]
  cases (Statement.update account now).complaint? with
  | some complaint => rfl
  | none =>
      cases relation.selected (.id account.id) with
      | nil => rfl
      | cons tuple more =>
          cases collision? (relation.others account.id)
              [.email account.email, .phoneNumber account.phoneNumber] with
          | some key => rfl
          | none => rfl

end Runs

end Relation

end Turnstile.Database
