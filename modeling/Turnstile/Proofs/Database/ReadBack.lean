import Turnstile.Proofs.Database.Agreement
import Turnstile.Proofs.Database.InPlace
import Turnstile.Proofs.Json.Documents
import Turnstile.Proofs.Json.Plain
import Turnstile.Proofs.Json.Values

/-!
Accounts that are written to a database and read from it. What a statement writes to a column is
found in its text and its parameters, and what a selection reads in its text. A row that gives back
what was written reads as the account that the store has returned, but for the times, which are cut
to microseconds. A row with a status or with details that no account has does not read at all.
-/

namespace Turnstile

open Turnstile.Text Turnstile.Time

/-- The same account, but for its times. -/
structure Account.IsKeptAs (account kept : Account) : Prop where
  createdAt : account.createdAt.IsKeptAs kept.createdAt
  updatedAt : account.updatedAt.IsKeptAs kept.updatedAt
  rest : { kept with createdAt := account.createdAt, updatedAt := account.updatedAt } = account

theorem Account.IsKeptAs.eq {account kept other : Account} (isKept : account.IsKeptAs kept)
    (isOther : account.IsKeptAs other) : kept = other := by
  rcases isKept with ⟨createdAt, updatedAt, rest⟩
  rcases isOther with ⟨otherCreatedAt, otherUpdatedAt, otherRest⟩
  have sameRest := rest.trans otherRest.symm
  rcases kept with ⟨_, _, _, _, _, _, _, _⟩
  rcases other with ⟨_, _, _, _, _, _, _, _⟩
  rw [Account.mk.injEq] at sameRest ⊢
  rcases sameRest with ⟨id, name, email, phoneNumber, status, details, -, -⟩
  exact ⟨id, name, email, phoneNumber, status, details, createdAt.eq otherCreatedAt,
    updatedAt.eq otherUpdatedAt⟩

namespace Database

/-! ## Which columns a statement is about -/

/-- The lists in parentheses, without blanks. -/
def lists (letters : List Char) : List (List (List Char)) :=
  (splitAll '(' letters).tail.map fun part =>
    (splitAll ',' (part.takeWhile (· != ')'))).map fun entry => entry.filter (· != ' ')

def Statement.parameter? (statement : Statement) : List Char → Option Value
  | '$' :: number => statement.parameters[Decimal.value number - 1]?
  | _ => none

/-- The columns of a row that is inserted, each with its parameter: the first list of the text names
the columns, and the second one the parameters. -/
def Statement.entries (statement : Statement) : List (String × Value) :=
  match lists statement.sql.toList with
  | [columns, numbers] =>
      (columns.zip numbers).filterMap fun (column, number) =>
        (statement.parameter? number).map fun value => (String.ofList column, value)
  | _ => []

def Statement.selection (statement : Statement) : List String :=
  let words := (splitAll ' ' statement.sql.toList).tail.takeWhile (· != ['F', 'R', 'O', 'M'])
  words.map fun word => String.ofList (word.filter (· != ','))

def storedColumns (account : Account) : List (String × Value) :=
  ("created_at", .ofInstant account.createdAt) :: accountColumns account

instance : Inhabited NewAccount :=
  ⟨{ name := "", email := "", phoneNumber := "", passwordHash := "", status := default
     details := {}, createdAt := default, updatedAt := default }⟩

theorem lists_insert (id : Account.Id) (account : NewAccount) :
    lists (Statement.insert id account).sql.toList =
      [["id".toList, "name".toList, "email".toList, "phone_number".toList, "password_hash".toList,
        "status".toList, "meta".toList, "created_at".toList, "updated_at".toList],
       ["$1".toList, "$2".toList, "$3".toList, "$4".toList, "$5".toList, "$6".toList, "$7".toList,
        "$8".toList, "$9".toList]] := by
  -- Only a text without variables can be computed.
  have text : (Statement.insert id account).sql = (Statement.insert default default).sql := rfl
  rw [text]
  decide +kernel

theorem entries_insert (id : Account.Id) (account : NewAccount) :
    (Statement.insert id account).entries =
      [("id", .uuid id), ("name", .text account.name), ("email", .text account.email),
       ("phone_number", .text account.phoneNumber), ("password_hash", .text account.passwordHash),
       ("status", .integer account.status.number), ("meta", .document account.details.toJson),
       ("created_at", .ofInstant account.createdAt),
       ("updated_at", .ofInstant account.updatedAt)] := by
  rw [Statement.entries, lists_insert]
  rfl

theorem selection_selectAccount (lookup : Lookup) :
    (Statement.selectAccount lookup).selection =
      ["id", "name", "email", "phone_number", "status", "meta", "created_at", "updated_at"] := by
  cases lookup with
  | id wanted =>
      show (Statement.selectAccount (.id default)).selection = _
      decide +kernel
  | email wanted =>
      show (Statement.selectAccount (.email "")).selection = _
      decide +kernel
  | phoneNumber wanted =>
      show (Statement.selectAccount (.phoneNumber "")).selection = _
      decide +kernel

/-! ## What comes back -/

/-- A document comes back with the members of its objects in an order of their own, and in any
spelling of the result; everything else comes back as it was sent. -/
inductive Value.ComesBackAs : Value → Value → Prop
  | same (value : Value) : ComesBackAs value value
  | document {json arranged : Json} {text : String}
      (reordered : Relation.ReflTransGen Json.Reordered json arranged)
      (spells : Json.Spells arranged (Utf8.encode text)) :
      ComesBackAs (.document json) (.ofDocumentText text)

theorem Value.ComesBackAs.eq {sent value : Value} (back : sent.ComesBackAs value)
    (notDocument : sent.document? = none) : value = sent := by
  cases back with
  | same => rfl
  | document _ _ => cases notDocument

theorem Value.ofDocumentText_of_spells {json : Json} {text : String}
    (plain : json.IsPlain Json.plainDepth) (spells : Json.Spells json (Utf8.encode text)) :
    ofDocumentText text = document json := by
  rw [ofDocumentText, Json.ofText?, spells.ofBytes?_eq, Option.bind_some, plain.plain?_eq_some]

theorem Value.ComesBackAs.exists_document {details : Account.Meta} {value : Value}
    (back : (Value.document details.toJson).ComesBackAs value) :
    ∃ json, value = .document json ∧ Account.Meta.ofJson? json = some details := by
  have read := Account.Meta.ofJson?_toJson details
  cases back with
  | same => exact ⟨_, rfl, read⟩
  | document reordered spells =>
      have plain := (details.isPlain_toJson 124).of_reordered reordered
      refine ⟨_, ofDocumentText_of_spells plain spells, ?_⟩
      rw [Account.Meta.ignoresOrder_ofJson?.eq_of_reordered reordered, read]

/-- The row has these columns with what has come back of what was written to them. -/
def Row.Shows (row : Row) (names : List String) (written : List (String × Value)) : Prop :=
  ∀ name ∈ names, ∃ sent value,
    written.lookup name = some sent ∧ sent.ComesBackAs value ∧ row.value? name = some value

theorem Row.Shows.column_eq_ok {row : Row} {names : List String}
    {written : List (String × Value)} (shows : row.Shows names written) {name : String}
    (member : name ∈ names) {sent : Value} (found : written.lookup name = some sent)
    (notDocument : sent.document? = none) {α : Type} {read? : Value → Option α} {result : α}
    (read : read? sent = some result) : row.column name read? = .ok result := by
  rcases shows name member with ⟨_, value, foundToo, back, stands⟩
  cases found.symm.trans foundToo
  rw [back.eq notDocument] at stands
  exact Row.column_eq_ok stands read

theorem Row.Shows.details_eq_ok {row : Row} {names : List String}
    {written : List (String × Value)} (shows : row.Shows names written)
    (member : "meta" ∈ names) {details : Account.Meta}
    (found : written.lookup "meta" = some (.document details.toJson)) :
    row.details = .ok details := by
  rcases shows "meta" member with ⟨_, value, foundToo, back, stands⟩
  cases found.symm.trans foundToo
  rcases back.exists_document with ⟨json, rfl, read⟩
  exact Row.details_eq_ok (Row.column_eq_ok stands rfl) read

theorem Row.shows_congr (row : Row) {names : List String} {written others : List (String × Value)}
    (same : ∀ name ∈ names, written.lookup name = others.lookup name) :
    row.Shows names written ↔ row.Shows names others := by
  constructor
  · intro shows name member
    rw [← same name member]
    exact shows name member
  · intro shows name member
    rw [same name member]
    exact shows name member

theorem exists_account_of_shows {account : Account} (created : account.createdAt.IsOrdinary)
    (updated : account.updatedAt.IsOrdinary) :
    ∃ kept, account.IsKeptAs kept ∧ ∀ (lookup : Lookup) (row : Row),
      row.Shows (Statement.selectAccount lookup).selection (storedColumns account) →
        row.account = .ok kept := by
  rcases Instant.exists_ofDatabaseMicroseconds? created with ⟨createdAt, createdRead, createdKept⟩
  rcases Instant.exists_ofDatabaseMicroseconds? updated with ⟨updatedAt, updatedRead, updatedKept⟩
  change (Value.ofInstant account.createdAt).instant? = _ at createdRead
  change (Value.ofInstant account.updatedAt).instant? = _ at updatedRead
  refine ⟨{ account with createdAt, updatedAt }, ⟨createdKept, updatedKept, rfl⟩, ?_⟩
  intro lookup row shows
  rw [selection_selectAccount] at shows
  have number : row.column "status" Value.integer? = .ok account.status.number :=
    shows.column_eq_ok (by decide) rfl rfl rfl
  apply Row.account_eq_ok
  · exact Row.status_eq_ok number (Account.Status.ofNumber?_number account.status)
  · exact shows.details_eq_ok (by decide) rfl
  · exact shows.column_eq_ok (by decide) rfl rfl createdRead
  · exact shows.column_eq_ok (by decide) rfl rfl updatedRead
  · exact shows.column_eq_ok (by decide) rfl rfl rfl
  · exact shows.column_eq_ok (by decide) rfl rfl rfl
  · exact shows.column_eq_ok (by decide) rfl rfl rfl
  · exact shows.column_eq_ok (by decide) rfl rfl rfl

theorem shows_insert_iff (row : Row) (lookup : Lookup) (id : Account.Id) (account : NewAccount) :
    row.Shows (Statement.selectAccount lookup).selection (Statement.insert id account).entries ↔
      row.Shows (Statement.selectAccount lookup).selection
        (storedColumns (account.withId id)) := by
  apply row.shows_congr
  rw [selection_selectAccount, entries_insert]
  simp only [List.forall_mem_cons]
  exact ⟨rfl, rfl, rfl, rfl, rfl, rfl, rfl, rfl, fun _ member => by cases member⟩

theorem shows_update_iff (row : Row) (lookup : Lookup) (account : Account) (now : Instant)
    {before : List (String × Value)}
    (created : before.lookup "created_at" = some (.ofInstant account.createdAt)) :
    row.Shows (Statement.selectAccount lookup).selection
        ((Statement.update account now).bindings ++ before) ↔
      row.Shows (Statement.selectAccount lookup).selection
        (storedColumns { account with updatedAt := now }) := by
  apply row.shows_congr
  rw [selection_selectAccount, bindings_update]
  simp only [List.forall_mem_cons]
  exact ⟨rfl, rfl, rfl, rfl, rfl, rfl, created, rfl, fun _ member => by cases member⟩

/-! ## What is sent and what is returned -/

/-- A single statement is sent, whatever comes back for it, and if something is returned it is the
result. -/
def Sends {α : Type} (exchange : Exchange α) (statement : Statement) (result : α) : Prop :=
  ∀ {State : Type} (database : Dialogue.Responder Statement.Answer State) (state : State),
    exchange.asked database state = [statement] ∧
      ∀ returned, (exchange.run database state).1 = .ok returned → returned = result

theorem sends_of_judge {α : Type} (operation : String) (statement : Statement) {result : α}
    {judge : List Row × Nat → Except Store.Error α}
    (judged : ∀ answer returned, judge answer = .ok returned → returned = result) :
    Sends (send operation statement >>= fun answer => .ofExcept (judge answer)) statement
      result := by
  intro State database state
  have opened : (send operation statement >>= fun answer => .ofExcept (judge answer)) =
      .ask statement fun reply => .ofExcept (reply.outcome operation >>= judge) := by
    apply congrArg (Dialogue.ask _)
    funext reply
    cases reply <;> rfl
  rw [opened]
  constructor
  · exact congrArg (statement :: ·) (Dialogue.asked_ofExcept database _ _)
  · intro returned done
    have reached : (database statement state).1.outcome operation >>= judge = .ok returned := by
      rw [← done]
      exact (congrArg Prod.fst (Dialogue.run_ofExcept database _ _)).symm
    cases outcome : (database statement state).1.outcome operation with
    | error error =>
        rw [outcome] at reached
        cases reached
    | ok answer =>
        rw [outcome] at reached
        exact judged answer returned reached

theorem sends_create (id : Account.Id) (account : NewAccount) :
    Sends (create id account) (.insert id account) (account.withId id) := by
  show Sends (send "create" _ >>= fun _ => .ofExcept (.ok _)) _ _
  apply sends_of_judge
  intro answer returned done
  cases done
  rfl

theorem sends_update (now : Instant) (account : Account) :
    Sends (update now account) (.update account now) { account with updatedAt := now } := by
  have judged : update now account =
      send "update" (.update account now) >>= fun answer => .ofExcept
        (if answer.2 = 0 then .error .noRows else .ok { account with updatedAt := now }) := by
    apply congrArg (send "update" _ >>= ·)
    funext ⟨rows, affected⟩
    cases affected <;> rfl
  rw [judged]
  apply sends_of_judge
  intro answer returned done
  split at done
  · cases done
  · cases done
    rfl

/-! ## Rows that no account has -/

theorem Row.column_cases {α : Type} (row : Row) (name : String) (read? : Value → Option α) :
    (∃ value result, row.value? name = some value ∧ read? value = some result ∧
        row.column name read? = .ok result) ∨
      row.column name read? = .error (.backend "failed to decode account row") := by
  cases found : (row.value? name).bind read? with
  | none =>
      right
      rw [column, found]
  | some result =>
      left
      rcases Option.bind_eq_some_iff.mp found with ⟨value, stands, read⟩
      exact ⟨value, result, stands, read, Row.column_eq_ok stands read⟩

theorem Row.status_cases (row : Row) :
    (∃ status : Account.Status, row.value? "status" = some (.integer status.number) ∧
        row.status = .ok status) ∨
      ∃ reason, row.status = .error (.backend reason) := by
  rcases row.column_cases "status" Value.integer? with
    ⟨value, number, stands, read, column⟩ | column
  · cases value <;> cases read
    cases known : Account.Status.ofNumber? number with
    | none =>
        right
        refine ⟨"unknown account status " ++ String.ofList (Decimal.ofInt number), ?_⟩
        rw [Row.status, column]
        simp only [bind, Except.bind, known]
    | some status =>
        left
        have listed : Account.Status.all.find? (fun status => status.number == number) =
            some status := known
        have found := List.find?_some listed
        have same : status.number = number := eq_of_beq found
        refine ⟨status, ?_, Row.status_eq_ok column known⟩
        rw [stands, same]
  · right
    exact ⟨_, by rw [Row.status, column]; rfl⟩

theorem Row.details_cases (row : Row) :
    (∃ json details, row.value? "meta" = some (.document json) ∧
        Account.Meta.ofJson? json = some details ∧ row.details = .ok details) ∨
      ∃ reason, row.details = .error (.backend reason) := by
  rcases row.column_cases "meta" Value.document? with
    ⟨value, json, stands, read, column⟩ | column
  · cases value <;> cases read
    cases known : Account.Meta.ofJson? json with
    | none =>
        right
        refine ⟨"failed to decode account meta", ?_⟩
        rw [Row.details, column]
        simp only [bind, Except.bind, known]
    | some details =>
        left
        exact ⟨json, details, stands, known, Row.details_eq_ok column known⟩
  · right
    exact ⟨_, by rw [Row.details, column]; rfl⟩

/-- The row has no status, or none that there is, or it has no details that can be read. -/
def Row.IsForeign (row : Row) : Prop :=
  (∀ number ∈ [0, 1, 2], row.value? "status" ≠ some (.integer number)) ∨
    ∀ json, row.value? "meta" = some (.document json) → Account.Meta.ofJson? json = none

theorem Row.IsForeign.exists_account_eq_error {row : Row} (foreign : row.IsForeign) :
    ∃ reason, row.account = .error (.backend reason) := by
  rcases row.status_cases with ⟨status, statusStands, statusRead⟩ | ⟨reason, failed⟩
  · rcases row.details_cases with ⟨json, details, detailsStand, known, -⟩ | ⟨reason, failed⟩
    · rcases foreign with noStatus | noDetails
      · refine absurd statusStands (noStatus status.number ?_)
        cases status <;> decide
      · rw [noDetails json detailsStand] at known
        cases known
    · exact ⟨reason, by rw [Row.account, statusRead, failed]; rfl⟩
  · exact ⟨reason, by rw [Row.account, failed]; rfl⟩

/-- All parameters of a statement are written to columns. An account that has been created, and one
that has been updated, is read from any row that gives them back, whatever it is looked up by: it is
the account that was returned, with its times cut to microseconds. A row with another status than
there are, or with details that are none, never gives an account. -/
theorem accounts_read_back_as_written :
    (∀ {State : Type} (database : Dialogue.Responder Statement.Answer State) (state : State)
        (id : Account.Id) (account : NewAccount) (returned : Account),
        account.createdAt.IsOrdinary → account.updatedAt.IsOrdinary →
        ((create id account).run database state).1 = .ok returned →
        ∃ statement kept, (create id account).asked database state = [statement] ∧
          statement.entries.map (·.2) = statement.parameters ∧ returned.IsKeptAs kept ∧
          ∀ (lookup : Lookup) (row : Row),
            row.Shows (Statement.selectAccount lookup).selection statement.entries →
              row.account = .ok kept) ∧
      (∀ {State : Type} (database : Dialogue.Responder Statement.Answer State) (state : State)
        (now : Instant) (account returned : Account),
        account.createdAt.IsOrdinary → now.IsOrdinary →
        ((update now account).run database state).1 = .ok returned →
        ∃ statement kept, (update now account).asked database state = [statement] ∧
          (statement.bindings.map (·.2)).Perm statement.parameters ∧ returned.IsKeptAs kept ∧
          ∀ (before : List (String × Value)) (lookup : Lookup) (row : Row),
            before.lookup "created_at" = some (.ofInstant account.createdAt) →
            row.Shows (Statement.selectAccount lookup).selection (statement.bindings ++ before) →
              row.account = .ok kept) ∧
      ∀ row : Row, row.IsForeign → ∃ reason, row.account = .error (.backend reason) := by
  refine ⟨?_, ?_, fun row foreign => foreign.exists_account_eq_error⟩
  · intro State database state id account returned created updated done
    rcases sends_create id account database state with ⟨asked, result⟩
    cases result returned done
    have ordinary : (account.withId id).createdAt.IsOrdinary := created
    rcases exists_account_of_shows ordinary updated with ⟨kept, isKept, reads⟩
    have values : (Statement.insert id account).entries.map (·.2) =
        (Statement.insert id account).parameters := by
      rw [entries_insert]
      rfl
    refine ⟨_, kept, asked, values, isKept, ?_⟩
    intro lookup row shows
    exact reads lookup row ((shows_insert_iff row lookup id account).mp shows)
  · intro State database state now account returned created updated done
    rcases sends_update now account database state with ⟨asked, result⟩
    cases result returned done
    have ordinary : { account with updatedAt := now }.createdAt.IsOrdinary := created
    rcases exists_account_of_shows ordinary updated with ⟨kept, isKept, reads⟩
    have values : ((Statement.update account now).bindings.map (·.2)).Perm
        (Statement.update account now).parameters := by
      rw [bindings_update]
      exact @List.perm_append_singleton Value (.uuid account.id)
        (Statement.update account now).parameters.tail
    refine ⟨_, kept, asked, values, isKept, ?_⟩
    intro before lookup row stands shows
    exact reads lookup row ((shows_update_iff row lookup account now stands).mp shows)

def shortNamesFirst (kyc : Account.Kyc) : Json :=
  .ofMembers
    [("address", .ofOption Account.Address.toJson kyc.address),
     ("verified_at", .ofOption Instant.toJson kyc.verifiedAt),
     ("date_of_birth", .ofOption Date.toJson kyc.dateOfBirth),
     ("document_type", .ofString kyc.documentType),
     ("document_number", .ofString kyc.documentNumber)]

theorem reordered_shortNamesFirst (kyc : Account.Kyc) :
    Json.Reordered kyc.toJson (shortNamesFirst kyc) := by
  have addressFirst := @List.perm_append_comm (Json.Content × Json)
    [(some "document_type", .ofString kyc.documentType),
     (some "document_number", .ofString kyc.documentNumber),
     (some "date_of_birth", .ofOption Date.toJson kyc.dateOfBirth)]
    [(some "address", .ofOption Account.Address.toJson kyc.address),
     (some "verified_at", .ofOption Instant.toJson kyc.verifiedAt)]
  have dateFirst := @List.perm_append_comm (Json.Content × Json)
    [(some "document_type", .ofString kyc.documentType),
     (some "document_number", .ofString kyc.documentNumber)]
    [(some "date_of_birth", .ofOption Date.toJson kyc.dateOfBirth)]
  exact .object (addressFirst.trans (dateFirst.append_left _))

def preciseKyc : Account.Kyc :=
  { documentType := "passport", dateOfBirth := some ⟨-44, 3, 15, by decide⟩
    verifiedAt := some ⟨0, 123456789, by decide⟩ }

def preciseAccount : NewAccount :=
  { name := "Ada", email := "ada@example.org", phoneNumber := "+1", passwordHash := "-"
    status := .active, details := { kyc := some preciseKyc }, createdAt := ⟨-1, 1500, by decide⟩
    updatedAt := ⟨1700000000, 1999, by decide⟩ }

def preciseText : String :=
  "\x7b\"kyc\":\x7b\"address\":null,\"verified_at\":\"1970-01-01T00:00:00.123456789Z\"," ++
  "\"date_of_birth\":\"-0044-03-15\",\"document_type\":\"passport\"," ++
  "\"document_number\":\"\"\x7d\x7d"

theorem preciseText_comesBack :
    (Value.document preciseAccount.details.toJson).ComesBackAs (.ofDocumentText preciseText) := by
  have written : Utf8.encode preciseText =
      (Json.ofMembers [("kyc", shortNamesFirst preciseKyc)]).write := by decide +kernel
  have reordered := reordered_shortNamesFirst preciseKyc
  exact .document (.single (.member [] [] (some "kyc") reordered)) (written ▸ Json.spells_write _)

def preciseRow (status createdAt updatedAt : Int) : Row :=
  [("id", .uuid default), ("name", .text "Ada"), ("email", .text "ada@example.org"),
   ("phone_number", .text "+1"), ("status", .integer status),
   ("meta", .ofDocumentText preciseText), ("created_at", .time createdAt),
   ("updated_at", .time updatedAt)]

theorem preciseRow_shows (lookup : Lookup) (updatedAt : Instant) :
    (preciseRow 1 (-946684800999998) updatedAt.databaseMicroseconds).Shows
      (Statement.selectAccount lookup).selection
      (storedColumns { preciseAccount.withId default with updatedAt }) := by
  rw [Row.Shows, selection_selectAccount]
  simp only [List.forall_mem_cons]
  exact ⟨⟨_, _, rfl, .same _, rfl⟩, ⟨_, _, rfl, .same _, rfl⟩, ⟨_, _, rfl, .same _, rfl⟩,
    ⟨_, _, rfl, .same _, rfl⟩, ⟨_, _, rfl, .same _, rfl⟩,
    ⟨_, _, rfl, preciseText_comesBack, rfl⟩, ⟨_, _, rfl, .same _, rfl⟩,
    ⟨_, _, rfl, .same _, rfl⟩, fun _ member => by cases member⟩

theorem precise_account_reads_back :
    let confirming : Dialogue.Responder Statement.Answer Unit :=
      fun _ _ => (.result [] 1, ())
    let created := preciseAccount.withId default
    let now : Instant := ⟨1800000000, 999999999, by decide⟩
    let kept : Account :=
      { created with
        createdAt := ⟨-1, 2000, by decide⟩, updatedAt := ⟨1700000000, 1000, by decide⟩ }
    ((create default preciseAccount).run confirming ()).1 = .ok created ∧
      (preciseRow 1 (-946684800999998) 753315200000001).account = .ok kept ∧
      ((update now created).run confirming ()).1 = .ok { created with updatedAt := now } ∧
      (preciseRow 1 (-946684800999998) 853315200999999).account =
        .ok { kept with updatedAt := ⟨1800000000, 999999000, by decide⟩ } ∧
      (∃ reason, (preciseRow 3 (-946684800999998) 753315200000001).account =
        .error (.backend reason)) ∧
      ∃ reason, (preciseRow 1 (-946684800999998) 753315200000001 ++
        [("meta", Value.document .null)]).account = .error (.backend reason) := by
  intro confirming created now kept
  have returned : ((create default preciseAccount).run confirming ()).1 = .ok created := rfl
  have returnedAgain : ((update now created).run confirming ()).1 =
      .ok { created with updatedAt := now } := rfl
  have createdKept : created.IsKeptAs kept :=
    ⟨⟨by decide, by decide, by decide⟩, ⟨by decide, by decide, by decide⟩, rfl⟩
  have updatedKept : { created with updatedAt := now }.IsKeptAs
      { kept with updatedAt := ⟨1800000000, 999999000, by decide⟩ } :=
    ⟨createdKept.createdAt, ⟨by decide, by decide, by decide⟩, rfl⟩
  have createdOrdinary : preciseAccount.createdAt.IsOrdinary := by decide +kernel
  have updatedOrdinary : preciseAccount.updatedAt.IsOrdinary := by decide +kernel
  have nowOrdinary : now.IsOrdinary := by decide
  rcases accounts_read_back_as_written with ⟨creates, updates, refuses⟩
  rcases creates confirming () default preciseAccount created createdOrdinary updatedOrdinary
    returned with ⟨_, keptOnce, asked, -, isKept, reads⟩
  rcases updates confirming () now created _ createdOrdinary nowOrdinary returnedAgain
    with ⟨_, keptTwice, askedAgain, -, isKeptAgain, readsAgain⟩
  cases asked
  cases askedAgain
  cases isKept.eq createdKept
  cases isKeptAgain.eq updatedKept
  have shows := preciseRow_shows (.id default) preciseAccount.updatedAt
  have microseconds : now.databaseMicroseconds = 853315200999999 := by decide
  have showsAgain := preciseRow_shows (.id default) now
  rw [microseconds] at showsAgain
  refine ⟨returned, ?_, returnedAgain, ?_, ?_, ?_⟩
  · exact reads (.id default) _ ((shows_insert_iff _ _ _ _).mpr shows)
  · exact readsAgain (storedColumns created) (.id default) _ rfl
      ((shows_update_iff _ _ _ _ rfl).mpr showsAgain)
  · refine refuses _ (.inl fun number known same => ?_)
    cases same
    revert known
    decide
  · refine refuses _ (.inr fun json same => ?_)
    cases same
    rfl

end Database

end Turnstile
