import Turnstile.Proofs.Database.Relation
import Turnstile.Proofs.Store.Arrivals
import Turnstile.Proofs.Time.Microseconds

/-!
A store in memory beside one in a database. Every row in memory stands for a tuple of the relation,
and as long as that is so both give the same answers. Two kinds of updates part them: one of an
account that is not there while its email or its phone number is, which only the store in memory
calls a conflict, and one that moves the time at which an account was created, which only the store
in memory keeps.
-/

namespace Turnstile.Database

open Turnstile.Store Turnstile.Time

/-! ## Calls with values that both stores keep -/

def isKept (time : Instant) : Bool :=
  time.isWhole && (Value.ofInstant time).complaint?.isNone

def callTexts : Call → List String
  | .authenticate email => [email]
  | .create account =>
      [account.name, account.email, account.phoneNumber, account.passwordHash]
        ++ account.details.toJson.texts
  | .findById _ => []
  | .findByEmail email => [email]
  | .findByPhoneNumber phoneNumber => [phoneNumber]
  | .requireVacant email phoneNumber => [email, phoneNumber]
  | .update account =>
      [account.name, account.email, account.phoneNumber] ++ account.details.toJson.texts

def callTimes : Call → List Instant
  | .create account => [account.createdAt, account.updatedAt]
  | .update account => [account.createdAt, account.updatedAt]
  | _ => []

/-- All texts and times, that of the store's clock among them, are such that a database gives them
back as they were. -/
structure IsKeptArrival (arrival : Arrival) : Prop where
  texts : ∀ text ∈ callTexts arrival.call, isPlainText text = true
  times : ∀ time ∈ arrival.now :: callTimes arrival.call, isKept time = true

instance (arrival : Arrival) : Decidable (IsKeptArrival arrival) :=
  decidable_of_iff
    ((∀ text ∈ callTexts arrival.call, isPlainText text = true) ∧
      ∀ time ∈ arrival.now :: callTimes arrival.call, isKept time = true)
    ⟨fun kept => ⟨kept.left, kept.right⟩, fun kept => ⟨kept.texts, kept.times⟩⟩

theorem isWhole_of_isKept {time : Instant} (kept : isKept time = true) : time.isWhole = true :=
  (Bool.and_eq_true_iff.mp kept).left

theorem complaint?_of_isKept {time : Instant} (kept : isKept time = true) :
    (Value.ofInstant time).complaint? = none :=
  Option.isNone_iff_eq_none.mp (Bool.and_eq_true_iff.mp kept).right

section Storable

variable {now : Instant} {freshId : Account.Id}

theorem IsKeptArrival.storable {call : Call} (kept : IsKeptArrival ⟨call, now, freshId⟩)
    {text : String} (member : text ∈ callTexts call) : (Value.text text).complaint? = none :=
  (Value.complaint?_text_eq_none_iff text).mpr (kept.texts text member)

theorem IsKeptArrival.insertable {account : NewAccount}
    (kept : IsKeptArrival ⟨.create account, now, freshId⟩) :
    (Statement.insert freshId account).complaint? = none ∧ account.createdAt.isWhole = true ∧
      account.updatedAt.isWhole = true := by
  rcases kept with ⟨texts, times⟩
  simp only [callTexts, callTimes, List.forall_mem_cons, List.forall_mem_append] at texts times
  rcases texts with ⟨⟨name, email, phoneNumber, passwordHash, -⟩, details⟩
  rcases times with ⟨-, createdAt, updatedAt, -⟩
  have storable : (Statement.insert freshId account).complaint? = none :=
    Statement.complaint?_insert name email phoneNumber passwordHash (List.all_eq_true.mpr details)
      (complaint?_of_isKept createdAt) (complaint?_of_isKept updatedAt)
  exact ⟨storable, isWhole_of_isKept createdAt, isWhole_of_isKept updatedAt⟩

theorem IsKeptArrival.updatable {account : Account}
    (kept : IsKeptArrival ⟨.update account, now, freshId⟩) :
    (Statement.update account now).complaint? = none ∧ now.isWhole = true ∧
      account.createdAt.isWhole = true := by
  rcases kept with ⟨texts, times⟩
  simp only [callTexts, callTimes, List.forall_mem_cons, List.forall_mem_append] at texts times
  rcases texts with ⟨⟨name, email, phoneNumber, -⟩, details⟩
  rcases times with ⟨now, createdAt, -, -⟩
  exact ⟨Statement.complaint?_update name email phoneNumber (List.all_eq_true.mpr details)
    (complaint?_of_isKept now), isWhole_of_isKept now, isWhole_of_isKept createdAt⟩

end Storable

/-! ## Rows and tuples -/

def Tuple.ofRow (arrangement : Json.Arrangement) (row : Store.Row) : Tuple :=
  { id := row.account.id, name := row.account.name, email := row.account.email
    phoneNumber := row.account.phoneNumber, passwordHash := row.passwordHash
    status := row.account.status.number
    details := arrangement.arrange row.account.details.toJson
    createdAt := row.account.createdAt.databaseMicroseconds
    updatedAt := row.account.updatedAt.databaseMicroseconds, deletedAt := none }

theorem Row.column_eq_ok {α : Type} {row : Row} {name : String} {read? : Value → Option α}
    {value : Value} {result : α} (found : row.value? name = some value)
    (read : read? value = some result) : row.column name read? = .ok result := by
  rw [column, found, Option.bind_some, read]

theorem Row.status_eq_ok {row : Row} {number : Int} {status : Account.Status}
    (column : row.column "status" Value.integer? = .ok number)
    (known : Account.Status.ofNumber? number = some status) : row.status = .ok status := by
  rw [Row.status, column]
  simp only [bind, Except.bind, known]

theorem Row.details_eq_ok {row : Row} {json : Json} {details : Account.Meta}
    (column : row.column "meta" Value.document? = .ok json)
    (read : Account.Meta.ofJson? json = some details) : row.details = .ok details := by
  rw [Row.details, column]
  simp only [bind, Except.bind, read]

theorem Row.account_eq_ok {row : Row} {account : Account} (status : row.status = .ok account.status)
    (details : row.details = .ok account.details)
    (createdAt : row.column "created_at" Value.instant? = .ok account.createdAt)
    (updatedAt : row.column "updated_at" Value.instant? = .ok account.updatedAt)
    (id : row.column "id" Value.uuid? = .ok account.id)
    (name : row.column "name" Value.text? = .ok account.name)
    (email : row.column "email" Value.text? = .ok account.email)
    (phoneNumber : row.column "phone_number" Value.text? = .ok account.phoneNumber) :
    row.account = .ok account := by
  rw [Row.account, status, details, createdAt, updatedAt, id, name, email, phoneNumber]
  rfl

theorem Tuple.account_accountRow {tuple : Tuple} {status : Account.Status}
    {details : Account.Meta} {createdAt updatedAt : Instant}
    (hasStatus : Account.Status.ofNumber? tuple.status = some status)
    (hasDetails : Account.Meta.ofJson? tuple.details = some details)
    (created : Instant.ofDatabaseMicroseconds? tuple.createdAt = some createdAt)
    (updated : Instant.ofDatabaseMicroseconds? tuple.updatedAt = some updatedAt) :
    tuple.accountRow.account =
      .ok { id := tuple.id, name := tuple.name, email := tuple.email
            phoneNumber := tuple.phoneNumber, status, details, createdAt, updatedAt } := by
  apply Row.account_eq_ok
  · exact Row.status_eq_ok rfl hasStatus
  · exact Row.details_eq_ok rfl hasDetails
  · exact Row.column_eq_ok rfl created
  · exact Row.column_eq_ok rfl updated
  · rfl
  · rfl
  · rfl
  · rfl

theorem account_ofRow (arrangement : Json.Arrangement) {row : Store.Row}
    (created : row.account.createdAt.isWhole = true)
    (updated : row.account.updatedAt.isWhole = true) :
    (Tuple.ofRow arrangement row).accountRow.account = .ok row.account :=
  Tuple.account_accountRow (Account.Status.ofNumber?_number _)
    (Account.Meta.ofJson?_arrange arrangement _)
    (Instant.ofDatabaseMicroseconds?_of_isWhole created)
    (Instant.ofDatabaseMicroseconds?_of_isWhole updated)

/-- Every row in memory is a tuple of the relation, in the same order and with times that it gives
back. -/
structure Mirrors (arrangement : Json.Arrangement) (memory : Memory) (relation : Relation) :
    Prop where
  tuples : relation.tuples = memory.rows.map (Tuple.ofRow arrangement)
  created : ∀ row ∈ memory.rows, row.account.createdAt.isWhole = true
  updated : ∀ row ∈ memory.rows, row.account.updatedAt.isWhole = true

theorem mirrors_empty (arrangement : Json.Arrangement) : Mirrors arrangement {} {} :=
  ⟨rfl, fun _ member => absurd member List.not_mem_nil,
    fun _ member => absurd member List.not_mem_nil⟩

def isWanted (lookup : Lookup) (account : Account) : Bool :=
  match lookup with
  | .id id => account.id == id
  | .email email => account.email == email
  | .phoneNumber phoneNumber => account.phoneNumber == phoneNumber

theorem isSelectedBy_ofRow (arrangement : Json.Arrangement) (row : Store.Row) (lookup : Lookup) :
    (Tuple.ofRow arrangement row).isSelectedBy lookup = isWanted lookup row.account := by
  cases lookup <;> rfl

theorem conflict?_none (memory : Memory) (email phoneNumber : String) :
    memory.conflict? none email phoneNumber =
      if memory.rows.any fun row => row.account.email == email then some .email
      else if memory.rows.any fun row => row.account.phoneNumber == phoneNumber then
        some .phoneNumber
      else none := by
  have all : (memory.rows.filter fun row => some row.account.id != none) = memory.rows :=
    List.filter_eq_self.mpr fun _ _ => rfl
  rw [Memory.conflict?, all]

theorem map_field_collision? (arrangement : Json.Arrangement) (rows : List Store.Row)
    (email phoneNumber : String) :
    (Relation.collision? (rows.map (Tuple.ofRow arrangement))
        [.email email, .phoneNumber phoneNumber]).map Lookup.field =
      if rows.any fun row => row.account.email == email then some .email
      else if rows.any fun row => row.account.phoneNumber == phoneNumber then some .phoneNumber
      else none := by
  have sameEmail : ((rows.map (Tuple.ofRow arrangement)).any fun tuple =>
      tuple.meets (.email email)) = rows.any fun row => row.account.email == email := List.any_map
  have samePhoneNumber : ((rows.map (Tuple.ofRow arrangement)).any fun tuple =>
      tuple.meets (.phoneNumber phoneNumber)) =
        rows.any fun row => row.account.phoneNumber == phoneNumber := List.any_map
  rw [Relation.collision?_contacts, sameEmail, samePhoneNumber]
  cases rows.any fun row => row.account.email == email with
  | true => rfl
  | false => cases rows.any fun row => row.account.phoneNumber == phoneNumber <;> rfl

namespace Mirrors

variable {arrangement : Json.Arrangement} {memory : Memory} {relation : Relation}
  (mirrors : Mirrors arrangement memory relation)
include mirrors

theorem selected_eq (lookup : Lookup) :
    relation.selected lookup =
      (memory.rows.filter fun row => isWanted lookup row.account).map
        (Tuple.ofRow arrangement) := by
  rw [Relation.selected, mirrors.tuples, List.filter_map]
  simp only [Function.comp_def, isSelectedBy_ofRow]

theorem head?_selected (lookup : Lookup) :
    (relation.selected lookup).head? =
      (memory.rows.find? fun row => isWanted lookup row.account).map
        (Tuple.ofRow arrangement) := by
  rw [mirrors.selected_eq, List.head?_map, List.head?_filter]

theorem find_run (operation : String) {lookup : Lookup}
    (storable : lookup.value.complaint? = none) :
    (find operation lookup).run (Relation.respond arrangement) relation =
      (memory.find (isWanted lookup), relation) := by
  rw [Relation.find_run arrangement relation operation storable, mirrors.head?_selected,
    Memory.find]
  cases found : memory.rows.find? fun row => isWanted lookup row.account with
  | none => rfl
  | some row =>
      have member := List.mem_of_find?_eq_some found
      exact congrArg (·, relation)
        (account_ofRow arrangement (mirrors.created row member) (mirrors.updated row member))

theorem authenticate_run {email : String}
    (storable : (Lookup.email email).value.complaint? = none) :
    (authenticate email).run (Relation.respond arrangement) relation =
      (memory.credentials email, relation) := by
  rw [Relation.authenticate_run arrangement relation storable, mirrors.head?_selected,
    Memory.credentials]
  simp only [isWanted]
  cases memory.rows.find? fun row => row.account.email == email with
  | none => rfl
  | some row => rfl

theorem taken_eq (operation : String) {lookup : Lookup}
    (storable : lookup.value.complaint? = none) :
    relation.taken operation lookup =
      .ok (memory.rows.any fun row => isWanted lookup row.account) := by
  have found : (!(memory.rows.filter fun row => isWanted lookup row.account).isEmpty) =
      memory.rows.any fun row => isWanted lookup row.account := by
    rw [Bool.eq_iff_iff]
    simp [List.filter_eq_nil_iff]
  rw [Relation.taken, storable, mirrors.selected_eq]
  dsimp only
  rw [List.isEmpty_map, found]

theorem others_eq (id : Account.Id) :
    relation.others id =
      (memory.rows.filter fun row => some row.account.id != some id).map
        (Tuple.ofRow arrangement) := by
  rw [Relation.others, mirrors.tuples, List.filter_map]
  rfl

theorem requireVacant_run {email phoneNumber : String}
    (emailStorable : (Lookup.email email).value.complaint? = none)
    (phoneNumberStorable : (Lookup.phoneNumber phoneNumber).value.complaint? = none) :
    (requireVacant email phoneNumber).run (Relation.respond arrangement) relation =
      (memory.requireVacant email phoneNumber, relation) := by
  rw [Relation.requireVacant_run, mirrors.taken_eq _ emailStorable,
    mirrors.taken_eq _ phoneNumberStorable, Memory.requireVacant, conflict?_none]
  simp only [isWanted]
  cases memory.rows.any fun row => row.account.email == email with
  | true => rfl
  | false => cases memory.rows.any fun row => row.account.phoneNumber == phoneNumber <;> rfl

end Mirrors

/-! ## Updates that part the stores -/

/-- There is nothing to update, but what the update would bring is taken. -/
def IsStray (memory : Memory) (account : Account) : Prop :=
  (∀ row ∈ memory.rows, row.account.id ≠ account.id) ∧
    memory.conflict? (some account.id) account.email account.phoneNumber ≠ none

/-- The update goes through and moves the time at which the account was created. -/
def Backdates (memory : Memory) (account : Account) : Prop :=
  memory.conflict? (some account.id) account.email account.phoneNumber = none ∧
    ∃ row ∈ memory.rows, row.account.id = account.id ∧ row.account.createdAt ≠ account.createdAt

def IsRegular (memory : Memory) : Call → Prop
  | .update account => ¬ IsStray memory account ∧ ¬ Backdates memory account
  | _ => True

/-- The same answer from both stores, which stand side by side again after it. -/
def GoOn (arrangement : Json.Arrangement) {α : Type} (database : Except Store.Error α × Relation)
    (inMemory : Except Store.Error α × Memory) : Prop :=
  database.1 = inMemory.1 ∧ Mirrors arrangement inMemory.2 database.2

namespace Mirrors

variable {arrangement : Json.Arrangement} {memory : Memory} {relation : Relation}
  (mirrors : Mirrors arrangement memory relation)
include mirrors

theorem collision?_new {freshId : Account.Id}
    (fresh : ∀ row ∈ memory.rows, row.account.id ≠ freshId) (account : NewAccount) :
    (Relation.collision? relation.tuples (Tuple.ofNew arrangement freshId account).keys).map
        Lookup.field = memory.conflict? none account.email account.phoneNumber := by
  have freshTuple : ∀ tuple ∈ relation.tuples, tuple.id ≠ freshId := by
    rw [mirrors.tuples]
    intro tuple member
    rcases List.mem_map.mp member with ⟨row, rowMember, rfl⟩
    exact fresh row rowMember
  have collides := map_field_collision? arrangement memory.rows account.email account.phoneNumber
  rw [conflict?_none, ← collides, ← mirrors.tuples]
  exact congrArg (Option.map Lookup.field) (Relation.collision?_of_fresh freshTuple _)

theorem goOn_create {freshId : Account.Id} {account : NewAccount}
    (fresh : ∀ row ∈ memory.rows, row.account.id ≠ freshId)
    (storable : (Statement.insert freshId account).complaint? = none)
    (created : account.createdAt.isWhole = true) (updated : account.updatedAt.isWhole = true) :
    GoOn arrangement
      ((create freshId account).run (Relation.respond arrangement) relation)
      (memory.create freshId account) := by
  have conflict := mirrors.collision?_new fresh account
  rw [Relation.create_run, storable, Memory.create, ← conflict]
  cases Relation.collision? relation.tuples (Tuple.ofNew arrangement freshId account).keys with
  | some key => exact ⟨rfl, mirrors⟩
  | none =>
      refine ⟨rfl, ?_, ?_, ?_⟩
      · show relation.tuples ++ [_] = List.map _ (memory.rows ++ [_])
        rw [mirrors.tuples, List.map_append]
        rfl
      · intro row member
        rcases List.mem_append.mp member with member | single
        · exact mirrors.created row member
        · rw [List.mem_singleton.mp single]
          exact created
      · intro row member
        rcases List.mem_append.mp member with member | single
        · exact mirrors.updated row member
        · rw [List.mem_singleton.mp single]
          exact updated

theorem replace {now : Instant} {account : Account} (whole : now.isWhole = true)
    (created : account.createdAt.isWhole = true)
    (stays : ∀ row ∈ memory.rows, row.account.id = account.id →
      row.account.createdAt = account.createdAt) :
    Mirrors arrangement (memory.replace { account with updatedAt := now })
      (relation.replace arrangement account now) := by
  constructor
  · rw [Relation.replace, Memory.replace, mirrors.tuples, List.map_map, List.map_map]
    apply List.map_congr_left
    intro row member
    by_cases same : row.account.id = account.id
    · have isSelected : (Tuple.ofRow arrangement row).isSelectedBy (.id account.id) = true := by
        rw [isSelectedBy_ofRow]
        exact beq_iff_eq.mpr same
      rw [Function.comp_apply, Function.comp_apply, if_pos isSelected, if_pos same]
      simp only [Tuple.updated, Tuple.ofRow, same, stays row member same]
    · have notSelected : (Tuple.ofRow arrangement row).isSelectedBy (.id account.id) = false := by
        rw [isSelectedBy_ofRow]
        exact beq_eq_false_iff_ne.mpr same
      simp only [Function.comp_apply, notSelected, same, if_false, Bool.false_eq_true]
  · intro row member
    rcases List.mem_map.mp member with ⟨before, beforeMember, rfl⟩
    split
    · exact created
    · exact mirrors.created before beforeMember
  · intro row member
    rcases List.mem_map.mp member with ⟨before, beforeMember, rfl⟩
    split
    · exact whole
    · exact mirrors.updated before beforeMember

theorem collision?_others (account : Account) :
    (Relation.collision? (relation.others account.id)
      [.email account.email, .phoneNumber account.phoneNumber]).map Lookup.field =
        memory.conflict? (some account.id) account.email account.phoneNumber := by
  rw [mirrors.others_eq, map_field_collision?]
  rfl

theorem selected_eq_nil_iff (id : Account.Id) :
    relation.selected (.id id) = [] ↔ ∀ row ∈ memory.rows, row.account.id ≠ id := by
  rw [mirrors.selected_eq, List.map_eq_nil_iff, List.filter_eq_nil_iff]
  simp only [isWanted, beq_iff_eq, ne_eq]

theorem update_of_free {now : Instant} {account : Account}
    (storable : (Statement.update account now).complaint? = none)
    (free : memory.conflict? (some account.id) account.email account.phoneNumber = none)
    {row : Store.Row} (member : row ∈ memory.rows) (same : row.account.id = account.id) :
    (update now account).run (Relation.respond arrangement) relation =
        (.ok { account with updatedAt := now }, relation.replace arrangement account now) ∧
      memory.update now account =
        (.ok { account with updatedAt := now },
          memory.replace { account with updatedAt := now }) := by
  have noCollision : Relation.collision? (relation.others account.id)
      [.email account.email, .phoneNumber account.phoneNumber] = none := by
    rw [← Option.map_eq_none_iff, mirrors.collision?_others, free]
  constructor
  · rw [Relation.update_run, storable, noCollision]
    cases selected : relation.selected (.id account.id) with
    | nil => exact absurd same ((mirrors.selected_eq_nil_iff account.id).mp selected row member)
    | cons tuple more => rfl
  · have isThere : (memory.rows.any fun row => row.account.id == account.id) = true :=
      List.any_eq_true.mpr ⟨row, member, beq_iff_eq.mpr same⟩
    rw [Memory.update, free]
    dsimp only
    rw [if_pos isThere]

theorem goOn_update {now : Instant} {account : Account}
    (storable : (Statement.update account now).complaint? = none)
    (whole : now.isWhole = true) (created : account.createdAt.isWhole = true)
    (found : ¬ IsStray memory account) (stays : ¬ Backdates memory account) :
    GoOn arrangement ((update now account).run (Relation.respond arrangement) relation)
      (memory.update now account) := by
  have conflict := mirrors.collision?_others account
  cases taken : memory.conflict? (some account.id) account.email account.phoneNumber with
  | some field =>
      -- the row is there, since the update is not a stray one
      rw [taken] at conflict
      rcases Option.map_eq_some_iff.mp conflict with ⟨key, collides, rfl⟩
      rw [Relation.update_run, storable, Memory.update, taken, collides]
      cases selected : relation.selected (.id account.id) with
      | nil =>
          have absent := (mirrors.selected_eq_nil_iff account.id).mp selected
          exact absurd ⟨absent, by rw [taken]; exact Option.some_ne_none _⟩ found
      | cons tuple more => exact ⟨rfl, mirrors⟩
  | none =>
      by_cases isThere : ∃ row ∈ memory.rows, row.account.id = account.id
      · rcases isThere with ⟨row, member, same⟩
        rcases mirrors.update_of_free storable taken member same with ⟨database, inMemory⟩
        rw [database, inMemory]
        refine ⟨rfl, mirrors.replace whole created ?_⟩
        intro other otherMember otherSame
        by_contra different
        exact stays ⟨taken, other, otherMember, otherSame, different⟩
      · have absent : ∀ row ∈ memory.rows, row.account.id ≠ account.id :=
          fun row member same => isThere ⟨row, member, same⟩
        have none : (memory.rows.any fun row => row.account.id == account.id) = false := by
          simpa using absent
        rw [Relation.update_run, storable, (mirrors.selected_eq_nil_iff account.id).mpr absent,
          Memory.update, taken]
        dsimp only
        rw [none]
        exact ⟨rfl, mirrors⟩

theorem goOn_read {α : Type} {database : Except Store.Error α × Relation}
    {answer : Except Store.Error α} (same : database = (answer, relation)) :
    GoOn arrangement database (answer, memory) := by
  rw [same]
  exact ⟨rfl, mirrors⟩

theorem goOn_answer {arrival : Arrival} (kept : IsKeptArrival arrival)
    (fresh : memory.IsFresh arrival.freshId arrival.call)
    (regular : IsRegular memory arrival.call) :
    GoOn arrangement
      (Relation.answer arrangement arrival.now arrival.freshId arrival.call relation)
      (memory.respond arrival.now arrival.freshId arrival.call) := by
  rcases arrival with ⟨call, now, freshId⟩
  cases call with
  | authenticate email =>
      exact mirrors.goOn_read (mirrors.authenticate_run (kept.storable List.mem_cons_self))
  | create account =>
      rcases kept.insertable with ⟨storable, created, updated⟩
      exact mirrors.goOn_create (fresh rfl) storable created updated
  | findById id => exact mirrors.goOn_read (mirrors.find_run "find_by_id" rfl)
  | findByEmail email =>
      exact mirrors.goOn_read
        (mirrors.find_run "find_by_email" (kept.storable List.mem_cons_self))
  | findByPhoneNumber phoneNumber =>
      exact mirrors.goOn_read
        (mirrors.find_run "find_by_phone_number" (kept.storable List.mem_cons_self))
  | requireVacant email phoneNumber =>
      exact mirrors.goOn_read (mirrors.requireVacant_run (kept.storable List.mem_cons_self)
        (kept.storable (List.mem_cons_of_mem _ List.mem_cons_self)))
  | update account =>
      rcases kept.updatable with ⟨storable, whole, created⟩
      exact mirrors.goOn_update storable whole created regular.left regular.right

end Mirrors

/-! ## One call after the other -/

namespace Relation

variable (arrangement : Json.Arrangement)

def after (relation : Relation) (arrival : Arrival) : Relation :=
  (answer arrangement arrival.now arrival.freshId arrival.call relation).2

def answers (relation : Relation) : List Arrival → List ((call : Call) × call.Answer)
  | [] => []
  | arrival :: rest =>
      ⟨arrival.call, (answer arrangement arrival.now arrival.freshId arrival.call relation).1⟩
        :: answers (relation.after arrangement arrival) rest

end Relation

def memoryAnswers (memory : Memory) : List Arrival → List ((call : Call) × call.Answer)
  | [] => []
  | arrival :: rest =>
      ⟨arrival.call, (memory.respond arrival.now arrival.freshId arrival.call).1⟩
        :: memoryAnswers (memory.after arrival) rest

def AllRegular (memory : Memory) : List Arrival → Prop
  | [] => True
  | arrival :: rest => IsRegular memory arrival.call ∧ AllRegular (memory.after arrival) rest

def lookUp (id : Account.Id) : Arrival :=
  { call := .findById id, now := .epoch, freshId := default }

theorem isKeptArrival_lookUp (id : Account.Id) : IsKeptArrival (lookUp id) where
  texts _ member := absurd member List.not_mem_nil
  times time member := by
    rw [List.mem_singleton.mp member]
    exact show isKept .epoch = true by decide

/-- The answers to all calls up to any of them, and to whatever is looked up then. -/
def AgreeThroughout (arrangement : Json.Arrangement) (memory : Memory) (relation : Relation)
    (arrivals : List Arrival) : Prop :=
  ∀ earlier later, arrivals = earlier ++ later → ∀ id,
    relation.answers arrangement (earlier ++ [lookUp id]) =
      memoryAnswers memory (earlier ++ [lookUp id])

section Runs

variable {arrangement : Json.Arrangement} {memory : Memory} {relation : Relation}
  {arrival : Arrival} {arrivals : List Arrival}

theorem answers_cons_eq_iff :
    relation.answers arrangement (arrival :: arrivals) =
        memoryAnswers memory (arrival :: arrivals) ↔
      (Relation.answer arrangement arrival.now arrival.freshId arrival.call relation).1 =
          (memory.respond arrival.now arrival.freshId arrival.call).1 ∧
        (relation.after arrangement arrival).answers arrangement arrivals =
          memoryAnswers (memory.after arrival) arrivals := by
  rw [Relation.answers, memoryAnswers, List.cons.injEq, Sigma.mk.injEq]
  simp only [heq_eq_eq, true_and]

theorem agreeThroughout_nil_iff :
    AgreeThroughout arrangement memory relation [] ↔
      ∀ id, relation.answers arrangement [lookUp id] = memoryAnswers memory [lookUp id] := by
  constructor
  · intro agree
    exact agree [] [] rfl
  · intro agree earlier later split
    rcases List.append_eq_nil_iff.mp split.symm with ⟨rfl, -⟩
    exact agree

theorem agreeThroughout_cons_iff :
    AgreeThroughout arrangement memory relation (arrival :: arrivals) ↔
      AgreeThroughout arrangement memory relation [] ∧
        (Relation.answer arrangement arrival.now arrival.freshId arrival.call relation).1 =
          (memory.respond arrival.now arrival.freshId arrival.call).1 ∧
        AgreeThroughout arrangement (memory.after arrival) (relation.after arrangement arrival)
          arrivals := by
  constructor
  · intro agree
    refine ⟨agreeThroughout_nil_iff.mpr (agree [] _ rfl),
      (answers_cons_eq_iff.mp (agree [arrival] arrivals rfl default)).left, ?_⟩
    intro earlier later split id
    exact (answers_cons_eq_iff.mp (agree (arrival :: earlier) later (by rw [split]; rfl) id)).right
  · rintro ⟨first, same, rest⟩ earlier later split id
    cases earlier with
    | nil => exact agreeThroughout_nil_iff.mp first id
    | cons next earlier =>
        rcases List.cons.inj split with ⟨rfl, splitRest⟩
        exact answers_cons_eq_iff.mpr ⟨same, rest earlier later splitRest id⟩

theorem AgreeThroughout.answers_eq (agree : AgreeThroughout arrangement memory relation arrivals) :
    relation.answers arrangement arrivals = memoryAnswers memory arrivals := by
  induction arrivals generalizing memory relation with
  | nil => rfl
  | cons arrival arrivals induction =>
      rcases agreeThroughout_cons_iff.mp agree with ⟨-, same, rest⟩
      exact answers_cons_eq_iff.mpr ⟨same, induction rest⟩

theorem AgreeThroughout.nil_of_self (agree : AgreeThroughout arrangement memory relation arrivals) :
    AgreeThroughout arrangement memory relation [] :=
  agreeThroughout_nil_iff.mpr (agree [] arrivals rfl)

end Runs

namespace Mirrors

variable {arrangement : Json.Arrangement} {memory : Memory} {relation : Relation}
  (mirrors : Mirrors arrangement memory relation)
include mirrors

theorem agreeThroughout_nil : AgreeThroughout arrangement memory relation [] := by
  rw [agreeThroughout_nil_iff]
  intro id
  have fresh : memory.IsFresh (lookUp id).freshId (lookUp id).call := nofun
  exact answers_cons_eq_iff.mpr
    ⟨(mirrors.goOn_answer (isKeptArrival_lookUp id) fresh trivial).left, rfl⟩

theorem answer_ne_of_isStray {now : Instant} {freshId : Account.Id} {account : Account}
    (stray : IsStray memory account) (storable : (Statement.update account now).complaint? = none) :
    (Relation.answer arrangement now freshId (.update account) relation).1 ≠
      (memory.respond now freshId (.update account)).1 := by
  rcases stray with ⟨absent, taken⟩
  rcases Option.ne_none_iff_exists'.mp taken with ⟨field, conflict⟩
  show ((update now account).run (Relation.respond arrangement) relation).1 ≠
    (memory.update now account).1
  rw [Relation.update_run, storable, (mirrors.selected_eq_nil_iff account.id).mpr absent,
    Memory.update, conflict]
  intro same
  cases same

theorem find_after_replace (unique : memory.IsUnique) {row : Store.Row}
    (member : row ∈ memory.rows) {account : Account} (same : row.account.id = account.id)
    {now : Instant} (whole : now.isWhole = true) :
    (find "find_by_id" (.id account.id)).run (Relation.respond arrangement)
        (relation.replace arrangement account now) =
      (.ok { account with updatedAt := now, createdAt := row.account.createdAt },
        relation.replace arrangement account now) := by
  have selected : (relation.selected (.id account.id)).head? =
      some (Tuple.ofRow arrangement row) := by
    rw [mirrors.head?_selected, ← same]
    exact congrArg (Option.map _) (unique.ids.find?_eq member)
  have read : ((Tuple.ofRow arrangement row).updated arrangement account now).accountRow.account =
      .ok { account with
        id := row.account.id, updatedAt := now, createdAt := row.account.createdAt } :=
    Tuple.account_accountRow (Account.Status.ofNumber?_number account.status)
      (Account.Meta.ofJson?_arrange arrangement account.details)
      (Instant.ofDatabaseMicroseconds?_of_isWhole (mirrors.created row member))
      (Instant.ofDatabaseMicroseconds?_of_isWhole whole)
  have storable : (Lookup.id account.id).value.complaint? = none := rfl
  rw [Relation.find_run _ _ _ storable, Relation.selected_replace, List.head?_map, selected,
    Option.map_some]
  dsimp only
  rw [read, same]

theorem not_agree_of_backdates (unique : memory.IsUnique) {now : Instant} {freshId : Account.Id}
    {account : Account} (backdates : Backdates memory account)
    (storable : (Statement.update account now).complaint? = none) (whole : now.isWhole = true) :
    ¬ AgreeThroughout arrangement (memory.after ⟨.update account, now, freshId⟩)
      (relation.after arrangement ⟨.update account, now, freshId⟩) [] := by
  rcases backdates with ⟨free, row, member, same, different⟩
  rcases mirrors.update_of_free storable free member same with ⟨database, inMemory⟩
  have loaded : memory.find (fun other => other.id == account.id) = .ok row.account := by
    rw [← same]
    exact unique.ids.find_eq member
  have replaced : (memory.replace { account with updatedAt := now }).find
      (fun other => other.id == account.id) = .ok { account with updatedAt := now } :=
    Memory.find_replace loaded
  intro agree
  have agreeNext := (answers_cons_eq_iff.mp (agreeThroughout_nil_iff.mp agree account.id)).left
  have sameNext :
      ((find "find_by_id" (.id account.id)).run (Relation.respond arrangement)
        ((update now account).run (Relation.respond arrangement) relation).2).1 =
      (memory.update now account).2.find fun other => other.id == account.id := agreeNext
  rw [database, inMemory, mirrors.find_after_replace unique member same whole, replaced] at sameNext
  have sameTime := congrArg Account.createdAt (Except.ok.inj sameNext)
  exact different sameTime

theorem isRegular_iff (unique : memory.IsUnique) {arrival : Arrival}
    (kept : IsKeptArrival arrival) (fresh : memory.IsFresh arrival.freshId arrival.call) :
    IsRegular memory arrival.call ↔
      (Relation.answer arrangement arrival.now arrival.freshId arrival.call relation).1 =
          (memory.respond arrival.now arrival.freshId arrival.call).1 ∧
        AgreeThroughout arrangement (memory.after arrival) (relation.after arrangement arrival)
          [] := by
  constructor
  · intro regular
    rcases mirrors.goOn_answer kept fresh regular with ⟨same, mirrorsAfter⟩
    exact ⟨same, mirrorsAfter.agreeThroughout_nil⟩
  · rintro ⟨same, agree⟩
    rcases arrival with ⟨call, now, freshId⟩
    cases call with
    | update account =>
        rcases kept.updatable with ⟨storable, whole, -⟩
        refine ⟨fun stray => ?_, fun backdates => ?_⟩
        · exact mirrors.answer_ne_of_isStray stray storable same
        · exact mirrors.not_agree_of_backdates unique backdates storable whole agree
    | _ => trivial

end Mirrors

theorem Mirrors.allRegular_iff {arrangement : Json.Arrangement} {memory : Memory}
    {relation : Relation} (mirrors : Mirrors arrangement memory relation)
    (unique : memory.IsUnique) {arrivals : List Arrival}
    (kept : ∀ arrival ∈ arrivals, IsKeptArrival arrival) (fresh : memory.AllFresh arrivals) :
    AllRegular memory arrivals ↔ AgreeThroughout arrangement memory relation arrivals := by
  induction arrivals generalizing memory relation with
  | nil => exact iff_of_true trivial mirrors.agreeThroughout_nil
  | cons arrival arrivals induction =>
      rw [List.forall_mem_cons] at kept
      have step := mirrors.isRegular_iff unique kept.left fresh.left
      have uniqueAfter := unique.respond arrival.now fresh.left
      constructor
      · rintro ⟨regular, rest⟩
        have mirrorsAfter := (mirrors.goOn_answer kept.left fresh.left regular).right
        exact agreeThroughout_cons_iff.mpr ⟨mirrors.agreeThroughout_nil, (step.mp regular).left,
          (induction mirrorsAfter uniqueAfter kept.right fresh.right).mp rest⟩
      · intro agree
        rcases agreeThroughout_cons_iff.mp agree with ⟨-, same, rest⟩
        have regular := step.mpr ⟨same, rest.nil_of_self⟩
        have mirrorsAfter := (mirrors.goOn_answer kept.left fresh.left regular).right
        exact ⟨regular, (induction mirrorsAfter uniqueAfter kept.right fresh.right).mpr rest⟩

/-- Two stores that begin with nothing give the same answers to the same calls as long as no update
parts them, and whoever looks accounts up in between finds the same ones; no other calls leave it
so. -/
theorem stores_agree_exactly (arrangement : Json.Arrangement) {arrivals : List Arrival}
    (kept : ∀ arrival ∈ arrivals, IsKeptArrival arrival) (fresh : Memory.AllFresh {} arrivals) :
    (AllRegular {} arrivals →
        Relation.answers arrangement {} arrivals = memoryAnswers {} arrivals) ∧
      (AllRegular {} arrivals ↔ AgreeThroughout arrangement {} {} arrivals) := by
  have both := (mirrors_empty arrangement).allRegular_iff Memory.isUnique_empty kept fresh
  exact ⟨fun regular => (both.mp regular).answers_eq, both⟩

/-! Ada enters and changes her name. Others update an account that has never been there, or say that
hers is younger than it is. -/

def entrant : NewAccount :=
  { name := "Ada", email := "ada@example.com", phoneNumber := "+2348000000001", passwordHash := ""
    status := .active, details := {}, createdAt := .epoch, updatedAt := .epoch }

def entry : Arrival :=
  { call := .create entrant, now := .epoch, freshId := default }

def changing (account : Account) : Arrival :=
  { call := .update account, now := .epoch, freshId := default }

def entered : Account := entrant.withId default

def stranger : Account := entrant.withId (.ofNat 1)

def rejuvenated : Account := { entered with createdAt := ⟨1, 0, by decide⟩ }

/-- To one store the stranger is not there, to the other one the email is taken; and the stores
find different accounts after the other update. -/
theorem updates_part_stores :
    ((∀ arrival ∈ [entry, changing stranger], IsKeptArrival arrival) ∧
      Memory.AllFresh {} [entry, changing stranger] ∧
      Relation.answers .asWritten {} [entry, changing stranger] =
        [⟨entry.call, .ok entered⟩, ⟨.update stranger, .error .noRows⟩] ∧
      memoryAnswers {} [entry, changing stranger] =
        [⟨entry.call, .ok entered⟩, ⟨.update stranger, .error (.uniqueViolation .email)⟩]) ∧
    (∀ arrival ∈ [entry, changing rejuvenated, lookUp default], IsKeptArrival arrival) ∧
      Memory.AllFresh {} [entry, changing rejuvenated, lookUp default] ∧
      Relation.answers .asWritten {} [entry, changing rejuvenated, lookUp default] =
        [⟨entry.call, .ok entered⟩, ⟨.update rejuvenated, .ok rejuvenated⟩,
          ⟨.findById default, .ok entered⟩] ∧
      memoryAnswers {} [entry, changing rejuvenated, lookUp default] =
        [⟨entry.call, .ok entered⟩, ⟨.update rejuvenated, .ok rejuvenated⟩,
          ⟨.findById default, .ok rejuvenated⟩] :=
  ⟨⟨by decide, by decide, rfl, rfl⟩, by decide, by decide, rfl, rfl⟩

theorem name_change_keeps_stores_alike :
    let arrivals := [entry, changing { entered with name := "Ada Lovelace" }]
    (∀ arrival ∈ arrivals, IsKeptArrival arrival) ∧ Memory.AllFresh {} arrivals ∧
      AllRegular {} arrivals ∧
      Relation.answers .asWritten {} arrivals = memoryAnswers {} arrivals ∧
      AgreeThroughout .asWritten {} {} arrivals := by
  intro arrivals
  have kept : ∀ arrival ∈ arrivals, IsKeptArrival arrival := by decide
  have fresh : Memory.AllFresh {} arrivals := by decide
  have regular : AllRegular {} arrivals := by
    refine ⟨trivial, ⟨?_, ?_⟩, trivial⟩
    · rintro ⟨absent, -⟩
      exact absent _ (List.mem_singleton_self _) rfl
    · rintro ⟨-, row, member, -, different⟩
      rw [List.mem_singleton.mp member] at different
      exact different rfl
  rcases stores_agree_exactly .asWritten kept fresh with ⟨answers, both⟩
  exact ⟨kept, fresh, regular, answers regular, both.mp regular⟩

end Turnstile.Database
