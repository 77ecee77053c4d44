import Mathlib.Data.List.Nodup
import Turnstile.Proofs.Store.Memory

/-!
What is unique in a store in memory. No two of its rows share an identifier, an email or a phone
number, and no call changes that if an account that is created gets an identifier of its own. So a
look-up has one row to find or none, and its answer does not depend on the order of the rows.
-/

namespace Turnstile.Store

open Turnstile.Time

namespace Memory

section Fields

variable {Value : Type}

def Separates (memory : Memory) (field : Account → Value) : Prop :=
  (memory.rows.map fun row => field row.account).Nodup

theorem Separates.eq_of_mem {memory : Memory} {field : Account → Value}
    (separate : memory.Separates field) {left right : Row} (leftMember : left ∈ memory.rows)
    (rightMember : right ∈ memory.rows) (same : field left.account = field right.account) :
    left = right :=
  List.inj_on_of_nodup_map separate leftMember rightMember same

theorem Separates.of_perm {left right : Memory} {field : Account → Value}
    (separate : left.Separates field) (same : left.rows.Perm right.rows) :
    right.Separates field :=
  (same.map _).nodup_iff.mp separate

theorem Separates.insert {memory : Memory} {field : Account → Value}
    (separate : memory.Separates field) {row : Row}
    (free : ∀ other ∈ memory.rows, field other.account ≠ field row.account) :
    (memory.insert row).Separates field := by
  rw [Separates, Memory.insert, List.map_append, List.map_singleton, List.nodup_append]
  refine ⟨separate, List.nodup_singleton _, ?_⟩
  intro value member other single
  rcases List.mem_map.mp member with ⟨holder, holderMember, rfl⟩
  rw [List.mem_singleton.mp single]
  exact free holder holderMember

theorem Separates.replace {memory : Memory} {field : Account → Value}
    (ids : memory.Separates Account.id) (separate : memory.Separates field) {account : Account}
    (free : ∀ row ∈ memory.rows, row.account.id ≠ account.id →
      field row.account ≠ field account) :
    (memory.replace account).Separates field := by
  rw [Separates, Memory.replace, List.map_map]
  apply List.Nodup.map_on
  · intro left leftMember right rightMember same
    simp only [Function.comp_apply] at same
    by_cases replacedLeft : left.account.id = account.id
    · by_cases replacedRight : right.account.id = account.id
      · exact ids.eq_of_mem leftMember rightMember (replacedLeft.trans replacedRight.symm)
      · rw [if_pos replacedLeft, if_neg replacedRight] at same
        exact absurd same.symm (free right rightMember replacedRight)
    · by_cases replacedRight : right.account.id = account.id
      · rw [if_neg replacedLeft, if_pos replacedRight] at same
        exact absurd same (free left leftMember replacedLeft)
      · rw [if_neg replacedLeft, if_neg replacedRight] at same
        exact separate.eq_of_mem leftMember rightMember same
  · exact separate.of_map _

variable [DecidableEq Value]

theorem Separates.find?_eq {memory : Memory} {field : Account → Value}
    (separate : memory.Separates field) {row : Row} (member : row ∈ memory.rows) :
    memory.rows.find? (fun other => field other.account == field row.account) = some row := by
  cases found : memory.rows.find? fun other => field other.account == field row.account with
  | none =>
      have absent := List.find?_eq_none.mp found row member
      exact absurd (beq_self_eq_true _) absent
  | some other =>
      have same := List.find?_some found
      exact congrArg some
        (separate.eq_of_mem (List.mem_of_find?_eq_some found) member (eq_of_beq same))

theorem find?_eq_none {memory : Memory} {field : Account → Value} {value : Value}
    (absent : ∀ row ∈ memory.rows, field row.account ≠ value) :
    memory.rows.find? (fun row => field row.account == value) = none := by
  rw [List.find?_eq_none]
  intro row member same
  exact absent row member (eq_of_beq same)

theorem Separates.find_eq {memory : Memory} {field : Account → Value}
    (separate : memory.Separates field) {row : Row} (member : row ∈ memory.rows) :
    memory.find (fun account => field account == field row.account) = .ok row.account := by
  rw [find, separate.find?_eq member]

theorem find_eq_noRows {memory : Memory} {field : Account → Value} {value : Value}
    (absent : ∀ row ∈ memory.rows, field row.account ≠ value) :
    memory.find (fun account => field account == value) = .error .noRows := by
  rw [find, find?_eq_none absent]

end Fields

theorem Separates.credentials_eq {memory : Memory} (separate : memory.Separates Account.email)
    {row : Row} (member : row ∈ memory.rows) :
    memory.credentials row.account.email =
      .ok { id := row.account.id, email := row.account.email
            passwordHash := row.passwordHash } := by
  rw [credentials, separate.find?_eq member]

theorem credentials_eq_noRows {memory : Memory} {email : String}
    (absent : ∀ row ∈ memory.rows, row.account.email ≠ email) :
    memory.credentials email = .error .noRows := by
  rw [credentials, find?_eq_none absent]

structure IsUnique (memory : Memory) : Prop where
  ids : memory.Separates Account.id
  emails : memory.Separates Account.email
  phoneNumbers : memory.Separates Account.phoneNumber

theorem isUnique_empty : IsUnique {} :=
  ⟨List.nodup_nil, List.nodup_nil, List.nodup_nil⟩

theorem conflict?_eq (memory : Memory) (skipped : Option Account.Id) (email phoneNumber : String) :
    memory.conflict? skipped email phoneNumber =
      if ∃ row ∈ memory.rows, some row.account.id ≠ skipped ∧ row.account.email = email then
        some .email
      else if ∃ row ∈ memory.rows,
          some row.account.id ≠ skipped ∧ row.account.phoneNumber = phoneNumber then
        some .phoneNumber
      else none := by
  simp only [conflict?, List.any_filter, List.any_eq_true, Bool.and_eq_true, bne_iff_ne,
    beq_iff_eq]

theorem free_of_conflict? {memory : Memory} {skipped : Option Account.Id}
    {email phoneNumber : String} (free : memory.conflict? skipped email phoneNumber = none)
    {row : Row} (member : row ∈ memory.rows) (other : some row.account.id ≠ skipped) :
    row.account.email ≠ email ∧ row.account.phoneNumber ≠ phoneNumber := by
  rw [conflict?_eq] at free
  split at free
  · cases free
  · rename_i email
    split at free
    · cases free
    · rename_i phoneNumber
      exact ⟨fun same => email ⟨row, member, other, same⟩,
        fun same => phoneNumber ⟨row, member, other, same⟩⟩

/-! What an account would meet that is new here. -/

def HasEmail (memory : Memory) (email : String) : Prop :=
  ∃ row ∈ memory.rows, row.account.email = email

def HasPhoneNumber (memory : Memory) (phoneNumber : String) : Prop :=
  ∃ row ∈ memory.rows, row.account.phoneNumber = phoneNumber

theorem conflict?_of_hasEmail {memory : Memory} {email : String} (taken : memory.HasEmail email)
    (phoneNumber : String) : memory.conflict? none email phoneNumber = some .email := by
  rcases taken with ⟨row, member, same⟩
  rw [conflict?_eq]
  exact if_pos ⟨row, member, by simp, same⟩

theorem conflict?_of_hasPhoneNumber {memory : Memory} {email phoneNumber : String}
    (free : ¬ memory.HasEmail email) (taken : memory.HasPhoneNumber phoneNumber) :
    memory.conflict? none email phoneNumber = some .phoneNumber := by
  rcases taken with ⟨row, member, same⟩
  rw [conflict?_eq, if_neg]
  · exact if_pos ⟨row, member, by simp, same⟩
  · rintro ⟨other, otherMember, -, sameEmail⟩
    exact free ⟨other, otherMember, sameEmail⟩

theorem conflict?_of_free {memory : Memory} {email phoneNumber : String}
    (freeEmail : ¬ memory.HasEmail email) (freePhoneNumber : ¬ memory.HasPhoneNumber phoneNumber) :
    memory.conflict? none email phoneNumber = none := by
  rw [conflict?_eq, if_neg, if_neg]
  · rintro ⟨row, member, -, same⟩
    exact freePhoneNumber ⟨row, member, same⟩
  · rintro ⟨row, member, -, same⟩
    exact freeEmail ⟨row, member, same⟩

theorem requireVacant_eq (memory : Memory) (email phoneNumber : String) :
    memory.requireVacant email phoneNumber =
      if ∃ row ∈ memory.rows, row.account.email = email then
        .error (.uniqueViolation .email)
      else if ∃ row ∈ memory.rows, row.account.phoneNumber = phoneNumber then
        .error (.uniqueViolation .phoneNumber)
      else .ok () := by
  rw [requireVacant, conflict?_eq]
  simp only [ne_eq, reduceCtorEq, not_false_eq_true, true_and]
  by_cases email : ∃ row ∈ memory.rows, row.account.email = email
  · rw [if_pos email, if_pos email]
  · rw [if_neg email, if_neg email]
    by_cases phoneNumber : ∃ row ∈ memory.rows, row.account.phoneNumber = phoneNumber
    · rw [if_pos phoneNumber, if_pos phoneNumber]
    · rw [if_neg phoneNumber, if_neg phoneNumber]

theorem IsUnique.create {memory : Memory} (unique : memory.IsUnique) {id : Account.Id}
    (fresh : ∀ row ∈ memory.rows, row.account.id ≠ id) (account : NewAccount) :
    (memory.create id account).2.IsUnique := by
  rw [Memory.create]
  cases free : memory.conflict? none account.email account.phoneNumber with
  | some field => exact unique
  | none =>
      refine ⟨unique.ids.insert fresh, unique.emails.insert ?_, unique.phoneNumbers.insert ?_⟩
      · intro row member
        exact (free_of_conflict? free member (by simp)).left
      · intro row member
        exact (free_of_conflict? free member (by simp)).right

theorem IsUnique.update {memory : Memory} (unique : memory.IsUnique) (now : Instant)
    (account : Account) : (memory.update now account).2.IsUnique := by
  rw [Memory.update]
  cases free : memory.conflict? (some account.id) account.email account.phoneNumber with
  | some field => exact unique
  | none =>
      dsimp only
      split
      · refine ⟨unique.ids.replace unique.ids ?_, unique.ids.replace unique.emails ?_,
          unique.ids.replace unique.phoneNumbers ?_⟩
        · intro row member other
          exact other
        · intro row member other
          exact (free_of_conflict? free member (by simpa using other)).left
        · intro row member other
          exact (free_of_conflict? free member (by simpa using other)).right
      · exact unique

/-- The identifier that a call brings is free, if the call may need it. -/
def IsFresh (memory : Memory) (freshId : Account.Id) (call : Call) : Prop :=
  call.method = .create → ∀ row ∈ memory.rows, row.account.id ≠ freshId

instance (memory : Memory) (freshId : Account.Id) (call : Call) :
    Decidable (memory.IsFresh freshId call) :=
  inferInstanceAs (Decidable (_ → _))

theorem IsUnique.respond {memory : Memory} (unique : memory.IsUnique) (now : Instant)
    {freshId : Account.Id} {call : Call} (fresh : memory.IsFresh freshId call) :
    (respond now freshId call memory).2.IsUnique := by
  cases call with
  | create account => exact unique.create (fresh rfl) account
  | update account => exact unique.update now account
  | _ => exact unique

end Memory

/-- What is said about these rows whatever order they stand in: each is found by its identifier,
its email and its phone number, other values belong to nobody, and a value is vacant if no row has
it. -/
structure AnswersFor (rows : List Row) (answer : (call : Call) → call.Answer) : Prop where
  findById : ∀ row ∈ rows, answer (.findById row.account.id) = .ok row.account
  findByEmail : ∀ row ∈ rows, answer (.findByEmail row.account.email) = .ok row.account
  findByPhoneNumber : ∀ row ∈ rows,
    answer (.findByPhoneNumber row.account.phoneNumber) = .ok row.account
  authenticate : ∀ row ∈ rows, answer (.authenticate row.account.email) =
    .ok { id := row.account.id, email := row.account.email, passwordHash := row.passwordHash }
  unknownId : ∀ id, (∀ row ∈ rows, row.account.id ≠ id) →
    answer (.findById id) = .error .noRows
  unknownEmail : ∀ email, (∀ row ∈ rows, row.account.email ≠ email) →
    answer (.findByEmail email) = .error .noRows ∧ answer (.authenticate email) = .error .noRows
  unknownPhoneNumber : ∀ phoneNumber, (∀ row ∈ rows, row.account.phoneNumber ≠ phoneNumber) →
    answer (.findByPhoneNumber phoneNumber) = .error .noRows
  requireVacant : ∀ email phoneNumber, answer (.requireVacant email phoneNumber) =
    if ∃ row ∈ rows, row.account.email = email then .error (.uniqueViolation .email)
    else if ∃ row ∈ rows, row.account.phoneNumber = phoneNumber then
      .error (.uniqueViolation .phoneNumber)
    else .ok ()

theorem AnswersFor.congr {rows : List Row} {left right : (call : Call) → call.Answer}
    (answers : AnswersFor rows left) (same : ∀ call, call.IsRead → right call = left call) :
    AnswersFor rows right where
  findById row member := (same (.findById _) rfl).trans (answers.findById row member)
  findByEmail row member := (same (.findByEmail _) rfl).trans (answers.findByEmail row member)
  findByPhoneNumber row member :=
    (same (.findByPhoneNumber _) rfl).trans (answers.findByPhoneNumber row member)
  authenticate row member := (same (.authenticate _) rfl).trans (answers.authenticate row member)
  unknownId id absent := (same (.findById id) rfl).trans (answers.unknownId id absent)
  unknownEmail email absent :=
    ⟨(same (.findByEmail email) rfl).trans (answers.unknownEmail email absent).left,
      (same (.authenticate email) rfl).trans (answers.unknownEmail email absent).right⟩
  unknownPhoneNumber phoneNumber absent :=
    (same (.findByPhoneNumber phoneNumber) rfl).trans
      (answers.unknownPhoneNumber phoneNumber absent)
  requireVacant email phoneNumber :=
    (same (.requireVacant email phoneNumber) rfl).trans (answers.requireVacant email phoneNumber)

theorem Memory.IsUnique.answersFor {memory : Memory} (unique : memory.IsUnique) (now : Instant)
    (freshId : Account.Id) :
    AnswersFor memory.rows fun call => (memory.respond now freshId call).1 where
  findById _ member := unique.ids.find_eq member
  findByEmail _ member := unique.emails.find_eq member
  findByPhoneNumber _ member := unique.phoneNumbers.find_eq member
  authenticate _ member := unique.emails.credentials_eq member
  unknownId _ absent := Memory.find_eq_noRows absent
  unknownEmail _ absent := ⟨Memory.find_eq_noRows absent, Memory.credentials_eq_noRows absent⟩
  unknownPhoneNumber _ absent := Memory.find_eq_noRows absent
  requireVacant email phoneNumber := memory.requireVacant_eq email phoneNumber

end Turnstile.Store
