import Turnstile.Database.Accounts
import Turnstile.Proofs.Dialogue
import Turnstile.Proofs.Store.InPlace
import Turnstile.Text.Split

/-!
Updates in a database of an account that its caller holds. Whatever comes back for the statement,
the caller's account has the time that was sent with it if the update is confirmed, and is as it was
if not.
-/

namespace Turnstile.Database

open Turnstile.Store Turnstile.Text Turnstile.Time

/-! ## Which column a parameter is for -/

/-- Where a word is followed by an equation sign and the number of a parameter: the word and the
number. -/
def equations : List (List Char) → List (String × Nat)
  | [] => []
  | column :: rest =>
      match rest with
      | ['='] :: ('$' :: number) :: _ =>
          (String.ofList column, Decimal.value (number.takeWhile Decimal.isDigit)) ::
            equations rest
      | _ => equations rest

/-- The columns that a statement sets or compares, each with its parameter, in the order of the
text. -/
def Statement.bindings (statement : Statement) : List (String × Value) :=
  (equations (splitAll ' ' statement.sql.toList)).filterMap fun (column, number) =>
    statement.parameters[number - 1]?.map fun value => (column, value)

/-- What the columns of an account hold. The time of its creation is written only once, when the
account is created. -/
def accountColumns (account : Account) : List (String × Value) :=
  [("name", .text account.name), ("email", .text account.email),
   ("phone_number", .text account.phoneNumber), ("status", .integer account.status.number),
   ("meta", .document account.details.toJson), ("updated_at", .ofInstant account.updatedAt),
   ("id", .uuid account.id)]

theorem equations_updateText :
    equations (splitAll ' ' Statement.updateText.toList) =
      [("name", 2), ("email", 3), ("phone_number", 4), ("status", 5), ("meta", 6),
       ("updated_at", 7), ("id", 1)] := by
  decide +kernel

theorem bindings_update (account : Account) (updatedAt : Instant) :
    (Statement.update account updatedAt).bindings = accountColumns { account with updatedAt } := by
  have text : (Statement.update account updatedAt).sql = Statement.updateText := rfl
  rw [Statement.bindings, text, equations_updateText]
  rfl

/-! ## Updates -/

def settle (now : Instant) (account : Account) (reply : Reply) :
    Except Store.Error Unit × Account :=
  match reply.outcome "update" with
  | .error error => (.error error, account)
  | .ok (_, affected) =>
      if affected = 0 then (.error .noRows, account)
      else (.ok (), { account with updatedAt := now })

theorem updateInPlace_on (now : Instant) (account : Account) :
    (updateInPlace now).on account =
      .ask (.update account now) fun reply => .done (settle now account reply) := by
  apply congrArg (Dialogue.ask _)
  funext reply
  cases reply with
  | result rows affected =>
      cases affected with
      | zero => rfl
      | succ count => rfl
  | _ => rfl

theorem update_eq_updateInPlace (now : Instant) (account : Account) :
    update now account =
      ((updateInPlace now).on account).mapFailure Empty.elim >>= fun (verdict, after) =>
        .ofExcept (verdict.map fun _ => after) := by
  rw [updateInPlace_on]
  apply congrArg (Dialogue.ask _)
  funext reply
  cases reply with
  | result rows affected =>
      cases affected with
      | zero => rfl
      | succ count => rfl
  | _ => rfl

def Reply.Confirms (reply : Reply) : Prop :=
  ∃ rows affected, reply = .result rows affected ∧ affected ≠ 0

/-- What a verdict says about the account that the caller holds and about the statements that were
sent. -/
def TellsTruth (now : Instant) (account : Account) :
    Except Store.Error Unit → Account → List Statement → Prop
  | .error _, after, _ => after = account
  | .ok (), after, statements =>
      after = { account with updatedAt := now } ∧
        statements = [.update account after.updatedAt] ∧
        statements.map Statement.bindings = [accountColumns after]

theorem settle_of_confirms (now : Instant) (account : Account) {reply : Reply}
    (confirms : reply.Confirms) :
    settle now account reply = (.ok (), { account with updatedAt := now }) := by
  rcases confirms with ⟨rows, affected, rfl, some⟩
  exact if_neg some

theorem settle_of_not_confirms (now : Instant) (account : Account) {reply : Reply}
    (denies : ¬ reply.Confirms) :
    ∃ error, settle now account reply = (.error error, account) := by
  cases reply with
  | result rows affected =>
      have none : affected = 0 := by_contra fun some => denies ⟨rows, affected, rfl, some⟩
      exact ⟨_, if_pos none⟩
  | _ => exact ⟨_, rfl⟩

theorem updateInPlace_tellsTruth {State : Type}
    (database : Dialogue.Responder Statement.Answer State) (state : State) (now : Instant)
    (account : Account) :
    ∃ verdict after,
      (((updateInPlace now).on account).run database state).1 = .ok (verdict, after) ∧
        ((update now account).run database state).1 = (verdict.map fun _ => after) ∧
        (verdict = .ok () ↔ Reply.Confirms (database (.update account now) state).1) ∧
        TellsTruth now account verdict after
          (((updateInPlace now).on account).asked database state) := by
  have ran : (((updateInPlace now).on account).run database state).1 =
      .ok (settle now account (database (.update account now) state).1) := by
    rw [updateInPlace_on]
    rfl
  have given : ((update now account).run database state).1 =
      (settle now account (database (.update account now) state).1).1.map
        fun _ => (settle now account (database (.update account now) state).1).2 := by
    rw [update_eq_updateInPlace, updateInPlace_on]
    exact congrArg Prod.fst (Dialogue.run_ofExcept database _ _)
  have asked : ((updateInPlace now).on account).asked database state = [.update account now] := by
    rw [updateInPlace_on]
    rfl
  rw [ran, given, asked]
  by_cases confirms : Reply.Confirms (database (.update account now) state).1
  · rw [settle_of_confirms now account confirms]
    exact ⟨_, _, rfl, rfl, iff_of_true rfl confirms, rfl, rfl,
      congrArg (fun bindings => [bindings]) (bindings_update account now)⟩
  · rcases settle_of_not_confirms now account confirms with ⟨error, settled⟩
    rw [settled]
    exact ⟨_, _, rfl, rfl, iff_of_false (by simp) confirms, rfl⟩

/-- Whatever the rows in memory are and whatever a database replies, the account that the caller
holds is as it was after a refusal. After a success it differs in the time of its update only: that
is the present, and it is what has been stored with the rest of the account. -/
theorem updates_in_place_tell_truth (now : Instant) (account : Account) :
    (∀ memory : Memory, ∃ verdict after later,
      ((Memory.updateInPlace now).on account).run memory = ((verdict, after), later) ∧
        memory.update now account = (verdict.map fun _ => after, later) ∧
        (verdict = .ok () ↔ memory.HasRoomFor account) ∧
        memory.TellsTruth now account verdict after later) ∧
    ∀ (State : Type) (database : Dialogue.Responder Statement.Answer State) (state : State),
      ∃ verdict after,
        (((updateInPlace now).on account).run database state).1 = .ok (verdict, after) ∧
          ((update now account).run database state).1 = (verdict.map fun _ => after) ∧
          (verdict = .ok () ↔ Reply.Confirms (database (.update account now) state).1) ∧
          TellsTruth now account verdict after
            (((updateInPlace now).on account).asked database state) :=
  ⟨fun memory => memory.updateInPlace_tellsTruth now account,
    fun _ database state => updateInPlace_tellsTruth database state now account⟩

end Turnstile.Database
