import Turnstile.Proofs.Database.Relation
import Turnstile.Proofs.Password.Hash
import Turnstile.Proofs.Rpc.Registration

/-!
What a passed check of vacancy is worth. The check asks for rows that are not deleted; the
constraints of the table count deleted rows too. So an email or a phone number that is free for the
check can still be refused when the account is created, and it is refused exactly if a deleted row
has kept it.
-/

namespace Turnstile.Database.Relation

open Turnstile.Store

def isRetained (relation : Relation) (key : Lookup) : Bool :=
  relation.tuples.any fun tuple => !tuple.isLive && tuple.meets key

theorem any_meets_of_unselected {relation : Relation} {key : Lookup}
    (unselected : relation.selected key = []) :
    (relation.tuples.any fun tuple => tuple.meets key) = relation.isRetained key := by
  rw [selected, List.filter_eq_nil_iff] at unselected
  rw [isRetained, Bool.eq_iff_iff, List.any_eq_true, List.any_eq_true]
  constructor
  · rintro ⟨tuple, member, meets⟩
    have deleted := unselected tuple member
    rw [Tuple.isSelectedBy, meets, Bool.and_true] at deleted
    exact ⟨tuple, member, by rw [meets, Bool.eq_false_iff.mpr deleted]; rfl⟩
  · rintro ⟨tuple, member, retains⟩
    exact ⟨tuple, member, (Bool.and_eq_true_iff.mp retains).right⟩

theorem checks_eq_ok_iff {first second : Except Error Bool} {left right : Error} :
    (do
      if ← first then .error left
      else if ← second then .error right
      else .ok () : Except Error Unit) = .ok () ↔ first = .ok false ∧ second = .ok false := by
  rcases first with error | isTaken
  · exact iff_of_false nofun nofun
  · cases isTaken with
    | true => exact iff_of_false nofun nofun
    | false =>
        rcases second with error | isTaken
        · exact iff_of_false nofun nofun
        · cases isTaken with
          | true => exact iff_of_false nofun nofun
          | false => exact iff_of_true rfl ⟨rfl, rfl⟩

section Check

variable {arrangement : Json.Arrangement} {relation after : Relation} {email phoneNumber : String}
  (passed : (requireVacant email phoneNumber).run (respond arrangement) relation = (.ok (), after))
include passed

theorem taken_of_passed :
    relation.taken "exists" (.email email) = .ok false ∧
      relation.taken "exists" (.phoneNumber phoneNumber) = .ok false := by
  rw [requireVacant_run, Prod.mk.injEq] at passed
  exact checks_eq_ok_iff.mp passed.left

variable {freshId : Account.Id} (fresh : ∀ tuple ∈ relation.tuples, tuple.id ≠ freshId)
include fresh

theorem collision?_of_passed {account : NewAccount} (sameEmail : account.email = email)
    (samePhoneNumber : account.phoneNumber = phoneNumber) :
    collision? relation.tuples (Tuple.ofNew arrangement freshId account).keys =
      if relation.isRetained (.email email) then some (.email email)
      else if relation.isRetained (.phoneNumber phoneNumber) then some (.phoneNumber phoneNumber)
      else none := by
  rcases taken_of_passed passed with ⟨emailFree, phoneNumberFree⟩
  have noEmail := any_meets_of_unselected ((taken_eq_ok_false_iff ..).mp emailFree).right
  have noPhoneNumber :=
    any_meets_of_unselected ((taken_eq_ok_false_iff ..).mp phoneNumberFree).right
  show collision? relation.tuples [.id freshId, .email account.email,
    .phoneNumber account.phoneNumber] = _
  rw [collision?_of_fresh fresh, sameEmail, samePhoneNumber, collision?_contacts, noEmail,
    noPhoneNumber]

theorem create_of_passed {account : NewAccount} (sameEmail : account.email = email)
    (samePhoneNumber : account.phoneNumber = phoneNumber) :
    (create freshId account).run (respond arrangement) relation =
      match (Statement.insert freshId account).complaint? with
      | some complaint => (.error (complaint.toError "create"), relation)
      | none =>
          if relation.isRetained (.email email) then
            (.error (.uniqueViolation .email), relation)
          else if relation.isRetained (.phoneNumber phoneNumber) then
            (.error (.uniqueViolation .phoneNumber), relation)
          else
            (.ok (account.withId freshId),
              { tuples := relation.tuples ++ [.ofNew arrangement freshId account] }) := by
  rw [create_run, collision?_of_passed passed fresh sameEmail samePhoneNumber]
  cases (Statement.insert freshId account).complaint? with
  | some complaint => rfl
  | none =>
      cases relation.isRetained (.email email) with
      | true => rfl
      | false => cases relation.isRetained (.phoneNumber phoneNumber) <;> rfl

end Check

/-! ## Registrations -/

open Turnstile.Auth Turnstile.Rpc Turnstile.Wire

/-- A registration with which nothing is wrong, from a name and at a time that can be kept. -/
structure Reaches (moment : Moment) (request : Request) (query : RegisterRequest)
    (salt : Password.Salt) : Prop where
  applies : Applies request query
  salted : moment.salt = some salt
  name : isPlainText query.name = true
  time : (Value.ofInstant moment.now).complaint? = none

def newcomer (moment : Moment) (query : RegisterRequest) (salt : Password.Salt) : NewAccount :=
  (registrationOf query).newAccount moment.now (Password.hash salt query.password)

theorem isPlainText_hash (salt : Password.Salt) (password : String) :
    isPlainText (Password.hash salt password) = true := by
  rw [isPlainText, List.contains_eq_mem, Bool.not_eq_true', decide_eq_false_iff_not]
  exact Password.not_mem_hash ⟨rfl, rfl⟩ (by decide) salt password

theorem Reaches.complaint? {moment : Moment} {request : Request} {query : RegisterRequest}
    {salt : Password.Salt} (reaches : Reaches moment request query salt)
    (email : isPlainText query.email = true) (phoneNumber : isPlainText query.phoneNumber = true)
    (freshId : Account.Id) :
    (Statement.insert freshId (newcomer moment query salt)).complaint? = none :=
  Statement.complaint?_insert reaches.name email phoneNumber (isPlainText_hash salt query.password)
    (show Account.Meta.toJson {} |>.texts.all isPlainText by decide) reaches.time reaches.time

theorem serve_of_passed {arrangement : Json.Arrangement} {relation : Relation}
    {query : RegisterRequest}
    (passed : (requireVacant query.email query.phoneNumber).run (respond arrangement) relation =
      (.ok (), relation))
    {moment : Moment} {request : Request} {salt : Password.Salt}
    (reaches : Reaches moment request query salt) (issuer : Issuer) (instant : Time.Instant)
    (freshId : Account.Id) :
    ((serve issuer moment request).run (answer arrangement instant freshId) relation).1 =
      match ((create freshId (newcomer moment query salt)).run (respond arrangement) relation).1 with
      | .ok account => registered (issuer.grant moment account)
      | .error error => .error (.ofError (.ofStore error)) := by
  rw [serve_of_applies issuer moment reaches.applies]
  show ((afterVacancy issuer moment query
    ((requireVacant query.email query.phoneNumber).run (respond arrangement) relation).1).run
      (answer arrangement instant freshId)
      ((requireVacant query.email query.phoneNumber).run (respond arrangement) relation).2).1 = _
  rw [passed, afterVacancy, Registration.passwordHash, reaches.salted]
  show ((afterCreation issuer moment
    ((create freshId (newcomer moment query salt)).run (respond arrangement) relation).1).run
      (answer arrangement instant freshId)
      ((create freshId (newcomer moment query salt)).run (respond arrangement) relation).2).1 = _
  rcases (create freshId (newcomer moment query salt)).run (respond arrangement) relation with
    ⟨created, after⟩
  cases created with
  | error error => rfl
  | ok account => exact congrArg Prod.fst (Dialogue.run_ofExcept ..)

/-- Between a passed check and the creation nothing stands in the way but deleted rows: an account
is refused exactly if one of them has its email or its phone number. Then a registration is told
that its email or its phone number is in use, though nobody has it. -/
theorem only_deleted_rows_are_overlooked (arrangement : Json.Arrangement) (relation : Relation)
    {email phoneNumber : String}
    (passed : (requireVacant email phoneNumber).run (respond arrangement) relation =
      (.ok (), relation))
    {freshId : Account.Id} (fresh : ∀ tuple ∈ relation.tuples, tuple.id ≠ freshId) :
    (∀ account : NewAccount, account.email = email → account.phoneNumber = phoneNumber →
      (create freshId account).run (respond arrangement) relation =
        match (Statement.insert freshId account).complaint? with
        | some complaint => (.error (complaint.toError "create"), relation)
        | none =>
            if relation.isRetained (.email email) then
              (.error (.uniqueViolation .email), relation)
            else if relation.isRetained (.phoneNumber phoneNumber) then
              (.error (.uniqueViolation .phoneNumber), relation)
            else
              (.ok (account.withId freshId),
                { tuples := relation.tuples ++ [.ofNew arrangement freshId account] })) ∧
    ∀ (issuer : Issuer) (moment : Moment) (request : Request) (query : RegisterRequest)
      (salt : Password.Salt) (instant : Time.Instant), Reaches moment request query salt →
      query.email = email → query.phoneNumber = phoneNumber →
      ((serve issuer moment request).run (answer arrangement instant freshId) relation).1 =
        if relation.isRetained (.email email) then .error (.ofError .emailExists)
        else if relation.isRetained (.phoneNumber phoneNumber) then
          .error (.ofError .phoneNumberExists)
        else registered (issuer.grant moment ((newcomer moment query salt).withId freshId)) := by
  constructor
  · intro account sameEmail samePhoneNumber
    exact create_of_passed passed fresh sameEmail samePhoneNumber
  · rintro issuer moment request query salt instant reaches rfl rfl
    rcases taken_of_passed passed with ⟨emailFree, phoneNumberFree⟩
    have email := (taken_eq_ok_false_iff ..).mp emailFree |>.left
    have phoneNumber := (taken_eq_ok_false_iff ..).mp phoneNumberFree |>.left
    have storable := reaches.complaint? ((Value.complaint?_text_eq_none_iff _).mp email)
      ((Value.complaint?_text_eq_none_iff _).mp phoneNumber) freshId
    have created : (create freshId (newcomer moment query salt)).run _ _ = _ :=
      create_of_passed passed fresh rfl rfl
    rw [serve_of_passed passed reaches, created, storable]
    dsimp only
    cases relation.isRetained (.email query.email) with
    | true => rfl
    | false => cases relation.isRetained (.phoneNumber query.phoneNumber) <;> rfl

/-! Somebody's account has been deleted, and then somebody wants to come back. -/

def departed : Tuple :=
  { id := .ofNat 1, name := "Ada", email := "ada@example.com", phoneNumber := "+2348000000009"
    passwordHash := "", status := 0, details := Account.Meta.toJson {}, createdAt := 0
    updatedAt := 0, deletedAt := some 0 }

def afterDeparture : Relation := { tuples := [departed] }

def comeback : NewAccount :=
  { name := "Ada", email := "ada@example.com", phoneNumber := "+2348000000001", passwordHash := ""
    status := .pendingActive, details := {}, createdAt := today.now, updatedAt := today.now }

theorem requireVacant_comeback :
    (requireVacant comeback.email comeback.phoneNumber).run (respond .asWritten) afterDeparture =
      (.ok (), afterDeparture) := rfl

theorem comeback_isFresh : ∀ tuple ∈ afterDeparture.tuples, tuple.id ≠ default := by
  intro tuple member
  rw [List.mem_singleton.mp member]
  decide

theorem comeback_is_refused :
    (∀ tuple ∈ afterDeparture.tuples, tuple.isLive = true → tuple.email ≠ comeback.email) ∧
      (∀ tuple ∈ afterDeparture.tuples, tuple.id ≠ default) ∧
      (requireVacant comeback.email comeback.phoneNumber).run (respond .asWritten)
        afterDeparture = (.ok (), afterDeparture) ∧
      (create default comeback).run (respond .asWritten) afterDeparture =
        (.error (.uniqueViolation .email), afterDeparture) := by
  refine ⟨?_, comeback_isFresh, requireVacant_comeback, rfl⟩
  intro tuple member
  rw [List.mem_singleton.mp member]
  decide

theorem comeback_is_told_email_exists :
    (requireVacant comeback.email comeback.phoneNumber).run (respond .asWritten) afterDeparture =
        (.ok (), afterDeparture) ∧
      (∀ tuple ∈ afterDeparture.tuples, tuple.id ≠ default) ∧
      (create default comeback).run (respond .asWritten) afterDeparture =
        (.error (.uniqueViolation .email), afterDeparture) ∧
      ((serve bridge today application).run (answer .asWritten today.now default)
        afterDeparture).1 = .error (.ofError .emailExists) := by
  have reaches : Reaches today application applicant ⟨List.replicate 16 0, rfl⟩ :=
    ⟨⟨rfl, by decide +kernel, rfl, rfl⟩, rfl, by decide, by decide⟩
  rcases only_deleted_rows_are_overlooked .asWritten afterDeparture requireVacant_comeback
    comeback_isFresh with ⟨created, registered⟩
  exact ⟨requireVacant_comeback, comeback_isFresh, created comeback rfl rfl,
    registered bridge today application applicant _ today.now reaches rfl rfl⟩

end Turnstile.Database.Relation
