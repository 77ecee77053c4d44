import Turnstile.Proofs.Wire.Account

/-!
What is shown of an account, sent back and read. The verification must lie in one of the years 0 to
9999 of universal time, and loses what it has beyond whole milliseconds. Everything else comes back
as it was: a date of birth in any year of the calendar, and what there is none of stays apart from
what is there and empty.
-/

namespace Turnstile

open Turnstile.Time

/-- The other one is the last instant of whole milliseconds that is not after this one. -/
def Time.Instant.CutsTo (instant cut : Instant) : Prop :=
  IsGreatest {whole : Instant | whole ≤ instant ∧ whole.nanoseconds % 1000000 = 0} cut

namespace Account

structure Kyc.CutsTo (kyc cut : Kyc) : Prop where
  verifiedAt : Option.Rel Instant.CutsTo kyc.verifiedAt cut.verifiedAt
  rest : { cut with verifiedAt := kyc.verifiedAt } = kyc

def Meta.CutsTo (details cut : Meta) : Prop :=
  Option.Rel Kyc.CutsTo details.kyc cut.kyc

def Meta.IsVerifiedInPlainYear (details : Meta) : Prop :=
  ∀ kyc ∈ details.kyc, ∀ verifiedAt ∈ kyc.verifiedAt,
    0 ≤ verifiedAt.date.year ∧ verifiedAt.date.year ≤ 9999

theorem Kyc.cutsTo_toMilliseconds (kyc : Kyc) : kyc.CutsTo kyc.toMilliseconds where
  verifiedAt := by
    rw [toMilliseconds]
    cases kyc.verifiedAt with
    | none => exact .none
    | some verifiedAt => exact .some verifiedAt.isGreatest_toMilliseconds
  rest := rfl

theorem Meta.cutsTo_toMilliseconds (details : Meta) : details.CutsTo details.toMilliseconds := by
  rcases details with ⟨_ | kyc⟩
  · exact .none
  · exact .some kyc.cutsTo_toMilliseconds

theorem Meta.hasPlainYear_iff (details : Meta) :
    details.hasPlainYear = true ↔ details.IsVerifiedInPlainYear := by
  rw [hasPlainYear, IsVerifiedInPlainYear, Option.all_eq_true]
  refine forall₂_congr fun kyc _ => ?_
  rw [Kyc.hasPlainYear, Option.all_eq_true]
  refine forall₂_congr fun verifiedAt _ => ?_
  rw [Instant.hasPlainYear, decide_eq_true_eq]

end Account

namespace Wire

/-- What a message shows of somebody, whenever the verification was. -/
structure Kyc.Shows (sent : Kyc) (kyc : Account.Kyc) : Prop where
  undated : sent.dateOfBirth = "" ↔ kyc.dateOfBirth = none
  unverified : sent.verifiedAt = "" ↔ kyc.verifiedAt = none
  unaddressed : sent.address = none ↔ kyc.address = none
  unchanged : ({ kyc := some { sent with verifiedAt := "" } } : UserMeta).toAccount =
    .ok { kyc := some { kyc with verifiedAt := none } }

theorem shown_eq_empty_iff {α : Type} {write : α → String} (filled : ∀ value, write value ≠ "")
    (value : Option α) : (value.map write).getD "" = "" ↔ value = none := by
  cases value with
  | none => exact ⟨fun _ => rfl, fun _ => rfl⟩
  | some value => exact ⟨fun empty => absurd empty (filled value), nofun⟩

theorem Kyc.shows_ofAccount (kyc : Account.Kyc) : (Kyc.ofAccount kyc).Shows kyc where
  undated := shown_eq_empty_iff Date.text_ne_empty kyc.dateOfBirth
  unverified := shown_eq_empty_iff (Instant.text_ne_empty .milliseconds) kyc.verifiedAt
  unaddressed := Option.map_eq_none_iff
  unchanged :=
    UserMeta.toAccount_ofAccount { kyc := some { kyc with verifiedAt := none } }

/-- Sent back as it is shown, the part of an account that callers may change is read as it was, with
the time of the verification cut down to whole milliseconds, exactly if that time lies in the years
0 to 9999, and is refused for it exactly otherwise. -/
theorem shown_details_come_back (account : Account) :
    ∃ shown cut, (User.ofAccount account).details = some shown ∧ account.details.CutsTo cut ∧
      (shown.toAccount = .ok cut ↔ account.details.IsVerifiedInPlainYear) ∧
      (shown.toAccount = .error (.invalidArgument "verified_at must be an RFC 3339 timestamp") ↔
        ¬ account.details.IsVerifiedInPlainYear) ∧
      Option.Rel Kyc.Shows shown.kyc account.details.kyc := by
  refine ⟨_, account.details.toMilliseconds, rfl, account.details.cutsTo_toMilliseconds, ?_, ?_, ?_⟩
  · rw [UserMeta.toAccount_ofAccount, ← account.details.hasPlainYear_iff]
    cases account.details.hasPlainYear with
    | true => exact ⟨fun _ => rfl, fun _ => rfl⟩
    | false => exact ⟨nofun, nofun⟩
  · rw [UserMeta.toAccount_ofAccount, ← account.details.hasPlainYear_iff]
    cases account.details.hasPlainYear with
    | true => exact ⟨nofun, fun signed => absurd rfl signed⟩
    | false => exact ⟨fun _ => Bool.false_ne_true, fun _ => rfl⟩
  · rw [UserMeta.ofAccount]
    cases account.details.kyc with
    | none => exact .none
    | some kyc => exact .some (Kyc.shows_ofAccount kyc)

end Wire

end Turnstile
