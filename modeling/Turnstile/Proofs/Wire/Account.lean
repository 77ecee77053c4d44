import Turnstile.Proofs.Time.Timestamps
import Turnstile.Wire.Account

/-!
The details of an account on their way out and in again. Everything comes back as it was but for
the time of the verification, which is cut to milliseconds; and if that time has no plain year, the
details are refused for it. Of the times that messages bring, those of two days alone are of that
kind.
-/

namespace Turnstile

open Turnstile.Time

namespace Account

def Kyc.toMilliseconds (kyc : Kyc) : Kyc :=
  { kyc with verifiedAt := kyc.verifiedAt.map Instant.toMilliseconds }

def Kyc.hasPlainYear (kyc : Kyc) : Bool :=
  kyc.verifiedAt.all Instant.hasPlainYear

def Meta.toMilliseconds (details : Meta) : Meta :=
  { kyc := details.kyc.map Kyc.toMilliseconds }

def Meta.hasPlainYear (details : Meta) : Bool :=
  details.kyc.all Kyc.hasPlainYear

/-- In universal time the verification lies on the day before the plain years or on the day after
them. -/
def Meta.HasBorderDate (details : Meta) : Prop :=
  ∃ kyc verifiedAt, details.kyc = some kyc ∧ kyc.verifiedAt = some verifiedAt ∧
    (verifiedAt.date = ⟨-1, 12, 31⟩ ∨ verifiedAt.date = ⟨10000, 1, 1⟩)

theorem Meta.HasBorderDate.hasPlainYear_eq {details : Meta} (border : details.HasBorderDate) :
    details.hasPlainYear = false := by
  rcases border with ⟨kyc, verifiedAt, there, verified, date⟩
  rw [hasPlainYear, there, Option.all_some, Kyc.hasPlainYear, verified, Option.all_some,
    Instant.hasPlainYear]
  rcases date with before | after
  · rw [before]
    rfl
  · rw [after]
    rfl

end Account

theorem Time.Date.text_ne_empty (date : Date) : date.text ≠ "" := by
  intro empty
  have read := date.ofText?_text
  rw [empty] at read
  cases read

theorem Time.Instant.text_ne_empty (precision : Precision) (instant : Instant) :
    instant.text precision ≠ "" := by
  intro empty
  have letters := congrArg String.toList empty
  simp [Instant.text] at letters

namespace Wire

theorem readUnlessEmpty_shown {α : Type} {read? : String → Option α} {write : α → String}
    {complaint : String} (filled : ∀ value, write value ≠ "") (value : Option α) :
    readUnlessEmpty read? complaint ((value.map write).getD "") =
      match value with
      | none => .ok none
      | some value =>
          match read? (write value) with
          | some value => .ok (some value)
          | none => .error (.invalidArgument complaint) := by
  cases value with
  | none => rfl
  | some value => exact if_neg (filled value)

theorem readUnlessEmpty_date (complaint : String) (date : Option Date) :
    readUnlessEmpty Date.ofText? complaint ((date.map Date.text).getD "") = .ok date := by
  rw [readUnlessEmpty_shown Date.text_ne_empty]
  cases date with
  | none => rfl
  | some date =>
      dsimp only
      rw [date.ofText?_text]

theorem readUnlessEmpty_instant (complaint : String) (instant : Option Instant) :
    readUnlessEmpty Instant.ofText? complaint ((instant.map wireTime).getD "") =
      if instant.all Instant.hasPlainYear then .ok (instant.map Instant.toMilliseconds)
      else .error (.invalidArgument complaint) := by
  have filled : ∀ instant, wireTime instant ≠ "" := Instant.text_ne_empty .milliseconds
  rw [readUnlessEmpty_shown filled]
  cases instant with
  | none => rfl
  | some instant =>
      have read : Instant.ofText? (wireTime instant) = _ := instant.ofText?_text_milliseconds
      dsimp only
      rw [read, Option.all_some]
      cases instant.hasPlainYear with
      | true => rfl
      | false => rfl

theorem Kyc.toAccount_ofAccount (kyc : Account.Kyc) :
    (Kyc.ofAccount kyc).toAccount =
      if kyc.hasPlainYear then .ok kyc.toMilliseconds
      else .error (.invalidArgument "verified_at must be an RFC 3339 timestamp") := by
  have address : (kyc.address.map Address.ofAccount).map Address.toAccount = kyc.address := by
    rw [Option.map_map]
    exact Option.map_id' ..
  rw [toAccount, ofAccount, readUnlessEmpty_date, readUnlessEmpty_instant, address,
    Account.Kyc.hasPlainYear]
  cases kyc.verifiedAt.all Instant.hasPlainYear with
  | true => rfl
  | false => rfl

/-- What is shown of an account can be sent back exactly if its times have plain years. -/
theorem UserMeta.toAccount_ofAccount (details : Account.Meta) :
    (UserMeta.ofAccount details).toAccount =
      if details.hasPlainYear then .ok details.toMilliseconds
      else .error (.invalidArgument "verified_at must be an RFC 3339 timestamp") := by
  rcases details with ⟨_ | kyc⟩
  · rfl
  · show (Kyc.ofAccount kyc).toAccount.map (fun kyc => ({ kyc := some kyc } : Account.Meta)) =
      if kyc.hasPlainYear then _ else _
    rw [Kyc.toAccount_ofAccount]
    cases kyc.hasPlainYear with
    | true => rfl
    | false => rfl

/-! ## Times that messages bring -/

section Reads

variable {Failure α β : Type} {read : Except Failure α} {result : β}

theorem exists_ok_of_bind {next : α → Except Failure β} (done : read >>= next = .ok result) :
    ∃ value, read = .ok value ∧ next value = .ok result := by
  cases read with
  | error failure => cases done
  | ok value => exact ⟨value, rfl, done⟩

theorem exists_ok_of_map {change : α → β} (done : read.map change = .ok result) :
    ∃ value, read = .ok value ∧ change value = result := by
  cases read with
  | error failure => cases done
  | ok value => exact ⟨value, rfl, Except.ok.inj done⟩

end Reads

theorem read_of_readUnlessEmpty {α : Type} {read? : String → Option α} {complaint text : String}
    {value : α} (found : readUnlessEmpty read? complaint text = .ok (some value)) :
    read? text = some value := by
  rw [readUnlessEmpty] at found
  split at found
  · cases found
  · split at found
    · rename_i there
      cases found
      exact there
    · cases found

theorem Kyc.ofText?_of_toAccount {kyc : Kyc} {account : Account.Kyc}
    (read : kyc.toAccount = .ok account) {verifiedAt : Instant}
    (there : account.verifiedAt = some verifiedAt) :
    Instant.ofText? kyc.verifiedAt = some verifiedAt := by
  rw [toAccount] at read
  rcases exists_ok_of_bind read with ⟨dateOfBirth, -, read⟩
  rcases exists_ok_of_bind read with ⟨found, verification, read⟩
  cases read
  rw [show found = some verifiedAt from there] at verification
  exact read_of_readUnlessEmpty verification

theorem UserMeta.hasBorderDate_of_signed {sent : UserMeta} {details : Account.Meta}
    (read : sent.toAccount = .ok details) (signed : details.hasPlainYear = false) :
    details.HasBorderDate := by
  rw [toAccount] at read
  split at read
  · cases read
    cases signed
  · rename_i shown there
    rcases exists_ok_of_map read with ⟨kyc, readKyc, rfl⟩
    rw [Account.Meta.hasPlainYear, Option.all_some, Account.Kyc.hasPlainYear] at signed
    cases verified : kyc.verifiedAt with
    | none =>
        rw [verified] at signed
        cases signed
    | some verifiedAt =>
        rw [verified, Option.all_some] at signed
        exact ⟨kyc, verifiedAt, rfl, verified,
          Instant.date_of_signed (Kyc.ofText?_of_toAccount readKyc verified) signed⟩

theorem UserMeta.hasPlainYear_eq_false_iff {sent : UserMeta} {details : Account.Meta}
    (read : sent.toAccount = .ok details) :
    details.hasPlainYear = false ↔ details.HasBorderDate :=
  ⟨hasBorderDate_of_signed read, Account.Meta.HasBorderDate.hasPlainYear_eq⟩

end Wire

end Turnstile
