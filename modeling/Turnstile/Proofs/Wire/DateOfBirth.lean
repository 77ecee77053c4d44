import Turnstile.Proofs.Time.DateForms
import Turnstile.Proofs.Wire.Account

/-!
Which texts are read as a date of birth. The complaint asks for `YYYY-MM-DD`, and every text of that
form is read if there is such a day; but so is any other text that the reader of dates takes, and
then a date has more than one text.
-/

namespace Turnstile.Wire

open Turnstile.Time

def unreadableDate : Auth.Error :=
  .invalidArgument "date_of_birth must be formatted as YYYY-MM-DD"

/-- Details with this text for a date of birth are read as they are without one, and with the date
in its place. -/
def ReadsAsBirth (text : String) (date : Date) : Prop :=
  ∀ kyc : Kyc, kyc.dateOfBirth = text →
    ({ kyc := some kyc } : UserMeta).toAccount =
      ({ kyc := some { kyc with dateOfBirth := "" } } : UserMeta).toAccount.map fun details =>
        { kyc := details.kyc.map fun found => { found with dateOfBirth := some date } }

/-- Details with this text for a date of birth are refused for it, whatever else is in them. -/
def RefusesBirth (text : String) : Prop :=
  ∀ kyc : Kyc, kyc.dateOfBirth = text →
    ({ kyc := some kyc } : UserMeta).toAccount = .error unreadableDate

section Reads

variable {α : Type} {read? : String → Option α} {complaint text : String}

theorem readUnlessEmpty_of_some (given : text ≠ "") {value : α} (read : read? text = some value) :
    readUnlessEmpty read? complaint text = .ok (some value) := by
  rw [readUnlessEmpty, if_neg given, read]

theorem readUnlessEmpty_of_none (given : text ≠ "") (unread : read? text = none) :
    readUnlessEmpty read? complaint text = .error (.invalidArgument complaint) := by
  rw [readUnlessEmpty, if_neg given, unread]

end Reads

theorem readsAsBirth_of_ofText? {text : String} {date : Date} (given : text ≠ "")
    (read : Date.ofText? text = some date) : ReadsAsBirth text date := by
  rintro kyc rfl
  have undated : readUnlessEmpty Date.ofText? "date_of_birth must be formatted as YYYY-MM-DD" "" =
      .ok none := if_pos rfl
  rw [UserMeta.toAccount, UserMeta.toAccount]
  dsimp only
  rw [Kyc.toAccount, Kyc.toAccount, readUnlessEmpty_of_some given read, undated]
  -- the time of the verification is read in the same way on both sides
  cases readUnlessEmpty Instant.ofText? "verified_at must be an RFC 3339 timestamp" kyc.verifiedAt
    with
  | error refusal => rfl
  | ok verifiedAt => rfl

theorem refusesBirth_of_ofText? {text : String} (given : text ≠ "")
    (unread : Date.ofText? text = none) : RefusesBirth text := by
  rintro kyc rfl
  rw [UserMeta.toAccount]
  dsimp only
  rw [Kyc.toAccount, readUnlessEmpty_of_none given unread]
  rfl

theorem ReadsAsBirth.alone {text : String} {date : Date} (reads : ReadsAsBirth text date) :
    ({ kyc := some { dateOfBirth := text } } : UserMeta).toAccount =
      .ok { kyc := some { dateOfBirth := some date } } :=
  reads { dateOfBirth := text } rfl

theorem RefusesBirth.not_readsAsBirth {text : String} (refuses : RefusesBirth text) (date : Date) :
    ¬ ReadsAsBirth text date := by
  intro reads
  have refused := refuses { dateOfBirth := text } rfl
  rw [reads.alone] at refused
  cases refused

theorem ReadsAsBirth.eq {text : String} {date other : Date} (reads : ReadsAsBirth text date)
    (again : ReadsAsBirth text other) : other = date := by
  have same := again.alone.symm.trans reads.alone
  simpa using same

theorem readsAsBirth_iff {text : String} (given : text ≠ "") (date : Date) :
    ReadsAsBirth text date ↔ SpellsDate text.toList date := by
  rw [← Date.ofText?_eq_some_iff]
  constructor
  · intro reads
    cases read : Date.ofText? text with
    | none => exact absurd reads ((refusesBirth_of_ofText? given read).not_readsAsBirth date)
    | some found => rw [reads.eq (readsAsBirth_of_ofText? given read)]
  · exact readsAsBirth_of_ofText? given

theorem refusesBirth_iff {text : String} (given : text ≠ "") :
    RefusesBirth text ↔ ∀ date, ¬ SpellsDate text.toList date := by
  constructor
  · intro refuses date spells
    exact refuses.not_readsAsBirth date ((readsAsBirth_iff given date).mpr spells)
  · intro spelled
    refine refusesBirth_of_ofText? given (Option.eq_none_iff_forall_ne_some.mpr fun date read => ?_)
    exact spelled date ((Date.ofText?_eq_some_iff text date).mp read)

/-- A text is read as a date of birth exactly if it spells that date, and refused for it if it spells
none. Of the texts that are read as one date, one at most is of the plain form, and it is the one
that is shown; the others are read as well, and blanks before any of them change nothing. -/
theorem birth_dates_are_read_in_every_form (text : String) (given : text ≠ "") :
    (∀ date, ReadsAsBirth text date ↔ SpellsDate text.toList date) ∧
      (RefusesBirth text ↔ ∀ date, ¬ SpellsDate text.toList date) ∧
      (∀ date, IsPlainForm text.toList date ↔
        ReadsAsBirth text date ∧ (0 ≤ date.year ∧ date.year ≤ 9999) ∧ text = date.text) ∧
      ∀ date blanks, AreBlank blanks.toList → ReadsAsBirth text date →
        ReadsAsBirth (blanks ++ text) date := by
  refine ⟨readsAsBirth_iff given, refusesBirth_iff given, ?_, ?_⟩
  · intro date
    constructor
    · intro plain
      exact ⟨(readsAsBirth_iff given date).mpr plain.spellsDate, isPlainForm_iff.mp plain⟩
    · rintro ⟨-, plain⟩
      exact isPlainForm_iff.mpr plain
  · intro date blanks areBlank reads
    have stillGiven : blanks ++ text ≠ "" :=
      fun empty => given (String.append_eq_empty_iff.mp empty).right
    rw [readsAsBirth_iff stillGiven, String.toList_append]
    exact ((readsAsBirth_iff given date).mp reads).blanks_append areBlank

def firstOfFebruary : Date :=
  ⟨1990, 2, 1, by decide⟩

theorem shown_date_is_read_after_blank : "1990-02-01" ≠ "" ∧
    ReadsAsBirth "1990-02-01" firstOfFebruary ∧ ReadsAsBirth " 1990-02-01" firstOfFebruary := by
  have given : "1990-02-01" ≠ "" := by decide
  rcases birth_dates_are_read_in_every_form "1990-02-01" given with ⟨-, -, plain, blanks⟩
  have shown : IsPlainForm "1990-02-01".toList firstOfFebruary :=
    isPlainForm_iff.mpr ⟨by decide, by decide +kernel⟩
  have reads := ((plain firstOfFebruary).mp shown).left
  exact ⟨given, reads, blanks firstOfFebruary " " (by decide) reads⟩

/-- A month and a day of one digit each are read, though the complaint asks for two. -/
theorem short_date_is_read : ReadsAsBirth "1990-2-1" firstOfFebruary ∧
    ReadsAsBirth "1990-02-01" firstOfFebruary ∧ ∀ date, ¬ IsPlainForm "1990-2-1".toList date := by
  refine ⟨readsAsBirth_of_ofText? (by decide) (by decide +kernel),
    readsAsBirth_of_ofText? (by decide) (by decide +kernel), ?_⟩
  intro date plain
  generalize short : "1990-2-1".toList = letters at plain
  cases plain with
  | parts isYear same isMonth isDay =>
      have length := congrArg List.length short
      simp [isYear.length, isMonth.length, isDay.length] at length

end Turnstile.Wire
