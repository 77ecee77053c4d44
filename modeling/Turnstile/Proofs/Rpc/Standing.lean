import Turnstile.Proofs.Rpc.Changes
import Turnstile.Proofs.Rpc.Echo

/-!
What can be relied on in every stored account. Two procedures write fields of accounts, and each
checks what it writes: so names are long enough, emails have their two parts, and phone numbers are
more than blanks. No procedure gives an account another status than the first one, and none touches
a hash, so the password of the registration that has created the account still opens it.
-/

namespace Turnstile.Rpc

open Turnstile.Store Turnstile.Text Turnstile.Wire

/-! ## What the checks find out -/

theorem Check.isName_iff {value : String} : isName value = true ↔ 3 ≤ (trim value).length := by
  rw [isName, decide_eq_true_eq, trim, String.length_ofList]

structure HasTwoParts (email : String) : Prop where
  single : email.toList.count '@' = 1
  mailbox : email.toList.head? ≠ some '@'
  domain : email.toList.getLast? ≠ some '@'

theorem hasTwoParts_of_isEmail {value : String} (valid : Check.isEmail value = true) :
    HasTwoParts value := by
  rw [Check.isEmail] at valid
  split at valid
  · rename_i mailbox domain parts
    rcases (splitChars_eq_some_iff '@' value.toList mailbox domain).mp parts with ⟨split, before⟩
    simp only [Bool.and_eq_true, Bool.not_eq_true', List.isEmpty_eq_false_iff,
      List.contains_eq_mem, decide_eq_false_iff_not] at valid
    rcases valid with ⟨⟨someMailbox, someDomain⟩, after⟩
    constructor
    · rw [split, List.count_append, List.count_cons_self, List.count_eq_zero_of_not_mem before,
        List.count_eq_zero_of_not_mem after]
    · rw [split, List.head?_append_of_ne_nil _ someMailbox]
      exact fun first => before (List.mem_of_head? first)
    · rw [split, List.getLast?_append_of_ne_nil _ (List.cons_ne_nil _ _),
        List.getLast?_cons_of_ne_nil someDomain]
      exact fun last => after (List.mem_of_getLast? last)
  · cases valid

theorem exists_letter_of_not_blank {value : String} (filled : isBlankText value = false) :
    ∃ letter ∈ value.toList, isBlank letter = false := by
  rcases List.all_eq_false.mp filled with ⟨letter, member, visible⟩
  exact ⟨letter, member, Bool.eq_false_iff.mpr visible⟩

/-! ## Accounts that have been checked -/

structure IsValid (account : Account) : Prop where
  name : 3 ≤ (trim account.name).length
  email : HasTwoParts account.email
  phoneNumber : ∃ letter ∈ account.phoneNumber.toList, isBlank letter = false
  status : account.status = .pendingActive

theorem isValid_row {visit : Visit} {query : RegisterRequest}
    (applies : Applies visit.request query) (salt : Password.Salt) :
    IsValid (visit.row query salt).account := by
  rcases checkRegister_eq_ok_iff.mp applies.valid with ⟨name, email, phoneNumber, -, -⟩
  exact ⟨Check.isName_iff.mp name, hasTwoParts_of_isEmail email,
    exists_letter_of_not_blank phoneNumber, rfl⟩

theorem IsValid.rewritten {before after : Account} (isValid : IsValid before) {body : Bytes}
    {query : UpdateProfileRequest} {update : Auth.ProfileUpdate}
    (asks : AsksFor body query update) {now : Time.Instant}
    (rewrites : Rewrites query now before after) : IsValid after := by
  rcases checkUpdateProfile_eq_ok_iff.mp asks.valid with ⟨validName, somePhoneNumber⟩
  constructor
  · rw [rewrites.name]
    cases given : query.name with
    | none => exact isValid.name
    | some name => exact Check.isName_iff.mp (validName name given)
  · rw [rewrites.email]
    exact isValid.email
  · rw [rewrites.phoneNumber]
    cases given : query.phoneNumber with
    | none => exact isValid.phoneNumber
    | some phoneNumber => exact exists_letter_of_not_blank (somePhoneNumber phoneNumber given)
  · rw [rewrites.status]
    exact isValid.status

theorem Rewrites.becomes {query : UpdateProfileRequest} {now : Time.Instant} {row : Row}
    {stored : Account} (rewrites : Rewrites query now row.account stored) :
    row.Becomes { row with account := stored } :=
  ⟨rewrites.id, rewrites.email, rewrites.status, rewrites.createdAt, rfl⟩

/-- The registration that a row goes back to, and the visits before it. -/
structure Creates (issuer : Auth.Issuer) (earlier : List Visit) (visit : Visit)
    (query : RegisterRequest) (row : Row) : Prop where
  applies : Applies visit.request query
  id : row.account.id = visit.freshId
  adds : ∃ first : Row, first.Becomes row ∧
    afterVisits issuer {} (earlier ++ [visit]) = (afterVisits issuer {} earlier).insert first
  opens : Password.compare row.passwordHash query.password = true

theorem Creates.becomes {issuer : Auth.Issuer} {earlier : List Visit} {visit : Visit}
    {query : RegisterRequest} {row later : Row} (creates : Creates issuer earlier visit query row)
    (becomes : row.Becomes later) : Creates issuer earlier visit query later where
  applies := creates.applies
  id := becomes.id.trans creates.id
  adds := by
    rcases creates.adds with ⟨first, becomesRow, added⟩
    exact ⟨first, becomesRow.trans becomes, added⟩
  opens := by
    rw [becomes.passwordHash]
    exact creates.opens

structure HasStanding (issuer : Auth.Issuer) (visits : List Visit) (row : Row) : Prop where
  isValid : IsValid row.account
  created : ∃ earlier visit later query,
    visits = earlier ++ visit :: later ∧ Creates issuer earlier visit query row

/-- Every stored account is valid, and the password of the registration that has created it opens
it. -/
theorem stored_accounts_stay_valid (issuer : Auth.Issuer) (visits : List Visit)
    (fresh : AllFresh issuer {} visits) :
    ∀ row ∈ (afterVisits issuer {} visits).rows, HasStanding issuer visits row := by
  refine afterVisits_rows ?_ ?_ ?_ fresh
  · intro visits visit query salt applies salted inserted
    have opens : Password.compare (Password.hash salt query.password) query.password = true := by
      rw [Password.compare_hash]
      exact beq_self_eq_true _
    exact ⟨isValid_row applies salt, visits, visit, [], query, rfl, applies, rfl,
      ⟨_, .refl _, inserted⟩, opens⟩
  · intro visits visit row query update stored standing asks rewrites
    rcases standing.created with ⟨earlier, creator, later, registration, split, creates⟩
    exact ⟨standing.isValid.rewritten asks rewrites, earlier, creator, later, registration, split,
      creates.becomes rewrites.becomes⟩
  · intro visits visit row standing
    rcases standing.created with ⟨earlier, creator, later, registration, split, creates⟩
    refine ⟨standing.isValid, earlier, creator, later ++ [visit], registration, ?_, creates⟩
    rw [split, List.append_assoc, List.cons_append]

theorem enrolledEast_stays_valid :
    AllFresh bridge {} [enrolment, sending verifiedEast] ∧
      enrolledEast ∈ (afterVisits bridge {} [enrolment, sending verifiedEast]).rows ∧
      HasStanding bridge [enrolment, sending verifiedEast] enrolledEast := by
  have fresh := allFresh_sending verifiedEast
  have member : enrolledEast ∈ (afterVisits bridge {} [enrolment, sending verifiedEast]).rows := by
    rw [afterVisits_sending asks_verifiedEast]
    exact List.mem_singleton_self enrolledEast
  exact ⟨fresh, member, stored_accounts_stay_valid bridge _ fresh enrolledEast member⟩

end Turnstile.Rpc
