import Turnstile.Rpc.Handlers

/-!
What is known of a request once its fields have been checked, and what is said of one whose content
is refused.
-/

namespace Turnstile.Rpc

open Turnstile.Text Turnstile.Wire

namespace Check

theorem demand_eq_ok_iff {condition : Bool} {complaint : String} :
    demand condition complaint = .ok () ↔ condition = true := by
  rw [demand]
  split
  · rename_i holds
    exact iff_of_true rfl holds
  · rename_i fails
    exact iff_of_false (fun same => by cases same) fails

theorem bind_eq_ok_iff {first second : Check} :
    (first >>= fun _ => second) = .ok () ↔ first = .ok () ∧ second = .ok () := by
  cases first with
  | error error => exact iff_of_false (fun same => by cases same) (fun both => by cases both.left)
  | ok => exact (and_iff_right rfl).symm

theorem required_eq_ok_iff {field value : String} :
    required field value = .ok () ↔ isBlankText value = false := by
  rw [required, demand_eq_ok_iff, Bool.not_eq_true']

theorem not_blank_of_isEmail {value : String} (valid : isEmail value = true) :
    isBlankText value = false := by
  rw [isEmail] at valid
  split at valid
  · rename_i mailbox domain parts
    have split := (splitChars_eq_some_iff '@' value.toList mailbox domain).mp parts
    rw [isBlankText, split.left, List.all_append, List.all_cons]
    have sign : isBlank '@' = false := by decide
    rw [sign, Bool.false_and, Bool.and_false]
  · cases valid

end Check

open Check

theorem checkLogin_eq_ok_iff {query : LoginRequest} :
    checkLogin query = .ok () ↔
      isBlankText query.email = false ∧ isBlankText query.password = false := by
  rw [checkLogin, bind_eq_ok_iff, required_eq_ok_iff, required_eq_ok_iff]

theorem checkRegister_eq_ok_iff {query : RegisterRequest} :
    checkRegister query = .ok () ↔
      isName query.name = true ∧ isEmail query.email = true ∧
        isBlankText query.phoneNumber = false ∧ isBlankText query.password = false ∧
          isBlankText query.confirmPassword = false := by
  simp only [checkRegister, bind_eq_ok_iff, required_eq_ok_iff, name, email, demand_eq_ok_iff]

theorem Check.ifPresent_eq_ok_iff {check : String → Check} {value : Option String} :
    ifPresent check value = .ok () ↔ ∀ text, value = some text → check text = .ok () := by
  cases value with
  | none => exact iff_of_true rfl (fun text same => by cases same)
  | some text =>
      constructor
      · rintro passed text ⟨⟩
        exact passed
      · exact fun passes => passes text rfl

theorem checkUpdateProfile_eq_ok_iff {query : UpdateProfileRequest} :
    checkUpdateProfile query = .ok () ↔
      (∀ text, query.name = some text → isName text = true) ∧
        ∀ text, query.phoneNumber = some text → isBlankText text = false := by
  simp only [checkUpdateProfile, bind_eq_ok_iff, ifPresent_eq_ok_iff, required_eq_ok_iff, name,
    demand_eq_ok_iff]

theorem checkLogin_of_checkRegister {query : RegisterRequest} {login : LoginRequest}
    (valid : checkRegister query = .ok ()) (sameEmail : login.email = query.email)
    (samePassword : login.password = query.password) : checkLogin login = .ok () := by
  rcases checkRegister_eq_ok_iff.mp valid with ⟨-, validEmail, -, somePassword, -⟩
  rw [checkLogin_eq_ok_iff, sameEmail, samePassword]
  exact ⟨not_blank_of_isEmail validEmail, somePassword⟩

/-! ## Complaints -/

def Complains {α : Type} (result : Except Auth.Error α) : Prop :=
  ∀ error, result = .error error → ∃ complaint, error = .invalidArgument complaint

theorem complains_ok {α : Type} (value : α) : Complains (.ok value) := by
  intro error failed
  cases failed

theorem complains_error {α : Type} (complaint : String) :
    Complains (.error (.invalidArgument complaint) : Except Auth.Error α) := by
  rintro error ⟨⟩
  exact ⟨complaint, rfl⟩

theorem Complains.bind {α β : Type} {result : Except Auth.Error α}
    {further : α → Except Auth.Error β} (complains : Complains result)
    (next : ∀ value, Complains (further value)) : Complains (result >>= further) := by
  cases result with
  | ok value => exact next value
  | error error =>
      rcases complains error rfl with ⟨complaint, rfl⟩
      exact complains_error complaint

theorem Complains.map {α β : Type} {result : Except Auth.Error α} (complains : Complains result)
    (transform : α → β) : Complains (result.map transform) := by
  cases result with
  | ok value => exact complains_ok _
  | error error =>
      rcases complains error rfl with ⟨complaint, rfl⟩
      exact complains_error complaint

theorem complains_demand (condition : Bool) (complaint : String) :
    Complains (demand condition complaint) := by
  rw [demand]
  split
  · exact complains_ok ()
  · exact complains_error complaint

theorem complains_ifPresent {check : String → Check} (complains : ∀ value, Complains (check value))
    (value : Option String) : Complains (ifPresent check value) := by
  cases value with
  | none => exact complains_ok ()
  | some value => exact complains value

theorem complains_checkUpdateProfile (query : UpdateProfileRequest) :
    Complains (checkUpdateProfile query) := by
  apply Complains.bind
  · exact complains_ifPresent (fun value => complains_demand _ _) query.name
  · intro checked
    exact complains_ifPresent (fun value => complains_demand _ _) query.phoneNumber

theorem complains_readUnlessEmpty {α : Type} (read? : String → Option α)
    (complaint text : String) : Complains (readUnlessEmpty read? complaint text) := by
  rw [readUnlessEmpty]
  split
  · exact complains_ok none
  · split
    · exact complains_ok _
    · exact complains_error complaint

theorem complains_toAccount (details : UserMeta) : Complains details.toAccount := by
  rw [UserMeta.toAccount]
  split
  · exact complains_ok _
  · apply Complains.map
    apply Complains.bind
    · exact complains_readUnlessEmpty _ _ _
    · intro dateOfBirth
      apply Complains.bind
      · exact complains_readUnlessEmpty _ _ _
      · intro verifiedAt
        exact complains_ok _

theorem complains_profileUpdateOf (query : UpdateProfileRequest) :
    Complains (profileUpdateOf query) := by
  rw [profileUpdateOf]
  split
  · exact complains_ok _
  · exact (complains_toAccount _).map _

end Turnstile.Rpc
