import Turnstile.Proofs.Auth.Policy
import Turnstile.Rpc.Server

/-!
Two readings of a path. The gate reads a service and a method, and lets a public service's methods
pass; dispatch goes by the first segment and then by the whole path. Where the gate reads nothing
that it knows, nobody passes without a caller, so the two need not agree anywhere else.
-/

namespace Turnstile.Rpc

open Turnstile.Auth Turnstile.Store Turnstile.Text

/-- The path of a method, real or not, of the public service. -/
def IsPublicPath (path : String) : Prop :=
  ∃ method, method ≠ "" ∧ '/' ∉ method.toList ∧ path = "/bridge.v1.AuthService/" ++ method

theorem policy_eq_public_iff (service : String) :
    policies.policy service = .public ↔ service = authService := by
  constructor
  · intro allowed
    by_cases account : service = accountService
    · subst account
      exact absurd allowed (by decide)
    · by_cases auth : service = authService
      · exact auth
      · have account := beq_eq_false_iff_ne.mpr account
        have auth := beq_eq_false_iff_ne.mpr auth
        simp [policies, PolicyTable.ofList, PolicyTable.policy, List.lookup_cons, account,
          auth] at allowed
  · rintro rfl
    decide

theorem policyOfPath_eq_public_iff (path : String) :
    policies.policyOfPath path = .public ↔ IsPublicPath path := by
  rw [PolicyTable.policyOfPath_eq_public_iff]
  constructor
  · rintro ⟨⟨service, method⟩, rfl, named, allowed⟩
    cases (policy_eq_public_iff service).mp allowed
    refine ⟨method, named.method_ne, named.method_slash, ?_⟩
    rfl
  · rintro ⟨method, filled, unslashed, rfl⟩
    refine ⟨⟨authService, method⟩, rfl, ⟨?_, filled, ?_, unslashed⟩, ?_⟩
    · exact (by decide : authService ≠ "")
    · exact (by decide : '/' ∉ authService.toList)
    · exact (policy_eq_public_iff authService).mpr rfl

example : ¬ IsPublicPath "/bridge.v1.AuthService/Login/" := by
  rw [← policyOfPath_eq_public_iff]
  decide

inductive Producer where
  | gate
  | nobody
  | service (name : String) (procedure : Option Procedure)
  deriving DecidableEq, Repr

def firstSegment? (path : String) : Option String :=
  match path.toList with
  | '/' :: rest => some (String.ofList (rest.takeWhile (· ≠ '/')))
  | _ => none

theorem firstSegment?_text (path : MethodPath) (unslashed : '/' ∉ path.service.toList) :
    firstSegment? path.text = some path.service := by
  have before : ∀ letter ∈ path.service.toList, decide (letter ≠ '/') = true := by
    intro letter member
    rw [decide_eq_true_eq]
    rintro rfl
    exact unslashed member
  rw [firstSegment?, MethodPath.toList_text]
  simp only [List.takeWhile_append_of_pos before]
  simp

def services : List String := [authService, accountService]

namespace Producer

/-- The service is found by the first segment, and its procedure by the whole path. -/
def ofPath (path : String) : Producer :=
  match services.find? fun name => firstSegment? path == some name with
  | none => nobody
  | some name =>
      service name
        (Procedure.all.find? fun procedure =>
          procedure.methodPath.service == name && procedure.path == path)

def procedure? : Producer → Option Procedure
  | gate => none
  | nobody => none
  | service _ procedure => procedure

theorem ofPath_path (procedure : Procedure) :
    ofPath procedure.path = service procedure.methodPath.service (some procedure) := by
  cases procedure <;> decide

theorem procedure?_ofPath (path : String) : (ofPath path).procedure? = Procedure.ofPath? path := by
  cases found : Procedure.ofPath? path with
  | some procedure =>
      have same := List.find?_some found
      rw [← eq_of_beq same, ofPath_path]
      rfl
  | none =>
      have other := List.find?_eq_none.mp found
      rw [ofPath]
      split
      · rfl
      · rw [procedure?, List.find?_eq_none]
        intro procedure member both
        rw [Bool.and_eq_true] at both
        exact other procedure member both.right

theorem path_of_procedure? {path : String} {procedure : Procedure}
    (found : (ofPath path).procedure? = some procedure) : path = procedure.path := by
  rw [procedure?_ofPath] at found
  have same := List.find?_some found
  exact (eq_of_beq same).symm

example : ofPath "/bridge.v1.AuthService/Login/" = service authService none := by decide

theorem service_of_ofPath {path name : String} {procedure : Procedure}
    (found : ofPath path = service name (some procedure)) :
    procedure.methodPath.service = name ∧ procedure.path = path := by
  rw [ofPath] at found
  split at found
  · cases found
  · injection found with same there
    subst same
    have both := List.find?_some there
    rw [Bool.and_eq_true] at both
    exact ⟨eq_of_beq both.left, eq_of_beq both.right⟩

theorem ofPath_of_public {path : String} (opened : IsPublicPath path) :
    ∃ procedure, ofPath path = service authService procedure := by
  rcases opened with ⟨method, -, -, rfl⟩
  have first : firstSegment? ("/bridge.v1.AuthService/" ++ method) = some authService :=
    firstSegment?_text ⟨authService, method⟩ (by decide : '/' ∉ authService.toList)
  rw [ofPath, first, services, List.find?_cons_of_pos (by simp)]
  exact ⟨_, rfl⟩

end Producer

end Turnstile.Rpc
