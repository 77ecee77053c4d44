import Mathlib.Data.List.Induction
import Turnstile.Auth.Policy

/-!
What a path names, and what a table says of it. A path has at most one reading, and a path without
one is nobody's to open. However a table came about, a path with a reading is open only if the last
entry for its service says so.
-/

namespace Turnstile.Auth

open Turnstile.Text

structure MethodPath.IsNamed (path : MethodPath) : Prop where
  service_ne : path.service ≠ ""
  method_ne : path.method ≠ ""
  service_slash : '/' ∉ path.service.toList
  method_slash : '/' ∉ path.method.toList

namespace MethodPath

theorem toList_text (path : MethodPath) :
    path.text.toList = '/' :: (path.service.toList ++ '/' :: path.method.toList) := by
  simp [text]

theorem ofText?_text {path : MethodPath} (named : path.IsNamed) :
    ofText? path.text = some path := by
  have split := (splitChars_eq_some_iff '/' _ _ path.method.toList).mpr ⟨rfl, named.service_slash⟩
  have refused : (path.service.toList.isEmpty || path.method.toList.isEmpty
      || path.method.toList.contains '/') = false := by
    simp [named.service_ne, named.method_ne, named.method_slash]
  simp only [ofText?, toList_text, split, refused, Bool.false_eq_true, if_false,
    String.ofList_toList]

theorem of_ofText? {text : String} {path : MethodPath} (read : ofText? text = some path) :
    text = path.text ∧ path.IsNamed := by
  rw [ofText?] at read
  split at read
  · rename_i rest letters
    split at read
    · rename_i service method split
      split at read
      · cases read
      · rename_i accepted
        rcases (splitChars_eq_some_iff ..).mp split with ⟨whole, unslashed⟩
        simp only [Bool.or_eq_true, List.isEmpty_iff, List.contains_iff_mem, not_or] at accepted
        cases read
        refine ⟨?_, ⟨?_, ?_, ?_, ?_⟩⟩
        · rw [← String.toList_inj, toList_text, letters, whole]
          simp
        · simpa using accepted.left.left
        · simpa using accepted.left.right
        · simpa using unslashed
        · simpa using accepted.right
    · cases read
  · cases read

theorem ofText?_eq_some_iff (text : String) (path : MethodPath) :
    ofText? text = some path ↔ text = path.text ∧ path.IsNamed := by
  constructor
  · exact of_ofText?
  · rintro ⟨rfl, named⟩
    exact ofText?_text named

end MethodPath

theorem PolicyTable.policyOfPath_eq_public_iff (table : PolicyTable) (text : String) :
    table.policyOfPath text = .public ↔
      ∃ path : MethodPath, text = path.text ∧ path.IsNamed ∧
        table.policy path.service = .public := by
  rw [policyOfPath]
  constructor
  · intro allowed
    split at allowed
    · rename_i path read
      rcases MethodPath.of_ofText? read with ⟨same, named⟩
      exact ⟨path, same, named, allowed⟩
    · cases allowed
  · rintro ⟨path, rfl, named, allowed⟩
    rw [MethodPath.ofText?_text named]
    exact allowed

/-! ## Tables by their history -/

inductive PolicyChange where
  | insert (service : String) (policy : Policy)
  | allow (service : String)
  | protect (service : String)
  deriving DecidableEq

namespace PolicyChange

def service : PolicyChange → String
  | insert service _ => service
  | allow service => service
  | protect service => service

def policy : PolicyChange → Policy
  | insert _ policy => policy
  | allow _ => .public
  | protect _ => .requiresAuth

def apply (table : PolicyTable) : PolicyChange → PolicyTable
  | insert service policy => table.insert service policy
  | allow service => table.allow service
  | protect service => table.protect service

theorem apply_eq (table : PolicyTable) (change : PolicyChange) :
    change.apply table = table.insert change.service change.policy := by
  cases change <;> rfl

theorem policy_apply (table : PolicyTable) (change : PolicyChange) (service : String) :
    (change.apply table).policy service =
      if change.service = service then change.policy else table.policy service := by
  rw [apply_eq, PolicyTable.policy, PolicyTable.insert, List.lookup_cons]
  by_cases same : change.service = service
  · rw [same, beq_self_eq_true, if_pos rfl]
    rfl
  · rw [if_neg same, beq_eq_false_iff_ne.mpr (Ne.symm same)]
    rfl

end PolicyChange

namespace PolicyTable

def after (changes : List PolicyChange) : PolicyTable :=
  changes.foldl PolicyChange.apply {}

def lastPolicy? (changes : List PolicyChange) (service : String) : Option Policy :=
  (changes.filter fun change => change.service == service).getLast?.map (·.policy)

theorem lastPolicy?_append (changes : List PolicyChange) (change : PolicyChange)
    (service : String) :
    lastPolicy? (changes ++ [change]) service =
      if change.service = service then some change.policy else lastPolicy? changes service := by
  rw [lastPolicy?, List.filter_append]
  by_cases same : change.service = service
  · have kept : [change].filter (fun change => change.service == service) = [change] :=
      List.filter_cons_of_pos (beq_iff_eq.mpr same)
    rw [if_pos same, kept, List.getLast?_concat]
    rfl
  · have dropped : [change].filter (fun change => change.service == service) = [] :=
      List.filter_cons_of_neg (fun equal => same (beq_iff_eq.mp equal))
    rw [if_neg same, dropped, List.append_nil]
    rfl

/-- The table knows the last change for every service and has forgotten the others. -/
theorem policy_after (changes : List PolicyChange) (service : String) :
    (after changes).policy service = (lastPolicy? changes service).getD .requiresAuth := by
  induction changes using List.reverseRecOn with
  | nil => rfl
  | append_singleton changes change induction =>
      rw [lastPolicy?_append, after, List.foldl_append, List.foldl_cons, List.foldl_nil,
        PolicyChange.policy_apply]
      split
      · rfl
      · exact induction

theorem policy_after_eq_public_iff (changes : List PolicyChange) (service : String) :
    (after changes).policy service = .public ↔ lastPolicy? changes service = some .public := by
  rw [policy_after]
  cases lastPolicy? changes service with
  | none => simp
  | some policy => simp

/-- Whatever was added to an empty table in whatever order, a path is open exactly if it names a
method of a service for which the last entry says so. The path then has no other reading, and every
path that is not open is closed. -/
theorem paths_open_by_last_entry (changes : List PolicyChange) (text : String) :
    ((after changes).policyOfPath text = .public ↔
      ∃! path : MethodPath, text = path.text ∧ path.IsNamed ∧
        lastPolicy? changes path.service = some .public) ∧
    (∀ path : MethodPath,
      MethodPath.ofText? text = some path ↔ text = path.text ∧ path.IsNamed) ∧
    ((after changes).policyOfPath text = .requiresAuth ↔
      ¬ ∃ path : MethodPath, text = path.text ∧ path.IsNamed ∧
        lastPolicy? changes path.service = some .public) := by
  have opened := policyOfPath_eq_public_iff (after changes) text
  simp only [policy_after_eq_public_iff] at opened
  refine ⟨?_, MethodPath.ofText?_eq_some_iff text, ?_⟩
  · rw [opened]
    constructor
    · rintro ⟨path, same, named, last⟩
      refine ⟨path, ⟨same, named, last⟩, ?_⟩
      rintro other ⟨sameOther, namedOther, -⟩
      have read := (MethodPath.ofText?_eq_some_iff text path).mpr ⟨same, named⟩
      rw [(MethodPath.ofText?_eq_some_iff text other).mpr ⟨sameOther, namedOther⟩] at read
      exact Option.some.inj read
    · exact ExistsUnique.exists
  · rw [← opened]
    cases (after changes).policyOfPath text <;> decide

example : (after [.protect "a.B", .allow "a.B"]).policyOfPath "/a.B/c" = .public := by decide
example : (after [.allow "a.B"]).policyOfPath "/a.b/c" = .requiresAuth := by decide

end PolicyTable

end Turnstile.Auth
