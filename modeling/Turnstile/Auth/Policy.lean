import Turnstile.Text.Split

/-!
Which services may be called without a token. What no policy is known for needs one, and so does a
path that does not name a service and a method.
-/

namespace Turnstile.Auth

open Turnstile.Text

inductive Policy where
  | requiresAuth
  | «public»
  deriving DecidableEq, Repr, Inhabited

/-- The entry that was added last comes first. -/
structure PolicyTable where
  entries : List (String × Policy) := []
  deriving DecidableEq

namespace PolicyTable

def insert (table : PolicyTable) (service : String) (policy : Policy) : PolicyTable :=
  { entries := (service, policy) :: table.entries }

def allow (table : PolicyTable) (service : String) : PolicyTable :=
  table.insert service .public

def protect (table : PolicyTable) (service : String) : PolicyTable :=
  table.insert service .requiresAuth

/-- Of several entries for a service the last one counts. -/
def ofList (entries : List (String × Policy)) : PolicyTable :=
  { entries := entries.reverse }

def policy (table : PolicyTable) (service : String) : Policy :=
  (table.entries.lookup service).getD .requiresAuth

end PolicyTable

structure MethodPath where
  service : String
  method : String
  deriving DecidableEq, Repr

namespace MethodPath

def text (path : MethodPath) : String :=
  "/" ++ path.service ++ "/" ++ path.method

/-- Reads `/service/method`, where neither name is empty and neither holds a slash. -/
def ofText? (text : String) : Option MethodPath :=
  match text.toList with
  | '/' :: rest =>
      match splitChars '/' rest with
      | some (service, method) =>
          if service.isEmpty || method.isEmpty || method.contains '/' then none
          else some ⟨String.ofList service, String.ofList method⟩
      | none => none
  | _ => none

example : ofText? "/a.B/c" = some ⟨"a.B", "c"⟩ := by decide
example : ofText? "/a.B/c/" = none := by decide

end MethodPath

def PolicyTable.policyOfPath (table : PolicyTable) (path : String) : Policy :=
  match MethodPath.ofText? path with
  | some path => table.policy path.service
  | none => .requiresAuth

end Turnstile.Auth
