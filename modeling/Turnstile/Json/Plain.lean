import Turnstile.Json.Double

/-!
Documents that a database keeps. It has no use for what only some readers would accept: strings
that are no text, numbers beyond double precision, and nesting without end; and of members with
one name it keeps the last.
-/

namespace Turnstile.Json

/-- How many values may be nested in one another. -/
def plainDepth : Nat := 127

/-- Of members with one name the last counts. -/
def lastMembers {α : Type} : List (String × α) → List (String × α)
  | [] => []
  | (name, value) :: rest =>
      if rest.any fun member => member.1 == name then lastMembers rest
      else (name, value) :: lastMembers rest

mutual

def plain? : (depth : Nat) → Json → Option Json
  | _, null => some null
  | _, bool value => some (bool value)
  | _, number value => if value.isFinite then some (number value) else none
  | _, string content => content.map ofString
  | 0, array _ => none
  | depth + 1, array items => (plainItems? depth items).map array
  | 0, object _ => none
  | depth + 1, object members =>
      (plainMembers? depth members).map fun members => ofMembers (lastMembers members)

def plainItems? : (depth : Nat) → List Json → Option (List Json)
  | _, [] => some []
  | depth, item :: rest => do
      let item ← plain? depth item
      let rest ← plainItems? depth rest
      return item :: rest

def plainMembers? : (depth : Nat) → List (Content × Json) → Option (List (String × Json))
  | _, [] => some []
  | depth, (name, value) :: rest => do
      let name ← name
      let value ← plain? depth value
      let rest ← plainMembers? depth rest
      return (name, value) :: rest

end

end Turnstile.Json
