import Turnstile.Json.Basic

/-!
Records in JSON: values whose fields have names and a fixed order. A record is written as an
object. It is read from an object, whose unknown members do not matter and whose known members
stand there once each, or from an array that holds the first fields in their order.
-/

namespace Turnstile.Json

abbrev Record := List (String × Json)

def isDistinct : List String → Bool
  | [] => true
  | name :: rest => !rest.contains name && isDistinct rest

def record? (names : List String) : Json → Option Record
  | array items => if items.length ≤ names.length then some (names.zip items) else none
  | object members => do
      let named ← members.mapM fun (name, value) => name.map (·, value)
      let known := named.filter fun (name, _) => names.contains name
      if isDistinct (known.map (·.1)) then some known else none
  | _ => none

namespace Record

def required {α : Type} (record : Record) (name : String) (ofJson? : Json → Option α) :
    Option α :=
  (record.lookup name).bind ofJson?

def withDefault {α : Type} (record : Record) (name : String) (default : α)
    (ofJson? : Json → Option α) : Option α :=
  match record.lookup name with
  | none => some default
  | some json => ofJson? json

end Record

end Turnstile.Json
