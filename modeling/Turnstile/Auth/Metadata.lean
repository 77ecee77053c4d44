import Turnstile.Text.Ascii

/-!
What comes with a request besides its body: names with values, in their order. A name may stand
there more than once, and its letters have no case.
-/

namespace Turnstile.Auth

open Turnstile.Text

/-- The names are in lower case. -/
structure Metadata where
  entries : List (String × String) := []
  deriving DecidableEq

namespace Metadata

def insert (metadata : Metadata) (name value : String) : Metadata :=
  { entries := metadata.entries ++ [(asciiLowerText name, value)] }

def ofList (entries : List (String × String)) : Metadata :=
  { entries := entries.map fun (name, value) => (asciiLowerText name, value) }

def size (metadata : Metadata) : Nat :=
  metadata.entries.length

def values (metadata : Metadata) (name : String) : List String :=
  (metadata.entries.filter fun entry => sameIgnoringCase entry.1 name).map (·.2)

@[simp] theorem ofList_nil : ofList [] = {} := rfl

theorem insert_ofList (entries : List (String × String)) (name value : String) :
    (ofList entries).insert name value = ofList (entries ++ [(name, value)]) := by
  simp [insert, ofList]

end Metadata

end Turnstile.Auth
