import Turnstile.Text.Utf8

/-!
JSON documents as trees. A tree keeps what a reader of accounts can tell apart: the order of
members and repeated members stay, while blanks, the spelling of a number and that of a string
are forgotten.
-/

namespace Turnstile

/-- A numeral by its parts: `-12.50e3` has whole part 12, the decimal places 5 and 0, and the
exponent 3. -/
structure Json.Number where
  negative : Bool
  whole : Nat
  places : List (Fin 10)
  exponent : Int
  deriving DecidableEq, Repr

/-- A string or the name of a member. Bytes and escapes between two quotes need not be Unicode
text, for half of a surrogate pair may stand alone; then there is no content. -/
abbrev Json.Content := Option String

inductive Json where
  | null
  | bool (value : Bool)
  | number (value : Json.Number)
  | string (content : Json.Content)
  | array (items : List Json)
  | object (members : List (Json.Content × Json))

namespace Json

instance : Inhabited Json := ⟨null⟩

def ofString (text : String) : Json :=
  string (some text)

def ofMembers (members : List (String × Json)) : Json :=
  object (members.map fun (name, value) => (some name, value))

def text? : Json → Option String
  | string content => content
  | _ => none

def ofOption {α : Type} (toJson : α → Json) : Option α → Json
  | none => null
  | some value => toJson value

def option? {α : Type} (ofJson? : Json → Option α) : Json → Option (Option α)
  | null => some none
  | json => (ofJson? json).map some

end Json

end Turnstile
