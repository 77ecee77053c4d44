import Turnstile.Text.Ascii
import Turnstile.Text.Blank

/-!
The format of the log, by its name in any case.
-/

namespace Turnstile.Config

open Turnstile.Text

inductive LogFormat where
  | json
  | pretty
  deriving DecidableEq, Repr, Inhabited

structure UnknownLogFormat where
  name : String
  deriving DecidableEq, Repr

def UnknownLogFormat.message (error : UnknownLogFormat) : String :=
  "unknown log format '" ++ error.name ++ "' (expected 'json' or 'pretty')"

namespace LogFormat

def ofText (text : String) : Except UnknownLogFormat LogFormat :=
  match asciiLowerText (trim text) with
  | "json" => .ok json
  | "pretty" => .ok pretty
  | "text" => .ok pretty
  | name => .error ⟨name⟩

/-- Without a name the log is in JSON. -/
def ofVariable (value : Option String) : Except UnknownLogFormat LogFormat :=
  match value with
  | some text => ofText text
  | none => .ok json

end LogFormat

end Turnstile.Config
