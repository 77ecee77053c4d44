/-!
Reading text from its beginning: a scanner returns a value and the letters it has not used.
-/

namespace Turnstile.Text

abbrev Scan (α : Type) := List Char → Option (α × List Char)

def Scan.literal (expected : Char) : List Char → Option (List Char)
  | letter :: rest => if letter = expected then some rest else none
  | [] => none

end Turnstile.Text
