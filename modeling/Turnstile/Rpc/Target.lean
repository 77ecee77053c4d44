import Turnstile.Text.Split

/-!
The path in the address that a request is sent to.
-/

namespace Turnstile.Rpc

open Turnstile.Text

def endsPath (letter : Char) : Bool :=
  letter == '?' || letter == '#'

def afterScheme? : List Char → Option (List Char)
  | [] => none
  | letter :: rest =>
      if [':', '/', '/'].isPrefixOf (letter :: rest) then some (rest.drop 2)
      else afterScheme? rest

/-- An address begins with its path, or with a scheme and a host; a host alone has no path. A query
or a fragment is no part of the path. -/
def targetPath (address : String) : String :=
  let letters := address.toList
  if letters.head? = some '/' ∨ letters = ['*'] then
    String.ofList (letters.takeWhile fun letter => !endsPath letter)
  else
    match afterScheme? letters with
    | none => ""
    | some rest =>
        let path := (rest.dropWhile fun letter => letter != '/' && !endsPath letter).takeWhile
          fun letter => !endsPath letter
        if path.isEmpty then "/" else String.ofList path

example : targetPath "/a/b?x=/y" = "/a/b" := by decide
example : targetPath "http://host/a/b" = "/a/b" := by decide

end Turnstile.Rpc
