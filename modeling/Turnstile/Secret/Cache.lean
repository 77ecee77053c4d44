import Turnstile.Dialogue
import Turnstile.Secret.Source

/-!
A cache in front of a source of secrets. What it has got once it never asks for again; a failure is
not kept, so the next one who asks for that secret asks the source anew.
-/

namespace Turnstile.Secret

def Answer (_name : String) : Type :=
  Except Error String

structure Cache where
  values : List (String × String) := []
  deriving DecidableEq

namespace Cache

def get (cache : Cache) (name : String) : Dialogue Answer Error (String × Cache) :=
  match cache.values.lookup name with
  | some value => .done (value, cache)
  | none =>
      .ask name fun
        | .ok value => .done (value, { values := (name, value) :: cache.values })
        | .error error => .fail error

end Cache

def get (name : String) : Dialogue Answer Error String :=
  .ask name fun answer => .ofExcept answer

end Turnstile.Secret
