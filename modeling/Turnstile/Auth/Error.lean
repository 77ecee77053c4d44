import Turnstile.Store.Error

/-!
Why a request is refused. The text of an error is what the caller reads, so it tells nothing about
the inside of the service: whatever goes wrong there is one and the same internal error.
-/

namespace Turnstile.Auth

inductive Error where
  | missingContextMetadata
  | missingAuthHeader
  | malformedToken
  | invalidAuthorizationScheme
  | invalidToken
  | expiredToken
  | unauthenticated
  | inactiveAccount
  | passwordConfirmationMismatch
  | emailExists
  | phoneNumberExists
  | alreadyExists
  | notFound
  | invalidArgument (message : String)
  | internal
  deriving DecidableEq, Repr

inductive ErrorKind where
  | invalidArgument
  | unauthenticated
  | permissionDenied
  | alreadyExists
  | notFound
  | internal
  deriving DecidableEq, Repr

namespace Error

def kind : Error → ErrorKind
  | missingContextMetadata => .unauthenticated
  | missingAuthHeader => .unauthenticated
  | malformedToken => .unauthenticated
  | invalidAuthorizationScheme => .unauthenticated
  | invalidToken => .unauthenticated
  | expiredToken => .unauthenticated
  | unauthenticated => .unauthenticated
  | inactiveAccount => .permissionDenied
  | passwordConfirmationMismatch => .invalidArgument
  | emailExists => .alreadyExists
  | phoneNumberExists => .alreadyExists
  | alreadyExists => .alreadyExists
  | notFound => .notFound
  | invalidArgument _ => .invalidArgument
  | internal => .internal

def message : Error → String
  | missingContextMetadata => "Missing context authentication metadata."
  | missingAuthHeader => "Missing authorization header."
  | malformedToken => "Malformed authorization token."
  | invalidAuthorizationScheme => "Invalid authorization scheme provided."
  | invalidToken => "Invalid access token provided."
  | expiredToken => "Expired access token provided."
  | unauthenticated => "Unauthenticated"
  | inactiveAccount => "Account has been deactivated."
  | passwordConfirmationMismatch => "The password confirmation does not match."
  | emailExists => "Email is already in use."
  | phoneNumberExists => "Phone number is already in use."
  | alreadyExists => "Resource already exists."
  | notFound => "Resource not found."
  | invalidArgument message => message
  | internal => "Internal server error."

def ofStore : Store.Error → Error
  | .uniqueViolation .email => emailExists
  | .uniqueViolation .phoneNumber => phoneNumberExists
  | .uniqueViolation (.other _) => alreadyExists
  | .noRows => notFound
  | .unavailable _ => internal
  | .backend _ => internal

/-- Here a caller must not know whether there is such an account. -/
def ofHiddenLookup : Store.Error → Error
  | .noRows => unauthenticated
  | _ => internal

end Error

end Turnstile.Auth
