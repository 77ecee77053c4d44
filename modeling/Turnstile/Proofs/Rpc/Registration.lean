import Turnstile.Proofs.Rpc.Conduct

/-!
A registration as a session. If there is nothing wrong with the request itself, it makes two calls:
it asks whether its email and its phone number are free, and later it creates the account. The
second call may fail like the first one, and then the caller is told the same.
-/

namespace Turnstile.Rpc

open Turnstile.Auth Turnstile.Store Turnstile.Wire

/-- A request for a registration with which nothing is wrong. -/
structure Applies (request : Request) (query : RegisterRequest) : Prop where
  registers : request.path = Procedure.register.path
  read : (Message.decode? request.body : Option RegisterRequest) = some query
  valid : checkRegister query = .ok ()
  confirmed : query.password = query.confirmPassword

def registered (granted : Except Auth.Error Grant) : Except Status Bytes :=
  (granted.mapError Status.ofError).map fun grant =>
    Message.encode ({ user := some (User.ofAccount grant.account)
                      accessToken := grant.token } : RegisterResponse)

theorem ofExcept_registered (granted : Except Auth.Error Grant) :
    (.ofExcept (registered granted) : Session Status Bytes) =
      Message.encode <$> Dialogue.mapFailure Status.ofError (do
        let grant ← (.ofExcept granted : Session Auth.Error Grant)
        return ({ user := some (User.ofAccount grant.account)
                  accessToken := grant.token } : RegisterResponse)) := by
  cases granted with
  | error error => rfl
  | ok grant => rfl

section Session

variable (issuer : Issuer) (moment : Moment)

def afterCreation : Except Store.Error Account → Session Status Bytes
  | .error error => .fail (.ofError (.ofStore error))
  | .ok account => .ofExcept (registered (issuer.grant moment account))

def afterVacancy (query : RegisterRequest) : Except Store.Error Unit → Session Status Bytes
  | .error error => .fail (.ofError (.ofStore error))
  | .ok () =>
      match (registrationOf query).passwordHash moment with
      | .error error => .fail (.ofError error)
      | .ok passwordHash =>
          .ask (.create ((registrationOf query).newAccount moment.now passwordHash))
            (afterCreation issuer moment)

theorem serve_register {request : Request}
    (registers : request.path = Procedure.register.path) :
    serve issuer moment request = exchange (registerHandler issuer moment) request.body :=
  serve_of_public issuer moment isPublicPath_register registers

theorem serve_of_applies {request : Request} {query : RegisterRequest}
    (applies : Applies request query) :
    serve issuer moment request =
      .ask (.requireVacant query.email query.phoneNumber) (afterVacancy issuer moment query) := by
  have confirmed : ¬ (registrationOf query).password ≠ (registrationOf query).confirmPassword := by
    simpa [registrationOf] using applies.confirmed
  rw [serve_register issuer moment applies.registers, exchange, applies.read]
  dsimp only
  rw [registerHandler, applies.valid, Issuer.register, if_neg confirmed]
  refine congrArg (Dialogue.ask (Call.requireVacant query.email query.phoneNumber))
    (funext fun vacant => ?_)
  cases vacant with
  | error error => rfl
  | ok =>
      show _ = (match (registrationOf query).passwordHash moment with
        | .error error => .fail (.ofError error)
        | .ok passwordHash =>
            .ask (.create ((registrationOf query).newAccount moment.now passwordHash))
              (afterCreation issuer moment) : Session Status Bytes)
      cases (registrationOf query).passwordHash moment with
      | error error => rfl
      | ok passwordHash =>
          refine congrArg (Dialogue.ask (Call.create _)) (funext fun created => ?_)
          cases created with
          | error error => rfl
          | ok account => exact (ofExcept_registered (issuer.grant moment account)).symm

theorem applies_or_fails {request : Request}
    (registers : request.path = Procedure.register.path) :
    (∃ query, Applies request query) ∨
      ∃ status, serve issuer moment request = .fail status := by
  rw [serve_register issuer moment registers, exchange]
  cases read : (Message.decode? request.body : Option RegisterRequest) with
  | none => exact .inr ⟨_, rfl⟩
  | some query =>
      dsimp only
      rw [registerHandler]
      cases valid : checkRegister query with
      | error error => exact .inr ⟨_, rfl⟩
      | ok =>
          by_cases confirmed : query.password = query.confirmPassword
          · exact .inl ⟨query, registers, read, valid, confirmed⟩
          · rw [Issuer.register, if_pos (by simpa [registrationOf] using confirmed)]
            exact .inr ⟨_, rfl⟩

end Session

/-- The email and the phone number that must be free for a call to succeed. -/
def claimed? : Call → Option (String × String)
  | .requireVacant email phoneNumber => some (email, phoneNumber)
  | .create account => some (account.email, account.phoneNumber)
  | _ => none

def Submits (request : Request) (email phoneNumber : String) : Prop :=
  ∃ query, Applies request query ∧ query.email = email ∧ query.phoneNumber = phoneNumber

/-- Nothing but a registration creates. It claims what it was submitted with, both times, and if it
is refused it ends with what the refusal means to a caller. -/
def ClaimsOwn (request : Request) (call : Call) (next : call.Answer → Session Status Bytes) :
    Prop :=
  (call.method = .create → request.path = Procedure.register.path) ∧
    (request.path = Procedure.register.path → ∀ email phoneNumber,
      claimed? call = some (email, phoneNumber) → Submits request email phoneNumber ∧
        ∀ error, next (.error error) = .fail (.ofError (.ofStore error)))

theorem everywhere_claimsOwn (issuer : Issuer) (moment : Moment) (request : Request) :
    (serve issuer moment request).Everywhere (ClaimsOwn request) := by
  by_cases registers : request.path = Procedure.register.path
  · rcases applies_or_fails issuer moment registers with ⟨query, applies⟩ | ⟨status, failed⟩
    · have submits : Submits request query.email query.phoneNumber := ⟨query, applies, rfl, rfl⟩
      rw [serve_of_applies issuer moment applies]
      refine ⟨⟨fun _ => registers, fun _ email phoneNumber claims => ?_⟩, fun vacant => ?_⟩
      · cases claims
        exact ⟨submits, fun error => rfl⟩
      cases vacant with
      | error error => trivial
      | ok =>
          show Dialogue.Everywhere _
            (match (registrationOf query).passwordHash moment with
              | .error error => .fail (.ofError error)
              | .ok passwordHash =>
                  .ask (.create ((registrationOf query).newAccount moment.now passwordHash))
                    (afterCreation issuer moment) : Session Status Bytes)
          cases (registrationOf query).passwordHash moment with
          | error error => trivial
          | ok passwordHash =>
              refine ⟨⟨fun _ => registers, fun _ email phoneNumber claims => ?_⟩,
                fun created => ?_⟩
              · cases claims
                exact ⟨submits, fun error => rfl⟩
              cases created with
              | error error => trivial
              | ok account =>
                  have asks : (afterCreation issuer moment (.ok account)).Asks fun _ => False :=
                    Dialogue.asks_ofExcept _
                  exact Dialogue.everywhere_of_asks (fun _ _ never => never.elim) asks
    · rw [failed]
      trivial
  · refine Dialogue.everywhere_of_asks ?_ (asks_serve issuer moment request)
    intro call next may
    exact ⟨fun creates => absurd creates (may.method_ne_create registers),
      fun path => absurd path registers⟩

end Turnstile.Rpc
