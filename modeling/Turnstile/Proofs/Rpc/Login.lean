import Turnstile.Proofs.Auth.Login
import Turnstile.Proofs.Password.Hash
import Turnstile.Proofs.Rpc.Concurrency
import Turnstile.Proofs.Rpc.Failure
import Turnstile.Proofs.Rpc.Validation

/-!
Requests for a login. Whether there are no credentials under the email, the password does not fit
them or the account that they belong to is gone by then, the caller is told the same.
-/

namespace Turnstile

open Turnstile.Store

namespace Auth.Issuer

variable (issuer : Issuer) (moment : Moment)

def conclude (account : Account) : Except Error Grant :=
  if account.status = .inactive then .error .inactiveAccount else issuer.grant moment account

section Runs

variable {email password : String} {State : Type}
  {responder : Dialogue.Responder Call.Answer State} {state between : State}

theorem run_login_of_unknown {error : Store.Error}
    (unknown : responder (.authenticate email) state = (.error error, between)) :
    (issuer.login moment email password).run responder state =
      (.error (.ofHiddenLookup error), between) :=
  (Enters.unknown unknown).course.run

variable {credentials : Credentials}
  (known : responder (.authenticate email) state = (.ok credentials, between))
include known

theorem run_login_of_mismatch
    (differs : Password.compare credentials.passwordHash password = false) :
    (issuer.login moment email password).run responder state =
      (.error .unauthenticated, between) :=
  (Enters.mismatched known differs).course.run

theorem run_login_of_match
    (fits : Password.compare credentials.passwordHash password = true) :
    (issuer.login moment email password).run responder state =
      (((responder (.findById credentials.id) between).1.mapError Error.ofHiddenLookup).bind
          (issuer.conclude moment),
        (responder (.findById credentials.id) between).2) := by
  have recognized : Recognizes email password responder state between credentials := ⟨known, fits⟩
  rcases found : responder (.findById credentials.id) between with ⟨error | account, after⟩
  · exact (Enters.unfound recognized found).course.run
  · have finds : Finds email password responder state after credentials account :=
      ⟨between, recognized, found⟩
    show _ = (issuer.conclude moment account, after)
    by_cases inactive : account.status = .inactive
    · rw [show issuer.conclude moment account = _ from if_pos inactive]
      exact (finds.course_of_inactive inactive).run
    · rw [show issuer.conclude moment account = _ from if_neg inactive]
      exact (finds.course_of_active inactive).run

end Runs

end Auth.Issuer

namespace Rpc

open Auth Wire

structure LogsIn (request : Request) (query : LoginRequest) : Prop where
  path : request.path = Procedure.login.path
  read : (Message.decode? request.body : Option LoginRequest) = some query

def loggedIn (granted : Except Auth.Error Grant) : Except Status Bytes :=
  (granted.mapError Status.ofError).map fun grant =>
    Message.encode ({ user := some (User.ofAccount grant.account)
                      accessToken := grant.token } : LoginResponse)

theorem run_serve_login (issuer : Issuer) (moment : Moment) {State : Type}
    (responder : Dialogue.Responder Call.Answer State) (state : State) {request : Request}
    {query : LoginRequest} (logsIn : LogsIn request query) :
    (serve issuer moment request).run responder state =
      match checkLogin query with
      | .error error => (.error (.ofError error), state)
      | .ok () =>
          let granted := (issuer.login moment query.email query.password).run responder state
          (loggedIn granted.1, granted.2) := by
  rw [serve_of_public issuer moment isPublicPath_login logsIn.path]
  show (exchange (loginHandler issuer moment) request.body).run responder state = _
  rw [exchange, logsIn.read]
  dsimp only
  rw [Dialogue.run_map, Dialogue.run_mapFailure, loginHandler, Dialogue.run_bind,
    Dialogue.run_ofExcept]
  cases checkLogin query with
  | error error => rfl
  | ok =>
      dsimp only
      rw [← map_eq_pure_bind, Dialogue.run_map]
      cases ((issuer.login moment query.email query.password).run responder state).1 with
      | error error => rfl
      | ok grant => rfl

theorem run_serve_login_of_refused (issuer : Issuer) (moment : Moment) {State : Type}
    {responder : Dialogue.Responder Call.Answer State} {state after : State} {request : Request}
    {query : LoginRequest} (logsIn : LogsIn request query) (valid : checkLogin query = .ok ())
    {error : Auth.Error}
    (refused : (issuer.login moment query.email query.password).run responder state =
      (.error error, after)) :
    (serve issuer moment request).run responder state = (.error (.ofError error), after) := by
  rw [run_serve_login issuer moment responder state logsIn, valid]
  dsimp only
  rw [refused]
  rfl

theorem exists_row_of_hasEmail {memory : Memory} {email : String}
    (taken : memory.HasEmail email) :
    ∃ row ∈ memory.rows, row.account.email = email ∧ memory.credentials email =
      .ok { id := row.account.id, email := row.account.email
            passwordHash := row.passwordHash } := by
  rw [Memory.credentials]
  cases found : memory.rows.find? fun row => row.account.email == email with
  | some row =>
      have same := List.find?_some found
      exact ⟨row, List.mem_of_find?_eq_some found, eq_of_beq same, rfl⟩
  | none =>
      rcases taken with ⟨row, member, same⟩
      exact absurd (beq_iff_eq.mpr same) (List.find?_eq_none.mp found row member)

/-- A caller who cannot log in does not learn whether there is an account: an email that nobody
has, an email with another password, whatever else is stored with it, and an account that goes away
during the login have one answer. -/
theorem failed_logins_look_alike (issuer : Issuer) (request : Request) (query : LoginRequest)
    (logsIn : LogsIn request query) (someEmail : Text.isBlankText query.email = false)
    (somePassword : Text.isBlankText query.password = false) (vacant taken : Memory)
    (absent : ¬ vacant.HasEmail query.email) (present : taken.HasEmail query.email)
    (differs : ∀ row ∈ taken.rows, row.account.email = query.email →
      Password.compare row.passwordHash query.password = false) :
    (∀ moment instant freshId,
      (serve issuer moment request).run (Memory.respond instant freshId) vacant =
        (.error (.ofError .unauthenticated), vacant)) ∧
    (∀ moment instant freshId,
      (serve issuer moment request).run (Memory.respond instant freshId) taken =
        (.error (.ofError .unauthenticated), taken)) ∧
    ∀ (moment : Moment) (State : Type) (responder : Dialogue.Responder Call.Answer State)
      (state between after : State) (credentials : Credentials),
      responder (.authenticate query.email) state = (.ok credentials, between) →
      Password.compare credentials.passwordHash query.password = true →
      responder (.findById credentials.id) between = (.error .noRows, after) →
        (serve issuer moment request).run responder state =
          (.error (.ofError .unauthenticated), after) := by
  have valid : checkLogin query = .ok () := checkLogin_eq_ok_iff.mpr ⟨someEmail, somePassword⟩
  refine ⟨?_, ?_, ?_⟩
  · intro moment instant freshId
    have unknown : Memory.respond instant freshId (.authenticate query.email) vacant =
        (.error .noRows, vacant) :=
      congrArg (·, vacant)
        (Memory.credentials_eq_noRows fun row member same => absent ⟨row, member, same⟩)
    exact run_serve_login_of_refused issuer moment logsIn valid
      (issuer.run_login_of_unknown moment unknown)
  · intro moment instant freshId
    rcases exists_row_of_hasEmail present with ⟨row, member, same, found⟩
    have known : Memory.respond instant freshId (.authenticate query.email) taken =
        (.ok { id := row.account.id, email := row.account.email
               passwordHash := row.passwordHash }, taken) := congrArg (·, taken) found
    exact run_serve_login_of_refused issuer moment logsIn valid
      (issuer.run_login_of_mismatch moment known (differs row member same))
  · intro moment State responder state between after credentials known fits gone
    have refused := issuer.run_login_of_match moment known fits
    rw [gone] at refused
    exact run_serve_login_of_refused issuer moment logsIn valid refused

/-! Somebody tries an email: in an empty store, in one where the account under it has been
deactivated and its hash is no hash, and in one which loses the account meanwhile. -/

def attempt : LoginRequest :=
  { email := "ada@example.com", password := "secret" }

def loginAttempt : Request :=
  { path := Procedure.login.path, headers := [], body := Message.encode attempt }

theorem loginAttempt_logsIn : LogsIn loginAttempt attempt :=
  ⟨rfl, by decide +kernel⟩

def adaDeactivated : Memory :=
  { rows := [{ account := deactivated, passwordHash := "secret" }] }

def adaSalt : Password.Salt := ⟨Bytes.littleEndian 16 0, rfl⟩

def adaCredentials : Credentials :=
  { id := ada.id, email := ada.email, passwordHash := Password.hash adaSalt "secret" }

/-- It has the credentials, but never an account. -/
def losing : Dialogue.Responder Call.Answer Unit
  | .authenticate _, after => (.ok adaCredentials, after)
  | _, after => (.error .noRows, after)

theorem loginAttempt_looks_alike :
    LogsIn loginAttempt attempt ∧ ¬ Memory.HasEmail {} attempt.email ∧
      adaDeactivated.HasEmail attempt.email ∧
      Password.compare adaCredentials.passwordHash attempt.password = true ∧
      (serve bridge today loginAttempt).run (Memory.respond today.now default) {} =
        (.error (.ofError .unauthenticated), {}) ∧
      (serve bridge today loginAttempt).run (Memory.respond today.now default) adaDeactivated =
        (.error (.ofError .unauthenticated), adaDeactivated) ∧
      (serve bridge today loginAttempt).run losing () =
        (.error (.ofError .unauthenticated), ()) := by
  have absent : ¬ Memory.HasEmail {} attempt.email := by
    rintro ⟨row, member, -⟩
    cases member
  have present : adaDeactivated.HasEmail attempt.email :=
    ⟨_, List.mem_singleton_self _, rfl⟩
  have differs : ∀ row ∈ adaDeactivated.rows, row.account.email = attempt.email →
      Password.compare row.passwordHash attempt.password = false := by
    intro row member _
    rw [List.mem_singleton.mp member]
    decide
  have fits : Password.compare adaCredentials.passwordHash attempt.password = true :=
    (Password.compare_hash ..).trans (beq_self_eq_true _)
  rcases failed_logins_look_alike bridge loginAttempt attempt loginAttempt_logsIn (by decide)
    (by decide) {} adaDeactivated absent present differs with ⟨unknown, known, vanished⟩
  exact ⟨loginAttempt_logsIn, absent, present, fits, unknown today today.now default,
    known today today.now default,
    vanished today Unit losing () () () adaCredentials rfl fits rfl⟩

end Rpc

end Turnstile
