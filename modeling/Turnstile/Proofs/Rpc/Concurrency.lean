import Turnstile.Proofs.Rpc.Gate
import Turnstile.Proofs.Rpc.Header
import Turnstile.Proofs.Rpc.Validation
import Turnstile.Proofs.Store.Interleaving

/-!
Changes of profiles at the same time. Such a request makes two calls: it loads the account of its
caller for admission, and later it stores this account with the changes applied. What others have
stored in between is overwritten, also in the fields that the request does not name.
-/

namespace Turnstile

open Turnstile.Time

namespace Auth

/-- The same account, but for the fields that an update names and for the time of the update. -/
structure ProfileUpdate.Keeps (update : ProfileUpdate) (before after : Account) : Prop where
  id : after.id = before.id
  email : after.email = before.email
  status : after.status = before.status
  createdAt : after.createdAt = before.createdAt
  name : update.name = none → after.name = before.name
  phoneNumber : update.phoneNumber = none → after.phoneNumber = before.phoneNumber
  details : update.details = none → after.details = before.details

theorem ProfileUpdate.keeps_apply_iff (update : ProfileUpdate) (loaded current : Account)
    (now : Instant) :
    update.Keeps current { update.apply loaded with updatedAt := now } ↔
      update.Keeps current loaded := by
  have absent : ∀ {Value : Type} {field : Option Value} {old new : Value},
      (field = none → field.getD old = new) ↔ (field = none → old = new) := by
    intro Value field old new
    constructor
    · rintro same rfl
      exact same rfl
    · rintro same rfl
      exact same rfl
  constructor
  · intro keeps
    exact ⟨keeps.id, keeps.email, keeps.status, keeps.createdAt, absent.mp keeps.name,
      absent.mp keeps.phoneNumber, absent.mp keeps.details⟩
  · intro keeps
    exact ⟨keeps.id, keeps.email, keeps.status, keeps.createdAt, absent.mpr keeps.name,
      absent.mpr keeps.phoneNumber, absent.mpr keeps.details⟩

theorem authenticate_of_error {codec : Token.Codec} {metadata : Option Metadata} {now : Instant}
    {error : Error} (refused : verifiedClaims codec metadata now = .error error) :
    authenticate codec metadata now = .fail error := by
  rw [authenticate, refused]
  rfl

end Auth

namespace Rpc

open Auth Store Wire

def Names (body : Bytes) (update : ProfileUpdate) : Prop :=
  ∃ query : UpdateProfileRequest, Message.decode? body = some query ∧
    checkUpdateProfile query = .ok () ∧ profileUpdateOf query = .ok update

structure Submission where
  moment : Moment
  headers : List Header
  body : Bytes

namespace Submission

def session (submission : Submission) (issuer : Issuer) : Session Status Bytes :=
  serve issuer submission.moment
    { path := Procedure.updateProfile.path, headers := submission.headers
      body := submission.body }

def handled (submission : Submission) (issuer : Issuer) (caller : Caller) : Session Status Bytes :=
  Procedure.updateProfile.call issuer submission.moment (some caller) submission.body

def reply (answer : Except Store.Error Account) : Session Status Bytes :=
  .ofExcept <| (answer.mapError fun error => Status.ofError (.ofStore error)).map fun account =>
    Message.encode ({ user := some (User.ofAccount account) } : UpdateProfileResponse)

theorem handled_of_names {submission : Submission} {update : ProfileUpdate}
    (named : Names submission.body update) (issuer : Issuer) (caller : Caller) :
    submission.handled issuer caller = .ask (.update (update.apply caller.account)) reply := by
  rcases named with ⟨query, read, valid, asked⟩
  rw [handled, Procedure.call, exchange, read]
  dsimp only
  rw [updateProfileHandler_some, valid, asked]
  refine congrArg (Dialogue.ask (Call.update (update.apply caller.account))) (funext fun answer => ?_)
  cases answer with
  | ok account => rfl
  | error error => rfl

theorem handled_of_not_names {submission : Submission}
    (unnamed : ¬ ∃ update, Names submission.body update) (issuer : Issuer) (caller : Caller) :
    ∃ status, status.code ≠ .alreadyExists ∧ submission.handled issuer caller = .fail status := by
  have complaint : ∀ text, (Status.ofError (.invalidArgument text)).code ≠ .alreadyExists := by
    rintro text ⟨⟩
  rw [handled, Procedure.call, exchange]
  cases read : (Message.decode? submission.body : Option UpdateProfileRequest) with
  | none => exact ⟨_, by decide, rfl⟩
  | some query =>
      dsimp only
      rw [updateProfileHandler_some]
      cases valid : checkUpdateProfile query with
      | error error =>
          rcases complains_checkUpdateProfile query error valid with ⟨text, rfl⟩
          exact ⟨_, complaint text, rfl⟩
      | ok =>
          cases asked : profileUpdateOf query with
          | error error =>
              rcases complains_profileUpdateOf query error asked with ⟨text, rfl⟩
              exact ⟨_, complaint text, rfl⟩
          | ok update => exact absurd ⟨update, query, read, valid, asked⟩ unnamed

/-- Admission is the first call, and the answer decides whether there is a second one. -/
def proceed (submission : Submission) (issuer : Issuer) (expiresAt : Instant)
    (answer : Except Store.Error Account) : Session Status Bytes :=
  match verdict expiresAt answer with
  | .ok caller => submission.handled issuer caller
  | .error error => .fail (.ofError error)

theorem proceed_eq (submission : Submission) (issuer : Issuer) (expiresAt : Instant)
    (answer : Except Store.Error Account) :
    submission.proceed issuer expiresAt answer =
      ((.ofExcept (verdict expiresAt answer) : Session Auth.Error Caller).mapFailure
        Status.ofError >>= submission.handled issuer) := by
  rw [proceed]
  cases verdict expiresAt answer with
  | ok caller => rfl
  | error error => rfl

theorem session_eq (submission : Submission) (issuer : Issuer) :
    submission.session issuer =
      ((admission issuer submission.moment submission.headers).mapFailure Status.ofError >>=
        submission.handled issuer) := by
  have closed : ¬ IsPublicPath Procedure.updateProfile.path := by
    rw [← policyOfPath_eq_public_iff]
    decide
  rw [session, serve]
  dsimp only
  rw [gate_of_not_public closed, Dialogue.mapFailure_map, bind_map_left]
  simp only [Procedure.ofPath?_path]
  rfl

theorem session_of_error {submission : Submission} {issuer : Issuer} {error : Auth.Error}
    (refused : verifiedClaims issuer.codec (some (metadataOfHeaders submission.headers))
      submission.moment.now = .error error) :
    submission.session issuer = .fail (.ofError error) := by
  rw [session_eq, admission, authenticate_of_error refused]
  rfl

theorem session_of_ok {submission : Submission} {issuer : Issuer} {claims : Token.Claims}
    (verified : verifiedClaims issuer.codec (some (metadataOfHeaders submission.headers))
      submission.moment.now = .ok claims) :
    submission.session issuer =
      .ask (.findById claims.subject) (submission.proceed issuer claims.expiresAt) := by
  rw [session_eq, admission, authenticate_of_ok verified]
  exact congrArg (Dialogue.ask (Call.findById claims.subject))
    (funext fun answer => (submission.proceed_eq issuer claims.expiresAt answer).symm)

end Submission

def profileTraffic (issuer : Issuer) (submissions : Nat → Submission) (memory : Memory) :
    Traffic Status Bytes :=
  { memory, sessions := fun party => (submissions party).session issuer }

/-- At one of its steps in a schedule the party finds this account in the store. -/
def Loads (start : Traffic Status Bytes) (schedule : List Move) (party : Nat)
    (account : Account) : Prop :=
  ∃ earlier later now freshId, schedule = earlier ++ .advance party now freshId :: later ∧
    (start.run earlier).memory.find (fun other => other.id == account.id) = .ok account

theorem Loads.waits {start : Traffic Status Bytes} {schedule : List Move} {party : Nat}
    {account : Account} (loads : Loads start schedule party account) (move : Move) :
    Loads start (schedule ++ [move]) party account := by
  rcases loads with ⟨earlier, later, now, freshId, rfl, found⟩
  exact ⟨earlier, later ++ [move], now, freshId, List.append_assoc .., found⟩

section Runs

variable (issuer : Issuer) (submissions : Nat → Submission) (memory : Memory) (party : Nat)

/-- How far a party has come with a schedule. It has not been admitted yet, or it was with the
account that it loaded at some step, or it has nothing more to ask. -/
inductive Stage (moves : List Move) : Session Status Bytes → Prop where
  | waiting : Stage moves ((submissions party).session issuer)
  | loaded (caller : Caller)
      (loads : Loads (profileTraffic issuer submissions memory) moves party caller.account) :
      Stage moves ((submissions party).handled issuer caller)
  | finished {session : Session Status Bytes} (ended : session.Asks fun _ => False) :
      Stage moves session

variable {issuer submissions memory party}

theorem Stage.waits {moves : List Move} {session : Session Status Bytes}
    (stage : Stage issuer submissions memory party moves session) (move : Move) :
    Stage issuer submissions memory party (moves ++ [move]) session := by
  cases stage with
  | waiting => exact .waiting
  | loaded caller loads => exact .loaded caller (loads.waits move)
  | finished ended => exact .finished ended

theorem stage_proceed (moves : List Move) (now : Instant) (freshId subject : Account.Id)
    (expiresAt : Instant) :
    Stage issuer submissions memory party (moves ++ [.advance party now freshId])
      ((submissions party).proceed issuer expiresAt
        (((profileTraffic issuer submissions memory).run moves).memory.find
          fun account => account.id == subject)) := by
  rw [Submission.proceed]
  split
  · rename_i caller admitted
    have found := eq_ok_of_verdict admitted
    have same := Memory.id_of_find found
    rw [← same] at found
    exact .loaded caller ⟨moves, [], now, freshId, rfl, found⟩
  · exact .finished trivial

theorem Stage.of_ask {moves : List Move} {call : Call}
    {further : call.Answer → Session Status Bytes}
    (stage : Stage issuer submissions memory party moves (.ask call further)) :
    (∃ claims : Token.Claims, (.ask call further : Session Status Bytes) =
      .ask (.findById claims.subject) ((submissions party).proceed issuer claims.expiresAt)) ∨
    ∃ update loaded, Names (submissions party).body update ∧
      Loads (profileTraffic issuer submissions memory) moves party loaded ∧
        (.ask call further : Session Status Bytes) =
          .ask (.update (update.apply loaded)) Submission.reply := by
  generalize same : Dialogue.ask call further = session at stage
  cases stage with
  | waiting =>
      cases verified : verifiedClaims issuer.codec
          (some (metadataOfHeaders (submissions party).headers))
          (submissions party).moment.now with
      | error error =>
          rw [Submission.session_of_error verified] at same
          cases same
      | ok claims => exact .inl ⟨claims, Submission.session_of_ok verified⟩
  | loaded caller loads =>
      by_cases named : ∃ update, Names (submissions party).body update
      · rcases named with ⟨update, named⟩
        exact .inr ⟨update, caller.account, named, loads,
          Submission.handled_of_names named issuer caller⟩
      · rcases Submission.handled_of_not_names named issuer caller with ⟨status, -, failed⟩
        rw [failed] at same
        cases same
  | finished ended =>
      subst same
      exact ended.left.elim

theorem Stage.calls {moves : List Move} {call : Call}
    {further : call.Answer → Session Status Bytes}
    (stage : Stage issuer submissions memory party moves (.ask call further)) (now : Instant)
    (freshId : Account.Id) :
    Stage issuer submissions memory party (moves ++ [.advance party now freshId])
      (further (((profileTraffic issuer submissions memory).run moves).memory.respond now freshId
        call).1) := by
  rcases stage.of_ask with ⟨claims, same⟩ | ⟨update, loaded, -, -, same⟩
  · cases same
    exact stage_proceed moves now freshId claims.subject claims.expiresAt
  · cases same
    exact .finished (Dialogue.asks_ofExcept _)

theorem stage_run (moves : List Move) :
    Stage issuer submissions memory party moves
      (((profileTraffic issuer submissions memory).run moves).sessions party) := by
  refine Traffic.session_run (motive := Stage issuer submissions memory party) .waiting ?_ ?_
    moves
  · intro moves move session stage
    exact stage.waits move
  · intro moves now freshId call further stage
    exact stage.calls now freshId

end Runs

/-- An update that succeeds stores the account that its request loaded at an earlier step, with the
changes applied. The fields that the request does not name are therefore those of the account that
is replaced exactly if they are still what they were when the account was loaded. -/
theorem update_stores_loaded_account (issuer : Issuer) (submissions : Nat → Submission)
    (memory : Memory) (schedule : List Move) (party : Nat) (now : Instant)
    (freshId : Account.Id) (account stored : Account)
    (further : (Call.update account).Answer → Session Status Bytes) :
    let start := profileTraffic issuer submissions memory
    let before := start.run schedule
    let after := start.run (schedule ++ [.advance party now freshId])
    before.sessions party = .ask (.update account) further →
      (before.memory.update now account).1 = .ok stored →
        ∃ update loaded current, Names (submissions party).body update ∧
          Loads start schedule party loaded ∧
          before.memory.find (fun other => other.id == loaded.id) = .ok current ∧
          after.memory.find (fun other => other.id == loaded.id) = .ok stored ∧
          stored = { update.apply loaded with updatedAt := now } ∧
          (update.Keeps current stored ↔ update.Keeps current loaded) := by
  intro start before after asks updated
  have stage : Stage issuer submissions memory party schedule (before.sessions party) :=
    stage_run schedule
  rw [asks] at stage
  rcases stage.of_ask with ⟨claims, same⟩ | ⟨update, loaded, named, loads, same⟩
  · cases same
  · cases same
    rcases Memory.update_of_ok updated with ⟨rfl, replaced, current, there⟩
    have moved : after.memory = (before.memory.update now (update.apply loaded)).2 := by
      show (start.run (schedule ++ [.advance party now freshId])).memory = _
      rw [Traffic.run_append_singleton, Traffic.next_advance asks]
      rfl
    refine ⟨update, loaded, current, named, loads, there, ?_, rfl,
      update.keeps_apply_iff loaded current now⟩
    rw [moved, replaced]
    exact Memory.find_replace there

/-! Somebody changes a name, and the account is deactivated in the meantime. -/

def bridge : Issuer :=
  { codec := { key := ⟨⟨Bytes.littleEndian 32 0, rfl⟩⟩, application := "bridge" }
    lifetime := .ofMinutes 60 }

def ada : Account :=
  { id := default, name := "Ada", email := "ada@example.com", phoneNumber := "+2348000000001"
    status := .active, details := {}, createdAt := .epoch, updatedAt := .epoch }

def adaClaims : Token.Claims :=
  { audience := "bridge", issuer := "bridge", issuedAt := .epoch, notBefore := .epoch
    expiresAt := ⟨3600, 0, by decide⟩, subject := ada.id, account := ada }

def adaNonce : Crypto.ChaCha20.Nonce := ⟨Bytes.littleEndian 24 0, rfl⟩

def nameChange : Submission :=
  { moment := { now := .epoch, salt := none, nonce := none }
    headers := bearing (Token.sealText bridge.codec.key adaNonce (Token.payload adaClaims))
    body := Message.encode ({ name := some "Ada Lovelace" } : UpdateProfileRequest) }

theorem nameChange_names : Names nameChange.body { name := some "Ada Lovelace" } :=
  ⟨{ name := some "Ada Lovelace" }, by decide +kernel, rfl, rfl⟩

theorem session_nameChange :
    nameChange.session bridge =
      .ask (.findById ada.id) (nameChange.proceed bridge adaClaims.expiresAt) := by
  have early : Instant.epoch < adaClaims.expiresAt := by decide
  have verified : verifiedClaims bridge.codec (some (metadataOfHeaders nameChange.headers))
      nameChange.moment.now = .ok adaClaims := by
    rw [nameChange]
    exact verifiedClaims_bearing bridge.codec adaNonce early
  exact Submission.session_of_ok verified

def renamed : Account := { ada with name := "Ada Lovelace" }

def deactivated : Account := { ada with status := .inactive }

def adaAlone : Memory :=
  { rows := [{ account := ada, passwordHash := "" }] }

/-- The party loads the account, and then somebody else deactivates it. -/
def deactivation : List Move :=
  [.advance 0 .epoch default,
    .arrive { call := .update deactivated, now := .epoch, freshId := default }]

theorem sessions_deactivation :
    ((profileTraffic bridge (fun _ => nameChange) adaAlone).run deactivation).sessions 0 =
      .ask (.update renamed) Submission.reply := by
  have asks : (profileTraffic bridge (fun _ => nameChange) adaAlone).sessions 0 = _ :=
    session_nameChange
  rw [deactivation, Traffic.run, List.foldl_cons, Traffic.next_advance asks]
  exact Submission.handled_of_names nameChange_names bridge ⟨ada, adaClaims.expiresAt⟩

theorem memory_deactivation :
    ((profileTraffic bridge (fun _ => nameChange) adaAlone).run deactivation).memory =
      { rows := [{ account := deactivated, passwordHash := "" }] } := by
  have asks : (profileTraffic bridge (fun _ => nameChange) adaAlone).sessions 0 = _ :=
    session_nameChange
  rw [deactivation, Traffic.run, List.foldl_cons, Traffic.next_advance asks]
  rfl

theorem update_deactivation :
    (((profileTraffic bridge (fun _ => nameChange) adaAlone).run deactivation).memory.update
      .epoch renamed).1 = .ok renamed := by
  rw [memory_deactivation]
  rfl

theorem nameChange_stores_loaded_account :
    let start := profileTraffic bridge (fun _ => nameChange) adaAlone
    let before := start.run deactivation
    let after := start.run (deactivation ++ [.advance 0 .epoch default])
    before.sessions 0 = .ask (.update renamed) Submission.reply ∧
      (before.memory.update .epoch renamed).1 = .ok renamed ∧
        ∃ update loaded current, Names nameChange.body update ∧
          Loads start deactivation 0 loaded ∧
          before.memory.find (fun other => other.id == loaded.id) = .ok current ∧
          after.memory.find (fun other => other.id == loaded.id) = .ok renamed ∧
          renamed = { update.apply loaded with updatedAt := .epoch } ∧
          (update.Keeps current renamed ↔ update.Keeps current loaded) :=
  ⟨sessions_deactivation, update_deactivation,
    update_stores_loaded_account bridge (fun _ => nameChange) adaAlone deactivation 0 .epoch
      default renamed renamed Submission.reply sessions_deactivation update_deactivation⟩

/-- The change names no status, and the account is active again. -/
theorem nameChange_reactivates :
    let start := profileTraffic bridge (fun _ => nameChange) adaAlone
    let before := start.run deactivation
    let after := start.run (deactivation ++ [.advance 0 .epoch default])
    Names nameChange.body { name := some "Ada Lovelace" } ∧
      before.sessions 0 = .ask (.update renamed) Submission.reply ∧
      before.memory.find (fun other => other.id == ada.id) = .ok deactivated ∧
      after.memory.find (fun other => other.id == ada.id) = .ok renamed ∧
      renamed.status = .active ∧
      ¬ ProfileUpdate.Keeps { name := some "Ada Lovelace" } deactivated renamed := by
  refine ⟨nameChange_names, sessions_deactivation, ?_, ?_, rfl, ?_⟩
  · rw [memory_deactivation]
    rfl
  · rw [Traffic.run_append_singleton, Traffic.next_advance sessions_deactivation,
      memory_deactivation]
    rfl
  · intro keeps
    cases keeps.status

end Rpc

end Turnstile
