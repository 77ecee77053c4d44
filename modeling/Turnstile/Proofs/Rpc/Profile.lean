import Turnstile.Proofs.Rpc.Visits
import Turnstile.Proofs.Store.Ownership
import Turnstile.Proofs.Wire.Account

/-!
What callers do with their own accounts. Whoever is admitted has a row in the store, the one that
the token names. Reading the profile shows this row whatever else is in the store. Changing it sets
what the request carries in this row and nothing else, or it fails and nothing is set; in a request
that is in order the only obstacle is a phone number that somebody else has.
-/

namespace Turnstile.Rpc

open Turnstile.Auth Turnstile.Store Turnstile.Time Turnstile.Wire

/-! ## What a request makes of an account -/

structure AsksFor (body : Bytes) (query : UpdateProfileRequest) (update : ProfileUpdate) :
    Prop where
  read : Message.decode? body = some query
  valid : checkUpdateProfile query = .ok ()
  asked : profileUpdateOf query = .ok update

/-- What the request carries is set, the details as a whole, and everything else is kept but for
the time of the update. -/
structure Rewrites (query : UpdateProfileRequest) (now : Instant) (before after : Account) :
    Prop where
  id : after.id = before.id
  email : after.email = before.email
  status : after.status = before.status
  createdAt : after.createdAt = before.createdAt
  updatedAt : after.updatedAt = now
  name : after.name = query.name.getD before.name
  phoneNumber : after.phoneNumber = query.phoneNumber.getD before.phoneNumber
  detailsKept : query.details = none → after.details = before.details
  detailsSet : ∀ details, query.details = some details → details.toAccount = .ok after.details

theorem fields_of_profileUpdateOf {query : UpdateProfileRequest} {update : ProfileUpdate}
    (asked : profileUpdateOf query = .ok update) :
    update.name = query.name ∧ update.phoneNumber = query.phoneNumber ∧
      (query.details = none → update.details = none) ∧
      ∀ details, query.details = some details →
        ∃ account, update.details = some account ∧ details.toAccount = .ok account := by
  rw [profileUpdateOf] at asked
  split at asked
  · rename_i absent
    cases asked
    refine ⟨rfl, rfl, fun _ => rfl, ?_⟩
    intro details present
    rw [absent] at present
    cases present
  · rename_i details present
    rcases exists_ok_of_map asked with ⟨account, read, rfl⟩
    refine ⟨rfl, rfl, ?_, ?_⟩
    · intro absent
      rw [absent] at present
      cases present
    · intro other there
      rw [present] at there
      cases there
      exact ⟨account, rfl, read⟩

theorem rewrites_apply {query : UpdateProfileRequest} {update : ProfileUpdate}
    (asked : profileUpdateOf query = .ok update) (account : Account) (now : Instant) :
    Rewrites query now account { update.apply account with updatedAt := now } := by
  rcases fields_of_profileUpdateOf asked with ⟨name, phoneNumber, kept, set⟩
  refine ⟨rfl, rfl, rfl, rfl, rfl, ?_, ?_, ?_, ?_⟩
  · rw [← name]
    rfl
  · rw [← phoneNumber]
    rfl
  · intro absent
    show update.details.getD account.details = account.details
    rw [kept absent, Option.getD_none]
  · intro details present
    rcases set details present with ⟨wanted, there, read⟩
    show details.toAccount = .ok (update.details.getD account.details)
    rw [there, Option.getD_some, read]

/-! ## Whoever is admitted -/

theorem not_isPublicPath_getProfile : ¬ IsPublicPath Procedure.getProfile.path := by
  rw [← policyOfPath_eq_public_iff]
  decide

theorem not_isPublicPath_updateProfile : ¬ IsPublicPath Procedure.updateProfile.path := by
  rw [← policyOfPath_eq_public_iff]
  decide

theorem run_serve_of_admitted {State : Type} {responder : Dialogue.Responder Call.Answer State}
    {state after : State} {issuer : Issuer} {moment : Moment} {request : Request} {caller : Caller}
    (admitted : (admission issuer moment request.headers).run responder state =
      (.ok caller, after))
    {procedure : Procedure} (path : request.path = procedure.path)
    (closed : ¬ IsPublicPath procedure.path) :
    (serve issuer moment request).run responder state =
      (procedure.call issuer moment (some caller) request.body).run responder after := by
  rw [serve, path, gate_of_not_public closed, Dialogue.run_bind, Dialogue.run_mapFailure,
    Dialogue.run_map, admitted, Procedure.ofPath?_path]
  rfl

def changed (account : Account) : Bytes :=
  Message.encode ({ user := some (User.ofAccount account) } : UpdateProfileResponse)

section Replies

variable {State : Type} (responder : Dialogue.Responder Call.Answer State) (state : State)

theorem Submission.run_reply_ok (account : Account) :
    (Submission.reply (.ok account)).run responder state = (.ok (changed account), state) :=
  Dialogue.run_ofExcept ..

theorem Submission.run_reply_error (error : Store.Error) :
    (Submission.reply (.error error)).run responder state =
      (.error (.ofError (.ofStore error)), state) :=
  Dialogue.run_ofExcept ..

end Replies

namespace Visit

def admitted (visit : Visit) (issuer : Issuer) (memory : Memory) : Except Auth.Error Caller :=
  ((admission issuer visit.moment visit.request.headers).run
    (Memory.respond visit.instant visit.freshId) memory).1

variable {visit : Visit} {issuer : Issuer} {memory : Memory} {caller : Caller}

theorem run_admission_of_admitted (admitted : visit.admitted issuer memory = .ok caller) :
    (admission issuer visit.moment visit.request.headers).run
      (Memory.respond visit.instant visit.freshId) memory = (.ok caller, memory) :=
  Prod.ext admitted
    (run_admission visit.instant visit.freshId memory issuer visit.moment visit.request.headers)

theorem admitted_of_ok {claims : Token.Claims}
    (verified : verifiedClaims issuer.codec (some (metadataOfHeaders visit.request.headers))
      visit.moment.now = .ok claims) :
    visit.admitted issuer memory =
      verdict claims.expiresAt (memory.find fun account => account.id == claims.subject) := by
  rw [admitted, admission, run_authenticate_of_ok verified]
  rfl

theorem exists_row_of_admitted (admitted : visit.admitted issuer memory = .ok caller) :
    ∃ row ∈ memory.rows, row.account = caller.account ∧ ∃ claims,
      verifiedClaims issuer.codec (some (metadataOfHeaders visit.request.headers))
        visit.moment.now = .ok claims ∧ claims.subject = row.account.id := by
  rcases exists_claims_of_admitted admitted with ⟨claims, verified, answer⟩
  have found : memory.find (fun account => account.id == claims.subject) = .ok caller.account :=
    answer
  rcases exists_row_of_find found with ⟨row, member, loaded⟩
  refine ⟨row, member, loaded, claims, verified, ?_⟩
  rw [loaded]
  exact (Memory.id_of_find found).symm

theorem admitted_elsewhere (unique : memory.IsUnique) {row : Row} (member : row ∈ memory.rows)
    (loaded : row.account = caller.account) (admitted : visit.admitted issuer memory = .ok caller)
    {other : Memory} (otherUnique : other.IsUnique) (there : row ∈ other.rows) :
    visit.admitted issuer other = .ok caller := by
  rcases exists_claims_of_admitted admitted with ⟨claims, verified, found⟩
  have subject : claims.subject = row.account.id := by
    rw [loaded]
    exact (Memory.id_of_find found).symm
  rw [admitted_of_ok verified, subject] at admitted ⊢
  rw [unique.ids.find_eq member] at admitted
  rw [otherUnique.ids.find_eq there, admitted]

/-! ## Reading -/

theorem served_getProfile (admitted : visit.admitted issuer memory = .ok caller)
    (reads : visit.request.path = Procedure.getProfile.path) :
    visit.served issuer memory =
      match (Message.decode? visit.request.body : Option GetProfileRequest) with
      | none => (.error ⟨.internal, "failed to decode Protobuf message"⟩, memory)
      | some _ =>
          (.ok (Message.encode
            ({ user := some (User.ofAccount caller.account) } : GetProfileResponse)), memory) := by
  rw [served, run_serve_of_admitted (run_admission_of_admitted admitted) reads
    not_isPublicPath_getProfile, Procedure.call, exchange]
  cases (Message.decode? visit.request.body : Option GetProfileRequest) with
  | none => rfl
  | some query => rfl

/-- The profile that is shown is the row's, and the same wherever this row is. -/
structure ReadsOwn (visit : Visit) (issuer : Issuer) (memory : Memory) (row : Row) : Prop where
  unchanged : (visit.served issuer memory).2 = memory
  response : ∀ query, (Message.decode? visit.request.body : Option GetProfileRequest) = some query →
    (visit.served issuer memory).1 = .ok (Message.encode
      ({ user := some (User.ofAccount row.account) } : GetProfileResponse))
  elsewhere : ∀ other : Memory, other.IsUnique → row ∈ other.rows →
    (visit.served issuer other).1 = (visit.served issuer memory).1

theorem readsOwn (unique : memory.IsUnique) {row : Row} (member : row ∈ memory.rows)
    (loaded : row.account = caller.account) (admitted : visit.admitted issuer memory = .ok caller)
    (reads : visit.request.path = Procedure.getProfile.path) :
    visit.ReadsOwn issuer memory row where
  unchanged := by
    rw [served_getProfile admitted reads]
    split <;> rfl
  response := by
    intro query read
    rw [served_getProfile admitted reads, read, loaded]
  elsewhere := by
    intro other otherUnique there
    have again := admitted_elsewhere unique member loaded admitted otherUnique there
    rw [served_getProfile admitted reads, served_getProfile again reads]
    split <;> rfl

/-! ## Changing -/

theorem served_updateProfile (admitted : visit.admitted issuer memory = .ok caller)
    (changes : visit.request.path = Procedure.updateProfile.path) :
    visit.served issuer memory =
      ((Submission.mk visit.moment visit.request.headers visit.request.body).handled issuer
        caller).run (Memory.respond visit.instant visit.freshId) memory := by
  rw [served, run_serve_of_admitted (run_admission_of_admitted admitted) changes
    not_isPublicPath_updateProfile]
  rfl

theorem served_of_asksFor (unique : memory.IsUnique) {row : Row} (member : row ∈ memory.rows)
    (loaded : row.account = caller.account) (admitted : visit.admitted issuer memory = .ok caller)
    (changes : visit.request.path = Procedure.updateProfile.path) {query : UpdateProfileRequest}
    {update : ProfileUpdate} (asks : AsksFor visit.request.body query update) :
    visit.served issuer memory =
      if memory.HoldsElsewhere row (query.phoneNumber.getD row.account.phoneNumber) then
        (.error (.ofError .phoneNumberExists), memory)
      else
        let stored := { update.apply row.account with updatedAt := visit.instant }
        (.ok (changed stored), memory.replace stored) := by
  have named : Names visit.request.body update := ⟨query, asks.read, asks.valid, asks.asked⟩
  have phoneNumber : (update.apply row.account).phoneNumber =
      query.phoneNumber.getD row.account.phoneNumber :=
    (rewrites_apply asks.asked row.account visit.instant).phoneNumber
  have updated := unique.update_own member (update.apply row.account) rfl rfl visit.instant
  rw [served_updateProfile admitted changes, Submission.handled_of_names named, ← loaded]
  show (Submission.reply (memory.update visit.instant (update.apply row.account)).1).run _
    (memory.update visit.instant (update.apply row.account)).2 = _
  rw [updated, ← phoneNumber]
  by_cases held : memory.HoldsElsewhere row (update.apply row.account).phoneNumber
  · rw [if_pos held, if_pos held]
    exact Submission.run_reply_error ..
  · rw [if_neg held, if_neg held]
    dsimp only
    rw [Submission.run_reply_ok]

theorem served_of_not_asksFor (admitted : visit.admitted issuer memory = .ok caller)
    (changes : visit.request.path = Procedure.updateProfile.path)
    (unasked : ¬ ∃ query update, AsksFor visit.request.body query update) :
    ∃ status, status.code ≠ .alreadyExists ∧
      visit.served issuer memory = (.error status, memory) := by
  have unnamed : ¬ ∃ update, Names visit.request.body update := by
    rintro ⟨update, query, read, valid, asked⟩
    exact unasked ⟨query, update, read, valid, asked⟩
  rcases @Submission.handled_of_not_names
      ⟨visit.moment, visit.request.headers, visit.request.body⟩ unnamed issuer caller with
    ⟨status, other, failed⟩
  refine ⟨status, other, ?_⟩
  rw [served_updateProfile admitted changes, failed]
  rfl

/-- The profile that is changed is the row's, and it is changed as asked or not at all. -/
structure ChangesOwn (visit : Visit) (issuer : Issuer) (memory : Memory) (row : Row) : Prop where
  succeeds : ∀ response, (visit.served issuer memory).1 = .ok response →
    ∃ query update stored, AsksFor visit.request.body query update ∧
      Rewrites query visit.instant row.account stored ∧
      Memory.Swaps row stored memory (visit.served issuer memory).2 ∧
      response = Message.encode
        ({ user := some (User.ofAccount stored) } : UpdateProfileResponse)
  taken : (visit.served issuer memory).1 = .error (.ofError .phoneNumberExists) ↔
    ∃ query update phoneNumber, AsksFor visit.request.body query update ∧
      query.phoneNumber = some phoneNumber ∧ memory.HoldsElsewhere row phoneNumber
  admits : ∀ query update, AsksFor visit.request.body query update →
    (∀ phoneNumber, query.phoneNumber = some phoneNumber →
      ¬ memory.HoldsElsewhere row phoneNumber) →
    ∃ response, (visit.served issuer memory).1 = .ok response
  fails : ∀ status, (visit.served issuer memory).1 = .error status →
    (visit.served issuer memory).2 = memory

theorem changesOwn (unique : memory.IsUnique) {row : Row} (member : row ∈ memory.rows)
    (loaded : row.account = caller.account) (admitted : visit.admitted issuer memory = .ok caller)
    (changes : visit.request.path = Procedure.updateProfile.path) :
    visit.ChangesOwn issuer memory row where
  succeeds := by
    intro response succeeded
    by_cases asked : ∃ query update, AsksFor visit.request.body query update
    · rcases asked with ⟨query, update, asks⟩
      rw [served_of_asksFor unique member loaded admitted changes asks] at succeeded ⊢
      split at succeeded
      · cases succeeded
      · rename_i free
        cases succeeded
        rw [if_neg free]
        exact ⟨query, update, _, asks, rewrites_apply asks.asked row.account visit.instant,
          unique.swaps_replace member rfl, rfl⟩
    · rcases served_of_not_asksFor admitted changes asked with ⟨status, -, failed⟩
      rw [failed] at succeeded
      cases succeeded
  taken := by
    constructor
    · intro refused
      by_cases asked : ∃ query update, AsksFor visit.request.body query update
      · rcases asked with ⟨query, update, asks⟩
        rw [served_of_asksFor unique member loaded admitted changes asks] at refused
        split at refused
        · rename_i held
          rcases (unique.holdsElsewhere_getD_iff member query.phoneNumber).mp held with
            ⟨phoneNumber, carried, there⟩
          exact ⟨query, update, phoneNumber, asks, carried, there⟩
        · cases refused
      · rcases served_of_not_asksFor admitted changes asked with ⟨status, other, failed⟩
        rw [failed] at refused
        cases refused
        exact absurd rfl other
    · rintro ⟨query, update, phoneNumber, asks, carried, there⟩
      have held := (unique.holdsElsewhere_getD_iff member query.phoneNumber).mpr
        ⟨phoneNumber, carried, there⟩
      rw [served_of_asksFor unique member loaded admitted changes asks, if_pos held]
  admits := by
    intro query update asks free
    have held : ¬ memory.HoldsElsewhere row (query.phoneNumber.getD row.account.phoneNumber) := by
      rw [unique.holdsElsewhere_getD_iff member]
      rintro ⟨phoneNumber, carried, there⟩
      exact free phoneNumber carried there
    rw [served_of_asksFor unique member loaded admitted changes asks, if_neg held]
    exact ⟨_, rfl⟩
  fails := by
    intro status failed
    have other : visit.request.path ≠ Procedure.register.path := by
      rw [changes]
      decide
    exact failsWithoutTrace_serve issuer visit.moment other visit.instant visit.freshId memory
      status failed

structure Owns (visit : Visit) (issuer : Issuer) (memory : Memory) (row : Row) : Prop where
  named : ∃ claims, verifiedClaims issuer.codec (some (metadataOfHeaders visit.request.headers))
    visit.moment.now = .ok claims ∧ claims.subject = row.account.id
  reads : visit.request.path = Procedure.getProfile.path → visit.ReadsOwn issuer memory row
  changes : visit.request.path = Procedure.updateProfile.path → visit.ChangesOwn issuer memory row

end Visit

/-- Every caller reads and changes the row that the token names, and nothing else. -/
theorem callers_own_one_row (issuer : Issuer) (memory : Memory) (visit : Visit) (caller : Caller)
    (unique : memory.IsUnique) (admitted : visit.admitted issuer memory = .ok caller) :
    ∃ row ∈ memory.rows, visit.Owns issuer memory row := by
  rcases visit.exists_row_of_admitted admitted with ⟨row, member, loaded, named⟩
  exact ⟨row, member,
    { named
      reads := Visit.readsOwn unique member loaded admitted
      changes := Visit.changesOwn unique member loaded admitted }⟩

/-! Two accounts, one of which changes its name. -/

def grace : Account :=
  { ada with
    id := ⟨Bytes.littleEndian 16 1, rfl⟩, name := "Grace", email := "grace@example.com"
    phoneNumber := "+2348000000002" }

def adaAndGrace : Memory :=
  { rows := [{ account := ada, passwordHash := "" }, { account := grace, passwordHash := "" }] }

def nameChangeVisit : Visit :=
  { request :=
      { path := Procedure.updateProfile.path, headers := nameChange.headers
        body := nameChange.body }
    moment := nameChange.moment, instant := .epoch, freshId := default }

theorem ada_owns_one_row :
    adaAndGrace.IsUnique ∧
      nameChangeVisit.admitted bridge adaAndGrace = .ok ⟨ada, adaClaims.expiresAt⟩ ∧
      ∃ row ∈ adaAndGrace.rows, nameChangeVisit.Owns bridge adaAndGrace row := by
  have unique : adaAndGrace.IsUnique :=
    ⟨show List.Nodup _ by decide, show List.Nodup _ by decide, show List.Nodup _ by decide⟩
  have early : Instant.epoch < adaClaims.expiresAt := by decide
  have verified : verifiedClaims bridge.codec
      (some (metadataOfHeaders nameChangeVisit.request.headers)) nameChangeVisit.moment.now =
      .ok adaClaims := by
    rw [nameChangeVisit, nameChange]
    exact verifiedClaims_bearing bridge.codec adaNonce early
  have admitted : nameChangeVisit.admitted bridge adaAndGrace =
      .ok ⟨ada, adaClaims.expiresAt⟩ := by
    rw [Visit.admitted_of_ok verified]
    rfl
  exact ⟨unique, admitted, callers_own_one_row bridge adaAndGrace nameChangeVisit _ unique
    admitted⟩

end Turnstile.Rpc
