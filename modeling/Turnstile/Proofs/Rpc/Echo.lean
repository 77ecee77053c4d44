import Turnstile.Proofs.Rpc.Details
import Turnstile.Proofs.Rpc.Lasting

/-!
A caller sends the details of its profile back as they are shown. They are accepted, and kept but
for what is cut off the time of the verification, if that time lies in a plain year of universal
time. A timestamp that is read always has a plain year, but its offset may carry it over the end of
the first year or of the last one, and then what is shown is no timestamp any more.
-/

namespace Turnstile.Rpc

open Turnstile.Auth Turnstile.Store Turnstile.Time Turnstile.Wire

def unreadableTime : Auth.Error :=
  .invalidArgument "verified_at must be an RFC 3339 timestamp"

theorem profileUpdateOf_of_details {query : UpdateProfileRequest} {shown : UserMeta}
    (carried : query.details = some shown) :
    profileUpdateOf query = shown.toAccount.map fun details =>
      { name := query.name, phoneNumber := query.phoneNumber, details := some details } := by
  rw [profileUpdateOf, carried]

theorem Submission.handled_of_refused {submission : Submission} {query : UpdateProfileRequest}
    {error : Auth.Error} (read : Message.decode? submission.body = some query)
    (valid : checkUpdateProfile query = .ok ()) (refused : profileUpdateOf query = .error error)
    (issuer : Issuer) (caller : Caller) :
    submission.handled issuer caller = .fail (.ofError error) := by
  rw [handled, Procedure.call, exchange, read]
  dsimp only
  rw [updateProfileHandler_some, valid, refused]
  rfl

namespace Visit

/-- A change of the profile with the details that are shown in it, and with other fields that are
in order. -/
structure Echoes (visit : Visit) (memory : Memory) (row : Row) (query : UpdateProfileRequest) :
    Prop where
  changes : visit.request.path = Procedure.updateProfile.path
  read : Message.decode? visit.request.body = some query
  valid : checkUpdateProfile query = .ok ()
  free : ∀ phoneNumber, query.phoneNumber = some phoneNumber →
    ¬ memory.HoldsElsewhere row phoneNumber
  shown : query.details = (User.ofAccount row.account).details

structure Echoed (visit : Visit) (issuer : Issuer) (memory : Memory) (row : Row)
    (query : UpdateProfileRequest) : Prop where
  accepted : row.account.details.hasPlainYear = true →
    ∃ stored, (visit.served issuer memory).1 = .ok (changed stored) ∧
      Memory.Swaps row stored memory (visit.served issuer memory).2 ∧
      Rewrites query visit.instant row.account stored ∧
      stored.details = row.account.details.toMilliseconds
  refused : row.account.details.hasPlainYear = false →
    visit.served issuer memory = (.error (.ofError unreadableTime), memory)

variable {visit : Visit} {issuer : Issuer} {memory : Memory} {caller : Caller} {row : Row}
  {query : UpdateProfileRequest}

theorem Echoes.profileUpdateOf_eq (echoes : visit.Echoes memory row query) :
    profileUpdateOf query =
      if row.account.details.hasPlainYear then
        .ok { name := query.name, phoneNumber := query.phoneNumber
              details := some row.account.details.toMilliseconds }
      else .error unreadableTime := by
  rw [profileUpdateOf_of_details (echoes.shown : query.details = some (UserMeta.ofAccount _)),
    UserMeta.toAccount_ofAccount]
  cases row.account.details.hasPlainYear with
  | true => rfl
  | false => rfl

theorem Echoes.served_of_signed (echoes : visit.Echoes memory row query)
    (admitted : visit.admitted issuer memory = .ok caller)
    (signed : row.account.details.hasPlainYear = false) :
    visit.served issuer memory = (.error (.ofError unreadableTime), memory) := by
  have refused := echoes.profileUpdateOf_eq
  rw [signed] at refused
  rw [served_updateProfile admitted echoes.changes,
    Submission.handled_of_refused echoes.read echoes.valid refused]
  rfl

theorem Echoes.echoed (echoes : visit.Echoes memory row query) (unique : memory.IsUnique)
    (member : row ∈ memory.rows) (loaded : row.account = caller.account)
    (admitted : visit.admitted issuer memory = .ok caller) :
    visit.Echoed issuer memory row query where
  accepted := by
    intro plain
    have asked := echoes.profileUpdateOf_eq
    rw [if_pos plain] at asked
    have held : ¬ memory.HoldsElsewhere row (query.phoneNumber.getD row.account.phoneNumber) := by
      rw [unique.holdsElsewhere_getD_iff member]
      rintro ⟨phoneNumber, carried, there⟩
      exact echoes.free phoneNumber carried there
    rw [served_of_asksFor unique member loaded admitted echoes.changes
      ⟨echoes.read, echoes.valid, asked⟩, if_neg held]
    exact ⟨_, rfl, unique.swaps_replace member rfl, rewrites_apply asked row.account visit.instant,
      rfl⟩
  refused := echoes.served_of_signed admitted

end Visit

/-- In every state that requests lead to, what an account shows of its details is accepted again
and kept to the millisecond if the time in it has a plain year; otherwise it is refused, and nothing
is changed. There the times without a plain year are those of two days. All details are read back in
the same way. -/
theorem shown_details_are_sent_back (issuer : Issuer) :
    (∀ (visits : List Visit) (row : Row) (visit : Visit) (caller : Caller)
      (query : UpdateProfileRequest), AllFresh issuer {} visits →
      row ∈ (afterVisits issuer {} visits).rows → row.account = caller.account →
      visit.admitted issuer (afterVisits issuer {} visits) = .ok caller →
      visit.Echoes (afterVisits issuer {} visits) row query →
        visit.Echoed issuer (afterVisits issuer {} visits) row query) ∧
    (∀ (visits : List Visit) (row : Row), AllFresh issuer {} visits →
      row ∈ (afterVisits issuer {} visits).rows →
        (row.account.details.hasPlainYear = false ↔ row.account.details.HasBorderDate)) ∧
    ∀ details : Account.Meta,
      (UserMeta.ofAccount details).toAccount =
        if details.hasPlainYear then .ok details.toMilliseconds else .error unreadableTime := by
  refine ⟨?_, ?_, UserMeta.toAccount_ofAccount⟩
  · intro visits row visit caller query fresh member loaded admitted echoes
    have unique := (afterVisits_keeps Memory.isUnique_empty fresh).left
    exact echoes.echoed unique member loaded admitted
  · intro visits row fresh member
    exact hasPlainYear_afterVisits_iff fresh member

/-! Somebody registers and sends details, and then sends them again as they are shown. -/

def enrolled : Row :=
  enrolment.row applicant (today.salt.get rfl)

def sending (details : UserMeta) : Visit :=
  { nameChangeVisit with
    request :=
      { path := Procedure.updateProfile.path, headers := nameChange.headers
        body := Message.encode ({ details := some details } : UpdateProfileRequest) } }

def enrolledWith (details : Account.Meta) : Row :=
  { enrolled with account := { enrolled.account with details, updatedAt := .epoch } }

theorem afterVisits_enrolment : afterVisits bridge {} [enrolment] = { rows := [enrolled] } := by
  have applies : Applies application applicant := ⟨rfl, by decide +kernel, rfl, rfl⟩
  have served : enrolment.served bridge {} = _ := enrolment.served_of_free bridge applies rfl
  show (enrolment.served bridge {}).2 = _
  rw [served]
  rfl

theorem isUnique_singleton (row : Row) : Memory.IsUnique { rows := [row] } :=
  ⟨List.nodup_singleton _, List.nodup_singleton _, List.nodup_singleton _⟩

theorem admitted_sending (details : UserMeta) {row : Row} (own : row.account.id = default)
    (active : row.account.status ≠ .inactive) :
    (sending details).admitted bridge { rows := [row] } =
      .ok ⟨row.account, adaClaims.expiresAt⟩ := by
  have early : Instant.epoch < adaClaims.expiresAt := by decide
  have verified : verifiedClaims bridge.codec
      (some (metadataOfHeaders (sending details).request.headers)) (sending details).moment.now =
      .ok adaClaims := by
    rw [sending, nameChange]
    exact verifiedClaims_bearing bridge.codec adaNonce early
  have subject : adaClaims.subject = row.account.id := own.symm
  rw [Visit.admitted_of_ok verified, subject,
    (isUnique_singleton row).ids.find_eq (List.mem_singleton_self row)]
  exact if_neg active

theorem echoes_sending {details : UserMeta} {row : Row}
    (shown : UserMeta.ofAccount row.account.details = details)
    (read : Message.decode? (sending details).request.body =
      some ({ details := some details } : UpdateProfileRequest))
    (memory : Memory) : (sending details).Echoes memory row { details := some details } where
  changes := rfl
  read := read
  valid := rfl
  free phoneNumber carried := by cases carried
  shown := congrArg some shown.symm

section Sending

variable {sent : UserMeta} {details : Account.Meta}
  (asks : AsksFor (sending sent).request.body { details := some sent } { details := some details })
include asks

theorem served_sending :
    (sending sent).served bridge { rows := [enrolled] } =
      (.ok (changed (enrolledWith details).account), { rows := [enrolledWith details] }) := by
  have unique := isUnique_singleton enrolled
  have member := List.mem_singleton_self enrolled
  have free : ¬ ({ rows := [enrolled] } : Memory).HoldsElsewhere enrolled
      enrolled.account.phoneNumber := by
    rw [Memory.HoldsElsewhere]
    simp
  rw [Visit.served_of_asksFor unique member rfl (admitted_sending sent rfl (by decide)) rfl asks]
  exact if_neg free

theorem afterVisits_sending :
    afterVisits bridge {} [enrolment, sending sent] = { rows := [enrolledWith details] } := by
  have ended := congrArg Prod.snd (served_sending asks)
  have appended : afterVisits bridge {} [enrolment, sending sent] = _ :=
    afterVisits_append [enrolment] [sending sent]
  rw [appended, afterVisits_enrolment, afterVisits_singleton, ended]

end Sending

theorem allFresh_sending (sent : UserMeta) : AllFresh bridge {} [enrolment, sending sent] := by
  have other : Procedure.updateProfile.path ≠ Procedure.register.path := by decide
  refine ⟨?_, ?_, trivial⟩
  · intro registers row member
    cases member
  · intro registers
    exact absurd registers other

def verifiedOnce : UserMeta :=
  { kyc := some { verifiedAt := "2023-05-06T07:08:09.123456789+02:00" } }

def verifiedThen : Account.Meta :=
  { kyc := some { verifiedAt := some ⟨1683349689, 123456789, by decide⟩ } }

def shownThen : UserMeta :=
  { kyc := some { verifiedAt := "2023-05-06T05:08:09.123Z" } }

/-- Nanoseconds are sent, milliseconds are shown and sent back. -/
theorem enrolled_is_sent_back :
    let visits := [enrolment, sending verifiedOnce]
    let memory := afterVisits bridge {} visits
    let row := enrolledWith verifiedThen
    let echo := sending shownThen
    verifiedThen.hasPlainYear = true ∧ verifiedThen.toMilliseconds ≠ verifiedThen ∧
      UserMeta.ofAccount verifiedThen = shownThen ∧
      ∃ caller query, AllFresh bridge {} visits ∧ row ∈ memory.rows ∧
        row.account = caller.account ∧ echo.admitted bridge memory = .ok caller ∧
        echo.Echoes memory row query ∧ echo.Echoed bridge memory row query := by
  intro visits memory row echo
  have asks : AsksFor (sending verifiedOnce).request.body { details := some verifiedOnce }
      { details := some verifiedThen } :=
    ⟨by decide +kernel, rfl, by decide +kernel⟩
  have only : memory = { rows := [row] } := afterVisits_sending asks
  have fresh := allFresh_sending verifiedOnce
  have member : row ∈ memory.rows := by
    rw [only]
    exact List.mem_singleton_self row
  have admitted : echo.admitted bridge memory = .ok ⟨row.account, adaClaims.expiresAt⟩ := by
    rw [only]
    exact admitted_sending _ rfl (by decide)
  have plain : verifiedThen.hasPlainYear = true := by decide +kernel
  have cut : verifiedThen.toMilliseconds ≠ verifiedThen := by decide +kernel
  have shown : UserMeta.ofAccount verifiedThen = shownThen := by decide +kernel
  have shownRow : UserMeta.ofAccount row.account.details = shownThen := shown
  have echoes := echoes_sending shownRow (by decide +kernel) memory
  have echoed := (shown_details_are_sent_back bridge).left [enrolment, sending verifiedOnce]
    (enrolledWith verifiedThen) (sending shownThen)
    ⟨(enrolledWith verifiedThen).account, adaClaims.expiresAt⟩ { details := some shownThen }
    fresh member rfl admitted echoes
  exact ⟨plain, cut, shown, _, _, fresh, member, rfl, admitted, echoes, echoed⟩

/-- The first midnight of the first year, an hour east of where time is counted. -/
def verifiedEast : UserMeta :=
  { kyc := some { verifiedAt := "0000-01-01T00:00:00+01:00" } }

def verifiedBefore : Account.Meta :=
  { kyc := some { verifiedAt := some ⟨-62167222800, 0, by decide⟩ } }

def shownBefore : UserMeta :=
  { kyc := some { verifiedAt := "-0001-12-31T23:00:00.000Z" } }

def enrolledEast : Row :=
  enrolledWith verifiedBefore

theorem asks_verifiedEast :
    AsksFor (sending verifiedEast).request.body { details := some verifiedEast }
      { details := some verifiedBefore } :=
  ⟨by decide +kernel, rfl, by decide +kernel⟩

/-- A time that was read and stored is shown as a text that is not read. -/
theorem verifiedBefore_is_refused :
    let memory := afterVisits bridge {} [enrolment, sending verifiedEast]
    let echo := sending shownBefore
    verifiedEast.toAccount = .ok verifiedBefore ∧
      UserMeta.ofAccount verifiedBefore = shownBefore ∧
      AllFresh bridge {} [enrolment, sending verifiedEast] ∧ enrolledEast ∈ memory.rows ∧
      echo.admitted bridge memory = .ok ⟨enrolledEast.account, adaClaims.expiresAt⟩ ∧
      (∃ query, echo.Echoes memory enrolledEast query) ∧
      (echo.served bridge memory).1 = .error (.ofError unreadableTime) := by
  intro memory echo
  have only : memory = { rows := [enrolledEast] } := afterVisits_sending asks_verifiedEast
  have fresh := allFresh_sending verifiedEast
  have admitted : echo.admitted bridge memory =
      .ok ⟨enrolledEast.account, adaClaims.expiresAt⟩ := by
    rw [only]
    exact admitted_sending _ rfl (by decide)
  have shown : UserMeta.ofAccount verifiedBefore = shownBefore := by decide +kernel
  have shownRow : UserMeta.ofAccount enrolledEast.account.details = shownBefore := shown
  have echoes := echoes_sending shownRow (by decide +kernel) memory
  have signed : enrolledEast.account.details.hasPlainYear = false := by decide +kernel
  refine ⟨by decide +kernel, shown, fresh, ?_, admitted, ⟨_, echoes⟩, ?_⟩
  · rw [only]
    exact List.mem_singleton_self enrolledEast
  · exact congrArg Prod.fst (echoes.served_of_signed admitted signed)

end Turnstile.Rpc
