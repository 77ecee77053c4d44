import Turnstile.Proofs.Rpc.Registration

/-!
Requests one after another. Each is served to its end before the next one comes. No row is lost on
the way, and rows stay unique, if each registration brings an identifier that no row has.
-/

namespace Turnstile

open Turnstile.Store Turnstile.Time

def Auth.Registration.row (registration : Registration) (moment : Moment) (freshId : Account.Id)
    (passwordHash : String) : Row :=
  { account := (registration.newAccount moment.now passwordHash).withId freshId, passwordHash }

namespace Rpc

open Auth Wire

/-- A request, with what it finds when it comes: the time and the random bytes, the clock of the
store, and the identifier that an account gets if one is created. -/
structure Visit where
  request : Request
  moment : Moment
  instant : Instant
  freshId : Account.Id

namespace Visit

def served (visit : Visit) (issuer : Issuer) (memory : Memory) : Except Status Bytes × Memory :=
  (serve issuer visit.moment visit.request).run (Memory.respond visit.instant visit.freshId) memory

/-- A registration brings an identifier that no row has. -/
def IsFresh (visit : Visit) (memory : Memory) : Prop :=
  visit.request.path = Procedure.register.path →
    ∀ row ∈ memory.rows, row.account.id ≠ visit.freshId

def row (visit : Visit) (query : RegisterRequest) (salt : Password.Salt) : Row :=
  (registrationOf query).row visit.moment visit.freshId (Password.hash salt query.password)

section Registrations

variable (visit : Visit) (issuer : Issuer) {memory : Memory} {query : RegisterRequest}

theorem served_of_conflict (applies : Applies visit.request query) {field : UniqueField}
    (conflict : memory.conflict? none query.email query.phoneNumber = some field) :
    visit.served issuer memory =
      (.error (.ofError (.ofStore (.uniqueViolation field))), memory) := by
  rw [served, serve_of_applies issuer visit.moment applies]
  show (afterVacancy issuer visit.moment query (memory.requireVacant _ _)).run _ memory = _
  rw [Memory.requireVacant, conflict]
  rfl

variable {visit} in
theorem create_row (salt : Password.Salt)
    (free : memory.conflict? none query.email query.phoneNumber = none) :
    memory.create visit.freshId ((registrationOf query).newAccount visit.moment.now
        (Password.hash salt query.password)) =
      (.ok (visit.row query salt).account, memory.insert (visit.row query salt)) := by
  rw [Memory.create]
  dsimp only [Registration.newAccount, registrationOf]
  rw [free]
  rfl

theorem served_of_free (applies : Applies visit.request query)
    (free : memory.conflict? none query.email query.phoneNumber = none) :
    visit.served issuer memory =
      match visit.moment.salt with
      | none => (.error (.ofError .internal), memory)
      | some salt =>
          (registered (issuer.grant visit.moment (visit.row query salt).account),
            memory.insert (visit.row query salt)) := by
  rw [served, serve_of_applies issuer visit.moment applies]
  show (afterVacancy issuer visit.moment query (memory.requireVacant _ _)).run _ memory = _
  rw [Memory.requireVacant, free]
  dsimp only
  rw [afterVacancy, Registration.passwordHash]
  cases visit.moment.salt with
  | none => rfl
  | some salt =>
      show (afterCreation issuer visit.moment (memory.create visit.freshId _).1).run _
        (memory.create visit.freshId _).2 = _
      rw [show (registrationOf query).password = query.password from rfl, create_row salt free]
      exact Dialogue.run_ofExcept ..

/-- A registration creates its row, or it fails and leaves everything as it is. -/
theorem served_of_registers (memory : Memory)
    (registers : visit.request.path = Procedure.register.path) :
    (∃ status, visit.served issuer memory = (.error status, memory)) ∨
      ∃ query salt, Applies visit.request query ∧ visit.moment.salt = some salt ∧
        memory.conflict? none query.email query.phoneNumber = none ∧
        visit.served issuer memory =
          (registered (issuer.grant visit.moment (visit.row query salt).account),
            memory.insert (visit.row query salt)) := by
  rcases applies_or_fails issuer visit.moment registers with ⟨query, applies⟩ | ⟨status, failed⟩
  · cases free : memory.conflict? none query.email query.phoneNumber with
    | some field => exact .inl ⟨_, visit.served_of_conflict issuer applies free⟩
    | none =>
        have ended := visit.served_of_free issuer applies free
        cases salted : visit.moment.salt with
        | none =>
            rw [salted] at ended
            exact .inl ⟨_, ended⟩
        | some salt =>
            rw [salted] at ended
            exact .inr ⟨query, salt, applies, rfl, free, ended⟩
  · left
    refine ⟨status, ?_⟩
    rw [served, failed]
    rfl

end Registrations

theorem keeps (visit : Visit) (issuer : Issuer) {memory : Memory} (unique : memory.IsUnique)
    (fresh : visit.IsFresh memory) :
    (visit.served issuer memory).2.IsUnique ∧
      memory.GrowsInto (visit.served issuer memory).2 := by
  by_cases registers : visit.request.path = Procedure.register.path
  · rcases visit.served_of_registers issuer memory registers with
      ⟨status, failed⟩ | ⟨query, salt, -, -, free, created⟩
    · rw [failed]
      exact ⟨unique, .refl memory⟩
    · have kept := unique.create (fresh registers) ((registrationOf query).newAccount
        visit.moment.now (Password.hash salt query.password))
      rw [create_row salt free] at kept
      rw [created]
      exact ⟨kept, _, memory.gains_insert _⟩
  · have creates : (serve issuer visit.moment visit.request).Asks fun call =>
        call.method ≠ .create :=
      (asks_serve issuer visit.moment visit.request).mono
        fun _ may => may.method_ne_create registers
    rcases (respectful_serve issuer visit.moment visit.request memory).gains_run unique creates
      visit.instant visit.freshId with ⟨kept, gains⟩
    exact ⟨kept, _, gains⟩

end Visit

def afterVisits (issuer : Issuer) (memory : Memory) (visits : List Visit) : Memory :=
  visits.foldl (fun memory visit => (visit.served issuer memory).2) memory

def AllFresh (issuer : Issuer) : Memory → List Visit → Prop
  | _, [] => True
  | memory, visit :: rest =>
      visit.IsFresh memory ∧ AllFresh issuer (visit.served issuer memory).2 rest

section Runs

variable {issuer : Issuer} {memory : Memory}

theorem afterVisits_append (visits further : List Visit) :
    afterVisits issuer memory (visits ++ further) =
      afterVisits issuer (afterVisits issuer memory visits) further :=
  List.foldl_append

theorem afterVisits_singleton (visit : Visit) :
    afterVisits issuer memory [visit] = (visit.served issuer memory).2 := rfl

theorem allFresh_append {visits further : List Visit} :
    AllFresh issuer memory (visits ++ further) ↔
      AllFresh issuer memory visits ∧ AllFresh issuer (afterVisits issuer memory visits) further := by
  induction visits generalizing memory with
  | nil => exact (and_iff_right trivial).symm
  | cons visit rest induction =>
      rw [List.cons_append, AllFresh, AllFresh, induction, and_assoc]
      rfl

theorem afterVisits_keeps {visits : List Visit} (unique : memory.IsUnique)
    (fresh : AllFresh issuer memory visits) :
    (afterVisits issuer memory visits).IsUnique ∧
      memory.GrowsInto (afterVisits issuer memory visits) := by
  induction visits generalizing memory with
  | nil => exact ⟨unique, .refl memory⟩
  | cons visit rest induction =>
      rcases visit.keeps issuer unique fresh.left with ⟨kept, grows⟩
      rcases induction kept fresh.right with ⟨last, growsMore⟩
      exact ⟨last, grows.trans growsMore⟩

end Runs

end Rpc

end Turnstile
