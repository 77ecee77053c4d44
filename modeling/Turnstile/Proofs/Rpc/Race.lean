import Turnstile.Proofs.Rpc.Registration

/-!
Registrations at the same time. That an email is free when a registration asks for it means nothing
for the moment at which the account is created, since others may come in between. What keeps
accounts apart is the creation itself: for an email that is in use it is refused like the first
question would have been, and nothing that runs at the same time gives an email up.
-/

namespace Turnstile

open Turnstile.Store

namespace Rpc

open Auth Wire

theorem respond_of_conflict {call : Call} {email phoneNumber : String}
    (claims : claimed? call = some (email, phoneNumber)) {memory : Memory} {field : UniqueField}
    (conflict : memory.conflict? none email phoneNumber = some field) (now : Time.Instant)
    (freshId : Account.Id) :
    memory.respond now freshId call = (.error (.uniqueViolation field), memory) := by
  cases call with
  | requireVacant wantedEmail wantedPhoneNumber =>
      cases claims
      rw [Memory.respond, Memory.requireVacant, conflict]
      rfl
  | create account =>
      cases claims
      rw [Memory.respond, Memory.create, conflict]
      rfl
  | _ => cases claims

theorem respond_adds_only {call : Call} (other : call.method ≠ .update) (now : Time.Instant)
    (freshId : Account.Id) (memory : Memory) :
    (memory.respond now freshId call).2 = memory ∨
      ∃ row, (memory.respond now freshId call).2 = memory.insert row := by
  cases call with
  | create account =>
      rw [Memory.respond, Memory.create]
      split
      · exact .inl rfl
      · exact .inr ⟨_, rfl⟩
  | update account => exact absurd rfl other
  | _ => exact .inl rfl

def concurrently (issuer : Issuer) (moments : Nat → Moment) (requests : Nat → Request)
    (memory : Memory) : Traffic Status Bytes :=
  { memory, sessions := fun party => serve issuer (moments party) (requests party) }

section Turns

variable {traffic : Traffic Status Bytes} {requests : Nat → Request}
  (claims : ∀ party, (traffic.sessions party).Everywhere (ClaimsOwn (requests party)))
include claims

theorem submits_of_creation {turns : List Turn} {creation : Creation}
    (member : creation ∈ traffic.creations turns) :
    Submits (requests creation.party) creation.row.account.email
      creation.row.account.phoneNumber := by
  induction turns generalizing traffic with
  | nil => cases member
  | cons turn rest induction =>
      rcases List.mem_append.mp member with now | later
      · rcases List.mem_map.mp now with ⟨row, created, rfl⟩
        have own := claims turn.party
        rw [Traffic.created] at created
        cases session : traffic.sessions turn.party with
        | ask call further =>
            rw [session] at created own
            rcases Memory.eq_of_mem_created created with ⟨account, rfl, rfl⟩
            have registers := own.left.left rfl
            exact (own.left.right registers _ _ rfl).left
        | _ =>
            rw [session] at created
            cases created
      · refine induction ?_ later
        exact fun party => Traffic.everywhere_run (claims party) [turn.move]

theorem next_of_conflict {turn : Turn} {call : Call} {further : call.Answer → Session Status Bytes}
    (asks : traffic.sessions turn.party = .ask call further)
    (registers : (requests turn.party).path = Procedure.register.path)
    {email phoneNumber : String} (claimed : claimed? call = some (email, phoneNumber))
    {field : UniqueField}
    (conflict : traffic.memory.conflict? none email phoneNumber = some field) :
    Submits (requests turn.party) email phoneNumber ∧
      (traffic.next turn.move).memory = traffic.memory ∧
      (traffic.next turn.move).sessions turn.party =
        .fail (.ofError (.ofStore (.uniqueViolation field))) := by
  have own := claims turn.party
  rw [asks] at own
  rcases own.left.right registers _ _ claimed with ⟨submits, ends⟩
  rw [Turn.move, Traffic.next_advance asks, respond_of_conflict claimed conflict]
  refine ⟨submits, rfl, ?_⟩
  dsimp only
  rw [Function.update_self]
  exact ends _

end Turns

theorem next_adds_only {traffic : Traffic Status Bytes} {turn : Turn}
    (updatesNothing : (traffic.sessions turn.party).Everywhere
      fun call _ => call.method ≠ .update) :
    (traffic.next turn.move).memory = traffic.memory ∨
      ∃ row, (traffic.next turn.move).memory = traffic.memory.insert row := by
  cases session : traffic.sessions turn.party with
  | ask call further =>
      rw [session] at updatesNothing
      rw [Turn.move, Traffic.next_advance session]
      exact respond_adds_only updatesNothing.left turn.now turn.freshId traffic.memory
  | _ =>
      rw [Turn.move, Traffic.next, session]
      exact .inl rfl

/-- How registrations settle who gets an email, after any turns of requests that go on at the same
time. -/
structure Settles (requests : Nat → Request) (start : Traffic Status Bytes) (turns : List Turn) :
    Prop where
  /-- One row at most is ever created for an email, and none for an email that had one before. -/
  emails : (start.memory.rows.map (·.account.email) ++
    (start.creations turns).map (·.row.account.email)).Nodup
  creators : ∀ creation ∈ start.creations turns, Submits (requests creation.party)
    creation.row.account.email creation.row.account.phoneNumber
  /-- The rows from the beginning and all that were created are there, each with its account. -/
  rows : start.memory.Gains ((start.creations turns).map Creation.row) (start.play turns).memory
  addsOnly : ∀ turn : Turn, (requests turn.party).path = Procedure.register.path →
    ((start.play turns).next turn.move).memory = (start.play turns).memory ∨
      ∃ row, ((start.play turns).next turn.move).memory = (start.play turns).memory.insert row
  /-- Whether it still asks or already creates, an email that is in use by now is refused. -/
  refusesEmail : ∀ (turn : Turn) call further email phoneNumber,
    (requests turn.party).path = Procedure.register.path →
    (start.play turns).sessions turn.party = .ask call further →
    claimed? call = some (email, phoneNumber) →
    (start.play turns).memory.HasEmail email →
      Submits (requests turn.party) email phoneNumber ∧
      ((start.play turns).next turn.move).memory = (start.play turns).memory ∧
      ((start.play turns).next turn.move).sessions turn.party = .fail (.ofError .emailExists)
  refusesPhoneNumber : ∀ (turn : Turn) call further email phoneNumber,
    (requests turn.party).path = Procedure.register.path →
    (start.play turns).sessions turn.party = .ask call further →
    claimed? call = some (email, phoneNumber) →
    ¬ (start.play turns).memory.HasEmail email →
    (start.play turns).memory.HasPhoneNumber phoneNumber →
      Submits (requests turn.party) email phoneNumber ∧
      ((start.play turns).next turn.move).memory = (start.play turns).memory ∧
      ((start.play turns).next turn.move).sessions turn.party =
        .fail (.ofError .phoneNumberExists)
  creates : ∀ (turn : Turn) account further,
    (start.play turns).sessions turn.party = .ask (.create account) further →
    ¬ (start.play turns).memory.HasEmail account.email →
    ¬ (start.play turns).memory.HasPhoneNumber account.phoneNumber →
      ((start.play turns).next turn.move).memory = (start.play turns).memory.insert
        { account := account.withId turn.freshId, passwordHash := account.passwordHash }

/-- Registrations that go on at the same time as any other requests never collide. -/
theorem registrations_settle (issuer : Issuer) (moments : Nat → Moment)
    (requests : Nat → Request) (memory : Memory) (unique : memory.IsUnique) (turns : List Turn)
    (fresh : (concurrently issuer moments requests memory).AllFresh turns) :
    Settles requests (concurrently issuer moments requests memory) turns := by
  have start : ∀ party, ((concurrently issuer moments requests memory).sessions party).Everywhere
      (ClaimsOwn (requests party)) :=
    fun party => everywhere_claimsOwn issuer (moments party) (requests party)
  have claims : ∀ party,
      (((concurrently issuer moments requests memory).play turns).sessions party).Everywhere
        (ClaimsOwn (requests party)) :=
    fun party => Traffic.everywhere_run (start party) _
  have orderly : (concurrently issuer moments requests memory).IsOrderly :=
    ⟨unique, fun party => respectful_serve issuer (moments party) (requests party) memory⟩
  rcases orderly.play fresh with ⟨last, gains⟩
  refine
    { emails := ?_
      creators := fun creation member => submits_of_creation start member
      rows := gains
      addsOnly := ?_
      refusesEmail := ?_
      refusesPhoneNumber := ?_
      creates := ?_ }
  · have emails := last.unique.emails
    rw [Memory.Separates, gains.map_eq Row.Becomes.email, List.map_map] at emails
    exact emails
  · intro turn registers
    have noUpdate : Procedure.register.path ≠ Procedure.updateProfile.path := by decide
    apply next_adds_only
    apply Traffic.everywhere_run
    apply Dialogue.everywhere_of_asks _ (asks_serve issuer (moments turn.party) _)
    intro call next may
    exact may.method_ne_update (registers ▸ noUpdate)
  · intro turn call further email phoneNumber registers asks claimed taken
    exact next_of_conflict claims asks registers claimed
      (Memory.conflict?_of_hasEmail taken phoneNumber)
  · intro turn call further email phoneNumber registers asks claimed free taken
    exact next_of_conflict claims asks registers claimed
      (Memory.conflict?_of_hasPhoneNumber free taken)
  · intro turn account further asks freeEmail freePhoneNumber
    rw [Turn.move, Traffic.next_advance asks, Memory.respond, Memory.create,
      Memory.conflict?_of_free freeEmail freePhoneNumber]

/-! Two want the same email, and both have asked for it before one of them gets it. -/

def bothAsk : List Turn :=
  [{ party := 0, now := today.now, freshId := .ofNat 1 },
    { party := 1, now := today.now, freshId := .ofNat 2 },
    { party := 0, now := today.now, freshId := .ofNat 3 },
    { party := 1, now := today.now, freshId := .ofNat 4 }]

theorem bothAsk_settle :
    Memory.IsUnique {} ∧
      (concurrently bridge (fun _ => today) (fun _ => application) {}).AllFresh bothAsk ∧
      Settles (fun _ => application)
        (concurrently bridge (fun _ => today) (fun _ => application) {}) bothAsk := by
  have fresh : (concurrently bridge (fun _ => today) (fun _ => application) {}).AllFresh
      bothAsk := by
    apply Traffic.allFresh_of_nodup
    · decide +kernel
    · intro row member
      cases member
  exact ⟨Memory.isUnique_empty, fresh, registrations_settle bridge (fun _ => today)
    (fun _ => application) {} Memory.isUnique_empty bothAsk fresh⟩

end Rpc

end Turnstile
