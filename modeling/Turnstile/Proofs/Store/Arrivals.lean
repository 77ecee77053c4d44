import Turnstile.Proofs.Store.Uniqueness

/-!
Calls that come to a store in memory one after the other. If new accounts get identifiers of their
own, the rows stay unique, and there is one more row after every creation that succeeds and after
no other call.
-/

namespace Turnstile.Store

open Turnstile.Time

/-- A call as it comes: with its time, and with the identifier for an account that it creates. -/
structure Arrival where
  call : Call
  now : Instant
  freshId : Account.Id
  deriving DecidableEq

namespace Memory

def after (memory : Memory) (arrival : Arrival) : Memory :=
  (memory.respond arrival.now arrival.freshId arrival.call).2

def afterAll (memory : Memory) (arrivals : List Arrival) : Memory :=
  arrivals.foldl after memory

/-- Every account that is created gets an identifier that no account has at the time. -/
def AllFresh (memory : Memory) : List Arrival → Prop
  | [] => True
  | arrival :: rest =>
      memory.IsFresh arrival.freshId arrival.call ∧ (memory.after arrival).AllFresh rest

instance decidableAllFresh :
    (memory : Memory) → (arrivals : List Arrival) → Decidable (memory.AllFresh arrivals)
  | _, [] => isTrue trivial
  | memory, arrival :: rest =>
      have := decidableAllFresh (memory.after arrival) rest
      inferInstanceAs (Decidable (_ ∧ _))

def creates (memory : Memory) (arrival : Arrival) : Bool :=
  arrival.call.method == .create
    && (memory.respond arrival.now arrival.freshId arrival.call).1.isOk

def creations (memory : Memory) : List Arrival → Nat
  | [] => 0
  | arrival :: rest =>
      (if memory.creates arrival then 1 else 0) + (memory.after arrival).creations rest

theorem IsUnique.afterAll {memory : Memory} (unique : memory.IsUnique) {arrivals : List Arrival}
    (fresh : memory.AllFresh arrivals) : (memory.afterAll arrivals).IsUnique := by
  induction arrivals generalizing memory with
  | nil => exact unique
  | cons arrival rest induction =>
      apply induction
      · exact unique.respond arrival.now fresh.left
      · exact fresh.right

theorem size_insert (memory : Memory) (row : Row) : (memory.insert row).size = memory.size + 1 := by
  rw [size, insert, List.length_append, List.length_singleton, size]

theorem size_replace (memory : Memory) (account : Account) :
    (memory.replace account).size = memory.size := by
  rw [size, replace, List.length_map, size]

theorem size_after (memory : Memory) (arrival : Arrival) :
    (memory.after arrival).size = memory.size + if memory.creates arrival then 1 else 0 := by
  rcases arrival with ⟨call, now, freshId⟩
  cases call with
  | create account =>
      change (memory.create freshId account).2.size =
        memory.size + if (memory.create freshId account).1.isOk then 1 else 0
      rw [create]
      cases memory.conflict? none account.email account.phoneNumber with
      | some field => rfl
      | none => exact memory.size_insert _
  | update account =>
      change (memory.update now account).2.size = memory.size
      rw [update]
      split
      · rfl
      · split
        · exact memory.size_replace _
        · rfl
  | _ => rfl

theorem size_afterAll (memory : Memory) (arrivals : List Arrival) :
    (memory.afterAll arrivals).size = memory.size + memory.creations arrivals := by
  induction arrivals generalizing memory with
  | nil => rfl
  | cons arrival rest induction =>
      calc (memory.afterAll (arrival :: rest)).size
          = (memory.after arrival).size + (memory.after arrival).creations rest := induction _
        _ = memory.size + memory.creations (arrival :: rest) := by
          rw [size_after, creations, Nat.add_assoc]

end Memory

end Turnstile.Store
