/-!
Computations that depend on somebody else's answers. A dialogue asks a question, goes on with the
answer, and ends with a value or a failure. Who answers, and what else happens between two
questions, is left open: a dialogue can be run against a store that keeps rows, against one that
fails, or one question at a time between the questions of others.
-/

namespace Turnstile

inductive Dialogue {Question : Type} (Answer : Question → Type) (Failure α : Type) where
  | done (value : α)
  | fail (failure : Failure)
  | ask (question : Question) (next : Answer question → Dialogue Answer Failure α)

namespace Dialogue

variable {Question : Type} {Answer : Question → Type} {Failure α β State : Type}

def bind :
    Dialogue Answer Failure α → (α → Dialogue Answer Failure β) → Dialogue Answer Failure β
  | done value, next => next value
  | fail failure, _ => fail failure
  | ask question answered, next => ask question fun answer => (answered answer).bind next

instance : Monad (Dialogue Answer Failure) where
  pure := done
  bind := bind

@[simp] theorem done_bind (value : α) (next : α → Dialogue Answer Failure β) :
    (done value >>= next) = next value := rfl

@[simp] theorem fail_bind (failure : Failure) (next : α → Dialogue Answer Failure β) :
    (fail failure >>= next) = fail failure := rfl

@[simp] theorem ask_bind (question : Question)
    (answered : Answer question → Dialogue Answer Failure α)
    (next : α → Dialogue Answer Failure β) :
    (ask question answered >>= next) = ask question fun answer => answered answer >>= next := rfl

@[simp] theorem pure_eq_done (value : α) :
    (pure value : Dialogue Answer Failure α) = done value := rfl

def ofExcept : Except Failure α → Dialogue Answer Failure α
  | .ok value => done value
  | .error failure => fail failure

def mapFailure {Failure' : Type} (rename : Failure → Failure') :
    Dialogue Answer Failure α → Dialogue Answer Failure' α
  | done value => done value
  | fail failure => fail (rename failure)
  | ask question next => ask question fun answer => (next answer).mapFailure rename

def attempt {Failure' : Type} :
    Dialogue Answer Failure α → Dialogue Answer Failure' (Except Failure α)
  | done value => done (.ok value)
  | fail failure => done (.error failure)
  | ask question next => ask question fun answer => (next answer).attempt

/-- Answers questions and keeps a state between them. -/
abbrev Responder (Answer : Question → Type) (State : Type) : Type :=
  (question : Question) → State → Answer question × State

def run (responder : Responder Answer State) :
    Dialogue Answer Failure α → State → Except Failure α × State
  | done value, state => (.ok value, state)
  | fail failure, state => (.error failure, state)
  | ask question next, state =>
      let (answer, state) := responder question state
      (next answer).run responder state

def asked (responder : Responder Answer State) :
    Dialogue Answer Failure α → State → List Question
  | done _, _ => []
  | fail _, _ => []
  | ask question next, state =>
      let (answer, state) := responder question state
      question :: (next answer).asked responder state

theorem run_bind (responder : Responder Answer State) (dialogue : Dialogue Answer Failure α)
    (next : α → Dialogue Answer Failure β) (state : State) :
    (dialogue >>= next).run responder state =
      match dialogue.run responder state with
      | (.ok value, state) => (next value).run responder state
      | (.error failure, state) => (.error failure, state) := by
  induction dialogue generalizing state with
  | done value => rfl
  | fail failure => rfl
  | ask question answered hypothesis => exact hypothesis _ _

end Dialogue

end Turnstile
