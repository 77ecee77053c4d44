import Turnstile.Proofs.Dialogue
import Turnstile.Secret.Cache

/-!
A cache over a long time. The source behind it may change at any moment, be out of order now and
then, and keep what state it likes. What the cache holds under a name is what the source told for
that name when it first could; from that follows what everybody who asks gets, and how often the
source is asked.
-/

namespace Turnstile.Secret

inductive Event (State : Type) where
  | get (name : String)
  | change (state : State)

def Event.name? {State : Type} : Event State → Option String
  | get name => some name
  | change _ => none

structure Cached (State : Type) where
  cache : Cache
  state : State

structure Reading where
  name : String
  /-- What the source would answer at that moment, asked or not. -/
  current : Except Error String
  result : Except Error String
  asked : List String

namespace Reading

def told? (name : String) (reading : Reading) : Option String :=
  if reading.name = name then reading.current.toOption else none

/-- What the source told when it first could. -/
def first? (name : String) : List Reading → Option String
  | [] => none
  | reading :: later => (reading.told? name).or (first? name later)

/-- How often somebody asks for a secret until the source can first tell it. -/
def attempts (name : String) : List Reading → Nat
  | [] => 0
  | reading :: later =>
      if reading.name = name then
        if (reading.told? name).isSome then 1 else attempts name later + 1
      else attempts name later

structure IsAsked (reading : Reading) : Prop where
  asked : reading.asked = [reading.name]
  result : reading.result = reading.current

structure IsServed (reading : Reading) (value : String) : Prop where
  asked : reading.asked = []
  result : reading.result = .ok value

/-- What becomes of asking when so much is known of the secret. -/
def Follows (reading : Reading) : (known : Option String) → Prop
  | none => reading.IsAsked
  | some value => reading.IsServed value

end Reading

open Reading

def Cache.keep (cache : Cache) (name : String) : Except Error String → Cache
  | .ok value => { values := (name, value) :: cache.values }
  | .error _ => cache

theorem Cache.lookup_keep (cache : Cache) (name other : String) (answer : Except Error String) :
    (cache.keep name answer).values.lookup other =
      (if name = other then answer.toOption else none).or (cache.values.lookup other) := by
  cases answer with
  | error error => simp [keep, Except.toOption]
  | ok value =>
      by_cases same : name = other
      · simp [keep, same, Except.toOption]
      · have unequal : (other == name) = false := beq_eq_false_iff_ne.mpr (Ne.symm same)
        simp [keep, same, List.lookup_cons, unequal]

namespace Cached

variable {State : Type}

def known? (cached : Cached State) (name : String) : Option String :=
  cached.cache.values.lookup name

section Runs

variable (source : Dialogue.Responder Answer State)

def current (cached : Cached State) (name : String) : Except Error String :=
  (source name cached.state).1

/-- A failure leaves the cache as it is. -/
def get (cached : Cached State) (name : String) : Reading × Cached State :=
  let ended := (cached.cache.get name).run source cached.state
  ({ name, current := cached.current source name, result := ended.1.map (·.1)
     asked := (cached.cache.get name).asked source cached.state },
   { cache := match ended.1 with
       | .ok (_, cache) => cache
       | .error _ => cached.cache
     state := ended.2 })

def after : Cached State → List (Event State) → Cached State
  | cached, [] => cached
  | cached, .get name :: events => (cached.get source name).2.after events
  | cached, .change state :: events => { cached with state }.after events

def readings : Cached State → List (Event State) → List Reading
  | _, [] => []
  | cached, .get name :: events =>
      (cached.get source name).1 :: (cached.get source name).2.readings events
  | cached, .change state :: events => { cached with state }.readings events

/-! ## One who asks -/

variable (cached : Cached State) {name : String}

theorem get_of_known {value : String} (known : cached.known? name = some value) :
    cached.get source name =
      ({ name, current := cached.current source name, result := .ok value, asked := [] },
        cached) := by
  have held : cached.cache.get name = .done (value, cached.cache) := by
    rw [Cache.get, show cached.cache.values.lookup name = some value from known]
  rw [get, held]
  rfl

theorem get_of_unknown (unknown : cached.known? name = none) :
    cached.get source name =
      ({ name, current := cached.current source name, result := cached.current source name
         asked := [name] },
        { cache := cached.cache.keep name (cached.current source name)
          state := (source name cached.state).2 }) := by
  have missing : cached.cache.values.lookup name = none := unknown
  simp only [get, Cache.get, missing, Dialogue.run, Dialogue.asked, current]
  cases (source name cached.state).1 with
  | ok value => rfl
  | error error => rfl

theorem follows_get (name : String) :
    (cached.get source name).1.Follows (cached.known? name) := by
  cases known : cached.known? name with
  | some value =>
      rw [get_of_known source cached known]
      exact ⟨rfl, rfl⟩
  | none =>
      rw [get_of_unknown source cached known]
      exact ⟨rfl, rfl⟩

theorem told?_get (name other : String) :
    (cached.get source name).1.told? other =
      if name = other then (cached.current source name).toOption else none := rfl

theorem known?_get (name other : String) :
    (cached.get source name).2.known? other =
      (cached.known? other).or ((cached.get source name).1.told? other) := by
  rw [told?_get]
  cases known : cached.known? name with
  | some value =>
      rw [get_of_known source cached known]
      by_cases same : name = other
      · simp [← same, known]
      · simp [same]
  | none =>
      rw [get_of_unknown source cached known]
      show (cached.cache.keep name (cached.current source name)).values.lookup other = _
      rw [Cache.lookup_keep]
      show Option.or _ (cached.known? other) = _
      by_cases same : name = other
      · rw [← same, known]
        simp
      · simp [same]

theorem get_of_ne {name other : String} (different : name ≠ other) :
    (cached.get source name).2.known? other = cached.known? other ∧
      other ∉ (cached.get source name).1.asked := by
  constructor
  · rw [known?_get, told?_get, if_neg different]
    simp
  · have follows := cached.follows_get source name
    cases known : cached.known? name with
    | some value =>
        rw [known] at follows
        rw [follows.asked]
        exact List.not_mem_nil
    | none =>
        rw [known] at follows
        rw [follows.asked, List.mem_singleton]
        exact different.symm

/-! ## A whole run -/

theorem map_name_readings (events : List (Event State)) :
    (cached.readings source events).map (·.name) = events.filterMap Event.name? := by
  induction events generalizing cached with
  | nil => rfl
  | cons event events induction =>
      cases event with
      | change state => exact induction { cached with state }
      | get asked => exact congrArg (asked :: ·) (induction _)

/-- What is known in the end is what was known before, or else what the source told first. -/
theorem known?_after (name : String) (events : List (Event State)) :
    (cached.after source events).known? name =
      (cached.known? name).or (first? name (cached.readings source events)) := by
  induction events generalizing cached with
  | nil => simp [after, readings, first?]
  | cons event events induction =>
      cases event with
      | change state => exact induction { cached with state }
      | get asked =>
          rw [after, induction, known?_get, Option.or_assoc, readings, first?]

theorem follows_of_readings {events : List (Event State)} {earlier later : List Reading}
    {reading : Reading} (split : cached.readings source events = earlier ++ reading :: later) :
    reading.Follows ((cached.known? reading.name).or (first? reading.name earlier)) := by
  induction events generalizing cached earlier with
  | nil => simp [readings] at split
  | cons event events induction =>
      cases event with
      | change state => exact induction { cached with state } split
      | get asked =>
          rw [readings] at split
          cases earlier with
          | nil =>
              rw [List.nil_append, List.cons.injEq] at split
              rw [← split.left, first?, Option.or_none]
              exact cached.follows_get source asked
          | cons first earlier =>
              rw [List.cons_append, List.cons.injEq] at split
              have follows := induction _ split.right
              rwa [known?_get, split.left, Option.or_assoc] at follows

theorem count_asked (name : String) (events : List (Event State)) :
    ((cached.readings source events).flatMap (·.asked)).count name =
      if (cached.known? name).isSome then 0
      else attempts name (cached.readings source events) := by
  induction events generalizing cached with
  | nil => simp [readings, attempts]
  | cons event events induction =>
      cases event with
      | change state => exact induction { cached with state }
      | get asked =>
          rw [readings, List.flatMap_cons, List.count_append, induction, known?_get, attempts]
          by_cases same : asked = name
          · rw [if_pos (show (cached.get source asked).1.name = name from same), ← same]
            have follows := cached.follows_get source asked
            cases known : cached.known? asked with
            | some value =>
                rw [known] at follows
                rw [follows.asked]
                rfl
            | none =>
                rw [known] at follows
                have once : (cached.get source asked).1.asked.count asked = 1 := by
                  rw [follows.asked]
                  exact List.count_singleton_self
                rw [once, Option.none_or, Option.isSome_none, if_neg Bool.false_ne_true]
                by_cases told : ((cached.get source asked).1.told? asked).isSome = true
                · rw [if_pos told, if_pos told]
                · rw [if_neg told, if_neg told, Nat.add_comm]
          · have apart := cached.get_of_ne source same
            have untold : (cached.get source asked).1.told? name = none := if_neg same
            rw [if_neg (show (cached.get source asked).1.name ≠ name from same),
              List.count_eq_zero.mpr apart.right, untold, Option.or_none, Nat.zero_add]

end Runs

def unused (state : State) : Cached State where
  cache := {}
  state

/-- What a cache does about one secret in the course of some events. -/
structure ReadsThrough (source : Dialogue.Responder Answer State) (state : State)
    (events : List (Event State)) (name : String) : Prop where
  names : ((unused state).readings source events).map (·.name) = events.filterMap Event.name?
  /-- As long as the source has not been able to tell it, everybody is sent on to the source. -/
  untilTold : ∀ earlier reading later,
    (unused state).readings source events = earlier ++ reading :: later → reading.name = name →
      first? name earlier = none → reading.IsAsked
  /-- From then on everybody gets what it told then. -/
  sinceTold : ∀ earlier reading later value,
    (unused state).readings source events = earlier ++ reading :: later → reading.name = name →
      first? name earlier = some value → reading.IsServed value
  known : ((unused state).after source events).known? name =
    first? name ((unused state).readings source events)
  asked : (((unused state).readings source events).flatMap (·.asked)).count name =
    attempts name ((unused state).readings source events)
  others : ∀ other, other ≠ name →
    let cached := (unused state).after source events
    (cached.get source other).2.known? name = cached.known? name ∧
      name ∉ (cached.get source other).1.asked

theorem reads_through_until_told (source : Dialogue.Responder Answer State) (state : State)
    (events : List (Event State)) (name : String) : ReadsThrough source state events name where
  names := (unused state).map_name_readings source events
  untilTold := by
    intro earlier reading later split same unknown
    have follows := (unused state).follows_of_readings source split
    rw [same, unknown] at follows
    exact follows
  sinceTold := by
    intro earlier reading later value split same told
    have follows := (unused state).follows_of_readings source split
    rw [same, told] at follows
    exact follows
  known := (unused state).known?_after source name events
  asked := (unused state).count_asked source name events
  others := fun _ different => get_of_ne source _ different

example :
    let source : Dialogue.Responder Answer Source := fun name secrets => (secrets name, secrets)
    let readings := (unused fun _ => .error (.backend "down")).readings source
      [.get "key", .change (fun _ => .ok "first"), .get "key", .change (fun _ => .ok "second"),
        .get "key"]
    readings.map (·.result) = [.error (.backend "down"), .ok "first", .ok "first"] ∧
      readings.map (·.asked) = [["key"], ["key"], []] :=
  ⟨rfl, rfl⟩

end Cached

end Turnstile.Secret
