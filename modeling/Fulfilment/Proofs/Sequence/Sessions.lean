import Fulfilment.Proofs.Calendar.DayNumber
import Fulfilment.Proofs.Sequence.Allocation

/-!
# Numbers over sessions

Sessions are used one after another.  Each takes numbers of any keys and then commits or is closed.
What a call gives is told by the counters that the session has found and by the earlier calls of
the session for the same key, and what a session leaves is told by whether it was committed.
-/

namespace Fulfilment
namespace Sequence

open Fulfilment.Action Fulfilment.Change Fulfilment.Service

/-! ## Sessions -/

/-- What a session is used for: a number of each key in turn, and then a commit or none. -/
structure Request where
  keys : List String
  commits : Bool

/-- A session that was used and closed: the tables that it found, what each call gave, whether it
was committed, and the tables that it left. -/
structure Session where
  before : Tables
  answers : List (String × Except Failure Int)
  committed : Bool
  after : Tables

/-- Ask for a number of each key in turn, whatever the calls before have given. -/
def ask (dialect : String) :
    List String → Service → List (String × Except Failure Int) × Service
  | [], service => ([], service)
  | key :: keys, service =>
      let (answer, asked) := (next dialect key).perform service
      let (answers, last) := ask dialect keys asked
      ((key, answer) :: answers, last)

/-- Commit if asked to and tell whether that succeeded, then close the session. -/
def conclude
    (commits : Bool)
    (service : Service) : Bool × Service :=
  let (committed, ended) :=
    if commits then
      let (ending, ended) := (inStore Store.commit).perform service
      (ending.isOk, ended)
    else (false, service)
  (committed, (Workflow.rollback.perform ended).2)

/-- Use a session from its beginning to its end. -/
def use
    (dialect : String)
    (request : Request)
    (service : Service) : Session × Service :=
  let (answers, asked) := ask dialect request.keys service
  let (committed, closed) := conclude request.commits asked
  (⟨service.store.committed, answers, committed, closed.store.committed⟩, closed)

/-- Use sessions one after another. -/
def useAll (dialect : String) : List Request → Service → List Session × Service
  | [], service => ([], service)
  | request :: requests, service =>
      let (session, closed) := use dialect request service
      let (sessions, last) := useAll dialect requests closed
      (session :: sessions, last)

/-- The numbers that were given for a key. -/
def numbersFor
    (key : String)
    (answers : List (String × Except Failure Int)) : List Int :=
  answers.filterMap fun (asked, answer) => if asked = key then answer.toOption else none

/-- The numbers that the committed sessions were given for a key. -/
def committedNumbers
    (sessions : List Session)
    (key : String) : List Int :=
  (sessions.filter Session.committed).flatMap fun session => numbersFor key session.answers

/-! ## What is due -/

/-- What the calls for some keys give, one after another. -/
def dueAnswers
    (tables : Tables) : List String → List String → List (String × Except Failure Int)
  | _, [] => []
  | earlier, key :: keys =>
      (key, dueAnswer tables earlier key) :: dueAnswers tables (earlier ++ [key]) keys

/-- A session gives what is due and leaves what it must. -/
structure Session.Proper
    (session : Session)
    (request : Request) : Prop where
  answered : session.answers = dueAnswers session.before [] request.keys
  /-- A session is committed if it is asked to and no counter was full. -/
  committed_iff :
    session.committed = true ↔ request.commits = true ∧ ¬ session.before.Overdrawn request.keys
  /-- A session that is not committed leaves the tables as it has found them. -/
  kept : session.committed = false → session.after = session.before
  /-- A committed session moves each counter by the numbers that were taken of it. -/
  counted : session.committed = true → ∀ key,
    session.after.counters.next? key =
      if key ≠ "" ∧ key ∈ request.keys then
        some (session.before.due key + request.keys.count key)
      else session.before.counters.next? key
  shipments : session.after.shipments = session.before.shipments
  ledger : session.after.ledger = session.before.ledger

/-- Sessions of which each finds the tables that the one before it has left. -/
inductive Trace : Tables → List Request → List Session → Tables → Prop where
  | nil (tables : Tables) : Trace tables [] [] tables
  | cons {request : Request} {requests : List Request} {session : Session}
      {sessions : List Session} {last : Tables}
      (proper : session.Proper request)
      (rest : Trace session.after requests sessions last) :
      Trace session.before (request :: requests) (session :: sessions) last

/-! ## What a session does -/

variable
  {dialect : String}
  {tables : Tables}
  {earlier : List String}
  {service : Service}

/-- The calls of a session give what is due, and the session goes on. -/
theorem ask_eq
    (supported : dialect ∈ sequenceDialects)
    (keys : List String)
    (opened : service.store = pending tables earlier) :
    ∃ asked, ask dialect keys service = (dueAnswers tables earlier keys, asked)
      ∧ asked.store = pending tables (earlier ++ keys) := by
  induction keys generalizing earlier service with
  | nil => exact ⟨service, rfl, by rw [List.append_nil, opened]⟩
  | cons key keys ih =>
      obtain ⟨between, given, continued⟩ := perform_next supported opened key
      obtain ⟨asked, answered, ended⟩ := ih continued
      refine ⟨asked, ?_, ?_⟩
      · rw [ask, given, dueAnswers]
        simp only [answered]
      · rw [ended, List.append_assoc, List.singleton_append]

/-- A session is committed if it is asked to and no counter was full, and is left with nothing
pending. -/
theorem conclude_eq
    (commits : Bool)
    (opened : service.store = pending tables earlier) :
    ∃ closed, conclude commits service =
        (commits && !decide (tables.Overdrawn earlier), closed)
      ∧ closed.store =
        .ofTables (if commits && !decide (tables.Overdrawn earlier) then tables.drawn earlier
          else tables) := by
  cases commits with
  | false =>
      refine ⟨_, rfl, ?_⟩
      simp only [Workflow.rollback, perform_modify, opened, pending]
      split <;> rfl
  | true =>
      by_cases overdrawn : tables.Overdrawn earlier
      · rw [pending, if_pos overdrawn] at opened
        simp only [conclude, if_true, inStore, perform_bind, perform_get, perform_set, opened,
          Store.commit, perform_fail, overdrawn]
        exact ⟨_, rfl, rfl⟩
      · rw [pending, if_neg overdrawn] at opened
        simp only [conclude, if_true, inStore, perform_bind, perform_get, perform_set, opened,
          Store.commit, perform_pure, overdrawn]
        exact ⟨_, rfl, rfl⟩

/-- A session that begins with nothing pending is proper and ends so. -/
theorem proper_use
    (supported : dialect ∈ sequenceDialects)
    (request : Request)
    (rested : service.store = .ofTables tables) :
    (use dialect request service).1.before = tables
      ∧ (use dialect request service).1.Proper request
      ∧ (use dialect request service).2.store =
        .ofTables (use dialect request service).1.after := by
  have opened : service.store = pending tables [] := by
    simp [rested, pending, Tables.Overdrawn, Tables.drawn, Store.ofTables]
  obtain ⟨asked, answered, continued⟩ := ask_eq supported request.keys opened
  obtain ⟨closed, concluded, left⟩ := conclude_eq request.commits continued
  have used : use dialect request service =
      (⟨tables, dueAnswers tables [] request.keys,
        request.commits && !decide (tables.Overdrawn request.keys), closed.store.committed⟩,
        closed) := by
    simp only [use, answered, concluded, rested, List.nil_append]
    rfl
  rw [List.nil_append] at left
  have after : closed.store.committed =
      if request.commits && !decide (tables.Overdrawn request.keys) then tables.drawn request.keys
      else tables := by
    rw [left]
    rfl
  rw [used]
  refine ⟨rfl, ⟨rfl, by simp, ?_, ?_, ?_, ?_⟩, ?_⟩
  · intro uncommitted
    simp only at uncommitted ⊢
    rw [after, uncommitted, if_neg (by simp)]
  · intro committed key
    simp only at committed ⊢
    rw [after, committed, if_pos rfl, Tables.next?_drawn]
  · simp only [after]
    split
    · exact Tables.rows_drawn.1
    · rfl
  · simp only [after]
    split
    · exact Tables.rows_drawn.2
    · rfl
  · simp only [left]
    rfl

/-- Sessions that are used one after another are proper, and the last one leaves nothing pending. -/
theorem trace_useAll
    (supported : dialect ∈ sequenceDialects)
    (requests : List Request)
    (rested : service.store = .ofTables tables) :
    Trace tables requests (useAll dialect requests service).1
      (useAll dialect requests service).2.store.committed := by
  induction requests generalizing service tables with
  | nil =>
      rw [useAll, rested]
      exact .nil tables
  | cons request requests ih =>
      obtain ⟨rfl, proper, closed⟩ := proper_use supported request rested
      exact .cons proper (ih closed)

/-! ## The numbers of a key -/

/-- Consecutive numbers are so many, and the last one is told by the first. -/
theorem length_getLast?_of_consecutive
    {numbers : List Int}
    {first : Int}
    {count : Nat}
    (told : numbers.map some = consecutive first count) :
    numbers.length = count
      ∧ numbers.getLast? = if count = 0 then none else some (first + count - 1) := by
  refine ⟨by simpa [consecutive] using congrArg List.length told, ?_⟩
  have last := congrArg List.getLast? told
  rw [List.getLast?_map] at last
  cases count with
  | zero => simpa [consecutive] using last
  | succ count =>
      rw [consecutive_concat, List.getLast?_concat] at last
      have next : first + count = first + (count + 1 : Nat) - 1 := by omega
      simpa [next] using last

variable {key : String}

/-- The first call gives a number if it is for the key, and then the others give theirs. -/
theorem numbersFor_cons
    (key asked : String)
    (answer : Except Failure Int)
    (answers : List (String × Except Failure Int)) :
    numbersFor key ((asked, answer) :: answers) =
      (if asked = key then answer.toOption else none).toList ++ numbersFor key answers := by
  simp only [numbersFor, List.filterMap_cons]
  cases (if asked = key then answer.toOption else none) <;> rfl

/-- No number is given for the empty key. -/
theorem numbersFor_empty (keys : List String) :
    numbersFor "" (dueAnswers tables earlier keys) = [] := by
  induction keys generalizing earlier with
  | nil => rfl
  | cons head keys ih =>
      rw [dueAnswers, numbersFor_cons, ih]
      by_cases empty : head = ""
      · simp [empty, dueAnswer, Except.toOption]
      · simp [empty]

/-- As long as no counter is full, a key is given consecutive numbers, one for each call. -/
theorem numbersFor_dueAnswers
    {keys : List String}
    (named : key ≠ "")
    (enough : ¬ tables.Overdrawn (earlier ++ keys)) :
    (numbersFor key (dueAnswers tables earlier keys)).map some =
      consecutive (tables.due key + earlier.count key) (keys.count key) := by
  induction keys generalizing earlier with
  | nil => rfl
  | cons head keys ih =>
      have enoughAfter : ¬ tables.Overdrawn (earlier ++ [head] ++ keys) := by
        rwa [List.append_assoc, List.singleton_append]
      rw [dueAnswers, numbersFor_cons, List.map_append, ih enoughAfter, List.count_append]
      by_cases same : head = key
      · subst same
        have unbroken : ¬ tables.Overdrawn earlier :=
          fun broken => enough broken.append
        have room : ¬ Tables.greatestCounter ≤ tables.due head + earlier.count head :=
          fun full => enoughAfter (Tables.overdrawn_concat.mpr (.inr ⟨named, full⟩)).append
        have given : dueAnswer tables earlier head =
            .ok (tables.due head + earlier.count head) := by
          rw [dueAnswer, if_neg named, if_neg unbroken, if_neg room]
        rw [given, if_pos rfl, List.count_singleton_self, List.count_cons_self, consecutive_succ,
          Int.natCast_add, Int.natCast_one, Int.add_assoc]
        rfl
      · rw [if_neg same, List.count_cons_of_ne same]
        simp [same]

/-- A committed session is given consecutive numbers of a key and leaves the one after them. -/
theorem Session.Proper.consecutive
    {session : Session}
    {request : Request}
    (proper : session.Proper request)
    (committed : session.committed = true)
    (key : String) :
    ∃ count,
      (numbersFor key session.answers).map some = consecutive (session.before.due key) count
      ∧ session.after.counters.next? key =
        if count = 0 then session.before.counters.next? key
        else some (session.before.due key + count) := by
  have enough : ¬ session.before.Overdrawn ([] ++ request.keys) :=
    (proper.committed_iff.mp committed).2
  rw [proper.answered, proper.counted committed]
  by_cases named : key = ""
  · subst named
    exact ⟨0, by rw [numbersFor_empty, List.map_nil]; rfl, by simp⟩
  · refine ⟨request.keys.count key, ?_, ?_⟩
    · simpa using numbersFor_dueAnswers named enough
    · simp [named, List.count_eq_zero]

/-- The committed sessions of a trace are given consecutive numbers of a key, and the last tables
hold the one after them. -/
theorem Trace.consecutive
    {last : Tables}
    {requests : List Request}
    {sessions : List Session}
    (trace : Trace tables requests sessions last)
    (key : String) :
    ∃ count, (committedNumbers sessions key).map some = consecutive (tables.due key) count
      ∧ last.counters.next? key =
        if count = 0 then tables.counters.next? key else some (tables.due key + count) := by
  induction trace with
  | nil tables => exact ⟨0, rfl, rfl⟩
  | @cons request requests session sessions last proper _ ih =>
      obtain ⟨more, later, final⟩ := ih
      cases committed : session.committed with
      | false =>
          rw [proper.kept committed] at later final
          refine ⟨more, ?_, final⟩
          rw [← later, committedNumbers, List.filter_cons_of_neg (by simp [committed])]
          rfl
      | true =>
          obtain ⟨count, given, counter⟩ := proper.consecutive committed key
          have due : session.after.due key = session.before.due key + count := by
            rw [Tables.due, counter]
            split
            · next none => simp [none, Tables.due]
            · rfl
          refine ⟨count + more, ?_, ?_⟩
          · rw [committedNumbers, List.filter_cons_of_pos committed, List.flatMap_cons,
              List.map_append, given, ← committedNumbers, later, consecutive_add, due]
          · rw [final, counter, due]
            by_cases none : more = 0
            · simp [none]
            · simp [none, Int.add_assoc]

/-! ## The keys of one another -/

/-- A session that asks for one key only, as often as another one does. -/
def Request.restrictedTo
    (request : Request)
    (key : String) : Request :=
  { request with keys := request.keys.filter fun asked => asked = key }

/-- The key is asked for as often as before. -/
theorem count_restrictedTo
    (request : Request)
    (key : String) : (request.restrictedTo key).keys.count key = request.keys.count key :=
  List.count_filter (by simp)

/-- Asking for one key only overdraws no other. -/
theorem overdrawn_of_restrictedTo
    {request : Request}
    (overdrawn : tables.Overdrawn (request.restrictedTo key).keys) :
    tables.Overdrawn request.keys := by
  obtain ⟨other, member, named, exceeds⟩ := overdrawn
  obtain ⟨asked, same⟩ := List.mem_filter.mp member
  obtain rfl : other = key := by simpa using same
  rw [count_restrictedTo] at exceeds
  exact ⟨other, asked, named, exceeds⟩

/-- Sessions are used one after another, each for any list of calls and ended by a commit or by
closing it.  Each session is proper and finds the tables that the one before it has left.  For
every key the numbers of the committed sessions follow each other from the one that was due at the
start, and the counter at the end holds the number after the last.  What a session that fills no
counter is given for a key does not depend on its calls for other keys. -/
theorem consecutive_useAll
    (supported : dialect ∈ sequenceDialects)
    (service : Service)
    (tables : Tables)
    (requests : List Request) :
    let opened := { service with store := .ofTables tables }
    let (sessions, last) := useAll dialect requests opened
    Trace tables requests sessions last.store.committed
      ∧ (∀ key,
        let numbers := committedNumbers sessions key
        numbers.map some = consecutive (tables.due key) numbers.length
          ∧ last.store.committed.counters.next? key =
            (numbers.getLast?.map (· + 1)).or (tables.counters.next? key))
      ∧ ∀ request key, ¬ tables.Overdrawn request.keys →
        numbersFor key (use dialect request opened).1.answers =
          numbersFor key (use dialect (request.restrictedTo key) opened).1.answers := by
  intro opened
  have rested : opened.store = .ofTables tables := rfl
  have trace := trace_useAll supported requests rested
  generalize useAll dialect requests opened = used at trace ⊢
  obtain ⟨sessions, last⟩ := used
  refine ⟨trace, fun key => ?_, fun request key enough => ?_⟩
  · obtain ⟨count, numbers, counter⟩ := trace.consecutive key
    obtain ⟨length, final⟩ := length_getLast?_of_consecutive numbers
    refine ⟨by rw [length, numbers], ?_⟩
    rw [counter, final]
    split
    · rfl
    · simp
  · obtain ⟨before, proper, -⟩ := proper_use supported request rested
    obtain ⟨same, alone, -⟩ := proper_use supported (request.restrictedTo key) rested
    rw [proper.answered, alone.answered, before, same]
    by_cases named : key = ""
    · rw [named, numbersFor_empty, numbersFor_empty]
    · have enoughAlone : ¬ tables.Overdrawn ([] ++ (request.restrictedTo key).keys) :=
        fun overdrawn => enough (overdrawn_of_restrictedTo overdrawn)
      refine (List.map_inj_right fun _ _ => Option.some.inj).mp ?_
      rw [numbersFor_dueAnswers named enoughAlone, count_restrictedTo]
      exact numbersFor_dueAnswers named enough

/-- Tables in which one key has given four numbers and another has one left. -/
def nearlyFull : Tables where
  counters := [("b", 5), ("last", Tables.greatestCounter - 1)]

/-- A committed session, one that is closed, one that fills a counter, and a committed one. -/
def fourRequests : List Request :=
  [⟨["a", "b", "", "a"], true⟩, ⟨["a", "c"], false⟩, ⟨["last", "a", "last", "b"], true⟩,
    ⟨["a", "last", "c"], true⟩]

/-- A service whose tables are these. -/
def stocked : Service where
  clock := ⟨⟨⟨2025, 1, 1, isDate_firstOf2025⟩, .midnight⟩⟩
  store := .ofTables nearlyFull

theorem consecutive_fourRequests :
    let (sessions, last) := useAll "sqlite" fourRequests stocked
    "sqlite" ∈ sequenceDialects
      ∧ sessions.map Session.committed = [true, false, false, true]
      ∧ committedNumbers sessions "a" = [1, 2, 3]
      ∧ last.store.committed.counters.next? "a" = some 4
      ∧ committedNumbers sessions "last" = [Tables.greatestCounter - 1] := by
  have supported : "sqlite" ∈ sequenceDialects := by decide
  obtain ⟨-, consecutive, -⟩ := consecutive_useAll supported stocked nearlyFull fourRequests
  obtain ⟨numbers, counter⟩ := consecutive "a"
  refine ⟨supported, rfl, ?_, counter, ?_⟩
  · exact (List.map_inj_right fun _ _ => Option.some.inj).mp numbers
  · exact (List.map_inj_right fun _ _ => Option.some.inj).mp (consecutive "last").1

end Sequence
end Fulfilment
