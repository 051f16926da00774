import Fulfilment.Broker.Topics

/-!
# Requests for topics

The broker on which topics are made to exist is used by others too.  They may create topics of
their own just before each request is carried out, and every request is recorded.  Whatever others
do, the work on the missing topics goes one way: request after request, each of which creates its
topic, finds it there, or fails otherwise and ends the work.
-/

namespace Fulfilment
namespace Topic

open Change Provision

/-- A request for a topic: the broker just before it is carried out, the answer, and the broker
then. -/
structure Request (State : Type) where
  topic : Topic
  before : State
  answer : Except Failure Unit
  after : State

/-- A broker that others use too, with the requests made of it so far. -/
structure Shared (State : Type) where
  broker : State
  requests : List (Request State) := []

/-- What others do to the broker just before a request, given the number of the requests so far. -/
abbrev Others (State : Type) := Nat → State → State

namespace Admin

variable {State : Type}

/-- The same broker amid what others do, with a record of the requests. -/
def amid
    (admin : Admin State)
    (others : Others State) : Admin (Shared State) where
  list shared := admin.list shared.broker
  create topic shared :=
    let before := others shared.requests.length shared.broker
    let (answer, after) := admin.create topic before
    (answer, ⟨after, shared.requests ++ [⟨topic, before, answer, after⟩]⟩)

/-- No topic of the broker goes away. -/
def Grows
    (admin : Admin State)
    (before after : State) : Prop :=
  admin.list before ⊆ admin.list after

/-- Asked for a topic, a broker creates it, or tells that it exists, or fails otherwise and changes
no topic.  It creates only what does not exist, and tells only of what exists that it does. -/
structure IsFaithful (admin : Admin State) : Prop where
  creates : ∀ topic before after, admin.create topic before = (.ok (), after) →
    topic.name ∉ admin.list before
      ∧ ∀ name, name ∈ admin.list after ↔ name ∈ admin.list before ∨ name = topic.name
  refuses : ∀ topic before failure after, admin.create topic before = (.error failure, after) →
    (isExisting failure = true → topic.name ∈ admin.list before)
      ∧ ∀ name, name ∈ admin.list after ↔ name ∈ admin.list before

end Admin

namespace Request

variable {State : Type}

/-- A request brings a topic about. -/
def Brings
    (admin : Admin State)
    (request : Request State)
    (name : String) : Prop :=
  name ∉ admin.list request.before ∧ name ∈ admin.list request.after

instance
    (admin : Admin State)
    (request : Request State)
    (name : String) : Decidable (request.Brings admin name) :=
  inferInstanceAs (Decidable (_ ∧ _))

/-- What a request creates: its topic, or nothing. -/
def creations
    (admin : Admin State)
    (request : Request State) : List String :=
  if request.Brings admin request.topic.name then [request.topic.name] else []

/-- A request fails, and not because its topic exists. -/
def Raises
    (request : Request State)
    (failure : Failure) : Prop :=
  request.answer = .error failure ∧ isExisting failure = false

/-- What a request comes to, and what it does to the topics. -/
inductive Outcome
    (admin : Admin State)
    (request : Request State) : Except Failure (List String) → Prop where
  | created
      (answered : request.answer = .ok ())
      (absent : request.topic.name ∉ admin.list request.before)
      (topics : ∀ name, name ∈ admin.list request.after ↔
        name ∈ admin.list request.before ∨ name = request.topic.name) :
      Outcome admin request (.ok [request.topic.name])
  | found {failure : Failure}
      (answered : request.answer = .error failure)
      (existing : isExisting failure = true)
      (present : request.topic.name ∈ admin.list request.before)
      (topics : ∀ name, name ∈ admin.list request.after ↔ name ∈ admin.list request.before) :
      Outcome admin request (.ok [])
  | failed {failure : Failure}
      (raises : request.Raises failure)
      (topics : ∀ name, name ∈ admin.list request.after ↔ name ∈ admin.list request.before) :
      Outcome admin request (.error failure)

namespace Outcome

variable {admin : Admin State} {request : Request State}

theorem grows
    {result : Except Failure (List String)}
    (outcome : request.Outcome admin result) : admin.Grows request.before request.after := by
  intro name present
  cases outcome with
  | created answered absent topics => exact (topics name).mpr (.inl present)
  | found answered existing _ topics => exact (topics name).mpr present
  | failed raises topics => exact (topics name).mpr present

/-- A request brings about its own topic or none. -/
theorem eq_of_brings
    {result : Except Failure (List String)}
    {name : String}
    (outcome : request.Outcome admin result)
    (brings : request.Brings admin name) : name = request.topic.name := by
  obtain ⟨absent, present⟩ := brings
  cases outcome with
  | created answered _ topics => exact ((topics name).mp present).resolve_left absent
  | found answered existing _ topics => exact absurd ((topics name).mp present) absent
  | failed raises topics => exact absurd ((topics name).mp present) absent

/-- A request that does not fail gives what it creates. -/
theorem eq_creations
    {created : List String}
    (outcome : request.Outcome admin (.ok created)) : created = request.creations admin := by
  cases outcome with
  | created answered absent topics =>
      exact (if_pos ⟨absent, (topics _).mpr (.inr rfl)⟩).symm
  | found answered existing present topics =>
      exact (if_neg fun brings => brings.1 present).symm

/-- Behind a request that does not fail its topic exists. -/
theorem mem_after
    {created : List String}
    (outcome : request.Outcome admin (.ok created)) :
    request.topic.name ∈ admin.list request.after := by
  cases outcome with
  | created answered absent topics => exact (topics _).mpr (.inr rfl)
  | found answered existing present topics => exact (topics _).mpr present

theorem not_raises
    {created : List String}
    {failure : Failure}
    (outcome : request.Outcome admin (.ok created)) : ¬request.Raises failure := by
  rintro ⟨raised, other⟩
  cases outcome with
  | created answered absent topics =>
      rw [answered] at raised
      cases raised
  | found answered existing present topics =>
      rw [answered] at raised
      cases raised
      rw [existing] at other
      cases other

end Outcome

theorem mem_creations_iff
    {admin : Admin State}
    {request : Request State}
    {name : String} :
    name ∈ request.creations admin ↔
      request.Brings admin request.topic.name ∧ name = request.topic.name := by
  unfold creations
  split <;> simp [*]

end Request

variable {State : Type} {admin : Admin State}

/-- The request that is made for a topic amid what others do. -/
def Request.make
    (admin : Admin State)
    (others : Others State)
    (topic : Topic)
    (shared : Shared State) : Request State :=
  let before := others shared.requests.length shared.broker
  ⟨topic, before, (admin.create topic before).1, (admin.create topic before).2⟩

/-- A topic is created by one request, and the result is what comes of the request. -/
theorem outcome_create
    (faithful : admin.IsFaithful)
    (others : Others State)
    (topic : Topic)
    (start : Provisioning (Shared State)) :
    ∃ result log,
      (create (admin.amid others) topic).perform start =
          (result, ⟨⟨(Request.make admin others topic start.broker).after,
            start.broker.requests ++ [.make admin others topic start.broker]⟩, log⟩)
        ∧ (Request.make admin others topic start.broker).Outcome admin result := by
  have asked :
      (ask (admin.amid others) topic).perform start =
        (.ok (Request.make admin others topic start.broker).answer,
          ⟨⟨(Request.make admin others topic start.broker).after,
            start.broker.requests ++ [.make admin others topic start.broker]⟩, start.log⟩) := rfl
  have made : admin.create topic (Request.make admin others topic start.broker).before =
      ((Request.make admin others topic start.broker).answer,
        (Request.make admin others topic start.broker).after) := rfl
  have same : (Request.make admin others topic start.broker).topic = topic := rfl
  generalize Request.make admin others topic start.broker = request at asked made same ⊢
  subst same
  rw [create, perform_bind_of_ok _ asked]
  cases answered : request.answer with
  | ok _ =>
      rw [answered] at made
      obtain ⟨absent, topics⟩ := faithful.creates _ _ _ made
      exact ⟨_, _, rfl, .created answered absent topics⟩
  | error failure =>
      rw [answered] at made
      obtain ⟨present, topics⟩ := faithful.refuses _ _ _ _ made
      dsimp only
      cases existing : isExisting failure with
      | true => exact ⟨_, _, rfl, .found answered existing (present existing) topics⟩
      | false => exact ⟨_, _, rfl, .failed ⟨answered, existing⟩ topics⟩

/-- The work on topics: one request after another, until one of them fails. -/
inductive Work (admin : Admin State) :
    State → List Topic → List (Request State) → Except Failure (List String) → State → Prop where
  | done {state : State} : Work admin state [] [] (.ok []) state
  | next
      {state finish : State} {request : Request State} {topics : List Topic}
      {requests : List (Request State)} {created : List String}
      {result : Except Failure (List String)}
      (grown : admin.Grows state request.before)
      (outcome : request.Outcome admin (.ok created))
      (rest : Work admin request.after topics requests result finish) :
      Work admin state (request.topic :: topics) (request :: requests)
        (result.map (created ++ ·)) finish
  | failed
      {state : State} {request : Request State} {topics : List Topic} {failure : Failure}
      (grown : admin.Grows state request.before)
      (outcome : request.Outcome admin (.error failure)) :
      Work admin state (request.topic :: topics) [request] (.error failure) request.after

/-- Whatever others do, topics are created by such work. -/
theorem work_createAll
    {others : Others State}
    (faithful : admin.IsFaithful)
    (growing : ∀ count state, admin.Grows state (others count state))
    (topics : List Topic)
    (start : Provisioning (Shared State)) :
    ∃ result requests finish log,
      (createAll (admin.amid others) topics).perform start =
          (result, ⟨⟨finish, start.broker.requests ++ requests⟩, log⟩)
        ∧ Work admin start.broker.broker topics requests result finish := by
  induction topics generalizing start with
  | nil => exact ⟨.ok [], [], start.broker.broker, start.log, by simp [createAll], .done⟩
  | cons topic topics inductionHypothesis =>
      obtain ⟨result, log, performed, outcome⟩ :=
        outcome_create faithful others topic start
      have grown : admin.Grows start.broker.broker
          (Request.make admin others topic start.broker).before := growing _ _
      have same : (Request.make admin others topic start.broker).topic = topic := rfl
      generalize Request.make admin others topic start.broker = request
        at performed outcome grown same
      subst same
      cases result with
      | error failure =>
          refine ⟨_, [request], request.after, log, ?_, .failed grown outcome⟩
          rw [createAll, perform_bind_of_error _ performed]
      | ok created =>
          obtain ⟨result, requests, finish, log, further, work⟩ := inductionHypothesis
            ⟨⟨request.after, start.broker.requests ++ [request]⟩, log⟩
          refine ⟨_, request :: requests, finish, log, ?_, .next grown outcome work⟩
          rw [createAll, perform_bind_of_ok _ performed, perform_bind, further]
          cases result <;> simp [Except.map]

/-! ## Without others -/

section Unrecorded

variable {α β : Type}

/-- A provisioning without the record of its requests. -/
def Shared.plain (provisioning : Provisioning (Shared State)) : Provisioning State :=
  ⟨provisioning.broker.broker, provisioning.log⟩

/-- A change does without the record what another one does with it. -/
def Unrecorded
    (plain : Provision State α)
    (recorded : Provision (Shared State) α) : Prop :=
  ∀ start, plain.perform (Shared.plain start) =
    ((recorded.perform start).1, Shared.plain (recorded.perform start).2)

theorem Unrecorded.bind
    {plain : Provision State α}
    {recorded : Provision (Shared State) α}
    {next : α → Provision State β}
    {nextRecorded : α → Provision (Shared State) β}
    (first : Unrecorded plain recorded)
    (second : ∀ value, Unrecorded (next value) (nextRecorded value)) :
    Unrecorded (plain >>= next) (recorded >>= nextRecorded) := by
  intro start
  have performed := first start
  rw [perform_bind, perform_bind, performed]
  cases recorded.perform start with
  | mk result after =>
      cases result with
      | ok value => exact second value after
      | error failure => rfl

theorem unrecorded_create (topic : Topic) :
    Unrecorded (create admin topic) (create (admin.amid fun _ state => state) topic) := by
  refine Unrecorded.bind (fun start => rfl) fun answer => ?_
  cases answer with
  | ok _ => exact fun start => rfl
  | error failure =>
      dsimp only
      split
      · exact fun start => rfl
      · exact fun start => rfl

theorem unrecorded_createAll (topics : List Topic) :
    Unrecorded (createAll admin topics) (createAll (admin.amid fun _ state => state) topics) := by
  induction topics with
  | nil => exact fun start => rfl
  | cons topic topics inductionHypothesis =>
      exact (unrecorded_create topic).bind fun created =>
        inductionHypothesis.bind fun further => fun start => rfl

theorem unrecorded_tellExists (topics : List Topic) :
    Unrecorded (topics.forM tellExists : Provision State PUnit)
      (topics.forM tellExists : Provision (Shared State) PUnit) := by
  induction topics with
  | nil => exact fun start => rfl
  | cons topic topics inductionHypothesis =>
      exact Unrecorded.bind (fun start => rfl) fun _ => inductionHypothesis

/-- Without others the record is the only difference. -/
theorem unrecorded_ensure (topics : List Topic) :
    Unrecorded (ensure admin topics) (ensure (admin.amid fun _ state => state) topics) := by
  intro start
  exact (unrecorded_tellExists _).bind (fun _ => unrecorded_createAll _) start
end Unrecorded

end Topic
end Fulfilment
