import Fulfilment.Proofs.Broker.Requests
import Mathlib.Data.List.Nodup
import Mathlib.Data.List.Infix

/-!
# Provisioning amid others

Topics are made to exist on a broker that others use too, by one call or by several.  A call that
returns leaves no topic missing and tells exactly the names that it created itself.  A call that
ends with a failure keeps what it had created, and a later call completes the work.  Once a call has
returned, further calls find everything there and request nothing.
-/

namespace Fulfilment
namespace Topic

open Change Provision

variable {State : Type} {admin : Admin State}

/-- How a call ends by its requests: with a result if none of them fails, else with the failure of
the last one. -/
inductive Ending (requests : List (Request State)) : Except Failure (List String) → Prop where
  | returned {created : List String}
      (settled : ∀ request ∈ requests, ∀ failure, ¬request.Raises failure) :
      Ending requests (.ok created)
  | raised {earlier : List (Request State)} {last : Request State} {failure : Failure}
      (split : requests = earlier ++ [last])
      (raises : last.Raises failure)
      (settled : ∀ request ∈ earlier, ∀ failure, ¬request.Raises failure) :
      Ending requests (.error failure)

namespace Ending

variable {requests : List (Request State)} {result : Except Failure (List String)}
  {failure : Failure}

/-- A request that fails is the last one, and its failure is the result. -/
theorem of_raises
    {earlier later : List (Request State)}
    {request : Request State}
    (ending : Ending requests result)
    (split : requests = earlier ++ request :: later)
    (raises : request.Raises failure) : later = [] ∧ result = .error failure := by
  cases ending with
  | returned settled => exact absurd raises (settled request (by simp [split]) failure)
  | @raised front last other frontSplit lastRaises settled =>
      rw [split] at frontSplit
      rcases List.eq_nil_or_concat later with rfl | ⟨inner, final, rfl⟩
      · obtain ⟨-, same⟩ := List.append_inj' frontSplit rfl
        obtain rfl := List.singleton_inj.mp same
        obtain rfl : failure = other := Except.error.inj (raises.1.symm.trans lastRaises.1)
        exact ⟨rfl, rfl⟩
      · rw [List.concat_eq_append, ← List.cons_append, ← List.append_assoc] at frontSplit
        obtain ⟨same, -⟩ := List.append_inj' frontSplit rfl
        exact absurd raises (settled request (by simp [← same]) failure)

theorem result_eq_error_iff (ending : Ending requests result) :
    result = .error failure ↔ ∃ request ∈ requests, request.Raises failure := by
  constructor
  · intro failed
    cases ending with
    | returned settled => cases failed
    | raised split raises settled =>
        cases failed
        exact ⟨_, by simp [split], raises⟩
  · rintro ⟨request, member, raises⟩
    obtain ⟨earlier, later, split⟩ := List.append_of_mem member
    exact (ending.of_raises split raises).2

end Ending

/-! ## The work on missing topics -/

theorem Admin.Grows.trans
    {before between after : State}
    (first : admin.Grows before between)
    (second : admin.Grows between after) : admin.Grows before after :=
  List.Subset.trans first second

namespace Work

variable {state finish : State} {topics : List Topic} {requests : List (Request State)}
  {result : Except Failure (List String)}

theorem grows (work : Work admin state topics requests result finish) :
    admin.Grows state finish := by
  induction work with
  | done => exact List.Subset.refl _
  | next grown outcome rest inductionHypothesis =>
      exact (grown.trans outcome.grows).trans inductionHypothesis
  | failed grown outcome => exact grown.trans outcome.grows

/-- What was there before the work is there before each request, and what is there behind a request
is there in the end. -/
theorem surrounds
    (work : Work admin state topics requests result finish)
    {request : Request State}
    (member : request ∈ requests) :
    admin.Grows state request.before ∧ admin.Grows request.after finish
      ∧ ∃ result, request.Outcome admin result := by
  induction work with
  | done => simp at member
  | next grown outcome rest inductionHypothesis =>
      rcases List.mem_cons.mp member with rfl | later
      · exact ⟨grown, rest.grows, _, outcome⟩
      · obtain ⟨before, after, further⟩ := inductionHypothesis later
        exact ⟨(grown.trans outcome.grows).trans before, after, further⟩
  | failed grown outcome =>
      obtain rfl := List.mem_singleton.mp member
      exact ⟨grown, List.Subset.refl _, _, outcome⟩

/-- Without a topic there is nothing to do. -/
theorem of_nil (work : Work admin state [] requests result finish) :
    requests = [] ∧ result = .ok [] := by
  cases work with
  | done => exact ⟨rfl, rfl⟩

/-- Topics are requested in order. -/
theorem topics_prefix (work : Work admin state topics requests result finish) :
    requests.map Request.topic <+: topics := by
  induction work with
  | done => exact List.nil_prefix
  | next grown outcome rest inductionHypothesis =>
      exact List.cons_prefix_cons.mpr ⟨rfl, inductionHypothesis⟩
  | failed grown outcome => exact List.cons_prefix_cons.mpr ⟨rfl, List.nil_prefix⟩

/-- Work that gives a result leaves no topic missing and gives what its requests created. -/
theorem of_result
    (work : Work admin state topics requests result finish)
    {created : List String}
    (returned : result = .ok created) :
    (∀ topic ∈ topics, topic.name ∈ admin.list finish)
      ∧ created = requests.flatMap (Request.creations admin) := by
  induction work generalizing created with
  | done =>
      cases returned
      exact ⟨by simp, rfl⟩
  | @next _ _ request _ _ first result grown outcome rest inductionHypothesis =>
      cases result with
      | error failure => cases returned
      | ok further =>
          cases returned
          obtain ⟨complete, same⟩ := inductionHypothesis rfl
          refine ⟨fun topic member => ?_, ?_⟩
          · rcases List.mem_cons.mp member with rfl | later
            · exact rest.grows outcome.mem_after
            · exact complete topic later
          · rw [List.flatMap_cons, ← outcome.eq_creations, same]
  | failed grown outcome => cases returned

/-- Nothing is created twice, and nothing that was there before. -/
theorem creations_fresh (work : Work admin state topics requests result finish) :
    (requests.flatMap (Request.creations admin)).Nodup
      ∧ ∀ name ∈ requests.flatMap (Request.creations admin), name ∉ admin.list state := by
  have absent (request : Request State) (name : String) (member : name ∈ request.creations admin)
      {start : State} (grown : admin.Grows start request.before) : name ∉ admin.list start := by
    obtain ⟨brings, rfl⟩ := Request.mem_creations_iff.mp member
    exact fun present => brings.1 (grown present)
  have alone (request : Request State) : (request.creations admin).Nodup := by
    unfold Request.creations
    split <;> simp
  induction work with
  | done => simp
  | @next _ _ request _ _ _ _ grown outcome rest inductionHypothesis =>
      obtain ⟨distinct, fresh⟩ := inductionHypothesis
      rw [List.flatMap_cons]
      refine ⟨List.nodup_append.mpr ⟨alone request, distinct, ?_⟩, fun name member => ?_⟩
      · rintro name first _ later rfl
        obtain ⟨brings, rfl⟩ := Request.mem_creations_iff.mp first
        exact fresh _ later brings.2
      · rcases List.mem_append.mp member with first | later
        · exact absent request name first grown
        · exact fun present => fresh name later (outcome.grows (grown present))
  | @failed _ request _ _ grown outcome =>
      rw [List.flatMap_cons, List.flatMap_nil, List.append_nil]
      exact ⟨alone request, fun name member => absent request name member grown⟩

/-- The work goes on until a request fails, and ends with the failure of that request. -/
theorem ending (work : Work admin state topics requests result finish) :
    Ending requests result := by
  induction work with
  | done => exact .returned (by simp)
  | @next _ _ request _ _ _ _ grown outcome rest inductionHypothesis =>
      have first (failure : Failure) : ¬request.Raises failure := outcome.not_raises
      cases inductionHypothesis with
      | returned settled => exact .returned (List.forall_mem_cons.mpr ⟨first, settled⟩)
      | raised split raises settled =>
          subst split
          exact .raised rfl raises (List.forall_mem_cons.mpr ⟨first, settled⟩)
  | @failed _ request _ _ grown outcome =>
      have alone : [request] = [] ++ [request] := rfl
      cases outcome with
      | failed raises topics => exact .raised alone raises (by simp)

end Work

/-! ## One call -/

/-- The topics that a broker does not list. -/
def missing
    (admin : Admin State)
    (topics : List Topic)
    (state : State) : List Topic :=
  topics.filter fun topic => !(admin.list state).contains topic.name

theorem mem_missing_iff
    {topics : List Topic}
    {state : State}
    {topic : Topic} :
    topic ∈ missing admin topics state ↔ topic ∈ topics ∧ topic.name ∉ admin.list state := by
  simp [missing]

/-- Telling of topics that exist changes nothing but the log. -/
theorem perform_tellExists
    (present : List Topic)
    (start : Provisioning State) :
    ∃ log, (present.forM tellExists).perform start = (.ok (), { start with log }) := by
  induction present generalizing start with
  | nil => exact ⟨start.log, rfl⟩
  | cons topic present inductionHypothesis =>
      obtain ⟨log, performed⟩ := inductionHypothesis
        ((tellExists topic : Provision State Unit).perform start).2
      refine ⟨log, ?_⟩
      change (tellExists topic >>= fun _ => present.forM tellExists).perform start = _
      exact (perform_bind_of_ok _ rfl).trans performed

/-- Whatever others do, making topics exist is work on those that are missing. -/
theorem work_ensure
    {others : Others State}
    (faithful : admin.IsFaithful)
    (growing : ∀ count state, admin.Grows state (others count state))
    (topics : List Topic)
    (start : Provisioning (Shared State)) :
    ∃ result requests finish log,
      (ensure (admin.amid others) topics).perform start =
          (result, ⟨⟨finish, start.broker.requests ++ requests⟩, log⟩)
        ∧ Work admin start.broker.broker (missing admin topics start.broker.broker) requests result
          finish := by
  obtain ⟨told, performed⟩ := perform_tellExists
    (topics.filter fun topic => (admin.list start.broker.broker).contains topic.name) start
  obtain ⟨result, requests, finish, log, further, work⟩ :=
    work_createAll faithful growing (missing admin topics start.broker.broker)
      { start with log := told }
  refine ⟨result, requests, finish, log, ?_, work⟩
  rw [ensure, perform_bind_of_ok _ (perform_get start)]
  simp only [List.partition_eq_filter_filter]
  exact (perform_bind_of_ok _ performed).trans further

/-- A call that makes topics exist, as it is seen from outside. -/
structure Call (State : Type) where
  start : Provisioning State
  requests : List (Request State)
  result : Except Failure (List String)
  finish : Provisioning State

namespace Call

/-- The call that is made amid what others do. -/
def make
    (admin : Admin State)
    (topics : List Topic)
    (others : Others State)
    (start : Provisioning State) : Call State :=
  let ended := (ensure (admin.amid others) topics).perform ⟨⟨start.broker, []⟩, start.log⟩
  ⟨start, ended.2.broker.requests, ended.1, ⟨ended.2.broker.broker, ended.2.log⟩⟩

/-- Without others a call is the work on the plain broker. -/
theorem make_alone
    (topics : List Topic)
    (start : Provisioning State) :
    (ensure admin topics).perform start =
      ((make admin topics (fun _ state => state) start).result,
        (make admin topics (fun _ state => state) start).finish) :=
  unrecorded_ensure topics ⟨⟨start.broker, []⟩, start.log⟩

/-- What a call creates itself, in the order of its requests. -/
def creations
    (admin : Admin State)
    (call : Call State) : List String :=
  call.requests.flatMap (Request.creations admin)

/-- What a call does. -/
structure Provisions
    (admin : Admin State)
    (topics : List Topic)
    (call : Call State) : Prop where
  /-- Only topics that are not listed are requested, in order and none left out before the last. -/
  asks : call.requests.map Request.topic <+: missing admin topics call.start.broker
  /-- A request brings no topic about but its own. -/
  sole : ∀ request ∈ call.requests, ∀ name, request.Brings admin name → name = request.topic.name
  /-- What was there and what the call creates is there in the end, however the call ends. -/
  remains : ∀ name, name ∈ admin.list call.start.broker ∨ name ∈ call.creations admin →
    name ∈ admin.list call.finish.broker
  /-- No name is created twice, also if it is asked for twice. -/
  distinct : (call.creations admin).Nodup
  /-- A call that returns leaves no topic missing and tells exactly what it created. -/
  returns : ∀ created, call.result = .ok created →
    (∀ topic ∈ topics, topic.name ∈ admin.list call.finish.broker)
      ∧ created = call.creations admin
  /-- A call ends with a failure exactly if one of its requests does. -/
  fails : ∀ failure, call.result = .error failure ↔
    ∃ request ∈ call.requests, request.Raises failure
  /-- Behind a request that fails nothing is requested. -/
  halts : ∀ earlier request later failure, call.requests = earlier ++ request :: later →
    request.Raises failure → later = []
  /-- A call that finds everything there requests nothing. -/
  rests : (∀ topic ∈ topics, topic.name ∈ admin.list call.start.broker) →
    call.requests = [] ∧ call.result = .ok []

variable {topics : List Topic} {others : Others State} {call : Call State}

theorem work_make
    (faithful : admin.IsFaithful)
    (growing : ∀ count state, admin.Grows state (others count state))
    (topics : List Topic)
    (start : Provisioning State) :
    Work admin start.broker (missing admin topics start.broker)
      (make admin topics others start).requests (make admin topics others start).result
      (make admin topics others start).finish.broker := by
  obtain ⟨result, requests, finish, log, performed, work⟩ :=
    work_ensure faithful growing topics ⟨⟨start.broker, []⟩, start.log⟩
  simpa only [make, performed, List.nil_append] using work

/-- What the work on the missing topics says of the call that does it. -/
theorem provisions_of_work
    (work : Work admin call.start.broker (missing admin topics call.start.broker) call.requests
      call.result call.finish.broker) : call.Provisions admin topics where
  asks := work.topics_prefix
  sole request member name brings := by
    obtain ⟨-, -, _, outcome⟩ := work.surrounds member
    exact outcome.eq_of_brings brings
  remains name present := by
    rcases present with before | created
    · exact work.grows before
    · obtain ⟨request, member, own⟩ := List.mem_flatMap.mp created
      obtain ⟨brings, rfl⟩ := Request.mem_creations_iff.mp own
      obtain ⟨-, after, -⟩ := work.surrounds member
      exact after brings.2
  distinct := work.creations_fresh.1
  returns created returned := by
    obtain ⟨complete, same⟩ := work.of_result returned
    refine ⟨fun topic member => ?_, same⟩
    by_cases listed : topic.name ∈ admin.list call.start.broker
    · exact work.grows listed
    · exact complete topic (mem_missing_iff.mpr ⟨member, listed⟩)
  fails failure := work.ending.result_eq_error_iff
  halts earlier request later failure split raises := (work.ending.of_raises split raises).1
  rests listed := by
    have none_missing : missing admin topics call.start.broker = [] := by
      simpa [missing] using listed
    rw [none_missing] at work
    exact work.of_nil

/-- Nothing is created that was listed. -/
theorem Provisions.not_listed_of_created
    {name : String}
    (provisions : call.Provisions admin topics)
    (created : name ∈ call.creations admin) : name ∉ admin.list call.start.broker := by
  obtain ⟨request, member, own⟩ := List.mem_flatMap.mp created
  obtain ⟨-, rfl⟩ := Request.mem_creations_iff.mp own
  have asked : request.topic ∈ call.requests.map Request.topic := List.mem_map_of_mem member
  exact (mem_missing_iff.mp (provisions.asks.subset asked)).2

end Call

/-! ## Several calls -/

/-- What others do before a call and amid it. -/
structure Turn (State : Type) where
  earlier : State → State
  amid : Others State

/-- Others only add topics. -/
structure Turn.Keeps
    (turn : Turn State)
    (admin : Admin State) : Prop where
  earlier : ∀ state, admin.Grows state (turn.earlier state)
  amid : ∀ count state, admin.Grows state (turn.amid count state)

/-- Calls for the same topics one after another. -/
def calls
    (admin : Admin State)
    (topics : List Topic) : List (Turn State) → Provisioning State → List (Call State)
  | [], _ => []
  | turn :: turns, start =>
      let call := Call.make admin topics turn.amid
        { start with broker := turn.earlier start.broker }
      call :: calls admin topics turns call.finish

/-- What calls one after another do. -/
structure Converges
    (admin : Admin State)
    (topics : List Topic)
    (calls : List (Call State)) : Prop where
  provisions : ∀ call ∈ calls, call.Provisions admin topics
  /-- A call none of whose requests fails completes the topics, whatever became of earlier ones. -/
  completes : ∀ call ∈ calls, (∀ request ∈ call.requests, ∀ failure, ¬request.Raises failure) →
    call.result = .ok (call.creations admin)
      ∧ ∀ topic ∈ topics, topic.name ∈ admin.list call.finish.broker
  /-- What a call created is listed by every later one. -/
  lasts : calls.Pairwise fun earlier later =>
    ∀ name ∈ earlier.creations admin, name ∈ admin.list later.start.broker
  /-- Once a call has returned, later calls request nothing. -/
  settles : calls.Pairwise fun earlier later =>
    (∃ created, earlier.result = .ok created) → later.requests = [] ∧ later.result = .ok []
  /-- No name is created twice. -/
  once : (calls.flatMap (Call.creations admin)).Nodup

section Calls

variable {topics : List Topic} {turns : List (Turn State)} {start : Provisioning State}

/-- Every call is work on what is missing when it is made, and no topic has gone away until then. -/
theorem work_of_mem_calls
    (faithful : admin.IsFaithful)
    (kept : ∀ turn ∈ turns, turn.Keeps admin)
    {call : Call State}
    (member : call ∈ calls admin topics turns start) :
    admin.Grows start.broker call.start.broker
      ∧ Work admin call.start.broker (missing admin topics call.start.broker) call.requests
        call.result call.finish.broker := by
  induction turns generalizing start with
  | nil => simp [calls] at member
  | cons turn turns inductionHypothesis =>
      obtain ⟨keeps, further⟩ := List.forall_mem_cons.mp kept
      have work := Call.work_make faithful keeps.amid topics
        { start with broker := turn.earlier start.broker }
      rcases List.mem_cons.mp member with rfl | later
      · exact ⟨keeps.earlier _, work⟩
      · obtain ⟨grown, laterWork⟩ := inductionHypothesis further later
        exact ⟨((keeps.earlier _).trans work.grows).trans grown, laterWork⟩

/-- What holds between what a call leaves behind and each call that starts no earlier holds between
every call and the later ones. -/
theorem pairwise_calls
    (faithful : admin.IsFaithful)
    (kept : ∀ turn ∈ turns, turn.Keeps admin)
    {related : Call State → Call State → Prop}
    (relates : ∀ earlier later, earlier.Provisions admin topics → later.Provisions admin topics →
      admin.Grows earlier.finish.broker later.start.broker → related earlier later) :
    (calls admin topics turns start).Pairwise related := by
  induction turns generalizing start with
  | nil => exact .nil
  | cons turn turns inductionHypothesis =>
      obtain ⟨keeps, further⟩ := List.forall_mem_cons.mp kept
      have work := Call.work_make faithful keeps.amid topics
        { start with broker := turn.earlier start.broker }
      refine .cons (fun later member => ?_) (inductionHypothesis further)
      obtain ⟨grown, laterWork⟩ := work_of_mem_calls faithful further member
      exact relates _ _ (Call.provisions_of_work work) (Call.provisions_of_work laterWork) grown

/-- However others interfere and whatever fails, calls for the same topics converge: each tells what
it created, none undoes what another has done, and the first one without a failure of its own leaves
nothing to do for the later ones. -/
theorem converges_calls
    (faithful : admin.IsFaithful)
    (kept : ∀ turn ∈ turns, turn.Keeps admin)
    (topics : List Topic)
    (start : Provisioning State) : Converges admin topics (calls admin topics turns start) where
  provisions call member :=
    Call.provisions_of_work (work_of_mem_calls faithful kept member).2
  completes call member settled := by
    have provisions := Call.provisions_of_work (work_of_mem_calls faithful kept member).2
    cases ended : call.result with
    | error failure =>
        obtain ⟨request, isRequest, raises⟩ := (provisions.fails failure).mp ended
        exact absurd raises (settled request isRequest failure)
    | ok created =>
        obtain ⟨complete, same⟩ := provisions.returns created ended
        exact ⟨congrArg Except.ok same, complete⟩
  lasts := pairwise_calls faithful kept fun earlier later provisions _ grown name created =>
    grown (provisions.remains name (.inr created))
  settles := pairwise_calls faithful kept fun earlier later provisions laterProvisions grown => by
    rintro ⟨created, returned⟩
    obtain ⟨complete, -⟩ := provisions.returns created returned
    exact laterProvisions.rests fun topic member => grown (complete topic member)
  once := by
    refine List.nodup_flatMap.mpr ⟨fun call member => ?_, ?_⟩
    · exact (Call.provisions_of_work (work_of_mem_calls faithful kept member).2).distinct
    · refine pairwise_calls faithful kept fun earlier later provisions laterProvisions grown => ?_
      intro name created again
      refine laterProvisions.not_listed_of_created again (grown ?_)
      exact provisions.remains name (.inr created)

end Calls

/-! ## A cluster -/

/-- The topics of a cluster, and which of the next requests it cannot serve. -/
structure Cluster where
  topics : List String
  outages : List Bool := []

/-- What is answered while a cluster has no leader to serve a request. -/
def leaderless : Failure := .broker { name := "NotLeaderForPartitionError" }

/-- What is answered when a topic exists. -/
def alreadyExists : Failure := .broker { name := "TopicAlreadyExistsError" }

/-- How a cluster lists its topics and creates one. -/
def cluster : Admin Cluster where
  list := Cluster.topics
  create topic cluster :=
    let outages := cluster.outages.tail
    if cluster.outages.headD false then (.error leaderless, { cluster with outages })
    else if topic.name ∈ cluster.topics then (.error alreadyExists, { cluster with outages })
    else (.ok (), { topics := cluster.topics ++ [topic.name], outages })

theorem isFaithful_cluster : cluster.IsFaithful where
  creates topic before after created := by
    simp only [cluster] at created ⊢
    split at created
    · cases created
    · split at created
      · cases created
      · next absent =>
        cases created
        exact ⟨absent, by simp⟩
  refuses topic before failure after refused := by
    simp only [cluster] at refused ⊢
    split at refused
    · cases refused
      exact ⟨fun existing => absurd existing (by decide), by simp⟩
    · split at refused
      · next present =>
        cases refused
        exact ⟨fun _ => present, by simp⟩
      · cases refused

/-- Four topics, two of one name. -/
def overlapping : List Topic :=
  ["order.completed", "order.completed", "events", "dead-letters"].map fun name =>
    ⟨name, standardPartitions, standardReplication⟩

/-- A first call meets an outage at its third request; then the outage is over, and somebody creates
a topic just before the first request of the second call; nothing is in the way of the third. -/
def interrupted : List (Turn Cluster) :=
  [{ earlier := fun cluster => { cluster with outages := [false, false, true] },
     amid := fun _ cluster => cluster },
   { earlier := fun cluster => { cluster with outages := [] },
     amid := fun count cluster =>
      if count = 0 then { cluster with topics := cluster.topics ++ ["events"] } else cluster },
   { earlier := fun cluster => cluster, amid := fun _ cluster => cluster }]

theorem keeps_of_mem_interrupted : ∀ turn ∈ interrupted, turn.Keeps cluster := by
  have unchanged (state : Cluster) : cluster.Grows state state := List.Subset.refl _
  intro turn member
  simp only [interrupted, List.mem_cons, List.not_mem_nil, or_false] at member
  rcases member with rfl | rfl | rfl
  · exact ⟨fun state => unchanged state, fun _ state => unchanged state⟩
  · refine ⟨fun state => unchanged state, fun count state => ?_⟩
    dsimp only
    split
    · exact List.subset_append_left _ _
    · exact unchanged state
  · exact ⟨fun state => unchanged state, fun _ state => unchanged state⟩

/-- The interrupted calls converge: the first one creates a topic before it fails, the second one
what is missing by then, and the third one finds everything. -/
theorem converges_calls_interrupted :
    let made := calls cluster overlapping interrupted ⟨⟨["unrelated"], []⟩, []⟩
    cluster.IsFaithful
      ∧ (∀ turn ∈ interrupted, turn.Keeps cluster)
      ∧ Converges cluster overlapping made
      ∧ made.map (fun call => (call.result.toOption, call.creations cluster)) =
        [(none, ["order.completed"]), (some ["dead-letters"], ["dead-letters"]), (some [], [])] :=
  ⟨isFaithful_cluster, keeps_of_mem_interrupted,
    converges_calls isFaithful_cluster keeps_of_mem_interrupted overlapping _, by decide⟩

end Topic
end Fulfilment
