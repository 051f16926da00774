import Fulfilment.Proofs.Publish.Obstacle
import Mathlib.Data.List.Chain

/-!
# The life of a producer

A channel constructs a producer when a message finds none, sends every further message on it, and
flushes and closes it when the channel itself is closed.  Whatever the broker does, a message is
sent at most once, and its sending ends as its own faults demand: no failure of an earlier message
stands in its way.
-/

namespace Fulfilment

open Fulfilment.Action Fulfilment.Change Fulfilment.Service

namespace Publish

/-- The message with which an event is published. -/
def eventMessage
    (service : Service)
    (event : Event) : Message :=
  match event with
  | .orderCompleted completed =>
      message service.events.topic service.routingKey completed event.encode
  | .shippingCreated created =>
      message service.events.topic service.routingKey created event.encode

end Publish

namespace Channel

/-- What a channel is asked to do. -/
inductive Use : Channel → Type where
  | publish (event : Event) : Use .events
  | deadLetter (record : Record) (reason : String) : Use .deadLetters
  | close (channel : Channel) : Use channel

/-- What a channel does when it is asked to. -/
def Use.action {channel : Channel} (use : Use channel) : Action Unit :=
  match use with
  | .publish event => Publish.event event
  | .deadLetter record reason => DeadLetter.send record reason
  | .close channel => channel.close

/-- The message that a channel is asked to send. -/
def Use.message?
    {channel : Channel}
    (use : Use channel)
    (service : Service) : Option Message :=
  match use with
  | .publish event => some (Publish.eventMessage service event)
  | .deadLetter record reason =>
      some (DeadLetter.letter service.deadLetters.topic record reason)
  | .close _ => none

/-- The error that tells why the broker did not take a message. -/
def refusal
    (channel : Channel)
    (topic reason : String) : ServiceError :=
  match channel with
  | .events => .publish topic reason
  | .deadLetters => .deadLetter topic reason

/-- How a channel tells a failure: as an error of its own if the broker is why. -/
def tells
    (channel : Channel)
    (topic : String)
    (failure : Failure) : Failure :=
  match failure with
  | .broker error => .service (channel.refusal topic error.message)
  | failure => failure

/-- The use of a channel as it is seen from outside. -/
structure Turn (channel : Channel) where
  use : Use channel
  before : Service
  ending : Except Failure Unit
  after : Service

namespace Turn

variable {channel : Channel}

/-- The use that is made of a channel of a service. -/
def make
    (use : Use channel)
    (service : Service) : Turn channel :=
  let (ending, after) := use.action.perform service
  ⟨use, service, ending, after⟩

/-- What a use asks of producers. -/
def calls (turn : Turn channel) : List ProducerCall :=
  turn.after.broker.calls.drop turn.before.broker.calls.length

/-- The messages that a use adds. -/
def sent (turn : Turn channel) : List Message :=
  turn.after.broker.sent.drop turn.before.broker.sent.length

/-- A message is sent, or fails to be, by itself. -/
structure Sends
    (turn : Turn channel)
    (message : Message) : Prop where
  /-- An open producer is used again. -/
  reuses : turn.before.isOpen channel = true →
    turn.calls = [] ∧ turn.after.isOpen channel = true
  /-- Without one a producer is constructed, unless that fails. -/
  constructs : turn.before.isOpen channel = false → turn.before.connectFault? channel = none →
    turn.calls =
        [.create turn.before.settings.brokerServers
          turn.before.settings.requestTimeoutMilliseconds]
      ∧ turn.after.isOpen channel = true
  /-- A construction that fails leaves no producer, and nothing is sent. -/
  unconnected : turn.before.connectFault? channel ≠ none →
    turn.calls = [] ∧ turn.after.isOpen channel = false ∧ turn.sent = []
  /-- At most one producer is asked for. -/
  connectFaults : turn.after.broker.connectFaults =
    if turn.before.isOpen channel then turn.before.broker.connectFaults
    else turn.before.broker.connectFaults.tail
  /-- At most one sending is tried. -/
  sendFaults : turn.after.broker.sendFaults =
    if turn.before.connectFault? channel = none then turn.before.broker.sendFaults.tail
    else turn.before.broker.sendFaults
  /-- Nothing else is sent. -/
  once : turn.sent = []
    ∨ ∃ acknowledged, turn.sent = [{ message with acknowledged }]
  /-- The use gives a result exactly if its message was sent and acknowledged. -/
  ok_iff : turn.ending = .ok () ↔ turn.sent = [{ message with acknowledged := true }]
  /-- The use ends as what stands in its own way demands. -/
  ending : turn.ending =
    match turn.before.obstacle? channel with
    | none => .ok ()
    | some obstacle =>
        .error (channel.tells (turn.before.publisher channel).topic obstacle.failure)

/-- A channel is closed. -/
structure Closes (turn : Turn channel) : Prop where
  /-- Without a producer nothing is done. -/
  idle : turn.before.isOpen channel = false → turn.ending = .ok () ∧ turn.after = turn.before
  /-- The producer is flushed and closed. -/
  closes : turn.before.isOpen channel = true →
    turn.ending = .ok () ∧ turn.calls = [.flush, .close] ∧ turn.after.isOpen channel = false
  /-- Nothing is sent. -/
  silent : turn.sent = []

/-- What a use does. -/
structure Proper (turn : Turn channel) : Prop where
  calls : turn.after.broker.calls = turn.before.broker.calls ++ turn.calls
  sent : turn.after.broker.sent = turn.before.broker.sent ++ turn.sent
  sends : ∀ message ∈ turn.use.message? turn.before, turn.Sends message
  closes : turn.use.message? turn.before = none → turn.Closes

end Turn

/-! ## One message -/

/-- What sending a message on a channel does to the channel's producer and to the broker. -/
structure Tries
    (channel : Channel)
    (message : Message)
    (before : Service)
    (result : Except Failure Unit)
    (after : Service) : Prop where
  isOpen : after.isOpen channel = (before.connectFault? channel).isNone
  calls : after.broker.calls = before.broker.calls ++ before.construction channel
  connectFaults : after.broker.connectFaults =
    if before.isOpen channel then before.broker.connectFaults
    else before.broker.connectFaults.tail
  sendFaults : after.broker.sendFaults =
    if before.connectFault? channel = none then before.broker.sendFaults.tail
    else before.broker.sendFaults
  sent : after.broker.sent =
    before.broker.sent ++ (Obstacle.settle (before.obstacle? channel) message).2
  result : result = (Obstacle.settle (before.obstacle? channel) message).1

/-- A channel that has a producer meets no fault of connecting. -/
theorem connectFault?_of_isOpen
    {channel : Channel}
    {service : Service}
    (opened : service.isOpen channel = true) : service.connectFault? channel = none :=
  if_pos opened

/-- Sending a message tries to. -/
theorem tries_send
    {channel : Channel}
    {key : String}
    {value : Option Bytes}
    {headers : List Header}
    {service after : Service}
    {result : Except Failure Unit}
    (performed : (send channel key value headers).perform service = (result, after)) :
    Tries channel
      ⟨(service.publisher channel).topic, Message.keyBytes key, value, headers, false⟩ service
      result after := by
  obtain ⟨-, sent, added, settled⟩ := perform_send performed
  obtain ⟨ended, rfl⟩ := Prod.mk.inj settled
  obtain ⟨connected, connecting, readied⟩ := perform_connect_eq channel service
  cases fault : service.connectFault? channel with
  | some failure =>
      simp only [fault] at connecting
      rw [send, perform_bind_of_error _ connecting] at performed
      cases performed
      refine ⟨readied.isOpen, readied.calls, readied.connectFaults, ?_, added, ended⟩
      rw [readied.sendFaults, fault]
      rfl
  | none =>
      simp only [fault] at connecting
      rw [send, perform_bind_of_ok _ connecting] at performed
      simp only [nextSendFault, perform_bind, perform_get, perform_set, perform_pure] at performed
      have taken : connected.broker.sendFaults.tail =
          if service.connectFault? channel = none then service.broker.sendFaults.tail
          else service.broker.sendFaults := by
        rw [fault, if_pos rfl, readied.sendFaults]
      cases next : connected.broker.sendFaults.head?.join with
      | none =>
          simp only [next] at performed
          cases performed
          exact ⟨readied.isOpen, readied.calls, readied.connectFaults, taken, added, ended⟩
      | some met =>
          obtain ⟨failure, immediate⟩ := met
          simp only [next] at performed
          cases immediate <;> cases performed <;>
            exact ⟨readied.isOpen, readied.calls, readied.connectFaults, taken, added, ended⟩

/-- Closing a channel without a producer does nothing. -/
theorem perform_close_of_not_isOpen
    {channel : Channel}
    {service : Service}
    (closed : service.isOpen channel = false) :
    (close channel).perform service = (.ok (), service) := by
  rw [isOpen] at closed
  simp [close, perform_bind, closed]

/-- Closing a channel flushes and closes its producer. -/
theorem perform_close_of_isOpen
    {channel : Channel}
    {service : Service}
    (opened : service.isOpen channel = true) :
    ∃ after, (close channel).perform service = (.ok (), after)
      ∧ after.isOpen channel = false
      ∧ after.broker.calls = service.broker.calls ++ [.flush, .close]
      ∧ after.broker.sent = service.broker.sent := by
  rw [isOpen] at opened
  simp only [close, note, Action.tell, perform_bind, perform_get, opened, if_true, perform_modify]
  refine ⟨_, rfl, ?_, ?_, ?_⟩ <;> cases channel <;> simp [isOpen, publisher, setConnected]

/-- A line in the log is nothing that a channel does. -/
theorem Tries.log
    {channel : Channel}
    {message : Message}
    {before after : Service}
    {result : Except Failure Unit}
    (tries : Tries channel message before result after)
    (log : List LogLine) : Tries channel message before result { after with log } :=
  ⟨tries.isOpen, tries.calls, tries.connectFaults, tries.sendFaults, tries.sent, tries.result⟩

/-- The publisher of events tells a failure as a failure to publish. -/
theorem tells_events
    (topic : String)
    (failure : Failure) : tells .events topic failure = Publish.eventFailure topic failure := by
  cases failure <;> rfl

/-- The publisher of dead letters tells a failure as a failure to dead-letter. -/
theorem tells_deadLetters
    (topic : String)
    (failure : Failure) : tells .deadLetters topic failure = DeadLetter.failure topic failure := by
  cases failure <;> rfl

/-- Publishing an envelope tries to send its message. -/
theorem tries_envelope
    {envelope : Envelope Payload}
    {written : Bytes}
    {service after : Service}
    {ending : Except Failure Unit}
    (performed : (Publish.envelope envelope written).perform service = (ending, after)) :
    ∃ result,
      Tries .events (Publish.message service.events.topic service.routingKey envelope written)
          service result after
        ∧ ending = result.mapError (tells .events service.events.topic) := by
  cases sending : (send .events envelope.partitionKey (some written)
      (Publish.eventHeaders service.routingKey envelope)).perform service with
  | mk result between =>
      have tries := tries_send sending
      simp only [Publish.envelope, perform_bind, perform_get, perform_attempt, sending] at performed
      cases result with
      | ok _ =>
          cases performed
          exact ⟨_, tries.log _, rfl⟩
      | error failure =>
          obtain ⟨log, told⟩ :=
            Publish.uses_tellUnpublished service.events.topic envelope failure between
          simp only [perform_bind, told, ← tells_events] at performed
          cases performed
          exact ⟨_, tries.log log, rfl⟩

/-- Copying a record tries to send its letter. -/
theorem tries_deadLetter
    {record : Record}
    {reason : String}
    {service after : Service}
    {ending : Except Failure Unit}
    (performed : (DeadLetter.send record reason).perform service = (ending, after)) :
    ∃ result,
      Tries .deadLetters (DeadLetter.letter service.deadLetters.topic record reason) service
          result after
        ∧ ending = result.mapError (tells .deadLetters service.deadLetters.topic) := by
  cases sending : (send .deadLetters (DeadLetter.key record) record.value
      (DeadLetter.headers record reason)).perform service with
  | mk result between =>
      have tries := tries_send sending
      simp only [DeadLetter.send, perform_bind, perform_get, perform_attempt, sending] at performed
      cases result with
      | ok _ =>
          cases performed
          exact ⟨_, tries, rfl⟩
      | error failure =>
          simp only [← tells_deadLetters] at performed
          cases performed
          exact ⟨_, tries, rfl⟩

namespace Turn

variable {channel : Channel}

/-- A use that sends a message tries to, and tells a failure in the channel's way. -/
theorem tries_make
    {use : Use channel}
    {service : Service}
    {message : Message}
    (sends : use.message? service = some message) :
    ∃ result, Tries channel message service result (make use service).after
      ∧ (make use service).ending =
        result.mapError (channel.tells (service.publisher channel).topic) := by
  cases use with
  | publish event =>
      cases Option.some.inj sends
      cases event with
      | orderCompleted completed => exact tries_envelope rfl
      | shippingCreated created => exact tries_envelope rfl
  | deadLetter record reason =>
      cases Option.some.inj sends
      exact tries_deadLetter rfl
  | close => cases sends

/-- A use that tries to send a message does so by itself. -/
theorem sends_of_tries
    {turn : Turn channel}
    {message : Message}
    {result : Except Failure Unit}
    (tries : Tries channel message turn.before result turn.after)
    (ended : turn.ending =
      result.mapError (channel.tells (turn.before.publisher channel).topic)) :
    turn.Sends message := by
  have calls : turn.calls = turn.before.construction channel := by
    rw [Turn.calls, tries.calls, List.drop_left]
  have sent : turn.sent = (Obstacle.settle (turn.before.obstacle? channel) message).2 := by
    rw [Turn.sent, tries.sent, List.drop_left]
  have isOpen := tries.isOpen
  rw [tries.result] at ended
  refine ⟨?_, ?_, ?_, tries.connectFaults, tries.sendFaults, ?_, ?_, ?_⟩
  · intro opened
    rw [calls, isOpen, connectFault?_of_isOpen opened, construction, opened]
    exact ⟨rfl, rfl⟩
  · intro closed faultless
    rw [calls, isOpen, construction, closed, faultless]
    exact ⟨rfl, rfl⟩
  · intro faulty
    obtain ⟨failure, fault⟩ := Option.ne_none_iff_exists'.mp faulty
    rw [calls, isOpen, sent, construction, obstacle?, fault, Option.isSome_some, Bool.or_true]
    exact ⟨rfl, rfl, rfl⟩
  · rw [sent]
    cases turn.before.obstacle? channel with
    | none => exact .inr ⟨true, rfl⟩
    | some obstacle =>
        obtain ⟨failure, recorded⟩ := obstacle
        cases recorded with
        | false => exact .inl rfl
        | true => exact .inr ⟨false, rfl⟩
  · rw [ended, sent]
    cases turn.before.obstacle? channel with
    | none => exact ⟨fun _ => rfl, fun _ => rfl⟩
    | some obstacle =>
        obtain ⟨failure, recorded⟩ := obstacle
        constructor
        · rintro ⟨⟩
        · cases recorded <;> simp [Obstacle.settle, Obstacle.leaves]
  · rw [ended]
    cases turn.before.obstacle? channel <;> rfl

/-- A use that sends no message closes its channel. -/
theorem closes_make
    {use : Use channel}
    {service : Service}
    (silent : use.message? service = none) :
    (make use service).Closes
      ∧ (make use service).after.broker.sent = service.broker.sent
      ∧ ∃ calls, (make use service).after.broker.calls = service.broker.calls ++ calls := by
  cases use with
  | publish => cases silent
  | deadLetter => cases silent
  | close =>
      cases opened : service.isOpen channel with
      | false =>
          have made : make (.close channel) service =
              ⟨.close channel, service, .ok (), service⟩ := by
            simp only [make, Use.action, perform_close_of_not_isOpen opened]
          rw [made]
          refine ⟨⟨fun _ => ⟨rfl, rfl⟩, fun other => ?_, ?_⟩, rfl, [], (List.append_nil _).symm⟩
          · cases opened.symm.trans other
          · simp [Turn.sent]
      | true =>
          obtain ⟨after, performed, closed, calls, sent⟩ := perform_close_of_isOpen opened
          have made : make (.close channel) service = ⟨.close channel, service, .ok (), after⟩ := by
            simp only [make, Use.action, performed]
          rw [made]
          refine ⟨⟨fun other => ?_, fun _ => ⟨rfl, ?_, closed⟩, ?_⟩, sent, _, calls⟩
          · cases opened.symm.trans other
          · simp [Turn.calls, calls]
          · simp [Turn.sent, sent]

/-- Every use does what it should. -/
theorem proper_make
    (use : Use channel)
    (service : Service) : (make use service).Proper := by
  cases sends : use.message? service with
  | some message =>
      obtain ⟨result, tries, ended⟩ := tries_make sends
      refine ⟨?_, ?_, ?_, ?_⟩
      · exact (List.prefix_iff_eq_append.mp ⟨_, tries.calls.symm⟩).symm
      · exact (List.prefix_iff_eq_append.mp ⟨_, tries.sent.symm⟩).symm
      · intro other same
        cases Option.some.inj (sends.symm.trans same)
        exact sends_of_tries tries ended
      · intro silent
        cases sends.symm.trans silent
  | none =>
      obtain ⟨closes, sent, calls, asked⟩ := closes_make sends
      refine ⟨?_, ?_, ?_, fun _ => closes⟩
      · exact (List.prefix_iff_eq_append.mp ⟨_, asked.symm⟩).symm
      · exact (List.prefix_iff_eq_append.mp ⟨[], by rw [sent, List.append_nil]; rfl⟩).symm
      · intro other same
        cases sends.symm.trans same

end Turn

/-! ## Every message -/

/-- Producers that are constructed one after the other, each flushed and closed before the next one:
the calls that tell of them, and whether one is open before and after. -/
inductive Lifetimes : Bool → List ProducerCall → Bool → Prop where
  | rest (isOpen : Bool) : Lifetimes isOpen [] isOpen
  | construct {servers : List String} {timeout : Int} {calls : List ProducerCall} {last : Bool}
      (rest : Lifetimes true calls last) : Lifetimes false (.create servers timeout :: calls) last
  | close {calls : List ProducerCall} {last : Bool}
      (rest : Lifetimes false calls last) : Lifetimes true (.flush :: .close :: calls) last

/-- A producer is constructed. -/
def constructs (call : ProducerCall) : Bool :=
  match call with
  | .create _ _ => true
  | _ => false

/-- How many producers are open after some calls. -/
def openAfter
    (isOpen : Bool)
    (calls : List ProducerCall) : Int :=
  isOpen.toNat + calls.countP constructs - calls.count .close

/-- Lifetimes follow each other. -/
theorem Lifetimes.append
    {first between last : Bool}
    {calls later : List ProducerCall}
    (earlier : Lifetimes first calls between)
    (rest : Lifetimes between later last) : Lifetimes first (calls ++ later) last := by
  induction earlier with
  | rest _ => exact rest
  | construct _ ih => exact .construct (ih rest)
  | close _ ih => exact .close (ih rest)

/-- At most one producer is open at any time. -/
theorem Lifetimes.openAfter_bounds
    {first last : Bool}
    {calls earlier : List ProducerCall}
    (lifetimes : Lifetimes first calls last)
    (before : earlier <+: calls) : 0 ≤ openAfter first earlier ∧ openAfter first earlier ≤ 1 := by
  induction lifetimes generalizing earlier with
  | rest isOpen =>
      obtain rfl := List.prefix_nil.mp before
      cases isOpen <;> decide
  | construct _ ih =>
      cases earlier with
      | nil => decide
      | cons call earlier =>
          obtain ⟨rfl, rest⟩ := List.cons_prefix_cons.mp before
          have bounds := ih rest
          simp only [openAfter, Bool.toNat_true, Bool.toNat_false, List.countP_cons, constructs,
            List.count_cons] at bounds ⊢
          simp
          omega
  | close _ ih =>
      match earlier with
      | [] => decide
      | [call] =>
          obtain ⟨rfl, -⟩ := List.cons_prefix_cons.mp before
          decide
      | call :: other :: earlier =>
          obtain ⟨rfl, unflushed⟩ := List.cons_prefix_cons.mp before
          obtain ⟨rfl, rest⟩ := List.cons_prefix_cons.mp unflushed
          have bounds := ih rest
          simp only [openAfter, Bool.toNat_true, Bool.toNat_false, List.countP_cons, constructs,
            List.count_cons] at bounds ⊢
          simp
          omega

/-- Use a channel again and again. -/
def course
    {channel : Channel} : List (Use channel) → Service → List (Turn channel) × Service
  | [], service => ([], service)
  | use :: uses, service =>
      let turn := Turn.make use service
      let (turns, last) := course uses turn.after
      (turn :: turns, last)

/-- A use constructs a producer if there is none, and closes it if it is open. -/
theorem Turn.Proper.lifetimes
    {channel : Channel}
    {turn : Turn channel}
    (proper : turn.Proper) :
    Lifetimes (turn.before.isOpen channel) turn.calls (turn.after.isOpen channel) := by
  cases asked : turn.use.message? turn.before with
  | some message =>
      have sends := proper.sends message asked
      cases opened : turn.before.isOpen channel with
      | true =>
          obtain ⟨silent, still⟩ := sends.reuses opened
          rw [silent, still]
          exact .rest true
      | false =>
          cases fault : turn.before.connectFault? channel with
          | none =>
              obtain ⟨constructed, now⟩ := sends.constructs opened fault
              rw [constructed, now]
              exact .construct (.rest true)
          | some failure =>
              obtain ⟨silent, still, -⟩ := sends.unconnected (by simp [fault])
              rw [silent, still]
              exact .rest false
  | none =>
      have closes := proper.closes asked
      cases opened : turn.before.isOpen channel with
      | true =>
          obtain ⟨-, closed, now⟩ := closes.closes opened
          rw [closed, now]
          exact .close (.rest false)
      | false =>
          obtain ⟨-, same⟩ := closes.idle opened
          rw [Turn.calls, same, opened, List.drop_length]
          exact .rest false

/-- What a course does is what its turns do. -/
structure Course
    (channel : Channel)
    (uses : List (Use channel))
    (service : Service)
    (turns : List (Turn channel))
    (last : Service) : Prop where
  made : turns.map Turn.use = uses
  proper : ∀ turn ∈ turns, turn.Proper
  starts : ∀ turn ∈ turns.head?, turn.before = service
  /-- Each turn finds the producer and the broker as the one before it has left them. -/
  linked : turns.IsChain fun earlier later => later.before = earlier.after
  sent : last.broker.sent = service.broker.sent ++ turns.flatMap Turn.sent
  calls : last.broker.calls = service.broker.calls ++ turns.flatMap Turn.calls
  lifetimes : Lifetimes (service.isOpen channel) (turns.flatMap Turn.calls) (last.isOpen channel)

/-- Uses one after the other are a course. -/
theorem course_course
    {channel : Channel}
    (uses : List (Use channel))
    (service : Service) :
    Course channel uses service (course uses service).1 (course uses service).2 := by
  induction uses generalizing service with
  | nil =>
      exact ⟨rfl, by simp [course], by simp [course], .nil, by simp [course], by simp [course],
        .rest _⟩
  | cons use uses ih =>
      have proper := Turn.proper_make use service
      have rest := ih (Turn.make use service).after
      refine ⟨?_, ?_, ?_, ?_, ?_, ?_, proper.lifetimes.append rest.lifetimes⟩
      · rw [course, List.map_cons, rest.made]
        rfl
      · intro turn member
        rcases List.mem_cons.mp member with rfl | member
        · exact proper
        · exact rest.proper turn member
      · intro turn first
        cases Option.some.inj first
        rfl
      · exact List.isChain_cons.mpr ⟨rest.starts, rest.linked⟩
      · rw [course, List.flatMap_cons, ← List.append_assoc]
        exact rest.sent.trans (congrArg (· ++ _) proper.sent)
      · rw [course, List.flatMap_cons, ← List.append_assoc]
        exact rest.calls.trans (congrArg (· ++ _) proper.calls)

/-- However often a channel is used and closed, and whatever faults its broker has, each use does
what it should, and the producers live one after the other, so that at most one is open at a
time. -/
theorem lifetimes_course
    (channel : Channel)
    (uses : List (Use channel))
    (service : Service) :
    Course channel uses service (course uses service).1 (course uses service).2
      ∧ ∀ earlier, earlier <+: (course uses service).1.flatMap Turn.calls →
        0 ≤ openAfter (service.isOpen channel) earlier
          ∧ openAfter (service.isOpen channel) earlier ≤ 1 := by
  have course := course_course uses service
  exact ⟨course, fun _ before => course.lifetimes.openAfter_bounds before⟩

end Channel
end Fulfilment
