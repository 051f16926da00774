import Fulfilment.Command.CreateTopics
import Fulfilment.Consumer.DeadLetters
import Fulfilment.Consumer.Orders

/-!
# The long-running commands

One command consumes completed orders and the other observes dead letters.  Both run until they
are interrupted, which ends them well, or until something fails.
-/

namespace Fulfilment
namespace Command

open Fulfilment.Action Fulfilment.Change

/-- How a consumer subscribes. -/
structure Subscription where
  topic : String
  servers : List String
  group : String
  maxPollRecords : Int
deriving DecidableEq, Repr

/-- What a consumer meets: what its broker calls the subscription, the polls to come, how they end,
and the failures of making the consumer and of its commits. -/
structure Script where
  subscribed : String
  polls : List (List (List Record)) := []
  ending : Option Failure := none
  connectFailure : Option Failure := none
  commitFailure : Option Failure := none

/-- What came of a consumer that was made. -/
structure Consumed where
  subscription : Subscription
  commits : Nat
  closed : Bool
deriving DecidableEq, Repr

/-- What came of a command: how it ended, its consumer if one was made, and the service. -/
structure ServiceReport where
  ending : Ending
  consumed : Option Consumed := none
  service : Service

/-- How a consumer subscribes under some settings. -/
def subscribe
    (settings : Settings)
    (topic group : String) : Subscription where
  topic := topic
  servers := settings.brokerServers
  group := group
  maxPollRecords := settings.maxPollRecords

/-- Tell what the orders command is about to do. -/
def announce : Action Unit := do
  let settings := (← get).settings
  tell .command .info "Order Completed Consumer Service Starting..."
  tell .command .info s!"Kafka Bootstrap Servers: {settings.broker}"
  tell .command .info s!"Topic: {settings.ordersTopic} (group {settings.consumerGroup})"
  tell .command .info s!"Dead-letter topic: {settings.deadLetterTopic}"

/-- How a command ends when its consumer has ended. -/
def endingOf (result : Except Failure Unit) : Ending :=
  match result with
  | .ok () => .exit 0
  | .error failure => if failure.isInterrupt then .exit 0 else .escaped failure

/-- Tell how the consumer of orders ended, and close both publishers. -/
def finishOrders (result : Except Failure Unit) : Action Unit := do
  match result with
  | .ok () => pure ()
  | .error failure =>
      if failure.isInterrupt then
        tell .command .info "Shutting down order completed consumer..."
      else tell .command .error s!"Consumer error: {failure.message}"
  Channel.events.close
  Channel.deadLetters.close

/-- The started pool of the orders command. -/
def ordersPool
    (workerCount : Nat)
    (capacity : Int) : Pool Record Dispatch.Outcome :=
  Pool.start { name := "order_completed", workerCount, capacity }

/-- Consume completed orders with so many retries after conflicts and so many workers. -/
def runOrders
    (retries : Int)
    (workerCount : Nat)
    (script : Script)
    (service : Service) : ServiceReport :=
  let (_, service) := announce.perform service
  let pool := ordersPool workerCount service.settings.workerQueueSize
  match script.connectFailure with
  | some failure => { ending := .escaped failure, service }
  | none =>
      let handler := Consumer.Handler.ofService retries
      let consumer : Consumer.Subscriber Record :=
        { subscription := script.subscribed, commitFailure := script.commitFailure, pool }
      let loop := handler.run script.polls script.ending
      let (result, running) := loop.perform ⟨consumer, service⟩
      let (_, service) := (finishOrders result).perform running.service
      let settings := service.settings
      { ending := endingOf result
        consumed := some {
          subscription := subscribe settings settings.ordersTopic settings.consumerGroup
          commits := running.consumer.commits
          closed := running.consumer.closed }
        service }

/-- Tell that the observer of dead letters was interrupted. -/
def finishObserver (result : Except Failure Unit) : Action Unit :=
  match result with
  | .ok () => return
  | .error failure =>
      if failure.isInterrupt then tell .command .info "Shutting down dead-letter observer..."
      else return

/-- Observe dead letters. -/
def runObserver
    (script : Script)
    (service : Service) : ServiceReport :=
  match script.connectFailure with
  | some failure => { ending := .escaped failure, service }
  | none =>
      let observer : DeadLetter.Observer :=
        { subscription := script.subscribed, commitFailure := script.commitFailure }
      let watch := DeadLetter.Watch.run script.polls script.ending
      let (result, observing) := watch.perform ⟨observer, service⟩
      let (_, service) := (finishObserver result).perform observing.service
      let settings := service.settings
      { ending := endingOf result
        consumed := some {
          subscription := subscribe settings settings.deadLetterTopic settings.observerGroup
          commits := observing.observer.commits
          closed := observing.observer.closed }
        service }

end Command
end Fulfilment
