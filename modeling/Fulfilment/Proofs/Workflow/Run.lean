import Fulfilment.Proofs.Workflow.Atomicity

/-!
# Runs

Deliveries are handled one after another, each over the tables that the calls before it have left.
A run is therefore a trace of calls, and what every call preserves holds after every run.
-/

namespace Fulfilment
namespace Workflow

/-- Handle deliveries one after another. -/
def run (retries : Int) : List Delivery → Service → List Call × Service
  | [], service => ([], service)
  | delivery :: deliveries, service =>
      let (call, next) := deliver retries delivery service
      let (calls, last) := run retries deliveries next
      (call :: calls, last)

/-- Calls of which each finds the tables that the one before it has left. -/
inductive Trace : Tables → List Call → Tables → Prop where
  | nil (tables : Tables) : Trace tables [] tables
  | cons {call : Call} {calls : List Call} {last : Tables}
      (effect : Effect call)
      (rest : Trace call.after calls last) : Trace call.before (call :: calls) last

/-- A run is a trace, and its messages are those of its calls. -/
theorem trace_run
    {service : Service}
    {tables : Tables}
    (retries : Int)
    (deliveries : List Delivery)
    (rests : service.Rests tables) :
    Trace tables (run retries deliveries service).1
        (run retries deliveries service).2.store.committed
      ∧ (run retries deliveries service).2.broker.sent =
        service.broker.sent ++ (run retries deliveries service).1.flatMap Call.sent := by
  induction deliveries generalizing service tables with
  | nil =>
      refine ⟨?_, by simp [run]⟩
      rw [run, rests.store]
      exact .nil tables
  | cons delivery deliveries ih =>
      obtain ⟨effect, rfl, ready⟩ := effect_deliver retries delivery rests
      obtain ⟨trace, sent⟩ := ih ready.rests
      refine ⟨.cons effect trace, ?_⟩
      simp only [run, List.flatMap_cons]
      rw [sent, ready.sent, List.append_assoc]

/-- Every call of a trace has an effect. -/
theorem Trace.effect
    {tables last : Tables}
    {calls : List Call}
    (trace : Trace tables calls last) : ∀ call ∈ calls, Effect call := by
  induction trace with
  | nil tables => simp
  | cons effect _ ih =>
      intro call member
      rcases List.mem_cons.mp member with rfl | member
      · exact effect
      · exact ih call member

/-- Messages of calls announce what the calls announce. -/
theorem announcements_flatMap (calls : List Call) :
    Message.announcements (calls.flatMap Call.sent) = calls.flatMap Call.announcements := by
  induction calls with
  | nil => rfl
  | cons call calls ih =>
      rw [List.flatMap_cons, List.flatMap_cons, Message.announcements_append, ih]
      rfl

/-- A run from a broker that has nothing announces what its calls announce. -/
theorem announcements_run
    (service : Service)
    (tables : Tables)
    (retries : Int)
    (deliveries : List Delivery) :
    Message.announcements (run retries deliveries (service.over tables)).2.broker.sent =
      (run retries deliveries (service.over tables)).1.flatMap Call.announcements := by
  obtain ⟨-, sent⟩ := trace_run retries deliveries (service.rests_over tables)
  rw [sent, Message.announcements_append, announcements_flatMap]
  rfl

end Workflow
end Fulfilment
