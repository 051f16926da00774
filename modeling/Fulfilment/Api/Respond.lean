import Fulfilment.Api.Route
import Fulfilment.Api.Target
import Fulfilment.Calendar.Text
import Fulfilment.Service.State

/-!
# Responses

The read interface answers only requests to get something.  Shipments are shown as they are
stored; what is not there, not an identifier or not allowed has a status of its own.
-/

namespace Fulfilment
namespace Api

open Fulfilment.Action Fulfilment.Change

/-- A response: its status and its body, if it has one. -/
structure Response where
  status : Nat
  body : Option Json
deriving Repr

namespace Response

/-- A body that says one thing. -/
def detail
    (status : Nat)
    (text : String) : Response :=
  ⟨status, some (.object [("detail", .string text)])⟩

/-- A good answer. -/
def ok (body : Json) : Response := ⟨200, some body⟩

/-- The path has no route. -/
def notFound : Response := detail 404 "Not Found"

/-- The route does not take the method. -/
def methodNotAllowed : Response := detail 405 "Method Not Allowed"

/-- The path has a route when its last slash is added or taken off. -/
def redirect : Response := ⟨307, none⟩

/-- Whether a response sends the request elsewhere. -/
def isRedirect (response : Response) : Bool :=
  response.status = redirect.status

/-- What the path names is no identifier. -/
def badIdentifier (name : String) : Response :=
  ⟨422, some (.array [.object [
    ("type", .string Schema.IssueKind.uuidParsing.code),
    ("loc", .array [.string "path", .string name])]])⟩

/-- A response without its body. -/
def withoutBody (response : Response) : Response :=
  { response with body := none }

end Response

/-- The text of a wall clock. -/
def wallText (wall : WallClock) : Json :=
  .string (String.ofList (DateTime.wallText wall))

/-- An address with all its parts. -/
def addressBody (address : Address) : Json :=
  .object [
    ("line1", .string address.line1),
    ("line2", address.line2.elim .null .string),
    ("city", .string address.city),
    ("state", .string address.state),
    ("postalCode", .string address.postalCode),
    ("country", .string address.country)]

/-- A shipment as it is stored. -/
def shipmentBody (shipment : Shipment) : Json :=
  .object [
    ("shipping_id", .string shipment.shippingId.text),
    ("order_id", .string shipment.orderId.text),
    ("user_id", .string shipment.userId.text),
    ("address", addressBody shipment.address),
    ("shipping_method", .string shipment.shippingMethod),
    ("carrier", .string shipment.carrier),
    ("created_at", wallText shipment.createdAt)]

/-- The state of the service. -/
def healthBody (service : Service) : Json :=
  .object [
    ("status", .string "ok"),
    ("service", service.settings.serviceName.elim .null .string),
    ("timestamp", .string (String.ofList (service.clock.toDateTime.text .digits)))]

/-- The answer to a request for a route. -/
def answer (route : Route) : Action Response :=
  match route with
  | .health => do return .ok (healthBody (← get))
  | .shipment name =>
      match Uuid.ofText? name with
      | none => return .badIdentifier "shipping_id"
      | some shippingId => do
          let found ← askStore fun tables => tables.shipment? shippingId
          return found.elim (.detail 404 "Shipment not found") fun shipment =>
            .ok (shipmentBody shipment)
  | .shipmentOfOrder name =>
      match Uuid.ofText? name with
      | none => return .badIdentifier "order_id"
      | some orderId => do
          let found ← askStore fun tables => tables.shipmentOfOrder? orderId
          return found.elim (.detail 404 s!"No shipment found for order {orderId.text}")
            fun shipment => .ok (shipmentBody shipment)

/-- The answer to a request of a method, told in capitals, for a path. -/
def respondTo
    (method : String)
    (path : List Char) : Action Response := do
  let response ← match route? path with
    | some route => if method = "GET" then answer route else pure .methodNotAllowed
    | none => pure (if isMisslashed path then .redirect else .notFound)
  return if method = "HEAD" then response.withoutBody else response

/-- The answer to a request of a method, told in capitals, for a destination. -/
def respondAt
    (method : String)
    (destination : Destination) : Action Response := do
  let response ← respondTo method destination.path
  if response.isRedirect then
    Change.resume (destination.checkFragment.mapError TargetFault.toFailure)
  return response

/-- The answer to a request.  The case of its method does not matter. -/
def respond (method target : String) : Action Response :=
  match destination target with
  | .ok destination => respondAt (method.map Char.toUpper) destination
  | .error fault => fail fault.toFailure

end Api
end Fulfilment
