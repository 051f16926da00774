/-!
# Routes

The read interface has three routes: the state of the service, the shipment of an identifier and
the shipment of an order.
-/

namespace Fulfilment
namespace Api

/-- A route with what its path names. -/
inductive Route where
  | health
  | shipment (name : String)
  | shipmentOfOrder (name : String)
deriving DecidableEq, Repr

/-- The path of the service's state. -/
def healthPath : List Char := "/health".toList

/-- What the paths of shipments begin with. -/
def shipmentPath : List Char := "/api/v1/shipping/".toList

/-- What the paths of the shipments of orders begin with. -/
def orderPath : List Char := "/api/v1/shipping/by-order/".toList

/-- The last segment of a path that begins as given and has one segment more. -/
def segmentBehind?
    (beginning path : List Char) : Option String :=
  let segment := path.drop beginning.length
  if path.take beginning.length = beginning ∧ segment ≠ [] ∧ !segment.contains '/' then
    some (String.ofList segment)
  else none

/-- The route of a path, if it has one.  The path of the state may end its line. -/
def route? (path : List Char) : Option Route :=
  if path = healthPath ∨ path = healthPath ++ ['\n'] then some .health
  else
    ((segmentBehind? orderPath path).map .shipmentOfOrder).or
      ((segmentBehind? shipmentPath path).map .shipment)

/-- The path with a slash more at its end, or without the slashes there. -/
def toggleSlash (path : List Char) : List Char :=
  if path.getLast? = some '/' then (path.reverse.dropWhile (· = '/')).reverse
  else path ++ ['/']

/-- Whether a path without a route has one when its last slash is added or taken off. -/
def isMisslashed (path : List Char) : Bool :=
  path ≠ ['/'] && (route? (toggleSlash path)).isSome

end Api
end Fulfilment
