import RouteHealth.Message
import RouteHealth.Update

/-!
# Batches of UPDATE messages

Routes whose UPDATE body is too long for a message are halved in address order, and each half is
rendered by itself.  A route that does not fit alone fails the whole batch.  The way a set of routes
was taken apart is a tree, `Splitting`: its leaves from left to right are the messages, and its inner
nodes are the splits.
-/

namespace RouteHealth

/-- how a set of routes is taken apart -/
inductive Splitting where
  /-- the routes fit one body -/
  | whole (body : Bytes)
  /-- a route does not fit alone -/
  | stuck (cause : RenderError)
  /-- the lower half failed, and the upper one was left alone -/
  | lowerFailed (split : Event) (lower : Splitting)
  /-- both halves were taken apart -/
  | halves (split : Event) (lower upper : Splitting)
  deriving Inhabited

namespace Splitting

/-- the bodies in address order, or why there are none -/
def bodies : Splitting → Except RenderError (List Bytes)
  | whole body => .ok [body]
  | stuck cause => .error cause
  | lowerFailed _ lower => lower.bodies
  | halves _ lower upper => do
    let front ← lower.bodies
    let back ← upper.bodies
    return front ++ back

/-- the splits, each before those of its halves -/
def events : Splitting → List Event
  | whole _ => []
  | stuck _ => []
  | lowerFailed split lower => split :: lower.events
  | halves split lower upper => split :: lower.events ++ upper.events

/-- the greatest number of splits one inside the other -/
def depth : Splitting → Nat
  | whole _ => 0
  | stuck _ => 0
  | lowerFailed _ lower => lower.depth + 1
  | halves _ lower upper => max lower.depth upper.depth + 1

end Splitting

namespace Policy

/-- the body of some routes, if there is one and it can be sent -/
def fitting? : Except RenderError Bytes → Option Bytes
  | .ok body => if body.length < bodyBound then some body else none
  | .error _ => none

def splitEvent (routes : Nat) : Except RenderError Bytes → Event
  | .ok body => .longBodySplit body.length routes
  | .error cause => .failureSplit routes cause

/-- why a route does not fit alone -/
def misfit (route : Address) : Except RenderError Bytes → RenderError
  | .ok body => .unsplittableRoute route body.length
  | .error cause => cause

/-- takes routes apart in halves until each part fits; the case without routes is not reached, since their
body of four octets fits -/
def splitting (p : Policy) (routes : RouteSet) : Splitting :=
  let rendered := p.render routes
  match fitting? rendered with
  | some body => .whole body
  | none =>
    if _h : 1 < routes.size then
      let lower := p.splitting routes.lower
      match lower.bodies with
      | .error _ => .lowerFailed (splitEvent routes.size rendered) lower
      | .ok _ => .halves (splitEvent routes.size rendered) lower (p.splitting routes.upper)
    else
      match routes.entries with
      | [] => .whole []
      | (route, _) :: _ => .stuck (misfit route rendered)
  termination_by routes.size
  decreasing_by
    · rw [RouteSet.size_lower]; omega
    · rw [RouteSet.size_upper]; omega

/-- the UPDATE messages of a set of routes, or why there are none -/
def renderBatch (p : Policy) (routes : RouteSet) : Except RenderError (List Message) :=
  if routes.size = 0 then .ok []
  else (p.splitting routes).bodies.map (·.map .update)

def batchEvents (p : Policy) (routes : RouteSet) : List Event :=
  if routes.size = 0 then []
  else
    let splitting := p.splitting routes
    splitting.events ++
      match splitting.bodies with
      | .ok _ => []
      | .error e => [.batchFailed routes.size e]

end Policy

end RouteHealth
