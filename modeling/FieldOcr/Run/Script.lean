import FieldOcr.Run.Journal

/-!
# Scripted transports

A *script* lists replies for each route, which is a method and an address
without its query.  The requests on a route get its replies in order, and the
last reply over and over again.
-/

namespace FieldOcr
namespace Run

/-- The route of a request. -/
def route (request : Http.Request) : String :=
  request.method.name ++ " " ++ request.url.withoutQuery.render

/-- Replies by their route. -/
abbrev Script := List (String × List Reply)

namespace Script

/-- The replies of a route. -/
def replies (script : Script) (route : String) : List Reply :=
  ((script.find? (·.1 = route)).map (·.2)).getD []

/-- The reply to a request on a route without replies. -/
def missingReply : Reply where
  delay := 0
  outcome := .failed "no route"

/-- The reply at a position, or the last one behind the end. -/
def replyAt (replies : List Reply) (position : Nat) : Reply :=
  ((replies[position]?).or replies.getLast?).getD missingReply

/-- The transport that follows a script. -/
def transport (script : Script) : Transport := fun earlier request =>
  let position := earlier.countP (route ·.request = route request)
  replyAt (script.replies (route request)) position

end Script
end Run
end FieldOcr
