import TestScribe.Service.Exchange

/-!
# Routes

A service is a list of routes. A request goes to the route with its path and its method. A path that
differs from that of a route only in slashes at its end is answered with the advice to ask there.
-/

namespace TestScribe.Service

/-- What answers the requests with a method and a path. -/
structure Route (σ : Type) where
  method : String
  path : String
  handle : Request → (id : String) → Flow σ (Outcome σ)

/-- The failure of a request to a path that no route has. -/
def notFound : Failure := .plain (.noRoute 404) "Not Found"

/-- The failure of a request with a method that no route with its path has. -/
def wrongMethod : Failure := .plain (.noRoute 405) "Method Not Allowed"

/-- The path without slashes at its end, or with one if there are none; the shortest path has no
such twin. -/
def twin? (path : String) : Option String :=
  if path == "/" then none
  else
    let s := path.toList.reverse
    match s with
    | '/' :: _ => some (String.ofList (s.dropWhile (· == '/')).reverse)
    | _ => some (path ++ "/")

variable {σ : Type}

/-- Whether there is a route with a path. -/
def hasPath (routes : List (Route σ)) (path : String) : Bool :=
  routes.any fun t => t.path == path

/-- What becomes of a request. -/
def dispatch (routes : List (Route σ)) (r : Request) (id : String) : Flow σ (Outcome σ) :=
  match routes.find? fun t => t.path == r.path && t.method == r.method with
  | some t => t.handle r id
  | none =>
    if hasPath routes r.path then pure (.rejection wrongMethod)
    else if (twin? r.path).any (hasPath routes) then pure .elsewhere
    else pure (.rejection notFound)

/-- Answer a request. -/
def serve [Journaling σ] (s : Surroundings) (routes : List (Route σ)) (r : Request) :
    Flow σ Response := do
  let id := s.idOr r.correlation
  conclude s r id (← Flow.outcome (dispatch routes r id))

end TestScribe.Service
