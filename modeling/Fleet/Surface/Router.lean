import Fleet.Surface.Request
import Fleet.Text.Cut

/-!
# Routers

The endpoints of a surface are put together by a library. A `Routing` is what is used of such a
library: how routers are built, and how they answer. A layer goes around the endpoints that a router
has: it is given a request before them, and what they would answer. A request for a path of no
endpoint passes no layer either.

The routers of `tableRouting` are lists of endpoints, each with a pattern of the paths it is for.
-/

namespace Fleet.Surface

/-- A piece of a pattern. -/
inductive Segment where
  | literal (text : String)
  /-- Any piece of a path, which the endpoint gets to know. The last one is not empty. One between
  two slashes may be: `/models//metrics` is a path of the endpoint for the metrics of a model. -/
  | capture
  deriving DecidableEq, Repr

/-- How requests are answered from a source, given what was captured of their paths. -/
abbrev Handler (Source : Type) := Source → Request → (captures : List String) → Response

/-- What goes around a handler: the response to a request, given what the handler would answer. -/
abbrev Layer (Source : Type) := Source → Request → (next : Response) → Response

/-- What a surface uses of a library that routes requests. -/
structure Routing (Source : Type) where
  Router : Type
  /-- What stands at the paths of a pattern. -/
  MethodRouter : Type
  /-- A router without routes. -/
  empty : Router
  /-- A handler for requests that read. -/
  get : Handler Source → MethodRouter
  /-- The router with one more route. -/
  route : Router → (pattern : List Segment) → MethodRouter → Router
  /-- The router with the routes of another one below a path. -/
  nest : Router → (front : List Segment) → (inner : Router) → Router
  /-- The router with the routes of another one. -/
  merge : Router → (other : Router) → Router
  /-- The router with a layer around each of its routes. -/
  routeLayer : Router → Layer Source → Router
  /-- The answer of the route that a request is for, if there is one. -/
  answer? : Router → Source → Request → Option Response
  /-- The response to a request, given that answer. -/
  finish : Request → (answer : Option Response) → Response

/-- The response to a request. -/
def Routing.respond {Source : Type} (routing : Routing Source) (router : routing.Router)
    (source : Source) (request : Request) : Response :=
  routing.finish request (routing.answer? router source request)

/-! ## Routing by a table -/

/-- The pieces that the captures of a pattern stand for, if the pattern is one of the path. -/
def captured? : (pattern : List Segment) → (path : List String) → Option (List String)
  | [], [] => some []
  | .literal text :: pattern, piece :: path =>
      if piece = text then captured? pattern path else none
  | .capture :: pattern, piece :: path =>
      if piece = "" && path.isEmpty then none else (captured? pattern path).map (piece :: ·)
  | _, _ => none

/-- The pieces of the path of a request. The first one is empty, as a path starts with a slash. -/
def Request.pieces (request : Request) : List String :=
  (Text.splitAt '/' request.path.toList).map String.ofList

variable {Source : Type}

/-- A handler for requests that read. Other methods are not allowed. -/
def get (handler : Handler Source) : Handler Source := fun source request captures =>
  if request.method = "GET" || request.method = "HEAD" then handler source request captures
  else .empty 405

/-- The requests that a handler is for, and the handler. -/
structure Endpoint (Source : Type) where
  pattern : List Segment
  handler : Handler Source

/-- The answer of an endpoint to a request for one of its paths. -/
def Endpoint.answer? (endpoint : Endpoint Source) (source : Source) (request : Request) :
    Option Response :=
  (captured? (.literal "" :: endpoint.pattern) request.pieces).map
    (endpoint.handler source request)

/-- Endpoints, the ones that come first tried first. -/
structure Router (Source : Type) where
  endpoints : List (Endpoint Source) := []

namespace Router

/-- The router with one more endpoint. -/
def route (router : Router Source) (pattern : List Segment) (handler : Handler Source) :
    Router Source :=
  ⟨router.endpoints ++ [⟨pattern, handler⟩]⟩

/-- The router with the endpoints of another one below a path. -/
def nest (router : Router Source) (front : List Segment) (inner : Router Source) : Router Source :=
  ⟨router.endpoints ++ inner.endpoints.map fun endpoint =>
    { endpoint with pattern := front ++ endpoint.pattern }⟩

/-- The router with the endpoints of another one. -/
def merge (router other : Router Source) : Router Source :=
  ⟨router.endpoints ++ other.endpoints⟩

/-- The router with a layer around each of its endpoints. -/
def routeLayer (router : Router Source) (layer : Layer Source) : Router Source :=
  ⟨router.endpoints.map fun endpoint =>
    { endpoint with
      handler := fun source request captures =>
        layer source request (endpoint.handler source request captures) }⟩

/-- The answer to a request for a path of some endpoint. -/
def answer? (router : Router Source) (source : Source) (request : Request) : Option Response :=
  router.endpoints.findSome? (·.answer? source request)

/-- The response to a request, given the answer of an endpoint. There is nothing at other paths, and
a request that only asks for the head gets no body. -/
def finish (request : Request) (answer : Option Response) : Response :=
  let response := answer.getD (.empty 404)
  if request.method = "HEAD" then { response with body := "" } else response

/-- The response to a request. -/
def respond (router : Router Source) (source : Source) (request : Request) : Response :=
  finish request (router.answer? source request)

end Router

/-- Routing by tables of endpoints. -/
def tableRouting (Source : Type) : Routing Source where
  Router := Router Source
  MethodRouter := Handler Source
  empty := {}
  get := get
  route := Router.route
  nest := Router.nest
  merge := Router.merge
  routeLayer := Router.routeLayer
  answer? := Router.answer?
  finish := Router.finish

end Fleet.Surface
