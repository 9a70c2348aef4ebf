import Fleet.Proofs.Text
import Fleet.Surface.Service

/-!
# Who gets to know what the surface answers from

Whether a path belongs to an endpoint is decided without the source. A layer that refuses a request
therefore leaves nothing of the source in the response, and the token layer is around every endpoint
but the health check. This is so for every library that routes requests by what `Routing.Lawful`
says, as routing by tables does.
-/

namespace Fleet.Surface

variable {Source : Type}

/-! ## What routing relies on -/

/-- What is documented of a library that routes requests. -/
structure Routing.Lawful (routing : Routing Source) : Prop where
  /-- Whether a route is for a request is decided without the source. -/
  matched (router : routing.Router) (first second : Source) (request : Request) :
    (routing.answer? router first request).isSome = (routing.answer? router second request).isSome
  /-- A layer runs before every handler of the router that it is applied to. -/
  layered (router : routing.Router) (layer : Layer Source) (source : Source) (request : Request) :
    routing.answer? (routing.routeLayer router layer) source request =
      (routing.answer? router source request).map (layer source request)
  /-- Where a router has no route for a request, the one that was merged into it answers. -/
  merged (router other : routing.Router) {source : Source} {request : Request}
    (nowhere : routing.answer? router source request = none) :
    routing.answer? (routing.merge router other) source request =
      routing.answer? other source request
  /-- A pattern without captures is one of a single path. -/
  literal (text : String) (endpoint : routing.MethodRouter) (source : Source) {request : Request}
    (elsewhere : request.path ≠ "/" ++ text) :
    routing.answer? (routing.route routing.empty [.literal text] endpoint) source request = none

/-! ## Routing by tables -/

/-- Whether a request is for a path of the endpoint. -/
def Endpoint.isFor (endpoint : Endpoint Source) (request : Request) : Bool :=
  (captured? (.literal "" :: endpoint.pattern) request.pieces).isSome

theorem Endpoint.isSome_answer? (endpoint : Endpoint Source) (source : Source) (request : Request) :
    (endpoint.answer? source request).isSome = endpoint.isFor request := by
  simp only [answer?, isFor, Option.isSome_map]

namespace Router

/-- Whether a request is for a path of some endpoint. -/
def knows (router : Router Source) (request : Request) : Bool :=
  router.endpoints.any (·.isFor request)

theorem isSome_answer? (router : Router Source) (source : Source) (request : Request) :
    (router.answer? source request).isSome = router.knows request := by
  simp only [answer?, knows, List.isSome_findSome?, Endpoint.isSome_answer?]

theorem answer?_merge (router other : Router Source) (source : Source) (request : Request) :
    (router.merge other).answer? source request =
      (router.answer? source request).or (other.answer? source request) := by
  simp only [answer?, merge, List.findSome?_append]

/-- The layer of a router is around its answers. -/
theorem answer?_routeLayer (router : Router Source) (layer : Layer Source) (source : Source)
    (request : Request) :
    (router.routeLayer layer).answer? source request =
      (router.answer? source request).map (layer source request) := by
  simp only [answer?, routeLayer, List.findSome?_map, List.map_findSome?]
  congr 1
  funext endpoint
  simp only [Function.comp_apply, Endpoint.answer?, Option.map_map]
  rfl

end Router

/-- A pattern without captures is one of a single path. -/
theorem captured?_literals (texts path : List String) :
    captured? (texts.map .literal) path = if path = texts then some [] else none := by
  induction texts generalizing path with
  | nil => cases path <;> simp [captured?]
  | cons text texts ih =>
    cases path with
    | nil => simp [captured?]
    | cons piece path =>
      simp only [List.map_cons, captured?, ih, List.cons.injEq]
      split <;> simp [*]

theorem path_of_pieces {request : Request} {text : String}
    (pieces : request.pieces = ["", text]) : request.path = "/" ++ text := by
  have texts := congrArg (List.map String.toList) pieces
  simp only [Request.pieces, List.map_map, Function.comp_def, String.toList_ofList,
    List.map_id'] at texts
  have joined := Text.intercalate_splitAt '/' request.path.toList
  rw [texts] at joined
  apply String.toList_inj.mp
  rw [← joined, String.toList_append]
  simp [List.intercalate]

theorem tableRouting_lawful (Source : Type) : (tableRouting Source).Lawful where
  matched router first second request :=
    (Router.isSome_answer? router first request).trans
      (Router.isSome_answer? router second request).symm
  layered router layer source request := Router.answer?_routeLayer router layer source request
  merged router other source request nowhere := by
    have merged := Router.answer?_merge router other source request
    rwa [show router.answer? source request = none from nowhere, Option.none_or] at merged
  literal text handler source request elsewhere := by
    have pattern := captured?_literals ["", text] request.pieces
    have other : request.pieces ≠ ["", text] := fun pieces => elsewhere (path_of_pieces pieces)
    rw [if_neg other] at pattern
    simp only [List.map_cons, List.map_nil] at pattern
    change Router.answer? (Router.route {} [.literal text] handler) source request = none
    simp [Router.answer?, Router.route, Endpoint.answer?, pattern]

/-! ## Requests without the token -/

theorem requireToken_of_not_carries {state : State} {token : String} {request : Request}
    (configured : state.token = some token) (missing : request.carries token = false)
    (next : Response) : requireToken state request next = .plain 401 "Unauthorized" := by
  simp [requireToken, configured, missing]

namespace Routing

variable {routing : Routing State} {state : State} {request : Request} {token : String}

/-- What is not for the health check is for the routes that need the token. -/
theorem answer?_surface (lawful : routing.Lawful) (elsewhere : request.path ≠ "/health") :
    routing.answer? routing.surface state request =
      routing.answer? routing.guarded state request := by
  apply lawful.merged
  exact lawful.literal "health" _ _ elsewhere

/-- Every route that needs the token refuses a request without it. -/
theorem answer?_guarded (lawful : routing.Lawful) (configured : state.token = some token)
    (missing : request.carries token = false) :
    routing.answer? routing.guarded state request =
      (routing.answer? routing.guarded state request).map fun _ => .plain 401 "Unauthorized" := by
  have refused := requireToken_of_not_carries configured missing
  rw [guarded, lawful.layered, Option.map_map]
  congr 1
  funext next
  exact refused next

end Routing

theorem map_const_eq {First Second Value : Type} {first : Option First} {second : Option Second}
    (same : first.isSome = second.isSome) (value : Value) :
    (first.map fun _ => value) = second.map fun _ => value := by
  cases first <;> cases second <;> first | rfl | cases same

/-- Two surfaces with one token have the same response to a request that does not carry it, whatever
else they answer from, and whatever the library is that routes requests. It is that of a refusal, or
that at a path of no route. -/
theorem respond_without_token {routing : Routing State} (lawful : routing.Lawful)
    {first second : State} {token : String} {request : Request}
    (firstToken : first.token = some token) (secondToken : second.token = some token)
    (header : request.header? "x-tarn-token" ≠ some token)
    (parameter : request.parameter? "token" ≠ some token)
    (elsewhere : request.path ≠ "/health") :
    routing.respond routing.surface first request =
        routing.respond routing.surface second request ∧
      (routing.respond routing.surface first request =
          routing.finish request (some (.plain 401 "Unauthorized")) ∨
        routing.respond routing.surface first request = routing.finish request none) := by
  have missing : request.carries token = false := by
    simp [Request.carries, header, parameter]
  have refused := Routing.answer?_guarded lawful firstToken missing
  have refusedToo := Routing.answer?_guarded lawful secondToken missing
  have same := map_const_eq (lawful.matched routing.guarded first second request)
    (Response.plain 401 "Unauthorized")
  simp only [Routing.respond, Routing.answer?_surface lawful elsewhere]
  constructor
  · rw [refused, refusedToo, same]
  · rw [refused]
    cases routing.answer? routing.guarded first request with
    | none => exact .inr rfl
    | some next => exact .inl rfl

/-- A state in which everybody may read the given models. -/
def withModels (models : List String) : State where
  handle := {}
  authorizes _ _ _ := true
  listing := .ok models
  token := some "secret"
  replicaPort := 8000

/-- A guessed token and one that is not the first in the query do not show the models. -/
theorem models_not_guessed :
    let request := Request.ofTarget "GET" "/api/v1/models?token=guess&token=secret"
      [("X-TARN-Token", "Secret")]
    protectedRouter.knows request = true ∧
      router.respond (withModels ["a"]) request = router.respond (withModels []) request ∧
      (router.respond (withModels ["a"]) request =
          Router.finish request (some (.plain 401 "Unauthorized")) ∨
        router.respond (withModels ["a"]) request = Router.finish request none) := by
  intro request
  exact ⟨by decide +kernel, @respond_without_token (tableRouting State) (tableRouting_lawful State)
    (withModels ["a"]) (withModels []) "secret" request rfl rfl (by decide +kernel)
    (by decide +kernel) (by decide +kernel)⟩

/-! ## Refusals by the table -/

theorem router_eq :
    router = (({} : Router State).route [.literal "health"]
      (get fun state _ _ => state.health)).merge protectedRouter := rfl

/-- What a request without the token gets: the same for every path that is known. -/
def refusal (isKnown : Bool) (request : Request) : Response :=
  Router.finish request (if isKnown then some (.plain 401 "Unauthorized") else none)

/-- The response to a request without the token is made from the request alone. -/
theorem respond_of_not_carries {state : State} {token : String} {request : Request}
    (configured : state.token = some token) (missing : request.carries token = false)
    (elsewhere : request.path ≠ "/health") :
    router.respond state request = refusal (protectedRouter.knows request) request := by
  have lawful := tableRouting_lawful State
  have refused : protectedRouter.answer? state request = _ :=
    Routing.answer?_guarded lawful configured missing
  have all : router.answer? state request = protectedRouter.answer? state request :=
    Routing.answer?_surface lawful elsewhere
  rw [Router.respond, all, refused, refusal, ← Router.isSome_answer? _ state]
  change Router.finish request ((protectedRouter.answer? state request).map _) = _
  cases protectedRouter.answer? state request <;> rfl

end Fleet.Surface
