import Fleet.Catalog
import Fleet.Surface.Documents
import Fleet.Surface.Router
import Fleet.Telemetry.Rendering
import Fleet.Text.Percent

/-!
# The status surface

The surface answers requests from what the controller published and from the telemetry. Where a
token is configured, every known path but the health check refuses requests that do not carry it.
-/

namespace Fleet.Surface

open Telemetry

/-- Why the models are not listed. -/
inductive ListingError where
  | catalog (error : CatalogError)
  /-- The listing broke off, with a report. -/
  | interrupted (report : String)
  deriving DecidableEq, Repr

/-- The text of the error. -/
def ListingError.message : ListingError → String
  | catalog error => error.message
  | interrupted report => report

/-- What the surface answers from. -/
structure State where
  handle : Handle
  /-- Whether a caller may take an action on a resource. -/
  authorizes : Identity → (action resource : String) → Bool
  /-- What listing the models comes to. -/
  listing : Except ListingError (List String)
  /-- The secret that requests must carry, if there is one. -/
  token : Option String
  /-- The port at which replicas serve requests. -/
  replicaPort : Nat

namespace State

/-- A response that holds a document. -/
def documentResponse (status : Nat) (document : Json.Value) : Response :=
  ⟨status, some "application/json", document.write⟩

/-- The answer of the health check: whether any replica is ready. -/
def health (state : State) : Response :=
  if state.handle.status.readyCount = 0 then .plain 503 "NO_INSTANCES_READY"
  else .plain 200 "OK"

/-- One line for each replica that is not being stopped. -/
def instances (state : State) : Response :=
  let serving := state.handle.status.running.filter Replica.isActive
  .plain 200 <| String.join <| serving.map fun replica =>
    replica.host ++ ":" ++ Nat.repr state.replicaPort ++ "\n"

/-- The metrics of the fleet. -/
def metrics (state : State) : Response :=
  let status := state.handle.status
  let gauges : FleetGauges :=
    { target := status.target, running := status.running.length, pending := status.pending
      load := status.load }
  ⟨200, some "text/plain; version=0.0.4; charset=utf-8",
    renderExposition gauges state.handle.aggregator.replicaLoads
      state.handle.aggregator.modelReports⟩

/-- What the controller published. -/
def status (state : State) : Response :=
  documentResponse 200 (success (statusDocument state.handle))

/-- The replicas with what was last observed of them. -/
def replicas (state : State) : Response :=
  documentResponse 200 <| success <| .list <|
    state.handle.status.running.map (replicaDocument state.handle.aggregator)

/-- The recent alerts, the oldest one first. -/
def alerts (state : State) : Response :=
  documentResponse 200 <| success <| .list <|
    state.handle.aggregator.alerts.items.map alertDocument

/-- The models that a caller may read. A repository that cannot be listed from here has none. -/
def visibleModels (state : State) (identity : Identity) : Response :=
  let listed (models : List String) : Response :=
    documentResponse 200 <| success <| .list <|
      (models.filter (state.authorizes identity "read")).map .text
  match state.listing with
  | .ok models => listed models
  | .error (.catalog (.unsupported _)) => listed []
  | .error error => documentResponse 500 (failure error.message)

/-- The metrics of one model, for a caller that may read it. The name is still escaped. -/
def modelMetrics (state : State) (identity : Identity) (segment : String) : Response :=
  match Text.unescape? segment with
  | none => .plain 400 "Invalid URL: Invalid UTF-8 in \x60model\x60"
  | some model =>
      if state.authorizes identity "read" model then
        match state.handle.aggregator.modelReport? model with
        | some report => documentResponse 200 (success (modelDocument report))
        | none => documentResponse 404 (failure "model not tracked")
      else documentResponse 403 (failure "forbidden")

end State

/-- The layer that lets only requests with the configured token pass. -/
def requireToken : Layer State := fun state request next =>
  match state.token with
  | none => next
  | some token => if request.carries token then next else .plain 401 "Unauthorized"

namespace Routing

variable (routing : Routing State)

/-- The routes below the path of the interface. -/
def interface : routing.Router :=
  let routes := routing.empty
  let routes := routing.route routes [.literal "status"]
    (routing.get fun state _ _ => state.status)
  let routes := routing.route routes [.literal "replicas"]
    (routing.get fun state _ _ => state.replicas)
  let routes := routing.route routes [.literal "alerts"]
    (routing.get fun state _ _ => state.alerts)
  let routes := routing.route routes [.literal "models"]
    (routing.get fun state request _ => state.visibleModels request.identity)
  routing.route routes [.literal "models", .capture, .literal "metrics"]
    (routing.get fun state request captures =>
      state.modelMetrics request.identity (captures.headD ""))

/-- The routes that need the token. -/
def guarded : routing.Router :=
  let routes := routing.nest routing.empty [.literal "api", .literal "v1"] routing.interface
  let routes := routing.route routes [.literal "instances"]
    (routing.get fun state _ _ => state.instances)
  let routes := routing.route routes [.literal "metrics"]
    (routing.get fun state _ _ => state.metrics)
  routing.routeLayer routes requireToken

/-- All routes. -/
def surface : routing.Router :=
  let routes := routing.route routing.empty [.literal "health"]
    (routing.get fun state _ _ => state.health)
  routing.merge routes routing.guarded

end Routing

/-- The endpoints that need the token. -/
def protectedRouter : Router State := (tableRouting State).guarded

/-- All endpoints. -/
def router : Router State := (tableRouting State).surface

/-- A surface whose access rules are configured. -/
structure Service where
  handle : Handle
  rules : List AccessRule := []
  token : Option String := none
  /-- The models of the repository, or why they cannot be listed. -/
  models : Except CatalogError (List String)
  /-- The port at which replicas serve requests. -/
  replicaPort : Nat

namespace Service

/-- What the surface answers from. -/
def state (service : Service) : State where
  handle := service.handle
  authorizes := isAllowed service.rules
  listing := service.models.mapError .catalog
  token := service.token
  replicaPort := service.replicaPort

/-- The response to a request. -/
def respond (service : Service) (request : Request) : Response :=
  router.respond service.state request

end Service

end Fleet.Surface
