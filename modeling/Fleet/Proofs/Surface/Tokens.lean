import Fleet.Proofs.Percent
import Fleet.Proofs.Surface.Admission

/-!
# Which requests carry the token

The token is compared with what the request has in it: with a header value that can be read, and
with a parameter of the query as it is written there. The escapes of a query are not resolved, so
that a token works in the query exactly if writing it takes no escapes.
-/

namespace Fleet.Surface

open Text

/-! ## Parameters -/

/-- In a query the first parameter of a name has a value. -/
inductive Offers (name value : List Char) : (query : List Char) → Prop where
  | alone : Offers name value (name ++ '=' :: value)
  | first (others : List Char) : Offers name value (name ++ '=' :: value ++ '&' :: others)
  | later {other query : List Char} (whole : '&' ∉ other) (differs : ¬name ++ ['='] <+: other)
      (rest : Offers name value query) : Offers name value (other ++ '&' :: query)

theorem lookup_filterMap_of_offers {name value query : List Char}
    (offers : Offers name value query) (nameFree : '=' ∉ name) (nameWhole : '&' ∉ name)
    (valueWhole : '&' ∉ value) :
    ((splitAt '&' query).filterMap (cutAt? ['='])).lookup name = some value := by
  have whole : '&' ∉ name ++ '=' :: value := by
    simp only [List.mem_append, List.mem_cons, nameWhole, valueWhole, or_false, false_or]
    decide
  have cut : cutAt? ['='] (name ++ '=' :: value) = some (name, value) :=
    cutAt?_append nameFree [] value
  induction offers with
  | alone =>
      rw [splitAt_of_not_mem whole, List.filterMap_cons_some cut, List.lookup_cons_self]
  | first others =>
      rw [splitAt_append_cons whole, List.filterMap_cons_some cut, List.lookup_cons_self]
  | @later other query whole differs rest ih =>
      rw [splitAt_append_cons whole]
      cases parts : cutAt? ['='] other with
      | none => rw [List.filterMap_cons_none parts, ih]
      | some parameter =>
          rcases parameter with ⟨key, content⟩
          have different : (name == key) = false := by
            rw [beq_eq_false_iff_ne]
            rintro rfl
            apply differs
            rw [eq_of_cutAt? parts, ← List.append_assoc]
            exact List.prefix_append _ _
          rw [List.filterMap_cons_some parts, List.lookup_cons, different, ih]

theorem Request.parameter?_of_offers {request : Request} {name value query : List Char}
    (asked : request.query = some (String.ofList query)) (offers : Offers name value query)
    (nameFree : '=' ∉ name) (nameWhole : '&' ∉ name) (valueWhole : '&' ∉ value) :
    request.parameter? (String.ofList name) = some (String.ofList value) := by
  simp only [parameter?, asked, String.toList_ofList, Option.bind_eq_bind, Option.bind_some,
    lookup_filterMap_of_offers offers nameFree nameWhole valueWhole, Option.pure_def]

/-! ## Headers -/

/-- Whether the header is one of the name, given in lower case. -/
def IsNamed (name : String) (header : String × String) : Prop :=
  header.1.toList.map toLower = name.toList

/-- The first header of a name has a value. -/
def Request.Sends (request : Request) (name value : String) : Prop :=
  ∃ before header after, request.headers = before ++ header :: after ∧ header.2 = value ∧
    IsNamed name header ∧ ∀ other ∈ before, ¬IsNamed name other

/-- A header value has no control character but the tab. -/
def IsFieldValue (value : String) : Prop :=
  ∀ character ∈ value.toList, character = '\t' ∨ 32 ≤ character.toNat ∧ character.toNat ≠ 127

/-- Of the header values, those can be read that hold ASCII characters only. -/
theorem isReadable_iff {value : String} (legal : IsFieldValue value) :
    Request.isReadable value = true ↔ ∀ character ∈ value.toList, character.toNat < 128 := by
  rw [Request.isReadable, List.all_eq_true]
  apply forall₂_congr
  intro character among
  simp only [Bool.or_eq_true, Bool.and_eq_true, decide_eq_true_eq]
  rcases legal character among with rfl | ⟨printable, kept⟩
  · decide
  · constructor
    · rintro (rfl | ⟨-, below⟩)
      · decide
      · omega
    · intro ascii
      exact Or.inr ⟨printable, by omega⟩

theorem Request.Sends.header?_eq {request : Request} {name value : String}
    (sends : request.Sends name value) :
    request.header? name = (some value).filter isReadable := by
  rcases sends with ⟨before, header, after, headers, rfl, named, others⟩
  have passed : before.find? (fun other => other.1.toList.map toLower = name.toList) = none :=
    List.find?_eq_none.mpr fun other among => by
      simpa only [decide_eq_true_eq, IsNamed] using others other among
  have found : request.headers.find? (fun other => other.1.toList.map toLower = name.toList) =
      some header := by
    rw [headers, List.find?_append, passed, Option.none_or]
    exact List.find?_cons_of_pos (decide_eq_true named)
  simp only [header?, found, Option.map_some]

/-! ## The token layer -/

/-- The surface without its token. -/
def State.opened (state : State) : State := { state with token := none }

/-- The request passes the token layer, and is answered as if there were no token. -/
structure State.Admits (state : State) (request : Request) : Prop where
  passes : ∀ next, requireToken state request next = next
  answered : router.respond state request = router.respond state.opened request

/-- The request is stopped by the token layer, and gets nothing else. -/
structure State.Refuses (state : State) (request : Request) : Prop where
  stopped : ∀ next, requireToken state request next = .plain 401 "Unauthorized"
  answered : router.respond state request = .plain 401 "Unauthorized"

variable {state : State} {token : String} {request : Request}

theorem requireToken_of_carries (configured : state.token = some token)
    (carried : request.carries token = true) (next : Response) :
    requireToken state request next = next := by
  simp only [requireToken, configured, carried, if_true]

/-- Below the token layer nothing depends on the token. -/
theorem exists_protectedRouter_eq :
    ∃ inner : Router State, protectedRouter = inner.routeLayer requireToken ∧
      ∀ (state : State) (request : Request),
        inner.answer? state.opened request = inner.answer? state request :=
  ⟨_, rfl, fun _ _ => rfl⟩

/-- What passes the layer is answered as if there were no token. -/
theorem respond_of_passes (passes : ∀ next, requireToken state request next = next) :
    router.respond state request = router.respond state.opened request := by
  rcases exists_protectedRouter_eq with ⟨inner, same, unaware⟩
  have answers : protectedRouter.answer? state request =
      protectedRouter.answer? state.opened request := by
    rw [same, Router.answer?_routeLayer, Router.answer?_routeLayer, unaware]
    exact congrArg (Option.map · _) (funext passes)
  have all : router.answer? state request = router.answer? state.opened request := by
    rw [router_eq, Router.answer?_merge, Router.answer?_merge, answers]
    rfl
  rw [Router.respond, all, Router.respond]

theorem State.admits_iff (configured : state.token = some token) :
    state.Admits request ↔ request.carries token = true := by
  constructor
  · rintro ⟨passes, -⟩
    by_contra missing
    rw [Bool.not_eq_true] at missing
    have stopped := requireToken_of_not_carries configured missing (.empty 204)
    rw [passes] at stopped
    cases stopped
  · intro carried
    have passes := requireToken_of_carries configured carried
    exact ⟨passes, respond_of_passes passes⟩

/-- The path of the health check is not behind the layer. -/
theorem path_ne_of_knows (known : protectedRouter.knows request = true) :
    request.path ≠ "/health" := by
  intro path
  have pieces : request.pieces = ["", "health"] := by
    rw [Request.pieces, path]
    decide
  have unknown : protectedRouter.knows request = false := by
    simp only [Router.knows, Endpoint.isFor, pieces]
    rfl
  rw [unknown] at known
  cases known

theorem State.refuses_iff (configured : state.token = some token) (reads : request.method = "GET")
    (known : protectedRouter.knows request = true) :
    state.Refuses request ↔ request.carries token = false := by
  constructor
  · rintro ⟨stopped, -⟩
    by_contra carried
    rw [Bool.not_eq_false] at carried
    have passed := requireToken_of_carries configured carried (.empty 204)
    rw [stopped] at passed
    cases passed
  · intro missing
    refine ⟨requireToken_of_not_carries configured missing, ?_⟩
    rw [respond_of_not_carries configured missing (path_ne_of_knows known), known, refusal,
      Router.finish, reads]
    rfl

/-! ## Tokens in the query and in the header -/

/-- A token that the query holds with escapes is taken as it is written. -/
theorem carries_of_offers (escaping : Escaping) (whole : escaping.keeps '&' = false)
    {query : List Char} (asked : request.query = some (String.ofList query))
    (offers : Offers "token".toList (escaping.write token.toList) query) :
    request.carries token = true ↔
      request.header? "x-tarn-token" = some token ∨
        ∀ character ∈ token.toList, escaping.keeps character = true := by
  have separate : '&' ∉ escaping.write token.toList :=
    Escaping.not_mem_write whole (by decide) (by decide) _
  have parameter : request.parameter? "token" =
      some (String.ofList (escaping.write token.toList)) :=
    Request.parameter?_of_offers asked offers (by decide) (by decide) separate
  rw [Request.carries, Bool.or_eq_true, decide_eq_true_eq, decide_eq_true_eq, parameter,
    Option.some.injEq, ← Escaping.write_eq_self_iff, ← String.toList_inj, String.toList_ofList]

theorem carries_of_sends (sends : request.Sends "x-tarn-token" token)
    (legal : IsFieldValue token) :
    request.carries token = true ↔
      (∀ character ∈ token.toList, character.toNat < 128) ∨
        request.parameter? "token" = some token := by
  rw [Request.carries, Bool.or_eq_true, decide_eq_true_eq, decide_eq_true_eq, sends.header?_eq,
    ← isReadable_iff legal]
  simp [Option.filter]

/-- The request passes the layer under the condition, and is stopped otherwise. -/
structure State.AdmitsIf (state : State) (request : Request) (condition : Prop) : Prop where
  admits : state.Admits request ↔ condition
  refuses : state.Refuses request ↔ ¬condition

theorem State.admitsIf_of_carries {condition : Prop} (configured : state.token = some token)
    (reads : request.method = "GET") (known : protectedRouter.knows request = true)
    (carried : request.carries token = true ↔ condition) : state.AdmitsIf request condition := by
  refine ⟨(admits_iff configured).trans carried, (refuses_iff configured reads known).trans ?_⟩
  rw [← carried, Bool.not_eq_true]

/-- A request to read a protected path, in whose query the first parameter of the name holds the
token with escapes, passes exactly if there is nothing to escape in the token, unless it has the
token in its header, too. What the query holds stands for the token in either case. A request that
has the token in its header passes exactly if the token is an ASCII text, unless the token is in its
query, too. -/
theorem token_admitted_iff (configured : state.token = some token)
    (reads : request.method = "GET") (known : protectedRouter.knows request = true) :
    (∀ (escaping : Escaping) (query : List Char), escaping.keeps '&' = false →
      request.query = some (String.ofList query) →
      Offers "token".toList (escaping.write token.toList) query →
      unescape? (String.ofList (escaping.write token.toList)) = some token ∧
        state.AdmitsIf request (request.header? "x-tarn-token" = some token ∨
          ∀ character ∈ token.toList, escaping.keeps character = true)) ∧
    (request.Sends "x-tarn-token" token → IsFieldValue token →
      state.AdmitsIf request ((∀ character ∈ token.toList, character.toNat < 128) ∨
        request.parameter? "token" = some token)) := by
  constructor
  · intro escaping query whole asked offers
    have standsFor := @Escaping.unescape?_write escaping token.toList
    rw [String.ofList_toList] at standsFor
    refine ⟨standsFor, ?_⟩
    exact State.admitsIf_of_carries configured reads known
      (carries_of_offers escaping whole asked offers)
  · intro sends legal
    exact State.admitsIf_of_carries configured reads known (carries_of_sends sends legal)

/-- A surface with a token and nothing to tell. -/
def guardedBy (token : String) : State := { withModels [] with token := some token }

/-- A query among whose parameters is a token that takes no escapes. -/
def markedQuery : List Char :=
  "lang=en".toList ++ '&' :: ("token".toList ++ '&' ::
    ("token".toList ++ '=' :: Escaping.standard.write "v1.2~s3cret".toList ++
      '&' :: "token=other".toList))

theorem markedQuery_admitted :
    let request := Request.ofTarget "GET"
      "/api/v1/status?lang=en&token&token=v1.2~s3cret&token=other" [("Accept", "*/*")]
    request.query = some (String.ofList markedQuery) ∧
      (guardedBy "v1.2~s3cret").Admits request := by
  intro request
  have asked : request.query = some (String.ofList markedQuery) := by decide +kernel
  have offers : Offers "token".toList (Escaping.standard.write "v1.2~s3cret".toList) markedQuery :=
    .later (by decide) (by decide) (.later (by decide) (by decide) (.first _))
  have known : protectedRouter.knows request = true := by decide +kernel
  have gate := @token_admitted_iff (guardedBy "v1.2~s3cret") _ request rfl rfl known
  have kept : "v1.2~s3cret".toList.all Escaping.standard.keeps = true := by decide
  have admitted := gate.1 .standard markedQuery (by decide) asked offers
  exact ⟨asked, admitted.2.admits.mpr (.inr (List.all_eq_true.mp kept))⟩

/-- A token with a blank is refused in the query, where the blank has to be escaped. -/
theorem escaped_token_refused :
    let request := Request.ofTarget "GET" "/instances?token=open%20sesame" []
    request.query = some (String.ofList
      ("token".toList ++ '=' :: Escaping.standard.write "open sesame".toList)) ∧
    (guardedBy "open sesame").Refuses request := by
  intro request
  have missing : request.carries "open sesame" = false := by decide +kernel
  refine ⟨by decide +kernel, ?_⟩
  exact (State.refuses_iff rfl rfl (by decide +kernel)).mpr missing

end Fleet.Surface
