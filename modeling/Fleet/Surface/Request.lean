import Fleet.Access
import Fleet.Text.Blank
import Fleet.Text.Digits

/-!
# Requests and responses

A request names a method and a target, which is a path and perhaps a query, and carries headers.
Header names do not distinguish upper case from lower case, and of several headers of one name the
first counts.
-/

namespace Fleet.Surface

/-- A request. -/
structure Request where
  method : String
  path : String
  query : Option String
  headers : List (String × String)
  deriving DecidableEq, Repr

/-- A response; without a content type it has no body. -/
structure Response where
  status : Nat
  contentType : Option String
  body : String
  deriving DecidableEq, Repr

namespace Response

/-- A response without a body. -/
def empty (status : Nat) : Response := ⟨status, none, ""⟩

/-- A response of plain text. -/
def plain (status : Nat) (body : String) : Response :=
  ⟨status, some "text/plain; charset=utf-8", body⟩

end Response

namespace Request

/-- The request for a target. A fragment is not part of it. -/
def ofTarget (method target : String) (headers : List (String × String)) : Request :=
  let target := target.toList.takeWhile (· ≠ '#')
  { method := method
    path := String.ofList (target.takeWhile (· ≠ '?'))
    query :=
      match target.dropWhile (· ≠ '?') with
      | [] => none
      | _ :: query => some (String.ofList query)
    headers := headers }

/-- Whether a header value can be read: it holds visible characters, spaces and tabs. -/
def isReadable (value : String) : Bool :=
  value.toList.all fun character =>
    character = '\t' || (32 ≤ character.toNat && character.toNat < 127)

/-- The value of the first header of a name, given in lower case, if it can be read. -/
def header? (request : Request) (name : String) : Option String :=
  let named := request.headers.find? fun header => header.1.toList.map Text.toLower = name.toList
  (named.map Prod.snd).filter isReadable

/-- The value of the first parameter of a name in the query, as it is written there. -/
def parameter? (request : Request) (name : String) : Option String := do
  let query ← request.query
  let parameters := (Text.splitAt '&' query.toList).filterMap (Text.cutAt? ['='])
  return String.ofList (← parameters.lookup name.toList)

/-- A header value without blanks around it, unless nothing is left. -/
def trimmedHeader? (request : Request) (name : String) : Option String :=
  ((request.header? name).map fun value => String.ofList (Text.trim value.toList)).filter
    fun value => !value.isEmpty

/-- Who makes the request, by its headers. -/
def identity (request : Request) : Identity where
  user := (request.trimmedHeader? "x-tarn-user").getD "anonymous"
  groups :=
    match request.trimmedHeader? "x-tarn-groups" with
    | none => []
    | some names =>
        ((Text.splitAt ',' names.toList).map fun name => String.ofList (Text.trim name)).filter
          fun name => !name.isEmpty

/-- Whether the request carries a token, in its header or in its query. -/
def carries (request : Request) (token : String) : Bool :=
  request.header? "x-tarn-token" = some token || request.parameter? "token" = some token

end Request

end Fleet.Surface
