import Workflow.Error.Basic

/-!
# Exchanges with a server

A request to a server, its response, and what may go wrong on the way.
-/

namespace Workflow.Http

/-- A request to a server. -/
structure Request where
  method : String
  /-- The address without its query. -/
  url : String
  /-- The pairs of names and values that the query holds. -/
  parameters : List (String × String)
  headers : List (String × String)
  body : Option Value
  deriving DecidableEq

/-- Headers by their names in lower case, with the values of one name joined. -/
def joinedHeaders (headers : List (String × String)) : List (String × String) :=
  headers.foldl
    (fun joined (name, value) => add joined (Text.lower name) value)
    []
where
  /-- Puts a value behind the one that a name has. -/
  add : List (String × String) → String → String → List (String × String)
    | [], name, value => [(name, value)]
    | (other, earlier) :: rest, name, value =>
      if other = name then (other, earlier ++ ", " ++ value) :: rest
      else (other, earlier) :: add rest name value

/-- The answer of a server. -/
structure Response where
  status : Int
  headers : List (String × String)
  body : String
  deriving DecidableEq

/-- Whether a response tells of success. -/
def Response.isSuccess (response : Response) : Bool :=
  200 ≤ response.status && response.status ≤ 299

/-- What a server answers, or how it could not be reached. -/
inductive Outcome where
  | response (response : Response)
  /-- The exchange failed on the way. -/
  | unreached (message : String)
  /-- Something else failed. -/
  | failure (failure : Failure)

end Workflow.Http
