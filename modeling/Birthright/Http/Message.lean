import Birthright.Json.Value

/-!
# Requests and answers

What is said over HTTP, as far as it matters here: the method of a request, and the status, the
type and the content of an answer.
-/

namespace Birthright.Http

/-- The method of a request; only three of them are told apart. -/
inductive Method where
  | get
  | head
  | post
  | other
  deriving DecidableEq, Repr

/-- The method with a name. Names are case-sensitive. -/
def Method.ofName : String → Method
  | "GET" => .get
  | "HEAD" => .head
  | "POST" => .post
  | _ => .other

/-- The content of an answer. -/
inductive Body where
  | json (v : Json)
  | text (s : String)
  deriving Repr

/-- An answer to a request. -/
structure Response where
  status : Nat
  contentType : Option String
  body : Body
  deriving Repr

namespace Response

/-- An answer that says nothing but its status. -/
def bare (status : Nat) : Response := ⟨status, none, .text ""⟩

/-- An answer with a structured value. -/
def json (status : Nat) (v : Json) : Response := ⟨status, some "application/json", .json v⟩

/-- An answer with a text in a format. -/
def text (status : Nat) (format s : String) : Response := ⟨status, some format, .text s⟩

/-- The answer as it is given to a request for its head alone. -/
def headOnly (r : Response) : Response := { r with body := .text "" }

/-- The path names nothing. -/
def notFound : Response := bare 404

/-- What the path names does not allow the method. -/
def methodNotAllowed : Response := bare 405

end Response

end Birthright.Http
