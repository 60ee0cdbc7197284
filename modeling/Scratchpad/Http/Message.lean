import Scratchpad.Text.Utf8

/-!
# HTTP messages

Requests and responses as far as they matter here. A request's target is a whole address where a
client sends it, and a path with a query where a server gets it.

A network takes a request to the server at its address and brings back what can be received of the
response, or says why there is none. The body of a response may break off after its status has come.
-/

namespace Scratchpad.Http

inductive Method
  | get
  | head
  | post
  | options
  | other (name : String)
deriving DecidableEq, Repr

/-- Names of methods are matched exactly. -/
def Method.ofName : String → Method
  | "GET" => .get
  | "HEAD" => .head
  | "POST" => .post
  | "OPTIONS" => .options
  | name => .other name

/-- A header has its name in small letters. -/
abbrev Header := String × String

structure Request where
  method : Method
  target : String
  headers : List Header
  body : Bytes
deriving DecidableEq, Repr

/-- The value of the first header of a name. -/
def Request.header? (r : Request) (name : String) : Option String :=
  r.headers.lookup name

structure Response where
  status : Nat
  headers : List Header
  body : Bytes
deriving DecidableEq, Repr

/-- A status in the two hundreds. -/
def isSuccess (status : Nat) : Bool :=
  200 ≤ status && status < 300

namespace Response

/-- A response without headers or body. -/
def bare (status : Nat) : Response :=
  ⟨status, [], []⟩

/-- A response with a body of some type. -/
def typed (status : Nat) (contentType : String) (body : Bytes) : Response :=
  ⟨status, [("content-type", contentType)], body⟩

def withHeaders (r : Response) (headers : List Header) : Response :=
  { r with headers := headers ++ r.headers }

/-- The response to the same request made by `HEAD`. -/
def withoutBody (r : Response) : Response :=
  { r with body := [] }

end Response

/-! ## Networks -/

/-- What is received of a response. -/
structure Reception where
  status : Nat
  body : Except String Bytes

/-- An error is a request without any response. -/
abbrev Network := Request → Except String Reception

namespace Network

/-- Nobody answers. -/
def unreachable : Network := fun r =>
  .error ("no response from " ++ r.target)

/-- One server answers, for all addresses that begin with its root; every response arrives whole. -/
def hosting (root : String) (serve : Request → Response) : Network := fun r =>
  match root.toList.isPrefixOf? r.target.toList with
  | none => unreachable r
  | some target =>
    let response := serve { r with target := String.ofList target }
    .ok ⟨response.status, .ok response.body⟩

end Network
end Scratchpad.Http
