import Attribution.Admin.RequestTarget

/-!
# Administration over HTTP

Three resources can be read: the metrics, whether the process lives, and whether it is ready.
Anything but reading is refused before the path is looked at; a path that is none of the three
is not found.
-/

namespace Attribution.Admin

/-- A request, as far as it matters: its method and the path of its target. -/
structure Request where
  method : String
  path : String
  deriving DecidableEq

/-- Why a request cannot be read. -/
inductive RequestError where
  /-- The method is none. -/
  | method
  /-- The target is malformed. -/
  | target
  deriving DecidableEq

/-- What a method may hold. Five of the signs of a token, from the number sign to the apostrophe,
are not among them. -/
def isMethodChar (c : Char) : Bool :=
  RequestTarget.isAlphanumeric c || "!*+-.^_\x60|~".toList.contains c

/-- Whether a text is a method: there is something to it, and all of it is admitted. -/
def isMethod (text : String) : Bool :=
  !text.toList.isEmpty && text.toList.all isMethodChar

/-- Reads a request. The method is looked at first. -/
def Request.parse (method target : String) : Except RequestError Request :=
  if isMethod method then
    match RequestTarget.path? target.toList with
    | some path => .ok ⟨method, String.ofList path⟩
    | none => .error .target
  else .error .method

/-- An answer to a request. -/
structure Response where
  status : Nat
  headers : List (String × String)
  body : String
  deriving DecidableEq

namespace Response

/-- An answer that is nothing but its status. -/
def bare (status : Nat) : Response := ⟨status, [], ""⟩

/-- An answer with a text of the given type. -/
def withBody (status : Nat) (contentType body : String) : Response :=
  ⟨status, [("content-type", contentType)], body⟩

/-- A short plain text. -/
def plain (status : Nat) (body : String) : Response :=
  withBody status "text/plain" body

/-- The answer as text: the status, the headers, a blank line, and the body. -/
def text (response : Response) : String :=
  toString response.status ++ "\n" ++
    String.join (response.headers.map fun (name, value) => name ++ ": " ++ value ++ "\n") ++
    "\n" ++ response.body

end Response

/-- The content type of the metrics. -/
def metricsType : String := "application/openmetrics-text; version=1.0.0; charset=utf-8"

/-- Whether the request only reads. -/
def Request.isRead (request : Request) : Bool :=
  request.method = "GET" || request.method = "HEAD"

/-- Answers a request, given the text of the metrics and whether the process is ready. -/
def handle (metrics : String) (ready : Bool) (request : Request) : Response :=
  if !request.isRead then .bare 405
  else if request.path = "/metrics" then .withBody 200 metricsType metrics
  else if request.path = "/live" then .plain 200 "live\n"
  else if request.path = "/ready" then
    if ready then .plain 200 "ready\n" else .plain 500 "not ready\n"
  else .bare 404

end Attribution.Admin
