import CommitmentLog.Http.Message

/-!
# The client

How a caller's request gets to the service.  The client sends a method in capital letters, and a path that
starts with one slash and has no dots to resolve; it undoes the escapes of a path, and so does the server.
What follows a number sign is not sent.  A body is sent as JSON unless the caller names another type.
-/

set_option autoImplicit false

namespace CommitmentLog.Http

/-! ## Targets -/

/-- The parts of a path without the parts that are dots, behind the parts kept so far, the last one first.
One dot stands for no part, and two dots take away the part before, but not the start of the path. -/
def resolved : List (List Char) → List (List Char) → List (List Char)
  | kept, [] => kept.reverse
  | kept, part :: rest =>
      if part = ['.'] then resolved kept rest
      else if part = ['.', '.'] then resolved (if kept.length ≤ 1 then kept else kept.tail) rest
      else resolved (part :: kept) rest

/-- A path without the name of a host in front of it. -/
def withoutHost : List Char → List Char
  | '/' :: '/' :: rest => rest.dropWhile fun character => character != '/'
  | path => path

def sentPath (path : List Char) : List Char :=
  let parts := Text.splitAt '/' ('/' :: (withoutHost path).dropWhile fun character => character = '/')
  match ['/'].intercalate (resolved [] parts) with
  | [] => ['/']
  | sent => sent

def Target.ofText (text : List Char) : Target :=
  let (path, query) := cut '?' (cut '#' text).1
  { path := unescape (unescape (sentPath path)), query := query.getD [] }

/-! ## Headers -/

namespace HeaderField

/-- The bytes of a value: one for each character, or UTF-8 if a character has no such byte. -/
def bytes (value : String) : Bytes :=
  if value.toList.all fun character => character.toNat < 256 then
    value.toList.map fun character => UInt8.ofNat character.toNat
  else Text.Utf8.encode value.toList

def ofBytes (bytes : Bytes) : String :=
  String.ofList (bytes.map fun byte => Char.ofNat byte.toNat)

def arriveUnchanged (fields : List HeaderField) : Bool :=
  fields.all fun field => (Text.Utf8.decode? (bytes field.value)).isSome

/-- The fields as the service reads them.  A client that cannot read all of its values as UTF-8 encodes each
of them once more. -/
def received (fields : List HeaderField) : List HeaderField :=
  let unchanged := arriveUnchanged fields
  fields.map fun field =>
    let read := ofBytes (bytes field.value)
    { field with value := if unchanged then read else ofBytes (Text.Utf8.encode read.toList) }

end HeaderField

/-! ## Requests -/

structure Request where
  method : String
  target : String
  headers : List HeaderField := []
  body : Body := .empty

namespace Request

def fields (request : Request) : List HeaderField :=
  if request.body.isEmpty || request.headers.any (HeaderField.named contentType) then request.headers
  else request.headers ++ [{ name := contentType, value := "application/json" }]

def arrival (request : Request) : Arrival :=
  { method := String.ofList (request.method.toList.map Char.toUpper)
    target := Target.ofText request.target.toList
    headers := HeaderField.received request.fields
    body := request.body }

end Request

/-- The response that a caller sees: a request for the head alone gets no content. -/
def Response.seen (method : String) (response : Response) : Response :=
  if method = "HEAD" then { response with content := .text "" } else response

end CommitmentLog.Http
