import RuleWatch.Http.Target
import RuleWatch.Json.Render
import RuleWatch.Text.Utf8

/-!
# Requests and responses

The messages of the protocol, as far as the service looks at them and makes them.
-/

namespace RuleWatch.Http

/-- What a request asks to be done with its target. -/
inductive Method
  | get
  | head
  | post
  | options
  | other (name : String)
  deriving DecidableEq, Repr

namespace Method

def name : Method → String
  | get => "GET"
  | head => "HEAD"
  | post => "POST"
  | options => "OPTIONS"
  | other name => name

def ofName (name : String) : Method :=
  match name with
  | "GET" => get
  | "HEAD" => head
  | "POST" => post
  | "OPTIONS" => options
  | name => other name

end Method

/-- A request. The names of headers are in small letters, and one name may come several times. -/
structure Request where
  method : Method
  target : String
  headers : List (String × Bytes)
  body : Bytes

namespace Request

/-- The first value of a header. -/
def header? (r : Request) (name : String) : Option Bytes :=
  r.headers.lookup name

/-- The path and the form of the target. -/
def fullTarget (r : Request) : String :=
  String.ofList (Target.full r.target.toList)

/-- The path of the target. -/
def path (r : Request) : String :=
  String.ofList (Target.path r.target.toList)

/-- The form after the path, without its question mark. -/
def formText (r : Request) : String :=
  String.ofList (Target.form r.target.toList)

end Request

/-- What a response carries. -/
inductive Body
  | none
  | json (value : Json)
  | text (text : String)
  deriving Inhabited

namespace Body

/-- The bytes of a body. -/
def toBytes : Body → Bytes
  | none => []
  | json value => Text.toBytes value.toText
  | text s => Text.toBytes s

end Body

/-- A response. -/
structure Response where
  status : Nat
  headers : List (String × String)
  body : Body
  deriving Inhabited

namespace Response

/-- The header that says what a body is. -/
def contentType : String := "content-type"

/-- The type of JSON bodies. -/
def jsonType : String := "application/json"

/-- The type of bodies of text. -/
def textType : String := "text/plain; charset=utf-8"

/-- A response that carries nothing. -/
def empty (status : Nat) : Response :=
  ⟨status, [], .none⟩

/-- A response that carries a value. -/
def json (status : Nat) (value : Json) : Response :=
  ⟨status, [(contentType, jsonType)], .json value⟩

/-- A response that carries a text. -/
def text (status : Nat) (s : String) : Response :=
  ⟨status, [(contentType, textType)], .text s⟩

/-- The value of a header. -/
def header? (r : Response) (name : String) : Option String :=
  r.headers.lookup name

/-- The response with a header set, in place of one of the same name. -/
def setHeader (r : Response) (name value : String) : Response :=
  { r with headers := (name, value) :: r.headers.filter fun h ↦ h.1 != name }

/-- The response without what it carries. -/
def withoutBody (r : Response) : Response :=
  { r with body := .none }

end Response

end RuleWatch.Http
