import LuaStubs.Lua.Name

/-!
# Endpoints and definitions

What a stub is generated from: an endpoint with flat parameters and the
responses it may give, and a definition with its properties or the values of an
enumeration.
-/

namespace LuaStubs.Api

/-! ## Parameters -/

/-- Where a parameter travels. -/
inductive Location where
  | path
  | query
  | body
  deriving DecidableEq, Repr, Inhabited

/-- The name of a location. -/
def Location.name : Location → String
  | .path => "path"
  | .query => "query"
  | .body => "body"

/-- The location of the given name. -/
def Location.ofName? : String → Option Location
  | "path" => some .path
  | "query" => some .query
  | "body" => some .body
  | _ => none

/-- The locations, in the order of a function's arguments. -/
def Location.all : List Location := [.path, .query, .body]

/-- A parameter of an endpoint. -/
structure Parameter where
  /-- The name on the wire. -/
  name : String
  /-- The name of the function's argument. -/
  argument : String
  location : Location
  category : Category
  description : String
  required : Bool
  /-- The body parameter whose property this is, if it is one. -/
  flattenedFrom : Option String
  deriving DecidableEq, Repr, Inhabited

/-! ## Methods and status codes -/

/-- An HTTP method that an operation can have. -/
inductive Method where
  | get
  | post
  | put
  | delete
  | patch
  | head
  | options
  deriving DecidableEq, Repr, Inhabited

namespace Method

/-- The name of a method, in upper case. -/
def name : Method → String
  | get => "GET"
  | post => "POST"
  | put => "PUT"
  | delete => "DELETE"
  | patch => "PATCH"
  | head => "HEAD"
  | options => "OPTIONS"

/-- The method that a key of a path item names, in whatever case. -/
def ofKey? (key : String) : Option Method :=
  match String.ofList (key.toList.map Char.toLower) with
  | "get" => some get
  | "post" => some post
  | "put" => some put
  | "delete" => some delete
  | "patch" => some patch
  | "head" => some head
  | "options" => some options
  | _ => none

end Method

/-- The key of a response: a status code of 16 bits, or the one for all other codes. -/
inductive StatusCode where
  | code (n : Nat)
  | default
  deriving DecidableEq, Repr, Inhabited

namespace StatusCode

/-- The number that decimal digits stand for; none if there are no digits, or others among them. -/
def natOfDigits? : List Char → Option Nat
  | [] => none
  | ds =>
    if ds.all Char.isDigit then some (ds.foldl (fun n d => 10 * n + (d.toNat - '0'.toNat)) 0)
    else none

/-- The status code of a response's key. A number may have a plus sign and leading zeros. -/
def ofKey? (key : String) : Option StatusCode :=
  if key = "default" then some default
  else
    let digits := match key.toList with
      | '+' :: rest => rest
      | cs => cs
    (natOfDigits? digits).bind fun n => if n < 65536 then some (code n) else none

/-- The codes of success, 200 to 299. -/
def isSuccess : StatusCode → Bool
  | code n => 200 ≤ n && n ≤ 299
  | default => false

/-- The text of a status code. -/
def text : StatusCode → String
  | code n => String.ofList (Nat.toDigits 10 n)
  | default => "default"

end StatusCode

/-! ## Responses and endpoints -/

/-- A response of an endpoint. -/
structure Response where
  code : StatusCode
  description : String
  hasSchema : Bool
  /-- The definition that the body refers to, itself or for its items. -/
  schemaRef : Option Identifier
  category : Category
  deriving DecidableEq, Repr, Inhabited

/-- An operation of the API, ready for a stub. -/
structure Endpoint where
  operationId : Identifier
  method : Method
  path : String
  summary : String
  /-- The parameters in the order of their declaration. -/
  parameters : List Parameter
  /-- Whether the endpoint takes credentials and not a session. -/
  isAuthentication : Bool
  /-- Whether a successful response is a session. -/
  returnsSession : Bool
  responses : List Response
  deriving DecidableEq, Repr, Inhabited

namespace Endpoint

/-- The parameters in one location. -/
def parametersIn (e : Endpoint) (location : Location) : List Parameter :=
  e.parameters.filter fun p => p.location = location

/-- The parameters in the order of a function's arguments: those in the path, then those of the
query, then those of the body. -/
def orderedParameters (e : Endpoint) : List Parameter := Location.all.flatMap e.parametersIn

/-- Whether any parameter is in a location. -/
def hasParametersIn (e : Endpoint) (location : Location) : Bool :=
  !(e.parametersIn location).isEmpty

/-- The first response with a code. -/
def response? (e : Endpoint) (code : StatusCode) : Option Response :=
  e.responses.find? fun r => r.code = code

end Endpoint

/-! ## Definitions -/

/-- A property of a definition. -/
structure Property where
  name : String
  /-- The name of the function's argument. -/
  argument : String
  category : Category
  description : String
  schemaRef : Option Identifier
  deriving DecidableEq, Repr, Inhabited

/-- A reusable schema, ready for a stub. -/
structure Definition where
  name : Identifier
  /-- The name as it is declared. -/
  rawName : String
  description : String
  properties : List Property
  /-- The texts of the values of an enumeration. -/
  enumeration : List String
  deriving DecidableEq, Repr, Inhabited

namespace Definition

/-- Whether the definition is an enumeration. -/
def hasEnumeration (d : Definition) : Bool := !d.enumeration.isEmpty

/-- Whether the definition has properties. -/
def hasProperties (d : Definition) : Bool := !d.properties.isEmpty

/-- The name of the function that makes a value of the definition. -/
def constructorName (d : Definition) : String := "create_" ++ d.name.text

/-- The name that the definition adds to a module: that of its constants or of its constructor; none
if it has neither. -/
def generatedName? (d : Definition) : Option String :=
  if d.hasEnumeration then some d.name.text
  else if d.hasProperties then some d.constructorName
  else none

end Definition

end LuaStubs.Api
