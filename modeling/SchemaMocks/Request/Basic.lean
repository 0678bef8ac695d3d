import SchemaMocks.Json.Printer

set_option autoImplicit false
set_option relaxedAutoImplicit false

/-!
Requests for procedures and the answers to them, by the rules of JSON-RPC 2.0. An answer carries the
identifier of its request and either a result or an error.
-/

namespace SchemaMocks

structure Request where
  id : Json
  method : String
  params : Json
  deriving DecidableEq

structure ResponseError where
  code : Int
  message : String
  deriving DecidableEq

structure Response where
  id : Json
  outcome : Except ResponseError Json

namespace ResponseError

def generationCode : Int := -32000

def methodCode : Int := -32601

def toJson (e : ResponseError) : Json :=
  .object [("code", .int e.code), ("message", .string e.message)]

end ResponseError

namespace Response

def toJson (r : Response) : Json :=
  .object [("jsonrpc", .string "2.0"), ("id", r.id),
    match r.outcome with
    | .ok result => ("result", result)
    | .error e => ("error", e.toJson)]

def line (r : Response) : String :=
  r.toJson.compact ++ "\n"

end Response

end SchemaMocks
