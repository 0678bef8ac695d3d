import SchemaMocks.Json.Skip
import SchemaMocks.Request.Basic
import SchemaMocks.Text.Blank

set_option autoImplicit false
set_option relaxedAutoImplicit false

/-!
Reading a request from a line. The line is an object, or an array of the identifier, the method and
the parameters. Only the method is needed; what is absent is null. In an object no member may stand
twice, and members with other keys are passed over.
-/

namespace SchemaMocks.Request

/-- The members of a request that were met so far. -/
structure Members where
  id : Option Json
  method : Option String
  params : Option Json

def Members.none : Members :=
  ⟨.none, .none, .none⟩

def Members.request? (members : Members) : Option Request :=
  members.method.map fun method => ⟨members.id.getD .null, method, members.params.getD .null⟩

def innerNesting : Nat := Json.nestingLimit - 1

def readAny (cs : List Char) : Option (Json × List Char) :=
  Json.readValue (2 * cs.length + 2) innerNesting cs

def readText (cs : List Char) : Option (String × List Char) :=
  match Json.skipSpace cs with
  | '\"' :: rest =>
    (Json.readString (rest.length + 1) rest).map fun (s, rest) => (String.ofList s, rest)
  | _ => none

/-- The value of a member, added to the members before it. -/
def readMember (key : String) (members : Members) (cs : List Char) :
    Option (Members × List Char) :=
  if key = "id" then
    if members.id.isSome then none
    else (readAny cs).map fun (j, rest) => ({ members with id := some j }, rest)
  else if key = "method" then
    if members.method.isSome then none
    else (readText cs).map fun (s, rest) => ({ members with method := some s }, rest)
  else if key = "params" then
    if members.params.isSome then none
    else (readAny cs).map fun (j, rest) => ({ members with params := some j }, rest)
  else (Json.skipValue (2 * cs.length + 2) cs).map fun rest => (members, rest)

def readMembers : (fuel : Nat) → Members → List Char → Option (Members × List Char)
  | 0, _, _ => none
  | fuel + 1, members, cs => do
    let (key, rest) ← readText cs
    match Json.skipSpace rest with
    | ':' :: rest =>
      let (members, rest) ← readMember key members rest
      match Json.skipSpace rest with
      | '\x7d' :: rest => some (members, rest)
      | ',' :: rest => readMembers fuel members rest
      | _ => none
    | _ => none

/-- The items of a request that is an array, up to the closing bracket. -/
def readItems (cs : List Char) : Option (Members × List Char) := do
  let (id, rest) ← readAny cs
  match Json.skipSpace rest with
  | ',' :: rest =>
    let (method, rest) ← readText rest
    match Json.skipSpace rest with
    | ']' :: rest => some (⟨some id, some method, none⟩, rest)
    | ',' :: rest =>
      let (params, rest) ← readAny rest
      match Json.skipSpace rest with
      | ']' :: rest => some (⟨some id, some method, some params⟩, rest)
      | _ => none
    | _ => none
  | _ => none

def ofChars? (cs : List Char) : Option Request := do
  let (members, rest) ← match Json.skipSpace cs with
    | '\x7b' :: rest =>
      match Json.skipSpace rest with
      | '\x7d' :: rest => some (Members.none, rest)
      | _ => readMembers (rest.length + 1) Members.none rest
    | '[' :: rest => readItems rest
    | _ => none
  if (Json.skipSpace rest).isEmpty then members.request? else none

inductive Line where
  | blank
  | malformed
  | request (r : Request)

/-- What a line holds; blanks around it do not count. -/
def Line.ofText (s : String) : Line :=
  let cs := Text.trim s.toList
  if cs.isEmpty then blank
  else match ofChars? cs with
    | some r => request r
    | none => malformed

end SchemaMocks.Request
