import SchemaMocks.Datamodel.Scalar
import SchemaMocks.Json.Decode
import SchemaMocks.Text.Case
import SchemaMocks.Text.Search

set_option autoImplicit false
set_option relaxedAutoImplicit false

/-!
What a field name suggests about its contents. Every kind of contents has keywords; a name suggests
a kind where one of its keywords occurs in it under simple case folding. The kinds are ordered, and
the first one suggested is the meaning of the name.
-/

namespace SchemaMocks

inductive SemanticType where
  | email
  | phone
  | address
  | image
  | url
  | description
  | title
  | date
  | price
  | country
  | company
  | person
  | unknown
  deriving DecidableEq

namespace SemanticType

/-- Every kind with its label. -/
def labelled : List (String × SemanticType) := [
  ("email", email), ("phone", phone), ("address", address), ("image", image), ("url", url),
  ("description", description), ("title", title), ("date", date), ("price", price),
  ("country", country), ("company", company), ("name", person), ("unknown", unknown)]

def label : SemanticType → String
  | email => "email"
  | phone => "phone"
  | address => "address"
  | image => "image"
  | url => "url"
  | description => "description"
  | title => "title"
  | date => "date"
  | price => "price"
  | country => "country"
  | company => "company"
  | person => "name"
  | unknown => "unknown"

def decode : Decoder SemanticType :=
  Decoder.enumeration labelled

/-- The kinds with their keywords, first come first served. -/
def keywords : List (SemanticType × List String) := [
  (email, ["email", "mail"]),
  (phone, ["phone", "tel", "mobile"]),
  (address, ["address", "street", "city", "zip", "postal"]),
  (image, ["image", "avatar", "photo", "picture"]),
  (url, ["url", "website", "link", "homepage"]),
  (description, ["description", "desc", "bio", "about", "summary"]),
  (title, ["title", "heading", "subject", "headline"]),
  (date, ["date", "createdAt", "updatedAt", "deletedAt", "publishedAt", "birthDate"]),
  (price, ["price", "cost", "amount", "total", "subtotal", "fee"]),
  (country, ["country"]),
  (company, ["company", "organization", "employer"]),
  (person, ["name", "firstName", "lastName"])]

def occurs (foldedName : List Char) (keyword : String) : Bool :=
  Text.occursIn (keyword.toList.map Text.fold) foldedName

def suggestedBy (name : String) : List SemanticType :=
  let folded := name.toList.map Text.fold
  (keywords.filter fun (_, words) => words.any (occurs folded)).map (·.1)

def ofName (name : String) : SemanticType :=
  let folded := name.toList.map Text.fold
  ((keywords.find? fun (_, words) => words.any (occurs folded)).map (·.1)).getD unknown

theorem suggestedBy_sublist (name : String) :
    (suggestedBy name).Sublist (keywords.map (·.1)) :=
  List.filter_sublist.map _

theorem ofName_eq_headD (name : String) : ofName name = (suggestedBy name).headD unknown := by
  rw [ofName, suggestedBy, List.headD_eq_head?_getD, List.head?_map, List.head?_filter]

def accepts : SemanticType → ScalarType → Bool
  | unknown, _ => false
  | date, scalar => scalar == .dateTime
  | price, scalar => scalar == .int || scalar == .float || scalar == .decimal
  | _, scalar => scalar == .string

/-- The meaning of a name where it fits a scalar type. -/
def fitting (name : String) (scalar : ScalarType) : SemanticType :=
  let semantic := ofName name
  if semantic.accepts scalar then semantic else unknown

end SemanticType

/-- A field name with its meaning and everything that it suggests. -/
structure FieldAnalysis where
  fieldName : String
  semantic : SemanticType
  suggested : List SemanticType
  deriving DecidableEq

namespace FieldAnalysis

def ofName (name : String) : FieldAnalysis :=
  let suggested := SemanticType.suggestedBy name
  ⟨name, suggested.headD .unknown, suggested⟩

def toJson (a : FieldAnalysis) : Json :=
  .object [
    ("fieldName", .string a.fieldName),
    ("semantic", .string a.semantic.label),
    ("patterns", Json.strings (a.suggested.map SemanticType.label))]

end FieldAnalysis

end SchemaMocks
