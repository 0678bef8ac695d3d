import SchemaMocks.Mock.Profile
import SchemaMocks.Pattern.PropertyTable

set_option autoImplicit false
set_option relaxedAutoImplicit false

/-!
Words for mock texts, which fakers can be made of. Each locale has names of persons, places and
firms of its own; sentences are made of the same neutral words everywhere.
-/

namespace SchemaMocks

/-- The words of a locale. -/
structure Vocabulary where
  firstNames : List String
  lastNames : List String
  cities : List String
  streets : List String
  countries : List String
  companyForms : List String
  callingCode : String
  domainSuffixes : List String

namespace Vocabulary

def english : Vocabulary where
  firstNames := ["Alice", "Brian", "Carol", "Derek", "Ellen", "Frank", "Grace", "Henry"]
  lastNames := ["Archer", "Baker", "Carter", "Fisher", "Mason", "Parker", "Taylor", "Walker"]
  cities := ["Bridgeport", "Fairview", "Greenfield", "Lakewood", "Oakdale", "Springfield"]
  streets := ["Church Street", "High Street", "Mill Lane", "Park Avenue", "Station Road"]
  countries := ["Canada", "Ireland", "Kenya", "New Zealand", "Norway", "Uruguay"]
  companyForms := ["Group", "Inc", "LLC", "Ltd"]
  callingCode := "+1"
  domainSuffixes := ["com", "net", "org", "info"]

def brazilian : Vocabulary where
  firstNames := ["Ana", "Bruno", "Camila", "Diego", "Fernanda", "Gabriel", "Helena", "Rafael"]
  lastNames := ["Almeida", "Barbosa", "Cardoso", "Ferreira", "Moreira", "Oliveira", "Ribeiro"]
  cities := ["Boa Vista", "Campo Grande", "Porto Alegre", "Recife", "Santos"]
  streets := ["Avenida Brasil", "Rua das Flores", "Rua do Com\u00e9rcio", "Travessa da Serra"]
  countries := ["Angola", "Argentina", "Brasil", "Chile", "Portugal"]
  companyForms := ["Ltda.", "S.A.", "e Filhos"]
  callingCode := "+55"
  domainSuffixes := ["com", "com.br", "net", "org"]

def french : Vocabulary where
  firstNames := ["Alain", "Brigitte", "C\u00e9line", "Denis", "Elise", "Fabien", "Juliette"]
  lastNames := ["Bernard", "Dubois", "Fournier", "Lambert", "Moreau", "Rousseau", "Vidal"]
  cities := ["Annecy", "Dijon", "Grenoble", "Nantes", "Rennes", "Tours"]
  streets := ["avenue de la Gare", "place du March\u00e9", "rue de la Paix", "rue Haute"]
  countries := ["Belgique", "France", "Luxembourg", "Maroc", "Suisse"]
  companyForms := ["SA", "SARL", "et Fils"]
  callingCode := "+33"
  domainSuffixes := ["com", "fr", "net", "org"]

def german : Vocabulary where
  firstNames := ["Anke", "Bernd", "Claudia", "Dieter", "Elke", "Florian", "Greta", "Holger"]
  lastNames := ["Bauer", "Fischer", "Hoffmann", "Keller", "Lehmann", "Schneider", "Weber"]
  cities := ["Bremen", "Erfurt", "Freiburg", "Jena", "Kassel", "Mainz"]
  streets := ["Bahnhofstra\u00dfe", "Gartenweg", "Hauptstra\u00dfe", "Lindenallee", "M\u00fchlweg"]
  countries := ["D\u00e4nemark", "Deutschland", "Italien", "Polen", "Schweiz"]
  companyForms := ["AG", "GmbH", "KG", "und Partner"]
  callingCode := "+49"
  domainSuffixes := ["com", "de", "net", "org"]

def japanese : Vocabulary where
  firstNames := ["\u5065", "\u82b1\u5b50", "\u7f8e\u54b2", "\u7fd4", "\u967d\u5b50"]
  lastNames := ["\u4f50\u85e4", "\u9234\u6728", "\u9ad8\u6a4b", "\u7530\u4e2d", "\u6e21\u8fba"]
  cities := ["\u5948\u826f\u5e02", "\u5c71\u53e3\u5e02", "\u91d1\u6ca2\u5e02"]
  streets := ["\u672c\u753a", "\u4e2d\u592e\u901a\u308a", "\u685c\u4e18"]
  countries := ["\u65e5\u672c", "\u30d5\u30e9\u30f3\u30b9", "\u30a4\u30f3\u30c9"]
  companyForms := ["\u682a\u5f0f\u4f1a\u793e", "\u5408\u540c\u4f1a\u793e"]
  callingCode := "+81"
  domainSuffixes := ["com", "jp", "net", "org"]

def ofLocale : MockLocale → Vocabulary
  | .english => english
  | .brazilian => brazilian
  | .french => french
  | .german => german
  | .japanese => japanese

def neutralWords : List String := [
  "amber", "breeze", "cloud", "delta", "ember", "forest", "garden", "harbor", "island", "jasper",
  "kettle", "lantern", "meadow", "north", "orchard", "pebble", "quartz", "river", "stone", "timber",
  "umbra", "valley", "willow", "yonder", "zephyr"]

def oneOf (words : List String) : Draw String := do
  return (← Draw.pick words).getD "item"

def digits (count : Nat) : Draw String := do
  return String.ofList (← Draw.fromCharset "0123456789".toList count)

def capitalized (word : String) : String :=
  match word.toList with
  | [] => ""
  | c :: rest => String.ofList (c.toUpper :: rest)

def amount (least stop : Nat) : Draw Nat := do
  return (← Draw.between .bits64 least ((stop : Int) - 1)).toNat

def sentence (least stop : Nat) : Draw String := do
  let words ← Draw.times (oneOf neutralWords) (← amount least stop)
  return capitalized (" ".intercalate words) ++ "."

/-- The fakers that know the words of a vocabulary. -/
def fakers (v : Vocabulary) : Fakers where
  email := do
    let user ← oneOf neutralWords
    return user ++ (← digits 3) ++ "@example." ++ (← oneOf ["com", "net", "org"])
  phone := do return v.callingCode ++ " 555 " ++ (← digits 3) ++ " " ++ (← digits 4)
  city := oneOf v.cities
  postalCode := digits 5
  buildingNumber := do return toString (← Draw.between .bits64 1 199)
  streetName := oneOf v.streets
  domainSuffix := oneOf v.domainSuffixes
  paragraph least stop := do
    let sentences ← Draw.times (sentence 3 8) (← amount least stop)
    return " ".intercalate sentences
  sentence := sentence
  country := oneOf v.countries
  company := do return (← oneOf v.lastNames) ++ " " ++ (← oneOf v.companyForms)
  firstName := oneOf v.firstNames
  lastName := oneOf v.lastNames
  fullName := do return (← oneOf v.firstNames) ++ " " ++ (← oneOf v.lastNames)

end Vocabulary

def MockResources.standard : MockResources where
  fakers locale := (Vocabulary.ofLocale locale).fakers
  characters := Pattern.CharacterTable.standard

end SchemaMocks
