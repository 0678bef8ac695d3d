import SchemaMocks.Notice
import SchemaMocks.Text.Blank
import SchemaMocks.Text.Case

set_option autoImplicit false
set_option relaxedAutoImplicit false

/-!
The locales that mock data exists for.
-/

namespace SchemaMocks

inductive MockLocale where
  | english
  | brazilian
  | french
  | german
  | japanese
  deriving DecidableEq

namespace MockLocale

def name : MockLocale → String
  | english => "en"
  | brazilian => "pt_BR"
  | french => "fr_FR"
  | german => "de_DE"
  | japanese => "ja_JP"

/-- The spellings that are understood, in lower case and with an underscore. -/
def spellings : List (String × MockLocale) := [
  ("en", english), ("en_us", english), ("en_gb", english),
  ("pt", brazilian), ("pt_br", brazilian),
  ("fr", french), ("fr_fr", french),
  ("de", german), ("de_de", german),
  ("ja", japanese), ("ja_jp", japanese)]

def ofText? (s : String) : Option MockLocale :=
  let spelling := (Text.asciiLowered (Text.trimmed s)).map fun c => if c = '-' then '_' else c
  Entries.get? spelling spellings

/-- The locale of a spelling, English where it is not understood. -/
def resolve (s : String) : MockLocale :=
  (ofText? s).getD english

def noticesOf (s : String) : List Notice :=
  if (ofText? s).isNone then [.localeUnsupported s] else []

end MockLocale

end SchemaMocks
