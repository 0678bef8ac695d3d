import SchemaMocks.Random.Stream

set_option autoImplicit false
set_option relaxedAutoImplicit false

/-!
Sources of texts that look like the real ones. Which words a faker knows and how many random words it
takes is its own affair.
-/

namespace SchemaMocks

/-- The fakers of a locale. -/
structure Fakers where
  email : Draw String
  phone : Draw String
  city : Draw String
  postalCode : Draw String
  buildingNumber : Draw String
  streetName : Draw String
  domainSuffix : Draw String
  /-- At least `least` and fewer than `stop` sentences. -/
  paragraph : (least stop : Nat) → Draw String
  /-- At least `least` and fewer than `stop` words. -/
  sentence : (least stop : Nat) → Draw String
  country : Draw String
  company : Draw String
  firstName : Draw String
  lastName : Draw String
  fullName : Draw String

end SchemaMocks
