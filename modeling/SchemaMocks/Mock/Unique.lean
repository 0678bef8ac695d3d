import SchemaMocks.Mock.Value

set_option autoImplicit false
set_option relaxedAutoImplicit false

/-!
Unique values. A ledger remembers, for each field of each model, the values that were handed out. A
generator is run until it gives a value that is not in the ledger, a bounded number of times; only
the value that is handed out enters the ledger.
-/

namespace SchemaMocks

/-- The values handed out, by field, and how often a generator is run at most. -/
structure UniqueLedger where
  maxAttempts : UInt32
  used : Dictionary (List String)

inductive UniqueFailure (ε : Type) where
  | exhausted (key : String) (attempts : UInt32)
  | generator (error : ε)

def exhaustedMessage (key : String) (attempts : UInt32) : String :=
  "failed to generate unique value for " ++ key ++ " after " ++ toString attempts.toNat ++ " attempts"

abbrev ValueGenerator (ε σ : Type) := σ → Except ε MockValue × σ

namespace UniqueLedger

/-- How often a generator is run unless told otherwise. -/
def standardAttempts : UInt32 := 1000

def empty : UniqueLedger :=
  ⟨standardAttempts, Dictionary.empty⟩

/-- A ledger with another number of attempts, which is at least one. -/
def withMaxAttempts (ledger : UniqueLedger) (attempts : UInt32) : UniqueLedger :=
  { ledger with maxAttempts := max attempts 1 }

/-- The text under which the values of a field are kept. -/
def fieldKey (model field : String) : String :=
  model ++ "." ++ field

def usedUnder (ledger : UniqueLedger) (key : String) : List String :=
  (ledger.used.get? key).getD []

def usedCount (ledger : UniqueLedger) (model field : String) : Nat :=
  (ledger.usedUnder (fieldKey model field)).length

def isUsed (ledger : UniqueLedger) (model field : String) (value : MockValue) : Bool :=
  (ledger.usedUnder (fieldKey model field)).contains value.uniqueKey

/-- Runs a generator until it fails or gives an unused value; none after all attempts. -/
def search {ε σ : Type} (generator : ValueGenerator ε σ) (used : List String) :
    Nat → σ → Except ε (Option MockValue) × σ
  | 0, s => (.ok none, s)
  | attempts + 1, s =>
    match generator s with
    | (.error e, s) => (.error e, s)
    | (.ok value, s) =>
      if used.contains value.uniqueKey then search generator used attempts s
      else (.ok (some value), s)

/-- Draws a value that was not handed out for a field before. -/
def draw {ε σ : Type} (ledger : UniqueLedger) (model field : String)
    (generator : ValueGenerator ε σ) (s : σ) :
    Except (UniqueFailure ε) MockValue × UniqueLedger × σ :=
  let key := fieldKey model field
  let used := ledger.usedUnder key
  match search generator used ledger.maxAttempts.toNat s with
  | (.error e, s) => (.error (.generator e), ledger, s)
  | (.ok none, s) => (.error (.exhausted key ledger.maxAttempts), ledger, s)
  | (.ok (some value), s) =>
    (.ok value, { ledger with used := ledger.used.insert key (value.uniqueKey :: used) }, s)

def reset (ledger : UniqueLedger) : UniqueLedger :=
  { ledger with used := Dictionary.empty }

def resetField (ledger : UniqueLedger) (model field : String) : UniqueLedger :=
  { ledger with used := ledger.used.insert (fieldKey model field) [] }

end UniqueLedger

end SchemaMocks
