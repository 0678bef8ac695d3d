import SchemaMocks.Mock.Record
import SchemaMocks.Proofs.Factories.Program

set_option autoImplicit false
set_option relaxedAutoImplicit false

/-!
What generated factories do when they are called. Functions call each other by name. A call is
followed to a number of levels; it ends where some number of levels is enough, and then every
greater number is. It stops where a name is used that nothing declares. What code of the
documentation comes to is given from outside.
-/

namespace SchemaMocks.TypeScript

/-- What a parameter stands for. -/
inductive Argument where
  | undefined
  | number (n : Nat)
  deriving DecidableEq

/-- Why a call gives nothing. -/
inductive NoResult where
  /-- The calls go on below the last level. -/
  | unfinished
  | undeclared (name : String)
  | notANumber
  | notARecord
  /-- Code of the documentation comes to nothing. -/
  | stopped (code : String)
  deriving DecidableEq

abbrev Evaluation := Except NoResult

/-- What the parameters of a function stand for. -/
abbrev Environment := List (String × Argument)

def Environment.argument (env : Environment) (name : String) : Evaluation Argument :=
  match env.lookup name with
  | some argument => pure argument
  | none => throw (.undeclared name)

def Argument.toNumber : Argument → Evaluation Nat
  | number n => pure n
  | undefined => throw .notANumber

namespace Operand

variable (env : Environment)

def evaluate : Operand → Evaluation Argument
  | undefined => return .undefined
  | number n => return .number n
  | parameter name => env.argument name
  | sum a b => do
    let m ← (← evaluate a).toNumber
    let n ← (← evaluate b).toNumber
    return .number (m + n)
  | least a b => do
    let m ← (← evaluate a).toNumber
    let n ← (← evaluate b).toNumber
    return .number (min m n)

def evaluateNumber (a : Operand) : Evaluation Nat := do
  (← a.evaluate env).toNumber

end Operand

/-- What a parameter stands for where something is passed or nothing is. -/
def Parameter.argument (p : Parameter) : Option Argument → Argument
  | some (.number n) => .number n
  | _ => (p.fallback.map .number).getD .undefined

/-- What parameters stand for, in their order. -/
def Environment.ofPassed : List Parameter → List Argument → Environment
  | [], _ => []
  | p :: rest, passed => (p.name, p.argument passed.head?) :: ofPassed rest passed.tail

/-- What a function gives. -/
inductive Made where
  | record (r : MockRecord MockExpr)
  | list (rs : List (MockRecord MockExpr))

def Made.toRecord : Made → Evaluation (MockRecord MockExpr)
  | record r => pure r
  | list _ => throw .notARecord

def Made.toMember : Made → MockMember MockExpr
  | record r => .single r
  | list rs => .list rs

/-- Code of the documentation in an expression. -/
def MockExpr.supplied : MockExpr → List String
  | verbatim written => [written]
  | repeated element => element.supplied
  | maybe value => value.supplied
  | _ => []

/-- The functions that can be called, and what code of the documentation comes to. -/
structure Program where
  functions : List FactoryFunction
  supplied : String → Evaluation Unit

def Program.declared (program : Program) (name : String) : Evaluation FactoryFunction :=
  match program.functions.find? (·.name == name) with
  | some f => pure f
  | none => throw (.undeclared name)

section Evaluation

variable (program : Program) (run : String → List Argument → Evaluation Made) (env : Environment)

/-- An expression for a value stays as it is; only code of the documentation may stop. -/
def MockExpr.evaluate (e : MockExpr) : Evaluation MockExpr := do
  e.supplied.forM program.supplied
  return e

def Invocation.evaluate (call : Invocation) : Evaluation Made := do
  run call.name (← call.arguments.mapM (Operand.evaluate env))

def MemberCode.evaluate : MemberCode → Evaluation (MockMember MockExpr)
  | value e => do return .value (← e.evaluate program)
  | null => return .null
  | emptyList => return .emptyList
  | stub idField e => do return .stub idField (← e.evaluate program)
  | call c => do return (← c.evaluate run env).toMember
  | ifLess a b yes no => do
    if (← a.evaluateNumber env) < (← b.evaluateNumber env) then yes.evaluate else no.evaluate

def evaluateEntry (entry : String × MemberCode) : Evaluation (String × MockMember MockExpr) := do
  return (entry.1, ← entry.2.evaluate program run env)

/-- The members of what a parameter stands for are none: it is undefined or a number. -/
def FactoryBody.evaluate (model : String) : FactoryBody → Evaluation Made
  | record members spread => do
    let entries ← members.mapM (evaluateEntry program run env)
    let _ ← env.argument spread
    return .record (.of model entries)
  | repeated count call => do
    let n ← count.evaluateNumber env
    let made ← (List.range n).mapM fun _ => call.evaluate run env
    return .list (← made.mapM Made.toRecord)

end Evaluation

/-- Calls a function, followed to so many levels. -/
def Program.run (program : Program) : (levels : Nat) → String → List Argument → Evaluation Made
  | 0, _, _ => throw .unfinished
  | levels + 1, name, passed => do
    let f ← program.declared name
    f.body.evaluate program (program.run levels) (.ofPassed f.parameters passed) f.model

/-- The factories of a document as a program. -/
def Program.ofDocument (config : GeneratorConfig) (doc : Document)
    (supplied : String → Evaluation Unit) : Program where
  functions := doc.models.flatMap fun model =>
    let f := ModelFactory.ofModel config doc model
    [f.single, f.batch]
  supplied := supplied

section Lemmas

variable {program : Program} {env : Environment} {levels : Nat} {name : String}

theorem MockExpr.evaluate_of_supplied {e : MockExpr}
    (h : ∀ code ∈ e.supplied, program.supplied code = pure ()) : e.evaluate program = pure e := by
  have hall (codes : List String) (h : ∀ code ∈ codes, program.supplied code = pure ()) :
      codes.forM program.supplied = pure () := by
    induction codes with
    | nil => rfl
    | cons code rest ih =>
      obtain ⟨hcode, hrest⟩ := List.forall_mem_cons.1 h
      change (program.supplied code >>= fun _ => rest.forM program.supplied) = _
      rw [hcode, pure_bind, ih hrest]
  rw [evaluate, hall _ h, pure_bind]

theorem Program.run_succ {f : FactoryFunction} (h : program.declared name = pure f)
    (passed : List Argument) : program.run (levels + 1) name passed =
      f.body.evaluate program (program.run levels) (.ofPassed f.parameters passed) f.model := by
  rw [run, h, pure_bind]

end Lemmas

end SchemaMocks.TypeScript
