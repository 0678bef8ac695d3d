import SchemaMocks.TypeScript.SourceFile

set_option autoImplicit false
set_option relaxedAutoImplicit false

/-!
Generated factories as functions. A function has parameters, some with a value that stands where none
is passed, and makes a record, or as many records as it is asked for by calls of another function.
What a record holds may depend on a comparison of numbers, and may be a call. The text of the
factories of a model is the print of two such functions, between its type of mocks and the factory
of validated records.
-/

namespace SchemaMocks.TypeScript

/-- What a function computes from its parameters. -/
inductive Operand where
  | undefined
  | number (n : Nat)
  | parameter (name : String)
  | sum (a b : Operand)
  | least (a b : Operand)
  deriving DecidableEq

namespace Operand

def text : Operand → String
  | undefined => "undefined"
  | number n => toString n
  | parameter name => name
  | sum a b => a.text ++ " + " ++ b.text
  | least a b => "Math.min(" ++ a.text ++ ", " ++ b.text ++ ")"

/-- The parameters that are used. -/
def used : Operand → List String
  | undefined | number _ => []
  | parameter name => [name]
  | sum a b | least a b => a.used ++ b.used

end Operand

/-- A call of a function by its name. -/
structure Invocation where
  name : String
  arguments : List Operand
  deriving DecidableEq

namespace Invocation

def text (call : Invocation) : String :=
  call.name ++ "(" ++ ", ".intercalate (call.arguments.map Operand.text) ++ ")"

def used (call : Invocation) : List String :=
  call.arguments.flatMap Operand.used

end Invocation

/-- What a record holds for a field, as it is computed. -/
inductive MemberCode where
  | value (e : MockExpr)
  | null
  | emptyList
  | stub (idField : String) (e : MockExpr)
  | call (call : Invocation)
  | ifLess (a b : Operand) (yes no : MemberCode)
  deriving DecidableEq

namespace MemberCode

def text : MemberCode → String
  | value e => e.render
  | null => "null"
  | emptyList => "[]"
  | stub idField e => "\x7b " ++ idField ++ ": " ++ e.render ++ " \x7d"
  | call c => c.text
  | ifLess a b yes no => a.text ++ " < " ++ b.text ++ " ? " ++ yes.text ++ " : " ++ no.text

/-- The parameters that are used, apart from what code of the documentation uses. -/
def used : MemberCode → List String
  | value _ | null | emptyList | stub .. => []
  | call c => c.used
  | ifLess a b yes no => a.used ++ b.used ++ yes.used ++ no.used

end MemberCode

structure Parameter where
  name : String
  isOptional : Bool
  type : String
  /-- What stands where nothing is passed. -/
  fallback : Option Nat
  deriving DecidableEq

def Parameter.text (p : Parameter) : String :=
  p.name ++ (if p.isOptional then "?" else "") ++ ": " ++ p.type
    ++ (p.fallback.map fun n => " = " ++ toString n).getD ""

inductive FactoryBody where
  /-- A record, with the members of a parameter in place of its own. -/
  | record (members : List (String × MemberCode)) (spread : String)
  /-- A list of what a call gives, so many times. -/
  | repeated (count : Operand) (call : Invocation)
  deriving DecidableEq

def FactoryBody.used : FactoryBody → List String
  | record members spread => members.flatMap (fun entry => entry.2.used) ++ [spread]
  | repeated count call => count.used ++ call.used

/-- A factory of a model as a function. -/
structure FactoryFunction where
  model : String
  parameters : List Parameter
  returns : String
  body : FactoryBody
  deriving DecidableEq

/-- Lines with commas between them. -/
def separatedLines : List String → List String
  | [] => []
  | [line] => [line]
  | line :: rest => (line ++ ",") :: separatedLines rest

namespace FactoryFunction

def name (f : FactoryFunction) : String :=
  match f.body with
  | .record .. => factoryName f.model
  | .repeated .. => batchName f.model

def parameterNames (f : FactoryFunction) : List String :=
  f.parameters.map Parameter.name

/-- Whether a function uses no parameters but its own. -/
def IsScoped (f : FactoryFunction) : Prop :=
  ∀ name ∈ f.body.used, name ∈ f.parameterNames

def lines (f : FactoryFunction) : List String :=
  match f.body with
  | .record members spread =>
    ["export const " ++ f.name ++ " = (" ++ ", ".intercalate (f.parameters.map Parameter.text)
        ++ "): " ++ f.returns ++ " => \x7b",
      "  return \x7b"]
      ++ members.map (fun entry => "    " ++ entry.1 ++ ": " ++ entry.2.text ++ ",")
      ++ ["    ..." ++ spread ++ ",", "  \x7d;", "\x7d;"]
  | .repeated count call =>
    ["export const " ++ f.name ++ " = ("]
      ++ separatedLines (f.parameters.map fun p => "  " ++ p.text)
      ++ ["): " ++ f.returns ++ " => \x7b",
        "  return Array.from(\x7b length: " ++ count.text ++ " \x7d, () => " ++ call.text ++ ");",
        "\x7d;"]

end FactoryFunction

/-- A bound as it is computed. -/
def DepthBound.operand : DepthBound → Operand
  | inherited => .parameter "maxDepth"
  | capped limit => .least (.parameter "maxDepth") (.number limit.toNat)

/-- The depth one level down, as it is computed. -/
def nextDepth : Operand := .sum (.parameter "depth") (.number 1)

def FactoryCall.invocation (call : FactoryCall) : Invocation where
  name := if call.isBatch then batchName call.target else factoryName call.target
  arguments :=
    (if call.isBatch then [.number listLength] else []) ++
      call.passes.elim [] fun bound => [.undefined, nextDepth, bound.operand]

def Terminal.code : Terminal → MemberCode
  | null => .null
  | emptyList => .emptyList
  | stub idField value => .stub idField value

def MemberExpr.code : MemberExpr → MemberCode
  | sourced _ value | declared value => .value value
  | relation (.terminal value) => value.code
  | relation (.expand bound call otherwise) =>
    .ifLess (.parameter "depth") bound.operand (.call call.invocation) otherwise.code

namespace ModelFactory

/-- What the factory of one record may be passed. -/
def parameters (f : ModelFactory) : List Parameter :=
  ⟨"overrides", true, "Partial<" ++ f.returns.render ++ ">", none⟩ ::
    match f.maxDepth with
    | some bound =>
      [⟨"depth", false, "number", some 0⟩, ⟨"maxDepth", false, "number", some bound.toNat⟩]
    | none => []

/-- The factory of one record. -/
def single (f : ModelFactory) : FactoryFunction where
  model := f.model
  parameters := f.parameters
  returns := f.returns.render
  body := .record (f.members.map fun entry => (entry.1, entry.2.code)) "overrides"

/-- The factory of several records. -/
def batch (f : ModelFactory) : FactoryFunction where
  model := f.model
  parameters := ⟨"count", false, "number", some 10⟩ :: f.parameters
  returns := f.returns.render ++ "[]"
  body := .repeated (.parameter "count")
    ⟨factoryName f.model, f.parameters.map fun p => .parameter p.name⟩

end ModelFactory

section Text

private theorem DepthBound.text_operand (bound : DepthBound) :
    bound.operand.text = bound.render := by
  cases bound <;> rfl

private theorem Terminal.text_code (value : Terminal) : value.code.text = value.render := by
  cases value <;> rfl

private theorem FactoryCall.text_invocation (call : FactoryCall) :
    call.invocation.text = call.render := by
  obtain ⟨target, isBatch, passes⟩ := call
  have hone : Nat.toDigits 10 1 = ['1'] := by decide
  cases passes <;> cases isBatch <;>
    simp [invocation, Invocation.text, Operand.text, nextDepth, render, hone,
      DepthBound.text_operand, ← String.toList_inj]

private theorem MemberExpr.text_code (e : MemberExpr) : e.code.text = e.render := by
  cases e with
  | sourced | declared => rfl
  | relation value =>
    cases value with
    | terminal value => exact value.text_code
    | expand bound call otherwise =>
      rw [code, MemberCode.text, MemberCode.text, DepthBound.text_operand,
        FactoryCall.text_invocation, Terminal.text_code]
      rfl

namespace ModelFactory

variable (f : ModelFactory)

private theorem singleLines_eq : f.singleLines = f.single.lines ++ [""] := by
  have hmembers : f.members.map (fun entry => "    " ++ entry.1 ++ ": " ++ entry.2.render ++ ",") =
      (f.members.map fun entry => (entry.1, entry.2.code)).map
        fun entry => "    " ++ entry.1 ++ ": " ++ entry.2.text ++ "," := by
    simp [MemberExpr.text_code, Function.comp_def]
  unfold singleLines FactoryFunction.lines single parameters
  cases f.maxDepth <;>
    simp [hmembers, FactoryFunction.name, Parameter.text, ← String.toList_inj]

private theorem batchLines_eq : f.batchLines = f.batch.lines := by
  have hten : Nat.toDigits 10 10 = ['1', '0'] := by decide
  unfold batchLines FactoryFunction.lines batch parameters
  cases f.maxDepth <;>
    simp [separatedLines, FactoryFunction.name, hten, Parameter.text, Invocation.text, Operand.text,
      ← String.toList_inj]

/-- The text of the factories of a model. -/
theorem render_factory : (Section.factory f).render =
    "\n".intercalate (f.aliasLines ++ f.single.lines ++ "" :: f.batch.lines ++ f.validatedLines) := by
  rw [Section.render, render, singleLines_eq, batchLines_eq]
  simp only [List.append_assoc, List.cons_append, List.nil_append]

end ModelFactory

end Text

section Names

theorem factoryName_injective : Function.Injective factoryName := fun _ _ h =>
  (String.append_right_inj "create").1 ((String.append_left_inj "Mock").1 h)

theorem batchName_injective : Function.Injective batchName := fun _ _ h =>
  (String.append_right_inj "create").1 ((String.append_left_inj "MockBatch").1 h)

theorem factoryName_ne_batchName (a b : String) : factoryName a ≠ batchName b := by
  intro h
  have hlast := congrArg (fun s => s.toList.reverse.head?) h
  simp [factoryName, batchName] at hlast

end Names

end SchemaMocks.TypeScript
