import SchemaMocks.Proofs.Code.Pieces

set_option autoImplicit false
set_option relaxedAutoImplicit false

/-!
The sections of generated files as statements. Each construct has its pieces beside its text, and
each section is shown to be the text of its statements.
-/

namespace SchemaMocks.TypeScript

section Expressions

/-- The schema library as it is read by an expression that is run at once. -/
def zodNow : Piece := .name .readNow "z"

def SchemaExpr.pieces : SchemaExpr → Line
  | unknown => [zodNow, .plain ".unknown()"]
  | string checks => [zodNow, .plain (".string()" ++ String.join (checks.map TextCheck.render))]
  | int => [zodNow, .plain ".number().int()"]
  | number => [zodNow, .plain ".number()"]
  | boolean => [zodNow, .plain ".boolean()"]
  | date coerced => [zodNow, .plain (if coerced then ".coerce.date()" else ".date()")]
  | bigInt => [zodNow, .plain ".bigint()"]
  | buffer => [zodNow, .plain ".instanceof(Buffer)"]
  | nativeEnum name => [zodNow, .plain ".nativeEnum(", .name .readNow name, .plain ")"]
  | related model =>
    [zodNow, .plain ".lazy((): ", .name .inType "z", .plain ".ZodTypeAny => ",
      .name .readLater (model ++ "Schema"), .plain ".partial())"]
  | array element => [zodNow, .plain ".array("] ++ element.pieces ++ [.plain ")"]
  | nullable inner => inner.pieces ++ [.plain ".nullable()"]
  | optional inner => inner.pieces ++ [.plain ".optional()"]

private theorem SchemaExpr.text_pieces (e : SchemaExpr) : Line.text e.pieces = e.render := by
  rw [← String.toList_inj]
  induction e with
  | array _ ih | nullable _ ih | optional _ ih =>
    unfold pieces render
    simp [zodNow, ih]
  | date coerced => cases coerced <;> rfl
  | string _ | nativeEnum _ | related _ =>
    unfold pieces render
    simp [zodNow]
  | _ => rfl

def TypeRef.pieces : TypeRef → Line
  | record => [.plain "Record<string, unknown>"]
  | mock name => [.name .inType (name ++ "Mock")]
  | model name => [.name .inType name]
  | inferred name =>
    [.name .inType "z", .plain ".infer<typeof ", .name .typeOf (name ++ "Schema"), .plain ">"]

private theorem TypeRef.text_pieces (t : TypeRef) : Line.text t.pieces = t.render := by
  rw [← String.toList_inj]
  cases t with
  | record => rfl
  | _ =>
    unfold pieces render
    simp

def RelationType.pieces : RelationType → Line
  | unknown => [.plain "unknown"]
  | list element => [.plain "Partial<"] ++ element.pieces ++ [.plain ">[]"]
  | single target => [.plain "Partial<"] ++ target.pieces ++ [.plain "> | null"]

private theorem RelationType.text_pieces (t : RelationType) : Line.text t.pieces = t.render := by
  cases t with
  | unknown => rfl
  | _ =>
    unfold pieces render
    simp [TypeRef.text_pieces, String.append_assoc]

def MockExpr.pieces : MockExpr → Line
  | verbatim written => wordPieces true written
  | repeated element =>
    [.plain "Array.from(\x7b length: ", .name .readLater "faker",
      .plain ".number.int(\x7b min: 1, max: 3 \x7d) \x7d, () => "] ++ element.pieces ++ [.plain ")"]
  | maybe value =>
    [.name .readLater "faker", .plain ".datatype.boolean() ? "] ++ value.pieces
      ++ [.plain " : null"]
  | other => wordPieces false other.render

private theorem MockExpr.text_pieces (e : MockExpr) : Line.text e.pieces = e.render := by
  rw [← String.toList_inj]
  induction e with
  | repeated _ ih =>
    unfold pieces render repeatText
    simp [ih]
  | maybe _ ih =>
    unfold pieces render
    simp [ih]
  | verbatim written => exact congrArg String.toList (text_wordPieces true written)
  | _ => exact congrArg String.toList (text_wordPieces false _)

def Terminal.pieces : Terminal → Line
  | null => [.plain "null"]
  | emptyList => [.plain "[]"]
  | stub idField value => [.plain ("\x7b " ++ idField ++ ": ")] ++ value.pieces ++ [.plain " \x7d"]

private theorem Terminal.text_pieces (t : Terminal) : Line.text t.pieces = t.render := by
  cases t with
  | null | emptyList => rfl
  | stub idField value =>
    unfold pieces render
    simp [MockExpr.text_pieces, String.append_assoc]

/-- The arguments of a call as they are written. -/
def FactoryCall.argumentText (call : FactoryCall) : String :=
  let count := toString listLength
  match call.passes, call.isBatch with
  | some bound, true => "(" ++ count ++ ", undefined, depth + 1, " ++ bound.render ++ ")"
  | some bound, false => "(undefined, depth + 1, " ++ bound.render ++ ")"
  | none, true => "(" ++ count ++ ")"
  | none, false => "()"

/-- The factory that is called. -/
def FactoryCall.callee (call : FactoryCall) : String :=
  if call.isBatch then batchName call.target else factoryName call.target

def FactoryCall.pieces (call : FactoryCall) : Line :=
  [.name .readLater call.callee, .plain call.argumentText]

private theorem FactoryCall.text_pieces (call : FactoryCall) :
    Line.text call.pieces = call.render := by
  obtain ⟨target, isBatch, passes⟩ := call
  unfold pieces callee argumentText render
  cases isBatch <;> cases passes <;> simp [String.append_assoc]

def RelationExpr.pieces : RelationExpr → Line
  | terminal value => value.pieces
  | expand bound call otherwise =>
    [.plain ("depth < " ++ bound.render ++ " ? ")] ++ call.pieces ++ [.plain " : "]
      ++ otherwise.pieces

private theorem RelationExpr.text_pieces (e : RelationExpr) : Line.text e.pieces = e.render := by
  unfold pieces render
  cases e with
  | terminal value => exact value.text_pieces
  | expand bound call otherwise =>
    simp [FactoryCall.text_pieces, Terminal.text_pieces, String.append_assoc]

def MemberExpr.pieces : MemberExpr → Line
  | sourced _ value => value.pieces
  | declared value => value.pieces
  | relation value => value.pieces

private theorem MemberExpr.text_pieces (e : MemberExpr) : Line.text e.pieces = e.render := by
  cases e with
  | sourced _ value => exact value.text_pieces
  | declared value => exact value.text_pieces
  | relation value => exact value.text_pieces

end Expressions

section Schemas

/-- The declaration of a type that a schema infers. -/
def typeLinePieces (name schema : String) : Line :=
  [.plain "export type ", .name .type name, .plain " = ", .name .inType "z",
    .plain ".infer<typeof ", .name .typeOf schema, .plain ">;"]

private theorem text_typeLinePieces (name schema : String) :
    Line.text (typeLinePieces name schema) = ModelSchema.typeLine name schema := by
  unfold typeLinePieces ModelSchema.typeLine
  simp [← String.toList_inj]

/-- A named value among others. -/
def memberLine (indent : String) (name : String) (value : Line) (close : String) : Line :=
  [.plain (indent ++ name ++ ": ")] ++ value ++ [.plain close]

private theorem text_memberLine (indent name : String) (value : Line) (close : String) :
    Line.text (memberLine indent name value close) = indent ++ name ++ ": " ++ value.text ++ close := by
  simp [memberLine, String.append_assoc]

/-- A constant that is made of another one at once. -/
def derivedLine (name source rest : String) : Line :=
  [.plain "export const ", .name .constant name, .plain " = ", .name .readNow source, .plain rest]

namespace ModelSchema

def objectStatements (s : ModelSchema) : List Statement :=
  ⟨[[.plain "export const ", .name .constant (s.model ++ "Schema"), .plain " = ", zodNow,
      .plain ".object(\x7b"]]
    ++ s.members.map (fun (name, schema) => memberLine "  " name schema.pieces ",")
    ++ [[.plain "\x7d);"]]⟩
    :: if s.declaresTypes then [⟨[[], typeLinePieces s.model (s.model ++ "Schema")]⟩] else []

def inputStatements (s : ModelSchema) : List Statement :=
  match s.inputOmits with
  | none => []
  | some omits =>
    let keys := ", ".intercalate (omits.map fun key => key ++ ": true")
    let picked := if omits.isEmpty then "" else ".omit(\x7b " ++ keys ++ " \x7d)"
    [⟨[[], derivedLine (s.model ++ "CreateInputSchema") (s.model ++ "Schema") (picked ++ ";")]⟩,
      ⟨[derivedLine (s.model ++ "UpdateInputSchema") (s.model ++ "CreateInputSchema")
        ".partial();"]⟩]
      ++ if s.declaresTypes then
          [⟨[typeLinePieces (s.model ++ "CreateInput") (s.model ++ "CreateInputSchema")]⟩,
            ⟨[typeLinePieces (s.model ++ "UpdateInput") (s.model ++ "UpdateInputSchema")]⟩]
        else []

def partialStatements (s : ModelSchema) : List Statement :=
  if s.hasPartial then
    ⟨[[], derivedLine (s.model ++ "PartialSchema") (s.model ++ "Schema") ".partial();"]⟩
      :: if s.declaresTypes then
          [⟨[typeLinePieces (s.model ++ "Partial") (s.model ++ "PartialSchema")]⟩]
        else []
  else []

def statements (s : ModelSchema) : List Statement :=
  s.objectStatements ++ s.inputStatements ++ s.partialStatements

end ModelSchema

/-- The texts of the lines of some statements. -/
def lineTexts (statements : List Statement) : List String :=
  (statements.flatMap (·.lines)).map Line.text

@[simp] theorem lineTexts_nil : lineTexts [] = [] := rfl

@[simp] private theorem lineTexts_cons (s : Statement) (rest : List Statement) :
    lineTexts (s :: rest) = s.lines.map Line.text ++ lineTexts rest := by
  rw [lineTexts, List.flatMap_cons, List.map_append, lineTexts]

@[simp] private theorem lineTexts_append (front back : List Statement) :
    lineTexts (front ++ back) = lineTexts front ++ lineTexts back := by
  rw [lineTexts, List.flatMap_append, List.map_append, lineTexts, lineTexts]

namespace ModelSchema

private theorem lineTexts_objectStatements (s : ModelSchema) :
    lineTexts s.objectStatements = s.objectLines := by
  unfold objectStatements objectLines
  cases s.declaresTypes <;>
    simp [text_typeLinePieces, zodNow, text_memberLine, SchemaExpr.text_pieces, Function.comp_def,
      ← String.toList_inj]

private theorem lineTexts_inputStatements (s : ModelSchema) :
    lineTexts s.inputStatements = s.inputLines := by
  unfold inputStatements inputLines derivedLine
  cases s.inputOmits <;> cases s.declaresTypes <;>
    simp [text_typeLinePieces, ← String.toList_inj]

private theorem lineTexts_partialStatements (s : ModelSchema) :
    lineTexts s.partialStatements = s.partialLines := by
  unfold partialStatements partialLines derivedLine
  cases s.hasPartial <;> cases s.declaresTypes <;>
    simp [text_typeLinePieces, ← String.toList_inj]

private theorem lineTexts_statements (s : ModelSchema) :
    lineTexts s.statements = s.objectLines ++ s.inputLines ++ s.partialLines := by
  rw [statements, lineTexts_append, lineTexts_append, lineTexts_objectStatements,
    lineTexts_inputStatements, lineTexts_partialStatements]

end ModelSchema

/-- The object of the values of an enum, and the union of them. -/
def enumStatements (e : EnumType) : List Statement :=
  [⟨[[.plain "export const ", .name .constant e.name, .plain " = \x7b"]]
      ++ e.valueNames.map (fun value => [.plain ("  " ++ value ++ ": " ++ quote value ++ ",")])
      ++ [[.plain "\x7d as const;"]]⟩,
    ⟨[[], [.plain "export type ", .name .type e.name, .plain " = (typeof ", .name .typeOf e.name,
      .plain ")[keyof typeof ", .name .typeOf e.name, .plain "];"]]⟩]

private theorem intercalate_lineTexts_enumStatements (e : EnumType) :
    "\n".intercalate (lineTexts (enumStatements e)) = renderEnum e := by
  refine congrArg "\n".intercalate ?_
  unfold enumStatements
  simp [Function.comp_def, ← String.toList_inj]

end Schemas

section Factories

namespace ModelFactory

def aliasStatements (f : ModelFactory) : List Statement :=
  match f.mockAlias with
  | none => []
  | some a =>
    [⟨[[.plain "export type ", .name .type (f.model ++ "Mock"), .plain " = "] ++ a.base.pieces
        ++ [.plain " & \x7b"]]
      ++ a.relations.map (fun (name, type) => memberLine "  " name type.pieces ";")
      ++ [[.plain "\x7d;"], []]⟩]

def singleStatement (f : ModelFactory) : Statement :=
  let depth := match f.maxDepth with
    | some bound => ", depth: number = 0, maxDepth: number = " ++ toString bound.toNat
    | none => ""
  ⟨[[.plain "export const ", .name .constant (factoryName f.model),
        .plain " = (overrides?: Partial<"] ++ f.returns.pieces ++ [.plain (">" ++ depth ++ "): ")]
        ++ f.returns.pieces ++ [.plain " => \x7b"],
      [.plain "  return \x7b"]]
    ++ f.members.map (fun (name, value) => memberLine "    " name value.pieces ",")
    ++ [[.plain "    ...overrides,"], [.plain "  \x7d;"], [.plain "\x7d;"], []]⟩

def batchStatement (f : ModelFactory) : Statement :=
  let overrides (rest : String) : Line :=
    [.plain "  overrides?: Partial<"] ++ f.returns.pieces ++ [.plain (">" ++ rest)]
  let (parameters, arguments) := match f.maxDepth with
    | some bound =>
      ([overrides ",", [.plain "  depth: number = 0,"],
        [.plain ("  maxDepth: number = " ++ toString bound.toNat)]], "overrides, depth, maxDepth")
    | none => ([overrides ""], "overrides")
  ⟨[[.plain "export const ", .name .constant (batchName f.model), .plain " = ("],
      [.plain "  count: number = 10,"]]
    ++ parameters
    ++ [[.plain "): "] ++ f.returns.pieces ++ [.plain "[] => \x7b"],
      [.plain "  return Array.from(\x7b length: count \x7d, () => ",
        .name .readLater (factoryName f.model), .plain ("(" ++ arguments ++ "));")],
      [.plain "\x7d;"]]⟩

def validatedName (model : String) : String :=
  "createValidated" ++ model ++ "Mock"

def validatedStatements (f : ModelFactory) : List Statement :=
  match f.validated with
  | none => []
  | some type =>
    [⟨[[], [.plain "export const ", .name .constant (validatedName f.model),
        .plain " = (overrides?: Partial<"] ++ f.returns.pieces ++ [.plain ">): "] ++ type.pieces
        ++ [.plain " => \x7b"],
      [.plain "  return ", .name .readLater (f.model ++ "Schema"), .plain ".parse(",
        .name .readLater (factoryName f.model), .plain "(overrides));"],
      [.plain "\x7d;"]]⟩]

def statements (f : ModelFactory) : List Statement :=
  f.aliasStatements ++ [f.singleStatement, f.batchStatement] ++ f.validatedStatements

private theorem lineTexts_aliasStatements (f : ModelFactory) :
    lineTexts f.aliasStatements = f.aliasLines := by
  unfold aliasStatements aliasLines
  cases f.mockAlias <;>
    simp [TypeRef.text_pieces, text_memberLine, RelationType.text_pieces, Function.comp_def,
      ← String.toList_inj]

private theorem lineTexts_singleStatement (f : ModelFactory) :
    f.singleStatement.lines.map Line.text = f.singleLines := by
  unfold singleStatement singleLines
  cases f.maxDepth <;>
    simp [TypeRef.text_pieces, text_memberLine, MemberExpr.text_pieces, Function.comp_def,
      ← String.toList_inj]

private theorem lineTexts_batchStatement (f : ModelFactory) :
    f.batchStatement.lines.map Line.text = f.batchLines := by
  unfold batchStatement batchLines
  cases f.maxDepth <;> simp [TypeRef.text_pieces, ← String.toList_inj]

private theorem lineTexts_validatedStatements (f : ModelFactory) :
    lineTexts f.validatedStatements = f.validatedLines := by
  unfold validatedStatements validatedLines validatedName
  cases f.validated <;> simp [TypeRef.text_pieces, ← String.toList_inj]

private theorem lineTexts_statements (f : ModelFactory) :
    lineTexts f.statements = f.aliasLines ++ f.singleLines ++ f.batchLines ++ f.validatedLines := by
  simp only [statements, lineTexts_append, lineTexts_cons, lineTexts_nil, List.append_nil,
    lineTexts_aliasStatements, lineTexts_singleStatement, lineTexts_batchStatement,
    lineTexts_validatedStatements, List.append_assoc]

end ModelFactory

end Factories

section Files

def ImportedName.pieces (name : ImportedName) : Line :=
  if name.exported = name.localName then [.name .imported name.localName]
  else [.plain (name.exported ++ " as "), .name .imported name.localName]

def Import.pieces (i : Import) : Line :=
  [.plain "import \x7b "] ++ List.intercalate [.plain ", "] (i.names.map ImportedName.pieces)
    ++ [.plain (" \x7d from '" ++ i.module ++ "';")]

def Section.statements : Section → List Statement
  | imports list => list.map fun i => ⟨[i.pieces]⟩
  | seed value => [⟨[[.name .readNow "faker", .plain (".seed(" ++ toString value.toNat ++ ");")]]⟩]
  | heading title => [⟨[[.plain ("// ===== " ++ title ++ " =====")]]⟩]
  | enum e => enumStatements e
  | schema s => s.statements
  | factory f => f.statements
  | exportFaker => [⟨[[.plain "export \x7b ", .name .reexported "faker", .plain " \x7d;"]]⟩]
  | reexports modules => modules.map fun m => ⟨[[.plain ("export * from '" ++ m ++ "';")]]⟩

def SourceFile.statements (file : SourceFile) : List Statement :=
  file.sections.flatMap Section.statements

def SourceFile.pieces (file : SourceFile) : List Piece :=
  file.statements.flatMap Statement.pieces

/-- The lines of some statements as they are written. -/
def textOf (statements : List Statement) : String :=
  "\n".intercalate (lineTexts statements)

private theorem ImportedName.text_pieces (name : ImportedName) :
    Line.text name.pieces = Import.nameText name := by
  unfold pieces Import.nameText
  split
  · rename_i h
    simp [h]
  · simp [String.append_assoc]

private theorem text_intercalate (sep : String) (lines : List Line) :
    Line.text (List.intercalate [.plain sep] lines) = sep.intercalate (lines.map Line.text) := by
  induction lines with
  | nil => rfl
  | cons line rest ih =>
    cases rest with
    | nil => simp
    | cons next rest => simp [ih, String.append_assoc]

private theorem Import.text_pieces (i : Import) : Line.text i.pieces = i.render := by
  have hnames : (i.names.map ImportedName.pieces).map Line.text = i.names.map nameText := by
    rw [List.map_map]
    exact List.map_congr_left fun name _ => name.text_pieces
  unfold pieces render
  simp only [Line.text_append, text_intercalate, hnames]
  simp [String.append_assoc]

private theorem lineTexts_map {α : Type} (line : α → Line) (items : List α) :
    lineTexts (items.map fun item => ⟨[line item]⟩) = items.map fun item => Line.text (line item) := by
  rw [lineTexts, List.flatMap_map, ← List.map_eq_flatMap, List.map_map]
  rfl

private theorem Section.textOf_statements (s : Section) : textOf s.statements = s.render := by
  cases s with
  | imports list =>
    refine congrArg "\n".intercalate ?_
    rw [statements, lineTexts_map]
    exact List.map_congr_left fun i _ => i.text_pieces
  | enum e => exact intercalate_lineTexts_enumStatements e
  | schema s => exact congrArg "\n".intercalate s.lineTexts_statements
  | factory f => exact congrArg "\n".intercalate f.lineTexts_statements
  | reexports modules =>
    refine congrArg "\n".intercalate ?_
    rw [statements, lineTexts_map]
    simp
  | _ => simp [textOf, statements, render, ← String.toList_inj]

/-- The statements of the sections as they are written, blank sections left out. -/
def SourceFile.text (file : SourceFile) : String :=
  "\n\n".intercalate ((file.sections.map fun s => textOf s.statements).filter fun text =>
    !Text.isBlankText text) ++ "\n"

theorem SourceFile.contents_eq (file : SourceFile) : file.contents = file.text := by
  rw [contents, List.map_congr_left fun s _ => s.textOf_statements.symm, text]

end Files

end SchemaMocks.TypeScript
