import MarkerExpansion.Tree.Basic
import MarkerExpansion.Tree.Order

/-!
Reading syntax trees from JSON.

An object is read after the values in it. One with the members of a constructor's own becomes that
constructor, and any other a form with children: a member whose key is not listed for its type, or
whose value is no node, is kept as it stands.
-/

namespace MarkerExpansion

def Span.ofJson? (json : Json) : Option Span := do
  let start ← (← json.get? "start").nat?
  let stop ← (← json.get? "end").nat?
  return ⟨start, stop⟩

/-- A value as seen from the object around it. -/
inductive Part where
  /-- No node and no list. -/
  | value
  | node (node : Node)
  /-- A list, with `none` for the items that are no nodes. -/
  | list (items : List (Option Node))

/-- A member of an object. -/
structure Field where
  key : String
  json : Json
  part : Part

/-- The members of an object. -/
abbrev Fields := List Field

namespace Fields

/-- The first member called `key`. -/
def get? (fields : Fields) (key : String) : Option Field := fields.find? (·.key = key)

def has (fields : Fields) (key : String) : Bool := (fields.get? key).isSome

def text? (fields : Fields) (key : String) : Option String := do
  (← fields.get? key).json.text?

def bool? (fields : Fields) (key : String) : Option Bool := do
  (← fields.get? key).json.bool?

def nat? (fields : Fields) (key : String) : Option Nat := do
  (← fields.get? key).json.nat?

def span? (fields : Fields) (key : String) : Option Span := do
  Span.ofJson? (← fields.get? key).json

/-- The node under `key`. -/
def node? (fields : Fields) (key : String) : Option Node := do
  match (← fields.get? key).part with
  | .node node => some node
  | _ => none

/-- The node under `key`, where there may be none. -/
def optional? (fields : Fields) (key : String) : Option (Option Node) := do
  let field ← fields.get? key
  match field.part with
  | .node node => some (some node)
  | _ => if field.json.isNull then some none else none

/-- The nodes of the list under `key`, all of whose items are nodes. -/
def nodes? (fields : Fields) (key : String) : Option (List Node) := do
  match (← fields.get? key).part with
  | .list items => items.mapM id
  | _ => none

/-- The text under `key`, where there may be none. -/
def optionalText? (fields : Fields) (key : String) : Option (Option String) := do
  let json := (← fields.get? key).json
  if json.isNull then some none else json.text?.map some

/-- The object itself. -/
def json (fields : Fields) : Json := .ofMembers (fields.map fun field => (field.key, field.json))

end Fields

namespace ImportSpecifier

/-- The symbol of the identifier under the key `local`. -/
def localSymbol? (json : Json) : Option Symbol := do
  let ident ← json.get? "local"
  return ⟨← (← ident.get? "value").text?, ← (← ident.get? "ctxt").nat?⟩

def ofJson? (json : Json) : Option ImportSpecifier := do
  let symbol ← localSymbol? json
  match ← (← json.get? "type").text? with
  | "ImportDefaultSpecifier" => some (.default symbol)
  | "ImportNamespaceSpecifier" => some (.whole symbol)
  | "ImportSpecifier" =>
    let imported ← json.get? "imported"
    let name ← if imported.isNull then some none else (← imported.get? "value").text?.map some
    some (.named name symbol (← (← json.get? "isTypeOnly").bool?))
  | _ => none

end ImportSpecifier

namespace Node

/-- Reads the declaration of an import. -/
def importOfFields? (fields : Fields) : Option Node := do
  let source ← (← (← fields.get? "source").json.get? "value").text?
  let specifiers ← (← (← fields.get? "specifiers").json.items?).mapM ImportSpecifier.ofJson?
  return .importDecl
    { span := ← fields.span? "span"
      source
      typeOnly := ← fields.bool? "typeOnly"
      specifiers
      json := fields.json }

/-- Reads an identifier. One without a syntax context refers to no binding, and one that is
declared or assigned to has room for a type. -/
def identifierOfFields? (fields : Fields) : Option Node := do
  let span ← fields.span? "span"
  let name ← fields.text? "value"
  if fields.has "ctxt" then
    let identifier : Ident :=
      ⟨⟨name, ← fields.nat? "ctxt"⟩, span, ← fields.bool? "optional"⟩
    if fields.has "typeAnnotation" then
      return .binder identifier (← fields.optional? "typeAnnotation")
    else return .ident identifier
  else return .word span name

/-- Reads a node of a type that has a constructor of its own. -/
def ownOfFields? (kind : Option String) (fields : Fields) : Option Node := do
  match kind with
  | none =>
    let spread ← fields.get? "spread"
    return .argument (Span.ofJson? spread.json) (← fields.node? "expression")
  | some "Identifier" => identifierOfFields? fields
  | some "CallExpression" =>
    return .call (← fields.span? "span") (← fields.nat? "ctxt") (← fields.node? "callee")
      (← fields.nodes? "arguments") (← fields.optional? "typeArguments")
  | some "MemberExpression" =>
    return .member (← fields.span? "span") (← fields.node? "object") (← fields.node? "property")
  | some "ParenthesisExpression" =>
    return .paren (← fields.span? "span") (← fields.node? "expression")
  | some "ExpressionStatement" =>
    return .exprStmt (← fields.span? "span") (← fields.node? "expression")
  | some "VariableDeclaration" =>
    return .varDecl (← fields.span? "span")
      ⟨← fields.text? "kind", ← fields.bool? "declare", ← fields.nat? "ctxt"⟩
      (← fields.nodes? "declarations")
  | some "VariableDeclarator" =>
    return .declarator (← fields.span? "span") (← fields.bool? "definite") (← fields.node? "id")
      (← fields.optional? "init")
  | some "ExportDeclaration" =>
    return .exportDecl (← fields.span? "span") (← fields.node? "declaration")
  | some "ImportDeclaration" => importOfFields? fields
  | some "BlockStatement" =>
    return .block (← fields.span? "span") (.statement (← fields.nat? "ctxt"))
      (← fields.nodes? "stmts")
  | some "TsModuleBlock" =>
    return .block (← fields.span? "span") .namespaceBody (← fields.nodes? "body")
  | some "SwitchCase" =>
    return .switchCase (← fields.span? "span") (← fields.optional? "test")
      (← fields.nodes? "consequent")
  | _ => none

/-- The children under `key`, if it holds a node or a list. -/
def childrenUnder (fields : Fields) (key : String) : Option (Shape × List Node) := do
  match (← fields.get? key).part with
  | .node node => some (.one, [node])
  | .list items => some (.many (items.map Option.isSome), items.filterMap id)
  | .value => none

/-- A call in an optional chain, which is no function call of its own. -/
def asOptional : Node → Node
  | .call span context callee arguments typeArguments =>
    let places := arguments.map fun _ => true
    let attributes := [("ctxt", Json.ofNat context)]
    let layout := [("callee", Shape.one), ("arguments", Shape.many places)]
    match typeArguments with
    | some typeArguments =>
      .other ⟨some "CallExpression", some span, attributes,
          layout ++ [("typeArguments", Shape.one)]⟩
        (callee :: arguments ++ [typeArguments])
    | none =>
      .other ⟨some "CallExpression", some span, attributes ++ [("typeArguments", .null)], layout⟩
        (callee :: arguments)
  | node => node

/-- Reads a node as a form with children. -/
def formOfFields (kind : Option String) (fields : Fields) : Node :=
  let parts := (childKeysOf kind).filterMap fun key =>
    (childrenUnder fields key).map fun (shape, nodes) => (key, shape, nodes)
  let layout := parts.map fun (key, shape, _) => (key, shape)
  let children := parts.flatMap fun (_, _, nodes) => nodes
  let span := fields.span? "span"
  let attributes := fields.filterMap fun field =>
    if field.key = "type" || (field.key = "span" && span.isSome)
        || layout.any (·.1 = field.key) then none
    else some (field.key, field.json)
  .other { kind, span, attributes, layout }
    (if kind = some "OptionalChainingExpression" then children.map asOptional else children)

/-- The node that an object with the given members describes. -/
def ofFields (fields : Fields) : Node :=
  let kind := fields.text? "type"
  (ownOfFields? kind fields).getD (formOfFields kind fields)

end Node

mutual

/-- What a value is to the object around it. -/
def Part.ofJson : Json → Part
  | .object members => .node (Node.ofFields (Fields.ofMembers members))
  | .array items => .list (Part.nodesOf items)
  | _ => .value

/-- The items of a list that are nodes. -/
def Part.nodesOf : List Json → List (Option Node)
  | [] => []
  | item :: items =>
    match Part.ofJson item with
    | .node node => some node :: Part.nodesOf items
    | _ => none :: Part.nodesOf items

/-- The members of an object whose keys spell a text. -/
def Fields.ofMembers : List (Option String × Json) → Fields
  | [] => []
  | (some key, json) :: members => ⟨key, json, Part.ofJson json⟩ :: Fields.ofMembers members
  | (none, _) :: members => Fields.ofMembers members

end

/-- Reads a module or a script. -/
def Program.ofJson? : Json → Option Program
  | .object members => do
    let fields := Fields.ofMembers members
    let kind ← match ← fields.text? "type" with
      | "Module" => some ProgramKind.module
      | "Script" => some ProgramKind.script
      | _ => none
    return {
      kind
      span := ← fields.span? "span"
      interpreter := ← fields.optionalText? "interpreter"
      body := ← fields.nodes? "body" }
  | _ => none

end MarkerExpansion
