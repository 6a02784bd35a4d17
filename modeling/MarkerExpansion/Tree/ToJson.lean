import MarkerExpansion.Tree.Basic

/-!
Writing syntax trees as JSON.
-/

namespace MarkerExpansion

def Span.toJson (span : Span) : Json :=
  .ofMembers [("start", .ofNat span.start), ("end", .ofNat span.stop)]

namespace Form

/-- The values of a list, with `null` in its empty places. -/
def fillPlaces : List Bool → List Json → List Json
  | [], _ => []
  | false :: places, values => .null :: fillPlaces places values
  | true :: places, value :: values => value :: fillPlaces places values
  | true :: places, [] => .null :: fillPlaces places []

/-- The members that hold the children, given the children in order. -/
def childMembers : List (String × Shape) → List Json → List (String × Json)
  | [], _ => []
  | (key, .one) :: layout, values =>
    (key, values.headD .null) :: childMembers layout values.tail
  | (key, .many places) :: layout, values =>
    (key, .array (fillPlaces places values)) ::
      childMembers layout (values.drop (places.count true))

/-- The object of a node with the given children. -/
def toJson (form : Form) (children : List Json) : Json :=
  .ofMembers <|
    (form.kind.toList.map fun kind => ("type", .ofString kind))
      ++ (form.span.toList.map fun span => ("span", span.toJson))
      ++ form.attributes ++ childMembers form.layout children

end Form

/-- The object of a node of type `kind`. -/
def Json.ofNode (kind : String) (span : Span) (members : List (String × Json)) : Json :=
  .ofMembers (("type", .ofString kind) :: ("span", span.toJson) :: members)

/-- The members of an identifier that can refer to a binding, its type and span apart. -/
def Ident.members (identifier : Ident) : List (String × Json) :=
  [("ctxt", .ofNat identifier.symbol.context), ("value", .ofString identifier.symbol.name),
   ("optional", .bool identifier.optional)]

namespace Node

mutual

def toJson : Node → Json
  | .ident identifier => .ofNode "Identifier" identifier.span identifier.members
  | .binder identifier none =>
    .ofNode "Identifier" identifier.span (("typeAnnotation", .null) :: identifier.members)
  | .binder identifier (some typing) =>
    .ofNode "Identifier" identifier.span
      (("typeAnnotation", typing.toJson) :: identifier.members)
  | .word span name => .ofNode "Identifier" span [("value", .ofString name)]
  | .call span context callee arguments none =>
    .ofNode "CallExpression" span
      [("ctxt", .ofNat context), ("callee", callee.toJson),
       ("arguments", .array (toJsonOf arguments)), ("typeArguments", .null)]
  | .call span context callee arguments (some typeArguments) =>
    .ofNode "CallExpression" span
      [("ctxt", .ofNat context), ("callee", callee.toJson),
       ("arguments", .array (toJsonOf arguments)), ("typeArguments", typeArguments.toJson)]
  | .argument spread value =>
    .ofMembers [("spread", spread.elim .null Span.toJson), ("expression", value.toJson)]
  | .member span object property =>
    .ofNode "MemberExpression" span [("object", object.toJson), ("property", property.toJson)]
  | .paren span inner => .ofNode "ParenthesisExpression" span [("expression", inner.toJson)]
  | .exprStmt span expression =>
    .ofNode "ExpressionStatement" span [("expression", expression.toJson)]
  | .varDecl span header declarators =>
    .ofNode "VariableDeclaration" span
      [("ctxt", .ofNat header.context), ("kind", .ofString header.kind),
       ("declare", .bool header.declare), ("declarations", .array (toJsonOf declarators))]
  | .declarator span definite pattern none =>
    .ofNode "VariableDeclarator" span
      [("definite", .bool definite), ("id", pattern.toJson), ("init", .null)]
  | .declarator span definite pattern (some init) =>
    .ofNode "VariableDeclarator" span
      [("definite", .bool definite), ("id", pattern.toJson), ("init", init.toJson)]
  | .exportDecl span declaration =>
    .ofNode "ExportDeclaration" span [("declaration", declaration.toJson)]
  | .importDecl decl => decl.json
  | .block span (.statement context) items =>
    .ofNode "BlockStatement" span
      [("ctxt", .ofNat context), ("stmts", .array (toJsonOf items))]
  | .block span .namespaceBody items =>
    .ofNode "TsModuleBlock" span [("body", .array (toJsonOf items))]
  | .switchCase span none items =>
    .ofNode "SwitchCase" span [("test", .null), ("consequent", .array (toJsonOf items))]
  | .switchCase span (some test) items =>
    .ofNode "SwitchCase" span [("test", test.toJson), ("consequent", .array (toJsonOf items))]
  | .other form children => form.toJson (toJsonOf children)

def toJsonOf : List Node → List Json
  | [] => []
  | node :: nodes => node.toJson :: toJsonOf nodes

end

end Node

def Program.toJson (program : Program) : Json :=
  let kind := match program.kind with
    | .module => "Module"
    | .script => "Script"
  .ofNode kind program.span
    [("interpreter", program.interpreter.elim .null .ofString),
     ("body", .array (Node.toJsonOf program.body))]

end MarkerExpansion
