/-!
The order in which the children of a node are walked.

The order is that of the table, whatever the order in the source text: a class is walked from its
body to the class it extends, and a loop with its test at the end from the test to the body.
-/

namespace MarkerExpansion

/-- For each type of node, the keys under which its children stand, in the order in which they are
walked. Types with a constructor of their own are not listed. -/
def childKeys : List (String × List String) :=
  [("ArrayExpression", ["elements"]),
   ("ArrayPattern", ["elements", "typeAnnotation"]),
   ("ArrowFunctionExpression", ["params", "body", "typeParameters", "returnType"]),
   ("AssignmentExpression", ["left", "right"]),
   ("AssignmentPattern", ["left", "right"]),
   ("AssignmentPatternProperty", ["key", "value"]),
   ("AssignmentProperty", ["key", "value"]),
   ("AutoAccessor", ["key", "value", "typeAnnotation", "decorators"]),
   ("AwaitExpression", ["argument"]),
   ("BinaryExpression", ["left", "right"]),
   ("BreakStatement", ["label"]),
   ("CatchClause", ["param", "body"]),
   ("ClassDeclaration", ["identifier", "decorators", "body", "superClass", "typeParams",
     "superTypeParams", "implements"]),
   ("ClassExpression", ["identifier", "decorators", "body", "superClass", "typeParams",
     "superTypeParams", "implements"]),
   ("ClassMethod", ["key", "function"]),
   ("ClassProperty", ["key", "value", "typeAnnotation", "decorators"]),
   ("Computed", ["expression"]),
   ("ConditionalExpression", ["test", "consequent", "alternate"]),
   ("Constructor", ["key", "params", "body"]),
   ("ContinueStatement", ["label"]),
   ("Decorator", ["expression"]),
   ("DoWhileStatement", ["test", "body"]),
   ("ExportAllDeclaration", ["source", "with"]),
   ("ExportDefaultDeclaration", ["decl"]),
   ("ExportDefaultExpression", ["expression"]),
   ("ExportDefaultSpecifier", ["exported"]),
   ("ExportNamedDeclaration", ["specifiers", "source", "with"]),
   ("ExportNamespaceSpecifier", ["name"]),
   ("ExportSpecifier", ["orig", "exported"]),
   ("ForInStatement", ["left", "right", "body"]),
   ("ForOfStatement", ["left", "right", "body"]),
   ("ForStatement", ["init", "test", "update", "body"]),
   ("FunctionDeclaration", ["identifier", "params", "decorators", "body", "typeParameters",
     "returnType"]),
   ("FunctionExpression", ["identifier", "params", "decorators", "body", "typeParameters",
     "returnType"]),
   ("GetterProperty", ["key", "typeAnnotation", "body"]),
   ("IfStatement", ["test", "consequent", "alternate"]),
   ("JSXAttribute", ["name", "value"]),
   ("JSXClosingElement", ["name"]),
   ("JSXElement", ["opening", "children", "closing"]),
   ("JSXExpressionContainer", ["expression"]),
   ("JSXFragment", ["opening", "children", "closing"]),
   ("JSXMemberExpression", ["object", "property"]),
   ("JSXNamespacedName", ["namespace", "name"]),
   ("JSXOpeningElement", ["name", "attributes", "typeArguments"]),
   ("JSXSpreadChild", ["expression"]),
   ("KeyValuePatternProperty", ["key", "value"]),
   ("KeyValueProperty", ["key", "value"]),
   ("LabeledStatement", ["label", "body"]),
   ("MethodProperty", ["key", "params", "decorators", "body", "typeParameters", "returnType"]),
   ("NewExpression", ["callee", "arguments", "typeArguments"]),
   ("ObjectExpression", ["properties"]),
   ("ObjectPattern", ["properties", "typeAnnotation"]),
   ("OptionalChainingExpression", ["base"]),
   ("Parameter", ["decorators", "pat"]),
   ("PrivateMethod", ["key", "function"]),
   ("PrivateProperty", ["key", "value", "typeAnnotation", "decorators"]),
   ("RestElement", ["argument", "typeAnnotation"]),
   ("ReturnStatement", ["argument"]),
   ("SequenceExpression", ["expressions"]),
   ("SetterProperty", ["key", "thisParam", "param", "body"]),
   ("SpreadElement", ["arguments"]),
   ("StaticBlock", ["body"]),
   ("SuperPropExpression", ["obj", "property"]),
   ("SwitchStatement", ["discriminant", "cases"]),
   ("TaggedTemplateExpression", ["tag", "typeParameters", "template"]),
   ("TemplateLiteral", ["expressions", "types", "quasis"]),
   ("ThrowStatement", ["argument"]),
   ("TryStatement", ["block", "handler", "finalizer"]),
   ("TsArrayType", ["elemType"]),
   ("TsAsExpression", ["expression", "typeAnnotation"]),
   ("TsCallSignatureDeclaration", ["params", "typeAnnotation", "typeParams"]),
   ("TsConditionalType", ["checkType", "extendsType", "trueType", "falseType"]),
   ("TsConstAssertion", ["expression"]),
   ("TsConstructSignatureDeclaration", ["params", "typeAnnotation", "typeParams"]),
   ("TsConstructorType", ["params", "typeParams", "typeAnnotation"]),
   ("TsEnumDeclaration", ["id", "members"]),
   ("TsEnumMember", ["id", "init"]),
   ("TsExportAssignment", ["expression"]),
   ("TsExpressionWithTypeArguments", ["expression", "typeArguments"]),
   ("TsExternalModuleReference", ["expression"]),
   ("TsFunctionType", ["params", "typeParams", "typeAnnotation"]),
   ("TsGetterSignature", ["key", "typeAnnotation"]),
   ("TsImportCallOptions", ["with"]),
   ("TsImportEqualsDeclaration", ["id", "moduleRef"]),
   ("TsImportType", ["argument", "qualifier", "typeArguments", "attributes"]),
   ("TsIndexSignature", ["params", "typeAnnotation"]),
   ("TsIndexedAccessType", ["objectType", "indexType"]),
   ("TsInferType", ["typeParam"]),
   ("TsInstantiation", ["expression", "typeArguments"]),
   ("TsInterfaceBody", ["body"]),
   ("TsInterfaceDeclaration", ["id", "typeParams", "extends", "body"]),
   ("TsIntersectionType", ["types"]),
   ("TsLiteralType", ["literal"]),
   ("TsMappedType", ["typeParam", "nameType", "typeAnnotation"]),
   ("TsMethodSignature", ["key", "params", "typeAnn", "typeParams"]),
   ("TsModuleDeclaration", ["id", "body"]),
   ("TsNamespaceDeclaration", ["id", "body"]),
   ("TsNamespaceExportDeclaration", ["id"]),
   ("TsNonNullExpression", ["expression"]),
   ("TsOptionalType", ["typeAnnotation"]),
   ("TsParameterProperty", ["decorators", "param"]),
   ("TsParenthesizedType", ["typeAnnotation"]),
   ("TsPropertySignature", ["key", "typeAnnotation"]),
   ("TsQualifiedName", ["left", "right"]),
   ("TsRestType", ["typeAnnotation"]),
   ("TsSatisfiesExpression", ["expression", "typeAnnotation"]),
   ("TsSetterSignature", ["key", "param"]),
   ("TsTupleElement", ["label", "ty"]),
   ("TsTupleType", ["elemTypes"]),
   ("TsTypeAliasDeclaration", ["id", "typeParams", "typeAnnotation"]),
   ("TsTypeAnnotation", ["typeAnnotation"]),
   ("TsTypeAssertion", ["expression", "typeAnnotation"]),
   ("TsTypeLiteral", ["members"]),
   ("TsTypeOperator", ["typeAnnotation"]),
   ("TsTypeParameter", ["name", "constraint", "default"]),
   ("TsTypeParameterDeclaration", ["parameters"]),
   ("TsTypeParameterInstantiation", ["params"]),
   ("TsTypePredicate", ["paramName", "typeAnnotation"]),
   ("TsTypeQuery", ["exprName", "typeArguments"]),
   ("TsTypeReference", ["typeName", "typeParams"]),
   ("TsUnionType", ["types"]),
   ("UnaryExpression", ["argument"]),
   ("UpdateExpression", ["argument"]),
   ("UsingDeclaration", ["decls"]),
   ("WhileStatement", ["test", "body"]),
   ("WithStatement", ["object", "body"]),
   ("YieldExpression", ["argument"])]

/-- The keys of the function of a method, which is a node without a type. -/
def functionKeys : List String :=
  ["params", "decorators", "body", "typeParameters", "returnType"]

/-- The keys under which a node of the given type has children. -/
def childKeysOf : Option String → List String
  | none => functionKeys
  | some kind => (childKeys.lookup kind).getD []

end MarkerExpansion
