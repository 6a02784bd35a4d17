import MarkerExpansion.Json.Basic
import MarkerExpansion.Span

/-!
Syntax trees of modules and scripts.

The kinds of node that the expansion looks at have a constructor of their own. All others are one
constructor: they have children, which are walked in order, and a form, which is carried along.
-/

namespace MarkerExpansion

/-- An identifier that can refer to a binding. -/
structure Ident where
  symbol : Symbol
  span : Span
  optional : Bool
  deriving DecidableEq

/-- What an import brings into scope, under which local name. -/
inductive ImportSpecifier where
  /-- A single export. Without a renaming `imported` is `none`: both names are the same. -/
  | named (imported : Option String) (symbol : Symbol) (typeOnly : Bool)
  /-- The default export. -/
  | default (symbol : Symbol)
  /-- The module as a whole. -/
  | whole (symbol : Symbol)
  deriving DecidableEq

structure ImportDecl where
  span : Span
  source : String
  /-- Whether the import is of types only. -/
  typeOnly : Bool
  specifiers : List ImportSpecifier
  /-- The declaration as it was read, which is how it is written. -/
  json : Json

/-- What a variable declaration says besides its declarators. -/
structure VarHeader where
  kind : String
  declare : Bool
  context : Nat
  deriving DecidableEq

/-- The two kinds of statement list in braces. -/
inductive BlockKind where
  | statement (context : Nat)
  /-- The body of a namespace. -/
  | namespaceBody
  deriving DecidableEq

/-- How many children stand under a key of a node. -/
inductive Shape where
  | one
  /-- A list with the given places, of which those marked `false` are empty. -/
  | many (present : List Bool)
  deriving DecidableEq

/-- What a node holds besides its children, and under which keys these stand. -/
structure Form where
  /-- The type of the node; the function of a method has none. -/
  kind : Option String
  span : Option Span
  attributes : List (String × Json)
  /-- The keys that hold children, in the order of the children. -/
  layout : List (String × Shape)

/-- A syntax tree. -/
inductive Node where
  /-- An identifier in an expression or in a type. -/
  | ident (identifier : Ident)
  /-- An identifier that is declared or assigned to, and its type. -/
  | binder (identifier : Ident) (typing : Option Node)
  /-- A name that refers to no binding, such as that of a property. -/
  | word (span : Span) (name : String)
  /-- A function call. A call in an optional chain is not one. -/
  | call (span : Span) (context : Nat) (callee : Node) (arguments : List Node)
      (typeArguments : Option Node)
  /-- An argument of a call or an element of an array, with the span of the dots that spread it. -/
  | argument (spread : Option Span) (value : Node)
  | member (span : Span) (object property : Node)
  | paren (span : Span) (inner : Node)
  | exprStmt (span : Span) (expression : Node)
  | varDecl (span : Span) (header : VarHeader) (declarators : List Node)
  | declarator (span : Span) (definite : Bool) (pattern : Node) (init : Option Node)
  /-- A declaration with `export` in front. -/
  | exportDecl (span : Span) (declaration : Node)
  | importDecl (decl : ImportDecl)
  | block (span : Span) (kind : BlockKind) (items : List Node)
  | switchCase (span : Span) (test : Option Node) (items : List Node)
  | other (form : Form) (children : List Node)

/-- The two kinds of program. Only modules have imports and exports. -/
inductive ProgramKind where
  | module
  | script
  deriving DecidableEq

structure Program where
  kind : ProgramKind
  span : Span
  /-- The interpreter named in the first line. -/
  interpreter : Option String
  body : List Node

namespace Node

/-- The span of a node. An argument has that of its value, and a node that says none the dummy
one. -/
def span : Node → Span
  | .ident identifier => identifier.span
  | .binder identifier _ => identifier.span
  | .word span _ => span
  | .call span _ _ _ _ => span
  | .argument _ value => value.span
  | .member span _ _ => span
  | .paren span _ => span
  | .exprStmt span _ => span
  | .varDecl span _ _ => span
  | .declarator span _ _ _ => span
  | .exportDecl span _ => span
  | .importDecl decl => decl.span
  | .block span _ _ => span
  | .switchCase span _ _ => span
  | .other form _ => form.span.getD .dummy

/-- A node without the parentheses around it. -/
def stripParens : Node → Node
  | .paren _ inner => inner.stripParens
  | node => node

/-- Whether a node is an arrow function. -/
def isArrow : Node → Bool
  | .other form _ => form.kind = some "ArrowFunctionExpression"
  | _ => false

/-- Whether a node is a call that is not part of an optional chain. -/
def isCall : Node → Bool
  | .call .. => true
  | _ => false

end Node

end MarkerExpansion
