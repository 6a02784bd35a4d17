import MarkerExpansion.Pattern.Failure
import MarkerExpansion.Span

/-!
What can go wrong in an expansion, and how it is reported.
-/

namespace MarkerExpansion

/-- The rule that was violated. -/
inductive Cause where
  /-- No reference list for the marker exists. -/
  | notImported
  /-- There is no such identifier or statement. -/
  | notFound
  /-- A marker stands in no expression statement. -/
  | noStatement
  /-- The expression statement around a marker is no item of a block or of the program. -/
  | outsideBlock
  /-- No variable declaration follows the marker call. -/
  | noDeclaration
  | severalDeclarators
  | noDeclarator
  | notFunctionShaped
  | notPlainCall
  | tooFewArguments
  | decoratorNotIdentifier
  /-- The text configured as source pattern is no pattern. -/
  | invalidPattern (text : String) (failure : Pattern.Failure)
  /-- A cause that a caller describes in its own words. -/
  | custom (message : String)
  deriving DecidableEq

def Cause.message : Cause → String
  | .notImported => "`decorate` is not imported from the macro"
  | .notFound => "Expression not found"
  | .noStatement => "ExpressionStatement not found"
  | .outsideBlock => "Decorator should be inside block or program"
  | .noDeclaration => "Can not find function to decorate"
  | .severalDeclarators => "One declaration should contain one declarator"
  | .noDeclarator => "Declaration has no declarator"
  | .notFunctionShaped =>
    "Decorated declaration should be initialized with an arrow function or a call expression"
  | .notPlainCall => "Decorator call should be a plain function call"
  | .tooFewArguments => "Decorator call should receive a decorator and at least one argument"
  | .decoratorNotIdentifier => "Decorator should be an identifier"
  | .invalidPattern text failure =>
    "Invalid macro source pattern `" ++ text ++ "`: " ++ failure.report text
  | .custom message => message

/-- A violated rule and the place in the source that violates it. -/
structure Error where
  span : Span
  cause : Cause
  deriving DecidableEq

inductive Severity where
  | error
  deriving DecidableEq

/-- A message for the user of a build. -/
structure Diagnostic where
  severity : Severity
  message : String
  /-- The places that the message is about. -/
  spans : List Span
  deriving DecidableEq

namespace Error

/-- The text that describes the error; the span is not part of it. -/
def message (error : Error) : String := error.cause.message

instance : ToString Error := ⟨message⟩

/-- An error is reported at its span, even if that span is the dummy one. -/
def diagnostic (error : Error) : Diagnostic :=
  { severity := .error, message := error.message, spans := [error.span] }

end Error

end MarkerExpansion
