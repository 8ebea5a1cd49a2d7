import Quartz.Token.Basic
import Quartz.Value.Operator

/-!
# `Quartz.Fault`: what can go wrong while a script runs

A runtime error has a cause and the offset of the token at fault. Causes
are data: `Cause.code` gives the numeric code that hosts test for, and
`Cause.message` the wording, both in one place. A `Fault` is what a run
ends with: a runtime error, a plain error from a host function, or either
of them under a label that says where it happened.
-/

set_option autoImplicit false

namespace Quartz

/-- The codes of runtime errors. A host may report codes of its own. -/
inductive Code where
  | divisionByZero
  | arityMismatch
  | argumentType
  | invalidOperand
  | missingTerminator
  | unsupportedOperation
  | undefinedFunction
  | returnOutsideFunction
  | stackOverflow
  | invalidCondition
  | malformed
  | other (number : Int)
  deriving DecidableEq, Repr

namespace Code

/-- The codes in numeric order, from one. -/
def numbered : List Code :=
  [.divisionByZero, .arityMismatch, .argumentType, .invalidOperand, .missingTerminator,
    .unsupportedOperation, .undefinedFunction, .returnOutsideFunction, .stackOverflow,
    .invalidCondition, .malformed]

/-- The number of a code. -/
def number : Code → Int
  | .divisionByZero => 1
  | .arityMismatch => 2
  | .argumentType => 3
  | .invalidOperand => 4
  | .missingTerminator => 5
  | .unsupportedOperation => 6
  | .undefinedFunction => 7
  | .returnOutsideFunction => 8
  | .stackOverflow => 9
  | .invalidCondition => 10
  | .malformed => 11
  | .other n => n

/-- The code with a number. -/
def ofNumber (n : Int) : Code := (numbered.find? fun c => c.number = n).getD (.other n)

/-- The symbolic name of a code. -/
def name : Code → Bytes
  | .divisionByZero => utf8 "DIVISION_BY_ZERO"
  | .arityMismatch => utf8 "ARITY_MISMATCH"
  | .argumentType => utf8 "ARGUMENT_TYPE"
  | .invalidOperand => utf8 "INVALID_OPERAND"
  | .missingTerminator => utf8 "MISSING_TERMINATOR"
  | .unsupportedOperation => utf8 "UNSUPPORTED_OPERATION"
  | .undefinedFunction => utf8 "UNDEFINED_FUNCTION"
  | .returnOutsideFunction => utf8 "RETURN_OUTSIDE_FUNCTION"
  | .stackOverflow => utf8 "STACK_OVERFLOW"
  | .invalidCondition => utf8 "INVALID_CONDITION"
  | .malformed => utf8 "SYNTAX"
  | .other n => utf8 "ERROR_" ++ Bytes.ofInt n

end Code

/-- A way in which tokens fail to form a statement, a declaration or an
expression. -/
inductive Malformation where
  | lexical (t : Token)
  | assignmentTarget
  | elseWithoutIf
  | variablesOutsideClass
  | returnInVariables
  | expectedConditionParen
  | unbalancedCondition
  | expectedBrace
  | unbalancedBrace
  | leftover (literal : Bytes)
  | comparedAgain (literal : Bytes)
  | unexpectedKeyword (literal : Bytes)
  | unbalancedGroup
  | unbalancedCall (name : Bytes)
  | expectedFunction
  | expectedFunctionName
  | expectedParameterList
  | unbalancedParameterList
  | parameterForm
  | expectedFunctionBody
  | unbalancedFunctionBody
  | expectedClass
  | expectedClassName
  | expectedClassBody
  | unbalancedClassBody
  | expectedVariablesBlock
  | unbalancedVariablesBlock
  | duplicateVariablesBlock
  deriving DecidableEq, Repr

/-- The wording of a malformation. -/
def Malformation.message : Malformation → Bytes
  | .lexical t => t.complaint
  | .assignmentTarget => utf8 "assignment needs a variable name on the left"
  | .elseWithoutIf => utf8 "else without if"
  | .variablesOutsideClass => utf8 "variables block outside crystal"
  | .returnInVariables => utf8 "return inside variables block"
  | .expectedConditionParen => utf8 "expected ( after if"
  | .unbalancedCondition => utf8 "unbalanced parenthesis in condition"
  | .expectedBrace => utf8 "expected \x7b"
  | .unbalancedBrace => utf8 "unbalanced brace"
  | .leftover literal => utf8 "unexpected " ++ literal.quoted ++ utf8 " in expression"
  | .comparedAgain literal =>
    utf8 "comparison results cannot be compared again with " ++ literal.quoted
  | .unexpectedKeyword literal => utf8 "unexpected keyword " ++ literal
  | .unbalancedGroup => utf8 "unbalanced parenthesis"
  | .unbalancedCall name => utf8 "unbalanced parenthesis in call to " ++ name
  | .expectedFunction => utf8 "expected function"
  | .expectedFunctionName => utf8 "expected function name"
  | .expectedParameterList => utf8 "expected ( after function name"
  | .unbalancedParameterList => utf8 "unbalanced parenthesis in parameter list"
  | .parameterForm => utf8 "parameter must be declared as `type name`"
  | .expectedFunctionBody => utf8 "expected \x7b before function body"
  | .unbalancedFunctionBody => utf8 "unbalanced brace in function body"
  | .expectedClass => utf8 "expected crystal"
  | .expectedClassName => utf8 "expected class name"
  | .expectedClassBody => utf8 "expected \x7b after class name"
  | .unbalancedClassBody => utf8 "unbalanced brace in class body"
  | .expectedVariablesBlock => utf8 "expected \x7b after variables"
  | .unbalancedVariablesBlock => utf8 "unbalanced brace in variables block"
  | .duplicateVariablesBlock => utf8 "duplicate variables block"

/-- A place where a semicolon is missing. -/
inductive Unterminated where
  | before (literal : Bytes)
  | beforeReturn
  | beforeIf
  | assignment (name : Bytes)
  | ret
  | atEnd
  deriving DecidableEq, Repr

/-- The wording of a missing semicolon. -/
def Unterminated.message : Unterminated → Bytes
  | .before literal => utf8 "expected ; before " ++ literal.quoted
  | .beforeReturn => utf8 "expected ; before return"
  | .beforeIf => utf8 "expected ; before if"
  | .assignment name => utf8 "assignment to " ++ name ++ utf8 " is missing ;"
  | .ret => utf8 "return is missing ;"
  | .atEnd => utf8 "expected ; at end of input"

/-- An operand that is missing or means nothing. -/
inductive BadOperand where
  | missing
  | unexpected (literal : Bytes)
  | emptyGroup
  | emptyArgument (function : Bytes)
  | undefined (name : Bytes)
  | noValue (name : Bytes)
  | notBinary (literal : Bytes)
  deriving DecidableEq, Repr

/-- The wording of a bad operand. -/
def BadOperand.message : BadOperand → Bytes
  | .missing => utf8 "missing operand"
  | .unexpected literal => utf8 "unexpected " ++ literal.quoted
  | .emptyGroup => utf8 "empty parentheses"
  | .emptyArgument function => utf8 "empty argument in call to " ++ function
  | .undefined name => utf8 "undefined variable: " ++ name
  | .noValue name => utf8 "assignment to " ++ name ++ utf8 " has no value"
  | .notBinary literal => literal.quoted ++ utf8 " is not a binary operator"

/-- Why a run stops. -/
inductive Cause where
  | divisionByZero
  | arity (function : Bytes) (expected given : Nat)
  | argumentType (function parameter expected given : Bytes)
  | notAnInstance (given : Bytes)
  | operand (bad : BadOperand)
  | unterminated (place : Unterminated)
  | unsupported (operator : Operator) (type : Bytes)
  | unsupportedPair (operator : Operator) (left right : Bytes)
  | undefinedFunction (name : Bytes)
  | returnOutsideFunction
  | stackOverflow (depth limit : Nat)
  | emptyCondition
  | conditionType (given : Bytes)
  | malformed (form : Malformation)
  | reported (code : Code) (message : Bytes)
  deriving DecidableEq, Repr

namespace Cause

/-- The code of a cause. -/
def code : Cause → Code
  | .divisionByZero => .divisionByZero
  | .arity .. => .arityMismatch
  | .argumentType .. => .argumentType
  | .notAnInstance _ => .argumentType
  | .operand _ => .invalidOperand
  | .unterminated _ => .missingTerminator
  | .unsupported .. => .unsupportedOperation
  | .unsupportedPair .. => .unsupportedOperation
  | .undefinedFunction _ => .undefinedFunction
  | .returnOutsideFunction => .returnOutsideFunction
  | .stackOverflow .. => .stackOverflow
  | .emptyCondition => .invalidCondition
  | .conditionType _ => .invalidCondition
  | .malformed _ => .malformed
  | .reported code _ => code

/-- The wording of a cause. -/
def message : Cause → Bytes
  | .divisionByZero => utf8 "division by zero"
  | .arity function expected given =>
    utf8 "function " ++ function ++ utf8 " expects " ++ Bytes.ofNat expected ++
      utf8 " argument(s), got " ++ Bytes.ofNat given
  | .argumentType function parameter expected given =>
    utf8 "function " ++ function ++ utf8 ": parameter " ++ parameter ++ utf8 " expects " ++
      expected ++ utf8 ", got " ++ given
  | .notAnInstance given => utf8 "create expects a crystal instance, got " ++ given
  | .operand bad => bad.message
  | .unterminated place => place.message
  | .unsupported operator type =>
    utf8 "operator " ++ utf8 operator.name ++ utf8 " is not supported by " ++ type
  | .unsupportedPair operator left right =>
    utf8 "operator " ++ utf8 operator.name ++ utf8 " is not supported between " ++ left ++
      utf8 " and " ++ right
  | .undefinedFunction name => utf8 "undefined function: " ++ name
  | .returnOutsideFunction => utf8 "return outside function"
  | .stackOverflow depth limit =>
    utf8 "stack overflow: depth " ++ Bytes.ofNat depth ++ utf8 " exceeds maximum " ++
      Bytes.ofNat limit
  | .emptyCondition => utf8 "empty condition"
  | .conditionType given => utf8 "condition must be bool, got " ++ given
  | .malformed form => form.message
  | .reported _ message => message

end Cause

/-- A runtime error. A negative offset means that the place is unknown. -/
structure RuntimeError where
  cause : Cause
  offset : Int
  deriving DecidableEq, Repr

/-- A runtime error with its code, and its offset if known. -/
def RuntimeError.message (e : RuntimeError) : Bytes :=
  let head := utf8 "[" ++ Bytes.ofInt e.cause.code.number ++ utf8 " " ++ e.cause.code.name ++
    utf8 "] " ++ e.cause.message
  if 0 ≤ e.offset then head ++ utf8 " at offset " ++ Bytes.ofInt e.offset else head

/-- What a run can end with instead of a value. -/
inductive Fault where
  | runtime (e : RuntimeError)
  | plain (text : Bytes)
  | labelled (label : Bytes) (inner : Fault)
  deriving DecidableEq, Repr

namespace Fault

/-- The full text of a fault, labels in front. -/
def message : Fault → Bytes
  | .runtime e => e.message
  | .plain text => text
  | .labelled label inner => label ++ utf8 ": " ++ inner.message

/-- The runtime error under the labels, if there is one. -/
def runtime? : Fault → Option RuntimeError
  | .runtime e => some e
  | .plain _ => none
  | .labelled _ inner => inner.runtime?

/-- A runtime error without a place takes the given one. What stands under
a label keeps the place it has. -/
def placedAt (offset : Int) : Fault → Fault
  | .runtime e => if e.offset < 0 then .runtime { e with offset } else .runtime e
  | f => f

end Fault

end Quartz
