/-
  ScriptDiagnosis/Script/Fault.lean
  =================================
  What can be wrong with a script.  A complaint is a cause; its wording lives in
  one function.  A fault is a complaint with the place at which it is reported.
-/
import ScriptDiagnosis.Text.Basic

namespace ScriptDiagnosis.Script

inductive Complaint
  | unexpectedToken (value : String)
  | unexpectedNothing                  -- an import or export declaration
  | unexpectedEnd
  | unexpectedIdentifier
  | unexpectedNumber
  | unexpectedString
  | unexpectedTemplate (raw : String)
  | unexpectedReserved
  | illegal                            -- no token begins, or goes on, here
  | escapedKeyword
  | badHexEscape
  | octalInTemplate
  | unclosedPattern
  | badPattern
  | strictReserved
  | strictOctal
  | strictDelete
  | strictWith
  | strictFunctionName
  | strictParameterName
  | strictParameterTwice
  | strictVariableName
  | strictCatchName
  | strictAssignment
  | strictPrefixOperand
  | strictPostfixOperand
  | strictFunctionPlace
  | directiveAfterPatterns             -- "use strict" where the parameters are not plain names
  | badTarget
  | badForInTarget
  | badForOfTarget
  | forInInitialised
  | missingInitialiser
  | letBinding
  | protoTwice
  | getterParameters
  | setterParameters
  | setterRest
  | restInitialised
  | restNotLast
  | importArguments
  | restPropertyNotLast
  | constructorAsync
  | constructorSpecial
  | constructorTwice
  | staticPrototype
  | generatorLabelled
  | labelTwice (name : String)
  | labelUnknown (name : String)
  | bindingTwice (name : String)
  | strayBreak
  | strayContinue
  | strayReturn
  | throwLineBreak
  | tryAlone
  | defaultTwice
  deriving DecidableEq, Repr

def Complaint.text : Complaint → String
  | .unexpectedToken v => "Unexpected token " ++ v
  | .unexpectedNothing => "Unexpected token"
  | .unexpectedEnd => "Unexpected end of input"
  | .unexpectedIdentifier => "Unexpected identifier"
  | .unexpectedNumber => "Unexpected number"
  | .unexpectedString => "Unexpected string"
  | .unexpectedTemplate raw => "Unexpected quasi " ++ raw
  | .unexpectedReserved => "Unexpected reserved word"
  | .illegal => "Unexpected token ILLEGAL"
  | .escapedKeyword => "Keyword must not contain escaped characters"
  | .badHexEscape => "Invalid hexadecimal escape sequence"
  | .octalInTemplate => "Octal literals are not allowed in template strings."
  | .unclosedPattern => "Invalid regular expression: missing /"
  | .badPattern => "Invalid regular expression"
  | .strictReserved => "Use of future reserved word in strict mode"
  | .strictOctal => "Octal literals are not allowed in strict mode."
  | .strictDelete => "Delete of an unqualified identifier in strict mode."
  | .strictWith => "Strict mode code may not include a with statement"
  | .strictFunctionName => "Function name may not be eval or arguments in strict mode"
  | .strictParameterName => "Parameter name eval or arguments is not allowed in strict mode"
  | .strictParameterTwice =>
    "Strict mode function may not have duplicate parameter names"
  | .strictVariableName => "Variable name may not be eval or arguments in strict mode"
  | .strictCatchName => "Catch variable may not be eval or arguments in strict mode"
  | .strictAssignment => "Assignment to eval or arguments is not allowed in strict mode"
  | .strictPrefixOperand =>
    "Prefix increment/decrement may not have eval or arguments operand in strict mode"
  | .strictPostfixOperand =>
    "Postfix increment/decrement may not have eval or arguments operand in strict mode"
  | .strictFunctionPlace =>
    "In strict mode code, functions can only be declared at top level or inside a block"
  | .directiveAfterPatterns =>
    "Illegal 'use strict' directive in function with non-simple parameter list"
  | .badTarget => "Invalid left-hand side in assignment"
  | .badForInTarget => "Invalid left-hand side in for-in"
  | .badForOfTarget => "Invalid left-hand side in for-loop"
  | .forInInitialised => "for-in loop variable declaration may not have an initializer"
  | .missingInitialiser => "Missing initializer in const declaration"
  | .letBinding => "let is disallowed as a lexically bound name"
  | .protoTwice => "Duplicate __proto__ fields are not allowed in object literals"
  | .getterParameters => "Getter must not have any formal parameters"
  | .setterParameters => "Setter must have exactly one formal parameter"
  | .setterRest => "Setter function argument must not be a rest parameter"
  | .restInitialised => "Unexpected token ="
  | .restNotLast => "Rest parameter must be last formal parameter"
  | .importArguments => "Unexpected token"
  | .restPropertyNotLast => "Unexpected token"
  | .constructorAsync => "Class constructor may not be an async method"
  | .constructorSpecial => "Class constructor may not be an accessor"
  | .constructorTwice => "A class may only have one constructor"
  | .staticPrototype => "Classes may not have static property named prototype"
  | .generatorLabelled => "Generator declarations are not allowed in legacy contexts"
  | .labelTwice name => "Label '" ++ name ++ "' has already been declared"
  | .labelUnknown name => "Undefined label '" ++ name ++ "'"
  | .bindingTwice name => "Duplicate binding " ++ name
  | .strayBreak => "Illegal break statement"
  | .strayContinue => "Illegal continue statement"
  | .strayReturn => "Illegal return statement"
  | .throwLineBreak => "Illegal newline after throw"
  | .tryAlone => "Missing catch or finally after try"
  | .defaultTwice => "More than one default clause in switch statement"

/-- A complaint and the place at which it is reported.  Lines and columns count
    from one; a column may be less when a complaint is about a word of an earlier
    line than the one from which columns are being counted. -/
structure Fault where
  complaint : Complaint
  line : Nat
  column : Int
  deriving DecidableEq, Repr

/-- Why no program comes out of a source. -/
inductive Stop
  | fault (f : Fault)
  | tooDeep                -- constructs nest deeper than the grammar follows
  | headlessTemplate       -- an expression was asked for inside `${}` and there is none
  deriving DecidableEq, Repr

end ScriptDiagnosis.Script
