/-
Faults of source texts in the generated language.

A fault is a complaint and the line that it is reported for.
-/
import ApiTypes.Text.Class

namespace ApiTypes.Source

inductive Complaint where
  | invalid
  | expected (token : String)
  | missingComma
  | assignTo (what : String)
  | assignToHere (what : String)
  | comparison
  | keywordAssignment
  | deletes (what : String)
  | augments (what : String)
  | annotates
  | annotatesSeveral (what : String)
  /-- a starred expression in parentheses of its own -/
  | starredGroup (double : Bool)
  | namedTarget (what : String)
  | missingElse
  | missingDictValue
  | missingDictColon
  | starredComprehension
  | mixedLiterals
  | yieldTarget
  | severalExceptions
  | starredAfterKeywords
  /-- a statement that opens a block, the line where it stands, and no block after it -/
  | missingBlock (after : String) (line : Nat)
  | unexpectedIndent
  | unexpectedUnindent
  | unindentMismatch
  | mixedIndent
  | tooDeep
  | tooNested
  | character (c : Char)
  | unclosed (opening : Char)
  | unmatched (closing : Char)
  | mismatched (closing opening : Char) (line : Option Nat)
  | unterminated (line : Nat)
  | unterminatedTriple (line : Nat)
  | afterContinuation
  | endOfText
  | leadingZeros
  | invalidNumber (form : String)
  | invalidDigit (digit : Char) (form : String)
  | defaultOrder
  | trailingComma
  | afterKeywords (unpacking : Bool)
  | bareStar
  | missingHandler
  | generatorParentheses
  | legacyCall (name : String)
  | asciiBytes
  | escapeText (detail : String)
  | patternTarget
  | blankTarget
  | positionalPattern
  /-- a part of a complex number that has to be real, or must not be -/
  | complexPart (real : Bool)
  | nullCharacter
  deriving DecidableEq, Repr

/-- at least four upper-case hexadecimal digits -/
def codePointText (c : Char) : String :=
  let digits := (Nat.toDigits 16 c.toNat).map fun d => if 97 ≤ d.toNat then Char.ofNat (d.toNat - 32) else d
  String.ofList (List.replicate (4 - digits.length) '0' ++ digits)

def inQuotes (c : Char) : String := "'" ++ String.singleton c ++ "'"

def Complaint.message : Complaint → String
  | invalid => "invalid syntax"
  | expected token => "expected '" ++ token ++ "'"
  | missingComma => "invalid syntax. Perhaps you forgot a comma?"
  | assignTo what => "cannot assign to " ++ what
  | assignToHere what => "cannot assign to " ++ what ++ " here. Maybe you meant '==' instead of '='?"
  | comparison => "invalid syntax. Maybe you meant '==' or ':=' instead of '='?"
  | keywordAssignment => "expression cannot contain assignment, perhaps you meant \"==\"?"
  | deletes what => "cannot delete " ++ what
  | augments what => "'" ++ what ++ "' is an illegal expression for augmented assignment"
  | annotates => "illegal target for annotation"
  | annotatesSeveral what => "only single target (not " ++ what ++ ") can be annotated"
  | starredGroup double => "cannot use " ++ (if double then "double " else "") ++ "starred expression here"
  | namedTarget what => "cannot use assignment expressions with " ++ what
  | missingElse => "expected 'else' after 'if' expression"
  | missingDictValue => "expression expected after dictionary key and ':'"
  | missingDictColon => "':' expected after dictionary key"
  | starredComprehension => "iterable unpacking cannot be used in comprehension"
  | mixedLiterals => "cannot mix bytes and nonbytes literals"
  | yieldTarget => "assignment to yield expression not possible"
  | severalExceptions => "multiple exception types must be parenthesized"
  | starredAfterKeywords => "iterable argument unpacking follows keyword argument unpacking"
  | missingBlock after line => "expected an indented block after " ++ after ++ " on line " ++ toString line
  | unexpectedIndent => "unexpected indent"
  | unexpectedUnindent => "unexpected unindent"
  | unindentMismatch => "unindent does not match any outer indentation level"
  | mixedIndent => "inconsistent use of tabs and spaces in indentation"
  | tooDeep => "too many levels of indentation"
  | tooNested => "too many nested parentheses"
  | character c =>
    if Text.isPrintable c then "invalid character " ++ inQuotes c ++ " (U+" ++ codePointText c ++ ")"
    else "invalid non-printable character U+" ++ codePointText c
  | unclosed opening => inQuotes opening ++ " was never closed"
  | unmatched closing => "unmatched " ++ inQuotes closing
  | mismatched closing opening line =>
    "closing parenthesis " ++ inQuotes closing ++ " does not match opening parenthesis " ++ inQuotes opening ++
      match line with
      | some n => " on line " ++ toString n
      | none => ""
  | unterminated line => "unterminated string literal (detected at line " ++ toString line ++ ")"
  | unterminatedTriple line => "unterminated triple-quoted string literal (detected at line " ++ toString line ++ ")"
  | afterContinuation => "unexpected character after line continuation character"
  | endOfText => "unexpected EOF while parsing"
  | leadingZeros =>
    "leading zeros in decimal integer literals are not permitted; use an 0o prefix for octal integers"
  | invalidNumber form => "invalid " ++ form ++ " literal"
  | invalidDigit digit form => "invalid digit " ++ inQuotes digit ++ " in " ++ form ++ " literal"
  | defaultOrder => "non-default argument follows default argument"
  | trailingComma => "trailing comma not allowed without surrounding parentheses"
  | afterKeywords false => "positional argument follows keyword argument"
  | afterKeywords true => "positional argument follows keyword argument unpacking"
  | bareStar => "named arguments must follow bare *"
  | missingHandler => "expected 'except' or 'finally' block"
  | generatorParentheses => "Generator expression must be parenthesized"
  | legacyCall name => "Missing parentheses in call to '" ++ name ++ "'. Did you mean " ++ name ++ "(...)?"
  | asciiBytes => "bytes can only contain ASCII literal characters"
  | escapeText detail => "(unicode error) 'unicodeescape' codec can't decode bytes in position " ++ detail
  | patternTarget => "invalid pattern target"
  | blankTarget => "cannot use '_' as a target"
  | positionalPattern => "positional patterns follow keyword patterns"
  | complexPart real => (if real then "real" else "imaginary") ++ " number required in complex literal"
  | nullCharacter => "source code string cannot contain null bytes"

structure Fault where
  complaint : Complaint
  line : Nat
  deriving DecidableEq, Repr

def Fault.message (f : Fault) : String := f.complaint.message ++ " (line " ++ toString f.line ++ ")"

end ApiTypes.Source
