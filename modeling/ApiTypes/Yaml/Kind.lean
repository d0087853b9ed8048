/-
Kinds of nodes: what a node's tag says, or, without a tag, the form of its text.
-/
import ApiTypes.Yaml.Stamp

namespace ApiTypes.Yaml

inductive Kind where
  | null
  | truth
  | int
  | float
  | stamp
  | text
  | list
  | map
  /-- the key `<<` that takes entries from other mappings -/
  | merge
  /-- the key `=` that stands for the value of a mapping -/
  | standard
  | unknown
  deriving DecidableEq, Repr

namespace Kind

def tagStart : String := "tag:yaml.org,2002:"

/-- the kind that a full tag names -/
def ofTag (tag : String) : Kind :=
  if tag = tagStart ++ "null" then .null
  else if tag = tagStart ++ "bool" then .truth
  else if tag = tagStart ++ "int" then .int
  else if tag = tagStart ++ "float" then .float
  else if tag = tagStart ++ "timestamp" then .stamp
  else if tag = tagStart ++ "str" then .text
  else if tag = tagStart ++ "seq" then .list
  else if tag = tagStart ++ "map" then .map
  else if tag = tagStart ++ "merge" then .merge
  else if tag = tagStart ++ "value" then .standard
  else .unknown

/-! ## Forms -/

def dropSign : List Char → List Char
  | '-' :: rest => rest
  | '+' :: rest => rest
  | unsigned => unsigned

def isHex (c : Char) : Bool := Text.isAsciiDigit c || ('a' ≤ c && c ≤ 'f') || ('A' ≤ c && c ≤ 'F')

def isOctal (c : Char) : Bool := '0' ≤ c && c ≤ '7'

def isBinary (c : Char) : Bool := c == '0' || c == '1'

/-- characters of a class, with underscores among them, and at least one of either -/
def someOf (p : Char → Bool) (text : List Char) : Bool := !text.isEmpty && text.all fun c => p c || c == '_'

/-- a first digit of a class, then digits and underscores -/
def ledBy (p : Char → Bool) : List Char → Bool
  | [] => false
  | c :: rest => p c && rest.all fun c => Text.isAsciiDigit c || c == '_'

def isPositiveDigit (c : Char) : Bool := Text.isAsciiDigit c && c != '0'

/-- a place of base sixty: one digit, or two of which the first is below six -/
def isSixtieth : List Char → Bool
  | [c] => Text.isAsciiDigit c
  | [c, d] => '0' ≤ c && c ≤ '5' && Text.isAsciiDigit d
  | _ => false

/-- the parts of a text between colons -/
def parts : List Char → List (List Char)
  | [] => [[]]
  | ':' :: rest => [] :: parts rest
  | c :: rest =>
    match parts rest with
    | [] => [[c]]
    | part :: others => (c :: part) :: others

/-- places of base sixty behind a first number -/
def isSexagesimal (first : List Char → Bool) (text : List Char) : Bool :=
  match parts text with
  | [] => false
  | head :: places => first head && !places.isEmpty && places.all isSixtieth

def isInt (text : List Char) : Bool :=
  match dropSign text with
  | ['0'] => true
  | '0' :: 'b' :: rest => someOf isBinary rest
  | '0' :: 'x' :: rest => someOf isHex rest
  | '0' :: rest => someOf isOctal rest
  | digits => ledBy isPositiveDigit digits || isSexagesimal (ledBy isPositiveDigit) digits

/-- an exponent, which needs a sign, or nothing -/
def isExponent : List Char → Bool
  | [] => true
  | e :: sign :: digits =>
    (e == 'e' || e == 'E') && (sign == '-' || sign == '+') && !digits.isEmpty && digits.all Text.isAsciiDigit
  | _ => false

def isFigure (c : Char) : Bool := Text.isAsciiDigit c || c == '_'

/-- the text before the first point, and that behind it -/
def atPoint? (text : List Char) : Option (List Char × List Char) :=
  match text.dropWhile (· != '.') with
  | [] => none
  | _ :: rest => some (text.takeWhile (· != '.'), rest)

def isFloat (text : List Char) : Bool :=
  let unsigned := dropSign text
  let named := ["inf", "Inf", "INF"].any fun w => unsigned == '.' :: w.toList
  let notANumber := ["nan", "NaN", "NAN"].any fun w => text == '.' :: w.toList
  let figures := match atPoint? unsigned with
    | none => false
    | some (before, behind) =>
      (ledBy Text.isAsciiDigit before && isExponent (behind.dropWhile isFigure)) ||
        (isSexagesimal (ledBy Text.isAsciiDigit) before && behind.all isFigure)
  let fraction := match text with
    | '.' :: d :: rest => Text.isAsciiDigit d && isExponent (rest.dropWhile isFigure)
    | _ => false
  named || notANumber || figures || fraction

def truthWords : List String :=
  ["yes", "Yes", "YES", "no", "No", "NO", "true", "True", "TRUE", "false", "False", "FALSE", "on", "On", "ON", "off",
    "Off", "OFF"]

def nullWords : List String := ["", "~", "null", "Null", "NULL"]

/-- the kind of a plain scalar -/
def ofForm (text : String) : Kind :=
  let chars := text.toList
  if truthWords.contains text then .truth
  else if isFloat chars then .float
  else if isInt chars then .int
  else if text = "<<" then .merge
  else if nullWords.contains text then .null
  else if Stamp.isStamp chars then .stamp
  else if text = "=" then .standard
  else .text

end Kind

end ApiTypes.Yaml
