/-
Lexemes of source texts: tokens with the line and the bracket depth where they stand.
-/
import ApiTypes.Module.Name
import ApiTypes.Source.Fault

namespace ApiTypes.Source

/-- the letters in front of a string -/
structure TextMode where
  bytes : Bool := false
  /-- are backslashes plain characters? -/
  raw : Bool := false
  /-- are there expressions in it? -/
  template : Bool := false
  deriving DecidableEq, Repr

inductive Token where
  | name (text : String)
  | number (imaginary : Bool)
  /-- a string, by what stands between its quotes -/
  | text (mode : TextMode) (body : String)
  /-- operators, brackets and other marks -/
  | mark (text : String)
  | newline
  | indent
  | dedent
  | finish
  deriving DecidableEq, Repr

structure Lexeme where
  token : Token
  line : Nat
  /-- the number of brackets open behind the token -/
  depth : Nat
  deriving DecidableEq, Repr

/-- the bracket that closes this one -/
def closing? : Char → Option Char
  | '(' => some ')'
  | '[' => some ']'
  | '\x7b' => some '\x7d'
  | _ => none

def isClosing (c : Char) : Bool := c == ')' || c == ']' || c == '\x7d'

/-- marks of several characters, longer ones first -/
def longMarks : List String :=
  ["**=", "//=", ">>=", "<<=", "...", "!=", "%=", "&=", "**", "*=", "+=", "-=", "->", "//", "/=", ":=", "<<", "<=",
    "<>", "==", ">=", ">>", "@=", "^=", "|="]

/-- the mark in front, by its text -/
def longMark? (text : List Char) : Option String := longMarks.find? fun m => m.toList.isPrefixOf text

/-- the mode that letters in front of a quote ask for -/
def textMode? (letters : List Char) : Option TextMode :=
  match String.ofList (letters.map fun c => if Text.isUpper c then Char.ofNat (c.toNat + 32) else c) with
  | "" => some {}
  | "b" => some { bytes := true }
  | "r" => some { raw := true }
  | "u" => some {}
  | "f" => some { template := true }
  | "br" => some { bytes := true, raw := true }
  | "rb" => some { bytes := true, raw := true }
  | "fr" => some { template := true, raw := true }
  | "rf" => some { template := true, raw := true }
  | _ => none

end ApiTypes.Source
