/-
Modules: source texts as a whole, with the names that they define and import.

A text is refused at the first lexeme that does not fit, or at what kept it from being lexed. A fault of lexing is
reported before any other, wherever it is; an indentation that does not fit and a bracket that is never closed are
reported if nothing before them is wrong.

Main statements: `read_null`, a text with a null character is refused; `mem_definedNames`.
-/
import ApiTypes.Source.Statement
import ApiTypes.Text.Composition
import ApiTypes.Text.Order

namespace ApiTypes.Source

/-- the fault for a lexeme that does not fit -/
def unfitFault (l : Lexeme) : Fault :=
  match l.token with
  | .indent => ⟨.unexpectedIndent, l.line⟩
  | .dedent => ⟨.unexpectedUnindent, l.line⟩
  | _ => ⟨.invalid, l.line⟩

/-- the fault that is reported for one that was found on line `reached`, when lexing stopped like this -/
def Lexed.override (lexed : Lexed) (fault : Fault) (reached : Nat) : Fault :=
  match lexed.stop with
  | .complete => fault
  | .fault first => first
  | .late _ =>
    match lexed.bracket with
    | some (opening, line) => if line < reached then ⟨.unclosed opening, line⟩ else fault
    | none => fault

/-- the fault where a reading halts -/
def Lexed.fault (lexed : Lexed) : Halt → Fault
  | .ended =>
    match lexed.stop with
    | .complete => ⟨.endOfText, 0⟩
    | .fault fault => fault
    | .late fault => fault
  | .unfit l =>
    match l.token with
    | .indent => unfitFault l
    | .dedent => unfitFault l
    | _ => lexed.override (unfitFault l) l.line
  | .complaint fault reached => lexed.override fault reached

/-- the statements of a text -/
def read (text : String) : Except Fault (List Statement) :=
  if text.toList.contains '\x00' then .error ⟨.nullCharacter, 0⟩
  else
    let lexed := Lexed.ofText text.toList
    match module { rest := lexed.lexemes } with
    | .ok (statements, _) => .ok statements
    | .error halt => .error (lexed.fault halt)

theorem read_null (text : String) (h : '\x00' ∈ text.toList) : read text = .error ⟨.nullCharacter, 0⟩ := by
  simp [read, h]

/-- a name as the language compares it -/
def canonical (name : String) : String := String.ofList (Text.composed name.toList)

/-- the names that a statement at the top of a module defines: a class, or the plain targets of an assignment -/
def Statement.defines : Statement → List String
  | .class name _ => [canonical name]
  | .assign targets _ => targets.filterMap fun t => match t.bare with
    | .name id => some (canonical id)
    | _ => none
  | _ => []

/-- the names that a module defines, in order of their characters -/
def definedNames (statements : List Statement) : List String :=
  Text.sorted (Text.gather [] (statements.flatMap Statement.defines))

/-- a module beside this one and the names that a statement imports from it -/
def Statement.importsBeside? : Statement → Option (String × List String)
  | .importFrom 1 (some module) names => some (canonical module, names.map canonical)
  | _ => none

/-- the imports from modules beside this one, in order -/
def importsBeside (statements : List Statement) : List (String × List String) :=
  statements.filterMap Statement.importsBeside?

theorem mem_definedNames {statements : List Statement} {name : String} :
    name ∈ definedNames statements ↔ ∃ s ∈ statements, name ∈ s.defines := by
  simp [definedNames, Text.mem_sorted, Text.mem_gather]

end ApiTypes.Source
