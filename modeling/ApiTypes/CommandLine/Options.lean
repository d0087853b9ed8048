/-
Options: the words of a command line that start with a dash.

An option has a long name and perhaps a short one, and takes a value or none. A value follows in the next word, whatever
that is, or in the same one: behind an equals sign for a long name, at once for a short one. Short names of options
without values can share a word. Two dashes end the options.
-/
import ApiTypes.CommandLine.Misuse

namespace ApiTypes.CommandLine

structure Switch (α : Type) where
  id : α
  short : Option Char := none
  long : String
  takesValue : Bool := false

/-- the options of a command line with their values, empty for those without, and its other words -/
structure Scan (α : Type) where
  options : List (α × String) := []
  words : List String := []

/-- the options in a word, and the one whose value is the next word, with its name there -/
structure OptionWord (α : Type) where
  options : List (α × String)
  awaiting : Option (α × String) := none

variable {α : Type}

/-- the options of short names that share a word -/
def shortOptions (switches : List (Switch α)) : List Char → Except Misuse (OptionWord α)
  | [] => .ok ⟨[], none⟩
  | c :: rest =>
    let name := String.ofList ['-', c]
    match switches.find? (·.short == some c) with
    | none => .error (.unknownOption name [])
    | some s =>
      if s.takesValue then
        .ok (if rest.isEmpty then ⟨[], some (s.id, name)⟩ else ⟨[(s.id, String.ofList rest)], none⟩)
      else do
        let behind ← shortOptions switches rest
        return { behind with options := (s.id, "") :: behind.options }

/-- the options in a word that starts with a dash -/
def optionWord (switches : List (Switch α)) (word : String) : Except Misuse (OptionWord α) :=
  let name := String.ofList (word.toList.takeWhile (· != '='))
  let value := word.toList.dropWhile (· != '=')
  match switches.find? (·.long == name) with
  | some s =>
    if s.takesValue then
      .ok (if value.isEmpty then ⟨[], some (s.id, name)⟩ else ⟨[(s.id, String.ofList (value.drop 1))], none⟩)
    else if value.isEmpty then .ok ⟨[(s.id, "")], none⟩
    else .error (.valueRefused name)
  | none =>
    match word.toList with
    | '-' :: '-' :: _ => .error (.unknownOption name (Text.similar name (switches.map Switch.long)))
    | _ => shortOptions switches (word.toList.drop 1)

def isOption (word : String) : Bool :=
  match word.toList with
  | '-' :: _ :: _ => true
  | _ => false

/-- the options and words of a command line; `mixed` says that options may follow words -/
def scan (switches : List (Switch α)) (mixed : Bool) : List String → Except Misuse (Scan α)
  | [] => .ok {}
  | word :: rest =>
    if word = "--" then .ok { words := rest }
    else if isOption word then do
      let read ← optionWord switches word
      match read.awaiting with
      | none => do
        let behind ← scan switches mixed rest
        return { behind with options := read.options ++ behind.options }
      | some (id, name) =>
        match rest with
        | [] => throw (.valueMissing name)
        | value :: rest => do
          let behind ← scan switches mixed rest
          return { behind with options := read.options ++ (id, value) :: behind.options }
    else if mixed then do
      let behind ← scan switches mixed rest
      return { behind with words := word :: behind.words }
    else .ok { words := word :: rest }

/-- the last value of an option -/
def Scan.value? [BEq α] (s : Scan α) (id : α) : Option String := s.options.reverse.lookup id

def Scan.has [BEq α] (s : Scan α) (id : α) : Bool := (s.value? id).isSome

end ApiTypes.CommandLine
