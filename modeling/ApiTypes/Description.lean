/-
Descriptions: the trees that files hold.

A file is UTF-8 and holds one document, in block notation or, where that fails, in JSON. The tree must be the
description of an API.
-/
import ApiTypes.Documentation
import ApiTypes.Yaml.Tree

namespace ApiTypes.Description

/-- the tree, if it describes an API -/
def check (file : String) (tree : Value) : Except Fault Value :=
  if isDescription tree then .ok tree else .error (.document file .notDescription)

/-- the description in a text, whose lines end in line feeds -/
def ofText (file : String) (text : List Char) : Except Fault Value :=
  match Yaml.read text with
  | .ok tree => check file tree
  | .error (.scalar cause) => .error (.scalar cause)
  | .error .malformed =>
    match Json.read (String.ofList text) with
    | .ok tree => check file tree
    | .error fault => .error (.document file (.unreadable fault))

/-- the description in a file -/
def ofBytes (file : String) (bytes : List UInt8) : Except Fault Value :=
  match Text.decode bytes with
  | .ok text => ofText file (Text.lineFeeds text)
  | .error fault => .error (.encoding fault)

end ApiTypes.Description
