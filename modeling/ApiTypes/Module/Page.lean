/-
Pages: generated modules as parts, one below the other.

Every page opens with the same head and goes on with its imports. Parts are joined by line feeds.
-/

namespace ApiTypes.Module

/-- what every generated module opens with -/
def head : String :=
  "\"\"\"Generated by openapi-typegen. Do not edit.\"\"\"\n\nfrom __future__ import annotations\n"

/-- the parts of a module, joined -/
def page (parts : List String) : String := "\n".intercalate (head :: parts)

/-- the line that imports names from a module -/
def importLine (module : String) (names : List String) : String :=
  "from " ++ module ++ " import " ++ ", ".intercalate names ++ "\n"

end ApiTypes.Module
