/-
Dumps: documentations as JSON texts.

A documentation is dumped compactly or indented, and a dump is read back by the rules for records. What a document holds
as an example or default is kept as far as JSON can express it.
-/
import ApiTypes.Json.Writer
import ApiTypes.Record.Read
import ApiTypes.Record.View

namespace ApiTypes.Documentation

open ApiTypes.Record

def toValue (d : Documentation) : Value := (View.ofDocumentation d).toValue

def compactText (d : Documentation) : String := Json.compact d.toValue

def indentedText (d : Documentation) : String := Json.indented 0 d.toValue

/-- the documentation that a text dumps -/
def ofDump? (dump : String) : Option Documentation :=
  match Json.read dump with
  | .ok raw => (record .documentation documentation raw).toOption
  | .error _ => none

/-- are two documentations equal, whatever the order of components and fields? -/
def sameAs (d e : Documentation) : Bool := d.toValue.same e.toValue

/-- does the compact dump read back as an equal documentation? -/
def roundTrips (d : Documentation) : Bool :=
  match ofDump? d.compactText with
  | some e => d.sameAs e
  | none => false

end ApiTypes.Documentation
