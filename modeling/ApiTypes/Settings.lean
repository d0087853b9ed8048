/-
Settings of a generation: the names under which a document keeps what the generator reads.
-/
namespace ApiTypes

structure Settings where
  /-- the text before a component's name in a reference -/
  refPrefix : String := "#/components/schemas/"
  jsonContentType : String := "application/json"
  /-- the extension of an operation that holds its group -/
  groupExtension : String := "x-oaiMeta"
  groupField : String := "group"
  successStatus : String := "200"
  /-- is the first tag the group of an operation without the extension? -/
  tagGroups : Bool := false
  deriving DecidableEq, Repr

namespace Settings

/-- what follows the last slash; the whole text if there is none -/
def lastSegment (text : List Char) : List Char :=
  (text.reverse.takeWhile (· != '/')).reverse

/-- the component that a reference names: what follows the configured root, or else the last segment -/
def stripRef (settings : Settings) (ref : String) : String :=
  let root := settings.refPrefix.toList
  if root.isPrefixOf ref.toList then String.ofList (ref.toList.drop root.length)
  else String.ofList (lastSegment ref.toList)

end Settings

end ApiTypes
