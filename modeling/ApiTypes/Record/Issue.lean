/-
Issues: what is wrong with the fields of a record.

A record is checked field by field and every issue is kept. An issue says where it is, as a path of field names, keys
and positions, and what is wrong there.
-/
import ApiTypes.Value.Literal

namespace ApiTypes.Record

/-- the records that can be checked, and the two unions -/
inductive Kind where
  | settings
  | scalar
  | arrayOf
  | objectOf
  | componentRef
  | oneOfVariant
  | oneOf
  | property
  | component
  | parameter
  | jsonBody
  | unsupportedBody
  | operation
  | documentation
  | builtinType
  | listType
  | recordType
  | referenceType
  | anyType
  | field
  | componentDeclaration
  | schemaNode
  | typeDeclaration
  deriving DecidableEq, Repr

/-- the name of the record in messages; a union names its members -/
def Kind.title : Kind → String
  | settings => "CodegenConfig"
  | scalar => "Scalar"
  | arrayOf => "ArrayOf"
  | objectOf => "ObjectOf"
  | componentRef => "ComponentRef"
  | oneOfVariant => "OneOfVariant"
  | oneOf => "OneOf"
  | property => "PropertyDescriptor"
  | component => "ComponentSchema"
  | parameter => "ParameterDescriptor"
  | jsonBody => "RequestBodyDescriptor"
  | unsupportedBody => "UnsupportedContentType"
  | operation => "OperationDescriptor"
  | documentation => "Documentation"
  | builtinType => "BuiltinType"
  | listType => "ListType"
  | recordType => "RecordType"
  | referenceType => "ReferenceType"
  | anyType => "AnyType"
  | field => "FieldDeclaration"
  | componentDeclaration => "ComponentDeclaration"
  | schemaNode => "tagged-union[Scalar,ArrayOf,ObjectOf,ComponentRef,OneOf]"
  | typeDeclaration => "tagged-union[BuiltinType,ListType,RecordType,ReferenceType,AnyType]"

inductive Complaint where
  | missing
  | notText
  | notList
  | notMapping
  | notRecord (kind : Kind)
  /-- neither a mapping nor anything else whose tag could be read -/
  | untaggable
  | notAmong (expected : List String)
  | notBoolean
  | unreadableBoolean
  | noTag
  | wrongTag (tag : String) (expected : List String)
  deriving DecidableEq, Repr

/-- texts between single quotes -/
def quoteAll (texts : List String) : List String := texts.map fun t => "'" ++ t ++ "'"

/-- alternatives: commas, and `or` before the last -/
def alternatives : List String → String
  | [] => ""
  | [a] => a
  | [a, b] => a ++ " or " ++ b
  | a :: rest => a ++ ", " ++ alternatives rest

def Complaint.message : Complaint → String
  | missing => "Field required"
  | notText => "Input should be a valid string"
  | notList => "Input should be a valid list"
  | notMapping => "Input should be a valid dictionary"
  | notRecord kind => "Input should be a valid dictionary or instance of " ++ kind.title
  | untaggable => "Input should be a valid dictionary or object to extract fields from"
  | notAmong expected => "Input should be " ++ alternatives (quoteAll expected)
  | notBoolean => "Input should be a valid boolean"
  | unreadableBoolean => "Input should be a valid boolean, unable to interpret input"
  | noTag => "Unable to extract tag using discriminator 'kind'"
  | wrongTag tag expected =>
    "Input tag '" ++ tag ++ "' found using 'kind' does not match any of the expected tags: " ++
      ", ".intercalate (quoteAll expected)

structure Issue where
  path : List String
  complaint : Complaint
  deriving DecidableEq, Repr

def Issue.message (i : Issue) : String := ".".intercalate i.path ++ ": " ++ i.complaint.message

/-- the step that stands for a key of a mapping: a truth value counts as a number -/
def keyStep : Value → String
  | .str s => s
  | .bool b => if b then "1" else "0"
  | key => key.literal

/-- the same issue seen from outside the field `name` -/
def Issue.within (name : String) (i : Issue) : Issue := ⟨name :: i.path, i.complaint⟩

/-- all issues of a record, after its title -/
def issuesMessage (kind : Kind) (issues : List Issue) : String :=
  kind.title ++ ": " ++ "; ".intercalate (issues.map Issue.message)

end ApiTypes.Record
