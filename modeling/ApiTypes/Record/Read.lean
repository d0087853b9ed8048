/-
Reading records from raw values.

A record is read from a mapping: fields under other names are ignored, absent fields take their default where they have
one, and every fault of every field is kept as an issue. Members of a union are told apart by their tag.

`Check α` is the outcome of reading: the value, or the issues. `both` joins two outcomes and keeps the issues of both.

Main statement: `both_ok_iff`, two outcomes joined hold values only if both did.
-/
import ApiTypes.Declaration
import ApiTypes.Documentation
import ApiTypes.Record.Issue

namespace ApiTypes.Record

abbrev Check (α : Type) := Except (List Issue) α

namespace Check

def issues {α : Type} : Check α → List Issue
  | .ok _ => []
  | .error issues => issues

/-- both outcomes; the issues of the first come first -/
def both {α β : Type} (x : Check α) (y : Check β) : Check (α × β) :=
  match x, y with
  | .ok a, .ok b => .ok (a, b)
  | x, y => .error (x.issues ++ y.issues)

/-- the outcome seen from outside the field `name` -/
def within {α : Type} (name : String) : Check α → Check α
  | .ok a => .ok a
  | .error issues => .error (issues.map (Issue.within name))

/-- outcomes of items, in order, all issues kept -/
def all {α : Type} : List (Check α) → Check (List α)
  | [] => .ok []
  | x :: rest => (both x (all rest)).map fun p => p.1 :: p.2

def fault {α : Type} (complaint : Complaint) : Check α := .error [⟨[], complaint⟩]

/-- the outcome as a fault of the record that was read -/
def toFault {α : Type} (kind : Kind) : Check α → Except Fault α
  | .ok a => .ok a
  | .error issues => .error (.invalid kind issues)

theorem both_ok_iff {α β : Type} (x : Check α) (y : Check β) (p : α × β) :
    both x y = .ok p ↔ x = .ok p.1 ∧ y = .ok p.2 := by
  obtain ⟨a, b⟩ := p
  cases x <;> cases y <;> simp [both]

end Check

/-! ## Fields -/

def text : Value → Check String
  | .str s => .ok s
  | _ => Check.fault .notText

/-- truth values, and the numbers and words that stand for them -/
def boolean : Value → Check Bool
  | .bool b => .ok b
  | .int n => if n = 0 then .ok false else if n = 1 then .ok true else Check.fault .unreadableBoolean
  | .float x =>
    match x.toInt? with
    | some 0 => .ok false
    | some 1 => .ok true
    | some _ => Check.fault .unreadableBoolean
    | none => Check.fault .notBoolean
  | .str s =>
    let word := s.toLower
    if ["0", "off", "f", "false", "n", "no"].contains word then .ok false
    else if ["1", "on", "t", "true", "y", "yes"].contains word then .ok true
    else Check.fault .unreadableBoolean
  | _ => Check.fault .notBoolean

/-- any value at all -/
def anything (v : Value) : Check Value := .ok v

def listOf {α : Type} (item : Value → Check α) : Value → Check (List α)
  | .list items => Check.all (items.mapIdx fun i v => (item v).within (toString i))
  | .tuple items => Check.all (items.mapIdx fun i v => (item v).within (toString i))
  | _ => Check.fault .notList

/-- entries under keys that must be texts -/
def entriesOf {α : Type} (item : Value → Check α) : Value → Check (List (String × α))
  | .map entries =>
    Check.all (entries.map fun e =>
      (Check.both ((text e.1).within "[key]") (item e.2)).within (keyStep e.1))
  | _ => Check.fault .notMapping

/-- null, or what `item` reads -/
def nullable {α : Type} (item : Value → Check α) : Value → Check (Option α)
  | .null => .ok none
  | v => (item v).map some

/-- a field that must be there -/
def needed {α : Type} (raw : Value) (name : String) (item : Value → Check α) : Check α :=
  match raw.field? name with
  | some v => (item v).within name
  | none => .error [⟨[name], .missing⟩]

/-- a field with a default -/
def defaulted {α : Type} (raw : Value) (name : String) (standard : α) (item : Value → Check α) : Check α :=
  match raw.field? name with
  | some v => (item v).within name
  | none => .ok standard

/-- the tag of a union member, where it is given -/
def tagField (raw : Value) (tag : String) : Check Unit :=
  defaulted raw "kind" () fun v => if v.isText tag then .ok () else Check.fault (.notAmong [tag])

/-- a mapping with the fields of a record -/
def record {α : Type} (kind : Kind) (read : Value → Check α) (raw : Value) : Check α :=
  if raw.isMap then read raw else Check.fault (.notRecord kind)

/-- a member of a union, by its tag; `read` gives nothing for a tag that is no member's -/
def union {α : Type} (tags : List String) (read : String → Value → Option (Check α)) (raw : Value) : Check α :=
  if raw.isMap then
    match raw.field? "kind" with
    | none => Check.fault .noTag
    | some (.str tag) => match read tag raw with
      | some outcome => outcome.within tag
      | none => Check.fault (.wrongTag tag tags)
    | some other => Check.fault (.wrongTag other.display tags)
  else Check.fault .untaggable

/-! ## Schema nodes -/

def scalar (raw : Value) : Check Node :=
  (Check.both (tagField raw "scalar") (needed raw "name" text)).map fun p => .scalar p.2

def componentRef (raw : Value) : Check Node :=
  (Check.both (tagField raw "component") (needed raw "name" text)).map fun p => .component p.2

def arrayOf (node : Value → Check Node) (raw : Value) : Check Node :=
  (Check.both (tagField raw "array") (needed raw "element" node)).map fun p => .array p.2

def objectOf (node : Value → Check Node) (raw : Value) : Check Node :=
  (Check.both (tagField raw "object") (defaulted raw "fields" [] (entriesOf node))).map fun p => .object p.2

def variant (node : Value → Check Node) (raw : Value) : Check Variant :=
  (Check.both (needed raw "type" node)
    (Check.both (defaulted raw "example" (.str "") anything) (defaulted raw "default" .null anything))).map
    fun p => .mk p.1 p.2.1 p.2.2

def oneOf (node : Value → Check Node) (raw : Value) : Check Node :=
  (Check.both (tagField raw "one_of")
    (needed raw "variants" (listOf (record .oneOfVariant (variant node))))).map fun p => .oneOf p.2

def nodeTags : List String := ["scalar", "array", "object", "component", "one_of"]

/-- a node of at most `depth` levels -/
def nodeUpTo : (depth : Nat) → Value → Check Node
  | 0, _ => Check.fault .untaggable
  | depth + 1, raw =>
    union nodeTags (fun tag raw =>
      match tag with
      | "scalar" => some (scalar raw)
      | "array" => some (arrayOf (nodeUpTo depth) raw)
      | "object" => some (objectOf (nodeUpTo depth) raw)
      | "component" => some (componentRef raw)
      | "one_of" => some (oneOf (nodeUpTo depth) raw)
      | _ => none) raw

mutual

/-- the levels of a value -/
def depthOf : Value → Nat
  | .list items => depthOfItems items + 1
  | .tuple items => depthOfItems items + 1
  | .map entries => depthOfEntries entries + 1
  | _ => 1

def depthOfItems : List Value → Nat
  | [] => 0
  | v :: rest => max (depthOf v) (depthOfItems rest)

def depthOfEntries : List (Value × Value) → Nat
  | [] => 0
  | (_, v) :: rest => max (depthOf v) (depthOfEntries rest)

end

/-- a node; a value has no more levels of nodes than of values -/
def node (raw : Value) : Check Node := nodeUpTo (depthOf raw) raw

/-! ## Components and operations -/

def property (raw : Value) : Check Property :=
  (Check.both (needed raw "name" text) (Check.both (needed raw "type" node)
    (Check.both (defaulted raw "description" "" text) (Check.both (defaulted raw "example" (.str "") anything)
      (defaulted raw "required" false boolean))))).map
    fun p => ⟨p.1, p.2.1, p.2.2.1, p.2.2.2.1, p.2.2.2.2⟩

def component (raw : Value) : Check Component :=
  (Check.both (defaulted raw "required_props" [] (listOf (record .property property)))
    (defaulted raw "optional_props" [] (listOf (record .property property)))).map fun p => ⟨p.1, p.2⟩

def parameter (raw : Value) : Check Parameter :=
  (Check.both (needed raw "name" text) (Check.both (needed raw "location" text) (Check.both (needed raw "type" text)
    (Check.both (defaulted raw "example" (.str "") anything) (Check.both (defaulted raw "required" false boolean)
      (defaulted raw "description" "" text)))))).map
    fun p => ⟨p.1, p.2.1, p.2.2.1, p.2.2.2.1, p.2.2.2.2.1, p.2.2.2.2.2⟩

def jsonBody (raw : Value) : Check RequestBody :=
  (Check.both (tagField raw "json") (Check.both (defaulted raw "required" false boolean)
    (Check.both (needed raw "content_type" text) (Check.both (needed raw "request_schema" (record .component component))
      (defaulted raw "component" none (nullable text)))))).map
    fun p => .json p.2.1 p.2.2.1 p.2.2.2.1 p.2.2.2.2

def unsupportedBody (raw : Value) : Check RequestBody :=
  (Check.both (tagField raw "unsupported") (needed raw "content_type" text)).map fun p => .unsupported p.2

def requestBody (raw : Value) : Check RequestBody :=
  union ["json", "unsupported"] (fun tag raw =>
    match tag with
    | "json" => some (jsonBody raw)
    | "unsupported" => some (unsupportedBody raw)
    | _ => none) raw

def method : Value → Check Method
  | .str "GET" => .ok .get
  | .str "POST" => .ok .post
  | _ => Check.fault (.notAmong ["GET", "POST"])

def operation (raw : Value) : Check Operation :=
  (Check.both (needed raw "endpoint" text) (Check.both (needed raw "name" text)
    (Check.both (needed raw "operation_id" text)
    (Check.both (needed raw "summary" text) (Check.both (defaulted raw "deprecated" false boolean)
      (Check.both (needed raw "method" method)
        (Check.both (defaulted raw "arguments" [] (listOf (record .parameter parameter)))
          (Check.both (defaulted raw "request_body" none (nullable requestBody))
            (Check.both (needed raw "response_type" node) (needed raw "group" text)))))))))).map
    fun (endpoint, name, operationId, summary, deprecated, method, arguments, requestBody, responseType, group) =>
      ⟨endpoint, name, operationId, summary, deprecated, method, arguments, requestBody, responseType, group⟩

def documentation (raw : Value) : Check Documentation :=
  (Check.both (defaulted raw "components" [] (entriesOf (record .component component)))
    (defaulted raw "operations" [] (listOf (record .operation operation)))).map fun p => ⟨p.1, p.2⟩

/-! ## Declarations -/

def builtinType (raw : Value) : Check Declaration :=
  (Check.both (tagField raw "builtin") (needed raw "name" text)).map fun p => .builtin p.2

def listType (declaration : Value → Check Declaration) (raw : Value) : Check Declaration :=
  (Check.both (tagField raw "list") (needed raw "item" declaration)).map fun p => .list p.2

def recordType (declaration : Value → Check Declaration) (raw : Value) : Check Declaration :=
  (Check.both (tagField raw "record") (defaulted raw "fields" [] (entriesOf declaration))).map fun p => .record p.2

def referenceType (raw : Value) : Check Declaration :=
  (Check.both (tagField raw "reference") (needed raw "component" text)).map fun p => .reference p.2

def anyType (raw : Value) : Check Declaration :=
  (Check.both (tagField raw "any") (defaulted raw "reason" "" text)).map fun p => .any p.2

def declarationTags : List String := ["builtin", "list", "record", "reference", "any"]

/-- a declaration of at most `depth` levels -/
def declarationUpTo : (depth : Nat) → Value → Check Declaration
  | 0, _ => Check.fault .untaggable
  | depth + 1, raw =>
    union declarationTags (fun tag raw =>
      match tag with
      | "builtin" => some (builtinType raw)
      | "list" => some (listType (declarationUpTo depth) raw)
      | "record" => some (recordType (declarationUpTo depth) raw)
      | "reference" => some (referenceType raw)
      | "any" => some (anyType raw)
      | _ => none) raw

def declaration (raw : Value) : Check Declaration := declarationUpTo (depthOf raw) raw

def field (raw : Value) : Check Field :=
  (Check.both (needed raw "name" text) (Check.both (needed raw "type" declaration)
    (defaulted raw "description" "" text))).map fun p => ⟨p.1, p.2.1, p.2.2⟩

def componentDeclaration (raw : Value) : Check ComponentDeclaration :=
  (Check.both (needed raw "name" text) (Check.both (defaulted raw "required" [] (listOf (record .field field)))
    (defaulted raw "optional" [] (listOf (record .field field))))).map fun p => ⟨p.1, p.2.1, p.2.2⟩

def settings (raw : Value) : Check Settings :=
  let standard : Settings := {}
  (Check.both (defaulted raw "ref_prefix" standard.refPrefix text)
    (Check.both (defaulted raw "json_content_type" standard.jsonContentType text)
      (Check.both (defaulted raw "group_extension" standard.groupExtension text)
        (Check.both (defaulted raw "group_field" standard.groupField text)
          (Check.both (defaulted raw "success_status" standard.successStatus text)
            (defaulted raw "tag_groups" standard.tagGroups boolean)))))).map
    fun p => ⟨p.1, p.2.1, p.2.2.1, p.2.2.2.1, p.2.2.2.2.1, p.2.2.2.2.2⟩

end ApiTypes.Record
