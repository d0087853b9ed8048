/-
Dumps are read back.

A record is read from the value that its view shows: each field stands under its own name, a member of a union under
its tag, and no field that is shown takes a default. What is read is the record itself, in the order of its fields and
items.

Whether a text can carry that value depends on the examples and defaults alone, which are whatever the document gave.
A documentation is `Expressible` if JSON knows them all, and if no two components, and no two fields of one object,
have the same name, as in the mappings that they come from.

Main statements: `node_ofNode` and `documentation_toValue`, nodes and documentations are read back from their values;
`dump_restored`, an expressible documentation is read back from its dump, compact or indented.
-/
import Mathlib.Data.List.Forall2
import ApiTypes.Record.Dump
import ApiTypes.Proofs.JsonText

namespace ApiTypes

namespace Record

/-! ## Outcomes that are values -/

namespace Check

variable {α β : Type}

theorem both_ok {x : Check α} {y : Check β} {a : α} {b : β} (hx : x = .ok a) (hy : y = .ok b) :
    both x y = .ok (a, b) :=
  (both_ok_iff x y (a, b)).2 ⟨hx, hy⟩

theorem map_ok {x : Check α} {a : α} {b : β} {f : α → β} (h : x = .ok a) (made : f a = b) : x.map f = .ok b := by
  rw [h, ← made]
  rfl

theorem within_ok {x : Check α} {a : α} (h : x = .ok a) (name : String) : x.within name = .ok a := by
  rw [h, within]

theorem all_ok {checks : List (Check α)} {found : List α} (h : List.Forall₂ (fun c a => c = .ok a) checks found) :
    all checks = .ok found := by
  induction h with
  | nil => rfl
  | cons head _ ih =>
    rw [all, both_ok head ih]
    rfl

end Check

section Containers

variable {α : Type} {item : Value → Check α}

/-- items are read one by one, wherever they stand -/
theorem listOf_ok {values : List Value} {found : List α} (h : List.Forall₂ (fun v a => item v = .ok a) values found) :
    listOf item (.list values) = .ok found := by
  -- the place of an item only labels its issues, and there are none
  have each : ∀ place : Nat → Nat, List.Forall₂ (fun c a => c = .ok a)
      (values.mapIdx fun i v => (item v).within (toString (place i))) found := by
    induction h with
    | nil => exact fun _ => .nil
    | cons head _ ih =>
      intro place
      rw [List.mapIdx_cons]
      exact .cons (Check.within_ok head _) (ih fun i => place (i + 1))
  rw [listOf]
  exact Check.all_ok (each id)

theorem entriesOf_ok {entries : Entries} {found : List (String × α)}
    (h : List.Forall₂ (fun e a => e.1 = .str a.1 ∧ item e.2 = .ok a.2) entries found) :
    entriesOf item (.map entries) = .ok found := by
  rw [entriesOf]
  refine Check.all_ok (List.forall₂_map_left_iff.2 (h.imp ?_))
  rintro ⟨key, v⟩ ⟨name, a⟩ ⟨rfl, read⟩
  exact Check.within_ok (Check.both_ok rfl read) _

end Containers

/-! ## Records from their views -/

namespace View

theorem find?_fieldValues (fields : List (String × View)) (name : String) :
    Entries.find? (fieldValues fields) name = (fields.lookup name).map toValue := by
  induction fields with
  | nil => rfl
  | cons f rest ih =>
    obtain ⟨other, view⟩ := f
    rw [fieldValues, Entries.find?, ih, Value.isText, List.lookup_cons]
    cases same : name == other with
    | true => simp [beq_iff_eq.1 same]
    | false => simp [BEq.symm_false same]

end View

section Fields

variable {α : Type} {item : Value → Check α} {fields rest : List (String × View)} {name tag : String} {view : View}
variable {a : α}

theorem field?_record (given : fields.lookup name = some view) :
    (View.record fields).toValue.field? name = some view.toValue := by
  rw [View.toValue, Value.field?, View.find?_fieldValues, given, Option.map_some]

theorem needed_ok (given : fields.lookup name = some view) (read : item view.toValue = .ok a) :
    needed (View.record fields).toValue name item = .ok a := by
  rw [needed, field?_record given]
  exact Check.within_ok read name

/-- a field that is there takes no default -/
theorem defaulted_ok {standard : α} (given : fields.lookup name = some view) (read : item view.toValue = .ok a) :
    defaulted (View.record fields).toValue name standard item = .ok a := by
  rw [defaulted, field?_record given]
  exact Check.within_ok read name

theorem tagField_ok : tagField (View.tagged tag rest).toValue tag = .ok () := by
  have same : (View.text tag).toValue.isText tag = true := by simp [View.text, View.toValue, Value.isText]
  exact defaulted_ok rfl (if_pos same)

theorem record_ok {kind : Kind} {read : Value → Check α} (h : read (View.record fields).toValue = .ok a) :
    record kind read (View.record fields).toValue = .ok a := by
  rw [View.toValue] at h ⊢
  exact h

theorem union_ok {tags : List String} {read : String → Value → Option (Check α)}
    (h : read tag (View.tagged tag rest).toValue = some (.ok a)) :
    union tags read (View.tagged tag rest).toValue = .ok a := by
  have kind : (View.tagged tag rest).toValue.field? "kind" = some (View.text tag).toValue := field?_record rfl
  have map : (View.tagged tag rest).toValue.isMap = true := by
    rw [View.tagged, View.toValue]
    rfl
  rw [union, if_pos map, kind, View.text, View.toValue]
  simp only [h]
  rfl

end Fields

theorem text_read (s : String) : text (View.text s).toValue = .ok s := rfl

theorem flag_read (b : Bool) : boolean (View.flag b).toValue = .ok b := rfl

theorem value_read (v : Value) : anything (View.value v).toValue = .ok v := rfl

theorem nullable_text (name : Option String) : nullable text (View.ofOption View.text name).toValue = .ok name := by
  cases name <;> rfl

theorem sequence_read {α : Type} {item : Value → Check α} {view : α → View}
    (h : ∀ a, item (view a).toValue = .ok a) (items : List α) :
    listOf item (View.sequence (items.map view)).toValue = .ok items := by
  rw [View.toValue, View.itemValues_eq_map, List.map_map]
  refine listOf_ok (List.forall₂_map_left_iff.2 (List.forall₂_same.2 ?_))
  exact fun a _ => h a

/-! ## Nodes -/

section Depth

variable {fields rest : List (String × View)} {name tag : String} {view : View} {depth : Nat}

theorem depthOf_mem {entries : Entries} {e : Value × Value} (h : e ∈ entries) :
    depthOf e.2 ≤ depthOfEntries entries := by
  induction entries with
  | nil => cases h
  | cons first rest ih =>
    obtain ⟨key, v⟩ := first
    rw [depthOfEntries]
    rcases List.mem_cons.1 h with rfl | h
    · exact Nat.le_max_left _ _
    · exact Nat.le_trans (ih h) (Nat.le_max_right _ _)

/-- a field of a record has fewer levels than the record -/
theorem depthOf_field (h : (name, view) ∈ fields) (enough : depthOf (View.record fields).toValue ≤ depth + 1) :
    depthOf view.toValue ≤ depth := by
  rw [View.toValue, depthOf, View.fieldValues_eq_map] at enough
  have mem : (Value.str name, view.toValue) ∈ fields.map fun f => (Value.str f.1, f.2.toValue) :=
    List.mem_map_of_mem (f := fun f : String × View => (Value.str f.1, f.2.toValue)) h
  exact Nat.le_trans (depthOf_mem mem) (Nat.le_of_succ_le_succ enough)

theorem depth_succ {v : Value} (enough : depthOf v ≤ depth) : ∃ d, depth = d + 1 := by
  have levels : 0 < depthOf v := by cases v <;> simp [depthOf]
  exact ⟨depth - 1, by omega⟩

end Depth

mutual

/-- **A node is read back from the value that shows it**, given as many levels as the value has. What a node holds is
shown under a field of its own, so that it has a level less. -/
theorem nodeUpTo_ofNode : (n : Node) → {depth : Nat} → depthOf (View.ofNode n).toValue ≤ depth →
    nodeUpTo depth (View.ofNode n).toValue = .ok n
  | .scalar name, _, enough => by
    obtain ⟨depth, rfl⟩ := depth_succ enough
    rw [View.ofNode, nodeUpTo]
    have read : scalar (View.tagged "scalar" [("name", View.text name)]).toValue = .ok (.scalar name) :=
      Check.map_ok (Check.both_ok tagField_ok (needed_ok rfl (text_read name))) rfl
    exact union_ok (congrArg some read)
  | .array element, _, enough => by
    obtain ⟨depth, rfl⟩ := depth_succ enough
    rw [View.ofNode] at enough ⊢
    have levels : depthOf (View.ofNode element).toValue ≤ depth :=
      depthOf_field (List.mem_cons_of_mem _ List.mem_cons_self) enough
    have inner := nodeUpTo_ofNode element levels
    have read : arrayOf (nodeUpTo depth) (View.tagged "array" [("element", View.ofNode element)]).toValue =
        .ok (.array element) :=
      Check.map_ok (Check.both_ok tagField_ok (needed_ok rfl inner)) rfl
    rw [nodeUpTo]
    exact union_ok (congrArg some read)
  | .object fields, _, enough => by
    obtain ⟨depth, rfl⟩ := depth_succ enough
    rw [View.ofNode] at enough ⊢
    have levels : depthOf (View.mapping (View.ofFields fields)).toValue ≤ depth :=
      depthOf_field (List.mem_cons_of_mem _ List.mem_cons_self) enough
    rw [View.toValue, depthOf] at levels
    have inner : entriesOf (nodeUpTo depth) (View.mapping (View.ofFields fields)).toValue = .ok fields := by
      rw [View.toValue]
      exact entriesOf_ok (nodeUpTo_ofFields fields (by omega))
    have read : objectOf (nodeUpTo depth)
        (View.tagged "object" [("fields", .mapping (View.ofFields fields))]).toValue = .ok (.object fields) :=
      Check.map_ok (Check.both_ok tagField_ok (defaulted_ok rfl inner)) rfl
    rw [nodeUpTo]
    exact union_ok (congrArg some read)
  | .component name, _, enough => by
    obtain ⟨depth, rfl⟩ := depth_succ enough
    rw [View.ofNode, nodeUpTo]
    have read : componentRef (View.tagged "component" [("name", View.text name)]).toValue = .ok (.component name) :=
      Check.map_ok (Check.both_ok tagField_ok (needed_ok rfl (text_read name))) rfl
    exact union_ok (congrArg some read)
  | .oneOf variants, _, enough => by
    obtain ⟨depth, rfl⟩ := depth_succ enough
    rw [View.ofNode] at enough ⊢
    have levels : depthOf (View.sequence (View.ofVariants variants)).toValue ≤ depth :=
      depthOf_field (List.mem_cons_of_mem _ List.mem_cons_self) enough
    rw [View.toValue, depthOf] at levels
    have inner : listOf (record .oneOfVariant (variant (nodeUpTo depth)))
        (View.sequence (View.ofVariants variants)).toValue = .ok variants := by
      rw [View.toValue]
      exact listOf_ok (nodeUpTo_ofVariants variants (by omega))
    have read : oneOf (nodeUpTo depth)
        (View.tagged "one_of" [("variants", .sequence (View.ofVariants variants))]).toValue = .ok (.oneOf variants) :=
      Check.map_ok (Check.both_ok tagField_ok (needed_ok rfl inner)) rfl
    rw [nodeUpTo]
    exact union_ok (congrArg some read)

theorem nodeUpTo_ofFields : (fields : List (String × Node)) → {depth : Nat} →
    depthOfEntries (View.entryValues (View.ofFields fields)) ≤ depth →
    List.Forall₂ (fun e a => e.1 = .str a.1 ∧ nodeUpTo depth e.2 = .ok a.2)
      (View.entryValues (View.ofFields fields)) fields
  | [], _, _ => by
    rw [View.ofFields, View.entryValues]
    exact .nil
  | (name, node) :: rest, depth, enough => by
    rw [View.ofFields, View.entryValues] at enough ⊢
    rw [depthOfEntries] at enough
    exact .cons ⟨rfl, nodeUpTo_ofNode node (by omega)⟩ (nodeUpTo_ofFields rest (by omega))

theorem nodeUpTo_ofVariants : (variants : List Variant) → {depth : Nat} →
    depthOfItems (View.itemValues (View.ofVariants variants)) ≤ depth →
    List.Forall₂ (fun v a => record .oneOfVariant (variant (nodeUpTo depth)) v = .ok a)
      (View.itemValues (View.ofVariants variants)) variants
  | [], _, _ => by
    rw [View.ofVariants, View.itemValues]
    exact .nil
  | .mk type sample standard :: rest, depth, enough => by
    rw [View.ofVariants, View.itemValues] at enough ⊢
    rw [depthOfItems] at enough
    have levels : depthOf (View.ofNode type).toValue ≤ depth :=
      depthOf_field List.mem_cons_self (Nat.le_succ_of_le (Nat.le_trans (Nat.le_max_left _ _) enough))
    have read : variant (nodeUpTo depth) (View.record [("type", View.ofNode type), ("example", .value sample),
        ("default", .value standard)]).toValue = .ok (.mk type sample standard) :=
      Check.map_ok (Check.both_ok (needed_ok rfl (nodeUpTo_ofNode type levels))
        (Check.both_ok (defaulted_ok rfl (value_read sample)) (defaulted_ok rfl (value_read standard)))) rfl
    exact .cons (record_ok read) (nodeUpTo_ofVariants rest (by omega))

end

theorem node_ofNode (n : Node) : node (View.ofNode n).toValue = .ok n :=
  nodeUpTo_ofNode n (Nat.le_refl _)

/-! ## Components and operations -/

theorem property_ofProperty (p : Property) : record .property property (View.ofProperty p).toValue = .ok p :=
  record_ok (Check.map_ok (Check.both_ok (needed_ok rfl (text_read p.name))
    (Check.both_ok (needed_ok rfl (node_ofNode p.type))
      (Check.both_ok (defaulted_ok rfl (text_read p.description))
        (Check.both_ok (defaulted_ok rfl (value_read p.sample)) (defaulted_ok rfl (flag_read p.required)))))) rfl)

theorem component_ofComponent (c : Component) : record .component component (View.ofComponent c).toValue = .ok c :=
  record_ok (Check.map_ok (Check.both_ok (defaulted_ok rfl (sequence_read property_ofProperty c.required))
    (defaulted_ok rfl (sequence_read property_ofProperty c.optional))) rfl)

theorem parameter_ofParameter (p : Parameter) : record .parameter parameter (View.ofParameter p).toValue = .ok p :=
  record_ok (Check.map_ok (Check.both_ok (needed_ok rfl (text_read p.name))
    (Check.both_ok (needed_ok rfl (text_read p.location))
      (Check.both_ok (needed_ok rfl (text_read p.type))
        (Check.both_ok (defaulted_ok rfl (value_read p.sample))
          (Check.both_ok (defaulted_ok rfl (flag_read p.required))
            (defaulted_ok rfl (text_read p.description))))))) rfl)

theorem requestBody_ofRequestBody : (b : RequestBody) → requestBody (View.ofRequestBody b).toValue = .ok b
  | .json required contentType schema component => by
    have read : jsonBody (View.ofRequestBody (.json required contentType schema component)).toValue =
        .ok (.json required contentType schema component) :=
      Check.map_ok (Check.both_ok tagField_ok (Check.both_ok (defaulted_ok rfl (flag_read required))
        (Check.both_ok (needed_ok rfl (text_read contentType))
          (Check.both_ok (needed_ok rfl (component_ofComponent schema))
            (defaulted_ok rfl (nullable_text component)))))) rfl
    exact union_ok (congrArg some read)
  | .unsupported contentType => by
    have read : unsupportedBody (View.ofRequestBody (.unsupported contentType)).toValue =
        .ok (.unsupported contentType) :=
      Check.map_ok (Check.both_ok tagField_ok (needed_ok rfl (text_read contentType))) rfl
    exact union_ok (congrArg some read)

theorem nullable_requestBody (body : Option RequestBody) :
    nullable requestBody (View.ofOption View.ofRequestBody body).toValue = .ok body := by
  cases body with
  | none => rfl
  | some b =>
    have read := Check.map_ok (f := some) (requestBody_ofRequestBody b) rfl
    cases b <;> exact read

theorem method_name (m : Method) : method (View.text m.name).toValue = .ok m := by
  cases m <;> rfl

theorem operation_ofOperation (op : Operation) : record .operation operation (View.ofOperation op).toValue = .ok op :=
  record_ok (Check.map_ok (Check.both_ok (needed_ok rfl (text_read op.endpoint))
    (Check.both_ok (needed_ok rfl (text_read op.name))
      (Check.both_ok (needed_ok rfl (text_read op.operationId))
        (Check.both_ok (needed_ok rfl (text_read op.summary))
          (Check.both_ok (defaulted_ok rfl (flag_read op.deprecated))
            (Check.both_ok (needed_ok rfl (method_name op.method))
              (Check.both_ok (defaulted_ok rfl (sequence_read parameter_ofParameter op.arguments))
                (Check.both_ok (defaulted_ok rfl (nullable_requestBody op.requestBody))
                  (Check.both_ok (needed_ok rfl (node_ofNode op.responseType))
                    (needed_ok rfl (text_read op.group))))))))))) rfl)

theorem documentation_toValue (d : Documentation) : record .documentation documentation d.toValue = .ok d := by
  have components : entriesOf (record .component component)
      (View.mapping (d.components.map fun c => (.str c.1, View.ofComponent c.2))).toValue = .ok d.components := by
    rw [View.toValue, View.entryValues_eq_map, List.map_map]
    refine entriesOf_ok (List.forall₂_map_left_iff.2 (List.forall₂_same.2 ?_))
    exact fun c _ => ⟨rfl, component_ofComponent c.2⟩
  exact record_ok (Check.map_ok (Check.both_ok (defaulted_ok rfl components)
    (defaulted_ok rfl (sequence_read operation_ofOperation d.operations))) rfl)

end Record

/-! ## What JSON can express -/

mutual

/-- fields under different names, and examples and defaults that JSON knows -/
def Node.Expressible : Node → Prop
  | .scalar _ => True
  | .array element => Node.Expressible element
  | .object fields => (fields.map Prod.fst).Nodup ∧ Node.FieldsExpressible fields
  | .component _ => True
  | .oneOf variants => Node.VariantsExpressible variants

def Node.FieldsExpressible : List (String × Node) → Prop
  | [] => True
  | (_, node) :: rest => Node.Expressible node ∧ Node.FieldsExpressible rest

def Node.VariantsExpressible : List Variant → Prop
  | [] => True
  | .mk type sample standard :: rest =>
    (Node.Expressible type ∧ sample.IsJson ∧ standard.IsJson) ∧ Node.VariantsExpressible rest

end

def Property.Expressible (p : Property) : Prop := p.type.Expressible ∧ p.sample.IsJson

def Component.Expressible (c : Component) : Prop := ∀ p ∈ c.properties, p.Expressible

structure Operation.Expressible (op : Operation) : Prop where
  arguments : ∀ p ∈ op.arguments, p.sample.IsJson
  body : ∀ schema ∈ op.bodySchema?, schema.Expressible
  response : op.responseType.Expressible

/-- every example and default is a value that JSON knows, and mappings have different keys -/
structure Documentation.Expressible (d : Documentation) : Prop where
  names : (d.components.map Prod.fst).Nodup
  components : ∀ c ∈ d.components, c.2.Expressible
  operations : ∀ op ∈ d.operations, op.Expressible

namespace Record.View

theorem isJson_text (s : String) : (text s).toValue.IsJson := by
  simp [text, toValue, Value.IsJson]

theorem isJson_flag (b : Bool) : (flag b).toValue.IsJson := by
  simp [flag, toValue, Value.IsJson]

theorem isJson_value {v : Value} (h : v.IsJson) : (View.value v).toValue.IsJson := by
  rwa [toValue]

theorem isJson_record {fields : List (String × View)} (names : (fields.map Prod.fst).Nodup)
    (h : ∀ f ∈ fields, f.2.toValue.IsJson) : (View.record fields).toValue.IsJson := by
  rw [toValue, fieldValues_eq_map]
  exact Value.isJson_named toValue names h

/-- a mapping under different names -/
theorem isJson_mapping {α : Type} {named : List (String × α)} {view : α → View} (names : (named.map Prod.fst).Nodup)
    (h : ∀ a ∈ named, (view a.2).toValue.IsJson) :
    (View.mapping (named.map fun a => (.str a.1, view a.2))).toValue.IsJson := by
  rw [toValue, entryValues_eq_map, List.map_map]
  exact Value.isJson_named (fun a => (view a).toValue) names h

theorem isJson_sequence {α : Type} {items : List α} {view : α → View} (h : ∀ a ∈ items, (view a).toValue.IsJson) :
    (View.sequence (items.map view)).toValue.IsJson := by
  rw [toValue, itemValues_eq_map, Value.IsJson, Value.isJsonItems_iff, List.map_map, List.forall_mem_map]
  exact h

mutual

theorem isJson_ofNode : (n : Node) → n.Expressible → (ofNode n).toValue.IsJson
  | .scalar name, _ => by
    rw [ofNode]
    exact isJson_record (by simp) (by simp [isJson_text])
  | .array element, h => by
    rw [Node.Expressible] at h
    rw [ofNode]
    exact isJson_record (by simp) (by simp [isJson_text, isJson_ofNode element h])
  | .object fields, h => by
    rw [Node.Expressible] at h
    rw [ofNode]
    have inner : (View.mapping (ofFields fields)).toValue.IsJson := by
      rw [ofFields_eq_map]
      exact isJson_mapping h.1 (isJson_ofFields fields h.2)
    exact isJson_record (by simp) (by simp [isJson_text, inner])
  | .component name, _ => by
    rw [ofNode]
    exact isJson_record (by simp) (by simp [isJson_text])
  | .oneOf variants, h => by
    rw [Node.Expressible] at h
    rw [ofNode]
    have inner : (View.sequence (ofVariants variants)).toValue.IsJson := by
      rw [toValue, Value.IsJson]
      exact isJson_ofVariants variants h
    exact isJson_record (by simp) (by simp [isJson_text, inner])

theorem isJson_ofVariants : (variants : List Variant) → Node.VariantsExpressible variants →
    Value.IsJsonItems (itemValues (ofVariants variants))
  | [], _ => by simp [ofVariants, itemValues, Value.IsJsonItems]
  | .mk type sample standard :: rest, h => by
    rw [Node.VariantsExpressible] at h
    obtain ⟨⟨type', sample', standard'⟩, others⟩ := h
    rw [ofVariants, itemValues, Value.IsJsonItems]
    refine ⟨isJson_record (by simp) ?_, isJson_ofVariants rest others⟩
    simp [isJson_ofNode type type', isJson_value sample', isJson_value standard']

theorem isJson_ofFields : (fields : List (String × Node)) → Node.FieldsExpressible fields →
    ∀ f ∈ fields, (ofNode f.2).toValue.IsJson
  | [], _ => by simp
  | (name, node) :: rest, h => by
    rw [Node.FieldsExpressible] at h
    rw [List.forall_mem_cons]
    exact ⟨isJson_ofNode node h.1, isJson_ofFields rest h.2⟩

end

theorem isJson_ofProperty {p : Property} (h : p.Expressible) : (ofProperty p).toValue.IsJson := by
  refine isJson_record (by simp) ?_
  simp [isJson_text, isJson_flag, isJson_ofNode p.type h.1, isJson_value h.2]

theorem isJson_ofComponent {c : Component} (h : c.Expressible) : (ofComponent c).toValue.IsJson := by
  have required : (View.sequence (c.required.map ofProperty)).toValue.IsJson :=
    isJson_sequence fun p mem => isJson_ofProperty (h p (List.mem_append_left _ mem))
  have optional : (View.sequence (c.optional.map ofProperty)).toValue.IsJson :=
    isJson_sequence fun p mem => isJson_ofProperty (h p (List.mem_append_right _ mem))
  refine isJson_record (by simp) ?_
  simp [required, optional]

theorem isJson_ofParameter {p : Parameter} (h : p.sample.IsJson) : (ofParameter p).toValue.IsJson := by
  refine isJson_record (by simp) ?_
  simp [isJson_text, isJson_flag, isJson_value h]

theorem isJson_ofRequestBody {b : RequestBody} (h : ∀ schema ∈ b.schema?, schema.Expressible) :
    (ofRequestBody b).toValue.IsJson := by
  cases b with
  | json required contentType schema component =>
    have body := isJson_ofComponent (h schema rfl)
    have name : (ofOption text component).toValue.IsJson := by
      cases component with
      | none => simp [ofOption, toValue, Value.IsJson]
      | some name => exact isJson_text name
    refine isJson_record (by simp) ?_
    simp [isJson_text, isJson_flag, body, name]
  | unsupported contentType => exact isJson_record (by simp) (by simp [isJson_text])

theorem isJson_ofOperation {op : Operation} (h : op.Expressible) : (ofOperation op).toValue.IsJson := by
  have arguments : (View.sequence (op.arguments.map ofParameter)).toValue.IsJson :=
    isJson_sequence fun p mem => isJson_ofParameter (h.arguments p mem)
  have body : (ofOption ofRequestBody op.requestBody).toValue.IsJson := by
    cases given : op.requestBody with
    | none => simp [ofOption, toValue, Value.IsJson]
    | some b =>
      refine isJson_ofRequestBody fun schema mem => h.body schema ?_
      rw [Operation.bodySchema?, given]
      exact mem
  refine isJson_record (by simp) ?_
  simp [isJson_text, isJson_flag, arguments, body, isJson_ofNode op.responseType h.response]

end Record.View

namespace Documentation

open Record

theorem Expressible.isJson {d : Documentation} (h : d.Expressible) : d.toValue.IsJson := by
  have components : (View.mapping (d.components.map fun c => (.str c.1, View.ofComponent c.2))).toValue.IsJson :=
    View.isJson_mapping h.names fun c mem => View.isJson_ofComponent (h.components c mem)
  have operations : (View.sequence (d.operations.map View.ofOperation)).toValue.IsJson :=
    View.isJson_sequence fun op mem => View.isJson_ofOperation (h.operations op mem)
  refine View.isJson_record (by simp) ?_
  simp [components, operations]

/-- a text that reads as the value of a documentation dumps it -/
theorem ofDump?_of_read {d : Documentation} {dump : String} (h : Json.read dump = .ok d.toValue) :
    ofDump? dump = some d := by
  rw [ofDump?, h]
  simp only [documentation_toValue]
  rfl

/-- **A dump loses nothing.** Compact or indented, it is read back as the documentation itself, however its nodes are
nested and whatever its examples look like. -/
theorem dump_restored (d : Documentation) (h : d.Expressible) :
    ofDump? d.compactText = some d ∧ ofDump? d.indentedText = some d :=
  ⟨ofDump?_of_read (Json.read_compact h.isJson), ofDump?_of_read (Json.read_indented h.isJson 0)⟩

/-- a component with every kind of node, under examples that look like nodes themselves -/
def gallery : Documentation where
  components :=
    [("Painting",
      { required := [{
          name := "frames"
          type := .array (.oneOf [
            .mk (.object [("width", .scalar "integer"), ("a \"b\"", .component "Frame")])
              (.map [(.str "kind", .str "scalar"), (.str "name", .int 100000000000000000000000000000000000)]) .null,
            .mk (.scalar "string") (.str "back\\slash\n\u0001é") (.list [.bool true, .int (-1), .map []])])
          required := true }]
        optional := [{ name := "title", type := .scalar "string", sample := .list [] }] }),
      ("Frame", {})]
  operations :=
    [{ endpoint := "/hang", name := "hang", operationId := "hang", summary := "", method := .post,
       arguments := [{ name := "wall", location := "query", type := "integer", sample := .int 0 }],
       requestBody := some (.json true "application/json" { optional := [{ name := "at", type := .object [] }] } none),
       responseType := .component "Painting", group := "walls" },
      { endpoint := "/scan", name := "scan", operationId := "scan", summary := "", method := .post,
        requestBody := some (.unsupported "image/png"), responseType := .scalar "None", group := "" }]

theorem gallery_restored :
    gallery.Expressible ∧ ofDump? gallery.compactText = some gallery ∧ ofDump? gallery.indentedText = some gallery := by
  have expressible : gallery.Expressible := by
    refine ⟨by simp [gallery], ?_, ?_⟩
    · simp [gallery, Component.Expressible, Component.properties, Property.Expressible, Node.Expressible,
        Node.FieldsExpressible, Node.VariantsExpressible, Value.IsJson, Value.IsJsonItems, Value.IsJsonEntries,
        Value.DistinctKeys, Entries.same_str]
    · intro op mem
      simp only [gallery, List.mem_cons, List.not_mem_nil, or_false] at mem
      rcases mem with rfl | rfl
      · refine ⟨?_, ?_, ?_⟩ <;>
          simp [Operation.bodySchema?, RequestBody.schema?, Component.Expressible, Component.properties,
            Property.Expressible, Node.Expressible, Node.FieldsExpressible, Value.IsJson]
      · refine ⟨?_, ?_, ?_⟩ <;> simp [Operation.bodySchema?, RequestBody.schema?, Node.Expressible]
  exact ⟨expressible, dump_restored gallery expressible⟩

end Documentation

end ApiTypes
