/-
Places of refusals.

A refusal of a raw node names a place: a root and the steps from there to the node. For a component the root is its own
place below the configured one, for an operation it is the method of its path entry. An inline schema of a request body
is read as a component without a name, and the places in it lack all that leads to the schema.

Main statements: `located_normalize`, `Component.refusal_ofRaw` and `Operation.located_ofRaw`, the places of schemas,
components and operations; `refusals_placed`, the place of every refusal of a document; `inline_refusal_misplaced`, one
that misses its operation.
-/
import ApiTypes.Proofs.Accounting

namespace ApiTypes

variable {registry : Registry} {settings : Settings} {location base : Location} {lost : Fault → Prop}

/-! ## Steps -/

namespace Location

/-- the text of steps behind that of a place -/
def tail : List Step → String
  | [] => ""
  | step :: rest => "/" ++ step.text ++ tail rest

theorem text_steps (l : Location) (steps : List Step) : (l.down steps).text = l.text ++ tail steps := by
  have all (start : String) : steps.foldl (fun text step => text ++ "/" ++ step.text) start = start ++ tail steps := by
    induction steps generalizing start with
    | nil => simp [tail]
    | cons step rest ih => rw [List.foldl_cons, ih, tail, String.append_assoc, String.append_assoc, String.append_assoc]
  rw [text, down, List.foldl_append, all, text]

theorem down_down (l : Location) (steps more : List Step) : (l.down steps).down more = l.down (steps ++ more) := by
  simp [down]

theorem down_nil (l : Location) : l.down [] = l := by
  simp [down]

end Location

/-- the steps lead from the first value to the second -/
inductive Value.Leads : Value → List Location.Step → Value → Prop
  | here {v : Value} : Leads v [] v
  | word {v sub target : Value} {name : String} {rest : List Location.Step} : v.field? name = some sub →
      Leads sub rest target → Leads v (.word name :: rest) target
  | key {entries : Entries} {key sub target : Value} {rest : List Location.Step} : (key, sub) ∈ entries →
      Leads sub rest target → Leads (.map entries) (.key key :: rest) target
  | index {items : List Value} {i : Nat} {sub target : Value} {rest : List Location.Step} : items[i]? = some sub →
      Leads sub rest target → Leads (.list items) (.index i :: rest) target

theorem Value.Leads.trans {v sub target : Value} {steps more : List Location.Step} (h : Leads v steps sub)
    (rest : Leads sub more target) : Leads v (steps ++ more) target := by
  induction h with
  | here => exact rest
  | word found _ ih => exact .word found (ih rest)
  | key mem _ ih => exact .key mem (ih rest)
  | index found _ ih => exact .index found (ih rest)

theorem Value.leads_mapField {raw : Value} {name : String} {entries : Entries} (h : raw.mapField? name = some entries) :
    raw.Leads [.word name] (.map entries) := by
  obtain ⟨v, field, map⟩ := Option.bind_eq_some_iff.1 h
  obtain ⟨entries', rfl⟩ := Value.isMap_iff.1 (Option.isSome_iff_exists.2 ⟨_, map⟩)
  cases map
  exact .word field .here

/-! ## Stamps -/

namespace Component

variable {names : List Value} {key raw other : Value}

theorem without_put {entries : Entries} {name : String} {dropped : List String} (h : name ∈ dropped) (v : Value) :
    (Entries.put entries (.str name) v).without dropped = entries.without dropped := by
  have drop : dropped.any (Value.str name).isText = true := List.any_eq_true.2 ⟨name, h, by simp [Value.isText]⟩
  induction entries with
  | nil => simp [Entries.put, Entries.without, drop]
  | cons e rest ih =>
    obtain ⟨k, w⟩ := e
    rw [Entries.put]
    split_ifs with same
    · simp [Entries.without, Entries.same_str_right same, drop]
    · simp only [Entries.without, List.filter_cons] at ih ⊢
      rw [ih]

/-- the stamps of a property are no part of its schema -/
theorem schemaPart_stamp : Property.schemaPart (stamp names key raw) = Property.schemaPart raw := by
  cases raw with
  | map entries =>
    rw [stamp, Property.schemaPart, without_put (by decide), without_put (by decide), Property.schemaPart]
  | _ => rfl

theorem schemaPart_schemaPart : Property.schemaPart (Property.schemaPart raw) = Property.schemaPart raw := by
  cases raw with
  | map entries => simp [Property.schemaPart, Entries.without, List.filter_filter]
  | _ => rfl

theorem field?_of_part {name : String} (part : Property.schemaPart raw = Property.schemaPart other)
    (hn : name ≠ "name") (hr : name ≠ "required") : raw.field? name = other.field? name := by
  rw [← field?_schemaPart hn hr, part, field?_schemaPart hn hr]

end Component

/-! ## Refusals -/

/-- the fault refuses the node at this place -/
inductive Fault.Refuses : Fault → Value → Location → Prop
  | malformed (reason : Refusal) (node : Value) (location : Location) :
      Refuses (.malformed reason node location) node location
  | unresolved (component : String) (node : Value) (location : Location) :
      Refuses (.unresolved component node location) node location

/-- the steps lead from the raw value to the place of a refused node -/
inductive Pinpoints (raw : Value) : List Location.Step → Value → Prop
  /-- to the node itself; a property is refused as it is stamped with its name and judgement -/
  | node {steps held node} : raw.Leads steps held → Property.schemaPart node = Property.schemaPart held →
      Pinpoints raw steps node
  /-- to a schema that is absent or no mapping; then the node is null, or it is what holds the schema -/
  | schema {steps inner media node} : raw.Leads (steps ++ inner) media →
      (∀ schema, media.field? "schema" = some schema → schema.isMap = false) →
      node = .null ∨ raw.Leads steps node → Pinpoints raw (steps ++ inner ++ [.word "schema"]) node

theorem Pinpoints.below {raw sub node : Value} {steps more : List Location.Step} (leads : raw.Leads steps sub)
    (h : Pinpoints sub more node) : Pinpoints raw (steps ++ more) node := by
  cases h with
  | node there part => exact .node (leads.trans there) part
  | @schema before inner media _ there absent given =>
    rw [← List.append_assoc, ← List.append_assoc]
    refine .schema (by rw [List.append_assoc]; exact leads.trans there) absent (given.imp_right leads.trans)

/-- a refusal in the outcome is lost, or its place is below the base, and leads from the raw value to the node -/
def Located {α : Type} (lost : Fault → Prop) (raw : Value) (base : Location) (outcome : Except Fault α) : Prop :=
  ∀ fault node location, outcome = .error fault → fault.Refuses node location →
    lost fault ∨ ∃ steps, location = base.down steps ∧ Pinpoints raw steps node

section Located

variable {α β : Type} {raw : Value} {x : Except Fault α}

theorem located_ok (a : α) : Located lost raw base (.ok a : Except Fault α) := by
  rintro fault node location ⟨⟩

theorem located_of_not_refuses {fault : Fault} (h : ∀ node location, ¬ fault.Refuses node location) :
    Located lost raw base (.error fault : Except Fault α) := by
  rintro _ node location ⟨⟩ refuses
  exact absurd refuses (h node location)

theorem located_invalid (kind : Record.Kind) (issues : List Record.Issue) :
    Located lost raw base (.error (.invalid kind issues) : Except Fault α) :=
  located_of_not_refuses fun _ _ refuses => by cases refuses

/-- where nothing is lost, every refusal has its place -/
theorem Located.resolve (h : Located (fun _ => False) raw base x) {fault : Fault} {node : Value} {place : Location}
    (failed : x = .error fault) (refuses : fault.Refuses node place) :
    ∃ steps, place = base.down steps ∧ Pinpoints raw steps node :=
  (h fault node place failed refuses).resolve_left id

/-- the node at the base is refused -/
theorem located_here {reason : Refusal} {node : Value} (part : Property.schemaPart node = Property.schemaPart raw) :
    Located lost raw base (.error (.malformed reason node base) : Except Fault α) := by
  rintro _ _ _ ⟨⟩ ⟨⟩
  exact Or.inr ⟨[], (Location.down_nil _).symm, .node .here part⟩

theorem Located.below {sub : Value} {steps : List Location.Step} (leads : raw.Leads steps sub)
    (h : Located lost sub (base.down steps) x) : Located lost raw base x := by
  intro fault node location failed refuses
  rcases h fault node location failed refuses with astray | ⟨more, rfl, pinpoints⟩
  · exact Or.inl astray
  · exact Or.inr ⟨steps ++ more, Location.down_down _ _ _, pinpoints.below leads⟩

theorem Located.bind {f : α → Except Fault β} (h : Located lost raw base x)
    (next : ∀ a, x = .ok a → Located lost raw base (f a)) : Located lost raw base (x >>= f) := by
  intro fault node location failed refuses
  rcases bind_eq_error.1 failed with failed | ⟨a, ok, failed⟩
  · exact h fault node location failed refuses
  · exact next a ok fault node location failed refuses

theorem Located.map (h : Located lost raw base x) (f : α → β) : Located lost raw base (f <$> x) :=
  fun fault node location failed => h fault node location (map_eq_error.1 failed)

theorem located_mapM {check : α → Except Fault β} {items : List α}
    (h : ∀ item ∈ items, Located lost raw base (check item)) : Located lost raw base (items.mapM check) := by
  intro fault node location failed
  obtain ⟨item, reached, failed⟩ := mapM_eq_error.1 failed
  exact h item reached.mem fault node location failed

end Located

/-! ## Schemas -/

namespace Schema

theorem located_objectOf {raw : Value} (fields : List (Value × Node)) :
    Located lost raw base (objectOf fields) := by
  simp only [objectOf]
  split_ifs
  · exact located_ok _
  · exact located_invalid _ _

theorem located_propertyNode {raw : Value} (normal : Located lost raw location (normalize settings location raw)) :
    Located lost raw location (propertyNode settings location raw) := by
  unfold propertyNode
  split
  · rename_i fault shaped
    obtain ⟨reason, rfl⟩ := Shape.of_eq_error shaped
    exact located_here rfl
  · exact located_ok _
  · exact located_here rfl
  · exact normal

theorem located_normalizeItems {raw : Value} (normal : Located lost raw location (normalize settings location raw)) :
    Located lost raw location (normalizeItems settings location raw) := by
  rw [normalizeItems]
  split
  · rename_i fault shaped
    obtain ⟨reason, rfl⟩ := Shape.of_eq_error shaped
    exact located_here rfl
  · exact located_ok _
  · exact located_ok _
  · exact normal

/-- the places of a schema that is read in the place of another, from which it differs in its stamps -/
theorem located_normalize {raw other : Value} (part : Property.schemaPart raw = Property.schemaPart other) :
    Located lost other location (normalize settings location raw) := by
  -- only at the top does the schema stand in the place of another; everything below is read where it is
  induction raw using schema_induction generalizing location other with
  | step raw ih =>
    cases shaped : Shape.of raw location with
    | error fault =>
      obtain ⟨reason, rfl⟩ := Shape.of_eq_error shaped
      rw [normalize_of_error shaped]
      exact located_here part
    | ok shape =>
      have plain := Shape.of_eq_ok.1 shaped
      cases shape with
      | object =>
        obtain ⟨-, -, properties⟩ := keywords_of_object plain
        rw [Component.field?_of_part part (by decide) (by decide)] at properties
        rw [normalize_object plain]
        refine (located_mapM fun e mem => ?_).bind fun fields _ => located_objectOf fields
        refine Located.below (.word properties (.key mem .here)) ?_
        exact (located_propertyNode (ih e.2 (.property plain mem) rfl)).map _
      | array =>
        obtain ⟨-, -, items⟩ := keywords_of_array plain
        rw [Component.field?_of_part part (by decide) (by decide)] at items
        rw [normalize_array plain]
        refine Located.map ?_ _
        exact Located.below (.word items .here) (located_normalizeItems (ih _ (.items plain) rfl))
      | scalar =>
        rw [normalize_scalar shaped]
        exact located_ok _
      | reference =>
        rw [normalize_reference shaped]
        exact located_here part
      | opaqueNode =>
        rw [normalize_opaqueNode shaped]
        exact located_here part

end Schema

/-! ## Components -/

namespace Property

theorem located_ofValues {raw name description sample : Value} {type : Node} {required : Bool} :
    Located lost raw base (ofValues name type description sample required) := by
  unfold ofValues
  split
  · exact located_ok _
  · exact located_invalid _ _

theorem located_variantOf {raw : Value} : Located lost raw location (variantOf settings location raw) := by
  unfold variantOf
  dsimp only
  split
  · exact located_here rfl
  · split
    · exact located_ok _
    · exact located_ok _
    · exact located_here rfl

end Property

namespace Component

variable {names : List Value}

/-- the type of a property is read in its stamped form, which differs from the property in its stamps only -/
theorem located_propertyType {e : Value × Value} :
    Located lost e.2 (location.property e.1) (propertyType settings location names e) := by
  refine Located.bind ?_ fun shape shaped => ?_
  · unfold PropertyShape.of
    split
    · exact located_ok _
    · exact located_here schemaPart_stamp
  · rcases propertyShapeOf_cases (PropertyShape.of_eq_ok.1 shaped) with ⟨rfl, items, found⟩ | ⟨rfl, -⟩ | ⟨rfl, -⟩ |
      ⟨rfl, -⟩
    · simp only [Property.typeOf, found, Property.variantsOf_eq_mapM]
      rw [field?_stamp (by decide) (by decide)] at found
      refine Located.map (located_mapM fun item mem => ?_) Node.oneOf
      have inside := List.mk_mem_zipIdx_iff_getElem?.1 mem
      exact Located.below (.word found (.index inside .here)) Property.located_variantOf
    · exact Schema.located_normalize (schemaPart_schemaPart.trans schemaPart_stamp)
    · exact located_ok _
    · exact located_ok _

theorem located_propertyOf {e : Value × Value} :
    Located lost e.2 (location.property e.1) (propertyOf settings location names e) := by
  cases map : e.2.isMap with
  | true =>
    rw [propertyOf_of_isMap map]
    exact located_propertyType.bind fun _ _ => Property.located_ofValues
  | false =>
    rw [propertyOf, if_neg (by simp [map])]
    exact located_here rfl

theorem refusal_requiredNames {raw node : Value} {fault : Fault} {place : Location}
    (failed : requiredNames raw location = .error fault) (refuses : fault.Refuses node place) :
    place = location ∧ node = raw := by
  unfold requiredNames at failed
  split at failed
  · cases failed
  · split_ifs at failed
    split at failed
    · split at failed <;> cases failed
      cases refuses
    · cases failed
      cases refuses
      exact ⟨rfl, rfl⟩

/-- **A component is refused at its own place, or at a place below one of its properties.** -/
theorem refusal_ofRaw {name raw node : Value} {fault : Fault} {place : Location}
    (failed : (ofRaw settings name raw).result = .error fault) (refuses : fault.Refuses node place) :
    (place = placeOf settings name ∧ Pinpoints raw [] node) ∨
    ∃ key steps, place = ((placeOf settings name).property key).down steps ∧
      Pinpoints raw ([.word "properties", .key key] ++ steps) node := by
  rcases ofRaw_cases settings name raw with ⟨properties, found⟩ | ⟨-, -, result⟩ | ⟨reason, result⟩
  · rw [result_of_properties found] at failed
    rcases bind_eq_error.1 failed with required | ⟨names, -, failed⟩
    · obtain ⟨rfl, rfl⟩ := refusal_requiredNames required refuses
      exact Or.inl ⟨rfl, .node .here rfl⟩
    · obtain ⟨e, reached, failed⟩ := mapM_eq_error.1 (map_eq_error.1 failed)
      obtain ⟨steps, rfl, pinpoints⟩ := located_propertyOf.resolve failed refuses
      exact Or.inr ⟨e.1, steps, rfl, pinpoints.below (.word found (.key reached.mem .here))⟩
  · rw [result] at failed
    cases failed
  · rw [result] at failed
    cases failed
    cases refuses
    exact Or.inl ⟨rfl, .node .here rfl⟩

/-- the places of a component are below its own -/
theorem located_ofRaw {name raw : Value} :
    Located lost raw (placeOf settings name) (ofRaw settings name raw).result := by
  intro fault node place failed refuses
  rcases refusal_ofRaw failed refuses with ⟨rfl, here⟩ | ⟨key, steps, rfl, below⟩
  · exact Or.inr ⟨[], (Location.down_nil _).symm, here⟩
  · exact Or.inr ⟨_, Location.down_down _ _ _, below⟩

end Component

/-! ## Request bodies -/

namespace RequestBody

/-- the schema of the body is no reference, and the fault is that of a component without a name -/
def InlineFault (settings : Settings) (raw schema : Value) (fault : Fault) : Prop :=
  rawSchema? settings raw = some schema ∧ schema.textField? "$ref" = none ∧
    schema.field? "type" = some (.str "object") ∧ (Component.ofRaw settings (.str "") schema).result = .error fault

/-- the steps from a request body to its schema -/
def schemaSteps (settings : Settings) : List Location.Step :=
  [.word "content", .word settings.jsonContentType, .word "schema"]

theorem leads_content {raw media : Value} {content : Entries} (h : raw.mapField? "content" = some content)
    (found : content.find? settings.jsonContentType = some media) :
    raw.Leads [.word "content", .word settings.jsonContentType] media :=
  (Value.leads_mapField h).trans (.word found .here)

theorem leads_rawSchema {raw schema : Value} (h : rawSchema? settings raw = some schema) :
    raw.Leads (schemaSteps settings) schema := by
  simp only [rawSchema?, Option.bind_eq_bind, Option.bind_eq_some_iff, Option.ite_none_right_eq_some] at h
  obtain ⟨content, found, media, json, given, schemaFound, -, same⟩ := h
  cases same
  exact (leads_content found json).trans (.word schemaFound .here)

theorem located_schemaOfRaw {schema : Value}
    (astray : ∀ fault, schema.textField? "$ref" = none → schema.field? "type" = some (.str "object") →
      (Component.ofRaw settings (.str "") schema).result = .error fault → lost fault) :
    Located lost schema location (schemaOfRaw registry settings location schema).result := by
  rcases schemaOfRaw_cases registry settings location schema with ⟨ref, found⟩ | ⟨ref, typed⟩ | ⟨reason, result⟩
  · rw [schemaOfRaw_of_ref found]
    split
    · exact located_ok _
    · rintro _ _ _ ⟨⟩ ⟨⟩
      exact Or.inr ⟨[], (Location.down_nil _).symm, .node .here rfl⟩
  · rw [schemaOfRaw_inline ref typed]
    exact fun fault node place failed _ => Or.inl (astray fault ref typed (map_eq_error.1 failed))
  · rw [result]
    exact located_here rfl

/-- the places of a request body, apart from those in an inline schema -/
theorem located_ofRaw {raw : Value} (astray : ∀ schema fault, InlineFault settings raw schema fault → lost fault) :
    Located lost raw location (ofRaw registry settings location raw).result := by
  rcases ofRaw_cases registry settings location raw with ⟨-, result⟩ | ⟨contentType, foreign⟩ | ⟨schema, given⟩ |
    ⟨reason, place, result, rfl | ⟨rfl, content, media, entries, found, absent⟩⟩
  · rw [result]
    exact located_ok _
  · rw [result_of_foreign foreign]
    split
    · exact located_ok _
    · exact located_invalid _ _
  · rw [result_of_rawSchema given]
    refine Located.map (Located.below (leads_rawSchema given) (located_schemaOfRaw ?_)) _
    exact fun fault ref typed failed => astray schema fault ⟨given, ref, typed, failed⟩
  · rw [result]
    exact located_here rfl
  · rw [result]
    rintro _ _ _ ⟨⟩ ⟨⟩
    have leads : raw.Leads [.word "content", .word settings.jsonContentType] media := leads_content entries found
    exact Or.inr ⟨_, rfl, .schema leads absent (Or.inr .here)⟩

end RequestBody

/-! ## Parameters and responses -/

theorem Parameter.located_ofRaw {raw : Value} : Located lost raw location (ofRaw location raw) := by
  unfold ofRaw
  split
  · split
    · exact located_here rfl
    · unfold ofValues
      split
      · exact located_ok _
      · exact located_invalid _ _
  · exact located_here rfl

namespace Response

theorem mem_of_success {responses : Entries} {r : Value × Value} (h : success? settings responses = some r) :
    r ∈ responses := by
  unfold success? at h
  split at h
  · rename_i found
    cases h
    exact List.mem_of_find?_eq_some found
  · exact List.mem_of_find?_eq_some h

theorem located_typeOf {responses : Value} : Located lost responses location (typeOf settings location responses) := by
  unfold typeOf
  split
  · split
    · exact located_here rfl
    · rename_i status response success
      have there : (Value.map _).Leads [.key status] response := .key (mem_of_success success) .here
      split
      · rename_i contentType media rest content
        dsimp only
        split
        · exact located_ok _
        · have inside : response.Leads [.word "content", .key contentType] media :=
            (Value.leads_mapField content).trans (.key List.mem_cons_self .here)
          rintro _ _ _ ⟨⟩ ⟨⟩
          refine Or.inr ⟨_, rfl, ?_⟩
          -- a schema that is absent is refused as null, at the place where it would be
          cases schema : media.field? "schema" with
          | none =>
            exact .schema (there.trans inside) (by simp [schema]) (Or.inl rfl)
          | some given => exact .node (there.trans (inside.trans (.word schema .here))) rfl
      · exact Located.below there (located_here rfl)
  · exact located_here rfl

end Response

/-! ## Operations -/

namespace Operation

theorem located_argumentsOf {operation : Value} : Located lost operation location (argumentsOf location operation) := by
  unfold argumentsOf
  split
  · exact located_ok _
  · rename_i given found
    split
    · exact located_ok _
    · split
      · rename_i items _
        rw [Parameter.listOfRaw_eq_mapM]
        refine located_mapM fun item mem => ?_
        have inside := List.mk_mem_zipIdx_iff_getElem?.1 mem
        exact Located.below (.word found (.index inside .here)) Parameter.located_ofRaw
      · exact Located.below (.word found .here) (located_here rfl)

theorem located_bodyOf {method : Method} {operation : Value}
    (astray : ∀ schema fault, RequestBody.InlineFault settings (rawBody operation) schema fault → lost fault) :
    Located lost operation location (bodyOf registry settings location method operation) := by
  unfold bodyOf
  split
  · cases found : operation.field? "requestBody" with
    | none =>
      rw [rawBody, found]
      exact located_ok _
    | some raw =>
      have body : rawBody operation = raw := by rw [rawBody, found, Option.getD_some]
      rw [body] at astray ⊢
      exact Located.below (.word found .here) (RequestBody.located_ofRaw astray)
  · exact located_ok _

theorem located_ofValues {operation endpoint summary group : Value} {operationId : String} {deprecated : Bool}
    {method : Method} {arguments : List Parameter} {body : Option RequestBody} {type : Node} :
    Located lost operation location
      (ofValues endpoint operationId summary deprecated method arguments body type group) := by
  unfold ofValues
  split
  · exact located_ok _
  · exact located_invalid _ _

theorem parts_of_represented {entry operation : Value} {method : Method}
    (h : represented? settings entry = some (method, operation)) :
    entry.field? (methodTag entry).name = some operation ∧ ∀ key ∈ requiredKeys, operation.hasField key = true := by
  simp only [represented?, Option.bind_eq_bind, Option.bind_eq_some_iff] at h
  obtain ⟨method', tag, h⟩ := h
  obtain ⟨given, found⟩ := operation_of_method tag
  rw [found, Option.getD_some] at h
  split_ifs at h with lacking
  cases h
  rw [Bool.or_eq_true, not_or, Bool.not_eq_true', Bool.not_eq_false, List.all_eq_true] at lacking
  exact ⟨found, lacking.2⟩

/-- **The places of an operation are below its method**, apart from those in an inline schema of its body. -/
theorem located_ofRaw {path entry operation : Value} {method : Method}
    (represented : represented? settings entry = some (method, operation)) :
    Located (fun fault => ∃ schema, RequestBody.InlineFault settings (rawBody operation) schema fault) operation
      (placeOf path entry) (ofRaw registry settings path entry).result := by
  rw [result_ofRaw, represented]
  refine Located.map ?_ _
  rw [result_ofComplete]
  refine Located.bind located_argumentsOf fun arguments _ => ?_
  refine Located.bind (located_bodyOf fun schema _ h => ⟨schema, h⟩) fun body _ => ?_
  refine Located.bind ?_ fun id _ => Located.bind ?_ fun type _ => located_ofValues
  · unfold operationIdOf
    split
    · exact located_ok _
    · exact located_of_not_refuses fun _ _ refuses => by cases refuses
  · obtain ⟨responses, found⟩ := Value.hasField_iff.1 ((parts_of_represented represented).2 "responses" (by decide))
    rw [found, Option.getD_some]
    exact Located.below (.word found .here) Response.located_typeOf

theorem leads_rawBody {operation schema : Value}
    (h : RequestBody.rawSchema? settings (rawBody operation) = some schema) :
    operation.Leads [.word "requestBody"] (rawBody operation) := by
  cases found : operation.field? "requestBody" with
  | none =>
    rw [rawBody, found] at h
    cases h
  | some raw =>
    rw [rawBody, found]
    exact .word found .here

theorem text_placeOf (path entry : Value) :
    (placeOf path entry).text = "#/paths/" ++ path.display ++ "/" ++ (methodTag entry).name := by
  have root : "#" ++ "/" ++ "paths" ++ "/" = "#/paths/" := by decide
  rw [← root]
  rfl

end Operation

/-! ## Inline schemas -/

/-- a place below the top that a component without a name reports is not below the paths of the document -/
theorem Component.not_below_paths {raw node : Value} {fault : Fault} {place : Location}
    (failed : (ofRaw settings (.str "") raw).result = .error fault) (refuses : fault.Refuses node place) :
    ¬ ∃ rest, place.text = "#/paths" ++ rest := by
  have top : (placeOf settings (.str "")).text = "#" := rfl
  rintro ⟨rest, eq⟩
  have chars := congrArg String.toList eq
  rcases refusal_ofRaw failed refuses with ⟨rfl, -⟩ | ⟨key, steps, rfl, -⟩
  · rw [top] at chars
    simp at chars
  · rw [Location.text_steps, Location.property, Location.text_steps, top] at chars
    simp [Location.tail, Location.Step.text] at chars

/-! ## Documents -/

namespace Documentation

/-- where a refusal of a document is placed -/
inductive Placed (settings : Settings) (document : Value) (fault : Fault) (node : Value) (place : String) : Prop
  /-- a section that is no mapping -/
  | schemas : node = Registry.schemasOf document → node.isMap = false → place = "#/components/schemas" →
      Placed settings document fault node place
  | paths : node = pathsOf document → node.isMap = false → place = "#/paths" → Placed settings document fault node place
  /-- a component, at the steps that lead from its raw schema to the node -/
  | component {name raw steps} : Reaches (Registry.componentOf settings) (Registry.rawSchemas document) (name, raw) →
      Registry.componentOf settings (name, raw) = .error fault → Pinpoints raw steps node →
      place = (if name.isGiven then settings.refPrefix ++ name.display else "#") ++ Location.tail steps →
      Placed settings document fault node place
  /-- a path entry, at the steps that lead from its operation to the node -/
  | operation {registry path entry operation steps} :
      (Registry.ofDocument settings document).result = .ok registry →
      Reaches (operationOf registry settings) (rawPaths document) (path, entry) →
      operationOf registry settings (path, entry) = .error fault →
      entry.field? (methodTag entry).name = some operation → Pinpoints operation steps node →
      place = "#/paths/" ++ path.display ++ "/" ++ (methodTag entry).name ++ Location.tail steps →
      Placed settings document fault node place
  /-- an inline schema of a request body: the place lacks the steps that lead to the schema -/
  | inline {registry path entry operation schema steps} :
      (Registry.ofDocument settings document).result = .ok registry →
      Reaches (operationOf registry settings) (rawPaths document) (path, entry) →
      operationOf registry settings (path, entry) = .error fault →
      entry.field? (methodTag entry).name = some operation →
      RequestBody.InlineFault settings (Operation.rawBody operation) schema fault →
      Pinpoints operation ([.word "requestBody"] ++ RequestBody.schemaSteps settings ++ steps) node →
      place = "#" ++ Location.tail steps → ¬ (∃ rest, place = "#/paths" ++ rest) →
      Placed settings document fault node place

variable {document node : Value} {fault : Fault} {place : Location}

theorem placed_component {e : Value × Value}
    (reached : Reaches (Registry.componentOf settings) (Registry.rawSchemas document) e)
    (failed : Registry.componentOf settings e = .error fault) (refuses : fault.Refuses node place) :
    Placed settings document fault node place.text := by
  have failed' := map_eq_error.1 failed
  obtain ⟨steps, rfl, pinpoints⟩ := Component.located_ofRaw.resolve failed' refuses
  refine .component reached failed pinpoints ?_
  rw [Location.text_steps, Component.placeOf]
  split_ifs <;> rfl

theorem placed_operation {e : Value × Value} (built : (Registry.ofDocument settings document).result = .ok registry)
    (reached : Reaches (operationOf registry settings) (rawPaths document) e)
    (failed : operationOf registry settings e = .error fault) (refuses : fault.Refuses node place) :
    Placed settings document fault node place.text := by
  obtain ⟨path, entry⟩ := e
  cases represented : Operation.represented? settings entry with
  | none =>
    rw [operationOf, Operation.result_ofRaw, represented] at failed
    cases failed
  | some given =>
    obtain ⟨method, operation⟩ := given
    have found := (Operation.parts_of_represented represented).1
    rcases Operation.located_ofRaw represented _ _ _ failed refuses with ⟨schema, inline⟩ | ⟨steps, rfl, pinpoints⟩
    -- an inline schema is read as a component without a name, whose own place is the top
    · obtain ⟨given, -, -, astray⟩ := id inline
      have elsewhere := Component.not_below_paths astray refuses
      obtain ⟨steps, rfl, pinpoints⟩ := Component.located_ofRaw.resolve astray refuses
      have leads := (Operation.leads_rawBody given).trans (RequestBody.leads_rawSchema given)
      exact .inline built reached failed found inline (pinpoints.below leads) (Location.text_steps _ _) elsewhere
    · refine .operation built reached failed found pinpoints ?_
      rw [Location.text_steps, Operation.text_placeOf]

theorem placed_registry (map : document.isMap = true)
    (failed : (Registry.ofDocument settings document).result = .error fault) (refuses : fault.Refuses node place) :
    Placed settings document fault node place.text := by
  rw [Registry.result_ofDocument settings map] at failed
  split_ifs at failed
  · split at failed
    · rename_i schemas found
      obtain ⟨e, reached, failed⟩ := mapM_eq_error.1 failed
      refine placed_component ?_ failed refuses
      rwa [Registry.rawSchemas, found]
    · rename_i other plain
      cases failed
      cases refuses
      refine .schemas rfl ?_ rfl
      cases given : Registry.schemasOf document <;> first | rfl | exact absurd given (plain _)
  · cases failed
    cases refuses

theorem placed_operations (map : document.isMap = true)
    (built : (Registry.ofDocument settings document).result = .ok registry)
    (failed : (operationsOfDocument registry settings document).result = .error fault)
    (refuses : fault.Refuses node place) : Placed settings document fault node place.text := by
  rw [result_operationsOfDocument registry settings map] at failed
  split at failed
  · rename_i paths found
    obtain ⟨e, reached, failed⟩ := mapM_eq_error.1 (map_eq_error.1 failed)
    refine placed_operation built ?_ failed refuses
    rwa [rawPaths, found]
  · rename_i other plain
    cases failed
    cases refuses
    refine .paths rfl ?_ rfl
    cases given : pathsOf document <;> first | rfl | exact absurd given (plain _)

/-- **The place of every refusal.** A document that is refused at a node is refused for one of its sections, or for the
first component or path entry that is not accepted, and the place reported is that of the component or of the operation,
followed by the steps from there to the node. Only in an inline schema of a request body, and in a component whose name
is empty, the place starts at the top instead. -/
theorem refusals_placed (settings : Settings) (document : Value) {fault : Fault} {node : Value} {place : Location}
    (failed : (ofDocument settings document).result = .error fault) (refuses : fault.Refuses node place) :
    Placed settings document fault node place.text := by
  cases map : document.isMap with
  | false =>
    rw [result_of_not_map map] at failed
    cases failed
    cases refuses
  | true =>
    rw [result_ofDocument] at failed
    rcases bind_eq_error.1 failed with failed | ⟨registry, built, failed⟩
    · exact placed_registry map failed refuses
    rcases bind_eq_error.1 failed with failed | ⟨operations, -, failed⟩
    · exact placed_operations map built failed refuses
    rcases bind_eq_error.1 failed with failed | ⟨components, -, failed⟩
    · unfold Registry.keyed at failed
      dsimp only at failed
      split_ifs at failed
      cases failed
      cases refuses
    · cases failed

/-- an operation whose request body has an inline schema with a property that says nothing -/
def inlineDocument : Value :=
  let schema : Value := .map [(.str "type", .str "object"), (.str "properties", .map [(.str "x", .map [])])]
  let body : Value := .map [(.str "content", .map [(.str "application/json", .map [(.str "schema", schema)])])]
  .map [(.str "openapi", .str "3.0.0"), (.str "paths", .map [(.str "/p", .map [(.str "post", .map [
    (.str "operationId", .str "makeP"), (.str "summary", .str "s"), (.str "x-oaiMeta", .map [(.str "group", .str "g")]),
    (.str "requestBody", body), (.str "responses", .map [])])])])]

/-- the place of the property lacks the steps from its operation to the schema of the body -/
theorem inline_refusal_misplaced :
    let node : Value := .map [(.str "name", .str "x"), (.str "required", .bool false)]
    let fault : Fault := .malformed .unrecognisedProperty node (Location.top.property (.str "x"))
    (ofDocument {} inlineDocument).result = .error fault ∧ Placed {} inlineDocument fault node "#/properties/x" := by
  intro node fault
  have failed : (ofDocument {} inlineDocument).result = .error fault := by cbv
  exact ⟨failed, refusals_placed {} inlineDocument failed (.malformed _ _ _)⟩

end Documentation

end ApiTypes
