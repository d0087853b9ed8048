/-
The first schema that is refused.

The schemas inside a schema are visited in document order, each before those inside it: the properties of an object in
the order of the mapping, and the items of an array. Whether a schema is acceptable where it stands is told by its own
keywords. A schema is read without looking ahead, so that a refusal is always that of the first visit that is not
acceptable, with the steps that lead there.

Main statements: `visits_of_nodeAt`, by induction on the schema, what a reading says about the visits; `refused_first`,
a schema is refused exactly at the first visit that is not acceptable, and where that is.
-/
import ApiTypes.Proofs.Grammar
import ApiTypes.Proofs.Located

namespace ApiTypes.Schema

/-! ## Document order -/

/-- a step from a schema to one directly inside it -/
inductive Step where
  | property (key : Value)
  | items
  deriving Repr

namespace Step

/-- where a schema stands behind the step -/
def position : Step → Position
  | property _ => .property
  | items => .items

/-- the step in a location -/
def down : Step → List Location.Step
  | property key => [.word "properties", .key key]
  | items => [.word "items"]

def text : Step → String
  | property key => "/properties/" ++ key.display
  | items => "/items"

end Step

/-- the schemas directly inside a schema, in document order; none where a reference stands beside the type -/
def children (raw : Value) : List (Step × Value) :=
  match raw.field? "$ref", raw.textField? "type" with
  | none, some "object" => (propertiesOf raw).map fun e => (.property e.1, e.2)
  | none, some "array" => (raw.field? "items").toList.map fun items => (.items, items)
  | _, _ => []

theorem sizeOf_children_lt {raw : Value} {c : Step × Value} (h : c ∈ children raw) : sizeOf c.2 < sizeOf raw := by
  unfold children at h
  split at h
  · obtain ⟨e, mem, rfl⟩ := List.mem_map.1 h
    unfold propertiesOf at mem
    split at mem
    · rename_i properties found
      have inside := Entries.sizeOf_lt_of_mem mem
      have below := Value.sizeOf_field?_lt found
      have : sizeOf (Value.map properties) = 1 + sizeOf properties := by simp
      dsimp only
      omega
    · cases mem
  · obtain ⟨items, mem, rfl⟩ := List.mem_map.1 h
    exact Value.sizeOf_field?_lt (Option.mem_toList.1 mem)
  · cases h

/-- a schema inside a schema: the steps to it, where it stands, and the schema itself -/
structure Visit where
  steps : List Step
  position : Position
  node : Value
  deriving Repr

namespace Visit

/-- the visit as seen from the schema above -/
def below (step : Step) (v : Visit) : Visit := { v with steps := step :: v.steps }

/-- the steps in a location -/
def path (v : Visit) : List Location.Step := v.steps.flatMap Step.down

def text (v : Visit) : String := (v.steps.map Step.text).foldr (· ++ ·) ""

end Visit

/-- the schemas inside a schema in document order, itself first -/
def preorder (position : Position) (raw : Value) : List Visit :=
  ⟨[], position, raw⟩ :: (children raw).attach.flatMap fun ⟨c, _⟩ => (preorder c.1.position c.2).map (.below c.1)
termination_by sizeOf raw
decreasing_by exact sizeOf_children_lt ‹_›

theorem preorder_eq (position : Position) (raw : Value) : preorder position raw =
    ⟨[], position, raw⟩ :: (children raw).flatMap fun c => (preorder c.1.position c.2).map (.below c.1) := by
  rw [preorder, List.flatMap_subtype (fun _ _ => rfl), List.unattach_attach]

/-- the visit is the first that is not acceptable -/
structure IsFirst (visits : List Visit) (v : Visit) : Prop where
  split : ∃ before after, visits = before ++ v :: after ∧ ∀ w ∈ before, Acceptable w.position w.node
  refused : ¬ Acceptable v.position v.node

variable {settings : Settings} {location : Location} {position : Position} {raw : Value} {type : String}

/-! ## Children -/

theorem children_of_ref {given : Value} (found : raw.field? "$ref" = some given) : children raw = [] := by
  simp [children, found]

theorem children_untyped (untyped : raw.field? "type" = none) : children raw = [] := by
  simp [children, Value.textField?, untyped]

theorem children_object {properties : Entries} (typed : Typed raw "object")
    (found : raw.field? "properties" = some (.map properties)) :
    children raw = properties.map fun e => (.property e.1, e.2) := by
  simp [children, typed.1, Value.textField?_eq_some.2 typed.2, propertiesOf, found]

theorem children_array {items : Value} (typed : Typed raw "array") (found : raw.field? "items" = some items) :
    children raw = [(.items, items)] := by
  simp [children, typed.1, Value.textField?_eq_some.2 typed.2, found]

theorem children_plain (typed : Typed raw type) (plain : Plain raw type) : children raw = [] := by
  unfold children
  rw [typed.1, Value.textField?_eq_some.2 typed.2]
  split
  · rename_i object
    obtain ⟨properties, -⟩ := plain (Or.inl (Option.some.inj object))
    simp [propertiesOf, properties]
  · rename_i array
    obtain ⟨-, items⟩ := plain (Or.inr (Option.some.inj array))
    simp [items]
  · rfl

/-! ## Visits -/

theorem Visit.path_below (step : Step) (v : Visit) : (v.below step).path = step.down ++ v.path :=
  List.flatMap_cons

theorem leads_child {c : Step × Value} (h : c ∈ children raw) : raw.Leads c.1.down c.2 := by
  unfold children at h
  split at h
  · obtain ⟨e, mem, rfl⟩ := List.mem_map.1 h
    unfold propertiesOf at mem
    split at mem
    · rename_i properties found
      exact .word found (.key mem .here)
    · cases mem
  · obtain ⟨items, mem, rfl⟩ := List.mem_map.1 h
    exact .word (Option.mem_toList.1 mem) .here
  · cases h

theorem tail_property (key : Value) (rest : List Location.Step) :
    Location.tail ((Step.property key).down ++ rest) = (Step.property key).text ++ Location.tail rest := by
  have slash : "/" ++ Location.Step.text (.word "properties") ++ "/" = "/properties/" := rfl
  simp only [Step.down, List.cons_append, List.nil_append, Location.tail, ← String.append_assoc, slash]
  rfl

/-- a visit is where its steps lead to -/
theorem leads_of_mem_preorder {v : Visit} (h : v ∈ preorder position raw) : raw.Leads v.path v.node := by
  induction position, raw using preorder.induct generalizing v with
  | case1 position raw ih =>
    rw [preorder_eq, List.mem_cons, List.mem_flatMap] at h
    rcases h with rfl | ⟨c, mem, inside⟩
    · exact .here
    · obtain ⟨w, visited, rfl⟩ := List.mem_map.1 inside
      rw [Visit.path_below]
      exact (leads_child mem).trans (ih c mem visited)

/-- the text of a visit is written behind that of the place where the schema stands -/
theorem text_path (location : Location) (v : Visit) : (location.down v.path).text = location.text ++ v.text := by
  obtain ⟨steps, position, node⟩ := v
  rw [Location.text_steps]
  congr 1
  show Location.tail (steps.flatMap Step.down) = (steps.map Step.text).foldr (· ++ ·) ""
  induction steps with
  | nil => rfl
  | cons step rest ih =>
    rw [List.flatMap_cons, List.map_cons, List.foldr_cons, ← ih]
    cases step with
    | property key => exact tail_property key _
    | items => rfl

namespace IsFirst

variable {visits : List Visit} {v w : Visit}

theorem head (refused : ¬ Acceptable v.position v.node) : IsFirst (v :: visits) v :=
  ⟨⟨[], visits, rfl, by simp⟩, refused⟩

theorem mem (h : IsFirst visits v) : v ∈ visits := by
  obtain ⟨before, after, rfl, -⟩ := h.split
  simp

/-- there is one first visit only -/
theorem unique (h : IsFirst visits v) (h' : IsFirst visits w) : v = w := by
  obtain ⟨before, after, rfl, accepted⟩ := h.split
  obtain ⟨before', after', same, accepted'⟩ := h'.split
  rcases List.append_eq_append_iff.1 same with ⟨between, rfl, eq⟩ | ⟨between, rfl, eq⟩
  · cases between with
    | nil => exact (List.cons.inj eq).1
    | cons u between =>
      obtain rfl := (List.cons.inj eq).1
      exact absurd (accepted' _ (by simp)) h.refused
  · cases between with
    | nil => exact (List.cons.inj eq).1.symm
    | cons u between =>
      obtain rfl := (List.cons.inj eq).1
      exact absurd (accepted _ (by simp)) h'.refused

/-- the first visit inside a schema, where all that is before it is acceptable -/
theorem inside {before after : List (Step × Value)} {c : Step × Value} (split : children raw = before ++ c :: after)
    (here : Acceptable position raw)
    (passed : ∀ b ∈ before, ∀ u ∈ preorder b.1.position b.2, Acceptable u.position u.node)
    (h : IsFirst (preorder c.1.position c.2) v) : IsFirst (preorder position raw) (v.below c.1) := by
  obtain ⟨first, rest, eq, accepted⟩ := h.split
  let visitsOf (b : Step × Value) : List Visit := (preorder b.1.position b.2).map (.below b.1)
  refine ⟨⟨⟨[], position, raw⟩ :: before.flatMap visitsOf ++ first.map (.below c.1),
    rest.map (.below c.1) ++ after.flatMap visitsOf, ?_, ?_⟩, h.refused⟩
  · rw [preorder_eq, split, List.flatMap_append, List.flatMap_cons, eq]
    simp [visitsOf]
  · intro u mem
    rcases List.mem_append.1 mem with mem | mem
    · rcases List.mem_cons.1 mem with rfl | mem
      · exact here
      · obtain ⟨b, earlier, inside⟩ := List.mem_flatMap.1 mem
        obtain ⟨u, visited, rfl⟩ := List.mem_map.1 inside
        exact passed b earlier u visited
    · obtain ⟨u, visited, rfl⟩ := List.mem_map.1 mem
      exact accepted u visited

end IsFirst

/-! ## Refusals -/

/-- the node of a schema directly inside the one at `location` -/
def childNode (settings : Settings) (location : Location) (c : Step × Value) : Except Fault Node :=
  nodeAt settings c.1.position (location.down c.1.down) c.2

/-- what an outcome says about the schemas directly inside: all of them are read, or all up to the one refused -/
structure Passes (settings : Settings) (location : Location) (raw : Value) (outcome : Except Fault Node) : Prop where
  accepted : ∀ node, outcome = .ok node → ∀ c ∈ children raw, ∃ inner, childNode settings location c = .ok inner
  refused : ∀ reason node place, outcome = .error (.malformed reason node place) →
    ∃ c, Reaches (childNode settings location) (children raw) c ∧
      childNode settings location c = .error (.malformed reason node place)

/-- what an outcome says about the visits: all of them are acceptable, or the first that is not is the one refused -/
structure Visited (location : Location) (visits : List Visit) (outcome : Except Fault Node) : Prop where
  accepted : ∀ node, outcome = .ok node → ∀ v ∈ visits, Acceptable v.position v.node
  refused : ∀ reason node place, outcome = .error (.malformed reason node place) →
    ∃ v, IsFirst visits v ∧ v.node = node ∧ place = location.down v.path

theorem passes_alone {node : Node} (alone : children raw = []) : Passes settings location raw (.ok node) := by
  refine ⟨fun _ _ c mem => ?_, fun _ _ _ failed => ?_⟩
  · rw [alone] at mem
    cases mem
  · cases failed

theorem passes_object {properties : Entries} (typed : Typed raw "object")
    (found : raw.field? "properties" = some (.map properties)) :
    Passes settings location raw (properties.mapM (namedNode settings location) >>= objectOf) := by
  have child (e : Value × Value) :
      namedNode settings location e = (e.1, ·) <$> childNode settings location (.property e.1, e.2) := rfl
  have read (e : Value × Value) (f : Value × Node) (made : namedNode settings location e = .ok f) :
      ∃ inner, childNode settings location (.property e.1, e.2) = .ok inner := by
    obtain ⟨inner, read, -⟩ := map_eq_ok.1 ((child e).symm.trans made)
    exact ⟨inner, read⟩
  constructor
  · intro node built c mem
    obtain ⟨named, built, -⟩ := bind_eq_ok.1 built
    rw [children_object typed found] at mem
    obtain ⟨e, inside, rfl⟩ := List.mem_map.1 mem
    obtain ⟨f, -, made⟩ := exists_of_mem_items (mapM_eq_ok.1 built) inside
    exact read e f made
  · intro reason node place failed
    rcases bind_eq_error.1 failed with failed | ⟨named, -, failed⟩
    · obtain ⟨e, ⟨before, after, rfl, passed⟩, refused⟩ := mapM_eq_error.1 failed
      have split := children_object typed found
      rw [List.map_append, List.map_cons] at split
      refine ⟨_, ⟨_, _, split, fun c mem => ?_⟩, map_eq_error.1 ((child e).symm.trans refused)⟩
      obtain ⟨b, earlier, rfl⟩ := List.mem_map.1 mem
      obtain ⟨f, made⟩ := passed b earlier
      exact read b f made
    -- a name that is no text is an issue of the record, and no schema is refused
    · rw [objectOf] at failed
      split_ifs at failed
      cases failed

theorem passes_array {items : Value} (typed : Typed raw "array") (found : raw.field? "items" = some items) :
    Passes settings location raw (Node.array <$> nodeAt settings .items location.items items) := by
  have only := children_array typed found
  constructor
  · intro node built c mem
    rw [only] at mem
    obtain rfl := List.mem_singleton.1 mem
    obtain ⟨inner, read, -⟩ := map_eq_ok.1 built
    exact ⟨inner, read⟩
  · intro reason node place failed
    refine ⟨(.items, items), ?_, map_eq_error.1 failed⟩
    rw [only]
    exact ⟨[], [], rfl, by simp⟩

/-- what is known of the visits below the schemas directly inside is known of all visits -/
theorem Passes.visited {outcome : Except Fault Node} (passes : Passes settings location raw outcome)
    (here : Acceptable position raw)
    (below : ∀ c ∈ children raw, Visited (location.down c.1.down) (preorder c.1.position c.2)
      (childNode settings location c)) :
    Visited location (preorder position raw) outcome := by
  constructor
  · intro node built v mem
    rw [preorder_eq, List.mem_cons, List.mem_flatMap] at mem
    rcases mem with rfl | ⟨c, child, inside⟩
    · exact here
    · obtain ⟨w, visited, rfl⟩ := List.mem_map.1 inside
      obtain ⟨inner, read⟩ := passes.accepted node built c child
      exact (below c child).accepted inner read w visited
  · intro reason node place failed
    obtain ⟨c, ⟨before, after, split, read⟩, failed⟩ := passes.refused reason node place failed
    have child : c ∈ children raw := by simp [split]
    obtain ⟨v, first, rfl, rfl⟩ := (below c child).refused reason node place failed
    refine ⟨v.below c.1, .inside split here (fun b earlier u visited => ?_) first, rfl, ?_⟩
    · obtain ⟨inner, read⟩ := read b earlier
      exact (below b (by simp [split, earlier])).accepted inner read u visited
    · rw [Location.down_down, Visit.path_below]

/-- **A reading comes through all visits, or is refused at the first that is not acceptable.** -/
theorem visits_of_nodeAt (settings : Settings) (location : Location) (position : Position) (raw : Value) :
    Visited location (preorder position raw) (nodeAt settings position location raw) := by
  induction position, raw using preorder.induct generalizing location with
  | case1 position raw ih =>
    have below (c : Step × Value) (mem : c ∈ children raw) := ih c mem (location.down c.1.down)
    have read := reads settings location position raw
    generalize nodeAt settings position location raw = outcome at read
    cases read with
    | refused reason refused =>
      refine ⟨fun _ failed => ?_, fun _ _ _ failed => ?_⟩
      · cases failed
      · cases failed
        rw [preorder_eq]
        exact ⟨_, .head refused, rfl, (Location.down_nil location).symm⟩
    | reference notTop found => exact (passes_alone (children_of_ref found)).visited (.reference notTop found) below
    | untyped map ref type => exact (passes_alone (children_untyped type)).visited (.untyped map ref type) below
    | object typed found items =>
      exact (passes_object typed found).visited (.typed typed (.of_object found items)) below
    | array typed found properties =>
      exact (passes_array typed found).visited (.typed typed (.of_array properties)) below
    | scalar typed plain =>
      exact (passes_alone (children_plain typed plain)).visited (.typed typed plain.consistent) below

/-- **A schema is refused at the first schema in it that is not acceptable.** The refusal names that schema and the
steps that lead to it, behind the place where the reading starts; and where such a schema is, there is a refusal. -/
theorem refused_first (settings : Settings) (location : Location) (raw : Value) :
    (∀ reason node place, normalize settings location raw = .error (.malformed reason node place) →
      ∃ v, IsFirst (preorder .top raw) v ∧ v.node = node ∧ raw.Leads v.path node ∧ place = location.down v.path ∧
        place.text = location.text ++ v.text) ∧
    (TextNamed raw → ∀ v, IsFirst (preorder .top raw) v →
      ∃ reason, normalize settings location raw = .error (.malformed reason v.node (location.down v.path))) := by
  have visited := visits_of_nodeAt settings location .top raw
  refine ⟨fun reason node place failed => ?_, fun named v first => ?_⟩
  · obtain ⟨v, first, rfl, rfl⟩ := visited.refused reason node place failed
    exact ⟨v, first, rfl, leads_of_mem_preorder first.mem, rfl, text_path location v⟩
  · rcases named.ok_or_refused settings location .top with ⟨node, read⟩ | ⟨reason, node, place, failed⟩
    · exact absurd (visited.accepted node read v first.mem) first.refused
    · obtain ⟨w, other, rfl, rfl⟩ := visited.refused reason node place failed
      obtain rfl := first.unique other
      exact ⟨reason, failed⟩

/-- an object without a type for its first property, and with a list in the place of the second -/
def shelfRow : Value :=
  .map [(.str "type", .str "object"), (.str "properties", .map [(.str "title", .map []), (.str "year", .list [])])]

def shelfLabel : Value := .map [(.str "type", .str "string")]

def shelfRows : Value := .map [(.str "type", .str "array"), (.str "items", shelfRow)]

/-- rows, behind a label that can be read -/
def shelf : Value :=
  .map [(.str "type", .str "object"), (.str "properties", .map [(.str "label", shelfLabel), (.str "rows", shelfRows)])]

theorem textNamed_shelfRow : TextNamed shelfRow := by
  refine .object rfl rfl fun e mem => ?_
  simp only [List.mem_cons, List.not_mem_nil, or_false] at mem
  rcases mem with rfl | rfl <;> exact ⟨⟨_, rfl⟩, .plain rfl rfl⟩

theorem textNamed_shelf : TextNamed shelf := by
  refine .object rfl rfl fun e mem => ?_
  simp only [List.mem_cons, List.not_mem_nil, or_false] at mem
  rcases mem with rfl | rfl
  · exact ⟨⟨_, rfl⟩, .plain rfl rfl⟩
  · exact ⟨⟨_, rfl⟩, .array rfl rfl textNamed_shelfRow⟩

theorem isFirst_shelf : IsFirst (preorder .top shelf)
    ⟨[.property (.str "rows"), .items, .property (.str "title")], .property, .map []⟩ := by
  have title : ¬ Acceptable .property (.map []) := by
    intro acceptable
    cases acceptable with
    | reference _ found => cases found
    | typed typed => cases typed.2
  have first : IsFirst (preorder .property (.map [])) ⟨[], .property, .map []⟩ := by
    rw [preorder_eq]
    exact .head title
  have read : nodeAt {} .property .top shelfLabel = .ok (.scalar "string") :=
    nodeAt_scalar ⟨rfl, rfl⟩ fun other => absurd other (by decide)
  have row : children shelfRow =
      [] ++ (.property (.str "title"), .map []) :: [(.property (.str "year"), .list [])] := rfl
  have rows : children shelfRows = [] ++ (.items, shelfRow) :: [] := rfl
  have top : children shelf =
      [(.property (.str "label"), shelfLabel)] ++ (.property (.str "rows"), shelfRows) :: [] := rfl
  have inRow : IsFirst (preorder .items shelfRow) _ :=
    .inside row (.typed ⟨rfl, rfl⟩ (.of_object rfl rfl)) (by simp) first
  have inRows : IsFirst (preorder .property shelfRows) _ :=
    .inside rows (.typed ⟨rfl, rfl⟩ (.of_array rfl)) (by simp) inRow
  refine IsFirst.inside top (.typed ⟨rfl, rfl⟩ (.of_object rfl rfl)) (fun b mem u visited => ?_) inRows
  obtain rfl := List.mem_singleton.1 mem
  exact (visits_of_nodeAt {} .top .property shelfLabel).accepted _ read u visited

/-- of the two bad schemas inside each row the first is refused, at its place -/
theorem shelf_refused : TextNamed shelf ∧ ∃ reason place,
    normalize {} .top shelf = .error (.malformed reason (.map []) place) ∧
      place.text = "#/properties/rows/items/properties/title" := by
  obtain ⟨reason, failed⟩ := (refused_first {} .top shelf).2 textNamed_shelf _ isFirst_shelf
  obtain ⟨v, first, -, -, -, text⟩ := (refused_first {} .top shelf).1 _ _ _ failed
  obtain rfl := first.unique isFirst_shelf
  exact ⟨textNamed_shelf, reason, _, failed, text⟩

end ApiTypes.Schema
