/-
Decoding changes nothing but the kinds of keys.

A decoded payload is the payload with lists for tuples, where each text key is marked as known or unknown. Every step of
decoding reports the undeclared names that it comes to and that were not reported before (`Reports`), and steps compose
by `Reports.bind`; so a whole payload reports each undeclared name once, where it first occurs.

A vocabulary keeps nothing of the calls that are made on it. `Session` is a vocabulary in use, with what its user keeps
between calls and what the log holds.

Main statements: `reports_decodeValue`, by induction on the payload; `dict_marked`, no two keys of a mapping become one;
`decode_faithful`, what decoding gives and reports after any calls.
-/
import Mathlib.Data.List.Basic
import ApiTypes.Proofs.Traversal
import ApiTypes.Vocabulary.Decode

namespace ApiTypes

/-! ## Payloads -/

namespace Value

mutual

/-- the value with lists for tuples, keys apart -/
def listed : Value → Value
  | list items => .list (listedItems items)
  | tuple items => .list (listedItems items)
  | map entries => .map (listedEntries entries)
  | scalar => scalar

def listedItems : List Value → List Value
  | [] => []
  | v :: rest => listed v :: listedItems rest

def listedEntries : List (Value × Value) → List (Value × Value)
  | [] => []
  | (key, v) :: rest => (key, listed v) :: listedEntries rest

end

mutual

/-- the text keys of a value at any depth, a key before those of its value -/
def textKeys : Value → List String
  | list items => itemKeys items
  | tuple items => itemKeys items
  | map entries => entryKeys entries
  | _ => []

def itemKeys : List Value → List String
  | [] => []
  | v :: rest => textKeys v ++ itemKeys rest

def entryKeys : List (Value × Value) → List String
  | [] => []
  | (key, v) :: rest => key.text?.toList ++ textKeys v ++ entryKeys rest

end

/-- the keys of these entries are different from each other -/
def DistinctKeys (entries : Entries) : Prop := entries.Pairwise fun e f => e.1.same f.1 = false

mutual

/-- the keys of each mapping in the value are different from each other -/
def Proper : Value → Prop
  | list items => ProperItems items
  | tuple items => ProperItems items
  | map entries => DistinctKeys entries ∧ ProperEntries entries
  | _ => True

def ProperItems : List Value → Prop
  | [] => True
  | v :: rest => Proper v ∧ ProperItems rest

def ProperEntries : List (Value × Value) → Prop
  | [] => True
  | (_, v) :: rest => Proper v ∧ ProperEntries rest

end

end Value

namespace Payload

mutual

/-- the payload with each mapping put together entry by entry, so that equal keys would become one -/
def dict : Payload → Value
  | scalar value => value
  | list items => .list (itemDicts items)
  | map entries => .map (Entries.ofPairs (entryDicts entries))

def itemDicts : List Payload → List Value
  | [] => []
  | p :: rest => dict p :: itemDicts rest

def entryDicts : List (Key × Payload) → List (Value × Value)
  | [] => []
  | (key, p) :: rest => (key.toValue, dict p) :: entryDicts rest

end

mutual

/-- the keys of a payload at any depth, a key before those of its value -/
def keys : Payload → List Key
  | scalar _ => []
  | list items => itemKeys items
  | map entries => entryKeys entries

def itemKeys : List Payload → List Key
  | [] => []
  | p :: rest => keys p ++ itemKeys rest

def entryKeys : List (Key × Payload) → List Key
  | [] => []
  | (key, p) :: rest => key :: (keys p ++ entryKeys rest)

end

end Payload

namespace Vocabulary

/-- the key that a name becomes -/
def mark (v : Vocabulary) (name : Value) : Key :=
  match name with
  | .str text => if v.contains text then .known text else .unknown text
  | other => .other other

mutual

/-- the payload with every key marked -/
def marked (v : Vocabulary) : Value → Payload
  | .list items => .list (markedItems v items)
  | .tuple items => .list (markedItems v items)
  | .map entries => .map (markedEntries v entries)
  | scalar => .scalar scalar

def markedItems (v : Vocabulary) : List Value → List Payload
  | [] => []
  | item :: rest => marked v item :: markedItems v rest

def markedEntries (v : Vocabulary) : List (Value × Value) → List (Key × Payload)
  | [] => []
  | (key, value) :: rest => (v.mark key, marked v value) :: markedEntries v rest

end

/-- the names that the vocabulary does not hold -/
def undeclared (v : Vocabulary) (names : List String) : List String := names.filter fun name => !v.contains name

theorem undeclared_append (v : Vocabulary) (names more : List String) :
    v.undeclared (names ++ more) = v.undeclared names ++ v.undeclared more :=
  List.filter_append names more

/-! ## Names that are held -/

/-- every text is held under itself -/
def Faithful (entries : List (Value × String)) : Prop := ∀ e ∈ entries, ∀ text, e.1 = .str text → e.2 = text

theorem faithful_hold {entries : List (Value × String)} (h : Faithful entries) (name : Value) :
    Faithful (hold entries name) := by
  have own : ∀ text, name = .str text → name.display = text := by
    rintro text rfl
    rfl
  induction entries with
  | nil =>
    intro e he text key
    obtain rfl := List.mem_singleton.1 he
    exact own text key
  | cons e rest ih =>
    obtain ⟨held, shown⟩ := e
    have further : Faithful rest := fun f hf => h f (List.mem_cons_of_mem _ hf)
    unfold hold
    split
    · rename_i same
      intro f hf text key
      rcases List.mem_cons.1 hf with rfl | hf
      · obtain rfl : held = .str text := key
        have other : name = .str text := by
          cases name <;> simp_all [Value.same, Value.sameScalar]
        exact own text other
      · exact further f hf text key
    · intro f hf text key
      rcases List.mem_cons.1 hf with rfl | hf
      · exact h _ List.mem_cons_self text key
      · exact ih further f hf text key

/-- the vocabularies that there are: made from names or from a documentation -/
inductive Made : Vocabulary → Prop
  | names (names : List Value) : Made (ofNames names)
  | documentation (d : Documentation) : Made (ofDocumentation d)

theorem Made.faithful {v : Vocabulary} (h : Made v) : Faithful v.entries := by
  cases h with
  | names names =>
    have all : ∀ entries, Faithful entries → Faithful (names.foldl hold entries) := by
      induction names with
      | nil => exact fun entries held => held
      | cons name rest ih => exact fun entries held => ih _ (faithful_hold held name)
    exact all [] (by simp [Faithful])
  | documentation d =>
    intro e he text key
    obtain ⟨name, -, rfl⟩ := List.mem_map.1 he
    exact Value.str.inj key

theorem Made.find?_str {v : Vocabulary} (h : Made v) (name : String) :
    v.find? (.str name) = if v.contains name then some name else none := by
  unfold contains
  cases found : v.find? (.str name) with
  | none => rfl
  | some text =>
    obtain ⟨e, he, rfl⟩ := Option.map_eq_some_iff.1 found
    have same := Entries.same_str_right (List.find?_some (p := fun e : Value × String => e.1.same (.str name)) he)
    simp [h.faithful e (List.mem_of_find?_eq_some he) name same]

/-! ## What a step reports -/

/-- the notice for a name that is not declared -/
def notice (name : String) : Notice := .undeclaredField (.str name)

/-- the names that are reported for `names` when `reported` were reported before: each new one where it first occurs -/
def news (reported names : List String) : List String := (names.removeAll reported).eraseDups

/-- a step of decoding gives `x`, and reports those of `names` that are new -/
def Reports {α : Type} (step : Decoding α) (x : α) (names : List String) : Prop :=
  ∀ reported, step reported = ⟨(x, reported ++ news reported names), (news reported names).map notice⟩

theorem news_append (reported names more : List String) :
    news reported (names ++ more) = news reported names ++ news (reported ++ news reported names) more := by
  have same : (more.removeAll reported).removeAll (names.removeAll reported) =
      more.removeAll (reported ++ news reported names) := by
    simp only [List.removeAll, List.filter_filter, news]
    refine List.filter_congr fun name _ => ?_
    rw [Bool.eq_iff_iff]
    simp
    tauto
  rw [news, List.removeAll, List.filter_append, List.eraseDups_append]
  exact congrArg (news reported names ++ ·.eraseDups) same

section

variable {α β : Type} {x : α} {y : β} {names more : List String}

theorem reports_pure (x : α) : Reports (pure x) x [] := by
  intro reported
  simp [news, List.removeAll]
  rfl

theorem Reports.bind {step : Decoding α} (next : α → Decoding β) (h : Reports step x names)
    (h' : Reports (next x) y more) : Reports (step >>= next) y (names ++ more) := by
  intro reported
  have run : (step >>= next) reported = step reported >>= fun r => next r.1 r.2 := rfl
  rw [run, h, news_append]
  refine Noted.ext ?_ ?_
  · rw [Noted.bind_value, h', ← List.append_assoc]
  · rw [Noted.bind_notices, h', List.map_append]

theorem Reports.map {step : Decoding α} (f : α → β) (h : Reports step x names) :
    Reports (do return f (← step)) (f x) names := by
  simpa using h.bind (fun a => pure (f a)) (reports_pure (f x))

end

/-! ## Decoding -/

variable {v : Vocabulary}

/-- a name is marked, and reported if it is undeclared and was not reported before -/
theorem reports_resolveOnce (made : Made v) (name : String) :
    Reports (resolveOnce v name) (v.mark (.str name)) (v.undeclared [name]) := by
  intro reported
  rw [resolveOnce, made.find?_str, mark, undeclared]
  by_cases held : v.contains name = true
  · simp [held, news, List.removeAll]
    rfl
  · by_cases before : name ∈ reported
    · simp [held, before, news, List.removeAll]
      rfl
    · simp [held, before, news, List.removeAll]
      rfl

mutual

/-- **What decoding gives and reports**, part by part -/
theorem reports_decodeValue (made : Made v) :
    (p : Value) → Reports (decodeValue v p) (v.marked p) (v.undeclared p.textKeys)
  | .list items => by
    rw [decodeValue, marked, Value.textKeys]
    exact (reports_decodeItems made items).map Payload.list
  | .tuple items => by
    rw [decodeValue, marked, Value.textKeys]
    exact (reports_decodeItems made items).map Payload.list
  | .map entries => by
    rw [decodeValue, marked, Value.textKeys]
    exact (reports_decodeEntries made entries).map Payload.map
  | .null | .bool _ | .int _ | .float _ | .str _ | .date _ | .moment _ =>
    by simpa [decodeValue, marked, Value.textKeys, undeclared] using reports_pure _

theorem reports_decodeItems (made : Made v) :
    (items : List Value) → Reports (decodeItems v items) (v.markedItems items) (v.undeclared (Value.itemKeys items))
  | [] => by simpa [decodeItems, markedItems, Value.itemKeys, undeclared] using reports_pure _
  | item :: rest => by
    rw [decodeItems, markedItems, Value.itemKeys, undeclared_append]
    exact (reports_decodeValue made item).bind (fun payload => do return payload :: (← decodeItems v rest))
      ((reports_decodeItems made rest).map (v.marked item :: ·))

theorem reports_decodeEntries (made : Made v) : (entries : List (Value × Value)) →
    Reports (decodeEntries v entries) (v.markedEntries entries) (v.undeclared (Value.entryKeys entries))
  | [] => by simpa [decodeEntries, markedEntries, Value.entryKeys, undeclared] using reports_pure _
  | (key, value) :: rest => by
    have behind := (reports_decodeValue made value).bind
      (fun payload => do return (v.mark key, payload) :: (← decodeEntries v rest))
      ((reports_decodeEntries made rest).map ((v.mark key, v.marked value) :: ·))
    rw [markedEntries, Value.entryKeys, undeclared_append, undeclared_append, List.append_assoc]
    -- a text key is resolved before its value is decoded; any other key is kept
    cases key with
    | str name =>
      rw [decodeEntries]
      exact (reports_resolveOnce made name).bind _ behind
    | _ =>
      rw [decodeEntries]
      · simpa [Value.text?, undeclared, mark] using behind
      · simp

end

theorem decode_eq (made : Made v) (p : Value) :
    decode v p = ⟨v.marked p, ((v.undeclared p.textKeys).eraseDups).map notice⟩ := by
  have run : decode v p = decodeValue v p [] >>= fun r => pure r.1 := rfl
  have nothing : news [] (v.undeclared p.textKeys) = (v.undeclared p.textKeys).eraseDups := by
    simp [news, List.removeAll]
  rw [run, reports_decodeValue made p [], nothing]
  exact Noted.ext rfl (List.append_nil _)

/-! ## What is kept -/

theorem toValue_mark (v : Vocabulary) (key : Value) : (v.mark key).toValue = key := by
  unfold mark
  split
  · split <;> rfl
  · rfl

mutual

theorem toValue_marked (v : Vocabulary) : (p : Value) → (v.marked p).toValue = p.listed
  | .list items => by rw [marked, Payload.toValue, itemValues_markedItems v items, Value.listed]
  | .tuple items => by rw [marked, Payload.toValue, itemValues_markedItems v items, Value.listed]
  | .map entries => by rw [marked, Payload.toValue, entryValues_markedEntries v entries, Value.listed]
  | .null | .bool _ | .int _ | .float _ | .str _ | .date _ | .moment _ =>
    by simp [marked, Payload.toValue, Value.listed]

theorem itemValues_markedItems (v : Vocabulary) :
    (items : List Value) → Payload.itemValues (v.markedItems items) = Value.listedItems items
  | [] => by simp [markedItems, Payload.itemValues, Value.listedItems]
  | item :: rest => by
    rw [markedItems, Payload.itemValues, toValue_marked v item, itemValues_markedItems v rest, Value.listedItems]

theorem entryValues_markedEntries (v : Vocabulary) :
    (entries : List (Value × Value)) → Payload.entryValues (v.markedEntries entries) = Value.listedEntries entries
  | [] => by simp [markedEntries, Payload.entryValues, Value.listedEntries]
  | (key, value) :: rest => by
    rw [markedEntries, Payload.entryValues, toValue_mark, toValue_marked v value, entryValues_markedEntries v rest,
      Value.listedEntries]

end

mutual

/-- tuples do not matter to what is marked -/
theorem marked_listed (v : Vocabulary) : (p : Value) → v.marked p.listed = v.marked p
  | .list items => by rw [Value.listed, marked, marked, markedItems_listedItems v items]
  | .tuple items => by rw [Value.listed, marked, marked, markedItems_listedItems v items]
  | .map entries => by rw [Value.listed, marked, marked, markedEntries_listedEntries v entries]
  | .null | .bool _ | .int _ | .float _ | .str _ | .date _ | .moment _ => by rw [Value.listed] <;> simp

theorem markedItems_listedItems (v : Vocabulary) :
    (items : List Value) → v.markedItems (Value.listedItems items) = v.markedItems items
  | [] => rfl
  | item :: rest => by
    rw [Value.listedItems, markedItems, markedItems, marked_listed v item, markedItems_listedItems v rest]

theorem markedEntries_listedEntries (v : Vocabulary) :
    (entries : List (Value × Value)) → v.markedEntries (Value.listedEntries entries) = v.markedEntries entries
  | [] => rfl
  | (key, value) :: rest => by
    rw [Value.listedEntries, markedEntries, markedEntries, marked_listed v value, markedEntries_listedEntries v rest]

end

mutual

/-- tuples do not matter to which keys there are -/
theorem textKeys_listed : (p : Value) → p.listed.textKeys = p.textKeys
  | .list items => by rw [Value.listed, Value.textKeys, Value.textKeys, itemKeys_listedItems items]
  | .tuple items => by rw [Value.listed, Value.textKeys, Value.textKeys, itemKeys_listedItems items]
  | .map entries => by rw [Value.listed, Value.textKeys, Value.textKeys, entryKeys_listedEntries entries]
  | .null | .bool _ | .int _ | .float _ | .str _ | .date _ | .moment _ => by rw [Value.listed] <;> simp

theorem itemKeys_listedItems : (items : List Value) → Value.itemKeys (Value.listedItems items) = Value.itemKeys items
  | [] => rfl
  | item :: rest => by
    rw [Value.listedItems, Value.itemKeys, Value.itemKeys, textKeys_listed item, itemKeys_listedItems rest]

theorem entryKeys_listedEntries :
    (entries : List (Value × Value)) → Value.entryKeys (Value.listedEntries entries) = Value.entryKeys entries
  | [] => rfl
  | (key, value) :: rest => by
    rw [Value.listedEntries, Value.entryKeys, Value.entryKeys, textKeys_listed value, entryKeys_listedEntries rest]

end

/-! ## Kinds of keys -/

/-- a known key is a text that the vocabulary holds, an unknown one is a text that it does not, any other is no text -/
def Fits (v : Vocabulary) : Key → Prop
  | .known text => v.contains text = true
  | .unknown text => v.contains text = false
  | .other key => key.text? = none

theorem fits_mark (v : Vocabulary) (key : Value) : v.Fits (v.mark key) := by
  cases key with
  | str name =>
    unfold mark
    dsimp only
    split
    · assumption
    · rename_i absent
      simpa [Fits] using absent
  | _ => rfl

/-- only a text is marked as unknown -/
theorem unknown_eq_mark {v : Vocabulary} {key : Value} {text : String} (h : v.mark key = .unknown text) :
    key.text? = some text := by
  unfold mark at h
  split at h
  · split at h <;> cases h
    rfl
  · cases h

mutual

theorem fits_marked (v : Vocabulary) : (p : Value) → ∀ key ∈ (v.marked p).keys, v.Fits key
  | .list items => by
    rw [marked, Payload.keys]
    exact fits_markedItems v items
  | .tuple items => by
    rw [marked, Payload.keys]
    exact fits_markedItems v items
  | .map entries => by
    rw [marked, Payload.keys]
    exact fits_markedEntries v entries
  | .null | .bool _ | .int _ | .float _ | .str _ | .date _ | .moment _ => by simp [marked, Payload.keys]

theorem fits_markedItems (v : Vocabulary) :
    (items : List Value) → ∀ key ∈ Payload.itemKeys (v.markedItems items), v.Fits key
  | [] => by simp [markedItems, Payload.itemKeys]
  | item :: rest => by
    rw [markedItems, Payload.itemKeys]
    intro key mem
    rcases List.mem_append.1 mem with mem | mem
    · exact fits_marked v item key mem
    · exact fits_markedItems v rest key mem

theorem fits_markedEntries (v : Vocabulary) :
    (entries : List (Value × Value)) → ∀ key ∈ Payload.entryKeys (v.markedEntries entries), v.Fits key
  | [] => by simp [markedEntries, Payload.entryKeys]
  | (name, value) :: rest => by
    rw [markedEntries, Payload.entryKeys]
    intro key mem
    rcases List.mem_cons.1 mem with rfl | mem
    · exact fits_mark v name
    rcases List.mem_append.1 mem with mem | mem
    · exact fits_marked v value key mem
    · exact fits_markedEntries v rest key mem

end

mutual

/-- an unknown key is a text key of the payload -/
theorem mem_textKeys_of_unknown {v : Vocabulary} {text : String} :
    (p : Value) → .unknown text ∈ (v.marked p).keys → text ∈ p.textKeys
  | .list items, h => by
    rw [marked, Payload.keys] at h
    rw [Value.textKeys]
    exact mem_itemKeys_of_unknown items h
  | .tuple items, h => by
    rw [marked, Payload.keys] at h
    rw [Value.textKeys]
    exact mem_itemKeys_of_unknown items h
  | .map entries, h => by
    rw [marked, Payload.keys] at h
    rw [Value.textKeys]
    exact mem_entryKeys_of_unknown entries h
  | .null, h | .bool _, h | .int _, h | .float _, h | .str _, h | .date _, h | .moment _, h => by
    simp [marked, Payload.keys] at h

theorem mem_itemKeys_of_unknown {v : Vocabulary} {text : String} : (items : List Value) →
    .unknown text ∈ Payload.itemKeys (v.markedItems items) → text ∈ Value.itemKeys items
  | [], h => by simp [markedItems, Payload.itemKeys] at h
  | item :: rest, h => by
    rw [markedItems, Payload.itemKeys, List.mem_append] at h
    rw [Value.itemKeys, List.mem_append]
    exact h.imp (mem_textKeys_of_unknown item) (mem_itemKeys_of_unknown rest)

theorem mem_entryKeys_of_unknown {v : Vocabulary} {text : String} : (entries : List (Value × Value)) →
    .unknown text ∈ Payload.entryKeys (v.markedEntries entries) → text ∈ Value.entryKeys entries
  | [], h => by simp [markedEntries, Payload.entryKeys] at h
  | (name, value) :: rest, h => by
    rw [markedEntries, Payload.entryKeys, List.mem_cons, List.mem_append] at h
    rw [Value.entryKeys, List.mem_append, List.mem_append]
    rcases h with own | below | behind
    · exact Or.inl (Or.inl (by simp [unknown_eq_mark own.symm]))
    · exact Or.inl (Or.inr (mem_textKeys_of_unknown value below))
    · exact Or.inr (mem_entryKeys_of_unknown rest behind)

end

/-! ## Mappings -/

theorem put_of_absent {entries : Entries} {key : Value} (value : Value) (h : ∀ e ∈ entries, e.1.same key = false) :
    Entries.put entries key value = entries ++ [(key, value)] := by
  induction entries with
  | nil => rfl
  | cons e rest ih =>
    obtain ⟨held, other⟩ := e
    have absent : held.same key = false := h _ List.mem_cons_self
    rw [Entries.put, if_neg (by simp [absent]), ih fun f hf => h f (List.mem_cons_of_mem _ hf), List.cons_append]

/-- entries under different keys stay as they are when they are put together -/
theorem ofPairs_of_distinct {entries : Entries} (h : Value.DistinctKeys entries) :
    Entries.ofPairs entries = entries := by
  have all : ∀ before : Entries, (∀ e ∈ before, ∀ f ∈ entries, e.1.same f.1 = false) →
      entries.foldl (fun found p => Entries.put found p.1 p.2) before = before ++ entries := by
    induction entries with
    | nil => simp
    | cons e rest ih =>
      obtain ⟨first, others⟩ := List.pairwise_cons.1 h
      intro before apart
      rw [List.foldl_cons, put_of_absent e.2 fun f hf => apart f hf e List.mem_cons_self]
      rw [ih others, List.append_assoc]
      · rfl
      · intro f hf g hg
        rcases List.mem_append.1 hf with hf | hf
        · exact apart f hf g (List.mem_cons_of_mem _ hg)
        · obtain rfl := List.mem_singleton.1 hf
          exact first g hg
  exact all [] (by simp)

theorem listedEntries_eq_map (entries : Entries) :
    Value.listedEntries entries = entries.map fun e => (e.1, e.2.listed) := by
  induction entries with
  | nil => rfl
  | cons e rest ih => rw [Value.listedEntries, ih, List.map_cons]

mutual

/-- **No two keys of a mapping become one**: put together entry by entry, the decoded payload keeps all of them -/
theorem dict_marked (v : Vocabulary) : (p : Value) → p.Proper → (v.marked p).dict = p.listed
  | .list items, h => by
    rw [Value.Proper] at h
    rw [marked, Payload.dict, itemDicts_markedItems v items h, Value.listed]
  | .tuple items, h => by
    rw [Value.Proper] at h
    rw [marked, Payload.dict, itemDicts_markedItems v items h, Value.listed]
  | .map entries, h => by
    rw [Value.Proper] at h
    have distinct : Value.DistinctKeys (Value.listedEntries entries) := by
      rw [listedEntries_eq_map, Value.DistinctKeys, List.pairwise_map]
      exact h.1
    rw [marked, Payload.dict, entryDicts_markedEntries v entries h.2, ofPairs_of_distinct distinct, Value.listed]
  | .null, _ | .bool _, _ | .int _, _ | .float _, _ | .str _, _ | .date _, _ | .moment _, _ => by
    simp [marked, Payload.dict, Value.listed]

theorem itemDicts_markedItems (v : Vocabulary) : (items : List Value) → Value.ProperItems items →
    Payload.itemDicts (v.markedItems items) = Value.listedItems items
  | [], _ => by simp [markedItems, Payload.itemDicts, Value.listedItems]
  | item :: rest, h => by
    rw [Value.ProperItems] at h
    rw [markedItems, Payload.itemDicts, dict_marked v item h.1, itemDicts_markedItems v rest h.2, Value.listedItems]

theorem entryDicts_markedEntries (v : Vocabulary) : (entries : List (Value × Value)) → Value.ProperEntries entries →
    Payload.entryDicts (v.markedEntries entries) = Value.listedEntries entries
  | [], _ => by simp [markedEntries, Payload.entryDicts, Value.listedEntries]
  | (key, value) :: rest, h => by
    rw [Value.ProperEntries] at h
    rw [markedEntries, Payload.entryDicts, toValue_mark, dict_marked v value h.1, entryDicts_markedEntries v rest h.2,
      Value.listedEntries]

end

/-! ## Calls -/

/-- a vocabulary in use, the names that its user keeps as reported, and the log -/
structure Session where
  vocabulary : Vocabulary
  reported : Reported := []
  log : List Notice := []

inductive Call where
  /-- the key of any value -/
  | resolve (name : Value)
  /-- the key of a text, with the names that are kept as reported -/
  | resolveOnce (name : String)
  | decode (response : Value)
  | contains (name : Value)

namespace Session

/-- the session after a call: what the call reports is logged -/
def after (s : Session) : Call → Session
  | .resolve name => { s with log := s.log ++ (s.vocabulary.resolve name).notices }
  | .resolveOnce name =>
    let resolved := s.vocabulary.resolveOnce name s.reported
    { s with reported := resolved.value.2, log := s.log ++ resolved.notices }
  | .decode response => { s with log := s.log ++ (s.vocabulary.decode response).notices }
  | .contains _ => s

/-- the session after several calls -/
def afterAll (s : Session) (calls : List Call) : Session := calls.foldl after s

theorem vocabulary_after (s : Session) (c : Call) : (s.after c).vocabulary = s.vocabulary := by
  cases c <;> rfl

/-- no calls change what a vocabulary holds -/
theorem vocabulary_afterAll (s : Session) (calls : List Call) : (s.afterAll calls).vocabulary = s.vocabulary := by
  induction calls generalizing s with
  | nil => rfl
  | cons c rest ih => exact (ih (s.after c)).trans (vocabulary_after s c)

end Session

/-- **Decoding changes nothing but the kinds of keys.** After any calls on a vocabulary, a payload is decoded into
itself with lists for tuples, also when its mappings are put together entry by entry; the text keys that the vocabulary
holds are known, the others unknown, and other keys are kept; the undeclared names are logged once each, in the order
in which they first occur; the vocabulary stays as it is; and decoding the result does the same once more. -/
theorem decode_faithful {v : Vocabulary} (made : Made v) (calls : List Call) (p : Value) :
    let s := Session.afterAll { vocabulary := v } calls
    let decoded := s.vocabulary.decode p
    decoded.value.toValue = p.listed ∧
      (p.Proper → decoded.value.dict = p.listed) ∧
      (∀ key ∈ decoded.value.keys, v.Fits key) ∧
      (s.after (.decode p)).log = s.log ++ ((v.undeclared p.textKeys).eraseDups).map notice ∧
      (s.after (.decode p)).vocabulary = v ∧
      s.vocabulary.decode decoded.value.toValue = decoded := by
  intro s decoded
  have same : s.vocabulary = v := Session.vocabulary_afterAll _ calls
  have eq : decoded = ⟨v.marked p, ((v.undeclared p.textKeys).eraseDups).map notice⟩ := by
    rw [← decode_eq made p, ← same]
  have plain : decoded.value.toValue = p.listed := by rw [eq, toValue_marked]
  refine ⟨plain, fun proper => ?_, ?_, ?_, ?_, ?_⟩
  · rw [eq, dict_marked v p proper]
  · rw [eq]
    exact fits_marked v p
  · show s.log ++ decoded.notices = _
    rw [eq]
  · rw [Session.vocabulary_after, same]
  · rw [plain, same, decode_eq made, eq, marked_listed, textKeys_listed]

/-- a payload with a tuple, an undeclared name twice, and a key that is no text, after a call that reported the name -/
theorem decode_faithful_repeated :
    let v := ofTexts ["id"]
    let first : Value := .map [(.str "id", .int 1), (.str "extra", .int 2)]
    let p : Value := .tuple [first, .map [(.str "extra", .null), (.int 1, .null)]]
    let s := Session.afterAll { vocabulary := v } [.decode p]
    (s.after (.decode p)).log = s.log ++ [.undeclaredField (.str "extra")] := by
  intro v first p s
  have made : Made v := .documentation ⟨[("A", ⟨[⟨"id", .scalar "string", "", .str "", true⟩], []⟩)], []⟩
  have names : (v.undeclared p.textKeys).eraseDups = ["extra"] := by decide
  have logged := (decode_faithful made [.decode p] p).2.2.2.1
  rw [names] at logged
  exact logged

end Vocabulary

end ApiTypes
