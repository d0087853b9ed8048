/-
JSON documents as descriptions.

A file is read as block and flow notation first, and as JSON where that fails. A document of JSON is of that notation
too unless it holds tabs between its parts, some rare characters, or keys that are long or stand on other lines than
their colons. Where it is read so, it has the same value, with one exception: a number with a power of ten, but without
a point or without a sign of the exponent, is read as the text that writes it.

Main statements: `read_document_map`, a document is read as its value but for such numbers, or not at all;
`ofBytes_document`, the description that a file with a document holds; `exponent_loaded`, a file whose description is
not the value of its document.
-/
import ApiTypes.Description
import ApiTypes.Proofs.JsonNode

namespace ApiTypes

open ApiTypes.Json ApiTypes.Yaml ApiTypes.Yaml.Layout

/-! ## Keys -/

namespace Entries

/-- the keys of a mapping do not depend on the values -/
theorem map_fst_put {entries others : Entries} (same : entries.map (·.1) = others.map (·.1)) (key v w : Value) :
    (put entries key v).map (·.1) = (put others key w).map (·.1) := by
  induction entries generalizing others with
  | nil =>
    obtain rfl : others = [] := by simpa using same.symm
    rfl
  | cons e rest ih =>
    cases others with
    | nil => simp at same
    | cons f others =>
      obtain ⟨head, tail⟩ := List.cons.inj same
      have head : e.1 = f.1 := head
      rw [put, put, head]
      split
      · rw [List.map_cons, List.map_cons, tail]
      · rw [List.map_cons, List.map_cons, ih tail]

theorem map_fst_ofPairs {pairs others : List (Value × Value)} (same : pairs.map (·.1) = others.map (·.1)) :
    (ofPairs pairs).map (·.1) = (ofPairs others).map (·.1) := by
  have run : ∀ (pairs others : List (Value × Value)) (found found' : Entries), pairs.map (·.1) = others.map (·.1) →
      found.map (·.1) = found'.map (·.1) → (pairs.foldl (fun entries p => put entries p.1 p.2) found).map (·.1) =
        (others.foldl (fun entries p => put entries p.1 p.2) found').map (·.1) := by
    intro pairs
    induction pairs with
    | nil =>
      intro others found found' same eq
      obtain rfl : others = [] := by simpa using same.symm
      exact eq
    | cons p rest ih =>
      intro others found found' same eq
      cases others with
      | nil => simp at same
      | cons q others =>
        obtain ⟨head, tail⟩ := List.cons.inj same
        have head : p.1 = q.1 := head
        rw [List.foldl_cons, List.foldl_cons, head]
        exact ih others _ _ tail (map_fst_put eq q.1 p.2 q.2)
  exact run pairs others [] [] same rfl

theorem isSome_find? (entries : Entries) (name : String) :
    (find? entries name).isSome = (entries.map (·.1)).any fun key => key.isText name := by
  induction entries with
  | nil => rfl
  | cons e rest ih =>
    rw [find?, List.map_cons, List.any_cons, ← ih]
    split
    · rename_i own
      rw [own]
      rfl
    · rename_i other
      rw [Bool.not_eq_true] at other
      rw [other, Bool.false_or]

end Entries

namespace Json

theorem Member.fst_pairOf (f g : Numeral → Value) (member : Member) : (member.pairOf f).1 = (member.pairOf g).1 := by
  cases member
  rfl

theorem Members.map_fst_pairsOf (f g : Numeral → Value) : (members : Members) →
    (members.pairsOf f).map (·.1) = (members.pairsOf g).map (·.1)
  | .last member => by rw [pairsOf, pairsOf, List.map_cons, List.map_cons, member.fst_pairOf f g]
  | .more member _ rest => by
    rw [pairsOf, pairsOf, List.map_cons, List.map_cons, rest.map_fst_pairsOf f g, member.fst_pairOf f g]

/-- only a mapping describes an API -/
theorem Tree.isMap {t : Tree} (h : isDescription (t.valueOf Numeral.value) = true) :
    ∃ before members, t = .map before members := by
  cases t with
  | map before members => exact ⟨before, members, rfl⟩
  | number n =>
    rw [valueOf, Numeral.value] at h
    split at h <;> cases h
  | word w =>
    cases w <;> cases h
  | _ => cases h

/-- the value of a document in block and flow notation -/
def Document.loaded (d : Document) : Value := d.tree.valueOf Numeral.loaded

/-- what the numbers mean does not decide whether a mapping describes an API -/
theorem isDescription_map (f g : Numeral → Value) (before : Blanks) (members : Members) :
    isDescription ((Tree.map before members).valueOf f) = isDescription ((Tree.map before members).valueOf g) := by
  have keys := Entries.map_fst_ofPairs (members.map_fst_pairsOf f g)
  simp only [isDescription, Tree.valueOf, Value.hasField, Value.field?, Entries.isSome_find?, keys]

/-! ## Reading -/

section Reading

variable {d : Document}

/-- the tokens of a document that is a mapping -/
theorem readAll_document {before : Blanks} {members : Members} (map : d.tree = .map before members)
    (clean : '\r' ∉ d.chars) (unbroken : ∀ p ∈ d.tree.pieces, Quoted.Unbroken p) (fuel : Nat) :
    readAll fuel { cursor := { rest := d.chars } } = .error .malformed ∨
      ∃ tokens, d.tree.Tokens tokens ∧ readAll fuel { cursor := { rest := d.chars } } = .ok tokens := by
  have start : At 0 [] (d.before.chars ++ (d.tree.chars ++ d.behind.chars)) { cursor := { rest := d.chars } } :=
    ⟨rfl, clean, Nat.le_refl _, rfl, rfl, rfl, rfl, rfl, by simp⟩
  have ahead := skip d.before start
  rw [map] at unbroken
  rw [map, Tree.chars, List.cons_append, List.append_assoc] at ahead
  have leads : Leads { cursor := { rest := d.chars } } fun l' => ∃ own, members.Tokens own ∧
      At 0 (.openMap :: own).reverse [] l' := by
    refine (leads_open ahead ⟨rfl, rfl, by decide⟩ fun l eq => reads_openMap l eq).trans fun _ opened => ?_
    refine (leads_members members (skip before opened.1) opened.2 unbroken).mono ?_
    rintro _ ⟨own, written, reached⟩
    have rest : At 0 (own.reverse ++ [.openMap]) (d.behind.chars ++ []) _ :=
      (List.append_nil d.behind.chars).symm ▸ reached
    exact ⟨own, written, by simpa using skip d.behind rest⟩
  rcases leads fuel with failed | ⟨fuel', l', eq, own, written, reached⟩
  · exact Or.inl failed
  · rw [eq]
    rcases readAll_end reached fuel' with failed | ok
    · exact Or.inl failed
    · rw [List.reverse_reverse] at ok
      exact Or.inr ⟨_, by rw [map]; exact ⟨own, written, rfl⟩, ok⟩

/-- **A document is read as its value but for some numbers, or not at all.** -/
theorem read_document_map {before : Blanks} {members : Members} (map : d.tree = .map before members)
    (clean : '\r' ∉ d.chars) (unbroken : ∀ p ∈ d.tree.pieces, Quoted.Unbroken p) :
    Yaml.read d.chars = .error .malformed ∨ Yaml.read d.chars = .ok d.loaded := by
  have mark : (d.chars.head? == some '\uFEFF') = false := by
    obtain ⟨before, tree, behind⟩ := d
    obtain ⟨blanks, blank⟩ := before
    obtain ⟨c, rest, eq, -, mark, -⟩ := tree.opens
    rw [Document.chars, eq]
    cases blanks with
    | nil => simp [mark]
    | cons b blanks =>
      rw [beq_eq_false_iff_ne]
      intro same
      obtain rfl : b = '\uFEFF' := Option.some.inj same
      exact absurd (blank _ List.mem_cons_self) (by decide)
  have tokens : Token.ofText d.chars = .error .malformed ∨
      ∃ tokens, d.tree.Tokens tokens ∧ Token.ofText d.chars = .ok tokens := by
    simp only [Token.ofText, mark]
    split
    · exact readAll_document map clean unbroken _
    · exact Or.inl rfl
  rcases tokens with failed | ⟨tokens, written, ok⟩
  · left
    rw [Yaml.read, failed]
    rfl
  · have node : Yaml.Node.ofTokens? tokens = none ∨ Yaml.Node.ofTokens? tokens = some d.tree.node := by
      have gives : Gives _ ⟨tokens ++ [], Yaml.Node.standardHandles, []⟩ _ ⟨[], Yaml.Node.standardHandles, []⟩ :=
        gives_tree d.tree .block written (Yaml.Node.fuelFor tokens)
      have document : Yaml.Node.firstDocument tokens = Yaml.Node.parseDocument Yaml.Node.standardHandles tokens := by
        rw [map] at written
        obtain ⟨own, -, rfl⟩ := written
        rfl
      rw [List.append_nil] at gives
      rw [Yaml.Node.ofTokens?, document, Yaml.Node.parseDocument]
      rcases gives with failed | eq
      · rw [failed]
        exact Or.inl rfl
      · rw [eq]
        exact Or.inr rfl
    rw [Yaml.read, ok]
    rcases node with failed | eq
    · left
      simp only [bind, Except.bind, failed]
      rfl
    · right
      simp only [bind, Except.bind, eq, trouble?_node, toValue_node]
      rfl

end Reading

/-- all numbers keep their value: the document has its value in block and flow notation too -/
theorem Document.loaded_eq_value {d : Document} (kept : ∀ n ∈ d.tree.numerals, n.isKept = true) : d.loaded = d.value :=
  d.tree.valueOf_congr fun n mem => by rw [Numeral.loaded, if_pos (kept n mem)]

end Json

namespace Description

/-- **The description in a file that holds a document of JSON**: the value of the document, unless a number is written
with a power of ten, but without a point or without a sign of the exponent; then such numbers may be texts. -/
theorem ofBytes_document (d : Document) (file : String) {bytes : List UInt8} {text : List Char}
    (decoded : Text.decode bytes = .ok text) (written : Text.lineFeeds text = d.chars)
    (unbroken : ∀ p ∈ d.tree.pieces, Quoted.Unbroken p) (description : isDescription d.value = true) :
    Json.read (String.ofList d.chars) = .ok d.value ∧
      (ofBytes file bytes = .ok d.value ∨
        (∃ n ∈ d.tree.numerals, n.isKept = false) ∧ ofBytes file bytes = .ok d.loaded) := by
  have json := Json.read_document d
  obtain ⟨before, members, map⟩ := Tree.isMap description
  have loaded : isDescription d.loaded = true := by
    rw [Document.loaded, map, isDescription_map Numeral.loaded Numeral.value, ← map]
    exact description
  refine ⟨json, ?_⟩
  rw [ofBytes, decoded]
  simp only [written, ofText]
  rcases read_document_map map (written ▸ Text.lineFeeds_no_return text) unbroken with failed | ok
  · left
    simp only [failed, json, check, description, if_true]
  · simp only [ok, check, loaded, if_true]
    by_cases kept : ∀ n ∈ d.tree.numerals, n.isKept = true
    · exact Or.inl (by rw [Document.loaded_eq_value kept])
    · right
      simp only [not_forall, Bool.not_eq_true] at kept
      obtain ⟨n, mem, lost⟩ := kept
      exact ⟨⟨n, mem, lost⟩, trivial⟩

/-- the document `{"openapi": 1e5}` -/
def exponentDocument : Document where
  before := ⟨[], blank_nil⟩
  tree := .map ⟨[], blank_nil⟩ (.last (.mk
    [.plain 'o' (by decide), .plain 'p' (by decide), .plain 'e' (by decide), .plain 'n' (by decide),
      .plain 'a' (by decide), .plain 'p' (by decide), .plain 'i' (by decide)]
    ⟨[], blank_nil⟩ ⟨[' '], by simp [Blank, isSpace]⟩
    (.number ⟨false, ⟨['1'], by simp, by simp [Text.isAsciiDigit]⟩, none,
      some ⟨false, none, ⟨['5'], by simp, by simp [Text.isAsciiDigit]⟩⟩, by simp⟩)
    ⟨[], blank_nil⟩))
  behind := ⟨[], blank_nil⟩

/-- the number is `100000.0` for a reader of JSON, and a text in the description -/
theorem exponent_loaded :
    Json.read "\x7b\"openapi\": 1e5\x7d" = .ok (.map [(.str "openapi", .float ⟨0x40F86A0000000000⟩)]) ∧
      ofBytes "openapi.json" [123, 34, 111, 112, 101, 110, 97, 112, 105, 34, 58, 32, 49, 101, 53, 125] =
        .ok (.map [(.str "openapi", .str "1e5")]) := by
  have decoded : Text.decode [123, 34, 111, 112, 101, 110, 97, 112, 105, 34, 58, 32, 49, 101, 53, 125] =
      .ok exponentDocument.chars := by
    rfl
  have written : Text.lineFeeds exponentDocument.chars = exponentDocument.chars := by
    rfl
  have unbroken : ∀ p ∈ exponentDocument.tree.pieces, Quoted.Unbroken p := by
    simp [exponentDocument, Tree.pieces, Members.pieces, Member.pieces, Quoted.Unbroken, isBreak]
  have found := ofBytes_document exponentDocument "openapi.json" decoded written unbroken rfl
  have read : (Yaml.read exponentDocument.chars).isOk = true := by decide +kernel
  have text : Yaml.read exponentDocument.chars = .ok (.map [(.str "openapi", .str "1e5")]) := by
    rcases read_document_map rfl (by decide) unbroken with failed | ok
    · rw [failed] at read
      cases read
    · exact ok
  refine ⟨found.1, ?_⟩
  rw [ofBytes, decoded]
  simp only [written, ofText, text]
  rfl

end Description

end ApiTypes
