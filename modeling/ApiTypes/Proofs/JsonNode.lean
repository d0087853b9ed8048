/-
Nodes of JSON texts.

The tokens of a tree of JSON are those of its parts. A colon marks the key before it unless that key is too long or ends
on another line; a mapping with an unmarked key is no node. Otherwise the node of a tree has the tree's shape, without
any trouble, and its value is that of the tree but for numbers that are texts in block notation.

Main statements: `leads_tree`, the tokens of a tree; `gives_tree`, the node of these tokens; `trouble?_node` and
`toValue_node`, the value of the node.
-/
import ApiTypes.Proofs.JsonLayout
import ApiTypes.Proofs.JsonNumber
import ApiTypes.Yaml.Tree

namespace ApiTypes

open ApiTypes.Yaml ApiTypes.Yaml.Layout

namespace Json

/-! ## Tokens of trees -/

mutual

/-- the tokens of a tree; whether a colon marked the key before it is left open -/
def Tree.Tokens : Tree → List Token → Prop
  | .word word, tokens => tokens = [.scalar (String.ofList word.text) true]
  | .number numeral, tokens => tokens = [.scalar (String.ofList numeral.text) true]
  | .text pieces, tokens => tokens = [.scalar (unquoted pieces) false]
  | .noItems _, tokens => tokens = [.openList, .closeList]
  | .list _ items, tokens => ∃ rest, items.Tokens rest ∧ tokens = .openList :: rest
  | .noMembers _, tokens => tokens = [.openMap, .closeMap]
  | .map _ members, tokens => ∃ rest, members.Tokens rest ∧ tokens = .openMap :: rest

def Items.Tokens : Items → List Token → Prop
  | .last item _, tokens => ∃ own, item.Tokens own ∧ tokens = own ++ [.closeList]
  | .more item _ _ others, tokens => ∃ own rest, item.Tokens own ∧ others.Tokens rest ∧ tokens = own ++ .comma :: rest

def Member.Tokens : Member → List Token → Prop
  | .mk key _ _ value _, tokens => ∃ mark own, (mark = [.key] ∨ mark = []) ∧ value.Tokens own ∧
      tokens = mark ++ .scalar (unquoted key) false :: .value :: own

def Members.Tokens : Members → List Token → Prop
  | .last member, tokens => ∃ own, member.Tokens own ∧ tokens = own ++ [.closeMap]
  | .more member _ others, tokens =>
    ∃ own rest, member.Tokens own ∧ others.Tokens rest ∧ tokens = own ++ .comma :: rest

end

section Tokens

variable {deep : Nat} {tokens : List Token} {behind ahead : List Char} {l : Layout}

theorem skip (b : Blanks) (h : At deep tokens (b.chars ++ ahead) l) : At deep tokens ahead l :=
  { h with left := h.left.trans (by rw [skipBlanks, List.dropWhile_append_of_pos b.blank, skipBlanks]) }

/-- no carriage return stands in what is left of a text -/
theorem no_return {text : List Char} (opens : Opens text) (h : At deep tokens (text ++ ahead) l) : '\r' ∉ ahead := by
  obtain ⟨c, rest, rfl, solid, -⟩ := opens
  have left := h.left
  rw [List.cons_append, skipBlanks_solid solid] at left
  have suffix : c :: (rest ++ ahead) <:+ l.cursor.rest := left ▸ List.dropWhile_suffix _
  exact fun mem => h.clean (suffix.subset (List.mem_cons_of_mem _ (List.mem_append_right _ mem)))

theorem follows {x : Char} (b : Blanks) (closing : x = ',' ∨ x = ']' ∨ x = '\x7d')
    (clean : '\r' ∉ b.chars ++ x :: ahead) : Plain.Follows (b.chars ++ x :: ahead) where
  clean := clean
  stops := by
    refine ⟨x, ahead, skipBlanks_append b.blank ?_, closing⟩
    rcases closing with rfl | rfl | rfl <;> rfl

theorem reads_openList (l : Layout) {more : List Char} (h : l.cursor.rest = '[' :: more) :
    l.readToken '[' = l.openBracket .openList := by
  simp [readToken, atSeparator_of_ne h (by decide)]

theorem reads_openMap (l : Layout) {more : List Char} (h : l.cursor.rest = '\x7b' :: more) :
    l.readToken '\x7b' = l.openBracket .openMap := by
  simp [readToken, atSeparator_of_ne h (by decide)]

theorem reads_closeList (l : Layout) {more : List Char} (h : l.cursor.rest = ']' :: more) :
    l.readToken ']' = l.closeBracket .closeList := by
  simp [readToken, atSeparator_of_ne h (by decide)]

theorem reads_closeMap (l : Layout) {more : List Char} (h : l.cursor.rest = '\x7d' :: more) :
    l.readToken '\x7d' = l.closeBracket .closeMap := by
  simp [readToken, atSeparator_of_ne h (by decide)]

theorem inside_letter {z : Char} (letter : Text.isAsciiAlnum z = true) : Plain.Inside z where
  space := by
    cases space : isSpace z with
    | false => rfl
    | true =>
      simp only [isSpace, Bool.or_eq_true, beq_iff_eq, or_assoc] at space
      rcases space with rfl | rfl | rfl | rfl <;> exact absurd letter (by decide)
  ends := by
    cases ends : isBreak z with
    | false => rfl
    | true =>
      simp only [isBreak, Bool.or_eq_true, beq_iff_eq, or_assoc] at ends
      rcases ends with rfl | rfl | rfl | rfl <;> exact absurd letter (by decide)
  comment := by
    rintro rfl
    exact absurd letter (by decide)
  mark := not_contains_of_alnum (by decide) letter

theorem isAsciiAlnum_digit {c : Char} (h : Text.isAsciiDigit c = true) : Text.isAsciiAlnum c = true := by
  simp [Text.isAsciiAlnum, h]

theorem bare_word (w : Word) : Bare w.text := by
  have all : ∀ z ∈ w.text, Text.isAsciiAlnum z = true := List.all_eq_true.1 (by rcases w with - | - | - <;> decide)
  refine ⟨?_, fun z mem => inside_letter (all z mem)⟩
  obtain ⟨x, rest, eq⟩ : ∃ x rest, w.text = x :: rest := by rcases w with - | - | - <;> exact ⟨_, _, rfl⟩
  exact ⟨x, rest, eq, Or.inl (all x (by rw [eq]; exact List.mem_cons_self))⟩

theorem bare_numeral (n : Numeral) : Bare n.text := by
  constructor
  · obtain ⟨c, rest, digit, eq | eq⟩ := n.exists_first
    · exact ⟨c, rest, eq, Or.inl (isAsciiAlnum_digit digit)⟩
    · exact ⟨'-', _, eq, Or.inr ⟨rfl, c, rest, rfl, digit⟩⟩
  · intro z mem
    rcases n.mem_text mem with digit | rfl | rfl | rfl | rfl | rfl
    · exact inside_letter (isAsciiAlnum_digit digit)
    all_goals exact ⟨rfl, rfl, by decide, by decide⟩

mutual

/-- **The tokens of a tree in brackets**, where its text is read at all. -/
theorem leads_tree : (t : Tree) → {deep : Nat} → {tokens : List Token} → {behind : List Char} → {l : Layout} →
    At (deep + 1) tokens (t.chars ++ behind) l → (∀ p ∈ t.pieces, Quoted.Unbroken p) → Plain.Follows behind →
    Leads l fun l' => ∃ own, t.Tokens own ∧ At (deep + 1) (own.reverse ++ tokens) behind l'
  | .word w, _, _, _, _, h, _, follows =>
    (leads_plain h (bare_word w) follows).mono fun _ reached => ⟨_, rfl, reached⟩
  | .number n, _, _, _, _, h, _, follows =>
    (leads_plain h (bare_numeral n) follows).mono fun _ reached => ⟨_, rfl, reached⟩
  | .text _, _, _, _, _, h, unbroken, _ =>
    (leads_quoted h unbroken).mono fun _ reached => ⟨_, rfl, reached.1⟩
  | .noItems inside, _, _, _, _, h, _, _ => by
    rw [Tree.chars, List.cons_append, List.append_assoc] at h
    refine (leads_open h ⟨rfl, rfl, by decide⟩ fun l eq => reads_openList l eq).trans fun _ opened => ?_
    refine (leads_close (skip inside opened.1) ⟨rfl, rfl, by decide⟩ fun l eq => reads_closeList l eq).mono ?_
    exact fun _ closed => ⟨_, rfl, closed⟩
  | .list before items, _, _, _, _, h, unbroken, _ => by
    rw [Tree.chars, List.cons_append, List.append_assoc] at h
    refine (leads_open h ⟨rfl, rfl, by decide⟩ fun l eq => reads_openList l eq).trans fun _ opened => ?_
    refine (leads_items items (skip before opened.1) unbroken).mono ?_
    rintro _ ⟨own, written, reached⟩
    exact ⟨_, ⟨own, written, rfl⟩, by simpa using reached⟩
  | .noMembers inside, _, _, _, _, h, _, _ => by
    rw [Tree.chars, List.cons_append, List.append_assoc] at h
    refine (leads_open h ⟨rfl, rfl, by decide⟩ fun l eq => reads_openMap l eq).trans fun _ opened => ?_
    refine (leads_close (skip inside opened.1) ⟨rfl, rfl, by decide⟩ fun l eq => reads_closeMap l eq).mono ?_
    exact fun _ closed => ⟨_, rfl, closed⟩
  | .map before members, _, _, _, _, h, unbroken, _ => by
    rw [Tree.chars, List.cons_append, List.append_assoc] at h
    refine (leads_open h ⟨rfl, rfl, by decide⟩ fun l eq => reads_openMap l eq).trans fun _ opened => ?_
    refine (leads_members members (skip before opened.1) opened.2 unbroken).mono ?_
    rintro _ ⟨own, written, reached⟩
    exact ⟨_, ⟨own, written, rfl⟩, by simpa using reached⟩

theorem leads_items : (items : Items) → {deep : Nat} → {tokens : List Token} → {behind : List Char} → {l : Layout} →
    At (deep + 1) tokens (items.chars ++ behind) l → (∀ p ∈ items.pieces, Quoted.Unbroken p) →
    Leads l fun l' => ∃ own, items.Tokens own ∧ At deep (own.reverse ++ tokens) behind l'
  | .last item space, _, _, _, _, h, unbroken => by
    rw [Items.chars, List.append_assoc, List.append_assoc] at h
    have ends := follows space (Or.inr (Or.inl rfl)) (no_return item.opens h)
    refine (leads_tree item h unbroken ends).trans ?_
    rintro _ ⟨own, written, reached⟩
    refine (leads_close (skip space reached) ⟨rfl, rfl, by decide⟩ fun l eq => reads_closeList l eq).mono ?_
    exact fun _ closed => ⟨_, ⟨own, written, rfl⟩, by simpa using closed⟩
  | .more item space gap rest, _, _, _, _, h, unbroken => by
    rw [Items.chars, List.append_assoc, List.append_assoc, List.cons_append, List.append_assoc] at h
    rw [Items.pieces, List.forall_mem_append] at unbroken
    have ends := follows space (Or.inl rfl) (no_return item.opens h)
    refine (leads_tree item h unbroken.1 ends).trans ?_
    rintro _ ⟨own, written, reached⟩
    refine (leads_comma (skip space reached)).trans fun _ comma => ?_
    refine (leads_items rest (skip gap comma.1) unbroken.2).mono ?_
    rintro _ ⟨others, more, reached⟩
    exact ⟨_, ⟨own, others, written, more, rfl⟩, by simpa using reached⟩

theorem leads_member : (member : Member) → {deep : Nat} → {tokens : List Token} → {behind : List Char} →
    {x : Char} → {l : Layout} → At (deep + 1) tokens (member.chars ++ x :: behind) l → l.keyAllowed = true →
    (x = ',' ∨ x = ']' ∨ x = '\x7d') → (∀ p ∈ member.pieces, Quoted.Unbroken p) →
    Leads l fun l' => ∃ own, member.Tokens own ∧ At (deep + 1) (own.reverse ++ tokens) (x :: behind) l'
  | .mk key space gap value after, _, _, _, _, _, h, allowed, closing, unbroken => by
    simp only [Member.chars, List.append_assoc, List.cons_append] at h
    rw [Member.pieces, List.forall_mem_append] at unbroken
    refine (leads_quoted h unbroken.1).trans fun _ named => ?_
    refine (leads_colon (skip space named.1) (named.2 allowed)).trans ?_
    rintro _ ⟨mark, marks, reached⟩
    have reached := skip gap reached
    have ends := follows after closing (no_return value.opens reached)
    refine (leads_tree value reached unbroken.2 ends).mono ?_
    rintro _ ⟨own, written, reached⟩
    refine ⟨_, ⟨mark, own, marks, written, rfl⟩, ?_⟩
    have reached := skip after reached
    rcases marks with rfl | rfl <;> simpa using reached

theorem leads_members : (members : Members) → {deep : Nat} → {tokens : List Token} → {behind : List Char} →
    {l : Layout} → At (deep + 1) tokens (members.chars ++ behind) l → l.keyAllowed = true →
    (∀ p ∈ members.pieces, Quoted.Unbroken p) →
    Leads l fun l' => ∃ own, members.Tokens own ∧ At deep (own.reverse ++ tokens) behind l'
  | .last member, _, _, _, _, h, allowed, unbroken => by
    rw [Members.chars, List.append_assoc, List.singleton_append] at h
    refine (leads_member member h allowed (Or.inr (Or.inr rfl)) unbroken).trans ?_
    rintro _ ⟨own, written, reached⟩
    refine (leads_close reached ⟨rfl, rfl, by decide⟩ fun l eq => reads_closeMap l eq).mono ?_
    exact fun _ closed => ⟨_, ⟨own, written, rfl⟩, by simpa using closed⟩
  | .more member gap rest, _, _, _, _, h, allowed, unbroken => by
    rw [Members.chars, List.append_assoc, List.cons_append, List.append_assoc] at h
    rw [Members.pieces, List.forall_mem_append] at unbroken
    refine (leads_member member h allowed (Or.inl rfl) unbroken.1).trans ?_
    rintro _ ⟨own, written, reached⟩
    refine (leads_comma reached).trans fun _ comma => ?_
    refine (leads_members rest (skip gap comma.1) comma.2 unbroken.2).mono ?_
    rintro _ ⟨others, more, reached⟩
    exact ⟨_, ⟨own, others, written, more, rfl⟩, by simpa using reached⟩

end

end Tokens

/-! ## Nodes of trees -/

open Yaml.Node

/-- the node of a text without quotes -/
def plainNode (text : List Char) : Yaml.Node := .scalar (.ofForm (String.ofList text)) (String.ofList text)

mutual

def Tree.node : Tree → Yaml.Node
  | .word word => plainNode word.text
  | .number numeral => plainNode numeral.text
  | .text pieces => .scalar .text (unquoted pieces)
  | .noItems _ => .list .list []
  | .list _ items => .list .list items.nodes
  | .noMembers _ => .map .map []
  | .map _ members => .map .map members.nodes

def Items.nodes : Items → List Yaml.Node
  | .last item _ => [item.node]
  | .more item _ _ rest => item.node :: rest.nodes

def Member.node : Member → Yaml.Node × Yaml.Node
  | .mk key _ _ value _ => (.scalar .text (unquoted key), value.node)

def Members.nodes : Members → List (Yaml.Node × Yaml.Node)
  | .last member => [member.node]
  | .more member _ rest => member.node :: rest.nodes

end

theorem Items.exists_tree : (items : Items) → ∀ node ∈ items.nodes, ∃ t : Tree, t.node = node
  | .last item _, node, mem => ⟨item, (List.mem_singleton.1 mem).symm⟩
  | .more item _ _ rest, node, mem => by
    rcases List.mem_cons.1 mem with head | tail
    · exact ⟨item, head.symm⟩
    · exact rest.exists_tree node tail

theorem Members.exists_tree : (members : Members) → ∀ e ∈ members.nodes,
    ∃ (name : String) (t : Tree), e = (.scalar .text name, t.node)
  | .last (.mk key _ _ value _), e, mem => ⟨unquoted key, value, List.mem_singleton.1 mem⟩
  | .more (.mk key _ _ value _) _ rest, e, mem => by
    rcases List.mem_cons.1 mem with head | tail
    · exact ⟨unquoted key, value, head⟩
    · exact rest.exists_tree e tail

/-- no key of a mapping takes entries from other mappings, since all keys are quoted -/
theorem ofEntries_nodes (members : Members) : ofEntries .map members.nodes = .map .map members.nodes := by
  have unmerged : ∀ e ∈ members.nodes, isMerge e = false := by
    intro e mem
    obtain ⟨name, t, rfl⟩ := members.exists_tree e mem
    rfl
  have same : members.nodes.map (fun e => (e.1.asText, e.2)) = members.nodes.map id := by
    refine List.map_congr_left fun e mem => ?_
    obtain ⟨name, t, rfl⟩ := members.exists_tree e mem
    rfl
  rw [merged_own .map unmerged, same, List.map_id]

/-- if the parser succeeds, it gives this and leaves that -/
def Gives {α : Type} (p : Parse α) (s : Yaml.Node.Source) (a : α) (left : Yaml.Node.Source) : Prop :=
  p s = none ∨ p s = some (a, left)

section Parsing

variable {α β : Type} {s left : Yaml.Node.Source}

theorem Gives.bind {p : Parse α} {f : α → Parse β} {middle : Yaml.Node.Source} {a : α} {b : β}
    (first : Gives p s a middle) (second : Gives (f a) middle b left) : Gives (p >>= f) s b left := by
  rcases first with failed | eq
  · exact Or.inl (by simp [Bind.bind, StateT.bind, failed])
  · rcases second with failed | eq'
    · exact Or.inl (by simp [Bind.bind, StateT.bind, eq, failed])
    · exact Or.inr (by simp [Bind.bind, StateT.bind, eq, eq'])

theorem Gives.pure (a : α) (s : Yaml.Node.Source) : Gives (Pure.pure a : Parse α) s a s := Or.inr rfl

theorem gives_next (s : Yaml.Node.Source) : Gives next? s s.tokens.head? s := Or.inr rfl

theorem gives_advance (s : Yaml.Node.Source) : Gives advance s () { s with tokens := s.tokens.tail } := Or.inr rfl

variable {handles : List (String × String)} {anchors : List (String × Option Yaml.Node)} {rest : List Token}

theorem gives_nextIn (tokens : List Token) (token : Token) (rest : List Token) :
    Gives (nextIn tokens) ⟨token :: rest, handles, anchors⟩ (tokens.contains token) ⟨token :: rest, handles, anchors⟩ :=
  Or.inr rfl

/-- the first token of a tree: a scalar or an opening bracket -/
inductive Opener : Token → Prop where
  | scalar (text : String) (plain : Bool) : Opener (.scalar text plain)
  | list : Opener .openList
  | map : Opener .openMap

theorem Opener.not_in {token : Token} (h : Opener token) :
    [Token.closeList].contains token = false ∧ [Token.closeMap].contains token = false ∧
      [Token.comma].contains token = false ∧ [Token.value, .comma, .closeMap].contains token = false ∧
      [Token.comma, .closeMap].contains token = false := by
  cases h <;> exact ⟨rfl, rfl, rfl, rfl, rfl⟩

theorem Tree.Tokens.opener {t : Tree} {tokens : List Token} (h : t.Tokens tokens) :
    ∃ token more, tokens = token :: more ∧ Opener token := by
  cases t with
  | word w => exact ⟨_, _, h, .scalar _ _⟩
  | number n => exact ⟨_, _, h, .scalar _ _⟩
  | text pieces => exact ⟨_, _, h, .scalar _ _⟩
  | noItems inside => exact ⟨_, _, h, .list⟩
  | list before items =>
    obtain ⟨rest, -, eq⟩ := h
    exact ⟨_, _, eq, .list⟩
  | noMembers inside => exact ⟨_, _, h, .map⟩
  | map before members =>
    obtain ⟨rest, -, eq⟩ := h
    exact ⟨_, _, eq, .map⟩

/-- a node without anchor and tag is its content -/
theorem parse_opener (setting : Setting) (fuel : Nat) {token : Token} (h : Opener token) :
    parse setting (fuel + 1) ⟨token :: rest, handles, anchors⟩ =
      parseContent setting false none fuel ⟨token :: rest, handles, anchors⟩ := by
  have content : (parseContent setting false none fuel >>= fun node => complete node none >>= fun _ => pure node) =
      parseContent setting false none fuel := by
    simp [complete]
  cases h
  all_goals
    rw [parse]
    exact congrFun content _

theorem gives_scalar (setting : Setting) (fuel : Nat) (text : String) (plain : Bool) :
    Gives (parse setting fuel) ⟨.scalar text plain :: rest, handles, anchors⟩
      (.scalar (scalarKind text plain none) text) ⟨rest, handles, anchors⟩ := by
  rcases fuel with - | - | fuel
  · exact Or.inl rfl
  · exact Or.inl (by rw [parse_opener _ _ (.scalar text plain)]; rfl)
  · exact Or.inr (by rw [parse_opener _ _ (.scalar text plain)]; rfl)

theorem gives_list (setting : Setting) (fuel : Nat) {items : List Yaml.Node}
    (h : ∀ fuel, Gives (parseFlowItems true fuel) ⟨rest, handles, anchors⟩ items left) :
    Gives (parse setting fuel) ⟨.openList :: rest, handles, anchors⟩ (.list .list items) left := by
  rcases fuel with - | - | fuel
  · exact Or.inl rfl
  · exact Or.inl (by rw [parse_opener _ _ .list]; rfl)
  · rw [Gives, parse_opener _ _ .list, parseContent]
    exact (gives_next _).bind ((gives_advance _).bind ((h fuel).bind (.pure _ _)))

theorem gives_map (setting : Setting) (fuel : Nat) {entries : List (Yaml.Node × Yaml.Node)}
    (h : ∀ fuel, Gives (parseFlowEntries true fuel) ⟨rest, handles, anchors⟩ entries left) :
    Gives (parse setting fuel) ⟨.openMap :: rest, handles, anchors⟩ (ofEntries .map entries) left := by
  rcases fuel with - | - | fuel
  · exact Or.inl rfl
  · exact Or.inl (by rw [parse_opener _ _ .map]; rfl)
  · rw [Gives, parse_opener _ _ .map, parseContent]
    exact (gives_next _).bind ((gives_advance _).bind ((h fuel).bind (.pure _ _)))

theorem gives_closeList (first : Bool) (fuel : Nat) :
    Gives (parseFlowItems first fuel) ⟨.closeList :: rest, handles, anchors⟩ [] ⟨rest, handles, anchors⟩ := by
  cases fuel with
  | zero => exact Or.inl rfl
  | succ fuel => exact Or.inr (by rw [parseFlowItems]; rfl)

theorem gives_closeMap (first : Bool) (fuel : Nat) :
    Gives (parseFlowEntries first fuel) ⟨.closeMap :: rest, handles, anchors⟩ [] ⟨rest, handles, anchors⟩ := by
  cases fuel with
  | zero => exact Or.inl rfl
  | succ fuel => exact Or.inr (by rw [parseFlowEntries]; rfl)

/-- what stands before an item or an entry: nothing before the first one, and a comma before each other -/
def comma (first : Bool) : List Token := if first then [] else [.comma]

theorem gives_item (first : Bool) (fuel : Nat) {token : Token} (opens : Opener token) {item : Yaml.Node}
    {middle : Yaml.Node.Source} {items : List Yaml.Node}
    (node : ∀ fuel, Gives (parse .flow fuel) ⟨token :: rest, handles, anchors⟩ item middle)
    (more : ∀ fuel, Gives (parseFlowItems false fuel) middle items left) :
    Gives (parseFlowItems first fuel) ⟨comma first ++ token :: rest, handles, anchors⟩ (item :: items) left := by
  cases fuel with
  | zero => exact Or.inl rfl
  | succ fuel =>
    have body : Gives (do let item ← parse .flow fuel; return item :: (← parseFlowItems false fuel))
        ⟨token :: rest, handles, anchors⟩ (item :: items) left :=
      (node fuel).bind ((more fuel).bind (.pure _ _))
    rw [parseFlowItems]
    cases first
    · refine (gives_nextIn _ _ _).bind ((gives_nextIn _ _ _).bind ((gives_advance _).bind ((gives_next _).bind ?_)))
      cases opens <;> exact body
    · refine (gives_nextIn _ _ _).bind ?_
      rw [opens.not_in.1]
      refine (gives_next _).bind ?_
      cases opens <;> exact body

theorem gives_unless (setting : Setting) {enders : List Token} {token : Token}
    (not_ender : enders.contains token = false) {node : Yaml.Node} (fuel : Nat)
    (h : ∀ fuel, Gives (parse setting fuel) ⟨token :: rest, handles, anchors⟩ node left) :
    Gives (parseUnless setting enders fuel) ⟨token :: rest, handles, anchors⟩ node left := by
  cases fuel with
  | zero => exact Or.inl rfl
  | succ fuel =>
    rw [parseUnless]
    refine (gives_nextIn _ _ _).bind ?_
    rw [not_ender]
    exact h fuel

/-- the value behind a colon -/
theorem gives_value {token : Token} (opens : Opener token) {value : Yaml.Node} (fuel : Nat)
    (node : ∀ fuel, Gives (parse .flow fuel) ⟨token :: rest, handles, anchors⟩ value left) :
    Gives (parseValue .flow [.comma, .closeMap] fuel) ⟨.value :: token :: rest, handles, anchors⟩ value left := by
  cases fuel with
  | zero => exact Or.inl rfl
  | succ fuel =>
    rw [parseValue]
    exact (gives_next _).bind ((gives_advance _).bind (gives_unless _ opens.not_in.2.2.2.2 _ node))

/-- a colon stands neither before a comma nor before a bracket -/
theorem parseFlowEntries_value (fuel : Nat) :
    parseFlowEntries false fuel ⟨.value :: rest, handles, anchors⟩ = none := by
  cases fuel with
  | zero => rfl
  | succ fuel =>
    rw [parseFlowEntries]
    rfl

/-- **An entry whose key is marked is read with its value, and one whose key is not, not at all.** -/
theorem gives_entry (first : Bool) (fuel : Nat) (key : String) {mark : List Token} (marks : mark = [.key] ∨ mark = [])
    {token : Token} (opens : Opener token) {value : Yaml.Node} {middle : Yaml.Node.Source}
    {entries : List (Yaml.Node × Yaml.Node)}
    (node : ∀ fuel, Gives (parse .flow fuel) ⟨token :: rest, handles, anchors⟩ value middle)
    (more : ∀ fuel, Gives (parseFlowEntries false fuel) middle entries left) :
    Gives (parseFlowEntries first fuel)
      ⟨comma first ++ (mark ++ .scalar key false :: .value :: token :: rest), handles, anchors⟩
      ((.scalar .text key, value) :: entries) left := by
  cases fuel with
  | zero => exact Or.inl rfl
  | succ fuel =>
    have name : ∀ fuel, Gives (parse .flow fuel) ⟨.scalar key false :: .value :: token :: rest, handles, anchors⟩
        (.scalar .text key) ⟨.value :: token :: rest, handles, anchors⟩ := fun fuel => gives_scalar .flow fuel key false
    have unmarked : Gives (do
          let key ← parse .flow fuel
          return (key, Yaml.Node.nothing) :: (← parseFlowEntries false fuel))
        ⟨.scalar key false :: .value :: token :: rest, handles, anchors⟩ ((.scalar .text key, value) :: entries) left :=
      (name fuel).bind (Or.inl (by
        simp only [Bind.bind, StateT.bind, parseFlowEntries_value]
        rfl))
    have marked : Gives (do
          let key ← parseUnless .flow [.value, .comma, .closeMap] fuel
          let value ← parseValue .flow [.comma, .closeMap] fuel
          return (key, value) :: (← parseFlowEntries false fuel))
        ⟨.scalar key false :: .value :: token :: rest, handles, anchors⟩ ((.scalar .text key, value) :: entries) left :=
      (gives_unless .flow rfl fuel name).bind
        ((gives_value opens fuel node).bind ((more fuel).bind (.pure _ _)))
    rw [parseFlowEntries]
    cases first
    · refine (gives_nextIn _ _ _).bind ((gives_nextIn _ _ _).bind ((gives_advance _).bind ((gives_next _).bind ?_)))
      rcases marks with rfl | rfl
      · exact (gives_advance _).bind marked
      · exact unmarked
    · rcases marks with rfl | rfl
      · exact (gives_nextIn _ _ _).bind ((gives_next _).bind ((gives_advance _).bind marked))
      · exact (gives_nextIn _ _ _).bind ((gives_next _).bind unmarked)

mutual

/-- **The node of a tree**, where its tokens are read at all. -/
theorem gives_tree : (t : Tree) → (setting : Setting) → {tokens rest : List Token} → t.Tokens tokens → (fuel : Nat) →
    Gives (parse setting fuel) ⟨tokens ++ rest, handles, anchors⟩ t.node ⟨rest, handles, anchors⟩
  | .word w, setting, _, _, h, fuel => h ▸ gives_scalar setting fuel _ _
  | .number n, setting, _, _, h, fuel => h ▸ gives_scalar setting fuel _ _
  | .text pieces, setting, _, _, h, fuel => h ▸ gives_scalar setting fuel _ _
  | .noItems _, setting, _, _, h, fuel => h ▸ gives_list setting fuel fun fuel => gives_closeList true fuel
  | .list _ items, setting, _, _, h, fuel => by
    obtain ⟨own, written, rfl⟩ := h
    exact gives_list setting fuel fun fuel => gives_items items true written fuel
  | .noMembers _, setting, _, _, h, fuel => h ▸ gives_map setting fuel fun fuel => gives_closeMap true fuel
  | .map _ members, setting, _, _, h, fuel => by
    obtain ⟨own, written, rfl⟩ := h
    rw [Tree.node, ← ofEntries_nodes members]
    exact gives_map setting fuel fun fuel => gives_members members true written fuel

theorem gives_items : (items : Items) → (first : Bool) → {tokens rest : List Token} → items.Tokens tokens →
    (fuel : Nat) → Gives (parseFlowItems first fuel) ⟨comma first ++ (tokens ++ rest), handles, anchors⟩ items.nodes
      ⟨rest, handles, anchors⟩
  | .last item _, first, _, rest, h, fuel => by
    obtain ⟨own, written, rfl⟩ := h
    obtain ⟨token, more, rfl, opens⟩ := written.opener
    rw [List.append_assoc]
    exact gives_item first fuel opens (fun fuel => gives_tree item .flow written fuel) fun fuel =>
      gives_closeList false fuel
  | .more item _ _ others, first, _, rest, h, fuel => by
    obtain ⟨own, others', written, written', rfl⟩ := h
    obtain ⟨token, more, rfl, opens⟩ := written.opener
    rw [List.append_assoc]
    exact gives_item first fuel opens (fun fuel => gives_tree item .flow written fuel) fun fuel =>
      gives_items others false written' fuel

theorem gives_members : (members : Members) → (first : Bool) → {tokens rest : List Token} → members.Tokens tokens →
    (fuel : Nat) → Gives (parseFlowEntries first fuel) ⟨comma first ++ (tokens ++ rest), handles, anchors⟩
      members.nodes ⟨rest, handles, anchors⟩
  | .last (.mk key _ _ value _), first, _, rest, h, fuel => by
    obtain ⟨_, ⟨mark, own, marks, written, rfl⟩, rfl⟩ := h
    obtain ⟨token, more, rfl, opens⟩ := written.opener
    simp only [List.append_assoc, List.cons_append]
    exact gives_entry first fuel (unquoted key) marks opens (fun fuel => gives_tree value .flow written fuel)
      fun fuel => gives_closeMap false fuel
  | .more (.mk key _ _ value _) _ others, first, _, rest, h, fuel => by
    obtain ⟨_, others', ⟨mark, own, marks, written, rfl⟩, written', rfl⟩ := h
    obtain ⟨token, more, rfl, opens⟩ := written.opener
    simp only [List.append_assoc, List.cons_append]
    exact gives_entry first fuel (unquoted key) marks opens (fun fuel => gives_tree value .flow written fuel)
      fun fuel => gives_members others false written' fuel

end

end Parsing

/-! ## Values of nodes -/

theorem read_word (w : Word) :
    Scalar.read (.ofForm (String.ofList w.text)) (String.ofList w.text) = some (.ok w.value) := by
  rcases w with - | - | - <;> rfl

section Values

variable {text : List Char} {v : Value}

theorem scalarTrouble?_plain (h : Scalar.read (.ofForm (String.ofList text)) (String.ofList text) = some (.ok v)) :
    (plainNode text).scalarTrouble? = none ∧ (plainNode text).isCollection = false ∧ (plainNode text).toValue = v := by
  refine ⟨?_, ?_, ?_⟩
  · simp [scalarTrouble?, plainNode, h]
  · rw [isCollection, plainNode, Bool.or_eq_false_iff, beq_eq_false_iff_ne, beq_eq_false_iff_ne]
    constructor
    all_goals
      intro kind
      change Kind.ofForm _ = _ at kind
      rw [kind] at h
      cases h
  · rw [plainNode, toValue, scalarValue, h]

end Values

theorem scalarTrouble?_node (t : Tree) : t.node.scalarTrouble? = none := by
  cases t with
  | word w => exact (scalarTrouble?_plain (read_word w)).1
  | number n => exact (scalarTrouble?_plain n.read_numeral).1
  | _ => rfl

/-- the collections in a mapping or list are nodes of trees again, and none of its parts is a trouble -/
theorem collection_node (t : Tree) (h : t.node.isCollection = true) : t.node.collectionTrouble? = none ∧
    ∀ node ∈ t.node.inner, node.isCollection = true ∧ ∃ t : Tree, t.node = node := by
  cases t with
  | word w =>
    rw [show (Tree.word w).node.isCollection = false from (scalarTrouble?_plain (read_word w)).2.1] at h
    cases h
  | number n =>
    rw [show (Tree.number n).node.isCollection = false from (scalarTrouble?_plain n.read_numeral).2.1] at h
    cases h
  | text pieces => cases h
  | noItems inside => exact ⟨rfl, by simp [Tree.node, Yaml.Node.inner]⟩
  | noMembers inside => exact ⟨rfl, by simp [Tree.node, Yaml.Node.inner]⟩
  | list before items =>
    constructor
    · refine List.findSome?_eq_none_iff.2 fun node mem => ?_
      obtain ⟨t, rfl⟩ := items.exists_tree node mem
      exact scalarTrouble?_node t
    · intro node mem
      obtain ⟨inside, collection⟩ := List.mem_filter.1 mem
      exact ⟨collection, items.exists_tree node inside⟩
  | map before members =>
    constructor
    · refine List.findSome?_eq_none_iff.2 fun e mem => ?_
      obtain ⟨name, t, rfl⟩ := members.exists_tree e mem
      exact scalarTrouble?_node t
    · intro node mem
      obtain ⟨inside, collection⟩ := List.mem_filter.1 mem
      obtain ⟨e, entry, rfl⟩ := List.mem_map.1 inside
      obtain ⟨name, t, rfl⟩ := members.exists_tree e entry
      exact ⟨collection, t, rfl⟩

theorem trouble?_node (t : Tree) : t.node.trouble? = none := by
  have none_first : ∀ (fuel : Nat) (queue : List Yaml.Node),
      (∀ node ∈ queue, node.isCollection = true ∧ ∃ t : Tree, t.node = node) → firstTrouble? fuel queue = none := by
    intro fuel
    induction fuel with
    | zero => exact fun _ _ => rfl
    | succ fuel ih =>
      intro queue all
      cases queue with
      | nil => rfl
      | cons node rest =>
        obtain ⟨collection, t, rfl⟩ := all node List.mem_cons_self
        obtain ⟨none_own, inside⟩ := collection_node t collection
        rw [firstTrouble?, none_own]
        refine ih _ fun node mem => ?_
        rcases List.mem_append.1 mem with mem | mem
        · exact all node (List.mem_cons_of_mem _ mem)
        · exact inside node mem
  rw [trouble?]
  split
  · rename_i collection
    refine none_first _ _ fun node mem => ?_
    obtain rfl := List.mem_singleton.1 mem
    exact ⟨collection, t, rfl⟩
  · exact scalarTrouble?_node t

mutual

/-- **The value of a tree's node**: that of the tree, but for numbers that are texts here. -/
theorem toValue_node : (t : Tree) → t.node.toValue = t.valueOf Numeral.loaded
  | .word w => (scalarTrouble?_plain (read_word w)).2.2
  | .number n => (scalarTrouble?_plain n.read_numeral).2.2
  | .text _ => rfl
  | .noItems _ => rfl
  | .list _ items => by rw [Tree.node, toValue, Tree.valueOf, itemValues_nodes items]
  | .noMembers _ => rfl
  | .map _ members => by rw [Tree.node, toValue, Tree.valueOf, entryValues_nodes members]

theorem itemValues_nodes : (items : Items) → itemValues items.nodes = items.valuesOf Numeral.loaded
  | .last item _ => by rw [Items.nodes, itemValues, itemValues, Items.valuesOf, toValue_node item]
  | .more item _ _ rest => by
    rw [Items.nodes, itemValues, Items.valuesOf, toValue_node item, itemValues_nodes rest]

theorem entryValues_nodes : (members : Members) → entryValues members.nodes = members.pairsOf Numeral.loaded
  | .last (.mk key _ _ value _) => by
    rw [Members.nodes, Member.node, entryValues, entryValues, Members.pairsOf, Member.pairOf, toValue_node value]
    rfl
  | .more (.mk key _ _ value _) _ rest => by
    rw [Members.nodes, Member.node, entryValues, Members.pairsOf, Member.pairOf, toValue_node value,
      entryValues_nodes rest]
    rfl

end

end Json

end ApiTypes
