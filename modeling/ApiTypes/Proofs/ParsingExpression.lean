/-
Parsing expressions.

What the printer writes as a type is a primary expression: a name, perhaps with items or arguments behind it, a quoted
text or a dictionary. Behind it a mark stands with which no expression goes on, so that every operator finds nothing.
-/
import ApiTypes.Proofs.Parsing

namespace ApiTypes.Source

open Parse

/-! ## Tokens before and behind -/

/-- the tokens that an expression starts with here -/
def opens : Token → Bool
  | .name text => !Module.isReserved text || text == "None"
  | .text .. => true
  | .mark text => text == "\x7b"
  | _ => false

/-- the tokens at which an expression ends here -/
def closers : List Token :=
  [.mark ",", .mark ":", .mark "]", .mark ")", .mark "\x7d", .mark "=", .newline]

/-- the tokens at which a primary expression ends here -/
def stops : List Token := .mark "|" :: closers

/-- an expression begins here, and none that gives a name its value on the way -/
def Begins (tokens : List Token) : Prop :=
  ∃ t more, tokens = t :: more ∧ opens t = true ∧ more.head? ≠ some (.mark ":=")

theorem ne_of_opens {t u : Token} (h : opens t = true) (h' : opens u = false) : t ≠ u := by
  rintro rfl
  rw [h] at h'
  contradiction

section

variable {α : Type} {t c : Token} {taken after more : List Token} {e : Expr} {operator : Parse (Option Form)}
  {part primary : Parse Expr}

/-! ## Operators -/

theorem reads_takesMarkIn_none {marks : List String} (h : ∀ text, t = .mark text → marks.contains text = false)
    (form : Form) (after : List Token) : Reads (takesMarkIn marks form) [] (t :: after) none := by
  refine (reads_token t after).look ?_
  cases t with
  | mark text =>
    simp only [h text rfl, Bool.false_eq_true, ↓reduceIte]
    exact reads_pure _ _
  | _ => exact reads_pure _ _

theorem reads_takesComparison_none (h : c ∈ stops) (after : List Token) :
    Reads takesComparison [] (c :: after) none := by
  refine (reads_token c after).look ?_
  have marks : ∀ u ∈ stops, (∃ text, u = .mark text ∧ comparisonMarks.contains text = false) ∨ u = .newline := by
    simp [stops, closers, comparisonMarks]
  rcases marks c h with ⟨text, rfl, other⟩ | rfl
  · exact reads_takesMarkIn_none (fun text' eq => by cases eq; exact other) _ _
  · exact reads_takesMarkIn_none (fun text' eq => by cases eq) _ _

theorem reads_takesLogical_none (h : c ∈ stops) (after : List Token) : Reads takesLogical [] (c :: after) none := by
  refine (reads_takes_other (ne_of_mem_of_not_mem h (by decide)) after).otherwise ?_
  exact (reads_takes_other (ne_of_mem_of_not_mem h (by decide)) after).look (reads_pure _ _)

/-- an operand without an operator behind it -/
theorem reads_operands_one (h : Reads part taken after e) (ends : Reads operator [] after none) :
    Reads (operands operator part) taken after e :=
  h.last (ends.look (reads_pure _ _))

/-- two operands -/
theorem reads_operands_two {second : List Token} {e' : Expr} {form : Form} (h : Reads part taken (t :: second ++ after) e)
    (takes : Reads operator [t] (second ++ after) (some form)) (h' : Reads part second after e')
    (ends : Reads operator [] after none) :
    Reads (operands operator part) (taken ++ t :: second) after (.compound form [e, e']) := by
  refine h.bind (takes.take (h'.last ?_))
  refine (reads_many_none ?_).look (reads_pure _ _)
  exact ends.look (reads_pure _ _)

/-- these tokens open with one that an expression starts with, and do not give a name a value -/
def Opens (taken : List Token) : Prop :=
  ∃ t rest, taken = t :: rest ∧ opens t = true ∧ ∀ u ∈ [Token.mark ":=", .mark "="], rest.head? ≠ some u

/-- nor do they when a token stands behind them that does not -/
theorem Opens.append {u : Token} (h : Opens taken) (assigns : u ∈ [Token.mark ":=", .mark "="]) (other : c ≠ u)
    (after : List Token) : ∃ t more, taken ++ c :: after = t :: more ∧ opens t = true ∧ more.head? ≠ some u := by
  obtain ⟨t, rest, rfl, opened, apart⟩ := h
  refine ⟨t, rest ++ c :: after, rfl, opened, ?_⟩
  cases rest with
  | nil => simpa using other
  | cons d more => simpa using apart u assigns

theorem Opens.begins (h : Opens taken) (stop : c ∈ stops) (after : List Token) : Begins (taken ++ c :: after) :=
  h.append (by simp) (ne_of_mem_of_not_mem stop (by decide)) after

/-- what cannot begin an expression does not come next -/
theorem Begins.takes_other {u : Token} (h : Begins tokens) (other : opens u = false) : Reads (takes u) [] tokens false := by
  obtain ⟨t, more, rfl, opened, -⟩ := h
  exact reads_takes_other (ne_of_opens opened other) more

theorem Begins.isToken_other {u : Token} (h : Begins tokens) (other : opens u = false) :
    Reads (isToken u) [] tokens false := by
  obtain ⟨t, more, rfl, opened, -⟩ := h
  rw [← beq_eq_false_iff_ne.2 (ne_of_opens opened other)]
  exact reads_isToken u t more

theorem reads_takes_stop {u : Token} (stop : c ∈ stops) (other : u ∉ stops) (after : List Token) :
    Reads (takes u) [] (c :: after) false :=
  reads_takes_other (ne_of_mem_of_not_mem stop other) after

theorem reads_isToken_stop {u : Token} (stop : c ∈ stops) (other : u ∉ stops) (after : List Token) :
    Reads (isToken u) [] (c :: after) false := by
  rw [← beq_eq_false_iff_ne.2 (ne_of_mem_of_not_mem stop other)]
  exact reads_isToken u c after

theorem stop_of_closer (h : c ∈ closers) : c ∈ stops := List.mem_cons_of_mem _ h

/-- no sign and no `await` in front, no power behind -/
theorem reads_factor (begins : Begins (taken ++ c :: after)) (stop : c ∈ stops)
    (reads : Reads primary taken (c :: after) e) : Reads (factor primary) taken (c :: after) e := by
  have unsigned : Reads (do return !(← many (takesMarkIn signs .arithmetic)).isEmpty) [] (taken ++ c :: after) false := by
    obtain ⟨t, more, first, opened, -⟩ := begins
    rw [first]
    refine (reads_many_none (reads_takesMarkIn_none ?_ _ _)).last (reads_pure _ _)
    rintro text rfl
    have brace : text = "\x7b" := by simpa [opens] using opened
    subst brace
    decide
  have notAwaited : Reads (takesWord "await") [] (taken ++ c :: after) false := begins.takes_other (by decide)
  have notPower : Reads (takesMark "**") [] (c :: after) false := reads_takes_stop stop (by decide) after
  refine unsigned.look ?_
  refine (notAwaited.otherwise reads).last ?_
  refine Reads.look (x := []) (reads_many_none ?_) (reads_pure _ _)
  exact notPower.otherwise (reads_pure _ _)

theorem reads_operand (begins : Begins (taken ++ c :: after)) (stop : c ∈ closers)
    (reads : Reads primary taken (c :: after) e) : Reads (operand primary) taken (c :: after) e := by
  refine reads_operands_one (reads_factor begins (stop_of_closer stop) reads) ?_
  refine reads_takesMarkIn_none ?_ _ _
  have marks : ∀ u ∈ closers, ∀ text, u = .mark text → arithmeticMarks.contains text = false := by
    simp [closers, arithmeticMarks]
  exact marks c stop

theorem reads_logical (begins : Begins (taken ++ c :: after)) (stop : c ∈ closers)
    (reads : Reads (operand primary) taken (c :: after) e) : Reads (logical primary) taken (c :: after) e := by
  have compared : Reads (comparison primary) taken (c :: after) e :=
    reads_operands_one reads (reads_takesComparison_none (stop_of_closer stop) after)
  refine reads_operands_one ?_ (reads_takesLogical_none (stop_of_closer stop) after)
  have notNegated : Reads (takesWord "not") [] (taken ++ c :: after) false := begins.takes_other (by decide)
  refine Reads.look (x := []) (reads_many_none ?_) (compared.last (reads_pure _ _))
  exact notNegated.last (reads_pure _ _)

/-- nothing that starts an expression stands behind this one -/
theorem reads_sideBySide (stop : c ∈ closers) (start : Lexeme) (follower : Option Token) (first : Expr)
    (next several : Parse Expr) (after : List Token) :
    Reads (sideBySide start follower first next several) [] (c :: after) () := by
  refine (reads_token c after).look ?_
  have ends : ∀ u ∈ closers, startsExpression u = false := by decide
  rw [ends c stop]
  exact reads_pure _ _

theorem reads_expressionUpTo {depth : Nat} (begins : Begins (taken ++ c :: after)) (stop : c ∈ closers)
    (reads : Reads (operand (primaryUpTo depth)) taken (c :: after) e) :
    Reads (expressionUpTo (depth + 1)) taken (c :: after) e := by
  have whole := reads_logical begins stop reads
  have notLambda : Reads (isWord "lambda") [] (taken ++ c :: after) false := begins.isToken_other (by decide)
  have notIf : Reads (takesWord "if") [] (c :: after) false := reads_takes_stop (stop_of_closer stop) (by decide) after
  obtain ⟨t, more, first, -, -⟩ := begins
  have follower : Reads second? [] (taken ++ c :: after) more.head? := by
    rw [first]
    exact reads_second? t more
  rw [expressionUpTo]
  refine notLambda.otherwise ?_
  refine Reads.peek first fun start _ => ?_
  refine follower.look (whole.last ?_)
  exact (reads_sideBySide stop _ _ _ _ _ after).look (notIf.otherwise (reads_pure _ _))

/-! ## Items of brackets -/

section

variable {inner primary : Parse Expr}

/-- a name does not get a value here -/
theorem reads_walrusOr {other : Parse Expr} (begins : Begins (taken ++ after)) (h : Reads other taken after e) :
    Reads (walrusOr inner other) taken after e := by
  obtain ⟨t, more, first, -, notWalrus⟩ := begins
  have next : Reads token [] (taken ++ after) t := by
    rw [first]
    exact reads_token t more
  have follower : Reads second? [] (taken ++ after) more.head? := by
    rw [first]
    exact reads_second? t more
  refine next.look (follower.look ?_)
  split
  · rename_i eq
    exact absurd eq notWalrus
  · exact h

theorem reads_namedExpression (begins : Begins (taken ++ c :: after)) (stop : c ∈ closers) (notEquals : c ≠ .mark "=")
    (h : Reads inner taken (c :: after) e) : Reads (namedExpression inner primary) taken (c :: after) e := by
  refine Reads.line (by simp) fun start => ?_
  refine (reads_walrusOr begins h).last ?_
  refine (reads_isToken_stop (stop_of_closer stop) (by decide) after).otherwise ?_
  have alone : Reads (isMark "=") [] (c :: after) false := by
    rw [← beq_eq_false_iff_ne.2 notEquals]
    exact reads_isToken _ c after
  exact alone.otherwise (reads_pure _ _)

theorem reads_starNamed (begins : Begins (taken ++ c :: after)) (stop : c ∈ closers) (notEquals : c ≠ .mark "=")
    (h : Reads inner taken (c :: after) e) : Reads (starNamed inner primary) taken (c :: after) e :=
  (begins.takes_other (by decide)).otherwise (reads_namedExpression begins stop notEquals h)

/-- one item between brackets, which is no slice -/
theorem reads_slice (begins : Begins (taken ++ c :: after)) (stop : c ∈ closers) (notEquals : c ≠ .mark "=")
    (notColon : c ≠ .mark ":") (h : Reads inner taken (c :: after) e) :
    Reads (slice inner primary) taken (c :: after) e := by
  refine (begins.takes_other (by decide)).otherwise ?_
  refine (reads_starNamed begins stop notEquals h).last ?_
  exact (reads_takes_other notColon after).otherwise (reads_pure _ _)

/-! ## Several items -/

/-- the tokens of items with commas between them -/
def separated : List (List Token) → List Token
  | [] => []
  | first :: rest => first ++ rest.flatMap (.mark "," :: ·)

/-- these tokens are an item before a comma and before the closing mark, and do not start with the latter -/
structure IsItem (item : Parse α) (closing : String) (taken : List Token) (x : α) : Prop where
  opened : ∃ t rest, taken = t :: rest ∧ t ≠ .mark closing
  reads : ∀ c ∈ [Token.mark ",", .mark closing], ∀ after, Reads item taken (c :: after) x

theorem itemsUpTo_eq (closing : String) (item : Parse α) (notComma : closing ≠ ",") :
    ∃ step : List α → Parse (List α ⊕ List α), (∀ before, itemsUpTo closing item before = iterate step before) ∧
      (∀ before after, Reads (step before) [.mark closing] after (.inr before)) ∧
      (∀ taken after x, IsItem item closing taken x → ∀ c ∈ [Token.mark ",", .mark closing],
        Reads (step []) taken (c :: after) (.inl [x])) ∧
      (∀ before taken after x, before ≠ [] → IsItem item closing taken x → ∀ c ∈ [Token.mark ",", .mark closing],
        Reads (step before) (.mark "," :: taken) (c :: after) (.inl (before ++ [x]))) := by
  have open_ {taken : List Token} {x : α} (h : IsItem item closing taken x) (after : List Token) :
      Reads (takesMark closing) [] (taken ++ after) false := by
    obtain ⟨t, rest, rfl, other⟩ := h.opened
    exact reads_takes_other other (rest ++ after)
  refine ⟨_, fun _ => rfl, ?_, ?_, ?_⟩
  · intro before after
    exact (reads_takes _ _).whenever (reads_pure _ _)
  · intro taken after x h c behind
    exact (open_ h (c :: after)).otherwise ((h.reads c behind after).last (reads_pure _ _))
  · intro before taken after x nonempty h c behind
    have comma : Token.mark "," ≠ .mark closing := fun eq => notComma (Token.mark.inj eq).symm
    have notEmpty : (!before.isEmpty) = true := by simpa using nonempty
    refine (reads_takes_other comma _).otherwise ?_
    simp only [notEmpty, ↓reduceIte]
    refine (reads_need _ _).take ?_
    exact (open_ h (c :: after)).otherwise ((h.reads c behind after).last (reads_pure _ _))

/-- behind an item a comma stands or the closing mark -/
theorem behind_item (closing : String) (others : List (List Token)) (after : List Token) :
    ∃ c ∈ [Token.mark ",", .mark closing], ∃ behind,
      others.flatMap (.mark "," :: ·) ++ [.mark closing] ++ after = c :: behind := by
  cases others with
  | nil => exact ⟨.mark closing, by simp, after, rfl⟩
  | cons first rest => exact ⟨.mark ",", by simp, _, rfl⟩

/-- items behind others, each with a comma in front -/
theorem steps_items {closing : String} {item : Parse α} {step : List α → Parse (List α ⊕ List α)}
    (ends : ∀ before after, Reads (step before) [.mark closing] after (.inr before))
    (next : ∀ before taken after x, before ≠ [] → IsItem item closing taken x →
      ∀ c ∈ [Token.mark ",", .mark closing], Reads (step before) (.mark "," :: taken) (c :: after) (.inl (before ++ [x])))
    {before : List α} (nonempty : before ≠ []) {items : List (List Token × α)}
    (h : ∀ i ∈ items, IsItem item closing i.1 i.2) :
    Steps step after before ((items.map Prod.fst).flatMap (.mark "," :: ·) ++ [.mark closing])
      (before ++ items.map Prod.snd) := by
  induction items generalizing before with
  | nil =>
    rw [List.map_nil, List.map_nil, List.append_nil]
    exact .done (ends before after)
  | cons i rest ih =>
    obtain ⟨taken, x⟩ := i
    have others : ∀ j ∈ rest, IsItem item closing j.1 j.2 := fun j hj => h j (List.mem_cons_of_mem _ hj)
    have later : Steps step after (before ++ [x]) _ _ := ih (by simp) others
    obtain ⟨c, isBehind, behind, split⟩ := behind_item closing (rest.map Prod.fst) after
    have read := next before taken behind x nonempty (h _ List.mem_cons_self) c isBehind
    rw [← split] at read
    rw [List.append_assoc] at later
    rw [List.map_cons, List.flatMap_cons, List.append_assoc]
    exact .next read later

theorem reads_itemsUpTo_more {closing : String} {item : Parse α} (notComma : closing ≠ ",") {before : List α}
    (nonempty : before ≠ []) {items : List (List Token × α)} (h : ∀ i ∈ items, IsItem item closing i.1 i.2) :
    Reads (itemsUpTo closing item before) ((items.map Prod.fst).flatMap (.mark "," :: ·) ++ [.mark closing]) after
      (before ++ items.map Prod.snd) := by
  obtain ⟨step, eq, ends, -, next⟩ := itemsUpTo_eq closing item notComma
  rw [eq]
  exact reads_iterate (steps_items ends next nonempty h)

theorem reads_itemsUpTo {closing : String} {item : Parse α} (notComma : closing ≠ ",")
    {items : List (List Token × α)} (h : ∀ i ∈ items, IsItem item closing i.1 i.2) :
    Reads (itemsUpTo closing item []) (separated (items.map Prod.fst) ++ [.mark closing]) after (items.map Prod.snd) := by
  obtain ⟨step, eq, ends, first, next⟩ := itemsUpTo_eq closing item notComma
  rw [eq]
  cases items with
  | nil => exact reads_iterate (.done (ends [] after))
  | cons i rest =>
    obtain ⟨taken, x⟩ := i
    have isItem : IsItem item closing taken x := h _ List.mem_cons_self
    have others : ∀ j ∈ rest, IsItem item closing j.1 j.2 := fun j hj => h j (List.mem_cons_of_mem _ hj)
    have later : Steps step after [x] _ ([x] ++ rest.map Prod.snd) := steps_items ends next (by simp) others
    obtain ⟨c, isBehind, behind, split⟩ := behind_item closing (rest.map Prod.fst) after
    have read := first taken behind x isItem c isBehind
    rw [← split] at read
    obtain ⟨t, more, rfl, -⟩ := isItem.opened
    rw [List.map_cons, separated, List.append_assoc]
    exact reads_iterate (.next read later)

/-! ## Items, arguments and entries -/

/-- these tokens are an expression at any token at which one ends; `inner` reads it -/
structure IsInner (inner : Parse Expr) (taken : List Token) (e : Expr) : Prop where
  opened : Opens taken
  reads : ∀ c ∈ closers, ∀ after, Reads inner taken (c :: after) e

theorem Opens.notMark {text : String} (h : Opens taken) (other : text ≠ "\x7b") :
    ∃ t rest, taken = t :: rest ∧ t ≠ .mark text := by
  obtain ⟨t, rest, eq, opened, -⟩ := h
  exact ⟨t, rest, eq, ne_of_opens opened (by simpa [opens] using other)⟩

theorem IsInner.slice (h : IsInner inner taken e) : IsItem (slice inner primary) "]" taken e where
  opened := h.opened.notMark (by decide)
  reads := by
    intro c behind after
    have all : ∀ u ∈ [Token.mark ",", .mark "]"], u ∈ closers ∧ u ≠ .mark "=" ∧ u ≠ .mark ":" := by decide
    obtain ⟨stop, notEquals, notColon⟩ := all c behind
    exact reads_slice (h.opened.begins (stop_of_closer stop) after) stop notEquals notColon (h.reads c stop after)

/-- one item in brackets -/
theorem reads_slices_one (h : IsInner inner taken e) (after : List Token) :
    Reads (slices inner primary) (taken ++ [.mark "]"]) after e := by
  refine (h.slice.reads (.mark "]") (by simp) after).bind ?_
  exact (reads_takes _ _).whenever (reads_pure _ _)

/-- two items in brackets -/
theorem reads_slices_two {second : List Token} {e' : Expr} (h : IsInner inner taken e) (h' : IsInner inner second e')
    (after : List Token) :
    Reads (slices inner primary) (taken ++ .mark "," :: (second ++ [.mark "]"])) after (.row [e, e']) := by
  have items : ∀ i ∈ [(second, e')], IsItem (slice inner primary) "]" i.1 i.2 := by
    simpa using h'.slice
  have others : Reads (itemsUpTo "]" (slice inner primary) [e]) (.mark "," :: (second ++ [.mark "]"])) after [e, e'] := by
    simpa using reads_itemsUpTo_more (by decide) (List.cons_ne_nil e []) items
  refine (h.slice.reads (.mark ",") (by simp) _).bind ?_
  refine (reads_takes_other (by decide) _).otherwise ?_
  exact others.last (reads_pure _ _)

theorem reads_startsClause (stop : c ∈ stops) (after : List Token) : Reads startsClause [] (c :: after) false := by
  refine (reads_isToken_stop stop (by decide) after).look ?_
  exact (reads_isToken_stop stop (by decide) after).look (reads_pure _ _)

/-- an argument of a call, given by its place -/
theorem reads_argument {given : Arguments} (positional : given.keywords = []) (h : IsInner inner taken e)
    (behind : c ∈ [Token.mark ",", .mark ")"]) (after : List Token) :
    Reads (argument inner primary given) taken (c :: after)
      { given with positional := given.positional ++ [e] } := by
  have all : ∀ u ∈ [Token.mark ",", .mark ")"], u ∈ closers ∧ u ≠ .mark "=" := by decide
  obtain ⟨stop, notEquals⟩ := all c behind
  have begins := h.opened.begins (stop_of_closer stop) after
  have item : Reads (walrusOr inner inner) taken (c :: after) e := reads_walrusOr begins (h.reads c stop after)
  obtain ⟨t, more, first, -, notKeyword⟩ := h.opened.append (u := .mark "=") (by simp) notEquals after
  have next : Reads token [] (taken ++ c :: after) t := by
    rw [first]
    exact reads_token t more
  have follower : Reads second? [] (taken ++ c :: after) more.head? := by
    rw [first]
    exact reads_second? t more
  have equals : Reads (isMark "=") [] (c :: after) false := by
    rw [← beq_eq_false_iff_ne.2 notEquals]
    exact reads_isToken _ c after
  refine Reads.line (by simp) fun start => ?_
  refine (begins.takes_other (by decide)).otherwise ?_
  refine (begins.takes_other (by decide)).otherwise ?_
  refine next.look (follower.look ?_)
  split
  · rename_i eq
    exact absurd eq notKeyword
  · refine item.last (equals.otherwise ?_)
    refine (reads_startsClause (stop_of_closer stop) after).otherwise ?_
    simp only [positional, List.isEmpty_nil, Bool.not_true, Bool.false_eq_true, ↓reduceIte]
    exact reads_pure _ _

/-- arguments are read one after the other, none of them by name -/
theorem arguments_eq (inner primary : Parse Expr) : ∃ step : Arguments → Parse (Arguments ⊕ Arguments),
    (arguments inner primary = do if ← takesMark ")" then return {} else iterate step {}) ∧
    (∀ given taken after e, given.keywords = [] → IsInner inner taken e →
      Reads (step given) (taken ++ [.mark ")"]) after (.inr { given with positional := given.positional ++ [e] })) ∧
    (∀ given taken after e, given.keywords = [] → IsInner inner taken e → Reads (takesMark ")") [] after false →
      Reads (step given) (taken ++ [.mark ","]) after (.inl { given with positional := given.positional ++ [e] })) := by
  refine ⟨_, rfl, ?_, ?_⟩
  · intro given taken after e positional h
    refine (reads_argument positional h (by simp) after).bind ?_
    exact (reads_takes _ _).whenever (reads_pure _ _)
  · intro given taken after e positional h more
    refine (reads_argument positional h (by simp) after).bind ?_
    refine (reads_takes_other (by decide) _).otherwise ?_
    refine (reads_need _ _).take ?_
    exact more.otherwise (reads_pure _ _)

theorem IsInner.notMark {text : String} (h : IsInner inner taken e) (other : text ≠ "\x7b") (after : List Token) :
    Reads (takesMark text) [] (taken ++ after) false := by
  obtain ⟨t, rest, rfl, ne⟩ := h.opened.notMark other
  exact reads_takes_other ne (rest ++ after)

theorem reads_arguments_one (h : IsInner inner taken e) (after : List Token) :
    Reads (arguments inner primary) (taken ++ [.mark ")"]) after { positional := [e] } := by
  obtain ⟨step, eq, last, -⟩ := arguments_eq inner primary
  have notEmpty : Reads (takesMark ")") [] (taken ++ [.mark ")"] ++ after) false := by
    rw [List.append_assoc]
    exact h.notMark (by decide) _
  rw [eq]
  exact notEmpty.otherwise (reads_iterate (.done (last {} taken after e rfl h)))

theorem reads_arguments_two {second : List Token} {e' : Expr} (h : IsInner inner taken e) (h' : IsInner inner second e')
    (after : List Token) :
    Reads (arguments inner primary) (taken ++ .mark "," :: (second ++ [.mark ")"])) after { positional := [e, e'] } := by
  obtain ⟨step, eq, last, next⟩ := arguments_eq inner primary
  have notEmpty : Reads (takesMark ")") [] (taken ++ .mark "," :: (second ++ [.mark ")"]) ++ after) false := by
    rw [List.append_assoc]
    exact h.notMark (by decide) _
  have more : Reads (takesMark ")") [] (second ++ [.mark ")"] ++ after) false := by
    rw [List.append_assoc]
    exact h'.notMark (by decide) _
  have first := next {} taken _ e rfl h more
  have rest := last { positional := [e] } second after e' rfl h'
  rw [eq]
  refine notEmpty.otherwise (reads_iterate ?_)
  obtain ⟨t, others, rfl, -⟩ := h.opened
  have split : t :: others ++ .mark "," :: (second ++ [.mark ")"]) =
      t :: (others ++ [.mark ","]) ++ (second ++ [.mark ")"]) := by simp
  rw [split]
  exact .next first (.done rest)

theorem reads_dictValue (h : IsInner inner taken e) (stop : c ∈ closers) (after : List Token) :
    Reads (dictValue inner) taken (c :: after) e := by
  have begins := h.opened.begins (stop_of_closer stop) after
  refine (begins.isToken_other (by decide)).look ?_
  refine (begins.isToken_other (by decide)).look ?_
  exact h.reads c stop after

/-- an entry of a dictionary -/
theorem isItem_dictEntry {key value : List Token} {k v : Expr} (h : IsInner inner key k) (h' : IsInner inner value v) :
    IsItem (dictEntry inner primary) "\x7d" (key ++ .mark ":" :: value) (k, v) where
  opened := by
    obtain ⟨t, rest, rfl, other⟩ := h.opened.notMark (by decide : "\x7d" ≠ "\x7b")
    exact ⟨t, rest ++ .mark ":" :: value, rfl, other⟩
  reads := by
    intro c behind after
    have stop : c ∈ closers := by
      have all : ∀ u ∈ [Token.mark ",", .mark "\x7d"], u ∈ closers := by decide
      exact all c behind
    have read : Reads inner key (.mark ":" :: (value ++ c :: after)) k := h.reads _ (by decide) _
    refine Reads.otherwise (p := takesMark "**") ?_ ?_
    · rw [List.append_assoc]
      exact h.notMark (by decide) _
    · refine Reads.line (by simp) fun start => ?_
      refine read.bind ?_
      refine (reads_takes (.mark ":") _).take ?_
      exact (reads_dictValue h' stop after).last (reads_pure _ _)

/-- a dictionary with an entry at least, behind the opening brace -/
theorem reads_braced {key value : List Token} {k v : Expr} (h : IsInner inner key k) (h' : IsInner inner value v)
    {entries : List (List Token × (Expr × Expr))} (others : ∀ i ∈ entries, IsItem (dictEntry inner primary) "\x7d" i.1 i.2)
    (after : List Token) :
    Reads (braced inner primary)
      (key ++ .mark ":" :: (value ++ ((entries.map Prod.fst).flatMap (.mark "," :: ·) ++ [.mark "\x7d"]))) after
      (.dict ((k, v) :: entries.map Prod.snd)) := by
  obtain ⟨c, isBehind, behind, split⟩ := behind_item "\x7d" (entries.map Prod.fst) after
  have stop : c ∈ closers := by
    have all : ∀ u ∈ [Token.mark ",", .mark "\x7d"], u ∈ closers := by decide
    exact all c isBehind
  have rest : Reads (itemsUpTo "\x7d" (dictEntry inner primary) [(k, v)]) _ after ((k, v) :: entries.map Prod.snd) :=
    reads_itemsUpTo_more (by decide) (List.cons_ne_nil (k, v) []) others
  generalize (entries.map Prod.fst).flatMap (.mark "," :: ·) ++ [.mark "\x7d"] = more at split rest ⊢
  have colon : Token.mark ":" ∈ closers := by decide
  have begins := h.opened.begins (stop_of_closer colon) (value ++ c :: behind)
  have first : Reads (starNamed inner primary) key (.mark ":" :: (value ++ c :: behind)) k :=
    reads_starNamed begins colon (by decide) (h.reads _ colon _)
  have second : Reads (dictValue inner) value (c :: behind) v := reads_dictValue h' stop behind
  have notClause := reads_startsClause (stop_of_closer stop) behind
  rw [← split] at begins first second notClause
  have tokens : key ++ .mark ":" :: (value ++ more) ++ after = key ++ .mark ":" :: (value ++ (more ++ after)) := by simp
  refine Reads.otherwise ?_ ?_
  · rw [tokens]
    exact h.notMark (by decide) _
  · refine Reads.otherwise ?_ ?_
    · rw [tokens]
      exact begins.isToken_other (by decide)
    · refine Reads.line (by simp) fun start => ?_
      refine Reads.bind (x := k) ?_ ?_
      · have eq : .mark ":" :: (value ++ more) ++ after = .mark ":" :: (value ++ (more ++ after)) := by simp
        rw [eq]
        exact first
      · refine (reads_takes (.mark ":") _).whenever ?_
        refine second.bind ?_
        exact notClause.otherwise (rest.last (reads_pure _ _))

/-! ## Primary expressions -/

theorem reads_atom_name {name : String} (h : Module.isReserved name = false) (after : List Token) :
    Reads (atom inner primary) [.name name] after (.name name) := by
  have plain : valueWord? name = none := by
    have all : ∀ word ∈ ["None", "True", "False"], word ≠ name := by
      rintro word hw rfl
      have reserved : ∀ word ∈ ["None", "True", "False"], Module.isReserved word = true := by decide
      exact absurd h (by rw [reserved word hw]; decide)
    unfold valueWord?
    split
    · exact absurd rfl (all _ (by decide))
    · exact absurd rfl (all _ (by decide))
    · exact absurd rfl (all _ (by decide))
    · rfl
  refine (reads_token (.name name) after).look ?_
  simp only [plain]
  exact (reads_needName h after).last (reads_pure _ _)

theorem reads_atom_none (after : List Token) : Reads (atom inner primary) [.name "None"] after (.word .none) := by
  refine (reads_token (.name "None") after).look ?_
  exact (reads_advance (.name "None") after).last (reads_pure _ _)

theorem reads_string?_stop (stop : c ∈ stops) (after : List Token) : Reads string? [] (c :: after) none := by
  refine (reads_token c after).look ?_
  have other : ∀ u ∈ stops, ∀ mode body, u ≠ .text mode body := by simp [stops, closers]
  split
  · exact absurd rfl (other _ stop _ _)
  · exact reads_pure _ _

theorem reads_atom_text {body text : String} (decoded : Literal.decode {} body = .ok text) (stop : c ∈ stops)
    (after : List Token) : Reads (atom inner primary) [.text {} body] (c :: after) (.text text) := by
  have one : Reads string? [.text {} body] (c :: after) (some ({}, text)) := by
    refine (reads_token (.text {} body) (c :: after)).look ?_
    refine Reads.line (by simp) fun start => ?_
    refine (reads_advance (.text {} body) (c :: after)).last ?_
    simp only [Bool.false_and, Bool.false_eq_true, ↓reduceIte, decoded]
    exact reads_pure _ _
  refine (reads_token (.text {} body) (c :: after)).look ?_
  refine Reads.line (by simp) fun start => ?_
  refine (reads_many_one one (reads_string?_stop stop after)).last ?_
  have joined : joinTexts [({}, text)] = .text text := by simp [joinTexts, String.join]
  rw [← joined]
  exact reads_pure _ _

theorem reads_atom_braced (h : Reads (braced inner primary) taken after e) :
    Reads (atom inner primary) (.mark "\x7b" :: taken) after e := by
  refine (reads_token (.mark "\x7b") (taken ++ after)).look ?_
  exact (reads_advance (.mark "\x7b") (taken ++ after)).take h

/-- behind an atom, items and arguments are taken one after the other -/
theorem trailers_eq (inner primary : Parse Expr) : ∃ step : Expr → Parse (Expr ⊕ Expr),
    (∀ first, trailers inner primary first = iterate step first) ∧
    (∀ base, ∀ c ∈ stops, ∀ after, Reads (step base) [] (c :: after) (.inr base)) ∧
    (∀ base taken after index, Reads (slices inner primary) taken after index →
      Reads (step base) (.mark "[" :: taken) after (.inl (.subscript base index))) ∧
    (∀ base taken after given, Reads (arguments inner primary) taken after given →
      Reads (step base) (.mark "(" :: taken) after (.inl (.call base given.positional given.keywords))) := by
  refine ⟨_, fun _ => rfl, ?_, ?_, ?_⟩
  · intro base c stop after
    refine (reads_takes_stop stop (by decide) after).otherwise ?_
    refine (reads_takes_stop stop (by decide) after).otherwise ?_
    exact (reads_takes_stop stop (by decide) after).otherwise (reads_pure _ _)
  · intro base taken after index h
    refine (reads_takes_other (by decide) _).otherwise ?_
    refine (reads_takes_other (by decide) _).otherwise ?_
    exact (reads_takes _ _).whenever (h.last (reads_pure _ _))
  · intro base taken after given h
    refine (reads_takes_other (by decide) _).otherwise ?_
    exact (reads_takes _ _).whenever (h.last (reads_pure _ _))

theorem reads_trailers_none (base : Expr) (stop : c ∈ stops) (after : List Token) :
    Reads (trailers inner primary base) [] (c :: after) base := by
  obtain ⟨step, eq, ends, -⟩ := trailers_eq inner primary
  rw [eq]
  exact reads_iterate (.done (ends base c stop after))

theorem reads_trailers_item (base : Expr) (stop : c ∈ stops) (h : Reads (slices inner primary) taken (c :: after) e) :
    Reads (trailers inner primary base) (.mark "[" :: taken) (c :: after) (.subscript base e) := by
  obtain ⟨step, eq, ends, item, -⟩ := trailers_eq inner primary
  rw [eq]
  exact reads_iterate (.once (item base taken (c :: after) e h) (ends _ c stop after))

theorem reads_trailers_call (base : Expr) (stop : c ∈ stops) {given : Arguments}
    (h : Reads (arguments inner primary) taken (c :: after) given) :
    Reads (trailers inner primary base) (.mark "(" :: taken) (c :: after)
      (.call base given.positional given.keywords) := by
  obtain ⟨step, eq, ends, -, call⟩ := trailers_eq inner primary
  rw [eq]
  exact reads_iterate (.once (call base taken (c :: after) given h) (ends _ c stop after))

end

/-- these tokens are a primary expression, inside as many brackets as their number allows -/
structure IsPrimary (taken : List Token) (e : Expr) : Prop where
  opened : Opens taken
  reads : ∀ depth, 2 * taken.length ≤ depth → ∀ c ∈ stops, ∀ after, Reads (primaryUpTo depth) taken (c :: after) e

/-- these tokens are an expression -/
structure IsExpression (taken : List Token) (e : Expr) : Prop where
  opened : Opens taken
  reads : ∀ depth, 2 * taken.length + 1 ≤ depth → ∀ c ∈ closers, ∀ after,
    Reads (expressionUpTo depth) taken (c :: after) e

theorem IsExpression.isInner (h : IsExpression taken e) {depth : Nat} (enough : 2 * taken.length + 1 ≤ depth) :
    IsInner (expressionUpTo depth) taken e :=
  ⟨h.opened, h.reads depth enough⟩

theorem IsPrimary.expression (h : IsPrimary taken e) : IsExpression taken e where
  opened := h.opened
  reads := by
    intro depth enough c stop after
    obtain ⟨depth, rfl⟩ : ∃ n, depth = n + 1 := ⟨depth - 1, by omega⟩
    have begins := h.opened.begins (stop_of_closer stop) after
    have read := h.reads depth (by omega) c (stop_of_closer stop) after
    exact reads_expressionUpTo begins stop (reads_operand begins stop read)

/-- an atom, and what is behind it -/
theorem isPrimary_atom {behind : List Token} {e' : Expr} (opened : Opens (taken ++ behind))
    (h : ∀ depth, 2 * (taken ++ behind).length ≤ depth + 1 → ∀ c ∈ stops, ∀ after,
      Reads (atom (expressionUpTo depth) (primaryUpTo depth)) taken (behind ++ c :: after) e ∧
      Reads (trailers (expressionUpTo depth) (primaryUpTo depth) e) behind (c :: after) e') :
    IsPrimary (taken ++ behind) e' where
  opened := opened
  reads := by
    intro depth enough c stop after
    have pos : 0 < (taken ++ behind).length := by
      obtain ⟨t, rest, eq, -⟩ := opened
      simp [eq]
    obtain ⟨depth, rfl⟩ : ∃ n, depth = n + 1 := ⟨depth - 1, by omega⟩
    obtain ⟨first, rest⟩ := h depth enough c stop after
    rw [primaryUpTo]
    exact first.bind rest

theorem opens_single {t : Token} (h : opens t = true) : Opens [t] :=
  ⟨t, [], rfl, h, by simp⟩

/-- an atom by itself -/
theorem isPrimary_single {t : Token} (opened : opens t = true)
    (h : ∀ inner primary : Parse Expr, ∀ c ∈ stops, ∀ after, Reads (atom inner primary) [t] (c :: after) e) :
    IsPrimary [t] e := by
  have whole : IsPrimary ([t] ++ []) e := by
    refine isPrimary_atom (e := e) (opens_single opened) fun depth _ c stop after => ?_
    exact ⟨h _ _ c stop after, reads_trailers_none e stop after⟩
  exact whole

theorem isPrimary_name {name : String} (h : Module.isReserved name = false) : IsPrimary [.name name] (.name name) :=
  isPrimary_single (by simp [opens, h]) fun _ _ _ _ _ => reads_atom_name h _

theorem isPrimary_none : IsPrimary [.name "None"] (.word .none) :=
  isPrimary_single (by decide) fun _ _ _ _ _ => reads_atom_none _

theorem isPrimary_text {body text : String} (decoded : Literal.decode {} body = .ok text) :
    IsPrimary [.text {} body] (.text text) :=
  isPrimary_single rfl fun _ _ _ stop after => reads_atom_text decoded stop after

/-- a name with brackets behind it -/
theorem isPrimary_behind {name mark : String} (isName : Module.isReserved name = false)
    (notAssign : ∀ u ∈ [Token.mark ":=", .mark "="], Token.mark mark ≠ u)
    (h : ∀ depth, 2 * taken.length + 3 ≤ depth → ∀ c ∈ stops, ∀ after,
      Reads (trailers (expressionUpTo depth) (primaryUpTo depth) (.name name)) (.mark mark :: taken) (c :: after) e) :
    IsPrimary (.name name :: .mark mark :: taken) e := by
  have opened : Opens ([.name name] ++ .mark mark :: taken) :=
    ⟨_, _, rfl, by simp [opens, isName], fun u hu => by simpa using notAssign u hu⟩
  refine isPrimary_atom opened fun depth enough c stop after => ⟨reads_atom_name isName _, h depth ?_ c stop after⟩
  simp only [List.length_append, List.length_cons, List.length_nil] at enough
  omega

/-- an item of a name -/
theorem IsExpression.itemOf {name : String} (isName : Module.isReserved name = false) (h : IsExpression taken e) :
    IsPrimary (.name name :: .mark "[" :: (taken ++ [.mark "]"])) (.subscript (.name name) e) := by
  refine isPrimary_behind isName (by decide) fun depth enough c stop after => ?_
  rw [List.length_append] at enough
  exact reads_trailers_item _ stop (reads_slices_one (h.isInner (by omega)) (c :: after))

/-- two items of a name -/
theorem IsExpression.itemsOf {name : String} {second : List Token} {e' : Expr} (isName : Module.isReserved name = false)
    (h : IsExpression taken e) (h' : IsExpression second e') :
    IsPrimary (.name name :: .mark "[" :: (taken ++ .mark "," :: (second ++ [.mark "]"])))
      (.subscript (.name name) (.row [e, e'])) := by
  refine isPrimary_behind isName (by decide) fun depth enough c stop after => ?_
  simp only [List.length_append, List.length_cons] at enough
  exact reads_trailers_item _ stop (reads_slices_two (h.isInner (by omega)) (h'.isInner (by omega)) (c :: after))

/-- a call with two arguments -/
theorem IsExpression.call {name : String} {second : List Token} {e' : Expr} (isName : Module.isReserved name = false)
    (h : IsExpression taken e) (h' : IsExpression second e') :
    IsPrimary (.name name :: .mark "(" :: (taken ++ .mark "," :: (second ++ [.mark ")"])))
      (.call (.name name) [e, e'] []) := by
  refine isPrimary_behind isName (by decide) fun depth enough c stop after => ?_
  simp only [List.length_append, List.length_cons] at enough
  exact reads_trailers_call _ stop (reads_arguments_two (h.isInner (by omega)) (h'.isInner (by omega)) (c :: after))

/-- `None` as an alternative -/
theorem IsPrimary.orNone (h : IsPrimary taken e) :
    IsExpression (taken ++ [.mark "|", .name "None"]) (.compound .arithmetic [e, .word .none]) where
  opened := by
    obtain ⟨t, rest, rfl, opened, apart⟩ := h.opened
    refine ⟨t, rest ++ [.mark "|", .name "None"], rfl, opened, ?_⟩
    cases rest with
    | nil => decide
    | cons u more => simpa using apart
  reads := by
    intro depth enough c stop after
    rw [List.length_append, List.length_cons] at enough
    obtain ⟨depth, rfl⟩ : ∃ n, depth = n + 1 := ⟨depth - 1, by omega⟩
    have bar : Token.mark "|" ∈ stops := by decide
    have begins := h.opened.begins bar (.name "None" :: c :: after)
    have beginsNone := isPrimary_none.opened.begins (stop_of_closer stop) after
    have first := h.reads depth (by omega) _ bar (.name "None" :: c :: after)
    have second := isPrimary_none.reads depth (by rw [List.length_singleton]; omega) c (stop_of_closer stop) after
    have takesBar : Reads (takesMarkIn arithmeticMarks .arithmetic) [.mark "|"] (.name "None" :: c :: after)
        (some .arithmetic) := by
      refine (reads_token (.mark "|") _).look ?_
      exact (reads_advance (.mark "|") _).last (reads_pure _ _)
    have marks : ∀ u ∈ closers, ∀ text, u = .mark text → arithmeticMarks.contains text = false := by
      simp [closers, arithmeticMarks]
    have both : Reads (operand (primaryUpTo depth)) (taken ++ .mark "|" :: [.name "None"]) (c :: after)
        (.compound .arithmetic [e, .word .none]) :=
      reads_operands_two (reads_factor begins bar first) takesBar
        (reads_factor beginsNone (stop_of_closer stop) second) (reads_takesMarkIn_none (marks c stop) _ _)
    refine reads_expressionUpTo ?_ stop both
    rw [List.append_assoc]
    exact begins

/-! ## Dictionaries -/

/-- these tokens are a key and a value with a colon between them -/
def IsEntry (taken : List Token) (entry : Expr × Expr) : Prop :=
  ∃ key value, taken = key ++ .mark ":" :: value ∧ IsExpression key entry.1 ∧ IsExpression value entry.2

theorem IsEntry.isItem {entry : Expr × Expr} (h : IsEntry taken entry) {depth : Nat} (enough : 2 * taken.length ≤ depth) :
    IsItem (dictEntry (expressionUpTo depth) (primaryUpTo depth)) "\x7d" taken entry := by
  obtain ⟨key, value, rfl, isKey, isValue⟩ := h
  simp only [List.length_append, List.length_cons] at enough
  exact isItem_dictEntry (isKey.isInner (by omega)) (isValue.isInner (by omega))

theorem length_le_separated {parts : List (List Token)} {part : List Token} (h : part ∈ parts) :
    part.length ≤ (separated parts).length := by
  cases parts with
  | nil => simp at h
  | cons first rest =>
    rw [separated, List.length_append]
    rcases List.mem_cons.1 h with rfl | h
    · omega
    · obtain ⟨before, after, rfl⟩ := List.append_of_mem h
      simp only [List.flatMap_append, List.flatMap_cons, List.length_append, List.length_cons]
      omega

/-- a dictionary with an entry at least -/
theorem isPrimary_dict {entries : List (List Token × (Expr × Expr))} (nonempty : entries ≠ [])
    (h : ∀ i ∈ entries, IsEntry i.1 i.2) :
    IsPrimary (.mark "\x7b" :: (separated (entries.map Prod.fst) ++ [.mark "\x7d"])) (.dict (entries.map Prod.snd)) := by
  obtain ⟨⟨first, entry⟩, rest, rfl⟩ := List.exists_cons_of_ne_nil nonempty
  have isEntry : IsEntry first entry := h _ List.mem_cons_self
  obtain ⟨key, value, eq, isKey, isValue⟩ := isEntry
  have opened : Opens (.mark "\x7b" :: (separated (((first, entry) :: rest).map Prod.fst) ++ [.mark "\x7d"])) := by
    obtain ⟨t, more, rfl, opened, -⟩ := isKey.opened
    refine ⟨_, _, rfl, by decide, ?_⟩
    have other : ∀ u ∈ [Token.mark ":=", .mark "="], t ≠ u := by
      intro u hu
      have closed : ∀ u ∈ [Token.mark ":=", .mark "="], opens u = false := by decide
      exact ne_of_opens opened (closed u hu)
    intro u hu
    simpa [eq, separated] using other u hu
  have whole : IsPrimary (.mark "\x7b" :: (separated (((first, entry) :: rest).map Prod.fst) ++ [.mark "\x7d"]) ++ [])
      (.dict (((first, entry) :: rest).map Prod.snd)) := by
    refine isPrimary_atom ?_ fun depth enough c stop after => ⟨?_, reads_trailers_none _ stop after⟩
    · rw [List.append_nil]
      exact opened
    · rw [List.append_nil, List.length_cons, List.length_append] at enough
      have bound {part : List Token} (mem : part ∈ ((first, entry) :: rest).map Prod.fst) : 2 * part.length ≤ depth := by
        have shorter := length_le_separated mem
        omega
      have others : ∀ i ∈ rest, IsItem (dictEntry (expressionUpTo depth) (primaryUpTo depth)) "\x7d" i.1 i.2 := by
        intro i hi
        have mem := List.mem_cons_of_mem (first, entry) hi
        exact (h i mem).isItem (bound (List.mem_map_of_mem mem))
      have own : 2 * first.length ≤ depth := bound (by simp)
      rw [eq, List.length_append, List.length_cons] at own
      have read := reads_braced (isKey.isInner (by omega)) (isValue.isInner (by omega)) others (c :: after)
      refine reads_atom_braced ?_
      simpa [eq, separated] using read
  rwa [List.append_nil] at whole

end

end ApiTypes.Source
