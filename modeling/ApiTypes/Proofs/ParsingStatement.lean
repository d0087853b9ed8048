/-
Parsing statements.

The statements of a generated module: imports, classes with annotated fields, assignments of a call, functions whose
body only raises, and the expression that documents a module or a function.
-/
import ApiTypes.Proofs.ParsingExpression

namespace ApiTypes.Source

open Parse

section

variable {t c : Token} {taken after more : List Token} {e : Expr}

/-! ## Expressions -/

theorem IsExpression.reads_expression (h : IsExpression taken e) (stop : c ∈ closers) (after : List Token) :
    Reads expression taken (c :: after) e := by
  intro a stands
  have bounded := stands.bounded
  rw [List.length_append] at bounded
  exact h.reads (depthFor a) (by unfold depthFor; omega) c stop after a stands

/-- an expression and no comma behind it -/
theorem IsExpression.reads_value (h : IsExpression taken e) (stop : c ∈ closers) (notComma : c ≠ .mark ",")
    (after : List Token) : Reads value taken (c :: after) e := by
  have begins := h.opened.begins (stop_of_closer stop) after
  have alone : Reads (isMark ",") [] (c :: after) false := by
    rw [← beq_eq_false_iff_ne.2 notComma]
    exact reads_isToken _ c after
  refine (begins.isToken_other (by decide)).otherwise ?_
  have item : Reads (starExpression expression primary) taken (c :: after) e :=
    (begins.takes_other (by decide)).otherwise (h.reads_expression stop after)
  exact item.last (alone.look (reads_pure _ _))

/-! ## Simple statements -/

/-- a statement that starts like an expression -/
theorem reads_simpleStatement {s : Statement} (begins : Begins (taken ++ after)) (h : Reads expressionStatement taken after s) :
    Reads simpleStatement taken after s := by
  obtain ⟨t, more, first, opened, -⟩ := begins
  have next : Reads token [] (taken ++ after) t := by
    rw [first]
    exact reads_token t more
  have other {word : String} (h : opens (.name word) = false) : t ≠ .name word := ne_of_opens opened h
  refine next.look ?_
  split
  case h_9 text _ _ _ _ _ _ _ _ =>
    have plain : ["pass", "break", "continue"].contains text = false := by
      rw [← Bool.not_eq_true]
      intro inside
      have closed : ∀ word ∈ ["pass", "break", "continue"], opens (.name word) = false := by decide
      exact other (closed text (List.contains_iff_mem.1 inside)) rfl
    rw [plain]
    exact h
  case h_10 => exact h
  all_goals exact absurd rfl (other (by decide))

/-- a line with one simple statement -/
theorem reads_simpleStatements {s : Statement} (h : Reads simpleStatement taken (.newline :: after) s) :
    Reads simpleStatements (taken ++ [.newline]) after [s] := by
  refine h.bind (reads_iterate (.done ?_))
  refine (reads_takes_other (by decide) _).otherwise ?_
  exact (reads_need _ _).last (reads_pure _ _)

/-- an expression by itself -/
theorem IsExpression.reads_alone (h : IsExpression taken e) (after : List Token) :
    Reads simpleStatement taken (.newline :: after) (.expression e) := by
  have ends : Token.newline ∈ closers := by decide
  refine reads_simpleStatement (h.opened.begins (stop_of_closer ends) after) ?_
  refine Reads.line (by simp) fun start => ?_
  refine (h.reads_value ends (by decide) after).last ?_
  exact (reads_token .newline after).look (reads_pure _ _)

/-- a name that is assigned a value -/
theorem IsExpression.reads_assigned {name : String} (isName : Module.isReserved name = false) (h : IsExpression taken e)
    (after : List Token) :
    Reads simpleStatement (.name name :: .mark "=" :: taken) (.newline :: after) (.assign [.name name] e) := by
  have target := (isPrimary_name isName).expression
  have equals : Token.mark "=" ∈ closers := by decide
  have ends : Token.newline ∈ closers := by decide
  refine reads_simpleStatement (target.opened.begins (stop_of_closer equals) _) ?_
  refine Reads.line (by simp) fun start => ?_
  refine (target.reads_value equals (by decide) _).take ?_
  refine (reads_token (.mark "=") _).look ?_
  have another : Reads (isMark "=") [] (.newline :: after) false := reads_isToken (.mark "=") .newline after
  refine Reads.last (x := ([.name name], e)) (reads_iterate ?_) (reads_pure _ _)
  apply Steps.once
  · refine (reads_isToken (.mark "=") (.mark "=") _).look ?_
    refine (reads_advance (.mark "=") _).take ?_
    exact (h.reads_value ends (by decide) after).last (reads_pure _ _)
  · exact another.look (reads_pure _ _)

/-- a name with a type -/
theorem IsExpression.reads_annotated {name : String} (isName : Module.isReserved name = false) (h : IsExpression taken e)
    (after : List Token) :
    Reads simpleStatement (.name name :: .mark ":" :: taken) (.newline :: after) (.annotated (.name name) e none) := by
  have target := (isPrimary_name isName).expression
  have colon : Token.mark ":" ∈ closers := by decide
  have ends : Token.newline ∈ closers := by decide
  refine reads_simpleStatement (target.opened.begins (stop_of_closer colon) _) ?_
  refine Reads.line (by simp) fun start => ?_
  refine (target.reads_value colon (by decide) _).take ?_
  refine (reads_token (.mark ":") _).look ?_
  have behind : Reads (do needMark ":"; expression) (.mark ":" :: taken) (.newline :: after) e :=
    (reads_need _ _).take (h.reads_expression ends after)
  refine behind.last ?_
  exact (reads_takes_other (by decide) _).otherwise (reads_pure _ _)

/-! ## Imports -/

theorem reads_memberNames {name : String} (isName : Module.isReserved name = false) (ne : t ≠ .mark ".")
    (after : List Token) : Reads memberNames [.name name] (t :: after) [name] := by
  have noPoint : Reads (takesMark ".") [] (t :: after) false := reads_takes_other ne after
  refine (reads_needName isName _).last ?_
  refine Reads.last (x := []) (reads_many_none ?_) (reads_pure _ _)
  exact noPoint.last (reads_pure _ _)

theorem reads_dottedName {name : String} (isName : Module.isReserved name = false) (ne : t ≠ .mark ".")
    (after : List Token) : Reads dottedName [.name name] (t :: after) name := by
  have single : ".".intercalate [name] = name := String.intercalate_singleton
  have read : Reads dottedName [.name name] (t :: after) (".".intercalate [name]) :=
    (reads_memberNames isName ne after).last (reads_pure _ _)
  rwa [single] at read

/-- the dots in front of the name of a module beside this one, or of one that is found elsewhere -/
def dotsFor (beside : Bool) : List Token := if beside then [.mark "."] else []

theorem reads_dots (beside : Bool) (name : String) (after : List Token) :
    Reads dots (dotsFor beside) (.name name :: after) (if beside then 1 else 0) := by
  have noPoint : Reads (takesMark ".") [] (.name name :: after) false := reads_takes_other (by simp) after
  have noPoints : Reads (takesMark "...") [] (.name name :: after) false := reads_takes_other (by simp) after
  cases beside with
  | false =>
    refine Reads.last (x := []) (reads_many_none ?_) (reads_pure _ _)
    exact noPoint.last (noPoints.last (reads_pure _ _))
  | true =>
    refine Reads.last (x := [1]) (reads_many_one ?_ ?_) (reads_pure _ _)
    · exact (reads_takes _ _).whenever (reads_pure _ _)
    · exact noPoint.last (noPoints.last (reads_pure _ _))

theorem reads_importedName {name : String} (isName : Module.isReserved name = false) (ne : t ≠ .name "as")
    (after : List Token) : Reads importedName [.name name] (t :: after) name := by
  have own : Reads (takesWord "as") [] (t :: after) false := reads_takes_other ne after
  refine (reads_needName isName _).last ?_
  exact Reads.look (x := ()) (own.last (reads_pure _ _)) (reads_pure _ _)

/-- the tokens of imported names, the first and the others with a comma in front -/
def importTokens (first : String) (rest : List String) : List Token :=
  .name first :: rest.flatMap fun name => [.mark ",", .name name]

/-- behind an imported name a comma stands, or the end of the line -/
theorem behind_imported (rest : List String) (after : List Token) :
    ∃ t behind, (rest.flatMap fun name => [Token.mark ",", .name name]) ++ .newline :: after = t :: behind ∧
      t ≠ .name "as" := by
  cases rest with
  | nil => exact ⟨.newline, after, rfl, by decide⟩
  | cons name rest => exact ⟨.mark ",", _, rfl, by decide⟩

theorem reads_importedNames {first : String} {rest : List String} (h : ∀ name ∈ first :: rest, Module.isReserved name = false)
    (after : List Token) : Reads importedNames (importTokens first rest) (.newline :: after) (first :: rest) := by
  obtain ⟨t, behind, split, notAs⟩ := behind_imported rest after
  have read := reads_importedName (h first List.mem_cons_self) notAs behind
  rw [← split] at read
  refine read.take (reads_iterate ?_)
  have others : ∀ name ∈ rest, Module.isReserved name = false := fun name hn => h name (List.mem_cons_of_mem _ hn)
  clear h read split
  suffices steps : ∀ before : List String, Steps _ (.newline :: after) before
      (rest.flatMap fun name => [.mark ",", .name name]) (before ++ rest) from steps [first]
  induction rest with
  | nil =>
    intro before
    rw [List.append_nil]
    exact .done ((reads_takes_other (by decide) after).look (reads_pure _ _))
  | cons name rest ih =>
    intro before
    obtain ⟨t, behind, split, notAs⟩ := behind_imported rest after
    have read := reads_importedName (others name List.mem_cons_self) notAs behind
    rw [← split] at read
    have later := ih (fun other hn => others other (List.mem_cons_of_mem _ hn)) (before ++ [name])
    rw [List.append_assoc] at later
    refine .next ?_ later
    refine (reads_takes _ _).take ?_
    refine (reads_isToken .newline (.name name) _).look ?_
    exact read.last (reads_pure _ _)

/-- the tokens of an import in front of the names -/
def importHead (beside : Bool) (module : String) : List Token :=
  .name "from" :: (dotsFor beside ++ [.name module, .name "import"])

/-- an import goes on with the names that it is for -/
theorem reaches_importedNames (beside : Bool) {module : String} (isName : Module.isReserved module = false)
    (first : String) (rest : List String) (after : List Token) :
    Reaches simpleStatement (importHead beside module) (importTokens first rest ++ after)
      (return .importFrom (if beside then 1 else 0) (some module) (← importedNames)) := by
  have named : Reads dottedName [.name module] (.name "import" :: (importTokens first rest ++ after)) module :=
    reads_dottedName isName (by decide) _
  have notImport : Token.name module ≠ .name "import" := by
    intro eq
    cases eq
    exact absurd isName (by decide)
  have present : Reads (isWord "import") [] (.name module :: .name "import" :: (importTokens first rest ++ after))
      false := by
    rw [← beq_eq_false_iff_ne.2 notImport]
    exact reads_isToken _ _ _
  refine (reads_token _ _).reaches_look ?_
  refine (reads_need _ _).reaches_take ?_
  refine (reads_dots beside module _).reaches ?_
  refine present.reaches_look ?_
  simp only [Bool.and_false, Bool.false_eq_true, ↓reduceIte]
  refine named.reaches_take ((reads_pure (some module) _).reaches_look ?_)
  refine (reads_need _ _).reaches_take ?_
  refine (reads_takes_other (by simp) _).reaches_look ?_
  refine (reads_takes_other (by simp) _).reaches_look ?_
  exact reaches_refl _ _

/-- an import of names -/
theorem reads_importFrom (beside : Bool) {module first : String} {rest : List String}
    (isName : Module.isReserved module = false) (h : ∀ name ∈ first :: rest, Module.isReserved name = false)
    (after : List Token) :
    Reads simpleStatement (importHead beside module ++ importTokens first rest)
      (.newline :: after) (.importFrom (if beside then 1 else 0) (some module) (first :: rest)) :=
  (reaches_importedNames beside isName first rest (.newline :: after)).reads
    ((reads_importedNames h after).last (reads_pure _ _))

/-! ## Other lines -/

theorem reads_pass (after : List Token) : Reads simpleStatement [.name "pass"] (.newline :: after) (.other []) := by
  refine (reads_token _ _).look ?_
  exact (reads_advance _ _).last (reads_pure _ _)

theorem IsExpression.reads_raising (h : IsExpression taken e) (after : List Token) :
    Reads simpleStatement (.name "raise" :: taken) (.newline :: after) (.other []) := by
  have ends : Token.newline ∈ closers := by decide
  have begins := h.opened.begins (stop_of_closer ends) after
  have notNewline : Reads (isToken .newline) [] (taken ++ .newline :: after) false := begins.isToken_other (by decide)
  have notSemicolon : Reads (isMark ";") [] (taken ++ .newline :: after) false := begins.isToken_other (by decide)
  have notEnd : Reads atEnd [] (taken ++ .newline :: after) false :=
    notNewline.last (notSemicolon.last (reads_pure _ _))
  refine (reads_token _ _).look ?_
  refine (reads_advance _ _).take ?_
  refine notEnd.look ?_
  refine (h.reads_expression ends after).discard.last ?_
  exact (reads_takes_other (by decide) _).otherwise (reads_pure _ _)

/-! ## A name that starts no block -/

/-- the tokens behind a name at the start of a statement that assigns to it or tells its type -/
def behindTarget : List Token := [.mark ":", .mark "="]

theorem halts_atom (h : t ∈ behindTarget) (inner primary : Parse Expr) (after : List Token) :
    Halts (atom inner primary) (t :: after) := by
  have all : ∀ u ∈ behindTarget, u = .mark ":" ∨ u = .mark "=" := by simp [behindTarget]
  rcases all t h with rfl | rfl
  · exact (reads_token _ _).halts (halts_refuse _ _)
  · exact (reads_token _ _).halts (halts_refuse _ _)

theorem halts_primaryUpTo (h : t ∈ behindTarget) (depth : Nat) (after : List Token) :
    Halts (primaryUpTo depth) (t :: after) := by
  cases depth with
  | zero => exact halts_refuse t after
  | succ depth => exact (halts_atom h _ _ after).bind _

theorem halts_expressionUpTo (h : t ∈ behindTarget) (depth : Nat) (after : List Token) :
    Halts (expressionUpTo depth) (t :: after) := by
  have other {u : Token} (apart : u ∉ behindTarget) : t ≠ u := ne_of_mem_of_not_mem h apart
  have unsigned : Reads (do return !(← many (takesMarkIn signs .arithmetic)).isEmpty) [] (t :: after) false := by
    refine (reads_many_none (reads_takesMarkIn_none ?_ _ _)).last (reads_pure _ _)
    have marks : ∀ u ∈ behindTarget, ∀ text, u = .mark text → signs.contains text = false := by
      simp [behindTarget, signs]
    exact marks t h
  cases depth with
  | zero => exact halts_refuse t after
  | succ depth =>
    have notAwaited : Reads (takesWord "await") [] (t :: after) false := reads_takes_other (other (by decide)) after
    have notNegated : Reads (takesWord "not") [] (t :: after) false := reads_takes_other (other (by decide)) after
    have notLambda : Reads (isWord "lambda") [] (t :: after) false := by
      rw [← beq_eq_false_iff_ne.2 (other (by decide : Token.name "lambda" ∉ behindTarget))]
      exact reads_isToken _ t after
    have primary : Halts (factor (primaryUpTo depth)) (t :: after) := by
      refine unsigned.halts ?_
      refine Halts.bind ?_ _
      exact notAwaited.halts (halts_primaryUpTo h depth after)
    have compared : Halts (comparison (primaryUpTo depth)) (t :: after) := (primary.bind _).bind _
    have negated : Halts (logical (primaryUpTo depth)) (t :: after) := by
      refine Halts.bind ?_ _
      refine Reads.halts (x := []) (reads_many_none ?_) (compared.bind _)
      exact notNegated.last (reads_pure _ _)
    rw [expressionUpTo]
    refine notLambda.halts ?_
    refine Halts.peek fun start => ?_
    exact (reads_second? t after).halts (negated.bind _)

theorem halts_expression (h : t ∈ behindTarget) (after : List Token) : Halts expression (t :: after) :=
  fun a stands => halts_expressionUpTo h (depthFor a) after a stands

/-- what a `match` statement is about is not found there -/
theorem halts_subject (h : t ∈ behindTarget) (after : List Token) : Halts subject (t :: after) := by
  have notStarred : Reads (takesMark "*") [] (t :: after) false :=
    reads_takes_other (ne_of_mem_of_not_mem h (by decide)) after
  have notName : ∀ u ∈ behindTarget, ∀ name, u ≠ .name name := by simp [behindTarget]
  have named : Halts (walrusOr expression expression) (t :: after) := by
    refine (reads_token t after).halts ?_
    refine (reads_second? t after).halts ?_
    split
    · exact absurd rfl (notName _ h _)
    · exact halts_expression h after
  have item : Halts (starNamed expression primary) (t :: after) :=
    notStarred.halts (Halts.line fun start => named.bind _)
  exact (item.bind _).bind _

/-- a name is no `match` statement where what is behind it assigns to it or tells its type -/
theorem reads_matchStatement?_none (inner : Parse (List Statement)) (h : t ∈ behindTarget) {s : Statement}
    (line : Reads simpleStatement (.name "match" :: t :: taken) (.newline :: after) s) :
    Reads (matchStatement? inner) [] (.name "match" :: t :: (taken ++ .newline :: after)) none := by
  have other : standsApart t = false := by
    have all : ∀ u ∈ behindTarget, standsApart u = false := by decide
    exact all t h
  refine Reads.line (by simp) fun start => ?_
  refine Reads.look (x := false) (reads_leadsTo_halts ?_ _) ?_
  · exact ((reads_advance _ _).halts (halts_subject h _)).bind _
  · simp only [Bool.false_eq_true, ↓reduceIte]
    refine (reads_second? _ _).look ?_
    have whole : Reads (leadsTo simpleStatements (return true)) [] (.name "match" :: t :: (taken ++ .newline :: after))
        true := by
      have looked : Reads (leadsTo simpleStatements (return true)) [] (.name "match" :: t :: taken ++ [.newline] ++ after)
          true := reads_leadsTo (reads_simpleStatements line) (reads_pure _ _)
      simpa using looked
    simp only [List.head?_cons, Option.map_some, Option.getD_some, other]
    exact whole.look (reads_pure _ _)

/-- the tokens that a statement with a block starts with, but for `match`, and those at which no statement starts -/
def otherOpeners : List Token :=
  [.name "if", .name "while", .name "for", .name "with", .name "try", .name "class", .name "def", .name "async", .mark "@",
    .dedent, .finish]

/-- these tokens are a simple statement, without the end of its line -/
structure IsSimple (taken : List Token) (s : Statement) : Prop where
  opened : ∃ t more, taken = t :: more ∧ t ∉ otherOpeners ∧
    (t = .name "match" → ∃ u rest, more = u :: rest ∧ u ∈ behindTarget)
  reads : ∀ after, Reads simpleStatement taken (.newline :: after) s

theorem IsSimple.reads_statements {s : Statement} (h : IsSimple taken s) (depth : Nat) (after : List Token) :
    Reads (statementsUpTo (depth + 1)) (taken ++ [.newline]) after [s] := by
  have noBlock : Reads (blockStatement? (statementsUpTo depth)) [] (taken ++ .newline :: after) none := by
    obtain ⟨t, more, rfl, notBlock, name⟩ := h.opened
    refine (reads_token t _).look ?_
    split
    case h_6 =>
      obtain ⟨u, rest, rfl, behind⟩ := name rfl
      exact reads_matchStatement?_none _ behind (h.reads after)
    case h_11 => exact reads_pure _ _
    all_goals exact absurd (by decide) notBlock
  rw [statementsUpTo]
  refine Reads.look (x := none) ?_ (reads_simpleStatements (h.reads after))
  rw [List.append_assoc]
  exact noBlock

theorem name_not_other {name : String} (h : Module.isReserved name = false) : Token.name name ∉ otherOpeners := by
  intro mem
  have closed : ∀ u ∈ otherOpeners, opens u = false := by decide
  exact absurd (closed _ mem) (by simp [opens, h])

theorem isSimple_text {body text : String} (decoded : Literal.decode {} body = .ok text) :
    IsSimple [.text {} body] (.expression (.text text)) where
  opened := ⟨_, _, rfl, by simp [otherOpeners], by simp⟩
  reads := (isPrimary_text decoded).expression.reads_alone

theorem IsExpression.isSimple_assigned {name : String} (isName : Module.isReserved name = false) (h : IsExpression taken e) :
    IsSimple (.name name :: .mark "=" :: taken) (.assign [.name name] e) where
  opened := ⟨_, _, rfl, name_not_other isName, fun _ => ⟨_, _, rfl, by decide⟩⟩
  reads := h.reads_assigned isName

theorem IsExpression.isSimple_annotated {name : String} (isName : Module.isReserved name = false) (h : IsExpression taken e) :
    IsSimple (.name name :: .mark ":" :: taken) (.annotated (.name name) e none) where
  opened := ⟨_, _, rfl, name_not_other isName, fun _ => ⟨_, _, rfl, by decide⟩⟩
  reads := h.reads_annotated isName

theorem isSimple_importFrom (beside : Bool) {module first : String} {rest : List String}
    (isName : Module.isReserved module = false) (h : ∀ name ∈ first :: rest, Module.isReserved name = false) :
    IsSimple (importHead beside module ++ importTokens first rest)
      (.importFrom (if beside then 1 else 0) (some module) (first :: rest)) where
  opened := ⟨_, _, rfl, by decide, by simp⟩
  reads := reads_importFrom beside isName h

theorem isSimple_pass : IsSimple [.name "pass"] (.other []) where
  opened := ⟨_, _, rfl, by decide, by simp⟩
  reads := reads_pass

theorem IsExpression.isSimple_raising (h : IsExpression taken e) : IsSimple (.name "raise" :: taken) (.other []) where
  opened := ⟨_, _, rfl, by decide, by simp⟩
  reads := h.reads_raising

/-! ## Blocks -/

/-- the statements of a block, each by its tokens -/
def ReadsEach (inner : Parse (List Statement)) (parts : List (List Token × Statement)) : Prop :=
  ∀ part ∈ parts, (∃ t rest, part.1 = t :: rest ∧ t ≠ .dedent) ∧ ∀ after, Reads inner part.1 after [part.2]

theorem reads_block {inner : Parse (List Statement)} {first : List Token × Statement}
    {rest : List (List Token × Statement)} (h : ReadsEach inner (first :: rest)) (owner : String) (start : Nat)
    (after : List Token) :
    Reads (block inner owner start)
      (.newline :: .indent :: (((first :: rest).map Prod.fst).flatten ++ [.dedent])) after
      ((first :: rest).map Prod.snd) := by
  obtain ⟨-, readsFirst⟩ := h first List.mem_cons_self
  have others : ReadsEach inner rest := fun part hp => h part (List.mem_cons_of_mem _ hp)
  rw [List.map_cons, List.map_cons, List.flatten_cons, List.append_assoc]
  refine (reads_takes _ _).take ?_
  refine (reads_takes _ _).take ?_
  refine (readsFirst _).bind (reads_iterate ?_)
  suffices steps : ∀ before : List Statement, Steps _ after before ((rest.map Prod.fst).flatten ++ [.dedent])
      (before ++ rest.map Prod.snd) from steps [first.2]
  clear h readsFirst
  induction rest with
  | nil =>
    intro before
    rw [List.map_nil, List.map_nil, List.append_nil]
    exact .done ((reads_takes _ _).whenever (reads_pure _ _))
  | cons part rest ih =>
    intro before
    obtain ⟨⟨t, more, eq, notDedent⟩, reads⟩ := others part List.mem_cons_self
    have later := ih (fun part hp => others part (List.mem_cons_of_mem _ hp)) (before ++ [part.2])
    rw [List.append_assoc] at later
    rw [List.map_cons, List.flatten_cons, List.append_assoc, eq]
    refine .next ?_ later
    refine (reads_takes_other notDedent _).otherwise ?_
    rw [← eq]
    exact (reads _).last (reads_pure _ _)

theorem IsExpression.isInner_expression (h : IsExpression taken e) : IsInner expression taken e :=
  ⟨h.opened, fun _ stop after => h.reads_expression stop after⟩

/-- a class with one base -/
theorem reads_classStatement {inner : Parse (List Statement)} {name base : String} {body : List Token}
    {statements : List Statement} (isName : Module.isReserved name = false) (isBase : Module.isReserved base = false)
    (h : ∀ start after, Reads (block inner "class definition" start) body after statements) (after : List Token) :
    Reads (classStatement inner)
      (.name "class" :: .name name :: .mark "(" :: .name base :: .mark ")" :: .mark ":" :: body) after
      (.class name statements) := by
  have bases : Reads (arguments expression primary) [.name base, .mark ")"] (.mark ":" :: body ++ after)
      { positional := [.name base] } :=
    reads_arguments_one (isPrimary_name isBase).expression.isInner_expression _
  refine Reads.line (by simp) fun start => ?_
  refine (reads_advance _ _).take ?_
  refine (reads_needName isName _).take ?_
  refine (reads_takes _ _).take ?_
  refine bases.discard.bind ?_
  have colon : Reads headColon [.mark ":"] (body ++ after) () := (reads_takes _ _).last (reads_pure _ _)
  refine colon.take ?_
  exact (h start after).last (reads_pure _ _)

/-! ## Functions -/

/-- the parameters of a function, as far as their order goes: those that are required, and others behind a star -/
def order (required optional : Nat) : List Parameter :=
  List.replicate required (.plain false) ++
    if optional = 0 then [] else .star false :: List.replicate optional (.plain true)

theorem orderFault?_order (required optional : Nat) : orderFault? false (order required optional) = none := by
  induction required with
  | zero =>
    cases optional with
    | zero => rfl
    | succ optional => rfl
  | succ required ih => exact ih

theorem takeWhile_order (required optional : Nat) :
    (order required optional).takeWhile (!isStar ·) = List.replicate required (.plain false) := by
  have plain : ∀ p ∈ List.replicate required (Parameter.plain false), (!isStar p) = true := by
    intro p hp
    rw [List.eq_of_mem_replicate hp]
    rfl
  rw [order, List.takeWhile_append_of_pos plain]
  split <;> simp [isStar]

theorem wellPlaced_order (required optional : Nat) : wellPlaced (order required optional) = true := by
  have front := takeWhile_order required optional
  have behind : (order required optional).drop (required + 1) = List.replicate optional (.plain true) := by
    rw [order, ← List.drop_drop, List.drop_left' (List.length_replicate)]
    split
    · rename_i none
      subst none
      rfl
    · rfl
  have first : (order required optional).head? ≠ some .slash := by
    unfold order
    cases required with
    | zero => split <;> simp
    | succ required => simp [List.replicate_succ]
  have mappings : Parameter.keywords ∉ (order required optional).dropLast := by
    intro mem
    have mem' := (List.dropLast_sublist _).subset mem
    unfold order at mem'
    split at mem' <;> simp at mem'
  simp only [wellPlaced, front, List.length_replicate, behind]
  simp [first, mappings, List.count_replicate, isStar]

/-- the reading of a parameter's type, if it has one -/
def parameterType : Parse Unit := do
  if ← takesMark ":" then discard expression

theorem IsExpression.reads_parameterType (h : IsExpression taken e) (stop : c ∈ closers) (after : List Token) :
    Reads parameterType (.mark ":" :: taken) (c :: after) () :=
  (reads_takes _ _).whenever ((h.reads_expression stop after).discard)

/-- a parameter that must be given -/
theorem IsExpression.isItem_required {name : String} (isName : Module.isReserved name = false) (h : IsExpression taken e) :
    IsItem (parameter expression parameterType ")") ")" (.name name :: .mark ":" :: taken) (.plain false) where
  opened := ⟨_, _, rfl, by simp⟩
  reads := by
    intro c behind after
    have all : ∀ u ∈ [Token.mark ",", .mark ")"], u ∈ closers ∧ u ≠ .mark "=" := by decide
    obtain ⟨stop, notEquals⟩ := all c behind
    refine (reads_takes_other (by simp) _).otherwise ?_
    refine (reads_takes_other (by simp) _).otherwise ?_
    refine (reads_takes_other (by simp) _).otherwise ?_
    refine (reads_needName isName _).discard.take ?_
    refine (h.reads_parameterType stop after).last ?_
    exact (reads_takes_other notEquals after).otherwise (reads_pure _ _)

/-- a parameter that may be left out -/
theorem IsExpression.isItem_optional {name : String} (isName : Module.isReserved name = false) (h : IsExpression taken e) :
    IsItem (parameter expression parameterType ")") ")"
      (.name name :: .mark ":" :: (taken ++ [.mark "=", .name "None"])) (.plain true) where
  opened := ⟨_, _, rfl, by simp⟩
  reads := by
    intro c behind after
    have all : ∀ u ∈ [Token.mark ",", .mark ")"], u ∈ closers := by decide
    have stop := all c behind
    have typed : Reads parameterType (.mark ":" :: taken) ([.mark "=", .name "None"] ++ c :: after) () :=
      h.reads_parameterType (by decide) _
    refine (reads_takes_other (by simp) _).otherwise ?_
    refine (reads_takes_other (by simp) _).otherwise ?_
    refine (reads_takes_other (by simp) _).otherwise ?_
    refine (reads_needName isName _).discard.take ?_
    refine typed.bind ?_
    refine (reads_takes _ _).whenever ?_
    exact (isPrimary_none.expression.reads_expression stop after).discard.last (reads_pure _ _)

/-- the mark before the parameters by keyword only -/
theorem isItem_star : IsItem (parameter expression parameterType ")") ")" [.mark "*"] (.star false) where
  opened := ⟨_, _, rfl, by decide⟩
  reads := by
    intro c behind after
    refine (reads_takes_other (by decide) _).otherwise ?_
    refine (reads_takes_other (by decide) _).otherwise ?_
    refine (reads_takes _ _).whenever ?_
    have ends : ∀ u ∈ [Token.mark ",", .mark ")"], (u == .mark "," || u == .mark ")") = true := by decide
    refine (reads_isToken _ c after).look ?_
    refine (reads_isToken _ c after).look ?_
    simp only [ends c behind, ↓reduceIte]
    exact reads_pure _ _

/-- parameters in order -/
theorem reads_parameters {items : List (List Token × Parameter)} {required optional : Nat}
    (h : ∀ i ∈ items, IsItem (parameter expression parameterType ")") ")" i.1 i.2)
    (ordered : items.map Prod.snd = order required optional) (after : List Token) :
    Reads (parameters expression parameterType ")") (separated (items.map Prod.fst) ++ [.mark ")"]) after () := by
  have read : Reads (itemsUpTo ")" (parameter expression parameterType ")") []) _ after (items.map Prod.snd) :=
    reads_itemsUpTo (by decide) h
  rw [ordered] at read
  refine Reads.line (by simp) fun start => ?_
  refine read.last ?_
  rw [orderFault?_order]
  simp only [wellPlaced_order, Bool.not_true, Bool.false_eq_true, ↓reduceIte]
  exact reads_pure _ _

theorem IsExpression.reads_resultType (h : IsExpression taken e) (after : List Token) :
    Reads resultType (.mark "->" :: taken) (.mark ":" :: after) () := by
  have type : Reads (do advance; expression) (.mark "->" :: taken) (.mark ":" :: after) e :=
    (reads_advance _ _).take (h.reads_expression (by decide) after)
  refine (reads_isToken _ _ _).look ?_
  refine Reads.line (by simp) fun start => ?_
  exact type.attempt.last (reads_pure _ _)

/-- a function with parameters in order and a result type -/
theorem reads_functionStatement {inner : Parse (List Statement)} {name : String} {result body : List Token} {type : Expr}
    {items : List (List Token × Parameter)} {required optional : Nat} {statements : List Statement}
    (isName : Module.isReserved name = false)
    (h : ∀ i ∈ items, IsItem (parameter expression parameterType ")") ")" i.1 i.2)
    (ordered : items.map Prod.snd = order required optional) (isType : IsExpression result type)
    (reads : ∀ start after, Reads (block inner "function definition" start) body after statements) (after : List Token) :
    Reads (functionStatement inner)
      (.name "def" :: .name name :: .mark "(" :: (separated (items.map Prod.fst) ++ [.mark ")"] ++
        (.mark "->" :: result ++ .mark ":" :: body))) after (.function name statements) := by
  have params := reads_parameters h ordered (.mark "->" :: result ++ .mark ":" :: body ++ after)
  have arrow : Reads resultType (.mark "->" :: result) (.mark ":" :: body ++ after) () :=
    isType.reads_resultType (body ++ after)
  have opening (tokens : List Token) : Reads (demandMark "(") [.mark "("] tokens () :=
    (reads_takes _ _).last (reads_pure _ _)
  have colon (tokens : List Token) : Reads (demandMark ":") [.mark ":"] tokens () :=
    (reads_takes _ _).last (reads_pure _ _)
  refine Reads.line (by simp) fun start => ?_
  refine (reads_advance _ _).take ?_
  refine (reads_needName isName _).take ?_
  refine (opening _).take ?_
  refine params.bind ?_
  refine arrow.bind ?_
  refine (colon _).take ?_
  exact (reads start after).last (reads_pure _ _)

/-! ## Statements -/

/-- these tokens are a statement, inside as many blocks as `depth` says or more -/
structure IsStatement (depth : Nat) (taken : List Token) (s : Statement) : Prop where
  opened : ∃ t rest, taken = t :: rest ∧ t ≠ .dedent ∧ t ≠ .finish
  reads : ∀ n, depth ≤ n → ∀ after, Reads (statementsUpTo n) taken after [s]

theorem IsStatement.mono {s : Statement} {depth depth' : Nat} (h : IsStatement depth taken s) (le : depth ≤ depth') :
    IsStatement depth' taken s :=
  ⟨h.opened, fun n enough => h.reads n (Nat.le_trans le enough)⟩

theorem IsSimple.isStatement {s : Statement} (h : IsSimple taken s) : IsStatement 1 (taken ++ [.newline]) s where
  opened := by
    obtain ⟨t, more, rfl, notOther, -⟩ := h.opened
    have apart : ∀ u ∈ [Token.dedent, .finish], u ∈ otherOpeners := by decide
    refine ⟨t, more ++ [.newline], rfl, ?_, ?_⟩
    · rintro rfl
      exact notOther (apart _ (by decide))
    · rintro rfl
      exact notOther (apart _ (by decide))
  reads := by
    intro n enough after
    obtain ⟨n, rfl⟩ : ∃ k, n = k + 1 := ⟨n - 1, by omega⟩
    exact h.reads_statements n after

/-- the statements of a block -/
theorem readsEach_of_statements {parts : List (List Token × Statement)} {depth n : Nat} (enough : depth ≤ n)
    (h : ∀ part ∈ parts, IsStatement depth part.1 part.2) : ReadsEach (statementsUpTo n) parts := by
  intro part hp
  obtain ⟨t, rest, eq, notDedent, -⟩ := (h part hp).opened
  exact ⟨⟨t, rest, eq, notDedent⟩, (h part hp).reads n enough⟩

/-- the tokens of a block -/
def blockTokens (parts : List (List Token × Statement)) : List Token :=
  .newline :: .indent :: ((parts.map Prod.fst).flatten ++ [.dedent])

/-- a class with one base -/
theorem isStatement_class {name base : String} {parts : List (List Token × Statement)} {depth : Nat}
    (isName : Module.isReserved name = false) (isBase : Module.isReserved base = false) (nonempty : parts ≠ [])
    (h : ∀ part ∈ parts, IsStatement depth part.1 part.2) :
    IsStatement (depth + 1)
      (.name "class" :: .name name :: .mark "(" :: .name base :: .mark ")" :: .mark ":" :: blockTokens parts)
      (.class name (parts.map Prod.snd)) where
  opened := ⟨_, _, rfl, by decide, by decide⟩
  reads := by
    intro n enough after
    obtain ⟨n, rfl⟩ : ∃ k, n = k + 1 := ⟨n - 1, by omega⟩
    obtain ⟨first, rest, rfl⟩ := List.exists_cons_of_ne_nil nonempty
    have body := reads_block (readsEach_of_statements (Nat.le_of_succ_le_succ enough) h) "class definition"
    have read := reads_classStatement isName isBase body after
    rw [statementsUpTo]
    refine Reads.last (x := some (.class name ((first :: rest).map Prod.snd))) ?_ (reads_pure _ _)
    refine (reads_token _ _).look ?_
    exact read.last (reads_pure _ _)

/-- a function with parameters in order and a result type -/
theorem isStatement_function {name : String} {result : List Token} {type : Expr}
    {items : List (List Token × Parameter)} {required optional depth : Nat} {parts : List (List Token × Statement)}
    (isName : Module.isReserved name = false)
    (isItem : ∀ i ∈ items, IsItem (parameter expression parameterType ")") ")" i.1 i.2)
    (ordered : items.map Prod.snd = order required optional) (isType : IsExpression result type) (nonempty : parts ≠ [])
    (h : ∀ part ∈ parts, IsStatement depth part.1 part.2) :
    IsStatement (depth + 1)
      (.name "def" :: .name name :: .mark "(" :: (separated (items.map Prod.fst) ++ [.mark ")"] ++
        (.mark "->" :: result ++ .mark ":" :: blockTokens parts)))
      (.function name (parts.map Prod.snd)) where
  opened := ⟨_, _, rfl, by decide, by decide⟩
  reads := by
    intro n enough after
    obtain ⟨n, rfl⟩ : ∃ k, n = k + 1 := ⟨n - 1, by omega⟩
    obtain ⟨first, rest, rfl⟩ := List.exists_cons_of_ne_nil nonempty
    have body := reads_block (readsEach_of_statements (Nat.le_of_succ_le_succ enough) h) "function definition"
    have read := reads_functionStatement isName isItem ordered isType body after
    rw [statementsUpTo]
    refine Reads.last (x := some (.function name ((first :: rest).map Prod.snd))) ?_ (reads_pure _ _)
    refine (reads_token _ _).look ?_
    exact read.last (reads_pure _ _)

/-- **A module is read statement by statement.** -/
theorem reads_module {parts : List (List Token × Statement)} (h : ∀ part ∈ parts, IsStatement 2 part.1 part.2) :
    Reads module (parts.map Prod.fst).flatten [.finish] (parts.map Prod.snd) := by
  intro a stands
  have enough : 2 ≤ a.bound + 1 := by
    have bounded := stands.bounded
    rw [List.length_append, List.length_singleton] at bounded
    omega
  suffices steps : ∀ before : List Statement, Steps _ [.finish] before (parts.map Prod.fst).flatten
      (before ++ parts.map Prod.snd) from reads_iterate (steps []) a stands
  clear stands
  induction parts with
  | nil =>
    intro before
    rw [List.map_nil, List.map_nil, List.append_nil]
    exact .done ((reads_isToken _ _ _).look (reads_pure _ _))
  | cons part rest ih =>
    intro before
    obtain ⟨t, more, eq, -, notFinish⟩ := (h part List.mem_cons_self).opened
    have read := (h part List.mem_cons_self).reads (a.bound + 1) enough
    have later := ih (fun other hp => h other (List.mem_cons_of_mem _ hp)) (before ++ [part.2])
    rw [List.append_assoc] at later
    have goesOn (tokens : List Token) : Reads (isToken .finish) [] (t :: tokens) false := by
      rw [← beq_eq_false_iff_ne.2 notFinish]
      exact reads_isToken _ t tokens
    rw [List.map_cons, List.flatten_cons, eq]
    refine .next ?_ later
    refine (goesOn _).otherwise ?_
    rw [← eq]
    exact (read _).last (reads_pure _ _)

end

end ApiTypes.Source
