import ThreadLint.Proofs.Grammar.Precedence
import ThreadLint.Proofs.Grammar.Trial

/-!
This module contains how a call that is written as a statement of its own is read: a dotted name with
its arguments in parentheses behind it and a semicolon. Whatever stands behind the semicolon, nothing
else is tried that would fit these tokens.
-/

namespace ThreadLint.Parser

variable {α β σ : Type} {tokens : Array Token} {cursor : Nat}

/-! ### Parsers that do not give up -/

/--
Whether a parser does not give up at a cursor because the tokens do not fit, and what is true of its
result and of the cursor behind it, if it has one.
-/
def Accepts (parser : Parser α) (tokens : Array Token) (cursor : Nat) (Q : α → Nat → Prop) : Prop :=
  match parser tokens cursor with
  | .ok (a, next) => Q a next
  | .error stop => stop ≠ .mismatch

namespace Accepts

variable {parser other : Parser α} {rest : α → Parser β} {Q : α → Nat → Prop} {R : β → Nat → Prop}

theorem of_arrives (h : Arrives parser tokens cursor Q)
    (hfits : parser tokens cursor ≠ .error .mismatch) : Accepts parser tokens cursor Q := by
  unfold Accepts
  split
  . next a next heq => exact h a next heq
  . next stop heq =>
    rintro rfl
    exact hfits heq

theorem arrives (h : Accepts parser tokens cursor Q) : Arrives parser tokens cursor Q := by
  intro a next heq
  unfold Accepts at h
  rw [heq] at h
  exact h

theorem mono (h : Accepts parser tokens cursor Q) {Q' : α → Nat → Prop}
    (hmono : ∀ a next, Q a next → Q' a next) : Accepts parser tokens cursor Q' := by
  unfold Accepts at h ⊢
  split
  . next a next heq =>
    rw [heq] at h
    exact hmono a next h
  . next stop heq =>
    rw [heq] at h
    exact h

theorem bind (h : Accepts parser tokens cursor Q)
    (hrest : ∀ a next, Q a next → Accepts (rest a) tokens next R) :
    Accepts (parser >>= rest) tokens cursor R := by
  unfold Accepts at h
  simp only [Accepts, Bind.bind]
  cases hparser : parser tokens cursor with
  | ok result =>
    obtain ⟨a, next⟩ := result
    rw [hparser] at h
    exact hrest a next h
  | error stop =>
    rw [hparser] at h
    exact h

theorem bind_of_eq {a : α} {next : Nat} (heq : parser tokens cursor = .ok (a, next))
    (h : Accepts (rest a) tokens next R) : Accepts (parser >>= rest) tokens cursor R := by
  unfold Accepts
  rw [bind_eq_of_eq_ok heq]
  exact h

theorem pure {a : α} (h : Q a cursor) : Accepts (pure a) tokens cursor Q :=
  h

theorem pure_bind {a : α} (h : Accepts (rest a) tokens cursor R) :
    Accepts (Pure.pure a >>= rest) tokens cursor R :=
  h

theorem node {form : Form} (first : Nat) {children : List Node} :
    Accepts (node form first children) tokens cursor fun made next =>
      made.form = form ∧ made.children = children ∧ next = cursor :=
  of_arrives (Arrives.node first) (node_alwaysFits form first children tokens cursor)

/-- What is tried and never has a result is taken back. -/
theorem attempt_bind {rest : Option α → Parser β}
    (hnone : Arrives parser tokens cursor fun _ _ => False)
    (h : Accepts (rest none) tokens cursor R) : Accepts (attempt parser >>= rest) tokens cursor R := by
  simp only [Accepts, Bind.bind, attempt]
  cases hparser : parser tokens cursor with
  | ok result => exact (hnone _ _ hparser).elim
  | error stop =>
    cases stop
    case mismatch => exact h
    all_goals exact nofun

theorem attempt (h : Accepts parser tokens cursor Q) :
    Accepts (attempt parser) tokens cursor fun found next => ∃ a, found = some a ∧ Q a next := by
  unfold Accepts at h
  unfold Accepts Parser.attempt
  cases hparser : parser tokens cursor with
  | ok result =>
    rw [hparser] at h
    exact ⟨result.1, rfl, h⟩
  | error stop =>
    rw [hparser] at h
    cases stop
    case mismatch => exact absurd rfl h
    all_goals exact nofun

/-! #### Loops -/

/-- A turn of a loop, however many more there may be. -/
theorem turn {step : σ → Parser (Progress σ β)} {state : σ}
    (h : Accepts (step state) tokens cursor (Progress.Leads
      (fun state next => ∀ bound, Accepts (loopAtMost step bound state) tokens next R) R))
    (bound : Nat) : Accepts (loopAtMost step bound state) tokens cursor R := by
  cases bound with
  | zero => exact nofun
  | succ bound =>
    apply h.bind
    intro progress next hprogress
    cases progress with
    | more state => exact hprogress bound
    | done result => exact hprogress

theorem loop {step : σ → Parser (Progress σ β)} {state : σ}
    (h : ∀ bound, Accepts (loopAtMost step bound state) tokens cursor R) :
    Accepts (loop step state) tokens cursor R :=
  h _

/-! #### Tokens at the cursor -/

theorem here {rest : Nat → Parser β} (h : Accepts (rest cursor) tokens cursor R) :
    Accepts (here >>= rest) tokens cursor R :=
  h

theorem peek {distance : Nat} {rest : Token → Parser β}
    (h : Accepts (rest (tokenAt tokens (cursor + distance))) tokens cursor R) :
    Accepts (peek distance >>= rest) tokens cursor R :=
  h

variable [Lawful tokens] (hlt : cursor < last tokens)

include hlt

theorem current {rest : Token → Parser β}
    (h : Accepts (rest (tokenAt tokens cursor)) tokens cursor R) :
    Accepts (current >>= rest) tokens cursor R :=
  bind_of_eq (current_eq (Nat.le_of_lt hlt)) h

theorem atPunct {texts : List String} {rest : Bool → Parser β}
    (h : Accepts (rest ((tokenAt tokens cursor).isPunct texts)) tokens cursor R) :
    Accepts (atPunct texts >>= rest) tokens cursor R :=
  bind_of_eq (bind_eq_of_eq_ok (current_eq (Nat.le_of_lt hlt))) h

theorem atKeyword {texts : List String} {rest : Bool → Parser β}
    (h : Accepts (rest ((tokenAt tokens cursor).isKeyword texts)) tokens cursor R) :
    Accepts (atKeyword texts >>= rest) tokens cursor R :=
  bind_of_eq (bind_eq_of_eq_ok (current_eq (Nat.le_of_lt hlt))) h

theorem atWord {texts : List String} {rest : Bool → Parser β}
    (h : Accepts (rest ((tokenAt tokens cursor).isWord texts)) tokens cursor R) :
    Accepts (atWord texts >>= rest) tokens cursor R :=
  bind_of_eq (bind_eq_of_eq_ok (current_eq (Nat.le_of_lt hlt))) h

theorem advance {rest : Token → Parser β}
    (h : Accepts (rest (tokenAt tokens cursor)) tokens (cursor + 1) R) :
    Accepts (advance >>= rest) tokens cursor R :=
  bind_of_eq (advance_eq hlt) h

end Accepts

/-! ### Names and marks -/

/--
Whether the token at an index is an identifier that stands for a name.
-/
def Names (tokens : Array Token) (index : Nat) (name : String) : Prop :=
  (tokenAt tokens index).isIdentifier = true ∧ (tokenAt tokens index).identifierName = name

/--
Whether a dot and a name behind it stand between two tokens.
-/
def IsSegment (tokens : Array Token) (first stop : Nat) (name : String) : Prop :=
  (tokenAt tokens first).isPunct ["."] = true ∧ Names tokens (first + 1) name ∧ stop = first + 2

section

variable {token : Token}

theorem isPunct_of_mark {mark : String} (h : token.isPunct [mark] = true) (texts : List String) :
    token.isPunct texts = texts.contains mark := by
  rw [Token.isPunct_iff, List.mem_singleton] at h
  simp [Token.isPunct, h]

theorem isIdentifier_of_mark {mark : String} (h : token.isPunct [mark] = true) :
    token.isIdentifier = false := by
  rw [Token.isPunct_iff] at h
  simp [Token.isIdentifier, h]

theorem isKeyword_of_mark {mark : String} (h : token.isPunct [mark] = true) (texts : List String) :
    token.isKeyword texts = false := by
  rw [Token.isPunct_iff] at h
  simp [Token.isKeyword, h]

theorem isWord_of_mark {mark : String} (h : token.isPunct [mark] = true) (texts : List String) :
    token.isWord texts = false := by
  rw [Token.isPunct_iff] at h
  simp [Token.isWord, h]

theorem isPunct_of_isIdentifier (h : token.isIdentifier = true) (texts : List String) :
    token.isPunct texts = false := by
  rw [Token.isIdentifier, beq_iff_eq] at h
  simp [Token.isPunct, h]

theorem isKeyword_of_isIdentifier (h : token.isIdentifier = true) (texts : List String) :
    token.isKeyword texts = false := by
  rw [Token.isIdentifier, beq_iff_eq] at h
  simp [Token.isKeyword, h]

end

section

variable [Lawful tokens]

theorem typeArguments?_eq {mark : String} (h : (tokenAt tokens cursor).isPunct [mark] = true)
    (hmark : mark ≠ "<") : typeArguments? tokens cursor = .ok (none, cursor) := by
  have hlt := lt_last_of_isPunct h
  have hangle : (tokenAt tokens cursor).isPunct ["<"] = false := by
    rw [isPunct_of_mark h]
    simpa using hmark
  unfold typeArguments?
  rw [bind_eq_of_eq_ok (show atPunct ["<"] tokens cursor = .ok (false, cursor) from hangle ▸
    bind_eq_of_eq_ok (current_eq (Nat.le_of_lt hlt)))]
  rfl

theorem skipTypeArguments_eq {mark : String} (h : (tokenAt tokens cursor).isPunct [mark] = true)
    (hmark : mark ≠ "<") (type : Parser TypeUse) :
    skipTypeArguments type tokens cursor = .ok ((), cursor) := by
  have hlt := lt_last_of_isPunct h
  have hangle : (tokenAt tokens cursor).isPunct ["<"] = false := by
    rw [isPunct_of_mark h]
    simpa using hmark
  unfold skipTypeArguments
  rw [bind_eq_of_eq_ok (show atPunct ["<"] tokens cursor = .ok (false, cursor) from hangle ▸
    bind_eq_of_eq_ok (current_eq (Nat.le_of_lt hlt)))]
  rfl

theorem identifier_eq (h : (tokenAt tokens cursor).isIdentifier = true) :
    identifier tokens cursor = .ok (tokenAt tokens cursor, cursor + 1) := by
  have hlt := lt_last_of_isIdentifier h
  unfold identifier
  rw [bind_eq_of_eq_ok (current_eq (Nat.le_of_lt hlt)), if_pos h, advance_eq hlt]

/-! ### Types that are dotted names -/

omit [Lawful tokens] in
/-- A name is followed by a dot or by what stands behind the dotted name. -/
theorem exists_mark_of_chain {mark : String} {names : List String} {stop : Nat}
    (hnames : Chain (IsSegment tokens) cursor stop names)
    (hmark : (tokenAt tokens stop).isPunct [mark] = true) :
    ∃ next, (tokenAt tokens cursor).isPunct [next] = true ∧ (next = "." ∨ next = mark) := by
  cases names with
  | nil =>
    cases hnames
    exact ⟨mark, hmark, .inr rfl⟩
  | cons name names =>
    obtain ⟨_, hsegment, _⟩ := hnames
    exact ⟨".", hsegment.1, .inl rfl⟩

/--
What a type goes on with behind its first name.
-/
def moreSegments (inner : Parser TypeUse) (_ : Unit) : Parser (Progress Unit Unit) := do
  if (← atPunct [".", "::"]) && (← peek 1).isIdentifier then
    let _ ← advance
    let _ ← advance
    skipTypeArguments inner
    return .more ()
  else return .done ()

theorem moreSegments_accepts {mark : String} {names : List String} {stop : Nat}
    (hnames : Chain (IsSegment tokens) cursor stop names)
    (hmark : (tokenAt tokens stop).isPunct [mark] = true) (hends : mark ∉ ["<", ".", "::"])
    (inner : Parser TypeUse) (bound : Nat) :
    Accepts (loopAtMost (moreSegments inner) bound ()) tokens cursor fun _ next => next = stop := by
  induction names generalizing cursor bound with
  | nil =>
    cases hnames
    apply Accepts.turn
    apply Accepts.atPunct (lt_last_of_isPunct hmark)
    rw [isPunct_of_mark hmark]
    have hdot : [".", "::"].contains mark = false := by simp_all
    rw [hdot]
    exact Accepts.pure rfl
  | cons name names ih =>
    obtain ⟨_, ⟨hdot, hname, rfl⟩, hnames⟩ := hnames
    have hlt := lt_last_of_isPunct hdot
    have hlt' := lt_last_of_isIdentifier hname.1
    apply Accepts.turn
    apply Accepts.atPunct hlt
    apply Accepts.peek
    rw [isPunct_of_mark hdot, hname.1]
    apply Accepts.advance hlt
    apply Accepts.advance hlt'
    obtain ⟨next, hnext, hcases⟩ := exists_mark_of_chain hnames hmark
    apply Accepts.bind_of_eq (skipTypeArguments_eq hnext _ inner)
    . apply Accepts.pure
      exact ih hnames
    . rintro rfl
      simp_all

theorem typeWith_accepts {name mark : String} {names : List String} {stop : Nat}
    (hname : Names tokens cursor name) (hnames : Chain (IsSegment tokens) (cursor + 1) stop names)
    (hmark : (tokenAt tokens stop).isPunct [mark] = true)
    (hends : mark ∉ ["<", ".", "::", "?", "["]) (inner : Parser TypeUse) :
    Accepts (typeWith inner true true) tokens cursor fun _ next => next = stop := by
  have hlt := lt_last_of_isIdentifier hname.1
  have hstop := lt_last_of_isPunct hmark
  obtain ⟨next, hnext, hcases⟩ := exists_mark_of_chain hnames hmark
  have hangle : next ≠ "<" := by
    rintro rfl
    simp_all
  unfold typeWith
  apply Accepts.here
  apply Accepts.current hlt
  extract_lets tail
  have htail : Accepts (tail ()) tokens stop fun _ next => next = stop := by
    apply Accepts.bind (Q := fun _ next => next = stop)
    . apply Accepts.loop
      apply Accepts.turn
      apply Accepts.atPunct hstop
      have hquestion : ["?"].contains mark = false := by simp_all
      have hbracket : ["["].contains mark = false := by simp_all
      rw [isPunct_of_mark hmark, hquestion]
      apply Accepts.atPunct hstop
      apply Accepts.peek
      rw [isPunct_of_mark hmark, hbracket]
      exact Accepts.pure rfl
    . rintro _ _ rfl
      apply Accepts.here
      apply Accepts.bind_of_eq rfl
      exact Accepts.bind_of_eq (lastStop_eq (Nat.le_of_lt hstop)) (Accepts.pure rfl)
  clear_value tail
  rw [isPunct_of_isIdentifier hname.1, hname.1]
  apply Accepts.advance hlt
  apply Accepts.bind_of_eq (skipTypeArguments_eq hnext hangle inner)
  apply Accepts.bind (Q := fun _ next => next = stop)
  . apply Accepts.loop
    exact moreSegments_accepts hnames hmark (by simp_all) inner
  . rintro _ _ rfl
    exact htail

theorem anyType_accepts {name mark : String} {names : List String} {stop : Nat}
    (hname : Names tokens cursor name) (hnames : Chain (IsSegment tokens) (cursor + 1) stop names)
    (hmark : (tokenAt tokens stop).isPunct [mark] = true)
    (hends : mark ∉ ["<", ".", "::", "?", "["]) :
    Accepts anyType tokens cursor fun _ next => next = stop := by
  unfold Accepts anyType typeUse typeAtDepth
  exact typeWith_accepts hname hnames hmark hends _

/-! ### Expressions that are names -/

/--
Whether a token is a mark behind which a name does not go on as anything but a dotted name.
-/
def EndsName (token : Token) : Prop :=
  ∃ mark ∈ [".", ")", ";"], token.isPunct [mark] = true

omit [Lawful tokens] in
theorem EndsName.isPunct_eq_false {token : Token} (h : EndsName token) {texts : List String}
    (htexts : ∀ mark ∈ [".", ")", ";"], mark ∉ texts) : token.isPunct texts = false := by
  obtain ⟨mark, hmark, htoken⟩ := h
  rw [isPunct_of_mark htoken]
  simpa using htexts mark hmark

section

variable {name : String} (hname : Names tokens cursor name)
  (hnext : EndsName (tokenAt tokens (cursor + 1)))

include hname hnext

theorem atLambda_accepts :
    Accepts atLambda tokens cursor fun found next => found = false ∧ next = cursor := by
  have hlt := lt_last_of_isIdentifier hname.1
  have harrow : (tokenAt tokens (cursor + 1)).isPunct ["=>"] = false :=
    hnext.isPunct_eq_false (by decide)
  have hopens : (tokenAt tokens (cursor + 1)).isPunct ["("] = false :=
    hnext.isPunct_eq_false (by decide)
  obtain ⟨mark, _, hmark⟩ := hnext
  unfold atLambda
  apply Accepts.current hlt
  apply Accepts.peek
  apply Accepts.here
  simp only [isKeyword_of_isIdentifier hname.1, isPunct_of_isIdentifier hname.1,
    isKeyword_of_mark hmark, isIdentifier_of_mark hmark, harrow, hopens, Bool.and_false,
    Bool.false_and, Bool.false_eq_true, if_false]
  split
  . exact Accepts.peek (Accepts.pure ⟨rfl, rfl⟩)
  . exact Accepts.pure ⟨rfl, rfl⟩

theorem nameExpression_accepts :
    Accepts nameExpression tokens cursor fun node next =>
      node.form = .identifier name (.name none) ∧ next = cursor + 1 := by
  have hlt := lt_last_of_isIdentifier hname.1
  obtain ⟨mark, hmark, hnext⟩ := hnext
  have hangle : mark ≠ "<" := by
    rintro rfl
    simp at hmark
  unfold nameExpression
  apply Accepts.here
  apply Accepts.advance hlt
  rw [hname.1, hname.2]
  apply Accepts.bind_of_eq (typeArguments?_eq hnext hangle)
  apply (Accepts.node cursor).mono
  rintro node next ⟨hform, _, rfl⟩
  exact ⟨hform, rfl⟩

theorem primary_accepts (g : Grammar) :
    Accepts (primary g) tokens cursor fun node next =>
      node.form = .identifier name (.name none) ∧ next = cursor + 1 := by
  have hlt := lt_last_of_isIdentifier hname.1
  unfold primary
  apply Accepts.here
  apply Accepts.current hlt
  have hliteral : literalKind? (tokenAt tokens cursor) = none := by
    have := hname.1
    rw [Token.isIdentifier, beq_iff_eq] at this
    simp [literalKind?, this]
  apply (atLambda_accepts hname hnext).bind
  rintro _ _ ⟨rfl, rfl⟩
  simp only [hliteral, isKeyword_of_isIdentifier hname.1, hname.1, Bool.or_true]
  exact nameExpression_accepts hname hnext

theorem operand_accepts {g : Grammar} {Q : Node → Nat → Prop}
    (hbehind : ∀ node, node.form = .identifier name (.name none) →
      Accepts (withBehind g cursor node) tokens (cursor + 1) Q) :
    Accepts (operand g) tokens cursor Q := by
  have hlt := lt_last_of_isIdentifier hname.1
  have hawaited : operand.startsAwaited (tokenAt tokens (cursor + 1)) = false := by
    have hpunct : (tokenAt tokens (cursor + 1)).isPunct ["(", "!", "["] = false :=
      hnext.isPunct_eq_false (by decide)
    obtain ⟨mark, _, hmark⟩ := hnext
    rw [Token.isPunct_iff] at hmark
    simp [operand.startsAwaited, beginsOperand, Token.isIdentifier, Token.isLiteral, hpunct, hmark]
  unfold operand
  apply Accepts.here
  apply Accepts.current hlt
  rw [isPunct_of_isIdentifier hname.1]
  apply Accepts.peek
  rw [hawaited, Bool.and_false, isKeyword_of_isIdentifier hname.1]
  have hcast : atCast tokens cursor = .ok (false, cursor) := by
    unfold atCast
    rw [bind_eq_of_eq_ok (show atPunct ["("] tokens cursor = .ok (false, cursor) from
      isPunct_of_isIdentifier hname.1 ["("] ▸ bind_eq_of_eq_ok (current_eq (Nat.le_of_lt hlt)))]
    rfl
  apply Accepts.bind_of_eq hcast
  apply (primary_accepts hname hnext g).bind
  rintro node _ ⟨hform, rfl⟩
  exact hbehind node hform

end

/-! ### What stands behind a name -/

/--
What an expression goes on with, as `withBehind` repeats it.
-/
def takeBehind (g : Grammar) (first : Nat) (inner : Node) : Parser (Progress Node Node) := do
  match ← behind? g first inner with
  | some outer => return .more outer
  | none => return .done inner

omit [Lawful tokens] in
theorem withBehind_eq (g : Grammar) (first : Nat) (inner : Node) :
    withBehind g first inner = loop (takeBehind g first) inner :=
  rfl

/--
Whether an expression ends in front of a token.
-/
def EndsExpression (token : Token) : Prop :=
  ∃ mark ∈ [")", ";"], token.isPunct [mark] = true

omit [Lawful tokens] in
theorem EndsExpression.endsName {token : Token} (h : EndsExpression token) : EndsName token := by
  obtain ⟨mark, hmark, htoken⟩ := h
  exact ⟨mark, List.mem_cons_of_mem _ hmark, htoken⟩

variable {g : Grammar} {first : Nat} {inner : Node} {Q : Node → Nat → Prop}

/-- An expression has nothing behind it in front of a token at which it ends. -/
theorem behind_of_endsExpression (hends : EndsExpression (tokenAt tokens cursor))
    (h : Q inner cursor) (bound : Nat) :
    Accepts (loopAtMost (takeBehind g first) bound inner) tokens cursor Q := by
  have hpunct (texts : List String) (htexts : ∀ mark ∈ [".", ")", ";"], mark ∉ texts) :=
    hends.endsName.isPunct_eq_false htexts
  obtain ⟨mark, hmem, hmark⟩ := hends
  have hlt := lt_last_of_isPunct hmark
  have hdots : (tokenAt tokens cursor).isPunct [".", "?.", "::"] = false := by
    rw [isPunct_of_mark hmark]
    simp at hmem
    rcases hmem with rfl | rfl
    . decide
    . decide
  have hbehind : Accepts (behind? g first inner) tokens cursor fun found next =>
      found = none ∧ next = cursor := by
    unfold behind?
    apply Accepts.current hlt
    apply Accepts.peek
    rw [hdots, hpunct ["("] (by decide), hpunct ["["] (by decide),
      hpunct ["++", "--"] (by decide), hpunct ["!"] (by decide),
      isKeyword_of_mark hmark, isWord_of_mark hmark]
    exact Accepts.pure ⟨rfl, rfl⟩
  apply Accepts.turn
  apply hbehind.bind
  rintro _ _ ⟨rfl, rfl⟩
  exact Accepts.pure h

/-- A name behind a dot is the member of the expression in front. -/
theorem behind_of_isSegment {name : String} {stop : Nat}
    (hsegment : IsSegment tokens cursor stop name) {mark : String}
    (hnext : (tokenAt tokens stop).isPunct [mark] = true) (hmark : mark ≠ "<")
    (h : ∀ outer extent, outer.form = .memberAccess name extent false none →
      outer.children = [inner] →
      ∀ bound, Accepts (loopAtMost (takeBehind g first) bound outer) tokens stop Q) (bound : Nat) :
    Accepts (loopAtMost (takeBehind g first) bound inner) tokens cursor Q := by
  obtain ⟨hdot, hname, rfl⟩ := hsegment
  have hlt := lt_last_of_isPunct hdot
  have hbehind : Accepts (behind? g first inner) tokens cursor fun found next =>
      next = cursor + 2 ∧ ∃ outer extent, found = some outer ∧
        outer.form = .memberAccess name extent false none ∧ outer.children = [inner] := by
    have htext := (Token.isPunct_iff.1 hdot).2
    rw [List.mem_singleton] at htext
    unfold behind?
    apply Accepts.current hlt
    apply Accepts.peek
    rw [isPunct_of_mark hdot, htext]
    apply Accepts.advance hlt
    apply Accepts.bind_of_eq (identifier_eq hname.1)
    apply Accepts.bind_of_eq (typeArguments?_eq hnext hmark)
    apply (Accepts.node first).bind
    rintro outer _ ⟨hform, hchildren, rfl⟩
    rw [hname.2] at hform
    exact Accepts.pure ⟨rfl, outer, _, rfl, hform, hchildren⟩
  apply Accepts.turn
  apply hbehind.bind
  rintro _ _ ⟨rfl, outer, extent, rfl, hform, hchildren⟩
  exact Accepts.pure (h outer extent hform hchildren)

/-- Arguments behind an expression make a call of it. -/
theorem behind_of_arguments (hopen : (tokenAt tokens cursor).isPunct ["("] = true)
    {P : List Node → Nat → Prop}
    (harguments : Accepts (argumentList g ")") tokens cursor fun result next => P result.1 next)
    (h : ∀ outer next, outer.form = .callExpr → ∀ arguments, outer.children = inner :: arguments →
      P arguments next →
      ∀ bound, Accepts (loopAtMost (takeBehind g first) bound outer) tokens next Q) (bound : Nat) :
    Accepts (loopAtMost (takeBehind g first) bound inner) tokens cursor Q := by
  have hlt := lt_last_of_isPunct hopen
  have hbehind : Accepts (behind? g first inner) tokens cursor fun found next =>
      ∃ outer arguments, found = some outer ∧ outer.form = .callExpr ∧
        outer.children = inner :: arguments ∧ P arguments next := by
    unfold behind?
    apply Accepts.current hlt
    apply Accepts.peek
    rw [isPunct_of_mark hopen, isPunct_of_mark hopen]
    apply harguments.bind
    rintro ⟨arguments, _⟩ next hP
    apply (Accepts.node first).bind
    rintro outer _ ⟨hform, hchildren, rfl⟩
    exact Accepts.pure ⟨outer, arguments, rfl, hform, hchildren, hP⟩
  apply Accepts.turn
  apply hbehind.bind
  rintro _ next ⟨outer, arguments, rfl, hform, hchildren, hP⟩
  exact Accepts.pure (h outer next hform arguments hchildren hP)

/--
A dotted name, given its first name and the others.
-/
def dotted (name : String) (names : List String) : String :=
  names.foldl (fun front name => front ++ "." ++ name) name

/--
Whether a node is a call of what a dotted name stands for, with some arguments.
-/
def IsCallOf (name : String) (arguments : List Node) (call : Node) : Prop :=
  call.form = .callExpr ∧
    ∃ callee, call.children = callee :: arguments ∧ callee.dottedName? = some name

omit [Lawful tokens] in
theorem dottedName?_of_identifier {node : Node} {name : String} {role : IdentifierRole}
    (h : node.form = .identifier name role) (hname : name ≠ "this" ∧ name ≠ "base") :
    node.dottedName? = some name := by
  obtain ⟨form, extent, trivia, designation, children⟩ := node
  cases h
  simp [Node.dottedName?, hname]

omit [Lawful tokens] in
theorem dottedName?_of_memberAccess {node inner : Node} {name front : String} {extent : Extent}
    {isConditional : Bool} {typeArguments : Option (List String)}
    (h : node.form = .memberAccess name extent isConditional typeArguments)
    (hchildren : node.children = [inner]) (hinner : inner.dottedName? = some front)
    (hfront : front ≠ "") : node.dottedName? = some (front ++ "." ++ name) := by
  obtain ⟨form, _, trivia, designation, children⟩ := node
  cases h
  cases hchildren
  simp [Node.dottedName?, hinner, hfront]

/-- The names behind the first one and the arguments make a call of the dotted name. -/
theorem behind_of_chain {front : String} {names : List String} {stop close : Nat}
    (hinner : inner.dottedName? = some front) (hfront : front ≠ "")
    (hnames : Chain (IsSegment tokens) cursor stop names)
    (hopen : (tokenAt tokens stop).isPunct ["("] = true) {P : List Node → Prop}
    (harguments : Accepts (argumentList g ")") tokens stop fun result next =>
      P result.1 ∧ next = close)
    (hends : EndsExpression (tokenAt tokens close)) (bound : Nat) :
    Accepts (loopAtMost (takeBehind g first) bound inner) tokens cursor fun call next =>
      next = close ∧ ∃ arguments, P arguments ∧ IsCallOf (dotted front names) arguments call := by
  induction names generalizing inner front cursor bound with
  | nil =>
    cases hnames
    apply behind_of_arguments (P := fun arguments next => P arguments ∧ next = close) hopen harguments
    rintro outer _ hform arguments hchildren ⟨hP, rfl⟩
    apply behind_of_endsExpression hends
    exact ⟨rfl, arguments, hP, hform, inner, hchildren, hinner⟩
  | cons name names ih =>
    obtain ⟨middle, hsegment, hnames⟩ := hnames
    obtain ⟨mark, hnext, hmark⟩ := exists_mark_of_chain hnames hopen
    have hangle : mark ≠ "<" := by
      rintro rfl
      simp at hmark
    apply behind_of_isSegment hsegment hnext hangle
    intro outer extent hform hchildren
    have houter := dottedName?_of_memberAccess hform hchildren hinner hfront
    apply ih houter _ hnames
    simp [String.append_eq_empty_iff]

/-! ### Whole expressions -/

/-- An expression is what stands in front of the token at which it ends. -/
theorem expression_accepts {name : String} (hname : Names tokens cursor name)
    (hnext : EndsName (tokenAt tokens (cursor + 1))) {P : Node → Prop} {stop : Nat}
    (hends : EndsExpression (tokenAt tokens stop))
    (hbehind : ∀ node, node.form = .identifier name (.name none) →
      ∀ bound, Accepts (loopAtMost (takeBehind g cursor) bound node) tokens (cursor + 1)
        fun node next => next = stop ∧ P node) :
    Accepts (expression g) tokens cursor fun node next => next = stop ∧ P node := by
  obtain ⟨mark, hmem, hmark⟩ := hends
  have hlt := lt_last_of_isPunct hmark
  have htext := (Token.isPunct_iff.1 hmark).2
  rw [List.mem_singleton] at htext
  have hcases : mark = ")" ∨ mark = ";" := by simpa using hmem
  have hoperand : Accepts (operand g) tokens cursor fun node next => next = stop ∧ P node :=
    operand_accepts hname hnext fun node hform => Accepts.loop (hbehind node hform)
  have hoperator : Accepts operator? tokens stop fun found next => found = none ∧ next = stop := by
    unfold operator?
    apply Accepts.current hlt
    apply Accepts.peek
    have hprecedence : precedence? mark = none := by
      rcases hcases with rfl | rfl
      . decide
      . decide
    have hangle : [">"].contains mark = false := by
      rcases hcases with rfl | rfl
      . decide
      . decide
    rw [isKeyword_of_mark hmark, isPunct_of_mark hmark, hangle, htext, hprecedence]
    simp only [Bool.false_and, Bool.false_eq_true, if_false, Option.isSome_none, Bool.and_false]
    exact Accepts.pure ⟨rfl, rfl⟩
  have hoperation : Accepts (operation g 0) tokens cursor fun node next => next = stop ∧ P node := by
    unfold operation
    apply Accepts.here
    apply hoperand.bind
    rintro node _ ⟨rfl, hnode⟩
    apply Accepts.loop
    apply Accepts.turn
    apply hoperator.bind
    rintro _ _ ⟨rfl, rfl⟩
    exact Accepts.pure ⟨rfl, hnode⟩
  have hquestion : (tokenAt tokens stop).isPunct ["?"] = false := by
    rw [isPunct_of_mark hmark]
    rcases hcases with rfl | rfl
    . decide
    . decide
  have hassigns : (tokenAt tokens stop).isPunct assignmentOperators = false := by
    rw [isPunct_of_mark hmark]
    rcases hcases with rfl | rfl
    . decide
    . decide
  have hconditional : Accepts (conditional g) tokens cursor fun node next => next = stop ∧ P node := by
    unfold conditional
    apply Accepts.here
    apply hoperation.bind
    rintro node _ ⟨rfl, hnode⟩
    apply Accepts.bind_of_eq (accept_eq_of_not (Nat.le_of_lt hlt) hquestion)
    exact Accepts.pure ⟨rfl, hnode⟩
  unfold expression
  apply Accepts.here
  apply hconditional.bind
  rintro node _ ⟨rfl, hnode⟩
  apply Accepts.current hlt
  rw [hassigns]
  exact Accepts.pure ⟨rfl, hnode⟩

/-! ### Arguments -/

theorem expect_eq {text : String} (h : (tokenAt tokens cursor).isPunct [text] = true) :
    expect text tokens cursor = .ok (some (tokenAt tokens cursor), cursor + 1) := by
  have hlt := lt_last_of_isPunct h
  unfold expect
  rw [bind_eq_of_eq_ok (current_eq (Nat.le_of_lt hlt)), if_pos h,
    bind_eq_of_eq_ok (advance_eq hlt)]
  rfl

theorem argumentList_accepts_nil (hopen : (tokenAt tokens cursor).isPunct ["("] = true)
    (hclose : (tokenAt tokens (cursor + 1)).isPunct [")"] = true) :
    Accepts (argumentList g ")") tokens cursor fun result next =>
      result.1 = [] ∧ next = cursor + 2 := by
  have hlt := lt_last_of_isPunct hclose
  unfold argumentList
  apply Accepts.advance (lt_last_of_isPunct hopen)
  apply Accepts.bind (Q := fun items next => items = [] ∧ next = cursor + 1)
  . rw [commaList_eq]
    apply Accepts.loop
    apply Accepts.turn
    apply Accepts.current hlt
    rw [isBefore, hclose]
    exact Accepts.pure ⟨rfl, rfl⟩
  . rintro _ _ ⟨rfl, rfl⟩
    exact Accepts.bind_of_eq (expect_eq hclose) (Accepts.pure ⟨rfl, rfl⟩)

theorem argumentList_accepts_name {name : String}
    (hopen : (tokenAt tokens cursor).isPunct ["("] = true) (hname : Names tokens (cursor + 1) name)
    (hclose : (tokenAt tokens (cursor + 2)).isPunct [")"] = true)
    (hexpression : Accepts g.expression tokens (cursor + 1) fun node next =>
      next = cursor + 2 ∧ node.form = .identifier name (.name none)) :
    Accepts (argumentList g ")") tokens cursor fun result next =>
      (∃ node, result.1 = [node] ∧ node.form = .identifier name (.name none)) ∧
        next = cursor + 3 := by
  have hlt := lt_last_of_isIdentifier hname.1
  have hlt' := lt_last_of_isPunct hclose
  have hcolon : (tokenAt tokens (cursor + 1 + 1)).isPunct [":"] = false := by
    rw [isPunct_of_mark hclose]
    decide
  have hcomma : (tokenAt tokens (cursor + 2)).isPunct [","] = false := by
    rw [isPunct_of_mark hclose]
    decide
  have hargument : Accepts (argument g) tokens (cursor + 1) fun node next =>
      next = cursor + 2 ∧ node.form = .identifier name (.name none) := by
    unfold argument
    apply Accepts.current hlt
    apply Accepts.peek
    rw [hcolon, Bool.and_false]
    apply Accepts.atKeyword hlt
    rw [isKeyword_of_isIdentifier hname.1]
    exact hexpression
  unfold argumentList
  apply Accepts.advance (lt_last_of_isPunct hopen)
  apply Accepts.bind (Q := fun items next =>
    (∃ node, items = [node] ∧ node.form = .identifier name (.name none)) ∧ next = cursor + 2)
  . rw [commaList_eq]
    apply Accepts.loop
    apply Accepts.turn
    apply Accepts.current hlt
    have hbefore : isBefore ")" (tokenAt tokens (cursor + 1)) = true := by
      rw [isBefore, isPunct_of_isIdentifier hname.1, not_isEnd_of_lt_last hlt]
      rfl
    rw [hbefore]
    apply hargument.bind
    rintro node _ ⟨rfl, hnode⟩
    apply Accepts.bind_of_eq (accept_eq_of_not (Nat.le_of_lt hlt') hcomma)
    exact Accepts.pure ⟨⟨node, rfl, hnode⟩, rfl⟩
  . rintro items _ ⟨hitems, rfl⟩
    exact Accepts.bind_of_eq (expect_eq hclose) (Accepts.pure ⟨hitems, rfl⟩)

/-- A name alone is an expression, however deep it may stand. -/
theorem ofDepth_expression_accepts {name : String} (hname : Names tokens cursor name)
    (hends : EndsExpression (tokenAt tokens (cursor + 1))) (depth : Nat) :
    Accepts (Grammar.ofDepth depth).expression tokens cursor fun node next =>
      next = cursor + 1 ∧ node.form = .identifier name (.name none) := by
  cases depth with
  | zero => exact nofun
  | succ depth =>
    apply expression_accepts hname hends.endsName hends
    intro node hform
    exact behind_of_endsExpression hends ⟨rfl, hform⟩

/-! ### Calls that are statements -/

/--
Whether a node is a statement that calls what a dotted name stands for, with arguments that pass a test.
-/
def IsCallStatement (name : String) (P : List Node → Prop) (node : Node) : Prop :=
  node.kind = .exprStmt ∧
    ∃ call arguments, node.children = [call] ∧ P arguments ∧ IsCallOf name arguments call

omit [Lawful tokens] in
theorem Arrives.bind_eq {parser : Parser α} {rest : α → Parser β} {R : β → Nat → Prop} {a : α}
    {next : Nat} (heq : parser tokens cursor = .ok (a, next))
    (h : Arrives (rest a) tokens next R) : Arrives (parser >>= rest) tokens cursor R := by
  unfold Arrives
  rw [bind_eq_of_eq_ok heq]
  exact h

section

variable {name : String} {names : List String} {stop : Nat} (hname : Names tokens cursor name)
  (hnames : Chain (IsSegment tokens) (cursor + 1) stop names) (hne : names ≠ [])
  (hopen : (tokenAt tokens stop).isPunct ["("] = true)

include hname hnames hne hopen

omit [Lawful tokens] hname hopen in
theorem dot_of_chain : (tokenAt tokens (cursor + 1)).isPunct ["."] = true := by
  cases names with
  | nil => exact absurd rfl hne
  | cons name names =>
    obtain ⟨_, hsegment, _⟩ := hnames
    exact hsegment.1

omit hopen in
theorem modifiersOfLocal_accepts :
    Accepts modifiersOfLocal tokens cursor fun _ next => next = cursor := by
  have hlt := lt_last_of_isIdentifier hname.1
  have hdot := dot_of_chain hnames hne
  have hword : isWordToken (tokenAt tokens (cursor + 1)) = false := by
    rw [Token.isPunct_iff] at hdot
    simp [isWordToken, hdot]
  apply Accepts.loop
  apply Accepts.turn
  apply Accepts.current hlt
  apply Accepts.peek
  rw [isKeyword_of_isIdentifier hname.1, hword, Bool.and_false]
  exact Accepts.pure rfl

/-- A dotted name in front of a parenthesis does not declare a variable. -/
theorem localDeclaration?_accepts (first : Nat) :
    Accepts (localDeclaration? g first true) tokens cursor fun found next =>
      found = none ∧ next = cursor := by
  have hlt := lt_last_of_isIdentifier hname.1
  have hstop := lt_last_of_isPunct hopen
  unfold localDeclaration?
  refine Accepts.attempt_bind ?_ (Accepts.pure ⟨rfl, rfl⟩)
  unfold localHead
  refine (modifiersOfLocal_accepts hname hnames hne).arrives.bind ?_
  rintro _ _ rfl
  refine Arrives.bind_eq (bind_eq_of_eq_ok (current_eq (Nat.le_of_lt hlt))) ?_
  refine Arrives.ite (fun _ _ _ heq => by cases heq) fun _ => ?_
  refine (anyType_accepts hname hnames hopen (by decide)).arrives.bind ?_
  rintro _ _ rfl
  refine Arrives.bind_eq (current_eq (Nat.le_of_lt hstop)) (Arrives.bind_eq rfl ?_)
  rw [isIdentifier_of_mark hopen]
  intro _ _ heq
  cases heq

variable {P : List Node → Prop} {close : Nat}
  (harguments : Accepts (argumentList g ")") tokens stop fun result next =>
    P result.1 ∧ next = close)
  (hsemicolon : (tokenAt tokens close).isPunct [";"] = true)
  (hthis : name ≠ "this" ∧ name ≠ "base" ∧ name ≠ "")

include harguments hsemicolon hthis

theorem plainStatement_accepts (first : Nat) :
    Accepts (plainStatement g first) tokens cursor fun node _ =>
      IsCallStatement (dotted name names) P node := by
  have hdot := dot_of_chain hnames hne
  have hends : EndsExpression (tokenAt tokens close) := ⟨";", by simp, hsemicolon⟩
  unfold plainStatement
  apply (localDeclaration?_accepts hname hnames hne hopen first).bind
  rintro _ _ ⟨rfl, rfl⟩
  apply Accepts.bind
  . apply expression_accepts hname ⟨".", by simp, hdot⟩ hends
    intro node hform
    have hnode := dottedName?_of_identifier hform ⟨hthis.1, hthis.2.1⟩
    exact behind_of_chain hnode hthis.2.2 hnames hopen harguments hends
  . rintro call _ ⟨rfl, arguments, hP, hcall⟩
    apply Accepts.bind_of_eq (expect_eq hsemicolon)
    apply (Accepts.node first).mono
    rintro node _ ⟨hform, hchildren, _⟩
    exact ⟨by rw [Node.kind, hform]; rfl, call, arguments, hchildren, hP, hcall⟩

theorem statement_accepts :
    Accepts (statement g) tokens cursor fun node _ =>
      IsCallStatement (dotted name names) P node := by
  have hlt := lt_last_of_isIdentifier hname.1
  have hdot := dot_of_chain hnames hne
  have hkind := hname.1
  rw [Token.isIdentifier, beq_iff_eq] at hkind
  unfold statement
  apply Accepts.here
  apply Accepts.current hlt
  apply Accepts.peek
  rw [isPunct_of_isIdentifier hname.1, isPunct_of_isIdentifier hname.1, hkind, hname.1]
  unfold identifierStatement
  apply Accepts.current hlt
  apply Accepts.peek
  rw [isKeyword_of_mark hdot, isKeyword_of_mark hdot, isPunct_of_mark hdot]
  simp only [Bool.and_false, Bool.false_eq_true, if_false]
  apply Accepts.peek
  exact plainStatement_accepts hname hnames hne hopen harguments hsemicolon hthis cursor

/-- A call with a dotted name and a semicolon behind it is a statement. -/
theorem embedded_accepts :
    Accepts (embedded g) tokens cursor fun node _ =>
      IsCallStatement (dotted name names) P node := by
  have hstatement :=
    @statement_accepts _ _ _ g _ _ _ hname hnames hne hopen _ _ harguments hsemicolon hthis
  unfold embedded
  apply Accepts.here
  apply hstatement.attempt.bind
  rintro _ _ ⟨node, rfl, hnode⟩
  exact Accepts.pure hnode

end

end

end ThreadLint.Parser
