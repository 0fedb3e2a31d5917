import ThreadLint.Proofs.Grammar

/-!
This module contains that a parser which tries a reading of the tokens and takes it back leaves no
trace: the cursor is where it was, wherever the trial gave up. Each such parser is also written with
a cursor that a failed trial leaves anywhere and that is set back on every way out, and comes to the
same.
-/

namespace ThreadLint.Parser

variable {α β σ : Type} {parser other : Parser α} {rest : α → Parser β}

/-! ### Parsers that always fit -/

/--
Whether a parser never gives up because the tokens do not fit.
-/
def AlwaysFits (parser : Parser α) : Prop :=
  ∀ tokens cursor, parser tokens cursor ≠ .error .mismatch

/--
Whether a parser always fits and never moves the cursor.
-/
def Looks (parser : Parser α) : Prop :=
  ∀ tokens cursor,
    match parser tokens cursor with
    | .ok (_, next) => next = cursor
    | .error stop => stop ≠ .mismatch

namespace AlwaysFits

theorem bind (h : AlwaysFits parser) (hrest : ∀ a, AlwaysFits (rest a)) :
    AlwaysFits (parser >>= rest) := by
  intro tokens cursor heq
  simp only [Bind.bind] at heq
  split at heq
  . next a next _ => exact hrest a tokens next heq
  . next stop hparser =>
    cases heq
    exact h tokens cursor hparser

theorem pure {a : α} : AlwaysFits (pure a) := by
  rintro tokens cursor ⟨⟩

theorem ite {b : Prop} [Decidable b] (h : AlwaysFits parser) (hother : AlwaysFits other) :
    AlwaysFits (if b then parser else other) := by
  split
  . exact h
  . exact hother

theorem of_looks (h : Looks parser) : AlwaysFits parser := by
  intro tokens cursor heq
  have := h tokens cursor
  rw [heq] at this
  exact this rfl

theorem seek (target : Nat) : AlwaysFits (seek target) := by
  rintro tokens cursor ⟨⟩

theorem attempt (parser : Parser α) : AlwaysFits (attempt parser) := by
  intro tokens cursor heq
  unfold Parser.attempt at heq
  split at heq
  . cases heq
  . cases heq
  . next stop hstop _ =>
    cases heq
    exact hstop rfl

theorem loop {step : σ → Parser (Progress σ β)} (h : ∀ state, AlwaysFits (step state)) (state : σ) :
    AlwaysFits (loop step state) := by
  have hbound (bound : Nat) : ∀ state, AlwaysFits (loopAtMost step bound state) := by
    induction bound with
    | zero => rintro state tokens cursor ⟨⟩
    | succ bound ih =>
      intro state
      apply (h state).bind
      rintro (state | result)
      . exact ih state
      . exact .pure
  intro tokens cursor
  exact hbound _ state tokens cursor

end AlwaysFits

namespace Looks

theorem eq_cursor (h : Looks parser) {tokens : Array Token} {cursor next : Nat} {a : α}
    (heq : parser tokens cursor = .ok (a, next)) : next = cursor := by
  have := h tokens cursor
  rwa [heq] at this

theorem bind (h : Looks parser) (hrest : ∀ a, Looks (rest a)) : Looks (parser >>= rest) := by
  intro tokens cursor
  have hparser := h tokens cursor
  simp only [Bind.bind]
  cases heq : parser tokens cursor with
  | ok result =>
    obtain ⟨a, next⟩ := result
    obtain rfl := h.eq_cursor heq
    exact hrest a tokens next
  | error stop =>
    rw [heq] at hparser
    exact hparser

theorem pure {a : α} : Looks (pure a) :=
  fun _ _ => rfl

theorem ite {b : Prop} [Decidable b] (h : Looks parser) (hother : Looks other) :
    Looks (if b then parser else other) := by
  split
  . exact h
  . exact hother

theorem here : Looks here :=
  fun _ _ => rfl

theorem peek (distance : Nat) : Looks (peek distance) :=
  fun _ _ => rfl

theorem tokenNumber (index : Nat) : Looks (tokenNumber index) := by
  intro tokens cursor
  unfold Parser.tokenNumber
  by_cases h : index < tokens.size
  . rw [if_pos h]
  . rw [if_neg h]
    exact nofun

theorem current : Looks current :=
  here.bind tokenNumber

theorem atPunct (texts : List String) : Looks (atPunct texts) :=
  current.bind fun _ => .pure

theorem atWord (texts : List String) : Looks (atWord texts) :=
  current.bind fun _ => .pure

theorem closing? (index : Nat) : Looks (closing? index) := by
  refine (tokenNumber index).bind fun token => .ite (fun _ _ => rfl) ?_
  intro tokens cursor
  exact nofun

theorem lookahead (h : AlwaysFits parser) : Looks (lookahead parser) := by
  intro tokens cursor
  unfold Parser.lookahead
  cases hparser : parser tokens cursor with
  | ok result => rfl
  | error stop =>
    rintro rfl
    exact h tokens cursor hparser

end Looks

theorem AlwaysFits.advance : AlwaysFits advance :=
  AlwaysFits.bind (.of_looks .current) fun _ =>
    .ite .pure (.bind (.of_looks .here) fun _ => .bind (.seek _) fun _ => .pure)

theorem arrowFollowsGroup_looks (opener : Nat) : Looks (arrowFollowsGroup opener) := by
  apply (Looks.closing? opener).bind
  intro closer
  cases closer with
  | none => exact .pure
  | some closer => exact (Looks.tokenNumber _).bind fun _ => .pure

theorem atLambda_looks : Looks atLambda := by
  apply Looks.current.bind
  intro token
  apply (Looks.peek 1).bind
  intro next
  apply Looks.here.bind
  intro cursor
  apply Looks.ite .pure
  apply Looks.ite
  . apply Looks.ite .pure
    apply (Looks.peek 2).bind
    intro arrow
    exact .ite .pure (.ite (arrowFollowsGroup_looks _) .pure)
  . exact .ite .pure (.ite (arrowFollowsGroup_looks _) .pure)

theorem atCast_looks : Looks atCast := by
  apply (Looks.atPunct _).bind
  intro opens
  apply Looks.ite _ .pure
  apply Looks.here.bind
  intro cursor
  apply (Looks.closing? cursor).bind
  rintro (_ | closer)
  . exact .pure
  . apply Looks.bind
    . apply Looks.lookahead
      apply (AlwaysFits.seek _).bind
      intro _
      apply (AlwaysFits.attempt _).bind
      rintro (_ | type)
      . exact .pure
      . exact (AlwaysFits.of_looks .here).bind fun _ => .pure
    . intro typed
      apply Looks.ite _ .pure
      exact (Looks.tokenNumber _).bind fun _ => (Looks.tokenNumber _).bind fun _ => .pure

theorem modifiersOfLocal_alwaysFits : AlwaysFits modifiersOfLocal := by
  apply AlwaysFits.loop
  intro found
  apply (AlwaysFits.of_looks .current).bind
  intro token
  apply (AlwaysFits.of_looks (.peek 1)).bind
  intro next
  exact .ite (AlwaysFits.advance.bind fun _ => .pure) .pure

/-! ### Trials with a cursor that is set back -/

/--
The result of a parser, or nothing if the tokens do not fit. The cursor is then left somewhere, where
the parser was when it gave up.
-/
def abandoned (left : Nat) (parser : Parser α) : Parser (Option α) := fun tokens cursor =>
  match parser tokens cursor with
  | .ok (a, next) => .ok (some a, next)
  | .error .mismatch => .ok (none, left)
  | .error stop => .error stop

/--
Type arguments, with the cursor set back if there are none or what follows makes them operands.
-/
def triedTypeArguments (left : Nat) : Parser (Option (List String)) := do
  if ← atPunct ["<"] then
    let save ← here
    match ← abandoned left (typeArgumentList anyType) with
    | none =>
      seek save
      return none
    | some arguments =>
      let next ← current
      if next.isEnd || next.isPunct typeArgumentFollowers then return some arguments
      else
        seek save
        return none
  else return none

/--
A local declaration or local function, with the cursor set back if there is no type or no name that
is declared behind it.
-/
def triedLocalDeclaration (left : Nat) (g : Grammar) (first : Nat) (terminated : Bool) :
    Parser (Option Node) := do
  let save ← here
  let modifiers ← modifiersOfLocal
  if ← atWord ["await"] then
    seek save
    return none
  else
    match ← abandoned left anyType with
    | none =>
      seek save
      return none
    | some type =>
      let name ← current
      let after ← peek 1
      if name.isIdentifier && after.isPunct ["(", "<"] then
        let name ← advance
        return some (← method g first []
          { name := name.identifierName
            nameExtent := name.extent
            modifiers := modifiers
            returnType := some (type.text, type.extent)
            isConstructor := false
            isLocal := true
            hasBody := false })
      else if name.isIdentifier && after.isPunct ["=", ";", ","] then
        return some (← localVariables g first (.localDecl type.text modifiers .statement) terminated)
      else
        seek save
        return none

/--
A variable that is declared where it is passed, with the cursor set back if there is none.
-/
def triedDeclaredArgument (left : Nat) : Parser (Option Node) := do
  let save ← here
  match ← abandoned left anyType with
  | none =>
    seek save
    return none
  | some type =>
    let first ← here
    if (← current).isIdentifier then
      let name ← advance
      if ← atPunct [",", ")"] then
        return some (← node (.identifier name.identifierName (.declaration type.text)) first [])
      else
        seek save
        return none
    else
      seek save
      return none

/--
Whether a parenthesis opens a cast, with the cursor set back behind the type inside it.
-/
def triedCast (left : Nat) : Parser Bool := do
  if ← atPunct ["("] then
    let save ← here
    match ← closing? save with
    | none => return false
    | some closer =>
      seek (save + 1)
      let typed ← do
        match ← abandoned left anyType with
        | some _ => pure ((← here) == closer)
        | none => pure false
      seek save
      if typed then
        let after ← tokenNumber (closer + 1)
        let inner ← tokenNumber (save + 1)
        return beginsOperand after || after.isPunct ["(", "!", "~"] ||
          (isPredefinedType inner && after.isPunct ["-", "+"])
      else return false
  else return false

/-! ### Both ways of writing trials -/

theorem exists_of_bind_eq_ok {tokens : Array Token} {cursor stop : Nat} {b : β}
    (h : (parser >>= rest) tokens cursor = .ok (b, stop)) :
    ∃ a next, parser tokens cursor = .ok (a, next) ∧ rest a tokens next = .ok (b, stop) := by
  simp only [Bind.bind] at h
  split at h
  . next a next heq => exact ⟨a, next, heq, h⟩
  . cases h

theorem bind_bind {γ : Type} {more : β → Parser γ} :
    parser >>= rest >>= more = parser >>= fun a => rest a >>= more := by
  funext tokens cursor
  simp only [Bind.bind]
  cases parser tokens cursor <;> rfl

variable (left save : Nat)

theorem attempt_eq (parser : Parser α) :
    attempt parser = here >>= fun save => abandoned save parser :=
  rfl

theorem abandoned_ite {b : Prop} [Decidable b] :
    abandoned save (if b then parser else other) =
      if b then abandoned save parser else abandoned save other := by
  split <;> rfl

/-- Of two steps, the first one is set back if it is given up, wherever it has left the cursor. -/
theorem abandoned_bind : abandoned save (parser >>= rest) =
    abandoned left parser >>= fun
      | none => seek save >>= fun _ => pure none
      | some a => abandoned save (rest a) := by
  funext tokens cursor
  simp only [abandoned, Bind.bind]
  cases parser tokens cursor with
  | ok result => rfl
  | error stop => cases stop <;> rfl

theorem abandoned_of_alwaysFits (h : AlwaysFits parser) :
    abandoned save parser = parser >>= fun a => pure (some a) := by
  funext tokens cursor
  simp only [abandoned, Bind.bind]
  cases hparser : parser tokens cursor with
  | ok result => rfl
  | error stop =>
    cases stop with
    | mismatch => exact absurd hparser (h tokens cursor)
    | _ => rfl

/-- A step that always fits is none that is given up. -/
theorem abandoned_bind_of_alwaysFits (h : AlwaysFits parser) :
    abandoned save (parser >>= rest) = parser >>= fun a => abandoned save (rest a) := by
  rw [abandoned_bind save, abandoned_of_alwaysFits save h, bind_bind]
  rfl

theorem lastStop_looks : Looks lastStop := by
  apply Looks.here.bind
  intro cursor
  exact .ite .pure ((Looks.tokenNumber _).bind fun _ => .pure)

theorem node_alwaysFits (form : Form) (first : Nat) (children : List Node) :
    AlwaysFits (node form first children) := by
  apply AlwaysFits.of_looks
  apply (Looks.tokenNumber first).bind
  intro token
  apply Looks.here.bind
  intro cursor
  apply lastStop_looks.bind
  intro stop
  refine .ite .pure ?_
  intro tokens cursor
  exact nofun

theorem triedTypeArguments_eq : triedTypeArguments left = typeArguments? := by
  unfold triedTypeArguments typeArguments?
  apply bind_congr
  intro opens
  congr 1
  rw [attempt_eq]
  apply bind_congr
  intro save
  rw [abandoned_bind left]
  apply bind_congr
  rintro (_ | arguments)
  . rfl
  . dsimp only
    rw [abandoned_bind_of_alwaysFits save (.of_looks .current)]
    apply bind_congr
    intro next
    rw [abandoned_ite]
    rfl

theorem triedDeclaredArgument_eq : triedDeclaredArgument left = declaredArgument? := by
  unfold triedDeclaredArgument declaredArgument?
  rw [attempt_eq]
  apply bind_congr
  intro save
  rw [abandoned_bind left]
  apply bind_congr
  rintro (_ | type)
  . rfl
  . dsimp only
    rw [abandoned_bind_of_alwaysFits save (.of_looks .here)]
    apply bind_congr
    intro first
    rw [identifier, bind_bind, abandoned_bind_of_alwaysFits save (.of_looks .current)]
    apply bind_congr
    intro token
    split
    . rw [abandoned_bind_of_alwaysFits save .advance]
      apply bind_congr
      intro name
      rw [abandoned_bind_of_alwaysFits save (.of_looks (.atPunct _))]
      apply bind_congr
      intro follows
      rw [abandoned_ite, abandoned_of_alwaysFits save (node_alwaysFits _ _ _)]
      rfl
    . rfl

theorem triedLocalDeclaration_eq (g : Grammar) (first : Nat) (terminated : Bool) :
    triedLocalDeclaration left g first terminated = localDeclaration? g first terminated := by
  unfold triedLocalDeclaration localDeclaration? localHead
  rw [attempt_eq, bind_bind]
  apply bind_congr
  intro save
  rw [abandoned_bind_of_alwaysFits save modifiersOfLocal_alwaysFits, bind_bind]
  apply bind_congr
  intro modifiers
  rw [abandoned_bind_of_alwaysFits save (.of_looks (.atWord _)), bind_bind]
  apply bind_congr
  intro awaits
  split
  . rfl
  . rw [abandoned_bind left, bind_bind]
    apply bind_congr
    rintro (_ | type)
    . rfl
    . dsimp only
      rw [abandoned_bind_of_alwaysFits save (.of_looks .current), bind_bind]
      apply bind_congr
      intro name
      rw [abandoned_bind_of_alwaysFits save (.of_looks (.peek 1)), bind_bind]
      apply bind_congr
      intro after
      rw [abandoned_ite, abandoned_ite]
      split
      . rfl
      . split
        . rfl
        . rfl

theorem triedCast_eq : triedCast left = atCast := by
  unfold triedCast atCast
  apply bind_congr
  intro opens
  congr 1
  funext tokens cursor
  have hclosing := Looks.closing? cursor tokens cursor
  simp only [Bind.bind, here, seek, lookahead, attempt, abandoned]
  cases hcloser : closing? cursor tokens cursor with
  | error stop => rfl
  | ok result =>
    obtain ⟨closer, next⟩ := result
    rw [hcloser] at hclosing
    obtain rfl : cursor = next := hclosing.symm
    cases closer with
    | none => rfl
    | some closer =>
      dsimp only
      cases anyType tokens (cursor + 1) with
      | ok result => rfl
      | error stop => cases stop <;> rfl

/-! ### Trials in a text -/

/--
Whether a parser that may decline leaves the cursor where it is when it does.
-/
def DeclinesInPlace (parser : Parser (Option α)) (tokens : Array Token) (cursor : Nat) : Prop :=
  ∀ next, parser tokens cursor = .ok (none, next) → next = cursor

/--
Whether a parser has a result.
-/
def Answers (parser : Parser α) (tokens : Array Token) (cursor : Nat) : Prop :=
  ∃ a next, parser tokens cursor = .ok (a, next)

theorem AlwaysFits.answers (h : AlwaysFits parser) {tokens : Array Token} {cursor : Nat}
    {Q : α → Nat → Prop} (hensures : Ensures tokens parser cursor Q) (hcursor : cursor ≤ last tokens) :
    Answers parser tokens cursor := by
  cases heq : parser tokens cursor with
  | ok result => exact ⟨result.1, result.2, heq⟩
  | error stop =>
    rw [hensures.eq_mismatch hcursor heq] at heq
    exact absurd heq (h tokens cursor)

theorem attempt_declinesInPlace (parser : Parser α) (tokens : Array Token) (cursor : Nat) :
    DeclinesInPlace (attempt parser) tokens cursor := by
  intro next heq
  unfold attempt at heq
  split at heq
  . cases heq
  . cases heq
    rfl
  . cases heq

theorem typeArguments?_declinesInPlace (tokens : Array Token) (cursor : Nat) :
    DeclinesInPlace typeArguments? tokens cursor := by
  intro next heq
  unfold typeArguments? at heq
  obtain ⟨opens, here, hopens, hrest⟩ := exists_of_bind_eq_ok heq
  obtain rfl := (Looks.atPunct _).eq_cursor hopens
  split at hrest
  . exact attempt_declinesInPlace _ tokens _ next hrest
  . cases hrest
    rfl

/-- What is declared is never taken back once its head is read. -/
theorem localDeclaration?_declinesInPlace (g : Grammar) (first : Nat) (terminated : Bool)
    (tokens : Array Token) (cursor : Nat) :
    DeclinesInPlace (localDeclaration? g first terminated) tokens cursor := by
  intro next heq
  unfold localDeclaration? at heq
  obtain ⟨head, here, hhead, hrest⟩ := exists_of_bind_eq_ok heq
  split at hrest
  . cases hrest
    exact attempt_declinesInPlace _ tokens cursor _ hhead
  . obtain ⟨name, _, _, hmethod⟩ := exists_of_bind_eq_ok hrest
    obtain ⟨made, _, _, hmade⟩ := exists_of_bind_eq_ok hmethod
    cases hmade
  . obtain ⟨made, _, _, hmade⟩ := exists_of_bind_eq_ok hrest
    cases hmade

theorem typeArguments?_alwaysFits : AlwaysFits typeArguments? :=
  (AlwaysFits.of_looks (.atPunct _)).bind fun _ => .ite (.attempt _) .pure

/--
Parsers that try a reading of the tokens leave no trace of it. If there are no type arguments, no
local declaration or no declared argument, the cursor is where it was, and whether there is a cast or
a lambda is said without moving it. Written with a cursor that a failed trial leaves anywhere and that
is set back on every way out, they are the same parsers. In a text, however deep the types in it are,
each trial comes to an answer.
-/
theorem trials_leaveNoTrace (tokens : Array Token) (cursor : Nat) :
    (DeclinesInPlace typeArguments? tokens cursor ∧
      (∀ g first terminated, DeclinesInPlace (localDeclaration? g first terminated) tokens cursor) ∧
      DeclinesInPlace declaredArgument? tokens cursor ∧
      (∀ answer next, atCast tokens cursor = .ok (answer, next) → next = cursor) ∧
      ∀ answer next, atLambda tokens cursor = .ok (answer, next) → next = cursor) ∧
    (∀ left, triedTypeArguments left = typeArguments? ∧
      (∀ g first terminated,
        triedLocalDeclaration left g first terminated = localDeclaration? g first terminated) ∧
      triedDeclaredArgument left = declaredArgument? ∧ triedCast left = atCast) ∧
    ∀ source list, Token.tokenize source = .ok list → tokens = list.toArray →
      cursor ≤ last tokens →
        Answers typeArguments? tokens cursor ∧ Answers (attempt localHead) tokens cursor ∧
        Answers declaredArgument? tokens cursor ∧ Answers atCast tokens cursor ∧
        Answers atLambda tokens cursor := by
  refine ⟨⟨?_, ?_, ?_, ?_, ?_⟩, fun left => ⟨?_, ?_, ?_, ?_⟩, ?_⟩
  . exact typeArguments?_declinesInPlace tokens cursor
  . exact fun g first terminated => localDeclaration?_declinesInPlace g first terminated tokens cursor
  . exact attempt_declinesInPlace _ tokens cursor
  . exact fun _ _ heq => atCast_looks.eq_cursor heq
  . exact fun _ _ heq => atLambda_looks.eq_cursor heq
  . exact triedTypeArguments_eq left
  . exact triedLocalDeclaration_eq left
  . exact triedDeclaredArgument_eq left
  . exact triedCast_eq left
  . rintro source list htokenize rfl hcursor
    have := Lawful.of_tiles (Token.Tiles.of_tokenize htokenize)
    refine ⟨?_, ?_, ?_, ?_, ?_⟩
    . exact typeArguments?_alwaysFits.answers (typeArguments?_ensures hcursor) hcursor
    . exact (AlwaysFits.attempt _).answers (.attempt hcursor (localHead_ensures hcursor)) hcursor
    . exact (AlwaysFits.attempt _).answers (declaredArgument?_ensures hcursor) hcursor
    . exact (AlwaysFits.of_looks atCast_looks).answers (atCast_ensures hcursor) hcursor
    . exact (AlwaysFits.of_looks atLambda_looks).answers (atLambda_ensures hcursor) hcursor

/-- Two comparisons are read as type arguments up to the name behind them, and taken back. -/
theorem trials_leaveNoTrace_comparisons :
    ∃ tokens read, Token.tokenize (Source.ofString "f(a < b, c > d);" none) = .ok tokens ∧
      typeArgumentList anyType tokens.toArray 3 = .ok (read, 8) ∧
      typeArguments? tokens.toArray 3 = .ok (none, 3) ∧ Answers atCast tokens.toArray 1 := by
  have hrun : (Token.tokenize (Source.ofString "f(a < b, c > d);" none)).toOption.map
      (fun tokens => (typeArgumentList anyType tokens.toArray 3).toOption.map Prod.snd == some 8 &&
        (typeArguments? tokens.toArray 3).toOption.map Prod.fst == some none &&
        decide (3 ≤ last tokens.toArray)) = some true := by
    decide +kernel
  obtain ⟨tokens, htokens, hall⟩ := Option.map_eq_some_iff.1 hrun
  rw [Bool.and_eq_true, Bool.and_eq_true, beq_iff_eq, beq_iff_eq, decide_eq_true_eq] at hall
  obtain ⟨⟨hread, hnone⟩, hlast⟩ := hall
  obtain ⟨⟨read, _⟩, hread, rfl⟩ := Option.map_eq_some_iff.1 hread
  obtain ⟨⟨_, next⟩, hnone, rfl⟩ := Option.map_eq_some_iff.1 hnone
  have htokenize := eq_ok_of_toOption htokens
  have hdeclined := eq_ok_of_toOption hnone
  obtain rfl : next = 3 := (trials_leaveNoTrace tokens.toArray 3).1.1 next hdeclined
  have hanswers := (trials_leaveNoTrace tokens.toArray 1).2.2 _ tokens htokenize rfl
  exact ⟨tokens, read, htokenize, eq_ok_of_toOption hread, hdeclined, (hanswers (by omega)).2.2.2.1⟩

end ThreadLint.Parser
