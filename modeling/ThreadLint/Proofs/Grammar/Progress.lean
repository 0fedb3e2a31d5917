import ThreadLint.Proofs.Grammar

/-!
This module contains that reading comes to an end: whatever the tokens of a text are, a parser of a
construct takes a token or does not fit, and none goes beyond the end of the text. So every turn of a
loop takes a token or is the last one, and neither the bound on the turns of a loop nor the one on the
levels of constructs is ever used up.
-/

namespace ThreadLint

open ThreadLint.Parser

variable {α β σ : Type} {tokens : Array Token} {cursor : Nat}

namespace Parser

/-! ### Parsers that take tokens -/

/--
Whether a parser takes tokens but not the end of the text, or does not fit. It never stops for another
reason.
-/
def Advances (tokens : Array Token) (parser : Parser α) (cursor : Nat) : Prop :=
  match parser tokens cursor with
  | .ok (_, next) => cursor < next ∧ next ≤ last tokens
  | .error stop => stop = .mismatch

/--
Whether a parser takes tokens, or stays at the end of the text, or does not fit. It never stops for
another reason.
-/
def AdvancesOrEnds (tokens : Array Token) (parser : Parser α) (cursor : Nat) : Prop :=
  match parser tokens cursor with
  | .ok (_, next) => (cursor < next ∨ cursor = last tokens) ∧ next ≤ last tokens
  | .error stop => stop = .mismatch

theorem Ensures.advances {parser : Parser α} {Q : α → Nat → Prop}
    (h : Ensures tokens parser cursor Q) (hcursor : cursor ≤ last tokens)
    (hlt : ∀ a next, Q a next → cursor < next) : Advances tokens parser cursor := by
  unfold Advances
  split
  . next a next heq =>
    obtain ⟨_, hlast, _, ha⟩ := h.of_eq_ok hcursor heq
    exact ⟨hlt a next ha, hlast⟩
  . next stop heq => exact h.eq_mismatch hcursor heq

theorem Ensures.advancesOrEnds {parser : Parser α} {Q : α → Nat → Prop}
    (h : Ensures tokens parser cursor Q) (hcursor : cursor ≤ last tokens)
    (hlt : ∀ a next, next ≤ last tokens → Q a next → cursor < next ∨ cursor = last tokens) :
    AdvancesOrEnds tokens parser cursor := by
  unfold AdvancesOrEnds
  split
  . next a next heq =>
    obtain ⟨_, hlast, _, ha⟩ := h.of_eq_ok hcursor heq
    exact ⟨hlt a next hlast ha, hlast⟩
  . next stop heq => exact h.eq_mismatch hcursor heq

/-! ### Loops that end -/

/--
How a loop runs without any bound on its turns: its result and the cursors at which the turns begin.
-/
inductive Runs (tokens : Array Token) (step : σ → Parser (Progress σ β)) :
    σ → Nat → Except Stop (β × Nat) → List Nat → Prop
  | done {state : σ} {cursor next : Nat} {result : β}
      (h : step state tokens cursor = .ok (.done result, next)) :
      Runs tokens step state cursor (.ok (result, next)) [cursor]
  | stop {state : σ} {cursor : Nat} {stop : Stop} (h : step state tokens cursor = .error stop) :
      Runs tokens step state cursor (.error stop) [cursor]
  | more {state state' : σ} {cursor next : Nat} {result : Except Stop (β × Nat)}
      {turns : List Nat} (h : step state tokens cursor = .ok (.more state', next))
      (hrest : Runs tokens step state' next result turns) :
      Runs tokens step state cursor result (cursor :: turns)

/--
Whether a loop comes to its end from a cursor on, whatever state it begins in: each turn takes a token
or is the last one, so that they begin behind each other and in front of the end of the text, or there.
-/
def Ends (tokens : Array Token) (step : σ → Parser (Progress σ β)) (cursor : Nat) : Prop :=
  ∀ state, ∃ turns, Runs tokens step state cursor (loop step state tokens cursor) turns ∧
    turns.Pairwise (· < ·) ∧ ∀ turn ∈ turns, cursor ≤ turn ∧ turn ≤ last tokens

theorem runs_loopAtMost {step : σ → Parser (Progress σ β)} {lo : Nat}
    (hstep : ∀ state index, lo ≤ index → index ≤ last tokens → Ensures tokens (step state) index
      (Progress.Holds index (fun _ _ => True) fun _ _ => True))
    {bound : Nat} (state : σ) (hcursor : cursor ≤ last tokens) (hlo : lo ≤ cursor)
    (hbound : last tokens < cursor + bound) :
    ∃ turns, Runs tokens step state cursor (loopAtMost step bound state tokens cursor) turns ∧
      turns.Pairwise (· < ·) ∧ ∀ turn ∈ turns, cursor ≤ turn ∧ turn ≤ last tokens := by
  induction bound generalizing state cursor with
  | zero => omega
  | succ bound ih =>
    have hturn := hstep state cursor hlo hcursor
    have honly : [cursor].Pairwise (· < ·) ∧ ∀ turn ∈ [cursor], cursor ≤ turn ∧ turn ≤ last tokens :=
      ⟨List.pairwise_singleton _ _, by simpa using hcursor⟩
    cases hresult : step state tokens cursor with
    | error stop =>
      have heq : loopAtMost step (bound + 1) state tokens cursor = .error stop := by
        simp only [loopAtMost, Bind.bind, hresult]
      rw [heq]
      exact ⟨[cursor], .stop hresult, honly⟩
    | ok result =>
      obtain ⟨progress, next⟩ := result
      obtain ⟨_, hlast, _, hprogress⟩ := hturn.of_eq_ok hcursor hresult
      cases progress with
      | done result =>
        have heq : loopAtMost step (bound + 1) state tokens cursor = .ok (result, next) := by
          rw [loopAtMost, bind_eq_of_eq_ok hresult]
          rfl
        rw [heq]
        exact ⟨[cursor], .done hresult, honly⟩
      | more state' =>
        have heq : loopAtMost step (bound + 1) state tokens cursor =
            loopAtMost step bound state' tokens next := by
          rw [loopAtMost, bind_eq_of_eq_ok hresult]
        have hlt : cursor < next := hprogress.1
        obtain ⟨turns, hruns, hpairwise, hturns⟩ :=
          ih state' hlast (by omega) (by omega)
        rw [heq]
        refine ⟨cursor :: turns, .more hresult hruns, List.pairwise_cons.2 ⟨?_, hpairwise⟩, ?_⟩
        . intro turn hturn
          have := hturns turn hturn
          omega
        . rw [List.forall_mem_cons]
          refine ⟨⟨Nat.le_refl _, hcursor⟩, ?_⟩
          intro turn hturn
          have := hturns turn hturn
          omega

/-- A loop ends if every turn of it takes a token or is the last one. -/
theorem ends_of_ensures {step : σ → Parser (Progress σ β)} (hcursor : cursor ≤ last tokens)
    (hstep : ∀ state index, cursor ≤ index → index ≤ last tokens → Ensures tokens (step state) index
      (Progress.Holds index (fun _ _ => True) fun _ _ => True)) : Ends tokens step cursor := by
  intro state
  apply runs_loopAtMost hstep state hcursor (Nat.le_refl _)
  unfold last at *
  omega

theorem ends_takeItem [Lawful tokens] {goesOn : Token → Bool} {item : Parser α}
    (hcursor : cursor ≤ last tokens)
    (hitem : ∀ index, cursor ≤ index → index ≤ last tokens →
      goesOn (tokenAt tokens index) = true →
      Ensures tokens item index fun _ next => index < next) :
    Ends tokens (takeItem goesOn item) cursor := by
  apply ends_of_ensures hcursor
  intro found index hindex hlast
  apply takeItem_ensures hlast
  . intro hgoesOn
    exact (hitem index hindex hlast hgoesOn).mono fun _ _ _ _ hlt => ⟨hlt, trivial⟩
  . intro _
    trivial

theorem ends_takeListed [Lawful tokens] {goesOn : Token → Bool} {item : Parser α}
    (hcursor : cursor ≤ last tokens)
    (hitem : ∀ index, cursor ≤ index → index ≤ last tokens →
      goesOn (tokenAt tokens index) = true →
      Ensures tokens item index fun _ next => index < next) :
    Ends tokens (takeListed goesOn item) cursor := by
  apply ends_of_ensures hcursor
  intro found index hindex hlast
  apply takeListed_ensures hlast
  . intro hgoesOn
    exact (hitem index hindex hlast hgoesOn).mono fun _ _ _ _ hlt => ⟨hlt, trivial, trivial⟩
  . intro _
    trivial

/-- Whether a loop ends wherever it begins behind a cursor. -/
def EndsBehind (tokens : Array Token) (step : σ → Parser (Progress σ β)) (cursor : Nat) : Prop :=
  ∀ index, cursor < index → index ≤ last tokens → Ends tokens step index

end Parser

/-! ### Constructs and their loops -/

namespace Grammar

/--
Whether the constructs of a grammar take tokens at a cursor. One that is passed over where it is not
understood may stay at the end of the text.
-/
structure Advances (g : Grammar) (tokens : Array Token) (cursor : Nat) : Prop where
  member owner : Parser.Advances tokens (Parser.member g owner) cursor
  statement : Parser.Advances tokens (Parser.statement g) cursor
  expression : Parser.Advances tokens (Parser.expression g) cursor
  typeUse nullable arrays : Parser.Advances tokens (Parser.typeUse nullable arrays) cursor
  attributeUse : Parser.Advances tokens (Parser.attributeUse g) cursor
  embedded : AdvancesOrEnds tokens (Parser.embedded g) cursor
  skipConstruct keyword : AdvancesOrEnds tokens (Parser.skipConstruct cursor keyword) cursor
  /-- What is passed over begins where it is told, wherever the reader is by then. -/
  skipConstruct_eq keyword index :
    Parser.skipConstruct cursor keyword tokens index = Parser.skipConstruct cursor keyword tokens cursor

/--
Whether the loops in the constructs of a grammar end: that over members from a cursor on, and the
others from wherever they begin behind it.
-/
structure LoopsEnd (g : Grammar) (tokens : Array Token) (cursor : Nat) : Prop where
  members owner : Ends tokens (takeItem (isBefore "\x7d") (memberGroup g owner)) cursor
  members_eq owner :
    Parser.members g owner = (do
      let groups ← manyWhile (isBefore "\x7d") (memberGroup g owner)
      return groups.flatten)
  /-- The loop of `Parser.block`. -/
  statements : EndsBehind tokens (takeItem (isBefore "\x7d") g.embedded) cursor
  cases : EndsBehind tokens (takeItem (isBefore "\x7d") (caseItem g)) cursor
  cases_eq first :
    switchStatement g first = (do
      let _ ← advance
      let subject ← condition g
      let _ ← require ["\x7b"]
      let statements ← manyWhile (isBefore "\x7d") (caseItem g)
      let _ ← expect "\x7d"
      node (.otherStmt "switch") first (subject :: statements.flatten))
  /-- The loop of `Parser.argumentList`. -/
  arguments closer : EndsBehind tokens (takeListed (isBefore closer) (argument g)) cursor
  accessors : EndsBehind tokens (takeItem (isBefore "\x7d") (accessor g)) cursor
  accessors_eq :
    Parser.accessors g = (do
      let _ ← require ["\x7b"]
      let bodies ← manyWhile (isBefore "\x7d") (accessor g)
      let _ ← expect "\x7d"
      return bodies.flatten)
  /-- The loop of `Parser.contents`. -/
  contents : EndsBehind tokens (takeListed (isBefore "\x7d") (contentsItem g)) cursor
  /-- The loop of `Parser.parameterList`. -/
  parameters closer : EndsBehind tokens (takeListed (isBefore closer) (parameter g)) cursor
  lambdaParameters : EndsBehind tokens takeLambdaToken cursor
  lambdaParameters_eq :
    Parser.lambdaParameters = (do
      let _ ← advance
      let names ← loop takeLambdaToken ([], none)
      let _ ← expect ")"
      return names)

variable {g : Grammar}

theorem Sound.embedded_advances (hg : g.Sound tokens cursor) (hcursor : cursor < last tokens) :
    Ensures tokens g.embedded cursor fun _ next => cursor < next := by
  apply (hg.embedded cursor (Nat.le_refl _) (Nat.le_of_lt hcursor)).mono
  intro node next _ hlast h
  cases h with
  | inl h => exact h.lt
  | inr h => omega

variable [Lawful tokens]

theorem Sound.advances (hg : g.Sound tokens (cursor + 1)) (hcursor : cursor ≤ last tokens) :
    g.Advances tokens cursor where
  member _ := (member_ensures hg hcursor).advances hcursor fun _ _ h => h.1
  statement := (statement_ensures hg hcursor).advances hcursor fun _ _ h => h.lt
  expression := (expression_ensures hg hcursor).advances hcursor fun _ _ h => h.lt
  typeUse _ _ := (typeUse_ensures hcursor).advances hcursor fun _ _ h => h.1
  attributeUse := (attributeUse_ensures hg hcursor).advances hcursor fun _ _ h => h.lt
  embedded := by
    apply (embedded_ensures hg hcursor).advancesOrEnds hcursor
    intro node next hlast h
    cases h with
    | inl h => exact .inl h.lt
    | inr h => omega
  skipConstruct _ := by
    apply (skipConstruct_ensures hcursor).advancesOrEnds hcursor
    intro node next hlast h
    cases h with
    | inl h => exact .inl h.lt
    | inr h => omega
  skipConstruct_eq _ _ := rfl

theorem Sound.loopsEnd (hg : g.Sound tokens (cursor + 1)) (hcursor : cursor ≤ last tokens) :
    g.LoopsEnd tokens cursor where
  members owner := by
    apply ends_takeItem hcursor
    intro index hindex _ hbefore
    exact (memberGroup_ensures (hg.mono (by omega)) (lt_last_of_isBefore hbefore)).mono
      fun _ _ _ _ h => h.1
  members_eq := Parser.members_eq g
  statements first hfirst hlast := by
    apply ends_takeItem hlast
    intro index hindex _ hbefore
    exact (hg.mono (by omega)).embedded_advances (lt_last_of_isBefore hbefore)
  cases first hfirst hlast := by
    apply ends_takeItem hlast
    intro index hindex _ hbefore
    exact (caseItem_ensures (hg.mono (by omega)) (lt_last_of_isBefore hbefore)).mono
      fun _ _ _ _ h => h.1
  cases_eq := switchStatement_eq g
  arguments _ first hfirst hlast := by
    apply ends_takeListed hlast
    intro index hindex hlast _
    exact (argument_ensures (hg.mono (by omega)) hlast).mono fun _ _ _ _ h => h.lt
  accessors first hfirst hlast := by
    apply ends_takeItem hlast
    intro index hindex hlast _
    exact (accessor_ensures (hg.mono (by omega)) hlast).mono fun _ _ _ _ h => h.1
  accessors_eq := Parser.accessors_eq g
  contents first hfirst hlast := by
    apply ends_takeListed hlast
    intro index hindex hlast _
    exact (contentsItem_ensures (hg.mono (by omega)) hlast).mono fun _ _ _ _ h => h.lt
  parameters _ first hfirst hlast := by
    apply ends_takeListed hlast
    intro index hindex hlast _
    exact (parameter_ensures (hg.mono (by omega)) hlast).mono fun _ _ _ _ h => h.lt
  lambdaParameters first hfirst hlast := by
    apply ends_of_ensures hlast
    intro found index _ hlast
    exact takeLambdaToken_ensures found hlast
  lambdaParameters_eq := Parser.lambdaParameters_eq

end Grammar

/--
Whatever the tokens of a text are, its members are read to the end or do not fit. With as many levels of
constructs as there are tokens from a cursor to the end of the text, every construct takes tokens there
or does not fit, and all loops end.
-/
theorem Grammar.ofDepth_advances {source : Source} {tokens : List Token}
    (h : Token.tokenize source = .ok tokens) :
    (∀ stop, Parsed.members tokens.toArray = .error stop → stop = .mismatch) ∧
    ∀ depth cursor, cursor ≤ last tokens.toArray → last tokens.toArray ≤ cursor + depth →
      (ofDepth depth).Advances tokens.toArray cursor ∧
        (ofDepth depth).LoopsEnd tokens.toArray cursor := by
  have := Lawful.of_tiles (Token.Tiles.of_tokenize h)
  refine ⟨fun _ => Parsed.eq_mismatch_of_members, ?_⟩
  intro depth cursor hcursor hdepth
  have hsound : (ofDepth depth).Sound tokens.toArray (cursor + 1) := ofDepth_sound (by omega)
  exact ⟨hsound.advances hcursor, hsound.loopsEnd hcursor⟩

/-- The end of a text is reached with a bracket open, and behind an attribute that is cut short. -/
theorem Grammar.ofDepth_advances_cut_short :
    ∃ tokens, Token.tokenize (Source.ofString "class A \x7b [B( void" none) = .ok tokens ∧
      tokens.length = 8 ∧
      ∀ depth cursor, cursor ≤ 7 → 7 ≤ cursor + depth →
        (ofDepth depth).Advances tokens.toArray cursor ∧
          (ofDepth depth).LoopsEnd tokens.toArray cursor := by
  have htokenized : ((Token.tokenize (Source.ofString "class A \x7b [B( void" none)).map
      List.length).toOption = some 8 := by
    decide +kernel
  obtain ⟨tokens, htokens, hlength⟩ := map_eq_ok.1 (eq_ok_of_toOption htokenized)
  refine ⟨tokens, htokens, hlength, ?_⟩
  have hlast : last tokens.toArray = 7 := by simp [last, hlength]
  have hadvances := (ofDepth_advances htokens).2
  rw [hlast] at hadvances
  exact hadvances

end ThreadLint
