import ThreadLint.Proofs.Grammar.Braces

/-!
This module contains how statements about parsers are put together: what a parser ensures of its
result and of the cursor behind it follows from what its parts ensure. What every result of a parser
has, whatever the tokens are, only depends on the parts of it whose results are used.
-/

namespace ThreadLint.Parser

variable {α β σ : Type}

/-! ### What every result of a parser has -/

section

/--
Whether every result of a parser has a property.
-/
def Yields (parser : Parser α) (P : α → Prop) : Prop :=
  ∀ tokens cursor a next, parser tokens cursor = .ok (a, next) → P a

namespace Yields

variable {parser other : Parser α} {rest : α → Parser β} {P : α → Prop} {Q : β → Prop}

theorem bind (h : Yields parser P) (hrest : ∀ a, P a → Yields (rest a) Q) :
    Yields (parser >>= rest) Q := by
  intro tokens cursor b next heq
  simp only [Bind.bind] at heq
  split at heq
  . next a behind hparser => exact hrest a (h tokens cursor a behind hparser) tokens behind b next heq
  . cases heq

/-- A part whose result is not used may have any. -/
theorem skip (hrest : ∀ a, Yields (rest a) Q) : Yields (parser >>= rest) Q :=
  bind (P := fun _ => True) (fun _ _ _ _ _ => trivial) fun a _ => hrest a

theorem pure {a : α} (h : P a) : Yields (pure a) P := by
  intro tokens cursor b next heq
  cases heq
  exact h

theorem stopWith (stop : Stop) : Yields (stopWith stop) P := by
  intro tokens cursor a next heq
  cases heq

theorem mismatch : Yields mismatch P :=
  stopWith .mismatch

theorem mismatch_bind : Yields (Parser.mismatch >>= rest) Q :=
  bind (P := fun _ => False) mismatch fun _ h => h.elim

theorem ite {b : Prop} [Decidable b] (h : Yields parser P) (hother : Yields other P) :
    Yields (if b then parser else other) P := by
  split
  . exact h
  . exact hother

theorem attempt (h : Yields parser P) :
    Yields (attempt parser) fun found => ∀ a ∈ found, P a := by
  intro tokens cursor found next heq a ha
  unfold Parser.attempt at heq
  split at heq
  . next hparser =>
    cases heq
    cases ha
    exact h tokens cursor a next hparser
  . cases heq
    cases ha
  . cases heq

end Yields

/--
What is to be true of a step of a loop: something of the state to go on with, or of the result.
-/
def Progress.Keeps (I : σ → Prop) (P : β → Prop) : Progress σ β → Prop
  | .more state => I state
  | .done result => P result

theorem loop_yields {step : σ → Parser (Progress σ β)} (I : σ → Prop) {P : β → Prop}
    (hstep : ∀ state, I state → Yields (step state) (Progress.Keeps I P)) {state : σ}
    (h : I state) : Yields (loop step state) P := by
  have hbound (bound : Nat) : ∀ state, I state → Yields (loopAtMost step bound state) P := by
    induction bound with
    | zero =>
      intro _ _
      exact .stopWith .exhausted
    | succ bound ih =>
      intro state h
      refine (hstep state h).bind fun progress hprogress => ?_
      cases progress with
      | more state => exact ih state hprogress
      | done result => exact .pure hprogress
  intro tokens cursor
  exact hbound _ state h tokens cursor

variable {item : Parser α} {P : α → Prop}

theorem manyWhile_yields (goesOn : Token → Bool) (h : Yields item P) :
    Yields (manyWhile goesOn item) fun items => ∀ a ∈ items, P a := by
  refine loop_yields (fun found : List α => ∀ a ∈ found, P a) (fun found hfound => ?_) (by simp)
  refine .skip fun _ => .ite (h.bind fun a ha => .pure ?_) (.pure ?_)
  . exact List.forall_mem_cons.2 ⟨ha, hfound⟩
  . simpa [Progress.Keeps] using hfound

theorem commaList_yields (goesOn : Token → Bool) (h : Yields item P) :
    Yields (commaList goesOn item) fun items => ∀ a ∈ items, P a := by
  refine loop_yields (fun found : List α => ∀ a ∈ found, P a) (fun found hfound => ?_) (by simp)
  refine .skip fun _ => .ite (h.bind fun a ha => .skip fun _ => ?_) (.pure ?_)
  . have hall : ∀ b ∈ a :: found, P b := List.forall_mem_cons.2 ⟨ha, hfound⟩
    refine .ite (.pure hall) (.pure ?_)
    intro b hb
    exact hall b (List.mem_reverse.1 hb)
  . simpa [Progress.Keeps] using hfound

end

/-! ### What a parser ensures -/

/--
What a parser ensures at a cursor that is not beyond the last token: it has a result of some sort or
does not fit, and never stops for another reason, and the cursor goes neither back nor beyond the
last token and leaves no brace open on its way.
-/
def Ensures (tokens : Array Token) (parser : Parser α) (cursor : Nat) (Q : α → Nat → Prop) : Prop :=
  cursor ≤ last tokens →
    match parser tokens cursor with
    | .ok (a, next) =>
      cursor ≤ next ∧ next ≤ last tokens ∧ Enclosed tokens cursor next ∧ Q a next
    | .error stop => stop = .mismatch

/--
What an attempt at a parser ensures that began at a cursor: the parser's result, or nothing with the
cursor where it was.
-/
def Attempted (cursor : Nat) (Q : α → Nat → Prop) : Option α → Nat → Prop
  | some a, next => Q a next
  | none, next => next = cursor

/--
What some tokens from one index up to another are spelled like, without white space.
-/
def spelled (tokens : Array Token) (first stop : Nat) : String :=
  Text.dropBlanks <|
    match (tokens.extract first stop).toList with
    | [] => ""
    | token :: rest => token.text ++ String.join (rest.map fun t => t.trivia ++ t.text)

variable {tokens : Array Token} {cursor : Nat} {Q R : α → Nat → Prop} {S : β → Nat → Prop}
  {parser : Parser α} {rest : α → Parser β}

/-! ### What parsers of one step do -/

theorem bind_eq_of_eq_ok {a : α} {next : Nat} (h : parser tokens cursor = .ok (a, next)) :
    (parser >>= rest) tokens cursor = rest a tokens next := by
  simp only [Bind.bind, h]

section

variable [Lawful tokens]

theorem tokenNumber_eq {index : Nat} (h : index ≤ last tokens) :
    tokenNumber index tokens cursor = .ok (tokenAt tokens index, cursor) :=
  if_pos (Nat.lt_of_le_of_lt h last_lt_size)

theorem current_eq (h : cursor ≤ last tokens) :
    current tokens cursor = .ok (tokenAt tokens cursor, cursor) :=
  tokenNumber_eq h

theorem advance_eq (h : cursor < last tokens) :
    advance tokens cursor = .ok (tokenAt tokens cursor, cursor + 1) := by
  unfold advance
  rw [bind_eq_of_eq_ok (current_eq (Nat.le_of_lt h)), not_isEnd_of_lt_last h]
  rfl

theorem advance_last :
    advance tokens (last tokens) = .ok (tokenAt tokens (last tokens), last tokens) := by
  unfold advance
  rw [bind_eq_of_eq_ok (current_eq (Nat.le_refl _)),
    (Lawful.isEnd_iff (last tokens)).2 (Nat.le_refl _)]
  rfl

theorem accept_eq {text : String} (h : (tokenAt tokens cursor).isPunct [text] = true) :
    accept text tokens cursor = .ok (true, cursor + 1) := by
  have hlt := lt_last_of_isPunct h
  unfold accept
  rw [bind_eq_of_eq_ok (show atPunct [text] tokens cursor = .ok (true, cursor) from h ▸
    bind_eq_of_eq_ok (current_eq (Nat.le_of_lt hlt)))]
  exact bind_eq_of_eq_ok (advance_eq hlt)

theorem accept_eq_of_not (hcursor : cursor ≤ last tokens) {text : String}
    (h : (tokenAt tokens cursor).isPunct [text] = false) :
    accept text tokens cursor = .ok (false, cursor) := by
  unfold accept
  rw [bind_eq_of_eq_ok (show atPunct [text] tokens cursor = .ok (false, cursor) from h ▸
    bind_eq_of_eq_ok (current_eq hcursor))]
  rfl

theorem closing?_eq {index : Nat} (h : (tokenAt tokens index).isOpener = true) :
    closing? index tokens cursor = .ok (Token.matching? tokens index, cursor) := by
  have hlt := lt_last_of_not_isEnd (Token.not_isEnd_of_isOpener h)
  unfold closing?
  rw [bind_eq_of_eq_ok (tokenNumber_eq (Nat.le_of_lt hlt)), if_pos h]
  rfl

theorem skipGroup_eq (h : (tokenAt tokens cursor).isOpener = true) :
    skipGroup tokens cursor
      = .ok ((), ((Token.matching? tokens cursor).map (· + 1)).getD (last tokens)) := by
  unfold skipGroup
  rw [bind_eq_of_eq_ok (show here tokens cursor = .ok (cursor, cursor) from rfl),
    bind_eq_of_eq_ok (closing?_eq h)]
  cases Token.matching? tokens cursor with
  | none => rfl
  | some closer => rfl

theorem lastStop_eq (h : cursor ≤ last tokens) :
    lastStop tokens cursor
      = .ok (if cursor = 0 then 0 else stopAt tokens (cursor - 1), cursor) := by
  unfold lastStop
  rw [bind_eq_of_eq_ok (show here tokens cursor = .ok (cursor, cursor) from rfl)]
  split
  . rfl
  . rw [bind_eq_of_eq_ok (tokenNumber_eq (by omega))]
    rfl

end

namespace Ensures

theorem of_eq_ok (h : Ensures tokens parser cursor Q) (hcursor : cursor ≤ last tokens) {a : α}
    {next : Nat} (heq : parser tokens cursor = .ok (a, next)) :
    cursor ≤ next ∧ next ≤ last tokens ∧ Enclosed tokens cursor next ∧ Q a next := by
  have h := h hcursor
  rw [heq] at h
  exact h

theorem eq_mismatch (h : Ensures tokens parser cursor Q) (hcursor : cursor ≤ last tokens)
    {stop : Stop} (heq : parser tokens cursor = .error stop) : stop = .mismatch := by
  have h := h hcursor
  rw [heq] at h
  exact h

theorem mono (h : Ensures tokens parser cursor Q)
    (hmono : ∀ a next, cursor ≤ next → next ≤ last tokens → Q a next → R a next) :
    Ensures tokens parser cursor R := by
  intro hcursor
  split
  . next a next heq =>
    obtain ⟨hle, hlast, henclosed, ha⟩ := h.of_eq_ok hcursor heq
    exact ⟨hle, hlast, henclosed, hmono a next hle hlast ha⟩
  . next heq => exact h.eq_mismatch hcursor heq

/-- What is true of every result is ensured too. -/
theorem and_of_eq_ok (h : Ensures tokens parser cursor Q)
    (hok : ∀ a next, parser tokens cursor = .ok (a, next) → R a next) :
    Ensures tokens parser cursor fun a next => Q a next ∧ R a next := by
  intro hcursor
  split
  . next a next heq =>
    obtain ⟨hle, hlast, henclosed, ha⟩ := h.of_eq_ok hcursor heq
    exact ⟨hle, hlast, henclosed, ha, hok a next heq⟩
  . next heq => exact h.eq_mismatch hcursor heq

/-- A parser ensures what another one does that it goes on with from a later cursor. -/
theorem of_later {other : Parser α} {later : Nat}
    (heq : cursor ≤ last tokens → parser tokens cursor = other tokens later) (hle : cursor ≤ later)
    (hlater : cursor ≤ last tokens → later ≤ last tokens) (henclosed : Enclosed tokens cursor later)
    (h : Ensures tokens other later Q) : Ensures tokens parser cursor Q := by
  intro hcursor
  rw [heq hcursor]
  split
  . next heq =>
    obtain ⟨hle', hlast, henclosed', ha⟩ := h.of_eq_ok (hlater hcursor) heq
    exact ⟨Nat.le_trans hle hle', hlast, henclosed.trans henclosed' hle hle' hlast, ha⟩
  . next heq => exact h.eq_mismatch (hlater hcursor) heq

theorem bind (h : Ensures tokens parser cursor Q)
    (hrest : ∀ a next, cursor ≤ next → next ≤ last tokens → Q a next →
      Ensures tokens (rest a) next S) :
    Ensures tokens (parser >>= rest) cursor S := by
  intro hcursor
  have heq : (parser >>= rest) tokens cursor = match parser tokens cursor with
      | .ok (a, next) => rest a tokens next
      | .error stop => .error stop := rfl
  cases hparser : parser tokens cursor with
  | error stop =>
    rw [heq, hparser]
    exact h.eq_mismatch hcursor hparser
  | ok result =>
    obtain ⟨a, next⟩ := result
    obtain ⟨hle, hlast, henclosed, ha⟩ := h.of_eq_ok hcursor hparser
    rw [hparser] at heq
    exact of_later (fun _ => heq) hle (fun _ => hlast) henclosed (hrest a next hle hlast ha) hcursor

theorem pure {a : α} (hcursor : cursor ≤ last tokens) (h : Q a cursor) :
    Ensures tokens (pure a) cursor Q :=
  fun _ => ⟨Nat.le_refl _, hcursor, .refl _ _, h⟩

theorem pure_bind {a : α} (h : Ensures tokens (rest a) cursor S) :
    Ensures tokens (Pure.pure a >>= rest) cursor S :=
  h

theorem mismatch : Ensures tokens mismatch cursor Q :=
  fun _ => rfl

theorem mismatch_bind : Ensures tokens (Parser.mismatch >>= rest) cursor S :=
  fun _ => rfl

theorem ite {b : Prop} [Decidable b] {parser other : Parser α}
    (hpos : b → Ensures tokens parser cursor Q) (hneg : ¬ b → Ensures tokens other cursor Q) :
    Ensures tokens (if b then parser else other) cursor Q := by
  split
  . next h => exact hpos h
  . next h => exact hneg h

/-- A parser that only looks has the result that it sees. -/
theorem look {a : α} (heq : cursor ≤ last tokens → parser tokens cursor = .ok (a, cursor))
    (h : Ensures tokens (rest a) cursor S) : Ensures tokens (parser >>= rest) cursor S := by
  have hrest (hcursor : cursor ≤ last tokens) :
      (parser >>= rest) tokens cursor = rest a tokens cursor := bind_eq_of_eq_ok (heq hcursor)
  exact of_later hrest (Nat.le_refl _) id (.refl _ _) h

/-! ### Tokens at the cursor -/

theorem here {rest : Nat → Parser β} (h : Ensures tokens (rest cursor) cursor S) :
    Ensures tokens (Parser.here >>= rest) cursor S :=
  h

theorem peek {distance : Nat} {rest : Token → Parser β}
    (h : Ensures tokens (rest (tokenAt tokens (cursor + distance))) cursor S) :
    Ensures tokens (Parser.peek distance >>= rest) cursor S :=
  h

theorem spelling {first stop : Nat} {rest : String → Parser β}
    (h : Ensures tokens (rest (spelled tokens first stop)) cursor S) :
    Ensures tokens (Parser.spelling first stop >>= rest) cursor S :=
  h

variable [Lawful tokens]

theorem tokenNumber {index : Nat} {rest : Token → Parser β} (hindex : index ≤ last tokens)
    (h : Ensures tokens (rest (tokenAt tokens index)) cursor S) :
    Ensures tokens (Parser.tokenNumber index >>= rest) cursor S :=
  look (fun _ => tokenNumber_eq hindex) h

theorem current {rest : Token → Parser β}
    (h : Ensures tokens (rest (tokenAt tokens cursor)) cursor S) :
    Ensures tokens (Parser.current >>= rest) cursor S :=
  look current_eq h

theorem atPunct {texts : List String} {rest : Bool → Parser β}
    (h : Ensures tokens (rest ((tokenAt tokens cursor).isPunct texts)) cursor S) :
    Ensures tokens (Parser.atPunct texts >>= rest) cursor S :=
  look (fun hcursor => bind_eq_of_eq_ok (current_eq hcursor)) h

theorem atKeyword {texts : List String} {rest : Bool → Parser β}
    (h : Ensures tokens (rest ((tokenAt tokens cursor).isKeyword texts)) cursor S) :
    Ensures tokens (Parser.atKeyword texts >>= rest) cursor S :=
  look (fun hcursor => bind_eq_of_eq_ok (current_eq hcursor)) h

theorem atWord {texts : List String} {rest : Bool → Parser β}
    (h : Ensures tokens (rest ((tokenAt tokens cursor).isWord texts)) cursor S) :
    Ensures tokens (Parser.atWord texts >>= rest) cursor S :=
  look (fun hcursor => bind_eq_of_eq_ok (current_eq hcursor)) h

theorem closing? {index : Nat} {rest : Option Nat → Parser β}
    (hopener : (tokenAt tokens index).isOpener = true)
    (h : Ensures tokens (rest (Token.matching? tokens index)) cursor S) :
    Ensures tokens (Parser.closing? index >>= rest) cursor S :=
  look (fun _ => closing?_eq hopener) h

theorem lastStop {rest : Nat → Parser β}
    (h : Ensures tokens (rest (if cursor = 0 then 0 else stopAt tokens (cursor - 1))) cursor S) :
    Ensures tokens (Parser.lastStop >>= rest) cursor S :=
  look lastStop_eq h

/-! ### Moving the cursor -/

omit [Lawful tokens] in
theorem seek {target : Nat} {rest : Unit → Parser β} (hle : cursor ≤ target)
    (hlast : target ≤ last tokens) (henclosed : Enclosed tokens cursor target)
    (h : Ensures tokens (rest ()) target S) : Ensures tokens (Parser.seek target >>= rest) cursor S :=
  of_later (fun _ => (rfl : _ = rest () tokens target)) hle (fun _ => hlast) henclosed h

omit [Lawful tokens] in
theorem attempt (hcursor : cursor ≤ last tokens) (h : Ensures tokens parser cursor Q) :
    Ensures tokens (Parser.attempt parser) cursor (Attempted cursor Q) := by
  intro _
  unfold Parser.attempt
  cases hparser : parser tokens cursor with
  | ok result => exact h.of_eq_ok hcursor hparser
  | error stop =>
    rw [h.eq_mismatch hcursor hparser]
    exact ⟨Nat.le_refl _, hcursor, .refl _ _, rfl⟩

omit [Lawful tokens] in
theorem lookahead (hcursor : cursor ≤ last tokens)
    (h : Ensures tokens parser cursor fun a _ => Q a cursor) :
    Ensures tokens (Parser.lookahead parser) cursor Q := by
  intro _
  unfold Parser.lookahead
  cases hparser : parser tokens cursor with
  | ok result =>
    obtain ⟨_, _, _, ha⟩ := h.of_eq_ok hcursor hparser
    exact ⟨Nat.le_refl _, hcursor, .refl _ _, ha⟩
  | error stop => exact h.eq_mismatch hcursor hparser

theorem advance_of_enclosed {rest : Token → Parser β} (hcursor : cursor < last tokens)
    (henclosed : Enclosed tokens cursor (cursor + 1))
    (h : Ensures tokens (rest (tokenAt tokens cursor)) (cursor + 1) S) :
    Ensures tokens (Parser.advance >>= rest) cursor S :=
  of_later (fun _ => bind_eq_of_eq_ok (advance_eq hcursor)) (Nat.le_succ _) (fun _ => hcursor)
    henclosed h

theorem advance {rest : Token → Parser β} (hcursor : Single tokens cursor)
    (h : Ensures tokens (rest (tokenAt tokens cursor)) (cursor + 1) S) :
    Ensures tokens (Parser.advance >>= rest) cursor S :=
  advance_of_enclosed hcursor.lt (.step hcursor.not_brace) h

/-- The end of the text is never taken, so that the cursor may stay where it is. -/
theorem advance_or_stay (hcursor : cursor ≤ last tokens)
    (henclosed : Enclosed tokens cursor (cursor + 1)) :
    Ensures tokens Parser.advance cursor fun _ next =>
      (cursor < last tokens ∧ next = cursor + 1) ∨ (cursor = last tokens ∧ next = cursor) := by
  intro _
  by_cases h : cursor < last tokens
  . rw [advance_eq h]
    exact ⟨Nat.le_succ _, h, henclosed, .inl ⟨h, rfl⟩⟩
  . have heq : cursor = last tokens := by omega
    rw [heq, advance_last]
    exact ⟨Nat.le_refl _, Nat.le_refl _, .refl _ _, .inr ⟨rfl, rfl⟩⟩

theorem accept (hcursor : cursor ≤ last tokens) (text : String) (htext : text ≠ "\x7b") :
    Ensures tokens (Parser.accept text) cursor fun found next =>
      (found = true ∧ cursor < last tokens ∧ next = cursor + 1) ∨
        (found = false ∧ next = cursor) := by
  unfold Parser.accept
  apply atPunct
  apply ite
  . intro h
    have hsingle := Single.of_isPunct (by simpa using htext) h
    apply advance hsingle
    exact .pure hsingle.lt (.inl ⟨rfl, hsingle.lt, rfl⟩)
  . intro _
    apply pure
    . exact hcursor
    . exact .inr ⟨rfl, rfl⟩

theorem expect (hcursor : cursor ≤ last tokens) (text : String) (htext : text ≠ "\x7b") :
    Ensures tokens (Parser.expect text) cursor fun found next =>
      ((tokenAt tokens cursor).isPunct [text] = true ∧ found = some (tokenAt tokens cursor) ∧
          cursor < last tokens ∧ next = cursor + 1) ∨
        (found = none ∧ cursor = last tokens ∧ next = cursor) := by
  unfold Parser.expect
  apply current
  apply ite
  . intro h
    have hsingle := Single.of_isPunct (by simpa using htext) h
    apply advance hsingle
    exact .pure hsingle.lt (.inl ⟨h, rfl, hsingle.lt, rfl⟩)
  . intro _
    apply ite
    . intro h
      rw [Bool.and_eq_true, Lawful.isEnd_iff] at h
      apply pure
      . exact hcursor
      . exact .inr ⟨rfl, Nat.le_antisymm hcursor h.1, rfl⟩
    . intro _
      apply mismatch

theorem take {parser : Parser Token} {rest : Token → Parser β} {b : Prop} [Decidable b]
    (heq : cursor ≤ last tokens → parser tokens cursor
      = (if b then Parser.advance else Parser.mismatch) tokens cursor)
    (hb : b → Single tokens cursor)
    (h : b → cursor < last tokens →
      Ensures tokens (rest (tokenAt tokens cursor)) (cursor + 1) S) :
    Ensures tokens (parser >>= rest) cursor S := by
  have heq : cursor ≤ last tokens → (parser >>= rest) tokens cursor
      = ((if b then Parser.advance else Parser.mismatch) >>= rest) tokens cursor := by
    intro hcursor
    simp only [Bind.bind, heq hcursor]
  apply of_later heq (Nat.le_refl _) id (.refl _ _)
  split
  . next hpos =>
    apply advance (hb hpos)
    exact h hpos (hb hpos).lt
  . apply mismatch_bind

theorem require {texts : List String} {rest : Token → Parser β}
    (htexts : ∀ text ∈ texts, text ≠ "\x7b")
    (h : (tokenAt tokens cursor).isPunct texts = true → cursor < last tokens →
      Ensures tokens (rest (tokenAt tokens cursor)) (cursor + 1) S) :
    Ensures tokens (Parser.require texts >>= rest) cursor S :=
  take (b := (tokenAt tokens cursor).isPunct texts = true)
    (fun hcursor => bind_eq_of_eq_ok (bind_eq_of_eq_ok (current_eq hcursor)))
    (Single.of_isPunct htexts) h

theorem requireKeyword {texts : List String} {rest : Token → Parser β}
    (h : (tokenAt tokens cursor).isKeyword texts = true → cursor < last tokens →
      Ensures tokens (rest (tokenAt tokens cursor)) (cursor + 1) S) :
    Ensures tokens (Parser.requireKeyword texts >>= rest) cursor S :=
  take (b := (tokenAt tokens cursor).isKeyword texts = true)
    (fun hcursor => bind_eq_of_eq_ok (bind_eq_of_eq_ok (current_eq hcursor))) Single.of_isKeyword h

theorem identifier {rest : Token → Parser β}
    (h : (tokenAt tokens cursor).isIdentifier = true → cursor < last tokens →
      Ensures tokens (rest (tokenAt tokens cursor)) (cursor + 1) S) :
    Ensures tokens (Parser.identifier >>= rest) cursor S :=
  take (b := (tokenAt tokens cursor).isIdentifier = true)
    (fun hcursor => bind_eq_of_eq_ok (current_eq hcursor)) Single.of_isIdentifier h

theorem skipGroup (hopener : (tokenAt tokens cursor).isOpener = true) :
    Ensures tokens Parser.skipGroup cursor fun _ next => cursor < next := by
  have hlt := lt_last_of_not_isEnd (Token.not_isEnd_of_isOpener hopener)
  intro _
  rw [skipGroup_eq hopener]
  cases hmatching : Token.matching? tokens cursor with
  | none => exact ⟨Nat.le_of_lt hlt, Nat.le_refl _, .of_eq_last rfl, hlt⟩
  | some closer =>
    obtain ⟨hlt, hle⟩ := matching?_bounds hmatching
    exact ⟨Nat.le_succ_of_le (Nat.le_of_lt hlt), hle, .group hmatching, Nat.lt_succ_of_lt hlt⟩

/-- What stands between braces is read together with them. -/
theorem braces {items : Parser α} {rest : α → Parser β} {parser : Parser β}
    (hopener : (tokenAt tokens cursor).isPunct ["\x7b"] = true)
    (heq : cursor ≤ last tokens → parser tokens cursor
      = (items >>= fun a => Parser.expect "\x7d" >>= fun _ => rest a) tokens (cursor + 1))
    (hitems : Ensures tokens items (cursor + 1) Q)
    (hrest : ∀ a middle next, cursor < middle → middle ≤ next → next ≤ last tokens → Q a middle →
      ((tokenAt tokens middle).isPunct ["\x7d"] = true ∧ next = middle + 1) ∨
        (middle = last tokens ∧ next = middle) → Ensures tokens (rest a) next S) :
    Ensures tokens parser cursor S := by
  have hlt := lt_last_of_isPunct hopener
  intro hcursor
  cases hparser : items tokens (cursor + 1) with
  | error stop =>
    rw [heq hcursor]
    simp only [Bind.bind, hparser]
    exact hitems.eq_mismatch hlt hparser
  | ok result =>
    obtain ⟨a, middle⟩ := result
    obtain ⟨hle, hlast, henclosed, ha⟩ := hitems.of_eq_ok hlt hparser
    have hexpect := expect hlast "\x7d" (by simp)
    cases hcloser : Parser.expect "\x7d" tokens middle with
    | error stop =>
      rw [heq hcursor, bind_eq_of_eq_ok hparser]
      simp only [Bind.bind, hcloser]
      exact hexpect.eq_mismatch hlast hcloser
    | ok result =>
      obtain ⟨found, next⟩ := result
      obtain ⟨hnext, hlast', _, hfound⟩ := hexpect.of_eq_ok hlast hcloser
      have hend : ((tokenAt tokens middle).isPunct ["\x7d"] = true ∧ next = middle + 1) ∨
          (middle = last tokens ∧ next = middle) := by
        obtain ⟨h, _, _, heq⟩ | ⟨_, h⟩ := hfound
        . exact .inl ⟨h, heq⟩
        . exact .inr h
      -- the closing brace makes up for the one in front, or the text ends
      have henclosed : Enclosed tokens cursor next := by
        obtain ⟨hbrace, rfl⟩ | ⟨rfl, rfl⟩ := hend
        . exact .braces hopener henclosed hbrace (by omega)
        . exact .of_eq_last rfl
      have hparser : parser tokens cursor = rest a tokens next := by
        rw [heq hcursor, bind_eq_of_eq_ok hparser, bind_eq_of_eq_ok hcloser]
      exact of_later (fun _ => hparser) (by omega) (fun _ => hlast') henclosed
        (hrest a middle next hle hnext hlast' ha hend) hcursor

/-- What stands behind a brace that is asked for is read together with the brace that closes it. -/
theorem require_braces {items : Parser α} {rest : α → Parser β}
    (hitems : (tokenAt tokens cursor).isPunct ["\x7b"] = true → cursor < last tokens →
      Ensures tokens items (cursor + 1) Q)
    (hrest : (tokenAt tokens cursor).isPunct ["\x7b"] = true → ∀ a middle next, cursor < middle →
      middle ≤ next → next ≤ last tokens → Q a middle →
      ((tokenAt tokens middle).isPunct ["\x7d"] = true ∧ next = middle + 1) ∨
        (middle = last tokens ∧ next = middle) → Ensures tokens (rest a) next S) :
    Ensures tokens (Parser.require ["\x7b"] >>= fun _ => items >>= fun a =>
      Parser.expect "\x7d" >>= fun _ => rest a) cursor S := by
  by_cases hopener : (tokenAt tokens cursor).isPunct ["\x7b"] = true
  . have hlt := lt_last_of_isPunct hopener
    apply braces hopener _ (hitems hopener hlt) (hrest hopener)
    intro hcursor
    have heq : Parser.require ["\x7b"] tokens cursor
        = (if (tokenAt tokens cursor).isPunct ["\x7b"] then Parser.advance else Parser.mismatch)
            tokens cursor := bind_eq_of_eq_ok (bind_eq_of_eq_ok (current_eq hcursor))
    rw [if_pos hopener, advance_eq hlt] at heq
    exact bind_eq_of_eq_ok heq
  . intro hcursor
    have heq : Parser.require ["\x7b"] tokens cursor
        = (if (tokenAt tokens cursor).isPunct ["\x7b"] then Parser.advance else Parser.mismatch)
            tokens cursor := bind_eq_of_eq_ok (bind_eq_of_eq_ok (current_eq hcursor))
    rw [if_neg hopener] at heq
    simp only [Bind.bind, heq]
    rfl

end Ensures

/-! ### Loops -/

/--
What a step of a loop ensures that begins at a cursor: one more step follows behind it with the
invariant, or the loop ends with its result.
-/
def Progress.Holds (cursor : Nat) (I : σ → Nat → Prop) (S : β → Nat → Prop) :
    Progress σ β → Nat → Prop
  | .more state, next => cursor < next ∧ I state next
  | .done result, next => S result next

theorem loopAtMost_ensures {step : σ → Parser (Progress σ β)} {I : σ → Nat → Prop} {lo : Nat}
    (hstep : ∀ state index, lo ≤ index → index ≤ last tokens → I state index →
      Ensures tokens (step state) index (Progress.Holds index I S))
    {bound : Nat} {state : σ} (hcursor : cursor ≤ last tokens) (hlo : lo ≤ cursor)
    (hbound : last tokens < cursor + bound) (h : I state cursor) :
    Ensures tokens (loopAtMost step bound state) cursor S := by
  induction bound generalizing state cursor with
  | zero => omega
  | succ bound ih =>
    unfold loopAtMost
    apply (hstep state cursor hlo hcursor h).bind
    intro progress next hle hlast hprogress
    cases progress with
    | more state =>
      apply ih
      . exact hlast
      . omega
      . have := hprogress.1
        omega
      . exact hprogress.2
    | done result => exact .pure hlast hprogress

/-- The invariant of a loop holds in front of every step, and every step but the last takes a
token. -/
theorem loop_ensures {step : σ → Parser (Progress σ β)} {state : σ} (I : σ → Nat → Prop)
    (hcursor : cursor ≤ last tokens) (h : I state cursor)
    (hstep : ∀ state next, cursor ≤ next → next ≤ last tokens → I state next →
      Ensures tokens (step state) next (Progress.Holds next I S)) :
    Ensures tokens (loop step state) cursor S := by
  apply loopAtMost_ensures hstep hcursor (Nat.le_refl _) _ h
  unfold last at *
  omega

/--
Things that stand behind each other, from one index up to another.
-/
def Chain (P : Nat → Nat → α → Prop) (first stop : Nat) : List α → Prop
  | [] => first = stop
  | a :: rest => ∃ middle, P first middle a ∧ Chain P middle stop rest

theorem Chain.append {P : Nat → Nat → α → Prop} {first middle stop : Nat} {front back : List α}
    (hfront : Chain P first middle front) (hback : Chain P middle stop back) :
    Chain P first stop (front ++ back) := by
  induction front generalizing first with
  | nil =>
    cases hfront
    exact hback
  | cons a front ih =>
    obtain ⟨next, ha, hfront⟩ := hfront
    exact ⟨next, ha, ih hfront⟩

theorem Chain.mono {P P' : Nat → Nat → α → Prop} {first stop : Nat} {items : List α}
    (h : Chain P first stop items)
    (hmono : ∀ first stop item, P first stop item → P' first stop item) :
    Chain P' first stop items := by
  induction items generalizing first with
  | nil => exact h
  | cons a items ih =>
    obtain ⟨next, ha, h⟩ := h
    exact ⟨next, hmono _ _ _ ha, ih h⟩

theorem Chain.le {P : Nat → Nat → α → Prop} {first stop : Nat} {items : List α}
    (h : Chain P first stop items) (hle : ∀ first stop item, P first stop item → first ≤ stop) :
    first ≤ stop := by
  induction items generalizing first with
  | nil => exact Nat.le_of_eq h
  | cons a items ih =>
    obtain ⟨next, ha, h⟩ := h
    exact Nat.le_trans (hle _ _ _ ha) (ih h)

theorem Chain.of_mem {P : Nat → Nat → α → Prop} {first stop : Nat} {items : List α}
    (h : Chain P first stop items) (hle : ∀ first stop item, P first stop item → first ≤ stop)
    {item : α} (hmem : item ∈ items) :
    ∃ front back, first ≤ front ∧ back ≤ stop ∧ P front back item := by
  induction items generalizing first with
  | nil => simp at hmem
  | cons a items ih =>
    obtain ⟨next, ha, h⟩ := h
    rw [List.mem_cons] at hmem
    cases hmem with
    | inl heq =>
      rw [heq]
      exact ⟨first, next, Nat.le_refl _, h.le hle, ha⟩
    | inr hmem =>
      obtain ⟨front, back, hfront, hback, hitem⟩ := ih h hmem
      exact ⟨front, back, Nat.le_trans (hle _ _ _ ha) hfront, hback, hitem⟩

theorem Chain.exists_at {P : Nat → Nat → α → Prop} {first stop index : Nat} {items : List α}
    (h : Chain P first stop items) (hle : ∀ first stop item, P first stop item → first ≤ stop)
    (hfirst : first ≤ index) (hstop : index < stop) :
    ∃ item ∈ items, ∃ front back, front ≤ index ∧ index < back ∧ back ≤ stop ∧
      P front back item := by
  induction items generalizing first with
  | nil =>
    cases h
    omega
  | cons a items ih =>
    obtain ⟨next, ha, h⟩ := h
    by_cases hnext : index < next
    . exact ⟨a, List.mem_cons_self, first, next, hfirst, hnext, h.le hle, ha⟩
    . obtain ⟨item, hmem, hitem⟩ := ih h (by omega)
      exact ⟨item, List.mem_cons_of_mem _ hmem, hitem⟩

/--
What `manyWhile` repeats.
-/
def takeItem (goesOn : Token → Bool) (item : Parser α) (found : List α) :
    Parser (Progress (List α) (List α)) := do
  if goesOn (← current) then
    return .more ((← item) :: found)
  else return .done found.reverse

theorem takeItem_ensures [Lawful tokens] {goesOn : Token → Bool} {item : Parser α} {found : List α}
    {I S : List α → Nat → Prop} (hcursor : cursor ≤ last tokens)
    (hitem : goesOn (tokenAt tokens cursor) = true →
      Ensures tokens item cursor fun a next => cursor < next ∧ I (a :: found) next)
    (hdone : goesOn (tokenAt tokens cursor) = false → S found.reverse cursor) :
    Ensures tokens (takeItem goesOn item found) cursor (Progress.Holds cursor I S) := by
  apply Ensures.current
  apply Ensures.ite
  . intro hgoesOn
    apply (hitem hgoesOn).bind
    intro a next _ hnext ha
    exact .pure hnext ha
  . intro hgoesOn
    exact .pure hcursor (hdone (by simpa using hgoesOn))

theorem manyWhile_eq (goesOn : Token → Bool) (item : Parser α) :
    manyWhile goesOn item = loop (takeItem goesOn item) [] :=
  rfl

theorem manyWhile_ensures [Lawful tokens] {goesOn : Token → Bool} {item : Parser α}
    (P : Nat → Nat → α → Prop) (hcursor : cursor ≤ last tokens)
    (hitem : ∀ first, cursor ≤ first → first ≤ last tokens →
      goesOn (tokenAt tokens first) = true →
      Ensures tokens item first fun a next => first < next ∧ P first next a) :
    Ensures tokens (manyWhile goesOn item) cursor fun items next =>
      Chain P cursor next items ∧ goesOn (tokenAt tokens next) = false := by
  rw [manyWhile_eq]
  apply loop_ensures (fun found next => Chain P cursor next found.reverse) hcursor
  . exact (rfl : cursor = cursor)
  intro found first hle hlast hfound
  apply takeItem_ensures hlast
  . intro hgoesOn
    apply (hitem first hle hlast hgoesOn).mono
    intro a next _ _ ha
    refine ⟨ha.1, ?_⟩
    rw [List.reverse_cons]
    exact hfound.append ⟨next, ha.2, rfl⟩
  . intro hgoesOn
    exact ⟨hfound, hgoesOn⟩

/--
What `commaList` repeats.
-/
def takeListed (goesOn : Token → Bool) (item : Parser α) (found : List α) :
    Parser (Progress (List α) (List α)) := do
  if goesOn (← current) then
    let found := (← item) :: found
    if ← accept "," then return .more found else return .done found.reverse
  else return .done found.reverse

theorem takeListed_ensures [Lawful tokens] {goesOn : Token → Bool} {item : Parser α}
    {found : List α} {I S : List α → Nat → Prop} (hcursor : cursor ≤ last tokens)
    (hitem : goesOn (tokenAt tokens cursor) = true → Ensures tokens item cursor fun a next =>
      cursor < next ∧ I (a :: found) (next + 1) ∧ S (a :: found).reverse next)
    (hdone : goesOn (tokenAt tokens cursor) = false → S found.reverse cursor) :
    Ensures tokens (takeListed goesOn item found) cursor (Progress.Holds cursor I S) := by
  apply Ensures.current
  apply Ensures.ite
  . intro hgoesOn
    apply (hitem hgoesOn).bind
    rintro a next _ hnext ⟨hlt, hmore, hdone⟩
    apply (Ensures.accept hnext "," (by simp)).bind
    rintro _ _ hle hlast (⟨rfl, _, rfl⟩ | ⟨rfl, rfl⟩)
    . exact .pure hlast ⟨by omega, hmore⟩
    . exact .pure hlast hdone
  . intro hgoesOn
    exact .pure hcursor (hdone (by simpa using hgoesOn))

theorem commaList_eq (goesOn : Token → Bool) (item : Parser α) :
    commaList goesOn item = loop (takeListed goesOn item) [] :=
  rfl

theorem skipWhile_ensures [Lawful tokens] {passes opensGroup : Token → Bool}
    (hcursor : cursor ≤ last tokens)
    (hopens : ∀ token : Token, opensGroup token = true → token.isOpener = true)
    (hbraces : ∀ token : Token, token.isPunct ["\x7b"] = true → passes token = true →
      opensGroup token = true) :
    Ensures tokens (skipWhile passes opensGroup) cursor fun _ _ => True := by
  apply loop_ensures (fun _ _ => True) hcursor trivial
  intro _ first _ hlast _
  apply Ensures.current
  apply Ensures.ite
  . intro _
    exact .pure hlast trivial
  . intro hnot
    rw [Bool.or_eq_true, not_or, Bool.not_eq_true', Bool.not_eq_false] at hnot
    have hlt := lt_last_of_not_isEnd hnot.1
    apply Ensures.ite
    . intro hgroup
      apply (Ensures.skipGroup (hopens _ hgroup)).bind
      intro _ next _ hnext hlt
      exact .pure hnext ⟨hlt, trivial⟩
    . intro hgroup
      have hbrace : (tokenAt tokens first).isPunct ["\x7b"] = false := by
        rw [Bool.eq_false_iff]
        intro hbrace
        exact hgroup (hbraces _ hbrace hnot.2)
      apply Ensures.advance ⟨hlt, hbrace⟩
      exact .pure hlt ⟨Nat.lt_succ_self _, trivial⟩

end ThreadLint.Parser
