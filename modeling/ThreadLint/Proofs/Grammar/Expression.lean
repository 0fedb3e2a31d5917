import ThreadLint.Grammar.Expression
import ThreadLint.Proofs.Grammar.Lambda

/-!
This module contains what the parsers for expressions ensure: every expression is made of tokens
behind the cursor that it is read at.
-/

namespace ThreadLint.Parser

variable {tokens : Array Token} [Lawful tokens] {cursor : Nat} {g : Grammar}

/-! ### Primary expressions -/

theorem typeLiteral_ensures {kind : LiteralKind} (hbegins : Begins (tokenAt tokens cursor) = true)
    (hcursor : Single tokens cursor) :
    Ensures tokens (typeLiteral kind) cursor fun node next => Valued tokens cursor next node := by
  have hlt := hcursor.lt
  unfold typeLiteral
  apply Ensures.here
  apply Ensures.advance hcursor
  apply Ensures.atPunct
  apply Ensures.ite
  . intro hopener
    apply Ensures.here
    apply Ensures.closing? (Token.isOpener_of_isPunct (by decide) hopener)
    split
    . apply Ensures.mismatch
    . next closer hclosing =>
      have := matching?_bounds hclosing
      apply Ensures.bind (Q := fun _ next => next = cursor + 1)
      . exact fun _ => ⟨Nat.le_refl _, hlt, .refl _ _, rfl⟩
      . rintro value _ _ _ rfl
        apply Ensures.seek
        . omega
        . omega
        . exact .group hclosing
        . exact node_valued trivial ⟨hbegins, by omega⟩ (laid_nil (Nat.le_refl cursor)) (by omega)
  . intro _
    apply Ensures.mismatch

theorem skipParentheses_ensures (hcursor : cursor ≤ last tokens) :
    Ensures tokens skipParentheses cursor fun _ _ => True := by
  unfold skipParentheses
  apply Ensures.atPunct
  apply Ensures.ite
  . intro h
    apply (Ensures.skipGroup (Token.isOpener_of_isPunct (by decide) h)).mono
    intros
    trivial
  . intro _
    exact .pure hcursor trivial

theorem objectCreation_ensures (hg : g.Sound tokens (cursor + 1))
    (hbegins : Begins (tokenAt tokens cursor) = true) (hcursor : Single tokens cursor) :
    Ensures tokens (objectCreation g) cursor fun node next => Valued tokens cursor next node := by
  have hlt := hcursor.lt
  unfold objectCreation
  apply Ensures.here
  apply Ensures.advance hcursor
  apply Ensures.atPunct
  extract_lets -underBinder tail
  have htail : ∀ typeName arguments next, cursor < next → next ≤ last tokens →
      Laid tokens cursor next arguments →
      Ensures tokens (tail (typeName, arguments)) next fun node stop =>
        Valued tokens cursor stop node := by
    intro typeName arguments next hnext hlast harguments
    apply Ensures.atPunct
    extract_lets -underBinder behind
    have hbehind : ∀ items stop, next ≤ stop → stop ≤ last tokens → Laid tokens next stop items →
        Ensures tokens (behind items) stop fun node stop => Valued tokens cursor stop node := by
      intro items stop hle hlast hitems
      exact node_valued trivial hbegins (harguments.append hitems (by omega)) (by omega)
    clear_value behind
    apply Ensures.ite
    . intro h
      apply (contents_ensures (hg.mono (by omega)) h).bind
      intro items stop hle hlast hitems
      exact hbehind items stop hle hlast (hitems.2.mono (by omega))
    . intro _
      exact hbehind [] next (Nat.le_refl _) hlast (laid_nil (by omega))
  clear_value tail
  apply Ensures.ite
  . intro h
    apply (argumentList_ensures (hg.mono (by omega)) (.of_isPunct (by simp) h) (by simp)).bind
    intro result next _ hlast hresult
    have := hresult.1
    exact htail none result.1 next (by omega) hlast (hresult.2.1.mono (by omega))
  . intro _
    apply Ensures.atPunct
    apply Ensures.ite
    . intro h
      apply (Ensures.skipGroup (Token.isOpener_of_isPunct (by decide) h)).bind
      intro _ next _ hlast _
      exact htail none [] next (by omega) hlast (laid_nil (by omega))
    . intro _
      apply Ensures.atPunct
      apply Ensures.ite
      . intro _
        exact htail none [] _ (Nat.lt_succ_self _) hlt (laid_nil (by omega))
      . intro _
        apply (typeUse_ensures hlt).bind
        intro type first hfirst hlast _
        apply Ensures.atPunct
        extract_lets -underBinder made
        have hmade : ∀ arguments next, first ≤ next → next ≤ last tokens →
            Laid tokens first next arguments →
            Ensures tokens (made arguments) next fun node stop => Valued tokens cursor stop node := by
          intro arguments next hnext hlast harguments
          exact htail (some type.text) arguments next (by omega) hlast (harguments.mono (by omega))
        clear_value made
        apply Ensures.ite
        . intro h
          apply (argumentList_ensures (hg.mono (by omega)) (.of_isPunct (by simp) h) (by simp)).bind
          rintro ⟨sizes, closer⟩ next _ hlast hresult
          apply Ensures.bind (manyWhile_ensures (fun _ _ _ => True) hlast _)
          . intro _ stop hstop hlast _
            exact hmade sizes stop (by omega) hlast (hresult.2.1.mono (by omega))
          . intro index _ _ hpunct
            apply (Ensures.skipGroup (Token.isOpener_of_isPunct (by decide) hpunct)).mono
            intro _ _ _ _ hlt
            exact ⟨hlt, trivial⟩
        . intro _
          apply Ensures.atPunct
          apply Ensures.ite
          . intro h
            apply (argumentList_ensures (hg.mono (by omega)) (.of_isPunct (by simp) h) (by simp)).bind
            intro result next hnext hlast hresult
            exact hmade result.1 next hnext hlast (hresult.2.1.mono (by omega))
          . intro _
            exact hmade [] first (Nat.le_refl _) hlast (laid_nil (by omega))

theorem condition_ensures (hg : g.Sound tokens (cursor + 1)) :
    Ensures tokens (condition g) cursor fun node next => Inside tokens (cursor + 1) next node := by
  unfold condition
  apply Ensures.require (by simp)
  intro _ hlt
  apply (hg.expression _ (Nat.le_refl _) hlt).bind
  intro expression next _ hlast hexpression
  apply (Ensures.expect hlast ")" (by simp)).bind
  intro _ stop _ hlast _
  exact .pure hlast (hexpression.mono (by omega))

theorem literal_ensures {kind : LiteralKind} (hbegins : Begins (tokenAt tokens cursor) = true)
    (hcursor : Single tokens cursor) :
    Ensures tokens (literal kind) cursor fun node next => Valued tokens cursor next node := by
  have hlt := hcursor.lt
  unfold literal
  apply Ensures.here
  apply Ensures.advance hcursor
  exact node_valued trivial ⟨hbegins, fun _ => rfl⟩ (laid_nil (Nat.le_refl cursor)) (by omega)

theorem group_ensures (hg : g.Sound tokens (cursor + 1)) :
    Ensures tokens (group g) cursor fun node next => Valued tokens cursor next node ∧
      ((tokenAt tokens cursor).isPunct ["("] = true ∨
        (tokenAt tokens cursor).isPunct ["["] = true) := by
  have hmade : ∀ {role : ParenRole} {items : List Node} {next : Nat},
      ((tokenAt tokens cursor).isPunct ["("] = true ∨
        (tokenAt tokens cursor).isPunct ["["] = true) →
      Laid tokens (cursor + 1) next items → cursor < next → next ≤ last tokens →
      Ensures tokens (node (.paren role) cursor items) next fun node stop =>
        Valued tokens cursor stop node ∧ ((tokenAt tokens cursor).isPunct ["("] = true ∨
          (tokenAt tokens cursor).isPunct ["["] = true) := by
    intro role items next hopener hitems hlt hlast
    have hbegins : Begins (tokenAt tokens cursor) = true := by
      cases hopener with
      | inl h => exact begins_of_isPunct (by simp) h
      | inr h => exact begins_of_isPunct (by simp) h
    have hfits : Fits tokens cursor next items (.paren role) :=
      ⟨hbegins, hitems.clear_token_of_lt (Nat.lt_succ_self _) hlast⟩
    have hvalued : Ensures tokens (node (.paren role) cursor items) next fun node stop =>
        Valued tokens cursor stop node := node_valued trivial hfits hitems (by omega)
    apply hvalued.mono
    intro node stop _ _ hnode
    exact ⟨hnode, hopener⟩
  unfold group
  apply Ensures.here
  apply Ensures.atPunct
  apply Ensures.ite
  . intro h
    apply (argumentList_ensures hg (.of_isPunct (by simp) h) (by simp)).bind
    rintro ⟨items, closer⟩ next _ hlast ⟨hlt, hitems, _⟩
    dsimp only
    split
    . apply Ensures.mismatch
    . exact hmade (.inl h) hitems hlt hlast
    . exact hmade (.inl h) hitems hlt hlast
  . intro _
    apply Ensures.atPunct
    apply Ensures.ite
    . intro h
      apply (argumentList_ensures hg (.of_isPunct (by simp) h) (by simp)).bind
      rintro ⟨items, closer⟩ next _ hlast ⟨hlt, hitems, _⟩
      exact hmade (.inr h) hitems hlt hlast
    . intro _
      apply Ensures.mismatch

omit [Lawful tokens] in
/-- The keywords that names begin with are words. -/
theorem isWord_of_beginsName {token : Token} (h : BeginsName token = true)
    (hidentifier : ¬token.isIdentifier = true) : Token.IsWord token.text := by
  have hwords : ∀ text ∈ ["this", "base"] ++ predefinedTypes,
      text.toList.head?.any Token.startsWord = true ∧
        text.toList.all Token.continuesWord = true := by
    decide
  have hmem : token.text ∈ ["this", "base"] ++ predefinedTypes := by
    unfold BeginsName isPredefinedType Token.isKeyword at h
    rw [Bool.or_eq_true, Bool.or_eq_true] at h
    have hkeyword := h.resolve_right hidentifier
    rw [Bool.and_eq_true, Bool.and_eq_true, List.contains_iff_mem, List.contains_iff_mem] at hkeyword
    rw [List.mem_append]
    exact hkeyword.imp (·.2) (·.2)
  obtain ⟨hstarts, hcontinues⟩ := hwords _ hmem
  cases hchars : token.text.toList with
  | nil =>
    rw [hchars] at hstarts
    cases hstarts
  | cons c rest =>
    rw [hchars, List.head?_cons, Option.any_some] at hstarts
    rw [hchars, List.all_cons, Bool.and_eq_true, List.all_eq_true] at hcontinues
    exact ⟨c, rest, hchars, hstarts, hcontinues.2⟩

/-- Behind a name of one token stands what the name is part of, unless type arguments do. -/
theorem nameExpression_ensures (hname : BeginsName (tokenAt tokens cursor) = true)
    (hbegins : Begins (tokenAt tokens cursor) = true) (hcursor : Single tokens cursor) :
    Ensures tokens nameExpression cursor fun node next => Valued tokens cursor next node ∧
      (next = cursor + 1 ∨ (tokenAt tokens (cursor + 1)).isPunct ["<"] = true) := by
  have hlt := hcursor.lt
  have hmade : ∀ (typeArguments : Option (List String)) {name : String} {next : Nat},
      cursor < next → next ≤ last tokens → name = (tokenAt tokens cursor).identifierName →
      Ensures tokens (node (.identifier name (.name typeArguments)) cursor []) next fun node stop =>
        stop = next ∧ Valued tokens cursor stop node := by
    intro typeArguments name next hnext hlast hspelled
    have hfits : Fits tokens cursor next [] (.identifier name (.name typeArguments)) :=
      ⟨hbegins, rfl, hspelled, hname⟩
    have hvalue : ∀ made stop, node (.identifier name (.name typeArguments)) cursor [] tokens next
        = .ok (made, stop) → IsValue made.form := by
      intro made stop heq
      rw [node_yields_form _ _ _ _ _ _ _ heq]
      trivial
    apply ((node_ensures hfits (laid_nil (Nat.le_refl cursor)) (by omega)).and_of_eq_ok hvalue).mono
    rintro made _ _ _ ⟨⟨rfl, hwhole⟩, hisValue⟩
    exact ⟨rfl, hwhole.inside, hisValue⟩
  unfold nameExpression
  apply Ensures.here
  apply Ensures.advance hcursor
  apply Ensures.ite
  . intro _
    apply (typeArguments?_ensures hlt).bind
    intro typeArguments next hle hlast hnext
    apply (hmade typeArguments hle hlast rfl).mono
    rintro node _ _ _ ⟨rfl, hnode⟩
    exact ⟨hnode, hnext⟩
  . intro hidentifier
    apply (hmade none (Nat.lt_succ_self _) hlt
      (Token.identifierName_of_isWord (isWord_of_beginsName hname hidentifier)).symm).mono
    rintro node _ _ _ ⟨rfl, hnode⟩
    exact ⟨hnode, .inl rfl⟩

theorem single_of_literalKind? {index : Nat} {kind : LiteralKind}
    (h : literalKind? (tokenAt tokens index) = some kind) : Single tokens index := by
  apply Single.of_kind
  . intro hpunct
    simp [literalKind?, hpunct] at h
  . intro hend
    simp [literalKind?, hend] at h

omit [Lawful tokens] in
theorem begins_of_literalKind? {token : Token} {kind : LiteralKind}
    (h : literalKind? token = some kind) : Begins token = true := by
  unfold literalKind? at h
  split at h
  . next hkind => simp [Begins, beginsOperand, Token.isLiteral, hkind]
  . next hkind => simp [Begins, beginsOperand, Token.isLiteral, hkind]
  . next hkind => simp [Begins, beginsOperand, Token.isLiteral, hkind]
  . next hkind =>
    have htexts : ∀ text ∈ ["true", "false", "null"], text ∉ noOperand := by decide
    apply begins_of_isKeyword htexts
    rw [Token.isKeyword, hkind, Bool.and_eq_true, List.contains_iff_mem]
    split at h
    . next htext => exact ⟨rfl, by rcases htext with htext | htext <;> simp [htext]⟩
    . split at h
      . next htext => exact ⟨rfl, by simp [htext]⟩
      . cases h
  . cases h

omit [Lawful tokens] in
theorem not_await_of_literalKind? {token : Token} {kind : LiteralKind}
    (h : literalKind? token = some kind) : token.isWord ["await"] = false := by
  unfold literalKind? at h
  split at h
  . next hkind => simp [Token.isWord, hkind]
  . next hkind => simp [Token.isWord, hkind]
  . next hkind => simp [Token.isWord, hkind]
  . split at h
    . next htext => rcases htext with htext | htext <;> simp [Token.isWord, htext]
    . split at h
      . next htext => simp [Token.isWord, htext]
      . cases h
  . cases h

/--
Whether the tokens up to an index may be an expression that no operator takes apart. If they begin
with the word `await` and there is more, no brace stands behind that word.
-/
def OpensPrimary (tokens : Array Token) (first stop : Nat) : Prop :=
  Begins (tokenAt tokens first) = true ∧
    ((tokenAt tokens first).isWord ["await"] = true →
      stop = first + 1 ∨ (tokenAt tokens (first + 1)).isPunct ["\x7b"] = false)

theorem primary_ensures (hg : g.Sound tokens (cursor + 1)) (hcursor : cursor ≤ last tokens) :
    Ensures tokens (primary g) cursor fun node next =>
      Valued tokens cursor next node ∧ OpensPrimary tokens cursor next := by
  -- all but names and lambdas begin with a token that is not the word `await`
  have hother : ∀ {parser : Parser Node}, Begins (tokenAt tokens cursor) = true →
      (tokenAt tokens cursor).isWord ["await"] = false →
      Ensures tokens parser cursor (fun node next => Valued tokens cursor next node) →
      Ensures tokens parser cursor fun node next =>
        Valued tokens cursor next node ∧ OpensPrimary tokens cursor next := by
    intro parser hbegins hawait h
    apply h.mono
    intro node next _ _ hnode
    exact ⟨hnode, hbegins, by simp [hawait]⟩
  have hkeyword : ∀ {parser : Parser Node} {texts : List String},
      (tokenAt tokens cursor).isKeyword texts = true → (∀ text ∈ texts, text ∉ noOperand) →
      "await" ∉ texts →
      (Begins (tokenAt tokens cursor) = true → Single tokens cursor →
        Ensures tokens parser cursor fun node next => Valued tokens cursor next node) →
      Ensures tokens parser cursor fun node next =>
        Valued tokens cursor next node ∧ OpensPrimary tokens cursor next := by
    intro parser texts h htexts hnot hparser
    have hbegins := begins_of_isKeyword htexts h
    apply hother hbegins _ (hparser hbegins (.of_isKeyword h))
    rw [Bool.eq_false_iff]
    intro hawait
    obtain ⟨text, htext, hmem⟩ := mem_of_isWord (isWord_of_isKeyword h) hawait
    rw [List.mem_singleton] at hmem
    exact hnot (hmem ▸ htext)
  unfold primary
  apply Ensures.here
  apply Ensures.current
  apply (atLambda_ensures hcursor).bind
  rintro isLambda next _ _ ⟨hnext, hlambda⟩
  obtain rfl : cursor = next := hnext.symm
  apply Ensures.ite
  . intro h
    have hopens := hlambda h
    apply (lambda_ensures hg hcursor hopens).mono
    intro node next _ _ hnode
    refine ⟨hnode, hopens.begins, fun hawait => .inr ?_⟩
    exact isPunct_eq_false_of_isPunct (by simp) (hopens.arrow hawait)
  . intro _
    split
    . next kind hkind =>
      have hbegins := begins_of_literalKind? hkind
      apply hother hbegins (not_await_of_literalKind? hkind)
      exact literal_ensures hbegins (single_of_literalKind? hkind)
    . apply Ensures.ite
      . intro h
        refine hkeyword h (by decide) (by decide) fun hbegins hsingle => ?_
        apply Ensures.advance hsingle
        apply (skipParentheses_ensures hsingle.lt).bind
        intro _ next _ _ _
        have htext : "default" = (tokenAt tokens cursor).text := by
          simp only [Token.isKeyword, Bool.and_eq_true, List.contains_iff_mem,
            List.mem_singleton] at h
          exact h.2.symm
        exact node_valued trivial ⟨hbegins, fun _ => htext⟩ (laid_nil (Nat.le_refl next)) (by omega)
      . intro _
        apply Ensures.ite
        . intro h
          exact hkeyword h (by decide) (by decide) typeLiteral_ensures
        . intro _
          apply Ensures.ite
          . intro h
            exact hkeyword h (by decide) (by decide) typeLiteral_ensures
          . intro _
            apply Ensures.ite
            . intro h
              exact hkeyword h (by decide) (by decide) (objectCreation_ensures hg)
            . intro _
              apply Ensures.ite
              . intro h
                have hname : Begins (tokenAt tokens cursor) = true ∧ Single tokens cursor := by
                  have htypes : ∀ text ∈ predefinedTypes, text ∉ noOperand := by decide
                  rw [Bool.or_eq_true, Bool.or_eq_true] at h
                  obtain (h | h) | h := h
                  . exact ⟨begins_of_isKeyword (by decide) h, .of_isKeyword h⟩
                  . exact ⟨begins_of_isKeyword htypes h, .of_isKeyword h⟩
                  . exact ⟨begins_of_isIdentifier h, .of_isIdentifier h⟩
                apply (nameExpression_ensures h hname.1 hname.2).mono
                intro node next _ _ hnode
                refine ⟨hnode.1, hname.1, fun _ => hnode.2.imp_right ?_⟩
                exact isPunct_eq_false_of_isPunct (by simp)
              . intro _
                apply Ensures.ite
                . intro h
                  refine hkeyword h (by decide) (by decide) fun hbegins hsingle => ?_
                  apply Ensures.advance hsingle
                  apply (condition_ensures (hg.mono (by omega))).bind
                  intro inner next _ hlast hinner
                  have := hinner.lt
                  refine node_valued ?_ ?_ hinner.laid (by omega)
                  . exact trivial
                  exact ⟨hbegins, hinner.laid.clear_token_of_lt (by omega) hlast⟩
                . intro _
                  apply (group_ensures hg).mono
                  rintro node next _ _ ⟨hnode, hpunct⟩
                  have hbegins : Begins (tokenAt tokens cursor) = true := by
                    cases hpunct with
                    | inl h => exact begins_of_isPunct (by simp) h
                    | inr h => exact begins_of_isPunct (by simp) h
                  refine ⟨hnode, hbegins, fun hawait => ?_⟩
                  simp [isPunct_eq_false_of_isWord hawait] at hpunct

/-! ### Behind an expression -/

/-- What is behind an expression and belongs to it begins with a token. -/
theorem outer_ensures {form : Form} {first before lo hi : Nat} {children : List Node}
    (hvalue : IsValue form) (hfits : Fits tokens first cursor children form)
    (hchildren : Laid tokens lo hi children)
    (hopens : Opens tokens first)
    (hbounds : before < cursor ∧ first ≤ lo ∧ hi ≤ cursor ∧ first < cursor ∧
      cursor ≤ last tokens) :
    Ensures tokens (node form first children >>= fun outer => pure (some outer)) cursor
      fun result next =>
        ∀ outer ∈ result, before < next ∧ Valued tokens first next outer ∧ Opens tokens first := by
  have hbefore := hbounds.1
  have hmade : Ensures tokens (node form first children) cursor fun node next =>
      Valued tokens first next node := node_valued hvalue hfits hchildren (by omega)
  apply hmade.bind
  intro outer next hnext hlast houter
  apply Ensures.pure hlast
  rintro _ ⟨⟩
  exact ⟨by omega, houter, hopens⟩

theorem behind?_ensures {first : Nat} {inner : Node} (hg : g.Sound tokens (cursor + 1))
    (hvalued : Valued tokens first cursor inner)
    (hopens : (tokenAt tokens cursor).isPunct ["\x7b"] = false → Opens tokens first)
    (hcursor : cursor ≤ last tokens) :
    Ensures tokens (behind? g first inner) cursor fun result next =>
      ∀ outer ∈ result, cursor < next ∧ Valued tokens first next outer ∧ Opens tokens first := by
  obtain ⟨hinner, hvalue⟩ := hvalued
  have hhead : ∀ others, HasValueHead (inner :: others) := by
    rintro others _ ⟨⟩
    exact hvalue
  have hfirst := hinner.lt
  have hpunct : ∀ {texts : List String}, "\x7b" ∉ texts →
      (tokenAt tokens cursor).isPunct texts = true → Opens tokens first :=
    fun hnot h => hopens <| isPunct_eq_false_of_isPunct
      (fun text htext heq => hnot (List.mem_singleton.1 heq ▸ htext)) h
  unfold behind?
  apply Ensures.current
  apply Ensures.peek
  apply Ensures.ite
  . intro h
    have hsingle := Single.of_isPunct (by simp) h
    have hlt := hsingle.lt
    have hopens := hpunct (by decide) h
    apply Ensures.advance hsingle
    apply Ensures.ite
    . intro h
      rw [Bool.and_eq_true] at h
      apply (argumentList_ensures (hg.mono (by omega)) (.of_isPunct (by simp) h.2) (by simp)).bind
      rintro ⟨indices, closer⟩ next _ hlast ⟨hnext, hindices, _⟩
      exact outer_ensures trivial hopens.1 (hinner.laid.append hindices (by omega)) hopens (by omega)
    . intro _
      apply Ensures.identifier
      intro hname hlt
      apply (typeArguments?_ensures hlt).bind
      intro typeArguments next hnext hlast _
      refine outer_ensures ?_ ?_ hinner.laid hopens (by omega)
      . exact trivial
      refine ⟨cursor + 1, by omega, by omega, ⟨hname, rfl, rfl⟩, ?_, hopens, h, hhead _⟩
      exact hinner.laid.clear_token_of_le (Nat.le_succ cursor) (by omega)
  . intro _
    apply Ensures.ite
    . intro h
      have hopens := hpunct (by decide) h
      apply (argumentList_ensures hg (.of_isPunct (by simp) h) (by simp)).bind
      rintro ⟨arguments, closer⟩ next _ hlast ⟨hnext, harguments, _⟩
      have hcallee := hinner.laid.clear_token_of_le (Nat.le_refl cursor) hcursor
      have hbehind := harguments.clear_token_of_lt (Nat.lt_succ_self cursor) hlast
      refine outer_ensures ?_ ?_ (hinner.laid.append harguments (by omega)) hopens (by omega)
      . exact trivial
      exact ⟨cursor, by omega, hnext, hcallee.append hbehind, hopens, hhead _⟩
    . intro _
      apply Ensures.ite
      . intro h
        have hopens := hpunct (by decide) h
        apply (argumentList_ensures hg (.of_isPunct (by simp) h) (by simp)).bind
        rintro ⟨indices, closer⟩ next _ hlast ⟨hnext, hindices, _⟩
        exact outer_ensures trivial hopens.1 (hinner.laid.append hindices (by omega)) hopens (by omega)
      . intro _
        apply Ensures.ite
        . intro h
          have hmark : Single tokens cursor ∧ Opens tokens first := by
            rw [Bool.or_eq_true, Bool.and_eq_true] at h
            cases h with
            | inl h => exact ⟨.of_isPunct (by simp) h, hpunct (by decide) h⟩
            | inr h => exact ⟨.of_isPunct (by simp) h.1, hpunct (by decide) h.1⟩
          have hlt := hmark.1.lt
          apply Ensures.advance hmark.1
          exact outer_ensures trivial trivial hinner.laid hmark.2 (by omega)
        . intro _
          apply Ensures.ite
          . intro h
            rw [Bool.and_eq_true, Bool.or_eq_true] at h
            have hbrace : (tokenAt tokens cursor).isPunct ["\x7b"] = false := by
              cases h.1 with
              | inl h => exact isPunct_eq_false_of_isWord (isWord_of_isKeyword h)
              | inr h => exact isPunct_eq_false_of_isWord h
            have hsecond := lt_last_of_isPunct h.2
            apply Ensures.advance ⟨by omega, hbrace⟩
            apply (Ensures.skipGroup (Token.isOpener_of_isPunct (by decide) h.2)).bind
            intro _ next _ hlast hlt
            exact outer_ensures trivial trivial hinner.laid (hopens hbrace) (by omega)
          . intro _
            apply Ensures.pure hcursor
            rintro _ ⟨⟩

/-- Once something stands behind an expression, it is known to begin as one may. -/
theorem withBehind_ensures {first : Nat} {inner : Node} (hg : g.Sound tokens (cursor + 1))
    (hinner : Valued tokens first cursor inner)
    (hopens : (tokenAt tokens cursor).isPunct ["\x7b"] = false → Opens tokens first)
    (hcursor : cursor ≤ last tokens) :
    Ensures tokens (withBehind g first inner) cursor fun node next =>
      Inside tokens first next node := by
  apply loop_ensures (fun inner next => Valued tokens first next inner ∧
    ((tokenAt tokens next).isPunct ["\x7b"] = false → Opens tokens first)) hcursor ⟨hinner, hopens⟩
  rintro inner index hindex hlast ⟨hinner, hopens⟩
  apply (behind?_ensures (hg.mono (by omega)) hinner hopens hlast).bind
  intro result next hle hlast hresult
  cases result with
  | none => exact .pure hlast (hinner.1.mono (by omega))
  | some outer =>
    obtain ⟨hlt, houter, hopens⟩ := hresult outer rfl
    exact .pure hlast ⟨hlt, houter, fun _ => hopens⟩

/-! ### In front of an expression -/

theorem atCast_ensures (hcursor : cursor ≤ last tokens) :
    Ensures tokens atCast cursor fun found next =>
      next = cursor ∧ (found = true → Single tokens cursor) := by
  unfold atCast
  apply Ensures.atPunct
  apply Ensures.ite
  . intro hpunct
    have hsingle := Single.of_isPunct (by simp) hpunct
    have hlt := hsingle.lt
    apply Ensures.here
    apply Ensures.closing? (Token.isOpener_of_isPunct (by decide) hpunct)
    split
    . exact .pure hcursor ⟨rfl, fun _ => hsingle⟩
    . next closer hclosing =>
      have hcloser := matching?_bounds hclosing
      apply Ensures.bind (Q := fun _ next => next = cursor)
      . apply Ensures.lookahead hcursor
        apply Ensures.seek (Nat.le_succ _) hlt (.step hsingle.not_brace)
        apply (Ensures.attempt hlt (anyType_ensures hlt)).bind
        intro result next _ hlast _
        split
        . apply Ensures.here
          exact .pure hlast rfl
        . exact .pure hlast rfl
      . rintro typed _ _ hlast rfl
        apply Ensures.ite
        . intro _
          apply Ensures.tokenNumber hcloser.2
          apply Ensures.tokenNumber hlt
          exact .pure hlast ⟨rfl, fun _ => hsingle⟩
        . intro _
          exact .pure hlast ⟨rfl, fun _ => hsingle⟩
  . intro _
    exact .pure hcursor ⟨rfl, fun h => by cases h⟩

/-- An operator in front of an operand is made of one token. -/
theorem front_ensures {form : Form} {inner : Parser Node}
    (hfits : ∀ stop children, Fits tokens cursor stop children form)
    (hcursor : Single tokens cursor)
    (hinner : Ensures tokens inner (cursor + 1) fun node next =>
      Inside tokens (cursor + 1) next node) :
    Ensures tokens (advance >>= fun _ => inner >>= fun inner => node form cursor [inner]) cursor
      fun node next => Inside tokens cursor next node := by
  have hlt := hcursor.lt
  apply Ensures.advance hcursor
  apply hinner.bind
  intro inner next _ _ hinner
  have := hinner.lt
  exact node_inside (hfits _ _) hinner.laid (by omega)

omit [Lawful tokens] in
/-- An operand that is none of `await` begins as one may, given what is behind its first part. -/
theorem OpensPrimary.opens {first stop : Nat} (h : OpensPrimary tokens first stop)
    (hawait : ¬ ((tokenAt tokens first).isWord ["await"] &&
      operand.startsAwaited (tokenAt tokens (first + 1))) = true)
    (hbrace : (tokenAt tokens stop).isPunct ["\x7b"] = false) : Opens tokens first := by
  refine ⟨h.1, fun hword => ?_⟩
  have hbrace : (tokenAt tokens (first + 1)).isPunct ["\x7b"] = false := by
    cases h.2 hword with
    | inl hstop => exact hstop ▸ hbrace
    | inr hbrace => exact hbrace
  rw [hword, Bool.true_and, operand.startsAwaited, Bool.or_eq_true, not_or, Bool.not_eq_true,
    Bool.not_eq_true] at hawait
  rw [Begins, hawait.1, Bool.false_or]
  simp only [Token.isPunct, Bool.and_eq_false_iff, List.contains_eq_any_beq] at *
  simp at *
  grind

theorem operand_ensures (hg : g.Sound tokens (cursor + 1)) (hcursor : cursor ≤ last tokens) :
    Ensures tokens (operand g) cursor fun node next => Inside tokens cursor next node := by
  unfold operand
  apply Ensures.here
  apply Ensures.current
  apply Ensures.ite
  . intro h
    have hsingle := Single.of_isPunct (by decide) h
    exact front_ensures (fun _ _ => trivial) hsingle (hg.operand _ (Nat.le_refl _) hsingle.lt)
  . intro _
    apply Ensures.peek
    apply Ensures.ite
    . intro h
      rw [Bool.and_eq_true] at h
      have hsingle := Single.of_isWord h.1
      exact front_ensures (fun _ _ => trivial) hsingle (hg.operand _ (Nat.le_refl _) hsingle.lt)
    . intro hawait
      apply Ensures.ite
      . intro h
        have hsingle := Single.of_isKeyword h
        exact front_ensures (fun _ _ => trivial) hsingle (hg.expression _ (Nat.le_refl _) hsingle.lt)
      . intro _
        apply (atCast_ensures hcursor).bind
        rintro isCast _ _ _ ⟨rfl, hisCast⟩
        apply Ensures.ite
        . intro h
          have hsingle := hisCast h
          have hlt := hsingle.lt
          apply Ensures.advance hsingle
          apply (anyType_ensures hlt).bind
          intro type next hnext hlast _
          apply (Ensures.expect hlast ")" (by simp)).bind
          intro _ first hfirst hlast _
          apply (hg.operand first (by omega) hlast).bind
          intro inner stop _ _ hinner
          have := hinner.lt
          exact node_inside trivial hinner.laid (by omega)
        . intro _
          apply (primary_ensures hg hcursor).bind
          rintro inner next hnext hlast ⟨hinner, hopens⟩
          exact withBehind_ensures (hg.mono (by omega)) hinner (hopens.opens hawait) hlast

/-! ### Patterns -/

omit [Lawful tokens] in
theorem exists_not_continuesWord {token : Token} (h : token.isPunct ["\x7b", "("] = true) :
    ∃ c ∈ token.text.toList, Token.continuesWord c = false := by
  have htext := (Token.isPunct_iff.1 h).2
  simp only [List.mem_cons, List.not_mem_nil, or_false] at htext
  rcases htext with heq | heq
  . rw [heq]
    exact ⟨'\x7b', by simp, by decide⟩
  . rw [heq]
    exact ⟨'(', by simp, by decide⟩

theorem plainPattern_ensures (hg : g.Sound tokens (cursor + 1)) (hcursor : cursor ≤ last tokens) :
    Ensures tokens (plainPattern g) cursor fun node next => Inside tokens cursor next node := by
  unfold plainPattern
  apply Ensures.here
  apply Ensures.current
  apply Ensures.ite
  . intro _
    exact (primary_ensures hg hcursor).mono fun _ _ _ _ h => h.1.1
  . intro _
    apply Ensures.ite
    . intro h
      have hbegins := begins_of_isPunct (by simp) h
      have hbrace := exists_not_continuesWord h
      apply (Ensures.skipGroup (Token.isOpener_of_isPunct (by decide) h)).bind
      intro _ next _ _ _
      refine node_inside ⟨hbegins, rfl, ?_⟩ (laid_nil (Nat.le_refl cursor)) (by omega)
      intro hword
      obtain ⟨c, hc, hother⟩ := hbrace
      have := hword.continues (String.toList_append ▸ List.mem_append_left _ hc)
      rw [hother] at this
      cases this
    . intro _
      apply Ensures.ite
      . intro h
        have hsingle := Single.of_isPunct (by simp) h
        have hlt := hsingle.lt
        apply Ensures.advance hsingle
        apply (hg.operand _ (Nat.le_refl _) hlt).mono
        intro node next _ _ hnode
        exact hnode.mono (by omega)
      . intro _
        apply ((typeUse_ensures hcursor).and_of_eq_ok fun _ _ h =>
          And.intro (begins_of_typeUse hcursor h) (And.intro rfl (mentions_of_typeUse hcursor h))).bind
        rintro type next _ _ ⟨htype, hbegins⟩
        have := htype.1
        exact node_inside hbegins (laid_nil (Nat.le_refl cursor)) (by omega)

theorem pattern_ensures {designated : Bool} (hg : g.Sound tokens (cursor + 1))
    (hcursor : cursor ≤ last tokens) :
    Ensures tokens (pattern g designated) cursor fun node next =>
      Inside tokens cursor next node := by
  unfold pattern
  apply (plainPattern_ensures hg hcursor).bind
  intro plain first hfirst hlast hplain
  have hlt := hplain.lt
  apply Ensures.atPunct
  extract_lets -underBinder tail
  have htail : ∀ next, first ≤ next → next ≤ last tokens →
      Ensures tokens (tail ()) next fun node stop => Inside tokens cursor stop node := by
    intro next hnext hlast
    apply Ensures.current
    extract_lets -underBinder behind
    have hbehind : ∀ whole index, next ≤ index → index ≤ last tokens →
        Inside tokens cursor index whole →
        Ensures tokens (behind whole) index fun node stop => Inside tokens cursor stop node := by
      intro whole index hindex hlast hwhole
      apply Ensures.bind (Q := fun _ _ => True)
      . apply loop_ensures (fun _ _ => True) hlast trivial
        intro _ start hstart hlast _
        apply Ensures.atWord
        apply Ensures.ite
        . intro h
          have hsingle := Single.of_isWord h
          have hlt := hsingle.lt
          apply Ensures.advance hsingle
          apply Ensures.atWord
          extract_lets -underBinder again
          have hagain : ∀ stop, start < stop → stop ≤ last tokens →
              Ensures tokens (again ()) stop
                (Progress.Holds start (fun _ _ => True) fun _ _ => True) := by
            intro stop hstop hlast
            apply (hg.pattern stop designated (by omega) hlast).bind
            intro other behind hbehind hlast hother
            exact .pure hlast ⟨by omega, trivial⟩
          clear_value again
          apply Ensures.ite
          . intro h
            have hnot := Single.of_isWord h
            apply Ensures.advance hnot
            apply hagain
            . omega
            . exact hnot.lt
          . intro _
            exact hagain _ (Nat.lt_succ_self _) hlt
        . intro _
          exact .pure hlast trivial
      . intro _ stop hstop hlast _
        exact .pure hlast (hwhole.mono (by omega))
    clear_value behind
    apply Ensures.ite
    . intro h
      rw [Bool.and_eq_true, Bool.and_eq_true] at h
      have hidentifier := Single.of_isIdentifier h.1.2
      apply Ensures.advance hidentifier
      apply hbehind _ _ (Nat.le_succ _) hidentifier.lt
      obtain ⟨start, stop, hstart, hstop, hplain⟩ := hplain
      exact ⟨start, stop, hstart, by omega, hplain.with_designation _⟩
    . intro _
      exact hbehind plain next (Nat.le_refl _) hlast (hplain.mono (by omega))
  clear_value tail
  apply Ensures.ite
  . intro h
    apply (Ensures.skipGroup (Token.isOpener_of_isPunct (by decide) h)).bind
    intro _ next hnext hlast _
    exact htail next hnext hlast
  . intro _
    exact htail first (Nat.le_refl _) hlast

/-! ### Operators between operands -/

theorem operator?_ensures (hcursor : cursor ≤ last tokens) :
    Ensures tokens operator? cursor fun result next =>
      next = cursor ∧ ∀ op ∈ result, 0 < op.2 ∧ cursor + op.2 ≤ last tokens ∧
        Enclosed tokens cursor (cursor + op.2) := by
  unfold operator?
  apply Ensures.current
  apply Ensures.peek
  apply Ensures.ite
  . intro h
    have hsingle := Single.of_isKeyword h
    refine .pure hcursor ⟨rfl, ?_⟩
    rintro _ ⟨⟩
    exact ⟨Nat.one_pos, hsingle.lt, .step hsingle.not_brace⟩
  . intro _
    apply Ensures.ite
    . intro h
      rw [Bool.and_eq_true, Bool.and_eq_true] at h
      have hfirst := Single.of_isPunct (by simp) h.1.1
      have hsecond := Single.of_isPunct (by simp) h.1.2
      refine .pure hcursor ⟨rfl, ?_⟩
      rintro _ ⟨⟩
      refine ⟨Nat.two_pos, hsecond.lt, ?_⟩
      exact (Enclosed.step hfirst.not_brace).trans (.step hsecond.not_brace) (Nat.le_succ _)
        (Nat.le_succ _) hsecond.lt
    . intro _
      apply Ensures.ite
      . intro h
        rw [Bool.and_eq_true, beq_iff_eq] at h
        have hsingle : Single tokens cursor := by
          refine ⟨lt_last_of_not_isEnd ?_, ?_⟩
          . rw [Token.isEnd_iff, h.1]
            simp
          . rw [Bool.eq_false_iff]
            intro hbrace
            have hnone : precedence? "\x7b" = none := by decide
            have htext := List.mem_singleton.1 (Token.isPunct_iff.1 hbrace).2
            rw [htext, hnone] at h
            simp at h
        refine .pure hcursor ⟨rfl, ?_⟩
        rintro _ ⟨⟩
        exact ⟨Nat.one_pos, hsingle.lt, .step hsingle.not_brace⟩
      . intro _
        refine .pure hcursor ⟨rfl, ?_⟩
        rintro _ ⟨⟩

theorem operation_ensures {least : Nat} (hg : g.Sound tokens (cursor + 1))
    (hcursor : cursor ≤ last tokens) :
    Ensures tokens (operation g least) cursor fun node next => Inside tokens cursor next node := by
  unfold operation
  apply Ensures.here
  apply (operand_ensures hg hcursor).bind
  intro left next hnext hlast hleft
  apply loop_ensures (fun left next => Inside tokens cursor next left) hlast hleft
  intro left index hindex hlast hleft
  have hlt := hleft.lt
  apply (operator?_ensures hlast).bind
  rintro found index _ _ ⟨rfl, hfound⟩
  cases found with
  | none => exact .pure hlast hleft
  | some found =>
    obtain ⟨op, width⟩ := found
    obtain ⟨hpos, hwidth, henclosed⟩ := hfound (op, width) rfl
    dsimp -zeta only
    extract_lets -underBinder rank
    apply Ensures.ite
    . intro _
      exact .pure hlast hleft
    . intro _
      apply Ensures.here
      apply Ensures.seek (Nat.le_add_right _ _) hwidth henclosed
      apply Ensures.ite
      . intro _
        apply Ensures.atWord
        extract_lets -underBinder tail
        have htail : ∀ negated start, index < start → start ≤ last tokens →
            Ensures tokens (tail negated) start
              (Progress.Holds index (fun left next => Inside tokens cursor next left)
                fun node next => Inside tokens cursor next node) := by
          intro negated start hstart hlast
          apply (pattern_ensures (hg.mono (by omega)) hlast).bind
          intro right stop hstop hlast hright
          have := hright.lt
          have hsides := hleft.laid.append hright.laid (by omega)
          refine .bind (node_ensures trivial hsides (by omega)) ?_
          rintro node _ _ hlast ⟨rfl, hnode⟩
          exact .pure hlast ⟨by omega, hnode.inside⟩
        clear_value tail
        apply Ensures.ite
        . intro h
          rw [Bool.and_eq_true] at h
          have hword := Single.of_isWord h.2
          apply Ensures.advance hword
          apply htail
          . omega
          . exact hword.lt
        . intro _
          apply htail
          . omega
          . exact hwidth
      . intro _
        apply (hg.operation (index + width) _ (by omega) hwidth).bind
        intro right stop hstop hlast hright
        have := hright.lt
        have hsides := hleft.laid.append hright.laid (by omega)
        refine .bind (node_ensures trivial hsides (by omega)) ?_
        rintro node _ _ hlast ⟨rfl, hnode⟩
        exact .pure hlast ⟨by omega, hnode.inside⟩

theorem conditional_ensures (hg : g.Sound tokens (cursor + 1)) (hcursor : cursor ≤ last tokens) :
    Ensures tokens (conditional g) cursor fun node next => Inside tokens cursor next node := by
  unfold conditional
  apply Ensures.here
  apply (operation_ensures hg hcursor).bind
  intro test next _ hlast htest
  have := htest.lt
  apply (Ensures.accept hlast "?" (by simp)).bind
  rintro _ _ _ hlast (⟨rfl, _, rfl⟩ | ⟨rfl, rfl⟩)
  . apply (hg.expression _ (by omega) hlast).bind
    intro whenTrue first _ _ hTrue
    apply Ensures.require (by simp)
    intro _ hlt
    apply (hg.expression _ (by omega) hlt).bind
    intro whenFalse stop _ _ hFalse
    have := hTrue.lt
    have := hFalse.lt
    have hvalues := hTrue.laid.append hFalse.laid (by omega)
    exact node_inside trivial (htest.laid.append hvalues (by omega)) (by omega)
  . exact .pure hlast htest

theorem expression_ensures (hg : g.Sound tokens (cursor + 1)) (hcursor : cursor ≤ last tokens) :
    Ensures tokens (expression g) cursor fun node next => Inside tokens cursor next node := by
  unfold expression
  apply Ensures.here
  apply (conditional_ensures hg hcursor).bind
  intro left next _ hlast hleft
  have := hleft.lt
  apply Ensures.current
  apply Ensures.ite
  . intro h
    have hsingle := Single.of_isPunct (by decide) h
    have hlt := hsingle.lt
    apply Ensures.advance hsingle
    apply (initialValue_ensures (hg.mono (by omega)) hlt).bind
    intro value stop _ _ hvalue
    have := hvalue.lt
    exact node_inside trivial (hleft.laid.append hvalue.laid (by omega)) (by omega)
  . intro _
    exact .pure hlast hleft

end ThreadLint.Parser
