import ThreadLint.Proofs.Grammar.TypeName
import ThreadLint.Proofs.Tree.Bare

/-!
This module contains how two runs of a parser are compared, on the tokens of two texts that differ
in what stands between the tokens only. The runs go the same way as long as they depend on the kinds
and texts of the tokens, and so do their parts.
-/

namespace ThreadLint

/--
What is in front of a token that is no white space.
-/
def Token.remarks (token : Token) : String :=
  Text.dropBlanks token.trivia

/--
What a token adds to a text that is cut out of a file.
-/
def Token.word (token : Token) : String × String :=
  (token.text, token.remarks)

/--
Whether two tokens have the same kind and text.
-/
inductive Token.Alike : Token → Token → Prop where
  | intro (kind : TokenKind) (text : String) (start start' : Nat) (trivia trivia' : String) :
    Alike ⟨kind, text, start, trivia⟩ ⟨kind, text, start', trivia'⟩

namespace Token.Alike

variable {token token' : Token} (h : token.Alike token')

include h

theorem isOpener_eq : token.isOpener = token'.isOpener := by
  cases h
  rfl

theorem isCloser_eq : token.isCloser = token'.isCloser := by
  cases h
  rfl

theorem isEnd_eq : token.isEnd = token'.isEnd := by
  cases h
  rfl

theorem closer?_eq : token.closer? = token'.closer? := by
  cases h
  rfl

theorem text_eq : token.text = token'.text := by
  cases h
  rfl

end Token.Alike

namespace Parser

/--
Whether a token stands inside parentheses, or behind the first token of what reads as a type.
-/
def isInside (tokens : Array Token) (index : Nat) : Bool :=
  (List.range index).any fun first =>
    ((tokenAt tokens first).isPunct ["("] &&
        (Token.matching? tokens first).any fun closer => decide (index ≤ closer)) ||
      [true, false].any fun nullable => [true, false].any fun arrays =>
        match typeUse nullable arrays tokens first with
        | .ok (_, stop) => decide (index < stop)
        | .error _ => false

theorem isInside_of_matching? {tokens : Array Token} {first index closer : Nat}
    (hopener : (tokenAt tokens first).isPunct ["("] = true)
    (h : Token.matching? tokens first = some closer) (hfirst : first < index)
    (hcloser : index ≤ closer) : isInside tokens index = true := by
  unfold isInside
  rw [List.any_eq_true]
  exact ⟨first, List.mem_range.2 hfirst, by simp [hopener, h, hcloser]⟩

theorem isInside_of_typeUse {tokens : Array Token} {nullable arrays : Bool} {type : TypeUse}
    {first index stop : Nat} (h : typeUse nullable arrays tokens first = .ok (type, stop))
    (hfirst : first < index) (hstop : index < stop) : isInside tokens index = true := by
  unfold isInside
  rw [List.any_eq_true]
  refine ⟨first, List.mem_range.2 hfirst, ?_⟩
  rw [Bool.or_eq_true, List.any_eq_true]
  refine .inr ⟨nullable, by simp, ?_⟩
  rw [List.any_eq_true]
  refine ⟨arrays, by simp, ?_⟩
  rw [h]
  exact decide_eq_true hstop

/--
Whether one text has the tokens of another, and the same angle brackets touch. If the texts that are
cut out of a file are to be the same, what stands between the tokens differs in white space only, at
least where it can be cut out.
-/
class SameTokens (spelled : outParam Bool) (tokens tokens' : Array Token) : Prop where
  lawful : Lawful tokens
  lawful' : Lawful tokens'
  size_eq : tokens.size = tokens'.size
  alike : ∀ index, (tokenAt tokens index).Alike (tokenAt tokens' index)
  touch_iff : ∀ index, (tokenAt tokens index).isPunct [">"] = true →
    (tokenAt tokens (index + 1)).isPunct [">"] = true →
      ((tokenAt tokens (index + 1)).start = (tokenAt tokens index).stop ↔
        (tokenAt tokens' (index + 1)).start = (tokenAt tokens' index).stop)
  remarks_eq : spelled = true → ∀ index, index < tokens.size → isInside tokens index = true →
    (tokenAt tokens index).remarks = (tokenAt tokens' index).remarks

/--
What two runs have for results: related ones at the same cursor, or none for the same reason. A run
that stops as extents are reversed is not compared with the other.
-/
inductive Outcome {α α' : Type} (R : α → α' → Prop) :
    Except Stop (α × Nat) → Except Stop (α' × Nat) → Prop where
  | ok {a : α} {a' : α'} (next : Nat) (h : R a a') : Outcome R (.ok (a, next)) (.ok (a', next))
  | error (stop : Stop) : Outcome R (.error stop) (.error stop)
  | reversed_left (result : Except Stop (α' × Nat)) : Outcome R (.error .reversed) result
  | reversed_right (result : Except Stop (α × Nat)) : Outcome R result (.error .reversed)

/--
Whether two parsers go the same way, one on some tokens and one on others, to related results.
-/
def Agrees {α α' : Type} (tokens tokens' : Array Token) (R : α → α' → Prop) (parser : Parser α)
    (parser' : Parser α') : Prop :=
  ∀ cursor, Outcome R (parser tokens cursor) (parser' tokens' cursor)

variable {α α' β β' γ σ σ' : Type} {tokens tokens' : Array Token} {R : α → α' → Prop}
  {S : β → β' → Prop}

/-! ### How parsers are put together -/

variable {parser : Parser α} {parser' : Parser α'} {rest : α → Parser β} {rest' : α' → Parser β'}

theorem Outcome.bind {cursor : Nat} (h : Outcome R (parser tokens cursor) (parser' tokens' cursor))
    (hrest : ∀ next a a', parser tokens cursor = .ok (a, next) → R a a' →
      Outcome S (rest a tokens next) (rest' a' tokens' next)) :
    Outcome S ((parser >>= rest) tokens cursor) ((parser' >>= rest') tokens' cursor) := by
  simp only [Bind.bind]
  generalize parser tokens cursor = result at h hrest ⊢
  generalize parser' tokens' cursor = result' at h ⊢
  cases h with
  | ok next h => exact hrest next _ _ rfl h
  | error stop => exact .error stop
  | reversed_left => exact .reversed_left _
  | reversed_right => exact .reversed_right _

namespace Agrees

theorem bind (h : Agrees tokens tokens' R parser parser')
    (hrest : ∀ a a', R a a' → Agrees tokens tokens' S (rest a) (rest' a')) :
    Agrees tokens tokens' S (parser >>= rest) (parser' >>= rest') :=
  fun cursor => (h cursor).bind fun next a a' _ h => hrest a a' h next

theorem pure {a : α} {a' : α'} (h : R a a') :
    Agrees tokens tokens' R (Pure.pure a) (Pure.pure a') :=
  fun cursor => .ok cursor h

/-- Results that are related are known to be read between the same cursors. -/
theorem mono_of_eq_ok {R' : α → α' → Prop} (h : Agrees tokens tokens' R parser parser')
    (hmono : ∀ cursor next a a', parser tokens cursor = .ok (a, next) →
      parser' tokens' cursor = .ok (a', next) → R a a' → R' a a') :
    Agrees tokens tokens' R' parser parser' := by
  intro cursor
  have h := h cursor
  have hmono := hmono cursor
  generalize parser tokens cursor = result at h hmono ⊢
  generalize parser' tokens' cursor = result' at h hmono ⊢
  cases h with
  | ok next h => exact .ok next (hmono _ _ _ rfl rfl h)
  | error stop => exact .error stop
  | reversed_left => exact .reversed_left _
  | reversed_right => exact .reversed_right _

theorem mono {R' : α → α' → Prop} (h : Agrees tokens tokens' R parser parser')
    (hmono : ∀ a a', R a a' → R' a a') : Agrees tokens tokens' R' parser parser' :=
  h.mono_of_eq_ok fun _ _ a a' _ _ h => hmono a a' h

/-- What is read first is the same in both runs. -/
theorem bind_eq {parser parser' : Parser γ} {rest : γ → Parser β} {rest' : γ → Parser β'}
    (h : Agrees tokens tokens' Eq parser parser')
    (hrest : ∀ a, Agrees tokens tokens' S (rest a) (rest' a)) :
    Agrees tokens tokens' S (parser >>= rest) (parser' >>= rest') := by
  refine h.bind ?_
  rintro a _ rfl
  exact hrest a

/-- Tests have the same answer, as they look at the kinds and texts of tokens only. -/
theorem ite {b b' : Prop} [Decidable b] [Decidable b'] {other : Parser α} {other' : Parser α'}
    (hb : b = b') (h : b → Agrees tokens tokens' R parser parser')
    (hother : ¬ b → Agrees tokens tokens' R other other') :
    Agrees tokens tokens' R (if b then parser else other) (if b' then parser' else other') := by
  subst hb
  by_cases hb : b
  . rw [if_pos hb, if_pos hb]
    exact h hb
  . rw [if_neg hb, if_neg hb]
    exact hother hb

theorem choose {test test' : Parser Bool} {other : Parser α} {other' : Parser α'}
    (htest : Agrees tokens tokens' Eq test test') (h : Agrees tokens tokens' R parser parser')
    (hother : Agrees tokens tokens' R other other') :
    Agrees tokens tokens' R (test >>= fun answer => if answer = true then parser else other)
      (test' >>= fun answer => if answer = true then parser' else other') :=
  htest.bind_eq fun _ => ite rfl (fun _ => h) fun _ => hother

theorem stopWith (stop : Stop) :
    Agrees tokens tokens' R (Parser.stopWith stop) (Parser.stopWith stop) :=
  fun _ => .error stop

theorem mismatch : Agrees tokens tokens' R Parser.mismatch Parser.mismatch :=
  stopWith .mismatch

/-- Extents may be reversed in one run only. -/
theorem checked {b b' : Prop} [Decidable b] [Decidable b']
    (h : Agrees tokens tokens' R parser parser') :
    Agrees tokens tokens' R (if b then parser else Parser.stopWith .reversed)
      (if b' then parser' else Parser.stopWith .reversed) := by
  intro cursor
  split
  . split
    . exact h cursor
    . exact .reversed_right _
  . exact .reversed_left _

theorem attempt (h : Agrees tokens tokens' R parser parser') :
    Agrees tokens tokens' (Option.Rel R) (Parser.attempt parser) (Parser.attempt parser') := by
  intro cursor
  have h := h cursor
  simp only [Parser.attempt]
  generalize parser tokens cursor = result at h ⊢
  generalize parser' tokens' cursor = result' at h ⊢
  cases h with
  | ok next h => exact .ok next (.some h)
  | error stop =>
    cases stop with
    | mismatch => exact .ok cursor .none
    | exhausted => exact .error _
    | beyond => exact .error _
    | unopened => exact .error _
    | reversed => exact .error _
  | reversed_left => exact .reversed_left _
  | reversed_right => exact .reversed_right _

theorem lookahead (h : Agrees tokens tokens' R parser parser') :
    Agrees tokens tokens' R (Parser.lookahead parser) (Parser.lookahead parser') := by
  intro cursor
  have h := h cursor
  simp only [Parser.lookahead]
  generalize parser tokens cursor = result at h ⊢
  generalize parser' tokens' cursor = result' at h ⊢
  cases h with
  | ok next h => exact .ok cursor h
  | error stop => exact .error stop
  | reversed_left => exact .reversed_left _
  | reversed_right => exact .reversed_right _

theorem here : Agrees tokens tokens' Eq Parser.here Parser.here :=
  fun cursor => .ok cursor rfl

theorem seek (target : Nat) : Agrees tokens tokens' Eq (Parser.seek target) (Parser.seek target) :=
  fun _ => .ok target rfl

end Agrees

/-! ### Loops -/

/--
Whether two steps of a loop both lead on, with related states, or both to the end.
-/
inductive Progress.Alike (I : σ → σ' → Prop) (S : β → β' → Prop) :
    Progress σ β → Progress σ' β' → Prop where
  | more {state : σ} {state' : σ'} (h : I state state') : Alike I S (.more state) (.more state')
  | done {result : β} {result' : β'} (h : S result result') :
    Alike I S (.done result) (.done result')

section

variable {step : σ → Parser (Progress σ β)} {step' : σ' → Parser (Progress σ' β')}

theorem loopAtMost_agrees (I : σ → σ' → Prop)
    (hstep : ∀ state state', I state state' →
      Agrees tokens tokens' (Progress.Alike I S) (step state) (step' state'))
    (bound : Nat) {state : σ} {state' : σ'} (h : I state state') :
    Agrees tokens tokens' S (loopAtMost step bound state) (loopAtMost step' bound state') := by
  induction bound generalizing state state' with
  | zero => exact .stopWith .exhausted
  | succ bound ih =>
    unfold loopAtMost
    refine .bind (hstep state state' h) ?_
    rintro _ _ (h | h)
    . exact ih h
    . exact .pure h

variable {spelled : Bool} [same : SameTokens spelled tokens tokens']

include same

theorem loop_agrees (I : σ → σ' → Prop) {state : σ} {state' : σ'} (h : I state state')
    (hstep : ∀ state state', I state state' →
      Agrees tokens tokens' (Progress.Alike I S) (step state) (step' state')) :
    Agrees tokens tokens' S (loop step state) (loop step' state') := by
  intro cursor
  unfold loop
  rw [same.size_eq]
  exact loopAtMost_agrees I hstep _ h cursor

end

/-! ### Tokens -/

section

variable {spelled : Bool} [same : SameTokens spelled tokens tokens']

include same

theorem tokenNumber_agrees (index : Nat) :
    Agrees tokens tokens' Token.Alike (tokenNumber index) (tokenNumber index) := by
  intro cursor
  unfold tokenNumber
  rw [same.size_eq]
  split
  . exact .ok cursor (same.alike index)
  . exact .error _

theorem peek_agrees (distance : Nat) :
    Agrees tokens tokens' Token.Alike (peek distance) (peek distance) :=
  fun cursor => .ok cursor (same.alike _)

theorem current_agrees : Agrees tokens tokens' Token.Alike current current := by
  refine .bind .here ?_
  rintro cursor _ rfl
  exact tokenNumber_agrees cursor

theorem advance_agrees : Agrees tokens tokens' Token.Alike advance advance := by
  refine .bind current_agrees ?_
  rintro _ _ ⟨⟩
  refine .ite rfl (fun _ => .pure (.intro ..)) fun _ => ?_
  refine .bind .here ?_
  rintro cursor _ rfl
  refine .bind (.seek _) ?_
  rintro _ _ _
  exact .pure (.intro ..)

theorem atEnd_agrees : Agrees tokens tokens' Eq atEnd atEnd := by
  refine .bind current_agrees ?_
  rintro _ _ ⟨⟩
  exact .pure rfl

theorem atPunct_agrees (texts : List String) :
    Agrees tokens tokens' Eq (atPunct texts) (atPunct texts) := by
  refine .bind current_agrees ?_
  rintro _ _ ⟨⟩
  exact .pure rfl

theorem atKeyword_agrees (texts : List String) :
    Agrees tokens tokens' Eq (atKeyword texts) (atKeyword texts) := by
  refine .bind current_agrees ?_
  rintro _ _ ⟨⟩
  exact .pure rfl

theorem atWord_agrees (texts : List String) :
    Agrees tokens tokens' Eq (atWord texts) (atWord texts) := by
  refine .bind current_agrees ?_
  rintro _ _ ⟨⟩
  exact .pure rfl

theorem accept_agrees (text : String) : Agrees tokens tokens' Eq (accept text) (accept text) := by
  refine .bind (atPunct_agrees _) ?_
  rintro _ _ rfl
  refine .ite rfl (fun _ => ?_) fun _ => .pure rfl
  exact .bind advance_agrees fun _ _ _ => .pure rfl

theorem expect_agrees (text : String) :
    Agrees tokens tokens' (Option.Rel Token.Alike) (expect text) (expect text) := by
  refine .bind current_agrees ?_
  rintro _ _ ⟨⟩
  refine .ite rfl (fun _ => ?_) fun _ => .ite rfl (fun _ => .pure .none) fun _ => .mismatch
  exact .bind advance_agrees fun _ _ h => .pure (.some h)

theorem require_agrees (texts : List String) :
    Agrees tokens tokens' Token.Alike (require texts) (require texts) := by
  refine .bind (atPunct_agrees _) ?_
  rintro _ _ rfl
  exact .ite rfl (fun _ => advance_agrees) fun _ => .mismatch

theorem requireKeyword_agrees (texts : List String) :
    Agrees tokens tokens' Token.Alike (requireKeyword texts) (requireKeyword texts) := by
  refine .bind (atKeyword_agrees _) ?_
  rintro _ _ rfl
  exact .ite rfl (fun _ => advance_agrees) fun _ => .mismatch

theorem identifier_agrees : Agrees tokens tokens' Token.Alike identifier identifier := by
  refine .bind current_agrees ?_
  rintro _ _ ⟨⟩
  exact .ite rfl (fun _ => advance_agrees) fun _ => .mismatch

theorem tokenCount_agrees : Agrees tokens tokens' Eq tokenCount tokenCount :=
  fun cursor => .ok cursor same.size_eq

/-! ### Brackets -/

theorem getElem_alike {index : Nat} (h : index < tokens.size) (h' : index < tokens'.size) :
    tokens[index].Alike tokens'[index] := by
  rw [← tokenAt_eq_getElem h, ← tokenAt_eq_getElem h']
  exact same.alike index

theorem closing?_alike (depth index : Nat) :
    Token.closing? tokens depth index = Token.closing? tokens' depth index := by
  fun_induction Token.closing? tokens depth index with
  | case1 depth index h hopener ih =>
    have h' : index < tokens'.size := same.size_eq ▸ h
    rw [(getElem_alike h h').isOpener_eq] at hopener
    rw [ih, Token.closing?_of_opener h' hopener]
  | case2 depth index h _ hcloser hdepth =>
    have h' : index < tokens'.size := same.size_eq ▸ h
    rw [(getElem_alike h h').isCloser_eq] at hcloser
    rw [Token.closing?_of_closer h' hcloser, if_pos hdepth]
  | case3 depth index h _ hcloser hdepth ih =>
    have h' : index < tokens'.size := same.size_eq ▸ h
    rw [(getElem_alike h h').isCloser_eq] at hcloser
    rw [ih, Token.closing?_of_closer h' hcloser, if_neg hdepth]
  | case4 depth index h hopener hcloser ih =>
    have h' : index < tokens'.size := same.size_eq ▸ h
    rw [(getElem_alike h h').isOpener_eq] at hopener
    rw [(getElem_alike h h').isCloser_eq] at hcloser
    have heq : Token.closing? tokens' depth index = Token.closing? tokens' depth (index + 1) := by
      rw [Token.closing?, dif_pos h', if_neg hopener, if_neg hcloser]
    rw [ih, heq]
  | case5 depth index h =>
    rw [same.size_eq] at h
    rw [Token.closing?, dif_neg h]

theorem matching?_alike (index : Nat) :
    Token.matching? tokens index = Token.matching? tokens' index := by
  unfold Token.matching?
  have hclosing : Token.closing? tokens 0 index = Token.closing? tokens' 0 index := closing?_alike 0 index
  by_cases h : index < tokens.size
  . have h' : index < tokens'.size := same.size_eq ▸ h
    rw [Array.getElem?_eq_getElem h, Array.getElem?_eq_getElem h', ← hclosing]
    cases hfound : Token.closing? tokens 0 index with
    | none => rfl
    | some found =>
      obtain ⟨_, hlt, _⟩ := Token.closing?_eq_some hfound
      have hlt' : found < tokens'.size := same.size_eq ▸ hlt
      simp only [Option.bind_eq_bind, Option.bind_some, Array.getElem?_eq_getElem hlt,
        Array.getElem?_eq_getElem hlt', (getElem_alike h h').closer?_eq,
        (getElem_alike hlt hlt').text_eq]
  . have h' : ¬ index < tokens'.size := same.size_eq ▸ h
    rw [Array.getElem?_eq_none (Nat.le_of_not_lt h), Array.getElem?_eq_none (Nat.le_of_not_lt h')]
    rfl

theorem search_agrees (index : Nat) : Agrees tokens tokens' Eq (search index) (search index) :=
  fun cursor => .ok cursor (matching?_alike index)

theorem closing?_agrees (index : Nat) :
    Agrees tokens tokens' Eq (closing? index) (closing? index) := by
  refine .bind (tokenNumber_agrees index) ?_
  rintro _ _ ⟨⟩
  exact .ite rfl (fun _ => search_agrees index) fun _ => .stopWith .unopened

theorem skipGroup_agrees : Agrees tokens tokens' Eq skipGroup skipGroup := by
  refine .bind .here ?_
  rintro cursor _ rfl
  refine .bind (closing?_agrees cursor) ?_
  rintro found _ rfl
  cases found with
  | some closer => exact .seek _
  | none =>
    refine .bind tokenCount_agrees ?_
    rintro count _ rfl
    exact .seek _

/-! ### Repetition -/

variable {view : α → γ} {goesOn : Token → Bool} {item : Parser α}

theorem manyWhile_agrees (hgoesOn : ∀ token token', token.Alike token' → goesOn token = goesOn token')
    (hitem : Agrees tokens tokens' (fun a a' => view a = view a') item item) :
    Agrees tokens tokens' (SameView view) (manyWhile goesOn item) (manyWhile goesOn item) := by
  apply loop_agrees (SameView view) rfl
  intro found found' hfound
  refine .bind current_agrees ?_
  intro token token' htoken
  refine .ite (by rw [hgoesOn _ _ htoken]) (fun _ => ?_) fun _ => .pure (.done hfound.reverse)
  exact .bind hitem fun _ _ h => .pure (.more (hfound.cons h))

theorem commaList_agrees (hgoesOn : ∀ token token', token.Alike token' → goesOn token = goesOn token')
    (hitem : Agrees tokens tokens' (fun a a' => view a = view a') item item) :
    Agrees tokens tokens' (SameView view) (commaList goesOn item) (commaList goesOn item) := by
  apply loop_agrees (SameView view) rfl
  intro found found' hfound
  refine .bind current_agrees ?_
  intro token token' htoken
  refine .ite (by rw [hgoesOn _ _ htoken]) (fun _ => ?_) fun _ => .pure (.done hfound.reverse)
  refine .bind hitem fun _ _ h => ?_
  exact .choose (accept_agrees ",") (.pure (.more (hfound.cons h)))
    (.pure (.done (hfound.cons h).reverse))

theorem skipWhile_agrees {passes opensGroup : Token → Bool}
    (hpasses : ∀ token token', token.Alike token' → passes token = passes token')
    (hopens : ∀ token token', token.Alike token' → opensGroup token = opensGroup token') :
    Agrees tokens tokens' Eq (skipWhile passes opensGroup) (skipWhile passes opensGroup) := by
  apply loop_agrees (fun _ _ => True) trivial
  intro _ _ _
  refine .bind current_agrees ?_
  intro token token' htoken
  refine .ite ?_ (fun _ => .pure (.done rfl)) fun _ => ?_
  . rw [htoken.isEnd_eq, hpasses _ _ htoken]
  . refine .ite (by rw [hopens _ _ htoken]) (fun _ => ?_) fun _ => ?_
    . exact .bind skipGroup_agrees fun _ _ _ => .pure (.more trivial)
    . exact .bind advance_agrees fun _ _ _ => .pure (.more trivial)

/-! ### Nodes and texts -/

omit same in
theorem spelling_agrees (first stop : Nat) :
    Agrees tokens tokens' (fun _ _ => True) (spelling first stop) (spelling first stop) :=
  fun cursor => .ok cursor trivial

theorem lastStop_agrees : Agrees tokens tokens' (fun _ _ => True) lastStop lastStop := by
  refine .bind .here ?_
  rintro cursor _ rfl
  refine .ite rfl (fun _ => .pure trivial) fun _ => ?_
  exact .bind (tokenNumber_agrees _) fun _ _ _ => .pure trivial

/-- A node has the form that it is given. -/
theorem node_agrees_form {form form' : Form} (first : Nat) {children children' : List Node}
    (hform : form.bare spelled = form'.bare spelled) (hchildren : SameNodes spelled children children') :
    Agrees tokens tokens'
      (fun node node' => SameNode spelled node node' ∧ node.form = form ∧ node'.form = form')
      (node form first children) (node form' first children') := by
  refine .bind (tokenNumber_agrees first) ?_
  rintro _ _ ⟨⟩
  refine .bind_eq .here fun cursor => .bind lastStop_agrees fun _ _ _ => .checked (.pure ⟨?_, rfl, rfl⟩)
  unfold SameNode
  rw [Node.bare_eq, Node.bare_eq]
  dsimp only
  rw [hform, hchildren]

theorem node_agrees {form form' : Form} (first : Nat) {children children' : List Node}
    (hform : form.bare spelled = form'.bare spelled) (hchildren : SameNodes spelled children children') :
    Agrees tokens tokens' (SameNode spelled) (node form first children)
      (node form' first children') :=
  (node_agrees_form first hform hchildren).mono fun _ _ h => h.1

omit same in
theorem dropBlanks_append (front back : String) :
    Text.dropBlanks (front ++ back) = Text.dropBlanks front ++ Text.dropBlanks back := by
  apply String.toList_injective
  simp [Text.dropBlanks]

omit same in
theorem dropBlanks_join (texts : List String) :
    Text.dropBlanks (String.join texts) = String.join (texts.map Text.dropBlanks) := by
  induction texts with
  | nil => rfl
  | cons text texts ih =>
    rw [String.join_cons, dropBlanks_append, ih, List.map_cons, String.join_cons]

omit same in
theorem dropBlanks_written (words : List Token) :
    Text.dropBlanks (String.join (words.map fun t => t.trivia ++ t.text))
      = String.join ((words.map Token.word).map fun word => word.2 ++ Text.dropBlanks word.1) := by
  rw [dropBlanks_join, List.map_map, List.map_map]
  congr 1
  apply List.map_congr_left
  intro token _
  exact dropBlanks_append _ _

omit same in
theorem toList_extract_eq (tokens : Array Token) (first stop : Nat) :
    (tokens.extract first stop).toList
      = (List.range' first (min stop tokens.size - first)).map (tokenAt tokens) := by
  apply List.ext_getElem
  . simp
    omega
  . intro index h h'
    rw [List.length_map, List.length_range'] at h'
    rw [List.getElem_map, List.getElem_range', Array.getElem_toList, Array.getElem_extract,
      Nat.one_mul, tokenAt_eq_getElem (by omega)]

theorem word_eq (hspelled : spelled = true) {index : Nat} (hindex : index < tokens.size)
    (h : isInside tokens index = true) :
    (tokenAt tokens index).word = (tokenAt tokens' index).word := by
  unfold Token.word
  rw [(same.alike index).text_eq, same.remarks_eq hspelled index hindex h]

theorem map_word_eq {first stop : Nat}
    (h : ∀ index, first ≤ index → index < stop →
      (tokenAt tokens index).word = (tokenAt tokens' index).word) :
    (tokens.extract first stop).toList.map Token.word
      = (tokens'.extract first stop).toList.map Token.word := by
  rw [toList_extract_eq, toList_extract_eq, ← same.size_eq, List.map_map, List.map_map]
  apply List.map_congr_left
  intro index hmem
  rw [List.mem_range'_1] at hmem
  exact h index hmem.1 (by omega)

/-- What is in front of the first token is not cut out with it. -/
theorem spelled_eq {first stop : Nat}
    (h : ∀ index, first < index → index < stop →
      (tokenAt tokens index).word = (tokenAt tokens' index).word) :
    Parser.spelled tokens first stop = Parser.spelled tokens' first stop := by
  have hrest : (tokens.extract (first + 1) stop).toList.map Token.word
      = (tokens'.extract (first + 1) stop).toList.map Token.word :=
    map_word_eq fun index hfirst hstop => h index hfirst hstop
  unfold Parser.spelled
  rw [toList_extract_eq, toList_extract_eq, ← same.size_eq] at hrest ⊢
  cases hcount : min stop tokens.size - first with
  | zero => rfl
  | succ count =>
    rw [show min stop tokens.size - (first + 1) = count by omega] at hrest
    rw [List.range'_succ, List.map_cons, List.map_cons]
    dsimp only
    rw [dropBlanks_append, dropBlanks_append, dropBlanks_written, dropBlanks_written, hrest,
      (same.alike first).text_eq]

end

end Parser

end ThreadLint
