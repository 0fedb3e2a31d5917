import ThreadLint.Grammar.Expression
import ThreadLint.Proofs.Grammar.Placed
import ThreadLint.Proofs.Token.Cut

/-!
This module contains that the first characters of a text decide whether an operand may begin with
its first token, whatever stands behind that token. It also contains which tokens the pieces of a text
become that stand at a known offset: a word, and what is written behind it.
-/

namespace ThreadLint.Token

/-! ### The class of a lexeme -/

/--
Whether a text begins with a literal that is written as one token.
-/
def startsLiteral (cs : List Char) : Bool :=
  startsMarkedString cs || cs.head? == some '"' || cs.head? == some '\'' || startsNumber cs

/--
Whether a token is a literal, a word or a mark, given the text that it is at the front of.
-/
inductive FrontClass (cs : List Char) : TokenKind → Nat → Prop where
  | literal {kind : TokenKind} {length : Nat} (starts : startsLiteral cs = true)
    (kind_mem : kind ∈ [.number, .string, .char]) : FrontClass cs kind length
  | word (starts : startsLiteral cs = false) (identifier : startsIdentifier cs = true) :
    FrontClass cs (wordKind (String.ofList (cs.take (wordLength cs)))) (wordLength cs)
  | mark {mark : String} (starts : startsLiteral cs = false)
    (identifier : startsIdentifier cs = false)
    (found : marks.find? (fun mark => mark.toList.isPrefixOf cs) = some mark) :
    FrontClass cs .punct mark.length

theorem frontClass_of_lexeme {offset : Nat} {cs : List Char} {kind : TokenKind} {length : Nat}
    (h : lexeme offset cs = .ok (kind, length)) : FrontClass cs kind length := by
  unfold lexeme at h
  split at h
  . next hstring =>
    obtain ⟨_, _, heq⟩ := bind_eq_ok.1 h
    cases heq
    refine .literal ?_ (by simp)
    rw [startsLiteral, hstring]
    simp
  . next hstring =>
    split at h
    . next hquote =>
      split at h
      . simp at h
      . cases h
        refine .literal ?_ (by simp)
        rw [startsLiteral, hquote]
        simp
    . next hquote =>
      split at h
      . next hnumber =>
        cases h
        refine .literal ?_ (by simp)
        rw [startsLiteral, hnumber]
        simp
      . next hnumber =>
        have hliteral : startsLiteral cs = false := by
          rw [Bool.not_eq_true] at hstring hquote hnumber
          rw [startsLiteral, hstring, hquote, hnumber]
          simp
        split at h
        . next hword =>
          cases h
          exact .word hliteral hword
        . next hword =>
          rw [Bool.not_eq_true] at hword
          split at h
          . next hmark =>
            cases h
            exact .mark hliteral hword hmark
          . simp at h

theorem startsLiteral_of_take {cs : List Char} {m : Nat} (h : startsLiteral (cs.take m) = true) :
    startsLiteral cs = true := by
  have hhead : ∀ c, (cs.take m).head? = some c → cs.head? = some c := by
    intro c hc
    rw [List.head?_take] at hc
    split at hc
    . cases hc
    . exact hc
  simp only [startsLiteral, Bool.or_eq_true, beq_iff_eq] at *
  rcases h with ((hstring | hquote) | hquote) | hnumber
  . exact .inl (.inl (.inl (startsMarkedString_of_take hstring)))
  . exact .inl (.inl (.inr (hhead _ hquote)))
  . exact .inl (.inr (hhead _ hquote))
  . exact .inr (startsNumber_of_take hnumber)

theorem FrontClass.startsLiteral_iff {cs : List Char} {kind : TokenKind} {length : Nat}
    (h : FrontClass cs kind length) :
    startsLiteral cs = true ↔ kind ∈ [TokenKind.number, .string, .char] := by
  cases h with
  | literal starts kind_mem => exact ⟨fun _ => kind_mem, fun _ => starts⟩
  | word starts _ =>
    rw [starts, wordKind]
    split
    all_goals simp
  | mark starts _ _ => simp [starts]

theorem startsLiteral_take {offset : Nat} {c : Char} {rest : List Char} {kind : TokenKind}
    {n m : Nat} (h : lexeme offset (c :: rest) = .ok (kind, n)) (hle : n ≤ m)
    (hstarts : startsLiteral (c :: rest) = true) : startsLiteral ((c :: rest).take m) = true := by
  rw [(frontClass_of_lexeme h).startsLiteral_iff] at hstarts
  rwa [(frontClass_of_lexeme (lexeme_take h hle)).startsLiteral_iff]

theorem startsLiteral_of_startsIdentifier {cs : List Char} (h : startsIdentifier cs = true) :
    startsLiteral cs = false := by
  rw [startsIdentifier_iff] at h
  rcases h with ⟨c, rest, rfl, h⟩ | ⟨c, rest, rfl, h⟩
  . have := ne_of_startsWord h '$' (by decide)
    have := ne_of_startsWord h '@' (by decide)
    have := ne_of_startsWord h '"' (by decide)
    have := ne_of_startsWord h '\'' (by decide)
    have := ne_of_startsWord h '.' (by decide)
    have := isDigit_of_startsWord h
    have hmarked : startsMarkedString (c :: rest) = false := by
      unfold startsMarkedString
      split
      all_goals simp_all
    have hnumber : startsNumber (c :: rest) = false := by
      unfold startsNumber
      split
      all_goals simp_all
    simp_all [startsLiteral]
  . have := ne_of_startsWord h '"' (by decide)
    have := ne_of_startsWord h '$' (by decide)
    have hmarked : startsMarkedString ('@' :: c :: rest) = false := by
      unfold startsMarkedString
      split
      all_goals simp_all
    have hnumber : startsNumber ('@' :: c :: rest) = false := by
      show Text.isDigit '@' = false
      decide
    simp [startsLiteral, hmarked, hnumber]

theorem FrontClass.of_startsIdentifier {cs : List Char} {kind : TokenKind} {length : Nat}
    (h : FrontClass cs kind length) (hword : startsIdentifier cs = true) :
    kind = wordKind (String.ofList (cs.take (wordLength cs))) ∧ length = wordLength cs := by
  have hliteral := startsLiteral_of_startsIdentifier hword
  cases h with
  | literal starts _ => simp [hliteral] at starts
  | word _ _ => exact ⟨rfl, rfl⟩
  | mark _ identifier _ => simp [hword] at identifier

/-! ### The first token of an operand -/

theorem takeWhile_eq_of_take {test : Char → Bool} {cs : List Char} {m : Nat}
    (h : ((cs.take m).takeWhile test).length < m) :
    (cs.take m).takeWhile test = cs.takeWhile test := by
  induction cs generalizing m with
  | nil => simp
  | cons c rest ih =>
    cases m with
    | zero => simp at h
    | succ m =>
      rw [List.take_succ_cons] at h ⊢
      by_cases hc : test c
      . rw [List.takeWhile_cons_of_pos hc] at h ⊢
        rw [List.takeWhile_cons_of_pos hc]
        rw [ih (by simpa using h)]
      . rw [List.takeWhile_cons_of_neg hc, List.takeWhile_cons_of_neg hc]

theorem wordLength_eq_of_take {cs : List Char} {m : Nat} (h : wordLength (cs.take m) < m) :
    wordLength (cs.take m) = wordLength cs := by
  unfold wordLength at *
  rw [List.drop_take] at *
  rw [takeWhile_eq_of_take (by omega)]

/-- A word that is seen as a whole in two texts is the same in both. -/
theorem wordLength_congr {cs cs' : List Char} {m : Nat} (hcs : cs.take m = cs'.take m)
    (hle : wordLength cs ≤ m) (hle' : wordLength cs' ≤ m ∨ wordLength cs < m) :
    wordLength cs' = wordLength cs := by
  have htake := wordLength_take hle
  rw [hcs] at htake
  cases hle' with
  | inl hle' => rw [← htake, wordLength_take hle']
  | inr hlt => rw [← htake, wordLength_eq_of_take (by omega)]

theorem mem_of_begins_of_punct {token : Token} (hkind : token.kind = .punct)
    (h : Parser.Begins token = true) : token.text ∈ ["(", "[", "\x7b"] := by
  simpa [Parser.Begins, Parser.beginsOperand, Token.isIdentifier, Token.isLiteral, Token.isPunct,
    hkind] using h

/-- A bracket at the front of a text is the first token, whatever stands behind it. -/
theorem frontClass_of_bracket {c : Char} {rest : List Char} {kind : TokenKind} {length : Nat}
    (hc : c ∈ ['(', '[', '\x7b']) (h : FrontClass (c :: rest) kind length) :
    kind = .punct ∧ length = 1 := by
  have hliteral : startsLiteral (c :: rest) = false := by
    simp only [List.mem_cons, List.not_mem_nil, or_false] at hc
    rcases hc with rfl | rfl | rfl
    all_goals rfl
  cases h with
  | literal starts _ => simp [hliteral] at starts
  | word _ identifier =>
    rw [startsIdentifier_iff] at identifier
    rcases identifier with ⟨_, _, heq, h⟩ | ⟨_, _, heq, _⟩
    . cases heq
      simp only [List.mem_cons, List.not_mem_nil, or_false] at hc
      rcases hc with rfl | rfl | rfl
      all_goals exact absurd h (by decide)
    . cases heq
      simp at hc
  | mark _ _ found =>
    simp only [List.mem_cons, List.not_mem_nil, or_false] at hc
    rcases hc with rfl | rfl | rfl
    all_goals
      simp [marks, List.isPrefixOf] at found
      rw [← found]
      decide

/-- A mark that an operand may begin with is a bracket. -/
theorem bracket_of_begins {c : Char} {rest : List Char} {token : Token}
    (hkind : token.kind = .punct) (hbegins : Parser.Begins token = true)
    (htext : token.text.toList = (c :: rest).take token.text.length) (hpos : 0 < token.text.length) :
    c ∈ ['(', '[', '\x7b'] := by
  have hbracket := mem_of_begins_of_punct hkind hbegins
  obtain ⟨n, hn⟩ : ∃ n, token.text.length = n + 1 := ⟨token.text.length - 1, by omega⟩
  have hhead := congrArg List.head? htext
  rw [hn, List.take_succ_cons, List.head?_cons] at hhead
  simp only [List.mem_cons, List.not_mem_nil, or_false] at hbracket
  rcases hbracket with heq | heq | heq
  all_goals
    simp only [heq, String.reduceToList, List.head?_cons, Option.some.injEq] at hhead
    simp [← hhead]

/--
Whether a character may be the first one of what is passed over in front of a token.
-/
def startsTrivia (c : Char) : Bool :=
  isSpacing c || c == '/' || c == '#'

theorem startsTrivia_of_startsWord {c : Char} (h : startsWord c = true) : startsTrivia c = false := by
  rw [Bool.eq_false_iff]
  intro hc
  simp only [startsTrivia, isSpacing, Bool.or_eq_true, beq_iff_eq] at hc
  rcases hc with (((((((rfl | rfl) | rfl) | rfl) | rfl) | rfl) | rfl) | rfl) | rfl
  all_goals exact absurd h (by decide +kernel)

theorem startsTrivia_eq_false {offset : Nat} {c : Char} {rest : List Char} {token : Token}
    (h : lexeme offset (c :: rest) = .ok (token.kind, token.text.length))
    (htext : token.text.toList = (c :: rest).take token.text.length)
    (hbegins : Parser.Begins token = true) : startsTrivia c = false := by
  have hclass := frontClass_of_lexeme h
  have hpos := (lexeme_bounds h).2.1
  rw [Bool.eq_false_iff]
  intro hc
  simp only [startsTrivia, isSpacing, Bool.or_eq_true, beq_iff_eq] at hc
  have hother : startsLiteral (c :: rest) = false ∧ startsIdentifier (c :: rest) = false := by
    rcases hc with (((((((rfl | rfl) | rfl) | rfl) | rfl) | rfl) | rfl) | rfl) | rfl
    all_goals exact ⟨rfl, show startsWord _ = false by decide +kernel⟩
  have hkind : token.kind = .punct := by
    generalize token.kind = kind at hclass
    generalize token.text.length = length at hclass
    cases hclass with
    | literal starts _ => simp [hother.1] at starts
    | word _ identifier => simp [hother.2] at identifier
    | mark => rfl
  have hbracket := bracket_of_begins hkind hbegins htext hpos
  simp only [List.mem_cons, List.not_mem_nil, or_false] at hbracket
  rcases hbracket with rfl | rfl | rfl
  all_goals simp at hc

/--
Two texts that begin alike, one with a token that an operand may begin with, both begin with such a
token. Either all of both tokens belongs to what is alike, or the first one and one more character.
-/
theorem begins_congr {offset offset' m : Nat} {c : Char} {rest cs : List Char}
    {token token' : Token} (hcs : (c :: rest).take m = cs.take m)
    (h : lexeme offset (c :: rest) = .ok (token.kind, token.text.length))
    (h' : lexeme offset' cs = .ok (token'.kind, token'.text.length))
    (htext : token.text.toList = (c :: rest).take token.text.length)
    (htext' : token'.text.toList = cs.take token'.text.length)
    (hle : token.text.length ≤ m) (hle' : token'.text.length ≤ m ∨ token.text.length < m)
    (hbegins : Parser.Begins token = true) : Parser.Begins token' = true := by
  have hclass := frontClass_of_lexeme h
  have hclass' := frontClass_of_lexeme h'
  by_cases hliteral : startsLiteral (c :: rest) = true
  . have hliteral' : startsLiteral cs = true := by
      apply @startsLiteral_of_take cs m
      rw [← hcs]
      exact startsLiteral_take h hle hliteral
    rw [hclass'.startsLiteral_iff] at hliteral'
    simp [Parser.Begins, Parser.beginsOperand, Token.isLiteral] at hliteral' ⊢
    grind
  rw [Bool.not_eq_true] at hliteral
  by_cases hword : startsIdentifier (c :: rest) = true
  . obtain ⟨hkind, hlength⟩ := hclass.of_startsIdentifier hword
    have hword' : startsIdentifier cs = true := by
      apply @startsIdentifier_of_take cs m
      rw [← hcs]
      exact startsIdentifier_take hword (by omega)
    obtain ⟨hkind', hlength'⟩ := hclass'.of_startsIdentifier hword'
    have hlengths : wordLength cs = wordLength (c :: rest) :=
      wordLength_congr hcs (by omega) (by omega)
    have htexts : token'.text = token.text := by
      apply String.toList_injective
      rw [htext, htext', hlength, hlength', hlengths]
      have := congrArg (List.take (wordLength (c :: rest))) hcs
      rw [List.take_take, List.take_take, Nat.min_eq_left (by omega)] at this
      exact this.symm
    have hkinds : token'.kind = token.kind := by
      rw [hkind, hkind', ← hlength, ← hlength', ← htext, ← htext', htexts]
    simpa [Parser.Begins, Parser.beginsOperand, Token.isLiteral, Token.isIdentifier, Token.isPunct,
      hkinds, htexts] using hbegins
  . obtain ⟨hlt, hpos, _⟩ := lexeme_bounds h
    have hkind : token.kind = .punct := by
      generalize token.kind = kind at hclass
      generalize token.text.length = length at hclass
      cases hclass with
      | literal starts _ => simp [hliteral] at starts
      | word _ identifier => exact absurd identifier hword
      | mark => rfl
    obtain ⟨k, hk⟩ : ∃ k, m = k + 1 := ⟨m - 1, by omega⟩
    obtain ⟨rest', rfl⟩ : ∃ rest', cs = c :: rest' := by
      rw [hk, List.take_succ_cons] at hcs
      obtain ⟨rest', heq, _⟩ := exists_cons_of_take hcs.symm
      exact ⟨rest', heq⟩
    have hc := bracket_of_begins hkind hbegins htext hpos
    obtain ⟨hkind', hlength'⟩ := frontClass_of_bracket hc hclass'
    rw [hlength', List.take_succ_cons, List.take_zero] at htext'
    have htext' : token'.text = String.ofList [c] := by
      rw [← htext', String.ofList_toList]
    apply Parser.begins_of_isPunct (fun _ => id)
    rw [Token.isPunct_iff, htext']
    refine ⟨hkind', ?_⟩
    simp only [List.mem_cons, List.not_mem_nil, or_false] at hc
    rcases hc with rfl | rfl | rfl
    all_goals simp

/-- A word that does not go on is the token at the front of a text. -/
theorem lexeme_of_word {offset length : Nat} {word : String} {d : Char} {more : List Char}
    {kind : TokenKind} (hword : IsWord word) (hd : continuesWord d = false)
    (h : lexeme offset (word.toList ++ d :: more) = .ok (kind, length)) :
    kind = wordKind word ∧ length = word.length := by
  obtain ⟨c, rest, hchars, hc, hrest⟩ := hword
  have hstarts : startsIdentifier (word.toList ++ d :: more) = true := by
    rw [startsIdentifier_iff, hchars]
    exact .inl ⟨c, rest ++ d :: more, rfl, hc⟩
  have hlength : wordLength (word.toList ++ d :: more) = word.length := by
    rw [← String.length_toList, hchars]
    unfold wordLength
    simp only [List.cons_append, List.drop_succ_cons, List.drop_zero, List.length_cons]
    rw [List.takeWhile_append_of_pos hrest, List.takeWhile_cons_of_neg (by simp [hd])]
    simp
    omega
  obtain ⟨hkind, hlength'⟩ := (frontClass_of_lexeme h).of_startsIdentifier hstarts
  rw [hlength] at hkind hlength'
  rw [← String.length_toList, List.take_left', String.ofList_toList] at hkind
  . exact ⟨hkind, hlength'⟩
  . rfl

/-! ### What is passed over in front of a token -/

theorem triviaLength_eq_zero {offset : Nat} {c : Char} {rest : List Char}
    (hc : startsTrivia c = false) : triviaLength offset false (c :: rest) = .ok 0 := by
  simp only [startsTrivia, Bool.or_eq_false_iff, beq_eq_false_iff_ne] at hc
  unfold triviaLength
  split
  all_goals simp_all

theorem triviaLength_blank {offset : Nat} {c : Char} {rest : List Char}
    (hc : startsTrivia c = false) : triviaLength offset false (' ' :: c :: rest) = .ok 1 := by
  have hrest : triviaLength (offset + 1) (freshAfter false ' ') (c :: rest) = .ok 0 :=
    triviaLength_eq_zero hc
  unfold triviaLength
  split
  . next heq => cases heq
  . next heq => cases heq
  . next heq => cases heq
  . next heq =>
    cases heq
    rw [if_pos (by decide), hrest]
    rfl

theorem drop_of_lexeme {text rest : List Char} {offset offset' trivia length : Nat} {c : Char}
    {kind : TokenKind} (hdrop : (text.drop offset).drop trivia = c :: rest)
    (hlexeme : lexeme offset' (c :: rest) = .ok (kind, length)) :
    rest.drop (length - 1) = text.drop (offset + trivia + length) := by
  have hpos := (lexeme_bounds hlexeme).2.1
  rw [List.drop_drop] at hdrop
  rw [← List.drop_drop, hdrop, ← @List.drop_succ_cons _ c]
  rw [show length - 1 + 1 = length by omega]

/-- A token begins behind what is passed over behind the one in front of it. -/
theorem start_of_tokensFrom {text : List Char} {offset : Nat} {fresh : Bool}
    {front back : List Token} {token token' : Token}
    (h : tokensFrom offset fresh (text.drop offset) = .ok (front ++ token :: token' :: back)) :
    ∃ trivia, triviaLength token.stop false (text.drop token.stop) = .ok trivia ∧
      token'.start = token.stop + trivia := by
  induction front generalizing offset fresh with
  | nil =>
    obtain ⟨trivia, _, h⟩ := tokensFrom_eq_ok h
    rcases h with ⟨_, htokens⟩ | ⟨c, rest, kind, length, others, hdrop, hlexeme, hothers, htokens⟩
    . cases htokens
    . have hbehind := drop_of_lexeme hdrop hlexeme
      rw [List.nil_append, List.cons.injEq] at htokens
      obtain ⟨rfl, rfl⟩ := htokens
      obtain ⟨trivia', htrivia', h⟩ := tokensFrom_eq_ok hothers
      have hstop : (Token.mk kind (String.ofList ((c :: rest).take length)) (offset + trivia)
          (String.ofList ((text.drop offset).take trivia))).stop = offset + trivia + length := by
        have := (lexeme_bounds hlexeme).2.2
        rw [stop, String.length_ofList, List.length_take, List.length_cons]
        dsimp only
        omega
      rw [hstop, ← hbehind]
      refine ⟨trivia', htrivia', ?_⟩
      rcases h with ⟨_, htokens⟩ | ⟨_, _, _, _, _, _, _, _, htokens⟩
      . cases htokens
        rfl
      . cases htokens
        rfl
  | cons first front ih =>
    obtain ⟨trivia, _, h⟩ := tokensFrom_eq_ok h
    rcases h with ⟨_, htokens⟩ | ⟨c, rest, kind, length, others, hdrop, hlexeme, hothers, htokens⟩
    . simp at htokens
    . rw [List.cons_append, List.cons.injEq] at htokens
      obtain ⟨rfl, rfl⟩ := htokens
      rw [drop_of_lexeme hdrop hlexeme] at hothers
      exact ih hothers

/-! ### Tokens at a known offset -/

open ThreadLint.Parser

/--
Whether the token at an index begins where the given characters are all that is left of a text.
-/
def Reads (source : Source) (tokens : List Token) (index : Nat) (cs : List Char) : Prop :=
  index ≤ last tokens.toArray ∧ source.chars.drop (startAt tokens.toArray index) = cs

variable {source : Source} {tokens : List Token} {index : Nat}

theorem Tiles.text_toList {text : List Char} (h : Tiles text 0 tokens) {token : Token}
    (hmem : token ∈ tokens) :
    token.text.toList = (text.drop token.start).take token.text.length := by
  have := (h.text_eq hmem).2
  rw [Token.stop] at this
  conv => lhs; rw [this, Text.toList_slice, Nat.add_sub_cancel_left]

section

variable (htokens : tokenize source = .ok tokens)

include htokens

theorem lexeme_of_reads {c : Char} {cs : List Char} (h : Reads source tokens index (c :: cs)) :
    index < last tokens.toArray ∧
      lexeme (startAt tokens.toArray index) (c :: cs) =
        .ok ((tokenAt tokens.toArray index).kind, (tokenAt tokens.toArray index).text.length) ∧
      (tokenAt tokens.toArray index).text.toList
        = (c :: cs).take (tokenAt tokens.toArray index).text.length := by
  have tiles := Tiles.of_tokenize htokens
  have := Lawful.of_tiles tiles
  obtain ⟨hindex, hdrop⟩ := h
  have hlt : index < last tokens.toArray := by
    apply Nat.lt_of_le_of_ne hindex
    intro heq
    rw [heq, startAt_last_of_tiles tiles, List.drop_length] at hdrop
    cases hdrop
  have hmem := tokenAt_mem_of_tiles tiles hindex
  have hlexeme := tiles.lexeme_eq hmem (not_isEnd_of_lt_last hlt)
  have htext := tiles.text_toList hmem
  unfold startAt at hdrop
  rw [hdrop] at hlexeme htext
  exact ⟨hlt, hlexeme, htext⟩

/-- A token begins behind what is passed over behind the one in front of it. -/
theorem start_of_reads {c : Char} {cs : List Char} (h : Reads source tokens index (c :: cs)) :
    ∃ trivia, triviaLength (stopAt tokens.toArray index) false
        ((c :: cs).drop (tokenAt tokens.toArray index).text.length) = .ok trivia ∧
      startAt tokens.toArray (index + 1) = stopAt tokens.toArray index + trivia := by
  have tiles := Tiles.of_tokenize htokens
  have := Lawful.of_tiles tiles
  obtain ⟨hlt, _⟩ := lexeme_of_reads htokens h
  have hsize : index + 1 < tokens.length := by
    simp [last] at hlt
    omega
  have hfirst : tokenAt tokens.toArray index = tokens[index] := tokenAt_eq_getElem (by simp; omega)
  have hsecond : tokenAt tokens.toArray (index + 1) = tokens[index + 1] :=
    tokenAt_eq_getElem (by simpa using hsize)
  have hsplit : tokens
      = tokens.take index ++ tokens[index] :: tokens[index + 1] :: tokens.drop (index + 2) := by
    rw [← List.drop_eq_getElem_cons, ← List.drop_eq_getElem_cons, List.take_append_drop]
  unfold tokenize at htokens
  rw [mapError_eq_ok, hsplit] at htokens
  obtain ⟨trivia, htrivia, hstart⟩ := start_of_tokensFrom htokens
  rw [← hfirst] at htrivia
  rw [← hfirst, ← hsecond] at hstart
  refine ⟨trivia, ?_, hstart⟩
  rw [← h.2, List.drop_drop]
  exact htrivia

theorem reads_next_blank {c d : Char} {cs more : List Char} {length : Nat}
    (h : Reads source tokens index (c :: cs))
    (hlength : (tokenAt tokens.toArray index).text.length = length)
    (hmore : (c :: cs).drop length = ' ' :: d :: more) (hd : startsTrivia d = false) :
    startAt tokens.toArray (index + 1) = startAt tokens.toArray index + length + 1 ∧
      Reads source tokens (index + 1) (d :: more) := by
  obtain ⟨hlt, _⟩ := lexeme_of_reads htokens h
  obtain ⟨trivia, htrivia, hstart⟩ := start_of_reads htokens h
  rw [hlength, hmore, triviaLength_blank hd] at htrivia
  cases htrivia
  have hstart : startAt tokens.toArray (index + 1) = startAt tokens.toArray index + length + 1 := by
    rw [hstart, ← hlength]
    rfl
  refine ⟨hstart, hlt, ?_⟩
  have hdrop := congrArg (List.drop 1) hmore
  rw [List.drop_drop, ← h.2, List.drop_drop] at hdrop
  rw [hstart, Nat.add_assoc]
  exact hdrop

/-- A word that does not go on is a token. -/
theorem word_of_reads {word : String} {d : Char} {more : List Char} (hword : IsWord word)
    (hd : continuesWord d = false)
    (h : Reads source tokens index (word.toList ++ d :: more)) :
    index < last tokens.toArray ∧ (tokenAt tokens.toArray index).kind = wordKind word ∧
      (tokenAt tokens.toArray index).text = word := by
  obtain ⟨c, rest, hchars, _⟩ := id hword
  have hreads := h
  rw [hchars, List.cons_append] at hreads
  obtain ⟨hlt, hlexeme, htext⟩ := lexeme_of_reads htokens hreads
  rw [← List.cons_append, ← hchars] at hlexeme htext
  obtain ⟨hkind, hlength⟩ := lexeme_of_word hword hd hlexeme
  refine ⟨hlt, hkind, ?_⟩
  rw [hlength, ← String.length_toList, List.take_left'] at htext
  . exact String.toList_injective htext
  . rfl

end

end ThreadLint.Token
