import ThreadLint.Proofs.Token.Tiling

/-!
This module contains that words are taken as a whole: a token that begins like a name goes on as far
as the name does.
-/

namespace ThreadLint

namespace Text

/--
Whether no code point is covered by two lists of ranges: the range that ends first is in front of the
other one, all along the two lists.
-/
def CodeRanges.areApart : CodeRanges → CodeRanges → Bool
  | [], _ => true
  | _, [] => true
  | (first, last) :: rest, (first', last') :: rest' =>
    if last < first' then areApart rest ((first', last') :: rest')
    else if last' < first then areApart ((first, last) :: rest) rest'
    else false
termination_by ranges others => ranges.length + others.length

theorem CodeRanges.not_covers {ranges others : CodeRanges} {code : Nat}
    (h : ranges.areApart others = true) (hcovers : ranges.covers code = true) :
    others.covers code = false := by
  rw [Bool.eq_false_iff]
  intro hothers
  fun_induction areApart ranges others with
  | case1 => simp [covers] at hcovers
  | case2 => simp [covers] at hothers
  | case3 first last rest first' last' rest' hlt ih =>
    apply ih h ?_ hothers
    simp only [covers, Bool.and_eq_true, Bool.or_eq_true, decide_eq_true_eq] at hcovers hothers
    apply hcovers.2.resolve_left
    omega
  | case4 first last rest first' last' rest' _ hlt ih =>
    apply ih h hcovers
    simp only [covers, Bool.and_eq_true, Bool.or_eq_true, decide_eq_true_eq] at hcovers hothers
    apply hothers.2.resolve_left
    omega
  | case5 => simp at h

theorem CodeRanges.le_of_covers {ranges : CodeRanges} {first last code : Nat}
    (hhead : ranges.head? = some (first, last)) (h : ranges.covers code = true) : first ≤ code := by
  obtain ⟨rest, heq⟩ := List.head?_eq_some_iff.1 hhead
  rw [heq] at h
  simp only [covers, Bool.and_eq_true, decide_eq_true_eq] at h
  exact h.1

/--
The code points of white space.
-/
def blankRanges : CodeRanges :=
  [(9, 13), (28, 32), (0x85, 0x85), (0xa0, 0xa0), (0x1680, 0x1680), (0x2000, 0x200a),
   (0x2028, 0x2029), (0x202f, 0x202f), (0x205f, 0x205f), (0x3000, 0x3000)]

theorem covers_of_isBlank {c : Char} (h : isBlank c = true) :
    blankRanges.covers c.toNat = true := by
  simp only [isBlank, Bool.or_eq_true, Bool.and_eq_true, decide_eq_true_eq, beq_iff_eq] at h
  simp only [blankRanges, CodeRanges.covers, Bool.or_eq_true, Bool.and_eq_true, decide_eq_true_eq]
  omega

theorem isBlank_of_isLetterOrNumeral {c : Char} (h : isLetterOrNumeral c = true) :
    isBlank c = false := by
  rw [Bool.eq_false_iff]
  intro hblank
  have hcovers := covers_of_isBlank hblank
  simp only [isLetterOrNumeral, Bool.or_eq_true] at h
  have hletter : blankRanges.areApart letterRanges = true := by decide +kernel
  have hnumeral : blankRanges.areApart numericRanges = true := by decide +kernel
  have hletter := CodeRanges.not_covers hletter hcovers
  have hnumeral := CodeRanges.not_covers hnumeral hcovers
  unfold isLetter at h
  rw [hletter, hnumeral] at h
  cases h with
  | inl h => cases h
  | inr h => cases h

theorem isDigit_of_isLetter {c : Char} (h : isLetter c = true) : isDigit c = false :=
  CodeRanges.not_covers (by decide +kernel : letterRanges.areApart digitRanges = true) h

end Text

namespace Token

theorem continuesWord_of_startsWord {c : Char} (h : startsWord c = true) :
    continuesWord c = true := by
  simp only [startsWord, Bool.or_eq_true] at h
  simp only [continuesWord, Text.isLetterOrNumeral, Bool.or_eq_true]
  cases h with
  | inl h => exact .inl h
  | inr h => exact .inr (.inl h)

theorem isDigit_of_startsWord {c : Char} (h : startsWord c = true) : Text.isDigit c = false := by
  simp only [startsWord, Bool.or_eq_true, beq_iff_eq] at h
  cases h with
  | inl h =>
    rw [h]
    decide
  | inr h => exact Text.isDigit_of_isLetter h

/-- The letters begin with the one at the code point 65. -/
theorem le_of_startsWord {c : Char} (h : startsWord c = true) : 65 ≤ c.toNat := by
  simp only [startsWord, Bool.or_eq_true, beq_iff_eq] at h
  cases h with
  | inl h =>
    rw [h]
    decide
  | inr h => exact Text.CodeRanges.le_of_covers rfl h

theorem ne_of_startsWord {c : Char} (h : startsWord c = true) (d : Char) (hd : d.toNat < 65) :
    c ≠ d := by
  intro heq
  have := le_of_startsWord h
  rw [heq] at this
  omega

theorem lexeme_of_startsWord {offset : Nat} {c : Char} {rest : List Char} {kind : TokenKind}
    {n : Nat} (hc : startsWord c = true) (h : lexeme offset (c :: rest) = .ok (kind, n)) :
    n = wordLength (c :: rest) := by
  have hmarked : startsMarkedString (c :: rest) = false := by
    have := ne_of_startsWord hc '$' (by decide)
    have := ne_of_startsWord hc '@' (by decide)
    unfold startsMarkedString
    split
    all_goals simp_all
  have hnumber : startsNumber (c :: rest) = false := by
    have := ne_of_startsWord hc '.' (by decide)
    have := isDigit_of_startsWord hc
    unfold startsNumber
    split
    all_goals simp_all
  have hword : startsIdentifier (c :: rest) = true := by
    have := ne_of_startsWord hc '@' (by decide)
    unfold startsIdentifier
    split
    all_goals simp_all
  have hquote := ne_of_startsWord hc '"' (by decide)
  have happos := ne_of_startsWord hc '\'' (by decide)
  unfold lexeme at h
  simp [hmarked, hnumber, hword, hquote, happos] at h
  exact h.2.symm

/-! ### Words at tokens -/

/--
Whether a text is a word without a mark in front of it.
-/
def IsWord (word : String) : Prop :=
  ∃ c rest, word.toList = c :: rest ∧ startsWord c = true ∧
    ∀ d ∈ rest, continuesWord d = true

instance (word : String) : Decidable (IsWord word) :=
  decidable_of_iff ((match word.toList with
    | c :: rest => startsWord c && rest.all continuesWord
    | [] => false) = true) (by
      unfold IsWord
      split
      . next c rest hword =>
        rw [Bool.and_eq_true, List.all_eq_true]
        constructor
        . rintro ⟨hc, hrest⟩
          exact ⟨c, rest, hword, hc, hrest⟩
        . rintro ⟨_, _, heq, h⟩
          cases hword.symm.trans heq
          exact h
      . next hword => simp [hword])

theorem IsWord.length_pos {word : String} (h : IsWord word) : 0 < word.length := by
  obtain ⟨c, rest, h, _⟩ := h
  rw [← String.length_toList, h]
  simp

theorem isBlank_of_continuesWord {c : Char} (h : continuesWord c = true) :
    Text.isBlank c = false := by
  simp only [continuesWord, Bool.or_eq_true, beq_iff_eq] at h
  cases h with
  | inl h =>
    rw [h]
    decide
  | inr h => exact Text.isBlank_of_isLetterOrNumeral h

theorem IsWord.continues {word : String} (h : IsWord word) {c : Char} (hc : c ∈ word.toList) :
    continuesWord c = true := by
  obtain ⟨d, rest, hword, hd, hrest⟩ := h
  rw [hword, List.mem_cons] at hc
  cases hc with
  | inl heq =>
    rw [heq]
    exact continuesWord_of_startsWord hd
  | inr hmem => exact hrest c hmem

/-- A word has no mark in front that lets a keyword be a name. -/
theorem identifierName_of_isWord {token : Token} (h : IsWord token.text) :
    token.identifierName = token.text := by
  obtain ⟨c, rest, hword, hc, _⟩ := h
  have hmark := ne_of_startsWord hc '@' (by decide)
  unfold identifierName
  split
  . next heq =>
    rw [hword, List.cons.injEq] at heq
    exact absurd heq.1 hmark
  . rfl

theorem Tiles.lexeme_eq {cs : List Char} {offset : Nat} {tokens : List Token}
    (h : Tiles cs offset tokens) {token : Token} (hmem : token ∈ tokens)
    (hend : token.isEnd = false) :
    lexeme token.start (cs.drop token.start) = .ok (token.kind, token.text.length) := by
  induction h with
  | last =>
    rw [List.mem_singleton] at hmem
    rw [hmem] at hend
    simp [isEnd] at hend
  | next _ _ _ lexed _ _ _ _ ih =>
    rw [List.mem_cons] at hmem
    cases hmem with
    | inl heq =>
      rw [heq]
      exact lexed
    | inr hmem => exact ih hmem

/-- A token that begins with a word has all of it. -/
theorem Tiles.length_le_of_slice {cs : List Char} {tokens : List Token} (h : Tiles cs 0 tokens)
    {token : Token} (hmem : token ∈ tokens) (hend : token.isEnd = false) {word : String}
    (hword : IsWord word) (hslice : Text.slice cs token.start (token.start + word.length) = word) :
    word.length ≤ token.text.length := by
  obtain ⟨c, rest, hchars, hc, hrest⟩ := hword
  have hlexeme := h.lexeme_eq hmem hend
  have htake : (cs.drop token.start).take word.length = c :: rest := by
    rw [← hchars, ← hslice, Text.toList_slice, Nat.add_sub_cancel_left, hslice]
  obtain ⟨more, hdrop⟩ : ∃ more, cs.drop token.start = c :: (rest ++ more) :=
    ⟨(cs.drop token.start).drop word.length, by
      rw [← List.cons_append, ← htake, List.take_append_drop]⟩
  rw [hdrop] at hlexeme
  rw [lexeme_of_startsWord hc hlexeme]
  rw [← String.length_toList, hchars]
  unfold wordLength
  simp only [List.drop_succ_cons, List.drop_zero, List.length_cons]
  rw [List.takeWhile_append_of_pos hrest]
  simp
  omega

theorem lexeme_of_identifier {offset : Nat} {c : Char} {rest : List Char} {n : Nat}
    (h : lexeme offset (c :: rest) = .ok (.identifier, n)) :
    startsIdentifier (c :: rest) = true ∧ n = wordLength (c :: rest) := by
  unfold lexeme at h
  split at h
  . obtain ⟨_, _, hn⟩ := bind_eq_ok.1 h
    cases hn
  . split at h
    . split at h
      . simp at h
      . simp at h
    . split at h
      . simp at h
      . split at h
        . next hword =>
          simp only [Except.ok.injEq, Prod.mk.injEq] at h
          exact ⟨hword, h.2.symm⟩
        . split at h
          . simp at h
          . simp at h

theorem take_wordLength (c : Char) (rest : List Char) :
    (c :: rest).take (wordLength (c :: rest)) = c :: rest.takeWhile continuesWord := by
  unfold wordLength
  rw [Nat.add_comm, List.drop_succ_cons, List.drop_zero, List.take_succ_cons]
  rw [← List.prefix_iff_eq_take.1 (List.takeWhile_prefix continuesWord)]

theorem Tiles.text_of_identifier {cs : List Char} {tokens : List Token} (h : Tiles cs 0 tokens)
    {token : Token} (hmem : token ∈ tokens) (hidentifier : token.isIdentifier = true) :
    ∃ c rest, startsIdentifier (c :: rest) = true ∧
      token.text.toList = c :: rest.takeWhile continuesWord := by
  simp only [isIdentifier, beq_iff_eq] at hidentifier
  have hlexeme := h.lexeme_eq hmem (by simp [isEnd, hidentifier])
  obtain ⟨hstop, htext⟩ := h.text_eq hmem
  rw [hidentifier] at hlexeme
  cases hdrop : cs.drop token.start with
  | nil =>
    rw [hdrop] at hlexeme
    have : marks.find? (fun mark => mark.toList.isPrefixOf []) = none := by decide
    simp [lexeme, startsMarkedString, startsNumber, startsIdentifier, this] at hlexeme
  | cons c rest =>
    rw [hdrop] at hlexeme
    obtain ⟨hstarts, hlength⟩ := lexeme_of_identifier hlexeme
    refine ⟨c, rest, hstarts, ?_⟩
    rw [htext, Text.toList_slice, hdrop]
    rw [show token.stop - token.start = wordLength (c :: rest) by
      rw [← hlength, stop, Nat.add_sub_cancel_left]]
    exact take_wordLength c rest

theorem Tiles.isWord_identifierName {cs : List Char} {tokens : List Token} (h : Tiles cs 0 tokens)
    {token : Token} (hmem : token ∈ tokens) (hidentifier : token.isIdentifier = true) :
    IsWord token.identifierName := by
  obtain ⟨c, rest, hstarts, htext⟩ := h.text_of_identifier hmem hidentifier
  have hrest : ∀ d ∈ rest.takeWhile continuesWord, continuesWord d = true :=
    fun d hd => List.all_eq_true.1 List.all_takeWhile d hd
  unfold identifierName
  split
  . next tail heq =>
    rw [htext, List.cons.injEq] at heq
    obtain ⟨rfl, rfl⟩ := heq
    cases rest with
    | nil =>
      have hmark : startsWord '@' = true := by simpa [startsIdentifier] using hstarts
      exact absurd rfl (ne_of_startsWord hmark '@' (by decide))
    | cons d rest =>
      have hd : startsWord d = true := by simpa [startsIdentifier] using hstarts
      rw [List.takeWhile_cons_of_pos (continuesWord_of_startsWord hd)] at hrest ⊢
      refine ⟨d, rest.takeWhile continuesWord, by simp, hd, ?_⟩
      exact fun e he => hrest e (List.mem_cons_of_mem _ he)
  . next hmark =>
    refine ⟨c, rest.takeWhile continuesWord, htext, ?_, hrest⟩
    have : c ≠ '@' := by
      intro heq
      exact hmark _ (by rw [htext, heq])
    unfold startsIdentifier at hstarts
    split at hstarts
    all_goals simp_all

end Token

end ThreadLint
