import ThreadLint.Proofs.Token.Division

/-!
This module contains texts that may be put anywhere and are divided into tokens by themselves there,
and how they are made of parts of a text that has been divided.
-/

namespace ThreadLint.Token

/--
Whether a text that is not empty is divided into tokens by itself, wherever it stands.
-/
def StandsAlone (cs : List Char) : Prop :=
  cs ≠ [] ∧ ∀ offset fresh, ∃ tokens behind, Divides offset fresh cs tokens (some behind)

/--
Whether a text is divided into tokens by itself behind something else on its line.
-/
def StandsBehind (cs : List Char) : Prop :=
  ∀ offset, ∃ tokens behind, Divides offset false cs tokens (some behind)

/--
Whether a text stands alone and ends with a token, as can be seen by dividing it.
-/
def isSelfContained (cs : List Char) : Bool :=
  match tokensFrom 0 false cs with
  | .ok tokens =>
    !beginsWithDirective cs && tokens.dropLast.getLast?.any fun token => token.stop == cs.length
  | .error _ => false

variable {xs ys cs : List Char}

theorem parted_of_getLast? {c : Char} (h : xs.getLast? = some c) (hc : isSeparate c = true) :
    Parted xs ys := by
  intro c' hc' d _
  rw [h, Option.mem_some_iff] at hc'
  rw [isSeam, ← hc', hc, Bool.true_or, Bool.true_or]

theorem parted_of_head? {d : Char} (h : ys.head? = some d) (hd : isSeparate d = true) :
    Parted xs ys := by
  intro c _ d' hd'
  rw [h, Option.mem_some_iff] at hd'
  rw [isSeam, ← hd', hd, Bool.or_true, Bool.true_or]

theorem continuesWord_eq_false {c : Char} (h : isSpacing c = true ∨ c ∈ ['.', ':', '/']) :
    continuesWord c = false ∧ c ≠ '@' := by
  have hmarks : ∀ c ∈ ['.', ':', '/'], continuesWord c = false := by
    simp only [List.forall_mem_cons, List.not_mem_nil, false_implies, implies_true, and_true]
    decide
  cases h with
  | inr hmem =>
    refine ⟨hmarks c hmem, ?_⟩
    rintro rfl
    simp at hmem
  | inl hspacing =>
    constructor
    . rw [Bool.eq_false_iff]
      intro hword
      have hseparate := isSeparate_eq_false (.inl hword)
      rw [isSeparate, hspacing] at hseparate
      cases hseparate
    . rintro rfl
      cases hspacing

/-- No word goes on with what is in front of it if that does not end like a word or with its mark. -/
theorem parted_of_isWord {word : String} (hword : IsWord word)
    (h : ∀ c ∈ xs.getLast?, continuesWord c = false ∧ c ≠ '@') : Parted xs word.toList := by
  obtain ⟨first, rest, hchars, hfirst, _⟩ := hword
  intro c hc d hd
  rw [hchars, List.head?_cons, Option.mem_some_iff] at hd
  obtain ⟨hword, hmark⟩ := h c hc
  rw [isSeam, ← hd, hfirst, if_pos rfl, hword, bne_iff_ne.2 hmark]
  simp

/-! ### How texts are put together -/

theorem StandsAlone.standsBehind (h : StandsAlone cs) : StandsBehind cs :=
  fun offset => h.2 offset false

theorem StandsAlone.append (hxs : StandsAlone xs) (hys : StandsAlone ys) (h : Parted xs ys) :
    StandsAlone (xs ++ ys) := by
  refine ⟨List.append_ne_nil_of_left_ne_nil hxs.1 ys, ?_⟩
  intro offset fresh
  obtain ⟨front, middle, hfront⟩ := hxs.2 offset fresh
  obtain ⟨back, behind, hback⟩ := hys.2 (offset + xs.length) middle
  exact ⟨front ++ back, behind, hfront.append hback h⟩

theorem StandsBehind.append (hxs : StandsBehind xs) (hys : StandsAlone ys) (h : Parted xs ys) :
    StandsBehind (xs ++ ys) := by
  intro offset
  obtain ⟨front, middle, hfront⟩ := hxs offset
  obtain ⟨back, behind, hback⟩ := hys.2 (offset + xs.length) middle
  exact ⟨front ++ back, behind, hfront.append hback h⟩

theorem StandsBehind.blank (h : StandsBehind cs) : StandsBehind (' ' :: cs) := by
  intro offset
  obtain ⟨tokens, behind, htail⟩ := h (offset + 1)
  have hblank : Divides offset false [' '] [] (some false) := .trivia (.spacing (by decide) .nil)
  exact ⟨tokens, behind, hblank.append htail (parted_of_getLast? rfl (by decide))⟩

theorem Trivia.of_spacing (h : cs.all isSpacing = true) (fresh : Bool) :
    ∃ behind, Trivia fresh cs behind := by
  induction cs generalizing fresh with
  | nil => exact ⟨fresh, .nil⟩
  | cons c rest ih =>
    rw [List.all_cons, Bool.and_eq_true] at h
    obtain ⟨behind, htail⟩ := ih h.2 (freshAfter fresh c)
    exact ⟨behind, .spacing h.1 htail⟩

theorem commentLength?_last {n : Nat} (h : commentLength? cs = some n) :
    (cs.take n).getLast? = some '/' := by
  fun_induction commentLength? cs generalizing n with
  | case1 => cases h
  | case2 =>
    cases h
    rfl
  | case3 c rest _ ih =>
    obtain ⟨more, hmore, rfl⟩ := Option.map_eq_some_iff.1 h
    exact getLast?_take_succ (ih hmore)

/-- Trivia ends with white space or with the end of a comment. -/
theorem Trivia.getLast? {fresh behind : Bool} (h : Trivia fresh cs behind) :
    ∀ c ∈ cs.getLast?, isSpacing c = true ∨ c = '/' := by
  induction h with
  | nil => simp
  | @spacing fresh behind c rest hspacing _ ih =>
    intro d hd
    rw [List.getLast?_cons, Option.mem_some_iff] at hd
    cases hlast : rest.getLast? with
    | none =>
      rw [hlast] at hd
      rw [← hd]
      exact .inl hspacing
    | some e =>
      rw [hlast] at hd
      rw [← hd]
      exact ih e hlast
  | @line fresh behind line rest _ _ ih =>
    rw [← List.cons_append, ← List.cons_append, List.getLast?_append_of_ne_nil _ (by simp)]
    exact ih
  | @block fresh behind body rest hbody _ ih =>
    have hclosed := commentLength?_last hbody
    rw [List.take_length] at hclosed
    rw [← List.cons_append, ← List.cons_append, List.getLast?_append]
    cases hlast : rest.getLast? with
    | some c =>
      rw [hlast] at ih
      exact ih
    | none =>
      rw [List.getLast?_cons_cons, List.getLast?_cons, hclosed]
      simp
  | @directive behind line rest _ _ ih =>
    rw [← List.cons_append, List.getLast?_append_of_ne_nil _ (by simp)]
    exact ih

theorem StandsAlone.of_spacing (hne : cs ≠ []) (h : cs.all isSpacing = true) : StandsAlone cs := by
  refine ⟨hne, ?_⟩
  intro offset fresh
  obtain ⟨behind, htrivia⟩ := Trivia.of_spacing h fresh
  exact ⟨[], behind, .trivia htrivia⟩

theorem parted_of_spacing (h : xs.all isSpacing = true) : Parted xs ys := by
  intro c hc d _
  rw [isSeam, isSeparate, List.all_eq_true.1 h c (List.mem_of_getLast? hc)]
  simp

theorem StandsAlone.of_isWord {word : String} (h : IsWord word) : StandsAlone word.toList := by
  constructor
  . rw [← List.length_pos_iff, String.length_toList]
    exact h.length_pos
  . intro offset fresh
    have hword : Divides offset fresh (word.toList ++ []) _ (some false) :=
      .word h (by simp) (.of_nil _ false)
    rw [List.append_nil] at hword
    exact ⟨_, false, hword⟩

/-! ### Texts that are given -/

namespace Divides

variable {offset : Nat} {fresh : Bool} {tokens : List Token} {token : Token}

theorem behind_eq_of_nil {behind : Bool} (h : Divides offset fresh [] tokens (some behind)) :
    behind = fresh := by
  generalize hcs : [] = cs at h
  generalize hclosed : some behind = closed at h
  cases h with
  | trivia htrivia =>
    cases hclosed
    subst hcs
    cases htrivia
    rfl
  | rest => cases hclosed
  | token _ hlexeme _ => exact absurd (List.append_eq_nil_iff.1 hcs.symm).2 (lexeme_length hlexeme).1

/-- What stands behind a token that ends a text is not at the beginning of a line. -/
theorem behind_eq_false {behind : Bool} (h : Divides offset fresh cs tokens (some behind))
    (hmem : token ∈ tokens) (hstop : token.stop = offset + cs.length) : behind = false := by
  generalize hclosed : some behind = closed at h
  induction h with
  | trivia => cases hmem
  | rest => cases hmem
  | @token offset length fresh front cs kind tokens closed _ hlexeme htail ih =>
    obtain ⟨_, _, hle⟩ := lexeme_length hlexeme
    rw [List.length_append] at hstop
    rw [List.mem_cons] at hmem
    cases hmem with
    | inr hmem =>
      refine ih hmem ?_ hclosed
      rw [hstop, List.length_drop]
      omega
    | inl hfirst =>
      have hnil : cs.drop length = [] := by
        rw [hfirst, stop, length_take_lexeme hlexeme] at hstop
        rw [List.drop_eq_nil_iff]
        dsimp only at hstop
        omega
      subst hclosed
      rw [hnil] at htail
      exact htail.behind_eq_of_nil

theorem of_isSelfContained (h : isSelfContained cs = true) (offset : Nat) (fresh : Bool) :
    ∃ tokens, Divides offset fresh cs tokens (some false) := by
  unfold isSelfContained at h
  split at h
  . next tokens htokens =>
    rw [Bool.and_eq_true, Bool.not_eq_true', Option.any_eq_true] at h
    obtain ⟨hplain, last, hlast, hstop⟩ := h
    rw [beq_iff_eq] at hstop
    obtain ⟨front, final, rfl, _, hdivides⟩ := of_tokensFrom htokens
    rw [List.dropLast_concat] at hlast
    have hmem : last.withoutTrivia ∈ front.map withoutTrivia :=
      List.mem_map_of_mem (List.mem_of_getLast? hlast)
    have hstop : last.withoutTrivia.stop = cs.length := hstop
    obtain ⟨inner, rest, middle, hsplit, _, _, hinner, hrest⟩ :=
      hdivides.split (.inr ⟨_, hmem, .inr hstop.symm⟩)
    rw [Nat.sub_zero, List.take_length] at hinner
    rw [Nat.sub_zero, List.drop_length] at hrest
    have hmem : last.withoutTrivia ∈ inner := by
      rw [hsplit, List.mem_append] at hmem
      apply hmem.resolve_right
      intro hmem
      have := hrest.bounds _ hmem
      rw [List.length_nil] at this
      omega
    obtain ⟨behind, hrefreshed, hsome⟩ := hinner.refresh hplain fresh
    obtain ⟨behind, rfl⟩ := Option.isSome_iff_exists.1 hsome
    rw [hrefreshed.behind_eq_false hmem (by rw [hstop, Nat.zero_add])] at hrefreshed
    exact ⟨_, hrefreshed.relocate offset⟩
  . cases h

end Divides

theorem StandsAlone.of_isSelfContained (h : isSelfContained cs = true) : StandsAlone cs := by
  refine ⟨?_, fun offset fresh => ?_⟩
  . rintro rfl
    have hnil : isSelfContained [] = false := by decide +kernel
    rw [hnil] at h
    cases h
  . obtain ⟨tokens, hdivides⟩ := Divides.of_isSelfContained h offset fresh
    exact ⟨tokens, false, hdivides⟩

/-- A text that is given may be put in front of one that stands behind others. -/
theorem StandsBehind.behind (hys : StandsBehind ys) (hxs : isSelfContained xs = true)
    (h : Parted xs ys) : StandsAlone (xs ++ ys) := by
  refine ⟨List.append_ne_nil_of_left_ne_nil (StandsAlone.of_isSelfContained hxs).1 ys, ?_⟩
  intro offset fresh
  obtain ⟨front, hfront⟩ := Divides.of_isSelfContained hxs offset fresh
  obtain ⟨back, behind, hback⟩ := hys (offset + xs.length)
  exact ⟨front ++ back, behind, hfront.append hback h⟩

/-! ### Parts of a divided text -/

theorem head?_drop_wordLength (c : Char) (rest : List Char) :
    ∀ d ∈ ((c :: rest).drop (wordLength (c :: rest))).head?, continuesWord d = false := by
  intro d hd
  have hsplit := congrArg (List.drop (rest.takeWhile continuesWord).length)
    (List.takeWhile_append_dropWhile (p := continuesWord) (l := rest))
  have hhead := List.head?_dropWhile_not continuesWord rest
  unfold wordLength at hd
  rw [Nat.add_comm, List.drop_succ_cons, List.drop_succ_cons, List.drop_zero, ← hsplit,
    List.drop_left] at hd
  rw [hd] at hhead
  simpa using hhead

namespace Divides

variable {offset : Nat} {fresh : Bool} {tokens : List Token} {token : Token} {behind : Option Bool}

/-- A text that begins with a token. -/
theorem of_first (h : Divides offset fresh cs tokens behind) (hmem : token ∈ tokens)
    (hstart : token.start = offset) :
    ∃ length rest, triviaLength offset fresh cs = .ok 0 ∧
      lexeme offset cs = .ok (token.kind, length) ∧ token.stop = offset + length ∧
      Divides (offset + length) false (cs.drop length) rest behind := by
  cases h with
  | trivia => cases hmem
  | rest => cases hmem
  | @token _ length _ front cs kind others _ htrivia hlexeme htail =>
    obtain ⟨_, hpos, _⟩ := lexeme_length hlexeme
    rw [List.mem_cons] at hmem
    cases hmem with
    | inl hfirst =>
      obtain rfl : front = [] := by
        rw [hfirst] at hstart
        rw [← List.length_eq_zero_iff]
        dsimp only at hstart
        omega
      refine ⟨length, others, htrivia, ?_, ?_, htail⟩
      . rw [hfirst]
        exact hlexeme
      . rw [hfirst, stop, length_take_lexeme hlexeme]
        rfl
    | inr hmem =>
      have := htail.bounds token hmem
      omega

/-- No preprocessor line begins where a token does. -/
theorem beginsWithDirective_eq (h : Divides offset true cs tokens behind) (hmem : token ∈ tokens)
    (hstart : token.start = offset) : beginsWithDirective cs = false := by
  rw [Bool.eq_false_iff]
  intro hdirective
  obtain ⟨_, _, htrivia, _⟩ := h.of_first hmem hstart
  obtain ⟨length, _, hlt⟩ := @triviaLength_directive offset _ hdirective
  exact absurd (hlt offset 0 htrivia) (Nat.not_lt_zero length)

/-- A text that begins with a token may stand behind something else on its line. -/
theorem of_fresh (h : Divides offset fresh cs tokens behind) (hmem : token ∈ tokens)
    (hstart : token.start = offset) :
    ∃ behind', Divides offset false cs tokens behind' ∧ behind'.isSome = behind.isSome := by
  cases fresh with
  | false => exact ⟨behind, h, rfl⟩
  | true => exact h.refresh (h.beginsWithDirective_eq hmem hstart) false

theorem mem_of_le {front back : List Token} {middle : Option Bool} {cut : Nat}
    (hfront : Divides offset fresh cs front middle) (hcut : offset + cs.length ≤ cut)
    (hmem : token ∈ front ++ back) (hle : cut ≤ token.start) : token ∈ back := by
  rw [List.mem_append] at hmem
  apply hmem.resolve_left
  intro hmem
  have := hfront.bounds token hmem
  omega

theorem mem_of_stop_le {front back : List Token} {cut : Nat}
    (hback : Divides cut fresh cs back behind) (hmem : token ∈ front ++ back)
    (hle : token.stop ≤ cut) : token ∈ front := by
  rw [List.mem_append] at hmem
  apply hmem.resolve_right
  intro hmem
  have := hback.bounds token hmem
  omega

/-- In front of a token stands the one before it, or trivia. -/
theorem getLast?_take {other : Token} (h : Divides 0 fresh cs tokens behind) (hmem : token ∈ tokens)
    (hother : other ∈ tokens) (hle : token.stop ≤ other.start)
    (hnext : ∀ third ∈ tokens, third.start < other.start → third.stop ≤ token.stop) :
    ∀ c ∈ (cs.take other.start).getLast?,
      c ∈ (cs.take token.stop).getLast? ∨ isSpacing c = true ∨ c = '/' := by
  obtain ⟨front, back, middle, rfl, _, _, hfront, hback⟩ := h.split (.inr ⟨_, hmem, .inr rfl⟩)
  rw [Nat.sub_zero] at hfront hback
  have hother := hfront.mem_of_le (by rw [List.length_take]; omega) hother hle
  obtain ⟨inner, rest, after, rfl, _, _, hinner, _⟩ := hback.split (.inr ⟨_, hother, .inl rfl⟩)
  have hnone : inner = [] := by
    rw [List.eq_nil_iff_forall_not_mem]
    intro third hthird
    have hbounds := hinner.bounds third hthird
    rw [List.length_take] at hbounds
    have := hnext third (List.mem_append_right _ (List.mem_append_left _ hthird)) (by omega)
    omega
  rw [hnone] at hinner
  have hsplit : cs.take other.start
      = cs.take token.stop ++ (cs.drop token.stop).take (other.start - token.stop) := by
    rw [← List.take_add, Nat.add_sub_cancel' hle]
  rw [hsplit]
  generalize (cs.drop token.stop).take (other.start - token.stop) = between at hinner
  intro c hc
  by_cases hempty : between = []
  . rw [hempty, List.append_nil] at hc
    exact .inl hc
  . rw [List.getLast?_append_of_ne_nil _ hempty] at hc
    cases hinner with
    | trivia htrivia => exact .inr (htrivia.getLast? c hc)

/-- What stands from the beginning of one token to the end of another. -/
theorem slice {last : Token} (h : Divides 0 true cs tokens behind) (hfirst : token ∈ tokens)
    (hlast : last ∈ tokens) (hle : token.stop ≤ last.stop) :
    ∃ inner behind', Divides token.start false
      ((cs.drop token.start).take (last.stop - token.start)) inner (some behind') ∧
        ∀ other ∈ tokens, token.start ≤ other.start → other.stop ≤ last.stop → other ∈ inner := by
  have hbounds := h.bounds token hfirst
  obtain ⟨front, others, middle, hsplit, _, _, hfront, hothers⟩ := h.split (.inr ⟨_, hfirst, .inl rfl⟩)
  rw [Nat.sub_zero] at hfront hothers
  have hcut : 0 + (cs.take token.start).length ≤ token.start := by
    rw [List.length_take]
    omega
  rw [hsplit] at hlast hfirst
  have hlast : last ∈ others := by
    rw [List.mem_append] at hlast
    apply hlast.resolve_left
    intro hlast
    have := hfront.bounds last hlast
    omega
  obtain ⟨inner, back, after, rfl, _, _, hinner, hback⟩ := hothers.split (.inr ⟨_, hlast, .inr rfl⟩)
  have hmem {other : Token} (hother : other ∈ tokens) (hstart : token.start ≤ other.start)
      (hstop : other.stop ≤ last.stop) : other ∈ inner := by
    rw [hsplit] at hother
    exact hback.mem_of_stop_le (hfront.mem_of_le hcut hother hstart) hstop
  have hfirst : token ∈ inner := by
    exact hback.mem_of_stop_le (hfront.mem_of_le hcut hfirst (Nat.le_refl _)) hle
  obtain ⟨reached, hinner, hsome⟩ := hinner.of_fresh hfirst rfl
  obtain ⟨reached, rfl⟩ := Option.isSome_iff_exists.1 hsome
  exact ⟨inner, reached, hinner, fun other hother => hmem hother⟩

/-- A name may be written in place of another one if it does not go on with what is in front. -/
theorem rename {word : String} (h : Divides offset fresh cs tokens behind) (hmem : token ∈ tokens)
    (hkind : token.kind = .identifier) (hword : IsWord word)
    (hparted : Parted (cs.take (token.start - offset)) word.toList) :
    ∃ others, Divides offset fresh
      (cs.take (token.start - offset) ++ (word.toList ++ cs.drop (token.stop - offset))) others
      behind := by
  have hbounds := h.bounds token hmem
  obtain ⟨front, back, middle, rfl, _, _, hfront, hback⟩ := h.split (.inr ⟨_, hmem, .inl rfl⟩)
  have hlength : (cs.take (token.start - offset)).length = token.start - offset := by
    rw [List.length_take]
    omega
  have hmem := hfront.mem_of_le (by rw [hlength]; omega) hmem (Nat.le_refl _)
  obtain ⟨length, rest, _, hlexeme, hstop, htail⟩ := hback.of_first hmem rfl
  rw [hkind] at hlexeme
  have hdrop : (cs.drop (token.start - offset)).drop length = cs.drop (token.stop - offset) := by
    rw [List.drop_drop]
    congr 1
    omega
  have hhead : ∀ d ∈ (cs.drop (token.stop - offset)).head?, continuesWord d = false := by
    rw [← hdrop]
    cases hrest : cs.drop (token.start - offset) with
    | nil => exact absurd hrest (lexeme_length hlexeme).1
    | cons c rest =>
      rw [hrest] at hlexeme
      rw [(lexeme_of_identifier hlexeme).2]
      exact head?_drop_wordLength c rest
  rw [hdrop] at htail
  have hrenamed : Divides (offset + (cs.take (token.start - offset)).length) middle
      (word.toList ++ cs.drop (token.stop - offset)) _ behind :=
    Divides.word hword hhead (htail.relocate _)
  refine ⟨_, hfront.append hrenamed ?_⟩
  intro c hc d hd
  rw [List.head?_append_of_ne_nil _ (StandsAlone.of_isWord hword).1] at hd
  exact hparted c hc d hd

end Divides

end ThreadLint.Token
