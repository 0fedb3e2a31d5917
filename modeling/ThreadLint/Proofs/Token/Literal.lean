import ThreadLint.Proofs.Token.Front
import ThreadLint.Proofs.Token.Rim

/-!
This module contains what literals look like that are written as one token: where they begin and end, and
whether they stay on their line. A backslash takes the character behind it along, whatever that is, so a
literal may go on behind a line feed; and what stands behind two dollar signs is taken for a quote.
-/

namespace ThreadLint.Token

/--
Whether a character may stand in front of the quote of a string.
-/
def isStringMark (c : Char) : Bool :=
  c == '$' || c == '@'

/--
What a string is without the marks in front of its quote.
-/
def quotedPart (token : Token) : List Char :=
  token.text.toList.dropWhile isStringMark

/--
Whether a literal is meant to end on the line on which it begins: a character, or a string that is
neither verbatim nor raw.
-/
def StaysOnLine (token : Token) : Prop :=
  token.kind = .char ∨
    token.kind = .string ∧ '@' ∉ token.text.toList ∧ ¬['"', '"', '"'] <+: token.quotedPart

/--
Whether a token looks like a literal, if it is one: it begins and ends with its quote, but for the marks
in front of a string, and holds no line feed if it is meant to end on its line.
-/
structure HasLiteralShape (token : Token) : Prop where
  string : token.kind = .string → 2 ≤ token.quotedPart.length ∧
    token.quotedPart.head? = some '"' ∧ token.quotedPart.getLast? = some '"'
  character : token.kind = .char →
    token.text.toList.head? = some '\'' ∧ token.text.toList.getLast? = some '\''
  line : token.StaysOnLine → '\n' ∉ token.text.toList

/--
Whether a string begins with two dollar signs and has no quote behind its marks.
-/
def IsUnquoted (token : Token) : Prop :=
  token.kind = .string ∧ ['$', '$'] <+: token.text.toList ∧ token.quotedPart.head? ≠ some '"'

instance (token : Token) : Decidable token.StaysOnLine :=
  inferInstanceAs (Decidable (_ ∨ _))

instance (token : Token) : Decidable token.IsUnquoted :=
  inferInstanceAs (Decidable (_ ∧ _))

/--
Whether a literal is meant to end on its line and goes on behind a line feed with a backslash in front.
-/
def EscapesFeed (token : Token) : Prop :=
  token.StaysOnLine ∧ ['\\', '\n'] <:+: token.text.toList

instance (token : Token) : Decidable token.EscapesFeed :=
  inferInstanceAs (Decidable (_ ∧ _))

/-! ### Line feeds behind backslashes -/

/--
Whether every line feed of a text comes right behind a backslash.
-/
def FeedsEscaped (cs : List Char) : Prop :=
  ∀ front back, cs = front ++ '\n' :: back → front.getLast? = some '\\'

variable {cs : List Char} {n : Nat}

theorem feedsEscaped_of_not_mem (h : '\n' ∉ cs) : FeedsEscaped cs := by
  rintro front back rfl
  simp at h

theorem FeedsEscaped.append {front back : List Char} (h : FeedsEscaped front)
    (hback : FeedsEscaped back) : FeedsEscaped (front ++ back) := by
  intro ahead behind heq
  obtain ⟨middle, rfl, hmiddle⟩ | ⟨middle, hfront, hmiddle⟩ := List.append_eq_append_iff.1 heq
  . rw [List.getLast?_append, hback middle behind hmiddle]
    rfl
  . cases middle with
    | nil => exact absurd (hback [] behind hmiddle.symm) (by simp)
    | cons c middle =>
      cases hmiddle
      exact h ahead middle hfront

theorem FeedsEscaped.cons {c : Char} (hc : c ≠ '\n') (h : FeedsEscaped cs) :
    FeedsEscaped (c :: cs) :=
  (feedsEscaped_of_not_mem (by simpa using hc.symm) : FeedsEscaped [c]).append h

/-- A backslash takes the character behind it along. -/
theorem FeedsEscaped.escape (c : Char) (h : FeedsEscaped cs) : FeedsEscaped ('\\' :: c :: cs) := by
  have hpair : FeedsEscaped ['\\', c] := by
    intro front back heq
    match front, heq with
    | [_], heq =>
      cases heq
      rfl
    | _ :: _ :: rest, heq => simp at heq
  exact hpair.append h

theorem FeedsEscaped.take_add {m : Nat} (h : FeedsEscaped (cs.take n))
    (hback : FeedsEscaped ((cs.drop n).take m)) : FeedsEscaped (cs.take (n + m)) := by
  rw [List.take_add]
  exact h.append hback

theorem FeedsEscaped.escapes_feed (h : FeedsEscaped cs) (hmem : '\n' ∈ cs) : ['\\', '\n'] <:+: cs := by
  obtain ⟨front, back, rfl⟩ := List.append_of_mem hmem
  obtain ⟨front, rfl⟩ := List.getLast?_eq_some_iff.1 (h front back rfl)
  exact ⟨front, back, by simp⟩

/-! ### The parts of literals -/

theorem plainLength?_feeds (h : plainLength? cs = some n) : FeedsEscaped (cs.take n) := by
  fun_induction plainLength? cs generalizing n with
  | case1 | case3 | case4 => simp at h
  | case2 =>
    cases h
    exact feedsEscaped_of_not_mem (by simp)
  | case5 c rest ih =>
    obtain ⟨k, hk, rfl⟩ := Option.map_eq_some_iff.1 h
    exact (ih hk).escape c
  | case6 c rest _ hfeed _ _ ih =>
    obtain ⟨k, hk, rfl⟩ := Option.map_eq_some_iff.1 h
    exact (ih hk).cons hfeed

theorem characterLength?_feeds (h : characterLength? cs = some n) : FeedsEscaped (cs.take n) := by
  fun_induction characterLength? cs generalizing n with
  | case1 | case3 | case4 => simp at h
  | case2 =>
    cases h
    exact feedsEscaped_of_not_mem (by simp)
  | case5 c rest ih =>
    obtain ⟨k, hk, rfl⟩ := Option.map_eq_some_iff.1 h
    exact (ih hk).escape c
  | case6 c rest _ hfeed _ _ ih =>
    obtain ⟨k, hk, rfl⟩ := Option.map_eq_some_iff.1 h
    exact (ih hk).cons hfeed

theorem holeLength_feeds {literal offset depth : Nat} (h : holeLength literal offset depth cs = .ok n)
    (hmark : '@' ∉ cs.take n) : FeedsEscaped (cs.take n) := by
  fun_induction holeLength literal offset depth cs generalizing n with
  | case1 | case5 | case7 | case9 | case11 => simp at h
  | case3 =>
    cases h
    exact feedsEscaped_of_not_mem (by simp)
  | case2 _ _ rest ih | case4 _ _ rest _ ih =>
    obtain ⟨more, hmore, hn⟩ := bind_eq_ok.1 h
    cases hn
    rw [Nat.add_comm, List.take_succ_cons, List.mem_cons, not_or] at hmark
    rw [Nat.add_comm, List.take_succ_cons]
    exact (ih hmore hmark.2).cons (by decide)
  | case6 _ _ rest inner hinner ih =>
    obtain ⟨more, hmore, hn⟩ := bind_eq_ok.1 h
    cases hn
    rw [Nat.add_assoc, Nat.add_comm, List.take_succ_cons] at hmark ⊢
    rw [List.mem_cons, not_or, List.take_add, List.mem_append, not_or] at hmark
    exact ((plainLength?_feeds hinner).take_add (ih hmore hmark.2.2)).cons (by decide)
  | case8 _ _ rest inner hinner ih =>
    obtain ⟨more, hmore, hn⟩ := bind_eq_ok.1 h
    cases hn
    rw [Nat.add_assoc, Nat.add_comm, List.take_succ_cons] at hmark
    simp at hmark
  | case10 _ _ rest inner hinner ih =>
    obtain ⟨more, hmore, hn⟩ := bind_eq_ok.1 h
    cases hn
    rw [Nat.add_assoc, Nat.add_comm, List.take_succ_cons] at hmark ⊢
    rw [List.mem_cons, not_or, List.take_add, List.mem_append, not_or] at hmark
    exact ((characterLength?_feeds hinner).take_add (ih hmore hmark.2.2)).cons (by decide)
  | case12 _ _ c rest _ _ _ _ _ hfeed ih =>
    obtain ⟨more, hmore, hn⟩ := bind_eq_ok.1 h
    cases hn
    rw [Nat.add_comm, List.take_succ_cons, List.mem_cons, not_or] at hmark
    rw [Nat.add_comm, List.take_succ_cons]
    exact (ih hmore hmark.2).cons hfeed

theorem interpolatedLength_feeds {verbatim : Bool} {literal offset : Nat}
    (h : interpolatedLength verbatim literal offset cs = .ok n) (hverbatim : verbatim = false)
    (hmark : '@' ∉ cs.take n) : FeedsEscaped (cs.take n) := by
  fun_induction interpolatedLength verbatim literal offset cs generalizing n with
  | case1 | case8 => simp at h
  | case2 | case5 | case7 => simp_all
  | case3 | case4 =>
    cases h
    exact feedsEscaped_of_not_mem (by simp)
  | case6 _ c rest _ ih =>
    obtain ⟨more, hmore, hn⟩ := bind_eq_ok.1 h
    cases hn
    rw [Nat.add_comm, List.take_succ_cons, List.take_succ_cons] at hmark ⊢
    simp only [List.mem_cons, not_or] at hmark
    exact (ih hmore hmark.2.2).escape c
  | case9 _ rest ih =>
    obtain ⟨more, hmore, hn⟩ := bind_eq_ok.1 h
    cases hn
    rw [Nat.add_comm, List.take_succ_cons, List.take_succ_cons] at hmark ⊢
    simp only [List.mem_cons, not_or] at hmark
    exact ((ih hmore hmark.2.2).cons (by decide)).cons (by decide)
  | case10 _ rest _ ih =>
    obtain ⟨hole, hhole, h⟩ := bind_eq_ok.1 h
    obtain ⟨more, hmore, hn⟩ := bind_eq_ok.1 h
    cases hn
    rw [Nat.add_assoc, Nat.add_comm, List.take_succ_cons] at hmark ⊢
    rw [List.mem_cons, not_or, List.take_add, List.mem_append, not_or] at hmark
    exact ((holeLength_feeds hhole hmark.2.1).take_add (ih hole hmore hmark.2.2)).cons (by decide)
  | case11 _ c rest _ _ _ hfeed _ _ ih =>
    obtain ⟨more, hmore, hn⟩ := bind_eq_ok.1 h
    cases hn
    rw [Nat.add_comm, List.take_succ_cons] at hmark ⊢
    rw [List.mem_cons, not_or] at hmark
    exact (ih hmore hmark.2).cons hfeed

/-! ### Strings -/

section

variable {interpolated verbatim : Bool} {literal : Nat}

/-- The length of a string from its quote on is that of a raw string, or of a quote and a body. -/
theorem quotedLength_parts (h : quotedLength interpolated verbatim literal cs = .ok n) :
    (['"', '"', '"'] <+: cs ∧ rawLength literal cs = .ok n) ∨
      ∃ c rest body, cs = c :: rest ∧ n = body + 1 ∧
        if interpolated then interpolatedLength verbatim literal (literal + 1) rest = .ok body
        else (if verbatim then verbatimLength? rest else plainLength? rest) = some body := by
  unfold quotedLength at h
  split at h
  . cases h
  . next rest => exact .inl ⟨⟨rest, rfl⟩, h⟩
  . next c rest _ =>
    refine .inr ⟨c, rest, ?_⟩
    dsimp only at h
    split at h
    . next hinterpolated =>
      obtain ⟨body, hbody, hn⟩ := bind_eq_ok.1 h
      cases hn
      refine ⟨body, rfl, Nat.add_comm 1 body, ?_⟩
      rw [if_pos hinterpolated]
      exact hbody
    . next hinterpolated =>
      split at h
      . simp [bind, Except.bind] at h
      . next body hbody =>
        cases h
        refine ⟨body, rfl, Nat.add_comm 1 body, ?_⟩
        rw [if_neg hinterpolated]
        exact hbody

theorem pos_of_getLast?_take {c : Char} (h : (cs.take n).getLast? = some c) : 0 < n := by
  cases n with
  | zero => simp at h
  | succ n => exact Nat.succ_pos n

theorem three_le_rawLength (hraw : ['"', '"', '"'] <+: cs) (h : rawLength literal cs = .ok n) :
    3 ≤ n := by
  obtain ⟨rest, rfl⟩ := hraw
  unfold rawLength at h
  dsimp only at h
  split at h
  . cases h
  . cases h
    simp
    omega

theorem two_le_quotedLength (h : quotedLength interpolated verbatim literal cs = .ok n) :
    2 ≤ n := by
  obtain ⟨hraw, h⟩ | ⟨c, rest, body, rfl, rfl, hbody⟩ := quotedLength_parts h
  . have := three_le_rawLength hraw h
    omega
  . have hpos : 0 < body := by
      split at hbody
      . exact pos_of_getLast?_take (interpolatedLength_last hbody)
      . split at hbody
        . exact pos_of_getLast?_take (verbatimLength?_last hbody)
        . exact pos_of_getLast?_take (plainLength?_last hbody)
    omega

theorem quotedLength_feeds (h : quotedLength interpolated false literal cs = .ok n)
    (hquote : cs.head? = some '"') (hraw : ¬['"', '"', '"'] <+: cs.take n)
    (hmark : '@' ∉ cs.take n) : FeedsEscaped (cs.take n) := by
  obtain ⟨hopens, h⟩ | ⟨c, rest, body, rfl, rfl, hbody⟩ := quotedLength_parts h
  . exact absurd (List.prefix_take_iff.2 ⟨hopens, three_le_rawLength hopens h⟩) hraw
  . cases hquote
    rw [List.take_succ_cons, List.mem_cons, not_or] at hmark
    rw [List.take_succ_cons]
    refine FeedsEscaped.cons (by decide) ?_
    split at hbody
    . exact interpolatedLength_feeds hbody rfl hmark.2
    . exact plainLength?_feeds hbody

end

section

variable {offset : Nat} (h : stringLength offset cs = .ok n)

include h

/-- A string is its marks and what stands behind them. -/
theorem stringLength_parts :
    ∃ front back body, cs = front ++ back ∧ n = front.length + body ∧
      quotedLength (front.contains '$') (front.contains '@') (offset + front.length) back
        = .ok body ∧
      (∀ c ∈ front, isStringMark c = true) ∧
      (cs.take n).dropWhile isStringMark = back.take body := by
  obtain ⟨body, hbody, hn⟩ := bind_eq_ok.1 h
  cases hn
  have hsplit : cs.takeWhile isStringMark ++ cs.dropWhile isStringMark = cs :=
    List.takeWhile_append_dropWhile
  have hmarks : ∀ c ∈ cs.takeWhile isStringMark, isStringMark c = true :=
    List.all_eq_true.1 List.all_takeWhile
  have hdrop : cs.drop (cs.takeWhile isStringMark).length = cs.dropWhile isStringMark :=
    calc cs.drop (cs.takeWhile isStringMark).length
      _ = (cs.takeWhile isStringMark ++ cs.dropWhile isStringMark).drop
          (cs.takeWhile isStringMark).length := by rw [hsplit]
      _ = cs.dropWhile isStringMark := List.drop_left
  have htake : cs.take ((cs.takeWhile isStringMark).length + body)
      = cs.takeWhile isStringMark ++ (cs.dropWhile isStringMark).take body := by
    rw [List.take_add, hdrop, take_length_takeWhile]
  refine ⟨cs.takeWhile isStringMark, cs.dropWhile isStringMark, body, hsplit.symm, rfl,
    by rw [← hdrop]; exact hbody, hmarks, ?_⟩
  show (cs.take ((cs.takeWhile isStringMark).length + body)).dropWhile isStringMark = _
  rw [htake, List.dropWhile_append_of_pos hmarks]
  have hhead := List.head?_dropWhile_not isStringMark cs
  cases hrest : cs.dropWhile isStringMark with
  | nil => simp
  | cons c rest =>
    rw [hrest] at hhead
    cases body with
    | zero => rfl
    | succ body => rw [List.take_succ_cons, List.dropWhile_cons_of_neg (by simpa using hhead)]

theorem length_quoted : 2 ≤ ((cs.take n).dropWhile isStringMark).length := by
  obtain ⟨front, back, body, rfl, rfl, hbody, _, hquoted⟩ := stringLength_parts h
  have := two_le_quotedLength hbody
  have := quotedLength_bounds hbody
  rw [hquoted, List.length_take]
  omega

theorem getLast?_quoted : ((cs.take n).dropWhile isStringMark).getLast? = some '"' := by
  have hlast := stringLength_last h
  have hlength := length_quoted h
  rw [← List.takeWhile_append_dropWhile (p := isStringMark) (l := cs.take n)] at hlast
  rw [List.getLast?_append] at hlast
  cases hfound : ((cs.take n).dropWhile isStringMark).getLast? with
  | none =>
    rw [List.getLast?_eq_none_iff.1 hfound] at hlength
    simp at hlength
  | some c =>
    rw [hfound] at hlast
    exact hlast

/-- What stands behind the marks begins with a quote, unless two dollar signs are taken for one. -/
theorem head?_quoted (hbegins : startsMarkedString cs = true ∨ cs.head? = some '"') :
    ((cs.take n).dropWhile isStringMark).head? = some '"' ∨ ['$', '$'] <+: cs.take n := by
  have hlength := length_quoted h
  have hle := (List.dropWhile_sublist (p := isStringMark) (l := cs.take n)).length_le
  rw [List.length_take] at hle
  obtain ⟨m, rfl⟩ : ∃ m, n = m + 2 := ⟨n - 2, by omega⟩
  -- Behind two marks there is something left, which is the quote.
  have hthird {a b : Char} (ha : isStringMark a = true) (hb : isStringMark b = true)
      {rest : List Char} (hlength : 2 ≤ (((a :: b :: '"' :: rest).take (m + 2)).dropWhile
        isStringMark).length) :
      (((a :: b :: '"' :: rest).take (m + 2)).dropWhile isStringMark).head? = some '"' := by
    simp only [List.take_succ_cons, List.dropWhile_cons_of_pos ha,
      List.dropWhile_cons_of_pos hb] at hlength ⊢
    cases m with
    | zero => simp at hlength
    | succ m => rfl
  cases hbegins with
  | inl hmarked =>
    unfold startsMarkedString at hmarked
    split at hmarked
    . exact .inl rfl
    . exact .inl rfl
    . exact .inl (hthird rfl rfl hlength)
    . exact .inl (hthird rfl rfl hlength)
    . exact .inr (by simp)
    . cases hmarked
  | inr hquote =>
    obtain ⟨rest, rfl⟩ := List.head?_eq_some_iff.1 hquote
    exact .inl rfl

theorem stringLength_feeds (hquote : ((cs.take n).dropWhile isStringMark).head? = some '"')
    (hraw : ¬['"', '"', '"'] <+: (cs.take n).dropWhile isStringMark) (hmark : '@' ∉ cs.take n) :
    FeedsEscaped (cs.take n) := by
  obtain ⟨front, back, body, rfl, rfl, hbody, hmarks, hquoted⟩ := stringLength_parts h
  rw [hquoted] at hquote hraw
  rw [List.take_length_add_append] at hmark ⊢
  rw [List.mem_append, not_or] at hmark
  have hverbatim : front.contains '@' = false := by simpa using hmark.1
  rw [hverbatim] at hbody
  refine (feedsEscaped_of_not_mem ?_).append (quotedLength_feeds hbody ?_ hraw hmark.2)
  . intro hfeed
    exact absurd (hmarks _ hfeed) (by decide)
  . rw [List.head?_take] at hquote
    split at hquote
    . cases hquote
    . exact hquote

end

/-! ### Literals of a text -/

theorem lexeme_of_string {offset : Nat} (h : lexeme offset cs = .ok (.string, n)) :
    (startsMarkedString cs = true ∨ cs.head? = some '"') ∧ stringLength offset cs = .ok n := by
  unfold lexeme at h
  split at h
  . next hbegins =>
    obtain ⟨length, hlength, hn⟩ := bind_eq_ok.1 h
    cases hn
    exact ⟨by simpa using hbegins, hlength⟩
  . split at h
    . split at h
      . simp at h
      . simp at h
    . split at h
      . simp at h
      . split at h
        . simp only [Except.ok.injEq, Prod.mk.injEq] at h
          have hkind := h.1
          unfold wordKind at hkind
          split at hkind
          . cases hkind
          . cases hkind
        . split at h
          . simp at h
          . simp at h

theorem lexeme_of_char {offset : Nat} (h : lexeme offset cs = .ok (.char, n)) :
    ∃ rest body, cs = '\'' :: rest ∧ n = body + 1 ∧ characterLength? rest = some body := by
  unfold lexeme at h
  split at h
  . obtain ⟨_, _, hn⟩ := bind_eq_ok.1 h
    cases hn
  . split at h
    . next hquote =>
      obtain ⟨rest, rfl⟩ := List.head?_eq_some_iff.1 (by simpa using hquote)
      split at h
      . cases h
      . next body hbody =>
        cases h
        exact ⟨rest, body, rfl, Nat.add_comm 1 body, hbody⟩
    . split at h
      . simp at h
      . split at h
        . simp only [Except.ok.injEq, Prod.mk.injEq] at h
          have hkind := h.1
          unfold wordKind at hkind
          split at hkind
          . cases hkind
          . cases hkind
        . split at h
          . simp at h
          . simp at h

section

variable {tokens : List Token} {token : Token} (h : Tiles cs 0 tokens) (hmem : token ∈ tokens)

include h hmem

/-- A string has a quote at either end of what stands behind its marks, or begins with two dollar signs. -/
theorem Tiles.quotedPart_of_string (hkind : token.kind = .string) :
    2 ≤ token.quotedPart.length ∧ token.quotedPart.getLast? = some '"' ∧
      (token.quotedPart.head? = some '"' ∨ ['$', '$'] <+: token.text.toList) := by
  have hlexeme := h.lexeme_eq hmem (by simp [isEnd, hkind])
  rw [hkind] at hlexeme
  obtain ⟨hbegins, hlength⟩ := lexeme_of_string hlexeme
  unfold quotedPart
  rw [h.text_toList hmem]
  exact ⟨length_quoted hlength, getLast?_quoted hlength, head?_quoted hlength hbegins⟩

theorem Tiles.ends_of_char (hkind : token.kind = .char) :
    token.text.toList.head? = some '\'' ∧ token.text.toList.getLast? = some '\'' := by
  have hlexeme := h.lexeme_eq hmem (by simp [isEnd, hkind])
  rw [hkind] at hlexeme
  obtain ⟨rest, body, hdrop, hlength, hbody⟩ := lexeme_of_char hlexeme
  rw [h.text_toList hmem, hdrop, hlength]
  exact ⟨rfl, getLast?_take_succ (characterLength?_last hbody)⟩

/-- A line feed in a literal that is meant to end on its line stands behind a backslash. -/
theorem Tiles.feedsEscaped (hstays : token.StaysOnLine) (hquoted : ¬token.IsUnquoted) :
    FeedsEscaped token.text.toList := by
  cases hstays with
  | inl hkind =>
    have hlexeme := h.lexeme_eq hmem (by simp [isEnd, hkind])
    rw [hkind] at hlexeme
    obtain ⟨rest, body, hdrop, hlength, hbody⟩ := lexeme_of_char hlexeme
    rw [h.text_toList hmem, hdrop, hlength, List.take_succ_cons]
    exact (characterLength?_feeds hbody).cons (by decide)
  | inr hstring =>
    obtain ⟨hkind, hmark, hraw⟩ := hstring
    obtain ⟨_, _, hhead⟩ := h.quotedPart_of_string hmem hkind
    have hquote : token.quotedPart.head? = some '"' := by
      by_contra hquote
      exact hquoted ⟨hkind, hhead.resolve_left hquote, hquote⟩
    have hlexeme := h.lexeme_eq hmem (by simp [isEnd, hkind])
    rw [hkind] at hlexeme
    unfold quotedPart at hquote hraw
    rw [h.text_toList hmem] at hmark hquote hraw ⊢
    exact stringLength_feeds (lexeme_of_string hlexeme).2 hquote hraw hmark

/-- A literal looks like one, unless it is begun without a quote or goes on behind a line feed. -/
theorem Tiles.hasLiteralShape_iff :
    token.HasLiteralShape ↔ ¬token.IsUnquoted ∧ ¬token.EscapesFeed := by
  constructor
  . intro hshape
    refine ⟨fun ⟨hkind, _, hquote⟩ => hquote (hshape.string hkind).2.1, ?_⟩
    rintro ⟨hstays, hescapes⟩
    exact hshape.line hstays (hescapes.subset (by simp))
  . rintro ⟨hquoted, hfeed⟩
    constructor
    case string =>
      intro hkind
      obtain ⟨hlength, hlast, hhead⟩ := h.quotedPart_of_string hmem hkind
      refine ⟨hlength, ?_, hlast⟩
      by_contra hquote
      exact hquoted ⟨hkind, hhead.resolve_left hquote, hquote⟩
    case character => exact h.ends_of_char hmem
    case line =>
      intro hstays hmem'
      exact hfeed ⟨hstays, (h.feedsEscaped hmem hstays hquoted).escapes_feed hmem'⟩

end

/--
The literals of every text that can be divided into tokens look like literals, exactly but for strings
that begin with two dollar signs and no quote behind them, and for literals that go on behind a line
feed with a backslash in front. Both of these end with their quote all the same.
-/
theorem tokenize_literals {source : Source} {tokens : List Token}
    (h : tokenize source = .ok tokens) : ∀ token ∈ tokens,
      (token.HasLiteralShape ↔ ¬token.IsUnquoted ∧ ¬token.EscapesFeed) ∧
        (token.kind = .string →
          2 ≤ token.quotedPart.length ∧ token.quotedPart.getLast? = some '"') ∧
        (token.kind = .char → token.text.toList.head? = some '\'' ∧
          token.text.toList.getLast? = some '\'') := by
  intro token hmem
  have tiles := Tiles.of_tokenize h
  refine ⟨tiles.hasLiteralShape_iff hmem, ?_, tiles.ends_of_char hmem⟩
  intro hkind
  obtain ⟨hlength, hlast, _⟩ := tiles.quotedPart_of_string hmem hkind
  exact ⟨hlength, hlast⟩

/-- A text with a string in the hole of another one, a string of two lines and a character. -/
theorem tokenize_literals_hole :
    let source := Source.ofString "$\"\x7bF(\"\x7d\")\x7d\",@\"a\"\"\n\",'\\''" none
    let tokens : List Token :=
      [⟨.string, "$\"\x7bF(\"\x7d\")\x7d\"", 0, ""⟩, ⟨.punct, ",", 11, ""⟩,
        ⟨.string, "@\"a\"\"\n\"", 12, ""⟩, ⟨.punct, ",", 19, ""⟩, ⟨.char, "'\\''", 20, ""⟩,
        ⟨.eof, "", 24, ""⟩]
    tokenize source = .ok tokens ∧ ∀ token ∈ tokens, token.HasLiteralShape := by
  intro source tokens
  have htokens : tokenize source = .ok tokens := eq_ok_of_toOption (by decide +kernel)
  refine ⟨htokens, fun token hmem => (tokenize_literals htokens token hmem).1.2 ?_⟩
  clear htokens
  revert token
  decide +kernel

/--
A plain string goes on behind a line feed, and another text is a string though no quote begins it.
-/
theorem tokenize_escaped_feed :
    tokenize (Source.ofString "\"a\\\nb\"" none)
        = .ok [⟨.string, "\"a\\\nb\"", 0, ""⟩, ⟨.eof, "", 6, ""⟩] ∧
      ¬HasLiteralShape ⟨.string, "\"a\\\nb\"", 0, ""⟩ ∧
      tokenize (Source.ofString "$$x\"" none)
        = .ok [⟨.string, "$$x\"", 0, ""⟩, ⟨.eof, "", 4, ""⟩] ∧
      ¬HasLiteralShape ⟨.string, "$$x\"", 0, ""⟩ := by
  refine ⟨eq_ok_of_toOption (by decide +kernel), ?_, eq_ok_of_toOption (by decide +kernel), ?_⟩
  . intro hshape
    exact absurd (hshape.line (by decide +kernel)) (by decide +kernel)
  . intro hshape
    exact absurd (hshape.string rfl).2.1 (by decide +kernel)

end ThreadLint.Token
