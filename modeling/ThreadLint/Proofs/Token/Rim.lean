import ThreadLint.Proofs.Token.Cut

/-!
This module contains the first and the last characters of tokens: no token begins with a line feed,
and none ends with a carriage return.
-/

namespace ThreadLint.Token

theorem getLast?_take_add {cs : List Char} {n m : Nat} {d : Char}
    (h : ((cs.drop n).take m).getLast? = some d) : (cs.take (n + m)).getLast? = some d := by
  rw [List.take_add, List.getLast?_append, h]
  rfl

theorem getLast?_take_succ {c d : Char} {cs : List Char} {n : Nat}
    (h : (cs.take n).getLast? = some d) : ((c :: cs).take (n + 1)).getLast? = some d := by
  rw [Nat.add_comm]
  exact getLast?_take_add h

/-! ### Literals -/

theorem plainLength?_last {cs : List Char} {n : Nat} (h : plainLength? cs = some n) :
    (cs.take n).getLast? = some '"' := by
  fun_induction plainLength? cs generalizing n with
  | case1 | case3 | case4 => simp at h
  | case2 =>
    cases h
    rfl
  | case5 c rest ih =>
    obtain ⟨k, hk, rfl⟩ := Option.map_eq_some_iff.1 h
    exact getLast?_take_succ (getLast?_take_succ (ih hk))
  | case6 c rest _ _ _ _ ih =>
    obtain ⟨k, hk, rfl⟩ := Option.map_eq_some_iff.1 h
    exact getLast?_take_succ (ih hk)

theorem verbatimLength?_last {cs : List Char} {n : Nat} (h : verbatimLength? cs = some n) :
    (cs.take n).getLast? = some '"' := by
  fun_induction verbatimLength? cs generalizing n with
  | case1 => simp at h
  | case2 rest ih =>
    obtain ⟨k, hk, rfl⟩ := Option.map_eq_some_iff.1 h
    exact getLast?_take_succ (getLast?_take_succ (ih hk))
  | case3 =>
    cases h
    rfl
  | case4 c rest _ _ ih =>
    obtain ⟨k, hk, rfl⟩ := Option.map_eq_some_iff.1 h
    exact getLast?_take_succ (ih hk)

theorem characterLength?_last {cs : List Char} {n : Nat} (h : characterLength? cs = some n) :
    (cs.take n).getLast? = some '\'' := by
  fun_induction characterLength? cs generalizing n with
  | case1 | case3 | case4 => simp at h
  | case2 =>
    cases h
    rfl
  | case5 c rest ih =>
    obtain ⟨k, hk, rfl⟩ := Option.map_eq_some_iff.1 h
    exact getLast?_take_succ (getLast?_take_succ (ih hk))
  | case6 c rest _ _ _ _ ih =>
    obtain ⟨k, hk, rfl⟩ := Option.map_eq_some_iff.1 h
    exact getLast?_take_succ (ih hk)

theorem interpolatedLength_last {verbatim : Bool} {literal offset : Nat} {cs : List Char} {n : Nat}
    (h : interpolatedLength verbatim literal offset cs = .ok n) :
    (cs.take n).getLast? = some '"' := by
  fun_induction interpolatedLength verbatim literal offset cs generalizing n with
  | case1 | case8 => simp at h
  | case3 | case4 =>
    cases h
    rfl
  | case2 _ _ _ ih | case6 _ _ _ _ ih | case9 _ _ ih =>
    obtain ⟨more, hmore, hn⟩ := bind_eq_ok.1 h
    cases hn
    exact getLast?_take_add (ih hmore)
  | case5 _ _ _ _ ih | case7 _ _ _ ih | case11 _ _ _ _ _ _ _ _ _ ih =>
    obtain ⟨more, hmore, hn⟩ := bind_eq_ok.1 h
    cases hn
    exact getLast?_take_add (ih hmore)
  | case10 _ rest _ ih =>
    obtain ⟨hole, hhole, h⟩ := bind_eq_ok.1 h
    obtain ⟨more, hmore, hn⟩ := bind_eq_ok.1 h
    cases hn
    have hlast := getLast?_take_add (ih hole hmore)
    rw [show 1 + hole + more = hole + more + 1 by omega]
    exact getLast?_take_succ hlast

theorem quotesLength?_last {quotes : Nat} (hquotes : 0 < quotes) {cs : List Char} {n : Nat}
    (h : quotesLength? quotes cs = some n) : (cs.take n).getLast? = some '"' := by
  fun_induction quotesLength? quotes cs generalizing n with
  | case1 => simp at h
  | case2 c rest hfound =>
    cases h
    rw [List.isPrefixOf_iff_prefix, List.prefix_iff_eq_take, List.length_replicate] at hfound
    rw [← hfound, List.getLast?_replicate, if_neg (by omega)]
  | case3 c rest _ ih =>
    obtain ⟨k, hk, rfl⟩ := Option.map_eq_some_iff.1 h
    exact getLast?_take_succ (ih hk)

theorem stringLength_last {offset : Nat} {cs : List Char} {n : Nat}
    (h : stringLength offset cs = .ok n) : (cs.take n).getLast? = some '"' := by
  obtain ⟨body, hbody, hn⟩ := bind_eq_ok.1 h
  cases hn
  apply getLast?_take_add
  generalize cs.drop (cs.takeWhile fun c => c == '$' || c == '@').length = quoted at *
  unfold quotedLength at hbody
  split at hbody
  . cases hbody
  . next rest =>
    unfold rawLength at hbody
    dsimp only at hbody
    split at hbody
    . cases hbody
    . next length hlength =>
      cases hbody
      have hpos : 0 < (('"' :: '"' :: '"' :: rest).takeWhile (· == '"')).length :=
        length_takeWhile_pos _ rfl
      exact getLast?_take_add (quotesLength?_last hpos hlength)
  . next c rest _ =>
    have hlast {inner : Nat} (h : (rest.take inner).getLast? = some '"') :
        ((c :: rest).take (1 + inner)).getLast? = some '"' := by
      rw [Nat.add_comm]
      exact getLast?_take_succ h
    dsimp only at hbody
    split at hbody
    . obtain ⟨inner, hinner, hn⟩ := bind_eq_ok.1 hbody
      cases hn
      exact hlast (interpolatedLength_last hinner)
    . split at hbody
      . simp [bind, Except.bind] at hbody
      . next inner found =>
        cases hbody
        apply hlast
        split at found
        . exact verbatimLength?_last found
        . exact plainLength?_last found

/-! ### Numbers and words -/

theorem not_mem_takeWhile {test : Char → Bool} {c : Char} (h : test c = false) (cs : List Char) :
    c ∉ cs.takeWhile test := by
  intro hmem
  rw [List.all_eq_true.1 List.all_takeWhile c hmem] at h
  cases h

theorem take_length_takeWhile (test : Char → Bool) (cs : List Char) :
    cs.take (cs.takeWhile test).length = cs.takeWhile test :=
  (List.prefix_iff_eq_take.1 (List.takeWhile_prefix test)).symm

theorem not_mem_take_add {cs : List Char} {n m : Nat} {c : Char} (h : c ∉ cs.take n)
    (hrest : c ∉ (cs.drop n).take m) : c ∉ cs.take (n + m) := by
  rw [List.take_add, List.mem_append, not_or]
  exact ⟨h, hrest⟩

theorem return_not_mem_fraction (cs : List Char) : '\r' ∉ cs.take (fractionLength cs) := by
  unfold fractionLength
  split
  . next d rest =>
    split
    . rw [Nat.add_comm, List.take_succ_cons, take_length_takeWhile, List.mem_cons, not_or]
      exact ⟨by decide, not_mem_takeWhile (by decide) _⟩
    . simp
  . simp

theorem return_not_mem_exponent (cs : List Char) : '\r' ∉ cs.take (exponentLength cs) := by
  cases cs with
  | nil => simp
  | cons c rest =>
    by_cases hc : c = 'e' ∨ c = 'E'
    . rw [exponentLength_cons hc]
      split
      . simp
      . have hsign : '\r' ∉ rest.take (signLength rest) := by
          unfold signLength
          split
          . simp
          . simp
          . simp
        rw [Nat.add_assoc, Nat.add_comm, List.take_succ_cons, List.mem_cons, not_or]
        constructor
        . rcases hc with rfl | rfl
          all_goals decide
        . apply not_mem_take_add hsign
          rw [take_length_takeWhile]
          exact not_mem_takeWhile (by decide) _
    . rw [exponentLength_eq_zero hc]
      simp

theorem return_not_mem_number (cs : List Char) : '\r' ∉ cs.take (numberLength cs) := by
  unfold numberLength
  split
  case h_5 =>
    dsimp only
    apply not_mem_take_add
    . apply not_mem_take_add
      . apply not_mem_take_add
        . rw [take_length_takeWhile]
          exact not_mem_takeWhile (by decide) _
        . exact return_not_mem_fraction _
      . exact return_not_mem_exponent _
    . rw [take_length_takeWhile]
      exact not_mem_takeWhile (by decide) _
  all_goals
    next rest =>
    rw [Nat.add_comm, List.take_succ_cons, List.take_succ_cons, take_length_takeWhile]
    simp only [List.mem_cons, not_or]
    exact ⟨by decide, by decide, not_mem_takeWhile (by decide) _⟩

theorem return_not_mem_word {cs : List Char} (h : startsIdentifier cs = true) :
    '\r' ∉ cs.take (wordLength cs) := by
  have hword (rest : List Char) : '\r' ∉ rest.takeWhile continuesWord :=
    not_mem_takeWhile (by decide) rest
  rw [startsIdentifier_iff] at h
  obtain ⟨c, rest, rfl, h⟩ | ⟨c, rest, rfl, _⟩ := h
  . rw [take_wordLength, List.mem_cons, not_or]
    exact ⟨Ne.symm (ne_of_startsWord h '\r' (by decide)), hword rest⟩
  . rw [take_wordLength, List.mem_cons, not_or]
    exact ⟨by decide, hword _⟩

theorem return_not_mem_marks : ∀ mark ∈ marks, '\r' ∉ mark.toList := by
  decide

/-- No lexeme ends with a carriage return. -/
theorem lexeme_last {offset : Nat} {cs : List Char} {kind : TokenKind} {n : Nat}
    (h : lexeme offset cs = .ok (kind, n)) : (cs.take n).getLast? ≠ some '\r' := by
  have hlast {text : List Char} (h : '\r' ∉ text) : text.getLast? ≠ some '\r' :=
    fun heq => h (List.mem_of_getLast? heq)
  unfold lexeme at h
  split at h
  . obtain ⟨length, hlength, hn⟩ := bind_eq_ok.1 h
    cases hn
    simp [stringLength_last hlength]
  . split at h
    . split at h
      . cases h
      . next hquote _ body hbody =>
        cases h
        cases cs with
        | nil => simp at hquote
        | cons c rest =>
          rw [List.drop_succ_cons, List.drop_zero] at hbody
          have hquoted : ((c :: rest).take (body + 1)).getLast? = some '\'' :=
            getLast?_take_succ (characterLength?_last hbody)
          rw [Nat.add_comm, hquoted]
          decide
    . split at h
      . cases h
        exact hlast (return_not_mem_number cs)
      . split at h
        . next hword =>
          cases h
          exact hlast (return_not_mem_word hword)
        . split at h
          . next mark hmark =>
            cases h
            have hbegins : mark.toList.isPrefixOf cs = true := by simpa using List.find?_some hmark
            rw [List.isPrefixOf_iff_prefix, List.prefix_iff_eq_take, String.length_toList] at hbegins
            rw [← hbegins]
            exact hlast (return_not_mem_marks mark (List.mem_of_find?_eq_some hmark))
          . cases h

/-- No lexeme begins with white space. -/
theorem lexeme_head {offset : Nat} {c : Char} {rest : List Char} {kind : TokenKind} {n : Nat}
    (h : lexeme offset (c :: rest) = .ok (kind, n)) : isSpacing c = false := by
  rw [Bool.eq_false_iff]
  intro hc
  simp only [isSpacing, Bool.or_eq_true, beq_iff_eq] at hc
  have hother : startsMarkedString (c :: rest) = false ∧ startsNumber (c :: rest) = false ∧
      startsIdentifier (c :: rest) = false ∧ c ≠ '"' ∧ c ≠ '\'' := by
    rcases hc with (((((rfl | rfl) | rfl) | rfl) | rfl) | rfl) | rfl
    all_goals exact ⟨rfl, show Text.isDigit _ = false by decide,
      show startsWord _ = false by decide +kernel, by decide, by decide⟩
  have hnone : marks.find? (fun mark => mark.toList.isPrefixOf (c :: rest)) = none := by
    rcases hc with (((((rfl | rfl) | rfl) | rfl) | rfl) | rfl) | rfl
    all_goals simp [marks, List.isPrefixOf]
  obtain ⟨hmarked, hnumber, hword, hquote, happos⟩ := hother
  simp [lexeme, hmarked, hnumber, hword, hquote, happos, hnone] at h

/-! ### The tokens of a text -/

section

variable {cs : List Char} {tokens : List Token} {token : Token} (h : Tiles cs 0 tokens)
  (hmem : token ∈ tokens)

include h hmem

theorem Tiles.head?_drop_start : (cs.drop token.start).head? ≠ some '\n' := by
  intro hhead
  by_cases hend : token.isEnd = true
  . rw [h.start_of_isEnd hmem hend, List.drop_length] at hhead
    cases hhead
  . have hlexeme := h.lexeme_eq hmem (by simpa using hend)
    obtain ⟨rest, hdrop⟩ := List.head?_eq_some_iff.1 hhead
    rw [hdrop] at hlexeme
    have hspacing := lexeme_head hlexeme
    revert hspacing
    decide

theorem Tiles.getLast?_take_stop (hend : token.isEnd = false) :
    ∃ c, (cs.take token.stop).getLast? = some c ∧ c ≠ '\r' := by
  have hlexeme := h.lexeme_eq hmem hend
  have hlast := lexeme_last hlexeme
  cases hdrop : cs.drop token.start with
  | nil =>
    rw [hdrop] at hlexeme
    have hmarks : marks.find? (fun mark => mark.toList.isPrefixOf []) = none := by decide
    simp [lexeme, startsMarkedString, startsNumber, startsIdentifier, hmarks] at hlexeme
  | cons c rest =>
    rw [hdrop] at hlexeme
    have hpos := (lexeme_bounds hlexeme).2.1
    cases hfound : ((cs.drop token.start).take token.text.length).getLast? with
    | none =>
      rw [List.getLast?_eq_none_iff, hdrop, List.take_eq_nil_iff] at hfound
      cases hfound with
      | inl hzero => omega
      | inr hnil => cases hnil
    | some d =>
      refine ⟨d, getLast?_take_add hfound, ?_⟩
      rintro rfl
      exact hlast hfound

end

end ThreadLint.Token
