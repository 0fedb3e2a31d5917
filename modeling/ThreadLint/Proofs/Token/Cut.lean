import ThreadLint.Proofs.Token.Word

/-!
This module contains that no lexeme depends on what stands behind it: in a text that is cut off
behind a token, the tokens up to that one stay as they are, and the end of the text follows them.
-/

namespace ThreadLint.Token

theorem takeWhile_take {test : Char → Bool} {cs : List Char} {m : Nat}
    (h : (cs.takeWhile test).length ≤ m) : (cs.take m).takeWhile test = cs.takeWhile test := by
  induction cs generalizing m with
  | nil => simp
  | cons c rest ih =>
    by_cases hc : test c
    . rw [List.takeWhile_cons_of_pos hc, List.length_cons] at h
      obtain ⟨m, rfl⟩ : ∃ k, m = k + 1 := ⟨m - 1, by omega⟩
      rw [List.take_succ_cons, List.takeWhile_cons_of_pos hc, List.takeWhile_cons_of_pos hc]
      rw [ih (by omega)]
    . cases m with
      | zero => simp [List.takeWhile_cons_of_neg hc]
      | succ m => simp [List.takeWhile_cons_of_neg hc]

theorem exists_cons_of_take {cs tail : List Char} {c : Char} {m : Nat} (h : cs.take m = c :: tail) :
    ∃ rest, cs = c :: rest ∧ rest.take (m - 1) = tail := by
  cases m with
  | zero => simp at h
  | succ m =>
    cases cs with
    | nil => simp at h
    | cons d rest =>
      rw [List.take_succ_cons] at h
      cases h
      exact ⟨rest, rfl, rfl⟩

theorem exists_eq_add_of_le {k n : Nat} (h : k ≤ n) : ∃ m, n = m + k :=
  ⟨n - k, by omega⟩

/-! ### Trivia -/

theorem lineLength_take {cs : List Char} {m : Nat} (h : lineLength cs ≤ m) :
    lineLength (cs.take m) = lineLength cs := by
  unfold lineLength at *
  rw [takeWhile_take h]

theorem commentLength?_take {cs : List Char} {n m : Nat} (h : commentLength? cs = some n)
    (hle : n ≤ m) : commentLength? (cs.take m) = some n := by
  fun_induction commentLength? cs generalizing n m with
  | case1 => simp at h
  | case2 rest =>
    cases h
    obtain ⟨m, rfl⟩ : ∃ k, m = k + 2 := ⟨m - 2, by omega⟩
    rfl
  | case3 c rest hne ih =>
    obtain ⟨k, hk, rfl⟩ := Option.map_eq_some_iff.1 h
    obtain ⟨m, rfl⟩ : ∃ l, m = l + 1 := ⟨m - 1, by omega⟩
    rw [List.take_succ_cons, commentLength?, ih hk (by omega)]
    . rfl
    . intro tail hc htail
      obtain ⟨rest', rfl, _⟩ := exists_cons_of_take htail
      exact hne rest' hc rfl

theorem triviaLength_take {offset : Nat} {fresh : Bool} {cs : List Char} {n m : Nat}
    (h : triviaLength offset fresh cs = .ok n) (hle : n ≤ m) :
    triviaLength offset fresh (cs.take m) = .ok n := by
  fun_induction triviaLength offset fresh cs generalizing n m with
  | case1 =>
    cases h
    simp [triviaLength]
  | case2 offset fresh rest line =>
    rename_i ih
    obtain ⟨more, hmore, hn⟩ := bind_eq_ok.1 h
    cases hn
    obtain ⟨m, rfl⟩ := exists_eq_add_of_le (show 2 ≤ m by omega)
    have hline : lineLength (rest.take m) = line := lineLength_take (show line ≤ m by omega)
    rw [List.take_succ_cons, List.take_succ_cons, triviaLength, hline, List.drop_take]
    rw [ih hmore (by omega)]
    rfl
  | case3 => simp at h
  | case4 offset fresh rest body hbody ih =>
    obtain ⟨more, hmore, hn⟩ := bind_eq_ok.1 h
    cases hn
    obtain ⟨m, rfl⟩ := exists_eq_add_of_le (show 2 ≤ m by omega)
    rw [List.take_succ_cons, List.take_succ_cons, triviaLength]
    rw [commentLength?_take hbody (show body ≤ m by omega)]
    dsimp only
    rw [List.drop_take, ih hmore (by omega)]
    rfl
  | case5 offset fresh c rest hline hcomment hspacing ih =>
    obtain ⟨more, hmore, hn⟩ := bind_eq_ok.1 h
    cases hn
    obtain ⟨m, rfl⟩ := exists_eq_add_of_le (show 1 ≤ m by omega)
    rw [List.take_succ_cons, triviaLength, if_pos hspacing, ih hmore (by omega)]
    . rfl
    . rintro tail rfl htail
      simp [isSpacing] at hspacing
    . rintro tail rfl htail
      simp [isSpacing] at hspacing
  | case6 offset fresh c rest hline hcomment hspacing hsign line =>
    rename_i ih
    obtain ⟨more, hmore, hn⟩ := bind_eq_ok.1 h
    cases hn
    obtain ⟨m, rfl⟩ := exists_eq_add_of_le (show 1 ≤ m by omega)
    have hlength : lineLength (rest.take m) = line := lineLength_take (show line ≤ m by omega)
    rw [List.take_succ_cons, triviaLength, if_neg hspacing, if_pos hsign, hlength]
    dsimp only
    rw [List.drop_take, ih hmore (by omega)]
    . rfl
    . rintro tail rfl htail
      simp at hsign
    . rintro tail rfl htail
      simp at hsign
  | case7 offset fresh c rest hline hcomment hspacing hsign =>
    cases h
    cases m with
    | zero => simp [triviaLength]
    | succ m =>
      rw [List.take_succ_cons, triviaLength, if_neg hspacing, if_neg hsign]
      . intro tail hc htail
        obtain ⟨rest', rfl, _⟩ := exists_cons_of_take htail
        exact hline rest' hc rfl
      . intro tail hc htail
        obtain ⟨rest', rfl, _⟩ := exists_cons_of_take htail
        exact hcomment rest' hc rfl

/-! ### Literals -/

theorem plainLength?_take {cs : List Char} {n m : Nat} (h : plainLength? cs = some n)
    (hle : n ≤ m) : plainLength? (cs.take m) = some n := by
  fun_induction plainLength? cs generalizing n m with
  | case1 | case3 | case4 => simp at h
  | case2 =>
    cases h
    obtain ⟨m, rfl⟩ := exists_eq_add_of_le hle
    rfl
  | case5 c rest ih =>
    obtain ⟨k, hk, rfl⟩ := Option.map_eq_some_iff.1 h
    obtain ⟨m, rfl⟩ := exists_eq_add_of_le (show 2 ≤ m by omega)
    rw [List.take_succ_cons, List.take_succ_cons, plainLength?, ih hk (by omega)]
    rfl
  | case6 c rest hquote hfeed hend hescape ih =>
    obtain ⟨k, hk, rfl⟩ := Option.map_eq_some_iff.1 h
    obtain ⟨m, rfl⟩ := exists_eq_add_of_le (show 1 ≤ m by omega)
    have hbackslash : c ≠ '\\' := by
      intro hc
      cases rest with
      | nil => exact hend hc rfl
      | cons d rest => exact hescape d rest hc rfl
    rw [List.take_succ_cons, plainLength?, ih hk (by omega)]
    . rfl
    . exact hquote
    . exact hfeed
    . exact fun hc _ => hbackslash hc
    . exact fun _ _ hc _ => hbackslash hc

theorem characterLength?_take {cs : List Char} {n m : Nat} (h : characterLength? cs = some n)
    (hle : n ≤ m) : characterLength? (cs.take m) = some n := by
  fun_induction characterLength? cs generalizing n m with
  | case1 | case3 | case4 => simp at h
  | case2 =>
    cases h
    obtain ⟨m, rfl⟩ := exists_eq_add_of_le hle
    rfl
  | case5 c rest ih =>
    obtain ⟨k, hk, rfl⟩ := Option.map_eq_some_iff.1 h
    obtain ⟨m, rfl⟩ := exists_eq_add_of_le (show 2 ≤ m by omega)
    rw [List.take_succ_cons, List.take_succ_cons, characterLength?, ih hk (by omega)]
    rfl
  | case6 c rest hquote hfeed hend hescape ih =>
    obtain ⟨k, hk, rfl⟩ := Option.map_eq_some_iff.1 h
    obtain ⟨m, rfl⟩ := exists_eq_add_of_le (show 1 ≤ m by omega)
    have hbackslash : c ≠ '\\' := by
      intro hc
      cases rest with
      | nil => exact hend hc rfl
      | cons d rest => exact hescape d rest hc rfl
    rw [List.take_succ_cons, characterLength?, ih hk (by omega)]
    . rfl
    . exact hquote
    . exact hfeed
    . exact fun hc _ => hbackslash hc
    . exact fun _ _ hc _ => hbackslash hc

theorem verbatimLength?_take {cs : List Char} {n m : Nat} (h : verbatimLength? cs = some n)
    (hle : n ≤ m) : verbatimLength? (cs.take m) = some n := by
  fun_induction verbatimLength? cs generalizing n m with
  | case1 => simp at h
  | case2 rest ih =>
    obtain ⟨k, hk, rfl⟩ := Option.map_eq_some_iff.1 h
    obtain ⟨m, rfl⟩ := exists_eq_add_of_le (show 2 ≤ m by omega)
    rw [List.take_succ_cons, List.take_succ_cons, verbatimLength?, ih hk (by omega)]
    rfl
  | case3 rest hsingle =>
    cases h
    obtain ⟨m, rfl⟩ := exists_eq_add_of_le hle
    rw [List.take_succ_cons, verbatimLength?]
    intro tail htail
    obtain ⟨rest', rfl, _⟩ := exists_cons_of_take htail
    exact hsingle rest' rfl
  | case4 c rest hdouble hquote ih =>
    obtain ⟨k, hk, rfl⟩ := Option.map_eq_some_iff.1 h
    obtain ⟨m, rfl⟩ := exists_eq_add_of_le (show 1 ≤ m by omega)
    rw [List.take_succ_cons, verbatimLength?, ih hk (by omega)]
    . rfl
    . exact fun _ hc _ => hquote hc
    . exact hquote

theorem holeLength_take {literal offset depth : Nat} {cs : List Char} {n m : Nat}
    (h : holeLength literal offset depth cs = .ok n) (hle : n ≤ m) :
    holeLength literal offset depth (cs.take m) = .ok n := by
  fun_induction holeLength literal offset depth cs generalizing n m with
  | case1 | case5 | case7 | case9 | case11 => simp at h
  | case2 offset depth rest ih =>
    obtain ⟨more, hmore, hn⟩ := bind_eq_ok.1 h
    cases hn
    obtain ⟨m, rfl⟩ := exists_eq_add_of_le (show 1 ≤ m by omega)
    rw [List.take_succ_cons, holeLength, ih hmore (by omega)]
    rfl
  | case3 offset depth rest hdepth =>
    cases h
    obtain ⟨m, rfl⟩ := exists_eq_add_of_le (show 1 ≤ m by omega)
    rw [List.take_succ_cons, holeLength, if_pos hdepth]
  | case4 offset depth rest hdepth ih =>
    obtain ⟨more, hmore, hn⟩ := bind_eq_ok.1 h
    cases hn
    obtain ⟨m, rfl⟩ := exists_eq_add_of_le (show 1 ≤ m by omega)
    rw [List.take_succ_cons, holeLength, if_neg hdepth, ih hmore (by omega)]
    rfl
  | case6 offset depth rest inner hinner ih =>
    obtain ⟨more, hmore, hn⟩ := bind_eq_ok.1 h
    cases hn
    obtain ⟨m, rfl⟩ := exists_eq_add_of_le (show 1 ≤ m by omega)
    rw [List.take_succ_cons, holeLength, plainLength?_take hinner (show inner ≤ m by omega)]
    dsimp only
    rw [List.drop_take, ih hmore (by omega)]
    rfl
  | case8 offset depth rest inner hinner ih =>
    obtain ⟨more, hmore, hn⟩ := bind_eq_ok.1 h
    cases hn
    obtain ⟨m, rfl⟩ := exists_eq_add_of_le (show 2 ≤ m by omega)
    rw [List.take_succ_cons, List.take_succ_cons, holeLength]
    rw [verbatimLength?_take hinner (show inner ≤ m by omega)]
    dsimp only
    rw [List.drop_take, ih hmore (by omega)]
    rfl
  | case10 offset depth rest inner hinner ih =>
    obtain ⟨more, hmore, hn⟩ := bind_eq_ok.1 h
    cases hn
    obtain ⟨m, rfl⟩ := exists_eq_add_of_le (show 1 ≤ m by omega)
    rw [List.take_succ_cons, holeLength, characterLength?_take hinner (show inner ≤ m by omega)]
    dsimp only
    rw [List.drop_take, ih hmore (by omega)]
    rfl
  | case12 offset depth c rest hopen hclose hplain hverbatim hcharacter hfeed ih =>
    obtain ⟨more, hmore, hn⟩ := bind_eq_ok.1 h
    cases hn
    obtain ⟨m, rfl⟩ := exists_eq_add_of_le (show 1 ≤ m by omega)
    rw [List.take_succ_cons, holeLength, ih hmore (by omega)]
    . rfl
    . exact hopen
    . exact hclose
    . exact hplain
    . intro tail hc htail
      obtain ⟨rest', rfl, _⟩ := exists_cons_of_take htail
      exact hverbatim rest' hc rfl
    . exact hcharacter
    . exact hfeed

theorem interpolatedLength_take {verbatim : Bool} {literal offset : Nat} {cs : List Char} {n m : Nat}
    (h : interpolatedLength verbatim literal offset cs = .ok n) (hle : n ≤ m) :
    interpolatedLength verbatim literal offset (cs.take m) = .ok n := by
  fun_induction interpolatedLength verbatim literal offset cs generalizing n m with
  | case1 | case8 => simp at h
  | case2 offset rest hverbatim ih =>
    obtain ⟨more, hmore, hn⟩ := bind_eq_ok.1 h
    cases hn
    obtain ⟨m, rfl⟩ := exists_eq_add_of_le (show 2 ≤ m by omega)
    rw [List.take_succ_cons, List.take_succ_cons, interpolatedLength, if_pos hverbatim]
    rw [ih hmore (by omega)]
    rfl
  | case3 offset rest hverbatim =>
    cases h
    obtain ⟨m, rfl⟩ := exists_eq_add_of_le hle
    cases m with
    | zero =>
      rw [List.take_succ_cons, List.take_zero, interpolatedLength]
      simp
    | succ m =>
      rw [List.take_succ_cons, List.take_succ_cons, interpolatedLength, if_neg hverbatim]
  | case4 offset rest hsingle =>
    cases h
    obtain ⟨m, rfl⟩ := exists_eq_add_of_le hle
    rw [List.take_succ_cons, interpolatedLength]
    intro tail htail
    obtain ⟨rest', rfl, _⟩ := exists_cons_of_take htail
    exact hsingle rest' rfl
  | case5 offset c rest hverbatim ih =>
    obtain ⟨more, hmore, hn⟩ := bind_eq_ok.1 h
    cases hn
    obtain ⟨m, rfl⟩ := exists_eq_add_of_le (show 1 ≤ m by omega)
    have := ih hmore (show more ≤ m by omega)
    cases m with
    | zero => simp [interpolatedLength] at this
    | succ m =>
      rw [List.take_succ_cons, List.take_succ_cons, interpolatedLength, if_pos hverbatim]
      rw [List.take_succ_cons] at this
      rw [this]
      rfl
  | case6 offset c rest hverbatim ih =>
    obtain ⟨more, hmore, hn⟩ := bind_eq_ok.1 h
    cases hn
    obtain ⟨m, rfl⟩ := exists_eq_add_of_le (show 2 ≤ m by omega)
    rw [List.take_succ_cons, List.take_succ_cons, interpolatedLength, if_neg hverbatim]
    rw [ih hmore (by omega)]
    rfl
  | case7 offset rest hverbatim ih =>
    obtain ⟨more, hmore, hn⟩ := bind_eq_ok.1 h
    cases hn
    obtain ⟨m, rfl⟩ := exists_eq_add_of_le (show 1 ≤ m by omega)
    rw [List.take_succ_cons, interpolatedLength, if_pos hverbatim, ih hmore (by omega)]
    rfl
  | case9 offset rest ih =>
    obtain ⟨more, hmore, hn⟩ := bind_eq_ok.1 h
    cases hn
    obtain ⟨m, rfl⟩ := exists_eq_add_of_le (show 2 ≤ m by omega)
    rw [List.take_succ_cons, List.take_succ_cons, interpolatedLength, ih hmore (by omega)]
    rfl
  | case10 offset rest hdoubled ih =>
    obtain ⟨hole, hhole, h⟩ := bind_eq_ok.1 h
    obtain ⟨more, hmore, hn⟩ := bind_eq_ok.1 h
    cases hn
    obtain ⟨m, rfl⟩ := exists_eq_add_of_le (show 1 ≤ m by omega)
    rw [List.take_succ_cons, interpolatedLength, holeLength_take hhole (by omega)]
    . simp only [bind, Except.bind]
      rw [List.drop_take, ih hole hmore (by omega)]
      rfl
    . intro tail htail
      obtain ⟨rest', rfl, _⟩ := exists_cons_of_take htail
      exact hdoubled rest' rfl
  | case11 offset c rest hdoubled hquote hescape hfeed hbraces hbrace ih =>
    obtain ⟨more, hmore, hn⟩ := bind_eq_ok.1 h
    cases hn
    obtain ⟨m, rfl⟩ := exists_eq_add_of_le (show 1 ≤ m by omega)
    rw [List.take_succ_cons, interpolatedLength, ih hmore (by omega)]
    . rfl
    . exact fun _ hc _ => hquote hc
    . exact hquote
    . intro d tail hc htail
      obtain ⟨rest', rfl, _⟩ := exists_cons_of_take htail
      exact hescape d rest' hc rfl
    . exact hfeed
    . exact fun _ hc _ => hbrace hc
    . exact hbrace

theorem quotesLength?_take {quotes : Nat} (hquotes : 0 < quotes) {cs : List Char} {n m : Nat}
    (h : quotesLength? quotes cs = some n) (hle : n ≤ m) :
    quotesLength? quotes (cs.take m) = some n := by
  fun_induction quotesLength? quotes cs generalizing n m with
  | case1 => simp at h
  | case2 c rest hfound =>
    cases h
    obtain ⟨m, rfl⟩ := exists_eq_add_of_le (Nat.le_trans hquotes hle)
    rw [List.take_succ_cons, quotesLength?, if_pos]
    rw [List.isPrefixOf_iff_prefix] at *
    rw [← List.take_succ_cons, List.prefix_take_iff, List.length_replicate]
    exact ⟨hfound, hle⟩
  | case3 c rest hfound ih =>
    obtain ⟨k, hk, rfl⟩ := Option.map_eq_some_iff.1 h
    obtain ⟨m, rfl⟩ := exists_eq_add_of_le (show 1 ≤ m by omega)
    rw [List.take_succ_cons, quotesLength?, if_neg, ih hk (by omega)]
    . rfl
    . rw [List.isPrefixOf_iff_prefix] at *
      intro hprefix
      apply hfound
      rw [← List.take_succ_cons] at hprefix
      exact hprefix.trans (List.take_prefix _ _)

theorem rawLength_take {literal : Nat} {rest : List Char} {n m : Nat}
    (h : rawLength literal ('"' :: rest) = .ok n) (hle : n ≤ m) :
    rawLength literal (('"' :: rest).take m) = .ok n := by
  have hquotes : 0 < (('"' :: rest).takeWhile (· == '"')).length := length_takeWhile_pos rest rfl
  unfold rawLength at *
  dsimp only at *
  split at h
  . simp at h
  . next body hbody =>
    cases h
    rw [takeWhile_take (by omega), List.drop_take]
    rw [quotesLength?_take hquotes hbody (by omega)]

theorem le_rawLength {literal : Nat} {cs : List Char} {n : Nat} (h : rawLength literal cs = .ok n) :
    (cs.takeWhile (· == '"')).length ≤ n := by
  unfold rawLength at h
  dsimp only at h
  split at h
  . simp at h
  . cases h
    omega

/-- Whether a string is raw is seen from its first quotes, which belong to it. -/
theorem quotedLength_take {interpolated verbatim : Bool} {literal : Nat} {cs : List Char} {n m : Nat}
    (h : quotedLength interpolated verbatim literal cs = .ok n) (hle : n ≤ m) :
    quotedLength interpolated verbatim literal (cs.take m) = .ok n := by
  match cs with
  | [] => simp [quotedLength] at h
  | c :: rest =>
    by_cases hraw : ∃ tail, c :: rest = '"' :: '"' :: '"' :: tail
    . obtain ⟨tail, hraw⟩ := hraw
      rw [hraw] at h ⊢
      have hraw : rawLength literal ('"' :: '"' :: '"' :: tail) = .ok n := h
      have hlength := le_rawLength hraw
      simp only [List.takeWhile_cons, beq_self_eq_true, if_true, List.length_cons] at hlength
      obtain ⟨m, rfl⟩ := exists_eq_add_of_le (show 3 ≤ m by omega)
      exact rawLength_take hraw hle
    . have hnot : ∀ tail, c = '"' → rest = '"' :: '"' :: tail → False := by
        rintro tail rfl rfl
        exact hraw ⟨tail, rfl⟩
      have hpos := (quotedLength_bounds h).1
      obtain ⟨m, rfl⟩ := exists_eq_add_of_le (Nat.le_trans hpos hle)
      have hcut : ∀ tail, c = '"' → rest.take m = '"' :: '"' :: tail → False := by
        intro tail hc htail
        obtain ⟨rest', rfl, hrest⟩ := exists_cons_of_take htail
        obtain ⟨rest'', rfl, _⟩ := exists_cons_of_take hrest
        exact hnot rest'' hc rfl
      rw [quotedLength.eq_3 _ _ _ _ _ hnot] at h
      rw [List.take_succ_cons, quotedLength.eq_3 _ _ _ _ _ hcut]
      dsimp only at h ⊢
      split at h
      . next hinterpolated =>
        obtain ⟨body, hbody, hn⟩ := bind_eq_ok.1 h
        cases hn
        rw [if_pos hinterpolated, interpolatedLength_take hbody (by omega)]
        rfl
      . next hinterpolated =>
        rw [if_neg hinterpolated]
        split at h
        . simp [bind, Except.bind] at h
        . next body hbody =>
          cases h
          have hle : body ≤ m := by omega
          split at hbody
          . next hverbatim =>
            rw [if_pos hverbatim, verbatimLength?_take hbody hle]
            rfl
          . next hverbatim =>
            rw [if_neg hverbatim, plainLength?_take hbody hle]
            rfl

theorem stringLength_take {offset : Nat} {cs : List Char} {n m : Nat}
    (h : stringLength offset cs = .ok n) (hle : n ≤ m) : stringLength offset (cs.take m) = .ok n := by
  obtain ⟨body, hbody, hn⟩ := bind_eq_ok.1 h
  cases hn
  unfold stringLength
  dsimp only
  rw [takeWhile_take (by omega), List.drop_take, quotedLength_take hbody (by omega)]
  rfl

theorem startsMarkedString_of_take {cs : List Char} {m : Nat}
    (h : startsMarkedString (cs.take m) = true) : startsMarkedString cs = true := by
  rw [← List.take_append_drop m cs]
  generalize cs.take m = front at *
  unfold startsMarkedString at h
  split at h
  case h_6 => simp at h
  all_goals rfl

/-- The marks and the quote behind them belong to the string. -/
theorem startsMarkedString_take {offset : Nat} {cs : List Char} {n m : Nat}
    (h : startsMarkedString cs = true) (hlength : stringLength offset cs = .ok n) (hle : n ≤ m) :
    startsMarkedString (cs.take m) = true := by
  obtain ⟨body, hbody, hn⟩ := bind_eq_ok.1 hlength
  cases hn
  have := (quotedLength_bounds hbody).1
  unfold startsMarkedString at h
  split at h
  case h_1 | h_2 =>
    simp at hle
    obtain ⟨m, rfl⟩ := exists_eq_add_of_le (show 2 ≤ m by omega)
    rfl
  case h_3 | h_4 =>
    simp at hle
    obtain ⟨m, rfl⟩ := exists_eq_add_of_le (show 3 ≤ m by omega)
    rfl
  case h_5 =>
    simp at hle
    obtain ⟨m, rfl⟩ := exists_eq_add_of_le (show 2 ≤ m by omega)
    rfl
  case h_6 => simp at h

/-! ### Numbers and words -/

theorem fractionLength_eq_zero {cs : List Char}
    (h : ∀ d tail, cs = '.' :: d :: tail → Text.isDigit d = false) : fractionLength cs = 0 := by
  unfold fractionLength
  split
  . next d tail => simp [h d tail rfl]
  . rfl

theorem fractionLength_take {cs : List Char} {m : Nat} (hle : fractionLength cs ≤ m) :
    fractionLength (cs.take m) = fractionLength cs := by
  by_cases h : ∃ d tail, cs = '.' :: d :: tail ∧ Text.isDigit d = true
  . obtain ⟨d, tail, rfl, hdigit⟩ := h
    rw [fractionLength, if_pos hdigit] at hle ⊢
    have : 0 < ((d :: tail).takeWhile continuesDigits).length :=
      length_takeWhile_pos tail (by simp [continuesDigits, hdigit])
    obtain ⟨m, rfl⟩ := exists_eq_add_of_le (show 2 ≤ m by omega)
    rw [List.take_succ_cons, List.take_succ_cons, fractionLength, if_pos hdigit]
    rw [← List.take_succ_cons, takeWhile_take (by omega)]
  . have hdigit : ∀ d tail, cs = '.' :: d :: tail → Text.isDigit d = false := by
      intro d tail heq
      rw [Bool.eq_false_iff]
      exact fun hdigit => h ⟨d, tail, heq, hdigit⟩
    rw [fractionLength_eq_zero hdigit, fractionLength_eq_zero]
    intro d tail htail
    obtain ⟨rest, rfl, hrest⟩ := exists_cons_of_take htail
    obtain ⟨rest', rfl, _⟩ := exists_cons_of_take hrest
    exact hdigit d rest' rfl

/--
The number of characters of a sign, if one stands at the front of a text.
-/
def signLength (cs : List Char) : Nat :=
  match cs with
  | '+' :: _ | '-' :: _ => 1
  | _ => 0

theorem signLength_le (cs : List Char) : signLength cs ≤ 1 := by
  unfold signLength
  split
  all_goals omega

theorem signLength_take {cs : List Char} {m : Nat} (hle : signLength cs ≤ m) :
    signLength (cs.take m) = signLength cs := by
  cases m with
  | zero =>
    rw [List.take_zero]
    exact (Nat.le_zero.1 hle).symm
  | succ m =>
    cases cs with
    | nil => rfl
    | cons c rest =>
      rw [List.take_succ_cons]
      by_cases hplus : c = '+'
      . subst hplus
        rfl
      . by_cases hminus : c = '-'
        . subst hminus
          rfl
        . simp [signLength, hplus, hminus]

theorem exponentLength_cons {c : Char} (hc : c = 'e' ∨ c = 'E') (rest : List Char) :
    exponentLength (c :: rest) =
      if ((rest.drop (signLength rest)).takeWhile Text.isDigit).length = 0 then 0
      else 1 + signLength rest + ((rest.drop (signLength rest)).takeWhile Text.isDigit).length := by
  rcases hc with rfl | rfl
  all_goals rfl

theorem exponentLength_eq_zero {c : Char} (hc : ¬ (c = 'e' ∨ c = 'E')) (rest : List Char) :
    exponentLength (c :: rest) = 0 := by
  rw [not_or] at hc
  unfold exponentLength
  split
  . next heq => exact absurd (List.cons.inj heq).1 hc.1
  . next heq => exact absurd (List.cons.inj heq).1 hc.2
  . rfl

theorem exponentLength_take {cs : List Char} {m : Nat} (hle : exponentLength cs ≤ m) :
    exponentLength (cs.take m) = exponentLength cs := by
  match cs, m with
  | [], m => rw [List.take_nil]
  | c :: rest, 0 =>
    rw [List.take_zero]
    exact (Nat.le_zero.1 hle).symm
  | c :: rest, m + 1 =>
    rw [List.take_succ_cons]
    by_cases hc : c = 'e' ∨ c = 'E'
    . rw [exponentLength_cons hc] at hle ⊢
      rw [exponentLength_cons hc]
      by_cases hsign : signLength rest ≤ m
      . rw [signLength_take hsign, List.drop_take, takeWhile_take]
        split at hle
        . omega
        . omega
      . have := signLength_le rest
        have hm : m = 0 := by omega
        subst hm
        rw [if_pos, if_pos]
        . apply Classical.byContradiction
          intro hdigits
          rw [if_neg hdigits] at hle
          omega
        . simp
    . rw [exponentLength_eq_zero hc, exponentLength_eq_zero hc]

theorem numberLength_take {cs : List Char} {m : Nat} (hle : numberLength cs ≤ m) :
    numberLength (cs.take m) = numberLength cs := by
  unfold numberLength at hle
  split at hle
  case h_5 hx hX hb hB =>
    have hcut (c : Char) (hnot : ∀ rest, cs = '0' :: c :: rest → False) :
        ∀ rest, cs.take m = '0' :: c :: rest → False := by
      intro tail htail
      obtain ⟨rest, rfl, hrest⟩ := exists_cons_of_take htail
      obtain ⟨rest', rfl, _⟩ := exists_cons_of_take hrest
      exact hnot rest' rfl
    rw [numberLength.eq_5 _ (hcut _ hx) (hcut _ hX) (hcut _ hb) (hcut _ hB)]
    rw [numberLength.eq_5 _ hx hX hb hB]
    dsimp only at hle ⊢
    have hwhole : (cs.take m).takeWhile continuesDigits = cs.takeWhile continuesDigits :=
      takeWhile_take (by omega)
    rw [hwhole, List.drop_take]
    generalize (cs.takeWhile continuesDigits).length = whole at *
    rw [fractionLength_take (show fractionLength (cs.drop whole) ≤ m - whole by omega)]
    generalize fractionLength (cs.drop whole) = fraction at *
    rw [List.drop_take, exponentLength_take (by omega)]
    generalize exponentLength (cs.drop (whole + fraction)) = exponent at *
    rw [List.drop_take, takeWhile_take (by omega)]
  all_goals
    next rest =>
    obtain ⟨m, rfl⟩ := exists_eq_add_of_le (show 2 ≤ m by omega)
    rw [List.take_succ_cons, List.take_succ_cons, numberLength, numberLength]
    rw [takeWhile_take (by omega)]

theorem wordLength_take {cs : List Char} {m : Nat} (hle : wordLength cs ≤ m) :
    wordLength (cs.take m) = wordLength cs := by
  unfold wordLength at *
  rw [List.drop_take, takeWhile_take (by omega)]

theorem startsNumber_iff {cs : List Char} :
    startsNumber cs = true ↔ (∃ c rest, cs = c :: rest ∧ Text.isDigit c = true) ∨
      ∃ d rest, cs = '.' :: d :: rest ∧ Text.isDigit d = true := by
  constructor
  . intro h
    unfold startsNumber at h
    split at h
    . exact .inr ⟨_, _, rfl, h⟩
    . exact .inl ⟨_, _, rfl, h⟩
    . simp at h
  . rintro (⟨c, rest, rfl, h⟩ | ⟨d, rest, rfl, h⟩)
    . have : c ≠ '.' := by
        rintro rfl
        revert h
        decide
      unfold startsNumber
      split
      . simp_all
      . simp_all
      . simp_all
    . exact h

theorem le_numberLength_of_point {d : Char} (rest : List Char) (h : Text.isDigit d = true) :
    2 ≤ numberLength ('.' :: d :: rest) := by
  have hpoint : ('.' :: d :: rest).takeWhile continuesDigits = [] := rfl
  have hdigits : 0 < ((d :: rest).takeWhile continuesDigits).length :=
    length_takeWhile_pos rest (by simp [continuesDigits, h])
  have hfraction : 2 ≤ fractionLength ('.' :: d :: rest) := by
    rw [fractionLength, if_pos h]
    omega
  rw [numberLength.eq_5 _ (by simp) (by simp) (by simp) (by simp), hpoint]
  simp only [List.length_nil, List.drop_zero]
  omega

theorem startsNumber_of_take {cs : List Char} {m : Nat} (h : startsNumber (cs.take m) = true) :
    startsNumber cs = true := by
  rw [startsNumber_iff] at *
  rcases h with ⟨c, rest, hcs, h⟩ | ⟨d, rest, hcs, h⟩
  . obtain ⟨rest, rfl, _⟩ := exists_cons_of_take hcs
    exact .inl ⟨c, rest, rfl, h⟩
  . obtain ⟨rest, rfl, hrest⟩ := exists_cons_of_take hcs
    obtain ⟨rest, rfl, _⟩ := exists_cons_of_take hrest
    exact .inr ⟨d, rest, rfl, h⟩

theorem startsNumber_take {cs : List Char} {m : Nat} (h : startsNumber cs = true)
    (hle : numberLength cs ≤ m) : startsNumber (cs.take m) = true := by
  have hpos := numberLength_pos h
  rw [startsNumber_iff] at *
  rcases h with ⟨c, rest, rfl, h⟩ | ⟨d, rest, rfl, h⟩
  . obtain ⟨m, rfl⟩ := exists_eq_add_of_le (show 1 ≤ m by omega)
    exact .inl ⟨c, rest.take m, rfl, h⟩
  . have := le_numberLength_of_point rest h
    obtain ⟨m, rfl⟩ := exists_eq_add_of_le (show 2 ≤ m by omega)
    exact .inr ⟨d, rest.take m, rfl, h⟩

theorem startsIdentifier_iff {cs : List Char} :
    startsIdentifier cs = true ↔ (∃ c rest, cs = c :: rest ∧ startsWord c = true) ∨
      ∃ c rest, cs = '@' :: c :: rest ∧ startsWord c = true := by
  constructor
  . intro h
    unfold startsIdentifier at h
    split at h
    . exact .inr ⟨_, _, rfl, h⟩
    . exact .inl ⟨_, _, rfl, h⟩
    . simp at h
  . rintro (⟨c, rest, rfl, h⟩ | ⟨c, rest, rfl, h⟩)
    . have := ne_of_startsWord h '@' (by decide)
      unfold startsIdentifier
      split
      . simp_all
      . simp_all
      . simp_all
    . exact h

theorem startsIdentifier_of_take {cs : List Char} {m : Nat}
    (h : startsIdentifier (cs.take m) = true) : startsIdentifier cs = true := by
  rw [startsIdentifier_iff] at *
  rcases h with ⟨c, rest, hcs, h⟩ | ⟨c, rest, hcs, h⟩
  . obtain ⟨rest, rfl, _⟩ := exists_cons_of_take hcs
    exact .inl ⟨c, rest, rfl, h⟩
  . obtain ⟨rest, rfl, hrest⟩ := exists_cons_of_take hcs
    obtain ⟨rest, rfl, _⟩ := exists_cons_of_take hrest
    exact .inr ⟨c, rest, rfl, h⟩

theorem startsIdentifier_take {cs : List Char} {m : Nat} (h : startsIdentifier cs = true)
    (hle : wordLength cs ≤ m) : startsIdentifier (cs.take m) = true := by
  unfold wordLength at hle
  rw [startsIdentifier_iff] at *
  rcases h with ⟨c, rest, rfl, h⟩ | ⟨c, rest, rfl, h⟩
  . obtain ⟨m, rfl⟩ := exists_eq_add_of_le (show 1 ≤ m by omega)
    exact .inl ⟨c, rest.take m, rfl, h⟩
  . have : 0 < ((c :: rest).takeWhile continuesWord).length :=
      length_takeWhile_pos rest (continuesWord_of_startsWord h)
    rw [List.drop_succ_cons, List.drop_zero] at hle
    obtain ⟨m, rfl⟩ := exists_eq_add_of_le (show 2 ≤ m by omega)
    exact .inr ⟨c, rest.take m, rfl, h⟩

/-- The first mark that a text begins with is one that it begins with if it is cut off behind it. -/
theorem find?_marks_take {cs : List Char} {mark : String} {m : Nat}
    (h : marks.find? (fun mark => mark.toList.isPrefixOf cs) = some mark) (hle : mark.length ≤ m) :
    marks.find? (fun mark => mark.toList.isPrefixOf (cs.take m)) = some mark := by
  rw [List.find?_eq_some_iff_append] at *
  obtain ⟨hmark, front, back, heq, hfront⟩ := h
  simp only [List.isPrefixOf_iff_prefix] at *
  refine ⟨?_, front, back, heq, ?_⟩
  . rw [List.prefix_take_iff, String.length_toList]
    exact ⟨hmark, hle⟩
  . intro other hother
    have := hfront other hother
    simp only [Bool.not_eq_true', Bool.eq_false_iff, ne_eq, List.isPrefixOf_iff_prefix] at *
    exact fun h => this (h.trans (List.take_prefix _ _))

theorem lexeme_take {offset : Nat} {c : Char} {rest : List Char} {kind : TokenKind} {n m : Nat}
    (h : lexeme offset (c :: rest) = .ok (kind, n)) (hle : n ≤ m) :
    lexeme offset ((c :: rest).take m) = .ok (kind, n) := by
  have hpos : 0 < m := Nat.lt_of_lt_of_le (lexeme_bounds h).2.1 hle
  have hhead : ((c :: rest).take m).head? = (c :: rest).head? := by
    obtain ⟨m, rfl⟩ := exists_eq_add_of_le hpos
    rfl
  unfold lexeme at h
  split at h
  . next hstring =>
    obtain ⟨length, hlength, hn⟩ := bind_eq_ok.1 h
    cases hn
    have hstring' : (startsMarkedString ((c :: rest).take m) ||
        ((c :: rest).take m).head? == some '"') = true := by
      rw [hhead]
      rw [Bool.or_eq_true] at hstring ⊢
      exact hstring.imp_left fun hmarked => startsMarkedString_take hmarked hlength hle
    unfold lexeme
    rw [if_pos hstring', stringLength_take hlength hle]
    rfl
  . next hstring =>
    have hstring' : ¬ (startsMarkedString ((c :: rest).take m) ||
        ((c :: rest).take m).head? == some '"') = true := by
      rw [hhead]
      rw [Bool.or_eq_true] at hstring ⊢
      exact fun h => hstring (h.imp_left startsMarkedString_of_take)
    unfold lexeme
    rw [if_neg hstring', hhead]
    split at h
    . next hquote =>
      rw [if_pos hquote, List.drop_take]
      split at h
      . simp at h
      . next body hbody =>
        cases h
        rw [characterLength?_take hbody (by omega)]
    . next hquote =>
      rw [if_neg hquote]
      split at h
      . next hnumber =>
        cases h
        rw [if_pos (startsNumber_take hnumber hle), numberLength_take hle]
      . next hnumber =>
        rw [if_neg fun h => hnumber (startsNumber_of_take h)]
        split at h
        . next hword =>
          cases h
          rw [if_pos (startsIdentifier_take hword hle), wordLength_take hle]
          dsimp only
          rw [List.take_take, Nat.min_eq_left hle]
        . next hword =>
          rw [if_neg fun h => hword (startsIdentifier_of_take h)]
          split at h
          . next mark hmark =>
            cases h
            rw [find?_marks_take hmark hle]
          . simp at h

/-! ### The tokens of a text that is cut off -/

/--
The token that ends a text, right behind another token.
-/
def endAt (offset : Nat) : Token :=
  ⟨.eof, "", offset, ""⟩

theorem tokensFrom_cons {offset trivia length : Nat} {fresh : Bool} {cs rest : List Char} {c : Char}
    {kind : TokenKind} {others : List Token} (htrivia : triviaLength offset fresh cs = .ok trivia)
    (hdrop : cs.drop trivia = c :: rest)
    (hlexeme : lexeme (offset + trivia) (c :: rest) = .ok (kind, length))
    (hothers : tokensFrom (offset + trivia + length) false (rest.drop (length - 1)) = .ok others) :
    tokensFrom offset fresh cs = .ok (⟨kind, String.ofList ((c :: rest).take length),
      offset + trivia, String.ofList (cs.take trivia)⟩ :: others) := by
  unfold tokensFrom
  rw [htrivia]
  simp only [bind, Except.bind]
  split
  . next hnil =>
    rw [hdrop] at hnil
    simp at hnil
  . next c' rest' hcons =>
    rw [hdrop] at hcons
    cases hcons
    rw [hlexeme]
    dsimp only
    rw [hothers]
    rfl

theorem tokensFrom_nil (offset : Nat) (fresh : Bool) :
    tokensFrom offset fresh [] = .ok [endAt offset] := by
  unfold tokensFrom
  rw [triviaLength]
  simp only [bind, Except.bind]
  split
  . rfl
  . next hcons => simp at hcons

theorem le_start_of_tokensFrom {offset : Nat} {fresh : Bool} {cs : List Char} {tokens : List Token}
    (h : tokensFrom offset fresh cs = .ok tokens) : ∀ token ∈ tokens, offset ≤ token.start := by
  induction tokens generalizing offset fresh cs with
  | nil => simp
  | cons first others ih =>
    intro token hmem
    obtain ⟨trivia, _, h⟩ := tokensFrom_eq_ok h
    rcases h with ⟨_, htokens⟩ | ⟨_, _, _, length, others', _, _, hothers, htokens⟩
    . cases htokens
      rw [List.mem_singleton] at hmem
      rw [hmem]
      exact Nat.le_add_right _ _
    . cases htokens
      rw [List.mem_cons] at hmem
      cases hmem with
      | inl heq =>
        rw [heq]
        exact Nat.le_add_right _ _
      | inr hmem =>
        have := ih hothers token hmem
        omega

/-- The tokens from the second one on are those of what is left behind the first one. -/
theorem tokensFrom_take_cons {offset trivia length m : Nat} {fresh : Bool} {cs rest : List Char}
    {c : Char} {kind : TokenKind} {others : List Token}
    (htrivia : triviaLength offset fresh cs = .ok trivia) (hdrop : cs.drop trivia = c :: rest)
    (hlexeme : lexeme (offset + trivia) (c :: rest) = .ok (kind, length))
    (hle : trivia + length ≤ m)
    (hothers : tokensFrom (offset + trivia + length) false
      ((rest.drop (length - 1)).take (m - (trivia + length))) = .ok others) :
    tokensFrom offset fresh (cs.take m) = .ok (⟨kind, String.ofList ((c :: rest).take length),
      offset + trivia, String.ofList (cs.take trivia)⟩ :: others) := by
  obtain ⟨_, hpos, _⟩ := lexeme_bounds hlexeme
  obtain ⟨k, hk⟩ : ∃ k, m - trivia = k + 1 := ⟨m - trivia - 1, by omega⟩
  have hcut : (cs.take m).drop trivia = c :: rest.take k := by
    rw [List.drop_take, hdrop, hk, List.take_succ_cons]
  have hlexeme' := lexeme_take hlexeme (show length ≤ k + 1 by omega)
  rw [List.take_succ_cons] at hlexeme'
  have hrest : (rest.take k).drop (length - 1) =
      (rest.drop (length - 1)).take (m - (trivia + length)) := by
    rw [List.drop_take]
    congr 1
    omega
  rw [← hrest] at hothers
  rw [tokensFrom_cons (triviaLength_take htrivia (by omega)) hcut hlexeme' hothers]
  rw [← List.take_succ_cons, List.take_take, List.take_take]
  rw [Nat.min_eq_left (by omega), Nat.min_eq_left (by omega)]

theorem tokensFrom_take {offset : Nat} {fresh : Bool} {cs : List Char} {front back : List Token}
    {token : Token} (h : tokensFrom offset fresh cs = .ok (front ++ token :: back))
    (hend : token.isEnd = false) :
    tokensFrom offset fresh (cs.take (token.stop - offset)) =
      .ok (front ++ [token, endAt token.stop]) := by
  induction front generalizing offset fresh cs with
  | nil =>
    obtain ⟨trivia, htrivia, h⟩ := tokensFrom_eq_ok h
    rcases h with ⟨_, htokens⟩ | ⟨c, rest, kind, length, _, hdrop, hlexeme, _, htokens⟩
    . cases htokens
      simp [isEnd] at hend
    . have hlength : ((c :: rest).take length).length = length := by
        have := (lexeme_bounds hlexeme).2.2
        rw [List.length_take, List.length_cons]
        omega
      cases htokens
      have hstop : (Token.mk kind (String.ofList ((c :: rest).take length)) (offset + trivia)
          (String.ofList (cs.take trivia))).stop = offset + trivia + length := by
        rw [stop, String.length_ofList, hlength]
      rw [hstop]
      apply tokensFrom_take_cons htrivia hdrop hlexeme (by omega)
      rw [show offset + trivia + length - offset - (trivia + length) = 0 by omega, List.take_zero]
      apply tokensFrom_nil
  | cons first front ih =>
    obtain ⟨trivia, htrivia, h⟩ := tokensFrom_eq_ok h
    rcases h with ⟨_, htokens⟩ | ⟨c, rest, kind, length, others, hdrop, hlexeme, hothers, htokens⟩
    . simp at htokens
    . rw [List.cons_append, List.cons.injEq] at htokens
      obtain ⟨rfl, rfl⟩ := htokens
      have hle : offset + trivia + length ≤ token.stop := by
        have := le_start_of_tokensFrom hothers token (by simp)
        unfold stop
        omega
      apply tokensFrom_take_cons htrivia hdrop hlexeme (by omega)
      rw [show token.stop - offset - (trivia + length) = token.stop - (offset + trivia + length) by
        omega]
      exact ih hothers

/-- A text that is cut off behind a token keeps the tokens up to that one. -/
theorem tokenize_take {source : Source} {front back : List Token} {token : Token}
    (h : tokenize source = .ok (front ++ token :: back)) (hend : token.isEnd = false) :
    tokenize { source with chars := source.chars.take token.stop } =
      .ok (front ++ [token, endAt token.stop]) := by
  unfold tokenize at *
  rw [mapError_eq_ok] at *
  exact tokensFrom_take h hend

end ThreadLint.Token
