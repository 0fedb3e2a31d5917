import ThreadLint.Proofs.Token.ByteOrder
import ThreadLint.Proofs.Token.Seam

/-!
This module contains texts that are divided into tokens by themselves, whatever stands behind them:
how they are put together at a seam, and where a text falls apart into such texts.
-/

namespace ThreadLint.Token

/-! ### Trivia -/

/--
Whether a text is trivia whatever stands behind it. The first truth value says whether only blanks
and tabs stand in front of it on its line, and the second one whether they do so behind it.
-/
inductive Trivia : Bool → List Char → Bool → Prop where
  | nil {fresh : Bool} : Trivia fresh [] fresh
  | spacing {fresh behind : Bool} {c : Char} {rest : List Char} (spacing : isSpacing c = true)
    (tail : Trivia (freshAfter fresh c) rest behind) : Trivia fresh (c :: rest) behind
  | line {fresh behind : Bool} {line rest : List Char} (line_eq : '\n' ∉ line)
    (tail : Trivia false ('\n' :: rest) behind) :
    Trivia fresh ('/' :: '/' :: (line ++ '\n' :: rest)) behind
  | block {fresh behind : Bool} {body rest : List Char}
    (body_eq : commentLength? body = some body.length) (tail : Trivia false rest behind) :
    Trivia fresh ('/' :: '*' :: (body ++ rest)) behind
  | directive {behind : Bool} {line rest : List Char} (line_eq : '\n' ∉ line)
    (tail : Trivia false ('\n' :: rest) behind) :
    Trivia true ('#' :: (line ++ '\n' :: rest)) behind

theorem Trivia.append {fresh middle behind : Bool} {xs ys : List Char} (hxs : Trivia fresh xs middle)
    (hys : Trivia middle ys behind) : Trivia fresh (xs ++ ys) behind := by
  induction hxs with
  | nil => exact hys
  | spacing hspacing _ ih => exact .spacing hspacing (ih hys)
  | line hline _ ih =>
    rw [List.cons_append, List.cons_append, List.append_assoc]
    exact .line hline (ih hys)
  | block hbody _ ih =>
    rw [List.cons_append, List.cons_append, List.append_assoc]
    exact .block hbody (ih hys)
  | directive hline _ ih =>
    rw [List.cons_append, List.append_assoc]
    exact .directive hline (ih hys)

theorem lineLength_append {line rest : List Char} (h : '\n' ∉ line) :
    lineLength (line ++ '\n' :: rest) = line.length := by
  unfold lineLength
  rw [List.takeWhile_append_of_pos, List.takeWhile_cons_of_neg (by simp), List.append_nil]
  intro c hc
  rw [bne_iff_ne]
  rintro rfl
  exact h hc

theorem Trivia.triviaLength_append {fresh behind : Bool} {offset more : Nat} {xs ys : List Char}
    (h : Trivia fresh xs behind) (hys : triviaLength (offset + xs.length) behind ys = .ok more) :
    triviaLength offset fresh (xs ++ ys) = .ok (xs.length + more) := by
  induction h generalizing offset with
  | nil => simpa using hys
  | @spacing fresh behind c rest hspacing _ ih =>
    rw [List.length_cons, Nat.add_comm rest.length, ← Nat.add_assoc] at hys
    rw [List.cons_append, triviaLength, if_pos hspacing, ih hys]
    . simp only [bind, Except.bind, pure, Except.pure, List.length_cons]
      congr 1
      omega
    all_goals
      rintro tail rfl
      simp [isSpacing] at hspacing
  | @line fresh behind line rest hline _ ih =>
    have hys : triviaLength (offset + (2 + line.length) + ('\n' :: rest).length) behind ys
        = .ok more := by
      rw [← hys]
      congr 1
      simp only [List.length_cons, List.length_append]
      omega
    rw [List.cons_append, List.cons_append, List.append_assoc, triviaLength]
    rw [List.cons_append, lineLength_append hline, List.drop_left, ← List.cons_append, ih hys]
    simp only [bind, Except.bind, pure, Except.pure, List.length_cons, List.length_append]
    congr 1
    omega
  | @block fresh behind body rest hbody _ ih =>
    have hys : triviaLength (offset + (2 + body.length) + rest.length) behind ys = .ok more := by
      rw [← hys]
      congr 1
      simp only [List.length_cons, List.length_append]
      omega
    rw [List.cons_append, List.cons_append, List.append_assoc, triviaLength]
    rw [commentLength?_append hbody]
    dsimp only
    rw [List.drop_left, ih hys]
    simp only [bind, Except.bind, pure, Except.pure, List.length_cons, List.length_append]
    congr 1
    omega
  | @directive behind line rest hline _ ih =>
    have hys : triviaLength (offset + (1 + line.length) + ('\n' :: rest).length) behind ys
        = .ok more := by
      rw [← hys]
      congr 1
      simp only [List.length_cons, List.length_append]
      omega
    rw [List.cons_append, List.append_assoc, triviaLength, if_neg (by decide), if_pos (by decide)]
    . dsimp only
      rw [List.cons_append, lineLength_append hline, List.drop_left, ← List.cons_append, ih hys]
      simp only [bind, Except.bind, pure, Except.pure, List.length_cons, List.length_append]
      congr 1
      omega
    all_goals simp

theorem Trivia.triviaLength_eq {fresh behind : Bool} {offset : Nat} {cs : List Char}
    (h : Trivia fresh cs behind) : triviaLength offset fresh cs = .ok cs.length := by
  have hnil : triviaLength (offset + cs.length) behind [] = .ok 0 := by simp [triviaLength]
  simpa using h.triviaLength_append hnil

/-- What ends before a text does, ends with the line. -/
theorem exists_lineBreak {offset more : Nat} {rest : List Char}
    (h : triviaLength offset false (rest.drop (lineLength rest)) = .ok more)
    (hlt : more < (rest.drop (lineLength rest)).length) :
    ∃ tail, rest.take (lineLength rest + more) = rest.take (lineLength rest) ++ '\n' :: tail ∧
      (rest.drop (lineLength rest)).take more = '\n' :: tail ∧ '\n' ∉ rest.take (lineLength rest) := by
  have hline : rest.take (lineLength rest) = rest.takeWhile (· != '\n') := take_length_takeWhile _ _
  have hdrop : rest.drop (lineLength rest) = rest.dropWhile (· != '\n') := by
    have hsplit := congrArg (List.drop (lineLength rest))
      (List.takeWhile_append_dropWhile (p := (· != '\n')) (l := rest))
    rwa [lineLength, List.drop_left, eq_comm] at hsplit
  cases hbreak : rest.drop (lineLength rest) with
  | nil =>
    rw [hbreak] at hlt
    cases hlt
  | cons d tail =>
    have hd : d = '\n' := by
      have hhead := List.head?_dropWhile_not (· != '\n') rest
      rw [← hdrop, hbreak] at hhead
      simpa using hhead
    subst hd
    rw [hbreak, triviaLength.eq_4 _ _ _ _ (by simp) (by simp), if_pos (by decide)] at h
    obtain ⟨count, _, hmore⟩ := bind_eq_ok.1 h
    cases hmore
    refine ⟨tail.take count, ?_, ?_, ?_⟩
    . rw [List.take_add, hbreak, Nat.add_comm 1, List.take_succ_cons]
    . rw [Nat.add_comm 1, List.take_succ_cons]
    . rw [hline]
      exact not_mem_takeWhile (by decide) rest

/-- Trivia that is not the end of a text is trivia whatever stands behind it. -/
theorem exists_trivia {offset n : Nat} {fresh : Bool} {cs : List Char}
    (h : triviaLength offset fresh cs = .ok n) (hlt : n < cs.length) :
    ∃ behind, Trivia fresh (cs.take n) behind ∧
      triviaLength (offset + n) behind (cs.drop n) = .ok 0 := by
  fun_induction triviaLength offset fresh cs generalizing n with
  | case1 => simp at hlt
  | case2 offset fresh rest line =>
    rename_i ih
    obtain ⟨more, hmore, hn⟩ := bind_eq_ok.1 h
    cases hn
    have hmoreLt : more < (rest.drop line).length := by
      rw [List.length_drop]
      simp only [List.length_cons] at hlt
      omega
    obtain ⟨behind, htail, hzero⟩ := ih hmore hmoreLt
    obtain ⟨tail, htake, htakeMore, hbreak⟩ := exists_lineBreak hmore hmoreLt
    refine ⟨behind, ?_, ?_⟩
    . rw [Nat.add_assoc, Nat.add_comm, List.take_succ_cons, List.take_succ_cons, htake]
      rw [htakeMore] at htail
      exact .line hbreak htail
    . rw [List.drop_drop] at hzero
      rw [Nat.add_assoc, Nat.add_comm 2, List.drop_succ_cons, List.drop_succ_cons, ← hzero]
      congr 1
      omega
  | case3 => cases h
  | case4 offset fresh rest body hbody ih =>
    obtain ⟨more, hmore, hn⟩ := bind_eq_ok.1 h
    cases hn
    obtain ⟨behind, htail, hzero⟩ := ih hmore (by
      rw [List.length_drop]
      simp only [List.length_cons] at hlt
      omega)
    refine ⟨behind, ?_, ?_⟩
    . rw [Nat.add_assoc, Nat.add_comm, List.take_succ_cons, List.take_succ_cons, List.take_add]
      apply Trivia.block _ htail
      rw [commentLength?_take hbody (Nat.le_refl _), List.length_take,
        Nat.min_eq_left (commentLength?_le hbody)]
    . rw [List.drop_drop] at hzero
      rw [Nat.add_assoc, Nat.add_comm 2, List.drop_succ_cons, List.drop_succ_cons, ← hzero]
      congr 1
      omega
  | case5 offset fresh c rest hline hcomment hspacing ih =>
    obtain ⟨more, hmore, hn⟩ := bind_eq_ok.1 h
    cases hn
    rw [Nat.add_comm, List.length_cons] at hlt
    obtain ⟨behind, htail, hzero⟩ := ih hmore (Nat.lt_of_succ_lt_succ hlt)
    refine ⟨behind, ?_, ?_⟩
    . rw [Nat.add_comm, List.take_succ_cons]
      exact .spacing hspacing htail
    . rw [Nat.add_comm 1, List.drop_succ_cons, ← hzero]
      congr 1
      omega
  | case6 offset fresh c rest hline hcomment hspacing hsign line =>
    rename_i ih
    obtain ⟨more, hmore, hn⟩ := bind_eq_ok.1 h
    cases hn
    have hmoreLt : more < (rest.drop line).length := by
      rw [List.length_drop]
      simp only [List.length_cons] at hlt
      omega
    obtain ⟨behind, htail, hzero⟩ := ih hmore hmoreLt
    obtain ⟨tail, htake, htakeMore, hbreak⟩ := exists_lineBreak hmore hmoreLt
    rw [Bool.and_eq_true, beq_iff_eq] at hsign
    obtain ⟨rfl, rfl⟩ := hsign
    refine ⟨behind, ?_, ?_⟩
    . rw [Nat.add_assoc, Nat.add_comm, List.take_succ_cons, htake]
      rw [htakeMore] at htail
      exact .directive hbreak htail
    . rw [List.drop_drop] at hzero
      rw [Nat.add_assoc, Nat.add_comm 1, List.drop_succ_cons, ← hzero]
      congr 1
      omega
  | case7 offset fresh c rest hline hcomment hspacing hsign =>
    cases h
    refine ⟨fresh, .nil, ?_⟩
    rw [List.drop_zero, triviaLength.eq_4 _ _ _ _ hline hcomment, if_neg hspacing, if_neg hsign]

/-- What stands in front of trivia matters only if that begins with a preprocessor line. -/
theorem Trivia.refresh {fresh behind : Bool} {cs : List Char} (h : Trivia fresh cs behind)
    (hplain : beginsWithDirective cs = false) (other : Bool) : ∃ behind, Trivia other cs behind := by
  induction h generalizing other with
  | nil => exact ⟨other, .nil⟩
  | @spacing fresh behind c rest hspacing tail ih =>
    by_cases hindent : isIndentation c = true
    . rw [beginsWithDirective_cons hindent] at hplain
      obtain ⟨behind, htail⟩ := ih hplain (freshAfter other c)
      exact ⟨behind, .spacing hspacing htail⟩
    . have hfresh (fresh : Bool) : freshAfter fresh c = (c == '\n') := by
        unfold isIndentation at hindent
        unfold freshAfter
        rw [Bool.eq_false_iff.2 hindent, Bool.and_false, Bool.or_false]
      rw [hfresh] at tail
      exact ⟨behind, .spacing hspacing (by rwa [hfresh])⟩
  | line hline tail => exact ⟨_, .line hline tail⟩
  | block hbody tail => exact ⟨_, .block hbody tail⟩
  | directive => cases hplain

/-- A seam does not let a comment begin. -/
theorem Parted.triviaLength_zero {offset : Nat} {fresh : Bool} {cs ys : List Char} (h : Parted cs ys)
    (hcs : cs ≠ []) (hzero : triviaLength offset fresh cs = .ok 0) :
    triviaLength offset fresh (cs ++ ys) = .ok 0 := by
  have hpos {count n : Nat} {rest : Except Flaw Nat} (hcount : 0 < count)
      (h : (do return count + (← rest)) = Except.ok n) : n ≠ 0 := by
    obtain ⟨more, _, hn⟩ := bind_eq_ok.1 h
    cases hn
    omega
  unfold triviaLength at hzero
  split at hzero
  case h_1 => exact absurd rfl hcs
  case h_2 => exact absurd rfl (hpos (by omega) hzero)
  case h_3 =>
    split at hzero
    . cases hzero
    . exact absurd rfl (hpos (by omega) hzero)
  case h_4 c rest hline hblock =>
    have hcomment {d : Char} (hd : Joined '/' d) (hnot : ∀ tail, c = '/' → rest = d :: tail → False) :
        ∀ tail, c = '/' → rest ++ ys = d :: tail → False := by
      rintro tail rfl heq
      cases rest with
      | nil =>
        rw [List.nil_append] at heq
        have hseam := h '/' rfl d (by rw [heq]; rfl)
        rw [hd] at hseam
        cases hseam
      | cons e rest =>
        cases heq
        exact hnot rest rfl rfl
    rw [List.cons_append, triviaLength.eq_4 _ _ _ _ (hcomment (by decide) hline)
      (hcomment (by decide) hblock)]
    split at hzero
    . exact absurd rfl (hpos Nat.one_pos hzero)
    . next hspacing =>
      rw [if_neg hspacing]
      split at hzero
      . exact absurd rfl (hpos (by omega) hzero)
      . next hsign => rw [if_neg hsign]

theorem Parted.triviaLength_append {offset n : Nat} {fresh : Bool} {cs ys : List Char}
    (h : Parted cs ys) (htrivia : triviaLength offset fresh cs = .ok n) (hlt : n < cs.length) :
    triviaLength offset fresh (cs ++ ys) = .ok n := by
  obtain ⟨behind, htake, hzero⟩ := exists_trivia htrivia hlt
  have hlength : (cs.take n).length = n := by
    rw [List.length_take]
    omega
  have hdrop : cs.drop n ≠ [] := by
    rw [ne_eq, List.drop_eq_nil_iff]
    omega
  have hparted : Parted (cs.drop n) ys := by
    intro c hc
    apply h c
    rw [← List.take_append_drop n cs, List.getLast?_append_of_ne_nil _ hdrop]
    exact hc
  have hbehind : triviaLength (offset + (cs.take n).length) behind (cs.drop n) = .ok 0 := by
    rwa [hlength]
  have happend := htake.triviaLength_append (hparted.triviaLength_zero hdrop hbehind)
  rw [← List.append_assoc, List.take_append_drop, hlength] at happend
  exact happend

/-! ### Texts that are divided by themselves -/

/--
How a text at an offset is divided into tokens, whose trivia is left out. If it is divided like that
whatever stands behind it, it says whether only blanks and tabs then stand in front of that on its
line.
-/
inductive Divides : Nat → Bool → List Char → List Token → Option Bool → Prop where
  | trivia {offset : Nat} {fresh behind : Bool} {cs : List Char} (trivia : Trivia fresh cs behind) :
    Divides offset fresh cs [] (some behind)
  | rest {offset : Nat} {fresh : Bool} {cs : List Char}
    (trivia : triviaLength offset fresh cs = .ok cs.length) : Divides offset fresh cs [] none
  | token {offset length : Nat} {fresh : Bool} {front cs : List Char} {kind : TokenKind}
    {tokens : List Token} {behind : Option Bool}
    (trivia : triviaLength offset fresh (front ++ cs) = .ok front.length)
    (lexeme : lexeme (offset + front.length) cs = .ok (kind, length))
    (tail : Divides (offset + front.length + length) false (cs.drop length) tokens behind) :
    Divides offset fresh (front ++ cs)
      (⟨kind, String.ofList (cs.take length), offset + front.length, ""⟩ :: tokens) behind

theorem lexeme_length {offset n : Nat} {cs : List Char} {kind : TokenKind}
    (h : lexeme offset cs = .ok (kind, n)) : cs ≠ [] ∧ 0 < n ∧ n ≤ cs.length := by
  cases cs with
  | nil =>
    have hmarks : marks.find? (fun mark => mark.toList.isPrefixOf []) = none := by decide
    simp [lexeme, startsMarkedString, startsNumber, startsIdentifier, hmarks] at h
  | cons c rest => exact ⟨by simp, (lexeme_bounds h).2⟩

theorem length_take_lexeme {offset n : Nat} {cs : List Char} {kind : TokenKind}
    (h : lexeme offset cs = .ok (kind, n)) : (String.ofList (cs.take n)).length = n := by
  rw [String.length_ofList, List.length_take, Nat.min_eq_left (lexeme_length h).2.2]

theorem lexeme_word {offset : Nat} {word : String} {cs : List Char} (hword : IsWord word)
    (hhead : ∀ d ∈ cs.head?, continuesWord d = false) :
    lexeme offset (word.toList ++ cs) = .ok (wordKind word, word.length) := by
  obtain ⟨c, rest, hchars, hc, hrest⟩ := hword
  have hstarts : startsIdentifier (word.toList ++ cs) = true := by
    rw [startsIdentifier_iff, hchars]
    exact .inl ⟨c, rest ++ cs, rfl, hc⟩
  have hlength : wordLength (word.toList ++ cs) = word.length := by
    have hcs : cs.takeWhile continuesWord = [] := by
      cases cs with
      | nil => rfl
      | cons d more => exact List.takeWhile_cons_of_neg (by simp [hhead d rfl])
    rw [← String.length_toList, hchars]
    unfold wordLength
    rw [List.cons_append, List.drop_succ_cons, List.drop_zero, List.takeWhile_append_of_pos hrest,
      hcs, List.append_nil, List.length_cons, Nat.add_comm]
  have hliteral := startsLiteral_of_startsIdentifier hstarts
  rw [startsLiteral, Bool.or_eq_false_iff, Bool.or_eq_false_iff] at hliteral
  obtain ⟨⟨hstring, hcharacter⟩, hnumber⟩ := hliteral
  have htake : String.ofList ((word.toList ++ cs).take word.length) = word := by
    rw [← String.length_toList, List.take_left, String.ofList_toList]
  unfold lexeme
  rw [hstring, hcharacter, hnumber, hstarts, hlength]
  dsimp only
  rw [htake]
  rfl

theorem triviaLength_word {offset : Nat} {fresh : Bool} {word : String} {cs : List Char}
    (hword : IsWord word) : triviaLength offset fresh (word.toList ++ cs) = .ok 0 := by
  obtain ⟨c, rest, hchars, hc, _⟩ := hword
  rw [hchars, List.cons_append]
  have hspacing : isSpacing c = false := by
    have hseparate := isSeparate_eq_false (.inl (continuesWord_of_startsWord hc))
    rw [isSeparate, Bool.or_eq_false_iff] at hseparate
    exact hseparate.1
  have hslash := ne_of_startsWord hc '/' (by decide)
  have hsign := ne_of_startsWord hc '#' (by decide)
  rw [triviaLength.eq_4 _ _ _ _ (fun _ h => absurd h hslash) (fun _ h => absurd h hslash)]
  simp [hspacing, hsign]

/--
A token at an offset, given where it stands relative to another one.
-/
def relocated (origin offset : Nat) (token : Token) : Token :=
  { token with start := token.start - origin + offset }

namespace Divides

variable {offset : Nat} {fresh : Bool} {cs : List Char} {tokens : List Token} {behind : Option Bool}

theorem of_nil (offset : Nat) (fresh : Bool) : Divides offset fresh [] [] (some fresh) :=
  .trivia .nil

/-- A token at the front of a text. -/
theorem first {length : Nat} {kind : TokenKind} (htrivia : triviaLength offset fresh cs = .ok 0)
    (hlexeme : lexeme offset cs = .ok (kind, length))
    (htail : Divides (offset + length) false (cs.drop length) tokens behind) :
    Divides offset fresh cs (⟨kind, String.ofList (cs.take length), offset, ""⟩ :: tokens) behind :=
  @Divides.token offset length fresh [] cs kind tokens behind htrivia hlexeme htail

theorem bounds (h : Divides offset fresh cs tokens behind) :
    ∀ token ∈ tokens, offset ≤ token.start ∧ token.start < token.stop ∧
      token.stop ≤ offset + cs.length := by
  induction h with
  | trivia => simp
  | rest => simp
  | @token offset length fresh front cs kind tokens behind _ hlexeme _ ih =>
    obtain ⟨_, hpos, hle⟩ := lexeme_length hlexeme
    rw [List.forall_mem_cons]
    rw [List.length_drop] at ih
    rw [List.length_append]
    constructor
    . rw [stop, length_take_lexeme hlexeme]
      dsimp only
      omega
    . intro token htoken
      have := ih token htoken
      omega

/-- A text that ends at a seam is divided in the same way if another one is put behind it. -/
theorem append {fresh middle : Bool} {xs ys : List Char} {front back : List Token}
    (hxs : Divides offset fresh xs front (some middle))
    (hys : Divides (offset + xs.length) middle ys back behind) (hparted : Parted xs ys) :
    Divides offset fresh (xs ++ ys) (front ++ back) behind := by
  generalize hmiddle : some middle = closed at hxs
  induction hxs with
  | @trivia offset fresh behind xs htrivia =>
    cases hmiddle
    cases hys with
    | trivia htail => exact .trivia (htrivia.append htail)
    | rest htail =>
      apply Divides.rest
      rw [htrivia.triviaLength_append htail, List.length_append]
    | @token _ _ _ inner cs kind _ _ htail hlexeme hrest =>
      have hfront : offset + xs.length + inner.length = offset + (xs ++ inner).length := by
        rw [List.length_append, Nat.add_assoc]
      rw [hfront] at hlexeme hrest ⊢
      rw [← List.append_assoc]
      refine .token ?_ hlexeme hrest
      rw [List.append_assoc, htrivia.triviaLength_append htail, List.length_append]
  | rest => cases hmiddle
  | @token offset length fresh front cs kind tokens closed htrivia hlexeme _ ih =>
    obtain ⟨hcs, hpos, hle⟩ := lexeme_length hlexeme
    have hinner : Parted cs ys := by
      intro c hc
      apply hparted c
      rw [List.getLast?_append_of_ne_nil _ hcs]
      exact hc
    have hdrop : Parted (cs.drop length) ys := by
      intro c hc
      apply hinner c
      rw [← List.take_append_drop length cs, List.getLast?_append, hc]
      rfl
    have hlength : offset + (front ++ cs).length
        = offset + front.length + length + (cs.drop length).length := by
      rw [List.length_append, List.length_drop]
      omega
    rw [hlength] at hys
    have htail := ih hys hdrop hmiddle
    rw [← List.drop_append_of_le_length hle] at htail
    have htake : (cs ++ ys).take length = cs.take length := List.take_append_of_le_length hle
    rw [List.append_assoc, List.cons_append, ← htake]
    refine .token ?_ (hinner.lexeme_append hcs hlexeme) htail
    rw [← List.append_assoc]
    apply hparted.triviaLength_append htrivia
    rw [List.length_append]
    have := List.length_pos_iff.2 hcs
    omega

/-- A text falls apart where a token begins or ends. -/
theorem split (h : Divides offset fresh cs tokens behind) {cut : Nat}
    (hcut : cut = offset ∨ ∃ token ∈ tokens, cut = token.start ∨ cut = token.stop) :
    ∃ front back middle, tokens = front ++ back ∧ offset ≤ cut ∧ cut ≤ offset + cs.length ∧
      Divides offset fresh (cs.take (cut - offset)) front (some middle) ∧
      Divides cut middle (cs.drop (cut - offset)) back behind := by
  induction h with
  | @trivia offset fresh behind cs htrivia =>
    obtain rfl : cut = offset := by simpa using hcut
    refine ⟨[], [], fresh, rfl, Nat.le_refl _, by omega, ?_, ?_⟩
    . simpa using of_nil cut fresh
    . simpa using Divides.trivia htrivia
  | @rest offset fresh cs htrivia =>
    obtain rfl : cut = offset := by simpa using hcut
    refine ⟨[], [], fresh, rfl, Nat.le_refl _, by omega, ?_, ?_⟩
    . simpa using of_nil cut fresh
    . simpa using Divides.rest htrivia
  | @token offset length fresh inner cs kind tokens behind htrivia hlexeme htail ih =>
    obtain ⟨hcs, hpos, hle⟩ := lexeme_length hlexeme
    have hlt : inner.length < (inner ++ cs).length := by
      rw [List.length_append]
      have := List.length_pos_iff.2 hcs
      omega
    by_cases hbegin : cut = offset
    . subst hbegin
      refine ⟨[], _, fresh, rfl, Nat.le_refl _, by omega, ?_, ?_⟩
      . simpa using of_nil cut fresh
      . simpa using Divides.token htrivia hlexeme htail
    by_cases hstart : cut = offset + inner.length
    . subst hstart
      obtain ⟨middle, hinner, hzero⟩ := exists_trivia htrivia hlt
      rw [List.take_left] at hinner
      rw [List.drop_left] at hzero
      refine ⟨[], _, middle, rfl, by omega, by omega, ?_, ?_⟩
      . rw [Nat.add_sub_cancel_left, List.take_left]
        exact .trivia hinner
      . rw [Nat.add_sub_cancel_left, List.drop_left]
        exact .first hzero hlexeme htail
    . have hrest : cut = offset + inner.length + length ∨
          ∃ token ∈ tokens, cut = token.start ∨ cut = token.stop := by
        obtain heq | ⟨token, hmem, heq⟩ := hcut
        . exact absurd heq hbegin
        . rw [List.mem_cons] at hmem
          cases hmem with
          | inl hfirst =>
            rw [hfirst, stop, length_take_lexeme hlexeme] at heq
            exact .inl (heq.resolve_left hstart)
          | inr hmem => exact .inr ⟨token, hmem, heq⟩
      obtain ⟨front, back, middle, htokens, hle', hcut, hfront, hback⟩ := ih hrest
      rw [List.length_drop] at hcut
      have htake : (inner ++ cs).take (cut - offset)
          = inner ++ cs.take (cut - offset - inner.length) := by
        rw [List.take_append, List.take_of_length_le (by omega)]
      have hdrop : (inner ++ cs).drop (cut - offset)
          = (cs.drop length).drop (cut - (offset + inner.length + length)) := by
        rw [List.drop_append, List.drop_eq_nil_of_le (by omega), List.nil_append, List.drop_drop]
        congr 1
        omega
      refine ⟨_ :: front, back, middle, by rw [htokens]; rfl, by omega, ?_, ?_, ?_⟩
      . rw [List.length_append]
        omega
      . have htext : cs.take length
            = (cs.take (cut - offset - inner.length)).take length := by
          rw [List.take_take, Nat.min_eq_left (by omega)]
        have hlexeme' : lexeme (offset + inner.length) (cs.take (cut - offset - inner.length))
            = .ok (kind, length) := by
          cases cs with
          | nil => exact absurd rfl hcs
          | cons c rest => exact lexeme_take hlexeme (by omega)
        have htrivia' : triviaLength offset fresh (inner ++ cs.take (cut - offset - inner.length))
            = .ok inner.length := by
          rw [← htake]
          exact triviaLength_take htrivia (by omega)
        rw [htake, htext]
        refine .token htrivia' hlexeme' ?_
        rw [List.drop_take]
        rw [show cut - (offset + inner.length + length) = cut - offset - inner.length - length by
          omega] at hfront
        exact hfront
      . rw [hdrop]
        exact hback

/-- What stands in front of a text matters only if that begins with a preprocessor line. -/
theorem refresh (h : Divides offset fresh cs tokens behind)
    (hplain : beginsWithDirective cs = false) (other : Bool) :
    ∃ behind', Divides offset other cs tokens behind' ∧ behind'.isSome = behind.isSome := by
  have htrivia (offset : Nat) : triviaLength offset fresh cs = triviaLength offset other cs := by
    cases fresh
    . cases other
      . rfl
      . exact triviaLength_fresh hplain
    . cases other
      . exact (triviaLength_fresh hplain).symm
      . rfl
  cases h with
  | trivia h =>
    obtain ⟨behind, h⟩ := h.refresh hplain other
    exact ⟨some behind, .trivia h, rfl⟩
  | rest h =>
    rw [htrivia] at h
    exact ⟨none, .rest h, rfl⟩
  | token h hlexeme htail =>
    rw [htrivia] at h
    exact ⟨behind, .token h hlexeme htail, rfl⟩

/-- A text is divided in the same way wherever it stands. -/
theorem relocate (h : Divides offset fresh cs tokens behind) (other : Nat) :
    Divides other fresh cs (tokens.map (relocated offset other)) behind := by
  have hmoved {offset other : Nat} {fresh : Bool} {cs : List Char} {n : Nat}
      (h : triviaLength offset fresh cs = .ok n) : triviaLength other fresh cs = .ok n := by
    apply eq_ok_of_toOption
    rw [triviaLength_offset other offset, h]
    rfl
  induction h generalizing other with
  | trivia h => exact .trivia h
  | rest h => exact .rest (hmoved h)
  | @token offset length fresh inner cs kind tokens behind htrivia hlexeme htail ih =>
    have hlexeme : lexeme (other + inner.length) cs = .ok (kind, length) := by
      apply eq_ok_of_toOption
      rw [lexeme_offset (other + inner.length) (offset + inner.length), hlexeme]
      rfl
    have hrest : tokens.map (relocated offset other)
        = tokens.map (relocated (offset + inner.length + length) (other + inner.length + length)) := by
      apply List.map_congr_left
      intro token htoken
      have := (htail.bounds token htoken).1
      unfold relocated
      congr 1
      omega
    have hfirst : offset + inner.length - offset + other = other + inner.length := by omega
    rw [List.map_cons, hrest, relocated, hfirst]
    exact .token (hmoved htrivia) hlexeme (ih (other + inner.length + length))

/-- A word that does not go on may stand in front of any text. -/
theorem word {word : String} (hword : IsWord word) (hhead : ∀ d ∈ cs.head?, continuesWord d = false)
    (h : Divides (offset + word.length) false cs tokens behind) :
    Divides offset fresh (word.toList ++ cs) (⟨wordKind word, word, offset, ""⟩ :: tokens) behind := by
  have hlength : word.length = word.toList.length := String.length_toList.symm
  have htake : String.ofList ((word.toList ++ cs).take word.length) = word := by
    rw [hlength, List.take_left, String.ofList_toList]
  have hdrop : (word.toList ++ cs).drop word.length = cs := by
    rw [hlength, List.drop_left]
  have hfirst : Divides offset fresh (word.toList ++ cs) _ behind :=
    first (triviaLength_word hword) (lexeme_word hword hhead) (by rwa [hdrop])
  rwa [htake] at hfirst

/-- A word is one token. -/
theorem text_eq_of_isWord {word : String} (h : Divides offset fresh word.toList tokens behind)
    (hword : IsWord word) : ∀ token ∈ tokens, token.text = word := by
  have htrivia := @triviaLength_word offset fresh word [] hword
  rw [List.append_nil] at htrivia
  generalize hchars : word.toList = chars at h
  cases h with
  | trivia => simp
  | rest => simp
  | @token _ length _ front cs kind rest _ hfront hlexeme htail =>
    rw [← hchars, htrivia] at hfront
    obtain rfl : front = [] := List.eq_nil_of_length_eq_zero (Except.ok.inj hfront).symm
    rw [List.nil_append] at hchars
    have hwhole := @lexeme_word (offset + ([] : List Char).length) word [] hword (by simp)
    rw [List.append_nil, hchars, hlexeme] at hwhole
    cases hwhole
    rw [← hchars, ← String.length_toList, List.drop_length] at htail
    intro token htoken
    rw [List.mem_cons] at htoken
    cases htoken with
    | inl heq =>
      rw [heq, ← hchars, ← String.length_toList]
      simp
    | inr hmem =>
      have := htail.bounds token hmem
      rw [List.length_nil] at this
      omega

end Divides

/-! ### The tokens of a text -/

/--
A token without its trivia.
-/
def withoutTrivia (token : Token) : Token :=
  { token with trivia := "" }

theorem drop_cons_of_pos (c : Char) (rest : List Char) {n : Nat} (h : 0 < n) :
    (c :: rest).drop n = rest.drop (n - 1) := by
  cases n with
  | zero => cases h
  | succ n => rfl

theorem Divides.of_tokensFrom {offset : Nat} {fresh : Bool} {cs : List Char} {tokens : List Token}
    (h : tokensFrom offset fresh cs = .ok tokens) :
    ∃ front last, tokens = front ++ [last] ∧
      last.withoutTrivia = ⟨.eof, "", offset + cs.length, ""⟩ ∧
      Divides offset fresh cs (front.map withoutTrivia) none := by
  induction tokens generalizing offset fresh cs with
  | nil =>
    obtain ⟨_, _, ⟨_, htokens⟩ | ⟨_, _, _, _, _, _, _, _, htokens⟩⟩ := tokensFrom_eq_ok h
    . cases htokens
    . cases htokens
  | cons first others ih =>
    obtain ⟨trivia, htrivia, h⟩ := tokensFrom_eq_ok h
    have hle := triviaLength_le htrivia
    rcases h with ⟨hdrop, htokens⟩ | ⟨c, rest, kind, length, others, hdrop, hlexeme, hothers, htokens⟩
    . have hlength : trivia = cs.length := by
        rw [List.drop_eq_nil_iff] at hdrop
        omega
      subst hlength
      rw [htokens]
      exact ⟨[], _, rfl, rfl, .rest htrivia⟩
    . cases htokens
      obtain ⟨front, last, rfl, hlast, htail⟩ := ih hothers
      obtain ⟨_, hpos, hlength⟩ := lexeme_length hlexeme
      have htake : (cs.take trivia).length = trivia := by
        rw [List.length_take, Nat.min_eq_left hle]
      have hcs : cs.length = trivia + (c :: rest).length := by
        rw [← hdrop, List.length_drop]
        omega
      refine ⟨_ :: front, last, rfl, ?_, ?_⟩
      . rw [hlast, hcs, List.length_drop]
        rw [List.length_cons] at hlength ⊢
        congr 1
        omega
      . have hsplit : cs.take trivia ++ c :: rest = cs := by
          rw [← hdrop, List.take_append_drop]
        have hbehind := drop_cons_of_pos c rest hpos
        have hfirst : Divides offset fresh (cs.take trivia ++ c :: rest) _ none :=
          .token (by rwa [hsplit, htake]) (by rwa [htake]) (by rwa [htake, hbehind])
        rwa [hsplit, htake] at hfirst

theorem tokensFrom_of_trivia {offset : Nat} {fresh : Bool} {cs : List Char}
    (h : triviaLength offset fresh cs = .ok cs.length) :
    tokensFrom offset fresh cs = .ok [⟨.eof, "", offset + cs.length, String.ofList cs⟩] := by
  unfold tokensFrom
  rw [h]
  simp only [bind, Except.bind]
  split
  . rw [List.take_length]
    rfl
  . next hcons =>
    rw [List.drop_length] at hcons
    cases hcons

theorem Divides.tokensFrom_eq {offset : Nat} {fresh : Bool} {cs : List Char} {tokens : List Token}
    {behind : Option Bool} (h : Divides offset fresh cs tokens behind) :
    ∃ found, tokensFrom offset fresh cs = .ok found ∧
      found.map withoutTrivia = tokens ++ [⟨.eof, "", offset + cs.length, ""⟩] := by
  induction h with
  | trivia h => exact ⟨_, tokensFrom_of_trivia h.triviaLength_eq, rfl⟩
  | rest h => exact ⟨_, tokensFrom_of_trivia h, rfl⟩
  | @token offset length fresh front cs kind tokens behind htrivia hlexeme htail ih =>
    obtain ⟨found, hfound, htokens⟩ := ih
    obtain ⟨hcs, hpos, hle⟩ := lexeme_length hlexeme
    cases cs with
    | nil => exact absurd rfl hcs
    | cons c rest =>
      rw [drop_cons_of_pos c rest hpos] at hfound
      refine ⟨_, tokensFrom_cons htrivia (List.drop_left ..) hlexeme hfound, ?_⟩
      rw [List.map_cons, htokens, List.length_drop, List.length_append]
      rw [List.cons_append]
      congr 4
      omega

end ThreadLint.Token
