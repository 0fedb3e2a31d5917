import ThreadLint.Proofs.Tree.Placement

/-!
This module contains where the blocks of a syntax tree end. A block whose brackets are all closed is
meant to end with the brace that closes its first one. It does so exactly if none of its statements
takes a bracket that belongs to the braces around them.
-/

namespace ThreadLint

namespace Parser

/--
Whether a block begins with a brace that another brace closes.
-/
def BeginsWithBrace (tokens : Array Token) (block : Node) : Prop :=
  ∃ opener closer, (tokenAt tokens opener).isPunct ["\x7b"] = true ∧
    (tokenAt tokens closer).isPunct ["\x7d"] = true ∧
    Token.matching? tokens opener = some closer ∧ block.extent.start = startAt tokens opener

/--
Whether a block begins with a brace and ends with the brace that closes it.
-/
def EndsAtPartner (tokens : Array Token) (block : Node) : Prop :=
  ∃ opener closer, (tokenAt tokens opener).isPunct ["\x7b"] = true ∧
    (tokenAt tokens closer).isPunct ["\x7d"] = true ∧
    Token.matching? tokens opener = some closer ∧
    block.extent = ⟨startAt tokens opener, stopAt tokens closer⟩

/--
Whether a node holds the token at an index.
-/
def Holds (tokens : Array Token) (node : Node) (index : Nat) : Prop :=
  node.extent.start ≤ startAt tokens index ∧ stopAt tokens index ≤ node.extent.stop

/--
Whether a statement of a block holds the bracket that closes the first one of the block, although
the text goes on behind that, or the bracket that the last one of the block closes.
-/
def Crossed (tokens : Array Token) (block : Node) : Prop :=
  ∃ statement ∈ block.children, ∃ opener closer, Token.matching? tokens opener = some closer ∧
    ((block.extent.start = startAt tokens opener ∧ Holds tokens statement closer ∧
        closer + 1 < last tokens) ∨
      (block.extent.stop = stopAt tokens closer ∧ Holds tokens statement opener))

variable {tokens : Array Token}

/-! ### The statements of a block -/

theorem tokenAt_of_matching? {opener closer : Nat}
    (h : Token.matching? tokens opener = some closer) :
    (tokenAt tokens opener).closer? = some (tokenAt tokens closer).text ∧
      (tokenAt tokens closer).isCloser = true := by
  obtain ⟨_, hopener, hcloser, htext, hisCloser, _⟩ := Token.matching?_eq_some h
  rw [tokenAt_eq_getElem hopener, tokenAt_eq_getElem hcloser]
  exact ⟨htext, hisCloser⟩

theorem not_noBracket_of_isCloser {index : Nat} (h : (tokenAt tokens index).isCloser = true) :
    ¬ NoBracket tokens index := by
  intro hbracket
  rw [hbracket.2] at h
  simp at h

theorem not_noBracket_of_matching? {opener closer : Nat}
    (h : Token.matching? tokens opener = some closer) : ¬ NoBracket tokens opener := by
  intro hbracket
  have : (tokenAt tokens opener).isOpener = true := by
    simp [Token.isOpener, (tokenAt_of_matching? h).1]
  rw [hbracket.1] at this
  simp at this

theorem Flush.le {lo hi : Nat} {node : Node} (h : Flush tokens lo hi node) : lo ≤ hi := by
  obtain ⟨first, hfirst, hlt, _⟩ := h
  omega

theorem Located.of_block {block : Node} (h : Located tokens block) (hkind : block.kind = .block) :
    ∃ first stop, Whole tokens first stop block ∧
      Fits tokens first stop block.children .block := by
  obtain ⟨first, stop, hblock⟩ := h.whole (by simp [hkind])
  have hform : block.form = .block := by
    unfold Node.kind at hkind
    cases hform : block.form
    all_goals simp [hform, Form.kind] at hkind
    rfl
  have hfits := (whole_iff.1 hblock).2.2.2.1
  rw [hform] at hfits
  exact ⟨first, stop, hblock, hfits⟩

variable [Lawful tokens]

theorem holds_iff {node : Node} {first stop index : Nat}
    (hextent : node.extent = extentOf tokens first stop) (hlt : first < stop)
    (hlast : stop ≤ last tokens) (hindex : index < last tokens) :
    Holds tokens node index ↔ first ≤ index ∧ index < stop := by
  unfold Holds extentOf at *
  rw [hextent]
  constructor
  . intro ⟨hstart, hstop⟩
    constructor
    . apply Classical.byContradiction
      intro hbefore
      have : startAt tokens index < startAt tokens first := start_lt_start (by omega) (by omega)
      dsimp only at hstart
      omega
    . apply Classical.byContradiction
      intro hbehind
      have : stopAt tokens (stop - 1) < stopAt tokens index := stop_lt_stop (by omega) hindex
      dsimp only at hstop
      omega
  . intro ⟨hfirst, hstop⟩
    exact ⟨start_le_start hfirst (by omega), stop_le_stop (by omega) (by omega)⟩

/-- Only labels stand between the statements of a block. -/
theorem exists_holds {lo hi index : Nat} {statements : List Node}
    (h : Chain (Flush tokens) lo hi statements) (hhi : hi ≤ last tokens) (hlo : lo ≤ index)
    (hindex : index < hi) (hbracket : ¬ NoBracket tokens index) :
    ∃ statement ∈ statements, Holds tokens statement index := by
  obtain ⟨statement, hmem, front, back, hfront, hback, hle, first, hfirst, hlt, hlabels, hextent, _⟩ :=
    h.exists_at (fun _ _ _ => Flush.le) hlo hindex
  refine ⟨statement, hmem, ?_⟩
  have : first ≤ index := by
    apply Classical.byContradiction
    intro hbefore
    exact hbracket (hlabels index hfront (by omega))
  rw [holds_iff hextent hlt (by omega) (by omega)]
  omega

theorem of_holds {lo hi index : Nat} {statements : List Node}
    (h : Chain (Flush tokens) lo hi statements) (hhi : hi ≤ last tokens)
    (hindex : index < last tokens) {statement : Node} (hmem : statement ∈ statements)
    (hholds : Holds tokens statement index) : lo ≤ index ∧ index < hi := by
  obtain ⟨front, back, hfront, hback, first, hfirst, hlt, _, hextent, _⟩ :=
    h.of_mem (fun _ _ _ => Flush.le) hmem
  rw [holds_iff hextent hlt (by omega) hindex] at hholds
  omega

/-! ### The braces around a block -/

/-- A brace is an opening bracket, and what closes it is a brace. -/
theorem exists_closing_brace (hbalanced : Token.Balanced tokens 0 tokens.size) {first : Nat}
    (hbrace : (tokenAt tokens first).isPunct ["\x7b"] = true) :
    ∃ closer, Token.matching? tokens first = some closer ∧
      (tokenAt tokens closer).isPunct ["\x7d"] = true := by
  have hlast : first < last tokens := lt_last_of_isPunct hbrace
  have : last tokens < tokens.size := last_lt_size
  have htext := hbrace
  rw [Token.isPunct_iff, List.mem_singleton] at htext
  have hcloser : (tokenAt tokens first).closer? = some "\x7d" := by
    simp [Token.closer?, htext, Token.brackets, List.lookup_cons]
  have hisOpener : tokens[first].isOpener = true := by
    rw [← tokenAt_eq_getElem (by omega)]
    simp [Token.isOpener, hcloser]
  obtain ⟨closer, hmatching⟩ := hbalanced.exists_matching? (by omega) hisOpener
  refine ⟨closer, hmatching, ?_⟩
  obtain ⟨hfound, hisCloser⟩ := tokenAt_of_matching? hmatching
  rw [hcloser, Option.some_inj] at hfound
  rw [Token.isPunct_iff, List.mem_singleton]
  exact ⟨(Token.isPunct_iff.1 hisCloser).1, hfound.symm⟩

section

variable {block : Node} {first stop closer : Nat} (hblock : Whole tokens first stop block)

include hblock

theorem start_eq_iff {opener found : Nat} (h : Token.matching? tokens opener = some found) :
    block.extent.start = startAt tokens opener ↔ opener = first := by
  obtain ⟨hlt, hlast, hextent, _⟩ := whole_iff.1 hblock
  have := matching?_bounds h
  rw [hextent, extentOf]
  constructor
  . intro heq
    exact (start_inj heq (by omega) (by omega)).symm
  . intro heq
    rw [heq]

theorem stop_eq_iff {found : Nat} (hfound : found < last tokens) :
    block.extent.stop = stopAt tokens found ↔ found + 1 = stop := by
  obtain ⟨hlt, hlast, hextent, _⟩ := whole_iff.1 hblock
  rw [hextent, extentOf]
  constructor
  . intro heq
    have := stop_inj heq (by omega) hfound
    omega
  . intro heq
    rw [← heq, Nat.add_sub_cancel]

variable (hmatching : Token.matching? tokens first = some closer)

include hmatching

theorem endsAtPartner_iff (hbrace : (tokenAt tokens first).isPunct ["\x7b"] = true)
    (hclosing : (tokenAt tokens closer).isPunct ["\x7d"] = true) :
    EndsAtPartner tokens block ↔ closer + 1 = stop := by
  have hcloser := (matching?_bounds hmatching).2
  constructor
  . intro ⟨opener, found, _, _, hfound, hextent⟩
    have hopener : opener = first := by
      rw [← start_eq_iff hblock hfound, hextent]
    rw [hopener, hmatching] at hfound
    cases hfound
    rw [← stop_eq_iff hblock hcloser, hextent]
  . intro heq
    refine ⟨first, closer, hbrace, hclosing, hmatching, ?_⟩
    rw [(whole_iff.1 hblock).2.2.1, extentOf, ← heq, Nat.add_sub_cancel]

variable (hbalanced : Token.Balanced tokens 0 tokens.size) {behind : Nat}
  (hstatements : Chain (Flush tokens) (first + 1) behind block.children)
  (hbehind : ((tokenAt tokens behind).isPunct ["\x7d"] = true ∧ stop = behind + 1) ∨
    (behind = last tokens ∧ stop = behind))

include hbalanced hstatements hbehind

/-- A block that ends where it should has all its brackets to itself. -/
theorem not_crossed_of_stop_eq (h : closer + 1 = stop) : ¬ Crossed tokens block := by
  have hlast := (whole_iff.1 hblock).2.1
  intro ⟨statement, hmem, opener, found, hfound, hcase⟩
  have hfoundLast := (matching?_bounds hfound).2
  cases hcase with
  | inl hcase =>
    obtain ⟨hstart, hholds, hgoesOn⟩ := hcase
    rw [start_eq_iff hblock hfound] at hstart
    rw [hstart, hmatching] at hfound
    cases hfound
    have := of_holds hstatements (by omega) hfoundLast hmem hholds
    omega
  | inr hcase =>
    obtain ⟨hstop, hholds⟩ := hcase
    rw [stop_eq_iff hblock hfoundLast] at hstop
    have : found = closer := by omega
    subst this
    have : opener = first := hbalanced.matching?_injective hfound hmatching
    have hopener := matching?_bounds hfound
    have := of_holds hstatements (by omega) (by omega) hmem hholds
    omega

/--
The closing brace is passed over in a statement, or the block ends with a brace that belongs to one
in a statement.
-/
theorem crossed_of_stop_ne (h : closer + 1 ≠ stop) : Crossed tokens block := by
  have hlast := (whole_iff.1 hblock).2.1
  have ⟨hlt, hcloser⟩ := matching?_bounds hmatching
  by_cases hbefore : closer < behind
  . obtain ⟨statement, hmem, hholds⟩ := exists_holds hstatements (by omega) hlt hbefore
      (not_noBracket_of_isCloser (tokenAt_of_matching? hmatching).2)
    refine ⟨statement, hmem, first, closer, hmatching, .inl ⟨?_, hholds, by omega⟩⟩
    rw [start_eq_iff hblock hmatching]
  . have ⟨hend, hstop⟩ : (tokenAt tokens behind).isPunct ["\x7d"] = true ∧ stop = behind + 1 := by
      apply hbehind.resolve_right
      omega
    have hbehindLast : behind < last tokens := lt_last_of_isPunct hend
    have : last tokens < tokens.size := last_lt_size
    have hisCloser : tokens[behind].isCloser = true := by
      rw [← tokenAt_eq_getElem (by omega)]
      rw [Token.isPunct_iff, List.mem_singleton] at hend
      simp [Token.isCloser, Token.isPunct, hend, Token.brackets]
    have hle := hstatements.le fun _ _ _ => Flush.le
    obtain ⟨partner, hpartner, hltBehind, hpartnerMatching⟩ :=
      hbalanced.exists_partner hmatching hle (by omega) (by omega) hisCloser
    obtain ⟨statement, hmem, hholds⟩ := exists_holds hstatements (by omega) hpartner hltBehind
      (not_noBracket_of_matching? hpartnerMatching)
    refine ⟨statement, hmem, partner, behind, hpartnerMatching, .inr ⟨?_, hholds⟩⟩
    rw [stop_eq_iff hblock hbehindLast, hstop]

end

theorem Located.beginsWithBrace (hbalanced : Token.Balanced tokens 0 tokens.size) {block : Node}
    (h : Located tokens block) (hkind : block.kind = .block) : BeginsWithBrace tokens block := by
  obtain ⟨first, stop, hblock, hbrace, _⟩ := h.of_block hkind
  obtain ⟨closer, hmatching, hclosing⟩ := exists_closing_brace hbalanced hbrace
  refine ⟨first, closer, hbrace, hclosing, hmatching, ?_⟩
  rw [start_eq_iff hblock hmatching]

theorem Located.endsAtPartner_iff (hbalanced : Token.Balanced tokens 0 tokens.size) {block : Node}
    (h : Located tokens block) (hkind : block.kind = .block) :
    EndsAtPartner tokens block ↔ ¬ Crossed tokens block := by
  obtain ⟨first, stop, hblock, hbrace, behind, hstatements, hbehind⟩ := h.of_block hkind
  obtain ⟨closer, hmatching, hclosing⟩ := exists_closing_brace hbalanced hbrace
  rw [Parser.endsAtPartner_iff hblock hmatching hbrace hclosing]
  constructor
  . exact not_crossed_of_stop_eq hblock hmatching hbalanced hstatements hbehind
  . intro hnot
    apply Classical.byContradiction
    intro hne
    exact hnot (crossed_of_stop_ne hblock hmatching hbalanced hstatements hbehind hne)

end Parser

/-! ### Blocks of a text -/

theorem mapM_eq_ok_nil {ε α β : Type} {f : α → Except ε β} {items : List α}
    (h : items.mapM f = .ok []) : items = [] := by
  cases items with
  | nil => rfl
  | cons item rest =>
    rw [List.mapM_cons] at h
    obtain ⟨_, _, h⟩ := bind_eq_ok.1 h
    obtain ⟨_, _, h⟩ := bind_eq_ok.1 h
    cases h

theorem balanced_of_recoveries {text : String} {path : Option String} {parsed : Parsed}
    {tokens : List Token} (h : parse text path = .ok parsed) (hrecoveries : parsed.recoveries = [])
    (htokens : Token.tokenize parsed.source = .ok tokens) :
    Token.Balanced tokens.toArray 0 tokens.toArray.size := by
  obtain ⟨tokens', unclosed, _, htokens', hunclosed, hmapM, _, hsource, _⟩ :=
    Parsed.ofSource_eq_ok (parse_eq_ok h)
  rw [hsource, htokens'] at htokens
  cases htokens
  rw [hrecoveries] at hmapM
  rw [mapM_eq_ok_nil hmapM] at hunclosed
  exact Token.balanced_of_unclosed hunclosed

theorem blocks_endAtPartner_iff {text : String} {path : Option String} {parsed : Parsed}
    (h : parse text path = .ok parsed) (hrecoveries : parsed.recoveries = []) :
    ∃ tokens, Token.tokenize parsed.source = .ok tokens ∧
      ∀ block ∈ parsed.root.preorder, block.kind = .block →
        Parser.BeginsWithBrace tokens.toArray block ∧
          (Parser.EndsAtPartner tokens.toArray block ↔ ¬ Parser.Crossed tokens.toArray block) := by
  obtain ⟨_, tokens, htokens, hsited⟩ := parse_sited h
  refine ⟨tokens, htokens, ?_⟩
  have := hsited.lawful
  have hbalanced := balanced_of_recoveries h hrecoveries htokens
  intro block hmem hkind
  have hlocated := hsited.located hmem (by simp [hkind])
  exact ⟨hlocated.beginsWithBrace hbalanced hkind, hlocated.endsAtPartner_iff hbalanced hkind⟩

theorem blocks_endAtPartner_iff_nested :
    ∃ parsed, parse "class C \x7b void M() \x7b while (x) \x7b \x7d \x7d void N() \x7b \x7d \x7d" none
        = .ok parsed ∧ parsed.recoveries = [] ∧
      ∃ tokens, Token.tokenize parsed.source = .ok tokens ∧
        ∀ block ∈ parsed.root.preorder, block.kind = .block →
          Parser.BeginsWithBrace tokens.toArray block ∧
            (Parser.EndsAtPartner tokens.toArray block ↔
              ¬ Parser.Crossed tokens.toArray block) := by
  have hok : ((parse "class C \x7b void M() \x7b while (x) \x7b \x7d \x7d void N() \x7b \x7d \x7d" none).map
      fun parsed => parsed.recoveries.length).toOption = some 0 := by decide +kernel
  obtain ⟨parsed, h, hlength⟩ := map_eq_ok.1 (eq_ok_of_toOption hok)
  have hrecoveries : parsed.recoveries = [] := List.eq_nil_of_length_eq_zero hlength
  exact ⟨parsed, h, hrecoveries, blocks_endAtPartner_iff h hrecoveries⟩

/--
What is skipped in place of the statement that a condition lacks is the closing brace of the method,
so that the method goes on to the end of the class.
-/
theorem block_of_missing_statement :
    ∃ parsed tokens,
      parse "class C \x7b void M() \x7b if (x) \x7d void N() \x7b \x7d \x7d" none = .ok parsed ∧
        parsed.recoveries = [] ∧ Token.tokenize parsed.source = .ok tokens ∧
          ∃ block ∈ parsed.root.preorder, block.kind = .block ∧ block.extent = ⟨19, 44⟩ ∧
            ¬ Parser.EndsAtPartner tokens.toArray block := by
  have hok : ((parse "class C \x7b void M() \x7b if (x) \x7d void N() \x7b \x7d \x7d" none).map
      fun parsed => (parsed.source, parsed.recoveries.length, parsed.root.preorder.any fun block =>
        block.kind == .block && block.extent == ⟨19, 44⟩)).toOption
      = some (Source.ofString "class C \x7b void M() \x7b if (x) \x7d void N() \x7b \x7d \x7d" none, 0, true) := by
    decide +kernel
  obtain ⟨parsed, h, heq⟩ := map_eq_ok.1 (eq_ok_of_toOption hok)
  simp only [Prod.mk.injEq, List.any_eq_true, Bool.and_eq_true, beq_iff_eq] at heq
  obtain ⟨hsource, hlength, block, hmem, hkind, hextent⟩ := heq
  have hok : ((Token.tokenize (Source.ofString
      "class C \x7b void M() \x7b if (x) \x7d void N() \x7b \x7d \x7d" none)).map fun tokens =>
        (Parser.last tokens.toArray, Parser.startAt tokens.toArray 7,
          Parser.stopAt tokens.toArray 12, Token.matching? tokens.toArray 7)).toOption
      = some (20, 19, 29, some 12) := by decide +kernel
  obtain ⟨tokens, htokens, heq⟩ := map_eq_ok.1 (eq_ok_of_toOption hok)
  simp only [Prod.mk.injEq] at heq
  obtain ⟨hlast, hstart, hstop, hmatching⟩ := heq
  refine ⟨parsed, tokens, h, List.eq_nil_of_length_eq_zero hlength, ?_, block, hmem, hkind, hextent,
    ?_⟩
  . rw [hsource, htokens]
  intro ⟨opener, closer, _, _, hcloser, hends⟩
  have := Parser.Lawful.of_tiles (Token.Tiles.of_tokenize htokens)
  have hbounds := Parser.matching?_bounds hcloser
  rw [hextent, Extent.mk.injEq] at hends
  have hsame : Parser.startAt tokens.toArray opener = Parser.startAt tokens.toArray 7 := by
    rw [hstart, ← hends.1]
  have hopener : opener = 7 := Parser.start_inj hsame (by omega) (by omega)
  rw [hopener, hmatching] at hcloser
  cases hcloser
  omega

end ThreadLint
