import ThreadLint.Proofs.Binding.Agreement
import ThreadLint.Proofs.Grammar.Reading
import ThreadLint.Proofs.Presence
import ThreadLint.Proofs.Settled.Await
import ThreadLint.Proofs.Symbol.Counterpart

/-!
This module contains that what a fix asserts is not found to be missing again, if the assertion is read
as the statement that it is meant to be: that a service is present, and that a handler of a command runs
on the UI thread. A call with a dotted name is such a statement wherever one begins with it.
-/

namespace ThreadLint

open ThreadLint.Parser

/-! ### Calls at a known offset -/

namespace Token

variable {source : Source} {tokens : List Token} {index : Nat}

/-- A mark that is no part of anything longer is the token at the front of a text. -/
theorem lexeme_of_mark {offset length : Nat} {c : Char} {rest : List Char} {kind : TokenKind}
    (hc : c ∈ ['(', ')', ';'] ∨ c = '.' ∧ ∃ d more, rest = d :: more ∧ startsWord d = true)
    (h : lexeme offset (c :: rest) = .ok (kind, length)) : kind = .punct ∧ length = 1 := by
  have hclass := frontClass_of_lexeme h
  have hcases : startsLiteral (c :: rest) = false ∧ startsIdentifier (c :: rest) = false ∧
      ∃ mark, mark.length = 1 ∧
        marks.find? (fun mark => mark.toList.isPrefixOf (c :: rest)) = some mark := by
    obtain hc | ⟨rfl, d, more, rfl, hd⟩ := hc
    . simp only [List.mem_cons, List.not_mem_nil, or_false] at hc
      rcases hc with rfl | rfl | rfl
      . exact ⟨rfl, show startsWord '(' = false by decide, "(", rfl, by simp [marks, List.isPrefixOf]⟩
      . exact ⟨rfl, show startsWord ')' = false by decide, ")", rfl, by simp [marks, List.isPrefixOf]⟩
      . exact ⟨rfl, show startsWord ';' = false by decide, ";", rfl, by simp [marks, List.isPrefixOf]⟩
    . have hdigit := isDigit_of_startsWord hd
      have hdot := ne_of_startsWord hd '.' (by decide)
      refine ⟨?_, show startsWord '.' = false by decide, ".", rfl, ?_⟩
      . have hnumber : startsNumber ('.' :: d :: more) = false := by
          simpa [startsNumber] using hdigit
        simp [startsLiteral, startsMarkedString, hnumber]
      . simp [marks, List.isPrefixOf, hdot.symm]
  obtain ⟨hliteral, hword, mark, hlength, hmark⟩ := hcases
  cases hclass with
  | literal starts _ => simp [hliteral] at starts
  | word _ identifier => simp [hword] at identifier
  | mark _ _ found =>
    rw [hmark] at found
    cases found
    exact ⟨rfl, hlength⟩

section

variable (htokens : tokenize source = .ok tokens)

include htokens

/-- A token that nothing is passed over for begins right behind the one in front of it. -/
theorem reads_next {c d : Char} {cs more : List Char} {length : Nat}
    (h : Reads source tokens index (c :: cs))
    (hlength : (tokenAt tokens.toArray index).text.length = length)
    (hmore : (c :: cs).drop length = d :: more) (hd : startsTrivia d = false) :
    Reads source tokens (index + 1) (d :: more) := by
  obtain ⟨hlt, _⟩ := lexeme_of_reads htokens h
  obtain ⟨trivia, htrivia, hstart⟩ := start_of_reads htokens h
  rw [hlength, hmore, triviaLength_eq_zero hd] at htrivia
  cases htrivia
  have hdrop := hmore
  rw [← h.2, List.drop_drop, ← hlength] at hdrop
  refine ⟨hlt, ?_⟩
  rw [hstart]
  exact hdrop

theorem mark_of_reads {c : Char} {rest : List Char} (h : Reads source tokens index (c :: rest))
    (hc : c ∈ ['(', ')', ';'] ∨ c = '.' ∧ ∃ d more, rest = d :: more ∧ startsWord d = true) :
    (tokenAt tokens.toArray index).isPunct [String.singleton c] = true ∧
      (tokenAt tokens.toArray index).text.length = 1 := by
  obtain ⟨_, hlexeme, htext⟩ := lexeme_of_reads htokens h
  obtain ⟨hkind, hlength⟩ := lexeme_of_mark hc hlexeme
  rw [hlength, List.take_succ_cons, List.take_zero] at htext
  refine ⟨?_, hlength⟩
  rw [Token.isPunct_iff, List.mem_singleton]
  exact ⟨hkind, String.toList_injective (by rw [htext, String.toList_singleton])⟩

theorem name_of_reads {name : String} {d : Char} {more : List Char} (hword : IsWord name)
    (hkind : wordKind name = .identifier) (hd : continuesWord d = false)
    (htrivia : startsTrivia d = false) (h : Reads source tokens index (name.toList ++ d :: more)) :
    Names tokens.toArray index name ∧ Reads source tokens (index + 1) (d :: more) := by
  obtain ⟨_, hkind', htext⟩ := word_of_reads htokens hword hd h
  have hname : Names tokens.toArray index name := by
    constructor
    . rw [Token.isIdentifier, hkind', hkind]
      rfl
    . rw [identifierName_of_isWord (htext.symm ▸ hword), htext]
  obtain ⟨c, rest, hchars, _⟩ := id hword
  refine ⟨hname, ?_⟩
  have hreads := h
  rw [hchars, List.cons_append] at hreads
  apply reads_next htokens hreads rfl _ htrivia
  rw [htext, ← String.length_toList, ← List.cons_append, ← hchars, List.drop_left]

/-- The tokens of a dotted name in front of a parenthesis. -/
theorem chain_of_reads {name : String} {names : List String} {more : List Char}
    (hwords : ∀ word ∈ name :: names, IsWord word ∧ wordKind word = .identifier)
    (h : Reads source tokens index
      (name.toList ++ (names.flatMap (fun word => '.' :: word.toList) ++ '(' :: more))) :
    Names tokens.toArray index name ∧ ∃ stop,
      Chain (IsSegment tokens.toArray) (index + 1) stop names ∧
        (tokenAt tokens.toArray stop).isPunct ["("] = true ∧
        Reads source tokens stop ('(' :: more) := by
  induction names generalizing index name with
  | nil =>
    obtain ⟨hword, hkind⟩ := hwords name (List.mem_cons_self ..)
    rw [List.flatMap_nil, List.nil_append] at h
    obtain ⟨hname, hnext⟩ := name_of_reads htokens hword hkind (by decide) (by decide) h
    exact ⟨hname, index + 1, rfl, (mark_of_reads htokens hnext (.inl (by simp))).1, hnext⟩
  | cons second names ih =>
    rw [List.forall_mem_cons] at hwords
    rw [List.flatMap_cons, List.cons_append, List.cons_append, List.append_assoc] at h
    obtain ⟨hname, hdot⟩ :=
      name_of_reads htokens hwords.1.1 hwords.1.2 (by decide) (by decide) h
    obtain ⟨c, rest, hchars, hc, _⟩ := (hwords.2 second (List.mem_cons_self ..)).1
    have hfront := hdot
    rw [hchars, List.cons_append] at hfront
    obtain ⟨hpunct, hlength⟩ := mark_of_reads htokens hfront (.inr ⟨rfl, c, _, rfl, hc⟩)
    have hnext := reads_next htokens hfront hlength rfl (startsTrivia_of_startsWord hc)
    rw [← List.cons_append, ← hchars] at hnext
    obtain ⟨hsecond, stop, hchain, hopen⟩ := ih hwords.2 hnext
    exact ⟨hname, stop, ⟨index + 3, ⟨hpunct, hsecond, rfl⟩, hchain⟩, hopen⟩

/--
What a call with a dotted name and one argument or none is written like, with a semicolon behind it.
-/
def callText (name : String) (names : List String) (argument : Option String) : List Char :=
  name.toList ++ (names.flatMap (fun word => '.' :: word.toList) ++
    '(' :: ((argument.getD "").toList ++ [')', ';']))

/-- A call that is written where a statement begins is that statement. -/
theorem isCallStatement_of_reads {name : String} {names : List String} {argument : Option String}
    {more : List Char}
    (hwords : ∀ word ∈ name :: names, IsWord word ∧ wordKind word = .identifier) (hne : names ≠ [])
    (hthis : name ≠ "this" ∧ name ≠ "base")
    (hargument : ∀ word ∈ argument, IsWord word ∧ wordKind word = .identifier)
    (h : Reads source tokens index (callText name names argument ++ more)) {stop : Nat}
    {node : Node} (hread : IsRead tokens.toArray index stop node) :
    IsCallStatement (dotted name names) (fun arguments => arguments.map Node.form
      = argument.toList.map fun word => .identifier word (.name none)) node := by
  have := Lawful.of_tiles (Tiles.of_tokenize htokens)
  unfold callText at h
  rw [List.append_assoc, List.append_assoc, List.cons_append, List.append_assoc] at h
  obtain ⟨hname, open', hchain, hopen, hrest⟩ := chain_of_reads htokens hwords h
  have hlength := (mark_of_reads htokens hrest (.inl (by simp))).2
  have hempty : name ≠ "" := by
    rintro rfl
    have := (hwords "" (List.mem_cons_self ..)).1.length_pos
    simp at this
  obtain ⟨depth, hread⟩ := hread
  have harguments : ∃ close, Accepts (argumentList (Grammar.ofDepth depth) ")") tokens.toArray open'
      (fun result next => result.1.map Node.form
        = argument.toList.map (fun word => .identifier word (.name none)) ∧ next = close) ∧
      (tokenAt tokens.toArray close).isPunct [";"] = true := by
    cases argument with
    | none =>
      have hclose := reads_next htokens hrest hlength rfl (by decide)
      obtain ⟨hpunct, hlength⟩ := mark_of_reads htokens hclose (.inl (by simp))
      have hsemicolon := reads_next htokens hclose hlength rfl (by decide)
      refine ⟨open' + 2, ?_, (mark_of_reads htokens hsemicolon (.inl (by simp))).1⟩
      apply (argumentList_accepts_nil hopen hpunct).mono
      rintro result _ ⟨hnil, rfl⟩
      rw [hnil]
      exact ⟨rfl, rfl⟩
    | some word =>
      obtain ⟨hword, hkind⟩ := hargument word rfl
      obtain ⟨c, rest, hchars, hc, _⟩ := id hword
      have hnext := hrest
      rw [Option.getD_some, hchars, List.cons_append] at hnext
      have hnext := reads_next htokens hnext hlength rfl (startsTrivia_of_startsWord hc)
      rw [← List.cons_append, ← hchars] at hnext
      obtain ⟨hnames, hclose⟩ :=
        name_of_reads htokens hword hkind (by decide) (by decide) hnext
      obtain ⟨hpunct, hlength⟩ := mark_of_reads htokens hclose (.inl (by simp))
      have hsemicolon := reads_next htokens hclose hlength rfl (by decide)
      refine ⟨open' + 3, ?_, (mark_of_reads htokens hsemicolon (.inl (by simp))).1⟩
      apply (argumentList_accepts_name hopen hnames hpunct
        (ofDepth_expression_accepts hnames ⟨")", by simp, hpunct⟩ depth)).mono
      rintro result _ ⟨⟨argument, hresult, hform⟩, rfl⟩
      rw [hresult]
      exact ⟨by simp [hform], rfl⟩
  obtain ⟨close, haccepts, hsemicolon⟩ := harguments
  exact (embedded_accepts hname hchain hne hopen haccepts hsemicolon
    ⟨hthis.1, hthis.2, hempty⟩).arrives _ _ hread

end

end Token

open ThreadLint.Parser

/-- A call that is written where a statement of a block begins is that statement. -/
theorem Sited.isCallStatement {source : Source} {tokens : List Token} {root block statement : Node}
    (h : Sited source tokens root) (htokens : Token.tokenize source = .ok tokens)
    (hmem : block ∈ root.preorder) (hkind : block.kind = .block) (hstatement : statement ∈ block.children)
    {name : String} {names : List String} {argument : Option String} {more : List Char}
    (hwords : ∀ word ∈ name :: names, Token.IsWord word ∧ Token.wordKind word = .identifier)
    (hne : names ≠ []) (hthis : name ≠ "this" ∧ name ≠ "base")
    (hargument : ∀ word ∈ argument, Token.IsWord word ∧ Token.wordKind word = .identifier)
    (hchars : source.chars.drop statement.extent.start
      = Token.callText name names argument ++ more) :
    IsCallStatement (dotted name names) (fun arguments => arguments.map Node.form
      = argument.toList.map fun word => .identifier word (.name none)) statement := by
  have := h.lawful
  have hform : block.form = .block := by
    unfold Node.kind at hkind
    cases hform : block.form
    all_goals simp_all [Form.kind]
  obtain ⟨first, stop, hlast, hfits⟩ := h.fits hmem hform (by simp [Form.kind])
  obtain ⟨_, behind, hchain, hends⟩ := hfits
  have hle : ∀ lo hi node, Flush tokens.toArray lo hi node → lo ≤ hi := by
    rintro lo hi node ⟨first, hlo, hlt, _⟩
    omega
  obtain ⟨lo, hi, _, hhi, index, _, hlt, _, hextent, hread⟩ := hchain.of_mem hle hstatement
  apply Token.isCallStatement_of_reads htokens hwords hne hthis hargument _ hread
  . exact more
  refine ⟨by omega, ?_⟩
  rw [← hchars, hextent]
  rfl

/-! ### Assertions that a variable is present -/

namespace Node

/--
Whether a dotted name is that of a call that asserts that an argument is not null.
-/
def assertsPresence (callee : String) : Bool :=
  presenceAssertions.any fun assertion =>
    callee == assertion || Text.endsWith callee ("." ++ assertion)

/-- A variable is checked where a statement asserts that it is present. -/
theorem firstUse?_of_isCallStatement {statement : Node} {rest : List Node} {callee name : String}
    (hcallee : assertsPresence callee = true)
    (h : IsCallStatement callee (fun arguments => arguments.map Node.form
      = [.identifier name (.name none)]) statement) :
    ∃ call, firstUse? (statement :: rest) name = some (.check, call) := by
  obtain ⟨hkind, call, arguments, hchildren, hforms, hform, inner, hcall, hdotted⟩ := h
  obtain ⟨argument, rfl, hargument⟩ := List.map_eq_singleton_iff.1 hforms
  have hstatement : statement.use? name = none := by
    unfold Node.kind at hkind
    rw [use?_eq_none_iff]
    unfold checksPresence reassigns dereferences
    cases hform : statement.form
    all_goals simp_all [Form.kind]
  have hname : argument.isName name = true := by
    unfold isName
    rw [unwrap?_eq (by rw [hargument]; rfl)]
    obtain ⟨form, extent, trivia, designation, children⟩ := argument
    cases hargument
    exact beq_self_eq_true name
  have hchecks : call.checksPresence name = true := by
    unfold checksPresence isPresenceAssertion arguments
    rw [hform]
    dsimp only
    rw [hcall, List.head?_cons, Option.bind_some, hdotted, Option.getD_some, Bool.and_eq_true]
    exact ⟨hcallee, by simp [hname]⟩
  have huse : call.use? name = some .check := by
    unfold use?
    rw [if_pos hchecks]
  refine ⟨call, ?_⟩
  rw [firstUse?_eq, forestPreorder, preorder_eq, hchildren, forestPreorder, preorder_eq call,
    List.cons_append, List.cons_append, List.cons_append, List.findSome?_cons,
    useAt?_eq_none_iff.2 hstatement, List.findSome?_cons, useAt?_eq_some_iff.2 ⟨huse, rfl⟩]

end Node

/-! ### Names that are read again -/

namespace Token

/-- A word does not go on behind a line feed. -/
theorem wordLength_le_of_feed {front rest : List Char} (hne : front ≠ []) :
    wordLength (front ++ '\n' :: rest) ≤ front.length := by
  obtain ⟨c, others, rfl⟩ := List.exists_cons_of_ne_nil hne
  clear hne
  unfold wordLength
  rw [List.cons_append, List.drop_succ_cons, List.drop_zero, List.length_cons, Nat.add_comm 1]
  apply Nat.succ_le_succ
  induction others with
  | nil => rw [List.nil_append, List.takeWhile_cons_of_neg (by decide), List.length_nil]
  | cons d others ih =>
    rw [List.cons_append, List.takeWhile_cons]
    split
    . exact Nat.succ_le_succ ih
    . exact Nat.zero_le _

end Token

/-- Two identifiers are the same where two texts go on in the same way. -/
theorem Sited.identifier_eq {source source' : Source} {tokens tokens' : List Token}
    {root root' : Node} (h : Sited source tokens root) (h' : Sited source' tokens' root')
    {index index' m : Nat} (hindex : (tokenAt tokens.toArray index).isIdentifier = true)
    (hindex' : (tokenAt tokens'.toArray index').isIdentifier = true)
    (hstart : startAt tokens'.toArray index' = startAt tokens.toArray index)
    (htake : (source.chars.drop (startAt tokens.toArray index)).take m
      = (source'.chars.drop (startAt tokens.toArray index)).take m)
    (hle : (tokenAt tokens.toArray index).text.length ≤ m)
    (hle' : Token.wordLength (source'.chars.drop (startAt tokens.toArray index)) ≤ m) :
    (tokenAt tokens'.toArray index').text = (tokenAt tokens.toArray index).text := by
  have hlength {source : Source} {tokens : List Token} {root : Node} (h : Sited source tokens root)
      {index : Nat} (hindex : (tokenAt tokens.toArray index).isIdentifier = true) :
      (tokenAt tokens.toArray index).text.toList = (source.chars.drop (startAt tokens.toArray index)).take
        (tokenAt tokens.toArray index).text.length ∧ (tokenAt tokens.toArray index).text.length
        = Token.wordLength (source.chars.drop (startAt tokens.toArray index)) := by
    have := h.lawful
    have hlast := lt_last_of_isIdentifier hindex
    have hmem := tokenAt_mem_of_tiles h.tiles (Nat.le_of_lt hlast)
    refine ⟨h.tiles.text_toList hmem, ?_⟩
    have hclass := Token.frontClass_of_lexeme
      (h.tiles.lexeme_eq hmem (not_isEnd_of_lt_last hlast))
    rw [Token.isIdentifier, beq_iff_eq] at hindex
    rw [hindex] at hclass
    generalize hn : (tokenAt tokens.toArray index).text.length = n at hclass
    generalize hk : TokenKind.identifier = kind at hclass
    cases hclass with
    | literal _ hkind => simp [← hk] at hkind
    | word => rfl
    | mark => cases hk
  obtain ⟨htext, hword⟩ := hlength h hindex
  obtain ⟨htext', hword'⟩ := hlength h' hindex'
  rw [hstart] at htext' hword'
  have hsame : Token.wordLength (source'.chars.drop (startAt tokens.toArray index))
      = Token.wordLength (source.chars.drop (startAt tokens.toArray index)) :=
    Token.wordLength_congr htake (by omega) (.inl hle')
  apply String.toList_injective
  rw [htext, htext', hword', hsame, ← hword]
  have := congrArg (List.take (tokenAt tokens.toArray index).text.length) htake
  rw [List.take_take, List.take_take, Nat.min_eq_left hle] at this
  exact this.symm

/-- A line feed and the indentation of a node are white space. -/
theorem isBlank_of_mem_indented {file : BoundFile} {node : Node} {c : Char}
    (h : c ∈ ("\n" ++ file.indentationOf node).toList) : Text.isBlank c = true := by
  rw [String.toList_append, List.mem_append] at h
  cases h with
  | inl h =>
    rw [show c = '\n' by simpa using h]
    rfl
  | inr h =>
    rcases Source.mem_indentationAt h with rfl | rfl
    . rfl
    . rfl

/-! ### Services -/

theorem Place.mem_of_followingSiblings {place : Place} {node : Node}
    (h : node ∈ place.followingSiblings) : ∃ parent ∈ place.parent?, node ∈ parent.node.children := by
  unfold followingSiblings at h
  unfold parent?
  split at h
  . cases h
  . next step rest habove => exact ⟨_, rfl, List.mem_of_mem_drop h⟩

namespace ServiceLookup

/--
Whether the assertion behind a declaration is read as the statement behind it, and the variable in the
extent can be named without a mark.
-/
def IsRead (extent : Extent) (edits : List Edit) (_ : BoundFile) (root : Node) : Prop :=
  ∃ place ∈ Place.all root, ∃ name nameExtent,
    place.node.form = .variableDeclarator name nameExtent ∧ place.node.extent = extent ∧
      Token.wordKind name = .identifier ∧
      ∃ parent ∈ place.parent?, ∃ statement ∈ parent.followingSiblings.head?,
        ∃ edit ∈ edits, statement.extent.start = edit.beginning

variable {file file' : BoundFile} {root root' : Node} {tokens tokens' : List Token}

/-- An assertion of the presence of a variable, where a statement behind a declaration begins. -/
theorem not_isTakenForPresent (hfile : file'.IsOf tokens' root') {other : Place}
    (hother : other ∈ Place.all root') {parent : Place} (hparent : parent ∈ other.parent?)
    (hblock : parent.node.kind = .block) {statement : Node}
    (hstatement : statement ∈ other.followingSiblings.head?) {name : String} (hword : Token.IsWord name)
    (hkind : Token.wordKind name = .identifier) {more : List Char}
    (hchars : file'.source.chars.drop statement.extent.start
      = (file.qualify "Microsoft" "Assumes.Present" ++ "(" ++ name ++ ");").toList ++ more) :
    isTakenForPresent other.followingSiblings name = false := by
  obtain ⟨front, names, hwords, hne, hthis, hcallee, hasserts⟩ : ∃ front names,
      (∀ word ∈ front :: names, Token.IsWord word ∧ Token.wordKind word = .identifier) ∧
        names ≠ [] ∧ (front ≠ "this" ∧ front ≠ "base") ∧
        (file.qualify "Microsoft" "Assumes.Present").toList
          = front.toList ++ names.flatMap (fun word => '.' :: word.toList) ∧
        Node.assertsPresence (dotted front names) = true := by
    cases file.qualify_eq "Microsoft" "Assumes.Present" with
    | inl heq =>
      rw [heq]
      refine ⟨"Assumes", ["Present"], ?_, by simp, by decide, by decide, by decide⟩
      simp only [List.forall_mem_cons]
      decide
    | inr heq =>
      rw [heq]
      refine ⟨"Microsoft", ["Assumes", "Present"], ?_, by simp, by decide, by decide,
        by decide⟩
      simp only [List.forall_mem_cons]
      decide
  obtain ⟨rest, hrest⟩ := List.head?_eq_some_iff.1 hstatement
  obtain ⟨found, hfound, hmem⟩ :=
    Place.mem_of_followingSiblings (hrest ▸ List.mem_cons_self : statement ∈ other.followingSiblings)
  obtain rfl : found = parent := Option.some.inj (hfound.symm.trans hparent)
  have hargument : ∀ word ∈ some name, Token.IsWord word ∧ Token.wordKind word = .identifier := by
    rintro _ ⟨⟩
    exact ⟨hword, hkind⟩
  have htext : file'.source.chars.drop statement.extent.start
      = Token.callText front names (some name) ++ more := by
    rw [hchars, String.toList_append, String.toList_append, String.toList_append, hcallee]
    unfold Token.callText
    simp
  have hcall := hfile.sited.isCallStatement hfile.tokenized
    ((Place.within_of_mem_all hother).of_parent? hparent).node hblock hmem hwords hne hthis
    hargument htext
  obtain ⟨call, huse⟩ := Node.firstUse?_of_isCallStatement hasserts hcall
  unfold isTakenForPresent
  rw [hrest, huse]

/-- A variable is called the same where nothing but what follows its declaration is changed. -/
theorem name_eq (hsited : Sited file.source tokens root) (hsited' : Sited file'.source tokens' root')
    {part part' : Node} (hpart : part ∈ root.preorder) (hpart' : part' ∈ root'.preorder)
    {name name' : String} {extent extent' : Extent} (hform : part.form = .variableDeclarator name extent)
    (hform' : part'.form = .variableDeclarator name' extent')
    (hstart : part'.extent.start = part.extent.start) {stop : Nat}
    (hstop : part.extent.stop ≤ stop ∧ stop ≤ file.source.length) {rest : List Char}
    (hchars : file'.source.chars = file.source.chars.take stop ++ '\n' :: rest) : name' = name := by
  have := hsited.lawful
  obtain ⟨first, behind, hwhole⟩ := hsited.whole hpart (by simp [Node.kind, hform, Form.kind])
  obtain ⟨hlt, hlast, hextent, hfits, _⟩ := whole_iff.1 hwhole
  obtain ⟨first', behind', hwhole'⟩ := hsited'.whole hpart' (by simp [Node.kind, hform', Form.kind])
  obtain ⟨_, _, hextent', hfits', _⟩ := whole_iff.1 hwhole'
  rw [hform] at hfits
  rw [hform'] at hfits'
  obtain ⟨⟨hidentifier, rfl, _⟩, _⟩ := hfits
  obtain ⟨⟨hidentifier', rfl, _⟩, _⟩ := hfits'
  have hbegin : part.extent.start = startAt tokens.toArray first := by
    rw [hextent, extentOf]
  have hbegin' : part'.extent.start = startAt tokens'.toArray first' := by
    rw [hextent', extentOf]
  have hend : stopAt tokens.toArray first ≤ stop := by
    refine Nat.le_trans ?_ hstop.1
    rw [hextent]
    exact stop_le_stop (by omega) (by omega)
  have hlength : startAt tokens.toArray first + (tokenAt tokens.toArray first).text.length ≤ stop :=
    hend
  have htaken : (file.source.chars.take stop).length = stop := by
    rw [List.length_take]
    exact Nat.min_eq_left hstop.2
  have hpos : startAt tokens.toArray first < stopAt tokens.toArray first :=
    Lawful.start_lt_stop first (by omega)
  have hdrop : file'.source.chars.drop (startAt tokens.toArray first)
      = (file.source.chars.take stop).drop (startAt tokens.toArray first) ++ '\n' :: rest := by
    rw [hchars, List.drop_append_of_le_length (by omega)]
  have htext := hsited.identifier_eq (m := stop - startAt tokens.toArray first) hsited' hidentifier
    hidentifier' (by omega) (by
      rw [hdrop, List.take_append_of_le_length (by rw [List.length_drop]; omega), List.drop_take,
        List.take_take, Nat.min_self])
    (by omega) (by
      rw [hdrop]
      refine Nat.le_trans (Token.wordLength_le_of_feed ?_) (by rw [List.length_drop]; omega)
      intro hnil
      have := congrArg List.length hnil
      rw [List.length_drop, List.length_nil] at this
      omega)
  unfold Token.identifierName
  rw [htext]

/-- A variable that is found where a fix is read is the one that the fix has asserted. -/
theorem exists_declared (hsited : Sited file.source tokens root) {other : Place} {found : Hit}
    {edits : List Edit} (hother : other ∈ Place.all root)
    (hfound : matcher file other = .ok (some found)) (hread : IsRead found.span.extent edits file root) :
    ∃ block ∈ other.parent?, block.node.kind = .block ∧ ∃ part ∈ other.node.children, ∃ name extent,
      part.form = .variableDeclarator name extent ∧ found.span.extent = part.extent ∧
      isTakenForPresent other.followingSiblings name = true ∧ Token.wordKind name = .identifier ∧
      ∃ statement ∈ other.followingSiblings.head?, ∃ edit ∈ edits,
        statement.extent.start = edit.beginning := by
  obtain ⟨declaration, hdeclaration, name, _, hform, hextent, hkind, parent, hparent, hbehind⟩ := hread
  have hdeclarationKind : declaration.node.kind = .variableDeclarator := by
    rw [Node.kind, hform]
    rfl
  have howns := hsited.owns_extent (Place.within_of_mem_all hdeclaration).node
    (by simp [hdeclarationKind])
  have hsame {place : Place} (hplace : place ∈ Place.all root)
      (hkind : place.node.kind = .variableDeclarator ∨ place.node.kind = .memberAccess)
      (hspan : found.span.extent = place.node.extent) : place = declaration := by
    have howns' := hsited.owns_extent (Place.within_of_mem_all hplace).node
      (by rcases hkind with h | h <;> simp [h])
    rw [← hspan, ← hextent] at howns'
    exact hsited.place_eq_of_owns hplace hdeclaration (by rcases hkind with h | h <;> simp [h])
      (by simp [hdeclarationKind]) howns' howns
  obtain ⟨_, block, hblock, hblockKind, part, hpart, name', extent, hform', hspan, htaken, _⟩ |
    ⟨haccess, hspan, _⟩ := matcher_eq_ok hfound
  case inr =>
    have heq := hsame hother (.inr haccess) hspan
    rw [heq, hdeclarationKind] at haccess
    cases haccess
  obtain ⟨index, hindex⟩ := List.mem_iff_getElem?.1 hpart
  have heq := hsame (Place.mem_all_of_child hother hindex)
    (.inl (by rw [Node.kind, hform']; rfl)) hspan
  rw [← heq] at hparent hform
  cases hparent
  obtain ⟨rfl, _⟩ := Form.variableDeclarator.inj (hform'.symm.trans hform)
  exact ⟨block, hblock, hblockKind, part, hpart, name', extent, hform', hspan, htaken, hkind, hbehind⟩

theorem settles : matcher.Settles rule.kinds IsRead := by
  intro root root' tokens tokens' file file' place other hit found fix hfile hplace _ hhit hfix hfile'
    hchars hread hother _ hfound heq
  obtain ⟨_, _, _, _, part, hpart, name, nameExtent, hform, hspan, _, hfixes⟩ | ⟨_, _, hnone⟩ :=
    matcher_eq_ok hhit
  case inr =>
    rw [hnone] at hfix
    cases hfix
  have hedits := hfixes fix hfix
  rw [← heq, hedits] at hread
  obtain ⟨block, hblock, hblockKind, part', hpart', name', _, hform', hspan', htaken, hkind, statement,
    hstatement, edit, hedit, hbegins⟩ := exists_declared hfile'.sited hother hfound hread
  rw [List.mem_singleton] at hedit
  have hmem := Node.mem_preorder_of_mem_children hplace.node hpart
  have hmem' := Node.mem_preorder_of_mem_children (Place.within_of_mem_all hother).node hpart'
  have hinside := hfile.sited.extent_le_of_mem_preorder hplace.node
    (Node.mem_preorder_of_mem_children place.node.mem_preorder_self hpart)
    (by simp [Node.kind, hform, Form.kind])
  obtain ⟨hle, _⟩ := hfile.sited.extent_le hmem
  have hstop := (hfile.sited.extent_le hplace.node).2
  have hstart : part'.extent.start = part.extent.start := by
    rw [← hspan', heq, hspan, hedits]
    exact Edit.carriedStart_singleton (by omega)
  obtain ⟨first, _, _, ⟨hisName, _⟩⟩ := hfile.sited.fits hmem hform (by simp [Form.kind])
  have hword := hfile.sited.isWord_of_isName hisName
  -- The edit begins with a line feed, so the name in front of it is read as it was.
  obtain ⟨rest, hrest⟩ : ∃ rest,
      file'.source.chars = file.source.chars.take place.node.extent.stop ++ '\n' :: rest := by
    rw [hchars, hedits, Edit.splice_singleton (Nat.le_refl _) hstop, String.append_assoc,
      String.toList_append]
    exact ⟨_, rfl⟩
  obtain rfl := name_eq hfile.sited hfile'.sited hmem hmem' hform hform' hstart ⟨hinside.2, hstop⟩ hrest
  have hdrop : file'.source.chars.drop statement.extent.start
      = (file.qualify "Microsoft" "Assumes.Present" ++ "(" ++ name' ++ ");").toList ++
        file.source.chars.drop place.node.extent.stop := by
    rw [hbegins, hedit, hchars, hedits]
    apply Edit.drop_beginning hstop
    . exact fun c hc => isBlank_of_mem_indented hc
    . rw [String.append_assoc, String.toList_append]
      cases file.qualify_eq "Microsoft" "Assumes.Present" with
      | inl heq => rw [heq]; rfl
      | inr heq => rw [heq]; rfl
  rw [not_isTakenForPresent hfile' hother hblock hblockKind hstatement hword hkind hdrop] at htaken
  cases htaken

end ServiceLookup

/-! ### Handlers of commands -/

namespace CommandHandler

variable {file file' : BoundFile} {root root' : Node} {tokens tokens' : List Token} {place : Place}
  {hit : Hit}

/--
The names by which the fix calls what asserts the UI thread.
-/
def assertionNames : List (String × List String) :=
  [("ThreadHelper", ["ThrowIfNotOnUIThread"]),
    ("Microsoft", ["VisualStudio", "Shell", "ThreadHelper", "ThrowIfNotOnUIThread"])]

/--
Whether a method whose name ends a name, or that it ends in, switches to the UI thread.
-/
def switches (name : String) (entry : SymbolEntry) : Bool :=
  !entry.isOfKind (some .method) || entry.tags.contains .uiThreadSwitch ||
    !(Text.endsWith entry.name name || entry.matchesSuffix name)

theorem builtin_switches :
    assertionNames.all (fun name => Symbol.builtin.all (switches (dotted name.1 name.2))) = true := by
  decide

theorem exists_assertionName (file : BoundFile) :
    ∃ name ∈ assertionNames, (file.qualify Symbol.shell "ThreadHelper.ThrowIfNotOnUIThread").toList
      = name.1.toList ++ name.2.flatMap (fun word => '.' :: word.toList) := by
  cases file.qualify_eq Symbol.shell "ThreadHelper.ThrowIfNotOnUIThread" with
  | inl heq =>
    rw [heq]
    exact ⟨_, List.mem_cons_self .., by decide⟩
  | inr heq =>
    rw [heq]
    exact ⟨_, List.mem_cons_of_mem _ (List.mem_cons_self ..), by decide⟩

/-- The assertion of a body is written behind white space. -/
theorem assertion_eq (file : BoundFile) (body : Node) :
    ∃ (offset : Nat) (blanks more : String), (∀ c ∈ blanks.toList, Text.isBlank c = true) ∧
      assertion file body = ⟨offset, offset,
        blanks ++ (file.qualify Symbol.shell "ThreadHelper.ThrowIfNotOnUIThread" ++ ("();" ++ more))⟩ := by
  unfold assertion
  dsimp only
  split
  . next first _ =>
    refine ⟨first.extent.start, "", "\n" ++ file.indentationOf first, by simp, ?_⟩
    rw [String.empty_append, String.append_assoc, String.append_assoc]
  . refine ⟨body.extent.start + 1, "\n" ++ file.indentationOf body ++ "    ", "", ?_, ?_⟩
    . intro c hc
      rw [String.toList_append, List.mem_append] at hc
      cases hc with
      | inl hc => exact isBlank_of_mem_indented hc
      | inr hc =>
        rw [show c = ' ' by simpa using hc]
        rfl
    . rw [String.append_empty]

/--
Whether the assertion is read as the first statement of the body of the method with its name in an
extent, and what it calls is known by the name that is written.
-/
def IsRead (extent : Extent) (edits : List Edit) (file : BoundFile) (root : Node) : Prop :=
  ∃ method ∈ root.preorder, ∃ head, method.form = .methodDecl head ∧ head.nameExtent = extent ∧
    ∃ body ∈ method.methodBody?, ∃ statement ∈ body.children.head?,
      (∃ edit ∈ edits, statement.extent.start = edit.beginning) ∧
        ∃ call ∈ statement.children.head?, ∀ name ∈ Binding.target? call false,
          file.binding.scope.isAliased name = false ∧
            (file.binding.scope.lookup (some name) (some .method)).isSome = true

/-- What a name with dots leads to through no alias is of the kind that is asked for, and ends with it. -/
theorem ends_of_lookup {scope : Scope} {name : String} {kind : Option SymbolKind} {entry : SymbolEntry}
    (hdotted : Symbol.IsDotted name) (halias : scope.isAliased name = false)
    (h : scope.lookup (some name) kind = some entry) :
    entry.isOfKind kind = true ∧
      (Text.endsWith entry.name name = true ∨ entry.matchesSuffix name = true) := by
  unfold Scope.lookup at h
  dsimp only at h
  rw [if_neg (by simpa using hdotted.ne_empty), Scope.expandAlias_of_not_isAliased halias,
    hdotted.isNormal.normalize_eq] at h
  obtain ⟨hkind, hlookup⟩ := SymbolTable.lookup_eq_some h
  rw [hdotted.isNormal.normalize_eq] at hlookup
  refine ⟨hkind, ?_⟩
  obtain ⟨_, front, heq⟩ | ⟨_, hsuffix⟩ := hlookup
  . left
    unfold Text.endsWith
    rw [heq, List.isSuffixOf_iff_suffix, String.toList_append]
    exact List.suffix_append _ _
  . exact .inr hsuffix

theorem contains_resolve (hfile : file.IsOf tokens root) {name : String}
    (hdotted : Symbol.IsDotted name) (hdot : '.' ∈ name.toList)
    (hswitches : Symbol.builtin.all (switches name) = true)
    (halias : file.binding.scope.isAliased name = false)
    (hknown : (file.binding.scope.lookup (some name) (some .method)).isSome = true) :
    (file.binding.scope.resolve (some name) (some .method)).contains .uiThreadSwitch = true := by
  -- A method of the file has no name with dots.
  have hown : file.binding.scope.ownTags? name .method = none := by
    rw [hfile.binding, Binding.ownTags?_ofRoot, if_neg]
    rintro ⟨_, hasync⟩
    obtain ⟨method, hmem, head, _, hform, rfl, _⟩ := (hfile.sited.mem_asyncMethods_iff _).1 hasync
    obtain ⟨_, _, hisName, _⟩ := hfile.sited.methodDecl hmem hform
    have := (hfile.sited.isWord_of_isName hisName).continues hdot
    exact absurd this (by decide)
  obtain ⟨entry, hentry⟩ := Option.isSome_iff_exists.1 hknown
  rw [Scope.resolve_eq hdotted, hown, Option.getD_none, hentry]
  have hmem := hfile.mem_builtin hentry
  obtain ⟨hkind, hends⟩ := ends_of_lookup hdotted halias hentry
  have hswitch := List.all_eq_true.1 hswitches entry hmem
  unfold switches at hswitch
  rw [Bool.or_eq_true, Bool.or_eq_true, hkind, Bool.not_true, Bool.not_eq_true',
    Bool.or_eq_false_iff] at hswitch
  obtain (h | h) | ⟨hno, hno'⟩ := hswitch
  . cases h
  . exact h
  . cases hends with
    | inl h => exact absurd h (by simp [hno])
    | inr h => exact absurd h (by simp [hno'])

/-- A statement that calls what asserts the UI thread, by a name that the file knows, asserts it. -/
theorem assertsUIThread_of_isCallStatement (hfile : file.IsOf tokens root)
    {name : String × List String} (hname : name ∈ assertionNames) {P : List Node → Prop}
    {statement : Node} (h : IsCallStatement (dotted name.1 name.2) P statement)
    (hknown : ∃ call ∈ statement.children.head?, ∀ name ∈ Binding.target? call false,
      file.binding.scope.isAliased name = false ∧
        (file.binding.scope.lookup (some name) (some .method)).isSome = true) :
    assertsUIThread file statement = true := by
  obtain ⟨hkind, call, arguments, hchildren, _, hform, callee, hcallee, hdotted⟩ := h
  obtain ⟨found, hfound, hknown⟩ := hknown
  rw [hchildren, List.head?_cons] at hfound
  cases hfound
  have htarget : Binding.target? call false = some (dotted name.1 name.2) := by
    unfold Binding.target?
    rw [hform]
    dsimp only
    rw [hcallee, List.head?_cons, Option.bind_some, hdotted]
  obtain ⟨halias, hsome⟩ := hknown _ htarget
  have hnames : ∀ name ∈ assertionNames, Symbol.IsDotted (dotted name.1 name.2) ∧
      '.' ∈ (dotted name.1 name.2).toList := by
    have hall : ∀ name ∈ assertionNames, dotted name.1 name.2 ≠ "" ∧
        (dotted name.1 name.2).toList.all (fun c => Token.continuesWord c || c == '.') = true ∧
          '.' ∈ (dotted name.1 name.2).toList := by
      decide
    intro name hname
    obtain ⟨hne, hchars, hdot⟩ := hall name hname
    refine ⟨⟨hne, ?_⟩, hdot⟩
    intro c hc
    simpa using List.all_eq_true.1 hchars c hc
  obtain ⟨hisDotted, hdot⟩ := hnames name hname
  have htags := contains_resolve hfile hisDotted hdot
    (List.all_eq_true.1 builtin_switches name hname) halias hsome
  unfold assertsUIThread Binding.isCallTagged Binding.callTags
  have hcallKind : call.kind = .callExpr := by
    rw [Node.kind, hform]
    rfl
  rw [hkind, hchildren, List.head?_cons, Option.bind_some, Node.unwrap?_eq (by rw [hform]; rfl),
    Option.any_some, hcallKind, htarget, htags]
  rfl

theorem settles : matcher.Settles rule.kinds IsRead := by
  intro root root' tokens tokens' file file' place other hit found fix hfile hplace _ hhit hfix hfile'
    hchars hread hother _ hfound heq
  obtain ⟨head, body, hform, hbody, hkind, hspan, _, hfixes⟩ := matcher_eq_ok hhit
  obtain ⟨head', body', hform', hbody', hkind', hspan', hasserts, _⟩ := matcher_eq_ok hfound
  have hother := (Place.within_of_mem_all hother).node
  have hedits := hfixes fix hfix
  -- The methods with the name there are one.
  obtain ⟨method, hmethod, _, hmethodForm, hextent, found', hfound', statement, hstatement,
    ⟨edit, hedit, hbegins⟩, hknown⟩ := hread
  have hnot {node : Node} {head : MethodHead} (hform : node.form = .methodDecl head) :
      node.kind ≠ .compilationUnit ∧ node.kind ≠ .otherStmt := by
    rw [Node.kind, hform]
    simp [Form.kind]
  have howns := (hfile'.sited.owns_name hmethod hmethodForm).1
  have howns' := (hfile'.sited.owns_name hother hform').1
  obtain rfl : method = other.node := by
    by_contra hne
    exact hfile'.sited.ne_of_owns hmethod hother (hnot hmethodForm) (hnot hform') hne howns howns'
      (hextent.trans (heq.symm.trans hspan'))
  obtain rfl := Option.some.inj (hbody'.symm.trans hfound')
  rw [hedits, List.mem_singleton] at hedit
  obtain ⟨offset, blanks, more, hblanks, hassertion⟩ := assertion_eq file body
  obtain ⟨name, hname, hqualified⟩ := exists_assertionName file
  have hoffset : offset ≤ file.source.length := by
    have hinside := assertion_inside hfile.sited
      (Node.mem_preorder_of_mem_children hplace.node (methodBody?_mem hbody)) hkind
    rw [hassertion] at hinside
    have := hinside.stop_le
    dsimp only at this
    omega
  have hvisible : (file.qualify Symbol.shell "ThreadHelper.ThrowIfNotOnUIThread" ++
      ("();" ++ more)).toList.head?.any (fun c => !Text.isBlank c) = true := by
    rw [String.toList_append, hqualified]
    simp only [assertionNames, List.mem_cons, List.not_mem_nil, or_false] at hname
    rcases hname with rfl | rfl
    . rfl
    . rfl
  have hdrop := Edit.drop_beginning hoffset hblanks hvisible
  rw [← hassertion, ← hedit, ← hbegins, hedit, ← hedits, ← hchars] at hdrop
  have hwords : ∀ name ∈ assertionNames,
      (∀ word ∈ name.1 :: name.2, Token.IsWord word ∧ Token.wordKind word = .identifier) ∧
        name.2 ≠ [] ∧ name.1 ≠ "this" ∧ name.1 ≠ "base" := by
    decide
  obtain ⟨hwords, hne, hthis⟩ := hwords name hname
  have hbodyMem := Node.mem_preorder_of_mem_children hother (methodBody?_mem hbody')
  have htext : file'.source.chars.drop statement.extent.start = Token.callText name.1 name.2 none ++
      (more.toList ++ file.source.chars.drop offset) := by
    rw [hdrop, String.toList_append, hqualified, String.toList_append]
    unfold Token.callText
    simp
  have hcall := hfile'.sited.isCallStatement hfile'.tokenized hbodyMem hkind'
    (List.mem_of_head? hstatement) hwords hne hthis (by simp) htext
  have hasserts' := assertsUIThread_of_isCallStatement hfile' hname hcall hknown
  rw [hstatement, Option.any_some, hasserts'] at hasserts
  cases hasserts

end CommandHandler

end ThreadLint
