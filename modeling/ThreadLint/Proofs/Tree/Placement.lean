import ThreadLint.Proofs.Grammar

/-!
This module contains the theorem that syntax trees are well placed in their text: every node begins
and ends with a token, inside its parent and behind the children of its parent that come before it,
and what is recorded of its name is written where it is said to be.
-/

namespace ThreadLint

namespace Parser

variable {tokens : Array Token}

/-! ### Nodes of a tree -/

/--
Whether a node is made of tokens, or stands for a construct that is missing.
-/
def Located (tokens : Array Token) (node : Node) : Prop :=
  ∃ first stop, Kept tokens first stop node

theorem Kept.children_laid {first stop : Nat} {node : Node} (h : Kept tokens first stop node) :
    Laid tokens first stop node.children := by
  cases h with
  | inl h => exact (whole_iff.1 h).2.2.2.2
  | inr h =>
    rw [h.1.2.1]
    exact laid_nil (by omega)

mutual

/-- What stands below a node of some tokens is made of some of these tokens, or missing. -/
theorem Kept.kept_of_mem_preorder {first stop : Nat} {node : Node} (h : Kept tokens first stop node)
    {other : Node} (hmem : other ∈ node.preorder) :
    ∃ first' stop', first ≤ first' ∧ stop' ≤ stop ∧ Kept tokens first' stop' other := by
  match node with
  | ⟨form, extent, trivia, designation, children⟩ =>
    rw [Node.preorder, List.mem_cons] at hmem
    cases hmem with
    | inl heq =>
      rw [heq]
      exact ⟨first, stop, Nat.le_refl _, Nat.le_refl _, h⟩
    | inr hmem => exact Laid.kept_of_mem_preorder h.children_laid hmem

theorem Laid.kept_of_mem_preorder {lo hi : Nat} {nodes : List Node} (h : Laid tokens lo hi nodes)
    {other : Node} (hmem : other ∈ Node.forestPreorder nodes) :
    ∃ first' stop', lo ≤ first' ∧ stop' ≤ hi ∧ Kept tokens first' stop' other := by
  match nodes with
  | [] => simp [Node.forestPreorder] at hmem
  | node :: rest =>
    rw [laid_cons_iff] at h
    obtain ⟨first, stop, hfirst, hnode, hrest⟩ := h
    rw [Node.forestPreorder, List.mem_append] at hmem
    cases hmem with
    | inl hmem =>
      obtain ⟨first', stop', hfirst', hstop', hother⟩ := Kept.kept_of_mem_preorder hnode hmem
      have := hrest.le
      exact ⟨first', stop', by omega, by omega, hother⟩
    | inr hmem =>
      obtain ⟨first', stop', hfirst', hstop', hother⟩ := Laid.kept_of_mem_preorder hrest hmem
      have := (Kept.laid hnode).le
      exact ⟨first', stop', by omega, hstop', hother⟩

end

theorem Laid.located {lo hi : Nat} {nodes : List Node} (h : Laid tokens lo hi nodes) :
    ∀ other ∈ Node.forestPreorder nodes, Located tokens other := by
  intro other hother
  obtain ⟨first, stop, _, _, hkept⟩ := h.kept_of_mem_preorder hother
  exact ⟨first, stop, hkept⟩

/-- Only statements can be missing. -/
theorem Located.whole {node : Node} (h : Located tokens node) (hkind : node.kind ≠ .otherStmt) :
    ∃ first stop, Whole tokens first stop node := by
  obtain ⟨first, stop, h⟩ := h
  exact ⟨first, stop, h.resolve_right fun hmissing => hkind hmissing.1.1⟩

/-! ### The extent of a node -/

section

variable [Lawful tokens]

theorem extentOf_le {first stop : Nat} (hlt : first < stop) (hlast : stop ≤ last tokens) :
    (extentOf tokens first stop).start ≤ (extentOf tokens first stop).stop := by
  have : startAt tokens first ≤ startAt tokens (stop - 1) := start_le_start (by omega) (by omega)
  exact Nat.le_trans this (start_le_stop tokens (stop - 1))

theorem Located.extent_le {node : Node} (h : Located tokens node) :
    node.extent.start ≤ node.extent.stop := by
  obtain ⟨first, stop, h⟩ := h
  cases h with
  | inl h =>
    obtain ⟨hlt, hlast, hextent, _⟩ := whole_iff.1 h
    rw [hextent]
    exact extentOf_le hlt hlast
  | inr h =>
    apply Nat.le_of_eq
    rw [h.1.2.2]

theorem Laid.pairwise {lo hi : Nat} {nodes : List Node} (h : Laid tokens lo hi nodes) :
    nodes.Pairwise fun node other => node.extent.stop ≤ other.extent.start := by
  induction nodes generalizing lo with
  | nil => exact .nil
  | cons node rest ih =>
    rw [laid_cons_iff] at h
    obtain ⟨first, stop, _, hnode, hrest⟩ := h
    apply List.Pairwise.cons ?_ (ih hrest)
    intro other hother
    have : node.extent.stop ≤ startAt tokens stop := Kept.stop_le hnode
    have := hrest.start_le hother
    omega

/-- What is missing behind the last token of its parent is the only part that is not inside it. -/
theorem Whole.contains {first stop : Nat} {node child : Node} (h : Whole tokens first stop node)
    (hmem : child ∈ node.children) :
    IsPlaceholder tokens child ∨
      (node.extent.start ≤ child.extent.start ∧ child.extent.stop ≤ node.extent.stop) := by
  obtain ⟨_, hlast, hextent, _, hchildren⟩ := whole_iff.1 h
  obtain ⟨first', stop', hfirst', hstop', hchild⟩ := hchildren.kept_of_mem hmem
  cases hchild with
  | inl hchild =>
    obtain ⟨hlt', _, hextent', _⟩ := whole_iff.1 hchild
    rw [hextent, hextent']
    exact .inr ⟨start_le_start hfirst' (by omega), stop_le_stop (by omega) (by omega)⟩
  | inr hchild => exact .inl hchild.1

end

/-! ### The name of a node -/

theorem Fits.isName {first stop : Nat} {children : List Node} {form : Form} {extent : Extent}
    (h : Fits tokens first stop children form) (hlt : first < stop)
    (hextent : form.nameExtent? = some extent) :
    ∃ name index, form.name? = some name ∧ first ≤ index ∧ index < stop ∧
      IsName tokens index name extent := by
  cases form
  case classDecl head =>
    cases hextent
    obtain ⟨⟨index, hfirst, hstop, h⟩, _⟩ := h
    exact ⟨_, index, rfl, hfirst, hstop, h⟩
  case methodDecl head =>
    cases hextent
    obtain ⟨index, hfirst, hstop, h, _⟩ := h
    exact ⟨_, index, rfl, hfirst, hstop, h⟩
  case variableDeclarator name nameExtent =>
    cases hextent
    exact ⟨_, first, rfl, Nat.le_refl _, hlt, h.1⟩
  case memberAccess name nameExtent _ _ =>
    cases hextent
    obtain ⟨index, hfirst, hstop, h, _⟩ := h
    exact ⟨_, index, rfl, by omega, hstop, h⟩
  all_goals simp [Form.nameExtent?] at hextent

theorem Located.isName {node : Node} (h : Located tokens node) {extent : Extent}
    (hextent : node.form.nameExtent? = some extent) :
    ∃ first stop, Whole tokens first stop node ∧
      ∃ name index, node.form.name? = some name ∧ first ≤ index ∧ index < stop ∧
        IsName tokens index name extent := by
  have hkind : node.kind ≠ .otherStmt := by
    unfold Node.kind
    cases hform : node.form
    all_goals simp_all [Form.kind, Form.nameExtent?]
  obtain ⟨first, stop, h⟩ := h.whole hkind
  exact ⟨first, stop, h, (whole_iff.1 h).2.2.2.1.isName h.lt hextent⟩

theorem Located.nameExtent_le [Lawful tokens] {node : Node} (h : Located tokens node)
    {extent : Extent} (hextent : node.form.nameExtent? = some extent) :
    node.extent.start ≤ extent.start ∧ extent.start ≤ extent.stop ∧
      extent.stop ≤ node.extent.stop := by
  obtain ⟨first, stop, hnode, _, index, _, hfirst, hstop, _, _, rfl⟩ := h.isName hextent
  obtain ⟨_, hlast, heq, _⟩ := whole_iff.1 hnode
  rw [heq]
  exact ⟨start_le_start hfirst (by omega), start_le_stop tokens index,
    stop_le_stop (by omega) (by omega)⟩

end Parser

/-! ### Trees of a text -/

/--
A name without the mark that lets a keyword be a name.
-/
def Text.withoutMark (name : String) : String :=
  match name.toList with
  | '@' :: rest => String.ofList rest
  | _ => name

theorem Token.identifierName_eq (token : Token) :
    token.identifierName = Text.withoutMark token.text :=
  rfl

/--
Whether a node stands for a construct that is missing at the end of a text.
-/
def Node.IsMissing (source : Source) (node : Node) : Prop :=
  node.kind = .otherStmt ∧ node.extent = ⟨source.length, source.length⟩

/--
What it means that the syntax tree of a text is well placed.
-/
structure WellPlaced (source : Source) (tokens : List Token) (root : Node) : Prop where
  root_extent : root.extent = ⟨0, source.length⟩
  start_le_stop : ∀ node ∈ root.preorder, node.extent.start ≤ node.extent.stop
  on_tokens : ∀ node ∈ Node.forestPreorder root.children, node.extent.start < node.extent.stop →
    (∃ token ∈ tokens, token.isEnd = false ∧ node.extent.start = token.start) ∧
      ∃ token ∈ tokens, token.isEnd = false ∧ node.extent.stop = token.stop
  contains : ∀ node ∈ root.preorder, ∀ child ∈ node.children, child.IsMissing source ∨
    (node.extent.start ≤ child.extent.start ∧ child.extent.stop ≤ node.extent.stop)
  ordered : ∀ node ∈ root.preorder,
    node.children.Pairwise fun child other => child.extent.stop ≤ other.extent.start
  named : ∀ node ∈ root.preorder, ∀ extent, node.form.nameExtent? = some extent →
    (node.extent.start ≤ extent.start ∧ extent.start ≤ extent.stop ∧
        extent.stop ≤ node.extent.stop) ∧
      node.form.name? = some (Text.withoutMark (source.slice extent))

namespace Parser

variable {source : Source} {tokens : List Token}

theorem isPlaceholder_isMissing (tiles : Token.Tiles source.chars 0 tokens) {node : Node}
    (h : IsPlaceholder tokens.toArray node) : node.IsMissing source := by
  obtain ⟨hkind, _, hextent⟩ := h
  rw [startAt_last_of_tiles tiles] at hextent
  exact ⟨hkind, hextent⟩

theorem exists_token_of_tiles (tiles : Token.Tiles source.chars 0 tokens) {index : Nat}
    (h : index < last tokens.toArray) :
    ∃ token ∈ tokens, token.isEnd = false ∧ token = tokenAt tokens.toArray index := by
  have := Lawful.of_tiles tiles
  exact ⟨_, tokenAt_mem_of_tiles tiles (Nat.le_of_lt h), not_isEnd_of_lt_last h, rfl⟩

theorem Located.on_tokens (tiles : Token.Tiles source.chars 0 tokens) {node : Node}
    (h : Located tokens.toArray node) (hlt : node.extent.start < node.extent.stop) :
    (∃ token ∈ tokens, token.isEnd = false ∧ node.extent.start = token.start) ∧
      ∃ token ∈ tokens, token.isEnd = false ∧ node.extent.stop = token.stop := by
  obtain ⟨first, stop, h⟩ := h
  cases h with
  | inl h =>
    obtain ⟨hlt, hlast, hextent, _⟩ := whole_iff.1 h
    rw [hextent]
    have hfirst : first < last tokens.toArray := by omega
    have hstop : stop - 1 < last tokens.toArray := by omega
    constructor
    . obtain ⟨token, hmem, hend, heq⟩ := exists_token_of_tiles tiles hfirst
      exact ⟨token, hmem, hend, by rw [heq]; rfl⟩
    . obtain ⟨token, hmem, hend, heq⟩ := exists_token_of_tiles tiles hstop
      exact ⟨token, hmem, hend, by rw [heq]; rfl⟩
  | inr h =>
    rw [h.1.2.2] at hlt
    simp at hlt

theorem Located.stop_le_length (tiles : Token.Tiles source.chars 0 tokens) {node : Node}
    (h : Located tokens.toArray node) : node.extent.stop ≤ source.length := by
  obtain ⟨first, stop, h⟩ := h
  cases h with
  | inl h =>
    obtain ⟨_, hlast, hextent, _⟩ := whole_iff.1 h
    rw [hextent]
    exact stopAt_le_of_tiles tiles (by omega)
  | inr h =>
    rw [h.1.2.2, startAt_last_of_tiles tiles]
    apply Nat.le_refl

theorem Located.contains (tiles : Token.Tiles source.chars 0 tokens) {node child : Node}
    (h : Located tokens.toArray node) (hmem : child ∈ node.children) :
    child.IsMissing source ∨
      (node.extent.start ≤ child.extent.start ∧ child.extent.stop ≤ node.extent.stop) := by
  have := Lawful.of_tiles tiles
  obtain ⟨first, stop, h⟩ := h
  cases h with
  | inl h => exact (h.contains hmem).imp_left (isPlaceholder_isMissing tiles)
  | inr h =>
    rw [h.1.2.1] at hmem
    simp at hmem

theorem IsName.eq_withoutMark (tiles : Token.Tiles source.chars 0 tokens) {index : Nat}
    {name : String} {extent : Extent} (h : IsName tokens.toArray index name extent) :
    name = Text.withoutMark (source.slice extent) := by
  have := Lawful.of_tiles tiles
  obtain ⟨hidentifier, rfl, rfl⟩ := h
  have := lt_last_of_isIdentifier hidentifier
  rw [Token.identifierName_eq]
  rw [(tiles.text_eq (tokenAt_mem_of_tiles tiles (Nat.le_of_lt this))).2]
  rfl

theorem Located.named (tiles : Token.Tiles source.chars 0 tokens) {node : Node}
    (h : Located tokens.toArray node) {extent : Extent}
    (hextent : node.form.nameExtent? = some extent) :
    (node.extent.start ≤ extent.start ∧ extent.start ≤ extent.stop ∧
        extent.stop ≤ node.extent.stop) ∧
      node.form.name? = some (Text.withoutMark (source.slice extent)) := by
  have := Lawful.of_tiles tiles
  refine ⟨h.nameExtent_le hextent, ?_⟩
  obtain ⟨_, _, _, name, index, hname, _, _, hisName⟩ := h.isName hextent
  rw [hname, hisName.eq_withoutMark tiles]

end Parser

/--
What the tokens of a text and its tree have to do with each other: all nodes below the root are made
of the tokens.
-/
structure Sited (source : Source) (tokens : List Token) (root : Node) : Prop where
  tiles : Token.Tiles source.chars 0 tokens
  root_eq : root = ⟨.compilationUnit, ⟨0, source.length⟩, "", none, root.children⟩
  laid : Parser.Laid tokens.toArray 0 (Parser.last tokens.toArray) root.children

theorem parse_sited {text : String} {path : Option String} {parsed : Parsed}
    (h : parse text path = .ok parsed) :
    parsed.source = Source.ofString text path ∧
      ∃ tokens, Token.tokenize parsed.source = .ok tokens ∧
        Sited parsed.source tokens parsed.root := by
  obtain ⟨tokens, _, nodes, htokens, _, _, hnodes, hsource, hroot⟩ :=
    Parsed.ofSource_eq_ok (parse_eq_ok h)
  have tiles := Token.Tiles.of_tokenize htokens
  have := Parser.Lawful.of_tiles tiles
  rw [hroot, hsource]
  exact ⟨rfl, tokens, htokens, tiles, rfl, Parsed.members_laid hnodes⟩

/-- A member begins with its first token, the file itself with the blank in front of it. -/
example : ((parse " class C;" none).map fun parsed =>
    parsed.root.preorder.map (·.extent)).toOption = some [⟨0, 9⟩, ⟨1, 9⟩] := by
  decide +kernel

namespace Sited

variable {source : Source} {tokens : List Token} {root : Node}

theorem lawful (h : Sited source tokens root) : Parser.Lawful tokens.toArray :=
  Parser.Lawful.of_tiles h.tiles

theorem mem_preorder (h : Sited source tokens root) {node : Node} (hmem : node ∈ root.preorder) :
    node = root ∨ Parser.Located tokens.toArray node := by
  rw [h.root_eq, Node.preorder, List.mem_cons, ← h.root_eq] at hmem
  exact hmem.imp_right (h.laid.located node)

theorem located (h : Sited source tokens root) {node : Node} (hmem : node ∈ root.preorder)
    (hkind : node.kind ≠ .compilationUnit) : Parser.Located tokens.toArray node := by
  apply (h.mem_preorder hmem).resolve_left
  intro heq
  rw [heq, h.root_eq] at hkind
  exact hkind rfl

theorem extent_le (h : Sited source tokens root) {node : Node} (hmem : node ∈ root.preorder) :
    node.extent.start ≤ node.extent.stop ∧ node.extent.stop ≤ source.length := by
  have := h.lawful
  cases h.mem_preorder hmem with
  | inl heq =>
    rw [heq, h.root_eq]
    exact ⟨Nat.zero_le _, Nat.le_refl _⟩
  | inr hlocated => exact ⟨hlocated.extent_le, hlocated.stop_le_length h.tiles⟩

theorem wellPlaced (h : Sited source tokens root) : WellPlaced source tokens root := by
  have := h.lawful
  constructor
  case root_extent => rw [h.root_eq]
  case start_le_stop =>
    intro node hmem
    exact (h.extent_le hmem).1
  case on_tokens =>
    intro node hmem hlt
    exact (h.laid.located node hmem).on_tokens h.tiles hlt
  case contains =>
    intro node hmem child hchild
    cases h.mem_preorder hmem with
    | inl heq =>
      rw [heq] at hchild ⊢
      obtain ⟨first, stop, _, _, hkept⟩ := h.laid.kept_of_mem hchild
      rw [h.root_eq]
      exact .inr ⟨Nat.zero_le _, Parser.Located.stop_le_length h.tiles ⟨first, stop, hkept⟩⟩
    | inr hlocated => exact hlocated.contains h.tiles hchild
  case ordered =>
    intro node hmem
    cases h.mem_preorder hmem with
    | inl heq =>
      rw [heq]
      exact h.laid.pairwise
    | inr hlocated =>
      obtain ⟨first, stop, hkept⟩ := hlocated
      exact hkept.children_laid.pairwise
  case named =>
    intro node hmem extent hextent
    cases h.mem_preorder hmem with
    | inl heq =>
      rw [heq, h.root_eq] at hextent
      simp [Form.nameExtent?] at hextent
    | inr hlocated => exact hlocated.named h.tiles hextent

end Sited

theorem parse_wellPlaced {text : String} {path : Option String} {parsed : Parsed}
    (h : parse text path = .ok parsed) :
    ∃ tokens, Token.tokenize parsed.source = .ok tokens ∧
      WellPlaced parsed.source tokens parsed.root := by
  obtain ⟨_, tokens, htokens, hsited⟩ := parse_sited h
  exact ⟨tokens, htokens, hsited.wellPlaced⟩

/-- A condition of which the text holds no more than the beginning, with nothing to do after it. -/
theorem parse_wellPlaced_cut_short :
    ∃ parsed, parse "class @C \x7b void M() \x7b if (x " none = .ok parsed ∧
      ∃ tokens, Token.tokenize parsed.source = .ok tokens ∧
        WellPlaced parsed.source tokens parsed.root := by
  have hok : (parse "class @C \x7b void M() \x7b if (x " none).isOk = true := by decide +kernel
  obtain ⟨parsed, h⟩ := exists_eq_ok hok
  exact ⟨parsed, h, parse_wellPlaced h⟩

end ThreadLint
