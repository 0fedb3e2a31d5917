import ThreadLint.Grammar
import ThreadLint.Proofs.Grammar.Ensures
import ThreadLint.Proofs.Token.Word

/-!
This module contains what it means that the nodes of a syntax tree are well placed: which tokens
they are made of, where their parts lie in them, and what their names and blocks look like.
-/

namespace ThreadLint.Parser

/--
The offsets from the beginning of one token to the end of the last one in front of another.
-/
def extentOf (tokens : Array Token) (first stop : Nat) : Extent :=
  ⟨startAt tokens first, stopAt tokens (stop - 1)⟩

/--
Whether an extent is one of some tokens between two of them.
-/
def Within (tokens : Array Token) (lo hi : Nat) (extent : Extent) : Prop :=
  ∃ first stop, lo ≤ first ∧ first < stop ∧ stop ≤ hi ∧ extent = extentOf tokens first stop

/--
Whether a spelling and an extent are those of some tokens between two of them.
-/
def Written (tokens : Array Token) (lo hi : Nat) (type : String × Extent) : Prop :=
  ∃ first stop, lo ≤ first ∧ first < stop ∧ stop ≤ hi ∧ type.2 = extentOf tokens first stop ∧
    type.1 = spelled tokens first stop

/--
Whether the identifier at an index is written in an extent and stands for a name.
-/
def IsName (tokens : Array Token) (index : Nat) (name : String) (extent : Extent) : Prop :=
  (tokenAt tokens index).isIdentifier = true ∧ name = (tokenAt tokens index).identifierName ∧
    extent = (tokenAt tokens index).extent

/--
Whether a token is neither an opening nor a closing bracket.
-/
def NoBracket (tokens : Array Token) (index : Nat) : Prop :=
  (tokenAt tokens index).isOpener = false ∧ (tokenAt tokens index).isCloser = false

/--
Whether a statement is what is read, or passed over, from the token at an index up to another.
-/
def IsRead (tokens : Array Token) (first stop : Nat) (node : Node) : Prop :=
  ∃ depth, embedded (Grammar.ofDepth depth) tokens first = .ok (node, stop)

/--
Whether a statement lies between two tokens and only the labels in front of it are no part of it.
-/
def Flush (tokens : Array Token) (lo hi : Nat) (node : Node) : Prop :=
  ∃ first, lo ≤ first ∧ first < hi ∧ (∀ index, lo ≤ index → index < first → NoBracket tokens index) ∧
    node.extent = extentOf tokens first hi ∧ IsRead tokens first hi node

/--
Whether an operand may begin with a token, apart from the operators in front of it.
-/
def Begins (token : Token) : Bool :=
  beginsOperand token || token.isPunct ["(", "[", "\x7b"]

/--
Whether an operand without operators in front of it may begin with the token at an index. If that is
the word `await`, it is a name here.
-/
def Opens (tokens : Array Token) (first : Nat) : Prop :=
  Begins (tokenAt tokens first) = true ∧
    ((tokenAt tokens first).isWord ["await"] = true → Begins (tokenAt tokens (first + 1)) = false)

/--
Whether a name in an expression may begin with a token.
-/
def BeginsName (token : Token) : Bool :=
  token.isKeyword ["this", "base"] || isPredefinedType token || token.isIdentifier

/--
Whether what an identifier mentions is what the token at an index stands for. If it is a type or the
brackets of a pattern, this is said of words only: what is no word has more tokens.
-/
def Mentions (tokens : Array Token) (first : Nat) (name : String) : IdentifierRole → Prop
  | .declaration _ => True
  | .typeTest => Token.IsWord name → name = Text.dropBlanks (tokenAt tokens first).text ∧
      ((tokenAt tokens first).isIdentifier || isPredefinedType (tokenAt tokens first)) = true
  | .parts => Token.IsWord name → name = (tokenAt tokens first).identifierName
  | .name _ =>
    name = (tokenAt tokens first).identifierName ∧ BeginsName (tokenAt tokens first) = true

/--
Whether a form is one of an expression: an identifier in it is a name, and no type or pattern.
-/
def IsValue : Form → Prop
  | .identifier _ (.name _) => True
  | .identifier .. => False
  | _ => True

/--
Whether the first of some nodes is an expression, if there is one.
-/
def HasValueHead (nodes : List Node) : Prop :=
  ∀ head ∈ nodes.head?, IsValue head.form

/--
Whether no node of some has a part of an extent.
-/
def Clear (nodes : List Node) (extent : Extent) : Prop :=
  ∀ node ∈ nodes, node.extent.stop ≤ extent.start ∨ extent.stop ≤ node.extent.start

/--
What a node of some tokens records besides its parts: names and types where they are written, and
blocks between their braces. What is its own is no part of its children.
-/
def Fits (tokens : Array Token) (first stop : Nat) (children : List Node) : Form → Prop
  | .classDecl head =>
    (∃ index, first ≤ index ∧ index < stop ∧ IsName tokens index head.name head.nameExtent) ∧
      ∀ base ∈ head.bases, Written tokens first stop base ∧ Clear children base.2
  | .methodDecl head =>
    ∃ index, first ≤ index ∧ index < stop ∧ IsName tokens index head.name head.nameExtent ∧
      Clear children head.nameExtent ∧
      ∀ result ∈ head.returnType, Written tokens first index result ∧ head.isConstructor = false
  | .variableDeclarator name extent =>
    IsName tokens first name extent ∧ Clear children extent
  | .memberAccess name extent _ _ =>
    ∃ index, first + 1 < index ∧ index < stop ∧ IsName tokens index name extent ∧
      Clear children extent ∧ Opens tokens first ∧
      (tokenAt tokens (index - 1)).isPunct [".", "?.", "::"] = true ∧ HasValueHead children
  | .attributeUse _ nameStop closer =>
    (∃ index, first ≤ index ∧ index < stop ∧ nameStop = stopAt tokens index) ∧
      (∀ start ∈ closer, ∃ index, first ≤ index ∧ index < stop ∧ start = startAt tokens index) ∧
      Clear children (tokenAt tokens first).extent
  | .callExpr =>
    ∃ index, first ≤ index ∧ index < stop ∧ Clear children (tokenAt tokens index).extent ∧
      Opens tokens first ∧ HasValueHead children
  | .literal _ value =>
    Begins (tokenAt tokens first) = true ∧
      (stop = first + 1 → value = (tokenAt tokens first).text)
  | .identifier name role =>
    Begins (tokenAt tokens first) = true ∧ children = [] ∧ Mentions tokens first name role
  | .objectCreation .. | .elementAccess _ => Begins (tokenAt tokens first) = true
  | .paren _ =>
    Begins (tokenAt tokens first) = true ∧ Clear children (tokenAt tokens first).extent
  | .block =>
    (tokenAt tokens first).isPunct ["\x7b"] = true ∧
      ∃ behind, Chain (Flush tokens) (first + 1) behind children ∧
        (((tokenAt tokens behind).isPunct ["\x7d"] = true ∧ stop = behind + 1) ∨
          (behind = last tokens ∧ stop = behind))
  | _ => True

/--
Whether a node stands for a construct that is missing at the end of the text.
-/
def IsPlaceholder (tokens : Array Token) (node : Node) : Prop :=
  node.kind = .otherStmt ∧ node.children = [] ∧
    node.extent = ⟨startAt tokens (last tokens), startAt tokens (last tokens)⟩

mutual

/--
Whether a node is made of the tokens from one index up to another, with all that is below it in
place.
-/
def Whole (tokens : Array Token) (first stop : Nat) : Node → Prop
  | ⟨form, extent, _, _, children⟩ =>
    first < stop ∧ stop ≤ last tokens ∧ extent = extentOf tokens first stop ∧
      Fits tokens first stop children form ∧ Laid tokens first stop children

/--
Whether nodes lie between two tokens, one behind the other.
-/
def Laid (tokens : Array Token) (lo hi : Nat) : List Node → Prop
  | [] => lo ≤ hi
  | node :: rest =>
    ∃ first stop, lo ≤ first ∧
      (Whole tokens first stop node ∨
        (IsPlaceholder tokens node ∧ first = last tokens ∧ stop = last tokens)) ∧
      Laid tokens stop hi rest

end

/--
Whether a node is made of the tokens from one index up to another, or stands for nothing at the end
of the text.
-/
def Kept (tokens : Array Token) (first stop : Nat) (node : Node) : Prop :=
  Whole tokens first stop node ∨
    (IsPlaceholder tokens node ∧ first = last tokens ∧ stop = last tokens)

/--
Whether a node lies between two tokens.
-/
def Inside (tokens : Array Token) (lo hi : Nat) (node : Node) : Prop :=
  ∃ first stop, lo ≤ first ∧ stop ≤ hi ∧ Whole tokens first stop node

/--
Whether a node between two tokens is an expression.
-/
def Valued (tokens : Array Token) (lo hi : Nat) (node : Node) : Prop :=
  Inside tokens lo hi node ∧ IsValue node.form

variable {tokens : Array Token}

theorem noBracket_of_isIdentifier {index : Nat}
    (h : (tokenAt tokens index).isIdentifier = true) : NoBracket tokens index := by
  simp only [Token.isIdentifier, beq_iff_eq] at h
  simp [NoBracket, Token.isOpener, Token.closer?, Token.isCloser, Token.isPunct, h]

theorem noBracket_of_colon {index : Nat} (h : (tokenAt tokens index).isPunct [":"] = true) :
    NoBracket tokens index := by
  rw [Token.isPunct_iff, List.mem_singleton] at h
  simp [NoBracket, Token.isOpener, Token.closer?, Token.isCloser, Token.isPunct, h,
    Token.brackets, List.lookup_cons]

theorem begins_of_isIdentifier {token : Token} (h : token.isIdentifier = true) :
    Begins token = true := by
  simp [Begins, beginsOperand, h]

theorem begins_of_isPunct {token : Token} {texts : List String}
    (htexts : ∀ text ∈ texts, text ∈ ["(", "[", "\x7b"]) (h : token.isPunct texts = true) :
    Begins token = true := by
  rw [Token.isPunct_iff] at h
  simp only [Begins, Token.isPunct, h.1, List.contains_iff_mem.2 (htexts _ h.2)]
  simp

theorem begins_of_isWord {token : Token} {texts : List String}
    (htexts : ∀ text ∈ texts, text ∉ noOperand) (h : token.isWord texts = true) :
    Begins token = true := by
  rw [Token.isWord, Bool.and_eq_true, Bool.or_eq_true, List.contains_iff_mem] at h
  cases h.1 with
  | inl hidentifier => exact begins_of_isIdentifier hidentifier
  | inr hkeyword => simp [Begins, beginsOperand, hkeyword, htexts _ h.2]

theorem isWord_of_isKeyword {token : Token} {texts : List String} (h : token.isKeyword texts = true) :
    token.isWord texts = true := by
  rw [Token.isKeyword, Bool.and_eq_true] at h
  rw [Token.isWord, h.1, h.2, Bool.or_true, Bool.and_self]

theorem begins_of_isKeyword {token : Token} {texts : List String}
    (htexts : ∀ text ∈ texts, text ∉ noOperand) (h : token.isKeyword texts = true) :
    Begins token = true :=
  begins_of_isWord htexts (isWord_of_isKeyword h)

/-- A word has one spelling. -/
theorem mem_of_isWord {token : Token} {texts texts' : List String} (h : token.isWord texts = true)
    (h' : token.isWord texts' = true) : ∃ text ∈ texts, text ∈ texts' := by
  rw [Token.isWord, Bool.and_eq_true, List.contains_iff_mem] at h h'
  exact ⟨token.text, h.2, h'.2⟩

theorem isPunct_eq_false_of_isWord {token : Token} {texts texts' : List String}
    (h : token.isWord texts = true) : token.isPunct texts' = false := by
  rw [Token.isWord, Bool.and_eq_true, Bool.or_eq_true, beq_iff_eq, beq_iff_eq] at h
  cases h.1 with
  | inl h => simp [Token.isPunct, h]
  | inr h => simp [Token.isPunct, h]

theorem whole_iff {first stop : Nat} {node : Node} :
    Whole tokens first stop node ↔
      first < stop ∧ stop ≤ last tokens ∧ node.extent = extentOf tokens first stop ∧
        Fits tokens first stop node.children node.form ∧
        Laid tokens first stop node.children := by
  cases node
  rw [Whole]

/-- The variable of a pattern has no say in where the pattern is. -/
theorem Whole.with_designation {first stop : Nat} {node : Node}
    (h : Whole tokens first stop node) (designation : Option String) :
    Whole tokens first stop { node with designation } := by
  rw [whole_iff] at h ⊢
  exact h

theorem Whole.lt {first stop : Nat} {node : Node} (h : Whole tokens first stop node) :
    first < stop :=
  (whole_iff.1 h).1

theorem Inside.lt {lo hi : Nat} {node : Node} (h : Inside tokens lo hi node) : lo < hi := by
  obtain ⟨_, _, _, _, h⟩ := h
  have := h.lt
  omega

theorem Inside.mono {lo hi lo' hi' : Nat} {node : Node} (h : Inside tokens lo hi node)
    (hbounds : lo' ≤ lo ∧ hi ≤ hi') : Inside tokens lo' hi' node := by
  obtain ⟨first, stop, hfirst, hstop, h⟩ := h
  exact ⟨first, stop, by omega, by omega, h⟩

theorem Written.mono {lo hi lo' hi' : Nat} {type : String × Extent} (h : Written tokens lo hi type)
    (hbounds : lo' ≤ lo ∧ hi ≤ hi') : Written tokens lo' hi' type := by
  obtain ⟨first, stop, hfirst, hlt, hstop, h⟩ := h
  exact ⟨first, stop, by omega, hlt, by omega, h⟩

theorem Written.within {lo hi : Nat} {type : String × Extent} (h : Written tokens lo hi type) :
    Within tokens lo hi type.2 := by
  obtain ⟨first, stop, hfirst, hlt, hstop, h, _⟩ := h
  exact ⟨first, stop, hfirst, hlt, hstop, h⟩

/-! ### Nodes behind each other -/

theorem laid_nil_iff {lo hi : Nat} : Laid tokens lo hi [] ↔ lo ≤ hi := by
  rw [Laid]

theorem laid_cons_iff {lo hi : Nat} {node : Node} {rest : List Node} :
    Laid tokens lo hi (node :: rest) ↔
      ∃ first stop, lo ≤ first ∧ Kept tokens first stop node ∧ Laid tokens stop hi rest := by
  rw [Laid]
  rfl

theorem laid_nil {lo hi : Nat} (h : lo ≤ hi) : Laid tokens lo hi [] :=
  laid_nil_iff.2 h

theorem Laid.le {lo hi : Nat} {nodes : List Node} (h : Laid tokens lo hi nodes) : lo ≤ hi := by
  induction nodes generalizing lo with
  | nil => exact laid_nil_iff.1 h
  | cons node rest ih =>
    rw [laid_cons_iff] at h
    obtain ⟨first, stop, hfirst, hnode, hrest⟩ := h
    have := ih hrest
    cases hnode with
    | inl hnode =>
      have := hnode.lt
      omega
    | inr hnode => omega

theorem Laid.mono {lo hi lo' hi' : Nat} {nodes : List Node} (h : Laid tokens lo hi nodes)
    (hbounds : lo' ≤ lo ∧ hi ≤ hi') : Laid tokens lo' hi' nodes := by
  induction nodes generalizing lo lo' with
  | nil =>
    rw [laid_nil_iff] at h ⊢
    omega
  | cons node rest ih =>
    rw [laid_cons_iff] at h ⊢
    obtain ⟨first, stop, hfirst, hnode, hrest⟩ := h
    exact ⟨first, stop, by omega, hnode, ih hrest (by omega)⟩

theorem Laid.append {lo middle middle' hi : Nat} {front back : List Node}
    (hfront : Laid tokens lo middle front) (hback : Laid tokens middle' hi back)
    (h : middle ≤ middle') : Laid tokens lo hi (front ++ back) := by
  induction front generalizing lo with
  | nil =>
    rw [laid_nil_iff] at hfront
    exact hback.mono (by omega)
  | cons node rest ih =>
    rw [laid_cons_iff] at hfront
    obtain ⟨first, stop, hfirst, hnode, hrest⟩ := hfront
    rw [List.cons_append, laid_cons_iff]
    exact ⟨first, stop, hfirst, hnode, ih hrest⟩

theorem Inside.laid {lo hi : Nat} {node : Node} (h : Inside tokens lo hi node) :
    Laid tokens lo hi [node] := by
  obtain ⟨first, stop, hfirst, hstop, h⟩ := h
  rw [laid_cons_iff]
  exact ⟨first, stop, hfirst, .inl h, laid_nil hstop⟩

theorem Kept.laid {first stop : Nat} {node : Node} (h : Kept tokens first stop node) :
    Laid tokens first stop [node] := by
  rw [laid_cons_iff]
  exact ⟨first, stop, Nat.le_refl _, h, laid_nil (Nat.le_refl _)⟩

theorem Laid.flatten {lo hi : Nat} {groups : List (List Node)}
    (h : Chain (Laid tokens) lo hi groups) : Laid tokens lo hi groups.flatten := by
  induction groups generalizing lo with
  | nil => exact laid_nil (Nat.le_of_eq h)
  | cons group groups ih =>
    obtain ⟨middle, hgroup, h⟩ := h
    rw [List.flatten_cons]
    exact hgroup.append (ih h) (Nat.le_refl _)

theorem Laid.of_chain {lo hi : Nat} {nodes : List Node}
    (h : Chain (fun first stop node => Laid tokens first stop [node]) lo hi nodes) :
    Laid tokens lo hi nodes := by
  induction nodes generalizing lo with
  | nil => exact laid_nil (Nat.le_of_eq h)
  | cons node nodes ih =>
    obtain ⟨middle, hnode, h⟩ := h
    exact hnode.append (ih h) (Nat.le_refl _)

theorem Laid.kept_of_mem {lo hi : Nat} {nodes : List Node} (h : Laid tokens lo hi nodes)
    {node : Node} (hmem : node ∈ nodes) :
    ∃ first stop, lo ≤ first ∧ stop ≤ hi ∧ Kept tokens first stop node := by
  induction nodes generalizing lo with
  | nil => simp at hmem
  | cons other rest ih =>
    rw [laid_cons_iff] at h
    obtain ⟨first, stop, hfirst, hother, hrest⟩ := h
    rw [List.mem_cons] at hmem
    cases hmem with
    | inl heq =>
      rw [heq]
      exact ⟨first, stop, hfirst, hrest.le, hother⟩
    | inr hmem =>
      obtain ⟨first', stop', hfirst', hstop', hnode⟩ := ih hrest hmem
      have : Laid tokens first stop [other] := Kept.laid hother
      have := this.le
      exact ⟨first', stop', by omega, hstop', hnode⟩

theorem Kept.le {first stop : Nat} {node : Node} (h : Kept tokens first stop node) :
    first ≤ stop ∧ stop ≤ last tokens := by
  cases h with
  | inl h =>
    obtain ⟨hlt, hlast, _⟩ := whole_iff.1 h
    omega
  | inr h => omega

theorem Kept.start_eq {first stop : Nat} {node : Node} (h : Kept tokens first stop node) :
    node.extent.start = startAt tokens first := by
  cases h with
  | inl h => rw [(whole_iff.1 h).2.2.1, extentOf]
  | inr h => rw [h.1.2.2, h.2.1]

variable [Lawful tokens]

theorem Kept.stop_le {first stop : Nat} {node : Node} (h : Kept tokens first stop node) :
    node.extent.stop ≤ startAt tokens stop := by
  cases h with
  | inl h =>
    obtain ⟨hlt, hlast, hextent, _⟩ := whole_iff.1 h
    rw [hextent]
    exact stop_le_start (by omega) hlast
  | inr h =>
    apply Nat.le_of_eq
    rw [h.1.2.2, h.2.2]

theorem Laid.start_le {lo hi : Nat} {nodes : List Node} (h : Laid tokens lo hi nodes) {node : Node}
    (hmem : node ∈ nodes) : startAt tokens lo ≤ node.extent.start := by
  obtain ⟨first, stop, hfirst, _, hnode⟩ := h.kept_of_mem hmem
  have := hnode.le
  rw [hnode.start_eq]
  exact start_le_start hfirst (by omega)

/-! ### Parts apart from their node -/

omit [Lawful tokens] in
theorem clear_nil (extent : Extent) : Clear [] extent := by
  simp [Clear]

omit [Lawful tokens] in
theorem Clear.append {front back : List Node} {extent : Extent} (hfront : Clear front extent)
    (hback : Clear back extent) : Clear (front ++ back) extent := by
  intro node hnode
  rw [List.mem_append] at hnode
  cases hnode with
  | inl hmem => exact hfront node hmem
  | inr hmem => exact hback node hmem

theorem Laid.clear_of_le {lo hi first stop : Nat} {nodes : List Node} (h : Laid tokens lo hi nodes)
    (hfirst : hi ≤ first) (hlast : first ≤ last tokens) : Clear nodes (extentOf tokens first stop) := by
  intro node hnode
  obtain ⟨_, stop', _, hstop', hkept⟩ := h.kept_of_mem hnode
  have hnodeStop : node.extent.stop ≤ startAt tokens stop' := hkept.stop_le
  exact .inl (Nat.le_trans hnodeStop (start_le_start (by omega) hlast))

theorem Laid.clear_of_lt {lo hi first stop : Nat} {nodes : List Node} (h : Laid tokens lo hi nodes)
    (hlt : first < stop) (hstop : stop ≤ lo) (hlast : hi ≤ last tokens) :
    Clear nodes (extentOf tokens first stop) := by
  intro node hnode
  have hnodeStart : startAt tokens lo ≤ node.extent.start := h.start_le hnode
  have := h.le
  exact .inr (Nat.le_trans (stop_le_start (by omega) (by omega)) hnodeStart)

theorem Laid.clear_token_of_le {lo hi index : Nat} {nodes : List Node}
    (h : Laid tokens lo hi nodes) (hindex : hi ≤ index) (hlast : index ≤ last tokens) :
    Clear nodes (tokenAt tokens index).extent := by
  show Clear nodes (extentOf tokens index (index + 1))
  exact h.clear_of_le hindex hlast

theorem Laid.clear_token_of_lt {lo hi index : Nat} {nodes : List Node}
    (h : Laid tokens lo hi nodes) (hindex : index < lo) (hlast : hi ≤ last tokens) :
    Clear nodes (tokenAt tokens index).extent := by
  show Clear nodes (extentOf tokens index (index + 1))
  exact h.clear_of_lt (Nat.lt_succ_self index) hindex hlast

/-! ### New nodes -/

variable {cursor : Nat}

/-- Where names and types are written they do not end in front of where they start. -/
theorem Fits.isOrdered {form : Form} {first stop : Nat} {children : List Node}
    (h : Fits tokens first stop children form) (hlast : stop ≤ last tokens) :
    ∀ extent ∈ form.nameExtent?.toList ++ form.typeExtents, extent.isOrdered = true := by
  have hname {index : Nat} {name : String} {extent : Extent}
      (h : IsName tokens index name extent) : extent.isOrdered = true := by
    rw [h.2.2]
    exact decide_eq_true (start_le_stop tokens index)
  have htype {stop' : Nat} {type : String × Extent} (hle : stop' ≤ stop)
      (h : Written tokens first stop' type) : type.2.isOrdered = true := by
    obtain ⟨front, back, _, hlt, hback, heq, _⟩ := h
    rw [heq]
    apply decide_eq_true
    exact Nat.le_trans (start_le_stop tokens front) (stop_le_stop (by omega) (by omega))
  intro extent hextent
  cases form
  case classDecl head =>
    obtain ⟨⟨index, _, _, hisName⟩, hbases⟩ := h
    simp only [Form.nameExtent?, Form.typeExtents, Option.toList_some, List.singleton_append,
      List.mem_cons, List.mem_map] at hextent
    rcases hextent with rfl | ⟨base, hbase, rfl⟩
    . exact hname hisName
    . exact htype (Nat.le_refl _) (hbases base hbase).1
  case methodDecl head =>
    obtain ⟨index, _, hindex, hisName, _, hresult⟩ := h
    simp only [Form.nameExtent?, Form.typeExtents, Option.toList_some, List.singleton_append,
      List.mem_cons, List.mem_map, Option.mem_toList] at hextent
    rcases hextent with rfl | ⟨result, hmem, rfl⟩
    . exact hname hisName
    . exact htype (Nat.le_of_lt hindex) (hresult result hmem).1
  case variableDeclarator name nameExtent =>
    simp only [Form.nameExtent?, Form.typeExtents, Option.toList_some, List.append_nil,
      List.mem_singleton] at hextent
    rw [hextent]
    exact hname h.1
  case memberAccess name nameExtent isConditional typeArguments =>
    obtain ⟨index, _, _, hisName, _⟩ := h
    simp only [Form.nameExtent?, Form.typeExtents, Option.toList_some, List.append_nil,
      List.mem_singleton] at hextent
    rw [hextent]
    exact hname hisName
  all_goals simp [Form.nameExtent?, Form.typeExtents] at hextent

theorem node_eq {form : Form} {first : Nat} {children : List Node} (hfirst : first ≤ last tokens)
    (hcursor : cursor ≤ last tokens)
    (hform : ∀ extent ∈ form.nameExtent?.toList ++ form.typeExtents, extent.isOrdered = true) :
    node form first children tokens cursor =
      .ok (⟨form, ⟨startAt tokens first, if first < cursor
          then max (stopAt tokens (cursor - 1)) (startAt tokens first) else startAt tokens first⟩,
        (tokenAt tokens first).trivia, none, children⟩, cursor) := by
  unfold node
  rw [bind_eq_of_eq_ok (tokenNumber_eq hfirst),
    bind_eq_of_eq_ok (show here tokens cursor = .ok (cursor, cursor) from rfl),
    bind_eq_of_eq_ok (lastStop_eq hcursor)]
  have hstop : (if cursor = 0 then 0 else stopAt tokens (cursor - 1)) = stopAt tokens (cursor - 1) ∨
      ¬ first < cursor := by
    by_cases hzero : cursor = 0
    . exact .inr (by omega)
    . exact .inl (if_neg hzero)
  have heq : (if first < cursor
      then max (if cursor = 0 then 0 else stopAt tokens (cursor - 1)) (tokenAt tokens first).start
      else (tokenAt tokens first).start)
      = if first < cursor then max (stopAt tokens (cursor - 1)) (startAt tokens first)
        else startAt tokens first := by
    cases hstop with
    | inl hstop =>
      rw [hstop]
      rfl
    | inr hnot => rw [if_neg hnot, if_neg hnot, startAt]
  rw [heq, if_pos]
  . rfl
  . rw [List.cons_append, List.all_cons, Bool.and_eq_true, List.all_eq_true]
    refine ⟨decide_eq_true ?_, hform⟩
    dsimp only
    split
    . exact Nat.le_max_right _ _
    . exact Nat.le_refl _

theorem node_ensures {form : Form} {first lo hi : Nat} {children : List Node}
    (hfits : Fits tokens first cursor children form) (hchildren : Laid tokens lo hi children)
    (hbounds : first ≤ lo ∧ hi ≤ cursor ∧ first < cursor ∧ cursor ≤ last tokens) :
    Ensures tokens (node form first children) cursor fun node next =>
      next = cursor ∧ Whole tokens first cursor node := by
  obtain ⟨hlo, hhi, hlt, hlast⟩ := hbounds
  intro _
  rw [node_eq (by omega) hlast (hfits.isOrdered hlast)]
  refine ⟨Nat.le_refl _, hlast, .refl _ _, rfl, ?_⟩
  rw [whole_iff]
  refine ⟨hlt, hlast, ?_, hfits, hchildren.mono ⟨hlo, hhi⟩⟩
  have : startAt tokens first ≤ startAt tokens (cursor - 1) := start_le_start (by omega) (by omega)
  have := start_le_stop tokens (cursor - 1)
  rw [if_pos hlt, Nat.max_eq_left (by omega), extentOf]

theorem node_whole {form : Form} {first lo hi : Nat} {children : List Node}
    (hfits : Fits tokens first cursor children form) (hchildren : Laid tokens lo hi children)
    (hbounds : first ≤ lo ∧ hi ≤ cursor ∧ first < cursor ∧ cursor ≤ last tokens) :
    Ensures tokens (node form first children) cursor fun node next =>
      Whole tokens first next node := by
  apply (node_ensures hfits hchildren hbounds).mono
  rintro node _ _ _ ⟨rfl, hnode⟩
  exact hnode

theorem node_inside {form : Form} {outer first lo hi : Nat} {children : List Node}
    (hfits : Fits tokens first cursor children form) (hchildren : Laid tokens lo hi children)
    (hbounds : outer ≤ first ∧ first ≤ lo ∧ hi ≤ cursor ∧ first < cursor ∧
      cursor ≤ last tokens) :
    Ensures tokens (node form first children) cursor fun node next =>
      Inside tokens outer next node := by
  apply (node_ensures hfits hchildren hbounds.2).mono
  rintro node _ _ _ ⟨rfl, hnode⟩
  exact ⟨first, _, hbounds.1, Nat.le_refl _, hnode⟩

omit [Lawful tokens] in
/-- A node has the form that it is made with. -/
theorem node_yields_form (form : Form) (first : Nat) (children : List Node) :
    Yields (node form first children) fun made => made.form = form :=
  .skip fun _ => .skip fun _ => .skip fun _ => .ite (.pure rfl) (.stopWith _)

theorem node_valued {form : Form} {outer first lo hi : Nat} {children : List Node}
    (hvalue : IsValue form) (hfits : Fits tokens first cursor children form)
    (hchildren : Laid tokens lo hi children)
    (hbounds : outer ≤ first ∧ first ≤ lo ∧ hi ≤ cursor ∧ first < cursor ∧
      cursor ≤ last tokens) :
    Ensures tokens (node form first children) cursor fun node next =>
      Valued tokens outer next node := by
  apply (node_inside hfits hchildren hbounds).and_of_eq_ok
  intro made next heq
  rw [node_yields_form form first children tokens cursor made next heq]
  exact hvalue

end ThreadLint.Parser
