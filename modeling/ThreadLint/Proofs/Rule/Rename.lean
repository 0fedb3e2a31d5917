import ThreadLint.Proofs.Kept.Rule
import ThreadLint.Proofs.Tree.Naming
import ThreadLint.Proofs.Tree.Walk

/-!
This module contains what is renamed together with a method, and what is left of its name: the tokens
that read like it, with an edit or without one.
-/

namespace ThreadLint

open ThreadLint.Parser

/--
What edits in an extent move stands in the extent that is carried over if it stood in the extent. The
end of the extent is not in the middle of it.
-/
theorem Edit.isInside_carried_iff {edits : List Edit} {extent inner moved : Extent}
    (h : ∀ edit ∈ edits, edit.Lengthens extent)
    (hedge : inner.stop ≤ extent.stop ∨ extent.stop ≤ inner.start)
    (hmoved : moved.start = inner.start + shift edits inner.start)
    (hlength : moved.stop + inner.start = inner.stop + moved.start) :
    moved.IsInside (carried edits extent) ↔ inner.IsInside extent := by
  obtain ⟨hstart, hstop⟩ := carried_eq_of_lengthens h
  have hbounds : 0 ≤ shift edits inner.start ∧
      shift edits inner.start ≤ growthOf edits fun _ => true := growthOf_bounds h _
  have hfront : inner.start < extent.start → shift edits inner.start = 0 := by
    intro hlt
    apply growthOf_eq_zero
    intro edit hedit
    obtain ⟨hfirst, hle, _, _⟩ := h edit hedit
    rw [decide_eq_false_iff_not]
    omega
  have hback : extent.stop ≤ inner.start →
      shift edits inner.start = growthOf edits fun _ => true := by
    intro hle
    apply shift_eq_of_le
    intro edit hedit
    have := (h edit hedit).stop_le
    omega
  constructor
  . rintro ⟨hfirst, hlast⟩
    rw [hstart] at hfirst
    constructor
    case start_le => omega
    case stop_le => omega
  . rintro ⟨hfirst, hlast⟩
    constructor
    case start_le => omega
    case stop_le => omega

namespace AsyncNaming

open ThreadLint.Token

/--
Whether a node declares a method with a name or mentions it.
-/
def Involves (name : String) (node : Node) : Prop :=
  declares name node = true ∨ (mention? name node).isSome = true

instance (name : String) (node : Node) : Decidable (Involves name node) :=
  inferInstanceAs (Decidable (_ ∨ _))

section

variable {source : Source} {tokens : List Token} {root : Node} (hsited : Sited source tokens root)
  {name : String} {node : Node} (hmem : node ∈ root.preorder)

include hsited hmem

/-- A mention of a word is a token that reads like it, and no other node has that token for itself. -/
theorem exists_index_of_mention? {start : Nat} (hword : IsWord name)
    (h : mention? name node = some start) :
    node.kind ≠ .compilationUnit ∧ node.kind ≠ .otherStmt ∧ ∃ index, index < last tokens.toArray ∧
      start = startAt tokens.toArray index ∧
      (tokenAt tokens.toArray index).identifierName = name ∧
      node.Owns (tokenAt tokens.toArray index).extent := by
  have := hsited.lawful
  unfold mention? at h
  split at h
  . next found role hform =>
    have hkind : node.kind ≠ .compilationUnit ∧ node.kind ≠ .otherStmt := by
      simp [Node.kind, hform, Form.kind]
    obtain ⟨first, stop, hwhole⟩ := hsited.whole hmem hkind
    obtain ⟨hlt, hlast, hextent, hfits, _⟩ := whole_iff.1 hwhole
    rw [hform] at hfits
    obtain ⟨_, hchildren, hmentions⟩ := hfits
    have hrole : (∀ typeName, role ≠ .declaration typeName) ∧ found = name ∧
        node.extent.start = start := by
      split at h
      . cases h
      . next hrole =>
        split at h
        . next hname => exact ⟨hrole, hname, Option.some.inj h⟩
        . cases h
    obtain ⟨hrole, rfl, hstart⟩ := hrole
    -- an identifier has no children, so all of its tokens are its own
    have hfirst : node.extent.start = startAt tokens.toArray first := by rw [hextent, extentOf]
    refine ⟨hkind.1, hkind.2, first, by omega, hstart.symm.trans hfirst,
      hsited.identifierName_of_mentions (by omega) hword hrole hmentions, ?_⟩
    apply hwhole.owns hlt
    . rw [hchildren]
      exact fun child hchild => absurd hchild List.not_mem_nil
    . exact ⟨Nat.le_of_eq hfirst, Nat.le_refl _⟩
    . rw [hextent]
      exact ⟨Nat.le_refl _, stop_le_stop (by omega) (by omega)⟩
  . next found extent conditional typeArguments hform =>
    have hkind : node.kind ≠ .compilationUnit ∧ node.kind ≠ .otherStmt := by
      simp [Node.kind, hform, Form.kind]
    obtain ⟨first, stop, hwhole⟩ := hsited.whole hmem hkind
    obtain ⟨hlt, hlast, hextent, hfits, _⟩ := whole_iff.1 hwhole
    rw [hform] at hfits
    obtain ⟨index, hfirst, hstop, ⟨_, hname, hat⟩, hclear, _⟩ := hfits
    have hfound : found = name ∧ extent.start = start := by
      split at h
      . split at h
        . next hname => exact ⟨hname.1, Option.some.inj h⟩
        . cases h
      . cases h
    obtain ⟨rfl, hstart⟩ := hfound
    rw [hat] at hclear hstart
    refine ⟨hkind.1, hkind.2, index, by omega, hstart.symm, hname.symm, ?_⟩
    apply hwhole.owns hstop hclear
    . rw [hextent]
      exact ⟨start_le_start (by omega) (by omega), Nat.le_refl _⟩
    . rw [hextent]
      exact ⟨Nat.le_refl _, stop_le_stop (by omega) (by omega)⟩
  . cases h

/-- A declaration of a method has a token for itself that reads like its name. -/
theorem exists_index_of_declares (h : declares name node = true) :
    node.kind ≠ .compilationUnit ∧ node.kind ≠ .otherStmt ∧ ∃ index, index < last tokens.toArray ∧
      (tokenAt tokens.toArray index).identifierName = name ∧
      node.Owns (tokenAt tokens.toArray index).extent := by
  have := hsited.lawful
  unfold declares at h
  split at h
  . next head hform =>
    obtain ⟨index, hlast, ⟨hidentifier, hname, hextent⟩, _⟩ := hsited.methodDecl hmem hform
    have howns := (hsited.owns_name hmem hform).1
    rw [hextent] at howns
    refine ⟨?_, ?_, index, lt_last_of_isIdentifier hidentifier, ?_, howns⟩
    . simp [Node.kind, hform, Form.kind]
    . simp [Node.kind, hform, Form.kind]
    . rw [← hname]
      simpa using h
  . cases h

theorem exists_index_of_involves (hword : IsWord name) (h : Involves name node) :
    node.kind ≠ .compilationUnit ∧ node.kind ≠ .otherStmt ∧ ∃ index, index < last tokens.toArray ∧
      (tokenAt tokens.toArray index).identifierName = name ∧
      node.Owns (tokenAt tokens.toArray index).extent := by
  cases h with
  | inl h => exact exists_index_of_declares hsited hmem h
  | inr h =>
    obtain ⟨start, h⟩ := Option.isSome_iff_exists.1 h
    obtain ⟨hkind, hkind', index, hlast, _, hindex⟩ := exists_index_of_mention? hsited hmem hword h
    exact ⟨hkind, hkind', index, hlast, hindex⟩

/-- A node inside an extent that has a name has a token there that reads like it. -/
theorem exists_named_of_involves (hword : IsWord name) (h : Involves name node) {extent : Extent}
    (hinside : node.extent.IsInside extent) :
    ∃ token ∈ tokens, token.identifierName = name ∧ token.extent.IsInside extent := by
  obtain ⟨_, _, index, hindex, hname, howns⟩ := exists_index_of_involves hsited hmem hword h
  have htoken := tokenAt_mem_of_tiles hsited.tiles (Nat.le_of_lt hindex)
  exact ⟨_, htoken, hname, Nat.le_trans hinside.start_le howns.start_le,
    Nat.le_trans howns.stop_le hinside.stop_le⟩

end

/-! ### The edits of a fix -/

theorem any_foldl_keepNew (edits kept : List Edit) (start : Int) :
    (edits.foldl keepNew kept).any (·.start == start)
      = (kept.any (·.start == start) || edits.any (·.start == start)) := by
  induction edits generalizing kept with
  | nil => simp
  | cons edit rest ih =>
    rw [List.foldl_cons, ih, List.any_cons, ← Bool.or_assoc]
    congr 1
    unfold keepNew
    split
    . next hkept =>
      by_cases hstart : edit.start = start
      . rw [← hstart, hkept, Bool.true_or]
      . rw [beq_false_of_ne hstart, Bool.or_false]
    . rw [List.any_append, List.any_cons, List.any_nil, Bool.or_false]

theorem exists_start_iff {edits : List Edit} {start : Int} :
    (∃ edit ∈ distinctEdits edits, edit.start = start) ↔ ∃ edit ∈ edits, edit.start = start := by
  have hany := any_foldl_keepNew edits [] start
  rw [List.any_nil, Bool.false_or, Bool.eq_iff_iff, List.any_eq_true, List.any_eq_true] at hany
  simp only [beq_iff_eq] at hany
  rw [← hany]
  simp only [(distinctEdits_perm edits).mem_iff]

theorem mem_mentionEdits {file : BoundFile} {name : String} {scope : Node} {edit : Edit} :
    edit ∈ mentionEdits file name scope ↔
      ∃ node ∈ scope.preorder, ∃ start, mention? name node = some start ∧
        file.source.slice ⟨start, start + name.length⟩ = name ∧
        edit = ⟨start, (start + name.length : Nat), name ++ ending⟩ := by
  unfold mentionEdits
  rw [Node.walk_eq]
  simp only [List.mem_filterMap]
  constructor
  . rintro ⟨start, ⟨node, hnode, hmention⟩, hedit⟩
    split at hedit
    . next hslice => exact ⟨node, hnode, start, hmention, hslice, (Option.some.inj hedit).symm⟩
    . cases hedit
  . rintro ⟨node, hnode, start, hmention, hslice, rfl⟩
    exact ⟨start, ⟨node, hnode, hmention⟩, by rw [if_pos hslice]⟩

/-- A part of an extent that is not much longer than a name gets longer by the longer name. -/
theorem lengthens_rename {extent inner : Extent} {name : String} (hinside : inner.IsInside extent)
    (hle : inner.start ≤ inner.stop) (hlength : inner.stop ≤ inner.start + (name.length + 1)) :
    (⟨inner.start, inner.stop, name ++ ending⟩ : Edit).Lengthens extent := by
  have hending : ending.length = 5 := by decide
  constructor
  case start_le => exact Int.ofNat_le.2 hinside.start_le
  case start_le_stop => exact Int.ofNat_le.2 hle
  case stop_le => exact Int.ofNat_le.2 hinside.stop_le
  case growth_pos =>
    unfold Edit.growth
    dsimp only
    rw [String.length_append, hending]
    omega

theorem OnToken.isOutside_iff {tokens : Array Token} [Lawful tokens] {edit : Edit}
    (h : OnToken tokens edit) {index : Nat} (hindex : index < last tokens) :
    (tokenAt tokens index).IsOutside edit ↔ edit.start ≠ startAt tokens index := by
  obtain ⟨found, hfound, hstart, hlt, hstop⟩ := h
  unfold Token.IsOutside
  change ((stopAt tokens index : Int) ≤ _ ∨ _ ≤ (startAt tokens index : Int)) ↔ _
  have : startAt tokens index < stopAt tokens index := Lawful.start_lt_stop index hindex
  rcases Nat.lt_trichotomy index found with hbefore | rfl | hbehind
  . have : stopAt tokens index ≤ startAt tokens found := stop_le_start hbefore (by omega)
    omega
  . omega
  . have : stopAt tokens found ≤ startAt tokens index := stop_le_start hbehind (by omega)
    omega

/--
Whether a token is renamed with a method: it is the name of the method, or a mention of it in a part
of the tree that is written without a mark.
-/
def IsRenamed (scope : Node) (head : MethodHead) (token : Token) : Prop :=
  token.start = head.nameExtent.start ∨
    (token.text = head.name ∧ ∃ node ∈ scope.preorder, mention? head.name node = some token.start)

/--
Whether a token of a part of the tree reads like the name of a method and is not renamed with it.
-/
structure IsLeft (scope : Node) (head : MethodHead) (token : Token) : Prop where
  name_eq : token.identifierName = head.name
  inside : token.extent.IsInside scope.extent
  not_renamed : ¬ IsRenamed scope head token

theorem mem_preorder_scopeOf {root : Node} {place : Place} (h : place ∈ Place.all root) :
    place.node ∈ (scopeOf place).preorder := by
  unfold scopeOf
  split
  . next owner howner =>
    unfold Place.type? Place.enclosing? at howner
    obtain ⟨step, hstep, heq⟩ :=
      Place.exists_step_of_mem_ancestors (List.mem_of_find?_eq_some howner)
    rw [← heq]
    exact Place.mem_preorder_of_mem_above h step hstep
  . split
    . next parent hparent =>
      unfold Place.parent? at hparent
      split at hparent
      . cases hparent
      . next step rest habove =>
        cases hparent
        exact Place.mem_preorder_of_mem_above h step (habove ▸ List.mem_cons_self)
    . exact place.node.mem_preorder_self

section

variable {tokens : List Token} {root : Node} {file : BoundFile} {place : Place} {head : MethodHead}
  {edits : List Edit} (hsited : Sited file.source tokens root) (hplace : place.Within root)
  (hform : place.node.form = .methodDecl head)
  (hedits : edits = distinctEdits
    (⟨head.nameExtent.start, head.nameExtent.stop, head.name ++ ending⟩ ::
      mentionEdits file head.name (scopeOf place)))

include hsited hplace hform

theorem isWord_name : IsWord head.name := by
  obtain ⟨index, _, hname, _⟩ := hsited.methodDecl hplace.node hform
  exact hsited.isWord_of_isName hname

include hedits

theorem onToken_of_mem_edits {edit : Edit} (hedit : edit ∈ edits) :
    OnToken tokens.toArray edit := by
  obtain ⟨index, _, hname, _⟩ := hsited.methodDecl hplace.node hform
  rw [hedits] at hedit
  refine (distinctEdits_apart ?_).1 edit hedit
  intro made hmade
  rw [List.mem_cons] at hmade
  cases hmade with
  | inl heq =>
    rw [heq]
    exact onToken_of_isName hsited hname
  | inr hmem =>
    exact onToken_of_mem_mentionEdits hsited rfl (isWord_name hsited hplace hform)
      (scopeOf_mem hplace) made hmem

omit hsited hplace hform in
theorem replacement_of_mem_edits {edit : Edit} (hedit : edit ∈ edits) :
    edit.replacement = head.name ++ ending := by
  have hall : ∀ edit ∈ ⟨head.nameExtent.start, head.nameExtent.stop, head.name ++ ending⟩ ::
      mentionEdits file head.name (scopeOf place), edit.replacement = head.name ++ ending := by
    intro edit hedit
    rw [List.mem_cons, mem_mentionEdits] at hedit
    rcases hedit with rfl | ⟨_, _, _, _, _, rfl⟩
    . rfl
    . rfl
  rw [hedits] at hedit
  exact (distinctEdits_apart hall).1 edit hedit

theorem exists_edit_iff {token : Token} (htoken : token ∈ tokens)
    (hname : token.identifierName = head.name) :
    (∃ edit ∈ edits, edit.start = token.start) ↔ IsRenamed (scopeOf place) head token := by
  have hword := isWord_name hsited hplace hform
  have hwritten := hsited.text_eq_iff_slice_eq htoken (hname ▸ hword)
  rw [hname] at hwritten
  rw [hedits, exists_start_iff, List.exists_mem_cons_iff]
  unfold IsRenamed
  rw [hwritten]
  constructor
  . rintro (hstart | ⟨edit, hedit, hstart⟩)
    . exact .inl (Int.ofNat_inj.1 hstart).symm
    . obtain ⟨node, hnode, start, hmention, hslice, rfl⟩ := mem_mentionEdits.1 hedit
      obtain rfl : start = token.start := Int.ofNat_inj.1 hstart
      exact .inr ⟨hslice, node, hnode, hmention⟩
  . rintro (hstart | ⟨hslice, node, hnode, hmention⟩)
    . exact .inl (congrArg Int.ofNat hstart.symm)
    . exact .inr ⟨_, mem_mentionEdits.2 ⟨node, hnode, _, hmention, hslice, rfl⟩, rfl⟩

/-- The tokens that read like the name and have no edit on them are those that are not renamed. -/
theorem forall_isOutside_iff {token : Token} (htoken : token ∈ tokens)
    (hname : token.identifierName = head.name) :
    (∀ edit ∈ edits, token.IsOutside edit) ↔ ¬ IsRenamed (scopeOf place) head token := by
  have := hsited.lawful
  have hword := isWord_name hsited hplace hform
  obtain ⟨index, hindex, rfl⟩ := hsited.exists_index htoken (hname ▸ hword)
  rw [← exists_edit_iff hsited hplace hform hedits htoken hname]
  constructor
  . rintro houtside ⟨edit, hedit, hstart⟩
    have honToken := onToken_of_mem_edits hsited hplace hform hedits hedit
    exact (honToken.isOutside_iff hindex).1 (houtside edit hedit) hstart
  . intro hnone edit hedit
    have honToken := onToken_of_mem_edits hsited hplace hform hedits hedit
    exact (honToken.isOutside_iff hindex).2 fun hstart => hnone ⟨edit, hedit, hstart⟩

/-- The edits of the fix lie in the part of the tree where the method is renamed and lengthen it. -/
theorem lengthens_of_mem_edits (hmethod : place.node ∈ (scopeOf place).preorder) {edit : Edit}
    (hedit : edit ∈ edits) : edit.Lengthens (scopeOf place).extent := by
  have hscope := scopeOf_mem hplace
  have hword := isWord_name hsited hplace hform
  have howned {node : Node} {extent : Extent} (hnode : node ∈ (scopeOf place).preorder)
      (hkind : node.kind ≠ .otherStmt) (howns : node.Owns extent) :
      extent.IsInside (scopeOf place).extent := by
    have hinside := hsited.extent_le_of_mem_preorder hscope hnode hkind
    exact ⟨Nat.le_trans hinside.1 howns.start_le, Nat.le_trans howns.stop_le hinside.2⟩
  have hall : ∀ edit ∈ ⟨head.nameExtent.start, head.nameExtent.stop, head.name ++ ending⟩ ::
      mentionEdits file head.name (scopeOf place), edit.Lengthens (scopeOf place).extent := by
    intro edit hedit
    rw [List.mem_cons, mem_mentionEdits] at hedit
    rcases hedit with rfl | ⟨node, hnode, start, hmention, _, rfl⟩
    . obtain ⟨index, _, ⟨_, hname, hextent⟩, _⟩ := hsited.methodDecl hplace.node hform
      have hkind : place.node.kind ≠ .otherStmt := by simp [Node.kind, hform, Form.kind]
      have hinside := howned hmethod hkind (hsited.owns_name hplace.node hform).1
      -- a declared name may stand behind a mark, which the edit takes in
      have hlength := (length_identifierName (tokenAt tokens.toArray index)).2
      rw [← hname] at hlength
      rw [hextent] at hinside ⊢
      exact lengthens_rename hinside (Nat.le_add_right _ _) (Nat.add_le_add_left hlength _)
    . obtain ⟨_, hkind, index, _, rfl, hname, howns⟩ :=
        exists_index_of_mention? hsited (Node.preorder_subset hscope node hnode) hword hmention
      have hinside := howned hnode hkind howns
      have hlength := (length_identifierName (tokenAt tokens.toArray index)).1
      rw [hname] at hlength
      have hmentioned : Extent.IsInside ⟨startAt tokens.toArray index,
          startAt tokens.toArray index + head.name.length⟩ (scopeOf place).extent :=
        ⟨hinside.start_le, Nat.le_trans (Nat.add_le_add_left hlength _) hinside.stop_le⟩
      exact lengthens_rename hmentioned (Nat.le_add_right _ _) (Nat.le_succ _)
  rw [hedits] at hedit
  exact (distinctEdits_apart hall).1 edit hedit

omit hedits in
/--
The name is left where a node of the part of the tree has it that is not the method: another method,
or a mention that is written with a mark.
-/
theorem exists_isLeft {other : Node} (hother : other ∈ (scopeOf place).preorder)
    (hne : other ≠ place.node) (hinvolves : Involves head.name other)
    (hmarked : ∀ start, mention? head.name other = some start →
      file.source.slice ⟨start, start + head.name.length⟩ ≠ head.name) :
    ∃ token ∈ tokens, IsLeft (scopeOf place) head token := by
  have := hsited.lawful
  have hscope := scopeOf_mem hplace
  have hword := isWord_name hsited hplace hform
  have hmem := Node.preorder_subset hscope other hother
  obtain ⟨hkind, hkind', index, hindex, hname, howns⟩ :=
    exists_index_of_involves hsited hmem hword hinvolves
  have htoken := tokenAt_mem_of_tiles hsited.tiles (Nat.le_of_lt hindex)
  have hinside := hsited.extent_le_of_mem_preorder hscope hother hkind'
  refine ⟨_, htoken, hname, ⟨Nat.le_trans hinside.1 howns.start_le,
    Nat.le_trans howns.stop_le hinside.2⟩, ?_⟩
  -- no other node has the token for itself
  have hunique {node : Node} {index' : Nat} (hnode : node ∈ root.preorder)
      (hkinds : node.kind ≠ .compilationUnit ∧ node.kind ≠ .otherStmt)
      (hindex' : index' < last tokens.toArray)
      (hstart : (tokenAt tokens.toArray index).start = startAt tokens.toArray index')
      (howns' : node.Owns (tokenAt tokens.toArray index').extent) : other = node := by
    obtain rfl := hsited.eq_of_startAt_eq hindex hindex' hstart
    apply Classical.byContradiction
    intro hne
    exact hsited.ne_of_owns hmem hnode ⟨hkind, hkind'⟩ hkinds hne howns howns' rfl
  rintro (hstart | ⟨htext, node, hnode, hmention⟩)
  . obtain ⟨index', _, ⟨hidentifier, _, hextent⟩, _⟩ := hsited.methodDecl hplace.node hform
    have hnamed := (hsited.owns_name hplace.node hform).1
    rw [hextent] at hstart hnamed
    have hkinds : place.node.kind ≠ .compilationUnit ∧ place.node.kind ≠ .otherStmt := by
      simp [Node.kind, hform, Form.kind]
    exact hne (hunique hplace.node hkinds (lt_last_of_isIdentifier hidentifier) hstart hnamed)
  . have hnode := Node.preorder_subset hscope node hnode
    obtain ⟨hnodeKind, hnodeKind', index', hindex', hstart, _, howns'⟩ :=
      exists_index_of_mention? hsited hnode hword hmention
    obtain rfl := hunique hnode ⟨hnodeKind, hnodeKind'⟩ hindex' hstart howns'
    apply hmarked _ hmention
    have hwritten := (hsited.text_eq_iff_slice_eq htoken (hname ▸ hword)).1 (htext.trans hname.symm)
    rw [hname] at hwritten
    exact hwritten

/-- The renamed part of the text has the name left where the part of the tree has. -/
theorem exists_named_iff (hmethod : place.node ∈ (scopeOf place).preorder) {others : List Token}
    (hkept : Edit.KeepTokens edits tokens others) (hmade : Edit.MakeTokens edits tokens others) :
    (∃ token ∈ tokens, IsLeft (scopeOf place) head token) ↔
      ∃ other ∈ others, other.identifierName = head.name ∧
        other.extent.IsInside (Edit.carried edits (scopeOf place).extent) := by
  have hinside := fun edit (hedit : edit ∈ edits) =>
    lengthens_of_mem_edits hsited hplace hform hedits hmethod hedit
  have hword := isWord_name hsited hplace hform
  -- a token that is moved is in the renamed part if it was in the part of the tree
  have hmovedIff {token other : Token} (htoken : token ∈ tokens)
      (hnamed : token.identifierName = head.name) (htext : other.text = token.text)
      (hmoved : other.start = token.start + Edit.shift edits token.start) :
      other.identifierName = head.name ∧
        (other.extent.IsInside (Edit.carried edits (scopeOf place).extent) ↔
          token.extent.IsInside (scopeOf place).extent) := by
    obtain ⟨index, hindex, rfl⟩ := hsited.exists_index htoken (hnamed ▸ hword)
    constructor
    . rw [← hnamed]
      unfold identifierName
      rw [htext]
    . apply Edit.isInside_carried_iff hinside
        (hsited.stop_le_or_le_start (scopeOf_mem hplace) hindex) hmoved
      unfold Token.extent Token.stop
      rw [htext]
      dsimp only
      omega
  constructor
  . rintro ⟨token, htoken, hnamed, hwithin, hnot⟩
    have houtside := (forall_isOutside_iff hsited hplace hform hedits htoken hnamed).2 hnot
    obtain ⟨other, hother, _, htext, hmoved⟩ := hkept token htoken houtside
    obtain ⟨hname, hiff⟩ := hmovedIff htoken hnamed htext hmoved
    exact ⟨other, hother, hname, hiff.2 hwithin⟩
  . rintro ⟨other, hother, hname, hwithin⟩
    obtain ⟨token, htoken, houtside, _, htext, hmoved⟩ | ⟨edit, hedit, _, _, _, _, token, htoken,
        hdivides, _, htext⟩ := hmade other hother
    . have hnamed : token.identifierName = head.name := by
        rw [← hname]
        unfold identifierName
        rw [htext]
      exact ⟨token, htoken, hnamed, (hmovedIff htoken hnamed htext hmoved).2.1 hwithin,
        (forall_isOutside_iff hsited hplace hform hedits htoken hnamed).1 houtside⟩
    . -- the token of an edit is the new name
      rw [replacement_of_mem_edits hedits hedit] at hdivides
      have hrenamed := isWord_renamed hword
      have hnew := htext.trans (hdivides.text_eq_of_isWord hrenamed token htoken)
      rw [identifierName_of_isWord (hnew ▸ hrenamed), hnew] at hname
      have hlength := congrArg String.length hname
      rw [String.length_append] at hlength
      have hending : ending.length = 5 := by decide
      omega

end

end AsyncNaming

end ThreadLint
