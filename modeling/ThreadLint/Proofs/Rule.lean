import ThreadLint.Proofs.Except
import ThreadLint.Proofs.Template
import ThreadLint.Proofs.Tree.Place
import ThreadLint.Rule

/-!
This module contains what rules promise of their findings: that spans and edits lie inside the text,
that edits of one fix do not conflict, and that no field of a message lacks a value.
-/

namespace ThreadLint

/--
Whether an edit replaces characters of a text of some length.
-/
structure Edit.Inside (edit : Edit) (length : Nat) : Prop where
  start_nonneg : 0 ≤ edit.start
  start_le_stop : edit.start ≤ edit.stop
  stop_le : edit.stop ≤ length

/--
Whether all edits of a fix replace characters of a text of some length.
-/
def Fix.Inside (fix : Fix) (length : Nat) : Prop :=
  ∀ edit ∈ fix.edits, edit.Inside length

/--
What is promised of a hit: it lies inside the text, it has values for some fields of a message, and
its fix can be made.
-/
structure Hit.Sound (hit : Hit) (length : Nat) (names : List String) : Prop where
  span : hit.span.stop ≤ length
  values : hit.values.map Prod.fst = names
  fix : Keeps (fun fix => ∀ made ∈ fix, made.Inside length) hit.fix

/--
Whether a matcher keeps its promises at all places of all trees of texts, whatever names are bound
to.
-/
def Matcher.Sound (matcher : Matcher) (names : List String) : Prop :=
  ∀ {root : Node} {tokens : List Token} {file : BoundFile} {place : Place},
    Sited file.source tokens root → place.Within root →
      Keeps (fun hit => ∀ found ∈ hit, found.Sound file.source.length names) (matcher file place)

theorem keeps_none {α : Type} {P : α → Prop} :
    Keeps (fun result : Option α => ∀ a ∈ result, P a) (pure none) := by
  apply Keeps.pure
  simp

/-! ### Spans -/

theorem Source.span_keeps {source : Source} {start stop : Nat} (h : start ≤ stop)
    (hstop : stop ≤ source.length) :
    Keeps (fun span => span.stop ≤ source.length) (source.span start stop) := by
  rw [source.span_eq_ok h]
  exact hstop

/-! ### Fixes -/

theorem Edit.inside_of_le {start stop length : Nat} {replacement : String} (h : start ≤ stop)
    (hstop : stop ≤ length) : Edit.Inside ⟨start, stop, replacement⟩ length := by
  constructor
  case start_nonneg => exact Int.natCast_nonneg start
  case start_le_stop => exact Int.ofNat_le.2 h
  case stop_le => exact Int.ofNat_le.2 hstop

theorem Fix.ofEdits_keeps {description : String} {edits : List Edit} {length : Nat}
    (hne : edits ≠ []) (hpair : edits.Pairwise fun edit other => edit.conflictsWith other = false)
    (hinside : ∀ edit ∈ edits, edit.Inside length) :
    Keeps (fun fix => fix.Inside length) (Fix.ofEdits description edits) := by
  unfold Fix.ofEdits
  rw [dif_pos hne, dif_pos hpair]
  exact hinside

theorem Fix.some_ofEdits_keeps {description : String} {edits : List Edit} {length : Nat}
    (hne : edits ≠ []) (hpair : edits.Pairwise fun edit other => edit.conflictsWith other = false)
    (hinside : ∀ edit ∈ edits, edit.Inside length) :
    Keeps (fun fix => ∀ made ∈ fix, made.Inside length) (some <$> Fix.ofEdits description edits) := by
  apply (Fix.ofEdits_keeps hne hpair hinside).map
  intro fix hfix made hmade
  cases hmade
  exact hfix

theorem Fix.single_keeps {description : String} {edit : Edit} {length : Nat}
    (hinside : edit.Inside length) :
    Keeps (fun fix => ∀ made ∈ fix, made.Inside length) (some <$> Fix.ofEdits description [edit]) := by
  apply Fix.some_ofEdits_keeps (List.cons_ne_nil _ _) (List.pairwise_singleton _ _)
  intro other hother
  rw [List.mem_singleton] at hother
  rw [hother]
  exact hinside

/-! ### Hits -/

theorem Hit.span_keeps {source : Source} {start stop : Nat} {values : List (String × String)}
    {fix : Except Fault (Option Fix)} (h : start ≤ stop) (hstop : stop ≤ source.length)
    (hfix : Keeps (fun fix => ∀ made ∈ fix, made.Inside source.length) fix) :
    Keeps (fun hit : Option Hit => ∀ found ∈ hit, found.Sound source.length (values.map Prod.fst))
      (source.span start stop >>= fun span => pure (some (⟨span, values, fix⟩ : Hit))) := by
  apply (Source.span_keeps h hstop).bind
  intro span hspan
  apply Keeps.pure
  intro hit hhit
  cases hhit
  exact ⟨hspan, rfl, hfix⟩

theorem Hit.spanOf_keeps {source : Source} {extent : Extent} {values : List (String × String)}
    {fix : Except Fault (Option Fix)}
    (h : extent.start ≤ extent.stop ∧ extent.stop ≤ source.length)
    (hfix : Keeps (fun fix => ∀ made ∈ fix, made.Inside source.length) fix) :
    Keeps (fun hit : Option Hit => ∀ found ∈ hit, found.Sound source.length (values.map Prod.fst))
      (source.spanOf extent >>= fun span => pure (some (⟨span, values, fix⟩ : Hit))) :=
  Hit.span_keeps h.1 h.2 hfix

/-! ### Parts of a tree -/

namespace Sited

open ThreadLint.Parser

variable {source : Source} {tokens : List Token} {root : Node} (h : Sited source tokens root)

include h

theorem fits {node : Node} (hmem : node ∈ root.preorder) {form : Form} (hform : node.form = form)
    (hkind : form.kind ≠ .compilationUnit ∧ form.kind ≠ .otherStmt) :
    ∃ first stop, stop ≤ last tokens.toArray ∧
      Fits tokens.toArray first stop node.children form := by
  rw [← hform] at hkind
  obtain ⟨first, stop, hwhole⟩ := (h.located hmem hkind.1).whole hkind.2
  obtain ⟨_, hlast, _, hfits, _⟩ := whole_iff.1 hwhole
  rw [hform] at hfits
  exact ⟨first, stop, hlast, hfits⟩

theorem extent_le_of_mem_children {node child : Node} (hmem : node ∈ root.preorder)
    (hchild : child ∈ node.children) :
    child.extent.start ≤ child.extent.stop ∧ child.extent.stop ≤ source.length :=
  h.extent_le (Node.mem_preorder_of_mem_children hmem hchild)

theorem startAt_le {index : Nat} (hindex : index ≤ last tokens.toArray) :
    startAt tokens.toArray index ≤ source.length :=
  Nat.le_trans (start_le_stop _ index) (stopAt_le_of_tiles h.tiles hindex)

theorem within_le {lo hi : Nat} {extent : Extent}
    (hextent : Parser.Within tokens.toArray lo hi extent) (hhi : hi ≤ last tokens.toArray) :
    startAt tokens.toArray lo ≤ extent.start ∧ extent.start ≤ extent.stop ∧
      extent.stop ≤ startAt tokens.toArray hi ∧ extent.stop ≤ source.length := by
  have := h.lawful
  obtain ⟨first, stop, hfirst, hlt, hstop, rfl⟩ := hextent
  refine ⟨start_le_start hfirst (by omega), extentOf_le hlt (by omega), ?_, ?_⟩
  . exact stop_le_start (by omega) hhi
  . exact stopAt_le_of_tiles h.tiles (by omega)

theorem nameExtent_le {node : Node} (hmem : node ∈ root.preorder) {extent : Extent}
    (hextent : node.form.nameExtent? = some extent) :
    extent.start ≤ extent.stop ∧ extent.stop ≤ source.length := by
  have := h.lawful
  have hkind : node.kind ≠ .compilationUnit := by
    unfold Node.kind
    cases hform : node.form
    all_goals simp_all [Form.kind, Form.nameExtent?]
  have := (h.located hmem hkind).nameExtent_le hextent
  have := (h.extent_le hmem).2
  omega

theorem isWord_of_isName {index : Nat} {name : String} {extent : Extent}
    (hname : IsName tokens.toArray index name extent) : Token.IsWord name := by
  have := h.lawful
  obtain ⟨hidentifier, rfl, _⟩ := hname
  have hlast := lt_last_of_isIdentifier hidentifier
  exact h.tiles.isWord_identifierName (tokenAt_mem_of_tiles h.tiles (Nat.le_of_lt hlast)) hidentifier

theorem methodDecl {node : Node} (hmem : node ∈ root.preorder) {head : MethodHead}
    (hform : node.form = .methodDecl head) :
    ∃ index, index < last tokens.toArray ∧ IsName tokens.toArray index head.name head.nameExtent ∧
      ∀ result ∈ head.returnType, result.2.start ≤ result.2.stop ∧
        result.2.stop ≤ head.nameExtent.start := by
  obtain ⟨first, stop, hlast, index, _, hindex, hname, _, hresult⟩ :=
    h.fits hmem hform (by simp [Form.kind])
  refine ⟨index, by omega, hname, ?_⟩
  intro result hmem
  have := h.within_le (hresult result hmem).1.within (by omega)
  rw [hname.2.2]
  exact ⟨this.2.1, this.2.2.1⟩

theorem classDecl {node : Node} (hmem : node ∈ root.preorder) {head : TypeHead}
    (hform : node.form = .classDecl head) :
    ∀ base ∈ head.bases, base.2.start ≤ base.2.stop ∧ base.2.stop ≤ source.length := by
  obtain ⟨first, stop, hlast, hfits⟩ := h.fits hmem hform (by simp [Form.kind])
  intro base hbase
  have := h.within_le (hfits.2 base hbase).1.within hlast
  exact ⟨this.2.1, this.2.2.2⟩

theorem attributeUse {node : Node} (hmem : node ∈ root.preorder) {name : String} {nameStop : Nat}
    {closer : Option Nat} (hform : node.form = .attributeUse name nameStop closer) :
    nameStop ≤ source.length ∧ ∀ start ∈ closer, start ≤ source.length := by
  obtain ⟨first, stop, hlast, ⟨index, _, hindex, rfl⟩, hcloser, _⟩ :=
    h.fits hmem hform (by simp [Form.kind])
  refine ⟨stopAt_le_of_tiles h.tiles (by omega), ?_⟩
  intro start hstart
  obtain ⟨index', _, hindex', rfl⟩ := hcloser start hstart
  exact h.startAt_le (by omega)

/-- A block has a brace at least. -/
theorem block {node : Node} (hmem : node ∈ root.preorder) (hkind : node.kind = .block) :
    node.extent.start < source.length := by
  have := h.lawful
  obtain ⟨first, stop, hwhole⟩ := (h.located hmem (by simp [hkind])).whole (by simp [hkind])
  obtain ⟨hlt, hlast, hextent, _⟩ := whole_iff.1 hwhole
  have : startAt tokens.toArray first < stopAt tokens.toArray first :=
    Lawful.start_lt_stop first (by omega)
  have : stopAt tokens.toArray first ≤ source.length := stopAt_le_of_tiles h.tiles (by omega)
  rw [hextent, extentOf]
  dsimp only
  omega

end Sited

end ThreadLint
