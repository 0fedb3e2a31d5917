import ThreadLint.Proofs.Rule.Matcher
import ThreadLint.Proofs.Tree.Order
import ThreadLint.Rule.AsyncNaming
import ThreadLint.Rule.Catalogue

/-!
This module contains that findings with a fix are told apart by where they are: no rule reports two
of them between the same ends.
-/

namespace ThreadLint

/-! ### Extents that are a node's own -/

namespace Parser

variable {tokens : Array Token} [Lawful tokens]

theorem Whole.owns {first stop index : Nat} {node : Node} {extent : Extent}
    (h : Whole tokens first stop node) (hindex : index < stop)
    (hclear : Clear node.children (tokenAt tokens index).extent)
    (hstart : node.extent.start ≤ extent.start ∧ extent.start ≤ startAt tokens index)
    (hstop : stopAt tokens index ≤ extent.stop ∧ extent.stop ≤ node.extent.stop) :
    node.Owns extent := by
  obtain ⟨_, hlast, _⟩ := whole_iff.1 h
  have hlt : startAt tokens index < stopAt tokens index := Lawful.start_lt_stop index (by omega)
  exact ⟨hstart.1, hstop.2, (tokenAt tokens index).extent, hlt, hstart.2, hstop.1, hclear⟩

theorem Whole.owns_extent {first stop index : Nat} {node : Node} (h : Whole tokens first stop node)
    (hindex : first ≤ index ∧ index < stop)
    (hclear : Clear node.children (tokenAt tokens index).extent) : node.Owns node.extent := by
  obtain ⟨_, hlast, hextent, _⟩ := whole_iff.1 h
  apply h.owns hindex.2 hclear
  . rw [hextent]
    exact ⟨Nat.le_refl _, start_le_start hindex.1 (by omega)⟩
  . rw [hextent]
    exact ⟨stop_le_stop (by omega) (by omega), Nat.le_refl _⟩

end Parser

namespace Sited

open ThreadLint.Parser

variable {source : Source} {tokens : List Token} {root node : Node}
  (h : Sited source tokens root) (hmem : node ∈ root.preorder)

include h hmem

theorem whole (hkind : node.kind ≠ .compilationUnit ∧ node.kind ≠ .otherStmt) :
    ∃ first stop, Whole tokens.toArray first stop node :=
  (h.located hmem hkind.1).whole hkind.2

theorem owns_extent
    (hkind : node.kind ∈ [.callExpr, .memberAccess, .variableDeclarator, .attributeUse, .paren]) :
    node.Owns node.extent := by
  have := h.lawful
  obtain ⟨first, stop, hwhole⟩ := h.whole hmem (by
    constructor
    . intro heq
      simp [heq] at hkind
    . intro heq
      simp [heq] at hkind)
  obtain ⟨hlt, _, _, hfits, _⟩ := whole_iff.1 hwhole
  unfold Node.kind at hkind
  cases hform : node.form
  case callExpr =>
    rw [hform] at hfits
    obtain ⟨index, hfirst, hstop, hclear, _⟩ := hfits
    exact hwhole.owns_extent ⟨hfirst, hstop⟩ hclear
  case memberAccess =>
    rw [hform] at hfits
    obtain ⟨index, hfirst, hstop, ⟨_, _, rfl⟩, hclear, _⟩ := hfits
    exact hwhole.owns_extent ⟨by omega, hstop⟩ hclear
  case variableDeclarator =>
    rw [hform] at hfits
    obtain ⟨⟨_, _, rfl⟩, hclear⟩ := hfits
    exact hwhole.owns_extent ⟨Nat.le_refl _, hlt⟩ hclear
  case attributeUse =>
    rw [hform] at hfits
    obtain ⟨_, _, hclear⟩ := hfits
    exact hwhole.owns_extent ⟨Nat.le_refl _, hlt⟩ hclear
  case paren =>
    rw [hform] at hfits
    exact hwhole.owns_extent ⟨Nat.le_refl _, hlt⟩ hfits.2
  all_goals simp [hform, Form.kind] at hkind

theorem owns_base {head : TypeHead} (hform : node.form = .classDecl head) :
    ∀ base ∈ head.bases, node.Owns base.2 := by
  have := h.lawful
  obtain ⟨first, stop, hwhole⟩ := h.whole hmem (by simp [Node.kind, hform, Form.kind])
  obtain ⟨_, hlast, hextent, hfits, _⟩ := whole_iff.1 hwhole
  rw [hform] at hfits
  intro base hbase
  obtain ⟨⟨lo, hi, hlo, hlt, hhi, heq, _⟩, hclear⟩ := hfits.2 base hbase
  have hown : (extentOf tokens.toArray lo hi).start < (extentOf tokens.toArray lo hi).stop := by
    have hfirst : startAt tokens.toArray lo < stopAt tokens.toArray lo :=
      Lawful.start_lt_stop lo (by omega)
    exact Nat.lt_of_lt_of_le hfirst (stop_le_stop (by omega) (by omega))
  rw [← heq] at hown
  refine ⟨?_, ?_, base.2, hown, Nat.le_refl _, Nat.le_refl _, hclear⟩
  . rw [hextent, heq]
    exact start_le_start hlo (by omega)
  . rw [hextent, heq]
    exact stop_le_stop (by omega) (by omega)

theorem owns_name {head : MethodHead} (hform : node.form = .methodDecl head) :
    node.Owns head.nameExtent ∧
      ∀ result ∈ head.returnType, node.Owns ⟨result.2.start, head.nameExtent.stop⟩ := by
  have := h.lawful
  obtain ⟨first, stop, hwhole⟩ := h.whole hmem (by simp [Node.kind, hform, Form.kind])
  obtain ⟨_, hlast, hextent, hfits, _⟩ := whole_iff.1 hwhole
  rw [hform] at hfits
  obtain ⟨index, hfirst, hstop, ⟨_, _, hname⟩, hclear, hresults⟩ := hfits
  have hbefore : node.extent.start ≤ startAt tokens.toArray index := by
    rw [hextent]
    exact start_le_start hfirst (by omega)
  have hbehind : stopAt tokens.toArray index ≤ node.extent.stop := by
    rw [hextent]
    exact stop_le_stop (by omega) (by omega)
  rw [hname] at hclear ⊢
  refine ⟨hwhole.owns hstop hclear ⟨hbefore, Nat.le_refl _⟩ ⟨Nat.le_refl _, hbehind⟩, ?_⟩
  intro result hresult
  obtain ⟨lo, hi, hlo, hlt, hhi, heq, _⟩ := (hresults result hresult).1
  have hstart : result.2.start = startAt tokens.toArray lo := by
    rw [heq, extentOf]
  apply hwhole.owns hstop hclear _ ⟨Nat.le_refl _, hbehind⟩
  rw [hstart, hextent]
  exact ⟨start_le_start hlo (by omega), start_le_start (by omega) (by omega)⟩

end Sited

/-! ### Matchers -/

/--
Whether two fixable hits of a matcher at nodes of some kinds never lie between the same ends, unless
they are found at the same place.
-/
def Matcher.TellsApart (matcher : Matcher) (kinds : List NodeKind) : Prop :=
  ∀ {root : Node} {tokens : List Token} {file : BoundFile} {place other : Place} {hit found : Hit}
    {fix fix' : Fix}, Sited file.source tokens root → place.Within root → other.Within root →
      place.node.kind ∈ kinds → other.node.kind ∈ kinds → place.node.Precedes other.node →
      matcher file place = .ok (some hit) → hit.fix = .ok (some fix) →
      matcher file other = .ok (some found) → found.fix = .ok (some fix') →
        hit.span.extent ≠ found.span.extent

/--
Whether every fixable hit of a matcher at a node of some kinds has characters that are no part of the
children of the node that a relation finds for its place.
-/
def Matcher.Marks (matcher : Matcher) (kinds : List NodeKind) (home : Node → Node → Prop) : Prop :=
  ∀ {root : Node} {tokens : List Token} {file : BoundFile} {place : Place} {hit : Hit} {fix : Fix},
    Sited file.source tokens root → place.Within root → place.node.kind ∈ kinds →
      matcher file place = .ok (some hit) → hit.fix = .ok (some fix) →
      ∃ node, home place.node node ∧ node.Owns hit.span.extent

/--
Whether a node is a child of some kind.
-/
def Node.IsPart (kind : NodeKind) (node part : Node) : Prop :=
  part ∈ node.children ∧ part.kind = kind

namespace Matcher

variable {matcher : Matcher} {kinds : List NodeKind}

theorem Marks.tellsApart (h : matcher.Marks kinds Eq)
    (hkinds : .compilationUnit ∉ kinds ∧ .otherStmt ∉ kinds) : matcher.TellsApart kinds := by
  intro root tokens file place other hit found fix fix' hsited hplace hother hkind hkind' hprecedes
    hhit hfix hfound hfix'
  have := hsited.lawful
  obtain ⟨_, rfl, howns⟩ := h hsited hplace hkind hhit hfix
  obtain ⟨_, rfl, howns'⟩ := h hsited hother hkind' hfound hfix'
  have hlocated := hsited.located hplace.node fun heq => hkinds.1 (heq ▸ hkind)
  exact hlocated.ne_of_precedes (fun heq => hkinds.2 (heq ▸ hkind')) howns howns' hprecedes

theorem Marks.tellsApart_parts {part : NodeKind} (h : matcher.Marks kinds (Node.IsPart part))
    (hkinds : .compilationUnit ∉ kinds ∧ .otherStmt ∉ kinds ∧ part ∉ kinds)
    (hpart : part ≠ .compilationUnit ∧ part ≠ .otherStmt) : matcher.TellsApart kinds := by
  intro root tokens file place other hit found fix fix' hsited hplace hother hkind hkind' hprecedes
    hhit hfix hfound hfix'
  have := hsited.lawful
  obtain ⟨home, ⟨hhome, hhomeKind⟩, howns⟩ := h hsited hplace hkind hhit hfix
  obtain ⟨home', ⟨hhome', hhomeKind'⟩, howns'⟩ := h hsited hother hkind' hfound hfix'
  have hlocated := hsited.located hplace.node fun heq => hkinds.1 (heq ▸ hkind)
  have hlocated' := hsited.located hother.node fun heq => hkinds.1 (heq ▸ hkind')
  have hstmt : other.node.kind ≠ .otherStmt := fun heq => hkinds.2.1 (heq ▸ hkind')
  have hne : home.kind ≠ other.node.kind := fun heq => hkinds.2.2 (hhomeKind ▸ heq ▸ hkind')
  rw [← hhomeKind] at hpart
  have hpart' : home'.kind ≠ .otherStmt := by
    rw [hhomeKind', ← hhomeKind]
    exact hpart.2
  have hhomeLocated := hsited.located (Node.mem_preorder_of_mem_children hplace.node hhome) hpart.1
  have hhomeLocated' := hsited.located (Node.mem_preorder_of_mem_children hother.node hhome')
    (by rw [hhomeKind', ← hhomeKind]; exact hpart.1)
  cases hlocated.precedes_of_mem_children hlocated' hstmt hhome hhome' ⟨hne, hpart.2, hpart'⟩
    hprecedes with
  | inl hfront => exact hhomeLocated.ne_of_precedes hpart' howns howns' hfront
  | inr hback => exact (hhomeLocated'.ne_of_precedes hpart.2 howns' howns hback).symm

end Matcher

/-! ### Hits -/

theorem Source.extent_of_span {source : Source} {start stop : Nat} {span : Span}
    (h : source.span start stop = .ok span) : span.extent = ⟨start, stop⟩ := by
  unfold Source.span Span.ofBounds at h
  split at h
  . cases h
    rfl
  . cases h

theorem Hit.eq_of_span {source : Source} {start stop : Nat} {values : List (String × String)}
    {fix : Except Fault (Option Fix)} {hit : Hit}
    (h : (source.span start stop >>= fun span => pure (some (⟨span, values, fix⟩ : Hit)))
      = .ok (some hit)) : hit.span.extent = ⟨start, stop⟩ ∧ hit.fix = fix := by
  obtain ⟨span, hspan, h⟩ := bind_eq_ok.1 h
  cases h
  exact ⟨Source.extent_of_span hspan, rfl⟩

theorem Hit.eq_of_spanOf {source : Source} {extent : Extent} {values : List (String × String)}
    {fix : Except Fault (Option Fix)} {hit : Hit}
    (h : (source.spanOf extent >>= fun span => pure (some (⟨span, values, fix⟩ : Hit)))
      = .ok (some hit)) : hit.span.extent = extent ∧ hit.fix = fix :=
  Hit.eq_of_span h

theorem Fix.edits_of_ofEdits {description : String} {edits : List Edit} {fix : Fix}
    (h : some <$> Fix.ofEdits description edits = .ok (some fix)) : fix.edits = edits := by
  unfold ofEdits at h
  split at h
  . split at h
    . cases h
      rfl
    . cases h
  . cases h

/-! ### The rules -/

section

variable {file : BoundFile} {place : Place} {hit : Hit}

namespace AsyncVoid

theorem matcher_eq_ok (h : matcher file place = .ok (some hit)) :
    ∃ head result, place.node.form = .methodDecl head ∧ head.returnType = some ("void", result) ∧
      hit.span.extent = ⟨result.start, head.nameExtent.stop⟩ ∧
      ∀ fix, hit.fix = .ok (some fix) →
        fix.edits = [⟨result.start, result.stop, file.qualify Symbol.tasks "Task"⟩] := by
  unfold matcher at h
  split at h
  . next head hform =>
    split at h
    . cases h
    . split at h
      . next result hresult =>
        split at h
        . cases h
        . obtain ⟨hspan, hfix⟩ := Hit.eq_of_span h
          refine ⟨head, result, hform, hresult, hspan, ?_⟩
          intro fix hmade
          rw [hfix] at hmade
          exact Fix.edits_of_ofEdits hmade
      . cases h
  . cases h

theorem marks : matcher.Marks [.methodDecl] Eq := by
  intro root tokens file place hit fix hsited hplace _ hhit _
  obtain ⟨head, result, hform, hresult, hspan, _⟩ := matcher_eq_ok hhit
  rw [hspan]
  exact ⟨_, rfl, (hsited.owns_name hplace.node hform).2 ("void", result) hresult⟩

end AsyncVoid

namespace AsyncNaming

theorem matcher_eq_ok (h : matcher file place = .ok (some hit)) :
    ∃ head, place.node.form = .methodDecl head ∧ hit.span.extent = head.nameExtent ∧
      Text.endsWith head.name ending = false ∧ hit.fix = fix file place head := by
  unfold matcher at h
  split at h
  . next head hform =>
    split at h
    . split at h
      . cases h
      . split at h
        . cases h
        . next hending =>
          simp only [Bool.or_eq_true, not_or, Bool.not_eq_true] at hending
          obtain ⟨hspan, hfix⟩ := Hit.eq_of_spanOf h
          exact ⟨head, hform, hspan, hending.1, hfix⟩
    . cases h
  . cases h

theorem marks : matcher.Marks [.methodDecl] Eq := by
  intro root tokens file place hit fix hsited hplace _ hhit _
  obtain ⟨head, hform, hspan, _⟩ := matcher_eq_ok hhit
  rw [hspan]
  exact ⟨_, rfl, (hsited.owns_name hplace.node hform).1⟩

end AsyncNaming

namespace CommandHandler

theorem matcher_eq_ok (h : matcher file place = .ok (some hit)) :
    ∃ head body, place.node.form = .methodDecl head ∧ place.node.methodBody? = some body ∧
      body.kind = .block ∧ hit.span.extent = head.nameExtent ∧
      body.children.head?.any (assertsUIThread file) = false ∧
      ∀ fix, hit.fix = .ok (some fix) → fix.edits = [assertion file body] := by
  unfold matcher at h
  extract_lets node at h
  split at h
  . next head hform =>
    split at h
    . cases h
    . split at h
      . next body hbody =>
        split at h
        . cases h
        . next hkind =>
          split at h
          . cases h
          . next hasserts =>
            obtain ⟨hspan, hfix⟩ := Hit.eq_of_spanOf h
            refine ⟨head, body, hform, hbody, by simpa using hkind, hspan, by simpa using hasserts, ?_⟩
            intro fix hmade
            rw [hfix] at hmade
            exact Fix.edits_of_ofEdits hmade
      . cases h
  . cases h

theorem marks : matcher.Marks [.methodDecl] Eq := by
  intro root tokens file place hit fix hsited hplace _ hhit _
  obtain ⟨head, _, hform, _, _, hspan, _⟩ := matcher_eq_ok hhit
  rw [hspan]
  exact ⟨_, rfl, (hsited.owns_name hplace.node hform).1⟩

end CommandHandler

namespace PackageBase

theorem matcher_eq_ok (h : matcher file place = .ok (some hit)) :
    ∃ head base, place.node.form = .classDecl head ∧
      oldBase? file.binding.scope head = some base ∧ hit.span.extent = base.extent ∧
      hit.fix = fix file base := by
  unfold matcher at h
  split at h
  . next head hform =>
    split at h
    . next base hbase =>
      obtain ⟨hspan, hfix⟩ := Hit.eq_of_spanOf h
      exact ⟨head, base, hform, hbase, hspan, hfix⟩
    . cases h
  . cases h

theorem marks : matcher.Marks [.classDecl] Eq := by
  intro root tokens file place hit fix hsited hplace _ hhit _
  obtain ⟨head, base, hform, hbase, hspan, _⟩ := matcher_eq_ok hhit
  rw [hspan]
  exact ⟨_, rfl, hsited.owns_base hplace.node hform _ (oldBase?_mem hbase)⟩

end PackageBase

namespace BackgroundLoad

theorem matcher_eq_ok (h : matcher file place = .ok (some hit)) :
    ∃ registration ∈ place.node.children, registration.kind = .attributeUse ∧
      hit.span.extent = registration.extent ∧ (setting? registration).any isOn = false ∧
      ∀ fix, hit.fix = .ok (some fix) → fix.edits = [edit registration (setting? registration)] := by
  unfold matcher at h
  split at h
  . split at h
    . cases h
    . split at h
      . next registration hregistration =>
        extract_lets setting at h
        split at h
        . cases h
        . next hoff =>
          obtain ⟨hspan, hfix⟩ := Hit.eq_of_spanOf h
          have hkind : registration.kind = .attributeUse := by
            unfold registration? Node.childrenOf at hregistration
            have := (List.mem_filter.1 (List.mem_of_find?_eq_some hregistration)).2
            simpa using this
          refine ⟨registration, registration?_mem hregistration, hkind, hspan, by simpa using hoff, ?_⟩
          intro fix hmade
          rw [hfix] at hmade
          exact Fix.edits_of_ofEdits hmade
      . cases h
  . cases h

theorem marks : matcher.Marks [.classDecl] (Node.IsPart .attributeUse) := by
  intro root tokens file place hit fix hsited hplace _ hhit _
  obtain ⟨registration, hmem, hkind, hspan, _⟩ := matcher_eq_ok hhit
  rw [hspan]
  refine ⟨registration, ⟨hmem, hkind⟩, ?_⟩
  exact hsited.owns_extent (Node.mem_preorder_of_mem_children hplace.node hmem) (by simp [hkind])

end BackgroundLoad

namespace UnobservedResult

theorem matcher_eq_ok (h : matcher file place = .ok (some hit)) :
    ∃ expression, place.node.children.head? = some expression ∧ expression.kind = .callExpr ∧
      hit.span.extent = expression.extent ∧
      ∀ fix, hit.fix = .ok (some fix) → place.mayAwait = true ∧
        fix.edits = [⟨expression.extent.start, expression.extent.start, "await "⟩] := by
  unfold matcher at h
  split at h
  . next expression hexpression =>
    split at h
    . next call hcall =>
      have hkind : expression.kind = .callExpr := by
        unfold droppedCall? at hcall
        split at hcall
        . cases hcall
        . next hkind => simpa using hkind
      obtain ⟨hspan, hfix⟩ := Hit.eq_of_spanOf h
      refine ⟨expression, hexpression, hkind, hspan, ?_⟩
      intro fix hmade
      rw [hfix] at hmade
      split at hmade
      . next hmay => exact ⟨hmay, Fix.edits_of_ofEdits hmade⟩
      . cases hmade
    . cases h
  . cases h

theorem marks : matcher.Marks [.exprStmt] (Node.IsPart .callExpr) := by
  intro root tokens file place hit fix hsited hplace _ hhit _
  obtain ⟨expression, hhead, hkind, hspan, _⟩ := matcher_eq_ok hhit
  have hmem := List.mem_of_head? hhead
  rw [hspan]
  refine ⟨expression, ⟨hmem, hkind⟩, ?_⟩
  exact hsited.owns_extent (Node.mem_preorder_of_mem_children hplace.node hmem) (by simp [hkind])

end UnobservedResult

namespace BlockingWait

theorem matcher_eq_ok (h : matcher file place = .ok (some hit)) :
    hit.span.extent = place.node.extent ∧
      ∀ fix, hit.fix = .ok (some fix) → place.mayAwait = true ∧ ∃ text,
        awaiting? file place (file.binding.symbolAt? place) = .ok (some text) ∧
        fix.edits = [⟨place.node.extent.start, place.node.extent.stop, text⟩] := by
  unfold matcher at h
  extract_lets entry extent tail at h
  have htail : ∀ awaiting, tail awaiting = .ok (some hit) → hit.span.extent = extent ∧
      ∀ fix, hit.fix = .ok (some fix) →
        ∃ text, awaiting = some text ∧ fix.edits = [⟨extent.start, extent.stop, text⟩] := by
    intro awaiting htail
    obtain ⟨hspan, hfix⟩ := Hit.eq_of_spanOf htail
    refine ⟨hspan, ?_⟩
    intro fix hmade
    rw [hfix] at hmade
    cases awaiting with
    | none => cases hmade
    | some text => exact ⟨text, rfl, Fix.edits_of_ofEdits hmade⟩
  clear_value tail
  split at h
  . cases h
  . split at h
    . next hmay =>
      obtain ⟨awaiting, hawaiting, h⟩ := bind_eq_ok.1 h
      obtain ⟨hspan, hfixes⟩ := htail awaiting h
      refine ⟨hspan, ?_⟩
      intro fix hfix
      obtain ⟨text, rfl, hedits⟩ := hfixes fix hfix
      exact ⟨hmay, text, hawaiting, hedits⟩
    . obtain ⟨hspan, hfixes⟩ := htail none h
      refine ⟨hspan, ?_⟩
      intro fix hfix
      obtain ⟨_, hnone, _⟩ := hfixes fix hfix
      cases hnone

theorem marks : matcher.Marks [.callExpr, .memberAccess] Eq := by
  intro root tokens file place hit fix hsited hplace hkind hhit _
  rw [(matcher_eq_ok hhit).1]
  exact ⟨_, rfl, hsited.owns_extent hplace.node
    (List.mem_append_left [NodeKind.variableDeclarator, .attributeUse, .paren] hkind)⟩

end BlockingWait

namespace ServiceLookup

/-- A hit is a service that a part of a declaration gives a name, or an access without a fix. -/
theorem matcher_eq_ok (h : matcher file place = .ok (some hit)) :
    (place.node.kind = .localDecl ∧ ∃ parent ∈ place.parent?, parent.node.kind = .block ∧
      ∃ part ∈ place.node.children, ∃ name extent, part.form = .variableDeclarator name extent ∧
        hit.span.extent = part.extent ∧ isTakenForPresent place.followingSiblings name = true ∧
        ∀ fix, hit.fix = .ok (some fix) → fix.edits =
          [⟨place.node.extent.stop, place.node.extent.stop,
            "\n" ++ file.indentationOf place.node ++
              (file.qualify "Microsoft" "Assumes.Present" ++ "(" ++ name ++ ");")⟩]) ∨
      (place.node.kind = .memberAccess ∧ hit.span.extent = place.node.extent ∧ hit.fix = .ok none) := by
  unfold matcher at h
  split at h
  . next hdeclares =>
    left
    unfold matchDeclaration at h
    split at h
    . next parent hparent =>
      split at h
      . cases h
      . next hkind =>
        extract_lets services unchecked stop at h
        cases hservice : unchecked with
        | none =>
          rw [hservice] at h
          cases h
        | some service =>
          rw [hservice] at h
          have htaken := List.find?_some hservice
          have hmem : service ∈ services := List.mem_of_find?_eq_some hservice
          obtain ⟨part, hpart, hservice⟩ := List.mem_filterMap.1 hmem
          obtain ⟨hspan, hfix⟩ := Hit.eq_of_spanOf h
          refine ⟨hdeclares, parent, hparent, by simpa using hkind, part, hpart, ?_⟩
          unfold service? at hservice
          split at hservice
          . next name extent hform =>
            simp only [Option.bind_eq_bind, Option.bind_eq_some_iff] at hservice
            obtain ⟨_, _, _, _, heq⟩ := hservice
            cases heq
            refine ⟨name, extent, hform, hspan, htaken, ?_⟩
            intro fix hmade
            rw [hfix] at hmade
            rw [Fix.edits_of_ofEdits hmade]
            simp only [String.append_assoc]
            rfl
          . cases hservice
    . cases h
  . right
    unfold matchAccess at h
    split at h
    . next hform =>
      split at h
      . cases h
      . split at h
        . obtain ⟨hspan, hfix⟩ := Hit.eq_of_spanOf h
          exact ⟨by rw [Node.kind, hform]; rfl, hspan, hfix⟩
        . cases h
    . cases h

theorem marks : matcher.Marks [.localDecl, .memberAccess] (Node.IsPart .variableDeclarator) := by
  intro root tokens file place hit fix hsited hplace _ hhit hfix
  obtain ⟨_, _, _, _, part, hpart, _, _, hform, hspan, _⟩ | ⟨_, _, hnone⟩ := matcher_eq_ok hhit
  . have hkind : part.kind = .variableDeclarator := by
      rw [Node.kind, hform]
      rfl
    rw [hspan]
    refine ⟨part, ⟨hpart, hkind⟩, ?_⟩
    exact hsited.owns_extent (Node.mem_preorder_of_mem_children hplace.node hpart) (by simp [hkind])
  . rw [hnone] at hfix
    cases hfix

end ServiceLookup

end

/-! ### The catalogue -/

/--
Whether the matcher of a definition, if it has one and offers fixes, tells its fixable hits apart.
-/
def RuleDefinition.TellsApart (definition : RuleDefinition) : Prop :=
  definition.offer = .offered → ∀ matcher ∈ definition.matcher, matcher.TellsApart definition.kinds

theorem RuleDefinition.catalogue_tellsApart :
    ∀ definition ∈ catalogue, definition.TellsApart := by
  simp only [catalogue, List.forall_mem_cons]
  refine ⟨?_, ?_, ?_, ?_, ?_, ?_, ?_, ?_, ?_, ?_, by simp⟩
  . rintro _ _ ⟨⟩
    exact BlockingWait.marks.tellsApart (by decide)
  . rintro _ _ ⟨⟩
    exact CommandHandler.marks.tellsApart (by decide)
  . rintro _ _ ⟨⟩
    exact UnobservedResult.marks.tellsApart_parts (by decide) (by decide)
  . rintro _ _ ⟨⟩
    exact AsyncVoid.marks.tellsApart (by decide)
  . rintro _ _ ⟨⟩
    exact ServiceLookup.marks.tellsApart_parts (by decide) (by decide)
  . rintro _ _ ⟨⟩
    exact PackageBase.marks.tellsApart (by decide)
  . rintro _ _ ⟨⟩
    exact BackgroundLoad.marks.tellsApart_parts (by decide) (by decide)
  . rintro ⟨⟩
  . rintro _ _ ⟨⟩
    exact AsyncNaming.marks.tellsApart (by decide)
  . rintro ⟨⟩

end ThreadLint
