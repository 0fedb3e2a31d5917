import ThreadLint.Proofs.LineEnd.Splice
import ThreadLint.Proofs.Rule.Mark
import ThreadLint.Proofs.Rule.Written
import ThreadLint.Proofs.Token.Rim

/-!
This module contains what the fixes of the rules do to line ends. Two of the rules insert a statement
on a line of its own and end or begin that line with a line feed alone. All others keep line ends.
-/

namespace ThreadLint

open ThreadLint.Text
open ThreadLint.Parser

/-! ### Where tokens and nodes begin and end -/

namespace Sited

variable {source : Source} {tokens : List Token} {root node : Node}
  (h : Sited source tokens root)

include h

theorem noFeedBehind_startAt {index : Nat} (hindex : index ≤ last tokens.toArray) :
    NoFeedBehind source.chars (startAt tokens.toArray index) := by
  have := h.lawful
  exact h.tiles.head?_drop_start (tokenAt_mem_of_tiles h.tiles hindex)

theorem noReturnBefore_stopAt {index : Nat} (hindex : index < last tokens.toArray) :
    NoReturnBefore source.chars (stopAt tokens.toArray index) := by
  have := h.lawful
  have hmem := tokenAt_mem_of_tiles h.tiles (Nat.le_of_lt hindex)
  obtain ⟨c, hlast, hc⟩ := h.tiles.getLast?_take_stop hmem (not_isEnd_of_lt_last hindex)
  unfold NoReturnBefore
  rw [stopAt, hlast]
  simpa using hc

theorem noReturnBefore_extent (hmem : node ∈ root.preorder)
    (hkind : node.kind ≠ .compilationUnit ∧ node.kind ≠ .otherStmt) :
    NoReturnBefore source.chars node.extent.stop ∧ node.extent.start < node.extent.stop := by
  have := h.lawful
  obtain ⟨first, stop, hwhole⟩ := h.whole hmem hkind
  obtain ⟨hlt, hlast, hextent, _⟩ := whole_iff.1 hwhole
  rw [hextent]
  refine ⟨h.noReturnBefore_stopAt (by omega), ?_⟩
  have hfirst : startAt tokens.toArray first < stopAt tokens.toArray first :=
    Lawful.start_lt_stop first (by omega)
  exact Nat.lt_of_lt_of_le hfirst (stop_le_stop (by omega) (by omega))

theorem noFeedBehind_extent (hpaired : feedsPaired false source.chars = true)
    (hmem : node ∈ root.preorder) :
    NoFeedBehind source.chars node.extent.start ∧ NoFeedBehind source.chars node.extent.stop := by
  have := h.lawful
  cases h.mem_preorder hmem with
  | inl heq =>
    have hclosed : NoReturnBefore source.chars 0 := by simp [NoReturnBefore]
    rw [heq, h.root_eq]
    refine ⟨hclosed.noFeedBehind hpaired, ?_⟩
    simp [NoFeedBehind, Source.length]
  | inr hlocated =>
    obtain ⟨first, stop, hkept⟩ := hlocated
    cases hkept with
    | inl hwhole =>
      obtain ⟨hlt, hlast, hextent, _⟩ := whole_iff.1 hwhole
      rw [hextent]
      exact ⟨h.noFeedBehind_startAt (by omega),
        (h.noReturnBefore_stopAt (by omega)).noFeedBehind hpaired⟩
    | inr hmissing =>
      rw [hmissing.1.2.2]
      exact ⟨h.noFeedBehind_startAt (Nat.le_refl _), h.noFeedBehind_startAt (Nat.le_refl _)⟩

theorem noFeedBehind_nameExtent (hpaired : feedsPaired false source.chars = true)
    (hmem : node ∈ root.preorder) {extent : Extent} (hextent : node.form.nameExtent? = some extent) :
    NoFeedBehind source.chars extent.stop := by
  have := h.lawful
  have hkind : node.kind ≠ .compilationUnit := by
    unfold Node.kind
    cases hform : node.form
    all_goals simp_all [Form.kind, Form.nameExtent?]
  obtain ⟨_, _, _, _, index, _, _, _, hidentifier, _, heq⟩ :=
    (h.located hmem hkind).isName hextent
  rw [heq]
  exact (h.noReturnBefore_stopAt (lt_last_of_isIdentifier hidentifier)).noFeedBehind hpaired

/-- What follows the brace of a block is not behind a carriage return. -/
theorem noReturnBefore_brace (hmem : node ∈ root.preorder) (hkind : node.kind = .block) :
    NoReturnBefore source.chars (node.extent.start + 1) := by
  have := h.lawful
  obtain ⟨first, stop, hwhole⟩ := h.whole hmem (by simp [hkind])
  obtain ⟨hlt, hlast, hextent, hfits, _⟩ := whole_iff.1 hwhole
  have hform : node.form = .block := by
    unfold Node.kind at hkind
    cases hform : node.form
    all_goals simp_all [Form.kind]
  rw [hform] at hfits
  have hbrace := (Token.isPunct_iff.1 hfits.1).2
  have hstop : node.extent.start + 1 = stopAt tokens.toArray first := by
    have hstart : node.extent.start = startAt tokens.toArray first := by
      rw [hextent, extentOf]
    rw [List.mem_singleton] at hbrace
    rw [hstart, stopAt, Token.stop, hbrace]
    rfl
  rw [hstop]
  exact h.noReturnBefore_stopAt (by omega)

theorem feedsPaired_textOf (hpaired : feedsPaired false source.chars = true)
    (hmem : node ∈ root.preorder) : feedsPaired false (source.textOf node).toList = true :=
  (h.noFeedBehind_extent hpaired hmem).1.feedsPaired_slice hpaired _

theorem blends_textOf (hpaired : feedsPaired false source.chars = true)
    (hmem : node ∈ root.preorder) (hkind : node.kind ≠ .compilationUnit ∧ node.kind ≠ .otherStmt) :
    blends (source.textOf node).toList = true := by
  obtain ⟨hreturn, hlt⟩ := h.noReturnBefore_extent hmem hkind
  exact (h.noFeedBehind_extent hpaired hmem).1.blends_slice hreturn hlt (h.extent_le hmem).2 hpaired

end Sited

/-! ### What the rules write -/

/--
Whether nothing that the rules take from an entry of the symbol table is a line end, and the entry
has what its way of awaiting needs.
-/
def SymbolEntry.isPlain (entry : SymbolEntry) : Bool :=
  match entry.replacement with
  | some replacement =>
    blends replacement.toList && blends (Text.lastSegment replacement).toList &&
      !entry.shortName.toList.isEmpty && entry.shortName.toList.getLast? != some '\r'
  | none => entry.strategy != some .whenAll && entry.strategy != some .whenAny

theorem BoundFile.KnowsSettings.isPlain {file : BoundFile} {settings : Settings}
    (h : file.KnowsSettings settings) {name : Option String} {kind : Option SymbolKind}
    {entry : SymbolEntry} (hentry : file.binding.scope.lookup name kind = some entry) :
    entry.isPlain = true := by
  apply h.holds (by decide) _ hentry
  intro other hreplacement hstrategy
  simp [SymbolEntry.isPlain, hreplacement, hstrategy]

theorem BoundFile.blends_qualify (file : BoundFile) {space name : String}
    (hspace : feedsPaired false space.toList = true) (hname : blends name.toList = true) :
    blends (file.qualify space name).toList = true := by
  cases file.qualify_eq space name with
  | inl heq => rwa [heq]
  | inr heq =>
    rw [heq, String.toList_append, String.toList_append]
    exact blends_append (feedsPaired_append_of_false hspace rfl) hname

theorem BoundFile.feedsPaired_qualify (file : BoundFile) {space name : String}
    (hspace : feedsPaired false space.toList = true) (hname : feedsPaired false name.toList = true) :
    feedsPaired false (file.qualify space name).toList = true := by
  cases file.qualify_eq space name with
  | inl heq => rwa [heq]
  | inr heq =>
    rw [heq, String.toList_append, String.toList_append]
    exact feedsPaired_append_of_false (feedsPaired_append_of_false hspace rfl) hname

theorem blends_awaitWritten {operand : String} (h : blends operand.toList = true) (place : Place) :
    blends (awaitWritten operand place).toList = true := by
  have htext : blends ("await " ++ operand).toList = true := by
    rw [String.toList_append]
    exact blends_append (by decide) h
  unfold awaitWritten
  dsimp only
  split
  . rw [String.toList_append, String.toList_append]
    exact blends_append (feedsPaired_append_of_false rfl (feedsPaired_of_blends htext)) (by decide)
  . exact htext

theorem Sited.blends_awaitText {source : Source} {tokens : List Token} {root operand : Node}
    (h : Sited source tokens root) (hpaired : feedsPaired false source.chars = true)
    (hmem : operand ∈ root.preorder) (place : Place) :
    blends (awaitText source operand place).toList = true := by
  apply blends_awaitWritten
  split
  . next hsimple =>
    apply h.blends_textOf hpaired hmem
    unfold Node.isSimpleOperand at hsimple
    constructor
    . intro heq
      simp [heq] at hsimple
    . intro heq
      simp [heq] at hsimple
  . rw [String.toList_append, String.toList_append]
    exact blends_append (feedsPaired_append_of_false rfl (h.feedsPaired_textOf hpaired hmem))
      (by decide)

/--
Whether all fixes of a matcher keep the line ends of texts whose line feeds stand behind carriage
returns.
-/
def Matcher.KeepsFeeds (matcher : Matcher) (kinds : List NodeKind) : Prop :=
  ∀ {settings : Settings} {root : Node} {tokens : List Token} {file : BoundFile} {place : Place}
    {hit : Hit} {fix : Fix}, Sited file.source tokens root → place.Within root →
      place.node.kind ∈ kinds → file.KnowsSettings settings →
      feedsPaired false file.source.chars = true → matcher file place = .ok (some hit) →
      hit.fix = .ok (some fix) → ∀ edit ∈ fix.edits, edit.KeepsFeeds file.source.chars

/--
Whether all fixes of a matcher write a line feed that has no carriage return in front of it.
-/
def Matcher.BreaksFeeds (matcher : Matcher) : Prop :=
  ∀ {root : Node} {tokens : List Token} {file : BoundFile} {place : Place} {hit : Hit} {fix : Fix},
    Sited file.source tokens root → place.Within root → matcher file place = .ok (some hit) →
      hit.fix = .ok (some fix) → ∀ edit ∈ fix.edits, edit.BreaksFeeds file.source.chars

/-! ### Rules that keep line ends -/

theorem Edit.keepsFeeds_singleton {text : List Char} {start stop : Nat} {replacement : String}
    {edits : List Edit} (h : edits = [⟨start, stop, replacement⟩])
    (hblends : blends replacement.toList = true) (hfeed : NoFeedBehind text stop) :
    ∀ edit ∈ edits, edit.KeepsFeeds text := by
  rw [h]
  intro edit hedit
  rw [List.mem_singleton] at hedit
  rw [hedit]
  exact ⟨hblends, hfeed⟩

theorem AsyncVoid.keepsFeeds : matcher.KeepsFeeds rule.kinds := by
  intro settings root tokens file place hit fix hsited hplace _ _ hpaired hhit hfix
  have := hsited.lawful
  obtain ⟨head, result, hform, hresult, hedits⟩ := edits_eq hhit hfix
  apply Edit.keepsFeeds_singleton hedits (file.blends_qualify (by decide) (by decide))
  obtain ⟨first, stop, hlast, index, _, hindex, hname, _, hresults⟩ :=
    hsited.fits hplace.node hform (by simp [Form.kind])
  obtain ⟨lo, hi, _, hlt, hhi, hextent, _⟩ := (hresults _ hresult).1
  have hstop : result.stop = stopAt tokens.toArray (hi - 1) := by
    have hextent : result = extentOf tokens.toArray lo hi := hextent
    rw [hextent]
    rfl
  rw [hstop]
  exact (hsited.noReturnBefore_stopAt (by omega)).noFeedBehind hpaired

theorem UnobservedResult.keepsFeeds : matcher.KeepsFeeds rule.kinds := by
  intro settings root tokens file place hit fix hsited hplace _ _ hpaired hhit hfix
  obtain ⟨expression, hhead, _, _, hfixes⟩ := matcher_eq_ok hhit
  have hmem := Node.mem_preorder_of_mem_children hplace.node (List.mem_of_head? hhead)
  apply Edit.keepsFeeds_singleton (hfixes fix hfix).2 (by decide)
  exact (hsited.noFeedBehind_extent hpaired hmem).1

namespace PackageBase

theorem prefix_of_lastOffset?_go {part text : List Char} {offset found : Nat}
    (h : Text.lastOffset?.go part offset text = some found) :
    ∃ front back, text = front ++ (part ++ back) ∧ found = offset + front.length := by
  induction text generalizing offset with
  | nil =>
    unfold Text.lastOffset?.go at h
    split at h
    . next hempty =>
      cases h
      exact ⟨[], [], by simp [List.isEmpty_iff.1 hempty], rfl⟩
    . cases h
  | cons c rest ih =>
    unfold Text.lastOffset?.go at h
    rw [Option.or_eq_some_iff] at h
    cases h with
    | inl h =>
      obtain ⟨front, back, heq, hfound⟩ := ih h
      refine ⟨c :: front, back, by rw [heq, List.cons_append], ?_⟩
      rw [hfound, List.length_cons]
      omega
    | inr h =>
      have h := h.2
      split at h
      . next hbegins =>
        cases h
        obtain ⟨back, heq⟩ := List.isPrefixOf_iff_prefix.1 hbegins
        exact ⟨[], back, heq.symm, rfl⟩
      . cases h

/-- The new name is put where the old one is written. -/
theorem slice_of_lastOffset? {source : Source} {extent : Extent} {name : String} {offset : Nat}
    (h : Text.lastOffset? name.toList (source.slice extent).toList = some offset) :
    Text.slice source.chars (extent.start + offset) (extent.start + offset + name.length) = name := by
  obtain ⟨front, back, heq, hfound⟩ := prefix_of_lastOffset?_go h
  rw [Nat.zero_add] at hfound
  rw [Source.slice, Text.slice, String.toList_ofList] at heq
  rw [Text.slice, ← List.drop_drop, hfound]
  generalize source.chars.drop extent.start = text at heq
  obtain ⟨more, hmore⟩ : ∃ more, text = front ++ (name.toList ++ more) := by
    refine ⟨back ++ text.drop (extent.stop - extent.start), ?_⟩
    calc text
      _ = text.take (extent.stop - extent.start) ++ text.drop (extent.stop - extent.start) :=
        (List.take_append_drop _ _).symm
      _ = _ := by rw [heq, List.append_assoc, List.append_assoc]
  rw [hmore, List.drop_left, Nat.add_sub_cancel_left, ← String.length_toList, List.take_left,
    String.ofList_toList]

theorem keepsFeeds : matcher.KeepsFeeds rule.kinds := by
  intro settings root tokens file place hit fix hsited hplace _ hknows hpaired hhit hfix
  obtain ⟨head, base, offset, hform, hbase, hoffset, hedits⟩ := edits_eq hhit hfix
  obtain ⟨hreplacement, written, hlookup⟩ := oldBase?_eq_some hbase
  have hplain := hknows.isPlain hlookup
  unfold SymbolEntry.isPlain at hplain
  rw [hreplacement] at hplain
  simp only [Bool.and_eq_true, Bool.not_eq_true', List.isEmpty_eq_false_iff, bne_iff_ne] at hplain
  obtain ⟨⟨⟨hblends, _⟩, hne⟩, hlast⟩ := hplain
  rw [← Int.natCast_add, ← Int.natCast_add] at hedits
  apply Edit.keepsFeeds_singleton hedits hblends
  have hslice := slice_of_lastOffset? hoffset
  exact (noReturnBefore_of_slice hslice (by omega) hne hlast).noFeedBehind hpaired

end PackageBase

theorem BackgroundLoad.keepsFeeds : matcher.KeepsFeeds rule.kinds := by
  intro settings root tokens file place hit fix hsited hplace _ _ hpaired hhit hfix
  have := hsited.lawful
  obtain ⟨registration, hmem, hkind, hedits⟩ := edits_eq hhit hfix
  have hmem := Node.mem_preorder_of_mem_children hplace.node hmem
  unfold edit at hedits
  split at hedits
  . next value hvalue =>
    rw [Option.bind_eq_some_iff] at hvalue
    obtain ⟨setting, hsetting, hvalue⟩ := hvalue
    have hsetting := Node.mem_preorder_of_mem_children hmem (setting?_mem hsetting)
    have hvalue := Node.mem_preorder_of_mem_children hsetting (List.mem_of_getLast? hvalue)
    exact Edit.keepsFeeds_singleton hedits (by decide) (hsited.noFeedBehind_extent hpaired hvalue).2
  . split at hedits
    . next close hform =>
      obtain ⟨first, stop, hlast, _, hcloser, _⟩ := hsited.fits hmem hform (by simp [Form.kind])
      obtain ⟨index, _, hindex, rfl⟩ := hcloser close rfl
      apply Edit.keepsFeeds_singleton hedits ?_ (hsited.noFeedBehind_startAt (by omega))
      split
      . decide
      . decide
    . next stop hform =>
      obtain ⟨first, stop', hlast, ⟨index, _, hindex, rfl⟩, _⟩ :=
        hsited.fits hmem hform (by simp [Form.kind])
      have hstop : NoReturnBefore file.source.chars (stopAt tokens.toArray index) :=
        hsited.noReturnBefore_stopAt (by omega)
      exact Edit.keepsFeeds_singleton hedits (by decide) (hstop.noFeedBehind hpaired)
    . next hother =>
      unfold Node.kind at hkind
      cases hform : registration.form
      case attributeUse name stop closer =>
        cases closer with
        | none => exact absurd hform (by simp_all)
        | some close => exact absurd hform (by simp_all)
      all_goals simp [hform, Form.kind] at hkind

theorem Token.IsWord.not_mem {name : String} (h : IsWord name) {c : Char}
    (hc : startsWord c = false ∧ continuesWord c = false) : c ∉ name.toList := by
  obtain ⟨first, rest, hname, hfirst, hrest⟩ := h
  rw [hname, List.mem_cons, not_or]
  constructor
  . rintro rfl
    rw [hc.1] at hfirst
    cases hfirst
  . intro hmem
    have hcontinues := hrest c hmem
    rw [hc.2] at hcontinues
    cases hcontinues

theorem AsyncNaming.keepsFeeds : matcher.KeepsFeeds rule.kinds := by
  intro settings root tokens file place hit fix hsited hplace _ _ hpaired hhit hfix edit hedit
  have := hsited.lawful
  obtain ⟨name, hword, hrenames⟩ := edits_eq hsited hplace hhit hfix
  obtain ⟨⟨index, hindex, hstart, hlt, hstop⟩, hreplacement, hwritten⟩ := hrenames edit hedit
  have hfeed := hword.not_mem (c := '\n') (by decide)
  have hreturn := hword.not_mem (c := '\r') (by decide)
  constructor
  case blends =>
    rw [hreplacement, String.toList_append]
    exact blends_append (feedsPaired_of_not_mem hfeed _) (by decide)
  case noFeedBehind =>
    cases hwritten with
    | inl hslice =>
      have hle : edit.start.toNat ≤ edit.stop.toNat := by omega
      have hne : name.toList ≠ [] := by
        rw [← List.length_pos_iff, String.length_toList]
        exact hword.length_pos
      exact (noReturnBefore_of_slice hslice hle hne
        fun hlast => hreturn (List.mem_of_getLast? hlast)).noFeedBehind hpaired
    | inr htoken =>
      obtain ⟨index, hidentifier, _, _, hstop⟩ := htoken
      rw [hstop, Int.toNat_natCast]
      have hindex := lt_last_of_isIdentifier hidentifier
      exact (hsited.noReturnBefore_stopAt hindex).noFeedBehind hpaired

namespace BlockingWait

variable {file : BoundFile} {root : Node} {tokens : List Token} {place : Place}
  {entry : SymbolEntry} {text : String}

theorem feedsPaired_replacement (hplain : entry.isPlain = true) :
    feedsPaired false (entry.replacement.getD "").toList = true := by
  unfold SymbolEntry.isPlain at hplain
  cases hreplacement : entry.replacement with
  | none => rfl
  | some replacement =>
    rw [hreplacement] at hplain
    simp only [Bool.and_eq_true] at hplain
    exact feedsPaired_of_blends hplain.1.1.1

theorem blends_lastSegment (hplain : entry.isPlain = true)
    (hstrategy : entry.strategy = some .whenAll ∨ entry.strategy = some .whenAny) :
    blends (Text.lastSegment (entry.replacement.getD "")).toList = true := by
  unfold SymbolEntry.isPlain at hplain
  cases hreplacement : entry.replacement with
  | none =>
    rw [hreplacement] at hplain
    simp only [Bool.and_eq_true, bne_iff_ne] at hplain
    cases hstrategy with
    | inl hstrategy => exact absurd hstrategy hplain.1
    | inr hstrategy => exact absurd hstrategy hplain.2
  | some replacement =>
    rw [hreplacement] at hplain
    simp only [Bool.and_eq_true] at hplain
    exact hplain.1.1.2

theorem Writes.blends (h : Writes file root place entry text)
    (hsited : Sited file.source tokens root) (hmem : place.node ∈ root.preorder)
    (hkind : place.node.kind ∈ rule.kinds) (hplain : entry.isPlain = true)
    (hpaired : feedsPaired false file.source.chars = true) : blends text.toList = true := by
  cases h with
  | operand operand hoperand => exact hsited.blends_awaitText hpaired hoperand place
  | delay duration hduration _ =>
    have hcall := @BoundFile.feedsPaired_qualify file Symbol.tasks _ (by decide)
      (feedsPaired_replacement hplain)
    apply blends_awaitWritten
    simp only [String.toList_append]
    apply blends_append _ (by decide)
    exact feedsPaired_append_of_false (feedsPaired_append_of_false hcall (by decide))
      (hsited.feedsPaired_textOf hpaired hduration)
  | combined callee called name isConditional typeArguments hcallee hform hstrategy =>
    have hkind : place.node.kind ≠ .compilationUnit ∧ place.node.kind ≠ .otherStmt := by
      constructor
      . intro heq
        simp [heq, rule] at hkind
      . intro heq
        simp [heq, rule] at hkind
    have hcallee := Node.mem_preorder_of_mem_children hmem hcallee
    have hfront : Text.blends ("await " ++ file.source.slice ⟨place.node.extent.start, name.start⟩ ++
        Text.lastSegment (entry.replacement.getD "")).toList = true := by
      rw [String.toList_append, String.toList_append]
      refine blends_append (feedsPaired_append_of_false (by decide) ?_)
        (blends_lastSegment hplain hstrategy)
      exact (hsited.noFeedBehind_extent hpaired hmem).1.feedsPaired_slice hpaired _
    rw [String.toList_append]
    by_cases hlt : name.stop < place.node.extent.stop
    . apply blends_append (feedsPaired_of_blends hfront)
      have hname : callee.form.nameExtent? = some name := by
        rw [hform]
        rfl
      exact (hsited.noFeedBehind_nameExtent hpaired hcallee hname).blends_slice
        (hsited.noReturnBefore_extent hmem hkind).1 hlt (hsited.extent_le hmem).2 hpaired
    . have hempty : file.source.slice ⟨name.stop, place.node.extent.stop⟩ = "" :=
        Text.slice_eq_empty (Nat.le_of_not_lt hlt)
      rw [hempty, String.toList_empty, List.append_nil]
      exact hfront

theorem keepsFeeds : matcher.KeepsFeeds rule.kinds := by
  intro settings root tokens file place hit fix hsited hplace hkind hknows hpaired hhit hfix
  obtain ⟨_, text, hawaiting, hedits⟩ := edits_eq hhit hfix
  obtain ⟨entry, hentry, hwrites⟩ := writes_of_awaiting? hplace.node hawaiting
  obtain ⟨_, _, hlookup⟩ := Binding.exists_lookup_of_symbolAt? hentry
  have hplain := hknows.isPlain hlookup
  exact Edit.keepsFeeds_singleton hedits (hwrites.blends hsited hplace.node hkind hplain hpaired)
    (hsited.noFeedBehind_extent hpaired hplace.node).2

end BlockingWait

/-! ### Rules that break line ends -/

theorem Edit.breaksFeeds_singleton {text : List Char} {start stop : Nat} {replacement : String}
    {edits : List Edit} (h : edits = [⟨start, stop, replacement⟩])
    (hclosed : endsWithReturn true replacement.toList = false)
    (hunpaired : feedsPaired (endsWithReturn false (text.take start)) replacement.toList = false) :
    ∀ edit ∈ edits, edit.BreaksFeeds text := by
  rw [h]
  intro edit hedit
  rw [List.mem_singleton] at hedit
  rw [hedit]
  exact ⟨hclosed, hunpaired⟩

theorem Source.return_not_mem_indentationAt (source : Source) (offset : Int) :
    '\r' ∉ (source.indentationAt offset).toList := by
  intro h
  exact absurd (mem_indentationAt h) (by decide)

theorem CommandHandler.breaksFeeds : matcher.BreaksFeeds := by
  intro root tokens file place hit fix hsited hplace hhit hfix
  have := hsited.lawful
  obtain ⟨body, hmem, hkind, hedits⟩ := edits_eq hhit hfix
  have hmem := Node.mem_preorder_of_mem_children hplace.node hmem
  unfold assertion at hedits
  extract_lets call at hedits
  split at hedits
  . next first _ =>
    have hindentation := endsWithReturn_of_not_mem
      (file.source.return_not_mem_indentationAt first.extent.start)
    apply Edit.breaksFeeds_singleton hedits
    . rw [String.toList_append, String.toList_append, endsWithReturn_append, endsWithReturn_append]
      exact hindentation
    . have hcall (behind : Bool) : endsWithReturn behind call.toList = false := by
        simp only [call, String.toList_append, endsWithReturn_append]
        rfl
      rw [String.toList_append, String.toList_append, feedsPaired_append, feedsPaired_append, hcall]
      simp [feedsPaired]
  . apply @Edit.breaksFeeds_singleton _ (body.extent.start + 1) (body.extent.start + 1) _ _ hedits
    . simp only [call, String.toList_append, endsWithReturn_append]
      rfl
    . have hreturn := hsited.noReturnBefore_brace hmem hkind
      rw [hreturn.endsWithReturn_take]
      simp only [String.toList_append, List.append_assoc]
      rfl

theorem ServiceLookup.breaksFeeds : matcher.BreaksFeeds := by
  intro root tokens file place hit fix hsited hplace hhit hfix
  obtain ⟨hkind, part, hpart, name, extent, hform, hedits⟩ := edits_eq hhit hfix
  have hclosed := (hsited.noReturnBefore_extent hplace.node (by simp [hkind])).1
  apply Edit.breaksFeeds_singleton hedits
  . simp only [String.toList_append, endsWithReturn_append]
    rfl
  . rw [hclosed.endsWithReturn_take]
    simp only [String.toList_append, List.append_assoc]
    rfl

end ThreadLint
