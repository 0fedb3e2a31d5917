import ThreadLint.Proofs.Binding.Repeated
import ThreadLint.Proofs.LineEnd.Rule
import ThreadLint.Proofs.Renamed
import ThreadLint.Proofs.Symbol.Counterpart
import ThreadLint.Proofs.Tree.Naming

/-!
This module contains when the fix for a base of a package does what it is for: the base leads to the
replacement once the fixed text is read again, unless it was written as an alias of the type or its
type arguments were changed in its place.
-/

namespace ThreadLint

open ThreadLint.Symbol

/-- What an edit writes inside an extent is found there between what was around it. -/
theorem Edit.slice_splice {text front part back : List Char} {start stop : Nat} (hle : start ≤ stop)
    (hstop : stop ≤ text.length) (h : (Text.slice text start stop).toList = front ++ (part ++ back))
    (replacement : String) :
    (Text.slice (splice text [⟨(start + front.length : Nat),
        (start + front.length + part.length : Nat), replacement⟩])
      start (start + (front.length + (replacement.length + back.length)))).toList
        = front ++ (replacement.toList ++ back) := by
  -- All pieces are read off from what is left of the text at the start of the extent.
  have hdrop : text.drop start = front ++ (part ++ (back ++ text.drop stop)) := by
    rw [← Text.slice_append_drop hle, h, List.append_assoc, List.append_assoc]
  have hlength := congrArg List.length hdrop
  simp only [List.length_append, List.length_drop] at hlength
  have htake : text.take (start + front.length) = text.take start ++ front := by
    rw [List.take_add, hdrop, List.take_left]
  have hrest : text.drop (start + front.length + part.length) = back ++ text.drop stop := by
    rw [← List.drop_drop, ← List.drop_drop, hdrop, List.drop_left, List.drop_left]
  have hstart : (text.take start).length = start := by
    rw [List.length_take]
    omega
  rw [splice_singleton (Nat.le_add_right _ _) (by omega), htake, hrest, Text.toList_slice,
    Nat.add_sub_cancel_left, List.append_assoc, List.drop_left' hstart, ← String.length_toList,
    ← List.append_assoc, ← List.append_assoc, List.take_left', List.append_assoc]
  simp only [List.length_append]
  omega

section

variable {text front part back : List Char} {extent : Extent} {replacement : String}
  {edits : List Edit} (hle : extent.start ≤ extent.stop) (hstop : extent.stop ≤ text.length)
  (h : (Text.slice text extent.start extent.stop).toList = front ++ (part ++ back))
  (hlonger : part.length < replacement.length)
  (hedits : edits = [⟨(extent.start + front.length : Nat),
    (extent.start + front.length + part.length : Nat), replacement⟩])

include hle hstop h hlonger hedits

theorem Edit.lengthens_of_part : ∀ edit ∈ edits, edit.Lengthens extent := by
  have hlength := congrArg List.length h
  rw [Text.toList_slice, List.length_take, List.length_drop, List.length_append,
    List.length_append] at hlength
  rw [hedits, List.forall_mem_singleton]
  constructor
  case start_le =>
    dsimp only
    omega
  case start_le_stop =>
    dsimp only
    omega
  case stop_le =>
    dsimp only
    omega
  case growth_pos =>
    unfold growth
    dsimp only
    omega

/-- An edit that lengthens a part of an extent is found in the extent when that is carried over. -/
theorem Edit.slice_carried :
    (Text.slice (splice text edits) (carried edits extent).start (carried edits extent).stop).toList
      = front ++ (replacement.toList ++ back) := by
  have hlength := congrArg List.length h
  rw [Text.toList_slice, List.length_take, List.length_drop, List.length_append,
    List.length_append] at hlength
  obtain ⟨hstart, hcarried⟩ :=
    carried_eq_of_lengthens (lengthens_of_part hle hstop h hlonger hedits)
  have hgrowth : growthOf edits (fun _ => true) = replacement.length - part.length := by
    rw [hedits, growthOf_cons, if_pos rfl, growth, growthOf_eq_zero (List.forall_mem_nil _)]
    dsimp only
    omega
  rw [hstart, show (carried edits extent).stop
    = extent.start + (front.length + (replacement.length + back.length)) by omega, hedits]
  exact slice_splice hle hstop h replacement

end

/-- What is around an edit is carried along by as much as the edit makes the text longer. -/
example : Edit.carried [⟨2, 3, "xyz"⟩] ⟨1, 4⟩ = ⟨1, 6⟩ := by
  decide +kernel

/-! ### The base of a package -/

namespace PackageBase

variable {file : BoundFile} {place : Place} {hit : Hit} {fix : Fix}

theorem lookup_of_oldBase? {scope : Scope} {head : TypeHead} {base : OldBase}
    (h : oldBase? scope head = some base) :
    replacement? base.entry = some base.replacement ∧
      scope.lookup (some base.written) (some .type) = some base.entry := by
  unfold oldBase? Traits.bases at h
  rw [← List.map_prod_left_eq_zip, List.findSome?_map] at h
  obtain ⟨⟨written, extent⟩, _, h⟩ := List.exists_of_findSome?_eq_some h
  simp only [Function.comp_apply, Option.bind_eq_bind, Option.bind_eq_some_iff] at h
  obtain ⟨entry, hentry, replacement, hreplacement, heq⟩ := h
  cases heq
  exact ⟨hreplacement, hentry⟩

/-- The fix for a base edits it where the short name of what it leads to is written in it. -/
theorem exists_base (h : matcher file place = .ok (some hit)) (hfix : hit.fix = .ok (some fix)) :
    ∃ head, place.node.form = .classDecl head ∧ ∃ base ∈ head.bases, hit.span.extent = base.2 ∧
      ∃ entry replacement, replacement? entry = some replacement ∧
        file.binding.scope.lookup (some base.1) (some .type) = some entry ∧
        ∃ front back,
          (file.source.slice base.2).toList = front ++ (entry.shortName.toList ++ back) ∧
          fix.edits = [⟨(base.2.start + front.length : Nat),
            (base.2.start + front.length + entry.shortName.toList.length : Nat), replacement⟩] := by
  obtain ⟨head, base, offset, hform, hbase, hoffset, hedits⟩ := edits_eq h hfix
  have hspan : hit.span.extent = base.extent := by
    obtain ⟨_, _, hform', hbase', hspan, _⟩ := matcher_eq_ok h
    cases hform.symm.trans hform'
    cases hbase.symm.trans hbase'
    exact hspan
  obtain ⟨hreplacement, hlookup⟩ := lookup_of_oldBase? hbase
  obtain ⟨front, back, hslice, hfound⟩ := prefix_of_lastOffset?_go hoffset
  rw [Nat.zero_add] at hfound
  rw [hfound, ← String.length_toList] at hedits
  exact ⟨head, hform, (base.written, base.extent), oldBase?_mem hbase, hspan, base.entry,
    base.replacement, hreplacement, hlookup, front, back, hslice, hedits⟩

theorem eq_of_replacement? : ∀ entry ∈ builtin, ∀ replacement ∈ replacement? entry,
    entry = oldPackage ∧ replacement = newPackage.shortName := by
  decide

end PackageBase

namespace Analyzer

variable {settings : Settings} {analyzer : Analyzer} {text path : String} {result : FileResult}
  {finding : Finding} {fix : Fix}

/-- The fix for a base writes the short name of the replacement for that of the type. -/
theorem exists_package (h : ofSettings settings = .ok analyzer) (hplain : settings.extraSymbols = [])
    (hresult : analyzer.analyzeText text path = .ok result) (hmem : finding ∈ result.findings)
    (hrule : finding.rule = PackageBase.rule.id) (hfix : finding.fix = some fix) :
    ∃ parsed, parse text (some path) = .ok parsed ∧
      ∃ type ∈ TypeTable.declarations parsed.root, ∃ base ∈ type.2.bases,
        finding.span.extent = base.2 ∧
        (Binding.ofRoot parsed.root (.builtin [])).scope.lookup (some base.1) (some .type)
          = some oldPackage ∧
        ∃ front back,
          (parsed.source.slice base.2).toList
            = front ++ (oldPackage.shortName.toList ++ back) ∧
          fix.edits = [⟨(base.2.start + front.length : Nat),
            (base.2.start + front.length + oldPackage.shortName.toList.length : Nat),
              newPackage.shortName⟩] := by
  have hrebase : PackageBase.rule ∈ RuleDefinition.catalogue := by simp [RuleDefinition.catalogue]
  obtain ⟨parsed, hparsed, place, hplace, matcher, hmatcher, hit, hhit, hspan, hmade⟩ :=
    exists_hit h hresult hmem hrebase hrule hfix
  cases hmatcher
  rw [Settings.symbolEntries_eq_nil hplain] at hhit
  obtain ⟨head, hform, base, hbase, hextent, old, name, hreplacement, hlookup, front, back, hslice,
    hedits⟩ := PackageBase.exists_base hhit hmade
  obtain ⟨_, _, hfound⟩ := Scope.lookup_eq_some hlookup
  have hmem : old ∈ builtin ++ [] := SymbolTable.mem_of_lookup hfound
  rw [List.append_nil] at hmem
  obtain ⟨rfl, rfl⟩ := PackageBase.eq_of_replacement? old hmem name hreplacement
  have htype : (place.node, head) ∈ TypeTable.declarations parsed.root :=
    TypeTable.mem_declarations_iff.2 ⟨(Place.within_of_mem_all hplace).node, hform⟩
  exact ⟨parsed, hparsed, _, htype, base, hbase, (congrArg Span.extent hspan).trans hextent, hlookup,
    front, back, hslice, hedits⟩

/--
The fix for a base of a package writes one name for another. In every file with the built-in symbols in
which the old name leads to the type, the new one leads to the replacement exactly if another name is
looked up for it, as long as both go the same way through the aliases. A name of one word that was an
alias leads to it exactly if the word is the short name of the type itself and the namespace is used.
-/
theorem rebase_leads_iff (h : ofSettings settings = .ok analyzer)
    (hplain : settings.extraSymbols = [])
    (hresult : analyzer.analyzeText text path = .ok result) (hmem : finding ∈ result.findings)
    (hrule : finding.rule = PackageBase.rule.id) (hfix : finding.fix = some fix)
    {label : Option String} {outcome : Outcome}
    (houtcome : Outcome.ofFindings text [finding] label true = .ok outcome) :
    ∃ parsed, parse text (some path) = .ok parsed ∧
      ∃ type ∈ TypeTable.declarations parsed.root, ∃ base ∈ type.2.bases,
        finding.span.extent = base.2 ∧
      ∃ old ∈ builtin, ∃ new ∈ builtin, new.IsCounterpart old ∧
        (Binding.ofRoot parsed.root (.builtin [])).scope.lookup (some base.1) (some .type)
          = some old ∧
        ∃ after, parse outcome.text label = .ok after ∧
          let renewed := Edit.carried fix.edits base.2
          let name := Text.dropBlanks (after.source.slice renewed)
          (∀ other ∈ TypeTable.declarations after.root, ∀ found ∈ other.2.bases,
            found.2 = renewed → found.1 = name) ∧
          ∀ scope : Scope, scope.table = .builtin [] →
            scope.lookup (some base.1) (some .type) = some old →
            (scope.SameWay base.1 name →
              (scope.lookup (some name) (some .type) = some new ↔
                scope.lookedUp name ≠ scope.lookedUp base.1)) ∧
            (IsOneWord base.1 → normalize name ≠ normalize base.1 → scope.isAliased name = false →
              (scope.lookup (some name) (some .type) = some new ↔
                normalize base.1 = old.shortName ∧ shell ∈ scope.namespaces)) := by
  obtain ⟨parsed, hparsed, type, htype, base, hbase, hspan, hlookup, front, back, hslice, hedits⟩ :=
    exists_package h hplain hresult hmem hrule hfix
  obtain ⟨hnode, hform⟩ := TypeTable.mem_declarations_iff.1 htype
  obtain ⟨hsource, _, _, hsited⟩ := parse_sited hparsed
  obtain ⟨hle, hstop⟩ := hsited.classDecl hnode hform base hbase
  have hlonger : oldPackage.shortName.toList.length < newPackage.shortName.length := by
    decide
  have hlengthens : ∀ edit ∈ fix.edits, edit.Lengthens base.2 :=
    Edit.lengthens_of_part hle hstop hslice hlonger hedits
  -- the new text is another one, so it was parsed to verify it
  have hne := text_ne_of_lengthens h hresult hmem hfix hlengthens houtcome
  obtain ⟨after, hafter⟩ := Outcome.exists_parse houtcome hne
  obtain ⟨hafterSource, _, _, hafterSited⟩ := parse_sited hafter
  refine ⟨parsed, hparsed, type, htype, base, hbase, hspan, oldPackage, mem_builtin.1, newPackage,
    mem_builtin.2, newPackage_isCounterpart, hlookup, after, hafter, ?_, ?_⟩
  . intro other hother found hfound hextent
    obtain ⟨hother, hform⟩ := TypeTable.mem_declarations_iff.1 hother
    rw [hafterSited.base_eq hother hform hfound, hextent]
  -- both names are their slices without the blanks, and neither short name has blanks
  have hname : base.1.toList = _ :=
    (congrArg String.toList (hsited.base_eq hnode hform hbase)).trans
      (toList_dropBlanks isSimple_oldPackage.isPlain hslice)
  have hchars : after.source.chars = Edit.splice parsed.source.chars fix.edits := by
    rw [hafterSource, hsource]
    exact Outcome.text_eq_of_singleton hfix houtcome
  have hrenewed : (after.source.slice (Edit.carried fix.edits base.2)).toList
      = front ++ (newPackage.shortName.toList ++ back) := by
    unfold Source.slice
    rw [hchars]
    exact Edit.slice_carried hle hstop hslice hlonger hedits
  have hname' := toList_dropBlanks isSimple_newPackage.isPlain hrenewed
  intro scope htable hold
  exact ⟨fun hsame => Scope.lookup_exchanged_iff htable hname hname' hsame hold,
    Scope.lookup_word_iff htable hname hname'⟩

/-- A base that is the short name of a type of a namespace that is used. -/
theorem rebase_leads_iff_short :
    ∃ analyzer result finding fix outcome after,
      ofSettings { (default : Settings) with
        rulesets := Category.all.map fun category => ⟨category.name, category⟩ } = .ok analyzer ∧
      let text := "using Microsoft.VisualStudio.Shell; class P : Package \x7b \x7d"
      analyzer.analyzeText text "P.cs" = .ok result ∧ finding ∈ result.findings ∧
        finding.rule = PackageBase.rule.id ∧ finding.fix = some fix ∧
        Outcome.ofFindings text [finding] none true = .ok outcome ∧
        parse outcome.text none = .ok after ∧
        ∃ type ∈ TypeTable.declarations after.root, ∃ base ∈ type.2.bases,
          ∃ new ∈ builtin, .asyncInit ∈ new.capabilities ∧
            (Binding.ofRoot after.root (.builtin [])).scope.lookup (some base.1) (some .type)
              = some new := by
  have hrun :
      let text := "using Microsoft.VisualStudio.Shell; class P : Package \x7b \x7d"
      ((unrestricted.analyzeText text "P.cs").toOption.bind fun result =>
        result.findings.head?.bind fun finding =>
          finding.fix.bind fun fix =>
            (Outcome.ofFindings text [finding] none true).toOption.bind fun outcome =>
              (parse text (some "P.cs")).toOption.bind fun parsed =>
                (parse outcome.text none).toOption.bind fun after =>
                  let scope := (Binding.ofRoot parsed.root (.builtin [])).scope
                  let renewed := (Binding.ofRoot after.root (.builtin [])).scope
                  some (decide (finding.rule = PackageBase.rule.id ∧
                    (∀ type ∈ TypeTable.declarations parsed.root, ∀ base ∈ type.2.bases,
                      base.1 = "Package") ∧
                    (∃ type ∈ TypeTable.declarations after.root, ∃ base ∈ type.2.bases,
                      base.2 = Edit.carried fix.edits finding.span.extent ∧
                        base.1 = "AsyncPackage") ∧
                    (scope.namespaces = [shell] ∧ scope.aliases = []) ∧
                    (renewed.namespaces = [shell] ∧ renewed.aliases = []) ∧
                    renewed.SameWay "Package" "AsyncPackage" ∧
                    renewed.lookedUp "AsyncPackage" ≠ renewed.lookedUp "Package"))) = some true := by
    decide +kernel
  extract_lets text at hrun
  obtain ⟨result, hresult, hrun⟩ := Option.bind_eq_some_iff.mp hrun
  obtain ⟨finding, hfinding, hrun⟩ := Option.bind_eq_some_iff.mp hrun
  obtain ⟨fix, hfix, hrun⟩ := Option.bind_eq_some_iff.mp hrun
  obtain ⟨outcome, houtcome, hrun⟩ := Option.bind_eq_some_iff.mp hrun
  obtain ⟨parsed, hparsed, hrun⟩ := Option.bind_eq_some_iff.mp hrun
  obtain ⟨after, hafter, hrun⟩ := Option.bind_eq_some_iff.mp hrun
  obtain ⟨hrule, hwritten, ⟨type, htype, base, hbase, hcarried, hname⟩, hscope, hrenewed, hsame,
    hdiffers⟩ := of_decide_eq_true (Option.some.inj hrun)
  have hmem := List.mem_of_head? hfinding
  have hresult := eq_ok_of_toOption hresult
  have houtcome := eq_ok_of_toOption houtcome
  obtain ⟨_, hother, olderType, holderType, older, holder, hspan, old, _, new, hnew, hcounterpart,
    hlookup, _, hother', hread, hleads⟩ :=
    rebase_leads_iff ofSettings_unrestricted rfl hresult hmem hrule hfix houtcome
  obtain rfl := Except.ok.inj ((eq_ok_of_toOption hparsed).symm.trans hother)
  obtain rfl := Except.ok.inj ((eq_ok_of_toOption hafter).symm.trans hother')
  refine ⟨_, result, finding, fix, outcome, after, ofSettings_unrestricted, hresult, hmem, hrule, hfix,
    houtcome, hother', type, htype, base, hbase, new, hnew, hcounterpart.isAsync, ?_⟩
  rw [hwritten olderType holderType older holder] at hlookup hleads
  have hkept : (Binding.ofRoot after.root (.builtin [])).scope.lookup (some "Package") (some .type)
      = (Binding.ofRoot parsed.root (.builtin [])).scope.lookup (some "Package") (some .type) := by
    apply Scope.lookup_congr
    . rfl
    . rw [hrenewed.1, hscope.1]
    . rw [hrenewed.2, hscope.2]
  have hread := hread type htype base hbase (hcarried.trans (by rw [hspan]))
  rw [← hread, hname] at hleads
  rw [hname]
  exact ((hleads _ rfl (hkept.trans hlookup)).1 hsame).2 hdiffers

/-- A base that is an alias of the type becomes a name that nothing is known of. -/
theorem rebase_misses_alias :
    ∃ analyzer result finding fix outcome after,
      ofSettings { (default : Settings) with
        rulesets := Category.all.map fun category => ⟨category.name, category⟩ } = .ok analyzer ∧
      let text := "using SyncPackage = Microsoft.VisualStudio.Shell.Package; " ++
        "class P : SyncPackage \x7b \x7d"
      analyzer.analyzeText text "P.cs" = .ok result ∧ finding ∈ result.findings ∧
        finding.rule = PackageBase.rule.id ∧ finding.fix = some fix ∧
        Outcome.ofFindings text [finding] none true = .ok outcome ∧
        parse outcome.text none = .ok after ∧
        ∃ type, TypeTable.declarations after.root = [type] ∧
          type.2.bases.map Prod.fst = ["SyncAsyncPackage"] ∧
          Traits.bases (Binding.ofRoot after.root (.builtin [])).scope type.2 = [none] := by
  have hrun :
      let text := "using SyncPackage = Microsoft.VisualStudio.Shell.Package; " ++
        "class P : SyncPackage \x7b \x7d"
      ((unrestricted.analyzeText text "P.cs").toOption.bind fun result =>
        result.findings.head?.bind fun finding =>
          finding.fix.bind fun _ =>
            (Outcome.ofFindings text [finding] none true).toOption.bind fun outcome =>
              (parse outcome.text none).toOption.bind fun after =>
                some (finding.rule, (TypeTable.declarations after.root).map fun type =>
                  (type.2.bases.map Prod.fst,
                    Traits.bases (Binding.ofRoot after.root unrestricted.table).scope type.2)))
        = some (PackageBase.rule.id, [(["SyncAsyncPackage"], [none])]) := by
    decide +kernel
  have htable : SymbolTable.builtin [] = unrestricted.table := SymbolTable.builtin_eq
  rw [← htable] at hrun
  extract_lets text at hrun
  obtain ⟨result, hresult, hrun⟩ := Option.bind_eq_some_iff.mp hrun
  obtain ⟨finding, hfinding, hrun⟩ := Option.bind_eq_some_iff.mp hrun
  obtain ⟨fix, hfix, hrun⟩ := Option.bind_eq_some_iff.mp hrun
  obtain ⟨outcome, houtcome, hrun⟩ := Option.bind_eq_some_iff.mp hrun
  obtain ⟨after, hafter, hrun⟩ := Option.bind_eq_some_iff.mp hrun
  obtain ⟨hrule, htypes⟩ := Prod.mk.inj (Option.some.inj hrun)
  obtain ⟨type, htype, hbases⟩ := List.map_eq_singleton_iff.1 htypes
  obtain ⟨hnames, hbases⟩ := Prod.mk.inj hbases
  exact ⟨_, result, finding, fix, outcome, after, ofSettings_unrestricted, eq_ok_of_toOption hresult,
    List.mem_of_head? hfinding, hrule, hfix, eq_ok_of_toOption houtcome, eq_ok_of_toOption hafter,
    type, htype, hnames, hbases⟩

end Analyzer

end ThreadLint
