import ThreadLint.Proofs.Rule.Set
import ThreadLint.Proofs.Text.Pieces

/-!
This module contains what the names of rules look like: groups of small letters and digits, with
single hyphens between them and a letter in front. A definition with such a name is let through, and
so is one with a line feed behind its name. A set of rules has no other names.
-/

namespace ThreadLint

namespace RuleDefinition

/-! ### Names -/

/--
Whether a character is one of the letters from a to z.
-/
def IsSmallLetter (c : Char) : Prop :=
  'a' ≤ c ∧ c ≤ 'z'

/--
Whether a character is a small letter or one of the digits from 0 to 9.
-/
def IsGroupChar (c : Char) : Prop :=
  IsSmallLetter c ∨ '0' ≤ c ∧ c ≤ '9'

/--
Whether a text is made of small letters and digits, of one at least.
-/
structure IsGroup (group : String) : Prop where
  ne_empty : group ≠ ""
  chars : ∀ c ∈ group.toList, IsGroupChar c

/--
Whether a text is made of groups, of one at least, with a single hyphen between each two of them and
a letter in front.
-/
structure IsName (name : String) : Prop where
  grouped : ∃ groups : List String, groups ≠ [] ∧ (∀ group ∈ groups, IsGroup group) ∧
    name = "-".intercalate groups
  first : ∃ c ∈ name.toList.head?, IsSmallLetter c

/--
Whether a text is a name with a line feed behind it.
-/
def IsFedName (id : String) : Prop :=
  ∃ name, IsName name ∧ id = name ++ "\n"

theorem isSmallLetter_iff {c : Char} : IsSmallLetter c ↔ c.isLower = true := by
  change _ ↔ (decide ('a' ≤ c) && decide (c ≤ 'z')) = true
  rw [Bool.and_eq_true, decide_eq_true_iff, decide_eq_true_iff]
  rfl

theorem isGroupChar_iff {c : Char} : IsGroupChar c ↔ isIdChar c = true := by
  change _ ↔ (c.isLower || (decide ('0' ≤ c) && decide (c ≤ '9'))) = true
  rw [Bool.or_eq_true, ← isSmallLetter_iff, Bool.and_eq_true, decide_eq_true_iff,
    decide_eq_true_iff]
  rfl

theorem IsGroupChar.ne_hyphen {c : Char} (h : IsGroupChar c) : c ≠ '-' := by
  rintro rfl
  exact absurd (isGroupChar_iff.1 h) (by decide)

theorem IsGroup.avoids {group : String} (h : IsGroup group) : Text.avoids ['-'] group = true := by
  rw [Text.avoids_iff]
  intro c hc hmem
  exact (h.chars c hmem).ne_hyphen (List.mem_singleton.1 hc)

theorem isName_iff_pieces {name : String} :
    IsName name ↔ (∀ piece ∈ Text.pieces '-' name, IsGroup piece) ∧
      ∃ c ∈ name.toList.head?, IsSmallLetter c := by
  constructor
  . rintro ⟨⟨groups, hne, hgroups, rfl⟩, hfirst⟩
    have hpieces : Text.pieces '-' ("-".intercalate groups) = groups :=
      Text.pieces_intercalate hne
        (List.all_eq_true.2 fun group hgroup => (hgroups group hgroup).avoids)
    rw [hpieces]
    exact ⟨hgroups, hfirst⟩
  . rintro ⟨hpieces, hfirst⟩
    exact ⟨⟨_, Text.pieces_ne_nil, hpieces, (Text.intercalate_pieces '-' name).symm⟩, hfirst⟩

theorem isName_iff {name : String} :
    IsName name ↔
      ((Text.pieces '-' name).all (fun group => !group.isEmpty && group.toList.all isIdChar) &&
        name.toList.head?.any Char.isLower) = true := by
  have hgroup (group : String) :
      IsGroup group ↔ (!group.isEmpty && group.toList.all isIdChar) = true := by
    simp only [Bool.and_eq_true, Bool.not_eq_true', String.isEmpty_eq_false_iff, List.all_eq_true,
      ← isGroupChar_iff]
    exact ⟨fun h => ⟨h.ne_empty, h.chars⟩, fun h => ⟨h.1, h.2⟩⟩
  rw [isName_iff_pieces, Bool.and_eq_true, List.all_eq_true, Option.any_eq_true]
  simp only [hgroup, isSmallLetter_iff, Option.mem_def]

instance (name : String) : Decidable (IsName name) :=
  decidable_of_iff _ isName_iff.symm

theorem chars_intercalate {groups : List String} (hgroups : ∀ group ∈ groups, IsGroup group) :
    ∀ c ∈ ("-".intercalate groups).toList, IsGroupChar c ∨ c = '-' := by
  induction groups with
  | nil => simp
  | cons group groups ih =>
    rw [List.forall_mem_cons] at hgroups
    obtain ⟨hgroup, hgroups⟩ := hgroups
    have hchars : ∀ c ∈ group.toList, IsGroupChar c ∨ c = '-' :=
      fun c hc => .inl (hgroup.chars c hc)
    cases groups with
    | nil =>
      rw [String.intercalate_singleton]
      exact hchars
    | cons next groups =>
      rw [String.intercalate_cons_cons, String.toList_append, String.toList_append]
      simp only [List.forall_mem_append]
      exact ⟨⟨hchars, by simp⟩, ih hgroups⟩

theorem IsName.chars {name : String} (h : IsName name) :
    ∀ c ∈ name.toList, IsGroupChar c ∨ c = '-' := by
  obtain ⟨⟨groups, _, hgroups, rfl⟩, _⟩ := h
  exact chars_intercalate hgroups

theorem not_chars_append_feed (front : String) :
    ¬ ∀ c ∈ (front ++ "\n").toList, IsGroupChar c ∨ c = '-' := by
  intro h
  rcases h '\n' (by simp) with hchar | hhyphen
  . exact absurd (isGroupChar_iff.1 hchar) (by decide)
  . cases hhyphen

theorem IsName.not_isFedName {name : String} (h : IsName name) : ¬ IsFedName name := by
  rintro ⟨front, _, rfl⟩
  exact not_chars_append_feed front h.chars

/-- Only a line feed brings in another character. -/
theorem chars_iff_not_isFedName {id : String} (h : IsName id ∨ IsFedName id) :
    (∀ c ∈ id.toList, IsGroupChar c ∨ c = '-') ↔ ¬ IsFedName id := by
  constructor
  . rintro hchars ⟨front, _, rfl⟩
    exact not_chars_append_feed front hchars
  . exact fun hfed => (h.resolve_right hfed).chars

/-- What is let through is a name, or one with a line feed behind it. -/
theorem isId_iff {id : String} : isId id = true ↔ IsName id ∨ IsFedName id := by
  have hcheck (cs : List Char) := @isName_iff (String.ofList cs)
  simp only [String.toList_ofList] at hcheck
  unfold isId
  -- The groups are looked for in front of a line feed at the end, if there is one.
  split
  . next rest hrest =>
    have hid : id = String.ofList rest.reverse ++ "\n" := by
      rw [← String.toList_inj, String.toList_append, String.toList_ofList,
        ← List.reverse_reverse id.toList, hrest, List.reverse_cons]
      rfl
    rw [← hcheck, hid]
    constructor
    . exact fun hname => .inr ⟨_, hname, rfl⟩
    . rintro (hname | ⟨name, hname, heq⟩)
      . exact absurd hname.chars (not_chars_append_feed _)
      . rw [String.append_left_inj] at heq
        rw [heq]
        exact hname
  . next hrest =>
    have hfed : ¬ IsFedName id := by
      rintro ⟨name, _, rfl⟩
      exact hrest name.toList.reverse (by simp)
    rw [← hcheck, String.ofList_toList, or_iff_left hfed]

/-! ### Definitions -/

/--
Whether the name of a definition is let through. Other parts of the definition may still make no
sense.
-/
def AcceptsId (definition : RuleDefinition) : Prop :=
  definition.rule ≠ .error (.badId definition.id)

/-- A problem names its definition, and is one of the name exactly if the name is not let through. -/
theorem problem_of_rule {definition : RuleDefinition} {problem : RuleProblem}
    (h : definition.rule = .error problem) :
    problem.id = definition.id ∧
      (problem = .badId definition.id ↔ isId definition.id = false) := by
  unfold rule at h
  rcases throw_unless_eq_error.1 h with ⟨hid, rfl⟩ | ⟨hid, h⟩
  . exact ⟨rfl, by simpa using hid⟩
  . have hid : isId definition.id = true := by simpa using hid
    -- The checks behind that of the name have problems of their own.
    rw [hid]
    split at h
    . split at h
      . rcases throw_unless_eq_error.1 h with ⟨_, rfl⟩ | ⟨_, h⟩
        . simp [RuleProblem.id]
        . split at h
          . rcases throw_unless_eq_error.1 h with ⟨_, rfl⟩ | ⟨_, h⟩
            . simp [RuleProblem.id]
            . rcases throw_unless_eq_error.1 h with ⟨_, rfl⟩ | ⟨_, h⟩
              . simp [RuleProblem.id]
              . rcases bind_eq_error.1 h with h | ⟨message, _, h⟩
                . obtain ⟨problem, _, rfl⟩ := mapError_eq_error.1 h
                  simp [RuleProblem.id]
                . cases h
          . cases h
            simp [RuleProblem.id]
      . cases h
        simp [RuleProblem.id]
    . cases h
      simp [RuleProblem.id]

theorem acceptsId_iff {definition : RuleDefinition} :
    definition.AcceptsId ↔ IsName definition.id ∨ IsFedName definition.id := by
  rw [← isId_iff]
  constructor
  . intro h
    by_contra hid
    apply h
    unfold rule
    simp [hid, throw, throwThe, MonadExceptOf.throw, bind, Except.bind]
  . intro hid h
    rw [(problem_of_rule h).2.1 rfl] at hid
    cases hid

/-- A definition of a rule can have any other name that is let through. -/
theorem Defines.withId_iff {definition : RuleDefinition} {rule : Rule} (h : definition.Defines rule)
    (id : String) :
    ({ definition with id := id } : RuleDefinition).Defines { rule with id := id } ↔
      IsName id ∨ IsFedName id := by
  rw [← isId_iff]
  constructor
  . exact fun hdefines => hdefines.isId
  . exact fun hid => { h with isId := hid, id_eq := rfl }

end RuleDefinition

open RuleDefinition

/-! ### Sets of rules -/

/-- Each name in a set of rules was let through. -/
theorem RuleSet.isName_of_mem_ids {categories : Option (List Category)} {disabled : List String}
    {definitions : List RuleDefinition} {ruleSet : RuleSet}
    (h : select categories disabled definitions = .ok ruleSet) {id : String}
    (hid : id ∈ ruleSet.ids) : IsName id ∨ IsFedName id := by
  obtain ⟨rules, wanted, hrules, rfl⟩ := select_eq_ok h
  obtain ⟨rule, hrule, rfl⟩ := List.mem_map.1 hid
  obtain ⟨definition, _, hdefinition⟩ :=
    exists_of_mem_mapM hrules rule (List.mem_filter.1 hrule).1
  have hdefines := rule_eq_ok_iff.1 hdefinition
  rw [hdefines.id_eq, ← isId_iff]
  exact hdefines.isId

/--
A definition is let through by its name exactly if that is made of groups of small letters and digits
with single hyphens between them and a letter in front, or is such a name with a line feed behind it.
Names of the second kind are the only ones about which the form does not decide. A definition of a
rule stays one under each name that is let through, and under no other. A set of rules has no other
names either, and those without a line feed are made of small letters, digits and hyphens only.
-/
theorem RuleSet.ids_exact (id : String) :
    (∀ definition : RuleDefinition, definition.id = id →
      (definition.AcceptsId ↔ IsName id ∨ IsFedName id) ∧
        ((definition.AcceptsId ↔ IsName id) ↔ ¬ IsFedName id)) ∧
    (∀ (definition : RuleDefinition) (rule : Rule), definition.rule = .ok rule →
      (({ definition with id := id } : RuleDefinition).rule = .ok { rule with id := id } ↔
        IsName id ∨ IsFedName id)) ∧
    ∀ categories disabled definitions ruleSet,
      select categories disabled definitions = .ok ruleSet → id ∈ ruleSet.ids →
        (IsName id ∨ IsFedName id) ∧
          ((∀ c ∈ id.toList, IsGroupChar c ∨ c = '-') ↔ ¬ IsFedName id) := by
  refine ⟨?_, ?_, ?_⟩
  . rintro definition rfl
    rw [acceptsId_iff]
    refine ⟨Iff.rfl, ?_⟩
    constructor
    . intro h hfed
      exact (h.1 (.inr hfed)).not_isFedName hfed
    . intro hfed
      exact or_iff_left hfed
  . intro definition rule h
    rw [rule_eq_ok_iff] at h ⊢
    exact h.withId_iff id
  . intro categories disabled definitions ruleSet h hid
    have hname := isName_of_mem_ids h hid
    exact ⟨hname, chars_iff_not_isFedName hname⟩

/--
The definition of a rule that finds nothing.
-/
def RuleDefinition.silent (id : String) : RuleDefinition where
  id := id
  category := some .design
  severity := some .info
  kinds := [.classDecl]
  matcher := some fun _ _ => .ok none
  message := "A type is declared"

/-- Two rules whose names differ in the line feed. -/
theorem RuleSet.ids_exact_pair :
    ∃ rule ruleSet, (silent "late-load9").rule = .ok rule ∧
      (silent "late-load9\n").rule = .ok { rule with id := "late-load9\n" } ∧
      select none [] [silent "late-load9", silent "late-load9\n"] = .ok ruleSet ∧
      ruleSet.ids = ["late-load9", "late-load9\n"] ∧
      (∀ c ∈ "late-load9".toList, IsGroupChar c ∨ c = '-') ∧
      ¬ ∀ c ∈ "late-load9\n".toList, IsGroupChar c ∨ c = '-' := by
  have hname : IsName "late-load9" := by decide +kernel
  have hfed : IsFedName "late-load9\n" := ⟨"late-load9", hname, rfl⟩
  obtain ⟨rule, hrule⟩ : ∃ rule, (silent "late-load9").rule = .ok rule :=
    exists_eq_ok (by decide +kernel)
  have hselect :
      ((select none [] [silent "late-load9", silent "late-load9\n"]).toOption.map RuleSet.ids) =
        some ["late-load9", "late-load9\n"] := by
    decide +kernel
  obtain ⟨ruleSet, hset, hids⟩ := Option.map_eq_some_iff.1 hselect
  have hset := eq_ok_of_toOption hset
  obtain ⟨_, _, hplain⟩ := ids_exact "late-load9"
  obtain ⟨_, hrenamed, hheld⟩ := ids_exact "late-load9\n"
  refine ⟨rule, ruleSet, hrule, (hrenamed _ rule hrule).2 (.inr hfed), hset, hids, ?_, ?_⟩
  . exact (hplain _ _ _ ruleSet hset (by simp [hids])).2.2 hname.not_isFedName
  . intro hchars
    exact (hheld _ _ _ ruleSet hset (by simp [hids])).2.1 hchars hfed

/-- A text with a line feed is let through as the name of a rule. -/
theorem RuleSet.select_fedName :
    (silent "a\n").AcceptsId ∧ ¬ IsName "a\n" ∧
      ∃ ruleSet, select none [] [silent "a\n"] = .ok ruleSet ∧
        ∃ id ∈ ruleSet.ids, ¬ ∀ c ∈ id.toList, IsGroupChar c ∨ c = '-' := by
  have hselect : ((select none [] [silent "a\n"]).toOption.map RuleSet.ids) = some ["a\n"] := by
    decide +kernel
  obtain ⟨ruleSet, hset, hids⟩ := Option.map_eq_some_iff.1 hselect
  refine ⟨acceptsId_iff.2 (.inr ⟨"a", by decide +kernel, rfl⟩), by decide +kernel, ruleSet,
    eq_ok_of_toOption hset, "a\n", by simp [hids], not_chars_append_feed "a"⟩

end ThreadLint
