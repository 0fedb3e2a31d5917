import ThreadLint.Grammar.TypeName
import ThreadLint.Proofs.Grammar.Tokens

/-!
This module contains how the braces are counted that parsers pass over. A parser leaves no brace
open that it has taken, but for braces that stand where it does not look for them.
-/

namespace ThreadLint.Parser

/-! ### Braces that are passed over alone -/

/--
Whether a name of a declaration may stand behind a token: one that declares a type or ends one.
-/
def endsHead (token : Token) : Bool :=
  token.isIdentifier || token.isKeyword typeKeywords || isPredefinedType token ||
    token.isPunct [")", ">", "]", "?"]
where
  /-- The keywords with which a type is declared. -/
  typeKeywords : List String :=
    ["class", "struct", "interface", "enum", "record"]

/--
Whether an identifier stands where the name of a declaration does. The name of a member may have
several segments.
-/
inductive IsDeclaredName (tokens : Array Token) : Nat → Prop where
  | first {index : Nat}
    (head : endsHead (tokenAt tokens index) = true)
    (name : (tokenAt tokens (index + 1)).isIdentifier = true) :
    IsDeclaredName tokens (index + 1)
  | segment {index : Nat}
    (before : IsDeclaredName tokens index)
    (point : (tokenAt tokens (index + 1)).isPunct ["."] = true)
    (name : (tokenAt tokens (index + 2)).isIdentifier = true) :
    IsDeclaredName tokens (index + 2)

/--
Whether so many of the angle brackets from one index on are open in front of another. The first of
them stays open.
-/
inductive AngleDepth (tokens : Array Token) (first : Nat) : Nat → Nat → Prop where
  | start (h : (tokenAt tokens first).isPunct ["<"] = true) : AngleDepth tokens first (first + 1) 1
  | opens {index depth : Nat}
    (before : AngleDepth tokens first index depth)
    (h : (tokenAt tokens index).isPunct ["<"] = true) :
    AngleDepth tokens first (index + 1) (depth + 1)
  | closes {index depth : Nat}
    (before : AngleDepth tokens first index (depth + 2))
    (h : (tokenAt tokens index).isPunct [">"] = true) :
    AngleDepth tokens first (index + 1) (depth + 1)
  | other {index depth : Nat}
    (before : AngleDepth tokens first index depth)
    (h : (tokenAt tokens index).isPunct ["<", ">"] = false) :
    AngleDepth tokens first (index + 1) depth

/--
Whether an opening brace stands where the type parameters of a declaration are passed over, or
where the word is expected with which a constructor calls another one.
-/
def IsLoose (tokens : Array Token) (index : Nat) : Prop :=
  (tokenAt tokens index).isPunct ["\x7b"] = true ∧
    ((∃ name stop, IsDeclaredName tokens name ∧ AngleDepth tokens (name + 1) stop 1 ∧
        (tokenAt tokens stop).isPunct [">"] = true ∧ name + 1 < index ∧ index < stop) ∨
      ∃ before, index = before + 2 ∧ (tokenAt tokens before).isPunct [")"] = true ∧
        (tokenAt tokens (before + 1)).isPunct [":"] = true)

theorem endsHead_of_isKeyword {token : Token} {texts : List String}
    (htexts : texts ⊆ endsHead.typeKeywords) (h : token.isKeyword texts = true) :
    endsHead token = true := by
  rw [Token.isKeyword, Bool.and_eq_true, List.contains_iff_mem] at h
  simp [endsHead, Token.isKeyword, h.1, htexts h.2]

theorem endsHead_of_isWord {token : Token} {texts : List String}
    (htexts : texts ⊆ endsHead.typeKeywords) (h : token.isWord texts = true) :
    endsHead token = true := by
  rw [Token.isWord, Bool.and_eq_true, Bool.or_eq_true, List.contains_iff_mem] at h
  obtain ⟨hkind | hkind, htext⟩ := h
  . simp [endsHead, Token.isIdentifier, hkind]
  . simp [endsHead, Token.isKeyword, hkind, htexts htext]

theorem IsDeclaredName.isIdentifier {tokens : Array Token} {index : Nat}
    (h : IsDeclaredName tokens index) : (tokenAt tokens index).isIdentifier = true := by
  cases h with
  | first _ name => exact name
  | segment _ _ name => exact name

/-! ### Counting -/

/--
The number of braces that a token opens, less those that it closes.
-/
def braceChange (token : Token) : Int :=
  if token.isPunct ["\x7b"] then 1 else if token.isPunct ["\x7d"] then -1 else 0

/--
The number of braces that are open in front of an index.
-/
def braceDepth (tokens : Array Token) : Nat → Int
  | 0 => 0
  | index + 1 => braceDepth tokens index + braceChange (tokenAt tokens index)

variable {tokens : Array Token} {first middle stop index : Nat}

@[simp]
theorem braceDepth_succ :
    braceDepth tokens (index + 1) = braceDepth tokens index + braceChange (tokenAt tokens index) :=
  rfl

theorem isPunct_eq_false_of_isPunct {token : Token} {texts texts' : List String}
    (htexts : ∀ text ∈ texts, text ∉ texts') (h : token.isPunct texts = true) :
    token.isPunct texts' = false := by
  rw [Token.isPunct_iff] at h
  rw [Token.isPunct, h.1, Bool.and_eq_false_iff]
  right
  rw [Bool.eq_false_iff, ne_eq, List.contains_iff_mem]
  exact htexts _ h.2

theorem braceChange_of_open {token : Token} (h : token.isPunct ["\x7b"] = true) :
    braceChange token = 1 :=
  if_pos h

theorem braceChange_of_close {token : Token} (h : token.isPunct ["\x7d"] = true) :
    braceChange token = -1 := by
  unfold braceChange
  rw [isPunct_eq_false_of_isPunct (by simp) h, h]
  rfl

theorem braceChange_nonpos {token : Token} (h : token.isPunct ["\x7b"] = false) :
    braceChange token ≤ 0 := by
  unfold braceChange
  rw [h]
  split
  . contradiction
  . split
    . decide
    . decide

theorem not_brace_of_isCloser {token : Token} (h : token.isCloser = true) :
    token.isPunct ["\x7b"] = false :=
  isPunct_eq_false_of_isPunct (by decide) h

theorem not_brace_of_not_isOpener {token : Token} (h : token.isOpener = false) :
    token.isPunct ["\x7b"] = false := by
  rw [Bool.eq_false_iff] at h ⊢
  exact fun hbrace => h (Token.isOpener_of_isPunct (by decide) hbrace)

theorem braceChange_eq_zero {token : Token} (hopener : token.isOpener = false)
    (hcloser : token.isCloser = false) : braceChange token = 0 := by
  have hclose : token.isPunct ["\x7d"] = false := by
    rw [Bool.eq_false_iff] at hcloser ⊢
    intro h
    obtain ⟨hkind, htext⟩ := Token.isPunct_iff.1 h
    apply hcloser
    rw [List.mem_singleton] at htext
    exact Token.isPunct_iff.2 ⟨hkind, by simp [htext, Token.brackets]⟩
  rw [braceChange, not_brace_of_not_isOpener hopener, hclose]
  rfl

/-- What closes a brace is a brace, and closes nothing else. -/
theorem braceChange_add_eq_zero {opener closer : Token} (h : opener.closer? = some closer.text)
    (hcloser : closer.isCloser = true) : braceChange opener + braceChange closer = 0 := by
  obtain ⟨hkind, hmem⟩ := Token.closer?_eq_some h
  have hkind' := (Token.isPunct_iff.1 hcloser).1
  simp only [Token.brackets, List.mem_cons, Prod.mk.injEq, List.not_mem_nil, or_false] at hmem
  unfold braceChange Token.isPunct
  obtain ⟨hopener, hcloser⟩ | ⟨hopener, hcloser⟩ | ⟨hopener, hcloser⟩ := hmem
  . simp [hkind, hkind', hopener, hcloser]
  . simp [hkind, hkind', hopener, hcloser]
  . simp [hkind, hkind', hopener, hcloser]

/-- Groups leave as many braces open as they find. -/
theorem braceDepth_eq_of_balanced (h : Token.Balanced tokens first stop) :
    braceDepth tokens stop = braceDepth tokens first := by
  induction h with
  | nil => rfl
  | @plain index stop hindex hopener hcloser _ ih =>
    rw [← tokenAt_eq_getElem hindex] at hopener hcloser
    rw [ih, braceDepth_succ, braceChange_eq_zero hopener hcloser, Int.add_zero]
  | @group opener closer stop fitting _ _ ihinner ihtail =>
    obtain ⟨hopener, hcloser, htext, hisCloser⟩ := fitting
    rw [← tokenAt_eq_getElem hopener, ← tokenAt_eq_getElem hcloser] at htext
    rw [← tokenAt_eq_getElem hcloser] at hisCloser
    have := braceChange_add_eq_zero htext hisCloser
    rw [braceDepth_succ] at ihinner ihtail
    omega

/-! ### What a parser may pass over -/

/--
Whether all that stands between a bracket and the one that closes it comes in groups.
-/
def Grouped (tokens : Array Token) : Prop :=
  ∀ opener closer, Token.matching? tokens opener = some closer →
    Token.Balanced tokens (opener + 1) closer

/--
Whether the way from one index to another leaves no brace open that it passes, unless it goes on to
the end of the text or a brace stands on it where none is looked for.
-/
def Enclosed (tokens : Array Token) (first stop : Nat) : Prop :=
  Grouped tokens → stop = last tokens ∨ braceDepth tokens stop ≤ braceDepth tokens first ∨
    ∃ index, first ≤ index ∧ index < stop ∧ IsLoose tokens index

namespace Enclosed

theorem refl (tokens : Array Token) (index : Nat) : Enclosed tokens index index :=
  fun _ => .inr (.inl (Int.le_refl _))

theorem of_eq_last (h : stop = last tokens) : Enclosed tokens first stop :=
  fun _ => .inl h

theorem of_isLoose (hfirst : first ≤ index) (hstop : index < stop) (h : IsLoose tokens index) :
    Enclosed tokens first stop :=
  fun _ => .inr (.inr ⟨index, hfirst, hstop, h⟩)

theorem of_le (h : braceDepth tokens stop ≤ braceDepth tokens first) :
    Enclosed tokens first stop :=
  fun _ => .inr (.inl h)

theorem trans (h : Enclosed tokens first middle) (hrest : Enclosed tokens middle stop)
    (hfirst : first ≤ middle) (hstop : middle ≤ stop) (hlast : stop ≤ last tokens) :
    Enclosed tokens first stop := by
  intro hgrouped
  obtain heq | hle | ⟨index, hindex, hlt, hloose⟩ := h hgrouped
  . exact .inl (by omega)
  . obtain heq | hle' | ⟨index, hindex, hlt, hloose⟩ := hrest hgrouped
    . exact .inl heq
    . exact .inr (.inl (by omega))
    . exact .inr (.inr ⟨index, by omega, hlt, hloose⟩)
  . exact .inr (.inr ⟨index, hindex, by omega, hloose⟩)

theorem step (h : (tokenAt tokens index).isPunct ["\x7b"] = false) :
    Enclosed tokens index (index + 1) := by
  apply of_le
  have := braceChange_nonpos h
  rw [braceDepth_succ]
  omega

/-- Tokens that are not braces may be taken one by one. -/
theorem steps (hle : first ≤ stop) (h : ∀ index, first ≤ index → index < stop →
      (tokenAt tokens index).isPunct ["\x7b"] = false) :
    Enclosed tokens first stop := by
  apply of_le
  induction stop with
  | zero =>
    obtain rfl : first = 0 := by omega
    exact Int.le_refl _
  | succ stop ih =>
    by_cases heq : first = stop + 1
    . exact Int.le_of_eq (by rw [heq])
    . have := ih (by omega) fun index hindex hlt => h index hindex (by omega)
      have := braceChange_nonpos (h stop (by omega) (Nat.lt_succ_self _))
      rw [braceDepth_succ]
      omega

theorem group {opener closer : Nat} (h : Token.matching? tokens opener = some closer) :
    Enclosed tokens opener (closer + 1) := by
  intro hgrouped
  obtain ⟨_, hopener, hcloser, htext, hisCloser, _⟩ := Token.matching?_eq_some h
  have hinner := hgrouped opener closer h
  have hgroup := Token.Balanced.group ⟨hopener, hcloser, htext, hisCloser⟩ hinner .nil
  exact .inr (.inl (Int.le_of_eq (braceDepth_eq_of_balanced hgroup)))

/-- A brace is taken together with the brace that closes it. -/
theorem braces (hopener : (tokenAt tokens first).isPunct ["\x7b"] = true)
    (h : Enclosed tokens (first + 1) stop)
    (hcloser : (tokenAt tokens stop).isPunct ["\x7d"] = true) (hstop : stop ≠ last tokens) :
    Enclosed tokens first (stop + 1) := by
  intro hgrouped
  obtain heq | hle | ⟨index, hindex, hlt, hloose⟩ := h hgrouped
  . contradiction
  . refine of_le ?_ hgrouped
    rw [braceDepth_succ, braceChange_of_open hopener] at hle
    rw [braceDepth_succ, braceChange_of_close hcloser]
    omega
  . exact of_isLoose (by omega) (by omega) hloose hgrouped

end Enclosed

/--
Whether a token may be taken alone: it neither ends the text nor opens a brace.
-/
structure Single (tokens : Array Token) (index : Nat) : Prop where
  lt : index < last tokens
  not_brace : (tokenAt tokens index).isPunct ["\x7b"] = false

namespace Single

variable [Lawful tokens]

theorem of_isPunct {texts : List String} (htexts : ∀ text ∈ texts, text ≠ "\x7b")
    (h : (tokenAt tokens index).isPunct texts = true) : Single tokens index :=
  ⟨lt_last_of_isPunct h, isPunct_eq_false_of_isPunct (by simpa using htexts) h⟩

theorem of_kind (hkind : (tokenAt tokens index).kind ≠ .punct)
    (hend : (tokenAt tokens index).kind ≠ .eof) : Single tokens index := by
  refine ⟨lt_last_of_not_isEnd ?_, ?_⟩
  . rwa [Token.isEnd_iff]
  . rw [Bool.eq_false_iff]
    exact fun h => hkind (Token.isPunct_iff.1 h).1

theorem of_isKeyword {texts : List String} (h : (tokenAt tokens index).isKeyword texts = true) :
    Single tokens index := by
  simp only [Token.isKeyword, Bool.and_eq_true, beq_iff_eq] at h
  exact of_kind (by simp [h.1]) (by simp [h.1])

theorem of_isIdentifier (h : (tokenAt tokens index).isIdentifier = true) : Single tokens index := by
  simp only [Token.isIdentifier, beq_iff_eq] at h
  exact of_kind (by simp [h]) (by simp [h])

theorem of_isWord {texts : List String} (h : (tokenAt tokens index).isWord texts = true) :
    Single tokens index := by
  simp only [Token.isWord, Bool.and_eq_true, Bool.or_eq_true, beq_iff_eq] at h
  cases h.1 with
  | inl hkind => exact of_kind (by simp [hkind]) (by simp [hkind])
  | inr hkind => exact of_kind (by simp [hkind]) (by simp [hkind])

end Single

end ThreadLint.Parser
