import ThreadLint.Text.Segment

/-!
This module contains how texts are taken apart that were put together from parts: at separators,
behind a known beginning, where a number stands, and into lines. Parts can be told apart if they avoid
the characters that stand between them, and pieces or lines put together are the text again.
-/

namespace ThreadLint.Text

/-! ### Parts -/

section

variable {separator : Char} {front : List Char}

theorem takeWhile_ne (h : separator ∉ front) (rest : List Char) :
    (front ++ separator :: rest).takeWhile (· != separator) = front := by
  rw [List.takeWhile_append_of_pos]
  . simp
  . intro c hc
    rw [bne_iff_ne]
    rintro rfl
    exact h hc

theorem dropWhile_ne (h : separator ∉ front) (rest : List Char) :
    (front ++ separator :: rest).dropWhile (· != separator) = separator :: rest := by
  rw [List.dropWhile_append_of_pos]
  . simp
  . intro c hc
    rw [bne_iff_ne]
    rintro rfl
    exact h hc

end

/--
Whether none of some characters is in a text.
-/
def avoids (unwanted : List Char) (text : String) : Bool :=
  text.toList.all fun c => !unwanted.contains c

section

variable {unwanted : List Char}

theorem avoids_iff {text : String} :
    avoids unwanted text = true ↔ ∀ c ∈ unwanted, c ∉ text.toList := by
  rw [avoids, List.all_eq_true]
  constructor
  . intro h c hunwanted hmem
    simpa [hunwanted] using h c hmem
  . intro h c hmem
    simpa using fun hunwanted => h c hunwanted hmem

theorem avoids_of_subset {few : List Char} {text : String} (hfew : few ⊆ unwanted)
    (h : avoids unwanted text = true) : avoids few text = true :=
  avoids_iff.mpr fun c hc => avoids_iff.mp h c (hfew hc)

@[simp]
theorem avoids_append (front back : String) :
    avoids unwanted (front ++ back) = (avoids unwanted front && avoids unwanted back) := by
  rw [avoids, String.toList_append, List.all_append]
  rfl

@[simp]
theorem avoids_join (texts : List String) :
    avoids unwanted (String.join texts) = texts.all (avoids unwanted) := by
  induction texts with
  | nil => rfl
  | cons text texts ih => rw [String.join_cons, avoids_append, ih, List.all_cons]

theorem avoids_intercalate {separator : String} {texts : List String}
    (hseparator : avoids unwanted separator = true) (htexts : texts.all (avoids unwanted) = true) :
    avoids unwanted (separator.intercalate texts) = true := by
  induction texts with
  | nil => rfl
  | cons text texts ih =>
    rw [List.all_cons, Bool.and_eq_true] at htexts
    cases texts with
    | nil => rw [String.intercalate_singleton, htexts.1]
    | cons next texts =>
      rw [String.intercalate_cons_cons, avoids_append, avoids_append, htexts.1, hseparator,
        ih htexts.2]
      rfl

theorem isDigit_of_mem_toString {n : Nat} {c : Char} (h : c ∈ (toString n).toList) :
    c.isDigit = true := by
  rw [Nat.toString_eq_repr, Nat.toList_repr] at h
  exact Nat.isDigit_of_mem_toDigits (by decide) (by decide) h

theorem avoids_toString (h : unwanted.all (fun c => !c.isDigit) = true) (n : Nat) :
    avoids unwanted (toString n) = true := by
  rw [avoids_iff]
  intro c hunwanted hmem
  have hdigit := List.all_eq_true.mp h c hunwanted
  rw [isDigit_of_mem_toString hmem] at hdigit
  cases hdigit

end

theorem beforeFirst_append {separator : Char} {front : String} (h : avoids [separator] front = true)
    (rest : String) :
    beforeFirst separator (front ++ (String.singleton separator ++ rest)) = front := by
  have hmem := avoids_iff.mp h separator List.mem_cons_self
  rw [beforeFirst, String.toList_append, String.toList_append, String.toList_singleton,
    List.singleton_append, takeWhile_ne hmem, String.ofList_toList]

theorem afterFirst_append {separator : Char} {front : String} (h : avoids [separator] front = true)
    (rest : String) :
    afterFirst separator (front ++ (String.singleton separator ++ rest)) = rest := by
  have hmem := avoids_iff.mp h separator List.mem_cons_self
  rw [afterFirst, String.toList_append, String.toList_append, String.toList_singleton,
    List.singleton_append, dropWhile_ne hmem, List.drop_one, List.tail_cons, String.ofList_toList]

theorem pieces_eq_splitOn (separator : Char) (text : String) :
    pieces separator text = (text.toList.splitOn separator).map String.ofList := by
  have hgo (piece cs : List Char) :
      pieces.go separator piece cs =
        (cs.splitOnPPrepend (· == separator) piece).map String.ofList := by
    induction cs generalizing piece with
    | nil => rfl
    | cons c cs ih =>
      rw [pieces.go, List.splitOnPPrepend]
      split
      . rw [List.map_cons, ih]
      . exact ih (c :: piece)
  exact hgo [] text.toList

theorem pieces_ne_nil {separator : Char} {text : String} : pieces separator text ≠ [] := by
  rw [pieces_eq_splitOn, Ne, List.map_eq_nil_iff]
  exact List.splitOnP_ne_nil _ _

/-- Parts without the separator that stands between them are the pieces of the whole text. -/
theorem pieces_intercalate {separator : Char} {parts : List String} (hne : parts ≠ [])
    (h : parts.all (avoids [separator]) = true) :
    pieces separator ((String.singleton separator).intercalate parts) = parts := by
  have hparts : ∀ cs ∈ parts.map String.toList, separator ∉ cs := by
    rw [List.forall_mem_map]
    intro part hpart
    exact avoids_iff.mp (List.all_eq_true.mp h part hpart) separator List.mem_cons_self
  rw [pieces_eq_splitOn, String.toList_intercalate, String.toList_singleton,
    List.splitOn_intercalate separator hparts (by simpa using hne), List.map_map]
  simp only [Function.comp_def, String.ofList_toList, List.map_id']

/-- The pieces of a text, with the separator between them, are the text again. -/
theorem intercalate_pieces (separator : Char) (text : String) :
    (String.singleton separator).intercalate (pieces separator text) = text := by
  rw [← String.toList_inj, String.toList_intercalate, pieces_eq_splitOn, List.map_map,
    String.toList_singleton]
  simp only [Function.comp_def, String.toList_ofList, List.map_id']
  exact List.intercalate_splitOn separator

/-- No piece has the separator in it. -/
theorem avoids_of_mem_pieces {separator : Char} {text piece : String}
    (h : piece ∈ pieces separator text) : avoids [separator] piece = true := by
  have hgo {cs front : List Char} (hfront : separator ∉ front)
      (h : piece ∈ pieces.go separator front cs) : separator ∉ piece.toList := by
    induction cs generalizing front with
    | nil =>
      rw [pieces.go, List.mem_singleton] at h
      rw [h, String.toList_ofList, List.mem_reverse]
      exact hfront
    | cons c cs ih =>
      rw [pieces.go] at h
      split at h
      . cases h with
        | head =>
          rw [String.toList_ofList, List.mem_reverse]
          exact hfront
        | tail _ h => exact ih List.not_mem_nil h
      . next hne =>
        refine ih ?_ h
        rw [List.mem_cons, not_or]
        exact ⟨fun heq => hne (beq_iff_eq.2 heq.symm), hfront⟩
  rw [avoids_iff]
  intro c hc
  rw [List.mem_singleton.1 hc]
  exact hgo List.not_mem_nil h

/--
The text behind a beginning, if the text begins so.
-/
def behindStart? (start text : String) : Option String :=
  if startsWith text start then some (String.ofList (text.toList.drop start.toList.length)) else none

@[simp]
theorem behindStart?_append (start rest : String) : behindStart? start (start ++ rest) = some rest := by
  have h : startsWith (start ++ rest) start = true := by
    rw [startsWith, String.toList_append, List.isPrefixOf_iff_prefix]
    exact List.prefix_append _ _
  rw [behindStart?, if_pos h, String.toList_append, List.drop_left, String.ofList_toList]

/--
The number that a text of decimal digits stands for.
-/
def number? (text : String) : Option Nat :=
  if !text.isEmpty && text.toList.all Char.isDigit then some (Nat.ofDigitChars 10 text.toList 0)
  else none

@[simp]
theorem number?_repr (n : Nat) : number? n.repr = some n := by
  have hdigits : n.repr.toList.all Char.isDigit = true :=
    List.all_eq_true.mpr fun c hc => isDigit_of_mem_toString hc
  have hempty : n.repr.isEmpty = false := by
    rw [String.isEmpty_eq_false_iff]
    exact Nat.repr_ne_empty
  rw [number?, hdigits, hempty]
  simp

/-! ### Lines -/

theorem flatMap_go (line rest : List Char) :
    (lines.go line rest).flatMap String.toList = line.reverse ++ rest := by
  induction line, rest using lines.go.induct with
  | case1 line h => simp [lines.go, List.isEmpty_iff.mp h]
  | case2 line h => simp [lines.go, h]
  | case3 line rest ih => simp [lines.go, ih]
  | case4 line c rest hreturn hend ih => simp [lines.go, hend, ih]
  | case5 line c rest hreturn hend ih => simp [lines.go, hend, ih]

@[simp]
theorem join_lines (text : String) : String.join (lines text) = text := by
  rw [← String.toList_inj, String.toList_join, lines, flatMap_go, List.reverse_nil, List.nil_append]

/-- Only the last character of a line can be a line feed. -/
theorem not_mem_dropLast_of_mem_go {line rest : List Char} (h : '\n' ∉ line) :
    ∀ found ∈ lines.go line rest, '\n' ∉ found.toList.dropLast := by
  induction line, rest using lines.go.induct with
  | case1 line hempty => simp [lines.go, hempty]
  | case2 line hempty =>
    have hsub : '\n' ∉ line.reverse.dropLast :=
      fun hmem => h (List.mem_reverse.mp ((List.dropLast_sublist _).subset hmem))
    simpa [lines.go, hempty] using hsub
  | case3 line rest ih =>
    have ih := ih List.not_mem_nil
    rw [lines.go, List.forall_mem_cons]
    refine ⟨?_, ih⟩
    simp [List.dropLast_append_of_ne_nil, h]
  | case4 line c rest hreturn hend ih =>
    have ih := ih List.not_mem_nil
    simpa [lines.go, hend, h] using ih
  | case5 line c rest hreturn hend ih =>
    have hc : c ≠ '\n' := by
      rintro rfl
      exact hend rfl
    have ih := ih (by simp [h, Ne.symm hc])
    simpa [lines.go, hend] using ih

/--
Whether a line ends with a line feed and holds no other.
-/
def IsFed (line : String) : Prop :=
  ∃ content, avoids ['\n'] content = true ∧ line = content ++ "\n"

theorem IsFed.append {front line : String} (h : IsFed line) (hfront : avoids ['\n'] front = true) :
    IsFed (front ++ line) := by
  obtain ⟨content, hcontent, rfl⟩ := h
  refine ⟨front ++ content, ?_, (String.append_assoc ..).symm⟩
  rw [avoids_append, hfront, hcontent]
  rfl

theorem isFed_of_mem_lines {text line : String} (hmem : line ∈ lines text)
    (hend : endsWith line "\n" = true) : IsFed line := by
  obtain ⟨content, hcontent⟩ := List.isSuffixOf_iff_suffix.mp hend
  have hdrop : '\n' ∉ line.toList.dropLast :=
    not_mem_dropLast_of_mem_go List.not_mem_nil line hmem
  have hline : line.toList = content ++ ['\n'] := hcontent.symm
  rw [hline, List.dropLast_concat] at hdrop
  refine ⟨String.ofList content, ?_, ?_⟩
  . simpa [avoids_iff] using hdrop
  . rw [← String.toList_inj, hline, String.toList_append, String.toList_ofList]
    rfl

theorem IsFed.endsWith {line : String} (h : IsFed line) : endsWith line "\n" = true := by
  obtain ⟨content, _, rfl⟩ := h
  rw [Text.endsWith, String.toList_append, List.isSuffixOf_iff_suffix]
  exact List.suffix_append _ _

/-! ### Texts that end with a line feed -/

/--
The lines of a text that ends with a line feed, each with its own.
-/
def fedLines? (text : String) : Option (List String) :=
  let parts := pieces '\n' text
  if parts.getLast? = some "" then some (parts.dropLast.map (· ++ "\n")) else none

theorem join_map_feed (contents : List String) :
    String.join (contents.map (· ++ "\n")) = "\n".intercalate (contents ++ [""]) := by
  induction contents with
  | nil => rfl
  | cons content contents ih =>
    have hne : contents ++ [""] ≠ [] := List.append_ne_nil_of_right_ne_nil _ (List.cons_ne_nil _ _)
    obtain ⟨next, rest, hrest⟩ := List.exists_cons_of_ne_nil hne
    rw [List.map_cons, String.join_cons, ih, List.cons_append, hrest, String.intercalate_cons_cons]

/-- Lines that are put together are read back. -/
theorem fedLines?_join {lines : List String} (h : ∀ line ∈ lines, IsFed line) :
    fedLines? (String.join lines) = some lines := by
  have hcontents : ∃ contents : List String, contents.all (avoids ['\n']) = true ∧
      lines = contents.map (· ++ "\n") := by
    induction lines with
    | nil => exact ⟨[], rfl, rfl⟩
    | cons line lines ih =>
      rw [List.forall_mem_cons] at h
      obtain ⟨⟨content, hcontent, rfl⟩, hlines⟩ := h
      obtain ⟨contents, hcontents, rfl⟩ := ih hlines
      exact ⟨content :: contents, by rw [List.all_cons, hcontent, hcontents, Bool.and_self], rfl⟩
  obtain ⟨contents, hall, rfl⟩ := hcontents
  have hpieces : pieces '\n' (String.join (contents.map (· ++ "\n"))) = contents ++ [""] := by
    rw [join_map_feed]
    refine pieces_intercalate (by simp) ?_
    rw [List.all_append, hall]
    decide
  rw [fedLines?, hpieces]
  simp

end ThreadLint.Text
