import Mathlib.Data.List.TakeWhile
import ThreadLint.Text.Utf8

/-!
This module contains the proof that the bytes of a text stand for that text again.
-/

namespace ThreadLint.Text

theorem toNat_ofNat {n : Nat} (h : n < 256) : (UInt8.ofNat n).toNat = n := by
  rw [UInt8.toNat_ofNat']
  omega

namespace Continuation

theorem fitting_cons {expected : Continuation} {first : UInt8} {others : List UInt8}
    (rest : List UInt8) (hcount : expected.count = others.length + 1)
    (hfirst : expected.low ≤ first.toNat ∧ first.toNat ≤ expected.high)
    (hothers : ∀ byte ∈ others, 0x80 ≤ byte.toNat ∧ byte.toNat ≤ 0xbf) :
    expected.fitting (first :: others ++ rest) = first :: others := by
  have htake : (first :: others ++ rest).take expected.count = first :: others := by
    rw [hcount]
    show (first :: others ++ rest).take (first :: others).length = first :: others
    exact List.take_left
  simp only [fitting, htake]
  rw [List.takeWhile_eq_self_iff.mpr (by simpa using hothers)]
  simp [hfirst]

end Continuation

/--
A character is read where a first byte stands with those that have to follow it, and the reading
goes on behind them.
-/
theorem decodeFrom_cons {lead : UInt8} {expected : Continuation} {following : List UInt8} {c : Char}
    {rest : List UInt8} (start : Nat) (read : List Char)
    (hlead : continuation? lead.toNat = some expected)
    (hfitting : expected.fitting (following ++ rest) = following)
    (hlength : following.length = expected.count) (hchar : expected.char lead following = c) :
    ∃ next, decodeFrom start read (lead :: (following ++ rest)) =
      decodeFrom next (c :: read) rest := by
  refine ⟨start + expected.count + 1, ?_⟩
  rw [decodeFrom]
  simp only [hlead, hfitting, hlength, hchar, if_true]
  rw [← hlength, List.drop_left]

/--
What has to follow the first byte of a character with three bytes. The bounds for its second byte
hold for every code point, as the numbers between 0xd800 and 0xdfff are none.
-/
theorem continuation?_of_three {code : Nat} (hvalid : code < 0xd800 ∨ 0xdfff < code)
    (hlow : 0x7ff < code) (hhigh : code ≤ 0xffff) :
    ∃ low high, continuation? (code / 4096 + 224) = some ⟨2, low, high⟩ ∧
      low ≤ code / 64 % 64 + 128 ∧ code / 64 % 64 + 128 ≤ high := by
  unfold continuation?
  rw [if_neg (by omega), if_neg (by omega), if_neg (by omega)]
  split
  . exact ⟨_, _, rfl, by omega, by omega⟩
  . split
    . exact ⟨_, _, rfl, by omega, by omega⟩
    . rw [if_pos (by omega)]
      exact ⟨_, _, rfl, by omega, by omega⟩

/--
What has to follow the first byte of a character with four bytes.
-/
theorem continuation?_of_four {code : Nat} (hlow : 0xffff < code) (hhigh : code < 0x110000) :
    ∃ low high, continuation? (code / 262144 + 240) = some ⟨3, low, high⟩ ∧
      low ≤ code / 4096 % 64 + 128 ∧ code / 4096 % 64 + 128 ≤ high := by
  unfold continuation?
  rw [if_neg (by omega), if_neg (by omega), if_neg (by omega), if_neg (by omega),
    if_neg (by omega), if_neg (by omega)]
  split
  . exact ⟨_, _, rfl, by omega, by omega⟩
  . split
    . exact ⟨_, _, rfl, by omega, by omega⟩
    . rw [if_pos (by omega)]
      exact ⟨_, _, rfl, by omega, by omega⟩

theorem decodeFrom_utf8EncodeChar (c : Char) (start : Nat) (read : List Char) (rest : List UInt8) :
    ∃ next, decodeFrom start read (String.utf8EncodeChar c ++ rest) =
      decodeFrom next (c :: read) rest := by
  have hvalid : c.toNat < 0xd800 ∨ (0xdfff < c.toNat ∧ c.toNat < 0x110000) := c.valid
  have hchar : Char.ofNat c.toNat = c := Char.ofNat_toNat c
  unfold String.utf8EncodeChar
  simp only [Char.toNat_val]
  generalize c.toNat = code at *
  -- A byte that is not the first of its character carries six bits.
  have hsix (n : Nat) : (UInt8.ofNat (n % 64 + 128)).toNat = n % 64 + 128 :=
    toNat_ofNat (by omega)
  split
  . next h =>
    have hlead : (UInt8.ofNat code).toNat = code := toNat_ofNat (by omega)
    have hfollows : continuation? code = some ⟨0, 0x80, 0xbf⟩ := by
      rw [continuation?, if_pos (by omega)]
    rw [← hlead] at hfollows
    have hfitting : (⟨0, 0x80, 0xbf⟩ : Continuation).fitting ([] ++ rest) = [] := rfl
    apply decodeFrom_cons start read hfollows hfitting rfl
    simp [Continuation.char, hlead, hchar]
  . split
    . next _ h =>
      have hlead : (UInt8.ofNat (code / 64 % 32 + 192)).toNat = code / 64 + 192 := by
        rw [toNat_ofNat (by omega)]
        omega
      have hfollows : continuation? (code / 64 + 192) = some ⟨1, 0x80, 0xbf⟩ := by
        rw [continuation?, if_neg (by omega), if_neg (by omega), if_pos (by omega)]
      have hsum : 64 * (code / 64 + 192 - 0xc0) + (code % 64 + 128 - 0x80) = code := by omega
      rw [← hlead] at hfollows
      apply decodeFrom_cons start read hfollows
      . apply Continuation.fitting_cons
        . rfl
        . rw [hsix]
          constructor <;> dsimp only <;> omega
        . simp
      . rfl
      . simp only [Continuation.char, hlead, List.foldl_cons, List.foldl_nil, hsix, hsum, hchar]
    . split
      . next _ h _ =>
        have hlead : (UInt8.ofNat (code / 4096 % 16 + 224)).toNat = code / 4096 + 224 := by
          rw [toNat_ofNat (by omega)]
          omega
        obtain ⟨low, high, hfollows, hsecond⟩ :=
          continuation?_of_three (show code < 0xd800 ∨ 0xdfff < code by omega) (by omega) (by omega)
        have hsum : 64 * (64 * (code / 4096 + 224 - 0xe0) + (code / 64 % 64 + 128 - 0x80)) +
            (code % 64 + 128 - 0x80) = code := by omega
        rw [← hlead] at hfollows
        apply decodeFrom_cons start read hfollows
        . apply Continuation.fitting_cons
          . rfl
          . rw [hsix]
            exact hsecond
          . simp only [List.mem_singleton, forall_eq, hsix]
            omega
        . rfl
        . simp only [Continuation.char, hlead, List.foldl_cons, List.foldl_nil, hsix, hsum, hchar]
      . have hlead : (UInt8.ofNat (code / 262144 % 8 + 240)).toNat = code / 262144 + 240 := by
          rw [toNat_ofNat (by omega)]
          omega
        obtain ⟨low, high, hfollows, hsecond⟩ :=
          continuation?_of_four (show 0xffff < code by omega) (by omega)
        have hsum : 64 * (64 * (64 * (code / 262144 + 240 - 0xf0) +
            (code / 4096 % 64 + 128 - 0x80)) + (code / 64 % 64 + 128 - 0x80)) +
            (code % 64 + 128 - 0x80) = code := by omega
        rw [← hlead] at hfollows
        apply decodeFrom_cons start read hfollows
        . apply Continuation.fitting_cons
          . rfl
          . rw [hsix]
            exact hsecond
          . simp only [List.mem_cons, List.not_mem_nil, or_false, forall_eq_or_imp, forall_eq, hsix]
            omega
        . rfl
        . simp only [Continuation.char, hlead, List.foldl_cons, List.foldl_nil, hsix, hsum, hchar]

theorem decodeFrom_flatMap (cs : List Char) (start : Nat) (read : List Char) :
    decodeFrom start read (cs.flatMap String.utf8EncodeChar) = .ok (read.reverse ++ cs) := by
  induction cs generalizing start read with
  | nil =>
    rw [List.flatMap_nil, decodeFrom, List.append_nil]
  | cons c cs ih =>
    rw [List.flatMap_cons]
    obtain ⟨next, hnext⟩ :=
      decodeFrom_utf8EncodeChar c start read (cs.flatMap String.utf8EncodeChar)
    rw [hnext, ih, List.reverse_cons, List.append_assoc, List.singleton_append]

theorem toList_loop (bytes : ByteArray) (i : Nat) (read : List UInt8) :
    ByteArray.toList.loop bytes i read = read.reverse ++ bytes.data.toList.drop i := by
  induction i, read using ByteArray.toList.loop.induct bytes with
  | case1 i read h ih =>
    rw [ByteArray.toList.loop, if_pos h, ih]
    have hdrop : bytes.data.toList.drop i = bytes.get! i :: bytes.data.toList.drop (i + 1) := by
      rw [List.drop_eq_getElem_cons (by simpa using h), ByteArray.get!]
      congr 1
      exact (getElem!_pos bytes.data i (by simpa using h)).symm
    rw [hdrop, List.reverse_cons, List.append_assoc, List.singleton_append]
  | case2 i read h =>
    rw [ByteArray.toList.loop, if_neg h]
    have hdrop : bytes.data.toList.drop i = [] :=
      List.drop_eq_nil_of_le (by simpa using h)
    rw [hdrop, List.append_nil]

/-- The bytes of a text are those of its characters. -/
theorem toList_encode (text : String) :
    (encode text).toList = text.toList.flatMap String.utf8EncodeChar := by
  have hbytes : encode text = text.toList.utf8Encode := by
    rw [encode, String.toUTF8_eq_toByteArray, ← String.toByteArray_ofList, String.ofList_toList]
  rw [hbytes, ByteArray.toList, toList_loop, List.utf8Encode, List.toList_data_toByteArray]
  rfl

@[simp]
theorem decode_encode (text : String) : decode (encode text) = .ok text := by
  rw [decode, toList_encode, decodeFrom_flatMap]
  simp [Except.map]

end ThreadLint.Text
