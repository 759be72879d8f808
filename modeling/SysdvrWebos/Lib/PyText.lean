/-
Module: SysdvrWebos.Lib.PyText
Layer: Lib
Purpose: Python's text as a list of code points, with the string methods a program uses to tidy a text up:
  white space, `strip`, `split` without arguments, and `join`.
Trusted boundary: the white space of `str.isspace` is the list of code points below
Main exports: PyText, PyText.isSpace, PyText.strip, PyText.split, PyText.joinWords,
  PyText.utf8Size
Open obligations: none
-/
import Mathlib.Algebra.Ring.Nat
import Mathlib.Data.List.DropRight
import SysdvrWebos.Lib.Spans

/-- A Python `str` without lone surrogates. -/
abbrev PyText := List Char

namespace PyText

/-- The code points that are white space to `str.split` and `str.strip`. -/
def isSpace (c : Char) : Bool :=
  (9 ≤ c.toNat && c.toNat ≤ 13) || (28 ≤ c.toNat && c.toNat ≤ 32) || c.toNat = 0x85 || c.toNat = 0xA0 ||
    c.toNat = 0x1680 || (0x2000 ≤ c.toNat && c.toNat ≤ 0x200A) || c.toNat = 0x2028 || c.toNat = 0x2029 ||
    c.toNat = 0x202F || c.toNat = 0x205F || c.toNat = 0x3000

/-- `text.strip()`. -/
def strip (text : PyText) : PyText := (text.dropWhile isSpace).rdropWhile isSpace

/-- `text.split()`: the runs between white space. -/
def split (text : PyText) : List PyText := (text.splitOnP isSpace).filter fun word => !word.isEmpty

/-- `" ".join(words)`. -/
def joinWords (words : List PyText) : PyText := [' '].intercalate words

/-- The bytes of the text in UTF-8. -/
def utf8Size (text : PyText) : Nat := (text.map Char.utf8Size).sum

/-- A run between white space. -/
structure IsWord (word : PyText) : Prop where
  some_ : word ≠ []
  visible : ∀ c ∈ word, isSpace c = false

/-- A text without white space has nothing to strip. -/
theorem strip_of_visible {text : PyText} (visible : ∀ c ∈ text, isSpace c = false) : strip text = text := by
  have front : text.dropWhile isSpace = text := List.dropWhile_eq_self_iff.mpr fun some_ => by
    rw [visible _ (List.getElem_mem some_)]
    decide
  rw [strip, front]
  apply List.rdropWhile_eq_self_iff.mpr
  intro some_
  rw [visible _ (List.getLast_mem some_)]
  decide

theorem isSpace_of_isDigit {c : Char} (digit : c.isDigit = true) : isSpace c = false := by
  rcases Char.isDigit_iff_toNat.mp digit with ⟨above, below⟩
  have above : 48 ≤ c.toNat := above
  have below : c.toNat ≤ 57 := below
  simp only [isSpace, Bool.or_eq_false_iff, Bool.and_eq_false_iff, decide_eq_false_iff_not]
  omega

/-! ### Words -/

@[simp] theorem joinWords_nil : joinWords [] = [] := rfl

@[simp] theorem joinWords_singleton (word : PyText) : joinWords [word] = word := List.intercalate_singleton

theorem joinWords_cons_cons (word second : PyText) (words : List PyText) :
    joinWords (word :: second :: words) = word ++ ' ' :: joinWords (second :: words) :=
  List.intercalate_cons_cons.trans (by rw [List.append_assoc]; rfl)

/-- The parts between white space have none. -/
theorem visible_of_mem_splitOnP {text : PyText} :
    ∀ word ∈ text.splitOnP isSpace, ∀ c ∈ word, isSpace c = false := by
  induction text with
  | nil => simp
  | cons c text ih =>
      rw [List.splitOnP_cons_eq_if_modifyHead]
      split
      · intro word member
        rcases List.mem_cons.mp member with rfl | member
        · simp
        · exact ih word member
      · next visible =>
          cases h : text.splitOnP isSpace with
          | nil => exact absurd h (List.splitOnP_ne_nil isSpace text)
          | cons first others =>
              rw [h] at ih
              intro word member
              rcases List.mem_cons.mp member with rfl | member
              · intro d inside
                rcases List.mem_cons.mp inside with rfl | inside
                · exact Bool.eq_false_iff.mpr visible
                · exact ih first List.mem_cons_self d inside
              · exact ih word (List.mem_cons_of_mem _ member)

theorem split_isWord (text : PyText) : ∀ word ∈ split text, IsWord word := by
  intro word member
  rcases List.mem_filter.mp member with ⟨member, some_⟩
  exact ⟨by simpa using some_, visible_of_mem_splitOnP word member⟩

theorem split_nil : split [] = [] := rfl

/-- A word up to the next white space. -/
theorem split_word_space {word : PyText} (isWord : IsWord word) {c : Char} (space : isSpace c = true)
    (rest : PyText) : split (word ++ c :: rest) = word :: split rest := by
  rw [split, List.splitOnP_append_cons_of_forall_mem isWord.visible c space]
  exact List.filter_cons_of_pos (by simpa using isWord.some_)

theorem split_word {word : PyText} (isWord : IsWord word) : split word = [word] := by
  rw [split, List.splitOnP_eq_singleton isWord.visible]
  exact List.filter_cons_of_pos (by simpa using isWord.some_)

/-- Joined words are taken apart again. -/
theorem split_joinWords {words : List PyText} (all : ∀ word ∈ words, IsWord word) :
    split (joinWords words) = words := by
  induction words with
  | nil => rfl
  | cons word words ih =>
      have isWord := all word List.mem_cons_self
      cases words with
      | nil => rw [joinWords_singleton, split_word isWord]
      | cons second words =>
          rw [joinWords_cons_cons, split_word_space isWord rfl,
            ih fun word member => all word (List.mem_cons_of_mem _ member)]

/-- A blank behind the words changes nothing. -/
theorem split_joinWords_blank {words : List PyText} (all : ∀ word ∈ words, IsWord word) :
    split (joinWords words ++ [' ']) = words := by
  induction words with
  | nil => rfl
  | cons word words ih =>
      have isWord := all word List.mem_cons_self
      cases words with
      | nil => rw [joinWords_singleton, split_word_space isWord rfl, split_nil]
      | cons second words =>
          rw [joinWords_cons_cons, List.append_assoc, List.cons_append, split_word_space isWord rfl,
            ih fun word member => all word (List.mem_cons_of_mem _ member)]

/-- What is left of joined words when they are cut: joined words, perhaps with a blank behind them. -/
theorem take_joinWords {words : List PyText} (all : ∀ word ∈ words, IsWord word) (n : Nat) :
    ∃ kept, (∀ word ∈ kept, IsWord word) ∧ ((joinWords words).take n = joinWords kept ∨
      kept ≠ [] ∧ (joinWords words).take n = joinWords kept ++ [' ']) := by
  induction words generalizing n with
  | nil => exact ⟨[], nofun, .inl (by simp)⟩
  | cons word words ih =>
      have isWord := all word List.mem_cons_self
      have others : ∀ word ∈ words, IsWord word := fun word member => all word (List.mem_cons_of_mem _ member)
      -- a cut inside the first word leaves a part of it
      have short : ∃ kept, (∀ word ∈ kept, IsWord word) ∧ word.take n = joinWords kept := by
        by_cases nothing : word.take n = []
        · exact ⟨[], nofun, nothing⟩
        · have isPart : IsWord (word.take n) := ⟨nothing, fun c member => isWord.visible c (List.mem_of_mem_take member)⟩
          exact ⟨[word.take n], by simpa using isPart, (joinWords_singleton _).symm⟩
      cases words with
      | nil =>
          rcases short with ⟨kept, keptWords, same⟩
          exact ⟨kept, keptWords, .inl ((congrArg (List.take n) (joinWords_singleton word)).trans same)⟩
      | cons second words =>
          rw [joinWords_cons_cons, List.take_append]
          by_cases inside : n ≤ word.length
          · rcases short with ⟨kept, keptWords, same⟩
            exact ⟨kept, keptWords, .inl (by rw [Nat.sub_eq_zero_of_le inside, same]; simp)⟩
          · have beyond : n - word.length = n - word.length - 1 + 1 := by omega
            rw [List.take_of_length_le (by omega), beyond, List.take_succ_cons]
            rcases ih others (n - word.length - 1) with ⟨kept, keptWords, same | ⟨some_, same⟩⟩
            all_goals
              have together : ∀ w ∈ word :: kept, IsWord w := List.forall_mem_cons.mpr ⟨isWord, keptWords⟩
            · rw [same]
              cases kept with
              | nil => exact ⟨[word], together, .inr ⟨nofun, by simp⟩⟩
              | cons first kept => exact ⟨word :: first :: kept, together, .inl (joinWords_cons_cons ..).symm⟩
            · rw [same]
              cases kept with
              | nil => exact absurd rfl some_
              | cons first kept =>
                  refine ⟨word :: first :: kept, together, .inr ⟨nofun, ?_⟩⟩
                  rw [joinWords_cons_cons, List.append_assoc, List.cons_append]

/-- Words that are joined are not tidied up any further. -/
theorem tidy_tidy (text : PyText) : joinWords (split (joinWords (split text))) = joinWords (split text) := by
  rw [split_joinWords (split_isWord text)]

/-- After a cut there is at most a blank at the end to tidy up. -/
theorem tidy_take (text : PyText) (n : Nat) :
    let cut := (joinWords (split text)).take n
    joinWords (split cut) = cut ∨ joinWords (split cut) ≠ [] ∧ joinWords (split cut) ++ [' '] = cut := by
  intro cut
  rcases take_joinWords (split_isWord text) n with ⟨kept, keptWords, same | ⟨some_, same⟩⟩
  · left
    change cut = joinWords kept at same
    rw [same, split_joinWords keptWords]
  · right
    change cut = joinWords kept ++ [' '] at same
    rw [same, split_joinWords_blank keptWords]
    refine ⟨?_, rfl⟩
    cases kept with
    | nil => exact absurd rfl some_
    | cons word kept =>
        intro nothing
        apply (keptWords word List.mem_cons_self).some_
        cases kept with
        | nil =>
            rw [joinWords_singleton] at nothing
            exact nothing
        | cons second kept =>
            rw [joinWords_cons_cons] at nothing
            exact (List.append_eq_nil_iff.mp nothing).1

end PyText
