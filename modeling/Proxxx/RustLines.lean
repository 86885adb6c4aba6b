/-
Texts read line by line and word by word: the lines of a buffered reader, the
words between white space, and what a written line reads back as.
-/
import Mathlib.Data.List.DropRight
import Proxxx.RustStr

namespace RustStr

open List

section Words

/-- A text that stays one word between white space. -/
def IsWord (text : List Char) : Prop :=
  text ≠ [] ∧ ∀ c ∈ text, isWhitespace c = false

instance (text : List Char) : Decidable (IsWord text) :=
  @instDecidableAnd _ _ _ (List.decidableBAll _ text)

def wordsList (text : List Char) : List (List Char) :=
  (text.splitOnP isWhitespace).filter (!·.isEmpty)

/-- `str::split_whitespace`. -/
def splitWhitespace (text : String) : List String :=
  (wordsList text.toList).map String.ofList

variable {word rest : List Char} {space : Char}

theorem wordsList_space (hspace : isWhitespace space = true)
    (rest : List Char) : wordsList (space :: rest) = wordsList rest := by
  rw [wordsList, splitOnP_cons_eq_if_modifyHead, if_pos hspace]
  rfl

/-- A word before white space is the first one. -/
theorem wordsList_append (hword : IsWord word)
    (hspace : isWhitespace space = true) (rest : List Char) :
    wordsList (word ++ space :: rest) = word :: wordsList rest := by
  rw [wordsList, splitOnP_append_cons_of_forall_mem hword.2 space hspace,
    filter_cons, if_pos (by simpa using hword.1)]
  rfl

theorem isWord_of_mem_wordsList {text : List Char}
    (hword : word ∈ wordsList text) : IsWord word := by
  obtain ⟨hpart, hsome⟩ := mem_filter.mp hword
  exact ⟨by simpa using hsome, free_of_mem_splitOnP hpart⟩

/-- Where the text begins with no white space, its first word begins it. -/
theorem head_wordsList {c : Char} {text word : List Char}
    {others : List (List Char)} (hc : isWhitespace c = false)
    (hwords : wordsList (c :: text) = word :: others) :
    word.head? = some c := by
  obtain ⟨first, later, hparts⟩ := exists_cons_of_ne_nil (splitOnP_ne_nil isWhitespace text)
  rw [wordsList, splitOnP_cons_eq_if_modifyHead, if_neg (by simp [hc]),
    hparts, modifyHead_cons, filter_cons, if_pos (by simp)] at hwords
  rw [← (List.cons.inj hwords).1]
  rfl

theorem isWhitespace_of_isDigit {c : Char} (hdigit : c.isDigit = true) :
    isWhitespace c = false := by
  obtain ⟨hlow, hhigh⟩ : 48 ≤ c.toNat ∧ c.toNat ≤ 57 := by
    simpa [Char.isDigit, UInt32.le_iff_toNat_le] using hdigit
  simp only [isWhitespace, Bool.or_eq_false_iff, Bool.and_eq_false_iff,
    decide_eq_false_iff_not, beq_eq_false_iff_ne]
  omega

end Words

section Trimmed

/-- A text between two words is already trimmed. -/
theorem trimList_words {front middle back : List Char} (hfront : IsWord front)
    (hback : IsWord back) :
    trimList (front ++ middle ++ back) = front ++ middle ++ back := by
  obtain ⟨first, others, rfl⟩ := exists_cons_of_ne_nil hfront.1
  obtain ⟨before, last, rfl⟩ := (eq_nil_or_concat back).resolve_left hback.1
  have hfirst : isWhitespace first = false := hfront.2 first (by simp)
  have hlast : isWhitespace last = false := hback.2 last (by simp)
  simp [trimList, hfirst, hlast]

/-- What is left of a trimmed text begins with no white space. -/
theorem head_trimList {text rest : List Char} {c : Char}
    (htrim : trimList text = c :: rest) : isWhitespace c = false := by
  have hfront : trimList text <+: text.dropWhile isWhitespace := by
    rw [trimList, ← reverse_suffix, reverse_reverse]
    exact dropWhile_suffix isWhitespace
  rw [htrim] at hfront
  obtain ⟨later, hlater⟩ := hfront
  have hhead := List.head?_dropWhile_not isWhitespace text
  rw [← hlater] at hhead
  simpa using hhead

theorem trimList_trimList {text : List Char} : trimList (trimList text) = trimList text := by
  have hfront : (trimList text).dropWhile isWhitespace = trimList text := by
    cases htrim : trimList text with
    | nil => rfl
    | cons c rest => simp [head_trimList htrim]
  rw [trimList, hfront, trimList, reverse_reverse, dropWhile_idempotent]

theorem mem_of_mem_trimList {text : List Char} {c : Char} (hc : c ∈ trimList text) : c ∈ text := by
  rw [trimList, mem_reverse] at hc
  have hback := (dropWhile_suffix isWhitespace).subset hc
  rw [mem_reverse] at hback
  exact (dropWhile_suffix isWhitespace).subset hback

end Trimmed

section Lines

/-- A line without the carriage return of its end. -/
def stripReturn (line : List Char) : List Char :=
  if line.getLast? = some '\r' then line.dropLast else line

/-- The lines of a text: those that a line feed ends, without it, and what is
left behind the last one, if anything. -/
def linesList (text : List Char) : List (List Char) :=
  let parts := text.splitOn '\n'
  parts.dropLast.map stripReturn ++ [parts.getLastD []].filter (!·.isEmpty)

/-- `BufRead::lines`, on a text that is read without errors. -/
def bufLines (text : String) : List String :=
  (linesList text.toList).map String.ofList

theorem linesList_nil : linesList [] = [] := by decide

/-- The first line of a text. -/
theorem linesList_append {line : List Char} (hline : '\n' ∉ line) (rest : List Char) :
    linesList (line ++ '\n' :: rest) = stripReturn line :: linesList rest := by
  have hparts : (line ++ '\n' :: rest).splitOn '\n' = line :: rest.splitOn '\n' := by
    apply splitOnP_append_cons_of_forall_mem
    · intro c hc
      have hne : c ≠ '\n' := fun heq => hline (heq ▸ hc)
      simpa using hne
    · rfl
  obtain ⟨first, later, hrest⟩ := exists_cons_of_ne_nil (splitOn_ne_nil '\n' rest)
  rw [linesList, linesList, hparts, hrest]
  simp

end Lines

end RustStr
