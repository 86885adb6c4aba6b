/-
The quoting of remote command lines.  A shell reads a line with a small state machine;
what each quoting function puts between two spaces it reads as one word, which is the
quoted text and has nothing in it to expand.
-/
import Proxxx.TokenBootstrap

namespace Proxxx.Shell

open List

def shellSingleQuote (text : String) : String :=
  "'" ++ String.ofList (text.toList.flatMap fun c =>
    if c = '\'' then ['\'', '\\', '\'', '\''] else [c]) ++ "'"

def shellQuote (text : String) : String :=
  if text.isEmpty then "''"
  else if text.toList.all fun c => c.isAlphanum || ['@', '!', '_', '-', '.'].contains c then text
  else "'" ++ RustStr.replace text "'" "'\\''" ++ "'"

inductive Mode where
  | bare
  | escaped
  | single
  | double
  | doubleEscaped
  | comment
deriving Repr, DecidableEq

/-- A word keeps of each character whether it was quoted. -/
inductive Token where
  | word (chars : List (Char × Bool))
  | operator (c : Char)
deriving Repr, DecidableEq

/-- A shell inside a line, with the word it is reading, if any. -/
structure Reader where
  mode : Mode
  word : Option (List (Char × Bool))
  tokens : List Token
deriving Repr, DecidableEq

def Reader.add (reader : Reader) (c : Char) (quoted : Bool) : Reader :=
  { reader with word := some (reader.word.getD [] ++ [(c, quoted)]) }

def Reader.endWord (reader : Reader) : Reader :=
  { reader with word := none, tokens := reader.tokens ++ (reader.word.map Token.word).toList }

def Reader.operator (reader : Reader) (c : Char) : Reader :=
  { reader.endWord with mode := .bare, tokens := reader.endWord.tokens ++ [.operator c] }

/-- Characters that stand for themselves only when they are quoted. -/
def specials : List Char :=
  ['$', '\x60', '*', '?', '[', '~', '=', '\x7b', '\x7d']

def operators : List Char :=
  ['|', '&', ';', '<', '>', '(', ')', '\n']

/-- One character of a line. -/
def Reader.step (reader : Reader) (c : Char) : Reader :=
  match reader.mode with
  | .bare =>
    if c = '\\' then { reader with mode := .escaped }
    else if c = '\'' then { reader with mode := .single, word := some (reader.word.getD []) }
    else if c = '"' then { reader with mode := .double, word := some (reader.word.getD []) }
    else if c = ' ' ∨ c = '\t' then reader.endWord
    else if c ∈ operators then reader.operator c
    else if c = '#' ∧ reader.word = none then { reader with mode := .comment }
    else reader.add c false
  | .escaped => if c = '\n' then { reader with mode := .bare }
    else { reader.add c true with mode := .bare }
  | .single => if c = '\'' then { reader with mode := .bare } else reader.add c true
  | .double =>
    if c = '"' then { reader with mode := .bare }
    else if c = '\\' then { reader with mode := .doubleEscaped }
    else reader.add c (c ≠ '$' ∧ c ≠ '\x60')
  | .doubleEscaped =>
    if c = '\n' then { reader with mode := .double }
    else if c ∈ ['$', '\x60', '"', '\\'] then { reader.add c true with mode := .double }
    else { (reader.add '\\' true).add c true with mode := .double }
  | .comment => if c = '\n' then reader.operator c else reader

/-- The token is a word with this text, as it stands. -/
def Token.Literal (text : String) : Token → Prop
  | .word chars => chars.map Prod.fst = text.toList ∧
      ∀ part ∈ chars, part.2 = false → part.1 ∉ specials
  | .operator _ => False

/-- Between two spaces outside of quotes the quoted text is one word, and that is the
text. -/
def OneWord (text quoted : String) : Prop :=
  ∀ word tokens, ∃ token, token.Literal text ∧
    (' ' :: quoted.toList ++ [' ']).foldl Reader.step ⟨.bare, word, tokens⟩ =
      ⟨.bare, none, (Reader.mk .bare word tokens).endWord.tokens ++ [token]⟩

variable {text : List Char} {chars : List (Char × Bool)} {tokens : List Token}

/-- A quote in the text leaves the quotes, is escaped, and enters them again. -/
theorem foldl_quoted : (text.flatMap fun c =>
      if c = '\'' then ['\'', '\\', '\'', '\''] else [c]).foldl Reader.step
        ⟨.single, some chars, tokens⟩ =
    ⟨.single, some (chars ++ text.map (·, true)), tokens⟩ := by
  induction text generalizing chars with
  | nil => simp
  | cons c rest ih =>
    rw [flatMap_cons, foldl_append]
    by_cases hquote : c = '\''
    · subst hquote
      simpa [Reader.step, Reader.add] using @ih (chars ++ [('\'', true)])
    · simpa [Reader.step, Reader.add, hquote] using @ih (chars ++ [(c, true)])

theorem oneWord_shellSingleQuote (text : String) : OneWord text (shellSingleQuote text) := by
  intro word tokens
  refine ⟨.word (text.toList.map (·, true)), ⟨by simp [Function.comp_def], by simp⟩, ?_⟩
  have hline : ' ' :: (shellSingleQuote text).toList ++ [' '] = [' ', '\''] ++
      (text.toList.flatMap fun c => if c = '\'' then ['\'', '\\', '\'', '\''] else [c]) ++
        ['\'', ' '] := by simp [shellSingleQuote]
  rw [hline, foldl_append, foldl_append]
  have hstart : [' ', '\''].foldl Reader.step ⟨.bare, word, tokens⟩ =
      ⟨.single, some [], (Reader.mk .bare word tokens).endWord.tokens⟩ := rfl
  rw [hstart, foldl_quoted]
  rfl

theorem quoteSingle_eq (text : String) :
    TokenBootstrap.quoteSingle text = shellSingleQuote text := by
  simp [TokenBootstrap.quoteSingle, shellSingleQuote, RustStr.replace,
    RustStr.replaceList_singleton]

/-- Letters, digits and the signs that one of the functions leaves bare. -/
def isBare (c : Char) : Bool :=
  c.isAlphanum || ['@', '!', '_', '-', '.', '/'].contains c

theorem not_mem_of_bare {c : Char} (hbare : isBare c = true) :
    c ∉ ['\\', '\'', '"', ' ', '\t', '#'] ++ operators ++ specials := by
  have hnone : (['\\', '\'', '"', ' ', '\t', '#'] ++ operators ++ specials).any isBare = false := by
    decide
  exact fun hmem => any_eq_false.mp hnone c hmem hbare

theorem foldl_bare (hbare : ∀ c ∈ text, isBare c = true) {word : Option (List (Char × Bool))}
    (hword : word = none → text ≠ []) :
    text.foldl Reader.step ⟨.bare, word, tokens⟩ =
      ⟨.bare, some (word.getD [] ++ text.map (·, false)), tokens⟩ := by
  induction text generalizing word with
  | nil => cases word <;> simp_all
  | cons c rest ih =>
    obtain ⟨hc, hrest⟩ := forall_mem_cons.mp hbare
    have hstep : Reader.step ⟨.bare, word, tokens⟩ c =
        ⟨.bare, some (word.getD [] ++ [(c, false)]), tokens⟩ := by
      have hplain := not_mem_of_bare hc
      simp only [mem_append, mem_cons, not_mem_nil, or_false, not_or] at hplain
      simp [Reader.step, Reader.add, hplain]
    rw [foldl_cons, hstep, ih hrest (by simp)]
    simp

theorem oneWord_of_bare {text : String} {signs : List Char}
    (hsigns : signs ⊆ ['@', '!', '_', '-', '.', '/']) (hsome : text.isEmpty = false)
    (hall : text.toList.all (fun c => c.isAlphanum || signs.contains c) = true) :
    OneWord text text := by
  have hbare : ∀ c ∈ text.toList, isBare c = true := by
    intro c hc
    have hsign := all_eq_true.mp hall c hc
    rw [Bool.or_eq_true, contains_iff_mem] at hsign
    rw [isBare, Bool.or_eq_true, contains_iff_mem]
    exact hsign.imp_right (hsigns ·)
  intro word tokens
  refine ⟨.word (text.toList.map (·, false)), ⟨by simp [Function.comp_def], ?_⟩, ?_⟩
  · intro part hpart _ hspecial
    obtain ⟨c, hc, rfl⟩ := mem_map.mp hpart
    exact not_mem_of_bare (hbare c hc) (mem_append_right _ hspecial)
  · have hstart : Reader.step ⟨.bare, word, tokens⟩ ' ' =
        ⟨.bare, none, (Reader.mk .bare word tokens).endWord.tokens⟩ := rfl
    rw [cons_append, foldl_cons, hstart, foldl_append, foldl_bare hbare (by simpa using hsome)]
    rfl

/-- What every quoting function makes of a text a shell reads as that text. -/
theorem quoted_text_is_one_word (text : String) :
    OneWord text (shellSingleQuote text) ∧ OneWord text (shellQuote text) ∧
    OneWord text (TokenBootstrap.quoteArg text) ∧
    OneWord text (TokenBootstrap.quoteSingle text) := by
  have hsingle := oneWord_shellSingleQuote text
  rw [← quoteSingle_eq] at hsingle
  refine ⟨oneWord_shellSingleQuote text, ?_, ?_, hsingle⟩
  · unfold shellQuote
    split
    next hempty =>
      rw [String.isEmpty_iff.mp hempty]
      exact oneWord_shellSingleQuote ""
    next hsome =>
      split
      next hbare => exact oneWord_of_bare (by decide) (by simpa using hsome) hbare
      next => exact hsingle
  · unfold TokenBootstrap.quoteArg
    split
    next hbare =>
      rw [Bool.and_eq_true, Bool.not_eq_true'] at hbare
      exact oneWord_of_bare (by decide) hbare.1 hbare.2
    next => exact hsingle

end Proxxx.Shell
