/-
The text of a metric.  A label value is escaped by four replacements in a row, and a
reader of the exposition format, which knows three escapes, gets back what the writer was
given unless a value has a carriage return.
-/
import Mathlib.Data.List.Basic
import Proxxx.RustStr

namespace Proxxx.Metrics

open List RustStr

def escapeLabel (v : List Char) : List Char :=
  let v := replaceList ['\\'] ['\\', '\\'] 0 v
  let v := replaceList ['"'] ['\\', '"'] 0 v
  let v := replaceList ['\n'] ['\\', 'n'] 0 v
  replaceList ['\r'] ['\\', 'r'] 0 v

/-- A character of a label name, behind the first one or not. -/
def isLabelChar (behind : Bool) (c : Char) : Bool :=
  c.isAlpha || c == '_' || behind && c.isDigit

structure LabelName where
  first : Char
  others : List Char
  plain : isLabelChar false first = true ∧ others.all (isLabelChar true) = true

def LabelName.text (name : LabelName) : List Char :=
  name.first :: name.others

structure MetricName where
  text : List Char
  plain : text.all (fun c => isLabelChar true c || c == ':') = true

/-- A number as it is displayed. -/
structure Number where
  text : List Char
  oneLine : '\n' ∉ text

def labelText (label : LabelName × List Char) : List Char :=
  label.1.text ++ ['=', '"'] ++ escapeLabel label.2 ++ ['"']

structure MetricWriter where
  buf : List Char

def MetricWriter.gauge (writer : MetricWriter) (name : MetricName)
    (labels : List (LabelName × List Char)) (value : Number) : MetricWriter :=
  let labelStr := [','].intercalate (labels.map labelText)
  { buf := writer.buf ++
      (name.text ++ '\x7b' :: (labelStr ++ '\x7d' :: ' ' :: value.text ++ ['\n'])) }

/-- Where a reader of the labels is. -/
inductive Place where
  | label
  | equals
  | value
  | escaped
  | behind
  | closed
deriving Repr, DecidableEq

structure Reader where
  place : Place
  key : List Char := []
  value : List Char := []
  labels : List (List Char × List Char)
deriving Repr, DecidableEq

def unescape : Char → Option Char
  | '\\' => some '\\'
  | '"' => some '"'
  | 'n' => some '\n'
  | _ => none

/-- One character behind the opening brace, as the format has it. -/
def Reader.step (reader : Reader) (c : Char) : Option Reader :=
  match reader.place with
  | .label =>
    if isLabelChar (reader.key != []) c then some { reader with key := reader.key ++ [c] }
    else if c = '=' ∧ reader.key ≠ [] then some { reader with place := .equals }
    else if c = '\x7d' ∧ reader.key = [] then some { reader with place := .closed }
    else none
  | .equals => if c = '"' then some { reader with place := .value } else none
  | .value =>
    if c = '"' then
      some { place := .behind, labels := reader.labels ++ [(reader.key, reader.value)] }
    else if c = '\\' then some { reader with place := .escaped }
    else if c = '\n' then none
    else some { reader with value := reader.value ++ [c] }
  | .escaped => (unescape c).map fun plain =>
      { reader with place := .value, value := reader.value ++ [plain] }
  | .behind =>
    if c = ',' then some { reader with place := .label }
    else if c = '\x7d' then some { reader with place := .closed }
    else none
  | .closed => some reader

/-- The labels of a line. -/
def parseLabels (line : List Char) : Option (List (List Char × List Char)) := do
  let reader ← (line.dropWhile (· != '\x7b')).tail.foldlM Reader.step
    { place := .label, labels := [] }
  if reader.place = .closed then some reader.labels else none

def escapeChar (c : Char) : List Char :=
  if c = '\\' then ['\\', '\\']
  else if c = '"' then ['\\', '"']
  else if c = '\n' then ['\\', 'n']
  else if c = '\r' then ['\\', 'r']
  else [c]

/-- The replacements in a row replace each character once. -/
theorem escapeLabel_eq (v : List Char) : escapeLabel v = v.flatMap escapeChar := by
  simp only [escapeLabel, replaceList_singleton, flatMap_assoc]
  refine flatMap_congr fun c _ => ?_
  unfold escapeChar
  split_ifs <;> simp_all

variable {key value : List Char} {found : List (List Char × List Char)}

/-- Inside the quotes the reader undoes the escapes that it knows. -/
theorem foldlM_escapeChar (c : Char) :
    (escapeChar c).foldlM Reader.step ⟨.value, key, value, found⟩ =
      if c = '\r' then none else some ⟨.value, key, value ++ [c], found⟩ := by
  unfold escapeChar
  split_ifs <;> simp_all [Reader.step, unescape]

theorem foldlM_escapeLabel (v : List Char) :
    (escapeLabel v).foldlM Reader.step ⟨.value, key, value, found⟩ =
      if v.contains '\r' then none else some ⟨.value, key, value ++ v, found⟩ := by
  rw [escapeLabel_eq]
  induction v generalizing value with
  | nil => simp
  | cons c rest ih =>
    rw [flatMap_cons, foldlM_append, foldlM_escapeChar]
    by_cases hreturn : c = '\r'
    · simp [hreturn]
    · simp [hreturn, Ne.symm hreturn, ih]

theorem foldlM_name (name : LabelName) : name.text.foldlM Reader.step
    ⟨.label, [], [], found⟩ = some ⟨.label, name.text, [], found⟩ := by
  have hothers (rest : List Char) (hrest : rest.all (isLabelChar true) = true) (key : List Char)
      (hkey : (key != []) = true) : rest.foldlM Reader.step ⟨.label, key, [], found⟩ =
        some ⟨.label, key ++ rest, [], found⟩ := by
    induction rest generalizing key with
    | nil => simp
    | cons c rest ih =>
      rw [all_cons, Bool.and_eq_true] at hrest
      simpa [Reader.step, hkey, hrest.1] using ih hrest.2 (key ++ [c]) (by simp)
  simpa [LabelName.text, Reader.step, name.plain.1] using
    hothers name.others name.plain.2 [name.first] rfl

theorem foldlM_labelText (label : LabelName × List Char) :
    (labelText label).foldlM Reader.step ⟨.label, [], [], found⟩ =
      if label.2.contains '\r' then none
      else some ⟨.behind, [], [], found ++ [(label.1.text, label.2)]⟩ := by
  have hopen : ['=', '"'].foldlM Reader.step ⟨.label, label.1.text, [], found⟩ =
      some ⟨.value, label.1.text, [], found⟩ := by
    simp [Reader.step, LabelName.text, isLabelChar]
  rw [labelText, foldlM_append, foldlM_append, foldlM_append, foldlM_name]
  simp only [Option.bind_eq_bind, Option.bind_some, hopen, foldlM_escapeLabel]
  split <;> simp [Reader.step]

variable {labels : List (LabelName × List Char)}

theorem foldlM_labels (hsome : labels ≠ []) :
    ([','].intercalate (labels.map labelText)).foldlM Reader.step ⟨.label, [], [], found⟩ =
      if labels.any (·.2.contains '\r') then none
      else some ⟨.behind, [], [], found ++ labels.map fun label => (label.1.text, label.2)⟩ := by
  induction labels generalizing found with
  | nil => exact absurd rfl hsome
  | cons label others ih =>
    cases others with
    | nil => simp [foldlM_labelText]
    | cons next others =>
      rw [map_cons, map_cons, intercalate_cons_cons, ← map_cons, foldlM_append, foldlM_append,
        foldlM_labelText, any_cons]
      cases label.2.contains '\r' with
      | true => rfl
      | false =>
        refine (@ih (found ++ [(label.1.text, label.2)]) (cons_ne_nil _ _)).trans ?_
        rw [append_assoc]
        rfl

theorem foldlM_closed (text : List Char) : text.foldlM Reader.step ⟨.closed, key, value, found⟩ =
    some ⟨.closed, key, value, found⟩ := by
  induction text with
  | nil => rfl
  | cons c rest ih => exact ih

theorem parseLabels_eq (name : MetricName) (behind : List Char) :
    parseLabels (name.text ++ '\x7b' :: ([','].intercalate (labels.map labelText) ++
      '\x7d' :: behind)) = if labels.any (·.2.contains '\r') then none
      else some (labels.map fun label => (label.1.text, label.2)) := by
  have hname : ∀ c ∈ name.text, (c != '\x7b') = true := by
    intro c hc
    rw [bne_iff_ne]
    rintro rfl
    simpa [isLabelChar] using all_eq_true.mp name.plain _ hc
  rw [parseLabels, dropWhile_append_of_pos hname, dropWhile_cons_of_neg (by simp), tail_cons,
    foldlM_append]
  cases labels with
  | nil => simp [Reader.step, isLabelChar, foldlM_closed]
  | cons label others =>
    rw [foldlM_labels (cons_ne_nil _ _)]
    split <;> simp [Reader.step, foldlM_closed]

theorem newline_notMem_labelText (label : LabelName × List Char) : '\n' ∉ labelText label := by
  have hname : '\n' ∉ label.1.text := by
    intro hmem
    rcases mem_cons.mp hmem with hmem | hmem
    · simpa [← hmem, isLabelChar] using label.1.plain.1
    · simpa [isLabelChar] using all_eq_true.mp label.1.plain.2 _ hmem
  have hescaped : ∀ c, '\n' ∉ escapeChar c := by
    intro c
    unfold escapeChar
    split_ifs <;> simp_all [eq_comm]
  simp [labelText, escapeLabel_eq, hname, hescaped]

/-- What a gauge appends is one line from which its labels can be read, exactly if no
value has a carriage return. -/
theorem gauge_round_trips_iff (writer : MetricWriter) (name : MetricName)
    (labels : List (LabelName × List Char)) (value : Number) :
    (∃ line, (writer.gauge name labels value).buf = writer.buf ++ (line ++ ['\n']) ∧ '\n' ∉ line ∧
        parseLabels line = some (labels.map fun label => (label.1.text, label.2))) ↔
      ∀ label ∈ labels, '\r' ∉ label.2 := by
  have hreturns : labels.any (·.2.contains '\r') = false ↔ ∀ label ∈ labels, '\r' ∉ label.2 := by
    simp
  have hbuf : (writer.gauge name labels value).buf = writer.buf ++ (name.text ++ '\x7b' ::
      ([','].intercalate (labels.map labelText) ++ '\x7d' :: ' ' :: value.text) ++ ['\n']) := by
    simp [MetricWriter.gauge]
  rw [hbuf, ← hreturns]
  constructor
  · rintro ⟨line, hline, -, hparse⟩
    rw [← append_cancel_right (append_cancel_left hline), parseLabels_eq] at hparse
    exact eq_false_of_ne_true fun hreturn => by simp only [hreturn, if_true, reduceCtorEq] at hparse
  · intro hreturn
    refine ⟨_, rfl, ?_, by rw [parseLabels_eq, hreturn]; rfl⟩
    have hname : '\n' ∉ name.text := fun hmem => by
      simpa [isLabelChar] using all_eq_true.mp name.plain _ hmem
    have hlabels : '\n' ∉ [','].intercalate (labels.map labelText) := by
      intro hmem
      rcases mem_of_mem_intercalate hmem with hcomma | ⟨part, hpart, hin⟩
      · simp at hcomma
      · obtain ⟨label, -, rfl⟩ := mem_map.mp hpart
        exact newline_notMem_labelText label hin
    simp [hname, hlabels, value.oneLine]

/-- A carriage return is written as an escape that the format lacks. -/
theorem gauge_loses_return : ¬ ∃ line, (MetricWriter.gauge ⟨[]⟩ ⟨['u', 'p'], by decide⟩
      [(⟨'n', [], by decide⟩, ['\r'])] ⟨['1'], by decide⟩).buf = [] ++ (line ++ ['\n']) ∧
    '\n' ∉ line ∧ parseLabels line = some [(['n'], ['\r'])] := by
  rintro ⟨line, hline, -, hparse⟩
  obtain rfl : "up\x7bn=\"\\r\"\x7d 1".toList = line := append_cancel_right hline
  revert hparse
  decide

end Proxxx.Metrics
