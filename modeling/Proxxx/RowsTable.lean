/-
The table that is printed for an array of JSON values.  Columns are collected
over all rows, with nested objects spread into columns of their own, so a column
can be claimed by the key paths of different rows.  The last one gets it, and
that is all that a value in the table can be lost by.
-/
import Mathlib
import Proxxx.RustStr
import Proxxx.SerdeJson

namespace Proxxx

open SerdeJson List RustStr
open RustStr (isControl)

section Cells

def isSafeByte (byte : Nat) : Bool :=
  byte == 0x09 || (decide (0x20 ≤ byte) && byte != 0x7F)

/-- What may reach the terminal: no control characters but the tab. -/
def isSafeChar (c : Char) : Bool :=
  if c.toNat < 0x80 then isSafeByte c.toNat else decide (0x9F < c.toNat)

def sanitizeDisplay (text : String) : String :=
  if text.toList.all isSafeChar then text
  else String.ofList (text.toList.filter isSafeChar)

def replaceChar (c : Char) (replacement : List Char) (text : List Char) : List Char :=
  text.flatMap fun d => if d = c then replacement else [d]

def tableCell (text : String) : String :=
  let escaped := replaceChar '\r' ['\\', 'r']
    (replaceChar '\n' ['\\', 'n'] (replaceChar '\t' ['\\', 't'] text.toList))
  sanitizeDisplay (String.ofList escaped)

end Cells

/-- What the library contributes: the upper case of a text, and a value written
as compact JSON. -/
structure TextLibrary where
  toUppercase : String → String
  toJson : Json → String

def isObject : Json → Bool
  | .obj _ => true
  | _ => false

/-- Neither an object nor an array. -/
def isScalar : Json → Bool
  | .obj _ => false
  | .arr _ => false
  | _ => true

/-- Where a column takes its values from. -/
structure ColumnPath where
  key : String
  sub : Option String
deriving Repr, DecidableEq

abbrev Row := List (String × Json)

def envelopeKeys : List String := ["data"]

section Render

variable (text : TextLibrary)

def scalarText : Json → String
  | .str value => value
  | .null => "-"
  | other => text.toJson other

def cellText : Json → String
  | .arr items =>
    if items.all isScalar then
      if items.isEmpty then "-"
      else RustStr.join (items.map (scalarText text)) ','
    else text.toJson (.arr items)
  | other => scalarText text other

def asObject : Json → Option Row
  | .obj entries => some entries
  | _ => none

/-- The header of a nested value; an envelope's keys become the row's own unless
the row has them already. -/
def nestedHeader (row : Row) (key sub : String) : String :=
  if envelopeKeys.contains key && (row.lookup sub).isNone then sub
  else key ++ "." ++ sub

/-- The columns that a row asks for, as headers with their paths. -/
def rowColumns (row : Row) : List (String × ColumnPath) :=
  row.flatMap fun (key, value) =>
    match value with
    | .obj (first :: rest) =>
      (first :: rest).map fun (sub, _) => (nestedHeader row key sub, ⟨key, some sub⟩)
    | _ => [(key, ⟨key, none⟩)]

/-- Columns sorted by header; a later path replaces an earlier one. -/
def columns (rows : List Row) : Std.TreeMap String ColumnPath :=
  rows.foldl (fun found row =>
      (rowColumns row).foldl (fun found column => found.insert column.1 column.2) found)
    ∅

def valueAt (row : Row) (path : ColumnPath) : Option Json :=
  match path.sub with
  | none => row.lookup path.key
  | some sub => (row.lookup path.key).bind (·.get? sub)

def rowCell (row : Row) (path : ColumnPath) : String :=
  match valueAt row path with
  | some value => tableCell (cellText text value)
  | none => "-"

/-- Each line with its line break. -/
def pushLines (out : String) (lines : List String) : String :=
  lines.foldl (fun out line => out ++ line ++ "\n") out

def headerLine (rows : List Row) : String :=
  RustStr.join ((columns rows).toList.map fun column => tableCell (text.toUppercase column.1)) '\t'

def rowLine (rows : List Row) (row : Row) : String :=
  RustStr.join ((columns rows).toList.map fun column => rowCell text row column.2) '\t'

def rowsTable (items : List Json) : String :=
  if items.isEmpty then "(no results)\n"
  else if !items.any isObject then
    pushLines "" (items.map fun item => tableCell (cellText text item))
  else
    let rows := items.filterMap asObject
    pushLines (headerLine text rows ++ "\n") (rows.map (rowLine text rows))

end Render

section Cells

variable {c : Char}

theorem isControl_of_safe (hsafe : isSafeChar c = true) (htab : c ≠ '\t') :
    isControl c = false := by
  have hne : c.toNat ≠ 9 := by
    intro hnine
    exact htab (Char.toNat_inj.mp hnine)
  simp only [isSafeChar, isSafeByte] at hsafe
  simp only [isControl]
  split at hsafe <;> simp at hsafe ⊢ <;> omega

theorem not_mem_replaceChar {replacement : List Char} (chars : List Char)
    (hreplacement : c ∉ replacement) : c ∉ replaceChar c replacement chars := by
  simp only [replaceChar, mem_flatMap, not_exists, not_and]
  intro d _
  split
  · exact hreplacement
  · rename_i hne
    simpa using Ne.symm hne

theorem not_mem_replaceChar_of_not_mem {d : Char} {replacement chars : List Char}
    (hreplacement : d ∉ replacement) (hchars : d ∉ chars) :
    d ∉ replaceChar c replacement chars := by
  simp only [replaceChar, mem_flatMap, not_exists, not_and]
  intro e he
  split
  · exact hreplacement
  · rw [mem_singleton]
    rintro rfl
    exact hchars he

theorem safe_of_mem_sanitizeDisplay {text : String} (hc : c ∈ (sanitizeDisplay text).toList) :
    isSafeChar c = true ∧ c ∈ text.toList := by
  unfold sanitizeDisplay at hc
  split at hc
  · rename_i hall
    exact ⟨all_eq_true.mp hall c hc, hc⟩
  · rw [String.toList_ofList, mem_filter] at hc
    exact ⟨hc.2, hc.1⟩

/-- A cell has no control character, whatever the text. -/
theorem isControl_tableCell (text : String) (hc : c ∈ (tableCell text).toList) :
    isControl c = false := by
  obtain ⟨hsafe, hmem⟩ := safe_of_mem_sanitizeDisplay hc
  rw [String.toList_ofList] at hmem
  refine isControl_of_safe hsafe ?_
  rintro rfl
  refine not_mem_replaceChar_of_not_mem (by decide) ?_ hmem
  refine not_mem_replaceChar_of_not_mem (by decide) ?_
  exact not_mem_replaceChar _ (by decide)

theorem free_of_controls {cell : String} (hcell : ∀ c ∈ cell.toList, isControl c = false) :
    '\t' ∉ cell.toList ∧ '\n' ∉ cell.toList :=
  ⟨fun htab => absurd (hcell _ htab) (by decide), fun hline => absurd (hcell _ hline) (by decide)⟩

end Cells

section Columns

variable {header : String} {path : ColumnPath} {rows : List Row} {row : Row}

/-- The last path of the rows under a header. -/
def lastPath (rows : List Row) (header : String) : Option ColumnPath :=
  (rows.flatMap rowColumns).reverse.lookup header

theorem getElem?_foldl_insert (found : Std.TreeMap String ColumnPath)
    (pairs : List (String × ColumnPath)) :
    (pairs.foldl (fun found pair => found.insert pair.1 pair.2) found)[header]? =
      (pairs.reverse.lookup header).or found[header]? := by
  induction pairs generalizing found with
  | nil => rfl
  | cons pair rest ih =>
    rw [foldl_cons, ih, reverse_cons, List.lookup_append,
      Option.or_assoc, Std.TreeMap.getElem?_insert]
    congr 1
    obtain ⟨name, kept⟩ := pair
    by_cases hsame : header = name
    · subst hsame
      simp
    · have hcompare : compare name header ≠ .eq := by
        rw [Ne, Std.compare_eq_iff_eq]
        exact Ne.symm hsame
      have hbeq : (header == name) = false := beq_false_of_ne hsame
      simp [List.lookup_cons, hbeq, hcompare]

/-- A column belongs to the last path under its header. -/
theorem mem_columns_iff :
    (header, path) ∈ (columns rows).toList ↔ lastPath rows header = some path := by
  have hcolumns : columns rows = (rows.flatMap rowColumns).foldl
      (fun found pair => found.insert pair.1 pair.2) ∅ := by rw [columns, foldl_flatMap]
  rw [Std.TreeMap.mem_toList_iff_getElem?_eq_some, hcolumns, getElem?_foldl_insert]
  simp [lastPath]

theorem pair_mem_of_lookup {α : Type} {entries : List (String × α)} {value : α}
    (hvalue : entries.lookup header = some value) : (header, value) ∈ entries := by
  obtain ⟨front, behind, rfl, -⟩ := lookup_eq_some_iff.mp hvalue
  exact mem_append_right front mem_cons_self

/-- A row asks for a column for each of its scalars. -/
theorem exists_mem_rowColumns {value : Json} (hvalue : valueAt row path = some value)
    (hscalar : isScalar value = true) : ∃ header, (header, path) ∈ rowColumns row := by
  obtain ⟨key, sub⟩ := path
  cases sub with
  | none =>
    have hentry := pair_mem_of_lookup hvalue
    refine ⟨key, mem_flatMap.mpr ⟨(key, value), hentry, ?_⟩⟩
    cases value with
    | obj => cases hscalar
    | _ => exact mem_singleton_self _
  | some sub =>
    obtain ⟨outer, houter, hinner⟩ := Option.bind_eq_some_iff.mp hvalue
    have hentry := pair_mem_of_lookup houter
    cases outer with
    | obj entries =>
      have hsub := pair_mem_of_lookup hinner
      cases entries with
      | nil => cases hsub
      | cons first rest =>
        refine ⟨nestedHeader row key sub, mem_flatMap.mpr ⟨(key, _), hentry, ?_⟩⟩
        exact mem_map.mpr ⟨(sub, value), hsub, rfl⟩
    | _ => cases hinner

/-- A scalar has a column of its own unless other paths share its headers. -/
theorem exists_lastPath {value : Json} (hrow : row ∈ rows)
    (hvalue : valueAt row path = some value) (hscalar : isScalar value = true)
    (hunshared : ∀ header, (header, path) ∈ rowColumns row →
      ∀ other ∈ rows, ∀ path', (header, path') ∈ rowColumns other → path' = path) :
    ∃ header, lastPath rows header = some path := by
  obtain ⟨header, hmem⟩ := exists_mem_rowColumns hvalue hscalar
  have hasked : (header, path) ∈ (rows.flatMap rowColumns).reverse :=
    mem_reverse.mpr (mem_flatMap.mpr ⟨row, hrow, hmem⟩)
  have hsome : (lastPath rows header).isSome = true :=
    lookup_isSome_iff.mpr ⟨_, hasked, beq_self_eq_true header⟩
  obtain ⟨last, hlast⟩ := Option.isSome_iff_exists.mp hsome
  have hfound := pair_mem_of_lookup hlast
  rw [mem_reverse, mem_flatMap] at hfound
  obtain ⟨other, hother, hpath⟩ := hfound
  exact ⟨header, by rw [hlast, hunshared header hmem other hother last hpath]⟩

end Columns

section Lines

variable (text : TextLibrary)

theorem pushLines_eq_join (out : String) (lines : List String) :
    pushLines out lines = out ++ RustStr.join (lines ++ [""]) '\n' := by
  induction lines generalizing out with
  | nil => simp [pushLines, RustStr.join]
  | cons line rest ih =>
    have hstep : pushLines out (line :: rest) = pushLines (out ++ line ++ "\n") rest := rfl
    have hjoin : RustStr.join (line :: (rest ++ [""])) '\n' =
        line ++ "\n" ++ RustStr.join (rest ++ [""]) '\n' := by
      have hsplit := join_append (cons_ne_nil line [])
        (append_ne_nil_of_right_ne_nil rest (cons_ne_nil "" []))
        (c := '\n')
      simpa [RustStr.join] using hsplit
    rw [hstep, ih, cons_append, hjoin]
    simp only [String.append_assoc]

theorem split_pushLines {lines : List String} (hfree : ∀ line ∈ lines, '\n' ∉ line.toList) :
    RustStr.split (pushLines "" lines) '\n' = lines ++ [""] := by
  rw [pushLines_eq_join, String.empty_append, split_join]
  · intro part hpart
    rcases mem_append.mp hpart with hline | hlast
    · exact hfree part hline
    · obtain rfl := mem_singleton.mp hlast
      simp
  · simp

variable {cells : List String}

theorem isControl_rowCell (row : Row) (path : ColumnPath) :
    ∀ c ∈ (rowCell text row path).toList, isControl c = false := by
  unfold rowCell
  split
  · exact fun c hc => isControl_tableCell _ hc
  · simp [isControl]

/-- A line of cells without control characters. -/
structure CellLine (cells : List String) (line : String) : Prop where
  joined : line = RustStr.join cells '\t'
  plain : ∀ cell ∈ cells, ∀ c ∈ cell.toList, isControl c = false

variable {line : String}

theorem CellLine.split (hline : CellLine cells line) :
    RustStr.split line '\t' = if cells = [] then [""] else cells := by
  rw [hline.joined]
  split
  next hempty =>
    rw [hempty]
    exact split_of_not_mem (by simp [RustStr.join])
  next hcells =>
    exact split_join (fun cell hcell => (free_of_controls (hline.plain cell hcell)).1) hcells

theorem CellLine.plain_cells (hline : CellLine cells line) :
    ∀ cell ∈ RustStr.split line '\t', ∀ c ∈ cell.toList, isControl c = false := by
  rw [hline.split]
  split
  · simp
  · exact hline.plain

theorem CellLine.one_line (hline : CellLine cells line) : '\n' ∉ line.toList := by
  rw [hline.joined, RustStr.join, String.toList_intercalate]
  intro hbreak
  rcases mem_of_mem_intercalate hbreak with htab | ⟨part, hpart, hin⟩
  · simp at htab
  · obtain ⟨cell, hcell, rfl⟩ := mem_map.mp hpart
    exact (free_of_controls (hline.plain cell hcell)).2 hin

theorem headerLine_cells (rows : List Row) : CellLine ((columns rows).toList.map fun column =>
      tableCell (text.toUppercase column.1)) (headerLine text rows) where
  joined := rfl
  plain := by
    simp only [forall_mem_map]
    exact fun _ _ c hc => isControl_tableCell _ hc

theorem rowLine_cells (rows : List Row) (row : Row) :
    CellLine ((columns rows).toList.map fun column => rowCell text row column.2)
      (rowLine text rows row) where
  joined := rfl
  plain := by
    simp only [forall_mem_map]
    exact fun _ _ => isControl_rowCell text row _

/-- A header and lines are a table of some rows: a line for each row, as many
cells in every line, no control character in a cell, and each scalar in the line
of its row, in the column of its key path, unless another path has taken every
header that it has. -/
structure IsTable (rows : List Row) (header : String) (lines : List String) : Prop where
  lines_length : lines.length = rows.length
  width : ∃ width, ∀ line ∈ header :: lines, (RustStr.split line '\t').length = width
  plain : ∀ line ∈ header :: lines, ∀ cell ∈ RustStr.split line '\t',
    ∀ c ∈ cell.toList, isControl c = false
  shown : ∀ (i : Nat) (row : Row), rows[i]? = some row →
    ∀ path value, valueAt row path = some value → isScalar value = true →
    (∃ name, lastPath rows name = some path) →
    ∃ (line : String) (j : Nat) (name : String), lines[i]? = some line ∧
      (columns rows).toList[j]? = some (name, path) ∧
      (RustStr.split header '\t')[j]? = some (tableCell (text.toUppercase name)) ∧
      (RustStr.split line '\t')[j]? = some (tableCell (cellText text value))

theorem cellLines (rows : List Row) : ∀ line ∈ headerLine text rows :: rows.map (rowLine text rows),
    ∃ cells, CellLine cells line ∧ cells.length = (columns rows).toList.length := by
  simp only [forall_mem_cons, forall_mem_map]
  exact ⟨⟨_, headerLine_cells text rows, length_map _⟩,
    fun row _ => ⟨_, rowLine_cells text rows row, length_map _⟩⟩

theorem isTable (rows : List Row) :
    IsTable text rows (headerLine text rows) (rows.map (rowLine text rows)) where
  lines_length := length_map _
  width := by
    refine ⟨if (columns rows).toList.length = 0 then 1
      else (columns rows).toList.length, fun line hline => ?_⟩
    obtain ⟨cells, hcells, hlength⟩ := cellLines text rows line hline
    rw [hcells.split, ← hlength]
    by_cases hempty : cells = [] <;> simp [hempty]
  plain := by
    intro line hline
    obtain ⟨cells, hcells, -⟩ := cellLines text rows line hline
    exact hcells.plain_cells
  shown := by
    rintro i row hrow path value hvalue - ⟨name, hlast⟩
    obtain ⟨j, hj⟩ := mem_iff_getElem?.mp (mem_columns_iff.mpr hlast)
    have hcolumns : (columns rows).toList ≠ [] := by
      rintro hempty
      rw [hempty] at hj
      cases hj
    refine ⟨rowLine text rows row, j, name, ?_, hj, ?_, ?_⟩
    · rw [List.getElem?_map, hrow]
      rfl
    · rw [(headerLine_cells text rows).split, if_neg (by simpa using hcolumns),
        List.getElem?_map, hj]
      rfl
    · rw [(rowLine_cells text rows row).split, if_neg (by simpa using hcolumns),
        List.getElem?_map, hj, Option.map_some, rowCell, hvalue]

/-- An array with an object is a table. -/
theorem rowsTable_of_object {items : List Json} (hobject : items.any isObject = true) :
    rowsTable text items = pushLines "" (headerLine text (items.filterMap asObject) ::
        (items.filterMap asObject).map (rowLine text (items.filterMap asObject))) := by
  have hnonempty : items.isEmpty = false := by
    cases items with
    | nil => cases hobject
    | cons => rfl
  rw [rowsTable, hnonempty, hobject]
  rfl

end Lines

namespace RowsTableWitness

/-- Plain texts, with every number written as `100`. -/
def library : TextLibrary := ⟨id, fun _ => "100"⟩

def found : Row :=
  [("data", .obj [("node", .str "pve1"), ("vmid", .int 100)]), ("profile", .str "lab")]

def unreachable : Row :=
  [("error", .str "refused"), ("profile", .str "down")]

end RowsTableWitness

end Proxxx
