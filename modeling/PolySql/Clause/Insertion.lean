import PolySql.Clause.Operand

/-!
# Inserted rows

What follows the table of an `INSERT`.  Rows may be given by columns: each column lists its cells
from the first row down, and a list that is shorter than the longest goes on with its last cell.
-/

namespace PolySql

/-- The rows of an insertion. -/
inductive Insertion (σ : Type) where
  | raw (sql : String)
  /-- One row, a cell for each column; without columns a row of defaults. -/
  | row (cells : List (String × Operand σ))
  /-- A list of cells for each column. -/
  | columns (columns : List (String × List (Operand σ)))
  /-- The rows of a query. -/
  | query (columns : List String) (query : σ)

namespace Insertion

variable {σ τ : Type}

def map (f : σ → τ) : Insertion σ → Insertion τ
  | raw sql => raw sql
  | row cells => row (cells.map fun (column, cell) => (column, cell.map f))
  | columns lists =>
    columns (lists.map fun (column, cells) => (column, cells.map (·.map f)))
  | query names q => query names (f q)

/-- One row of the cells of a map. -/
def ofRow (cells : OrderedMap String (Operand σ)) : Insertion σ := row cells.entries

/-- The rows whose columns are the lists of a map. -/
def ofColumns (lists : OrderedMap String (List (Operand σ))) : Insertion σ :=
  columns lists.entries

/-- Column names in parentheses. -/
def columnNames (d : Dialect) (names : List String) : String :=
  "(" ++ ", ".intercalate (names.map d.quoteName) ++ ")"

/-- The cell of row `i`: the list's own, or its last. -/
def cellAt? (i : Nat) (cells : List (Operand σ)) : Option (Operand σ) :=
  cells[min i (cells.length - 1)]?

/-- The cells of row `i`, one for each list that has any. -/
def rowCells (lists : List (List (Operand σ))) (i : Nat) : List (Operand σ) :=
  lists.filterMap (cellAt? i)

/-- The number of rows: the length of the longest list. -/
def rowCount (lists : List (List (Operand σ))) : Nat := (lists.map List.length).max?.getD 0

/-- The cells of one row in parentheses. -/
def rowTemplate (d : Dialect) (cells : List (Operand Rendering)) : Rendering :=
  return (← Operand.listTemplate d cells).parens

/-- The first column whose list is empty. -/
def emptyColumn? (lists : List (String × List (Operand σ))) : Option String :=
  (lists.find? (·.2.isEmpty)).map Prod.fst

/-- What follows the table. -/
def template (d : Dialect) : Insertion Rendering → Rendering
  | raw sql => .ok ("VALUES (" ++ sql ++ ")" : String)
  | row cells =>
    if cells.isEmpty then .ok d.emptyInsertBody
    else return columnNames d (cells.map Prod.fst) ++ " VALUES " ++
      (← rowTemplate d (cells.map Prod.snd))
  | columns lists =>
    if lists.isEmpty then .ok d.emptyInsertBody
    else match emptyColumn? lists with
      | some column => .error (.emptyList (.insertColumn column))
      | none => do
        let cells := lists.map Prod.snd
        let rows ← (List.range (rowCount cells)).mapM fun i => rowTemplate d (rowCells cells i)
        return columnNames d (lists.map Prod.fst) ++ " VALUES " ++ Template.join ", " rows
  | query names q => do
    let sql ← q
    if names.isEmpty then return sql else return columnNames d names ++ " " ++ sql

/-! ### The cells of rows -/

theorem emptyColumn?_eq_none_iff {lists : List (String × List (Operand σ))} :
    emptyColumn? lists = none ↔ ∀ list ∈ lists, list.2 ≠ [] := by
  simp [emptyColumn?]

/-- The column that is reported is the first without cells. -/
theorem emptyColumn?_eq_some_iff {lists : List (String × List (Operand σ))} {column : String} :
    emptyColumn? lists = some column ↔
      ∃ before after, lists = before ++ (column, []) :: after ∧ ∀ list ∈ before, list.2 ≠ [] := by
  simp only [emptyColumn?, Option.map_eq_some_iff, List.find?_eq_some_iff_append]
  constructor
  · rintro ⟨⟨_, _⟩, ⟨empty, before, after, rfl, filled⟩, rfl⟩
    obtain rfl := List.isEmpty_iff.1 empty
    exact ⟨before, after, rfl, by simpa using filled⟩
  · rintro ⟨before, after, rfl, filled⟩
    exact ⟨(column, []), ⟨rfl, before, after, rfl, by simpa using filled⟩, rfl⟩

/-- The cells of a row are cells of the lists. -/
theorem mem_of_mem_rowCells {lists : List (List (Operand σ))} {i : Nat} {x : Operand σ}
    (hx : x ∈ rowCells lists i) : ∃ cells ∈ lists, x ∈ cells := by
  simp only [rowCells, List.mem_filterMap, cellAt?] at hx
  obtain ⟨cells, hcells, hx⟩ := hx
  exact ⟨cells, hcells, List.mem_of_getElem? hx⟩

theorem length_le_rowCount {lists : List (List (Operand σ))} {cells : List (Operand σ)}
    (list : cells ∈ lists) : cells.length ≤ rowCount lists :=
  List.le_max?_getD_of_mem (List.mem_map_of_mem list)

/-- Every cell of a list stands in some row. -/
theorem exists_mem_rowCells {lists : List (List (Operand σ))} {cells : List (Operand σ)}
    {x : Operand σ} (list : cells ∈ lists) (cell : x ∈ cells) :
    ∃ i < rowCount lists, x ∈ rowCells lists i := by
  obtain ⟨i, inside, rfl⟩ := List.getElem_of_mem cell
  refine ⟨i, Nat.lt_of_lt_of_le inside (length_le_rowCount list), ?_⟩
  refine List.mem_filterMap.2 ⟨cells, list, ?_⟩
  rw [cellAt?, Nat.min_eq_left (by omega), List.getElem?_eq_getElem inside]

/-! ### Rows of mapped cells -/

section Map

variable (k : Operand σ → Operand τ)

theorem rowCells_map (lists : List (List (Operand σ))) (i : Nat) :
    rowCells (lists.map (·.map k)) i = (rowCells lists i).map k := by
  simp [rowCells, cellAt?, List.filterMap_map, Function.comp_def, List.map_filterMap]

theorem rowCount_map (lists : List (List (Operand σ))) :
    rowCount (lists.map (·.map k)) = rowCount lists := by
  simp [rowCount, Function.comp_def]

theorem cells_map (lists : List (String × List (Operand σ))) :
    (lists.map fun (column, cells) => (column, cells.map k)).map Prod.snd =
      (lists.map Prod.snd).map (·.map k) := by
  simp [Function.comp_def]

theorem emptyColumn?_map (lists : List (String × List (Operand σ))) :
    emptyColumn? (lists.map fun (column, cells) => (column, cells.map k)) =
      emptyColumn? lists := by
  simp [emptyColumn?, List.find?_map, Function.comp_def]

end Map

/-! ### In writing -/

def writeRow (d : Dialect) (cells : List (Operand (Writing String))) : Writing String :=
  return "(" ++ (← Operand.writeList d cells) ++ ")"

def write (d : Dialect) : Insertion (Writing String) → Writing String
  | raw sql => pure ("VALUES (" ++ sql ++ ")")
  | row cells =>
    if cells.isEmpty then pure d.emptyInsertBody
    else return columnNames d (cells.map Prod.fst) ++ " VALUES " ++
      (← writeRow d (cells.map Prod.snd))
  | columns lists =>
    if lists.isEmpty then pure d.emptyInsertBody
    else match emptyColumn? lists with
      | some column => throw (.emptyList (.insertColumn column))
      | none => do
        let cells := lists.map Prod.snd
        let rows ← (List.range (rowCount cells)).mapM fun i => writeRow d (rowCells cells i)
        return columnNames d (lists.map Prod.fst) ++ " VALUES " ++ ", ".intercalate rows
  | query names q => do
    let sql ← q
    if names.isEmpty then return sql else return columnNames d names ++ " " ++ sql

end Insertion

end PolySql
