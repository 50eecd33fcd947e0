import Mathlib.Data.List.OfFn
import Mathlib.Tactic.Choose
import PolySql.Proofs.Parameters

/-!
# Rows from columns

The rows of an insertion may be given by columns of unrelated lengths (`Insertion.columns`).

**They are written as a grid** (`Insertion.columns_written`): a tuple for each cell of the longest
column, and in it a cell for each column, which is the column's own or its last
(`Insertion.cell`).  The cells are written row by row, each with the binder that the one before it
leaves (`Insertion.Grid`), so values are bound in that order and a cell that is repeated is bound
again.  A column without cells is an error, and one row is the same as columns of one cell.
-/

namespace PolySql

/-! ### Passes one after the other -/

namespace Writing

variable {α ι : Type} {n : Nat}

/-- The pass has a result with every binder. -/
def Succeeds (w : Writing α) : Prop := ∀ b, ∃ r, w.result b = .ok r

/-- Passes that succeed run to the end, and `binders k` is there between the first `k` and the
rest. -/
theorem result_mapM_ofFn {w : ι → Writing α} {x : Fin n → ι} (h : ∀ k, Succeeds (w (x k)))
    (b : Binder) :
    ∃ (as : Fin n → α) (binders : Nat → Binder), binders 0 = b ∧
      (∀ k : Fin n, (w (x k)).result (binders k) = .ok (as k, binders (k + 1))) ∧
      ((List.ofFn x).mapM w).result b = .ok (List.ofFn as, binders n) := by
  induction n generalizing b with
  | zero => exact ⟨Fin.elim0, fun _ => b, rfl, fun k => k.elim0, rfl⟩
  | succ n ih =>
    obtain ⟨⟨a, b'⟩, first⟩ := h 0 b
    obtain ⟨as, binders, start, steps, run⟩ := ih (x := fun k => x k.succ) (fun k => h k.succ) b'
    refine ⟨Fin.cons a as, fun k => k.casesOn b fun k => binders k, rfl, ?_, ?_⟩
    · refine Fin.cases ?_ fun k => ?_
      · simpa [start] using first
      · simpa using steps k
    · rw [List.ofFn_succ, List.mapM_cons, result_bind, first]
      show ((List.ofFn fun k => x k.succ).mapM w >>= fun as => pure (a :: as)).result b' = _
      rw [result_bind, run, List.ofFn_succ]
      rfl

end Writing

/-- Where a layout is filled, the binder does not decide whether there is a result. -/
theorem Fills.succeeds {α β : Type} {w : Writing β} {r : Except CompileError α}
    {fill : Binder → α → β × Binder} (h : Fills w r fill) {b : Binder} {a : β × Binder}
    (result : w.result b = .ok a) : w.Succeeds := by
  intro b'
  cases hr : r with
  | error e =>
    rw [h b, hr] at result
    nomatch result
  | ok t => exact ⟨fill b' t, by rw [h b', hr]; rfl⟩

/-! ### Blocks of values -/

namespace Binder

theorem bindEach_append (b : Binder) (vs ws : List Value) :
    (b.bindEach (vs ++ ws)).2 = ((b.bindEach vs).2.bindEach ws).2 := by
  induction vs generalizing b with
  | nil => rfl
  | cons v vs ih => exact ih (b.bind v).2

/-- Blocks that are bound one after the other are bound as one list. -/
theorem bindEach_flatten {n : Nat} (block : Fin n → List Value) (binders : Nat → Binder)
    (h : ∀ k : Fin n, binders (k + 1) = ((binders k).bindEach (block k)).2) :
    binders n = ((binders 0).bindEach (List.ofFn block).flatten).2 := by
  induction n generalizing binders with
  | zero => rfl
  | succ n ih =>
    have rest := ih (fun k => block k.succ) (fun k => binders (k + 1)) fun k => h k.succ
    have first : binders 1 = ((binders 0).bindEach (block 0)).2 := h 0
    rw [rest, first, ← bindEach_append, List.ofFn_succ, List.flatten_cons]

end Binder

/-- In rows of one length, the entry of row `i` at place `j`. -/
theorem getElem?_flatten_ofFn {α : Type} {m n : Nat} (f : Fin m → Fin n → α) (i : Fin m)
    (j : Fin n) : (List.ofFn fun i => List.ofFn (f i)).flatten[i * n + j]? = some (f i j) := by
  induction m with
  | zero => exact i.elim0
  | succ m ih =>
    rw [List.ofFn_succ, List.flatten_cons]
    refine Fin.cases ?_ (fun i => ?_) i
    · rw [List.getElem?_append_left (by simp)]
      simp
    · have next : (i.succ : Nat) * n + j = n + (i * n + j) := by
        rw [Fin.val_succ, Nat.succ_mul]
        omega
      rw [next, List.getElem?_append_right (by simp)]
      simpa using ih (fun i => f i.succ) i

/-! ### The cells of a grid -/

/-- What is written for an operand of a statement. -/
def Operand.writing (d : Dialect) (x : Operand Statement) : Writing String :=
  (x.map (Statement.write d)).write d

/-- An operand that compiles with some binder compiles with every binder. -/
theorem Operand.succeeds_writing {d : Dialect} {x : Operand Statement} {b : Binder}
    {r : String × Binder} (h : (x.writing d).result b = .ok r) : (x.writing d).Succeeds :=
  (Operand.fills (fun q => Statement.fills d q) d x).succeeds h

namespace Insertion

/-- What is written for an insertion of a statement, after the table. -/
def writing (d : Dialect) (x : Insertion Statement) : Writing String :=
  (x.map (Statement.write d)).write d

section Cells

variable {σ : Type} {lists : List (String × List (Operand σ))}

/-- Every column has a cell. -/
def Filled (lists : List (String × List (Operand σ))) : Prop := ∀ list ∈ lists, list.2 ≠ []

/-- The rows are as many as the cells of the longest column. -/
def IsLongest (lists : List (String × List (Operand σ))) (rows : Nat) : Prop :=
  (∀ list ∈ lists, list.2.length ≤ rows) ∧ ∃ list ∈ lists, list.2.length = rows

/-- The cell of row `i` under column `j`: the column's own, or its last. -/
def cell (filled : Filled lists) (i : Nat) (j : Fin lists.length) : Operand σ :=
  have inside : min i ((lists.get j).2.length - 1) < (lists.get j).2.length := by
    have := List.length_pos_iff.2 (filled _ (List.get_mem lists j))
    omega
  (lists.get j).2.get ⟨_, inside⟩

theorem cell_mem (filled : Filled lists) (i : Nat) (j : Fin lists.length) :
    ∃ list ∈ lists, cell filled i j ∈ list.2 :=
  ⟨lists.get j, List.get_mem lists j, List.get_mem _ _⟩

theorem rowCells_eq_ofFn (filled : Filled lists) (i : Nat) :
    rowCells (lists.map Prod.snd) i = List.ofFn (cell filled i) := by
  induction lists with
  | nil => rfl
  | cons list lists ih =>
    have rest := ih fun other mem => filled other (by simp [mem])
    have first : cellAt? i list.2 = some (cell filled i 0) := List.getElem?_eq_getElem _
    rw [List.map_cons, rowCells, List.filterMap_cons, first, List.ofFn_succ]
    exact congrArg _ rest

theorem isLongest_rowCount (ne : lists ≠ []) :
    IsLongest lists (rowCount (lists.map Prod.snd)) := by
  refine ⟨fun list mem => length_le_rowCount (List.mem_map_of_mem mem), ?_⟩
  cases longest : ((lists.map Prod.snd).map List.length).max? with
  | none => exact absurd (List.max?_eq_none_iff.1 longest) (by simpa using ne)
  | some rows =>
    have mem := List.max?_mem longest
    rw [rowCount, longest]
    simpa using mem

end Cells

/-! ### The text of a grid -/

/-- Texts with commas between them, in parentheses. -/
def tuple (texts : List String) : String := "(" ++ ", ".intercalate texts ++ ")"

/-- How the cells are written: row by row, and in a row column by column, each with the binder that
the one before it leaves. -/
structure Grid (d : Dialect) {lists : List (String × List (Operand Statement))}
    (filled : Filled lists) (b : Binder) where
  rows : Nat
  longest : IsLongest lists rows
  texts : Fin rows → Fin lists.length → String
  /-- The binder before the cell of row `i` under column `j`. -/
  binders : Nat → Nat → Binder
  start : binders 0 0 = b
  next : ∀ i : Fin rows, binders (i + 1) 0 = binders i lists.length
  step : ∀ (i : Fin rows) (j : Fin lists.length),
    ((cell filled i j).writing d).result (binders i j) = .ok (texts i j, binders i (j + 1))

variable {d : Dialect} {b : Binder} {lists : List (String × List (Operand Statement))}
variable {filled : Filled lists}

namespace Grid

/-- The column names, and a tuple for each row. -/
def text (g : Grid d filled b) : String :=
  tuple (lists.map fun list => d.quoteName list.1) ++ " VALUES " ++
    ", ".intercalate (List.ofFn fun i => tuple (List.ofFn (g.texts i)))

/-- The binder after the last cell. -/
def last (g : Grid d filled b) : Binder := g.binders g.rows 0

end Grid

theorem result_writeRow {n : Nat} {x : Fin n → Operand (Writing String)}
    (h : ∀ j, ((x j).write d).Succeeds) (b : Binder) :
    ∃ (texts : Fin n → String) (binders : Nat → Binder), binders 0 = b ∧
      (∀ j : Fin n, ((x j).write d).result (binders j) = .ok (texts j, binders (j + 1))) ∧
      (writeRow d (List.ofFn x)).result b = .ok (tuple (List.ofFn texts), binders n) := by
  obtain ⟨texts, binders, start, steps, run⟩ := Writing.result_mapM_ofFn h b
  refine ⟨texts, binders, start, steps, ?_⟩
  simp only [writeRow, Operand.writeList, Operand.writeEach, Writing.result_bind, run]
  rfl

/-- The rows of columns that all have cells are written one after the other. -/
theorem writing_columns (filled : Filled lists) (ne : lists ≠ []) :
    (columns lists).writing d = do
      let rows ← (List.range (rowCount (lists.map Prod.snd))).mapM fun i =>
        writeRow d (List.ofFn fun j => (cell filled i j).map (Statement.write d))
      return columnNames d (lists.map Prod.fst) ++ " VALUES " ++ ", ".intercalate rows := by
  have notEmpty : lists.isEmpty = false := by simpa using ne
  simp only [writing, Insertion.map, write, List.isEmpty_map, notEmpty, emptyColumn?_map,
    emptyColumn?_eq_none_iff.2 filled, cells_map, rowCount_map, rowCells_map,
    rowCells_eq_ofFn filled, List.map_ofFn]
  simp [Function.comp_def]

/-- Columns whose cells compile are written as a grid. -/
theorem exists_grid (filled : Filled lists) (ne : lists ≠ [])
    (compiles : ∀ list ∈ lists, ∀ x ∈ list.2, (x.writing d).Succeeds) (b : Binder) :
    ∃ g : Grid d filled b, ((columns lists).writing d).result b = .ok (g.text, g.last) := by
  have cells (i : Nat) (j : Fin lists.length) : ((cell filled i j).writing d).Succeeds :=
    have ⟨list, mem, here⟩ := cell_mem filled i j
    compiles list mem _ here
  -- Each row runs with any binder, and the rows run one after the other.
  let row (i : Nat) : Writing String :=
    writeRow d (List.ofFn fun j => (cell filled i j).map (Statement.write d))
  have each (i : Nat) (b : Binder) := result_writeRow (d := d) (cells i) b
  choose texts binders start steps run using each
  let rows := rowCount (lists.map Prod.snd)
  obtain ⟨rowTexts, before, first, next, all⟩ := Writing.result_mapM_ofFn (w := row)
    (x := fun i : Fin rows => (i : Nat)) (fun i b => ⟨_, run i b⟩) b
  have same (i : Fin rows) : tuple (List.ofFn (texts i (before i))) = rowTexts i ∧
      binders i (before i) lists.length = before (i + 1) := by
    have both := (run i (before i)).symm.trans (next i)
    simpa using both
  have range : List.range rows = List.ofFn fun i : Fin rows => (i : Nat) :=
    List.ext_getElem (by simp) fun i _ _ => by simp
  have written : ((columns lists).writing d).result b = .ok (columnNames d (lists.map Prod.fst) ++
      " VALUES " ++ ", ".intercalate (List.ofFn rowTexts), before rows) := by
    rw [writing_columns filled ne, Writing.result_bind, range, all]
    rfl
  have tuples : rowTexts = fun i : Fin rows => tuple (List.ofFn (texts i (before i))) :=
    funext fun i => (same i).1.symm
  rw [tuples] at written
  refine ⟨⟨rows, isLongest_rowCount ne, fun i => texts i (before i), fun i => binders i (before i),
    (start 0 _).trans first, fun i => (start _ _).trans (same i).2.symm,
    fun i j => steps i (before i) j⟩, written.trans ?_⟩
  simp [Grid.text, Grid.last, start, columnNames, tuple, Function.comp_def]

namespace Grid

/-- If all cells are values, they are bound row by row. -/
theorem last_eq (g : Grid d filled b) {values : Fin g.rows → Fin lists.length → Value}
    (h : ∀ (i : Fin g.rows) j, cell filled i j = .value (values i j)) :
    g.last = (b.bindEach (List.ofFn fun i => List.ofFn (values i)).flatten).2 := by
  have row (i : Fin g.rows) :
      g.binders ((i : Nat) + 1) 0 = ((g.binders i 0).bindEach (List.ofFn (values i))).2 := by
    have blocks := Binder.bindEach_flatten (fun j => [values i j]) (g.binders i) fun j => by
      have step := g.step i j
      rw [h i j] at step
      exact (congrArg Prod.snd (Except.ok.inj step)).symm
    have flat : (List.ofFn fun j => [values i j]).flatten = List.ofFn (values i) := by
      have single : (List.ofFn (values i)).map ([·]) = List.ofFn fun j => [values i j] :=
        List.map_ofFn ..
      rw [← single, ← List.flatMap_def, List.flatMap_singleton']
    rw [g.next i, blocks, flat]
  rw [last, Binder.bindEach_flatten _ (fun i => g.binders i 0) row, g.start]

end Grid

/-! ### Empty columns and single rows -/

/-- The first column without a cell is reported before anything is bound. -/
theorem run_writing_of_empty {before after : List (String × List (Operand Statement))}
    (column : String) (filled : Filled before) (b : Binder) :
    ((columns (before ++ (column, []) :: after)).writing d).run.run b =
      (.error (.emptyList (.insertColumn column)), b) := by
  have empty : emptyColumn? (before ++ (column, []) :: after) = some column :=
    emptyColumn?_eq_some_iff.2 ⟨before, after, rfl, filled⟩
  have notEmpty : (before ++ (column, []) :: after).isEmpty = false := by simp
  simp only [writing, Insertion.map, write, List.isEmpty_map, notEmpty, emptyColumn?_map, empty]
  rfl

/-- The columns of a row, a cell for each. -/
def singles {σ : Type} (cells : List (String × Operand σ)) : List (String × List (Operand σ)) :=
  cells.map fun (column, x) => (column, [x])

/-- One row is written as columns of one cell each are. -/
theorem writing_row (cells : List (String × Operand Statement)) :
    (row cells).writing d = (columns (singles cells)).writing d := by
  by_cases ne : cells = []
  · rw [ne]
    rfl
  · have ne' : singles cells ≠ [] := by simpa [singles] using ne
    have filled : Filled (singles cells) := by
      intro list mem empty
      obtain ⟨_, -, rfl⟩ := List.mem_map.1 mem
      nomatch empty
    have rows : rowCount ((singles cells).map Prod.snd) = 1 := by
      obtain ⟨-, list, mem, longest⟩ := isLongest_rowCount ne'
      obtain ⟨_, -, rfl⟩ := List.mem_map.1 mem
      exact longest.symm
    have first : List.ofFn (cell filled 0) = cells.map Prod.snd := by
      rw [← rowCells_eq_ofFn filled]
      simp [rowCells, cellAt?, singles, List.filterMap_map, Function.comp_def]
    have mapped : (List.ofFn fun j => (cell filled 0 j).map (Statement.write d)) =
        (cells.map Prod.snd).map (·.map (Statement.write d)) := by
      rw [← first, List.map_ofFn]
      rfl
    have notEmpty : cells.isEmpty = false := by simpa using ne
    rw [writing_columns filled ne', rows]
    simp only [List.range_one, List.mapM_cons, List.mapM_nil, mapped]
    simp [writing, Insertion.map, write, notEmpty, singles, Function.comp_def]

/-! ### The insertion as a whole -/

/-- **Columns are written as a grid of rows**, if each has a cell and all cells compile; `vs` are
the values that were bound before.  If all cells are values, one value is bound for each place of
the grid, at `i * lists.length + j` that of row `i` and column `j`.  The first column without a cell
is an error, and nothing is bound.  One row is the same as columns of one cell each. -/
theorem columns_written (d : Dialect) (mode : ParamMode) (marker : Char) (vs : List Value) :
    let b := ((Binder.fresh mode marker).bindEach vs).2
    (∀ (lists : List (String × List (Operand Statement))) (filled : Filled lists), lists ≠ [] →
      (∀ list ∈ lists, ∀ x ∈ list.2, ∃ r, (x.writing d).result b = .ok r) →
      ∃ g : Grid d filled b, ((columns lists).writing d).result b = .ok (g.text, g.last) ∧
        ((∀ list ∈ lists, ∀ x ∈ list.2, x.value?.isSome) →
          ∃ bound : List Value, g.last = (b.bindEach bound).2 ∧
            g.last.params.values = vs ++ bound ∧ bound.length = g.rows * lists.length ∧
            ∀ (i : Fin g.rows) (j : Fin lists.length),
              bound[i * lists.length + j]? = (cell filled i j).value?)) ∧
    (∀ lists : List (String × List (Operand Statement)), ¬ Filled lists →
      ∃ before column after, lists = before ++ (column, []) :: after ∧ Filled before ∧
        ((columns lists).writing d).run.run b =
          (.error (.emptyList (.insertColumn column)), b)) ∧
    ∀ cells : List (String × Operand Statement),
      (row cells).writing d = (columns (singles cells)).writing d := by
  intro b
  refine ⟨fun lists filled ne compiles => ?_, fun lists unfilled => ?_, writing_row⟩
  · obtain ⟨g, result⟩ := exists_grid filled ne (fun list mem x here =>
      have ⟨_, compiled⟩ := compiles list mem x here
      Operand.succeeds_writing compiled) b
    refine ⟨g, result, fun valued => ?_⟩
    have isValue (i : Fin g.rows) (j : Fin lists.length) :
        ∃ v, cell filled i j = .value v := by
      obtain ⟨list, mem, here⟩ := cell_mem filled i j
      obtain ⟨v, value⟩ := Option.isSome_iff_exists.1 (valued list mem _ here)
      exact ⟨v, Operand.value?_eq_some_iff.1 value⟩
    choose values isValue using isValue
    have last := g.last_eq isValue
    refine ⟨_, last, ?_, ?_, fun i j => ?_⟩
    · rw [last, ← Binder.bindEach_append, Binder.values_bindEach_fresh]
    · simp [Function.comp_def, List.ofFn_const]
    · rw [getElem?_flatten_ofFn, isValue i j]
      rfl
  · cases empty : emptyColumn? lists with
    | none => exact absurd (emptyColumn?_eq_none_iff.1 empty) unfilled
    | some column =>
      obtain ⟨before, after, rfl, filled⟩ := emptyColumn?_eq_some_iff.1 empty
      exact ⟨before, column, after, rfl, filled, run_writing_of_empty column filled b⟩

/-- The short column goes on with its last cell, which is bound again.  One value was bound
before. -/
theorem columns_written_mysql :
    let lists : List (String × List (Operand Statement)) :=
      [("a", [.value (.int 1), .value (.int 2)]), ("b", [.value (.text "x")])]
    let b := ((Binder.fresh .named ':').bindEach [.null]).2
    lists ≠ [] ∧ (∀ list ∈ lists, ∀ x ∈ list.2, ∃ r, (x.writing .mysql).result b = .ok r) ∧
      (∀ list ∈ lists, ∀ x ∈ list.2, x.value?.isSome) ∧
      ∃ (filled : Filled lists) (g : Grid .mysql filled b) (bound : List Value),
        g.text = "(`a`, `b`) VALUES (:p2, :p3), (:p4, :p5)" ∧
        (cell filled 1 ⟨1, Nat.lt_succ_self 1⟩).value? = some (.text "x") ∧
        g.last.params.values = .null :: bound ∧ bound.length = g.rows * 2 ∧
        bound = [.int 1, .text "x", .int 2, .text "x"] := by
  intro lists b
  have filled : Filled lists := by simp [Filled, lists]
  have valued : ∀ list ∈ lists, ∀ x ∈ list.2, x.value?.isSome := by
    simp [lists, Operand.value?]
  have compiles : ∀ list ∈ lists, ∀ x ∈ list.2, ∃ r, (x.writing .mysql).result b = .ok r := by
    intro list mem x here
    obtain ⟨v, value⟩ := Option.isSome_iff_exists.1 (valued list mem x here)
    exact ⟨b.bind v, by rw [Operand.value?_eq_some_iff.1 value]; rfl⟩
  have ne : lists ≠ [] := by simp [lists]
  obtain ⟨grid, -, -⟩ := columns_written .mysql .named ':' [.null]
  obtain ⟨g, result, binds⟩ := grid lists filled ne compiles
  obtain ⟨bound, -, values, length, -⟩ := binds valued
  have text : g.text = "(`a`, `b`) VALUES (:p2, :p3), (:p4, :p5)" :=
    (congrArg Prod.fst (Except.ok.inj result)).symm
  have all : g.last.params.values = [.null, .int 1, .text "x", .int 2, .text "x"] :=
    (congrArg (fun r : String × Binder => r.2.params.values) (Except.ok.inj result)).symm
  exact ⟨ne, compiles, valued, filled, g, bound, text, rfl, values, length,
    List.append_cancel_left (values.symm.trans all)⟩

end Insertion

end PolySql
