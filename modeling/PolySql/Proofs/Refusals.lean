import PolySql.Proofs.Succeeds
import PolySql.Schema.Change

/-!
# Refused schema changes

A column is refused (`Column.Refused`) if its default is a number without a literal or its identity
has no place in the dialect; a schema change is refused (`SchemaChange.Refused`) for a list that is
empty, for what the dialect cannot do, or for a column that is refused.

**Exactly the refused changes have no text** (`SchemaChange.sql_fails_iff`).  Of several columns
that are refused the first one is reported, and what T-SQL says of a table that may exist already
comes before all of them.
-/

namespace PolySql

variable {d : Dialect}

/-! ### Columns -/

/-- A number that is not finite has no literal. -/
def ColumnDefault.NonFinite : ColumnDefault → Prop
  | value (.float x) => Decimal.isFinite x = false
  | value _ | raw _ => False

/-- The default is a number that is not finite. -/
def Column.NonFinite (c : Column) : Prop := ∃ default ∈ c.default?, default.NonFinite

/-- The definition of the column has no text. -/
def Column.Refused (d : Dialect) (c : Column) : Prop :=
  c.NonFinite ∨ (d = .sqlite ∧ c.autoIncrement = true ∧ c.primaryKey = false)

theorem Dialect.succeeds_renderValue_float (x : Float) (form : LiteralForm) :
    SucceedsIff (d.renderValue (.float x) form) (¬ Decimal.isFinite x = false) := by
  simp only [renderValue, Value.floatText?, Decimal.Layout.text?]
  cases Decimal.isFinite x with
  | true => exact .of_ok _ (by simp)
  | false => exact .of_error _ (by simp)

theorem ColumnDefault.succeeds_tokens (default : ColumnDefault) :
    SucceedsIff (default.tokens d) (¬ default.NonFinite) := by
  cases default with
  | value v =>
    cases v with
    | float x => exact (d.succeeds_renderValue_float x .quoted).last
    | null | bool _ | int _ | text _ => exact .of_ok _ not_false
  | raw sql => exact .of_ok _ not_false

namespace Column

theorem succeeds_defaultTokens (c : Column) :
    SucceedsIff (defaultTokens d c.default?) (¬ c.NonFinite) := by
  cases some : c.default? with
  | none => exact .of_ok _ (by simp [NonFinite, some])
  | some default => exact SucceedsIff.congr default.succeeds_tokens.last (by simp [NonFinite, some])

/-- Only SQLite writes an identity after a key, and there it has to be one. -/
theorem succeeds_keyTokens (c : Column) :
    SucceedsIff (c.keyTokens d)
      (¬ (d = .sqlite ∧ c.autoIncrement = true ∧ c.primaryKey = false)) := by
  by_cases lite : d = .sqlite
  · have after : d.identityAfterKey = true := by simpa [Dialect.identityAfterKey] using lite
    simp only [keyTokens, after, if_true]
    exact SucceedsIff.congr (SucceedsIff.guard (.ok _)) (by simp [lite])
  · have before : d.identityAfterKey = false := by simpa [Dialect.identityAfterKey] using lite
    simp only [keyTokens, before, Bool.false_eq_true, if_false]
    exact .of_ok _ fun h => lite h.1

theorem succeeds_tokens (c : Column) : SucceedsIff (c.tokens d) (¬ c.Refused d) := by
  rw [Refused, not_or]
  exact c.succeeds_defaultTokens.bind fun _ _ => c.succeeds_keyTokens.last

end Column

/-! ### Tables and indexes -/

namespace Table

/-- There are no columns, or one of them cannot be written. -/
def Refused (d : Dialect) (t : Table) : Prop := t.columns = [] ∨ ∃ c ∈ t.columns, c.Refused d

theorem succeeds_entries (t : Table) :
    SucceedsIff (t.entries d) (∀ c ∈ t.columns, ¬ c.Refused d) :=
  (SucceedsIff.mapM t.columns fun c _ => c.succeeds_tokens).last

theorem succeeds_tokens (t : Table) : SucceedsIff (t.tokens d) (¬ t.Refused d) := by
  refine SucceedsIff.congr (SucceedsIff.guard t.succeeds_entries.last) ?_
  rw [Refused, not_or, List.isEmpty_iff]
  simp

/-- The first column that is refused is the one that is reported. -/
theorem tokens_eq_error {t : Table} {before after : List Column} {c : Column} {e : CompileError}
    (columns : t.columns = before ++ c :: after) (fine : ∀ x ∈ before, ¬ x.Refused d)
    (failed : c.tokens d = .error e) : t.tokens d = .error e := by
  have first : t.columns.mapM (·.tokens d) = .error e := by
    rw [columns]
    exact mapM_eq_error (fun x hx => x.succeeds_tokens.2 (fine x hx)) failed after
  have some : t.columns.isEmpty = false := by simp [columns]
  rw [tokens, entries, first, some]
  rfl

end Table

theorem Index.succeeds_tokens (i : Index) : SucceedsIff i.tokens (¬ i.columns = []) := by
  refine SucceedsIff.congr (SucceedsIff.guard (.ok _)) ?_
  rw [and_true, List.isEmpty_iff]

/-! ### Changes -/

namespace SchemaChange

/-- What the dialect cannot change a column to. -/
def ColumnChangeRefused (d : Dialect) (c : Column) : Prop :=
  match d with
  | .ansi | .mysql | .postgres => c.NonFinite
  | .sqlite => True
  | .tsql => c.default?.isSome = true

/-- The change has no text. -/
def Refused (d : Dialect) : SchemaChange → Prop
  | createTable table => table.Refused d ∨ (d = .tsql ∧ table.ifNotExists = true)
  | addColumn _ column => column.Refused d
  | changeColumn _ column => ColumnChangeRefused d column
  | addForeignKey _ _ | dropForeignKey _ _ => d = .sqlite
  | createIndex index => index.columns = []
  | renameTable _ _ | dropTable _ _ | renameColumn _ _ _ | dropColumn _ _ | dropIndex _ _ => False

theorem createTable_tokens {t : Table} (sure : ¬ (d = .tsql ∧ t.ifNotExists = true)) :
    (createTable t).tokens d = t.tokens d := by
  rw [tokens, if_neg (by simpa using sure)]

/-- T-SQL does not look at a table that may be there already. -/
theorem createTable_tokens_tsql {t : Table} (unsure : t.ifNotExists = true) :
    (createTable t).tokens .tsql = .error (.unsupported .createIfNotExists .tsql) := by
  rw [tokens, if_pos (by simpa using unsure)]

theorem succeeds_createTable (t : Table) :
    SucceedsIff ((createTable t).tokens d) (¬ (createTable t).Refused d) := by
  refine SucceedsIff.congr t.succeeds_tokens.guard ?_
  rw [Refused, not_or, and_comm]
  simp

theorem succeeds_alterColumnSteps (c : Column) :
    SucceedsIff (alterColumnSteps d c) (¬ c.NonFinite) := by
  unfold alterColumnSteps
  cases some : c.default? with
  | none => exact .of_ok _ (by simp [Column.NonFinite, some])
  | some default =>
    exact SucceedsIff.congr default.succeeds_tokens.last (by simp [Column.NonFinite, some])

theorem succeeds_changeColumnTokens (table : String) (c : Column) :
    SucceedsIff (changeColumnTokens d table c) (¬ ColumnChangeRefused d c) := by
  cases d with
  | ansi | postgres => exact (succeeds_alterColumnSteps c).last
  | mysql => exact c.succeeds_tokens.last.congr (by simp [ColumnChangeRefused, Column.Refused])
  | sqlite => exact .of_error _ (not_not_intro trivial)
  | tsql => exact SucceedsIff.congr (SucceedsIff.guard (.ok _)) (iff_of_eq (and_true _))

theorem succeeds_addForeignKeyTokens (table : String) (k : ForeignKey) :
    SucceedsIff (addForeignKeyTokens d table k) (¬ d = .sqlite) :=
  SucceedsIff.congr (SucceedsIff.guard (.ok _)) (iff_of_eq (and_true _))

theorem succeeds_dropForeignKeyTokens (table name : String) :
    SucceedsIff (dropForeignKeyTokens d table name) (¬ d = .sqlite) := by
  cases d with
  | sqlite => exact .of_error _ (not_not_intro rfl)
  | ansi | mysql | postgres | tsql => exact .of_ok _ nofun

theorem succeeds_tokens (change : SchemaChange) :
    SucceedsIff (change.tokens d) (¬ change.Refused d) := by
  cases change with
  | createTable table => exact succeeds_createTable table
  | addColumn table column => exact column.succeeds_tokens.last
  | changeColumn table column => exact succeeds_changeColumnTokens table column
  | addForeignKey table key => exact succeeds_addForeignKeyTokens table key
  | dropForeignKey table name => exact succeeds_dropForeignKeyTokens table name
  | createIndex index => exact index.succeeds_tokens
  | renameTable _ _ | dropTable _ _ | renameColumn _ _ _ | dropColumn _ _ | dropIndex _ _ =>
    exact .of_ok _ not_false

/-- **Exactly the refused changes have no text**, and exactly the refused columns no definition.  Of
the columns of a new table the first one that is refused is reported; before them comes what T-SQL
says of a table that may be there already. -/
theorem sql_fails_iff (d : Dialect) :
    (∀ change : SchemaChange, (∃ e, change.sql d = .error e) ↔ change.Refused d) ∧
    (∀ c : Column, (∃ e, c.tokens d = .error e) ↔ c.Refused d) ∧
    (∀ t : Table, ¬ (d = .tsql ∧ t.ifNotExists = true) →
      ∀ before c after e, t.columns = before ++ c :: after → (∀ x ∈ before, ¬ x.Refused d) →
        c.tokens d = .error e → (createTable t).sql d = .error e) ∧
    ∀ t : Table, d = .tsql → t.ifNotExists = true →
      (createTable t).sql d = .error (.unsupported .createIfNotExists .tsql) := by
  refine ⟨fun change => change.succeeds_tokens.map.fails_iff,
    fun c => c.succeeds_tokens.fails_iff, ?_, ?_⟩
  · intro t sure before c after e columns fine failed
    rw [sql, createTable_tokens sure, Table.tokens_eq_error columns fine failed]
    rfl
  · rintro t rfl unsure
    rw [sql, createTable_tokens_tsql unsure]
    rfl

/-- Two columns that are refused for different reasons, in either order. -/
theorem sql_fails_iff_first :
    let plain : Column := { name := "a", type := .string }
    let infinite : Column :=
      { name := "b", type := .float64, default? := some (.value (.float (1 / 0))) }
    let stray : Column := { name := "c", type := .int64, autoIncrement := true }
    let t (columns : List Column) : Table := { name := "t", ifNotExists := true, columns }
    infinite.Refused .sqlite ∧ stray.Refused .sqlite ∧
      (createTable (t [plain, infinite, stray])).sql .sqlite = .error (.nonFiniteFloat (1 / 0)) ∧
      (createTable (t [plain, stray, infinite])).sql .sqlite =
        .error (.unsupported .identityOffKey .sqlite) ∧
      (createTable (t [plain, infinite, stray])).sql .tsql =
        .error (.unsupported .createIfNotExists .tsql) := by
  intro plain infinite stray t
  obtain ⟨-, refused, first, -⟩ := sql_fails_iff .sqlite
  obtain ⟨-, -, -, sure⟩ := sql_fails_iff .tsql
  have hinfinite : infinite.tokens .sqlite = .error (.nonFiniteFloat (1 / 0)) := by rfl
  have hstray : stray.tokens .sqlite = .error (.unsupported .identityOffKey .sqlite) := by rfl
  have fine : ∀ x ∈ [plain], ¬ x.Refused .sqlite := by
    simp [plain, Column.Refused, Column.NonFinite]
  refine ⟨(refused infinite).1 ⟨_, hinfinite⟩, (refused stray).1 ⟨_, hstray⟩, ?_, ?_, ?_⟩
  · exact first _ nofun [plain] infinite [stray] _ rfl fine hinfinite
  · exact first _ nofun [plain] stray [infinite] _ rfl fine hstray
  · exact sure _ rfl rfl

end SchemaChange

end PolySql
