import PolySql.Proofs.Entries
import PolySql.Proofs.Operators
import PolySql.Proofs.QuotedNames

/-!
# Names of columns in schema statements

A schema statement mentions a column at places of two sorts: in a definition, or in what is done to
one column, and in a list of names (`ColumnPlace`).  What stands around the name is a `Frame`, whose
texts do not depend on the name; frames are put together as the statement is (`Framed`, `Writes`),
and each place has one (`ColumnPlace.writes`).  The two sorts of places have different ways to
quote, which agree on names of one segment only (`Dialect.quoteName_eq_quoteIdentifier_iff`).  So
**what names a column is the same at every place just if the name is plain**
(`ColumnPlace.columns_named`).
-/

namespace PolySql

/-! ### Frames -/

/-- Fixed texts with gaps for a name, of which there is at least one. -/
structure Frame where
  pieces : List (Option String)
  gap : none ∈ pieces

namespace Frame

/-- The texts with the name in every gap. -/
def fill (frame : Frame) (name : String) : String := String.join (frame.pieces.map (·.getD name))

end Frame

/-- The texts are one frame around the way that names are written. -/
def Framed (written text : String → String) : Prop :=
  ∃ frame : Frame, ∀ name, text name = frame.fill (written name)

namespace Framed

variable {written text text' : String → String}

theorem gap : Framed written written := ⟨⟨[none], by simp⟩, fun name => by simp [Frame.fill]⟩

theorem of_eq (h : Framed written text) (same : ∀ name, text' name = text name) :
    Framed written text' := by
  rwa [funext same]

theorem append (h : Framed written text) (h' : Framed written text') :
    Framed written fun name => text name ++ text' name := by
  obtain ⟨frame, filled⟩ := h
  obtain ⟨frame', filled'⟩ := h'
  refine ⟨⟨frame.pieces ++ frame'.pieces, List.mem_append_left _ frame.gap⟩, fun name => ?_⟩
  simp [filled, filled', Frame.fill, String.join_append]

theorem after (before : String) (h : Framed written text) :
    Framed written fun name => before ++ text name := by
  obtain ⟨frame, filled⟩ := h
  refine ⟨⟨some before :: frame.pieces, List.mem_cons_of_mem _ frame.gap⟩, fun name => ?_⟩
  simp [filled, Frame.fill]

theorem before (h : Framed written text) (after : String) :
    Framed written fun name => text name ++ after := by
  obtain ⟨frame, filled⟩ := h
  refine ⟨⟨frame.pieces ++ [some after], List.mem_append_left _ frame.gap⟩, fun name => ?_⟩
  simp [filled, Frame.fill, String.join_append]

/-- A text in a frame may be any in a list. -/
theorem intercalate (separator : String) (texts : List String) (h : Framed written text)
    (texts' : List String) :
    Framed written fun name => separator.intercalate (texts ++ text name :: texts') := by
  induction texts with
  | nil =>
    cases texts' with
    | nil => simpa using h
    | cons next texts' =>
      exact (h.before (separator ++ separator.intercalate (next :: texts'))).of_eq fun name =>
        String.intercalate_cons_cons.trans String.append_assoc
  | cons first texts ih =>
    exact (ih.after (first ++ separator)).of_eq fun name =>
      String.intercalate_cons_of_ne_nil (by simp)

end Framed

/-- A text is written in one frame around the way that names are written, or whatever the name is
there is the same reason why it is not. -/
def Writes (written : String → String) (sql : String → Except CompileError String) : Prop :=
  ∃ frame : Except CompileError Frame, ∀ name, sql name = frame.map (·.fill (written name))

namespace Writes

variable {written : String → String} {sql sql' : String → Except CompileError String}

theorem error (e : CompileError) : Writes written fun _ => .error e := ⟨.error e, fun _ => rfl⟩

theorem ok {text : String → String} (h : Framed written text) :
    Writes written fun name => .ok (text name) := by
  obtain ⟨frame, filled⟩ := h
  exact ⟨.ok frame, fun name => congrArg Except.ok (filled name)⟩

theorem of_eq (h : Writes written sql) (same : ∀ name, sql' name = sql name) :
    Writes written sql' := by
  rwa [funext same]

theorem map {α : Type} (x : Except CompileError α) {text : α → String → String}
    (h : ∀ a, Framed written (text a)) : Writes written fun name => x.map fun a => text a name := by
  cases x with
  | error e => exact error e
  | ok a => exact ok (h a)

theorem bind {α : Type} (x : Except CompileError α)
    {sql : α → String → Except CompileError String} (h : ∀ a, Writes written (sql a)) :
    Writes written fun name => x >>= fun a => sql a name := by
  cases x with
  | error e => exact error e
  | ok a => exact h a

end Writes

/-! ### Tokens in frames -/

namespace Token

variable {d : Dialect} {written : String → String}

theorem render_words (ts : List Token) :
    render d (words ts) = " ".intercalate (ts.map (text d)) := by
  induction ts with
  | nil => rfl
  | cons t ts ih =>
    cases ts with
    | nil => simp [words]
    | cons t' ts =>
      rw [words] at ih
      rw [words, List.intersperse_cons_cons, render_cons, render_cons, ih]
      simp [text, String.append_assoc]

theorem render_spaced {ts : List Token} (h : ts ≠ []) :
    render d (spaced ts) = " " ++ render d ts := by
  cases ts with
  | nil => contradiction
  | cons t ts => simp [spaced, text]

theorem words_ne_nil {ts : List Token} (h : ts ≠ []) : words ts ≠ [] := by
  obtain ⟨t, ts, rfl⟩ := List.exists_cons_of_ne_nil h
  cases ts <;> simp [words]

theorem framed_words {t : String → Token} (before : List Token)
    (h : Framed written fun name => (t name).text d) (after : List Token) :
    Framed written fun name => render d (words (before ++ t name :: after)) :=
  (h.intercalate " " (before.map (text d)) (after.map (text d))).of_eq fun name => by
    simp [render_words]

theorem framed_identifier : Framed d.quoteIdentifier fun name => (identifier name).text d :=
  .gap

/-- A name may be any in a list. -/
theorem framed_names (before after : List String) :
    Framed d.quoteName fun name => (names (before ++ name :: after)).text d :=
  (((Framed.gap.intercalate ", " (before.map d.quoteName) (after.map d.quoteName)).after
    "(").before ")").of_eq fun name => by simp [text]

end Token

/-! ### Definitions -/

variable {d : Dialect}

namespace Column

/-- What follows the name in a definition. -/
def rest (d : Dialect) (c : Column) : Phrase := do
  let default ← defaultTokens d c.default?
  let key ← c.keyTokens d
  let unique := if c.unique then [Token.unique] else []
  return .raw (d.typeName c.type) :: nullTokens c.nullable? ++ default ++ key ++ unique

@[simp] theorem rest_rename (c : Column) (name : String) :
    ({ c with name } : Column).rest d = c.rest d := rfl

theorem tokens_eq (c : Column) :
    c.tokens d = (c.rest d).map fun rest => Token.words (.identifier c.name :: rest) := by
  unfold tokens rest
  cases defaultTokens d c.default? with
  | error e => rfl
  | ok default => cases c.keyTokens d <;> rfl

theorem sql_eq (c : Column) :
    c.sql d = (c.rest d).map fun rest =>
      Token.render d (Token.words (.identifier c.name :: rest)) := by
  rw [sql, tokens_eq]
  cases c.rest d <;> rfl

end Column

namespace ForeignKey

theorem framed_sql (key : ForeignKey) (before after : List String) :
    Framed d.quoteName fun name =>
      ({ key with columns := before ++ name :: after } : ForeignKey).sql d :=
  (Token.framed_words [.constraint, .identifier key.name, .foreign, .key]
    (Token.framed_names before after) ([.references, .name key.table, .names key.tableColumns] ++
      actionTokens .delete key.onDelete? ++ actionTokens .update key.onUpdate?)).of_eq
        fun name => by simp [sql, tokens]

end ForeignKey

namespace Table

/-- What stands before the entries. -/
def head (d : Dialect) (t : Table) : String :=
  let condition := if t.ifNotExists then [Token.if, Token.not, Token.exists] else []
  Token.render d (Token.words ([.create, .table] ++ condition ++ [.name t.name])) ++ " ("

/-- The text of a table with columns. -/
theorem sql_eq (t : Table) (ne : t.columns ≠ []) :
    (t.tokens d).map (Token.render d) = (t.columns.mapM (Column.sql d)).map fun columns =>
      t.head d ++ ", ".intercalate
        (columns ++ t.keySql d ++ t.foreignKeys.map (ForeignKey.sql d)) ++ ")" := by
  have nonempty : t.columns.isEmpty = false := by simpa using ne
  rw [tokens, if_neg (by simp [nonempty]), entries, mapM_columnSql]
  cases t.columns.mapM (Column.tokens d) with
  | error e => rfl
  | ok columns =>
    simp only [bind, Except.bind, pure, Except.pure, Except.map, Except.ok.injEq, head,
      Token.render_append, Token.render_intercalate, List.map_append, render_key, List.map_map,
      Token.render_cons, Token.render_nil, Token.text]
    have keys : ForeignKey.sql d = fun key => Token.render d key.tokens := rfl
    simp [keys, Function.comp_def, String.append_assoc]

theorem sql_eq_error (t : Table) (empty : t.columns = []) :
    (t.tokens d).map (Token.render d) = .error (.emptyList (.tableColumns t.name)) := by
  rw [tokens, if_pos (by simp [empty])]
  rfl

/-- A table whose columns are fixed is written in a frame if its keys are. -/
theorem writes_keys (t : Table) {written : String → String} {key : String → List String}
    {foreign : String → List ForeignKey}
    (h : ∀ columns, Framed written fun name => ", ".intercalate (columns ++
      keySql d { t with primaryKey := key name } ++ (foreign name).map (ForeignKey.sql d))) :
    Writes written fun name => (({ t with
      primaryKey := key name, foreignKeys := foreign name } : Table).tokens d).map
        (Token.render d) := by
  by_cases empty : t.columns = []
  · exact (Writes.error (.emptyList (.tableColumns t.name))).of_eq fun name =>
      sql_eq_error _ empty
  · exact (Writes.map (t.columns.mapM (Column.sql d)) fun columns =>
      ((h columns).after (t.head d)).before ")").of_eq fun name => sql_eq _ empty

end Table

/-! ### Places of column names -/

/-- Where a schema statement mentions a column. -/
inductive ColumnPlace where
  /-- In the definition of a column of a new table. -/
  | created (table : Table) (before : List Column) (column : Column) (after : List Column)
  | added (table : String) (column : Column)
  | changed (table : String) (column : Column)
  | dropped (table : String)
  /-- In the primary key of a new table. -/
  | inKey (table : Table) (before after : List String)
  /-- In a foreign key of a new table. -/
  | inForeignKey (table : Table) (keysBefore : List ForeignKey) (key : ForeignKey)
    (before after : List String) (keysAfter : List ForeignKey)
  | inAddedForeignKey (table : String) (key : ForeignKey) (before after : List String)
  | inIndex (index : Index) (before after : List String)

namespace ColumnPlace

/-- The statement, with the name of the column there. -/
def change : ColumnPlace → String → SchemaChange
  | created table before column after, name =>
    .createTable { table with columns := before ++ { column with name } :: after }
  | added table column, name => .addColumn table { column with name }
  | changed table column, name => .changeColumn table { column with name }
  | dropped table, name => .dropColumn table name
  | inKey table before after, name =>
    .createTable { table with primaryKey := before ++ name :: after }
  | inForeignKey table keysBefore key before after keysAfter, name =>
    .createTable { table with
      foreignKeys := keysBefore ++ { key with columns := before ++ name :: after } :: keysAfter }
  | inAddedForeignKey table key before after, name =>
    .addForeignKey table { key with columns := before ++ name :: after }
  | inIndex index before after, name =>
    .createIndex { index with columns := before ++ name :: after }

/-- The place is in a list of names. -/
def listed : ColumnPlace → Bool
  | created .. | added .. | changed .. | dropped .. => false
  | inKey .. | inForeignKey .. | inAddedForeignKey .. | inIndex .. => true

/-- How the name is written there. -/
def written (d : Dialect) (place : ColumnPlace) : String → String :=
  if place.listed then d.quoteName else d.quoteIdentifier

end ColumnPlace

namespace SchemaChange

theorem writes_createTable {written : String → String} {table : String → Table}
    {ifNotExists : Bool} (same : ∀ name, (table name).ifNotExists = ifNotExists)
    (h : Writes written fun name => ((table name).tokens d).map (Token.render d)) :
    Writes written fun name => (createTable (table name)).sql d := by
  cases refused : d = .tsql && ifNotExists with
  | true =>
    exact (Writes.error (.unsupported .createIfNotExists d)).of_eq fun name => by
      rw [sql, tokens, same, refused]
      rfl
  | false => exact h.of_eq fun name => by rw [sql, tokens, same, refused]; rfl

theorem render_alterTable (table : String) {action : List Token} (ne : action ≠ []) :
    Token.render d (alterTable table action) =
      "ALTER TABLE " ++ d.quoteName table ++ " " ++ Token.render d action := by
  rw [alterTable, Token.render_append, Token.render_spaced ne, Token.render_words]
  simp [Token.text, ← String.toList_inj]

theorem writes_created (table : Table) (before : List Column) (column : Column)
    (after : List Column) :
    Writes d.quoteIdentifier fun name =>
      ((ColumnPlace.created table before column after).change name).sql d := by
  have definition (rest : List Token) : Framed d.quoteIdentifier fun name =>
      Token.render d (Token.words (.identifier name :: rest)) :=
    Token.framed_words [] Token.framed_identifier rest
  have entries : Writes d.quoteIdentifier fun name =>
      before.mapM (Column.sql d) >>= fun before =>
        column.rest d >>= fun rest =>
          (after.mapM (Column.sql d)).map fun after => table.head d ++ ", ".intercalate
            (before ++ Token.render d (Token.words (.identifier name :: rest)) ::
              (after ++ (table.keySql d ++ table.foreignKeys.map (ForeignKey.sql d)))) ++ ")" :=
    .bind _ fun before => .bind _ fun rest => .map _ fun after =>
      (((definition rest).intercalate ", " _ _).after _).before _
  refine writes_createTable (fun name => rfl) (entries.of_eq fun name => ?_)
  rw [Table.sql_eq _ (by simp), List.mapM_append, List.mapM_cons, Column.sql_eq,
    Column.rest_rename]
  cases before.mapM (Column.sql d) with
  | error e => rfl
  | ok before =>
    cases column.rest d with
    | error e => rfl
    | ok rest =>
      cases after.mapM (Column.sql d) with
      | error e => rfl
      | ok after =>
        simp only [bind, Except.bind, Except.map, pure, Except.pure, Except.ok.injEq]
        rw [List.append_assoc, List.append_assoc, List.cons_append]
        rfl

theorem writes_inKey (table : Table) (before after : List String) :
    Writes d.quoteName fun name =>
      ((ColumnPlace.inKey table before after).change name).sql d := by
  refine writes_createTable (fun name => rfl) (table.writes_keys fun columns => ?_)
  have name : Framed d.quoteName d.quoteName := .gap
  have key := name.intercalate ", " (before.map d.quoteName) (after.map d.quoteName)
  refine (((key.after "PRIMARY KEY (").before ")").intercalate ", " columns
    (table.foreignKeys.map (ForeignKey.sql d))).of_eq fun name => ?_
  simp [Table.keySql]

theorem writes_inForeignKey (table : Table) (keysBefore : List ForeignKey) (key : ForeignKey)
    (before after : List String) (keysAfter : List ForeignKey) :
    Writes d.quoteName fun name =>
      ((ColumnPlace.inForeignKey table keysBefore key before after keysAfter).change name).sql
        d := by
  refine writes_createTable (fun name => rfl) (table.writes_keys fun columns => ?_)
  refine ((key.framed_sql before after).intercalate ", "
    (columns ++ table.keySql d ++ keysBefore.map (ForeignKey.sql d))
    (keysAfter.map (ForeignKey.sql d))).of_eq fun name => ?_
  simp

theorem writes_inAddedForeignKey (table : String) (key : ForeignKey) (before after : List String) :
    Writes d.quoteName fun name =>
      ((ColumnPlace.inAddedForeignKey table key before after).change name).sql d := by
  by_cases refused : d = .sqlite
  · exact (Writes.error (.unsupported .addForeignKey d)).of_eq fun name => by
      rw [ColumnPlace.change, sql, tokens, addForeignKeyTokens, if_pos refused]
      rfl
  · refine (Writes.ok ((key.framed_sql before after).after
      ("ALTER TABLE " ++ d.quoteName table ++ " ADD "))).of_eq fun name => ?_
    have definition (k : ForeignKey) : k.tokens ≠ [] := Token.words_ne_nil (by simp)
    rw [ColumnPlace.change, sql, tokens, addForeignKeyTokens, if_neg refused, Except.map,
      render_alterTable table (by simp), Token.render_cons, Token.render_spaced (definition _)]
    simp [Token.text, ForeignKey.sql, ← String.toList_inj]

theorem writes_inIndex (index : Index) (before after : List String) :
    Writes d.quoteName fun name =>
      ((ColumnPlace.inIndex index before after).change name).sql d := by
  let unique := if index.unique then [Token.unique] else []
  refine (Writes.ok (Token.framed_words ([.create] ++ unique ++
    [.index, .identifier index.name, .on, .name index.table])
    (Token.framed_names before after) [])).of_eq fun name => ?_
  simp [ColumnPlace.change, sql, tokens, Index.tokens, Except.map, unique]

theorem writes_dropped (table : String) :
    Writes d.quoteIdentifier fun name => ((ColumnPlace.dropped table).change name).sql d := by
  refine (Writes.ok ((Token.framed_words [.drop, .column] Token.framed_identifier []).after
    ("ALTER TABLE " ++ d.quoteName table ++ " "))).of_eq fun name => ?_
  rw [ColumnPlace.change, sql, tokens, dropColumnTokens, Except.map,
    render_alterTable table (Token.words_ne_nil (by simp))]
  rfl

/-- Words before the definition of a column that a table is altered to have. -/
theorem writes_definition (table : String) (column : Column) {verb : List Token} (ne : verb ≠ []) :
    Writes d.quoteIdentifier fun name =>
      (({ column with name } : Column).tokens d).map fun definition =>
        Token.render d (alterTable table (verb ++ spaced definition)) := by
  refine (Writes.map (column.rest d) fun rest =>
    (Token.framed_words [] Token.framed_identifier rest).after
      ("ALTER TABLE " ++ d.quoteName table ++ " " ++ Token.render d verb ++ " ")).of_eq
        fun name => ?_
  rw [Column.tokens_eq, Column.rest_rename]
  cases column.rest d with
  | error e => rfl
  | ok rest =>
    simp [Except.map, render_alterTable table, ne, Token.words_ne_nil, Token.render_spaced,
      String.append_assoc]

theorem writes_added (table : String) (column : Column) :
    Writes d.quoteIdentifier fun name => ((ColumnPlace.added table column).change name).sql d := by
  let verb := if d = .tsql then [Token.raw "ADD"] else [Token.raw "ADD", Token.column]
  have ne : Token.words verb ≠ [] := Token.words_ne_nil (by unfold verb; split <;> simp)
  refine (writes_definition table column ne).of_eq fun name => ?_
  rw [ColumnPlace.change, sql, tokens, addColumnTokens]
  cases ({ column with name } : Column).tokens d <;> rfl

/-- What is done to a changed column after its type is. -/
def furtherActions (d : Dialect) (c : Column) : Except CompileError (List (List Token)) := do
  let null := match c.nullable? with
    | none => []
    | some true => [[.drop, .not, .null]]
    | some false => [[.set, .not, .null]]
  let default ← match c.default? with
    | none => pure []
    | some default => pure [.setDefault :: (← default.tokens d)]
  return null ++ default

theorem alterColumnSteps_eq (c : Column) :
    alterColumnSteps d c = (furtherActions d c).map fun actions =>
      ([.raw "TYPE", .raw (d.typeName c.type)] :: actions).map (alterColumn c.name) := by
  unfold alterColumnSteps furtherActions
  cases c.default? with
  | none => cases c.nullable? with
    | none => rfl
    | some null => cases null <;> rfl
  | some default =>
    dsimp only
    cases default.tokens d with
    | error e => rfl
    | ok ts => cases c.nullable? with
      | none => rfl
      | some null => cases null <;> rfl

@[simp] theorem furtherActions_rename (c : Column) (name : String) :
    furtherActions d { c with name } = furtherActions d c := rfl

theorem alterColumn_ne_nil (column : String) (action : List Token) :
    alterColumn column action ≠ [] :=
  Token.words_ne_nil (by simp)

theorem framed_alterColumn (action : List Token) :
    Framed d.quoteIdentifier fun name => Token.render d (alterColumn name action) :=
  Token.framed_words [.alter, .column] Token.framed_identifier action

theorem framed_steps (action : List Token) (actions : List (List Token)) :
    Framed d.quoteIdentifier fun name =>
      ", ".intercalate (((action :: actions).map (alterColumn name)).map (Token.render d)) := by
  induction actions generalizing action with
  | nil => simpa using framed_alterColumn action
  | cons next actions ih =>
    refine (((framed_alterColumn action).before ", ").append (ih next)).of_eq fun name => ?_
    exact String.intercalate_cons_cons

theorem framed_alterTable (table : String) {row : String → List Token} (ne : ∀ name, row name ≠ [])
    (h : Framed d.quoteIdentifier fun name => Token.render d (row name)) :
    Framed d.quoteIdentifier fun name => Token.render d (alterTable table (row name)) :=
  (h.after ("ALTER TABLE " ++ d.quoteName table ++ " ")).of_eq fun name =>
    render_alterTable table (ne name)

theorem writes_steps (table : String) (column : Column) :
    Writes d.quoteIdentifier fun name =>
      (alterColumnSteps d { column with name }).map fun steps =>
        Token.render d (alterTable table ([Token.comma, Token.space].intercalate steps)) := by
  refine (Writes.map (furtherActions d column) fun actions => framed_alterTable table ?_
    ((framed_steps [.raw "TYPE", .raw (d.typeName column.type)] actions).of_eq fun name =>
      Token.render_intercalate _)).of_eq fun name => ?_
  · intro name
    cases actions <;> simp [List.intercalate_cons_cons, alterColumn_ne_nil]
  · rw [alterColumnSteps_eq, furtherActions_rename]
    cases furtherActions d column <;> rfl

theorem writes_changed (table : String) (column : Column) :
    Writes d.quoteIdentifier fun name =>
      ((ColumnPlace.changed table column).change name).sql d := by
  cases d with
  | mysql =>
    have ne : [Token.raw "MODIFY", .space, .column] ≠ [] := by simp
    refine (writes_definition table column ne).of_eq fun name => ?_
    rw [ColumnPlace.change, sql, tokens, changeColumnTokens]
    cases ({ column with name } : Column).tokens .mysql <;> rfl
  | sqlite => exact .error (.unsupported .changeColumn .sqlite)
  | tsql =>
    cases given : column.default? with
    | some default =>
      exact (Writes.error (.unsupported .changeColumnDefault .tsql)).of_eq fun name => by
        simp [ColumnPlace.change, sql, tokens, changeColumnTokens, given, Except.map]
    | none =>
      let action := Token.raw (Dialect.tsql.typeName column.type) ::
        Column.nullTokens column.nullable?
      refine (Writes.ok (framed_alterTable table (fun name => alterColumn_ne_nil name action)
        (framed_alterColumn action))).of_eq fun name => ?_
      simp [ColumnPlace.change, sql, tokens, changeColumnTokens, given, Except.map, action]
  | _ =>
    refine (writes_steps table column).of_eq fun name => ?_
    dsimp only [ColumnPlace.change, sql, tokens, changeColumnTokens]
    cases alterColumnSteps _ { column with name } <;> rfl

end SchemaChange

namespace ColumnPlace

/-- A name is written in the same way at every place of its sort. -/
theorem writes (d : Dialect) (place : ColumnPlace) :
    Writes (place.written d) fun name => (place.change name).sql d := by
  cases place with
  | created table before column after =>
    exact SchemaChange.writes_created table before column after
  | added table column => exact SchemaChange.writes_added table column
  | changed table column => exact SchemaChange.writes_changed table column
  | dropped table => exact SchemaChange.writes_dropped table
  | inKey table before after => exact SchemaChange.writes_inKey table before after
  | inForeignKey table keysBefore key before after keysAfter =>
    exact SchemaChange.writes_inForeignKey table keysBefore key before after keysAfter
  | inAddedForeignKey table key before after =>
    exact SchemaChange.writes_inAddedForeignKey table key before after
  | inIndex index before after => exact SchemaChange.writes_inIndex index before after

end ColumnPlace

/-! ### Two ways of quoting -/

namespace Dialect

/-- The name is one segment, and is not the sign for every column. -/
def IsPlainName (name : String) : Prop := '.' ∉ name.toList ∧ name ≠ "*"

instance (name : String) : Decidable (IsPlainName name) :=
  inferInstanceAs (Decidable (_ ∧ _))

theorem quoteName_of_isPlainName {name : String} (h : IsPlainName name) :
    d.quoteName name = d.quoteIdentifier name := by
  have segment : name.toList ≠ ['*'] := fun star => h.2 (String.toList_inj.1 star)
  rw [quoteName, quoteIdentifier, quoteNameChars, List.splitOn_eq_singleton h.1, List.map_singleton,
    List.intercalate_singleton, quoteSegment, if_neg segment]

/-- An identifier is read as a name of one segment. -/
theorem readName?_quoteIdentifier (column : String) :
    d.readName? (d.quoteIdentifier column).toList = some [.name column.toList] := by
  have quoted : d.quotes.opening ≠ '*' := by cases d <;> decide
  have read : d.quotes.read? (d.quotes.around column.toList) = some (column.toList, []) := by
    have before : ([] : List Char).head? ≠ some d.quotes.closing := by simp
    simpa using QuotePair.read?_around column.toList before
  refine readName?_last ?_
  rw [toList_quoteIdentifier, readSegment?]
  · rw [read]
    rfl
  · rintro cs same
    exact quoted (List.cons.inj same).1

/-- A name that is quoted segment by segment is the identifier of a column only if the column has
that name and the name is one segment. -/
theorem quoteName_eq_quoteIdentifier_iff {name column : String} :
    d.quoteName name = d.quoteIdentifier column ↔ name = column ∧ IsPlainName name := by
  constructor
  · intro same
    have segments : (name.toList.splitOn '.').map NamePart.ofSegment = [.name column.toList] := by
      have read := readName?_quoteSegments (d := d) (List.splitOn_ne_nil '.' name.toList)
      rw [← quoteNameChars, ← toList_quoteName, same, readName?_quoteIdentifier] at read
      exact (Option.some.inj read).symm
    obtain ⟨segment, split, part⟩ := List.map_eq_singleton_iff.1 segments
    have whole : segment = name.toList := by
      have joined : ['.'].intercalate (name.toList.splitOn '.') = name.toList :=
        List.intercalate_splitOn '.'
      rwa [split, List.intercalate_singleton] at joined
    subst whole
    have named : name.toList = column.toList ∧ name.toList ≠ ['*'] := by
      unfold NamePart.ofSegment at part
      split at part
      · nomatch part
      · next star => exact ⟨NamePart.name.inj part, star⟩
    refine ⟨String.toList_inj.1 named.1, fun dot => ?_, ?_⟩
    · have kept := Text.not_of_mem_splitOnP name.toList (by rw [← List.splitOn, split]; simp) _ dot
      simp at kept
    · rintro rfl
      exact named.2 rfl
  · rintro ⟨rfl, plain⟩
    exact quoteName_of_isPlainName plain

end Dialect

/-! ### One name for one column -/

/-- The columns of the keys. -/
def Table.keyColumns (t : Table) : List String := t.primaryKey ++ t.foreignKeys.flatMap (·.columns)

/-- The keys name columns of the table, as the table does, just if these are columns of the table
and their names are plain. -/
theorem Table.keys_named_iff (t : Table) :
    (∀ c ∈ t.keyColumns,
      d.quoteName c ∈ t.columns.map fun column => d.quoteIdentifier column.name) ↔
      ∀ c ∈ t.keyColumns, c ∈ t.columns.map (·.name) ∧ Dialect.IsPlainName c := by
  refine forall₂_congr fun c _ => ?_
  simp only [List.mem_map, eq_comm (b := d.quoteName c), Dialect.quoteName_eq_quoteIdentifier_iff]
  constructor
  · rintro ⟨column, declared, rfl, plain⟩
    exact ⟨⟨column, declared, rfl⟩, plain⟩
  · rintro ⟨⟨column, declared, rfl⟩, plain⟩
    exact ⟨column, declared, rfl, plain⟩

namespace ColumnPlace

theorem written_eq_iff (name : String) :
    (∀ place place' : ColumnPlace, place.written d name = place'.written d name) ↔
      Dialect.IsPlainName name := by
  constructor
  · intro same
    have listed := same (.inIndex { name := "", table := "", columns := [] } [] []) (.dropped "")
    exact (Dialect.quoteName_eq_quoteIdentifier_iff.1 listed).2
  · intro plain place place'
    have one (place : ColumnPlace) : place.written d name = d.quoteIdentifier name := by
      unfold written
      split
      · exact Dialect.quoteName_of_isPlainName plain
      · rfl
    rw [one, one]

/-- **How a statement names a column depends on the place only through its sort**: a definition
quotes the name as one, a list of names segment by segment.  These are the same just for the names
of one segment other than `*`, and so the keys of a table name its columns just if they have such
names. -/
theorem columns_named (d : Dialect) :
    (∀ place : ColumnPlace, Writes (place.written d) fun name => (place.change name).sql d) ∧
    (∀ name, (∀ place place' : ColumnPlace, place.written d name = place'.written d name) ↔
      Dialect.IsPlainName name) ∧
    ∀ t : Table,
      (∀ c ∈ t.keyColumns,
        d.quoteName c ∈ t.columns.map fun column => d.quoteIdentifier column.name) ↔
      ∀ c ∈ t.keyColumns, c ∈ t.columns.map (·.name) ∧ Dialect.IsPlainName c :=
  ⟨writes d, written_eq_iff, Table.keys_named_iff⟩

/-- The primary key of a column with a dot in its name does not name the column. -/
theorem columns_named_dotted :
    let t : Table := {
      name := "t", ifNotExists := false, columns := [{ name := "a.b", type := .int32 }],
      primaryKey := ["a.b"] }
    (∀ c ∈ t.keyColumns, c ∈ t.columns.map (·.name)) ∧
      (SchemaChange.createTable t).sql .ansi =
        .ok "CREATE TABLE \"t\" (\"a.b\" INTEGER, PRIMARY KEY (\"a\".\"b\"))" ∧
      Dialect.ansi.quoteName "a.b" = "\"a\".\"b\"" ∧
      Dialect.ansi.quoteIdentifier "a.b" = "\"a.b\"" := by
  refine ⟨by decide, ?_, ?_, ?_⟩ <;> rfl

end ColumnPlace

end PolySql
