import PolySql.Proofs.Ensures
import PolySql.Proofs.Numbers
import PolySql.Proofs.Parts
import PolySql.Schema.Change

/-!
# The entries of a table

Names and texts in a schema statement may be anything, and a reader still finds its parts
(`SchemaChange.sql_parts`): its text is balanced, and what `CREATE TABLE` writes between its
parentheses falls at the commas into the definitions of the columns, the primary key and the foreign
keys.  Only a default that is written as it is has to be one part by itself.

Each token of a definition is one part (`Dialect.IsPart`), so a row of words is one
(`Token.isPart_words`), and so is each entry.  The commas between entries are the only ones that
separate (`Dialect.parts?_intercalate`).
-/

namespace PolySql

open Dialect (isSeparator_comma isPart_of_plain isPart_of_numeric isPart_literal isPart_iff_whole)

/-! ### Type names and defaults -/

section Column

variable {d : Dialect}

theorem isPart_sizedName {name : String} (h : d.IsPart ',' name) (length : UInt16) :
    d.IsPart ',' (sizedName name length) := by
  have digits : d.IsPart ',' length.toNat.repr :=
    isPart_of_numeric isSeparator_comma (numeric_nat _)
  simpa [sizedName, toString, isPart_iff_whole] using h.parens digits.balanced

theorem isPart_tsqlSizedName {name : String} (h : d.IsPart ',' name) (length : UInt16) :
    d.IsPart ',' (tsqlSizedName name length) := by
  have greatest : d.IsPart ',' "MAX" :=
    isPart_of_plain isSeparator_comma (by decide) (by decide)
  unfold tsqlSizedName
  split
  · simpa [toString, isPart_iff_whole] using h.parens greatest.balanced
  · exact isPart_sizedName h length

theorem isPart_decimalName (precision scale : UInt8) :
    d.IsPart ',' (decimalName precision scale) := by
  have digits : ∀ n : Nat, d.IsPart ',' n.repr := fun n =>
    isPart_of_numeric isSeparator_comma (numeric_nat n)
  have decimal : d.IsPart ',' "DECIMAL" :=
    isPart_of_plain isSeparator_comma (by decide) (by decide)
  have both : d.Balanced (", ".intercalate [precision.toNat.repr, scale.toNat.repr]) := by
    refine Dialect.balanced_intercalate fun e he => ?_
    obtain rfl | rfl : e = precision.toNat.repr ∨ e = scale.toNat.repr := by simpa using he
    · exact digits _
    · exact digits _
  simpa [decimalName, toString, isPart_iff_whole, String.toList_intercalate,
    List.intercalate_cons_cons] using decimal.parens both

theorem isPart_typeName (type : DataType) : d.IsPart ',' (d.typeName type) := by
  cases type with
  | decimal precision scale =>
    have decimal : d.IsPart ',' (decimalName precision scale) := isPart_decimalName precision scale
    cases d
    case sqlite => exact (by decide : Dialect.sqlite.IsPart ',' "NUMERIC")
    all_goals exact decimal
  | char length =>
    cases d
    case sqlite => exact (by decide : Dialect.sqlite.IsPart ',' "TEXT")
    case tsql => exact isPart_tsqlSizedName (by decide) length
    all_goals exact isPart_sizedName (by decide) length
  | varchar length =>
    cases d
    case sqlite => exact (by decide : Dialect.sqlite.IsPart ',' "TEXT")
    case tsql => exact isPart_tsqlSizedName (by decide) length
    all_goals exact isPart_sizedName (by decide) length
  | _ => cases d <;> decide +kernel

/-- A value is one part in any literal. -/
theorem ensures_isPart_renderValue (v : Value) :
    Ensures (d.renderValue v .quoted) (d.IsPart ',') := by
  have sep := isSeparator_comma
  cases v with
  | null => exact .ok (isPart_of_plain sep (by decide) (by decide))
  | bool b => exact .ok (by cases d <;> cases b <;> decide)
  | int n => exact .ok (isPart_of_numeric sep (numeric_int n.toInt))
  | float x =>
    cases h : Value.floatText? x with
    | none => simpa [Dialect.renderValue, h] using Ensures.error _
    | some text =>
      have numeric : Numeric text := Decimal.Layout.numeric_text (by decide) h
      simpa [Dialect.renderValue, h, Dialect.formText] using
        Ensures.ok (isPart_of_numeric sep numeric)
  | text s => exact .ok (isPart_literal sep s)

end Column

/-! ### Rows of tokens -/

namespace Token

variable {d : Dialect} {separator : Char} {ts : List Token}

/-- The texts of the tokens are one part each. -/
def AreParts (d : Dialect) (separator : Char) (ts : List Token) : Prop :=
  ∀ t ∈ ts, d.IsPart separator (t.text d)

@[simp] theorem areParts_nil : AreParts d separator [] := nofun

@[simp] theorem areParts_cons {t : Token} :
    AreParts d separator (t :: ts) ↔ d.IsPart separator (t.text d) ∧ AreParts d separator ts :=
  List.forall_mem_cons

@[simp] theorem areParts_append {us : List Token} :
    AreParts d separator (ts ++ us) ↔ AreParts d separator ts ∧ AreParts d separator us :=
  List.forall_mem_append

@[simp] theorem text_raw (sql : String) : (raw sql).text d = sql := rfl

@[simp] theorem render_nil : render d [] = "" := rfl

@[simp] theorem render_cons (t : Token) : render d (t :: ts) = t.text d ++ render d ts := by
  simp [render]

@[simp] theorem render_append (us : List Token) :
    render d (ts ++ us) = render d ts ++ render d us := by
  simp [render, String.join_append]

theorem render_intercalate (rows : List (List Token)) :
    render d ([comma, space].intercalate rows) = ", ".intercalate (rows.map (render d)) := by
  induction rows with
  | nil => rfl
  | cons row rows ih =>
    cases rows with
    | nil => simp
    | cons row' rows =>
      rw [List.intercalate_cons_cons, render_append, render_append, ih]
      simp [text]

/-- The token is a word that is the same in every dialect. -/
abbrev isWord : Token → Bool
  | identifier _ | name _ | names _ | count _ | raw _ => false
  | comma | openParen | closeParen | space => false
  | _ => true

section Separator

variable (sep : Dialect.IsSeparator separator)
include sep

@[simp] theorem isPart_word {t : Token} (h : t.isWord = true) : d.IsPart separator (t.text d) := by
  -- The texts are evaluated, so they have to be those of some dialect.
  have same : t.text d = t.text .ansi := by cases t <;> first | rfl | nomatch h
  have plain : Plain (t.text .ansi) ∧ ',' ∉ (t.text .ansi).toList := by
    cases t <;> first | decide +kernel | nomatch h
  rw [same]
  exact isPart_of_plain sep plain.1 plain.2

@[simp] theorem isPart_identifier (n : String) : d.IsPart separator ((identifier n).text d) := by
  simpa [text, isPart_iff_whole] using Dialect.whole_around sep n.toList

@[simp] theorem isPart_name (n : String) : d.IsPart separator ((name n).text d) := by
  simpa [text, isPart_iff_whole] using Dialect.whole_quoteNameChars sep n.toList

/-- A row of words with spaces between them is one part if they are. -/
theorem isPart_words (h : AreParts d separator ts) : d.IsPart separator (render d (words ts)) := by
  have ne : ' ' ≠ separator := by rcases sep with rfl | rfl <;> decide
  rw [isPart_iff_whole]
  induction ts with
  | nil => exact Dialect.whole_nil
  | cons t ts ih =>
    obtain ⟨here, there⟩ := areParts_cons.1 h
    have whole := isPart_iff_whole.1 here
    cases ts with
    | nil => simpa [words] using whole
    | cons t' ts =>
      simpa [words, text] using whole.append_cons Dialect.space_not_mem_signs ne (ih there)

end Separator

/-- Whatever the names are, their list is one part. -/
@[simp] theorem isPart_names (ns : List String) : d.IsPart ',' ((names ns).text d) := by
  have empty : d.IsPart ',' "" := rfl
  have inner : d.Balanced (", ".intercalate (ns.map d.quoteName)) := by
    refine Dialect.balanced_intercalate fun e he => ?_
    obtain ⟨n, -, rfl⟩ := List.mem_map.1 he
    exact isPart_name isSeparator_comma n
  simpa [text] using empty.parens inner

/-- What follows a row after a space is balanced with it. -/
theorem balanced_spaced {action : List Token} (h : d.IsPart ',' (render d ts))
    (h' : d.Balanced (render d action)) : d.Balanced (render d (ts ++ spaced action)) := by
  cases action with
  | nil => simpa [spaced] using h.balanced
  | cons t action => simpa [spaced, text, String.append_assoc] using h.balanced_space h'

end Token

/-! ### Definitions -/

section Definition

open Token (AreParts isPart_words)

variable {d : Dialect}

/-- The default, if it is written as it is. -/
def ColumnDefault.raw? : ColumnDefault → Option String
  | raw sql => some sql
  | value _ => none

/-- The default is one part, if it is written as it is. -/
def Column.PartDefault (d : Dialect) (c : Column) : Prop :=
  ∀ sql ∈ c.default?.bind (·.raw?), d.IsPart ',' sql

/-- The text of a column definition. -/
def Column.sql (d : Dialect) (c : Column) : Except CompileError String :=
  (c.tokens d).map (Token.render d)

/-- The text of a foreign key. -/
def ForeignKey.sql (d : Dialect) (k : ForeignKey) : String := Token.render d k.tokens

theorem ColumnDefault.ensures_areParts (default : ColumnDefault)
    (h : ∀ sql ∈ default.raw?, d.IsPart ',' sql) :
    Ensures (default.tokens d) (AreParts d ',') := by
  cases default with
  | value v =>
    refine (ensures_isPart_renderValue v).bind fun text part => .ok ?_
    simpa using part
  | raw sql => exact .ok (by simpa [raw?] using h)

theorem Column.areParts_nullTokens (null? : Option Bool) : AreParts d ',' (nullTokens null?) := by
  rcases null? with _ | (_ | _) <;> simp [nullTokens]

theorem Column.ensures_areParts_defaultTokens {default? : Option ColumnDefault}
    (h : ∀ sql ∈ default?.bind (·.raw?), d.IsPart ',' sql) :
    Ensures (defaultTokens d default?) (AreParts d ',') := by
  cases default? with
  | none => exact .ok Token.areParts_nil
  | some default =>
    refine (default.ensures_areParts h).bind fun ts parts => .ok ?_
    simpa using parts

theorem Column.ensures_areParts_keyTokens (c : Column) :
    Ensures (c.keyTokens d) (AreParts d ',') := by
  have identity : d.IsPart ',' d.identity := by cases d <;> decide
  have identity : AreParts d ',' (if c.autoIncrement then [Token.raw d.identity] else []) := by
    split <;> simp [identity]
  have key : AreParts d ',' (if c.primaryKey then [Token.primary, Token.key] else []) := by
    split <;> simp
  unfold keyTokens
  dsimp only
  split
  · split
    · exact .error _
    · exact .ok (Token.areParts_append.2 ⟨key, identity⟩)
  · exact .ok (Token.areParts_append.2 ⟨identity, key⟩)

theorem Column.ensures_isPart {c : Column} (h : c.PartDefault d) :
    Ensures (c.tokens d) fun ts => d.IsPart ',' (Token.render d ts) := by
  have unique : AreParts d ',' (if c.unique then [Token.unique] else []) := by
    split <;> simp
  refine (ensures_areParts_defaultTokens h).bind fun default hdefault => ?_
  refine c.ensures_areParts_keyTokens.bind fun key hkey => .ok ?_
  refine isPart_words isSeparator_comma ?_
  simp [isPart_typeName, areParts_nullTokens, hdefault, hkey, unique]

theorem ForeignKey.isPart (k : ForeignKey) : d.IsPart ',' (k.sql d) := by
  have action : ∀ event : Token, event.isWord = true → ∀ action? : Option ReferentialAction,
      AreParts d ',' (actionTokens event action?) := by
    rintro event word (_ | action)
    · simp [actionTokens]
    · cases action <;> simp [actionTokens, ReferentialAction.token, word]
  refine isPart_words isSeparator_comma ?_
  simp [action .delete rfl, action .update rfl]

theorem Index.ensures_isPart (i : Index) :
    Ensures i.tokens fun ts => d.IsPart ',' (Token.render d ts) := by
  unfold tokens
  split
  · exact .error _
  · refine .ok (isPart_words isSeparator_comma ?_)
    split <;> simp

end Definition

/-! ### Tables -/

namespace Table

variable {d : Dialect} {t : Table}

/-- The primary key as an entry, if it is one. -/
def keySql (d : Dialect) (t : Table) : List String :=
  if t.primaryKey.isEmpty then []
  else ["PRIMARY KEY (" ++ ", ".intercalate (t.primaryKey.map d.quoteName) ++ ")"]

theorem mapM_columnSql (columns : List Column) :
    columns.mapM (Column.sql d) =
      (columns.mapM (Column.tokens d)).map (·.map (Token.render d)) := by
  induction columns with
  | nil => rfl
  | cons c columns ih =>
    rw [List.mapM_cons, List.mapM_cons, ih, Column.sql]
    cases c.tokens d with
    | error e => rfl
    | ok ts => cases columns.mapM (Column.tokens d) <;> rfl

theorem render_key :
    (if t.primaryKey.isEmpty then [] else
      [Token.words [.primary, .key, .names t.primaryKey]]).map (Token.render d) = t.keySql d := by
  unfold keySql
  split
  · rfl
  · simp [← String.toList_inj, Token.words, Token.text]

/-- The entries are one part each, and they are the definitions of the columns, the primary key and
the foreign keys. -/
theorem ensures_entries (defaults : ∀ c ∈ t.columns, c.PartDefault d) :
    Ensures (t.entries d) fun rows => (∀ row ∈ rows, d.IsPart ',' (Token.render d row)) ∧
      ∃ columns, t.columns.mapM (Column.sql d) = .ok columns ∧
        rows.map (Token.render d) =
          columns ++ t.keySql d ++ t.foreignKeys.map (ForeignKey.sql d) := by
  refine Ensures.known fun columns found => .ok ⟨?_, columns.map (Token.render d), ?_, ?_⟩
  · have parts : ∀ ts ∈ columns, d.IsPart ',' (Token.render d ts) :=
      Ensures.mapM t.columns (fun c hc => Column.ensures_isPart (defaults c hc)) columns found
    have key : d.IsPart ',' (Token.render d (Token.words [.primary, .key, .names t.primaryKey])) :=
      Token.isPart_words isSeparator_comma (by simp)
    intro row hrow
    rw [List.append_assoc, List.mem_append, List.mem_append] at hrow
    rcases hrow with column | primary | foreign
    · exact parts row column
    · split at primary
      · nomatch primary
      · obtain rfl := List.mem_singleton.1 primary
        exact key
    · obtain ⟨k, -, rfl⟩ := List.mem_map.1 foreign
      exact k.isPart
  · rw [mapM_columnSql, found]
    rfl
  · rw [List.map_append, List.map_append, render_key, List.map_map]
    simp [ForeignKey.sql]

theorem columnSql_ne_nil {columns : List Column} {texts : List String} (ne : columns ≠ [])
    (found : columns.mapM (Column.sql d) = .ok texts) : texts ≠ [] := by
  rintro rfl
  obtain ⟨c, columns, rfl⟩ := List.exists_cons_of_ne_nil ne
  rw [List.mapM_cons] at found
  cases hc : c.sql d with
  | error e => simp [hc, bind, Except.bind] at found
  | ok text => cases hcs : columns.mapM (Column.sql d) <;>
      simp [hc, hcs, bind, Except.bind, pure, Except.pure] at found

/-- **The creation of a table falls into what stands before the parentheses and the entries.** -/
theorem ensures_parts (defaults : ∀ c ∈ t.columns, c.PartDefault d) :
    Ensures (t.tokens d) fun ts => ∃ head body columns,
      Token.render d ts = head ++ "(" ++ body ++ ")" ∧
      d.parts? '(' (Token.render d ts) = some [head, body ++ ")"] ∧
      t.columns.mapM (Column.sql d) = .ok columns ∧
      d.parts? ',' body = some
        (Dialect.afterCommas (columns ++ t.keySql d ++ t.foreignKeys.map (ForeignKey.sql d))) := by
  unfold tokens
  split
  · exact .error _
  · next nonempty =>
    refine (ensures_entries defaults).bind fun rows ⟨parts, columns, found, entries⟩ => .ok ?_
    have parts : ∀ e ∈ rows.map (Token.render d), d.IsPart ',' e := by simpa using parts
    have ne : rows.map (Token.render d) ≠ [] := by
      have := columnSql_ne_nil (by simpa using nonempty) found
      simp [entries, this]
    have words : Token.AreParts d '(' ([.create, .table] ++
        (if t.ifNotExists then [.if, .not, .exists] else []) ++ [.name t.name]) := by
      split <;> simp
    have head := (Token.isPart_words Dialect.isSeparator_opening words).append_space (by decide)
    -- Of what stands before the parentheses only that it is one part is used from here on.
    generalize Token.words _ = row at head ⊢
    let body := ", ".intercalate (rows.map (Token.render d))
    have written : Token.render d (row ++ [.space, .openParen] ++
        [Token.comma, Token.space].intercalate rows ++ [.closeParen]) =
        Token.render d row ++ " " ++ "(" ++ body ++ ")" := by
      simp [← String.toList_inj, body, Token.render_intercalate, Token.text]
    refine ⟨_, body, columns, written, ?_, found, ?_⟩
    · rw [written, Dialect.parts?_parens head (Dialect.balanced_intercalate parts)]
    · rw [Dialect.parts?_intercalate parts ne, entries]

end Table

/-! ### Changes -/

namespace SchemaChange

open Token (AreParts isPart_words)

variable {d : Dialect}

/-- The columns that the change defines. -/
def columns : SchemaChange → List Column
  | createTable table => table.columns
  | addColumn _ column | changeColumn _ column => [column]
  | _ => []

/-- The defaults of the change that are written as they are. -/
def rawDefaults (change : SchemaChange) : List String :=
  change.columns.filterMap fun c => c.default?.bind (·.raw?)

theorem balanced_alterTable (table : String) {action : List Token}
    (h : d.Balanced (Token.render d action)) :
    d.Balanced (Token.render d (alterTable table action)) :=
  Token.balanced_spaced (isPart_words isSeparator_comma (by simp)) h

theorem balanced_words {ts : List Token} (h : AreParts d ',' ts) :
    d.Balanced (Token.render d (Token.words ts)) :=
  (isPart_words isSeparator_comma h).balanced

theorem balanced_steps {rows : List (List Token)}
    (h : ∀ row ∈ rows, d.IsPart ',' (Token.render d row)) :
    d.Balanced (Token.render d ([Token.comma, .space].intercalate rows)) := by
  rw [Token.render_intercalate]
  exact Dialect.balanced_intercalate (by simpa using h)

/-- The renaming procedure with its first argument. -/
def procedureCall (d : Dialect) (path : String) : List Token :=
  Token.words [.raw "EXEC", .raw "sp_rename", .raw (d.literal path)]

theorem isPart_procedureCall (path : String) :
    d.IsPart ',' (Token.render d (procedureCall d path)) := by
  have exec : d.IsPart ',' "EXEC" := by cases d <;> decide
  have rename : d.IsPart ',' "sp_rename" := by cases d <;> decide
  exact isPart_words isSeparator_comma
    (by simp [exec, rename, isPart_literal isSeparator_comma])

theorem balanced_renameTableTokens (table newName : String) :
    d.Balanced (Token.render d (renameTableTokens d table newName)) := by
  have procedure : d.Balanced (Token.render d (renameObject d table newName)) := by
    have steps : renameObject d table newName = [Token.comma, .space].intercalate
        [procedureCall d table, [.raw (d.literal newName)]] := rfl
    rw [steps]
    refine balanced_steps ?_
    simp [isPart_procedureCall, isPart_literal isSeparator_comma]
  cases d
  case mysql => exact balanced_words (by simp)
  case tsql => exact procedure
  all_goals exact balanced_alterTable table (balanced_words (by simp))

theorem balanced_renameColumnTokens (table column newName : String) :
    d.Balanced (Token.render d (renameColumnTokens d table column newName)) := by
  have procedure : d.Balanced (Token.render d (renameObject d (table ++ "." ++ column) newName ++
      [.comma, .space, .raw "'COLUMN'"])) := by
    have kind : d.IsPart ',' "'COLUMN'" := by cases d <;> decide
    have steps : renameObject d (table ++ "." ++ column) newName ++
        [.comma, .space, .raw "'COLUMN'"] =
        [Token.comma, .space].intercalate [procedureCall d (table ++ "." ++ column),
          [.raw (d.literal newName)], [.raw "'COLUMN'"]] := by
      simp [renameObject, procedureCall, List.intercalate_cons_cons]
    rw [steps]
    refine balanced_steps ?_
    simp [isPart_procedureCall, isPart_literal isSeparator_comma, kind]
  cases d
  case tsql => exact procedure
  all_goals exact balanced_alterTable table (balanced_words (by simp))

theorem isPart_alterColumn (column : String) {action : List Token} (h : AreParts d ',' action) :
    d.IsPart ',' (Token.render d (alterColumn column action)) :=
  isPart_words isSeparator_comma (by simpa using h)

theorem ensures_isPart_alterColumnSteps {c : Column} (h : c.PartDefault d) :
    Ensures (alterColumnSteps d c) fun rows => ∀ row ∈ rows, d.IsPart ',' (Token.render d row) := by
  have kind : d.IsPart ',' "TYPE" := by cases d <;> decide
  have type : d.IsPart ',' (Token.render d
      (alterColumn c.name [.raw "TYPE", .raw (d.typeName c.type)])) :=
    isPart_alterColumn c.name (by simp [kind, isPart_typeName])
  unfold alterColumnSteps
  cases hd : c.default? with
  | none =>
    refine .ok ?_
    rcases c.nullable? with _ | (_ | _) <;> simp [type, isPart_alterColumn]
  | some default =>
    have raw : ∀ sql ∈ default.raw?, d.IsPart ',' sql := by simpa [Column.PartDefault, hd] using h
    refine (default.ensures_areParts raw).bind fun ts hts => .ok ?_
    rcases c.nullable? with _ | (_ | _) <;> simp [type, isPart_alterColumn, hts]

theorem ensures_balanced_addColumnTokens (table : String) {c : Column} (h : c.PartDefault d) :
    Ensures (addColumnTokens d table c) fun ts => d.Balanced (Token.render d ts) := by
  have add : d.IsPart ',' "ADD" := by cases d <;> decide
  have verb : AreParts d ',' (if d = .tsql then [.raw "ADD"] else [.raw "ADD", .column]) := by
    split <;> simp [add]
  refine (Column.ensures_isPart h).bind fun definition part => .ok (balanced_alterTable table ?_)
  exact Token.balanced_spaced (isPart_words isSeparator_comma verb) part.balanced

theorem ensures_balanced_changeColumnTokens (table : String) {c : Column} (h : c.PartDefault d) :
    Ensures (changeColumnTokens d table c) fun ts => d.Balanced (Token.render d ts) := by
  have steps : Ensures (alterColumnSteps d c >>= fun rows =>
      pure (alterTable table ([Token.comma, .space].intercalate rows)))
      fun ts => d.Balanced (Token.render d ts) :=
    (ensures_isPart_alterColumnSteps h).bind fun rows parts =>
      .ok (balanced_alterTable table (balanced_steps parts))
  cases d
  case sqlite => exact .error _
  case mysql =>
    refine (Column.ensures_isPart h).bind fun definition part => .ok (balanced_alterTable table ?_)
    have modify :
        Dialect.mysql.IsPart ',' (Token.render .mysql [.raw "MODIFY", .space, .column]) := by
      decide
    exact Token.balanced_spaced modify part.balanced
  case tsql =>
    dsimp only [changeColumnTokens]
    split
    · exact .error _
    · refine .ok (balanced_alterTable table (isPart_alterColumn c.name ?_).balanced)
      simp [isPart_typeName, Column.areParts_nullTokens]
  all_goals exact steps

theorem ensures_balanced_addForeignKeyTokens (table : String) (k : ForeignKey) :
    Ensures (addForeignKeyTokens d table k) fun ts => d.Balanced (Token.render d ts) := by
  have add : d.IsPart ',' (Token.render d [.raw "ADD"]) := by cases d <;> decide
  unfold addForeignKeyTokens
  split
  · exact .error _
  · have definition : d.Balanced (Token.render d k.tokens) := k.isPart.balanced
    have action : d.Balanced (Token.render d ([.raw "ADD"] ++ spaced k.tokens)) :=
      Token.balanced_spaced add definition
    exact .ok (balanced_alterTable table action)

theorem ensures_balanced_dropForeignKeyTokens (table name : String) :
    Ensures (dropForeignKeyTokens d table name) fun ts => d.Balanced (Token.render d ts) := by
  cases d
  case sqlite => exact .error _
  all_goals exact .ok (balanced_alterTable table (balanced_words (by simp)))

theorem balanced_dropIndexTokens (table name : String) :
    d.Balanced (Token.render d (dropIndexTokens d table name)) := by
  cases d <;> exact balanced_words (by simp)

theorem balanced_dropTableTokens (table : String) (ifExists : Bool) :
    d.Balanced (Token.render d (dropTableTokens table ifExists)) := by
  refine balanced_words ?_
  split <;> simp

/-- The text of every change is balanced: what is done to a table follows its name after a space,
and is made of parts. -/
theorem ensures_balanced_tokens (change : SchemaChange)
    (defaults : ∀ c ∈ change.columns, c.PartDefault d) :
    Ensures (change.tokens d) fun ts => d.Balanced (Token.render d ts) := by
  cases change with
  | createTable t =>
    dsimp only [tokens]
    split
    · exact .error _
    · intro ts made
      obtain ⟨head, body, columns, -, parts, -⟩ := Table.ensures_parts defaults ts made
      exact Dialect.balanced_of_parts? parts
  | renameTable table newName => exact .ok (balanced_renameTableTokens table newName)
  | dropTable table ifExists => exact .ok (balanced_dropTableTokens table ifExists)
  | addColumn table c =>
    exact ensures_balanced_addColumnTokens table (defaults c (by simp [columns]))
  | renameColumn table column newName =>
    exact .ok (balanced_renameColumnTokens table column newName)
  | changeColumn table c =>
    exact ensures_balanced_changeColumnTokens table (defaults c (by simp [columns]))
  | dropColumn table column => exact .ok (balanced_alterTable table (balanced_words (by simp)))
  | addForeignKey table key => exact ensures_balanced_addForeignKeyTokens table key
  | dropForeignKey table name => exact ensures_balanced_dropForeignKeyTokens table name
  | createIndex index => exact fun ts made => (index.ensures_isPart ts made).balanced
  | dropIndex table name => exact .ok (balanced_dropIndexTokens table name)

/-- **Whatever the names and texts in a schema statement are, its parts are found.**  The text is
balanced.  In the creation of a table the only parentheses that are not in others hold the entries,
and between the commas that are in no further ones stand the definitions of the columns, then the
primary key, if there is one, and then the foreign keys. -/
theorem sql_parts {change : SchemaChange} {text : String}
    (defaults : ∀ sql ∈ change.rawDefaults, d.IsPart ',' sql)
    (written : change.sql d = .ok text) :
    d.Balanced text ∧ ∀ t, change = .createTable t → ∃ head body columns,
      text = head ++ "(" ++ body ++ ")" ∧
      d.parts? '(' text = some [head, body ++ ")"] ∧
      t.columns.mapM (Column.sql d) = .ok columns ∧
      d.parts? ',' body = some
        (Dialect.afterCommas (columns ++ t.keySql d ++ t.foreignKeys.map (ForeignKey.sql d))) := by
  obtain ⟨ts, made, rfl⟩ : ∃ ts, change.tokens d = .ok ts ∧ Token.render d ts = text := by
    unfold sql at written
    cases made : change.tokens d with
    | error e => simp [made, Except.map] at written
    | ok ts => exact ⟨ts, rfl, by simpa [made, Except.map] using written⟩
  have defaults : ∀ c ∈ change.columns, c.PartDefault d :=
    fun c hc sql hsql => defaults sql (List.mem_filterMap.2 ⟨c, hc, hsql⟩)
  refine ⟨ensures_balanced_tokens change defaults ts made, ?_⟩
  rintro t rfl
  dsimp only [tokens] at made
  split at made
  · nomatch made
  · exact Table.ensures_parts defaults ts made

/-- In MySQL, where a backslash escapes in texts. -/
theorem sql_parts_mysql :
    let id : Column := {
      name := "id,(`", type := .decimal 10 2, primaryKey := true,
      default? := some (.raw "coalesce('\\',(', 1)") }
    let note : Column := {
      name := "n'", type := .char 3, nullable? := some false,
      default? := some (.value (.text "it's \\',(")) }
    let key : ForeignKey := {
      name := "f)", columns := ["n'"], table := "t,", tableColumns := ["a("],
      onDelete? := some .cascade }
    let t : Table := {
      name := "shop.o`(,", ifNotExists := true, columns := [id, note],
      primaryKey := ["id,(`", "n'"], foreignKeys := [key] }
    let text := "CREATE TABLE IF NOT EXISTS `shop`.`o``(,` (" ++
      "`id,(``` DECIMAL(10, 2) DEFAULT coalesce('\\',(', 1) PRIMARY KEY, " ++
      "`n'` CHAR(3) NOT NULL DEFAULT 'it\\'s \\\\\\',(', PRIMARY KEY (`id,(```, `n'`), " ++
      "CONSTRAINT `f)` FOREIGN KEY (`n'`) REFERENCES `t,` (`a(`) ON DELETE CASCADE)"
    (∀ sql ∈ (createTable t).rawDefaults, Dialect.IsPart .mysql ',' sql) ∧
    (createTable t).sql .mysql = .ok text ∧
    Dialect.Balanced .mysql text ∧ ∃ head body columns,
      text = head ++ "(" ++ body ++ ")" ∧
      Dialect.parts? .mysql '(' text = some [head, body ++ ")"] ∧
      t.columns.mapM (Column.sql .mysql) = .ok columns ∧
      Dialect.parts? .mysql ',' body = some (Dialect.afterCommas
        (columns ++ t.keySql .mysql ++ t.foreignKeys.map (ForeignKey.sql .mysql))) := by
  intro id note key t text
  have some_text : ((createTable t).sql .mysql).toOption = some text := by decide +kernel
  have written : (createTable t).sql .mysql = .ok text := by
    cases found : (createTable t).sql .mysql with
    | error e => simp [found, Except.toOption] at some_text
    | ok s => simpa [found, Except.toOption] using some_text
  have defaults : ∀ sql ∈ (createTable t).rawDefaults, Dialect.IsPart .mysql ',' sql := by decide
  obtain ⟨balanced, table⟩ := sql_parts defaults written
  exact ⟨defaults, written, balanced, table t rfl⟩

end SchemaChange

end PolySql
