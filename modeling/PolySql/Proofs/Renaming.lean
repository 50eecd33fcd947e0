import PolySql.Proofs.Entries
import PolySql.Proofs.QuotedNames

/-!
# Telling renamings apart

The text of a renaming is read from left to right: each name in it ends where its quotes end, so the
texts of two renamings are the same only if the names in them are (`Dialect.quoteNameChars_inj`,
`Dialect.around_inj`, `Dialect.literalChars_inj`).

T-SQL names a column by one literal, the path `table.column`, and a dot in it may be the one between
the two names or one of their own.  **A renaming of a column is the only one with its text in every
dialect but T-SQL** (`SchemaChange.renames_told_apart`).  In T-SQL it is the only one whose column
has as many dots: the path and the number of dots after the table tell where the table ends.
-/

namespace PolySql

/-! ### Where names end -/

namespace Dialect

variable {d : Dialect} {s t r r' : List Char}

/-- What is read of a text is one thing, and so is what stands after it. -/
theorem eq_of_read {α : Type} {read? : List Char → Option (α × List Char)} {a b : α}
    {cs cs' : List Char} (h : read? cs = some (a, r)) (h' : read? cs' = some (b, r'))
    (same : cs = cs') : a = b ∧ r = r' := by
  rw [same, h'] at h
  obtain ⟨rfl, rfl⟩ := Prod.mk.inj (Option.some.inj h)
  exact ⟨rfl, rfl⟩

theorem space_ne_closing : ' ' ≠ d.quotes.closing := by cases d <;> decide

theorem dot_ne_closing : '.' ≠ d.quotes.closing := by cases d <;> decide

/-- Before anything but a closing mark, no quoted name is the beginning of another. -/
theorem around_inj (hr : r.head? ≠ some d.quotes.closing) (hr' : r'.head? ≠ some d.quotes.closing)
    (same : d.quotes.around s ++ r = d.quotes.around t ++ r') : s = t ∧ r = r' :=
  eq_of_read (QuotePair.read?_around s hr) (QuotePair.read?_around t hr') same

theorem quoteSegment_inj (hr : r.head? ≠ some d.quotes.closing)
    (hr' : r'.head? ≠ some d.quotes.closing)
    (same : d.quoteSegment s ++ r = d.quoteSegment t ++ r') : s = t ∧ r = r' :=
  (eq_of_read (readSegment?_quoteSegment s r hr) (readSegment?_quoteSegment t r' hr') same).imp_left
    fun segment => NamePart.ofSegment_injective segment

/-- Segments after the first, each after its dot, and a space. -/
def followingSegments (d : Dialect) (segments : List (List Char)) (r : List Char) : List Char :=
  segments.flatMap ('.' :: d.quoteSegment ·) ++ ' ' :: r

theorem head?_followingSegments (segments : List (List Char)) (r : List Char) :
    (d.followingSegments segments r).head? ≠ some d.quotes.closing := by
  cases segments with
  | nil => simpa [followingSegments] using space_ne_closing
  | cons segment segments => simpa [followingSegments] using dot_ne_closing

theorem followingSegments_cons (segment : List Char) (segments : List (List Char)) (r : List Char) :
    d.followingSegments (segment :: segments) r =
      '.' :: (d.quoteSegment segment ++ d.followingSegments segments r) := by
  simp [followingSegments]

theorem followingSegments_inj {ss ts : List (List Char)}
    (same : d.followingSegments ss r = d.followingSegments ts r') : ss = ts ∧ r = r' := by
  induction ss generalizing ts with
  | nil =>
    cases ts with
    | nil => simpa [followingSegments] using same
    | cons t ts => simp [followingSegments] at same
  | cons s ss ih =>
    cases ts with
    | nil => simp [followingSegments] at same
    | cons t ts =>
      rw [followingSegments_cons, followingSegments_cons] at same
      obtain ⟨rfl, rest⟩ := quoteSegment_inj (head?_followingSegments ss r)
        (head?_followingSegments ts r') (List.cons.inj same).2
      obtain ⟨rfl, rfl⟩ := ih rest
      exact ⟨rfl, rfl⟩

theorem quoteSegments_append_space (segment : List Char) (segments : List (List Char))
    (r : List Char) :
    ['.'].intercalate ((segment :: segments).map d.quoteSegment) ++ ' ' :: r =
      d.quoteSegment segment ++ d.followingSegments segments r := by
  induction segments generalizing segment with
  | nil => simp [followingSegments]
  | cons segment' segments ih =>
    rw [List.map_cons, List.map_cons, List.intercalate_cons_cons, ← List.map_cons,
      List.append_assoc, List.append_assoc, ih, followingSegments_cons, List.singleton_append]

/-- Before a space, no dotted name is the beginning of another. -/
theorem quoteNameChars_inj
    (same : d.quoteNameChars s ++ ' ' :: r = d.quoteNameChars t ++ ' ' :: r') :
    s = t ∧ r = r' := by
  obtain ⟨a, as, hs⟩ := List.exists_cons_of_ne_nil (List.splitOn_ne_nil '.' s)
  obtain ⟨b, bs, ht⟩ := List.exists_cons_of_ne_nil (List.splitOn_ne_nil '.' t)
  rw [quoteNameChars, quoteNameChars, hs, ht, quoteSegments_append_space,
    quoteSegments_append_space] at same
  obtain ⟨rfl, following⟩ := quoteSegment_inj (head?_followingSegments as r)
    (head?_followingSegments bs r') same
  obtain ⟨rfl, rfl⟩ := followingSegments_inj following
  -- A name is its segments with dots between them.
  have joined := congrArg ['.'].intercalate (hs.trans ht.symm)
  rw [List.intercalate_splitOn, List.intercalate_splitOn] at joined
  exact ⟨joined, rfl⟩

/-- Before anything but a quote, no literal is the beginning of another. -/
theorem literalChars_inj (hr : r.head? ≠ some '\'') (hr' : r'.head? ≠ some '\'')
    (same : d.literalChars s ++ r = d.literalChars t ++ r') : s = t ∧ r = r' :=
  eq_of_read (readLiteral?_literalChars s hr) (readLiteral?_literalChars t hr') same

section Text

variable {name name' rest rest' : String}

theorem quoteIdentifier_inj
    (same : d.quoteIdentifier name ++ " " ++ rest = d.quoteIdentifier name' ++ " " ++ rest') :
    name = name' ∧ rest = rest' := by
  have space : ∀ cs, (' ' :: cs).head? ≠ some d.quotes.closing := fun cs => by
    simpa using space_ne_closing
  have chars := congrArg String.toList same
  obtain ⟨hname, hrest⟩ := around_inj (space _) (space _) (by simpa using chars)
  exact ⟨String.toList_inj.1 hname, String.toList_inj.1 (List.cons.inj hrest).2⟩

theorem quoteName_inj (same : d.quoteName name ++ " " ++ rest = d.quoteName name' ++ " " ++ rest') :
    name = name' ∧ rest = rest' := by
  have chars := congrArg String.toList same
  obtain ⟨hname, hrest⟩ := quoteNameChars_inj (by simpa using chars)
  exact ⟨String.toList_inj.1 hname, String.toList_inj.1 hrest⟩

theorem literal_inj (same : d.literal name ++ "," ++ rest = d.literal name' ++ "," ++ rest') :
    name = name' ∧ rest = rest' := by
  have comma : ∀ cs, (',' :: cs).head? ≠ some '\'' := fun cs => by simp
  have chars := congrArg String.toList same
  obtain ⟨hname, hrest⟩ := literalChars_inj (comma _) (comma _) (by simpa using chars)
  exact ⟨String.toList_inj.1 hname, String.toList_inj.1 (List.cons.inj hrest).2⟩

theorem quoteIdentifier_injective : Function.Injective d.quoteIdentifier := by
  intro s t same
  have padded : d.quoteIdentifier s ++ " " ++ "" = d.quoteIdentifier t ++ " " ++ "" := by rw [same]
  exact (quoteIdentifier_inj padded).1

theorem quoteName_injective : Function.Injective d.quoteName := by
  intro s t same
  have padded : d.quoteName s ++ " " ++ "" = d.quoteName t ++ " " ++ "" := by rw [same]
  exact (quoteName_inj padded).1

theorem literal_injective : Function.Injective d.literal := by
  intro s t same
  have padded : d.literal s ++ "," ++ "" = d.literal t ++ "," ++ "" := by rw [same]
  exact (literal_inj padded).1

end Text

end Dialect

/-! ### Paths -/

/-- How many dots the name has. -/
def dots (name : String) : Nat := name.toList.count '.'

/-- A name that is longer by a dot has more dots. -/
theorem dots_ne {c c' : String} {e : Char} {more : List Char}
    (rest : '.' :: c.toList = (e :: more) ++ '.' :: c'.toList) : dots c' ≠ dots c := by
  have longer : c.toList = more ++ '.' :: c'.toList := (List.cons.inj rest).2
  rw [dots, dots, longer, List.count_append, List.count_cons_self]
  omega

/-- Of two paths that are the same, the names after the table have as many dots only if the tables
end at the same place. -/
theorem path_inj {t c t' c' : String} (path : t ++ "." ++ c = t' ++ "." ++ c')
    (same : dots c = dots c') : t = t' ∧ c = c' := by
  have chars : t.toList ++ '.' :: c.toList = t'.toList ++ '.' :: c'.toList := by
    simpa using congrArg String.toList path
  rcases List.append_eq_append_iff.1 chars with ⟨more, ht, hc⟩ | ⟨more, ht, hc⟩
  · cases more with
    | nil => simpa [← String.toList_inj, eq_comm] using And.intro ht hc
    | cons e more => exact (absurd same.symm (dots_ne hc))
  · cases more with
    | nil => simpa [← String.toList_inj, eq_comm] using And.intro ht hc
    | cons e more => exact (absurd same (dots_ne hc))

/-! ### Texts of renamings -/

namespace SchemaChange

variable {d : Dialect} {t c n t' c' n' : String}

theorem renameColumn_sql (other : d ≠ .tsql) (t c n : String) :
    (renameColumn t c n).sql d = .ok ("ALTER TABLE " ++ (d.quoteName t ++ " " ++
      ("RENAME COLUMN " ++ (d.quoteIdentifier c ++ " " ++ ("TO " ++ d.quoteIdentifier n))))) := by
  have shared : renameColumnTokens d t c n =
      alterTable t (Token.words [.rename, .column, .identifier c, .«to», .identifier n]) := by
    cases d <;> first | rfl | exact absurd rfl other
  simp [sql, tokens, shared, alterTable, spaced, Token.words, Token.text, Except.map,
    ← String.toList_inj]

theorem renameColumn_sql_tsql (t c n : String) :
    (renameColumn t c n).sql .tsql = .ok ("EXEC sp_rename " ++
      (Dialect.tsql.literal (t ++ "." ++ c) ++ "," ++ (" " ++
        (Dialect.tsql.literal n ++ "," ++ " 'COLUMN'")))) := by
  simp [sql, tokens, renameColumnTokens, renameObject, Token.words, Token.text, Except.map,
    ← String.toList_inj]

/-- The words before a renamed table and between its names are always the same. -/
theorem renameTable_sql (other : d ≠ .tsql) : ∃ before between : String, ∀ t n,
    (renameTable t n).sql d =
      .ok (before ++ (d.quoteName t ++ " " ++ (between ++ d.quoteName n))) := by
  by_cases engine : d = .mysql
  · subst engine
    refine ⟨"RENAME TABLE ", "TO ", fun t n => ?_⟩
    simp [sql, tokens, renameTableTokens, Token.words, Token.text, Except.map, ← String.toList_inj]
  · refine ⟨"ALTER TABLE ", "RENAME TO ", fun t n => ?_⟩
    have shared : renameTableTokens d t n =
        alterTable t (Token.words [.rename, .«to», .name n]) := by
      cases d <;> first | rfl | exact absurd rfl other | exact absurd rfl engine
    simp [sql, tokens, shared, alterTable, spaced, Token.words, Token.text, Except.map,
      ← String.toList_inj]

theorem renameTable_sql_tsql (t n : String) :
    (renameTable t n).sql .tsql =
      .ok ("EXEC sp_rename " ++ (Dialect.tsql.literal t ++ "," ++ (" " ++
        Dialect.tsql.literal n))) := by
  simp [sql, tokens, renameTableTokens, renameObject, Token.words, Token.text, Except.map,
    ← String.toList_inj]

/-! ### Renamings with one text -/

/-- Where a column is renamed by its name, the text tells all three names. -/
theorem eq_of_renameColumn_sql (other : d ≠ .tsql)
    (same : (renameColumn t c n).sql d = (renameColumn t' c' n').sql d) :
    t = t' ∧ c = c' ∧ n = n' := by
  rw [renameColumn_sql other, renameColumn_sql other, Except.ok.injEq, String.append_right_inj]
    at same
  obtain ⟨table, rest⟩ := Dialect.quoteName_inj same
  obtain ⟨column, rest⟩ := Dialect.quoteIdentifier_inj ((String.append_right_inj _).1 rest)
  exact ⟨table, column, Dialect.quoteIdentifier_injective ((String.append_right_inj _).1 rest)⟩

/-- In T-SQL the text tells the path and the new name. -/
theorem eq_of_renameColumn_sql_tsql
    (same : (renameColumn t c n).sql .tsql = (renameColumn t' c' n').sql .tsql) :
    t ++ "." ++ c = t' ++ "." ++ c' ∧ n = n' := by
  rw [renameColumn_sql_tsql, renameColumn_sql_tsql, Except.ok.injEq, String.append_right_inj]
    at same
  obtain ⟨path, rest⟩ := Dialect.literal_inj same
  exact ⟨path, (Dialect.literal_inj ((String.append_right_inj _).1 rest)).1⟩

theorem eq_of_renameTable_sql (same : (renameTable t n).sql d = (renameTable t' n').sql d) :
    t = t' ∧ n = n' := by
  by_cases engine : d = .tsql
  · subst engine
    rw [renameTable_sql_tsql, renameTable_sql_tsql, Except.ok.injEq, String.append_right_inj]
      at same
    obtain ⟨table, rest⟩ := Dialect.literal_inj same
    exact ⟨table, Dialect.literal_injective ((String.append_right_inj _).1 rest)⟩
  · obtain ⟨before, between, written⟩ := renameTable_sql engine
    rw [written, written, Except.ok.injEq, String.append_right_inj] at same
    obtain ⟨table, rest⟩ := Dialect.quoteName_inj same
    exact ⟨table, Dialect.quoteName_injective ((String.append_right_inj _).1 rest)⟩

/-- **Renamings are told apart by their texts.**  In every dialect but T-SQL the text of a column's
renaming tells the table, the column and the new name; in T-SQL it tells the path and the new name,
and so all three names among renamings whose columns have as many dots.  The renaming of a table is
told apart in every dialect. -/
theorem renames_told_apart (d : Dialect) :
    (Function.Injective
        (fun (table, column, newName) => (renameColumn table column newName).sql d) ↔ d ≠ .tsql) ∧
    (∀ t c n t' c' n' : String, (renameColumn t c n).sql d = (renameColumn t' c' n').sql d ↔
      n = n' ∧ (t = t' ∧ c = c' ∨ d = .tsql ∧ t ++ "." ++ c = t' ++ "." ++ c')) ∧
    (∀ t c n t' c' n' : String,
      (renameColumn t c n).sql d = (renameColumn t' c' n').sql d ∧ dots c = dots c' ↔
        t = t' ∧ c = c' ∧ n = n') ∧
    Function.Injective (fun (table, newName) => (renameTable table newName).sql d) := by
  have told (t c n t' c' n' : String) :
      (renameColumn t c n).sql d = (renameColumn t' c' n').sql d ↔
        n = n' ∧ (t = t' ∧ c = c' ∨ d = .tsql ∧ t ++ "." ++ c = t' ++ "." ++ c') := by
    constructor
    · intro same
      by_cases engine : d = .tsql
      · subst engine
        obtain ⟨path, rfl⟩ := eq_of_renameColumn_sql_tsql same
        exact ⟨rfl, .inr ⟨rfl, path⟩⟩
      · obtain ⟨rfl, rfl, rfl⟩ := eq_of_renameColumn_sql engine same
        exact ⟨rfl, .inl ⟨rfl, rfl⟩⟩
    · rintro ⟨rfl, ⟨rfl, rfl⟩ | ⟨rfl, path⟩⟩
      · rfl
      · rw [renameColumn_sql_tsql, renameColumn_sql_tsql, path]
  refine ⟨⟨?_, ?_⟩, told, ?_, ?_⟩
  · rintro injective rfl
    have same := (told "a" "b.c" "d" "a.b" "c" "d").2 ⟨rfl, .inr ⟨rfl, rfl⟩⟩
    have names := @injective ("a", "b.c", "d") ("a.b", "c", "d") same
    exact absurd names (by decide)
  · rintro other ⟨t, c, n⟩ ⟨t', c', n'⟩ same
    obtain ⟨rfl, rfl, rfl⟩ := eq_of_renameColumn_sql other same
    rfl
  · intro t c n t' c' n'
    constructor
    · rintro ⟨same, count⟩
      obtain ⟨rfl, ⟨rfl, rfl⟩ | ⟨-, path⟩⟩ := (told ..).1 same
      · exact ⟨rfl, rfl, rfl⟩
      · obtain ⟨rfl, rfl⟩ := path_inj path count
        exact ⟨rfl, rfl, rfl⟩
    · rintro ⟨rfl, rfl, rfl⟩
      exact ⟨rfl, rfl⟩
  · rintro ⟨t, n⟩ ⟨t', n'⟩ same
    obtain ⟨rfl, rfl⟩ := eq_of_renameTable_sql same
    rfl

/-- In T-SQL the column `b.c` of the table `a` is renamed like the column `c` of the table `a.b`. -/
theorem renameColumn_sql_of_one_path :
    (renameColumn "a" "b.c" "d").sql .tsql = .ok "EXEC sp_rename 'a.b.c', 'd', 'COLUMN'" ∧
      (renameColumn "a.b" "c" "d").sql .tsql = .ok "EXEC sp_rename 'a.b.c', 'd', 'COLUMN'" ∧
      ("a", "b.c") ≠ ("a.b", "c") :=
  ⟨rfl, rfl, by decide⟩

end SchemaChange

end PolySql
