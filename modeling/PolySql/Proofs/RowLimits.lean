import Mathlib.Data.List.DropRight
import PolySql.Proofs.LaidOut
import PolySql.Proofs.Writing

/-!
# Row limits

A row limit stands at the end of a statement and changes nothing before it: `limitSuffix` is what it
adds to the statement without it (`Statement.unlimited`).  The number of rows and the number of rows
that are skipped are read from the end of the text, whatever stands before them
(`Dialect.readLimit?`).

**A row limit only changes the end** (`Statement.compile_limited`).  In T-SQL it always has an
`ORDER BY` of its own right before it, in a statement and in every query that is written in one
(`Statement.Contains`).
-/

namespace PolySql

/-! ### The end of a statement -/

/-- The row limit of T-SQL, where an absent offset is zero. -/
def Limit.fetchText (limit : Limit) : String :=
  " OFFSET " ++ toString (limit.offset?.getD 0).toNat ++
    " ROWS FETCH NEXT " ++ toString limit.count.toNat ++ " ROWS ONLY"

/-- What a row limit adds to a statement with these sort keys. -/
def limitSuffix (d : Dialect) (keys : List SortKey) (limit : Limit) : String :=
  match d with
  | .tsql => (if keys.isEmpty then " ORDER BY (SELECT NULL)" else "") ++ limit.fetchText
  | _ =>
    " LIMIT " ++ toString limit.count.toNat ++
      limit.offset?.elim "" fun offset => " OFFSET " ++ toString offset.toNat

theorem limitText_tsql (limit : Limit) : limitText .tsql (some limit) = limit.fetchText := by
  rw [← String.toList_inj]
  simp [limitText, Dialect.pagination, Token.words, Token.render, Token.text, Limit.fetchText]

/-- The keys are written the same with a limit and without; only where there are none may a limit
put something in their place. -/
theorem orderText_limitText (d : Dialect) (keys : List SortKey) (limit : Limit) :
    orderText d keys true ++ limitText d (some limit) =
      orderText d keys false ++ limitSuffix d keys limit := by
  cases d with
  | tsql =>
    rw [limitText_tsql]
    by_cases none : keys.isEmpty
    · simp [orderText, limitSuffix, none, Dialect.limitNeedsOrder]
    · simp [orderText, limitSuffix, none]
  | _ =>
    rw [← String.toList_inj]
    obtain ⟨count, _ | offset⟩ := limit <;>
      simp [orderText, Dialect.limitNeedsOrder, limitSuffix, limitText, Dialect.pagination,
        Token.words, Token.render, Token.text]

namespace Clauses

variable {σ τ : Type}

/-- The clauses without the row limit. -/
def unlimited (c : Clauses σ) : Clauses σ := { c with limit? := none }

/-- The clauses without sort keys and row limit. -/
def core (c : Clauses σ) : Clauses σ := { c with orders := [], limit? := none }

/-- The statement is of a kind that ends in sort keys and a row limit. -/
def HasEnd (c : Clauses σ) : Prop := c.body.kind ∈ [.select, .update, .delete]

theorem HasEnd.map {c : Clauses σ} (h : c.HasEnd) (f : σ → τ) : (c.map f).HasEnd := by
  obtain ⟨body, _, _, _, _, _, _⟩ := c
  cases body <;> exact h

/-- What stands before the sort keys is written without regard to them and to the limit. -/
theorem write_eq_core {c : Clauses (Writing String)} (h : c.HasEnd) (d : Dialect) :
    c.write d = (return (← c.core.write d) ++
      (orderText d c.orders c.limit?.isSome ++ limitText d c.limit?)) := by
  have none : orderText d [] false ++ limitText d none = "" := by
    cases d <;> rfl
  obtain ⟨body, _, _, _, _, _, _⟩ := c
  cases body with
  | raw _ | insert _ _ _ => simp [HasEnd, Body.kind] at h
  | select _ _ _ | update _ _ _ | delete _ _ =>
    simp only [write, core, Option.isSome_none, none, String.append_empty, bind_assoc, pure_bind]

end Clauses

/-! ### Statements and their ends -/

namespace Statement

/-- The statement without its row limit. -/
def unlimited (s : Statement) : Statement := of s.clauses.unlimited

/-- The statement without its sort keys and row limit. -/
def core (s : Statement) : Statement := of s.clauses.core

/-- The sort keys and the row limit are put at the end of what is compiled without them. -/
theorem compile_eq_core {s : Statement} (h : s.clauses.HasEnd) (d : Dialect) (b : Binder) :
    s.compile d b = (s.core.compile d b).map fun (text, b') =>
      (text ++ (orderText d s.clauses.orders s.clauses.limit?.isSome ++
        limitText d s.clauses.limit?), b') := by
  obtain ⟨c⟩ := s
  have ends : (c.map (write d)).HasEnd := h.map (write d)
  have same : (c.map (write d)).core = c.core.map (write d) := rfl
  simp only [compile, core, write_of, clauses]
  rw [Clauses.write_eq_core ends, same, Writing.result_bind]
  cases (Clauses.write d (c.core.map (write d))).result b with
  | error e => rfl
  | ok p => rfl

/-- A limit puts its suffix at the end and leaves the rest, the binder and every error as it is. -/
theorem compile_eq_unlimited {s : Statement} {limit : Limit} (h : s.clauses.HasEnd)
    (limited : s.clauses.limit? = some limit) (d : Dialect) (b : Binder) :
    s.compile d b = (s.unlimited.compile d b).map fun (text, b') =>
      (text ++ limitSuffix d s.clauses.orders limit, b') := by
  have ends : s.unlimited.clauses.HasEnd := h
  have orders : s.unlimited.clauses.orders = s.clauses.orders := rfl
  have none : s.unlimited.clauses.limit? = none := rfl
  have same : s.unlimited.core = s.core := rfl
  have nothing : limitText d Option.none = "" := rfl
  rw [compile_eq_core h, compile_eq_core ends, orders, none, same, limited, nothing]
  cases s.core.compile d b with
  | error e => rfl
  | ok p =>
    simp only [Except.map, Option.isSome_some, Option.isSome_none, String.append_empty,
      orderText_limitText, String.append_assoc]

/-! ### In T-SQL -/

/-- What `ORDER BY` stands before in T-SQL: the keys, or a selection of nothing. -/
def keysText (keys : List SortKey) : String :=
  if keys.isEmpty then "(SELECT NULL)" else ", ".intercalate (keys.map (·.text .tsql))

theorem compile_tsql {s : Statement} {limit : Limit} (h : s.clauses.HasEnd)
    (limited : s.clauses.limit? = some limit) (b : Binder) :
    s.compile .tsql b = (s.core.compile .tsql b).map fun (text, b') =>
      (text ++ (" ORDER BY " ++ keysText s.clauses.orders ++ limit.fetchText), b') := by
  have order : orderText .tsql s.clauses.orders true =
      " ORDER BY " ++ keysText s.clauses.orders := by
    unfold orderText keysText
    split <;> rfl
  rw [compile_eq_core h, limited, Option.isSome_some, order, limitText_tsql]

/-! ### Queries in statements -/

/-- The query is the statement, or it is written somewhere in it. -/
inductive Contains : Statement → Statement → Prop where
  | self (s : Statement) : Contains s s
  | enclosed {s r q : Statement} (h : r ∈ s.clauses.enclosed) (h' : Contains r q) : Contains s q
  /-- The query that gives the rows of an insertion is not in parentheses. -/
  | rows {s r q : Statement} {table : String} {names : List String} {options : Options}
    (h : s.clauses.body = .insert table (.query names r) options) (h' : Contains r q) :
    Contains s q

end Statement

/-- What is laid out has the templates of its queries in it. -/
theorem Laid.exists_eq_append {σ : Type} {d : Dialect} {W : Wording → Prop}
    {Q : σ → Template → Prop} {a b : Spot} {t : Template} {qs : List σ} (h : Laid d W Q a t b qs)
    {q : σ} (hq : q ∈ qs) : ∃ before u after, Q q u ∧ t = before ++ u ++ after := by
  induction h with
  | enclosed n h =>
    obtain rfl := List.mem_singleton.1 hq
    exact ⟨_, _, _, h, rfl⟩
  | @append _ _ _ t u _ _ _ _ ih ih' =>
    rcases List.mem_append.1 hq with hq | hq
    · obtain ⟨before, v, after, hv, rfl⟩ := ih hq
      exact ⟨before, v, after ++ u, hv, by simp only [List.append_assoc]⟩
    · obtain ⟨before, v, after, hv, rfl⟩ := ih' hq
      exact ⟨t ++ before, v, after, hv, by simp only [List.append_assoc]⟩
  | enter _ ih | leave _ ih => exact ih hq
  | subset _ sub ih => exact ih (sub hq)
  | _ => nomatch hq

namespace Statement

variable {s q : Statement} {d : Dialect}

theorem Contains.template (h : s.Contains q) {t : Template} (ht : s.template d = .ok t) :
    ∃ before u after, q.template d = .ok u ∧ t = before ++ u ++ after := by
  -- A template is laid out whatever is asked of its wordings, so nothing is.
  have blank (c : Clauses Statement) : ∀ w ∈ (c.map fun _ => ([] : List Wording)).wordings, True :=
    fun _ _ => trivial
  induction h generalizing t with
  | self s => exact ⟨[], t, [], ht, by simp⟩
  | @enclosed s r q h h' ih =>
    obtain ⟨c⟩ := s
    rw [template_of] at ht
    have laid := Clauses.laid_template (W := fun _ => True) c (blank c) t ht 0
    obtain ⟨before, u, after, renders, rfl⟩ := laid.exists_eq_append h
    obtain ⟨before', v, after', hv, rfl⟩ := ih renders.1
    exact ⟨before ++ before', v, after' ++ after, hv, by simp only [List.append_assoc]⟩
  | @rows s r q table names options h h' ih =>
    obtain ⟨c⟩ := s
    rw [template_of] at ht
    obtain ⟨lead, u, rfl, renders, -⟩ :=
      Clauses.query_template (W := fun _ => True) h (blank c) t ht
    obtain ⟨before, v, after, hv, rfl⟩ := ih renders.1
    exact ⟨lead ++ before, v, after, hv, by simp only [List.append_assoc]⟩

/-- A query in a statement is compiled as it would be by itself, with some binder. -/
theorem Contains.compile (h : s.Contains q) {b b' : Binder} {text : String}
    (compiled : s.compile d b = .ok (text, b')) :
    ∃ before inner after b₁ b₂, q.compile d b₁ = .ok (inner, b₂) ∧
      text = before ++ inner ++ after := by
  rw [compile_eq] at compiled
  cases ht : s.template d with
  | error e => simp [ht, Except.map] at compiled
  | ok t =>
    obtain ⟨before, u, after, hu, rfl⟩ := h.template ht
    have filled : (Template.fill b (before ++ u ++ after)).1 = text := by
      simpa [ht, Except.map] using congrArg (Except.map Prod.fst) compiled
    have written := filled.symm
    rw [Template.fill_append, Template.fill_append] at written
    exact ⟨_, _, _, (Template.fill b before).2, _, by rw [compile_eq, hu]; rfl, written⟩

end Statement

/-! ### Reading the limit back -/

/-- The text before `word`, which ends it. -/
def before? (word : String) (cs : List Char) : Option (List Char) := word.toList.isSuffixOf? cs

/-- The text before the number that ends it, and the number. -/
def endNumber (cs : List Char) : List Char × UInt64 :=
  (cs.rdropWhile Char.isDigit, .ofNat (Nat.ofDigitChars 10 (cs.rtakeWhile Char.isDigit) 0))

/-- The row limit at the end of a text. -/
def Dialect.readLimit? (d : Dialect) (text : String) : Option Limit :=
  match d with
  | tsql => do
    let (rest, count) := endNumber (← before? " ROWS ONLY" text.toList)
    let (rest, offset) := endNumber (← before? " ROWS FETCH NEXT " rest)
    let _ ← before? " OFFSET " rest
    return ⟨count, some offset⟩
  | _ =>
    let (rest, last) := endNumber text.toList
    match before? " OFFSET " rest with
    | some rest => do
      let (rest, count) := endNumber rest
      let _ ← before? " LIMIT " rest
      return ⟨count, some last⟩
    | none => do
      let _ ← before? " LIMIT " rest
      return ⟨last, none⟩

/-- The limit as it is written: T-SQL writes an absent offset as zero. -/
def Limit.writtenIn (d : Dialect) (limit : Limit) : Limit :=
  if d = .tsql then { limit with offset? := some (limit.offset?.getD 0) } else limit

theorem before?_append (word : String) (cs : List Char) :
    before? word (cs ++ word.toList) = some cs :=
  List.isSuffixOf?_eq_some_iff_append_eq.2 rfl

/-- Two words that end in different characters. -/
theorem before?_offset_limit (cs : List Char) :
    before? " OFFSET " (cs ++ " LIMIT ".toList) = none := by
  simp only [before?, List.isSuffixOf?, List.reverse_append]
  rfl

/-- A number is read up to the space before it. -/
theorem endNumber_append (word : String) (space : word.toList.reverse.head? = some ' ')
    (cs : List Char) (n : UInt64) :
    endNumber (cs ++ word.toList ++ (toString n.toNat).toList) = (cs ++ word.toList, n) := by
  have text : (toString n.toNat).toList = Nat.toDigits 10 n.toNat := Nat.toList_repr
  have digits : ∀ c ∈ (Nat.toDigits 10 n.toNat).reverse, c.isDigit = true := fun c hc =>
    Nat.isDigit_of_mem_toDigits (by decide) (by decide) (List.mem_reverse.1 hc)
  obtain ⟨rest, back⟩ := List.head?_eq_some_iff.1 space
  have front : (cs ++ word.toList).reverse = ' ' :: (rest ++ cs.reverse) := by
    rw [List.reverse_append, back, List.cons_append]
  have dropped : (cs ++ word.toList).reverse.dropWhile Char.isDigit =
      (cs ++ word.toList).reverse := by
    rw [front]
    rfl
  have taken : (cs ++ word.toList).reverse.takeWhile Char.isDigit = [] := by
    rw [front]
    rfl
  rw [endNumber, List.rdropWhile, List.rtakeWhile, text, List.reverse_append,
    List.dropWhile_append_of_pos digits, List.takeWhile_append_of_pos digits, dropped, taken,
    List.append_nil, List.reverse_reverse, List.reverse_reverse,
    Nat.ofDigitChars_toDigits (by decide) (by decide), UInt64.ofNat_toNat]

/-- **The row limit is read back from the end**, whatever stands before it. -/
theorem readLimit?_append_limitSuffix (d : Dialect) (keys : List SortKey) (limit : Limit)
    (before : String) :
    d.readLimit? (before ++ limitSuffix d keys limit) = some (limit.writtenIn d) := by
  obtain ⟨count, offset?⟩ := limit
  cases d with
  | tsql =>
    obtain ⟨lead, whole⟩ : ∃ lead : String, before ++ limitSuffix .tsql keys ⟨count, offset?⟩ =
        lead ++ Limit.fetchText ⟨count, offset?⟩ := ⟨_, (String.append_assoc ..).symm⟩
    rw [whole]
    simp only [Dialect.readLimit?, Limit.fetchText, String.toList_append, ← List.append_assoc,
      before?_append, endNumber_append " ROWS FETCH NEXT " rfl, endNumber_append " OFFSET " rfl,
      Option.bind_eq_bind, Option.bind_some]
    rfl
  | _ =>
    cases offset? with
    | none =>
      simp only [Dialect.readLimit?, limitSuffix, Option.elim_none, String.toList_append,
        String.append_empty, ← List.append_assoc, endNumber_append " LIMIT " rfl,
        before?_offset_limit, before?_append, Option.bind_eq_bind, Option.bind_some]
      rfl
    | some offset =>
      simp only [Dialect.readLimit?, limitSuffix, Option.elim_some, String.toList_append,
        ← List.append_assoc, endNumber_append " OFFSET " rfl, endNumber_append " LIMIT " rfl,
        before?_append, Option.bind_eq_bind, Option.bind_some]
      rfl

namespace Statement

/-- **A row limit only changes the end of a statement.**  With any binder there is the same error as
without the limit, or the same binder afterwards and the text with `limitSuffix` at its end, where
the limit is read back whatever stands before it.  In T-SQL an `ORDER BY` stands right before the
limit wherever the statement is written, and before that all its other clauses. -/
theorem compile_limited {s : Statement} {limit : Limit}
    (kind : s.kind ∈ [.select, .update, .delete]) (limited : s.clauses.limit? = some limit)
    (d : Dialect) :
    (∀ b, s.compile d b = (s.unlimited.compile d b).map fun (text, b') =>
      (text ++ limitSuffix d s.clauses.orders limit, b')) ∧
    (∀ before, d.readLimit? (before ++ limitSuffix d s.clauses.orders limit) =
      some (limit.writtenIn d)) ∧
    (d = .tsql → ∀ r : Statement, r.Contains s → ∀ b text b', r.compile d b = .ok (text, b') →
      ∃ before body after b₁ b₂, s.core.compile d b₁ = .ok (body, b₂) ∧
        text = before ++ (body ++ (" ORDER BY " ++ keysText s.clauses.orders ++ limit.fetchText)) ++
          after) := by
  refine ⟨compile_eq_unlimited kind limited d, readLimit?_append_limitSuffix d _ limit, ?_⟩
  rintro rfl r contains b text b' compiled
  obtain ⟨before, inner, after, b₁, b₂, own, written⟩ := contains.compile compiled
  rw [compile_tsql kind limited] at own
  cases body : s.core.compile .tsql b₁ with
  | error e => simp [body, Except.map] at own
  | ok p =>
    obtain ⟨rfl, -⟩ := Prod.mk.inj (Except.ok.inj (body ▸ own))
    exact ⟨before, p.1, after, b₁, p.2, body, written⟩

/-- The largest count, in a query of a query that gives the rows of an insertion. -/
theorem compile_limited_rows :
    let limit : Limit := ⟨.ofNat 18446744073709551615, none⟩
    let q : Statement := of { Clauses.ofBody (.select [.plain (.name "t")] [] .none) with
      filters := [⟨.compare "=" "c" [.value (.int 1)], .and⟩], limit? := some limit }
    let r := start (.insert "u" (.query [] (start (.select [⟨.query q, some "x"⟩] [] .none))) .none)
    let b := Binder.fresh .named '@'
    let body := "SELECT * FROM [t] WHERE ([c] = @p1)"
    let fetch := " OFFSET 0 ROWS FETCH NEXT 18446744073709551615 ROWS ONLY"
    let text := "INSERT INTO [u] SELECT * FROM (" ++ body ++ " ORDER BY (SELECT NULL)" ++ fetch ++
      ") AS [x]"
    q.kind ∈ [.select, .update, .delete] ∧ q.clauses.limit? = some limit ∧
      q.compile .tsql b =
        .ok (body ++ (" ORDER BY (SELECT NULL)" ++ fetch), (b.bind (.int 1)).2) ∧
      Dialect.readLimit? .tsql ("" ++ (" ORDER BY (SELECT NULL)" ++ fetch)) =
        some ⟨.ofNat 18446744073709551615, some 0⟩ ∧
      r.compile .tsql b = .ok (text, (b.bind (.int 1)).2) ∧
      ∃ before body after b₁ b₂, q.core.compile .tsql b₁ = .ok (body, b₂) ∧
        text = before ++ (body ++ (" ORDER BY " ++ "(SELECT NULL)" ++ fetch)) ++ after := by
  intro limit q r b body fetch text
  have kind : q.kind ∈ [.select, .update, .delete] := by decide
  have limited : q.clauses.limit? = some limit := rfl
  have plain : q.unlimited.compile .tsql b = .ok (body, (b.bind (.int 1)).2) := by rfl
  have compiled : r.compile .tsql b = .ok (text, (b.bind (.int 1)).2) := by decide +kernel
  have fetched : limit.fetchText = fetch := by decide +kernel
  have suffix : limitSuffix .tsql q.clauses.orders limit = " ORDER BY (SELECT NULL)" ++ fetch :=
    congrArg (" ORDER BY (SELECT NULL)" ++ ·) fetched
  have keys : keysText q.clauses.orders = "(SELECT NULL)" := rfl
  have contains : r.Contains q := .rows rfl (.enclosed (List.mem_singleton.2 rfl) (.self q))
  obtain ⟨appended, read, nested⟩ := compile_limited kind limited .tsql
  have inside := nested rfl r contains b text _ compiled
  rw [suffix] at appended read
  rw [keys, fetched] at inside
  refine ⟨kind, limited, ?_, read "", compiled, inside⟩
  rw [appended, plain]
  rfl

end Statement

end PolySql
