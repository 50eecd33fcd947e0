import PolySql.Proofs.EmptyGroups
import PolySql.Proofs.Induction

/-!
# Signs and words

`&&` and `||` are the signs that MySQL has for `AND` and `OR`.  A statement is put into words
(`Statement.inWords`) if the word takes the place of each sign: in the groups of its conditions,
between its filters, and in its subqueries, at any depth.

**Outside MySQL signs and words are the same** (`Statement.compile_inWords`): a statement and the
one in words compile to the same result, with any binder.

Whether a dialect has a keyword, which one it is and where parentheses are needed is the same for a
sign and its word, so the clauses that hold conjunctions are compared one by one.
-/

namespace PolySql

/-! ### One conjunction -/

namespace Conjunction

/-- The word for a sign. -/
def word : Conjunction → Conjunction
  | and | andSign => and
  | or | orSign => or
  | xor => xor

theorem isAndLike_word (c : Conjunction) : c.word.isAndLike = c.isAndLike := by
  cases c <;> rfl

/-- Parentheses are needed around a word where they are around the sign. -/
theorem needsParens_word (parent child : Conjunction) :
    parent.word.needsParens child.word = parent.needsParens child := by
  simp only [needsParens, isOrLike, isAndLike_word]

end Conjunction

theorem Dialect.keyword_word {d : Dialect} (h : d ≠ mysql) (c : Conjunction) :
    d.keyword c.word = d.keyword c := by
  simp only [keyword, if_neg h]
  cases c <;> rfl

/-! ### Clauses in words -/

namespace Condition

variable {σ τ : Type}

mutual

/-- The condition with words for its signs. -/
def inWords : Condition σ → Condition σ
  | compare operator column operands => compare operator column operands
  | equal column operand => equal column operand
  | raw sql => raw sql
  | query q => query q
  | group conjunction children => group conjunction.word (eachInWords children)

def eachInWords : List (Condition σ) → List (Condition σ)
  | [] => []
  | c :: cs => c.inWords :: eachInWords cs

end

mutual

theorem map_inWords (f : σ → τ) : ∀ x : Condition σ, x.inWords.map f = (x.map f).inWords
  | compare _ _ _ | equal _ _ | raw _ | query _ => rfl
  | group _ children => by simp only [inWords, map, mapEach_inWords f children]

theorem mapEach_inWords (f : σ → τ) :
    ∀ xs : List (Condition σ), mapEach f (eachInWords xs) = eachInWords (mapEach f xs)
  | [] => rfl
  | x :: xs => by simp only [eachInWords, mapEach, map_inWords f x, mapEach_inWords f xs]

end

end Condition

section

variable {σ τ : Type} (f : σ → τ)

def Filter.inWords (x : Filter σ) : Filter σ := ⟨x.condition.inWords, x.conjunction.word⟩

theorem Filter.map_inWords (x : Filter σ) : x.inWords.map f = (x.map f).inWords := by
  simp only [inWords, map, Condition.map_inWords]

def Join.inWords (x : Join σ) : Join σ := ⟨x.type, x.tables, x.on?.map (·.inWords)⟩

theorem Join.map_inWords (x : Join σ) : x.inWords.map f = (x.map f).inWords := by
  simp [inWords, map, Function.comp_def, Condition.map_inWords]

/-- The clauses with words for their own signs; their subqueries stay as they are. -/
def Clauses.inWords (c : Clauses σ) : Clauses σ where
  body := c.body
  joins := c.joins.map (·.inWords)
  filters := c.filters.map (·.inWords)
  groups := c.groups
  havings := c.havings.map (·.inWords)
  orders := c.orders
  limit? := c.limit?

theorem Clauses.map_inWords (c : Clauses σ) : c.inWords.map f = (c.map f).inWords := by
  simp [inWords, map, Join.map_inWords, Filter.map_inWords]

end

/-- The statement with words for all its signs. -/
def Statement.inWords (s : Statement) : Statement := s.fold fun c => of c.inWords

theorem Statement.inWords_of (c : Clauses Statement) :
    (of c).inWords = of (c.map inWords).inWords :=
  fold_of _ _

/-! ### What is written -/

variable {d : Dialect}

namespace Condition

theorem joinWritten_word (h : d ≠ .mysql) (conjunction : Conjunction) (ws : List Written) :
    joinWritten d conjunction.word ws = joinWritten d conjunction ws := by
  rcases ws with _ | ⟨w, _ | ⟨w', ws⟩⟩
  · rfl
  · rfl
  · simp only [joinWritten, Dialect.keyword_word h]

theorem writtenIn_inWords {σ : Type} (parent : Conjunction) (x : Condition σ) (w : Written) :
    x.inWords.writtenIn parent.word w = x.writtenIn parent w := by
  cases x with
  | group conjunction children =>
    simp only [inWords, writtenIn, Conjunction.needsParens_word]
  | _ => rfl

mutual

/-- A condition writes the same in words. -/
theorem write_inWords (h : d ≠ .mysql) :
    ∀ x : Condition (Writing String), x.inWords.write d = x.write d
  | compare _ _ _ | equal _ _ | raw _ | query _ => rfl
  | group conjunction children => by
    simp only [inWords, write, writeEach_inWords h conjunction children, joinWritten_word h]

theorem writeEach_inWords (h : d ≠ .mysql) (parent : Conjunction) :
    ∀ xs : List (Condition (Writing String)),
      writeEach d parent.word (eachInWords xs) = writeEach d parent xs
  | [] => rfl
  | x :: xs => by
    have term (w? : Option Written) :
        w?.map (x.inWords.writtenIn parent.word) = w?.map (x.writtenIn parent) := by
      cases w? with
      | none => rfl
      | some w => exact congrArg some (writtenIn_inWords parent x w)
    simp only [eachInWords, writeEach, write_inWords h x, writeEach_inWords h parent xs, term]

end

end Condition

variable (h : d ≠ .mysql)

include h

namespace Filter

theorem writtenContinuation_word :
    writtenContinuation d ∘ Prod.map Conjunction.word id = writtenContinuation d := by
  funext entry
  simp only [Function.comp_apply, writtenContinuation, Prod.map_fst, Prod.map_snd, id,
    Dialect.keyword_word h]

/-- The first entry has no keyword, and the others have the keywords of their words. -/
theorem joinWritten_word (entries : List (Conjunction × Written)) :
    joinWritten d (entries.map (Prod.map Conjunction.word id)) = joinWritten d entries := by
  rcases entries with _ | ⟨entry, _ | ⟨entry', entries⟩⟩
  · rfl
  · rfl
  · simp only [List.map_cons, joinWritten]
    rw [← List.map_cons, List.mapM_map, writtenContinuation_word h]
    rfl

theorem write_inWords (x : Filter (Writing String)) : x.inWords.write d =
    (return (← x.write d).map (Prod.map Conjunction.word id)) := by
  simp only [write, inWords, Condition.write_inWords h, bind_assoc, pure_bind, Option.map_map]
  rfl

theorem writeEntries_inWords (xs : List (Filter (Writing String))) :
    writeEntries d (xs.map (·.inWords)) =
      (return (← writeEntries d xs).map (Prod.map Conjunction.word id)) := by
  induction xs with
  | nil => rfl
  | cons x xs ih =>
    simp only [List.map_cons, writeEntries_cons, write_inWords h, ih, bind_assoc, pure_bind]
    refine bind_congr fun term? => bind_congr fun entries => ?_
    cases term? <;> simp

theorem writeList?_inWords (xs : List (Filter (Writing String))) :
    writeList? d (xs.map (·.inWords)) = writeList? d xs := by
  simp only [writeList?_eq, writeEntries_inWords h, bind_assoc, pure_bind, joinWritten_word h]

end Filter

theorem Join.write_inWords (x : Join (Writing String)) : x.inWords.write d = x.write d := by
  obtain ⟨type, tables, on?⟩ := x
  cases on? with
  | none => rfl
  | some on =>
    simp only [inWords, write, Option.map_some, writeOn, Condition.write?,
      Condition.write_inWords h]

namespace Clauses

theorem writeJoins_inWords (xs : List (Join (Writing String))) :
    writeJoins d (xs.map (·.inWords)) = writeJoins d xs := by
  have each : (fun x => x.write d) ∘ (fun x : Join (Writing String) => x.inWords) = (·.write d) :=
    funext fun x => Join.write_inWords h x
  simp only [writeJoins, List.mapM_map, each]

theorem writeFilters_inWords (keyword : String) (xs : List (Filter (Writing String))) :
    writeFilters d keyword (xs.map (·.inWords)) = writeFilters d keyword xs := by
  simp only [writeFilters, Filter.writeList?_inWords h]

theorem write_inWords (c : Clauses (Writing String)) : c.inWords.write d = c.write d := by
  obtain ⟨body, joins, filters, groups, havings, orders, limit?⟩ := c
  cases body <;>
    simp only [inWords, write, writeJoins_inWords h, writeFilters_inWords h]

end Clauses

namespace Statement

theorem write_inWords (s : Statement) : s.inWords.write d = s.write d := by
  induction s using induct with
  | step c =>
    have inner : write d ∘ inWords ∘ Subtype.val =
        write d ∘ (Subtype.val : {s // s.inWords.write d = s.write d} → Statement) :=
      funext fun q => q.property
    calc (of (c.map Subtype.val)).inWords.write d
        = (c.map (write d ∘ inWords ∘ Subtype.val)).inWords.write d := by
          rw [inWords_of, write_of, Clauses.map_inWords, Clauses.map_map, Clauses.map_map]
          rfl
      _ = (c.map (write d ∘ Subtype.val)).write d := by rw [inner, Clauses.write_inWords h]
      _ = (of (c.map Subtype.val)).write d := by rw [write_of, Clauses.map_map]

/-- **Outside MySQL signs and words are the same.**  A statement compiles to the text and the
parameters of the statement in words, or fails with its error. -/
theorem compile_inWords (s : Statement) (b : Binder) : s.inWords.compile d b = s.compile d b :=
  congrArg (·.result b) (write_inWords h s)

omit h in
/-- Signs in a join, between filters and in subqueries, with a value bound before. -/
theorem compile_inWords_postgres :
    let q (both either : Conjunction) : Statement :=
      of { Clauses.ofBody (.select [.plain (.name "u")] [] .none) with
        filters := [⟨.group either [.equal "a" (.value (.int 1)), .raw "b"], .and⟩,
          ⟨.raw "c", both⟩] }
    let s (both either : Conjunction) : Statement :=
      of { Clauses.ofBody (.select [⟨.query (q both either), some "x"⟩] [] .none) with
        joins := [⟨.left, [.plain (.name "v")],
          some (.group both [.raw "d", .group either [.raw "e", .raw "f"]])⟩]
        filters := [⟨.isIn "g" [.query (q both either)], .and⟩, ⟨.group .xor [.raw "h"], either⟩] }
    let inner (n : String) := "SELECT * FROM \"u\" WHERE (\"a\" = :p" ++ n ++ " OR b) AND c"
    let text := "SELECT * FROM (" ++ inner "2" ++ ") AS \"x\" LEFT JOIN \"v\" ON d AND (e OR f)" ++
      " WHERE (\"g\" IN (" ++ inner "3" ++ ")) OR h"
    let b := ((Binder.fresh .named ':').bindEach [.null]).2
    let b' := (b.bindEach [.int 1, .int 1]).2
    Dialect.postgres ≠ .mysql ∧ (s .andSign .orSign).inWords = s .and .or ∧
      (s .and .or).compile .postgres b = .ok (text, b') ∧
      (s .andSign .orSign).compile .postgres b = .ok (text, b') := by
  intro q s inner text b b'
  have other : Dialect.postgres ≠ .mysql := by decide
  have words : (s .andSign .orSign).inWords = s .and .or := rfl
  have compiled : (s .and .or).compile .postgres b = .ok (text, b') := by rfl
  have same := compile_inWords other (s .andSign .orSign) b
  rw [words] at same
  exact ⟨other, words, compiled, same.symm.trans compiled⟩

end Statement

end PolySql
