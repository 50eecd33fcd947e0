import PolySql.Proofs.Ensures
import PolySql.Proofs.Filling
import PolySql.Proofs.Formula
import PolySql.Statement.Compile

/-!
# The meaning of written conditions

A condition over words is true or false by its tree (`Condition.truth`): a group is the conjunction,
the disjunction or the parity of its children that are not empty.  A list of filters chains those
that are not empty with their conjunctions (`Filter.truth`).

**What is written has the meaning of the tree** (`written_conditions_read`).  The text of the filters
reads as a formula, all of it, and the formula is true where the filters are.  An `XOR` group right
in an `AND` group is excepted, since it is written there without parentheses.
-/

namespace PolySql

def Conjunction.connective : Conjunction → Connective
  | and | andSign => .and
  | or | orSign => .or
  | xor => .xor

/-- Neither a keyword nor more than one word. -/
def isWord (w : String) : Bool :=
  !w.isEmpty && w.toList.all (fun c => !Text.isWhitespace c && c != '(' && c != ')') &&
    (Connective.ofWord? w).isNone

namespace Condition

variable {σ τ : Type}

/-- An `XOR` group, which `AND` does not put in parentheses. -/
def isBareIn (parent : Conjunction) : Condition σ → Bool
  | group conjunction _ => conjunction == .xor && parent.connective == .and
  | _ => false

mutual

/-- The leaves are words, and no `XOR` group is a child of an `AND` group. -/
def isPlain : Condition σ → Bool
  | raw sql => isWord sql
  | group conjunction children => arePlainIn conjunction children
  | compare _ _ _ | equal _ _ | query _ => false

def arePlainIn (parent : Conjunction) : List (Condition σ) → Bool
  | [] => true
  | c :: cs => c.isPlain && !c.isBareIn parent && arePlainIn parent cs

end

mutual

/-- The truth of a condition over words where `ρ` says which words are true.  Empty children do not
count. -/
def truth (ρ : String → Bool) : Condition σ → Bool
  | raw sql => ρ sql
  | group conjunction children => conjunction.connective.combine (truths ρ children)
  | compare _ _ _ | equal _ _ | query _ => false

def truths (ρ : String → Bool) : List (Condition σ) → List Bool
  | [] => []
  | c :: cs => if c.isEmpty then truths ρ cs else c.truth ρ :: truths ρ cs

end

end Condition

/-- The filters that are not empty, chained with the conjunctions of all but the first. -/
def Filter.truth {σ : Type} (ρ : String → Bool) (filters : List (Filter σ)) : Bool :=
  Connective.chain ((filters.filter fun x => !x.condition.isEmpty).map fun x =>
    (x.conjunction.connective, x.condition.truth ρ))

/-! ### Keywords in text -/

/-- The keyword of a conjunction reads as its connective. -/
theorem Dialect.sign_keyword (d : Dialect) (c : Conjunction) :
    Ensures (d.keyword c) fun keyword => ∀ s t,
      Sign.ofText (s ++ (" " ++ keyword ++ " ") ++ t) =
        Sign.ofText s ++ .connective c.connective :: Sign.ofText t := by
  have spaced (keyword : String) (ne : keyword ≠ "")
      (marks : keyword.toList.all (fun c => (Sign.ofMark? c).isNone) = true)
      (sign : Sign.ofWord keyword = .connective c.connective) (s t : String) :
      Sign.ofText (s ++ (" " ++ keyword ++ " ") ++ t) =
        Sign.ofText s ++ .connective c.connective :: Sign.ofText t :=
    sign ▸ Sign.ofText_spaced ne (by simpa using marks) s t
  cases d <;> cases c <;>
    first
    | exact .error _
    | exact .ok (spaced _ (by decide) (by decide) (by decide))

/-! ### Conditions -/

/-- The written text reads as `m` after connectives of rank at most `r`, and a single term does
after any. -/
def Written.Means (r : Nat) (m : (String → Bool) → Bool) (w : Written) : Prop :=
  Reads r m (Sign.ofText w.text) ∧ (w.terms ≤ 1 → ∀ r, Reads r m (Sign.ofText w.text))

namespace Written.Means

variable {r : Nat} {m : (String → Bool) → Bool} {w : Written}

theorem of_forall (h : ∀ r, Reads r m (Sign.ofText w.text)) (r : Nat) : w.Means r m :=
  ⟨h r, fun _ => h⟩

theorem mono {r' : Nat} (h : w.Means r m) (le : r' ≤ r) : w.Means r' m := ⟨h.1.mono le, h.2⟩

theorem parens (h : w.Means r m) (le : 1 ≤ r) (r' : Nat) :
    Reads r' m (Sign.ofText ("(" ++ w.text ++ ")")) := by
  rw [Sign.ofText_parens]
  exact (h.1.mono le).parens r'

end Written.Means

theorem Connective.one_le_rank (c : Connective) : 1 ≤ c.rank := by cases c <;> decide

theorem Connective.rank_le_and (c : Connective) : c.rank ≤ and.rank := by cases c <;> decide

/-- A group without parentheses binds at least as tightly as the group it stands in, but for `XOR`
in `AND`. -/
theorem Conjunction.rank_le_of_not_needsParens {parent child : Conjunction} :
    parent.needsParens child = false → (child == .xor && parent.connective == .and) = false →
      parent.connective.rank ≤ child.connective.rank := by
  cases parent <;> cases child <;> decide

theorem ofText_isWord {w : String} (h : isWord w = true) : Sign.ofText w = [.word w] := by
  simp only [isWord, Bool.and_eq_true, List.all_eq_true] at h
  obtain ⟨⟨ne, marks⟩, plain⟩ := h
  rw [Sign.ofText_word (by simpa using ne) fun c hc => by simp_all [Sign.ofMark?], Sign.ofWord]
  simp [Option.isNone_iff_eq_none.1 plain]

namespace Condition

variable {σ : Type} (f : σ → Writing String) (d : Dialect)

/-- The rank of the connectives that may stand around the condition without parentheses. -/
def rank : Condition σ → Nat
  | group conjunction _ => conjunction.connective.rank
  | _ => Connective.and.rank

theorem one_le_rank : ∀ x : Condition σ, 1 ≤ x.rank
  | group conjunction _ => conjunction.connective.one_le_rank
  | compare _ _ _ | equal _ _ | raw _ | query _ => Connective.one_le_rank .and

/-- A child stands in its group with the parentheses that it needs there. -/
theorem means_writtenIn {parent : Conjunction} {x : Condition σ} {w : Written}
    {m : (String → Bool) → Bool} (h : w.Means x.rank m) (bare : x.isBareIn parent = false) :
    ((x.map f).writtenIn parent w).Means parent.connective.rank m := by
  cases x with
  | group conjunction children =>
    simp only [map, writtenIn]
    split
    · have wrapped := h.parens conjunction.connective.one_le_rank
      exact ⟨wrapped _, fun _ => wrapped⟩
    · next notWrapped =>
      -- A single term is a word or has its parentheses already.
      by_cases single : w.terms ≤ 1
      · exact .of_forall (h.2 single) _
      · have tight : parent.needsParens conjunction = false := by
          simpa [Nat.lt_of_not_le single] using notWrapped
        exact h.mono (Conjunction.rank_le_of_not_needsParens tight bare)
  | _ => exact h.mono (Connective.rank_le_and _)

/-- Terms that are not the first of a text, each after the keyword. -/
theorem ofText_intercalate {keyword : String} {c : Connective}
    (sign : ∀ s t, Sign.ofText (s ++ (" " ++ keyword ++ " ") ++ t) =
      Sign.ofText s ++ .connective c :: Sign.ofText t)
    {ι : Type} (text : ι → String) (xs : List ι) :
    Sign.ofText ((" " ++ keyword ++ " ").intercalate (xs.map text)) =
      strung (fun _ => c) (fun x => Sign.ofText (text x)) xs := by
  induction xs with
  | nil => rfl
  | cons x xs ih =>
    cases xs with
    | nil => simp [strung, led]
    | cons y xs =>
      simp only [List.map_cons] at ih ⊢
      rw [String.intercalate_cons_cons, sign, ih]
      simp [strung, led]

/-- A joined group means the combination of its terms. -/
theorem means_joinWritten (conjunction : Conjunction)
    {es : List (Written × ((String → Bool) → Bool))}
    (h : ∀ e ∈ es, e.1.Means conjunction.connective.rank e.2) :
    Ensures (joinWritten d conjunction (es.map Prod.fst)) fun w? =>
      (w? = none ↔ es = []) ∧ ∀ w ∈ w?, w.Means conjunction.connective.rank fun ρ =>
        conjunction.connective.combine (es.map (·.2 ρ)) := by
  rcases es with _ | ⟨e, _ | ⟨e', es⟩⟩
  · exact .ok (by simp)
  · refine .ok ⟨by simp, ?_⟩
    simpa [Connective.combine_cons] using h e (by simp)
  · simp only [List.map_cons, joinWritten]
    refine (d.sign_keyword conjunction).bind fun keyword sign => .ok ⟨by simp, ?_⟩
    rintro _ ⟨⟩
    have text := ofText_intercalate sign (fun e : Written × _ => e.1.text) (e :: e' :: es)
    have reads := Reads.combined (n := Prod.snd) (fun _ => conjunction.connective)
      (fun e : Written × _ => Sign.ofText e.1.text) (by simp : e :: e' :: es ≠ []) (by simp)
      fun e he => (h e he).1
    refine ⟨?_, fun single => absurd single (by simp)⟩
    rw [← text] at reads
    simpa [toString, Function.comp_def] using reads

mutual

/-- What is written for a plain condition means the condition. -/
theorem means_write : ∀ x : Condition σ, x.isPlain = true →
    Yields ((x.map f).write d) fun w? =>
      (w? = none ↔ x.isEmpty = true) ∧ ∀ w ∈ w?, w.Means x.rank (x.truth ·)
  | raw sql, plain => by
    refine .pure ⟨by simp [isEmpty], ?_⟩
    rintro _ ⟨⟩
    refine .of_forall (fun r => ?_) _
    rw [ofText_isWord plain]
    exact Reads.word r sql
  | group conjunction children, plain => by
    refine (means_writeEach conjunction children plain).bind ?_
    rintro _ ⟨es, rfl, empty, values, means⟩
    refine .ofExcept fun w? hw? => ?_
    obtain ⟨nothing, meaning⟩ := means_joinWritten d conjunction means w? hw?
    refine ⟨nothing.trans empty, fun w hw => ?_⟩
    simp only [truth, values]
    exact meaning w hw

theorem means_writeEach (parent : Conjunction) : ∀ xs : List (Condition σ),
    arePlainIn parent xs = true →
      Yields (writeEach d parent (mapEach f xs)) fun ws =>
        ∃ es : List (Written × ((String → Bool) → Bool)), ws = es.map Prod.fst ∧
          (es = [] ↔ allEmpty xs = true) ∧ (∀ ρ, truths ρ xs = es.map (·.2 ρ)) ∧
          ∀ e ∈ es, e.1.Means parent.connective.rank e.2
  | [], _ => .pure ⟨[], by simp [allEmpty, truths]⟩
  | x :: xs, plain => by
    simp only [arePlainIn, Bool.and_eq_true, Bool.not_eq_true'] at plain
    obtain ⟨⟨plain, bare⟩, plains⟩ := plain
    refine (means_write x plain).bind fun w? hw? => ?_
    refine (means_writeEach parent xs plains).bind ?_
    rintro _ ⟨es, rfl, empty, values, means⟩
    refine .pure ?_
    cases w? with
    -- An empty child leaves neither a term nor a value.
    | none =>
      have blank : x.isEmpty = true := hw?.1.1 rfl
      exact ⟨es, by simp, by simp [allEmpty, blank, empty], by simp [truths, blank, values], means⟩
    | some w =>
      have full : x.isEmpty = false := by simpa using mt hw?.1.2 (by simp)
      refine ⟨((x.map f).writtenIn parent w, (x.truth ·)) :: es, by simp, by simp [allEmpty, full],
        by simp [truths, full, values], ?_⟩
      rintro e (_ | ⟨_, he⟩)
      · exact means_writtenIn f (hw?.2 w rfl) bare
      · exact means e he

end

end Condition

/-! ### Filters -/

namespace Filter

variable {σ : Type} (f : σ → Writing String) (d : Dialect)

theorem means_writtenUnit {m : (String → Bool) → Bool} {w : Written} (h : w.Means 1 m) (r : Nat) :
    Reads r m (Sign.ofText (writtenUnit w)) := by
  unfold writtenUnit
  split
  · exact h.parens (Nat.le_refl 1) r
  · next single => exact h.2 (Nat.le_of_not_lt single) r

theorem means_write (x : Filter σ) (plain : x.condition.isPlain = true) :
    Yields ((x.map f).write d) fun term? =>
      (term? = none ∧ x.condition.isEmpty = true) ∨
      ∃ w, term? = some (x.conjunction, w) ∧ x.condition.isEmpty = false ∧
        w.Means 1 (x.condition.truth ·) := by
  refine (Condition.means_write f d x.condition plain).bind fun w? hw? => .pure ?_
  cases w? with
  | none => exact .inl ⟨rfl, hw?.1.1 rfl⟩
  | some w =>
    have full : x.condition.isEmpty = false := by simpa using mt hw?.1.2 (by simp)
    exact .inr ⟨w, rfl, full, (hw?.2 w rfl).mono x.condition.one_le_rank⟩

/-- The filters that are written are those that are not empty. -/
theorem means_writeEach (xs : List (Filter σ)) (plain : ∀ x ∈ xs, x.condition.isPlain = true) :
    Yields ((xs.map (·.map f)).mapM (·.write d)) fun written =>
      ∃ es : List (Filter σ × Written),
        written.filterMap id = es.map (fun e => (e.1.conjunction, e.2)) ∧
        xs.filter (fun x => !x.condition.isEmpty) = es.map Prod.fst ∧
        ∀ e ∈ es, e.2.Means 1 (e.1.condition.truth ·) := by
  induction xs with
  | nil => exact .pure ⟨[], rfl, rfl, by simp⟩
  | cons x xs ih =>
    rw [List.map_cons, List.mapM_cons]
    refine (means_write f d x (plain x (by simp))).bind fun term? hterm? => ?_
    refine (ih fun y hy => plain y (by simp [hy])).bind ?_
    rintro written ⟨es, entries, full, means⟩
    refine .pure ?_
    rcases hterm? with ⟨rfl, blank⟩ | ⟨w, rfl, filled, meaning⟩
    · exact ⟨es, by simpa using entries, by simpa [blank] using full, means⟩
    · refine ⟨(x, w) :: es, by simpa using entries, by simpa [filled] using full, ?_⟩
      rintro e (_ | ⟨_, he⟩)
      · exact meaning
      · exact means e he

/-- Each filter after the first follows its keyword. -/
theorem ofText_continuations (es : List (Filter σ × Written)) :
    Ensures ((es.map fun e => (e.1.conjunction, e.2)).mapM (writtenContinuation d)) fun texts =>
      ∀ s, Sign.ofText (s ++ String.join texts) =
        Sign.ofText s ++ led (fun e : Filter σ × Written => e.1.conjunction.connective)
          (fun e => Sign.ofText (writtenUnit e.2)) es := by
  induction es with
  | nil => exact .ok (by simp [led])
  | cons e es ih =>
    rw [List.map_cons, List.mapM_cons]
    have first : Ensures (writtenContinuation d (e.1.conjunction, e.2)) fun text => ∀ s,
        Sign.ofText (s ++ text) = Sign.ofText s ++
          .connective e.1.conjunction.connective :: Sign.ofText (writtenUnit e.2) :=
      (d.sign_keyword e.1.conjunction).bind fun keyword sign => .ok fun s => by
        simpa [toString, String.append_assoc] using sign s (writtenUnit e.2)
    refine first.bind fun text htext => ih.bind fun texts htexts => .ok fun s => ?_
    rw [String.join_cons, ← String.append_assoc, htexts, htext]
    simp [led]

theorem chain_singleton (c : Connective) (v : Bool) : Connective.chain [(c, v)] = v := by
  cases v <;> rfl

/-- Joined filters read as the chain of what they mean. -/
theorem reads_joinWritten {es : List (Filter σ × Written)} (ne : es ≠ [])
    (h : ∀ e ∈ es, e.2.Means 1 (e.1.condition.truth ·)) :
    Ensures (joinWritten d (es.map fun e => (e.1.conjunction, e.2))) fun text =>
      Reads 1 (fun ρ => Connective.chain (es.map fun e =>
        (e.1.conjunction.connective, e.1.condition.truth ρ))) (Sign.ofText text) := by
  rcases es with _ | ⟨e, _ | ⟨e', es⟩⟩
  · exact absurd rfl ne
  · refine .ok ?_
    simpa [chain_singleton] using (h e (by simp)).1
  · simp only [List.map_cons, joinWritten]
    refine (ofText_continuations d (e' :: es)).bind fun texts signs => .ok ?_
    rw [signs]
    exact Reads.chained (fun e : Filter σ × Written => e.1.conjunction.connective)
      (fun e => Sign.ofText (writtenUnit e.2)) (by simp : e :: e' :: es ≠ [])
      fun e he => means_writtenUnit (h e he)

end Filter

/-! ### The text as a whole -/

/-- All of the text is a formula, and the formula means `m`. -/
def ReadsAs (m : (String → Bool) → Bool) (text : String) : Prop :=
  ∃ φ, Formula.read? text = some φ ∧ ∀ ρ, φ.holds ρ = m ρ

section

variable {σ : Type} (f : σ → Writing String) (d : Dialect)

theorem Filter.means_writeList? (xs : List (Filter σ))
    (plain : ∀ x ∈ xs, x.condition.isPlain = true) :
    Yields (writeList? d (xs.map (·.map f))) fun text? =>
      (text? = none ↔ ∀ x ∈ xs, x.condition.isEmpty = true) ∧
        ∀ text ∈ text?, ReadsAs (truth · xs) text := by
  refine (means_writeEach f d xs plain).bind ?_
  rintro written ⟨es, entries, full, means⟩
  rw [entries]
  have blank : es = [] ↔ ∀ x ∈ xs, x.condition.isEmpty = true := by
    have := congrArg (· = []) full
    simpa [List.filter_eq_nil_iff] using this.symm
  by_cases ne : es = []
  · subst ne
    refine Yields.bind (P := (· = "")) (.ofExcept (.ok rfl)) ?_
    rintro _ rfl
    exact .pure (by simpa using blank)
  · refine Yields.bind (.ofExcept (reads_joinWritten d ne means)) fun text reads => .pure ?_
    -- What reads is not empty, so the text is there.
    have filled : text ≠ "" := by
      rintro rfl
      exact reads.ne_nil rfl
    have values : (truth · xs) = fun ρ => Connective.chain (es.map fun e =>
        (e.1.conjunction.connective, e.1.condition.truth ρ)) := by
      funext ρ
      simp [truth, full, Function.comp_def]
    simp only [String.isEmpty_iff, filled, if_false, reduceCtorEq, false_iff]
    refine ⟨fun all => ne (blank.2 all), ?_⟩
    rintro _ ⟨⟩
    rw [values]
    exact reads.read?

theorem Condition.means_write? (x : Condition σ) (plain : x.isPlain = true) :
    Yields ((x.map f).write? d) fun text? =>
      (text? = none ↔ x.isEmpty = true) ∧ ∀ text ∈ text?, ReadsAs (x.truth ·) text := by
  refine (means_write f d x plain).bind fun w? hw? => .pure ?_
  cases w? with
  | none => simpa using hw?.1
  | some w =>
    refine ⟨by simpa using hw?.1, ?_⟩
    rintro _ ⟨⟩
    exact ((hw?.2 w rfl).mono x.one_le_rank).1.read?

end

/-- **What is written for conditions over words has their meaning**: for the filters of a `WHERE` or
`HAVING`, and for one condition that stands alone.  There is no text only if there is nothing but
empty groups. -/
theorem written_conditions_read (d : Dialect) (b : Binder) :
    (∀ filters : List (Filter Statement), (∀ x ∈ filters, x.condition.isPlain = true) →
      ∀ text? b', (Filter.writeList? d (filters.map (·.map (Statement.write d)))).result b =
          .ok (text?, b') →
        (text? = none ↔ ∀ x ∈ filters, x.condition.isEmpty = true) ∧
          ∀ text ∈ text?, ReadsAs (Filter.truth · filters) text) ∧
    (∀ on : Condition Statement, on.isPlain = true →
      ∀ text? b', ((on.map (Statement.write d)).write? d).result b = .ok (text?, b') →
        (text? = none ↔ on.isEmpty = true) ∧ ∀ text ∈ text?, ReadsAs (on.truth ·) text) :=
  ⟨fun filters plain text? b' written =>
      Filter.means_writeList? _ d filters plain b (text?, b') written,
    fun on plain text? b' written => Condition.means_write? _ d on plain b (text?, b') written⟩

/-- Here the disjunction, a single child of its group, needs its parentheses and the parity does
not. -/
theorem written_conditions_read_mysql :
    let filters : List (Filter Statement) := [
      ⟨.group .and [.all [], .group .and [.any [.raw "a", .raw "b"]], .raw "c"], .and⟩,
      ⟨.group .or [.xor [.raw "d", .raw "e"], .raw "f"], .xor⟩,
      ⟨.all [], .and⟩,
      ⟨.raw "g", .orSign⟩]
    let text := "((a OR b) AND c) XOR (d XOR e OR f) || g"
    (Filter.writeList? .mysql (filters.map (·.map (Statement.write .mysql)))).result
        (.fresh .positional ':') = .ok (some text, .fresh .positional ':') ∧
      ReadsAs (Filter.truth · filters) text := by
  intro filters text
  have written : (Filter.writeList? .mysql (filters.map (·.map (Statement.write .mysql)))).result
      (.fresh .positional ':') = .ok (some text, .fresh .positional ':') := rfl
  have reads := (written_conditions_read .mysql _).1 filters (by decide) _ _ written
  exact ⟨written, reads.2 text rfl⟩

end PolySql
