import PolySql.Proofs.Ensures
import PolySql.Statement.Compile

/-!
# Empty groups

A group is empty if there is nothing in it but empty groups (`Condition.isEmpty`).

**Empty groups cannot be seen in what is written** (`empty_groups_unwritten`).  A condition writes
nothing and binds nothing if it is empty, whatever its conjunctions are, and it writes something if
it is not.  The empty groups in a condition, at any depth, and the empty conditions among filters
may be taken out: the same is written, the same values are bound, and an error stays the same.
-/

namespace PolySql

namespace Condition

variable {σ : Type}

/-! ### Conditions without their empty groups -/

mutual

/-- The condition without the empty groups in it, at any depth. -/
def withoutEmpty : Condition σ → Condition σ
  | group conjunction children => group conjunction (eachWithoutEmpty children)
  | compare operator column operands => compare operator column operands
  | equal column operand => equal column operand
  | raw sql => raw sql
  | query q => query q

def eachWithoutEmpty : List (Condition σ) → List (Condition σ)
  | [] => []
  | c :: cs => if c.isEmpty then eachWithoutEmpty cs else c.withoutEmpty :: eachWithoutEmpty cs

end

mutual

/-- An empty group is in the condition, at some depth. -/
def holdsEmpty : Condition σ → Bool
  | group _ children => anyEmpty children
  | _ => false

def anyEmpty : List (Condition σ) → Bool
  | [] => false
  | c :: cs => c.isEmpty || c.holdsEmpty || anyEmpty cs

end

mutual

/-- The raw texts that are conditions. -/
def raws : Condition σ → List String
  | raw sql => [sql]
  | group _ children => rawsEach children
  | _ => []

def rawsEach : List (Condition σ) → List String
  | [] => []
  | c :: cs => c.raws ++ rawsEach cs

end

mutual

theorem isEmpty_withoutEmpty : ∀ x : Condition σ, x.withoutEmpty.isEmpty = x.isEmpty
  | compare _ _ _ | equal _ _ | raw _ | query _ => rfl
  | group _ children => allEmpty_eachWithoutEmpty children

theorem allEmpty_eachWithoutEmpty : ∀ xs : List (Condition σ),
    allEmpty (eachWithoutEmpty xs) = allEmpty xs
  | [] => rfl
  | x :: xs => by
    rw [eachWithoutEmpty, allEmpty]
    split
    · next empty => simpa [empty] using allEmpty_eachWithoutEmpty xs
    · rw [allEmpty, isEmpty_withoutEmpty x, allEmpty_eachWithoutEmpty xs]

end

mutual

theorem holdsEmpty_withoutEmpty : ∀ x : Condition σ, x.withoutEmpty.holdsEmpty = false
  | compare _ _ _ | equal _ _ | raw _ | query _ => rfl
  | group _ children => anyEmpty_eachWithoutEmpty children

theorem anyEmpty_eachWithoutEmpty : ∀ xs : List (Condition σ),
    anyEmpty (eachWithoutEmpty xs) = false
  | [] => rfl
  | x :: xs => by
    rw [eachWithoutEmpty]
    split
    · exact anyEmpty_eachWithoutEmpty xs
    · next full =>
      simp [anyEmpty, isEmpty_withoutEmpty, full, holdsEmpty_withoutEmpty x,
        anyEmpty_eachWithoutEmpty xs]

end

/-! ### What is written without them -/

variable (d : Dialect)

mutual

/-- An empty condition writes nothing and binds nothing. -/
theorem write_of_isEmpty : ∀ {x : Condition (Writing String)}, x.isEmpty = true →
    x.write d = pure none
  | group conjunction children, empty => by
    rw [write, writeEach_of_allEmpty conjunction empty, pure_bind]
    rfl

theorem writeEach_of_allEmpty (parent : Conjunction) : ∀ {xs : List (Condition (Writing String))},
    allEmpty xs = true → writeEach d parent xs = pure []
  | [], _ => rfl
  | x :: xs, empty => by
    obtain ⟨here, there⟩ : x.isEmpty = true ∧ allEmpty xs = true := by simpa [allEmpty] using empty
    rw [writeEach, write_of_isEmpty here, pure_bind, writeEach_of_allEmpty parent there, pure_bind]
    rfl

end

variable (f : σ → Writing String)

theorem writtenIn_withoutEmpty (parent : Conjunction) (x : Condition σ) :
    (x.withoutEmpty.map f).writtenIn parent = (x.map f).writtenIn parent := by
  cases x <;> rfl

mutual

theorem write_withoutEmpty : ∀ x : Condition σ,
    (x.withoutEmpty.map f).write d = (x.map f).write d
  | compare _ _ _ | equal _ _ | raw _ | query _ => rfl
  | group conjunction children => by
    simp only [withoutEmpty, map, write, writeEach_withoutEmpty conjunction children]

theorem writeEach_withoutEmpty (parent : Conjunction) : ∀ xs : List (Condition σ),
    writeEach d parent (mapEach f (eachWithoutEmpty xs)) = writeEach d parent (mapEach f xs)
  | [] => rfl
  | x :: xs => by
    rw [eachWithoutEmpty, mapEach, writeEach]
    split
    · next empty =>
      have nothing : (x.map f).write d = pure none :=
        write_of_isEmpty d (by rw [isEmpty_map]; exact empty)
      rw [nothing, pure_bind, writeEach_withoutEmpty parent xs]
      exact (bind_pure _).symm
    · rw [mapEach, writeEach, write_withoutEmpty x, writtenIn_withoutEmpty,
        writeEach_withoutEmpty parent xs]

end

/-! ### What is written of a condition -/

/-- A comparison has parentheses, so it has a text. -/
theorem yields_writeComparison (text column : String) (operands : List (Operand (Writing String))) :
    Yields (writeComparison d text column operands) (· ≠ "") := by
  refine .skip fun operator => ?_
  dsimp only
  split
  · split
    · exact .skip fun _ => .skip fun list => .pure (by simp)
    · exact .skip fun list => .pure (by simp)
  · split
    · split
      · exact .skip fun low => .skip fun high => .pure (by simp)
      · exact .throw _
    · split
      · split <;> exact .skip fun rhs => .pure (by simp)
      · exact .throw _

theorem text_writtenIn {parent : Conjunction} {x : Condition σ} {w : Written} (h : w.text ≠ "") :
    (x.writtenIn parent w).text ≠ "" := by
  cases x with
  | group conjunction children =>
    rw [writtenIn]
    split
    · simp
    · exact h
  | _ => exact h

theorem ensures_joinWritten (conjunction : Conjunction) (ws : List Written) :
    Ensures (joinWritten d conjunction ws) fun w? =>
      (w? = none ↔ ws = []) ∧ ((∀ w ∈ ws, w.text ≠ "") → ∀ w ∈ w?, w.text ≠ "") := by
  rcases ws with _ | ⟨w, _ | ⟨w', ws⟩⟩
  · exact .ok (by simp)
  · exact .ok (by simp)
  · refine .skip fun keyword => .ok ⟨by simp, fun filled => ?_⟩
    have first : w.text ≠ "" := filled w (by simp)
    rintro _ ⟨⟩
    simp [String.intercalate_cons_cons, first]

mutual

/-- Something is written for a condition that is not empty, and it has a text if no raw condition is
without one. -/
theorem yields_write : ∀ x : Condition σ, Yields ((x.map f).write d) fun w? =>
    (w? = none ↔ x.isEmpty = true) ∧
      ((∀ sql ∈ x.raws, sql ≠ "") → ∀ w ∈ w?, w.text ≠ "")
  | compare operator column operands =>
    (yields_writeComparison d operator column _).bind fun text ne =>
      .pure (by simpa [isEmpty] using fun _ => ne)
  | equal column operand => .skip fun rhs => .pure (by simp [isEmpty])
  | raw sql => .pure (by simp [isEmpty, raws])
  | query q => .skip fun text => .pure (by simp [isEmpty])
  | group conjunction children =>
    (yields_writeEach conjunction children).bind fun ws ⟨empty, texts⟩ =>
      .ofExcept fun w? hw? => by
        obtain ⟨nothing, text⟩ := ensures_joinWritten d conjunction ws w? hw?
        exact ⟨nothing.trans empty, fun filled => text (texts filled)⟩

theorem yields_writeEach (parent : Conjunction) : ∀ xs : List (Condition σ),
    Yields (writeEach d parent (mapEach f xs)) fun ws =>
      (ws = [] ↔ allEmpty xs = true) ∧
        ((∀ sql ∈ rawsEach xs, sql ≠ "") → ∀ w ∈ ws, w.text ≠ "")
  | [] => .pure (by simp [allEmpty])
  | x :: xs =>
    (yields_write x).bind fun w? ⟨empty, text⟩ =>
      (yields_writeEach parent xs).bind fun ws ⟨empties, texts⟩ => .pure (by
        refine ⟨?_, fun filled => ?_⟩
        · cases w? with
          | none => simpa [allEmpty, empty.1 rfl] using empties
          | some w =>
            have full : x.isEmpty = false := by simpa using mt empty.2 (by simp)
            simp [allEmpty, full]
        · simp only [rawsEach, List.forall_mem_append] at filled
          refine List.forall_mem_append.2 ⟨fun w hw => ?_, texts filled.2⟩
          obtain ⟨w, here, rfl⟩ := by simpa using hw
          exact text_writtenIn (text filled.1 w here))

end

/-- What is written for a condition that stands alone. -/
def writing? (d : Dialect) (x : Condition Statement) : Writing (Option String) :=
  (x.map (Statement.write d)).write? d

theorem writing?_of_isEmpty {x : Condition Statement} (empty : x.isEmpty = true) :
    x.writing? d = pure none := by
  have nothing : (x.map (Statement.write d)).write d = pure none :=
    write_of_isEmpty d (by rw [isEmpty_map]; exact empty)
  rw [writing?, write?, nothing, pure_bind]
  rfl

theorem yields_writing? (x : Condition Statement) :
    Yields (x.writing? d) fun text? => text? = none ↔ x.isEmpty = true :=
  (yields_write d (Statement.write d) x).bind fun w? ⟨empty, _⟩ => .pure (by simpa using empty)

theorem writing?_withoutEmpty (x : Condition Statement) :
    x.withoutEmpty.writing? d = x.writing? d := by
  rw [writing?, write?, write_withoutEmpty, writing?, write?]

end Condition

namespace Filter

/-- The filters whose conditions are not empty. -/
def nonempty {σ : Type} (filters : List (Filter σ)) : List (Filter σ) :=
  filters.filter fun x => !x.condition.isEmpty

section

variable {σ : Type} (d : Dialect) (f : σ → Writing String)

/-- The entries that are written of the filters, without those that are left out. -/
def writeEntries (d : Dialect) (filters : List (Filter (Writing String))) :
    Writing (List (Conjunction × Written)) :=
  return (← filters.mapM (·.write d)).filterMap id

theorem writeList?_eq (filters : List (Filter (Writing String))) :
    writeList? d filters = (do
      let entries ← writeEntries d filters
      let text ← MonadExcept.ofExcept (joinWritten d entries)
      return if text.isEmpty then none else some text) := by
  simp [writeList?, writeEntries]

theorem writeEntries_cons (x : Filter (Writing String)) (xs : List (Filter (Writing String))) :
    writeEntries d (x :: xs) = (do
      let term? ← x.write d
      return term?.toList ++ (← writeEntries d xs)) := by
  simp only [writeEntries, List.mapM_cons, bind_assoc, pure_bind]
  refine bind_congr fun term? => ?_
  cases term? <;> simp

theorem write_of_isEmpty {x : Filter (Writing String)} (empty : x.condition.isEmpty = true) :
    x.write d = pure none := by
  rw [write, Condition.write_of_isEmpty d empty, pure_bind]
  rfl

theorem writeEntries_nonempty (xs : List (Filter σ)) :
    writeEntries d ((nonempty xs).map (·.map f)) = writeEntries d (xs.map (·.map f)) := by
  induction xs with
  | nil => rfl
  | cons x xs ih =>
    rw [List.map_cons, writeEntries_cons, nonempty, List.filter_cons]
    split
    · rw [List.map_cons, writeEntries_cons]
      exact bind_congr fun term? => by rw [← ih, nonempty]
    · next empty =>
      have nothing : (x.map f).write d = pure none :=
        write_of_isEmpty d (by simpa [map] using empty)
      rw [nothing, pure_bind, ← ih]
      exact (bind_pure _).symm

theorem yields_write (x : Filter σ) : Yields ((x.map f).write d) fun term? =>
    (term? = none ↔ x.condition.isEmpty = true) ∧
      ((∀ sql ∈ x.condition.raws, sql ≠ "") → ∀ e ∈ term?, e.2.text ≠ "") := by
  refine (Condition.yields_write d f x.condition).bind fun w? ⟨empty, text⟩ => .pure ?_
  refine ⟨by simpa using empty, fun filled e here => ?_⟩
  obtain ⟨w, written, rfl⟩ := Option.map_eq_some_iff.1 here
  exact text filled w written

/-- The entries are those of the filters that are not empty, and they have texts if no raw condition
is without one. -/
theorem yields_writeEntries (xs : List (Filter σ)) :
    Yields (writeEntries d (xs.map (·.map f))) fun entries =>
      (entries = [] ↔ ∀ x ∈ xs, x.condition.isEmpty = true) ∧
        ((∀ x ∈ xs, ∀ sql ∈ x.condition.raws, sql ≠ "") → ∀ e ∈ entries, e.2.text ≠ "") := by
  induction xs with
  | nil => exact .pure (by simp)
  | cons x xs ih =>
    rw [List.map_cons, writeEntries_cons]
    refine (yields_write d f x).bind fun term? ⟨empty, text⟩ => ?_
    refine ih.bind fun entries ⟨empties, texts⟩ => .pure ⟨?_, fun filled => ?_⟩
    · rw [List.append_eq_nil_iff, Option.toList_eq_nil_iff, List.forall_mem_cons, empty, empties]
    · obtain ⟨here, there⟩ := List.forall_mem_cons.1 filled
      refine List.forall_mem_append.2 ⟨fun e mem => ?_, texts there⟩
      exact text here e (by simpa using mem)

theorem writtenUnit_ne_empty {w : Written} (h : w.text ≠ "") : writtenUnit w ≠ "" := by
  rw [writtenUnit]
  split
  · simp
  · exact h

theorem ensures_joinWritten {entries : List (Conjunction × Written)} (ne : entries ≠ [])
    (h : ∀ e ∈ entries, e.2.text ≠ "") : Ensures (joinWritten d entries) (· ≠ "") := by
  rcases entries with _ | ⟨e, _ | ⟨e', entries⟩⟩
  · exact absurd rfl ne
  · exact .ok (h e (by simp))
  · refine .skip fun texts => .ok ?_
    simp [writtenUnit_ne_empty (h e (by simp))]

end

/-- What is written for the filters of a `WHERE` or `HAVING`. -/
def writing? (d : Dialect) (filters : List (Filter Statement)) : Writing (Option String) :=
  writeList? d (filters.map (·.map (Statement.write d)))

variable {d : Dialect} {filters : List (Filter Statement)}

theorem writing?_nonempty : writing? d (nonempty filters) = writing? d filters := by
  rw [writing?, writing?, writeList?_eq, writeList?_eq, writeEntries_nonempty]

theorem writing?_of_isEmpty (empty : ∀ x ∈ filters, x.condition.isEmpty = true) :
    writing? d filters = pure none := by
  have nothing : nonempty filters = [] := by simpa [nonempty] using empty
  rw [← writing?_nonempty, nothing]
  rfl

theorem yields_writing? (filled : ∀ x ∈ filters, ∀ sql ∈ x.condition.raws, sql ≠ "") :
    Yields (writing? d filters) fun text? =>
      text? = none → ∀ x ∈ filters, x.condition.isEmpty = true := by
  rw [writing?, writeList?_eq]
  refine (yields_writeEntries d _ filters).bind fun entries ⟨empty, texts⟩ => ?_
  by_cases ne : entries = []
  · exact .skip fun _ => .pure fun _ => empty.1 ne
  · refine (Yields.ofExcept (ensures_joinWritten d ne (texts filled))).bind fun text htext => ?_
    exact .pure (by simp [htext])

end Filter

/-- **Empty groups cannot be seen in what is written**, by themselves, in a condition or among
filters.  Filters that are not all empty have a text, unless it is that of a raw condition with an
empty one. -/
theorem empty_groups_unwritten (d : Dialect) :
    (∀ x : Condition Statement,
      (x.isEmpty = true → ∀ b, (x.writing? d).result b = .ok (none, b)) ∧
      (x.isEmpty = false → ∀ b text? b', (x.writing? d).result b = .ok (text?, b') →
        text?.isSome) ∧
      x.withoutEmpty.holdsEmpty = false ∧ x.withoutEmpty.writing? d = x.writing? d) ∧
    ∀ filters : List (Filter Statement),
      Filter.writing? d (Filter.nonempty filters) = Filter.writing? d filters ∧
      ((∀ x ∈ filters, x.condition.isEmpty = true) →
        ∀ b, (Filter.writing? d filters).result b = .ok (none, b)) ∧
      ((∀ x ∈ filters, ∀ sql ∈ x.condition.raws, sql ≠ "") →
        ∀ b b', (Filter.writing? d filters).result b = .ok (none, b') →
          ∀ x ∈ filters, x.condition.isEmpty = true) := by
  refine ⟨fun x => ⟨fun empty b => ?_, fun full b text? b' written => ?_,
    x.holdsEmpty_withoutEmpty, x.writing?_withoutEmpty d⟩,
    fun filters => ⟨Filter.writing?_nonempty, fun empty b => ?_, fun filled b b' written => ?_⟩⟩
  · rw [Condition.writing?_of_isEmpty d empty]
    rfl
  · have shape := Condition.yields_writing? d x b _ written
    rw [Option.isSome_iff_ne_none]
    exact fun nothing => by simp [shape.1 nothing] at full
  · rw [Filter.writing?_of_isEmpty empty]
    rfl
  · exact Filter.yields_writing? filled b _ written rfl

/-- A group of empty groups asks for no keyword, so it may be joined by one that the dialect does
not have; and a group that keeps a single child is that child. -/
theorem empty_groups_unwritten_postgres :
    let empty : Condition Statement := .xor [.all [], .any [.xor []]]
    let x : Condition Statement := .any [empty, .all [.raw "a", empty], .raw "b"]
    let filters : List (Filter Statement) := [⟨empty, .and⟩, ⟨x, .and⟩, ⟨empty, .xor⟩]
    let others : List (Filter Statement) := [⟨empty, .xor⟩]
    let b := Binder.fresh .positional ':'
    empty.isEmpty = true ∧ (empty.writing? .postgres).result b = .ok (none, b) ∧
      x.isEmpty = false ∧ x.withoutEmpty = .any [.all [.raw "a"], .raw "b"] ∧
      (x.writing? .postgres).result b = .ok (some "a OR b", b) ∧
      Filter.nonempty filters = [⟨x, .and⟩] ∧
      (Filter.writing? .postgres filters).result b = .ok (some "a OR b", b) ∧
      (Filter.writing? .postgres others).result b = .ok (none, b) ∧
      ∀ y ∈ others, y.condition.isEmpty = true := by
  intro empty x filters others b
  obtain ⟨conditions, lists⟩ := empty_groups_unwritten .postgres
  obtain ⟨nothing, -, -, -⟩ := conditions empty
  obtain ⟨-, -, -, same⟩ := conditions x
  obtain ⟨fewer, -, -⟩ := lists filters
  obtain ⟨-, unwritten, onlyThen⟩ := lists others
  have missing := unwritten (by decide) b
  refine ⟨rfl, nothing rfl b, rfl, rfl, ?_, rfl, ?_, missing, onlyThen (by decide) b b missing⟩
  · rw [← same]
    rfl
  · rw [← fewer]
    rfl

end PolySql
