import PolySql.Proofs.Filling
import PolySql.Proofs.Induction
import PolySql.Statement.Compile

/-!
# What is written is the filled template

**The two layouts agree** (`Statement.compile_eq`).  Compiling a statement with a binder gives the
text of its template with placeholders in the slots, and the binder with the values of the slots, in
text order.  A value is never bound before or after its place in the text, and whether there is a
text at all does not depend on the binder.

There is one lemma for each clause: if the subqueries agree, the clause does.
-/

namespace PolySql

open Template (fill)

variable {σ : Type} {f : σ → Writing String} {g : σ → Rendering}
variable (h : ∀ q, Fills (f q) (g q) fill) (d : Dialect)

/-! ### Lists with commas -/

theorem Fills.parens {w : Writing String} {r : Rendering} (h : Fills w r fill) :
    Fills (return "(" ++ (← w) ++ ")") (r.map Template.parens) fill := by
  intro b
  rw [Writing.result_bind, h b]
  cases r with
  | error e => rfl
  | ok t => exact congrArg Except.ok (Template.fill_parens b t).symm

theorem Fills.commas {w : Writing (List String)} {r : Except CompileError (List Template)}
    (h : Fills w r (fillEach fill)) :
    Fills (return ", ".intercalate (← w)) (return Template.join ", " (← r)) fill :=
  h.map fun b ts => Template.fill_join ", " b ts

include h

/-! ### Items -/

theorem Item.fills (x : Item σ) : Fills ((x.map f).write d) ((x.map g).template d) fill := by
  cases x with
  | name n => exact .pure fun b => by simp
  | raw sql => exact .pure fun b => by simp
  | query q => exact (h q).parens

theorem Selectable.fills (x : Selectable σ) :
    Fills ((x.map f).write d) ((x.map g).template d) fill := by
  obtain ⟨item, _ | label⟩ := x
  · exact (Item.fills h d item).map fun b t => rfl
  · exact (Item.fills h d item).map fun b t => by simp [String.append_assoc]

theorem Item.fills_list (xs : List (Item σ)) :
    Fills (writeList d (xs.map (·.map f))) (listTemplate d (xs.map (·.map g))) fill := by
  refine Fills.commas ?_
  simp only [List.mapM_map]
  exact .mapM xs fun x _ => Item.fills h d x

theorem Selectable.fills_list (xs : List (Selectable σ)) :
    Fills (writeList d (xs.map (·.map f))) (listTemplate d (xs.map (·.map g))) fill := by
  refine Fills.commas ?_
  simp only [List.mapM_map]
  exact .mapM xs fun x _ => Selectable.fills h d x

theorem fills_selectList (xs : List (Selectable σ)) :
    Fills (writeSelectList d (xs.map (·.map f)))
      (selectListTemplate d (xs.map (·.map g))) fill := by
  cases xs with
  | nil => exact .pure fun b => by simp
  | cons x xs => exact Selectable.fills_list h d (x :: xs)

theorem fills_tableList (xs : List (Selectable σ)) :
    Fills (writeTableList d (xs.map (·.map f))) (tableListTemplate d (xs.map (·.map g))) fill := by
  cases xs with
  | nil => exact .throw _
  | cons x xs => exact Selectable.fills_list h d (x :: xs)

/-! ### Operands -/

theorem Operand.fills (x : Operand σ) : Fills ((x.map f).write d) ((x.map g).template d) fill := by
  cases x with
  | value v => exact fun b => by simp [Operand.map, Operand.write, Operand.template, Except.map]
  | raw sql => exact .pure fun b => by simp
  | column name => exact .pure fun b => by simp
  | query q => exact (h q).parens

theorem Operand.fills_each (xs : List (Operand σ)) :
    Fills (writeEach d (xs.map (·.map f))) ((xs.map (·.map g)).mapM (·.template d))
      (fillEach fill) := by
  simp only [writeEach, List.mapM_map]
  exact .mapM xs fun x _ => Operand.fills h d x

theorem Operand.fills_list (xs : List (Operand σ)) :
    Fills (writeList d (xs.map (·.map f))) (listTemplate d (xs.map (·.map g))) fill :=
  (Operand.fills_each h d xs).commas

theorem Operand.fills_unbound (x : Operand σ) :
    Fills ((x.map f).writeUnbound d) ((x.map g).unboundTemplate d) fill := by
  cases x with
  | value v =>
    cases v with
    | float x =>
      simp only [Operand.map, writeUnbound, unboundTemplate]
      cases Value.floatText? x with
      | none => exact .throw _
      | some text => exact .pure fun b => by simp
    | _ => exact .pure fun b => by simp
  | raw sql => exact Operand.fills h d (.raw sql)
  | column name => exact Operand.fills h d (.column name)
  | query q => exact Operand.fills h d (.query q)

/-! ### Conditions -/

omit h in
@[simp] theorem Operand.value?_map (x : Operand σ) : (x.map f).value? = x.value? := by
  cases x <;> rfl

omit h in
theorem Operand.eq_values_of_mapM {xs : List (Operand σ)} {vs : List Value}
    (hv : xs.mapM Operand.value? = some vs) : xs = vs.map .value := by
  induction xs generalizing vs with
  | nil => simp_all
  | cons x xs ih =>
    simp only [List.mapM_cons, Option.bind_eq_bind, Option.bind_eq_some_iff, Option.pure_def,
      Option.some.injEq] at hv
    obtain ⟨v, hx, vs', hxs, rfl⟩ := hv
    cases x <;> simp_all [Operand.value?]

omit h in
/-- A batch is placed as its values are one by one, each in a slot of its own. -/
theorem Operand.fills_values (vs : List Value) :
    Fills (Writing.placeAll vs) ((vs.map Operand.value).mapM (Operand.template d))
      (fillEach fill) := by
  intro b
  have slots : (vs.map Operand.value).mapM (Operand.template d) =
      .ok (vs.map fun v => [Piece.slot v]) := by
    rw [List.mapM_map]
    exact List.mapM_pure
  -- A batch is bound value by value, so the induction is on the batch.
  rw [Writing.result_placeAll, slots, Binder.bindAll_eq]
  refine congrArg Except.ok ?_
  clear slots
  induction vs generalizing b with
  | nil => rfl
  | cons v vs ih => simp_all [Binder.bindEach, fillEach]

theorem Operand.fills_batch (xs : List (Operand σ)) :
    Fills (writeBatch d (xs.map (·.map f))) ((xs.map (·.map g)).mapM (·.template d))
      (fillEach fill) := by
  unfold writeBatch
  split
  · next vs hv =>
    simp only [List.mapM_map, Function.comp_def, Operand.value?_map] at hv
    obtain rfl := Operand.eq_values_of_mapM hv
    simpa [Operand.map, Function.comp_def] using Operand.fills_values d vs
  · exact Operand.fills_each h d xs

theorem Condition.fills_list (xs : List (Operand σ)) :
    Fills (writeList d (xs.map (·.map f))) (listTemplate d (xs.map (·.map g))) fill := by
  have batch := (Operand.fills_batch h d xs).commas
  rcases xs with _ | ⟨x, _ | ⟨y, ys⟩⟩
  · exact batch
  · cases x with
    | query q => exact h q
    | value _ | raw _ | column _ => exact batch
  · cases x <;> exact batch

theorem Condition.fills_comparison (text column : String) (xs : List (Operand σ)) :
    Fills (writeComparison d text column (xs.map (·.map f)))
      (comparisonTemplate d text column (xs.map (·.map g))) fill := by
  simp only [writeComparison, comparisonTemplate]
  intro b
  refine (Fills.same (Operator.ofText text)).bind fun operator => ?_
  simp only [List.isEmpty_map, List.length_map]
  -- The operator asks for a list, a range or one operand; any other number is an error in both.
  split
  · cases xs with
    | nil => rfl
    | cons x xs =>
      refine (Condition.fills_list h d (x :: xs)).bind fun t => Fills.done ?_
      simp [String.append_assoc, -String.reduceAppend]
  · split
    · rcases xs with _ | ⟨low, _ | ⟨high, _ | ⟨other, xs⟩⟩⟩
      · rfl
      · rfl
      · refine (Operand.fills h d low).bind fun t => ?_
        refine (Operand.fills h d high).bind fun u => Fills.done ?_
        simp [String.append_assoc]
      · rfl
    · rcases xs with _ | ⟨x, _ | ⟨y, xs⟩⟩
      · rfl
      · simp only [List.map_cons, List.map_nil]
        split
        · refine (Operand.fills_unbound h d x).bind fun t => Fills.done ?_
          simp [String.append_assoc]
        · refine (Operand.fills h d x).bind fun t => Fills.done ?_
          simp [String.append_assoc]
      · rfl

/-- What filling a rendered condition gives. -/
def Rendered.fill (b : Binder) (r : Rendered) : Written × Binder :=
  (⟨(Template.fill b r.template).1, r.terms⟩, (Template.fill b r.template).2)

omit h in
theorem Condition.fill_nestedIn (parent : Conjunction) (x : Condition σ) (b : Binder)
    (r : Rendered) :
    ((x.map g).nestedIn parent r).fill b =
      ((x.map f).writtenIn parent (r.fill b).1, (r.fill b).2) := by
  cases x with
  | group conjunction children =>
    simp only [Condition.map, nestedIn, writtenIn]
    by_cases nested : r.terms > 1 ∧ parent.needsParens conjunction = true
    · simp [nested, Rendered.fill]
    · simp [nested, Rendered.fill]
  | _ => rfl

omit h in
@[simp] theorem Rendered.text_fill (b : Binder) (r : Rendered) :
    (r.fill b).1.text = (Template.fill b r.template).1 := rfl

omit h in
@[simp] theorem Rendered.fill_snd (b : Binder) (r : Rendered) :
    (r.fill b).2 = (Template.fill b r.template).2 := rfl

omit h in
theorem Rendered.fillEach_templates (b : Binder) (rs : List Rendered) :
    fillEach Template.fill b (rs.map (·.template)) =
      ((fillEach Rendered.fill b rs).1.map (·.text), (fillEach Rendered.fill b rs).2) := by
  induction rs generalizing b with
  | nil => rfl
  | cons r rs ih => simp [fillEach, ih]

omit h in
theorem Condition.fill_joinTerms (conjunction : Conjunction) (b : Binder) (rs : List Rendered) :
    (joinWritten d conjunction (fillEach Rendered.fill b rs).1).map
        (·, (fillEach Rendered.fill b rs).2) =
      (joinTerms d conjunction rs).map (fillOption Rendered.fill b) := by
  rcases rs with _ | ⟨r, _ | ⟨r', rs⟩⟩
  · rfl
  · rfl
  -- Only two terms ask for the keyword, and a dialect may not have it.
  · have two : joinWritten d conjunction (fillEach Rendered.fill b (r :: r' :: rs)).1 = (do
        let keyword ← d.keyword conjunction
        return some ⟨s!" {keyword} ".intercalate
          ((fillEach Rendered.fill b (r :: r' :: rs)).1.map (·.text)),
          (fillEach Rendered.fill b (r :: r' :: rs)).1.length⟩) := rfl
    rw [two, joinTerms, length_fillEach]
    · cases d.keyword conjunction with
      | error e => rfl
      | ok keyword =>
        refine congrArg Except.ok ?_
        simp only [fillOption, Rendered.fill, Template.fill_join, Rendered.fillEach_templates]
    · simp
    · simp

section

set_option linter.unusedSectionVars false

mutual

theorem Condition.fills : ∀ x : Condition σ,
    Fills ((x.map f).write d) ((x.map g).render d) (fillOption Rendered.fill)
  | .compare operator column operands =>
    (Condition.fills_comparison h d operator column operands).map fun b t => rfl
  | .equal column operand =>
    (Operand.fills h d operand).map fun b t => by
      simp [fillOption, Rendered.fill, String.append_assoc]
  | .raw sql => .pure fun b => by simp [fillOption, Rendered.fill]
  | .query q => fun b => (h q).bind fun t => Fills.done (by simp [fillOption, Rendered.fill])
  | .group conjunction children => fun b =>
    (Condition.fills_each conjunction children).bind fun rs => by
      rw [Writing.result_ofExcept, Condition.fill_joinTerms]

theorem Condition.fills_each (parent : Conjunction) : ∀ xs : List (Condition σ),
    Fills (writeEach d parent (mapEach f xs)) (renderEach d parent (mapEach g xs))
      (fillEach Rendered.fill)
  | [] => .pure fun b => rfl
  | x :: xs => fun b =>
    (Condition.fills x).bind fun r? => (Condition.fills_each parent xs).bind fun rs => by
      refine Fills.done ?_
      cases r? with
      | none => simp [fillOption]
      | some r => simp [fillOption, fillEach, Condition.fill_nestedIn (f := f)]

end

end

theorem Condition.fills? (x : Condition σ) :
    Fills ((x.map f).write? d) ((x.map g).template? d) (fillOption fill) :=
  (Condition.fills h d x).map fun b r? => by cases r? <;> rfl

/-! ### Filters -/

namespace Filter

/-- What filling a rendered filter gives. -/
def fillEntry (b : Binder) (entry : Conjunction × Rendered) : (Conjunction × Written) × Binder :=
  ((entry.1, (entry.2.fill b).1), (entry.2.fill b).2)

omit h in
theorem fill_unit (b : Binder) (r : Rendered) :
    fill b (unit r) = (writtenUnit (r.fill b).1, (r.fill b).2) := by
  by_cases several : r.terms > 1
  · simp [unit, writtenUnit, Rendered.fill, several]
  · simp [unit, writtenUnit, Rendered.fill, several]

theorem fills (x : Filter σ) :
    Fills ((x.map f).write d) ((x.map g).render d) (fillOption fillEntry) :=
  (Condition.fills h d x.condition).map fun b r? => by cases r? <;> rfl

omit h in
theorem fill_continuation (b : Binder) (entry : Conjunction × Rendered) :
    (writtenContinuation d (fillEntry b entry).1).map (·, (fillEntry b entry).2) =
      (continuation d entry).map (fill b) := by
  simp only [writtenContinuation, continuation, fillEntry]
  cases d.keyword entry.1 with
  | error e => rfl
  | ok keyword =>
    refine congrArg Except.ok ?_
    simp [fill_unit]

omit h in
theorem fill_joinRendered (b : Binder) (entries : List (Conjunction × Rendered)) :
    (joinWritten d (fillEach fillEntry b entries).1).map (·, (fillEach fillEntry b entries).2) =
      (joinRendered d entries).map (fill b) := by
  rcases entries with _ | ⟨entry, _ | ⟨entry', entries⟩⟩
  · rfl
  · rfl
  -- The others start with the binder that the first leaves.
  · have rest := mapM_fillEach (fill_continuation d) (fillEntry b entry).2 (entry' :: entries)
    have several : joinWritten d (fillEach fillEntry b (entry :: entry' :: entries)).1 = (do
        let texts ← (fillEach fillEntry (fillEntry b entry).2 (entry' :: entries)).1.mapM
          (writtenContinuation d)
        return writtenUnit (fillEntry b entry).1.2 ++ String.join texts) := rfl
    rw [several, joinRendered]
    · refine bind_of_map rest fun ts texts hts => congrArg Except.ok ?_
      have first : fill b (unit entry.2) =
        (writtenUnit (fillEntry b entry).1.2, (fillEntry b entry).2) := fill_unit b entry.2
      simp only [Template.fill_append, first, Template.fill_flatten, hts]
      rfl
    · simp

theorem fills_list? (xs : List (Filter σ)) :
    Fills (writeList? d (xs.map (·.map f))) (listTemplate? d (xs.map (·.map g)))
      (fillOption fill) := by
  intro b
  simp only [writeList?, listTemplate?, List.mapM_map]
  refine (Fills.mapM xs fun x _ => Filter.fills h d x).bind fun rs => ?_
  have joined := fill_joinRendered d b (rs.filterMap id)
  simp only [fillEach_filterMap] at joined
  rw [Writing.result_bind, Writing.result_ofExcept, joined]
  cases joinRendered d (rs.filterMap id) with
  | error e => rfl
  | ok t =>
    refine Fills.done ?_
    -- A placeholder is never empty, so the binder does not decide whether there is a text.
    rw [Template.isEmpty_fill]
    by_cases blank : t.isBlank = true
    · simp [blank, fillOption, Template.fill_of_isBlank]
    · simp [blank, fillOption]

end Filter

/-! ### Joins, assignments and rows -/

theorem Join.fills_on (on? : Option (Condition σ)) :
    Fills (writeOn d (on?.map (·.map f))) (onTemplate d (on?.map (·.map g))) fill := by
  cases on? with
  | none => exact .pure fun b => rfl
  | some on =>
    intro b
    refine (Condition.fills? h d on).bind fun t? => ?_
    cases t? with
    | none => rfl
    | some t => exact Fills.done (by simp [fillOption])

theorem Join.fills (x : Join σ) : Fills ((x.map f).write d) ((x.map g).template d) fill := by
  intro b
  refine (fills_tableList h d x.tables).bind fun t => ?_
  refine (Join.fills_on h d x.on?).bind fun u => Fills.done ?_
  simp [Join.map, String.append_assoc]

theorem Assignment.fills (x : Assignment σ) :
    Fills ((x.map f).write d) ((x.map g).template d) fill := by
  cases x with
  | set column value =>
    exact (Operand.fills h d value).map fun b t => by simp [String.append_assoc]
  | raw sql => exact .pure fun b => by simp

theorem Assignment.fills_list (xs : List (Assignment σ)) :
    Fills (writeList d (xs.map (·.map f))) (listTemplate d (xs.map (·.map g))) fill := by
  cases xs with
  | nil => exact .throw _
  | cons x xs =>
    refine Fills.commas (w := ((x :: xs).map (·.map f)).mapM (·.write d)) ?_
    simp only [List.mapM_map]
    exact .mapM (x :: xs) fun x _ => Assignment.fills h d x

theorem Insertion.fills_row (xs : List (Operand σ)) :
    Fills (writeRow d (xs.map (·.map f))) (rowTemplate d (xs.map (·.map g))) fill :=
  (Operand.fills_list h d xs).map fun b t => by simp

theorem Insertion.fills (x : Insertion σ) :
    Fills ((x.map f).write d) ((x.map g).template d) fill := by
  cases x with
  | raw sql => exact .pure fun b => by simp
  | row cells =>
    simp only [Insertion.map, write, template, List.isEmpty_map]
    split
    · exact .pure fun b => by simp
    · intro b
      have row := Insertion.fills_row h d (cells.map Prod.snd)
      simp only [List.map_map, Function.comp_def] at row ⊢
      refine row.bind fun t => Fills.done ?_
      simp [String.append_assoc]
  | columns lists =>
    simp only [Insertion.map, write, template, List.isEmpty_map, Insertion.emptyColumn?_map]
    split
    · exact .pure fun b => by simp
    · cases emptyColumn? lists with
      | some column => exact .throw _
      | none =>
        intro b
        have rows := Fills.mapM (List.range (rowCount (lists.map Prod.snd))) fun i _ =>
          Insertion.fills_row h d (rowCells (lists.map Prod.snd) i)
        simp only [cells_map, rowCount_map, rowCells_map]
        refine rows.bind fun ts => Fills.done ?_
        simp [Template.fill_join, String.append_assoc, Function.comp_def]
  | query names q =>
    simp only [Insertion.map, write, template]
    intro b
    refine (h q).bind fun t => ?_
    split
    · exact Fills.done rfl
    · exact Fills.done (by simp [String.append_assoc])

/-! ### Statements -/

namespace Clauses

theorem fills_joins (xs : List (Join σ)) :
    Fills (writeJoins d (xs.map (·.map f))) (joinsTemplate d (xs.map (·.map g))) fill := by
  simp only [writeJoins, joinsTemplate, List.mapM_map]
  exact (Fills.mapM xs fun x _ => Join.fills h d x).map fun b ts => Template.fill_flatten b ts

theorem fills_groups (xs : List (Item σ)) :
    Fills (writeGroups d (xs.map (·.map f))) (groupsTemplate d (xs.map (·.map g))) fill := by
  cases xs with
  | nil => exact .pure fun b => rfl
  | cons x xs => exact (Item.fills_list h d (x :: xs)).map fun b t => by simp

theorem fills_filters (keyword : String) (xs : List (Filter σ)) :
    Fills (writeFilters d keyword (xs.map (·.map f)))
      (filtersTemplate d keyword (xs.map (·.map g))) fill := by
  intro b
  refine (Filter.fills_list? h d xs).bind fun t? => ?_
  cases t? with
  | none => rfl
  | some t => exact Fills.done (by simp [withKeyword, fillOption])

theorem fills (c : Clauses σ) : Fills ((c.map f).write d) ((c.map g).template d) fill := by
  obtain ⟨body, joins, filters, groups, havings, orders, limit?⟩ := c
  intro b
  cases body with
  | raw sql => exact Fills.done (by simp)
  | select tables columns options =>
    -- The clauses bind in the order in which they are written.
    refine (fills_selectList h d columns).bind fun columns => ?_
    refine (fills_tableList h d tables).bind fun tables => ?_
    refine (fills_joins h d joins).bind fun joins => ?_
    refine (fills_filters h d "WHERE" filters).bind fun filters => ?_
    refine (fills_groups h d groups).bind fun groups => ?_
    refine (fills_filters h d "HAVING" havings).bind fun havings => Fills.done ?_
    simp [tailTemplate, Clauses.map, String.append_assoc]
  | insert table rows options =>
    refine (Fills.same (options.rejectDistinct .insert)).bind fun _ => ?_
    refine (Insertion.fills h d rows).bind fun rows => Fills.done ?_
    simp [String.append_assoc]
  | update tables assignments options =>
    refine (Fills.same (options.rejectDistinct .update)).bind fun _ => ?_
    refine (fills_tableList h d tables).bind fun tables => ?_
    refine (fills_joins h d joins).bind fun joins => ?_
    refine (Assignment.fills_list h d assignments).bind fun assignments => ?_
    refine (fills_filters h d "WHERE" filters).bind fun filters => Fills.done ?_
    simp [tailTemplate, Clauses.map, String.append_assoc]
  | delete tables options =>
    refine (Fills.same (options.rejectDistinct .delete)).bind fun _ => ?_
    refine (fills_tableList h d tables).bind fun tables => ?_
    refine (fills_filters h d "WHERE" filters).bind fun filters => Fills.done ?_
    simp [tailTemplate, Clauses.map, String.append_assoc]

end Clauses

namespace Statement

omit h in
theorem fills (s : Statement) : Fills (s.write d) (s.template d) fill := by
  induction s using induct with
  | step c =>
    rw [write_of, template_of, Clauses.map_map, Clauses.map_map]
    exact Clauses.fills (fun q => q.property) d c

omit h in
/-- **Compiling fills the template.** -/
theorem compile_eq (b : Binder) (s : Statement) :
    s.compile d b = (s.template d).map (fill b) :=
  fills d s b

end Statement

end PolySql
