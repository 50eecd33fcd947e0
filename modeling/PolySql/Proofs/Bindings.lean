import PolySql.Proofs.Ensures
import PolySql.Proofs.Placeholders

/-!
# The values of a statement

`Statement.values` are the values a statement has to bind, in text order.  They are found by
recursion over the statement; no dialect and no binder is asked.
-/

namespace PolySql

/-! ### The values of clauses -/

def Item.values : Item (List Value) → List Value
  | .name _ | .raw _ => []
  | .query vs => vs

def Selectable.values (s : Selectable (List Value)) : List Value := s.item.values

namespace Operand

/-- A value is itself bound. -/
def values : Operand (List Value) → List Value
  | value v => [v]
  | raw _ | column _ => []
  | query vs => vs

/-- To the right of `IS` only a subquery binds anything. -/
def unboundValues : Operand (List Value) → List Value
  | value _ | raw _ | column _ => []
  | query vs => vs

end Operand

namespace Condition

mutual

def values : Condition (List Value) → List Value
  | compare operator _ operands =>
    if Operator.ofText? operator = some .is then operands.flatMap (·.unboundValues)
    else operands.flatMap (·.values)
  | equal _ operand => operand.values
  | raw _ => []
  | query vs => vs
  | group _ children => valuesEach children

def valuesEach : List (Condition (List Value)) → List Value
  | [] => []
  | c :: cs => c.values ++ valuesEach cs

end

end Condition

def Filter.values (filter : Filter (List Value)) : List Value := filter.condition.values

/-- The tables of a join stand before its condition. -/
def Join.values (join : Join (List Value)) : List Value :=
  join.tables.flatMap (·.values) ++ join.on?.elim [] (·.values)

def Assignment.values : Assignment (List Value) → List Value
  | set _ operand => operand.values
  | raw _ => []

/-- Row by row, and in a row column by column.  A list that is too short for a row gives its last
cell. -/
def Insertion.values : Insertion (List Value) → List Value
  | raw _ => []
  | row cells => cells.flatMap (·.2.values)
  | columns lists =>
    (List.range ((lists.map (·.2.length)).max?.getD 0)).flatMap fun i =>
      lists.flatMap fun (_, cells) =>
        (cells[min i (cells.length - 1)]?).elim [] (·.values)
  | query _ vs => vs

/-- Only the clauses that the kind of the statement has are looked at. -/
def Clauses.values (c : Clauses (List Value)) : List Value :=
  match c.body with
  | .raw _ => []
  | .select tables columns _ =>
    columns.flatMap (·.values) ++ tables.flatMap (·.values) ++ c.joins.flatMap (·.values) ++
      c.filters.flatMap (·.values) ++ c.groups.flatMap (·.values) ++ c.havings.flatMap (·.values)
  | .insert _ rows _ => rows.values
  | .update tables assignments _ =>
    tables.flatMap (·.values) ++ c.joins.flatMap (·.values) ++ assignments.flatMap (·.values) ++
      c.filters.flatMap (·.values)
  | .delete tables _ => tables.flatMap (·.values) ++ c.filters.flatMap (·.values)

/-- The values that a statement has to bind, in text order. -/
def Statement.values (s : Statement) : List Value := s.fold Clauses.values

theorem Statement.values_of (c : Clauses Statement) : (of c).values = (c.map values).values :=
  fold_of _ _

/-! ### The values of templates -/

namespace Template

@[simp] theorem values_nil : values [] = [] := rfl

@[simp] theorem values_text (s : String) (t : Template) : values (.text s :: t) = values t := rfl

@[simp] theorem values_slot (v : Value) (t : Template) :
    values (.slot v :: t) = v :: values t := rfl

@[simp] theorem values_parens (t : Template) : t.parens.values = t.values := by simp [parens]

@[simp] theorem values_join (separator : String) (ts : List Template) :
    (join separator ts).values = ts.flatMap values := by
  induction ts with
  | nil => rfl
  | cons t ts ih =>
    cases ts with
    | nil => simp [join]
    | cons u us => simpa [join, List.intercalate_cons_cons] using ih

@[simp] theorem values_flatten (ts : List Template) :
    values ts.flatten = ts.flatMap values := by
  induction ts with
  | nil => rfl
  | cons t ts ih => simp [ih]

theorem values_of_isBlank {t : Template} (h : t.isBlank = true) : t.values = [] := by
  induction t with
  | nil => rfl
  | cons piece t ih => cases piece <;> simp_all [isBlank]

end Template

/-! ### A rendering carries the values of what is rendered -/

variable {σ : Type} {g : σ → Rendering} {v : σ → List Value}
variable (h : ∀ q, Ensures (g q) (·.values = v q)) (d : Dialect)

theorem Template.ensures_commas {ι : Type} {r : ι → Rendering} {vs : ι → List Value} (xs : List ι)
    (h : ∀ x ∈ xs, Ensures (r x) (·.values = vs x)) :
    Ensures (return join ", " (← xs.mapM r)) (·.values = xs.flatMap vs) := by
  refine (Ensures.mapM_map xs h).bind fun ts hts => .ok ?_
  rw [values_join, List.flatMap_def, hts, List.flatMap_def]

include h

theorem Item.values_template (x : Item σ) :
    Ensures ((x.map g).template d) (·.values = (x.map v).values) := by
  cases x with
  | name n => exact .ok rfl
  | raw sql => exact .ok rfl
  | query q => exact (h q).map fun t ht => by simp [ht, Item.map, values]

theorem Selectable.values_template (x : Selectable σ) :
    Ensures ((x.map g).template d) (·.values = (x.map v).values) := by
  obtain ⟨item, _ | label⟩ := x
  · exact (Item.values_template h d item).bind fun t ht => .ok ht
  · exact (Item.values_template h d item).bind fun t ht => .ok (by
      simpa [Selectable.map, values] using ht)

theorem Item.values_listTemplate (xs : List (Item σ)) :
    Ensures (listTemplate d (xs.map (·.map g)))
      (·.values = (xs.map (·.map v)).flatMap (·.values)) := by
  simp only [listTemplate, List.mapM_map, List.flatMap_map]
  exact Template.ensures_commas xs fun x _ => Item.values_template h d x

theorem Selectable.values_listTemplate (xs : List (Selectable σ)) :
    Ensures (listTemplate d (xs.map (·.map g)))
      (·.values = (xs.map (·.map v)).flatMap (·.values)) := by
  simp only [listTemplate, List.mapM_map, List.flatMap_map]
  exact Template.ensures_commas xs fun x _ => Selectable.values_template h d x

theorem values_selectListTemplate (xs : List (Selectable σ)) :
    Ensures (selectListTemplate d (xs.map (·.map g)))
      (·.values = (xs.map (·.map v)).flatMap (·.values)) := by
  cases xs with
  | nil => exact .ok rfl
  | cons x xs => exact Selectable.values_listTemplate h d (x :: xs)

theorem values_tableListTemplate (xs : List (Selectable σ)) :
    Ensures (tableListTemplate d (xs.map (·.map g)))
      (·.values = (xs.map (·.map v)).flatMap (·.values)) := by
  cases xs with
  | nil => exact .error _
  | cons x xs => exact Selectable.values_listTemplate h d (x :: xs)

/-! ### Operands -/

theorem Operand.values_template (x : Operand σ) :
    Ensures ((x.map g).template d) (·.values = (x.map v).values) := by
  cases x with
  | value _ | raw _ | column _ => exact .ok rfl
  | query q => exact (h q).map fun t ht => by simp [ht, Operand.map, values]

theorem Operand.values_unboundTemplate (x : Operand σ) :
    Ensures ((x.map g).unboundTemplate d) (·.values = (x.map v).unboundValues) := by
  cases x with
  | value w =>
    cases w with
    | float x =>
      simp only [Operand.map, unboundTemplate]
      cases Value.floatText? x with
      | none => exact .error _
      | some text => exact .ok rfl
    | _ => exact .ok rfl
  | raw _ | column _ => exact .ok rfl
  | query q => exact (h q).map fun t ht => by simp [ht, Operand.map, unboundValues]

theorem Operand.values_listTemplate (xs : List (Operand σ)) :
    Ensures (listTemplate d (xs.map (·.map g)))
      (·.values = (xs.map (·.map v)).flatMap (·.values)) := by
  simp only [listTemplate, List.mapM_map, List.flatMap_map]
  exact Template.ensures_commas xs fun x _ => Operand.values_template h d x

/-! ### Conditions -/

theorem Condition.values_listTemplate (xs : List (Operand σ)) :
    Ensures (listTemplate d (xs.map (·.map g)))
      (·.values = (xs.map (·.map v)).flatMap (·.values)) := by
  have operands := Operand.values_listTemplate h d xs
  rcases xs with _ | ⟨x, _ | ⟨y, ys⟩⟩
  · exact operands
  · cases x with
    | query q =>
      intro t ht
      simpa [Operand.map, Operand.values] using h q t ht
    | value _ | raw _ | column _ => exact operands
  · cases x <;> exact operands

theorem Condition.values_comparisonTemplate (text column : String) (xs : List (Operand σ)) :
    Ensures (comparisonTemplate d text column (xs.map (·.map g)))
      (·.values = (compare text column (xs.map (·.map v))).values) := by
  simp only [comparisonTemplate, values]
  refine .known fun operator hop => ?_
  -- Only `IS` does not bind its operand, and it takes neither a list nor a range.
  simp only [Operator.ofText?_of_ofText hop, List.isEmpty_map, List.length_map, Option.some.injEq]
  split
  · next list =>
    simp only [Operator.ne_is_of_isList list, if_false]
    cases xs with
    | nil => exact .error _
    | cons x xs =>
      exact (Condition.values_listTemplate h d (x :: xs)).bind fun t ht => .ok (by simpa using ht)
  · split
    · next range =>
      simp only [Operator.ne_is_of_isRange range, if_false]
      rcases xs with _ | ⟨low, _ | ⟨high, _ | ⟨x, xs⟩⟩⟩
      · exact .error _
      · exact .error _
      · refine (Operand.values_template h d low).bind fun t ht => ?_
        refine (Operand.values_template h d high).bind fun u hu => .ok ?_
        simp [ht, hu]
      · exact .error _
    · rcases xs with _ | ⟨x, _ | ⟨y, xs⟩⟩
      · exact .error _
      · simp only [List.map_cons, List.map_nil]
        split
        · exact (Operand.values_unboundTemplate h d x).bind fun t ht => .ok (by simpa using ht)
        · exact (Operand.values_template h d x).bind fun t ht => .ok (by simpa using ht)
      · exact .error _

/-- The values of a rendered condition, if there is one. -/
def Rendered.values? (r? : Option Rendered) : List Value := r?.elim [] (·.template.values)

omit h in
theorem Condition.values_nestedIn (parent : Conjunction) (x : Condition σ) (r : Rendered) :
    (x.nestedIn parent r).template.values = r.template.values := by
  cases x with
  | group conjunction children =>
    simp only [nestedIn]
    split <;> simp
  | _ => rfl

omit h in
theorem Condition.values_joinTerms (conjunction : Conjunction) (rs : List Rendered) :
    Ensures (joinTerms d conjunction rs)
      (Rendered.values? · = rs.flatMap (·.template.values)) := by
  rcases rs with _ | ⟨r, _ | ⟨r', rs⟩⟩
  · exact .ok rfl
  · exact .ok (by simp [Rendered.values?])
  · rw [joinTerms]
    · exact .skip fun keyword => .ok (by simp [Rendered.values?, List.flatMap_map])
    · simp
    · simp

section

set_option linter.unusedSectionVars false

mutual

theorem Condition.values_render : ∀ x : Condition σ,
    Ensures ((x.map g).render d) (Rendered.values? · = (x.map v).values)
  | .compare operator column operands =>
    (Condition.values_comparisonTemplate h d operator column operands).bind fun t ht => .ok ht
  | .equal column operand =>
    (Operand.values_template h d operand).bind fun t ht => .ok (by
      simpa [Rendered.values?, Condition.map, values] using ht)
  | .raw sql => .ok rfl
  | .query q => (h q).bind fun t ht => .ok (by
      simpa [Rendered.values?, Condition.map, values] using ht)
  | .group conjunction children =>
    (Condition.values_renderEach conjunction children).bind fun rs hrs => by
      intro r? hr?
      rw [Condition.values_joinTerms d conjunction rs r? hr?, hrs]
      rfl

theorem Condition.values_renderEach (parent : Conjunction) : ∀ xs : List (Condition σ),
    Ensures (renderEach d parent (mapEach g xs))
      (·.flatMap (·.template.values) = valuesEach (mapEach v xs))
  | [] => .ok rfl
  | x :: xs =>
    (Condition.values_render x).bind fun r? hr? =>
      (Condition.values_renderEach parent xs).bind fun rs hrs => .ok (by
        rw [mapEach, valuesEach, ← hr?, ← hrs]
        cases r? with
        | none => rfl
        | some r => simp [Rendered.values?, Condition.values_nestedIn])

end

end

/-! ### Filters -/

namespace Filter

theorem values_render (x : Filter σ) :
    Ensures ((x.map g).render d)
      (fun term? => Rendered.values? (term?.map Prod.snd) = (x.map v).values) := by
  refine (Condition.values_render h d x.condition).bind fun r? hr? => .ok ?_
  cases r? <;> exact hr?

omit h in
theorem values_unit (r : Rendered) : (unit r).values = r.template.values := by
  unfold unit
  split <;> simp

omit h in
theorem values_joinRendered (entries : List (Conjunction × Rendered)) :
    Ensures (joinRendered d entries) (·.values = entries.flatMap (·.2.template.values)) := by
  rcases entries with _ | ⟨entry, _ | ⟨entry', entries⟩⟩
  · exact .ok rfl
  · exact .ok (by simp)
  · rw [joinRendered]
    · have rest : Ensures ((entry' :: entries).mapM (continuation d)) fun ts =>
          ts.map Template.values = (entry' :: entries).map (·.2.template.values) :=
        Ensures.mapM_map _ fun entry _ => .skip fun keyword => .ok (by simp [values_unit])
      refine rest.bind fun ts hts => .ok ?_
      rw [Template.values_append, Template.values_flatten, values_unit, List.flatMap_def, hts]
      simp [List.flatMap_def]
    · simp

omit h in
theorem values_filterMap (entries : List (Option (Conjunction × Rendered))) :
    (entries.filterMap id).flatMap (·.2.template.values) =
      (entries.map fun term? => Rendered.values? (term?.map Prod.snd)).flatten := by
  induction entries with
  | nil => rfl
  | cons term? entries ih => cases term? <;> simp_all [Rendered.values?]

theorem values_listTemplate? (xs : List (Filter σ)) :
    Ensures (listTemplate? d (xs.map (·.map g)))
      (fun t? => t?.elim [] Template.values = (xs.map (·.map v)).flatMap (·.values)) := by
  simp only [listTemplate?, List.mapM_map]
  refine (Ensures.mapM_map (v := fun x => (x.map v).values) xs
    fun x _ => values_render h d x).bind fun entries hentries => ?_
  refine (values_joinRendered d (entries.filterMap id)).bind fun t ht => .ok ?_
  rw [values_filterMap, hentries, ← List.flatMap_def] at ht
  rw [List.flatMap_map, ← ht]
  -- A blank text is left out, and it has no slot.
  by_cases blank : t.isBlank = true
  · simp [blank, Template.values_of_isBlank]
  · simp [blank]

end Filter

/-! ### Joins, assignments and rows -/

theorem Join.values_template (x : Join σ) :
    Ensures ((x.map g).template d) (·.values = (x.map v).values) := by
  refine (values_tableListTemplate h d x.tables).bind fun t ht => ?_
  obtain ⟨type, tables, _ | on⟩ := x
  · exact Ensures.bind (P := (·.values = [])) (.ok rfl) fun u hu => .ok (by
      simp_all [Join.map, Join.values])
  · refine Ensures.bind (P := (·.values = (on.map v).values)) ?_ fun u hu => .ok (by
      simp_all [Join.map, Join.values])
    refine Ensures.bind (P := fun t? => t?.elim [] Template.values = (on.map v).values) ?_
      fun t? ht? => ?_
    · refine (Condition.values_render h d on).bind fun r? hr? => .ok ?_
      cases r? <;> exact hr?
    · cases t? with
      | none => exact .ok ht?
      | some t => exact .ok (by simpa using ht?)

theorem Assignment.values_template (x : Assignment σ) :
    Ensures ((x.map g).template d) (·.values = (x.map v).values) := by
  cases x with
  | set column value =>
    exact (Operand.values_template h d value).bind fun t ht => .ok (by
      simpa [Assignment.map, values] using ht)
  | raw sql => exact .ok rfl

theorem Assignment.values_listTemplate (xs : List (Assignment σ)) :
    Ensures (listTemplate d (xs.map (·.map g)))
      (·.values = (xs.map (·.map v)).flatMap (·.values)) := by
  cases xs with
  | nil => exact .error _
  | cons x xs =>
    show Ensures (return Template.join ", " (← ((x :: xs).map (·.map g)).mapM (·.template d))) _
    simp only [List.mapM_map, List.flatMap_map]
    exact Template.ensures_commas (x :: xs) fun x _ => Assignment.values_template h d x

theorem Insertion.values_rowTemplate (xs : List (Operand σ)) :
    Ensures (rowTemplate d (xs.map (·.map g)))
      (·.values = (xs.map (·.map v)).flatMap (·.values)) :=
  (Operand.values_listTemplate h d xs).bind fun t ht => .ok (by simpa using ht)

omit h in
theorem Insertion.flatMap_rowCells {α β : Type} (k : Operand α → List β)
    (lists : List (List (Operand α))) (i : Nat) :
    (rowCells lists i).flatMap k = lists.flatMap fun cells => (cellAt? i cells).elim [] k := by
  induction lists with
  | nil => rfl
  | cons cells lists ih =>
    cases hc : cellAt? i cells <;> simp_all [rowCells]

omit h in
/-- The cells of the rows, row by row. -/
theorem Insertion.values_columns (lists : List (String × List (Operand (List Value)))) :
    (columns lists).values =
      (List.range (rowCount (lists.map Prod.snd))).flatMap fun i =>
        (rowCells (lists.map Prod.snd) i).flatMap (·.values) := by
  simp [values, rowCount, flatMap_rowCells, cellAt?, List.flatMap_map, Function.comp_def]

theorem Insertion.values_template (x : Insertion σ) :
    Ensures ((x.map g).template d) (·.values = (x.map v).values) := by
  cases x with
  | raw sql => exact .ok rfl
  | row cells =>
    simp only [Insertion.map, template, List.isEmpty_map]
    split
    · next empty =>
      obtain rfl : cells = [] := by simpa using empty
      exact .ok rfl
    · have row := Insertion.values_rowTemplate h d (cells.map Prod.snd)
      simp only [List.map_map, Function.comp_def] at row ⊢
      exact row.bind fun t ht => .ok (by simpa [values, List.flatMap_map] using ht)
  | columns lists =>
    simp only [Insertion.map, template, List.isEmpty_map, Insertion.emptyColumn?_map]
    split
    · next empty =>
      obtain rfl : lists = [] := by simpa using empty
      exact .ok rfl
    · cases emptyColumn? lists with
      | some column => exact .error _
      | none =>
        have rows := Ensures.mapM_map (List.range (rowCount (lists.map Prod.snd))) fun i _ =>
          Insertion.values_rowTemplate h d (rowCells (lists.map Prod.snd) i)
        -- The rows are laid out from cells that are picked from the lists, as the values are.
        simp only [cells_map, rowCount_map, rowCells_map]
        refine rows.bind fun ts hts => .ok ?_
        rw [values_columns, cells_map, rowCount_map]
        simp only [rowCells_map]
        simp [List.flatMap_def, hts]
  | query names q =>
    refine (h q).bind fun t ht => ?_
    split
    · exact .ok ht
    · exact .ok (by simpa [Insertion.map, values] using ht)

/-! ### Statements -/

namespace Clauses

theorem values_joinsTemplate (xs : List (Join σ)) :
    Ensures (joinsTemplate d (xs.map (·.map g)))
      (·.values = (xs.map (·.map v)).flatMap (·.values)) := by
  simp only [joinsTemplate, List.mapM_map]
  refine (Ensures.mapM_map xs fun x _ => Join.values_template h d x).bind fun ts hts => .ok ?_
  rw [Template.values_flatten, List.flatMap_def, hts, List.flatMap_map, List.flatMap_def]

theorem values_groupsTemplate (xs : List (Item σ)) :
    Ensures (groupsTemplate d (xs.map (·.map g)))
      (·.values = (xs.map (·.map v)).flatMap (·.values)) := by
  cases xs with
  | nil => exact .ok rfl
  | cons x xs =>
    exact (Item.values_listTemplate h d (x :: xs)).bind fun t ht => .ok (by simpa using ht)

theorem values_filtersTemplate (keyword : String) (xs : List (Filter σ)) :
    Ensures (filtersTemplate d keyword (xs.map (·.map g)))
      (·.values = (xs.map (·.map v)).flatMap (·.values)) := by
  refine (Filter.values_listTemplate? h d xs).bind fun t? ht? => .ok ?_
  cases t? with
  | none => exact ht?
  | some t => simpa [withKeyword] using ht?

theorem values_template (c : Clauses σ) :
    Ensures ((c.map g).template d) (·.values = (c.map v).values) := by
  obtain ⟨body, joins, filters, groups, havings, orders, limit?⟩ := c
  cases body with
  | raw sql => exact .ok rfl
  | select tables columns options =>
    refine (values_selectListTemplate h d columns).bind fun columns hcolumns => ?_
    refine (values_tableListTemplate h d tables).bind fun tables htables => ?_
    refine (values_joinsTemplate h d joins).bind fun joins hjoins => ?_
    refine (values_filtersTemplate h d "WHERE" filters).bind fun filters hfilters => ?_
    refine (values_groupsTemplate h d groups).bind fun groups hgroups => ?_
    refine (values_filtersTemplate h d "HAVING" havings).bind fun havings hhavings => .ok ?_
    simp [tailTemplate, Clauses.map, Body.map, values, *]
  | insert table rows options =>
    refine .skip fun _ => ?_
    refine (Insertion.values_template h d rows).bind fun rows hrows => .ok ?_
    simpa [Clauses.map, Body.map, values] using hrows
  | update tables assignments options =>
    refine .skip fun _ => ?_
    refine (values_tableListTemplate h d tables).bind fun tables htables => ?_
    refine (values_joinsTemplate h d joins).bind fun joins hjoins => ?_
    refine (Assignment.values_listTemplate h d assignments).bind fun assignments hassignments => ?_
    refine (values_filtersTemplate h d "WHERE" filters).bind fun filters hfilters => .ok ?_
    simp [tailTemplate, Clauses.map, Body.map, values, *]
  | delete tables options =>
    refine .skip fun _ => ?_
    refine (values_tableListTemplate h d tables).bind fun tables htables => ?_
    refine (values_filtersTemplate h d "WHERE" filters).bind fun filters hfilters => .ok ?_
    simp [tailTemplate, Clauses.map, Body.map, values, *]

end Clauses

omit h in
/-- The slots of a statement's template hold the values of the statement. -/
theorem Statement.values_template (s : Statement) :
    Ensures (s.template d) (·.values = s.values) := by
  induction s using induct with
  | step c =>
    rw [template_of, values_of, Clauses.map_map, Clauses.map_map]
    exact Clauses.values_template (fun q => q.property) d c

end PolySql
