import PolySql.Proofs.Ensures
import PolySql.Proofs.Operators
import PolySql.Proofs.Succeeds
import PolySql.Proofs.Writing

/-!
# Well-formed statements

A statement is well-formed (`Statement.WellFormed`) if nothing that its layout writes is missing or
out of place: lists that may not be empty, operators and the number of their operands, conjunctions
that the dialect has.  Clauses that the layout passes over are not looked at.

**A statement compiles exactly if it is well-formed** (`Statement.compile_succeeds_iff`), whatever
the binder.
-/

namespace PolySql

/-! ### The parts of a statement -/

/-- The dialect can join conditions so: `XOR` is known to one dialect. -/
def Dialect.Knows (d : Dialect) (conjunction : Conjunction) : Prop :=
  d = mysql ∨ conjunction ≠ .xor

/-- Where a subquery stands, its well-formedness does here. -/
def Item.WellFormed : Item Prop → Prop
  | .name _ | .raw _ => True
  | .query q => q

def Selectable.WellFormed (s : Selectable Prop) : Prop := s.item.WellFormed

/-- A list of tables needs one. -/
def TablesWellFormed (tables : List (Selectable Prop)) : Prop :=
  tables ≠ [] ∧ ∀ x ∈ tables, x.WellFormed

namespace Operand

def WellFormed : Operand Prop → Prop
  | value _ | raw _ | column _ => True
  | query q => q

/-- To the right of `IS` a number has to be finite. -/
def WellFormedUnbound : Operand Prop → Prop
  | value (.float x) => Decimal.isFinite x = true
  | other => other.WellFormed

end Operand

/-- The operands are as many as the operator takes, and well-formed. -/
def Operator.Takes (operator : Operator) (operands : List (Operand Prop)) : Prop :=
  (if operator.isList then 1 ≤ operands.length
    else operands.length = if operator.isRange then 2 else 1) ∧
  ∀ x ∈ operands, if operator = .is then x.WellFormedUnbound else x.WellFormed

namespace Condition

mutual

def WellFormed (d : Dialect) : Condition Prop → Prop
  | compare text _ operands =>
    ∃ operator : Operator, operator.Names text ∧ operator.Takes operands
  | equal _ operand => operand.WellFormed
  | raw _ => True
  | query q => q
  | group conjunction children => EachWellFormed d children ∧
      (1 < (children.filter (!·.isEmpty)).length → d.Knows conjunction)

def EachWellFormed (d : Dialect) : List (Condition Prop) → Prop
  | [] => True
  | c :: cs => c.WellFormed d ∧ EachWellFormed d cs

end

end Condition

/-- The dialect has the conjunctions that are written.  None is before the first condition. -/
def FiltersWellFormed (d : Dialect) (filters : List (Filter Prop)) : Prop :=
  (∀ x ∈ filters, x.condition.WellFormed d) ∧
    ∀ x ∈ (filters.filter (!·.condition.isEmpty)).tail, d.Knows x.conjunction

def Join.WellFormed (d : Dialect) (join : Join Prop) : Prop :=
  TablesWellFormed join.tables ∧ ∀ on ∈ join.on?, on.WellFormed d

def Assignment.WellFormed : Assignment Prop → Prop
  | set _ value => value.WellFormed
  | raw _ => True

/-- A column that is given by its cells needs one. -/
def Insertion.WellFormed : Insertion Prop → Prop
  | raw _ => True
  | row cells => ∀ x ∈ cells, x.2.WellFormed
  | columns lists => ∀ list ∈ lists, list.2 ≠ [] ∧ ∀ x ∈ list.2, x.WellFormed
  | query _ q => q

def Clauses.WellFormed (d : Dialect) (c : Clauses Prop) : Prop :=
  match c.body with
  | .raw _ => True
  | .select tables columns _ =>
    (∀ x ∈ columns, x.WellFormed) ∧ TablesWellFormed tables ∧ (∀ x ∈ c.joins, x.WellFormed d) ∧
      FiltersWellFormed d c.filters ∧ (∀ x ∈ c.groups, x.WellFormed) ∧
      FiltersWellFormed d c.havings
  | .insert _ rows options => options.distinct = false ∧ rows.WellFormed
  | .update tables assignments options =>
    options.distinct = false ∧ TablesWellFormed tables ∧ (∀ x ∈ c.joins, x.WellFormed d) ∧
      (assignments ≠ [] ∧ ∀ x ∈ assignments, x.WellFormed) ∧ FiltersWellFormed d c.filters
  | .delete tables options =>
    options.distinct = false ∧ TablesWellFormed tables ∧ FiltersWellFormed d c.filters

/-- Nothing is missing or out of place. -/
def Statement.WellFormed (d : Dialect) (s : Statement) : Prop := s.fold (Clauses.WellFormed d)

theorem Statement.wellFormed_of (d : Dialect) (c : Clauses Statement) :
    (of c).WellFormed d = (c.map (WellFormed d)).WellFormed d :=
  fold_of _ _

/-! ### What is written of a condition -/

namespace Condition

variable {σ τ : Type} {d : Dialect}

theorem length_filter_mapEach (f : σ → τ) (xs : List (Condition σ)) :
    ((mapEach f xs).filter (!·.isEmpty)).length = (xs.filter (!·.isEmpty)).length := by
  induction xs with
  | nil => rfl
  | cons x xs ih =>
    rw [mapEach, List.filter_cons, List.filter_cons, isEmpty_map]
    split <;> simp [ih]

theorem allEmpty_eq (xs : List (Condition σ)) :
    allEmpty xs = (xs.filter (!·.isEmpty)).isEmpty := by
  induction xs with
  | nil => rfl
  | cons x xs ih => cases h : x.isEmpty <;> simp [allEmpty, h, ih]

theorem joinTerms_shape (conjunction : Conjunction) (terms : List Rendered) :
    Ensures (joinTerms d conjunction terms) (·.isSome = !terms.isEmpty) := by
  rcases terms with _ | ⟨term, _ | ⟨term', terms⟩⟩
  · exact .ok rfl
  · exact .ok rfl
  · exact .skip fun keyword => .ok rfl

mutual

/-- A condition is written unless it is empty. -/
theorem render_shape : ∀ x : Condition Rendering,
    Ensures (x.render d) (·.isSome = !x.isEmpty)
  | compare _ _ _ => .skip fun _ => .ok rfl
  | equal _ _ => .skip fun _ => .ok rfl
  | raw _ => .ok rfl
  | query _ => .skip fun _ => .ok rfl
  | group conjunction children => (renderEach_shape conjunction children).bind fun terms count => by
    have empty : terms.isEmpty = allEmpty children := by
      rw [allEmpty_eq, Bool.eq_iff_iff, List.isEmpty_iff_length_eq_zero,
        List.isEmpty_iff_length_eq_zero, count]
    rw [isEmpty, ← empty]
    exact joinTerms_shape conjunction terms

/-- As many terms are written as there are conditions that are not empty. -/
theorem renderEach_shape (parent : Conjunction) : ∀ xs : List (Condition Rendering),
    Ensures (renderEach d parent xs) (·.length = (xs.filter (!·.isEmpty)).length)
  | [] => .ok rfl
  | x :: xs => (render_shape x).bind fun r? shape => (renderEach_shape parent xs).bind
    fun rs count => .ok (by
      cases r? <;> cases h : x.isEmpty <;> simp_all)

end

end Condition

/-! ### A clause succeeds if it is well-formed -/

variable {σ : Type} {g : σ → Rendering} {p : σ → Prop}
variable (h : ∀ q, SucceedsIff (g q) (p q)) (d : Dialect)

include h

theorem Item.succeeds_template (x : Item σ) :
    SucceedsIff ((x.map g).template d) (x.map p).WellFormed := by
  cases x with
  | name n => exact .ok _
  | raw sql => exact .ok _
  | query q => exact (h q).map

theorem Selectable.succeeds_template (x : Selectable σ) :
    SucceedsIff ((x.map g).template d) (x.map p).WellFormed := by
  obtain ⟨item, _ | label⟩ := x
  · exact (Item.succeeds_template h d item).last
  · exact (Item.succeeds_template h d item).last

theorem Item.succeeds_listTemplate (xs : List (Item σ)) :
    SucceedsIff (listTemplate d (xs.map (·.map g))) (∀ x ∈ xs.map (·.map p), x.WellFormed) := by
  simp only [listTemplate, List.mapM_map, List.forall_mem_map]
  exact (SucceedsIff.mapM xs fun x _ => Item.succeeds_template h d x).last

theorem Selectable.succeeds_listTemplate (xs : List (Selectable σ)) :
    SucceedsIff (listTemplate d (xs.map (·.map g))) (∀ x ∈ xs.map (·.map p), x.WellFormed) := by
  simp only [listTemplate, List.mapM_map, List.forall_mem_map]
  exact (SucceedsIff.mapM xs fun x _ => Selectable.succeeds_template h d x).last

theorem succeeds_selectListTemplate (xs : List (Selectable σ)) :
    SucceedsIff (selectListTemplate d (xs.map (·.map g)))
      (∀ x ∈ xs.map (·.map p), x.WellFormed) := by
  cases xs with
  | nil => exact (SucceedsIff.ok _).congr (by simp)
  | cons x xs => exact Selectable.succeeds_listTemplate h d (x :: xs)

theorem succeeds_tableListTemplate (xs : List (Selectable σ)) :
    SucceedsIff (tableListTemplate d (xs.map (·.map g)))
      (TablesWellFormed (xs.map (·.map p))) := by
  cases xs with
  | nil => exact (SucceedsIff.error _).congr (by simp [TablesWellFormed])
  | cons x xs =>
    exact (Selectable.succeeds_listTemplate h d (x :: xs)).congr (by simp [TablesWellFormed])

/-! ### Operands -/

theorem Operand.succeeds_template (x : Operand σ) :
    SucceedsIff ((x.map g).template d) (x.map p).WellFormed := by
  cases x with
  | value v => exact .ok _
  | raw sql => exact .ok _
  | column n => exact .ok _
  | query q => exact (h q).map

theorem Operand.succeeds_unboundTemplate (x : Operand σ) :
    SucceedsIff ((x.map g).unboundTemplate d) (x.map p).WellFormedUnbound := by
  cases x with
  | value v =>
    cases v with
    | float x =>
      simp only [Operand.map, unboundTemplate, WellFormedUnbound, Value.floatText?,
        Decimal.Layout.text?]
      cases finite : Decimal.isFinite x with
      | true => exact (SucceedsIff.ok _).congr (by simp)
      | false => exact (SucceedsIff.error _).congr (by simp)
    | _ => exact .ok _
  | raw sql => exact .ok _
  | column n => exact .ok _
  | query q => exact (h q).map

theorem Operand.succeeds_listTemplate (xs : List (Operand σ)) :
    SucceedsIff (listTemplate d (xs.map (·.map g))) (∀ x ∈ xs.map (·.map p), x.WellFormed) := by
  simp only [listTemplate, List.mapM_map, List.forall_mem_map]
  exact (SucceedsIff.mapM xs fun x _ => Operand.succeeds_template h d x).last

/-! ### Conditions -/

theorem Condition.succeeds_listTemplate (xs : List (Operand σ)) :
    SucceedsIff (listTemplate d (xs.map (·.map g))) (∀ x ∈ xs.map (·.map p), x.WellFormed) := by
  have operands := Operand.succeeds_listTemplate h d xs
  rcases xs with _ | ⟨x, _ | ⟨y, ys⟩⟩
  · exact operands
  · cases x with
    | query q => exact (h q).congr (by simp [Operand.map, Operand.WellFormed])
    | value _ | raw _ | column _ => exact operands
  · cases x <;> exact operands

omit h in
theorem Operator.succeeds_ofText (text : String) :
    SucceedsIff (ofText text) (∃ operator : Operator, operator.Names text) := by
  unfold ofText
  cases known : ofText? text with
  | none =>
    refine (SucceedsIff.error _).congr ⟨nofun, fun ⟨operator, names⟩ => ?_⟩
    rw [ofText?_eq_some_iff.2 names] at known
    nomatch known
  | some operator =>
    have names := ofText?_eq_some_iff.1 known
    exact (SucceedsIff.ok _).congr ⟨fun _ => ⟨operator, names⟩, fun _ => trivial⟩

omit h in
/-- What some operator with the words of the text has, the operator of the text has. -/
theorem Operator.exists_names_iff {operator : Operator} {text : String} (h : operator.Names text)
    (P : Operator → Prop) : (∃ other : Operator, other.Names text ∧ P other) ↔ P operator := by
  constructor
  · rintro ⟨other, names, has⟩
    rw [← ofText?_eq_some_iff] at h names
    obtain rfl := Option.some.inj (names.symm.trans h)
    exact has
  · intro has
    exact ⟨operator, h, has⟩

theorem Condition.succeeds_comparisonTemplate (text column : String) (xs : List (Operand σ)) :
    SucceedsIff (comparisonTemplate d text column (xs.map (·.map g)))
      (∃ operator : Operator, operator.Names text ∧ operator.Takes (xs.map (·.map p))) := by
  refine ((Operator.succeeds_ofText text).bind fun operator found => ?_).congr
    ⟨And.right, fun named => ⟨named.imp fun _ => And.left, named⟩⟩
  have names := Operator.ofText?_eq_some_iff.1 (Operator.ofText?_of_ofText found)
  refine SucceedsIff.congr ?_ (Operator.exists_names_iff names _).symm
  simp only [List.isEmpty_map, List.length_map, Operator.Takes]
  split
  · next list =>
    cases xs with
    | nil => exact (SucceedsIff.error _).congr (by simp)
    | cons x xs =>
      refine (Condition.succeeds_listTemplate h d (x :: xs)).last.congr ?_
      simp [Operator.ne_is_of_isList list]
  · split
    · next range =>
      rcases xs with _ | ⟨low, _ | ⟨high, _ | ⟨x, xs⟩⟩⟩
      · exact (SucceedsIff.error _).congr (by simp)
      · exact (SucceedsIff.error _).congr (by simp)
      · refine ((Operand.succeeds_template h d low).bind fun t _ =>
          (Operand.succeeds_template h d high).last).congr ?_
        simp [Operator.ne_is_of_isRange range]
      · exact (SucceedsIff.error _).congr (by simp)
    · rcases xs with _ | ⟨x, _ | ⟨y, xs⟩⟩
      · exact (SucceedsIff.error _).congr (by simp)
      · simp only [List.map_cons, List.map_nil]
        split
        · next is => exact (Operand.succeeds_unboundTemplate h d x).last.congr (by simp)
        · next is => exact (Operand.succeeds_template h d x).last.congr (by simp)
      · exact (SucceedsIff.error _).congr (by simp)

omit h in
theorem Dialect.succeeds_keyword (conjunction : Conjunction) :
    SucceedsIff (d.keyword conjunction) (d.Knows conjunction) := by
  cases d <;> cases conjunction <;>
    first
    | exact (SucceedsIff.ok _).congr (by simp [Knows])
    | exact (SucceedsIff.error _).congr (by simp [Knows])

omit h in
/-- A keyword is needed between two terms, not before. -/
theorem Condition.succeeds_joinTerms (conjunction : Conjunction) (terms : List Rendered) :
    SucceedsIff (joinTerms d conjunction terms) (1 < terms.length → d.Knows conjunction) := by
  rcases terms with _ | ⟨term, _ | ⟨term', terms⟩⟩
  · exact (SucceedsIff.ok _).congr (by simp)
  · exact (SucceedsIff.ok _).congr (by simp)
  · exact (d.succeeds_keyword conjunction).last.congr (by simp)

section

set_option linter.unusedSectionVars false

mutual

theorem Condition.succeeds_render : ∀ x : Condition σ,
    SucceedsIff ((x.map g).render d) ((x.map p).WellFormed d)
  | .compare operator column operands =>
    (Condition.succeeds_comparisonTemplate h d operator column operands).last
  | .equal _ operand => (Operand.succeeds_template h d operand).last
  | .raw _ => .ok _
  | .query q => (h q).last
  | .group conjunction children => by
    refine (Condition.succeeds_renderEach conjunction children).bind fun terms rendered => ?_
    have count := renderEach_shape conjunction _ terms rendered
    rw [length_filter_mapEach] at count ⊢
    rw [← count]
    exact Condition.succeeds_joinTerms d conjunction terms

theorem Condition.succeeds_renderEach (parent : Conjunction) : ∀ xs : List (Condition σ),
    SucceedsIff (renderEach d parent (mapEach g xs)) (EachWellFormed d (mapEach p xs))
  | [] => .ok _
  | x :: xs =>
    (Condition.succeeds_render x).bind fun _ _ => (Condition.succeeds_renderEach parent xs).last

end

end

/-! ### Filters -/

namespace Filter

omit h in
theorem map_fst_render (x : Filter Rendering) :
    Ensures (x.render d)
      (·.map Prod.fst = if x.condition.isEmpty then none else some x.conjunction) :=
  (Condition.render_shape x.condition).bind fun r? shape => .ok (by
    cases r? <;> cases hx : x.condition.isEmpty <;> simp_all)

omit h in
/-- The conjunctions that are written are those of the filters that are not empty. -/
theorem map_fst_filterMap_render (xs : List (Filter Rendering)) :
    Ensures (xs.mapM (·.render d)) fun rs => (rs.filterMap id).map Prod.fst =
      (xs.filter (!·.condition.isEmpty)).map (·.conjunction) := by
  intro rs rendered
  have each := Ensures.mapM_map xs (fun x _ => map_fst_render d x) rs rendered
  calc (rs.filterMap id).map Prod.fst
      = (rs.map (·.map Prod.fst)).filterMap id := by
        simp [List.map_filterMap, List.filterMap_map]
    _ = (xs.filter (!·.condition.isEmpty)).map (·.conjunction) := by
        rw [each, List.filterMap_map, ← List.filterMap_eq_map, List.filterMap_filter]
        refine congrArg (List.filterMap · xs) (funext fun x => ?_)
        cases hx : x.condition.isEmpty <;> simp [hx]

omit h in
theorem succeeds_joinRendered (entries : List (Conjunction × Rendered)) :
    SucceedsIff (joinRendered d entries) (∀ entry ∈ entries.tail, d.Knows entry.1) := by
  rcases entries with _ | ⟨entry, _ | ⟨entry', entries⟩⟩
  · exact (SucceedsIff.ok _).congr (by simp)
  · exact (SucceedsIff.ok _).congr (by simp)
  · exact (SucceedsIff.mapM _ fun entry _ => (d.succeeds_keyword entry.1).last).last

theorem succeeds_listTemplate? (xs : List (Filter σ)) :
    SucceedsIff (listTemplate? d (xs.map (·.map g))) (FiltersWellFormed d (xs.map (·.map p))) := by
  have each : SucceedsIff ((xs.map (·.map g)).mapM (·.render d))
      (∀ x ∈ xs.map (·.map p), x.condition.WellFormed d) := by
    simp only [List.mapM_map, List.forall_mem_map]
    exact .mapM xs fun x _ => (Condition.succeeds_render h d x.condition).last
  refine each.bind fun rs rendered => ?_
  have conjunctions := map_fst_filterMap_render d _ rs rendered
  refine (succeeds_joinRendered d (rs.filterMap id)).last.congr ?_
  calc (∀ entry ∈ (rs.filterMap id).tail, d.Knows entry.1)
      ↔ ∀ c ∈ ((rs.filterMap id).map Prod.fst).tail, d.Knows c := by
        rw [← List.map_tail, List.forall_mem_map]
    _ ↔ ∀ x ∈ ((xs.map (·.map p)).filter (!·.condition.isEmpty)).tail, d.Knows x.conjunction := by
        rw [conjunctions, ← List.map_tail, List.forall_mem_map]
        simp [List.filter_map, ← List.map_tail, Function.comp_def, Filter.map]

end Filter

/-! ### Joins, assignments and rows -/

theorem Join.succeeds_onTemplate (on? : Option (Condition σ)) :
    SucceedsIff (onTemplate d (on?.map (·.map g)))
      (∀ on ∈ on?.map (·.map p), on.WellFormed d) := by
  cases on? with
  | none => exact (SucceedsIff.ok _).congr (by simp)
  | some on =>
    have condition : SucceedsIff ((on.map g).template? d) ((on.map p).WellFormed d) :=
      (Condition.succeeds_render h d on).last
    refine (condition.bind (Q := True) fun t? _ => ?_).congr (by simp)
    cases t? <;> exact .ok _

theorem Join.succeeds_template (x : Join σ) :
    SucceedsIff ((x.map g).template d) ((x.map p).WellFormed d) :=
  (succeeds_tableListTemplate h d x.tables).bind fun _ _ =>
    (Join.succeeds_onTemplate h d x.on?).last

theorem Assignment.succeeds_template (x : Assignment σ) :
    SucceedsIff ((x.map g).template d) (x.map p).WellFormed := by
  cases x with
  | set column value => exact (Operand.succeeds_template h d value).last
  | raw sql => exact .ok _

theorem Assignment.succeeds_listTemplate (xs : List (Assignment σ)) :
    SucceedsIff (listTemplate d (xs.map (·.map g)))
      (xs.map (·.map p) ≠ [] ∧ ∀ x ∈ xs.map (·.map p), x.WellFormed) := by
  cases xs with
  | nil => exact (SucceedsIff.error _).congr (by simp)
  | cons x xs =>
    have each : SucceedsIff (((x :: xs).map (·.map g)).mapM (·.template d))
        (∀ y ∈ (x :: xs).map (·.map p), y.WellFormed) := by
      simp only [List.mapM_map, List.forall_mem_map]
      exact .mapM (x :: xs) fun y _ => Assignment.succeeds_template h d y
    exact each.last.congr (by simp)

namespace Insertion

omit h in
/-- What the cells of all rows have, the cells of all lists have. -/
theorem forall_mem_rowCells_iff (P : Operand σ → Prop) {lists : List (List (Operand σ))} :
    (∀ i ∈ List.range (rowCount lists), ∀ x ∈ rowCells lists i, P x) ↔
      ∀ cells ∈ lists, ∀ x ∈ cells, P x := by
  constructor
  · intro rows cells list x cell
    obtain ⟨i, inside, row⟩ := exists_mem_rowCells list cell
    exact rows i (List.mem_range.2 inside) x row
  · intro cells i _ x row
    obtain ⟨list, hlist, cell⟩ := mem_of_mem_rowCells row
    exact cells list hlist x cell

theorem succeeds_rowTemplate (xs : List (Operand σ)) :
    SucceedsIff (rowTemplate d (xs.map (·.map g))) (∀ x ∈ xs.map (·.map p), x.WellFormed) :=
  (Operand.succeeds_listTemplate h d xs).last

theorem succeeds_template (x : Insertion σ) :
    SucceedsIff ((x.map g).template d) (x.map p).WellFormed := by
  cases x with
  | raw sql => exact .ok _
  | row cells =>
    have row := succeeds_rowTemplate h d (cells.map Prod.snd)
    simp only [Insertion.map, template, List.isEmpty_map, WellFormed, List.map_map,
      Function.comp_def] at row ⊢
    split
    · next none => exact (SucceedsIff.ok _).congr (by simp_all)
    · exact row.last.congr (by simp only [List.forall_mem_map])
  | columns lists =>
    simp only [Insertion.map, template, List.isEmpty_map, Insertion.emptyColumn?_map, WellFormed]
    split
    · next none => exact (SucceedsIff.ok _).congr (by simp_all)
    · cases empty : emptyColumn? lists with
      | some column =>
        have unfilled : ¬ ∀ list ∈ lists, list.2 ≠ [] := fun filled => by
          simp [emptyColumn?_eq_none_iff.2 filled] at empty
        refine (SucceedsIff.error _).congr ⟨False.elim, fun well => unfilled fun list hlist => ?_⟩
        simpa using (well _ (List.mem_map_of_mem hlist)).1
      | none =>
        have filled := emptyColumn?_eq_none_iff.1 empty
        simp only [cells_map, rowCount_map, rowCells_map]
        refine (SucceedsIff.mapM _ fun i _ => succeeds_rowTemplate h d _).last.congr ?_
        simp only [List.forall_mem_map]
        rw [forall_mem_rowCells_iff fun x => (x.map p).WellFormed]
        simp only [List.forall_mem_map, ne_eq, List.map_eq_nil_iff]
        exact ⟨fun well list hlist => ⟨filled list hlist, well list hlist⟩,
          fun well list hlist => (well list hlist).2⟩
  | query names q =>
    refine ((h q).bind (Q := True) fun t _ => ?_).congr (by simp [Insertion.map, WellFormed])
    split <;> exact .ok _

end Insertion

/-! ### Statements -/

namespace Clauses

theorem succeeds_joinsTemplate (xs : List (Join σ)) :
    SucceedsIff (joinsTemplate d (xs.map (·.map g))) (∀ x ∈ xs.map (·.map p), x.WellFormed d) := by
  simp only [joinsTemplate, List.mapM_map, List.forall_mem_map]
  exact (SucceedsIff.mapM xs fun x _ => Join.succeeds_template h d x).last

theorem succeeds_groupsTemplate (xs : List (Item σ)) :
    SucceedsIff (groupsTemplate d (xs.map (·.map g))) (∀ x ∈ xs.map (·.map p), x.WellFormed) := by
  cases xs with
  | nil => exact (SucceedsIff.ok _).congr (by simp)
  | cons x xs => exact (Item.succeeds_listTemplate h d (x :: xs)).last

theorem succeeds_filtersTemplate (keyword : String) (xs : List (Filter σ)) :
    SucceedsIff (filtersTemplate d keyword (xs.map (·.map g)))
      (FiltersWellFormed d (xs.map (·.map p))) :=
  (Filter.succeeds_listTemplate? h d xs).last

omit h in
theorem succeeds_rejectDistinct (options : Options) (kind : StatementKind) :
    SucceedsIff (options.rejectDistinct kind) (options.distinct = false) := by
  unfold Options.rejectDistinct
  split
  · next distinct => exact (SucceedsIff.error _).congr (by simp [distinct])
  · next plain => exact (SucceedsIff.ok _).congr (by simp [plain])

theorem succeeds_template (c : Clauses σ) :
    SucceedsIff ((c.map g).template d) ((c.map p).WellFormed d) := by
  obtain ⟨body, joins, filters, groups, havings, orders, limit?⟩ := c
  cases body with
  | raw sql => exact .ok _
  | select tables columns options =>
    refine (succeeds_selectListTemplate h d columns).bind fun columns _ => ?_
    refine (succeeds_tableListTemplate h d tables).bind fun tables _ => ?_
    refine (succeeds_joinsTemplate h d joins).bind fun joins _ => ?_
    refine (succeeds_filtersTemplate h d "WHERE" filters).bind fun filters _ => ?_
    refine (succeeds_groupsTemplate h d groups).bind fun groups _ => ?_
    exact (succeeds_filtersTemplate h d "HAVING" havings).last
  | insert table rows options =>
    refine (succeeds_rejectDistinct options .insert).bind fun _ _ => ?_
    exact (Insertion.succeeds_template h d rows).last
  | update tables assignments options =>
    refine (succeeds_rejectDistinct options .update).bind fun _ _ => ?_
    refine (succeeds_tableListTemplate h d tables).bind fun tables _ => ?_
    refine (succeeds_joinsTemplate h d joins).bind fun joins _ => ?_
    refine (Assignment.succeeds_listTemplate h d assignments).bind fun assignments _ => ?_
    exact (succeeds_filtersTemplate h d "WHERE" filters).last
  | delete tables options =>
    refine (succeeds_rejectDistinct options .delete).bind fun _ _ => ?_
    refine (succeeds_tableListTemplate h d tables).bind fun tables _ => ?_
    exact (succeeds_filtersTemplate h d "WHERE" filters).last

end Clauses

namespace Statement

omit h in
/-- A statement has a template exactly if it is well-formed. -/
theorem succeeds_template (s : Statement) : SucceedsIff (s.template d) (s.WellFormed d) := by
  induction s using induct with
  | step c =>
    rw [template_of, wellFormed_of, Clauses.map_map, Clauses.map_map]
    exact Clauses.succeeds_template (fun q => q.property) d c

omit h in
/-- **A statement compiles exactly if it is well-formed**, whatever the binder. -/
theorem compile_succeeds_iff (b : Binder) (s : Statement) :
    (∃ text b', s.compile d b = .ok (text, b')) ↔ s.WellFormed d := by
  have compiled : SucceedsIff (s.compile d b) (s.WellFormed d) := by
    rw [compile_eq]
    exact (succeeds_template d s).map
  simpa only [SucceedsIff, Prod.exists] using compiled

end Statement

end PolySql
