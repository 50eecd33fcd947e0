import PolySql.Proofs.Induction
import PolySql.Proofs.Writing

/-!
# Values do not reach the text

A masked statement has a null wherever the statement has a value to bind; what stands to the right
of `IS` is left as it is, because it is written out.  A masked binder holds a null for each of its
values.

**Masking first or last is the same** (`Statement.compile_masked`): a masked statement compiles with
a masked binder to the text of the statement, to the masked binder of the statement, or to its
error.  So two statements that differ in values alone compile to one text and bind as many values,
under the same names (`Statement.compile_of_masked_eq`).
-/

namespace PolySql

/-! ### Masked clauses -/

namespace Operand

variable {σ τ : Type}

def masked : Operand σ → Operand σ
  | value _ => value .null
  | other => other

theorem map_masked (f : σ → τ) : ∀ x : Operand σ, x.masked.map f = (x.map f).masked
  | value _ | raw _ | column _ | query _ => rfl

end Operand

namespace Condition

variable {σ τ : Type}

mutual

/-- What stands to the right of `IS` is kept. -/
def masked : Condition σ → Condition σ
  | compare operator column operands =>
    compare operator column
      (if Operator.ofText? operator = some .is then operands else operands.map (·.masked))
  | equal column operand => equal column operand.masked
  | raw sql => raw sql
  | query q => query q
  | group conjunction children => group conjunction (maskedEach children)

def maskedEach : List (Condition σ) → List (Condition σ)
  | [] => []
  | c :: cs => c.masked :: maskedEach cs

end

mutual

theorem map_masked (f : σ → τ) : ∀ x : Condition σ, x.masked.map f = (x.map f).masked
  | compare operator column operands => by
    simp only [masked, map, compare.injEq, true_and]
    split <;> simp [Operand.map_masked]
  | equal _ _ => by simp [masked, map, Operand.map_masked]
  | raw _ | query _ => rfl
  | group _ children => by simp [masked, map, mapEach_masked f children]

theorem mapEach_masked (f : σ → τ) :
    ∀ xs : List (Condition σ), mapEach f (maskedEach xs) = maskedEach (mapEach f xs)
  | [] => rfl
  | x :: xs => by simp [maskedEach, mapEach, map_masked f x, mapEach_masked f xs]

end

end Condition

variable {σ τ : Type} (f : σ → τ)

def Filter.masked (x : Filter σ) : Filter σ := ⟨x.condition.masked, x.conjunction⟩

theorem Filter.map_masked (x : Filter σ) : x.masked.map f = (x.map f).masked := by
  simp [masked, map, Condition.map_masked]

def Join.masked (x : Join σ) : Join σ := ⟨x.type, x.tables, x.on?.map (·.masked)⟩

theorem Join.map_masked (x : Join σ) : x.masked.map f = (x.map f).masked := by
  simp [masked, map, Function.comp_def, Condition.map_masked]

def Assignment.masked : Assignment σ → Assignment σ
  | set column value => set column value.masked
  | raw sql => raw sql

theorem Assignment.map_masked : ∀ x : Assignment σ, x.masked.map f = (x.map f).masked
  | set _ _ | raw _ => by simp [masked, map, Operand.map_masked]

def Insertion.masked : Insertion σ → Insertion σ
  | raw sql => raw sql
  | row cells => row (cells.map fun (column, cell) => (column, cell.masked))
  | columns lists => columns (lists.map fun (column, cells) => (column, cells.map (·.masked)))
  | query names q => query names q

theorem Insertion.map_masked : ∀ x : Insertion σ, x.masked.map f = (x.map f).masked
  | raw _ | row _ | columns _ | query _ _ => by simp [masked, map, Operand.map_masked]

def Body.masked : Body σ → Body σ
  | .insert table rows options => .insert table rows.masked options
  | .update tables assignments options =>
    .update tables (assignments.map (·.masked)) options
  | other => other

theorem Body.map_masked : ∀ x : Body σ, x.masked.map f = (x.map f).masked
  | .raw _ | .select _ _ _ | .insert _ _ _ | .update _ _ _ | .delete _ _ => by
    simp [masked, map, Insertion.map_masked, Assignment.map_masked]

namespace Clauses

def masked (c : Clauses σ) : Clauses σ where
  body := c.body.masked
  joins := c.joins.map (·.masked)
  filters := c.filters.map (·.masked)
  groups := c.groups
  havings := c.havings.map (·.masked)
  orders := c.orders
  limit? := c.limit?

theorem map_masked (c : Clauses σ) : c.masked.map f = (c.map f).masked := by
  simp [masked, map, Body.map_masked, Join.map_masked, Filter.map_masked]

end Clauses

/-- The statement with nulls for the values it binds, and its subqueries likewise. -/
def Statement.masked (s : Statement) : Statement := s.fold fun c => of c.masked

theorem Statement.masked_of (c : Clauses Statement) :
    (of c).masked = of (c.map masked).masked :=
  fold_of _ _

/-! ### Masked templates and binders -/

def Piece.masked : Piece → Piece
  | .text s => .text s
  | .slot _ => .slot .null

namespace Template

def masked (t : Template) : Template := t.map Piece.masked

@[simp] theorem masked_nil : masked [] = [] := rfl

@[simp] theorem masked_text (s : String) (t : Template) :
    masked (.text s :: t) = .text s :: masked t := rfl

@[simp] theorem masked_slot (v : Value) (t : Template) :
    masked (.slot v :: t) = .slot .null :: masked t := rfl

@[simp] theorem masked_append (t u : Template) : masked (t ++ u) = masked t ++ masked u :=
  List.map_append

@[simp] theorem masked_parens (t : Template) : t.parens.masked = t.masked.parens := by
  simp [parens]

@[simp] theorem masked_flatten (ts : List Template) :
    masked ts.flatten = (ts.map masked).flatten :=
  List.map_flatten

@[simp] theorem masked_join (separator : String) (ts : List Template) :
    (join separator ts).masked = join separator (ts.map masked) := by
  induction ts with
  | nil => rfl
  | cons t ts ih =>
    cases ts with
    | nil => simp [join]
    | cons u us => simpa [join, List.intercalate_cons_cons] using ih

@[simp] theorem isBlank_masked (t : Template) : t.masked.isBlank = t.isBlank := by
  induction t with
  | nil => rfl
  | cons piece t ih => cases piece <;> simp_all [isBlank]

end Template

namespace Binder

/-- The binder with nulls for its values. -/
def masked : Binder → Binder
  | positional values => positional (values.map fun _ => .null)
  | named marker values => named marker ⟨values.entries.map fun (name, _) => (name, .null)⟩

@[simp] theorem masked_fresh (mode : ParamMode) (marker : Char) :
    (fresh mode marker).masked = fresh mode marker := by
  cases mode <;> rfl

/-- The placeholder is the same for every value. -/
theorem bind_masked (b : Binder) (v : Value) :
    b.masked.bind .null = ((b.bind v).1, (b.bind v).2.masked) := by
  cases b with
  | positional values => simp [masked, bind]
  | named marker values =>
    obtain ⟨entries⟩ := values
    -- An entry finds its place by its name.
    have insert (name : String) :
        OrderedMap.insertEntry name .null (entries.map fun (name, _) => (name, Value.null)) =
          (OrderedMap.insertEntry name v entries).map fun (name, _) => (name, .null) := by
      induction entries with
      | nil => rfl
      | cons entry entries ih =>
        by_cases same : name = entry.1 <;> simp [OrderedMap.insertEntry, same, ih]
    simp [masked, bind, OrderedMap.insert, OrderedMap.size, insert]

end Binder

/-- A masked template is filled as the template is. -/
theorem Template.fill_masked (b : Binder) (t : Template) :
    fill b.masked t.masked = ((fill b t).1, (fill b t).2.masked) := by
  induction t generalizing b with
  | nil => rfl
  | cons piece t ih =>
    cases piece with
    | text s => simp [fill, ih]
    | slot v => simp [fill, ih, b.bind_masked v]

/-! ### A masked rendering -/

/-- What `k` makes of the result of `r` is the result of `r'`, and their errors are the same. -/
def Mirrors {α β : Type} (k : α → β) (r : Except CompileError α) (r' : Except CompileError β) :
    Prop :=
  r.map k = r'

namespace Mirrors

variable {α β γ δ ι : Type} {k : α → β} {l : γ → δ}
variable {r : Except CompileError α} {r' : Except CompileError β}

theorem ok {a : α} {b : β} (h : k a = b) : Mirrors k (.ok a) (.ok b) := congrArg Except.ok h

theorem error (e : CompileError) : Mirrors k (.error e) (.error e) := rfl

theorem bind {m : α → Except CompileError γ} {m' : β → Except CompileError δ} (h : Mirrors k r r')
    (hm : ∀ a, Mirrors l (m a) (m' (k a))) : Mirrors l (r >>= m) (r' >>= m') := by
  subst h
  cases r with
  | error e => rfl
  | ok a => exact hm a

/-- A part that has nothing to mask. -/
theorem same {m : α → Except CompileError γ} {m' : α → Except CompileError δ}
    (hm : ∀ a, r = .ok a → Mirrors l (m a) (m' a)) : Mirrors l (r >>= m) (r >>= m') := by
  cases r with
  | error e => rfl
  | ok a => exact hm a rfl

theorem mapM {m : ι → Except CompileError α} {m' : ι → Except CompileError β} (xs : List ι)
    (h : ∀ x ∈ xs, Mirrors k (m x) (m' x)) : Mirrors (List.map k) (xs.mapM m) (xs.mapM m') := by
  induction xs with
  | nil => rfl
  | cons x xs ih =>
    rw [List.mapM_cons, List.mapM_cons]
    refine (h x (by simp)).bind fun a => ?_
    exact (ih fun y hy => h y (by simp [hy])).bind fun as => .ok rfl

end Mirrors

/-- The template of the rendering is masked. -/
def Rendering.masked (r : Rendering) : Rendering := r.map Template.masked

theorem Rendering.mirrors (r : Rendering) : Mirrors Template.masked r r.masked := rfl

variable (d : Dialect)

theorem Template.mirrors_commas {ι : Type} {r r' : ι → Rendering} (xs : List ι)
    (h : ∀ x ∈ xs, Mirrors Template.masked (r x) (r' x)) :
    Mirrors Template.masked (return join ", " (← xs.mapM r)) (return join ", " (← xs.mapM r')) :=
  (Mirrors.mapM xs h).bind fun ts => .ok (by simp)

theorem Template.mirrors_parens (r : Rendering) :
    Mirrors Template.masked (r.map parens) (r.masked.map parens) := by
  cases r with
  | error e => rfl
  | ok t => exact .ok (masked_parens t)

/-! ### Items -/

theorem Item.mirrors : ∀ x : Item Rendering,
    Mirrors Template.masked (x.template d) ((x.map (·.masked)).template d)
  | .name _ | .raw _ => .ok rfl
  | .query q => Template.mirrors_parens q

theorem Selectable.mirrors (x : Selectable Rendering) :
    Mirrors Template.masked (x.template d) ((x.map (·.masked)).template d) := by
  obtain ⟨item, _ | label⟩ := x
  · exact (Item.mirrors d item).bind fun t => .ok rfl
  · exact (Item.mirrors d item).bind fun t => .ok (by simp)

theorem Item.mirrors_list (xs : List (Item Rendering)) :
    Mirrors Template.masked (listTemplate d xs) (listTemplate d (xs.map (·.map (·.masked)))) := by
  simp only [listTemplate, List.mapM_map]
  exact Template.mirrors_commas xs fun x _ => Item.mirrors d x

theorem Selectable.mirrors_list (xs : List (Selectable Rendering)) :
    Mirrors Template.masked (listTemplate d xs) (listTemplate d (xs.map (·.map (·.masked)))) := by
  simp only [listTemplate, List.mapM_map]
  exact Template.mirrors_commas xs fun x _ => Selectable.mirrors d x

theorem mirrors_selectList : ∀ xs : List (Selectable Rendering),
    Mirrors Template.masked (selectListTemplate d xs)
      (selectListTemplate d (xs.map (·.map (·.masked))))
  | [] => .ok rfl
  | x :: xs => Selectable.mirrors_list d (x :: xs)

theorem mirrors_tableList : ∀ xs : List (Selectable Rendering),
    Mirrors Template.masked (tableListTemplate d xs)
      (tableListTemplate d (xs.map (·.map (·.masked))))
  | [] => .error _
  | x :: xs => Selectable.mirrors_list d (x :: xs)

/-! ### Operands -/

theorem Operand.mirrors : ∀ x : Operand Rendering,
    Mirrors Template.masked (x.template d) ((x.masked.map (·.masked)).template d)
  | .value _ | .raw _ | .column _ => .ok rfl
  | .query q => Template.mirrors_parens q

/-- What `IS` writes out is text. -/
theorem Operand.mirrors_unbound : ∀ x : Operand Rendering,
    Mirrors Template.masked (x.unboundTemplate d) ((x.map (·.masked)).unboundTemplate d)
  | .value (.float x) => by
    simp only [Operand.map, unboundTemplate]
    cases Value.floatText? x with
    | none => exact .error _
    | some text => exact .ok rfl
  | .value .null | .value (.bool _) | .value (.int _) | .value (.text _) => .ok rfl
  | .raw _ | .column _ => .ok rfl
  | .query q => Template.mirrors_parens q

theorem Operand.mirrors_list (xs : List (Operand Rendering)) :
    Mirrors Template.masked (listTemplate d xs)
      (listTemplate d ((xs.map (·.masked)).map (·.map (·.masked)))) := by
  simp only [listTemplate, List.mapM_map]
  exact Template.mirrors_commas xs fun x _ => Operand.mirrors d x

/-! ### Conditions -/

def Rendered.masked (r : Rendered) : Rendered := ⟨r.template.masked, r.terms⟩

namespace Condition

theorem mirrors_list (xs : List (Operand Rendering)) :
    Mirrors Template.masked (listTemplate d xs)
      (listTemplate d ((xs.map (·.masked)).map (·.map (·.masked)))) := by
  have operands := Operand.mirrors_list d xs
  rcases xs with _ | ⟨x, _ | ⟨y, ys⟩⟩
  · exact operands
  · cases x with
    | query q => exact q.mirrors
    | value _ | raw _ | column _ => exact operands
  · cases x <;> exact operands

/-- The operator decides whether the values are bound, and it is not masked. -/
theorem mirrors_comparison (text column : String) (xs : List (Operand Rendering)) :
    Mirrors Template.masked (comparisonTemplate d text column xs)
      (comparisonTemplate d text column
        ((if Operator.ofText? text = some .is then xs else xs.map (·.masked)).map
          (·.map (·.masked)))) := by
  -- The operator is looked at before the operands, and masking leaves it.
  refine Mirrors.same fun operator hop => ?_
  simp only [Operator.ofText?_of_ofText hop, Option.some.injEq, List.isEmpty_map, List.length_map]
  split
  · next list =>
    simp only [Operator.ne_is_of_isList list, if_false]
    cases xs with
    | nil => exact .error _
    | cons x xs => exact (mirrors_list d (x :: xs)).bind fun t => .ok (by simp)
  · split
    · next range =>
      simp only [Operator.ne_is_of_isRange range, if_false, List.length_map]
      rcases xs with _ | ⟨low, _ | ⟨high, _ | ⟨x, xs⟩⟩⟩
      · exact .error _
      · exact .error _
      · refine (Operand.mirrors d low).bind fun t => ?_
        exact (Operand.mirrors d high).bind fun u => .ok (by simp)
      · exact .error _
    · by_cases is : operator = .is
      · simp only [is, if_true]
        rcases xs with _ | ⟨x, _ | ⟨y, xs⟩⟩
        · exact .error _
        · exact (Operand.mirrors_unbound d x).bind fun t => .ok (by simp)
        · exact .error _
      · simp only [is, if_false, List.length_map]
        rcases xs with _ | ⟨x, _ | ⟨y, xs⟩⟩
        · exact .error _
        · exact (Operand.mirrors d x).bind fun t => .ok (by simp)
        · exact .error _

theorem masked_nestedIn (parent : Conjunction) (x : Condition Rendering) (r : Rendered) :
    (x.nestedIn parent r).masked = (x.masked.map Rendering.masked).nestedIn parent r.masked := by
  cases x with
  | group conjunction children =>
    simp only [nestedIn, masked, map]
    by_cases wrapped : r.terms > 1 ∧ parent.needsParens conjunction = true
    · have wrapped' : r.masked.terms > 1 ∧ parent.needsParens conjunction = true := wrapped
      rw [if_pos wrapped, if_pos wrapped']
      simp [Rendered.masked]
    · have wrapped' : ¬(r.masked.terms > 1 ∧ parent.needsParens conjunction = true) := wrapped
      rw [if_neg wrapped, if_neg wrapped']
  | _ => rfl

theorem mirrors_joinTerms (conjunction : Conjunction) (rs : List Rendered) :
    Mirrors (Option.map (·.masked)) (joinTerms d conjunction rs)
      (joinTerms d conjunction (rs.map (·.masked))) := by
  rcases rs with _ | ⟨r, _ | ⟨r', rs⟩⟩
  · exact .ok rfl
  · exact .ok rfl
  · simp only [List.map_cons, joinTerms]
    exact .same fun keyword _ => .ok (by simp [Rendered.masked, Function.comp_def])

mutual

theorem mirrors : ∀ x : Condition Rendering,
    Mirrors (Option.map (·.masked)) (x.render d) ((x.masked.map (·.masked)).render d)
  | compare operator column operands =>
    (mirrors_comparison d operator column operands).bind fun t => .ok rfl
  | equal column operand =>
    (Operand.mirrors d operand).bind fun t => .ok (by simp [Rendered.masked])
  | raw sql => .ok rfl
  | query q => q.mirrors.bind fun t => .ok (by simp [Rendered.masked])
  | group conjunction children =>
    (mirrors_each conjunction children).bind fun rs => mirrors_joinTerms d conjunction rs

theorem mirrors_each (parent : Conjunction) : ∀ xs : List (Condition Rendering),
    Mirrors (List.map (·.masked)) (renderEach d parent xs)
      (renderEach d parent (mapEach (·.masked) (maskedEach xs)))
  | [] => .ok rfl
  | x :: xs =>
    (mirrors x).bind fun r? => (mirrors_each parent xs).bind fun rs => .ok (by
      cases r? <;> simp [masked_nestedIn])

end

theorem mirrors_alone (x : Condition Rendering) :
    Mirrors (Option.map Template.masked) (x.template? d)
      ((x.masked.map (·.masked)).template? d) :=
  (mirrors d x).bind fun r? => .ok (by cases r? <;> rfl)

end Condition

/-! ### Filters -/

namespace Filter

theorem mirrors (x : Filter Rendering) :
    Mirrors (Option.map (Prod.map id Rendered.masked)) (x.render d)
      ((x.masked.map (·.masked)).render d) :=
  (Condition.mirrors d x.condition).bind fun r? => .ok (by cases r? <;> rfl)

theorem masked_unit (r : Rendered) : (unit r).masked = unit r.masked := by
  unfold unit
  by_cases several : r.terms > 1
  · rw [if_pos several, if_pos (show r.masked.terms > 1 from several)]
    exact Template.masked_parens r.template
  · rw [if_neg several, if_neg (show ¬r.masked.terms > 1 from several)]
    rfl

theorem mirrors_joinRendered (entries : List (Conjunction × Rendered)) :
    Mirrors Template.masked (joinRendered d entries)
      (joinRendered d (entries.map (Prod.map id Rendered.masked))) := by
  rcases entries with _ | ⟨entry, _ | ⟨entry', entries⟩⟩
  · exact .ok rfl
  · exact .ok rfl
  · have rest : Mirrors (List.map Template.masked) ((entry' :: entries).mapM (continuation d))
        (((entry' :: entries).map (Prod.map id Rendered.masked)).mapM (continuation d)) := by
      rw [List.mapM_map]
      exact .mapM _ fun entry _ => .same fun keyword _ => .ok (by simp [masked_unit])
    exact rest.bind fun ts => .ok (by simp [masked_unit])

/-- Whether anything is written does not depend on the values. -/
theorem mirrors_list? (xs : List (Filter Rendering)) :
    Mirrors (Option.map Template.masked) (listTemplate? d xs)
      (listTemplate? d ((xs.map (·.masked)).map (·.map (·.masked)))) := by
  simp only [listTemplate?, List.mapM_map]
  refine (Mirrors.mapM xs fun x _ => mirrors d x).bind fun entries => ?_
  have written : (entries.map (Option.map (Prod.map id Rendered.masked))).filterMap id =
      (entries.filterMap id).map (Prod.map id Rendered.masked) := by
    simp [List.filterMap_map, List.map_filterMap]
  rw [written]
  exact (mirrors_joinRendered d _).bind fun t => .ok (by
    by_cases blank : t.isBlank = true <;> simp [blank])

end Filter

/-! ### Joins, assignments and rows -/

theorem Join.mirrors_on : ∀ on? : Option (Condition Rendering),
    Mirrors Template.masked (onTemplate d on?)
      (onTemplate d ((on?.map (·.masked)).map (·.map (·.masked))))
  | none => .ok rfl
  | some on => (Condition.mirrors_alone d on).bind fun t? => by
    cases t? with
    | none => exact .ok rfl
    | some t => exact .ok (by simp)

theorem Join.mirrors (x : Join Rendering) :
    Mirrors Template.masked (x.template d) ((x.masked.map (·.masked)).template d) := by
  refine (mirrors_tableList d x.tables).bind fun t => ?_
  exact (mirrors_on d x.on?).bind fun u => .ok (by simp [masked, map])

theorem Assignment.mirrors : ∀ x : Assignment Rendering,
    Mirrors Template.masked (x.template d) ((x.masked.map (·.masked)).template d)
  | set column value => (Operand.mirrors d value).bind fun t => .ok (by simp)
  | raw _ => .ok rfl

theorem Assignment.mirrors_list : ∀ xs : List (Assignment Rendering),
    Mirrors Template.masked (listTemplate d xs)
      (listTemplate d ((xs.map (·.masked)).map (·.map (·.masked))))
  | [] => .error _
  | x :: xs => by
    show Mirrors _ (return Template.join ", " (← (x :: xs).mapM (·.template d)))
      (return Template.join ", " (←
        (((x :: xs).map (·.masked)).map (·.map (·.masked))).mapM (·.template d)))
    simp only [List.mapM_map]
    exact Template.mirrors_commas (x :: xs) fun x _ => Assignment.mirrors d x

namespace Insertion

theorem mirrors_row (xs : List (Operand Rendering)) :
    Mirrors Template.masked (rowTemplate d xs)
      (rowTemplate d ((xs.map (·.masked)).map (·.map (·.masked)))) :=
  (Operand.mirrors_list d xs).bind fun t => .ok (Template.masked_parens t)

theorem mirrors (x : Insertion Rendering) :
    Mirrors Template.masked (x.template d) ((x.masked.map (·.masked)).template d) := by
  cases x with
  | raw sql => exact .ok rfl
  | row cells =>
    have row := mirrors_row d (cells.map Prod.snd)
    simp only [masked, map, template, List.isEmpty_map, List.map_map, Function.comp_def] at row ⊢
    split
    · exact .ok rfl
    · exact row.bind fun t => .ok (by simp)
  | columns lists =>
    simp only [masked, map, template, List.isEmpty_map, emptyColumn?_map]
    split
    · exact .ok rfl
    · cases emptyColumn? lists with
      | some column => exact .error _
      | none =>
        simp only [cells_map, rowCount_map, rowCells_map]
        have rows := Mirrors.mapM (List.range (rowCount (lists.map Prod.snd))) fun i _ =>
          mirrors_row d (rowCells (lists.map Prod.snd) i)
        exact rows.bind fun ts => .ok (by simp [Function.comp_def])
  | query names q =>
    refine q.mirrors.bind fun t => ?_
    split
    · exact .ok rfl
    · exact .ok (by simp)

end Insertion

/-! ### Statements -/

namespace Clauses

theorem mirrors_joins (xs : List (Join Rendering)) :
    Mirrors Template.masked (joinsTemplate d xs)
      (joinsTemplate d ((xs.map (·.masked)).map (·.map (·.masked)))) := by
  simp only [joinsTemplate, List.mapM_map]
  exact (Mirrors.mapM xs fun x _ => Join.mirrors d x).bind fun ts => .ok (by simp)

theorem mirrors_groups : ∀ xs : List (Item Rendering),
    Mirrors Template.masked (groupsTemplate d xs) (groupsTemplate d (xs.map (·.map (·.masked))))
  | [] => .ok rfl
  | x :: xs => (Item.mirrors_list d (x :: xs)).bind fun t => .ok (by simp)

theorem mirrors_filters (keyword : String) (xs : List (Filter Rendering)) :
    Mirrors Template.masked (filtersTemplate d keyword xs)
      (filtersTemplate d keyword ((xs.map (·.masked)).map (·.map (·.masked)))) :=
  (Filter.mirrors_list? d xs).bind fun t? => .ok (by cases t? <;> simp [withKeyword])

theorem mirrors (c : Clauses Rendering) :
    Mirrors Template.masked (c.template d) ((c.masked.map (·.masked)).template d) := by
  obtain ⟨body, joins, filters, groups, havings, orders, limit?⟩ := c
  cases body with
  | raw sql => exact .ok rfl
  | select tables columns options =>
    refine (mirrors_selectList d columns).bind fun columns => ?_
    refine (mirrors_tableList d tables).bind fun tables => ?_
    refine (mirrors_joins d joins).bind fun joins => ?_
    refine (mirrors_filters d "WHERE" filters).bind fun filters => ?_
    refine (mirrors_groups d groups).bind fun groups => ?_
    refine (mirrors_filters d "HAVING" havings).bind fun havings => .ok ?_
    simp [masked, map, tailTemplate]
  | insert table rows options =>
    refine .same fun _ _ => ?_
    exact (Insertion.mirrors d rows).bind fun rows => .ok (by simp)
  | update tables assignments options =>
    refine .same fun _ _ => ?_
    refine (mirrors_tableList d tables).bind fun tables => ?_
    refine (mirrors_joins d joins).bind fun joins => ?_
    refine (Assignment.mirrors_list d assignments).bind fun assignments => ?_
    refine (mirrors_filters d "WHERE" filters).bind fun filters => .ok ?_
    simp [masked, map, tailTemplate]
  | delete tables options =>
    refine .same fun _ _ => ?_
    refine (mirrors_tableList d tables).bind fun tables => ?_
    refine (mirrors_filters d "WHERE" filters).bind fun filters => .ok ?_
    simp [masked, map, tailTemplate]

end Clauses

namespace Statement

/-- The template of a masked statement is the masked template. -/
theorem template_masked (s : Statement) : s.masked.template d = (s.template d).masked := by
  induction s using induct with
  | step c =>
    rw [masked_of, template_of, template_of, Clauses.map_map, Clauses.map_masked,
      Clauses.map_map, Clauses.map_map]
    have inner : template d ∘ masked ∘ Subtype.val =
        Rendering.masked ∘ template d ∘
          (Subtype.val : {s // s.masked.template d = (s.template d).masked} → Statement) :=
      funext fun q => q.property
    -- The subqueries are masked already, so masking the clauses is what is left.
    rw [inner, ← Clauses.map_map, ← Clauses.map_masked]
    exact (Clauses.mirrors d _).symm

/-- **A masked statement is compiled with a masked binder as the statement is with the binder.** -/
theorem compile_masked (b : Binder) (s : Statement) :
    s.masked.compile d b.masked =
      (s.compile d b).map fun (text, b) => (text, b.masked) := by
  rw [compile_eq, compile_eq, template_masked]
  cases s.template d with
  | error e => rfl
  | ok t => exact congrArg Except.ok (Template.fill_masked b t)

end Statement

/-! ### Statements that differ in values -/

/-- The names of the parameters, if they have names. -/
def Params.names : Params → List String
  | positional _ => []
  | named values => values.keys

namespace Binder

theorem size_params_masked (b : Binder) : b.masked.params.size = b.params.size := by
  cases b <;> simp [masked, params, Params.size, Params.values, OrderedMap.values]

theorem names_params_masked (b : Binder) : b.masked.params.names = b.params.names := by
  cases b <;> simp [masked, params, Params.names, OrderedMap.keys, Function.comp_def]

end Binder

namespace Statement

open Binder

/-- **Values do not reach the text.**  Two statements with the same masked statement differ in the
values they bind and in nothing else.  They have the same text and parameters of the same names, or
the same error. -/
theorem compile_of_masked_eq {s s' : Statement} (h : s.masked = s'.masked) (mode : ParamMode)
    (marker : Char) :
    (∃ e, s.compile d (fresh mode marker) = .error e ∧
      s'.compile d (fresh mode marker) = .error e) ∨
    ∃ text b b', s.compile d (fresh mode marker) = .ok (text, b) ∧
      s'.compile d (fresh mode marker) = .ok (text, b') ∧
      b.params.size = b'.params.size ∧ b.params.names = b'.params.names := by
  have left := compile_masked d (fresh mode marker) s
  have right := compile_masked d (fresh mode marker) s'
  -- One masked result for both, so they fail together or have one text.
  rw [h, right] at left
  cases hs : s.compile d (fresh mode marker) with
  | error e =>
    cases hs' : s'.compile d (fresh mode marker) with
    | error e' =>
      obtain rfl : e' = e := by simpa [hs, hs', Except.map] using left
      exact .inl ⟨e', rfl, rfl⟩
    | ok result' => simp [hs, hs', Except.map] at left
  | ok result =>
    cases hs' : s'.compile d (fresh mode marker) with
    | error e' => simp [hs, hs', Except.map] at left
    | ok result' =>
      obtain ⟨text, b⟩ := result
      obtain ⟨text', b'⟩ := result'
      obtain ⟨rfl, same⟩ : text' = text ∧ b'.masked = b.masked := by
        simpa [hs, hs', Except.map] using left
      refine .inr ⟨text', b, b', rfl, rfl, ?_, ?_⟩
      · rw [← size_params_masked, ← same, size_params_masked]
      · rw [← names_params_masked, ← same, names_params_masked]

/-- In the second statement a text with a quote stands for a number, and a null for another. -/
theorem compile_of_masked_eq_update :
    let update (v w : Value) : Statement :=
      of { Clauses.ofBody (.update [.plain (.name "t")] [.set "a" (.value v)] .none) with
        filters := [⟨.isIn "b" [.query (of
          { Clauses.ofBody (.select [.plain (.name "u")] [] .none) with
            filters := [⟨.equal "c" (.value w), .and⟩, ⟨.isNull "d", .and⟩] })], .and⟩] }
    let s := update (.int 1) (.int 2)
    let s' := update (.text "'; --") .null
    s.masked = s'.masked ∧
      ∃ text b b', s.compile .mysql (fresh .named ':') = .ok (text, b) ∧
        s'.compile .mysql (fresh .named ':') = .ok (text, b') ∧
        b.params.size = b'.params.size ∧ b.params.names = b'.params.names := by
  intro update s s'
  have same : s.masked = s'.masked := rfl
  rcases compile_of_masked_eq .mysql same .named ':' with ⟨e, failed, -⟩ | compiled
  · nomatch failed
  · exact ⟨same, compiled⟩

end Statement

end PolySql
