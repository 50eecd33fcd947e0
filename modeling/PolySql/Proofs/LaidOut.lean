import PolySql.Proofs.Layout
import PolySql.Statement.Compile

/-!
# Statements are laid out

**Every rendering of a statement is laid out** (`Clauses.laid_template`).  There is one lemma for
each clause, and nothing is asked of the subqueries: what their templates are is known from the
clause (`Renders`).  `Clauses.enclosed` are the subqueries that are written in parentheses.
-/

namespace PolySql

/-! ### The subqueries in parentheses -/

section Enclosed

variable {σ : Type}

def Item.enclosed : Item σ → List σ
  | .name _ | .raw _ => []
  | .query q => [q]

def Selectable.enclosed (s : Selectable σ) : List σ := s.item.enclosed

def Operand.enclosed : Operand σ → List σ
  | .value _ | .raw _ | .column _ => []
  | .query q => [q]

namespace Condition

mutual

def enclosed : Condition σ → List σ
  | compare _ _ operands => operands.flatMap (·.enclosed)
  | equal _ operand => operand.enclosed
  | raw _ => []
  | query q => [q]
  | group _ children => enclosedEach children

def enclosedEach : List (Condition σ) → List σ
  | [] => []
  | c :: cs => c.enclosed ++ enclosedEach cs

end

end Condition

def Filter.enclosed (filter : Filter σ) : List σ := filter.condition.enclosed

def Join.enclosed (join : Join σ) : List σ :=
  join.tables.flatMap (·.enclosed) ++ join.on?.elim [] (·.enclosed)

def Assignment.enclosed : Assignment σ → List σ
  | set _ value => value.enclosed
  | raw _ => []

/-- The query that gives the rows is not in parentheses. -/
def Insertion.enclosed : Insertion σ → List σ
  | raw _ | query _ _ => []
  | row cells => cells.flatMap (·.2.enclosed)
  | columns lists => lists.flatMap (·.2.flatMap (·.enclosed))

def Clauses.enclosed (c : Clauses σ) : List σ :=
  match c.body with
  | .raw _ => []
  | .select tables columns _ =>
    columns.flatMap (·.enclosed) ++ tables.flatMap (·.enclosed) ++ c.joins.flatMap (·.enclosed) ++
      c.filters.flatMap (·.enclosed) ++ c.groups.flatMap (·.enclosed) ++
      c.havings.flatMap (·.enclosed)
  | .insert _ rows _ => rows.enclosed
  | .update tables assignments _ =>
    tables.flatMap (·.enclosed) ++ c.joins.flatMap (·.enclosed) ++
      assignments.flatMap (·.enclosed) ++ c.filters.flatMap (·.enclosed)
  | .delete tables _ => tables.flatMap (·.enclosed) ++ c.filters.flatMap (·.enclosed)

end Enclosed

/-! ### Items -/

variable {σ : Type} {g : σ → Rendering} {w : σ → List Wording} {W : Wording → Prop} {d : Dialect}

/-- The template of the subquery, whose wordings `W` holds of. -/
def Renders (g : σ → Rendering) (w : σ → List Wording) (W : Wording → Prop) (q : σ)
    (t : Template) : Prop :=
  g q = .ok t ∧ ∀ x ∈ w q, W x

theorem ensures_renders {q : σ} (hq : ∀ x ∈ w q, W x) : Ensures (g q) (Renders g w W q) :=
  fun _ rendered => ⟨rendered, hq⟩

theorem stands_commas {Q : σ → Template → Prop} {ι : Type} {r : ι → Rendering}
    {queries : ι → List σ} (xs : List ι)
    (h : ∀ x ∈ xs, Ensures (r x) (Stands d W Q · (queries x))) :
    Ensures (return Template.join ", " (← xs.mapM r)) (Stands d W Q · (xs.flatMap queries)) :=
  (Each.ensures_mapM xs h).bind fun ts hts => .ok (hts.stands_join (by decide))

theorem Item.laid_template (x : Item σ) (hx : ∀ y ∈ (x.map w).wordings, W y) :
    Ensures ((x.map g).template d) (Stands d W (Renders g w W) · x.enclosed) := by
  cases x with
  | name s => exact .ok fun n => .enter (.name n (hx _ (by simp [Item.map, wordings])))
  | raw sql => exact .ok fun n => .verbatim n (hx _ (by simp [Item.map, wordings]))
  | query q =>
    exact (ensures_renders (q := q) hx).map fun t ht n => .enter (.leave (.enclosed n ht))

theorem Selectable.laid_template (x : Selectable σ) (hx : ∀ y ∈ (x.map w).wordings, W y) :
    Ensures ((x.map g).template d) (Stands d W (Renders g w W) · x.enclosed) := by
  obtain ⟨item, _ | label⟩ := x
  · have hitem : ∀ y ∈ (item.map w).wordings, W y := by simpa [Selectable.map, wordings] using hx
    exact (Item.laid_template item hitem).bind fun t ht => .ok ht
  · simp only [Selectable.map, wordings, Option.map_some, Option.toList_some,
      List.forall_mem_append, List.forall_mem_singleton] at hx
    refine (Item.laid_template item hx.1).bind fun t ht => .ok fun n => ?_
    have between := (ht n).append (.words n " AS " (by decide))
    simpa [enclosed] using between.append (.enter (.label n hx.2))

theorem Item.laid_listTemplate (xs : List (Item σ))
    (hxs : ∀ y ∈ (xs.map (·.map w)).flatMap (·.wordings), W y) :
    Ensures (listTemplate d (xs.map (·.map g)))
      (Stands d W (Renders g w W) · (xs.flatMap (·.enclosed))) := by
  simp only [List.flatMap_map, List.forall_mem_flatMap] at hxs
  simp only [listTemplate, List.mapM_map]
  exact stands_commas xs fun x hx => Item.laid_template x (hxs x hx)

theorem Selectable.laid_listTemplate (xs : List (Selectable σ))
    (hxs : ∀ y ∈ (xs.map (·.map w)).flatMap (·.wordings), W y) :
    Ensures (listTemplate d (xs.map (·.map g)))
      (Stands d W (Renders g w W) · (xs.flatMap (·.enclosed))) := by
  simp only [List.flatMap_map, List.forall_mem_flatMap] at hxs
  simp only [listTemplate, List.mapM_map]
  exact stands_commas xs fun x hx => Selectable.laid_template x (hxs x hx)

theorem laid_selectListTemplate (xs : List (Selectable σ))
    (hxs : ∀ y ∈ (xs.map (·.map w)).flatMap (·.wordings), W y) :
    Ensures (selectListTemplate d (xs.map (·.map g)))
      (Stands d W (Renders g w W) · (xs.flatMap (·.enclosed))) := by
  cases xs with
  | nil => exact .ok fun n => .leave (.text n _ (by decide))
  | cons x xs => exact Selectable.laid_listTemplate (x :: xs) hxs

theorem laid_tableListTemplate (xs : List (Selectable σ))
    (hxs : ∀ y ∈ (xs.map (·.map w)).flatMap (·.wordings), W y) :
    Ensures (tableListTemplate d (xs.map (·.map g)))
      (Stands d W (Renders g w W) · (xs.flatMap (·.enclosed))) := by
  cases xs with
  | nil => exact .error _
  | cons x xs => exact Selectable.laid_listTemplate (x :: xs) hxs

/-! ### Operands -/

theorem Operand.laid_template (x : Operand σ) (hx : ∀ y ∈ (x.map w).wordings, W y) :
    Ensures ((x.map g).template d) (Stands d W (Renders g w W) · x.enclosed) := by
  cases x with
  | value v => exact .ok fun n => .enter (.leave (.slot n v))
  | raw sql => exact .ok fun n => .verbatim n (hx _ (by simp [Operand.map, wordings]))
  | column s => exact .ok fun n => .enter (.name n (hx _ (by simp [Operand.map, wordings])))
  | query q =>
    exact (ensures_renders (q := q) hx).map fun t ht n => .enter (.leave (.enclosed n ht))

/-- To the right of `IS`, what is not a text the statement brings along is a word or a number. -/
theorem Operand.laid_unboundTemplate (x : Operand σ)
    (hx : ∀ y ∈ (x.map w).unboundWordings, W y) :
    Ensures ((x.map g).unboundTemplate d) (Stands d W (Renders g w W) · x.enclosed) := by
  cases x with
  | value v =>
    cases v with
    | float x =>
      simp only [Operand.map, unboundTemplate]
      cases htext : Value.floatText? x with
      | none => exact .error _
      | some text =>
        have plain := (Decimal.Layout.numeric_text (by decide) htext).plain
        exact .ok fun n => .leave (.text n _ plain)
    | text s =>
      exact .ok fun n => .verbatim (s := s) n (hx _ (by simp [Operand.map, unboundWordings]))
    | null => exact .ok fun n => .leave (.text n _ (by decide))
    | bool b => cases b <;> exact .ok fun n => .leave (.text n _ (by decide))
    | int k => exact .ok fun n => .leave (.text n _ (numeric_int k.toInt).plain)
  | raw sql => exact Operand.laid_template (.raw sql) hx
  | column s => exact Operand.laid_template (.column s) hx
  | query q => exact Operand.laid_template (.query q) hx

theorem Operand.laid_listTemplate (xs : List (Operand σ))
    (hxs : ∀ x ∈ xs, ∀ y ∈ (x.map w).wordings, W y) :
    Ensures (listTemplate d (xs.map (·.map g)))
      (Stands d W (Renders g w W) · (xs.flatMap (·.enclosed))) := by
  simp only [listTemplate, List.mapM_map]
  exact stands_commas xs fun x hx => Operand.laid_template x (hxs x hx)

/-! ### Conditions -/

/-- The right side of `IN` between its parentheses, which are a subquery's own if it is one. -/
theorem Condition.laid_listTemplate (xs : List (Operand σ))
    (hxs : ∀ x ∈ xs, ∀ y ∈ (x.map w).wordings, W y) :
    Ensures (listTemplate d (xs.map (·.map g))) fun t => ∀ n,
      Laid d W (Renders g w W) (.any n) t.parens (.clear n) (xs.flatMap (·.enclosed)) := by
  have operands : Ensures (Operand.listTemplate d (xs.map (·.map g))) fun t => ∀ n,
      Laid d W (Renders g w W) (.any n) t.parens (.clear n) (xs.flatMap (·.enclosed)) :=
    fun t ht n => .parens (Operand.laid_listTemplate xs hxs t ht (n + 1))
  rcases xs with _ | ⟨x, _ | ⟨y, ys⟩⟩
  · exact operands
  · cases x with
    | query q =>
      have own := ensures_renders (g := g) (w := w) (q := q) (hxs (.query q) (by simp))
      exact fun t ht n => .enclosed n (own t ht)
    | value _ | raw _ | column _ => exact operands
  · cases x <;> exact operands

theorem Operator.plain_symbol (operator : Operator) : Plain operator.symbol := by
  cases operator <;> decide

/-- What stands before the operands of a comparison. -/
theorem Condition.laid_before {Q : σ → Template → Prop} {column : String}
    (h : W (.name column)) (operator : Operator) (n : Nat) :
    Laid d W Q (.clear n) [.text ("(" ++ d.quoteName column ++ " " ++ operator.symbol ++ " ")]
      (.clear (n + 1)) [] := by
  have name := (Laid.opening (d := d) (Q := Q) n).spell (.enter (.name (n + 1) h))
  have space := name.spell (.words (n + 1) " " (by decide))
  have symbol := space.spell (.text (n + 1) _ operator.plain_symbol)
  exact .enter (symbol.spell (.text (n + 1) " " (by decide)))

theorem Condition.laid_comparisonTemplate (text column : String) (xs : List (Operand σ))
    (hxs : ∀ y ∈ (compare text column (xs.map (·.map w))).wordings, W y) :
    Ensures (comparisonTemplate d text column (xs.map (·.map g)))
      (Stands d W (Renders g w W) · (xs.flatMap (·.enclosed))) := by
  simp only [wordings, List.forall_mem_cons] at hxs
  obtain ⟨hcolumn, hxs⟩ := hxs
  simp only [comparisonTemplate]
  refine .known fun operator hop => ?_
  have before := fun n => laid_before (d := d) (Q := Renders g w W) hcolumn operator n
  -- Only `IS` writes a value out, and it takes neither a list nor a range.
  simp only [Operator.ofText?_of_ofText hop, Option.some.injEq, List.flatMap_map] at hxs
  simp only [List.isEmpty_map, List.length_map]
  split
  · next list =>
    simp only [Operator.ne_is_of_isList list, if_false, List.forall_mem_flatMap] at hxs
    cases xs with
    | nil => exact .error _
    | cons x xs =>
      refine (Condition.laid_listTemplate (x :: xs) hxs).bind fun t ht => .ok fun n => ?_
      have operands := (before n).append (.enter (ht (n + 1)))
      simpa using Laid.leave (operands.append (.enter (.closing n)))
  · split
    · next range =>
      simp only [Operator.ne_is_of_isRange range, if_false, List.forall_mem_flatMap] at hxs
      rcases xs with _ | ⟨low, _ | ⟨high, _ | ⟨x, xs⟩⟩⟩
      · exact .error _
      · exact .error _
      · refine (Operand.laid_template low (hxs low (by simp))).bind fun t ht => ?_
        refine (Operand.laid_template high (hxs high (by simp))).bind fun u hu => .ok fun n => ?_
        have first := (before n).append (ht (n + 1))
        have conjunction := first.append (.words (n + 1) " AND " (by decide))
        simpa using Laid.leave ((conjunction.append (hu (n + 1))).append (.closing n))
      · exact .error _
    · rcases xs with _ | ⟨x, _ | ⟨y, xs⟩⟩
      · exact .error _
      · simp only [List.flatMap_cons, List.flatMap_nil, List.append_nil] at hxs
        simp only [List.map_cons, List.map_nil]
        split
        · next is =>
          simp only [is, if_true] at hxs
          refine (Operand.laid_unboundTemplate x hxs).bind fun t ht => .ok fun n => ?_
          simpa using Laid.leave (((before n).append (ht (n + 1))).append (.closing n))
        · next is =>
          simp only [is, if_false] at hxs
          refine (Operand.laid_template x hxs).bind fun t ht => .ok fun n => ?_
          simpa using Laid.leave (((before n).append (ht (n + 1))).append (.closing n))
      · exact .error _

/-! ### Terms of conditions -/

variable {Q : σ → Template → Prop} {qs : List σ}

theorem Stands.parens {t : Template} (h : Stands d W Q t qs) : Stands d W Q t.parens qs :=
  fun n => .enter (.leave (.parens (h (n + 1))))

/-- A keyword between spaces. -/
theorem words_spaced {keyword : String} (h : Plain keyword) : Words s!" {keyword} " :=
  ⟨by simpa +decide [toString] using h, by simp [toString, String.append_eq_empty_iff]⟩

theorem Condition.stands_nestedIn {τ : Type} (parent : Conjunction) (x : Condition τ)
    {r : Rendered} (h : Stands d W Q r.template qs) :
    Stands d W Q (x.nestedIn parent r).template qs := by
  cases x with
  | group conjunction children =>
    simp only [nestedIn]
    split
    · exact h.parens
    · exact h
  | _ => exact h

theorem Condition.laid_joinTerms (conjunction : Conjunction) {rs : List Rendered}
    (h : Each (Stands d W Q) (rs.map (·.template)) qs) :
    Ensures (joinTerms d conjunction rs) fun r? =>
      Each (Stands d W Q) (r?.map (·.template)).toList qs := by
  rcases rs with _ | ⟨r, _ | ⟨r', rs⟩⟩
  · exact .ok h
  · exact .ok h
  · rw [joinTerms]
    · exact (plain_keyword d conjunction).bind fun keyword hkeyword =>
        .ok (.single (h.stands_join (words_spaced hkeyword)))
    · simp
    · simp

mutual

theorem Condition.laid_render : ∀ x : Condition σ, (∀ y ∈ (x.map w).wordings, W y) →
    Ensures ((x.map g).render d) fun r? =>
      Each (Stands d W (Renders g w W)) (r?.map (·.template)).toList x.enclosed
  | .compare operator column operands, hx =>
    (Condition.laid_comparisonTemplate operator column operands hx).bind fun t ht =>
      .ok (.single ht)
  | .equal column operand, hx => by
    simp only [Condition.map, wordings, List.forall_mem_cons] at hx
    refine (Operand.laid_template operand hx.2).bind fun t ht => .ok (.single fun n => ?_)
    have before := (Laid.name (d := d) (Q := Renders g w W) n hx.1).append
      (.words n " = " (by decide))
    simpa [enclosed] using Laid.enter (before.append (ht n))
  | .raw sql, hx => .ok (.single fun n => .verbatim n (hx _ (by simp [Condition.map, wordings])))
  | .query q, hx => (ensures_renders (q := q) hx).bind fun t ht =>
    .ok (.single fun n => .enter (.leave (.enclosed n ht)))
  | .group conjunction children, hx =>
    (Condition.laid_renderEach conjunction children hx).bind fun rs hrs =>
      Condition.laid_joinTerms conjunction hrs

theorem Condition.laid_renderEach (parent : Conjunction) : ∀ xs : List (Condition σ),
    (∀ y ∈ wordingsEach (mapEach w xs), W y) →
    Ensures (renderEach d parent (mapEach g xs)) fun rs =>
      Each (Stands d W (Renders g w W)) (rs.map (·.template)) (enclosedEach xs)
  | [], _ => .ok .nil
  | x :: xs, h => by
    simp only [mapEach, wordingsEach, List.forall_mem_append] at h
    refine (Condition.laid_render x h.1).bind fun r? hr => ?_
    refine (Condition.laid_renderEach parent xs h.2).bind fun rs hrs => .ok ?_
    rw [List.map_append]
    refine Each.append ?_ hrs
    cases r? with
    | none => exact hr
    | some r =>
      have own : Stands d W (Renders g w W) r.template x.enclosed := Each.single_iff.1 hr
      exact .single (stands_nestedIn parent (x.map g) own)

end

theorem Condition.laid_template? (x : Condition σ) (hx : ∀ y ∈ (x.map w).wordings, W y) :
    Ensures ((x.map g).template? d) fun t? =>
      Each (Stands d W (Renders g w W)) t?.toList x.enclosed :=
  (Condition.laid_render x hx).bind fun _ hr => .ok hr

/-! ### Filters -/

namespace Filter

theorem stands_unit {r : Rendered} (h : Stands d W Q r.template qs) :
    Stands d W Q (unit r) qs := by
  unfold unit
  split
  · exact h.parens
  · exact h

theorem laid_render (x : Filter σ) (hx : ∀ y ∈ (x.map w).wordings, W y) :
    Ensures ((x.map g).render d) fun r? =>
      Each (Stands d W (Renders g w W)) (r?.map (·.2.template)).toList x.enclosed :=
  (Condition.laid_render x.condition hx).bind fun r? hr => .ok (by cases r? <;> exact hr)

theorem laid_continuation (entry : Conjunction × Rendered)
    (h : Stands d W Q entry.2.template qs) :
    Ensures (continuation d entry) (Follows d W Q · qs) :=
  (plain_keyword d entry.1).bind fun _ hkeyword => .ok fun n =>
    (Laid.words n _ (words_spaced hkeyword)).append (stands_unit h n)

theorem laid_continuations (entries : List (Conjunction × Rendered))
    (h : Each (Stands d W Q) (entries.map (·.2.template)) qs) :
    Ensures (entries.mapM (continuation d)) (Each (Follows d W Q) · qs) := by
  induction entries generalizing qs with
  | nil => exact .ok (by cases h; exact .nil)
  | cons entry entries ih =>
    cases h with
    | cons first rest =>
      rw [List.mapM_cons]
      refine (laid_continuation entry first).bind fun t ht => ?_
      exact (ih rest).bind fun ts hts => .ok (.cons ht hts)

theorem laid_joinRendered (entries : List (Conjunction × Rendered))
    (h : Each (Stands d W Q) (entries.map (·.2.template)) qs) :
    Ensures (joinRendered d entries) (Stands d W Q · qs) := by
  rcases entries with _ | ⟨entry, _ | ⟨entry', entries⟩⟩
  · cases h
    exact .ok fun n => .leave (.nil _)
  · exact .ok (Each.single_iff.1 h)
  · cases h with
    | cons first rest =>
      refine (laid_continuations (entry' :: entries) rest).bind fun ts hts => .ok fun n => ?_
      exact (stands_unit first n).append (hts.follows_flatten n)

theorem flatMap_written (rs : List (Option (Conjunction × Rendered))) :
    rs.flatMap (fun r? => (r?.map (·.2.template)).toList) =
      (rs.filterMap id).map (·.2.template) := by
  induction rs with
  | nil => rfl
  | cons r? rs ih => cases r? <;> simp [ih]

/-- Filters that are written stand alone; nothing stands in those that are not. -/
theorem laid_listTemplate? (xs : List (Filter σ))
    (hxs : ∀ y ∈ (xs.map (·.map w)).flatMap (·.wordings), W y) :
    Ensures (listTemplate? d (xs.map (·.map g))) fun t? =>
      Each (Stands d W (Renders g w W)) t?.toList (xs.flatMap (·.enclosed)) := by
  simp only [List.flatMap_map, List.forall_mem_flatMap] at hxs
  simp only [listTemplate?, List.mapM_map]
  have each := Each.ensures_mapM_flatMap _ xs fun x hx => laid_render (g := g) (d := d) x (hxs x hx)
  refine each.bind fun rs hrs => ?_
  rw [flatMap_written] at hrs
  refine (laid_joinRendered (rs.filterMap id) hrs).bind fun t ht => .ok ?_
  cases blank : t.isBlank with
  | true =>
    have none := (ht 0).eq_nil_of_isBlank blank
    simpa [blank, none] using Each.nil
  | false => simpa [blank] using Each.single ht

end Filter

/-! ### Joins, assignments and rows -/

theorem Join.laid_onTemplate (on? : Option (Condition σ))
    (hon : ∀ y ∈ (on?.map (·.map w)).elim [] (·.wordings), W y) :
    Ensures (onTemplate d (on?.map (·.map g)))
      (Follows d W (Renders g w W) · (on?.elim [] (·.enclosed))) := by
  cases on? with
  | none => exact .ok fun n => .nil _
  | some on =>
    refine (Condition.laid_template? on hon).bind fun t? ht => ?_
    cases t? with
    | none =>
      have none : on.enclosed = [] := Each.nil_iff.1 ht
      exact .ok fun n => by simpa [none] using Laid.nil _
    | some t =>
      refine .ok fun n => ?_
      exact (Laid.words n " ON " (by decide)).append (Each.single_iff.1 ht n)

theorem JoinType.plain_keyword (type : JoinType) : Plain type.keyword := by
  cases type <;> decide

theorem Join.laid_template (x : Join σ) (hx : ∀ y ∈ (x.map w).wordings, W y) :
    Ensures ((x.map g).template d) (Follows d W (Renders g w W) · x.enclosed) := by
  simp only [wordings, List.forall_mem_append] at hx
  refine (laid_tableListTemplate x.tables hx.1).bind fun t ht => ?_
  refine (Join.laid_onTemplate x.on? hx.2).bind fun u hu => .ok fun n => ?_
  have space := Laid.words (d := d) (W := W) (Q := Renders g w W) n " " (by decide)
  have keyword := (space.append (.text n _ x.type.plain_keyword)).append
    (.text n " JOIN " (by decide))
  simpa [Join.enclosed, Join.map] using (keyword.append (ht n)).append (hu n)

theorem Assignment.laid_template (x : Assignment σ) (hx : ∀ y ∈ (x.map w).wordings, W y) :
    Ensures ((x.map g).template d) (Stands d W (Renders g w W) · x.enclosed) := by
  cases x with
  | set column value =>
    simp only [Assignment.map, wordings, List.forall_mem_cons] at hx
    refine (Operand.laid_template value hx.2).bind fun t ht => .ok fun n => ?_
    have before := (Laid.name (d := d) (Q := Renders g w W) n hx.1).append
      (.words n " = " (by decide))
    simpa [enclosed] using Laid.enter (before.append (ht n))
  | raw sql => exact .ok fun n => .verbatim n (hx _ (by simp [Assignment.map, wordings]))

theorem Assignment.laid_listTemplate (xs : List (Assignment σ))
    (hxs : ∀ y ∈ (xs.map (·.map w)).flatMap (·.wordings), W y) :
    Ensures (listTemplate d (xs.map (·.map g)))
      (Stands d W (Renders g w W) · (xs.flatMap (·.enclosed))) := by
  simp only [List.flatMap_map, List.forall_mem_flatMap] at hxs
  cases xs with
  | nil => exact .error _
  | cons x xs =>
    change Ensures (return Template.join ", " (← ((x :: xs).map (·.map g)).mapM (·.template d))) _
    simp only [List.mapM_map]
    exact stands_commas (x :: xs) fun y hy => Assignment.laid_template y (hxs y hy)

/-- Texts that stand alone, with commas between them. -/
theorem laid_intercalate {texts : List String}
    (h : ∀ s ∈ texts, Stands d W Q [.text s] []) :
    Stands d W Q [.text (", ".intercalate texts)] [] := by
  induction texts with
  | nil => exact fun n => .leave (.text n _ (by decide))
  | cons s texts ih =>
    cases texts with
    | nil => simpa [String.intercalate_singleton] using h s (by simp)
    | cons s' texts =>
      intro n
      have rest := ih (fun u hu => h u (by simp [hu])) n
      have first := (h s (by simp) n).spell (.words n ", " (by decide))
      simpa [String.intercalate_cons_cons, String.append_assoc] using first.spell rest

namespace Insertion

theorem laid_columnNames (names : List String) (h : ∀ s ∈ names, W (.name s)) (n : Nat) :
    Laid d W Q (.any n) [.text (columnNames d names)] (.clear n) [] := by
  have quoted : Stands d W Q [.text (", ".intercalate (names.map d.quoteName))] [] := by
    refine laid_intercalate fun s hs n => ?_
    obtain ⟨name, hname, rfl⟩ := List.mem_map.1 hs
    exact .enter (.name n (h name hname))
  exact ((Laid.opening n).spell (quoted (n + 1))).spell (.closing n)

theorem laid_emptyInsertBody : Stands d W Q [.text d.emptyInsertBody] [] := by
  intro n
  have words := Laid.leave
    (Laid.text (d := d) (W := W) (Q := Q) n "DEFAULT VALUES" (by decide))
  cases d with
  | mysql =>
    have none := (Laid.opening (d := .mysql) (W := W) (Q := Q) n).spell (.enter (.closing n))
    have values := none.spell (.text n " VALUES " (by decide))
    exact .enter (.leave (values.spell (.enter none)))
  | _ => exact words

theorem laid_rowTemplate (xs : List (Operand σ)) (hxs : ∀ x ∈ xs, ∀ y ∈ (x.map w).wordings, W y) :
    Ensures (rowTemplate d (xs.map (·.map g))) fun t => ∀ n,
      Laid d W (Renders g w W) (.any n) t (.clear n) (xs.flatMap (·.enclosed)) :=
  (Operand.laid_listTemplate xs hxs).bind fun _ ht => .ok fun n => (ht (n + 1)).parens

/-- A query that gives the rows stands where there are no closing quotes before it. -/
theorem query_template (names : List String) (q : σ)
    (hx : ∀ y ∈ ((query names q).map w).wordings, W y) :
    Ensures (((query names q).map g).template d) fun t => ∃ lead u, t = lead ++ u ∧
      Renders g w W q u ∧ ∀ n, Laid d W (Renders g w W) (.clear n) lead (.clear n) [] := by
  simp only [Insertion.map, wordings, List.forall_mem_append, List.forall_mem_map] at hx
  refine (ensures_renders (q := q) hx.2).bind fun u hu => ?_
  split
  · exact .ok ⟨[], u, rfl, hu, fun n => .nil _⟩
  · refine .ok ⟨_, u, rfl, hu, fun n => ?_⟩
    exact (Laid.enter (laid_columnNames names hx.1 n)).append (.text n " " (by decide))

theorem laid_template (x : Insertion σ) (hx : ∀ y ∈ (x.map w).wordings, W y) :
    Ensures ((x.map g).template d) (Stands d W (Renders g w W) · x.enclosed) := by
  cases x with
  | raw sql =>
    have hsql : W (.verbatim sql) := hx _ (by simp [Insertion.map, wordings])
    refine .ok fun n => ?_
    have before := (Laid.text (d := d) (W := W) (Q := Renders g w W) n "VALUES "
      (by decide)).spell (.enter (.opening n))
    exact .leave ((before.spell (.verbatim (n + 1) hsql)).spell (.closing n))
  | row cells =>
    simp only [Insertion.map, wordings, List.flatMap_map, List.forall_mem_flatMap,
      List.forall_mem_cons] at hx
    have names := laid_columnNames (d := d) (Q := Renders g w W) (cells.map Prod.fst)
      (by simpa using fun s x hx' => (hx (s, x) hx').1)
    have row := laid_rowTemplate (g := g) (d := d) (cells.map Prod.snd)
      (by simpa using fun x s hx' => (hx (s, x) hx').2)
    simp only [Insertion.map, template, List.isEmpty_map, List.map_map, Function.comp_def]
      at names row ⊢
    split
    · next none =>
      obtain rfl := List.isEmpty_iff.1 none
      exact .ok laid_emptyInsertBody
    · refine row.bind fun t ht => .ok fun n => ?_
      have values := (names n).append (.text n " VALUES " (by decide))
      simpa [enclosed, List.flatMap_map] using Laid.enter (.leave (values.append (.enter (ht n))))
  | columns lists =>
    simp only [Insertion.map, wordings, List.flatMap_map, List.forall_mem_flatMap,
      List.forall_mem_cons] at hx
    have names := laid_columnNames (d := d) (Q := Renders g w W) (lists.map Prod.fst)
      (by simpa using fun s x hx' => (hx (s, x) hx').1)
    have row (i : Nat) :
        Ensures (rowTemplate d ((rowCells (lists.map Prod.snd) i).map (·.map g)))
          (Stands d W (Renders g w W) ·
            ((rowCells (lists.map Prod.snd) i).flatMap (·.enclosed))) := by
      intro t ht n
      refine .enter (.leave (laid_rowTemplate _ (fun x hx' => ?_) t ht n))
      obtain ⟨cells, hcells, hx'⟩ := mem_of_mem_rowCells hx'
      obtain ⟨list, hlist, rfl⟩ := List.mem_map.1 hcells
      exact (hx list hlist).2 x hx'
    simp only [Insertion.map, template, List.isEmpty_map, emptyColumn?_map]
    split
    · next none =>
      obtain rfl := List.isEmpty_iff.1 none
      exact .ok laid_emptyInsertBody
    · cases emptyColumn? lists with
      | some column => exact .error _
      | none =>
        simp only [cells_map, rowCount_map, rowCells_map]
        refine (Each.ensures_mapM _ fun i _ => row i).bind fun ts hts => .ok fun n => ?_
        have values := (names n).append (.text n " VALUES " (by decide))
        have rows := hts.stands_join (s := ", ") (by decide)
        simp only [List.map_map, Function.comp_def] at values ⊢
        refine .enter (.subset (values.append (rows n)) fun q hq => ?_)
        simp only [enclosed, List.mem_flatMap] at hq
        obtain ⟨list, hlist, x, hx', hq⟩ := hq
        obtain ⟨i, inside, cell⟩ := exists_mem_rowCells (List.mem_map_of_mem hlist) hx'
        simpa using ⟨i, inside, x, cell, hq⟩
  | query names q =>
    intro t ht n
    obtain ⟨lead, u, rfl, hu, hlead⟩ := query_template names q hx t ht
    exact (hlead n).append (.bare n hu)

end Insertion

/-! ### Statements -/

namespace Clauses

theorem laid_joinsTemplate (xs : List (Join σ))
    (hxs : ∀ y ∈ (xs.map (·.map w)).flatMap (·.wordings), W y) :
    Ensures (joinsTemplate d (xs.map (·.map g)))
      (Follows d W (Renders g w W) · (xs.flatMap (·.enclosed))) := by
  simp only [List.flatMap_map, List.forall_mem_flatMap] at hxs
  simp only [joinsTemplate, List.mapM_map]
  exact (Each.ensures_mapM xs fun x hx => Join.laid_template x (hxs x hx)).bind
    fun _ hts => .ok hts.follows_flatten

theorem laid_groupsTemplate (xs : List (Item σ))
    (hxs : ∀ y ∈ (xs.map (·.map w)).flatMap (·.wordings), W y) :
    Ensures (groupsTemplate d (xs.map (·.map g)))
      (Follows d W (Renders g w W) · (xs.flatMap (·.enclosed))) := by
  cases xs with
  | nil => exact .ok fun n => .nil _
  | cons x xs =>
    refine (Item.laid_listTemplate (x :: xs) hxs).bind fun t ht => .ok fun n => ?_
    exact (Laid.words n " GROUP BY " (by decide)).append (ht n)

theorem laid_filtersTemplate {keyword : String} (plain : Plain keyword) (xs : List (Filter σ))
    (hxs : ∀ y ∈ (xs.map (·.map w)).flatMap (·.wordings), W y) :
    Ensures (filtersTemplate d keyword (xs.map (·.map g)))
      (Follows d W (Renders g w W) · (xs.flatMap (·.enclosed))) := by
  refine (Filter.laid_listTemplate? xs hxs).bind fun t? ht => .ok fun n => ?_
  cases t? with
  | none =>
    rw [Each.nil_iff.1 ht]
    exact .nil _
  | some t => exact (Laid.words n _ (words_spaced plain)).append (Each.single_iff.1 ht n)

theorem laid_modifierText {options : Options} (h : ∀ y ∈ options.wordings, W y) :
    Follows d W Q [.text options.modifierText] [] := by
  obtain ⟨distinct, modifiers⟩ := options
  simp only [Options.wordings, List.forall_mem_map] at h
  simp only [Options.modifierText]
  induction modifiers with
  | nil => exact fun n => .empty _
  | cons s modifiers ih =>
    intro n
    have first := (Laid.words (d := d) (Q := Q) n " " (by decide)).spell
      (.verbatim n (h s (by simp)))
    simpa using first.spell (ih (fun u hu => h u (by simp [hu])) n)

theorem laid_sortKey (key : SortKey) (h : ∀ y ∈ key.wordings, W y) :
    Stands d W Q [.text (key.text d)] [] := by
  intro n
  cases key with
  | column name direction? =>
    have quoted := Laid.enter (Laid.name (d := d) (Q := Q) (s := name) n
      (h _ (by simp [SortKey.wordings])))
    rcases direction? with _ | _ | _
    · exact quoted
    · exact .leave (quoted.spell (.words n " ASC" (by decide)))
    · exact .leave (quoted.spell (.words n " DESC" (by decide)))
  | raw sql => exact .verbatim (s := sql) n (h _ (by simp [SortKey.wordings]))

theorem laid_orderText {keys : List SortKey} (limited : Bool)
    (h : ∀ y ∈ keys.flatMap (·.wordings), W y) :
    Follows d W Q [.text (orderText d keys limited)] [] := by
  intro n
  have before := Laid.words (d := d) (W := W) (Q := Q) n " ORDER BY " (by decide)
  unfold orderText
  split
  · split
    · have null := (Laid.text (d := d) (W := W) (Q := Q) (n + 1) "SELECT NULL"
        (by decide))
      exact .leave (((before.spell (.enter (.opening n))).spell null).spell (.enter (.closing n)))
    · exact .empty _
  · simp only [List.forall_mem_flatMap] at h
    refine before.spell (laid_intercalate (fun s hs => ?_) n)
    obtain ⟨key, hkey, rfl⟩ := List.mem_map.1 hs
    exact laid_sortKey key (h key hkey)

theorem laid_limitText (limit? : Option Limit) : Follows d W Q [.text (limitText d limit?)] [] := by
  intro n
  cases limit? with
  | none => exact .empty _
  | some limit =>
    have space := Laid.words (d := d) (W := W) (Q := Q) n " " (by decide)
    exact .leave (space.spell (.text n _ (plain_pagination d _ _)))

theorem laid_tailTemplate {keys : List SortKey} (limit? : Option Limit)
    (h : ∀ y ∈ keys.flatMap (·.wordings), W y) :
    Follows d W Q (tailTemplate d keys limit?) [] :=
  fun n => (laid_orderText limit?.isSome h n).append (laid_limitText limit? n)

/-- The verb, the modifiers and what stands between them and the rest. -/
theorem laid_verb {s u : String} {options : Options} (plain : Plain s) (words : Words u)
    (h : ∀ y ∈ options.wordings, W y) (n : Nat) :
    Laid d W Q (.clear n) ([.text s] ++ [.text options.modifierText] ++ [.text u]) (.clear n) [] :=
  ((Laid.leave (.text n s plain)).append (laid_modifierText h n)).append (.words n u words)

/-- What stands before the rows of an insertion. -/
theorem laid_into {table : String} {options : Options} (hoptions : ∀ y ∈ options.wordings, W y)
    (htable : W (.name table)) (n : Nat) :
    Laid d W Q (.clear n) ([.text "INSERT"] ++ [.text options.modifierText] ++ [.text " INTO "] ++
      [.text (d.quoteName table)] ++ [.text " "]) (.clear n) [] := by
  have verb := laid_verb (d := d) (Q := Q) (s := "INSERT") (u := " INTO ") (by decide) (by decide)
    hoptions n
  exact (verb.append (.enter (.name n htable))).append (.words n " " (by decide))

/-- The query that gives the rows stands where there are no closing quotes before it. -/
theorem query_template {c : Clauses σ} {table : String} {names : List String} {q : σ}
    {options : Options} (body : c.body = .insert table (.query names q) options)
    (hc : ∀ y ∈ (c.map w).wordings, W y) :
    Ensures ((c.map g).template d) fun t => ∃ lead u, t = lead ++ u ∧ Renders g w W q u ∧
      ∀ n, Laid d W (Renders g w W) (.clear n) lead (.clear n) [] := by
  obtain ⟨_, joins, filters, groups, havings, orders, limit?⟩ := c
  obtain rfl := body
  simp only [Clauses.map, Body.map, wordings, List.forall_mem_append, List.forall_mem_cons] at hc
  obtain ⟨hoptions, htable, hrows⟩ := hc
  refine .skip fun _ => ?_
  refine (Insertion.query_template names q hrows).bind fun t ⟨lead, u, same, hu, hlead⟩ => ?_
  exact .ok ⟨_, u, by rw [same, ← List.append_assoc], hu, fun n =>
    (laid_into hoptions htable n).append (hlead n)⟩

/-- **A statement is laid out** around the templates of its subqueries. -/
theorem laid_template (c : Clauses σ) (hc : ∀ y ∈ (c.map w).wordings, W y) :
    Ensures ((c.map g).template d) (Stands d W (Renders g w W) · c.enclosed) := by
  obtain ⟨body, joins, filters, groups, havings, orders, limit?⟩ := c
  cases body with
  | raw sql => exact .ok fun n => .verbatim n (hc _ (by simp [Clauses.map, Body.map, wordings]))
  | select tables columns options =>
    simp only [Clauses.map, Body.map, wordings, List.forall_mem_append] at hc
    obtain ⟨⟨⟨⟨⟨⟨⟨hoptions, hcolumns⟩, htables⟩, hjoins⟩, hfilters⟩, hgroups⟩, hhavings⟩, horders⟩
      := hc
    refine (laid_selectListTemplate columns hcolumns).bind fun columns hcolumns => ?_
    refine (laid_tableListTemplate tables htables).bind fun tables htables => ?_
    refine (laid_joinsTemplate joins hjoins).bind fun joins hjoins => ?_
    refine (laid_filtersTemplate (by decide) filters hfilters).bind fun filters hfilters => ?_
    refine (laid_groupsTemplate groups hgroups).bind fun groups hgroups => ?_
    refine (laid_filtersTemplate (by decide) havings hhavings).bind
      fun havings hhavings => .ok fun n => ?_
    have verb : Plain (if options.distinct then "SELECT DISTINCT" else "SELECT") := by
      split <;> decide
    have columns := (laid_verb (d := d) (Q := Renders g w W) verb (u := " ") (by decide)
      hoptions n).append (hcolumns n)
    have tables := (columns.append (.words n " FROM " (by decide))).append (htables n)
    have rest := (((tables.append (hjoins n)).append (hfilters n)).append (hgroups n)).append
      (hhavings n)
    simpa [enclosed, Clauses.map] using rest.append (laid_tailTemplate limit? horders n)
  | insert table rows options =>
    simp only [Clauses.map, Body.map, wordings, List.forall_mem_append, List.forall_mem_cons] at hc
    obtain ⟨hoptions, htable, hrows⟩ := hc
    refine .skip fun _ => ?_
    refine (Insertion.laid_template rows hrows).bind fun rows hrows => .ok fun n => ?_
    exact (laid_into hoptions htable n).append (hrows n)
  | update tables assignments options =>
    simp only [Clauses.map, Body.map, wordings, List.forall_mem_append] at hc
    obtain ⟨⟨⟨⟨⟨hoptions, htables⟩, hjoins⟩, hassignments⟩, hfilters⟩, horders⟩ := hc
    refine .skip fun _ => ?_
    refine (laid_tableListTemplate tables htables).bind fun tables htables => ?_
    refine (laid_joinsTemplate joins hjoins).bind fun joins hjoins => ?_
    refine (Assignment.laid_listTemplate assignments hassignments).bind
      fun assignments hassignments => ?_
    refine (laid_filtersTemplate (by decide) filters hfilters).bind
      fun filters hfilters => .ok fun n => ?_
    have tables := (laid_verb (d := d) (Q := Renders g w W) (s := "UPDATE") (u := " ")
      (by decide) (by decide) hoptions n).append (htables n)
    have assignments := ((tables.append (hjoins n)).append
      (.words n " SET " (by decide))).append (hassignments n)
    have rest := assignments.append (hfilters n)
    simpa [enclosed, Clauses.map] using rest.append (laid_tailTemplate limit? horders n)
  | delete tables options =>
    simp only [Clauses.map, Body.map, wordings, List.forall_mem_append] at hc
    obtain ⟨⟨⟨hoptions, htables⟩, hfilters⟩, horders⟩ := hc
    refine .skip fun _ => ?_
    refine (laid_tableListTemplate tables htables).bind fun tables htables => ?_
    refine (laid_filtersTemplate (by decide) filters hfilters).bind
      fun filters hfilters => .ok fun n => ?_
    have tables := (laid_verb (d := d) (Q := Renders g w W) (s := "DELETE") (u := " FROM ")
      (by decide) (by decide) hoptions n).append (htables n)
    simpa [enclosed, Clauses.map] using
      (tables.append (hfilters n)).append (laid_tailTemplate limit? horders n)

end Clauses

end PolySql
