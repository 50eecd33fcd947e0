import PolySql.Proofs.Closed
import PolySql.Proofs.Induction
import PolySql.Proofs.LaidOut
import PolySql.Proofs.Writing

/-!
# Compiled statements are closed

**No name gets out of its quotes** (`Statement.compile_closed`).  If the texts that a statement
brings along to be written as they are are closed, then so is the compiled statement, whatever its
names are, and so is each of its subqueries between its parentheses.

What is laid out leads a reader from spot to spot (`Laid.leads`), by induction on the layout; the
pieces are those that the reader of `Dialect.read` passes over.
-/

namespace PolySql

/-- A reader at this position may come to the spot. -/
def Spot.Admits : Spot → Position → Prop
  | clear n, p => p = ⟨.outside, n⟩
  | any n, p => p.zone.isWithin = false ∧ p.depth = n

namespace Dialect

variable {d : Dialect} {a b c : Spot} {s s' : String} {n : Nat}

/-! ### Texts -/

/-- The text leads a reader from one spot to the other. -/
def Leads (d : Dialect) (a : Spot) (text : String) (b : Spot) : Prop :=
  ∀ p, a.Admits p → ∃ p', d.read p text.toList = some p' ∧ b.Admits p'

theorem Leads.empty : d.Leads a "" a := fun p hp => ⟨p, rfl, hp⟩

theorem Leads.append (h : d.Leads a s b) (h' : d.Leads b s' c) : d.Leads a (s ++ s') c := by
  intro p hp
  obtain ⟨q, hq, outq⟩ := h p hp
  obtain ⟨p', hp', outp'⟩ := h' q outq
  exact ⟨p', by rw [String.toList_append, read_append_of_read hq, hp'], outp'⟩

theorem Leads.enter (h : d.Leads (.any n) s b) : d.Leads (.clear n) s b := by
  rintro _ rfl
  exact h ⟨.outside, n⟩ ⟨rfl, rfl⟩

theorem Leads.leave (h : d.Leads a s (.clear n)) : d.Leads a s (.any n) := by
  intro p hp
  obtain ⟨_, hread, rfl⟩ := h p hp
  exact ⟨_, hread, rfl, rfl⟩

theorem leads_of_not_mem_signs (h : ∀ c ∈ s.toList, c ∉ d.signs) (ne : s ≠ "") (n : Nat) :
    d.Leads (.any n) s (.clear n) := by
  rintro p ⟨out, rfl⟩
  exact ⟨_, read_of_not_mem_signs out h (by simpa using ne), rfl⟩

theorem isSpecial_of_mem_signs (d : Dialect) : ∀ c ∈ d.signs, isSpecial c = true :=
  List.all_eq_true.1 (by cases d <;> rfl)

theorem not_mem_signs_of_plain (h : Plain s) : ∀ c ∈ s.toList, c ∉ d.signs := fun c hc sign =>
  nomatch (h c hc).symm.trans (d.isSpecial_of_mem_signs c sign)

theorem leads_opening (n : Nat) : d.Leads (.any n) "(" (.clear (n + 1)) := by
  rintro p ⟨out, rfl⟩
  have step : d.step p '(' = some ⟨.outside, p.depth + 1⟩ := step_opening out
  exact ⟨_, by simp [read, step], rfl⟩

theorem leads_closing (n : Nat) : d.Leads (.any (n + 1)) ")" (.clear n) := by
  rintro ⟨zone, _⟩ ⟨out, rfl⟩
  have step : d.step ⟨zone, n + 1⟩ ')' = some ⟨.outside, n⟩ := step_closing out n
  exact ⟨_, by simp [read, step], rfl⟩

theorem leads_quoteIdentifier (name : String) (n : Nat) :
    d.Leads (.any n) (d.quoteIdentifier name) (.any n) := by
  rintro p ⟨out, rfl⟩
  have read : d.read p (d.quoteIdentifier name).toList = some ⟨.after .identifier, p.depth⟩ := by
    rw [toList_quoteIdentifier, read_around out]
  exact ⟨_, read, rfl, rfl⟩

theorem leads_quoteName (name : String) (n : Nat) :
    d.Leads (.any n) (d.quoteName name) (.any n) := by
  rintro p ⟨out, rfl⟩
  obtain ⟨p', hread, out', depth⟩ := read_quoteNameChars (d := d) out name.toList
  exact ⟨p', by rw [toList_quoteName, hread], out', depth⟩

/-- A closed text may stand between any parentheses. -/
theorem Closed.leads (h : d.Closed s) (n : Nat) : d.Leads (.clear n) s (.any n) := by
  rintro _ rfl
  obtain ⟨p, hread, out, depth⟩ := h
  have raised := read_raise n hread
  rw [Position.raise, Position.start, Nat.zero_add] at raised
  exact ⟨_, raised, out, by rw [Position.raise, depth, Nat.zero_add]⟩

theorem closed_of_leads (h : d.Leads (.clear 0) s (.any 0)) : d.Closed s := by
  obtain ⟨p, hread, closed⟩ := h .start rfl
  exact ⟨p, hread, closed⟩

/-! ### Texts in texts -/

/-- The part stands in the text where a reader who begins at `p` is outside quotes. -/
def Meets (d : Dialect) (p : Position) (text part : String) : Prop :=
  ∃ before after p', text = before ++ part ++ after ∧
    d.read p before.toList = some p' ∧ p'.zone.isWithin = false

variable {p p' : Position} {text part inner : String}

theorem Meets.append_right (h : d.Meets p text part) (s : String) : d.Meets p (text ++ s) part := by
  obtain ⟨before, after, p', rfl, hread, out⟩ := h
  exact ⟨before, after ++ s, p', by simp [String.append_assoc], hread, out⟩

theorem Meets.append_left (hs : d.read p s.toList = some p') (h : d.Meets p' text part) :
    d.Meets p (s ++ text) part := by
  obtain ⟨before, after, q, rfl, hread, out⟩ := h
  refine ⟨s ++ before, after, q, by simp [String.append_assoc], ?_, out⟩
  rw [String.toList_append, read_append_of_read hs, hread]

/-- What stands in a text between parentheses stands in the text around them. -/
theorem Meets.trans (h : d.Meets p text ("(" ++ inner ++ ")")) (h' : d.Meets .start inner part) :
    d.Meets p text part := by
  obtain ⟨before, after, q, rfl, hread, out⟩ := h
  have raised : d.Meets ⟨.outside, q.depth + 1⟩ inner part := by
    obtain ⟨before', after', q', rfl, hread', out'⟩ := h'
    have raised := read_raise (q.depth + 1) hread'
    rw [Position.raise, Position.start, Nat.zero_add] at raised
    exact ⟨before', after', _, rfl, raised, out'⟩
  obtain ⟨_, hopening, rfl⟩ := leads_opening (d := d) q.depth q ⟨out, rfl⟩
  have inside := (raised.append_left hopening).append_right (")" ++ after)
  simpa [String.append_assoc] using inside.append_left hread

end Dialect

/-! ### Placeholders -/

/-- No character of a placeholder means anything to a reader. -/
def Binder.Quiet (d : Dialect) : Binder → Prop
  | positional _ => True
  | named marker _ => marker ∉ d.signs

namespace Binder

variable {d : Dialect} {b : Binder}

theorem Quiet.bind (h : b.Quiet d) (v : Value) : (b.bind v).2.Quiet d := by
  cases b <;> exact h

theorem Quiet.fill (h : b.Quiet d) (t : Template) : (Template.fill b t).2.Quiet d := by
  induction t generalizing b with
  | nil => exact h
  | cons piece t ih =>
    cases piece with
    | text s => exact ih h
    | slot v => exact ih (h.bind v)

theorem plain_nameAt (n : Nat) : Plain (nameAt n) := plain_append.2 ⟨by decide, (numeric_nat n).plain⟩

theorem Quiet.leads (h : b.Quiet d) (v : Value) (n : Nat) :
    d.Leads (.any n) (b.bind v).1 (.clear n) := by
  refine Dialect.leads_of_not_mem_signs ?_ (Template.placeholder_ne_empty b v) n
  intro c hc
  cases b with
  | positional vs =>
    obtain rfl : c = '?' := by simpa [Binder.bind] using hc
    cases d <;> decide
  | named marker vs =>
    rcases (by simpa [Binder.bind] using hc) with rfl | hc
    · exact h
    · exact Dialect.not_mem_signs_of_plain (plain_nameAt _) c hc

end Binder

/-! ### Layouts -/

/-- With any placeholders the template leads a reader from one spot to the other. -/
def Template.Leads (d : Dialect) (a : Spot) (t : Template) (b : Spot) : Prop :=
  ∀ binder : Binder, binder.Quiet d → d.Leads a (fill binder t).1 b

/-- What is written as it is is closed. -/
def Wording.Closed (d : Dialect) : Wording → Prop
  | name _ => True
  | verbatim sql => d.Closed sql

instance (d : Dialect) (w : Wording) : Decidable (w.Closed d) :=
  match w with
  | .name _ => isTrue trivial
  | .verbatim sql => inferInstanceAs (Decidable (d.Closed sql))

namespace Laid

variable {σ : Type} {d : Dialect} {Q : σ → Template → Prop} {a b : Spot} {t : Template}
  {qs : List σ} (hQ : ∀ q t, Q q t → ∀ n, t.Leads d (.clear n) (.any n))

include hQ

/-- **What is laid out leads a reader from spot to spot**, if the templates of the subqueries do. -/
theorem leads (h : Laid d (Wording.Closed d) Q a t b qs) : t.Leads d a b := by
  induction h with
  | nil | empty => exact fun _ _ => by simpa using Dialect.Leads.empty
  | words n s h =>
    intro _ _
    simpa using Dialect.leads_of_not_mem_signs (Dialect.not_mem_signs_of_plain h.1) h.2 n
  | opening n => exact fun _ _ => by simpa using Dialect.leads_opening n
  | closing n => exact fun _ _ => by simpa using Dialect.leads_closing n
  | name n h => exact fun _ _ => by simpa using Dialect.leads_quoteName _ n
  | label n h => exact fun _ _ => by simpa using Dialect.leads_quoteIdentifier _ n
  | verbatim n h => exact fun _ _ => by simpa using Dialect.Closed.leads h n
  | slot n v => exact fun _ quiet => by simpa using quiet.leads v n
  | enclosed n h =>
    intro binder quiet
    rw [Template.fill_parens]
    exact ((Dialect.leads_opening n).append (hQ _ _ h (n + 1) binder quiet)).append
      (Dialect.leads_closing n)
  | bare n h => exact hQ _ _ h n
  | @append a b c t u qs qs' h h' ih ih' =>
    intro binder quiet
    rw [Template.fill_append]
    exact (ih binder quiet).append (ih' _ (quiet.fill t))
  | spell h h' ih ih' =>
    intro binder quiet
    have left := ih binder quiet
    have right := ih' binder quiet
    simp only [Template.fill_text, Template.fill_nil, String.append_empty] at left right ⊢
    exact left.append right
  | enter h ih => exact fun binder quiet => (ih binder quiet).enter
  | leave h ih => exact fun binder quiet => (ih binder quiet).leave
  | subset h sub ih => exact ih

/-- **A reader meets the subqueries in parentheses** outside quotes. -/
theorem meets (h : Laid d (Wording.Closed d) Q a t b qs) {q : σ} (hq : q ∈ qs) {binder : Binder}
    (quiet : binder.Quiet d) {p : Position} (hp : a.Admits p) :
    ∃ u, Q q u ∧ ∃ binder' : Binder, binder'.Quiet d ∧
      d.Meets p (Template.fill binder t).1 ("(" ++ (Template.fill binder' u).1 ++ ")") := by
  induction h generalizing binder p with
  | enclosed n h =>
    obtain rfl := List.mem_singleton.1 hq
    refine ⟨_, h, binder, quiet, "", "", p, ?_, rfl, hp.1⟩
    simp
  | @append a b c t u qs qs' h h' ih ih' =>
    rw [Template.fill_append]
    rcases List.mem_append.1 hq with hq | hq
    · obtain ⟨v, hv, binder', quiet', meets⟩ := ih hq quiet hp
      exact ⟨v, hv, binder', quiet', meets.append_right _⟩
    · obtain ⟨p', hread, hp'⟩ := h.leads hQ binder quiet p hp
      obtain ⟨v, hv, binder', quiet', meets⟩ := ih' hq (quiet.fill t) hp'
      exact ⟨v, hv, binder', quiet', meets.append_left hread⟩
  | enter h ih =>
    obtain rfl := hp
    exact ih hq quiet ⟨rfl, rfl⟩
  | leave h ih => exact ih hq quiet hp
  | subset h sub ih => exact ih (sub hq) quiet hp
  | _ => nomatch hq

end Laid

/-! ### Statements -/

namespace Statement

variable {d : Dialect} {s q : Statement}

/-- The rendering of a statement is closed, and may stand between any parentheses. -/
theorem leads_template (d : Dialect) (s : Statement) : (∀ w ∈ s.wordings, w.Closed d) →
    Ensures (s.template d) fun t => ∀ n, t.Leads d (.clear n) (.any n) := by
  induction s using induct with
  | step c =>
    intro hc t ht n
    rw [template_of, Clauses.map_map] at ht
    rw [wordings_of, Clauses.map_map] at hc
    refine (Clauses.laid_template c hc t ht n).leads fun q t renders => ?_
    exact q.property renders.2 t renders.1

/-- The subquery is written in parentheses somewhere in the statement. -/
inductive Encloses : Statement → Statement → Prop where
  | here {s q : Statement} (h : q ∈ s.clauses.enclosed) : Encloses s q
  | deeper {s r q : Statement} (h : r ∈ s.clauses.enclosed) (h' : Encloses r q) : Encloses s q
  /-- The query that gives the rows of an insertion is not in parentheses itself. -/
  | rows {s r q : Statement} {table : String} {names : List String} {options : Options}
    (h : s.clauses.body = .insert table (.query names r) options) (h' : Encloses r q) :
    Encloses s q

/-- What a statement with closed wordings is rendered to. -/
abbrev RendersClosed (d : Dialect) : Statement → Template → Prop :=
  Renders (template d) wordings (Wording.Closed d)

theorem RendersClosed.leads {t : Template} (h : RendersClosed d s t) (n : Nat) :
    t.Leads d (.clear n) (.any n) :=
  leads_template d s h.2 t h.1 n

theorem RendersClosed.clauses {t : Template} (h : RendersClosed d s t) :
    (s.clauses.map (template d)).template d = .ok t ∧
      ∀ w ∈ (s.clauses.map wordings).wordings, w.Closed d := by
  obtain ⟨c⟩ := s
  exact ⟨template_of d c ▸ h.1, wordings_of c ▸ h.2⟩

/-- **A reader meets the subqueries in parentheses** at any depth. -/
theorem Encloses.meets (h : s.Encloses q) {t : Template} (ht : RendersClosed d s t)
    {binder : Binder} (quiet : binder.Quiet d) :
    ∃ u, RendersClosed d q u ∧ ∃ binder' : Binder, binder'.Quiet d ∧
      d.Meets .start (Template.fill binder t).1 ("(" ++ (Template.fill binder' u).1 ++ ")") := by
  induction h generalizing t binder with
  | @here s q h =>
    have laid := Clauses.laid_template s.clauses ht.clauses.2 t ht.clauses.1 0
    exact laid.meets (fun _ _ renders => RendersClosed.leads renders) h quiet rfl
  | @deeper s r q h h' ih =>
    have laid := Clauses.laid_template s.clauses ht.clauses.2 t ht.clauses.1 0
    obtain ⟨u, hu, binder', quiet', outer⟩ :=
      laid.meets (fun _ _ renders => RendersClosed.leads renders) h quiet rfl
    obtain ⟨v, hv, binder'', quiet'', inner⟩ := ih hu quiet'
    exact ⟨v, hv, binder'', quiet'', outer.trans inner⟩
  | @rows s r q table names options h h' ih =>
    obtain ⟨lead, u, rfl, hu, hlead⟩ :=
      Clauses.query_template h ht.clauses.2 t ht.clauses.1
    obtain ⟨v, hv, binder', quiet', inner⟩ := ih hu (quiet.fill lead)
    obtain ⟨_, hread, rfl⟩ :=
      (hlead 0).leads (fun _ _ renders => RendersClosed.leads renders) binder quiet .start rfl
    rw [Template.fill_append]
    exact ⟨v, hv, binder', quiet', inner.append_left hread⟩

theorem RendersClosed.closed_fill {t : Template} (h : RendersClosed d s t) {binder : Binder}
    (quiet : binder.Quiet d) : d.Closed (Template.fill binder t).1 :=
  Dialect.closed_of_leads (h.leads 0 binder quiet)

theorem RendersClosed.compile_eq {t : Template} (h : RendersClosed d s t) (binder : Binder) :
    s.compile d binder = .ok (Template.fill binder t) := by
  rw [Statement.compile_eq, h.1]
  rfl

/-- **Compiled statements are closed, whatever the names in them are.**  The marker of named
placeholders may be any character that is no quote and no parenthesis.  A subquery in parentheses is
compiled to a closed text between them, and they are outside quotes. -/
theorem compile_closed {mode : ParamMode} {marker : Char} {text : String} {b : Binder}
    (hmarker : marker ∉ d.signs) (hs : ∀ w ∈ s.wordings, w.Closed d)
    (compiled : s.compile d (.fresh mode marker) = .ok (text, b)) :
    d.Closed text ∧ ∀ q, s.Encloses q → ∃ before inner after b₁ b₂,
      text = before ++ ("(" ++ inner ++ ")") ++ after ∧
      (∃ p ∈ d.read .start before.toList, p.zone.isWithin = false) ∧
      q.compile d b₁ = .ok (inner, b₂) ∧ d.Closed inner := by
  have quiet : (Binder.fresh mode marker).Quiet d := by
    cases mode
    · trivial
    · exact hmarker
  obtain ⟨t, ht⟩ : ∃ t, RendersClosed d s t := by
    rw [Statement.compile_eq] at compiled
    cases ht : s.template d with
    | error e => simp [ht, Except.map] at compiled
    | ok t => exact ⟨t, ht, hs⟩
  obtain ⟨rfl, rfl⟩ : (Template.fill (.fresh mode marker) t).1 = text ∧
      (Template.fill (.fresh mode marker) t).2 = b := by
    simpa [ht.compile_eq, Prod.ext_iff] using compiled
  refine ⟨ht.closed_fill quiet, fun q encloses => ?_⟩
  obtain ⟨u, hu, binder, quiet', before, after, p, written, hread, out⟩ := encloses.meets ht quiet
  exact ⟨before, (Template.fill binder u).1, after, binder, _, written, ⟨p, hread, out⟩,
    hu.compile_eq binder, hu.closed_fill quiet'⟩

/-- Names may be full of quotes and parentheses, and a text may begin with what closes a name. -/
theorem compile_closed_nested :
    let q : Statement := of { Clauses.ofBody (.select [.plain (.name "a](.b'")] [] .none) with
      filters := [⟨.compare "=" "]" [.value (.int 1)], .and⟩, ⟨.raw "] <> '('", .and⟩] }
    let s : Statement := of { Clauses.ofBody (.select [⟨.query q, some ")["⟩]
      [.plain (.raw "] + [x]"), .plain (.name "]")] .none) with orders := [.raw "']'"] }
    let inner := "SELECT * FROM [a]](].[b'] WHERE ([]]] = @p1) AND ] <> '('"
    let text := "SELECT ] + [x], []]] FROM (" ++ inner ++ ") AS [)[] ORDER BY ']'"
    s.compile .tsql (.fresh .named '@') = .ok (text, .named '@' (.ofList [("p1", .int 1)])) ∧
      Dialect.Closed .tsql text ∧ ∃ before inner after b₁ b₂,
        text = before ++ ("(" ++ inner ++ ")") ++ after ∧
        (∃ p ∈ Dialect.read .tsql .start before.toList, p.zone.isWithin = false) ∧
        q.compile .tsql b₁ = .ok (inner, b₂) ∧ Dialect.Closed .tsql inner := by
  intro q s inner text
  have compiled :
      s.compile .tsql (.fresh .named '@') = .ok (text, .named '@' (.ofList [("p1", .int 1)])) := by
    rfl
  have marker : '@' ∉ Dialect.signs .tsql := by decide
  have wordings : ∀ w ∈ s.wordings, w.Closed .tsql := by decide
  have enclosed : s.clauses.enclosed = [q] := rfl
  obtain ⟨closed, nested⟩ := compile_closed marker wordings compiled
  exact ⟨compiled, closed, nested q (.here (by simp [enclosed]))⟩

end Statement

end PolySql
