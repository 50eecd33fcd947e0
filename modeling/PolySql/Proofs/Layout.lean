import PolySql.Proofs.Ensures
import PolySql.Proofs.Numbers
import PolySql.Proofs.Wording

/-!
# Layouts

A template is laid out (`Laid`) if it is put together from fixed words, numbers, names and texts of
the statement, slots, and templates of subqueries, each in a place where it may stand.  A text that
is written as it is never comes right after closing quotes, where its first character could be taken
for one of them, and parentheses come in pairs.

What is proved of the pieces and of their composition holds of everything that is laid out, so one
walk over the clauses serves every such property.
-/

namespace PolySql

/-! ### Plain texts -/

/-- The characters that may mean more than themselves: quotes, parentheses and placeholders. -/
def isSpecial (c : Char) : Bool :=
  c ∈ ['?', '\'', '\x22', '\x60', '[', ']', '(', ')']

/-- No character is special. -/
def PlainChars (cs : List Char) : Prop := ∀ c ∈ cs, isSpecial c = false

/-- No character of the text is special. -/
def Plain (s : String) : Prop := PlainChars s.toList

/-- Plain, and something. -/
def Words (s : String) : Prop := Plain s ∧ s ≠ ""

instance (cs : List Char) : Decidable (PlainChars cs) :=
  List.decidableBAll (isSpecial · = false) cs

instance (s : String) : Decidable (Plain s) := inferInstanceAs (Decidable (PlainChars s.toList))

instance (s : String) : Decidable (Words s) := inferInstanceAs (Decidable (_ ∧ _))

@[simp] theorem plainChars_append {cs cs' : List Char} :
    PlainChars (cs ++ cs') ↔ PlainChars cs ∧ PlainChars cs' :=
  List.forall_mem_append

@[simp] theorem plain_append {s s' : String} : Plain (s ++ s') ↔ Plain s ∧ Plain s' := by
  simp [Plain]

theorem plain_keyword (d : Dialect) (c : Conjunction) : Ensures (d.keyword c) Plain := by
  cases d <;> cases c <;> first | exact .error _ | exact .ok (by decide)

/-! ### Numbers are plain -/

theorem isSpecial_of_isNumeric {c : Char} (h : isNumeric c = true) : isSpecial c = false := by
  refine Bool.eq_false_iff.2 fun special => ?_
  simp only [isSpecial, decide_eq_true_eq, List.mem_cons, List.not_mem_nil, or_false] at special
  rcases special with rfl | rfl | rfl | rfl | rfl | rfl | rfl | rfl <;> exact absurd h (by decide)

theorem Numeric.plain {s : String} (h : Numeric s) : Plain s := fun c hc =>
  isSpecial_of_isNumeric (h c hc)

theorem plain_pagination (d : Dialect) (count? offset? : Option UInt64) :
    Plain (Token.render d (d.pagination count? offset?)) := by
  cases d <;> cases count? <;> cases offset? <;>
    simp +decide [Dialect.pagination, Token.words, Token.render, Token.text, (numeric_nat _).plain]

/-! ### Layouts -/

/-- A place between the characters of a text, and how many parentheses are open there. -/
inductive Spot where
  /-- Not right after closing quotes. -/
  | clear (depth : Nat)
  | any (depth : Nat)

variable {σ : Type}

/-- From the spot `a` to the spot `b` stands a template that is put together from texts which `W`
holds of and templates of subqueries which `Q` holds of.  The queries of the list stand there in
parentheses. -/
inductive Laid (d : Dialect) (W : Wording → Prop) (Q : σ → Template → Prop) :
    Spot → Template → Spot → List σ → Prop where
  | nil (a : Spot) : Laid d W Q a [] a []
  | empty (a : Spot) : Laid d W Q a [.text ""] a []
  | words (n : Nat) (s : String) (h : Words s) : Laid d W Q (.any n) [.text s] (.clear n) []
  | opening (n : Nat) : Laid d W Q (.any n) [.text "("] (.clear (n + 1)) []
  | closing (n : Nat) : Laid d W Q (.any (n + 1)) [.text ")"] (.clear n) []
  | name {s : String} (n : Nat) (h : W (.name s)) :
    Laid d W Q (.any n) [.text (d.quoteName s)] (.any n) []
  | label {s : String} (n : Nat) (h : W (.name s)) :
    Laid d W Q (.any n) [.text (d.quoteIdentifier s)] (.any n) []
  | verbatim {s : String} (n : Nat) (h : W (.verbatim s)) :
    Laid d W Q (.clear n) [.text s] (.any n) []
  | slot (n : Nat) (v : Value) : Laid d W Q (.any n) [.slot v] (.clear n) []
  /-- A subquery in parentheses. -/
  | enclosed {q : σ} {t : Template} (n : Nat) (h : Q q t) :
    Laid d W Q (.any n) t.parens (.clear n) [q]
  /-- A subquery without parentheses. -/
  | bare {q : σ} {t : Template} (n : Nat) (h : Q q t) : Laid d W Q (.clear n) t (.any n) []
  | append {a b c : Spot} {t u : Template} {qs qs' : List σ} (h : Laid d W Q a t b qs)
    (h' : Laid d W Q b u c qs') : Laid d W Q a (t ++ u) c (qs ++ qs')
  /-- Two texts are one. -/
  | spell {a b c : Spot} {s s' : String} (h : Laid d W Q a [.text s] b [])
    (h' : Laid d W Q b [.text s'] c []) : Laid d W Q a [.text (s ++ s')] c []
  /-- What may stand anywhere may stand where there are no closing quotes before it. -/
  | enter {n : Nat} {b : Spot} {t : Template} {qs : List σ} (h : Laid d W Q (.any n) t b qs) :
    Laid d W Q (.clear n) t b qs
  | leave {n : Nat} {a : Spot} {t : Template} {qs : List σ} (h : Laid d W Q a t (.clear n) qs) :
    Laid d W Q a t (.any n) qs
  | subset {a b : Spot} {t : Template} {qs qs' : List σ} (h : Laid d W Q a t b qs)
    (sub : qs' ⊆ qs) : Laid d W Q a t b qs'

variable {d : Dialect} {W : Wording → Prop} {Q : σ → Template → Prop}

namespace Laid

variable {a b c : Spot} {t u : Template} {qs qs' : List σ} {n : Nat}

/-- Where nothing is written, no subquery is. -/
theorem eq_nil_of_isBlank (h : Laid d W Q a t b qs) (blank : t.isBlank = true) : qs = [] := by
  induction h with
  | enclosed n h => simp [Template.parens, Template.isBlank] at blank
  | append h h' ih ih' =>
    obtain ⟨left, right⟩ := by simpa [Template.isBlank] using blank
    rw [ih (by simpa [Template.isBlank] using left), ih' (by simpa [Template.isBlank] using right)]
    rfl
  | enter h ih | leave h ih => exact ih blank
  | subset h sub ih => exact List.subset_nil.1 (ih blank ▸ sub)
  | _ => rfl

/-- Plain text may be empty where it need not separate anything. -/
theorem text (n : Nat) (s : String) (h : Plain s) :
    Laid d W Q (.clear n) [.text s] (.clear n) [] := by
  by_cases ne : s = ""
  · exact ne ▸ .empty _
  · exact .enter (.words n s ⟨h, ne⟩)

theorem parens (h : Laid d W Q (.clear (n + 1)) t (.any (n + 1)) qs) :
    Laid d W Q (.any n) t.parens (.clear n) qs := by
  simpa [Template.parens] using ((Laid.opening n).append h).append (.closing n)

end Laid

/-! ### Texts that stand alone and texts that follow others -/

/-- The template may stand where there are no closing quotes before it. -/
def Stands (d : Dialect) (W : Wording → Prop) (Q : σ → Template → Prop) (t : Template)
    (qs : List σ) : Prop :=
  ∀ n, Laid d W Q (.clear n) t (.any n) qs

/-- The template may follow any other. -/
def Follows (d : Dialect) (W : Wording → Prop) (Q : σ → Template → Prop) (t : Template)
    (qs : List σ) : Prop :=
  ∀ n, Laid d W Q (.any n) t (.any n) qs

/-- `P` holds of each template with its share of the queries. -/
inductive Each (P : Template → List σ → Prop) : List Template → List σ → Prop where
  | nil : Each P [] []
  | cons {t : Template} {ts : List Template} {qs qs' : List σ} (h : P t qs) (h' : Each P ts qs') :
    Each P (t :: ts) (qs ++ qs')

namespace Each

variable {P : Template → List σ → Prop} {ts us : List Template} {qs qs' : List σ}

theorem single {t : Template} (h : P t qs) : Each P [t] qs := by
  simpa using Each.cons h .nil

theorem nil_iff : Each P [] qs ↔ qs = [] := by
  constructor
  · rintro ⟨⟩
    rfl
  · rintro rfl
    exact .nil

theorem single_iff {t : Template} : Each P [t] qs ↔ P t qs := by
  refine ⟨fun h => ?_, single⟩
  cases h with
  | cons h none =>
    cases none
    simpa using h

theorem append (h : Each P ts qs) (h' : Each P us qs') : Each P (ts ++ us) (qs ++ qs') := by
  induction h with
  | nil => exact h'
  | cons h _ ih => simpa using Each.cons h ih

/-- What a list of results gives, if `k` are the templates of each. -/
theorem ensures_mapM_flatMap {ι α : Type} {f : ι → Except CompileError α} (k : α → List Template)
    {queries : ι → List σ} (xs : List ι)
    (h : ∀ x ∈ xs, Ensures (f x) fun a => Each P (k a) (queries x)) :
    Ensures (xs.mapM f) fun as => Each P (as.flatMap k) (xs.flatMap queries) := by
  induction xs with
  | nil => exact .ok .nil
  | cons x xs ih =>
    rw [List.mapM_cons]
    refine (h x (by simp)).bind fun a ha => ?_
    refine (ih fun y hy => h y (by simp [hy])).bind fun as has => .ok ?_
    simpa using ha.append has

theorem ensures_mapM {ι : Type} {r : ι → Rendering} {queries : ι → List σ} (xs : List ι)
    (h : ∀ x ∈ xs, Ensures (r x) (P · (queries x))) :
    Ensures (xs.mapM r) (Each P · (xs.flatMap queries)) := by
  intro ts rendered
  have each := ensures_mapM_flatMap (fun t => [t]) xs fun x hx t ht => .single (h x hx t ht)
  simpa using each ts rendered

theorem stands_join {s : String} (words : Words s) (h : Each (Stands d W Q) ts qs) :
    Stands d W Q (Template.join s ts) qs := by
  induction h with
  | nil => exact fun n => .leave (.nil _)
  | @cons t ts qs qs' h hs ih =>
    cases hs with
    | nil => simpa [Template.join] using h
    | cons h' hs' =>
      intro n
      have rest := (Laid.words n s words).append (ih n)
      simpa [Template.join, List.intercalate_cons_cons] using (h n).append rest

theorem follows_flatten (h : Each (Follows d W Q) ts qs) : Follows d W Q ts.flatten qs := by
  induction h with
  | nil => exact fun n => .nil _
  | cons h _ ih => exact fun n => (h n).append (ih n)

end Each

end PolySql
