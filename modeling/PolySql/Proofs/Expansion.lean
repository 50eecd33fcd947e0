import PolySql.Proofs.Succeeds
import PolySql.Settings.Basic

/-!
# Expansion as substitution

A text is divided from the left into spans: references to variables, with braces or without, and
characters that stand for themselves (`Span`, `Divided`).  Every text has one division
(`exists_divided`, `Divided.unique`), and it is the one that scanning follows (`Divided.scan_eq`).

**Expansion substitutes in one pass** (`Environment.expand_substitutes`).  It succeeds if every name
of the division has a value, and the values stand where the references stood, as they are; otherwise
it reports the first name that has none.  A text that leaves no reference open is expanded by itself,
whatever follows it (`Environment.expand_append`).
-/

namespace PolySql

theorem mapError_ok {ε ε' α : Type} (f : ε → ε') (a : α) :
    (Except.ok a : Except ε α).mapError f = .ok a := rfl

theorem mapError_error {ε ε' α : Type} (f : ε → ε') (e : ε) :
    (Except.error e : Except ε α).mapError f = .error (f e) := rfl

/-! ### Spans -/

/-- What a text is divided into. -/
inductive Span where
  /-- A character that is no dollar sign. -/
  | plain (c : Char)
  /-- A dollar sign before neither a brace nor a name. -/
  | dollar
  /-- A dollar sign and a name. -/
  | bare (name : List Char)
  /-- A dollar sign and a name in braces. -/
  | braced (name : List Char)
  /-- A dollar sign and a brace that is not closed; the name is the rest of the text. -/
  | unclosed (name : List Char)
  deriving DecidableEq

namespace Span

variable {span : Span} {rest more : List Char}

/-- The characters of a span. -/
def text : Span → List Char
  | plain c => [c]
  | dollar => ['$']
  | bare name => '$' :: name
  | braced name => '$' :: '\x7b' :: name ++ ['\x7d']
  | unclosed name => '$' :: '\x7b' :: name

/-- The span comes first in the text that it and `rest` make up.  A name without braces is as long as
it can be, a name in braces ends at the first closing brace. -/
def Before (rest : List Char) : Span → Prop
  | plain c => c ≠ '$'
  | dollar => ∀ c ∈ rest.head?, c ≠ '\x7b' ∧ Segment.isNameChar c = false
  | bare name => name ≠ [] ∧ (∀ c ∈ name, Segment.isNameChar c = true) ∧
      ∀ c ∈ rest.head?, Segment.isNameChar c = false
  | braced name => '\x7d' ∉ name
  | unclosed name => '\x7d' ∉ name ∧ rest = []

/-- The name of the variable that the span refers to. -/
def name? : Span → Option String
  | plain _ | dollar => none
  | bare name | braced name | unclosed name => some (String.ofList name)

/-- The names of the variables, in the order of the text. -/
def names (spans : List Span) : List String := spans.filterMap name?

/-- The segment that scanning makes of the span. -/
def segment : Span → Segment
  | plain c => .literal c
  | dollar => .literal '$'
  | bare name | braced name | unclosed name => .reference name

/-- What stands in the place of the span; a variable without a value leaves nothing. -/
def substitute (env : Environment) : Span → List Char
  | plain c => [c]
  | dollar => ['$']
  | bare name | braced name | unclosed name => ((env.get? (String.ofList name)).getD "").toList

/-! ### The span that comes first -/

theorem isNameChar_brace : Segment.isNameChar '\x7b' = false := by decide +kernel

theorem text_ne_nil (span : Span) : span.text ≠ [] := by
  cases span <;> simp [text]

/-- A text that is not empty begins with a span. -/
theorem exists_before {cs : List Char} (h : cs ≠ []) :
    ∃ (span : Span) (rest : List Char), span.Before rest ∧ cs = span.text ++ rest := by
  obtain ⟨c, rest, rfl⟩ := List.exists_cons_of_ne_nil h
  by_cases other : c ≠ '$'
  · exact ⟨plain c, rest, other, rfl⟩
  obtain rfl : c = '$' := Decidable.not_not.1 other
  by_cases opened : rest.head? = some '\x7b'
  · obtain ⟨body, rfl⟩ := List.head?_eq_some_iff.1 opened
    by_cases closed : '\x7d' ∈ body
    · obtain ⟨name, rest, rfl, first⟩ := List.eq_append_cons_of_mem closed
      exact ⟨braced name, rest, first, by simp [text]⟩
    · exact ⟨unclosed body, [], ⟨closed, rfl⟩, by simp [text]⟩
  · have stop : ∀ c ∈ (rest.dropWhile Segment.isNameChar).head?, Segment.isNameChar c = false := by
      intro c hc
      have next := List.head?_dropWhile_not Segment.isNameChar rest
      rwa [Option.mem_def.1 hc] at next
    have split : rest.takeWhile Segment.isNameChar ++ rest.dropWhile Segment.isNameChar = rest :=
      List.takeWhile_append_dropWhile
    by_cases unnamed : rest.takeWhile Segment.isNameChar = []
    · rw [unnamed, List.nil_append] at split
      rw [split] at stop
      refine ⟨dollar, rest, fun c hc => ⟨?_, stop c hc⟩, rfl⟩
      rintro rfl
      exact opened hc
    · exact ⟨bare (rest.takeWhile Segment.isNameChar), rest.dropWhile Segment.isNameChar,
        ⟨unnamed, List.all_eq_true.1 List.all_takeWhile, stop⟩, by simp [text, split]⟩

/-- The span that comes first in a text, from its characters alone. -/
def first? : List Char → Option Span
  | [] => none
  | '$' :: '\x7b' :: body =>
    some (if '\x7d' ∈ body then braced (body.takeWhile (· ≠ '\x7d')) else unclosed body)
  | '$' :: rest =>
    some (if (rest.takeWhile Segment.isNameChar).isEmpty then dollar
      else bare (rest.takeWhile Segment.isNameChar))
  | c :: _ => some (plain c)

/-- The characters up to the first one that does not belong to them are found again. -/
theorem takeWhile_append_of_stop {p : Char → Bool} {name : List Char}
    (inside : ∀ c ∈ name, p c = true) (rest : List Char) (stop : ∀ c ∈ rest.head?, p c = false) :
    (name ++ rest).takeWhile p = name ∧ (name ++ rest).dropWhile p = rest := by
  rw [List.takeWhile_append_of_pos inside, List.dropWhile_append_of_pos inside]
  cases rest with
  | nil => simp
  | cons c rest => simp [stop c rfl]

theorem ne_brace_of_not_mem {name : List Char} (h : '\x7d' ∉ name) :
    ∀ c ∈ name, (!decide (c = '\x7d')) = true :=
  fun c hc => by simpa using ne_of_mem_of_not_mem hc h

theorem Before.first?_eq (h : span.Before rest) : first? (span.text ++ rest) = some span := by
  cases span with
  | plain c =>
    have other : c ≠ '$' := h
    simp [text, first?, other]
  | dollar =>
    cases rest with
    | nil => rfl
    | cons c rest =>
      obtain ⟨unopened, stop⟩ := h c rfl
      simp [text, first?, unopened, stop]
  | bare name =>
    obtain ⟨ne, inside, stop⟩ := h
    have taken := (takeWhile_append_of_stop inside rest stop).1
    obtain ⟨c, name, rfl⟩ := List.exists_cons_of_ne_nil ne
    have unopened : c ≠ '\x7b' := by
      rintro rfl
      exact absurd (inside _ (List.mem_cons_self)) (by simp [isNameChar_brace])
    rw [List.cons_append] at taken
    simp [text, first?, unopened, taken]
  | braced name =>
    have taken := (takeWhile_append_of_stop (ne_brace_of_not_mem h) ('\x7d' :: rest) (by simp)).1
    simp [text, first?, taken]
  | unclosed name =>
    obtain ⟨closed, rfl⟩ := h
    simp [text, first?, closed]

/-- Only one span comes first in a text. -/
theorem Before.unique {other : Span} (h : span.Before rest) (h' : other.Before more)
    (same : span.text ++ rest = other.text ++ more) : span = other ∧ rest = more := by
  have first := h.first?_eq
  rw [same, h'.first?_eq] at first
  obtain rfl := Option.some.inj first
  exact ⟨rfl, List.append_cancel_left same⟩

/-- Scanning begins with the span that comes first. -/
theorem Before.scan_eq (h : span.Before rest) :
    Segment.scan (span.text ++ rest) = span.segment :: Segment.scan rest := by
  cases span with
  | plain c =>
    have other : c ≠ '$' := h
    rw [text, List.singleton_append, Segment.scan]
    · rfl
    · simp [other]
    · simp [other]
  | dollar =>
    rw [text, List.singleton_append]
    cases rest with
    | nil => simp [Segment.scan, segment]
    | cons c rest =>
      obtain ⟨unopened, stop⟩ := h c rfl
      rw [Segment.scan]
      · simp [stop, segment]
      · simp [unopened]
  | bare name =>
    obtain ⟨ne, inside, stop⟩ := h
    obtain ⟨taken, dropped⟩ := takeWhile_append_of_stop inside rest stop
    have unopened : ∀ body, name ++ rest ≠ '\x7b' :: body := by
      rintro body same
      obtain ⟨c, name, rfl⟩ := List.exists_cons_of_ne_nil ne
      obtain rfl : c = '\x7b' := (List.cons.inj same).1
      exact absurd (inside _ (List.mem_cons_self)) (by simp [isNameChar_brace])
    rw [text, List.cons_append, Segment.scan]
    · simp [taken, dropped, ne, segment]
    · exact unopened
  | braced name =>
    obtain ⟨taken, dropped⟩ :=
      takeWhile_append_of_stop (ne_brace_of_not_mem h) ('\x7d' :: rest) (by simp)
    simp [text, Segment.scan, taken, dropped, segment]
  | unclosed name =>
    obtain ⟨closed, rfl⟩ := h
    obtain ⟨taken, dropped⟩ :=
      takeWhile_append_of_stop (ne_brace_of_not_mem closed) [] (by simp)
    rw [List.append_nil] at taken dropped
    simp [text, Segment.scan, taken, dropped, segment]

/-! ### Spans that stay first -/

/-- The span ends by itself: more text after it does not belong to it. -/
def Ended (span : Span) : Prop := span ≠ dollar ∧ ∀ name, span ≠ bare name

/-- Nothing is left open: every brace is closed, and the last span ends by itself. -/
def Whole (spans : List Span) : Prop :=
  (∀ name, unclosed name ∉ spans) ∧ ∀ span ∈ spans.getLast?, span.Ended

/-- More text after a span that is first leaves it first, unless it is open to that text. -/
theorem Before.append (h : span.Before rest) (closed : ∀ name, span ≠ unclosed name)
    (last : rest = [] → span.Ended) (more : List Char) : span.Before (rest ++ more) := by
  have next : ¬ span.Ended → (rest ++ more).head? = rest.head? := by
    intro goesOn
    cases rest with
    | nil => exact absurd (last rfl) goesOn
    | cons c rest => rfl
  cases span with
  | plain c | braced name => exact h
  | dollar =>
    rw [Before, next fun ended => ended.1 rfl]
    exact h
  | bare name =>
    rw [Before, next fun ended => ended.2 name rfl]
    exact h
  | unclosed name => exact absurd rfl (closed name)

end Span

/-! ### The division of a text -/

/-- The spans make up the text, and each comes first in what it begins. -/
inductive Divided : List Char → List Span → Prop where
  | nil : Divided [] []
  | cons {span : Span} {rest : List Char} {spans : List Span} (first : span.Before rest)
      (others : Divided rest spans) : Divided (span.text ++ rest) (span :: spans)

theorem exists_divided (cs : List Char) : ∃ spans, Divided cs spans := by
  induction size : cs.length using Nat.strongRecOn generalizing cs with
  | _ n ih =>
    by_cases empty : cs = []
    · exact ⟨[], empty ▸ .nil⟩
    · obtain ⟨span, rest, first, rfl⟩ := Span.exists_before empty
      have shorter : rest.length < n := by
        have := List.length_pos_iff.2 span.text_ne_nil
        rw [List.length_append] at size
        omega
      obtain ⟨spans, others⟩ := ih rest.length shorter rest rfl
      exact ⟨span :: spans, .cons first others⟩

namespace Divided

variable {cs cs' : List Char} {spans spans' : List Span}

theorem nil_iff (h : Divided cs spans) : cs = [] ↔ spans = [] := by
  cases h with
  | nil => simp
  | cons first others => simp [Span.text_ne_nil]

theorem unique (h : Divided cs spans) (h' : Divided cs spans') : spans = spans' := by
  induction h generalizing spans' with
  | nil => exact (h'.nil_iff.1 rfl).symm
  | @cons span rest spans first others ih =>
    generalize same : span.text ++ rest = cs at h'
    cases h' with
    | nil => simp [Span.text_ne_nil] at same
    | cons first' others' =>
      obtain ⟨rfl, rfl⟩ := first.unique first' same
      rw [ih others']

theorem scan_eq (h : Divided cs spans) : Segment.scan cs = spans.map Span.segment := by
  induction h with
  | nil => simp [Segment.scan]
  | cons first others ih => rw [first.scan_eq, ih, List.map_cons]

/-- Where nothing is left open, the division goes on as that of what follows. -/
theorem append (h : Divided cs spans) (whole : Span.Whole spans) (h' : Divided cs' spans') :
    Divided (cs ++ cs') (spans ++ spans') := by
  induction h with
  | nil => exact h'
  | @cons span rest spans first others ih =>
    obtain ⟨closed, last⟩ := whole
    rw [List.append_assoc]
    refine .cons (first.append (fun name same => closed name (by simp [same])) ?_ cs')
      (ih ⟨fun name here => closed name (List.mem_cons_of_mem _ here), fun span' here => ?_⟩)
    · intro none
      obtain rfl := others.nil_iff.1 none
      exact last span rfl
    · refine last span' ?_
      rw [List.getLast?_cons, Option.mem_def.1 here]
      rfl

end Divided

/-! ### Substitution -/

/-- The variable has a value. -/
def Environment.defines (env : Environment) (name : String) : Bool := (env.get? name).isSome

namespace Span

/-- The first name, from the left, of a variable without a value. -/
def missing? (env : Environment) (spans : List Span) : Option String :=
  (names spans).find? fun name => !env.defines name

theorem value_segment (env : Environment) (span : Span) :
    span.segment.value env =
      match span.name?.filter fun name => !env.defines name with
      | none => .ok (span.substitute env)
      | some name => .error name := by
  cases span with
  | plain c | dollar => rfl
  | bare name | braced name | unclosed name =>
    simp only [segment, Segment.value, name?, substitute, Environment.defines]
    cases found : env.get? (String.ofList name) <;> simp [Option.filter_some, found]

/-- The values of the segments, or the first name that has none. -/
theorem mapM_value (env : Environment) (spans : List Span) :
    (spans.map segment).mapM (Segment.value env) =
      match missing? env spans with
      | none => .ok (spans.map (substitute env))
      | some name => .error name := by
  induction spans with
  | nil => rfl
  | cons span spans ih =>
    rw [List.map_cons, List.mapM_cons, ih, value_segment]
    cases named : span.name? with
    | none =>
      have later : missing? env (span :: spans) = missing? env spans := by
        simp [missing?, names, named]
      rw [later]
      cases missing? env spans <;> rfl
    | some name =>
      cases defined : env.defines name with
      | false =>
        have here : missing? env (span :: spans) = some name := by
          simp [missing?, names, named, defined]
        rw [here, Option.filter_some, defined]
        rfl
      | true =>
        have later : missing? env (span :: spans) = missing? env spans := by
          simp [missing?, names, named, defined]
        rw [later, Option.filter_some, defined]
        cases missing? env spans <;> rfl

end Span

theorem Divided.expand_eq {s : String} {spans : List Span} (h : Divided s.toList spans)
    (env : Environment) :
    env.expand s =
      match Span.missing? env spans with
      | none => .ok (String.ofList (spans.flatMap (Span.substitute env)))
      | some name => .error name := by
  rw [Environment.expand, h.scan_eq, Span.mapM_value, List.flatMap_def]
  cases Span.missing? env spans <;> rfl

namespace Environment

/-- Where nothing is left open, two texts are expanded one by one. -/
theorem expand_append (env : Environment) {s s' : String} {spans : List Span}
    (h : Divided s.toList spans) (whole : Span.Whole spans) :
    env.expand (s ++ s') = do
      let t ← env.expand s
      let t' ← env.expand s'
      return t ++ t' := by
  obtain ⟨spans', h'⟩ := exists_divided s'.toList
  have both : Divided (s ++ s').toList (spans ++ spans') := by
    rw [String.toList_append]
    exact h.append whole h'
  have missing : Span.missing? env (spans ++ spans') =
      (Span.missing? env spans).or (Span.missing? env spans') := by
    simp [Span.missing?, Span.names]
  rw [both.expand_eq, h.expand_eq, h'.expand_eq, missing]
  cases Span.missing? env spans with
  | some name => rfl
  | none =>
    cases Span.missing? env spans' with
    | some name => rfl
    | none =>
      rw [List.flatMap_append, String.ofList_append]
      rfl

/-- A text without a dollar sign is divided into its characters. -/
theorem divided_of_not_mem {cs : List Char} (h : '$' ∉ cs) : Divided cs (cs.map .plain) := by
  induction cs with
  | nil => exact .nil
  | cons c cs ih =>
    have other : Span.Before cs (.plain c) := (List.ne_of_not_mem_cons h).symm
    exact .cons other (ih (List.not_mem_of_not_mem_cons h))

/-- **Expansion substitutes in one pass.**  The text has one division into spans.  Expansion succeeds
exactly if every name in it has a value; then the spans are replaced one by one, and what replaces
them is not looked at again.  Otherwise the first name without a value is reported.  Text without a
dollar sign is its own expansion, and a text that leaves nothing open is expanded apart from what
follows it. -/
theorem expand_substitutes (env : Environment) (s : String) :
    ∃ spans, Divided s.toList spans ∧ (∀ other, Divided s.toList other → other = spans) ∧
      ((∃ t, env.expand s = .ok t) ↔ ∀ name ∈ Span.names spans, env.defines name = true) ∧
      (∀ t, env.expand s = .ok t → t = String.ofList (spans.flatMap (Span.substitute env))) ∧
      (∀ fault, (env.expand s).mapError SettingsError.missingVariable = .error fault ↔
        ∃ name, Span.missing? env spans = some name ∧ fault = .missingVariable name) ∧
      ('$' ∉ s.toList → env.expand s = .ok s) ∧
      (Span.Whole spans → ∀ s' t, env.expand (s ++ s') = .ok t ↔
        ∃ u u', env.expand s = .ok u ∧ env.expand s' = .ok u' ∧ t = u ++ u') := by
  obtain ⟨spans, divided⟩ := exists_divided s.toList
  have expanded := divided.expand_eq env
  have complete : Span.missing? env spans = none ↔
      ∀ name ∈ Span.names spans, env.defines name = true := by
    simp [Span.missing?]
  refine ⟨spans, divided, fun other h => h.unique divided, ?_, ?_, ?_, ?_, ?_⟩
  · rw [← complete, expanded]
    cases Span.missing? env spans <;> simp
  · intro t ok
    rw [expanded] at ok
    cases none : Span.missing? env spans with
    | some name => simp [none] at ok
    | none => simpa [none] using ok.symm
  · intro fault
    rw [expanded]
    cases Span.missing? env spans <;> simp [mapError_ok, mapError_error, eq_comm]
  · intro plain
    have characters := divided_of_not_mem plain
    have names : Span.names (s.toList.map .plain) = [] := by
      simp [Span.names, Span.name?]
    rw [characters.expand_eq, Span.missing?, names]
    simp [List.flatMap_map, Span.substitute]
  · intro whole s' t
    rw [env.expand_append divided whole]
    cases env.expand s with
    | error name => simp [bind, Except.bind]
    | ok u =>
      cases env.expand s' with
      | error name => simp [bind, Except.bind]
      | ok u' => simp [bind, Except.bind, pure, Except.pure, eq_comm]

/-- A value that looks like a reference is left as it is, also together with what follows it. -/
theorem expand_substitutes_verbatim :
    let env : Environment := [("X", "$Y")]
    Span.Whole [.braced ['X']] ∧ env.expand "$\x7bX\x7d" = .ok "$Y" ∧
      env.expand ("$\x7bX\x7d" ++ "Z") = .ok "$YZ" := by
  intro env
  have whole : Span.Whole [.braced ['X']] := ⟨by simp, by simp [Span.Ended]⟩
  obtain ⟨spans, -, unique, success, value, -, -, apart⟩ := env.expand_substitutes "$\x7bX\x7d"
  obtain rfl : [.braced ['X']] = spans := by
    have first : Span.Before [] (.braced ['X']) := show '\x7d' ∉ ['X'] by decide
    exact unique _ (.cons first .nil)
  obtain ⟨t, expanded⟩ := success.2 (by decide)
  obtain rfl : t = "$Y" := (value t expanded).trans (by decide)
  obtain ⟨-, -, -, -, -, -, plain, -⟩ := env.expand_substitutes "Z"
  exact ⟨whole, expanded, (apart whole "Z" _).2 ⟨_, _, expanded, plain (by decide), rfl⟩⟩

end Environment

end PolySql
