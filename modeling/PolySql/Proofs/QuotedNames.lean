import PolySql.Proofs.Literals

/-!
# Reading quoted names

A quoted name is read up to its closing mark, where two closing marks stand for one
(`QuotePair.read?`).  A dotted name is read segment by segment with a dot between two segments
(`Dialect.readName?`); a segment is a quoted name or a bare `*`.

**Quoting loses nothing and ends where the name ends** (`Dialect.names_read_back`): a quoted name is
read back with anything after it but a closing mark, a dotted name is read back as its segments, and
so no two names are quoted alike.  The closing mark of a segment is followed by a dot or by nothing,
so it is never taken for half of a doubled one.
-/

namespace PolySql

/-! ### One name -/

/-- Read up to the closing mark, where two stand for one: what is before it, and what after. -/
def readDoubled? (mark : Char) : List Char → Option (List Char × List Char)
  | [] => none
  | [c] => if c = mark then some ([], []) else none
  | c :: c' :: cs =>
    if c ≠ mark then (readDoubled? mark (c' :: cs)).map (prepend [c])
    else if c' = mark then (readDoubled? mark cs).map (prepend [mark])
    else some ([], c' :: cs)

variable {mark c : Char} {cs rest text : List Char}

theorem readDoubled?_cons (ne : c ≠ mark) (cs : List Char) :
    readDoubled? mark (c :: cs) = (readDoubled? mark cs).map (prepend [c]) := by
  cases cs with
  | nil => simp [readDoubled?, ne]
  | cons c' cs => rw [readDoubled?, if_pos ne]

theorem readDoubled?_mark_mark (cs : List Char) :
    readDoubled? mark (mark :: mark :: cs) = (readDoubled? mark cs).map (prepend [mark]) := by
  rw [readDoubled?, if_neg (not_not_intro rfl), if_pos rfl]

/-- A mark ends the name, unless another follows. -/
theorem readDoubled?_mark (h : rest.head? ≠ some mark) :
    readDoubled? mark (mark :: rest) = some ([], rest) := by
  cases rest with
  | nil => simp [readDoubled?]
  | cons c rest =>
    have ne : c ≠ mark := by simpa using h
    simp [readDoubled?, ne]

theorem readDoubled?_doubled (text cs : List Char) :
    readDoubled? mark (doubled mark text ++ cs) = (readDoubled? mark cs).map (prepend text) := by
  refine read_flatMap (fun c cs => ?_) text cs
  split
  · next same =>
    subst same
    exact readDoubled?_mark_mark cs
  · next ne => exact readDoubled?_cons ne cs

theorem length_of_readDoubled? (h : readDoubled? mark cs = some (text, rest)) :
    rest.length < cs.length := by
  fun_induction readDoubled? mark cs generalizing text rest with
  | case1 => nomatch h
  | case2 => simp_all
  | case3 => simp_all
  | case4 c c' cs ne ih =>
    obtain ⟨⟨text, rest⟩, read, same⟩ := Option.map_eq_some_iff.1 h
    cases same
    have := ih read
    simp only [List.length_cons] at this ⊢
    omega
  | case5 c cs ne ih =>
    obtain ⟨⟨text, rest⟩, read, same⟩ := Option.map_eq_some_iff.1 h
    cases same
    have := ih read
    simp only [List.length_cons]
    omega
  | case6 => simp_all

namespace QuotePair

variable {q : QuotePair}

/-- Read a quoted name: the name, and what stands after its closing mark. -/
def read? (q : QuotePair) : List Char → Option (List Char × List Char)
  | [] => none
  | c :: cs => if c = q.opening then readDoubled? q.closing cs else none

/-- A quoted name is read as the name, and reading ends where it ends. -/
theorem read?_around (name : List Char) (h : rest.head? ≠ some q.closing) :
    q.read? (q.around name ++ rest) = some (name, rest) := by
  have inside : readDoubled? q.closing (doubled q.closing name ++ q.closing :: rest) =
      some (name, rest) := by
    rw [readDoubled?_doubled, readDoubled?_mark h]
    simp [prepend]
  simpa [around, read?] using inside

theorem length_of_read? (h : q.read? cs = some (text, rest)) : rest.length < cs.length := by
  cases cs with
  | nil => nomatch h
  | cons c cs =>
    simp only [read?, Option.ite_none_right_eq_some] at h
    exact Nat.lt_succ_of_lt (length_of_readDoubled? h.2)

end QuotePair

/-! ### Dotted names -/

/-- A segment of a dotted name. -/
inductive NamePart where
  /-- A bare `*`. -/
  | every
  | name (name : List Char)
  deriving DecidableEq, Repr

namespace NamePart

/-- What a segment is read as. -/
def ofSegment (segment : List Char) : NamePart :=
  if segment = ['*'] then every else name segment

theorem ofSegment_injective : Function.Injective ofSegment := by
  intro s t h
  unfold ofSegment at h
  split at h <;> split at h <;> simp_all

end NamePart

namespace Dialect

variable {d : Dialect}

/-- Read one segment of a dotted name, and what stands after it. -/
def readSegment? (d : Dialect) : List Char → Option (NamePart × List Char)
  | '*' :: cs => some (.every, cs)
  | cs => (d.quotes.read? cs).map fun (name, rest) => (.name name, rest)

theorem length_of_readSegment? {part : NamePart} (h : d.readSegment? cs = some (part, rest)) :
    rest.length < cs.length := by
  unfold readSegment? at h
  split at h
  · cases h
    exact Nat.lt_succ_self _
  · obtain ⟨⟨name, rest'⟩, read, same⟩ := Option.map_eq_some_iff.1 h
    cases same
    exact QuotePair.length_of_read? read

/-- Read a whole dotted name, with a dot between two segments. -/
def readName? (d : Dialect) (cs : List Char) : Option (List NamePart) :=
  match _read : d.readSegment? cs with
  | some (part, []) => some [part]
  | some (part, '.' :: rest) => (d.readName? rest).map (part :: ·)
  | _ => none
termination_by cs.length
decreasing_by
  have := length_of_readSegment? _read
  simp only [List.length_cons] at this
  omega

theorem readName?_last {part : NamePart} (h : d.readSegment? cs = some (part, [])) :
    d.readName? cs = some [part] := by
  rw [readName?]
  split <;> simp_all

theorem readName?_dot {part : NamePart} (h : d.readSegment? cs = some (part, '.' :: rest)) :
    d.readName? cs = (d.readName? rest).map (part :: ·) := by
  rw [readName?]
  split <;> simp_all

/-- A segment is read back before anything but a closing mark. -/
theorem readSegment?_quoteSegment (segment rest : List Char)
    (h : rest.head? ≠ some d.quotes.closing) :
    d.readSegment? (d.quoteSegment segment ++ rest) = some (.ofSegment segment, rest) := by
  unfold quoteSegment NamePart.ofSegment
  split
  · next star =>
    subst star
    rfl
  · have quoted : d.quotes.opening ≠ '*' := by cases d <;> decide
    have read := QuotePair.read?_around segment h
    rw [readSegment?]
    · rw [read]
      rfl
    · rintro cs same
      exact quoted (List.cons.inj same).1

theorem readName?_quoteSegments {segments : List (List Char)} (ne : segments ≠ []) :
    d.readName? (['.'].intercalate (segments.map d.quoteSegment)) =
      some (segments.map NamePart.ofSegment) := by
  induction segments with
  | nil => exact absurd rfl ne
  | cons segment segments ih =>
    cases segments with
    | nil =>
      have read := readSegment?_quoteSegment (d := d) segment [] (by simp)
      exact readName?_last (by simpa using read)
    | cons segment' segments =>
      have dot : d.quotes.closing ≠ '.' := by cases d <;> decide
      have read := readSegment?_quoteSegment (d := d) segment
        ('.' :: ['.'].intercalate ((segment' :: segments).map d.quoteSegment))
        (by simpa using dot.symm)
      rw [List.map_cons, List.map_cons, List.intercalate_cons_cons, List.append_assoc,
        List.singleton_append, ← List.map_cons, readName?_dot read, ih (by simp)]
      rfl

/-- **Quoting a name can be undone.**  A quoted name is read back whatever it is and whatever stands
after it, except a closing mark; a dotted name is read back as its segments, where just the segments
`*` are bare; and no two names are quoted alike. -/
theorem names_read_back (d : Dialect) :
    (∀ name rest : String, rest.toList.head? ≠ some d.quotes.closing →
      d.quotes.read? (d.quoteIdentifier name ++ rest).toList =
        some (name.toList, rest.toList)) ∧
    (∀ name : String, d.readName? (d.quoteName name).toList =
      some ((name.toList.splitOn '.').map .ofSegment)) ∧
    Function.Injective d.quoteIdentifier ∧ Function.Injective d.quoteName := by
  have single (name rest : String) (h : rest.toList.head? ≠ some d.quotes.closing) :
      d.quotes.read? (d.quoteIdentifier name ++ rest).toList = some (name.toList, rest.toList) := by
    rw [String.toList_append, toList_quoteIdentifier]
    exact QuotePair.read?_around name.toList h
  have dotted (name : String) : d.readName? (d.quoteName name).toList =
      some ((name.toList.splitOn '.').map .ofSegment) := by
    rw [toList_quoteName]
    exact readName?_quoteSegments (List.splitOn_ne_nil _ _)
  refine ⟨single, dotted, fun s t same => ?_, fun s t same => ?_⟩
  · have hs := single s "" (by simp)
    rw [same, single t "" (by simp)] at hs
    exact String.toList_injective (by simpa using hs.symm)
  · -- The segments are the same, and the name is its segments with dots between them.
    have hs := dotted s
    rw [same, dotted t] at hs
    have segments := (List.map_inj_right NamePart.ofSegment_injective).1 (Option.some.inj hs)
    have joined := congrArg ['.'].intercalate segments
    rw [List.intercalate_splitOn, List.intercalate_splitOn] at joined
    exact String.toList_injective joined.symm

/-- Closing marks at the borders of a segment, an empty segment and a `*` that is not alone. -/
theorem names_read_back_tsql :
    let name := "]a]"
    let rest := ".[b]"
    rest.toList.head? ≠ some tsql.quotes.closing ∧ tsql.quoteIdentifier name = "[]]a]]]" ∧
      tsql.quotes.read? (tsql.quoteIdentifier name ++ rest).toList =
        some (name.toList, rest.toList) ∧
      tsql.quoteName "].*..[*" = "[]]].*.[].[[*]" ∧
      tsql.readName? (tsql.quoteName "].*..[*").toList =
        some [.name [']'], .every, .name [], .name ['[', '*']] :=
  ⟨by decide, rfl, (names_read_back tsql).1 _ _ (by decide), rfl, (names_read_back tsql).2.1 _⟩

end Dialect

end PolySql
