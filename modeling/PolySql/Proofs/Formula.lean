import PolySql.Text.Whitespace

/-!
# Formulas in text

A Boolean formula is read from a text with the precedence of SQL: `AND` (also `&&`) binds more
tightly than `XOR`, `XOR` more tightly than `OR` (also `||`), and parentheses group.  Words are
separated by white space and parentheses.

The reader goes from left to right and reads all of the text or fails (`Formula.read?`).  It keeps
the left sides that wait for a right side (`Pending`); a connective first takes those that bind at
least as tightly as it does.

`Reads r m signs` says what signs mean wherever they stand after connectives of rank at most `r`.
Its rules are the ways in which texts are put together: words, parentheses, and joining by one
connective (`Reads.combined`) or by several (`Reads.chained`).
-/

namespace PolySql

/-- What joins two formulas. -/
inductive Connective where
  | and
  | xor
  | or
  deriving DecidableEq, Repr

namespace Connective

/-- How tightly it binds. -/
def rank : Connective → Nat
  | and => 3
  | xor => 2
  | or => 1

def apply : Connective → Bool → Bool → Bool
  | and => Bool.and
  | xor => Bool.xor
  | or => Bool.or

/-- All of the values, an odd number of them, or any. -/
def combine : Connective → List Bool → Bool
  | and, vs => vs.all id
  | xor, vs => vs.count true % 2 == 1
  | or, vs => vs.any id

/-- The connective of a keyword. -/
def ofWord? : String → Option Connective
  | "AND" | "&&" => some and
  | "XOR" => some xor
  | "OR" | "||" => some or
  | _ => none

theorem apply_assoc (c : Connective) (x y z : Bool) :
    c.apply (c.apply x y) z = c.apply x (c.apply y z) := by
  cases c <;> simp [apply, Bool.and_assoc, Bool.or_assoc]

theorem rank_inj {c c' : Connective} : c.rank = c'.rank ↔ c = c' := by
  cases c <;> cases c' <;> decide

theorem combine_cons (c : Connective) (v : Bool) (vs : List Bool) :
    c.combine (v :: vs) = vs.foldl c.apply v := by
  induction vs generalizing v with
  | nil => cases c <;> cases v <;> rfl
  | cons w vs ih =>
    rw [List.foldl_cons, ← ih]
    cases c with
    | and | or => simp [combine, apply, Bool.and_assoc, Bool.or_assoc]
    | xor => cases v <;> cases w <;> simp [combine, apply, Nat.add_assoc]

end Connective

/-- A Boolean formula over words. -/
inductive Formula where
  | word (word : String)
  | join (connective : Connective) (left right : Formula)
  deriving DecidableEq, Repr

/-- The truth of the formula where `ρ` says which words are true. -/
def Formula.holds (ρ : String → Bool) : Formula → Bool
  | word w => ρ w
  | join c φ ψ => c.apply (φ.holds ρ) (ψ.holds ρ)

/-! ### Signs -/

/-- What a text is made of. -/
inductive Sign where
  | opening
  | closing
  | connective (connective : Connective)
  | word (word : String)
  deriving DecidableEq, Repr

namespace Sign

/-- A word that is no keyword stands for itself. -/
def ofWord (w : String) : Sign :=
  match Connective.ofWord? w with
  | some c => connective c
  | none => word w

/-- The signs of a character that ends a word. -/
def ofMark? (c : Char) : Option (List Sign) :=
  if Text.isWhitespace c then some []
  else if c = '(' then some [opening]
  else if c = ')' then some [closing]
  else none

/-- The word that was begun, if there is any of it. -/
def begun (word : List Char) : List Sign :=
  if word.isEmpty then [] else [ofWord (String.ofList word)]

/-- The signs of the characters after the word that was begun. -/
def scan (word : List Char) : List Char → List Sign
  | [] => begun word
  | c :: cs =>
    match ofMark? c with
    | some signs => begun word ++ signs ++ scan [] cs
    | none => scan (word ++ [c]) cs

/-- The signs of a text. -/
def ofText (text : String) : List Sign := scan [] text.toList

/-- A mark ends the word before it. -/
theorem scan_mark {c : Char} {signs : List Sign} (h : ofMark? c = some signs) (word : List Char)
    (cs cs' : List Char) : scan word (cs ++ c :: cs') = scan word cs ++ signs ++ scan [] cs' := by
  induction cs generalizing word with
  | nil => simp [scan, h]
  | cons a cs ih =>
    cases ha : ofMark? a with
    | none => simp [scan, ha, ih]
    | some signs' => simp [scan, ha, ih]

theorem scan_word {cs : List Char} (h : ∀ c ∈ cs, ofMark? c = none) (word : List Char) :
    scan word cs = begun (word ++ cs) := by
  induction cs generalizing word with
  | nil => simp [scan]
  | cons c cs ih =>
    rw [scan, h c (by simp)]
    simp only [ih fun c hc => h c (by simp [hc]), List.append_assoc, List.singleton_append]

/-- A text without marks in it is one sign. -/
theorem ofText_word {w : String} (ne : w ≠ "") (h : ∀ c ∈ w.toList, ofMark? c = none) :
    ofText w = [ofWord w] := by
  have ne : w.toList ≠ [] := by simpa using ne
  rw [ofText, scan_word h, List.nil_append, begun, if_neg (by simpa using ne), String.ofList_toList]

theorem ofText_parens (s : String) :
    ofText ("(" ++ s ++ ")") = .opening :: ofText s ++ [.closing] := by
  have opens : ofMark? '(' = some [.opening] := by decide
  have closes : ofMark? ')' = some [.closing] := by decide
  have front := scan_mark opens [] [] (s.toList ++ [')'])
  have back := scan_mark closes [] s.toList []
  simp only [ofText, String.toList_append]
  simpa [scan, begun, back] using front

/-- A word between spaces. -/
theorem ofText_spaced {w : String} (ne : w ≠ "") (h : ∀ c ∈ w.toList, ofMark? c = none)
    (s t : String) : ofText (s ++ (" " ++ w ++ " ") ++ t) = ofText s ++ ofWord w :: ofText t := by
  have space : ofMark? ' ' = some [] := by decide
  have middle := scan_mark space [] w.toList t.toList
  have front := scan_mark space [] s.toList (w.toList ++ ' ' :: t.toList)
  have word : scan [] w.toList = [ofWord w] := ofText_word ne h
  simp only [ofText, String.toList_append]
  simpa [middle, word] using front

end Sign

/-! ### Reading -/

/-- Left sides with their connectives that wait for a right side, the last one first. -/
abbrev Pending := List (Formula × Connective)

namespace Pending

/-- Those at the front that bind at least as tightly as a connective of rank `r`. -/
def tight (r : Nat) (p : Pending) : Pending := p.takeWhile fun x => decide (r ≤ x.2.rank)

/-- Those that go on waiting. -/
def loose (r : Nat) (p : Pending) : Pending := p.dropWhile fun x => decide (r ≤ x.2.rank)

/-- The left sides with `φ` for the right side of the last one. -/
def joined (p : Pending) (φ : Formula) : Formula := p.foldl (fun φ x => .join x.2 x.1 φ) φ

/-- The truth of the left sides with a right side of truth `b`. -/
def holds (ρ : String → Bool) (p : Pending) (b : Bool) : Bool :=
  p.foldl (fun b x => x.2.apply (x.1.holds ρ) b) b

theorem holds_joined (ρ : String → Bool) (p : Pending) (φ : Formula) :
    (p.joined φ).holds ρ = p.holds ρ (φ.holds ρ) := by
  induction p generalizing φ with
  | nil => rfl
  | cons x p ih => exact ih (.join x.2 x.1 φ)

theorem tight_append_loose (r : Nat) (p : Pending) : p.tight r ++ p.loose r = p :=
  List.takeWhile_append_dropWhile

theorem le_rank_of_mem_tight {r : Nat} {p : Pending} : ∀ x ∈ p.tight r, r ≤ x.2.rank := by
  intro x hx
  simpa using List.all_eq_true.1 List.all_takeWhile x hx

theorem tight_of_loose_eq_nil {r : Nat} {p : Pending} (h : p.loose r = []) : p.tight r = p := by
  simpa [h] using p.tight_append_loose r

theorem loose_loose (r : Nat) (p : Pending) : (p.loose r).loose r = p.loose r := by
  induction p with
  | nil => rfl
  | cons x p ih => by_cases h : r ≤ x.2.rank <;> simp_all [loose]

theorem tight_loose (r : Nat) (p : Pending) : (p.loose r).tight r = [] := by
  induction p with
  | nil => rfl
  | cons x p ih => by_cases h : r ≤ x.2.rank <;> simp_all [loose, tight]

/-- Left sides that wait for the same connective may be joined before it or after it. -/
theorem holds_apply {c : Connective} {p : Pending} (h : ∀ x ∈ p, x.2 = c) (ρ : String → Bool)
    (b b' : Bool) : p.holds ρ (c.apply b b') = c.apply (p.holds ρ b) b' := by
  induction p generalizing b with
  | nil => rfl
  | cons x p ih =>
    have hx : x.2 = c := h x (by simp)
    have hp := ih fun y hy => h y (by simp [hy])
    simp only [holds, List.foldl_cons] at hp ⊢
    rw [hx, ← c.apply_assoc, hp]

end Pending

/-- The left sides outside each open parenthesis, those inside the last one, and the formula after
them, unless one is to come. -/
structure Reader where
  outer : List Pending
  pending : Pending
  last? : Option Formula

namespace Reader

/-- Reading one sign.  It fails where the sign cannot stand. -/
def step (s : Reader) (sign : Sign) : Option Reader :=
  match sign, s.last?, s.outer with
  | .word w, none, _ => some ⟨s.outer, s.pending, some (.word w)⟩
  | .opening, none, _ => some ⟨s.pending :: s.outer, [], none⟩
  | .closing, some φ, p :: outer => some ⟨outer, p, some (s.pending.joined φ)⟩
  | .connective c, some φ, _ =>
    some ⟨s.outer, ((s.pending.tight c.rank).joined φ, c) :: s.pending.loose c.rank, none⟩
  | _, _, _ => none

/-- The formula that was read, if it is at an end. -/
def done? (s : Reader) : Option Formula :=
  match s.outer, s.last? with
  | [], some φ => some (s.pending.joined φ)
  | _, _ => none

end Reader

/-- The formula of a text. -/
def Formula.read? (text : String) : Option Formula :=
  (Sign.ofText text).foldlM Reader.step ⟨[], [], none⟩ >>= Reader.done?

/-! ### What signs mean -/

/-- After connectives of rank at most `r` the signs read as a right side of meaning `m`, up to what
connectives of a rank below `r` make of it. -/
def Reads (r : Nat) (m : (String → Bool) → Bool) (signs : List Sign) : Prop :=
  ∀ outer p, (∀ x ∈ p, x.2.rank ≤ r) →
    ∃ p' φ, signs.foldlM Reader.step ⟨outer, p, none⟩ = some ⟨outer, p', some φ⟩ ∧
      p'.loose r = p.loose r ∧
      ∀ ρ, (p'.tight r).holds ρ (φ.holds ρ) = (p.tight r).holds ρ (m ρ)

namespace Reads

variable {r : Nat} {m : (String → Bool) → Bool} {signs : List Sign}

theorem word (r : Nat) (w : String) : Reads r (fun ρ => ρ w) [.word w] :=
  fun _ p _ => ⟨p, .word w, rfl, rfl, fun _ => rfl⟩

theorem ne_nil (h : Reads r m signs) : signs ≠ [] := by
  rintro rfl
  obtain ⟨p', φ, run, -⟩ := h [] [] (by simp)
  simp at run

/-- Signs may be read after fewer connectives. -/
theorem mono {r' : Nat} (h : Reads r m signs) (le : r' ≤ r) : Reads r' m signs := by
  intro outer p hp
  obtain ⟨p', φ, run, loose, tight⟩ := h outer p fun x hx => Nat.le_trans (hp x hx) le
  -- What rank `r` takes, rank `r'` takes too, and then goes on.
  have split (p : Pending) :
      p.loose r' = (p.loose r).loose r' ∧ p.tight r' = p.tight r ++ (p.loose r).tight r' := by
    have tighter : ∀ x ∈ p.tight r, decide (r' ≤ x.2.rank) = true := fun x hx => by
      simpa using Nat.le_trans le (Pending.le_rank_of_mem_tight x hx)
    constructor
    · conv => lhs; rw [← p.tight_append_loose r]
      exact List.dropWhile_append_of_pos tighter
    · conv => lhs; rw [← p.tight_append_loose r]
      exact List.takeWhile_append_of_pos tighter
  refine ⟨p', φ, run, ?_, fun ρ => ?_⟩
  · rw [(split p').1, loose, ← (split p).1]
  · have same : (p'.tight r).holds ρ (φ.holds ρ) = (p.tight r).holds ρ (m ρ) := tight ρ
    simp only [Pending.holds] at same ⊢
    rw [(split p').2, (split p).2, loose, List.foldl_append, List.foldl_append, same]

/-- Between parentheses anything is a right side. -/
theorem parens (h : Reads 1 m signs) (r : Nat) : Reads r m (.opening :: signs ++ [.closing]) := by
  intro outer p _
  obtain ⟨p', φ, run, loose, tight⟩ := h (p :: outer) [] (by simp)
  have all : p'.tight 1 = p' := Pending.tight_of_loose_eq_nil loose
  refine ⟨p, p'.joined φ, ?_, rfl, fun ρ => ?_⟩
  · simp [List.foldlM_append, run, Reader.step]
  · rw [all] at tight
    rw [Pending.holds_joined, tight]
    rfl

/-- Both sides of a connective may have connectives of its rank themselves. -/
theorem join {c : Connective} {m' : (String → Bool) → Bool} {signs' : List Sign}
    (h : Reads c.rank m signs) (h' : Reads c.rank m' signs') :
    Reads c.rank (fun ρ => c.apply (m ρ) (m' ρ)) (signs ++ .connective c :: signs') := by
  intro outer p hp
  obtain ⟨p₁, φ, run, loose, tight⟩ := h outer p hp
  have waiting : ∀ x ∈ ((p₁.tight c.rank).joined φ, c) :: p₁.loose c.rank, x.2.rank ≤ c.rank := by
    rw [loose]
    rintro x (_ | ⟨_, hx⟩)
    · exact Nat.le_refl _
    · exact hp x ((List.dropWhile_suffix _).subset hx)
  obtain ⟨p₂, ψ, run', loose', tight'⟩ := h' outer _ waiting
  -- After connectives of rank at most `c`'s, only those that are `c` itself are taken.
  have same : ∀ x ∈ p.tight c.rank, x.2 = c := fun x hx =>
    Connective.rank_inj.1 (Nat.le_antisymm (hp x ((List.takeWhile_prefix _).subset hx))
      (Pending.le_rank_of_mem_tight x hx))
  refine ⟨p₂, ψ, ?_, ?_, fun ρ => ?_⟩
  · simpa [List.foldlM_append, run, Reader.step] using run'
  · calc p₂.loose c.rank
        = (p₁.loose c.rank).loose c.rank := by
          rw [loose']
          exact List.dropWhile_cons_of_pos (by simp)
      _ = p.loose c.rank := by rw [Pending.loose_loose, loose]
  · calc (p₂.tight c.rank).holds ρ (ψ.holds ρ)
        = ((p₁.loose c.rank).tight c.rank).holds ρ
            (c.apply (((p₁.tight c.rank).joined φ).holds ρ) (m' ρ)) := by
          rw [tight', Pending.tight, List.takeWhile_cons_of_pos (by simp)]
          rfl
      _ = c.apply ((p.tight c.rank).holds ρ (m ρ)) (m' ρ) := by
          rw [Pending.tight_loose, Pending.holds_joined, tight]
          rfl
      _ = (p.tight c.rank).holds ρ (c.apply (m ρ) (m' ρ)) := (Pending.holds_apply same ρ _ _).symm

end Reads

/-! ### Several formulas -/

section Strung

variable {ι κ : Type} {c : Connective} {m : (String → Bool) → Bool} {signs : List Sign}
variable (label : ι → Connective) (spell : ι → List Sign) {n : ι → (String → Bool) → Bool}

/-- The signs of each entry with its connective before them. -/
def led (xs : List ι) : List Sign := xs.flatMap fun x => .connective (label x) :: spell x

/-- The signs of the entries with connectives between them.  That of the first is not needed. -/
def strung : List ι → List Sign
  | [] => []
  | x :: xs => spell x ++ led label spell xs

theorem Reads.followed (h : Reads c.rank m signs) (xs : List ι)
    (hxs : ∀ x ∈ xs, label x = c ∧ Reads c.rank (n x) (spell x)) :
    Reads c.rank (fun ρ => (xs.map (n · ρ)).foldl c.apply (m ρ)) (signs ++ led label spell xs) := by
  induction xs generalizing m signs with
  | nil => simpa [led] using h
  | cons x xs ih =>
    obtain ⟨hx, reads⟩ := hxs x (by simp)
    have joined := ih (h.join reads) fun y hy => hxs y (by simp [hy])
    simpa [led, hx] using joined

/-- **Signs that one connective joins** read as the connective's combination of the meanings. -/
theorem Reads.combined {xs : List ι} (ne : xs ≠ []) (same : ∀ x ∈ xs.tail, label x = c)
    (h : ∀ x ∈ xs, Reads c.rank (n x) (spell x)) :
    Reads c.rank (fun ρ => c.combine (xs.map (n · ρ))) (strung label spell xs) := by
  cases xs with
  | nil => exact absurd rfl ne
  | cons x xs =>
    simp only [List.map_cons, Connective.combine_cons]
    exact Reads.followed label spell (h x (by simp)) xs fun y hy => ⟨same y hy, h y (by simp [hy])⟩

/-! ### Several connectives -/

/-- Neighbours in a list. -/
structure Run (ι : Type) where
  first : ι
  rest : List ι

namespace Run

def entries (run : Run ι) : List ι := run.first :: run.rest

def map (f : ι → κ) (run : Run ι) : Run κ := ⟨f run.first, run.rest.map f⟩

theorem entries_map (f : ι → κ) (run : Run ι) : (run.map f).entries = run.entries.map f := rfl

end Run

/-- The entries in runs.  A run begins before each entry with the connective `cut`. -/
def runs (cut : Connective) : List ι → List (Run ι)
  | [] => []
  | x :: xs =>
    match runs cut xs with
    | [] => [⟨x, []⟩]
    | run :: others =>
      if label run.first = cut then ⟨x, []⟩ :: run :: others else ⟨x, run.entries⟩ :: others

theorem runs_map (label : κ → Connective) (f : ι → κ) (cut : Connective) (xs : List ι) :
    runs label cut (xs.map f) = (runs (label ∘ f) cut xs).map (·.map f) := by
  induction xs with
  | nil => rfl
  | cons x xs ih =>
    simp only [List.map_cons, runs, ih]
    rcases runs (label ∘ f) cut xs with _ | ⟨run, others⟩
    · rfl
    · by_cases h : label (f run.first) = cut <;> simp [h, Run.map, Run.entries]

/-- The runs after the first begin with the connective `cut`. -/
theorem label_first (cut : Connective) (xs : List ι) :
    ∀ run ∈ (runs label cut xs).tail, label run.first = cut := by
  induction xs with
  | nil => simp [runs]
  | cons x xs ih =>
    rw [runs]
    rcases h : runs label cut xs with _ | ⟨run, others⟩
    · simp
    · rw [h] at ih
      by_cases hrun : label run.first = cut
      · simpa [hrun] using ih
      · simpa [hrun] using ih

/-- A run is made of entries, and after its first one none has the connective `cut`. -/
theorem label_rest (cut : Connective) (xs : List ι) :
    ∀ run ∈ runs label cut xs, run.first ∈ xs ∧
      ∀ x ∈ run.rest, label x ≠ cut ∧ x ∈ xs.tail := by
  induction xs with
  | nil => simp [runs]
  | cons x xs ih =>
    rw [runs]
    rcases h : runs label cut xs with _ | ⟨run, others⟩
    · simp
    · rw [h] at ih
      have mem : ∀ run' ∈ run :: others, ∀ y ∈ run'.rest, label y ≠ cut ∧ y ∈ xs :=
        fun run' hrun' y hy => ((ih run' hrun').2 y hy).imp_right List.mem_of_mem_tail
      -- The entry is a run of its own, or it goes to the front of the next one.
      by_cases hrun : label run.first = cut
      · simp only [hrun, if_true]
        rintro run' (_ | ⟨_, hrun'⟩)
        · simp
        · exact ⟨List.mem_cons_of_mem x (ih run' hrun').1, mem run' hrun'⟩
      · simp only [hrun, if_false]
        rintro run' (_ | ⟨_, hrun'⟩)
        · refine ⟨by simp, ?_⟩
          rintro y (_ | ⟨_, hy⟩)
          · exact ⟨hrun, (ih run (by simp)).1⟩
          · exact mem run (by simp) y hy
        · have later := List.mem_cons_of_mem run hrun'
          exact ⟨List.mem_cons_of_mem x (ih run' later).1, mem run' later⟩

theorem runs_ne_nil {cut : Connective} {xs : List ι} (ne : xs ≠ []) : runs label cut xs ≠ [] := by
  cases xs with
  | nil => exact absurd rfl ne
  | cons x xs =>
    rw [runs]
    rcases runs label cut xs with _ | ⟨run, others⟩
    · simp
    · by_cases hrun : label run.first = cut <;> simp [hrun]

theorem strung_eq_tail (xs : List ι) : strung label spell xs = (led label spell xs).tail := by
  cases xs <;> rfl

/-- The signs of the runs are the signs of the entries. -/
theorem strung_runs (cut : Connective) (xs : List ι) :
    strung (fun run : Run ι => label run.first) (fun run => strung label spell run.entries)
      (runs label cut xs) = strung label spell xs := by
  -- With the first connective written too, the runs are taken apart one by one.
  have same : led (fun run : Run ι => label run.first)
      (fun run => strung label spell run.entries) (runs label cut xs) = led label spell xs := by
    induction xs with
    | nil => rfl
    | cons x xs ih =>
      rw [runs]
      rcases h : runs label cut xs with _ | ⟨run, others⟩
      · rw [h] at ih
        simp_all [led, strung, Run.entries]
      · rw [h] at ih
        by_cases hrun : label run.first = cut <;> simp_all [led, strung, Run.entries]
  rw [strung_eq_tail, same, ← strung_eq_tail]

/-- The truth of values with connectives between them: any of the runs between `OR`s, in each an odd
number of the runs between `XOR`s, in each of these all. -/
def Connective.chain (xs : List (Connective × Bool)) : Bool :=
  or.combine ((runs Prod.fst or xs).map fun run =>
    xor.combine ((runs Prod.fst xor run.entries).map fun run =>
      and.combine (run.entries.map Prod.snd)))

/-- **Signs with connectives between them** read as the chain of the meanings. -/
theorem Reads.chained {xs : List ι} (ne : xs ≠ []) (h : ∀ x ∈ xs, ∀ r, Reads r (n x) (spell x)) :
    Reads 1 (fun ρ => Connective.chain (xs.map fun x => (label x, n x ρ)))
      (strung label spell xs) := by
  have ands : ∀ run ∈ runs label .or xs, ∀ run' ∈ runs label .xor run.entries,
      Reads Connective.and.rank (fun ρ => Connective.and.combine (run'.entries.map (n · ρ)))
        (strung label spell run'.entries) := by
    intro run hrun run' hrun'
    obtain ⟨first, rest⟩ := label_rest label .or xs run hrun
    obtain ⟨first', rest'⟩ := label_rest label .xor run.entries run' hrun'
    have mem : ∀ x ∈ run.entries, x ∈ xs := by
      rintro x (_ | ⟨_, hx⟩)
      · exact first
      · exact List.mem_of_mem_tail (rest x hx).2
    refine Reads.combined label spell (by simp [Run.entries]) (fun x hx => ?_) (fun x hx => ?_)
    -- Between two `XOR`s that stand between two `OR`s, only `AND` is left.
    · have notXor := (rest' x hx).1
      have notOr := (rest x (rest' x hx).2).1
      cases hlabel : label x <;> simp_all
    · refine h x (mem x ?_) _
      rcases hx with _ | ⟨_, hx⟩
      · exact first'
      · exact List.mem_of_mem_tail (rest' x hx).2
  have xors : ∀ run ∈ runs label .or xs, Reads Connective.xor.rank (fun ρ =>
      Connective.xor.combine ((runs label .xor run.entries).map fun run' =>
        Connective.and.combine (run'.entries.map (n · ρ)))) (strung label spell run.entries) := by
    intro run hrun
    rw [← strung_runs label spell .xor]
    exact Reads.combined _ _ (runs_ne_nil label (by simp [Run.entries]))
      (label_first label .xor run.entries)
      fun run' hrun' => (ands run hrun run' hrun').mono (by decide)
  have ors := Reads.combined (c := .or) _ _ (runs_ne_nil label ne) (label_first label .or xs)
    fun run hrun => (xors run hrun).mono (by decide)
  rw [strung_runs] at ors
  simp only [Connective.chain, runs_map, List.map_map, Function.comp_def, Run.entries_map]
  exact ors

end Strung

/-- A text that reads on its own has the formula it reads as. -/
theorem Reads.read? {text : String} {m : (String → Bool) → Bool}
    (h : Reads 1 m (Sign.ofText text)) :
    ∃ φ, Formula.read? text = some φ ∧ ∀ ρ, φ.holds ρ = m ρ := by
  obtain ⟨p', φ, run, loose, tight⟩ := h [] [] (by simp)
  have all : p'.tight 1 = p' := Pending.tight_of_loose_eq_nil loose
  refine ⟨p'.joined φ, ?_, fun ρ => ?_⟩
  · simp [Formula.read?, run, Reader.done?]
  · rw [Pending.holds_joined, ← all, tight]
    rfl

example : Formula.read? "a OR (b XOR c) && d" = some (.join .or (.word "a")
    (.join .and (.join .xor (.word "b") (.word "c")) (.word "d"))) := by decide

end PolySql
