import PolySql.Proofs.Writing

/-!
# Placeholders

Positional and named compilation differ in the placeholders alone.

**One template for both** (`Statement.compile_positional_named`).  A statement compiles for both
kinds of binders or fails for both with the same error.  If it compiles, the same pieces of text
stand around `?` in the one text and around the names `p(k+1)`, …, `p(k+n)` in the other, where `k`
values were bound before; the values of the slots go to the end of either binder, under these names
in the second, and what was bound before is as it was.

A template is taken apart into the text before its first slot, the texts after its slots and their
values (`fill_eq_weave`), so what is left is what either binder does with a list of values
(`bindEach_positional`, `bindEach_numbered`).
-/

namespace PolySql

namespace Binder

/-! ### Names -/

theorem nameAt_inj {m n : Nat} : nameAt m = nameAt n ↔ m = n := by
  constructor
  · intro h
    have digits : Nat.toDigits 10 m = Nat.toDigits 10 n := by
      simpa [nameAt, toString, Nat.repr] using congrArg String.toList h
    have hm := Nat.ofDigitChars_toDigits (b := 10) (n := m) (by decide) (by decide)
    have hn := Nat.ofDigitChars_toDigits (b := 10) (n := n) (by decide) (by decide)
    rw [← hm, ← hn, digits]
  · rintro rfl
    rfl

/-- The values under their names, where `k` values were bound before. -/
def numbered (k : Nat) (values : List Value) : List (String × Value) :=
  values.mapIdx fun i value => (nameAt (k + i + 1), value)

/-- The placeholders of `n` values, where `k` values were bound before. -/
def namedPlaceholders (marker : Char) (k n : Nat) : List String :=
  (List.range n).map fun i => String.singleton marker ++ nameAt (k + i + 1)

theorem numbered_append (k : Nat) (vs ws : List Value) :
    numbered k (vs ++ ws) = numbered k vs ++ numbered (k + vs.length) ws := by
  simp [numbered, List.mapIdx_append, Nat.add_assoc, Nat.add_comm, Nat.add_left_comm]

@[simp] theorem length_numbered (k : Nat) (vs : List Value) :
    (numbered k vs).length = vs.length := by
  simp [numbered]

theorem map_snd_numbered (k : Nat) (vs : List Value) : (numbered k vs).map Prod.snd = vs :=
  List.ext_getElem (by simp) fun i _ _ => by simp [numbered]

/-- The name after the last one is new. -/
theorem nameAt_not_mem_numbered (vs : List Value) :
    nameAt (vs.length + 1) ∉ (numbered 0 vs).map Prod.fst := by
  simp only [numbered, List.mem_map, List.mem_mapIdx, not_exists, not_and]
  rintro _ ⟨i, hi, rfl⟩ same
  rw [nameAt_inj] at same
  omega

theorem namedPlaceholders_succ (marker : Char) (k n : Nat) :
    namedPlaceholders marker k (n + 1) =
      (String.singleton marker ++ nameAt (k + 1)) :: namedPlaceholders marker (k + 1) n := by
  simp [namedPlaceholders, List.range_succ_eq_map, Nat.add_assoc, Nat.add_comm 1]

/-! ### What a binder makes of a list of values -/

theorem bindEach_positional (vs values : List Value) :
    (positional vs).bindEach values =
      (List.replicate values.length "?", positional (vs ++ values)) := by
  rw [← bindAll_eq]
  rfl

theorem bind_numbered (marker : Char) (vs : List Value) (value : Value) :
    (named marker ⟨numbered 0 vs⟩).bind value =
      (String.singleton marker ++ nameAt (vs.length + 1),
        named marker ⟨numbered 0 (vs ++ [value])⟩) := by
  have new := OrderedMap.entries_insert_of_not_mem (m := ⟨numbered 0 vs⟩)
    (nameAt_not_mem_numbered vs) value
  have last : (OrderedMap.mk (numbered 0 vs)).insert (nameAt (vs.length + 1)) value =
      ⟨numbered 0 (vs ++ [value])⟩ := by
    rw [numbered_append, Nat.zero_add]
    exact congrArg OrderedMap.mk new
  simp only [bind, OrderedMap.size, length_numbered, last]

theorem bindEach_numbered (marker : Char) (vs values : List Value) :
    (named marker ⟨numbered 0 vs⟩).bindEach values =
      (namedPlaceholders marker vs.length values.length,
        named marker ⟨numbered 0 vs ++ numbered vs.length values⟩) := by
  induction values generalizing vs with
  | nil => simp [bindEach, namedPlaceholders, numbered]
  | cons value values ih =>
    -- The next name is one after the number of values, so the rest counts on from there.
    have split : numbered 0 (vs ++ [value]) ++ numbered (vs.length + 1) values =
        numbered 0 vs ++ numbered vs.length (value :: values) := by
      rw [← List.singleton_append (l := values), numbered_append, numbered_append]
      simp
    have len : (vs ++ [value]).length = vs.length + 1 := List.length_append
    simp only [bindEach, bind_numbered, ih, len, split, List.length_cons, namedPlaceholders_succ]

end Binder

/-! ### The pieces of a template -/

namespace Template

/-- The text before the first slot. -/
def head : Template → String
  | [] | .slot _ :: _ => ""
  | .text s :: t => s ++ head t

/-- The text after each slot, up to the next one. -/
def tails : Template → List String
  | [] => []
  | .text _ :: t => tails t
  | .slot _ :: t => head t :: tails t

/-- `head` and `tails` with a placeholder before each of `tails`. -/
def weave (head : String) (tails placeholders : List String) : String :=
  head ++ String.join (List.zipWith (· ++ ·) placeholders tails)

theorem length_tails : ∀ t : Template, t.tails.length = t.values.length
  | [] => rfl
  | .text _ :: t => by simpa [tails, values] using length_tails t
  | .slot _ :: t => by simpa [tails, values] using length_tails t

/-- The values of the slots are bound from left to right, and each placeholder stands between the
texts around its slot. -/
theorem fill_eq_weave (b : Binder) (t : Template) :
    fill b t = (weave t.head t.tails (b.bindEach t.values).1, (b.bindEach t.values).2) := by
  induction t generalizing b with
  | nil => rfl
  | cons piece t ih =>
    cases piece with
    | text s => simp [ih, weave, head, tails, values, String.append_assoc]
    | slot value =>
      simp [ih, weave, head, tails, values, Binder.bindEach, String.append_assoc]

end Template

/-! ### Compiling for either binder -/

namespace Binder

/-- A named binder that took `vs` from the start holds them under the names from `p1` on. -/
theorem bindEach_fresh_named (marker : Char) (vs : List Value) :
    ((fresh .named marker).bindEach vs).2 = named marker ⟨numbered 0 vs⟩ :=
  congrArg Prod.snd (bindEach_numbered marker [] vs)

theorem bindEach_fresh_positional (marker : Char) (vs : List Value) :
    ((fresh .positional marker).bindEach vs).2 = positional vs :=
  congrArg Prod.snd (bindEach_positional [] vs)

end Binder

namespace Statement

open Binder Template

/-- **One template for both kinds of placeholders.**  The binders at the start are fresh ones that
took `vs` and `ws` one by one; the names go on from the number of `ws`. -/
theorem compile_positional_named (d : Dialect) (s : Statement) (marker : Char)
    (vs ws : List Value) :
    (∃ e,
      s.compile d ((fresh .positional marker).bindEach vs).2 = .error e ∧
      s.compile d ((fresh .named marker).bindEach ws).2 = .error e) ∨
    ∃ (head : String) (tails : List String) (values : List Value),
      tails.length = values.length ∧
      s.compile d ((fresh .positional marker).bindEach vs).2 =
        .ok (weave head tails (List.replicate values.length "?"), positional (vs ++ values)) ∧
      ((fresh .named marker).bindEach ws).2 = named marker ⟨numbered 0 ws⟩ ∧
      s.compile d ((fresh .named marker).bindEach ws).2 =
        .ok (weave head tails (namedPlaceholders marker ws.length values.length),
          named marker ⟨numbered 0 ws ++ numbered ws.length values⟩) := by
  simp only [compile_eq, bindEach_fresh_positional]
  rw [bindEach_fresh_named]
  -- Both fill one template, so they differ in what the binders make of its values.
  cases s.template d with
  | error e => exact .inl ⟨e, rfl, rfl⟩
  | ok t =>
    refine .inr ⟨t.head, t.tails, t.values, length_tails t, ?_, rfl, ?_⟩
    · rw [Except.map, fill_eq_weave, bindEach_positional]
    · rw [Except.map, fill_eq_weave, bindEach_numbered]

end Statement

end PolySql
