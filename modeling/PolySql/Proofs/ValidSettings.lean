import PolySql.Proofs.Expansion
import PolySql.Proofs.Nesting

/-!
# Valid settings

Settings are checked by one function and made into a builder by another.

**Both find the same faults** (`Settings.validate_agrees`).  A variable without a value and an engine
that is not registered are found by both and under the same name, and making a builder fails in no
other way.  Settings that are valid make a builder for the registered dialect, with their kind of
placeholders and their marker, so its named placeholders begin with a sign.

The two functions look the expanded name up in their own ways, so what the registry answers is said
once for both (`Registry.get_of_contains`, `Registry.get_of_not_contains`).
-/

namespace PolySql

namespace Registry

variable {α : Type} {r : Registry α} {name : String}

/-- A name that is registered is served by what its key leads to. -/
theorem get_of_contains (h : r.contains name = true) :
    ∃ d, r.get name = .ok d ∧ r.engines.get? (lookupKey name) = some d := by
  obtain ⟨d, found⟩ := Option.isSome_iff_exists.1 h
  exact ⟨d, by rw [get, found], found⟩

theorem get_of_not_contains (h : r.contains name = false) :
    r.get name = .error (.unsupportedEngine name) := by
  have none : r.engines.get? (lookupKey name) = none := by
    simpa [contains, OrderedMap.contains] using h
  rw [get, none]

/-- The engines known from the start are registered under their own names. -/
theorem engines_builtins : builtins.engines = ⟨builtinEngines⟩ := by decide

end Registry

namespace Settings

variable {s : Settings} {env : Environment} {name : String}

/-! ### A variable without a value -/

theorem validate_of_missing (h : env.expand s.dialect = .error name) :
    s.validate env = .error (.missingVariable name) := by
  rw [validate, engineName, h]
  rfl

theorem ofSettings_of_missing (h : env.expand s.dialect = .error name) :
    Builder.ofSettings s env = .error (.missingVariable name) := by
  rw [Builder.ofSettings, engineName, h]
  rfl

/-! ### An engine that is not registered -/

theorem validate_of_unregistered (h : env.expand s.dialect = .ok name)
    (unknown : Registry.builtins.contains name = false) :
    s.validate env = .error (.unsupportedDialect name) := by
  rw [validate, engineName, h]
  simp only [mapError_ok, bind, Except.bind, unknown]
  rfl

theorem ofSettings_of_unregistered (h : env.expand s.dialect = .ok name)
    (unknown : Registry.builtins.contains name = false) :
    Builder.ofSettings s env = .error (.unsupportedEngine name) := by
  rw [Builder.ofSettings, engineName, h]
  simp only [mapError_ok, bind, Except.bind, Builder.ofEngine,
    Registry.get_of_not_contains unknown]

/-! ### An engine that is registered -/

theorem validate_of_registered (h : env.expand s.dialect = .ok name)
    (known : Registry.builtins.contains name = true) :
    s.validate env =
      if Text.isAlphanumeric s.marker || Text.isWhitespace s.marker then
        .error (.invalidMarker s.marker)
      else .ok name := by
  rw [validate, engineName, h]
  simp only [mapError_ok, bind, Except.bind, known, Bool.not_true, Bool.false_eq_true, if_false]
  split <;> rfl

theorem ofSettings_of_registered (h : env.expand s.dialect = .ok name)
    (known : Registry.builtins.contains name = true) :
    ∃ d, Registry.builtinEngines.lookup (Text.lower (Text.trim name)) = some d ∧
      Builder.ofSettings s env = .ok ((Builder.new d s.mode).withMarker s.marker) := by
  obtain ⟨d, answer, found⟩ := Registry.get_of_contains known
  refine ⟨d, ?_, ?_⟩
  · rwa [Registry.engines_builtins] at found
  · rw [Builder.ofSettings, engineName, h]
    simp only [mapError_ok, bind, Except.bind, Builder.ofEngine, answer]
    rfl

end Settings

/-- The text begins with a character that is neither alphanumeric nor white space. -/
def BeginsWithSign (text : String) : Prop :=
  ∃ (sign : Char) (rest : List Char), text.toList = sign :: rest ∧
    Text.isAlphanumeric sign = false ∧ Text.isWhitespace sign = false

theorem Binder.beginsWithSign_of_mem {marker : Char} {k n : Nat} {placeholder : String}
    (sign : Text.isAlphanumeric marker = false ∧ Text.isWhitespace marker = false)
    (h : placeholder ∈ namedPlaceholders marker k n) : BeginsWithSign placeholder := by
  obtain ⟨i, -, rfl⟩ := List.mem_map.1 h
  exact ⟨marker, (nameAt (k + i + 1)).toList, by simp, sign⟩

namespace Settings

/-- **Checking settings and making a builder of them agree.**  A variable without a value and an
engine that is not registered stop both, with the same name, which is the expanded one as it is.
Nothing else stops the builder.  Valid settings make a builder for the dialect that is registered
under the expanded name without the white space around it and in lower case, and whatever it is
called for, its named placeholders are the marker, a sign, with the names from `p1` on. -/
theorem validate_agrees (s : Settings) (env : Environment) :
    (∀ v, Builder.ofSettings s env = .error (.missingVariable v) ↔
      s.validate env = .error (.missingVariable v)) ∧
    (∀ n, Builder.ofSettings s env = .error (.unsupportedEngine n) ↔
      s.validate env = .error (.unsupportedDialect n)) ∧
    (∀ n, s.validate env = .error (.unsupportedDialect n) → env.expand s.dialect = .ok n) ∧
    (∀ e, Builder.ofSettings s env = .error e →
      (∃ v, e = .missingVariable v) ∨ ∃ n, e = .unsupportedEngine n) ∧
    ∀ name, s.validate env = .ok name → env.expand s.dialect = .ok name ∧
      ∃ b, Builder.ofSettings s env = .ok b ∧
        Registry.builtinEngines.lookup (Text.lower (Text.trim name)) = some b.dialect ∧
        b.mode = s.mode ∧ b.marker = s.marker ∧ b.isIdle = true ∧
        (s.mode = .named → ∀ calls,
          (∀ c, .built (.ok c) ∈ (b.run calls).1 → c.NumberedFromOne s.marker) ∧
          ∀ sql params, .builtInto (.ok sql) params ∈ (b.run calls).1 →
            Compiled.NumberedFromOne s.marker ⟨sql, params⟩) ∧
        ∀ n, ∀ placeholder ∈ Binder.namedPlaceholders s.marker 0 n, BeginsWithSign placeholder := by
  cases expanded : env.expand s.dialect with
  | error v =>
    rw [validate_of_missing expanded, ofSettings_of_missing expanded]
    refine ⟨by simp, by simp, by simp, fun e fault => .inl ⟨v, ?_⟩, by simp⟩
    exact (Except.error.inj fault).symm
  | ok n =>
    cases known : Registry.builtins.contains n with
    | false =>
      rw [validate_of_unregistered expanded known, ofSettings_of_unregistered expanded known]
      refine ⟨by simp, by simp, by simp, fun e fault => .inr ⟨n, ?_⟩, by simp⟩
      exact (Except.error.inj fault).symm
    | true =>
      obtain ⟨d, registered, built⟩ := ofSettings_of_registered expanded known
      rw [validate_of_registered expanded known, built]
      split
      · exact ⟨by simp, by simp, by simp, by simp, by simp⟩
      · next sign =>
        refine ⟨by simp, by simp, by simp, by simp, fun name valid => ?_⟩
        obtain rfl := Except.ok.inj valid
        refine ⟨rfl, _, rfl, registered, rfl, rfl, rfl, fun named calls => ?_, fun k p hp => ?_⟩
        · exact Builder.numberedFromOne_run named calls
        · exact Binder.beginsWithSign_of_mem (by simpa using sign) hp

/-- The engine is known after its variable is expanded, the white space is dropped and the letters
are small. -/
theorem validate_agrees_expanded :
    let s : Settings := ⟨"$E ", .named, '@'⟩
    let env : Environment := [("E", "\tPgSQL")]
    s.validate env = .ok "\tPgSQL " ∧
      ∃ b, Builder.ofSettings s env = .ok b ∧ b.dialect = .postgres ∧ b.marker = '@' := by
  intro s env
  have named : Segment.isNameChar 'E' = true ∧ Segment.isNameChar ' ' = false := by decide +kernel
  have divided : Divided "$E ".toList [.bare ['E'], .plain ' '] := by
    have last : Divided [' '] [.plain ' '] := Environment.divided_of_not_mem (by decide)
    have first : Span.Before [' '] (.bare ['E']) :=
      ⟨by decide, by simpa using named.1, by simpa using named.2⟩
    exact .cons first last
  have defined : Span.missing? env [.bare ['E'], .plain ' '] = none := by decide
  have expanded : env.expand s.dialect = .ok "\tPgSQL " := by
    rw [divided.expand_eq, defined]
    exact congrArg Except.ok (by decide)
  have valid : s.validate env = .ok "\tPgSQL " := by
    rw [validate_of_registered expanded (by decide)]
    exact if_neg (by decide +kernel)
  obtain ⟨-, -, -, -, success⟩ := s.validate_agrees env
  obtain ⟨-, b, built, registered, -, marker, -⟩ := success _ valid
  have found : Registry.builtinEngines.lookup (Text.lower (Text.trim "\tPgSQL ")) =
      some .postgres := by decide
  exact ⟨valid, b, built, (Option.some.inj (found.symm.trans registered)).symm, marker⟩

end Settings

end PolySql
