import PolySql.Proofs.Trimming
import PolySql.Proofs.ValidSettings

/-!
# Registrations

What a registry answers is settled by what was registered.  Two names are the same for it if they
differ in the letter case of ASCII and in the white space around them alone (`Registry.SameName`).

**A lookup answers with the latest registration of its name, of those that can be found**
(`Registry.get_registered`).  White space is dropped from a name that is looked up, but not from one
that is registered, so what is registered with white space around its name is found under no name at
all.  The answer is the latest registration of the name, whatever it is, exactly where that one can be
found or serves the engine as the one found does.

A registration that can be found changes the answer for its name and for no other, and one that cannot
be found changes none (`Registry.get_register`); what follows from a sequence of them is an induction
from its end (`Registry.get_registerAll`).
-/

namespace PolySql

namespace Registry

variable {α : Type} {m n : String}

/-! ### Names -/

/-- The names are the same but for the letter case of ASCII and the white space around them. -/
def SameName (m n : String) : Prop :=
  ∃ core core', Text.Surrounds m.toList core ∧ Text.Surrounds n.toList core' ∧
    core.map Char.toLower = core'.map Char.toLower

theorem toList_lookupKey (n : String) :
    (lookupKey n).toList = (Text.trimChars n.toList).map Char.toLower := by
  simp [lookupKey, Text.trim]

/-- The same names are looked up with the same key. -/
theorem sameName_iff : SameName m n ↔ lookupKey m = lookupKey n := by
  rw [← String.toList_inj, toList_lookupKey, toList_lookupKey]
  constructor
  · rintro ⟨core, core', hm, hn, same⟩
    rw [hm.trimChars_eq, hn.trimChars_eq, ← Text.trimChars_map_toLower, same,
      Text.trimChars_map_toLower]
  · intro same
    exact ⟨_, _, Text.surrounds_trimChars m.toList, Text.surrounds_trimChars n.toList, same⟩

instance (m n : String) : Decidable (SameName m n) := decidable_of_iff _ sameName_iff.symm

theorem SameName.refl (n : String) : SameName n n := sameName_iff.2 rfl

/-- There is no white space around the name, so that a lookup finds what is registered under it. -/
def IsFindable (name : String) : Prop := Text.trim name = name

instance (name : String) : Decidable (IsFindable name) := decEq _ _

/-- A name that is looked up meets the same name if there is no white space around that. -/
theorem registeredKey_eq_lookupKey_iff :
    registeredKey m = lookupKey n ↔ IsFindable m ∧ SameName m n := by
  constructor
  · intro met
    -- The key of a lookup has no white space around it, so the name of an equal key has none either.
    have chars : m.toList.map Char.toLower = (Text.trimChars n.toList).map Char.toLower := by
      rw [← toList_lookupKey, ← met, registeredKey, Text.toList_lower]
    have trimmed : (Text.trimChars m.toList).map Char.toLower = m.toList.map Char.toLower := by
      rw [← Text.trimChars_map_toLower, chars, Text.trimChars_map_toLower,
        Text.trimChars_trimChars]
    have same : Text.trimChars m.toList = m.toList :=
      Text.trimChars_eq_self_of_length (by simpa using congrArg List.length trimmed)
    have findable : IsFindable m := by rw [IsFindable, Text.trim, same, String.ofList_toList]
    refine ⟨findable, sameName_iff.2 ?_⟩
    rw [← met, lookupKey, findable, registeredKey]
  · rintro ⟨findable, same⟩
    rw [← sameName_iff.1 same, lookupKey, findable, registeredKey]

/-! ### One registration -/

/-- A registration that can be found answers for its name, and all other answers stay. -/
theorem get_register (r : Registry α) (name : String) (server : α) (n : String) :
    (r.register name server).get n =
      if IsFindable name ∧ SameName name n then .ok server else r.get n := by
  by_cases found : IsFindable name ∧ SameName name n
  · rw [if_pos found, get, register, ← registeredKey_eq_lookupKey_iff.2 found,
      OrderedMap.get?_insert_self]
  · have ne : lookupKey n ≠ registeredKey name :=
      fun met => found (registeredKey_eq_lookupKey_iff.1 met.symm)
    rw [if_neg found, get, register, OrderedMap.get?_insert_of_ne _ ne, get]

theorem contains_iff (r : Registry α) (n : String) :
    r.contains n = true ↔ ∃ server, r.get n = .ok server := by
  constructor
  · intro known
    obtain ⟨server, answer, -⟩ := get_of_contains known
    exact ⟨server, answer⟩
  · rintro ⟨server, answer⟩
    by_contra unknown
    rw [get_of_not_contains (Bool.eq_false_iff.2 unknown)] at answer
    cases answer

/-! ### Sequences of registrations -/

/-- The registrations one after the other. -/
def registerAll (r : Registry α) (registrations : List (String × α)) : Registry α :=
  registrations.foldl (fun r (name, server) => r.register name server) r

/-- The latest of the registrations under this name. -/
def latest? (registrations : List (String × α)) (n : String) : Option (String × α) :=
  (registrations.filter fun entry => SameName entry.1 n).getLast?

/-- The registrations without white space around their names. -/
def findable (registrations : List (String × α)) : List (String × α) :=
  registrations.filter fun entry => IsFindable entry.1

/-- The latest of the registrations under this name says what serves the engine; without one, nothing
does. -/
def answer (registrations : List (String × α)) (n : String) : Except CompileError α :=
  match latest? registrations n with
  | some (_, server) => .ok server
  | none => .error (.unsupportedEngine n)

theorem latest?_concat (registrations : List (String × α)) (entry : String × α) (n : String) :
    latest? (registrations ++ [entry]) n =
      if SameName entry.1 n then some entry else latest? registrations n := by
  by_cases same : SameName entry.1 n
  · simp [latest?, List.filter_append, same]
  · simp [latest?, List.filter_append, same]

/-- The last registration answers for its name. -/
theorem answer_concat (registrations : List (String × α)) (entry : String × α) (n : String) :
    answer (registrations ++ [entry]) n =
      if SameName entry.1 n then .ok entry.2 else answer registrations n := by
  rw [answer, latest?_concat]
  by_cases same : SameName entry.1 n
  · rw [if_pos same, if_pos same]
  · rw [if_neg same, if_neg same, answer]

theorem findable_concat (registrations : List (String × α)) (entry : String × α) :
    findable (registrations ++ [entry]) =
      findable registrations ++ if IsFindable entry.1 then [entry] else [] := by
  simp [findable, List.filter_append, List.filter_singleton]

/-- A lookup answers with the latest registration of its name among those that can be found. -/
theorem get_registerAll (registrations : List (String × α)) (n : String) :
    (empty.registerAll registrations).get n = answer (findable registrations) n := by
  induction registrations using List.reverseRecOn with
  | nil => rfl
  | append_singleton registrations entry ih =>
    have last : empty.registerAll (registrations ++ [entry]) =
        (empty.registerAll registrations).register entry.1 entry.2 := List.foldl_concat ..
    rw [last, get_register, ih, findable_concat]
    by_cases found : IsFindable entry.1
    · rw [if_pos found, answer_concat]
      simp only [found, true_and]
    · rw [if_neg found, List.append_nil, if_neg fun both => found both.1]

/-! ### What can be found of them -/

section

variable {registrations : List (String × α)} {entry : String × α}

theorem answer_of_latest (h : latest? registrations n = some entry) :
    answer registrations n = .ok entry.2 := by
  rw [answer, h]

theorem latest?_findable_eq (registrations : List (String × α)) (n : String) :
    latest? (findable registrations) n =
      ((registrations.filter fun entry => SameName entry.1 n).filter
        fun entry => IsFindable entry.1).getLast? := by
  rw [latest?, findable, List.filter_comm]

/-- The latest registration of a name is found if it can be. -/
theorem latest?_findable (h : latest? registrations n = some entry) (found : IsFindable entry.1) :
    latest? (findable registrations) n = some entry := by
  obtain ⟨earlier, ends⟩ := List.getLast?_eq_some_iff.1 h
  rw [latest?_findable_eq, ends, List.filter_append]
  simp [found]

theorem latest?_findable_of_none (h : latest? registrations n = none) :
    latest? (findable registrations) n = none := by
  rw [latest?_findable_eq, List.getLast?_eq_none_iff.1 h]
  rfl

/-- The registrations that can be found answer as all do where the latest can be found, or serves the
engine as the one found does. -/
theorem answer_findable_iff :
    answer (findable registrations) n = answer registrations n ↔
      ∀ entry ∈ latest? registrations n, IsFindable entry.1 ∨
        ∃ found ∈ latest? (findable registrations) n, found.2 = entry.2 := by
  cases latest : latest? registrations n with
  | none => simp [answer, latest, latest?_findable_of_none latest]
  | some last =>
    rw [answer_of_latest latest]
    constructor
    · rintro same entry ⟨⟩
      cases kept : latest? (findable registrations) n with
      | none =>
        rw [answer, kept] at same
        cases same
      | some found =>
        rw [answer_of_latest kept] at same
        exact .inr ⟨found, rfl, Except.ok.inj same⟩
    · intro all
      rcases all last rfl with bare | ⟨found, kept, same⟩
      · exact answer_of_latest (latest?_findable latest bare)
      · rw [answer_of_latest kept, same]

end

/-! ### From the start -/

/-- The registries to start with, and what is registered in them. -/
inductive Initial : {α : Type} → Registry α → List (String × α) → Prop where
  | empty {α : Type} : Initial (empty : Registry α) []
  | builtins : Initial builtins builtinEngines

/-- What is there from the start is registered before everything else. -/
theorem Initial.registerAll_eq {r : Registry α} {first : List (String × α)} (start : Initial r first)
    (later : List (String × α)) :
    r.registerAll later = Registry.empty.registerAll (first ++ later) := by
  cases start with
  | empty => rfl
  | builtins => exact List.foldl_append.symm

/-- **A lookup answers with the latest registration of its name, of those that can be found**: of those
without white space around their own names.  That is the latest registration of the name, what is there
from the start counting as the earliest, exactly where this one can be found or serves the engine as the
one found does.  A registry contains the names that it answers for.  One more registration is found
under its own name exactly if there is no white space around that, or if the answer was the same before,
and no name but the same ones gets another answer by it. -/
theorem get_registered {r : Registry α} {first : List (String × α)} (start : Initial r first)
    (later : List (String × α)) (n : String) :
    (r.registerAll later).get n = answer (findable (first ++ later)) n ∧
    ((r.registerAll later).get n = answer (first ++ later) n ↔
      ∀ entry ∈ latest? (first ++ later) n, IsFindable entry.1 ∨
        ∃ found ∈ latest? (findable (first ++ later)) n, found.2 = entry.2) ∧
    ((r.registerAll later).contains n = true ↔
      ∃ server, (r.registerAll later).get n = .ok server) ∧
    ∀ (name : String) (server : α),
      (((r.registerAll later).register name server).get name = .ok server ↔
        IsFindable name ∨ (r.registerAll later).get name = .ok server) ∧
      ((r.registerAll later).register name server).get n =
        if IsFindable name ∧ SameName name n then .ok server else (r.registerAll later).get n := by
  have answered : (r.registerAll later).get n = answer (findable (first ++ later)) n := by
    rw [start.registerAll_eq, get_registerAll]
  refine ⟨answered, ?_, contains_iff _ n, fun name server => ⟨?_, get_register _ name server n⟩⟩
  · rw [answered]
    exact answer_findable_iff
  · rw [get_register]
    by_cases found : IsFindable name
    · simp [found, SameName.refl]
    · simp [found]

/-- Registered over a name known from the start, and looked up in other letters and with white space. -/
theorem get_registered_builtins :
    Initial builtins builtinEngines ∧
      (builtins.registerAll [("MariaDB", .ansi), (" mysql", .ansi)]).get "mariadb\t" = .ok .ansi := by
  have start : Initial builtins builtinEngines := .builtins
  exact ⟨start, (get_registered start _ _).1.trans (by decide)⟩

/-- What is registered with white space around its name is not found under that name, though it is the
latest registration of it; an engine that is known already is served as before. -/
theorem get_registered_padded :
    let padded : List (String × Dialect) := [(" firebird ", .ansi), ("\tmysql", .ansi)]
    let r := builtins.registerAll padded
    r.get " firebird " = .error (.unsupportedEngine " firebird ") ∧ r.contains " firebird " = false ∧
      answer (builtinEngines ++ padded) " firebird " = .ok .ansi ∧
      r.get "\tmysql" = .ok .mysql ∧ answer (builtinEngines ++ padded) "\tmysql" = .ok .ansi := by
  decide

end Registry

end PolySql
