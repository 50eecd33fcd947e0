import PolySql.Builder

/-!
# Runs of a builder

A program works on a builder call by call.  A call is data here (`Call`), and so is what it answers
(`Answer`); `Builder.perform` makes one call and `Builder.run` makes several, one after the other,
each on the builder that the one before it left.
-/

namespace PolySql

/-- A call on a builder with its arguments. -/
inductive Call where
  /-- Start a statement that does what `body` says. -/
  | start (body : Body Statement)
  | add (addition : Addition)
  | subquery
  | build
  /-- The parameters are what the caller has at hand before the call. -/
  | buildInto (params : Params)

/-- What a call answers. -/
inductive Answer where
  | started
  | added (result : Except CompileError Unit)
  | taken (result : Except CompileError Statement)
  | built (result : Except CompileError Compiled)
  /-- The parameters are what the caller has at hand after the call. -/
  | builtInto (result : Except CompileError String) (params : Params)

namespace Builder

/-- Make a call: its answer, and the builder it leaves. -/
def perform (b : Builder) : Call → Answer × Builder
  | .start body => (.started, b.start body)
  | .add addition =>
    let (result, b) := (add addition).on b
    (.added result, b)
  | .subquery =>
    let (result, b) := subquery.on b
    (.taken result, b)
  | .build =>
    let (result, b) := build.on b
    (.built result, b)
  | .buildInto params =>
    let (result, b, params) := buildInto.on (b, params)
    (.builtInto result params, b)

/-- Make calls one after the other: their answers, and the builder they leave. -/
def run (b : Builder) : List Call → List Answer × Builder
  | [] => ([], b)
  | call :: calls =>
    let (answer, b) := b.perform call
    let (answers, b) := b.run calls
    (answer :: answers, b)

@[simp] theorem run_nil (b : Builder) : b.run [] = ([], b) := rfl

@[simp] theorem run_cons (b : Builder) (call : Call) (calls : List Call) :
    b.run (call :: calls) =
      ((b.perform call).1 :: ((b.perform call).2.run calls).1,
        ((b.perform call).2.run calls).2) := rfl

/-- Later calls are made on the builder that the earlier ones left. -/
theorem run_append (b : Builder) (calls later : List Call) :
    b.run (calls ++ later) =
      ((b.run calls).1 ++ ((b.run calls).2.run later).1, ((b.run calls).2.run later).2) := by
  induction calls generalizing b with
  | nil => rfl
  | cons call calls ih => simp [ih]

/-- Each call is made on the builder that the calls before it left. -/
theorem run_getElem? (b : Builder) (calls : List Call) (i : Nat) :
    (b.run calls).1[i]? = calls[i]?.map fun call => ((b.run (calls.take i)).2.perform call).1 := by
  induction calls generalizing b i with
  | nil => rfl
  | cons call calls ih =>
    cases i with
    | zero => rfl
    | succ i => simpa using ih (b.perform call).2 i

theorem run_concat (b : Builder) (calls : List Call) (last : Call) :
    (b.run (calls ++ [last])).2 = ((b.run calls).2.perform last).2 := by
  rw [run_append]
  rfl

end Builder

end PolySql
