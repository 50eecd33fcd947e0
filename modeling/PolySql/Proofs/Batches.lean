import PolySql.Proofs.Masking
import PolySql.Proofs.Placeholders

/-!
# Batches

A binder is asked for the placeholder of one value or for those of a batch (`Binder.Request`), and
it answers one request after the other (`Binder.run`).

**Batches are bound value by value** (`batches_bound_each`).  After any requests to a fresh binder,
a further batch has the placeholders, and leaves the binder, of its values bound one by one.  The
binder holds the values of the requests, all of them and in order, and those with names have the
names from `p1` on, each its own.  So the operands of `IN` that are bound as a batch are written as
if each were written by itself.

What the binder holds is known after each request (`perform_holding`), and so after any number of
them (`run_holding`).
-/

namespace PolySql

namespace Binder

/-! ### Requests -/

/-- A request to a binder. -/
inductive Request where
  | bind (value : Value)
  | bindAll (batch : List Value)

/-- The values that a request binds. -/
def Request.values : Request → List Value
  | bind value => [value]
  | bindAll batch => batch

/-- Answer a request: its placeholders, and the binder it leaves. -/
def perform (b : Binder) : Request → List String × Binder
  | .bind value =>
    let (placeholder, b) := b.bind value
    ([placeholder], b)
  | .bindAll batch => b.bindAll batch

/-- Answer requests one after the other: all their placeholders, and the binder they leave. -/
def run (b : Binder) : List Request → List String × Binder
  | [] => ([], b)
  | request :: requests =>
    let (placeholders, b) := b.perform request
    let (later, b) := b.run requests
    (placeholders ++ later, b)

theorem perform_eq (b : Binder) (request : Request) :
    b.perform request = b.bindEach request.values := by
  cases request with
  | bind value => rfl
  | bindAll batch => exact b.bindAll_eq batch

/-! ### Names and placeholders -/

/-- The names of `n` values, where `k` values were bound before. -/
def names (k n : Nat) : List String := (List.range n).map fun i => nameAt (k + i + 1)

theorem nodup_names (k n : Nat) : (names k n).Nodup := by
  refine List.Pairwise.map _ (fun i j ne same => ne ?_) List.nodup_range
  rw [nameAt_inj] at same
  omega

theorem map_fst_numbered (k : Nat) (values : List Value) :
    (numbered k values).map Prod.fst = names k values.length :=
  List.ext_getElem (by simp [names]) fun i _ _ => by simp [numbered, names]

/-- The names of `n` values, if they have names. -/
def namesIn (mode : ParamMode) (n : Nat) : List String :=
  match mode with
  | .positional => []
  | .named => names 0 n

/-- The placeholders of `n` values, where `k` values were bound before. -/
def placeholders (mode : ParamMode) (marker : Char) (k n : Nat) : List String :=
  match mode with
  | .positional => List.replicate n "?"
  | .named => (names k n).map (String.singleton marker ++ ·)

variable {mode : ParamMode} {marker : Char}

theorem placeholders_add (k m n : Nat) : placeholders mode marker k (m + n) =
    placeholders mode marker k m ++ placeholders mode marker (k + m) n := by
  cases mode with
  | positional => exact List.replicate_append_replicate.symm
  | named => simp [placeholders, names, List.range_add, Nat.add_assoc]

/-! ### What a binder holds -/

/-- The binder that holds the values and nothing else. -/
def holding (mode : ParamMode) (marker : Char) (values : List Value) : Binder :=
  match mode with
  | .positional => positional values
  | .named => named marker ⟨numbered 0 values⟩

theorem bindEach_holding (vs values : List Value) :
    (holding mode marker vs).bindEach values =
      (placeholders mode marker vs.length values.length, holding mode marker (vs ++ values)) := by
  cases mode with
  | positional => exact bindEach_positional vs values
  | named =>
    have names : namedPlaceholders marker vs.length values.length =
        placeholders .named marker vs.length values.length := by
      simp [namedPlaceholders, placeholders, names]
    have entries : numbered 0 (vs ++ values) = numbered 0 vs ++ numbered vs.length values := by
      rw [numbered_append, Nat.zero_add]
    rw [holding, bindEach_numbered, names, holding, entries]

/-- A request puts its values after the others, and its placeholders go on from theirs. -/
theorem perform_holding (vs : List Value) (request : Request) :
    (holding mode marker vs).perform request =
      (placeholders mode marker vs.length request.values.length,
        holding mode marker (vs ++ request.values)) := by
  rw [perform_eq, bindEach_holding]

theorem run_holding (vs : List Value) (requests : List Request) :
    (holding mode marker vs).run requests =
      (placeholders mode marker vs.length (requests.flatMap Request.values).length,
        holding mode marker (vs ++ requests.flatMap Request.values)) := by
  induction requests generalizing vs with
  | nil => cases mode <;> simp [run, placeholders, names]
  | cons request requests ih =>
    simp only [run, perform_holding, ih, List.length_append, List.flatMap_cons, placeholders_add,
      List.append_assoc]

theorem fresh_eq (mode : ParamMode) (marker : Char) :
    fresh mode marker = holding mode marker [] := by
  cases mode <;> rfl

variable (values : List Value)

theorem size_holding : (holding mode marker values).size = values.length := by
  cases mode with
  | positional => rfl
  | named => exact length_numbered 0 values

theorem mode_params_holding : (holding mode marker values).params.mode = mode := by
  cases mode <;> rfl

theorem values_params_holding : (holding mode marker values).params.values = values := by
  cases mode with
  | positional => rfl
  | named => exact map_snd_numbered 0 values

theorem names_params_holding :
    (holding mode marker values).params.names = namesIn mode values.length := by
  cases mode with
  | positional => rfl
  | named => exact map_fst_numbered 0 values

theorem nodup_namesIn (mode : ParamMode) (n : Nat) : (namesIn mode n).Nodup := by
  cases mode with
  | positional => exact List.nodup_nil
  | named => exact nodup_names 0 n

end Binder

/-! ### The operands of a list -/

/-- A batch is placed as its values are one by one. -/
theorem Writing.placeAll_eq (batch : List Value) : placeAll batch = batch.mapM place := by
  have each (values : List Value) :
      placeAll values = ExceptT.lift (modifyGet (·.bindEach values)) := by
    simp only [placeAll, Binder.bindAll_eq]
  induction batch with
  | nil => exact each []
  | cons value batch ih =>
    rw [List.mapM_cons, ← ih, each, each]
    rfl

variable {d : Dialect}

theorem Operand.writeBatch_eq (operands : List (Operand (Writing String))) :
    writeBatch d operands = writeEach d operands := by
  unfold writeBatch
  split
  · next values all =>
    obtain rfl := eq_values_of_mapM all
    rw [Writing.placeAll_eq, writeEach, List.mapM_map]
    rfl
  · rfl

namespace Condition

/-- Values have commas between them, and none of them is a subquery that would stand alone. -/
theorem writeList_values (values : List Value) :
    writeList d (values.map .value) = Operand.writeList d (values.map .value) := by
  have batch : writeList d (values.map .value) =
      (return ", ".intercalate (← Operand.writeBatch d (values.map .value))) := by
    rcases values with _ | ⟨v, _ | ⟨v', values⟩⟩ <;> rfl
  rw [batch, Operand.writeBatch_eq]
  rfl

/-- What `IN` writes of values is what it would write of them one by one. -/
theorem writeComparison_values {text column : String} {operator : Operator}
    (named : Operator.ofText text = .ok operator) (list : operator.isList = true)
    (values : List Value) :
    writeComparison d text column (values.map .value) = (do
      if values.isEmpty then throw (.invalidOperator text .noOperand)
      let texts ← (values.map Operand.value).mapM (·.write d)
      return "(" ++ d.quoteName column ++ " " ++ operator.symbol ++ " " ++ "(" ++
        ", ".intercalate texts ++ ")" ++ ")") := by
  have known : (MonadExcept.ofExcept (.ok operator) : Writing Operator) = pure operator := rfl
  simp only [writeComparison, named, known, pure_bind, if_pos list, List.isEmpty_map,
    writeList_values, Operand.writeList, Operand.writeEach, bind_assoc]

end Condition

open Binder in
/-- **Batches are bound value by value, and no value takes the place of another.**  `b` is what
any requests leave of a fresh binder.  An `IN` over values writes them one by one, whatever the
binder. -/
theorem batches_bound_each (mode : ParamMode) (marker : Char) (requests : List Request) :
    let values := requests.flatMap Request.values
    let b := ((fresh mode marker).run requests).2
    (∀ batch, b.bindAll batch = b.bindEach batch) ∧
    b.size = values.length ∧
    b.params.mode = mode ∧ b.params.values = values ∧
    b.params.names = namesIn mode values.length ∧ b.params.names.Nodup ∧
    ((fresh mode marker).run requests).1 = placeholders mode marker 0 values.length ∧
    ∀ (d : Dialect) (text column : String) (operator : Operator) (operands : List Value),
      Operator.ofText text = .ok operator → operator.isList = true →
      Condition.writeComparison d text column (operands.map .value) = (do
        if operands.isEmpty then throw (.invalidOperator text .noOperand)
        let texts ← (operands.map Operand.value).mapM (·.write d)
        return "(" ++ d.quoteName column ++ " " ++ operator.symbol ++ " " ++ "(" ++
          ", ".intercalate texts ++ ")" ++ ")") := by
  intro values b
  have ran : (fresh mode marker).run requests =
      (placeholders mode marker 0 values.length, holding mode marker values) := by
    rw [fresh_eq, run_holding]
    rfl
  have left : b = holding mode marker values := congrArg Prod.snd ran
  refine ⟨fun batch => b.bindAll_eq batch, ?_, ?_, ?_, ?_, ?_, congrArg Prod.fst ran,
    fun d text column operator operands named list =>
      Condition.writeComparison_values named list operands⟩
  · rw [left, size_holding]
  · rw [left, mode_params_holding]
  · rw [left, values_params_holding]
  · rw [left, names_params_holding]
  · rw [left, names_params_holding]
    exact nodup_namesIn mode values.length

open Binder in
/-- Five values by two single requests and three batches, and then two more to the right of `IN`. -/
theorem batches_bound_each_named :
    let requests : List Request :=
      [.bind (.text "a"), .bindAll [.int 1, .int 2], .bindAll [], .bind .null, .bindAll [.int 1]]
    let b := ((fresh .named '@').run requests).2
    let more : List Value := [.int 3, .text "a"]
    let after := (b.bindEach more).2
    b.params.values = [.text "a", .int 1, .int 2, .null, .int 1] ∧
      b.params.names = ["p1", "p2", "p3", "p4", "p5"] ∧
      ((fresh .named '@').run requests).1 = ["@p1", "@p2", "@p3", "@p4", "@p5"] ∧
      b.bindAll more = (["@p6", "@p7"], after) ∧
      Operator.ofText " not  in" = .ok .notIn ∧ Operator.notIn.isList = true ∧
      (Condition.writeComparison .mysql " not  in" "t.c" (more.map .value)).result b =
        .ok ("(`t`.`c` NOT IN (@p6, @p7))", after) := by
  intro requests b more after
  obtain ⟨batch, -, -, values, names, -, placeholders, list⟩ :=
    batches_bound_each .named '@' requests
  have named : Operator.ofText " not  in" = .ok .notIn := by rfl
  refine ⟨values, names.trans (by decide), placeholders.trans (by decide), batch more, named, rfl,
    ?_⟩
  rw [list .mysql " not  in" "t.c" .notIn more named rfl]
  rfl

end PolySql
