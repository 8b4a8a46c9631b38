import CycleSim.Proofs.Toml.WellFormed
import CycleSim.Toml.Statement

/-!
# What readers give

`Gives reader P` says that every value a reader takes from a text satisfies `P`, wherever the reader
starts.  The rules follow the ways in which readers are built: one after the other, alternatives,
loops and lists.  With them the nodes and the statements read from a text are well formed
(`gives_valueWithin`, `gives_statements`): integers are checked when they are read, and an inline
table takes a name once.
-/

/-- What each step of a fold keeps, the whole fold keeps. -/
lemma List.foldlM_keeps {σ α : Type} {f : σ → α → Option σ} {I : σ → Prop} {items : List α}
    (keeps : ∀ state item state', item ∈ items → I state → f state item = some state' → I state')
    {first last : σ} (start : I first) (folded : items.foldlM f first = some last) : I last := by
  induction items generalizing first with
  | nil =>
    cases folded
    exact start
  | cons item items ih =>
    rw [List.foldlM_cons] at folded
    obtain ⟨next, step, rest⟩ := Option.bind_eq_some_iff.mp folded
    exact ih (fun s a s' mem => keeps s a s' (List.mem_cons_of_mem _ mem))
      (keeps _ _ _ List.mem_cons_self start step) rest

namespace CycleSim.Toml

/-- Whether the node that a statement assigns, if it does, is well formed. -/
def Statement.WellFormed : Statement → Prop
  | .assign _ node => node.WellFormed
  | _ => True

/-- A node added to an inline table keeps it well formed. -/
lemma Table.WellFormed.assignInline {node : Node} {path : List Key} {table table' : Table Node}
    (wf : table.WellFormed) (added : node.WellFormed)
    (assigned : Table.assignInline node path table = some table') : table'.WellFormed := by
  fun_induction Table.assignInline node path table generalizing table' with
  | case1 => cases assigned
  | case2 table key absent =>
    cases assigned
    exact wf.push absent added
  | case3 => cases assigned
  | case4 key path table _ absent ih =>
    obtain ⟨inner, deeper, same⟩ := Option.bind_eq_some_iff.mp assigned
    cases same
    exact wf.push absent (ih (.of_entries_eq_nil rfl) deeper)
  | case5 key path table _ inner present ih =>
    obtain ⟨inner', deeper, same⟩ := Option.bind_eq_some_iff.mp assigned
    cases same
    exact wf.replace (ih (wf.of_find? present) deeper)
  | case6 => cases assigned

namespace Reader

variable {α β σ : Type} {P : α → Prop} {Q : β → Prop}

/-- Whether every value that a reader gives has a property. -/
def Gives (reader : Reader α) (P : α → Prop) : Prop :=
  ∀ cursor value rest, reader cursor = some (value, rest) → P value

/-! ### Rules -/

/-- Nothing is said of a value. -/
lemma gives_true (reader : Reader α) : Gives reader fun _ => True :=
  fun _ _ _ _ => trivial

/-- A reader that takes nothing gives its value. -/
lemma gives_pure {value : α} (holds : P value) : Gives (pure value) P := by
  rintro cursor _ _ ⟨⟩
  exact holds

/-- A reader that fails gives nothing. -/
lemma gives_failure : Gives (failure : Reader α) P := by
  rintro cursor value rest ⟨⟩

/-- The second of two readers may rely on what the first gives. -/
lemma Gives.bind {reader : Reader α} {next : α → Reader β} (first : Gives reader P)
    (second : ∀ value, P value → Gives (next value) Q) : Gives (reader >>= next) Q := by
  intro cursor result rest taken
  obtain ⟨⟨value, between⟩, early, late⟩ := Option.bind_eq_some_iff.mp taken
  exact second value (first _ _ _ early) _ _ _ late

/-- A function of what a reader gives. -/
lemma Gives.map {reader : Reader α} {f : α → β} (first : Gives reader fun value => Q (f value)) :
    Gives (f <$> reader) Q := by
  intro cursor result rest taken
  obtain ⟨⟨value, between⟩, early, late⟩ := Option.bind_eq_some_iff.mp taken
  cases late
  exact first _ _ _ early

/-- Alternatives give what each of them gives. -/
lemma Gives.orElse {first second : Reader α} (left : Gives first P) (right : Gives second P) :
    Gives (first <|> second) P := by
  intro cursor value rest taken
  have either : (first cursor).orElse (fun _ => second cursor) = some (value, rest) := taken
  cases early : first cursor with
  | none =>
    rw [early] at either
    exact right _ _ _ either
  | some result =>
    rw [early] at either
    cases either
    exact left _ _ _ early

/-- An optional part has its property if it is there. -/
lemma Gives.optional {reader : Reader α} (gives : Gives reader P) :
    Gives (optional reader) fun value? => ∀ value ∈ value?, P value :=
  .orElse (.map fun cursor value rest taken => by
    rintro _ ⟨⟩
    exact gives _ _ _ taken) (gives_pure (by simp))

/-- The place of a value says nothing about it. -/
lemma Gives.located {reader : Reader α} (gives : Gives reader P) :
    Gives (located reader) fun result => P result.1 :=
  (gives_true _).bind fun _ _ => gives.bind fun _ holds =>
    (gives_true _).bind fun _ _ => gives_pure holds

/-- A loop whose turns keep an invariant, and end with a result that has a property. -/
lemma gives_loop {turn : σ → Reader (σ ⊕ α)} {I : σ → Prop}
    (turns : ∀ state, I state → Gives (turn state) (Sum.elim I P)) {state : σ} (start : I state) :
    Gives (loop turn state) P := by
  have within (bound : ℕ) : ∀ state, I state → Gives (loopWithin turn bound state) P := by
    induction bound with
    | zero => exact fun _ _ => gives_failure
    | succ bound ih =>
      intro state holds
      refine (turns state holds).bind fun result holds => ?_
      cases result with
      | inl state => exact ih state holds
      | inr result => exact gives_pure holds
  exact (gives_true _).bind fun cursor _ => within _ state start

/-- A list of items between separators. -/
lemma Gives.separated {separator : Reader Unit} {item : Reader α} (gives : Gives item P) :
    Gives (separated separator item) fun items => ∀ item ∈ items, P item := by
  refine gives.bind fun first holds => ?_
  refine gives_loop (I := fun taken => ∀ item ∈ taken, P item) (fun taken all => ?_) (by simpa)
  refine Gives.bind (gives_true _ |>.bind fun _ _ => gives).optional fun next holds => ?_
  cases next with
  | none => exact gives_pure (by simpa using all)
  | some next => exact gives_pure (by simpa using ⟨holds next rfl, all⟩)

/-! ### Scalars -/

/-- Integers are given only if they fit into 64 bits. -/
lemma gives_inRange (value : Int) :
    Gives (inRange value) fun given => (Scalar.integer given).Fits := by
  rw [inRange]
  split
  · rename_i fits
    exact gives_pure ⟨fits.1, Int.lt_of_le_of_lt fits.2 (by decide)⟩
  · exact gives_failure

/-- Integers fit into 64 bits. -/
lemma gives_integer : Gives integer fun value => (Scalar.integer value).Fits := by
  have marked (marker : String) (base : ℕ) :
      Gives (markedInteger marker base) fun value => (Scalar.integer value).Fits :=
    (gives_true _).bind fun _ _ => (gives_true _).bind fun _ _ => gives_inRange _
  have decimal : Gives decimalInteger fun value => (Scalar.integer value).Fits :=
    (gives_true _).bind fun _ _ => (gives_true _).bind fun _ _ => gives_inRange _
  exact .orElse (marked _ _) <| .orElse (marked _ _) <| .orElse (marked _ _) decimal

/-- Scalars fit. -/
lemma gives_scalar : Gives scalar Scalar.Fits := by
  have constant (reader : Reader Unit) {value : Scalar} (fits : value.Fits) :
      Gives (do reader; pure value) Scalar.Fits :=
    (gives_true _).bind fun _ _ => gives_pure fits
  refine .orElse ?_ <| .orElse ?_ <| .orElse ?_ <| .orElse ?_ <| .orElse ?_ ?_
  · exact .map fun _ _ _ _ => trivial
  · exact constant _ trivial
  · exact constant _ trivial
  · exact constant _ trivial
  · exact .map fun _ _ _ _ => trivial
  · exact gives_integer.map

/-- Nodes of scalars are well formed. -/
lemma gives_scalarNode : Gives scalarNode Node.WellFormed :=
  gives_scalar.located.bind fun _ fits => gives_pure (.scalar _ fits)

/-! ### Arrays and inline tables -/

/-- The items of an array are well formed if the items it is read from are. -/
lemma gives_array {item : Reader Node} (gives : Gives item Node.WellFormed) :
    Gives (array item) fun items => ∀ node ∈ items, node.WellFormed := by
  have spaced : Gives (do gap; let node ← item; gap; pure node) Node.WellFormed :=
    (gives_true _).bind fun _ _ => gives.bind fun _ wf => (gives_true _).bind fun _ _ =>
      gives_pure wf
  refine (gives_true _).bind fun _ _ => spaced.separated.optional.bind fun items wf => ?_
  have closing : Gives (do gap; char ']'; pure (items.getD []))
      fun items => ∀ node ∈ items, node.WellFormed := by
    refine (gives_true _).bind fun _ _ => (gives_true _).bind fun _ _ => gives_pure ?_
    cases items with
    | none => exact fun _ mem => absurd mem List.not_mem_nil
    | some items => exact wf items rfl
  dsimp only
  split
  · exact (gives_true _).bind fun _ _ => closing
  · exact closing

/-- An inline table is well formed if the nodes it is read from are. -/
lemma gives_inlineTable {item : Reader Node} (gives : Gives item Node.WellFormed) :
    Gives (inlineTable item) Table.WellFormed := by
  have pair : Gives (do
      let path ← key
      char '='
      blanks
      let node ← item
      blanks
      pure (path, node)) fun pair => pair.2.WellFormed :=
    (gives_true _).bind fun _ _ => (gives_true _).bind fun _ _ => (gives_true _).bind fun _ _ =>
      gives.bind fun _ wf => (gives_true _).bind fun _ _ => gives_pure wf
  refine (gives_true _).bind fun _ _ => pair.separated.optional.bind fun pairs wf => ?_
  refine (gives_true _).bind fun _ _ => (gives_true _).bind fun _ _ => ?_
  split
  · rename_i table folded
    refine gives_pure (List.foldlM_keeps (I := Table.WellFormed) (fun inner pair inner' mem wf' =>
      wf'.assignInline ?_) (.of_entries_eq_nil rfl) folded)
    cases pairs with
    | none => exact absurd mem List.not_mem_nil
    | some pairs => exact wf pairs rfl pair mem
  · exact gives_failure

/-- Values are well formed, however deep they are. -/
lemma gives_valueWithin (depth : Nat) : Gives (valueWithin depth) Node.WellFormed := by
  induction depth with
  | zero => exact gives_scalarNode
  | succ depth ih =>
    refine (gives_true _).bind fun next _ => ?_
    split
    · exact (gives_array ih).located.bind fun _ wf => gives_pure (.array _ wf)
    · exact (gives_inlineTable ih).located.bind fun _ wf => gives_pure (wf.of_entries_eq rfl)
    · exact gives_scalarNode

/-! ### Statements -/

/-- Assignments give well-formed nodes. -/
lemma gives_assignment : Gives assignment Statement.WellFormed :=
  (gives_true _).bind fun _ _ => (gives_true _).bind fun _ _ => (gives_true _).bind fun _ _ =>
    (gives_valueWithin _).bind fun _ wf => (gives_true _).bind fun _ _ => gives_pure wf

/-- Headers have no nodes. -/
lemma gives_header : Gives header Statement.WellFormed :=
  .orElse
    ((gives_true _).bind fun _ _ => (gives_true _).bind fun _ _ => gives_pure trivial)
    ((gives_true _).bind fun _ _ => (gives_true _).bind fun _ _ => gives_pure trivial)

/-- All statements of a text are well formed. -/
lemma gives_statements : Gives statements fun all => ∀ statement ∈ all, statement.WellFormed := by
  refine (gives_true _).bind fun _ _ => ?_
  refine gives_loop (I := fun taken => ∀ statement ∈ taken, statement.WellFormed)
    (fun taken all => ?_) (by simp)
  refine (gives_true _).bind fun _ _ => (gives_true _).bind fun next _ => ?_
  split
  · exact gives_pure (by simpa using all)
  · exact (gives_true _).bind fun _ _ => gives_pure all
  · exact (gives_true _).bind fun _ _ => gives_pure all
  · exact (gives_true _).bind fun _ _ => gives_pure all
  · exact gives_header.bind fun _ wf => gives_pure (by simpa using ⟨wf, all⟩)
  · exact gives_assignment.bind fun _ wf => gives_pure (by simpa using ⟨wf, all⟩)

end Reader

end CycleSim.Toml
