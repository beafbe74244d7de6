import MutationTesting.FileSystem.OnDisk
/-! Sequences of operations that change a state and may fail: what holds after one that succeeds and
after one that fails. -/
namespace MutationTesting

theorem ok_of_toOption {ε α : Type} {outcome : Except ε α} {value : α}
    (isOk : outcome.toOption = some value) : outcome = .ok value := by
  cases outcome with
  | error error => contradiction
  | ok other => exact congrArg Except.ok (Option.some.inj isOk)

namespace Sequence

variable {σ ε α β : Type}

/-- A failure ends a sequence; what was done before it stays. -/
theorem bind_apply (first : ExceptT ε (StateM σ) α) (next : α → ExceptT ε (StateM σ) β)
    (state : σ) :
    (first >>= next) state =
      match first state with
      | (.ok value, between) => next value between
      | (.error error, between) => (.error error, between) := by
  change (ExceptT.bindCont next (first state).1) (first state).2 = _
  obtain ⟨result, between⟩ := first state
  cases result <;> rfl

theorem lift_apply (outcome : Except ε α) (state : σ) :
    (liftM outcome : ExceptT ε (StateM σ) α) state = (outcome, state) := rfl

theorem ok_of_bind {first : ExceptT ε (StateM σ) α}
    {next : α → ExceptT ε (StateM σ) β} {value : β} {before after : σ}
    (done : (first >>= next) before = (.ok value, after)) :
    ∃ middle between, first before = (.ok middle, between) ∧ next middle between = (.ok value, after) := by
  rw [bind_apply] at done
  generalize first before = result at done
  obtain ⟨error | middle, between⟩ := result
  · exact absurd (Prod.mk.inj done).1 (by simp)
  · exact ⟨middle, between, rfl, done⟩

/-- From states with `before` an operation leads to states with `after` for its value, or fails in
states with `failed`. -/
def Leads (before : σ → Prop) (operation : ExceptT ε (StateM σ) α) (after : α → σ → Prop)
    (failed : σ → Prop) : Prop :=
  ∀ state, before state →
    match operation state with
    | (.ok value, behind) => after value behind
    | (.error _, behind) => failed behind

/-- An operation after which a property still holds, also if it fails. -/
abbrev Preserves (holds : σ → Prop) (operation : ExceptT ε (StateM σ) α) : Prop :=
  Leads holds operation (fun _ => holds) holds

namespace Leads

variable {before failed : σ → Prop}

theorem bind {first : ExceptT ε (StateM σ) α} {next : α → ExceptT ε (StateM σ) β}
    {between : α → σ → Prop} {after : β → σ → Prop} (leads : Leads before first between failed)
    (further : ∀ value, Leads (between value) (next value) after failed) :
    Leads before (first >>= next) after failed := by
  intro state holds
  have outcome := leads state holds
  rw [bind_apply]
  generalize first state = result at outcome
  obtain ⟨error | value, behind⟩ := result
  · exact outcome
  · exact further value behind outcome

theorem pure {value : α} {after : α → σ → Prop} (holds : ∀ state, before state → after value state) :
    Leads before (Pure.pure value : ExceptT ε (StateM σ) α) after failed :=
  fun state isBefore => holds state isBefore

theorem throw {error : ε} {after : α → σ → Prop} (holds : ∀ state, before state → failed state) :
    Leads before (MonadExcept.throw error : ExceptT ε (StateM σ) α) after failed :=
  fun state isBefore => holds state isBefore

theorem lift {after : α → σ → Prop} (outcome : Except ε α)
    (holds : ∀ value, outcome = .ok value → ∀ state, before state → after value state)
    (fails : ∀ state, before state → failed state) :
    Leads before (liftM outcome : ExceptT ε (StateM σ) α) after failed := by
  intro state isBefore
  cases outcome with
  | ok value => exact holds value rfl state isBefore
  | error error => exact fails state isBefore

theorem mono {operation : ExceptT ε (StateM σ) α} {after further : α → σ → Prop}
    {earlier later : σ → Prop} (leads : Leads before operation after failed)
    (stronger : ∀ state, earlier state → before state)
    (weaker : ∀ value state, after value state → further value state)
    (weakerFailed : ∀ state, failed state → later state) :
    Leads earlier operation further later := by
  intro state holds
  have outcome := leads state (stronger state holds)
  generalize operation state = result at outcome
  obtain ⟨error | value, behind⟩ := result
  · exact weakerFailed _ outcome
  · exact weaker _ _ outcome

/-- A step that is taken under a condition only, and what follows it in any case. -/
theorem optional {condition : Prop} [Decidable condition] {first : ExceptT ε (StateM σ) PUnit}
    {next : PUnit → ExceptT ε (StateM σ) α} {after : α → σ → Prop}
    (step : condition → Leads before first (fun _ => before) failed)
    (rest : Leads before (next ⟨⟩) after failed) :
    Leads before (if condition then first >>= next else next ⟨⟩) after failed := by
  split
  · rename_i holds
    exact .bind (step holds) fun _ => rest
  · exact rest

theorem behind {operation : ExceptT ε (StateM σ) α}
    (leads : Leads before operation (fun _ => failed) failed) {state : σ} (holds : before state) :
    failed (operation state).2 := by
  have outcome := leads state holds
  generalize operation state = result at outcome
  obtain ⟨error | value, behind⟩ := result <;> exact outcome

theorem mapM {holds : σ → Prop} {items : List α} {operation : α → ExceptT ε (StateM σ) β}
    {good : β → Prop}
    (leads : ∀ item ∈ items,
      Leads holds (operation item) (fun value state => holds state ∧ good value) failed) :
    Leads holds (items.mapM operation)
      (fun values state => holds state ∧ ∀ value ∈ values, good value) failed := by
  induction items with
  | nil => exact .pure fun _ held => ⟨held, by simp⟩
  | cons item rest ih =>
    rw [List.mapM_cons]
    refine .bind (leads item List.mem_cons_self) fun value => ?_
    rintro state ⟨held, isGood⟩
    refine Leads.bind (ih fun item member => leads item (List.mem_cons_of_mem _ member))
      (fun values => .pure fun _ held => ?_) state held
    exact ⟨held.1, List.forall_mem_cons.mpr ⟨isGood, held.2⟩⟩

/-- Checks of the items of a list, one after the other, tell something of each. -/
theorem forM {holds : σ → Prop} {items : List α} {operation : α → ExceptT ε (StateM σ) PUnit}
    {good : α → Prop}
    (leads : ∀ item ∈ items,
      Leads holds (operation item) (fun _ state => holds state ∧ good item) failed) :
    Leads holds (items.forM operation)
      (fun _ state => holds state ∧ ∀ item ∈ items, good item) failed := by
  induction items with
  | nil => exact .pure fun _ held => ⟨held, by simp⟩
  | cons item rest ih =>
    rw [List.forM_eq_forM, List.forM_cons]
    refine .bind (leads item List.mem_cons_self) fun _ => ?_
    rintro state ⟨held, isGood⟩
    refine (ih fun item member => leads item (List.mem_cons_of_mem _ member)).mono
      (fun _ held => held) (fun _ _ held => ?_) (fun _ held => held) state held
    exact ⟨held.1, List.forall_mem_cons.mpr ⟨isGood, held.2⟩⟩

end Leads

/-- Like `Leads`, for operations whose errors tell in which states they fail. -/
def Ends (before : σ → Prop) (operation : ExceptT ε (StateM σ) α) (after : α → σ → Prop)
    (failed : ε → σ → Prop) : Prop :=
  ∀ state, before state →
    match operation state with
    | (.ok value, behind) => after value behind
    | (.error error, behind) => failed error behind

theorem Leads.ends {before failed : σ → Prop} {operation : ExceptT ε (StateM σ) α}
    {after : α → σ → Prop} (leads : Leads before operation after failed) :
    Ends before operation after fun _ => failed :=
  leads

namespace Ends

variable {before : σ → Prop} {failed : ε → σ → Prop}

theorem leads {operation : ExceptT ε (StateM σ) α} {after : α → σ → Prop} {never : σ → Prop}
    (ends : Ends before operation after fun _ => never) : Leads before operation after never :=
  ends

theorem of_leads {operation : ExceptT ε (StateM σ) α} {after : α → σ → Prop}
    (leads : Leads before operation after fun _ => False) : Ends before operation after failed := by
  intro state holds
  have outcome := leads state holds
  generalize operation state = result at outcome
  obtain ⟨error | value, behind⟩ := result
  · exact outcome.elim
  · exact outcome

theorem bind {first : ExceptT ε (StateM σ) α} {next : α → ExceptT ε (StateM σ) β}
    {between : α → σ → Prop} {after : β → σ → Prop} (ends : Ends before first between failed)
    (further : ∀ value, Ends (between value) (next value) after failed) :
    Ends before (first >>= next) after failed := by
  intro state holds
  have outcome := ends state holds
  rw [bind_apply]
  generalize first state = result at outcome
  obtain ⟨error | value, behind⟩ := result
  · exact outcome
  · exact further value behind outcome

theorem pure {value : α} {after : α → σ → Prop} (holds : ∀ state, before state → after value state) :
    Ends before (Pure.pure value : ExceptT ε (StateM σ) α) after failed :=
  fun state isBefore => holds state isBefore

theorem lift {after : α → σ → Prop} (outcome : Except ε α)
    (holds : ∀ value, outcome = .ok value → ∀ state, before state → after value state)
    (fails : ∀ error, outcome = .error error → ∀ state, before state → failed error state) :
    Ends before (liftM outcome : ExceptT ε (StateM σ) α) after failed := by
  intro state isBefore
  cases outcome with
  | ok value => exact holds value rfl state isBefore
  | error error => exact fails error rfl state isBefore

theorem mono {operation : ExceptT ε (StateM σ) α} {after further : α → σ → Prop}
    {earlier : σ → Prop} {later : ε → σ → Prop} (ends : Ends before operation after failed)
    (stronger : ∀ state, earlier state → before state)
    (weaker : ∀ value state, after value state → further value state)
    (weakerFailed : ∀ error state, failed error state → later error state) :
    Ends earlier operation further later := by
  intro state holds
  have outcome := ends state (stronger state holds)
  generalize operation state = result at outcome
  obtain ⟨error | value, behind⟩ := result
  · exact weakerFailed _ _ outcome
  · exact weaker _ _ outcome

end Ends

theorem change_ok {operation : Workspace → Workspace.Result Workspace} {before after : Workspace}
    (done : operation before = .ok after) : OnDisk.change operation before = (.ok (), after) := by
  simp [OnDisk.change, done]

theorem change_error {operation : Workspace → Workspace.Result Workspace} {before : Workspace}
    {fault : Fault} (failed : operation before = .error fault) :
    OnDisk.change operation before = (.error (.fault fault), before) := by
  simp [OnDisk.change, failed]

/-- A change of the files that fails leaves them as they were. -/
theorem Leads.change {operation : Workspace → Workspace.Result Workspace}
    {before after failed : Workspace → Prop} (fails : ∀ workspace, before workspace → failed workspace)
    (done : ∀ workspace changed, before workspace → operation workspace = .ok changed →
      after changed) :
    Leads before (OnDisk.change operation) (fun _ => after) failed := by
  intro workspace isBefore
  cases changed : operation workspace with
  | error fault =>
    rw [change_error changed]
    exact fails workspace isBefore
  | ok other =>
    rw [change_ok changed]
    exact done workspace other isBefore changed

theorem of_change {operation : Workspace → Workspace.Result Workspace}
    {before after : Workspace} (done : OnDisk.change operation before = (.ok (), after)) :
    operation before = .ok after := by
  cases changed : operation before with
  | error fault =>
    rw [change_error changed] at done
    exact absurd (Prod.mk.inj done).1 (by simp)
  | ok other =>
    rw [change_ok changed] at done
    rw [(Prod.mk.inj done).2]

end Sequence

end MutationTesting
