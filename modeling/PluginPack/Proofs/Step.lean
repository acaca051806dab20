import PluginPack.Journal

/-! Running a step: the equations that open `pure`, `bind`, `map` and failure in the
step monad, and those of the primitive steps that read the file tree or report. Later
proofs rewrite with these and never unfold `ExceptT` or `StateT`. -/

namespace PluginPack

variable {α β : Type}

@[simp] theorem Step.run'_pure (a : α) (w : Workspace) : (pure a : Step α).run' w = (.ok a, w) :=
  rfl

@[simp] theorem Step.run'_bind (x : Step α) (f : α → Step β) (w : Workspace) :
    (x >>= f).run' w = match x.run' w with
      | (.ok a, w') => (f a).run' w'
      | (.error e, w') => (.error e, w') := by
  simp only [Step.run', ExceptT.run_bind, StateT.run_bind]
  rcases (ExceptT.run x).run w with ⟨_ | _, _⟩ <;> rfl

@[simp] theorem Step.run'_map (f : α → β) (x : Step α) (w : Workspace) :
    (f <$> x).run' w = match x.run' w with
      | (.ok a, w') => (.ok (f a), w')
      | (.error e, w') => (.error e, w') := by
  simp only [Step.run', ExceptT.run_map, StateT.run_map]
  rcases (ExceptT.run x).run w with ⟨_ | _, _⟩ <;> rfl

@[simp] theorem Step.run'_throw (e : PackagingError) (w : Workspace) :
    (throw e : Step α).run' w = (.error e, w) :=
  rfl

@[simp] theorem currentStore_run' (w : Workspace) : currentStore.run' w = (.ok w.store, w) :=
  rfl

@[simp] theorem report_run' (level : Level) (text : String) (w : Workspace) :
    (report level text).run' w = (.ok (), { w with notes := w.notes.push ⟨level, text⟩ }) :=
  rfl

@[simp] theorem Step.run'_get (w : Workspace) : (get : Step Workspace).run' w = (.ok w, w) :=
  rfl

@[simp] theorem Step.run'_modify (f : Workspace → Workspace) (w : Workspace) :
    (modify f : Step Unit).run' w = (.ok (), f w) :=
  rfl

@[simp] theorem Step.run'_tryCatch (x : Step α) (handle : PackagingError → Step α) (w : Workspace) :
    (tryCatch x handle).run' w = match x.run' w with
      | (.ok a, w') => (.ok a, w')
      | (.error e, w') => (handle e).run' w' := by
  show ((ExceptT.tryCatch x handle).run).run w = _
  simp only [ExceptT.tryCatch, ExceptT.run_mk, StateT.run_bind]
  change _ = match StateT.run x w with
      | (Except.ok a, w') => (Except.ok a, w')
      | (Except.error e, w') => (handle e).run' w'
  rcases StateT.run x w with ⟨_ | _, _⟩ <;> rfl

@[simp] theorem Step.ofOutcome_run' (x : Outcome α) (w : Workspace) :
    (Step.ofOutcome x).run' w = (x, w) := by
  cases x <;> rfl

@[simp] theorem setStore_run' (s : Files.Store) (w : Workspace) :
    (setStore s).run' w = (.ok (), { w with store := s }) :=
  rfl

theorem Step.run'_bind_of_ok {x : Step α} {f : α → Step β} {a : α} {w w' : Workspace}
    (ran : x.run' w = (.ok a, w')) : (x >>= f).run' w = (f a).run' w' := by
  rw [Step.run'_bind, ran]

theorem Step.run'_bind_eq_ok {x : Step α} {f : α → Step β} {b : β} {w w' : Workspace}
    (run : (x >>= f).run' w = (.ok b, w')) : ∃ a w₁, x.run' w = (.ok a, w₁) ∧ (f a).run' w₁ = (.ok b, w') := by
  rw [Step.run'_bind] at run
  split at run
  · rename_i a w₁ ran
    exact ⟨a, w₁, ran, run⟩
  · simp at run

theorem Step.run'_map_fst (f : α → β) (x : Step α) (w : Workspace) :
    ((f <$> x).run' w).1 = f <$> (x.run' w).1 := by
  rw [Step.run'_map]
  rcases x.run' w with ⟨_ | _, _⟩ <;> rfl

theorem Step.run'_map_eq_ok {x : Step α} {f : α → β} {b : β} {w w' : Workspace}
    (run : (f <$> x).run' w = (.ok b, w')) : ∃ a, x.run' w = (.ok a, w') ∧ f a = b := by
  rw [Step.run'_map] at run
  split at run
  · rename_i a w₁ ran
    simp only [Prod.mk.injEq, Except.ok.injEq] at run
    exact ⟨a, by rw [ran, run.2], run.1⟩
  · simp at run

theorem Step.run'_map_inv {x : Step α} {f : α → β} {r : Except PackagingError β} {w w' : Workspace}
    (run : (f <$> x).run' w = (r, w')) : ∃ r₁, x.run' w = (r₁, w') ∧ r = f <$> r₁ := by
  rw [Step.run'_map] at run
  rcases ran : x.run' w with ⟨_ | a, w₁⟩ <;> rw [ran] at run <;> cases run <;> exact ⟨_, rfl, rfl⟩

theorem Except.exists_of_toOption_map {ε α β : Type} {x : Except ε α} {f : α → β} {b : β}
    (mapped : x.toOption.map f = some b) : ∃ a, x = .ok a ∧ f a = b := by
  cases x <;> simp_all [Except.toOption]

theorem Except.eq_ok_of_toOption {ε α : Type} {x : Except ε α} {a : α} (read : x.toOption = some a) :
    x = .ok a := by
  cases x <;> simp_all [Except.toOption]

theorem Step.run'_of_toOption_map {x : Step α} {w : Workspace} {f : α → β} {b : β}
    (computed : (x.run' w).1.toOption.map f = some b) : ∃ a, x.run' w = (.ok a, (x.run' w).2) ∧ f a = b := by
  obtain ⟨a, ran, read⟩ := Except.exists_of_toOption_map computed
  exact ⟨a, by rw [← ran], read⟩

theorem forIn_of_pure_bind {m : Type → Type} [Monad m] (P : {γ : Type} → m γ → Prop)
    (pure_closed : ∀ {γ : Type} (c : γ), P (pure c : m γ))
    (bind_closed : ∀ {γ δ : Type} {x : m γ} {f : γ → m δ}, P x → (∀ c, P (f c)) → P (x >>= f))
    {xs : List α} {init : β} {body : α → β → m (ForInStep β)} (each : ∀ a b, P (body a b)) :
    P (forIn xs init body) := by
  induction xs generalizing init with
  | nil =>
    rw [List.forIn_nil]
    exact pure_closed init
  | cons a rest ih =>
    rw [List.forIn_cons]
    refine bind_closed (each a init) fun step => ?_
    cases step with
    | done b => exact pure_closed b
    | yield b => exact ih

def Step.Reports (x : Step α) : Prop := ∀ w, ∃ a notes, x.run' w = (.ok a, { w with notes := notes })

namespace Step.Reports

protected theorem pure (a : α) : (pure a : Step α).Reports := fun w => ⟨a, w.notes, rfl⟩

theorem report (level : Level) (text : String) : (report level text).Reports := fun _ => ⟨(), _, rfl⟩

protected theorem bind {x : Step α} {f : α → Step β} (first : x.Reports) (rest : ∀ a, (f a).Reports) :
    (x >>= f).Reports := fun w => by
  obtain ⟨a, notes, ran⟩ := first w
  obtain ⟨b, notes', ran'⟩ := rest a { w with notes := notes }
  exact ⟨b, notes', by rw [Step.run'_bind_of_ok ran, ran']⟩

protected theorem forIn {xs : List α} {init : β} {body : α → β → Step (ForInStep β)}
    (each : ∀ a b, (body a b).Reports) : (forIn xs init body).Reports :=
  forIn_of_pure_bind (m := Step) (fun x => x.Reports) Step.Reports.pure Step.Reports.bind each

end Step.Reports

/-! Steps that leave the file tree as they found it. Reporting, reading the tree and failing
keep it, and so does every step built from those alone; a successful run of such a step then
ends on the file tree it started from. -/

def Step.KeepsStore (x : Step α) : Prop := ∀ w, (x.run' w).2.store = w.store

namespace Step.KeepsStore

protected theorem pure (a : α) : (pure a : Step α).KeepsStore := fun _ => rfl

protected theorem bind {x : Step α} {f : α → Step β} (first : x.KeepsStore) (rest : ∀ a, (f a).KeepsStore) :
    (x >>= f).KeepsStore := fun w => by
  have kept := first w
  rw [Step.run'_bind]
  rcases ran : x.run' w with ⟨result, w₁⟩
  rw [ran] at kept
  cases result with
  | error e => exact kept
  | ok a => exact (rest a w₁).trans kept

protected theorem map (f : α → β) {x : Step α} (kept : x.KeepsStore) : (f <$> x).KeepsStore := fun w => by
  have keptRun := kept w
  rw [Step.run'_map]
  rcases ran : x.run' w with ⟨result, w₁⟩
  rw [ran] at keptRun
  cases result <;> exact keptRun

protected theorem throw (e : PackagingError) : (throw e : Step α).KeepsStore := fun _ => rfl

theorem report (level : Level) (text : String) : (report level text).KeepsStore := fun _ => rfl

theorem currentStore : currentStore.KeepsStore := fun _ => rfl

protected theorem get : (get : Step Workspace).KeepsStore := fun _ => rfl

theorem ofOutcome (x : Outcome α) : (Step.ofOutcome x).KeepsStore := fun w => by
  rw [Step.ofOutcome_run']

theorem attempt {x : Step α} (kept : x.KeepsStore) : (attempt x).KeepsStore := fun w => by
  have keptRun := kept w
  simp only [PluginPack.attempt, Step.run'_bind, Step.run'_get]
  rcases ran : x.run' w with ⟨r, w₁⟩
  rw [ran] at keptRun
  exact keptRun

theorem of_reports {x : Step α} (reports : x.Reports) : x.KeepsStore := fun w => by
  obtain ⟨a, notes, ran⟩ := reports w
  rw [ran]

theorem store_eq {x : Step α} (kept : x.KeepsStore) {w w' : Workspace} {r : Except PackagingError α}
    (run : x.run' w = (r, w')) : w'.store = w.store := by
  have keptRun := kept w
  rwa [run] at keptRun

end Step.KeepsStore

end PluginPack
