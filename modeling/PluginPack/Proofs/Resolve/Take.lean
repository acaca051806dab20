import PluginPack.Proofs.Resolve.Cache

/-! One step of collecting, taken apart. A step reads the file tree, reads the project of the
pending coordinate through the resolver's cache and adds to the journal; taking one pending
dependency leaves the collection as it was, adds an omitted leaf, or expands a node with the
project the resolver gave, which stays cached. The loop repeats the step until the queue is
empty, and a run that has stopped, by failing or with nothing left to take, stays as it is
under more fuel. -/

namespace PluginPack.Resolve

open PluginPack.Project

section Management

variable (managed : List Dependency) (d : Dependency)

@[simp] theorem manageDependency_groupId : (manageDependency managed d).gav.groupId = d.gav.groupId := by
  unfold manageDependency
  split
  · rfl
  · dsimp only
    split <;> rfl

@[simp] theorem manageDependency_artifactId :
    (manageDependency managed d).gav.artifactId = d.gav.artifactId := by
  unfold manageDependency
  split
  · rfl
  · dsimp only
    split <;> rfl

@[simp] theorem manageDependency_type : (manageDependency managed d).type = d.type := by
  unfold manageDependency
  split <;> rfl

@[simp] theorem manageDependency_classifier : (manageDependency managed d).classifier = d.classifier := by
  unfold manageDependency
  split <;> rfl

@[simp] theorem manageDependency_optional : (manageDependency managed d).optional = d.optional := by
  unfold manageDependency
  split <;> rfl

theorem manageDependency_version {e : Dependency} (entry : managedEntry managed d.managementKey = some e)
    (known : e.gav.version ≠ unknownVersion) : (manageDependency managed d).gav.version = e.gav.version := by
  unfold manageDependency
  rw [entry]
  dsimp only
  split
  · rfl
  · rename_i kept
    simp only [bne_iff_ne, ne_eq, Bool.and_eq_true, not_and, not_not] at kept
    exact (kept known).symm

end Management

namespace Collection.take

variable (xs : List (String × Nat)) (v : Nat)

theorem putAssoc_find_self (k : String) :
    (putAssoc xs k v).find? (·.1 == k) = some (k, v) := by
  unfold putAssoc
  split
  · rename_i present
    rw [List.find?_map]
    have same : ((fun e : String × Nat => e.1 == k) ∘
        fun e => if e.1 == k then (k, v) else e) = fun e => e.1 == k := by
      funext e
      by_cases keyed : e.1 = k <;> simp [keyed]
    rw [same]
    obtain ⟨e, member, keyed⟩ := List.any_eq_true.mp present
    obtain ⟨e', hit⟩ : ∃ e', xs.find? (·.1 == k) = some e' :=
      Option.isSome_iff_exists.mp (List.find?_isSome.mpr ⟨e, member, keyed⟩)
    have keyed' : e'.1 = k := by simpa using List.find?_some hit
    simp [hit, keyed']
  · rename_i absent
    have none : xs.find? (·.1 == k) = none :=
      List.find?_eq_none.mpr fun e member keyed => absent (List.any_eq_true.mpr ⟨e, member, keyed⟩)
    simp [List.find?_append, none]

theorem putAssoc_find_other {k k' : String} (other : k' ≠ k) :
    (putAssoc xs k v).find? (·.1 == k') = xs.find? (·.1 == k') := by
  unfold putAssoc
  split
  · rw [List.find?_map]
    have same : ((fun e : String × Nat => e.1 == k') ∘
        fun e => if e.1 == k then (k, v) else e) = fun e => e.1 == k' := by
      funext e
      by_cases keyed : e.1 = k <;> simp [keyed]
    rw [same]
    cases hit : xs.find? (·.1 == k') with
    | none => rfl
    | some e =>
      have keyed := List.find?_some hit
      have : e.1 ≠ k := by simp at keyed; rw [keyed]; exact other
      simp [this]
  · simp [List.find?_append, Ne.symm other]

theorem mem_putAssoc {k : String} {e : String × Nat}
    (member : e ∈ putAssoc xs k v) : e ∈ xs ∨ e = (k, v) := by
  unfold putAssoc at member
  split at member
  · obtain ⟨e', member', rfl⟩ := List.mem_map.mp member
    split
    · exact .inr rfl
    · exact .inl member'
  · simpa using member

end Collection.take

def Collection.expandWith (c : Collection) (p : Pending) (dep : Dependency) (info : NodeInfo)
    (project : Model) : Collection where
  slots := c.slots.push ⟨info, some p.parent⟩
  queue := c.queue ++ project.dependencies.map fun sub => ⟨c.slots.size, sub, p.exclusions ++ dep.exclusions⟩
  expanded := Collection.take.putAssoc c.expanded dep.gav.key c.slots.size

def Collection.Indexed (c : Collection) : Prop := ∀ e ∈ c.expanded, e.2 < c.slots.size

theorem Collection.Indexed.push {c : Collection} (indexed : c.Indexed) (s : Slot) :
    Collection.Indexed { c with slots := c.slots.push s } := fun e member => by
  have := indexed e member
  simp only [Array.size_push]
  omega

theorem Collection.Indexed.expandWith {c : Collection} (indexed : c.Indexed) (p : Pending)
    (dep : Dependency) (info : NodeInfo) (project : Model) :
    (c.expandWith p dep info project).Indexed := fun e member => by
  simp only [Collection.expandWith, Array.size_push]
  rcases Collection.take.mem_putAssoc _ _ member with old | rfl
  · have := indexed e old
    omega
  · exact Nat.lt_succ_self _

theorem Collection.winner_push {c : Collection} (indexed : c.Indexed) (s : Slot) (key : String) :
    Collection.winner { c with slots := c.slots.push s } key = c.winner key := by
  unfold Collection.winner
  cases hit : c.expanded.find? (·.1 == key) with
  | none => rfl
  | some e =>
    have bound := indexed e (List.mem_of_find?_eq_some hit)
    simp [Array.getD_eq_getD_getElem?, Array.getElem?_push, Nat.ne_of_lt bound]

theorem Collection.winner_expandWith_self (c : Collection) (p : Pending) (dep : Dependency)
    (info : NodeInfo) (project : Model) :
    (c.expandWith p dep info project).winner dep.gav.key = some info := by
  simp [Collection.winner, Collection.expandWith, Collection.take.putAssoc_find_self,
    Array.getD_eq_getD_getElem?]

theorem Collection.winner_expandWith_other {c : Collection} (indexed : c.Indexed) (p : Pending)
    (dep : Dependency) (info : NodeInfo) (project : Model) {key : String}
    (other : key ≠ dep.gav.key) :
    (c.expandWith p dep info project).winner key = c.winner key := by
  unfold Collection.winner Collection.expandWith
  rw [Collection.take.putAssoc_find_other _ _ other]
  cases hit : c.expanded.find? (·.1 == key) with
  | none => rfl
  | some e =>
    have bound := indexed e (List.mem_of_find?_eq_some hit)
    simp [Array.getD_eq_getD_getElem?, Array.getElem?_push, Nat.ne_of_lt bound]

@[simp] theorem Pending.coordinate_gav (managed : List Dependency) (parent : NodeInfo) (p : Pending) :
    (p.coordinate managed parent).gav = (p.effective managed).gav :=
  rfl

/-- What taking a pending dependency can make of a collection, when `got` holds of the project
the resolver gives for a coordinate: the collection as it was when the dependency is left out,
an omitted leaf that names the version last expanded, at least as new as its own, or an
expansion, which needs a project and a version newer than the last one expanded. -/
inductive Collection.Takes (managed : List Dependency) (got : Gav → Model → Prop)
    (c : Collection) (p : Pending) : Collection → Prop
  | skip : p.skipped managed = true → Collection.Takes managed got c p c
  | leaf (info w : NodeInfo) (order : Ordering) :
      p.skipped managed = false →
      c.winner (p.effective managed).gav.key = some w →
      compareVersions (p.effective managed).gav.version w.coordinate.version = .ok order → order ≠ .gt →
      info.coordinate = p.coordinate managed (c.slots.getD p.parent default).info →
      info.winner = some w.coordinate.version →
      info.exclusions = (p.effective managed).exclusions →
      Collection.Takes managed got c p { c with slots := c.slots.push ⟨info, some p.parent⟩ }
  | expand (project : Model) (info : NodeInfo) :
      p.skipped managed = false →
      got (p.effective managed).gav project →
      (∀ v, c.winner (p.effective managed).gav.key = some v →
        compareVersions (p.effective managed).gav.version v.coordinate.version = .ok .gt) →
      info.coordinate = p.coordinate managed (c.slots.getD p.parent default).info →
      info.winner = none →
      info.exclusions = (p.effective managed).exclusions →
      Collection.Takes managed got c p (c.expandWith p (p.effective managed) info project)

theorem Collection.Takes.mono {managed : List Dependency} {got got' : Gav → Model → Prop} {c c' : Collection}
    {p : Pending} (took : c.Takes managed got p c')
    (weaker : ∀ project, got (p.effective managed).gav project → got' (p.effective managed).gav project) :
    c.Takes managed got' p c' := by
  cases took with
  | skip skipped => exact .skip skipped
  | leaf info w order kept won ordered older named winner excluded =>
    exact .leaf info w order kept won ordered older named winner excluded
  | expand project info kept read newer named fresh excluded =>
    exact .expand project info kept (weaker project read) newer named fresh excluded

/-- What a step does to the workspace: nothing but the journal, or what reading the project of
the pending coordinate did. -/
def Collection.TakeEffect (repo : Repository) (gav : Gav) (w w' : Workspace) : Prop :=
  (w'.store = w.store ∧ w'.projects = w.projects) ∨
    ∃ read w₁, (repo.readProjectCached gav).run' w = (read, w₁) ∧ w'.store = w₁.store ∧ w'.projects = w₁.projects

theorem Collection.TakeEffect.keeps {repo : Repository} {gav : Gav} {w w' : Workspace}
    (effect : Collection.TakeEffect repo gav w w') : w.Keeps w' := by
  rcases effect with ⟨store, projects⟩ | ⟨read, w₁, ran, store, projects⟩
  · exact ⟨store, fun key project found => projects ▸ found⟩
  · have kept := (readProjectCached_keepsCache gav).keeps ran
    exact ⟨store.trans kept.store, fun key project found => projects ▸ kept.cached key project found⟩

section Take

variable {repo : Repository} {managed : List Dependency} {c : Collection} {p : Pending}
  {w w' : Workspace}

theorem Collection.take_run {r : Except PackagingError Collection}
    (run : (c.take repo managed p).run' w = (r, w')) :
    Collection.TakeEffect repo (p.effective managed).gav w w' ∧
      ∀ c', r = .ok c' → c.Takes managed (fun g m => w'.projects.lookup g.compact = some m) p c' := by
  have before : ∀ result, w = w' → result = r → (∀ c', result = .ok c' →
      c.Takes managed (fun g m => w.projects.lookup g.compact = some m) p c') →
      Collection.TakeEffect repo (p.effective managed).gav w w' ∧
        ∀ c', r = .ok c' → c.Takes managed (fun g m => w'.projects.lookup g.compact = some m) p c' := by
    rintro result rfl rfl takes
    exact ⟨.inl ⟨rfl, rfl⟩, takes⟩
  have after : ∀ read w₁, (repo.readProjectCached (p.effective managed).gav).run' w = (read, w₁) →
      w'.store = w₁.store → w'.projects = w₁.projects →
      (∀ c', r = .ok c' → c.Takes managed (fun g m => w₁.projects.lookup g.compact = some m) p c') →
      Collection.TakeEffect repo (p.effective managed).gav w w' ∧
        ∀ c', r = .ok c' → c.Takes managed (fun g m => w'.projects.lookup g.compact = some m) p c' := by
    intro read w₁ ran store projects takes
    exact ⟨.inr ⟨read, w₁, ran, store, projects⟩, by rw [projects]; exact takes⟩
  simp only [Collection.take, Step.run'_bind, currentStore_run'] at run
  by_cases skip : p.skipped managed = true
  · simp only [skip] at run
    simp at run
    exact before _ run.2 run.1 fun c' same => by cases same; exact .skip skip
  have kept : p.skipped managed = false := by simpa using skip
  simp only [kept, Bool.false_eq_true, if_false] at run
  by_cases unknown : ((p.effective managed).gav.version == unknownVersion) = true
  · simp only [unknown, if_true] at run
    simp at run
    exact before _ run.2 run.1 nofun
  simp only [unknown, Bool.false_eq_true, if_false, Step.run'_bind] at run
  rcases read : (repo.readProjectCached (p.effective managed).gav).run' w with ⟨_ | project, w₁⟩ <;>
    rw [read] at run
  · simp at run
    exact after _ _ read (by rw [run.2]) (by rw [run.2]) fun _ failed => by cases run.1 ▸ failed
  have recorded := readProjectCached_recorded read
  dsimp only at run
  cases won : c.winner (p.effective managed).gav.key with
  | none =>
    cases found : repo.artifactFile w.store (p.coordinate managed (c.slots.getD p.parent default).info) with
    | error e =>
      simp [won, found, -Array.getD_eq_getD_getElem?] at run
      exact after _ _ read (by rw [← run.2]) (by rw [← run.2]) fun _ failed => by cases run.1 ▸ failed
    | ok file =>
      simp [won, found, -Array.getD_eq_getD_getElem?] at run
      refine after _ _ read (by rw [← run.2]) (by rw [← run.2]) fun c' same => ?_
      rw [← run.1] at same
      cases same
      exact .expand project _ kept recorded (by simp [won]) rfl rfl rfl
  | some v =>
    cases order : compareVersions (p.effective managed).gav.version v.coordinate.version with
    | error e =>
      simp [won, order, -Array.getD_eq_getD_getElem?] at run
      exact after _ _ read (by rw [← run.2]) (by rw [← run.2]) fun _ failed => by cases run.1 ▸ failed
    | ok o =>
      by_cases newer : o = .gt
      · subst newer
        cases found : repo.artifactFile w.store (p.coordinate managed (c.slots.getD p.parent default).info) with
        | error e =>
          simp [won, order, found, -Array.getD_eq_getD_getElem?] at run
          exact after _ _ read (by rw [← run.2]) (by rw [← run.2]) fun _ failed => by cases run.1 ▸ failed
        | ok file =>
          simp [won, order, found, -Array.getD_eq_getD_getElem?] at run
          refine after _ _ read (by rw [← run.2]) (by rw [← run.2]) fun c' same => ?_
          rw [← run.1] at same
          cases same
          exact .expand project _ kept recorded (by simp [won, order]) rfl rfl rfl
      · cases found : repo.artifactFile w.store (p.coordinate managed (c.slots.getD p.parent default).info) <;>
        · simp [won, order, newer, found, -Array.getD_eq_getD_getElem?] at run
          refine after _ _ read (by rw [← run.2]) (by rw [← run.2]) fun c' same => ?_
          rw [← run.1] at same
          cases same
          exact .leaf _ v o kept won order newer rfl rfl rfl

theorem Collection.drain_run_nil {n : Nat} (empty : c.queue = []) :
    (Collection.drain repo managed n c).run' w = (.ok c, w) := by
  cases n <;> simp [Collection.drain, empty]

theorem Collection.drain_cons (n : Nat) {next : Pending} {rest : List Pending}
    (queue : c.queue = next :: rest) :
    Collection.drain repo managed (n + 1) c =
      Collection.take repo managed { c with queue := rest } next >>= Collection.drain repo managed n := by
  simp only [Collection.drain, queue]

end Take

end PluginPack.Resolve
