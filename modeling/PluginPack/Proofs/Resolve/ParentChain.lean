import Mathlib.Data.Finset.Card
import PluginPack.Proofs.Files.Lookup
import PluginPack.Resolve.Repository

/-! Reading a descriptor with its chain of parents. The reading returns a model or fails
with a resolution error, with one exception: it fails with the recursion error, and does so
exactly when the chain of parents never ends. The reading sees the chain come back when a
path it is already reading comes round again, normalized; otherwise it gives up after as
many steps as the file tree has entries, and then two descriptors of the chain were read
from the same entry, so the chain repeats from there. -/

namespace PluginPack.Project

open PluginPack.Files

def resolutionClasses : List String :=
  ["ResolutionError", "PomNotFoundError", "PomParseError", "PomModelError"]

section Lookup

variable {store : Store} {p q : String}

theorem loadDescriptor_congr {root : Xml.Node}
    (same : Path.parts (Path.join store.cwd p) = Path.parts (Path.join store.cwd q))
    (loaded : loadDescriptor store p = .ok root) : loadDescriptor store q = .ok root := by
  unfold loadDescriptor at loaded ⊢
  have present : store.present q = store.present p := by
    simp only [Store.present, Store.get?_congr same]
  rw [present]
  split at loaded
  · cases loaded
  · rename_i found
    rw [if_neg found]
    split at loaded
    · cases loaded
    · rename_i bytes read
      rw [Store.readFile_ok_congr same read]
      split at loaded
      · rename_i parsed
        simp only [parsed]
        exact loaded
      · cases loaded

theorem loadDescriptor_entry {root : Xml.Node} (loaded : loadDescriptor store p = .ok root) :
    ∃ bytes t, store.entryAt? (store.resolve p) = some (.file bytes t) ∧
      Xml.parseDocument bytes = .ok root := by
  unfold loadDescriptor at loaded
  split at loaded
  · cases loaded
  · split at loaded
    · cases loaded
    · rename_i bytes read
      obtain ⟨t, found⟩ := Store.get?_of_readFile read
      split at loaded
      · cases loaded
        exact ⟨bytes, t, Store.entryAt?_of_get? found, by assumption⟩
      · cases loaded

theorem loadDescriptor_eq_of_resolve {root root' : Xml.Node} (same : store.resolve p = store.resolve q)
    (loaded : loadDescriptor store p = .ok root) (loaded' : loadDescriptor store q = .ok root') :
    root = root' := by
  obtain ⟨bytes, t, found, parsed⟩ := loadDescriptor_entry loaded
  obtain ⟨bytes', t', found', parsed'⟩ := loadDescriptor_entry loaded'
  rw [same, found'] at found
  cases found
  rw [parsed] at parsed'
  exact Except.ok.inj parsed'

theorem parentOf_congr {parent : Option Gav}
    (same : Path.parts (Path.join store.cwd p) = Path.parts (Path.join store.cwd q))
    (read : parentOf store p = .ok parent) : parentOf store q = .ok parent := by
  unfold parentOf at read ⊢
  cases loaded : loadDescriptor store p with
  | error e => rw [loaded] at read; cases read
  | ok root =>
    rw [loaded] at read
    rw [loadDescriptor_congr same loaded]
    exact read

theorem loadDescriptor_error {e : PackagingError} (failed : loadDescriptor store p = .error e) :
    e.className ∈ resolutionClasses := by
  unfold loadDescriptor at failed
  split at failed
  · cases failed
    simp [PackagingError.className, resolutionClasses]
  · split at failed
    · cases failed
      simp [PackagingError.className, resolutionClasses]
    · split at failed
      · cases failed
      · cases failed
        simp [PackagingError.className, resolutionClasses]

theorem readModel_error {root : Xml.Node} {inherited : List (String × String)} {e : PackagingError}
    (failed : readModel root p inherited = .error e) : e.className ∈ resolutionClasses := by
  unfold readModel at failed
  dsimp only at failed
  split at failed
  · split at failed
    · cases failed
    · cases failed
      simp [PackagingError.className, resolutionClasses]
  · cases failed
    simp [PackagingError.className, resolutionClasses]

theorem parentOf_error {e : PackagingError} (failed : parentOf store p = .error e) :
    e.className ∈ resolutionClasses := by
  unfold parentOf at failed
  cases loaded : loadDescriptor store p with
  | error e' =>
    rw [loaded] at failed
    cases failed
    exact loadDescriptor_error loaded
  | ok root => rw [loaded] at failed; cases failed

theorem modelOf_error {inherited : List (String × String)} {e : PackagingError}
    (failed : modelOf store p inherited = .error e) : e.className ∈ resolutionClasses := by
  unfold modelOf at failed
  cases loaded : loadDescriptor store p with
  | error e' =>
    rw [loaded] at failed
    cases failed
    exact loadDescriptor_error loaded
  | ok root =>
    rw [loaded] at failed
    exact readModel_error failed

end Lookup

end PluginPack.Project

namespace PluginPack.Resolve

open PluginPack.Project PluginPack.Files

/-- The descriptor that the one at `p` names as its parent: the repository's descriptor for
the parent's coordinate, when `p` loads and names a parent with a version. -/
def parentPath? (store : Store) (r : Repository) (p : String) : Option String :=
  match parentOf store p with
  | .ok (some gav) => if gav.version == unknownVersion then none else some (r.pomPath gav)
  | _ => none

/-- The descriptor `n` steps up the chain of parents from `p`, if the chain is that long. -/
def ancestorAt (store : Store) (r : Repository) : Nat → String → Option String
  | 0, p => some p
  | n + 1, p => (ancestorAt store r n p).bind (parentPath? store r)

def EndlessChain (store : Store) (r : Repository) (p : String) : Prop :=
  ∀ n, (ancestorAt store r n p).isSome

section Chain

variable {store : Store} {r : Repository}

theorem parentPath?_eq_some {p q : String} (named : parentPath? store r p = some q) :
    ∃ gav, parentOf store p = .ok (some gav) ∧ (gav.version == unknownVersion) = false ∧
      r.pomPath gav = q := by
  unfold parentPath? at named
  split at named
  · rename_i gav read
    by_cases unknown : (gav.version == unknownVersion) = true
    · rw [if_pos unknown] at named
      cases named
    · rw [if_neg unknown] at named
      exact ⟨gav, read, by simpa using unknown, Option.some.inj named⟩
  · cases named

theorem parentPath?_of_parentOf {p : String} {gav : Gav} (read : parentOf store p = .ok (some gav))
    (known : (gav.version == unknownVersion) = false) : parentPath? store r p = some (r.pomPath gav) := by
  unfold parentPath?
  simp only [read, known, Bool.false_eq_true, if_false]

theorem loadDescriptor_of_parentPath? {p q : String} (named : parentPath? store r p = some q) :
    ∃ root, loadDescriptor store p = .ok root := by
  obtain ⟨gav, read, -, -⟩ := parentPath?_eq_some named
  unfold parentOf at read
  cases loaded : loadDescriptor store p with
  | error e => rw [loaded] at read; cases read
  | ok root => exact ⟨root, rfl⟩

theorem parentPath?_congr {p q : String} (same : Path.normalize p = Path.normalize q) :
    parentPath? store r p = parentPath? store r q := by
  have forth := Path.parts_join_congr same store.cwd
  unfold parentPath?
  cases read : parentOf store p with
  | ok parent => rw [parentOf_congr forth read]
  | error e =>
    cases read' : parentOf store q with
    | ok parent =>
      rw [parentOf_congr forth.symm read'] at read
      cases read
    | error e' => rfl

theorem parentPath?_eq_of_resolve {p q a b : String} (named : parentPath? store r p = some a)
    (named' : parentPath? store r q = some b) (same : store.resolve p = store.resolve q) :
    parentPath? store r p = parentPath? store r q := by
  obtain ⟨root, loaded⟩ := loadDescriptor_of_parentPath? named
  obtain ⟨root', loaded'⟩ := loadDescriptor_of_parentPath? named'
  have one := loadDescriptor_eq_of_resolve same loaded loaded'
  unfold parentPath? parentOf
  rw [loaded, loaded', one]

@[simp] theorem ancestorAt_zero (p : String) : ancestorAt store r 0 p = some p := rfl

theorem ancestorAt_add (m n : Nat) (p : String) :
    ancestorAt store r (m + n) p = (ancestorAt store r m p).bind (ancestorAt store r n) := by
  induction n with
  | zero => exact (Option.bind_fun_some _).symm
  | succ n ih =>
    rw [← Nat.add_assoc, ancestorAt, ih, Option.bind_assoc]
    rfl

theorem ancestorAt_succ' (n : Nat) (p : String) :
    ancestorAt store r (n + 1) p = (parentPath? store r p).bind (ancestorAt store r n) := by
  rw [Nat.add_comm, ancestorAt_add]
  rfl

theorem isSome_ancestorAt_of_le {m n : Nat} {p : String} (le : m ≤ n)
    (long : (ancestorAt store r n p).isSome) : (ancestorAt store r m p).isSome := by
  obtain ⟨k, rfl⟩ := Nat.exists_eq_add_of_le le
  rw [ancestorAt_add] at long
  cases found : ancestorAt store r m p with
  | none => simp [found] at long
  | some q => rfl

theorem endless_of_return {s d : Nat} {p : String} (period : 0 < d)
    (back : ancestorAt store r (s + d) p = ancestorAt store r s p)
    (reached : (ancestorAt store r s p).isSome) : EndlessChain store r p := by
  intro n
  induction n using Nat.strong_induction_on with
  | _ n ih =>
    by_cases early : n ≤ s + d
    · exact isSome_ancestorAt_of_le early (back ▸ reached)
    · -- Past the return, the chain is what it was `d` steps before.
      have later : ancestorAt store r n p = ancestorAt store r (n - d) p := by
        obtain ⟨k, rfl⟩ : ∃ k, n = s + d + k := ⟨n - (s + d), by omega⟩
        rw [ancestorAt_add, back, ← ancestorAt_add, show s + d + k - d = s + k by omega]
      rw [later]
      exact ih (n - d) (by omega)

theorem endless_of_same_parent {j k : Nat} {p a b : String} (before : j < k)
    (atJ : ancestorAt store r j p = some a) (atK : ancestorAt store r k p = some b)
    (same : parentPath? store r a = parentPath? store r b) : EndlessChain store r p := by
  have next : (ancestorAt store r (j + 1) p).isSome :=
    isSome_ancestorAt_of_le before (by rw [atK]; rfl)
  have stepJ : ancestorAt store r (j + 1) p = parentPath? store r a := by
    simp [ancestorAt, atJ]
  have stepK : ancestorAt store r (k + 1) p = parentPath? store r b := by
    simp [ancestorAt, atK]
  refine endless_of_return (d := k - j) (by omega) ?_ next
  rw [show j + 1 + (k - j) = k + 1 by omega, stepK, stepJ, same]

theorem exists_parent_of_lt {i n : Nat} {p : String} (lt : i < n) (long : (ancestorAt store r n p).isSome) :
    ∃ a q, ancestorAt store r i p = some a ∧ parentPath? store r a = some q := by
  have next := isSome_ancestorAt_of_le lt long
  rw [ancestorAt] at next
  cases found : ancestorAt store r i p with
  | none => simp [found] at next
  | some a =>
    rw [found, Option.bind_some] at next
    obtain ⟨q, named⟩ := Option.isSome_iff_exists.mp next
    exact ⟨a, q, rfl, named⟩

theorem resolve_mem_of_parentPath? {p q : String} (named : parentPath? store r p = some q) :
    store.resolve p ∈ store.entries.map Prod.fst := by
  obtain ⟨root, loaded⟩ := loadDescriptor_of_parentPath? named
  obtain ⟨bytes, t, found, -⟩ := loadDescriptor_entry loaded
  exact Store.mem_keys_of_entryAt? found

theorem endless_of_long_chain {p : String}
    (long : (ancestorAt store r (store.entries.length + 1) p).isSome) : EndlessChain store r p := by
  let place : Nat → Option String := fun i => (ancestorAt store r i p).map store.resolve
  have within : ∀ i ∈ Finset.range (store.entries.length + 1),
      place i ∈ (store.entries.map fun e => some e.1).toFinset := by
    intro i member
    obtain ⟨a, q, atI, named⟩ := exists_parent_of_lt (Finset.mem_range.mp member) long
    simpa [place, atI] using resolve_mem_of_parentPath? named
  have fewer : ((store.entries.map fun e => some e.1).toFinset).card <
      (Finset.range (store.entries.length + 1)).card := by
    calc ((store.entries.map fun e => some e.1).toFinset).card
        ≤ (store.entries.map fun e => some e.1).length := List.toFinset_card_le _
      _ < (Finset.range (store.entries.length + 1)).card := by simp
  -- Pigeonhole: two places of the chain before its end lead to one entry.
  have repeats : ∀ i i', i < i' → i' < store.entries.length + 1 → place i = place i' →
      EndlessChain store r p := by
    intro i i' before inside meet
    obtain ⟨a, q, atI, named⟩ := exists_parent_of_lt (lt_trans before inside) long
    obtain ⟨b, q', atI', named'⟩ := exists_parent_of_lt inside long
    simp only [place, atI, atI', Option.map_some, Option.some.injEq] at meet
    exact endless_of_same_parent before atI atI' (parentPath?_eq_of_resolve named named' meet)
  obtain ⟨i, iIn, i', i'In, apart, meet⟩ := Finset.exists_ne_map_eq_of_card_lt_of_maps_to fewer within
  rcases Nat.lt_or_gt_of_ne apart with before | after
  · exact repeats i i' before (Finset.mem_range.mp i'In) meet
  · exact repeats i' i after (Finset.mem_range.mp iIn) meet.symm

theorem EndlessChain.parent {p : String} (endless : EndlessChain store r p) :
    ∃ q, parentPath? store r p = some q ∧ EndlessChain store r q := by
  cases named : parentPath? store r p with
  | none =>
    have first := endless 1
    simp [ancestorAt, named] at first
  | some q =>
    refine ⟨q, rfl, fun n => ?_⟩
    have further := endless (n + 1)
    rwa [ancestorAt_succ', named, Option.bind_some] at further

end Chain

section Reading

variable {store : Store} {r : Repository}

theorem readChain_succ_error {fuel : Nat} {reading : List String} {path : String} {e : PackagingError}
    (failed : readChain store r (fuel + 1) reading path = .error e) :
    (reading.contains (Path.normalize path) ∧ e = .parentCycle) ∨ e.className ∈ resolutionClasses ∨
      ∃ q, parentPath? store r path = some q ∧
        readChain store r fuel (Path.normalize path :: reading) q = .error e := by
  simp only [readChain] at failed
  by_cases seen : reading.contains (Path.normalize path)
  · left
    simp only [seen, if_true] at failed
    exact ⟨seen, (Except.error.inj failed).symm⟩
  · right
    simp only [seen, Bool.false_eq_true, if_false] at failed
    cases parent : parentOf store path with
    | error e' =>
      rw [parent] at failed
      cases failed
      exact .inl (parentOf_error parent)
    | ok g? =>
      rw [parent] at failed
      cases g? with
      | none =>
        left
        simp only [bind, Except.bind] at failed
        cases model : modelOf store path [] with
        | error e' =>
          rw [model] at failed
          cases failed
          exact modelOf_error model
        | ok m =>
          rw [model] at failed
          cases failed
      | some g =>
        simp only [bind, Except.bind] at failed
        by_cases unknown : (g.version == unknownVersion) = true
        · left
          simp only [unknown, if_true] at failed
          cases failed
          simp [PackagingError.className, resolutionClasses]
        · simp only [unknown, Bool.false_eq_true, if_false] at failed
          have named := parentPath?_of_parentOf (r := r) parent (by simpa using unknown)
          split at failed
          · left
            cases failed
            simp [PackagingError.className, resolutionClasses]
          · cases read : readChain store r fuel (Path.normalize path :: reading) (r.pomPath g) with
            | error e' =>
              rw [read] at failed
              cases failed
              exact .inr ⟨_, named, read⟩
            | ok up =>
              left
              rw [read] at failed
              dsimp only at failed
              cases model : modelOf store path up.properties with
              | error e' =>
                rw [model] at failed
                cases failed
                exact modelOf_error model
              | ok m =>
                rw [model] at failed
                cases failed

theorem readChain_succ_cycle {fuel : Nat} {reading : List String} {path q : String}
    (named : parentPath? store r path = some q)
    (up : readChain store r fuel (Path.normalize path :: reading) q = .error .parentCycle) :
    readChain store r (fuel + 1) reading path = .error .parentCycle := by
  obtain ⟨gav, read, known, rfl⟩ := parentPath?_eq_some named
  by_cases seen : reading.contains (Path.normalize path)
  · simp only [readChain, seen, if_true]
    rfl
  · simp only [readChain, seen, Bool.false_eq_true, if_false, read, bind, Except.bind, known, up]

theorem readChain_error {fuel : Nat} {reading : List String} {path : String} {e : PackagingError}
    (failed : readChain store r fuel reading path = .error e) :
    e = .parentCycle ∨ e.className ∈ resolutionClasses := by
  induction fuel generalizing reading path with
  | zero =>
    cases failed
    exact .inl rfl
  | succ fuel ih =>
    rcases readChain_succ_error failed with ⟨-, cycle⟩ | resolution | ⟨q, -, up⟩
    · exact .inl cycle
    · exact .inr resolution
    · exact ih up

theorem readChain_of_endless {fuel : Nat} {reading : List String} {path : String}
    (endless : EndlessChain store r path) : readChain store r fuel reading path = .error .parentCycle := by
  induction fuel generalizing reading path with
  | zero => rfl
  | succ fuel ih =>
    obtain ⟨q, named, endless'⟩ := endless.parent
    exact readChain_succ_cycle named (ih endless')

theorem readChain_cycle_trace {fuel : Nat} {reading : List String} {path : String}
    (cycle : readChain store r fuel reading path = .error .parentCycle) :
    ∃ k q, k ≤ fuel ∧ ancestorAt store r k path = some q ∧
      (k = fuel ∨ Path.normalize q ∈ reading ∨
        ∃ j < k, ∃ q', ancestorAt store r j path = some q' ∧ Path.normalize q' = Path.normalize q) := by
  induction fuel generalizing reading path with
  | zero => exact ⟨0, path, le_refl 0, rfl, .inl rfl⟩
  | succ fuel ih =>
    rcases readChain_succ_error cycle with ⟨seen, -⟩ | resolution | ⟨up, named, cycle'⟩
    · exact ⟨0, path, by omega, rfl, .inr (.inl (by simpa using seen))⟩
    · simp [PackagingError.className, resolutionClasses] at resolution
    · obtain ⟨k, q, le, atK, stop⟩ := ih cycle'
      have lift : ∀ j, ancestorAt store r (j + 1) path = ancestorAt store r j up := by
        intro j
        rw [ancestorAt_succ', named, Option.bind_some]
      refine ⟨k + 1, q, by omega, (lift k).trans atK, ?_⟩
      rcases stop with last | seen | ⟨j, before, q', atJ, same⟩
      · exact .inl (by omega)
      · rcases List.mem_cons.mp seen with first | earlier
        · exact .inr (.inr ⟨0, by omega, path, rfl, first.symm⟩)
        · exact .inr (.inl earlier)
      · exact .inr (.inr ⟨j + 1, by omega, q', (lift j).trans atJ, same⟩)

theorem readChain_cycle_iff (path : String) :
    readChain store r (store.entries.length + 1) [] path = .error .parentCycle ↔
      EndlessChain store r path := by
  constructor
  · intro cycle
    obtain ⟨k, q, -, atK, stop⟩ := readChain_cycle_trace cycle
    rcases stop with last | seen | ⟨j, before, q', atJ, same⟩
    · rw [last] at atK
      exact endless_of_long_chain (by rw [atK]; rfl)
    · cases seen
    · exact endless_of_same_parent before atJ atK (parentPath?_congr same)
  · exact readChain_of_endless

end Reading

/-- How a reading of a descriptor with its parents ends: with a model or a resolution error,
save that it fails with the recursion error, and does so exactly when `endless` holds. -/
structure ReadingEnds (result : Outcome Model) (endless : Prop) : Prop where
  recursion : result = .error .parentCycle ↔ endless
  resolution : ∀ e, result = .error e → e = .parentCycle ∨ e.className ∈ resolutionClasses

theorem readChain_ends (store : Store) (r : Repository) (path : String) :
    ReadingEnds (readChain store r (store.entries.length + 1) [] path) (EndlessChain store r path) :=
  ⟨readChain_cycle_iff path, fun _ failed => readChain_error failed⟩

/-- Reading a descriptor, or the descriptor of a coordinate, with its chain of parents gives
a model or a resolution error, unless the chain never ends: then, and only then, it fails
with the recursion error. -/
theorem reading_with_parents_ends (r : Repository) (store : Store) :
    (∀ path, ReadingEnds (r.readProjectFile store path) (EndlessChain store r path)) ∧
      ∀ gav, ReadingEnds (r.readProject store gav)
        (gav.version ≠ unknownVersion ∧ EndlessChain store r (r.pomPath gav)) := by
  refine ⟨readChain_ends store r, fun gav => ?_⟩
  by_cases unknown : gav.version = unknownVersion
  · have failed : r.readProject store gav =
        .error (.unresolved ("Cannot resolve the version of " ++ gav.key)) := by
      simp [Repository.readProject, readProjectAt, unknown]
    rw [failed]
    constructor
    · simp [unknown]
    · intro e same
      cases same
      simp [PackagingError.className, resolutionClasses]
  · have read : r.readProject store gav =
        readChain store r (store.entries.length + 1) [] (r.pomPath gav) := by
      simp [Repository.readProject, readProjectAt, unknown]
    have ends := readChain_ends store r (r.pomPath gav)
    rw [read]
    exact ⟨ends.recursion.trans (by simp [unknown]), ends.resolution⟩

/-- A repository descriptor that names its own coordinate as its parent, and a project
below it. -/
def selfParentDescriptor : String :=
  "<project><parent><groupId>g</groupId><artifactId>a</artifactId><version>1</version></parent>" ++
    "<artifactId>a</artifactId></project>"

def selfParentChild : String :=
  "<project><parent><groupId>g</groupId><artifactId>a</artifactId><version>1</version></parent>" ++
    "<artifactId>child</artifactId></project>"

def selfParentStore : Store where
  entries := [("/proj", .dir 0), ("/proj/pom.xml", .file selfParentChild.toUTF8 0),
    ("/repo", .dir 0), ("/repo/g", .dir 0), ("/repo/g/a", .dir 0), ("/repo/g/a/1", .dir 0),
    ("/repo/g/a/1/a-1.pom", .file selfParentDescriptor.toUTF8 0)]

def selfParentRepo : Repository := { root := "/repo" }

theorem selfParent_names_itself :
    parentPath? selfParentStore selfParentRepo "/repo/g/a/1/a-1.pom" = some "/repo/g/a/1/a-1.pom" := by
  decide +kernel

theorem selfParent_below :
    parentPath? selfParentStore selfParentRepo "/proj/pom.xml" = some "/repo/g/a/1/a-1.pom" := by
  decide +kernel

/-- Reading the project below a descriptor that is its own parent fails with the recursion
error, which is no resolution error. -/
theorem reading_self_parent_recurses :
    selfParentRepo.readProjectFile selfParentStore "/proj/pom.xml" = .error .parentCycle ∧
      PackagingError.parentCycle.className ∉ resolutionClasses := by
  have again : ancestorAt selfParentStore selfParentRepo 1 "/repo/g/a/1/a-1.pom" =
      some "/repo/g/a/1/a-1.pom" := by
    rw [ancestorAt_succ', selfParent_names_itself]
    rfl
  have endless := endless_of_same_parent (j := 0) (by omega) rfl again rfl
  exact ⟨readChain_succ_cycle selfParent_below (readChain_of_endless endless), by simp [PackagingError.className, resolutionClasses]⟩

end PluginPack.Resolve
