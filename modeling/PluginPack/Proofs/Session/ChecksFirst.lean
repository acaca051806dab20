import PluginPack.Proofs.Assembly.Agreement
import PluginPack.Proofs.Resolve.Collected
import PluginPack.Proofs.Session.CoreCompatibility

/-! The plugin goals check before they write.

Bundling plugins and repackaging the host war each run in two phases. The first reads the
dependency tree, selects the plugins and checks them; it leaves the file tree as it found it,
whatever its outcome (`SessionStep.KeepsStore`). The second writes, and fails only with the
failures of writing (`Step.FailsOnly`). Every other failure of the goal therefore leaves the file
tree as it was (`SessionStep.FailsClean`).

Once bundling writes, it can still fail for a plugin without an archive, which it looks up only
as it copies the plugin, and where it cannot copy a plugin or write the list of bundled plugins.
Repackaging the war can fail there with its final failure to package the war, and also with the
faults of reading the host war's entries that do not mean an unreadable archive (an encrypted or
truncated entry, an unsupported compression): these are raised as they are, after the new war
was begun. -/

namespace PluginPack

open PluginPack.Artifact PluginPack.Resolve

variable {α β : Type}

/-! Steps that fail only in given ways, and steps that leave the file tree as it is. -/

def Step.FailsOnly (late : PackagingError → Prop) (x : Step α) : Prop :=
  ∀ w e w', x.run' w = (.error e, w') → late e

namespace Step.FailsOnly

variable {late : PackagingError → Prop}

protected theorem pure (a : α) : (pure a : Step α).FailsOnly late := fun w e w' run => by
  simp at run

protected theorem bind {x : Step α} {f : α → Step β} (first : x.FailsOnly late)
    (rest : ∀ a, (f a).FailsOnly late) : (x >>= f).FailsOnly late := fun w e w' run => by
  rw [Step.run'_bind] at run
  rcases ran : x.run' w with ⟨result, w₁⟩
  rw [ran] at run
  cases result with
  | error e₁ =>
    obtain ⟨rfl, rfl⟩ : e₁ = e ∧ w₁ = w' := by simpa using run
    exact first w e₁ w₁ ran
  | ok a => exact rest a w₁ e w' run

protected theorem throw {e : PackagingError} (allowed : late e) : (throw e : Step α).FailsOnly late :=
  fun w e' w' run => by
    rw [Step.run'_throw, Prod.mk.injEq, Except.error.injEq] at run
    exact run.1 ▸ allowed

theorem throw_bind {e : PackagingError} (allowed : late e) (f : α → Step β) : (throw e >>= f).FailsOnly late :=
  fun w e' w' run => by
    rw [Step.run'_bind, Step.run'_throw] at run
    obtain ⟨rfl, -⟩ : e = e' ∧ w = w' := by simpa using run
    exact allowed

theorem report (level : Level) (text : String) : (report level text).FailsOnly late := fun w e w' run => by
  simp at run

theorem currentStore : currentStore.FailsOnly late := fun w e w' run => by
  simp at run

theorem setStore (s : Files.Store) : (setStore s).FailsOnly late := fun w e w' run => by
  simp at run

theorem ofOutcome {x : Outcome α} (allowed : ∀ e, x = .error e → late e) : (Step.ofOutcome x).FailsOnly late :=
  fun w e w' run => by
    rw [Step.ofOutcome_run', Prod.mk.injEq] at run
    exact allowed e run.1

theorem changeOrFail {e : PackagingError} (allowed : late e) (op : Files.Store → Except Files.FsError Files.Store) :
    (Assembly.changeOrFail e op).FailsOnly late := by
  unfold Assembly.changeOrFail
  refine .bind currentStore fun store => ?_
  split
  · exact setStore _
  · exact .throw allowed

protected theorem forIn {xs : List α} {init : β} {body : α → β → Step (ForInStep β)}
    (each : ∀ a b, (body a b).FailsOnly late) : (forIn xs init body).FailsOnly late :=
  forIn_of_pure_bind (m := Step) (fun x => x.FailsOnly late) Step.FailsOnly.pure Step.FailsOnly.bind each

end Step.FailsOnly

namespace Step.KeepsStore

theorem throw_bind (e : PackagingError) (f : α → Step β) : (throw e >>= f).KeepsStore := fun _ =>
  rfl

protected theorem forIn {xs : List α} {init : β} {body : α → β → Step (ForInStep β)}
    (each : ∀ a b, (body a b).KeepsStore) : (forIn xs init body).KeepsStore :=
  forIn_of_pure_bind (m := Step) (fun x => x.KeepsStore) Step.KeepsStore.pure Step.KeepsStore.bind each

end Step.KeepsStore

def SessionStep.KeepsStore (x : SessionStep α) : Prop := ∀ s, (x.run s).KeepsStore

namespace SessionStep.KeepsStore

protected theorem pure (a : α) : (pure a : SessionStep α).KeepsStore := fun s => .pure (a, s)

protected theorem bind {x : SessionStep α} {f : α → SessionStep β} (first : x.KeepsStore)
    (rest : ∀ a, (f a).KeepsStore) : (x >>= f).KeepsStore := fun s =>
  .bind (first s) fun step => rest step.1 step.2

protected theorem liftM {x : Step α} (kept : x.KeepsStore) : (liftM x : SessionStep α).KeepsStore := fun s =>
  .bind kept fun a => .pure (a, s)

protected theorem get : (get : SessionStep Session).KeepsStore := fun s => .pure (s, s)

protected theorem set (s' : Session) : (set s' : SessionStep PUnit).KeepsStore := fun _ => .pure _

protected theorem throw (e : PackagingError) : (throw e : SessionStep α).KeepsStore := fun _ _ => rfl

theorem throw_bind (e : PackagingError) (f : α → SessionStep β) : (throw e >>= f).KeepsStore := fun _ _ =>
  rfl

protected theorem forIn {xs : List α} {init : β} {body : α → β → SessionStep (ForInStep β)}
    (each : ∀ a b, (body a b).KeepsStore) : (forIn xs init body).KeepsStore :=
  forIn_of_pure_bind (m := SessionStep) (fun x => x.KeepsStore) SessionStep.KeepsStore.pure
    SessionStep.KeepsStore.bind each

end SessionStep.KeepsStore

def SessionStep.FailsClean (late : PackagingError → Prop) (x : SessionStep α) : Prop :=
  ∀ s w e w', (x.run s).run' w = (.error e, w') → late e ∨ w'.store = w.store

namespace SessionStep.FailsClean

variable {late : PackagingError → Prop}

theorem keepsStore_bind {x : SessionStep α} {f : α → SessionStep β} (first : x.KeepsStore)
    (rest : ∀ a, (f a).FailsClean late) : (x >>= f).FailsClean late := fun s w e w' run => by
  rw [SessionStep.run'_bind] at run
  rcases ran : (x.run s).run' w with ⟨result, w₁⟩
  have kept := (first s).store_eq ran
  rw [ran] at run
  cases result with
  | error e₁ =>
    obtain ⟨-, rfl⟩ : e₁ = e ∧ w₁ = w' := by simpa using run
    exact .inr kept
  | ok step =>
    rcases rest step.1 step.2 w₁ e w' run with allowed | same
    · exact .inl allowed
    · exact .inr (same.trans kept)

protected theorem liftM {x : Step α} (only : x.FailsOnly late) : (liftM x : SessionStep α).FailsClean late :=
  fun s w e w' run => by
    rw [SessionStep.run'_liftM] at run
    rcases ran : x.run' w with ⟨result, w₁⟩
    rw [ran] at run
    cases result with
    | error e₁ =>
      obtain ⟨rfl, rfl⟩ : e₁ = e ∧ w₁ = w' := by simpa using run
      exact .inl (only w e₁ w₁ ran)
    | ok a => simp at run

end SessionStep.FailsClean

/-! Reading the dependency tree leaves the file tree as it is. -/

theorem Collection.take_keepsStore (repo : Repository) (managed : List Project.Dependency) (c : Collection)
    (p : Pending) : (c.take repo managed p).KeepsStore := fun _ =>
  (Collection.take_run rfl).1.keeps.store

theorem Collection.drain_keepsStore (repo : Repository) (managed : List Project.Dependency) :
    ∀ (fuel : Nat) (c : Collection), (Collection.drain repo managed fuel c).KeepsStore
  | 0, c => .pure c
  | fuel + 1, c => by
    cases queue : c.queue with
    | nil => exact fun w => by rw [Collection.drain_run_nil queue]
    | cons p rest =>
      rw [Collection.drain_cons fuel queue]
      exact .bind (Collection.take_keepsStore _ _ _ _) fun c' => Collection.drain_keepsStore repo managed fuel c'

theorem collect_keepsStore (repo : Repository) (project : Project.Model) : (collect repo project).KeepsStore := by
  unfold collect
  exact .bind .get fun _ => .bind (Collection.drain_keepsStore _ _ _ _) fun _ =>
    .bind (.of_reports (reportTree_reports _)) fun _ => .pure _

namespace Session

theorem tree_keepsStore : tree.KeepsStore := by
  unfold tree
  refine .bind .get fun s => ?_
  split
  · exact .pure _
  · exact .bind (.liftM (collect_keepsStore _ _)) fun t => .bind (.set _) fun _ => .pure t

theorem directArtifacts_keepsStore : directArtifacts.KeepsStore := by
  unfold directArtifacts
  exact .bind tree_keepsStore fun _ => .pure _

theorem projectArtifacts_keepsStore : projectArtifacts.KeepsStore := by
  unfold projectArtifacts
  exact .bind tree_keepsStore fun _ => .bind (.liftM (.ofOutcome _)) fun _ => .pure _

end Session

/-! A walk leaves the file tree as it is. -/

namespace Traverse

variable (policy : Policy) (pinned : Option (List (String × String)))

mutual

theorem walkBelow_keepsStore (trail : List String) :
    ∀ (t : Tree) (st : WalkState), (walkBelow policy pinned trail t st).KeepsStore
  | .node n cs, st => by
    rw [walkBelow]
    refine .bind (acceptNode_keepsStore pinned _ n st) fun accepted => ?_
    obtain ⟨entered, st'⟩ := accepted
    cases entered
    · exact .pure st'
    · exact walkForest_keepsStore _ cs st'

theorem walkForest_keepsStore (trail : List String) :
    ∀ (ts : List Tree) (st : WalkState), (walkForest policy pinned trail ts st).KeepsStore
  | [], st => .pure st
  | t :: ts, st => by
    rw [walkForest]
    exact .bind (walkBelow_keepsStore trail t st) fun st' => walkForest_keepsStore trail ts st'

end

theorem walkOnce_keepsStore (t : Tree) (known : Classified) : (walkOnce policy pinned t known).KeepsStore :=
  walkForest_keepsStore policy pinned _ t.children _

theorem rewalk_keepsStore (t : Tree) :
    ∀ (fuel : Nat) (pinned : Option (List (String × String))) (seen : List (List (String × String)))
      (known : Classified), (rewalk policy t fuel pinned seen known).KeepsStore
  | 0, pinned, _, known => .bind (walkOnce_keepsStore policy pinned t known) fun _ => .pure _
  | fuel + 1, pinned, seen, known => by
    rw [rewalk]
    refine .bind (walkOnce_keepsStore policy pinned t known) fun st => ?_
    split
    all_goals
      dsimp only
      split
      · exact .pure _
      · exact .bind (.report _ _) fun _ => rewalk_keepsStore t fuel _ _ _

theorem traverse_keepsStore (t : Tree) : (traverse t policy).KeepsStore :=
  .bind (rewalk_keepsStore policy t _ _ _ _) fun _ => .pure _

end Traverse

/-! The checks of bundling and of repackaging the war. -/

namespace Session

theorem pluginSelection_keepsStore (includeOptional : Bool) : (pluginSelection includeOptional).KeepsStore := by
  unfold pluginSelection
  exact .bind tree_keepsStore fun t => .bind .get fun _ => .bind (.liftM (Traverse.traverse_keepsStore _ t)) fun _ =>
    .pure _

theorem optionalConflicts_keepsStore (selected : List (String × Facade)) :
    (optionalConflicts selected).KeepsStore := by
  unfold optionalConflicts
  refine .bind .get fun s => .bind (.forIn fun entry issues => ?_) fun _ => .pure _
  obtain ⟨_, a⟩ := entry
  refine .bind (.liftM (.attempt (readProjectCached_keepsCache _).keepsStore)) fun read => ?_
  -- a descriptor that cannot be read is reported or refused; a read one is compared
  split
  case h_1 | h_2 | h_3 | h_4 => exact .bind (.liftM (.report _ _)) fun _ => .pure _
  case h_5 => exact .throw_bind _ _
  case h_6 =>
    refine .bind (.forIn fun dep issues => ?_) fun _ => .pure _
    dsimp only
    split
    · exact .pure _
    split
    · exact .pure _
    split
    · exact .pure _
    split
    · exact .pure _
    refine .bind (.liftM (.ofOutcome _)) fun order => ?_
    split
    · exact .bind (.liftM (.report _ _)) fun _ => .pure _
    · exact .pure _

theorem bundleSelection_keepsStore (ignoreConflicts : Bool) : (bundleSelection ignoreConflicts).KeepsStore := by
  unfold bundleSelection
  refine .bind directArtifacts_keepsStore fun direct => ?_
  refine .bind (.liftM .currentStore) fun store => .bind (.liftM (.ofOutcome _)) fun untyped => ?_
  dsimp only
  split
  · -- plugin dependencies without a type are reported, then refused
    exact .bind (.forIn fun _ _ => .bind (.liftM (.report _ _)) fun _ => .pure _) fun _ => .throw_bind _ _
  refine .bind (pluginSelection_keepsStore true) fun withOptional => ?_
  refine .bind (pluginSelection_keepsStore false) fun required => ?_
  refine .bind (.liftM (.ofOutcome _)) fun selected => .bind (optionalConflicts_keepsStore selected) fun issues => ?_
  split
  · split
    · exact .throw_bind _ _
    · exact .bind (.liftM (.report _ _)) fun _ => .pure _
  · exact .pure _

theorem hostWar_keepsStore (warId : Option String) : (hostWar warId).KeepsStore := by
  unfold hostWar
  refine .bind projectArtifacts_keepsStore fun artifacts => .bind (.liftM .currentStore) fun store => ?_
  dsimp only
  split
  · split
    · split
      · exact .pure _
      · exact .throw _
    · exact .throw _
  · exact .throw _

theorem requirePackaged_keepsStore (output : String) (entries : List (String × String)) :
    (requirePackaged output entries).KeepsStore := by
  unfold requirePackaged
  refine .bind (.forIn fun entry _ => ?_) fun _ => .pure _
  obtain ⟨_, source⟩ := entry
  refine .bind .currentStore fun store => ?_
  split
  · exact .throw_bind _ _
  · exact .pure _

theorem warEntries_keepsStore (s : Session) (output : String) (addSelf : Bool) :
    (warEntries s output addSelf).KeepsStore := by
  unfold warEntries
  refine .bind (.liftM .currentStore) fun store => .bind projectArtifacts_keepsStore fun artifacts => ?_
  refine .bind (.liftM (.ofOutcome _)) fun plugins => .bind (.liftM (.ofOutcome _)) fun newest => ?_
  refine .bind (.forIn fun entry _ => ?_) fun entries => ?_
  · obtain ⟨_, a⟩ := entry
    exact .bind (.liftM (.ofOutcome _)) fun _ => .pure _
  dsimp only
  split
  · exact .bind (.liftM (.report _ _)) fun _ => .bind (.liftM (requirePackaged_keepsStore _ _)) fun _ => .pure _
  · exact .bind (.liftM (requirePackaged_keepsStore _ _)) fun _ => .pure _

/-! The writes, and what can still fail once they have begun. -/

/-- The failures bundling can meet once it writes: a plugin without an archive, and a plugin or
the list of bundled plugins that cannot be written. -/
def BundleWriteFailure : PackagingError → Prop
  | .unresolved m => ∃ id, m = "No plugin archive found for " ++ id
  | .assembly m _ _ => (∃ id, m = "Failed to bundle plugin " ++ id) ∨ m = "Failed to write the bundled plugin list"
  | _ => False

/-- The failures repackaging the host war can meet once it writes: the failure to package the war,
and a fault of reading the host war that does not mean an unreadable archive. -/
def WarWriteFailure : PackagingError → Prop
  | .assembly m _ _ => m = "Failed to package war"
  | .archive fault => fault.isExpected = false
  | _ => False

theorem pluginArchive_error {s : Session} {store : Files.Store} {f : Facade} {e : PackagingError}
    (failed : s.pluginArchive store f = .error e) : e = .unresolved ("No plugin archive found for " ++ f.id) := by
  have lookup : ∀ e, pluginArchive.lookup s store f = .error e →
      e = .unresolved ("No plugin archive found for " ++ f.id) := by
    intro e looked
    unfold pluginArchive.lookup at looked
    dsimp only at looked
    split at looked
    · cases looked
    · exact (Except.error.inj looked).symm
  unfold pluginArchive at failed
  split at failed
  · split at failed
    · cases failed
    · exact lookup e failed
  · exact lookup e failed

theorem writeBundle_failsOnly (s : Session) (outputDir optionalDir : Option String) (plugins : List Facade)
    (optional : List String) : (writeBundle s outputDir optionalDir plugins optional).FailsOnly BundleWriteFailure := by
  unfold writeBundle
  dsimp only
  refine .bind (.forIn fun a _ => ?_) fun _ => ?_
  · -- one plugin: its archive is looked up, then copied
    refine .bind .currentStore fun store => .bind (.ofOutcome fun e failed => ?_) fun source => ?_
    · rw [pluginArchive_error failed]
      exact ⟨a.id, rfl⟩
    exact .bind (.report _ _) fun _ => .bind (.changeOrFail (.inl ⟨a.id, rfl⟩) _) fun _ => .pure _
  · exact .bind (.forIn fun _ _ => .bind (.report _ _) fun _ => .pure _) fun _ =>
      .bind (.changeOrFail (.inr rfl) _) fun _ => .pure _

theorem unpackFailure_war (source destination : Option String) (fault : Archive.Fault) :
    WarWriteFailure (Assembly.unpackFailure (.assembly "Failed to package war" source destination) fault) := by
  unfold Assembly.unpackFailure
  split
  · rfl
  · rename_i unexpected
    exact Bool.eq_false_iff.mpr unexpected

theorem packWar_failsOnly (war : Facade) (output : String) (entries : List (String × String)) :
    (packWar war output entries).FailsOnly WarWriteFailure := by
  unfold packWar
  dsimp only
  have failure : WarWriteFailure (.assembly "Failed to package war" (some (war.file.getD "")) (some output)) := rfl
  refine .bind (.changeOrFail failure _) fun _ => .bind .currentStore fun store => ?_
  split
  · refine .bind (.pure _) fun bytes => ?_
    split
    · refine .bind (.pure _) fun infos => .bind (.changeOrFail failure _) fun _ => ?_
      refine .bind (.forIn fun info written => ?_) fun written => ?_
      · -- an entry of the host war is copied, unless it is replaced; a fault reading it ends the war
        split
        · split
          · exact .pure _
          · exact .bind (.changeOrFail failure _) fun _ => .throw_bind (unpackFailure_war _ _ _) _
          · exact .pure _
        · exact .pure _
      · exact .bind .currentStore fun _ => .bind (.changeOrFail failure _) fun _ =>
          .bind (.report _ _) fun _ => .pure _
    · exact .throw_bind (unpackFailure_war _ _ _) _
  · exact .throw_bind failure _

theorem bundlePlugins_failsClean (outputDir optionalDir : Option String) (ignoreConflicts : Bool) :
    (bundlePlugins outputDir optionalDir ignoreConflicts).FailsClean BundleWriteFailure := by
  unfold bundlePlugins
  refine .keepsStore_bind (bundleSelection_keepsStore ignoreConflicts) fun selection => ?_
  obtain ⟨plugins, optional⟩ := selection
  exact .keepsStore_bind .get fun s => .liftM (writeBundle_failsOnly s outputDir optionalDir plugins optional)

theorem customWar_failsClean (output warId : Option String) (addSelf : Bool) :
    (customWar output warId addSelf).FailsClean WarWriteFailure := by
  unfold customWar
  refine .keepsStore_bind .get fun s => .keepsStore_bind (hostWar_keepsStore warId) fun war => ?_
  exact .keepsStore_bind (warEntries_keepsStore _ _ _) fun entries => .liftM (packWar_failsOnly war _ entries)

end Session

/-- Bundling plugins fails, once it has written, only for a plugin without an archive or for a
file it cannot write; repackaging the host war only with the failure to package it or with a
fault of an entry of the host war. Every other failure of the two goals leaves the file tree as
it found it. -/
theorem plugin_goals_fail_clean_before_writing (outputDir optionalDir : Option String) (ignoreConflicts : Bool)
    (output warId : Option String) (addSelf : Bool) :
    (Session.bundlePlugins outputDir optionalDir ignoreConflicts).FailsClean Session.BundleWriteFailure ∧
      (Session.customWar output warId addSelf).FailsClean Session.WarWriteFailure :=
  ⟨Session.bundlePlugins_failsClean outputDir optionalDir ignoreConflicts,
    Session.customWar_failsClean output warId addSelf⟩

namespace Session

/-- A host war whose one entry, `a.txt`, is encrypted. -/
def encryptedWar : ByteArray :=
  ⟨#[80, 75, 3, 4, 20, 0, 1, 0, 0, 0, 0, 0, 33, 42, 131, 22, 220, 140, 1, 0, 0, 0, 1, 0, 0, 0, 5, 0, 0, 0, 97, 46,
    116, 120, 116, 120, 80, 75, 1, 2, 20, 0, 20, 0, 1, 0, 0, 0, 0, 0, 33, 42, 131, 22, 220, 140, 1, 0, 0, 0, 1, 0, 0,
    0, 5, 0, 0, 0, 0, 0, 0, 0, 0, 0, 0, 0, 0, 0, 0, 0, 0, 0, 97, 46, 116, 120, 116, 80, 75, 5, 6, 0, 0, 0, 0, 1, 0, 1,
    0, 51, 0, 0, 0, 36, 0, 0, 0, 0, 0]⟩

def warProject : Project.Model :=
  { gav := { groupId := "com.acme", artifactId := "demo", version := "1.0" }, packaging := "hpi" }

def hostWarNode : Resolve.NodeInfo where
  coordinate := { groupId := "org.jenkins-ci.main", artifactId := "jenkins-war", version := "2.361",
                  type := "war", scope := some "compile" }
  file := some "/jenkins-war.war"

/-- A component that depends on the host war alone, its dependency tree already resolved. -/
def warSession : Session where
  pom := "/pom.xml"
  config := { localRepository := "/repo", workspaceMap := "/map" }
  project := warProject
  layout := Layout.forProject "/" warProject
  context := { now := { year := 2024, month := 3, day := 5 }, user := "alice", account := "alice", searchRoot := "/" }
  root := some (.node { coordinate := { groupId := "com.acme", artifactId := "demo", version := "1.0", type := "hpi" } }
    [.node hostWarNode []])

def encryptedHost : Workspace where
  store := { entries := [("/jenkins-war.war", .file encryptedWar 0)] }

/-- Repackaging a host war whose entry is encrypted fails with the fault of that entry, not with
the failure to package the war, and leaves the new war written. -/
theorem encrypted_host_war_fails_after_writing :
    (match ((customWar none none false).run warSession).run' encryptedHost with
      | (.error e, w') => some (e.className, e.message, w'.store.isFile "/target/demo.war")
      | (.ok _, _) => none) =
      some ("RuntimeError", "File 'a.txt' is encrypted, password required for extraction", true) ∧
    encryptedHost.store.isFile "/target/demo.war" = false :=
  ⟨by decide +kernel, by decide +kernel⟩

end Session

end PluginPack
