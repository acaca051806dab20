import PluginPack.Proofs.Step
import PluginPack.Proofs.Version.Standard
import PluginPack.Session.Plugins

/-! Checking that no plugin dependency needs a newer host core than the component.

The check reads the core each plugin candidate needs, once per id and in order: the one its
archive's manifest declares, or the component's own when it has no archive. It keeps the newest
of these, replacing the one kept only by a strictly newer one and starting from 0, and fails when
the component's own core is older than what it kept. On standard versions, where the order is a
total preorder, what it keeps is at least as new as every requirement read; so the check fails
exactly when a plugin with an archive declares a newer core than the component's own, and the
failure names such a plugin and the core it declares. Outside standard versions a requirement
can be passed over: after 1-2 the check keeps 1.0.a1, which is newer than 1-2 and older
than 1. -/

namespace PluginPack.Version

/-- A version that was read and has the standard shape: the order is transitive on these. -/
structure VersionNumber.Orderly (v : VersionNumber) : Prop where
  standard : Standard v.items
  settled : Settled v.items

theorem VersionNumber.Orderly.of_parse {text : String} {v : VersionNumber}
    (read : VersionNumber.parse text = .ok v) (standard : Standard v.items) : v.Orderly :=
  ⟨standard, VersionNumber.parse_settled read⟩

theorem VersionNumber.isLE_compare_self (v : VersionNumber) : (v.compare v).isLE := by
  rw [VersionNumber.compare_self]
  rfl

section Orderly

variable {u v w : VersionNumber} (uOrderly : u.Orderly) (vOrderly : v.Orderly) (wOrderly : w.Orderly)
include uOrderly vOrderly wOrderly

theorem VersionNumber.isLE_trans (first : (u.compare v).isLE) (second : (v.compare w).isLE) :
    (u.compare w).isLE :=
  compareItems_isLE_trans uOrderly.standard uOrderly.settled vOrderly.standard vOrderly.settled
    wOrderly.standard wOrderly.settled first second

theorem VersionNumber.lt_of_lt_of_isLE (first : u.compare v = .lt) (second : (v.compare w).isLE) :
    u.compare w = .lt := by
  cases order : u.compare w with
  | lt => rfl
  | eq | gt =>
    -- `w` is then at most `u`, and so would `v` be, through `w`
    have back : (w.compare u).isLE := by
      rw [VersionNumber.compare_swap u w, order]
      rfl
    have vu := VersionNumber.isLE_trans vOrderly wOrderly uOrderly second back
    rw [VersionNumber.compare_swap u v, first] at vu
    exact absurd vu (by decide)

end Orderly

end PluginPack.Version

namespace PluginPack.Artifact.Facade

open PluginPack.Files PluginPack.Version

def HasArchive (store : Store) (a : Facade) : Prop := (a.file.map store.isFile).getD false = true

def DeclaresCore (store : Store) (a : Facade) (v : VersionNumber) : Prop :=
  ∃ text, a.coreVersion store = .ok (some text) ∧ VersionNumber.parse text = .ok v

def NeedsNewerCore (store : Store) (core : VersionNumber) (a : Facade) : Prop :=
  a.HasArchive store ∧ ∃ v, a.DeclaresCore store v ∧ core.compare v = .lt

def RequiresCore (store : Store) (core : VersionNumber) (a : Facade) (v : VersionNumber) : Prop :=
  (a.HasArchive store → a.DeclaresCore store v) ∧ (¬ a.HasArchive store → v = core)

theorem DeclaresCore.unique {store : Store} {a : Facade} {v v' : VersionNumber}
    (first : a.DeclaresCore store v) (second : a.DeclaresCore store v') : v = v' := by
  obtain ⟨text, declared, read⟩ := first
  obtain ⟨text', declared', read'⟩ := second
  rw [declared, Except.ok.injEq, Option.some.injEq] at declared'
  subst declared'
  rw [read, Except.ok.injEq] at read'
  exact read'

theorem RequiresCore.hasArchive_of_older {store : Store} {core v : VersionNumber} {a : Facade}
    (requires : a.RequiresCore store core v) (older : core.compare v = .lt) : a.HasArchive store := by
  by_cases archive : a.HasArchive store
  · exact archive
  · rw [requires.2 archive, VersionNumber.compare_self] at older
    exact absurd older (by decide)

theorem RequiresCore.orderly {store : Store} {core v : VersionNumber} {a : Facade}
    (requires : a.RequiresCore store core v) (coreOrderly : core.Orderly)
    (standard : a.HasArchive store → ∃ v', a.DeclaresCore store v' ∧ Standard v'.items) : v.Orderly := by
  by_cases archive : a.HasArchive store
  · obtain ⟨v', declares', standard'⟩ := standard archive
    have same := (requires.1 archive).unique declares'
    obtain ⟨text, -, read⟩ := declares'
    rw [same]
    exact .of_parse read standard'
  · rw [requires.2 archive]
    exact coreOrderly

end PluginPack.Artifact.Facade

namespace PluginPack

open PluginPack.Artifact PluginPack.Version

variable {α β : Type}

/-! Running a session step: the equations that open binding, reading the session and running a
plain step inside one. -/

theorem SessionStep.run'_bind (x : SessionStep α) (f : α → SessionStep β) (s : Session) (w : Workspace) :
    ((x >>= f).run s).run' w = match (x.run s).run' w with
      | (.ok (a, s'), w') => ((f a).run s').run' w'
      | (.error e, w') => (.error e, w') := by
  rw [StateT.run_bind, Step.run'_bind]
  rcases (x.run s).run' w with ⟨_ | ⟨a, s'⟩, w'⟩ <;> rfl

theorem SessionStep.run'_liftM (x : Step α) (s : Session) (w : Workspace) :
    ((liftM x : SessionStep α).run s).run' w = match x.run' w with
      | (.ok a, w') => (.ok (a, s), w')
      | (.error e, w') => (.error e, w') := by
  show ((x >>= fun a => pure (a, s)) : Step (α × Session)).run' w = _
  rw [Step.run'_bind]
  rcases x.run' w with ⟨_ | a, w'⟩ <;> rfl

theorem SessionStep.run'_get (s : Session) (w : Workspace) :
    ((get : SessionStep Session).run s).run' w = (.ok (s, s), w) :=
  rfl

theorem readVersion_of_parse {text : String} {v : VersionNumber} (read : VersionNumber.parse text = .ok v) :
    readVersion text = .ok v := by
  rw [readVersion, read]
  rfl

namespace Session

/-! Keeping the newest requirement. One step keeps what it had or takes the requirement, and
ends at least as new as both; along a list of orderly requirements, the result is then at least
as new as every one of them. -/

theorem keepNewer_cases (kept : VersionNumber × Option Facade) (next : Facade × VersionNumber) :
    (kept.1.compare (keepNewer kept next).1).isLE ∧ (next.2.compare (keepNewer kept next).1).isLE ∧
      (keepNewer kept next = kept ∨ keepNewer kept next = (next.2, some next.1)) := by
  unfold keepNewer
  split
  · rename_i newer
    have gt : next.2.compare kept.1 = .gt := by simpa using newer
    refine ⟨?_, VersionNumber.isLE_compare_self _, .inr rfl⟩
    rw [VersionNumber.compare_swap next.2 kept.1, gt]
    rfl
  · rename_i notNewer
    refine ⟨VersionNumber.isLE_compare_self _, ?_, .inl rfl⟩
    cases order : next.2.compare kept.1 <;> simp_all

theorem foldl_keepNewer_mem (rs : List (Facade × VersionNumber)) (kept : VersionNumber × Option Facade) :
    rs.foldl keepNewer kept = kept ∨ ∃ r ∈ rs, rs.foldl keepNewer kept = (r.2, some r.1) := by
  induction rs generalizing kept with
  | nil => exact .inl rfl
  | cons r rest ih =>
    rw [List.foldl_cons]
    rcases ih (keepNewer kept r) with same | ⟨r', member, took⟩
    · rcases (keepNewer_cases kept r).2.2 with unchanged | taken
      · exact .inl (same.trans unchanged)
      · exact .inr ⟨r, List.mem_cons_self, same.trans taken⟩
    · exact .inr ⟨r', List.mem_cons_of_mem _ member, took⟩

theorem foldl_keepNewer_newest (rs : List (Facade × VersionNumber)) (kept : VersionNumber × Option Facade)
    (keptOrderly : kept.1.Orderly) (orderly : ∀ r ∈ rs, r.2.Orderly) :
    (rs.foldl keepNewer kept).1.Orderly ∧ (kept.1.compare (rs.foldl keepNewer kept).1).isLE ∧
      ∀ r ∈ rs, (r.2.compare (rs.foldl keepNewer kept).1).isLE := by
  induction rs generalizing kept with
  | nil => exact ⟨keptOrderly, VersionNumber.isLE_compare_self _, by simp⟩
  | cons r rest ih =>
    obtain ⟨keptBelow, nextBelow, taken⟩ := keepNewer_cases kept r
    have nextOrderly := orderly r List.mem_cons_self
    have stepOrderly : (keepNewer kept r).1.Orderly := by
      rcases taken with unchanged | took
      · rwa [unchanged]
      · rwa [took]
    obtain ⟨newestOrderly, stepBelow, restBelow⟩ :=
      ih (keepNewer kept r) stepOrderly fun r' member => orderly r' (List.mem_cons_of_mem _ member)
    rw [List.foldl_cons]
    refine ⟨newestOrderly, VersionNumber.isLE_trans keptOrderly stepOrderly newestOrderly keptBelow stepBelow, ?_⟩
    intro r' member
    rcases List.mem_cons.mp member with rfl | later
    · exact VersionNumber.isLE_trans nextOrderly stepOrderly newestOrderly nextBelow stepBelow
    · exact restBelow r' later

theorem foldl_keepNewer_of_older {core zero : VersionNumber} (rs : List (Facade × VersionNumber))
    (aboveZero : core.compare zero ≠ .lt) (older : core.compare (rs.foldl keepNewer (zero, none)).1 = .lt) :
    ∃ r ∈ rs, rs.foldl keepNewer (zero, none) = (r.2, some r.1) := by
  rcases foldl_keepNewer_mem rs (zero, none) with same | taken
  · rw [same] at older
    exact absurd older aboveZero
  · exact taken

theorem compare_newest_eq_lt_iff {core zero : VersionNumber} (rs : List (Facade × VersionNumber))
    (coreOrderly : core.Orderly) (zeroOrderly : zero.Orderly) (orderly : ∀ r ∈ rs, r.2.Orderly)
    (aboveZero : core.compare zero ≠ .lt) :
    core.compare (rs.foldl keepNewer (zero, none)).1 = .lt ↔ ∃ r ∈ rs, core.compare r.2 = .lt := by
  obtain ⟨newestOrderly, -, below⟩ := foldl_keepNewer_newest rs (zero, none) zeroOrderly orderly
  constructor
  · intro older
    obtain ⟨r, member, taken⟩ := foldl_keepNewer_of_older rs aboveZero older
    rw [taken] at older
    exact ⟨r, member, older⟩
  · rintro ⟨r, member, older⟩
    exact VersionNumber.lt_of_lt_of_isLE coreOrderly (orderly r member) newestOrderly older (below r member)

/-! Reading the requirements. A plugin with an archive needs the core its manifest declares, one
without needs the component's own, after a warning; reading them leaves the file tree as it is. -/

theorem dependencyCoreVersion_of_declared {a : Facade} {own : String} {w : Workspace} {v : VersionNumber}
    (archive : a.HasArchive w.store) (declared : a.DeclaresCore w.store v) :
    (dependencyCoreVersion a own).run' w = (.ok v, w) := by
  obtain ⟨text, read, parsed⟩ := declared
  have found : (a.file.map w.store.isFile).getD false = true := archive
  simp [dependencyCoreVersion, found, read, readVersion_of_parse parsed]

theorem dependencyCoreVersion_without_archive {a : Facade} {own : String} {w : Workspace}
    (noArchive : ¬ a.HasArchive w.store) :
    (dependencyCoreVersion a own).run' w = (readVersion own, { w with notes := w.notes.push ⟨.warning,
      "Skipping core validation for " ++ a.id ++ " since it has no archive to read a manifest from"⟩ }) := by
  have missing : (a.file.map w.store.isFile).getD false = false := by
    simpa [Facade.HasArchive] using noArchive
  simp [dependencyCoreVersion, missing]

theorem dependencyCoreVersion_requires {a : Facade} {own : String} {core : VersionNumber} {w : Workspace}
    (ownRead : readVersion own = .ok core) (declared : a.HasArchive w.store → ∃ v, a.DeclaresCore w.store v) :
    ∃ v w', (dependencyCoreVersion a own).run' w = (.ok v, w') ∧ w'.store = w.store ∧
      a.RequiresCore w.store core v := by
  by_cases archive : a.HasArchive w.store
  · obtain ⟨v, declares⟩ := declared archive
    exact ⟨v, w, dependencyCoreVersion_of_declared archive declares, rfl, fun _ => declares,
      fun noArchive => absurd archive noArchive⟩
  · have ran := @dependencyCoreVersion_without_archive a own w archive
    rw [ownRead] at ran
    exact ⟨core, _, ran, rfl, fun found => absurd found archive, fun _ => rfl⟩

theorem requiredCoreVersions_run (own : String) {core : VersionNumber} (ownRead : readVersion own = .ok core) :
    ∀ (as : List Facade) (w : Workspace), (∀ a ∈ as, a.HasArchive w.store → ∃ v, a.DeclaresCore w.store v) →
      ∃ rs w', (requiredCoreVersions own as).run' w = (.ok rs, w') ∧ w'.store = w.store ∧
        rs.map Prod.fst = as ∧ ∀ r ∈ rs, r.1.RequiresCore w.store core r.2
  | [], w, _ => ⟨[], w, rfl, rfl, rfl, by simp⟩
  | a :: rest, w, declared => by
    obtain ⟨v, w₁, ran, kept, requires⟩ :=
      dependencyCoreVersion_requires ownRead (declared a List.mem_cons_self)
    obtain ⟨rs, w', ranRest, keptRest, firsts, requiresRest⟩ := requiredCoreVersions_run own ownRead rest w₁
      (by rw [kept]; exact fun a' member => declared a' (List.mem_cons_of_mem _ member))
    refine ⟨(a, v) :: rs, w', ?_, keptRest.trans kept, by simp [firsts], ?_⟩
    · simp only [requiredCoreVersions, Step.run'_bind, ran, ranRest, Step.run'_pure]
    · intro r member
      rcases List.mem_cons.mp member with rfl | later
      · exact requires
      · rw [← kept]
        exact requiresRest r later

theorem exists_needsNewerCore_iff {store : Files.Store} {core : VersionNumber} {rs : List (Facade × VersionNumber)}
    (requires : ∀ r ∈ rs, r.1.RequiresCore store core r.2) :
    (∃ a ∈ rs.map Prod.fst, a.NeedsNewerCore store core) ↔ ∃ r ∈ rs, core.compare r.2 = .lt := by
  constructor
  · rintro ⟨a, member, archive, v, declares, older⟩
    obtain ⟨r, held, rfl⟩ := List.mem_map.mp member
    rw [← ((requires r held).1 archive).unique declares] at older
    exact ⟨r, held, older⟩
  · rintro ⟨r, held, older⟩
    have archive := (requires r held).hasArchive_of_older older
    exact ⟨r.1, List.mem_map_of_mem held, archive, r.2, (requires r held).1 archive, older⟩

/-! The check. It fails naming the newest requirement kept when the core is older than that,
and gives the component's version otherwise. -/

theorem checkCoreRequirements_result {own : String} {core zero : VersionNumber} {cs : List Facade}
    {w w' : Workspace} {rs : List (Facade × VersionNumber)}
    (ran : (requiredCoreVersions own (firstById [] cs)).run' w = (.ok rs, w')) :
    ((checkCoreRequirements own core zero cs).run' w).1 =
      if core.compare (rs.foldl keepNewer (zero, none)).1 = .lt then
        .error (.incompatible ("Dependency " ++ (((rs.foldl keepNewer (zero, none)).2.map Facade.id).getD "None") ++
          " requires Jenkins " ++ (rs.foldl keepNewer (zero, none)).1.text ++ " or higher."))
      else .ok own := by
  simp only [checkCoreRequirements, Step.run'_bind, ran]
  split <;> simp_all

theorem checkCoreRequirements_refuses_newer {own : String} {core zero : VersionNumber} {cs : List Facade}
    {w : Workspace} (ownRead : readVersion own = .ok core) (coreOrderly : core.Orderly)
    (zeroOrderly : zero.Orderly) (aboveZero : core.compare zero ≠ .lt)
    (declared : ∀ a ∈ firstById [] cs, a.HasArchive w.store → ∃ v, a.DeclaresCore w.store v ∧ Standard v.items) :
    (((checkCoreRequirements own core zero cs).run' w).1 = .ok own ↔
        ¬ ∃ a ∈ firstById [] cs, a.NeedsNewerCore w.store core) ∧
      ∀ e, ((checkCoreRequirements own core zero cs).run' w).1 = .error e →
        ∃ a ∈ firstById [] cs, ∃ v, a.DeclaresCore w.store v ∧ core.compare v = .lt ∧
          e = .incompatible ("Dependency " ++ a.id ++ " requires Jenkins " ++ v.text ++ " or higher.") := by
  obtain ⟨rs, w', ran, -, firsts, requires⟩ := requiredCoreVersions_run own ownRead (firstById [] cs) w
    fun a member archive => (declared a member archive).imp fun _ => And.left
  have orderly : ∀ r ∈ rs, r.2.Orderly := fun r held =>
    (requires r held).orderly coreOrderly (declared r.1 (firsts ▸ List.mem_map_of_mem held))
  have needs : (∃ a ∈ firstById [] cs, a.NeedsNewerCore w.store core) ↔
      core.compare (rs.foldl keepNewer (zero, none)).1 = .lt := by
    rw [← firsts, exists_needsNewerCore_iff requires,
      compare_newest_eq_lt_iff rs coreOrderly zeroOrderly orderly aboveZero]
  rw [checkCoreRequirements_result ran]
  by_cases older : core.compare (rs.foldl keepNewer (zero, none)).1 = .lt
  · -- what was kept is not 0, so it was taken from a plugin, whose archive declares it
    have needed := needs.mpr older
    obtain ⟨r, held, taken⟩ := foldl_keepNewer_of_older rs aboveZero older
    rw [taken] at older ⊢
    rw [if_pos older]
    refine ⟨iff_of_false (by simp) fun unneeded => unneeded needed, ?_⟩
    intro e failed
    cases failed
    have archive := (requires r held).hasArchive_of_older older
    exact ⟨r.1, firsts ▸ List.mem_map_of_mem held, r.2, (requires r held).1 archive, older, rfl⟩
  · rw [if_neg older]
    exact ⟨iff_of_true rfl (mt needs.mp older), fun e failed => by cases failed⟩

theorem validateCoreCompatibility_result {s s₁ : Session} {w w₀ w₁ : Workspace} {own : String}
    {core : VersionNumber} {cs : List Facade}
    (found : (Metadata.findCoreVersion s.project s.config.coreId s.config.coreVersionOverride).run' w =
      (.ok own, w₀))
    (ownRead : readVersion own = .ok core) (gathered : (coreCandidates.run s).run' w₀ = (.ok (cs, s₁), w₁)) :
    ((validateCoreCompatibility.run' s).run' w).1 = ((checkCoreRequirements own core ⟨"0", []⟩ cs).run' w₁).1 := by
  have zero : readVersion "0" = .ok ⟨"0", []⟩ := rfl
  have ran : (validateCoreCompatibility.run s).run' w =
      ((liftM (checkCoreRequirements own core ⟨"0", []⟩ cs) : SessionStep String).run s₁).run' w₁ := by
    simp only [validateCoreCompatibility, SessionStep.run'_bind, SessionStep.run'_get, SessionStep.run'_liftM,
      found, Step.ofOutcome_run', ownRead, zero, gathered]
  rw [StateT.run'_eq, Step.run'_map_fst, ran, SessionStep.run'_liftM]
  rcases (checkCoreRequirements own core ⟨"0", []⟩ cs).run' w₁ with ⟨_ | _, _⟩ <;> rfl

theorem validateCoreCompatibility_fails_iff_newer_core_needed {s s₁ : Session} {w w₀ w₁ : Workspace}
    {own : String} {core : VersionNumber} {cs : List Facade}
    (found : (Metadata.findCoreVersion s.project s.config.coreId s.config.coreVersionOverride).run' w =
      (.ok own, w₀))
    (ownRead : VersionNumber.parse own = .ok core) (ownStandard : Standard core.items)
    (aboveZero : core.compare ⟨"0", []⟩ ≠ .lt) (gathered : (coreCandidates.run s).run' w₀ = (.ok (cs, s₁), w₁))
    (declared : ∀ a ∈ firstById [] cs, a.HasArchive w₁.store → ∃ v, a.DeclaresCore w₁.store v ∧ Standard v.items) :
    (((validateCoreCompatibility.run' s).run' w).1 = .ok own ↔
        ¬ ∃ a ∈ firstById [] cs, a.NeedsNewerCore w₁.store core) ∧
      ∀ e, ((validateCoreCompatibility.run' s).run' w).1 = .error e →
        ∃ a ∈ firstById [] cs, ∃ v, a.DeclaresCore w₁.store v ∧ core.compare v = .lt ∧
          e = .incompatible ("Dependency " ++ a.id ++ " requires Jenkins " ++ v.text ++ " or higher.") := by
  have zeroOrderly : VersionNumber.Orderly ⟨"0", []⟩ :=
    .of_parse (show VersionNumber.parse "0" = .ok ⟨"0", []⟩ from rfl) .nil
  rw [validateCoreCompatibility_result found (readVersion_of_parse ownRead) gathered]
  exact checkCoreRequirements_refuses_newer (readVersion_of_parse ownRead) (.of_parse ownRead ownStandard)
    zeroOrderly aboveZero declared

/-! A component on core 1 with two plugin dependencies, `a` and `b`, its dependency tree already
resolved; the file tree holds an archive for some of them, declaring the host core given. -/

def declaringArchive (core : String) : ByteArray :=
  Archive.write [(manifestEntry, ("Jenkins-Version: " ++ core ++ "\r\n\r\n").toUTF8)]

def pluginNode (name : String) : Resolve.NodeInfo :=
  { coordinate := { groupId := "g", artifactId := name, version := "1", type := "hpi", scope := some "compile" }
    file := some ("/" ++ name ++ ".hpi") }

def pluginFacade (name : String) : Facade :=
  facadeOf (pluginNode name, ["g:app:jar:1", "g:" ++ name ++ ":hpi:1"])

def coreOneDependency : Project.Dependency :=
  { gav := { groupId := "org.jenkins-ci.main", artifactId := "jenkins-core", version := "1" }
    scope := some "provided" }

def coreOneProject : Project.Model :=
  { gav := { groupId := "g", artifactId := "app", version := "1" }
    dependencies := [coreOneDependency] }

def twoPluginSession : Session where
  pom := "/pom.xml"
  config := { localRepository := "/repo", workspaceMap := "/map" }
  project := coreOneProject
  layout := Layout.forProject "/" coreOneProject
  context := { now := { year := 2024, month := 3, day := 5 }, user := "alice", account := "alice", searchRoot := "/" }
  root := some (.node { coordinate := { groupId := "g", artifactId := "app", version := "1" } }
    [.node (pluginNode "a") [], .node (pluginNode "b") []])

def pluginWorkspace (archives : List (String × String)) : Workspace where
  store := { entries := archives.map fun (name, core) => ("/" ++ name ++ ".hpi", .file (declaringArchive core) 0) }

theorem twoPlugins_core_found (archives : List (String × String)) :
    (Metadata.findCoreVersion twoPluginSession.project twoPluginSession.config.coreId
      twoPluginSession.config.coreVersionOverride).run' (pluginWorkspace archives) =
      (.ok "1", pluginWorkspace archives) :=
  rfl

theorem twoPlugins_candidates (archives : List (String × String)) :
    (coreCandidates.run twoPluginSession).run' (pluginWorkspace archives) =
      (.ok ([pluginFacade "a", pluginFacade "b", pluginFacade "a", pluginFacade "b"], twoPluginSession),
        pluginWorkspace archives) :=
  rfl

theorem twoPlugins_firstById :
    firstById [] [pluginFacade "a", pluginFacade "b", pluginFacade "a", pluginFacade "b"] =
      [pluginFacade "a", pluginFacade "b"] :=
  rfl

/-- Plugin `a` has no archive and `b` declares core 1.1: the check refuses the component on
core 1. -/
theorem plugin_needing_newer_core_refused :
    (pluginFacade "b").NeedsNewerCore (pluginWorkspace [("b", "1.1")]).store ⟨"1", [.number 1]⟩ ∧
      ((validateCoreCompatibility.run' twoPluginSession).run' (pluginWorkspace [("b", "1.1")])).1 ≠ .ok "1" := by
  have declaresB : (pluginFacade "b").DeclaresCore (pluginWorkspace [("b", "1.1")]).store
      ⟨"1.1", [.number 1, .number 1]⟩ :=
    ⟨"1.1", Except.eq_ok_of_toOption (by decide +kernel), rfl⟩
  have needs : (pluginFacade "b").NeedsNewerCore (pluginWorkspace [("b", "1.1")]).store ⟨"1", [.number 1]⟩ :=
    ⟨by unfold Facade.HasArchive; decide +kernel, _, declaresB, by decide +kernel⟩
  have declared : ∀ a ∈ firstById [] [pluginFacade "a", pluginFacade "b", pluginFacade "a", pluginFacade "b"],
      a.HasArchive (pluginWorkspace [("b", "1.1")]).store →
        ∃ v, a.DeclaresCore (pluginWorkspace [("b", "1.1")]).store v ∧ Standard v.items := by
    rw [twoPlugins_firstById]
    intro a member archive
    simp only [List.mem_cons, List.not_mem_nil, or_false] at member
    rcases member with rfl | rfl
    · exact absurd archive (by unfold Facade.HasArchive; decide +kernel)
    · exact ⟨_, declaresB, .number 1 (.number 1 .nil)⟩
  obtain ⟨passes, -⟩ := validateCoreCompatibility_fails_iff_newer_core_needed (twoPlugins_core_found _)
    (show VersionNumber.parse "1" = .ok ⟨"1", [.number 1]⟩ from rfl) (.number 1 .nil) (by decide +kernel)
    (twoPlugins_candidates _) declared
  refine ⟨needs, fun ok => passes.mp ok ⟨pluginFacade "b", ?_, needs⟩⟩
  rw [twoPlugins_firstById]
  simp

/-- Outside standard versions the check can pass over a plugin that needs a newer core: plugin
`a` declares 1-2, newer than the component's 1, but the check then keeps `b`'s 1.0.a1, newer
than 1-2 and older than 1, and lets the component through. -/
theorem core_check_passes_over_newer_plugin :
    (Metadata.findCoreVersion twoPluginSession.project twoPluginSession.config.coreId
      twoPluginSession.config.coreVersionOverride).run' (pluginWorkspace [("a", "1-2"), ("b", "1.0.a1")]) =
        (.ok "1", pluginWorkspace [("a", "1-2"), ("b", "1.0.a1")]) ∧
      (coreCandidates.run twoPluginSession).run' (pluginWorkspace [("a", "1-2"), ("b", "1.0.a1")]) =
        (.ok ([pluginFacade "a", pluginFacade "b", pluginFacade "a", pluginFacade "b"], twoPluginSession),
          pluginWorkspace [("a", "1-2"), ("b", "1.0.a1")]) ∧
      (pluginFacade "a").NeedsNewerCore (pluginWorkspace [("a", "1-2"), ("b", "1.0.a1")]).store ⟨"1", [.number 1]⟩ ∧
      ((validateCoreCompatibility.run' twoPluginSession).run' (pluginWorkspace [("a", "1-2"), ("b", "1.0.a1")])).1 =
        .ok "1" :=
  ⟨rfl, rfl, ⟨by unfold Facade.HasArchive; decide +kernel, _,
      ⟨"1-2", Except.eq_ok_of_toOption (by decide +kernel), rfl⟩, by decide +kernel⟩,
    Except.eq_ok_of_toOption (by decide +kernel)⟩

end Session

end PluginPack
