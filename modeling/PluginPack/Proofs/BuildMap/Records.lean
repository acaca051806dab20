import PluginPack.BuildMap
import PluginPack.Proofs.Step
import PluginPack.Proofs.Text.Utf8RoundTrip
import PluginPack.Proofs.Properties.ReadBack
import PluginPack.Proofs.Files.Write

/-! Recording components' locations in the build map and reading them back. Each record reads
the map, sets one location, and rewrites the whole properties file; reading the file back
gives the map that was written when every id and location is free of line breaks and the
locations are absolute. So a sequence of records, from a missing map file whose directories
can be made, leaves the map of all locations in the order they were first recorded, each with
the last id recorded for it, and reading a component's location chooses among the existing
locations recorded for it in that order. -/

namespace PluginPack.OrderedMap

variable {α β : Type} [BEq α]

theorem mem_putEntry {k : α} {v : β} :
    ∀ {entries : List (α × β)} {e : α × β}, e ∈ putEntry k v entries → e ∈ entries ∨ e = (k, v)
  | [], e, member => by simpa [putEntry] using member
  | (k', v') :: rest, e, member => by
    unfold putEntry at member
    split at member
    · rcases List.mem_cons.mp member with rfl | later
      · exact .inr rfl
      · exact .inl (List.mem_cons_of_mem _ later)
    · rcases List.mem_cons.mp member with rfl | later
      · exact .inl List.mem_cons_self
      · rcases mem_putEntry later with old | new
        exacts [.inl (List.mem_cons_of_mem _ old), .inr new]

variable [LawfulBEq α]

theorem keys_putEntry (k : α) (v : β) :
    ∀ entries : List (α × β), (putEntry k v entries).map Prod.fst =
      if k ∈ entries.map Prod.fst then entries.map Prod.fst else entries.map Prod.fst ++ [k]
  | [] => by simp [putEntry]
  | (k', v') :: rest => by
    by_cases same : k' = k
    · subst same
      simp [putEntry]
    · have later := keys_putEntry k v rest
      simp only [putEntry, beq_iff_eq, same, if_false, List.map_cons, later, List.mem_cons, Ne.symm same,
        false_or]
      split <;> simp

theorem keys_nodup_insert (m : OrderedMap α β) (k : α) (v : β) (distinct : m.keys.Nodup) :
    (m.insert k v).keys.Nodup := by
  rw [keys, insert, keys_putEntry]
  split
  · exact distinct
  · rename_i fresh
    exact List.nodup_append.mpr ⟨distinct, by simp, fun a old b single same => fresh (by
      rw [List.mem_singleton.mp single] at same
      exact same ▸ old)⟩

theorem putEntry_map {γ δ : Type} [BEq γ] [LawfulBEq γ] {f : α → γ} (injective : Function.Injective f) (g : β → δ)
    (k : α) (v : β) : ∀ entries : List (α × β),
      putEntry (f k) (g v) (entries.map fun e => (f e.1, g e.2)) = (putEntry k v entries).map fun e => (f e.1, g e.2)
  | [] => rfl
  | (k', v') :: rest => by
    by_cases same : k' = k
    · subst same
      simp [putEntry]
    · have other : f k' ≠ f k := fun equal => same (injective equal)
      simp [putEntry, same, other, putEntry_map injective g k v rest]

end PluginPack.OrderedMap

namespace PluginPack.BuildMap

open PluginPack.Text PluginPack.Properties PluginPack.Files

def pointsOf (recorded : OrderedMap String String) : OrderedMap CodePoints CodePoints :=
  ⟨recorded.entries.map fun e => (.ofString e.1, .ofString e.2)⟩

theorem pointsOf_insert (recorded : OrderedMap String String) (k v : String) :
    (pointsOf recorded).insert (.ofString k) (.ofString v) = pointsOf (recorded.insert k v) := by
  simp only [pointsOf, OrderedMap.insert]
  rw [OrderedMap.putEntry_map CodePoints.ofString_injective]

theorem settle_eq (stop : String → Bool) :
    ∀ (cs : List (String × String)) (found : Option (String × String)),
      settle stop cs found = (cs.find? (stop ·.1)).or (cs.getLast?.or found)
  | [], found => by simp [settle]
  | c :: rest, found => by
    rw [settle]
    split
    · rename_i stopped
      simp [stopped]
    · rename_i going
      rw [settle_eq stop rest (some c)]
      cases last : rest.getLast? <;> simp [going, List.getLast?_cons, last]

/-- The location a component is read at, among the existing locations recorded for it in
the map's order: without a workspace the first; with one, the first that starts with it, and
else the last. -/
def chooseLocation (candidates : List String) : Option String → Option String
  | none => candidates.head?
  | some w => (candidates.find? (·.startsWith w)).or candidates.getLast?

theorem settle_map_normalize (stop : String → Bool) (candidates : List String) :
    (settle stop (candidates.map fun l => (l, Path.normalize l)) none).map (·.2) =
      ((candidates.find? stop).or candidates.getLast?).map Path.normalize := by
  have found : ((fun c : String × String => stop c.1) ∘ fun l => (l, Path.normalize l)) = stop := rfl
  rw [settle_eq, List.find?_map, List.getLast?_map, Option.or_none, found]
  cases candidates.find? stop <;> cases candidates.getLast? <;> rfl

theorem filterMap_pick (keep : String × String → Bool) (pick : CodePoints × CodePoints → Option (String × CodePoints))
    (picked : ∀ e : String × String, pick (.ofString e.1, .ofString e.2) =
      if keep e then some (e.1, .ofString e.2) else none) :
    ∀ entries : List (String × String),
      ((entries.map fun e => (CodePoints.ofString e.1, CodePoints.ofString e.2)).filterMap pick).map
          (fun x => (x.1, Path.normalize x.1)) =
        ((entries.filter keep).map Prod.fst).map fun l => (l, Path.normalize l)
  | [] => rfl
  | e :: rest => by
    rw [List.map_cons]
    by_cases kept : keep e = true
    · rw [List.filterMap_cons_some (by rw [picked e, if_pos kept]), List.filter_cons_of_pos kept, List.map_cons,
        List.map_cons, List.map_cons, filterMap_pick keep pick picked rest]
    · rw [List.filterMap_cons_none (by rw [picked e, if_neg kept]), List.filter_cons_of_neg kept,
        filterMap_pick keep pick picked rest]

theorem locate_of_load {m : BuildMap} {store : Store} {recorded : OrderedMap String String}
    (loaded : m.load store = .ok (pointsOf recorded)) (id : String) (workspace : Option String) :
    m.locate store id workspace = .ok ((chooseLocation ((recorded.toList.filter
      fun e => e.2 == id && store.present e.1).map Prod.fst) workspace).map Path.normalize) := by
  simp only [locate, loaded, bind, Except.bind, pure, Except.pure, OrderedMap.toList, pointsOf]
  rw [filterMap_pick (fun e => e.2 == id && store.present e.1) _ ?picked, settle_map_normalize]
  case picked =>
    intro e
    by_cases same : e.2 = id
    · simp [same, CodePoints.toString?_ofString]
    · have other : CodePoints.ofString e.2 ≠ CodePoints.ofString id := fun equal =>
        same (CodePoints.ofString_injective equal)
      simp [same, other]
  cases workspace with
  | none =>
    cases (recorded.entries.filter fun e => e.2 == id && store.present e.1).map Prod.fst <;> rfl
  | some w => rfl

theorem headerComment_unbroken : Unbroken headerComment := by decide

/-- A map of texts that the map file carries: every entry can be written and read back, and
no location is recorded twice. -/
structure Storable (recorded : OrderedMap String String) : Prop where
  carried : ∀ e ∈ recorded.toList, Carried e.1 e.2
  distinct : recorded.keys.Nodup

theorem Storable.empty : Storable (.empty : OrderedMap String String) :=
  ⟨by simp [OrderedMap.empty, OrderedMap.toList], by simp [OrderedMap.empty, OrderedMap.keys]⟩

theorem Storable.insert {recorded : OrderedMap String String} (good : Storable recorded) {k v : String}
    (entry : Carried k v) : Storable (recorded.insert k v) := by
  refine ⟨fun e member => ?_, OrderedMap.keys_nodup_insert recorded k v good.distinct⟩
  rcases OrderedMap.mem_putEntry member with old | new
  · exact good.carried e old
  · rw [new]
    exact entry

theorem carried_absolute {s : Store} (rooted : Path.isAbsolute s.cwd = true) {location id : String}
    (plainLocation : Unbroken (s.absolute location)) (plainId : Unbroken id) : Carried (s.absolute location) id := by
  refine ⟨plainLocation, plainId, fun c first blank => ?_⟩
  have slash : (s.absolute location).toList.head? = some '/' :=
    (Path.isAbsolute_iff _).mp (Path.isAbsolute_join rooted location)
  rw [slash, Option.mem_some_iff] at first
  subst first
  exact absurd blank (by decide)

theorem load_of_missing {m : BuildMap} {s : Store} (missing : s.get? m.file = none) :
    m.load s = .ok (pointsOf .empty) := by
  rw [load, if_pos (by simp [Store.isFile, missing])]
  rfl

theorem record_run' {m : BuildMap} {w : Workspace} {recorded : OrderedMap String String} {id location : String}
    (ready : Store.Ready w.store m.file) (loaded : m.load w.store = .ok (pointsOf recorded))
    (good : Storable (recorded.insert (w.store.absolute location) id)) :
    ∃ w', (m.record id location).run' w = (.ok (), w') ∧ Store.Writable w'.store m.file ∧
      w'.store.cwd = w.store.cwd ∧ m.load w'.store = .ok (pointsOf (recorded.insert (w.store.absolute location) id)) := by
  obtain ⟨s₀, made, place, cwd₀⟩ := ready
  obtain ⟨text, encoded, parsed⟩ := parse_format good.carried good.distinct headerComment_unbroken
    (Time.Stamp.ofEpochSeconds w.store.clock)
  obtain ⟨s', wrote, readBack, isFile', place', cwd'⟩ := place.writeFile_readFile text.toUTF8
  refine ⟨{ w with store := s', notes := w.notes.push ⟨.debug, "Recorded " ++ id ++ " at " ++ location ++ " in " ++ m.file⟩ },
    ?_, place', cwd'.trans cwd₀, ?_⟩
  · have written : (Properties.format (pointsOf (recorded.insert (w.store.absolute location) id)).toList
        (some headerComment) (Time.Stamp.ofEpochSeconds w.store.clock)).encode = .ok text := encoded
    have stored : (do let s ← w.store.makeDirs (Path.parent m.file); s.writeFile m.file text.toUTF8) = .ok s' := by
      rw [made]
      exact wrote
    have fetched : (Step.ofOutcome (m.load w.store)).run' w = (.ok (pointsOf recorded), w) := by
      rw [Step.ofOutcome_run', loaded]
    -- Rewriting step by step keeps the kernel from unfolding the whole run at once.
    rw [record, Step.run'_bind_of_ok (currentStore_run' w), Step.run'_bind_of_ok fetched]
    simp only [pointsOf_insert, written, stored]
    rw [Step.run'_bind_of_ok (setStore_run' s' w), report_run']
  · have points : (⟨(recorded.insert (w.store.absolute location) id).toList.map
        fun e => (CodePoints.ofString e.1, CodePoints.ofString e.2)⟩ : OrderedMap CodePoints CodePoints) =
        pointsOf (recorded.insert (w.store.absolute location) id) := rfl
    rw [load, if_neg (by simp [isFile'])]
    simp only [liftFs, readBack, Except.mapError, bind, Except.bind, decodeText_toUTF8, parsed, pure,
      Except.pure, points]

theorem forM_record_run' {m : BuildMap} (writes : List (String × String)) :
    ∀ (w : Workspace) (recorded : OrderedMap String String), Store.Ready w.store m.file →
      m.load w.store = .ok (pointsOf recorded) → Storable recorded →
      (∀ e ∈ writes, Carried (w.store.absolute e.2) e.1) →
      ∃ w', (writes.forM fun e => m.record e.1 e.2).run' w = (.ok (), w') ∧ w'.store.cwd = w.store.cwd ∧
        m.load w'.store = .ok (pointsOf (writes.foldl (fun R e => R.insert (w.store.absolute e.2) e.1) recorded)) := by
  induction writes with
  | nil =>
    intro w recorded _ loaded _ _
    exact ⟨w, rfl, rfl, loaded⟩
  | cons e rest ih =>
    intro w recorded ready loaded good entries
    obtain ⟨w₁, ran, place, cwd₁, loaded₁⟩ :=
      record_run' ready loaded (good.insert (entries e List.mem_cons_self))
    have absolute : w₁.store.absolute = w.store.absolute := by
      funext location
      simp only [Store.absolute, cwd₁]
    obtain ⟨w', rest_ran, cwd', loaded'⟩ := ih w₁ _ place.ready loaded₁
      (good.insert (entries e List.mem_cons_self)) fun e' member => by
        rw [absolute]
        exact entries e' (List.mem_cons_of_mem _ member)
    refine ⟨w', ?_, cwd'.trans cwd₁, ?_⟩
    · rw [List.forM, Step.run'_bind_of_ok ran, rest_ran]
    · rw [loaded', absolute, List.foldl_cons]

def recordedMap (s : Store) (writes : List (String × String)) : OrderedMap String String :=
  writes.foldl (fun R e => R.insert (s.absolute e.2) e.1) .empty

/-- The build map is an insertion-ordered store across runs. Recording (id, location) pairs in
turn into a missing map file, whose directories can be made, in an absolute working
directory, with ids and absolute locations free of line breaks, succeeds; the map then reads
as `recordedMap`, and reading a component's location chooses, as `chooseLocation` says, among
the existing locations recorded for it in the map's order. -/
theorem records_load_and_locate {m : BuildMap} {w : Workspace} {writes : List (String × String)}
    (fresh : Store.Creatable w.store m.file) (rooted : Path.isAbsolute w.store.cwd = true)
    (plain : ∀ e ∈ writes, Unbroken e.1 ∧ Unbroken (w.store.absolute e.2)) :
    ∃ w', (writes.forM fun e => m.record e.1 e.2).run' w = (.ok (), w') ∧
      m.load w'.store = .ok (pointsOf (recordedMap w.store writes)) ∧
      ∀ id workspace, m.locate w'.store id workspace =
        .ok ((chooseLocation (((recordedMap w.store writes).toList.filter
          fun e => e.2 == id && w'.store.present e.1).map Prod.fst) workspace).map Path.normalize) := by
  obtain ⟨w', ran, -, loaded⟩ := forM_record_run' writes w .empty fresh.ready (load_of_missing fresh.missing)
    Storable.empty fun e member => carried_absolute rooted (plain e member).2 (plain e member).1
  exact ⟨w', ran, loaded, locate_of_load loaded⟩

/-- Stepping back through its own place, a map file cannot be made: the directories made for
`/m/../m` make `/m` a directory. -/
example : (((⟨"/m/../m"⟩ : BuildMap).record "core" "/ws/core").run' { store := {} }).1.toOption = none := by
  decide +kernel

/-- Three records into a map file whose directory is missing, the last writing the first
location again for another id, with a location that needs escaping. -/
theorem three_records_load_and_locate : ∃ w',
    ([("core", "/ws/core"), ("ui", "/ws/a b=c:d"), ("ui", "/ws/core")].forM fun e =>
      (⟨"/maps/build"⟩ : BuildMap).record e.1 e.2).run' { store := {} } = (.ok (), w') ∧
      (⟨"/maps/build"⟩ : BuildMap).load w'.store = .ok (pointsOf (recordedMap {}
        [("core", "/ws/core"), ("ui", "/ws/a b=c:d"), ("ui", "/ws/core")])) ∧
      ∀ id workspace, (⟨"/maps/build"⟩ : BuildMap).locate w'.store id workspace =
        .ok ((chooseLocation (((recordedMap {} [("core", "/ws/core"), ("ui", "/ws/a b=c:d"), ("ui", "/ws/core")]).toList.filter
          fun e => e.2 == id && w'.store.present e.1).map Prod.fst) workspace).map Path.normalize) := by
  have fresh : Store.Creatable {} "/maps/build" := by
    refine ⟨by decide +kernel, by decide +kernel, by decide +kernel, by decide +kernel, ?_⟩
    exact Option.isNone_iff_eq_none.mp (by decide +kernel)
  exact records_load_and_locate fresh (by decide +kernel) (by decide +kernel)

end PluginPack.BuildMap
