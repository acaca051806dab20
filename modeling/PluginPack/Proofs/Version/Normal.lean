import PluginPack.Proofs.Version.Laws

/-! What reading a version leaves: every list of items is in normal form, so a null
item that is not a nested list is always followed, in its own list, by an item that
is neither null nor a list. Null items are dropped only from the end. -/

namespace PluginPack.Version

/-- Every null item that is not a list has, later in the same list, an item that is
neither null nor a list. -/
def Resolved : List Item → Prop
  | [] => True
  | x :: rest =>
    (x.isNull = true → x.isSub = false → ∃ y ∈ rest, y.isNull = false ∧ y.isSub = false) ∧
      Resolved rest

/-- A list and every list nested in it are resolved. -/
inductive Settled : List Item → Prop
  | intro {items : List Item} : Resolved items →
      (∀ inner, Item.sub inner ∈ items → Settled inner) → Settled items

theorem Resolved.tail {x : Item} {rest : List Item} (resolved : Resolved (x :: rest)) :
    Resolved rest :=
  resolved.2

theorem Settled.resolved {items : List Item} (settled : Settled items) : Resolved items := by
  cases settled with
  | intro resolved _ => exact resolved

theorem Settled.inner {items inner : List Item} (settled : Settled items)
    (member : Item.sub inner ∈ items) : Settled inner := by
  cases settled with
  | intro _ nested => exact nested inner member

theorem Settled.tail {x : Item} {rest : List Item} (settled : Settled (x :: rest)) : Settled rest :=
  .intro settled.resolved.tail fun _ member => settled.inner (List.mem_cons_of_mem x member)

theorem resolved_append_solid (front : List Item) {x : Item} (solid : x.isNull = false)
    (atom : x.isSub = false) : Resolved (front ++ [x]) := by
  induction front with
  | nil => simp [Resolved, solid]
  | cons f front ih =>
      refine ⟨fun _ _ => ⟨x, by simp, solid, atom⟩, ih⟩

theorem Resolved.append_single {front : List Item} {x : Item} (resolved : Resolved front)
    (notAtomNull : x.isNull = true → x.isSub = true) : Resolved (front ++ [x]) := by
  induction front with
  | nil =>
      refine ⟨fun isNull notSub => ?_, trivial⟩
      simp [notAtomNull isNull] at notSub
  | cons f front ih =>
      obtain ⟨head, rest⟩ := resolved
      refine ⟨fun isNull notSub => ?_, ih rest⟩
      obtain ⟨y, member, solid, atom⟩ := head isNull notSub
      exact ⟨y, List.mem_append_left _ member, solid, atom⟩

theorem resolved_reverse_trimReversed (reversed : List Item) :
    Resolved (trimReversed reversed).reverse := by
  induction reversed with
  | nil => trivial
  | cons x rest ih =>
      unfold trimReversed
      by_cases isNull : x.isNull = true
      · simpa [isNull] using ih
      · by_cases isSub : x.isSub = true
        · simp only [isNull, isSub, if_true, Bool.false_eq_true, if_false, List.reverse_cons]
          exact ih.append_single fun _ => isSub
        · simp only [isNull, isSub, Bool.false_eq_true, if_false, List.reverse_cons]
          exact resolved_append_solid _ (by simpa using isNull) (by simpa using isSub)

theorem resolved_trimItems (items : List Item) : Resolved (trimItems items) :=
  resolved_reverse_trimReversed items.reverse

theorem mem_of_mem_trimReversed {x : Item} : ∀ {reversed : List Item},
    x ∈ trimReversed reversed → x ∈ reversed
  | [], member => member
  | y :: rest, member => by
      unfold trimReversed at member
      split at member
      · exact List.mem_cons_of_mem y (mem_of_mem_trimReversed member)
      · split at member
        · rcases List.mem_cons.mp member with same | later
          · exact same ▸ List.mem_cons_self
          · exact List.mem_cons_of_mem y (mem_of_mem_trimReversed later)
        · exact member

theorem mem_of_mem_trimItems {x : Item} {items : List Item} (member : x ∈ trimItems items) :
    x ∈ items := by
  unfold trimItems at member
  exact List.mem_reverse.mp (mem_of_mem_trimReversed (List.mem_reverse.mp member))

def Atomic (level : List Item) : Prop := ∀ x ∈ level, x.isSub = false

theorem settled_nestLevels : ∀ {levels : List (List Item)}, (∀ level ∈ levels, Atomic level) →
    Settled (nestLevels levels)
  | [], _ => .intro trivial fun _ member => by simp [nestLevels] at member
  | [level], atomic => by
      refine .intro (resolved_trimItems level) fun inner member => ?_
      have notSub := atomic level (by simp) _ (mem_of_mem_trimItems member)
      simp [Item.isSub] at notSub
  | level :: next :: rest, atomic => by
      have nested : Settled (nestLevels (next :: rest)) :=
        settled_nestLevels fun l member => atomic l (List.mem_cons_of_mem level member)
      refine .intro (resolved_trimItems _) fun inner member => ?_
      rcases List.mem_append.mp (mem_of_mem_trimItems member) with early | last
      · have notSub := atomic level (by simp) _ early
        simp [Item.isSub] at notSub
      · simp only [List.mem_singleton, Item.sub.injEq] at last
        exact last ▸ nested

theorem Except.exists_of_bind_eq_ok {ε α β : Type} {x : Except ε α} {f : α → Except ε β} {b : β}
    (bound : (x >>= f) = .ok b) : ∃ a, x = .ok a ∧ f a = .ok b := by
  cases x with
  | error e => cases bound
  | ok a => exact ⟨a, rfl, bound⟩

theorem runItem_isSub {isNumber : Bool} {run : List Char} {beforeDigit : Bool} {item : Item}
    (read : runItem isNumber run beforeDigit = .ok item) : item.isSub = false := by
  unfold runItem at read
  by_cases number : isNumber = true
  · simp only [number, if_true] at read
    split at read
    · cases read
    · split at read
      · cases read
        rfl
      · cases read
  · simp only [number, Bool.false_eq_true, if_false] at read
    cases read
    rfl

theorem Scan.closeRun_isSub {s : Scan} {item : Item} (read : s.closeRun = .ok item) :
    item.isSub = false := by
  unfold Scan.closeRun at read
  split at read
  · cases read
    rfl
  · exact runItem_isSub read

def Scan.Flat (s : Scan) : Prop := (∀ level ∈ s.levels, Atomic level) ∧ Atomic s.level

theorem Atomic.append_single {level : List Item} {x : Item} (atomic : Atomic level)
    (notSub : x.isSub = false) : Atomic (level ++ [x]) := by
  intro y member
  rcases List.mem_append.mp member with early | last
  · exact atomic y early
  · simp only [List.mem_singleton] at last
    exact last ▸ notSub

theorem Scan.Flat.close {s : Scan} {x : Item} (flat : s.Flat) (notSub : x.isSub = false) :
    ∀ level ∈ s.levels ++ [s.level ++ [x]], Atomic level := by
  intro level member
  rcases List.mem_append.mp member with early | last
  · exact flat.1 level early
  · simp only [List.mem_singleton] at last
    exact last ▸ flat.2.append_single notSub

theorem Scan.step_flat {s s' : Scan} {c : Char} (flat : s.Flat) (stepped : s.step c = .ok s') :
    s'.Flat := by
  unfold Scan.step at stepped
  split at stepped
  · obtain ⟨item, closed, built⟩ := Except.exists_of_bind_eq_ok stepped
    cases built
    exact ⟨flat.1, flat.2.append_single (Scan.closeRun_isSub closed)⟩
  · split at stepped
    · obtain ⟨item, closed, built⟩ := Except.exists_of_bind_eq_ok stepped
      cases built
      exact ⟨flat.close (Scan.closeRun_isSub closed), fun _ member => by simp at member⟩
    · split at stepped
      · split at stepped
        · obtain ⟨item, read, built⟩ := Except.exists_of_bind_eq_ok stepped
          cases built
          exact ⟨flat.close (runItem_isSub read), fun _ member => by simp at member⟩
        · cases stepped
          exact flat
      · split at stepped
        · obtain ⟨item, read, built⟩ := Except.exists_of_bind_eq_ok stepped
          cases built
          exact ⟨flat.close (runItem_isSub read), fun _ member => by simp at member⟩
        · cases stepped
          exact flat

theorem Scan.foldlM_flat : ∀ {chars : List Char} {s s' : Scan}, s.Flat →
    chars.foldlM Scan.step s = .ok s' → s'.Flat
  | [], _, _, flat, scanned => by
      cases scanned
      exact flat
  | c :: rest, _, _, flat, scanned => by
      obtain ⟨next, stepped, scannedRest⟩ := Except.exists_of_bind_eq_ok scanned
      exact Scan.foldlM_flat (Scan.step_flat flat stepped) scannedRest

theorem Scan.finish_flat {s : Scan} {levels : List (List Item)} (flat : s.Flat)
    (finished : s.finish = .ok levels) : ∀ level ∈ levels, Atomic level := by
  unfold Scan.finish at finished
  split at finished
  · cases finished
    intro level member
    rcases List.mem_append.mp member with early | last
    · exact flat.1 level early
    · simp only [List.mem_singleton] at last
      exact last ▸ flat.2
  · obtain ⟨item, read, finishedItem⟩ := Except.exists_of_bind_eq_ok finished
    cases finishedItem
    exact flat.close (runItem_isSub read)

theorem VersionNumber.parse_settled {text : String} {v : VersionNumber}
    (parsed : VersionNumber.parse text = .ok v) : Settled v.items := by
  unfold VersionNumber.parse at parsed
  obtain ⟨scan, scanned, rest⟩ := Except.exists_of_bind_eq_ok parsed
  obtain ⟨levels, finished, built⟩ := Except.exists_of_bind_eq_ok rest
  cases built
  have start : ({} : Scan).Flat := ⟨fun _ member => by simp at member, fun _ member => by simp at member⟩
  exact settled_nestLevels (Scan.finish_flat (Scan.foldlM_flat start scanned) finished)

end PluginPack.Version
