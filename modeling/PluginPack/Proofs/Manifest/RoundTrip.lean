import Mathlib.Data.String.Basic
import PluginPack.Manifest.Basic

/-! Writing a main section and reading it back. Each attribute is written as one line,
`key: value`, cut into pieces of at most 72 bytes; reading joins the pieces again and
stops at the first blank line. So the attributes come back, the version first and the
others in their order, when the keys are short and plain, the values hold no line break,
and no piece after a cut is made only of blanks. Without the last condition the round
trip fails: a value whose cut-off tail is a run of spaces writes a blank line, and
reading ends the section there. -/

namespace PluginPack.OrderedMap

variable {α β : Type} [BEq α] [LawfulBEq α]

theorem putEntry_putEntry (k : α) (v w : β) :
    ∀ entries : List (α × β), putEntry k w (putEntry k v entries) = putEntry k w entries
  | [] => by simp [putEntry]
  | (k', v') :: rest => by
    by_cases same : k' = k
    · subst same
      simp [putEntry]
    · simp [putEntry, same, putEntry_putEntry k v w rest]

theorem find?_putEntry_self (k : α) (v : β) :
    ∀ entries : List (α × β), (putEntry k v entries).find? (·.1 == k) = some (k, v)
  | [] => by simp [putEntry]
  | (k', v') :: rest => by
    by_cases same : k' = k
    · subst same
      simp [putEntry]
    · simp [putEntry, same, find?_putEntry_self k v rest]

theorem putEntry_of_not_mem (k : α) (v : β) :
    ∀ entries : List (α × β), k ∉ entries.map Prod.fst → putEntry k v entries = entries ++ [(k, v)]
  | [], _ => rfl
  | (k', v') :: rest, fresh => by
    have other : k' ≠ k := fun same => fresh (by simp [same])
    have fresh' : k ∉ rest.map Prod.fst := fun old => fresh (List.mem_cons_of_mem _ old)
    simp [putEntry, other, putEntry_of_not_mem k v rest fresh']

variable (m : OrderedMap α β) (k : α)

@[simp] theorem insert_insert (v w : β) : (m.insert k v).insert k w = m.insert k w := by
  simp [insert, putEntry_putEntry]

@[simp] theorem get?_insert_self (v : β) : (m.insert k v).get? k = some v := by
  simp [get?, insert, find?_putEntry_self]

theorem entries_insert_of_not_mem {v : β} (fresh : k ∉ m.keys) :
    (m.insert k v).entries = m.entries ++ [(k, v)] :=
  putEntry_of_not_mem k v m.entries fresh

end PluginPack.OrderedMap

namespace PluginPack.Text

theorem isBlank_of_isLineBreak {c : Char} (broken : isLineBreak c = true) : isBlank c = true := by
  simp only [isLineBreak, isBlank, Bool.or_eq_true, Bool.and_eq_true, decide_eq_true_eq,
    beq_iff_eq] at broken ⊢
  omega

theorem exists_mem_dropWhile {p : Char → Bool} :
    ∀ {l : List Char}, (∃ c ∈ l, p c = false) → ∃ c ∈ l.dropWhile p, p c = false
  | [], ⟨_, member, _⟩ => absurd member List.not_mem_nil
  | d :: l, ⟨c, member, kept⟩ => by
    by_cases dropped : p d = true
    · rw [List.dropWhile_cons_of_pos dropped]
      rcases List.mem_cons.mp member with rfl | later
      · rw [dropped] at kept
        cases kept
      · exact exists_mem_dropWhile ⟨c, later, kept⟩
    · rw [List.dropWhile_cons_of_neg dropped]
      exact ⟨d, List.mem_cons_self, by simpa using dropped⟩

theorem dropWhile_isBlank_eq_self {l : List Char} (plain : ∀ c ∈ l, isBlank c = false) :
    l.dropWhile isBlank = l := by
  cases l with
  | nil => rfl
  | cons c l => exact List.dropWhile_cons_of_neg (by simp [plain c List.mem_cons_self])

theorem trim_isEmpty_eq_false {s : String} (shown : ∃ c ∈ s.toList, isBlank c = false) :
    (trim s).isEmpty = false := by
  obtain ⟨c, member, kept⟩ := exists_mem_dropWhile shown
  have reversed : ∃ c ∈ (s.toList.dropWhile isBlank).reverse, isBlank c = false :=
    ⟨c, List.mem_reverse.mpr member, kept⟩
  obtain ⟨d, member', _⟩ := exists_mem_dropWhile reversed
  simp only [trim, trimEnd, trimStart, String.toList_ofList]
  cases rest : (s.toList.dropWhile isBlank).reverse.dropWhile isBlank with
  | nil =>
    rw [rest] at member'
    cases member'
  | cons e es => simp

theorem trim_eq_self {s : String} (plain : ∀ c ∈ s.toList, isBlank c = false) : trim s = s := by
  have reversed : ∀ c ∈ s.toList.reverse, isBlank c = false := fun c member =>
    plain c (List.mem_reverse.mp member)
  simp [trim, trimEnd, trimStart, dropWhile_isBlank_eq_self plain, dropWhile_isBlank_eq_self reversed]

theorem linesOf_line {line : List Char} (unbroken : ∀ c ∈ line, isLineBreak c = false) (rest : List Char) :
    ∀ acc, linesOf (line ++ '\r' :: '\n' :: rest) acc = String.ofList (acc.reverse ++ line) :: linesOf rest [] := by
  induction line with
  | nil => simp [linesOf]
  | cons c line ih =>
    intro acc
    have plain : isLineBreak c = false := unbroken c List.mem_cons_self
    have notReturn : c ≠ '\r' := by
      rintro rfl
      simp [isLineBreak] at plain
    rw [List.cons_append, linesOf.eq_3 _ _ _ (fun _ same _ => notReturn same), plain, if_neg Bool.false_ne_true,
      ih (fun d member => unbroken d (List.mem_cons_of_mem _ member)) (c :: acc)]
    simp

theorem linesOf_intercalate {lines : List String} (nonempty : lines ≠ [])
    (unbroken : ∀ l ∈ lines, ∀ c ∈ l.toList, isLineBreak c = false) (rest : List Char) :
    linesOf (['\r', '\n'].intercalate (lines.map String.toList) ++ '\r' :: '\n' :: rest) [] =
      lines ++ linesOf rest [] := by
  induction lines with
  | nil => exact absurd rfl nonempty
  | cons l more ih =>
    have first := linesOf_line (unbroken l List.mem_cons_self)
    cases more with
    | nil => simp [first]
    | cons l' more' =>
      have later := ih (List.cons_ne_nil _ _) fun l member => unbroken l (List.mem_cons_of_mem _ member)
      rw [List.map_cons, List.map_cons, List.intercalate_cons_cons, List.append_assoc, List.append_assoc]
      rw [List.map_cons] at later
      rw [show ['\r', '\n'] ++ (['\r', '\n'].intercalate (l'.toList :: more'.map String.toList) ++
          '\r' :: '\n' :: rest) = '\r' :: '\n' :: (['\r', '\n'].intercalate (l'.toList :: more'.map String.toList) ++
          '\r' :: '\n' :: rest) from rfl, first, later]
      simp

end PluginPack.Text

namespace PluginPack.Manifest

open PluginPack.Text

theorem wrapChars_flatten : ∀ (cs current : List Char) (bytes limit : Nat),
    (wrapChars cs current bytes limit).flatten = current.reverse ++ cs
  | [], current, _, _ => by simp [wrapChars]
  | c :: cs, current, bytes, limit => by
    unfold wrapChars
    split
    · simp [wrapChars_flatten cs [c]]
    · simp [wrapChars_flatten cs (c :: current)]

theorem wrapChars_head : ∀ (cs current : List Char) (bytes limit : Nat),
    ∃ tail pieces, wrapChars cs current bytes limit = (current.reverse ++ tail) :: pieces
  | [], current, _, _ => ⟨[], [], by simp [wrapChars]⟩
  | c :: cs, current, bytes, limit => by
    unfold wrapChars
    split
    · exact ⟨[], wrapChars cs [c] c.utf8Size (lineLimit - 1), by simp⟩
    · obtain ⟨tail, pieces, cut⟩ := wrapChars_head cs (c :: current) (bytes + c.utf8Size) limit
      exact ⟨c :: tail, pieces, by simp [cut]⟩

theorem wrapChars_fits : ∀ (pre rest current : List Char) (bytes limit : Nat),
    bytes + String.utf8Len pre ≤ limit →
    ∃ tail pieces, wrapChars (pre ++ rest) current bytes limit = (current.reverse ++ pre ++ tail) :: pieces
  | [], rest, current, bytes, limit, _ => by simpa using wrapChars_head rest current bytes limit
  | c :: pre, rest, current, bytes, limit, fits => by
    rw [String.utf8Len_cons] at fits
    have room : ¬ bytes + c.utf8Size > limit := by omega
    obtain ⟨tail, pieces, cut⟩ := wrapChars_fits pre rest (c :: current) (bytes + c.utf8Size) limit (by omega)
    refine ⟨tail, pieces, ?_⟩
    rw [List.cons_append, wrapChars, if_neg room, cut]
    simp

theorem wrap_attribute {key : String} (short : key.utf8ByteSize ≤ 70) (value : String) :
    ∃ (first : List Char) (more : List (List Char)), wrap (key ++ ": " ++ value) =
        String.ofList (key.toList ++ ':' :: ' ' :: first) :: more.map (fun piece => String.ofList (' ' :: piece)) ∧
      value.toList = first ++ more.flatten := by
  have line : (key ++ ": " ++ value).toList = (key.toList ++ [':', ' ']) ++ value.toList := by simp
  unfold wrap
  split
  · have same : key ++ ": " ++ value = String.ofList (key.toList ++ ':' :: ' ' :: value.toList) := by
      rw [← String.toList_inj, String.toList_ofList, line]
      simp
    exact ⟨value.toList, [], by simp [same], by simp⟩
  · have bytes : 0 + String.utf8Len (key.toList ++ [':', ' ']) ≤ lineLimit := by
      have colon : ':'.utf8Size = 1 := rfl
      have space : ' '.utf8Size = 1 := rfl
      rw [String.utf8Len_append, String.utf8Len_toList]
      simp only [String.utf8Len_cons, String.utf8Len_nil, colon, space, lineLimit]
      omega
    obtain ⟨tail, pieces, cut⟩ := wrapChars_fits _ value.toList [] 0 lineLimit bytes
    have whole := wrapChars_flatten ((key.toList ++ [':', ' ']) ++ value.toList) [] 0 lineLimit
    rw [cut] at whole
    rw [line, cut]
    refine ⟨tail, pieces, by simp, ?_⟩
    rw [eq_comm]
    simpa using whole

/-- What the round trip asks of an attribute: a key of one to seventy bytes with no colon
and no blank in it (every line break is a blank), and a value with no line break. -/
structure Writable (key value : String) : Prop where
  keyNonempty : key ≠ ""
  keyShort : key.utf8ByteSize ≤ 70
  keyPlain : ∀ c ∈ key.toList, c ≠ ':' ∧ isBlank c = false
  valueUnbroken : ∀ c ∈ value.toList, isLineBreak c = false

-- The character checks are decided as `List.all`, which evaluates in one pass over the text.
instance (key value : String) : Decidable (Writable key value) :=
  decidable_of_iff (key ≠ "" ∧ key.utf8ByteSize ≤ 70 ∧ key.toList.all (fun c => c != ':' && !isBlank c) = true ∧
      value.toList.all (fun c => !isLineBreak c) = true)
    (by simp only [List.all_eq_true, Bool.and_eq_true, bne_iff_ne, ne_eq, Bool.not_eq_true']
        exact ⟨fun ⟨a, b, c, d⟩ => ⟨a, b, c, d⟩, fun ⟨a, b, c, d⟩ => ⟨a, b, c, d⟩⟩)

def PiecesShown (key value : String) : Prop :=
  ∀ piece ∈ (wrap (key ++ ": " ++ value)).tail, ∃ c ∈ piece.toList, isBlank c = false

instance (key value : String) : Decidable (PiecesShown key value) :=
  decidable_of_iff ((wrap (key ++ ": " ++ value)).tail.all (fun piece => piece.toList.any fun c => !isBlank c) = true)
    (by simp [PiecesShown, List.all_eq_true, List.any_eq_true])

theorem splitAtFirst_attribute {key : List Char} (noColon : ∀ c ∈ key, c ≠ ':') (value : List Char) :
    splitAtFirst ':' (String.ofList (key ++ ':' :: value)) = some (String.ofList key, String.ofList value) := by
  have kept : ∀ c ∈ key, (c != ':') = true := fun c member => by simpa using noColon c member
  simp [splitAtFirst, List.takeWhile_append_of_pos kept, List.dropWhile_append_of_pos kept]

theorem readLines_blank (attrs : Attributes) (last : Option String) : readLines [""] attrs last = attrs := by
  have blank : (trim "").isEmpty = true := by decide
  rw [readLines.eq_def]
  simp only [blank, if_true]
  split <;> rfl

theorem readLines_continued (key : String) (attrs : Attributes) :
    ∀ (more : List (List Char)) (acc : List Char), (∀ piece ∈ more, ∃ c ∈ piece, isBlank c = false) →
    ∀ rest, readLines (more.map (fun piece => String.ofList (' ' :: piece)) ++ rest)
        (attrs.insert key (String.ofList acc)) (some key) =
      readLines rest (attrs.insert key (String.ofList (acc ++ more.flatten))) (some key)
  | [], acc, _, rest => by simp
  | piece :: more, acc, shown, rest => by
    have visible : (trim (String.ofList (' ' :: piece))).isEmpty = false := by
      obtain ⟨c, member, kept⟩ := shown piece List.mem_cons_self
      exact trim_isEmpty_eq_false ⟨c, by simp [member], kept⟩
    rw [List.map_cons, List.cons_append, readLines.eq_def]
    simp only [visible, Bool.false_eq_true, if_false, String.toList_ofList, OrderedMap.get?_insert_self,
      Option.getD_some, OrderedMap.insert_insert, ← String.ofList_append]
    rw [readLines_continued key attrs more (acc ++ piece)
      (fun p member => shown p (List.mem_cons_of_mem _ member))]
    simp

theorem readLines_opened {key : String} (writable : Writable key "") (first : List Char)
    (rest : List String) (attrs : Attributes) (last : Option String) :
    readLines (String.ofList (key.toList ++ ':' :: ' ' :: first) :: rest) attrs last =
      readLines rest (attrs.insert key (String.ofList first)) (some key) := by
  obtain ⟨k, ks, spelled⟩ : ∃ k ks, key.toList = k :: ks := by
    cases shape : key.toList with
    | nil => exact absurd (String.toList_inj.mp (by simpa using shape)) writable.keyNonempty
    | cons k ks => exact ⟨k, ks, rfl⟩
  have plainHead := writable.keyPlain k (by simp [spelled])
  have notSpace : k ≠ ' ' := by
    rintro rfl
    simp [isBlank] at plainHead
  have visible : (trim (String.ofList (key.toList ++ ':' :: ' ' :: first))).isEmpty = false :=
    trim_isEmpty_eq_false ⟨k, by simp [spelled], plainHead.2⟩
  have split := splitAtFirst_attribute (fun c member => (writable.keyPlain c member).1) (' ' :: first)
  rw [String.ofList_toList] at split
  rw [readLines.eq_def]
  simp only [visible, Bool.false_eq_true, if_false]
  simp only [String.toList_ofList, spelled, List.cons_append]
  split
  · rename_i same
    simp only [List.cons.injEq] at same
    exact absurd same.1 notSpace
  · have respelled : String.ofList (k :: (ks ++ ':' :: ' ' :: first)) =
        String.ofList (key.toList ++ ':' :: ' ' :: first) := by
      rw [spelled, List.cons_append]
    rw [respelled, split]
    simp only [trim_eq_self fun c member => (writable.keyPlain c member).2, String.toList_ofList]

def physicalLines (entries : List (String × String)) : List String :=
  entries.flatMap fun e => wrap (e.1 ++ ": " ++ e.2)

theorem physicalLines_unbroken {entries : List (String × String)}
    (writable : ∀ e ∈ entries, Writable e.1 e.2) :
    ∀ l ∈ physicalLines entries, ∀ c ∈ l.toList, isLineBreak c = false := by
  intro l member c within
  obtain ⟨e, entry, written⟩ := List.mem_flatMap.mp member
  have plain := writable e entry
  obtain ⟨first, more, cut, value⟩ := wrap_attribute plain.keyShort e.2
  have fromValue : ∀ d ∈ first ++ more.flatten, isLineBreak d = false := by
    rw [← value]
    exact plain.valueUnbroken
  rw [cut] at written
  rcases List.mem_cons.mp written with rfl | later
  · simp only [String.toList_ofList, List.mem_append, List.mem_cons] at within
    rcases within with key | rfl | rfl | tail
    · cases broken : isLineBreak c
      · rfl
      · have := isBlank_of_isLineBreak broken
        rw [(plain.keyPlain c key).2] at this
        cases this
    · decide
    · decide
    · exact fromValue c (List.mem_append_left _ tail)
  · obtain ⟨piece, held, rfl⟩ := List.mem_map.mp later
    simp only [String.toList_ofList, List.mem_cons] at within
    rcases within with rfl | inPiece
    · decide
    · exact fromValue c (List.mem_append_right _ (List.mem_flatten.mpr ⟨piece, held, inPiece⟩))

theorem readLines_physicalLines (attrs : Attributes) (last : Option String) :
    ∀ entries : List (String × String), (∀ e ∈ entries, Writable e.1 e.2) →
    (∀ e ∈ entries, PiecesShown e.1 e.2) → (entries.map Prod.fst).Nodup → (∀ e ∈ entries, e.1 ∉ attrs.keys) →
    readLines (physicalLines entries ++ [""]) attrs last = ⟨attrs.entries ++ entries⟩
  | [], _, _, _, _ => by
    rw [physicalLines, List.flatMap_nil, List.nil_append, readLines_blank]
    simp
  | (key, value) :: entries, writable, shown, distinct, fresh => by
    have plain : Writable key value := writable (key, value) List.mem_cons_self
    obtain ⟨first, more, cut, spelled⟩ := wrap_attribute plain.keyShort value
    have visible : ∀ piece ∈ more, ∃ c ∈ piece, isBlank c = false := by
      intro piece member
      have := shown (key, value) List.mem_cons_self (String.ofList (' ' :: piece))
        (by rw [cut, List.tail_cons]; exact List.mem_map_of_mem member)
      obtain ⟨c, within, kept⟩ := this
      simp only [String.toList_ofList, List.mem_cons] at within
      rcases within with rfl | inPiece
      · simp [isBlank] at kept
      · exact ⟨c, inPiece, kept⟩
    have opened := readLines_opened ⟨plain.keyNonempty, plain.keyShort, plain.keyPlain, by simp⟩ first
      (more.map (fun piece => String.ofList (' ' :: piece)) ++ (physicalLines entries ++ [""])) attrs last
    have whole : String.ofList (first ++ more.flatten) = value := by
      rw [← spelled, String.ofList_toList]
    have added : attrs.insert key value = ⟨attrs.entries ++ [(key, value)]⟩ := by
      rw [← OrderedMap.entries_insert_of_not_mem attrs key (fresh (key, value) List.mem_cons_self)]
    have unique := List.nodup_cons.mp distinct
    have later := readLines_physicalLines (attrs.insert key value) (some key) entries
      (fun e member => writable e (List.mem_cons_of_mem _ member))
      (fun e member => shown e (List.mem_cons_of_mem _ member)) unique.2 (by
        intro e member old
        rw [added] at old
        simp only [OrderedMap.keys, List.map_append, List.map_cons, List.map_nil, List.mem_append,
          List.mem_singleton] at old
        rcases old with inAttrs | same
        · exact fresh e (List.mem_cons_of_mem _ member) inAttrs
        · have listed : e.1 ∈ entries.map Prod.fst := List.mem_map_of_mem member
          rw [same] at listed
          exact unique.1 listed)
    rw [physicalLines, List.flatMap_cons, cut, ← physicalLines]
    simp only [List.cons_append, List.append_assoc]
    rw [opened, readLines_continued key attrs more first visible, whole, later, added]
    simp

theorem physicalLines_ne_nil {entry : String × String} (writable : Writable entry.1 entry.2)
    (entries : List (String × String)) : physicalLines (entry :: entries) ≠ [] := by
  obtain ⟨first, more, cut, _⟩ := wrap_attribute writable.keyShort entry.2
  simp [physicalLines, cut]

theorem format_toList (attrs : Attributes) :
    (format attrs).toList = ['\r', '\n'].intercalate ((physicalLines (("Manifest-Version",
      (attrs.get? "Manifest-Version").getD "1.0") :: attrs.toList.filter (·.1 != "Manifest-Version"))).map
        String.toList) ++ '\r' :: '\n' :: ['\r', '\n'] := by
  simp [format, physicalLines, OrderedMap.erase, OrderedMap.toList, String.toList_intercalate]
  rfl

theorem version_entry {attrs : Attributes} (writable : ∀ e ∈ attrs.toList, Writable e.1 e.2)
    (shown : ∀ e ∈ attrs.toList, PiecesShown e.1 e.2) :
    Writable "Manifest-Version" ((attrs.get? "Manifest-Version").getD "1.0") ∧
      PiecesShown "Manifest-Version" ((attrs.get? "Manifest-Version").getD "1.0") := by
  cases found : attrs.get? "Manifest-Version" with
  | none => decide
  | some v =>
    obtain ⟨e, hit, rfl⟩ := Option.map_eq_some_iff.mp found
    have member := List.mem_of_find?_eq_some hit
    have keyed : e.1 = "Manifest-Version" := by simpa using List.find?_some hit
    rw [Option.getD_some, ← keyed]
    exact ⟨writable e member, shown e member⟩

theorem written_entries {P : String → String → Prop} {attrs : Attributes} {version : String}
    (first : P "Manifest-Version" version) (each : ∀ e ∈ attrs.toList, P e.1 e.2) :
    ∀ e ∈ ("Manifest-Version", version) :: attrs.toList.filter (·.1 != "Manifest-Version"), P e.1 e.2 := by
  intro e member
  rcases List.mem_cons.mp member with rfl | other
  · exact first
  · exact each e (List.mem_filter.mp other).1

/-- Reading back a written main section gives the attributes with `Manifest-Version` first
(its own value, else 1.0) and the others in their order, when every key is one to seventy
bytes with no colon or blank, no value holds a line break, and no piece after a cut of an
attribute's line is made only of blanks. -/
theorem parse_format_of_pieces_shown (attrs : Attributes) (distinct : attrs.keys.Nodup)
    (writable : ∀ e ∈ attrs.toList, Writable e.1 e.2) (shown : ∀ e ∈ attrs.toList, PiecesShown e.1 e.2) :
    parse (format attrs) =
      ⟨("Manifest-Version", (attrs.get? "Manifest-Version").getD "1.0") ::
        attrs.toList.filter (·.1 != "Manifest-Version")⟩ := by
  obtain ⟨versionWritable, versionShown⟩ := version_entry writable shown
  have allWritable := written_entries versionWritable writable
  have allShown := written_entries versionShown shown
  have keysDistinct : ((("Manifest-Version", (attrs.get? "Manifest-Version").getD "1.0") ::
      attrs.toList.filter (·.1 != "Manifest-Version")).map Prod.fst).Nodup := by
    rw [List.map_cons, List.nodup_cons]
    constructor
    · intro listed
      obtain ⟨e, member, keyed⟩ := List.mem_map.mp listed
      have := (List.mem_filter.mp member).2
      simp [keyed] at this
    · exact distinct.sublist ((List.filter_sublist).map Prod.fst)
  have written : lines (format attrs) = physicalLines (("Manifest-Version",
      (attrs.get? "Manifest-Version").getD "1.0") :: attrs.toList.filter (·.1 != "Manifest-Version")) ++ [""] := by
    rw [lines, format_toList, linesOf_intercalate (physicalLines_ne_nil versionWritable _)
      (physicalLines_unbroken allWritable)]
    simp [linesOf]
  calc parse (format attrs)
      = readLines (lines (format attrs)) {} none := rfl
    _ = ⟨[] ++ (("Manifest-Version", (attrs.get? "Manifest-Version").getD "1.0") ::
          attrs.toList.filter (·.1 != "Manifest-Version"))⟩ := by
      rw [written]
      exact readLines_physicalLines {} none _ allWritable allShown keysDistinct (by simp [OrderedMap.keys])
    _ = _ := by rw [List.nil_append]

/-- Dependencies long enough to be cut over two lines. -/
def dependencyAttributes : Attributes :=
  ⟨[("Short-Name", "demo"),
    ("Plugin-Dependencies", "plugin-0:1.0,plugin-1:1.1,plugin-2:1.2,plugin-3:1.3,plugin-4:1.4,plugin-5:1.5")]⟩

theorem dependency_attributes_read_back :
    dependencyAttributes.keys.Nodup ∧ (∀ e ∈ dependencyAttributes.toList, Writable e.1 e.2) ∧
      (∀ e ∈ dependencyAttributes.toList, PiecesShown e.1 e.2) ∧
      parse (format dependencyAttributes) =
        ⟨("Manifest-Version", (dependencyAttributes.get? "Manifest-Version").getD "1.0") ::
          dependencyAttributes.toList.filter (·.1 != "Manifest-Version")⟩ := by
  have distinct : dependencyAttributes.keys.Nodup := by decide
  have writable : ∀ e ∈ dependencyAttributes.toList, Writable e.1 e.2 := by decide
  have shown : ∀ e ∈ dependencyAttributes.toList, PiecesShown e.1 e.2 := by decide +kernel
  exact ⟨distinct, writable, shown, parse_format_of_pieces_shown dependencyAttributes distinct writable shown⟩

def spacedValue : String := String.ofList (List.replicate 68 'x' ++ [' ', ' '])

/-- The second space of `spacedValue` is written on a line of its own, after the space that
marks it as continued; that line is blank, reading stops there, and the space is lost. -/
theorem trailing_space_is_lost :
    (∀ e ∈ [("A", spacedValue)], Writable e.1 e.2) ∧
      parse (format ⟨[("A", spacedValue)]⟩) ≠ ⟨[("Manifest-Version", "1.0"), ("A", spacedValue)]⟩ := by
  constructor
  · decide
  · intro same
    have entries := congrArg OrderedMap.entries same
    revert entries
    decide +kernel

end PluginPack.Manifest
