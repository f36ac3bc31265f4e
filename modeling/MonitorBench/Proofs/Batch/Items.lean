import Mathlib.Data.List.Induction
import MonitorBench.Proofs.Statistics.Row

/-!
# The items of a work list and the rows that cover them

`Reads mode lines items` says that every line is well-formed and which items the lines hold.
`unfinished finished items` are the items that a resumed run has to start the tool for: each
finished row covers one item with its key, and the rows with a key cover the first items that
have it. Both grow at the end, one line and one item at a time, as a run goes.
-/

set_option autoImplicit false

namespace MonitorBench.Batch

/-- The lines hold the items, in order. -/
def Reads (mode : InputMode) (lines : List String) (items : List Item) : Prop :=
  lines.mapIdx (fun index line => Item.parse mode (Text.lineNumber index) line) =
    items.map .ok

/-- The keys of the items, in order. -/
def keys (items : List Item) : List String :=
  items.map Item.key

/-- The items that are not among the first ones that finished rows cover: an item is left when as
many items with its key come before it as there are finished rows with that key. -/
def unfinished (finished : List String) (items : List Item) : List Item :=
  (items.zipIdx.filter fun (item, index) =>
    decide (finished.count item.key ≤ (keys (items.take index)).count item.key)).map Prod.fst

section Reads

variable {mode : InputMode} {lines : List String} {items : List Item}

/-- No lines hold no items. -/
theorem Reads.nil (mode : InputMode) : Reads mode [] [] := rfl

/-- There are as many items as lines. -/
theorem Reads.length_eq (h : Reads mode lines items) : items.length = lines.length := by
  simpa using (congrArg List.length h).symm

/-- A line more is read at the place where it stands. -/
theorem Reads.snoc (h : Reads mode lines items) {line : String} {item : Item}
    (read : Item.parse mode (Text.lineNumber lines.length) line = .ok item) :
    Reads mode (lines ++ [line]) (items ++ [item]) := by
  rw [Reads, List.mapIdx_concat, List.map_append, h, read]
  rfl

/-- Where a line stands among the lines, its item stands among the items. -/
theorem Reads.split {done rest : List String} {line : String}
    (h : Reads mode (done ++ line :: rest) items) :
    ∃ before item behind, items = before ++ item :: behind ∧ Reads mode done before ∧
      Item.parse mode (Text.lineNumber done.length) line = .ok item := by
  rw [Reads, List.mapIdx_append, List.mapIdx_cons] at h
  obtain ⟨before, others, rfl, first, last⟩ := List.map_eq_append_iff.mp h.symm
  obtain ⟨item, behind, rfl, read, -⟩ := List.map_eq_cons_iff.mp last
  refine ⟨before, item, behind, rfl, first.symm, ?_⟩
  rw [read, Nat.zero_add]

/-- Each of the lines holds an item. -/
theorem Reads.parse_of_getElem? (h : Reads mode lines items) {index : Nat} {line : String}
    (at_index : lines[index]? = some line) :
    ∃ item, Item.parse mode (Text.lineNumber index) line = .ok item := by
  have same := congrArg (fun reads => reads[index]?) h
  simp only [List.getElem?_mapIdx, at_index, Option.map_some, List.getElem?_map] at same
  obtain ⟨item, -, read⟩ := Option.map_eq_some_iff.mp same.symm
  exact ⟨item, read.symm⟩

/-- Lines hold no other items. -/
theorem Reads.unique {others : List Item} (h : Reads mode lines items)
    (other : Reads mode lines others) : others = items := by
  have same : others.map Except.ok = items.map Except.ok := other.symm.trans h
  exact (List.map_inj_right fun _ _ eq => Except.ok.inj eq).mp same

/-- Every item was read from one of the lines. -/
theorem Reads.of_mem (h : Reads mode lines items) {item : Item} (mem : item ∈ items) :
    ∃ index line, line ∈ lines ∧ Item.parse mode (Text.lineNumber index) line = .ok item := by
  have found : (.ok item : Except LineFault Item) ∈ items.map .ok := List.mem_map_of_mem mem
  rw [← h, List.mem_mapIdx] at found
  obtain ⟨index, bound, read⟩ := found
  exact ⟨index, lines[index], List.getElem_mem bound, read⟩

/-- Items read from lines without line feeds have keys without line feeds. -/
theorem Reads.newline_not_mem_key (h : Reads mode lines items)
    (one_line : ∀ line ∈ lines, '\n' ∉ line.toList) {item : Item} (mem : item ∈ items) :
    '\n' ∉ item.key.toList := by
  obtain ⟨index, line, of_lines, read⟩ := h.of_mem mem
  exact Item.newline_not_mem_key read (one_line line of_lines)

/-- The rows of the items can be read again, unless there are raw formulas with a comma. -/
theorem Reads.readable (h : Reads mode lines items)
    (plain : mode = .raw → ∀ item ∈ items, ',' ∉ item.formula.toList) {item : Item}
    (mem : item ∈ items) : item.mode = mode ∧ item.Readable := by
  obtain ⟨index, line, -, read⟩ := h.of_mem mem
  exact Item.readable_of_parse read fun raw => plain raw item mem

end Reads

section Unfinished

variable {finished : List String} {items : List Item}

/-- The keys of two lists of items, one after the other. -/
theorem keys_append (items others : List Item) :
    keys (items ++ others) = keys items ++ keys others :=
  List.map_append

/-- One item more is left unless a finished row is left for it. -/
theorem unfinished_snoc (finished : List String) (items : List Item) (item : Item) :
    unfinished finished (items ++ [item]) = unfinished finished items ++
      if finished.count item.key ≤ (keys items).count item.key then [item] else [] := by
  have earlier : ∀ entry ∈ items.zipIdx, (items ++ [item]).take entry.2 = items.take entry.2 := by
    intro entry mem
    have inside : entry.2 < items.length := by simpa using List.snd_lt_of_mem_zipIdx mem
    exact List.take_append_of_le_length (Nat.le_of_lt inside)
  rw [unfinished, unfinished, List.zipIdx_append, List.filter_append, List.map_append]
  congr 1
  · refine congrArg (List.map Prod.fst) (List.filter_congr fun entry mem => ?_)
    simp only [earlier entry mem]
  · by_cases left : finished.count item.key ≤ (keys items).count item.key <;> simp [left]

/-- With no finished rows every item is left. -/
theorem unfinished_nil (items : List Item) : unfinished [] items = items := by
  induction items using List.reverseRecOn with
  | nil => rfl
  | append_singleton items item ih => simp [unfinished_snoc, ih]

/-- An item that is left is one of the items. -/
theorem mem_of_mem_unfinished {item : Item} (mem : item ∈ unfinished finished items) :
    item ∈ items := by
  obtain ⟨entry, kept, rfl⟩ := List.mem_map.mp mem
  exact List.fst_mem_of_mem_zipIdx (List.mem_of_mem_filter kept)

/-- Of the items with a key, as many are left as there are more of them than finished rows. -/
theorem count_unfinished (finished : List String) (items : List Item) (key : String) :
    (keys (unfinished finished items)).count key =
      (keys items).count key - finished.count key := by
  induction items using List.reverseRecOn with
  | nil => simp [unfinished, keys]
  | append_singleton items item ih =>
    rw [unfinished_snoc, keys_append, keys_append, List.count_append, List.count_append, ih]
    by_cases same : item.key = key
    · subst same
      split
      next left =>
        simp only [keys, List.map_singleton, List.count_singleton_self] at left ⊢
        omega
      next covered =>
        simp only [keys, List.map_nil, List.count_nil, List.map_singleton,
          List.count_singleton_self] at covered ⊢
        omega
    · have other : (keys [item]).count key = 0 := by simp [keys, same]
      have nothing : (keys []).count key = 0 := rfl
      split
      · rw [other, Nat.add_zero, Nat.add_zero]
      · rw [other, nothing, Nat.add_zero, Nat.add_zero]

/-- No item is left when every key has as many finished rows as items. -/
theorem unfinished_eq_nil
    (covered : ∀ key, (keys items).count key ≤ finished.count key) :
    unfinished finished items = [] := by
  have nothing : ∀ item, item ∉ unfinished finished items := by
    intro item mem
    have counted := count_unfinished finished items item.key
    have some_left : 0 < (keys (unfinished finished items)).count item.key :=
      List.count_pos_iff.mpr (List.mem_map_of_mem mem)
    have enough := covered item.key
    omega
  exact List.eq_nil_iff_forall_not_mem.mpr nothing

/-- After finished rows for exactly the first items, exactly the other items are left. -/
theorem unfinished_keys_append (items others : List Item) :
    unfinished (keys items) (items ++ others) = others := by
  induction others using List.reverseRecOn with
  | nil =>
    rw [List.append_nil]
    exact unfinished_eq_nil fun key => Nat.le_refl _
  | append_singleton others item ih =>
    have left : (keys items).count item.key ≤ (keys (items ++ others)).count item.key := by
      rw [keys_append, List.count_append]
      omega
    rw [← List.append_assoc, unfinished_snoc, ih, if_pos left]

/-- After finished rows for the first items, an item for which no row is left comes after them. -/
theorem append_of_count_le {done rest first behind : List Item} {item : Item}
    (same : done ++ rest = first ++ item :: behind)
    (no_row : (keys done).count item.key ≤ (keys first).count item.key) :
    ∃ block, first = done ++ block ∧ rest = block ++ item :: behind := by
  rcases List.append_eq_append_iff.mp same with ⟨block, rfl, rfl⟩ | ⟨block, rfl, later⟩
  · exact ⟨block, rfl, rfl⟩
  · cases block with
    | nil => exact ⟨[], by simp, by simpa using later.symm⟩
    | cons other block =>
      -- the item itself would be among the first ones, and have used up a row
      obtain ⟨rfl, -⟩ := List.cons.inj later
      simp only [keys, List.map_append, List.map_cons, List.count_append,
        List.count_cons_self] at no_row
      omega

end Unfinished

end MonitorBench.Batch
