import Mathlib.Data.List.Nodup
import Mathlib.Data.List.Pairwise
import Mathlib.Data.List.Infix
import Mathlib.Data.List.Perm.Basic
import Mathlib.Data.List.Sort
import Mathlib.Data.List.TakeWhile

/-!
# Lists searched from the front

The first item of a list that satisfies a predicate is one of highest rank when the ranks never
increase along the list, and the only one with its key when the keys are distinct. For appending,
replacing and erasing one item the rules below say exactly what keeps either property.
-/

namespace VirtualServiceGateway.RankedList

variable {Item Rank Key : Type*}

section Rank

variable [Preorder Rank] (rank : Item → Rank)

/-- Ranks never increase along the list. -/
def Descending (items : List Item) : Prop :=
  items.Pairwise fun earlier later ↦ rank later ≤ rank earlier

/-- **First match.** In a descending list the first match has the highest rank of all matches. -/
theorem rank_le_of_find?_eq_some {items : List Item} (hdescending : Descending rank items)
    {select : Item → Bool} {found : Item} (hfound : items.find? select = some found) {item : Item}
    (hitem : item ∈ items) (hselect : select item) : rank item ≤ rank found := by
  obtain ⟨_, before, after, rfl, hbefore⟩ := List.find?_eq_some_iff_append.mp hfound
  rcases List.mem_append.mp hitem with hearlier | hlater
  · have hrejected := hbefore item hearlier
    rw [hselect] at hrejected
    cases hrejected
  · rcases List.mem_cons.mp hlater with rfl | hafter
    · exact le_rfl
    · have htail := (List.pairwise_append.mp hdescending).2.1
      exact List.rel_of_pairwise_cons htail hafter

theorem descending_append_singleton_iff {items : List Item} (hdescending : Descending rank items)
    (item : Item) :
    Descending rank (items ++ [item]) ↔ ∀ earlier ∈ items, rank item ≤ rank earlier := by
  unfold Descending at hdescending ⊢
  simp [List.pairwise_append, hdescending]

theorem descending_set_iff {items : List Item} (hdescending : Descending rank items) {place : ℕ}
    (hplace : place < items.length) (item : Item) :
    Descending rank (items.set place item) ↔
      (∀ earlier ∈ items.take place, rank item ≤ rank earlier) ∧
        ∀ later ∈ items.drop (place + 1), rank later ≤ rank item := by
  unfold Descending at hdescending ⊢
  have hsplit : items.take place ++ items[place] :: items.drop (place + 1) = items := by simp
  rw [← hsplit, List.pairwise_append] at hdescending
  rw [List.set_eq_take_append_cons_drop, if_pos hplace, List.pairwise_append,
    List.pairwise_cons]
  obtain ⟨hbefore, hafter, hacross⟩ := hdescending
  have hcross : ∀ earlier ∈ items.take place, ∀ later ∈ items.drop (place + 1),
      rank later ≤ rank earlier :=
    fun earlier hearlier later hlater ↦ hacross earlier hearlier later
      (List.mem_cons_of_mem _ hlater)
  constructor
  · intro h
    exact ⟨fun earlier hearlier ↦ h.2.2 earlier hearlier item List.mem_cons_self, h.2.1.1⟩
  · intro h
    refine ⟨hbefore, ⟨h.2, hafter.of_cons⟩, fun earlier hearlier later hlater ↦ ?_⟩
    rcases List.mem_cons.mp hlater with rfl | hlater
    · exact h.1 earlier hearlier
    · exact hcross earlier hearlier later hlater

theorem descending_eraseIdx {items : List Item} (hdescending : Descending rank items)
    (place : ℕ) : Descending rank (items.eraseIdx place) :=
  hdescending.sublist (List.eraseIdx_sublist items place)

end Rank

/-- A sort known by its contract alone: it permutes the items so that none stands after one that
the comparator puts behind it. -/
structure Sorter (before : Item → Item → Bool) where
  sort : List Item → List Item
  perm : ∀ items, (sort items).Perm items
  ordered : ∀ items, (sort items).Pairwise fun earlier later ↦ ¬before later earlier

/-- A sort that rearranges its input first is a sort. -/
def Sorter.rearranged {before : Item → Item → Bool} (sorter : Sorter before)
    (rearrange : List Item → List Item) (hperm : ∀ items, (rearrange items).Perm items) :
    Sorter before where
  sort := fun items ↦ sorter.sort (rearrange items)
  perm := fun items ↦ (sorter.perm _).trans (hperm items)
  ordered := fun _ ↦ sorter.ordered _

/-- Insertion puts an item in front of all items of its own rank, so it is the first match when no
match has a higher rank. -/
theorem find?_insertionSort_cons [LinearOrder Rank] (rank : Item → Rank) {select : Item → Bool}
    {item : Item} {items : List Item} (hselect : select item)
    (htop : ∀ other ∈ items, select other → rank other ≤ rank item) :
    ((item :: items).insertionSort fun first second ↦ rank second ≤ rank first).find? select =
      some item := by
  rw [List.insertionSort_cons_eq_take_drop, List.find?_append, List.find?_cons_of_pos hselect]
  have hfront : ((items.insertionSort fun first second ↦ rank second ≤ rank first).takeWhile
      fun other ↦ decide ¬rank other ≤ rank item).find? select = none := by
    apply List.find?_eq_none.mpr
    intro other hother hselected
    have hhigher := List.mem_takeWhile_imp hother
    have hmem := (List.mem_insertionSort _).mp ((List.takeWhile_sublist _).mem hother)
    exact of_decide_eq_true hhigher (htop other hmem hselected)
  rw [hfront]
  rfl

section Front

variable {property : Item → Prop}

/-- The property holds of every item at an index below the limit. -/
def AllInFront (property : Item → Prop) (items : List Item) (limit : ℕ) : Prop :=
  ∀ index item, index < limit → items[index]? = some item → property item

theorem allInFront_zero (items : List Item) : AllInFront property items 0 :=
  fun _ _ hindex ↦ absurd hindex (Nat.not_lt_zero _)

theorem AllInFront.succ {items : List Item} {limit : ℕ}
    (hfront : AllInFront property items limit) {item : Item} (hitem : items[limit]? = some item)
    (hproperty : property item) : AllInFront property items (limit + 1) := by
  intro index other hindex hother
  rcases Nat.lt_succ_iff_lt_or_eq.mp hindex with hearlier | rfl
  · exact hfront index other hearlier hother
  · rw [hitem] at hother
    rwa [← Option.some.inj hother]

theorem allInFront_set_iff {items : List Item} {limit : ℕ}
    (hfront : AllInFront property items limit) {place : ℕ} (hplace : place < items.length)
    (item : Item) :
    AllInFront property (items.set place item) limit ↔ (place < limit → property item) := by
  constructor
  · intro h hbefore
    exact h place item hbefore (List.getElem?_set_self hplace)
  · intro h index other hindex hother
    by_cases hsame : place = index
    · subst hsame
      rw [List.getElem?_set_self hplace] at hother
      rw [← Option.some.inj hother]
      exact h hindex
    · rw [List.getElem?_set_ne hsame] at hother
      exact hfront index other hindex hother

/-- Behind a front without matches, the item at the limit is the first match if it is one. -/
theorem AllInFront.find?_eq_some {select : Item → Bool} {items : List Item} {limit : ℕ}
    (hfront : AllInFront (fun item ↦ ¬select item) items limit) {item : Item}
    (hitem : items[limit]? = some item) (hselect : select item) :
    items.find? select = some item := by
  obtain ⟨hlimit, rfl⟩ := List.getElem?_eq_some_iff.mp hitem
  rw [List.find?_eq_some_iff_getElem]
  refine ⟨hselect, limit, hlimit, rfl, fun index hindex ↦ ?_⟩
  simpa using hfront index _ hindex (List.getElem?_eq_getElem (hindex.trans hlimit))

/-- A front without matches that reaches the end leaves no match. -/
theorem AllInFront.find?_eq_none {select : Item → Bool} {items : List Item} {limit : ℕ}
    (hfront : AllInFront (fun item ↦ ¬select item) items limit)
    (hend : items[limit]? = none) : items.find? select = none := by
  have hlength := List.getElem?_eq_none_iff.mp hend
  apply List.find?_eq_none.mpr
  intro item hitem
  obtain ⟨index, hindex⟩ := List.getElem?_of_mem hitem
  have hlt := (List.getElem?_eq_some_iff.mp hindex).1
  exact hfront index item (by omega) hindex

end Front

section Key

variable (key : Item → Key)

/-- No two items share a key. -/
def Distinct (items : List Item) : Prop := (items.map key).Nodup

theorem distinct_append_iff {items : List Item} (hdistinct : Distinct key items)
    (more : List Item) :
    Distinct key (items ++ more) ↔
      Distinct key more ∧ ∀ item ∈ more, ∀ present ∈ items, key present ≠ key item := by
  unfold Distinct at hdistinct ⊢
  rw [List.map_append, List.nodup_append']
  constructor
  · intro h
    refine ⟨h.2.1, fun item hitem present hpresent hkey ↦ ?_⟩
    exact h.2.2 (List.mem_map_of_mem hpresent) (hkey ▸ List.mem_map_of_mem hitem)
  · intro h
    refine ⟨hdistinct, h.1, fun value hold hnew ↦ ?_⟩
    obtain ⟨present, hpresent, rfl⟩ := List.mem_map.mp hold
    obtain ⟨item, hitem, hkey⟩ := List.mem_map.mp hnew
    exact h.2 item hitem present hpresent hkey.symm

/-- Replacing an item by one of the same key keeps all keys. -/
theorem map_key_set {items : List Item} {place : ℕ} {old : Item} (hold : items[place]? = some old)
    {item : Item} (hkey : key item = key old) : (items.set place item).map key = items.map key := by
  obtain ⟨hplace, rfl⟩ := List.getElem?_eq_some_iff.mp hold
  rw [List.map_set, hkey, ← List.getElem_map key (h := by simpa using hplace),
    List.set_getElem_self]

theorem distinct_perm {items others : List Item} (hperm : items.Perm others) :
    Distinct key items ↔ Distinct key others :=
  (hperm.map key).nodup_iff

theorem distinct_eraseIdx {items : List Item} (hdistinct : Distinct key items) (place : ℕ) :
    Distinct key (items.eraseIdx place) :=
  List.Nodup.sublist ((List.eraseIdx_sublist items place).map key) hdistinct

/-- With distinct keys, an item that shares the key of another one is that one. -/
theorem eq_of_distinct {items : List Item} (hdistinct : Distinct key items) {first second : Item}
    (hfirst : first ∈ items) (hsecond : second ∈ items) (hkey : key first = key second) :
    first = second :=
  List.inj_on_of_nodup_map hdistinct hfirst hsecond hkey

/-- With distinct keys, erasing an item leaves none with its key. -/
theorem key_ne_of_mem_eraseIdx {items : List Item} (hdistinct : Distinct key items) {place : ℕ}
    {erased : Item} (herased : items[place]? = some erased) {item : Item}
    (hitem : item ∈ items.eraseIdx place) : key item ≠ key erased := by
  obtain ⟨hplace, rfl⟩ := List.getElem?_eq_some_iff.mp herased
  have hperm : (items[place] :: items.eraseIdx place).Perm items :=
    List.getElem_cons_eraseIdx_perm hplace
  have hnodup := (distinct_perm key hperm).mpr hdistinct
  unfold Distinct at hnodup
  rw [List.map_cons, List.nodup_cons] at hnodup
  intro hkey
  exact hnodup.1 (hkey ▸ List.mem_map_of_mem hitem)

end Key

end VirtualServiceGateway.RankedList
