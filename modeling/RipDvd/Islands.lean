import Mathlib.Data.Int.Interval
import Mathlib.Data.Int.ConditionallyCompleteOrder
import Mathlib.Data.Finset.Lattice.Basic
import Mathlib.Tactic.Common
import Mathlib.Order.ConditionallyCompleteLattice.Basic

namespace RipDvd
set_option autoImplicit true

/-- A record that spans the numbers from its first to its last. -/
class Span (R : Type u) where
  first : R → Int
  last : R → Int

namespace Span

variable {R : Type u} [Span R]

/-- Each row of a window with the greatest last number of the rows before it. -/
def withPreceding (preceding : Option Int) : List R → List (R × Option Int)
  | [] => []
  | row :: rows =>
    (row, preceding) :: withPreceding (some (preceding.elim (last row) (max · (last row)))) rows

/-- A row that begins behind all rows before it. -/
def startsIsland (row : R × Option Int) : Bool := row.2.all (· < first row.1)

/-- Each row with the number of rows so far that start an island. -/
def numbered (group : Nat) : List (R × Option Int) → List (R × Nat)
  | [] => []
  | row :: rows =>
    let group := group + if startsIsland row then 1 else 0
    (row.1, group) :: numbered group rows

/-- The rows of each key, the keys in the order of their first row. -/
def groupsOf [BEq κ] (key : α → κ) (rows : List α) : List (List α) :=
  (rows.map key).eraseDups.map fun k => rows.filter (key · == k)

/-- From the least first to the greatest last number of some rows. -/
def hull (rows : List R) : Int × Int :=
  (((rows.map first).min?).getD 0, ((rows.map last).max?).getD 0)

def islands (rows : List R) : List (Int × Int) :=
  (groupsOf Prod.snd (numbered 0 (withPreceding none rows))).map fun group =>
    hull (group.map Prod.fst)

/-- How many numbers islands have. -/
def islandsTotal (islands : List (Int × Int)) : Int :=
  (islands.map fun island => island.2 - island.1 + 1).sum

/-- Some row begins no later than a row before it ends. -/
def overlaps (rows : List R) : Bool :=
  (withPreceding none rows).any fun row => row.2.any (first row.1 ≤ ·)

/-- The numbers that some row has. -/
noncomputable def covered (rows : List R) : Finset Int :=
  rows.foldr (fun row numbers => Finset.Icc (first row) (last row) ∪ numbers) ∅

/-- Rows that are not empty, in the order of their first numbers. -/
structure Ordered (rows : List R) : Prop where
  nonempty : ∀ row ∈ rows, first row ≤ last row
  ascending : rows.Pairwise fun a b => first a ≤ first b

theorem Ordered.tail {row : R} {rows : List R} (h : Ordered (row :: rows)) : Ordered rows :=
  ⟨fun other hother => h.nonempty other (List.mem_cons_of_mem _ hother), h.ascending.tail⟩

theorem mem_covered {rows : List R} :
    n ∈ covered rows ↔ ∃ row ∈ rows, first row ≤ n ∧ n ≤ last row := by
  induction rows with
  | nil => simp [covered]
  | cons row rows ih =>
    rw [covered, List.foldr_cons, Finset.mem_union, Finset.mem_Icc, List.exists_mem_cons_iff]
    exact or_congr_right ih

theorem groupsOf_append [BEq κ] [LawfulBEq κ] {key : α → κ} {group rows : List α} {k : κ}
    (hsome : group ≠ []) (hgroup : ∀ row ∈ group, key row = k) (hrows : ∀ row ∈ rows, key row ≠ k) :
    groupsOf key (group ++ rows) = group :: groupsOf key rows := by
  have hkeys : ((group ++ rows).map key).eraseDups = k :: (rows.map key).eraseDups := by
    cases group with
    | nil => exact absurd rfl hsome
    | cons row group =>
      have hfirst := hgroup row List.mem_cons_self
      have hnone : (group.map key).filter (fun other => !other == k) = [] := by
        apply List.filter_eq_nil_iff.2
        intro other hother
        obtain ⟨later, hlater, rfl⟩ := List.mem_map.1 hother
        simp [hgroup later (List.mem_cons_of_mem _ hlater)]
      have hall : (rows.map key).filter (fun other => !other == k) = rows.map key := by
        apply List.filter_eq_self.2
        intro other hother
        obtain ⟨later, hlater, rfl⟩ := List.mem_map.1 hother
        simp [hrows later hlater]
      rw [List.cons_append, List.map_cons, hfirst, List.eraseDups_cons, List.map_append,
        List.filter_append, hnone, hall, List.nil_append]
  have hown : (group ++ rows).filter (key · == k) = group := by
    rw [List.filter_append]
    have hall : group.filter (key · == k) = group :=
      List.filter_eq_self.2 fun row hrow => beq_iff_eq.2 (hgroup row hrow)
    have hnone : rows.filter (key · == k) = [] :=
      List.filter_eq_nil_iff.2 fun row hrow heq => hrows row hrow (beq_iff_eq.1 heq)
    rw [hall, hnone, List.append_nil]
  rw [groupsOf, hkeys, List.map_cons, hown, groupsOf]
  congr 1
  apply List.map_congr_left
  intro other hother
  obtain ⟨row, hrow, rfl⟩ := List.mem_map.1 (List.mem_eraseDups.1 hother)
  have hnone : group.filter (key · == key row) = [] := by
    apply List.filter_eq_nil_iff.2
    intro member hmember heq
    exact hrows row hrow ((beq_iff_eq.1 heq).symm.trans (hgroup member hmember))
  rw [List.filter_append, hnone, List.nil_append]

theorem le_numbered {rows : List (R × Option Int)} :
    ∀ row ∈ numbered n rows, n ≤ row.2 := by
  induction rows generalizing n with
  | nil => exact fun _ h => nomatch h
  | cons row rows ih =>
    intro other hother
    rw [numbered] at hother
    cases List.mem_cons.1 hother with
    | inl heq =>
      rw [heq]
      exact Nat.le_add_right ..
    | inr hin => exact (Nat.le_add_right ..).trans (ih other hin)

theorem hull_singleton (row : R) : hull [row] = (first row, last row) := rfl

theorem hull_snoc {rows : List R} (row : R) (hsome : rows ≠ []) :
    hull (rows ++ [row]) = (min (hull rows).1 (first row), max (hull rows).2 (last row)) := by
  cases rows with
  | nil => exact absurd rfl hsome
  | cons other rows =>
    simp only [hull, List.cons_append, List.map_cons, List.map_append, List.map_nil,
      List.min?_cons', List.max?_cons', List.foldl_append, List.foldl_cons, List.foldl_nil,
      Option.getD_some]

/-- The islands of rows behind an island that is not closed yet. -/
def merged (start stop : Int) : List R → List (Int × Int)
  | [] => [(start, stop)]
  | row :: rows =>
    if stop < first row then (start, stop) :: merged (first row) (last row) rows
    else merged start (max stop (last row)) rows

/-- The rows of an open island and those behind it make the islands that merging them makes. -/
theorem islands_merged {group : List (R × Nat)} {rows : List R} (hsome : group ≠ [])
    (hgroup : ∀ row ∈ group, row.2 = k) (hhull : hull (group.map Prod.fst) = (start, stop))
    (h : Ordered rows) (hstart : ∀ row ∈ rows, start ≤ first row) :
    (groupsOf Prod.snd (group ++ numbered k (withPreceding (some stop) rows))).map
      (fun group => hull (group.map Prod.fst)) = merged start stop rows := by
  induction rows generalizing group k start stop with
  | nil =>
    have hnone : ∀ row ∈ ([] : List (R × Nat)), row.2 ≠ k := fun _ hr => nomatch hr
    rw [withPreceding, numbered, groupsOf_append hsome hgroup hnone]
    show [hull (group.map Prod.fst)] = [(start, stop)]
    rw [hhull]
  | cons row rows ih =>
    obtain ⟨hfirst, -⟩ := List.pairwise_cons.1 h.ascending
    have hrow := h.nonempty row List.mem_cons_self
    have hpreceding : withPreceding (some stop) (row :: rows) =
        (row, some stop) :: withPreceding (some (max stop (last row))) rows := rfl
    rw [hpreceding, numbered, merged]
    by_cases hnew : stop < first row
    · have hstarts : startsIsland (row, some stop) = true := decide_eq_true hnew
      have hmax : max stop (last row) = last row := by omega
      rw [if_pos hnew, hstarts, hmax]
      have hrest : ∀ other ∈ (row, k + 1) ::
          numbered (k + 1) (withPreceding (some (last row)) rows), other.2 ≠ k := by
        intro other hother
        cases List.mem_cons.1 hother with
        | inl heq =>
          rw [heq]
          exact Nat.succ_ne_self k
        | inr hin =>
          have hle := le_numbered other hin
          omega
      simp only [if_true]
      rw [groupsOf_append hsome hgroup hrest, List.map_cons, hhull]
      congr 1
      exact ih (List.cons_ne_nil _ _) (List.forall_mem_singleton.2 rfl) (hull_singleton row) h.tail
        hfirst
    · have hstarts : startsIsland (row, some stop) = false := decide_eq_false hnew
      rw [if_neg hnew, hstarts]
      simp only [Bool.false_eq_true, if_false, Nat.add_zero]
      have hsplit : group ++ (row, k) :: numbered k
          (withPreceding (some (max stop (last row))) rows) = group ++ [(row, k)] ++
          numbered k (withPreceding (some (max stop (last row))) rows) := by
        rw [List.append_assoc, List.singleton_append]
      rw [hsplit]
      apply ih
      · exact List.append_ne_nil_of_left_ne_nil hsome _
      · intro other hother
        cases List.mem_append.1 hother with
        | inl hin => exact hgroup other hin
        | inr heq => rw [List.mem_singleton.1 heq]
      · have hmap : group.map Prod.fst ≠ [] := fun hnil => hsome (List.map_eq_nil_iff.1 hnil)
        rw [List.map_append, List.map_singleton, hull_snoc row hmap, hhull]
        have hmin := hstart row List.mem_cons_self
        simp only [min_eq_left hmin]
      · exact h.tail
      · intro other hother
        exact hstart other (List.mem_cons_of_mem _ hother)

theorem mergedTotal {rows : List R} (hisland : start ≤ stop) (h : Ordered rows)
    (hstart : ∀ row ∈ rows, start ≤ first row) :
    islandsTotal (merged start stop rows) = (Finset.Icc start stop ∪ covered rows).card := by
  induction rows generalizing start stop with
  | nil =>
    have hunion : Finset.Icc start stop ∪ covered ([] : List R) = Finset.Icc start stop :=
      Finset.union_empty _
    rw [hunion, Int.card_Icc_of_le start stop (by omega)]
    simp only [merged, islandsTotal, List.map_cons, List.map_nil, List.sum_cons, List.sum_nil]
    omega
  | cons row rows ih =>
    obtain ⟨hfirst, -⟩ := List.pairwise_cons.1 h.ascending
    have hrow := h.nonempty row List.mem_cons_self
    rw [merged]
    by_cases hnew : stop < first row
    · have hdisjoint : Disjoint (Finset.Icc start stop) (covered (row :: rows)) := by
        apply Finset.disjoint_left.2
        intro n hn hcovered
        obtain ⟨other, hother, hle, -⟩ := mem_covered.1 hcovered
        have hinside := Finset.mem_Icc.1 hn
        cases List.mem_cons.1 hother with
        | inl heq =>
          rw [heq] at hle
          omega
        | inr hin =>
          have hlater := hfirst other hin
          omega
      have hrest := ih hrow h.tail hfirst
      have hcons : covered (row :: rows) = Finset.Icc (first row) (last row) ∪ covered rows := rfl
      rw [if_pos hnew, Finset.card_union_of_disjoint hdisjoint, hcons, Nat.cast_add, ← hrest,
        Int.card_Icc_of_le start stop (by omega)]
      simp only [islandsTotal, List.map_cons, List.sum_cons]
      omega
    · have hnumbers : Finset.Icc start stop ∪ covered (row :: rows) =
          Finset.Icc start (max stop (last row)) ∪ covered rows := by
        have hfrom := hstart row List.mem_cons_self
        ext n
        have hcons : covered (row :: rows) = Finset.Icc (first row) (last row) ∪ covered rows := rfl
        rw [hcons]
        simp only [Finset.mem_union, Finset.mem_Icc]
        by_cases hn : n ∈ covered rows
        · simp only [hn, or_true]
        · simp only [hn, or_false]
          omega
      rw [if_neg hnew, hnumbers]
      apply ih
      · omega
      · exact h.tail
      · intro other hother
        exact hstart other (List.mem_cons_of_mem _ hother)

/-- The islands of ordered rows have each of their numbers once. -/
theorem islandsTotal_eq_card {rows : List R} (h : Ordered rows) :
    islandsTotal (islands rows) = (covered rows).card := by
  cases rows with
  | nil => rfl
  | cons row rows =>
    obtain ⟨hfirst, -⟩ := List.pairwise_cons.1 h.ascending
    have hislands : islands (row :: rows) = merged (first row) (last row) rows :=
      islands_merged (List.cons_ne_nil (row, 1) _) (List.forall_mem_singleton.2 rfl)
        (hull_singleton row) h.tail hfirst
    rw [hislands]
    exact mergedTotal (h.nonempty row List.mem_cons_self) h.tail hfirst

theorem or_shuffle (p q r s : Prop) : p ∨ (q ∨ r) ∨ s ↔ (p ∨ r) ∨ q ∨ s := by
  tauto

/-- A row begins before one before it ends, or before what precedes all rows does. -/
theorem any_preceding {rows : List R} {preceding : Option Int} :
    (withPreceding preceding rows).any (fun row => row.2.any (first row.1 ≤ ·)) = true ↔
      (∃ stop ∈ preceding, ∃ row ∈ rows, first row ≤ stop) ∨
        ¬rows.Pairwise fun a b => last a < first b := by
  induction rows generalizing preceding with
  | nil => simp [withPreceding]
  | cons row rows ih =>
    have hmax : ∀ other : R, (∃ stop ∈ some (preceding.elim (last row) (max · (last row))),
        first other ≤ stop) ↔ first other ≤ last row ∨ ∃ stop ∈ preceding, first other ≤ stop := by
      intro other
      cases preceding with
      | none => simp
      | some stop => simp [or_comm]
    have hlater : (∃ stop ∈ some (preceding.elim (last row) (max · (last row))),
        ∃ other ∈ rows, first other ≤ stop) ↔
        (∃ other ∈ rows, first other ≤ last row) ∨
          ∃ stop ∈ preceding, ∃ other ∈ rows, first other ≤ stop := by
      constructor
      · intro h
        obtain ⟨stop, hstop, other, hother, hle⟩ := h
        cases (hmax other).1 ⟨stop, hstop, hle⟩ with
        | inl hrow => exact .inl ⟨other, hother, hrow⟩
        | inr hbefore =>
          obtain ⟨stop, hstop, hle⟩ := hbefore
          exact .inr ⟨stop, hstop, other, hother, hle⟩
      · intro h
        cases h with
        | inl hrow =>
          obtain ⟨other, hother, hle⟩ := hrow
          obtain ⟨stop, hstop, hle⟩ := (hmax other).2 (.inl hle)
          exact ⟨stop, hstop, other, hother, hle⟩
        | inr hbefore =>
          obtain ⟨stop, hstop, other, hother, hle⟩ := hbefore
          obtain ⟨stop, hstop, hle⟩ := (hmax other).2 (.inr ⟨stop, hstop, hle⟩)
          exact ⟨stop, hstop, other, hother, hle⟩
    have hown : preceding.any (fun stop => decide (first row ≤ stop)) = true ↔
        ∃ stop ∈ preceding, first row ≤ stop := by
      simp only [Option.any_eq_true, decide_eq_true_eq]
      exact Iff.rfl
    have hsplit : (∃ stop ∈ preceding, ∃ other ∈ row :: rows, first other ≤ stop) ↔
        (∃ stop ∈ preceding, first row ≤ stop) ∨
          ∃ stop ∈ preceding, ∃ other ∈ rows, first other ≤ stop := by
      simp only [List.exists_mem_cons_iff, and_or_left, exists_or]
    have hbehind : ¬(∀ other ∈ rows, last row < first other) ↔
        ∃ other ∈ rows, first other ≤ last row := by
      simp only [not_forall, not_lt, exists_prop]
    rw [withPreceding, List.any_cons, Bool.or_eq_true, ih, hlater, hown, hsplit,
      List.pairwise_cons, not_and_or, hbehind]
    exact or_shuffle _ _ _ _

/-- Rows overlap when two of them have a number in common. -/
theorem overlaps_iff {rows : List R} (h : Ordered rows) : overlaps rows = true ↔
    ¬rows.Pairwise fun a b => ∀ n, ¬((first a ≤ n ∧ n ≤ last a) ∧ first b ≤ n ∧ n ≤ last b) := by
  rw [overlaps, any_preceding]
  have hapart : ∀ a ∈ rows, ∀ b ∈ rows, first a ≤ first b → (last a < first b ↔
      ∀ n, ¬((first a ≤ n ∧ n ≤ last a) ∧ first b ≤ n ∧ n ≤ last b)) := by
    intro a ha b hb hle
    constructor
    · intro hlt n hn
      omega
    · intro hnone
      have hfirst := hnone (first b)
      have hrow := h.nonempty b hb
      omega
  constructor
  · intro hshared hpairwise
    cases hshared with
    | inl hnone =>
      obtain ⟨stop, hstop, -⟩ := hnone
      cases hstop
    | inr hnot =>
      apply hnot
      apply (hpairwise.and h.ascending).imp_of_mem
      intro a b ha hb hab
      exact (hapart a ha b hb hab.2).2 hab.1
  · intro hnot
    refine .inr fun hpairwise => hnot ?_
    apply (hpairwise.and h.ascending).imp_of_mem
    intro a b ha hb hab
    exact (hapart a ha b hb hab.2).1 hab.1

end Span

end RipDvd
