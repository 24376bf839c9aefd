import RipDvd.Islands
import RipDvd.Extents

namespace RipDvd
set_option autoImplicit true

/-- Some numbers that follow one another. -/
structure Stretch where
  start : Nat
  length : Nat
  deriving DecidableEq

namespace Stretch

open RipDvd.Span (groupsOf groupsOf_append)
open Extent (cover mem_cover cover_cons Merged stop)

instance : Extent Stretch where
  start := start
  length := length
  resize _ start length := ⟨start, length⟩
  start_resize := rfl
  length_resize := rfl

theorem start_eq (run : Stretch) : Extent.start run = run.start := rfl

theorem length_eq (run : Stretch) : Extent.length run = run.length := rfl

theorem stop_eq (run : Stretch) : stop run = run.start + run.length := rfl

/-- Each number with what its place in the list leaves of it. -/
def keyed (place : Nat) : List Nat → List (Int × Nat)
  | [] => []
  | n :: rest => ((n : Int) - (place + 1), n) :: keyed (place + 1) rest

/-- The least number of a group, and how many it has. -/
def extent (group : List (Int × Nat)) : Stretch :=
  ⟨((group.map Prod.snd).min?).getD 0, group.length⟩

/-- The numbers grouped by what their places leave of them. -/
def runsFrom (place : Nat) (numbers : List Nat) : List Stretch :=
  (groupsOf Prod.fst (keyed place numbers)).map extent

/-- Put a number in front of the runs behind it. -/
def join (n : Nat) : List Stretch → List Stretch
  | [] => [⟨n, 1⟩]
  | run :: rest =>
    if run.start = n + 1 then ⟨n, run.length + 1⟩ :: rest else ⟨n, 1⟩ :: run :: rest

theorem mem_keyed (h : row ∈ keyed place numbers) : row.2 ∈ numbers := by
  induction numbers generalizing place with
  | nil => cases h
  | cons n rest ih =>
    obtain rfl | h := List.mem_cons.1 h
    · exact List.mem_cons_self
    · exact List.mem_cons_of_mem _ (ih h)

/-- In ascending numbers no key is below that of a number before it. -/
theorem le_key {least : Nat} (hn : ∀ n ∈ numbers, least ≤ n)
    (hsorted : numbers.Pairwise (· < ·)) (h : row ∈ keyed place numbers) :
    (least : Int) - (place + 1) ≤ row.1 := by
  induction numbers generalizing place least with
  | nil => cases h
  | cons n rest ih =>
    obtain ⟨hfirst, hrest⟩ := List.pairwise_cons.1 hsorted
    have hle := hn n List.mem_cons_self
    obtain rfl | h := List.mem_cons.1 h
    · dsimp only
      omega
    · have hkey := ih (fun m hm => hfirst m hm) hrest h
      push_cast at hkey
      omega

theorem nodup_eraseDups [BEq κ] [LawfulBEq κ] (keys : List κ) : keys.eraseDups.Nodup := by
  induction h : keys.length using Nat.strongRecOn generalizing keys with
  | ind length ih =>
    cases keys with
    | nil => exact List.nodup_nil
    | cons k rest =>
      rw [List.eraseDups_cons, List.nodup_cons]
      have hlt : (rest.filter fun other => !other == k).length < length := by
        rw [← h, List.length_cons]
        exact Nat.lt_succ_of_le (List.length_filter_le _ _)
      refine ⟨fun hmem => ?_, ih _ hlt _ rfl⟩
      have hne := (List.mem_filter.1 (List.mem_eraseDups.1 hmem)).2
      simp at hne

theorem groupsOf_cons_same [BEq κ] [LawfulBEq κ] {key : α → κ} {a b : α} {rows : List α}
    (hkey : key a = key b) (h : groupsOf key (b :: rows) = group :: groups) :
    groupsOf key (a :: b :: rows) = (a :: group) :: groups := by
  rw [groupsOf, List.map_cons, List.eraseDups_cons, List.map_cons] at h ⊢
  obtain ⟨hgroup, hgroups⟩ := List.cons.inj h
  have hkeys : ((b :: rows).map key).filter (fun k => !k == key a) =
      (rows.map key).filter fun k => !k == key b := by
    rw [List.map_cons, List.filter_cons_of_neg (by simp [hkey]), hkey]
  rw [hkeys, ← hgroups, List.filter_cons_of_pos (by simp), hkey, hgroup]
  congr 1
  apply List.map_congr_left
  intro k hk
  have hne := (List.mem_filter.1 (List.mem_eraseDups.1 hk)).2
  rw [List.filter_cons_of_neg]
  rw [hkey]
  intro heq
  rw [beq_iff_eq.1 heq] at hne
  simp at hne

theorem groupsOf_cons [BEq κ] [LawfulBEq κ] {key : α → κ} {b : α} {rows : List α} :
    groupsOf key (b :: rows) = (b :: rows.filter (key · == key b)) ::
      (groupsOf key (b :: rows)).tail := by
  rw [groupsOf, List.map_cons, List.eraseDups_cons, List.map_cons, List.tail_cons,
    List.filter_cons_of_pos (by simp)]

theorem min?_of_le {numbers : List Nat} (h : ∀ m ∈ numbers, n ≤ m) :
    (n :: numbers).min? = some n := by
  rw [List.min?_eq_some_iff]
  refine ⟨List.mem_cons_self, fun m hm => ?_⟩
  obtain rfl | hm := List.mem_cons.1 hm
  · exact le_rfl
  · exact h m hm

/-- A group whose first number is its least. -/
theorem extent_cons {row : Int × Nat} {group : List (Int × Nat)}
    (h : ∀ other ∈ group, row.2 ≤ other.2) :
    extent (row :: group) = ⟨row.2, group.length + 1⟩ := by
  have hmin : ((row :: group).map Prod.snd).min? = some row.2 := by
    rw [List.map_cons]
    apply min?_of_le
    intro m hm
    obtain ⟨other, hother, rfl⟩ := List.mem_map.1 hm
    exact h other hother
  rw [extent, hmin]
  rfl

theorem runsFrom_nil : runsFrom place [] = [] := rfl

theorem runsFrom_singleton : runsFrom place [n] = [⟨n, 1⟩] := by
  rw [runsFrom, keyed, keyed, groupsOf_cons, List.map_cons, extent_cons]
  · rw [groupsOf, List.map_cons, List.eraseDups_cons]
    rfl
  · simp

/-- A number joins the run behind it just when it is the one before its first. -/
theorem runsFrom_cons (h : (n :: numbers).Pairwise (· < ·)) :
    runsFrom place (n :: numbers) = join n (runsFrom (place + 1) numbers) := by
  obtain ⟨hfirst, hsorted⟩ := List.pairwise_cons.1 h
  cases numbers with
  | nil => exact runsFrom_singleton
  | cons m rest =>
    have hlt := hfirst m List.mem_cons_self
    have hrows : ∀ row ∈ (keyed (place + 1 + 1) rest).filter
        (·.1 == (m : Int) - ((place + 1 : Nat) + 1)), m ≤ row.2 := fun row hr =>
      (List.rel_of_pairwise_cons hsorted (mem_keyed (List.mem_filter.1 hr).1)).le
    have hgroups : groupsOf Prod.fst (keyed (place + 1) (m :: rest)) = _ := groupsOf_cons
    have hbehind : runsFrom (place + 1) (m :: rest) = _ := congrArg (List.map extent) hgroups
    rw [List.map_cons, extent_cons hrows] at hbehind
    rw [hbehind, join]
    by_cases hnext : m = n + 1
    · rw [if_pos hnext, runsFrom, keyed, keyed, groupsOf_cons_same (by dsimp only; omega) hgroups,
        List.map_cons, extent_cons]
      · rfl
      · intro other ho
        obtain rfl | ho := List.mem_cons.1 ho
        · exact hlt.le
        · exact hlt.le.trans (hrows other ho)
    · rw [if_neg hnext, ← hbehind, runsFrom, keyed, ← List.singleton_append,
        groupsOf_append (k := (n : Int) - (place + 1)) (List.cons_ne_nil _ _)]
      · rfl
      · intro row hr
        cases List.mem_singleton.1 hr
        rfl
      · intro row hr
        have hleast : ∀ other ∈ m :: rest, m ≤ other := by
          intro other ho
          obtain rfl | ho := List.mem_cons.1 ho
          · exact le_rfl
          · exact (List.rel_of_pairwise_cons hsorted ho).le
        have hkey := le_key hleast hsorted hr
        push_cast at hkey
        omega

theorem mem_cover_iff {runs : List Stretch} :
    k ∈ cover runs ↔ ∃ run ∈ runs, run.start ≤ k ∧ k < run.start + run.length := mem_cover

theorem mem_cover_join {runs : List Stretch} :
    k ∈ cover (join n runs) ↔ k = n ∨ k ∈ cover runs := by
  cases runs with
  | nil =>
    simp only [join, mem_cover_iff, List.mem_singleton, exists_eq_left, List.not_mem_nil, false_and,
      exists_false, or_false]
    omega
  | cons run rest =>
    rw [join]
    split
    · simp only [mem_cover_iff, List.exists_mem_cons_iff]
      rw [← or_assoc]
      apply or_congr_left
      omega
    · simp only [mem_cover_iff, List.exists_mem_cons_iff]
      apply or_congr_left
      omega

theorem Merged.join {runs : List Stretch} (h : Merged runs) (hn : ∀ run ∈ runs, n < run.start) :
    Merged (join n runs) := by
  cases runs with
  | nil => exact ⟨by simp [Stretch.join, length_eq], List.pairwise_singleton _ _⟩
  | cons run rest =>
    obtain ⟨hpositive, hrest⟩ := List.forall_mem_cons.1 h.positive
    obtain ⟨hgaps, htail⟩ := List.pairwise_cons.1 h.gaps
    obtain ⟨hfirst, hlater⟩ := List.forall_mem_cons.1 hn
    simp only [stop_eq, start_eq, length_eq] at hpositive hgaps
    rw [Stretch.join]
    split
    · next hnext =>
      refine ⟨List.forall_mem_cons.2 ⟨Nat.succ_pos _, hrest⟩, List.pairwise_cons.2 ⟨?_, htail⟩⟩
      intro later hl
      have hgap := hgaps later hl
      simp only [stop_eq, start_eq]
      omega
    · next hapart =>
      refine ⟨List.forall_mem_cons.2 ⟨Nat.one_pos, h.positive⟩, List.pairwise_cons.2 ⟨?_, h.gaps⟩⟩
      intro later hl
      simp only [stop_eq, start_eq]
      obtain rfl | hl := List.mem_cons.1 hl
      · omega
      · have hgap := hgaps later hl
        omega

/-- The runs of ascending numbers are apart, and have just these numbers. -/
theorem runsFrom_merged (h : numbers.Pairwise (· < ·)) :
    Merged (runsFrom place numbers) ∧ ∀ k, k ∈ cover (runsFrom place numbers) ↔ k ∈ numbers := by
  induction numbers generalizing place with
  | nil => exact ⟨⟨List.forall_mem_nil _, .nil⟩, fun k => by simp [runsFrom_nil]⟩
  | cons n rest ih =>
    obtain ⟨hfirst, hsorted⟩ := List.pairwise_cons.1 h
    obtain ⟨hmerged, hcover⟩ := @ih (place + 1) hsorted
    rw [runsFrom_cons h]
    refine ⟨Merged.join hmerged fun run hrun => hfirst _ ?_, fun k => ?_⟩
    · rw [← hcover, mem_cover]
      have hpositive : 0 < run.length := hmerged.positive run hrun
      exact ⟨run, hrun, le_rfl, by rw [stop_eq]; show run.start < _; omega⟩
    · rw [mem_cover_join, hcover, List.mem_cons]

end Stretch

namespace Extent

variable {R : Type u} [Extent R]

/-- The records of a merged list in the order of their starts are the list. -/
theorem Merged.sorted {l l' : List R} (h : Merged l) (hperm : l'.Perm l)
    (hsorted : l'.Pairwise fun a b => start a ≤ start b) : Merged l' := by
  have hpositive : ∀ r ∈ l', 0 < length r := fun r hr => h.positive r (hperm.mem_iff.1 hr)
  have hgaps : l'.Pairwise fun a b => stop a < start b ∨ stop b < start a :=
    (h.gaps.imp fun hgap => .inl hgap).perm hperm.symm fun hgap => hgap.symm
  refine ⟨hpositive, (hsorted.and hgaps).imp_of_mem fun {a b} _ hb hboth => ?_⟩
  obtain ⟨hle, hgap | hgap⟩ := hboth
  · exact hgap
  · rw [stop] at hgap
    omega

theorem Merged.map {S : Type v} [Extent S] {l : List R} {f : R → S} (h : Merged l)
    (hf : ∀ r, start (f r) = start r ∧ length (f r) = length r) : Merged (l.map f) := by
  refine ⟨fun s hs => ?_, List.pairwise_map.2 (h.gaps.imp fun {a b} hgap => ?_)⟩
  · obtain ⟨r, hr, rfl⟩ := List.mem_map.1 hs
    rw [(hf r).2]
    exact h.positive r hr
  · rw [stop, (hf a).1, (hf a).2, (hf b).1]
    exact hgap

theorem cover_map {S : Type v} [Extent S] {l : List R} {f : R → S}
    (hf : ∀ r, start (f r) = start r ∧ length (f r) = length r) : cover (l.map f) = cover l := by
  rw [cover, cover, List.flatMap_map]
  simp only [hf]

end Extent

end RipDvd
