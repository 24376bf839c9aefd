import Mathlib.Data.List.Basic
import Mathlib.Data.List.Induction
import Mathlib.Order.Lattice
import Mathlib.Algebra.Order.Group.Unbundled.Int
import Mathlib.Tactic.Common

namespace RipDvd
set_option autoImplicit true

/-- Something that reaches from one time to another. -/
class Reach (α : Type u) where
  start : α → Int
  stop : α → Int

/-- Some elements, and the hull from where the first starts to where the last stops. -/
structure Cluster (α : Type u) where
  start : Int
  stop : Int
  members : List α

namespace Cluster

variable {α : Type u} [Reach α] {gap : Int} {clusters earlier : List (Cluster α)} {done : List α}
  {x : α}

def single (x : α) : Cluster α where
  start := Reach.start x
  stop := Reach.stop x
  members := [x]

def absorb (cluster : Cluster α) (x : α) : Cluster α where
  start := cluster.start
  stop := max cluster.stop (Reach.stop x)
  members := cluster.members ++ [x]

/-- Let the last cluster take in what starts within a gap of where it stops. -/
def gather (gap : Int) (clusters : List (Cluster α)) (x : α) : List (Cluster α) :=
  match clusters.getLast? with
  | none => clusters ++ [single x]
  | some last =>
    if Reach.start x - last.stop ≤ gap then clusters.dropLast ++ [last.absorb x]
    else clusters ++ [single x]

def gathered (gap : Int) (l : List α) : List (Cluster α) := l.foldl (gather gap) []

/-- A cluster reaches over its members, and each of its times is within the gap behind one. -/
structure Hulls (gap : Int) (cluster : Cluster α) : Prop where
  first : ∃ m ∈ cluster.members, Reach.start m = cluster.start
  last : ∃ m ∈ cluster.members, Reach.stop m = cluster.stop
  covers : ∀ m ∈ cluster.members, cluster.start ≤ Reach.start m ∧ Reach.stop m ≤ cluster.stop
  chained : ∀ t, cluster.start ≤ t → t ≤ cluster.stop →
    ∃ m ∈ cluster.members, Reach.start m ≤ t ∧ t ≤ Reach.stop m + gap

/-- Clusters hold what has been gathered, in its order, more than the gap apart. -/
structure Gathered (gap : Int) (done : List α) (clusters : List (Cluster α)) : Prop where
  members : clusters.flatMap (·.members) = done
  hulls : ∀ cluster ∈ clusters, cluster.Hulls gap
  apart : clusters.Pairwise fun a b => a.stop + gap < b.start

theorem Hulls.start_le {cluster : Cluster α} (h : cluster.Hulls gap) (hm : m ∈ cluster.members)
    (hordered : Reach.start m ≤ Reach.stop m) : cluster.start ≤ cluster.stop := by
  have hcovers := h.covers m hm
  omega

theorem Hulls.single (hgap : 0 ≤ gap) : Hulls gap (single x) where
  first := ⟨x, List.mem_cons_self, rfl⟩
  last := ⟨x, List.mem_cons_self, rfl⟩
  covers m hm := by
    obtain rfl := List.mem_singleton.1 hm
    exact ⟨le_rfl, le_rfl⟩
  chained t hstart hstop := ⟨x, List.mem_cons_self, hstart, by
    have hle : t ≤ Reach.stop x := hstop
    omega⟩

theorem Hulls.absorb {cluster : Cluster α} (h : cluster.Hulls gap) (hgap : 0 ≤ gap)
    (hordered : ∀ m ∈ cluster.members, Reach.start m ≤ Reach.stop m)
    (hafter : ∀ m ∈ cluster.members, Reach.start m ≤ Reach.start x)
    (hnear : Reach.start x - cluster.stop ≤ gap) : (cluster.absorb x).Hulls gap where
  first := by
    obtain ⟨m, hm, heq⟩ := h.first
    exact ⟨m, List.mem_append_left _ hm, heq⟩
  last := by
    obtain ⟨m, hm, heq⟩ := h.last
    obtain hle | hle := le_total (Reach.stop x) cluster.stop
    · exact ⟨m, List.mem_append_left _ hm, heq.trans (max_eq_left hle).symm⟩
    · exact ⟨x, List.mem_append_right _ List.mem_cons_self, (max_eq_right hle).symm⟩
  covers m hm := by
    obtain hm | hm := List.mem_append.1 hm
    · have hcovers := h.covers m hm
      exact ⟨hcovers.1, hcovers.2.trans (le_max_left _ _)⟩
    · obtain rfl := List.mem_singleton.1 hm
      obtain ⟨first, hfirst, heq⟩ := h.first
      have hle := hafter first hfirst
      rw [heq] at hle
      exact ⟨hle, le_max_right _ _⟩
  chained t hstart hstop := by
    by_cases hbefore : t ≤ cluster.stop
    · obtain ⟨m, hm, hreach⟩ := h.chained t hstart hbefore
      exact ⟨m, List.mem_append_left _ hm, hreach⟩
    · have hle : t ≤ Reach.stop x := (le_max_iff.1 hstop).resolve_left hbefore
      by_cases hx : Reach.start x ≤ t
      · exact ⟨x, List.mem_append_right _ List.mem_cons_self, hx, by omega⟩
      · obtain ⟨m, hm, heq⟩ := h.last
        have hm' := hordered m hm
        exact ⟨m, List.mem_append_left _ hm, by omega, by omega⟩

/-- Gathering one more element, which starts behind what has been gathered. -/
theorem Gathered.gather (h : Gathered gap done clusters) (hgap : 0 ≤ gap)
    (hordered : ∀ m ∈ done, Reach.start m ≤ Reach.stop m)
    (hafter : ∀ m ∈ done, Reach.start m ≤ Reach.start x) :
    Gathered gap (done ++ [x]) (gather gap clusters x) := by
  have hmem : ∀ {cluster}, cluster ∈ clusters → ∀ m ∈ cluster.members, m ∈ done := by
    intro cluster hcluster m hm
    rw [← h.members]
    exact List.mem_flatMap.2 ⟨cluster, hcluster, hm⟩
  cases List.eq_nil_or_concat clusters with
  | inl hnil =>
    subst hnil
    obtain rfl : [] = done := h.members
    exact ⟨rfl, List.forall_mem_singleton.2 (.single hgap), List.pairwise_singleton _ _⟩
  | inr hconcat =>
    obtain ⟨earlier, last, rfl⟩ := hconcat
    rw [List.concat_eq_append] at h hmem
    have hlast : last ∈ earlier ++ [last] := List.mem_append_right _ List.mem_cons_self
    have hhulls := h.hulls last hlast
    obtain ⟨hearlier, -, hbefore⟩ := List.pairwise_append.1 h.apart
    have hmembers := h.members
    rw [List.flatMap_append, List.flatMap_singleton] at hmembers
    rw [Cluster.gather, List.concat_eq_append, List.getLast?_concat]
    dsimp only
    by_cases hnear : Reach.start x - last.stop ≤ gap
    · rw [if_pos hnear, List.dropLast_concat]
      constructor
      case members =>
        rw [List.flatMap_append, List.flatMap_singleton, ← hmembers, List.append_assoc]
        rfl
      case hulls =>
        intro cluster hcluster
        obtain hcluster | hcluster := List.mem_append.1 hcluster
        · exact h.hulls cluster (List.mem_append_left _ hcluster)
        · obtain rfl := List.mem_singleton.1 hcluster
          exact hhulls.absorb hgap (fun m hm => hordered m (hmem hlast m hm))
            (fun m hm => hafter m (hmem hlast m hm)) hnear
      case apart =>
        apply List.pairwise_append.2
        refine ⟨hearlier, List.pairwise_singleton _ _, ?_⟩
        intro a ha b hb
        obtain rfl := List.mem_singleton.1 hb
        exact hbefore a ha last List.mem_cons_self
    · rw [if_neg hnear]
      constructor
      case members =>
        rw [List.flatMap_append, List.flatMap_singleton, h.members]
        rfl
      case hulls =>
        intro cluster hcluster
        obtain hcluster | hcluster := List.mem_append.1 hcluster
        · exact h.hulls cluster hcluster
        · obtain rfl := List.mem_singleton.1 hcluster
          exact .single hgap
      case apart =>
        apply List.pairwise_append.2
        refine ⟨h.apart, List.pairwise_singleton _ _, ?_⟩
        intro a ha b hb
        obtain rfl := List.mem_singleton.1 hb
        show a.stop + gap < Reach.start x
        obtain ha | ha := List.mem_append.1 ha
        · obtain ⟨m, hm, heq⟩ := hhulls.first
          have hle := hafter m (hmem hlast m hm)
          have hlt := hbefore a ha last List.mem_cons_self
          omega
        · obtain rfl := List.mem_singleton.1 ha
          omega

/-- Elements in the order of their starts are gathered. -/
theorem gathered_spec (hgap : 0 ≤ gap) (l : List α)
    (hordered : ∀ m ∈ l, Reach.start m ≤ Reach.stop m)
    (hsorted : l.Pairwise fun a b => Reach.start a ≤ Reach.start b) :
    Gathered gap l (gathered gap l) := by
  induction l using List.reverseRecOn with
  | nil => exact ⟨rfl, List.forall_mem_nil _, .nil⟩
  | append_singleton l x ih =>
    obtain ⟨hl, -, hlast⟩ := List.pairwise_append.1 hsorted
    have hbefore : ∀ m ∈ l, Reach.start m ≤ Reach.stop m :=
      fun m hm => hordered m (List.mem_append_left _ hm)
    rw [gathered, List.foldl_append, List.foldl_cons, List.foldl_nil]
    exact (ih hbefore hl).gather hgap hbefore fun m hm => hlast m hm x List.mem_cons_self

theorem Gathered.exists_cluster (h : Gathered gap done clusters) (hm : m ∈ done) :
    ∃ cluster ∈ clusters, m ∈ cluster.members := by
  rw [← h.members] at hm
  exact List.mem_flatMap.1 hm

theorem Gathered.mem_done (h : Gathered gap done clusters) (hcluster : cluster ∈ clusters)
    (hm : m ∈ cluster.members) : m ∈ done := by
  rw [← h.members]
  exact List.mem_flatMap.2 ⟨cluster, hcluster, hm⟩

end Cluster

end RipDvd
