import RipDvd.ExecutableTitles
import Mathlib.Data.List.ProdSigma
import Mathlib.Data.List.Range

namespace RipDvd
set_option autoImplicit true

open Relation

/-- A command leads to a program chain, by its link or by its navigation timer. -/
def DvdVmCommand.LeadsTo (command : DvdVmCommand) (q : Nat) : Prop :=
  q ∈ linkTargets command ∨ q ∈ navigationTimerTargets command

/-- A program chain leads to another one. -/
inductive Leads (set : TitleSet) (p q : Nat) : Prop
  | reference (hchain : (p, chain) ∈ set.programChains)
      (hq : q ∈ chain.programChainReferences) (hpos : 0 < q)
  | command (hchain : (p, chain) ∈ set.programChains) (hblock : block ∈ chain.commandBlocks)
      (hcommand : command ∈ block) (hq : command.LeadsTo q)
  | button (hchain : (p, chain) ∈ set.programChains) (hcell : cell ∈ chain.cells)
      (hidentity : identity ∈ set.navigationIdentities) (hvob : identity.2.vobId = cell.vobId)
      (hnumber : identity.2.cellNumber = cell.cellNumber)
      (hcommand : command ∈ identity.2.buttonCommands) (hq : command.LeadsTo q)

/-- A title has a part in a program chain. -/
def HasPart (set : TitleSet) (title : GlobalDvdTitle) (pgcNumber : Nat) : Prop :=
  ∃ parts, set.titleParts[title.titleSetTitleNumber - 1]? = some parts ∧
    pgcNumber ∈ parts.map (·.pgcNumber)

/-- A title of the set executes a program chain: one of its parts leads there. -/
def Executes (set : TitleSet) (title : GlobalDvdTitle) (p : Nat) : Prop :=
  title ∈ set.globalTitles ∧ ∃ s, HasPart set title s ∧ ReflTransGen (Leads set) s p

section Targets

variable {set : TitleSet} {values added : List Nat} {p q : Nat}

theorem mem_insertAll : q ∈ insertAll values added ↔ q ∈ values ∨ q ∈ added := by
  constructor
  · exact Worklist.mem_addAll
  · rintro (h | h)
    · exact (Worklist.addAll_extends id values added).subset h
    · have hkey := Worklist.addAll_key id values h
      rwa [List.map_id] at hkey

/-- A fold that inserts something for each element holds what it held and what was inserted. -/
theorem mem_foldl_insert {step : List Nat → α → List Nat} {P : α → Prop}
    (hstep : ∀ values a, q ∈ step values a ↔ q ∈ values ∨ P a) (l : List α) (values : List Nat) :
    q ∈ l.foldl step values ↔ q ∈ values ∨ ∃ a ∈ l, P a := by
  induction l generalizing values with
  | nil => simp
  | cons a l ih =>
    rw [List.foldl_cons, ih, hstep, or_assoc]
    simp only [List.mem_cons, exists_eq_or_imp]

theorem mem_programChainTargetsForCommands :
    q ∈ programChainTargetsForCommands commands ↔
      ∃ command ∈ commands, DvdVmCommand.LeadsTo command q := by
  rw [programChainTargetsForCommands, mem_foldl_insert (P := fun command => command.LeadsTo q)]
  · simp only [List.not_mem_nil, false_or]
  · intro values command
    rw [mem_insertAll, mem_insertAll, or_assoc]
    rfl

theorem mem_buttonTargets :
    q ∈ buttonTargets set cell ↔
      ∃ identity ∈ set.navigationIdentities,
        (identity.2.vobId = cell.vobId ∧ identity.2.cellNumber = cell.cellNumber) ∧
          ∃ command ∈ identity.2.buttonCommands, command.LeadsTo q := by
  rw [buttonTargets, mem_foldl_insert (P := fun identity : Nat × DvdNavigationIdentity =>
    (identity.2.vobId = cell.vobId ∧ identity.2.cellNumber = cell.cellNumber) ∧
      ∃ command ∈ identity.2.buttonCommands, command.LeadsTo q)]
  · simp only [List.not_mem_nil, false_or]
  · intro values identity
    split
    · rename_i hcell
      rw [mem_insertAll, mem_programChainTargetsForCommands]
      simp only [hcell, and_self, true_and]
    · rename_i hcell
      simp only [hcell, false_and, or_false]

theorem mem_targetProgramChains :
    q ∈ targetProgramChains set chain ↔
      (q ∈ chain.programChainReferences ∧ 0 < q) ∨
        (∃ block ∈ chain.commandBlocks, ∃ command ∈ block, command.LeadsTo q) ∨
          ∃ cell ∈ chain.cells, q ∈ buttonTargets set cell := by
  rw [targetProgramChains, mem_foldl_insert (P := fun cell => q ∈ buttonTargets set cell)]
  · rw [mem_insertAll, mem_insertAll, mem_programChainTargetsForCommands, List.mem_filter,
      decide_eq_true_eq, or_assoc]
    simp only [List.not_mem_nil, false_or, List.mem_flatten]
    apply or_congr_right
    apply or_congr_left
    constructor
    · rintro ⟨command, ⟨block, hblock, hcommand⟩, hq⟩
      exact ⟨block, hblock, command, hcommand, hq⟩
    · rintro ⟨block, hblock, command, hcommand, hq⟩
      exact ⟨command, ⟨block, hblock, hcommand⟩, hq⟩
  · intro values cell
    exact mem_insertAll

theorem targetsBySource_eq (hchain : (p, chain) ∈ set.programChains) :
    targetsBySource set p = targetProgramChains set chain := by
  have hfind : set.programChains.find? (·.1 = p) = some (p, chain) := by
    cases h : set.programChains.find? (·.1 = p) with
    | none =>
      have hnone := List.find?_eq_none.1 h _ hchain
      simp at hnone
    | some entry =>
      have hkey := List.find?_some h
      rw [decide_eq_true_eq] at hkey
      rw [List.inj_on_of_nodup_map set.chainsDistinct (List.mem_of_find?_eq_some h) hchain hkey]
  rw [targetsBySource, hfind]
  rfl

/-- The targets recorded for a chain are the chains that it leads to. -/
theorem mem_targetsBySource : q ∈ targetsBySource set p ↔ Leads set p q := by
  constructor
  · intro h
    cases hfind : set.programChains.find? (·.1 = p) with
    | none =>
      rw [targetsBySource, hfind] at h
      exact absurd h List.not_mem_nil
    | some entry =>
      obtain ⟨p', chain⟩ := entry
      have hkey := List.find?_some hfind
      rw [decide_eq_true_eq] at hkey
      obtain rfl : p' = p := hkey
      have hchain := List.mem_of_find?_eq_some hfind
      rw [targetsBySource_eq hchain, mem_targetProgramChains] at h
      obtain ⟨hq, hpos⟩ | ⟨block, hblock, command, hcommand, hq⟩ | ⟨cell, hcell, h⟩ := h
      · exact .reference hchain hq hpos
      · exact .command hchain hblock hcommand hq
      · obtain ⟨identity, hidentity, ⟨hvob, hnumber⟩, command, hcommand, hq⟩ :=
          mem_buttonTargets.1 h
        exact .button hchain hcell hidentity hvob hnumber hcommand hq
  · intro h
    cases h with
    | reference hchain hq hpos =>
      rw [targetsBySource_eq hchain, mem_targetProgramChains]
      exact .inl ⟨hq, hpos⟩
    | command hchain hblock hcommand hq =>
      rw [targetsBySource_eq hchain, mem_targetProgramChains]
      exact .inr (.inl ⟨_, hblock, _, hcommand, hq⟩)
    | button hchain hcell hidentity hvob hnumber hcommand hq =>
      rw [targetsBySource_eq hchain, mem_targetProgramChains]
      exact .inr (.inr ⟨_, hcell,
        mem_buttonTargets.2 ⟨_, hidentity, ⟨hvob, hnumber⟩, _, hcommand, hq⟩⟩)

theorem Leads.numbered (h : Leads set p q) : 0 < p ∧ p ≤ set.pgcCount := by
  cases h with
  | reference hchain => exact set.chainsNumbered _ hchain
  | command hchain => exact set.chainsNumbered _ hchain
  | button hchain => exact set.chainsNumbered _ hchain

end Targets

/-- What identifies a pair in the search. -/
def pendingKey (x : Nat × GlobalDvdTitle) : Nat × Nat := (x.1, x.2.titleNumber)

/-- The pairs that the numbers of some chains make with a title, out of range numbers left out. -/
def placed (pgcCount : Nat) (pgcNumbers : List Nat) (title : GlobalDvdTitle) :
    List (Nat × GlobalDvdTitle) :=
  (pgcNumbers.filter fun p => 0 < p ∧ p ≤ pgcCount).map fun p => (p, title)

def pendingTargets (set : TitleSet) (x : Nat × GlobalDvdTitle) : List (Nat × GlobalDvdTitle) :=
  placed set.pgcCount (targetsBySource set x.1) x.2

def partSeeds (set : TitleSet) (title : GlobalDvdTitle) : List (Nat × GlobalDvdTitle) :=
  placed set.pgcCount ((set.titleParts[title.titleSetTitleNumber - 1]?.getD []).map (·.pgcNumber))
    title

def pendingSeeds (set : TitleSet) : List (Nat × GlobalDvdTitle) :=
  set.globalTitles.flatMap (partSeeds set)

/-- The map groups the pending pairs by their chains. -/
def GroupedTitles (state : ExecutableTitles) : Prop :=
  ∀ p, state.byProgramChain p = (state.pending.filter (·.1 = p)).map Prod.snd

section Search

variable {set : TitleSet} {state : ExecutableTitles} {title : GlobalDvdTitle} {p q : Nat}

theorem mem_placed : (p, t) ∈ placed pgcCount pgcNumbers title ↔
    t = title ∧ p ∈ pgcNumbers ∧ 0 < p ∧ p ≤ pgcCount := by
  rw [placed, List.mem_map]
  constructor
  · rintro ⟨p', hp', heq⟩
    obtain ⟨rfl, rfl⟩ := Prod.mk.inj heq
    obtain ⟨hmem, hrange⟩ := List.mem_filter.1 hp'
    exact ⟨rfl, hmem, of_decide_eq_true hrange⟩
  · rintro ⟨rfl, hmem, hrange⟩
    exact ⟨p, List.mem_filter.2 ⟨hmem, decide_eq_true hrange⟩, rfl⟩

theorem GroupedTitles.any_iff (h : GroupedTitles state) :
    (state.byProgramChain p).any (·.titleNumber = title.titleNumber) = true ↔
      pendingKey (p, title) ∈ state.pending.map pendingKey := by
  rw [h p, List.any_eq_true, List.mem_map]
  constructor
  · rintro ⟨t, ht, hnumber⟩
    obtain ⟨x, hx, rfl⟩ := List.mem_map.1 ht
    obtain ⟨hx, hp⟩ := List.mem_filter.1 hx
    rw [decide_eq_true_eq] at hp hnumber
    exact ⟨x, hx, Prod.ext hp hnumber⟩
  · rintro ⟨x, hx, hkey⟩
    obtain ⟨hp, hnumber⟩ := Prod.mk.inj hkey
    exact ⟨x.2, List.mem_map.2 ⟨x, List.mem_filter.2 ⟨hx, decide_eq_true hp⟩, rfl⟩,
      decide_eq_true hnumber⟩

/-- Adding a title keeps the map grouped and adds its pair, in range, to the pending ones. -/
theorem GroupedTitles.addExecutableTitle (h : GroupedTitles state) (pgcCount p : Nat)
    (title : GlobalDvdTitle) :
    GroupedTitles (addExecutableTitle pgcCount p title state) ∧
      (addExecutableTitle pgcCount p title state).pending =
        Worklist.addAll pendingKey state.pending (placed pgcCount [p] title) := by
  unfold RipDvd.addExecutableTitle placed
  by_cases hrange : p = 0 ∨ pgcCount < p
  · have hout : ¬(0 < p ∧ p ≤ pgcCount) := by omega
    rw [if_pos hrange, List.filter_cons_of_neg (by simpa using hout)]
    exact ⟨h, rfl⟩
  · have hin : 0 < p ∧ p ≤ pgcCount := by omega
    rw [if_neg hrange, List.filter_cons_of_pos (by simpa using hin)]
    by_cases hany : (state.byProgramChain p).any (·.titleNumber = title.titleNumber) = true
    · have hkey := h.any_iff.1 hany
      have hadd : Worklist.add pendingKey state.pending (p, title) = state.pending := if_pos hkey
      dsimp only
      rw [if_pos hany]
      exact ⟨h, hadd.symm⟩
    · have hkey := fun hkey => hany (h.any_iff.2 hkey)
      have hadd : Worklist.add pendingKey state.pending (p, title) =
          state.pending ++ [(p, title)] := if_neg hkey
      dsimp only
      rw [if_neg hany]
      refine ⟨?_, hadd.symm⟩
      intro q
      dsimp only
      rw [List.filter_append, List.map_append]
      by_cases hq : q = p
      · subst hq
        rw [Function.update_self, h q, List.filter_cons_of_pos (by simp)]
        rfl
      · rw [Function.update_of_ne hq, h q, List.filter_cons_of_neg (by simpa using Ne.symm hq)]
        simp

theorem GroupedTitles.addAllExecutableTitles (h : GroupedTitles state) (pgcCount : Nat)
    (pgcNumbers : List Nat) (title : GlobalDvdTitle) :
    GroupedTitles (addAllExecutableTitles pgcCount pgcNumbers title state) ∧
      (addAllExecutableTitles pgcCount pgcNumbers title state).pending =
        Worklist.addAll pendingKey state.pending (placed pgcCount pgcNumbers title) := by
  induction pgcNumbers generalizing state with
  | nil => exact ⟨h, rfl⟩
  | cons p pgcNumbers ih =>
    obtain ⟨hgrouped, hpending⟩ := h.addExecutableTitle pgcCount p title
    obtain ⟨hrest, hresult⟩ := ih hgrouped
    refine ⟨hrest, hresult.trans ?_⟩
    have happend : placed pgcCount (p :: pgcNumbers) title =
        placed pgcCount [p] title ++ placed pgcCount pgcNumbers title := by
      rw [placed, placed, placed, ← List.map_append, ← List.filter_append]
      rfl
    rw [hpending, happend, Worklist.addAll, Worklist.addAll, Worklist.addAll, List.foldl_append]

theorem foldlM_addParts (hgrouped : GroupedTitles state) (titles : List GlobalDvdTitle)
    (hparts : ∀ title ∈ titles, title.titleSetTitleNumber - 1 < set.titleParts.length) :
    ∃ seeded, titles.foldlM (addParts set) state = some seeded ∧ GroupedTitles seeded ∧
      seeded.pending =
        Worklist.addAll pendingKey state.pending (titles.flatMap (partSeeds set)) := by
  induction titles generalizing state with
  | nil => exact ⟨state, rfl, hgrouped, rfl⟩
  | cons title titles ih =>
    have hget := List.getElem?_eq_getElem (hparts title List.mem_cons_self)
    obtain ⟨hnext, hpending⟩ := hgrouped.addAllExecutableTitles set.pgcCount
      ((set.titleParts[title.titleSetTitleNumber - 1]?.getD []).map (·.pgcNumber)) title
    obtain ⟨seeded, hseeded, hresult, heq⟩ :=
      ih hnext fun title h => hparts title (List.mem_cons_of_mem _ h)
    refine ⟨seeded, ?_, hresult, ?_⟩
    · rw [List.foldlM_cons, addParts, hget]
      rw [hget] at hseeded
      exact hseeded
    · rw [heq, hpending, List.flatMap_cons, Worklist.addAll, Worklist.addAll, Worklist.addAll,
        List.foldl_append]
      rfl

/-- The loop over the pending pairs is the search over them. -/
theorem visitPending_run (hgrouped : GroupedTitles state)
    (hrun : Worklist.run pendingKey (pendingTargets set) fuel index state.pending = some found) :
    ∃ result, visitPending set fuel index state = some result ∧ GroupedTitles result ∧
      result.pending = found := by
  induction fuel generalizing index state with
  | zero =>
    rw [Worklist.run] at hrun
    split at hrun
    · cases hrun
    · rename_i hlt
      exact ⟨state, if_neg hlt, hgrouped, Option.some.inj hrun⟩
  | succ fuel ih =>
    rw [Worklist.run] at hrun
    rw [visitPending]
    cases hx : state.pending[index]? with
    | none =>
      rw [hx] at hrun
      exact ⟨state, rfl, hgrouped, Option.some.inj hrun⟩
    | some x =>
      rw [hx] at hrun
      obtain ⟨hnext, hpending⟩ := hgrouped.addAllExecutableTitles set.pgcCount
        (targetsBySource set x.1) x.2
      apply ih hnext
      rw [hpending]
      exact hrun

theorem mem_partSeeds : (p, t) ∈ partSeeds set title ↔
    t = title ∧ HasPart set title p ∧ 0 < p ∧ p ≤ set.pgcCount := by
  rw [partSeeds, mem_placed, HasPart]
  cases set.titleParts[title.titleSetTitleNumber - 1]? with
  | none => simp
  | some parts => simp only [Option.getD_some, Option.some.injEq, exists_eq_left']

/-- A pair is reached in the search exactly when its title executes its chain. -/
theorem reached_iff : Worklist.Reached (pendingTargets set) (pendingSeeds set) (p, title) ↔
    (0 < p ∧ p ≤ set.pgcCount) ∧ Executes set title p := by
  constructor
  · intro h
    apply h.invariant (P := fun x => (0 < x.1 ∧ x.1 ≤ set.pgcCount) ∧ Executes set x.2 x.1)
    · rintro ⟨s, t⟩ hseed
      obtain ⟨title, htitle, hmem⟩ := List.mem_flatMap.1 hseed
      obtain ⟨rfl, hpart, hrange⟩ := mem_partSeeds.1 hmem
      exact ⟨hrange, htitle, s, hpart, .refl⟩
    · rintro ⟨a, t⟩ ⟨-, htitle, s, hpart, hpath⟩ ⟨b, t'⟩ hb
      obtain ⟨rfl, hmem, hrange⟩ := mem_placed.1 hb
      exact ⟨hrange, htitle, s, hpart, hpath.tail (mem_targetsBySource.1 hmem)⟩
  · rintro ⟨hrange, htitle, s, hpart, hpath⟩
    induction hpath with
    | refl =>
      apply Worklist.Reached.seed
      exact List.mem_flatMap.2 ⟨title, htitle, mem_partSeeds.2 ⟨rfl, hpart, hrange⟩⟩
    | @tail b c _ hlead ih =>
      apply (ih hlead.numbered).step
      exact mem_placed.2 ⟨rfl, mem_targetsBySource.2 hlead, hrange⟩

theorem reached_title (h : Worklist.Reached (pendingTargets set) (pendingSeeds set) x) :
    x.2 ∈ set.globalTitles := (reached_iff.1 h).2.1

/-- Pairs that are reached and have the same key are the same. -/
theorem pendingKey_injective
    (hx : Worklist.Reached (pendingTargets set) (pendingSeeds set) x)
    (hy : Worklist.Reached (pendingTargets set) (pendingSeeds set) y)
    (hkey : pendingKey x = pendingKey y) : x = y := by
  obtain ⟨hp, hnumber⟩ := Prod.mk.inj hkey
  have htitle := List.inj_on_of_nodup_map set.titlesDistinct (reached_title hx) (reached_title hy)
    hnumber
  exact Prod.ext hp htitle

/-- The keys that the pairs of a title set can have. -/
def pendingKeys (set : TitleSet) : List (Nat × Nat) :=
  List.range' 1 set.pgcCount ×ˢ set.globalTitles.map (·.titleNumber)

theorem pendingKeys_length (set : TitleSet) :
    (pendingKeys set).length = set.pgcCount * set.globalTitles.length := by
  rw [pendingKeys, List.length_product, List.length_range', List.length_map]

theorem pendingKey_mem (h : Worklist.Reached (pendingTargets set) (pendingSeeds set) x) :
    pendingKey x ∈ pendingKeys set := by
  have hrange := (reached_iff.1 h).1
  apply List.mem_product.2
  refine ⟨?_, List.mem_map_of_mem (reached_title h)⟩
  rw [List.mem_range'_1]
  exact ⟨hrange.1, by omega⟩

/-- The search returns, and finds for each chain the titles that execute it, each once. -/
theorem executableTitlesByProgramChain_returns (set : TitleSet) :
    ∃ executable, executableTitlesByProgramChain set = some executable ∧
      ∀ p, (executable p).Nodup ∧
        ∀ title, title ∈ executable p ↔
          (0 < p ∧ p ≤ set.pgcCount) ∧ Executes set title p := by
  have hempty : GroupedTitles ExecutableTitles.empty := fun p => rfl
  obtain ⟨seeded, hseeded, hgrouped, hpending⟩ :=
    foldlM_addParts hempty set.globalTitles set.partsKnown
  have hstart := Worklist.Visited.start pendingKey (pendingTargets set) (pendingSeeds set)
  have hlength := pendingKeys_length set
  obtain ⟨found, hfound⟩ := Worklist.run_returns
    (set.pgcCount * set.globalTitles.length) (pendingKeys set) hstart
    (fun x hx => pendingKey_mem hx) (by omega)
  have hvisited := Worklist.run_visited hstart hfound
  have hmem : ∀ x, x ∈ found ↔ Worklist.Reached (pendingTargets set) (pendingSeeds set) x :=
    fun x => hvisited.mem_iff fun x y hx hy hkey => pendingKey_injective hx hy hkey
  obtain ⟨result, hresult, hgrouped, heq⟩ := visitPending_run hgrouped
    (hpending ▸ hfound)
  refine ⟨result.byProgramChain, ?_, ?_⟩
  · rw [executableTitlesByProgramChain, hseeded]
    simp only [Option.bind_eq_bind, Option.bind_some, hresult, Option.pure_def]
  · intro p
    rw [hgrouped p, heq]
    constructor
    · apply List.Nodup.map_on
      · intro x hx y hy htitle
        have hxp := (List.mem_filter.1 hx).2
        have hyp := (List.mem_filter.1 hy).2
        rw [decide_eq_true_eq] at hxp hyp
        exact Prod.ext (hxp.trans hyp.symm) htitle
      · exact hvisited.nodup.of_map.filter _
    · intro title
      rw [← reached_iff, ← hmem, List.mem_map]
      constructor
      · rintro ⟨x, hx, rfl⟩
        obtain ⟨hmem, hp⟩ := List.mem_filter.1 hx
        obtain rfl := of_decide_eq_true hp
        exact hmem
      · intro h
        exact ⟨(p, title), List.mem_filter.2 ⟨h, by simp⟩, rfl⟩

end Search

/-- Two lists hold the same things, up to a relation, in any order. -/
def SameContent (R : α → α → Prop) (l l' : List α) : Prop :=
  (∀ x ∈ l, ∃ y ∈ l', R x y) ∧ ∀ y ∈ l', ∃ x ∈ l, R x y

/-- The same program chain, its targets in another order. -/
structure DvdProgramChain.Reordered (chain other : DvdProgramChain) : Prop where
  cells : ∀ cell, cell ∈ chain.cells ↔ cell ∈ other.cells
  commands : ∀ command, command ∈ chain.commandBlocks.flatten ↔
    command ∈ other.commandBlocks.flatten
  references : ∀ p, p ∈ chain.programChainReferences ↔ p ∈ other.programChainReferences

/-- The same navigation pack, its buttons in another order. -/
structure DvdNavigationIdentity.Reordered (identity other : DvdNavigationIdentity) : Prop where
  buttonCommands : ∀ command, command ∈ identity.buttonCommands ↔ command ∈ other.buttonCommands
  cellNumber : identity.cellNumber = other.cellNumber
  vobId : identity.vobId = other.vobId

/-- The same title set, its titles, parts, chains and targets in another order. -/
structure TitleSet.Reordered (set other : TitleSet) : Prop where
  titles : ∀ title, title ∈ set.globalTitles ↔ title ∈ other.globalTitles
  parts : ∀ title p, HasPart set title p ↔ HasPart other title p
  pgcCount : set.pgcCount = other.pgcCount
  chains : SameContent (fun a b => a.1 = b.1 ∧ a.2.Reordered b.2)
    set.programChains other.programChains
  identities : SameContent (fun a b => a.2.Reordered b.2)
    set.navigationIdentities other.navigationIdentities

section Order

variable {set other : TitleSet}

theorem SameContent.symm (h : SameContent R l l') (hsymm : ∀ {x y}, R x y → R y x) :
    SameContent R l' l := by
  constructor
  · intro y hy
    obtain ⟨x, hx, hxy⟩ := h.2 y hy
    exact ⟨x, hx, hsymm hxy⟩
  · intro x hx
    obtain ⟨y, hy, hxy⟩ := h.1 x hx
    exact ⟨y, hy, hsymm hxy⟩

theorem DvdProgramChain.Reordered.symm {chain other : DvdProgramChain}
    (h : chain.Reordered other) : other.Reordered chain where
  cells cell := (h.cells cell).symm
  commands command := (h.commands command).symm
  references p := (h.references p).symm

theorem DvdNavigationIdentity.Reordered.symm {identity other : DvdNavigationIdentity}
    (h : identity.Reordered other) : other.Reordered identity where
  buttonCommands command := (h.buttonCommands command).symm
  cellNumber := h.cellNumber.symm
  vobId := h.vobId.symm

theorem TitleSet.Reordered.symm (h : set.Reordered other) : other.Reordered set where
  titles title := (h.titles title).symm
  parts title p := (h.parts title p).symm
  pgcCount := h.pgcCount.symm
  chains := h.chains.symm fun hchain => ⟨hchain.1.symm, hchain.2.symm⟩
  identities := h.identities.symm fun hidentity => hidentity.symm

theorem TitleSet.Reordered.leads (h : set.Reordered other) (hlead : Leads set p q) :
    Leads other p q := by
  cases hlead with
  | reference hchain hq hpos =>
    obtain ⟨⟨p', chain'⟩, hchain', rfl, hsame⟩ := h.chains.1 _ hchain
    exact .reference hchain' ((hsame.references q).1 hq) hpos
  | command hchain hblock hcommand hq =>
    obtain ⟨⟨p', chain'⟩, hchain', rfl, hsame⟩ := h.chains.1 _ hchain
    have hflat := (hsame.commands _).1 (List.mem_flatten.2 ⟨_, hblock, hcommand⟩)
    obtain ⟨block, hblock, hcommand⟩ := List.mem_flatten.1 hflat
    exact .command hchain' hblock hcommand hq
  | button hchain hcell hidentity hvob hnumber hcommand hq =>
    obtain ⟨⟨p', chain'⟩, hchain', rfl, hsame⟩ := h.chains.1 _ hchain
    obtain ⟨identity', hidentity', hpack⟩ := h.identities.1 _ hidentity
    exact .button hchain' ((hsame.cells _).1 hcell) hidentity' (hpack.vobId.symm.trans hvob)
      (hpack.cellNumber.symm.trans hnumber) ((hpack.buttonCommands _).1 hcommand) hq

theorem TitleSet.Reordered.executes (h : set.Reordered other) (hexecutes : Executes set title p) :
    Executes other title p := by
  obtain ⟨htitle, s, hpart, hpath⟩ := hexecutes
  exact ⟨(h.titles title).1 htitle, s, (h.parts title s).1 hpart, 
    ReflTransGen.mono (fun _ _ => h.leads) _ _ hpath⟩

theorem TitleSet.Reordered.executes_iff (h : set.Reordered other) :
    Executes set title p ↔ Executes other title p := ⟨h.executes, h.symm.executes⟩

/-- The commands of a chain are checked for no more chapters than any title that executes it. -/
theorem currentTitleChapterLimit_le (hset : executableTitlesByProgramChain set = some executable)
    (hrange : 0 < p ∧ p ≤ set.pgcCount) (hexecutes : Executes set title p) :
    ∃ limit, currentTitleChapterLimit (executableTitles set executable p) = some limit ∧
      limit ≤ title.chapterCount := by
  obtain ⟨executable', hset', hall⟩ := executableTitlesByProgramChain_returns set
  obtain rfl := Option.some.inj (hset.symm.trans hset')
  have hmem := ((hall p).2 title).2 ⟨hrange, hexecutes⟩
  have hempty : (executable p).isEmpty ≠ true := by
    intro hempty
    rw [List.isEmpty_iff.1 hempty] at hmem
    exact absurd hmem List.not_mem_nil
  have hcount : title.chapterCount ∈ (executable p).map (·.chapterCount) :=
    List.mem_map_of_mem hmem
  rw [executableTitles, if_neg hempty, currentTitleChapterLimit]
  cases hmin : ((executable p).map (·.chapterCount)).min? with
  | none =>
    rw [List.min?_eq_none_iff.1 hmin] at hcount
    exact absurd hcount List.not_mem_nil
  | some limit => exact ⟨limit, rfl, (List.min?_eq_some_iff.1 hmin).2 _ hcount⟩

/-- The search returns: it finds for each chain exactly the titles that execute it, each once,
whatever the order of the titles, the chains and their targets. -/
theorem executableTitles_least_fixpoint (set other : TitleSet) (hother : set.Reordered other) :
    ∃ executable executable', executableTitlesByProgramChain set = some executable ∧
      executableTitlesByProgramChain other = some executable' ∧
      ∀ p, (executable p).Nodup ∧
        (∀ title, title ∈ executable p ↔
          (0 < p ∧ p ≤ set.pgcCount) ∧ Executes set title p) ∧
        (executable p).Perm (executable' p) := by
  obtain ⟨executable, hset, hall⟩ := executableTitlesByProgramChain_returns set
  obtain ⟨executable', hset', hall'⟩ := executableTitlesByProgramChain_returns other
  refine ⟨executable, executable', hset, hset', fun p => ⟨(hall p).1, (hall p).2, ?_⟩⟩
  apply (List.perm_ext_iff_of_nodup (hall p).1 (hall' p).1).2
  intro title
  rw [(hall p).2, (hall' p).2, hother.executes_iff, hother.pgcCount]

/-- Two titles; a button of the first title's chain links to the third chain. -/
def sampleTitleSet : TitleSet where
  globalTitles := [⟨1, 1, 1, 1⟩, ⟨1, 2, 2, 2⟩]
  titleParts := [[⟨1⟩], [⟨2⟩]]
  pgcCount := 3
  programChains := [
    (1, { cells := [⟨1, 1⟩], commandBlocks := [], programChainReferences := [0, 0, 1] }),
    (2, { cells := [], commandBlocks := [], programChainReferences := [] }),
    (3, { cells := [], commandBlocks := [[⟨1, false, 7, 0, 4, 0⟩]], programChainReferences := [] })]
  navigationIdentities := [(0, { buttonCommands := [⟨1, false, 3, 0, 4, 0⟩]
                                 cellNumber := 1
                                 vobId := 1 })]
  titlesDistinct := by decide
  partsKnown := by decide
  chainsDistinct := by decide
  chainsNumbered := by decide

example : (executableTitlesByProgramChain sampleTitleSet).map (fun f => (f 3).map (·.titleNumber))
    = some [1] := by decide

/-- The set with all its lists backwards. -/
def TitleSet.reversed (set : TitleSet) : TitleSet where
  globalTitles := set.globalTitles.reverse
  titleParts := set.titleParts.map List.reverse
  pgcCount := set.pgcCount
  programChains := (set.programChains.map fun (p, chain) => (p, { chain with
    cells := chain.cells.reverse
    commandBlocks := chain.commandBlocks.reverse
    programChainReferences := chain.programChainReferences.reverse })).reverse
  navigationIdentities := (set.navigationIdentities.map fun (sector, identity) =>
    (sector, { identity with buttonCommands := identity.buttonCommands.reverse })).reverse
  titlesDistinct := by
    rw [List.map_reverse, List.nodup_reverse]
    exact set.titlesDistinct
  partsKnown := by
    intro title htitle
    rw [List.length_map]
    exact set.partsKnown title (List.mem_reverse.1 htitle)
  chainsDistinct := by
    rw [List.map_reverse, List.nodup_reverse, List.map_map]
    exact set.chainsDistinct
  chainsNumbered := by
    intro entry hentry
    obtain ⟨chain, hchain, rfl⟩ := List.mem_map.1 (List.mem_reverse.1 hentry)
    exact set.chainsNumbered chain hchain

theorem sameContent_reverse_map {R : α → α → Prop} {f : α → α} (h : ∀ x, R x (f x)) (l : List α) :
    SameContent R l (l.map f).reverse := by
  constructor
  · intro x hx
    exact ⟨f x, List.mem_reverse.2 (List.mem_map_of_mem hx), h x⟩
  · intro y hy
    obtain ⟨x, hx, rfl⟩ := List.mem_map.1 (List.mem_reverse.1 hy)
    exact ⟨x, hx, h x⟩

theorem TitleSet.reordered_reversed (set : TitleSet) : set.Reordered set.reversed where
  titles _ := List.mem_reverse.symm
  parts title p := by
    simp [HasPart, reversed, Option.map_eq_some_iff]
  pgcCount := rfl
  chains := by
    apply sameContent_reverse_map
    intro entry
    exact ⟨rfl, fun _ => List.mem_reverse.symm, fun _ => by simp, fun _ => List.mem_reverse.symm⟩
  identities := by
    apply sameContent_reverse_map
    intro entry
    exact ⟨fun _ => List.mem_reverse.symm, rfl, rfl⟩

theorem sampleTitleSet_fixpoint :
    ∃ executable executable', executableTitlesByProgramChain sampleTitleSet = some executable ∧
      executableTitlesByProgramChain sampleTitleSet.reversed = some executable' ∧
      ∀ p, (executable p).Nodup ∧
        (∀ title, title ∈ executable p ↔
          (0 < p ∧ p ≤ sampleTitleSet.pgcCount) ∧ Executes sampleTitleSet title p) ∧
        (executable p).Perm (executable' p) :=
  executableTitles_least_fixpoint sampleTitleSet sampleTitleSet.reversed
    sampleTitleSet.reordered_reversed

end Order

end RipDvd
