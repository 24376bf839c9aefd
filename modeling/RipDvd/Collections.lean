import RipDvd.Program
import Mathlib.Data.List.Sort
import Mathlib.Data.List.Induction
import Mathlib.Data.List.Pairwise
import Mathlib.Data.List.Perm.Basic
import Mathlib.Tactic.Common

namespace RipDvd
set_option autoImplicit true

/-- A stable sort by a comparator. -/
def sortBy (cmp : α → α → Ordering) (l : List α) : List α :=
  l.insertionSort fun a b => (cmp a b).isLE = true

section Extremes

variable [LinearOrder α] {l : List α} {a c : α}

theorem foldl_min_le (l : List α) (a : α) :
    l.foldl min a ≤ a ∧ ∀ b ∈ l, l.foldl min a ≤ b := by
  induction l generalizing a with
  | nil => exact ⟨le_rfl, List.forall_mem_nil _⟩
  | cons b l ih =>
    obtain ⟨hmin, hrest⟩ := ih (min a b)
    exact ⟨hmin.trans (min_le_left _ _),
      List.forall_mem_cons.2 ⟨hmin.trans (min_le_right _ _), hrest⟩⟩

theorem le_foldl_min (ha : c ≤ a) (hl : ∀ b ∈ l, c ≤ b) : c ≤ l.foldl min a := by
  induction l generalizing a with
  | nil => exact ha
  | cons b l ih =>
    obtain ⟨hb, hl⟩ := List.forall_mem_cons.1 hl
    exact ih (le_min ha hb) hl

theorem le_foldl_max (l : List α) (a : α) :
    a ≤ l.foldl max a ∧ ∀ b ∈ l, b ≤ l.foldl max a := by
  induction l generalizing a with
  | nil => exact ⟨le_rfl, List.forall_mem_nil _⟩
  | cons b l ih =>
    obtain ⟨hmax, hrest⟩ := ih (max a b)
    exact ⟨(le_max_left _ _).trans hmax,
      List.forall_mem_cons.2 ⟨(le_max_right _ _).trans hmax, hrest⟩⟩

theorem foldl_max_le (ha : a ≤ c) (hl : ∀ b ∈ l, b ≤ c) : l.foldl max a ≤ c := by
  induction l generalizing a with
  | nil => exact ha
  | cons b l ih =>
    obtain ⟨hb, hl⟩ := List.forall_mem_cons.1 hl
    exact ih (max_le ha hb) hl

end Extremes

section SortBy

variable {cmp : α → α → Ordering} {l l' : List α}

theorem perm_sortBy (cmp : α → α → Ordering) (l : List α) : (sortBy cmp l).Perm l :=
  List.perm_insertionSort _ l

@[simp] theorem mem_sortBy : a ∈ sortBy cmp l ↔ a ∈ l := (perm_sortBy cmp l).mem_iff

/-- Sorted up to ties. -/
def Ascending (cmp : α → α → Ordering) (l : List α) : Prop :=
  l.Pairwise fun a b => (cmp a b).isLE = true

theorem ascending_sortBy [Std.TransCmp cmp] (l : List α) : Ascending cmp (sortBy cmp l) := by
  have total : Std.Total fun a b : α => (cmp a b).isLE = true := by
    constructor
    intro a b
    cases h : cmp a b with
    | lt => exact .inl rfl
    | eq => exact .inl rfl
    | gt => exact .inr (by rw [Std.OrientedCmp.lt_of_gt h]; rfl)
  have trans : IsTrans α fun a b => (cmp a b).isLE = true :=
    ⟨fun _ _ _ => Std.TransCmp.isLE_trans⟩
  exact List.pairwise_insertionSort _ l

/-- Elements that tie are the same element. -/
def Untied (cmp : α → α → Ordering) (l : List α) : Prop :=
  ∀ a ∈ l, ∀ b ∈ l, cmp a b = .eq → a = b

/-- Sorted lists of the same elements are the same list. -/
theorem Ascending.eq_of_perm [Std.TransCmp cmp] (h : Ascending cmp l) (h' : Ascending cmp l')
    (hu : Untied cmp l) (hp : l.Perm l') : l = l' := by
  apply List.Perm.eq_of_pairwise _ h h' hp
  intro a b ha hb hab hba
  exact hu a ha b (hp.mem_iff.2 hb) (Std.OrientedCmp.isLE_antisymm hab hba)

/-- A sort without ties forgets the order of its input. -/
theorem sortBy_eq_of_perm [Std.TransCmp cmp] (hp : l.Perm l') (hu : Untied cmp l) :
    sortBy cmp l = sortBy cmp l' := by
  apply (ascending_sortBy l).eq_of_perm (ascending_sortBy l')
  · intro a ha b hb
    exact hu a (mem_sortBy.1 ha) b (mem_sortBy.1 hb)
  · exact ((perm_sortBy cmp l).trans hp).trans (perm_sortBy cmp l').symm

/-- The first element in the order of a comparator. -/
def earliest (cmp : α → α → Ordering) (l : List α) : Option α := (sortBy cmp l).head?

theorem earliest_mem (h : earliest cmp l = some a) : a ∈ l := by
  have hmem := List.mem_of_mem_head? h
  exact mem_sortBy.1 hmem

theorem earliest_eq_none : earliest cmp l = none ↔ l = [] := by
  rw [earliest, List.head?_eq_none_iff]
  constructor
  · intro h
    exact List.Perm.nil_eq (h ▸ perm_sortBy cmp l) |>.symm
  · rintro rfl
    rfl

theorem earliest_isSome (h : a ∈ l) : ∃ b, earliest cmp l = some b := by
  rw [← Option.ne_none_iff_exists', ne_eq, earliest_eq_none]
  exact List.ne_nil_of_mem h

/-- The earliest element is not behind any other. -/
theorem earliest_isLE [Std.TransCmp cmp] (h : earliest cmp l = some a) (hb : b ∈ l) :
    (cmp a b).isLE = true := by
  have hsorted : Ascending cmp (sortBy cmp l) := ascending_sortBy l
  obtain ⟨rest, hrest⟩ := List.head?_eq_some_iff.1 h
  have hmem : b ∈ sortBy cmp l := mem_sortBy.2 hb
  rw [Ascending, hrest] at hsorted
  rw [hrest] at hmem
  rcases List.mem_cons.1 hmem with rfl | hlater
  · exact Ordering.isLE_of_eq_eq Std.ReflCmp.compare_self
  · exact (List.pairwise_cons.1 hsorted).1 b hlater

/-- The element that is ahead of all others is the earliest. -/
theorem earliest_eq_some [Std.TransCmp cmp] (ha : a ∈ l)
    (hahead : ∀ b ∈ l, b = a ∨ cmp a b = .lt) : earliest cmp l = some a := by
  obtain ⟨b, hb⟩ : ∃ b, earliest cmp l = some b := earliest_isSome ha
  have hle := earliest_isLE hb ha
  rcases hahead b (earliest_mem hb) with rfl | hlt
  · exact hb
  · rw [Std.OrientedCmp.gt_of_lt hlt] at hle
    cases hle

end SortBy

section MapValues

variable [DecidableEq κ] {key : α → κ} {l l' : List α}

/-- Set one entry of a map: a key that is there keeps its place. -/
def setValue (key : α → κ) (values : List α) (a : α) : List α :=
  if ∃ b ∈ values, key b = key a then values.map fun b => if key b = key a then a else b
  else values ++ [a]

/-- The values of a map filled entry by entry. -/
def mapValues (key : α → κ) (l : List α) : List α := l.foldl (setValue key) []

/-- Keys that tell the elements of a list apart. -/
def Distinguished (key : α → κ) (l : List α) : Prop := ∀ a ∈ l, ∀ b ∈ l, key a = key b → a = b

/-- What keys that tell all values apart make of a map. -/
structure MapOf (l values : List α) : Prop where
  mem : ∀ a, a ∈ values ↔ a ∈ l
  nodup : values.Nodup
  sublist : values.Sublist l

theorem MapOf.setValue {a : α} (h : MapOf l values) (hk : Distinguished key (l ++ [a])) :
    MapOf (l ++ [a]) (setValue key values a) := by
  rw [RipDvd.setValue]
  split
  · next hset =>
    obtain ⟨b, hb, he⟩ := hset
    have hsame (c : α) (hc : c ∈ values) (hce : key c = key a) : c = a :=
      hk c (List.mem_append_left _ ((h.mem c).1 hc)) a (List.mem_append_right _ (.head _)) hce
    have hid : (values.map fun c => if key c = key a then a else c) = values := by
      conv_rhs => rw [← List.map_id values]
      apply List.map_congr_left
      intro c hc
      by_cases hce : key c = key a
      · rw [if_pos hce, hsame c hc hce, id]
      · rw [if_neg hce, id]
    have ha : a ∈ values := hsame b hb he ▸ hb
    rw [hid]
    refine ⟨fun c => ?_, h.nodup, h.sublist.trans (List.sublist_append_left ..)⟩
    rw [List.mem_append, List.mem_singleton, h.mem]
    constructor
    · exact .inl
    · rintro (hc | rfl)
      · exact hc
      · exact (h.mem c).1 ha
  · next hset =>
    refine ⟨fun c => ?_, ?_, h.sublist.append (List.Sublist.refl _)⟩
    · rw [List.mem_append, List.mem_append, h.mem]
    · rw [List.nodup_append]
      refine ⟨h.nodup, List.nodup_singleton a, ?_⟩
      rintro b hb c hc rfl
      obtain rfl := List.mem_singleton.1 hc
      exact hset ⟨b, hb, rfl⟩

theorem mapOf_mapValues (hk : Distinguished key l) : MapOf l (mapValues key l) := by
  induction l using List.reverseRecOn with
  | nil => exact ⟨fun _ => Iff.rfl, List.nodup_nil, .slnil⟩
  | append_singleton l a ih =>
    rw [mapValues, List.foldl_append]
    apply (ih ?_).setValue hk
    intro b hb c hc
    exact hk b (List.mem_append_left _ hb) c (List.mem_append_left _ hc)

variable {cmp : α → α → Ordering} [Std.TransCmp cmp]

/-- Maps of the same elements, sorted without ties, are the same list. -/
theorem sortBy_mapValues_eq (hk : Distinguished key l) (hu : Untied cmp l)
    (hmem : ∀ a, a ∈ l ↔ a ∈ l') :
    sortBy cmp (mapValues key l) = sortBy cmp (mapValues key l') := by
  have hk' : Distinguished key l' :=
    fun a ha b hb => hk a ((hmem a).2 ha) b ((hmem b).2 hb)
  have h := mapOf_mapValues hk
  have h' := mapOf_mapValues hk'
  apply sortBy_eq_of_perm
  · apply (List.perm_ext_iff_of_nodup h.nodup h'.nodup).2
    intro a
    rw [h.mem, h'.mem, hmem]
  · intro a ha b hb
    exact hu a ((h.mem a).1 ha) b ((h.mem b).1 hb)

end MapValues

theorem exists_left_of_mem {r : α → β → Prop} {l : List α} {l' : List β}
    (h : List.Forall₂ r l l') (hb : b ∈ l') : ∃ a ∈ l, r a b := by
  induction h with
  | nil => cases hb
  | cons hab _ ih =>
    rcases List.mem_cons.1 hb with rfl | hb
    · exact ⟨_, List.mem_cons_self, hab⟩
    · obtain ⟨a, hmem, ha⟩ := ih hb
      exact ⟨a, List.mem_cons_of_mem _ hmem, ha⟩

theorem exists_right_of_mem {r : α → β → Prop} {l : List α} {l' : List β}
    (h : List.Forall₂ r l l') (ha : a ∈ l) : ∃ b ∈ l', r a b :=
  exists_left_of_mem (List.Forall₂.flip h) ha

section MapUnseen

variable {clash : α → α → Prop} [DecidableRel clash] {repeated : ε} {f : α → Except ε β}
  {l l' seen : List α} {bs : List β}

/-- Map a list in order, and stop at an element that clashes with one that was seen before. -/
def mapUnseen (clash : α → α → Prop) [DecidableRel clash] (repeated : ε) (f : α → Except ε β)
    (seen : List α) : List α → Except ε (List β)
  | [] => .ok []
  | a :: l => do
    rejectIf (∃ b ∈ seen, clash b a) repeated
    let b ← f a
    let bs ← mapUnseen clash repeated f (a :: seen) l
    return b :: bs

/-- The results of a list, one by one. -/
def Results (f : α → Except ε β) (l : List α) (bs : List β) : Prop :=
  List.Forall₂ (fun a b => f a = .ok b) l bs

theorem mapUnseen_ok : mapUnseen clash repeated f seen l = .ok bs ↔
    l.Pairwise (fun a b => ¬clash a b) ∧ (∀ a ∈ l, ∀ b ∈ seen, ¬clash b a) ∧ Results f l bs := by
  induction l generalizing seen bs with
  | nil =>
    constructor
    · intro h
      cases h
      exact ⟨.nil, fun a ha => (nomatch ha), .nil⟩
    · rintro ⟨-, -, h⟩
      cases h
      rfl
  | cons a l ih =>
    simp only [mapUnseen, bind_ok, rejectIf_ok, pure_ok, ih, List.pairwise_cons,
      not_exists, not_and]
    constructor
    · rintro ⟨-, hseen, b, hb, bs, ⟨hpair, hfresh, hresults⟩, rfl⟩
      refine ⟨⟨fun c hc => hfresh c hc a List.mem_cons_self, hpair⟩, fun c hc d hd => ?_,
        .cons hb hresults⟩
      rcases List.mem_cons.1 hc with rfl | hc
      · exact hseen d hd
      · exact hfresh c hc d (List.mem_cons_of_mem _ hd)
    · rintro ⟨⟨hfirst, hpair⟩, hseen, hresults⟩
      cases hresults with
      | cons hb hresults =>
        refine ⟨(), hseen a List.mem_cons_self, _, hb, _, ⟨hpair, fun c hc d hd => ?_, hresults⟩,
          rfl⟩
        rcases List.mem_cons.1 hd with rfl | hd
        · exact hfirst c hc
        · exact hseen c (List.mem_cons_of_mem _ hc) d hd

theorem Results.perm (h : Results f l bs) (hp : l.Perm l') :
    ∃ bs', Results f l' bs' ∧ bs.Perm bs' := by
  obtain ⟨bs', hresults, hperm⟩ := List.perm_comp_forall₂ hp.symm h
  exact ⟨bs', hresults, hperm.symm⟩

theorem mapM_results : l.mapM f = .ok bs ↔ Results f l bs := by
  induction l generalizing bs with
  | nil =>
    constructor
    · intro h
      cases h
      exact .nil
    · intro h
      cases h
      rfl
  | cons a l ih =>
    simp only [List.mapM_cons, bind_ok, pure_ok, ih]
    constructor
    · rintro ⟨b, hb, bs, hbs, rfl⟩
      exact .cons hb hbs
    · intro h
      cases h with
      | cons hb hbs => exact ⟨_, hb, _, hbs, rfl⟩

/-- The same elements up to `r`, in any order. -/
def Rearranged (r : α → α → Prop) (l l' : List α) : Prop :=
  ∃ middle, List.Forall₂ r l middle ∧ middle.Perm l'

variable {r : α → α → Prop}

theorem Results.congr (h : Results f l bs) (hr : List.Forall₂ r l l')
    (hf : ∀ a a' b, r a a' → f a = .ok b → f a' = .ok b) : Results f l' bs := by
  induction h generalizing l' with
  | nil =>
    cases hr
    exact .nil
  | cons hb _ ih =>
    cases hr with
    | cons ha hr => exact .cons (hf _ _ _ ha hb) (ih hr)

theorem pairwise_congr {clash : α → α → Prop} (h : l.Pairwise fun a b => ¬clash a b)
    (hr : List.Forall₂ r l l')
    (hclash : ∀ a a' b b', r a a' → r b b' → clash a' b' → clash a b) :
    l'.Pairwise fun a b => ¬clash a b := by
  induction hr with
  | nil => exact .nil
  | @cons a a' l l' ha hr ih =>
    obtain ⟨hfirst, hrest⟩ := List.pairwise_cons.1 h
    refine List.pairwise_cons.2 ⟨fun b' hb' hc => ?_, ih hrest⟩
    obtain ⟨b, hb, hbb⟩ := exists_left_of_mem hr hb'
    exact hfirst b hb (hclash _ _ _ _ ha hbb hc)

/-- The order of a list decides the order of its results, and nothing else. -/
theorem mapUnseen_rearranged (hsymm : ∀ a b, clash a b → clash b a)
    (hclash : ∀ a a' b b', r a a' → r b b' → clash a' b' → clash a b)
    (hf : ∀ a a' b, r a a' → f a = .ok b → f a' = .ok b)
    (h : mapUnseen clash repeated f [] l = .ok bs) (hr : Rearranged r l l') :
    ∃ bs', mapUnseen clash repeated f [] l' = .ok bs' ∧ bs.Perm bs' := by
  obtain ⟨hpair, -, hresults⟩ := mapUnseen_ok.1 h
  obtain ⟨middle, hmiddle, hp⟩ := hr
  obtain ⟨bs', hresults', hperm⟩ := (hresults.congr hmiddle hf).perm hp
  refine ⟨bs', mapUnseen_ok.2 ⟨?_, fun a _ b hb => (nomatch hb), hresults'⟩, hperm⟩
  exact (pairwise_congr hpair hmiddle hclash).perm hp fun hab hba => hab (hsymm _ _ hba)

/-- Results that tie come from elements that clash, and there are none of these. -/
theorem mapUnseen_untied {cmp : β → β → Ordering} [Std.OrientedCmp cmp]
    (hclash : ∀ a a' b b', f a = .ok b → f a' = .ok b' → cmp b b' = .eq → clash a a')
    (h : mapUnseen clash repeated f seen l = .ok bs) : Untied cmp bs := by
  obtain ⟨hpair, -, hresults⟩ := mapUnseen_ok.1 h
  have huntied : bs.Pairwise fun b b' => cmp b b' ≠ .eq := by
    clear h
    induction hresults with
    | nil => exact .nil
    | cons hb hresults ih =>
      obtain ⟨hfirst, hrest⟩ := List.pairwise_cons.1 hpair
      refine List.pairwise_cons.2 ⟨fun b' hb' he => ?_, ih hrest⟩
      obtain ⟨a', ha', hok⟩ := exists_left_of_mem hresults hb'
      exact hfirst a' ha' (hclash _ _ _ _ hb hok he)
  intro b hb b' hb' he
  by_contra hne
  have hsymm : Std.Symm fun b b' => cmp b b' ≠ .eq :=
    ⟨fun x y hxy hyx => hxy (Std.OrientedCmp.eq_comm.1 hyx)⟩
  exact huntied.forall hb hb' hne he

end MapUnseen

/-! Strings as the runtime compares them: by their UTF-16 code units. -/

def charCodeUnits (c : Char) : List Nat :=
  if c.toNat < 0x10000 then [c.toNat]
  else [0xD800 + (c.toNat - 0x10000) / 0x400, 0xDC00 + (c.toNat - 0x10000) % 0x400]

def codeUnits (s : String) : List Nat := s.toList.flatMap charCodeUnits

def compareCodeUnits (left right : String) : Ordering := compareOn codeUnits left right

theorem Char.eq_of_toNat {a b : Char} (h : a.toNat = b.toNat) : a = b :=
  Char.ext (UInt32.toNat_inj.1 h)

/-- No code unit of a character in the basic plane is a surrogate, so the first unit decides. -/
theorem charCodeUnits_append {a b : Char} {x y : List Nat}
    (h : charCodeUnits a ++ x = charCodeUnits b ++ y) : a = b ∧ x = y := by
  have ha : a.toNat < 0xD800 ∨ 0xDFFF < a.toNat ∧ a.toNat < 0x110000 := a.valid
  have hb : b.toNat < 0xD800 ∨ 0xDFFF < b.toNat ∧ b.toNat < 0x110000 := b.valid
  unfold charCodeUnits at h
  by_cases hal : a.toNat < 0x10000 <;> by_cases hbl : b.toNat < 0x10000
  · rw [if_pos hal, if_pos hbl] at h
    obtain ⟨he, hxy⟩ := List.cons.inj h
    exact ⟨Char.eq_of_toNat he, hxy⟩
  · rw [if_pos hal, if_neg hbl] at h
    obtain ⟨he, -⟩ := List.cons.inj h
    omega
  · rw [if_neg hal, if_pos hbl] at h
    obtain ⟨he, -⟩ := List.cons.inj h
    omega
  · rw [if_neg hal, if_neg hbl] at h
    obtain ⟨hhigh, hrest⟩ := List.cons.inj h
    obtain ⟨hlow, hxy⟩ := List.cons.inj hrest
    exact ⟨Char.eq_of_toNat (by omega), hxy⟩

theorem codeUnits_injective {a b : String} (h : codeUnits a = codeUnits b) : a = b := by
  have hlists (x y : List Char) (he : x.flatMap charCodeUnits = y.flatMap charCodeUnits) :
      x = y := by
    have hne (c : Char) : charCodeUnits c ≠ [] := by
      unfold charCodeUnits
      split <;> exact List.cons_ne_nil _ _
    induction x generalizing y with
    | nil =>
      cases y with
      | nil => rfl
      | cons d y => exact absurd (List.append_eq_nil_iff.1 he.symm).1 (hne d)
    | cons c x ih =>
      cases y with
      | nil => exact absurd (List.append_eq_nil_iff.1 he).1 (hne c)
      | cons d y =>
        obtain ⟨rfl, hxy⟩ := charCodeUnits_append he
        rw [ih y hxy]
  exact String.toList_inj.1 (hlists _ _ h)

instance : Std.TransCmp compareCodeUnits := inferInstanceAs (Std.TransCmp (compareOn codeUnits))

instance : Std.LawfulEqCmp compareCodeUnits where
  eq_of_compare h := codeUnits_injective (Std.LawfulEqOrd.eq_of_compare h)

end RipDvd
