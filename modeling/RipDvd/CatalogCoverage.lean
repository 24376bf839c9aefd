import RipDvd.Collections
import RipDvd.Islands

namespace RipDvd
set_option autoImplicit true

open RipDvd.Span

structure ArchivedTitle where
  number : Nat
  chapters : Nat
  deriving DecidableEq

/-- The kind of a selection, with the columns that the table requires of it. -/
inductive DiscSelectionKind where
  | mainFeature
  | dvdTitle (titleNumber : Nat)
  | dvdChapters (titleNumber : Nat) (chapterStart chapterEnd : Int)
  deriving DecidableEq

structure DiscSelection where
  id : String
  originalDiscArchiveId : String
  mediaItemId : String
  kind : DiscSelectionKind
  isCatalogActive : Bool
  deriving DecidableEq

structure ChapterInterval where
  titleNumber : Nat
  selectionId : String
  intervalStart : Int
  intervalEnd : Int
  isWholeTitle : Bool
  deriving DecidableEq

instance : Span ChapterInterval where
  first := ChapterInterval.intervalStart
  last := ChapterInterval.intervalEnd

/-- A selection joined with a title, clipped to the chapters of the title. -/
def rawInterval (title : ArchivedTitle) (selection : DiscSelection) : Option ChapterInterval :=
  match selection.kind with
  | .mainFeature => none
  | .dvdTitle titleNumber =>
    if titleNumber = title.number then some {
      titleNumber
      selectionId := selection.id
      intervalStart := 1
      intervalEnd := title.chapters
      isWholeTitle := true }
    else none
  | .dvdChapters titleNumber chapterStart chapterEnd =>
    if titleNumber = title.number then some {
      titleNumber
      selectionId := selection.id
      intervalStart := max 1 chapterStart
      intervalEnd := min title.chapters chapterEnd
      isWholeTitle := false }
    else none

def activeSelections (discSelections : List DiscSelection) (originalDiscArchiveId : String) :
    List DiscSelection :=
  discSelections.filter fun selection =>
    selection.originalDiscArchiveId = originalDiscArchiveId && selection.isCatalogActive

def rawIntervals (titleMap : List ArchivedTitle) (selections : List DiscSelection) :
    List ChapterInterval :=
  titleMap.flatMap fun title => selections.filterMap (rawInterval title)

/-- The rows of a partition or of a group by title. -/
def ofTitle (titleNumber : Nat) (rows : List ChapterInterval) : List ChapterInterval :=
  rows.filter (·.titleNumber = titleNumber)

def validIntervals (rows : List ChapterInterval) : List ChapterInterval :=
  rows.filter fun row => row.intervalStart ≤ row.intervalEnd

def compareChapterIntervals : ChapterInterval → ChapterInterval → Ordering :=
  compareLex (compareOn (·.intervalStart))
    (compareLex (compareOn (·.intervalEnd)) (compareOn (·.selectionId)))

/-- The window of a title. -/
def orderedIntervals (rows : List ChapterInterval) (titleNumber : Nat) : List ChapterInterval :=
  sortBy compareChapterIntervals (ofTitle titleNumber (validIntervals rows))

structure CoverageRow where
  titleNumber : Nat
  chapters : Nat
  hasWholeTitle : Bool
  coveredChapters : Int
  hasOverlap : Bool

def coverageRow (rows : List ChapterInterval) (title : ArchivedTitle) : CoverageRow :=
  let ordered := orderedIntervals rows title.number
  let wholeTitleSelections := ((ofTitle title.number rows).filter (·.isWholeTitle)).length
  { titleNumber := title.number
    chapters := title.chapters
    hasWholeTitle := (ofTitle title.number rows).any (·.isWholeTitle)
    coveredChapters := islandsTotal (islands ordered)
    hasOverlap := overlaps ordered || 1 < wholeTitleSelections }

inductive CatalogCoverageStatus where
  | mapped
  | partiallyMapped
  | unmapped
  deriving DecidableEq

structure TitleCoverage where
  titleNumber : Nat
  status : CatalogCoverageStatus
  hasOverlap : Bool
  deriving DecidableEq

def CoverageRow.status (row : CoverageRow) : CatalogCoverageStatus :=
  if row.hasWholeTitle ∨ (0 < row.chapters ∧ row.chapters ≤ row.coveredChapters) then .mapped
  else if 0 < row.coveredChapters then .partiallyMapped
  else .unmapped

structure CatalogReviewCoverage where
  discSelectionCount : Nat
  mediaItemsWithSelections : Nat
  mainFeatureSelections : Nat
  mappedTitles : Nat
  partiallyMappedTitles : Nat
  unmappedTitles : Nat
  titles : List TitleCoverage

def getCatalogReviewCoverage (archivedTitles : List ArchivedTitle)
    (discSelections : List DiscSelection) (originalDiscArchiveId : String) :
    CatalogReviewCoverage :=
  let selections := activeSelections discSelections originalDiscArchiveId
  let rows := rawIntervals archivedTitles selections
  let titles := archivedTitles.map fun title =>
    let row := coverageRow rows title
    { titleNumber := row.titleNumber, status := row.status, hasOverlap := row.hasOverlap }
  { discSelectionCount := selections.length
    mediaItemsWithSelections := (selections.map (·.mediaItemId)).eraseDups.length
    mainFeatureSelections := selections.countP (·.kind = .mainFeature)
    mappedTitles := titles.countP (·.status = .mapped)
    partiallyMappedTitles := titles.countP (·.status = .partiallyMapped)
    unmappedTitles := titles.countP (·.status = .unmapped)
    titles }

variable {titles : List ArchivedTitle} {title : ArchivedTitle} {selections : List DiscSelection}
  {selection : DiscSelection} {interval : ChapterInterval}

/-- A selection of a whole title. -/
def SelectsTitle (title : ArchivedTitle) (selection : DiscSelection) : Prop :=
  selection.kind = .dvdTitle title.number

/-- A selection of chapters that has a chapter of a title. -/
def SelectsChapter (title : ArchivedTitle) (selection : DiscSelection) (chapter : Int) : Prop :=
  (1 ≤ chapter ∧ chapter ≤ title.chapters) ∧ ∃ chapterStart chapterEnd,
    selection.kind = .dvdChapters title.number chapterStart chapterEnd ∧
      chapterStart ≤ chapter ∧ chapter ≤ chapterEnd

/-- A selection that has a chapter of a title, alone or with all others. -/
def HasChapter (title : ArchivedTitle) (selection : DiscSelection) (chapter : Int) : Prop :=
  (1 ≤ chapter ∧ chapter ≤ title.chapters) ∧ SelectsTitle title selection ∨
    SelectsChapter title selection chapter

theorem rawInterval_title (h : rawInterval title selection = some interval) :
    interval.titleNumber = title.number := by
  rw [rawInterval] at h
  split at h
  next => cases h
  next =>
    split at h
    next hsame =>
      cases h
      exact hsame
    next => cases h
  next =>
    split at h
    next hsame =>
      cases h
      exact hsame
    next => cases h

theorem hasChapter_iff {chapter : Int} : HasChapter title selection chapter ↔
    ∃ interval, rawInterval title selection = some interval ∧
      first interval ≤ chapter ∧ chapter ≤ last interval := by
  simp only [HasChapter, SelectsTitle, SelectsChapter, rawInterval]
  cases selection.kind with
  | mainFeature => simp
  | dvdTitle titleNumber =>
    by_cases hsame : titleNumber = title.number
    · subst hsame
      simp [first, last]
    · simp [hsame]
  | dvdChapters titleNumber chapterStart chapterEnd =>
    by_cases hsame : titleNumber = title.number
    · subst hsame
      simp [first, last]
      omega
    · simp [hsame]

theorem selectsTitle_iff : SelectsTitle title selection ↔
    ∃ interval, rawInterval title selection = some interval ∧ interval.isWholeTitle = true := by
  simp only [SelectsTitle, rawInterval]
  cases selection.kind with
  | mainFeature => simp
  | dvdTitle titleNumber =>
    by_cases hsame : titleNumber = title.number
    · simp [hsame]
    · simp [hsame]
  | dvdChapters titleNumber chapterStart chapterEnd =>
    by_cases hsame : titleNumber = title.number
    · simp [hsame]
    · simp [hsame]

/-- The rows of a title are the selections joined with it. -/
theorem ofTitle_rawIntervals (hdistinct : (titles.map (·.number)).Nodup) (h : title ∈ titles) :
    ofTitle title.number (rawIntervals titles selections) =
      selections.filterMap (rawInterval title) := by
  have hkept : ∀ other : ArchivedTitle, other.number = title.number →
      ofTitle title.number (selections.filterMap (rawInterval other)) =
        selections.filterMap (rawInterval other) := by
    intro other hsame
    apply List.filter_eq_self.2
    intro row hrow
    obtain ⟨selection, -, hraw⟩ := List.mem_filterMap.1 hrow
    exact decide_eq_true ((rawInterval_title hraw).trans hsame)
  have hdropped : ∀ others : List ArchivedTitle, title.number ∉ others.map (·.number) →
      ofTitle title.number (rawIntervals others selections) = [] := by
    intro others hnot
    apply List.filter_eq_nil_iff.2
    intro row hrow hsame
    obtain ⟨other, hother, hrow⟩ := List.mem_flatMap.1 hrow
    obtain ⟨selection, -, hraw⟩ := List.mem_filterMap.1 hrow
    apply hnot
    rw [← of_decide_eq_true hsame, rawInterval_title hraw]
    exact List.mem_map_of_mem hother
  obtain ⟨before, behind, rfl⟩ := List.append_of_mem h
  rw [List.map_append, List.map_cons, List.nodup_append, List.nodup_cons] at hdistinct
  obtain ⟨-, ⟨hbehind, -⟩, hapart⟩ := hdistinct
  have hbefore : title.number ∉ before.map (·.number) :=
    fun hin => hapart _ hin _ List.mem_cons_self rfl
  have hsplit : rawIntervals (before ++ title :: behind) selections =
      rawIntervals before selections ++
        (selections.filterMap (rawInterval title) ++ rawIntervals behind selections) := by
    rw [rawIntervals, List.flatMap_append, List.flatMap_cons]
    rfl
  have happend : ∀ a b : List ChapterInterval,
      ofTitle title.number (a ++ b) = ofTitle title.number a ++ ofTitle title.number b :=
    List.filter_append
  rw [hsplit, happend, happend, hdropped before hbefore, hdropped behind hbehind, hkept title rfl,
    List.nil_append, List.append_nil]

instance : Std.TransCmp compareChapterIntervals :=
  inferInstanceAs (Std.TransCmp (compareLex
    (compareOn fun interval : ChapterInterval => interval.intervalStart)
    (compareLex (compareOn fun interval : ChapterInterval => interval.intervalEnd)
      (compareOn fun interval : ChapterInterval => interval.selectionId))))

theorem orderedIntervals_perm (hdistinct : (titles.map (·.number)).Nodup) (h : title ∈ titles) :
    (orderedIntervals (rawIntervals titles selections) title.number).Perm
      (validIntervals (selections.filterMap (rawInterval title))) := by
  have hcomm : ofTitle title.number (validIntervals (rawIntervals titles selections)) =
      validIntervals (ofTitle title.number (rawIntervals titles selections)) := by
    rw [ofTitle, validIntervals, List.filter_comm]
    rfl
  rw [orderedIntervals, hcomm, ofTitle_rawIntervals hdistinct h]
  exact perm_sortBy ..

theorem ordered_orderedIntervals (hdistinct : (titles.map (·.number)).Nodup)
    (h : title ∈ titles) :
    Ordered (orderedIntervals (rawIntervals titles selections) title.number) := by
  constructor
  case nonempty =>
    intro row hrow
    have hvalid := (orderedIntervals_perm hdistinct h).mem_iff.1 hrow
    exact of_decide_eq_true (List.mem_filter.1 hvalid).2
  case ascending =>
    apply (ascending_sortBy _).imp
    intro a b hab
    simp only [compareChapterIntervals, compareLex, Ordering.isLE_then_iff_and, compareOn] at hab
    exact Std.isLE_compare.1 hab.1

theorem mem_covered_orderedIntervals {chapter : Int} (hdistinct : (titles.map (·.number)).Nodup)
    (h : title ∈ titles) :
    chapter ∈ covered (orderedIntervals (rawIntervals titles selections) title.number) ↔
      ∃ selection ∈ selections, HasChapter title selection chapter := by
  simp only [mem_covered, (orderedIntervals_perm hdistinct h).mem_iff, validIntervals,
    List.mem_filter, List.mem_filterMap, hasChapter_iff]
  constructor
  · intro hrow
    obtain ⟨row, ⟨⟨selection, hselection, hraw⟩, -⟩, hin⟩ := hrow
    exact ⟨selection, hselection, row, hraw, hin⟩
  · intro hselection
    obtain ⟨selection, hselection, row, hraw, hin⟩ := hselection
    have hvalid : row.intervalStart ≤ row.intervalEnd := hin.1.trans hin.2
    exact ⟨row, ⟨⟨selection, hselection, hraw⟩, decide_eq_true hvalid⟩, hin⟩

/-- Relations between different selections, in whatever order they are met. -/
theorem pairwise_selections {R : DiscSelection → DiscSelection → Prop}
    (hids : (selections.map (·.id)).Nodup) (hsymm : ∀ a b, R a b → R b a) :
    selections.Pairwise R ↔ ∀ a ∈ selections, ∀ b ∈ selections, a.id ≠ b.id → R a b := by
  have hne : selections.Pairwise fun a b => a.id ≠ b.id := List.pairwise_map.1 hids
  constructor
  · intro hpairwise a ha b hb hab
    have hboth : Std.Symm R := ⟨hsymm⟩
    apply hpairwise.forall ha hb
    intro hsame
    exact hab (congrArg _ hsame)
  · intro hall
    apply hne.imp_of_mem
    intro a b ha hb hab
    exact hall a ha b hb hab

theorem length_filter_le_one {rows : List ChapterInterval} :
    (rows.filter (·.isWholeTitle)).length ≤ 1 ↔
      rows.Pairwise fun a b => ¬(a.isWholeTitle = true ∧ b.isWholeTitle = true) := by
  induction rows with
  | nil => simp
  | cons row rows ih =>
    rw [List.pairwise_cons, ← ih]
    by_cases hwhole : row.isWholeTitle = true
    · rw [List.filter_cons_of_pos hwhole, List.length_cons]
      have hnone : rows.filter (·.isWholeTitle) = [] ↔
          ∀ other ∈ rows, ¬(row.isWholeTitle = true ∧ other.isWholeTitle = true) := by
        rw [List.filter_eq_nil_iff]
        simp only [hwhole, true_and]
      constructor
      · intro hle
        have hempty : rows.filter (·.isWholeTitle) = [] :=
          List.length_eq_zero_iff.1 (Nat.le_zero.1 (Nat.le_of_succ_le_succ hle))
        refine ⟨hnone.1 hempty, ?_⟩
        rw [hempty]
        exact Nat.zero_le 1
      · intro hboth
        rw [hnone.2 hboth.1]
        exact le_rfl
    · rw [List.filter_cons_of_neg hwhole]
      have hnone : ∀ other ∈ rows, ¬(row.isWholeTitle = true ∧ other.isWholeTitle = true) :=
        fun _ _ hboth => hwhole hboth.1
      exact (and_iff_right hnone).symm

/-- Two selections of a title that share a chapter or both select the whole title. -/
def Overlap (title : ArchivedTitle) (a b : DiscSelection) : Prop :=
  (∃ chapter, HasChapter title a chapter ∧ HasChapter title b chapter) ∨
    SelectsTitle title a ∧ SelectsTitle title b

theorem overlaps_orderedIntervals (hdistinct : (titles.map (·.number)).Nodup) (h : title ∈ titles)
    (hids : (selections.map (·.id)).Nodup) :
    overlaps (orderedIntervals (rawIntervals titles selections) title.number) = true ↔
      ∃ a ∈ selections, ∃ b ∈ selections, a.id ≠ b.id ∧
        ∃ chapter, HasChapter title a chapter ∧ HasChapter title b chapter := by
  have hrows : Ordered (orderedIntervals (rawIntervals titles selections) title.number) :=
    ordered_orderedIntervals hdistinct h
  have hperm : (orderedIntervals (rawIntervals titles selections) title.number).Perm
      (validIntervals (selections.filterMap (rawInterval title))) :=
    orderedIntervals_perm hdistinct h
  have hpairwise : (orderedIntervals (rawIntervals titles selections) title.number).Pairwise
      (fun a b => ∀ n, ¬((first a ≤ n ∧ n ≤ last a) ∧ first b ≤ n ∧ n ≤ last b)) ↔
      selections.Pairwise fun a b =>
        ∀ chapter, ¬(HasChapter title a chapter ∧ HasChapter title b chapter) := by
    rw [hperm.pairwise_iff fun {a b} hab n hn => hab n hn.symm, validIntervals,
      List.pairwise_filter, List.pairwise_filterMap]
    apply List.Pairwise.iff
    intro a b
    simp only [hasChapter_iff, decide_eq_true_eq]
    constructor
    · intro hnone chapter hboth
      obtain ⟨⟨row, hrow, hin⟩, other, hother, hin'⟩ := hboth
      have hvalid : row.intervalStart ≤ row.intervalEnd := hin.1.trans hin.2
      have hvalid' : other.intervalStart ≤ other.intervalEnd := hin'.1.trans hin'.2
      exact hnone row hrow other hother hvalid hvalid' chapter ⟨hin, hin'⟩
    · intro hnone row hrow other hother _ _ chapter hboth
      exact hnone chapter ⟨⟨row, hrow, hboth.1⟩, other, hother, hboth.2⟩
  rw [overlaps_iff hrows, hpairwise, pairwise_selections hids fun a b hab n hn => hab n hn.symm]
  simp only [not_forall, not_not, exists_prop]

theorem wholeTitles_overlap (hids : (selections.map (·.id)).Nodup) :
    1 < ((selections.filterMap (rawInterval title)).filter (·.isWholeTitle)).length ↔
      ∃ a ∈ selections, ∃ b ∈ selections, a.id ≠ b.id ∧
        SelectsTitle title a ∧ SelectsTitle title b := by
  have hpairwise : (selections.filterMap (rawInterval title)).Pairwise
      (fun a b => ¬(a.isWholeTitle = true ∧ b.isWholeTitle = true)) ↔
      selections.Pairwise fun a b => ¬(SelectsTitle title a ∧ SelectsTitle title b) := by
    rw [List.pairwise_filterMap]
    apply List.Pairwise.iff
    intro a b
    simp only [selectsTitle_iff]
    constructor
    · intro hnone hboth
      obtain ⟨⟨row, hrow, hwhole⟩, other, hother, hwhole'⟩ := hboth
      exact hnone row hrow other hother ⟨hwhole, hwhole'⟩
    · intro hnone row hrow other hother hboth
      exact hnone ⟨⟨row, hrow, hboth.1⟩, other, hother, hboth.2⟩
  rw [← not_le, length_filter_le_one, hpairwise,
    pairwise_selections hids fun a b hab hboth => hab hboth.symm]
  simp only [not_forall, not_not, exists_prop]

/-- What a title's coverage says of the selections. -/
structure TitleCoverage.Exact (selections : List DiscSelection) (title : ArchivedTitle)
    (coverage : TitleCoverage) : Prop where
  titleNumber : coverage.titleNumber = title.number
  mapped : coverage.status = .mapped ↔
    (∃ selection ∈ selections, SelectsTitle title selection) ∨
      0 < title.chapters ∧ ∀ chapter : Int, 1 ≤ chapter → chapter ≤ title.chapters →
        ∃ selection ∈ selections, SelectsChapter title selection chapter
  partiallyMapped : coverage.status = .partiallyMapped ↔ coverage.status ≠ .mapped ∧
    ∃ chapter, ∃ selection ∈ selections, HasChapter title selection chapter
  unmapped : coverage.status = .unmapped ↔ coverage.status ≠ .mapped ∧
    ¬∃ chapter, ∃ selection ∈ selections, HasChapter title selection chapter
  hasOverlap : coverage.hasOverlap = true ↔
    (∃ a ∈ selections, ∃ b ∈ selections, a.id ≠ b.id ∧
      ∃ chapter, HasChapter title a chapter ∧ HasChapter title b chapter) ∨
    ∃ a ∈ selections, ∃ b ∈ selections, a.id ≠ b.id ∧
      SelectsTitle title a ∧ SelectsTitle title b

section Title

variable {row : CoverageRow}

theorem coverageRow_whole (hdistinct : (titles.map (·.number)).Nodup) (h : title ∈ titles) :
    (coverageRow (rawIntervals titles selections) title).hasWholeTitle = true ↔
      ∃ selection ∈ selections, SelectsTitle title selection := by
  simp only [coverageRow, ofTitle_rawIntervals hdistinct h, List.any_eq_true, List.mem_filterMap,
    selectsTitle_iff]
  constructor
  · intro hrow
    obtain ⟨row, ⟨selection, hselection, hraw⟩, hwhole⟩ := hrow
    exact ⟨selection, hselection, row, hraw, hwhole⟩
  · intro hselection
    obtain ⟨selection, hselection, row, hraw, hwhole⟩ := hselection
    exact ⟨row, ⟨selection, hselection, hraw⟩, hwhole⟩

theorem coverageRow_covered (hdistinct : (titles.map (·.number)).Nodup) (h : title ∈ titles) :
    (coverageRow (rawIntervals titles selections) title).coveredChapters =
      (covered (orderedIntervals (rawIntervals titles selections) title.number)).card :=
  islandsTotal_eq_card (ordered_orderedIntervals hdistinct h)

theorem HasChapter.within {chapter : Int} (h : HasChapter title selection chapter) :
    1 ≤ chapter ∧ chapter ≤ title.chapters := by
  cases h with
  | inl h => exact h.1
  | inr h => exact h.1

/-- As many chapters are covered as there are exactly when every chapter is. -/
theorem coverageRow_all (hdistinct : (titles.map (·.number)).Nodup) (h : title ∈ titles) :
    (title.chapters : Int) ≤ (coverageRow (rawIntervals titles selections) title).coveredChapters ↔
      ∀ chapter : Int, 1 ≤ chapter → chapter ≤ title.chapters →
        ∃ selection ∈ selections, HasChapter title selection chapter := by
  have hsubset : covered (orderedIntervals (rawIntervals titles selections) title.number) ⊆
      Finset.Icc 1 (title.chapters : Int) := by
    intro chapter hchapter
    obtain ⟨selection, -, hhas⟩ := (mem_covered_orderedIntervals hdistinct h).1 hchapter
    exact Finset.mem_Icc.2 hhas.within
  have hcard : (Finset.Icc 1 (title.chapters : Int)).card = title.chapters := by
    rw [Int.card_Icc]
    omega
  rw [coverageRow_covered hdistinct h, Int.ofNat_le]
  constructor
  · intro hle chapter hfrom hto
    have hall := Finset.eq_of_subset_of_card_le hsubset (hcard.trans_le hle)
    apply (mem_covered_orderedIntervals hdistinct h).1
    rw [hall]
    exact Finset.mem_Icc.2 ⟨hfrom, hto⟩
  · intro hall
    rw [← hcard]
    apply Finset.card_le_card
    intro chapter hchapter
    obtain ⟨hfrom, hto⟩ := Finset.mem_Icc.1 hchapter
    exact (mem_covered_orderedIntervals hdistinct h).2 (hall chapter hfrom hto)

theorem coverageRow_some (hdistinct : (titles.map (·.number)).Nodup) (h : title ∈ titles) :
    0 < (coverageRow (rawIntervals titles selections) title).coveredChapters ↔
      ∃ chapter, ∃ selection ∈ selections, HasChapter title selection chapter := by
  rw [coverageRow_covered hdistinct h, Int.natCast_pos, Finset.card_pos]
  exact exists_congr fun chapter => mem_covered_orderedIntervals hdistinct h

theorem CoverageRow.mapped_iff : row.status = .mapped ↔
    row.hasWholeTitle = true ∨ 0 < row.chapters ∧ (row.chapters : Int) ≤ row.coveredChapters := by
  rw [CoverageRow.status]
  split
  next hmapped => exact iff_of_true rfl hmapped
  next hnot =>
    refine iff_of_false ?_ hnot
    split
    next => exact fun heq => nomatch heq
    next => exact fun heq => nomatch heq

theorem CoverageRow.partiallyMapped_iff : row.status = .partiallyMapped ↔
    row.status ≠ .mapped ∧ 0 < row.coveredChapters := by
  rw [CoverageRow.status]
  split
  next => exact iff_of_false (fun heq => nomatch heq) fun hboth => hboth.1 rfl
  next =>
    split
    next hsome => exact iff_of_true rfl ⟨(fun heq => nomatch heq), hsome⟩
    next hnone => exact iff_of_false (fun heq => nomatch heq) fun hboth => hnone hboth.2

theorem CoverageRow.unmapped_iff : row.status = .unmapped ↔
    row.status ≠ .mapped ∧ ¬0 < row.coveredChapters := by
  rw [CoverageRow.status]
  split
  next => exact iff_of_false (fun heq => nomatch heq) fun hboth => hboth.1 rfl
  next =>
    split
    next hsome => exact iff_of_false (fun heq => nomatch heq) fun hboth => hboth.2 hsome
    next hnone => exact iff_of_true rfl ⟨(fun heq => nomatch heq), hnone⟩

theorem coverageRow_exact (hdistinct : (titles.map (·.number)).Nodup) (h : title ∈ titles)
    (hids : (selections.map (·.id)).Nodup)
    (hrow : coverageRow (rawIntervals titles selections) title = row) :
    TitleCoverage.Exact selections title ⟨row.titleNumber, row.status, row.hasOverlap⟩ := by
  have hwhole : (coverageRow (rawIntervals titles selections) title).hasWholeTitle = true ↔
      ∃ selection ∈ selections, SelectsTitle title selection := coverageRow_whole hdistinct h
  have hall : (title.chapters : Int) ≤
        (coverageRow (rawIntervals titles selections) title).coveredChapters ↔
      ∀ chapter : Int, 1 ≤ chapter → chapter ≤ title.chapters →
        ∃ selection ∈ selections, HasChapter title selection chapter :=
    coverageRow_all hdistinct h
  have hsome : 0 < (coverageRow (rawIntervals titles selections) title).coveredChapters ↔
      ∃ chapter, ∃ selection ∈ selections, HasChapter title selection chapter :=
    coverageRow_some hdistinct h
  have hchapters : row.chapters = title.chapters := hrow ▸ rfl
  rw [hrow] at hwhole hall hsome
  constructor
  case titleNumber => exact hrow ▸ rfl
  case mapped =>
    show row.status = .mapped ↔ _
    rw [CoverageRow.mapped_iff, hwhole, hchapters, hall]
    by_cases hselected : ∃ selection ∈ selections, SelectsTitle title selection
    · exact iff_of_true (.inl hselected) (.inl hselected)
    · -- then only selections of chapters have any
      have hsame : ∀ chapter, (∃ selection ∈ selections, HasChapter title selection chapter) ↔
          ∃ selection ∈ selections, SelectsChapter title selection chapter := by
        intro chapter
        apply exists_congr
        intro selection
        apply and_congr_right
        intro hselection
        exact or_iff_right fun htitle => hselected ⟨selection, hselection, htitle.2⟩
      simp only [hsame]
  case partiallyMapped =>
    show row.status = .partiallyMapped ↔ row.status ≠ .mapped ∧ _
    rw [CoverageRow.partiallyMapped_iff, hsome]
  case unmapped =>
    show row.status = .unmapped ↔ row.status ≠ .mapped ∧ _
    rw [CoverageRow.unmapped_iff, hsome]
  case hasOverlap =>
    have hoverlap : row.hasOverlap =
        (overlaps (orderedIntervals (rawIntervals titles selections) title.number) ||
          decide (1 < ((ofTitle title.number (rawIntervals titles selections)).filter
            (·.isWholeTitle)).length)) := hrow ▸ rfl
    show row.hasOverlap = true ↔ _
    rw [hoverlap, Bool.or_eq_true, decide_eq_true_eq, overlaps_orderedIntervals hdistinct h hids,
      ofTitle_rawIntervals hdistinct h, wholeTitles_overlap hids]

end Title

/-- The coverage of an archive says of every title what the selections in the catalog say. -/
theorem getCatalogReviewCoverage_exact {discSelections : List DiscSelection} {archiveId : String}
    (hdistinct : (titles.map (·.number)).Nodup) (hids : (discSelections.map (·.id)).Nodup) :
    List.Forall₂ (fun title coverage =>
        TitleCoverage.Exact (activeSelections discSelections archiveId) title coverage)
      titles (getCatalogReviewCoverage titles discSelections archiveId).titles := by
  have hactive : ((activeSelections discSelections archiveId).map (·.id)).Nodup :=
    hids.sublist (List.filter_sublist.map _)
  have hall : ∀ title ∈ titles, TitleCoverage.Exact (activeSelections discSelections archiveId)
      title (let row := coverageRow (rawIntervals titles
          (activeSelections discSelections archiveId)) title
        ⟨row.titleNumber, row.status, row.hasOverlap⟩) :=
    fun title htitle => coverageRow_exact hdistinct htitle hactive rfl
  show List.Forall₂ _ titles (titles.map _)
  rw [List.forall₂_map_right_iff, List.forall₂_same]
  exact hall

/-- Two ranges that meet, one that is outside its title, and a title without chapters. -/
def sampleSelections : List DiscSelection :=
  [⟨"a", "archive", "film", .dvdChapters 1 3 9, true⟩,
    ⟨"b", "archive", "film", .dvdChapters 1 1 3, true⟩,
    ⟨"c", "archive", "extra", .dvdChapters 2 7 9, true⟩,
    ⟨"d", "archive", "extra", .dvdTitle 3, true⟩,
    ⟨"e", "archive", "extra", .dvdTitle 3, true⟩,
    ⟨"f", "archive", "extra", .dvdTitle 2, false⟩]

theorem sampleSelections_exact :
    (getCatalogReviewCoverage [⟨1, 4⟩, ⟨2, 6⟩, ⟨3, 0⟩] sampleSelections "archive").titles =
      [⟨1, .mapped, true⟩, ⟨2, .unmapped, false⟩, ⟨3, .mapped, true⟩] ∧
    List.Forall₂ (fun title coverage =>
        TitleCoverage.Exact (activeSelections sampleSelections "archive") title coverage)
      [⟨1, 4⟩, ⟨2, 6⟩, ⟨3, 0⟩]
      (getCatalogReviewCoverage [⟨1, 4⟩, ⟨2, 6⟩, ⟨3, 0⟩] sampleSelections "archive").titles :=
  ⟨by decide +kernel, getCatalogReviewCoverage_exact (by decide) (by decide)⟩

end RipDvd
