import RipDvd.Doubles
import RipDvd.SourceRanges
import RipDvd.Verification

namespace RipDvd
set_option autoImplicit true

/-- Where a band begins; where it ends is where the next one begins. -/
def bandStart (acceptedEndLbaExclusive bandIndex : Nat) : Nat :=
  nearestDouble (acceptedEndLbaExclusive * bandIndex) / DVD_SOURCE_SAMPLE_BAND_COUNT

def bandEnd (acceptedEndLbaExclusive bandIndex : Nat) : Nat :=
  bandStart acceptedEndLbaExclusive (bandIndex + 1)

/-- The middle of a window. -/
def midpointLba (startLba : Int) : Int := startLba + (DVD_SOURCE_SAMPLE_SECTOR_COUNT / 2 : Nat)

/-- The loop over the references, with the bands and addresses that it met. -/
def validateSampleReferences (acceptedEndLbaExclusive : Nat) :
    List Nat → List Nat → List DvdSourceSampleReference → Except String Unit
  | _, _, [] => .ok ()
  | bands, addresses, sample :: samples => do
    rejectIf (DVD_SOURCE_SAMPLE_BAND_COUNT ≤ sample.bandIndex ∨ sample.bandIndex ∈ bands ∨
        sample.startLba ∈ addresses ∨ maxSafeInteger < sample.startLba ∨
        sample.sectorCount ≠ DVD_SOURCE_SAMPLE_SECTOR_COUNT ∨
        acceptedEndLbaExclusive < sample.startLba + sample.sectorCount ∨
        midpointLba sample.startLba < bandStart acceptedEndLbaExclusive sample.bandIndex ∨
        bandEnd acceptedEndLbaExclusive sample.bandIndex ≤ midpointLba sample.startLba)
      "DVD source sample reference is invalid"
    validateSampleReferences acceptedEndLbaExclusive (sample.bandIndex :: bands)
      (sample.startLba :: addresses) samples

/-- The digest is a parameter; it does not read `manifestDigest`. -/
def validateDvdSourceSampleManifest
    (createDvdSourceSampleManifestDigest : DvdSourceSampleManifest → Digest)
    (manifest : DvdSourceSampleManifest) : Except String DvdSourceSampleManifest := do
  rejectIf (manifest.policyVersion ≠ DVD_DISC_VERIFICATION_POLICY_VERSION ∨
      manifest.byteRepresentation ≠ DVD_SOURCE_SAMPLE_BYTE_REPRESENTATION ∨
      manifest.sourceMetadataFingerprint.length = 0 ∨
      512 < manifest.sourceMetadataFingerprint.length ∨
      maxSafeInteger < manifest.acceptedEndLbaExclusive ∨ manifest.acceptedEndLbaExclusive = 0 ∨
      maxSafeInteger < manifest.checkpointRevision ∨ manifest.checkpointRevision = 0 ∨
      DVD_SOURCE_SAMPLE_BAND_COUNT < manifest.samples.length)
    "DVD source sample manifest is invalid"
  validateSampleReferences manifest.acceptedEndLbaExclusive [] [] manifest.samples
  rejectIf (createDvdSourceSampleManifestDigest manifest ≠ manifest.manifestDigest)
    "DVD source sample manifest digest does not match its contents"
  return manifest

def overlapsUnrecoveredSource (startLba : Int) (sectorCount : Nat)
    (ranges : List UnrecoveredSourceRange) : Bool :=
  ranges.any fun range => (range.startLba : Int) < startLba + sectorCount &&
    startLba < range.startLba + range.sectorCount

/-- The first start whose window is inside the extent and lies in the band. -/
def minimumStart (acceptedEndLbaExclusive bandIndex : Nat) : Int :=
  max 0 (bandStart acceptedEndLbaExclusive bandIndex -
    (DVD_SOURCE_SAMPLE_SECTOR_COUNT / 2 : Nat) + 1)

def maximumStart (acceptedEndLbaExclusive bandIndex : Nat) : Int :=
  min ((acceptedEndLbaExclusive : Int) - DVD_SOURCE_SAMPLE_SECTOR_COUNT)
    (bandEnd acceptedEndLbaExclusive bandIndex - (DVD_SOURCE_SAMPLE_SECTOR_COUNT / 2 : Nat) - 1)

/-- The window nearest the middle of the band. -/
def targetStart (acceptedEndLbaExclusive bandIndex : Nat) : Int :=
  max (minimumStart acceptedEndLbaExclusive bandIndex)
    (min (maximumStart acceptedEndLbaExclusive bandIndex)
      ((nearestDouble (bandStart acceptedEndLbaExclusive bandIndex +
        bandEnd acceptedEndLbaExclusive bandIndex) / 2 : Nat) -
        (DVD_SOURCE_SAMPLE_SECTOR_COUNT / 2 : Nat)))

/-- The starts at one distance from the target. -/
def startsAt (target : Int) (distance : Nat) : List Int :=
  if distance = 0 then [target] else [target - distance, target + distance]

def dvdSourceSampleCandidates (acceptedEndLbaExclusive bandIndex : Nat)
    (unrecoveredSourceRanges : List UnrecoveredSourceRange) : List Int :=
  if maxSafeInteger < acceptedEndLbaExclusive ∨
      acceptedEndLbaExclusive < DVD_SOURCE_SAMPLE_SECTOR_COUNT ∨
      DVD_SOURCE_SAMPLE_BAND_COUNT ≤ bandIndex then []
  else
    let minimum := minimumStart acceptedEndLbaExclusive bandIndex
    let maximum := maximumStart acceptedEndLbaExclusive bandIndex
    if maximum < minimum then []
    else
      let target := targetStart acceptedEndLbaExclusive bandIndex
      let maximumDistance := (max (target - minimum) (maximum - target)).toNat
      (List.range (maximumDistance + 1)).flatMap fun distance =>
        (startsAt target distance).filter fun startLba =>
          ¬(startLba < minimum ∨ maximum < startLba ∨
            overlapsUnrecoveredSource startLba DVD_SOURCE_SAMPLE_SECTOR_COUNT
              unrecoveredSourceRanges)

variable {limit band : Nat} {ranges : List UnrecoveredSourceRange} {s target : Int}

theorem mem_startsAt {distance : Nat} :
    s ∈ startsAt target distance ↔ (s - target).natAbs = distance := by
  rw [startsAt]
  split
  next h =>
    rw [List.mem_singleton]
    omega
  next h =>
    rw [List.mem_cons, List.mem_singleton]
    omega

theorem pairwise_startsAt (target : Int) (distance : Nat) :
    (startsAt target distance).Pairwise (· ≠ ·) := by
  rw [startsAt]
  split
  next => exact List.pairwise_singleton _ _
  next h =>
    apply List.pairwise_pair.2
    omega

/-- The candidates are the windows in the clipped band that meet no unrecovered sector. -/
theorem mem_dvdSourceSampleCandidates (hsafe : limit ≤ maxSafeInteger)
    (hlimit : DVD_SOURCE_SAMPLE_SECTOR_COUNT ≤ limit)
    (hband : band < DVD_SOURCE_SAMPLE_BAND_COUNT) :
    s ∈ dvdSourceSampleCandidates limit band ranges ↔
      minimumStart limit band ≤ s ∧ s ≤ maximumStart limit band ∧
        overlapsUnrecoveredSource s DVD_SOURCE_SAMPLE_SECTOR_COUNT ranges = false := by
  have hinput : ¬(maxSafeInteger < limit ∨ limit < DVD_SOURCE_SAMPLE_SECTOR_COUNT ∨
      DVD_SOURCE_SAMPLE_BAND_COUNT ≤ band) := by omega
  rw [dvdSourceSampleCandidates, if_neg hinput]
  dsimp only
  split
  next hempty =>
    constructor
    · exact fun h => nomatch h
    · intro h
      omega
  next hsome =>
    simp only [List.mem_flatMap, List.mem_range, List.mem_filter, mem_startsAt, decide_eq_true_eq,
      not_or, Int.not_lt, Bool.not_eq_true]
    constructor
    · intro h
      obtain ⟨_, -, -, hclipped⟩ := h
      exact hclipped
    · intro h
      have hbetween : minimumStart limit band ≤ targetStart limit band ∧
          targetStart limit band ≤ maximumStart limit band := by
        rw [targetStart]
        omega
      exact ⟨_, by omega, rfl, h⟩

/-- The walk goes outward and meets no window twice. -/
theorem dvdSourceSampleCandidates_outward : (dvdSourceSampleCandidates limit band ranges).Pairwise
    fun a b => (a - targetStart limit band).natAbs ≤ (b - targetStart limit band).natAbs ∧
      a ≠ b := by
  rw [dvdSourceSampleCandidates]
  split
  · exact .nil
  · dsimp only
    split
    · exact .nil
    · apply List.pairwise_flatMap.2
      constructor
      · intro distance _
        apply List.Pairwise.filter
        apply (pairwise_startsAt _ distance).imp_of_mem
        intro a b ha hb hne
        rw [mem_startsAt] at ha hb
        exact ⟨by omega, hne⟩
      · apply List.pairwise_lt_range.imp
        intro d e hde a ha b hb
        have ha := mem_startsAt.1 (List.mem_filter.1 ha).1
        have hb := mem_startsAt.1 (List.mem_filter.1 hb).1
        refine ⟨by omega, ?_⟩
        intro heq
        subst heq
        omega

/-- A window of the extent whose middle lies in a band and that meets no unrecovered sector. The
band is that of the exact quotients. -/
structure AdmissibleWindow (limit band : Nat) (ranges : List UnrecoveredSourceRange) (s : Int) :
    Prop where
  within : 0 ≤ s ∧ s + DVD_SOURCE_SAMPLE_SECTOR_COUNT ≤ limit
  banded : (limit * band / DVD_SOURCE_SAMPLE_BAND_COUNT : Nat) ≤ midpointLba s ∧
    midpointLba s < (limit * (band + 1) / DVD_SOURCE_SAMPLE_BAND_COUNT : Nat)
  recovered : ∀ range ∈ ranges, ∀ sector : Nat, range.startLba ≤ sector →
    sector < range.startLba + range.sectorCount →
      ¬(s ≤ sector ∧ (sector : Int) < s + DVD_SOURCE_SAMPLE_SECTOR_COUNT)

/-- References that take at most one candidate of each band. -/
structure ChosenSamples (limit : Nat) (ranges : List UnrecoveredSourceRange)
    (samples : List DvdSourceSampleReference) : Prop where
  bands : samples.Pairwise fun a b => a.bandIndex ≠ b.bandIndex
  band : ∀ sample ∈ samples, sample.bandIndex < DVD_SOURCE_SAMPLE_BAND_COUNT
  candidate : ∀ sample ∈ samples,
    (sample.startLba : Int) ∈ dvdSourceSampleCandidates limit sample.bandIndex ranges
  sectors : ∀ sample ∈ samples, sample.sectorCount = DVD_SOURCE_SAMPLE_SECTOR_COUNT

/-- The candidates of a band are its admissible windows, nearest first, and manifests that choose
from the candidates pass the checks of their references. -/
structure SampleWindows (limit band : Nat) (ranges : List UnrecoveredSourceRange) : Prop where
  exact : ∀ s, s ∈ dvdSourceSampleCandidates limit band ranges ↔
    AdmissibleWindow limit band ranges s
  nodup : (dvdSourceSampleCandidates limit band ranges).Nodup
  nearest : (dvdSourceSampleCandidates limit band ranges).Pairwise fun a b =>
    (a - targetStart limit band).natAbs ≤ (b - targetStart limit band).natAbs
  apart : ∀ other < DVD_SOURCE_SAMPLE_BAND_COUNT, other ≠ band →
    ∀ s ∈ dvdSourceSampleCandidates limit band ranges,
      s ∉ dvdSourceSampleCandidates limit other ranges
  accepted : ∀ samples, ChosenSamples limit ranges samples →
    validateSampleReferences limit [] [] samples = .ok ()

theorem overlapsUnrecoveredSource_eq_false (hranges : ∀ range ∈ ranges, 0 < range.sectorCount)
    {sectorCount : Nat} (hpositive : 0 < sectorCount) :
    overlapsUnrecoveredSource s sectorCount ranges = false ↔
      ∀ range ∈ ranges, ∀ sector : Nat, range.startLba ≤ sector →
        sector < range.startLba + range.sectorCount →
          ¬(s ≤ sector ∧ (sector : Int) < s + sectorCount) := by
  simp only [overlapsUnrecoveredSource, List.any_eq_false, Bool.and_eq_true, decide_eq_true_eq]
  constructor
  · intro h range hrange sector hfrom hto hin
    exact h range hrange ⟨by omega, by omega⟩
  · intro h range hrange hmeets
    have hlength := hranges range hrange
    -- the first sector that both have
    by_cases hlater : s ≤ range.startLba
    · exact h range hrange range.startLba le_rfl (by omega) ⟨hlater, hmeets.1⟩
    · exact h range hrange s.toNat (by omega) (by omega) ⟨by omega, by omega⟩

/-- The products are exact for an extent of at most `2 ^ 49` sectors. -/
theorem bandStart_exact (hexact : limit * DVD_SOURCE_SAMPLE_BAND_COUNT ≤ 2 ^ 53)
    (hband : band ≤ DVD_SOURCE_SAMPLE_BAND_COUNT) :
    bandStart limit band = limit * band / DVD_SOURCE_SAMPLE_BAND_COUNT := by
  rw [bandStart, nearestDouble_exact ((Nat.mul_le_mul_left limit hband).trans hexact)]

theorem bandEnd_exact (hexact : limit * DVD_SOURCE_SAMPLE_BAND_COUNT ≤ 2 ^ 53)
    (hband : band < DVD_SOURCE_SAMPLE_BAND_COUNT) :
    bandEnd limit band = limit * (band + 1) / DVD_SOURCE_SAMPLE_BAND_COUNT :=
  bandStart_exact hexact hband

theorem safe_of_exact (hexact : limit * DVD_SOURCE_SAMPLE_BAND_COUNT ≤ 2 ^ 53) :
    limit ≤ maxSafeInteger := by
  simp only [DVD_SOURCE_SAMPLE_BAND_COUNT] at hexact
  simp only [maxSafeInteger]
  omega

/-- Every band of an extent of a window or more has a sector of its own. -/
theorem band_nonempty (hlimit : DVD_SOURCE_SAMPLE_SECTOR_COUNT ≤ limit) (band : Nat) :
    limit * band / DVD_SOURCE_SAMPLE_BAND_COUNT <
      limit * (band + 1) / DVD_SOURCE_SAMPLE_BAND_COUNT := by
  simp only [DVD_SOURCE_SAMPLE_SECTOR_COUNT] at hlimit
  simp only [DVD_SOURCE_SAMPLE_BAND_COUNT, Nat.mul_add, Nat.mul_one]
  omega

/-- The candidates are the admissible windows, but for the one whose middle is where the band
begins. -/
theorem candidate_iff (hexact : limit * DVD_SOURCE_SAMPLE_BAND_COUNT ≤ 2 ^ 53)
    (hlimit : DVD_SOURCE_SAMPLE_SECTOR_COUNT ≤ limit)
    (hband : band < DVD_SOURCE_SAMPLE_BAND_COUNT)
    (hranges : ∀ range ∈ ranges, 0 < range.sectorCount) :
    s ∈ dvdSourceSampleCandidates limit band ranges ↔
      AdmissibleWindow limit band ranges s ∧ midpointLba s ≠ bandStart limit band := by
  have hoverlap := overlapsUnrecoveredSource_eq_false (s := s) hranges
    (by decide : 0 < DVD_SOURCE_SAMPLE_SECTOR_COUNT)
  rw [mem_dvdSourceSampleCandidates (safe_of_exact hexact) hlimit hband, hoverlap]
  simp only [minimumStart, maximumStart, bandStart_exact hexact hband.le,
    bandEnd_exact hexact hband]
  constructor
  · intro h
    obtain ⟨hfrom, hto, hrecovered⟩ := h
    refine ⟨⟨by omega, ?_, hrecovered⟩, ?_⟩
    · rw [midpointLba]
      omega
    · rw [midpointLba]
      omega
  · intro h
    obtain ⟨⟨hwithin, hbanded, hrecovered⟩, hnot⟩ := h
    rw [midpointLba] at hbanded hnot
    exact ⟨by omega, by omega, hrecovered⟩

theorem AdmissibleWindow.band_unique {other : Nat} (h : AdmissibleWindow limit band ranges s)
    (h' : AdmissibleWindow limit other ranges s) : band = other := by
  have hbanded := h.banded
  have hother := h'.banded
  have hmono : ∀ {a b : Nat}, a ≤ b → limit * a / DVD_SOURCE_SAMPLE_BAND_COUNT ≤
      limit * b / DVD_SOURCE_SAMPLE_BAND_COUNT := fun h =>
    Nat.div_le_div_right (Nat.mul_le_mul_left limit h)
  by_contra hne
  cases Nat.lt_or_gt_of_ne hne with
  | inl hlt =>
    have hbelow := hmono (by omega : band + 1 ≤ other)
    omega
  | inr hgt =>
    have hbelow := hmono (by omega : other + 1 ≤ band)
    omega

/-- The loop accepts references of new bands and addresses. -/
theorem validateSampleReferences_ok {samples : List DvdSourceSampleReference} {bands : List Nat}
    {addresses : List Nat} (hexact : limit * DVD_SOURCE_SAMPLE_BAND_COUNT ≤ 2 ^ 53)
    (hlimit : DVD_SOURCE_SAMPLE_SECTOR_COUNT ≤ limit)
    (hranges : ∀ range ∈ ranges, 0 < range.sectorCount)
    (h : ChosenSamples limit ranges samples)
    (hbands : ∀ sample ∈ samples, sample.bandIndex ∉ bands)
    (haddresses : ∀ sample ∈ samples, sample.startLba ∉ addresses) :
    validateSampleReferences limit bands addresses samples = .ok () := by
  induction samples generalizing bands addresses with
  | nil => rfl
  | cons sample samples ih =>
    obtain ⟨hfirst, hrest⟩ := List.pairwise_cons.1 h.bands
    have hband := h.band sample List.mem_cons_self
    have hwindow := ((candidate_iff hexact hlimit hband hranges).1
      (h.candidate sample List.mem_cons_self)).1
    have hwithin := hwindow.within
    have hbanded := hwindow.banded
    have hcount := h.sectors sample List.mem_cons_self
    have htail : ChosenSamples limit ranges samples :=
      ⟨hrest, fun other ho => h.band other (List.mem_cons_of_mem _ ho),
        fun other ho => h.candidate other (List.mem_cons_of_mem _ ho),
        fun other ho => h.sectors other (List.mem_cons_of_mem _ ho)⟩
    have hsafe := safe_of_exact hexact
    rw [validateSampleReferences, bind_ok, bandStart_exact hexact hband.le,
      bandEnd_exact hexact hband]
    refine ⟨(), rejectIf_ok.2 ?_, ?_⟩
    · have hnewBand := hbands sample List.mem_cons_self
      have hnewAddress := haddresses sample List.mem_cons_self
      rw [hcount]
      simp only [not_or]
      exact ⟨by omega, hnewBand, hnewAddress, by omega, fun hne => hne rfl, by omega, by omega,
        by omega⟩
    · apply ih htail
      · intro other hother hin
        cases List.mem_cons.1 hin with
        | inl heq => exact hfirst other hother heq.symm
        | inr hold => exact hbands other (List.mem_cons_of_mem _ hother) hold
      · intro other hother hin
        cases List.mem_cons.1 hin with
        | inl heq =>
          have hotherBand := h.band other (List.mem_cons_of_mem _ hother)
          have hotherWindow := ((candidate_iff hexact hlimit hotherBand hranges).1
            (h.candidate other (List.mem_cons_of_mem _ hother))).1
          rw [heq] at hotherWindow
          exact hfirst other hother (hwindow.band_unique hotherWindow)
        | inr hold => exact haddresses other (List.mem_cons_of_mem _ hother) hold

/-- The window whose middle is where a band begins is admissible. -/
def FirstWindowAdmissible (limit band : Nat) (ranges : List UnrecoveredSourceRange) : Prop :=
  DVD_SOURCE_SAMPLE_SECTOR_COUNT / 2 ≤ bandStart limit band ∧
    bandStart limit band + DVD_SOURCE_SAMPLE_SECTOR_COUNT / 2 ≤ limit ∧
    overlapsUnrecoveredSource
      (bandStart limit band - (DVD_SOURCE_SAMPLE_SECTOR_COUNT / 2 : Nat))
      DVD_SOURCE_SAMPLE_SECTOR_COUNT ranges = false

/-- All is as it should be of a band unless the window in the middle of whose sectors the band
begins is admissible: that window is left out. -/
theorem sampleWindows_iff (hexact : limit * DVD_SOURCE_SAMPLE_BAND_COUNT ≤ 2 ^ 53)
    (hlimit : DVD_SOURCE_SAMPLE_SECTOR_COUNT ≤ limit)
    (hband : band < DVD_SOURCE_SAMPLE_BAND_COUNT)
    (hranges : ∀ range ∈ ranges, 0 < range.sectorCount) :
    SampleWindows limit band ranges ↔ ¬FirstWindowAdmissible limit band ranges := by
  have houtward : (dvdSourceSampleCandidates limit band ranges).Pairwise fun a b =>
      (a - targetStart limit band).natAbs ≤ (b - targetStart limit band).natAbs ∧ a ≠ b :=
    dvdSourceSampleCandidates_outward
  have hown := band_nonempty hlimit band
  have hstarts := bandStart_exact hexact hband.le
  constructor
  · intro h hfirst
    obtain ⟨hbefore, hbehind, hclear⟩ := hfirst
    rw [overlapsUnrecoveredSource_eq_false hranges (by decide)] at hclear
    have hadmissible : AdmissibleWindow limit band ranges
        (bandStart limit band - (DVD_SOURCE_SAMPLE_SECTOR_COUNT / 2 : Nat)) := by
      constructor
      case within =>
        simp only [DVD_SOURCE_SAMPLE_SECTOR_COUNT] at hbefore hbehind ⊢
        omega
      case banded =>
        rw [midpointLba]
        omega
      case recovered => exact hclear
    have hmiddle := ((candidate_iff hexact hlimit hband hranges).1 ((h.exact _).2 hadmissible)).2
    apply hmiddle
    rw [midpointLba]
    omega
  · intro hnot
    constructor
    case exact =>
      intro s
      rw [candidate_iff hexact hlimit hband hranges]
      constructor
      · exact fun h => h.1
      · intro h
        refine ⟨h, fun hmiddle => hnot ?_⟩
        have hwithin := h.within
        rw [midpointLba] at hmiddle
        have hstart : (bandStart limit band - (DVD_SOURCE_SAMPLE_SECTOR_COUNT / 2 : Nat) : Int) =
            s := by omega
        refine ⟨by omega, ?_, ?_⟩
        · simp only [DVD_SOURCE_SAMPLE_SECTOR_COUNT] at hwithin hmiddle ⊢
          omega
        · rw [hstart, overlapsUnrecoveredSource_eq_false hranges (by decide)]
          exact h.recovered
    case nodup => exact houtward.imp fun h => h.2
    case nearest => exact houtward.imp fun h => h.1
    case apart =>
      intro other hother hne s hs hin
      have hwindow := ((candidate_iff hexact hlimit hband hranges).1 hs).1
      have hotherWindow := ((candidate_iff hexact hlimit hother hranges).1 hin).1
      exact hne (hotherWindow.band_unique hwindow)
    case accepted =>
      intro samples hsamples
      exact validateSampleReferences_ok hexact hlimit hranges hsamples (fun _ _ h => nomatch h)
        fun _ _ h => nomatch h

/-- Band 0 begins with the extent, and no window has its middle there. -/
theorem sampleWindows_firstBand : SampleWindows 512 0 [] := by
  have hnone : ∀ range ∈ ([] : List UnrecoveredSourceRange), 0 < range.sectorCount :=
    fun _ hr => nomatch hr
  apply (sampleWindows_iff (by decide) (by decide) (by decide) hnone).2
  intro h
  exact absurd h.1 (by decide)

/-- Band 1 of 512 sectors begins at sector 32; the window from sector 16 on is not offered. -/
theorem sampleWindows_secondBand : ¬SampleWindows 512 1 [] := by
  intro h
  have hadmissible : AdmissibleWindow 512 1 [] 16 :=
    ⟨by decide, by decide, fun _ hr => nomatch hr⟩
  have hoffered := (h.exact 16).2 hadmissible
  rw [mem_dvdSourceSampleCandidates (by decide) (by decide) (by decide)] at hoffered
  exact absurd hoffered.1 (by decide)

end RipDvd
