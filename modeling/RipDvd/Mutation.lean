import RipDvd.Commit

namespace RipDvd
set_option autoImplicit true

/-- The reservation, the header and the payload of a journal are all there. -/
def JournalFile.Complete (file : JournalFile) : Prop :=
  file.metadata ≠ none ∧ file.originalBytes ≠ none

instance (file : JournalFile) : Decidable file.Complete := inferInstanceAs (Decidable (_ ∧ _))

/-- The journal is still being written and nothing else has been touched. -/
def Journaling (w₀ w : World) : Prop :=
  ∃ file, ¬file.Complete ∧ w = { w₀ with disk := { w₀.disk with journal := some file } }

variable {sha256 : Hashed → Digest} {metadataLength : DvdRecoveryJournalMetadata → Nat}
  {o : DvdRecoveryBatchOptions} {admitted : AdmittedBatch} {units : ProtectedUnits}
  {able : Prop} {I : World → Prop} {w₀ w : World}

/-- The world once the journal of a batch is complete. -/
def World.journal (w : World) (file : JournalFile) : World :=
  { w with disk := { w.disk with journal := some file } }

theorem Recovering.unjournaled (h : Recovering sha256 o w₀ admitted units) :
    w₀.disk.journal = none :=
  (Authoritative.of_committed h.begun.committed).2.1

theorem reserveJournal_safe (h : Recovering sha256 o w₀ admitted units)
    (hjournaling : ∀ t, Journaling w₀ t → I t) (hstart : I w₀)
    (hcomplete : fitsJournalHeader metadataLength (undoJournal sha256 o admitted units).metadata →
      I (w₀.journal (undoFile sha256 o admitted units))) :
    (reserveJournal metadataLength (undoJournal sha256 o admitted units).metadata units.before).Safe
      Eq I (Ends (fitsJournalHeader metadataLength (undoJournal sha256 o admitted units).metadata)
        fun t => fitsJournalHeader metadataLength (undoJournal sha256 o admitted units).metadata ∧
          t = w₀.journal (undoFile sha256 o admitted units)) w₀ := by
  rw [reserveJournal]
  have hpart (file : JournalFile) (hn : ¬file.Complete) : I (w₀.journal file) :=
    hjournaling _ ⟨file, hn, rfl⟩
  split
  · next hbad =>
    exact .finish hstart fun hfits => hbad.elim (absurd hfits)
      (Nat.not_lt.2 h.unitsOf.1.capacity)
  · next hgood =>
    have hfits := not_not.1 (not_or.1 hgood).1
    refine createExclusively_bind hstart (fun _ => ?_) fun hthere e => ?_
    · refine .modify_bind (hpart ⟨false, none, none⟩ fun hc => hc.1 rfl) (.modify_bind
        (hpart ⟨true, none, none⟩ fun hc => hc.1 rfl) (.modify_only
        (hpart ⟨true, some _, none⟩ fun hc => hc.2 rfl) (hcomplete hfits) ⟨hfits, rfl⟩))
    · simp [h.unjournaled] at hthere

/-- Part of the way through the unit writes: every unit before `index` holds its new content. -/
def WrittenTo (units : ProtectedUnits) (startLba : Nat) (old : Bytes) (index : Nat)
    (cells : Bytes) : Prop :=
  Torn units.unitBytes old (UnitsOf.written old units) cells ∧ ∀ i < index,
    slice cells ((UnitsOf.first startLba units + i) * units.unitBytes) units.unitBytes =
      slice (UnitsOf.written old units) ((UnitsOf.first startLba units + i) * units.unitBytes)
        units.unitBytes

theorem UnitsOf.write (h : UnitsOf old startLba units) (hi : index < units.count)
    (hw : WrittenTo units startLba old index cells) :
    WrittenTo units startLba old (index + 1)
      (patch cells (units.startByte + index * units.unitBytes) (units.unit units.after index)) := by
  obtain ⟨ht, hbefore⟩ := hw
  have hlen := h.length_unit_after hi
  have hfits := h.unit_fits hi
  rw [← ht.length] at hfits
  have hstart : units.startByte + index * units.unitBytes =
      (UnitsOf.first startLba units + index) * units.unitBytes := by
    rw [Nat.add_mul, ← h.startByte_eq]
  rw [hstart]
  refine ⟨ht.write (.inr (h.unit_after hi)) hlen hfits, fun i hlt => ?_⟩
  by_cases he : i = index
  · subst he
    have hself := slice_patch_self
      (hlen ▸ hfits : _ + (units.unit units.after i).length ≤ cells.length)
    rw [hlen] at hself
    rw [hself, h.unit_after hi]
  · have hne : UnitsOf.first startLba units + i ≠ UnitsOf.first startLba units + index := by omega
    have hapart := units_apart units.unitBytes hne
    rw [slice_patch_outside (by rw [hlen]; exact hfits) (by rw [hlen]; exact hapart)]
    exact hbefore i (by omega)

/-- Once every unit is written the image is the new one. -/
theorem UnitsOf.written_all (h : UnitsOf old startLba units)
    (hw : WrittenTo units startLba old units.count cells) : cells = UnitsOf.written old units := by
  refine eq_of_units h.unit_pos fun u => ?_
  by_cases hu : ∃ i < units.count, u = UnitsOf.first startLba units + i
  · obtain ⟨i, hi, rfl⟩ := hu
    exact hw.2 i hi
  · refine (hw.1.unit_eq u).elim (fun he => he.trans ?_) id
    exact (h.written_outside fun i hi he => hu ⟨i, hi, he⟩).symm

theorem writeUnits_safe (h : UnitsOf w.disk.image.bytes startLba units)
    (hI : ∀ cells mtimeNs, Torn units.unitBytes w.disk.image.bytes
      (UnitsOf.written w.disk.image.bytes units) cells → I (w.setImage cells mtimeNs)) :
    (writeUnits o units).Safe Eq I (fun result t => result = .ok () ∧ ∃ mtimeNs,
      t = w.setImage (UnitsOf.written w.disk.image.bytes units) mtimeNs) w := by
  refine (Program.Safe.each (J := fun rest t => ∃ index ≤ units.count,
      rest = List.range' index (units.count - index) ∧ ∃ cells mtimeNs,
        t = w.setImage cells mtimeNs ∧ WrittenTo units startLba w.disk.image.bytes index cells)
    ?_ ?_ ?_).weaken (fun _ h => h) ?_
  · rintro _ ⟨index, -, -, cells, mtimeNs, rfl, hw⟩
    exact hI cells mtimeNs hw.1
  · rintro index rest _ ⟨index', hle, hrest, cells, mtimeNs, rfl, hw⟩
    obtain ⟨n, hn⟩ : ∃ n, units.count - index' = n + 1 := by
      refine ⟨units.count - index' - 1, ?_⟩
      have hl := congrArg List.length hrest
      simp only [List.length_cons, List.length_range'] at hl
      omega
    rw [hn, List.range'_succ, List.cons.injEq] at hrest
    obtain ⟨rfl, rfl⟩ := hrest
    have hnext := h.write (by omega) hw
    refine .modify_only (hI _ _ hw.1) (hI _ _ hnext.1) ⟨rfl, index + 1, by omega, ?_, _, _, rfl,
      hnext⟩
    congr 1
    omega
  · exact ⟨0, Nat.zero_le _, by rw [List.range_eq_range', Nat.sub_zero], w.disk.image.bytes,
      w.disk.image.mtimeNs, rfl, Torn.old .., fun i hi => absurd hi (Nat.not_lt_zero i)⟩
  · rintro _ _ ⟨rfl, index, hle, hrest, cells, mtimeNs, rfl, hw⟩
    have hdone : index = units.count := by
      have hl := congrArg List.length hrest
      simp only [List.length_nil, List.length_range'] at hl
      omega
    subst hdone
    exact ⟨rfl, mtimeNs, by rw [h.written_all hw]⟩

theorem verifyWrittenImage_ok (h : Recovering sha256 o w₀ admitted units) (mtimeNs : Nat) :
    verifyWrittenImage admitted.current units
        (w₀.setImage (UnitsOf.written w₀.disk.image.bytes units) mtimeNs) =
      .ok ⟨w₀.disk.image.filesystemIdentity, mtimeNs⟩ := by
  obtain ⟨hu, -, -, hversion, hlen⟩ := h.unitsOf
  simp only [verifyWrittenImage, bind_ok, rejectIf_ok, pure_ok, not_or, ne_eq, not_not,
    World.setImage, hu.length_written, hlen]
  have hfits : units.startByte + units.after.length ≤ w₀.disk.image.bytes.length := by
    rw [hu.after_length]
    exact hu.fits
  exact ⟨(), if_neg (not_not.2 (slice_patch_self hfits)), (),
    ⟨trivial, (ImageFile.version_eq.1 hversion).1⟩, rfl⟩

theorem AtBase.start (h : Recovering sha256 o w₀ admitted units) : AtBase w₀ w₀ :=
  ⟨rfl, h.unjournaled, rfl, rfl, rfl, .refl _⟩

theorem Journaled.start
    (hnone : w₀.disk.manifests (admitted.current.manifest.revision + 1) = none)
    (fits : fitsJournalHeader metadataLength (undoJournal sha256 o admitted units).metadata) :
    Journaled sha256 metadataLength o admitted units none w₀
      (w₀.journal (undoFile sha256 o admitted units)) := by
  refine ⟨fits, rfl, Torn.old .., rfl, fun _ hm => (nomatch hm), ?_, rfl, rfl, rfl⟩
  funext revision
  simp only [World.journal, Disk.setManifest]
  split
  · next he => rw [he, hnone]
  · rfl

/-- The journal, write and sync steps: the batch goes on with the version its last write left. -/
theorem mutateImage_bind (h : Recovering sha256 o w₀ admitted units)
    (hable : able →
      fitsJournalHeader metadataLength (undoJournal sha256 o admitted units).metadata)
    (hjournaling : ∀ t, Journaling w₀ t → I t)
    (hI : ∀ t, Interrupted sha256 metadataLength o admitted units w₀ t → I t)
    (hnone : w₀.disk.manifests (admitted.current.manifest.revision + 1) = none)
    {f : BatchMutation → BatchProgram α}
    (ok : ∀ mtimeNs,
      fitsJournalHeader metadataLength (undoJournal sha256 o admitted units).metadata →
      (f (recoveredMutation sha256 o admitted units
        ⟨w₀.disk.image.filesystemIdentity, mtimeNs⟩)).Safe Eq I (Ends able Q)
        ((w₀.journal (undoFile sha256 o admitted units)).setImage
          (UnitsOf.written w₀.disk.image.bytes units) mtimeNs)) :
    (mutateImage sha256 metadataLength o admitted units >>= f).Safe Eq I (Ends able Q) w₀ := by
  obtain ⟨hu, -⟩ := h.unitsOf
  have hmay {t : World} (ht : t.catalog = w₀.catalog) : assertMayMutate o true t = .ok () :=
    (assertMayMutate_congr ht true).trans h.begun.mayMutate
  have hclaimed {t : World} (ht : t.catalog = w₀.catalog) : assertClaimed o t = .ok () :=
    assertClaimed_of_mayMutate (hmay ht)
  have hstart := hI _ (.base (.start h))
  simp only [mutateImage, bind_assoc, pure_bind]
  refine batchStep_bind hstart (fun _ => hmay rfl) (reserveJournal_safe h hjournaling hstart
    fun fits => hI _ (.journaled (.start hnone fits))) ?_ ?_ fun e t he ha => he (hable ha)
  · rintro _ _ ⟨-, rfl⟩ -
    exact hclaimed rfl
  rintro - _ - ⟨fits, rfl⟩
  have hj : Journaled sha256 metadataLength o admitted units none w₀
      (w₀.journal (undoFile sha256 o admitted units)) := .start hnone fits
  refine batchStep_bind (hI _ (.journaled hj)) (fun _ => hmay rfl) (writeUnits_safe hu
    fun cells mtimeNs ht => hI _ (.journaled (hj.setImage ht mtimeNs))) ?_ ?_
    fun e t he => nomatch he.1
  · rintro _ _ ⟨-, mtimeNs, rfl⟩ -
    exact hclaimed rfl
  rintro - _ ht ⟨-, mtimeNs, rfl⟩
  refine batchStep_bind (M := fun result t => result =
      .ok ⟨w₀.disk.image.filesystemIdentity, mtimeNs⟩ ∧
      t = (w₀.journal (undoFile sha256 o admitted units)).setImage
        (UnitsOf.written w₀.disk.image.bytes units) mtimeNs) ht (fun _ => hmay rfl)
    (.read_only ht ⟨verifyWrittenImage_ok h mtimeNs, rfl⟩) ?_ ?_ fun e t he => nomatch he.1
  · rintro _ _ ⟨-, rfl⟩ -
    exact hclaimed rfl
  rintro _ _ - ⟨hr, rfl⟩
  obtain rfl := Except.ok.inj hr
  exact ok mtimeNs fits

end RipDvd
